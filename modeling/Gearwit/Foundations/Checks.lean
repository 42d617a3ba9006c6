import Mathlib.Data.List.Basic
import Mathlib.Tactic.Common

/-!
# Checked passes over a list

A pass runs a fallible check on every row in order and stops at the first
refusal.  It succeeds exactly when every row passes its check.
-/

namespace Gearwit

/-- Run a check on every row, stopping at the first refusal. -/
def checkAll {ε α : Type*} (check : α → Except ε Unit) : List α → Except ε Unit
  | [] => .ok ()
  | row :: rest =>
      match check row with
      | .error refusal => .error refusal
      | .ok () => checkAll check rest

/-- A pass succeeds exactly when every row passes. -/
theorem checkAll_eq_ok_iff {ε α : Type*}
    (check : α → Except ε Unit) (list : List α) :
    checkAll check list = .ok () ↔ ∀ row ∈ list, check row = .ok () := by
  induction list with
  | nil => simp [checkAll]
  | cons row rest inductionHypothesis =>
      cases outcome : check row with
      | error refusal => simp [checkAll, outcome]
      | ok value => simp [checkAll, outcome, inductionHypothesis]

/-- Checks made in order, stopping at the first refusal. -/
def allOf {ε : Type*} (checks : List (Except ε Unit)) : Except ε Unit :=
  checkAll (fun check => check) checks

/-- A sequence of checks succeeds exactly when each of them does. -/
theorem allOf_eq_ok_iff {ε : Type*} (checks : List (Except ε Unit)) :
    allOf checks = .ok () ↔ ∀ check ∈ checks, check = .ok () :=
  checkAll_eq_ok_iff _ checks

/-- One check: the refusal unless the condition holds. -/
def require {ε : Type*} (condition : Bool) (refusal : ε) : Except ε Unit :=
  if condition then .ok () else .error refusal

@[simp] theorem require_eq_ok_iff {ε : Type*} (condition : Bool) (refusal : ε) :
    require condition refusal = .ok () ↔ condition = true := by
  cases condition <;> simp [require]

/-- The value of an outcome that is one. -/
theorem exists_of_isOk {ε α : Type*} {outcome : Except ε α}
    (accepted : outcome.isOk = true) : ∃ value, outcome = .ok value := by
  cases outcome with
  | ok value => exact ⟨value, rfl⟩
  | error refusal => cases accepted

end Gearwit
