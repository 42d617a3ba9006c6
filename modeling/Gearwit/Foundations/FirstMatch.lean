import Mathlib.Data.List.Basic
import Mathlib.Tactic.Common

/-!
# First matching row

A vector searched from the front and updated in place at its first match.
-/

namespace Gearwit

variable {α β : Type*}

/-- Update the first row that passes the test. -/
def modifyFirst (test : α → Bool) (update : α → α) : List α → List α
  | [] => []
  | row :: rest =>
      if test row then update row :: rest else row :: modifyFirst test update rest

/-- Nothing happens to a list without a match. -/
theorem modifyFirst_of_find?_none
    {test : α → Bool} {update : α → α} {list : List α}
    (absent : list.find? test = none) :
    modifyFirst test update list = list := by
  induction list with
  | nil => rfl
  | cons row rest inductionHypothesis =>
      cases tested : test row with
      | true => simp [List.find?, tested] at absent
      | false =>
          simp only [List.find?, tested] at absent
          simp [modifyFirst, tested, inductionHypothesis absent]

/-- The list around its first match. -/
theorem modifyFirst_of_find?_some
    {test : α → Bool} {list : List α} {found : α}
    (first : list.find? test = some found) :
    ∃ before after, list = before ++ found :: after ∧
      (∀ row ∈ before, test row = false) ∧
      ∀ update, modifyFirst test update list = before ++ update found :: after := by
  induction list with
  | nil => cases first
  | cons row rest inductionHypothesis =>
      cases tested : test row with
      | true =>
          simp only [List.find?, tested, Option.some.injEq] at first
          subst first
          exact ⟨[], rest, rfl, by simp, fun update => by simp [modifyFirst, tested]⟩
      | false =>
          simp only [List.find?, tested] at first
          obtain ⟨before, after, split, untested, updated⟩ := inductionHypothesis first
          refine ⟨row :: before, after, by rw [split]; rfl, ?_, ?_⟩
          · intro other present
            rcases List.mem_cons.1 present with rfl | later
            · exact tested
            · exact untested other later
          · intro update
            simp [modifyFirst, tested, updated update]

/-- A projection the update keeps is kept along the list. -/
theorem map_modifyFirst
    (test : α → Bool) (update : α → α) (project : α → β)
    (list : List α)
    (kept : ∀ row, list.find? test = some row → project (update row) = project row) :
    (modifyFirst test update list).map project = list.map project := by
  cases first : list.find? test with
  | none => rw [modifyFirst_of_find?_none first]
  | some found =>
      obtain ⟨before, after, split, _, updated⟩ := modifyFirst_of_find?_some first
      rw [updated update, split]
      simp [kept found first]

/-- A row of the updated list is the updated match or an old row. -/
theorem mem_modifyFirst
    {test : α → Bool} {update : α → α} {list : List α} {row : α}
    (present : row ∈ modifyFirst test update list) :
    row ∈ list ∨ ∃ found, list.find? test = some found ∧ row = update found := by
  cases first : list.find? test with
  | none =>
      rw [modifyFirst_of_find?_none first] at present
      exact .inl present
  | some found =>
      obtain ⟨before, after, split, _, updated⟩ := modifyFirst_of_find?_some first
      rw [updated update] at present
      rw [split]
      simp only [List.mem_append, List.mem_cons] at present ⊢
      rcases present with earlier | rfl | later
      · exact .inl (.inl earlier)
      · exact .inr ⟨found, rfl, rfl⟩
      · exact .inl (.inr (.inr later))

/-- Looking for the same rows after an update that keeps their test finds the
updated match. -/
theorem find?_modifyFirst_same
    (test : α → Bool) (update : α → α) (list : List α)
    (kept : ∀ row, test row = true → test (update row) = true) :
    (modifyFirst test update list).find? test = (list.find? test).map update := by
  cases first : list.find? test with
  | none =>
      rw [modifyFirst_of_find?_none first, first]
      rfl
  | some found =>
      obtain ⟨before, after, _, untested, updated⟩ := modifyFirst_of_find?_some first
      have matched := List.find?_some first
      rw [updated update, List.find?_append]
      have skipped : before.find? test = none := by
        rw [List.find?_eq_none]
        intro row present
        simp [untested row present]
      simp [skipped, kept found matched]

/-- Looking for other rows is unaffected. -/
theorem find?_modifyFirst_other
    (test : α → Bool) (update : α → α) (probe : α → Bool) (list : List α)
    (unprobed : ∀ row, test row = true → probe row = false ∧ probe (update row) = false) :
    (modifyFirst test update list).find? probe = list.find? probe := by
  cases first : list.find? test with
  | none => rw [modifyFirst_of_find?_none first]
  | some found =>
      obtain ⟨before, after, split, _, updated⟩ := modifyFirst_of_find?_some first
      have matched := List.find?_some first
      rw [updated update, split]
      simp [List.find?_append, unprobed found matched]

end Gearwit
