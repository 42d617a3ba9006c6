import Mathlib.Data.List.Basic
import Mathlib.Data.List.Nodup
import Mathlib.Tactic.Common

/-!
# Exclusive cursors over an append-only log

A cursor is an entry of a log that has been consumed up to and including it.  A
page lists the entries directly after a cursor, in order.  A consumer that moves
its cursor only along pages it was shown skips nothing, however the log grows.
-/

namespace Gearwit
namespace CursorLog

variable {α : Type*}

/-- The page lists the entries directly after the cursor, in order. -/
def Page (log : List α) (cursor : α) (page : List α) : Prop :=
  ∃ before after, log = before ++ cursor :: (page ++ after)

/-- The first entry stands before the second one. -/
def Before (log : List α) (first second : α) : Prop :=
  ∃ before between after, log = before ++ first :: (between ++ second :: after)

/-- What follows the cursor in the log; nothing when it is not there. -/
def following [DecidableEq α] (log : List α) (cursor : α) : List α :=
  (log.dropWhile fun entry => entry != cursor).tail

/-- Cursors accepted one after the other from the first to the last, with every
entry their pages listed up to them. -/
inductive Consumed (log : List α) (first : α) : α → List α → Prop
  | start : Consumed log first first []
  | accept {last cursor : α} {shown between : List α}
      (consumed : Consumed log first last shown)
      (page : Page log last (between ++ [cursor])) :
      Consumed log first cursor (shown ++ (between ++ [cursor]))

/-! ## Pages -/

/-- A leading part of what follows the cursor is a page. -/
theorem page_of_following [DecidableEq α] {log page : List α} {cursor : α}
    (leading : page <+: following log cursor) (nonempty : page ≠ []) :
    Page log cursor page := by
  obtain ⟨after, whole⟩ := leading
  have split := List.takeWhile_append_dropWhile (p := fun entry => entry != cursor) (l := log)
  cases rest : log.dropWhile fun entry => entry != cursor with
  | nil =>
      simp [following, rest, nonempty] at whole
  | cons entry entries =>
      have named : entry = cursor := by
        have head := List.head?_dropWhile_not (fun entry => entry != cursor) log
        simpa [rest] using head
      rw [following, rest, List.tail_cons] at whole
      rw [rest, named, ← whole] at split
      exact ⟨_, after, split.symm⟩

/-- A leading part of a page is a page. -/
theorem Page.of_append {log first second : List α} {cursor : α}
    (page : Page log cursor (first ++ second)) : Page log cursor first := by
  obtain ⟨before, after, same⟩ := page
  exact ⟨before, second ++ after, by rw [same, List.append_assoc]⟩

/-- A page stays a page when the log grows. -/
theorem Page.grow {log page : List α} {cursor : α} (listed : Page log cursor page)
    (more : List α) : Page (log ++ more) cursor page := by
  obtain ⟨before, after, same⟩ := listed
  exact ⟨before, after ++ more, by simp [same]⟩

/-- The cursor stands before the entries of its pages. -/
theorem Page.before {log between after : List α} {cursor entry : α}
    (page : Page log cursor (between ++ entry :: after)) : Before log cursor entry := by
  obtain ⟨before, rest, same⟩ := page
  exact ⟨before, between, after ++ rest, by simp [same]⟩

/-- An entry stands at one place of a log without repeats. -/
theorem split_unique {before before' after after' : List α} {entry : α}
    (distinct : (before ++ entry :: after).Nodup)
    (same : before ++ entry :: after = before' ++ entry :: after') :
    before = before' ∧ after = after' := by
  have absent : entry ∉ before := fun member =>
    (List.nodup_append.1 distinct).2.2 entry member entry List.mem_cons_self rfl
  have single : entry ∉ after := (List.nodup_cons.1 (List.nodup_append.1 distinct).2.1).1
  obtain ⟨left, _, right⟩ := (List.append_cons_inj_of_notMem absent single).1 same
  exact ⟨left, right⟩

/-- Pages that meet at a cursor are one page. -/
theorem Page.join {log between page : List α} {first cursor : α} (distinct : log.Nodup)
    (earlier : Page log first (between ++ [cursor])) (later : Page log cursor page) :
    Page log first (between ++ [cursor] ++ page) := by
  obtain ⟨before, after, same⟩ := earlier
  obtain ⟨before', after', same'⟩ := later
  have whole : log = (before ++ first :: between) ++ cursor :: after := by simp [same]
  rw [whole] at distinct same'
  obtain ⟨_, rfl⟩ := split_unique distinct same'
  exact ⟨before, after', by simp [whole]⟩

/-! ## Order -/

/-- Entries of a log without repeats stand in one order. -/
theorem Before.trans {log : List α} {first second third : α} (distinct : log.Nodup)
    (earlier : Before log first second) (later : Before log second third) :
    Before log first third := by
  obtain ⟨before, between, after, same⟩ := earlier
  obtain ⟨before', between', after', same'⟩ := later
  have whole : log = (before ++ first :: between) ++ second :: after := by simp [same]
  rw [whole] at distinct same'
  obtain ⟨_, rfl⟩ := split_unique distinct same'
  exact ⟨before, between ++ second :: between', after', by simp [whole]⟩

/-- What stands after the cursor and not past the end of its page is on the page. -/
theorem Page.mem_of_between {log between : List α} {first cursor entry : α}
    (distinct : log.Nodup) (page : Page log first (between ++ [cursor]))
    (later : Before log first entry) (within : entry = cursor ∨ Before log entry cursor) :
    entry ∈ between ++ [cursor] := by
  obtain ⟨before, after, same⟩ := page
  obtain ⟨before', between', after', same'⟩ := later
  have distinct' := distinct
  rw [same] at distinct same'
  obtain ⟨_, rest⟩ := split_unique distinct same'
  have member : entry ∈ (between ++ [cursor]) ++ after := by
    rw [rest]
    exact List.mem_append_right _ List.mem_cons_self
  rcases List.mem_append.1 member with listed | past
  · exact listed
  · exfalso
    rcases within with rfl | sooner
    · simp only [List.append_assoc, List.singleton_append] at distinct
      have tail := (List.nodup_cons.1 (List.nodup_append.1 distinct).2.1).2
      have last := (List.nodup_cons.1 (List.nodup_append.1 tail).2.1).1
      exact last past
    · obtain ⟨left, right, split⟩ := List.append_of_mem past
      obtain ⟨before'', between'', after'', same''⟩ := sooner
      have whole : log = (before ++ first :: (between ++ cursor :: left)) ++ entry :: right := by
        rw [same, split]
        simp
      rw [whole] at distinct' same''
      obtain ⟨_, rest⟩ := split_unique distinct' same''
      have twice : cursor ∈ right := by
        rw [rest]
        exact List.mem_append_right _ List.mem_cons_self
      exact (List.nodup_append.1 distinct').2.2 cursor (by simp) cursor
        (List.mem_cons_of_mem _ twice) rfl

/-! ## Consumption -/

/-- What was consumed is one page up to the last cursor. -/
theorem Consumed.page {log shown : List α} {first last : α} (distinct : log.Nodup)
    (consumed : Consumed log first last shown) :
    (last = first ∧ shown = []) ∨
      ∃ between, shown = between ++ [last] ∧ Page log first shown := by
  induction consumed with
  | start => exact Or.inl ⟨rfl, rfl⟩
  | @accept last cursor shown between consumed page inductionHypothesis =>
      refine Or.inr ⟨shown ++ between, by simp, ?_⟩
      rcases inductionHypothesis with ⟨rfl, rfl⟩ | ⟨earlier, rfl, listed⟩
      · exact page
      · exact listed.join distinct page

/-- Everything between the first cursor and the last one was shown. -/
theorem Consumed.shown_of_between {log shown : List α} {first last entry : α}
    (distinct : log.Nodup) (consumed : Consumed log first last shown)
    (later : Before log first entry) (within : entry = last ∨ Before log entry last)
    (moved : shown ≠ []) : entry ∈ shown := by
  rcases consumed.page distinct with ⟨_, blank⟩ | ⟨between, rfl, page⟩
  · exact absurd blank moved
  · exact page.mem_of_between distinct later within

/-- Consumption goes on when the log grows. -/
theorem Consumed.grow {log shown : List α} {first last : α}
    (consumed : Consumed log first last shown) (more : List α) :
    Consumed (log ++ more) first last shown := by
  induction consumed with
  | start => exact .start
  | accept _ page inductionHypothesis => exact .accept inductionHypothesis (page.grow more)

end CursorLog
end Gearwit
