import Mathlib.Data.Fintype.Card
import Mathlib.Data.Finset.Max
import Mathlib.Data.List.Induction
import Mathlib.Data.List.Nodup
import Mathlib.Logic.Relation
import Mathlib.Tactic.Common

/-!
# Append-only logs under prerequisites

An entry of a log carries a number and a key.  Entries are appended one by one, numbered
from one, at most one for a key, and only behind the keys theirs requires.  Such a log lists
a part of the keys that is closed downwards, in an order in which nothing precedes what it
rests on, and it can be continued until every key has its entry.
-/

namespace Gearwit
namespace EvidenceLog

variable {ε κ : Type*} (key : ε → κ) (number : ε → Nat) (requires : κ → List κ)

/-- The entry may stand next on the log. -/
structure Admits (log : List ε) (entry : ε) : Prop where
  numbered : number entry = log.length + 1
  fresh : key entry ∉ log.map key
  ready : ∀ required ∈ requires (key entry), required ∈ log.map key

/-- Every entry of the log could stand next behind those before it. -/
def Ordered (log : List ε) : Prop :=
  ∀ before entry after, log = before ++ entry :: after →
    Admits key number requires before entry

/-- A key rests on another one that it requires, directly or through others. -/
def RestsOn : κ → κ → Prop :=
  Relation.TransGen fun later earlier => earlier ∈ requires later

variable {key number requires}

/-! ## Growth -/

/-- The empty log is ordered. -/
theorem ordered_nil : Ordered key number requires [] := by
  intro before entry after split
  simp at split

/-- A log grows by exactly the entries it admits. -/
theorem ordered_concat {log : List ε} {entry : ε} :
    Ordered key number requires (log ++ [entry]) ↔
      Ordered key number requires log ∧ Admits key number requires log entry := by
  constructor
  · intro ordered
    refine ⟨fun before earlier after split => ?_, ordered log entry [] rfl⟩
    exact ordered before earlier (after ++ [entry]) (by rw [split]; simp)
  · rintro ⟨ordered, admits⟩ before earlier after split
    rcases List.eq_nil_or_concat after with rfl | ⟨rest, last, rfl⟩
    · obtain ⟨rfl, same⟩ := List.append_inj' split rfl
      obtain rfl : entry = earlier := by simpa using same
      exact admits
    · have shorter : log ++ [entry] = (before ++ earlier :: rest) ++ [last] := by
        rw [split]
        simp
      exact ordered before earlier rest (List.append_inj' shorter rfl).1

/-- The first entries of an ordered log are ordered. -/
theorem Ordered.of_append {first second : List ε}
    (ordered : Ordered key number requires (first ++ second)) :
    Ordered key number requires first := by
  intro before entry after split
  exact ordered before entry (after ++ second) (by rw [split]; simp)

/-! ## What an ordered log lists -/

/-- No key has two entries. -/
theorem Ordered.nodup {log : List ε} (ordered : Ordered key number requires log) :
    (log.map key).Nodup := by
  induction log using List.reverseRecOn with
  | nil => simp
  | append_singleton log entry inductionHypothesis =>
      obtain ⟨earlier, admits⟩ := ordered_concat.1 ordered
      rw [List.map_append, List.nodup_append]
      refine ⟨inductionHypothesis earlier, by simp, ?_⟩
      intro known member last single same
      rw [List.map_singleton, List.mem_singleton] at single
      exact admits.fresh (by rw [← single, ← same]; exact member)

/-- A log is no longer than the keys are many. -/
theorem Ordered.length_le [Fintype κ] {log : List ε}
    (ordered : Ordered key number requires log) : log.length ≤ Fintype.card κ := by
  have bounded := ordered.nodup.length_le_card
  rwa [List.length_map] at bounded

/-- What an entry requires has its entry before, with a smaller number. -/
theorem Ordered.required {log : List ε} (ordered : Ordered key number requires log)
    {entry : ε} (member : entry ∈ log) {required : κ}
    (demanded : required ∈ requires (key entry)) :
    ∃ cause ∈ log, key cause = required ∧ number cause < number entry := by
  obtain ⟨before, after, split⟩ := List.append_of_mem member
  have admits := ordered before entry after split
  obtain ⟨cause, present, same⟩ := List.mem_map.1 (admits.ready required demanded)
  obtain ⟨front, back, split'⟩ := List.append_of_mem present
  have placed := ordered front cause (back ++ entry :: after) (by rw [split, split']; simp)
  have longer : before.length = front.length + (back.length + 1) := by
    rw [split', List.length_append, List.length_cons]
  refine ⟨cause, by rw [split]; exact List.mem_append_left _ present, same, ?_⟩
  rw [placed.numbered, admits.numbered]
  omega

/-- What an entry rests on has its entry before, with a smaller number. -/
theorem Ordered.behind {log : List ε} (ordered : Ordered key number requires log)
    {later earlier : κ} (rests : RestsOn requires later earlier) {entry : ε}
    (member : entry ∈ log) (keyed : key entry = later) :
    ∃ cause ∈ log, key cause = earlier ∧ number cause < number entry := by
  induction rests using Relation.TransGen.head_induction_on generalizing entry with
  | single demanded =>
      rw [← keyed] at demanded
      exact ordered.required member demanded
  | head demanded _ inductionHypothesis =>
      rw [← keyed] at demanded
      obtain ⟨between, present, same, sooner⟩ := ordered.required member demanded
      obtain ⟨cause, listed, named, earliest⟩ := inductionHypothesis present same
      exact ⟨cause, listed, named, earliest.trans sooner⟩

/-! ## Completion -/

section Completion

variable [Fintype κ] [DecidableEq κ] (make : Nat → κ → ε) {rank : κ → Nat}

/-- Some entry may stand next as long as a key is missing. -/
theorem continues {log : List ε}
    (keyed : ∀ count key', key (make count key') = key')
    (numbered : ∀ count key', number (make count key') = count + 1)
    (lower : ∀ key', ∀ required ∈ requires key', rank required < rank key')
    {absent : κ} (missing : absent ∉ log.map key) :
    ∃ next, Admits key number requires log (make log.length next) := by
  obtain ⟨next, member, least⟩ := Finset.exists_min_image
    (Finset.univ.filter fun key' => key' ∉ log.map key) rank ⟨absent, by simpa using missing⟩
  refine ⟨next, numbered _ _, ?_, ?_⟩
  · rw [keyed]
    simpa using member
  · rw [keyed]
    intro required demanded
    by_contra never
    have bounded := least required (by simpa using never)
    have below := lower next required demanded
    omega

/-- A log can be continued until every key has its entry. -/
theorem Ordered.completes {log : List ε} (ordered : Ordered key number requires log)
    (keyed : ∀ count key', key (make count key') = key')
    (numbered : ∀ count key', number (make count key') = count + 1)
    (lower : ∀ key', ∀ required ∈ requires key', rank required < rank key') :
    ∃ more, Ordered key number requires (log ++ more) ∧
      ∀ key', key' ∈ (log ++ more).map key := by
  -- The induction is on the number of keys that have no entry yet.
  generalize room : Fintype.card κ - log.length = missing
  induction missing generalizing log with
  | zero =>
      refine ⟨[], by rwa [List.append_nil], fun absent => ?_⟩
      rw [List.append_nil]
      by_contra never
      obtain ⟨next, admits⟩ := continues make keyed numbered lower never
      have longer := (ordered_concat.2 ⟨ordered, admits⟩).length_le
      rw [List.length_append, List.length_singleton] at longer
      omega
  | succ missing inductionHypothesis =>
      by_cases complete : ∀ key', key' ∈ log.map key
      · exact ⟨[], by rwa [List.append_nil], by rwa [List.append_nil]⟩
      · obtain ⟨absent, never⟩ := not_forall.1 complete
        obtain ⟨next, admits⟩ := continues make keyed numbered lower never
        obtain ⟨more, grown, every⟩ := inductionHypothesis (ordered_concat.2 ⟨ordered, admits⟩)
          (by rw [List.length_append, List.length_singleton]; omega)
        refine ⟨make log.length next :: more, ?_, ?_⟩
        · rwa [List.append_assoc, List.singleton_append] at grown
        · rwa [List.append_assoc, List.singleton_append] at every

/-- A log that holds every key is as long as the keys are many. -/
theorem Ordered.length_of_complete {log : List ε} (ordered : Ordered key number requires log)
    (every : ∀ key', key' ∈ log.map key) : log.length = Fintype.card κ := by
  rw [← List.length_map key, ← List.toFinset_card_of_nodup ordered.nodup]
  congr 1
  ext key'
  simpa using every key'

end Completion

end EvidenceLog
end Gearwit
