import Mathlib.Data.List.Basic
import Mathlib.Tactic.Common

/-!
# Frames on a byte stream

A sender offers frames to a stream one after the other, and the stream accepts a first
part of each.  A frame of which a proper part was accepted is torn.  As long as nothing
is accepted after a torn frame, the stream is a concatenation of whole frames, followed
by at most one part of a frame.
-/

namespace Gearwit

/-- One frame offered to a stream and how much of it was accepted. -/
structure FrameOffer (α : Type*) where
  frame : List α
  accepted : Nat

namespace FrameOffer

variable {α : Type*}

/-- What the stream accepted. -/
def taken (offer : FrameOffer α) : List α := offer.frame.take offer.accepted

/-- A proper part of the frame was accepted. -/
def Torn (offer : FrameOffer α) : Prop :=
  0 < offer.accepted ∧ offer.accepted < offer.frame.length

instance (offer : FrameOffer α) : Decidable offer.Torn :=
  inferInstanceAs (Decidable (_ ∧ _))

/-- A frame of which nothing was accepted, or everything, is not torn. -/
theorem taken_of_not_torn {offer : FrameOffer α} (intact : ¬ offer.Torn) :
    offer.taken = [] ∨ offer.taken = offer.frame := by
  rcases Nat.eq_zero_or_pos offer.accepted with none | some
  · exact Or.inl (by simp [taken, none])
  · exact Or.inr (List.take_of_length_le (Nat.le_of_not_lt fun part => intact ⟨some, part⟩))

end FrameOffer

namespace FrameStream

variable {α : Type*}

/-- The stream that offers made, newest offer first. -/
def stream : List (FrameOffer α) → List α
  | [] => []
  | offer :: older => stream older ++ offer.taken

@[simp] theorem stream_nil : stream ([] : List (FrameOffer α)) = [] := rfl

@[simp] theorem stream_cons (offer : FrameOffer α) (older : List (FrameOffer α)) :
    stream (offer :: older) = stream older ++ offer.taken := rfl

/-- An offer was torn. -/
def Torn (offers : List (FrameOffer α)) : Prop := ∃ offer ∈ offers, offer.Torn

instance (offers : List (FrameOffer α)) : Decidable (Torn offers) :=
  inferInstanceAs (Decidable (∃ offer ∈ offers, offer.Torn))

@[simp] theorem not_torn_nil : ¬ Torn ([] : List (FrameOffer α)) := by
  rintro ⟨offer, member, _⟩
  cases member

/-- A stream is torn by its newest offer or by an older one. -/
theorem torn_cons {offer : FrameOffer α} {older : List (FrameOffer α)} :
    Torn (offer :: older) ↔ offer.Torn ∨ Torn older := by
  simp [Torn]

/-- Nothing was accepted after a torn frame. -/
def Unbroken : List (FrameOffer α) → Prop
  | [] => True
  | offer :: older => (Torn older → offer.taken = []) ∧ Unbroken older

/-- An offer made while no frame is torn keeps the stream unbroken. -/
theorem Unbroken.offer {older : List (FrameOffer α)} (unbroken : Unbroken older)
    (intact : ¬ Torn older) (offer : FrameOffer α) : Unbroken (offer :: older) :=
  ⟨fun torn => absurd torn intact, unbroken⟩

/-- After a torn frame every later offer is in vain. -/
theorem Unbroken.later {newer older : List (FrameOffer α)} {offer late : FrameOffer α}
    (unbroken : Unbroken (newer ++ offer :: older)) (torn : offer.Torn)
    (member : late ∈ newer) : late.taken = [] := by
  induction newer with
  | nil => cases member
  | cons head rest inductionHypothesis =>
      obtain ⟨vain, tail⟩ := unbroken
      rcases List.mem_cons.1 member with rfl | deeper
      · exact vain ⟨offer, by simp, torn⟩
      · exact inductionHypothesis tail deeper

/-- Without a torn frame the stream is a concatenation of whole frames. -/
private theorem stream_of_not_torn {offers : List (FrameOffer α)} (intact : ¬ Torn offers) :
    ∃ frames : List (List α), (∀ frame ∈ frames, ∃ offer ∈ offers, offer.frame = frame) ∧
      stream offers = frames.flatten := by
  induction offers with
  | nil => exact ⟨[], (fun _ member => by cases member), rfl⟩
  | cons offer older inductionHypothesis =>
      rw [torn_cons, not_or] at intact
      obtain ⟨frames, offered, whole⟩ := inductionHypothesis intact.2
      have earlier : ∀ frame ∈ frames, ∃ other ∈ offer :: older, other.frame = frame :=
        fun frame member =>
          let ⟨other, present, same⟩ := offered frame member
          ⟨other, List.mem_cons_of_mem _ present, same⟩
      rcases FrameOffer.taken_of_not_torn intact.1 with none | all
      · exact ⟨frames, earlier, by rw [stream_cons, none, List.append_nil, whole]⟩
      · refine ⟨frames ++ [offer.frame], ?_, by simp [whole, all]⟩
        intro frame member
        rcases List.mem_append.1 member with old | new
        · exact earlier frame old
        · exact ⟨offer, List.mem_cons_self, (List.mem_singleton.1 new).symm⟩

/-- An unbroken stream is a concatenation of whole frames, followed by a part of one
frame at most. -/
theorem Unbroken.whole {offers : List (FrameOffer α)} (unbroken : Unbroken offers) :
    ∃ (frames : List (List α)) (part : List α), stream offers = frames.flatten ++ part ∧
      (∀ frame ∈ frames, ∃ offer ∈ offers, offer.frame = frame) ∧
      (part = [] ∨ ∃ offer ∈ offers, offer.Torn ∧ part = offer.taken) := by
  induction offers with
  | nil => exact ⟨[], [], rfl, (fun _ member => by cases member), Or.inl rfl⟩
  | cons offer older inductionHypothesis =>
      obtain ⟨vain, tail⟩ := unbroken
      by_cases torn : Torn older
      · obtain ⟨frames, part, whole, offered, last⟩ := inductionHypothesis tail
        refine ⟨frames, part, by rw [stream_cons, vain torn, List.append_nil, whole], ?_, ?_⟩
        · intro frame member
          obtain ⟨other, present, same⟩ := offered frame member
          exact ⟨other, List.mem_cons_of_mem _ present, same⟩
        · exact last.imp_right fun ⟨other, present, broken⟩ =>
            ⟨other, List.mem_cons_of_mem _ present, broken⟩
      · obtain ⟨frames, offered, whole⟩ := stream_of_not_torn torn
        have earlier : ∀ frame ∈ frames, ∃ other ∈ offer :: older, other.frame = frame :=
          fun frame member =>
            let ⟨other, present, same⟩ := offered frame member
            ⟨other, List.mem_cons_of_mem _ present, same⟩
        by_cases broken : offer.Torn
        · exact ⟨frames, offer.taken, by rw [stream_cons, whole], earlier,
            Or.inr ⟨offer, List.mem_cons_self, broken, rfl⟩⟩
        · have intact : ¬ Torn (offer :: older) := by
            rw [torn_cons]
            exact fun either => either.elim broken torn
          obtain ⟨frames, offered, whole⟩ := stream_of_not_torn intact
          exact ⟨frames, [], by rw [whole, List.append_nil], offered, Or.inl rfl⟩

end FrameStream
end Gearwit
