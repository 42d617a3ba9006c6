import Mathlib.Data.List.Basic
import Mathlib.Tactic.Common

/-!
# Nonblocking pipes with deadlines

The child's standard streams are nonblocking, and every wait on them ends at a
deadline.  What the child and the kernel do is a script: one answer for each system
call, with the time it took.  A script that has run out stands for a peer that stays
silent until the deadline.  What passes over the wire is logged, newest first.
-/

namespace Gearwit
namespace Transport

/-- Refusals of the transport. -/
inductive Error
  | bounds
  | malformed
  | version
  | identity
  | group
  | correlation
  | ambiguous
  | deadline
  | closed
  | preflight
  | cleanup
  | unsupported
  | native
  | degraded
  | inconsistentTerminal
  deriving DecidableEq, Repr

/-- Longest line of the server, without its newline. -/
def maxLine : Nat := 1024 * 1024

/-- Longest outbound frame. -/
def maxFrame : Nat := 1024 * 1024

/-- Bytes of complete lines the transport accepts from the server in its life. -/
def maxStdout : Nat := 1024 * 1024

/-- Longest native reference. -/
def maxNativeRef : Nat := 1024

/-- Notifications kept behind a pending request, and turns a thread may list. -/
def maxQueue : Nat := 64

/-- Deadline of an ordinary wait, in nanoseconds. -/
def ioDeadline : Nat := 8 * 1000000000

/-- The byte that ends a line. -/
def newline : UInt8 := 10

/-! ## System calls -/

/-- Answer of a system call and the time it took. -/
structure Timed (α : Type) where
  elapsed : Nat
  answer : α
  deriving DecidableEq

/-- Answer of a one-byte read. -/
inductive ReadAnswer
  | byte (value : UInt8)
  | ended
  | wouldBlock
  | failed
  deriving DecidableEq

/-- Answer of a write; a pipe accepts at most what it is offered. -/
inductive WriteAnswer
  | accepted (count : Nat)
  | wouldBlock
  | failed
  deriving DecidableEq

/-- Answer of a flush. -/
inductive FlushAnswer
  | done
  | wouldBlock
  | failed
  deriving DecidableEq

/-- Kinds of client request. -/
inductive RequestKind
  | handshake
  | threadStart
  | threadResume
  | threadRead
  | turnStart
  deriving DecidableEq, Repr

/-- What a frame is for: a request with its identifier, the end of the handshake, or the
rejection of a request of the server. -/
inductive Purpose
  | request (id : Nat) (kind : RequestKind)
  | initialized
  | rejection
  deriving DecidableEq

/-- What passes over the wire: a frame offered to the pipe with the number of its bytes
the pipe accepted, or a line read up to its newline. -/
inductive WireEvent
  | offered (purpose : Purpose) (frame : List UInt8) (accepted : Nat)
  | heard (line : List UInt8)
  deriving DecidableEq

/-- The child's streams: the clock, the answers still to come, and the log. -/
structure Pipes where
  clock : Nat
  reads : List (Timed ReadAnswer)
  writes : List (Timed WriteAnswer)
  flushes : List (Timed FlushAnswer)
  log : List WireEvent

/-! ## Reading a line -/

/-- Loop of `readLineUntil`: the line so far and the bytes consumed for it. -/
def readLoop (due : Nat) :
    List (Timed ReadAnswer) → Nat → List UInt8 → Nat →
      Except Error Nat × List UInt8 × List (Timed ReadAnswer) × Nat
  | [], clock, line, _ => (.error .deadline, line, [], max clock due)
  | read :: rest, clock, line, consumed =>
      match read.answer with
      | .ended =>
          (.error (if line = [] then .closed else .malformed), line, rest,
            clock + read.elapsed)
      | .byte value =>
          if value = newline then (.ok (consumed + 1), line, rest, clock + read.elapsed)
          else if line.length = maxLine then
            (.error .bounds, line, rest, clock + read.elapsed)
          else readLoop due rest (clock + read.elapsed) (line ++ [value]) (consumed + 1)
      | .wouldBlock =>
          if due ≤ clock + read.elapsed then
            (.error .deadline, line, rest, clock + read.elapsed)
          else readLoop due rest (clock + read.elapsed) line consumed
      | .failed => (.error .closed, line, rest, clock + read.elapsed)

/-- Read one line, at most until the deadline has passed.  The line buffer is cleared
first. -/
def readLineUntil (deadline : Nat) (pipes : Pipes) :
    Except Error Nat × List UInt8 × Pipes :=
  let (outcome, line, reads, clock) :=
    readLoop (pipes.clock + deadline) pipes.reads pipes.clock [] 0
  (outcome, line,
    { pipes with
      reads
      clock
      log := if outcome.isOk then .heard line :: pipes.log else pipes.log })

/-! ## Writing a frame -/

/-- What a write proves about the frame. -/
inductive WriteReceipt
  | provenNotWritten
  | possiblyWritten
  | written
  deriving DecidableEq, Repr

/-- A failed write and what it proves. -/
structure WriteFailure where
  error : Error
  receipt : WriteReceipt
  deriving DecidableEq, Repr

/-- Receipt of a failure before the frame was written out. -/
def failureReceipt (wroteBytes : Bool) : WriteReceipt :=
  if wroteBytes then .possiblyWritten else .provenNotWritten

/-- Write loop of `writeAllUntil`: the bytes still to write and whether any was. -/
def writeLoop (due : Nat) :
    List (Timed WriteAnswer) → Nat → List UInt8 → Bool →
      Except WriteFailure Unit × List UInt8 × List (Timed WriteAnswer) × Nat
  | writes, clock, [], _ => (.ok (), [], writes, clock)
  | [], clock, frame, wroteBytes =>
      (.error ⟨.deadline, failureReceipt wroteBytes⟩, frame, [], max clock due)
  | write :: rest, clock, frame, wroteBytes =>
      match write.answer with
      | .accepted 0 =>
          (.error ⟨.ambiguous, failureReceipt wroteBytes⟩, frame, rest,
            clock + write.elapsed)
      | .accepted count =>
          writeLoop due rest (clock + write.elapsed) (frame.drop count) true
      | .wouldBlock =>
          if due ≤ clock + write.elapsed then
            (.error ⟨.deadline, failureReceipt wroteBytes⟩, frame, rest,
              clock + write.elapsed)
          else writeLoop due rest (clock + write.elapsed) frame wroteBytes
      | .failed =>
          (.error ⟨.closed, failureReceipt wroteBytes⟩, frame, rest,
            clock + write.elapsed)

/-- Flush loop of `writeAllUntil`. -/
def flushLoop (due : Nat) :
    List (Timed FlushAnswer) → Nat →
      Except WriteFailure WriteReceipt × List (Timed FlushAnswer) × Nat
  | [], clock => (.error ⟨.deadline, .possiblyWritten⟩, [], max clock due)
  | flush :: rest, clock =>
      match flush.answer with
      | .done => (.ok .written, rest, clock + flush.elapsed)
      | .wouldBlock =>
          if due ≤ clock + flush.elapsed then
            (.error ⟨.deadline, .possiblyWritten⟩, rest, clock + flush.elapsed)
          else flushLoop due rest (clock + flush.elapsed)
      | .failed => (.error ⟨.ambiguous, .possiblyWritten⟩, rest, clock + flush.elapsed)

/-- Write a whole frame and flush it, at most until the deadline has passed. -/
def writeAllUntil (purpose : Purpose) (frame : List UInt8) (deadline : Nat) (pipes : Pipes) :
    Except WriteFailure WriteReceipt × Pipes :=
  let due := pipes.clock + deadline
  let (written, left, writes, clock) := writeLoop due pipes.writes pipes.clock frame false
  let log := .offered purpose frame (frame.length - left.length) :: pipes.log
  match written with
  | .error failure => (.error failure, { pipes with writes, clock, log })
  | .ok () =>
      let (outcome, flushes, clock) := flushLoop due pipes.flushes clock
      (outcome, { pipes with writes, flushes, clock, log })

/-! ## What a read does -/

/-- Consecutive steps of a read loop consume answers from the front. -/
theorem readLoop_suffix (due : Nat) (reads : List (Timed ReadAnswer)) (clock : Nat)
    (line : List UInt8) (consumed : Nat) :
    (readLoop due reads clock line consumed).2.2.1 <:+ reads := by
  induction reads generalizing clock line consumed with
  | nil => exact List.suffix_refl []
  | cons read rest inductionHypothesis =>
      have shorter : rest <:+ read :: rest := List.suffix_cons read rest
      unfold readLoop
      split
      · exact shorter
      · split_ifs
        · exact shorter
        · exact shorter
        · exact (inductionHypothesis _ _ _).trans shorter
      · split_ifs
        · exact shorter
        · exact (inductionHypothesis _ _ _).trans shorter
      · exact shorter

/-- A line takes at least one answer, that of its newline. -/
theorem readLoop_shorter {due : Nat} {reads : List (Timed ReadAnswer)} {clock : Nat}
    {line : List UInt8} {consumed total : Nat}
    (read : (readLoop due reads clock line consumed).1 = .ok total) :
    (readLoop due reads clock line consumed).2.2.1.length < reads.length := by
  induction reads generalizing clock line consumed with
  | nil => cases read
  | cons head rest inductionHypothesis =>
      unfold readLoop at read ⊢
      split at read
      · cases read
      · split_ifs at read ⊢
        · exact Nat.lt_succ_self _
        · exact Nat.lt_succ_of_lt (inductionHypothesis read)
      · split_ifs at read ⊢
        exact Nat.lt_succ_of_lt (inductionHypothesis read)
      · cases read

/-- The count of a line is its length with the newline. -/
theorem readLoop_consumed {due : Nat} {reads : List (Timed ReadAnswer)} {clock : Nat}
    {line : List UInt8} {consumed total : Nat} (counted : consumed = line.length)
    (read : (readLoop due reads clock line consumed).1 = .ok total) :
    total = (readLoop due reads clock line consumed).2.1.length + 1 := by
  induction reads generalizing clock line consumed with
  | nil => cases read
  | cons head rest inductionHypothesis =>
      unfold readLoop at read ⊢
      split at read
      · cases read
      · split_ifs at read ⊢
        · cases read
          rw [counted]
        · exact inductionHypothesis (by simp [counted]) read
      · split_ifs at read ⊢
        exact inductionHypothesis counted read
      · cases read

/-! ## What a write does -/

/-- What the result of a write says about the bytes the pipe accepted. -/
inductive WriteEffect (frame : List UInt8) : Except WriteFailure WriteReceipt → Nat → Prop
  | written : WriteEffect frame (.ok .written) frame.length
  | refused (error : Error) : WriteEffect frame (.error ⟨error, .provenNotWritten⟩) 0
  | possible {error : Error} {accepted : Nat} (within : accepted ≤ frame.length) :
      WriteEffect frame (.error ⟨error, .possiblyWritten⟩) accepted

/-- What the write loop leaves: nothing, the whole frame, or a part of it. -/
private theorem writeLoop_effect (due : Nat) (whole : List UInt8)
    (writes : List (Timed WriteAnswer)) (clock : Nat) (frame : List UInt8)
    (wroteBytes : Bool) (within : frame.length ≤ whole.length)
    (untouched : wroteBytes = false → frame = whole) :
    ((writeLoop due writes clock frame wroteBytes).1 = .ok () ∧
        (writeLoop due writes clock frame wroteBytes).2.1 = []) ∨
      ∃ error receipt,
        (writeLoop due writes clock frame wroteBytes).1 = .error ⟨error, receipt⟩ ∧
        (writeLoop due writes clock frame wroteBytes).2.1.length ≤ whole.length ∧
        (receipt = .possiblyWritten ∨
          receipt = .provenNotWritten ∧
            (writeLoop due writes clock frame wroteBytes).2.1 = whole) := by
  have stopped (error : Error) :
      ∃ stop receipt,
        (Except.error (ε := WriteFailure) (α := Unit) ⟨error, failureReceipt wroteBytes⟩) =
          .error ⟨stop, receipt⟩ ∧ frame.length ≤ whole.length ∧
        (receipt = .possiblyWritten ∨ receipt = .provenNotWritten ∧ frame = whole) := by
    refine ⟨error, failureReceipt wroteBytes, rfl, within, ?_⟩
    cases wroteBytes with
    | true => exact Or.inl rfl
    | false => exact Or.inr ⟨rfl, untouched rfl⟩
  induction writes generalizing clock frame wroteBytes with
  | nil =>
      cases frame with
      | nil => exact Or.inl ⟨rfl, rfl⟩
      | cons byte bytes => exact Or.inr (stopped .deadline)
  | cons write rest inductionHypothesis =>
      cases frame with
      | nil => exact Or.inl ⟨rfl, rfl⟩
      | cons byte bytes =>
          unfold writeLoop
          split
          · exact Or.inr (stopped .ambiguous)
          · rename_i count _ _
            have fewer : ((byte :: bytes).drop count).length ≤ whole.length :=
              Nat.le_trans (List.length_drop ▸ Nat.sub_le _ _) within
            exact inductionHypothesis _ _ true fewer nofun fun error =>
              ⟨error, .possiblyWritten, rfl, fewer, Or.inl rfl⟩
          · split_ifs
            · exact Or.inr (stopped .deadline)
            · exact inductionHypothesis _ _ _ within untouched stopped
          · exact Or.inr (stopped .closed)

private theorem flushLoop_effect (due : Nat) (flushes : List (Timed FlushAnswer))
    (clock : Nat) :
    (flushLoop due flushes clock).1 = .ok .written ∨
      ∃ error, (flushLoop due flushes clock).1 = .error ⟨error, .possiblyWritten⟩ := by
  induction flushes generalizing clock with
  | nil => exact Or.inr ⟨_, rfl⟩
  | cons flush rest inductionHypothesis =>
      unfold flushLoop
      split
      · exact Or.inl rfl
      · split_ifs
        · exact Or.inr ⟨_, rfl⟩
        · exact inductionHypothesis _
      · exact Or.inr ⟨_, rfl⟩

/-- A write offers its frame once; the log says how much of it was accepted, and the
result tells the truth about that. -/
theorem writeAllUntil_effect (purpose : Purpose) (frame : List UInt8) (deadline : Nat)
    (pipes : Pipes) :
    ∃ accepted,
      (writeAllUntil purpose frame deadline pipes).2.log =
        .offered purpose frame accepted :: pipes.log ∧
      (writeAllUntil purpose frame deadline pipes).2.reads = pipes.reads ∧
      WriteEffect frame (writeAllUntil purpose frame deadline pipes).1 accepted := by
  have wrote := writeLoop_effect (pipes.clock + deadline) frame pipes.writes pipes.clock
    frame false (Nat.le_refl _) fun _ => rfl
  rcases looped : writeLoop (pipes.clock + deadline) pipes.writes pipes.clock frame false with
    ⟨outcome, left, writes, clock⟩
  rw [looped] at wrote
  refine ⟨frame.length - left.length, ?_⟩
  obtain ⟨same, empty⟩ | ⟨error, receipt, same, fewer, possible⟩ := wrote
  · obtain rfl : outcome = .ok () := same
    obtain rfl : left = [] := empty
    have flushed := flushLoop_effect (pipes.clock + deadline) pipes.flushes clock
    rcases ended : flushLoop (pipes.clock + deadline) pipes.flushes clock with
      ⟨outcome, flushes, after⟩
    rw [ended] at flushed
    simp only [writeAllUntil, looped, ended]
    obtain same | ⟨error, same⟩ := flushed
    · obtain rfl : outcome = .ok .written := same
      exact ⟨trivial, trivial, .written⟩
    · obtain rfl : outcome = .error ⟨error, .possiblyWritten⟩ := same
      exact ⟨trivial, trivial, .possible (Nat.sub_le _ _)⟩
  · obtain rfl : outcome = .error ⟨error, receipt⟩ := same
    simp only [writeAllUntil, looped]
    refine ⟨trivial, trivial, ?_⟩
    obtain rfl | ⟨rfl, same⟩ := possible
    · exact .possible (Nat.sub_le _ _)
    · obtain rfl : left = frame := same
      rw [Nat.sub_self]
      exact .refused error

end Transport
end Gearwit
