import Gearwit.Transport.Torn

/-!
# Lines of the server and calls of the client

A server sends whole lines, and the client calls with any deadlines.  What a call makes
of a line depends on the line alone, however its bytes arrive, unless the deadline passes
in the middle of it: the bytes read so far are dropped then, and the next call takes the
remainder for a line.
-/

namespace Gearwit
namespace Transport

/-! ## Scripts without a failure -/

/-- The reads only bring bytes or nothing yet. -/
def Arrivals (reads : List (Timed ReadAnswer)) : Prop :=
  ∀ read ∈ reads, read.answer ≠ .ended ∧ read.answer ≠ .failed

/-- Bytes the reads bring. -/
def bytesOf (reads : List (Timed ReadAnswer)) : List UInt8 :=
  reads.filterMap fun read =>
    match read.answer with
    | .byte value => some value
    | _ => none

/-- Bytes that arrive before the deadline has passed. -/
def delivered (due : Nat) : List (Timed ReadAnswer) → Nat → List UInt8
  | [], _ => []
  | read :: rest, clock =>
      match read.answer with
      | .byte value => value :: delivered due rest (clock + read.elapsed)
      | .wouldBlock =>
          if due ≤ clock + read.elapsed then []
          else delivered due rest (clock + read.elapsed)
      | _ => []

/-- A read that would block takes its time and brings nothing. -/
theorem delivered_wouldBlock (due elapsed : Nat) (rest : List (Timed ReadAnswer))
    (clock : Nat) :
    delivered due (⟨elapsed, .wouldBlock⟩ :: rest) clock =
      if due ≤ clock + elapsed then [] else delivered due rest (clock + elapsed) := rfl

/-- What arrives later arrives alike. -/
theorem Arrivals.tail {read : Timed ReadAnswer} {rest : List (Timed ReadAnswer)}
    (arrivals : Arrivals (read :: rest)) : Arrivals rest :=
  fun other member => arrivals other (List.mem_cons_of_mem _ member)

/-- A read that comes to the end of a line brings the bytes up to it, whichever way they
arrive. -/
theorem readLoop_line {due : Nat} {reads : List (Timed ReadAnswer)} {clock consumed : Nat}
    {line body more : List UInt8} (arrivals : Arrivals reads)
    (bytes : bytesOf reads = body ++ newline :: more) (plain : newline ∉ body)
    (short : line.length + body.length ≤ maxLine)
    (ends : newline ∈ delivered due reads clock) :
    ∃ after now,
      readLoop due reads clock line consumed =
        (.ok (consumed + body.length + 1), line ++ body, after, now) ∧
      bytesOf after = more ∧ Arrivals after := by
  induction reads generalizing clock consumed line body with
  | nil => cases ends
  | cons read rest inductionHypothesis =>
      have later := arrivals.tail
      obtain ⟨elapsed, answer⟩ := read
      cases answer with
      | byte value =>
          have split : value :: bytesOf rest = body ++ newline :: more := bytes
          cases body with
          | nil =>
              obtain ⟨rfl, rfl⟩ := List.cons.inj split
              exact ⟨rest, clock + elapsed, by simp [readLoop], rfl, later⟩
          | cons head tail =>
              obtain ⟨rfl, remaining⟩ := List.cons.inj split
              have other : value ≠ newline := fun same => plain (by simp [same])
              have room : line.length ≠ maxLine := by
                simp only [List.length_cons] at short
                omega
              have within : newline ∈ delivered due rest (clock + elapsed) :=
                (List.mem_cons.1 ends).resolve_left fun same => other same.symm
              obtain ⟨after, now, read, left, calm⟩ :=
                @inductionHypothesis (clock + elapsed) (consumed + 1) (line ++ [value]) tail later
                  remaining (fun member => plain (List.mem_cons_of_mem _ member))
                  (by simp only [List.length_append, List.length_cons, List.length_nil] at short ⊢
                      omega) within
              refine ⟨after, now, ?_, left, calm⟩
              simp only [readLoop, other, room, if_false, read]
              simp [Nat.add_right_comm, Nat.add_assoc]
      | wouldBlock =>
          rw [delivered_wouldBlock] at ends
          split_ifs at ends with elapsedDue
          · cases ends
          · obtain ⟨after, now, read, left, calm⟩ :=
              @inductionHypothesis _ consumed _ _ later bytes plain short ends
            exact ⟨after, now, by simp only [readLoop, elapsedDue, if_false, read], left, calm⟩
      | ended => exact absurd rfl (arrivals _ List.mem_cons_self).1
      | failed => exact absurd rfl (arrivals _ List.mem_cons_self).2

/-- A read to which nothing arrives in time changes nothing. -/
theorem readLoop_silent {due : Nat} {reads : List (Timed ReadAnswer)} {clock consumed : Nat}
    {line : List UInt8} (arrivals : Arrivals reads)
    (silent : delivered due reads clock = []) :
    ∃ after now, readLoop due reads clock line consumed = (.error .deadline, line, after, now) ∧
      bytesOf after = bytesOf reads ∧ Arrivals after := by
  induction reads generalizing clock with
  | nil => exact ⟨[], max clock due, rfl, rfl, arrivals⟩
  | cons read rest inductionHypothesis =>
      have later := arrivals.tail
      obtain ⟨elapsed, answer⟩ := read
      cases answer with
      | byte value => cases silent
      | wouldBlock =>
          rw [delivered_wouldBlock] at silent
          split_ifs at silent with elapsedDue
          · exact ⟨rest, clock + elapsed, by simp only [readLoop, elapsedDue, if_true], rfl, later⟩
          · obtain ⟨after, now, read, left, calm⟩ := inductionHypothesis later silent
            exact ⟨after, now, by simp only [readLoop, elapsedDue, if_false, read], left, calm⟩
      | ended => exact absurd rfl (arrivals _ List.mem_cons_self).1
      | failed => exact absurd rfl (arrivals _ List.mem_cons_self).2

/-- What is delivered is a first part of the bytes. -/
theorem delivered_front (due : Nat) (reads : List (Timed ReadAnswer)) (clock : Nat) :
    delivered due reads clock <+: bytesOf reads := by
  induction reads generalizing clock with
  | nil => exact List.prefix_refl []
  | cons read rest inductionHypothesis =>
      obtain ⟨elapsed, answer⟩ := read
      cases answer with
      | byte value => exact (List.prefix_cons_inj value).2 (inductionHypothesis _)
      | wouldBlock =>
          rw [delivered_wouldBlock]
          split_ifs
          · exact ⟨_, List.nil_append _⟩
          · exact inductionHypothesis _
      | ended => exact ⟨_, List.nil_append _⟩
      | failed => exact ⟨_, List.nil_append _⟩

/-! ## Time does not matter to a writer -/

private theorem writeLoop_alike {due other : Nat} (writes : List (Timed WriteAnswer))
    {clock late : Nat} (frame : List UInt8) (wroteBytes : Bool)
    (remaining : due + late = other + clock) :
    (writeLoop due writes clock frame wroteBytes).1 =
        (writeLoop other writes late frame wroteBytes).1 ∧
      (writeLoop due writes clock frame wroteBytes).2.1 =
        (writeLoop other writes late frame wroteBytes).2.1 ∧
      (writeLoop due writes clock frame wroteBytes).2.2.1 =
        (writeLoop other writes late frame wroteBytes).2.2.1 ∧
      due + (writeLoop other writes late frame wroteBytes).2.2.2 =
        other + (writeLoop due writes clock frame wroteBytes).2.2.2 := by
  induction writes generalizing clock late frame wroteBytes with
  | nil =>
      cases frame with
      | nil => exact ⟨rfl, rfl, rfl, remaining⟩
      | cons byte bytes =>
          refine ⟨rfl, rfl, rfl, ?_⟩
          simp only [writeLoop]
          omega
  | cons write rest inductionHypothesis =>
      cases frame with
      | nil => exact ⟨rfl, rfl, rfl, remaining⟩
      | cons byte bytes =>
          obtain ⟨elapsed, answer⟩ := write
          have later : due + (late + elapsed) = other + (clock + elapsed) := by omega
          cases answer with
          | accepted count =>
              cases count with
              | zero => exact ⟨rfl, rfl, rfl, later⟩
              | succ count => exact inductionHypothesis _ true later
          | wouldBlock =>
              have same : (due ≤ clock + elapsed) = (other ≤ late + elapsed) := by
                apply propext
                omega
              simp only [writeLoop, same]
              split_ifs
              · exact ⟨rfl, rfl, rfl, later⟩
              · exact inductionHypothesis _ wroteBytes later
          | failed => exact ⟨rfl, rfl, rfl, later⟩

private theorem flushLoop_alike {due other : Nat} (flushes : List (Timed FlushAnswer))
    {clock late : Nat} (remaining : due + late = other + clock) :
    (flushLoop due flushes clock).1 = (flushLoop other flushes late).1 ∧
      (flushLoop due flushes clock).2.1 = (flushLoop other flushes late).2.1 := by
  induction flushes generalizing clock late with
  | nil => exact ⟨rfl, rfl⟩
  | cons flush rest inductionHypothesis =>
      obtain ⟨elapsed, answer⟩ := flush
      cases answer with
      | done => exact ⟨rfl, rfl⟩
      | wouldBlock =>
          have same : (due ≤ clock + elapsed) = (other ≤ late + elapsed) := by
            apply propext
            omega
          simp only [flushLoop, same]
          split_ifs
          · exact ⟨rfl, rfl⟩
          · exact inductionHypothesis (by omega)
      | failed => exact ⟨rfl, rfl⟩

/-- Pipes at another time, with other reads to come. -/
def Pipes.elsewhere (pipes : Pipes) (clock : Nat) (reads : List (Timed ReadAnswer)) : Pipes :=
  { pipes with clock, reads }

/-- A write depends on the time it takes, not on when it begins. -/
theorem writeAllUntil_alike (purpose : Purpose) (frame : List UInt8) (deadline : Nat)
    (pipes : Pipes) (clock : Nat) (reads : List (Timed ReadAnswer)) :
    (writeAllUntil purpose frame deadline (pipes.elsewhere clock reads)).1 =
        (writeAllUntil purpose frame deadline pipes).1 ∧
      ∃ now, (writeAllUntil purpose frame deadline (pipes.elsewhere clock reads)).2 =
        (writeAllUntil purpose frame deadline pipes).2.elsewhere now reads := by
  have looped := @writeLoop_alike (pipes.clock + deadline) (clock + deadline) pipes.writes
    pipes.clock clock frame false (by omega)
  rcases here : writeLoop (pipes.clock + deadline) pipes.writes pipes.clock frame false with
    ⟨outcome, left, writes, now⟩
  rcases there : writeLoop (clock + deadline) pipes.writes clock frame false with
    ⟨outcome', left', writes', now'⟩
  rw [here, there] at looped
  obtain ⟨sameOutcome, sameLeft, sameWrites, elapsed⟩ := looped
  dsimp only at sameOutcome sameLeft sameWrites elapsed
  subst sameOutcome sameLeft sameWrites
  simp only [writeAllUntil, Pipes.elsewhere, here, there]
  cases outcome with
  | error failure => exact ⟨rfl, now', rfl⟩
  | ok done =>
      obtain ⟨flushed, after⟩ := flushLoop_alike pipes.flushes elapsed
      exact ⟨flushed.symm, _, by simp only [after]; rfl⟩

namespace Wire

/-- Wires that differ in the time and in what is still to be read at most. -/
def Alike (first second : Wire) : Prop :=
  ∃ clock reads, second = { first with pipes := first.pipes.elsewhere clock reads }

/-- Results that agree, on wires that are alike. -/
def Agree {α : Type} (first second : α × Wire) : Prop :=
  second.1 = first.1 ∧ first.2.Alike second.2

/-- Wires that are alike have the same state. -/
theorem Alike.state {first second : Wire} (alike : first.Alike second) :
    second.state = first.state := by
  obtain ⟨clock, reads, rfl⟩ := alike
  rfl

/-- A change of the state alone keeps wires alike. -/
theorem Alike.update {first second : Wire} (alike : first.Alike second)
    (change : TransportState → TransportState) :
    Alike ⟨change first.state, first.pipes⟩ ⟨change second.state, second.pipes⟩ := by
  obtain ⟨clock, reads, rfl⟩ := alike
  exact ⟨clock, reads, rfl⟩

variable [SerdeJson]

/-- Writing keeps wires alike. -/
theorem write_alike {first second : Wire} (alike : first.Alike second) (purpose : Purpose)
    (value : Json) : Agree (first.write purpose value) (second.write purpose value) := by
  obtain ⟨clock, reads, rfl⟩ := alike
  unfold write
  rcases encode value with ⟨_ | _, frame⟩
  · exact ⟨rfl, clock, reads, rfl⟩
  · obtain ⟨outcome, now, after⟩ :=
      writeAllUntil_alike purpose frame ioDeadline first.pipes clock reads
    refine ⟨outcome, now, reads, ?_⟩
    simp only [after]
    rfl

/-- Sending keeps wires alike. -/
theorem send_alike {first second : Wire} (alike : first.Alike second) (purpose : Purpose)
    (value : Json) : Agree (first.send purpose value) (second.send purpose value) := by
  unfold send
  rw [alike.state]
  split_ifs
  · exact ⟨rfl, alike⟩
  have written := write_alike alike purpose value
  revert written
  generalize first.write purpose value = here
  generalize second.write purpose value = there
  rintro ⟨outcome, after⟩
  obtain ⟨result, here⟩ := here
  obtain ⟨result, there⟩ := there
  cases outcome
  rcases result with failure | receipt
  · simp only
    split_ifs
    · exact ⟨rfl, after.update fun state => { state with ambiguous := true }⟩
    · exact ⟨rfl, after⟩
  · exact ⟨rfl, after⟩

variable [Blake3]

/-- Handling a message keeps wires alike. -/
theorem handleInbound_alike {first second : Wire} (alike : first.Alike second)
    (inbound : Inbound) : Agree (first.handleInbound inbound) (second.handleInbound inbound) := by
  have waits : second.waiting = first.waiting := by rw [waiting, alike.state]; rfl
  cases inbound with
  | response id =>
      simp only [handleInbound, handleResponse, alike.state]
      cases first.state.pending.head? with
      | none => exact ⟨rfl, alike⟩
      | some pending =>
          simp only
          split_ifs with same
          · cases parseResponse first.state.line pending with
            | error error =>
                exact ⟨rfl, alike.update fun state => { state with ambiguous := true }⟩
            | ok received =>
                have cleared := alike.update fun state => { state with ambiguous := false }
                simp only
                split_ifs
                · have sent := send_alike cleared .initialized initializedNotification
                  revert sent
                  unfold flag
                  generalize send _ .initialized initializedNotification = here
                  generalize send _ .initialized initializedNotification = there
                  rintro ⟨outcome, after⟩
                  obtain ⟨result, here⟩ := here
                  obtain ⟨result, there⟩ := there
                  cases outcome
                  cases result with
                  | error error => exact ⟨rfl, after⟩
                  | ok receipt =>
                      exact ⟨rfl, after.update fun state =>
                        { state with initialized := true, pending := state.pending.tail }⟩
                · exact ⟨rfl, cleared.update fun state =>
                    { state with pending := state.pending.tail }⟩
          · exact ⟨rfl, alike.update fun state => { state with ambiguous := true }⟩
  | nativeError id =>
      simp only [handleInbound, handleNativeError, alike.state, waits]
      split_ifs
      · exact ⟨rfl, alike.update fun state =>
          { state with ambiguous := false, pending := state.pending.tail }⟩
      · exact ⟨rfl, alike.update fun state =>
          { state with ambiguous := first.state.ambiguous || first.waiting }⟩
  | notification notification =>
      simp only [handleInbound, handleNotification, alike.state, waits]
      split_ifs
      · exact ⟨rfl, alike.update fun state =>
          { state with ambiguous := first.state.ambiguous || first.waiting }⟩
      · exact ⟨rfl, alike⟩
      · exact ⟨rfl, alike⟩
      · obtain ⟨clock, reads, rfl⟩ := alike
        exact ⟨rfl, clock, reads, rfl⟩
  | serverRequest id =>
      have sent := send_alike alike .rejection (rejection id)
      simp only [handleInbound, handleServerRequest]
      revert sent
      generalize first.send .rejection (rejection id) = here
      generalize second.send .rejection (rejection id) = there
      rintro ⟨outcome, after⟩
      obtain ⟨result, here⟩ := here
      obtain ⟨result, there⟩ := there
      cases outcome
      cases result with
      | error error => exact ⟨rfl, after⟩
      | ok receipt =>
          have waits : there.waiting = here.waiting := by rw [waiting, after.state]; rfl
          simp only [waits]
          exact ⟨rfl, after⟩

/-- Handling a line keeps wires alike. -/
theorem handleLine_alike {first second : Wire} (alike : first.Alike second)
    (consumed : Nat) : Agree (first.handleLine consumed) (second.handleLine consumed) := by
  simp only [handleLine, alike.state]
  split_ifs
  · exact ⟨rfl, alike⟩
  cases classify first.state.line with
  | error error =>
      obtain ⟨clock, reads, rfl⟩ := alike
      exact ⟨rfl, clock, reads, rfl⟩
  | ok inbound =>
      have handled := handleInbound_alike
        (alike.update fun state => { state with stdout := state.stdout + consumed }) inbound
      simp only [alike.state] at handled
      exact ⟨handled.1, handled.2.update fun state => { state with line := [] }⟩

/-! ## Lines served whole -/

/-- The wire with a line just read into its buffer. -/
def loadLine (wire : Wire) (line : List UInt8) : Wire :=
  ⟨{ wire.state with line }, { wire.pipes with log := .heard line :: wire.pipes.log }⟩

/-- Serve a line that was read whole. -/
def serve (wire : Wire) (line : List UInt8) : Except Error (Option Received) × Wire :=
  (wire.loadLine line).handleLine (line.length + 1)

/-- What serving the lines one after the other makes of each. -/
def served (wire : Wire) : List (List UInt8) → List (Except Error (Option Received))
  | [] => []
  | line :: rest => (wire.serve line).1 :: served (wire.serve line).2 rest

omit [SerdeJson] [Blake3] in
/-- Wires that are alike but for their line buffers. -/
def Similar (first second : Wire) : Prop := (first.hold []).Alike (second.hold [])

omit [SerdeJson] [Blake3] in
/-- Wires that are alike are similar. -/
theorem Alike.similar {first second : Wire} (alike : first.Alike second) :
    first.Similar second :=
  alike.update fun state => { state with line := [] }

/-- Similar wires serve a line alike. -/
theorem serve_similar {first second : Wire} (similar : first.Similar second)
    (line : List UInt8) : Agree (first.serve line) (second.serve line) := by
  obtain ⟨clock, reads, same⟩ := similar
  refine handleLine_alike ⟨clock, reads, ?_⟩ _
  have state := congrArg Wire.state same
  have pipes := congrArg Wire.pipes same
  obtain ⟨⟨_, _, _, _, _, _, _, _⟩, _⟩ := second
  simp only [hold, Pipes.elsewhere, TransportState.mk.injEq] at state pipes
  simp [loadLine, Pipes.elsewhere, state, pipes]

/-- Similar wires serve the same lines the same way. -/
theorem served_similar {first second : Wire} (similar : first.Similar second)
    (lines : List (List UInt8)) : first.served lines = second.served lines := by
  induction lines generalizing first second with
  | nil => rfl
  | cons line rest inductionHypothesis =>
      obtain ⟨outcome, after⟩ := serve_similar similar line
      rw [served, served, outcome, inductionHypothesis after.similar]

/-! ## Streams of whole lines -/

omit [SerdeJson] [Blake3] in
/-- The server sends these lines, within the bounds of the transport. -/
structure Feeds (wire : Wire) (lines : List (List UInt8)) : Prop where
  arrivals : Arrivals wire.pipes.reads
  bytes : bytesOf wire.pipes.reads = (lines.map (· ++ [newline])).flatten
  plain : ∀ line ∈ lines, newline ∉ line
  short : ∀ line ∈ lines, line.length ≤ maxLine
  within : wire.state.stdout + (bytesOf wire.pipes.reads).length ≤ maxStdout

omit [SerdeJson] [Blake3] in
/-- Bytes that arrive before a call's deadline. -/
def inTime (due : Nat) (wire : Wire) : List UInt8 :=
  delivered (wire.pipes.clock + (due - wire.pipes.clock)) wire.pipes.reads wire.pipes.clock

/-- Handling a line reads nothing, and counts what it is told. -/
private theorem handleLine_keeps {wire : Wire} {consumed : Nat}
    (within : wire.state.stdout + consumed ≤ maxStdout) :
    (wire.handleLine consumed).2.pipes.reads = wire.pipes.reads ∧
      (wire.handleLine consumed).2.state.stdout = wire.state.stdout + consumed := by
  simp only [handleLine, Nat.not_lt.2 within, if_false]
  cases classify wire.state.line with
  | error error => exact ⟨rfl, rfl⟩
  | ok inbound =>
      obtain ⟨unread, counted, _⟩ := (handleInbound_effect ⟨{ wire.state with
        stdout := wire.state.stdout + consumed }, wire.pipes⟩ inbound).keeps
      exact ⟨unread, counted⟩

/-- A line in time is served as though it had been read whole. -/
theorem nextLine_line {due : Nat} {wire : Wire} {line : List UInt8}
    {rest : List (List UInt8)} (feeds : wire.Feeds (line :: rest))
    (ends : newline ∈ wire.inTime due) :
    (wire.nextLine due).1 = (wire.serve line).1 ∧
      (wire.serve line).2.Alike (wire.nextLine due).2 ∧ (wire.nextLine due).2.Feeds rest := by
  have split : bytesOf wire.pipes.reads =
      line ++ newline :: (rest.map (· ++ [newline])).flatten := by
    rw [feeds.bytes]
    simp
  obtain ⟨after, now, read, left, calm⟩ := @readLoop_line _ _ _ 0 [] line _ feeds.arrivals split
    (feeds.plain line List.mem_cons_self)
    (by simpa using feeds.short line List.mem_cons_self) ends
  have whole : wire.nextLine due =
      (⟨{ wire.state with line },
        { wire.pipes with
          clock := now, reads := after, log := .heard line :: wire.pipes.log }⟩ :
        Wire).handleLine (line.length + 1) := by
    simp [nextLine, readLineUntil, read, Except.isOk, Except.toBool, hold]
  obtain ⟨outcome, alike⟩ := @handleLine_alike _ _ (wire.loadLine line)
    ⟨{ wire.state with line },
      { wire.pipes with clock := now, reads := after, log := .heard line :: wire.pipes.log }⟩
    ⟨now, after, rfl⟩ (line.length + 1)
  have size : (bytesOf wire.pipes.reads).length =
      line.length + 1 + (bytesOf after).length := by
    rw [split, left]
    simp [Nat.add_assoc, Nat.add_comm]
  have within : wire.state.stdout + (line.length + 1) ≤ maxStdout := by
    have bound := feeds.within
    omega
  obtain ⟨unread, counted⟩ := @handleLine_keeps _ _ ⟨{ wire.state with line },
    { wire.pipes with clock := now, reads := after, log := .heard line :: wire.pipes.log }⟩
    (line.length + 1) within
  rw [whole]
  refine ⟨outcome, alike, ?_, ?_, ?_, ?_, ?_⟩
  · rw [unread]
    exact calm
  · rw [unread]
    exact left
  · exact fun other member => feeds.plain other (List.mem_cons_of_mem _ member)
  · exact fun other member => feeds.short other (List.mem_cons_of_mem _ member)
  · rw [unread, counted]
    have bound := feeds.within
    dsimp only
    omega

/-- A line that nothing arrives of in time changes nothing but the flag. -/
theorem nextLine_silent {due : Nat} {wire : Wire} {lines : List (List UInt8)}
    (feeds : wire.Feeds lines) (silent : wire.inTime due = []) :
    (wire.nextLine due).1 = .error (if wire.waiting then .ambiguous else .deadline) ∧
      Similar (wire.flag (wire.state.ambiguous || wire.waiting)) (wire.nextLine due).2 ∧
      (wire.nextLine due).2.Feeds lines := by
  obtain ⟨after, now, read, left, calm⟩ := @readLoop_silent _ _ _ 0 [] feeds.arrivals silent
  have whole : wire.nextLine due =
      (.error (if wire.waiting then .ambiguous else .deadline),
        ⟨{ wire.state with line := [], ambiguous := wire.state.ambiguous || wire.waiting },
          { wire.pipes with clock := now, reads := after }⟩) := by
    cases waits : wire.waiting with
    | true =>
        have same : Wire.waiting ⟨{ wire.state with line := [] },
            { wire.pipes with clock := now, reads := after }⟩ = true := waits
        simp [nextLine, readLineUntil, read, Except.isOk, Except.toBool, hold, same, flag]
    | false =>
        have same : Wire.waiting ⟨{ wire.state with line := [] },
            { wire.pipes with clock := now, reads := after }⟩ = false := waits
        simp [nextLine, readLineUntil, read, Except.isOk, Except.toBool, hold, same]
  rw [whole]
  refine ⟨rfl, ⟨now, after, rfl⟩, calm, left.trans feeds.bytes, feeds.plain, feeds.short, ?_⟩
  rw [left]
  exact feeds.within

/-! ## Calls -/

/-- The wire after a call. -/
def receive (wire : Wire) (deadline : Nat) : Wire := (wire.nextUntil deadline).2

/-- Results of the calls of a schedule. -/
def calls (wire : Wire) : List Nat → List (Except Error Received)
  | [] => []
  | deadline :: rest => (wire.nextUntil deadline).1 :: (wire.receive deadline).calls rest

omit [SerdeJson] [Blake3] in
/-- Results other than a deadline. -/
def told : Except Error Received → Bool
  | .error .deadline => false
  | _ => true

/-- What a schedule tells, deadlines ignored. -/
def outcomes (wire : Wire) (schedule : List Nat) : List (Except Error Received) :=
  (wire.calls schedule).filter told

/-- The deadline of the call passes with a first part of a line read. -/
def Cuts (wire : Wire) (deadline : Nat) : Prop :=
  (wire.state.pending = [] → wire.state.notifications = []) ∧
    ∃ mid, Quiet (wire.pipes.clock + deadline) wire mid ∧
      newline ∉ mid.inTime (wire.pipes.clock + deadline) ∧
      mid.inTime (wire.pipes.clock + deadline) ≠ []

omit [SerdeJson] [Blake3] in
/-- Nothing is left to read or to pop. -/
def Consumed (wire : Wire) : Prop :=
  bytesOf wire.pipes.reads = [] ∧ wire.state.notifications = []

omit [SerdeJson] [Blake3] in
/-- The same wire with every byte readable at once. -/
def atOnce (wire : Wire) : Wire :=
  { wire with
    pipes := wire.pipes.elsewhere wire.pipes.clock
      ((bytesOf wire.pipes.reads).map fun value => ⟨0, .byte value⟩) }

/-- The law of inbound framing for a schedule of calls.  With nothing outstanding the
calls tell what they would with every byte readable at once.  With a request outstanding,
a call to which no line arrives in time raises the flag, and the response is returned
once its line has been read. -/
structure FramingLaw (wire : Wire) (lines : List (List UInt8)) (schedule : List Nat) :
    Prop where
  complete : wire.state.pending = [] →
    ∃ ready, (Transition.run receive wire.atOnce ready).Consumed
  idle : wire.state.pending = [] → ∀ ready,
    (Transition.run receive wire.atOnce ready).Consumed →
      wire.outcomes schedule <+: wire.atOnce.outcomes ready ∧
      ((Transition.run receive wire schedule).Consumed →
        wire.outcomes schedule = wire.atOnce.outcomes ready)
  expired : ∀ first deadline rest pending, schedule = first ++ deadline :: rest →
    (Transition.run receive wire first).state.pending = [pending] →
    newline ∉ (Transition.run receive wire first).inTime
      ((Transition.run receive wire first).pipes.clock + deadline) →
      ((Transition.run receive wire first).nextUntil deadline).1 = .error .ambiguous ∧
      ((Transition.run receive wire first).receive deadline).state.ambiguous = true
  late : ∀ pending before response rest received, wire.state.pending = [pending] →
    pending.kind ≠ .handshake → lines = before ++ response :: rest →
    (∀ line ∈ before, ¬ wire.Correlates line) →
    classify response = .ok (.response pending.id) →
    parseResponse response pending = .ok received →
    (bytesOf (Transition.run receive wire schedule).pipes.reads).length ≤
        ((rest.map (· ++ [newline])).flatten).length →
      .ok received ∈ wire.calls schedule

/-- Whenever a call that cuts no line waits, no part of a line arrives in time. -/
private theorem clean_of_whole {wire : Wire} {deadline : Nat} (whole : ¬ wire.Cuts deadline)
    (queue : wire.state.pending = [] → wire.state.notifications = []) :
    ∀ mid, Quiet (wire.pipes.clock + deadline) wire mid →
      newline ∉ mid.inTime (wire.pipes.clock + deadline) →
        mid.inTime (wire.pipes.clock + deadline) = [] := by
  intro mid quiet absent
  by_contra some
  exact whole ⟨queue, mid, quiet, absent, some⟩

/-! ## With nothing outstanding -/

/-- What served lines tell. -/
def tells : Except Error (Option Received) → Option (Except Error Received)
  | .ok (some received) => some (.ok received)
  | .ok none => none
  | .error .deadline => none
  | .error error => some (.error error)

/-- What is to be told in all: the notifications kept back, then the lines. -/
def expected (wire : Wire) (lines : List (List UInt8)) : List (Except Error Received) :=
  wire.state.notifications.map (fun notification => .ok (.notification notification)) ++
    (Wire.served ⟨{ wire.state with notifications := [] }, wire.pipes⟩ lines).filterMap tells

omit [SerdeJson] [Blake3] in
private theorem tells_map (outcome : Except Error Received) :
    (tells (outcome.map some)).toList = [outcome].filter told := by
  rcases outcome with error | received
  · cases error <;> rfl
  · rfl

/-- With nothing outstanding every line ends the call, and nothing is awaited or kept back
after it. -/
theorem nextLine_idle {wire : Wire} (idle : wire.state.pending = []) (due : Nat) :
    (wire.nextLine due).1 ≠ .ok none ∧ (wire.nextLine due).2.state.pending = [] ∧
      (wire.nextLine due).2.state.notifications = wire.state.notifications := by
  have effect := nextLine_effect due wire
  revert effect
  generalize wire.nextLine due = read
  obtain ⟨outcome, after⟩ := read
  intro effect
  cases effect with
  | silent stopped same left => exact ⟨nofun, idle, rfl⟩
  | long logged left => exact ⟨nofun, idle, rfl⟩
  | malformed heard unread =>
      have state := heard.state
      exact ⟨nofun, by simp [flag, state, idle], by simp [flag, state]⟩
  | handled heard read effect =>
      have state := heard.state
      obtain ⟨returns, settled, kept⟩ := effect.idle (by rw [state]; exact idle)
      rw [state] at kept
      exact ⟨returns, settled, kept⟩

/-- With nothing outstanding a call cuts the first line or none. -/
theorem cuts_iff_of_idle {wire : Wire} (idle : wire.state.pending = []) (deadline : Nat) :
    wire.Cuts deadline ↔ wire.state.notifications = [] ∧
      newline ∉ wire.inTime (wire.pipes.clock + deadline) ∧
      wire.inTime (wire.pipes.clock + deadline) ≠ [] := by
  constructor
  · rintro ⟨queue, mid, quiet, part⟩
    cases quiet with
    | line read rest => exact absurd (by rw [read]) (nextLine_idle idle _).1
    | refl => exact ⟨queue idle, part⟩
  · rintro ⟨empty, part⟩
    exact ⟨fun _ => empty, wire, .refl wire, part⟩

/-- With no notification kept back only lines are to be told. -/
private theorem expected_of_empty {wire : Wire} (empty : wire.state.notifications = [])
    (lines : List (List UInt8)) :
    wire.expected lines = (wire.served lines).filterMap tells := by
  obtain ⟨⟨_, _, _, _, _, _, _, _⟩, _⟩ := wire
  obtain rfl := empty
  rfl

/-- Similar wires are to tell the same. -/
private theorem expected_similar {first second : Wire} (similar : first.Similar second)
    (lines : List (List UInt8)) : first.expected lines = second.expected lines := by
  obtain ⟨clock, reads, same⟩ := similar
  have state := congrArg Wire.state same
  have pipes := congrArg Wire.pipes same
  have kept : second.state.notifications = first.state.notifications := by
    simpa [hold] using congrArg TransportState.notifications state
  unfold expected
  rw [kept, served_similar _ lines]
  refine ⟨clock, reads, ?_⟩
  obtain ⟨⟨_, _, _, _, _, _, _, _⟩, _⟩ := second
  simp only [hold, Pipes.elsewhere, TransportState.mk.injEq] at state pipes
  simp [hold, Pipes.elsewhere, state, pipes]

omit [SerdeJson] [Blake3] in
/-- The bytes of some lines that arrive in time end a line unless there are none. -/
private theorem Feeds.first {due : Nat} {wire : Wire} {lines : List (List UInt8)}
    (feeds : wire.Feeds lines) (ends : newline ∈ wire.inTime due) :
    ∃ line rest, lines = line :: rest := by
  cases lines with
  | cons line rest => exact ⟨line, rest, rfl⟩
  | nil =>
      have bytes := (delivered_front _ _ _).subset ends
      rw [feeds.bytes] at bytes
      cases bytes

/-- A call with nothing outstanding that cuts no line tells the next of what is to be
told, or nothing. -/
private theorem receive_idle {wire : Wire} {lines : List (List UInt8)} {deadline : Nat}
    (idle : wire.state.pending = []) (feeds : wire.Feeds lines)
    (whole : ¬ wire.Cuts deadline) :
    ∃ left, (wire.receive deadline).state.pending = [] ∧
      (wire.receive deadline).Feeds left ∧
      [(wire.nextUntil deadline).1].filter told ++ (wire.receive deadline).expected left =
        wire.expected lines := by
  have effect := nextUntil_effect wire deadline
  unfold receive
  generalize wire.nextUntil deadline = called at effect
  obtain ⟨outcome, after⟩ := called
  cases effect with
  | popped _ queued =>
      refine ⟨lines, idle, ⟨feeds.arrivals, feeds.bytes, feeds.plain, feeds.short,
        feeds.within⟩, ?_⟩
      simp [expected, queued]
      rfl
  | @read mid _ _ queue quiet last =>
      have empty := queue idle
      cases quiet with
      | line read rest => exact absurd (by rw [read]) (nextLine_idle idle _).1
      | refl =>
          obtain ⟨_, settled, kept⟩ := nextLine_idle idle (wire.pipes.clock + deadline)
          rw [last] at settled kept
          by_cases ends : newline ∈ wire.inTime (wire.pipes.clock + deadline)
          · obtain ⟨line, rest, rfl⟩ := feeds.first ends
            obtain ⟨same, alike, later⟩ := nextLine_line feeds ends
            rw [last] at same alike later
            refine ⟨rest, settled, later, ?_⟩
            rw [expected_of_empty (kept.trans empty), expected_of_empty empty, served, ← same,
              ← served_similar alike.similar rest, List.filterMap_cons, ← tells_map]
            cases tells (outcome.map some) <;> rfl
          · have silent : wire.inTime (wire.pipes.clock + deadline) = [] := by
              by_contra some
              exact whole ⟨queue, wire, .refl wire, ends, some⟩
            obtain ⟨same, similar, later⟩ := nextLine_silent feeds silent
            rw [last] at same similar later
            refine ⟨lines, settled, later, ?_⟩
            rw [waiting_eq_false_iff.2 idle] at same similar
            rw [Bool.or_false, flag_same] at similar
            rw [expected_similar similar]
            have late : outcome = .error .deadline := by
              cases outcome with
              | error error => simpa [Except.map] using same
              | ok received => cases same
            rw [late]
            rfl

/-- What the calls tell and what is still to be told is what was to be told. -/
private theorem run_idle {wire : Wire} {lines : List (List UInt8)} {schedule : List Nat}
    (idle : wire.state.pending = []) (feeds : wire.Feeds lines)
    (whole : Transition.Along receive (fun wire deadline => ¬ wire.Cuts deadline) wire
      schedule) :
    ∃ left, (Transition.run receive wire schedule).Feeds left ∧
      wire.outcomes schedule ++ (Transition.run receive wire schedule).expected left =
        wire.expected lines := by
  induction schedule generalizing wire lines with
  | nil => exact ⟨lines, feeds, rfl⟩
  | cons deadline rest inductionHypothesis =>
      obtain ⟨now, later⟩ := whole
      obtain ⟨left, settled, feeds, told_⟩ := receive_idle idle feeds now
      obtain ⟨last, feeds, told'⟩ := inductionHypothesis settled feeds later
      refine ⟨last, feeds, ?_⟩
      rw [← told_, ← told', ← List.append_assoc, outcomes, outcomes, calls,
        ← List.filter_append, List.singleton_append]
      rfl

omit [SerdeJson] [Blake3] in
/-- With nothing left to read or pop nothing is to be told. -/
private theorem Consumed.expected [SerdeJson] [Blake3] {wire : Wire}
    {lines : List (List UInt8)} (consumed : wire.Consumed) (feeds : wire.Feeds lines) :
    wire.expected lines = [] := by
  have none : lines = [] := by
    cases lines with
    | nil => rfl
    | cons line rest =>
        have bytes := feeds.bytes
        rw [consumed.1] at bytes
        simp at bytes
  rw [none, Wire.expected, consumed.2]
  rfl

/-! ## Everything readable at once -/

omit [SerdeJson] [Blake3] in
/-- Every read brings a byte. -/
def Prompt (wire : Wire) : Prop :=
  ∀ read ∈ wire.pipes.reads, ∃ value, read.answer = .byte value

omit [SerdeJson] [Blake3] in
private theorem delivered_prompt {due clock : Nat} {reads : List (Timed ReadAnswer)}
    (prompt : ∀ read ∈ reads, ∃ value, read.answer = .byte value) :
    delivered due reads clock = bytesOf reads := by
  induction reads generalizing clock with
  | nil => rfl
  | cons read rest inductionHypothesis =>
      obtain ⟨elapsed, answer⟩ := read
      obtain ⟨value, same⟩ := prompt ⟨elapsed, answer⟩ List.mem_cons_self
      obtain rfl : answer = .byte value := same
      have later : delivered due rest (clock + elapsed) = bytesOf rest :=
        inductionHypothesis fun other member => prompt other (List.mem_cons_of_mem _ member)
      exact congrArg (value :: ·) later

omit [SerdeJson] [Blake3] in
/-- On a prompt wire a line is in time as soon as there is one. -/
private theorem Prompt.ends {due : Nat} {wire : Wire} {line : List UInt8}
    {rest : List (List UInt8)} (prompt : wire.Prompt) (feeds : wire.Feeds (line :: rest)) :
    newline ∈ wire.inTime due := by
  rw [inTime, delivered_prompt prompt, feeds.bytes]
  simp

/-- On a prompt wire no call cuts a line. -/
private theorem Prompt.whole {wire : Wire} {lines : List (List UInt8)} {deadline : Nat}
    (prompt : wire.Prompt) (idle : wire.state.pending = []) (feeds : wire.Feeds lines) :
    ¬ wire.Cuts deadline := by
  rw [cuts_iff_of_idle idle]
  rintro ⟨_, absent, some⟩
  cases lines with
  | cons line rest => exact absent (prompt.ends feeds)
  | nil =>
      rw [inTime, delivered_prompt prompt, feeds.bytes] at some
      exact some rfl

/-- What is left to read after a line was among what was left before. -/
theorem LineEffect.left {wire after : Wire} {outcome : Except Error (Option Received)}
    (effect : LineEffect wire outcome after) : after.pipes.reads <:+ wire.pipes.reads := by
  cases effect with
  | silent stopped same left => exact left
  | long logged left => exact left
  | malformed heard unread => exact heard.left
  | handled heard read effect =>
      rw [hold_pipes, effect.keeps.1]
      exact heard.left

/-- Receiving takes reads off the front. -/
theorem receive_left (wire : Wire) (deadline : Nat) :
    (wire.receive deadline).pipes.reads <:+ wire.pipes.reads := by
  have effect := nextUntil_effect wire deadline
  unfold receive
  generalize wire.nextUntil deadline = called at effect
  obtain ⟨outcome, after⟩ := called
  cases effect with
  | popped _ _ => exact List.suffix_refl _
  | @read mid after _ queue quiet last =>
      have early : mid.pipes.reads <:+ wire.pipes.reads := by
        refine @Quiet.keeps _ _ _ _ _ (fun mid => mid.pipes.reads <:+ wire.pipes.reads) quiet
          (fun mid next suffix read => ?_) (List.suffix_refl _)
        have effect := nextLine_effect (wire.pipes.clock + deadline) mid
        rw [read] at effect
        exact effect.left.trans suffix
      have effect := nextLine_effect (wire.pipes.clock + deadline) mid
      rw [last] at effect
      exact effect.left.trans early

/-- A prompt wire stays prompt. -/
theorem Prompt.receive {wire : Wire} (prompt : wire.Prompt) (deadline : Nat) :
    (wire.receive deadline).Prompt :=
  fun read member => prompt read ((receive_left wire deadline).subset member)

/-- No schedule of calls cuts a line on a prompt wire. -/
private theorem Prompt.along {wire : Wire} {lines : List (List UInt8)}
    (prompt : wire.Prompt) (idle : wire.state.pending = []) (feeds : wire.Feeds lines)
    (schedule : List Nat) :
    Transition.Along Wire.receive (fun wire deadline => ¬ wire.Cuts deadline) wire schedule := by
  induction schedule generalizing wire lines with
  | nil => trivial
  | cons deadline rest inductionHypothesis =>
      have whole : ¬ wire.Cuts deadline := prompt.whole idle feeds
      obtain ⟨left, settled, feeds, _⟩ := receive_idle idle feeds whole
      exact ⟨whole, inductionHypothesis (prompt.receive deadline) settled feeds⟩

/-- On a prompt wire some schedule consumes everything. -/
private theorem Prompt.consumes {wire : Wire} {lines : List (List UInt8)}
    (prompt : wire.Prompt) (idle : wire.state.pending = []) (feeds : wire.Feeds lines) :
    ∃ schedule, (Transition.run Wire.receive wire schedule).Consumed := by
  generalize size : wire.state.notifications.length + lines.length = count
  induction count generalizing wire lines with
  | zero =>
      obtain ⟨empty, none⟩ : wire.state.notifications.length = 0 ∧ lines.length = 0 := by omega
      refine ⟨[], ?_, List.length_eq_zero_iff.1 empty⟩
      rw [Transition.run_nil, feeds.bytes, List.length_eq_zero_iff.1 none]
      rfl
  | succ count inductionHypothesis =>
      suffices ∃ left, (wire.receive 0).state.pending = [] ∧ (wire.receive 0).Feeds left ∧
          (wire.receive 0).state.notifications.length + left.length = count by
        obtain ⟨left, settled, feeds, fewer⟩ := this
        obtain ⟨rest, consumed⟩ :=
          inductionHypothesis (prompt.receive 0) settled feeds fewer
        exact ⟨0 :: rest, consumed⟩
      have effect := nextUntil_effect wire 0
      unfold Wire.receive
      generalize wire.nextUntil 0 = called at effect
      obtain ⟨outcome, after⟩ := called
      cases effect with
      | popped _ queued =>
          refine ⟨lines, idle, ⟨feeds.arrivals, feeds.bytes, feeds.plain, feeds.short,
            feeds.within⟩, ?_⟩
          rw [queued, List.length_cons] at size
          dsimp only
          omega
      | @read mid after outcome queue quiet last =>
          have empty := queue idle
          cases quiet with
          | line read rest => exact absurd (by rw [read]) (nextLine_idle idle _).1
          | refl =>
              obtain ⟨_, settled, kept⟩ := nextLine_idle idle (wire.pipes.clock + 0)
              rw [last] at settled kept
              cases lines with
              | nil =>
                  rw [empty] at size
                  cases size
              | cons line rest =>
                  obtain ⟨_, _, later⟩ := nextLine_line feeds
                    (prompt.ends feeds : newline ∈ wire.inTime (wire.pipes.clock + 0))
                  rw [last] at later
                  refine ⟨rest, settled, later, ?_⟩
                  rw [empty, List.length_cons] at size
                  rw [show after.state.notifications = [] from kept.trans empty]
                  simpa using size

omit [SerdeJson] [Blake3] in
private theorem bytesOf_prompt (bytes : List UInt8) :
    bytesOf (bytes.map fun value => ⟨0, .byte value⟩) = bytes := by
  simp [bytesOf]

omit [SerdeJson] [Blake3] in
private theorem atOnce_prompt (wire : Wire) : wire.atOnce.Prompt := by
  intro read member
  obtain ⟨value, _, rfl⟩ := List.mem_map.1 member
  exact ⟨value, rfl⟩

omit [SerdeJson] [Blake3] in
private theorem Feeds.atOnce {wire : Wire} {lines : List (List UInt8)}
    (feeds : wire.Feeds lines) : wire.atOnce.Feeds lines where
  arrivals read member := by
    obtain ⟨value, same⟩ := atOnce_prompt wire read member
    rw [same]
    exact ⟨nofun, nofun⟩
  bytes := (bytesOf_prompt _).trans feeds.bytes
  plain := feeds.plain
  short := feeds.short
  within := by
    rw [show bytesOf wire.atOnce.pipes.reads = _ from bytesOf_prompt _]
    exact feeds.within

/-! ## With a request outstanding -/

/-- Only the handshake is answered by its end. -/
private theorem handshake_of_initialized {line : List UInt8} {pending : Pending}
    (read : parseResponse line pending = .ok .initialized) : pending.kind = .handshake := by
  unfold parseResponse at read
  split at read
  · cases read
  rename_i result _
  cases kind : pending.kind with
  | handshake => rfl
  | threadStart =>
      simp only [kind] at read
      split at read
      · cases read
      · rename_i thread _
        cases parsed : NativeRef.parseBorrowed thread <;> rw [parsed] at read <;> cases read
  | threadResume =>
      simp only [kind] at read
      split at read
      · cases read
      · rename_i thread _
        cases parsed : parseThreadStateRaw result thread <;> rw [parsed] at read <;> cases read
  | threadRead =>
      simp only [kind] at read
      split at read
      · cases read
      · rename_i thread _
        cases parsed : parseThreadStateRaw result thread <;> rw [parsed] at read <;> cases read
  | turnStart =>
      simp only [kind] at read
      split at read
      · cases read
      · rename_i turn _
        cases parsed : NativeRef.parseBorrowed turn <;> rw [parsed] at read <;> cases read

/-- The response is still to come: only lines that do not answer stand before it. -/
structure Awaits (wire : Wire) (pending : Pending) (response : List UInt8)
    (rest : List (List UInt8)) : Prop where
  busy : wire.state.pending = [pending]
  ahead : ∃ before, wire.Feeds (before ++ response :: rest) ∧
    ∀ line ∈ before, ¬ wire.Correlates line

/-- A line that does not answer leaves the request outstanding. -/
private theorem serve_apart {wire : Wire} {pending : Pending} {line : List UInt8}
    (busy : wire.state.pending = [pending]) (apart : ¬ wire.Correlates line) :
    (∀ received, (wire.serve line).1 ≠ .ok (some received)) ∧
      (wire.serve line).2.state.pending = [pending] := by
  have awaited : wire.state.pending.head? = some pending := by rw [busy]; rfl
  simp only [serve, handleLine]
  split_ifs
  · exact ⟨(by intro _ same; cases same), busy⟩
  simp only [loadLine]
  cases understood : classify line with
  | error error => exact ⟨(by intro _ same; cases same), busy⟩
  | ok inbound =>
      have effect := handleInbound_effect
        ⟨{ wire.state with line, stdout := wire.state.stdout + (line.length + 1) },
          { wire.pipes with log := .heard line :: wire.pipes.log }⟩ inbound
      suffices apart : (inbound = .response pending.id →
          ∃ error, parseResponse line pending = .error error) ∧
          inbound ≠ .nativeError pending.id by
        obtain ⟨returns, kept⟩ := effect.uncorrelated busy apart.1 apart.2
        exact ⟨returns, kept⟩
      constructor
      · rintro rfl
        cases read : parseResponse line pending with
        | error error => exact ⟨error, rfl⟩
        | ok received =>
            exact absurd ⟨pending, awaited, Or.inl ⟨understood, by rw [read]; rfl⟩⟩ apart
      · rintro rfl
        exact apart ⟨pending, awaited, Or.inr understood⟩

/-- What a call that is served a line does while the response is still to come: it returns
the response, or the response is still to come and nothing is returned. -/
private theorem nextLine_awaits {wire : Wire} {pending : Pending} {response : List UInt8}
    {rest : List (List UInt8)} {received : Received} {due : Nat}
    (awaits : wire.Awaits pending response rest) (other : pending.kind ≠ .handshake)
    (answers : classify response = .ok (.response pending.id))
    (read : parseResponse response pending = .ok received)
    (whole : newline ∉ wire.inTime due → wire.inTime due = []) :
    (wire.nextLine due).1 = .ok (some received) ∨
      (∀ received, (wire.nextLine due).1 ≠ .ok (some received)) ∧
        (wire.nextLine due).2.Awaits pending response rest := by
  obtain ⟨busy, before, feeds, apart⟩ := awaits
  by_cases ends : newline ∈ wire.inTime due
  · cases before with
    | nil =>
        obtain ⟨same, _, _⟩ := nextLine_line feeds ends
        have within : wire.state.stdout + (response.length + 1) ≤ maxStdout := by
          have bound := feeds.within
          rw [feeds.bytes] at bound
          simp only [List.nil_append, List.map_cons, List.flatten_cons, List.length_append,
            List.length_cons, List.length_nil] at bound
          omega
        have settled : received ≠ .initialized := fun same =>
          other (handshake_of_initialized (same ▸ read))
        left
        rw [same, serve, handleLine]
        simp [loadLine, Nat.not_lt.2 within, answers, handleInbound, handleResponse, busy, read,
          settled]
    | cons line more =>
        right
        obtain ⟨same, alike, later⟩ := nextLine_line feeds ends
        obtain ⟨returns, kept⟩ := serve_apart busy (apart line List.mem_cons_self)
        rw [same]
        have still : (wire.nextLine due).2.state.pending = [pending] := by rw [alike.state, kept]
        refine ⟨returns, still, more, later, fun line member correlates => ?_⟩
        obtain ⟨first, awaited, reads⟩ := correlates
        rw [still, ← busy] at awaited
        exact apart line (List.mem_cons_of_mem _ member) ⟨first, awaited, reads⟩
  · right
    obtain ⟨same, similar, later⟩ := nextLine_silent feeds (whole ends)
    rw [same]
    have kept : (wire.nextLine due).2.state.pending = wire.state.pending := by
      obtain ⟨clock, reads, same⟩ := similar
      simpa [hold, flag] using congrArg (fun wire => wire.state.pending) same
    refine ⟨(by intro _ same; cases same), kept.trans busy, before, later, fun line member correlates => ?_⟩
    obtain ⟨first, awaited, reads⟩ := correlates
    rw [kept] at awaited
    exact apart line member ⟨first, awaited, reads⟩

/-- A call that cuts no line returns the response or leaves it to come. -/
private theorem receive_awaits {wire : Wire} {pending : Pending} {response : List UInt8}
    {rest : List (List UInt8)} {received : Received} {deadline : Nat}
    (awaits : wire.Awaits pending response rest) (other : pending.kind ≠ .handshake)
    (answers : classify response = .ok (.response pending.id))
    (read : parseResponse response pending = .ok received) (whole : ¬ wire.Cuts deadline) :
    (wire.nextUntil deadline).1 = .ok received ∨
      (wire.receive deadline).Awaits pending response rest := by
  have effect := nextUntil_effect wire deadline
  unfold receive
  generalize wire.nextUntil deadline = called at effect
  obtain ⟨outcome, after⟩ := called
  cases effect with
  | popped idle _ =>
      rw [awaits.busy] at idle
      cases idle
  | @read mid _ _ queue quiet last =>
      have clean := clean_of_whole whole queue
      clear whole queue
      generalize wire.pipes.clock + deadline = due at quiet last clean
      induction quiet with
      | refl wire =>
          obtain same | ⟨_, still⟩ :=
            nextLine_awaits awaits other answers read (clean wire (.refl wire))
          · rw [last] at same
            left
            cases outcome with
            | error error => cases same
            | ok result =>
                cases same
                rfl
          · rw [last] at still
            exact Or.inr still
      | @line wire next after' step _ inductionHypothesis =>
          obtain same | ⟨_, still⟩ :=
            nextLine_awaits awaits other answers read (clean wire (.refl wire))
          · rw [step] at same
            cases same
          · rw [step] at still
            exact inductionHypothesis still last fun mid quiet => clean mid (.line step quiet)

/-- Once the line of the response has been read, a call has returned it. -/
private theorem run_awaits {wire : Wire} {pending : Pending} {response : List UInt8}
    {rest : List (List UInt8)} {received : Received} {schedule : List Nat}
    (awaits : wire.Awaits pending response rest) (other : pending.kind ≠ .handshake)
    (answers : classify response = .ok (.response pending.id))
    (read : parseResponse response pending = .ok received)
    (whole : Transition.Along receive (fun wire deadline => ¬ wire.Cuts deadline) wire
      schedule) :
    .ok received ∈ wire.calls schedule ∨
      (Transition.run receive wire schedule).Awaits pending response rest := by
  induction schedule generalizing wire with
  | nil => exact Or.inr awaits
  | cons deadline later inductionHypothesis =>
      obtain ⟨now, whole⟩ := whole
      obtain returned | still := receive_awaits awaits other answers read now
      · left
        rw [calls, returned]
        exact List.mem_cons_self
      · exact (inductionHypothesis still whole).imp_left (List.mem_cons_of_mem _)

/-- A call to which no line arrives in time, with a request outstanding, raises the flag. -/
private theorem receive_expired {wire : Wire} {pending : Pending} {deadline : Nat}
    {lines : List (List UInt8)} (feeds : wire.Feeds lines)
    (busy : wire.state.pending = [pending])
    (absent : newline ∉ wire.inTime (wire.pipes.clock + deadline))
    (whole : ¬ wire.Cuts deadline) :
    (wire.nextUntil deadline).1 = .error .ambiguous ∧
      (wire.receive deadline).state.ambiguous = true := by
  have silent : wire.inTime (wire.pipes.clock + deadline) = [] := by
    by_contra some
    refine whole ⟨fun idle => ?_, wire, .refl wire, absent, some⟩
    rw [busy] at idle
    cases idle
  have waits : wire.waiting = true := by
    rw [waiting, busy]
    rfl
  obtain ⟨same, similar, _⟩ := nextLine_silent feeds silent
  have flagged : (wire.nextLine (wire.pipes.clock + deadline)).2.state.ambiguous = true := by
    obtain ⟨clock, reads, same⟩ := similar
    simpa [hold, flag, waits] using congrArg (fun wire => wire.state.ambiguous) same
  have looped : wire.nextUntil deadline = (.error .ambiguous,
      (wire.nextLine (wire.pipes.clock + deadline)).2) := by
    rw [waits, if_pos rfl] at same
    unfold nextUntil
    split
    · rename_i idle _
      rw [waits] at idle
      cases idle
    · unfold nextLoop
      revert same
      generalize wire.nextLine (wire.pipes.clock + deadline) = read
      obtain ⟨outcome, after⟩ := read
      rintro rfl
      rfl
  rw [receive, looped]
  exact ⟨rfl, flagged⟩

/-- A call that cuts no line leaves whole lines. -/
private theorem receive_feeds {wire : Wire} {lines : List (List UInt8)} {deadline : Nat}
    (feeds : wire.Feeds lines) (whole : ¬ wire.Cuts deadline) :
    ∃ left, (wire.receive deadline).Feeds left := by
  have effect := nextUntil_effect wire deadline
  unfold receive
  generalize wire.nextUntil deadline = called at effect
  obtain ⟨outcome, after⟩ := called
  cases effect with
  | popped _ _ =>
      exact ⟨lines, feeds.arrivals, feeds.bytes, feeds.plain, feeds.short, feeds.within⟩
  | @read mid _ _ queue quiet last =>
      have clean := clean_of_whole whole queue
      clear whole queue
      generalize wire.pipes.clock + deadline = due at quiet last clean
      have stays {wire : Wire} {lines : List (List UInt8)} (feeds : wire.Feeds lines)
          (clean : newline ∉ wire.inTime due → wire.inTime due = []) :
          ∃ left, (wire.nextLine due).2.Feeds left := by
        by_cases ends : newline ∈ wire.inTime due
        · obtain ⟨line, rest, rfl⟩ := feeds.first ends
          exact ⟨rest, (nextLine_line feeds ends).2.2⟩
        · exact ⟨lines, (nextLine_silent feeds (clean ends)).2.2⟩
      induction quiet generalizing lines with
      | refl wire =>
          have left := stays feeds (clean wire (.refl wire))
          rwa [last] at left
      | @line wire next after' step _ inductionHypothesis =>
          obtain ⟨left, feeds⟩ := stays feeds (clean wire (.refl wire))
          rw [step] at feeds
          exact inductionHypothesis feeds last fun mid quiet => clean mid (.line step quiet)

/-- Every prefix of a schedule that cuts no line finds whole lines. -/
private theorem run_feeds {wire : Wire} {lines : List (List UInt8)} {schedule : List Nat}
    (feeds : wire.Feeds lines)
    (whole : Transition.Along receive (fun wire deadline => ¬ wire.Cuts deadline) wire
      schedule) :
    ∃ left, (Transition.run receive wire schedule).Feeds left := by
  induction schedule generalizing wire lines with
  | nil => exact ⟨lines, feeds⟩
  | cons deadline rest inductionHypothesis =>
      obtain ⟨left, feeds⟩ := receive_feeds feeds whole.1
      exact inductionHypothesis feeds whole.2

/-- A schedule of calls none of which cuts a line obeys the law of framing, whatever the
server sends and however its bytes arrive. -/
theorem framing_law (wire : Wire) (lines : List (List UInt8)) (schedule : List Nat)
    (feeds : wire.Feeds lines)
    (whole : Transition.Along receive (fun wire deadline => ¬ wire.Cuts deadline) wire
      schedule) : wire.FramingLaw lines schedule where
  complete idle := (atOnce_prompt wire).consumes idle feeds.atOnce
  idle idle ready consumed := by
    obtain ⟨left, stays, told_⟩ := run_idle idle feeds whole
    have ready_idle : wire.atOnce.state.pending = [] := idle
    obtain ⟨none, empties, all⟩ := run_idle ready_idle feeds.atOnce
      ((atOnce_prompt wire).along ready_idle feeds.atOnce ready)
    rw [consumed.expected empties, List.append_nil] at all
    have same : wire.atOnce.expected lines = wire.expected lines :=
      (expected_similar (Alike.similar ⟨_, _, rfl⟩) lines).symm
    rw [all, same, ← told_]
    refine ⟨List.prefix_append _ _, fun done => ?_⟩
    rw [done.expected stays, List.append_nil]
  expired first deadline rest pending split busy absent := by
    rw [split, Transition.along_append] at whole
    obtain ⟨early, now, _⟩ := whole
    obtain ⟨left, stays⟩ := run_feeds feeds early
    exact receive_expired stays busy absent now
  late pending before response rest received busy other split apart answers read short := by
    subst split
    have awaits : wire.Awaits pending response rest := ⟨busy, before, feeds, apart⟩
    refine (run_awaits awaits other answers read whole).resolve_right fun still => ?_
    obtain ⟨_, more, stays, _⟩ := still
    rw [stays.bytes] at short
    simp only [List.map_append, List.map_cons, List.flatten_append, List.flatten_cons,
      List.length_append, List.length_cons, List.length_nil] at short
    omega

end Wire

end Transport

/-! ## A notification in two reads -/

namespace Transport
namespace Sample

/-- A notification of the server. -/
def ping : String := "\x7b\"method\":\"ping\"\x7d"

/-- A transport after the handshake, with reads to come. -/
def listening (reads : List (Timed ReadAnswer)) : Wire :=
  ⟨{ TransportState.new with initialized := true }, ⟨0, reads, [], [], []⟩⟩

/-- The notification arrives in two parts, and a call comes between them. -/
def parted : Wire :=
  listening ((sent ping).take 3 ++ [⟨0, .wouldBlock⟩] ++ (sent ping).drop 3)

/-- The notification arrives after a call. -/
def delayed : Wire := listening (⟨0, .wouldBlock⟩ :: sent ping)

private theorem feeds_ping {reads : List (Timed ReadAnswer)}
    (arrivals : ∀ read ∈ reads, read.answer ≠ .ended ∧ read.answer ≠ .failed)
    (bytes : bytesOf reads = textBytes ping ++ [newline]) :
    (listening reads).Feeds [textBytes ping] where
  arrivals := arrivals
  bytes := by rw [listening, bytes]; simp
  plain line member := by
    rw [List.mem_singleton.1 member]
    decide +kernel
  short line member := by
    rw [List.mem_singleton.1 member]
    decide +kernel
  within := by
    rw [show bytesOf (listening reads).pipes.reads = _ from bytes]
    have small : (textBytes ping ++ [newline]).length ≤ maxStdout := by decide +kernel
    exact (Nat.zero_add _).trans_le small

/-- Read in two parts the notification is malformed, at once it is a signal. -/
theorem parted_notification_lost :
    parted.Feeds [textBytes ping] ∧ ¬ parted.FramingLaw [textBytes ping] [0, 0] := by
  refine ⟨feeds_ping (by decide +kernel) (by decide +kernel), fun law => ?_⟩
  have told : parted.outcomes [0, 0] = [.error .malformed] := by decide +kernel
  have whole : parted.atOnce.outcomes [0] = [.ok (.notification .signal)] := by decide +kernel
  have consumed : (Transition.run Wire.receive parted.atOnce [0]).Consumed :=
    ⟨by decide +kernel, by decide +kernel⟩
  have agrees := (law.idle rfl [0] consumed).1
  rw [told, whole] at agrees
  exact absurd agrees (by decide)

/-- A call between two lines loses nothing. -/
theorem delayed_notification_kept : delayed.FramingLaw [textBytes ping] [0, 0] := by
  refine Wire.framing_law delayed [textBytes ping] [0, 0]
    (feeds_ping (by decide +kernel) (by decide +kernel)) ⟨?_, ?_, trivial⟩
  · exact fun cuts => ((Wire.cuts_iff_of_idle rfl 0).1 cuts).2.2 (by decide +kernel)
  · have idle : (delayed.receive 0).state.pending = [] := by decide +kernel
    exact fun cuts => ((Wire.cuts_iff_of_idle idle 0).1 cuts).2.1 (by decide +kernel)

end Sample
end Transport
end Gearwit
