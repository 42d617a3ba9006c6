import Gearwit.Persist.Synthetic
import Gearwit.Transport.Messages

/-!
# Proofs of an active thread

The proof of an active thread hashes its flags and its turns back to back without a
count.  No flag is a status, and each turn takes two fields, so the boundary between the
two lists cannot move.
-/

namespace Gearwit
namespace Transport

open FieldEncoding

/-! ## Observations -/

/-- What the proof of an active thread is made of. -/
structure ActiveObservation where
  thread : NativeRef
  flags : List String
  turns : List BorrowedTurn
  active : String

namespace ActiveObservation

/-- The bytes that are hashed into the proof. -/
def encoding (observation : ActiveObservation) : List UInt8 :=
  domainTag "gearwit.codex-exact-active.v1" ++
    fields (activeFields observation.thread observation.thread "active" observation.flags
      observation.turns observation.active)

end ActiveObservation

/-- Flags an active thread may carry. -/
def KnownFlag (flag : String) : Prop :=
  flag = "waitingOnApproval" ∨ flag = "waitingOnUserInput"

/-- Statuses a turn may have. -/
def KnownStatus (status : String) : Prop :=
  status = "completed" ∨ status = "interrupted" ∨ status = "failed" ∨ status = "inProgress"

/-- A turn with a valid identifier and a known status. -/
structure KnownTurn (turn : BorrowedTurn) : Prop where
  identified : ∃ id, turn.id = some id ∧ (NativeRef.parseBorrowed id).isOk = true
  status : ∃ status, turn.status = some status ∧ KnownStatus status

/-- Identifiers of the turns in progress. -/
def inProgress (turns : List BorrowedTurn) : List (Option String) :=
  (turns.filter fun turn => turn.status == some "inProgress").map BorrowedTurn.id

/-- A thread of a result has the requested identifier and at most as many turns as the
client reads, all of them known. -/
structure ExactThread (thread : BorrowedThread) (requested : NativeRef)
    (turns : List BorrowedTurn) : Prop where
  id : thread.id = requested.text
  bounded : (NativeRef.parseBorrowed thread.id).isOk = true
  listed : thread.turns = some turns
  count : turns.length ≤ maxQueue
  known : ∀ turn ∈ turns, KnownTurn turn

/-- A thread shows an active observation. -/
structure ShowsActive (thread : BorrowedThread) (requested : NativeRef)
    (observation : ActiveObservation) : Prop where
  exactly : ExactThread thread requested observation.turns
  requested : observation.thread = requested
  status : thread.status = some ⟨"active", some observation.flags⟩
  flags : ∀ flag ∈ observation.flags, KnownFlag flag
  single : inProgress observation.turns = [some observation.active]

/-! ## The two loops -/

private theorem endedStatus_iff {status : Option String} :
    endedStatus status = true ↔
      status = some "completed" ∨ status = some "interrupted" ∨ status = some "failed" := by
  simp [endedStatus, or_assoc]

private theorem ended_known {turn : BorrowedTurn} {id : String} (identified : turn.id = some id)
    (valid : (NativeRef.parseBorrowed id).isOk = true) (ended : endedStatus turn.status = true) :
    KnownTurn turn ∧ (turn.status == some "inProgress") = false := by
  rcases endedStatus_iff.1 ended with same | same | same
  · exact ⟨⟨⟨id, identified, valid⟩, _, same, .inl rfl⟩, by rw [same]; decide⟩
  · exact ⟨⟨⟨id, identified, valid⟩, _, same, .inr (.inl rfl)⟩, by rw [same]; decide⟩
  · exact ⟨⟨⟨id, identified, valid⟩, _, same, .inr (.inr (.inl rfl))⟩, by rw [same]; decide⟩

/-- Every turn the loop passes is known, and it meets at most one in progress. -/
private theorem activeTurn_known {turns : List BorrowedTurn} {before : Option String}
    {active : String} (found : activeTurn turns before = some active) :
    (∀ turn ∈ turns, KnownTurn turn) ∧
      (before = none ∧ inProgress turns = [some active] ∨
        before = some active ∧ inProgress turns = []) := by
  induction turns generalizing before with
  | nil => exact ⟨nofun, .inr ⟨found, rfl⟩⟩
  | cons turn rest hypothesis =>
      unfold activeTurn at found
      split at found
      · cases found
      rename_i id identified
      split_ifs at found with valid ended progress
      · obtain ⟨known, quiet⟩ := ended_known identified valid ended
        obtain ⟨others, single⟩ := hypothesis found
        refine ⟨List.forall_mem_cons.2 ⟨known, others⟩, ?_⟩
        simpa only [inProgress, List.filter_cons, quiet, Bool.false_eq_true, if_false]
          using single
      · obtain ⟨status, rfl⟩ := progress
        have known : KnownTurn turn :=
          ⟨⟨id, identified, valid⟩, _, status, .inr (.inr (.inr rfl))⟩
        obtain ⟨others, single⟩ := hypothesis found
        refine ⟨List.forall_mem_cons.2 ⟨known, others⟩, .inl ⟨rfl, ?_⟩⟩
        rcases single with ⟨other, _⟩ | ⟨same, none⟩
        · cases other
        · simp only [inProgress] at none ⊢
          rw [List.filter_cons_of_pos (by rw [status]; decide), List.map_cons, none, identified]
          exact congrArg (fun active => [active]) same

private theorem parseActiveThread_shows {thread : BorrowedThread} {requested : NativeRef}
    {flags : List String} {active : String} (id : thread.id = requested.text)
    (bounded : (NativeRef.parseBorrowed thread.id).isOk = true)
    (status : thread.status = some ⟨"active", some flags⟩)
    (parsed : parseActiveThread thread flags = some active) :
    ∃ turns, ShowsActive thread requested ⟨requested, flags, turns, active⟩ := by
  unfold parseActiveThread at parsed
  split_ifs at parsed with foreign
  split at parsed
  · cases parsed
  rename_i turns listed
  split_ifs at parsed with count
  obtain ⟨known, ⟨_, single⟩ | ⟨other, _⟩⟩ := activeTurn_known parsed
  · refine ⟨turns, ⟨id, bounded, listed, Nat.le_of_not_lt count, known⟩, rfl, status, ?_, single⟩
    intro flag member
    by_contra unknown
    refine foreign (List.any_eq_true.2 ⟨flag, member, ?_⟩)
    simp only [KnownFlag, not_or] at unknown
    simp [unknown]
  · cases other

private theorem parseIdleThread_exact {thread : BorrowedThread} {requested : NativeRef}
    (id : thread.id = requested.text)
    (bounded : (NativeRef.parseBorrowed thread.id).isOk = true)
    (parsed : parseIdleThread thread = .idle) :
    ∃ turns, ExactThread thread requested turns ∧ inProgress turns = [] := by
  unfold parseIdleThread at parsed
  split at parsed
  · cases parsed
  rename_i turns listed
  split_ifs at parsed with refused
  simp only [not_or, Nat.not_lt, Bool.not_eq_true, List.any_eq_false, Bool.or_eq_false_iff,
    Bool.not_eq_false'] at refused
  obtain ⟨count, ended⟩ := refused
  have known (turn : BorrowedTurn) (member : turn ∈ turns) :
      KnownTurn turn ∧ (turn.status == some "inProgress") = false := by
    obtain ⟨identified, done⟩ := ended turn member
    obtain ⟨id, same, valid⟩ := (Option.any_eq_true _ _).1 identified
    exact ended_known same valid done
  refine ⟨turns, ⟨id, bounded, listed, count, fun turn member => (known turn member).1⟩, ?_⟩
  rw [inProgress, List.filter_eq_nil_iff.2 (fun turn member => by simp [(known turn member).2]),
    List.map_nil]

/-! ## What a result is mapped to -/

section Results

variable [SerdeJson] [Blake3]

omit [SerdeJson] [Blake3] in
private theorem parseBorrowed_isOk {value : String} {reference : NativeRef}
    (parsed : NativeRef.parseBorrowed value = .ok reference) :
    (NativeRef.parseBorrowed value).isOk = true ∧ value = reference.text := by
  refine ⟨by rw [parsed]; rfl, ?_⟩
  unfold NativeRef.parseBorrowed at parsed
  split_ifs at parsed
  cases parsed
  rfl

/-- What the thread of a result is mapped to. -/
private inductive Mapped (thread : BorrowedThread) (requested : NativeRef) : ThreadState → Prop
  | unproven : Mapped thread requested .unproven
  | idle : Mapped thread requested (parseIdleThread thread)
  | active {flags : List String} {active : String}
      (status : thread.status = some ⟨"active", some flags⟩)
      (parsed : parseActiveThread thread flags = some active) :
      Mapped thread requested (.activeTurn (Blake3.hash
        (domainTag "gearwit.codex-exact-active.v1" ++ fields (activeFields requested requested
          "active" flags (thread.turns.getD []) active))))

/-- A result is mapped only where it names the requested thread. -/
private theorem parseThreadStateRaw_mapped {result : RawValue} {requested : NativeRef}
    {state : ThreadState} (parsed : parseThreadStateRaw result requested = .ok state) :
    ∃ thread, SerdeJson.threadResult result = some thread ∧ thread.id = requested.text ∧
      (NativeRef.parseBorrowed thread.id).isOk = true ∧ Mapped thread requested state := by
  unfold parseThreadStateRaw at parsed
  split at parsed
  · cases parsed
  rename_i thread found
  refine ⟨thread, found, ?_⟩
  cases returned : NativeRef.parseBorrowed thread.id with
  | error error =>
      rw [returned] at parsed
      cases parsed
  | ok reference =>
      obtain ⟨bounded, same⟩ := parseBorrowed_isOk returned
      rw [returned] at parsed bounded
      simp only [bind, Except.bind] at parsed
      split_ifs at parsed with other
      obtain rfl := not_not.1 other
      refine ⟨same, bounded, ?_⟩
      split at parsed
      · cases parsed
        exact .unproven
      rename_i status stated
      split_ifs at parsed with idle active
      · cases parsed
        exact .idle
      · split at parsed
        · cases parsed
          exact .unproven
        rename_i flags carried
        split at parsed
        · cases parsed
          exact .unproven
        rename_i turn shown
        cases parsed
        obtain ⟨kind, activeFlags⟩ := status
        cases active
        cases carried
        exact .active stated shown
      · cases parsed
        exact .unproven

/-- A result that is mapped to an active turn shows the observation its proof is of. -/
theorem shows_of_activeTurn {result : RawValue} {requested : NativeRef} {prehash : Bytes32}
    (parsed : parseThreadStateRaw result requested = .ok (.activeTurn prehash)) :
    ∃ thread observation, SerdeJson.threadResult result = some thread ∧
      ShowsActive thread requested observation ∧
      prehash = Blake3.hash observation.encoding := by
  obtain ⟨thread, found, id, bounded, mapped⟩ := parseThreadStateRaw_mapped parsed
  generalize shown : ThreadState.activeTurn prehash = state at mapped
  cases mapped with
  | unproven => cases shown
  | idle =>
      unfold parseIdleThread at shown
      split at shown
      · cases shown
      · split_ifs at shown
  | active status active =>
      obtain ⟨turns, shows⟩ := parseActiveThread_shows id bounded status active
      refine ⟨thread, _, found, shows, ?_⟩
      rw [shows.exactly.listed] at shown
      exact ThreadState.activeTurn.inj shown

/-- A result that is mapped to an idle thread lists no turn in progress. -/
theorem exact_of_idle {result : RawValue} {requested : NativeRef}
    (parsed : parseThreadStateRaw result requested = .ok .idle) :
    ∃ thread turns, SerdeJson.threadResult result = some thread ∧
      ExactThread thread requested turns ∧ inProgress turns = [] := by
  obtain ⟨thread, found, id, bounded, mapped⟩ := parseThreadStateRaw_mapped parsed
  generalize shown : ThreadState.idle = state at mapped
  cases mapped with
  | unproven => cases shown
  | active status active => cases shown
  | idle =>
      obtain ⟨turns, exactly⟩ := parseIdleThread_exact id bounded shown.symm
      exact ⟨thread, turns, found, exactly⟩

end Results

/-! ## The encoding -/

/-- The texts a list of turns contributes. -/
private def turnTexts (turns : List BorrowedTurn) : List String :=
  turns.flatMap fun turn => [turn.id.getD "", turn.status.getD ""]

private theorem length_turnTexts (turns : List BorrowedTurn) :
    (turnTexts turns).length = 2 * turns.length := by
  simp [turnTexts, Nat.mul_comm]

private theorem turnTexts_injective {left right : List BorrowedTurn}
    (leftKnown : ∀ turn ∈ left, KnownTurn turn) (rightKnown : ∀ turn ∈ right, KnownTurn turn)
    (equal : turnTexts left = turnTexts right) : left = right := by
  induction left generalizing right with
  | nil =>
      cases right with
      | nil => rfl
      | cons turn rest => simp [turnTexts] at equal
  | cons turn rest hypothesis =>
      cases right with
      | nil => simp [turnTexts] at equal
      | cons other others =>
          simp only [turnTexts, List.flatMap_cons, List.cons_append, List.nil_append,
            List.cons.injEq] at equal
          obtain ⟨ids, statuses, rests⟩ := equal
          obtain ⟨known, knownRest⟩ := List.forall_mem_cons.1 leftKnown
          obtain ⟨otherKnown, knownOthers⟩ := List.forall_mem_cons.1 rightKnown
          rw [hypothesis knownRest knownOthers rests]
          obtain ⟨⟨id, identified, _⟩, status, stated, _⟩ := known
          obtain ⟨⟨otherId, otherIdentified, _⟩, otherStatus, otherStated, _⟩ := otherKnown
          cases turn
          cases other
          cases identified
          cases stated
          cases otherIdentified
          cases otherStated
          cases ids
          cases statuses
          rfl

private theorem KnownFlag.ne_status {flag status : String} (known : KnownFlag flag)
    (other : KnownStatus status) : flag ≠ status := by
  rcases known with rfl | rfl <;> rcases other with rfl | rfl | rfl | rfl <;> decide

/-- No flag stands where turns begin: by parity a second one would follow, in the place of
a status. -/
private theorem turnTexts_ne_flags {turns others : List BorrowedTurn} {flag : String}
    {rest : List String} (known : ∀ turn ∈ turns, KnownTurn turn)
    (flags : ∀ other ∈ flag :: rest, KnownFlag other) :
    turnTexts turns ≠ flag :: rest ++ turnTexts others := by
  intro equal
  have lengths := congrArg List.length equal
  rw [List.length_append, length_turnTexts, length_turnTexts, List.length_cons] at lengths
  obtain ⟨turn, more, rfl⟩ : ∃ turn more, turns = turn :: more := by
    cases turns with
    | nil =>
        simp only [List.length_nil] at lengths
        omega
    | cons turn more => exact ⟨turn, more, rfl⟩
  obtain ⟨second, remaining, rfl⟩ : ∃ second remaining, rest = second :: remaining := by
    cases rest with
    | nil =>
        simp only [List.length_cons, List.length_nil] at lengths
        omega
    | cons second remaining => exact ⟨second, remaining, rfl⟩
  simp only [turnTexts, List.flatMap_cons, List.cons_append, List.nil_append,
    List.cons.injEq] at equal
  obtain ⟨_, status, stated, knownStatus⟩ := known turn (by simp)
  rw [stated] at equal
  exact (flags second (by simp)).ne_status knownStatus equal.2.1.symm

/-- The boundary between the flags and the turns cannot move. -/
private theorem flags_injective {left right : List String}
    {leftTurns rightTurns : List BorrowedTurn}
    (leftFlags : ∀ flag ∈ left, KnownFlag flag) (rightFlags : ∀ flag ∈ right, KnownFlag flag)
    (leftKnown : ∀ turn ∈ leftTurns, KnownTurn turn)
    (rightKnown : ∀ turn ∈ rightTurns, KnownTurn turn)
    (equal : left ++ turnTexts leftTurns = right ++ turnTexts rightTurns) :
    left = right ∧ leftTurns = rightTurns := by
  induction left generalizing right with
  | nil =>
      cases right with
      | nil => exact ⟨rfl, turnTexts_injective leftKnown rightKnown equal⟩
      | cons flag rest => exact absurd equal (turnTexts_ne_flags leftKnown rightFlags)
  | cons flag rest hypothesis =>
      cases right with
      | nil => exact absurd equal.symm (turnTexts_ne_flags rightKnown leftFlags)
      | cons other others =>
          simp only [List.cons_append, List.cons.injEq] at equal
          obtain ⟨rfl, equal⟩ := equal
          obtain ⟨rfl, turns⟩ := hypothesis (List.forall_mem_cons.1 leftFlags).2
            (List.forall_mem_cons.1 rightFlags).2 equal
          exact ⟨rfl, turns⟩

/-- The texts a proof is made of, in order. -/
private def proofTexts (observation : ActiveObservation) : List String :=
  [observation.thread.text, observation.thread.text, "active"] ++
    (observation.flags ++ turnTexts observation.turns) ++
    ["exactly-one-active-turn", observation.active, version, dialect]

private theorem activeFields_texts (observation : ActiveObservation) :
    activeFields observation.thread observation.thread "active" observation.flags
      observation.turns observation.active = (proofTexts observation).map textBytes := by
  simp [activeFields, proofTexts, turnTexts, List.map_flatMap]

private theorem length_textBytes (text : String) :
    (textBytes text).length = text.utf8ByteSize := by
  rw [textBytes, Array.length_toList]
  rfl

private theorem countable_of_bounded {text : String} (bounded : text.utf8ByteSize ≤ 1024) :
    FieldEncoding.Countable (textBytes text) := by
  rw [FieldEncoding.Countable, length_textBytes]
  omega

private theorem bounded_of_parseBorrowed {text : String}
    (valid : (NativeRef.parseBorrowed text).isOk = true) : text.utf8ByteSize ≤ 1024 := by
  unfold NativeRef.parseBorrowed at valid
  split_ifs at valid with bounded
  · exact bounded.2
  · cases valid

private theorem KnownFlag.bounded {flag : String} (known : KnownFlag flag) :
    flag.utf8ByteSize ≤ 1024 := by
  rcases known with rfl | rfl <;> decide

private theorem KnownStatus.bounded {status : String} (known : KnownStatus status) :
    status.utf8ByteSize ≤ 1024 := by
  rcases known with rfl | rfl | rfl | rfl <;> decide

private theorem turnTexts_bounded {turns : List BorrowedTurn}
    (known : ∀ turn ∈ turns, KnownTurn turn) :
    ∀ text ∈ turnTexts turns, text.utf8ByteSize ≤ 1024 := by
  intro text member
  obtain ⟨turn, listed, among⟩ := List.mem_flatMap.1 member
  obtain ⟨⟨id, identified, valid⟩, status, stated, knownStatus⟩ := known turn listed
  rw [identified, stated] at among
  rcases List.mem_pair.1 among with rfl | rfl
  · exact bounded_of_parseBorrowed valid
  · exact knownStatus.bounded

namespace ShowsActive

variable {thread : BorrowedThread} {requested : NativeRef} {observation : ActiveObservation}

/-- The active turn is one of the listed turns, so its identifier is bounded. -/
private theorem active_bounded (shows : ShowsActive thread requested observation) :
    observation.active.utf8ByteSize ≤ 1024 := by
  have listed : some observation.active ∈ inProgress observation.turns := by
    rw [shows.single]
    exact List.mem_singleton_self _
  obtain ⟨turn, member, identified⟩ := List.mem_map.1 listed
  obtain ⟨id, same, valid⟩ :=
    (shows.exactly.known turn (List.mem_of_mem_filter member)).identified
  rw [identified] at same
  cases same
  exact bounded_of_parseBorrowed valid

private theorem texts_bounded (shows : ShowsActive thread requested observation) :
    ∀ text ∈ proofTexts observation, text.utf8ByteSize ≤ 1024 := by
  have name : observation.thread.text.utf8ByteSize ≤ 1024 := by
    rw [shows.requested, ← shows.exactly.id]
    exact bounded_of_parseBorrowed shows.exactly.bounded
  intro text member
  simp only [proofTexts, List.mem_append, List.mem_cons, List.not_mem_nil, or_false] at member
  rcases member with ((rfl | rfl | rfl) | flag | turn) | rfl | rfl | rfl | rfl
  · exact name
  · exact name
  · decide
  · exact (shows.flags text flag).bounded
  · exact turnTexts_bounded shows.exactly.known text turn
  · decide
  · exact shows.active_bounded
  · decide
  · decide

/-- Two observations with one encoding are the same. -/
theorem encoding_injective {other : BorrowedThread} {asked : NativeRef}
    {twin : ActiveObservation} (shows : ShowsActive thread requested observation)
    (alike : ShowsActive other asked twin) (equal : observation.encoding = twin.encoding) :
    observation = twin := by
  have encoded := (List.append_inj equal rfl).2
  rw [activeFields_texts, activeFields_texts] at encoded
  have countable (shown : ActiveObservation)
      (bounded : ∀ text ∈ proofTexts shown, text.utf8ByteSize ≤ 1024) :
      ∀ value ∈ (proofTexts shown).map textBytes, FieldEncoding.Countable value := by
    intro value member
    obtain ⟨text, listed, rfl⟩ := List.mem_map.1 member
    exact countable_of_bounded (bounded text listed)
  have texts := List.map_injective_iff.2 textBytes_injective
    (fields_injective (countable _ shows.texts_bounded) (countable _ alike.texts_bounded) encoded)
  obtain ⟨front, back⟩ := List.append_inj' texts rfl
  obtain ⟨head, middle⟩ := List.append_inj front rfl
  obtain ⟨flags, turns⟩ := flags_injective shows.flags alike.flags shows.exactly.known
    alike.exactly.known middle
  simp only [List.cons.injEq] at head back
  obtain ⟨⟨name⟩, flagList, turnList, turn⟩ := observation
  obtain ⟨⟨otherName⟩, otherFlags, otherTurns, otherTurn⟩ := twin
  cases head.1
  cases flags
  cases turns
  cases back.2.1
  rfl

end ShowsActive

/-- A thread state is mapped only from a result about the requested thread that lists at
most as many turns as the client reads, all of them known; an idle thread has none in
progress, and the proof of an active one is the hash of an encoding that no other
observation shares. -/
theorem active_proof_pins_observation [SerdeJson] [Blake3] :
    (∀ result requested, parseThreadStateRaw result requested = .ok .idle →
      ∃ thread turns, SerdeJson.threadResult result = some thread ∧
        ExactThread thread requested turns ∧ inProgress turns = []) ∧
    (∀ result requested prehash,
      parseThreadStateRaw result requested = .ok (.activeTurn prehash) →
      ∃ thread observation, SerdeJson.threadResult result = some thread ∧
        ShowsActive thread requested observation ∧
        prehash = Blake3.hash observation.encoding) ∧
    (∀ thread requested observation other asked twin,
      ShowsActive thread requested observation → ShowsActive other asked twin →
      observation.encoding = twin.encoding →
      observation = twin) := by
  refine ⟨fun _ _ idle => exact_of_idle idle, fun _ _ _ active => shows_of_activeTurn active, ?_⟩
  intro thread requested observation other asked twin shows alike equal
  exact shows.encoding_injective alike equal

namespace Sample

/-- A thread that waits on an approval, with one turn. -/
def waitingOnce : ActiveObservation :=
  ⟨⟨"t"⟩, ["waitingOnApproval"], [⟨some "u", some "inProgress"⟩], "u"⟩

/-- The same thread after a turn that is named like its flag. -/
def waitingAgain : ActiveObservation :=
  ⟨⟨"t"⟩, ["waitingOnApproval"],
    [⟨some "waitingOnApproval", some "completed"⟩, ⟨some "u", some "inProgress"⟩], "u"⟩

/-- The thread of an observation. -/
def shown (observation : ActiveObservation) : BorrowedThread :=
  ⟨observation.thread.text, some ⟨"active", some observation.flags⟩, some observation.turns⟩

/-- A reader of two results. -/
scoped instance activeThreads : SerdeJson where
  envelope _ := none
  value _ := none
  natural _ := none
  threadRef _ := none
  turnRef _ := none
  threadResult raw :=
    if raw.text = "once" then some (shown waitingOnce)
    else if raw.text = "again" then some (shown waitingAgain)
    else none
  notification _ := none
  pieces _ := []

private theorem knownTurn_of {id status : String} (valid : (NativeRef.parseBorrowed id).isOk = true)
    (known : KnownStatus status) : KnownTurn ⟨some id, some status⟩ :=
  ⟨⟨id, rfl, valid⟩, status, rfl, known⟩

open Gearwit.Sample in
/-- A turn named like a flag does not pass for the flag. -/
theorem named_like_flag_apart :
    parseThreadStateRaw ⟨"once"⟩ ⟨"t"⟩ =
        .ok (.activeTurn (Blake3.hash waitingOnce.encoding)) ∧
      parseThreadStateRaw ⟨"again"⟩ ⟨"t"⟩ =
        .ok (.activeTurn (Blake3.hash waitingAgain.encoding)) ∧
      waitingOnce.encoding ≠ waitingAgain.encoding := by
  have running : KnownTurn ⟨some "u", some "inProgress"⟩ :=
    knownTurn_of (by decide) (.inr (.inr (.inr rfl)))
  have named : KnownTurn ⟨some "waitingOnApproval", some "completed"⟩ :=
    knownTurn_of (by decide) (.inl rfl)
  have flags : ∀ flag ∈ ["waitingOnApproval"], KnownFlag flag := by
    simp [KnownFlag]
  have once : ShowsActive (shown waitingOnce) ⟨"t"⟩ waitingOnce :=
    ⟨⟨rfl, by decide, rfl, by decide, List.forall_mem_cons.2 ⟨running, by simp⟩⟩, rfl, rfl, flags,
      by decide⟩
  have again : ShowsActive (shown waitingAgain) ⟨"t"⟩ waitingAgain :=
    ⟨⟨rfl, by decide, rfl, by decide,
      List.forall_mem_cons.2 ⟨named, List.forall_mem_cons.2 ⟨running, by simp⟩⟩⟩, rfl, rfl, flags,
      by decide⟩
  refine ⟨by rfl, by rfl, ?_⟩
  intro equal
  have same := active_proof_pins_observation.2.2 _ _ _ _ _ _ once again equal
  exact absurd (congrArg (fun observation => observation.turns.length) same) (by decide)

end Sample

end Transport
end Gearwit
