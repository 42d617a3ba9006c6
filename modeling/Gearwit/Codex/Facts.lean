import Gearwit.Codex.Operations

/-!
# Facts about a turn

What polls of one scope hear and report, and when the flags of a controller agree with
both.  A completion that comes before the start is kept aside until the start was
reported.
-/

namespace Gearwit
namespace Codex

open Transport

/-! ## What polls hear -/

/-- What a poll received, with the names its scope's thread and turn then had. -/
structure HeardItem where
  thread : String
  turn : String
  outcome : Except Error Received

namespace HeardItem

/-- The start of exactly the scope's turn. -/
def starts (item : HeardItem) : Bool :=
  match item.outcome with
  | .ok (.notification (.turnStarted thread turn)) =>
      decide (thread.text = item.thread ∧ turn.text = item.turn)
  | _ => false

/-- The class of a completion of exactly the scope's turn, where its status is known. -/
def completion (item : HeardItem) : Option NativeClass :=
  match item.outcome with
  | .ok (.notification (.terminal thread turn nativeClass)) =>
      if thread.text = item.thread ∧ turn.text = item.turn then some nativeClass else none
  | _ => none

end HeardItem

/-- A start of the scope's turn was heard. -/
def Began (heard : List HeardItem) : Prop := ∃ item ∈ heard, item.starts = true

/-- The first known completion of the scope's turn. -/
def firstCompletion (heard : List HeardItem) : Option NativeClass :=
  heard.findSome? HeardItem.completion

namespace CodexController

variable {P : Type} [SerdeJson] [Blake3]

/-- What the loop of an observation hears. -/
def hearing (turnRef : PrivateNativeRef) (expectedThread expectedTurn : String) :
    Nat → CodexController P → List HeardItem
  | fuel, controller =>
      match controller.receiveUntil 0 with
      | (.ok (.notification notification), controller) =>
          ⟨expectedThread, expectedTurn, .ok (.notification notification)⟩ ::
            match controller.bumpEpoch.observe turnRef expectedThread expectedTurn
              notification with
            | .reports _ => []
            | .continues controller =>
                match fuel with
                | 0 => []
                | fuel + 1 => hearing turnRef expectedThread expectedTurn fuel controller
      | (other, _) => [⟨expectedThread, expectedTurn, other⟩]

variable [Persist P]

/-- What a poll hears. -/
def polled (controller : CodexController P) (scope : ObservationScope) : List HeardItem :=
  if scope.correlation.birthId ≠ controller.birth.birthId ∨
      scope.correlation.threadRef ≠ controller.threadRef then []
  else if controller.lostReported then []
  else
    match scope.correlation.turnRef with
    | none => []
    | some turnRef =>
        match (if controller.startedTurn = some turnRef then controller.pendingTerminal
          else none) with
        | some _ => []
        | none =>
            match controller.openedThread with
            | .error _ => []
            | .ok thread =>
                match (Persist.openNativeCoordinate scope.turnScope turnRef
                  controller.persist).toOption.bind openedText with
                | none => []
                | some turn =>
                    hearing turnRef thread.text turn controller.transport.fuel controller

end CodexController

/-! ## What is reported -/

/-- A start. -/
def isStarted : Option NativeTurnFact → Bool
  | some (.started _) => true
  | _ => false

/-- A recognized end. -/
def isTerminal : Option NativeTurnFact → Bool
  | some (.terminal _ _) => true
  | _ => false

/-- An end is reported after the start. -/
def EndsAfterStart (turnRef : PrivateNativeRef) (facts : List (Option NativeTurnFact)) : Prop :=
  ∀ earlier reference ended later,
    facts = earlier ++ some (.terminal reference ended) :: later →
      some (.started turnRef) ∈ earlier

/-- Nothing is reported after the loss of the controller. -/
def LossIsLast (facts : List (Option NativeTurnFact)) : Prop :=
  ∀ earlier later, facts = earlier ++ some .controllerLost :: later → ∀ fact ∈ later, fact = none

/-- The facts that polls of one turn reported, in their order, are exact for what the polls
heard. -/
structure ExactFacts (turnRef : PrivateNativeRef) (facts : List (Option NativeTurnFact))
    (heard : List HeardItem) : Prop where
  startedOnce : facts.filter isStarted = [] ∨ facts.filter isStarted = [some (.started turnRef)]
  startedHeard : some (.started turnRef) ∈ facts → Began heard
  terminalOnce : facts.filter isTerminal = [] ∨ ∃ nativeClass,
    firstCompletion heard = some nativeClass ∧
      facts.filter isTerminal = [some (.terminal turnRef (terminalClass nativeClass))]
  ordered : EndsAfterStart turnRef facts
  lostLast : LossIsLast facts
  complete : facts.getLast? = some none → Began heard →
    some (.started turnRef) ∈ facts ∧
      ((firstCompletion heard).isSome → ∃ ended, some (.terminal turnRef ended) ∈ facts)

/-! ## One more item and one more fact -/

section Appending

variable {turnRef : PrivateNativeRef} {facts : List (Option NativeTurnFact)}
  {fact : Option NativeTurnFact} {heard : List HeardItem} {item : HeardItem}

/-- A turn began when it had begun or the last item starts it. -/
theorem began_append : Began (heard ++ [item]) ↔ Began heard ∨ item.starts = true := by
  simp [Began, or_and_right, exists_or]

/-- A first completion stays the first. -/
theorem firstCompletion_append :
    firstCompletion (heard ++ [item]) = (firstCompletion heard).or item.completion := by
  simp [firstCompletion, List.findSome?_append, List.findSome?_cons]
  cases item.completion <;> rfl

/-- Without facts nothing ends before it starts. -/
theorem EndsAfterStart.nil (turnRef : PrivateNativeRef) : EndsAfterStart turnRef [] := by
  intro earlier reference ended later same
  cases earlier <;> cases same

/-- Without facts nothing follows a loss. -/
theorem LossIsLast.nil : LossIsLast [] := by
  intro earlier later same
  cases earlier <;> cases same

/-- Nothing reported of nothing heard. -/
theorem ExactFacts.nil (turnRef : PrivateNativeRef) : ExactFacts turnRef [] [] where
  startedOnce := .inl rfl
  startedHeard member := by cases member
  terminalOnce := .inl rfl
  ordered := .nil turnRef
  lostLast := .nil
  complete last := by cases last

/-- A further fact ends only what was started. -/
theorem EndsAfterStart.append (before : EndsAfterStart turnRef facts)
    (started : ∀ reference ended, fact = some (.terminal reference ended) →
      some (.started turnRef) ∈ facts) : EndsAfterStart turnRef (facts ++ [fact]) := by
  intro earlier reference ended later same
  rcases List.eq_nil_or_concat later with rfl | ⟨others, last, rfl⟩
  · obtain ⟨rfl, final⟩ := List.append_inj' same rfl
    exact started reference ended (List.singleton_inj.1 final)
  · rw [List.concat_eq_append, ← List.cons_append, ← List.append_assoc] at same
    exact before earlier reference ended others (List.append_inj' same rfl).1

/-- Nothing is added behind a loss. -/
theorem LossIsLast.append (before : LossIsLast facts)
    (quiet : some .controllerLost ∈ facts → fact = none) : LossIsLast (facts ++ [fact]) := by
  intro earlier later same other member
  rcases List.eq_nil_or_concat later with rfl | ⟨others, last, rfl⟩
  · cases member
  · rw [List.concat_eq_append, ← List.cons_append, ← List.append_assoc] at same
    obtain ⟨whole, final⟩ := List.append_inj' same rfl
    rw [List.concat_eq_append] at member
    rcases List.mem_append.1 member with inside | final'
    · exact before earlier others whole other inside
    · rw [List.mem_singleton.1 final', ← List.singleton_inj.1 final]
      refine quiet ?_
      rw [whole]
      exact List.mem_append_right _ (List.mem_cons_self ..)

end Appending

/-! ## The flags of a controller -/

/-- The flags of a controller say what its polls heard and reported. -/
structure Tracks {P : Type} (turnRef : PrivateNativeRef) (controller : CodexController P)
    (facts : List (Option NativeTurnFact)) (heard : List HeardItem) : Prop where
  began : controller.startedTurn = some turnRef ↔ Began heard
  started : facts.filter isStarted =
    if controller.startedTurn = some turnRef then [some (.started turnRef)] else []
  parked : controller.pendingTerminal =
    if controller.terminal = true then none
    else (firstCompletion heard).map fun nativeClass => (turnRef, nativeClass)
  ended : controller.terminal = true →
    controller.startedTurn = some turnRef ∧ ∃ nativeClass,
      firstCompletion heard = some nativeClass ∧
        facts.filter isTerminal = [some (.terminal turnRef (terminalClass nativeClass))]
  unended : controller.terminal = false → facts.filter isTerminal = []
  ordered : EndsAfterStart turnRef facts
  lost : some .controllerLost ∈ facts → controller.lostReported = true
  lostLast : LossIsLast facts
  settled : controller.lostReported = true ∨ facts.getLast? = some none →
    controller.startedTurn = some turnRef → controller.pendingTerminal = none

/-- What only a poll changes, and what nothing changes. -/
structure Unpolled {P : Type} (controller after : CodexController P) : Prop where
  birth : after.birth = controller.birth
  threadRef : after.threadRef = controller.threadRef
  startedTurn : after.startedTurn = controller.startedTurn
  pendingTerminal : after.pendingTerminal = controller.pendingTerminal
  terminal : after.terminal = controller.terminal
  lostReported : after.lostReported = controller.lostReported

section Tracking

variable {P : Type} {turnRef : PrivateNativeRef} {controller after : CodexController P}
  {facts : List (Option NativeTurnFact)} {heard : List HeardItem}

/-- A controller that does nothing polled nothing. -/
theorem Unpolled.refl (controller : CodexController P) : Unpolled controller controller :=
  ⟨rfl, rfl, rfl, rfl, rfl, rfl⟩

/-- Not polling composes. -/
theorem Unpolled.trans {mid : CodexController P} (first : Unpolled controller mid)
    (second : Unpolled mid after) : Unpolled controller after :=
  ⟨second.birth.trans first.birth, second.threadRef.trans first.threadRef,
    second.startedTurn.trans first.startedTurn,
    second.pendingTerminal.trans first.pendingTerminal, second.terminal.trans first.terminal,
    second.lostReported.trans first.lostReported⟩

/-- What was tracked stays tracked without a poll. -/
theorem Tracks.unpolled (tracks : Tracks turnRef controller facts heard)
    (unpolled : Unpolled controller after) : Tracks turnRef after facts heard where
  began := by rw [unpolled.startedTurn, tracks.began]
  started := by rw [unpolled.startedTurn, tracks.started]
  parked := by rw [unpolled.pendingTerminal, unpolled.terminal, tracks.parked]
  ended := by
    rw [unpolled.terminal, unpolled.startedTurn]
    exact tracks.ended
  unended := by
    rw [unpolled.terminal]
    exact tracks.unended
  ordered := tracks.ordered
  lost := by
    rw [unpolled.lostReported]
    exact tracks.lost
  lostLast := tracks.lostLast
  settled := by
    rw [unpolled.lostReported, unpolled.startedTurn, unpolled.pendingTerminal]
    exact tracks.settled

variable {item : HeardItem} {fact : Option NativeTurnFact}

/-- An item that brings nothing new. -/
theorem Tracks.skips (tracks : Tracks turnRef controller facts heard)
    (starts : item.starts = true → controller.startedTurn = some turnRef)
    (completes : ∀ nativeClass, item.completion = some nativeClass →
      ∃ first, firstCompletion heard = some first) :
    Tracks turnRef controller facts (heard ++ [item]) := by
  have first : firstCompletion (heard ++ [item]) = firstCompletion heard := by
    rw [firstCompletion_append]
    cases completion : item.completion with
    | none => rw [Option.or_none]
    | some nativeClass =>
        obtain ⟨first, known⟩ := completes nativeClass completion
        rw [known, Option.some_or]
  refine { tracks with began := ?_, parked := ?_, ended := ?_ }
  · rw [began_append, ← tracks.began]
    exact ⟨.inl, fun either => either.elim id starts⟩
  · rw [first]
    exact tracks.parked
  · rw [first]
    exact tracks.ended

/-- A fact that is neither the start nor the end. -/
theorem Tracks.tells (tracks : Tracks turnRef controller facts heard)
    (birth : after.startedTurn = controller.startedTurn)
    (parked : after.pendingTerminal = controller.pendingTerminal)
    (terminal : after.terminal = controller.terminal)
    (clear : controller.startedTurn = some turnRef → controller.pendingTerminal = none)
    (plain : isStarted fact = false ∧ isTerminal fact = false)
    (lost : after.lostReported = true ↔
      controller.lostReported = true ∨ fact = some .controllerLost)
    (quiet : controller.lostReported = true → fact = none) :
    Tracks turnRef after (facts ++ [fact]) heard where
  began := by rw [birth, tracks.began]
  started := by
    rw [birth, List.filter_append, tracks.started, List.filter_singleton, plain.1]
    simp
  parked := by rw [parked, terminal, tracks.parked]
  ended := by
    rw [terminal, birth, List.filter_append, List.filter_singleton, plain.2]
    simpa using tracks.ended
  unended := by
    rw [terminal, List.filter_append, List.filter_singleton, plain.2]
    simpa using tracks.unended
  ordered := tracks.ordered.append fun reference ended same => by
    rw [same] at plain
    cases plain.2
  lost member := by
    rcases List.mem_append.1 member with inside | final
    · exact lost.2 (.inl (tracks.lost inside))
    · exact lost.2 (.inr (List.mem_singleton.1 final).symm)
  lostLast := tracks.lostLast.append fun member => quiet (tracks.lost member)
  settled := by
    rw [birth, parked]
    exact fun _ => clear

/-- The start is heard and reported. -/
theorem Tracks.starts (tracks : Tracks turnRef controller facts heard)
    (unbegun : controller.startedTurn ≠ some turnRef) (live : controller.lostReported = false)
    (starts : item.starts = true) (uncompleted : item.completion = none) :
    Tracks turnRef { controller with startedTurn := some turnRef }
      (facts ++ [some (.started turnRef)]) (heard ++ [item]) where
  began := iff_of_true rfl (began_append.2 (.inr starts))
  started := by
    rw [List.filter_append, tracks.started, if_neg unbegun, if_pos rfl]
    rfl
  parked := by
    rw [firstCompletion_append, uncompleted, Option.or_none]
    exact tracks.parked
  ended ended := absurd (tracks.ended ended).1 unbegun
  unended unended := by
    rw [List.filter_append, tracks.unended unended]
    rfl
  ordered := tracks.ordered.append fun reference ended same => by cases same
  lost member := by
    rcases List.mem_append.1 member with inside | final
    · exact tracks.lost inside
    · cases List.mem_singleton.1 final
  lostLast := tracks.lostLast.append fun member => by
    rw [tracks.lost member] at live
    cases live
  settled last := by
    rcases last with lost | last
    · rw [show controller.lostReported = true from lost] at live
      cases live
    · rw [List.getLast?_concat] at last
      cases last

/-- The completion is heard after the start and reported. -/
theorem Tracks.ends (tracks : Tracks turnRef controller facts heard) {nativeClass : NativeClass}
    (begun : controller.startedTurn = some turnRef) (open' : controller.terminal = false)
    (clear : controller.pendingTerminal = none) (live : controller.lostReported = false)
    (plain : item.starts = false) (completes : item.completion = some nativeClass) :
    Tracks turnRef { controller with terminal := true }
      (facts ++ [some (.terminal turnRef (terminalClass nativeClass))]) (heard ++ [item]) := by
  have none : firstCompletion heard = none := by
    have parked := tracks.parked
    rw [clear, open'] at parked
    exact Option.map_eq_none_iff.1 parked.symm
  have started : some (.started turnRef) ∈ facts := by
    have counted : some (.started turnRef) ∈ facts.filter isStarted := by
      rw [tracks.started, if_pos begun]
      exact List.mem_singleton_self _
    exact (List.mem_filter.1 counted).1
  exact
    { began := by
        rw [began_append, ← tracks.began, plain]
        simp
      started := by
        rw [List.filter_append, tracks.started]
        simp [isStarted]
      parked := by
        rw [if_pos rfl]
        exact clear
      ended := fun _ => by
        refine ⟨begun, nativeClass, ?_, ?_⟩
        · rw [firstCompletion_append, none, completes]
          rfl
        · rw [List.filter_append, tracks.unended open']
          rfl
      unended := fun ended => by cases ended
      ordered := tracks.ordered.append fun _ _ _ => started
      lost := fun member => by
        rcases List.mem_append.1 member with inside | final
        · exact tracks.lost inside
        · cases List.mem_singleton.1 final
      lostLast := tracks.lostLast.append fun member => by
        rw [tracks.lost member] at live
        cases live
      settled := fun _ _ => clear }

/-- The completion is heard before the start and kept aside. -/
theorem Tracks.parks (tracks : Tracks turnRef controller facts heard) {nativeClass : NativeClass}
    (unbegun : controller.startedTurn ≠ some turnRef) (open' : controller.terminal = false)
    (clear : controller.pendingTerminal = none)
    (plain : item.starts = false) (completes : item.completion = some nativeClass) :
    Tracks turnRef { controller with pendingTerminal := some (turnRef, nativeClass) } facts
      (heard ++ [item]) := by
  have none : firstCompletion heard = none := by
    have parked := tracks.parked
    rw [clear, open'] at parked
    exact Option.map_eq_none_iff.1 parked.symm
  exact
    { tracks with
      began := by
        rw [began_append, ← tracks.began, plain]
        simp
      parked := by
        rw [firstCompletion_append, none, completes]
        change some (turnRef, nativeClass) = if controller.terminal = true then _ else _
        rw [open']
        rfl
      ended := fun ended => by
        rw [show controller.terminal = true from ended] at open'
        cases open'
      settled := fun _ begun => absurd begun unbegun }

/-- The completion that was kept aside is reported. -/
theorem Tracks.pops (tracks : Tracks turnRef controller facts heard)
    {pending : PrivateNativeRef × NativeClass}
    (begun : controller.startedTurn = some turnRef)
    (held : controller.pendingTerminal = some pending)
    (live : controller.lostReported = false) :
    pending.1 = turnRef ∧ Tracks turnRef
      { controller with pendingTerminal := none, terminal := true }
      (facts ++ [some (.terminal pending.1 (terminalClass pending.2))]) heard := by
  have parked := tracks.parked
  rw [held] at parked
  split_ifs at parked with ended
  have open' : controller.terminal = false := by simpa using ended
  obtain ⟨nativeClass, first, rfl⟩ := Option.map_eq_some_iff.1 parked.symm
  have started : some (.started turnRef) ∈ facts := by
    have counted : some (.started turnRef) ∈ facts.filter isStarted := by
      rw [tracks.started, if_pos begun]
      exact List.mem_singleton_self _
    exact (List.mem_filter.1 counted).1
  refine ⟨rfl,
    { began := tracks.began
      started := by
        rw [List.filter_append, tracks.started]
        simp [isStarted]
      parked := rfl
      ended := fun _ => by
        refine ⟨begun, nativeClass, first, ?_⟩
        rw [List.filter_append, tracks.unended open']
        rfl
      unended := fun ended => by cases ended
      ordered := tracks.ordered.append fun _ _ _ => started
      lost := fun member => by
        rcases List.mem_append.1 member with inside | final
        · exact tracks.lost inside
        · cases List.mem_singleton.1 final
      lostLast := tracks.lostLast.append fun member => by
        rw [tracks.lost member] at live
        cases live
      settled := fun _ _ => rfl }⟩

end Tracking

end Codex
end Gearwit
