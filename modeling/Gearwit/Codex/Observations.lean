import Gearwit.Codex.Effects
import Gearwit.Codex.Facts

/-!
# Observations of a turn

One poll goes through the notifications that are readable now.  Whatever its rounds bring,
the flags go on agreeing with what was heard and reported, and what was heard is what the
transport delivered.
-/

namespace Gearwit
namespace Codex

open Transport

/-! ## One poll -/

section Polls

variable {P : Type} {turnRef : PrivateNativeRef} {controller : CodexController P}
  {facts : List (Option NativeTurnFact)} {heard : List HeardItem}

/-- A completion that was kept aside waits for the start. -/
def Clear (turnRef : PrivateNativeRef) (controller : CodexController P) : Prop :=
  controller.startedTurn = some turnRef → controller.pendingTerminal = none

/-- What an observation goes on with, or what it reports, is tracked. -/
def Observed.Tracked (turnRef : PrivateNativeRef) (facts : List (Option NativeTurnFact))
    (heard : List HeardItem) : Observed P → Prop
  | .continues controller =>
      Tracks turnRef controller facts heard ∧ Clear turnRef controller ∧
        controller.lostReported = false
  | .reports outcome => Tracks turnRef outcome.2 (facts ++ [outcome.1]) heard

/-- A degraded or an unknown observation changes no flag that polls are tracked by. -/
private theorem degraded_tracks (tracks : Tracks turnRef controller facts heard)
    (clear : Clear turnRef controller) (live : controller.lostReported = false) :
    Tracks turnRef controller.degradedOnce.2 (facts ++ [controller.degradedOnce.1]) heard ∧
      Tracks turnRef controller.unknownOnce.2 (facts ++ [controller.unknownOnce.1]) heard := by
  have quiet (fact : Option NativeTurnFact) : controller.lostReported = true → fact = none := by
    intro lost
    rw [lost] at live
    cases live
  unfold CodexController.degradedOnce CodexController.unknownOnce
  split_ifs
  · exact ⟨tracks.tells rfl rfl rfl clear ⟨rfl, rfl⟩ (by simp) (quiet _),
      tracks.tells rfl rfl rfl clear ⟨rfl, rfl⟩ (by simp) (quiet _)⟩
  · exact ⟨tracks.tells rfl rfl rfl clear ⟨rfl, rfl⟩ (by simp) (quiet _),
      tracks.tells rfl rfl rfl clear ⟨rfl, rfl⟩ (by simp) (quiet _)⟩

private theorem observe_tracked (tracks : Tracks turnRef controller facts heard)
    (clear : Clear turnRef controller) (live : controller.lostReported = false)
    (expectedThread expectedTurn : String) (notification : Notification) :
    (controller.observe turnRef expectedThread expectedTurn notification).Tracked turnRef facts
      (heard ++ [⟨expectedThread, expectedTurn, .ok (.notification notification)⟩]) := by
  have skips (starts : HeardItem.starts ⟨expectedThread, expectedTurn,
        .ok (.notification notification)⟩ = true → controller.startedTurn = some turnRef)
      (completes : ∀ nativeClass, HeardItem.completion ⟨expectedThread, expectedTurn,
        .ok (.notification notification)⟩ = some nativeClass →
          ∃ first, firstCompletion heard = some first) :
      Observed.Tracked turnRef facts
        (heard ++ [⟨expectedThread, expectedTurn, .ok (.notification notification)⟩])
        (.continues controller) :=
    ⟨tracks.skips starts completes, clear, live⟩
  cases notification with
  | signal => exact skips (by intro starts; cases starts) (by intro _ completes; cases completes)
  | turnStarted thread turn =>
      simp only [CodexController.observe]
      split_ifs with named
      · refine tracks.starts named.2.2 live ?_ rfl
        simpa [HeardItem.starts] using ⟨named.1, named.2.1⟩
      · refine skips (fun starts => ?_) (by intro _ completes; cases completes)
        by_contra unbegun
        simp only [HeardItem.starts, decide_eq_true_eq] at starts
        exact named ⟨starts.1, starts.2, unbegun⟩
  | terminal thread turn nativeClass =>
      simp only [CodexController.observe]
      split_ifs with named unbegun free
      · have completes : HeardItem.completion ⟨expectedThread, expectedTurn,
            .ok (.notification (.terminal thread turn nativeClass))⟩ = some nativeClass :=
          if_pos ⟨named.1, named.2.1⟩
        exact ⟨tracks.parks unbegun (by simpa using named.2.2) free rfl completes,
          fun begun => absurd begun unbegun, live⟩
      · have held : ∃ first, firstCompletion heard = some first := by
          have parked := tracks.parked
          rw [if_neg (by simpa using named.2.2)] at parked
          rw [← Option.isSome_iff_exists, ← Option.isSome_map, ← parked]
          exact Option.isSome_iff_ne_none.2 free
        exact (degraded_tracks (tracks.skips (by intro starts; cases starts) fun _ _ => held)
          clear live).1
      · rw [not_not] at unbegun
        have completes : HeardItem.completion ⟨expectedThread, expectedTurn,
            .ok (.notification (.terminal thread turn nativeClass))⟩ = some nativeClass :=
          if_pos ⟨named.1, named.2.1⟩
        exact tracks.ends unbegun (by simpa using named.2.2) (clear unbegun) live rfl completes
      · refine skips (by intro starts; cases starts) fun other completes => ?_
        have same : thread.text = expectedThread ∧ turn.text = expectedTurn := by
          by_contra apart
          rw [HeardItem.completion] at completes
          simp [apart] at completes
        have ended : controller.terminal = true := by
          by_contra unended
          exact named ⟨same.1, same.2, by simpa using unended⟩
        obtain ⟨_, first, known, _⟩ := tracks.ended ended
        exact ⟨first, known⟩
  | degradedTerminal thread turn =>
      simp only [CodexController.observe]
      split_ifs with named
      · refine (tracks.skips (by intro starts; cases starts)
          (by intro _ completes; cases completes)).tells rfl rfl rfl clear ⟨rfl, rfl⟩ (by simp) ?_
        intro lost
        rw [lost] at live
        cases live
      · exact skips (by intro starts; cases starts) (by intro _ completes; cases completes)

private theorem observeOther_tracks (tracks : Tracks turnRef controller facts heard)
    (clear : Clear turnRef controller) (live : controller.lostReported = false)
    (expectedThread expectedTurn : String) {outcome : Except Error Received}
    (other : ∀ notification, outcome ≠ .ok (.notification notification)) :
    Tracks turnRef (controller.observeOther outcome).2
      (facts ++ [(controller.observeOther outcome).1])
      (heard ++ [⟨expectedThread, expectedTurn, outcome⟩]) := by
  have starts : HeardItem.starts ⟨expectedThread, expectedTurn, outcome⟩ = false := by
    unfold HeardItem.starts
    split
    · rename_i same
      exact absurd same (other _)
    · rfl
  have completion : HeardItem.completion ⟨expectedThread, expectedTurn, outcome⟩ = none := by
    unfold HeardItem.completion
    split
    · rename_i same
      exact absurd same (other _)
    · rfl
  have skips : Tracks turnRef controller facts
      (heard ++ [⟨expectedThread, expectedTurn, outcome⟩]) :=
    tracks.skips (by rw [starts]; intro same; cases same)
      (by rw [completion]; intro _ same; cases same)
  obtain ⟨degraded, unknown⟩ := degraded_tracks skips clear live
  have quiet (fact : Option NativeTurnFact) : controller.lostReported = true → fact = none := by
    intro lost
    rw [lost] at live
    cases live
  have loses : Tracks turnRef { controller with lostReported := true }
      (facts ++ [some .controllerLost])
      (heard ++ [⟨expectedThread, expectedTurn, outcome⟩]) :=
    skips.tells rfl rfl rfl clear ⟨rfl, rfl⟩ (by simp) (quiet _)
  have nothing : Tracks turnRef controller (facts ++ [none])
      (heard ++ [⟨expectedThread, expectedTurn, outcome⟩]) :=
    skips.tells rfl rfl rfl clear ⟨rfl, rfl⟩ (by simp) (quiet _)
  rcases outcome with error | received
  · cases error with
    | closed =>
        simp only [CodexController.observeOther, live]
        exact loses
    | ambiguous =>
        simp only [CodexController.observeOther, live]
        exact loses
    | malformed => exact degraded
    | bounds => exact degraded
    | degraded => exact degraded
    | correlation => exact degraded
    | deadline => exact nothing
    | _ => exact unknown
  · exact degraded

/-- Another epoch polls nothing. -/
theorem bumpEpoch_unpolled (controller : CodexController P) :
    Unpolled controller controller.bumpEpoch :=
  ⟨rfl, rfl, rfl, rfl, rfl, rfl⟩

/-- A clear controller stays clear without a poll. -/
theorem Clear.unpolled {after : CodexController P} (clear : Clear turnRef controller)
    (unpolled : Unpolled controller after) : Clear turnRef after := by
  unfold Clear
  rw [unpolled.startedTurn, unpolled.pendingTerminal]
  exact clear

variable [SerdeJson] [Blake3]

/-- The rounds of an observation, with what they hear and what the last one reports. -/
inductive Rounds (turnRef : PrivateNativeRef) (expectedThread expectedTurn : String) :
    CodexController P → List HeardItem → Option NativeTurnFact × CodexController P → Prop
  | ended {controller mid : CodexController P} {outcome : Except Error Received}
      (taken : controller.receiveUntil 0 = (outcome, mid))
      (other : ∀ notification, outcome ≠ .ok (.notification notification)) :
      Rounds turnRef expectedThread expectedTurn controller
        [⟨expectedThread, expectedTurn, outcome⟩] (mid.observeOther outcome)
  | reported {controller mid : CodexController P} {notification : Notification}
      {result : Option NativeTurnFact × CodexController P}
      (taken : controller.receiveUntil 0 = (.ok (.notification notification), mid))
      (seen : mid.bumpEpoch.observe turnRef expectedThread expectedTurn notification =
        .reports result) :
      Rounds turnRef expectedThread expectedTurn controller
        [⟨expectedThread, expectedTurn, .ok (.notification notification)⟩] result
  | exhausted {controller mid next : CodexController P} {notification : Notification}
      (taken : controller.receiveUntil 0 = (.ok (.notification notification), mid))
      (seen : mid.bumpEpoch.observe turnRef expectedThread expectedTurn notification =
        .continues next) :
      Rounds turnRef expectedThread expectedTurn controller
        [⟨expectedThread, expectedTurn, .ok (.notification notification)⟩] (none, next)
  | noticed {controller mid next : CodexController P} {notification : Notification}
      {heard : List HeardItem} {result : Option NativeTurnFact × CodexController P}
      (taken : controller.receiveUntil 0 = (.ok (.notification notification), mid))
      (seen : mid.bumpEpoch.observe turnRef expectedThread expectedTurn notification =
        .continues next)
      (later : Rounds turnRef expectedThread expectedTurn next heard result) :
      Rounds turnRef expectedThread expectedTurn controller
        (⟨expectedThread, expectedTurn, .ok (.notification notification)⟩ :: heard) result

private theorem observeLoop_rounds (turnRef : PrivateNativeRef)
    (expectedThread expectedTurn : String) (fuel : Nat) (controller : CodexController P) :
    Rounds turnRef expectedThread expectedTurn controller
      (CodexController.hearing turnRef expectedThread expectedTurn fuel controller)
      (CodexController.observeLoop turnRef expectedThread expectedTurn fuel controller) := by
  induction fuel generalizing controller with
  | zero =>
      rcases taken : controller.receiveUntil 0 with ⟨outcome, mid⟩
      unfold CodexController.observeLoop CodexController.hearing
      rw [taken]
      rcases outcome with error | received
      · exact .ended taken (by intro _ same; cases same)
      cases received with
      | notification notification =>
          simp only
          cases seen : mid.bumpEpoch.observe turnRef expectedThread expectedTurn
              notification with
          | reports result => exact .reported taken seen
          | continues next => exact .exhausted taken seen
      | _ => exact .ended taken (by intro _ same; cases same)
  | succ fuel inductionHypothesis =>
      rcases taken : controller.receiveUntil 0 with ⟨outcome, mid⟩
      unfold CodexController.observeLoop CodexController.hearing
      rw [taken]
      rcases outcome with error | received
      · exact .ended taken (by intro _ same; cases same)
      cases received with
      | notification notification =>
          simp only
          cases seen : mid.bumpEpoch.observe turnRef expectedThread expectedTurn
              notification with
          | reports result => exact .reported taken seen
          | continues next => exact .noticed taken seen (inductionHypothesis next)
      | _ => exact .ended taken (by intro _ same; cases same)

/-- Receiving polls nothing. -/
theorem receiveUntil_unpolled {mid : CodexController P} {deadline : Nat}
    {outcome : Except Error Received}
    (taken : controller.receiveUntil deadline = (outcome, mid)) : Unpolled controller mid := by
  unfold CodexController.receiveUntil at taken
  cases taken
  exact ⟨rfl, rfl, rfl, rfl, rfl, rfl⟩

/-- A notification counts as a change before it is looked at. -/
private theorem noticed_tracked {mid : CodexController P} {notification : Notification}
    (taken : controller.receiveUntil 0 = (.ok (.notification notification), mid))
    (tracks : Tracks turnRef controller facts heard) (clear : Clear turnRef controller)
    (live : controller.lostReported = false) (expectedThread expectedTurn : String) :
    (mid.bumpEpoch.observe turnRef expectedThread expectedTurn notification).Tracked turnRef
      facts (heard ++ [⟨expectedThread, expectedTurn, .ok (.notification notification)⟩]) := by
  have unpolled := (receiveUntil_unpolled taken).trans (bumpEpoch_unpolled mid)
  exact observe_tracked (tracks.unpolled unpolled) (clear.unpolled unpolled)
    (by rw [unpolled.lostReported, live]) expectedThread expectedTurn notification

private theorem Rounds.tracks {expectedThread expectedTurn : String} {newer : List HeardItem}
    {result : Option NativeTurnFact × CodexController P}
    (rounds : Rounds turnRef expectedThread expectedTurn controller newer result)
    (tracks : Tracks turnRef controller facts heard) (clear : Clear turnRef controller)
    (live : controller.lostReported = false) :
    Tracks turnRef result.2 (facts ++ [result.1]) (heard ++ newer) := by
  induction rounds generalizing heard with
  | ended taken other =>
      have unpolled := receiveUntil_unpolled taken
      exact observeOther_tracks (tracks.unpolled unpolled) (clear.unpolled unpolled)
        (by rw [unpolled.lostReported, live]) _ _ other
  | reported taken seen =>
      have tracked := noticed_tracked taken tracks clear live expectedThread expectedTurn
      rw [seen] at tracked
      exact tracked
  | exhausted taken seen =>
      have tracked := noticed_tracked taken tracks clear live expectedThread expectedTurn
      rw [seen] at tracked
      obtain ⟨tracks, clear, live⟩ := tracked
      exact tracks.tells rfl rfl rfl clear ⟨rfl, rfl⟩ (by simp) fun _ => rfl
  | noticed taken seen later inductionHypothesis =>
      have tracked := noticed_tracked taken tracks clear live expectedThread expectedTurn
      rw [seen] at tracked
      obtain ⟨tracks, clear, live⟩ := tracked
      have whole := inductionHypothesis tracks clear live
      rwa [List.append_assoc, List.singleton_append] at whole

variable [Persist P]

/-- The scope is not the controller's; a poll of it changes nothing. -/
def Foreign (scope : ObservationScope) (controller : CodexController P) : Prop :=
  scope.correlation.birthId ≠ controller.birth.birthId ∨
    scope.correlation.threadRef ≠ controller.threadRef

/-- One poll tracks what it hears and what it reports. -/
theorem poll_tracks (scope : ObservationScope) (named : scope.correlation.turnRef = some turnRef)
    (tracks : Tracks turnRef controller facts heard)
    (foreign : Foreign scope controller → Clear turnRef controller) :
    Tracks turnRef (controller.pollExactObservation scope).2
      (facts ++ [(controller.pollExactObservation scope).1])
      (heard ++ controller.polled scope) := by
  simp only [CodexController.pollExactObservation, CodexController.polled]
  split_ifs with foreigner lost
  · rw [List.append_nil]
    exact tracks.tells rfl rfl rfl (foreign foreigner) ⟨rfl, rfl⟩ (by simp) fun _ => rfl
  · rw [List.append_nil]
    exact tracks.tells rfl rfl rfl (tracks.settled (.inl lost)) ⟨rfl, rfl⟩ (by simp)
      fun _ => rfl
  have live : controller.lostReported = false := by simpa using lost
  simp only [CodexController.exactNotification, named]
  cases held : (if controller.startedTurn = some turnRef then controller.pendingTerminal
      else none) with
  | some pending =>
      split_ifs at held with begun
      obtain ⟨same, popped⟩ := tracks.pops begun held live
      simp only [if_pos same, List.append_nil]
      exact popped
  | none =>
      have clear : Clear turnRef controller := by
        intro begun
        rwa [if_pos begun] at held
      have degraded := (degraded_tracks tracks clear live).1
      cases controller.openedThread with
      | error _ =>
          rw [List.append_nil]
          exact degraded
      | ok thread =>
          simp only
          cases (Persist.openNativeCoordinate scope.turnScope turnRef
              controller.persist).toOption.bind openedText with
          | none =>
              rw [List.append_nil]
              exact degraded
          | some turn => exact (observeLoop_rounds ..).tracks tracks clear live

end Polls

end Codex
end Gearwit
