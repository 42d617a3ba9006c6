import Gearwit.Simulator.Oracle

/-!
# Names of events and requests

The oracle looks at names only to tell them apart.  A stream whose events and requests are
renamed is answered as before, as long as different names stay different.
-/

namespace Gearwit
namespace Simulator

open Transition

/-- Names an action mentions. -/
def Action.names : Action → List String
  | .offer event | .admitEvent event => [event]
  | .retrieve request | .staleRetrieve request | .acknowledge request => [request]
  | _ => []

/-- An action with its names replaced. -/
def Action.rename (relabel : String → String) : Action → Action
  | .offer event => .offer (relabel event)
  | .admitEvent event => .admitEvent (relabel event)
  | .retrieve request => .retrieve (relabel request)
  | .staleRetrieve request => .staleRetrieve (relabel request)
  | .acknowledge request => .acknowledge (relabel request)
  | action => action

/-- A stimulus with its names replaced. -/
def Stimulus.rename (relabel : String → String) (stimulus : Stimulus) : Stimulus :=
  { stimulus with action := stimulus.action.rename relabel }

namespace Oracle

/-- Different names of a kind stay different. -/
def Faithful (relabel : String → String) (known : String → Prop) : Prop :=
  ∀ first second, known first → known second → relabel first = relabel second → first = second

/-- Names of an action are known. -/
def Mentions (known : String → Prop) (action : Action) : Prop :=
  ∀ name ∈ action.names, known name

/-- Two oracles that differ in the names they recorded. -/
structure Renamed (relabel : String → String) (known : String → Prop)
    (oracle other : Oracle) : Prop where
  state : other = { oracle with
    requestResults := other.requestResults, seenOperations := other.seenOperations }
  results : ∀ name, known name →
    other.requestResults[relabel name]? = oracle.requestResults[name]?
  operations : ∀ operationId : String, other.seenOperations[operationId]? =
    (oracle.seenOperations[operationId]?).map (Action.rename relabel)
  mentioned : ∀ (operationId : String) (action : Action), oracle.seenOperations[operationId]? = some action →
    Mentions known action

variable {relabel : String → String} {known : String → Prop}

private theorem rename_injective (faithful : Faithful relabel known) {first second : Action}
    (listed : Mentions known first) (member : Mentions known second)
    (same : first.rename relabel = second.rename relabel) : first = second := by
  cases first <;> cases second <;>
    simp only [Action.rename, Action.offer.injEq, Action.admitEvent.injEq,
      Action.retrieve.injEq, Action.staleRetrieve.injEq, Action.acknowledge.injEq,
      reduceCtorEq] at same ⊢ <;>
    exact faithful _ _ (listed _ List.mem_cons_self) (member _ List.mem_cons_self) same

/-- Recording a result under corresponding names keeps the results in correspondence. -/
private theorem insert_results (faithful : Faithful relabel known) {request result : String}
    (mentions : known request) {results others : BTreeMap String String}
    (corresponds : ∀ name, known name → others[relabel name]? = results[name]?) (name : String)
    (mentioned : known name) :
    (others.insert (relabel request) result)[relabel name]? =
      (results.insert request result)[name]? := by
  rw [BTreeMap.getElem?_insert_eq, BTreeMap.getElem?_insert_eq, corresponds name mentioned]
  by_cases same : request = name
  · rw [if_pos same, if_pos (congrArg relabel same)]
  · rw [if_neg same, if_neg fun equal => same (faithful _ _ mentions mentioned equal)]

/-- Two answers correspond. -/
def Corresponds (relabel : String → String) (known : String → Prop)
    (answer other : String × Oracle) : Prop :=
  other.1 = answer.1 ∧ Renamed relabel known answer.2 other.2

private theorem applyFresh_renamed (faithful : Faithful relabel known) {oracle other : Oracle}
    (renamed : Renamed relabel known oracle other) {action : Action}
    (mentions : Mentions known action) :
    Corresponds relabel known (applyFresh action oracle)
      (applyFresh (action.rename relabel) other) := by
  obtain ⟨state, results, operations, mentioned⟩ := renamed
  generalize other.requestResults = others at state results
  generalize other.seenOperations = seen at state operations
  subst state
  cases action with
  | arm | terminal | rearm | revoke | restart | omitRearm | offer | staleRetrieve =>
      simp only [applyFresh, Action.rename]
      (try split_ifs) <;> exact ⟨rfl, rfl, results, operations, mentioned⟩
  | admitEvent event =>
      simp only [applyFresh, Action.rename]
      split_ifs
      · exact ⟨rfl, rfl, results, operations, mentioned⟩
      · exact ⟨rfl, rfl, insert_results faithful (mentions event List.mem_cons_self) results,
          operations, mentioned⟩
      · exact ⟨rfl, rfl, results, operations, mentioned⟩
  | retrieve request =>
      have requested := mentions request List.mem_cons_self
      simp only [applyFresh, Action.rename]
      rw [results request requested]
      split
      · cases oracle.requestResults[request]? with
        | some result => exact ⟨rfl, rfl, results, operations, mentioned⟩
        | none =>
            dsimp only
            split_ifs
            · exact ⟨rfl, rfl, results, operations, mentioned⟩
            · exact ⟨rfl, rfl, insert_results faithful requested results, operations, mentioned⟩
      · exact ⟨rfl, rfl, results, operations, mentioned⟩
  | acknowledge request =>
      have requested := mentions request List.mem_cons_self
      simp only [applyFresh, Action.rename]
      rw [results request requested]
      split
      · cases oracle.requestResults[request]? with
        | some result => exact ⟨rfl, rfl, results, operations, mentioned⟩
        | none =>
            exact ⟨rfl, rfl, insert_results faithful requested results, operations, mentioned⟩
      · exact ⟨rfl, rfl, results, operations, mentioned⟩

private theorem Renamed.observation {oracle other : Oracle}
    (renamed : Renamed relabel known oracle other) (operationId outcome : String) :
    observation operationId outcome other = observation operationId outcome oracle := by
  rw [renamed.state]
  rfl

private theorem Renamed.remember {oracle other : Oracle}
    (renamed : Renamed relabel known oracle other) (operationId : String) {action : Action}
    (mentions : Mentions known action) :
    Renamed relabel known
      { oracle with seenOperations := oracle.seenOperations.insert operationId action }
      { other with
        seenOperations := other.seenOperations.insert operationId (action.rename relabel) } := by
  obtain ⟨state, results, operations, mentioned⟩ := renamed
  refine ⟨?_, results, fun another => ?_, fun another original found => ?_⟩
  · rw [state]
  · rw [BTreeMap.getElem?_insert_eq, BTreeMap.getElem?_insert_eq]
    split_ifs
    · rfl
    · exact operations another
  · rw [BTreeMap.getElem?_insert_eq] at found
    split_ifs at found
    · cases found
      exact mentions
    · exact mentioned another original found

private theorem apply_renamed (faithful : Faithful relabel known) {oracle other : Oracle}
    (renamed : Renamed relabel known oracle other) {stimulus : Stimulus}
    (mentions : Mentions known stimulus.action) :
    (other.apply (stimulus.rename relabel)).1 = (oracle.apply stimulus).1 ∧
      Renamed relabel known (oracle.step stimulus) (other.step (stimulus.rename relabel)) := by
  have corresponds : other.seenOperations[(stimulus.rename relabel).operationId]? =
      (oracle.seenOperations[stimulus.operationId]?).map (Action.rename relabel) :=
    renamed.operations stimulus.operationId
  cases seen : oracle.seenOperations[stimulus.operationId]? with
  | some original =>
      rw [seen] at corresponds
      have listed := renamed.mentioned _ _ seen
      rw [step, step, apply_seen seen, apply_seen corresponds]
      refine ⟨?_, renamed⟩
      have same : original.rename relabel = (stimulus.rename relabel).action ↔
          original = stimulus.action :=
        ⟨rename_injective faithful listed mentions, congrArg _⟩
      by_cases replayed : original = stimulus.action
      · rw [if_pos replayed, if_pos (same.2 replayed)]
        exact renamed.observation _ _
      · rw [if_neg replayed, if_neg fun equal => replayed (same.1 equal)]
        exact renamed.observation _ _
  | none =>
      rw [seen] at corresponds
      obtain ⟨outcome, onward⟩ := applyFresh_renamed faithful
        (renamed.remember stimulus.operationId mentions) mentions
      rw [step, step, apply_fresh seen, apply_fresh corresponds]
      refine ⟨?_, onward⟩
      exact (congrArg (observation _ · _) outcome).trans (onward.observation _ _)

/-- Corresponding oracles answer corresponding streams alike. -/
theorem observe_renamed (faithful : Faithful relabel known) (stimuli : List Stimulus)
    (mentions : ∀ stimulus ∈ stimuli, Mentions known stimulus.action) {oracle other : Oracle}
    (renamed : Renamed relabel known oracle other) :
    other.observe (stimuli.map (Stimulus.rename relabel)) = oracle.observe stimuli := by
  induction stimuli generalizing oracle other with
  | nil => rfl
  | cons stimulus rest inductionHypothesis =>
      obtain ⟨answer, onward⟩ :=
        apply_renamed faithful renamed (mentions stimulus List.mem_cons_self)
      rw [List.map_cons, observe_cons, observe_cons, answer, inductionHypothesis
        (fun other member => mentions other (List.mem_cons_of_mem _ member)) onward]

/-- A fresh oracle is the same under other names. -/
theorem default_renamed (relabel : String → String) (known : String → Prop) :
    Renamed relabel known default default := by
  refine ⟨rfl, fun _ _ => rfl, fun _ => rfl, fun operationId action found => ?_⟩
  simp [default] at found

/-- Names do not matter: when the events and requests of a stream are renamed, and different
names stay different, every observation stays the same. -/
theorem names_irrelevant (relabel : String → String) (stimuli : List Stimulus)
    (faithful : Faithful relabel fun name =>
      ∃ stimulus ∈ stimuli, name ∈ stimulus.action.names) :
    default.observe (stimuli.map (Stimulus.rename relabel)) = default.observe stimuli :=
  observe_renamed faithful stimuli
    (fun stimulus member _ listed => ⟨stimulus, member, listed⟩) (default_renamed relabel _)

namespace Sample

/-- A stream that names an event and a request. -/
def naming : List Stimulus :=
  [⟨0, 1, "arm-1", none, .arm⟩, ⟨1, 2, "offer-1", none, .offer "event"⟩,
    ⟨2, 3, "claim-1", none, .admitEvent "event"⟩,
    ⟨3, 4, "retrieve-1", none, .retrieve "request"⟩]

/-- The stream is answered the same under other names. -/
theorem naming_names_irrelevant :
    default.observe (naming.map (Stimulus.rename fun name => name ++ "-next")) =
      default.observe naming :=
  names_irrelevant (fun name => name ++ "-next") naming
    fun _ _ _ _ same => (String.append_left_inj "-next").1 same

end Sample

end Oracle
end Simulator
end Gearwit
