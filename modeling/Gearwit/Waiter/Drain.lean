import Gearwit.Waiter.Sanitize

/-!
# Draining the provider

A wait only hints that something happened; events come from reading the provider
strictly after the exclusive cursor.  The page is accepted whole or refused.
-/

namespace Gearwit
namespace Waiter

/-- Coverage of a channel: the exclusive cursor and the arguments every provider
command carries. -/
structure WaitOnSpec where
  channel : String
  after : Option String
  timeout : String
  team : Option String
  deriving DecidableEq

/-- How the wait child ended. -/
inductive WaitResult
  | matched
  | timeout
  | error
  deriving DecidableEq

/-- A Unix-style exit: zero matched, one timeout, anything else an error. -/
def WaitResult.fromCode (code : Int) : WaitResult :=
  if code = 0 then .matched else if code = 1 then .timeout else .error

/-- One validated provider event. -/
structure DrainedEvent where
  id : String
  username : String
  message : String
  localLoss : Option LocalBodyLoss
  deriving DecidableEq

/-- Why a drain failed closed. -/
inductive DrainError
  | missingBaseline
  | nonZeroExit
  | malformed
  | empty
  | duplicateId
  | io
  | advisoryCannotFit (eventRef : String) (controlsRemoved scalarsClipped : Nat)
  deriving DecidableEq

variable [UnicodeSegmentation]

/-- Read one message of a page; `seen` holds the identifiers met so far. -/
def parseMessage (seen : List String) (message : Json) : Except DrainError DrainedEvent :=
  match ((message.get "id").bind Json.asStr).bind fun id => pasteToken id maxId with
  | none => .error .malformed
  | some id =>
      if seen.contains id then .error .duplicateId
      else
        let username :=
          (((message.get "username").bind Json.asStr).bind fun name =>
            pasteToken name maxId).getD "unknown"
        let body := ((message.get "message").bind Json.asStr).getD ""
        match prepareBody body with
        | .error error =>
            .error (.advisoryCannotFit id error.controlsRemoved error.scalarsClipped)
        | .ok prepared => .ok ⟨id, username, prepared.body, prepared.localLoss⟩

/-- Read the messages of a page in order. -/
def parseMessages (seen : List String) : List Json → Except DrainError (List DrainedEvent)
  | [] => .ok []
  | message :: rest =>
      match parseMessage seen message with
      | .error error => .error error
      | .ok event =>
          match parseMessages (event.id :: seen) rest with
          | .error error => .error error
          | .ok events => .ok (event :: events)

omit [UnicodeSegmentation] in
/-- The message list of a page: the array itself, or the `messages` of an object. -/
def pageMessages (value : Json) : Option (List Json) :=
  match value.asArray with
  | some messages => some messages
  | none => (value.get "messages").bind Json.asArray

/-- Parse a page; `none` is a text the JSON reader refuses. -/
def parseDrainedEvents (json : Option Json) : Except DrainError (List DrainedEvent) :=
  match json.bind pageMessages with
  | none => .error .malformed
  | some messages =>
      if messages.isEmpty then .error .empty else parseMessages [] messages

/-- What running the provider's read command gave. -/
inductive ReadOutput
  | io
  | nonZeroExit
  | stdout (json : Option Json)

/-- The drain of the daemon: read the provider after the cursor and parse. -/
def chanvoyDrain (output : ReadOutput) (spec : WaitOnSpec) :
    Except DrainError (List DrainedEvent) :=
  match spec.after with
  | none => .error .missingBaseline
  | some _ =>
      match output with
      | .io => .error .io
      | .nonZeroExit => .error .nonZeroExit
      | .stdout json => parseDrainedEvents json

omit [UnicodeSegmentation] in
/-- A drain that was already read. -/
def ownedDrain (events : List DrainedEvent) (_spec : WaitOnSpec) :
    Except DrainError (List DrainedEvent) :=
  .ok events

/-- Outcome of a wait, with what was drained after it. -/
structure WaitOutcome where
  result : WaitResult
  processExit : Int
  drainedEvents : List DrainedEvent
  newestObserved : Option String
  drainError : Option DrainError

omit [UnicodeSegmentation] in
/-- Fill the drain fields after a matched wait. -/
def attachDrain (outcome : WaitOutcome) (spec : WaitOnSpec)
    (drain : WaitOnSpec → Except DrainError (List DrainedEvent)) : WaitOutcome :=
  if outcome.result ≠ .matched then outcome
  else if spec.after.isNone then
    { outcome with drainError := some .missingBaseline, processExit := 2 }
  else
    match drain spec with
    | .ok events =>
        { outcome with
          newestObserved := events.getLast?.map DrainedEvent.id
          drainedEvents := events
          drainError := none }
    | .error error =>
        { outcome with
          drainedEvents := []
          newestObserved := none
          drainError := some error
          processExit := 2 }

/-! ## What a parsed page is -/

/-- What one parsed event satisfies. -/
structure DrainedEvent.Parsed (event : DrainedEvent) : Prop where
  idBytes : event.id ≠ "" ∧ event.id.utf8ByteSize ≤ maxId
  idClear : ∀ character ∈ event.id.toList, isControl character = false
  usernameBytes : event.username ≠ "" ∧ event.username.utf8ByteSize ≤ maxId
  usernameClear : ∀ character ∈ event.username.toList, isControl character = false
  displayed : (⟨event.message, event.localLoss⟩ : PreparedBody).Displayed

private theorem parseMessage_parsed {seen : List String} {message : Json}
    {event : DrainedEvent} (parsed : parseMessage seen message = .ok event) :
    event.Parsed ∧ event.id ∉ seen ∧
      (message.get "id").bind Json.asStr = some event.id := by
  unfold parseMessage at parsed
  split at parsed
  · cases parsed
  · rename_i id token
    split_ifs at parsed with repeated
    simp only at parsed
    split at parsed
    · cases parsed
    · rename_i prepared body
      cases parsed
      obtain ⟨text, named, passed⟩ := Option.bind_eq_some_iff.1 token
      obtain ⟨rfl, nonempty, bytes, clear⟩ := pasteToken_eq_some passed
      have username : ∀ candidate : Option String, ∀ name,
          (candidate.bind fun name => pasteToken name maxId).getD "unknown" = name →
            (name ≠ "" ∧ name.utf8ByteSize ≤ maxId) ∧
              ∀ character ∈ name.toList, isControl character = false := by
        intro candidate name chosen
        cases kept : candidate.bind fun name => pasteToken name maxId with
        | none =>
            simp only [kept, Option.getD_none] at chosen
            rw [← chosen]
            have plain : "unknown".toList.all (fun character => !isControl character) := by
              decide +kernel
            exact ⟨by decide, by simpa using plain⟩
        | some token =>
            simp only [kept, Option.getD_some] at chosen
            obtain ⟨raw, _, passed⟩ := Option.bind_eq_some_iff.1 kept
            obtain ⟨same, some, short, plain⟩ := pasteToken_eq_some passed
            rw [← chosen, same]
            exact ⟨⟨some, short⟩, plain⟩
      exact ⟨⟨⟨nonempty, bytes⟩, clear, (username _ _ rfl).1, (username _ _ rfl).2,
        prepareBody_displayed body⟩, by simpa using repeated, named⟩

omit [UnicodeSegmentation] in
/-- Identifiers of a page's messages, in order. -/
def messageIds (messages : List Json) : List (Option String) :=
  messages.map fun message => (message.get "id").bind Json.asStr

private theorem parseMessages_parsed {seen : List String} {messages : List Json}
    {events : List DrainedEvent} (parsed : parseMessages seen messages = .ok events) :
    (∀ event ∈ events, event.Parsed ∧ event.id ∉ seen) ∧
      (events.map DrainedEvent.id).Nodup ∧
      messageIds messages = events.map fun event => some event.id := by
  induction messages generalizing seen events with
  | nil =>
      cases parsed
      exact ⟨by simp, by simp, rfl⟩
  | cons message rest inductionHypothesis =>
      unfold parseMessages at parsed
      split at parsed
      · cases parsed
      · rename_i event first
        split at parsed
        · cases parsed
        · rename_i others later
          cases parsed
          obtain ⟨good, fresh, named⟩ := parseMessage_parsed first
          obtain ⟨goods, distinct, names⟩ := inductionHypothesis later
          refine ⟨?_, ?_, ?_⟩
          · intro other member
            rcases List.mem_cons.1 member with same | later
            · rw [same]
              exact ⟨good, fresh⟩
            · obtain ⟨parsed, unseen⟩ := goods other later
              exact ⟨parsed, fun known => unseen (List.mem_cons_of_mem _ known)⟩
          · rw [List.map_cons, List.nodup_cons]
            refine ⟨?_, distinct⟩
            intro repeated
            obtain ⟨other, member, same⟩ := List.mem_map.1 repeated
            exact (goods other member).2 (by rw [same]; exact List.mem_cons_self)
          · simp only [messageIds, List.map_cons, named]
            exact congrArg _ names

/-- A parsed page is a nonempty list of well-formed events without repeats, one
for each message and in the order of the messages. -/
theorem parseDrainedEvents_ok {json : Option Json} {events : List DrainedEvent}
    (parsed : parseDrainedEvents json = .ok events) :
    ∃ messages, json.bind pageMessages = some messages ∧ messages ≠ [] ∧ events ≠ [] ∧
      (∀ event ∈ events, event.Parsed) ∧
      (events.map DrainedEvent.id).Nodup ∧
      messageIds messages = events.map fun event => some event.id := by
  unfold parseDrainedEvents at parsed
  cases page : json.bind pageMessages with
  | none => simp [page] at parsed
  | some messages =>
      simp only [page] at parsed
      split_ifs at parsed with blank
      obtain ⟨goods, distinct, names⟩ := parseMessages_parsed parsed
      have listed : messages ≠ [] := by simpa using blank
      refine ⟨messages, rfl, listed, ?_, fun event member => (goods event member).1,
        distinct, names⟩
      rintro rfl
      simp [messageIds] at names
      exact listed names

/-- What the drain gives was parsed from an answer to a cursor. -/
theorem chanvoyDrain_ok {output : ReadOutput} {spec : WaitOnSpec} {events : List DrainedEvent}
    (drained : chanvoyDrain output spec = .ok events) :
    spec.after ≠ none ∧ ∃ json, output = .stdout json ∧ parseDrainedEvents json = .ok events := by
  unfold chanvoyDrain at drained
  cases based : spec.after with
  | none =>
      rw [based] at drained
      cases drained
  | some cursor =>
      rw [based] at drained
      cases output with
      | io => cases drained
      | nonZeroExit => cases drained
      | stdout json => exact ⟨Option.some_ne_none cursor, json, rfl, drained⟩

omit [UnicodeSegmentation] in
/-- Draining a page of one drain attaches its events and its newest reference. -/
theorem attachDrain_ok {outcome : WaitOutcome} {spec : WaitOnSpec}
    {drain : WaitOnSpec → Except DrainError (List DrainedEvent)} {events : List DrainedEvent}
    (matched : outcome.result = .matched) (based : spec.after ≠ none)
    (drained : drain spec = .ok events) :
    attachDrain outcome spec drain =
      { outcome with
        newestObserved := events.getLast?.map DrainedEvent.id
        drainedEvents := events
        drainError := none } := by
  have present : spec.after.isNone = false := by
    cases held : spec.after with
    | none => exact absurd held based
    | some after => rfl
  simp [attachDrain, matched, present, drained]

end Waiter
end Gearwit
