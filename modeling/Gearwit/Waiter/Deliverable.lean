import Gearwit.Waiter.Pipe

/-!
# Which claimed pages a link can carry

The drain, the message validation and the frame bound one batch three times.  A
claimed page is carried by every admitted link exactly when it has at most
sixty-four messages, no identifier or name of it holds a space, and its JSON fits
the payload.
-/

namespace Gearwit
namespace Waiter

open String (utf8Len)
open JsonText

/-! ## Fields of a batch -/

/-- A token that passed the paste check passes the wire check unless it holds a
space. -/
theorem tokenText_iff {token : String} (present : token ≠ "")
    (short : token.utf8ByteSize ≤ maxId)
    (clear : ∀ character ∈ token.toList, isControl character = false) :
    tokenText token = true ↔ ' ' ∉ token.toList := by
  have lengths : token.toList.length ≤ 256 := by
    have scalars : token.toList.length ≤ utf8Len token.toList := by
      induction token.toList with
      | nil => simp
      | cons character rest inductionHypothesis =>
          have positive := Char.utf8Size_pos character
          simp only [List.length_cons, String.utf8Len_cons]
          omega
    rw [utf8ByteSize_eq] at short
    exact le_trans (le_trans scalars short) (by decide)
  have nonempty : 1 ≤ token.toList.length := by
    rcases Nat.eq_zero_or_pos token.toList.length with zero | positive
    · refine absurd ?_ present
      rw [← String.ofList_toList (s := token), List.length_eq_zero_iff.1 zero]
    · exact positive
  unfold tokenText
  simp only [nonempty, lengths, and_self, decide_true, Bool.true_and, List.all_eq_true,
    decide_eq_true_eq]
  constructor
  · intro safe space
    exact absurd (safe ' ' space).1 (by decide)
  · intro spaceless character member
    have visible := clear character member
    simp only [isControl, decide_eq_false_iff_not] at visible
    have different : character.toNat ≠ 0x20 := by
      intro same
      have equal : character = ' ' := Char.ext (UInt32.toNat_inj.1 same)
      exact spaceless (equal ▸ member)
    omega

/-- A prepared body passes the wire check. -/
theorem bodyOk_of_displayed {prepared : PreparedBody} (displayed : prepared.Displayed) :
    bodyOk prepared.body = .ok () := by
  have scalars : prepared.body.toList.length ≤ 4096 := displayed.scalars
  have allowed : ∀ character ∈ prepared.body.toList, forbiddenInBody character = false := by
    intro character member
    have clear := displayed.allowed character member
    simp only [isDisallowedControl, isControl, Bool.and_eq_false_iff,
      decide_eq_false_iff_not, bne_eq_false_iff_eq] at clear
    simp only [forbiddenInBody, decide_eq_false_iff_not]
    rcases clear with (visible | tab) | feed
    · omega
    · rw [tab]
      decide
    · rw [feed]
      decide
  unfold bodyOk
  rw [allOf_eq_ok_iff]
  simp only [List.mem_cons, List.not_mem_nil, or_false, forall_eq_or_imp, forall_eq,
    require_eq_ok_iff, decide_eq_true_eq, Bool.not_eq_true', List.any_eq_false]
  exact ⟨scalars, fun character member => by simp [allowed character member]⟩

/-! ## The batch of a page -/

variable [Rfc3339]

/-- A formatted time is accepted. -/
theorem timeOk_of_format {instant : OffsetDateTime} {text : String}
    (written : Rfc3339.format instant = some text) : timeOk text = .ok () := by
  simp [timeOk, Rfc3339.parse_format written]

/-- No identifier and no name of the page holds a space. -/
def Spaceless (events : List DrainedEvent) : Prop :=
  ∀ event ∈ events, ' ' ∉ event.id.toList ∧ ' ' ∉ event.username.toList

/-- The events of a claimed page validate exactly when there are at most sixty-four
of them and they are spaceless. -/
theorem validateEvents_iff {events : List DrainedEvent} {observed : String} {last : DrainedEvent}
    (parsed : ∀ event ∈ events, event.Parsed)
    (distinct : (events.map DrainedEvent.id).Nodup)
    (newest : events.getLast? = some last) (written : timeOk observed = .ok ()) :
    validateEvents (providerEventsFromDrain events observed) last.id = .ok () ↔
      events.length ≤ 64 ∧ Spaceless events := by
  have each : ∀ event ∈ events,
      validateEvent
        { provider := "mattermost", eventRef := event.id,
          actor := if event.username = "" then none else some event.username,
          observedAt := observed, body := event.message } = .ok () ↔
        ' ' ∉ event.id.toList ∧ ' ' ∉ event.username.toList := by
    intro event member
    have good := parsed event member
    have provider : tokenOk "mattermost" = .ok () := by decide
    have body : bodyOk event.message = .ok () := bodyOk_of_displayed good.displayed
    have identifier := tokenText_iff good.idBytes.1 good.idBytes.2 good.idClear
    have name := tokenText_iff good.usernameBytes.1 good.usernameBytes.2 good.usernameClear
    unfold validateEvent
    rw [allOf_eq_ok_iff]
    simp only [good.usernameBytes.1, if_false, List.mem_cons, List.not_mem_nil, or_false,
      forall_eq_or_imp, forall_eq, provider, body, written, and_true, true_and]
    unfold tokenOk
    rw [require_eq_ok_iff, require_eq_ok_iff, identifier, name]
  have member : last ∈ events := List.mem_of_getLast? newest
  have nonempty : events ≠ [] := List.ne_nil_of_mem member
  have ends : (providerEventsFromDrain events observed).getLast?.map ProviderEvent.eventRef =
      some last.id := by
    simp [providerEventsFromDrain, List.getLast?_map, newest]
  unfold validateEvents
  rw [allOf_eq_ok_iff]
  simp only [List.mem_cons, List.not_mem_nil, or_false, forall_eq_or_imp, forall_eq,
    require_eq_ok_iff, validateEachEvent_eq_ok_iff, eventRefs_providerEventsFromDrain,
    distinct, ends, beq_self_eq_true, and_true, List.not_mem_nil,
    not_false_eq_true, implies_true, Bool.and_eq_true, Bool.not_eq_true',
    decide_eq_true_eq]
  have listed : (providerEventsFromDrain events observed).isEmpty = false := by
    simpa [providerEventsFromDrain] using nonempty
  have counted : (providerEventsFromDrain events observed).length = events.length := by
    simp [providerEventsFromDrain]
  rw [listed, counted]
  have events_iff : (∀ event ∈ providerEventsFromDrain events observed,
      validateEvent event = .ok ()) ↔ Spaceless events := by
    simp only [providerEventsFromDrain, List.forall_mem_map]
    exact forall₂_congr each
  rw [events_iff]
  have lastToken := tokenText_iff (parsed last member).idBytes.1 (parsed last member).idBytes.2
    (parsed last member).idClear
  unfold tokenOk
  rw [require_eq_ok_iff, lastToken]
  constructor
  · rintro ⟨⟨_, few⟩, spaceless, _⟩
    exact ⟨few, spaceless⟩
  · rintro ⟨few, spaceless⟩
    exact ⟨⟨rfl, few⟩, spaceless, (spaceless last member).1⟩

/-! ## Sizes -/

omit [Rfc3339] in
/-- An identifier takes its twenty-six characters and two quotes. -/
theorem stringBytes_of_ulid {text : String} (ulid : ulidText text = true) :
    stringBytes text = 28 := by
  unfold ulidText at ulid
  simp only [Bool.and_eq_true, beq_iff_eq, List.all_eq_true] at ulid
  obtain ⟨bytes, alphabet⟩ := ulid
  rw [utf8ByteSize_eq] at bytes
  have plain : ∀ character, ulidChar character = true →
      escapedBytes character = character.utf8Size := by
    intro character inside
    have range : 0x30 ≤ character.toNat ∧ character ≠ '"' ∧ character ≠ '\\' := by
      simp only [ulidChar, Char.isDigit, Char.isUpper, Bool.or_eq_true, Bool.and_eq_true,
        decide_eq_true_eq, ge_iff_le, bne_iff_ne] at inside
      refine ⟨?_, ?_, ?_⟩
      · rcases inside with digit | ⟨⟨⟨⟨upper, _⟩, _⟩, _⟩, _⟩
        · exact digit.1
        · exact le_trans (by decide) upper.1
      · rintro rfl
        exact absurd inside (by decide)
      · rintro rfl
        exact absurd inside (by decide)
    unfold escapedBytes
    rw [if_neg, if_neg (by omega)]
    · rintro (same | same | other)
      · exact range.2.1 same
      · exact range.2.2 same
      · omega
  have total : ∀ characters : List Char, (∀ character ∈ characters, ulidChar character = true) →
      (characters.map escapedBytes).sum = utf8Len characters := by
    intro characters inside
    induction characters with
    | nil => rfl
    | cons character rest inductionHypothesis =>
        rw [List.map_cons, List.sum_cons, plain character (inside character (by simp)),
          inductionHypothesis fun other member => inside other (by simp [member]),
          String.utf8Len_cons]
        omega
  rw [stringBytes, total _ alphabet, bytes]

/-- Bytes one message of a page takes in the frame, its comma included. -/
def eventBytes (observed : String) (event : DrainedEvent) : Nat :=
  71 + stringBytes event.id + stringBytes event.username + stringBytes observed +
    stringBytes event.message

/-- Bytes of the frame that carries a page on a link. -/
def pageBytes (link : AdmittedLink) (observed attempted : String)
    (events : List DrainedEvent) : Nat :=
  300 + natBytes link.generation + stringBytes link.route +
    stringBytes ((events.getLast?.map DrainedEvent.id).getD "") + stringBytes attempted +
    (events.map (eventBytes observed)).sum

omit [Rfc3339] in
private theorem utf8Len_json_event {event : DrainedEvent} (named : event.username ≠ "")
    (observed : String) :
    utf8Len (ProviderEvent.json
      { provider := "mattermost", eventRef := event.id,
        actor := if event.username = "" then none else some event.username,
        observedAt := observed, body := event.message }) + 1 = eventBytes observed event := by
  have names : stringBytes "provider" = 10 ∧ stringBytes "mattermost" = 12 ∧
      stringBytes "event_ref" = 11 ∧ stringBytes "actor" = 7 ∧
      stringBytes "observed_at" = 13 ∧ stringBytes "body" = 6 := by decide
  simp only [ProviderEvent.json, named, if_false, Option.map_some, Option.toList_some,
    List.cons_append, List.nil_append]
  rw [utf8Len_object (by simp)]
  simp only [List.map_cons, List.map_nil, List.sum_cons, List.sum_nil, utf8Len_member,
    utf8Len_string, names, eventBytes]
  omega

/-- The frame of a page has the page's bytes. -/
theorem utf8Len_json_deliver {link : AdmittedLink} {signalId deliveryId observed : String}
    {now : OffsetDateTime} {events : List DrainedEvent} {last : DrainedEvent}
    (linkUlid : ulidText link.linkId = true) (armUlid : ulidText link.armId = true)
    (signalUlid : ulidText signalId = true) (deliveryUlid : ulidText deliveryId = true)
    (named : ∀ event ∈ events, event.username ≠ "")
    (newest : events.getLast? = some last) :
    utf8Len (WaiterLink.json (.deliverEvents (deliverMessage link signalId
      (providerEventsFromDrain events observed) last.id now deliveryId))) =
        pageBytes link observed (formatTime now) events := by
  have names : stringBytes "type" = 6 ∧ stringBytes "deliver_events" = 16 ∧
      stringBytes "schema" = 8 ∧ stringBytes schemaId = 34 ∧
      stringBytes "delivery_id" = 13 ∧ stringBytes "link_id" = 9 ∧
      stringBytes "arm_id" = 8 ∧ stringBytes "generation" = 12 ∧
      stringBytes "signal_id" = 11 ∧ stringBytes "route" = 7 ∧
      stringBytes "events" = 8 ∧ stringBytes "newest_event_ref" = 18 ∧
      stringBytes "attempted_at" = 14 := by decide
  have nonempty : events ≠ [] := List.ne_nil_of_mem (List.mem_of_getLast? newest)
  have items : ((providerEventsFromDrain events observed).map ProviderEvent.json) ≠ [] := by
    simpa [providerEventsFromDrain] using nonempty
  have batch : utf8Len (array ((providerEventsFromDrain events observed).map
      ProviderEvent.json)) = 1 + (events.map (eventBytes observed)).sum := by
    rw [utf8Len_array items]
    congr 2
    simp only [providerEventsFromDrain, List.map_map]
    exact List.map_congr_left fun event member =>
      utf8Len_json_event (named event member) observed
  simp only [WaiterLink.json, deliverMessage]
  rw [utf8Len_object (by simp)]
  simp only [List.map_cons, List.map_nil, List.sum_cons, List.sum_nil, utf8Len_member,
    utf8Len_string, utf8Len_nat, names, batch, stringBytes_of_ulid linkUlid,
    stringBytes_of_ulid armUlid, stringBytes_of_ulid signalUlid,
    stringBytes_of_ulid deliveryUlid, pageBytes, newest, Option.map_some, Option.getD_some]
  omega

/-! ## Admitted links -/

/-- A link that admission gives to an arm. -/
def AdmittedFor (arm : KnownArm) (link : AdmittedLink) : Prop :=
  ∃ table request now freshId reply,
    decideAttach table request now [arm] freshId = .ok (.accept link reply)

/-- Admission of a request that names the arm, under a free table. -/
theorem admittedFor_of_valid {arm : KnownArm} {message : AttachWaiter}
    {now : OffsetDateTime} {freshId : String}
    (valid : validate (.attachWaiter message) = .ok ())
    (armId : arm.armId = message.armId) (generation : arm.generation = message.generation)
    (seatId : arm.seatId = message.seatId) (route : arm.route = message.route)
    (covered : ¬ arm.coverageUntil ≤ now)
    (accepted : validate (admittedLink message arm now freshId).lastAccepted = .ok ()) :
    AdmittedFor arm (admittedLink message arm now freshId) := by
  refine ⟨.empty, .attachWaiter message, now, freshId,
    (admittedLink message arm now freshId).lastAccepted, ?_⟩
  have vacant : LinkTable.empty.history[message.requestId]? = none := by
    simp [LinkTable.empty]
  have room : ¬ historyCap ≤ LinkTable.empty.history.size := by
    simp [LinkTable.empty, historyCap]
  have free : LinkTable.empty.current = none := rfl
  simp [decideAttach, valid, vacant, room, armId, generation, seatId, route, covered, free,
    accepted]

/-- A frame that validates has at most sixty-four events. -/
theorem length_le_of_validate {message : DeliverEvents}
    (valid : validate (.deliverEvents message) = .ok ()) : message.events.length ≤ 64 := by
  simp only [validate] at valid
  rw [allOf_eq_ok_iff] at valid
  simp only [List.mem_cons, List.not_mem_nil, or_false, forall_eq_or_imp, forall_eq] at valid
  have events := valid.2.2.2.2.2.2.2.2
  unfold validateEvents at events
  rw [allOf_eq_ok_iff] at events
  simp only [List.mem_cons, List.not_mem_nil, or_false, forall_eq_or_imp, forall_eq,
    require_eq_ok_iff, Bool.and_eq_true, decide_eq_true_eq] at events
  exact events.1.2

/-- What an admitted link is known to satisfy. -/
structure AdmittedFacts (arm : KnownArm) (link : AdmittedLink) : Prop where
  armId : link.armId = arm.armId
  generation : link.generation = arm.generation
  route : link.route = arm.route
  linkUlid : ulidText link.linkId = true
  armUlid : ulidText link.armId = true
  generationOk : generationOk link.generation = .ok ()
  routeOk : attachedRouteOk link.route = .ok ()

/-- What admission for an arm says of a link. -/
theorem AdmittedFor.facts {arm : KnownArm} {link : AdmittedLink}
    (admitted : AdmittedFor arm link) : AdmittedFacts arm link := by
  obtain ⟨table, request, now, freshId, reply, decided⟩ := admitted
  rcases decideAttach_cases decided with ⟨_, _, other, _⟩ | ⟨_, other⟩ |
    ⟨message, known, _, member, armId, generation, route, _, _, valid, same⟩
  · cases other
  · cases other
  · cases same
    rw [List.mem_singleton] at member
    subst member
    simp only [admittedLink, validate] at valid
    rw [allOf_eq_ok_iff] at valid
    simp only [List.mem_cons, List.not_mem_nil, or_false, forall_eq_or_imp, forall_eq,
      ulidOk, require_eq_ok_iff] at valid
    exact ⟨armId.symm, generation.symm, route.symm, valid.2.2.1, valid.2.2.2.1,
      valid.2.2.2.2.1, valid.2.2.2.2.2.1⟩

/-- The frame of a claimed page validates on an admitted link exactly when the page is
small and spaceless. -/
theorem validate_deliver_iff {arm : KnownArm} {link : AdmittedLink}
    {signalId deliveryId observed : String} {now : OffsetDateTime}
    {events : List DrainedEvent} {last : DrainedEvent}
    (facts : AdmittedFacts arm link) (signalUlid : ulidText signalId = true)
    (deliveryUlid : ulidText deliveryId = true)
    (parsed : ∀ event ∈ events, event.Parsed)
    (distinct : (events.map DrainedEvent.id).Nodup)
    (newest : events.getLast? = some last) (written : timeOk observed = .ok ())
    (attempted : timeOk (formatTime now) = .ok ()) :
    validate (.deliverEvents (deliverMessage link signalId
      (providerEventsFromDrain events observed) last.id now deliveryId)) = .ok () ↔
        events.length ≤ 64 ∧ Spaceless events := by
  rw [← validateEvents_iff parsed distinct newest written]
  simp only [validate, deliverMessage]
  rw [allOf_eq_ok_iff]
  simp only [List.mem_cons, List.not_mem_nil, or_false, forall_eq_or_imp, forall_eq,
    schemaOk, ulidOk, require_eq_ok_iff, beq_self_eq_true, signalUlid, deliveryUlid,
    facts.linkUlid, facts.armUlid, facts.generationOk, facts.routeOk, attempted, true_and]

/-! ## Carrying a claim -/

/-- A claim is carried: its batch is prepared for the link and encoded, and, whether
the attempt still awaits a result or was lost, it is resent to the successor and
encoded again. -/
def Carried (ledger : DeliveryLedger) (live : SignalClaim) (link successor : AdmittedLink)
    (now later : OffsetDateTime) (deliveryId : String) : Prop :=
  ∃ message pending,
    prepareDelivery ledger link live.signalId live.events now deliveryId =
      (.ok message, ⟨some pending⟩) ∧
    (encodePayload (.deliverEvents message)).isOk = true ∧
    ∀ attempt, attempt.isTerminal = false →
      ∃ resent after,
        redeliverPending ⟨some { pending with attempt }⟩ successor later = (.ok resent, after) ∧
        (encodePayload (.deliverEvents resent)).isOk = true

/-- A page that every admitted link carries at the given attempt times: at most
sixty-four messages, no identifier or name with a space, and a frame within the
payload on the link and on its successor. -/
def Carriable (link successor : AdmittedLink) (observed : String)
    (now later : OffsetDateTime) (events : List DrainedEvent) : Prop :=
  events.length ≤ 64 ∧ Spaceless events ∧
    pageBytes link observed (formatTime now) events ≤ maxPayload ∧
    pageBytes successor observed (formatTime later) events ≤ maxPayload

/-- A batch readdressed to a link of the same authority is the batch that would have
been prepared for it. -/
theorem readdressed_deliverMessage {arm : KnownArm} {link successor : AdmittedLink}
    (facts : AdmittedFacts arm link) (others : AdmittedFacts arm successor)
    (signalId : String) (events : List ProviderEvent) (newest : String)
    (now later : OffsetDateTime) (deliveryId : String) :
    readdressed (deliverMessage link signalId events newest now deliveryId) successor later =
      deliverMessage successor signalId events newest later deliveryId := by
  simp [readdressed, deliverMessage, facts.armId, facts.generation, facts.route,
    others.armId, others.generation, others.route]

/-- Preparing from a ledger with nothing to resend succeeds exactly when the frame
validates. -/
theorem prepareDelivery_of_valid {ledger : DeliveryLedger} {link : AdmittedLink}
    {signalId deliveryId : String} {events : List ProviderEvent} {last : ProviderEvent}
    {now : OffsetDateTime} (resting : ledger.shouldRedeliver = false)
    (newest : events.getLast? = some last)
    (valid : validate (.deliverEvents
      (deliverMessage link signalId events last.eventRef now deliveryId)) = .ok ()) :
    prepareDelivery ledger link signalId events now deliveryId =
      (.ok (deliverMessage link signalId events last.eventRef now deliveryId),
        ⟨some ⟨deliveryId, link.linkId,
          deliverMessage link signalId events last.eventRef now deliveryId, .awaiting⟩⟩) := by
  simp [prepareDelivery, resting, newest, valid]

/-- A pending batch is resent to a link of the same authority when its new frame
validates. -/
theorem redeliverPending_of_valid {pending : PendingDelivery} {link : AdmittedLink}
    {now : OffsetDateTime} (unsettled : pending.attempt.isTerminal = false)
    (armId : pending.message.armId = link.armId)
    (generation : pending.message.generation = link.generation)
    (route : pending.message.route = link.route)
    (valid : validate (.deliverEvents (readdressed pending.message link now)) = .ok ()) :
    redeliverPending ⟨some pending⟩ link now =
      (.ok (readdressed pending.message link now),
        ⟨some { pending with
          message := readdressed pending.message link now
          linkId := link.linkId
          attempt := .awaiting }⟩) := by
  simp [redeliverPending, unsettled, armId, generation, route, valid]

variable [UnicodeSegmentation]

/-- Once a page is claimed, its batch is prepared, resent and encoded exactly when the
page is carriable. -/
theorem claimed_page_carried_iff {output : ReadOutput} {request : IngestRequest}
    {pipe : DaemonPipe} {acks : AckStore} {io : Option DeliveryIo}
    {signalId mintedId deliveryId : String} {events : List DrainedEvent}
    {live : SignalClaim} {ledger : DeliveryLedger} {link successor : AdmittedLink}
    {now later : OffsetDateTime}
    (production : request.drain = chanvoyDrain output)
    (accepted : chanvoyDrain output request.spec = .ok events)
    (unclaimed : pipe.claim = none)
    (claimed : (ingestMatch request pipe acks io signalId mintedId).pipe.claim = some live)
    (signalUlid : ulidText signalId = true) (deliveryUlid : ulidText deliveryId = true)
    (admitted : AdmittedFor request.arm link)
    (succeeding : AdmittedFor request.arm successor)
    (resting : ledger.shouldRedeliver = false)
    (observedAt : (Rfc3339.format request.now).isSome)
    (attemptedAt : (Rfc3339.format now).isSome)
    (repeatedAt : (Rfc3339.format later).isSome) :
    Carried ledger live link successor now later deliveryId ↔
      Carriable link successor (observedText request.now) now later events := by
  have facts := admitted.facts
  have others := succeeding.facts
  -- The claim is the page's own.
  have same : live = freshClaim request events signalId := by
    rcases ingestMatch_cases request pipe acks io signalId mintedId with
      stopped | ⟨drained, _, _, parsed, _, ingested⟩
    · rw [stopped.pipe_eq, unclaimed] at claimed
      cases claimed
    · rw [production, accepted] at parsed
      cases parsed
      rw [ingested, claimDrained_claim request events acks io signalId mintedId unclaimed] at claimed
      exact (Option.some.inj claimed).symm
  subst same
  obtain ⟨_, json, _, parsedPage⟩ := chanvoyDrain_ok accepted
  obtain ⟨_, _, _, nonempty, parsed, distinct, _⟩ := parseDrainedEvents_ok parsedPage
  obtain ⟨last, newest⟩ : ∃ last, events.getLast? = some last :=
    ⟨_, List.getLast?_eq_some_getLast nonempty⟩
  have batchNewest : (providerEventsFromDrain events (observedText request.now)).getLast? =
      some { provider := "mattermost", eventRef := last.id,
             actor := if last.username = "" then none else some last.username,
             observedAt := observedText request.now, body := last.message } := by
    simp [providerEventsFromDrain, List.getLast?_map, newest]
  obtain ⟨observed, observedWritten⟩ := Option.isSome_iff_exists.1 observedAt
  obtain ⟨attempted, attemptedWritten⟩ := Option.isSome_iff_exists.1 attemptedAt
  obtain ⟨repeated, repeatedWritten⟩ := Option.isSome_iff_exists.1 repeatedAt
  have observedOk : timeOk (observedText request.now) = .ok () := by
    rw [observedText, observedWritten]
    exact timeOk_of_format observedWritten
  have attemptedOk : timeOk (formatTime now) = .ok () := by
    rw [formatTime, attemptedWritten]
    exact timeOk_of_format attemptedWritten
  have repeatedOk : timeOk (formatTime later) = .ok () := by
    rw [formatTime, repeatedWritten]
    exact timeOk_of_format repeatedWritten
  have named : ∀ event ∈ events, event.username ≠ "" := fun event member =>
    (parsed event member).usernameBytes.1
  have validFirst := validate_deliver_iff facts signalUlid deliveryUlid parsed distinct newest
    observedOk attemptedOk
  have validAgain := validate_deliver_iff others signalUlid deliveryUlid parsed distinct newest
    observedOk repeatedOk
  have sizes : ∀ (sent : AdmittedLink) (instant : OffsetDateTime),
      AdmittedFacts request.arm sent →
        utf8Len (WaiterLink.json (.deliverEvents (deliverMessage sent signalId
          (providerEventsFromDrain events (observedText request.now)) last.id instant
          deliveryId))) =
            pageBytes sent (observedText request.now) (formatTime instant) events :=
    fun _ _ known => utf8Len_json_deliver known.linkUlid known.armUlid signalUlid
      deliveryUlid named newest
  have sizeFirst := sizes link now facts
  have sizeAgain := sizes successor later others
  have resends := readdressed_deliverMessage facts others signalId
    (providerEventsFromDrain events (observedText request.now)) last.id now later deliveryId
  constructor
  · rintro ⟨message, pending, prepared, encoded, resendable⟩
    obtain ⟨newestEvent, found, rfl, _, held⟩ := prepareDelivery_ok prepared
    simp only [freshClaim, batchNewest, Option.some.injEq] at found
    subst found
    simp only [freshClaim] at encoded held
    cases held
    obtain ⟨resent, after, redelivered, encodedAgain⟩ := resendable .awaiting rfl
    obtain ⟨held, stored, rfl, _⟩ := redeliverPending_ok redelivered
    cases stored
    simp only [resends] at encodedAgain
    rw [encodePayload_isOk_iff, validFirst, sizeFirst] at encoded
    rw [encodePayload_isOk_iff, validAgain, sizeAgain] at encodedAgain
    exact ⟨encoded.1.1, encoded.1.2, encoded.2, encodedAgain.2⟩
  · rintro ⟨few, spaceless, fits, fitsAgain⟩
    have valid := validFirst.2 ⟨few, spaceless⟩
    have prepared := prepareDelivery_of_valid resting batchNewest valid
    refine ⟨_, _, prepared, ?_, ?_⟩
    · rw [encodePayload_isOk_iff, sizeFirst]
      exact ⟨valid, fits⟩
    · intro attempt pendingAttempt
      have revalid := validAgain.2 ⟨few, spaceless⟩
      rw [← resends] at revalid
      refine ⟨_, _, redeliverPending_of_valid pendingAttempt ?_ ?_ ?_ revalid, ?_⟩
      · exact facts.armId.trans others.armId.symm
      · exact facts.generation.trans others.generation.symm
      · exact facts.route.trans others.route.symm
      · rw [encodePayload_isOk_iff, resends, sizeAgain]
        exact ⟨validAgain.2 ⟨few, spaceless⟩, fitsAgain⟩

end Waiter

/-! ## A page of sixty-five messages -/

namespace Waiter
namespace Sample

/-- The instant a number of seconds after the epoch. -/
def second (seconds : Nat) : OffsetDateTime :=
  OffsetDateTime.unixEpoch.addNanos (seconds * 1000000000)

/-- Calendar texts of the instants the samples use. -/
def calendar : List (OffsetDateTime × String) :=
  [(second 0, "1970-01-01T00:00:00Z"), (second 1, "1970-01-01T00:00:01Z"),
    (second 599, "1970-01-01T00:09:59Z"), (second 600, "1970-01-01T00:10:00Z"),
    (second 601, "1970-01-01T00:10:01Z"), (second 1200, "1970-01-01T00:20:00Z")]

/-- The calendar writer and reader on those instants. -/
scoped instance rfc3339 : Rfc3339 where
  format instant := (calendar.find? fun entry => entry.1 == instant).map Prod.snd
  display _ := "1970-01-01 0:00:00.0 +00:00:00"
  parse text := (calendar.find? fun entry => entry.2 == text).map Prod.fst
  parse_format := by
    intro instant text written
    obtain ⟨entry, found, rfl⟩ := Option.map_eq_some_iff.1 written
    have named := List.find?_some found
    simp only [beq_iff_eq] at named
    subst named
    have reads : ∀ entry ∈ calendar,
        (calendar.find? fun other => other.2 == entry.2).map Prod.fst = some entry.1 := by
      decide +kernel
    exact reads entry (List.mem_of_find?_eq_some found)

/-- Segmentation of the samples' texts, whose clusters are single scalars. -/
scoped instance segmentation : UnicodeSegmentation where
  graphemes text := text.map fun character => [character]

/-- A message of the provider. -/
def post (id username text : String) : Json :=
  .object [("id", .string id), ("username", .string username), ("message", .string text)]

/-- The arm of the samples. -/
def arm : KnownArm where
  armId := "01J00000000000000000000010"
  generation := 1
  seatId := "example-devrev"
  route := "complete_background_tool"
  coverageUntil := second 1200

/-- An attach request for the arm. -/
def attach (requestId : String) (generation : Nat) : AttachWaiter where
  schema := schemaId
  requestId
  waiterId := "01J00000000000000000000031"
  armId := "01J00000000000000000000010"
  generation
  seatId := "example-devrev"
  route := "complete_background_tool"
  observedAt := "1970-01-01T00:00:00Z"

/-- The link admitted for it. -/
def link : AdmittedLink :=
  admittedLink (attach "01J00000000000000000000041" 1) arm (second 0) "01J00000000000000000000042"

/-- Coverage of the samples' channel. -/
def spec : WaitOnSpec := ⟨"town-square", some "post00", "20m", none⟩

/-- Sixty-five short messages after the cursor. -/
def crowdedJson : Json :=
  .array ((List.range 65).map fun number =>
    post (String.ofList (['p', 'o', 's', 't', '-'] ++ Nat.toDigits 10 number)) "anna" "hello")

/-- The provider's answer with those messages. -/
def crowdedPage : ReadOutput := .stdout (some crowdedJson)

/-- What the drain makes of them. -/
def crowded : List DrainedEvent :=
  (List.range 65).map fun number =>
    ⟨String.ofList (['p', 'o', 's', 't', '-'] ++ Nat.toDigits 10 number), "anna", "hello", none⟩

/-- The ingest of the page. -/
def crowdedIngest : IngestRequest :=
  ⟨spec, .matched, chanvoyDrain crowdedPage, arm, none, second 1⟩

private theorem crowded_parsed : parseDrainedEvents (some crowdedJson) = .ok crowded := by
  decide +kernel

/-- The crowded page is claimed. -/
private theorem crowded_ingested :
    ingestMatch crowdedIngest .empty (AckStore.withArm arm) none
        "01J00000000000000000000021" "01J00000000000000000000043" =
      claimDrained crowdedIngest crowded .empty (AckStore.withArm arm) none
        "01J00000000000000000000021" "01J00000000000000000000043" := by
  have based : crowdedIngest.spec.after ≠ none := by decide
  obtain ⟨_, _, _, nonempty, parsed, _⟩ := parseDrainedEvents_ok crowded_parsed
  exact ingestMatch_of_drained rfl based crowded_parsed nonempty
    (fun event member => (parsed event member).displayable) _ _ _ _ _

/-- The drain accepts the page, the claim is recorded and coverage pauses on it, yet
no link, at no time, is ever prepared a batch. -/
theorem crowded_page_stranded :
    chanvoyDrain crowdedPage spec = .ok crowded ∧
      ∃ live,
        (ingestMatch crowdedIngest .empty (AckStore.withArm arm) none
          "01J00000000000000000000021" "01J00000000000000000000043").pipe.claim = some live ∧
        (ingestMatch crowdedIngest .empty (AckStore.withArm arm) none
          "01J00000000000000000000021" "01J00000000000000000000043").outcome.coverage = .pause ∧
        AdmittedFor arm link ∧
        ∀ ledger admitted now deliveryId message after,
          prepareDelivery ledger admitted live.signalId live.events now deliveryId ≠
            (.ok message, after) := by
  rw [crowded_ingested]
  refine ⟨crowded_parsed, freshClaim crowdedIngest crowded "01J00000000000000000000021",
    claimDrained_claim _ _ _ _ _ _ rfl, by decide +kernel, ?_, ?_⟩
  · exact admittedFor_of_valid (by decide +kernel) rfl rfl rfl rfl (by decide +kernel)
      (by decide +kernel)
  · intro ledger admitted now deliveryId message after prepared
    obtain ⟨last, _, rfl, valid, _⟩ := prepareDelivery_ok prepared
    have few := length_le_of_validate valid
    have many : (freshClaim crowdedIngest crowded "01J00000000000000000000021").events.length =
        65 := by simp [freshClaim, providerEventsFromDrain, crowded]
    simp only [deliverMessage, many] at few
    omega

/-- A page of one short message. -/
def plainPage : ReadOutput := .stdout (some (.array [post "post-1" "anna" "hello"]))

/-- Its ingest. -/
def plainIngest : IngestRequest :=
  ⟨spec, .matched, chanvoyDrain plainPage, arm, none, second 1⟩

/-- The claim of the plain page is carried. -/
theorem plain_page_carried :
    Carried .empty
      (freshClaim plainIngest [⟨"post-1", "anna", "hello", none⟩] "01J00000000000000000000021")
      link link (second 1) (second 600) "01J00000000000000000000043" := by
  have admitted : AdmittedFor arm link :=
    admittedFor_of_valid (by decide +kernel) rfl rfl rfl rfl (by decide +kernel)
      (by decide +kernel)
  have spaceless : Spaceless [⟨"post-1", "anna", "hello", none⟩] := by
    unfold Spaceless
    decide +kernel
  have production : plainIngest.drain = chanvoyDrain plainPage := rfl
  have accepted : chanvoyDrain plainPage plainIngest.spec =
      .ok [⟨"post-1", "anna", "hello", none⟩] := by decide +kernel
  have unclaimed : DaemonPipe.empty.claim = none := rfl
  have claimed : (ingestMatch plainIngest .empty (AckStore.withArm arm) none
      "01J00000000000000000000021" "01J00000000000000000000043").pipe.claim =
        some (freshClaim plainIngest [⟨"post-1", "anna", "hello", none⟩]
          "01J00000000000000000000021") := by decide +kernel
  have fits : Carriable link link (observedText plainIngest.now) (second 1) (second 600)
      [⟨"post-1", "anna", "hello", none⟩] :=
    ⟨by decide, spaceless, by decide +kernel, by decide +kernel⟩
  have resting : DeliveryLedger.empty.shouldRedeliver = false := rfl
  exact (claimed_page_carried_iff production accepted unclaimed claimed (by decide +kernel)
    (by decide +kernel) admitted admitted resting (by decide +kernel) (by decide +kernel)
    (by decide +kernel)).2 fits

end Sample
end Waiter
end Gearwit
