import SolveTls.Http2.H2Laws
import SolveTls.Proofs.Errors

/-! What has to be known of the smallest steps of a session to know it of its methods. -/

namespace SolveTls.HTTP2Session

open Fallible

variable {κ δ α β : Type} {packages : Packages κ δ} {condition : Prop}
variable {property final : (α : Type) → SessionM κ δ α → Prop}

/-- The state with another receive buffer and another count of received octets. -/
def rebuffer (buffer : Bytes) (captureBytes : Nat) (state : HTTP2Session κ δ) : HTTP2Session κ δ :=
  { state with buffer, captureBytes }

/-- Ask the connection how many streams are open. -/
def countOpen (packages : Packages κ δ) : SessionM κ δ Nat := onConnection fun connection =>
  match packages.h2.openInboundStreams connection.core with
  | (opened, core) => (.ok opened, { connection with core })

/-- Composed properties that do not depend on what the receive buffer holds. -/
structure Looking (property : (α : Type) → SessionM κ δ α → Prop) : Prop
    extends Composed property where
  looks : ∀ {α : Type} {next : HTTP2Session κ δ → SessionM κ δ α},
    (∀ buffer captureBytes state, next (rebuffer buffer captureBytes state) = next state) →
    (∀ state, property α (next state)) → property α (get >>= next)

/-- A property of methods whose steps have another one, up to the last of them. -/
structure Leading (property final : (α : Type) → SessionM κ δ α → Prop) : Prop where
  stops : ∀ {α : Type} {action : SessionM κ δ α}, property α action → final α action
  bind : ∀ {α β : Type} {action : SessionM κ δ α} {next : α → SessionM κ δ β},
    property α action → (∀ value, final β (next value)) → final β (action >>= next)
  looks : ∀ {α : Type} {next : HTTP2Session κ δ → SessionM κ δ α},
    (∀ buffer captureBytes state, next (rebuffer buffer captureBytes state) = next state) →
    (∀ state, final α (next state)) → final α (get >>= next)

namespace Looking

section Calls

variable (looking : Looking property)

include looking

/-- Every step of a method may also be its last one. -/
theorem leading : Leading property property := ⟨id, looking.bind, looking.looks⟩

/-- The events of a frame are dealt with one after another. -/
theorem on_processEvents (events : List Event)
    (each : ∀ event ∈ events, property Unit (processEvent packages event)) :
    property Unit (processEvents packages events) := by
  -- The induction is on the events; each continues from the state the one before left.
  induction events with
  | nil => exact looking.pure ()
  | cons event rest ih =>
    refine looking.bind (each event List.mem_cons_self) fun _ => ih fun later among => ?_
    exact each later (List.mem_cons_of_mem _ among)

/-- Both checks that end a call of the owner are looks at the state. -/
theorem on_checkCancelled (throws : ∀ message, property Unit (throw (.connection message))) :
    property Unit checkCancelled :=
  looking.looks (fun _ _ _ => rfl) fun _ =>
    looking.bind (looking.on_raiseIf (throws _)) fun _ => looking.on_raiseIf (throws _)

end Calls

end Looking

/-- Relations between the states before and after say nothing of the buffer. -/
theorem looking_within {relation : HTTP2Session κ δ → HTTP2Session κ δ → Prop}
    (progress : Progress relation) : Looking fun _ action => Within relation action where
  toComposed := progress.composed_within
  looks _ later := progress.within_bind progress.within_get later

/-- The same for methods that return. -/
theorem looking_returning {relation : HTTP2Session κ δ → HTTP2Session κ δ → Prop}
    (progress : Progress relation) : Looking fun _ action => Returning relation action where
  toComposed := progress.composed_returning
  looks _ later := progress.returning_bind progress.returning_get later

/-- And for exits. -/
theorem looking_covers {exits : Exits (HTTP2Session κ δ) Exn} (chained : exits.Chained) :
    Looking fun _ action => exits.Covers action where
  toComposed := chained.composed_covers
  looks _ later := chained.covers_bind chained.covers_get later

/-! ### Checks that close the connection -/

/-- A property of everything that a check of the session may lead to. -/
structure Checking (packages : Packages κ δ) (property : (α : Type) → SessionM κ δ α → Prop) :
    Prop extends Looking property where
  /-- Errors of the program itself, other than those it fails with. -/
  throws : ∀ {α : Type} {raised : Exn}, raised.isOwn = true → property α (throw raised)
  /-- Errors of checking fields, other than those it is answered with. -/
  validates : ∀ {headers : List Field} {trailers : Bool} {raised : Exn},
    validateFields packages headers trailers = .error raised →
    (∀ message code, raised ≠ .protocolError message code) → property (List Field) (throw raised)
  counts : property Nat (countOpen packages)
  fails : ∀ {α : Type} (message : String) {errorCode : Nat}, IsFault errorCode →
    property α (fail packages message errorCode)

namespace Checking

section Checks

variable (checking : Checking packages property) (frame : ParsedFrame)

include checking

/-- A check fails with an error code or passes. -/
theorem on_failIf (condition : Prop) [Decidable condition] (message : String) {errorCode : Nat}
    (faulty : IsFault errorCode) : property Unit (failIf packages condition message errorCode) :=
  checking.on_runWhen fun _ => checking.fails message faulty

/-- Streams are counted first, and the limit is checked against the count. -/
theorem on_checkPriorityLimit : property Unit (checkPriorityLimit packages) :=
  checking.bind checking.counts fun _ => checking.looks (fun _ _ _ => rfl) fun _ =>
    checking.on_failIf _ _ (by decide)

/-- Valid fields are returned, a protocol error fails, and anything else goes on. -/
theorem on_validateEvent (headers : Option (List Field)) (trailers : Bool) :
    property (List Field) (validateEvent packages headers trailers) := by
  cases headers with
  | none => exact checking.throws rfl
  | some headers =>
    simp only [validateEvent]
    cases checked : validateFields packages headers trailers with
    | ok value => exact checking.pure headers
    | error raised =>
      cases raised with
      | protocolError message code => exact checking.fails _ (by decide)
      | _ => exact checking.validates checked (by intros; simp)

/-- An open header block is looked up, and anything but its continuation fails. -/
theorem on_checkContinuation : property Unit (checkContinuation packages frame) :=
  checking.looks (fun _ _ _ => rfl) fun _ => checking.on_failIf _ _ (by decide)

/-- A reset is compared with the highest stream of its side. -/
theorem on_checkReset : property Unit (checkReset packages frame) :=
  checking.on_runWhen fun _ => checking.looks (fun _ _ _ => rfl) fun _ =>
    checking.on_failIf _ _ (by decide)

/-- A payload that did not parse is refused with the code of its fault. -/
theorem on_rejectMalformed
    (faulty : ∀ message code, parseFault frame.payload = some (message, code) → IsFault code) :
    property Unit (rejectMalformed packages frame) := by
  unfold rejectMalformed
  cases fault : parseFault frame.payload with
  | none => exact checking.pure ()
  | some said => exact checking.fails _ (faulty _ _ fault)

end Checks

end Checking

/-! ### The events of a frame -/

/-- What is written down about the body of the request and about its end. -/
inductive Note where
  | expects (length : Nat)
  | counts (size : Nat)
  | refuses
  | readies
  | cancels

def Note.write : Note → HTTP2Session κ δ → HTTP2Session κ δ
  | .expects length, self => { self with expectedLength := some length }
  | .counts size, self => { self with requestBytes := self.requestBytes + size }
  | .refuses, self => { self with
      capture := { self.capture with expectationFailed := true }, requestReady := true }
  | .readies, self => { self with requestReady := true }
  | .cancels, self => { self with cancelled := true }

/-- The first request is captured. -/
def accepting (streamId : Nat) (headers : List Field) (self : HTTP2Session κ δ) :
    HTTP2Session κ δ :=
  let capture := { self.capture with streamId := some streamId, headers := some headers }
  { self with
    capture, history := { self.history with accepted := self.history.accepted ++ [capture] } }

/-- A property of everything that an event may lead to, apart from what is captured of it. -/
structure Reacting (packages : Packages κ δ) (property : (α : Type) → SessionM κ δ α → Prop) :
    Prop extends Checking packages property where
  acknowledges : ∀ length streamId,
    property Unit (callH2 packages (Outcall.acknowledge length streamId).method)
  notes : ∀ note : Note, property Unit (modify note.write)

namespace Reacting

section Events

variable (reacting : Reacting packages property)

include reacting

/-- A property that is composed and follows from another has its steps as well. -/
theorem mono (looking : Looking final)
    (weaker : ∀ {α : Type} {action : SessionM κ δ α}, property α action → final α action) :
    Reacting packages final where
  toLooking := looking
  throws own := weaker (reacting.throws own)
  validates failed other := weaker (reacting.validates failed other)
  counts := weaker reacting.counts
  fails message _ faulty := weaker (reacting.fails message faulty)
  acknowledges length streamId := weaker (reacting.acknowledges length streamId)
  notes note := weaker (reacting.notes note)

/-- The declared length is noted before it is checked. -/
theorem on_recordExpectedLength (values : Dict Bytes Bytes) :
    property Unit (recordExpectedLength packages values) := by
  unfold recordExpectedLength
  cases values.get? (ascii "content-length") with
  | none => exact reacting.pure ()
  | some contentLength =>
    exact reacting.bind (reacting.notes (.expects _)) fun _ => reacting.on_failIf _ _ (by decide)

/-- Trailers are kept once they are checked. -/
theorem on_processTrailers (records : ∀ fields, property Unit (modify fun self => { self with
      capture := { self.capture with trailers := fields } }))
    (streamId : Nat) (headers : Option (List Field)) :
    property Unit (processTrailers packages streamId headers) :=
  reacting.bind (reacting.on_validateEvent _ _) fun _ =>
    reacting.looks (fun _ _ _ => rfl) fun _ => reacting.on_runWhen fun _ => records _

/-- Data of the captured stream is counted against the limit before it is acknowledged. -/
theorem on_processData (streamId : Nat) (data : Bytes) (flowControlledLength : Nat) :
    property Unit (processData packages streamId data flowControlledLength) := by
  refine reacting.looks (fun _ _ _ => rfl) fun _ =>
    reacting.bind (reacting.on_runWhen fun _ => ?_) fun _ => reacting.acknowledges _ _
  exact reacting.bind (reacting.notes (.counts data.length)) fun _ =>
    reacting.looks (fun _ _ _ => rfl) fun _ => reacting.on_failIf _ _ (by decide)

/-- The end of the captured stream is checked before the request is ready. -/
theorem on_processEnd (streamId : Nat) : property Unit (processEnd packages streamId) :=
  reacting.looks (fun _ _ _ => rfl) fun _ => reacting.on_runWhen fun _ =>
    reacting.bind (reacting.on_failIf _ _ (by decide)) fun _ => reacting.notes .readies

/-- A reset of the captured stream is noted, and any other is ignored. -/
theorem on_processReset (streamId : Nat) : property Unit (processReset streamId) :=
  reacting.looks (fun _ _ _ => rfl) fun _ => reacting.on_runWhen fun _ => reacting.notes .cancels

/-- A first request is captured, and it may be told to continue, which is done last. -/
theorem on_acceptRequest (whole : SessionM κ δ Unit → Prop) (leading : Leading property final)
    (streamId : Nat) (headers : List Field) (streamEnded : Bool)
    (accepts : ∀ next : SessionM κ δ Unit, final Unit next →
      whole (do modify (accepting streamId headers); next))
    (continues : streamEnded = false → ∀ fields,
      final Unit (callH2 packages (Outcall.headers streamId fields false).method)) :
    whole (acceptRequest packages streamId headers streamEnded) := by
  refine accepts _ (leading.bind (reacting.on_recordExpectedLength _) fun _ => ?_)
  refine on_ite (fun _ => leading.stops (reacting.notes .refuses)) fun _ => ?_
  cases (Dict.ofItems headers).get? (ascii ":method") with
  | none => exact leading.stops (reacting.throws rfl)
  | some method =>
    refine on_ite (fun _ => leading.stops (reacting.notes .readies)) fun _ => ?_
    -- Only a request whose body is expected is told to continue.
    refine on_ite (fun expected => ?_) fun _ => leading.stops (reacting.pure ())
    exact continues (by simpa using expected.2) _

/-- A request closes idle streams, and it is accepted if it is the first one. -/
theorem on_processRequest (leading : Leading property final) {streamId : Nat}
    (headers : Option (List Field)) {streamEnded : Bool}
    (closes : property Unit (modify fun self => { self with
      prioritizedIdleStreams := self.prioritizedIdleStreams.filter (streamId < ·) }))
    (resets : property Unit (callH2 packages
      (Outcall.reset streamId ErrorCode.refusedStream.code).method))
    (accepts : ∀ fields, final Unit (acceptRequest packages streamId fields streamEnded)) :
    final Unit (processRequest packages streamId headers streamEnded) := by
  refine leading.bind closes fun _ => leading.looks (fun _ _ _ => rfl) fun _ =>
    on_ite (fun _ => leading.stops resets) fun _ => ?_
  exact leading.bind reacting.on_checkPriorityLimit fun _ =>
    leading.bind (reacting.on_validateEvent _ _) fun _ => accepts _

/-- Every event is dealt with if requests and trailers are. -/
theorem on_processEvent (event : Event)
    (requests : ∀ streamId headers streamEnded,
      event = .requestReceived streamId headers streamEnded →
        property Unit (processRequest packages streamId headers streamEnded))
    (trailers : ∀ streamId headers, event = .trailersReceived streamId headers →
      property Unit (processTrailers packages streamId headers)) :
    property Unit (processEvent packages event) := by
  cases event with
  | requestReceived streamId headers streamEnded => exact requests _ _ _ rfl
  | trailersReceived streamId headers => exact trailers _ _ rfl
  | dataReceived streamId data length => exact reacting.on_processData _ _ _
  | streamEnded streamId => exact reacting.on_processEnd _
  | streamReset streamId => exact reacting.on_processReset _
  | other => exact reacting.pure ()

/-- Three frame types are answered by the session, all others go to the connection. -/
theorem on_processParsed {frame : ParsedFrame} {wire : Bytes}
    (delivers : property Unit (deliverFrame packages frame wire))
    (updates : ∀ streamId, property Unit (processPriorityUpdate packages streamId)) :
    property Unit (processParsed packages frame wire) := by
  refine reacting.bind (reacting.on_failIf _ _ (by decide)) fun _ =>
    reacting.bind (reacting.on_checkReset frame) fun _ => ?_
  cases frame.header.kind with
  | none => exact delivers
  | some kind =>
    cases kind with
    | priority => exact reacting.pure ()
    | priorityUpdate =>
      cases frame.payload with
      | priorityUpdate payload => exact updates _
      | _ => exact reacting.throws rfl
    | goaway =>
      cases frame.payload with
      | goaway payload => exact reacting.on_runWhen fun _ => reacting.notes .cancels
      | _ => exact reacting.throws rfl
    | _ => exact delivers

end Events

end Reacting

/-! ### A frame before it is delivered -/

/-- What is written down about an open header block. -/
inductive BlockNote where
  | adds (length : Nat)
  | ends
  | continues (streamId : Nat)

def BlockNote.write : BlockNote → HTTP2Session κ δ → HTTP2Session κ δ
  | .adds length, self => { self with headerBlockBytes := self.headerBlockBytes + length }
  | .ends, self => { self with continuationStream := none, headerBlockBytes := 0 }
  | .continues streamId, self => { self with continuationStream := some streamId }

namespace Checking

section Frames

variable (checking : Checking packages property)

include checking

/-- The first frame is checked, and its settings are kept. -/
theorem on_checkFirstFrame (frame : ParsedFrame)
    (begins : property Unit (modify fun self => { self with firstFrame := false }))
    (settles : ∀ entries, property Unit (modify fun self => { self with
      capture := { self.capture with initialSettings := some entries } })) :
    property Unit (checkFirstFrame packages frame) := by
  refine checking.looks (fun _ _ _ => rfl) fun _ => checking.on_runWhen fun _ =>
    checking.bind (checking.on_failIf _ _ (by decide)) fun _ => checking.bind begins fun _ => ?_
  cases frame.payload with
  | settings payload => exact settles _
  | _ => exact checking.pure ()

/-- An idle target is noted before the limit is checked, and a closed one is not counted. -/
theorem on_processPriorityUpdate (streamId : Nat)
    (notes : property Unit (modify fun self => { self with
      prioritizedIdleStreams := self.prioritizedIdleStreams.insert streamId })) :
    property Unit (processPriorityUpdate packages streamId) :=
  checking.bind (checking.on_failIf _ _ (by decide)) fun _ =>
    checking.looks (fun _ _ _ => rfl) fun _ => on_ite
      (fun _ => checking.bind notes fun _ => checking.on_checkPriorityLimit)
      fun _ => checking.on_runWhen fun _ => checking.on_checkPriorityLimit

variable (blocks : ∀ note : BlockNote, property Unit (modify note.write))

include blocks

/-- A frame is charged to its header block before the block is opened or closed. -/
theorem on_countHeaderBlock (frame : ParsedFrame) :
    property Unit (countHeaderBlock packages frame) :=
  checking.on_runWhen fun _ => checking.bind (blocks (.adds frame.header.length)) fun _ =>
    checking.looks (fun _ _ _ => rfl) fun _ =>
      checking.bind (checking.on_failIf _ _ (by decide)) fun _ =>
        on_ite (fun _ => blocks .ends) fun _ => blocks (.continues frame.header.streamId)

/-- A frame is noted and checked, and unless it is an advertisement it is parsed. -/
theorem on_processFrame (whole : SessionM κ δ Unit → Prop) {frame : ParsedFrame} {wire : Bytes}
    (notes : ∀ next : SessionM κ δ Unit, property Unit next → whole (do
      modify fun self => { self with
        history := { self.history with
          processed := self.history.processed ++ [(frame, wire)]
          idle := self.history.idle && self.connection.outgoing.isEmpty } }
      next))
    (begins : property Unit (checkFirstFrame packages frame))
    (rejects : property Unit (rejectMalformed packages frame))
    (parses : property Unit (processParsed packages frame wire)) :
    whole (processFrame packages frame wire) :=
  notes _ (checking.bind begins fun _ =>
    checking.bind (checking.on_checkContinuation frame) fun _ =>
      checking.bind (checking.on_countHeaderBlock blocks frame) fun _ =>
        on_ite (fun _ => checking.pure ()) fun _ => checking.bind rejects fun _ => parses)

end Frames

end Checking

/-! ### Settings, and what else is passed to the connection -/

/-- A property of everything that the entries of a SETTINGS frame may lead to. -/
structure Applying (packages : Packages κ δ) (property : (α : Type) → SessionM κ δ α → Prop) :
    Prop extends Looking property where
  throws : ∀ {α : Type} {raised : Exn}, raised.isOwn = true → property α (throw raised)
  receives : ∀ items, property Unit (receiveSettings packages items)
  /-- An acknowledgment may be taken back. -/
  drains : property (List WireFrame) (onConnection H2Adapter.dataToSend)
  charges : ∀ changes, property Unit (onConnection (modify fun connection =>
    { connection with headerTableSizeChanges := connection.headerTableSizeChanges + changes }))
  pauses : property Unit pause
  /-- Too many table sizes end the connection. -/
  quits : ∀ message, property Unit (do
    callH2 packages fun h2 core => h2.closeConnection core ErrorCode.enhanceYourCalm.code none
    recordError
    throw (.protocolError message ErrorCode.enhanceYourCalm.code))

/-- Settings are built into a frame, noted and taken by the connection. -/
theorem Looking.on_receiveSettings (looking : Looking property)
    (throws : ∀ {α : Type} {raised : Exn}, raised.isOwn = true → property α (throw raised))
    (items : Dict Nat Nat)
    (notes : property Unit (modify fun self => { self with
      history := { self.history with applied := self.history.applied ++ [items] } }))
    (takes : ∀ wire, property (List Event) (onConnection (H2Adapter.receiveData packages wire))) :
    property Unit (receiveSettings packages items) :=
  looking.bind
    (looking.on_fromExcept fun raised failed => throws (raisesOnly_liftBuilder _ raised failed))
    fun _ => looking.bind notes fun _ => looking.map (takes _)

namespace Applying

section Entries

variable (applying : Applying packages property)

include applying

/-- A property that is composed and follows from another has its steps as well. -/
theorem mono (looking : Looking final)
    (weaker : ∀ {α : Type} {action : SessionM κ δ α}, property α action → final α action) :
    Applying packages final where
  toLooking := looking
  throws own := weaker (applying.throws own)
  receives items := weaker (applying.receives items)
  drains := weaker applying.drains
  charges changes := weaker (applying.charges changes)
  pauses := weaker applying.pauses
  quits message := weaker (applying.quits message)

/-- Each entry but the last is followed by taking its answer back. -/
theorem on_replaySettings (entries : List (Nat × Nat)) (index : Nat) :
    property Unit (replaySettings packages entries index) := by
  -- The recursion is on the entries; the last one is not followed by a comparison.
  induction entries generalizing index with
  | nil => exact applying.pure ()
  | cons entry rest ih =>
    cases rest with
    | nil => exact applying.receives [entry]
    | cons next rest =>
      exact applying.bind (applying.receives [entry]) fun _ =>
        applying.bind applying.drains fun _ =>
          applying.bind (applying.on_raiseIf (applying.throws rfl)) fun _ =>
            applying.bind (applying.on_runWhen fun _ => applying.pauses) fun _ => ih _

/-- Entries are applied in one frame or one by one, unless they change the table too often. -/
theorem on_applySettings (entries : List (Nat × Nat)) :
    property Unit (applySettings packages entries) :=
  applying.looks (fun _ _ _ => rfl) fun _ => on_ite (fun _ => applying.quits _) fun _ =>
    applying.bind (applying.charges _) fun _ =>
      on_ite (fun _ => applying.receives _) fun _ => applying.on_replaySettings _ _

/-- A frame is delivered if its settings are applied and its octets are received. -/
theorem on_deliver (leading : Leading property final) (frame : ParsedFrame) {wire : Bytes}
    (records : ∀ item, property Unit (recordHanded item))
    (wires : final Unit (receiveWire packages wire)) :
    final Unit (deliver packages frame wire) := by
  refine on_ite (fun _ => ?_) fun _ => wires
  cases frame.payload with
  | settings payload =>
    -- An acknowledgment goes to the connection, anything else is applied.
    refine on_ite (fun _ => wires) fun _ => leading.stops ?_
    exact applying.bind (records _) fun _ => applying.on_applySettings _
  | _ => exact leading.stops (applying.throws rfl)

end Entries

end Applying

/-! ### Talking to the connection and the transport -/

/-- A property of every step that does no more than talk to the connection and the transport. -/
structure Talking (property : (α : Type) → SessionM κ δ α → Prop) : Prop
    extends Looking property where
  throws : ∀ {α : Type} (raised : Exn), property α (throw raised)
  connects : ∀ {α : Type} (method : Fallible (H2Adapter κ δ) Exn α), property α (onConnection method)
  writes : ∀ frames, property Unit (transportWrite frames)
  rejects : ∀ frames, property Unit (transportReject frames)
  pauses : property Unit pause
  errs : property Unit recordError
  closes : property Unit (modify fun self => { self with closed := true })
  applies : ∀ items, property Unit (modify fun self => { self with
    history := { self.history with applied := self.history.applied ++ [items] } })

namespace Talking

variable (talking : Talking property)

include talking

/-- What is queued is taken and written. -/
theorem on_flush : property Unit flush :=
  talking.bind (talking.connects _) fun _ => talking.on_runWhen fun _ => talking.writes _

/-- A connection that is open is closed before it is flushed. -/
theorem on_close (errorCode : Nat) : property Unit (close packages errorCode) :=
  talking.looks (fun _ _ _ => rfl) fun _ => talking.bind
    (talking.on_runWhen fun _ => talking.bind (talking.connects _) fun _ => talking.closes)
    fun _ => talking.on_flush

/-- Failing closes the connection and raises. -/
theorem on_fail (message : String) (errorCode : Nat) :
    property α (fail packages message errorCode) :=
  talking.bind talking.errs fun _ =>
    talking.bind (talking.on_close errorCode) fun _ => talking.throws _

/-- What is queued is sent before a protocol error goes on. -/
theorem on_handleProtocolError (raised : Exn) : property Unit (handleProtocolError raised) := by
  cases raised with
  | protocolError message code =>
    refine talking.looks (fun _ _ _ => rfl) fun _ =>
      talking.bind (talking.on_runWhen fun _ => ?_) fun _ => talking.throws _
    exact talking.bind (talking.connects _) fun _ => talking.on_runWhen fun _ =>
      talking.bind (talking.rejects _) fun _ => talking.closes
  | _ => exact talking.throws _

/-- A check does no more than talk to the connection and the transport. -/
theorem checking : Checking packages property where
  toLooking := talking.toLooking
  throws _ := talking.throws _
  validates _ _ := talking.throws _
  counts := talking.connects _
  fails message _ _ := talking.on_fail message _

/-- Settings are applied by talking to the connection. -/
theorem applying : Applying packages property where
  toLooking := talking.toLooking
  throws _ := talking.throws _
  receives items := talking.on_receiveSettings (fun _ => talking.throws _) items
    (talking.applies items) fun _ => talking.connects _
  drains := talking.connects _
  charges _ := talking.connects _
  pauses := talking.pauses
  quits _ := talking.bind (talking.connects _) fun _ =>
    talking.bind talking.errs fun _ => talking.throws _

end Talking

end SolveTls.HTTP2Session
