import SolveTls.Proofs.Http2.HeaderBlocks

/-! Only the first request is captured, as it stands on the wire, and its fingerprint is frozen. -/

namespace SolveTls

open Fallible H2 Reference RequestBlocks

variable {κ δ α : Type} {packages : Packages κ δ} {block : κ → Option OpenBlock}
variable {events : List Event} {state : HTTP2Session κ δ} {wire : Bytes} {frames : List ParsedFrame}
  {older newer : List OpenBlock} {request : OpenBlock}

/-! ### What is recorded of the request -/

/-- What a session has recorded of the first request, and of the frames around it. -/
structure RequestRecord where
  frames : List ParsedFrame
  initialSettings : Option (List (Nat × Nat))
  streamId : Option Nat
  headers : Option (List Field)
  trailers : List Field
  firstFrame : Bool
  accepted : List HTTP2Capture

namespace HTTP2Session

variable {event : Event}

def record (session : HTTP2Session κ δ) : RequestRecord where
  frames := session.capture.frames
  initialSettings := session.capture.initialSettings
  streamId := session.capture.streamId
  headers := session.capture.headers
  trailers := session.capture.trailers
  firstFrame := session.firstFrame
  accepted := session.history.accepted

/-- Nothing that is recorded has changed. -/
def Unrecorded (before after : HTTP2Session κ δ) : Prop := after.record = before.record

/-- The record may stay as it is any number of times. -/
theorem unrecorded : Progress (Unrecorded (κ := κ) (δ := δ)) where
  refl _ := rfl
  trans first second := second.trans first

/-- Output is no part of the record. -/
theorem Outbound.unrecorded {before after : HTTP2Session κ δ} (same : Outbound before after) :
    Unrecorded before after := by
  obtain ⟨⟨connection, transport, closed, applied, errors, rfl⟩, -, -⟩ := same
  rfl

/-- What only sends records nothing. -/
theorem unrecorded_of_outbound {action : SessionM κ δ α} (within : Within Outbound action) :
    Within Unrecorded action :=
  within.mono fun _ _ same => same.unrecorded

/-! ### The events of a frame -/

/-- The notes about a request are no part of its record. -/
theorem reacting_unrecorded : Reacting packages fun _ action => Within (Unrecorded (δ := δ)) action :=
  reacting_within unrecorded (fun _ _ same => same.unrecorded) fun note _ => by cases note <;> rfl

/-- Events without a field list change nothing that is recorded, however they end. -/
theorem unrecorded_processEvent (silent : isReport event = false) :
    Within Unrecorded (processEvent (δ := δ) packages event) := by
  refine reacting_unrecorded.on_processEvent event ?_ ?_
  · rintro streamId headers streamEnded rfl
    cases silent
  · rintro streamId headers rfl
    cases silent

/-- Nor do lists of such events. -/
theorem unrecorded_processEvents (silent : events.filter isReport = []) :
    Within Unrecorded (processEvents (δ := δ) packages events) := by
  refine (looking_within unrecorded).on_processEvents events fun event among => ?_
  rw [List.filter_eq_nil_iff] at silent
  exact unrecorded_processEvent (by simpa using silent event among)

/-- With one field list among the events, what is recorded is up to that event. -/
theorem processEvents_reported (packages : Packages κ δ)
    (reported : events.filter isReport = [event]) (state : HTTP2Session κ δ) :
    Unrecorded state (processEvents packages events state).2 ∨
      ∃ reached, Unrecorded state reached ∧
        Unrecorded (processEvent packages event reached).2
          (processEvents packages events state).2 := by
  -- The induction is on the events up to the one with the field list.
  induction events generalizing state with
  | nil => cases reported
  | cons first rest ih =>
    rw [processEvents]
    cases report : isReport first with
    | true =>
      rw [List.filter_cons_of_pos report] at reported
      obtain ⟨rfl, silent⟩ := List.cons.inj reported
      refine .inr ⟨state, rfl, ?_⟩
      rw [bind_apply]
      rcases processEvent packages first state with ⟨raised | _, reached⟩
      · rfl
      · exact unrecorded_processEvents silent reached
    | false =>
      rw [List.filter_cons_of_neg (by simp [report])] at reported
      have passed : Unrecorded state (processEvent packages first state).2 :=
        unrecorded_processEvent report state
      rw [bind_apply]
      rcases ran : processEvent packages first state with ⟨raised | _, middle⟩ <;> rw [ran] at passed
      · exact .inl passed
      · rcases ih reported middle with same | ⟨reached, same, later⟩
        · exact .inl (unrecorded.trans passed same)
        · exact .inr ⟨reached, unrecorded.trans passed same, later⟩

end HTTP2Session

/-- The first request goes on record, together with the capture that it was accepted in. -/
def RequestRecord.Captures (streamId : Nat) (fields : List Field) (before after : RequestRecord) :
    Prop :=
  ∃ snapshot : HTTP2Capture, snapshot.frames = before.frames ∧
    snapshot.initialSettings = before.initialSettings ∧ snapshot.streamId = some streamId ∧
    snapshot.headers = some fields ∧ after = { before with
      streamId := some streamId, headers := some fields
      accepted := before.accepted ++ [snapshot] }

namespace HTTP2Session

variable {streamId : Nat} {headers : Option (List Field)} {ended : Bool} {raised : Exn}
  {frame : ParsedFrame} {after : HTTP2Session κ δ}

/-- An accepted request is recorded at once, and nothing is recorded after it. -/
theorem acceptRequest_captures (packages : Packages κ δ) (streamId : Nat) (fields : List Field)
    (ended : Bool) (state : HTTP2Session κ δ) :
    RequestRecord.Captures streamId fields state.record
      (acceptRequest packages streamId fields ended state).2.record := by
  have reacting : Reacting packages fun _ action => Within Unrecorded action := reacting_unrecorded
  refine reacting.on_acceptRequest
    (fun action => RequestRecord.Captures streamId fields state.record (action state).2.record)
    reacting.leading streamId fields ended (fun next later => ?_)
    fun _ _ => unrecorded_of_outbound (outbound_callH2 _)
  -- The capture is written first, and noted as it is then.
  exact ⟨{ state.capture with streamId := some streamId, headers := some fields }, rfl, rfl, rfl, rfl,
    later _⟩

/-- A request is recorded if it is the first one, and otherwise it is refused or raises. -/
theorem processRequest_records (packages : Packages κ δ) (streamId : Nat)
    (headers : Option (List Field)) (ended : Bool) (state : HTTP2Session κ δ) :
    Unrecorded state (processRequest packages streamId headers ended state).2 ∧
        (state.capture.streamId = none →
          ∃ raised, (processRequest packages streamId headers ended state).1 = .error raised) ∨
      state.capture.streamId = none ∧ ∃ fields, headers = some fields ∧
        RequestRecord.Captures streamId fields state.record
          (processRequest packages streamId headers ended state).2.record := by
  simp only [processRequest, bind_apply, modify_apply, get_apply]
  by_cases present : state.capture.streamId.isSome = true
  · rw [if_pos present]
    refine .inl ⟨unrecorded_of_outbound (outbound_callH2 _) _, fun absent => ?_⟩
    rw [absent] at present
    cases present
  rw [if_neg present, bind_apply]
  -- Both checks come before anything is recorded.
  rcases limited : checkPriorityLimit packages _ with ⟨raised | _, reached⟩
  · have counted := (unrecorded_of_outbound outbound_checkPriorityLimit).reached limited
    exact .inl ⟨counted, fun _ => ⟨raised, rfl⟩⟩
  obtain rfl := checkPriorityLimit_ok limited
  dsimp only
  rw [bind_apply]
  rcases validated : validateEvent packages headers false _ with ⟨raised | fields, valid⟩
  · have checked := (unrecorded_of_outbound (outbound_validateEvent headers false)).reached validated
    exact .inl ⟨checked, fun _ => ⟨raised, rfl⟩⟩
  have captures := acceptRequest_captures packages streamId fields ended valid
  obtain ⟨given, -, rfl⟩ := validateEvent_ok validated
  exact .inr ⟨by simpa using present, fields, given, captures⟩

/-- A first request that is processed to its end is on record. -/
theorem processRequest_first (unserved : state.capture.streamId = none)
    (ran : processRequest packages streamId headers ended state = (.ok (), after)) :
    ∃ fields, headers = some fields ∧
      RequestRecord.Captures streamId fields state.record after.record := by
  have records := processRequest_records packages streamId headers ended state
  rw [ran] at records
  rcases records with ⟨-, raises⟩ | ⟨-, captured⟩
  · obtain ⟨raised, failed⟩ := raises unserved
    cases failed
  · exact captured

/-- A further request leaves the capture alone. -/
theorem processRequest_further {outcome : Except Exn Unit} (served : state.capture.streamId ≠ none)
    (ran : processRequest packages streamId headers ended state = (outcome, after)) :
    after.capture = state.capture := by
  simp only [processRequest, bind_apply, modify_apply, get_apply] at ran
  rw [if_pos (Option.isSome_iff_ne_none.mpr served)] at ran
  exact ((outbound_callH2 _).reached ran).capture

/-- Trailers go on record if they are those of the captured request. -/
theorem processTrailers_records (packages : Packages κ δ) (streamId : Nat)
    (headers : Option (List Field)) (state : HTTP2Session κ δ) :
    Unrecorded state (processTrailers packages streamId headers state).2 ∨
      state.capture.streamId = some streamId ∧ ∃ fields, headers = some fields ∧
        (processTrailers packages streamId headers state).2.record =
          { state.record with trailers := fields } := by
  have checked : Unrecorded state (validateEvent packages headers true state).2 :=
    unrecorded_of_outbound (outbound_validateEvent headers true) state
  rw [processTrailers, bind_apply]
  rcases validated : validateEvent packages headers true state with ⟨raised | fields, valid⟩ <;>
    rw [validated] at checked
  · exact .inl checked
  · obtain ⟨given, -, rfl⟩ := validateEvent_ok validated
    simp only [bind_apply, get_apply]
    by_cases served : valid.capture.streamId = some streamId
    · rw [runWhen_pos served]
      exact .inr ⟨served, fields, given, rfl⟩
    · rw [runWhen_neg served]
      exact .inl rfl

/-! ### One frame, however it ends -/

/-- A first frame of the wrong type is refused before its settings are kept. -/
theorem checkFirstFrame_raises (ran : checkFirstFrame packages frame state = (.error raised, after)) :
    Unrecorded state after := by
  simp only [checkFirstFrame, bind_apply, get_apply] at ran
  by_cases first : state.firstFrame = true
  · rw [runWhen_pos first, bind_apply] at ran
    rcases checked : failIf packages
      (frame.header.kind ≠ some .settings ∨ frame.header.has FrameFlags.ack)
      "First HTTP/2 frame must be client SETTINGS" ErrorCode.protocolError.code state with
      ⟨error | _, reached⟩ <;> rw [checked] at ran
    · obtain ⟨-, rfl⟩ := Prod.mk.inj ran
      exact (unrecorded_of_outbound (outbound_failIf _ _ _)).reached checked
    · -- What follows the check cannot raise.
      simp only [bind_apply, modify_apply] at ran
      cases decoded : frame.payload <;> simp only [decoded] at ran <;> cases (Prod.mk.inj ran).1
  · rw [runWhen_neg first] at ran
    cases (Prod.mk.inj ran).1

/-- A frame out of its place leaves the record as it was, or with the settings of the first frame. -/
theorem checkPlace_raises (ran : checkPlace packages frame wire state = (.error raised, after)) :
    Unrecorded state after ∨ Unrecorded (admitting state frame wire) after := by
  rw [checkPlace, bind_apply, modify_apply] at ran
  dsimp only at ran
  rw [bind_apply] at ran
  rcases begun : checkFirstFrame packages frame (noting state frame wire) with ⟨error | _, reached⟩ <;>
    rw [begun] at ran
  · obtain ⟨-, rfl⟩ := Prod.mk.inj ran
    have same : Unrecorded (noting state frame wire) reached := checkFirstFrame_raises begun
    exact .inl same
  · -- From here on the settings are kept.
    have settled : Unrecorded (admitting state frame wire) reached := by
      rw [(checkFirstFrame_ok begun).2]
      rfl
    have rest : Within Unrecorded (do
        checkContinuation packages frame
        countHeaderBlock packages frame : SessionM κ δ Unit) :=
      unrecorded.within_bind (reacting_unrecorded.on_checkContinuation frame) fun _ =>
        reacting_unrecorded.on_countHeaderBlock
          (fun note => within_modify fun _ => by cases note <;> rfl) frame
    exact .inr (unrecorded.trans settled (rest.reached ran))

/-- Delivering a frame is nothing but output behind what the library made of it. -/
theorem deliverFrame_outbound {shown : Bytes} (converted : wireForH2 frame wire = .ok shown)
    (state : HTTP2Session κ δ) :
    Outbound (deliver packages frame shown state).2 (deliverFrame packages frame wire state).2 := by
  have sending : Within Outbound (do
      flush
      runWhen (asksForAck frame) pause : SessionM κ δ Unit) :=
    outbound.within_bind outbound_flush fun _ => outbound.within_runWhen _ outbound_pause
  have shape : deliverFrame packages frame wire state = (do
      tryCatch (deliver packages frame shown) handleProtocolError
      flush
      runWhen (asksForAck frame) pause) state := by
    simp only [deliverFrame, converted, fromExcept]
    rfl
  rw [shape, bind_apply, tryCatch_apply]
  rcases deliver packages frame shown state with ⟨raised | _, delivered⟩
  · -- An error is handled by sending, and goes on.
    have handled := outbound_handleProtocolError raised delivered
    dsimp only
    rcases ran : handleProtocolError raised delivered with ⟨error | _, reached⟩ <;>
      rw [ran] at handled
    · exact handled
    · exact outbound.trans handled (sending reached)
  · exact sending delivered

/-- What is recorded of a delivered frame is what the events of the library left. -/
theorem deliverFrame_records (frame : ParsedFrame) (wire : Bytes) (state : HTTP2Session κ δ) :
    Unrecorded state (deliverFrame packages frame wire state).2 ∨
      ∃ shown, wireForH2 frame wire = .ok shown ∧
        Unrecorded (receiveWire packages shown state).2 (deliverFrame packages frame wire state).2 := by
  cases converted : wireForH2 frame wire with
  | error raised =>
    -- A frame that cannot be rebuilt is not delivered.
    refine .inl ?_
    simp only [deliverFrame, converted, fromExcept, bind_apply]
    rfl
  | ok shown =>
    have sent : Unrecorded (deliver packages frame shown state).2
        (deliverFrame packages frame wire state).2 :=
      (deliverFrame_outbound converted state).unrecorded
    by_cases settings : frame.header.kind = some .settings
    · simp only [deliver, if_pos settings] at sent
      cases decoded : frame.payload <;> simp only [decoded] at sent
      case settings payload =>
        by_cases ack : payload.ack = true
        · rw [if_pos ack] at sent
          exact .inr ⟨shown, rfl, sent⟩
        · rw [if_neg ack] at sent
          have applied : Within Unrecorded (do
              recordHanded (.settings payload.entries)
              applySettings packages payload.entries : SessionM κ δ Unit) :=
            unrecorded.within_bind (within_modify fun _ => rfl) fun _ =>
              unrecorded_of_outbound (outbound_applySettings _)
          exact .inl (unrecorded.trans (applied state) sent)
      all_goals exact .inl sent
    · simp only [deliver, if_neg settings] at sent
      exact .inr ⟨shown, rfl, sent⟩

/-- What is recorded of a frame that was read. -/
theorem processParsed_records (frame : ParsedFrame) (wire : Bytes) (state : HTTP2Session κ δ) :
    Unrecorded state (processParsed packages frame wire state).2 ∨
      frame.header.kind ≠ some .pushPromise ∧
      frame.header.kind ∉ [some FrameType.priority, some .priorityUpdate, some .goaway] ∧
      ∃ shown, wireForH2 frame wire = .ok shown ∧
        Unrecorded (receiveWire packages shown state).2 (processParsed packages frame wire state).2 := by
  have promised : Unrecorded state (failIf packages (frame.header.kind = some .pushPromise)
      "Clients must not send PUSH_PROMISE" ErrorCode.protocolError.code state).2 :=
    unrecorded_of_outbound (outbound_failIf _ _ _) state
  rw [processParsed, bind_apply]
  rcases passed : failIf packages (frame.header.kind = some .pushPromise)
    "Clients must not send PUSH_PROMISE" ErrorCode.protocolError.code state with
    ⟨raised | _, reached⟩ <;> rw [passed] at promised
  · exact .inl promised
  obtain ⟨unpromised, rfl⟩ := failIf_eq_ok.mp passed
  have reset : Unrecorded state (checkReset packages frame state).2 :=
    reacting_unrecorded.on_checkReset frame state
  dsimp only
  rw [bind_apply]
  rcases checked : checkReset packages frame state with ⟨raised | _, reached⟩ <;> rw [checked] at reset
  · exact .inl reset
  obtain rfl := checkReset_ok checked
  dsimp only
  -- Three frame types are answered by the session, all others go to the connection.
  by_cases priority : frame.header.kind = some .priority
  · simp only [priority]
    exact .inl rfl
  by_cases update : frame.header.kind = some .priorityUpdate
  · simp only [update]
    refine .inl ?_
    cases frame.payload with
    | priorityUpdate payload =>
      exact reacting_unrecorded.on_processPriorityUpdate _ (within_modify fun _ => rfl) _
    | _ => rfl
  by_cases goaway : frame.header.kind = some .goaway
  · simp only [goaway]
    refine .inl ?_
    cases frame.payload with
    | goaway payload =>
      have within : Within Unrecorded (runWhen (payload.errorCode ≠ ErrorCode.noError.code)
          (modify fun self => { self with cancelled := true }) : SessionM κ δ Unit) :=
        unrecorded.within_runWhen _ (within_modify fun _ => rfl)
      exact within _
    | _ => rfl
  · have delivered : Unrecorded reached (deliverFrame packages frame wire reached).2 ∨ _ :=
      deliverFrame_records frame wire reached
    have others : frame.header.kind ∉ [some FrameType.priority, some .priorityUpdate, some .goaway] := by
      simp [priority, update, goaway]
    cases kind : frame.header.kind with
    | none =>
      rw [kind] at others unpromised
      exact delivered.imp id fun shown => ⟨unpromised, others, shown⟩
    | some known =>
      rw [kind] at others unpromised
      cases known <;> first
        | contradiction
        | exact delivered.imp id fun shown => ⟨unpromised, others, shown⟩

/-- How a frame that was processed, to its end or not, has come to be recorded. -/
inductive Recording (packages : Packages κ δ) (frame : ParsedFrame) (wire : Bytes)
    (state after : HTTP2Session κ δ) : Prop where
  | refused (same : Unrecorded state after)
  | unreported (same : Unrecorded (admitting state frame wire) after)
  | delivered {shown : Bytes} (admitted : Admitted state frame)
    (reaches : frame.header.kind ∉ ownKinds) (converted : wireForH2 frame wire = .ok shown)
    (same : Unrecorded (receiveWire packages shown (admitting state frame wire)).2 after)

/-- Every frame is recorded in one of the three ways. -/
theorem processFrame_records (captured : HTTP2FrameReader.Captured wire frame)
    (state : HTTP2Session κ δ) :
    Recording packages frame wire state (processFrame packages frame wire state).2 := by
  rw [processFrame_eq, bind_apply]
  rcases placed : checkPlace packages frame wire state with ⟨raised | _, reached⟩
  · exact (checkPlace_raises placed).elim .refused .unreported
  obtain ⟨first, continued, fits, rfl⟩ := checkPlace_ok placed
  dsimp only
  by_cases ignored : frame.header.kind = some .altsvc ∨ frame.header.kind = some .origin
  · rw [if_pos ignored]
    exact .unreported rfl
  rw [if_neg ignored, bind_apply]
  have rejected : Unrecorded (admitting state frame wire)
      (rejectMalformed packages frame (admitting state frame wire)).2 := by
    unfold rejectMalformed
    cases parseFault frame.payload with
    | none => rfl
    | some fault => exact unrecorded_of_outbound (outbound_fail _ _) _
  rcases parsed : rejectMalformed packages frame (admitting state frame wire) with
    ⟨raised | _, reached⟩ <;> rw [parsed] at rejected
  · exact .unreported rejected
  obtain ⟨faultless, rfl⟩ := rejectMalformed_ok parsed
  dsimp only
  have recorded : Unrecorded (admitting state frame wire)
      (processParsed packages frame wire (admitting state frame wire)).2 ∨ _ :=
    processParsed_records frame wire (admitting state frame wire)
  rcases recorded with same | ⟨unpromised, others, shown, converted, same⟩
  · exact .unreported same
  · obtain ⟨formed, encodes⟩ := encodes_of_captured captured faultless
    rw [← captured.raw] at formed encodes
    refine .delivered ⟨first, continued, fits, fun _ =>
      ⟨unpromised, HTTP2FrameReader.parseError_of_encodes encodes, formed, encodes⟩⟩ ?_ converted same
    intro own
    simp only [ownKinds, List.mem_cons] at own others
    rcases own with kind | kind | own
    · exact ignored (.inl kind)
    · exact ignored (.inr kind)
    · exact others own

end HTTP2Session

/-! ### A record that is faithful to the frames -/

/-- Whatever was read as HEADERS came in a HEADERS frame. -/
def Headed (frames : List ParsedFrame) : Prop :=
  ∀ frame ∈ frames, ∀ fields, frame.payload = .headers fields → frame.header.kind = some .headers

/-- Every block begins with a HEADERS frame. -/
theorem Headed.begun (headed : Headed frames)
    (blocks : (ofFrames frames).opened.isSome = true ∨
      (ofFrames frames).completed ≠ []) :
    ∃ frame ∈ frames, frame.header.kind = some .headers := by
  -- The induction is on the frames from the last one back.
  induction frames using List.reverseRecOn with
  | nil =>
    rcases blocks with opened | completed
    · cases opened
    · exact absurd rfl completed
  | append_singleton frames frame ih =>
    rw [ofFrames_snoc] at blocks
    have older : Headed frames := fun member among => headed member (List.mem_append_left _ among)
    -- A block that was there before began in an older frame.
    have before (blocks : (ofFrames frames).opened.isSome = true ∨
        (ofFrames frames).completed ≠ []) :
        ∃ member ∈ frames ++ [frame], member.header.kind = some .headers := by
      obtain ⟨member, among, kind⟩ := ih older blocks
      exact ⟨member, List.mem_append_left _ among, kind⟩
    rcases gathered : gather (ofFrames frames).opened frame.header.streamId
      frame.payload with - | ⟨block, complete⟩
    · rw [take, gathered] at blocks
      exact before blocks
    · cases decoded : frame.payload with
      | headers fields =>
        have last : frame ∈ frames ++ [frame] := by simp
        exact ⟨frame, last, headed frame last fields decoded⟩
      | continuation fields =>
        rw [decoded] at gathered
        obtain ⟨opened, among, -⟩ := Option.map_eq_some_iff.mp gathered
        exact before (.inl (by rw [among]; rfl))
      | _ =>
        rw [decoded] at gathered
        cases gathered

/-- Nothing is on record yet. -/
structure RequestRecord.Unserved (record : RequestRecord) : Prop where
  streamId : record.streamId = none
  headers : record.headers = none
  trailers : record.trailers = []
  accepted : record.accepted = []

/-- The block of the request is on record, and of its trailers if there are any. -/
structure RequestRecord.Serves (hpack : Hpack δ) (record : RequestRecord) (snapshot : HTTP2Capture)
    (older : List OpenBlock) (request : OpenBlock) (newer : List OpenBlock)
    (fields : List Field) : Prop where
  accepted : record.accepted = [snapshot]
  streamId : record.streamId = some request.streamId
  headers : record.headers = some fields
  snapshotStream : snapshot.streamId = some request.streamId
  snapshotHeaders : snapshot.headers = some fields
  completed : (ofFrames record.frames).completed = older ++ request :: newer
  decoded : hpack.rawFields older request = .ok fields
  trailers : record.trailers ≠ [] → ∃ between trailer later,
    newer = between ++ trailer :: later ∧ trailer.streamId = request.streamId ∧
      hpack.rawFields (older ++ request :: between) trailer = .ok record.trailers
  settled : record.firstFrame = false
  settings : record.initialSettings = snapshot.initialSettings
  extended : ∃ later, record.frames = snapshot.frames ++ later
  begun : ∃ frame ∈ snapshot.frames, frame.header.kind = some .headers

/-- What is on record is the first request as it stands on the wire. -/
structure RequestRecord.Faithful (hpack : Hpack δ) (record : RequestRecord) : Prop where
  headed : Headed record.frames
  request : record.Unserved ∨ ∃ snapshot older request newer fields,
    record.Serves hpack snapshot older request newer fields

/-- One more frame, and nothing else but perhaps the settings of the first one. -/
structure RequestRecord.Grows (frame : ParsedFrame) (before after : RequestRecord) : Prop where
  frames : after.frames = before.frames ++ [frame]
  streamId : after.streamId = before.streamId
  headers : after.headers = before.headers
  trailers : after.trailers = before.trailers
  accepted : after.accepted = before.accepted
  settled : before.firstFrame = false →
    after.firstFrame = false ∧ after.initialSettings = before.initialSettings
  kind : ∀ fields, frame.payload = .headers fields → frame.header.kind = some .headers

namespace RequestRecord

variable {hpack : Hpack δ} {frame : ParsedFrame} {before base after : RequestRecord}

/-- A further frame is read by its own type. -/
theorem Grows.headed (grows : Grows frame before after) (headed : Headed before.frames) :
    Headed after.frames := by
  intro member among
  rw [grows.frames] at among
  rcases List.mem_append.mp among with older | newest
  · exact headed member older
  · obtain rfl := List.mem_singleton.mp newest
    exact grows.kind

/-- A frame alone puts no request on record. -/
theorem Unserved.grown (unserved : before.Unserved) (grows : Grows frame before after) :
    after.Unserved := by
  refine ⟨?_, ?_, ?_, ?_⟩
  · rw [grows.streamId, unserved.streamId]
  · rw [grows.headers, unserved.headers]
  · rw [grows.trailers, unserved.trailers]
  · rw [grows.accepted, unserved.accepted]

/-- Further frames and blocks leave the request as it was. -/
theorem Serves.grown {snapshot : HTTP2Capture} {more : List OpenBlock} {fields : List Field}
    (serves : before.Serves hpack snapshot older request newer fields)
    (grows : Grows frame before after)
    (completed : (ofFrames after.frames).completed =
      (ofFrames before.frames).completed ++ more) :
    after.Serves hpack snapshot older request (newer ++ more) fields := by
  obtain ⟨settled, settings⟩ := grows.settled serves.settled
  obtain ⟨later, frames⟩ := serves.extended
  refine ⟨?_, ?_, ?_, serves.snapshotStream, serves.snapshotHeaders, ?_, serves.decoded, ?_, settled,
    settings.trans serves.settings, ⟨later ++ [frame], ?_⟩, serves.begun⟩
  · rw [grows.accepted, serves.accepted]
  · rw [grows.streamId, serves.streamId]
  · rw [grows.headers, serves.headers]
  · rw [completed, serves.completed]
    simp
  · rw [grows.trailers]
    intro present
    obtain ⟨between, trailer, rest, split, same, decoded⟩ := serves.trailers present
    exact ⟨between, trailer, rest ++ more, by rw [split]; simp, same, decoded⟩
  · rw [grows.frames, frames, List.append_assoc]

/-- A record stays faithful with one more frame. -/
theorem Faithful.grown (faithful : before.Faithful hpack) (grows : Grows frame before after) :
    after.Faithful hpack := by
  refine ⟨grows.headed faithful.headed, ?_⟩
  rcases faithful.request with unserved | ⟨snapshot, older, request, newer, fields, serves⟩
  · exact .inl (unserved.grown grows)
  · obtain ⟨more, completed⟩ :=
      completed_mono (ofFrames before.frames) frame
    rw [← ofFrames_snoc, ← grows.frames] at completed
    exact .inr ⟨snapshot, older, request, newer ++ more, fields, serves.grown grows completed⟩

section Completed

variable {complete : OpenBlock} {fields : List Field} (faithful : before.Faithful hpack)
  (grows : Grows frame before base)
  (gathered : gather (ofFrames before.frames).opened frame.header.streamId
    frame.payload = some (complete, true))
  (decoded : hpack.rawFields (ofFrames before.frames).completed complete = .ok fields)

include grows gathered in
/-- The frame completes one more block. -/
theorem Grows.completed : (ofFrames base.frames).completed =
    (ofFrames before.frames).completed ++ [complete] := by
  rw [grows.frames, ofFrames_snoc, completed_take gathered]

include faithful grows gathered decoded

/-- The first request is recorded with the fields of the block that the frame completes. -/
theorem Faithful.requested (settled : base.firstFrame = false) (unserved : before.streamId = none)
    (captures : Captures complete.streamId fields base after) : after.Faithful hpack := by
  have headed := grows.headed faithful.headed
  have completed := grows.completed gathered
  obtain ⟨snapshot, frames, settings, stream, headers, rfl⟩ := captures
  refine ⟨headed, ?_⟩
  rcases faithful.request with none | ⟨_, _, _, _, _, serves⟩
  · refine .inr ⟨snapshot, _, complete, [], fields, ?_, rfl, rfl, stream, headers, completed, decoded, ?_,
      settled, settings.symm, ⟨[], ?_⟩, ?_⟩
    · show base.accepted ++ [snapshot] = [snapshot]
      rw [grows.accepted, none.accepted, List.nil_append]
    · intro present
      exact absurd (grows.trailers.trans none.trailers) present
    · rw [frames, List.append_nil]
    · rw [frames]
      exact headed.begun (.inr (by simp [completed]))
  · rw [serves.streamId] at unserved
    cases unserved

/-- Trailers are recorded with the fields of the block that the frame completes. -/
theorem Faithful.trailed (served : before.streamId = some complete.streamId) :
    { base with trailers := fields }.Faithful hpack := by
  refine ⟨grows.headed faithful.headed, ?_⟩
  rcases faithful.request with none | ⟨snapshot, older, request, newer, captured, serves⟩
  · rw [none.streamId] at served
    cases served
  · have grown := serves.grown grows (grows.completed gathered)
    refine .inr ⟨snapshot, older, request, newer ++ [complete], captured, grown.accepted,
      grown.streamId, grown.headers, grown.snapshotStream, grown.snapshotHeaders, grown.completed,
      grown.decoded, fun _ => ⟨newer, complete, [], rfl, ?_, ?_⟩, grown.settled, grown.settings,
      grown.extended, grown.begun⟩
    · rw [serves.streamId] at served
      exact (Option.some.inj served).symm
    · rw [← serves.completed]
      exact decoded

end Completed

end RequestRecord

namespace HTTP2Session

open RequestRecord

variable {frame : ParsedFrame} {before after : HTTP2Session κ δ}

/-! ### Frames are recorded faithfully -/

/-- An unchanged record is as faithful as before. -/
theorem Unrecorded.faithful (same : Unrecorded before after)
    (faithful : before.record.Faithful packages.hpack) : after.record.Faithful packages.hpack := by
  rwa [show after.record = before.record from same]

section Captured

variable (captured : HTTP2FrameReader.Captured wire frame)

include captured

/-- What is captured as HEADERS has that type. -/
theorem headers_of_captured {fields : HeadersPayload} (decoded : frame.payload = .headers fields) :
    frame.header.kind = some .headers := by
  obtain ⟨-, encodes⟩ := encodes_of_captured captured (by rw [decoded]; rfl)
  rw [decoded] at encodes
  exact encodes.kind_of_headers

/-- A captured frame is on record. -/
theorem grows_capturing (state : HTTP2Session κ δ)
    (entries : Nat) : Grows frame state.record (capturing state frame entries).record :=
  ⟨rfl, rfl, rfl, rfl, rfl, fun settled => ⟨settled, rfl⟩, fun _ => headers_of_captured captured⟩

/-- The settings of the first frame are kept once and for all. -/
theorem grows_admitting (state : HTTP2Session κ δ) (entries : Nat) :
    Grows frame state.record (admitting (capturing state frame entries) frame wire).record := by
  refine ⟨rfl, rfl, rfl, rfl, rfl, ?_, fun _ => headers_of_captured captured⟩
  intro settled
  have seen : state.firstFrame = false := settled
  refine ⟨rfl, ?_⟩
  simp only [record, admitting, capturing, seen]

end Captured

/-- An event that gets other fields is still of its kind. -/
theorem isReport_withOriginalHeaders (original : Option (List Field)) (event : Event) :
    isReport (H2Adapter.withOriginalHeaders original event) = isReport event := by
  cases event <;> rfl

/-- Giving an event other fields does not change whether it carries some. -/
theorem reports_withOriginalHeaders (original : Option (List Field)) (events : List Event) :
    (events.map (H2Adapter.withOriginalHeaders original)).filter isReport =
      (events.filter isReport).map (H2Adapter.withOriginalHeaders original) := by
  rw [List.filter_map]
  congr 1
  apply List.filter_congr
  intro event _
  exact isReport_withOriginalHeaders original event

/-- The fields that the events get are those of the block, as decoded after all older ones. -/
theorem rawFields_of_decoded (gathers : Gathers packages block state) {complete : OpenBlock}
    (gathered : gather (block state.connection.core) frame.header.streamId frame.payload =
      some (complete, true)) {decoder : RequestDecoder δ}
    (decoded : Decoded packages.hpack
      (completes (block state.connection.core) frame.header.streamId frame.payload)
      state.connection.decoder decoder) :
    ∃ original, decoder.originalHeaders = some original ∧
      packages.hpack.rawFields (ofFrames state.capture.frames).completed complete =
        .ok original := by
  rw [completes, gathered] at decoded
  obtain ⟨fields, ran⟩ := decoded
  obtain ⟨original, inner, kept⟩ := decode_eq_ok ran
  refine ⟨original, kept, ?_⟩
  rw [Hpack.rawFields, ← gathers.decoder, inner]

/-- The events of a frame put on record what the block that it completes says. -/
theorem faithful_processEvents {before : RequestRecord} (faithful : before.Faithful packages.hpack)
    {begun : HTTP2Session κ δ} (grows : Grows frame before begun.record)
    (settled : begun.firstFrame = false) {reports : List Event} {opened : Option OpenBlock}
    {original : Option (List Field)}
    (relayed : Relayed frame.header.streamId frame.payload
      (ofFrames before.frames).opened reports opened)
    (raw : ∀ complete, gather (ofFrames before.frames).opened frame.header.streamId
      frame.payload = some (complete, true) → ∃ fields, original = some fields ∧
        packages.hpack.rawFields (ofFrames before.frames).completed complete = .ok fields)
    (reported : events.filter isReport = reports.map (H2Adapter.withOriginalHeaders original)) :
    (processEvents packages events begun).2.record.Faithful packages.hpack := by
  have unreported {after : HTTP2Session κ δ} (same : Unrecorded begun after) :
      after.record.Faithful packages.hpack := same.faithful (faithful.grown grows)
  cases relayed with
  | outside | fragment | ignored => exact unreported (unrecorded_processEvents reported begun)
  | @request complete headers ended gathered =>
    obtain ⟨fields, rfl, decoded⟩ := raw complete gathered
    rcases processEvents_reported packages reported begun with
      same | ⟨reached, same, later⟩
    · exact unreported same
    -- The request is the first one, or it leaves no trace.
    rcases processRequest_records packages complete.streamId (some fields) ended reached
      with ⟨unmarked, -⟩ | ⟨unserved, found, given, captures⟩
    · exact unreported (unrecorded.trans same (unrecorded.trans unmarked later))
    · obtain rfl := Option.some.inj given
      rw [show reached.record = begun.record from same] at captures
      rw [show (processEvents packages events begun).2.record = _ from later]
      refine faithful.requested grows gathered decoded settled ?_ captures
      rw [← grows.streamId, ← show reached.record = begun.record from same]
      exact unserved
  | @trailers complete headers gathered =>
    obtain ⟨fields, rfl, decoded⟩ := raw complete gathered
    rcases processEvents_reported packages reported begun with
      same | ⟨reached, same, later⟩
    · exact unreported same
    rcases processTrailers_records packages complete.streamId (some fields) reached
      with unmarked | ⟨served, found, given, marked⟩
    · exact unreported (unrecorded.trans same (unrecorded.trans unmarked later))
    · obtain rfl := Option.some.inj given
      rw [show (processEvents packages events begun).2.record = _ from later]
      rw [show reached.record = begun.record from same] at marked
      have final : (processEvent packages (.trailersReceived complete.streamId (some fields))
          reached).2.record = { begun.record with trailers := fields } := marked
      rw [show (processEvent packages (H2Adapter.withOriginalHeaders (some fields)
        (.trailersReceived complete.streamId headers)) reached).2.record = _ from final]
      refine faithful.trailed grows gathered decoded ?_
      rw [← grows.streamId, ← show reached.record = begun.record from same]
      exact served

section Relays

variable (relays : packages.h2.Relays block)

include relays

/-- A frame leaves the record faithful, whether it is processed to its end or not. -/
theorem faithful_processFrame (captured : HTTP2FrameReader.Captured wire frame) (entries : Nat)
    (gathers : Gathers packages block state) (faithful : state.record.Faithful packages.hpack) :
    (processFrame packages frame wire (capturing state frame entries)).2.record.Faithful
      packages.hpack := by
  generalize ended : (processFrame packages frame wire (capturing state frame entries)).2 = after
  have recording : Recording packages frame wire (capturing state frame entries) after := by
    rw [← ended]
    exact processFrame_records captured _
  -- Without a report there is one more frame, and nothing else.
  have grows := grows_admitting captured state entries
  have unreported (same : Unrecorded (admitting (capturing state frame entries) frame wire) after) :
      after.record.Faithful packages.hpack := same.faithful (faithful.grown grows)
  cases recording with
  | refused same => exact same.faithful (faithful.grown (grows_capturing captured state entries))
  | unreported same => exact unreported same
  | @delivered shown admitted reaches converted same =>
    obtain ⟨payload, stands⟩ := admitted.stands captured reaches converted
    have aligned : Aligned block (capturing state frame entries) := gathers.aligned
    have placed := aligned.placed admitted
    have placed' : Placed (block (admitting (capturing state frame entries)
      frame wire).connection.core) frame := placed
    rcases receiveWire_relays relays stands placed' with
      ⟨raised, failed, refused, sent⟩ | ⟨connection, events, relayed, decoded, processed⟩
    · rw [refused] at same
      exact unreported (unrecorded.trans sent.unrecorded same)
    · rw [processed] at same
      refine same.faithful ?_
      have opened : block (admitting (capturing state frame entries) frame wire).connection.core =
          (ofFrames state.capture.frames).opened := gathers.opened.symm
      rw [opened] at relayed
      -- Being shown the frame changes nothing that is recorded.
      have begun : Grows frame state.record ({ handing (admitting (capturing state frame entries)
          frame wire) [.wire shown] with connection } : HTTP2Session κ δ).record := grows
      refine faithful_processEvents faithful begun rfl relayed ?_
        (reports_withOriginalHeaders _ events)
      intro complete gathered
      apply rawFields_of_decoded gathers _ decoded
      rw [← gathers.opened]
      exact gathered

/-! ### Along a run -/

/-- What is recorded is faithful, and the blocks of the frames are those of the library. -/
def Recorded (packages : Packages κ δ) (block : κ → Option OpenBlock) (session : HTTP2Session κ δ) :
    Prop :=
  Gathers packages block session ∧ session.record.Faithful packages.hpack

omit relays in
/-- Only the blocks, the capture and the record matter. -/
theorem Recorded.kept (kept : KeepsBlock block before after)
    (capture : after.capture = before.capture) (record : after.record = before.record)
    (continuationStream : after.continuationStream = before.continuationStream)
    (recorded : Recorded packages block before) : Recorded packages block after := by
  refine ⟨recorded.1.kept kept capture continuationStream, ?_⟩
  rw [record]
  exact recorded.2

omit relays in
/-- Sending is not recorded. -/
theorem Recorded.flushed (ran : flush before = (.ok (), after)) :
    Recorded packages block before → Recorded packages block after := by
  obtain ⟨transport, shape⟩ := flush_shape before
  rw [ran] at shape
  obtain rfl : after = _ := shape
  exact Recorded.kept ⟨rfl, rfl⟩ rfl rfl rfl

/-- Nothing but frames makes a difference to what is recorded. -/
theorem framewise_recorded :
    Framewise packages (Recorded (δ := δ) packages block) where
  begins := Recorded.kept ⟨rfl, rfl⟩ rfl rfl rfl
  closes := Recorded.kept ⟨rfl, rfl⟩ rfl rfl rfl
  reads := Recorded.kept ⟨rfl, rfl⟩ rfl rfl rfl
  buffers _ _ _ := Recorded.kept ⟨rfl, rfl⟩ rfl rfl rfl
  flushes := Recorded.flushed
  exchanges outcall before after ran recorded := by
    obtain ⟨_, called, ran₁, ran₂⟩ := bind_eq_ok.mp ran
    have sent := (outbound_callH2 _).reached ran₁
    have stream : called.continuationStream = before.continuationStream :=
      sent.handling.continuationStream
    exact Recorded.flushed ran₂
      (recorded.kept (keepsBlock_callH2 relays outcall ran₁) sent.capture sent.unrecorded stream)
  prefaced {before after events} ran := by
    obtain ⟨raw, connection, called, -, rfl⟩ := receiveData_ok ran
    obtain ⟨greeted, decoder⟩ := H2Adapter.call_decodes packages.hpack
      (relays.prefaced before.connection.core) called
    exact Recorded.kept ⟨greeted raw rfl, decoder⟩ rfl rfl rfl
  processes {_ _ entries state after} captured ran recorded := by
    have faithful := faithful_processFrame relays captured entries recorded.1 recorded.2
    rw [ran] at faithful
    exact ⟨recorded.1.processed relays captured ran, faithful⟩

/-- A new session has nothing on record. -/
theorem recorded_create (transport : Transport) :
    Recorded (δ := δ) packages block (create packages transport) := by
  refine ⟨gathers_create relays transport, ?_, .inl ⟨rfl, rfl, rfl, rfl⟩⟩
  intro frame among
  cases among

/-- A chunk leaves a faithful record, also where it raises. -/
theorem faithful_receive (data : Bytes) (recorded : Recorded packages block state) :
    (receive packages data state).2.record.Faithful packages.hpack := by
  have framewise : Framewise packages (Recorded packages block) := framewise_recorded relays
  have sends {before after : HTTP2Session κ δ} (sent : Outbound before after)
      (faithful : before.record.Faithful packages.hpack) :
      after.record.Faithful packages.hpack := sent.unrecorded.faithful faithful
  have covers : (Exits.keeping (Recorded packages block) fun _ session =>
      session.record.Faithful packages.hpack).Covers (receive packages data) := by
    refine receive_keeping framewise.buffers (fun recorded => recorded.2) sends framewise.flushes
      (fun {wire _} framed fits before => ?_) data
    rcases receiveFrame_cases framed fits before with
      ⟨raised, reached, entries, refused, sent⟩ | ⟨frame, captured, processed⟩
    · -- The frame was not captured.
      exact .of_error refused fun recorded => sends sent recorded.2
    · have faithful := fun recorded : Recorded packages block before =>
        faithful_processFrame relays captured
          (reservedEntries (headerOf wire) (wire.drop frameHeaderSize)) recorded.1 recorded.2
      constructor
      · intro value after ran recorded
        have kept := faithful recorded
        rw [processed] at ran
        rw [ran] at kept
        exact ⟨recorded.1.processed relays captured ran, kept⟩
      · intro raised after ran recorded
        have kept := faithful recorded
        rwa [← processed, ran] at kept
  exact (covers state).ends (fun recorded => recorded.2) recorded

/-- The record is faithful for as long as the client is served. -/
theorem lifelong_faithful :
    Lifelong (δ := δ) packages fun session => session.record.Faithful packages.hpack where
  between held := (held.holds (recorded_create relays) (framewise_recorded relays)).2
  sends sent := sent.unrecorded.faithful
  reads faithful := faithful
  receives waiting := faithful_receive relays _
    (waiting.between.holds (recorded_create relays) (framewise_recorded relays))

end Relays

/-! ### The fingerprint -/

/-- From the first HEADERS frame on, frames make no difference to the fingerprint. -/
theorem akamaiLoop_append (begun : ∃ frame ∈ frames, frame.header.kind = some .headers)
    (later : List ParsedFrame) (windowUpdate : Text) (seen : Bool) (priorities : List Text) :
    akamaiLoop (frames ++ later) windowUpdate seen priorities =
      akamaiLoop frames windowUpdate seen priorities := by
  -- The induction is on the frames up to the first HEADERS frame.
  induction frames generalizing windowUpdate seen priorities with
  | nil =>
    obtain ⟨frame, among, -⟩ := begun
    cases among
  | cons frame rest ih =>
    rw [List.cons_append, akamaiLoop, akamaiLoop]
    by_cases heads : frame.header.kind = some .headers
    · rw [if_pos heads, if_pos heads]
    · rw [if_neg heads, if_neg heads]
      have others : ∃ frame ∈ rest, frame.header.kind = some .headers := by
        obtain ⟨member, among, kind⟩ := begun
        rcases List.mem_cons.mp among with rfl | among
        · exact absurd kind heads
        · exact ⟨member, among, kind⟩
      cases frame.payload <;> simp only [ih others]

/-- The fingerprint is that of the capture in which the request was accepted. -/
theorem fingerprint_frozen {record : RequestRecord} {hpack : Hpack δ}
    {capture snapshot : HTTP2Capture} {fields : List Field}
    (serves : record.Serves hpack snapshot older request newer fields)
    (frames : capture.frames = record.frames)
    (settings : capture.initialSettings = record.initialSettings)
    (headers : capture.headers = record.headers) (md5 : Text → Text) :
    buildAkamaiFingerprint md5 (some capture) = buildAkamaiFingerprint md5 (some snapshot) := by
  obtain ⟨later, extended⟩ := serves.extended
  have present : snapshot.frames ≠ [] := by
    obtain ⟨frame, among, -⟩ := serves.begun
    exact List.ne_nil_of_mem among
  have still : capture.frames ≠ [] := by
    rw [frames, extended]
    exact List.append_ne_nil_of_left_ne_nil present later
  have same : akamaiFingerprint capture = akamaiFingerprint snapshot := by
    simp only [akamaiFingerprint, frames, extended, akamaiLoop_append serves.begun, settings,
      serves.settings, headers, serves.headers, serves.snapshotHeaders]
  simp only [buildAkamaiFingerprint, if_neg present, if_neg still, same]

/--
Only the first request is captured, as decoded from its block, and its fingerprint is frozen.

Trailers are those of a later block on the same stream, if there are any.
-/
theorem firstRequest_frozen (relays : packages.h2.Relays block) (md5 : Text → Text) :
    (∀ state : HTTP2Session κ δ, Lifetime packages state →
      state.capture.streamId = none ∧ state.capture.headers = none ∧ state.capture.trailers = [] ∧
        state.history.accepted = [] ∨
      ∃ snapshot older request newer fields, state.history.accepted = [snapshot] ∧
        snapshot.streamId = some request.streamId ∧ snapshot.headers = some fields ∧
        state.capture.streamId = snapshot.streamId ∧ state.capture.headers = snapshot.headers ∧
        (ofFrames state.capture.frames).completed = older ++ request :: newer ∧
        packages.hpack.rawFields older request = .ok fields ∧
        (state.capture.trailers ≠ [] → ∃ between trailer later,
          newer = between ++ trailer :: later ∧ trailer.streamId = request.streamId ∧
            packages.hpack.rawFields (older ++ request :: between) trailer =
              .ok state.capture.trailers) ∧
        buildAkamaiFingerprint md5 (some state.capture) =
          buildAkamaiFingerprint md5 (some snapshot)) ∧
    (∀ (streamId : Nat) (headers : Option (List Field)) (ended : Bool)
      (before after : HTTP2Session κ δ) (outcome : Except Exn Unit),
      processEvent packages (.requestReceived streamId headers ended) before = (outcome, after) →
      (before.capture.streamId = none → outcome = .ok () →
        after.capture.streamId = some streamId ∧ after.capture.headers = headers) ∧
      (before.capture.streamId ≠ none → after.capture = before.capture)) := by
  constructor
  · intro state lifetime
    have faithful := lifetime.holds (lifelong_faithful relays)
    rcases faithful.request with unserved | ⟨snapshot, older, request, newer, fields, serves⟩
    · exact .inl ⟨unserved.streamId, unserved.headers, unserved.trailers, unserved.accepted⟩
    · exact .inr ⟨snapshot, older, request, newer, fields, serves.accepted, serves.snapshotStream,
        serves.snapshotHeaders, serves.streamId.trans serves.snapshotStream.symm,
        serves.headers.trans serves.snapshotHeaders.symm, serves.completed, serves.decoded,
        serves.trailers, fingerprint_frozen serves rfl rfl rfl md5⟩
  · intro streamId headers ended before after outcome ran
    refine ⟨fun unserved returned => ?_, fun served => processRequest_further served ran⟩
    subst returned
    obtain ⟨fields, rfl, snapshot, -, -, -, -, recorded⟩ := processRequest_first unserved ran
    exact ⟨congrArg RequestRecord.streamId recorded, congrArg RequestRecord.headers recorded⟩

/-- The fingerprint of an answered request is the one it had when it was accepted. -/
theorem firstRequest_frozen_responded :
    responded.capture.headers.isSome = true ∧
      ∃ snapshot, responded.history.accepted = [snapshot] ∧
        buildAkamaiFingerprint id (some responded.capture) =
          buildAkamaiFingerprint id (some snapshot) := by
  have answered : responded.capture.headers.isSome = true := by decide +kernel
  refine ⟨answered, ?_⟩
  rcases (firstRequest_frozen reference_streams.relays id).1 responded
    (.unraised run_responded.waiting.between) with
    ⟨-, missing, -, -⟩ | ⟨snapshot, -, -, -, -, accepted, -, -, -, -, -, -, -, frozen⟩
  · rw [missing] at answered
    cases answered
  · exact ⟨snapshot, accepted, frozen⟩

end HTTP2Session

end SolveTls
