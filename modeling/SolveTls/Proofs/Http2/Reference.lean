import SolveTls.Http2.Reference
import SolveTls.Proofs.Errors
import SolveTls.Proofs.Http2.FrameBuilding
import SolveTls.Proofs.Http2.LibraryCalls

/-! The small library keeps to every law that results about the session rest on. -/

namespace SolveTls.Reference

open H2 SettingsIdentifier FrameFlags List

variable {core : Core}
variable {before after : Core} {streamId : Nat} {call : H2Call Core Unit} {wire body : Bytes}
  {header : FrameHeader} {payload : Payload} {view : View} {events : List Event} {block : OpenBlock}

/-- What the client has sent and what we closed leave the list of opened streams alone. -/
@[simp] theorem opened_received (core : Core) (streamId : Nat) (endStream : Bool) :
    (core.received streamId endStream).opened = core.opened := by
  cases endStream <;> rfl

/-- What the client has sent closes no stream of ours. -/
@[simp] theorem closed_received (core : Core) (streamId : Nat) (endStream : Bool) :
    (core.received streamId endStream).closed = core.closed := by
  cases endStream <;> rfl

/-- It leaves an open block alone. -/
@[simp] theorem block_received (core : Core) (streamId : Nat) (endStream : Bool) :
    (core.received streamId endStream).block = core.block := by
  cases endStream <;> rfl

/-- It leaves the settings alone. -/
@[simp] theorem headerTableSize_received (core : Core) (streamId : Nat) (endStream : Bool) :
    (core.received streamId endStream).headerTableSize = core.headerTableSize := by
  cases endStream <;> rfl

/-- The ways in which received octets are answered, as far as queues and streams are concerned. -/
inductive Outcome (core : Core) : Except Exn (List Event) → Core → List WireFrame → Prop where
  | refused {after : Core} {message : String} {code lastStreamId : Nat}
    (faulty : IsFault code) :
    Outcome core (.error (.protocolError message code)) after [goawayFrame lastStreamId code]
  | kept {events : List Event} {after : Core} {queued : List WireFrame} (plain : Plain queued)
    (opened : after.opened = core.opened) (closed : core.closed ⊆ after.closed)
    (quiet : ∀ streamId headers ended, Event.requestReceived streamId headers ended ∉ events) :
    Outcome core (.ok events) after queued
  | opened {events : List Event} {after : Core} {streamId : Nat} {headers : Option (List Field)}
    {ended : Bool} (announced : Event.requestReceived streamId headers ended ∈ events)
    (above : core.highest < streamId) (opened : after.opened = core.opened ++ [streamId])
    (closed : after.closed = core.closed) (lone : Lone events) : Outcome core (.ok events) after []

/-- An empty queue is plain. -/
theorem plain_nil : Plain [] := by
  intro frame among
  cases among

/-- Nothing is queued, and no stream is opened or closed. -/
theorem Outcome.silent (opened : after.opened = core.opened) (closed : after.closed = core.closed)
    (quiet : ∀ streamId headers ended, Event.requestReceived streamId headers ended ∉ events) :
    Outcome core (.ok events) after [] :=
  .kept plain_nil opened (closed ▸ List.Subset.refl _) quiet

/-- A refusal queues one GOAWAY frame. -/
theorem ends_refuse (message : String) {code : ErrorCode} (faulty : IsFault code.code) :
    (refuse core message code : H2Call Core (List Event)).Ends (Outcome before) :=
  .refused faulty

/-- A request is reported with its end, or alone. -/
theorem lone_request (streamId : Nat) (headers : Option (List Field)) (ended : Bool) :
    Lone (.requestReceived streamId headers ended :: ending streamId ended) := by
  intro streamId' headers' among
  cases ended with
  | true => simp [ending] at among
  | false =>
    rw [mem_singleton.mp among]
    rfl

/-- SETTINGS are acknowledged or refused. -/
theorem ends_receiveSettings (core : Core) (body : Bytes) :
    (receiveSettings core body).Ends (Outcome core) := by
  unfold receiveSettings
  split
  · -- The acknowledgment is the only frame that is queued, whether or not a size is assigned.
    have plain : Plain [settingsAck] := by
      intro frame among
      rw [mem_singleton.mp among]
      decide
    cases Dict.last? (settingsEntries body) headerTableSize with
    | none => exact Outcome.kept plain rfl (List.Subset.refl _) (by simp)
    | some size => exact Outcome.kept plain rfl (List.Subset.refl _) (by simp)
  · exact ends_refuse _ (by decide)

/-- Content opens no stream. -/
theorem ends_receiveContent (core : Core) (streamId : Nat) (content : Bytes) (endStream : Bool)
    (length : Nat) : (receiveContent core streamId content endStream length).Ends (Outcome core) := by
  unfold receiveContent
  -- Only the phase of the stream decides.
  cases core.phase streamId with
  | receiving =>
    refine Outcome.silent (opened_received ..) (closed_received ..) ?_
    cases endStream <;> simp [ending]
  | finished => exact .silent rfl rfl (by simp)
  | idle => exact ends_refuse _ (by decide)

/-- Fields open a stream, end one, or are refused. -/
theorem ends_receiveFields (core : Core) (block : OpenBlock) (fields : List Field) :
    (receiveFields core block fields).Ends (Outcome core) := by
  unfold receiveFields
  cases core.phase block.streamId with
  | idle =>
    -- A request opens its stream above all others, or it is refused.
    by_cases next : block.streamId % 2 = 1 ∧ core.highest < block.streamId
    · simp only [if_pos next]
      refine Outcome.opened (mem_cons_self ..) next.2 ?_ ?_ ?_
      · exact opened_received _ _ _
      · exact closed_received _ _ _
      · exact lone_request _ _ _
    · simp only [if_neg next]
      exact ends_refuse _ (by decide)
  | receiving =>
    by_cases ended : block.endStream = true
    · simp only [if_pos ended]
      exact Outcome.silent rfl rfl (by simp)
    · simp only [if_neg ended]
      exact ends_refuse _ (by decide)
  | finished => exact .silent rfl rfl (by simp)

/-- A block is decoded only when it is complete. -/
theorem ends_receiveBlock (core : Core) (block : OpenBlock) (complete : Bool) :
    (receiveBlock core block complete).Ends (Outcome core) := by
  cases complete with
  | true =>
    intro decoded
    cases decoded with
    | error raised => exact ends_refuse _ (by decide)
    | ok fields =>
      -- Forgetting the open block changes nothing that the outcome looks at.
      have ends := ends_receiveFields { core with block := none } block fields
      refine ends.mono fun result after queued outcome => ?_
      cases outcome with
      | refused faulty => exact .refused faulty
      | kept plain opened closed quiet => exact .kept plain opened closed quiet
      | opened announced above opened closed lone =>
        exact .opened announced above opened closed lone
  | false => exact Outcome.silent rfl rfl (by simp)

/-- Every type of frame is answered in one of the ways. -/
theorem ends_receiveKind (core : Core) (header : FrameHeader) (body : Bytes)
    (kind : Option FrameType) : (receiveKind core header body kind).Ends (Outcome core) := by
  -- Each type of frame has its own branch; those without one are answered with nothing.
  cases kind with
  | none => exact Outcome.silent rfl rfl (by simp)
  | some type =>
    cases type with
    | settings =>
      simp only [receiveKind]
      split
      · exact Outcome.silent rfl rfl (by simp)
      · exact ends_receiveSettings core body
    | data =>
      simp only [receiveKind]
      cases unpad header body with
      | none => exact ends_refuse _ (by decide)
      | some content => exact ends_receiveContent ..
    | headers =>
      simp only [receiveKind]
      split
      · exact ends_refuse _ (by decide)
      · cases unpad header body with
        | none => exact ends_refuse _ (by decide)
        | some fragment => exact ends_receiveBlock ..
    | continuation =>
      simp only [receiveKind]
      cases core.block with
      | none => exact ends_refuse _ (by decide)
      | some opened => exact ends_receiveBlock ..
    | rstStream =>
      simp only [receiveKind]
      split
      · exact Outcome.kept plain_nil rfl (subset_cons_self _ _) (by simp)
      · exact Outcome.silent rfl rfl (by simp)
    | ping =>
      simp only [receiveKind]
      split
      · exact Outcome.silent rfl rfl (by simp)
      · -- A PING is answered with a PING.
        refine Outcome.kept ?_ rfl (List.Subset.refl _) (by simp)
        intro frame among
        rw [mem_singleton.mp among]
        exact ⟨rfl, rfl⟩
    | _ => exact Outcome.silent rfl rfl (by simp)

/-- Every call with received octets ends in one of the ways. -/
theorem ends_receiveData (core : Core) (wire : Bytes) :
    (Reference.receiveData core wire).Ends (Outcome core) := by
  unfold Reference.receiveData
  split
  · exact Outcome.silent rfl rfl (by simp)
  · exact ends_receiveKind ..

/-! ### Queues and inbound streams -/

/-- A call on a stream ends as the call does, or is refused without queueing anything. -/
theorem ends_onStream {holds : Except Exn Unit → Core → List WireFrame → Prop}
    (ends : streamId ∈ core.opened → call.Ends holds)
    (closed : ∀ message code, IsFault code → holds (.error (.protocolError message code)) core []) :
    (onStream core streamId call).Ends holds := by
  unfold onStream
  split
  · rename_i opened
    exact ends opened.1
  · exact closed _ _ (by decide)

/-- Its queues are those of the law. -/
theorem reference_queues : Queues referenceH2 where
  initiates core frame among := by
    rw [mem_singleton.mp among]
    exact ⟨rfl, rfl⟩
  receives core wire := by
    refine (ends_receiveData core wire).mono fun result after queued outcome => ?_
    cases outcome with
    | refused faulty => exact .inr ⟨_, _, [], _, rfl, faulty.1, plain_nil, rfl⟩
    | kept plain opened closed => exact .inl ⟨plain, fun _ _ same => by cases same⟩
    | opened announced above opened closed =>
      exact .inl ⟨plain_nil, fun _ _ same => by cases same⟩
  closes core errorCode lastStreamId := ⟨rfl, _, rfl⟩
  headers core streamId fields endStream := by
    refine ends_onStream (fun _ block => .inl ⟨rfl, _, [], rfl, rfl, rfl, ?_, ?_⟩)
      (fun _ _ _ => .inr ⟨⟨_, rfl⟩, rfl⟩)
    · -- The flag is one of two bits, which makes two cases to compute.
      cases endStream <;> simp [endsStream, endHeaders, endStream]
    · intro frame among
      cases among
  data core streamId content endStream :=
    ends_onStream (fun _ => .inl ⟨rfl, rfl⟩) (fun _ _ _ => .inr ⟨⟨_, rfl⟩, rfl⟩)
  resets core streamId errorCode := by
    refine ends_onStream (fun _ frame among => ?_) (fun _ _ _ => plain_nil)
    rw [mem_singleton.mp among]
    exact ⟨rfl, rfl⟩
  acknowledges core length streamId := plain_nil

/-- Its errors are faults of the peer. -/
theorem reference_complains : Complains referenceH2 where
  calls outcall core := by
    -- Only calls on a stream are ever refused.
    have refused : ∀ {α : Type} (message : String) (code : Nat), IsFault code →
        ∀ message' code', (.error (.protocolError message code) : Except Exn α) =
          .error (.protocolError message' code') → IsFault code' := by
      intro α message code fault message' code' same
      rw [← (Exn.protocolError.inj (Except.error.inj same)).2]
      exact fault
    cases outcall with
    | initiate => exact fun _ _ same => by cases same
    | goaway errorCode lastStreamId => exact fun _ _ same => by cases same
    | headers streamId fields endStream =>
      exact ends_onStream (fun _ _ _ _ same => by cases same) refused
    | data streamId content endStream =>
      exact ends_onStream (fun _ _ _ same => by cases same) refused
    | reset streamId errorCode => exact ends_onStream (fun _ _ _ same => by cases same) refused
    | acknowledge length streamId => exact fun _ _ same => by cases same
  windows core streamId message code failed := by cases failed
  receives core wire := by
    refine (ends_receiveData core wire).mono fun result after queued outcome message code failed => ?_
    cases outcome with
    | refused faulty =>
      rw [← (Exn.protocolError.inj (Except.error.inj failed)).2]
      exact faulty
    | kept => cases failed
    | opened => cases failed
  requests core wire _ := by
    refine (ends_receiveData core wire).mono fun result after queued outcome events returned => ?_
    cases outcome with
    | refused faulty => cases returned
    | kept plain opened closed quiet =>
      obtain rfl := Except.ok.inj returned
      exact fun streamId headers among => absurd among (quiet streamId headers false)
    | opened announced above opened closed lone =>
      obtain rfl := Except.ok.inj returned
      exact lone

/-- The streams that are closed, as an observation. -/
def isClosed (core : Core) (streamId : Nat) : Bool := streamId ∈ core.closed

/-- Streams stay open or are closed. -/
theorem holds_of_subset (opened : after.opened = before.opened)
    (closed : before.closed ⊆ after.closed) :
    Holds referenceH2 Core.opened isClosed before after where
  opened := opened
  closed streamId shut := by
    -- A closed stream is in the longer list as well.
    rw [isClosed, decide_eq_true_eq] at shut ⊢
    exact closed shut
  limit := rfl

/-- Streams that are listed as before are held as before. -/
theorem holds_alike (opened : after.opened = before.opened) (closed : after.closed = before.closed) :
    Holds referenceH2 Core.opened isClosed before after :=
  holds_of_subset opened (closed ▸ List.Subset.refl _)

/-- Sending closes a stream at most. -/
theorem closed_sent (core : Core) (streamId : Nat) (endStream : Bool) :
    core.closed ⊆ (core.sent streamId endStream).closed := by
  unfold Core.sent
  split
  · exact subset_cons_self _ _
  · exact List.Subset.refl _

/-- Sending opens no stream. -/
theorem opened_sent (core : Core) (streamId : Nat) (endStream : Bool) :
    (core.sent streamId endStream).opened = core.opened := by
  unfold Core.sent
  split <;> rfl

/-- Its streams are counted as the law says. -/
theorem reference_inbound : Inbound referenceH2 Core.opened isClosed where
  initial := rfl
  highest core := rfl
  counts core := by
    show core.opened.countP _ = core.opened.countP _
    refine countP_congr fun streamId _ => ?_
    simp [isClosed]
  forgets core := holds_alike rfl rfl
  known core streamId found := by
    -- The stream is looked up among the opened ones.
    simp only [referenceH2] at found
    split at found
    · rename_i opened
      exact ⟨opened, Option.some.inj found⟩
    · cases found
  calls outcall core := by
    cases outcall with
    | initiate => exact fun _ => holds_alike rfl rfl
    | goaway errorCode lastStreamId => exact fun _ => holds_alike rfl rfl
    | headers streamId fields endStream =>
      refine ends_onStream (fun _ block _ => ?_) (fun _ _ _ returned => by cases returned)
      exact holds_of_subset (opened_sent ..) (closed_sent ..)
    | data streamId content endStream =>
      refine ends_onStream (fun _ _ => ?_) (fun _ _ _ returned => by cases returned)
      exact holds_of_subset (opened_sent ..) (closed_sent ..)
    | reset streamId errorCode =>
      refine ends_onStream (fun _ _ => ?_) (fun _ _ _ returned => by cases returned)
      exact holds_of_subset rfl (subset_cons_self _ _)
    | acknowledge length streamId => exact fun _ => holds_alike rfl rfl
  resets core streamId errorCode := by
    refine ends_onStream (fun _ _ => ?_) (fun _ _ _ returned => by cases returned)
    simp [isClosed, Core.shut]
  settles core wire quiet := by
    show (Reference.receiveData core wire).Ends _
    unfold Reference.receiveData
    split
    · exact fun _ => holds_alike rfl rfl
    · -- What is not the preface is SETTINGS, which change the settings at most.
      rename_i other
      rw [(quiet.resolve_left other).2]
      simp only [receiveKind, receiveSettings]
      split
      · exact fun _ => holds_alike rfl rfl
      · split
        · cases Dict.last? (settingsEntries (wire.drop frameHeaderSize))
            headerTableSize <;>
          exact fun _ => holds_alike rfl rfl
        · intro returned
          obtain ⟨events, same⟩ := returned
          cases same
  receives core wire _ := by
    refine (ends_receiveData core wire).mono fun result after queued outcome events returned => ?_
    cases outcome with
    | refused faulty => cases returned
    | kept plain opened closed => exact .inl (holds_of_subset opened closed)
    | opened announced above opened closed =>
      obtain rfl := Except.ok.inj returned
      refine .inr ⟨_, _, _, announced, above, opened, fun other shut => ?_, rfl⟩
      rw [isClosed, closed]
      exact shut

/-! ### Settings -/

/-- The settings of the client, as an observation. -/
def remoteSetting (core : Core) (identifier : Nat) : Option Nat :=
  if identifier = headerTableSize then some core.headerTableSize
  else core.remote.get? identifier

/-- A frame of a known type is not the preface. -/
theorem ne_http2Preface (known : (headerOf wire).kind ≠ none) :
    wire ≠ http2Preface := by
  -- Read as a frame, the preface is of no known type.
  rintro rfl
  exact known (by decide)

/-- A SETTINGS frame is applied if all its items are in range, and refused otherwise. -/
theorem receiveData_settings (core : Core) {items : Dict Nat Nat}
    (built : HTTP2FrameBuilder.buildSettingsFrame items false = .ok wire) :
    Reference.receiveData core wire =
      if items.all fun item => SettingInRange item then
        assigning (Dict.last? items headerTableSize)
          (.done (.ok [.other]) (core.settled items) [settingsAck])
      else refuse core "Invalid setting" .protocolError := by
  obtain ⟨wired, -, fit⟩ := buildSettingsFrame_ok built
  have header : headerOf wire = _ := (congrArg headerOf wired).trans (headerOf_frameBytes ..)
  have kind : (headerOf wire).kind = some .settings := by
    rw [header]
    rfl
  have unflagged : (headerOf wire).has ack = false := by
    simp [header, FrameHeader.has]
  -- The frame is no acknowledgment, and its body is read back.
  have body : wire.drop frameHeaderSize = HTTP2FrameBuilder.settingsBytes items := by
    rw [wired, drop_frameBytes]
  rw [Reference.receiveData, if_neg (ne_http2Preface (by rw [kind]; simp)), kind]
  simp only [receiveKind, unflagged, Bool.false_eq_true, if_false, receiveSettings, body,
    settingsEntries_settingsBytes fit]

/-- Its settings are answered as the law says. -/
theorem reference_settles : Settles referenceH2 remoteSetting where
  tableSize core := rfl
  receives core items wire distinct _ built := by
    have received := receiveData_settings core built
    by_cases sound : (items.all fun item => SettingInRange item) = true
    · -- All items are in range, so they are applied and acknowledged.
      rw [if_pos sound, ← Dict.get?_eq_last? distinct] at received
      refine .inl ⟨_, _, received, fun identifier => ?_⟩
      unfold remoteSetting
      split
      · rename_i same
        rw [same, Dict.get?_eq_last? distinct]
        simp only [Core.settled]
        cases Dict.last? items headerTableSize <;> rfl
      · rw [Dict.get?_eq_last? distinct]
        exact Dict.get?_update ..
    · rw [if_neg sound] at received
      refine .inr ?_
      show (Reference.receiveData core wire).Ends _
      rw [received]
      refine ⟨⟨_, _, rfl⟩, ⟨_, mem_singleton_self _, rfl⟩, fun frame among => ?_⟩
      rw [mem_singleton.mp among]
      rfl
  prefaced core := by
    show (Reference.receiveData core http2Preface).Ends _
    rw [Reference.receiveData, if_pos rfl]
    exact fun _ => rfl
  closes core errorCode lastStreamId := by
    refine ⟨rfl, fun frame among => ?_⟩
    rw [mem_singleton.mp among]
    rfl

/-- Each item is looked at on its own, whatever the connection has seen before. -/
theorem reference_itemwise : Itemwise referenceH2 fun _ item => ¬ SettingInRange item where
  accepts core items wire _ distinct _ built := by
    have received := receiveData_settings core built
    by_cases sound : (items.all fun item => SettingInRange item) = true
    · rw [if_pos sound, ← Dict.get?_eq_last? distinct] at received
      refine ⟨fun _ item among => ?_, fun _ => ⟨_, _, _, received⟩⟩
      exact not_not.mpr (of_decide_eq_true (all_eq_true.mp sound item among))
    · -- One item out of range is enough for the frame to be refused.
      rw [if_neg sound] at received
      constructor
      · rintro ⟨events, after, queued, accepted⟩
        have same := received.symm.trans accepted
        generalize items.get? headerTableSize = size at same
        cases size <;> cases same
      · intro fine
        refine absurd (all_eq_true.mpr fun item among => ?_) sound
        exact decide_eq_true (not_not.mp (fine item among))
  others _ _ _ _ _ _ _ _ _ _ _ _ _ := Iff.rfl

/-- It accepts the preface once, and can always be closed. -/
theorem reference_greets : Greets referenceH2 where
  greeting := ⟨_, _, _, rfl, rfl⟩
  closing _ _ _ _ _ := ⟨_, _, rfl⟩

/-! ### Errors of HTTP/1.1 -/

/-- A block that cannot be decoded is an error of the codec. -/
theorem raisesOnly_fieldsOf (turns : Nat) (block : Bytes) :
    RaisesOnly Exn.isModern (fieldsOf turns block) := by
  -- The induction follows the fields; the first that is not known ends it.
  fun_induction fieldsOf turns block
  all_goals first
    | exact raisesOnly_ok _
    | exact raisesOnly_error rfl
    | exact raisesOnly_map (by assumption)

/-- It raises no error of HTTP/1.1. -/
theorem reference_modern : referencePackages.Modern where
  calls outcall core := by
    apply H2Call.Ends.modern
    cases outcall with
    | initiate => exact raisesOnly_ok ()
    | goaway errorCode lastStreamId => exact raisesOnly_ok ()
    | headers streamId fields endStream =>
      exact ends_onStream (fun _ _ => raisesOnly_ok ()) fun _ _ _ => raisesOnly_error rfl
    | data streamId content endStream =>
      exact ends_onStream (fun _ => raisesOnly_ok ()) fun _ _ _ => raisesOnly_error rfl
    | reset streamId errorCode =>
      exact ends_onStream (fun _ => raisesOnly_ok ()) fun _ _ _ => raisesOnly_error rfl
    | acknowledge length streamId => exact raisesOnly_ok ()
  receives core wire := by
    refine ((ends_receiveData core wire).mono fun result after queued outcome => ?_).modern
    cases outcome with
    | refused faulty => exact raisesOnly_error rfl
    | kept | opened => exact raisesOnly_ok _
  windows core streamId := raisesOnly_ok _
  decodes decoder block := raisesOnly_fieldsOf _ block
  validates isTrailer fields := raisesOnly_ok ()

/-! ### Table sizes -/

/-- A block assigns no table size. -/
theorem unresized_receiveBlock (core : Core) (block : OpenBlock) (complete : Bool) :
    (receiveBlock core block complete).Unresized fun after =>
      after.headerTableSize = core.headerTableSize := by
  cases complete with
  | false => exact rfl
  | true =>
    intro decoded
    cases decoded with
    | error raised => exact rfl
    | ok fields =>
      simp only [receiveFields]
      -- Whatever becomes of the stream, the settings stay as they are.
      cases Core.phase { core with block := none } block.streamId with
      | idle =>
        dsimp only
        split
        · exact headerTableSize_received _ _ _
        · exact rfl
      | receiving =>
        dsimp only
        split <;> exact rfl
      | finished => exact rfl

/-- Only a SETTINGS frame can assign a table size. -/
theorem unresized_receiveKind (core : Core) (header : FrameHeader) (body : Bytes)
    {kind : Option FrameType} (unasked : kind ≠ some .settings ∨ header.has ack = true) :
    (receiveKind core header body kind).Unresized fun after =>
      after.headerTableSize = core.headerTableSize := by
  cases kind with
  | none => exact rfl
  | some type =>
    cases type with
    | settings =>
      -- Only an acknowledgment is left of the SETTINGS frames.
      rcases unasked with other | flagged
      · exact absurd rfl other
      · simp only [receiveKind, flagged, if_true]
        exact rfl
    | data =>
      simp only [receiveKind]
      cases unpad header body with
      | none => exact rfl
      | some content =>
        simp only [receiveContent]
        cases core.phase header.streamId with
        | receiving => exact headerTableSize_received _ _ _
        | finished => exact rfl
        | idle => exact rfl
    | headers =>
      simp only [receiveKind]
      split
      · exact rfl
      · cases unpad header body with
        | none => exact rfl
        | some fragment => exact unresized_receiveBlock ..
    | continuation =>
      simp only [receiveKind]
      cases core.block with
      | none => exact rfl
      | some opened => exact unresized_receiveBlock ..
    | rstStream =>
      simp only [receiveKind]
      split <;> exact rfl
    | ping =>
      simp only [receiveKind]
      split <;> exact rfl
    | _ => exact rfl

/-- A call on a stream assigns what the call assigns. -/
theorem unresized_onStream {holds : Core → Prop} (unresized : call.Unresized holds)
    (kept : holds core) :
    (onStream core streamId call).Unresized holds := by
  unfold onStream
  split
  · exact unresized
  · exact kept

/-- Sending leaves the settings alone. -/
theorem headerTableSize_sent (core : Core) (streamId : Nat) (endStream : Bool) :
    (core.sent streamId endStream).headerTableSize = core.headerTableSize := by
  unfold Core.sent
  split <;> rfl

/-- It assigns table sizes as the law says. -/
theorem reference_announces : Announces referenceH2 where
  initial := rfl
  opens core := rfl
  calls outcall core := by
    cases outcall with
    | initiate => exact rfl
    | goaway errorCode lastStreamId => exact rfl
    | headers streamId fields endStream =>
      exact unresized_onStream (fun block => headerTableSize_sent ..) rfl
    | data streamId content endStream => exact unresized_onStream (headerTableSize_sent ..) rfl
    | reset streamId errorCode => exact unresized_onStream rfl rfl
    | acknowledge length streamId => exact rfl
  receives core wire unasked := by
    show (Reference.receiveData core wire).Unresized fun after =>
      after.headerTableSize = core.headerTableSize
    unfold Reference.receiveData
    split
    · exact rfl
    · rename_i other
      exact unresized_receiveKind _ _ _ (unasked.resolve_left other).2

/-! ### Streams -/

/-- What the library knows of its streams, as an observation. -/
def viewOf (core : Core) : View where
  phase := core.phase
  block := core.block

/-- Padding is taken off as it was put on. -/
theorem unpad_of_padded {content : Bytes} (framed : Padded header body content) :
    unpad header body = some content := by
  cases framed with
  | plain unflagged => simp [unpad, unflagged]
  | wrapped flagged exact =>
    -- The padding is as long as its length octet says.
    simp [unpad, flagged, ← exact]

/-- A part that may be the last one moves its stream, if it is open, and no other. -/
theorem phase_received (open' : core.phase streamId = .receiving) (endStream : Bool) :
    (core.received streamId endStream).phase =
      Function.update core.phase streamId (phaseAfter endStream) := by
  -- An open stream is among the opened ones and not among the finished ones.
  have known : streamId ∈ core.opened := by
    by_contra unknown
    simp [Core.phase, unknown] at open'
  funext other
  by_cases same : other = streamId
  · subst same
    rw [Function.update_self]
    cases endStream with
    | false => exact open'
    | true => simp [Core.received, Core.phase, known, phaseAfter]
  · rw [Function.update_of_ne same]
    cases endStream with
    | false => rfl
    | true => simp [Core.received, Core.phase, same]

/-- A request moves its stream from idle. -/
theorem phase_opening (core : Core) (streamId : Nat) (endStream : Bool) :
    ((core.opening streamId).received streamId endStream).phase =
      Function.update core.phase streamId (phaseAfter endStream) := by
  have receiving : (core.opening streamId).phase streamId = .receiving := by
    simp [Core.phase, Core.opening]
  rw [phase_received receiving]
  -- Opening the stream concerns no other one.
  funext other
  by_cases same : other = streamId
  · rw [same, Function.update_self, Function.update_self]
  · rw [Function.update_of_ne same, Function.update_of_ne same]
    simp [Core.phase, Core.opening, same]

/-- A reset finishes its stream and no other. -/
theorem settles_shut (known : streamId ∈ core.opened) :
    (viewOf core).Settles (viewOf (core.shut streamId)) := by
  refine ⟨rfl, fun other => ?_⟩
  by_cases same : other = streamId
  · -- The stream itself is finished now, whether or not it was before.
    subst same
    by_cases finished : other ∈ core.finished
    · exact .inl (by simp [viewOf, Core.phase, Core.shut, known, finished])
    · exact .inr ⟨by simp [viewOf, Core.phase, known, finished],
        by simp [viewOf, Core.phase, Core.shut, known]⟩
  · exact .inl (by simp [viewOf, Core.phase, Core.shut, same])

/-- Sending does not change what the client may send. -/
theorem viewOf_sent (core : Core) (streamId : Nat) (endStream : Bool) :
    viewOf (core.sent streamId endStream) = viewOf core := by
  unfold Core.sent
  split <;> rfl

/-- A call on a stream decodes what the call decodes. -/
theorem decodes_onStream {holds : Except Exn Unit → Core → Prop}
    (decodes : streamId ∈ core.opened → call.Decodes holds none)
    (refused : ∀ raised, holds (.error raised) core) :
    (onStream core streamId call).Decodes holds none := by
  unfold onStream
  split
  · rename_i opened
    exact decodes opened.1
  · exact ⟨refused _, fun _ => rfl⟩

/-- A refusal decodes nothing. -/
theorem decodes_refuse {expected : Option Bytes} {holds : Except Exn (List Event) → Core → Prop}
    (message : String) (code : ErrorCode) (refused : ∀ raised, holds (.error raised) core) :
    (refuse core message code : H2Call Core (List Event)).Decodes holds expected := by
  -- A call that raises owes no decoding.
  have ends : holds (.error (.protocolError message code.code)) core ∧
      ((∃ value : List Event, (.error (.protocolError message code.code) : Except Exn _) = .ok value) →
        expected = none) := by
    refine ⟨refused _, fun returned => ?_⟩
    obtain ⟨value, same⟩ := returned
    cases same
  cases expected <;> exact ends

/-- The reaction to a frame, in the form of the law. -/
def Reacting (streamId : Nat) (payload : Payload) (view : View)
    (result : Except Exn (List Event)) (after : Core) : Prop :=
  ∀ events, result = .ok events →
    Reacts streamId payload view (events.filter isContent) (viewOf after)

/-- An error owes no reaction. -/
theorem reacting_error (after : Core) (raised : Exn) :
    Reacting streamId payload view (.error raised) after := by
  intro events returned
  cases returned

/-- What is returned is the reaction. -/
theorem reacting_ok
    (reacts : Reacts streamId payload view (events.filter isContent) (viewOf after)) :
    Reacting streamId payload view (.ok events) after := by
  intro others returned
  obtain rfl := Except.ok.inj returned
  exact reacts

/-- The end of a stream is content. -/
theorem filter_ending (streamId : Nat) (endStream : Bool) :
    (ending streamId endStream).filter isContent = ending streamId endStream := by
  cases endStream <;> rfl

/-- Content decodes nothing. -/
theorem decodes_receiveContent {length : Nat} {content : DataPayload} :
    (receiveContent core streamId content.data content.endStream length).Decodes
      (Reacting streamId (.data content) (viewOf core)) none := by
  unfold receiveContent
  cases phase : core.phase streamId with
  | idle => exact decodes_refuse _ _ (reacting_error _)
  | finished =>
    refine ⟨reacting_ok ?_, fun _ => rfl⟩
    exact .discarded rfl phase
  | receiving =>
    refine ⟨reacting_ok ?_, fun _ => rfl⟩
    -- The content comes first, and the end of the stream behind it.
    rw [filter_cons_of_pos rfl, filter_ending]
    have moved : viewOf (core.received streamId content.endStream) =
        (viewOf core).enter streamId (phaseAfter content.endStream) := by
      simp only [viewOf, View.enter, phase_received phase, block_received]
    rw [moved]
    exact .data rfl phase

/-- Decoded fields are a request or trailers. -/
theorem decodes_receiveFields {fields : List Field}
    (gathered : gather core.block streamId payload = some (block, true)) :
    (receiveFields { core with block := none } block fields).Decodes
      (Reacting streamId payload (viewOf core)) none := by
  unfold receiveFields
  cases phase : Core.phase { core with block := none } block.streamId with
  | idle =>
    dsimp only
    split
    · refine ⟨reacting_ok ?_, fun _ => rfl⟩
      rw [filter_cons_of_pos rfl, filter_ending]
      have moved : viewOf ((Core.opening { core with block := none } block.streamId).received
            block.streamId block.endStream) =
          { (viewOf core).enter block.streamId (phaseAfter block.endStream) with block := none } := by
        simp only [viewOf, View.enter, phase_opening, block_received]
        rfl
      rw [moved]
      exact .request gathered phase
    · exact decodes_refuse _ _ (reacting_error _)
  | receiving =>
    dsimp only
    split
    · rename_i ended
      refine ⟨reacting_ok ?_, fun _ => rfl⟩
      have moved : viewOf (Core.received { core with block := none } block.streamId true) =
          { (viewOf core).enter block.streamId .finished with block := none } := by
        simp only [viewOf, View.enter, phase_received phase, block_received]
        rfl
      rw [moved]
      exact .trailers gathered phase ended
    · exact decodes_refuse _ _ (reacting_error _)
  | finished =>
    refine ⟨reacting_ok ?_, fun _ => rfl⟩
    exact .ignored gathered phase

/-- A block is decoded when it is complete, and not before. -/
theorem decodes_receiveBlock {complete : Bool}
    (gathered : gather core.block streamId payload = some (block, complete)) :
    (receiveBlock core block complete).Decodes (Reacting streamId payload (viewOf core))
      (completes core.block streamId payload) := by
  unfold receiveBlock completes
  rw [gathered]
  cases complete with
  | false =>
    refine ⟨reacting_ok ?_, fun _ => rfl⟩
    exact .fragment gathered
  | true =>
    refine ⟨rfl, fun fields => decodes_receiveFields gathered, fun raised => ?_⟩
    exact ⟨_, rfl⟩

/-- A frame that is answered without content. -/
theorem decodes_aside (aside : isAside payload = true) {queued : List WireFrame}
    (silent : events.filter isContent = []) (settles : (viewOf core).Settles (viewOf after)) :
    (.done (.ok events) after queued : H2Call Core (List Event)).Decodes
      (Reacting streamId payload (viewOf core)) (completes core.block streamId payload) := by
  rw [completes_aside aside]
  refine ⟨reacting_ok ?_, fun _ => rfl⟩
  rw [silent]
  exact reacts_aside aside settles

/-- Octets that stand for a payload draw the reaction to it. -/
theorem decodes_receiveKind (encodes : Encodes header body payload) :
    (receiveKind core header body header.kind).Decodes
      (Reacting header.streamId payload (viewOf core))
      (completes core.block header.streamId payload) := by
  have same : (viewOf core).Settles (viewOf core) := ⟨rfl, fun _ => .inl rfl⟩
  -- One case per layout; the parts of a request come first.
  cases encodes with
  | data kind framed =>
    rw [kind]
    simp only [receiveKind, unpad_of_padded framed]
    exact decodes_receiveContent
  | headers kind unprioritized framed =>
    rw [kind]
    simp only [receiveKind, unprioritized, Bool.false_eq_true, if_false, unpad_of_padded framed]
    exact decodes_receiveBlock rfl
  | prioritizedHeaders kind prioritized width framed =>
    rw [kind]
    simp only [receiveKind, prioritized, if_true]
    exact decodes_refuse _ _ (reacting_error _)
  | continuation kind =>
    rw [kind]
    simp only [receiveKind]
    cases opened : core.block with
    | none => exact decodes_refuse _ _ (reacting_error _)
    | some block =>
      have gathered : gather core.block header.streamId (.continuation
          { headerBlock := body, endHeaders := header.has endHeaders }) =
            some ({ block with fragment := block.fragment ++ body },
              header.has endHeaders) := by
        rw [opened]
        rfl
      have decodes := decodes_receiveBlock gathered
      rw [opened] at decodes
      exact decodes
  | rstStream kind =>
    rw [kind]
    simp only [receiveKind]
    split
    · rename_i known
      exact decodes_aside rfl rfl (settles_shut known)
    · exact decodes_aside rfl rfl same
  | settingsAck kind flagged =>
    rw [kind]
    simp only [receiveKind, flagged, if_true]
    exact decodes_aside rfl rfl same
  | settings kind unflagged ranges =>
    rw [kind]
    simp only [receiveKind, unflagged, Bool.false_eq_true, if_false, receiveSettings]
    split
    · -- Assigning a table size decodes nothing.
      cases Dict.last? (settingsEntries _) headerTableSize with
      | none => exact decodes_aside rfl rfl same
      | some size =>
        show H2Call.Decodes _ _ (.done (.ok [Event.other]) _ [settingsAck])
        exact decodes_aside rfl rfl same
    · exact decodes_refuse _ _ (reacting_error _)
  | ping kind =>
    rw [kind]
    simp only [receiveKind]
    split <;> exact decodes_aside rfl rfl same
  | priority kind width => rw [kind]; exact decodes_aside rfl rfl same
  | pushPromise kind width framed => rw [kind]; exact decodes_aside rfl rfl same
  | goaway kind lastWidth codeWidth => rw [kind]; exact decodes_aside rfl rfl same
  | windowUpdate kind => rw [kind]; exact decodes_aside rfl rfl same
  | altsvc kind fits => rw [kind]; exact decodes_aside rfl rfl same
  | origin kind fit => rw [kind]; exact decodes_aside rfl rfl same
  | priorityUpdate kind width => rw [kind]; exact decodes_aside rfl rfl same
  | unknown kind => rw [kind]; exact decodes_aside rfl rfl same

/-- Its events are those of the law. -/
theorem reference_streams : Streams referenceH2 viewOf where
  initial := rfl
  opens core := rfl
  calls outcall core := by
    have same : (viewOf core).Settles (viewOf core) := ⟨rfl, fun _ => .inl rfl⟩
    cases outcall with
    | initiate => exact ⟨fun _ => same, fun _ => rfl⟩
    | goaway errorCode lastStreamId => exact ⟨fun _ => same, fun _ => rfl⟩
    | headers streamId fields endStream =>
      refine decodes_onStream (fun _ block => ⟨fun _ => ?_, fun _ => rfl⟩) (fun _ _ => same)
      rw [viewOf_sent]
      exact same
    | data streamId content endStream =>
      refine decodes_onStream (fun _ => ⟨fun _ => ?_, fun _ => rfl⟩) (fun _ _ => same)
      rw [viewOf_sent]
      exact same
    | reset streamId errorCode =>
      exact decodes_onStream (fun known => ⟨fun _ => settles_shut known, fun _ => rfl⟩)
        (fun _ _ => same)
    | acknowledge length streamId => exact ⟨fun _ => same, fun _ => rfl⟩
  prefaced core := by
    show (Reference.receiveData core http2Preface).Decodes _ none
    rw [Reference.receiveData, if_pos rfl]
    refine ⟨fun events returned => ?_, fun _ => rfl⟩
    obtain rfl := Except.ok.inj returned
    exact ⟨rfl, rfl⟩
  receives core wire payload framed encodes _ := by
    show (Reference.receiveData core wire).Decodes
      (Reacting (headerOf wire).streamId payload (viewOf core)) _
    have other : wire ≠ http2Preface := by
      rintro rfl
      exact absurd framed (by decide)
    rw [Reference.receiveData, if_neg other]
    exact decodes_receiveKind encodes

/-! ### A run -/

/-- A run that has received a request. -/
theorem run_requested : HTTP2Session.Run referencePackages false requested :=
  HTTP2Session.Run.performed (.begin plainRequest) (.created {}) (by decide +kernel)

/-- A run with a priority of an idle stream. -/
theorem run_prioritized : HTTP2Session.Run referencePackages false prioritized :=
  HTTP2Session.Run.performed (.begin prioritizedRequest) (.created {}) (by decide +kernel)

/-- A run that has answered a request. -/
theorem run_responded : HTTP2Session.Run referencePackages false responded :=
  HTTP2Session.Run.performed (.sendResponse (ascii "hi") [] 200) run_requested (by decide +kernel)

end SolveTls.Reference
