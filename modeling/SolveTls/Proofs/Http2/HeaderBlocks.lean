import SolveTls.Http2.RequestStream
import SolveTls.Proofs.Http2.SessionEvents

/-! The header blocks of the captured frames are those that the library gathers and decodes. -/

namespace SolveTls

open Fallible H2 HTTP2FrameBuilder

variable {κ δ α : Type} {packages : Packages κ δ} {block : κ → Option OpenBlock}
variable {payload : Payload} {streamId : Nat} {complete : Bool} {reports : List Event}
  {expected : Option Bytes} {frame : ParsedFrame} {opened : Option OpenBlock}

/-! ### The blocks of frames -/

/-- The block that is open behind a frame. -/
def blockAfter (block : Option OpenBlock) (streamId : Nat) (payload : Payload) : Option OpenBlock :=
  match gather block streamId payload with
  | some (_, true) => none
  | some (gathered, false) => some gathered
  | none => block

/-- The frame comes while no block is open, or continues the one that is. -/
def Placed (block : Option OpenBlock) (frame : ParsedFrame) : Prop :=
  ∀ opened ∈ block, (∃ fields, frame.payload = .continuation fields) ∧
    frame.header.streamId = opened.streamId

/-- Between blocks, any frame may come but a continuation. -/
theorem Placed.closed {block : Option OpenBlock} (placed : Placed block frame)
    (other : ∀ fields, frame.payload ≠ .continuation fields) : block = none := by
  rw [Option.eq_none_iff_forall_not_mem]
  intro opened among
  obtain ⟨⟨fields, decoded⟩, -⟩ := placed opened among
  exact other fields decoded

/-- A frame without content leaves the open block alone. -/
theorem blockAfter_aside (aside : isAside payload = true) (block : Option OpenBlock)
    (streamId : Nat) : blockAfter block streamId payload = block := by
  rw [blockAfter, gather_aside aside]

namespace RequestBlocks

variable {blocks : RequestBlocks}

/-- One more frame is taken on top of those before it. -/
theorem ofFrames_snoc (frames : List ParsedFrame) (frame : ParsedFrame) :
    ofFrames (frames ++ [frame]) = (ofFrames frames).take frame := by
  simp [ofFrames]

/-- What is open behind a frame is up to what was open before it. -/
theorem opened_take (blocks : RequestBlocks) (frame : ParsedFrame) :
    (blocks.take frame).opened =
      blockAfter blocks.opened frame.header.streamId frame.payload := by
  unfold take blockAfter
  rcases gather blocks.opened frame.header.streamId frame.payload with - | ⟨block, _ | _⟩ <;> rfl

/-- A frame that completes a block adds it to the complete ones. -/
theorem completed_take {block : OpenBlock}
    (gathered : gather blocks.opened frame.header.streamId frame.payload = some (block, true)) :
    (blocks.take frame).completed = blocks.completed ++ [block] := by
  rw [take, gathered]

/-- The complete blocks are left as they are by a frame that completes none. -/
theorem completed_take_none
    (incomplete : completes blocks.opened frame.header.streamId frame.payload = none) :
    (blocks.take frame).completed = blocks.completed := by
  unfold completes at incomplete
  unfold take
  rcases gathered : gather blocks.opened frame.header.streamId frame.payload with - | ⟨block, _ | _⟩
  · rfl
  · rfl
  · rw [gathered] at incomplete
    cases incomplete

/-- Complete blocks stay complete, whatever frame comes next. -/
theorem completed_mono (blocks : RequestBlocks) (frame : ParsedFrame) :
    ∃ more, (blocks.take frame).completed = blocks.completed ++ more := by
  unfold take
  rcases gather blocks.opened frame.header.streamId frame.payload with - | ⟨block, _ | _⟩
  · exact ⟨[], (List.append_nil _).symm⟩
  · exact ⟨[], (List.append_nil _).symm⟩
  · exact ⟨[block], rfl⟩

end RequestBlocks

/-- A frame that completes something has gathered it. -/
theorem gather_of_completes {fragment : Bytes}
    (complete : completes opened streamId payload = some fragment) :
    ∃ block, gather opened streamId payload = some (block, true) ∧ block.fragment = fragment := by
  unfold completes at complete
  rcases gathered : gather opened streamId payload with - | ⟨block, _ | _⟩ <;>
    rw [gathered] at complete
  · cases complete
  · cases complete
  · exact ⟨block, rfl, Option.some.inj complete⟩

/-- One more block is decoded after those before it. -/
theorem after_snoc (hpack : Hpack δ) (blocks : List OpenBlock) (block : OpenBlock) :
    hpack.after (blocks ++ [block]) =
      (hpack.decode (hpack.after blocks) block.fragment).2 := by
  simp [Hpack.after]

/-- A block that was decoded leaves its raw fields in the decoder. -/
theorem decode_eq_ok {hpack : Hpack δ} {block : Bytes} {raw : Bool} {fields : List Field}
    {before after : RequestDecoder δ}
    (ran : RequestDecoder.decode hpack block raw before = (.ok fields, after)) :
    ∃ original, hpack.decode before.inner block = (.ok original, after.inner) ∧
      after.originalHeaders = some original := by
  unfold RequestDecoder.decode at ran
  rcases decoded : hpack.decode before.inner block with ⟨raised | original, inner⟩ <;>
    rw [decoded] at ran
  · -- Errors of the codec are raised, whatever becomes of their class.
    cases raised <;> cases (Prod.mk.inj ran).1
  · dsimp only at ran
    split at ran
    · cases (Prod.mk.inj ran).1
    · obtain ⟨-, rfl⟩ := Prod.mk.inj ran
      exact ⟨original, rfl, rfl⟩

/-- The flag that completes a block is the one of the frame. -/
theorem gathered_flag {header : FrameHeader} {body : Bytes} {block : OpenBlock}
    (encodes : Encodes header body payload)
    (gathered : gather opened streamId payload = some (block, complete)) :
    (header.kind = some .headers ∨ header.kind = some .continuation) ∧
      complete = header.has FrameFlags.endHeaders := by
  cases encodes with
  | headers kind | prioritizedHeaders kind =>
    exact ⟨.inl kind, (Prod.mk.inj (Option.some.inj gathered)).2.symm⟩
  | continuation kind =>
    obtain ⟨before, -, same⟩ := Option.map_eq_some_iff.mp gathered
    exact ⟨.inr kind, (Prod.mk.inj same).2.symm⟩
  | _ => cases gathered

/-- Every accepted frame is on the stream of the block it belongs to. -/
theorem gathered_stream {block : OpenBlock}
    (placed : ∀ block ∈ opened, (∃ fields, payload = .continuation fields) ∧
      streamId = block.streamId)
    (gathered : gather opened streamId payload = some (block, complete)) :
    block.streamId = streamId := by
  cases payload with
  | headers fields =>
    rw [← (Prod.mk.inj (Option.some.inj gathered)).1]
  | continuation fields =>
    obtain ⟨before, among, same⟩ := Option.map_eq_some_iff.mp gathered
    rw [← (Prod.mk.inj same).1]
    exact (placed before among).2.symm
  | _ => cases gathered

/-! ### What is reported of a frame -/

/-- Only two frame types belong to a block. -/
theorem gather_outside (others : ∀ fields, payload ≠ .headers fields)
    (between : ∀ fields, payload ≠ .continuation fields) (block : Option OpenBlock)
    (streamId : Nat) : gather block streamId payload = none := by
  cases payload with
  | headers fields => exact absurd rfl (others fields)
  | continuation fields => exact absurd rfl (between fields)
  | _ => rfl

/-- The library has the block open that the frame leaves open. -/
theorem H2.Relayed.opens {before after : Option OpenBlock}
    (relayed : Relayed streamId payload before reports after) :
    after = blockAfter before streamId payload := by
  cases relayed with
  | outside others between => rw [blockAfter, gather_outside others between]
  | fragment gathered => rw [blockAfter, gathered]
  | request gathered => rw [blockAfter, gathered]
  | trailers gathered => rw [blockAfter, gathered]
  | ignored gathered => rw [blockAfter, gathered]

/-- A continuation of nothing is refused. -/
theorem H2.Relayed.continues {before after : Option OpenBlock}
    (relayed : Relayed streamId payload before reports after) {fields : ContinuationPayload}
    (decoded : payload = .continuation fields) :
    before.isSome = true := by
  subst decoded
  -- The frame was gathered, which takes a block that is open.
  cases relayed with
  | outside others between => exact absurd rfl (between fields)
  | fragment gathered | request gathered | trailers gathered | ignored gathered =>
    obtain ⟨opened, among, -⟩ := Option.map_eq_some_iff.mp gathered
    rw [among]
    rfl

/-- Events with a field list are among those with a part of a request. -/
theorem filter_isReport (events : List Event) :
    (events.filter isContent).filter isReport = events.filter isReport := by
  rw [List.filter_filter]
  apply List.filter_congr
  intro event _
  cases event <;> rfl

/-- The end of a stream comes without a field list. -/
theorem filter_isReport_ending (streamId : Nat) (ended : Bool) :
    (ending streamId ended).filter isReport = [] := by
  cases ended <;> rfl

/-- A library that goes by the phases of its streams reports at most one field list for a frame. -/
theorem H2.Reacts.relayed {before after : View} {events : List Event}
    (reacts : Reacts streamId payload before events after) :
    Relayed streamId payload before.block (events.filter isReport) after.block := by
  cases reacts with
  | aside other outside between settles =>
    rw [settles.1]
    exact .outside outside between
  | data decoded opened =>
    rw [List.filter_cons_of_neg (by simp [isReport]), filter_isReport_ending]
    exact .outside (by simp [decoded]) (by simp [decoded])
  | discarded decoded closed => exact .outside (by simp [decoded]) (by simp [decoded])
  | fragment gathered => exact .fragment gathered
  | request gathered opens =>
    rw [List.filter_cons_of_pos rfl, filter_isReport_ending]
    exact .request gathered
  | trailers gathered opened ends => exact .trailers gathered
  | ignored gathered closed => exact .ignored gathered

/-- A law about how calls end may be weakened. -/
theorem H2Call.Decodes.mono {holds weaker : Except Exn α → κ → Prop} {call : H2Call κ α}
    (decodes : call.Decodes holds expected)
    (implies : ∀ result core, holds result core → weaker result core) :
    call.Decodes weaker expected := by
  induction call generalizing expected with
  | done result core queued =>
    cases expected with
    | none => exact ⟨implies _ _ decodes.1, decodes.2⟩
    | some fragment => exact ⟨implies _ _ decodes.1, decodes.2⟩
  | decode data resume ih =>
    cases expected with
    | none => exact decodes.elim
    | some fragment =>
      obtain ⟨same, returned, failed⟩ := decodes
      exact ⟨same, fun fields => ih _ (returned fields), failed⟩
  | resizeEncoder size resume ih =>
    cases expected with
    | none =>
      have kept : resume.Decodes holds none := decodes
      exact (ih kept :)
    | some fragment =>
      have kept : resume.Decodes holds (some fragment) := decodes
      exact (ih kept :)
  | encode headers resume ih =>
    cases expected with
    | none => exact fun fragment => ih _ (decodes fragment)
    | some expected => exact fun fragment => ih _ (decodes fragment)

/-- Phases of streams are more than what a relay has to know. -/
theorem H2.Streams.relays {h2 : H2 κ} {view : κ → View} (streams : h2.Streams view) :
    h2.Relays fun core => (view core).block where
  initial := by rw [streams.initial]
  opens core := by rw [streams.opens]
  calls outcall core := (streams.calls outcall core).mono fun _ _ settles returned =>
    (settles returned).1
  prefaced core := (streams.prefaced core).mono fun _ _ greeted events returned => by
    rw [(greeted events returned).2]
  receives core wire payload framed encodes placed :=
    (streams.receives core wire payload framed encodes placed).mono fun _ _ reacts events returned => by
      rw [← filter_isReport]
      exact (reacts events returned).relayed

/-! ### Steps that leave the blocks alone -/

/-- Nothing was decoded, and the same block is open. -/
structure Undisturbed (block : κ → Option OpenBlock) (before after : H2Adapter κ δ) : Prop where
  opened : block after.core = block before.core
  decoder : after.decoder = before.decoder

/-- What nothing happened to is undisturbed. -/
theorem Undisturbed.refl (connection : H2Adapter κ δ) : Undisturbed block connection connection :=
  ⟨rfl, rfl⟩

/-- Undisturbed steps may follow one another. -/
theorem Undisturbed.trans {first second third : H2Adapter κ δ}
    (before : Undisturbed block first second) (after : Undisturbed block second third) :
    Undisturbed block first third :=
  ⟨after.opened.trans before.opened, after.decoder.trans before.decoder⟩

namespace HTTP2Session

variable {after state : HTTP2Session κ δ} {items : Dict Nat Nat} {wire shown : Bytes}

/-- A session whose connection was not disturbed. -/
def KeepsBlock (block : κ → Option OpenBlock) (before after : HTTP2Session κ δ) : Prop :=
  Undisturbed block before.connection after.connection

/-- So may steps that keep the blocks. -/
theorem keepsBlock : Progress (KeepsBlock (κ := κ) (δ := δ) block) where
  refl state := Undisturbed.refl state.connection
  trans first second := first.trans second

section Relays

variable (relays : packages.h2.Relays block)

include relays

/-- Only receiving something can disturb the blocks. -/
theorem keepsBlock_callH2 (outcall : Outcall) :
    Returning (KeepsBlock (δ := δ) block) (callH2 packages outcall.method) := by
  intro before value after ran
  simp only [callH2, onConnection, bind_apply, get_apply] at ran
  generalize called : H2Adapter.call packages.hpack
    (outcall.method packages.h2 before.connection.core) before.connection = outcome at ran
  obtain ⟨result, connection⟩ := outcome
  obtain ⟨rfl, rfl⟩ := Prod.mk.inj ran
  obtain ⟨opened, decoder⟩ :=
    H2Adapter.call_decodes packages.hpack (relays.calls outcall before.connection.core) called
  exact ⟨opened ⟨value, rfl⟩, decoder⟩

/-- Dealing with events leaves the blocks alone. -/
theorem reacting_keepsBlock :
    Reacting packages fun _ action => Returning (KeepsBlock (δ := δ) block) action := by
  refine reacting_returning keepsBlock ?_ (fun _ _ => keepsBlock_callH2 relays (.acknowledge _ _))
    fun note state => by cases note <;> exact keepsBlock.refl state
  -- Counting lets the library forget closed streams.
  intro before value after ran
  obtain ⟨-, rfl⟩ := Prod.mk.inj ran
  exact ⟨relays.opens _, rfl⟩

/-- Events come behind the frame that caused them. -/
theorem keepsBlock_processEvents (events : List Event) :
    Returning (KeepsBlock (δ := δ) block) (processEvents packages events) := by
  have reacting := reacting_keepsBlock (δ := δ) relays
  refine reacting.on_processEvents events fun event _ => reacting.on_processEvent event ?_ ?_
  · intro streamId headers streamEnded _
    refine reacting.on_processRequest reacting.leading headers
      (returning_modify fun state => keepsBlock.refl state) (keepsBlock_callH2 relays _) fun _ => ?_
    -- Of the ways to go on, only a continuation is asked of the library.
    exact reacting.on_acceptRequest _ reacting.leading _ _ _
      (fun _ later => keepsBlock.returning_bind
        (returning_modify fun state => keepsBlock.refl state) fun _ => later)
      fun _ _ => keepsBlock_callH2 relays _
  · intro streamId headers _
    exact reacting.on_processTrailers
      (fun _ => returning_modify fun state => keepsBlock.refl state) streamId headers

end Relays

/-! ### SETTINGS belong to no block -/

/-- The octets of a built SETTINGS frame stand for some settings. -/
theorem encodes_settings (built : buildSettingsFrame items false = .ok wire) :
    IsWireFrame wire ∧
      ∃ payload, Encodes (headerOf wire) (wire.drop frameHeaderSize) (.settings payload) := by
  obtain ⟨wired, framed, -⟩ := buildSettingsFrame_ok built
  have body : wire.drop frameHeaderSize = settingsBytes items := by
    rw [wired, drop_frameBytes]
  have size : (settingsBytes items).length = 6 * items.length :=
    length_settingsBytes items
  -- The entries are read back from the octets, whatever the items were.
  obtain ⟨written, -, ranges⟩ :=
    HTTP2FrameReader.settingsBytes_settingsEntries items.length _ size
  rw [body, ← written]
  refine ⟨framed, _, .settings ?_ ?_ ranges⟩
  · rw [FrameHeader.kind, wired, headerOf_frameBytes]
    rfl
  · rw [wired, headerOf_frameBytes]
    simp [FrameHeader.has]

/-- Settings that were applied have gone to the library in a SETTINGS frame. -/
theorem receiveSettings_called {before : HTTP2Session κ δ} {value : Unit}
    (ran : receiveSettings packages items before = (.ok value, after)) :
    ∃ wire payload events, IsWireFrame wire ∧
      Encodes (headerOf wire) (wire.drop frameHeaderSize) (.settings payload) ∧
      H2Adapter.call packages.hpack (packages.h2.receiveData before.connection.core wire)
        before.connection = (.ok events, after.connection) := by
  simp only [receiveSettings, bind_eq_ok, fromExcept_eq_ok, modify_eq_ok] at ran
  obtain ⟨wire, _, ⟨built, rfl⟩, _, _, rfl, events, taken, ran₁, ran₂⟩ := ran
  obtain ⟨-, rfl⟩ := pure_eq_ok.mp ran₂
  obtain ⟨raw, connection, called, -, rfl⟩ := receiveData_ok ran₁
  obtain ⟨framed, payload, encodes⟩ := encodes_settings (liftBuilder_eq_ok.mp built)
  exact ⟨wire, payload, raw, framed, encodes, called⟩

/-- Where no block is open, none is opened and nothing is decoded. -/
def LeavesBlock (block : κ → Option OpenBlock) (before after : HTTP2Session κ δ) : Prop :=
  block before.connection.core = none → KeepsBlock block before after

/-- Steps that open no block may follow one another. -/
theorem leavesBlock : Progress (LeavesBlock (κ := κ) (δ := δ) block) where
  refl state _ := keepsBlock.refl state
  trans first second closed := by
    -- The first half leaves the block closed for the second.
    have kept := first closed
    exact keepsBlock.trans kept (second (kept.opened.trans closed))

/-- Applied at once or one by one, settings open no block. -/
theorem leavesBlock_applySettings (relays : packages.h2.Relays block) (entries : List (Nat × Nat)) :
    Returning (LeavesBlock (δ := δ) block) (applySettings packages entries) := by
  refine (applying_returning leavesBlock (fun core decoder _ _ => ⟨by rw [core], decoder⟩)
    fun items => ?_).on_applySettings entries
  intro before value after ran closed
  obtain ⟨wire, payload, events, framed, encodes, called⟩ := receiveSettings_called ran
  obtain ⟨relayed, decoded⟩ := H2Adapter.call_decodes packages.hpack
    (relays.receives before.connection.core wire _ framed encodes (by simp [closed])) called
  exact ⟨(relayed events rfl).opens, decoded⟩

/-! ### A frame shown to the library -/

/-- The library refuses what it is shown, or the events that it answers with are processed. -/
theorem receiveWire_cases {law : List Event → κ → Prop}
    (decodes : (packages.h2.receiveData state.connection.core wire).Decodes
      (fun result core => ∀ events, result = .ok events → law events core) expected) :
    (∃ raised after, receiveWire packages wire state = (.error raised, after) ∧
      Outbound (handing state [.wire wire]) after) ∨
    ∃ (connection : H2Adapter κ δ) (events : List Event), law events connection.core ∧
      Decoded packages.hpack expected state.connection.decoder connection.decoder ∧
      receiveWire packages wire state = processEvents packages
        (events.map (H2Adapter.withOriginalHeaders connection.decoder.originalHeaders))
        { handing state [.wire wire] with connection } := by
  have noted : receiveWire packages wire state = (do
      let events ← onConnection (H2Adapter.receiveData packages wire)
      processEvents packages events) (handing state [.wire wire]) := rfl
  rw [noted, bind_apply]
  rcases ran : onConnection (H2Adapter.receiveData packages wire) (handing state [.wire wire]) with
    ⟨raised | events, taken⟩
  · exact .inl ⟨raised, taken, rfl, (outbound_onConnection _).reached ran⟩
  · obtain ⟨raw, connection, called, rfl, rfl⟩ := receiveData_ok ran
    obtain ⟨held, decoded⟩ := H2Adapter.call_decodes packages.hpack decodes called
    exact .inr ⟨connection, raw, held raw rfl, decoded, rfl⟩

/-- A frame that reaches the library is shown as a frame that stands for it. -/
theorem Admitted.stands (admitted : Admitted state frame)
    (captured : HTTP2FrameReader.Captured wire frame) (reaches : frame.header.kind ∉ ownKinds)
    (converted : wireForH2 frame wire = .ok shown) : ∃ payload, Stands frame shown payload := by
  have known : ¬ (frame.header.kind = some .altsvc ∨ frame.header.kind = some .origin) := by
    rintro (kind | kind) <;> simp [ownKinds, kind] at reaches
  obtain ⟨-, -, -, encodes⟩ := admitted.sound known
  exact stands_shown captured encodes converted

/-- What is shown continues a block exactly if the frame does. -/
theorem Stands.placed (stands : Stands frame shown payload) (placed : Placed opened frame) :
    ∀ block ∈ opened, (∃ fields, payload = .continuation fields) ∧
      (headerOf shown).streamId = block.streamId := by
  intro block among
  obtain ⟨⟨fields, continues⟩, same⟩ := placed block among
  rw [stands.streamId]
  refine ⟨?_, same⟩
  rcases stands.same with equal | ⟨-, others, decoded⟩
  · exact ⟨fields, equal.trans continues⟩
  · rw [continues] at decoded
    cases decoded

/-- What is shown completes what the frame completes. -/
theorem Stands.completes (stands : Stands frame shown payload) (opened : Option OpenBlock) :
    completes opened (headerOf shown).streamId payload =
      completes opened frame.header.streamId frame.payload := by
  rw [H2.completes, H2.completes, stands.streamId, stands.gathers]

/-- The same is reported of a frame and of what is shown for it. -/
theorem Stands.relayed (stands : Stands frame shown payload) {before after : Option OpenBlock}
    (relayed : Relayed (headerOf shown).streamId payload before reports after) :
    Relayed frame.header.streamId frame.payload before reports after := by
  rw [stands.streamId] at relayed
  have gathers := stands.gathers
  cases relayed with
  | outside others between =>
    -- Neither of them is a HEADERS frame, so they are the same.
    rcases stands.same with rfl | ⟨⟨fields, decoded⟩, -⟩
    · exact .outside others between
    · exact absurd decoded (others fields)
  | fragment gathered => exact .fragment (gathers .. ▸ gathered)
  | request gathered => exact .request (gathers .. ▸ gathered)
  | trailers gathered => exact .trailers (gathers .. ▸ gathered)
  | ignored gathered => exact .ignored (gathers .. ▸ gathered)

/-- What the library made of a frame before its events were processed, if it took the frame. -/
theorem receiveWire_relays (relays : packages.h2.Relays block) (stands : Stands frame shown payload)
    (placed : Placed (block state.connection.core) frame) :
    (∃ raised after, receiveWire packages shown state = (.error raised, after) ∧
      Outbound (handing state [.wire shown]) after) ∨
    ∃ (connection : H2Adapter κ δ) (events : List Event),
      Relayed frame.header.streamId frame.payload (block state.connection.core)
        (events.filter isReport) (block connection.core) ∧
      Decoded packages.hpack
        (completes (block state.connection.core) frame.header.streamId frame.payload)
        state.connection.decoder connection.decoder ∧
      receiveWire packages shown state = processEvents packages
        (events.map (H2Adapter.withOriginalHeaders connection.decoder.originalHeaders))
        { handing state [.wire shown] with connection } := by
  rcases receiveWire_cases (relays.receives state.connection.core shown payload stands.framed
    stands.encodes (stands.placed placed)) with refused | ⟨connection, events, relayed, decoded, ran⟩
  · exact .inl refused
  · rw [stands.completes] at decoded
    exact .inr ⟨connection, events, stands.relayed relayed, decoded, ran⟩

/-! ### One frame -/

/-- Parts of requests and their continuations come in frames of their own types. -/
theorem kind_of_captured (captured : HTTP2FrameReader.Captured wire frame)
    (carries : isAside frame.payload = false) :
    frame.header.kind = some .data ∨ frame.header.kind = some .headers ∨
      frame.header.kind = some .continuation := by
  have faultless : parseFault frame.payload = none := by
    cases decoded : frame.payload <;> first | rfl | (rw [decoded] at carries; cases carries)
  obtain ⟨-, encodes⟩ := encodes_of_captured captured faultless
  generalize frame.payload = payload, wire.drop frameHeaderSize = body at *
  cases encodes with
  | data kind => exact .inl kind
  | headers kind | prioritizedHeaders kind => exact .inr (.inl kind)
  | continuation kind => exact .inr (.inr kind)
  | _ => cases carries

/-- A frame that the session deals with alone carries no part of a request. -/
theorem isAside_of_ownKinds (captured : HTTP2FrameReader.Captured wire frame)
    (own : frame.header.kind ∈ ownKinds) : isAside frame.payload = true := by
  by_contra carries
  rcases kind_of_captured captured (by simpa using carries) with kind | kind | kind <;>
    rw [kind] at own <;> simp [ownKinds] at own

/-- The block that the session expects to be continued is the one the library has open. -/
def Aligned (block : κ → Option OpenBlock) (session : HTTP2Session κ δ) : Prop :=
  session.continuationStream = (block session.connection.core).map OpenBlock.streamId

/-- While a block is open, only its continuation is accepted. -/
theorem Aligned.placed (aligned : Aligned block state) (admitted : Admitted state frame) :
    Placed (block state.connection.core) frame := by
  intro opened among
  have expected : state.continuationStream = some opened.streamId := by
    rw [aligned, Option.mem_def.mp among]
    rfl
  obtain ⟨kind, same⟩ := admitted.continued _ expected
  obtain ⟨-, -, -, encodes⟩ := admitted.sound (by simp [kind])
  exact ⟨encodes.continuation_of_kind kind, same⟩

/-- The session comes to expect the continuation of the block that is open behind the frame. -/
theorem Aligned.behind (captured : HTTP2FrameReader.Captured wire frame)
    (aligned : Aligned block state) (admitted : Admitted state frame)
    (continues : ∀ fields, frame.payload = .continuation fields →
      (block state.connection.core).isSome = true) :
    (admitting state frame wire).continuationStream =
      (blockAfter (block state.connection.core) frame.header.streamId frame.payload).map
        OpenBlock.streamId := by
  have placed := aligned.placed admitted
  unfold blockAfter
  simp only [admitting]
  rcases gathered : gather (block state.connection.core) frame.header.streamId frame.payload
    with - | ⟨gatheredBlock, complete⟩
  · -- A frame of a block would have been gathered.
    have outside : ¬ (frame.header.kind = some .headers ∨
        frame.header.kind = some .continuation) := by
      intro inside
      have known : ¬ (frame.header.kind = some .altsvc ∨ frame.header.kind = some .origin) := by
        rcases inside with kind | kind <;> simp [kind]
      obtain ⟨-, -, -, encodes⟩ := admitted.sound known
      rcases inside with kind | kind
      · obtain ⟨fields, decoded⟩ := encodes.headers_of_kind kind
        rw [decoded] at gathered
        cases gathered
      · obtain ⟨fragment, decoded⟩ := encodes.continuation_of_kind kind
        obtain ⟨opened, among⟩ := Option.isSome_iff_exists.mp (continues fragment decoded)
        rw [decoded, among] at gathered
        cases gathered
    rw [if_neg outside]
    exact aligned
  · have carries : ¬ (frame.header.kind = some .altsvc ∨ frame.header.kind = some .origin) := by
      have carried : isAside frame.payload = false := by
        rw [← Bool.not_eq_true]
        intro silent
        rw [gather_aside silent] at gathered
        cases gathered
      rcases kind_of_captured captured carried with kind | kind | kind <;> simp [kind]
    obtain ⟨-, -, -, encodes⟩ := admitted.sound carries
    obtain ⟨inside, flag⟩ := gathered_flag encodes gathered
    have stream := gathered_stream placed gathered
    rw [if_pos inside, ← flag]
    cases complete with
    | true => rfl
    | false => simp [stream]

/-- What a frame that was processed to its end has done to the blocks. -/
structure FollowsBlock (packages : Packages κ δ) (block : κ → Option OpenBlock)
    (frame : ParsedFrame) (before after : HTTP2Session κ δ) : Prop where
  opened : block after.connection.core =
    blockAfter (block before.connection.core) frame.header.streamId frame.payload
  decoded : Decoded packages.hpack
    (completes (block before.connection.core) frame.header.streamId frame.payload)
    before.connection.decoder after.connection.decoder
  continues : ∀ fields, frame.payload = .continuation fields →
    (block before.connection.core).isSome = true

/-- A frame without content leaves the blocks as they are. -/
theorem followsBlock_aside (aside : isAside frame.payload = true) {before : HTTP2Session κ δ}
    (kept : KeepsBlock block before after) : FollowsBlock packages block frame before after := by
  refine ⟨?_, ?_, ?_⟩
  · rw [blockAfter_aside aside]
    exact kept.opened
  · rw [completes_aside aside]
    exact kept.decoder
  · intro fields decoded
    rw [decoded] at aside
    cases aside

/-- Sending has nothing to do with what is received. -/
theorem Sent.keepsBlock {delivered : HTTP2Session κ δ} (sent : Sent delivered after) :
    KeepsBlock block delivered after := by
  obtain ⟨transport, rfl⟩ := sent
  exact ⟨rfl, rfl⟩

/-- A processed frame was gathered and decoded by the library. -/
theorem processFrame_followsBlock (relays : packages.h2.Relays block)
    (captured : HTTP2FrameReader.Captured wire frame) (aligned : Aligned block state)
    (ran : processFrame packages frame wire state = (.ok (), after)) :
    FollowsBlock packages block frame state after := by
  obtain ⟨admitted, delivery⟩ := processFrame_delivery captured ran
  have placed := aligned.placed admitted
  cases delivery with
  | aside own aside =>
    apply followsBlock_aside (isAside_of_ownKinds captured own)
    -- At most the open streams were counted.
    obtain ⟨⟨idle, cancelled, core, rfl⟩, same | same, -⟩ := aside
    · have unchanged : core = state.connection.core := same
      exact ⟨by rw [unchanged], rfl⟩
    · have counts : core = (packages.h2.openInboundStreams state.connection.core).2 := same
      exact ⟨by rw [counts]; exact relays.opens _, rfl⟩
  | settings kind decoded asks applied sent =>
    have kept := leavesBlock_applySettings relays _ applied (placed.closed (by simp [decoded]))
    exact followsBlock_aside (by rw [decoded]; rfl) (kept.trans sent.keepsBlock)
  | wire reaches unasked converted ran sent =>
    obtain ⟨payload, stands⟩ := admitted.stands captured reaches converted
    -- The checks of its place have not touched the connection.
    have placed' : Placed (block (admitting state frame wire).connection.core) frame := placed
    rcases receiveWire_relays relays stands placed' with
      ⟨raised, failed, refused, -⟩ | ⟨connection, events, relayed, decoded, processed⟩
    · rw [refused] at ran
      cases (Prod.mk.inj ran).1
    · rw [processed] at ran
      have kept := keepsBlock.trans (keepsBlock_processEvents relays _ ran) sent.keepsBlock
      refine ⟨?_, ?_, fun fields continues => relayed.continues continues⟩
      · rw [kept.opened]
        exact relayed.opens
      · rw [kept.decoder]
        exact decoded

/-- A processed frame leaves the session expecting what the library has open. -/
theorem Aligned.processed (relays : packages.h2.Relays block)
    (captured : HTTP2FrameReader.Captured wire frame) (aligned : Aligned block state)
    (ran : processFrame packages frame wire state = (.ok (), after)) : Aligned block after := by
  obtain ⟨admitted, handled⟩ := processFrame_ok captured ran
  have follows := processFrame_followsBlock relays captured aligned ran
  rw [Aligned, handled.continuationStream, follows.opened]
  exact aligned.behind captured admitted follows.continues

/-- A session that has followed the header blocks of its frames. -/
structure Gathers (packages : Packages κ δ) (block : κ → Option OpenBlock)
    (session : HTTP2Session κ δ) : Prop where
  aligned : Aligned block session
  opened : (RequestBlocks.ofFrames session.capture.frames).opened = block session.connection.core
  decoder : session.connection.decoder.inner =
    packages.hpack.after (RequestBlocks.ofFrames session.capture.frames).completed

/-- What is gathered survives steps that leave the frames alone. -/
theorem Gathers.kept {before : HTTP2Session κ δ} (gathers : Gathers packages block before)
    (kept : KeepsBlock block before after) (capture : after.capture = before.capture)
    (continuationStream : after.continuationStream = before.continuationStream) :
    Gathers packages block after := by
  refine ⟨?_, ?_, ?_⟩
  · rw [Aligned, continuationStream, kept.opened]
    exact gathers.aligned
  · rw [capture, kept.opened]
    exact gathers.opened
  · rw [capture, kept.decoder]
    exact gathers.decoder

/-- Header blocks are followed from one frame to the next. -/
theorem Gathers.processed (relays : packages.h2.Relays block)
    (captured : HTTP2FrameReader.Captured wire frame) {entries : Nat}
    (gathers : Gathers packages block state)
    (ran : processFrame packages frame wire (capturing state frame entries) = (.ok (), after)) :
    Gathers packages block after := by
  -- Capturing the frame has touched neither the connection nor the block that is expected.
  have aligned : Aligned block (capturing state frame entries) := gathers.aligned
  have frames : after.capture.frames = state.capture.frames ++ [frame] :=
    (processFrame_ok captured ran).2.frames
  obtain ⟨opened, decoded, -⟩ := processFrame_followsBlock relays captured aligned ran
  refine ⟨aligned.processed relays captured ran, ?_, ?_⟩
  · rw [frames, RequestBlocks.ofFrames_snoc, RequestBlocks.opened_take, gathers.opened, opened]
    rfl
  · rw [frames, RequestBlocks.ofFrames_snoc]
    have decoded' : Decoded packages.hpack
        (completes (RequestBlocks.ofFrames state.capture.frames).opened frame.header.streamId
          frame.payload) state.connection.decoder after.connection.decoder := by
      rw [gathers.opened]
      exact decoded
    -- The decoder has seen the block that the frame completes, if it does.
    rcases complete : completes (RequestBlocks.ofFrames state.capture.frames).opened
      frame.header.streamId frame.payload with - | fragment <;> rw [complete] at decoded'
    · rw [RequestBlocks.completed_take_none complete,
        show after.connection.decoder = state.connection.decoder from decoded']
      exact gathers.decoder
    · obtain ⟨fields, ran⟩ := decoded'
      obtain ⟨original, inner, -⟩ := decode_eq_ok ran
      obtain ⟨gatheredBlock, gathered, rfl⟩ := gather_of_completes complete
      rw [RequestBlocks.completed_take gathered, after_snoc, ← gathers.decoder, inner]

/-- A new session has gathered nothing. -/
theorem gathers_create (relays : packages.h2.Relays block) (transport : Transport) :
    Gathers packages block (create packages transport) := by
  have initial : block (create packages transport).connection.core = none := relays.initial
  refine ⟨?_, ?_, rfl⟩
  · rw [Aligned, initial]
    rfl
  · rw [initial]
    rfl

end HTTP2Session

end SolveTls
