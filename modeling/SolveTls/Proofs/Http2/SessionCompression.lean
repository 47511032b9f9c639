import SolveTls.Proofs.Http2.HeaderTables
import SolveTls.Proofs.Http2.SessionDealing
import SolveTls.Proofs.Http2.SessionSettings

/-! In every run, the peer's header table agrees with the encoder's after each block. -/

namespace SolveTls.HTTP2Session

open Fallible Exits DynamicTable Reference

variable {κ δ α : Type} {packages : Packages κ δ} {remote : κ → Nat → Option Nat}
variable {self : H2Adapter κ δ} {state after : HTTP2Session κ δ}

/-! ### Library calls -/

/-- The encoder is consistent with its calls and has the size that the peer asked for. -/
structure Compressed (packages : Packages κ δ) (connection : H2Adapter κ δ) : Prop where
  consistent : Consistent connection.encoder connection.encoderCalls
  current : connection.encoder.maxSize = packages.h2.remoteHeaderTableSize connection.core

/-- A call that does not resize the encoder may encode blocks with it. -/
theorem call_unresized {holds : κ → Prop} {call : H2Call κ α} (unresized : call.Unresized holds)
    (consistent : Consistent self.encoder self.encoderCalls) :
    Consistent (H2Adapter.call packages.hpack call self).2.encoder
      (H2Adapter.call packages.hpack call self).2.encoderCalls ∧
    (H2Adapter.call packages.hpack call self).2.encoder.maxSize = self.encoder.maxSize ∧
    holds (H2Adapter.call packages.hpack call self).2.core := by
  -- The induction is on the call; only the blocks it encodes touch the encoder.
  induction call generalizing self with
  | done result core queued => exact ⟨consistent, rfl, unresized⟩
  | decode block resume ih => exact ih _ (unresized _) consistent
  | resizeEncoder size resume ih => exact unresized.elim
  | encode headers resume ih =>
    have encoded := consistent.encode packages.hpack headers
    exact ih _ (unresized _) encoded

theorem Compressed.call {call : H2Call κ α} (compressed : Compressed packages self)
    (unresized : call.Unresized fun core =>
      packages.h2.remoteHeaderTableSize core = packages.h2.remoteHeaderTableSize self.core) :
    Compressed packages (H2Adapter.call packages.hpack call self).2 := by
  obtain ⟨consistent, same, kept⟩ := call_unresized unresized compressed.consistent
  exact ⟨consistent, by rw [same, compressed.current, kept]⟩

theorem Compressed.drained (compressed : Compressed packages self) (outgoing : List WireFrame) :
    Compressed packages { self with outgoing } :=
  ⟨compressed.consistent, compressed.current⟩

/-- Receiving octets goes through one library call. -/
theorem receiveData_connection (wire : Bytes) (self : H2Adapter κ δ) :
    (H2Adapter.receiveData packages wire self).2 =
      (H2Adapter.call packages.hpack (packages.h2.receiveData self.core wire) self).2 := by
  simp only [H2Adapter.receiveData, bind_apply, get_apply]
  -- Neither outcome changes the connection any further.
  generalize H2Adapter.call packages.hpack (packages.h2.receiveData self.core wire) self = outcome
  obtain ⟨result, connection⟩ := outcome
  cases result <;> rfl

/-! ### Dealing with frames -/

/-- The relation of states that keep the encoder compressed. -/
abbrev KeepsCompressed (packages : Packages κ δ) :
    HTTP2Session κ δ → HTTP2Session κ δ → Prop :=
  Keeps fun session => Compressed packages session.connection

theorem compressed_callH2 (announces : packages.h2.Announces) (outcall : Outcall) :
    Within (KeepsCompressed packages) (callH2 packages outcall.method) := fun state compressed =>
  compressed.call (announces.calls outcall state.connection.core)

theorem compressed_flush : Within (KeepsCompressed packages) (flush : SessionM κ δ Unit) := by
  intro state compressed
  show Compressed packages (flush state).2.connection
  rw [flush_connection]
  exact compressed.drained []

theorem compressed_close (announces : packages.h2.Announces) (errorCode : Nat) :
    Within (KeepsCompressed packages) (close packages errorCode) := by
  have progress := keeps fun session : HTTP2Session κ δ => Compressed packages session.connection
  refine progress.within_bind progress.within_get fun self =>
    progress.within_bind (progress.within_runWhen _ ?_) fun _ => compressed_flush
  exact progress.within_bind (compressed_callH2 announces (.goaway errorCode _)) fun _ =>
    within_modify fun _ => id

/-- On every exit from handling the events of a frame, the encoder is still compressed. -/
theorem tending_compressed (announces : packages.h2.Announces) :
    Tending packages (alike (KeepsCompressed packages)) := by
  have progress := keeps fun session : HTTP2Session κ δ => Compressed packages session.connection
  refine ⟨chained_alike progress, ?_, ?_, ?_, ?_, ?_, ?_, ?_⟩
  · intro before after connection _ _ _ _ compressed
    show Compressed packages after.connection
    rw [connection]
    exact compressed
  · intro state raised _ compressed
    exact compressed
  · intro state headers trailers raised _ _ compressed
    exact compressed
  · intro streamId errorCode
    exact covers_alike.mpr (compressed_callH2 announces (.reset streamId errorCode))
  · intro length streamId
    exact covers_alike.mpr (compressed_callH2 announces (.acknowledge length streamId))
  · -- Counting the streams may forget some of them, but no table size.
    refine covers_alike.mpr fun state compressed => ?_
    exact ⟨compressed.consistent, compressed.current.trans (announces.opens _).symm⟩
  · intro α message errorCode _
    exact covers_alike.mpr (progress.within_bind (within_modify fun _ => id) fun _ =>
      progress.within_bind (compressed_close announces errorCode) fun _ => progress.within_throw _)

/-! ### SETTINGS -/

/-- Sizes that change something leave the encoder consistent. -/
theorem consistent_assignAll {encoder : ResponseEncoder} {calls : List EncoderCall}
    (consistent : Consistent encoder calls) (entries : List (Nat × Nat)) :
    Consistent
      ((effectiveSizes encoder.maxSize entries).foldl ResponseEncoder.setHeaderTableSize encoder)
      (calls ++ (effectiveSizes encoder.maxSize entries).map .assigned) ∧
    ((effectiveSizes encoder.maxSize entries).foldl ResponseEncoder.setHeaderTableSize
      encoder).maxSize = (effectiveSizes encoder.maxSize entries).getLast?.getD encoder.maxSize := by
  -- The induction is on the entries; an effective size is the current one for the next entry.
  induction entries generalizing encoder calls with
  | nil =>
    rw [effectiveSizes, List.map_nil, List.append_nil]
    exact ⟨consistent, rfl⟩
  | cons entry rest ih =>
    obtain ⟨identifier, value⟩ := entry
    by_cases effective : identifier = SettingsIdentifier.headerTableSize ∧ value ≠ encoder.maxSize
    · have step := ih (consistent.assign effective.2)
      simp only [effectiveSizes, if_pos effective, List.foldl_cons, List.map_cons,
        List.getLast?_cons, Option.getD_some]
      rw [List.append_assoc, List.singleton_append] at step
      exact step
    · simp only [effectiveSizes, if_neg effective]
      exact ih consistent

theorem compressed_applySettings (settles : packages.h2.Settles remote) {entries : List (Nat × Nat)}
    (bounded : ∀ entry ∈ entries, entry.1 < 2 ^ 16 ∧ entry.2 < 2 ^ 32) (quiet : Quiet state)
    (ran : applySettings packages entries state = (.ok (), after))
    (compressed : Compressed packages state.connection) : Compressed packages after.connection := by
  obtain ⟨changes, settled⟩ := applySettings_settled settles bounded quiet
  rw [ran] at settled
  cases settled with
  | applied later takes acknowledged whole separate =>
    obtain ⟨-, -, sizes, -⟩ := filterSettings_spec entries
      (packages.h2.remoteHeaderTableSize state.connection.core)
    obtain ⟨consistent, final⟩ := consistent_assignAll compressed.consistent entries
    -- The peer's size is the last one it sent, or the one it had.
    have size := takes.values SettingsIdentifier.headerTableSize
    rw [settles.tableSize, settles.tableSize, Dict.last?_eq_getLast?, ← sizesOf, sizes,
      Option.or_some, Option.some.injEq] at size
    rw [compressed.current] at consistent final
    obtain ⟨core, outgoing, rfl⟩ := takes.shape
    rw [sizes]
    exact ⟨consistent, final.trans size.symm⟩

/-! ### Every run -/

/-- A processed frame keeps the encoder compressed. -/
theorem compressed_processFrame (settles : packages.h2.Settles remote)
    (announces : packages.h2.Announces) {frame : ParsedFrame} {wire : Bytes}
    (captured : HTTP2FrameReader.Captured wire frame)
    (ran : processFrame packages frame wire state = (.ok (), after)) (quiet : Quiet state)
    (compressed : Compressed packages state.connection) : Compressed packages after.connection := by
  obtain ⟨-, delivery⟩ := processFrame_delivery captured ran
  have admitted : Compressed packages (admitting state frame wire).connection := compressed
  cases delivery with
  | aside own aside =>
    obtain ⟨⟨streams, cancelled, core, rfl⟩, counted, -⟩ := aside
    -- Counting streams is the only thing the connection may have been asked.
    refine ⟨compressed.consistent, compressed.current.trans ?_⟩
    rcases counted with same | opened
    · exact (congrArg packages.h2.remoteHeaderTableSize same).symm
    · exact ((congrArg packages.h2.remoteHeaderTableSize opened).trans (announces.opens _)).symm
  | @settings payload delivered kind decoded asks applied sent =>
    obtain ⟨transport, rfl⟩ := sent
    obtain ⟨-, -, bounded⟩ := settings_of_captured captured decoded asks
    have quiet' : Quiet (handing (admitting state frame wire) [.settings payload.entries]) := quiet
    exact (compressed_applySettings settles bounded quiet' applied admitted).drained []
  | @wire shown delivered reaches unasked converted received sent =>
    obtain ⟨transport, rfl⟩ := sent
    simp only [receiveWire, recordHanded, bind_eq_ok, modify_eq_ok] at received
    obtain ⟨_, _, rfl, events, taken, ran₁, ran₂⟩ := received
    have law := announces.receives state.connection.core shown
      (.inr ⟨isWireFrame_wireForH2 captured.framed converted,
        unasked_shown captured converted unasked⟩)
    have kept : Compressed packages taken.connection := by
      rw [onConnection_reached ran₁, receiveData_connection]
      exact admitted.call law
    have tending := tending_compressed (δ := δ) announces
    have dealt := tending.covers_processEvents events fun streamId headers streamEnded _ =>
      tending.covers_processRequest tending.toChained.leads streamId headers streamEnded
        fun _ fields => covers_alike.mpr
          (compressed_callH2 announces (.headers streamId fields false))
    exact ((covers_alike.mp dealt).reached ran₂ kept).drained []

/-- Nothing is queued, and the encoder is compressed. -/
def Prepared (packages : Packages κ δ) (session : HTTP2Session κ δ) : Prop :=
  Quiet session ∧ Compressed packages session.connection

/-- Whenever a session waits, it is prepared. -/
theorem framewise_prepared (settles : packages.h2.Settles remote)
    (announces : packages.h2.Announces) : Framewise packages (Prepared packages) where
  begins held := held
  closes held := held
  reads held := held
  buffers _ _ _ held := held
  flushes ran held :=
    ⟨(framewise_quiet settles).flushes ran held.1, compressed_flush.reached ran held.2⟩
  exchanges outcall before after ran held := by
    have progress := keeps fun session : HTTP2Session κ δ => Compressed packages session.connection
    have within := progress.within_bind (compressed_callH2 announces outcall) fun _ =>
      compressed_flush
    exact ⟨(framewise_quiet settles).exchanges outcall ran held.1, within.reached ran held.2⟩
  prefaced {before after events} ran held := by
    refine ⟨(framewise_quiet settles).prefaced ran held.1, ?_⟩
    rw [onConnection_reached ran, receiveData_connection]
    exact held.2.call (announces.receives before.connection.core http2Preface (.inl rfl))
  processes {_ _ _ state _} captured ran held := by
    -- Every frame is processed with nothing queued.
    have kept : Prepared packages state := held
    exact ⟨quiet_processFrame captured ran kept.1,
      compressed_processFrame settles announces captured ran kept.1 kept.2⟩

/-- A new session has an encoder of the default size. -/
theorem prepared_create (announces : packages.h2.Announces) (transport : Transport) :
    Prepared packages (create packages transport) :=
  ⟨rfl, consistent_initial, announces.initial.symm⟩

/--
Collapsing the announced table sizes keeps the encoder and its peer in agreement.

In every run, each header block announces the smallest and the final one of the sizes assigned since
the block before, all of them changes, and after it the peer's table is the encoder's.
-/
theorem tables_agree (settles : packages.h2.Settles remote) (announces : packages.h2.Announces)
    {state : HTTP2Session κ δ} (waiting : Waiting packages state) :
    Announced state.connection.encoderCalls ∧
    (∀ older block newer, state.connection.encoderCalls = older ++ .encoded block :: newer →
      peerTable (older ++ [.encoded block]) = encoderTable (older ++ [.encoded block])) ∧
    Table.mk state.connection.encoder.entries state.connection.encoder.maxSize =
      encoderTable state.connection.encoderCalls := by
  obtain ⟨-, consistent, -⟩ :=
    waiting.holds (prepared_create announces) (framewise_prepared settles announces).stable
  refine ⟨consistent.announced, fun older block newer cut => ?_, consistent.table⟩
  -- What was announced up to a block is part of what was announced in all.
  have announced := consistent.announced
  rw [cut, ← List.singleton_append, ← List.append_assoc] at announced
  exact peerTable_eq announced.of_append

/-- A response after two changes announces both of them. -/
theorem tables_agree_responded :
    responded.connection.encoderCalls.length = 3 ∧
    (∃ block, responded.connection.encoderCalls =
      [.assigned 256, .assigned 512] ++ [.encoded block] ∧ block.updates = [256, 512] ∧
      peerTable ([.assigned 256, .assigned 512] ++ [.encoded block]) =
        encoderTable ([.assigned 256, .assigned 512] ++ [.encoded block])) := by
  have settles : referencePackages.h2.Settles remoteSetting := reference_settles
  obtain ⟨-, agree, -⟩ := tables_agree settles reference_announces
    run_responded.waiting
  have calls : responded.connection.encoderCalls =
      [.assigned 256, .assigned 512] ++ [.encoded {
        updates := [256, 512]
        fields := literal (ascii ":status", ascii "200") ++
          literal (ascii "content-length", ascii "2")
        inserted := [] }] := by decide +kernel
  exact ⟨by rw [calls]; rfl, _, calls, rfl, agree _ _ [] calls⟩

end SolveTls.HTTP2Session
