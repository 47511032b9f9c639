import SolveTls.Proofs.Http2.SessionDelivery
import SolveTls.Proofs.Http2.SessionFragments

/-! The entries of a SETTINGS frame take effect in wire order, and are acknowledged once. -/

namespace SolveTls.HTTP2Session

open Fallible List SettingsIdentifier Reference HTTP2FrameBuilder

variable {κ δ α : Type} {packages : Packages κ δ} {remote : κ → Nat → Option Nat}
variable {first second entries : List (Nat × Nat)} {before after state delivered : HTTP2Session κ δ}
  {wire shown : Bytes} {items : Dict Nat Nat} {batches : List (Dict Nat Nat)}
  {outcome : Except Exn Unit × HTTP2Session κ δ} {frame : ParsedFrame} {payload : SettingsPayload}

/-! ### Which entries are passed on -/

/-- The table sizes among some entries, in order. -/
def sizesOf (entries : List (Nat × Nat)) : List Nat :=
  (entries.filter fun entry => entry.1 = headerTableSize).map Prod.snd

/-- The table sizes among some entries, without those that are the current size already. -/
def effectiveSizes : (current : Nat) → List (Nat × Nat) → List Nat
  | _, [] => []
  | current, (identifier, value) :: rest =>
    if identifier = headerTableSize ∧ value ≠ current then
      value :: effectiveSizes value rest
    else effectiveSizes current rest

theorem sizesOf_append (entries more : List (Nat × Nat)) :
    sizesOf (entries ++ more) = sizesOf entries ++ sizesOf more := by
  simp [sizesOf]

/-- Unknown identifiers and repeated table sizes are left out; the changes are counted. -/
theorem filterSettings_spec (entries : List (Nat × Nat)) (current : Nat) :
    (filterSettings entries current).1.Sublist entries ∧
    (∀ entry ∈ (filterSettings entries current).1, entry.1 ∈ supportedSettings) ∧
    sizesOf (filterSettings entries current).1 = effectiveSizes current entries ∧
    (filterSettings entries current).2 = (effectiveSizes current entries).length ∧
    ∀ identifier ∈ supportedSettings, identifier ≠ headerTableSize →
      ((filterSettings entries current).1.filter fun entry => entry.1 = identifier) =
        entries.filter fun entry => entry.1 = identifier := by
  induction entries generalizing current with
  | nil => simp [filterSettings, sizesOf, effectiveSizes]
  | cons entry rest ih =>
    obtain ⟨identifier, value⟩ := entry
    by_cases supported : identifier ∈ supportedSettings
    · by_cases size : identifier = headerTableSize
      · by_cases same : value = current
        · -- Assigning the current size is dropped.
          obtain ⟨sub, known, sizes, counted, others⟩ := ih current
          subst size same
          simp only [filterSettings, supported, not_true_eq_false, if_true, if_false,
            effectiveSizes, ne_eq, and_false]
          refine ⟨sub.cons _, known, sizes, counted, fun other among differs => ?_⟩
          simpa [Ne.symm differs] using others other among differs
        · obtain ⟨sub, known, sizes, counted, others⟩ := ih value
          subst size
          simp only [filterSettings, supported, not_true_eq_false, if_true, same, if_false,
            effectiveSizes, ne_eq, not_false_eq_true, and_self]
          refine ⟨sub.cons_cons _, forall_mem_cons.mpr ⟨supported, known⟩, ?_, ?_,
            fun other among differs => ?_⟩
          · rw [← sizes]
            simp [sizesOf]
          · rw [counted, length_cons]
          · simpa [Ne.symm differs] using others other among differs
      · obtain ⟨sub, known, sizes, counted, others⟩ := ih current
        simp only [filterSettings, supported, not_true_eq_false, size, if_false, effectiveSizes,
          false_and]
        refine ⟨sub.cons_cons _, forall_mem_cons.mpr ⟨supported, known⟩, ?_, counted,
          fun other among differs => ?_⟩
        · rw [← sizes]
          simp [sizesOf, size]
        · simp only [filter_cons, others other among differs]
    · -- An unknown identifier is dropped whatever its value.
      obtain ⟨sub, known, sizes, counted, others⟩ := ih current
      have unsized : identifier ≠ headerTableSize := fun equal =>
        supported (equal ▸ by decide)
      simp only [filterSettings, supported, not_false_eq_true, if_true, effectiveSizes, unsized,
        false_and, if_false]
      refine ⟨sub.cons _, known, sizes, counted, fun other among differs => ?_⟩
      have skipped : ¬ identifier = other := fun equal => supported (equal.symm ▸ among)
      simpa [skipped] using others other among differs

/-- The last of the effective sizes is the last size of all, if there is any. -/
theorem last?_effectiveSizes (entries : List (Nat × Nat)) (current : Nat) :
    ((effectiveSizes current entries).getLast?).getD current =
      (Dict.last? entries headerTableSize).getD current := by
  induction entries generalizing current with
  | nil => rfl
  | cons entry rest ih =>
    obtain ⟨identifier, value⟩ := entry
    have tail : (Dict.last? rest headerTableSize).getD value =
        (effectiveSizes value rest).getLast?.getD value := (ih value).symm
    by_cases size : identifier = headerTableSize
    · by_cases same : value = current
      · subst same
        simp only [effectiveSizes, size, ne_eq, not_true_eq_false, and_false, if_false, Dict.last?,
          if_true, ih]
        cases Dict.last? rest headerTableSize <;> rfl
      · simp only [effectiveSizes, size, ne_eq, same, not_false_eq_true, and_self, if_true,
          Dict.last?, List.getLast?_cons, Option.getD_some, ← tail]
        cases Dict.last? rest headerTableSize <;> rfl
    · simp only [effectiveSizes, size, false_and, if_false, Dict.last?, Option.or_none, ih]

/-! ### What the connection makes of them -/

/-- The entries were applied one after another, and their table sizes assigned to the encoder. -/
structure Takes (remote : κ → Nat → Option Nat) (entries : List (Nat × Nat))
    (before after : H2Adapter κ δ) : Prop where
  shape : ∃ core outgoing, after = { before with
    core, outgoing
    encoder := (sizesOf entries).foldl ResponseEncoder.setHeaderTableSize before.encoder
    encoderCalls := before.encoderCalls ++ (sizesOf entries).map .assigned }
  values : ∀ identifier, remote after.core identifier =
    (Dict.last? entries identifier).or (remote before.core identifier)

/-- Settings taken one after another are taken together. -/
theorem Takes.trans {before middle after : H2Adapter κ δ} (took : Takes remote first before middle)
    (takes : Takes remote second middle after) :
    Takes remote (first ++ second) before after := by
  obtain ⟨core, outgoing, rfl⟩ := took.shape
  obtain ⟨core', outgoing', rfl⟩ := takes.shape
  refine ⟨⟨core', outgoing', ?_⟩, fun identifier => ?_⟩
  · simp only [sizesOf_append, foldl_append, map_append, append_assoc]
  · rw [takes.values, took.values, Dict.last?_append, Option.or_assoc]

/-- What is queued has no bearing on it. -/
theorem Takes.drained {before after : H2Adapter κ δ} (took : Takes remote entries before after)
    (outgoing : List WireFrame) :
    Takes remote entries before { after with outgoing } := by
  obtain ⟨core, _, rfl⟩ := took.shape
  exact ⟨⟨core, outgoing, rfl⟩, took.values⟩

/-- The session with a new connection, further pauses behind it, and notes of what was tried. -/
def settling (state : HTTP2Session κ δ) (connection : H2Adapter κ δ) (pauses : List (Option Exn))
    (applied : List (Dict Nat Nat)) (errors : List Nat) : HTTP2Session κ δ :=
  { state with
    connection
    transport := { state.transport with pauses }
    history := { state.history with applied := state.history.applied ++ applied, errors } }

/-- How applying some entries can end in a session that has nothing queued. -/
inductive Settled (remote : κ → Nat → Option Nat) (entries : List (Nat × Nat))
    (state : HTTP2Session κ δ) : Except Exn Unit × HTTP2Session κ δ → Prop where
  | applied {connection : H2Adapter κ δ} {pauses : List (Option Exn)} {batches : List (Dict Nat Nat)}
    (later : pauses <:+ state.transport.pauses) (takes : Takes remote entries state.connection connection)
    (acknowledged : connection.outgoing = [settingsAck]) (whole : batches.flatten = entries)
    (separate : ∀ batch ∈ batches, (batch.map Prod.fst).Nodup) :
    Settled remote entries state
      (.ok (), settling state connection pauses batches state.history.errors)
  | rejected {message : String} {code : Nat} {connection : H2Adapter κ δ}
    {pauses : List (Option Exn)} {batches : List (Dict Nat Nat)} {errors : List Nat}
    (later : pauses <:+ state.transport.pauses)
    (silent : ∀ frame ∈ connection.outgoing, frame.isAck = false) :
    Settled remote entries state
      (.error (.protocolError message code), settling state connection pauses batches errors)
  | interrupted {raised : Exn} {connection : H2Adapter κ δ} {pauses : List (Option Exn)}
    {batches : List (Dict Nat Nat)} (later : pauses <:+ state.transport.pauses)
    (own : (∃ message, raised = .value message) ∨ some raised ∈ state.transport.pauses)
    (drained : connection.outgoing = []) :
    Settled remote entries state
      (.error raised, settling state connection pauses batches state.history.errors)

/-- A SETTINGS frame whose table size, if it has one, is assigned before the call returns. -/
theorem receiveData_assigning {size : Option Nat} {events : List Event} {core : κ}
    {queued : List WireFrame}
    (received : packages.h2.receiveData state.connection.core wire =
      H2.assigning size (.done (.ok events) core queued)) :
    ∃ events, onConnection (H2Adapter.receiveData packages wire) state = (.ok events, { state with
      connection := { state.connection with
        core
        outgoing := state.connection.outgoing ++ queued
        encoder := size.toList.foldl ResponseEncoder.setHeaderTableSize state.connection.encoder
        encoderCalls := state.connection.encoderCalls ++ size.toList.map .assigned } }) := by
  refine ⟨events.map
    (H2Adapter.withOriginalHeaders state.connection.decoder.originalHeaders), ?_⟩
  cases size with
  | none =>
    rw [receiveData_done received]
    simp
  | some size =>
    simp only [onConnection, H2Adapter.receiveData, bind_apply, get_apply, received, H2.assigning,
      H2Adapter.call]
    rfl

/-- A frame that was built is noted and handed to the connection. -/
theorem receiveSettings_built (built : buildSettingsFrame items false = .ok wire)
    (state : HTTP2Session κ δ) :
    receiveSettings packages items state =
      (do let _ ← onConnection (H2Adapter.receiveData packages wire))
        (settling state state.connection state.transport.pauses [items] state.history.errors) := by
  simp only [receiveSettings, built, liftBuilder, bind_apply, fromExcept, pure_apply, modify_apply]
  rfl

/-- One SETTINGS frame with distinct identifiers. -/
theorem receiveSettings_settled (settles : packages.h2.Settles remote)
    (distinct : (items.map Prod.fst).Nodup)
    (bounded : ∀ item ∈ items, item.1 < 2 ^ 16 ∧ item.2 < 2 ^ 32) (quiet : Quiet state) :
    Settled remote items state (receiveSettings packages items state) := by
  cases built : buildSettingsFrame items false with
  | error fault =>
    -- The frame would be too long to build.
    obtain ⟨message, rfl⟩ := buildSettingsFrame_error bounded built
    have ran : receiveSettings packages items state = (.error (.value message), state) := by
      simp only [receiveSettings, built, liftBuilder, bind_apply, fromExcept]
      rfl
    rw [ran]
    have same : state = settling state state.connection state.transport.pauses []
        state.history.errors := by simp [settling]
    nth_rewrite 2 [same]
    exact .interrupted (suffix_refl _) (.inl ⟨message, rfl⟩) quiet
  | ok wire =>
    let noted := settling state state.connection state.transport.pauses [items]
      state.history.errors
    rw [receiveSettings_built built]
    rcases settles.receives state.connection.core items wire distinct bounded built with
      ⟨events, core, received, values⟩ | ends
    · -- The frame is applied: its sizes are assigned, and one acknowledgment is queued.
      let connection : H2Adapter κ δ := { state.connection with
        core
        outgoing := state.connection.outgoing ++ [settingsAck]
        encoder := (sizesOf items).foldl ResponseEncoder.setHeaderTableSize state.connection.encoder
        encoderCalls := state.connection.encoderCalls ++ (sizesOf items).map .assigned }
      have takes : Takes remote items state.connection connection := by
        refine ⟨⟨core, _, rfl⟩, fun identifier => ?_⟩
        rw [← Dict.get?_eq_last? distinct]
        exact values identifier
      have received' : packages.h2.receiveData noted.connection.core wire =
        H2.assigning (items.get? headerTableSize)
          (.done (.ok events) core [settingsAck]) := received
      obtain ⟨_, ran⟩ := receiveData_assigning received'
      have returned : (do let _ ← onConnection (H2Adapter.receiveData packages wire)) noted =
          (.ok (), settling state connection state.transport.pauses [items]
            state.history.errors) := by
        simp only [bind_apply, ran, pure_apply, connection, sizesOf,
          Dict.filter_eq_toList distinct]
        rfl
      rw [returned]
      refine .applied (suffix_refl _) takes ?_ (flatten_singleton ..)
        fun batch among => mem_singleton.mp among ▸ distinct
      show state.connection.outgoing ++ [settingsAck] = [settingsAck]
      rw [quiet, nil_append]
    · -- The frame is refused: an error is raised, and what is queued acknowledges nothing.
      obtain ⟨result, core, queued, decoder, encoder, calls, ⟨⟨message, code, rfl⟩, -, silent⟩, ran⟩ :=
        receiveData_ends noted ends
      have raised : ∃ connection errors,
          (do let _ ← onConnection (H2Adapter.receiveData packages wire)) noted =
            (.error (.protocolError message code),
              settling state connection state.transport.pauses [items] errors) ∧
          connection.outgoing = state.connection.outgoing ++ queued := by
        simp only [bind_apply, ran, Except.map]
        exact ⟨_, _, rfl, rfl⟩
      obtain ⟨connection, errors, raised, queuing⟩ := raised
      rw [raised]
      refine .rejected (suffix_refl _) fun frame among => ?_
      rw [queuing, quiet, nil_append] at among
      exact silent frame among

theorem settling_settling (state : HTTP2Session κ δ) (first second : H2Adapter κ δ)
    (pauses pauses' : List (Option Exn)) (batches more : List (Dict Nat Nat))
    (errors errors' : List Nat) :
    settling (settling state first pauses batches errors) second pauses' more errors' =
      settling state second pauses' (batches ++ more) errors' := by
  simp [settling]

/-- Further entries are applied to what the earlier ones led to. -/
theorem Settled.continued {connection : H2Adapter κ δ} {pauses : List (Option Exn)}
    (later : pauses <:+ state.transport.pauses)
    (took : Takes remote first state.connection connection) (whole : batches.flatten = first)
    (separate : ∀ batch ∈ batches, (batch.map Prod.fst).Nodup)
    (settled : Settled remote second
      (settling state connection pauses batches state.history.errors) outcome) :
    Settled remote (first ++ second) state outcome := by
  cases settled with
  | applied later' takes acknowledged whole' separate' =>
    rw [settling_settling]
    refine .applied (later'.trans later) (took.trans takes) acknowledged
      (by rw [flatten_append, whole, whole']) fun batch among => ?_
    exact (mem_append.mp among).elim (separate batch) (separate' batch)
  | rejected later' silent =>
    rw [settling_settling]
    exact .rejected (later'.trans later) silent
  | interrupted later' own drained =>
    rw [settling_settling]
    exact .interrupted (later'.trans later) (own.imp_right fun among => later.subset among) drained

/-- A pause either passes or raises what its script says. -/
theorem pause_cases (state : HTTP2Session κ δ) :
    pause state = (.ok (), { state with
      transport := { state.transport with pauses := state.transport.pauses.tail } }) ∨
    ∃ raised, some raised ∈ state.transport.pauses ∧
      pause state = (.error raised, { state with
        transport := { state.transport with pauses := state.transport.pauses.tail } }) := by
  unfold pause
  cases script : state.transport.pauses with
  | nil => exact .inl rfl
  | cons outcome rest =>
    cases outcome with
    | none => exact .inl rfl
    | some raised => exact .inr ⟨raised, mem_cons_self .., rfl⟩

/-- The only frame queued is the acknowledgment the replay looks for. -/
theorem serialize_settingsAck :
    .ok (serializeAll [settingsAck]) = buildSettingsFrame [] true := by decide

/-- An entry that was answered with its acknowledgment alone is followed by the next one. -/
theorem replaySettings_continues {entry next : Nat × Nat} {rest : List (Nat × Nat)}
    {received : HTTP2Session κ δ}
    (ran : receiveSettings packages [entry] state = (.ok (), received))
    (acknowledged : received.connection.outgoing = [settingsAck]) (index : Nat) :
    replaySettings packages (entry :: next :: rest) index state =
      (do
        runWhen ((index + 1) % settingsBatchSize = 0) pause
        replaySettings packages (next :: rest) (index + 1))
        { received with connection := { received.connection with outgoing := [] } } := by
  have expected : ¬ (.ok (serializeAll received.connection.outgoing) ≠
      buildSettingsFrame [] true) := by
    rw [acknowledged]
    exact not_not.mpr serialize_settingsAck
  simp only [replaySettings, bind_apply, ran, drain_apply, raiseIf_neg expected, pure_apply]

/-- Entries replayed one at a time. -/
theorem replaySettings_settled (settles : packages.h2.Settles remote) (nonempty : entries ≠ [])
    (bounded : ∀ entry ∈ entries, entry.1 < 2 ^ 16 ∧ entry.2 < 2 ^ 32) (index : Nat)
    (quiet : Quiet state) :
    Settled remote entries state (replaySettings packages entries index state) := by
  -- The induction is on the entries; all but the last have their acknowledgment taken back.
  induction entries generalizing index state with
  | nil => exact absurd rfl nonempty
  | cons entry rest ih =>
    have alone : ([entry].map Prod.fst).Nodup := nodup_singleton _
    have single := receiveSettings_settled settles alone
      (fun item among => bounded item (mem_singleton.mp among ▸ mem_cons_self ..)) quiet
    cases rest with
    | nil => exact single
    | cons next rest =>
      generalize ran : receiveSettings packages [entry] state = outcome at single
      cases single with
      | rejected later silent =>
        simp only [replaySettings, bind_apply, ran]
        exact .rejected later silent
      | interrupted later own drained =>
        simp only [replaySettings, bind_apply, ran]
        exact .interrupted later own drained
      | @applied connection pauses batches later takes acknowledged whole separate =>
        let drained := settling state { connection with outgoing := [] } pauses batches
          state.history.errors
        have took := takes.drained []
        have rest_settled := fun (pauses' : List (Option Exn)) (later' : pauses' <:+ pauses) =>
          Settled.continued (later'.trans later) took whole separate
            (ih (cons_ne_nil _ _)
              (fun item among => bounded item (mem_cons_of_mem _ among)) (index + 1)
              (show Quiet (settling state { connection with outgoing := [] } pauses' batches
                state.history.errors) from rfl))
        rw [replaySettings_continues ran acknowledged]
        show Settled remote _ state ((do
          runWhen ((index + 1) % settingsBatchSize = 0) pause
          replaySettings packages (next :: rest) (index + 1)) drained)
        by_cases batched : (index + 1) % settingsBatchSize = 0
        · rw [bind_apply, runWhen_pos batched]
          rcases pause_cases drained with paused | ⟨raised, scripted, paused⟩
          · rw [paused]
            exact rest_settled pauses.tail (tail_suffix _)
          · rw [paused]
            exact .interrupted ((tail_suffix _).trans later)
              (.inr (later.subset scripted)) rfl
        · rw [bind_apply, runWhen_neg batched]
          exact rest_settled pauses (suffix_refl _)

/-- The session with another count of table size changes. -/
def counting (state : HTTP2Session κ δ) (changes : Nat) : HTTP2Session κ δ :=
  { state with connection := { state.connection with headerTableSizeChanges := changes } }

/-- The entries of one SETTINGS frame, by either of the two ways. -/
theorem applySettings_settled (settles : packages.h2.Settles remote)
    (bounded : ∀ entry ∈ entries, entry.1 < 2 ^ 16 ∧ entry.2 < 2 ^ 32) (quiet : Quiet state) :
    ∃ changes, Settled remote
      (filterSettings entries (packages.h2.remoteHeaderTableSize state.connection.core)).1
      (counting state changes) (applySettings packages entries state) := by
  obtain ⟨sub, -⟩ := filterSettings_spec entries
    (packages.h2.remoteHeaderTableSize state.connection.core)
  generalize filtered : filterSettings entries
    (packages.h2.remoteHeaderTableSize state.connection.core) = result at sub
  obtain ⟨working, tableChanges⟩ := result
  dsimp only at sub ⊢
  have bounded' : ∀ entry ∈ working, entry.1 < 2 ^ 16 ∧ entry.2 < 2 ^ 32 := fun entry among =>
    bounded entry (sub.subset among)
  by_cases excessive :
    state.connection.headerTableSizeChanges + tableChanges > maxHeaderTableSizeChanges
  · -- Too many changes: the connection is closed, which acknowledges nothing.
    refine ⟨state.connection.headerTableSizeChanges, ?_⟩
    let goaway : H2 κ → κ → H2Call κ Unit := fun h2 core =>
      h2.closeConnection core ErrorCode.enhanceYourCalm.code none
    obtain ⟨core, queued, decoder, encoder, calls, ⟨returned, silent⟩, shape⟩ :=
      callH2_ends goaway state
        (settles.closes state.connection.core ErrorCode.enhanceYourCalm.code none)
    rw [returned] at shape
    have closed : callH2 packages goaway state = (.ok (), (callH2 packages goaway state).2) :=
      Prod.ext returned rfl
    have raised : ∃ connection errors, applySettings packages entries state =
        (.error (.protocolError "HTTP/2 header table update limit exceeded"
          ErrorCode.enhanceYourCalm.code),
          settling (counting state state.connection.headerTableSizeChanges) connection
            state.transport.pauses [] errors) ∧
        connection.outgoing = state.connection.outgoing ++ queued := by
      rw [shape] at closed
      simp only [applySettings, bind_apply, get_apply, filtered, if_pos excessive, closed, goaway]
      simp only [recordError, modify_apply, throw_apply, settling, counting, append_nil]
      exact ⟨_, _, rfl, rfl⟩
    obtain ⟨connection, errors, raised, queuing⟩ := raised
    rw [raised]
    refine .rejected (suffix_refl _) fun frame among => ?_
    rw [queuing, quiet, nil_append] at among
    exact silent frame among
  · refine ⟨state.connection.headerTableSizeChanges + tableChanges, ?_⟩
    have continues : applySettings packages entries state =
        (if working.length = (Dict.ofItems working).length then
          receiveSettings packages (Dict.ofItems working)
        else replaySettings packages working 0)
          (counting state (state.connection.headerTableSizeChanges + tableChanges)) := by
      simp only [applySettings, bind_apply, get_apply, filtered, if_neg excessive]
      rfl
    rw [continues]
    by_cases distinct : working.length = (Dict.ofItems working).length
    · rw [if_pos distinct]
      obtain ⟨whole, nodup⟩ := Dict.ofItems_eq_self distinct
      rw [whole]
      exact receiveSettings_settled settles nodup bounded' quiet
    · rw [if_neg distinct]
      have nonempty : working ≠ [] := by
        rintro rfl
        exact distinct rfl
      exact replaySettings_settled settles nonempty bounded' 0 quiet

/-! ### When a frame begins to be processed -/

/-- Whenever a session waits, everything it queued has been sent. -/
theorem framewise_quiet (settles : packages.h2.Settles remote) : Framewise packages Quiet where
  begins quiet := quiet
  closes quiet := quiet
  reads quiet := quiet
  buffers _ _ _ quiet := quiet
  flushes ran _ := quiet_flush.reached ran
  exchanges _ _ _ ran _ := exchange_quiet ran
  prefaced {before after events} ran quiet := by
    obtain ⟨result, core, queued, decoder, encoder, calls, silent, received⟩ :=
      receiveData_ends before (settles.prefaced before.connection.core)
    rw [ran] at received
    obtain ⟨returned, rfl⟩ := Prod.mk.inj received
    -- The call returned, so the law says that nothing was queued.
    cases result with
    | error raised => cases returned
    | ok events =>
      show before.connection.outgoing ++ queued = []
      rw [quiet, silent ⟨events, rfl⟩, nil_append]
  processes captured ran quiet := quiet_processFrame captured ran quiet

/-- Every frame was read from its octets, and nothing was queued when its processing began. -/
structure Orderly (session : HTTP2Session κ δ) : Prop where
  idle : session.history.idle = true
  captured : ∀ item ∈ session.history.processed, HTTP2FrameReader.Captured item.2 item.1

/-- A received frame was read from its octets. -/
theorem Orderly.received (received : Received wire before after) (quiet : Quiet before)
    (orderly : Orderly before) : Orderly after := by
  rcases received.noted with ⟨processed, idle⟩ | ⟨frame, captured, processed, idle⟩
  · exact ⟨idle.trans orderly.idle, by rw [processed]; exact orderly.captured⟩
  · refine ⟨?_, fun item among => ?_⟩
    · rw [idle, orderly.idle, quiet]
      rfl
    · rw [processed] at among
      rcases mem_append.mp among with older | newest
      · exact orderly.captured item older
      · rw [mem_singleton.mp newest]
        exact captured

theorem Orderly.outbound (same : Outbound before after) (orderly : Orderly before) :
    Orderly after := by
  obtain ⟨⟨connection, transport, closed, applied, errors, rfl⟩, -⟩ := same
  exact ⟨orderly.idle, orderly.captured⟩

/-- Wherever a chunk ends, its frames are in order. -/
theorem orderly_receive {data : Bytes} (quiet : Quiet state) (orderly : Orderly state) :
    Orderly (receive packages data state).2 := by
  let both : HTTP2Session κ δ → Prop := fun session => Quiet session ∧ Orderly session
  have covers : (Exits.keeping both fun _ => Orderly).Covers (receive packages data) := by
    refine receive_keeping (fun _ _ _ held => ⟨held.1, held.2.idle, held.2.captured⟩)
      (fun held => held.2) Orderly.outbound (fun ran held => ?_)
      (fun {wire maximum} framed fits before => ?_) data
    · exact ⟨quiet_flush.reached ran, held.2.outbound (outbound_flush.reached ran)⟩
    · have received : Within (Received wire) (receiveFrame packages wire maximum) :=
        receiveFrame_received framed fits
      constructor
      · intro value after ran held
        obtain ⟨frame, captured, processed⟩ := receiveFrame_ok framed fits ran
        exact ⟨quiet_processFrame captured processed held.1,
          held.2.received (received.reached ran) held.1⟩
      · intro raised after ran held
        exact held.2.received (received.reached ran) held.1
  exact (covers state).ends (fun held => held.2) ⟨quiet, orderly⟩

/-- A session that waits has kept its frames in order, and will not lose that in any chunk. -/
theorem Waiting.orderly (settles : packages.h2.Settles remote) (waiting : Waiting packages state)
    (data : Bytes) :
    Orderly (receive packages data state).2 := by
  have quiet := (framewise_quiet settles).stable
  have stable : Stable packages fun session => Quiet session ∧ Orderly session := by
    refine ⟨⟨?_, ?_, ?_, ?_, ?_, ?_⟩, ?_⟩
    · exact fun held => ⟨held.1, held.2.idle, held.2.captured⟩
    · exact fun held => ⟨held.1, held.2.idle, held.2.captured⟩
    · exact fun held => ⟨held.1, held.2.idle, held.2.captured⟩
    · exact fun ran held => ⟨quiet.flushes ran held.1,
        held.2.outbound (outbound_flush.reached ran)⟩
    · exact fun outcall _ _ ran held => ⟨quiet.exchanges outcall ran held.1,
        held.2.outbound ((outbound.within_bind (outbound_callH2 _) fun _ => outbound_flush).reached
          ran)⟩
    · exact fun ran held => ⟨quiet.prefaced ran held.1,
        held.2.outbound ((outbound_onConnection _).reached ran)⟩
    · intro data before after ran held
      have kept : Orderly (receive packages data before).2 := orderly_receive held.1 held.2
      rw [ran] at kept
      exact ⟨quiet.receives ran held.1, kept⟩
  have created : ∀ transport, Quiet (create packages transport) ∧
      Orderly (create packages transport) := fun _ => ⟨rfl, rfl, fun _ among => by cases among⟩
  obtain ⟨quiet, orderly⟩ := waiting.holds created stable
  exact orderly_receive quiet orderly

/-! ### What is written, and what is raised -/

/-- The transport or the event loop has this error in store. -/
def Raises (transport : Transport) (raised : Exn) : Prop :=
  some raised ∈ transport.pauses ∨
    ∃ outcome ∈ transport.writes ++ transport.rejections,
      outcome = .sentThenRaised raised ∨ outcome = .refused raised

/-- Some of these frames were handed over, all at once, and nothing else has happened. -/
structure Hands (frames : List WireFrame) (before : HTTP2Session κ δ)
    (outcome : Except Exn Unit × HTTP2Session κ δ) : Prop where
  written : outcome.2.transport.written = before.transport.written ∨
    outcome.2.transport.written = before.transport.written ++ [frames]
  pauses : outcome.2.transport.pauses = before.transport.pauses
  history : outcome.2.history = before.history
  raises : ∀ raised, outcome.1 = .error raised → Raises before.transport raised

theorem hands_nothing (state : HTTP2Session κ δ) (frames : List WireFrame) :
    Hands frames state (.ok (), state) :=
  ⟨.inl rfl, rfl, rfl, fun _ failed => by cases failed⟩

theorem mem_of_headD {outcomes : List WriteOutcome} {outcome : WriteOutcome}
    (head : outcomes.headD .sent = outcome) (eventful : outcome ≠ .sent) : outcome ∈ outcomes := by
  cases outcomes with
  | nil => exact absurd head.symm eventful
  | cons first rest =>
    obtain rfl : first = outcome := head
    exact mem_cons_self ..

/-- A write ends as its script says: sent, sent with an error, or refused. -/
theorem hands_handOver (frames : List WireFrame) (state : HTTP2Session κ δ)
    {script : List WriteOutcome}
    (stored : ∀ outcome ∈ script, outcome ∈ state.transport.writes ++ state.transport.rejections)
    (writes rejections rejected : List WriteOutcome) :
    Hands frames state (handOver (script.headD .sent) frames
      { state with transport := { state.transport with writes, rejections, rejected } }) := by
  cases scripted : script.headD .sent with
  | sent => exact ⟨.inr rfl, rfl, rfl, fun _ failed => by cases failed⟩
  | sentThenRaised raised =>
    refine ⟨.inr rfl, rfl, rfl, fun _ failed => .inr ⟨_, stored _ (mem_of_headD scripted
      fun same => by cases same), .inl ?_⟩⟩
    rw [Except.error.inj failed]
  | refused raised =>
    refine ⟨.inl rfl, rfl, rfl, fun _ failed => .inr ⟨_, stored _ (mem_of_headD scripted
      fun same => by cases same), .inr ?_⟩⟩
    rw [Except.error.inj failed]

theorem hands_transportWrite (frames : List WireFrame) (state : HTTP2Session κ δ) :
    Hands frames state (transportWrite frames state) :=
  hands_handOver frames state (fun _ => mem_append_left _) _ _ _

theorem hands_transportReject (frames : List WireFrame) (state : HTTP2Session κ δ) :
    Hands frames state (transportReject frames state) :=
  hands_handOver frames state (fun _ => mem_append_right _) _ _ _

/-- Flushing hands over what is queued. -/
theorem hands_flush (state : HTTP2Session κ δ) :
    Hands state.connection.outgoing state (flush state) := by
  let drained : HTTP2Session κ δ :=
    { state with connection := { state.connection with outgoing := [] } }
  rw [flush_eq]
  by_cases queued : state.connection.outgoing ≠ []
  · rw [runWhen_pos queued]
    obtain ⟨written, pauses, history, raises⟩ :=
      hands_transportWrite state.connection.outgoing drained
    exact ⟨written, pauses, history, raises⟩
  · rw [runWhen_neg queued]
    exact ⟨.inl rfl, rfl, rfl, fun _ failed => by cases failed⟩

/-- The handler passes an error on, after handing over what is queued for a protocol error. -/
theorem hands_handleProtocolError (raised : Exn) (state : HTTP2Session κ δ) :
    ∃ error after, handleProtocolError raised state = (.error error, after) ∧
      (error = raised ∨ Raises state.transport error) ∧
      Hands state.connection.outgoing state (.ok (), after) := by
  cases raised with
  | protocolError message code =>
    by_cases closed : state.closed = true
    · refine ⟨_, state, ?_, .inl rfl, hands_nothing _ _⟩
      simp only [handleProtocolError, bind_apply, get_apply, runWhen_neg (not_not.mpr closed),
        pure_apply, throw_apply]
    · let drained : HTTP2Session κ δ :=
        { state with connection := { state.connection with outgoing := [] } }
      by_cases queued : state.connection.outgoing ≠ []
      · have hands := hands_transportReject state.connection.outgoing drained
        simp only [handleProtocolError, bind_apply, get_apply, runWhen_pos closed, drain_apply,
          runWhen_pos queued]
        generalize transportReject state.connection.outgoing drained = outcome at hands
        obtain ⟨result, after⟩ := outcome
        obtain ⟨written, pauses, history, raises⟩ := hands
        cases result with
        | ok value => exact ⟨_, _, rfl, .inl rfl, written, pauses, history, by intros; contradiction⟩
        | error error =>
          exact ⟨_, _, rfl, .inr (raises error rfl), written, pauses, history,
            by intros; contradiction⟩
      · simp only [handleProtocolError, bind_apply, get_apply, runWhen_pos closed, drain_apply,
          runWhen_neg queued, pure_apply, throw_apply]
        exact ⟨_, _, rfl, .inl rfl, .inl rfl, rfl, rfl, by intros; contradiction⟩
  | _ => exact ⟨_, state, rfl, .inl rfl, hands_nothing _ _⟩

/-- Sending that returned has handed over everything that was queued. -/
theorem flush_written (ran : flush state = (.ok (), after))
    (queued : state.connection.outgoing ≠ []) :
    after.transport.written = state.transport.written ++ [state.connection.outgoing] := by
  rw [flush_eq, runWhen_pos queued] at ran
  simp only [transportWrite, handOver] at ran
  cases script : state.transport.writes.headD .sent <;> rw [script] at ran
  -- Only a write that was sent returns.
  case sent =>
    obtain ⟨-, rfl⟩ := Prod.mk.inj ran
    rfl
  all_goals cases ran

/-- Nothing written in between acknowledges a SETTINGS frame. -/
def Unacknowledged (before after : HTTP2Session κ δ) : Prop :=
  ∃ batches, after.transport.written = before.transport.written ++ batches ∧
    ∀ batch ∈ batches, ∀ frame ∈ batch, WireFrame.isAck frame = false

theorem Hands.unacknowledged {frames : List WireFrame} (hands : Hands frames before outcome)
    (silent : ∀ frame ∈ frames, frame.isAck = false) : Unacknowledged before outcome.2 := by
  rcases hands.written with same | sent
  · exact ⟨[], by rw [same, append_nil], by intros; contradiction⟩
  · refine ⟨[frames], sent, fun batch among => ?_⟩
    rw [mem_singleton.mp among]
    exact silent

/-- Failing writes a GOAWAY at most, and raises the failure or an error of the transport. -/
theorem fail_silent (settles : packages.h2.Settles remote) (quiet : Quiet state) (message : String)
    (code : Nat) :
    ∃ raised after, (fail packages message code : SessionM κ δ α) state = (.error raised, after) ∧
      Unacknowledged state after ∧
      (raised = .protocolError message code ∨ Raises state.transport raised) := by
  let noted : HTTP2Session κ δ := { state with
    history := { state.history with
      errors := state.history.errors ++ [state.transport.written.length] } }
  -- The frames queued when the GOAWAY is sent: none, or those of closing.
  have closes : ∃ closing : HTTP2Session κ δ, close packages code noted = flush closing ∧
      closing.transport = state.transport ∧
      ∀ frame ∈ closing.connection.outgoing, frame.isAck = false := by
    cases closed : noted.closed with
    | true =>
      refine ⟨noted, close_closed closed code, rfl, ?_⟩
      rw [show noted.connection.outgoing = [] from quiet]
      intro frame among
      cases among
    | false =>
      obtain ⟨core, queued, decoder, encoder, calls, ⟨returned, silent⟩, shape⟩ :=
        callH2_ends (noted.closing code) noted (settles.closes state.connection.core code _)
      let called := (callH2 packages (noted.closing code) noted).2
      have transport : called.transport = state.transport :=
        (congrArg HTTP2Session.transport shape :)
      have queuing : called.connection.outgoing = state.connection.outgoing ++ queued :=
        (congrArg (fun session => session.connection.outgoing) shape :)
      refine ⟨{ called with closed := true }, close_opened closed (Prod.ext returned rfl),
        transport, fun frame among => ?_⟩
      have among' : frame ∈ called.connection.outgoing := among
      rw [queuing, quiet, nil_append] at among'
      exact silent frame among'
  obtain ⟨closing, ran, transport, silent⟩ := closes
  have hands := hands_flush closing
  have failing : (fail packages message code : SessionM κ δ α) state =
      (do close packages code; throw (.protocolError message code) : SessionM κ δ α) noted := rfl
  rw [failing, bind_apply, ran]
  generalize flush closing = outcome at hands
  obtain ⟨result, after⟩ := outcome
  obtain ⟨batches, written, none⟩ := hands.unacknowledged silent
  rw [transport] at written
  cases result with
  | ok value => exact ⟨_, _, rfl, ⟨batches, written, none⟩, .inl rfl⟩
  | error raised =>
    have scripted := hands.raises raised rfl
    rw [transport] at scripted
    exact ⟨_, _, rfl, ⟨batches, written, none⟩, .inr scripted⟩

/-! ### One SETTINGS frame -/

/-- The entries of a frame have taken effect in wire order, and one acknowledgment was sent. -/
structure AppliedInOrder (packages : Packages κ δ) (remote : κ → Nat → Option Nat)
    (entries : List (Nat × Nat)) (before after : HTTP2Session κ δ) : Prop where
  /-- The last value of a supported identifier counts. -/
  values : ∀ identifier ∈ supportedSettings, remote after.connection.core identifier =
    (Dict.last? entries identifier).or (remote before.connection.core identifier)
  unknown : ∀ identifier ∉ supportedSettings,
    remote after.connection.core identifier = remote before.connection.core identifier
  /-- The library was handed every value of every identifier, in order and without collisions. -/
  order : ∃ batches : List (Dict Nat Nat),
    after.history.applied = before.history.applied ++ batches ∧
    (∀ batch ∈ batches, (batch.map Prod.fst).Nodup) ∧
    (∀ entry ∈ batches.flatten, entry.1 ∈ supportedSettings) ∧
    (∀ identifier ∈ supportedSettings, identifier ≠ headerTableSize →
      (batches.flatten.filter fun entry => entry.1 = identifier) =
        entries.filter fun entry => entry.1 = identifier) ∧
    sizesOf batches.flatten =
      effectiveSizes (packages.h2.remoteHeaderTableSize before.connection.core) entries
  /-- The encoder was assigned the table sizes that made a difference. -/
  encoder : after.connection.encoderCalls = before.connection.encoderCalls ++
    (effectiveSizes (packages.h2.remoteHeaderTableSize before.connection.core) entries).map .assigned
  acknowledged : after.transport.written = before.transport.written ++ [[settingsAck]]

/-- Raised when a replayed entry is not answered with an acknowledgment alone. -/
def unexpectedResponse : Exn := .other "Unexpected response while applying SETTINGS"

/-- What may become of a frame with these entries. -/
structure Answered (packages : Packages κ δ) (remote : κ → Nat → Option Nat)
    (entries : List (Nat × Nat)) (before : HTTP2Session κ δ)
    (outcome : Except Exn Unit × HTTP2Session κ δ) : Prop where
  applied : outcome.1 = .ok () → AppliedInOrder packages remote entries before outcome.2
  /-- A protocol error that came up leaves the frame without acknowledgment. -/
  rejected : outcome.2.history.errors ≠ before.history.errors → Unacknowledged before outcome.2
  /-- Only the transport or the event loop could raise this error. -/
  expected : outcome.1 = .error unexpectedResponse → Raises before.transport unexpectedResponse

/-- Entries the filter let through settle what the frame asked for. -/
theorem appliedInOrder_of_takes (settles : packages.h2.Settles remote) (connection : H2Adapter κ δ)
    (core : before.connection.core = connection.core)
    (calls : before.connection.encoderCalls = connection.encoderCalls)
    (takes : Takes remote
      (filterSettings entries (packages.h2.remoteHeaderTableSize connection.core)).1
      connection after.connection) (separate : ∀ batch ∈ batches, (batch.map Prod.fst).Nodup)
    (whole : batches.flatten =
      (filterSettings entries (packages.h2.remoteHeaderTableSize connection.core)).1)
    (noted : after.history.applied = before.history.applied ++ batches)
    (acknowledged : after.transport.written = before.transport.written ++ [[settingsAck]]) :
    AppliedInOrder packages remote entries before after := by
  obtain ⟨sub, known, sizes, -, others⟩ := filterSettings_spec entries
    (packages.h2.remoteHeaderTableSize connection.core)
  obtain ⟨core', outgoing, shape⟩ := takes.shape
  refine ⟨fun identifier supported => ?_, fun identifier unsupported => ?_, ?_, ?_, acknowledged⟩
  · rw [takes.values, core]
    by_cases size : identifier = headerTableSize
    · subst size
      -- Dropping sizes that change nothing does not change the last one.
      have last := last?_effectiveSizes entries (packages.h2.remoteHeaderTableSize connection.core)
      rw [← sizes, sizesOf, ← Dict.last?_eq_getLast?] at last
      rw [settles.tableSize, Option.or_some, Option.or_some, last]
    · rw [← Dict.last?_filter, others identifier supported size, Dict.last?_filter]
  · have absent : ∀ entry ∈ (filterSettings entries
        (packages.h2.remoteHeaderTableSize connection.core)).1, entry.1 ≠ identifier :=
      fun entry among equal => unsupported (equal ▸ known entry among)
    rw [takes.values, core, Dict.last?_eq_none absent, Option.none_or]
  · exact ⟨batches, noted, separate, whole ▸ known,
      fun identifier supported unsized => whole ▸ others identifier supported unsized,
      by rw [whole, sizes, core]⟩
  · rw [shape, calls, sizes, core]

/-- After a delivery that returned, the output is sent. -/
theorem deliverFrame_returned (rebuilt : wireForH2 frame wire = .ok shown)
    (ran : deliver packages frame shown state = (.ok (), delivered)) :
    deliverFrame packages frame wire state =
      (do flush; runWhen (asksForAck frame) pause) delivered := by
  simp only [deliverFrame, rebuilt, fromExcept, bind_apply, pure_apply, tryCatch_apply, ran]

/-- After one that raised, the handler has the last word. -/
theorem deliverFrame_raised {raised : Exn} (rebuilt : wireForH2 frame wire = .ok shown)
    (ran : deliver packages frame shown state = (.error raised, delivered)) :
    deliverFrame packages frame wire state = handleProtocolError raised delivered := by
  obtain ⟨error, after, handled, -⟩ := hands_handleProtocolError raised delivered
  simp only [deliverFrame, rebuilt, fromExcept, bind_apply, pure_apply, tryCatch_apply, ran, handled]

/-- A frame that ends in an error is answered if the error is accounted for. -/
theorem Answered.failed {raised : Exn}
    (rejected : after.history.errors ≠ before.history.errors → Unacknowledged before after)
    (cause : raised ≠ unexpectedResponse ∨ Raises before.transport raised) :
    Answered packages remote entries before (.error raised, after) := by
  refine ⟨(by intros; contradiction), rejected, fun unexpected => ?_⟩
  rw [← Except.error.inj unexpected]
  rcases cause with other | stored
  · exact absurd (Except.error.inj unexpected) other
  · exact stored

section Applying

variable {connection : H2Adapter κ δ} {pauses : List (Option Exn)} {handed : List Handed}
  {changes : Nat} (later : pauses <:+ state.transport.pauses)

include later

/-- Entries that were applied are acknowledged, unless sending or the pause behind it fails. -/
theorem flush_answered (settles : packages.h2.Settles remote)
    (takes : Takes remote
      (filterSettings entries (packages.h2.remoteHeaderTableSize state.connection.core)).1
      (counting (handing state handed) changes).connection connection)
    (acknowledged : connection.outgoing = [settingsAck])
    (whole : batches.flatten =
      (filterSettings entries (packages.h2.remoteHeaderTableSize state.connection.core)).1)
    (separate : ∀ batch ∈ batches, (batch.map Prod.fst).Nodup) :
    Answered packages remote entries state ((do flush; pause) (settling
      (counting (handing state handed) changes) connection pauses batches state.history.errors)) := by
  generalize begins : settling (counting (handing state handed) changes) connection pauses batches
    state.history.errors = settled
  have queued : settled.connection.outgoing = [settingsAck] := by
    rw [← begins]
    exact acknowledged
  have hands := hands_flush settled
  rw [bind_apply]
  generalize flushed : flush settled = outcome at hands
  obtain ⟨result, sent⟩ := outcome
  -- No protocol error has come up in between.
  have same : sent.history.errors = state.history.errors := by
    rw [show sent.history = settled.history from hands.history, ← begins]
    rfl
  cases result with
  | error raised =>
    have stored := hands.raises raised rfl
    rw [← begins] at stored
    exact .failed (fun came => absurd same came) (.inr (stored.imp (later.subset ·) id))
  | ok value =>
    show Answered packages remote entries state (pause sent)
    rcases pause_cases sent with paused | ⟨raised, scripted, paused⟩
    · rw [paused]
      refine ⟨fun _ => ?_, fun came => absurd same came, by intros; contradiction⟩
      have drained := flush_connection settled
      have written := flush_written flushed (by rw [queued]; exact cons_ne_nil _ _)
      rw [flushed] at drained
      rw [queued] at written
      have applied := congrArg History.applied hands.history
      subst begins
      have reached : sent.connection = { connection with outgoing := [] } := drained
      have took := takes.drained []
      rw [← reached] at took
      exact appliedInOrder_of_takes settles (counting (handing state handed) changes).connection rfl
        rfl took separate whole applied written
    · rw [paused]
      rw [show sent.transport.pauses = settled.transport.pauses from hands.pauses, ← begins] at scripted
      exact .failed (fun came => absurd same came) (.inr (.inl (later.subset scripted)))

/-- Errors of applying go through the handler, which sends what is queued and passes them on. -/
theorem handleProtocolError_answered {raised : Exn} {errors : List Nat}
    (silent : errors ≠ state.history.errors → ∀ frame ∈ connection.outgoing, frame.isAck = false)
    (cause : raised ≠ unexpectedResponse ∨ Raises state.transport raised) :
    Answered packages remote entries state (handleProtocolError raised (settling
      (counting (handing state handed) changes) connection pauses batches errors)) := by
  obtain ⟨error, after, handled, came, hands⟩ := hands_handleProtocolError raised
    (settling (counting (handing state handed) changes) connection pauses batches errors)
  rw [handled]
  refine .failed (fun noted => hands.unacknowledged (silent fun same => noted ?_)) ?_
  · exact (congrArg History.errors hands.history).trans same
  · rcases came with rfl | stored
    · exact cause
    · exact .inr (stored.imp (later.subset ·) id)

end Applying

/-- Delivering a SETTINGS frame that asks for an acknowledgment. -/
theorem deliverFrame_answered (settles : packages.h2.Settles remote)
    (kind : frame.header.kind = some .settings) (decoded : frame.payload = .settings payload)
    (asks : payload.ack = false)
    (bounded : ∀ entry ∈ payload.entries, entry.1 < 2 ^ 16 ∧ entry.2 < 2 ^ 32)
    (quiet : Quiet state) :
    Answered packages remote payload.entries state (deliverFrame packages frame wire state) := by
  let noted := handing state [.settings payload.entries]
  have quiet' : Quiet noted := quiet
  have shown : wireForH2 frame wire = .ok wire := by simp [wireForH2, kind]
  have waits : asksForAck frame = true := by simp [asksForAck, decoded, kind, asks]
  have delivers : deliver packages frame wire state = applySettings packages payload.entries noted := by
    simp only [deliver, if_pos kind, decoded, asks]
    rfl
  obtain ⟨changes, settled⟩ := applySettings_settled settles bounded quiet'
  generalize applySettings packages payload.entries noted = outcome at settled delivers
  -- Either way of ending is followed by its own way of sending.
  cases settled with
  | applied later takes acknowledged whole separate =>
    rw [deliverFrame_returned shown delivers, runWhen_pos waits]
    exact flush_answered later settles takes acknowledged whole separate
  | rejected later silent =>
    rw [deliverFrame_raised shown delivers]
    have later' : _ <:+ state.transport.pauses := later
    refine handleProtocolError_answered later' (fun _ => silent) (.inl ?_)
    simp [unexpectedResponse]
  | interrupted later own drained =>
    rw [deliverFrame_raised shown delivers]
    have later' : _ <:+ state.transport.pauses := later
    refine handleProtocolError_answered later' (fun came => absurd rfl came) ?_
    rcases own with ⟨message, rfl⟩ | scripted
    · exact .inl (by simp [unexpectedResponse])
    · exact .inr (.inl scripted)

/-- Only the connection, the transport and two notes matter to what is answered. -/
theorem Answered.congr {begun : HTTP2Session κ δ}
    (answered : Answered packages remote entries begun outcome)
    (connection : begun.connection = before.connection)
    (transport : begun.transport = before.transport)
    (applied : begun.history.applied = before.history.applied)
    (errors : begun.history.errors = before.history.errors) :
    Answered packages remote entries before outcome := by
  obtain ⟨inOrder, rejected, expected⟩ := answered
  refine ⟨fun returned => ?_, fun came => ?_, fun unexpected => transport ▸ expected unexpected⟩
  · obtain ⟨values, unknown, order, encoder, acknowledged⟩ := inOrder returned
    rw [connection] at values unknown order encoder
    rw [applied] at order
    rw [transport] at acknowledged
    exact ⟨values, unknown, order, encoder, acknowledged⟩
  · rw [← errors] at came
    obtain ⟨batches, written, silent⟩ := rejected came
    exact ⟨batches, transport ▸ written, silent⟩

/-- A SETTINGS frame is checked for its place, and then delivered. -/
theorem processFrame_settings (packages : Packages κ δ) (wire : Bytes)
    (kind : frame.header.kind = some .settings)
    (unflagged : frame.header.has FrameFlags.ack = false)
    (decoded : frame.payload = .settings payload) (state : HTTP2Session κ δ) :
    ∃ firstFrame initialSettings,
      processFrame packages frame wire state =
        (do checkContinuation packages frame; deliverFrame packages frame wire)
          { noting state frame wire with
            firstFrame, capture := { state.capture with initialSettings } } := by
  have placed : ¬ (frame.header.kind ≠ some .settings ∨ frame.header.has FrameFlags.ack = true) := by
    simp [kind, unflagged]
  have outside : ¬ (frame.header.kind = some .headers ∨
      frame.header.kind = some .continuation) := by simp [kind]
  have known : ¬ (frame.header.kind = some .altsvc ∨ frame.header.kind = some .origin) := by
    simp [kind]
  have unpromised : ¬ frame.header.kind = some .pushPromise := by simp [kind]
  have kept : ¬ frame.header.kind = some .rstStream := by simp [kind]
  have parsed : processParsed packages frame wire = deliverFrame packages frame wire := by
    simp only [processParsed, failIf_neg unpromised, checkReset, runWhen_neg kept, pure_bind_eq, kind]
  have faultless : rejectMalformed packages frame = pure () := by
    simp only [rejectMalformed, decoded, parseFault]
  have steps : processFrame packages frame wire state =
      (do
        checkFirstFrame packages frame
        checkContinuation packages frame
        deliverFrame packages frame wire) (noting state frame wire) := by
    simp only [processFrame, countHeaderBlock, runWhen_neg outside, if_neg known, faultless,
      pure_bind_eq, parsed]
    rfl
  -- The first frame also leaves its entries in the capture.
  cases first : state.firstFrame with
  | true =>
    refine ⟨false, some payload.entries, ?_⟩
    have ran : checkFirstFrame packages frame (noting state frame wire) =
        (.ok (), { noting state frame wire with
          firstFrame := false
          capture := { state.capture with initialSettings := some payload.entries } }) := by
      simp only [checkFirstFrame, bind_apply, get_apply, noting, first, runWhen_pos, failIf_neg placed,
        pure_apply, modify_apply, decoded]
    rw [steps, bind_apply, ran]
  | false =>
    refine ⟨false, state.capture.initialSettings, ?_⟩
    have ran : checkFirstFrame packages frame (noting state frame wire) =
        (.ok (), noting state frame wire) := by
      simp only [checkFirstFrame, bind_apply, get_apply, noting, first]
      rfl
    rw [steps, bind_apply, ran]
    simp only [noting, first]

/-- Processing a SETTINGS frame that asks for an acknowledgment, with nothing queued. -/
theorem processFrame_answered (settles : packages.h2.Settles remote)
    (captured : HTTP2FrameReader.Captured wire frame) (decoded : frame.payload = .settings payload)
    (asks : payload.ack = false) (quiet : Quiet state) :
    Answered packages remote payload.entries state (processFrame packages frame wire state) := by
  obtain ⟨kind, unflagged, bounded⟩ := settings_of_captured captured decoded asks
  obtain ⟨firstFrame, initialSettings, steps⟩ :=
    processFrame_settings packages wire kind unflagged decoded state
  rw [steps]
  generalize begins : { noting state frame wire with
    firstFrame, capture := { state.capture with initialSettings } } = begun
  have quiet' : Quiet begun := by rw [← begins]; exact quiet
  suffices answered : Answered packages remote payload.entries begun
      ((do checkContinuation packages frame; deliverFrame packages frame wire) begun) by
    refine answered.congr ?_ ?_ ?_ ?_ <;> rw [← begins] <;> rfl
  by_cases misplaced : ∃ stream ∈ begun.continuationStream,
    frame.header.kind ≠ some .continuation ∨ frame.header.streamId ≠ stream
  · -- In the middle of a header block the frame is an error.
    obtain ⟨raised, after, ran, silent, cause⟩ := fail_silent (α := Unit) settles quiet'
      "CONTINUATION on the same stream was expected" ErrorCode.protocolError.code
    have failed : checkContinuation packages frame begun = (.error raised, after) := by
      simp only [checkContinuation, bind_apply, get_apply, failIf_pos misplaced, ran]
    rw [bind_apply, failed]
    refine .failed (fun _ => silent) (cause.imp_left fun same => ?_)
    rw [same]
    simp [unexpectedResponse]
  · have passed : checkContinuation packages frame begun = (.ok (), begun) := by
      simp only [checkContinuation, bind_apply, get_apply, failIf_neg misplaced, pure_apply]
    rw [bind_apply, passed]
    exact deliverFrame_answered settles kind decoded asks bounded quiet'

/-! ### The two ways of applying distinct entries -/

/-- Whether one frame takes all of them or every entry comes alone, the effect is the same. -/
theorem replaySettings_agrees (settles : packages.h2.Settles remote) (nonempty : items ≠ [])
    (distinct : (items.map Prod.fst).Nodup)
    (bounded : ∀ item ∈ items, item.1 < 2 ^ 16 ∧ item.2 < 2 ^ 32) (quiet : Quiet state)
    {fast replayed : HTTP2Session κ δ} (ran : receiveSettings packages items state = (.ok (), fast))
    (replay : replaySettings packages items 0 state = (.ok (), replayed)) :
    (∀ identifier, remote replayed.connection.core identifier =
      remote fast.connection.core identifier) ∧
    ∃ core, replayed.connection = { fast.connection with core } := by
  have first := receiveSettings_settled settles distinct bounded quiet
  have second := replaySettings_settled settles nonempty bounded 0 quiet
  rw [ran] at first
  rw [replay] at second
  cases first with
  | applied _ takes acknowledged =>
    cases second with
    | applied _ takes' acknowledged' =>
      refine ⟨fun identifier => (takes'.values identifier).trans (takes.values identifier).symm, ?_⟩
      obtain ⟨core, outgoing, rfl⟩ := takes.shape
      obtain ⟨core', outgoing', rfl⟩ := takes'.shape
      obtain rfl : outgoing = [settingsAck] := acknowledged
      obtain rfl : outgoing' = [settingsAck] := acknowledged'
      exact ⟨core', rfl⟩

section Itemwise

variable {refuses : κ → Nat × Nat → Prop}
variable (bounded : ∀ item ∈ items, item.1 < 2 ^ 16 ∧ item.2 < 2 ^ 32)

include bounded

/-- As few items as there are supported settings fit into a frame. -/
theorem buildSettingsFrame_short
    (short : items.length ≤ supportedSettings.length) :
    ∃ wire, buildSettingsFrame items false = .ok wire := by
  refine ⟨_, buildSettingsFrame_eq bounded ?_⟩
  rw [length_settingsBytes]
  simp only [supportedSettings, length_cons, length_nil] at short
  simp only [maxAllowedFrameSize]
  omega

variable (settles : packages.h2.Settles remote) (itemwise : packages.h2.Itemwise refuses)
  (nonempty : items ≠ []) (distinct : (items.map Prod.fst).Nodup)

include settles itemwise nonempty distinct

/-- One frame is accepted if none of its items is refused. -/
theorem receiveSettings_itemwise
    (short : items.length ≤ supportedSettings.length) (state : HTTP2Session κ δ) :
    (∃ after, receiveSettings packages items state = (.ok (), after) ∧
      (∀ item ∈ items, ¬ refuses state.connection.core item) ∧
      ∀ other : Nat × Nat, other.1 ∉ items.map Prod.fst →
        (refuses after.connection.core other ↔ refuses state.connection.core other)) ∨
    (∃ raised after, receiveSettings packages items state = (.error raised, after) ∧
      ¬ ∀ item ∈ items, ¬ refuses state.connection.core item) := by
  obtain ⟨wire, built⟩ := buildSettingsFrame_short bounded short
  let noted := settling state state.connection state.transport.pauses [items] state.history.errors
  have begun : receiveSettings packages items state =
      (do let _ ← onConnection (H2Adapter.receiveData packages wire)) noted :=
    receiveSettings_built built state
  have accepts := itemwise.accepts state.connection.core items wire nonempty distinct bounded built
  by_cases accepted : ∀ item ∈ items, ¬ refuses state.connection.core item
  · obtain ⟨events, core, queued, received⟩ := accepts.mpr accepted
    have received' : packages.h2.receiveData noted.connection.core wire =
      H2.assigning (items.get? headerTableSize)
        (.done (.ok events) core queued) := received
    obtain ⟨_, ran⟩ := receiveData_assigning received'
    refine .inl ⟨_, by rw [begun, bind_apply, ran]; rfl, accepted, fun other absent => ?_⟩
    exact itemwise.others _ core items wire events queued nonempty distinct bounded built received
      other absent
  · refine .inr ?_
    rcases settles.receives state.connection.core items wire distinct bounded built with
      ⟨events, core, received, -⟩ | ends
    · exact absurd (accepts.mp ⟨events, core, _, received⟩) accepted
    · obtain ⟨result, core, queued, decoder, encoder, calls, ⟨⟨message, code, rfl⟩, -⟩, ran⟩ :=
        receiveData_ends noted ends
      exact ⟨_, _, by rw [begun, bind_apply, ran]; rfl, accepted⟩

/-- A replay goes through if none of the items is refused on its own. -/
theorem replaySettings_itemwise {index : Nat}
    (short : index + items.length ≤ supportedSettings.length) (quiet : Quiet state) :
    (replaySettings packages items index state).1 = .ok () ↔
      ∀ item ∈ items, ¬ refuses state.connection.core item := by
  -- The induction is on the items; accepting one does not change what the others meet.
  induction items generalizing index state with
  | nil => exact absurd rfl nonempty
  | cons entry rest ih =>
    have alone : ([entry].map Prod.fst).Nodup := nodup_singleton _
    have fits : ∀ item ∈ [entry], item.1 < 2 ^ 16 ∧ item.2 < 2 ^ 32 := fun item among =>
      bounded item (mem_singleton.mp among ▸ mem_cons_self ..)
    have one : [entry].length ≤ supportedSettings.length := by simp [supportedSettings]
    have step := receiveSettings_itemwise fits settles itemwise (cons_ne_nil _ _) alone one state
    cases rest with
    | nil =>
      show (receiveSettings packages [entry] state).1 = .ok () ↔ _
      rcases step with ⟨after, ran, accepted, -⟩ | ⟨raised, after, ran, refused⟩
      · rw [ran]
        exact ⟨fun _ => accepted, fun _ => rfl⟩
      · rw [ran]
        exact ⟨(by intros; contradiction), fun accepted => absurd accepted refused⟩
    | cons next rest =>
      rcases step with ⟨after, ran, accepted, others⟩ | ⟨raised, after, ran, refused⟩
      · have settled := receiveSettings_settled settles alone fits quiet
        rw [ran] at settled
        have acknowledged : after.connection.outgoing = [settingsAck] := by
          cases settled with
          | applied _ _ acknowledged => exact acknowledged
        have unbatched : ¬ (index + 1) % settingsBatchSize = 0 := by
          simp only [supportedSettings, length_cons, length_nil] at short
          simp only [settingsBatchSize]
          omega
        rw [replaySettings_continues ran acknowledged, runWhen_neg unbatched]
        rw [map_cons, nodup_cons] at distinct
        let drained : HTTP2Session κ δ :=
          { after with connection := { after.connection with outgoing := [] } }
        have short' : index + 1 + (next :: rest).length ≤ supportedSettings.length := by
          rw [length_cons] at short
          omega
        have tail := ih (fun item among => bounded item (mem_cons_of_mem _ among))
          (cons_ne_nil _ _) distinct.2 short'
          (show Quiet drained from rfl)
        refine Iff.trans tail (Iff.trans ?_ forall_mem_cons.symm)
        have same : ∀ item ∈ next :: rest, (refuses after.connection.core item ↔
            refuses state.connection.core item) := fun item among => others item (by
          rw [map_singleton, mem_singleton]
          exact fun equal => distinct.1 (mem_map.mpr ⟨item, among, equal⟩))
        constructor
        · exact fun free => ⟨accepted entry (mem_singleton_self _),
            fun item among refused => free item among ((same item among).mpr refused)⟩
        · exact fun free item among refused => free.2 item among ((same item among).mp refused)
      · simp only [replaySettings, bind_apply, ran]
        refine ⟨(by intros; contradiction), fun free => absurd (fun item among => ?_) refused⟩
        exact free item (mem_singleton.mp among ▸ mem_cons_self ..)

/-- Whether the items are accepted does not depend on the way either. -/
theorem receiveSettings_iff_replay (known : ∀ item ∈ items, item.1 ∈ supportedSettings)
    (quiet : Quiet state) :
    (receiveSettings packages items state).1 = .ok () ↔
      (replaySettings packages items 0 state).1 = .ok () := by
  -- There are no more items than supported identifiers.
  have subset : items.map Prod.fst ⊆ supportedSettings := by
    intro identifier listed
    obtain ⟨item, among, rfl⟩ := mem_map.mp listed
    exact known item among
  have short : items.length ≤ supportedSettings.length := by
    have bound := (subperm_of_subset distinct subset).length_le
    rwa [length_map] at bound
  rw [replaySettings_itemwise bounded settles itemwise nonempty distinct
    (by rwa [Nat.zero_add]) quiet]
  rcases receiveSettings_itemwise bounded settles itemwise nonempty distinct short state with
    ⟨after, ran, accepted, -⟩ | ⟨raised, after, ran, refused⟩
  · rw [ran]
    exact ⟨fun _ => accepted, fun _ => rfl⟩
  · rw [ran]
    exact ⟨(by intros; contradiction), fun accepted => absurd accepted refused⟩

end Itemwise

/-! ### Every run -/

/--
SETTINGS are applied in wire order, with exactly one acknowledgment.

In every run, nothing is queued when a frame begins to be processed, and each such frame was read
from its octets. From any state with nothing queued, a SETTINGS frame has the effect described by
`Answered`, and distinct entries have the same effect in one frame as one at a time.
-/
theorem settings_answered (settles : packages.h2.Settles remote) :
    (∀ (state : HTTP2Session κ δ) (data : Bytes), Waiting packages state →
      (receive packages data state).2.history.idle = true ∧
      ∀ item ∈ (receive packages data state).2.history.processed,
        HTTP2FrameReader.Captured item.2 item.1) ∧
    (∀ (state : HTTP2Session κ δ) (frame : ParsedFrame) (wire : Bytes) (payload : SettingsPayload),
      Quiet state → HTTP2FrameReader.Captured wire frame → frame.payload = .settings payload →
      payload.ack = false →
        Answered packages remote payload.entries state (processFrame packages frame wire state)) ∧
    ∀ (state : HTTP2Session κ δ) (items : Dict Nat Nat), Quiet state → items ≠ [] →
      (items.map Prod.fst).Nodup → (∀ item ∈ items, item.1 ∈ supportedSettings) →
      (∀ item ∈ items, item.1 < 2 ^ 16 ∧ item.2 < 2 ^ 32) →
        (∀ refuses, packages.h2.Itemwise refuses →
          ((receiveSettings packages items state).1 = .ok () ↔
            (replaySettings packages items 0 state).1 = .ok ())) ∧
        ∀ fast replayed, receiveSettings packages items state = (.ok (), fast) →
          replaySettings packages items 0 state = (.ok (), replayed) →
            (∀ identifier, remote replayed.connection.core identifier =
              remote fast.connection.core identifier) ∧
            ∃ core, replayed.connection = { fast.connection with core } := by
  refine ⟨fun state data waiting => ?_, fun state frame wire payload quiet captured decoded asks =>
    processFrame_answered settles captured decoded asks quiet,
    fun state items quiet nonempty distinct known bounded =>
      ⟨fun refuses itemwise =>
        receiveSettings_iff_replay bounded settles itemwise nonempty distinct known quiet,
      fun fast replayed ran replay =>
        replaySettings_agrees settles nonempty distinct bounded quiet ran replay⟩⟩
  exact ⟨(waiting.orderly settles data).idle, (waiting.orderly settles data).captured⟩

/-- The frame that changes the table size twice, as it is read. -/
def tableSizesFrame : ParsedFrame where
  header := headerOf tableSizesWire
  payload := .settings {
    settings := some (Dict.ofItems tableSizes)
    entries := tableSizes }
  raw := tableSizesWire

theorem captured_tableSizesFrame :
    HTTP2FrameReader.Captured tableSizesWire tableSizesFrame := by
  refine ⟨by decide, rfl, rfl, .inl ⟨?_, ?_⟩⟩
  · -- Twelve octets hold two entries, which may have any value.
    have kind : (headerOf tableSizesWire).kind = some .settings := by decide
    simp only [WellFormed, kind]
    decide
  · have body : tableSizesWire.drop frameHeaderSize =
        settingsBytes tableSizes := by decide
    rw [body]
    exact .settings (by decide) (by decide) (by decide)

/-- Two settings that the reference connection accepts. -/
def acceptedSettings : Dict Nat Nat :=
  [(initialWindowSize, 131072), (maxFrameSize, 32768)]

/-- Two settings of which it refuses the second. -/
def refusedSettings : Dict Nat Nat :=
  [(initialWindowSize, 131072), (enablePush, 2)]

/--
Both sizes of a frame are assigned in order, and one acknowledgment is written; distinct settings
are accepted one at a time if and only if they are accepted at once.
-/
theorem settings_answered_tableSizes :
    (processFrame referencePackages tableSizesFrame tableSizesWire
      (create referencePackages {})).1 = .ok () ∧
    AppliedInOrder referencePackages remoteSetting tableSizes
      (create referencePackages {}) (processFrame referencePackages tableSizesFrame
        tableSizesWire (create referencePackages {})).2 ∧
    (receiveSettings referencePackages acceptedSettings (create referencePackages {})).1 = .ok () ∧
    (replaySettings referencePackages acceptedSettings 0 (create referencePackages {})).1 = .ok () ∧
    (receiveSettings referencePackages refusedSettings (create referencePackages {})).1 ≠ .ok () ∧
    (replaySettings referencePackages refusedSettings 0 (create referencePackages {})).1 ≠
      .ok () := by
  have settles : referencePackages.h2.Settles remoteSetting := reference_settles
  have returned : (processFrame referencePackages tableSizesFrame tableSizesWire
      (create referencePackages {})).1 = .ok () := by decide +kernel
  have quiet : Quiet (create referencePackages {}) := rfl
  obtain ⟨-, answered, ways⟩ := settings_answered settles
  have accepted : (receiveSettings referencePackages acceptedSettings
      (create referencePackages {})).1 = .ok () := by decide +kernel
  have refused : (receiveSettings referencePackages refusedSettings
      (create referencePackages {})).1 ≠ .ok () := by decide +kernel
  have both := (ways _ acceptedSettings quiet (by decide) (by decide) (by decide) (by decide)).1 _
    reference_itemwise
  have neither := (ways _ refusedSettings quiet (by decide) (by decide) (by decide) (by decide)).1 _
    reference_itemwise
  exact ⟨returned, (answered _ _ _ _ quiet captured_tableSizesFrame rfl rfl).applied returned,
    accepted, both.mp accepted, refused, fun replayed => refused (neither.mpr replayed)⟩

end SolveTls.HTTP2Session
