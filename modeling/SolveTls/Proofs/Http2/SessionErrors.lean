import SolveTls.Proofs.Http2.SessionDealing

/-! No error of HTTP/1.1 comes up in a session, unless its surroundings raise one. -/

namespace SolveTls

open Fallible List

variable {κ δ α : Type} {packages : Packages κ δ}

/-! ### Checking fields -/

/-- A text error becomes a fault of the protocol. -/
theorem raisesOnly_asProtocolFault (outcome : Except String α) :
    RaisesOnly Exn.isModern (asProtocolFault outcome) := by
  cases outcome with
  | ok value => exact raisesOnly_ok value
  | error message => exact raisesOnly_error rfl

/-- Each field is checked for itself. -/
theorem raisesOnly_validateRawFields (headers : List Field) (trailers : Bool) :
    RaisesOnly Exn.isModern (validateRawFields headers trailers) := by
  refine raisesOnly_forM (fun field => ?_) headers
  exact raisesOnly_guard rfl (raisesOnly_guard rfl (raisesOnly_guard rfl (raisesOnly_ok _)))

/-- The lists among the fields are read by helpers. -/
theorem raisesOnly_validateFieldLists (headers : List Field) :
    RaisesOnly Exn.isModern (validateFieldLists headers) := by
  refine raisesOnly_guard rfl (raisesOnly_guard rfl ?_)
  refine raisesOnly_bind (raisesOnly_asProtocolFault _) fun _ => ?_
  exact raisesOnly_guard rfl (raisesOnly_ok _)

/-- An authority is compared with the host in normal form. -/
theorem raisesOnly_validateRequestAuthority (values : Dict Bytes Bytes) (connect : Bool)
    (scheme : Bytes) :
    RaisesOnly Exn.isModern (validateRequestAuthority packages values connect scheme) := by
  refine raisesOnly_bind (raisesOnly_asProtocolFault _) fun host => ?_
  -- An authority without a host is refused, whatever it is compared with.
  have ends : RaisesOnly Exn.isModern (if host = [] then
      .error (protocolFault "Invalid request authority") else .ok () : Except Exn Unit) :=
    raisesOnly_guard rfl (raisesOnly_ok _)
  cases values.get? (ascii ":authority") with
  | none => exact ends
  | some authority =>
    cases values.get? (ascii "host") with
    | none => exact ends
    | some other =>
      refine raisesOnly_bind (raisesOnly_asProtocolFault _) fun _ =>
        raisesOnly_bind (raisesOnly_asProtocolFault _) fun _ => ?_
      exact raisesOnly_guard rfl ends

/-- The scheme is checked, and then the path. -/
theorem raisesOnly_validateSchemePath (values : Dict Bytes Bytes) (method scheme : Bytes) :
    RaisesOnly Exn.isModern (validateSchemePath values method scheme) := by
  refine raisesOnly_guard rfl (raisesOnly_guard rfl (raisesOnly_guard rfl ?_))
  rcases partition '?' (asText ((values.get? (ascii ":path")).getD [])) with ⟨path, query⟩
  dsimp only
  cases validatePathQuery path (query.getD []) with
  | ok value => exact raisesOnly_ok _
  | error message => exact raisesOnly_error rfl

/-- A tunnel has an authority; any other request has a path. -/
theorem raisesOnly_validateRequestTarget (values : Dict Bytes Bytes) :
    RaisesOnly Exn.isModern (validateRequestTarget packages values) := by
  refine raisesOnly_guard rfl (raisesOnly_guard rfl ?_)
  refine raisesOnly_ite ?_ (raisesOnly_guard rfl (raisesOnly_validateRequestAuthority values true _))
  exact raisesOnly_bind (raisesOnly_validateSchemePath values _ _) fun _ =>
    raisesOnly_validateRequestAuthority values false _

/-- Checking fields raises faults of the protocol, and what the library raises. -/
theorem raisesOnly_validateFields (modern : packages.Modern) (headers : List Field)
    (trailers : Bool) : RaisesOnly Exn.isModern (validateFields packages headers trailers) := by
  refine raisesOnly_bind (raisesOnly_validateRawFields headers trailers) fun _ =>
    raisesOnly_bind (raisesOnly_validateFieldLists headers) fun _ => ?_
  refine raisesOnly_ite (modern.validates _ _) ?_
  exact raisesOnly_bind (raisesOnly_validateRequestTarget _) fun _ => modern.validates _ _

/-! ### Calls of the library -/

/-- The decoder raises what the codec raises, or an error of its own. -/
theorem RequestDecoder.raisesOnly_decode (modern : packages.Modern) (block : Bytes) (raw : Bool)
    (decoder : RequestDecoder δ) :
    RaisesOnly Exn.isModern (RequestDecoder.decode packages.hpack block raw decoder).1 := by
  have decodes := modern.decodes decoder.inner block
  unfold RequestDecoder.decode
  generalize packages.hpack.decode decoder.inner block = decoded at decodes ⊢
  rcases decoded with ⟨raised | headers, inner⟩
  · cases raised with
    | hpack message => exact raisesOnly_error rfl
    | _ => exact decodes
  · dsimp only
    split
    · exact raisesOnly_error rfl
    · exact raisesOnly_ok _

/-- A call that answers errors of decoding only with errors of HTTP/2 raises no others. -/
theorem H2Adapter.raisesOnly_call (modern : packages.Modern) {call : H2Call κ α}
    (calls : call.Modern) (connection : H2Adapter κ δ) :
    RaisesOnly Exn.isModern (H2Adapter.call packages.hpack call connection).1 := by
  -- The induction is on the call, which goes on with what the codecs answer.
  induction call generalizing connection with
  | done result core queued => exact calls
  | decode block resume ih =>
    exact ih _ (calls _ (RequestDecoder.raisesOnly_decode modern _ _ _)) _
  | resizeEncoder size resume ih => exact ih calls _
  | encode headers resume ih => exact ih _ (calls _) _

/-- The next outcome of a script is one of its outcomes, or that of a write that goes through. -/
theorem WriteOutcome.modern_headD {script : List WriteOutcome}
    (modern : ∀ outcome ∈ script, outcome.Modern) : (script.headD .sent).Modern := by
  cases script with
  | nil => trivial
  | cons outcome rest => exact modern outcome (mem_cons_self ..)

namespace HTTP2Session

open Exits

/-! ### Steps of the session -/

/-- The transport goes on raising nothing of HTTP/1.1, and so does the session. -/
def Unmixed : Exits (HTTP2Session κ δ) Exn :=
  .keeping (fun session => session.transport.Modern)
    fun raised session => raised.isModern = true ∧ session.transport.Modern

namespace Unmixed

/-- One step after another stays free of these errors. -/
theorem chained : (Unmixed (κ := κ) (δ := δ)).Chained := chained_keeping

/-- Any other error may be raised. -/
theorem covers_raise {raised : Exn} (modern : raised.isModern = true) :
    Unmixed.Covers (throw raised : SessionM κ δ α) :=
  covers_throw fun _ transport => ⟨modern, transport⟩

/-- A method of the connection does not touch the transport. -/
theorem covers_onConnection {method : Fallible (H2Adapter κ δ) Exn α}
    (raises : ∀ connection, RaisesOnly Exn.isModern (method connection).1) :
    Unmixed.Covers (onConnection method) := by
  intro state
  constructor
  · intro value reached ran modern
    obtain ⟨-, rfl⟩ := Prod.mk.inj ran
    exact modern
  · intro raised reached ran modern
    obtain ⟨failed, rfl⟩ := Prod.mk.inj ran
    exact ⟨raises state.connection raised failed, modern⟩

/-- A write ends as the script says. -/
theorem covers_handOver {outcome : WriteOutcome} (modern : outcome.Modern)
    (frames : List WireFrame) : Unmixed.Covers (handOver outcome frames : SessionM κ δ Unit) := by
  intro state
  have handed (transport : state.transport.Modern) : Transport.Modern
      { state.transport with written := state.transport.written ++ [frames] } :=
    ⟨transport.reads, transport.writes, transport.rejections, transport.pauses⟩
  cases outcome with
  | sent => exact .of_ok rfl handed
  | sentThenRaised raised => exact .of_error rfl fun transport => ⟨modern, handed transport⟩
  | refused raised => exact .of_error rfl fun transport => ⟨modern, transport⟩

/-- A write is made after the script has moved on. -/
theorem at_handOver {outcome : WriteOutcome} {state moved : HTTP2Session κ δ}
    {frames : List WireFrame} {write : SessionM κ δ Unit}
    (ran : write state = handOver outcome frames moved)
    (modern : state.transport.Modern → outcome.Modern ∧ moved.transport.Modern) :
    Unmixed.At state write := by
  constructor
  · intro value reached ran' transport
    obtain ⟨next, left⟩ := modern transport
    exact (covers_handOver next frames moved).returned (ran.symm.trans ran') left
  · intro raised reached ran' transport
    obtain ⟨next, left⟩ := modern transport
    exact (covers_handOver next frames moved).raised (ran.symm.trans ran') left

/-- A write raises what its script says. -/
theorem covers_transportWrite (frames : List WireFrame) :
    Unmixed.Covers (transportWrite frames : SessionM κ δ Unit) := fun _ =>
  at_handOver rfl fun transport => ⟨WriteOutcome.modern_headD transport.writes, transport.reads,
    fun outcome among => transport.writes outcome (mem_of_mem_tail among),
    transport.rejections, transport.pauses⟩

/-- So does the write of a refusal. -/
theorem covers_transportReject (frames : List WireFrame) :
    Unmixed.Covers (transportReject frames : SessionM κ δ Unit) := fun _ =>
  at_handOver rfl fun transport => ⟨WriteOutcome.modern_headD transport.rejections,
    transport.reads, transport.writes,
    fun outcome among => transport.rejections outcome (mem_of_mem_tail among),
    transport.pauses⟩

/-- So does a pause. -/
theorem covers_pause : Unmixed.Covers (pause : SessionM κ δ Unit) := by
  intro state
  let moved : HTTP2Session κ δ :=
    { state with transport := { state.transport with pauses := state.transport.pauses.tail } }
  have left (transport : state.transport.Modern) : moved.transport.Modern :=
    ⟨transport.reads, transport.writes, transport.rejections,
      fun raised among => transport.pauses raised (mem_of_mem_tail among)⟩
  cases next : state.transport.pauses.headD none with
  | none =>
    have ran : (pause : SessionM κ δ Unit) state = (.ok (), moved) := by simp only [pause, next, moved]
    exact .of_ok ran left
  | some raised =>
    have ran : (pause : SessionM κ δ Unit) state = (.error raised, moved) := by
      simp only [pause, next, moved]
    refine .of_error ran fun transport => ⟨transport.pauses raised ?_, left transport⟩
    cases script : state.transport.pauses with
    | nil =>
      rw [script] at next
      cases next
    | cons first rest =>
      rw [script] at next
      exact mem_cons.mpr (.inl next.symm)

/-- A read raises what its script says, or finds the connection closed. -/
theorem covers_transportRead : Unmixed.Covers (transportRead : SessionM κ δ Bytes) := by
  intro state
  cases script : state.transport.reads with
  | nil =>
    have ran : (transportRead : SessionM κ δ Bytes) state =
        (.error (.connection "Connection closed"), state) := by
      simp only [transportRead, script]
    exact .of_error ran fun transport => ⟨rfl, transport⟩
  | cons outcome reads =>
    have ran : (transportRead : SessionM κ δ Bytes) state =
        (outcome, { state with transport := { state.transport with reads } }) := by
      simp only [transportRead, script]
    have left (transport : state.transport.Modern) :
        Transport.Modern { state.transport with reads } := by
      refine ⟨fun other among => ?_, transport.writes, transport.rejections, transport.pauses⟩
      exact transport.reads other (script ▸ mem_cons_of_mem _ among)
    cases outcome with
    | ok data => exact .of_ok ran left
    | error raised =>
      refine .of_error ran fun transport => ⟨?_, left transport⟩
      exact transport.reads _ (script ▸ mem_cons_self ..) raised rfl

/-- Taking what is queued raises nothing. -/
theorem covers_drain : Unmixed.Covers (onConnection H2Adapter.dataToSend :
    SessionM κ δ (List WireFrame)) :=
  covers_onConnection fun _ => raisesOnly_ok _

/-- Sending what is queued is one write. -/
theorem covers_flush : Unmixed.Covers (flush : SessionM κ δ Unit) :=
  chained.covers_bind covers_drain fun frames =>
    chained.covers_runWhen fun _ => covers_transportWrite frames

/-- Bookkeeping leaves the transport alone. -/
theorem covers_note {change : HTTP2Session κ δ → HTTP2Session κ δ}
    (same : ∀ state, (change state).transport = state.transport) :
    Unmixed.Covers (modify change : SessionM κ δ Unit) := by
  refine covers_modify fun state modern => ?_
  show (change state).transport.Modern
  rw [same state]
  exact modern

/-- The handler raises the error that it is given, or that of its write. -/
theorem covers_handleProtocolError {raised : Exn} (modern : raised.isModern = true) :
    Unmixed.Covers (handleProtocolError raised : SessionM κ δ Unit) := by
  cases raised with
  | protocolError message code =>
    refine chained.covers_bind chained.covers_get fun _ => chained.covers_bind
      (chained.covers_runWhen fun _ => ?_) fun _ => covers_raise modern
    refine chained.covers_bind covers_drain fun frames => chained.covers_runWhen fun _ => ?_
    exact chained.covers_bind (covers_transportReject frames) fun _ => covers_note fun _ => rfl
  | _ => exact covers_raise modern

/-! ### Everything a client can make the session do -/

section Libraries

variable (modern : packages.Modern)

include modern

/-- A call of h2 raises what the library raises. -/
theorem covers_outcall (outcall : Outcall) :
    Unmixed.Covers (callH2 packages outcall.method : SessionM κ δ Unit) :=
  covers_onConnection fun connection =>
    H2Adapter.raisesOnly_call modern (modern.calls outcall connection.core) connection

/-- So does h2 with received octets. -/
theorem covers_receiveData (wire : Bytes) :
    Unmixed.Covers (onConnection (H2Adapter.receiveData packages wire)) := by
  refine covers_onConnection fun connection => ?_
  have called := H2Adapter.raisesOnly_call modern (modern.receives connection.core wire) connection
  simp only [H2Adapter.receiveData, bind_apply, get_apply]
  generalize H2Adapter.call packages.hpack _ connection = outcome at called ⊢
  rcases outcome with ⟨raised | events, after⟩
  · exact called
  · exact raisesOnly_ok _

/-- Closing is a call and a write. -/
theorem covers_close (errorCode : Nat) : Unmixed.Covers (close packages errorCode) := by
  refine chained.covers_bind chained.covers_get fun self => chained.covers_bind
    (chained.covers_runWhen fun _ => ?_) fun _ => covers_flush
  exact chained.covers_bind (covers_outcall modern (.goaway errorCode _)) fun _ =>
    covers_note fun _ => rfl

/-- Failing raises an error of the protocol. -/
theorem covers_fail (message : String) (errorCode : Nat) :
    Unmixed.Covers (fail packages message errorCode : SessionM κ δ α) := by
  exact chained.covers_bind (covers_note fun _ => rfl) fun _ =>
    chained.covers_bind (covers_close modern errorCode) fun _ => covers_raise rfl

/-- What a session does of its own accord. -/
theorem tending : Tending packages (Unmixed (κ := κ) (δ := δ)) where
  toChained := chained
  notes _ transport _ _ _ := by
    intro modern
    rw [transport]
    exact modern
  throws _ raised own transport := by
    refine ⟨?_, transport⟩
    cases raised <;> first | rfl | cases own
  validates checked _ transport :=
    ⟨raisesOnly_validateFields modern _ _ _ checked, transport⟩
  resets streamId errorCode := covers_outcall modern (.reset streamId errorCode)
  acknowledges length streamId := covers_outcall modern (.acknowledge length streamId)
  counts := covers_onConnection fun _ => raisesOnly_ok _
  fails _ message errorCode _ := covers_fail modern message errorCode

/-- What it does with a frame. -/
theorem delivering : Delivering packages (Unmixed (κ := κ) (δ := δ)) where
  toTending := tending modern
  takes := covers_receiveData modern
  drains := covers_drain
  charges _ := covers_onConnection fun _ => raisesOnly_ok _
  pauses := covers_pause
  quits _ := chained.covers_bind (covers_outcall modern (.goaway _ none)) fun _ =>
    chained.covers_bind (covers_note fun _ => rfl) fun _ => covers_raise rfl

/-- What it does with its peer. -/
theorem attending : Attending packages (Unmixed (κ := κ) (δ := δ)) := by
  have delivering := Unmixed.delivering (κ := κ) modern
  refine ⟨delivering.toTending, fun frame wire _ => ?_, covers_flush, covers_pause⟩
  have requests (streamId : Nat) (headers : Option (List Field)) (streamEnded : Bool) :
      Unmixed.Covers (processRequest packages streamId headers streamEnded) :=
    delivering.covers_processRequest delivering.toChained.leads streamId headers streamEnded
      fun _ fields => covers_outcall modern (.headers streamId fields false)
  have delivers := delivering.covers_deliver delivering.toChained.leads frame
    (delivering.covers_receiveWire requests wire)
  refine delivering.covers_bind (fun state => at_tryCatch (delivers state).returned ?_) fun _ =>
    covers_flush
  -- The handler goes on from where the error came up.
  intro raised reached delivered
  constructor
  · intro value after ran transport
    obtain ⟨known, left⟩ := (delivers state).raised delivered transport
    exact (covers_handleProtocolError known reached).returned ran left
  · intro error after ran transport
    obtain ⟨known, left⟩ := (delivers state).raised delivered transport
    exact (covers_handleProtocolError known reached).raised ran left

/-- Whatever a client sends, no error of HTTP/1.1 comes up. -/
theorem serving : Serving packages (Unmixed (κ := κ) (δ := δ)) where
  toChained := chained
  throws := (tending modern).throws
  begins _ := id
  reads := covers_transportRead
  exchanges outcall _ := chained.covers_bind (covers_outcall modern outcall) fun _ =>
    covers_flush
  windows streamId := covers_onConnection fun connection =>
    modern.windows connection.core streamId
  fails message errorCode _ := covers_fail modern message errorCode
  receives := (attending modern).covers_receive

end Libraries

end Unmixed

end HTTP2Session

end SolveTls
