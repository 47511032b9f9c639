import SolveTls.Http2.H2Laws
import SolveTls.Proofs.Http2.SessionEffects

/-! What has to be shown of single steps to know something of every run of a session. -/

namespace SolveTls.HTTP2Session

open Fallible

variable {κ δ α : Type} {packages : Packages κ δ}
variable {state before after : HTTP2Session κ δ} {action : SessionM κ δ α} {core : κ}
  {queued : List WireFrame} {streamId : Nat} {property : HTTP2Session κ δ → Prop}

/-! ### Every exit of a call, raised or returned -/

/-- Exits of the steps that the calls on a session are made of. -/
structure Serving (packages : Packages κ δ) (exits : Exits (HTTP2Session κ δ) Exn) : Prop
    extends exits.Chained where
  /-- Errors of the program itself, other than those it fails with. -/
  throws : ∀ (state : HTTP2Session κ δ) (raised : Exn), raised.isOwn = true →
    exits.raises state raised state
  begins : ∀ state, exits.returns state { state with initialized := true }
  reads : exits.Covers (transportRead : SessionM κ δ Bytes)
  exchanges : ∀ outcall : Outcall, (∀ errorCode last, outcall ≠ .goaway errorCode last) →
    exits.Covers (do callH2 packages outcall.method; flush)
  windows : ∀ streamId, exits.Covers (flowControlWindow packages streamId)
  fails : ∀ (message : String) (errorCode : Nat), IsFault errorCode →
    exits.Covers (fail packages message errorCode : SessionM κ δ Unit)
  receives : ∀ data, exits.Covers (receive packages data)

namespace Serving

variable {exits : Exits (HTTP2Session κ δ) Exn}
variable {raised : Exn}

section Steps

variable (serving : Serving packages exits)

include serving

/-- A guard raises an error of the session's own. -/
theorem covers_raiseIf (condition : Prop) [Decidable condition] (own : raised.isOwn = true) :
    exits.Covers (raiseIf condition raised : SessionM κ δ Unit) :=
  serving.toChained.covers_raiseIf fun state => serving.throws state raised own

/-- So does an explicit raise. -/
theorem covers_throw (own : raised.isOwn = true) : exits.Covers (throw raised : SessionM κ δ α) :=
  Exits.covers_throw fun state => serving.throws state raised own

/-- So does the check for cancellation. -/
theorem covers_checkCancelled : exits.Covers (checkCancelled : SessionM κ δ Unit) :=
  serving.covers_bind serving.covers_get fun _ =>
    serving.covers_bind (serving.covers_raiseIf _ rfl) fun _ =>
      serving.covers_raiseIf _ rfl

/-- A library call is followed by sending what it queued, before anything else happens. -/
theorem covers_exchange (outcall : Outcall)
    (speaks : ∀ errorCode last, outcall ≠ .goaway errorCode last) {rest : SessionM κ δ α}
    (covers : exits.Covers rest) :
    exits.Covers (do callH2 packages outcall.method; flush; rest) := by
  have grouped := serving.covers_bind (serving.exchanges outcall speaks) fun _ => covers
  rwa [bind_assoc_eq] at grouped

/-- A session begins as the exits say if the library takes the preface like that. -/
theorem at_initializeSession
    (greets : ∀ opened, (do callH2 packages Outcall.initiate.method; flush)
        { state with initialized := true } = (.ok (), opened) →
      exits.At opened (onConnection (H2Adapter.receiveData packages http2Preface)))
    (incomingData : Bytes) : exits.At state (initializeSession packages incomingData) := by
  have chained := serving.toChained
  refine chained.at_bind (chained.covers_get state) fun self reached ran => ?_
  obtain ⟨rfl, rfl⟩ := get_eq_ok.mp ran
  refine chained.at_bind (serving.covers_raiseIf _ rfl _) fun _ reached ran => ?_
  obtain ⟨-, rfl⟩ := raiseIf_eq_ok.mp ran
  refine chained.at_bind (Exits.covers_modify serving.begins _) fun _ reached ran => ?_
  obtain rfl := modify_eq_ok.mp ran
  -- Our own preface is sent before anything of the client is looked at.
  rw [← bind_assoc_eq]
  refine chained.at_bind (serving.exchanges .initiate (by intros; simp) _) fun _ opened ran => ?_
  have greeted := greets opened ran
  refine chained.at_bind (chained.covers_runWhen (fun _ => serving.fails _ _ (by decide)) _)
    fun _ reached ran => ?_
  obtain ⟨-, rfl⟩ := failIf_eq_ok.mp ran
  -- What follows the preface is received like any chunk.
  exact chained.at_bind greeted fun _ reached _ =>
    chained.covers_runWhen (fun _ => serving.receives _) reached

/-- Receiving a request is reading and receiving, in turns. -/
theorem covers_receiveRequestLoop (turns : Nat) :
    exits.Covers (receiveRequestLoop packages turns) := by
  -- The induction is on the turns; each reads one chunk and receives it.
  have chained := serving.toChained
  induction turns with
  | zero => exact serving.covers_throw rfl
  | succ turns ih =>
    refine chained.covers_bind chained.covers_get fun _ =>
      Exits.covers_ite (fun _ => chained.covers_pure ()) fun _ => ?_
    exact chained.covers_bind serving.reads fun data =>
      chained.covers_bind (serving.receives data) fun _ => ih

/-- The loop stands behind one guard. -/
theorem covers_receiveRequest : exits.Covers (receiveRequest packages) :=
  serving.covers_bind serving.covers_get fun _ =>
    serving.covers_bind (serving.covers_receiveRequestLoop _) fun _ => serving.covers_checkCancelled

/-- Sending content is sending and waiting, in turns. -/
theorem covers_sendLoop (streamId : Nat) (content : Bytes)
    (turns offset : Nat) : exits.Covers (sendLoop packages streamId content turns offset) := by
  -- A turn either waits for a window update or sends the next part of the content.
  have chained := serving.toChained
  induction turns generalizing offset with
  | zero => exact serving.covers_throw rfl
  | succ turns ih =>
    refine Exits.covers_ite (fun _ => ?_) fun _ => chained.covers_pure ()
    refine chained.covers_bind serving.covers_checkCancelled fun _ =>
      chained.covers_bind (serving.windows streamId) fun _ =>
        chained.covers_bind chained.covers_get fun _ => Exits.covers_ite (fun _ => ?_) fun _ => ?_
    · exact chained.covers_bind serving.reads fun data =>
        chained.covers_bind (serving.receives data) fun _ => ih offset
    · exact serving.covers_exchange (.data _ _ _) (by intros; simp) (ih _)

/-- A response is its headers and its content. -/
theorem covers_sendResponse (content : Bytes) (headers : Dict Bytes Bytes) (statusCode : Nat) :
    exits.Covers (sendResponse packages content headers statusCode) := by
  have chained := serving.toChained
  refine chained.covers_bind serving.covers_checkCancelled fun _ =>
    chained.covers_bind chained.covers_get fun self => ?_
  cases self.capture.streamId with
  | none => exact serving.covers_throw rfl
  | some streamId =>
    refine chained.covers_bind (serving.covers_raiseIf _ rfl) fun _ =>
      serving.covers_exchange (.headers _ _ _) (by intros; simp) ?_
    exact chained.covers_bind chained.covers_get fun _ => serving.covers_sendLoop _ _ _ _

/-- Whatever covers the single steps covers every call. -/
theorem covers_perform
    (greets : exits.Covers (onConnection (H2Adapter.receiveData packages http2Preface)))
    (closes : ∀ errorCode, exits.Covers (close packages errorCode)) (call : Call) :
    exits.Covers (call.perform packages) := by
  cases call with
  | begin incomingData =>
    exact fun state => serving.at_initializeSession (fun opened _ => greets opened) incomingData
  | receive data => exact serving.receives data
  | receiveRequest => exact serving.covers_receiveRequest
  | sendResponse content headers statusCode =>
    exact serving.covers_sendResponse content headers statusCode
  | close errorCode => exact closes errorCode

end Steps

end Serving

/-- A relation between earlier and later states that survives all output and received chunks. -/
structure Carried (packages : Packages κ δ)
    (relation : HTTP2Session κ δ → HTTP2Session κ δ → Prop) : Prop
    extends Progress relation where
  sends : ∀ {before after}, Outbound before after → relation before after
  begins : ∀ state, relation state { state with initialized := true }
  reads : ∀ state reads,
    relation state { state with transport := { state.transport with reads } }
  receives : ∀ data, Within relation (receive packages data)

namespace Carried

variable {relation : HTTP2Session κ δ → HTTP2Session κ δ → Prop}

/-- Output is carried along. -/
theorem within_outbound (carried : Carried packages relation) (within : Within Outbound action) :
    Within relation action :=
  within.mono fun _ _ => carried.sends

/-- A read moves the script on, whatever it ends in. -/
theorem within_transportRead (carried : Carried packages relation) :
    Within relation (transportRead : SessionM κ δ Bytes) := by
  intro state
  unfold transportRead
  split
  · exact carried.refl state
  · exact carried.reads state _

/-- All steps but receiving are output. -/
theorem serving (carried : Carried packages relation) :
    Serving packages (Exits.alike relation) where
  toChained := Exits.chained_alike carried.toProgress
  throws state _ _ := carried.refl state
  begins := carried.begins
  reads := Exits.covers_alike.mpr carried.within_transportRead
  exchanges _ _ := Exits.covers_alike.mpr (carried.within_outbound
    (outbound.within_bind (outbound_callH2 _) fun _ => outbound_flush))
  windows _ := Exits.covers_alike.mpr (carried.within_outbound (outbound_onConnection _))
  fails _ _ _ := Exits.covers_alike.mpr (carried.within_outbound (outbound_fail _ _))
  receives data := Exits.covers_alike.mpr (carried.receives data)

/-- Whatever survives output and received chunks survives every call, however it ends. -/
theorem within_perform (carried : Carried packages relation) (call : Call) :
    Within relation (call.perform packages) := by
  refine Exits.covers_alike.mp (carried.serving.covers_perform ?_ (fun errorCode => ?_) call)
  · exact Exits.covers_alike.mpr (carried.within_outbound (outbound_onConnection _))
  · exact Exits.covers_alike.mpr (carried.within_outbound (outbound_close errorCode))

end Carried

/-- A property, as the relation of states that keep it. -/
def Keeps (property : HTTP2Session κ δ → Prop) (before after : HTTP2Session κ δ) : Prop :=
  property before → property after

/-- What is kept twice is kept. -/
theorem keeps (property : HTTP2Session κ δ → Prop) : Progress (Keeps property) where
  refl _ := id
  trans first second := second ∘ first

/-- A property of new sessions that every exit of every call keeps holds in every run. -/
theorem Run.always (created : ∀ transport, property (create packages transport))
    (calls : ∀ call : Call, Within (Keeps property) (call.perform packages)) {raised : Bool}
    (run : Run packages raised state) : property state := by
  -- The induction is on the calls made; both ways a call ends are exits of it.
  induction run with
  | created transport => exact created transport
  | returned call _ ran ih => exact (calls call).reached ran ih
  | failed call _ ran ih => exact (calls call).reached ran ih

/-- A call that returned leads on from where the run was. -/
theorem Run.performed {raised : Bool} (call : Call) (run : Run packages raised before)
    (returned : (call.perform packages before).1 = .ok ()) :
    Run packages raised (call.perform packages before).2 :=
  .returned call run (Prod.ext returned rfl)

/-! ### Calls that returned -/

/-- A property that a session keeps whatever it does of its own accord. -/
structure Enduring (packages : Packages κ δ) (property : HTTP2Session κ δ → Prop) : Prop where
  begins : ∀ {state}, property state → property { state with initialized := true }
  closes : ∀ {state}, property state → property { state with closed := true }
  reads : ∀ {state reads}, property state →
    property { state with transport := { state.transport with reads } }
  flushes : ∀ {before after}, flush before = (.ok (), after) → property before → property after
  exchanges : ∀ (outcall : Outcall) {before after},
    (do callH2 packages outcall.method; flush) before = (.ok (), after) →
      property before → property after
  prefaced : ∀ {before after events},
    onConnection (H2Adapter.receiveData packages http2Preface) before = (.ok events, after) →
      property before → property after

/-- A property that holds again whenever the session is about to wait for its peer. -/
structure Stable (packages : Packages κ δ) (property : HTTP2Session κ δ → Prop) : Prop extends
    Enduring packages property where
  receives : ∀ {data before after}, receive packages data before = (.ok (), after) →
    property before → property after

/-- Taking what is queued leaves the queue empty. -/
theorem drain_apply (state : HTTP2Session κ δ) :
    onConnection H2Adapter.dataToSend state = (.ok state.connection.outgoing,
      { state with connection := { state.connection with outgoing := [] } }) := rfl

/-- Sending hands over what is queued, if there is anything. -/
theorem flush_eq (state : HTTP2Session κ δ) :
    flush state = runWhen (state.connection.outgoing ≠ [])
      (transportWrite state.connection.outgoing)
      { state with connection := { state.connection with outgoing := [] } } := rfl

/-- Sending takes the queued frames, and otherwise changes the transport alone. -/
theorem flush_shape (state : HTTP2Session κ δ) :
    ∃ transport, (flush state).2 = { state with
      transport, connection := { state.connection with outgoing := [] } } := by
  rw [flush_eq]
  by_cases queued : state.connection.outgoing ≠ []
  · rw [runWhen_pos queued]
    simp only [transportWrite, handOver]
    cases state.transport.writes.headD .sent <;> exact ⟨_, rfl⟩
  · rw [runWhen_neg queued]
    exact ⟨_, rfl⟩

/-- Sending empties the queue. -/
theorem flush_connection (state : HTTP2Session κ δ) :
    (flush state).2.connection = { state.connection with outgoing := [] } := by
  obtain ⟨transport, shape⟩ := flush_shape state
  rw [shape]

/-- Nothing about sending depends on the closed flag. -/
theorem flush_closed (state : HTTP2Session κ δ) :
    flush { state with closed := true } = ((flush state).1, { (flush state).2 with closed := true }) := by
  simp only [flush_eq]
  by_cases queued : state.connection.outgoing ≠ []
  · simp only [runWhen_pos queued, transportWrite, handOver]
    cases state.transport.writes.headD .sent <;> rfl
  · simp only [runWhen_neg queued, pure_apply]

/-- A library call that goes through at once. -/
theorem callH2_done {method : H2 κ → κ → H2Call κ α} {value : α}
    (called : method packages.h2 state.connection.core = .done (.ok value) core queued) :
    callH2 packages method state = (.ok value, { state with
      connection := { state.connection with
        core, outgoing := state.connection.outgoing ++ queued } }) := by
  simp only [callH2, onConnection, bind_apply, get_apply, called, H2Adapter.call]
  rfl

/-- Octets that the library takes without decoding anything. -/
theorem receiveData_done {wire : Bytes} {events : List Event}
    (received : packages.h2.receiveData state.connection.core wire = .done (.ok events) core queued) :
    onConnection (H2Adapter.receiveData packages wire) state =
      (.ok (events.map
        (H2Adapter.withOriginalHeaders state.connection.decoder.originalHeaders)),
        { state with connection := { state.connection with
          core, outgoing := state.connection.outgoing ++ queued } }) := by
  simp only [onConnection, H2Adapter.receiveData, bind_apply, get_apply, received, H2Adapter.call]
  rfl

/-- The window is known and asking for it changes nothing, or asking raises. -/
theorem flowControlWindow_cases (packages : Packages κ δ) (streamId : Nat)
    (state : HTTP2Session κ δ) :
    (∃ window, packages.h2.localFlowControlWindow state.connection.core streamId = .ok window ∧
      flowControlWindow packages streamId state = (.ok window, state)) ∨
    ∃ raised, packages.h2.localFlowControlWindow state.connection.core streamId = .error raised ∧
      flowControlWindow packages streamId state = (.error raised, { state with
        history := state.history.noting state.transport.written.length
          (.error raised : Except Exn Int) }) := by
  simp only [flowControlWindow, onConnection]
  cases packages.h2.localFlowControlWindow state.connection.core streamId with
  | ok window => exact .inl ⟨window, rfl, rfl⟩
  | error raised => exact .inr ⟨raised, rfl, rfl⟩

/-- Looking at a window changes nothing. -/
theorem flowControlWindow_ok {window : Int}
    (ran : flowControlWindow packages streamId before = (.ok window, after)) : after = before := by
  rcases flowControlWindow_cases packages streamId before with
    ⟨known, -, asked⟩ | ⟨raised, -, asked⟩
  · exact (Prod.mk.inj (ran.symm.trans asked)).2
  · cases (Prod.mk.inj (ran.symm.trans asked)).1

/-- The check passes only while the stream lives and the connection is open. -/
theorem checkCancelled_ok (ran : checkCancelled before = (.ok (), after)) :
    before.cancelled = false ∧ before.closed = false ∧ after = before := by
  simp only [checkCancelled, bind_eq_ok, get_eq_ok, raiseIf_eq_ok] at ran
  obtain ⟨_, _, ⟨rfl, rfl⟩, _, _, ⟨running, rfl⟩, opened, rfl⟩ := ran
  exact ⟨by simpa using running, by simpa using opened, rfl⟩

/-- Output that raises leaves the weaker property as it is. -/
theorem covers_sending {held final : HTTP2Session κ δ → Prop}
    (implies : ∀ {state}, held state → final state)
    (sends : ∀ {before after}, Outbound before after → final before → final after)
    (within : Within Outbound action)
    (returns : ∀ {before value after}, action before = (.ok value, after) →
      held before → held after) : (Exits.keeping held fun _ => final).Covers action :=
  fun _ => ⟨returns, fun ran start => sends (within.reached ran) (implies start)⟩

/-- Only the ways a computation returns matter. -/
theorem covers_kept
    (keeps : ∀ {before value after}, action before = (.ok value, after) →
      property before → property after) : (Exits.keeping property fun _ _ => True).Covers action :=
  fun _ => ⟨keeps, fun _ _ => trivial⟩

namespace Stable

section Steps

variable (stable : Stable packages property)

include stable

/-- A read that returns has moved the script on. -/
theorem transportRead_ok {data : Bytes} (ran : transportRead before = (.ok data, after))
    (held : property before) : property after := by
  unfold transportRead at ran
  split at ran
  · cases ran
  · obtain ⟨-, rfl⟩ := Prod.mk.inj ran
    exact stable.reads held

/-- Closing sends a GOAWAY if none was sent, and what else is queued. -/
theorem close_ok {errorCode : Nat} (ran : close packages errorCode before = (.ok (), after))
    (held : property before) : property after := by
  simp only [close, bind_eq_ok, get_eq_ok] at ran
  obtain ⟨_, _, ⟨rfl, rfl⟩, _, middle, announced, flushed⟩ := ran
  rcases runWhen_eq_ok.mp announced with ⟨-, ran₁⟩ | ⟨-, rfl⟩
  · simp only [bind_eq_ok, modify_eq_ok] at ran₁
    obtain ⟨_, queued, called, rfl⟩ := ran₁
    -- The flag is set between queueing and sending, which makes no difference to either.
    rw [flush_closed] at flushed
    obtain ⟨returned, rfl⟩ := Prod.mk.inj flushed
    have sent : flush queued = (.ok (), (flush queued).2) := Prod.ext returned rfl
    exact stable.closes (stable.exchanges
      (.goaway errorCode (some (before.capture.streamId.getD 0)))
      (bind_eq_ok.mpr ⟨_, queued, called, sent⟩) held)
  · exact stable.flushes flushed held

/-- Every step that returns keeps a stable property. -/
theorem serving : Serving packages (Exits.keeping property fun _ _ => True) where
  toChained := Exits.chained_keeping
  throws _ _ _ _ := trivial
  begins _ := stable.begins
  reads := covers_kept stable.transportRead_ok
  exchanges outcall _ := covers_kept (stable.exchanges outcall)
  windows _ := covers_kept fun ran held => flowControlWindow_ok ran ▸ held
  fails _ _ _ := covers_kept fun ran => (fail_eq_ok.mp ran).elim
  receives _ := covers_kept stable.receives

/-- And so does every call. -/
theorem perform_ok {call : Call} (ran : call.perform packages before = (.ok (), after))
    (held : property before) : property after :=
  (stable.serving.covers_perform (covers_kept stable.prefaced)
    (fun _ => covers_kept stable.close_ok) call before).returned ran held

end Steps

end Stable

/-- A stable property of new sessions holds wherever a session waits. -/
theorem Waiting.holds (created : ∀ transport, property (create packages transport))
    (stable : Stable packages property) (waiting : Waiting packages state) : property state := by
  induction waiting with
  | created transport => exact created transport
  | begins _ held => exact stable.begins held
  | closes _ held => exact stable.closes held
  | reads _ held => exact stable.reads held
  | flushes _ ran held => exact stable.flushes ran held
  | exchanges outcall _ ran held => exact stable.exchanges outcall ran held
  | prefaced _ ran held => exact stable.prefaced ran held
  | receives _ ran held => exact stable.receives ran held

/-- Waiting is stable. -/
theorem stable_waiting : Stable packages (Waiting packages) where
  begins := .begins
  closes := .closes
  reads := .reads
  flushes ran waiting := .flushes waiting ran
  exchanges outcall _ _ ran waiting := .exchanges outcall waiting ran
  prefaced ran waiting := .prefaced waiting ran
  receives ran waiting := .receives waiting ran

/-- As long as no call has raised, a session waits between the calls. -/
theorem Run.waiting (run : Run packages false state) :
    Waiting packages state := by
  generalize unraised : false = raised at run
  induction run with
  | created transport => exact .created transport
  | returned call _ ran ih => exact stable_waiting.perform_ok ran (ih unraised)
  | failed => cases unraised

/-! ### Until a call raises, and beyond -/

/-- A session that waits is between two frames. -/
theorem Waiting.between (waiting : Waiting packages state) :
    Between packages state :=
  @Between.waits κ δ packages state state.buffer state.captureBytes waiting

/-- A property of sessions that have not raised which a chunk cannot end, whatever becomes of it. -/
structure Lifelong (packages : Packages κ δ) (property : HTTP2Session κ δ → Prop) : Prop where
  between : ∀ {state}, Between packages state → property state
  sends : ∀ {before after}, Outbound before after → property before → property after
  reads : ∀ {state reads}, property state →
    property { state with transport := { state.transport with reads } }
  receives : ∀ {data before}, Waiting packages before → property (receive packages data before).2

namespace Lifelong

/-- From a session that waits on: it waits again, or the property holds where it raised. -/
def leaving (packages : Packages κ δ) (property : HTTP2Session κ δ → Prop) :
    Exits (HTTP2Session κ δ) Exn :=
  .keeping (Waiting packages) fun _ => property

/-- Output leaves the property as it is, so only the way back has to be shown. -/
theorem covers_outbound (lifelong : Lifelong packages property) (within : Within Outbound action)
    (returns : ∀ {before value after}, action before = (.ok value, after) →
      Waiting packages before → Waiting packages after) :
    (leaving packages property).Covers action :=
  covers_sending (fun waiting => lifelong.between waiting.between) lifelong.sends within returns

/-- A lifelong property is served to the end. -/
theorem serving (lifelong : Lifelong packages property) :
    Serving packages (leaving packages property) where
  toChained := Exits.chained_keeping
  throws state raised _ waiting := lifelong.between waiting.between
  begins state := .begins
  reads := by
    intro state
    constructor
    · intro data after ran waiting
      exact stable_waiting.transportRead_ok ran waiting
    · intro raised after ran waiting
      have held := lifelong.between waiting.between
      -- A read that raises moves the script on, unless the script is over.
      unfold transportRead at ran
      split at ran
      · obtain ⟨-, rfl⟩ := Prod.mk.inj ran
        exact held
      · obtain ⟨-, rfl⟩ := Prod.mk.inj ran
        exact lifelong.reads held
  exchanges outcall _ := lifelong.covers_outbound
    (outbound.within_bind (outbound_callH2 _) fun _ => outbound_flush)
    fun ran waiting => .exchanges outcall waiting ran
  windows streamId := lifelong.covers_outbound (outbound_onConnection _) fun ran waiting => by
    obtain rfl := flowControlWindow_ok ran
    exact waiting
  fails message errorCode _ := lifelong.covers_outbound (outbound_fail message errorCode)
    fun ran _ => (fail_eq_ok.mp ran).elim
  receives data := by
    intro state
    constructor
    · intro value after ran waiting
      exact .receives waiting ran
    · intro raised after ran waiting
      have received : property (receive packages data state).2 := lifelong.receives waiting
      rwa [ran] at received

end Lifelong

/-- What is lifelong holds at every exit of the calls, and when the session is closed afterwards. -/
theorem Lifetime.holds (lifelong : Lifelong packages property) (lifetime : Lifetime packages state) :
    property state := by
  induction lifetime with
  | unraised between => exact lifelong.between between
  | raised call run ran =>
    have covers := lifelong.serving.covers_perform
      (lifelong.covers_outbound (outbound_onConnection _) fun ran waiting => .prefaced waiting ran)
      (fun errorCode => lifelong.covers_outbound (outbound_close errorCode)
        fun ran waiting => stable_waiting.close_ok ran waiting) call
    exact (covers _).raised ran run.waiting
  | closed _ ran held => exact lifelong.sends ((outbound_close _).reached ran) held

end SolveTls.HTTP2Session
