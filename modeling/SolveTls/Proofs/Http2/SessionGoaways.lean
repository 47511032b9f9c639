import SolveTls.Proofs.Http2.SessionDealing

/-! A session sends one GOAWAY at most, and nothing hides the error that a GOAWAY is about. -/

namespace SolveTls

open Fallible Exits List

variable {κ δ α : Type} {packages : Packages κ δ}

/-- Two laws about the ends of a call hold together. -/
theorem H2Call.Ends.and {first second : Except Exn α → κ → List WireFrame → Prop}
    {call : H2Call κ α} (one : call.Ends first) (other : call.Ends second) :
    call.Ends fun result core queued => first result core queued ∧ second result core queued := by
  induction call with
  | done result core queued => exact ⟨one, other⟩
  | decode _ _ ih => exact fun decoded => ih decoded (one decoded) (other decoded)
  | resizeEncoder _ _ ih => exact ih one other
  | encode _ _ ih => exact fun block => ih block (one block) (other block)

namespace HTTP2Session

variable {session : HTTP2Session κ δ} {connection : H2Adapter κ δ} {queued frames : List WireFrame}
  {message : String} {code errorCode : Nat} {action : SessionM κ δ α} {outcall : Outcall}
  {events : List Event}

/-! ### What has been written -/

/-- The frame is a GOAWAY that says what went wrong. -/
def Accuses (frame : WireFrame) : Prop := ∃ last code, frame = H2.goawayFrame last code ∧ IsFault code

/-- A GOAWAY that says what went wrong does not carry NO_ERROR. -/
theorem Accuses.ne {frame : WireFrame} (accuses : Accuses frame) (last : Nat) :
    frame ≠ H2.goawayFrame last ErrorCode.noError.code := by
  obtain ⟨last', code, rfl, faulty, fits⟩ := accuses
  intro same
  -- The codes are the last four octets of the payloads.
  have payloads := congrArg WireFrame.payload same
  have codes := (append_inj' payloads (by simp)).2
  have values := congrArg Octets.bigEndian codes
  rw [Octets.bigEndian_toBigEndian, Octets.bigEndian_toBigEndian] at values
  have zero : ErrorCode.noError.code = 0 := rfl
  rw [zero] at values faulty
  omega

/-- What has been written is truthful, given how much was written at each protocol error. -/
structure Truthful (errors : List Nat) (written : List (List WireFrame)) : Prop where
  accuses : errors ≠ [] → ∀ frame ∈ written.flatten, H2.isGoaway frame = true → Accuses frame
  hushed : ∀ count ∈ errors, ∀ frame ∈ (written.drop count).flatten, H2.isResponse frame = false

/-- A further write is truthful if its frames are, once there are errors. -/
theorem Truthful.append {errors : List Nat} {written : List (List WireFrame)} {batch : List WireFrame}
    (truthful : Truthful errors written)
    (accuses : errors ≠ [] → ∀ frame ∈ batch, H2.isGoaway frame = true → Accuses frame)
    (hushed : errors ≠ [] → ∀ frame ∈ batch, H2.isResponse frame = false) :
    Truthful errors (written ++ [batch]) := by
  constructor
  · intro faulty
    rw [flatten_append, flatten_singleton]
    exact forall_mem_append.mpr ⟨truthful.accuses faulty, accuses faulty⟩
  · intro count noted frame among
    -- Dropping from the front leaves the batch, or nothing at all.
    rw [drop_append, flatten_append, mem_append] at among
    rcases among with among | among
    · exact truthful.hushed count noted frame among
    · obtain ⟨frames, kept, within⟩ := mem_flatten.mp among
      obtain rfl := mem_singleton.mp (mem_of_mem_drop kept)
      exact hushed (ne_nil_of_mem noted) frame within

/-- Without errors, everything is truthful. -/
theorem truthful_nil (written : List (List WireFrame)) : Truthful [] written :=
  ⟨fun faulty => absurd rfl faulty, fun _ noted => by cases noted⟩

/-! ### States before and after an error -/

/-- Nothing has gone wrong, and no GOAWAY is on its way. -/
structure Live (session : HTTP2Session κ δ) : Prop where
  opened : session.closed = false
  faultless : session.history.errors = []
  unwritten : ∀ frame ∈ session.transport.written.flatten, H2.isGoaway frame = false
  unqueued : ∀ frame ∈ session.connection.outgoing, H2.isGoaway frame = false

/-- Besides, no part of a response is queued. -/
structure Calm (session : HTTP2Session κ δ) : Prop extends Live session where
  silent : ∀ frame ∈ session.connection.outgoing, H2.isResponse frame = false

/-- What is queued in a calm session is plain. -/
theorem Calm.plain (calm : Calm session) :
    H2.Plain session.connection.outgoing :=
  fun frame among => ⟨calm.silent frame among, calm.unqueued frame among⟩

/-- Frames that are queued behind the others are no GOAWAY either. -/
theorem Live.queueing (live : Live session)
    (outgoing : connection.outgoing = session.connection.outgoing ++ queued)
    (unqueued : ∀ frame ∈ queued, H2.isGoaway frame = false) :
    Live { session with connection } := by
  refine ⟨live.opened, live.faultless, live.unwritten, ?_⟩
  rw [outgoing]
  exact forall_mem_append.mpr ⟨live.unqueued, unqueued⟩

/-- Plain frames leave a session calm. -/
theorem Calm.queueing (calm : Calm session)
    (outgoing : connection.outgoing = session.connection.outgoing ++ queued)
    (plain : H2.Plain queued) : Calm { session with connection } := by
  refine ⟨calm.toLive.queueing outgoing fun frame among => (plain frame among).2, ?_⟩
  rw [outgoing]
  exact forall_mem_append.mpr ⟨calm.silent, fun frame among => (plain frame among).1⟩

/-- What has happened to the scripts of the transport does not matter. -/
theorem Calm.transported {transport : Transport} (calm : Calm session)
    (written : transport.written = session.transport.written) : Calm { session with transport } := by
  refine ⟨⟨calm.opened, calm.faultless, ?_, calm.unqueued⟩, calm.silent⟩
  rw [written]
  exact calm.unwritten

/-- An error has come up, and all that may still be sent about it is one GOAWAY that accuses. -/
structure Ended (raised : Exn) (session : HTTP2Session κ δ) : Prop where
  single : session.transport.written.flatten.countP H2.isGoaway ≤ if session.closed then 1 else 0
  unqueued : ∀ frame ∈ session.connection.outgoing, H2.isGoaway frame = false
  silent : session.history.errors ≠ [] →
    ∀ frame ∈ session.connection.outgoing, H2.isResponse frame = false
  truthful : Truthful session.history.errors session.transport.written
  /-- A protocol error whose GOAWAY is still to come is the one that is raised. -/
  faulty : session.history.errors ≠ [] → session.closed = false →
    ∃ message code, raised = .protocolError message code ∧ IsFault code

/-- The library has refused octets and queued the GOAWAY about it. -/
structure Refused (raised : Exn) (session : HTTP2Session κ δ) : Prop where
  opened : session.closed = false
  unwritten : ∀ frame ∈ session.transport.written.flatten, H2.isGoaway frame = false
  noted : session.history.errors = [session.transport.written.length]
  queued : ∃ message code answers last, raised = .protocolError message code ∧ IsFault code ∧
    H2.Plain answers ∧ session.connection.outgoing = answers ++ [H2.goawayFrame last code]

/-- Frames of which none is a GOAWAY are not counted. -/
theorem countP_goaway (none : ∀ frame ∈ frames, H2.isGoaway frame = false) :
    frames.countP H2.isGoaway = 0 := by
  rw [countP_eq_zero]
  intro frame among
  rw [none frame among]
  exact Bool.false_ne_true

/-- Any other error ends a live session without a trace. -/
theorem Live.ended (live : Live session) (raised : Exn) :
    Ended raised session := by
  refine ⟨?_, live.unqueued, ?_, ?_, ?_⟩
  · rw [countP_goaway live.unwritten]
    exact Nat.zero_le _
  · exact fun faulty => absurd live.faultless faulty
  · rw [live.faultless]
    exact truthful_nil _
  · exact fun faulty => absurd live.faultless faulty

/-- A protocol error that has queued nothing of its own ends a calm session. -/
theorem Calm.complained (calm : Calm session) (fault : IsFault code) {history : History}
    (noted : history.errors = [session.transport.written.length]) :
    Ended (.protocolError message code) { session with history } := by
  refine ⟨?_, calm.unqueued, fun _ => calm.silent, ?_, fun _ _ => ⟨_, _, rfl, fault⟩⟩
  · show session.transport.written.flatten.countP H2.isGoaway ≤ _
    rw [countP_goaway calm.unwritten]
    exact Nat.zero_le _
  · show Truthful history.errors session.transport.written
    rw [noted]
    constructor
    · intro _ frame among goaway
      rw [calm.unwritten frame among] at goaway
      cases goaway
    · -- Nothing has been written since the error came up.
      intro count among frame later
      rw [mem_singleton.mp among, drop_length] at later
      cases later

/-- A call that raised without queueing anything but plain frames ends a calm session. -/
theorem Calm.raised (calm : Calm session) {raised : Exn}
    (outgoing : connection.outgoing = session.connection.outgoing ++ queued)
    (plain : H2.Plain queued)
    (fault : ∀ message code, raised = .protocolError message code → IsFault code) :
    Ended raised { session with
      connection
      history := session.history.noting session.transport.written.length
        (.error raised : Except Exn α) } := by
  have longer : Calm { session with connection } := calm.queueing outgoing plain
  by_cases protocol : ∃ message code, raised = .protocolError message code
  · obtain ⟨message, code, rfl⟩ := protocol
    apply longer.complained (fault message code rfl)
    show session.history.errors ++ [session.transport.written.length] = _
    rw [calm.faultless, nil_append]
  · -- Only protocol errors are noted.
    have same : session.history.noting session.transport.written.length
        (.error raised : Except Exn α) = session.history := by
      cases raised with
      | protocolError message code => exact absurd ⟨message, code, rfl⟩ protocol
      | _ => rfl
    rw [same]
    exact longer.toLive.ended raised

/-! ### Sending -/

/-- Sending empties the queue, and what was in it may have been handed over. -/
theorem flush_hands (state : HTTP2Session κ δ) :
    ∃ transport, (flush state).2 = { state with
        transport, connection := { state.connection with outgoing := [] } } ∧
      transport.rejected = state.transport.rejected ∧
      (transport.written = state.transport.written ∨
        transport.written = state.transport.written ++ [state.connection.outgoing]) := by
  rw [flush_eq]
  by_cases queued : state.connection.outgoing ≠ []
  · rw [runWhen_pos queued]
    simp only [transportWrite, handOver]
    cases state.transport.writes.headD .sent with
    | sent => exact ⟨_, rfl, rfl, .inr rfl⟩
    | sentThenRaised raised => exact ⟨_, rfl, rfl, .inr rfl⟩
    | refused raised => exact ⟨_, rfl, rfl, .inl rfl⟩
  · rw [runWhen_neg queued]
    exact ⟨_, rfl, rfl, .inl rfl⟩

/-- However sending ends, a live session is calm after it. -/
theorem Live.flush (live : Live session) :
    Calm (HTTP2Session.flush session).2 := by
  obtain ⟨transport, shape, -, written⟩ := flush_hands session
  rw [shape]
  refine ⟨⟨live.opened, live.faultless, ?_, by simp⟩, by simp⟩
  -- What was handed over comes from the queue, where there was no GOAWAY either.
  rcases written with same | longer
  · rw [same]
    exact live.unwritten
  · rw [longer, flatten_append, flatten_singleton]
    exact forall_mem_append.mpr ⟨live.unwritten, live.unqueued⟩

/-- A closed session has come to its end if it has sent all it had to say. -/
theorem Ended.of_closed {raised : Exn} (closed : session.closed = true)
    (single : session.transport.written.flatten.countP H2.isGoaway ≤ 1)
    (sent : session.connection.outgoing = [])
    (truthful : Truthful session.history.errors session.transport.written) :
    Ended raised session := by
  refine ⟨?_, ?_, ?_, truthful, fun _ opened => ?_⟩
  · rw [closed, if_pos rfl]
    exact single
  · rw [sent]
    simp
  · rw [sent]
    simp
  · rw [closed] at opened
    cases opened

/-- Sending what is left after an error, with the flag set, brings it to its end. -/
theorem Ended.flush {raised : Exn} (closed : session.closed = true)
    (single : (session.transport.written ++ [session.connection.outgoing]).flatten.countP
      H2.isGoaway ≤ 1) (truthful : Truthful session.history.errors session.transport.written)
    (accuses : session.history.errors ≠ [] → ∀ frame ∈ session.connection.outgoing,
      H2.isGoaway frame = true → Accuses frame)
    (silent : session.history.errors ≠ [] → ∀ frame ∈ session.connection.outgoing,
      H2.isResponse frame = false) :
    Ended raised (HTTP2Session.flush session).2 := by
  obtain ⟨transport, shape, -, written⟩ := flush_hands session
  rw [shape]
  refine Ended.of_closed closed ?_ rfl ?_
  · show transport.written.flatten.countP H2.isGoaway ≤ 1
    rcases written with unsent | sent
    · rw [flatten_append, countP_append] at single
      rw [unsent]
      omega
    · rw [sent]
      exact single
  · show Truthful session.history.errors transport.written
    rcases written with unsent | sent
    · rw [unsent]
      exact truthful
    · rw [sent]
      exact truthful.append accuses silent

/-- Closing after an error keeps to its end if the code accuses where it has to. -/
theorem Ended.close (queues : packages.h2.Queues) {raised : Exn} (ended : Ended raised session)
    (fitting : session.history.errors ≠ [] → session.closed = false → IsFault errorCode)
    (later : Exn) : Ended later (HTTP2Session.close packages errorCode session).2 := by
  cases flag : session.closed with
  | true =>
    -- The GOAWAY has been queued before, so that only the rest is sent.
    rw [close_closed flag]
    refine Ended.flush flag ?_ ended.truthful ?_ ended.silent
    · have single := ended.single
      rw [flag, if_pos rfl] at single
      rw [flatten_append, flatten_singleton, countP_append,
        countP_goaway ended.unqueued]
      exact single
    · intro _ frame among goaway
      rw [ended.unqueued frame among] at goaway
      cases goaway
  | false =>
    obtain ⟨core, queued, decoder, encoder, calls, ⟨returned, last, rfl⟩, shape⟩ :=
      callH2_ends (session.closing errorCode) session (queues.closes session.connection.core
        errorCode (some (session.capture.streamId.getD 0)))
    rw [returned] at shape
    rw [close_opened flag (Prod.ext returned shape)]
    have single := ended.single
    rw [flag] at single
    refine Ended.flush rfl ?_ ended.truthful ?_ ?_
    · -- The queue has this one GOAWAY, and none was written before.
      show (session.transport.written ++ [session.connection.outgoing ++
        [H2.goawayFrame last errorCode]]).flatten.countP H2.isGoaway ≤ 1
      rw [flatten_append, flatten_singleton, countP_append, countP_append,
        countP_goaway ended.unqueued]
      have one : [H2.goawayFrame last errorCode].countP H2.isGoaway ≤ 1 := countP_le_length
      simp only [Bool.false_eq_true, if_false] at single
      omega
    · intro faulty
      refine forall_mem_append.mpr ⟨fun frame among goaway => ?_, ?_⟩
      · rw [ended.unqueued frame among] at goaway
        cases goaway
      · exact forall_mem_singleton.mpr fun _ => ⟨last, errorCode, rfl, fitting faulty flag⟩
    · exact fun faulty => forall_mem_append.mpr
        ⟨ended.silent faulty, forall_mem_singleton.mpr rfl⟩

/-! ### The exits -/

/-- Every write that was made while a protocol error was handled has gone through. -/
def Unhindered (session : HTTP2Session κ δ) : Prop :=
  ∀ outcome ∈ session.transport.rejected, outcome = .sent

/-- Closing is not part of handling an error. -/
theorem close_rejected (errorCode : Nat) (session : HTTP2Session κ δ) :
    (close packages errorCode session).2.transport.rejected = session.transport.rejected := by
  have progress : Progress fun before after : HTTP2Session κ δ =>
    after.transport.rejected = before.transport.rejected := ⟨fun _ => rfl, fun first second =>
      second.trans first⟩
  refine progress.within_bind progress.within_get (fun self => progress.within_bind
    (progress.within_runWhen _ ?_) fun _ state => ?_) session
  · exact progress.within_bind (fun _ => rfl) fun _ => within_modify fun _ => rfl
  · obtain ⟨transport, shape, same, -⟩ := flush_hands state
    rw [shape]
    exact same

/-- From a calm session on: what holds where it returns, and what holds where it raises. -/
def Departing (held : HTTP2Session κ δ → Prop) (ended : Exn → HTTP2Session κ δ → Prop) :
    Exits (HTTP2Session κ δ) Exn where
  returns before after := Calm before → held after
  raises before raised after := Calm before → Unhindered after → ended raised after

/-- What a calm session goes through leaves it calm until it raises. -/
theorem chained_departing (ended : Exn → HTTP2Session κ δ → Prop) :
    (Departing Calm ended).Chained :=
  chained_keeping

/-- The last step may lead to less than calm. -/
theorem leads_departing {held : HTTP2Session κ δ → Prop} {ended weaker : Exn → HTTP2Session κ δ → Prop}
    (holds : ∀ session, Calm session → held session)
    (implies : ∀ raised session, ended raised session → weaker raised session) :
    (Departing Calm ended).Leads (Departing held weaker) where
  stops kept calm := holds _ (kept calm)
  fails broke calm free := implies _ _ (broke calm free)
  trans earlier later calm := later (earlier calm)
  onward earlier later calm := later (earlier calm)

/-- A computation that leaves a calm session calm on every exit. -/
theorem at_calm {state : HTTP2Session κ δ} (kept : Calm state → Calm (action state).2) :
    (Departing Calm Ended).At state action := by
  constructor
  · intro value reached ran calm
    have after := kept calm
    rwa [ran] at after
  · intro error reached ran calm _
    have after := kept calm
    rw [ran] at after
    exact after.toLive.ended error

/-- The same from any state. -/
theorem covers_calm (kept : ∀ state, Calm state → Calm (action state).2) :
    (Departing Calm Ended).Covers action :=
  fun state => at_calm (kept state)

/-- A library call that queues nothing but plain frames. -/
theorem covers_plainCall (complains : packages.h2.Complains)
    (plain : ∀ core, (outcall.method packages.h2 core).Ends fun _ _ queued => H2.Plain queued) :
    (Departing Calm Ended).Covers (callH2 packages outcall.method) := by
  intro state
  obtain ⟨core, queued, decoder, encoder, calls, ⟨added, fault⟩, shape⟩ :=
    callH2_ends outcall.method state
      ((plain state.connection.core).and (complains.calls outcall state.connection.core))
  -- The queue is plain whether the call returned or not.
  constructor
  · intro value reached ran calm
    rw [ran] at shape
    dsimp only at shape
    rw [shape]
    exact calm.queueing rfl added
  · intro error reached ran calm _
    rw [ran] at shape fault
    dsimp only at shape
    rw [shape]
    exact calm.raised rfl added fun message code same => fault message code (congrArg _ same)

/-- Failing ends where closing does. -/
theorem fail_reached (message : String) (errorCode : Nat) (state : HTTP2Session κ δ) :
    ((fail packages message errorCode : SessionM κ δ α) state).2 =
      (HTTP2Session.close packages errorCode { state with history := { state.history with
        errors := state.history.errors ++ [state.transport.written.length] } }).2 := by
  simp only [fail, recordError, bind_apply, modify_apply]
  rcases HTTP2Session.close packages errorCode _ with ⟨raised | _, after⟩
  · rfl
  · rfl

/-- Failing leaves the one GOAWAY about it behind, written or lost. -/
theorem covers_fail (queues : packages.h2.Queues) (message : String) (fault : IsFault errorCode) :
    (Departing Calm Ended).Covers (fail packages message errorCode : SessionM κ δ α) := by
  intro state
  constructor
  · intro value reached ran
    exact (fail_eq_ok.mp ran).elim
  · intro error reached ran calm _
    have noted : Ended (.protocolError message errorCode) { state with
        history := { state.history with
          errors := state.history.errors ++ [state.transport.written.length] } } := by
      apply calm.complained fault
      rw [calm.faultless, nil_append]
    have closed := noted.close queues (fun _ _ => fault) error
    rwa [← fail_reached (α := α) message, ran] at closed

/-- A pause concerns nothing but the script. -/
theorem covers_pause : (Departing Calm Ended).Covers (pause : SessionM κ δ Unit) := by
  refine covers_calm fun state calm => ?_
  unfold pause
  cases state.transport.pauses.headD none <;> exact calm.transported rfl

/-- The frames of a header block are no GOAWAY. -/
theorem unqueued_block {streamId : Nat} {endStream : Bool}
    (block : H2.IsBlock streamId endStream frames) :
    ∀ frame ∈ frames, H2.isGoaway frame = false := by
  obtain ⟨first, rest, rfl, headers, -, -, continued⟩ := block
  intro frame among
  rcases mem_cons.mp among with rfl | among
  · rw [H2.isGoaway, headers]
    decide
  · rw [H2.isGoaway, continued frame among]
    decide

/-! ### Events that go with a request -/

/-- Other fields do not make a request less lonely. -/
theorem lone_withOriginalHeaders (lone : H2.Lone events) (original : Option (List Field)) :
    H2.Lone (events.map (H2Adapter.withOriginalHeaders original)) := by
  intro streamId headers among
  obtain ⟨event, known, same⟩ := mem_map.mp among
  cases event with
  | requestReceived streamId' headers' ended =>
    obtain ⟨rfl, rfl, rfl⟩ := Event.requestReceived.inj same
    -- The event is the one that was reported, with the decoded fields.
    rw [filter_withOriginalHeaders, lone streamId' headers' known]
    rfl
  | _ => cases same

/-! ### Dealing with a frame -/

section Dealing

variable (queues : packages.h2.Queues) (complains : packages.h2.Complains)

include queues complains

/-- Dealing with a frame leaves a calm session calm, or ends it. -/
theorem tending_departing : Tending packages (Departing (κ := κ) (δ := δ) Calm Ended) where
  toChained := chained_departing Ended
  notes := by
    intro before after connection transport closed errors _ calm
    refine ⟨⟨?_, ?_, ?_, ?_⟩, ?_⟩
    · rw [closed]
      exact calm.opened
    · rw [errors]
      exact calm.faultless
    · rw [transport]
      exact calm.unwritten
    · rw [connection]
      exact calm.unqueued
    · rw [connection]
      exact calm.silent
  throws _ raised _ calm _ := calm.toLive.ended raised
  validates _ _ calm _ := calm.toLive.ended _
  resets streamId errorCode := covers_plainCall complains fun core =>
    queues.resets core streamId errorCode
  acknowledges length streamId := covers_plainCall complains fun core =>
    queues.acknowledges core length streamId
  counts := covers_calm fun _ calm => calm.queueing (append_nil _).symm (by simp [H2.Plain])
  fails _ message _ fault := covers_fail queues message fault

/-- An error has ended the session, or its GOAWAY is still queued. -/
def Broken (raised : Exn) (session : HTTP2Session κ δ) : Prop :=
  Ended raised session ∨ Refused raised session

omit complains in
/-- Too many table sizes are answered with a GOAWAY, which is left in the queue. -/
theorem covers_quit (message : String) :
    (Departing (κ := κ) (δ := δ) Calm Broken).Covers (do
      callH2 packages fun h2 core => h2.closeConnection core ErrorCode.enhanceYourCalm.code none
      recordError
      throw (.protocolError message ErrorCode.enhanceYourCalm.code) : SessionM κ δ Unit) := by
  intro state
  obtain ⟨core, queued, decoder, encoder, calls, ⟨returned, last, rfl⟩, shape⟩ :=
    callH2_ends (fun h2 core => h2.closeConnection core ErrorCode.enhanceYourCalm.code none) state
      (queues.closes state.connection.core ErrorCode.enhanceYourCalm.code none)
  rcases called : callH2 packages (fun h2 core =>
    h2.closeConnection core ErrorCode.enhanceYourCalm.code none) state with ⟨result, middle⟩
  rw [called] at returned shape
  dsimp only at returned shape
  subst returned shape
  refine .of_error (by rw [bind_apply, called]; rfl) fun calm _ => ?_
  refine .inr ⟨calm.opened, calm.unwritten, ?_, ?_⟩
  · show state.history.errors ++ [state.transport.written.length] = _
    rw [calm.faultless, nil_append]
  · exact ⟨message, _, state.connection.outgoing, last, rfl, by decide, calm.plain, rfl⟩

omit queues complains in
/-- Any ending of a step may be the ending of a whole delivery. -/
theorem leads_broken : (Departing (κ := κ) (δ := δ) Calm Ended).Leads (Departing Calm Broken) :=
  leads_departing (fun _ => id) fun _ _ => .inl

omit queues complains in
/-- The last step of a delivery may queue a part of a response. -/
theorem leads_live : (Departing (κ := κ) (δ := δ) Calm Broken).Leads (Departing Live Broken) :=
  leads_departing (fun _ calm => calm.toLive) fun _ _ => id

/-- Octets are taken quietly, or they are refused with a GOAWAY. -/
theorem covers_receiveData (wire : Bytes) :
    (Departing Calm Broken).Covers (onConnection (H2Adapter.receiveData packages wire)) := by
  intro state
  obtain ⟨result, core, queued, decoder, encoder, calls, ⟨law, fault⟩, shape⟩ :=
    receiveData_ends state ((queues.receives state.connection.core wire).and
      (complains.receives state.connection.core wire))
  constructor
  · intro value reached ran calm
    rw [shape] at ran
    cases result with
    | error raised => cases (Prod.mk.inj ran).1
    | ok events =>
      obtain ⟨-, rfl⟩ := Prod.mk.inj ran
      rcases law with ⟨plain, -⟩ | ⟨message, code, answers, last, refused, -⟩
      · exact calm.queueing rfl plain
      · cases refused
  · intro error reached ran calm _
    rw [shape] at ran
    cases result with
    | ok events => cases (Prod.mk.inj ran).1
    | error raised =>
      obtain ⟨same, rfl⟩ := Prod.mk.inj ran
      obtain rfl := Except.error.inj same
      rcases law with ⟨plain, other⟩ | ⟨message, code, answers, last, refused, -, plain, rfl⟩
      · -- Any other error is as quiet as a return.
        refine .inl (calm.raised rfl plain fun message code same => ?_)
        exact absurd (congrArg _ same) (other message code)
      · obtain rfl := Except.error.inj refused
        refine .inr ⟨calm.opened, calm.unwritten, ?_, ?_⟩
        · show state.history.errors ++ [state.transport.written.length] = _
          rw [calm.faultless, nil_append]
        · refine ⟨message, code, state.connection.outgoing ++ answers, last, rfl,
            fault message code rfl, ?_, (append_assoc ..).symm⟩
          exact forall_mem_append.mpr ⟨calm.plain, plain⟩

/-- Passing it to the connection may also leave a GOAWAY in the queue. -/
theorem delivering_departing : Delivering packages (Departing (κ := κ) (δ := δ) Calm Broken) := by
  have tending := tending_departing queues complains
  refine ⟨⟨chained_departing Broken, tending.notes, ?_, ?_, ?_, ?_, ?_, ?_⟩, ?_, ?_, ?_, ?_, ?_⟩
  · exact fun _ raised _ calm _ => .inl (calm.toLive.ended raised)
  · exact fun _ _ calm _ => .inl (calm.toLive.ended _)
  · exact fun streamId errorCode => leads_broken.covers (tending.resets streamId errorCode)
  · exact fun length streamId => leads_broken.covers (tending.acknowledges length streamId)
  · exact leads_broken.covers tending.counts
  · exact fun α message errorCode fault => leads_broken.covers (tending.fails α message errorCode fault)
  · exact covers_receiveData queues complains
  · refine leads_broken.covers (covers_calm fun _ calm => ?_)
    exact ⟨⟨calm.opened, calm.faultless, calm.unwritten, fun _ among => by cases among⟩,
      fun _ among => by cases among⟩
  · exact fun changes => leads_broken.covers (covers_calm fun _ calm =>
      calm.queueing (append_nil _).symm (by simp [H2.Plain]))
  · exact leads_broken.covers covers_pause
  · exact covers_quit queues

/-- A first request may be told to continue, and then a part of a response is queued. -/
theorem covers_continue (streamId : Nat) (fields : List Field) :
    (Departing Live Broken).Covers
      (callH2 packages (Outcall.headers streamId fields false).method) := by
  intro state
  obtain ⟨core, queued, decoder, encoder, calls, ⟨law, fault⟩, shape⟩ :=
    callH2_ends (Outcall.headers streamId fields false).method state
      ((queues.headers state.connection.core streamId fields false).and
        (complains.calls (.headers streamId fields false) state.connection.core))
  constructor
  · intro value reached ran calm
    rw [ran] at shape law
    dsimp only at shape
    rw [shape]
    rcases law with ⟨-, block⟩ | ⟨⟨raised, failed⟩, -⟩
    · exact calm.toLive.queueing rfl (unqueued_block block)
    · cases failed
  · intro error reached ran calm _
    rw [ran] at shape law fault
    dsimp only at shape
    rw [shape]
    rcases law with ⟨returned, -⟩ | ⟨-, rfl⟩
    · cases returned
    · exact .inl (calm.raised rfl (by simp [H2.Plain]) fun message code same =>
        fault message code (congrArg _ same))

/-- Lonely events are dealt with, and at most a part of a response is queued. -/
theorem covers_lone (lone : H2.Lone events) :
    (Departing Live Broken).Covers (processEvents packages events) := by
  have delivering := delivering_departing queues complains
  have tending := delivering.toTending
  by_cases continued : ∃ streamId headers, Event.requestReceived streamId headers false ∈ events
  · obtain ⟨streamId, headers, among⟩ := continued
    have only := lone streamId headers among
    clear lone among
    -- The induction is on the events, up to the one that carries something.
    induction events with
    | nil => cases only
    | cons event rest ih =>
      by_cases content : H2.isContent event = true
      · rw [filter_cons_of_pos content] at only
        obtain ⟨rfl, aside⟩ := List.cons.inj only
        have request := tending.covers_processRequest leads_live streamId headers false
          fun _ fields => covers_continue queues complains streamId fields
        intro state
        constructor
        · intro value reached ran calm
          obtain ⟨_, middle, ran₁, ran₂⟩ := bind_eq_ok.mp ran
          obtain ⟨cancelled, passed⟩ := processEvents_aside packages aside middle
          obtain ⟨-, rfl⟩ := Prod.mk.inj (passed.symm.trans ran₂)
          have live := (request state).returned ran₁ calm
          exact ⟨live.opened, live.faultless, live.unwritten, live.unqueued⟩
        · intro error reached ran calm
          rcases bind_eq_error.mp ran with ran₁ | ⟨_, middle, -, ran₂⟩
          · exact (request state).raised ran₁ calm
          · obtain ⟨cancelled, passed⟩ := processEvents_aside packages aside middle
            cases (Prod.mk.inj (passed.symm.trans ran₂)).1
      · rw [filter_cons_of_neg content] at only
        refine leads_live.covers_bind (tending.covers_processEvent event ?_) fun _ => ih only
        rintro streamId' headers' ended rfl
        exact absurd rfl content
  · -- Requests that come with their ends are never told to continue.
    refine leads_live.covers (tending.covers_processEvents events fun streamId headers ended among => ?_)
    refine tending.covers_processRequest tending.toChained.leads streamId headers ended fun open' => ?_
    rw [open'] at among
    exact absurd ⟨streamId, headers, among⟩ continued

/-- The octets of a frame lead to a part of a response at most. -/
theorem covers_receiveWire {wire : Bytes} (framed : IsWireFrame wire) :
    (Departing Live Broken).Covers (receiveWire packages wire) := by
  have delivering := delivering_departing queues complains
  refine leads_live.covers_bind (covers_modify fun _ => delivering.notes rfl rfl rfl rfl id) fun _ => ?_
  intro state
  refine leads_live.at_bind (delivering.takes wire state) fun events reached ran => ?_
  -- The events that were returned are those of the library.
  obtain ⟨result, core, queued, decoder, encoder, calls, law, shape⟩ :=
    receiveData_ends state (complains.requests state.connection.core wire framed)
  rw [shape] at ran
  cases result with
  | error raised => cases (Prod.mk.inj ran).1
  | ok raw =>
    obtain ⟨same, -⟩ := Prod.mk.inj ran
    obtain rfl := Except.ok.inj same
    exact covers_lone queues complains (lone_withOriginalHeaders (law raw rfl) _) reached

end Dealing

/-! ### Handling a protocol error -/

/-- The handler has nothing to write when nothing is queued. -/
theorem handleProtocolError_empty (opened : session.closed = false)
    (empty : session.connection.outgoing = []) :
    handleProtocolError (.protocolError message code) session =
      (.error (.protocolError message code),
        { session with connection := { session.connection with outgoing := [] } }) := by
  have unclosed : ¬ session.closed = true := by simp [opened]
  simp only [handleProtocolError, bind_apply, get_apply, runWhen_pos unclosed, drain_apply,
    runWhen_neg (not_not.mpr empty), pure_apply, throw_apply]

/-- The handler writes what is queued; if that goes through it sets the flag and raises again. -/
theorem handleProtocolError_queued (opened : session.closed = false)
    (queued : session.connection.outgoing ≠ []) :
    ∃ error after,
      handleProtocolError (.protocolError message code) session = (.error error, after) ∧
      (Unhindered after → error = .protocolError message code ∧ Unhindered session ∧
        after.closed = true ∧
        after.transport.written = session.transport.written ++ [session.connection.outgoing] ∧
        after.connection.outgoing = [] ∧ after.history = session.history) := by
  have unclosed : ¬ session.closed = true := by simp [opened]
  simp only [handleProtocolError, bind_apply, get_apply, runWhen_pos unclosed, drain_apply,
    runWhen_pos queued, transportReject]
  -- A write that did not go through is noted as such.
  have hindered (outcome : WriteOutcome) : outcome ∈ session.transport.rejected ++ [outcome] :=
    mem_append_right _ (mem_singleton_self _)
  cases session.transport.rejections.headD .sent with
  | sent =>
    refine ⟨_, _, rfl, fun free => ⟨rfl, fun outcome among => ?_, rfl, rfl, rfl, rfl⟩⟩
    exact free outcome (mem_append_left _ among)
  | sentThenRaised raised => exact ⟨_, _, rfl, fun free => by cases free _ (hindered _)⟩
  | refused raised => exact ⟨_, _, rfl, fun free => by cases free _ (hindered _)⟩

/-- What is queued about an error may be written. -/
theorem Broken.rejected {raised : Exn} (broken : Broken raised session)
    (opened : session.closed = false) :
    (session.transport.written ++ [session.connection.outgoing]).flatten.countP H2.isGoaway ≤ 1 ∧
      Truthful session.history.errors
        (session.transport.written ++ [session.connection.outgoing]) := by
  rw [flatten_append, flatten_singleton, countP_append]
  rcases broken with ended | refused
  · have single := ended.single
    rw [opened] at single
    simp only [Bool.false_eq_true, if_false] at single
    refine ⟨?_, ended.truthful.append (fun _ frame among goaway => ?_) ended.silent⟩
    · rw [countP_goaway ended.unqueued]
      omega
    · rw [ended.unqueued frame among] at goaway
      cases goaway
  · obtain ⟨message, code, answers, last, -, fault, plain, queued⟩ := refused.queued
    have uncounted := countP_goaway fun frame among => (plain frame among).2
    have one : [H2.goawayFrame last code].countP H2.isGoaway ≤ 1 := countP_le_length
    refine ⟨?_, Truthful.append ⟨?_, ?_⟩ (fun _ => ?_) fun _ => ?_⟩
    · rw [countP_goaway refused.unwritten, queued, countP_append, uncounted]
      omega
    · intro _ frame among goaway
      rw [refused.unwritten frame among] at goaway
      cases goaway
    · intro count noted frame among
      rw [refused.noted] at noted
      rw [mem_singleton.mp noted, drop_length] at among
      cases among
    · -- The GOAWAY has the code of the error.
      rw [queued]
      refine forall_mem_append.mpr ⟨fun frame among goaway => ?_, ?_⟩
      · rw [(plain frame among).2] at goaway
        cases goaway
      · exact forall_mem_singleton.mpr fun _ => ⟨last, code, rfl, fault⟩
    · rw [queued]
      exact forall_mem_append.mpr ⟨fun frame among => (plain frame among).1,
        forall_mem_singleton.mpr rfl⟩

/-- A handled error is raised again, and has come to its end, unless writing about it failed. -/
theorem handleProtocolError_broken {raised : Exn}
    (broke : Unhindered session → Broken raised session) :
    ∃ error after, handleProtocolError raised session = (.error error, after) ∧
      (Unhindered after → error = raised ∧ Ended raised after) := by
  by_cases protocol : ∃ message code, raised = .protocolError message code
  · obtain ⟨message, code, rfl⟩ := protocol
    cases flag : session.closed with
    | true =>
      refine ⟨_, session, ?_, fun free => ⟨rfl, ?_⟩⟩
      · simp only [handleProtocolError, bind_apply, get_apply, runWhen_neg (not_not.mpr flag),
          pure_apply, throw_apply]
      · rcases broke free with ended | refused
        · exact ended
        · cases flag.symm.trans refused.opened
    | false =>
      by_cases empty : session.connection.outgoing = []
      · -- Nothing was queued, so the GOAWAY is still to come.
        refine ⟨_, _, handleProtocolError_empty flag empty, fun free => ⟨rfl, ?_⟩⟩
        rcases broke free with ended | refused
        · refine ⟨ended.single, ?_, ?_, ended.truthful, ended.faulty⟩
          · exact fun _ among => by cases among
          · exact fun _ _ among => by cases among
        · obtain ⟨_, _, answers, last, -, -, -, queued⟩ := refused.queued
          rw [empty] at queued
          simp at queued
      · obtain ⟨error, after, ran, wrote⟩ := handleProtocolError_queued flag empty
        refine ⟨error, after, ran, fun free => ?_⟩
        obtain ⟨same, before, closed, written, sent, history⟩ := wrote free
        obtain ⟨single, truthful⟩ := (broke before).rejected flag
        rw [← written] at single truthful
        rw [← history] at truthful
        exact ⟨same, Ended.of_closed closed single sent truthful⟩
  · have passed : handleProtocolError raised session = (.error raised, session) := by
      cases raised with
      | protocolError message code => exact absurd ⟨message, code, rfl⟩ protocol
      | _ => rfl
    refine ⟨raised, session, passed, fun free => ⟨rfl, ?_⟩⟩
    rcases broke free with ended | refused
    · exact ended
    · obtain ⟨message, code, _, _, same, -⟩ := refused.queued
      exact absurd ⟨message, code, same⟩ protocol

/-! ### Whole calls -/

section Calls

variable (queues : packages.h2.Queues) (complains : packages.h2.Complains)

include queues complains

/-- Receiving it sends what was queued, and the handler brings an error to its end. -/
theorem attending_departing : Attending packages (Departing (κ := κ) (δ := δ) Calm Ended) := by
  refine ⟨tending_departing queues complains, fun frame wire framed state => ?_, ?_, covers_pause⟩
  · have delivers := (delivering_departing queues complains).covers_deliver leads_live frame
      (covers_receiveWire queues complains framed) state
    rcases delivered : deliver packages frame wire state with ⟨raised | value, reached⟩
    · -- The handler raises an error again, so that nothing is sent behind it.
      constructor
      · intro value after ran calm
        obtain ⟨_, _, handled, -⟩ := handleProtocolError_broken (delivers.raised delivered calm)
        simp only [bind_apply, tryCatch_apply, delivered, handled] at ran
        cases ran
      · intro error after ran calm free
        obtain ⟨_, _, handled, ended⟩ := handleProtocolError_broken (delivers.raised delivered calm)
        simp only [bind_apply, tryCatch_apply, delivered, handled] at ran
        obtain ⟨same, rfl⟩ := Prod.mk.inj ran
        obtain rfl := Except.error.inj same
        obtain ⟨rfl, ended⟩ := ended free
        exact ended
    · -- What was queued is sent, whatever it is.
      refine at_calm fun calm => ?_
      simp only [bind_apply, tryCatch_apply, delivered]
      exact (delivers.returned delivered calm).flush
  · exact covers_calm fun _ calm => calm.toLive.flush

/-- Library calls that are no GOAWAY queue none, and nothing of a response when they raise. -/
theorem speaking (speaks : ∀ errorCode last, outcall ≠ .goaway errorCode last) (core : κ) :
    (outcall.method packages.h2 core).Ends fun result _ queued =>
      ((∀ frame ∈ queued, H2.isGoaway frame = false) ∧
        ((∃ raised, result = .error raised) → H2.Plain queued)) ∧
      ∀ message code, result = .error (.protocolError message code) → IsFault code := by
  refine H2Call.Ends.and (H2Call.Ends.and ?_ (queues.raising outcall core))
    (complains.calls outcall core)
  have plainly {queued : List WireFrame} (plain : H2.Plain queued) :
      ∀ frame ∈ queued, H2.isGoaway frame = false := fun frame among => (plain frame among).2
  cases outcall with
  | goaway errorCode last => exact absurd rfl (speaks errorCode last)
  | initiate => exact (queues.initiates core).mono fun _ _ _ => plainly
  | reset streamId errorCode =>
    exact (queues.resets core streamId errorCode).mono fun _ _ _ => plainly
  | acknowledge length streamId =>
    exact (queues.acknowledges core length streamId).mono fun _ _ _ => plainly
  | headers streamId fields endStream =>
    refine (queues.headers core streamId fields endStream).mono ?_
    rintro _ _ _ (⟨rfl, block⟩ | ⟨-, rfl⟩)
    · exact unqueued_block block
    · simp
  | data streamId content endStream =>
    refine (queues.data core streamId content endStream).mono ?_
    rintro _ _ _ (⟨rfl, rfl⟩ | ⟨-, rfl⟩)
    · exact forall_mem_singleton.mpr rfl
    · simp

/-- What a library call queued is sent at once. -/
theorem covers_exchange (speaks : ∀ errorCode last, outcall ≠ .goaway errorCode last) :
    (Departing Calm Ended).Covers (do callH2 packages outcall.method; flush) := by
  intro state
  obtain ⟨core, queued, decoder, encoder, calls, ⟨⟨unqueued, plain⟩, fault⟩, shape⟩ :=
    callH2_ends outcall.method state (speaking queues complains speaks state.connection.core)
  rcases called : callH2 packages outcall.method state with ⟨raised | value, middle⟩
  · rw [called] at shape plain fault
    dsimp only at shape
    subst shape
    exact .of_error (by rw [bind_apply, called]) fun calm _ => calm.raised rfl (plain ⟨raised, rfl⟩)
      fun message code same => fault message code (congrArg _ same)
  · rw [called] at shape
    dsimp only at shape
    subst shape
    refine at_calm fun calm => ?_
    rw [bind_apply, called]
    exact (calm.toLive.queueing rfl unqueued).flush

/-- Every step of a call leaves a calm session calm, or ends it. -/
theorem serving_departing : Serving packages (Departing (κ := κ) (δ := δ) Calm Ended) where
  toChained := chained_departing Ended
  throws _ raised _ calm _ := calm.toLive.ended raised
  begins _ calm := ⟨⟨calm.opened, calm.faultless, calm.unwritten, calm.unqueued⟩, calm.silent⟩
  reads := by
    refine covers_calm fun state calm => ?_
    unfold transportRead
    split
    · exact calm
    · exact calm.transported rfl
  exchanges _ speaks := covers_exchange queues complains speaks
  windows streamId := by
    intro state
    rcases flowControlWindow_cases packages streamId state with
      ⟨window, -, asked⟩ | ⟨raised, known, asked⟩
    · constructor
      · intro value after ran calm
        obtain ⟨-, rfl⟩ := Prod.mk.inj (asked.symm.trans ran)
        exact calm
      · intro error after ran
        cases (Prod.mk.inj (asked.symm.trans ran)).1
    · constructor
      · intro value after ran
        cases (Prod.mk.inj (asked.symm.trans ran)).1
      · intro error after ran calm _
        obtain ⟨same, rfl⟩ := Prod.mk.inj (asked.symm.trans ran)
        obtain rfl := Except.error.inj same
        refine calm.raised (append_nil _).symm (by simp [H2.Plain]) fun message code same => ?_
        rw [same] at known
        exact complains.windows _ _ message code known
  fails message _ fault := covers_fail queues message fault
  receives := (attending_departing queues complains).covers_receive

end Calls

end HTTP2Session

end SolveTls
