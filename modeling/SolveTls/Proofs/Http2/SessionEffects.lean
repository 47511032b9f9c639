import SolveTls.Proofs.Http2.SessionSteps

/-! What each method of the session can change, on every path it may take. -/

namespace SolveTls.HTTP2Session

open Fallible

variable {κ δ α : Type} {packages : Packages κ δ}
variable {condition : Prop} {message : String} {errorCode : Nat}
  {state final before after : HTTP2Session κ δ}

/-! ### Methods that only talk to the connection and the transport -/

/-- Only the connection, what was sent, the closed flag and some of the history may differ. -/
structure Outbound (before after : HTTP2Session κ δ) : Prop where
  shape : ∃ connection transport closed applied errors, after = { before with
    connection, transport, closed, history := { before.history with applied, errors } }
  reads : after.transport.reads = before.transport.reads
  closed : before.closed = true → after.closed = true

/-- Output after output is output. -/
theorem outbound : Progress (Outbound (κ := κ) (δ := δ)) where
  refl state := ⟨⟨state.connection, state.transport, state.closed, state.history.applied,
    state.history.errors, rfl⟩, rfl, id⟩
  trans first second := by
    -- The later state overwrites the same fields again.
    obtain ⟨⟨_, _, _, _, _, rfl⟩, reads, closed⟩ := first
    obtain ⟨⟨connection, transport, flag, applied, errors, rfl⟩, reads', closed'⟩ := second
    exact ⟨⟨connection, transport, flag, applied, errors, rfl⟩, reads'.trans reads,
      closed' ∘ closed⟩

/-- An outcome is noted among the errors or not at all. -/
theorem noting_shape (history : History) (written : Nat) (outcome : Except Exn α) :
    ∃ errors, history.noting written outcome = { history with errors } := by
  unfold History.noting
  split
  · exact ⟨_, rfl⟩
  · exact ⟨history.errors, rfl⟩

/-- A call on the connection is output, also where it raises. -/
theorem outbound_onConnection (method : Fallible (H2Adapter κ δ) Exn α) :
    Within Outbound (onConnection method) := by
  intro state
  -- Whatever the method does, it can only replace the connection and note its error.
  obtain ⟨errors, noted⟩ := noting_shape state.history state.transport.written.length
    (method state.connection).1
  refine ⟨⟨(method state.connection).2, state.transport, state.closed, state.history.applied,
    errors, ?_⟩, rfl, id⟩
  simp only [onConnection, noted]

/-- So is a call of h2 itself. -/
theorem outbound_callH2 (method : H2 κ → κ → H2Call κ α) :
    Within Outbound (callH2 packages method) := outbound_onConnection _

/-- Frames are handed to the transport or they are not. -/
theorem outbound_handOver (outcome : WriteOutcome) (frames : List WireFrame) :
    Within Outbound (handOver outcome frames : SessionM κ δ Unit) := by
  intro state
  -- Each of the three endings of a write changes what was written at most.
  cases outcome with
  | sent => exact ⟨⟨_, _, state.closed, _, _, rfl⟩, rfl, id⟩
  | sentThenRaised raised => exact ⟨⟨_, _, state.closed, _, _, rfl⟩, rfl, id⟩
  | refused raised => exact outbound.refl state

/-- A write consults its script first. -/
theorem outbound_transportWrite (frames : List WireFrame) :
    Within Outbound (transportWrite frames : SessionM κ δ Unit) := by
  intro state
  -- The script moves on, and the write ends as it said.
  refine outbound.trans ?_ (outbound_handOver _ frames _)
  exact ⟨⟨_, _, state.closed, _, _, rfl⟩, rfl, id⟩

/-- So does the write of a refusal. -/
theorem outbound_transportReject (frames : List WireFrame) :
    Within Outbound (transportReject frames : SessionM κ δ Unit) := by
  intro state
  -- The script moves on, and the write ends as it said.
  refine outbound.trans ?_ (outbound_handOver _ frames _)
  exact ⟨⟨_, _, state.closed, _, _, rfl⟩, rfl, id⟩

/-- A pause consults its own script. -/
theorem outbound_pause : Within Outbound (pause : SessionM κ δ Unit) := by
  intro state
  unfold pause
  cases state.transport.pauses.headD none with
  | none => exact ⟨⟨_, _, state.closed, _, _, rfl⟩, rfl, id⟩
  | some raised => exact ⟨⟨_, _, state.closed, _, _, rfl⟩, rfl, id⟩

/-- Talking to the connection and the transport changes nothing else. -/
theorem talking_outbound : Talking fun _ action => Within (Outbound (κ := κ) (δ := δ)) action where
  toLooking := looking_within outbound
  throws := outbound.within_throw
  connects := outbound_onConnection
  writes := outbound_transportWrite
  rejects := outbound_transportReject
  pauses := outbound_pause
  errs := within_modify fun _ => ⟨⟨_, _, _, _, _, rfl⟩, rfl, id⟩
  closes := within_modify fun _ => ⟨⟨_, _, true, _, _, rfl⟩, rfl, fun _ => rfl⟩
  applies _ := within_modify fun _ => ⟨⟨_, _, _, _, _, rfl⟩, rfl, id⟩

/-- Flushing sends what is queued. -/
theorem outbound_flush : Within Outbound (flush : SessionM κ δ Unit) := talking_outbound.on_flush

/-- Closing sends a GOAWAY frame and sets the flag. -/
theorem outbound_close (errorCode : Nat) : Within Outbound (close packages errorCode) :=
  talking_outbound.on_close errorCode

/-- Failing closes the session before it raises. -/
theorem outbound_fail (message : String) (errorCode : Nat) :
    Within Outbound (fail packages message errorCode : SessionM κ δ α) :=
  talking_outbound.on_fail message errorCode

/-- A check may fail with any code. -/
theorem outbound_failIf (condition : Prop) [Decidable condition] (message : String)
    (errorCode : Nat) : Within Outbound (failIf packages condition message errorCode) :=
  outbound.within_runWhen _ (outbound_fail message errorCode)

/-- Settings change the connection only. -/
theorem outbound_applySettings (entries : List (Nat × Nat)) :
    Within Outbound (applySettings packages entries) :=
  talking_outbound.applying.on_applySettings entries

/-- Counting priorities can only fail. -/
theorem outbound_checkPriorityLimit : Within Outbound (checkPriorityLimit packages) :=
  talking_outbound.checking.on_checkPriorityLimit

/-- Validating fields can only fail. -/
theorem outbound_validateEvent (headers : Option (List Field)) (trailers : Bool) :
    Within Outbound (validateEvent packages headers trailers) :=
  talking_outbound.checking.on_validateEvent headers trailers

/-- An error of the protocol sends what is queued, and is raised again. -/
theorem outbound_handleProtocolError (raised : Exn) :
    Within Outbound (handleProtocolError raised : SessionM κ δ Unit) :=
  talking_outbound.on_handleProtocolError raised

/-- A check whose condition holds fails. -/
theorem failIf_pos [Decidable condition] (holds : condition) (message : String) (errorCode : Nat) :
    failIf packages condition message errorCode = fail packages message errorCode :=
  runWhen_pos holds _

/-- A check whose condition fails does nothing. -/
theorem failIf_neg [Decidable condition] (fails : ¬ condition) (message : String)
    (errorCode : Nat) :
    failIf packages condition message errorCode = pure () :=
  runWhen_neg fails _

/-- Failing never returns. -/
theorem fail_eq_ok {result : α} :
    (fail packages message errorCode : SessionM κ δ α) state = (.ok result, final) ↔ False := by
  simp only [fail, bind_eq_ok, throw_eq_ok, and_false, exists_false]

/-- Failing raises, after nothing but output. -/
theorem fail_raises (packages : Packages κ δ) (message : String) (errorCode : Nat)
    (state : HTTP2Session κ δ) :
    ∃ raised after, (fail packages message errorCode : SessionM κ δ α) state =
      (.error raised, after) ∧ Outbound state after := by
  rcases ran : (fail packages message errorCode : SessionM κ δ α) state with ⟨raised | value, after⟩
  · exact ⟨raised, after, rfl, (outbound_fail message errorCode).reached ran⟩
  · exact (fail_eq_ok.mp ran).elim

/-- A check returns exactly when its condition fails, and changes nothing. -/
theorem failIf_eq_ok [Decidable condition] {result : Unit} :
    failIf packages condition message errorCode state = (.ok result, final) ↔
      ¬ condition ∧ state = final := by
  by_cases holds : condition
  · rw [failIf_pos holds, fail_eq_ok]
    exact ⟨False.elim, fun passed => passed.1 holds⟩
  · rw [failIf_neg holds, pure_eq_ok]
    exact ⟨fun same => ⟨holds, same.2⟩, fun same => ⟨rfl, same.2⟩⟩

/-! ### Methods that handle the events of one frame -/

/-- What a state says about the accepted request. -/
def acceptedRequest (session : HTTP2Session κ δ) :
    Option Nat × Option (List Field) × List HTTP2Capture :=
  (session.capture.streamId, session.capture.headers, session.history.accepted)

/-- The first request is noted together with the capture it was accepted in. -/
structure Accepts (before after : HTTP2Session κ δ) (snapshot : HTTP2Capture) : Prop where
  first : before.capture.streamId = none
  frames : snapshot.frames = before.capture.frames
  initialSettings : snapshot.initialSettings = before.capture.initialSettings
  complete : snapshot.streamId.isSome
  noted : acceptedRequest after =
    (snapshot.streamId, snapshot.headers, before.history.accepted ++ [snapshot])

/-- What the handling of events leaves alone, and how the accepted request may change. -/
structure Handling (before after : HTTP2Session κ δ) : Prop where
  buffer : after.buffer = before.buffer
  captureBytes : after.captureBytes = before.captureBytes
  captureEntries : after.captureEntries = before.captureEntries
  frames : after.capture.frames = before.capture.frames
  initialSettings : after.capture.initialSettings = before.capture.initialSettings
  firstFrame : after.firstFrame = before.firstFrame
  continuationStream : after.continuationStream = before.continuationStream
  headerBlockBytes : after.headerBlockBytes = before.headerBlockBytes
  initialized : after.initialized = before.initialized
  reads : after.transport.reads = before.transport.reads
  processed : after.history.processed = before.history.processed
  handed : after.history.handed = before.history.handed
  idle : after.history.idle = before.history.idle
  closed : before.closed = true → after.closed = true
  cancelled : before.cancelled = true → after.cancelled = true
  request : acceptedRequest after = acceptedRequest before ∨
    ∃ snapshot, Accepts before after snapshot

/-- Handling one event after another is handling events. -/
theorem handling : Progress (Handling (κ := κ) (δ := δ)) where
  refl _ := ⟨rfl, rfl, rfl, rfl, rfl, rfl, rfl, rfl, rfl, rfl, rfl, rfl, rfl, id, id, .inl rfl⟩
  trans := by
    intro first middle last before after
    -- A request is accepted at most once, because the second time one is there already.
    have request : acceptedRequest last = acceptedRequest first ∨
        ∃ snapshot, Accepts first last snapshot := by
      rcases before.request with same | ⟨snapshot, accepts⟩
      · rcases after.request with same' | ⟨snapshot, accepts⟩
        · exact .inl (same'.trans same)
        · simp only [acceptedRequest, Prod.mk.injEq] at same
          refine .inr ⟨snapshot, ?_, ?_, ?_, accepts.complete, ?_⟩
          · rw [← same.1]
            exact accepts.first
          · rw [accepts.frames, before.frames]
          · rw [accepts.initialSettings, before.initialSettings]
          · rw [accepts.noted, same.2.2]
      · rcases after.request with same | ⟨second, accepts'⟩
        · exact .inr ⟨snapshot, accepts.first, accepts.frames, accepts.initialSettings,
            accepts.complete, same.trans accepts.noted⟩
        · have noted := accepts.noted
          simp only [acceptedRequest, Prod.mk.injEq] at noted
          have complete := accepts.complete
          rw [← noted.1, accepts'.first] at complete
          cases complete
    exact ⟨after.buffer.trans before.buffer, after.captureBytes.trans before.captureBytes,
      after.captureEntries.trans before.captureEntries, after.frames.trans before.frames,
      after.initialSettings.trans before.initialSettings, after.firstFrame.trans before.firstFrame,
      after.continuationStream.trans before.continuationStream,
      after.headerBlockBytes.trans before.headerBlockBytes,
      after.initialized.trans before.initialized, after.reads.trans before.reads,
      after.processed.trans before.processed, after.handed.trans before.handed,
      after.idle.trans before.idle, after.closed ∘ before.closed,
      after.cancelled ∘ before.cancelled, request⟩

/-- Output leaves alone what the handling of events leaves alone. -/
theorem Outbound.handling (same : Outbound before after) :
    Handling before after := by
  obtain ⟨⟨connection, transport, closed, applied, errors, rfl⟩, reads, kept⟩ := same
  exact ⟨rfl, rfl, rfl, rfl, rfl, rfl, rfl, rfl, rfl, reads, rfl, rfl, rfl, kept, id, .inl rfl⟩

/-- Output does not touch the capture. -/
theorem Outbound.capture (same : Outbound before after) :
    after.capture = before.capture := by
  obtain ⟨⟨connection, transport, closed, applied, errors, rfl⟩, -, -⟩ := same
  rfl

/-- A method that only reaches the connection and the transport handles events harmlessly. -/
theorem handling_of_outbound {action : SessionM κ δ α} (within : Within Outbound action) :
    Within Handling action :=
  within.mono fun _ _ same => same.handling

/-- Output is harmless to a relation, and so are the notes about a request. -/
theorem reacting_within {relation : HTTP2Session κ δ → HTTP2Session κ δ → Prop}
    (progress : Progress relation)
    (keeps : ∀ before after, Outbound before after → relation before after)
    (notes : ∀ (note : Note) state, relation state (note.write state)) :
    Reacting packages fun _ action => Within relation action where
  toLooking := looking_within progress
  throws _ := progress.within_throw _
  validates _ _ := progress.within_throw _
  counts := (outbound_onConnection _).mono keeps
  fails message _ _ := (outbound_fail message _).mono keeps
  acknowledges _ _ := (outbound_callH2 _).mono keeps
  notes note := within_modify (notes note)

/-- The notes about a request are part of handling its events. -/
theorem reacting_handling : Reacting packages fun _ action => Within Handling action := by
  refine reacting_within handling (fun _ _ same => same.handling) fun note state => ?_
  have kept : state.cancelled = true → (note.write state).cancelled = true := by
    cases note with
    | cancels => exact fun _ => rfl
    | _ => exact id
  cases note <;>
    exact ⟨rfl, rfl, rfl, rfl, rfl, rfl, rfl, rfl, rfl, rfl, rfl, rfl, rfl, id, kept, .inl rfl⟩

/-- Accepting a request in a state without one notes it, and changes nothing else of the kind. -/
theorem handling_acceptRequest (first : state.capture.streamId = none) (streamId : Nat)
    (headers : List Field) (streamEnded : Bool) :
    Handling state (acceptRequest packages streamId headers streamEnded state).2 := by
  have reacting : Reacting packages fun _ action => Within Handling action := reacting_handling
  refine reacting.on_acceptRequest (fun action => Handling state (action state).2)
    reacting.leading streamId headers streamEnded
    (fun next later => handling.bind_at ?_ fun _ reached _ => later reached)
    fun _ _ => handling_of_outbound (outbound_callH2 _)
  -- The snapshot is the capture with the new stream and fields in it.
  exact ⟨rfl, rfl, rfl, rfl, rfl, rfl, rfl, rfl, rfl, rfl, rfl, rfl, rfl, id, id,
    .inr ⟨{ state.capture with streamId := some streamId, headers := some headers }, first, rfl,
      rfl, rfl, rfl⟩⟩

/-- Only the first request is accepted; any other is refused or fails. -/
theorem handling_processRequest (streamId : Nat) (headers : Option (List Field))
    (streamEnded : Bool) : Within Handling (processRequest packages streamId headers streamEnded) := by
  intro state
  unfold processRequest
  refine handling.bind_at ?_ fun _ filtered _ => ?_
  · exact ⟨rfl, rfl, rfl, rfl, rfl, rfl, rfl, rfl, rfl, rfl, rfl, rfl, rfl, id, id, .inl rfl⟩
  · refine handling.bind_at (handling.refl filtered) fun self reached ran => ?_
    obtain ⟨rfl, rfl⟩ := get_eq_ok.mp ran
    by_cases present : filtered.capture.streamId.isSome
    · -- A further request is refused on its own stream.
      rw [if_pos present]
      exact handling_of_outbound (outbound_callH2 _) filtered
    · rw [if_neg present]
      have absent : filtered.capture.streamId = none := by simpa using present
      refine handling.bind_at (outbound_checkPriorityLimit filtered).handling fun _ counted ran => ?_
      have limited := outbound_checkPriorityLimit.reached ran
      refine handling.bind_at (outbound_validateEvent headers false counted).handling
        fun fields checked ran => ?_
      have validated := (outbound_validateEvent headers false).reached ran
      -- Neither check touches the capture, so there is still no request in it.
      have still : checked.capture.streamId = none := by
        rw [validated.capture, limited.capture, absent]
      exact handling_acceptRequest still _ _ _

/-- The events of a frame are handled one after another. -/
theorem handling_processEvents (events : List Event) :
    Within Handling (processEvents packages events) := by
  have reacting : Reacting packages fun _ action => Within Handling action := reacting_handling
  refine reacting.on_processEvents events fun event _ => reacting.on_processEvent event
    (fun _ _ _ _ => handling_processRequest _ _ _) fun _ _ _ => ?_
  exact reacting.on_processTrailers (fun _ => within_modify fun _ =>
    ⟨rfl, rfl, rfl, rfl, rfl, rfl, rfl, rfl, rfl, rfl, rfl, rfl, rfl, id, id, .inl rfl⟩) _ _

end SolveTls.HTTP2Session
