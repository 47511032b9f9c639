import SolveTls.Proofs.Errors
import SolveTls.Proofs.Http2.FrameBuilding
import SolveTls.Proofs.Http2.SessionRuns

/-! What a law about the ends of a library call says about the session that makes it. -/

namespace SolveTls

open Fallible

variable {κ δ α : Type}
variable {holds : Except Exn α → κ → List WireFrame → Prop} {call : H2Call κ α} {payload : Payload}
  {streamId : Nat} {before after : View} {events : List Event}

/-- A call ends in one of its ends, and queues behind what was queued before. -/
theorem H2Adapter.call_ends (hpack : Hpack δ) (ends : call.Ends holds) (self : H2Adapter κ δ) :
    ∃ core queued decoder encoder encoderCalls,
      holds (H2Adapter.call hpack call self).1 core queued ∧
      (H2Adapter.call hpack call self).2 = { self with
        core, outgoing := self.outgoing ++ queued, decoder, encoder, encoderCalls } := by
  -- The induction is on the call; each answer of a codec leads to one of its branches.
  induction call generalizing self with
  | done result core queued => exact ⟨core, queued, _, _, _, ends, rfl⟩
  | decode block resume ih =>
    simp only [H2Adapter.call]
    obtain ⟨core, queued, decoder, encoder, calls, held, shape⟩ := ih _ (ends _) { self with
      decoder := (RequestDecoder.decode hpack block true self.decoder).2 }
    exact ⟨core, queued, decoder, encoder, calls, held, shape⟩
  | resizeEncoder size resume ih =>
    simp only [H2Adapter.call]
    obtain ⟨core, queued, decoder, encoder, calls, held, shape⟩ := ih ends { self with
      encoder := self.encoder.setHeaderTableSize size
      encoderCalls := self.encoderCalls ++ [.assigned size] }
    exact ⟨core, queued, decoder, encoder, calls, held, shape⟩
  | encode headers resume ih =>
    simp only [H2Adapter.call]
    obtain ⟨core, queued, decoder, encoder, calls, held, shape⟩ := ih _ (ends _) { self with
      encoder := (self.encoder.encode hpack headers).2
      encoderCalls := self.encoderCalls ++ [.encoded (self.encoder.encode hpack headers).1] }
    exact ⟨core, queued, decoder, encoder, calls, held, shape⟩

/-- Weaker laws follow from stronger ones. -/
theorem H2Call.Ends.mono {weaker : Except Exn α → κ → List WireFrame → Prop}
    (ends : call.Ends holds)
    (implies : ∀ result core queued, holds result core queued → weaker result core queued) :
    call.Ends weaker := by
  induction call with
  | done result core queued => exact implies _ _ _ ends
  | decode _ _ ih => exact fun decoded => ih decoded (ends decoded)
  | resizeEncoder _ _ ih => exact ih ends
  | encode _ _ ih => exact fun block => ih block (ends block)

/-- A library call that raises leaves neither a part of a response nor a GOAWAY behind. -/
theorem H2.Queues.raising {h2 : H2 κ} (queues : h2.Queues)
    (outcall : HTTP2Session.Outcall) (core : κ) :
    (outcall.method h2 core).Ends fun result _ queued =>
      (∃ raised, result = .error raised) → Plain queued := by
  cases outcall with
  | initiate => exact (queues.initiates core).mono fun _ _ _ plain _ => plain
  | goaway errorCode lastStreamId =>
    refine (queues.closes core errorCode lastStreamId).mono ?_
    rintro _ _ _ ⟨rfl, -⟩ ⟨raised, failed⟩
    cases failed
  | headers streamId fields endStream =>
    refine (queues.headers core streamId fields endStream).mono ?_
    rintro _ _ _ (⟨rfl, -⟩ | ⟨-, rfl⟩) ⟨raised, failed⟩
    · cases failed
    · simp [Plain]
  | data streamId content endStream =>
    refine (queues.data core streamId content endStream).mono ?_
    rintro _ _ _ (⟨rfl, -⟩ | ⟨-, rfl⟩) ⟨raised, failed⟩
    · cases failed
    · simp [Plain]
  | reset streamId errorCode =>
    exact (queues.resets core streamId errorCode).mono fun _ _ _ plain _ => plain
  | acknowledge length streamId =>
    exact (queues.acknowledges core length streamId).mono fun _ _ _ plain _ => plain

/-- A call that never raises an error of HTTP/1.1 does not need decoding to be as good. -/
theorem H2Call.Ends.modern (ends : call.Ends fun result _ _ => RaisesOnly Exn.isModern result) :
    call.Modern := by
  induction call with
  | done result core queued => exact ends
  | decode _ _ ih => exact fun decoded _ => ih decoded (ends decoded)
  | resizeEncoder _ _ ih => exact ih ends
  | encode _ _ ih => exact fun block => ih block (ends block)

/-! ### Frames that carry no part of a request -/

theorem H2.gather_aside (aside : isAside payload = true) (block : Option OpenBlock)
    (streamId : Nat) : gather block streamId payload = none := by
  cases payload <;> first | rfl | cases aside

theorem H2.completes_aside (aside : isAside payload = true) (block : Option OpenBlock)
    (streamId : Nat) : completes block streamId payload = none := by
  rw [completes, gather_aside aside]

theorem H2.reacts_aside (aside : isAside payload = true) (settles : before.Settles after) :
    Reacts streamId payload before [] after := by
  refine .aside ?_ ?_ ?_ settles
  all_goals
    rintro content rfl
    cases aside

/-- Such a frame can do no more than cut streams short. -/
theorem H2.Reacts.settles (aside : isAside payload = true)
    (reacts : Reacts streamId payload before events after) :
    events = [] ∧ before.Settles after := by
  have ungathered := gather_aside aside before.block streamId
  cases reacts with
  | aside other outside between settles => exact ⟨rfl, settles⟩
  | data content | discarded content =>
    rw [content] at aside
    cases aside
  | fragment gathered | request gathered | trailers gathered | ignored gathered =>
    rw [ungathered] at gathered
    cases gathered

namespace HTTP2Session

variable {packages : Packages κ δ}
variable {wire : Bytes} {state : HTTP2Session κ δ}

/-- Rebuilt or not, what the connection is shown is a whole frame. -/
theorem isWireFrame_wireForH2 {shown : Bytes} {frame : ParsedFrame} (framed : IsWireFrame wire)
    (converted : wireForH2 frame wire = .ok shown) : IsWireFrame shown := by
  unfold wireForH2 at converted
  split at converted
  · cases decoded : frame.payload with
    | headers payload =>
      rw [decoded] at converted
      exact (buildFrame_ok (liftBuilder_eq_ok.mp converted)).2
    | _ =>
      rw [decoded] at converted
      cases converted
  · exact Except.ok.inj converted ▸ framed

/-- A method call changes the connection as its law says. -/
theorem callH2_ends (method : H2 κ → κ → H2Call κ α) (state : HTTP2Session κ δ)
    (ends : (method packages.h2 state.connection.core).Ends holds) :
    ∃ core queued decoder encoder encoderCalls,
      holds (callH2 packages method state).1 core queued ∧
      (callH2 packages method state).2 = { state with
        connection := { state.connection with
          core, outgoing := state.connection.outgoing ++ queued, decoder, encoder, encoderCalls }
        history := state.history.noting state.transport.written.length
          (callH2 packages method state).1 } := by
  obtain ⟨core, queued, decoder, encoder, calls, held, shape⟩ :=
    H2Adapter.call_ends packages.hpack ends state.connection
  refine ⟨core, queued, decoder, encoder, calls, held, ?_⟩
  simp only [callH2, onConnection, bind_apply, get_apply, shape]

/-- The octets of a frame are taken as the law about them says. -/
theorem receiveData_ends (state : HTTP2Session κ δ)
    {holds : Except Exn (List Event) → κ → List WireFrame → Prop}
    (ends : (packages.h2.receiveData state.connection.core wire).Ends holds) :
    ∃ result core queued decoder encoder encoderCalls,
      holds result core queued ∧
      onConnection (H2Adapter.receiveData packages wire) state =
        (result.map (List.map (H2Adapter.withOriginalHeaders decoder.originalHeaders)), { state with
          connection := { state.connection with
            core, outgoing := state.connection.outgoing ++ queued, decoder, encoder, encoderCalls }
          history := state.history.noting state.transport.written.length result }) := by
  obtain ⟨core, queued, decoder, encoder, calls, held, shape⟩ :=
    H2Adapter.call_ends packages.hpack ends state.connection
  generalize called : H2Adapter.call packages.hpack
    (packages.h2.receiveData state.connection.core wire) state.connection = outcome at held shape
  obtain ⟨result, connection⟩ := outcome
  dsimp only at shape held
  subst shape
  refine ⟨result, core, queued, decoder, encoder, calls, held, ?_⟩
  -- A raised error is passed on; returned events get the decoded fields.
  cases result with
  | error raised =>
    simp only [onConnection, H2Adapter.receiveData, bind_apply, get_apply, called, Except.map]
  | ok events =>
    simp only [onConnection, H2Adapter.receiveData, bind_apply, get_apply, called, pure_apply,
      Except.map]
    rfl

/-- Octets that were taken have gone through one library call. -/
theorem receiveData_ok {after : HTTP2Session κ δ}
    (ran : onConnection (H2Adapter.receiveData packages wire) state = (.ok events, after)) :
    ∃ (raw : List Event) (connection : H2Adapter κ δ),
      H2Adapter.call packages.hpack (packages.h2.receiveData state.connection.core wire)
        state.connection = (.ok raw, connection) ∧
      events = raw.map (H2Adapter.withOriginalHeaders connection.decoder.originalHeaders) ∧
      after = { state with connection } := by
  simp only [onConnection, H2Adapter.receiveData, bind_apply, get_apply] at ran
  generalize H2Adapter.call packages.hpack (packages.h2.receiveData state.connection.core wire)
    state.connection = outcome at ran
  obtain ⟨result, connection⟩ := outcome
  -- Only a call that returned leads to events.
  cases result with
  | error raised => cases (Prod.mk.inj ran).1
  | ok raw =>
    simp only [pure_apply, Prod.mk.injEq, Except.ok.injEq] at ran
    exact ⟨raw, connection, rfl, ran.1.symm, ran.2.symm⟩

/-- The connection is left as the method left it. -/
theorem onConnection_reached {method : Fallible (H2Adapter κ δ) Exn α} {after : HTTP2Session κ δ}
    {outcome : Except Exn α} (ran : onConnection method state = (outcome, after)) :
    after.connection = (method state.connection).2 :=
  (congrArg (fun reached => reached.2.connection) ran).symm

/-- The library call that closes a connection over an error. -/
def closing (state : HTTP2Session κ δ) (errorCode : Nat) : H2 κ → κ → H2Call κ Unit := fun h2 core =>
  h2.closeConnection core errorCode (some (state.capture.streamId.getD 0))

/-- A closed session only sends what it still has to send. -/
theorem close_closed (closed : state.closed = true) (errorCode : Nat) :
    close packages errorCode state = flush state := by
  simp only [close, bind_apply, get_apply, runWhen_neg (not_not.mpr closed), pure_apply]

/-- An open one queues a GOAWAY first. -/
theorem close_opened {called : HTTP2Session κ δ} (opened : state.closed = false) {errorCode : Nat}
    (ran : callH2 packages (state.closing errorCode) state = (.ok (), called)) :
    close packages errorCode state = flush { called with closed := true } := by
  have unclosed : ¬ state.closed = true := by simp [opened]
  have ran' : callH2 packages (fun h2 core =>
      h2.closeConnection core errorCode (some (state.capture.streamId.getD 0))) state =
        (.ok (), called) := ran
  simp only [close, bind_apply, get_apply, runWhen_pos unclosed, ran', modify_apply]

/-! ### Events as they are reported -/

theorem isContent_withOriginalHeaders (original : Option (List Field)) (event : Event) :
    H2.isContent (H2Adapter.withOriginalHeaders original event) = H2.isContent event := by
  cases event <;> rfl

theorem filter_withOriginalHeaders (original : Option (List Field)) (events : List Event) :
    (events.map (H2Adapter.withOriginalHeaders original)).filter H2.isContent =
      (events.filter H2.isContent).map (H2Adapter.withOriginalHeaders original) := by
  -- Giving an event other fields does not change what kind of event it is.
  rw [List.filter_map]
  congr 1
  refine List.filter_congr fun event _ => ?_
  exact isContent_withOriginalHeaders original event

/-- Events that carry nothing are passed over, except that they may cancel the request. -/
theorem processEvents_aside (packages : Packages κ δ) (aside : events.filter H2.isContent = [])
    (state : HTTP2Session κ δ) :
    ∃ cancelled, processEvents packages events state = (.ok (), { state with cancelled }) := by
  -- The induction is on the events, of which only the resets do anything.
  induction events generalizing state with
  | nil => exact ⟨state.cancelled, rfl⟩
  | cons event rest ih =>
    cases event with
    | other =>
      obtain ⟨cancelled, passed⟩ := ih aside state
      exact ⟨cancelled, passed⟩
    | streamReset streamId =>
      simp only [processEvents, processEvent, processReset, bind_apply, get_apply]
      by_cases captured : state.capture.streamId = some streamId
      · simp only [runWhen_pos captured, modify_apply]
        obtain ⟨cancelled, passed⟩ := ih aside { state with cancelled := true }
        exact ⟨cancelled, passed⟩
      · simp only [runWhen_neg captured, pure_apply]
        exact ih aside state
    | _ => cases aside

/-! ### Methods that return -/

/-- A check that passed has changed nothing, so only calls and notes have to be looked at. -/
theorem reacting_returning {relation : HTTP2Session κ δ → HTTP2Session κ δ → Prop}
    (progress : Progress relation) (counts : Returning relation (countOpen packages))
    (acknowledges : ∀ length streamId,
      Returning relation (callH2 packages (Outcall.acknowledge length streamId).method))
    (notes : ∀ (note : Note) state, relation state (note.write state)) :
    Reacting packages fun _ action => Returning relation action where
  toLooking := looking_returning progress
  throws _ := returning_throw _
  validates _ _ := returning_throw _
  counts := counts
  fails _ _ _ _ _ _ ran := (fail_eq_ok.mp ran).elim
  acknowledges := acknowledges
  notes note := returning_modify (notes note)

/-- What the settings of one call leave alone, all entries of a SETTINGS frame leave alone. -/
theorem applying_returning {relation : HTTP2Session κ δ → HTTP2Session κ δ → Prop}
    (progress : Progress relation)
    (notes : ∀ {before after : HTTP2Session κ δ},
      after.connection.core = before.connection.core →
      after.connection.decoder = before.connection.decoder →
      after.prioritizedIdleStreams = before.prioritizedIdleStreams → relation before after)
    (receives : ∀ items, Returning relation (receiveSettings packages items)) :
    Applying packages fun _ action => Returning relation action where
  toLooking := looking_returning progress
  throws _ := returning_throw _
  receives := receives
  drains := by
    intro before value after ran
    obtain ⟨-, rfl⟩ := Prod.mk.inj ran
    exact notes rfl rfl rfl
  charges changes := by
    intro before value after ran
    obtain ⟨-, rfl⟩ := Prod.mk.inj ran
    exact notes rfl rfl rfl
  pauses := by
    intro before value after ran
    simp only [pause] at ran
    split at ran
    · obtain ⟨-, rfl⟩ := Prod.mk.inj ran
      exact notes rfl rfl rfl
    · cases ran
  quits message := by
    -- Beyond the limit an error is raised.
    intro before value after ran
    simp only [bind_eq_ok] at ran
    obtain ⟨_, _, -, _, _, -, raised⟩ := ran
    exact (throw_eq_ok.mp raised).elim

end HTTP2Session

end SolveTls
