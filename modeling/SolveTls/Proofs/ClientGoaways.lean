import SolveTls.Proofs.Http2.Reference
import SolveTls.Proofs.Http2.SessionErrors
import SolveTls.Proofs.Http2.SessionGoaways
import SolveTls.Server

/-! A client is sent one GOAWAY at most, however its connection comes to an end. -/

namespace SolveTls

open Fallible Exits Reference HTTP2Session

variable {κ δ α : Type} {packages : Packages κ δ} {policy : Policy}
variable {client : ClientConnection κ δ} {inner : Exits (HTTP2Session κ δ) Exn}
  {outer : Exits (ClientConnection κ δ) Exn}

namespace ClientConnection

/-! ### From a session to its connection -/

/-- Exits of the steps that serving a client is made of, on its session and on its connection. -/
structure Hosting (packages : Packages κ δ) (policy : Policy)
    (inner : Exits (HTTP2Session κ δ) Exn) (outer : Exits (ClientConnection κ δ) Exn) : Prop
    extends outer.Chained where
  serves : HTTP2Session.Serving packages inner
  /-- What becomes of the session becomes of the connection. -/
  returns : ∀ {client : ClientConnection κ δ} {session after : HTTP2Session κ δ},
    client.session = some session → inner.returns session after →
      outer.returns client { client with session := some after }
  raises : ∀ {client : ClientConnection κ δ} {session after : HTTP2Session κ δ} {raised : Exn},
    client.session = some session → inner.raises session raised after →
      outer.raises client raised { client with session := some after }
  /-- There may be no session yet. -/
  missing : ∀ client message, outer.raises client (.other message) client
  prefaces : outer.Covers (readProtocolPreface : ClientM κ δ Bytes)
  creates : outer.Covers (modify fun self =>
    { self with session := some (create packages self.transport) })
  /-- A new session takes the preface. -/
  greets : ∀ {transport : Transport} {opened : HTTP2Session κ δ},
    (do callH2 packages HTTP2Session.Outcall.initiate.method; flush)
        { create packages transport with initialized := true } = (.ok (), opened) →
      inner.At opened (onConnection (H2Adapter.receiveData packages http2Preface))
  handshakes : outer.Covers (fromExcept policy.handshake)
  responds : ∀ capture, outer.Covers (fromExcept (policy.respond capture))

namespace Hosting

/-- A method of the session ends the connection as it ends the session. -/
theorem at_onSession (hosting : Hosting packages policy inner outer) {method : SessionM κ δ α}
    (covered : ∀ session ∈ client.session, inner.At session method) :
    outer.At client (onSession method) := by
  cases known : client.session with
  | none => exact .of_error (by simp only [onSession, known]; rfl) (hosting.missing client _)
  | some session =>
    have ends := covered session (known ▸ rfl)
    rcases outcome : method session with ⟨raised | value, after⟩
    · exact .of_error (by simp only [onSession, known, outcome])
        (hosting.raises known (ends.raised outcome))
    · exact .of_ok (by simp only [onSession, known, outcome]; rfl)
        (hosting.returns known (ends.returned outcome))

/-- A request is received as the exits say. -/
theorem covers_handleHttp (hosting : Hosting packages policy inner outer) :
    outer.Covers (handleHttp packages) := by
  refine hosting.covers_bind hosting.prefaces fun incomingData client => ?_
  refine hosting.at_bind (hosting.creates client) fun _ created ran => ?_
  obtain rfl := modify_eq_ok.mp ran
  -- The session is new, so the library takes the preface.
  refine hosting.at_bind (hosting.at_onSession fun session new => ?_) fun _ reached _ => ?_
  · obtain rfl := Option.some.inj new
    exact hosting.serves.at_initializeSession (fun _ ran => hosting.greets ran) incomingData
  · exact hosting.at_onSession fun session _ => hosting.serves.covers_receiveRequest session

/-- A client is answered as the exits say. -/
theorem covers_attempt (hosting : Hosting packages policy inner outer) :
    outer.Covers (SolveTLS.attempt packages policy) := by
  refine hosting.covers_bind hosting.handshakes fun _ =>
    hosting.covers_bind hosting.covers_handleHttp fun _ =>
      hosting.covers_bind hosting.covers_get fun _ =>
        hosting.covers_bind (hosting.responds _) fun response client => ?_
  exact hosting.at_onSession fun session _ => hosting.serves.covers_sendResponse _ _ _ session

end Hosting

/-! ### Errors of HTTP/1.1 -/

/-- No await on the connection raises an error of HTTP/1.1. -/
structure Modern (client : ClientConnection κ δ) : Prop where
  transport : client.transport.Modern
  session : ∀ session ∈ client.session, session.transport.Modern

/-- The connection goes on raising nothing of HTTP/1.1. -/
def Unmixed : Exits (ClientConnection κ δ) Exn :=
  .keeping Modern fun raised _ => raised.isModern = true

theorem chained_unmixed : (Unmixed (κ := κ) (δ := δ)).Chained := chained_keeping

/-- Reading the preface raises what a read raises, and uses reads up. -/
theorem prefaceLoop_modern {reads : List (Except Exn Bytes)} (buffered : Bytes)
    (modern : ∀ outcome ∈ reads, RaisesOnly Exn.isModern outcome) :
    RaisesOnly Exn.isModern (prefaceLoop reads buffered).1 ∧
      ∀ outcome ∈ (prefaceLoop reads buffered).2, outcome ∈ reads := by
  -- The recursion is on the reads; it stops at an error, a mismatch or the whole preface.
  induction reads generalizing buffered with
  | nil =>
    unfold prefaceLoop
    split
    · exact ⟨raisesOnly_error rfl, by simp⟩
    · exact ⟨raisesOnly_ok _, by simp⟩
  | cons outcome rest ih =>
    unfold prefaceLoop
    split
    · cases outcome with
      | error raised =>
        exact ⟨modern _ (List.mem_cons_self ..), fun _ among => List.mem_cons_of_mem _ among⟩
      | ok data =>
        dsimp only
        split
        · exact ⟨raisesOnly_ok _, fun _ among => List.mem_cons_of_mem _ among⟩
        · obtain ⟨raises, left⟩ := ih (buffered ++ data) fun other among =>
            modern other (List.mem_cons_of_mem _ among)
          exact ⟨raises, fun other among => List.mem_cons_of_mem _ (left other among)⟩
    · exact ⟨raisesOnly_ok _, fun _ among => among⟩

/-- Calls, scripts and decisions that raise no error of HTTP/1.1 leave nowhere for one to arise. -/
theorem hosting_unmixed (modern : packages.Modern)
    (handshakes : RaisesOnly Exn.isModern policy.handshake)
    (responds : ∀ capture, RaisesOnly Exn.isModern (policy.respond capture)) :
    Hosting packages policy HTTP2Session.Unmixed (Unmixed (κ := κ) (δ := δ)) where
  toChained := chained_unmixed
  serves := HTTP2Session.Unmixed.serving modern
  returns known kept client := by
    refine ⟨client.transport, fun session new => ?_⟩
    obtain rfl := Option.some.inj new
    exact kept (client.session _ known)
  raises known raises client := (raises (client.session _ known)).1
  missing _ _ _ := rfl
  prefaces client := by
    unfold readProtocolPreface
    constructor
    · intro value reached ran known
      have loop := prefaceLoop_modern [] known.transport.reads
      obtain ⟨-, rfl⟩ := Prod.mk.inj ran
      refine ⟨⟨fun outcome among => ?_, known.transport.writes, known.transport.rejections,
        known.transport.pauses⟩, known.session⟩
      exact known.transport.reads outcome (loop.2 outcome among)
    · intro raised reached ran known
      have loop := prefaceLoop_modern [] known.transport.reads
      exact loop.1 raised (Prod.mk.inj ran).1
  creates := by
    refine covers_modify fun client known => ⟨known.transport, fun session new => ?_⟩
    obtain rfl := Option.some.inj new
    exact known.transport
  greets _ := HTTP2Session.Unmixed.covers_receiveData modern http2Preface _
  handshakes := chained_unmixed.covers_fromExcept fun raised failed _ _ => handshakes raised failed
  responds capture := chained_unmixed.covers_fromExcept fun raised failed _ _ =>
    responds capture raised failed

/-! ### Ended sessions -/

/-- Nothing has gone wrong with a connection, and no GOAWAY is on its way. -/
structure Calm (client : ClientConnection κ δ) : Prop where
  unwritten : client.transport.written = []
  session : ∀ session ∈ client.session, HTTP2Session.Calm session

/-- From a calm connection on: it stays calm, or its session has ended if it was told why. -/
def Departing : Exits (ClientConnection κ δ) Exn where
  returns before after := Calm before → Calm after
  raises before raised after := Calm before → ∀ session ∈ after.session,
    HTTP2Session.Unhindered session → HTTP2Session.Ended raised session

theorem chained_departing : (Departing (κ := κ) (δ := δ)).Chained where
  refl _ := id
  trans earlier later calm := later (earlier calm)
  onward earlier later calm := later (earlier calm)

/-- An error that leaves the connection as it is ends its session. -/
theorem Calm.ended (calm : Calm client) (raised : Exn) :
    ∀ session ∈ client.session,
      HTTP2Session.Unhindered session → HTTP2Session.Ended raised session :=
  fun session open' _ => (calm.session session open').toLive.ended raised

theorem covers_fromExcept (outcome : Except Exn α) :
    (Departing (κ := κ) (δ := δ)).Covers (fromExcept outcome) :=
  chained_departing.covers_fromExcept fun raised _ _ calm => calm.ended raised

/-- Reading the preface uses up reads and nothing else. -/
theorem covers_readProtocolPreface :
    Departing.Covers (readProtocolPreface : ClientM κ δ Bytes) := by
  intro client
  unfold readProtocolPreface
  rcases prefaceLoop client.transport.reads [] with ⟨outcome, reads⟩
  constructor
  · intro value reached ran calm
    obtain ⟨-, rfl⟩ := Prod.mk.inj ran
    exact ⟨calm.unwritten, calm.session⟩
  · intro error reached ran calm
    obtain ⟨-, rfl⟩ := Prod.mk.inj ran
    exact calm.ended error

/-- A new session on a calm transport is calm. -/
theorem covers_create : (Departing (κ := κ) (δ := δ)).Covers (modify fun self =>
    { self with session := some (create packages self.transport) }) := by
  refine covers_modify fun client calm => ⟨calm.unwritten, fun session new => ?_⟩
  obtain rfl := Option.some.inj new
  refine ⟨⟨rfl, rfl, ?_, fun _ among => by cases among⟩, fun _ among => by cases among⟩
  intro frame among
  have among' : frame ∈ client.transport.written.flatten := among
  rw [calm.unwritten] at among'
  cases among'

/-- The library takes the preface right after it was opened. -/
theorem at_greeting (greets : packages.h2.Greets) {transport : Transport}
    {opened : HTTP2Session κ δ}
    (ran : (do callH2 packages HTTP2Session.Outcall.initiate.method; flush)
      { create packages transport with initialized := true } = (.ok (), opened)) :
    (HTTP2Session.Departing HTTP2Session.Calm HTTP2Session.Ended).At opened
      (onConnection (H2Adapter.receiveData packages http2Preface)) := by
  obtain ⟨core, queued, greeted, initiated, taken⟩ := greets.greeting
  obtain ⟨_, middle, called, flushed⟩ := bind_eq_ok.mp ran
  have done : callH2 packages HTTP2Session.Outcall.initiate.method
      { create packages transport with initialized := true } = _ :=
    callH2_done initiated
  have known : middle.connection.core = core := by
    obtain ⟨-, rfl⟩ := Prod.mk.inj (done.symm.trans called)
    rfl
  -- Sending does not change what the library knows.
  have reached : opened.connection.core = core := by
    have sent := flush_connection middle
    rw [flushed] at sent
    rw [sent]
    exact known
  rw [← reached] at taken
  have received := receiveData_done taken
  constructor
  · intro events after ran calm
    obtain ⟨-, rfl⟩ := Prod.mk.inj (received.symm.trans ran)
    exact calm.queueing rfl (by simp [H2.Plain])
  · intro error after ran
    cases (Prod.mk.inj (received.symm.trans ran)).1

/-- A client is answered, or its session has ended. -/
theorem hosting_departing (queues : packages.h2.Queues) (complains : packages.h2.Complains)
    (greets : packages.h2.Greets) : Hosting packages policy
      (HTTP2Session.Departing HTTP2Session.Calm HTTP2Session.Ended) (Departing (κ := κ)) where
  toChained := chained_departing
  serves := serving_departing queues complains
  returns known kept calm := by
    refine ⟨calm.unwritten, fun later new => ?_⟩
    obtain rfl := Option.some.inj new
    exact kept (calm.session _ known)
  raises known ended calm later new := by
    obtain rfl := Option.some.inj new
    exact ended (calm.session _ known)
  missing _ _ calm := calm.ended _
  prefaces := covers_readProtocolPreface
  creates := covers_create
  greets ran := at_greeting greets ran
  handshakes := covers_fromExcept _
  responds _ := covers_fromExcept _

end ClientConnection

namespace SolveTLS

open ClientConnection

/-! ### Closing -/

/-- Closing the connection closes its session, and nothing else happens to it. -/
theorem close_session (errorCode : Nat) (client : ClientConnection κ δ) :
    (ClientConnection.close packages errorCode client).2.session =
      client.session.map fun session => (close packages errorCode session).2 := by
  simp only [ClientConnection.close, bind_apply, get_apply]
  cases known : client.session with
  | none =>
    rw [runWhen_neg (by simp)]
    exact known
  | some session =>
    rw [runWhen_pos (Option.isSome_some ..), tryCatch_apply]
    simp only [onSession, known, Option.map_some]
    -- An error of closing is logged or goes on, behind the same session.
    rcases close packages errorCode session with ⟨raised | _, after⟩
    · simp only [raiseIf]
      split
      · rfl
      · rfl
    · rfl

/-- After a session has ended, closing its connection does not add anything that hides it. -/
theorem ended_close (queues : packages.h2.Queues) {raised : Exn}
    (ended : ∀ session ∈ client.session,
      HTTP2Session.Unhindered session → HTTP2Session.Ended raised session) {errorCode : Nat}
    (fitting : ∀ message code, raised = .protocolError message code → IsFault code →
      errorCode = code) (later : Exn) :
    ∀ session ∈ (ClientConnection.close packages errorCode client).2.session,
      HTTP2Session.Unhindered session → HTTP2Session.Ended later session := by
  intro session open' free
  rw [close_session, Option.mem_map] at open'
  obtain ⟨before, known, rfl⟩ := open'
  -- Closing is not part of handling an error, so nothing was noted meanwhile.
  have told : HTTP2Session.Unhindered before := by
    have same := @close_rejected κ δ packages
    rw [HTTP2Session.Unhindered, ← same errorCode]
    exact free
  have gone := ended before known told
  refine gone.close queues (fun faulty opened => ?_) later
  obtain ⟨message, code, same, fault⟩ := gone.faulty faulty opened
  rw [fitting message code same fault]
  exact fault

/-- Whatever happens to a client, its session comes to an end. -/
theorem serveClient_ends (queues : packages.h2.Queues) (complains : packages.h2.Complains)
    (greets : packages.h2.Greets) (calm : Calm client)
    (modern : ∀ raised, (attempt packages policy client).1 = .error raised →
      raised.isModern = true) :
    ∀ session ∈ (serveClient packages policy client).2.session,
      HTTP2Session.Unhindered session → HTTP2Session.Ended .cancelled session := by
  have covered : Departing.At client (attempt packages policy) :=
    (hosting_departing queues complains greets).covers_attempt client
  unfold serveClient
  rcases attempted : attempt packages policy client with ⟨raised | _, reached⟩
  · rw [attempted] at modern
    have ended := covered.raised attempted calm
    dsimp only
    cases raised with
    | http1 message statusCode => cases modern _ rfl
    | protocolError message code =>
      -- The code of the error is the code of the GOAWAY.
      refine ended_close queues ended (fun message' code' same _ => ?_) _
      exact (Exn.protocolError.inj same).2
    | cancelled =>
      simp only [recover, throw_apply, ensuring_reached]
      exact ended_close queues ended (fun message code same _ => by cases same) _
    | _ =>
      refine ended_close queues ended (fun message code same _ => ?_) _
      cases same
  · exact ended_close queues ((covered.returned attempted calm).ended .cancelled)
      (fun message code same _ => by cases same) _

/--
One GOAWAY at most is handed over, it never hides a protocol error, and no response follows one.

This rests on every write that was made about a protocol error having gone through, and on nothing
but the program's own HTTP/1.1 code raising errors of HTTP/1.1.
-/
theorem serveClient_goaways (queues : packages.h2.Queues) (complains : packages.h2.Complains)
    (greets : packages.h2.Greets) (modern : packages.Modern) {transport : Transport}
    (unwritten : transport.written = []) (scripts : transport.Modern)
    (handshakes : RaisesOnly Exn.isModern policy.handshake)
    (responds : ∀ capture, RaisesOnly Exn.isModern (policy.respond capture)) :
    ∀ session ∈ (serveClient packages policy { transport }).2.session,
      (∀ outcome ∈ session.transport.rejected, outcome = .sent) →
        session.transport.written.flatten.countP H2.isGoaway ≤ 1 ∧
        (session.history.errors ≠ [] → ∀ last,
          H2.goawayFrame last ErrorCode.noError.code ∉ session.transport.written.flatten) ∧
        ∀ count ∈ session.history.errors, ∀ frame ∈ (session.transport.written.drop count).flatten,
          H2.isResponse frame = false := by
  intro session open' handed
  have calm : Calm ({ transport } : ClientConnection κ δ) :=
    ⟨unwritten, fun _ none => by cases none⟩
  have attempted (raised : Exn)
      (failed : (attempt packages policy ({ transport } : ClientConnection κ δ)).1 = .error raised) :
      raised.isModern = true := by
    have covered := (hosting_unmixed modern handshakes responds).covers_attempt { transport }
    exact covered.raised (Prod.ext failed rfl) ⟨scripts, fun _ none => by cases none⟩
  have ended := serveClient_ends queues complains greets calm attempted session open' handed
  refine ⟨?_, ?_, ended.truthful.hushed⟩
  · -- The flag allows for one GOAWAY.
    have single := ended.single
    split at single
    · exact single
    · omega
  · intro faulty last among
    exact (ended.truthful.accuses faulty _ among rfl).ne last rfl

/-- Every request is answered with nothing. -/
def emptyPolicy : Policy where
  handshake := .ok ()
  respond _ := .ok ⟨[], [], 200⟩
  apologize _ statusCode := .ok ⟨[], [], statusCode⟩

/-- A client that sends content on a stream it never opened. -/
theorem serveClient_goaways_refused :
    ∃ session, (serveClient referencePackages emptyPolicy
        { transport := { reads := [.ok strayRequest] } }).2.session = some session ∧
      session.transport.rejected = [.sent] ∧
      session.transport.written.flatten.countP H2.isGoaway ≤ 1 ∧
      (session.history.errors ≠ [] → ∀ last,
        H2.goawayFrame last ErrorCode.noError.code ∉ session.transport.written.flatten) ∧
      ∀ count ∈ session.history.errors, ∀ frame ∈ (session.transport.written.drop count).flatten,
        H2.isResponse frame = false := by
  have begun : (serveClient referencePackages emptyPolicy
      { transport := { reads := [.ok strayRequest] } }).2.session.map (fun session =>
        session.transport.rejected) = some [.sent] := by
    decide +kernel
  obtain ⟨session, known, rejected⟩ := Option.map_eq_some_iff.mp begun
  refine ⟨session, known, rejected, serveClient_goaways reference_queues
    reference_complains reference_greets reference_modern rfl ?_
    (raisesOnly_ok ()) (fun _ => raisesOnly_ok _) session known ?_⟩
  · refine ⟨fun outcome among => ?_, ?_, ?_, ?_⟩
    · rw [List.mem_singleton.mp among]
      exact raisesOnly_ok _
    all_goals exact fun _ among => by cases among
  · rw [rejected]
    simp

/-- A write that raises behind its octets makes the server repeat the GOAWAY, with NO_ERROR. -/
theorem serveClient_repeats_goaway :
    (serveClient referencePackages emptyPolicy { transport := {
      reads := [.ok strayRequest]
      rejections := [.sentThenRaised (.connection "Connection lost")] } }).2.session.map
        (fun session => (session.history.errors.length,
          session.transport.written.flatten.filter H2.isGoaway)) =
      some (1, [H2.goawayFrame 0 ErrorCode.protocolError.code,
        H2.goawayFrame 0 ErrorCode.noError.code]) := by
  decide +kernel

end SolveTLS

end SolveTls
