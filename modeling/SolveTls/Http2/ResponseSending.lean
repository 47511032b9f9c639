import SolveTls.Http2.H2Laws

/-! A response as it leaves: the turns of sending it, and the parts its content is cut into. -/

namespace SolveTls.HTTP2Session

open Fallible

variable {κ δ : Type} (packages : Packages κ δ) (streamId : Nat)

/-- Whether responses with this status have no content and do not declare a length. -/
def bodiless (statusCode : Nat) : Prop :=
  statusCode = 204 ∨ statusCode = 304 ∨ 100 ≤ statusCode ∧ statusCode < 200

instance (statusCode : Nat) : Decidable (bodiless statusCode) :=
  inferInstanceAs (Decidable (_ ∨ _ ∨ _))

/-- The content that is sent, which some statuses do not have. -/
def responseContent (content : Bytes) (headers : Dict Bytes Bytes) (statusCode : Nat) : Bytes :=
  (prepareResponse content headers statusCode).1

/-- The fields that are sent, the status among them. -/
def responseFields (content : Bytes) (headers : Dict Bytes Bytes) (statusCode : Nat) :
    Dict Bytes Bytes :=
  Dict.update [(ascii ":status", decimalOctets statusCode)]
    (prepareResponse content headers statusCode).2

/-! ### Turns -/

/-- A part of the content that was handed to the transport, and the state it was sent in. -/
structure Departure (κ δ : Type) where
  state : HTTP2Session κ δ
  part : Bytes
  last : Bool

/-- The frame in which a part leaves. -/
def Departure.frame (departure : Departure κ δ) : WireFrame :=
  H2.dataFrame streamId departure.part departure.last

/-- What is done about the content in one turn, with the part that left in it. -/
inductive Turn :
    HTTP2Session κ δ → List (Departure κ δ) → Except Exn Unit → HTTP2Session κ δ → Prop where
  /-- The peer is waited for, and what it sent is received. -/
  | waits {before after : HTTP2Session κ δ} {outcome : Except Exn Unit}
    (ran : (do let data ← transportRead; receive packages data) before = (outcome, after)) :
    Turn before [] outcome after
  /-- The library does not say how much may be sent. -/
  | refuses {before after : HTTP2Session κ δ} {raised : Exn}
    (ran : flowControlWindow packages streamId before = (.error raised, after)) :
    Turn before [] (.error raised) after
  | sends {before after : HTTP2Session κ δ} {outcome : Except Exn Unit} {part : Bytes} {last : Bool}
    (ran : (do callH2 packages (Outcall.data streamId part last).method; flush) before =
      (outcome, after))
    (handed : after.transport.written =
      before.transport.written ++ [[H2.dataFrame streamId part last]]) :
    Turn before [⟨before, part, last⟩] outcome after
  /-- A part was to be sent, but nothing was handed over. -/
  | drops {before after : HTTP2Session κ δ} {outcome : Except Exn Unit} {part : Bytes} {last : Bool}
    (ran : (do callH2 packages (Outcall.data streamId part last).method; flush) before =
      (outcome, after)) (unsent : after.transport.written = before.transport.written) :
    Turn before [] outcome after

/-- Turns of which only the last may raise, with the parts that left on the way. -/
inductive Turns : HTTP2Session κ δ → List (Departure κ δ) → HTTP2Session κ δ → Prop where
  | rests (state : HTTP2Session κ δ) : Turns state [] state
  | final {before after : HTTP2Session κ δ} {outcome : Except Exn Unit}
    {departures : List (Departure κ δ)} (turn : Turn packages streamId before departures outcome after) :
    Turns before departures after
  | next {before middle after : HTTP2Session κ δ} {departures later : List (Departure κ δ)}
    (turn : Turn packages streamId before departures (.ok ()) middle)
    (turns : Turns middle later after) : Turns before (departures ++ later) after

/-! ### Parts -/

/-- What a part has to be, given what is left of the content when it is sent. -/
structure Fits (left : Bytes) (departure : Departure κ δ) : Prop where
  cut : departure.part <+: left
  nonempty : 1 ≤ departure.part.length
  /-- The window and the frame size are those of the state it is sent in. -/
  window : ∃ window,
    packages.h2.localFlowControlWindow departure.state.connection.core streamId = .ok window ∧
    (departure.part.length : Int) ≤
      min window (packages.h2.maxOutboundFrameSize departure.state.connection.core)
  ended : departure.last = true ↔ departure.part = left
  running : departure.state.cancelled = false
  opened : departure.state.closed = false

/-- The parts are cut from the front of the content, one after another. -/
inductive Cuts : (left : Bytes) → List (Departure κ δ) → Prop where
  | none (left : Bytes) : Cuts left []
  | next {left : Bytes} {departure : Departure κ δ} {later : List (Departure κ δ)}
    (fits : Fits packages streamId left departure)
    (cuts : Cuts (left.drop departure.part.length) later) : Cuts left (departure :: later)

/-! ### The whole response -/

/-- What has been written of a response: nothing, or its fields and some parts of its content. -/
inductive Response (fields : List Field) (content : Bytes) (before : HTTP2Session κ δ) :
    List (Departure κ δ) → HTTP2Session κ δ → Prop where
  | unsent {after : HTTP2Session κ δ}
    (same : after.transport.written = before.transport.written) :
    Response fields content before [] after
  | sent {opened after : HTTP2Session κ δ} {outcome : Except Exn Unit} {block : List WireFrame}
    {later : List (List WireFrame)} {departures : List (Departure κ δ)}
    (ran : (do
      callH2 packages (Outcall.headers streamId fields (content = [])).method
      flush) before = (outcome, opened))
    (headed : H2.IsBlock streamId (content = []) block)
    (first : opened.transport.written =
      before.transport.written ++ [before.connection.outgoing ++ block])
    (turns : Turns packages streamId opened departures after)
    (rest : after.transport.written = opened.transport.written ++ later)
    (only : later.flatten.filter H2.isResponse =
      departures.map (Departure.frame streamId)) :
    Response fields content before departures after

end SolveTls.HTTP2Session
