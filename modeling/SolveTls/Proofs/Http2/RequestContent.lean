import SolveTls.Proofs.Http2.FieldAgreement
import SolveTls.Proofs.Http2.RequestStream

/-! As much content is received of a request as it declares. -/

namespace SolveTls

open H2

variable {κ δ : Type} {packages : Packages κ δ} {view : κ → View}
variable {block : OpenBlock}

/-! ### What frames upload -/

theorem H2.View.enter_self (view : View) (streamId : Nat) (phase : StreamPhase) :
    (view.enter streamId phase).phase streamId = phase := Function.update_self ..

theorem H2.View.enter_other (view : View) {streamId other : Nat} (phase : StreamPhase)
    (differs : other ≠ streamId) :
    (view.enter streamId phase).phase other = view.phase other := Function.update_of_ne differs ..

theorem H2.phaseAfter_ne_idle (ended : Bool) : phaseAfter ended ≠ .idle := by
  cases ended <;> decide

/-- Whether a block that is still open ends its stream. -/
def pendingEnd (block : Option OpenBlock) (streamId : Nat) : Bool :=
  block.any fun opened => opened.streamId = streamId && opened.endStream

namespace Upload

variable {streamId octets : Nat} {upload : Upload} {frame : ParsedFrame}

theorem ofFrames_snoc (streamId : Nat) (frames : List ParsedFrame) (frame : ParsedFrame) :
    ofFrames streamId (frames ++ [frame]) = (ofFrames streamId frames).take streamId frame := by
  simp [ofFrames]

theorem take_other (other : frame.header.streamId ≠ streamId) :
    upload.take streamId frame = upload := if_pos (.inr other)

theorem take_ended (ended : upload.ended = true) : upload.take streamId frame = upload :=
  if_pos (.inl ended)

/-- Only DATA and HEADERS carry a part of a stream or its end. -/
theorem take_besides (content : ∀ payload, frame.payload ≠ .data payload)
    (fields : ∀ payload, frame.payload ≠ .headers payload) :
    upload.take streamId frame = upload := by
  unfold take
  split
  · rfl
  · cases decoded : frame.payload with
    | data payload => exact absurd decoded (content payload)
    | headers payload => exact absurd decoded (fields payload)
    | _ => rfl

/-- A DATA frame adds its octets. -/
theorem take_data {payload : DataPayload} (decoded : frame.payload = .data payload)
    (same : frame.header.streamId = streamId) :
    Upload.take streamId ⟨octets, false⟩ frame =
      ⟨octets + payload.data.length, payload.endStream⟩ := by
  simp [take, decoded, same]

/-- A HEADERS frame may end the upload. -/
theorem take_headers {payload : HeadersPayload} (decoded : frame.payload = .headers payload)
    (same : frame.header.streamId = streamId) :
    Upload.take streamId ⟨octets, false⟩ frame = ⟨octets, payload.endStream⟩ := by
  simp [take, decoded, same]

end Upload

theorem pendingEnd_self (block : OpenBlock) :
    pendingEnd (some block) block.streamId = block.endStream := by
  simp [pendingEnd]

theorem pendingEnd_other {streamId : Nat} (other : block.streamId ≠ streamId) :
    pendingEnd (some block) streamId = false := by
  simp [pendingEnd, other]

/-- A frame of a block ends its stream if the block does, and concerns no other stream. -/
theorem Placed.take_gathered {before : Option OpenBlock} {frame : ParsedFrame}
    (placed : Placed before frame) {complete : Bool}
    (gathered : gather before frame.header.streamId frame.payload = some (block, complete))
    (streamId octets : Nat) :
    Upload.take streamId ⟨octets, pendingEnd before streamId⟩ frame =
      ⟨octets, pendingEnd (some block) streamId⟩ := by
  cases decoded : frame.payload with
  | headers payload =>
    obtain rfl : before = none := placed.closed (by simp [decoded])
    rw [decoded] at gathered
    obtain ⟨rfl, -⟩ := Prod.mk.inj (Option.some.inj gathered)
    by_cases same : frame.header.streamId = streamId
    · rw [show pendingEnd none streamId = false from rfl, Upload.take_headers decoded same]
      simp [pendingEnd, same]
    · rw [Upload.take_other same]
      simp [pendingEnd, same]
  | continuation payload =>
    rw [decoded] at gathered
    obtain ⟨opened, rfl, same⟩ := Option.map_eq_some_iff.mp gathered
    obtain ⟨rfl, -⟩ := Prod.mk.inj same
    -- The flag came with the first frame of the block.
    rw [Upload.take_besides (by simp [decoded]) (by simp [decoded])]
    rfl
  | _ =>
    rw [decoded] at gathered
    cases gathered

namespace RequestState

open HTTP2Session

variable {ended : Bool} {original : Option (List Field)}

/-! ### What a request has received -/

/-- The session counts what frames upload on the stream of the request it serves. -/
structure Counted (packages : Packages κ δ) (view : View) (frames : List ParsedFrame)
    (request : RequestState) : Prop where
  idle : ∀ streamId, view.phase streamId = .idle →
    Upload.ofFrames streamId frames = ⟨0, pendingEnd view.block streamId⟩
  unserved : request.streamId = none →
    request.octets = 0 ∧ request.expected = none ∧ request.ready = false
  served : ∀ streamId ∈ request.streamId, view.phase streamId ≠ .idle ∧
    ∃ fields, request.headers = some fields ∧ validateFields packages fields false = .ok () ∧
      (∀ declared ∈ declaredLength fields, declared ≤ maxRequestBody) ∧
      request.expected = declaredLength fields
  receiving : ∀ streamId ∈ request.streamId, view.phase streamId = .receiving →
    Upload.ofFrames streamId frames = ⟨request.octets, pendingEnd view.block streamId⟩
  ready : request.ready = true → request.expectationFailed = true ∨
    (∃ fields, request.headers = some fields ∧ isConnect fields) ∨
    ∃ streamId ∈ request.streamId, view.phase streamId = .finished ∧
      Upload.ofFrames streamId frames = ⟨request.octets, true⟩ ∧
      ∀ expected ∈ request.expected, expected = request.octets
  bounded : request.octets ≤ maxRequestBody

/-- Content that goes over the limit is not dealt with. -/
theorem Deals.bounded {event : Event} {before after : RequestState}
    (deals : Deals packages event before after) (bounded : before.octets ≤ maxRequestBody) :
    after.octets ≤ maxRequestBody := by
  cases deals with
  | @data streamId _ _ _ within =>
    by_cases served : before.streamId = some streamId
    · simpa only [if_pos served] using within served
    · simpa only [if_neg served] using bounded
  | _ => exact bounded

/-- The end of a stream is dealt with if it is the one that is served. -/
theorem Dealt.ending {packages : Packages κ δ} {streamId : Nat} {request last : RequestState}
    (dealt : Dealt packages
      ((H2.ending streamId ended).map (H2Adapter.withOriginalHeaders original)) request last) :
    (ended = true ∧ request.streamId = some streamId ∧
      (∀ expected ∈ request.expected, expected = request.octets) ∧
      last = { request with ready := true }) ∨
    ((ended = false ∨ request.streamId ≠ some streamId) ∧ last = request) := by
  cases ended with
  | false =>
    cases dealt with
    | nil => exact .inr ⟨.inl rfl, rfl⟩
  | true =>
    cases dealt with
    | cons deals rest =>
      cases rest with
      | nil =>
        cases deals with
        | ended served agrees => exact .inl ⟨rfl, served, agrees, rfl⟩
        | elsewhere other => exact .inr ⟨.inr other, rfl⟩

namespace Counted

variable {before after : View} {frames : List ParsedFrame} {frame : ParsedFrame}
  {request last : RequestState}

/-- Streams that are cut short change nothing about what was counted. -/
theorem settles (counted : Counted packages before frames request)
    (settled : before.Settles after) : Counted packages after frames request := by
  obtain ⟨block, phases⟩ := settled
  have kept {streamId : Nat} {phase : StreamPhase} (other : phase ≠ .receiving)
      (entered : before.phase streamId = phase) : after.phase streamId = phase := by
    rcases phases streamId with same | ⟨receiving, -⟩
    · rw [same, entered]
    · exact absurd (entered.symm.trans receiving) other
  have back {streamId : Nat} {phase : StreamPhase} (other : phase ≠ .finished)
      (entered : after.phase streamId = phase) : before.phase streamId = phase := by
    rcases phases streamId with same | ⟨-, finished⟩
    · rw [← same, entered]
    · exact absurd (entered.symm.trans finished) other
  refine ⟨?_, counted.unserved, ?_, ?_, ?_, counted.bounded⟩
  · intro streamId idle
    rw [block]
    exact counted.idle streamId (back (by decide) idle)
  · intro streamId served
    obtain ⟨opened, fields⟩ := counted.served streamId served
    exact ⟨fun idle => opened (back (by decide) idle), fields⟩
  · intro streamId served receiving
    rw [block]
    exact counted.receiving streamId served (back (by decide) receiving)
  · intro ready
    obtain failed | connects | ⟨streamId, served, finished, rest⟩ := counted.ready ready
    · exact .inl failed
    · exact .inr (.inl connects)
    · exact .inr (.inr ⟨streamId, served, kept (by decide) finished, rest⟩)

/--
A frame that carries nothing of the request, or nothing at all.

The stream it is on may enter another phase; on the others nothing is uploaded.
-/
theorem elsewhere (counted : Counted packages before frames request) (moved : Option Nat)
    (other : ∀ streamId ∈ moved, request.streamId ≠ some streamId ∧
      after.phase streamId ≠ .idle)
    (phases : ∀ streamId, streamId ∉ moved → after.phase streamId = before.phase streamId)
    (uploads : ∀ streamId octets, streamId ∉ moved → before.phase streamId ≠ .finished →
      Upload.take streamId ⟨octets, pendingEnd before.block streamId⟩ frame =
        ⟨octets, pendingEnd after.block streamId⟩) :
    Counted packages after (frames ++ [frame]) request := by
  have unmoved {streamId : Nat} (served : streamId ∈ request.streamId) : streamId ∉ moved :=
    fun among => (other streamId among).1 served
  refine ⟨?_, counted.unserved, ?_, ?_, ?_, counted.bounded⟩
  · intro streamId idle
    have still : streamId ∉ moved := fun among => (other streamId among).2 idle
    rw [phases streamId still] at idle
    rw [Upload.ofFrames_snoc, counted.idle streamId idle]
    exact uploads streamId 0 still (by simp [idle])
  · intro streamId served
    rw [phases streamId (unmoved served)]
    exact counted.served streamId served
  · intro streamId served receiving
    rw [phases streamId (unmoved served)] at receiving
    rw [Upload.ofFrames_snoc, counted.receiving streamId served receiving]
    exact uploads streamId request.octets (unmoved served) (by simp [receiving])
  · intro ready
    obtain failed | connects | ⟨streamId, served, finished, uploaded, agrees⟩ :=
      counted.ready ready
    · exact .inl failed
    · exact .inr (.inl connects)
    · refine .inr (.inr ⟨streamId, served, ?_, ?_, agrees⟩)
      · rw [phases streamId (unmoved served)]
        exact finished
      · rw [Upload.ofFrames_snoc, uploaded]
        exact Upload.take_ended rfl

section Entering

variable (counted : Counted packages before frames request) {streamId : Nat}
  {opened : Option OpenBlock}
  (uploads : ∀ other octets, other ≠ streamId →
    Upload.take other ⟨octets, pendingEnd before.block other⟩ frame =
      ⟨octets, pendingEnd opened other⟩)

include counted uploads

/-- A part of another request. -/
theorem passed (other : request.streamId ≠ some streamId) :
    Counted packages { before.enter streamId (phaseAfter ended) with block := opened }
      (frames ++ [frame]) request := by
  refine counted.elsewhere (some streamId) ?_ ?_ ?_
  · intro entered same
    obtain rfl := Option.some.inj same
    exact ⟨other, (before.enter_self _ _).symm ▸ phaseAfter_ne_idle ended⟩
  · intro another differs
    exact before.enter_other _ fun same => differs (same ▸ rfl)
  · intro another octets differs _
    exact uploads another octets fun same => differs (same ▸ rfl)

variable (begun : RequestState) (served : begun.streamId = some streamId)
  (valid : ∃ fields, begun.headers = some fields ∧ validateFields packages fields false = .ok () ∧
    (∀ declared ∈ declaredLength fields, declared ≤ maxRequestBody) ∧
    begun.expected = declaredLength fields) (bounded : begun.octets ≤ maxRequestBody)
  (waits : pendingEnd opened streamId = false)
  (uploaded : Upload.ofFrames streamId (frames ++ [frame]) = ⟨begun.octets, ended⟩)

include served valid bounded waits uploaded

/-- A part of the request itself, after which more of it may come or not. -/
theorem part (ready : begun.ready = true → begun.expectationFailed = true ∨
      (∃ fields, begun.headers = some fields ∧ isConnect fields) ∨
      ended = true ∧ ∀ expected ∈ begun.expected, expected = begun.octets) :
    Counted packages { before.enter streamId (phaseAfter ended) with block := opened }
      (frames ++ [frame]) begun := by
  have phase := before.enter_self streamId (phaseAfter ended)
  have entered : (before.enter streamId (phaseAfter ended)).phase streamId ≠ .idle := by
    rw [phase]
    exact phaseAfter_ne_idle ended
  refine ⟨?_, ?_, ?_, ?_, ?_, bounded⟩
  · intro other idle
    have differs : other ≠ streamId := fun same => entered (same ▸ idle)
    have before' := (before.enter_other _ differs).symm.trans idle
    rw [Upload.ofFrames_snoc, counted.idle other before']
    exact uploads other 0 differs
  · intro unserved
    rw [served] at unserved
    cases unserved
  · intro other served'
    obtain rfl := Option.some.inj (served.symm.trans served')
    exact ⟨entered, valid⟩
  · intro other served' receiving
    obtain rfl := Option.some.inj (served.symm.trans served')
    cases ended with
    | true => cases phase.symm.trans receiving
    | false => rw [uploaded, waits]
  · intro readied
    obtain failed | connects | ⟨rfl, agrees⟩ := ready readied
    · exact .inl failed
    · exact .inr (.inl connects)
    · exact .inr (.inr ⟨streamId, served, phase, uploaded, agrees⟩)

/-- The end of its stream comes with the part, if it has come. -/
theorem ending (dealt : Dealt packages
      ((H2.ending streamId ended).map (H2Adapter.withOriginalHeaders original)) begun last)
    (ready : begun.ready = true → begun.expectationFailed = true ∨
      ∃ fields, begun.headers = some fields ∧ isConnect fields) :
    Counted packages { before.enter streamId (phaseAfter ended) with block := opened }
      (frames ++ [frame]) last := by
  obtain ⟨ends, -, agrees, rfl⟩ | ⟨-, rfl⟩ := dealt.ending
  · exact counted.part uploads _ served valid bounded waits uploaded
      fun _ => .inr (.inr ⟨ends, agrees⟩)
  · exact counted.part uploads _ served valid bounded waits uploaded
      fun readied => (ready readied).imp id .inl

end Entering

variable {headers : Option (List Field)}

section Counted

variable (counted : Counted packages before frames request)

include counted

/-- On an open stream nothing but an expectation or a tunnel makes a request ready. -/
theorem ready_open {streamId : Nat} (served : request.streamId = some streamId)
    (opened : before.phase streamId = .receiving) (readied : request.ready = true) :
    request.expectationFailed = true ∨ ∃ fields, request.headers = some fields ∧ isConnect fields := by
  obtain failed | connects | ⟨other, served', finished, -⟩ := counted.ready readied
  · exact .inl failed
  · exact .inr connects
  · obtain rfl := Option.some.inj (served.symm.trans served')
    cases opened.symm.trans finished

/-- DATA on an open stream is counted if the request comes on that stream. -/
theorem data (placed : Placed before.block frame) {content : DataPayload} {length : Nat}
    (decoded : frame.payload = .data content)
    (opened : before.phase frame.header.streamId = .receiving)
    (dealt : Dealt packages
      ((.dataReceived frame.header.streamId content.data length ::
        H2.ending frame.header.streamId content.endStream).map
          (H2Adapter.withOriginalHeaders original)) request last) :
    Counted packages (before.enter frame.header.streamId (phaseAfter content.endStream))
      (frames ++ [frame]) last := by
  have closed : before.block = none := placed.closed (by simp [decoded])
  have uploads : ∀ other octets, other ≠ frame.header.streamId →
      Upload.take other ⟨octets, pendingEnd before.block other⟩ frame =
        ⟨octets, pendingEnd before.block other⟩ :=
    fun other octets differs => Upload.take_other differs.symm
  cases dealt with
  | cons deals rest =>
    cases deals with
    | data within =>
      by_cases served : request.streamId = some frame.header.streamId
      · -- The content is added to what has come, and may be the last.
        rw [if_pos served] at rest
        have uploaded : Upload.ofFrames frame.header.streamId (frames ++ [frame]) =
            ⟨request.octets + content.data.length, content.endStream⟩ := by
          rw [Upload.ofFrames_snoc, counted.receiving _ served opened, closed]
          exact Upload.take_data decoded rfl
        have block : pendingEnd before.block frame.header.streamId = false := by
          rw [closed]
          rfl
        exact counted.ending uploads { request with octets := request.octets + content.data.length }
          served (counted.served _ served).2 (within served) block uploaded rest
          (counted.ready_open served opened)
      · rw [if_neg served] at rest
        obtain ⟨-, served', -⟩ | ⟨-, rfl⟩ := rest.ending
        · exact absurd served' served
        · exact counted.passed uploads served

omit counted in
/-- A complete block ends nothing on other streams. -/
theorem Placed.uploads (placed : Placed before.block frame)
    (gathered : gather before.block frame.header.streamId frame.payload = some (block, true))
    (other octets : Nat) (differs : other ≠ block.streamId) :
    Upload.take other ⟨octets, pendingEnd before.block other⟩ frame =
      ⟨octets, pendingEnd none other⟩ := by
  rw [placed.take_gathered gathered, pendingEnd_other differs.symm]
  rfl

/-- A complete block opens the stream of a request, which is served if it is the first. -/
theorem requested (placed : Placed before.block frame)
    (gathered : gather before.block frame.header.streamId frame.payload = some (block, true))
    (opens : before.phase block.streamId = .idle)
    (dealt : Dealt packages
      ((.requestReceived block.streamId headers block.endStream ::
        H2.ending block.streamId block.endStream).map
          (H2Adapter.withOriginalHeaders original)) request last) :
    Counted packages { before.enter block.streamId (phaseAfter block.endStream) with block := none }
      (frames ++ [frame]) last := by
  have uploads := Placed.uploads placed gathered
  cases dealt with
  | cons deals rest =>
    cases deals with
    | refused served =>
      -- The stream was idle, so it is not the one that is served.
      have differs : request.streamId ≠ some block.streamId := by
        intro same
        exact (counted.served _ same).1 opens
      obtain ⟨-, same, -⟩ | ⟨-, rfl⟩ := rest.ending
      · exact absurd same differs
      · exact counted.passed uploads differs
    | accepted first valid limited byItself =>
      rename_i fields failed ready
      obtain ⟨none, undeclared, unready⟩ := counted.unserved first
      have uploaded : Upload.ofFrames block.streamId (frames ++ [frame]) =
          ⟨request.octets, block.endStream⟩ := by
        rw [Upload.ofFrames_snoc, counted.idle _ opens, placed.take_gathered gathered,
          pendingEnd_self, none]
      have declared : (declaredLength fields).or request.expected = declaredLength fields := by
        rw [undeclared, Option.or_none]
      refine counted.ending uploads ⟨_, _, failed, ready, _, _⟩ rfl
        ⟨fields, rfl, valid, limited, declared⟩ counted.bounded rfl uploaded rest fun readied => ?_
      -- Nothing but an unknown expectation or a tunnel has made the request ready so far.
      obtain older | failed | connects := byItself readied
      · cases unready.symm.trans older
      · exact .inl failed
      · exact .inr ⟨fields, rfl, connects⟩

/-- Trailers end a stream that was open. -/
theorem trailers (placed : Placed before.block frame)
    (gathered : gather before.block frame.header.streamId frame.payload = some (block, true))
    (opened : before.phase block.streamId = .receiving) (ends : block.endStream = true)
    (dealt : Dealt packages
      ([.trailersReceived block.streamId headers, .streamEnded block.streamId].map
        (H2Adapter.withOriginalHeaders original)) request last) :
    Counted packages { before.enter block.streamId .finished with block := none }
      (frames ++ [frame]) last := by
  have uploads := Placed.uploads placed gathered
  cases dealt with
  | cons deals rest =>
    cases deals with
    | trailers =>
      have ending : Dealt packages ((H2.ending block.streamId true).map
          (H2Adapter.withOriginalHeaders none)) request last := rest
      by_cases served : request.streamId = some block.streamId
      · have uploaded : Upload.ofFrames block.streamId (frames ++ [frame]) =
            ⟨request.octets, true⟩ := by
          rw [Upload.ofFrames_snoc, counted.receiving _ served opened,
            placed.take_gathered gathered, pendingEnd_self, ends]
        exact counted.ending uploads request served (counted.served _ served).2 counted.bounded rfl
          uploaded ending (counted.ready_open served opened)
      · obtain ⟨-, served', -⟩ | ⟨-, rfl⟩ := ending.ending
        · exact absurd served' served
        · have passed : Counted packages { before.enter _ (phaseAfter true) with block := none } _ _ :=
            counted.passed uploads served
          exact passed

/-- Whatever a frame brings, what it uploads is what is counted. -/
theorem step (placed : Placed before.block frame) {events : List Event}
    (reacts : Reacts frame.header.streamId frame.payload before events after)
    (dealt : Dealt packages (events.map (H2Adapter.withOriginalHeaders original)) request last) :
    Counted packages after (frames ++ [frame]) last := by
  have nowhere {streamId : Nat} (among : streamId ∈ (none : Option Nat)) : False := by cases among
  cases reacts with
  | aside other outside between settles =>
    cases dealt with
    | nil =>
      have still : Counted packages before (frames ++ [frame]) request :=
        counted.elsewhere none (fun _ among => (nowhere among).elim) (fun _ _ => rfl)
          (fun _ _ _ _ => Upload.take_besides other outside)
      exact still.settles settles
  | data decoded opened => exact counted.data placed decoded opened dealt
  | discarded decoded closed =>
    cases dealt with
    | nil =>
      refine counted.elsewhere none (fun _ among => (nowhere among).elim) (fun _ _ => rfl) ?_
      -- What comes on a finished stream is not on one that is still open.
      intro streamId octets _ unfinished
      apply Upload.take_other
      intro same
      rw [same] at closed
      exact unfinished closed
  | fragment gathered =>
    cases dealt with
    | nil =>
      exact counted.elsewhere none (fun _ among => (nowhere among).elim) (fun _ _ => rfl)
        (fun streamId octets _ _ => placed.take_gathered gathered streamId octets)
  | request gathered opens => exact counted.requested placed gathered opens dealt
  | trailers gathered opened ends => exact counted.trailers placed gathered opened ends dealt
  | ignored gathered closed =>
    cases dealt with
    | nil =>
      refine counted.elsewhere none (fun _ among => (nowhere among).elim) (fun _ _ => rfl) ?_
      intro streamId octets _ unfinished
      have differs : streamId ≠ _ := fun same => unfinished (same ▸ closed)
      rw [placed.take_gathered gathered, pendingEnd_other differs.symm]
      rfl

end Counted

end Counted

end RequestState

namespace HTTP2Session

open Fallible RequestState

/-! ### Along a run -/

/-- Counting goes by the frames, the streams and the request alone. -/
theorem following_counted (streams : packages.h2.Streams view) :
    Following packages view fun session => Counted packages (view session.connection.core)
      session.capture.frames session.request where
  created transport := by
    have initial : view (create packages transport).connection.core = {} := streams.initial
    rw [initial]
    refine ⟨fun _ _ => rfl, fun _ => ⟨rfl, rfl, rfl⟩, ?_, ?_, ?_, Nat.zero_le _⟩
    · intro streamId served
      cases served
    · intro streamId served
      cases served
    · intro ready
      cases ready
  quiet answers capture request counted := by
    rw [capture, request]
    exact counted.settles answers.settles
  frame advances counted := by
    rw [advances.frames]
    exact (counted.step advances.placed advances.follows.reacts advances.follows.dealt).settles
      advances.follows.settles

/-- The loop returns as soon as the request is ready, and not before. -/
theorem receiveRequestLoop_ready {turns : Nat} {before after : HTTP2Session κ δ}
    (ran : receiveRequestLoop packages turns before = (.ok (), after)) :
    after.requestReady = true := by
  induction turns generalizing before with
  | zero => exact (throw_eq_ok.mp ran).elim
  | succ turns ih =>
    simp only [receiveRequestLoop, bind_eq_ok, get_eq_ok] at ran
    obtain ⟨_, _, ⟨rfl, rfl⟩, ran⟩ := ran
    split at ran
    · rename_i ready
      obtain ⟨-, rfl⟩ := pure_eq_ok.mp ran
      exact ready
    · simp only [bind_eq_ok] at ran
      obtain ⟨data, read, -, _, received, -, rest⟩ := ran
      exact ih rest

/-- A received request is ready. -/
theorem receiveRequest_ready {before after : HTTP2Session κ δ}
    (ran : receiveRequest packages before = (.ok (), after)) : after.requestReady = true := by
  simp only [receiveRequest, bind_eq_ok, get_eq_ok] at ran
  obtain ⟨_, _, ⟨rfl, rfl⟩, _, looped, ran₁, ran₂⟩ := ran
  obtain ⟨-, -, rfl⟩ := checkCancelled_ok ran₂
  exact receiveRequestLoop_ready ran₁

/-- The length that is expected is the number that every Content-Length field denotes. -/
theorem decimalValue_of_declared {fields : List Field} {octets : Nat}
    (valid : validateFields packages fields false = .ok ())
    (limited : ∀ declared ∈ declaredLength fields, declared ≤ maxRequestBody)
    (agrees : ∀ expected ∈ declaredLength fields, expected = octets) {value : Bytes}
    (among : value ∈ fieldValues fields (ascii "content-length")) : decimalValue value = octets := by
  -- The dictionary has kept the last of the fields.
  obtain ⟨last, found⟩ : ∃ last, (fieldValues fields (ascii "content-length")).getLast? =
      some last := by
    cases found : (fieldValues fields (ascii "content-length")).getLast? with
    | none =>
      rw [List.getLast?_eq_none_iff] at found
      rw [found] at among
      cases among
    | some last => exact ⟨last, rfl⟩
  have declared : declaredLength fields = some (boundedContentLength last) := by
    rw [declaredLength, Dict.get?_ofItems, Dict.last?_eq_getLast?]
    rw [fieldValues] at found
    rw [found]
    rfl
  have among' := List.mem_of_getLast? found
  have numeric := (validateFields_lengths valid among' among).1
  have bounded := limited _ declared
  have same := agrees _ declared
  rw [boundedContentLength_eq numeric] at bounded same
  rw [(validateFields_lengths valid among among').2]
  omega

/--
The request that is returned has received as much content as each of its lengths declares.

Neither padding nor other streams count, and content over the limit is not received.
-/
theorem contentLength_received (streams : packages.h2.Streams view) :
    (∀ before after : HTTP2Session κ δ, Run packages false before →
      receiveRequest packages before = (.ok (), after) →
      after.capture.expectationFailed = false →
      (∀ fields ∈ after.capture.headers,
        (Dict.ofItems fields).get? (ascii ":method") ≠ some (ascii "CONNECT")) →
      ∃ streamId fields, after.capture.streamId = some streamId ∧
        after.capture.headers = some fields ∧
        (Upload.ofFrames streamId after.capture.frames).ended = true ∧
        ∀ value ∈ fieldValues fields (ascii "content-length"), isDigits value = true ∧
          decimalValue value = (Upload.ofFrames streamId after.capture.frames).octets) ∧
    (∀ state : HTTP2Session κ δ, Between packages state → state.requestBytes ≤ maxRequestBody) ∧
    ∀ (event : Event) (before after : HTTP2Session κ δ), before.requestBytes ≤ maxRequestBody →
      processEvent packages event before = (.ok (), after) → after.requestBytes ≤ maxRequestBody := by
  have following : Following packages view _ := following_counted streams
  refine ⟨?_, ?_, ?_⟩
  · intro before after run ran expected method
    have waiting := (Run.returned .receiveRequest run ran).waiting
    obtain ⟨-, counted⟩ := following.waiting streams waiting
    obtain failed | ⟨fields, captured, connects⟩ | ⟨streamId, served, -, uploaded, agrees⟩ :=
      counted.ready (receiveRequest_ready ran)
    · have unfailed : after.request.expectationFailed = false := expected
      rw [unfailed] at failed
      cases failed
    · exact absurd connects (method fields captured)
    · obtain ⟨-, fields, captured, valid, limited, declared⟩ := counted.served streamId served
      refine ⟨streamId, fields, served, captured, ?_, ?_⟩
      · rw [uploaded]
      · intro value among
        refine ⟨(validateFields_lengths valid among among).1, ?_⟩
        rw [uploaded]
        rw [declared] at agrees
        exact decimalValue_of_declared valid limited agrees among
  · intro state between
    exact (following.between streams between).2.bounded
  · intro event before after bounded ran
    cases content : isContent event with
    | false =>
      have same := congrArg RequestState.octets (processEvent_skipped content ran).request.1
      have unchanged : after.requestBytes = before.requestBytes := same
      omega
    | true =>
      exact (processEvent_deals streams content ran).2.bounded bounded

end HTTP2Session

namespace Reference

/-- A request that declares the length of its content with a leading zero. -/
def uploadRequest : Bytes :=
  http2Preface ++ tableSizesWire ++
    HTTP2FrameBuilder.frameBytes FrameType.headers.code FrameFlags.endHeaders 1
      ([0x83, 0x84, 0x87] ++ literal (ascii ":authority", ascii "a") ++
        literal (ascii "content-length", ascii "02"))

/-- The content of that request, with padding. -/
def uploadContent : Bytes :=
  HTTP2FrameBuilder.frameBytes FrameType.data.code (FrameFlags.endStream ||| FrameFlags.padded) 1
    (1 :: ascii "hi" ++ [0])

/-- The session that has yet to read the content. -/
def uploading : HTTP2Session Core Unit :=
  ((HTTP2Session.Call.begin uploadRequest).perform referencePackages
    (HTTP2Session.create referencePackages { reads := [.ok uploadContent] })).2

theorem run_uploading : HTTP2Session.Run referencePackages false uploading :=
  HTTP2Session.Run.performed (.begin uploadRequest) (.created _) (by decide +kernel)

/-- The session that has read it. -/
def uploaded : HTTP2Session Core Unit :=
  (HTTP2Session.receiveRequest referencePackages uploading).2

end Reference

namespace HTTP2Session

/-- Two octets have come, as the request says. -/
theorem contentLength_received_uploaded :
    Reference.uploaded.capture.headers.isSome = true ∧
      ∃ streamId fields, Reference.uploaded.capture.headers = some fields ∧
        ∀ value ∈ fieldValues fields (ascii "content-length"), isDigits value = true ∧
          decimalValue value = (Upload.ofFrames streamId Reference.uploaded.capture.frames).octets := by
  have ran : receiveRequest referencePackages Reference.uploading =
      (.ok (), Reference.uploaded) := by
    apply Prod.ext
    · decide +kernel
    · rw [Reference.uploaded]
  have method : ∀ fields ∈ Reference.uploaded.capture.headers,
      (Dict.ofItems fields).get? (ascii ":method") ≠ some (ascii "CONNECT") := by
    have posted : Reference.uploaded.capture.headers.all (fun fields =>
      (Dict.ofItems fields).get? (ascii ":method") ≠ some (ascii "CONNECT")) = true := by
      decide +kernel
    intro fields captured
    rw [Option.mem_def.mp captured] at posted
    exact of_decide_eq_true posted
  obtain ⟨streamId, fields, -, captured, -, lengths⟩ :=
    (contentLength_received Reference.reference_streams).1 _ _ Reference.run_uploading ran
      (by decide +kernel) method
  exact ⟨by decide +kernel, streamId, fields, captured, lengths⟩

end HTTP2Session

end SolveTls
