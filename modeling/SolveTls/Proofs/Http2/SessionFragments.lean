import SolveTls.Connection
import SolveTls.Proofs.Http2.SessionBuffer
import SolveTls.Proofs.Http2.SessionGrammar

/-! What a session makes of a stream does not depend on how the stream is cut into chunks. -/

namespace SolveTls.HTTP2Session

open Fallible List Reference ClientConnection

variable {κ δ : Type} {packages : Packages κ δ}
variable {state after before : HTTP2Session κ δ} {frame : ParsedFrame}
  {wire rest first data buffered incomingData : Bytes} {turns : Nat} {chunks : List Bytes}
  {core : κ} {transport : Transport}

/-! ### Nothing stays queued between frames -/

/-- Nothing is queued for sending. -/
def Quiet (session : HTTP2Session κ δ) : Prop := session.connection.outgoing = []

/-- Flushing leaves nothing queued. -/
theorem quiet_flush : Within (fun _ => Quiet) (flush : SessionM κ δ Unit) := by
  intro state
  rw [Quiet, flush_connection]

/-- Neither does a call whose frames are flushed. -/
theorem exchange_quiet {outcall : Outcall}
    (ran : (do callH2 packages outcall.method; flush) before = (.ok (), after)) : Quiet after := by
  obtain ⟨_, middle, -, flushed⟩ := bind_eq_ok.mp ran
  exact quiet_flush.reached flushed

/-- Without queued frames there is nothing to send. -/
theorem flush_quiet (quiet : Quiet state) :
    flush state = (.ok (), state) := by
  have same : { state with connection := { state.connection with outgoing := [] } } = state := by
    rw [← quiet]
  have nothing : ¬ state.connection.outgoing ≠ [] := not_not.mpr quiet
  rw [flush_eq, runWhen_neg nothing, pure_apply, same]

theorem pause_connection (state : HTTP2Session κ δ) :
    (pause state).2.connection = state.connection := by
  simp only [pause]
  cases state.transport.pauses.headD none <;> rfl

/-- A delivered frame is followed by sending everything it queued. -/
theorem quiet_deliverFrame (ran : deliverFrame packages frame wire state = (.ok (), after)) :
    Quiet after := by
  simp only [deliverFrame, bind_eq_ok] at ran
  obtain ⟨_, _, -, _, delivered, -, _, flushed, ran₁, ran₂⟩ := ran
  have quiet : Quiet flushed := quiet_flush.reached ran₁
  rcases runWhen_eq_ok.mp ran₂ with ⟨-, paused⟩ | ⟨-, rfl⟩
  · have same := pause_connection flushed
    rw [paused] at same
    rw [Quiet, same]
    exact quiet
  · exact quiet

theorem quiet_processFrame (captured : HTTP2FrameReader.Captured wire frame)
    (ran : processFrame packages frame wire state = (.ok (), after)) (quiet : Quiet state) :
    Quiet after := by
  obtain ⟨-, ⟨-, aside⟩ | ⟨-, delivered⟩⟩ := processFrame_cases captured ran
  · -- Counting streams may change the library's state, but queues nothing.
    obtain ⟨⟨streams, cancelled, core, rfl⟩, -, -⟩ := aside
    exact quiet
  · exact quiet_deliverFrame delivered

theorem quiet_receiveLoop (ran : receiveLoop packages turns before = (.ok (), after))
    (quiet : Quiet before) :
    Quiet after := by
  refine (covers_receiveLoop Exits.chained_keeping (fun _ _ _ held => held)
    (fun _ _ _ => covers_kept fun ran => (fail_eq_ok.mp ran).elim)
    (fun framed fits => covers_kept fun {state _ _} received held => ?_) turns before).returned ran
    quiet
  obtain ⟨frame, captured, processed⟩ := receiveFrame_ok framed fits received
  have kept : Quiet state := held
  exact quiet_processFrame captured processed kept

/-! ### The loop over a longer buffer -/

/-- One more turn makes no difference once there are enough of them. -/
theorem receiveLoop_fuel (enough : state.buffer.length ≤ turns) :
    receiveLoop packages (turns + 1) state = receiveLoop packages turns state := by
  induction turns generalizing state with
  | zero =>
    have empty : state.buffer = [] := length_eq_zero_iff.mp (Nat.le_zero.mp enough)
    have incomplete : Incomplete (inboundLimit packages state) state.buffer :=
      .inl (by simp [empty, frameHeaderSize])
    rw [receiveLoop_incomplete incomplete, receiveLoop_incomplete incomplete]
  | succ turns ih =>
    rcases buffer_cases (inboundLimit packages state) state.buffer with
      incomplete | oversized | ⟨wire, rest, cut, framed, fits⟩
    · rw [receiveLoop_incomplete incomplete, receiveLoop_incomplete incomplete]
    · rw [receiveLoop_oversized oversized, receiveLoop_oversized oversized]
    · rw [receiveLoop_frame cut framed fits, receiveLoop_frame cut framed fits, bind_apply,
        bind_apply]
      rcases received : receiveFrame packages wire (inboundLimit packages state)
          { state with buffer := rest } with ⟨raised | _, reached⟩
      · rfl
      · -- What is left is shorter, so the induction hypothesis applies to it.
        refine ih ?_
        rw [receiveFrame_buffer framed fits received]
        exact rest_shorter cut framed enough

/-- With more turns than the buffer has octets, their number makes no difference. -/
theorem receiveLoop_enough {more : Nat} (enough : state.buffer.length ≤ turns)
    (further : turns ≤ more) :
    receiveLoop packages more state = receiveLoop packages turns state := by
  induction more, further using Nat.le_induction with
  | base => rfl
  | succ more further ih => rw [receiveLoop_fuel (enough.trans further), ih]

/-- The loop only takes octets off the buffer. -/
theorem receiveLoop_shortens (ran : receiveLoop packages turns before = (.ok (), after)) :
    after.buffer.length ≤ before.buffer.length := by
  induction turns generalizing before with
  | zero =>
    obtain ⟨-, rfl⟩ := pure_eq_ok.mp ran
    exact le_refl _
  | succ turns ih =>
    rcases receiveLoop_turn packages turns before with
      ⟨stopped, -⟩ | ⟨raised, reached, failed, -⟩ | ⟨wire, rest, cut, framed, fits, taken⟩
    · rw [stopped] at ran
      obtain ⟨-, rfl⟩ := Prod.mk.inj ran
      exact le_refl _
    · rw [failed] at ran
      cases ran
    · rw [taken, bind_eq_ok] at ran
      obtain ⟨_, reached, received, looped⟩ := ran
      have left := ih looped
      rw [receiveFrame_buffer framed fits received] at left
      rw [cut, length_append]
      omega

/-- A frame over the limit stays one when more octets follow. -/
theorem Oversized.append {limit : Nat} {buffer : Bytes} (oversized : Oversized limit buffer)
    (more : Bytes) : Oversized limit (buffer ++ more) := by
  obtain ⟨header, large⟩ := oversized
  refine ⟨header.trans (by simp), ?_⟩
  simp only [frameHeaderSize] at header
  rwa [take_append_of_le_length (by omega)]

/-- Taking one frame off a longer buffer, and whatever comes behind it. -/
theorem receiveLoop_frame_append (cut : state.buffer = wire ++ rest) (framed : IsWireFrame wire)
    (fits : (headerOf wire).length ≤ inboundLimit packages state) (more : Bytes)
    (captureBytes turns : Nat) :
    receiveLoop packages (turns + 1) (rebuffer (state.buffer ++ more) captureBytes state) =
      match receiveFrame packages wire (inboundLimit packages state)
        { state with buffer := rest } with
      | (.ok (), reached) =>
        receiveLoop packages turns (rebuffer (rest ++ more) captureBytes reached)
      | (.error raised, reached) => (.error raised, rebuffer (rest ++ more) captureBytes reached) := by
  have longer : (rebuffer (state.buffer ++ more) captureBytes state).buffer =
      wire ++ (rest ++ more) := by
    show state.buffer ++ more = wire ++ (rest ++ more)
    rw [cut, append_assoc]
  rw [receiveLoop_frame longer framed fits, bind_apply]
  -- The frame is received in a state that differs in the buffer only.
  have unbuffered : receiveFrame packages wire (inboundLimit packages state)
      (rebuffer (rest ++ more) captureBytes { state with buffer := rest }) = _ :=
    unbuffered_receiveFrame wire _ _
  have same : { rebuffer (state.buffer ++ more) captureBytes state with buffer := rest ++ more } =
      rebuffer (rest ++ more) captureBytes { state with buffer := rest } := rfl
  have limit : inboundLimit packages (rebuffer (state.buffer ++ more) captureBytes state) =
      inboundLimit packages state := rfl
  rw [same, limit, unbuffered]
  rcases receiveFrame packages wire (inboundLimit packages state) { state with buffer := rest } with
    ⟨raised | _, reached⟩ <;> rfl

/-- What the loop makes of a longer buffer: the same, and then whatever the addition brings. -/
theorem receiveLoop_append (enough : state.buffer.length ≤ turns) (more : Bytes)
    (captureBytes : Nat) {longer : Nat} (longEnough : (state.buffer ++ more).length ≤ longer) :
    (∀ reached, receiveLoop packages turns state = (.ok (), reached) →
      receiveLoop packages longer (rebuffer (state.buffer ++ more) captureBytes state) =
        receiveLoop packages longer (rebuffer (reached.buffer ++ more) captureBytes reached)) ∧
    (∀ raised reached, receiveLoop packages turns state = (.error raised, reached) →
      ∃ raised' reached', receiveLoop packages longer
        (rebuffer (state.buffer ++ more) captureBytes state) = (.error raised', reached')) := by
  -- The induction is on the turns; both loops take the same frames off the front.
  induction turns generalizing state longer with
  | zero =>
    refine ⟨fun reached ran => ?_, fun raised reached ran => by cases ran⟩
    obtain ⟨-, rfl⟩ := Prod.mk.inj ran
    rfl
  | succ turns ih =>
    rcases buffer_cases (inboundLimit packages state) state.buffer with
      incomplete | oversized | ⟨wire, rest, cut, framed, fits⟩
    · rw [receiveLoop_incomplete incomplete]
      refine ⟨fun reached ran => ?_, fun raised reached ran => by cases ran⟩
      obtain ⟨-, rfl⟩ := Prod.mk.inj ran
      rfl
    · -- The size check fails before anything is taken off, in both loops.
      obtain ⟨raised, after, failed, -⟩ := fail_raises (α := Unit) packages
        "HTTP/2 frame size limit exceeded" ErrorCode.frameSizeError.code state
      rw [receiveLoop_oversized oversized, failed]
      refine ⟨fun reached ran => (by cases ran), fun _ _ _ => ?_⟩
      obtain ⟨fuel, rfl⟩ : ∃ fuel, longer = fuel + 1 := by
        have header := (oversized.append more).1
        simp only [frameHeaderSize] at header
        exact ⟨longer - 1, by omega⟩
      have still : Oversized
          (inboundLimit packages (rebuffer (state.buffer ++ more) captureBytes state))
          (rebuffer (state.buffer ++ more) captureBytes state).buffer := oversized.append more
      obtain ⟨raised', after', failed', -⟩ := fail_raises (α := Unit) packages
        "HTTP/2 frame size limit exceeded" ErrorCode.frameSizeError.code
        (rebuffer (state.buffer ++ more) captureBytes state)
      exact ⟨raised', after', (receiveLoop_oversized still fuel).trans failed'⟩
    · have whole : state.buffer ++ more = wire ++ (rest ++ more) := by rw [cut, append_assoc]
      obtain ⟨fuel, rfl⟩ : ∃ fuel, longer = fuel + 1 := by
        have header := framed.1
        rw [whole, length_append] at longEnough
        simp only [frameHeaderSize] at header
        exact ⟨longer - 1, by omega⟩
      rw [receiveLoop_frame cut framed fits, receiveLoop_frame_append cut framed fits, bind_apply]
      rcases received : receiveFrame packages wire (inboundLimit packages state)
          { state with buffer := rest } with ⟨raised | _, middle⟩
      · exact ⟨fun reached ran => (by cases ran), fun _ _ _ => ⟨_, _, rfl⟩⟩
      · have buffer := receiveFrame_buffer framed fits received
        have shorter : (middle.buffer ++ more).length ≤ fuel := by
          rw [buffer]
          exact rest_shorter whole framed longEnough
        have following : middle.buffer.length ≤ turns :=
          buffer ▸ rest_shorter cut framed enough
        obtain ⟨continues, raises⟩ := ih following shorter
        rw [buffer] at continues raises shorter
        refine ⟨fun reached ran => ?_, raises⟩
        -- One turn was spent on the frame, which the remaining buffer does not miss.
        have left := receiveLoop_shortens ran
        dsimp only
        rw [continues reached ran, receiveLoop_fuel]
        show (reached.buffer ++ more).length ≤ fuel
        rw [buffer] at left
        rw [length_append] at shorter ⊢
        omega

/-! ### Chunks -/

/-- Two outcomes that both raise, or are the same. -/
def Agree (first second : Except Exn Unit × HTTP2Session κ δ) : Prop :=
  (∃ raised raised', first.1 = .error raised ∧ second.1 = .error raised') ∨
    first = second ∧ first.1 = .ok ()

theorem agree_refl (result : Except Exn Unit × HTTP2Session κ δ) : Agree result result := by
  rcases result with ⟨raised | _, state⟩
  · exact .inl ⟨raised, raised, rfl, rfl⟩
  · exact .inr ⟨rfl, rfl⟩

theorem Agree.symm {first second : Except Exn Unit × HTTP2Session κ δ} (agree : Agree first second) :
    Agree second first := by
  rcases agree with ⟨raised, raised', left, right⟩ | ⟨rfl, returned⟩
  · exact .inl ⟨raised', raised, right, left⟩
  · exact .inr ⟨rfl, returned⟩

theorem Agree.trans {first second third : Except Exn Unit × HTTP2Session κ δ}
    (agree : Agree first second) (agree' : Agree second third) : Agree first third := by
  rcases agree with ⟨raised, raised', left, right⟩ | ⟨rfl, -⟩
  · rcases agree' with ⟨_, raised'', -, last⟩ | ⟨rfl, returned⟩
    · exact .inl ⟨raised, raised'', left, last⟩
    · rw [right] at returned
      cases returned
  · exact agree'

theorem stopped_of_checkCancelled {raised : Exn}
    (checked : checkCancelled state = (.error raised, after)) :
    state.cancelled = true ∨ state.closed = true := by
  by_contra running
  obtain ⟨uncancelled, opened⟩ := not_or.mp running
  simp [checkCancelled, bind_apply, uncancelled, opened] at checked

/-- A cancelled or closed session cannot come to the end of a chunk. -/
theorem receive_stopped (stopped : before.cancelled = true ∨ before.closed = true)
    (ran : receive packages data before = (.ok (), after)) : False := by
  obtain ⟨-, -, reached, ran₁, ran₂, running, opened⟩ := receive_returned ran
  have advance := advance_receiveLoop.reached ran₁
  -- Both flags stay set through the loop and the sending after it.
  have sent := (outbound_flush.reached ran₂).handling
  rcases stopped with cancelled | closed
  · rw [sent.cancelled (advance.cancelled cancelled)] at running
    cases running
  · rw [sent.closed (advance.closed closed)] at opened
    cases opened

/-- A chunk within the budget goes through the loop. -/
theorem receive_eq (nonempty : data ≠ [])
    (fits : state.captureBytes + data.length ≤ maxCaptureBytes) :
    receive packages data state =
      (do receiveLoop packages (state.buffer ++ data).length; flush; checkCancelled)
        (state.extend data) := by
  rcases receive_cases packages data state with
    ⟨empty, -⟩ | ⟨-, excess, -⟩ | ⟨-, -, looped⟩
  · exact absurd empty nonempty
  · exact absurd fits (not_le.mpr excess)
  · exact looped

/-- Two chunks extend the buffer one after the other. -/
theorem extend_append (state : HTTP2Session κ δ) (first second : Bytes) :
    state.extend (first ++ second) = rebuffer ((state.extend first).buffer ++ second)
      (state.captureBytes + (first ++ second).length) (state.extend first) := by
  simp only [extend, charge, rebuffer, append_assoc]

/-- If the loop gets through the first part, the rest is received as a chunk of its own. -/
theorem receive_continue {reached : HTTP2Session κ δ} {second : Bytes} (nonempty : first ≠ [])
    (more : second ≠ []) (fits : state.captureBytes + (first ++ second).length ≤ maxCaptureBytes)
    (looped : receiveLoop packages (state.buffer ++ first).length (state.extend first) =
      (.ok (), reached)) :
    receive packages (first ++ second) state = receive packages second reached := by
  have counted : reached.captureBytes = state.captureBytes + first.length :=
    (advance_receiveLoop.reached looped).captureBytes
  have total : reached.captureBytes + second.length =
      state.captureBytes + (first ++ second).length := by
    rw [counted, length_append, Nat.add_assoc]
  have left := receiveLoop_shortens looped
  -- The longer buffer is the one that the shorter loop leaves, with the rest behind it.
  have longer := extend_append state first second
  have onward : reached.extend second =
      rebuffer (reached.buffer ++ second) (state.captureBytes + (first ++ second).length)
        reached := by
    simp only [extend, charge, rebuffer, total]
  have enough : ((state.extend first).buffer ++ second).length ≤
      (state.buffer ++ (first ++ second)).length := by
    simp only [extend, charge, append_assoc, le_refl]
  have joined := (receiveLoop_append (le_refl _) second
    (state.captureBytes + (first ++ second).length) enough).1 reached looped
  have turns : receiveLoop packages (state.buffer ++ (first ++ second)).length
      (reached.extend second) =
        receiveLoop packages (reached.buffer ++ second).length (reached.extend second) := by
    refine receiveLoop_enough (le_refl _) ?_
    have width : (state.extend first).buffer.length = (state.buffer ++ first).length := rfl
    rw [width] at left
    simp only [length_append] at left ⊢
    omega
  rw [receive_eq (by simp [nonempty]) fits, receive_eq more (total ▸ fits), bind_apply, bind_apply,
    longer, joined, ← onward, turns]

/-- Receiving a chunk in two parts comes to the same as receiving it whole. -/
theorem receive_append {second : Bytes} (quiet : Quiet state) (nonempty : first ≠ [])
    (more : second ≠ []) (fits : state.captureBytes + (first ++ second).length ≤ maxCaptureBytes) :
    Agree ((do receive packages first; receive packages second) state)
      (receive packages (first ++ second) state) := by
  have partly : state.captureBytes + first.length ≤ maxCaptureBytes := by
    rw [length_append] at fits
    omega
  rw [bind_apply, receive_eq nonempty partly, bind_apply]
  rcases looped : receiveLoop packages (state.buffer ++ first).length (state.extend first) with
    ⟨raised | _, reached⟩
  · -- The frame that fails comes before the cut, so it fails in the whole chunk too.
    have enough : ((state.extend first).buffer ++ second).length ≤
        (state.buffer ++ (first ++ second)).length := by
      simp only [extend, charge, append_assoc, le_refl]
    obtain ⟨raised', reached', failed⟩ := (receiveLoop_append (le_refl _) second
      (state.captureBytes + (first ++ second).length) enough).2 raised reached looped
    rw [receive_eq (by simp [nonempty]) fits, bind_apply, extend_append, failed]
    exact .inl ⟨raised, raised', rfl, rfl⟩
  · rw [receive_continue nonempty more fits looped]
    have still : Quiet reached := quiet_receiveLoop looped quiet
    dsimp only
    rw [bind_apply, flush_quiet still]
    dsimp only
    rcases checked : checkCancelled reached with ⟨raised | _, after⟩
    · -- A session that has been stopped fails at the end of the whole chunk as well.
      rcases ran : receive packages second reached with ⟨raised' | _, last⟩
      · exact .inl ⟨raised, raised', rfl, rfl⟩
      · exact (receive_stopped (stopped_of_checkCancelled checked) ran).elim
    · obtain ⟨-, -, rfl⟩ := checkCancelled_ok checked
      exact agree_refl _

/-- What a chunk that was received has counted, and that nothing is left to send. -/
theorem receive_counts (nonempty : data ≠ [])
    (fits : before.captureBytes + data.length ≤ maxCaptureBytes)
    (ran : receive packages data before = (.ok (), after)) :
    Quiet after ∧ after.captureBytes = before.captureBytes + data.length := by
  simp only [receive_eq nonempty fits, bind_eq_ok] at ran
  obtain ⟨_, reached, ran₁, _, flushed, ran₂, ran₃⟩ := ran
  obtain ⟨-, -, rfl⟩ := checkCancelled_ok ran₃
  have advance := advance_receiveLoop.reached ran₁
  exact ⟨quiet_flush.reached ran₂,
    (outbound_flush.reached ran₂).handling.captureBytes.trans advance.captureBytes⟩

/-- Receiving chunks one after another comes to the same as receiving all of them at once. -/
theorem receiveAll_flatten (quiet : Quiet state) (nonempty : [] ∉ chunks)
    (fits : state.captureBytes + chunks.flatten.length ≤ maxCaptureBytes) :
    Agree (receiveAll packages chunks state)
      (runWhen (chunks.flatten ≠ []) (receive packages chunks.flatten) state) := by
  -- The induction is on the chunks; what the rest comes to is joined to the first one.
  induction chunks generalizing state with
  | nil => exact agree_refl _
  | cons chunk rest ih =>
    obtain ⟨filled, others⟩ := not_or.mp (mem_cons.not.mp nonempty)
    have some : chunk ≠ [] := Ne.symm filled
    have whole : chunk ++ rest.flatten ≠ [] := by simp [some]
    rw [flatten_cons, length_append] at fits
    simp only [receiveAll, flatten_cons, runWhen_pos whole]
    by_cases last : rest.flatten = []
    · -- Without anything after it, the first chunk is all there is.
      have alone : rest = [] := by
        cases rest with
        | nil => rfl
        | cons next others' =>
          rw [flatten_cons, append_eq_nil_iff] at last
          exact absurd (mem_cons.mpr (.inl last.1.symm)) others
      rw [alone, flatten_nil, append_nil, bind_apply]
      rcases receive packages chunk state with ⟨raised | _, after⟩ <;> exact agree_refl _
    · refine Agree.trans ?_ (receive_append quiet some last (by rw [length_append]; omega))
      rw [bind_apply, bind_apply]
      rcases ran : receive packages chunk state with ⟨raised | _, after⟩
      · exact agree_refl _
      · obtain ⟨still, counted⟩ := receive_counts some (by omega) ran
        have rested := ih still others (by rw [counted]; omega)
        rwa [runWhen_pos last] at rested

/-! ### The preface -/

/-- A buffer that has reached the length of the preface without breaking it starts with it. -/
theorem preface_complete (long : http2Preface.length ≤ buffered.length)
    (soFar : buffered.take http2Preface.length <+: http2Preface) :
    ∃ first, buffered = http2Preface ++ first := by
  have whole : buffered.take http2Preface.length = http2Preface :=
    soFar.eq_of_length (by rw [length_take, Nat.min_eq_left long])
  exact ⟨buffered.drop http2Preface.length, by
    nth_rewrite 1 [← take_append_drop http2Preface.length buffered]
    rw [whole]⟩

/-- What starts with the preface has not broken it anywhere on the way. -/
theorem preface_front_append {part : Bytes} (whole : http2Preface <+: part ++ rest) :
    part.take http2Preface.length <+: http2Preface := by
  have front : http2Preface = (part ++ rest).take http2Preface.length :=
    prefix_iff_eq_take.mp whole
  nth_rewrite 2 [front]
  exact (prefix_append part rest).take _

/-- Reading stops at a complete preface. -/
theorem prefaceLoop_complete {reads : List (Except Exn Bytes)}
    (long : ¬ buffered.length < http2Preface.length) :
    prefaceLoop reads buffered = (.ok buffered, reads) := by
  unfold prefaceLoop
  rw [if_neg long]

/-- How reading the preface ends: it is there, it is broken, or the stream is over. -/
theorem prefaceLoop_cases (nonempty : [] ∉ chunks)
    (soFar : buffered.take http2Preface.length <+: http2Preface) :
    (∃ (first : Bytes) (rest : List Bytes),
      prefaceLoop (chunks.map .ok) buffered =
        (.ok (http2Preface ++ first), rest.map .ok) ∧ [] ∉ rest ∧
        buffered ++ chunks.flatten = http2Preface ++ (first ++ rest.flatten)) ∨
    (∃ incoming rest, prefaceLoop (chunks.map .ok) buffered =
        (.ok incoming, rest) ∧ ¬ http2Preface <+: incoming ∧
        ¬ http2Preface <+: buffered ++ chunks.flatten ∧
        ¬ buffered ++ chunks.flatten <+: http2Preface) ∨
    (prefaceLoop (chunks.map .ok) buffered =
        (.error (.connection "Connection closed"), []) ∧
      buffered ++ chunks.flatten <+: http2Preface ∧
      ¬ http2Preface <+: buffered ++ chunks.flatten) := by
  -- The induction is on the chunks; until the preface is complete each one is looked at.
  induction chunks generalizing buffered with
  | nil =>
    by_cases short : buffered.length < http2Preface.length
    · rw [take_of_length_le short.le] at soFar
      refine .inr (.inr ⟨?_, ?_, ?_⟩)
      · simp [prefaceLoop, short]
      · rwa [flatten_nil, append_nil]
      · intro whole
        have length := whole.length_le
        rw [flatten_nil, append_nil] at length
        omega
    · obtain ⟨first, rfl⟩ := preface_complete (not_lt.mp short) soFar
      exact .inl ⟨first, [], prefaceLoop_complete short, by simp, by simp⟩
  | cons chunk rest ih =>
    obtain ⟨-, others⟩ := not_or.mp (mem_cons.not.mp nonempty)
    by_cases short : buffered.length < http2Preface.length
    · have split : buffered ++ (chunk :: rest).flatten = (buffered ++ chunk) ++ rest.flatten := by
        rw [flatten_cons, append_assoc]
      rw [split]
      by_cases broken : ¬ (buffered ++ chunk).take http2Preface.length <+: http2Preface
      · refine .inr (.inl ⟨buffered ++ chunk, rest.map .ok, ?_, ?_, ?_, ?_⟩)
        · simp only [map_cons, prefaceLoop, if_pos short, if_pos broken]
        · intro whole
          rw [← append_nil (buffered ++ chunk)] at whole
          exact broken (preface_front_append whole)
        · exact fun whole => broken (preface_front_append whole)
        · exact fun part => broken ((( take_prefix _ _).trans (prefix_append _ _)).trans part)
      · have step : prefaceLoop ((chunk :: rest).map .ok) buffered =
            prefaceLoop (rest.map .ok) (buffered ++ chunk) := by
          simp only [map_cons, prefaceLoop, if_pos short, if_neg broken]
        rw [step]
        exact ih others (not_not.mp broken)
    · obtain ⟨first, rfl⟩ := preface_complete (not_lt.mp short) soFar
      refine .inl ⟨first, chunk :: rest, prefaceLoop_complete short, nonempty, ?_⟩
      rw [append_assoc]

/-- A new session that has queued its own preface. -/
def announced (packages : Packages κ δ) (transport : Transport) (core : κ)
    (queued : List WireFrame) : HTTP2Session κ δ :=
  { create packages transport with
    initialized := true
    connection := { (create packages transport).connection with core, outgoing := queued } }

/-- A session sends its own preface before it looks at the client's. -/
theorem initializeSession_announces {queued : List WireFrame}
    (initiates : packages.h2.initiateConnection
      (packages.h2.create localSettings serverMaxFrameSize) = .done (.ok ()) core queued)
    (transport : Transport) (incomingData : Bytes) :
    initializeSession packages incomingData (create packages transport) =
      (do
        flush
        failIf packages (¬ http2Preface <+: incomingData) "Invalid HTTP/2 connection preface"
          ErrorCode.protocolError.code
        let _ ← onConnection (H2Adapter.receiveData packages http2Preface)
        runWhen (incomingData.drop http2Preface.length ≠ [])
          (receive packages (incomingData.drop http2Preface.length)))
        (announced packages transport core queued) := by
  have called : callH2 packages (fun h2 core => h2.initiateConnection core)
      { create packages transport with initialized := true } =
        (.ok (), announced packages transport core queued) := callH2_done initiates
  have fresh : ¬ (create packages transport).initialized = true := Bool.false_ne_true
  rw [initializeSession, bind_apply, get_apply]
  dsimp only
  rw [raiseIf_neg fresh, pure_bind_eq, bind_apply, modify_apply]
  dsimp only
  rw [bind_apply, called]

/-- The state in which the preface has been exchanged does not depend on what comes after it. -/
theorem initializeSession_opens (greets : packages.h2.Greets) (transport : Transport) :
    (∃ raised after, ∀ incomingData,
      initializeSession packages incomingData (create packages transport) =
        (.error raised, after)) ∨
    ∃ opened, Quiet opened ∧ opened.captureBytes = 0 ∧ ∀ first,
      initializeSession packages (http2Preface ++ first) (create packages transport) =
        runWhen (first ≠ []) (receive packages first) opened := by
  obtain ⟨core, queued, greeted, initiates, receives⟩ := greets.greeting
  rcases flushed : flush (announced packages transport core queued) with ⟨raised | _, sent⟩
  · refine .inl ⟨raised, sent, fun incomingData => ?_⟩
    rw [initializeSession_announces initiates, bind_apply, flushed]
  · have connection := flush_connection (announced packages transport core queued)
    rw [flushed] at connection
    have bytes := (outbound_flush.reached flushed).handling.captureBytes
    refine .inr ⟨{ sent with connection := { sent.connection with core := greeted } }, ?_, ?_,
      fun first => ?_⟩
    · rw [Quiet, connection]
    · exact bytes
    · have prefaced : ¬ ¬ http2Preface <+: http2Preface ++ first :=
        not_not.mpr (prefix_append _ _)
      rw [initializeSession_announces initiates, bind_apply, flushed]
      dsimp only
      rw [failIf_neg prefaced, pure_bind_eq, drop_left, bind_apply]
      have takes : packages.h2.receiveData sent.connection.core http2Preface =
          .done (.ok []) greeted [] := by
        rw [connection]
        exact receives
      rw [receiveData_done takes]
      simp only [append_nil]

/-- Every cutting of what follows the preface comes to receiving it at once. -/
theorem feed_agrees {opened : HTTP2Session κ δ} (quiet : Quiet opened)
    (uncounted : opened.captureBytes = 0)
    (opens : ∀ first, initializeSession packages (http2Preface ++ first)
      (create packages transport) = runWhen (first ≠ []) (receive packages first) opened)
    {rest : List Bytes} (nonempty : [] ∉ rest)
    (fits : (first ++ rest.flatten).length ≤ maxCaptureBytes) :
    Agree (feed packages (http2Preface ++ first) rest (create packages transport))
      (runWhen (first ++ rest.flatten ≠ []) (receive packages (first ++ rest.flatten)) opened) := by
  have budget : opened.captureBytes + (first ++ rest.flatten).length ≤ maxCaptureBytes := by
    rw [uncounted, Nat.zero_add]
    exact fits
  rw [feed, bind_apply, opens]
  by_cases none : first = []
  · subst none
    rw [nil_append] at budget ⊢
    rw [runWhen_neg (not_not.mpr rfl), pure_apply]
    exact receiveAll_flatten quiet nonempty budget
  · -- What came along with the preface is the first chunk.
    rw [runWhen_pos none]
    have filled : [] ∉ first :: rest := by
      rw [mem_cons, not_or]
      exact ⟨Ne.symm none, nonempty⟩
    have whole : Agree (receiveAll packages (first :: rest) opened) _ :=
      receiveAll_flatten quiet filled budget
    rwa [receiveAll, bind_apply] at whole

/-! ### Whole streams -/

/-- A session that begins with anything but the preface raises. -/
theorem feed_unprefaced (packages : Packages κ δ) (broken : ¬ http2Preface <+: incomingData)
    (chunks : List Bytes) (transport : Transport) :
    ∃ raised, (feed packages incomingData chunks (create packages transport)).1 = .error raised := by
  rcases initializeSession_cases packages incomingData (create packages transport) with
    ⟨raised, after, ran, -⟩ | ⟨-, -, prefaced, -⟩
  · exact ⟨raised, by rw [feed, bind_apply, ran]⟩
  · exact absurd prefaced broken

theorem filterMap_ok (rest : List Bytes) :
    (rest.map Except.ok).filterMap (Except.toOption : Except Exn Bytes → Option Bytes) = rest := by
  induction rest with
  | nil => rfl
  | cons chunk rest ih => simp only [map_cons, filterMap_cons, Except.toOption, ih]

/-- What a stream comes to under a cutting, by how it begins. -/
theorem feedStream_cases (packages : Packages κ δ) (transport : Transport)
    (nonempty : [] ∉ chunks) :
    (∃ first rest, [] ∉ rest ∧ chunks.flatten = http2Preface ++ (first ++ rest.flatten) ∧
      feedStream packages transport chunks =
        (feed packages (http2Preface ++ first) rest (create packages transport)).map id some) ∨
    (¬ http2Preface <+: chunks.flatten ∧ ¬ chunks.flatten <+: http2Preface ∧
      ∃ incoming rest, ¬ http2Preface <+: incoming ∧
        feedStream packages transport chunks =
          (feed packages incoming rest (create packages transport)).map id some) ∨
    (¬ http2Preface <+: chunks.flatten ∧ chunks.flatten <+: http2Preface ∧
      feedStream packages transport chunks = (.error (.connection "Connection closed"), none)) := by
  have start : ([] : Bytes).take http2Preface.length <+: http2Preface := by simp
  rcases prefaceLoop_cases nonempty start with
    ⟨first, rest, read, filled, whole⟩ | ⟨incoming, rest, read, broken, off, on⟩ | ⟨read, on, off⟩
  · refine .inl ⟨first, rest, filled, whole, ?_⟩
    simp only [feedStream, read, filterMap_ok]
    rfl
  · refine .inr (.inl ⟨off, on, incoming, rest.filterMap Except.toOption, broken, ?_⟩)
    simp only [feedStream, read]
    rfl
  · refine .inr (.inr ⟨off, on, ?_⟩)
    simp only [feedStream, read]

/-- On a transport whose writes succeed, sending returns. -/
theorem flush_sent (works : ∀ outcome ∈ state.transport.writes, outcome = .sent) :
    ∃ sent, flush state = (.ok (), sent) ∧
      (∀ outcome ∈ sent.transport.writes, outcome = .sent) := by
  have head : state.transport.writes.headD .sent = .sent := by
    cases script : state.transport.writes with
    | nil => rfl
    | cons outcome rest => exact works outcome (by simp [script])
  rw [flush_eq]
  by_cases queued : state.connection.outgoing ≠ []
  · rw [runWhen_pos queued]
    simp only [transportWrite, handOver, head]
    exact ⟨_, rfl, fun outcome among => works outcome (mem_of_mem_tail among)⟩
  · rw [runWhen_neg queued]
    exact ⟨_, rfl, works⟩

/-- An open connection on such a transport fails with the error it should fail with. -/
theorem fail_sent {message : String} {errorCode : Nat} {goaway : List WireFrame}
    (opened : state.closed = false) (works : ∀ outcome ∈ state.transport.writes, outcome = .sent)
    (closes : packages.h2.closeConnection state.connection.core errorCode
      (some (state.capture.streamId.getD 0)) = .done (.ok ()) core goaway) :
    (fail packages message errorCode state : Except Exn Unit × HTTP2Session κ δ).1 =
      .error (.protocolError message errorCode) := by
  simp only [fail, recordError, close, bind_apply, modify_apply, get_apply]
  have unclosed : ¬ state.closed = true := by simp [opened]
  rw [runWhen_pos unclosed, bind_apply, callH2_done closes]
  dsimp only
  rw [modify_apply]
  dsimp only
  -- Whatever state the GOAWAY is sent from, its transport is still the same one.
  obtain ⟨sent, flushed, -⟩ := @flush_sent κ δ { state with
    closed := true
    connection := { state.connection with core, outgoing := state.connection.outgoing ++ goaway }
    history := { state.history with
      errors := state.history.errors ++ [state.transport.written.length] } } works
  rw [flushed]
  rfl

/-- Anything but the preface is answered with a protocol error. -/
theorem initializeSession_rejects (greets : packages.h2.Greets)
    (works : ∀ outcome ∈ transport.writes, outcome = .sent)
    (broken : ¬ http2Preface <+: incomingData) :
    (initializeSession packages incomingData (create packages transport)).1 =
      .error (.protocolError "Invalid HTTP/2 connection preface" ErrorCode.protocolError.code) := by
  obtain ⟨core, queued, greeted, initiates, -⟩ := greets.greeting
  have working : ∀ outcome ∈ (announced packages transport core queued).transport.writes,
      outcome = .sent := works
  obtain ⟨sent, flushed, still⟩ := flush_sent working
  obtain ⟨transport', shape⟩ := flush_shape (announced packages transport core queued)
  rw [flushed] at shape
  dsimp only at shape
  obtain ⟨closed, goaway, closes⟩ := greets.closing core queued initiates
    ErrorCode.protocolError.code (some 0)
  have rejected : (fail packages "Invalid HTTP/2 connection preface"
      ErrorCode.protocolError.code sent : Except Exn Unit × HTTP2Session κ δ).1 =
        .error (.protocolError "Invalid HTTP/2 connection preface" ErrorCode.protocolError.code) := by
    have closing : packages.h2.closeConnection sent.connection.core ErrorCode.protocolError.code
        (some (sent.capture.streamId.getD 0)) = .done (.ok ()) closed goaway := by
      rw [shape]
      exact closes
    refine fail_sent ?_ still closing
    rw [shape]
    rfl
  rw [initializeSession_announces initiates, bind_apply, flushed]
  dsimp only
  rw [failIf_pos broken, bind_apply]
  -- Failing does not return, so nothing after it runs.
  rcases failed : (fail packages "Invalid HTTP/2 connection preface"
      ErrorCode.protocolError.code : SessionM κ δ Unit) sent with ⟨raised | _, after⟩
  · rw [failed] at rejected
    exact rejected
  · exact (fail_eq_ok.mp failed).elim

/-- Two cuttings of the same octets behind the preface. -/
theorem feedStream_agree (greets : packages.h2.Greets) {first second : List Bytes}
    {head head' : Bytes} {rest rest' : List Bytes} (others : [] ∉ rest) (others' : [] ∉ rest')
    (same : head' ++ rest'.flatten = head ++ rest.flatten)
    (fits : (head ++ rest.flatten).length ≤ maxCaptureBytes)
    (ran : feedStream packages transport first =
      (feed packages (http2Preface ++ head) rest (create packages transport)).map id some)
    (ran' : feedStream packages transport second =
      (feed packages (http2Preface ++ head') rest' (create packages transport)).map id some) :
    (∃ raised raised', (feedStream packages transport first).1 = .error raised ∧
        (feedStream packages transport second).1 = .error raised') ∨
      ∃ session, feedStream packages transport first = (.ok (), some session) ∧
        feedStream packages transport second = (.ok (), some session) := by
  simp only [ran, ran', Prod.map, id_eq]
  rcases initializeSession_opens greets transport with
    ⟨raised, after, raises⟩ | ⟨opened, quiet, uncounted, opens⟩
  · -- Sending our own preface fails before the client's is looked at.
    refine .inl ⟨raised, raised, ?_, ?_⟩ <;> rw [feed, bind_apply, raises]
  · have agree := feed_agrees quiet uncounted opens others fits
    have agree' := feed_agrees quiet uncounted opens others' (same ▸ fits)
    rw [same] at agree'
    rcases agree.trans agree'.symm with raising | ⟨equal, returned⟩
    · exact .inl raising
    · refine .inr ⟨_, Prod.ext returned rfl, ?_⟩
      rw [← equal]
      exact Prod.ext returned rfl

/--
What becomes of a stream does not depend on how it is cut into chunks.

Either both cuttings raise, or both end in the same state: the frames processed, the capture, the
buffer and every counter and flag, and all that was written. A stream that breaks the preface is
answered with a protocol error, and one that ends inside it is found closed before there is a session.
-/
theorem feedStream_fragmentation (greets : packages.h2.Greets) (transport : Transport)
    {stream : Bytes} {first second : List Bytes} (cut : first.flatten = stream)
    (recut : second.flatten = stream) (filled : [] ∉ first) (refilled : [] ∉ second)
    (fits : (stream.drop http2Preface.length).length ≤ maxCaptureBytes) :
    ((∃ raised raised', (feedStream packages transport first).1 = .error raised ∧
        (feedStream packages transport second).1 = .error raised') ∨
      ∃ session, feedStream packages transport first = (.ok (), some session) ∧
        feedStream packages transport second = (.ok (), some session)) ∧
    (¬ http2Preface <+: stream → ¬ stream <+: http2Preface →
      (∀ outcome ∈ transport.writes, outcome = .sent) →
      (feedStream packages transport first).1 = .error
        (.protocolError "Invalid HTTP/2 connection preface" ErrorCode.protocolError.code)) ∧
    (¬ http2Preface <+: stream → stream <+: http2Preface →
      feedStream packages transport first = (.error (.connection "Connection closed"), none)) := by
  subst cut
  refine ⟨?_, ?_, ?_⟩
  · -- The two cuttings begin in the same way, since they are of one stream.
    have recutting := feedStream_cases packages transport refilled
    rw [recut] at recutting
    rcases feedStream_cases packages transport filled with
      ⟨head, rest, others, whole, ran⟩ | ⟨off, on, incoming, rest, broken, ran⟩ | ⟨off, on, ran⟩
    · rcases recutting with ⟨head', rest', others', whole', ran'⟩ | ⟨off', -⟩ | ⟨off', -⟩
      · have same : head' ++ rest'.flatten = head ++ rest.flatten :=
          append_cancel_left (whole'.symm.trans whole)
        rw [whole, drop_left] at fits
        exact feedStream_agree greets others others' same fits ran ran'
      · exact absurd (whole ▸ prefix_append _ _) off'
      · exact absurd (whole ▸ prefix_append _ _) off'
    · obtain ⟨raised, raises⟩ := feed_unprefaced packages broken rest transport
      rcases recutting with ⟨_, _, -, whole', -⟩ | ⟨-, -, incoming', rest', broken', ran'⟩ | ⟨-, on', -⟩
      · exact absurd (whole' ▸ prefix_append _ _) off
      · obtain ⟨raised', raises'⟩ := feed_unprefaced packages broken' rest' transport
        rw [ran, ran']
        exact .inl ⟨raised, raised', raises, raises'⟩
      · exact absurd on' on
    · rcases recutting with ⟨_, _, -, whole', -⟩ | ⟨-, on', -⟩ | ⟨-, -, ran'⟩
      · exact absurd (whole' ▸ prefix_append _ _) off
      · exact absurd on on'
      · rw [ran, ran']
        exact .inl ⟨_, _, rfl, rfl⟩
  · intro off on works
    rcases feedStream_cases packages transport filled with
      ⟨head, rest, -, whole, -⟩ | ⟨-, -, incoming, rest, broken, ran⟩ | ⟨-, part, -⟩
    · exact absurd (whole ▸ prefix_append _ _) off
    · have rejected := initializeSession_rejects greets works broken
      rw [ran, feed, bind_apply]
      rcases failed : initializeSession packages incoming (create packages transport) with
        ⟨raised | _, after⟩ <;> rw [failed] at rejected
      · exact rejected
      · cases rejected
    · exact absurd part on
  · intro off part
    rcases feedStream_cases packages transport filled with
      ⟨head, rest, -, whole, -⟩ | ⟨-, on, -⟩ | ⟨-, -, ran⟩
    · exact absurd (whole ▸ prefix_append _ _) off
    · exact absurd part on
    · exact ran

/-- A plain request in one piece and octet by octet. -/
theorem feedStream_fragmentation_octets :
    (∃ session, feedStream referencePackages {} [plainRequest] = (.ok (), some session) ∧
      feedStream referencePackages {} (plainRequest.map fun octet => [octet]) =
        (.ok (), some session)) := by
  have cut : (plainRequest.map fun octet => [octet]).flatten =
      [plainRequest].flatten := by decide +kernel
  have greets : referencePackages.h2.Greets := reference_greets
  obtain ⟨agree, -⟩ := feedStream_fragmentation greets {}
    (rfl : [plainRequest].flatten = _) cut (by decide +kernel) (by decide +kernel)
    (by decide +kernel)
  rcases agree with ⟨raised, -, failed, -⟩ | same
  · -- In one piece the request is received, so neither cutting raises.
    have returned : (feedStream referencePackages {} [plainRequest]).1 = .ok () := by
      decide +kernel
    rw [returned] at failed
    cases failed
  · exact same

/-- A stream that ends within the preface does not start with it, but is only found closed. -/
theorem feedStream_truncated :
    ¬ http2Preface <+: ascii "P" ∧
      (feedStream referencePackages {} [ascii "P"]).1 = .error (.connection "Connection closed") ∧
      (feedStream referencePackages {} [ascii "P"]).1 ≠ .error
        (.protocolError "Invalid HTTP/2 connection preface" ErrorCode.protocolError.code) := by
  decide +kernel

end SolveTls.HTTP2Session
