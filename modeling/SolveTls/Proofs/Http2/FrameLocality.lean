import SolveTls.Proofs.Http2.FrameReading

/-! A frame is read the same wherever it stands, and forensic capture only changes what is kept. -/

namespace SolveTls.HTTP2FrameReader

open Octets Fallible List

variable {reader first second : HTTP2FrameReader} {wire : Bytes} {strict : Bool}
variable {frame : ParsedFrame} {after : HTTP2FrameReader} {wires : List Bytes}

/-! ### What the payload grammar can see of a reader -/

/-- Two readers with the same octets of payload left, in one padding mode and with one budget. -/
structure Alike (strict : Bool) (first second : HTTP2FrameReader) : Prop where
  window : ∃ rest, Window first rest ∧ Window second rest
  padding : first.strictPadding = strict ∧ second.strictPadding = strict
  budget : first.maxEntries.map (· - (first.entriesRead : Int)) =
    second.maxEntries.map (· - (second.entriesRead : Int))

/-- Taking octets is decided by what is left of the payload. -/
theorem read_eq {rest : Bytes} (window : Window reader rest) (n : Int) :
    read n reader =
      if n < 0 ∨ n > rest.length then
        (.error ⟨s!"Insufficient data: need {n} bytes, have {(rest.length : Int)}",
          ErrorCode.frameSizeError.code⟩, reader)
      else (.ok (rest.take n.toNat), reader.skip n.toNat) := by
  obtain ⟨after, held⟩ := window.holds
  have bound := window.bound
  have available : ((reader.payloadEnd.getD reader.data.length : Nat) : Int) - reader.pos =
      rest.length := by omega
  have guard : (n < 0 ∨ (reader.pos : Int) + n > (reader.payloadEnd.getD reader.data.length : Nat)) ↔
      (n < 0 ∨ n > rest.length) := by omega
  by_cases short : n < 0 ∨ n > rest.length
  · rw [if_pos short]
    simp only [read, bind_apply, get_apply, raiseIf_pos (guard.mpr short), throw_apply, available]
  · rw [if_neg short]
    have enough : n.toNat ≤ rest.length := by omega
    simp only [read, bind_apply, get_apply, raiseIf_neg (mt guard.mp short), set_apply, pure_apply,
      held, take_append_of_le_length enough]
    rfl

theorem uniform_read (n : Int) : Uniform (Alike strict) (read n) := by
  intro first second alike
  obtain ⟨rest, window, window'⟩ := alike.window
  rw [read_eq window, read_eq window']
  by_cases short : n < 0 ∨ n > rest.length
  · rw [if_pos short, if_pos short]
    exact ⟨rfl, alike⟩
  · rw [if_neg short, if_neg short]
    refine ⟨rfl, ?_, alike.padding, alike.budget⟩
    -- Both readers go on behind the octets they took.
    have width : (rest.take n.toNat).length = n.toNat := length_take_of_le (by omega)
    rw [← take_append_drop n.toNat rest] at window window'
    exact ⟨rest.drop n.toNat, window.behind width, window'.behind width⟩

/-- Whether entries exceed the budget depends on what is left of it. -/
theorem excess_iff (entries : Nat) :
    (∃ limit ∈ reader.maxEntries, limit < (reader.entriesRead : Int) + entries) ↔
      ∃ left ∈ reader.maxEntries.map (· - (reader.entriesRead : Int)), left < (entries : Int) := by
  cases reader.maxEntries with
  | none => simp
  | some limit =>
    simp only [Option.mem_def, Option.some.injEq, exists_eq_left', Option.map_some]
    omega

theorem uniform_reserveEntries (entries : Nat) : Uniform (Alike strict) (reserveEntries entries) := by
  intro first second alike
  have same : (∃ limit ∈ first.maxEntries, limit < (first.entriesRead : Int) + entries) ↔
      ∃ limit ∈ second.maxEntries, limit < (second.entriesRead : Int) + entries := by
    rw [excess_iff, excess_iff, alike.budget]
  by_cases excess : ∃ limit ∈ first.maxEntries, limit < (first.entriesRead : Int) + entries
  · simp only [reserveEntries, bind_apply, get_apply, raiseIf_pos excess,
      raiseIf_pos (same.mp excess), throw_apply]
    exact ⟨trivial, alike⟩
  · simp only [reserveEntries, bind_apply, get_apply, raiseIf_neg excess,
      raiseIf_neg (mt same.mpr excess), pure_apply, set_apply]
    obtain ⟨rest, window, window'⟩ := alike.window
    refine ⟨trivial, ⟨rest, window.count entries, window'.count entries⟩, alike.padding, ?_⟩
    have spent (limits : Option Int) (before : Nat) :
        limits.map (· - ((before + entries : Nat) : Int)) =
          (limits.map (· - (before : Int))).map (· - (entries : Int)) := by
      rw [Option.map_map]
      congr 1
      funext limit
      simp only [Function.comp_apply]
      omega
    show first.maxEntries.map (· - ((first.entriesRead + entries : Nat) : Int)) =
      second.maxEntries.map (· - ((second.entriesRead + entries : Nat) : Int))
    rw [spent, spent, alike.budget]

/-! ### The payload grammars -/

theorem uniform_skipPadding (length : Nat) : Uniform (Alike strict) (skipPadding length) := by
  apply uniform_bind (uniform_read length)
  intro padding
  -- Of the reader itself only the padding mode is looked at.
  have common : ∀ first second, Alike strict first second →
      first.strictPadding = second.strictPadding := by
    intro first second alike
    rw [alike.padding.1, alike.padding.2]
  have check (mode : Bool) : Uniform (Alike strict)
      (raiseIf (mode = true ∧ padding.any (· ≠ 0) = true)
        ⟨"Padding must be zero", ErrorCode.protocolError.code⟩ : FrameReader Unit) :=
    composed_uniform.on_raiseIf (uniform_throw _)
  exact uniform_observe common check

/-- No method looks at more of its reader than its steps do. -/
theorem stepwise_uniform : Stepwise fun _ action => Uniform (Alike strict) action where
  toComposed := composed_uniform
  guards _ _ := composed_uniform.on_raiseIf (uniform_throw _)
  reads := uniform_read
  skips := uniform_skipPadding

/-- No payload grammar looks at anything but the octets of the payload, the padding mode and the
budget. -/
theorem uniform_parsePayloadByType (header : FrameHeader) :
    Uniform (Alike strict) (parsePayloadByType header) :=
  stepwise_uniform.on_parsePayloadByType header fun _ => uniform_reserveEntries

/-! ### One frame in two places -/

/-- The budget that a reader has left. -/
def budgetLeft (reader : HTTP2FrameReader) : Option Int :=
  reader.maxEntries.map (· - (reader.entriesRead : Int))

/-- Inside one payload two readers are alike wherever the frame stands. -/
theorem Ahead.alike (ahead : Ahead first wire) (ahead' : Ahead second wire)
    (padding : first.strictPadding = second.strictPadding)
    (budget : first.budgetLeft = second.budgetLeft) :
    Alike second.strictPadding (first.inPayload wire) (second.inPayload wire) :=
  ⟨⟨_, ahead.inPayload_window, ahead'.inPayload_window⟩, ⟨padding, rfl⟩, budget⟩

/-- The frame that comes of a payload, or of an error in one. -/
def frameOutcome (wire : Bytes) (tolerated : Prop) [Decidable tolerated] :
    Except HTTP2FrameParsingError Payload → Except HTTP2FrameParsingError ParsedFrame
  | .ok payload => .ok ⟨headerOf wire, payload, wire⟩
  | .error error =>
    if error.code ≠ ErrorCode.enhanceYourCalm.code ∧ tolerated then
      .ok ⟨headerOf wire, malformedPayload (headerOf wire) (wire.drop frameHeaderSize) error, wire⟩
    else .error error

theorem parseFrame_outcome (ahead : Ahead reader wire) :
    (parseFrame reader).1 = frameOutcome wire (Tolerates reader (headerOf wire))
      (parsePayloadByType (headerOf wire) (reader.inPayload wire)).1 := by
  rw [parseFrame_ahead ahead]
  rcases parsePayloadByType (headerOf wire) (reader.inPayload wire) with ⟨error | payload, after⟩
  · simp only [frameOutcome]
    split <;> rfl
  · rfl

/-- A frame is read the same wherever it stands. -/
theorem parseFrame_same (ahead : Ahead first wire) (ahead' : Ahead second wire)
    (padding : first.strictPadding = second.strictPadding)
    (budget : first.budgetLeft = second.budgetLeft) (forensic : first.forensic = second.forensic) :
    (parseFrame first).1 = (parseFrame second).1 := by
  have alike := ahead.alike ahead' padding budget
  obtain ⟨same, -⟩ := uniform_parsePayloadByType (headerOf wire) _ _ alike
  have tolerates : Tolerates first (headerOf wire) ↔ Tolerates second (headerOf wire) := by
    rw [Tolerates, Tolerates, forensic]
  rw [parseFrame_outcome ahead, parseFrame_outcome ahead', same]
  simp only [tolerates]

/-- A frame that is returned is the whole frame, and the reader stands behind it. -/
theorem parseFrame_returned (ahead : Ahead reader wire)
    (ran : parseFrame reader = (.ok frame, after)) :
    frame.raw = wire ∧ after.pos = reader.pos + wire.length ∧ after.payloadEnd = none ∧
      after.data = reader.data ∧ after.maxFrameSize = reader.maxFrameSize ∧
      after.forensic = reader.forensic ∧ after.strictPadding = reader.strictPadding ∧
      after.maxEntries = reader.maxEntries := by
  have window := ahead.inPayload_window
  have whole := ahead.framed.2
  have kept := kept_parsePayloadByType (headerOf wire) (reader.inPayload wire)
  -- Compared with itself the reader is seen to keep its padding mode.
  have alike := ahead.alike ahead rfl rfl
  obtain ⟨-, reached⟩ := uniform_parsePayloadByType (headerOf wire) _ _ alike
  rw [parseFrame_ahead ahead] at ran
  rcases outcome : parsePayloadByType (headerOf wire) (reader.inPayload wire) with
    ⟨error | payload, behind⟩ <;> rw [outcome] at ran kept reached
  · by_cases tolerated : error.code ≠ ErrorCode.enhanceYourCalm.code ∧
        Tolerates reader (headerOf wire)
    · simp only [if_pos tolerated, Prod.mk.injEq, Except.ok.injEq] at ran
      obtain ⟨rfl, rfl⟩ := ran
      refine ⟨rfl, ?_, rfl, kept.data, kept.maxFrameSize, kept.forensic, reached.padding.1,
        kept.maxEntries⟩
      show reader.pos + frameHeaderSize + (headerOf wire).length = reader.pos + wire.length
      omega
    · simp only [if_neg tolerated, Prod.mk.injEq, reduceCtorEq, false_and] at ran
  · simp only [Prod.mk.injEq, Except.ok.injEq] at ran
    obtain ⟨rfl, rfl⟩ := ran
    refine ⟨rfl, ?_, rfl, kept.data, kept.maxFrameSize, kept.forensic, reached.padding.1,
      kept.maxEntries⟩
    -- The end of the payload never moved, and nothing is left before it.
    have finished :=
      (parsePayloadByType_sound window (length_payload ahead.framed) outcome).1.finished.bound
    rw [kept.payloadEnd, kept.data, length_nil] at finished
    have stop : (reader.inPayload wire).payloadEnd.getD (reader.inPayload wire).data.length =
      reader.pos + frameHeaderSize + (headerOf wire).length := rfl
    show behind.pos = reader.pos + wire.length
    omega

/-! ### Frames one after the other -/

/-- Parse one frame after the other. -/
def parseFrames : Nat → FrameReader (List ParsedFrame)
  | 0 => return []
  | count + 1 => do
    let frame ← parseFrame
    let frames ← parseFrames count
    return frame :: frames

/-- A reader between two frames, with a run of complete ones of an admissible size ahead. -/
structure AllAhead (reader : HTTP2FrameReader) (wires : List Bytes) : Prop where
  idle : reader.payloadEnd = none
  holds : ∃ after, reader.data.drop reader.pos = wires.flatten ++ after
  framed : ∀ wire ∈ wires, IsWireFrame wire ∧ (headerOf wire).length ≤ reader.maxFrameSize

theorem AllAhead.head (ahead : AllAhead reader (wire :: wires)) :
    Ahead reader wire := by
  obtain ⟨after, held⟩ := ahead.holds
  obtain ⟨framed, fits⟩ := ahead.framed wire (mem_cons_self ..)
  rw [flatten_cons, append_assoc] at held
  exact ⟨ahead.idle, ⟨_, held⟩, framed, fits⟩

theorem AllAhead.rest (ahead : AllAhead reader (wire :: wires))
    (ran : parseFrame reader = (.ok frame, after)) :
    AllAhead after wires := by
  obtain ⟨-, place, idle, data, size, -⟩ := parseFrame_returned ahead.head ran
  obtain ⟨behind, held⟩ := ahead.holds
  refine ⟨idle, ⟨behind, ?_⟩, ?_⟩
  · rw [data, place, ← drop_drop, held, flatten_cons, append_assoc, drop_left]
  · intro wire member
    rw [size]
    exact ahead.framed wire (mem_cons_of_mem _ member)

/-- What is returned for a run of frames is what is returned for each of them alone. -/
theorem parseFrames_returned {frames : List ParsedFrame} {maximum : Nat}
    (ahead : AllAhead reader wires) (most : reader.maxFrameSize ≤ maximum)
    (ran : parseFrames wires.length reader = (.ok frames, after)) :
    after.pos = reader.pos + wires.flatten.length ∧
      List.Forall₂ (fun wire frame => frame.raw = wire ∧
        ∃ left, (reader.maxEntries = none → left = none) ∧
          (parseFrame (create wire maximum reader.strictPadding reader.forensic left)).1 = .ok frame)
        wires frames := by
  -- The induction is on the frames; the reader behind the first one has the others ahead.
  induction wires generalizing reader frames with
  | nil =>
    obtain ⟨rfl, rfl⟩ := pure_eq_ok.mp ran
    exact ⟨rfl, .nil⟩
  | cons wire wires ih =>
    rw [length_cons, parseFrames, bind_eq_ok] at ran
    obtain ⟨frame, reached, ranFirst, ran⟩ := ran
    rw [bind_eq_ok] at ran
    obtain ⟨others, last, ranRest, returned⟩ := ran
    obtain ⟨rfl, rfl⟩ := pure_eq_ok.mp returned
    obtain ⟨raw, place, -, -, size, forensic, strict, budget⟩ :=
      parseFrame_returned ahead.head ranFirst
    obtain ⟨end_, alone⟩ := ih (ahead.rest ranFirst) (size.trans_le most) ranRest
    rw [forensic, strict, budget] at alone
    refine ⟨?_, .cons ⟨raw, reader.budgetLeft, ?_, ?_⟩ alone⟩
    · rw [end_, place, flatten_cons, length_append, Nat.add_assoc]
    · intro unlimited
      rw [budgetLeft, unlimited, Option.map_none]
    · obtain ⟨framed, fits⟩ := ahead.framed wire (mem_cons_self ..)
      have alone : Ahead (create wire maximum reader.strictPadding reader.forensic
          reader.budgetLeft) wire :=
        ahead_alone framed (fits.trans most) _ _ _
      have left : (create wire maximum reader.strictPadding reader.forensic
          reader.budgetLeft).budgetLeft = reader.budgetLeft := by
        show reader.budgetLeft.map (· - ((0 : Nat) : Int)) = reader.budgetLeft
        simp
      rw [← parseFrame_same ahead.head alone rfl left.symm rfl, ranFirst]

/-- Without a budget forensic capture always returns a frame. -/
theorem parseFrame_unlimited (ahead : Ahead reader wire) (forensic : reader.forensic = true)
    (unlimited : reader.maxEntries = none) :
    ∃ frame after, parseFrame reader = (.ok frame, after) := by
  rw [parseFrame_ahead ahead]
  rcases outcome : parsePayloadByType (headerOf wire) (reader.inPayload wire) with
    ⟨error | payload, behind⟩
  · obtain ⟨kept, fault⟩ :=
      (counting_parsePayloadByType (headerOf wire) (reader.inPayload wire)).raised outcome
    have calm := fault.calm (kept.maxEntries.trans unlimited)
    exact ⟨_, _, if_pos ⟨calm.1, .inl forensic⟩⟩
  · exact ⟨_, _, rfl⟩

/-- Without a budget forensic capture returns every frame of a run. -/
theorem parseFrames_unlimited (ahead : AllAhead reader wires) (forensic : reader.forensic = true)
    (unlimited : reader.maxEntries = none) :
    ∃ frames after, parseFrames wires.length reader = (.ok frames, after) := by
  induction wires generalizing reader with
  | nil => exact ⟨[], reader, rfl⟩
  | cons wire wires ih =>
    obtain ⟨frame, reached, ranFirst⟩ := parseFrame_unlimited ahead.head forensic unlimited
    obtain ⟨-, -, -, -, -, kept, -, budget⟩ := parseFrame_returned ahead.head ranFirst
    obtain ⟨frames, after, ranRest⟩ :=
      ih (ahead.rest ranFirst) (kept.trans forensic) (budget.trans unlimited)
    refine ⟨frame :: frames, after, ?_⟩
    rw [length_cons, parseFrames, bind_apply, ranFirst]
    show (parseFrames wires.length >>= fun frames => pure (frame :: frames)) reached = _
    rw [bind_apply, ranRest]
    rfl

/-! ### Forensic capture -/

/-- Forensic capture returns what the plain reader returns, keeps what it raises as bytes, and
raises only when the budget is spent, as the plain reader does. -/
theorem parseFrame_forensic (ahead : Ahead first wire) (ahead' : Ahead second wire)
    (padding : first.strictPadding = second.strictPadding)
    (budget : first.budgetLeft = second.budgetLeft) (forensic : second.forensic = true) :
    (∀ frame, (parseFrame first).1 = .ok frame → (parseFrame second).1 = .ok frame) ∧
    (∀ error, (parseFrame first).1 = .error error →
      error.code ≠ ErrorCode.enhanceYourCalm.code →
      (parseFrame second).1 = .ok ⟨headerOf wire,
        malformedPayload (headerOf wire) (wire.drop frameHeaderSize) error, wire⟩) ∧
    (∀ error, error.code = ErrorCode.enhanceYourCalm.code →
      ((parseFrame first).1 = .error error ↔ (parseFrame second).1 = .error error)) := by
  have alike := ahead.alike ahead' padding budget
  obtain ⟨same, -⟩ := uniform_parsePayloadByType (headerOf wire) _ _ alike
  have tolerates : Tolerates second (headerOf wire) := .inl forensic
  rw [parseFrame_outcome ahead, parseFrame_outcome ahead', same]
  rcases (parsePayloadByType (headerOf wire) (second.inPayload wire)).1 with error | payload
  · have kept : ∀ {tolerated : Prop} [Decidable tolerated], tolerated →
        error.code ≠ ErrorCode.enhanceYourCalm.code → frameOutcome wire tolerated (.error error) =
          .ok ⟨headerOf wire, malformedPayload (headerOf wire) (wire.drop frameHeaderSize) error,
            wire⟩ := by
      intro tolerated _ holds calm
      simp [frameOutcome, calm, holds]
    by_cases calm : error.code = ErrorCode.enhanceYourCalm.code
    · -- Both readers raise what the budget raises.
      have raised : ∀ (tolerated : Prop) [Decidable tolerated],
          frameOutcome wire tolerated (.error error) = .error error := by
        intro tolerated _
        simp [frameOutcome, calm]
      rw [raised, raised]
      refine ⟨fun frame returned => (by cases returned), ?_, fun _ _ => Iff.rfl⟩
      intro other equal code
      cases equal
      exact absurd calm code
    · rw [kept tolerates calm]
      by_cases tolerated : Tolerates first (headerOf wire)
      · -- ALTSVC and ORIGIN frames are kept by both.
        rw [kept tolerated calm]
        exact ⟨fun _ returned => returned, fun _ equal => (by cases equal), fun _ _ => Iff.rfl⟩
      · have raised : frameOutcome wire (Tolerates first (headerOf wire)) (.error error) =
            .error error := by
          simp [frameOutcome, tolerated]
        rw [raised]
        refine ⟨fun _ returned => (by cases returned), ?_, ?_⟩
        · intro other equal _
          cases equal
          rfl
        · intro other code
          constructor
          · intro equal
            cases equal
            exact absurd code calm
          · intro equal
            cases equal
  · exact ⟨fun _ returned => returned, fun _ equal => (by cases equal), fun _ _ => Iff.rfl⟩

/-- A frame is read as if nothing followed it, the reader ends behind it, frames one after the
other are read as they are alone, and forensic capture differs from the plain reader only in
keeping what that raises. -/
theorem parseFrame_local (suffix : Bytes) (maximum : Nat) (strict : Bool) (budget : Option Int) :
    (∀ wire, IsWireFrame wire → (headerOf wire).length ≤ maximum →
      (∀ forensic,
        (parseFrame (create (wire ++ suffix) maximum strict forensic budget)).1 =
          (parseFrame (create wire maximum strict forensic budget)).1) ∧
      (∀ forensic frame after,
        parseFrame (create (wire ++ suffix) maximum strict forensic budget) = (.ok frame, after) →
        frame.raw = wire ∧ after.pos = wire.length) ∧
      (∀ frame, (parseFrame (create wire maximum strict false budget)).1 = .ok frame →
        (parseFrame (create wire maximum strict true budget)).1 = .ok frame) ∧
      (∀ error, (parseFrame (create wire maximum strict false budget)).1 = .error error →
        error.code ≠ ErrorCode.enhanceYourCalm.code →
        ∃ frame, (parseFrame (create wire maximum strict true budget)).1 = .ok frame ∧
          frame.payload = .unknown {
            unknownType := (headerOf wire).type
            rawPayload := wire.drop frameHeaderSize
            parseError := some error.message
            errorCode := some error.code }) ∧
      (∀ error, error.code = ErrorCode.enhanceYourCalm.code →
        ((parseFrame (create wire maximum strict false budget)).1 = .error error ↔
          (parseFrame (create wire maximum strict true budget)).1 = .error error))) ∧
    (∀ wires : List Bytes,
      (∀ wire ∈ wires, IsWireFrame wire ∧ (headerOf wire).length ≤ maximum) →
      (∀ forensic frames after,
        parseFrames wires.length (create (wires.flatten ++ suffix) maximum strict forensic budget) =
          (.ok frames, after) →
        after.pos = wires.flatten.length ∧
          List.Forall₂ (fun wire frame => frame.raw = wire ∧
            ∃ left, (budget = none → left = none) ∧
              (parseFrame (create wire maximum strict forensic left)).1 = .ok frame) wires frames) ∧
      (budget = none → ∃ frames after,
        parseFrames wires.length (create (wires.flatten ++ suffix) maximum strict true budget) =
          (.ok frames, after))) := by
  refine ⟨?_, ?_⟩
  · intro wire framed fits
    have inFront (forensic : Bool) :
        Ahead (create (wire ++ suffix) maximum strict forensic budget) wire :=
      ahead_create framed fits strict forensic budget
    have alone (forensic : Bool) : Ahead (create wire maximum strict forensic budget) wire :=
      ahead_alone framed fits strict forensic budget
    obtain ⟨returned, kept, calm⟩ := parseFrame_forensic (alone false) (alone true) rfl rfl rfl
    refine ⟨?_, ?_, returned, ?_, calm⟩
    · intro forensic
      exact parseFrame_same (inFront forensic) (alone forensic) rfl rfl rfl
    · intro forensic frame after ran
      obtain ⟨raw, place, -⟩ := parseFrame_returned (inFront forensic) ran
      refine ⟨raw, ?_⟩
      rw [place]
      exact Nat.zero_add _
    · intro error raised code
      exact ⟨_, kept error raised code, rfl⟩
  · intro wires framed
    have ahead (forensic : Bool) :
        AllAhead (create (wires.flatten ++ suffix) maximum strict forensic budget) wires := by
      refine ⟨rfl, ⟨suffix, rfl⟩, ?_⟩
      intro wire member
      obtain ⟨frame, fits⟩ := framed wire member
      exact ⟨frame, le_min fits (headerOf_length_le wire)⟩
    refine ⟨?_, ?_⟩
    · intro forensic frames after ran
      obtain ⟨place, frames⟩ := parseFrames_returned (ahead forensic) (Nat.min_le_left ..) ran
      refine ⟨?_, frames⟩
      rw [place]
      exact Nat.zero_add _
    · intro unlimited
      exact parseFrames_unlimited (ahead true) rfl unlimited

/-- An octet behind a HEADERS frame makes no difference. -/
theorem parseFrame_local_paddedHeaders :
    (parseFrame (create (paddedHeaders ++ [0xFF]) 65536 false true none)).1 =
      (parseFrame (create paddedHeaders 65536 false true none)).1 :=
  ((parseFrame_local [0xFF] 65536 false none).1 paddedHeaders (by decide) (by decide)).1 true

end SolveTls.HTTP2FrameReader
