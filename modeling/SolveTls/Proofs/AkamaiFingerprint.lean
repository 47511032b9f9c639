import SolveTls.Fingerprints
import SolveTls.Proofs.Http.Lists
import SolveTls.Proofs.Http2.FrameLocality
import SolveTls.Proofs.Tls.Ja3

/-! The HTTP/2 fingerprint tells what a connection opened with, and nothing else. -/

namespace SolveTls

open Octets Fallible HTTP2FrameReader List Search

variable {header : FrameHeader} {capture : HTTP2Capture}

/-! ## What a connection opens with -/

/-- The octets of a frame behind its header. -/
def ParsedFrame.body (frame : ParsedFrame) : Bytes := frame.raw.drop frameHeaderSize

/-- A frame whose octets have a meaning. -/
def ParsedFrame.Meaningful (frame : ParsedFrame) : Prop := WellFormed frame.header frame.body

/-- The frames before the first HEADERS frame. -/
def openingFrames (frames : List ParsedFrame) : List ParsedFrame :=
  frames.takeWhile fun frame => frame.header.kind ≠ some .headers

/-- A well-formed WINDOW_UPDATE of the whole connection. -/
def ParsedFrame.WidensConnection (frame : ParsedFrame) : Prop :=
  frame.Meaningful ∧ frame.header.kind = some .windowUpdate ∧ frame.header.streamId = 0

/-- A well-formed PRIORITY frame. -/
def ParsedFrame.Prioritizes (frame : ParsedFrame) : Prop :=
  frame.Meaningful ∧ frame.header.kind = some .priority

open Classical in
/-- The increment of the whole connection's window, read off the octets of its frame. -/
noncomputable def connectionIncrement (frame : ParsedFrame) : Option Nat :=
  if frame.WidensConnection then some (bigEndian frame.body % 2 ^ 31) else none

open Classical in
/-- The stream of a PRIORITY frame, with the exclusive flag, dependency and weight of its octets. -/
noncomputable def announcedPriority (frame : ParsedFrame) : Option (Nat × PriorityInfo) :=
  if frame.Prioritizes then
    some (frame.header.streamId, priorityOf (frame.body.take 4) (frame.body.getD 4 0))
  else none

/-- The first letter of a pseudo-header's name. -/
def pseudoLetter (field : Field) : Option Char :=
  match asText field.1 with
  | ':' :: letter :: _ => some letter
  | _ => none

/-- What a client shows of itself up to its first request. -/
@[ext] structure Opening where
  settings : List (Nat × Nat)
  windowUpdate : Option Nat
  priorities : List (Nat × PriorityInfo)
  pseudoLetters : List Char

/-- The opening that a capture holds. -/
noncomputable def HTTP2Capture.opening (capture : HTTP2Capture) : Opening where
  settings := capture.initialSettings.getD []
  -- Only the first connection window update counts, but every priority does.
  windowUpdate := (openingFrames capture.frames).findSome? connectionIncrement
  priorities := (openingFrames capture.frames).filterMap announcedPriority
  pseudoLetters := (capture.headers.getD []).filterMap pseudoLetter

/-- An ASCII letter, or any character behind ASCII. -/
def IsLetter (char : Char) : Prop := char.isAlpha = true ∨ 128 ≤ char.toNat

/-- A frame that a reader between two frames returned. -/
def ParsedFrame.FromWire (frame : ParsedFrame) : Prop :=
  ∃ reader after : HTTP2FrameReader, reader.payloadEnd = none ∧
    parseFrame reader = (.ok frame, after)

/-- A capture with frames off the wire, whose pseudo-headers are a colon and a letter. -/
structure HTTP2Capture.Legible (capture : HTTP2Capture) : Prop where
  nonempty : capture.frames ≠ []
  parsed : ∀ frame ∈ capture.frames, frame.FromWire
  named : ∀ field ∈ capture.headers.getD [], ∀ rest, asText field.1 = ':' :: rest →
    ∃ letter more, rest = letter :: more ∧ IsLetter letter

/-! ## Frames off the wire -/

/-- A reader that returns a header has a complete frame of an admissible size ahead. -/
theorem ahead_of_parseHeader {reader middle : HTTP2FrameReader} (idle : reader.payloadEnd = none)
    (ran : parseHeader reader = (.ok header, middle)) :
    ∃ wire, Ahead reader wire := by
  simp only [parseHeader, readUint24, bind_eq_ok, get_eq_ok, raiseIf_eq_ok, pure_eq_ok] at ran
  obtain ⟨_, _, ⟨rfl, rfl⟩, _, _, ⟨long, rfl⟩, _, _, ⟨length, _, tookLength, rfl, rfl⟩, type, _,
    tookType, flags, _, tookFlags, stream, _, tookStream, _, _, ⟨rfl, rfl⟩, _, _, ⟨fits, rfl⟩, _, _,
    ⟨whole, rfl⟩, rfl, rfl⟩ := ran
  simp only [frameHeaderSize] at long
  -- Everything up to the end of the buffer can be read, and each field moves the reader on.
  have window : Window reader (reader.data.drop reader.pos) := by
    refine ⟨?_, [], by rw [append_nil]⟩
    rw [idle, Option.getD_none, length_drop]
    omega
  obtain ⟨left, split, width, rfl, window⟩ := read_ok window tookLength
  obtain ⟨_, _, rfl, rfl, rfl, window⟩ := readUint8_ok window tookType
  obtain ⟨_, _, rfl, rfl, rfl, window⟩ := readUint8_ok window tookFlags
  simp only [readUint32WithReserved, bind_eq_ok, pure_eq_ok] at tookStream
  obtain ⟨raw, _, tookRaw, rfl, rfl⟩ := tookStream
  obtain ⟨_, _, rfl, streamWidth, rfl, rfl, window⟩ := readUint32_ok window tookRaw
  have taken : (reader.data.drop reader.pos).take 3 = length := by
    rw [split, take_append_of_le_length (by omega), take_of_length_le (by omega)]
  have room : reader.pos + (9 + bigEndian length) ≤ reader.data.length := by
    simp only [skip] at whole
    omega
  -- The frame is what the length field covers.
  refine ⟨(reader.data.drop reader.pos).take (9 + bigEndian length), idle,
    ⟨(reader.data.drop reader.pos).drop (9 + bigEndian length), (take_append_drop _ _).symm⟩, ?_,
    ?_⟩
  · have field : (headerOf ((reader.data.drop reader.pos).take (9 + bigEndian length))).length =
        bigEndian length := by
      show bigEndian (((reader.data.drop reader.pos).take (9 + bigEndian length)).take 3) = _
      rw [take_take, Nat.min_eq_left (by omega), taken]
    rw [IsWireFrame, field, length_take, length_drop, frameHeaderSize]
    omega
  · show bigEndian (((reader.data.drop reader.pos).take (9 + bigEndian length)).take 3) ≤ _
    rw [take_take, Nat.min_eq_left (by omega), taken]
    exact Nat.le_of_not_lt fits

/-- A frame off the wire is one complete frame with the header of its own octets. -/
theorem ParsedFrame.FromWire.ahead {frame : ParsedFrame} (parsed : frame.FromWire) :
    ∃ reader : HTTP2FrameReader, Ahead reader frame.raw ∧ (parseFrame reader).1 = .ok frame := by
  obtain ⟨reader, after, idle, ran⟩ := parsed
  have opened := ran
  simp only [parseFrame, bind_eq_ok, get_eq_ok] at opened
  obtain ⟨_, _, ⟨rfl, rfl⟩, header, middle, headed, -⟩ := opened
  obtain ⟨wire, ahead⟩ := ahead_of_parseHeader idle headed
  obtain ⟨rfl, -⟩ := parseFrame_returned ahead ran
  refine ⟨reader, ahead, ?_⟩
  rw [ran]

/-- Window updates and priorities are read in every mode if they have a meaning. -/
theorem parsePayloadByType_opening {body : Bytes} {reader : HTTP2FrameReader}
    (window : Window reader body) (size : body.length = header.length)
    (kind : header.kind = some .windowUpdate ∨ header.kind = some .priority)
    (good : WellFormed header body) :
    ∃ payload reached, parsePayloadByType header reader = (.ok payload, reached) := by
  unfold parsePayloadByType
  rcases kind with kind | kind
  · obtain ⟨payload, reached, ran⟩ := parseWindowUpdate_complete window size kind good
    simp only [kind, map_eq_bind, bind_apply, ran, pure_apply]
    exact ⟨_, _, rfl⟩
  · obtain ⟨payload, reached, ran⟩ := parsePriority_complete window size kind good
    simp only [kind, map_eq_bind, bind_apply, ran, pure_apply]
    exact ⟨_, _, rfl⟩

/-- A frame off the wire is decoded as the format says, or kept as octets for want of a meaning. -/
theorem ParsedFrame.FromWire.cases {frame : ParsedFrame} (parsed : frame.FromWire) :
    (frame.Meaningful ∧ Encodes frame.header frame.body frame.payload) ∨
      ((∃ unknown, frame.payload = .unknown unknown) ∧
        (frame.header.kind = some .windowUpdate ∨ frame.header.kind = some .priority →
          ¬ frame.Meaningful)) := by
  obtain ⟨reader, ahead, returned⟩ := parsed.ahead
  rw [parseFrame_outcome ahead] at returned
  rcases ran : parsePayloadByType (headerOf frame.raw) (reader.inPayload frame.raw) with
    ⟨error | payload, after⟩ <;> rw [ran, frameOutcome] at returned
  · right
    by_cases tolerated : error.code ≠ ErrorCode.enhanceYourCalm.code ∧
        Tolerates reader (headerOf frame.raw)
    · rw [if_pos tolerated] at returned
      have same := Except.ok.inj returned
      refine ⟨?_, ?_⟩
      · rw [← same]
        exact ⟨_, rfl⟩
      · -- A payload with a meaning would have been read.
        intro kind good
        have header : frame.header = headerOf frame.raw := by rw [← same]
        rw [ParsedFrame.Meaningful, header] at good
        rw [header] at kind
        obtain ⟨payload, reached, read⟩ :=
          parsePayloadByType_opening ahead.inPayload_window (length_payload ahead.framed) kind good
        cases ran.symm.trans read
    · rw [if_neg tolerated] at returned
      cases returned
  · left
    have read := (parsePayloadByType_sound ahead.inPayload_window (length_payload ahead.framed) ran).1
    have same := Except.ok.inj returned
    have header : frame.header = headerOf frame.raw := by rw [← same]
    have payload : frame.payload = payload := by rw [← same]
    rw [ParsedFrame.Meaningful, header, payload]
    exact ⟨read.wellFormed, read.encodes⟩

/-! ## The loop over the frames -/

variable {frame : ParsedFrame} {frames : List ParsedFrame} {windowUpdate : Text} {seen : Bool}
  {priorities : List Text}

/-- How the loop writes a priority down. -/
def priorityText (priority : Nat × PriorityInfo) : Text :=
  decimalText priority.1 ++ [':'] ++ decimalText priority.2.exclusive.toNat ++ [':'] ++
    decimalText priority.2.dependency ++ [':'] ++ decimalText priority.2.weight

/-- The text of the connection window behind a frame. -/
noncomputable def nextWindow (frame : ParsedFrame) (windowUpdate : Text) (seen : Bool) : Text :=
  if seen then windowUpdate else (connectionIncrement frame).elim windowUpdate decimalText

/-- A frame that neither widens the connection nor prioritizes adds nothing. -/
theorem adds_nothing (narrow : ¬ frame.WidensConnection) (unprioritized : ¬ frame.Prioritizes) :
    nextWindow frame windowUpdate seen = windowUpdate ∧
      (seen || (connectionIncrement frame).isSome) = seen ∧
      priorities ++ ((announcedPriority frame).map priorityText).toList = priorities := by
  have increment : connectionIncrement frame = none := if_neg narrow
  have priority : announcedPriority frame = none := if_neg unprioritized
  simp [nextWindow, increment, priority]

/-- A frame of another type adds nothing. -/
theorem adds_nothing_of_kind {kind : Option FrameType} (held : frame.header.kind = kind)
    (narrow : kind ≠ some .windowUpdate) (unprioritized : kind ≠ some .priority) :
    nextWindow frame windowUpdate seen = windowUpdate ∧
      (seen || (connectionIncrement frame).isSome) = seen ∧
      priorities ++ ((announcedPriority frame).map priorityText).toList = priorities := by
  apply adds_nothing
  · intro widens
    exact narrow (held.symm.trans widens.2.1)
  · intro prioritizes
    exact unprioritized (held.symm.trans prioritizes.2)

/-- Before the request, the loop takes from a frame what the frame says by the format. -/
theorem akamaiLoop_cons (parsed : frame.FromWire) (early : frame.header.kind ≠ some .headers) :
    akamaiLoop (frame :: frames) windowUpdate seen priorities =
      akamaiLoop frames (nextWindow frame windowUpdate seen)
        (seen || (connectionIncrement frame).isSome)
        (priorities ++ ((announcedPriority frame).map priorityText).toList) := by
  rw [akamaiLoop, if_neg early]
  rcases parsed.cases with ⟨good, encodes⟩ | ⟨⟨unknown, held⟩, bad⟩
  · -- The payload is the one that the type stands for.
    generalize payloadHeld : frame.payload = payload at encodes ⊢
    generalize bodyHeld : frame.body = body at encodes
    cases encodes with
    | windowUpdate kind =>
      have unprioritized : announcedPriority frame = none := by
        apply if_neg
        intro prioritizes
        cases kind.symm.trans prioritizes.2
      by_cases stream : frame.header.streamId = 0
      · -- Only the first increment of the whole connection is kept.
        have increment : connectionIncrement frame = some (bigEndian body % 2 ^ 31) := by
          rw [← bodyHeld]
          exact if_pos ⟨good, kind, stream⟩
        cases seen with
        | false => simp [nextWindow, increment, unprioritized, kind, stream]
        | true => simp [nextWindow, increment, unprioritized, kind, stream]
      · -- A stream's window is none of the connection's.
        have increment : connectionIncrement frame = none := by
          apply if_neg
          intro widens
          exact stream widens.2.2
        simp [nextWindow, increment, unprioritized, kind, stream]
    | @priority dependency weight kind width =>
      have narrow : connectionIncrement frame = none := by
        apply if_neg
        intro widens
        cases kind.symm.trans widens.2.1
      have priority : announcedPriority frame =
          some (frame.header.streamId, priorityOf dependency weight) := by
        have octets : frame.body.take 4 = dependency ∧ frame.body.getD 4 0 = weight := by
          rw [bodyHeld, ← width]
          simp
        rw [announcedPriority, if_pos ⟨good, kind⟩, octets.1, octets.2]
      simp [nextWindow, narrow, priority, kind, priorityText]
    | headers kind => exact absurd kind early
    | prioritizedHeaders kind => exact absurd kind early
    | data kind | rstStream kind | settingsAck kind | settings kind | pushPromise kind | ping kind
    | goaway kind | continuation kind | altsvc kind | origin kind | priorityUpdate kind
    | unknown kind =>
      obtain ⟨window, same, more⟩ := adds_nothing_of_kind kind (by simp) (by simp)
      rw [window, same, more]
  · -- What was kept as octets has no meaning.
    obtain ⟨window, same, more⟩ := adds_nothing
      (fun widens => bad (.inl widens.2.1) widens.1)
      (fun prioritizes => bad (.inr prioritizes.2) prioritizes.1)
    rw [held, window, same, more]

/-- The loop collects what the frames before the request say by the format. -/
theorem akamaiLoop_eq (parsed : ∀ frame ∈ frames, frame.FromWire) :
    akamaiLoop frames windowUpdate seen priorities =
      (if seen then windowUpdate else
        ((openingFrames frames).findSome? connectionIncrement).elim windowUpdate decimalText,
      priorities ++ ((openingFrames frames).filterMap announcedPriority).map priorityText) := by
  -- The induction is on the frames, with everything collected so far arbitrary.
  induction frames generalizing windowUpdate seen priorities with
  | nil => simp [akamaiLoop, openingFrames]
  | cons frame rest ih =>
    by_cases request : frame.header.kind = some .headers
    · -- The loop ends at the request.
      simp [akamaiLoop, openingFrames, request]
    · have kept : openingFrames (frame :: rest) = frame :: openingFrames rest := by
        simp [openingFrames, request]
      rw [akamaiLoop_cons (parsed frame (mem_cons_self ..)) request,
        ih fun later among => parsed later (mem_cons_of_mem _ among), kept,
        List.findSome?_cons, filterMap_cons]
      cases increment : connectionIncrement frame <;> cases announcedPriority frame <;>
        cases seen <;> simp [nextWindow, increment]

/-! ## The four parts of the text -/

/-- Numbers with colons between them. -/
def colonText (values : List Nat) : Text := join [':'] (values.map decimalText)

theorem colonText_inj {values others : List Nat} : colonText values = colonText others ↔ values = others :=
  join_decimalText_inj (by decide)

/-- The four numbers of a priority. -/
def priorityNumbers (priority : Nat × PriorityInfo) : List Nat :=
  [priority.1, priority.2.exclusive.toNat, priority.2.dependency, priority.2.weight]

theorem priorityText_eq (priority : Nat × PriorityInfo) :
    priorityText priority = colonText (priorityNumbers priority) := by
  simp [priorityText, colonText, priorityNumbers, join]

/-- A priority is told by its four numbers. -/
theorem priorityText_injective : Function.Injective priorityText := by
  intro ⟨stream, exclusive, dependency, weight⟩ ⟨stream', exclusive', dependency', weight'⟩ same
  rw [priorityText_eq, priorityText_eq, colonText_inj] at same
  simp only [priorityNumbers, List.cons.injEq, and_true] at same
  obtain ⟨rfl, flag, rfl, rfl⟩ := same
  have exclusive : exclusive = exclusive' := by
    cases exclusive <;> cases exclusive' <;> simp_all
  rw [exclusive]

/-- The text of one SETTINGS entry. -/
def settingText (entry : Nat × Nat) : Text := colonText [entry.1, entry.2]

/-- An entry is told by its two numbers. -/
theorem settingText_injective : Function.Injective settingText := by
  intro ⟨settingId, value⟩ ⟨settingId', value'⟩ same
  rw [settingText, settingText, colonText_inj] at same
  simp only [List.cons.injEq, and_true] at same
  rw [same.1, same.2]

/-- Texts with a colon in them can be told from their joined text. -/
theorem join_colonText_inj {α : Type} {separator : Char} {text : α → Text} {numbers : α → List Nat}
    (outside : separator ∉ ':' :: Digits.alphabet) (filled : ∀ item, numbers item ≠ [])
    (written : ∀ item, text item = colonText (numbers item)) (injective : Function.Injective text)
    {items others : List α} :
    join [separator] (items.map text) = join [separator] (others.map text) ↔
      items = others := by
  have separated : ∀ part ∈ items.map text ++ others.map text, part ≠ [] ∧ separator ∉ part := by
    intro part member
    rw [← map_append] at member
    obtain ⟨item, -, rfl⟩ := mem_map.mp member
    rw [written item]
    refine ⟨?_, notMem_join_decimalText (by simp_all) (by simp_all) _⟩
    rw [colonText, Ne, join_eq_nil]
    · simpa using filled item
    · intro digits among
      obtain ⟨value, -, rfl⟩ := mem_map.mp among
      exact (decimalText_spec value).1
  rw [join_inj_of_filled separated]
  exact (map_injective_iff.mpr injective).eq_iff

/-- The parts of the fingerprint that an opening stands for. -/
def Opening.parts (opening : Opening) : List Text := [
  join [';'] (opening.settings.map settingText),
  opening.windowUpdate.elim "00".toList decimalText,
  if opening.priorities = [] then ['0'] else join [','] (opening.priorities.map priorityText),
  join [','] (opening.pseudoLetters.map fun letter => [letter])]

/-- The fingerprint says nothing but the opening. -/
theorem akamaiFingerprint_eq (legible : capture.Legible) :
    akamaiFingerprint capture = join ['|'] capture.opening.parts := by
  have settings : (fun entry : Nat × Nat => decimalText entry.1 ++ [':'] ++ decimalText entry.2) =
      settingText := by
    funext entry
    simp [settingText, colonText, join]
  have letters (headers : List Field) :
      pseudoHeaders headers = (headers.filterMap pseudoLetter).map fun letter => [letter] := by
    rw [pseudoHeaders, map_filterMap]
    congr 1
    funext field
    simp only [pseudoLetter]
    split <;> simp_all
  simp only [akamaiFingerprint, akamaiLoop_eq legible.parsed, intercalate_eq_join, Opening.parts,
    HTTP2Capture.opening, settings, letters, nil_append, map_eq_nil_iff, Bool.false_eq_true,
    if_false]
  congr

/-- Letters that stand between commas and behind a bar. -/
def Opening.Lettered (opening : Opening) : Prop :=
  ∀ letter ∈ opening.pseudoLetters, letter ≠ ',' ∧ letter ≠ '|'

/-- Neither separator is a letter. -/
theorem HTTP2Capture.Legible.lettered (legible : capture.Legible) :
    capture.opening.Lettered := by
  intro letter among
  obtain ⟨field, listed, read⟩ := mem_filterMap.mp among
  simp only [pseudoLetter] at read
  split at read
  · next first rest named =>
    obtain ⟨_, _, same, isLetter⟩ := legible.named field listed _ named
    cases same
    cases read
    constructor
    · rintro rfl
      exact absurd isLetter (by unfold IsLetter; decide)
    · rintro rfl
      exact absurd isLetter (by unfold IsLetter; decide)
  · cases read

/-- No part of the fingerprint has a bar. -/
theorem Opening.bar_notMem_parts {opening : Opening} (lettered : opening.Lettered) :
    ∀ part ∈ opening.parts, '|' ∉ part := by
  -- Joined numbers have digits, colons and the separator of their list.
  have numbers {α : Type} {separator : Char} (between : '|' ∉ [separator]) {text : α → Text}
      {numbers : α → List Nat} (written : ∀ item, text item = colonText (numbers item))
      (items : List α) : '|' ∉ join [separator] (items.map text) := by
    apply not_mem_join between
    intro part member
    obtain ⟨item, -, rfl⟩ := mem_map.mp member
    rw [written item]
    exact notMem_join_decimalText (by decide) (by decide) _
  intro part member
  simp only [Opening.parts, mem_cons, not_mem_nil, or_false] at member
  rcases member with rfl | rfl | rfl | rfl
  · exact numbers (by decide) (fun _ => rfl) _
  · cases opening.windowUpdate with
    | none => decide
    | some increment =>
      intro bar
      exact absurd ((decimalText_spec increment).2 '|' bar) (by decide)
  · by_cases none : opening.priorities = []
    · rw [if_pos none]
      decide
    · rw [if_neg none]
      exact numbers (by decide) priorityText_eq _
  · apply not_mem_join (by decide)
    intro text among
    obtain ⟨letter, listed, rfl⟩ := mem_map.mp among
    simpa [eq_comm] using (lettered letter listed).2

/-- The placeholder for no increment is not how a number is written. -/
theorem windowText_injective :
    Function.Injective fun increment : Option Nat => increment.elim "00".toList decimalText := by
  have placeholder (value : Nat) : decimalText value ≠ "00".toList := by
    intro same
    -- Its digits would denote zero, which is written with one of them.
    have zero : value = 0 := by
      rw [← value_decimalText value, same]
      decide
    rw [zero] at same
    exact absurd same (by decide)
  intro first second same
  cases first with
  | none =>
    cases second with
    | none => rfl
    | some increment => exact absurd same.symm (placeholder increment)
  | some increment =>
    cases second with
    | none => exact absurd same (placeholder increment)
    | some other => rw [decimalText_injective same]

/-- The placeholder for no priority has no colon, which every priority has. -/
theorem prioritiesText_injective :
    Function.Injective fun priorities : List (Nat × PriorityInfo) =>
      if priorities = [] then ['0'] else join [','] (priorities.map priorityText) := by
  have placeholder {priorities : List (Nat × PriorityInfo)} (some : priorities ≠ []) :
      join [','] (priorities.map priorityText) ≠ ['0'] := by
    intro same
    obtain ⟨priority, rest, rfl⟩ := exists_cons_of_ne_nil some
    have colon : ':' ∈ join [','] ((priority :: rest).map priorityText) :=
      mem_join (mem_map_of_mem (mem_cons_self ..)) (by simp [priorityText])
    rw [same] at colon
    exact absurd colon (by decide)
  intro first second same
  by_cases none : first = []
  · by_cases none' : second = []
    · rw [none, none']
    · simp only [if_pos none, if_neg none'] at same
      exact absurd same.symm (placeholder none')
  · by_cases none' : second = []
    · simp only [if_neg none, if_pos none'] at same
      exact absurd same (placeholder none)
    · simp only [if_neg none, if_neg none'] at same
      exact (join_colonText_inj (by decide) (fun _ => cons_ne_nil _ _) priorityText_eq
        priorityText_injective).mp same

/-- The letters can be told from their list. -/
theorem lettersText_inj {letters others : List Char}
    (apart : ∀ letter ∈ letters ++ others, letter ≠ ',') :
    join [','] (letters.map fun letter => [letter]) =
      join [','] (others.map fun letter => [letter]) ↔ letters = others := by
  rw [join_inj_of_filled]
  · apply Function.Injective.eq_iff
    apply map_injective_iff.mpr
    intro first second same
    exact head_eq_of_cons_eq same
  · intro part member
    rw [← map_append] at member
    obtain ⟨letter, listed, rfl⟩ := mem_map.mp member
    simpa [eq_comm] using apart letter listed

/-- The text tells each of the four parts of an opening. -/
theorem Opening.join_parts_inj {first second : Opening} (lettered : first.Lettered)
    (lettered' : second.Lettered) :
    join ['|'] first.parts = join ['|'] second.parts ↔ first = second := by
  have some (opening : Opening) : opening.parts ≠ [] := cons_ne_nil _ _
  have letters : ∀ letter ∈ first.pseudoLetters ++ second.pseudoLetters, letter ≠ ',' := by
    intro letter among
    rcases mem_append.mp among with among | among
    · exact (lettered letter among).1
    · exact (lettered' letter among).1
  have settings := @join_colonText_inj _ ';' settingText (fun entry => [entry.1, entry.2]) (by decide)
    (fun _ => cons_ne_nil _ _) (fun _ => rfl) settingText_injective first.settings second.settings
  rw [join_inj (some first) (some second) (bar_notMem_parts lettered)
    (bar_notMem_parts lettered'), Opening.ext_iff]
  -- Part by part, the text is equal where the opening is.
  have window : _ ↔ first.windowUpdate = second.windowUpdate := windowText_injective.eq_iff
  have priorities : _ ↔ first.priorities = second.priorities := prioritiesText_injective.eq_iff
  simp only [Opening.parts, List.cons.injEq, and_true, settings, lettersText_inj letters, window,
    priorities]

/-! ## The fingerprint -/

open Classical in
/-- The frames that a fingerprint may depend on. -/
noncomputable def fingerprintedFrames (frames : List ParsedFrame) : List ParsedFrame :=
  (openingFrames frames).filter fun frame => frame.WidensConnection ∨ frame.Prioritizes

/-- A reading of frames that says something only of some of them needs only those. -/
theorem filterMap_filter_of_some {α β : Type} {read : α → Option β} {keep : α → Bool}
    (needed : ∀ item, keep item = false → read item = none) (items : List α) :
    (items.filter keep).filterMap read = items.filterMap read := by
  rw [filterMap_filter]
  congr 1
  funext item
  cases kept : keep item with
  | false => simp [needed item kept]
  | true => simp

/-- All other frames can be left out of the opening. -/
theorem opening_of_fingerprinted {first second : HTTP2Capture}
    (settings : first.initialSettings = second.initialSettings)
    (headers : first.headers = second.headers)
    (frames : fingerprintedFrames first.frames = fingerprintedFrames second.frames) :
    first.opening = second.opening := by
  have increments (frames : List ParsedFrame) :
      (fingerprintedFrames frames).filterMap connectionIncrement =
        (openingFrames frames).filterMap connectionIncrement := by
    apply filterMap_filter_of_some
    intro frame dropped
    apply if_neg
    intro widens
    simp [widens] at dropped
  have priorities (frames : List ParsedFrame) :
      (fingerprintedFrames frames).filterMap announcedPriority =
        (openingFrames frames).filterMap announcedPriority := by
    apply filterMap_filter_of_some
    intro frame dropped
    apply if_neg
    intro prioritizes
    simp [prioritizes] at dropped
  simp only [HTTP2Capture.opening, settings, headers, ← List.head?_filterMap, ← increments,
    ← priorities, frames]

/--
The fingerprint of a capture tells its opening, and is told by it.

Frames from the first HEADERS frame on, frames without a meaning, frames of other types and the
window updates of streams do not count.
-/
theorem akamaiFingerprint_unambiguous (md5 : Text → Text) (first second : HTTP2Capture)
    (legible : first.Legible) (legible' : second.Legible) :
    ((buildAkamaiFingerprint md5 (some first)).get? "akamai_fingerprint" =
        (buildAkamaiFingerprint md5 (some second)).get? "akamai_fingerprint" ↔
      first.opening = second.opening) ∧
    (first.initialSettings = second.initialSettings → first.headers = second.headers →
      fingerprintedFrames first.frames = fingerprintedFrames second.frames →
      buildAkamaiFingerprint md5 (some first) = buildAkamaiFingerprint md5 (some second)) := by
  have text {capture : HTTP2Capture} (legible : capture.Legible) :
      buildAkamaiFingerprint md5 (some capture) =
        [("akamai_fingerprint", .text (join ['|'] capture.opening.parts)),
          ("akamai_fingerprint_hash", .text (md5 (join ['|'] capture.opening.parts)))] := by
    rw [buildAkamaiFingerprint, if_neg legible.nonempty, akamaiFingerprint_eq legible]
  have shown (fingerprint hash : Json) : Dict.get? [("akamai_fingerprint", fingerprint),
      ("akamai_fingerprint_hash", hash)] "akamai_fingerprint" = some fingerprint := rfl
  rw [text legible, text legible', shown, shown]
  constructor
  · rw [Option.some.injEq, Json.text.injEq]
    exact Opening.join_parts_inj legible.lettered legible'.lettered
  · intro settings headers frames
    rw [opening_of_fingerprinted settings headers frames]

/-- A capture that begins with a connection window update, and its pseudo-headers. -/
def openedWith (names : List String) : HTTP2Capture where
  frames := [⟨⟨4, 8, 0, 0⟩, .windowUpdate ⟨65535⟩, [0, 0, 4, 8, 0, 0, 0, 0, 0, 0, 0, 255, 255]⟩]
  headers := some (names.map fun name => (ascii name, []))

/-- Two clients that send the same frames are told apart by the order of their pseudo-headers. -/
theorem akamaiFingerprint_unambiguous_pseudoOrder :
    (openedWith [":method", ":path"]).Legible ∧ (openedWith [":path", ":method"]).Legible ∧
      (buildAkamaiFingerprint id (some (openedWith [":method", ":path"]))).get? "akamai_fingerprint" ≠
        (buildAkamaiFingerprint id (some (openedWith [":path", ":method"]))).get?
          "akamai_fingerprint" := by
  have legible {names : List String} (lettered : ∀ name ∈ names, ∃ letter rest,
      asText (ascii name) = ':' :: letter :: rest ∧ IsLetter letter) : (openedWith names).Legible := by
    refine ⟨cons_ne_nil _ _, ?_, ?_⟩
    · intro frame listed
      rw [mem_singleton.mp listed]
      exact ⟨create [0, 0, 4, 8, 0, 0, 0, 0, 0, 0, 0, 255, 255] 65536 false true none, _, rfl, rfl⟩
    · intro field listed rest held
      obtain ⟨name, among, rfl⟩ := mem_map.mp listed
      obtain ⟨letter, more, spelled, isLetter⟩ := lettered name among
      exact ⟨letter, more, tail_eq_of_cons_eq (held.symm.trans spelled), isLetter⟩
  have first : (openedWith [":method", ":path"]).Legible := by
    apply legible
    simp [ascii, asText, IsLetter]
  have second : (openedWith [":path", ":method"]).Legible := by
    apply legible
    simp [ascii, asText, IsLetter]
  refine ⟨first, second, ?_⟩
  intro same
  have openings := (akamaiFingerprint_unambiguous id _ _ first second).1.mp same
  exact absurd (congrArg Opening.pseudoLetters openings) (by decide)

end SolveTls
