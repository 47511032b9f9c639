import SolveTls.Http2.FrameFormat
import SolveTls.Proofs.Http2.FrameWindow

/-! Each payload parser reads exactly the octets its frame type is laid out in. -/

namespace SolveTls.HTTP2FrameReader

open Octets Fallible List FrameFlags

variable {padLength value : Nat} {rest taken body : Bytes} {header : FrameHeader}
  {reader reached : HTTP2FrameReader}

/-- A reader that does not look at padding octets and has no entry budget. -/
def Lenient (reader : HTTP2FrameReader) : Prop :=
  reader.strictPadding = false ∧ reader.maxEntries = none

/-- Skipping octets does not make a reader strict. -/
theorem Lenient.skip (lenient : Lenient reader) (count : Nat) :
    Lenient (reader.skip count) := lenient

/-- What is left to read of a payload behind its pad length, if it has one. -/
inductive Opened (header : FrameHeader) : Bytes → Nat → Bytes → Prop where
  | plain {content : Bytes} (unflagged : header.has padded = false) :
    Opened header content 0 content
  | wrapped {octet : UInt8} {content : Bytes} (flagged : header.has padded = true) :
    Opened header (octet :: content) octet.toNat content

/-- The pad length is the first octet of a padded payload, and nothing otherwise. -/
theorem readPaddingLength_ok (window : Window reader body)
    (ran : readPaddingLength header reader = (.ok padLength, reached)) :
    ∃ content, Window reached content ∧ Opened header body padLength content := by
  by_cases flagged : header.has padded = true
  · simp only [readPaddingLength, if_pos flagged, bind_eq_ok, raiseIf_eq_ok, pure_eq_ok] at ran
    obtain ⟨length, middle, took, _, _, ⟨-, rfl⟩, rfl, rfl⟩ := ran
    obtain ⟨octet, left, rfl, rfl, -, window'⟩ := readUint8_ok window took
    exact ⟨left, window', .wrapped flagged⟩
  · simp only [readPaddingLength, if_neg flagged, pure_eq_ok] at ran
    obtain ⟨rfl, rfl⟩ := ran
    exact ⟨body, window, .plain (by simpa using flagged)⟩

/-- Skipped padding is as long as announced. -/
theorem skipPadding_ok (window : Window reader rest)
    (ran : skipPadding padLength reader = (.ok (), reached)) :
    ∃ padding left, rest = padding ++ left ∧ padding.length = padLength ∧
      reached = reader.skip padLength ∧ Window reached left := by
  simp only [skipPadding, bind_eq_ok, get_eq_ok, raiseIf_eq_ok] at ran
  obtain ⟨padding, middle, took, _, _, ⟨rfl, rfl⟩, -, rfl⟩ := ran
  obtain ⟨left, split, width, moved, window'⟩ := read_ok window took
  have exact : padding.length = padLength := by omega
  exact ⟨padding, left, split, exact, by rw [moved, exact], window'⟩

/--
The common end of every padded payload: the rest of the content, then the padding.

`front` is what the grammar reads between the pad length and the rest of the content.
-/
theorem envelope_ok {middle final : HTTP2FrameReader} (front : Bytes) {block : Bytes}
    {blockLength : Int} (size : body.length = header.length)
    (opened : Opened header body padLength (front ++ rest)) (window : Window reader rest)
    (room : blockLength = header.length - (if header.has padded then 1 else 0) -
      front.length - padLength) (took : read blockLength reader = (.ok block, middle))
    (skipped : skipPadding padLength middle = (.ok (), final)) :
    Padded header body (front ++ block) ∧ padRoom header body + front.length ≤ header.length ∧
      Window final [] := by
  obtain ⟨left, rfl, width, -, beforePadding⟩ := read_ok window took
  obtain ⟨padding, after, rfl, exact, -, afterPadding⟩ := skipPadding_ok beforePadding skipped
  -- The lengths add up to the whole frame, so nothing is left after the padding.
  cases opened with
  | plain plain =>
    obtain rfl : padding = [] := length_eq_zero_iff.mp exact
    simp only [plain, Bool.false_eq_true, if_false, length_append, length_nil] at room size
    obtain rfl : after = [] := length_eq_zero_iff.mp (by omega)
    refine ⟨?_, ?_, afterPadding⟩
    · simpa using Padded.plain plain
    · simp only [padRoom, plain, Bool.false_eq_true, if_false]
      omega
  | @wrapped octet _ flagged =>
    simp only [flagged, if_true, length_append, length_cons] at room size
    obtain rfl : after = [] := length_eq_zero_iff.mp (by omega)
    refine ⟨?_, ?_, afterPadding⟩
    · have wrapped : Padded header (octet :: ((front ++ block) ++ padding)) (front ++ block) :=
        Padded.wrapped flagged exact
      simpa using wrapped
    · simp only [padRoom, flagged, if_true, headD_cons]
      omega

/-- A payload with room for its envelope and some more octets is wrapped content. -/
theorem padded_of_room (need : Nat) (size : body.length = header.length)
    (room : padRoom header body + need ≤ header.length) :
    ∃ content, Padded header body content ∧ need ≤ content.length := by
  unfold padRoom at room
  by_cases flagged : header.has padded = true
  · rw [if_pos flagged] at room
    cases body with
    | nil => simp at size room; omega
    | cons octet rest =>
      simp only [length_cons, headD_cons] at size room
      -- The padding is the announced number of octets at the end.
      refine ⟨rest.take (rest.length - octet.toNat), ?_, by simp only [length_take]; omega⟩
      have wrapped : Padded header
          (octet :: (rest.take (rest.length - octet.toNat) ++ rest.drop (rest.length - octet.toNat)))
          (rest.take (rest.length - octet.toNat)) :=
        Padded.wrapped flagged (by simp only [length_drop]; omega)
      rwa [take_append_drop] at wrapped
  · have plain : header.has padded = false := by simpa using flagged
    rw [if_neg flagged] at room
    exact ⟨body, Padded.plain plain, by omega⟩

/-- An octet at the front of the window is read. -/
theorem readUint8_append {octet : UInt8} (window : Window reader (octet :: rest)) :
    readUint8 reader = (.ok octet.toNat, reader.skip 1) := by
  have split : Window reader ([octet] ++ rest) := window
  simp only [readUint8, bind_eq_ok, pure_eq_ok]
  exact ⟨[octet], _, read_append split, by simp [bigEndian], rfl⟩

/-- Opening an envelope leaves its content and the padding to read. -/
theorem envelope_open {content : Bytes} (lenient : Lenient reader) (window : Window reader body)
    (size : body.length = header.length) (framed : Padded header body content) :
    ∃ padding opened, readPaddingLength header reader = (.ok padding.length, opened) ∧
      Lenient opened ∧ Window opened (content ++ padding) ∧
      (header.length : Int) = (if header.has padded then 1 else 0) + content.length +
        padding.length := by
  cases framed with
  | plain unflagged =>
    refine ⟨[], reader, ?_, lenient, by simpa using window, by simp [unflagged, size]⟩
    simp [readPaddingLength, unflagged]
  | @wrapped octet _ padding flagged exact =>
    simp only [length_cons, length_append] at size
    have split : Window reader ([octet] ++ (content ++ padding)) := window
    -- The octet is read first; it is smaller than the frame that holds it.
    refine ⟨padding, reader.skip 1, ?_, lenient.skip 1, split.skip, ?_⟩
    · simp only [readPaddingLength, if_pos flagged, bind_eq_ok, raiseIf_eq_ok, pure_eq_ok]
      exact ⟨_, _, readUint8_append window, (), _, ⟨by omega, rfl⟩, exact.symm, rfl⟩
    · simp only [flagged, if_true]
      omega

/-- Closing an envelope takes the rest of the content and skips the padding. -/
theorem envelope_close {block padding : Bytes} (lenient : Lenient reader)
    (window : Window reader (block ++ padding)) :
    ∃ final, read block.length reader = (.ok block, reader.skip block.length) ∧
      skipPadding padding.length (reader.skip block.length) = (.ok (), final) := by
  refine ⟨(reader.skip block.length).skip padding.length, read_append window, ?_⟩
  simp only [skipPadding, bind_eq_ok, get_eq_ok, raiseIf_eq_ok]
  refine ⟨padding, _, read_append window.skip.whole, _, _, ⟨rfl, rfl⟩, ?_, rfl⟩
  -- Padding octets are not inspected.
  have loose : (reader.skip block.length |>.skip padding.length).strictPadding = false := lenient.1
  simp [loose]

/-! ### Fixed-width fields -/

/-- Masking the reserved bit keeps the other thirty-one. -/
theorem and_maxStreamId (value : Nat) : value &&& maxStreamId = value % 2 ^ 31 :=
  Nat.and_two_pow_sub_one_eq_mod value 31

/-- The reserved bit of a 32-bit value is set from its upper half on. -/
theorem and_reservedBitMask (width : value < 2 ^ 32) :
    (value &&& reservedBitMask != 0) = decide (2 ^ 31 ≤ value) := by
  have mask : value &&& reservedBitMask = (value.testBit 31).toNat * 2 ^ 31 :=
    Nat.and_two_pow value 31
  rw [mask, Nat.testBit_eq_decide_div_mod_eq]
  -- The quotient by the mask is one exactly in the upper half.
  by_cases upper : 2 ^ 31 ≤ value
  · have quotient : value / 2 ^ 31 % 2 = 1 := by omega
    rw [quotient, decide_eq_true upper]
    rfl
  · have quotient : value / 2 ^ 31 % 2 = 0 := by omega
    rw [quotient, decide_eq_false upper]
    rfl

/-- The four octets of an integer, whose first bit is dropped. -/
theorem readUint32WithReserved_ok (window : Window reader rest)
    (ran : readUint32WithReserved reader = (.ok value, reached)) :
    ∃ taken left, rest = taken ++ left ∧ taken.length = 4 ∧ value = bigEndian taken % 2 ^ 31 ∧
      Window reached left := by
  simp only [readUint32WithReserved, bind_eq_ok, pure_eq_ok] at ran
  obtain ⟨raw, middle, took, rfl, rfl⟩ := ran
  obtain ⟨taken, left, split, width, rfl, -, window'⟩ := readUint32_ok window took
  exact ⟨taken, left, split, width, and_maxStreamId _, window'⟩

/-- Four octets ahead are read as an integer. -/
theorem readUint32_append (window : Window reader (taken ++ rest)) (width : taken.length = 4) :
    readUint32 reader = (.ok (bigEndian taken), reader.skip 4) :=
  readUint_append window width

/-- Two octets ahead are read as an integer. -/
theorem readUint16_append (window : Window reader (taken ++ rest)) (width : taken.length = 2) :
    readUint16 reader = (.ok (bigEndian taken), reader.skip 2) :=
  readUint_append window width

/-- Four octets ahead are read without their first bit. -/
theorem readUint32WithReserved_append (window : Window reader (taken ++ rest))
    (width : taken.length = 4) :
    readUint32WithReserved reader = (.ok (bigEndian taken % 2 ^ 31), reader.skip 4) := by
  simp only [readUint32WithReserved, bind_eq_ok, pure_eq_ok]
  exact ⟨_, _, readUint32_append window width, and_maxStreamId _, rfl⟩

/-- A priority field is four octets of dependency and one of weight. -/
theorem readPriority_ok {info : PriorityInfo} (window : Window reader rest)
    (ran : readPriority reader = (.ok info, reached)) :
    ∃ (dependency : Bytes) (weight : UInt8) (left : Bytes),
      rest = dependency ++ weight :: left ∧ dependency.length = 4 ∧
      info = priorityOf dependency weight ∧ Window reached left := by
  simp only [readPriority, bind_eq_ok, pure_eq_ok] at ran
  obtain ⟨raw, middle, tookRaw, value, final, tookWeight, rfl, rfl⟩ := ran
  obtain ⟨dependency, behind, rfl, width, rfl, -, window'⟩ := readUint32_ok window tookRaw
  obtain ⟨weight, left, rfl, rfl, -, window''⟩ := readUint8_ok window' tookWeight
  have narrow : bigEndian dependency < 2 ^ 32 := by
    have bound := bigEndian_lt dependency
    rw [width] at bound
    omega
  refine ⟨dependency, weight, left, rfl, width, ?_, window''⟩
  simp only [priorityOf, and_reservedBitMask narrow, and_maxStreamId]

/-- Five octets are four of dependency and one of weight. -/
theorem split_priority {octets : Bytes} (enough : 5 ≤ octets.length) :
    ∃ (dependency : Bytes) (weight : UInt8) (rest : Bytes),
      octets = dependency ++ weight :: rest ∧ dependency.length = 4 := by
  obtain ⟨dependency, behind, rfl, width⟩ := split_at 4 octets (by omega)
  cases behind with
  | nil => simp only [length_append, width, length_nil] at enough; omega
  | cons weight rest => exact ⟨dependency, weight, rest, rfl, width⟩

/-- Five octets ahead are read as a priority. -/
theorem readPriority_append {dependency : Bytes} {weight : UInt8}
    (window : Window reader (dependency ++ weight :: rest)) (width : dependency.length = 4) :
    ∃ info, readPriority reader = (.ok info, (reader.skip 4).skip 1) ∧
      Window ((reader.skip 4).skip 1) rest := by
  have behind := window.behind width
  have single : Window (reader.skip 4) ([weight] ++ rest) := behind
  simp only [readPriority, bind_eq_ok, pure_eq_ok]
  exact ⟨_, ⟨_, _, readUint32_append window width, _, _, readUint8_append behind, rfl, rfl⟩,
    single.skip⟩

/-! ### One grammar per frame type -/

/-- What a parser that returned has read: all of the payload, which is laid out as it says. -/
structure Read (header : FrameHeader) (body : Bytes) (payload : Payload)
    (reached : HTTP2FrameReader) : Prop where
  encodes : Encodes header body payload
  wellFormed : WellFormed header body
  finished : Window reached []

section Grammars

variable (window : Window reader body) (size : body.length = header.length)

include window size

/-- Accepted DATA is content in an envelope. -/
theorem parseData_sound {payload : DataPayload} (kind : header.kind = some .data)
    (ran : parseData header reader = (.ok payload, reached)) :
    Read header body (.data payload) reached := by
  simp only [parseData, bind_eq_ok, raiseIf_eq_ok, pure_eq_ok] at ran
  obtain ⟨_, _, ⟨stream, rfl⟩, padLength, opened, pad, _, _, ⟨-, rfl⟩, content, middle, took, _,
    final, skipped, rfl, rfl⟩ := ran
  obtain ⟨rest, window', shape⟩ := readPaddingLength_ok window pad
  -- A DATA payload is all content, so nothing stands before it in the envelope.
  have closed := envelope_ok [] size shape window' (by simp) took skipped
  simp only [nil_append, length_nil, Nat.add_zero] at closed
  refine ⟨.data kind closed.1, ?_, closed.2.2⟩
  simp only [WellFormed, kind]
  exact ⟨stream, closed.2.1⟩

/-- Well-formed DATA is accepted. -/
theorem parseData_complete (kind : header.kind = some .data) (lenient : Lenient reader)
    (good : WellFormed header body) :
    ∃ payload reached, parseData header reader = (.ok payload, reached) := by
  simp only [WellFormed, kind] at good
  obtain ⟨content, framed, -⟩ := padded_of_room 0 size good.2
  obtain ⟨padding, opened, pad, lenient', window', total⟩ :=
    envelope_open lenient window size framed
  obtain ⟨final, took, skipped⟩ := envelope_close lenient' window'
  have room : (header.length : Int) - (if header.has padded then 1 else 0) -
      padding.length = content.length := by omega
  simp only [parseData, bind_eq_ok, raiseIf_eq_ok, pure_eq_ok]
  refine ⟨_, _, (), _, ⟨good.1, rfl⟩, _, _, pad, (), _, ⟨?_, rfl⟩, content, _, ?_, (), _, skipped,
    rfl, rfl⟩
  · omega
  · rw [room]
    exact took

/-- Accepted HEADERS are a block in an envelope, perhaps behind a priority. -/
theorem parseHeaders_sound {payload : HeadersPayload} (kind : header.kind = some .headers)
    (ran : parseHeaders header reader = (.ok payload, reached)) :
    Read header body (.headers payload) reached := by
  simp only [parseHeaders, bind_eq_ok, raiseIf_eq_ok, pure_eq_ok] at ran
  obtain ⟨_, _, ⟨stream, rfl⟩, padLength, opened, pad, priority, before, priorityRan, _, _,
    ⟨-, rfl⟩, block, middle, took, _, final, skipped, rfl, rfl⟩ := ran
  obtain ⟨rest, window', shape⟩ := readPaddingLength_ok window pad
  by_cases prioritized : header.has FrameFlags.priority = true
  · -- Five octets of priority stand between the pad length and the header block.
    simp only [if_pos prioritized, map_eq_bind, bind_eq_ok, pure_eq_ok] at priorityRan took
    obtain ⟨info, _, readInfo, rfl, rfl⟩ := priorityRan
    obtain ⟨dependency, weight, left, rfl, width, rfl, window''⟩ := readPriority_ok window' readInfo
    have shape' : Opened header body padLength ((dependency ++ [weight]) ++ left) := by
      simpa using shape
    have closed := envelope_ok (dependency ++ [weight]) size shape' window'' (by
      simp only [length_append, width, length_singleton]
      omega) took skipped
    simp only [length_append, width, length_singleton, append_assoc,
      singleton_append] at closed
    refine ⟨.prioritizedHeaders kind prioritized width closed.1, ?_, closed.2.2⟩
    simp only [WellFormed, kind, prioritized, if_true]
    exact ⟨stream, closed.2.1⟩
  · have plain : header.has FrameFlags.priority = false := by simpa using prioritized
    simp only [if_neg prioritized, pure_eq_ok] at priorityRan took
    obtain ⟨rfl, rfl⟩ := priorityRan
    have closed := envelope_ok [] size shape window' (by simp) took skipped
    simp only [nil_append, length_nil, Nat.add_zero] at closed
    refine ⟨.headers kind plain closed.1, ?_, closed.2.2⟩
    simp only [WellFormed, kind, plain, Bool.false_eq_true, if_false]
    exact ⟨stream, closed.2.1⟩

/-- Well-formed HEADERS are accepted. -/
theorem parseHeaders_complete (kind : header.kind = some .headers) (lenient : Lenient reader)
    (good : WellFormed header body) :
    ∃ payload reached, parseHeaders header reader = (.ok payload, reached) := by
  simp only [WellFormed, kind] at good
  obtain ⟨content, framed, need⟩ := padded_of_room _ size good.2
  obtain ⟨padding, opened, pad, lenient', window', total⟩ :=
    envelope_open lenient window size framed
  simp only [parseHeaders, bind_eq_ok, raiseIf_eq_ok, pure_eq_ok]
  by_cases prioritized : header.has priority = true
  · simp only [if_pos prioritized] at need ⊢
    -- The content has room for the five priority octets, so they can be read.
    obtain ⟨dependency, weight, block, rfl, width⟩ := split_priority need
    simp only [append_assoc, cons_append] at window'
    obtain ⟨info, readInfo, window''⟩ := readPriority_append window' width
    obtain ⟨final, took, skipped⟩ := envelope_close ((lenient'.skip 4).skip 1) window''
    simp only [length_append, length_cons, width] at total
    have room : (header.length : Int) - (if header.has padded then 1 else 0) - 5 -
        padding.length = block.length := by omega
    refine ⟨_, _, (), _, ⟨good.1, rfl⟩, _, _, pad, some info, (opened.skip 4).skip 1, ?_, (), _,
      ⟨?_, rfl⟩, block, _, ?_, (), _, skipped, rfl, rfl⟩
    · simp only [map_eq_bind, bind_eq_ok, pure_eq_ok]
      exact ⟨info, _, readInfo, rfl, rfl⟩
    · omega
    · rw [room]
      exact took
  · simp only [if_neg prioritized]
    obtain ⟨final, took, skipped⟩ := envelope_close lenient' window'
    have room : (header.length : Int) - (if header.has padded then 1 else 0) - 0 -
        padding.length = content.length := by omega
    refine ⟨_, _, (), _, ⟨good.1, rfl⟩, _, _, pad, none, opened, ?_, (), _, ⟨?_, rfl⟩, content, _,
      ?_, (), _, skipped, rfl, rfl⟩
    · simp only [pure_eq_ok, and_self]
    · omega
    · rw [room]
      exact took

/-- An accepted PUSH_PROMISE names a stream before its block. -/
theorem parsePushPromise_sound {payload : PushPromisePayload}
    (kind : header.kind = some .pushPromise)
    (ran : parsePushPromise header reader = (.ok payload, reached)) :
    Read header body (.pushPromise payload) reached := by
  simp only [parsePushPromise, bind_eq_ok, raiseIf_eq_ok, pure_eq_ok] at ran
  obtain ⟨_, _, ⟨stream, rfl⟩, padLength, opened, pad, promisedId, before, readPromised, _, _,
    ⟨nonzero, rfl⟩, _, _, ⟨-, rfl⟩, block, middle, took, _, final, skipped, rfl, rfl⟩ := ran
  obtain ⟨rest, window', shape⟩ := readPaddingLength_ok window pad
  obtain ⟨promised, left, rfl, width, rfl, window''⟩ :=
    readUint32WithReserved_ok window' readPromised
  have closed := envelope_ok promised size shape window'' (by rw [width]; omega) took skipped
  rw [width] at closed
  refine ⟨.pushPromise kind width closed.1, ?_, closed.2.2⟩
  simp only [WellFormed, kind]
  refine ⟨stream, closed.2.1, ?_⟩
  -- The promised identifier is where the specification looks for it.
  have located : (body.drop (if header.has padded then 1 else 0)).take 4 = promised := by
    cases shape with
    | plain unflagged => simp [unflagged, ← width]
    | wrapped flagged => simp [flagged, ← width]
  rw [located]
  exact nonzero

/-- A well-formed PUSH_PROMISE is accepted. -/
theorem parsePushPromise_complete (kind : header.kind = some .pushPromise)
    (lenient : Lenient reader) (good : WellFormed header body) :
    ∃ payload reached, parsePushPromise header reader = (.ok payload, reached) := by
  simp only [WellFormed, kind] at good
  obtain ⟨stream, fits, nonzero⟩ := good
  obtain ⟨content, framed, need⟩ := padded_of_room 4 size fits
  obtain ⟨padding, opened, pad, lenient', window', total⟩ :=
    envelope_open lenient window size framed
  obtain ⟨promised, block, rfl, width⟩ := split_at 4 content need
  have located : (body.drop (if header.has padded then 1 else 0)).take 4 = promised := by
    cases framed with
    | plain unflagged => simp [unflagged, ← width]
    | wrapped flagged exact => simp [flagged, ← width]
  rw [located] at nonzero
  rw [append_assoc] at window'
  obtain ⟨final, took, skipped⟩ := envelope_close (lenient'.skip 4) (window'.behind width)
  simp only [length_append, width] at total
  have room : (header.length : Int) - (if header.has padded then 1 else 0) - 4 -
      padding.length = block.length := by omega
  simp only [parsePushPromise, bind_eq_ok, raiseIf_eq_ok, pure_eq_ok]
  refine ⟨_, _, (), _, ⟨stream, rfl⟩, _, _, pad, _, _, readUint32WithReserved_append window' width,
    (), _, ⟨nonzero, rfl⟩, (), _, ⟨?_, rfl⟩, block, _, ?_, (), _, skipped, rfl, rfl⟩
  · omega
  · rw [room]
    exact took

/-- An accepted PRIORITY is five octets. -/
theorem parsePriority_sound {payload : PriorityInfo} (kind : header.kind = some .priority)
    (ran : parsePriority header reader = (.ok payload, reached)) :
    Read header body (.priority payload) reached := by
  simp only [parsePriority, bind_eq_ok, raiseIf_eq_ok, not_not] at ran
  obtain ⟨_, _, ⟨fixed, rfl⟩, _, _, ⟨stream, rfl⟩, took⟩ := ran
  obtain ⟨dependency, weight, left, rfl, width, rfl, window'⟩ := readPriority_ok window took
  simp only [length_append, length_cons, width, fixed, priorityPayloadSize] at size
  obtain rfl : left = [] := length_eq_zero_iff.mp (by omega)
  refine ⟨.priority kind width, ?_, window'⟩
  simp only [WellFormed, kind]
  exact ⟨fixed, stream⟩

/-- A well-formed PRIORITY is accepted. -/
theorem parsePriority_complete (kind : header.kind = some .priority) (good : WellFormed header body) :
    ∃ payload reached, parsePriority header reader = (.ok payload, reached) := by
  simp only [WellFormed, kind] at good
  rw [good.1] at size
  obtain ⟨dependency, weight, _, rfl, width⟩ := split_priority size.ge
  obtain ⟨info, took, -⟩ := readPriority_append window width
  simp only [parsePriority, bind_eq_ok, raiseIf_eq_ok, not_not]
  exact ⟨info, _, (), _, ⟨good.1, rfl⟩, (), _, ⟨good.2, rfl⟩, took⟩

/-- An accepted RST_STREAM is an error code. -/
theorem parseRstStream_sound {payload : RstStreamPayload} (kind : header.kind = some .rstStream)
    (ran : parseRstStream header reader = (.ok payload, reached)) :
    Read header body (.rstStream payload) reached := by
  simp only [parseRstStream, bind_eq_ok, raiseIf_eq_ok, pure_eq_ok, not_not] at ran
  obtain ⟨_, _, ⟨fixed, rfl⟩, _, _, ⟨stream, rfl⟩, code, final, took, rfl, rfl⟩ := ran
  obtain ⟨taken, left, rfl, width, rfl, -, window'⟩ := readUint32_ok window took
  simp only [length_append, width, fixed, rstStreamPayloadSize] at size
  obtain rfl : left = [] := length_eq_zero_iff.mp (by omega)
  rw [append_nil]
  refine ⟨.rstStream kind, ?_, window'⟩
  simp only [WellFormed, kind]
  exact ⟨fixed, stream⟩

/-- A well-formed RST_STREAM is accepted. -/
theorem parseRstStream_complete (kind : header.kind = some .rstStream)
    (good : WellFormed header body) :
    ∃ payload reached, parseRstStream header reader = (.ok payload, reached) := by
  simp only [WellFormed, kind] at good
  simp only [parseRstStream, bind_eq_ok, raiseIf_eq_ok, pure_eq_ok, not_not]
  exact ⟨_, _, (), _, ⟨good.1, rfl⟩, (), _, ⟨good.2, rfl⟩, _, _,
    readUint32_append window.whole (by omega), rfl, rfl⟩

/-- An accepted PING is eight octets. -/
theorem parsePing_sound {payload : PingPayload} (kind : header.kind = some .ping)
    (ran : parsePing header reader = (.ok payload, reached)) :
    Read header body (.ping payload) reached := by
  simp only [parsePing, bind_eq_ok, raiseIf_eq_ok, pure_eq_ok, not_not] at ran
  obtain ⟨_, _, ⟨stream, rfl⟩, _, _, ⟨fixed, rfl⟩, data, final, took, rfl, rfl⟩ := ran
  obtain ⟨left, rfl, width, -, window'⟩ := read_ok window took
  simp only [length_append, fixed, pingPayloadSize] at size width
  obtain rfl : left = [] := length_eq_zero_iff.mp (by omega)
  rw [append_nil]
  refine ⟨.ping kind, ?_, window'⟩
  simp only [WellFormed, kind]
  exact ⟨stream, fixed⟩

/-- A well-formed PING is accepted. -/
theorem parsePing_complete (kind : header.kind = some .ping) (good : WellFormed header body) :
    ∃ payload reached, parsePing header reader = (.ok payload, reached) := by
  simp only [WellFormed, kind] at good
  have took := read_append window.whole
  rw [size, good.2] at took
  simp only [parsePing, bind_eq_ok, raiseIf_eq_ok, pure_eq_ok, not_not]
  exact ⟨_, _, (), _, ⟨good.1, rfl⟩, (), _, ⟨good.2, rfl⟩, _, _, took, rfl, rfl⟩

/-- An accepted GOAWAY is a stream, an error code and debug data. -/
theorem parseGoaway_sound {payload : GoawayPayload} (kind : header.kind = some .goaway)
    (ran : parseGoaway header reader = (.ok payload, reached)) :
    Read header body (.goaway payload) reached := by
  simp only [parseGoaway, bind_eq_ok, raiseIf_eq_ok, pure_eq_ok, not_not] at ran
  obtain ⟨_, _, ⟨stream, rfl⟩, _, _, ⟨least, rfl⟩, lastId, _, tookLast, errorCode, before,
    tookCode, debug, final, tookDebug, rfl, rfl⟩ := ran
  obtain ⟨last, behind, rfl, lastWidth, rfl, window'⟩ := readUint32WithReserved_ok window tookLast
  obtain ⟨code, rest, rfl, codeWidth, rfl, -, window''⟩ := readUint32_ok window' tookCode
  simp only [length_append, lastWidth, codeWidth] at size
  -- Debug data is read only when there is some; either way it is what is left.
  have debugged : rest = debug ∧ Window final [] := by
    by_cases more : (header.length : Int) - 8 > 0
    · rw [if_pos more] at tookDebug
      obtain ⟨left, rfl, width, -, ended⟩ := read_ok window'' tookDebug
      rw [length_append] at size
      obtain rfl : left = [] := length_eq_zero_iff.mp (by omega)
      exact ⟨append_nil debug, ended⟩
    · simp only [if_neg more, pure_eq_ok] at tookDebug
      obtain rfl : rest = [] := length_eq_zero_iff.mp (by omega)
      obtain ⟨rfl, rfl⟩ := tookDebug
      exact ⟨rfl, window''⟩
  obtain ⟨rfl, finished⟩ := debugged
  rw [← append_assoc]
  refine ⟨.goaway kind lastWidth codeWidth, ?_, finished⟩
  simp only [WellFormed, kind]
  exact ⟨stream, by omega⟩

/-- A well-formed GOAWAY is accepted. -/
theorem parseGoaway_complete (kind : header.kind = some .goaway) (good : WellFormed header body) :
    ∃ payload reached, parseGoaway header reader = (.ok payload, reached) := by
  simp only [WellFormed, kind] at good
  obtain ⟨last, rest, rfl, lastWidth⟩ := split_at 4 body (by omega)
  rw [length_append, lastWidth] at size
  obtain ⟨code, debug, rfl, codeWidth⟩ := split_at 4 rest (by omega)
  rw [length_append, codeWidth] at size
  have afterLast := window.behind lastWidth
  simp only [parseGoaway, bind_eq_ok, raiseIf_eq_ok, pure_eq_ok, not_not]
  refine ⟨_, _, (), _, ⟨good.1, rfl⟩, (), _, ⟨by omega, rfl⟩, _, _,
    readUint32WithReserved_append window lastWidth, _, _, readUint32_append afterLast codeWidth,
    debug, ((reader.skip 4).skip 4).skip debug.length, ?_, rfl, rfl⟩
  have rest : (header.length : Int) - 8 = debug.length := by omega
  by_cases more : (header.length : Int) - 8 > 0
  · rw [if_pos more, rest]
    exact read_append (afterLast.behind codeWidth).whole
  · obtain rfl : debug = [] := length_eq_zero_iff.mp (by omega)
    simp only [if_neg more, pure_eq_ok, true_and]
    rfl

/-- An accepted WINDOW_UPDATE is an increment other than zero. -/
theorem parseWindowUpdate_sound {payload : WindowUpdatePayload}
    (kind : header.kind = some .windowUpdate)
    (ran : parseWindowUpdate header reader = (.ok payload, reached)) :
    Read header body (.windowUpdate payload) reached := by
  simp only [parseWindowUpdate, bind_eq_ok, raiseIf_eq_ok, pure_eq_ok, not_not] at ran
  obtain ⟨_, _, ⟨fixed, rfl⟩, increment, final, took, _, _, ⟨nonzero, rfl⟩, rfl, rfl⟩ := ran
  obtain ⟨taken, left, rfl, width, rfl, window'⟩ := readUint32WithReserved_ok window took
  simp only [length_append, width, fixed, windowUpdatePayloadSize] at size
  obtain rfl : left = [] := length_eq_zero_iff.mp (by omega)
  rw [append_nil]
  refine ⟨.windowUpdate kind, ?_, window'⟩
  simp only [WellFormed, kind]
  exact ⟨fixed, nonzero⟩

/-- A well-formed WINDOW_UPDATE is accepted. -/
theorem parseWindowUpdate_complete (kind : header.kind = some .windowUpdate)
    (good : WellFormed header body) :
    ∃ payload reached, parseWindowUpdate header reader = (.ok payload, reached) := by
  simp only [WellFormed, kind] at good
  simp only [parseWindowUpdate, bind_eq_ok, raiseIf_eq_ok, pure_eq_ok, not_not]
  exact ⟨_, _, (), _, ⟨good.1, rfl⟩, _, _, readUint32WithReserved_append window.whole (by omega), (), _,
    ⟨good.2, rfl⟩, rfl, rfl⟩

/-- An accepted CONTINUATION is all block. -/
theorem parseContinuation_sound {payload : ContinuationPayload}
    (kind : header.kind = some .continuation)
    (ran : parseContinuation header reader = (.ok payload, reached)) :
    Read header body (.continuation payload) reached := by
  simp only [parseContinuation, bind_eq_ok, raiseIf_eq_ok, pure_eq_ok] at ran
  obtain ⟨_, _, ⟨stream, rfl⟩, block, final, took, rfl, rfl⟩ := ran
  obtain ⟨left, rfl, width, -, window'⟩ := read_ok window took
  rw [length_append] at size
  obtain rfl : left = [] := length_eq_zero_iff.mp (by omega)
  rw [append_nil]
  refine ⟨.continuation kind, ?_, window'⟩
  simp only [WellFormed, kind]
  exact stream

/-- A well-formed CONTINUATION is accepted. -/
theorem parseContinuation_complete (kind : header.kind = some .continuation)
    (good : WellFormed header body) :
    ∃ payload reached, parseContinuation header reader = (.ok payload, reached) := by
  simp only [WellFormed, kind] at good
  have took := read_append window.whole
  rw [size] at took
  simp only [parseContinuation, bind_eq_ok, raiseIf_eq_ok, pure_eq_ok]
  exact ⟨_, _, (), _, ⟨good, rfl⟩, _, _, took, rfl, rfl⟩

/-- An accepted PRIORITY_UPDATE names a stream before its value. -/
theorem parsePriorityUpdate_sound {payload : PriorityUpdatePayload}
    (kind : header.kind = some .priorityUpdate)
    (ran : parsePriorityUpdate header reader = (.ok payload, reached)) :
    Read header body (.priorityUpdate payload) reached := by
  simp only [parsePriorityUpdate, bind_eq_ok, raiseIf_eq_ok, pure_eq_ok, not_not] at ran
  obtain ⟨_, _, ⟨stream, rfl⟩, _, _, ⟨least, rfl⟩, identifier, _, tookTarget, _, _,
    ⟨nonzero, rfl⟩, value, final, tookValue, rfl, rfl⟩ := ran
  obtain ⟨target, rest, rfl, width, rfl, window'⟩ := readUint32WithReserved_ok window tookTarget
  obtain ⟨left, rfl, valueWidth, -, window''⟩ := read_ok window' tookValue
  simp only [length_append, width] at size
  obtain rfl : left = [] := length_eq_zero_iff.mp (by omega)
  rw [append_nil]
  refine ⟨.priorityUpdate kind width, ?_, window''⟩
  simp only [WellFormed, kind]
  refine ⟨stream, by omega, ?_⟩
  rw [← width, take_left]
  exact nonzero

/-- A well-formed PRIORITY_UPDATE is accepted. -/
theorem parsePriorityUpdate_complete (kind : header.kind = some .priorityUpdate)
    (good : WellFormed header body) :
    ∃ payload reached, parsePriorityUpdate header reader = (.ok payload, reached) := by
  simp only [WellFormed, kind] at good
  obtain ⟨stream, least, nonzero⟩ := good
  obtain ⟨target, value, rfl, width⟩ := split_at 4 body (by omega)
  rw [← width, take_left] at nonzero
  simp only [length_append, width] at size
  have took := read_append (window.behind width).whole
  have rest : (value.length : Int) = header.length - 4 := by omega
  rw [rest] at took
  simp only [parsePriorityUpdate, bind_eq_ok, raiseIf_eq_ok, pure_eq_ok, not_not]
  exact ⟨_, _, (), _, ⟨stream, rfl⟩, (), _, ⟨by omega, rfl⟩, _, _,
    readUint32WithReserved_append window width, (), _, ⟨nonzero, rfl⟩, value, _, took, rfl, rfl⟩

end Grammars

end SolveTls.HTTP2FrameReader
