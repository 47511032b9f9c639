import SolveTls.Proofs.Http2.FrameGrammar

/-! The payloads that are read in a loop: SETTINGS entries and ORIGIN members, and ALTSVC. -/

namespace SolveTls.HTTP2FrameReader

open Octets Fallible List HTTP2FrameBuilder

variable {header : FrameHeader} {reader reached : HTTP2FrameReader} {body : Bytes}
variable {entriesLeft : Nat} {payload : SettingsPayload}

/-- The reader with more entries counted. -/
def count (reader : HTTP2FrameReader) (entries : Nat) : HTTP2FrameReader :=
  { reader with entriesRead := reader.entriesRead + entries }

/-- Counting entries does not move the reader. -/
theorem Window.count {rest : Bytes} (window : Window reader rest) (entries : Nat) :
    Window (reader.count entries) rest := ⟨window.bound, window.holds⟩

theorem reserveEntries_ok {entries : Nat}
    (ran : reserveEntries entries reader = (.ok (), reached)) : reached = reader.count entries := by
  simp only [reserveEntries, bind_eq_ok, get_eq_ok, raiseIf_eq_ok, set_eq_ok] at ran
  obtain ⟨_, _, ⟨rfl, rfl⟩, _, _, ⟨-, rfl⟩, rfl⟩ := ran
  rfl

/-- Without a budget any number of entries can be reserved. -/
theorem reserveEntries_lenient (lenient : Lenient reader) (entries : Nat) :
    reserveEntries entries reader = (.ok (), reader.count entries) := by
  simp only [reserveEntries, bind_eq_ok, get_eq_ok, raiseIf_eq_ok, set_eq_ok]
  refine ⟨_, _, ⟨rfl, rfl⟩, (), _, ⟨?_, rfl⟩, rfl⟩
  simp [lenient.2]

/-! ### SETTINGS -/

/-- Two octets of identifier and four of value are one parameter. -/
theorem settingsEntries_append {identifier value rest : Bytes} (short : identifier.length = 2)
    (long : value.length = 4) :
    settingsEntries (identifier ++ (value ++ rest)) =
      (bigEndian identifier, bigEndian value) :: settingsEntries rest := by
  match identifier, value, short, long with
  | [_, _], [_, _, _, _], _, _ => rfl

/-- The first parameter of several is two octets of identifier and four of value. -/
theorem split_setting {count : Nat} (size : body.length = 6 * (count + 1)) :
    ∃ identifier value rest : Bytes, body = identifier ++ (value ++ rest) ∧
      identifier.length = 2 ∧ value.length = 4 ∧ rest.length = 6 * count := by
  obtain ⟨identifier, behind, rfl, short⟩ := split_at 2 body (by omega)
  rw [length_append] at size
  obtain ⟨value, rest, rfl, long⟩ := split_at 4 behind (by omega)
  rw [length_append] at size
  exact ⟨identifier, value, rest, rfl, short, long, by omega⟩

/-- A whole number of parameters is what its entries are written as. -/
theorem settingsBytes_settingsEntries (count : Nat) (body : Bytes) (size : body.length = 6 * count) :
    settingsBytes (settingsEntries body) = body ∧
      (settingsEntries body).length = count ∧
      ∀ entry ∈ settingsEntries body, entry.1 < 2 ^ 16 ∧ entry.2 < 2 ^ 32 := by
  induction count generalizing body with
  | zero =>
    obtain rfl : body = [] := length_eq_zero_iff.mp size
    exact ⟨rfl, rfl, by simp [settingsEntries]⟩
  | succ count ih =>
    obtain ⟨identifier, value, rest, rfl, short, long, size⟩ := split_setting size
    obtain ⟨written, counted, narrow⟩ := ih rest size
    rw [settingsEntries_append short long]
    -- Each field is read at its own width, so writing it gives the same octets back.
    have first := toBigEndian_bigEndian identifier
    have second := toBigEndian_bigEndian value
    have firstBound := bigEndian_lt identifier
    have secondBound := bigEndian_lt value
    rw [short] at first firstBound
    rw [long] at second secondBound
    refine ⟨?_, congrArg Nat.succ counted, ?_⟩
    · simp only [settingsBytes, flatMap_cons] at written ⊢
      rw [first, second, written, append_assoc]
    · intro entry member
      rcases mem_cons.mp member with rfl | later
      · exact ⟨by omega, by omega⟩
      · exact narrow entry later

/-- The loop reads every parameter in order, each one inside its range. -/
theorem settingsLoop_ok {settings : Dict Nat Nat} {entries : List (Nat × Nat)}
    (window : Window reader body) (size : body.length = 6 * entriesLeft)
    (ran : settingsLoop entriesLeft settings entries reader = (.ok payload, reached)) :
    payload = { settings := some (settings.update (settingsEntries body))
                entries := entries ++ settingsEntries body } ∧
      (∀ entry ∈ settingsEntries body, SettingInRange entry) ∧
      reached = reader.skip body.length := by
  induction entriesLeft generalizing body reader settings entries with
  | zero =>
    obtain rfl : body = [] := length_eq_zero_iff.mp size
    simp only [settingsLoop, pure_eq_ok] at ran
    obtain ⟨rfl, rfl⟩ := ran
    exact ⟨by simp [settingsEntries, Dict.update], by simp [settingsEntries], rfl⟩
  | succ entriesLeft ih =>
    simp only [settingsLoop, bind_eq_ok, raiseIf_eq_ok] at ran
    obtain ⟨settingId, _, tookId, settingValue, _, tookValue, _, _, ⟨push, rfl⟩, _, _, ⟨windowSize,
      rfl⟩, _, _, ⟨frameSize, rfl⟩, rest⟩ := ran
    obtain ⟨identifier, behind, rfl, short, rfl, rfl, window'⟩ := readUint16_ok window tookId
    obtain ⟨value, left, rfl, long, rfl, rfl, window''⟩ := readUint32_ok window' tookValue
    simp only [length_append, short, long] at size
    obtain ⟨read, ranges, moved⟩ := ih window'' (by omega) rest
    rw [settingsEntries_append short long]
    refine ⟨?_, ?_, ?_⟩
    · rw [read]
      simp [Dict.update]
    · intro entry member
      rcases mem_cons.mp member with rfl | later
      · -- The three guards passed, which is what being in range means.
        simp only [SettingInRange, maxStreamId, defaultMaxFrameSize, maxAllowedFrameSize] at *
        refine ⟨fun same => ?_, fun same => ?_, fun same => ?_⟩
        · by_contra outside
          exact push ⟨same, by omega, by omega⟩
        · by_contra outside
          exact windowSize ⟨same, by omega⟩
        · by_contra outside
          exact frameSize ⟨same, outside⟩
      · exact ranges entry later
    · rw [moved]
      simp only [HTTP2FrameReader.skip, length_append, short, long, Nat.add_assoc]

/-- Parameters inside their ranges can all be read. -/
theorem settingsLoop_complete (settings : Dict Nat Nat) (entries : List (Nat × Nat))
    (window : Window reader body) (size : body.length = 6 * entriesLeft)
    (ranges : ∀ entry ∈ settingsEntries body, SettingInRange entry) :
    ∃ payload reached, settingsLoop entriesLeft settings entries reader = (.ok payload, reached) := by
  induction entriesLeft generalizing body reader settings entries with
  | zero => exact ⟨_, _, rfl⟩
  | succ entriesLeft ih =>
    obtain ⟨identifier, value, rest, rfl, short, long, size⟩ := split_setting size
    rw [settingsEntries_append short long] at ranges
    have behind := window.behind short
    obtain ⟨payload, final, done⟩ := ih (settings.set (bigEndian identifier) (bigEndian value))
      (entries ++ [(bigEndian identifier, bigEndian value)]) (behind.behind long) size
      (fun entry member => ranges entry (mem_cons_of_mem _ member))
    obtain ⟨push, windowSize, frameSize⟩ := ranges _ mem_cons_self
    simp only [settingsLoop, bind_eq_ok, raiseIf_eq_ok]
    simp only [maxStreamId, defaultMaxFrameSize, maxAllowedFrameSize]
    refine ⟨payload, final, _, _, readUint16_append window short, _, _,
      readUint32_append behind long, (), _, ⟨?_, rfl⟩, (), _, ⟨?_, rfl⟩, (), _, ⟨?_, rfl⟩, done⟩
    · rintro ⟨same, zero, one⟩
      rcases push same with low | high
      · exact zero low
      · exact one high
    · rintro ⟨same, excess⟩
      have bound := windowSize same
      omega
    · rintro ⟨same, outside⟩
      exact outside (frameSize same)

/-! ### Strings behind their length -/

/-- Two octets that announce a length are what it is written as, and it fits them. -/
theorem written_length {lengthOctets : Bytes} (width : lengthOctets.length = 2) (length : Nat)
    (announced : bigEndian lengthOctets = length) :
    toBigEndian 2 length = lengthOctets ∧ length < 2 ^ 16 := by
  have written := toBigEndian_bigEndian lengthOctets
  have bound := bigEndian_lt lengthOctets
  rw [width, announced] at written bound
  exact ⟨written, bound⟩

/-- The loop reads one string after another until the payload is used up. -/
theorem originLoop_ok {turns bytesRead : Nat} {origins : List Bytes} {payload : OriginPayload}
    (window : Window reader body) (size : bytesRead + body.length = header.length)
    (enough : body.length ≤ turns)
    (ran : originLoop header turns bytesRead origins reader = (.ok payload, reached)) :
    ∃ members : List Bytes, body = prefixedStrings members ∧
      (∀ origin ∈ members, origin.length < 2 ^ 16) ∧ payload.origins = origins ++ members ∧
      reached = (reader.count members.length).skip body.length := by
  induction turns generalizing body reader bytesRead origins with
  | zero =>
    obtain rfl : body = [] := length_eq_zero_iff.mp (by omega)
    simp only [originLoop, pure_eq_ok] at ran
    obtain ⟨rfl, rfl⟩ := ran
    exact ⟨[], rfl, by simp, by simp, rfl⟩
  | succ turns ih =>
    by_cases more : bytesRead < header.length
    · simp only [originLoop, if_pos more, bind_eq_ok, raiseIf_eq_ok] at ran
      obtain ⟨_, _, ⟨-, rfl⟩, originLen, _, tookLen, _, _, ⟨-, rfl⟩, _, _, reserved, origin, _,
        tookOrigin, rest⟩ := ran
      obtain ⟨lengthOctets, behind, rfl, width, rfl, rfl, window'⟩ := readUint16_ok window tookLen
      obtain rfl := reserveEntries_ok reserved
      obtain ⟨left, rfl, originWidth, rfl, window''⟩ := read_ok (window'.count 1) tookOrigin
      simp only [length_append, width] at size enough
      obtain ⟨octets, narrow⟩ := written_length width origin.length (by omega)
      obtain ⟨members, rfl, fit, kept, moved⟩ := ih window'' (by omega) (by omega) rest
      refine ⟨origin :: members, ?_, ?_, ?_, ?_⟩
      · simp only [prefixedStrings, flatMap_cons, octets, append_assoc]
      · intro member among
        rcases mem_cons.mp among with rfl | later
        · exact narrow
        · exact fit member later
      · rw [kept, append_assoc, singleton_append]
      · rw [moved]
        simp only [HTTP2FrameReader.skip, HTTP2FrameReader.count, length_append,
          length_cons, width]
        congr 1 <;> omega
    · obtain rfl : body = [] := length_eq_zero_iff.mp (by omega)
      simp only [originLoop, if_neg more, pure_eq_ok] at ran
      obtain ⟨rfl, rfl⟩ := ran
      exact ⟨[], rfl, by simp, by simp, rfl⟩

/-- A concatenation of prefixed strings can be read to its end. -/
theorem originLoop_complete (turns bytesRead : Nat) (origins : List Bytes) {members : List Bytes}
    (lenient : Lenient reader) (window : Window reader (prefixedStrings members))
    (size : bytesRead + (prefixedStrings members).length = header.length)
    (fit : ∀ origin ∈ members, origin.length < 2 ^ 16) :
    ∃ payload reached, originLoop header turns bytesRead origins reader = (.ok payload, reached) := by
  induction turns generalizing reader bytesRead origins members with
  | zero => exact ⟨_, _, rfl⟩
  | succ turns ih =>
    cases members with
    | nil =>
      simp only [prefixedStrings, flatMap_nil, length_nil, Nat.add_zero] at size
      simp [originLoop, size]
    | cons origin members =>
      have shape : prefixedStrings (origin :: members) =
          toBigEndian 2 origin.length ++ (origin ++ prefixedStrings members) := by
        simp [prefixedStrings]
      rw [shape] at window size
      simp only [length_append, length_toBigEndian] at size
      have narrow := fit origin mem_cons_self
      have announced : bigEndian (toBigEndian 2 origin.length) = origin.length := by
        rw [bigEndian_toBigEndian]
        exact Nat.mod_eq_of_lt (by omega)
      have behind := (window.behind (length_toBigEndian 2 _)).count 1
      have lenient' : Lenient (((reader.skip 2).count 1).skip origin.length) := lenient
      obtain ⟨payload, final, done⟩ := ih (bytesRead + 2 + origin.length) (origins ++ [origin])
        lenient' behind.skip (by omega)
        (fun member among => fit member (mem_cons_of_mem _ among))
      have tookLen := readUint16_append window (length_toBigEndian 2 _)
      rw [announced] at tookLen
      have more : bytesRead < header.length := by omega
      simp only [originLoop, if_pos more, bind_eq_ok, raiseIf_eq_ok]
      exact ⟨payload, final, (), _, ⟨by omega, rfl⟩, _, _, tookLen, (), _, ⟨by omega, rfl⟩, (), _,
        reserveEntries_lenient (lenient.skip 2) 1, origin, _, read_append behind, done⟩

/-! ### One grammar per frame type -/

section Lists

variable (window : Window reader body) (size : body.length = header.length)

include window size

/-- Accepted SETTINGS are an acknowledgment, or parameters inside their ranges. -/
theorem parseSettings_sound (kind : header.kind = some .settings)
    (ran : parseSettings header reader = (.ok payload, reached)) :
    Read header body (.settings payload) reached ∧
      reached.entriesRead = reader.entriesRead + payload.entries.length := by
  simp only [parseSettings, bind_eq_ok, raiseIf_eq_ok, not_not] at ran
  obtain ⟨_, _, ⟨stream, rfl⟩, rest⟩ := ran
  by_cases flagged : header.has FrameFlags.ack = true
  · simp only [if_pos flagged, bind_eq_ok, raiseIf_eq_ok, pure_eq_ok, not_not] at rest
    obtain ⟨_, _, ⟨empty, rfl⟩, rfl, rfl⟩ := rest
    obtain rfl : body = [] := length_eq_zero_iff.mp (size.trans empty)
    refine ⟨⟨.settingsAck kind flagged, ?_, window⟩, rfl⟩
    simp only [WellFormed, kind, flagged, if_true]
    exact ⟨stream, empty⟩
  · simp only [if_neg flagged, bind_eq_ok, raiseIf_eq_ok, not_not] at rest
    obtain ⟨_, _, ⟨whole, rfl⟩, _, _, reserved, looped⟩ := rest
    obtain rfl := reserveEntries_ok reserved
    have plain : header.has FrameFlags.ack = false := by simpa using flagged
    -- The length is a whole number of parameters, which the loop then reads one by one.
    have parts : body.length = 6 * (header.length / settingsEntrySize) := by
      simp only [settingsEntrySize] at *
      omega
    obtain ⟨rfl, ranges, rfl⟩ := settingsLoop_ok (window.count _) parts looped
    obtain ⟨written, counted, narrow⟩ := settingsBytes_settingsEntries _ body parts
    refine ⟨⟨?_, ?_, ?_⟩, ?_⟩
    · have encoded : Encodes header (settingsBytes (settingsEntries body))
          (.settings { settings := some (Dict.ofItems (settingsEntries body))
                       entries := settingsEntries body }) := .settings kind plain narrow
      rw [written] at encoded
      exact encoded
    · simp only [WellFormed, kind, plain, Bool.false_eq_true, if_false]
      exact ⟨stream, ⟨_, size.symm.trans parts⟩, ranges⟩
    · exact (window.count _).whole.skip
    · rw [nil_append, counted]
      rfl

/-- Well-formed SETTINGS are accepted. -/
theorem parseSettings_complete (kind : header.kind = some .settings) (lenient : Lenient reader)
    (good : WellFormed header body) :
    ∃ payload reached, parseSettings header reader = (.ok payload, reached) := by
  simp only [WellFormed, kind] at good
  obtain ⟨stream, rest⟩ := good
  simp only [parseSettings, bind_eq_ok, raiseIf_eq_ok, not_not]
  by_cases flagged : header.has FrameFlags.ack = true
  · simp only [if_pos flagged, bind_eq_ok, raiseIf_eq_ok, pure_eq_ok, not_not] at rest ⊢
    exact ⟨_, _, (), _, ⟨stream, rfl⟩, (), _, ⟨rest, rfl⟩, rfl, rfl⟩
  · simp only [if_neg flagged, bind_eq_ok, raiseIf_eq_ok, not_not] at rest ⊢
    obtain ⟨⟨entriesLeft, parts⟩, ranges⟩ := rest
    have counted : header.length / settingsEntrySize = entriesLeft := by
      rw [parts]
      exact Nat.mul_div_cancel_left _ (by decide)
    obtain ⟨payload, final, looped⟩ := settingsLoop_complete [] [] (window.count entriesLeft)
      (size.trans parts) ranges
    rw [counted]
    refine ⟨payload, final, (), _, ⟨stream, rfl⟩, (), _, ⟨?_, rfl⟩, (), _,
      reserveEntries_lenient lenient _, looped⟩
    rw [parts]
    exact Nat.mul_mod_right 6 entriesLeft

/-- An accepted ALTSVC is an origin behind its length, and a value. -/
theorem parseAltsvc_sound {payload : AltSvcPayload} (kind : header.kind = some .altsvc)
    (ran : parseAltsvc header reader = (.ok payload, reached)) :
    Read header body (.altsvc payload) reached := by
  simp only [parseAltsvc, bind_eq_ok, raiseIf_eq_ok, pure_eq_ok] at ran
  obtain ⟨_, _, ⟨least, rfl⟩, originLen, _, tookLen, _, _, ⟨fits, rfl⟩, origin, _, tookOrigin,
    value, final, tookValue, rfl, rfl⟩ := ran
  obtain ⟨lengthOctets, behind, rfl, width, rfl, -, window'⟩ := readUint16_ok window tookLen
  obtain ⟨after, rfl, originWidth, -, window''⟩ := read_ok window' tookOrigin
  obtain ⟨left, rfl, valueWidth, -, finished⟩ := read_ok window'' tookValue
  simp only [length_append, width] at size
  obtain rfl : left = [] := length_eq_zero_iff.mp (by omega)
  obtain ⟨octets, narrow⟩ := written_length width origin.length (by omega)
  refine ⟨?_, ?_, finished⟩
  · have encoded : Encodes header (toBigEndian 2 origin.length ++ origin ++ value)
        (.altsvc { origin, fieldValue := value }) := .altsvc kind narrow
    rw [octets, append_assoc] at encoded
    rwa [append_nil]
  · simp only [WellFormed, kind]
    have front : (lengthOctets ++ (origin ++ (value ++ []))).take 2 = lengthOctets := by
      rw [← width, take_left]
    rw [front]
    exact ⟨by omega, by omega⟩

/-- A well-formed ALTSVC is accepted. -/
theorem parseAltsvc_complete (kind : header.kind = some .altsvc) (good : WellFormed header body) :
    ∃ payload reached, parseAltsvc header reader = (.ok payload, reached) := by
  simp only [WellFormed, kind] at good
  obtain ⟨least, fits⟩ := good
  obtain ⟨lengthOctets, rest, rfl, width⟩ := split_at 2 body (by omega)
  rw [← width, take_left] at fits
  simp only [length_append, width] at size fits
  obtain ⟨origin, value, rfl, originWidth⟩ := split_at (bigEndian lengthOctets) rest (by omega)
  have behind := window.behind width
  have tookOrigin := read_append behind
  have tookValue := read_append behind.skip.whole
  rw [length_append] at size
  have remaining : (value.length : Int) = header.length - 2 - bigEndian lengthOctets := by omega
  rw [remaining] at tookValue
  rw [originWidth] at tookOrigin tookValue
  simp only [parseAltsvc, bind_eq_ok, raiseIf_eq_ok, pure_eq_ok]
  exact ⟨_, _, (), _, ⟨by omega, rfl⟩, _, _, readUint16_append window width, (), _,
    ⟨by omega, rfl⟩, origin, _, tookOrigin, value, _, tookValue, rfl, rfl⟩

/-- An accepted ORIGIN is a list of strings behind their lengths. -/
theorem parseOrigin_sound {payload : OriginPayload} (kind : header.kind = some .origin)
    (ran : parseOrigin header reader = (.ok payload, reached)) :
    Read header body (.origin payload) reached ∧
      reached.entriesRead = reader.entriesRead + payload.origins.length := by
  simp only [parseOrigin, bind_eq_ok, raiseIf_eq_ok, not_not] at ran
  obtain ⟨_, _, ⟨stream, rfl⟩, looped⟩ := ran
  obtain ⟨members, rfl, fit, kept, rfl⟩ := originLoop_ok window (by omega) size.le looped
  obtain ⟨origins⟩ := payload
  simp only [nil_append] at kept
  subst kept
  refine ⟨⟨.origin kind fit, ?_, ?_⟩, rfl⟩
  · simp only [WellFormed, kind]
    exact ⟨stream, origins, fit, rfl⟩
  · exact (window.count _).whole.skip

/-- A well-formed ORIGIN is accepted. -/
theorem parseOrigin_complete (kind : header.kind = some .origin) (lenient : Lenient reader)
    (good : WellFormed header body) :
    ∃ payload reached, parseOrigin header reader = (.ok payload, reached) := by
  simp only [WellFormed, kind] at good
  obtain ⟨stream, members, fit, rfl⟩ := good
  obtain ⟨payload, final, looped⟩ := originLoop_complete header.length 0 [] lenient window
    ((Nat.zero_add _).trans size) fit
  simp only [parseOrigin, bind_eq_ok, raiseIf_eq_ok, not_not]
  exact ⟨payload, final, (), _, ⟨stream, rfl⟩, looped⟩

end Lists

end SolveTls.HTTP2FrameReader
