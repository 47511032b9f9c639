import SolveTls.Proofs.Http2.FrameLists

/-! What the octets of a built frame say when they are read again. -/

namespace SolveTls

open Octets HTTP2FrameBuilder List

variable {items : Dict Nat Nat}

/-- The header of a built frame holds what it was built with, as far as the fields can hold it. -/
theorem headerOf_frameBytes (type flags streamId : Nat) (payload : Bytes) :
    headerOf (frameBytes type flags streamId payload) = {
      length := payload.length % 256 ^ 3
      type := type % 256 ^ 1
      flags := flags % 256 ^ 1
      streamId := streamId % 256 ^ 4 % 2 ^ 31 } := by
  -- Each field stands at the offset that the widths before it add up to.
  have parts : ∀ {first second third fourth : Bytes}, first.length = 3 → second.length = 1 →
      third.length = 1 → fourth.length = 4 →
      headerOf (first ++ second ++ third ++ fourth ++ payload) = {
        length := bigEndian first
        type := bigEndian second
        flags := bigEndian third
        streamId := bigEndian fourth % 2 ^ 31 } := by
    intro first second third fourth width₁ width₂ width₃ width₄
    have passed₁ : first.drop 4 = [] := drop_eq_nil_of_le (by omega)
    have passed₂ : first.drop 5 = [] := drop_eq_nil_of_le (by omega)
    have passed₃ : second.drop 2 = [] := drop_eq_nil_of_le (by omega)
    simp [headerOf, drop_append, width₁, width₂, width₃, width₄, passed₁,
      passed₂, passed₃]
  rw [frameBytes, parts (length_toBigEndian _ _) (length_toBigEndian _ _) (length_toBigEndian _ _)
    (length_toBigEndian _ _)]
  simp only [bigEndian_toBigEndian]

/-- Behind the header stands the payload. -/
theorem drop_frameBytes (type flags streamId : Nat) (payload : Bytes) :
    (frameBytes type flags streamId payload).drop frameHeaderSize = payload := by
  have width : (toBigEndian 3 payload.length ++ toBigEndian 1 type ++ toBigEndian 1 flags ++
      toBigEndian 4 streamId).length = frameHeaderSize := by
    simp [frameHeaderSize]
  rw [frameBytes, ← width, drop_left]

/-- The octets of a HEADERS frame with neither priority nor padding. -/
def headersBytes (streamId : Nat) (headerBlock : Bytes) (endStream endHeaders : Bool) : Bytes :=
  frameBytes FrameType.headers.code
    ((if endStream then FrameFlags.endStream else 0) |||
      (if endHeaders then FrameFlags.endHeaders else 0)) streamId headerBlock

/-- Such a frame has the flags it was built with and no others. -/
theorem headersBytes_flags (streamId : Nat) (headerBlock : Bytes) (endStream endHeaders : Bool) :
    (headerOf (headersBytes streamId headerBlock endStream endHeaders)).has
      FrameFlags.endStream = endStream ∧
    (headerOf (headersBytes streamId headerBlock endStream endHeaders)).has
      FrameFlags.endHeaders = endHeaders ∧
    (headerOf (headersBytes streamId headerBlock endStream endHeaders)).has
      FrameFlags.priority = false ∧
    (headerOf (headersBytes streamId headerBlock endStream endHeaders)).has
      FrameFlags.padded = false := by
  -- Two flags can be set, which makes four cases to compute.
  simp only [headersBytes, headerOf_frameBytes, FrameHeader.has]
  cases endStream <;> cases endHeaders <;> decide

/-- A built frame is its header and its payload. -/
theorem length_frameBytes (type flags streamId : Nat) (payload : Bytes) :
    (frameBytes type flags streamId payload).length = frameHeaderSize + payload.length := by
  simp only [frameBytes, length_append, length_toBigEndian, frameHeaderSize]

/-- A built frame is as long as its length field says. -/
theorem isWireFrame_frameBytes {type flags streamId : Nat} {payload : Bytes}
    (short : payload.length ≤ maxAllowedFrameSize) :
    IsWireFrame (frameBytes type flags streamId payload) := by
  have fits : payload.length % 256 ^ 3 = payload.length := by
    apply Nat.mod_eq_of_lt
    simp only [maxAllowedFrameSize] at short
    omega
  rw [IsWireFrame, headerOf_frameBytes, fits, length_frameBytes]
  exact ⟨Nat.le_add_right .., rfl⟩

/-- What is built is a whole frame with this payload. -/
theorem buildFrame_ok {type flags streamId : Nat} {payload wire : Bytes}
    (built : buildFrame type flags streamId payload = .ok wire) :
    wire = frameBytes type flags streamId payload ∧ IsWireFrame wire := by
  unfold buildFrame at built
  split at built
  · cases built
  · rename_i short
    split at built
    · cases built
    · obtain rfl := Except.ok.inj built
      exact ⟨rfl, isWireFrame_frameBytes (Nat.not_lt.mp short)⟩

section Fitting

variable (fit : ∀ item ∈ items, item.1 < 2 ^ 16 ∧ item.2 < 2 ^ 32)

include fit

/-- Items that fit their fields are read as they were written. -/
theorem settingsEntries_settingsBytes :
    settingsEntries (settingsBytes items) = items := by
  -- The induction is on the items, of which each takes six octets.
  induction items with
  | nil => rfl
  | cons item rest ih =>
    obtain ⟨identifier, value⟩ := item
    obtain ⟨small, bounded⟩ := fit _ (mem_cons_self ..)
    have others := ih fun other among => fit other (mem_cons_of_mem _ among)
    have front : settingsBytes ((identifier, value) :: rest) =
        toBigEndian 2 identifier ++ (toBigEndian 4 value ++
          settingsBytes rest) := by
      simp [settingsBytes]
    rw [front, HTTP2FrameReader.settingsEntries_append (length_toBigEndian ..)
      (length_toBigEndian ..), others, bigEndian_toBigEndian,
      bigEndian_toBigEndian]
    have same : identifier % 256 ^ 2 = identifier := Nat.mod_eq_of_lt small
    have same' : value % 256 ^ 4 = value := Nat.mod_eq_of_lt bounded
    rw [same, same']

omit fit in
/-- Each item takes six octets. -/
theorem length_settingsBytes (items : Dict Nat Nat) :
    (settingsBytes items).length = 6 * items.length := by
  induction items with
  | nil => rfl
  | cons item rest ih =>
    simp only [settingsBytes, flatMap_cons, length_append, length_toBigEndian,
      length_cons] at ih ⊢
    omega

/-- Items that fit their fields are packed one by one. -/
theorem mapM_packSetting :
    items.mapM packSetting =
      .ok (items.map fun item => toBigEndian 2 item.1 ++ toBigEndian 4 item.2) := by
  induction items with
  | nil => rfl
  | cons item rest ih =>
    obtain ⟨⟨small, bounded⟩, later⟩ := forall_mem_cons.mp fit
    have packed : packSetting item = .ok (toBigEndian 2 item.1 ++ toBigEndian 4 item.2) := by
      rw [packSetting, if_neg (Nat.not_le.mpr small), if_neg (Nat.not_le.mpr bounded)]
    exact Fallible.mapM_cons_eq_ok.mpr ⟨_, _, packed, ih later, rfl⟩

omit fit in
/-- Packing goes through only if every item fits its fields. -/
theorem fit_of_packed {entries : List Bytes} (packed : items.mapM packSetting = .ok entries) :
    ∀ item ∈ items, item.1 < 2 ^ 16 ∧ item.2 < 2 ^ 32 := by
  -- The induction is on the items; the first one that does not fit ends the loop.
  induction items generalizing entries with
  | nil => simp
  | cons item rest ih =>
    obtain ⟨octets, more, first, others, -⟩ := Fallible.mapM_cons_eq_ok.mp packed
    refine forall_mem_cons.mpr ⟨?_, ih others⟩
    unfold packSetting at first
    split at first
    · cases first
    · split at first
      · cases first
      · omega

/-- Items that fit their fields are put into one frame. -/
theorem buildSettingsFrame_fit :
    buildSettingsFrame items false =
      buildFrame FrameType.settings.code 0 0 (settingsBytes items) := by
  simp only [buildSettingsFrame, Bool.false_eq_true, if_false, mapM_packSetting fit]
  rfl

/-- Items that fit their fields and a frame are built into one. -/
theorem buildSettingsFrame_eq (short : (settingsBytes items).length ≤ maxAllowedFrameSize) :
    buildSettingsFrame items false =
      .ok (frameBytes FrameType.settings.code 0 0 (settingsBytes items)) := by
  rw [buildSettingsFrame_fit fit, buildFrame, if_neg (Nat.not_lt.mpr short), if_neg (by decide)]

/-- A frame of items that fit their fields can only be too long. -/
theorem buildSettingsFrame_error {fault : BuildError}
    (failed : buildSettingsFrame items false = .error fault) :
    ∃ message, fault = .value message := by
  rw [buildSettingsFrame_fit fit, buildFrame] at failed
  split at failed
  · exact ⟨_, (Except.error.inj failed).symm⟩
  · rw [if_neg (by decide)] at failed
    cases failed

end Fitting

/-- A built SETTINGS frame has the octets of its items, all of which fit their fields. -/
theorem buildSettingsFrame_ok {wire : Bytes} (built : buildSettingsFrame items false = .ok wire) :
    wire = frameBytes FrameType.settings.code 0 0 (settingsBytes items) ∧ IsWireFrame wire ∧
      ∀ item ∈ items, item.1 < 2 ^ 16 ∧ item.2 < 2 ^ 32 := by
  cases packing : items.mapM packSetting with
  | error raised =>
    simp only [buildSettingsFrame, Bool.false_eq_true, if_false, packing] at built
    cases built
  | ok entries =>
    have fit := fit_of_packed packing
    rw [buildSettingsFrame_fit fit] at built
    obtain ⟨wired, framed⟩ := buildFrame_ok built
    exact ⟨wired, framed, fit⟩

end SolveTls
