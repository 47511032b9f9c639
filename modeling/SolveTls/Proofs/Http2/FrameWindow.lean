import SolveTls.Http2.Frames

/-! How the frame reader moves through its buffer. -/

namespace SolveTls.HTTP2FrameReader

open Octets Fallible List

variable {reader reached : HTTP2FrameReader} {taken rest : Bytes} {value : Nat}

/-- The octets not read yet: of the current payload, or of the whole buffer outside one. -/
structure Window (reader : HTTP2FrameReader) (rest : Bytes) : Prop where
  bound : reader.payloadEnd.getD reader.data.length = reader.pos + rest.length
  holds : ∃ after, reader.data.drop reader.pos = rest ++ after

/-- The reader with some octets behind it. -/
def skip (reader : HTTP2FrameReader) (count : Nat) : HTTP2FrameReader :=
  { reader with pos := reader.pos + count }

@[simp] theorem skip_data (reader : HTTP2FrameReader) (count : Nat) :
    (reader.skip count).data = reader.data := rfl

@[simp] theorem skip_payloadEnd (reader : HTTP2FrameReader) (count : Nat) :
    (reader.skip count).payloadEnd = reader.payloadEnd := rfl

@[simp] theorem skip_pos (reader : HTTP2FrameReader) (count : Nat) :
    (reader.skip count).pos = reader.pos + count := rfl

/-- Octets at the front of a window leave it when they are skipped. -/
theorem Window.skip (window : Window reader (taken ++ rest)) :
    Window (reader.skip taken.length) rest := by
  obtain ⟨after, held⟩ := window.holds
  constructor
  · rw [skip_payloadEnd, skip_data, window.bound, skip_pos, length_append, Nat.add_assoc]
  · -- Dropping the skipped octets leaves the rest at the front of the buffer.
    refine ⟨after, ?_⟩
    show reader.data.drop (reader.pos + taken.length) = rest ++ after
    rw [← drop_drop, held, append_assoc, drop_left]

/-- Skipping a known number of octets leaves what stands behind them. -/
theorem Window.behind {count : Nat} (window : Window reader (taken ++ rest))
    (width : taken.length = count) : Window (reader.skip count) rest :=
  width ▸ window.skip

/-- A window is followed by nothing. -/
theorem Window.whole (window : Window reader rest) : Window reader (rest ++ []) := by
  rwa [append_nil]

/-- Enough octets split after any number of them. -/
theorem split_at (count : Nat) (octets : Bytes) (enough : count ≤ octets.length) :
    ∃ front back : Bytes, octets = front ++ back ∧ front.length = count :=
  ⟨octets.take count, octets.drop count, (take_append_drop count octets).symm,
    length_take_of_le enough⟩

/-- A read that fits the window returns the octets at its front. -/
theorem read_append (window : Window reader (taken ++ rest)) :
    read taken.length reader = (.ok taken, reader.skip taken.length) := by
  obtain ⟨after, held⟩ := window.holds
  have bound := window.bound
  rw [length_append] at bound
  -- The requested octets end at or before the end of the payload, so no error is raised.
  have fits : ¬ ((taken.length : Int) < 0 ∨
      (reader.pos : Int) + taken.length > (reader.payloadEnd.getD reader.data.length : Nat)) := by
    rw [bound]
    omega
  simp only [read, bind_apply, get_apply, raiseIf_neg fits, pure_apply, set_apply, held,
    append_assoc, Int.toNat_natCast, take_left, HTTP2FrameReader.skip]

/-- A read that returned took as many octets as it was asked for, off the front of the window. -/
theorem read_ok {n : Int} (window : Window reader rest)
    (ran : read n reader = (.ok taken, reached)) :
    ∃ left, rest = taken ++ left ∧ (taken.length : Int) = n ∧
      reached = reader.skip taken.length ∧ Window reached left := by
  obtain ⟨after, held⟩ := window.holds
  have bound := window.bound
  -- The guard passed, so the count is a natural number within the window.
  by_cases short : n < 0 ∨ (reader.pos : Int) + n > (reader.payloadEnd.getD reader.data.length : Nat)
  · simp [read, bind_apply, short] at ran
  · rw [bound] at short
    obtain ⟨count, rfl⟩ : ∃ count : Nat, n = count := ⟨n.toNat, by omega⟩
    obtain ⟨front, left, rfl, rfl⟩ := split_at count rest (by omega)
    have expected := read_append window
    rw [ran] at expected
    simp only [Prod.mk.injEq, Except.ok.injEq] at expected
    obtain ⟨rfl, rfl⟩ := expected
    exact ⟨left, rfl, rfl, rfl, window.skip⟩

/-- An octet read is the first one of the window. -/
theorem readUint8_ok (window : Window reader rest) (ran : readUint8 reader = (.ok value, reached)) :
    ∃ (octet : UInt8) (left : Bytes), rest = octet :: left ∧ value = octet.toNat ∧
      reached = reader.skip 1 ∧ Window reached left := by
  obtain ⟨taken, middle, took, returned⟩ := bind_eq_ok.mp ran
  simp only [pure_apply, Prod.mk.injEq, Except.ok.injEq] at returned
  obtain ⟨rfl, rfl⟩ := returned
  obtain ⟨left, rfl, width, moved, window'⟩ := read_ok window took
  -- One octet is a list of length one.
  obtain ⟨octet, rfl⟩ : ∃ octet, taken = [octet] := length_eq_one_iff.mp (by omega)
  exact ⟨octet, left, rfl, by simp [bigEndian], moved, window'⟩

/-- An integer read is held by as many octets at the front of the window as it is wide. -/
theorem readUint_ok {count : Nat} (window : Window reader rest)
    (ran : (do let taken ← read count; pure (bigEndian taken)) reader = (.ok value, reached)) :
    ∃ taken left, rest = taken ++ left ∧ taken.length = count ∧ value = bigEndian taken ∧
      reached = reader.skip count ∧ Window reached left := by
  simp only [bind_eq_ok, pure_eq_ok] at ran
  obtain ⟨taken, middle, took, rfl, rfl⟩ := ran
  obtain ⟨left, split, width, moved, window'⟩ := read_ok window took
  obtain rfl : taken.length = count := by omega
  exact ⟨taken, left, split, rfl, rfl, moved, window'⟩

/-- An integer that is in the window is read from its octets. -/
theorem readUint_append {count : Nat} (window : Window reader (taken ++ rest))
    (width : taken.length = count) :
    (do let taken ← read count; pure (bigEndian taken)) reader =
      (.ok (bigEndian taken), reader.skip count) := by
  subst width
  simp only [bind_eq_ok, pure_eq_ok]
  exact ⟨taken, _, read_append window, rfl, rfl⟩

/-- A two-octet integer read is held by the first two octets of the window. -/
theorem readUint16_ok (window : Window reader rest)
    (ran : readUint16 reader = (.ok value, reached)) :
    ∃ taken left, rest = taken ++ left ∧ taken.length = 2 ∧ value = bigEndian taken ∧
      reached = reader.skip 2 ∧ Window reached left :=
  readUint_ok window ran

/-- A four-octet integer read is held by the first four octets of the window. -/
theorem readUint32_ok (window : Window reader rest)
    (ran : readUint32 reader = (.ok value, reached)) :
    ∃ taken left, rest = taken ++ left ∧ taken.length = 4 ∧ value = bigEndian taken ∧
      reached = reader.skip 4 ∧ Window reached left :=
  readUint_ok window ran

end SolveTls.HTTP2FrameReader
