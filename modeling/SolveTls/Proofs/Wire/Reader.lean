import SolveTls.Tls.HelloFormat

/-! A reader returns a value exactly where the encoding of that value comes next. -/

namespace SolveTls

open Fallible List Octets

namespace ByteReader

variable {α : Type} {reader next : ByteReader} {bytes blob : Bytes} {n value : Nat}
variable {action element : ReaderM α} {fits : α → Prop} {encode : α → Bytes} {β : Type}
  {lengthBytes : Nat} {values : List α}

/-- The position is within the buffer. -/
def Valid (self : ByteReader) : Prop := self.pos ≤ self.data.length

/-- The octets that were not read yet. -/
def rest (self : ByteReader) : Bytes := self.data.drop self.pos

theorem valid_start (data : Bytes) : Valid { data } := Nat.zero_le _

theorem rest_start (data : Bytes) : rest { data } = data := rfl

theorem length_rest (reader : ByteReader) : reader.rest.length = reader.data.length - reader.pos :=
  length_drop

theorem hasMore_iff : reader.hasMore = true ↔ reader.rest ≠ [] := by
  unfold hasMore rest
  rw [decide_eq_true_iff, Ne, drop_eq_nil_iff]
  omega

/-- The unread octets tell where in the buffer a reader is. -/
theorem eq_of_rest (valid : reader.Valid) (nextValid : next.Valid) (same : next.data = reader.data)
    (ahead : next.rest = reader.rest) : next = reader := by
  have lengths := congrArg List.length ahead
  unfold Valid at valid nextValid
  rw [length_rest, length_rest, same] at lengths
  rw [same] at nextValid
  have position : next.pos = reader.pos := by omega
  obtain ⟨data, pos⟩ := next
  obtain ⟨data', pos'⟩ := reader
  simp only at same position
  rw [same, position]

/-- A reader that has passed the octets in front of some others. -/
theorem exists_behind {front tail : Bytes} (valid : reader.Valid)
    (ahead : reader.rest = front ++ tail) :
    ∃ reached : ByteReader, reached.Valid ∧ reached.data = reader.data ∧ reached.rest = tail := by
  have lengths := congrArg List.length ahead
  rw [length_append, length_rest] at lengths
  unfold Valid at valid
  refine ⟨{ reader with pos := reader.pos + front.length }, ?_, rfl, ?_⟩
  · show reader.pos + front.length ≤ reader.data.length
    omega
  · show reader.data.drop (reader.pos + front.length) = tail
    rw [← drop_drop]
    change reader.data.drop reader.pos = _ at ahead
    rw [ahead, drop_left]

/-- An action reads values of this encoding, and nothing else. -/
def Inverts (action : ReaderM α) (fits : α → Prop) (encode : α → Bytes) : Prop :=
  ∀ (reader next : ByteReader) (value : α), reader.Valid →
    (action reader = (.ok value, next) ↔
      fits value ∧ next.Valid ∧ next.data = reader.data ∧ reader.rest = encode value ++ next.rest)

theorem Inverts.eq_ok (inverts : Inverts action fits encode) (valid : reader.Valid) {value : α} :
    action reader = (.ok value, next) ↔
      fits value ∧ next.Valid ∧ next.data = reader.data ∧ reader.rest = encode value ++ next.rest :=
  inverts reader next value valid

/-- So many octets are read where there are so many. -/
theorem inverts_read (n : Nat) : Inverts (read n) (fun bytes => bytes.length = n) id := by
  intro reader next bytes valid
  unfold read
  simp only [bind_eq_ok, get_eq_ok, raiseIf_eq_ok, set_eq_ok, pure_eq_ok]
  constructor
  · rintro ⟨self, reached, ⟨rfl, rfl⟩, _, _, ⟨enough, rfl⟩, _, _, rfl, rfl, rfl⟩
    have available : reader.pos + n ≤ reader.data.length := Nat.le_of_not_lt enough
    refine ⟨?_, available, rfl, ?_⟩
    · rw [length_take, length_drop]
      omega
    · rw [rest, rest, ← drop_drop]
      exact (take_append_drop n _).symm
  · rintro ⟨width, nextValid, same, ahead⟩
    rw [id_eq] at ahead
    have lengths := congrArg List.length ahead
    rw [length_append, length_rest, width] at lengths
    unfold Valid at valid
    have available : ¬ reader.pos + n > reader.data.length := by omega
    refine ⟨reader, reader, ⟨rfl, rfl⟩, (), reader, ⟨available, rfl⟩, (), _, rfl, ?_, ?_⟩
    · change reader.data.drop reader.pos = _ at ahead
      rw [ahead, ← width, take_left]
    · -- What is left to read fixes the position.
      refine eq_of_rest nextValid ?_ same.symm ?_
      · show reader.pos + n ≤ reader.data.length
        omega
      · show reader.data.drop (reader.pos + n) = next.rest
        change reader.data.drop reader.pos = _ at ahead
        rw [← drop_drop, ahead, ← width, drop_left]

variable {following : α → ReaderM β}

/-- What follows goes on from the octets behind the value. -/
theorem Inverts.ok_of_bind (inverts : Inverts action fits encode) (valid : reader.Valid)
    {result : β} (returned : (action >>= following) reader = (.ok result, next)) :
    ∃ value reached, fits value ∧ reached.Valid ∧ reached.data = reader.data ∧
      reader.rest = encode value ++ reached.rest ∧ following value reached = (.ok result, next) := by
  obtain ⟨value, reached, first, second⟩ := bind_eq_ok.mp returned
  obtain ⟨fit, reachedValid, same, ahead⟩ := (inverts.eq_ok valid).mp first
  exact ⟨value, reached, fit, reachedValid, same, ahead, second⟩

/-- Where the encoding of a value comes next, the value is read and what follows goes on. -/
theorem Inverts.bind_of_rest (inverts : Inverts action fits encode) {value : α} {tail : Bytes}
    {outcome : Except String β × ByteReader} (valid : reader.Valid) (fit : fits value)
    (ahead : reader.rest = encode value ++ tail)
    (follows : ∀ reached : ByteReader, reached.Valid → reached.data = reader.data →
      reached.rest = tail → following value reached = outcome) :
    (action >>= following) reader = outcome := by
  obtain ⟨reached, reachedValid, same, behind⟩ := exists_behind valid ahead
  rw [← behind] at ahead
  have read := (inverts.eq_ok valid).mpr ⟨fit, reachedValid, same, ahead⟩
  rw [bind_apply, read]
  exact follows reached reachedValid same behind

variable {fits' : β → Prop}

/-- A change of the value is a change of the encoding. -/
theorem Inverts.map (inverts : Inverts action fits encode) (change : α → β) (back : β → α)
    (there : ∀ value, fits value → fits' (change value) ∧ back (change value) = value)
    (again : ∀ value, fits' value → fits (back value) ∧ change (back value) = value) :
    Inverts (change <$> action) fits' (fun value => encode (back value)) := by
  intro reader next value valid
  rw [map_eq_bind]
  simp only [bind_eq_ok, pure_eq_ok, inverts.eq_ok valid]
  constructor
  · rintro ⟨read, reached, ⟨fit, nextValid, same, ahead⟩, rfl, rfl⟩
    refine ⟨(there read fit).1, nextValid, same, ?_⟩
    rw [(there read fit).2]
    exact ahead
  · rintro ⟨fit, nextValid, same, ahead⟩
    exact ⟨back value, next, ⟨(again value fit).1, nextValid, same, ahead⟩, (again value fit).2, rfl⟩

/-- A number of some width is read where it is written in that width. -/
theorem inverts_uint (width : Nat) :
    Inverts (bigEndian <$> read width) (fun value => value < 256 ^ width)
      (fun value => toBigEndian width value) := by
  refine (inverts_read width).map bigEndian (toBigEndian width) ?_ ?_
  · intro bytes length
    rw [← length]
    exact ⟨bigEndian_lt bytes, toBigEndian_bigEndian bytes⟩
  · intro value small
    refine ⟨length_toBigEndian width value, ?_⟩
    rw [bigEndian_toBigEndian, Nat.mod_eq_of_lt small]

theorem inverts_readUint8 :
    Inverts readUint8 (fun value => value < 256 ^ 1) (toBigEndian 1) :=
  inverts_uint 1

theorem inverts_readUint16 : Inverts readUint16 (fun value => value < 2 ^ 16) encodeUint16 :=
  inverts_uint 2

/-- Octets are read behind their length. -/
theorem inverts_readVector (known : lengthBytes = 1 ∨ lengthBytes = 2) :
    Inverts (readVector lengthBytes) (fun content => content.length < 256 ^ lengthBytes)
      (encodeVector lengthBytes) := by
  intro reader next content valid
  have reads : readVector lengthBytes = (bigEndian <$> read lengthBytes) >>= read := by
    rcases known with rfl | rfl <;> rfl
  rw [reads, bind_eq_ok]
  constructor
  · rintro ⟨width, reached, first, second⟩
    obtain ⟨small, reachedValid, same, ahead⟩ := ((inverts_uint lengthBytes).eq_ok valid).mp first
    obtain ⟨wide, nextValid, same', ahead'⟩ := ((inverts_read width).eq_ok reachedValid).mp second
    refine ⟨?_, nextValid, same'.trans same, ?_⟩
    · show content.length < 256 ^ lengthBytes
      rw [wide]
      exact small
    · rw [ahead, ahead', encodeVector, wide, append_assoc]
      rfl
  · rintro ⟨small, nextValid, same, ahead⟩
    -- The reader stands behind the length before it reads the content.
    rw [encodeVector, append_assoc] at ahead
    obtain ⟨reached, reachedValid, kept, behind⟩ := exists_behind valid ahead
    refine ⟨content.length, reached, ?_, ?_⟩
    · rw [(inverts_uint lengthBytes).eq_ok valid, behind]
      exact ⟨small, reachedValid, kept, ahead⟩
    · rw [(inverts_read content.length).eq_ok reachedValid]
      exact ⟨rfl, nextValid, same.trans kept.symm, behind⟩

theorem inverts_readVector_one :
    Inverts (readVector 1) (fun content => content.length < 2 ^ 8) (encodeVector 1) :=
  inverts_readVector (.inl rfl)

theorem inverts_readVector_two :
    Inverts (readVector 2) (fun content => content.length < 2 ^ 16) (encodeVector 2) :=
  inverts_readVector (.inr rfl)

/-- Octets are the numbers they hold. -/
theorem map_ofNat_toNat (octets : Bytes) : (octets.map UInt8.toNat).map UInt8.ofNat = octets := by
  rw [map_map]
  conv_rhs => rw [← map_id octets]
  congr 1
  funext octet
  simp

theorem lt_of_mem_map_toNat (octets : Bytes) : ∀ value ∈ octets.map UInt8.toNat, value < 2 ^ 8 := by
  intro value member
  obtain ⟨octet, -, rfl⟩ := mem_map.mp member
  exact octet.toNat_lt

/-- Small numbers are octets. -/
theorem map_toNat_ofNat {values : List Nat} (small : ∀ value ∈ values, value < 2 ^ 8) :
    (values.map UInt8.ofNat).map UInt8.toNat = values := by
  rw [map_map]
  conv_rhs => rw [← map_id values]
  apply map_congr_left
  intro value member
  simpa using small value member

/-- Where nothing is left to read, there are no elements. -/
theorem readNone_iff (takes : ∀ value, fits value → encode value ≠ []) (valid : reader.Valid)
    (empty : reader.rest = []) :
    ([] = values ∧ reader = next) ↔
      (∀ value ∈ values, fits value) ∧ next.Valid ∧ next.data = reader.data ∧ next.rest = [] ∧
        reader.rest = values.flatMap encode := by
  constructor
  · rintro ⟨rfl, rfl⟩
    exact ⟨by simp, valid, rfl, empty, empty⟩
  · rintro ⟨fit, nextValid, same, done, ahead⟩
    refine ⟨?_, (eq_of_rest valid nextValid same (done.trans empty.symm)).symm⟩
    cases values with
    | nil => rfl
    | cons first others =>
      -- The first element would have to be encoded in no octet.
      rw [empty, flatMap_cons] at ahead
      have nothing := (append_eq_nil_iff.mp ahead.symm).1
      exact absurd nothing (takes first (fit first (mem_cons_self ..)))

/-- Elements are read one after the other up to the end of the buffer. -/
theorem readAll_eq_ok (inverts : Inverts element fits encode)
    (takes : ∀ value, fits value → encode value ≠ []) {turns : Nat} (valid : reader.Valid)
    (enough : reader.rest.length ≤ turns) :
    readAll element turns reader = (.ok values, next) ↔
      (∀ value ∈ values, fits value) ∧ next.Valid ∧ next.data = reader.data ∧ next.rest = [] ∧
        reader.rest = values.flatMap encode := by
  -- The induction is on the turns; each element uses up an octet at least.
  induction turns generalizing reader values with
  | zero =>
    have empty : reader.rest = [] := length_eq_zero_iff.mp (Nat.le_zero.mp enough)
    rw [readAll, pure_eq_ok]
    exact readNone_iff takes valid empty
  | succ turns ih =>
    have turn : readAll element (turns + 1) reader =
        (if reader.hasMore then do
          let first ← element
          let rest ← readAll element turns
          return first :: rest
        else return []) reader := rfl
    rw [turn]
    by_cases more : reader.hasMore = true
    · rw [if_pos more]
      simp only [bind_eq_ok, pure_eq_ok]
      have shorter : ∀ first (reached : ByteReader), fits first →
          reader.rest = encode first ++ reached.rest → reached.rest.length ≤ turns := by
        intro first reached fit ahead
        have lengths := congrArg List.length ahead
        have some := length_pos_iff.mpr (takes first fit)
        rw [length_append] at lengths
        omega
      constructor
      · rintro ⟨first, reached, read, others, last, readOthers, rfl, rfl⟩
        obtain ⟨fit, reachedValid, same, ahead⟩ := (inverts.eq_ok valid).mp read
        obtain ⟨fits', lastValid, same', done, ahead'⟩ :=
          (ih reachedValid (shorter first reached fit ahead)).mp readOthers
        refine ⟨?_, lastValid, same'.trans same, done, ?_⟩
        · intro value member
          rcases mem_cons.mp member with rfl | member
          · exact fit
          · exact fits' value member
        · rw [ahead, ahead', flatMap_cons]
      · rintro ⟨fit, nextValid, same, done, ahead⟩
        cases values with
        | nil => exact absurd ahead (hasMore_iff.mp more)
        | cons first others =>
          rw [flatMap_cons] at ahead
          obtain ⟨reached, reachedValid, kept, behind⟩ := exists_behind valid ahead
          rw [← behind] at ahead
          have fitFirst := fit first (mem_cons_self ..)
          refine ⟨first, reached, ?_, others, next, ?_, rfl, rfl⟩
          · exact (inverts.eq_ok valid).mpr ⟨fitFirst, reachedValid, kept, ahead⟩
          · rw [ih reachedValid (shorter first reached fitFirst ahead)]
            refine ⟨?_, nextValid, same.trans kept.symm, done, behind⟩
            intro value member
            exact fit value (mem_cons_of_mem _ member)
    · rw [if_neg more, pure_eq_ok]
      have empty : reader.rest = [] := by
        by_contra some
        exact more (hasMore_iff.mpr some)
      exact readNone_iff takes valid empty

/-- A second reader finds the elements of a blob, and the first one stays where it is. -/
theorem within_eq_ok (inverts : Inverts element fits encode)
    (takes : ∀ value, fits value → encode value ≠ []) :
    within blob element reader = (.ok values, next) ↔
      (∀ value ∈ values, fits value) ∧ blob = values.flatMap encode ∧ reader = next := by
  have read (last : ByteReader) :
      readAll element blob.length { data := blob } = (.ok values, last) ↔
        (∀ value ∈ values, fits value) ∧ last.Valid ∧ last.data = blob ∧ last.rest = [] ∧
          blob = values.flatMap encode :=
    readAll_eq_ok inverts takes (valid_start blob) (Nat.le_refl _)
  rw [within, fromExcept_eq_ok]
  constructor
  · rintro ⟨returned, rfl⟩
    have ran : readAll element blob.length { data := blob } =
        (.ok values, (readAll element blob.length { data := blob }).2) := by
      rw [← returned]
    obtain ⟨fit, _, _, _, same⟩ := (read _).mp ran
    exact ⟨fit, same, rfl⟩
  · rintro ⟨fit, same, rfl⟩
    -- The second reader ends behind the last element.
    have ended : rest { data := blob, pos := blob.length } = [] := drop_length
    have ran := (read { data := blob, pos := blob.length }).mpr
      ⟨fit, Nat.le_refl _, rfl, ended, same⟩
    exact ⟨by rw [ran], rfl⟩

/-- A number takes two octets. -/
theorem encodeUint16_ne_nil (value : Nat) : encodeUint16 value ≠ [] := by
  intro empty
  have width := length_toBigEndian 2 value
  rw [encodeUint16] at empty
  rw [empty] at width
  cases width

/-- The numbers of a blob fill it. -/
theorem within_readUint16_eq_ok {values : List Nat} :
    within blob readUint16 reader = (.ok values, next) ↔
      (∀ value ∈ values, value < 2 ^ 16) ∧ blob = values.flatMap encodeUint16 ∧ reader = next :=
  within_eq_ok inverts_readUint16 fun value _ => encodeUint16_ne_nil value

/-- The elements fit their fields, and all of them fit behind the length. -/
def VectorFits (lengthBytes : Nat) (fits : α → Prop) (encode : α → Bytes) (elements : List α) : Prop :=
  (∀ element ∈ elements, fits element) ∧ (elements.flatMap encode).length < 256 ^ lengthBytes

/-- The elements one after the other, behind their common length. -/
def encodeElements (lengthBytes : Nat) (encode : α → Bytes) (elements : List α) : Bytes :=
  encodeVector lengthBytes (elements.flatMap encode)

/-- Elements are read where they stand behind their common length and fill it. -/
theorem inverts_elements (known : lengthBytes = 1 ∨ lengthBytes = 2)
    (inverts : Inverts element fits encode) (takes : ∀ value, fits value → encode value ≠ []) :
    Inverts (readVector lengthBytes >>= fun blob => within blob element)
      (VectorFits lengthBytes fits encode) (encodeElements lengthBytes encode) := by
  intro reader next values valid
  rw [bind_eq_ok]
  simp only [(inverts_readVector known).eq_ok valid, within_eq_ok inverts takes]
  constructor
  · rintro ⟨vector, reached, ⟨short, reachedValid, same, ahead⟩, small, rfl, rfl⟩
    exact ⟨⟨small, short⟩, reachedValid, same, ahead⟩
  · rintro ⟨⟨small, short⟩, nextValid, same, ahead⟩
    exact ⟨_, next, ⟨short, nextValid, same, ahead⟩, small, rfl, rfl⟩

/-- Two values one after the other are read where both encodings are. -/
theorem Inverts.pair {first : ReaderM α} {second : ReaderM β} {encode' : β → Bytes}
    (inverts : Inverts first fits encode) (inverts' : Inverts second fits' encode') :
    Inverts (first >>= fun left => second >>= fun right => pure (left, right))
      (fun pair => fits pair.1 ∧ fits' pair.2) (fun pair => encode pair.1 ++ encode' pair.2) := by
  intro reader next pair valid
  simp only [bind_eq_ok, pure_eq_ok]
  constructor
  · rintro ⟨left, reached, readFirst, right, last, readSecond, rfl, rfl⟩
    obtain ⟨fit, reachedValid, same, ahead⟩ := (inverts.eq_ok valid).mp readFirst
    obtain ⟨fit', nextValid, same', ahead'⟩ := (inverts'.eq_ok reachedValid).mp readSecond
    refine ⟨⟨fit, fit'⟩, nextValid, same'.trans same, ?_⟩
    rw [ahead, ahead', append_assoc]
  · rintro ⟨⟨fit, fit'⟩, nextValid, same, ahead⟩
    -- The reader stands between the two values before it reads the second.
    rw [append_assoc] at ahead
    obtain ⟨reached, reachedValid, kept, behind⟩ := exists_behind valid ahead
    refine ⟨pair.1, reached, ?_, pair.2, next, ?_, rfl, rfl⟩
    · rw [inverts.eq_ok valid, behind]
      exact ⟨fit, reachedValid, kept, ahead⟩
    · rw [inverts'.eq_ok reachedValid]
      exact ⟨fit', nextValid, same.trans kept.symm, behind⟩

/-- A change of every element is a change of the list. -/
theorem readAll_map (change : α → β) (element : ReaderM α) (turns : Nat) :
    readAll (change <$> element) turns = List.map change <$> readAll element turns := by
  induction turns with
  | zero => rfl
  | succ turns ih =>
    funext reader
    rw [readAll, readAll, ih]
    simp only [map_eq_bind, bind_assoc_eq, bind_apply, get_apply]
    by_cases more : reader.hasMore = true
    · simp only [more, if_true, bind_apply]
      rcases element reader with ⟨message | first, reached⟩
      · rfl
      · simp only [pure_apply]
        rcases readAll element turns reached with ⟨message | rest, last⟩ <;> rfl
    · simp only [more]
      rfl

theorem within_map (change : α → β) (element : ReaderM α) (blob : Bytes) :
    within blob (change <$> element) = List.map change <$> within blob element := by
  funext reader
  rw [within, within, readAll_map]
  simp only [map_eq_bind, bind_apply]
  rcases readAll element blob.length { data := blob } with ⟨message | values, last⟩ <;> rfl

end ByteReader

end SolveTls
