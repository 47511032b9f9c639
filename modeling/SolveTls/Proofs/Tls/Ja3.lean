import SolveTls.Base.Digits
import SolveTls.Proofs.Tls.Extensions

/-! The JA3 string tells a hello apart up to its reserved values. -/

namespace SolveTls

open ClientHello Search List

variable {extType grease : Nat}
variable {values others : List Nat}

/-! ## Numbers and lists of numbers as text -/

/-- A number can be read back from its decimal digits. -/
theorem value_decimalText (value : Nat) : Digits.value 10 (decimalText value) = value :=
  (Digits.toDigits_spec (by decide) (by decide) value).2

theorem decimalText_injective : Function.Injective decimalText := by
  intro first second same
  rw [← value_decimalText first, same, value_decimalText second]

/-- Digits are neither commas nor dashes. -/
theorem decimalText_spec (value : Nat) :
    decimalText value ≠ [] ∧ ∀ char ∈ decimalText value, char ∈ Digits.alphabet :=
  ⟨Nat.toDigits_ne_nil, (Digits.toDigits_spec (by decide) (by decide) value).1⟩

/-- Numbers can be told from their joined text, also when there are none. -/
theorem join_decimalText_inj {separator : Char} (outside : separator ∉ Digits.alphabet) :
    join [separator] (values.map decimalText) =
      join [separator] (others.map decimalText) ↔ values = others := by
  have separated : ∀ part ∈ values.map decimalText ++ others.map decimalText,
      part ≠ [] ∧ separator ∉ part := by
    intro part member
    rw [← map_append] at member
    obtain ⟨value, -, rfl⟩ := mem_map.mp member
    obtain ⟨some, digits⟩ := decimalText_spec value
    refine ⟨some, ?_⟩
    intro inside
    exact outside (digits separator inside)
  rw [join_inj_of_filled separated]
  exact (map_injective_iff.mpr decimalText_injective).eq_iff

/-- Joined numbers have nothing but digits and separators. -/
theorem notMem_join_decimalText {separator char : Char} (between : char ∉ [separator])
    (outside : char ∉ Digits.alphabet) (values : List Nat) :
    char ∉ join [separator] (values.map decimalText) := by
  apply not_mem_join between
  intro part member inside
  obtain ⟨value, -, rfl⟩ := mem_map.mp member
  exact outside ((decimalText_spec value).2 char inside)

/-- The numbers can be told from their dashed text, also when there are none. -/
theorem dashed_inj : dashed values = dashed others ↔ values = others :=
  join_decimalText_inj (by decide)

theorem comma_notMem_dashed (values : List Nat) : ',' ∉ dashed values :=
  notMem_join_decimalText (by decide) (by decide) values

/-- None of the five parts has a comma. -/
theorem comma_notMem_ja3Parts (hello : ClientHello) : ∀ part ∈ ja3Parts hello, ',' ∉ part := by
  intro part member
  simp only [ja3Parts, mem_cons, not_mem_nil, or_false] at member
  rcases member with rfl | rfl | rfl | rfl | rfl
  · intro comma
    exact absurd ((decimalText_spec _).2 ',' comma) (by decide)
  all_goals apply comma_notMem_dashed

/-- The string tells each of its five parts. -/
theorem ja3_inj {a b : ClientHello} : ja3 a = ja3 b ↔
    a.version = b.version ∧ noGrease a.cipherSuites = noGrease b.cipherSuites ∧
    noGrease a.extensionTypes = noGrease b.extensionTypes ∧
    noGrease a.supportedGroups = noGrease b.supportedGroups ∧
    a.ecPointFormats = b.ecPointFormats := by
  have some (hello : ClientHello) : ja3Parts hello ≠ [] := cons_ne_nil _ _
  rw [ja3, ja3, join_inj (some a) (some b) (comma_notMem_ja3Parts a)
    (comma_notMem_ja3Parts b)]
  simp only [ja3Parts, cons.injEq, and_true, dashed_inj, decimalText_injective.eq_iff]

/-! ## Reserved values -/

/-- A reserved value is dropped wherever it stands. -/
theorem noGrease_insert (reserved : grease ∈ greaseValues) (front back : List Nat) :
    noGrease (front ++ grease :: back) = noGrease (front ++ back) := by
  simp [noGrease, reserved]

/-- A reserved extension does not hide the first extension of another type. -/
theorem find?_insert_grease (reserved : grease ∈ greaseValues) (known : extType ∉ greaseValues)
    (front back : List Extension) (data : Bytes) :
    (front ++ { type := grease, data } :: back).find? (fun extension => extension.type = extType) =
      (front ++ back).find? fun extension => extension.type = extType := by
  have other : grease ≠ extType := by
    rintro rfl
    exact known reserved
  simp [find?_append, other]

/-- Changing the payload of an extension, where other types are looked up, changes nothing. -/
theorem find?_change_data {changed : Nat} (known : extType ≠ changed) (front back : List Extension)
    (data other : Bytes) :
    (front ++ { type := changed, data } :: back).find? (fun extension => extension.type = extType) =
      (front ++ { type := changed, data := other } :: back).find?
        fun extension => extension.type = extType := by
  simp [find?_append, known.symm]

/-- Fewer numbers fit as well. -/
theorem NumbersFit.sublist {lengthBytes : Nat} {fewer : List Nat}
    (fit : NumbersFit lengthBytes values) (sub : fewer.Sublist values) :
    NumbersFit lengthBytes fewer := by
  refine ⟨?_, ?_⟩
  · intro value member
    exact fit.1 value (sub.subset member)
  · have shorter := (sub.flatMap encodeUint16).length_le
    exact Nat.lt_of_le_of_lt shorter fit.2

/-- A hello with a well-formed vector of groups among its extensions. -/
def ClientHello.withGroups (hello : ClientHello) (before after : List Extension)
    (groups : List Nat) (trailing : Bytes) : ClientHello :=
  let extension : Extension := {
    type := ExtensionType.supportedGroups
    data := encodeNumbers 2 groups ++ trailing }
  { hello with extensions := before ++ extension :: after }

/-- Reserved groups in a well-formed vector make no difference, if the vector is looked at at all. -/
theorem noGrease_supportedGroups_insert (reserved : grease ∈ greaseValues) (hello : ClientHello)
    (before after : List Extension) (front back : List Nat) (trailing : Bytes)
    (fit : NumbersFit 2 (front ++ grease :: back)) :
    noGrease (hello.withGroups before after (front ++ grease :: back) trailing).supportedGroups =
      noGrease (hello.withGroups before after (front ++ back) trailing).supportedGroups := by
  have fewer : NumbersFit 2 (front ++ back) :=
    fit.sublist (List.Sublist.append_left (sublist_cons_self ..) _)
  unfold supportedGroups uint16Vector extensionData withGroups
  simp only [find?_append]
  cases before.find? fun extension => extension.type = ExtensionType.supportedGroups with
  | some earlier => rfl
  | none =>
    simp only [find?_cons, decide_true, Option.or_some, Option.getD_none, Option.map_some]
    rw [uint16Values_encodeNumbers (.inr rfl) fit, uint16Values_encodeNumbers (.inr rfl) fewer,
      noGrease_insert reserved]

/-- Two hellos have the same JA3 exactly if they differ in nothing but what it leaves out, and
reserved values never matter. -/
theorem ja3_identifies (md5 : Text → Text) (a b : ClientHello) :
    (Dict.get? (buildJa3 md5 (some a)) "ja3" = Dict.get? (buildJa3 md5 (some b)) "ja3" ↔
      a.version = b.version ∧ noGrease a.cipherSuites = noGrease b.cipherSuites ∧
      noGrease a.extensionTypes = noGrease b.extensionTypes ∧
      noGrease a.supportedGroups = noGrease b.supportedGroups ∧
      a.ecPointFormats = b.ecPointFormats) ∧
    ∀ grease ∈ greaseValues,
      (∀ front back, ja3 { a with cipherSuites := front ++ grease :: back } =
        ja3 { a with cipherSuites := front ++ back }) ∧
      (∀ front back data, ja3 { a with extensions := front ++ { type := grease, data } :: back } =
        ja3 { a with extensions := front ++ back }) ∧
      (∀ before after front back trailing, NumbersFit 2 (front ++ grease :: back) →
        ja3 (a.withGroups before after (front ++ grease :: back) trailing) =
          ja3 (a.withGroups before after (front ++ back) trailing)) := by
  refine ⟨?_, fun grease reserved => ⟨?_, ?_, ?_⟩⟩
  · rw [← ja3_inj]
    show some (Json.text (ja3 a)) = some (Json.text (ja3 b)) ↔ ja3 a = ja3 b
    rw [Option.some_inj, Json.text.injEq]
  · intro front back
    rw [ja3_inj]
    exact ⟨rfl, noGrease_insert reserved front back, rfl, rfl, rfl⟩
  · intro front back data
    rw [ja3_inj]
    have groupsKnown : ExtensionType.supportedGroups ∉ greaseValues := by decide
    have formatsKnown : ExtensionType.ecPointFormats ∉ greaseValues := by decide
    have groups := find?_insert_grease reserved groupsKnown front back data
    have formats := find?_insert_grease reserved formatsKnown front back data
    refine ⟨rfl, rfl, ?_, ?_, ?_⟩
    · simp only [extensionTypes, map_append, map_cons]
      exact noGrease_insert reserved _ _
    · simp only [supportedGroups, uint16Vector, extensionData, groups]
    · simp only [ecPointFormats, extensionData, formats]
  · intro before after front back trailing fit
    rw [ja3_inj]
    have other : ExtensionType.ecPointFormats ≠ ExtensionType.supportedGroups := by decide
    have formats := find?_change_data other before after
      (encodeNumbers 2 (front ++ grease :: back) ++ trailing)
      (encodeNumbers 2 (front ++ back) ++ trailing)
    refine ⟨rfl, rfl, ?_, ?_, ?_⟩
    · simp only [extensionTypes, withGroups, map_append, map_cons]
    · exact noGrease_supportedGroups_insert reserved a before after front back trailing fit
    · simp only [ecPointFormats, extensionData, withGroups, formats]

end SolveTls
