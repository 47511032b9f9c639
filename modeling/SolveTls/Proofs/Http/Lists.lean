import SolveTls.Http.ListGrammar
import SolveTls.Http1.Request

/-! The scanner of comma-separated lists returns exactly the members that the grammar names. -/

namespace SolveTls

open List Search

variable {outside : Char → Prop} {text front body rest current : Text} {result : List Text}
variable {values members : List Text}

/-! ### Where the scanner goes on -/

theorem appendMember_eq (result : List Text) (current : Text) :
    appendMember result current = result ++ appendMember [] current := by
  unfold appendMember
  split <;> simp

/-- Members that were found earlier stay in front. -/
theorem parseListLoop_result (text : Text) (result : List Text) (current : Text)
    (quoted escaped : Bool) :
    parseListLoop text result current quoted escaped =
      (parseListLoop text [] current quoted escaped).map (result ++ ·) := by
  -- The induction is on the text; only a separating comma touches the result.
  induction text generalizing result current quoted escaped with
  | nil =>
    unfold parseListLoop
    by_cases inside : quoted = true ∨ escaped = true
    · simp only [if_pos inside]
      rfl
    · simp only [if_neg inside]
      rw [appendMember_eq]
      rfl
  | cons char rest ih =>
    have merged (members : List Text) :
        (parseListLoop rest [] [] quoted false).map (result ++ members ++ ·) =
          ((parseListLoop rest [] [] quoted false).map (members ++ ·)).map (result ++ ·) := by
      cases parseListLoop rest [] [] quoted false with
      | error message => rfl
      | ok found => exact congrArg Except.ok (append_assoc ..)
    unfold parseListLoop
    split
    · rw [ih]
    split
    · rw [ih]
    split
    · rw [ih]
    split
    · rw [ih, ih (appendMember [] current), appendMember_eq, merged]
    · rw [ih]

/-- The inside of a quoted string goes to the current member. -/
theorem parseListLoop_quotedBody (inside : QuotedBody body) :
    parseListLoop (body ++ rest) result current true false =
      parseListLoop rest result (current ++ body) true false := by
  induction inside generalizing current with
  | nil => simp
  | plain noQuote noEscape _ ih =>
    rw [cons_append]
    conv_lhs => unfold parseListLoop
    simp [noQuote, noEscape, ih]
  | escaped char _ ih =>
    rw [cons_append, cons_append]
    conv_lhs => unfold parseListLoop
    conv_lhs => unfold parseListLoop
    simp [ih]

/-- Balanced text without a comma outside of its quotes goes to the current member. -/
theorem parseListLoop_piece (balanced : Balanced (· ≠ ',') text) :
    parseListLoop (text ++ rest) result current false false =
      parseListLoop rest result (current ++ text) false false := by
  induction balanced generalizing current with
  | nil => simp
  | plain noQuote noComma _ ih =>
    rw [cons_append]
    conv_lhs => unfold parseListLoop
    simp [noQuote, noComma, ih]
  | quoted inside _ ih =>
    rw [cons_append, append_assoc, cons_append]
    conv_lhs => unfold parseListLoop
    simp only [Bool.false_eq_true, if_false, false_and, if_true, Bool.not_false]
    rw [parseListLoop_quotedBody inside]
    conv_lhs => unfold parseListLoop
    simp [ih]

/-- Behind balanced text the scanner is outside of quotes. -/
theorem parseListLoop_balanced (balanced : Balanced outside front) (rest : Text)
    (result : List Text) (current : Text) :
    ∃ result' current', parseListLoop (front ++ rest) result current false false =
      parseListLoop rest result' current' false false := by
  induction balanced generalizing result current with
  | nil => exact ⟨result, current, rfl⟩
  | @plain char others noQuote _ _ ih =>
    by_cases comma : char = ','
    · obtain ⟨result', current', same⟩ := ih (appendMember result current) []
      refine ⟨result', current', ?_⟩
      rw [← same, cons_append]
      conv_lhs => unfold parseListLoop
      simp [comma]
    · obtain ⟨result', current', same⟩ := ih result (current ++ [char])
      refine ⟨result', current', ?_⟩
      rw [← same, cons_append]
      conv_lhs => unfold parseListLoop
      simp [noQuote, comma]
  | @quoted body others inside _ ih =>
    obtain ⟨result', current', same⟩ := ih result (current ++ ('"' :: (body ++ ['"'])))
    refine ⟨result', current', ?_⟩
    rw [← same, cons_append, append_assoc, cons_append]
    conv_lhs => unfold parseListLoop
    simp only [Bool.false_eq_true, if_false, false_and, if_true, Bool.not_false]
    rw [parseListLoop_quotedBody inside]
    conv_lhs => unfold parseListLoop
    simp

/-- A quote that is never closed is an error. -/
theorem parseListLoop_unclosed (unclosed : Unclosed body) :
    parseListLoop body result current true false =
      .error "Unterminated quoted HTTP list member" := by
  rcases unclosed with inside | ⟨complete, rfl, inside⟩
  · rw [← append_nil body, parseListLoop_quotedBody inside]
    simp [parseListLoop]
  · rw [parseListLoop_quotedBody inside]
    simp [parseListLoop]

/-! ### Texts and their slots -/

/-- Blanks are neither quotes nor commas. -/
theorem balanced_blanks (blank : text.all isBlank = true) : Balanced (· ≠ ',') text := by
  induction text with
  | nil => exact .nil
  | cons char rest ih =>
    rw [all_cons, Bool.and_eq_true] at blank
    have kinds : char = ' ' ∨ char = '\t' := by simpa [isBlank] using blank.1
    refine .plain ?_ ?_ (ih blank.2)
    · rcases kinds with rfl | rfl <;> decide
    · rcases kinds with rfl | rfl <;> decide

theorem Balanced.append (first : Balanced outside front) (second : Balanced outside rest) :
    Balanced outside (front ++ rest) := by
  induction first with
  | nil => exact second
  | plain noQuote allowed _ ih => exact .plain noQuote allowed ih
  | quoted inside _ ih =>
    rw [cons_append, append_assoc, cons_append]
    exact .quoted inside ih

theorem Balanced.mono {wider : Char → Prop} (balanced : Balanced outside text)
    (implies : ∀ char, outside char → wider char) : Balanced wider text := by
  induction balanced with
  | nil => exact .nil
  | plain noQuote allowed _ ih => exact .plain noQuote (implies _ allowed) ih
  | quoted inside _ ih => exact .quoted inside ih

/-- A slot is balanced text without a comma outside of its quotes. -/
theorem Slot.balanced (slot : Slot) : Balanced (· ≠ ',') slot.text := by
  have middle : Balanced (· ≠ ',') (slot.content.getD []) := by
    unfold Slot.content
    cases slot.member with
    | none => exact .nil
    | some member => exact member.2.balanced
  exact ((balanced_blanks slot.blankBefore).append middle).append (balanced_blanks slot.blankAfter)

/-- Of a slot its member is kept. -/
theorem Slot.appendMember_text (slot : Slot) (result : List Text) :
    appendMember result slot.text = result ++ slot.content.toList := by
  have begins : (slot.content.getD []).head?.any isBlank = false := by
    unfold Slot.content
    cases slot.member with
    | none => rfl
    | some member => exact member.2.begins
  have ends : (slot.content.getD []).getLast?.any isBlank = false := by
    unfold Slot.content
    cases slot.member with
    | none => rfl
    | some member => exact member.2.ends
  have stripped : strip slot.text = slot.content.getD [] :=
    trim_append slot.blankBefore slot.blankAfter begins ends
  rw [appendMember, stripped]
  unfold Slot.content
  cases slot.member with
  | none => simp
  | some member => simp [member.2.nonempty]

/-- The scanner finds the members of slots with commas between them, and goes on behind a comma. -/
theorem parseListLoop_slots (slots : List Slot) (result : List Text) :
    parseListLoop (slotsText slots) result [] false false =
      .ok (result ++ slots.filterMap Slot.content) ∧
    ∀ rest, slots ≠ [] → parseListLoop (slotsText slots ++ ',' :: rest) result [] false false =
      parseListLoop rest (result ++ slots.filterMap Slot.content) [] false false := by
  -- The induction is on the slots; behind each of them stands a comma or the end.
  induction slots generalizing result with
  | nil => simp [slotsText, join, parseListLoop, appendMember, strip]
  | cons slot others ih =>
    have kept : slot.content.toList ++ others.filterMap Slot.content =
        (slot :: others).filterMap Slot.content := by
      rw [filterMap_cons]
      cases slot.content <;> rfl
    have comma (rest : Text) :
        parseListLoop (slot.text ++ ',' :: rest) result [] false false =
          parseListLoop rest (result ++ slot.content.toList) [] false false := by
      rw [parseListLoop_piece slot.balanced, nil_append]
      conv_lhs => unfold parseListLoop
      simp [slot.appendMember_text]
    cases others with
    | nil =>
      have whole : slotsText [slot] = slot.text := rfl
      rw [whole, ← kept, filterMap_nil, append_nil]
      refine ⟨?_, fun rest _ => comma rest⟩
      rw [← append_nil slot.text, parseListLoop_piece slot.balanced, nil_append]
      simp [parseListLoop, slot.appendMember_text]
    | cons next others =>
      have whole : slotsText (slot :: next :: others) =
          slot.text ++ ',' :: slotsText (next :: others) := by
        rw [slotsText, map_cons, map_cons, join_cons_cons, append_assoc]
        rfl
      obtain ⟨finished, followed⟩ := ih (result ++ slot.content.toList)
      rw [whole, ← kept, ← append_assoc]
      refine ⟨?_, ?_⟩
      · rw [comma, finished]
      · intro rest _
        rw [append_assoc, cons_append, comma]
        exact followed rest (cons_ne_nil _ _)

/-! ### Every text -/

/-- A blank is not a quote. -/
theorem quote_notMem_of_blank (blank : text.all isBlank = true) : '"' ∉ text := by
  intro member
  have quote := List.all_eq_true.mp blank '"' member
  exact absurd quote (by decide)

/-- Blanks in front of balanced text are outside of its quotes. -/
theorem Balanced.of_blank_front (blank : front.all isBlank = true)
    (balanced : Balanced outside (front ++ rest)) : Balanced outside rest := by
  induction front with
  | nil => exact balanced
  | cons char front ih =>
    have noQuote := quote_notMem_of_blank blank
    rw [all_cons, Bool.and_eq_true] at blank
    rw [cons_append] at balanced
    generalize whole : char :: (front ++ rest) = text at balanced
    cases balanced with
    | nil => cases whole
    | plain _ _ others =>
      obtain ⟨-, rfl⟩ := List.cons.inj whole
      exact ih blank.2 others
    | quoted =>
      obtain ⟨rfl, -⟩ := List.cons.inj whole
      exact absurd (mem_cons_self ..) noQuote

/-- Blanks behind balanced text are outside of its quotes. -/
theorem Balanced.of_blank_back {back : Text} (blank : back.all isBlank = true)
    (balanced : Balanced outside (rest ++ back)) : Balanced outside rest := by
  have noQuote := quote_notMem_of_blank blank
  -- The induction is on the balanced text; no closing quote can stand among the blanks.
  generalize whole : rest ++ back = text at balanced
  induction balanced generalizing rest with
  | nil =>
    rw [(append_eq_nil_iff.mp whole).1]
    exact .nil
  | @plain char others noQuoteHere allowed _ ih =>
    cases rest with
    | nil => exact .nil
    | cons first rest =>
      obtain ⟨rfl, same⟩ := List.cons.inj whole
      exact .plain noQuoteHere allowed (ih same)
  | @quoted body others inside _ ih =>
    cases rest with
    | nil =>
      rw [nil_append] at whole
      rw [whole] at noQuote
      exact absurd (mem_cons_self ..) noQuote
    | cons first rest =>
      obtain ⟨rfl, same⟩ := List.cons.inj whole
      rcases append_eq_append_iff.mp same with ⟨left, -, among⟩ | ⟨left, rfl, among⟩
      · -- The closing quote would be one of the blanks.
        rw [among] at noQuote
        exact absurd (mem_append_right _ (mem_cons_self ..)) noQuote
      · cases left with
        | nil =>
          rw [nil_append] at among
          rw [← among] at noQuote
          exact absurd (mem_cons_self ..) noQuote
        | cons closing left =>
          obtain ⟨rfl, behind⟩ := List.cons.inj among
          exact .quoted inside (ih behind.symm)

/-- Balanced text without outer commas fills a slot. -/
theorem exists_slot (balanced : Balanced (· ≠ ',') text) : ∃ slot : Slot, slot.text = text := by
  obtain ⟨before, after, split, blankBefore, blankAfter, begins, ends⟩ :=
    trim_spec isBlank text
  by_cases empty : trim isBlank text = []
  · refine ⟨⟨before, none, after, blankBefore, blankAfter⟩, ?_⟩
    rw [empty] at split
    exact split.symm
  · rw [split] at balanced
    have inside := (Balanced.of_blank_back blankAfter balanced).of_blank_front blankBefore
    refine ⟨⟨before, some ⟨_, empty, begins, ends, inside⟩, after, blankBefore, blankAfter⟩, ?_⟩
    exact split.symm

theorem exists_slots {pieces : List Text} (balanced : ∀ piece ∈ pieces, Balanced (· ≠ ',') piece) :
    ∃ slots : List Slot, slots.map Slot.text = pieces := by
  induction pieces with
  | nil => exact ⟨[], rfl⟩
  | cons piece pieces ih =>
    obtain ⟨slot, same⟩ := exists_slot (balanced piece (mem_cons_self ..))
    obtain ⟨slots, others⟩ := ih fun other member => balanced other (mem_cons_of_mem _ member)
    refine ⟨slot :: slots, ?_⟩
    rw [map_cons, same, others]

/-- Behind a quote the string is closed somewhere, or never. -/
theorem closed_or_unclosed (text : Text) :
    (∃ body rest, text = body ++ '"' :: rest ∧ QuotedBody body) ∨ Unclosed text := by
  -- The induction is on the length, because an escape takes two characters.
  induction size : text.length using Nat.strongRecOn generalizing text with
  | ind size ih =>
    subst size
    match text with
    | [] => exact .inr (.inl .nil)
    | char :: rest =>
      by_cases quote : char = '"'
      · exact .inl ⟨[], rest, by rw [quote]; rfl, .nil⟩
      by_cases escape : char = '\\'
      · subst escape
        match rest with
        | [] => exact .inr (.inr ⟨[], rfl, .nil⟩)
        | escaped :: rest =>
          rcases ih rest.length (by simp only [length_cons]; omega) rest rfl with
            ⟨body, behind, rfl, inside⟩ | inside | ⟨complete, rfl, inside⟩
          · exact .inl ⟨_, behind, rfl, .escaped escaped inside⟩
          · exact .inr (.inl (.escaped escaped inside))
          · exact .inr (.inr ⟨_, rfl, .escaped escaped inside⟩)
      · rcases ih rest.length (by simp only [length_cons]; omega) rest rfl with
          ⟨body, behind, rfl, inside⟩ | inside | ⟨complete, rfl, inside⟩
        · exact .inl ⟨_, behind, rfl, .plain quote escape inside⟩
        · exact .inr (.inl (.plain quote escape inside))
        · exact .inr (.inr ⟨_, rfl, .plain quote escape inside⟩)

/-- More balanced text in front does not change how a text ends. -/
theorem EndsQuoted.append (balanced : Balanced (fun _ => True) front) (ends : EndsQuoted text) :
    EndsQuoted (front ++ text) := by
  obtain ⟨before, body, rfl, balanced', unclosed⟩ := ends
  exact ⟨front ++ before, body, (append_assoc ..).symm, balanced.append balanced', unclosed⟩

/-- Text is made of pieces with commas between them, or ends inside a quoted string. -/
theorem pieces_or_endsQuoted (text : Text) :
    (∃ piece pieces, text = join [','] (piece :: pieces) ∧
      ∀ other ∈ piece :: pieces, Balanced (· ≠ ',') other) ∨ EndsQuoted text := by
  -- What comes first is put in front of the first piece of the rest.
  have extend {first rest : Text} (balanced : Balanced (· ≠ ',') first)
      (found : (∃ piece pieces, rest = join [','] (piece :: pieces) ∧
        ∀ other ∈ piece :: pieces, Balanced (· ≠ ',') other) ∨ EndsQuoted rest) :
      (∃ piece pieces, first ++ rest = join [','] (piece :: pieces) ∧
        ∀ other ∈ piece :: pieces, Balanced (· ≠ ',') other) ∨ EndsQuoted (first ++ rest) := by
    rcases found with ⟨piece, pieces, rfl, all⟩ | ends
    · refine .inl ⟨first ++ piece, pieces, ?_, ?_⟩
      · cases pieces with
        | nil => rfl
        | cons next pieces =>
          rw [join_cons_cons, join_cons_cons]
          simp only [append_assoc]
      · intro other member
        rcases mem_cons.mp member with rfl | member
        · exact balanced.append (all piece (mem_cons_self ..))
        · exact all other (mem_cons_of_mem _ member)
    · exact .inr (ends.append (balanced.mono fun _ _ => trivial))
  -- The induction is on the length, because a quoted string is taken at once.
  induction size : text.length using Nat.strongRecOn generalizing text with
  | ind size ih =>
    subst size
    match text with
    | [] =>
      refine .inl ⟨[], [], rfl, ?_⟩
      intro other member
      rw [mem_singleton.mp member]
      exact .nil
    | char :: rest =>
      have shorter := ih rest.length (by simp) rest rfl
      by_cases quote : char = '"'
      · subst quote
        rcases closed_or_unclosed rest with ⟨body, behind, rfl, inside⟩ | unclosed
        · have balanced : Balanced (· ≠ ',') ('"' :: (body ++ ['"'])) := .quoted inside .nil
          have found := ih behind.length (by simp; omega) behind rfl
          have extended := extend balanced found
          simpa using extended
        · exact .inr ⟨[], rest, rfl, .nil, unclosed⟩
      by_cases comma : char = ','
      · subst comma
        rcases shorter with ⟨piece, pieces, rfl, all⟩ | ends
        · refine .inl ⟨[], piece :: pieces, rfl, ?_⟩
          intro other member
          rcases List.mem_cons.mp member with rfl | member
          · exact .nil
          · exact all other member
        · have front : Balanced (fun _ => True) [','] := .plain quote trivial .nil
          exact .inr (ends.append front)
      · have front : Balanced (· ≠ ',') [char] := .plain quote comma .nil
        exact extend front shorter

/-- Text is made of slots, or ends inside a quoted string. -/
theorem slots_or_endsQuoted (text : Text) :
    (∃ slots : List Slot, slots ≠ [] ∧ text = slotsText slots) ∨ EndsQuoted text := by
  rcases pieces_or_endsQuoted text with ⟨piece, pieces, rfl, balanced⟩ | ends
  · obtain ⟨slots, same⟩ := exists_slots balanced
    refine .inl ⟨slots, ?_, ?_⟩
    · rintro rfl
      cases same
    · rw [slotsText, same]
  · exact .inr ends

/-- A text that ends inside a quoted string is an error. -/
theorem parseListLoop_endsQuoted (ends : EndsQuoted text) :
    parseListLoop text [] [] false false = .error "Unterminated quoted HTTP list member" := by
  obtain ⟨front, body, rfl, balanced, unclosed⟩ := ends
  obtain ⟨result, current, same⟩ := parseListLoop_balanced balanced ('"' :: body) [] []
  rw [same]
  conv_lhs => unfold parseListLoop
  simp only [Bool.false_eq_true, if_false, false_and, if_true, Bool.not_false]
  exact parseListLoop_unclosed unclosed

/-! ### Lists of field values -/

theorem intercalate_eq_join (separator : Text) (parts : List Text) :
    List.intercalate separator parts = join separator parts := by
  induction parts with
  | nil => rfl
  | cons part rest ih =>
    cases rest with
    | nil => simp [List.intercalate, join]
    | cons next rest =>
      rw [join_cons_cons, ← ih]
      simp [List.intercalate]

/-- Slots one after the other have a comma between them. -/
theorem slotsText_append {slots others : List Slot} (some : slots ≠ []) (some' : others ≠ []) :
    slotsText (slots ++ others) = slotsText slots ++ ',' :: slotsText others := by
  have parts : slots.map Slot.text ≠ [] := by simpa using some
  have parts' : others.map Slot.text ≠ [] := by simpa using some'
  rw [slotsText, map_append, join_append [','] parts parts', append_assoc]
  rfl

/-- Nothing at all between two commas. -/
def emptySlot : Slot := ⟨[], none, [], rfl, rfl⟩

/-- A value is made of slots, and of an empty one where it is empty. -/
theorem exists_ne_nil_slots (slots : List Slot) : ∃ filled : List Slot, filled ≠ [] ∧
    slotsText filled = slotsText slots ∧
    filled.filterMap Slot.content = slots.filterMap Slot.content := by
  cases slots with
  | nil => exact ⟨[emptySlot], cons_ne_nil _ _, rfl, rfl⟩
  | cons slot slots => exact ⟨slot :: slots, cons_ne_nil _ _, rfl, rfl⟩

/-- Slots that are distributed over values are slots one after the other. -/
theorem join_slotsText {fields : List (List Slot)} (some : fields ≠ []) :
    ∃ slots : List Slot, slots ≠ [] ∧
      join [','] (fields.map slotsText) = slotsText slots ∧
      slots.filterMap Slot.content = fields.flatten.filterMap Slot.content := by
  induction fields with
  | nil => exact absurd rfl some
  | cons field fields ih =>
    obtain ⟨filled, nonempty, text, content⟩ := exists_ne_nil_slots field
    cases fields with
    | nil =>
      refine ⟨filled, nonempty, text.symm, ?_⟩
      rw [content, flatten_cons, flatten_nil, append_nil]
    | cons next fields =>
      obtain ⟨slots, nonempty', text', content'⟩ := ih (cons_ne_nil _ _)
      refine ⟨filled ++ slots, append_ne_nil_of_left_ne_nil nonempty _, ?_, ?_⟩
      · rw [map_cons] at text'
        rw [slotsText_append nonempty nonempty', text, ← text', map_cons, map_cons,
          join_cons_cons, append_assoc]
        rfl
      · rw [filterMap_append, content, content', ← filterMap_append]
        rfl

theorem parseHttpTexts_eq (values : List Text) :
    parseHttpTexts values = parseListLoop (join [','] values) [] [] false false := by
  rw [parseHttpTexts, intercalate_eq_join]

/-- Members that are distributed over values are found again. -/
theorem parseHttpTexts_slotsText (fields : List (List Slot)) :
    parseHttpTexts (fields.map slotsText) = .ok (fields.flatten.filterMap Slot.content) := by
  by_cases none : fields = []
  · subst none
    rfl
  · obtain ⟨slots, -, text, content⟩ := join_slotsText none
    rw [parseHttpTexts_eq, text, (parseListLoop_slots slots []).1, nil_append, content]

/-- Values whose members are returned are made of slots with these members. -/
theorem slots_of_parseHttpTexts (returned : parseHttpTexts values = .ok members) :
    ∃ slots : List Slot, slots ≠ [] ∧ join [','] values = slotsText slots ∧
      members = slots.filterMap Slot.content := by
  rw [parseHttpTexts_eq] at returned
  rcases slots_or_endsQuoted (join [','] values) with ⟨slots, nonempty, text⟩ | ends
  · rw [text, (parseListLoop_slots slots []).1, nil_append] at returned
    exact ⟨slots, nonempty, text, (Except.ok.inj returned).symm⟩
  · rw [parseListLoop_endsQuoted ends] at returned
    cases returned

/-- Values are an error exactly where they end inside a quoted string. -/
theorem parseHttpTexts_error_iff (values : List Text) :
    (∃ message, parseHttpTexts values = .error message) ↔
      EndsQuoted (join [','] values) := by
  rw [parseHttpTexts_eq]
  constructor
  · rintro ⟨message, raised⟩
    rcases slots_or_endsQuoted (join [','] values) with ⟨slots, -, text⟩ | ends
    · rw [text, (parseListLoop_slots slots []).1] at raised
      cases raised
    · exact ends
  · intro ends
    exact ⟨_, parseListLoop_endsQuoted ends⟩

/-- The members of further values come behind. -/
theorem parseHttpTexts_append (returned : parseHttpTexts values = .ok members)
    (others : List Text) :
    parseHttpTexts (values ++ others) = (parseHttpTexts others).map (members ++ ·) := by
  by_cases none : values = []
  · subst none
    cases returned
    show parseHttpTexts others = _
    cases parseHttpTexts others <;> rfl
  by_cases none' : others = []
  · subst none'
    rw [append_nil, returned]
    exact congrArg Except.ok (append_nil members).symm
  · obtain ⟨slots, nonempty, text, content⟩ := slots_of_parseHttpTexts returned
    rw [parseHttpTexts_eq, join_append [','] none none', text, append_assoc]
    show parseListLoop (slotsText slots ++ ',' :: join [','] others) [] [] false false = _
    rw [(parseListLoop_slots slots []).2 _ nonempty, nil_append, ← content,
      parseListLoop_result, ← parseHttpTexts_eq]

/-- Members in any layout over any values are returned as they are; only a text that ends inside a
quoted string is an error, and from every other the members are returned that it is made of. -/
theorem parseHttpTexts_exact :
    (∀ fields : List (List Slot),
      parseHttpTexts (fields.map slotsText) = .ok (fields.flatten.filterMap Slot.content)) ∧
    (∀ values, (∃ message, parseHttpTexts values = .error message) ↔
      EndsQuoted (List.intercalate [','] values)) ∧
    (∀ values members, parseHttpTexts values = .ok members →
      ∃ slots : List Slot, List.intercalate [','] values = slotsText slots ∧
        members = slots.filterMap Slot.content) ∧
    (∀ values others members, parseHttpTexts values = .ok members →
      parseHttpTexts (values ++ others) = (parseHttpTexts others).map (members ++ ·)) ∧
    (∀ values : List Bytes, parseHttpList values = parseHttpTexts (values.map asText)) := by
  refine ⟨parseHttpTexts_slotsText, ?_, ?_, ?_, fun _ => rfl⟩
  · intro values
    rw [intercalate_eq_join]
    exact parseHttpTexts_error_iff values
  · intro values members returned
    obtain ⟨slots, -, text, content⟩ := slots_of_parseHttpTexts returned
    exact ⟨slots, (intercalate_eq_join [','] values).trans text, content⟩
  · intro values others members returned
    exact parseHttpTexts_append returned others

/-- Two values, of which the first has a member with a quoted comma. -/
theorem parseHttpTexts_exact_quoted :
    parseHttpTexts (["a=\",\"".toList] ++ ["b".toList]) =
      (parseHttpTexts ["b".toList]).map (["a=\",\"".toList] ++ ·) :=
  parseHttpTexts_exact.2.2.2.1 _ _ _ (by decide)

end SolveTls
