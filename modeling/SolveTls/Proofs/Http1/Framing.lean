import SolveTls.Http1.FramingFormat
import SolveTls.Proofs.Http.Lists
import SolveTls.Proofs.Http1.Requests

/-! Requests are accepted exactly where their framing is unambiguous. -/

namespace SolveTls

open Fallible Search List

variable {char : Char} {text rest gap value blanks : Text} {values : List Text} {turns : Nat}
  {codings : List Coding}

/-! ### Lengths -/

/-- Blanks are the space and the tab. -/
theorem isBlank_iff : isBlank char = true ↔ char = ' ' ∨ char = '\t' := by
  simp [isBlank]

/-- Text of a class without blanks neither begins nor ends with one. -/
theorem unblank_ends {keep : Char → Bool} (solid : ∀ char, keep char = true → isBlank char = false)
    (kept : text.all keep = true) :
    text.head?.any isBlank = false ∧ text.getLast?.any isBlank = false := by
  rw [all_eq_true] at kept
  constructor
  · cases head : text.head? with
    | none => rfl
    | some char => exact solid char (kept char (mem_of_mem_head? head))
  · cases last : text.getLast? with
    | none => rfl
    | some char => exact solid char (kept char (mem_of_mem_getLast? last))

/-- A class without the two blanks is one of other characters. -/
theorem isBlank_of_keep {keep : Char → Bool} (space : keep ' ' = false) (tab : keep '\t' = false)
    (char : Char) (kept : keep char = true) : isBlank char = false := by
  by_contra blank
  rw [Bool.not_eq_false, isBlank_iff] at blank
  rcases blank with rfl | rfl
  · cases space.symm.trans kept
  · cases tab.symm.trans kept

/-- A digit is not blank. -/
theorem isBlank_of_isDigit : ∀ char, isDigit char = true → isBlank char = false :=
  isBlank_of_keep (by decide) (by decide)

/-- Stripped of its blanks, a member is its digits. -/
theorem LengthMember.strip_text (member : LengthMember) : strip member.text = member.digits := by
  obtain ⟨begins, ends⟩ := unblank_ends isBlank_of_isDigit member.numeric
  exact trim_append member.blankBefore member.blankAfter begins ends

/-- No length has a comma in it. -/
theorem LengthMember.comma_not_mem (member : LengthMember) : ',' ∉ member.text := by
  intro among
  have blanks : ∀ {gap : Text}, gap.all isBlank = true → ',' ∉ gap := by
    intro gap blank inside
    exact absurd (all_eq_true.mp blank _ inside) (by decide)
  rw [LengthMember.text, mem_append, mem_append] at among
  rcases among with (before | digit) | after
  · exact blanks member.blankBefore before
  · exact absurd (all_eq_true.mp member.numeric _ digit) (by decide)
  · exact blanks member.blankAfter after

/-- Cut at the commas, the text gives the digits of its members. -/
theorem split_lengthsText {members : List LengthMember} (some : members ≠ []) :
    (split [','] (lengthsText members)).map strip = members.map LengthMember.digits := by
  have free : ∀ part ∈ members.map LengthMember.text, ',' ∉ part := by
    intro part listed
    obtain ⟨member, -, rfl⟩ := mem_map.mp listed
    exact member.comma_not_mem
  have parts : split [','] (lengthsText members) = members.map LengthMember.text :=
    split_join_of_not_mem (by simpa using some) free
  rw [parts, map_map]
  apply map_congr_left
  intro member _
  exact member.strip_text

/-- The members of all Content-Length values. -/
def lengthValues (values : List Text) : List Text :=
  values.flatMap fun value => (split [','] value).map strip

/-- Lengths that are distributed over values are found again. -/
theorem lengthValues_lengthsText {fields : List (List LengthMember)}
    (some : ∀ field ∈ fields, field ≠ []) :
    lengthValues (fields.map lengthsText) = fields.flatten.map LengthMember.digits := by
  induction fields with
  | nil => rfl
  | cons field rest ih =>
    obtain ⟨first, others⟩ := forall_mem_cons.mp some
    have later := ih others
    rw [lengthValues] at later
    rw [lengthValues, map_cons, flatMap_cons, later, split_lengthsText first,
      flatten_cons, map_append]

/-- Pieces that are digits between blanks are lengths. -/
theorem exists_lengthMembers {pieces : List Text}
    (numeric : ∀ piece ∈ pieces, strip piece ≠ [] ∧ (strip piece).all isDigit = true) :
    ∃ members : List LengthMember, members.map LengthMember.text = pieces := by
  induction pieces with
  | nil => exact ⟨[], rfl⟩
  | cons piece rest ih =>
    obtain ⟨⟨nonempty, digits⟩, later⟩ := forall_mem_cons.mp numeric
    obtain ⟨members, others⟩ := ih later
    obtain ⟨before, after, whole, blankBefore, blankAfter, -, -⟩ := trim_spec isBlank piece
    refine ⟨⟨before, strip piece, after, blankBefore, blankAfter, nonempty, digits⟩ :: members, ?_⟩
    rw [map_cons, others]
    exact congrArg (· :: rest) whole.symm

/-- Values whose members are all digits list lengths. -/
theorem exists_lengths
    (numeric : ∀ value ∈ lengthValues values, value ≠ [] ∧ value.all isDigit = true) :
    ∃ fields : List (List LengthMember), (∀ field ∈ fields, field ≠ []) ∧
      values = fields.map lengthsText := by
  induction values with
  | nil => exact ⟨[], by simp, rfl⟩
  | cons value rest ih =>
    rw [lengthValues, flatMap_cons] at numeric
    obtain ⟨fields, some, others⟩ := ih fun other listed =>
      numeric other (mem_append_right _ listed)
    have pieces : ∀ piece ∈ split [','] value, strip piece ≠ [] ∧ (strip piece).all isDigit = true := by
      intro piece listed
      exact numeric _ (mem_append_left _ (mem_map_of_mem listed))
    obtain ⟨members, texts⟩ := exists_lengthMembers pieces
    have joined : value = lengthsText members := by
      rw [lengthsText, texts, join_split]
    refine ⟨members :: fields, ?_, by rw [map_cons, ← joined, ← others]⟩
    intro field listed
    rcases mem_cons.mp listed with rfl | later
    · -- Splitting gives one piece at least.
      rintro rfl
      exact splitAux_ne_nil _ _ _ texts.symm
    · exact some field later

/-- Lengths are accepted where they are digits that denote one number. -/
theorem validateLengths_eq_ok :
    validateLengths values = .ok () ↔ AgreeingLengths values := by
  show (if (lengthValues values).any (fun value => value = [] || !value.all isDigit) then _
    else if (lengthValues values).any (fun value =>
      significantDigits value ≠ significantDigits ((lengthValues values).headD [])) then _
    else _) = _ ↔ _
  constructor
  · intro passed
    split at passed
    · cases passed
    rename_i digital
    split at passed
    · cases passed
    rename_i agreeing
    have numeric : ∀ value ∈ lengthValues values, value ≠ [] ∧ value.all isDigit = true := by
      intro value listed
      by_contra flawed
      apply digital
      rw [any_eq_true]
      refine ⟨value, listed, ?_⟩
      by_cases empty : value = []
      · simp [empty]
      · simpa [empty] using flawed
    obtain ⟨fields, some, rfl⟩ := exists_lengths numeric
    refine ⟨fields, textValue ((lengthValues (fields.map lengthsText)).headD []), some, rfl, ?_⟩
    intro member listed
    have among : member.digits ∈ lengthValues (fields.map lengthsText) := by
      rw [lengthValues_lengthsText some]
      exact mem_map_of_mem listed
    have first : ((lengthValues (fields.map lengthsText)).headD []).all isDigit = true := by
      cases found : lengthValues (fields.map lengthsText) with
      | nil => rfl
      | cons value rest => exact (numeric value (by simp [found])).2
    rw [← significantDigits_inj member.numeric first]
    by_contra other
    apply agreeing
    rw [any_eq_true]
    exact ⟨member.digits, among, by simpa using other⟩
  · rintro ⟨fields, length, some, rfl, same⟩
    rw [lengthValues_lengthsText some]
    have numeric : ∀ value ∈ fields.flatten.map LengthMember.digits,
        value ≠ [] ∧ value.all isDigit = true ∧ textValue value = length := by
      intro value listed
      obtain ⟨member, among, rfl⟩ := mem_map.mp listed
      exact ⟨member.nonempty, member.numeric, same member among⟩
    generalize fields.flatten.map LengthMember.digits = found at numeric
    rw [if_neg, if_neg]
    · intro conflict
      obtain ⟨value, listed, other⟩ := any_eq_true.mp conflict
      cases found with
      | nil => cases listed
      | cons first rest =>
        obtain ⟨-, digits, denotes⟩ := numeric value listed
        obtain ⟨-, digits', denotes'⟩ := numeric first (mem_cons_self ..)
        have equal := (significantDigits_inj digits digits').mpr (denotes.trans denotes'.symm)
        simp [equal] at other
    · intro flawed
      obtain ⟨value, listed, wrong⟩ := any_eq_true.mp flawed
      obtain ⟨nonempty, digits, -⟩ := numeric value listed
      rw [digits] at wrong
      simp [nonempty] at wrong

/-! ### Parameters -/

/-- A quoted string ends at the first quote that no backslash takes with it. -/
theorem quotedRest_quotedBody {body : Text} (inside : QuotedBody body) (unbroken : '\n' ∉ body)
    (rest : Text) : quotedRest (body ++ '"' :: rest) = some rest := by
  induction inside with
  | nil => rfl
  | plain noQuote noEscape _ ih =>
    rename_i char text
    have later := ih fun among => unbroken (List.mem_cons_of_mem _ among)
    rw [List.cons_append, quotedRest]
    · rw [if_neg noEscape, later]
    · exact noQuote
    · intro escaped others same
      exact absurd same noEscape
  | escaped char _ ih =>
    rename_i text
    have kept : char ≠ '\n' := by
      rintro rfl
      exact unbroken (by simp)
    have later := ih fun among => unbroken (by simp [among])
    rw [List.cons_append, List.cons_append, quotedRest, if_neg kept, later]

/-- What stands before the closing quote is the inside of a quoted string. -/
theorem quotedBody_of_quotedRest (closed : quotedRest text = some rest) :
    ∃ body, QuotedBody body ∧ text = body ++ '"' :: rest := by
  induction text using quotedRest.induct with
  | case1 => cases closed
  | case2 others =>
    rw [quotedRest] at closed
    exact ⟨[], .nil, by rw [Option.some.inj closed]; rfl⟩
  | case3 others => simp [quotedRest] at closed
  | case4 escaped others kept ih =>
    rw [quotedRest, if_neg kept] at closed
    obtain ⟨body, inside, rfl⟩ := ih closed
    exact ⟨'\\' :: escaped :: body, .escaped escaped inside, rfl⟩
  | case5 others noQuote noEscape =>
    rw [quotedRest] at closed
    · simp at closed
    · exact noQuote
    · exact noEscape
  | case6 char others noQuote noEscape plain ih =>
    rw [quotedRest, if_neg plain] at closed
    · obtain ⟨body, inside, rfl⟩ := ih closed
      exact ⟨char :: body, .plain (fun same => noQuote same) plain inside, rfl⟩
    · exact noQuote
    · exact noEscape

/-- A token is a nonempty text of token characters. -/
theorem isTokenText_iff :
    isTokenText text = true ↔ text ≠ [] ∧ text.all isTokenChar = true := by
  simp [isTokenText]

/-- A token character is not blank. -/
theorem isBlank_of_isTokenChar : ∀ char, isTokenChar char = true → isBlank char = false :=
  isBlank_of_keep (by decide) (by decide)

/-- Blanks are skipped in front of text that begins with something else. -/
theorem dropWhile_blanks (blank : gap.all isBlank = true)
    (begins : text.head?.any isBlank = false) : (gap ++ text).dropWhile isBlank = text :=
  (span_append blank begins).2

/-- Text that begins with blanks, or with what ends a token, does not go on with one. -/
theorem tokenEnd_append (blank : gap.all isBlank = true)
    (ends : text.head?.any isTokenChar = false) :
    (gap ++ text).head?.any isTokenChar = false := by
  cases gap with
  | nil => exact ends
  | cons char gap =>
    have first : isBlank char = true := all_eq_true.mp blank char (mem_cons_self ..)
    show isTokenChar char = false
    by_contra token
    rw [Bool.not_eq_false] at token
    rw [isBlank_of_isTokenChar char token] at first
    cases first

/-- The value of a parameter begins with no blank. -/
theorem parameterValue_begins (valued : IsParameterValue value) (rest : Text) :
    (value ++ rest).head?.any isBlank = false := by
  cases valued with
  | token plain =>
    obtain ⟨nonempty, token⟩ := isTokenText_iff.mp plain
    rw [List.head?_append_of_ne_nil _ nonempty]
    exact (unblank_ends isBlank_of_isTokenChar token).1
  | quoted inside => rfl

/-- A parameter is taken off the front of a text. -/
theorem parameterRest_body (parameter : Parameter) (ends : rest.head?.any isTokenChar = false)
    (unbroken : '\n' ∉ parameter.value) :
    parameterRest (parameter.body ++ rest) = some rest := by
  obtain ⟨beforeSemicolon, afterSemicolon, name, beforeEquals, afterEquals, value, blanks, named,
    valued⟩ := parameter
  have gap : ∀ {text : Text}, text ∈ [afterSemicolon, beforeEquals, afterEquals] →
      text.all isBlank = true := fun listed => blanks _ (mem_cons_of_mem _ listed)
  obtain ⟨nonempty, token⟩ := isTokenText_iff.mp named
  -- The text is passed from left to right.
  have skipped : (afterSemicolon ++ (name ++ (beforeEquals ++ '=' :: (afterEquals ++
      (value ++ rest))))).dropWhile isBlank =
        name ++ (beforeEquals ++ '=' :: (afterEquals ++ (value ++ rest))) := by
    apply dropWhile_blanks (gap (by simp))
    rw [List.head?_append_of_ne_nil _ nonempty]
    exact (unblank_ends isBlank_of_isTokenChar token).1
  have stops : (beforeEquals ++ '=' :: (afterEquals ++ (value ++ rest))).head?.any isTokenChar =
      false := tokenEnd_append (gap (by simp)) rfl
  obtain ⟨taken, left⟩ := span_append token stops
  have equals : (beforeEquals ++ '=' :: (afterEquals ++ (value ++ rest))).dropWhile isBlank =
      '=' :: (afterEquals ++ (value ++ rest)) := dropWhile_blanks (gap (by simp)) rfl
  have valueFirst : (afterEquals ++ (value ++ rest)).dropWhile isBlank = value ++ rest :=
    dropWhile_blanks (gap (by simp)) (parameterValue_begins valued rest)
  have whole : Parameter.body ⟨beforeSemicolon, afterSemicolon, name, beforeEquals, afterEquals,
      value, blanks, named, valued⟩ ++ rest = afterSemicolon ++ (name ++ (beforeEquals ++ '=' :: (afterEquals ++
        (value ++ rest)))) := by
    simp [Parameter.body]
  rw [whole, parameterRest, skipped, taken, left, equals, named]
  simp only [valueFirst]
  cases valued with
  | token plain =>
    obtain ⟨nonempty', token'⟩ := isTokenText_iff.mp plain
    obtain ⟨taken', left'⟩ := span_append token' ends
    split
    · -- A token does not begin with a quote.
      rename_i quoted same
      obtain ⟨first, others, rfl⟩ := exists_cons_of_ne_nil nonempty'
      rw [cons_append] at same
      have quote := all_eq_true.mp token' first (mem_cons_self ..)
      rw [(List.cons.inj same).1] at quote
      exact absurd quote (by decide)
    · rw [taken', left', if_neg nonempty']
  | quoted inside =>
    rename_i body
    have unbroken' : '\n' ∉ body := fun among => unbroken (by simp [among])
    rw [cons_append, append_assoc]
    exact quotedRest_quotedBody inside unbroken' rest

/-- What is passed as a parameter is one. -/
theorem parameter_of_parameterRest (blank : gap.all isBlank = true)
    (passed : parameterRest text = some rest) :
    ∃ parameter : Parameter, parameter.beforeSemicolon = gap ∧ text = parameter.body ++ rest := by
  unfold parameterRest at passed
  simp only at passed
  split at passed
  · rename_i value named equals
    -- Everything that was passed is put together again.
    have first := (takeWhile_append_dropWhile (p := isBlank) (l := text)).symm
    have second := (takeWhile_append_dropWhile (p := isTokenChar)
      (l := text.dropWhile isBlank)).symm
    have third := (takeWhile_append_dropWhile (p := isBlank)
      (l := (text.dropWhile isBlank).dropWhile isTokenChar)).symm
    have fourth := (takeWhile_append_dropWhile (p := isBlank) (l := value)).symm
    rw [equals] at third
    have assemble (literal : Text) (valued : IsParameterValue literal)
        (left : value.dropWhile isBlank = literal ++ rest) :
        ∃ parameter : Parameter, parameter.beforeSemicolon = gap ∧
          text = parameter.body ++ rest := by
      refine ⟨⟨gap, text.takeWhile isBlank, (text.dropWhile isBlank).takeWhile isTokenChar,
        ((text.dropWhile isBlank).dropWhile isTokenChar).takeWhile isBlank, value.takeWhile isBlank,
        literal, ?_, named, valued⟩, rfl, ?_⟩
      · intro space listed
        simp only [mem_cons, not_mem_nil, or_false] at listed
        rcases listed with rfl | rfl | rfl | rfl
        · exact blank
        · exact all_takeWhile
        · exact all_takeWhile
        · exact all_takeWhile
      · rw [left] at fourth
        simp only [Parameter.body, append_assoc, cons_append]
        rw [← fourth, ← third, ← second, ← first]
    split at passed
    · rename_i quoted begins
      obtain ⟨body, inside, rfl⟩ := quotedBody_of_quotedRest passed
      exact assemble _ (.quoted inside) (by rw [begins]; simp)
    · split at passed
      · cases passed
      · rename_i plain
        have token : isTokenText ((value.dropWhile isBlank).takeWhile isTokenChar) = true :=
          isTokenText_iff.mpr ⟨plain, all_takeWhile⟩
        refine assemble _ (.token token) ?_
        rw [← Option.some.inj passed, takeWhile_append_dropWhile]
  · cases passed

/-- What follows a parameter begins with a blank or a semicolon, if there is anything. -/
theorem parameters_begin (parameters : List Parameter) (blank : blanks.all isBlank = true) :
    (parameters.flatMap Parameter.text ++ blanks).head?.any isTokenChar = false := by
  cases parameters with
  | nil =>
    have only : (blanks ++ []).head?.any isTokenChar = false := tokenEnd_append blank rfl
    rwa [append_nil] at only
  | cons parameter rest =>
    have gap := parameter.blanks parameter.beforeSemicolon (mem_cons_self ..)
    rw [flatMap_cons, Parameter.text, append_assoc, append_assoc]
    exact tokenEnd_append gap rfl

/-- A list of parameters is recognized as one. -/
theorem onlyParameters_text (parameters : List Parameter) (blank : blanks.all isBlank = true)
    (unbroken : '\n' ∉ parameters.flatMap Parameter.text)
    (enough : (parameters.flatMap Parameter.text ++ blanks).length < turns) :
    onlyParameters turns (parameters.flatMap Parameter.text ++ blanks) = true := by
  -- The induction is on the parameters; a turn is left for each of their characters.
  induction parameters generalizing turns with
  | nil =>
    obtain ⟨turns, rfl⟩ : ∃ more, turns = more + 1 := ⟨turns - 1, by omega⟩
    have gone : (blanks ++ []).dropWhile isBlank = [] := dropWhile_blanks blank rfl
    rw [append_nil] at gone
    rw [flatMap_nil, nil_append, onlyParameters, gone]
  | cons parameter rest ih =>
    obtain ⟨turns, rfl⟩ : ∃ more, turns = more + 1 := ⟨turns - 1, by omega⟩
    have gap := parameter.blanks parameter.beforeSemicolon (mem_cons_self ..)
    rw [flatMap_cons, mem_append, not_or] at unbroken
    have whole : (parameter :: rest).flatMap Parameter.text ++ blanks =
        parameter.beforeSemicolon ++ ';' :: (parameter.body ++
          (rest.flatMap Parameter.text ++ blanks)) := by
      simp [Parameter.text]
    rw [whole] at enough ⊢
    have passed := parameterRest_body parameter (parameters_begin rest blank) (by
      intro among
      exact unbroken.1 (by simp [Parameter.text, Parameter.body, among]))
    rw [onlyParameters, dropWhile_blanks gap rfl]
    simp only [passed]
    apply ih unbroken.2
    simp only [length_append, length_cons] at enough ⊢
    omega

/-- What is recognized is a list of parameters and blanks. -/
theorem parameters_of_onlyParameters (only : onlyParameters turns text = true) :
    ∃ (parameters : List Parameter) (blanks : Text), blanks.all isBlank = true ∧
      text = parameters.flatMap Parameter.text ++ blanks := by
  -- The induction is on the turns, each of which passes one parameter.
  induction turns generalizing text with
  | zero => cases only
  | succ turns ih =>
    have cut := (takeWhile_append_dropWhile (p := isBlank) (l := text)).symm
    have gap : (text.takeWhile isBlank).all isBlank = true := all_takeWhile
    rw [onlyParameters] at only
    split at only
    · rename_i nothing
      refine ⟨[], text.takeWhile isBlank, gap, ?_⟩
      rw [nothing, append_nil] at cut
      exact cut
    · rename_i parameterText semicolon
      split at only
      · rename_i rest passed
        obtain ⟨parameter, before, rfl⟩ := parameter_of_parameterRest gap passed
        obtain ⟨parameters, blanks, blank, rfl⟩ := ih only
        refine ⟨parameter :: parameters, blanks, blank, ?_⟩
        rw [semicolon, ← before] at cut
        rw [cut]
        simp [Parameter.text]
      · cases only
    · cases only

/-! ### Codings -/

/-- The name of a coding is read from its text. -/
theorem transferCoding_text (coding : Coding) (unbroken : '\n' ∉ coding.text) :
    transferCoding coding.text = some coding.name := by
  obtain ⟨nonempty, token⟩ := isTokenText_iff.mp coding.named
  have begins := parameters_begin coding.parameters (show ([] : Text).all isBlank = true from rfl)
  rw [append_nil] at begins
  obtain ⟨taken, left⟩ := span_append token begins
  rw [Coding.text, mem_append, not_or] at unbroken
  have enough : (coding.parameters.flatMap Parameter.text ++ []).length < coding.text.length + 1 := by
    rw [append_nil, Coding.text, length_append]
    omega
  have only := onlyParameters_text coding.parameters (show ([] : Text).all isBlank = true from rfl)
    unbroken.2 enough
  rw [append_nil] at only
  have parts : coding.text = coding.name ++ coding.parameters.flatMap Parameter.text := rfl
  rw [← parts] at taken left
  rw [transferCoding, taken, left]
  exact if_pos ⟨nonempty, only⟩

/-- Text behind which blanks were trimmed does not end with blanks. -/
theorem blanks_eq_nil {front : Text} (blank : blanks.all isBlank = true)
    (ends : (front ++ blanks).getLast?.any isBlank = false) : blanks = [] := by
  by_contra some
  rw [List.getLast?_append_of_ne_nil _ some, List.getLast?_eq_some_getLast some] at ends
  rw [Option.any_some, all_eq_true.mp blank _ (getLast_mem some)] at ends
  cases ends

/-- A text with a name is that of a coding. -/
theorem coding_of_transferCoding {name : Text} (ends : value.getLast?.any isBlank = false)
    (known : transferCoding value = some name) :
    ∃ coding : Coding, coding.name = name ∧ coding.text = value := by
  unfold transferCoding at known
  simp only at known
  split at known
  · rename_i wellFormed
    obtain ⟨parameters, blanks, blank, left⟩ := parameters_of_onlyParameters wellFormed.2
    have whole := (takeWhile_append_dropWhile (p := isTokenChar) (l := value)).symm
    rw [left, ← append_assoc] at whole
    have none : blanks = [] := by
      rw [whole] at ends
      exact blanks_eq_nil blank ends
    rw [none, append_nil, Option.some.inj known] at whole
    have token : isTokenText name = true := by
      rw [← Option.some.inj known]
      exact isTokenText_iff.mpr ⟨wellFormed.1, all_takeWhile⟩
    exact ⟨⟨name, parameters, token⟩, rfl, whole.symm⟩
  · cases known

/-- Only parameters bring a semicolon. -/
theorem semicolon_mem_text (coding : Coding) : ';' ∈ coding.text ↔ coding.parameters ≠ [] := by
  obtain ⟨-, token⟩ := isTokenText_iff.mp coding.named
  have free : ';' ∉ coding.name := by
    intro among
    exact absurd (all_eq_true.mp token _ among) (by decide)
  rw [Coding.text, mem_append, or_iff_right free]
  cases coding.parameters with
  | nil => simp
  | cons parameter rest => simp [Parameter.text]

/-- The name that a coding is listed by. -/
def Coding.label (coding : Coding) : Text := lower coding.name

/-- Chunked codings have no parameters. -/
def PlainChunked (codings : List Coding) : Prop :=
  ∀ coding ∈ codings, coding.IsChunked → coding.parameters = []

/-- A coding is accepted, unless it is chunked with parameters. -/
theorem checkTransferCoding_text {coding : Coding} (unbroken : '\n' ∉ coding.text)
    (plain : coding.IsChunked → coding.parameters = []) :
    checkTransferCoding coding.text = .ok coding.label := by
  have accepted : ¬ (lower coding.name = "chunked".toList ∧ coding.text.contains ';' = true) := by
    rintro ⟨chunked, semicolon⟩
    rw [contains_iff_mem, semicolon_mem_text] at semicolon
    exact semicolon (plain chunked)
  rw [checkTransferCoding, transferCoding_text coding unbroken]
  exact if_neg accepted

/-- No other text is accepted. -/
theorem coding_of_checkTransferCoding {label : Text} (ends : value.getLast?.any isBlank = false)
    (checked : checkTransferCoding value = .ok label) :
    ∃ coding : Coding, coding.text = value ∧ coding.label = label ∧
      (coding.IsChunked → coding.parameters = []) := by
  unfold checkTransferCoding at checked
  split at checked
  · cases checked
  · rename_i name known
    obtain ⟨coding, rfl, rfl⟩ := coding_of_transferCoding ends known
    split at checked
    · cases checked
    · rename_i accepted
      refine ⟨coding, rfl, Except.ok.inj checked, ?_⟩
      intro chunked
      by_contra parameters
      apply accepted
      rw [contains_iff_mem, semicolon_mem_text]
      exact ⟨chunked, parameters⟩

/-- A list of such codings is accepted. -/
theorem mapM_checkTransferCoding (unbroken : ∀ coding ∈ codings, '\n' ∉ coding.text)
    (plain : PlainChunked codings) :
    (codings.map Coding.text).mapM checkTransferCoding = .ok (codings.map Coding.label) := by
  induction codings with
  | nil => rfl
  | cons coding rest ih =>
    obtain ⟨unbroken, unbroken'⟩ := forall_mem_cons.mp unbroken
    obtain ⟨plain, plain'⟩ := forall_mem_cons.mp plain
    exact mapM_cons_eq_ok.mpr
      ⟨_, _, checkTransferCoding_text unbroken plain, ih unbroken' plain', rfl⟩

/-- An accepted list is one of codings. -/
theorem codings_of_mapM {members labels : List Text}
    (ends : ∀ member ∈ members, member.getLast?.any isBlank = false)
    (checked : members.mapM checkTransferCoding = .ok labels) :
    ∃ codings : List Coding, codings.map Coding.text = members ∧ labels = codings.map Coding.label ∧
      PlainChunked codings := by
  induction members generalizing labels with
  | nil =>
    cases checked
    exact ⟨[], rfl, rfl, by intro coding listed; cases listed⟩
  | cons member rest ih =>
    obtain ⟨label, others, first, later, rfl⟩ := mapM_cons_eq_ok.mp checked
    obtain ⟨here, behind⟩ := forall_mem_cons.mp ends
    obtain ⟨coding, rfl, rfl, plain⟩ := coding_of_checkTransferCoding here first
    obtain ⟨codings, rfl, rfl, plain'⟩ := ih behind later
    exact ⟨coding :: codings, rfl, rfl, forall_mem_cons.mpr ⟨plain, plain'⟩⟩

/-- A final chunked coding has no parameters. -/
theorem EndsChunked.plain (ends : EndsChunked codings) :
    PlainChunked codings := by
  obtain ⟨others, final, rfl, -, plain, single⟩ := ends
  intro coding listed chunked
  rcases mem_append.mp listed with other | last
  · exact absurd chunked (single coding other)
  · rw [mem_singleton.mp last]
    exact plain

/-- The check on the labels finds whether the last coding, and no other, is chunked. -/
theorem endsChunked_iff (plain : PlainChunked codings) :
    EndsChunked codings ↔ (codings.map Coding.label).getLast? = some "chunked".toList ∧
      (codings.map Coding.label).count "chunked".toList = 1 := by
  constructor
  · rintro ⟨others, final, rfl, chunked, -, single⟩
    have none : (others.map Coding.label).count "chunked".toList = 0 := by
      rw [count_eq_zero]
      intro listed
      obtain ⟨other, among, same⟩ := mem_map.mp listed
      exact single other among same
    have last : final.label = "chunked".toList := chunked
    rw [map_append, map_singleton, count_append, none, last]
    simp
  · rintro ⟨last, once⟩
    rcases eq_nil_or_concat codings with rfl | ⟨others, final, rfl⟩
    · simp at last
    · rw [concat_eq_append, map_append, map_singleton] at last once
      have chunked : final.label = "chunked".toList := by simpa using last
      refine ⟨others, final, concat_eq_append, chunked, ?_, ?_⟩
      · apply plain final _ chunked
        simp
      · -- A second chunked coding would be counted.
        intro other among second
        rw [count_append, chunked, count_singleton_self] at once
        have counted : 0 < (others.map Coding.label).count "chunked".toList :=
          count_pos_iff.mpr (mem_map.mpr ⟨other, among, second⟩)
        omega

/-! ### Transfer-Encoding fields -/

/-- The members of a list are text of the fields. -/
theorem not_mem_member {slots : List Slot} {member : Text} (absent : char ∉ slotsText slots)
    (listed : member ∈ slots.filterMap Slot.content) :
    char ∉ member := by
  intro among
  obtain ⟨slot, position, content⟩ := mem_filterMap.mp listed
  apply absent
  apply mem_join (mem_map_of_mem position)
  rw [Slot.text, content]
  simp [among]

/-- Without a line break in the fields there is none in a coding. -/
theorem ListsCodings.unbroken (lists : ListsCodings values codings)
    (unbroken : '\n' ∉ join [','] values) :
    ∀ coding ∈ codings, '\n' ∉ coding.text := by
  obtain ⟨slots, text, members⟩ := lists
  rw [text] at unbroken
  intro coding listed
  apply not_mem_member unbroken
  rw [members]
  exact mem_map_of_mem listed

/-- Fields that list codings, of which the last is chunked, are refused for an unknown one only. -/
theorem validateEncodings_of_lists (lists : ListsCodings values codings)
    (unbroken : '\n' ∉ join [','] values) (ends : EndsChunked codings) :
    validateEncodings values =
      if (codings.map Coding.label).any (fun label => label ∉ knownTransferCodings) then
        .error (.http1 "Transfer coding is not supported" 501)
      else .ok () := by
  have checked := mapM_checkTransferCoding (lists.unbroken unbroken) ends.plain
  obtain ⟨last, once⟩ := (endsChunked_iff ends.plain).mp ends
  obtain ⟨slots, text, members⟩ := lists
  have parsed : parseHttpTexts values = .ok (codings.map Coding.text) := by
    rw [parseHttpTexts_eq, text, (parseListLoop_slots slots []).1, nil_append, members]
  unfold validateEncodings
  rw [parsed]
  show ((codings.map Coding.text).mapM checkTransferCoding >>= _) = _
  rw [checked]
  have ended : ¬ ((codings.map Coding.label).getLast? ≠ some "chunked".toList ∨
      (codings.map Coding.label).count "chunked".toList ≠ 1) := by
    rintro (other | several)
    · exact other last
    · exact several once
  show (if _ then _ else _) = _
  rw [if_neg ended]
  rfl

/-- Other fields are refused, and not for an unknown coding. -/
theorem validateEncodings_cases (values : List Text) :
    (∃ codings, ListsCodings values codings ∧ EndsChunked codings) ∨
      ∃ raised, validateEncodings values = .error raised ∧ raised.isOtherHttp1 = true := by
  unfold validateEncodings
  cases parsed : parseHttpTexts values with
  | error message => exact .inr ⟨badRequest message, rfl, rfl⟩
  | ok members =>
    obtain ⟨slots, -, text, rfl⟩ := slots_of_parseHttpTexts parsed
    have ends : ∀ member ∈ slots.filterMap Slot.content, member.getLast?.any isBlank = false := by
      intro member listed
      obtain ⟨slot, -, content⟩ := mem_filterMap.mp listed
      obtain ⟨inside, -, rfl⟩ := Option.map_eq_some_iff.mp content
      exact inside.property.ends
    show _ ∨ ∃ raised, ((slots.filterMap Slot.content).mapM checkTransferCoding >>= _) = _ ∧ _
    cases checked : (slots.filterMap Slot.content).mapM checkTransferCoding with
    | error raised =>
      exact .inr ⟨raised, rfl, raisesOnly_mapM raisesOnly_checkTransferCoding _ raised checked⟩
    | ok labels =>
      obtain ⟨codings, members, rfl, plain⟩ := codings_of_mapM ends checked
      by_cases ended : EndsChunked codings
      · exact .inl ⟨codings, ⟨slots, text, members.symm⟩, ended⟩
      · -- Codings without the final one are refused before the unknown ones.
        rw [endsChunked_iff plain, not_and_or] at ended
        exact .inr ⟨_, if_pos ended, rfl⟩

/-- An unknown label is that of an unknown coding. -/
theorem any_unknown_iff :
    (codings.map Coding.label).any (fun label => label ∉ knownTransferCodings) = true ↔
      ∃ coding ∈ codings, ¬ coding.Known := by
  simp only [any_map, any_eq_true, Function.comp_apply, decide_eq_true_eq]
  rfl

/-- Accepted are lists of known codings that end in chunked. -/
theorem validateEncodings_eq_ok (unbroken : '\n' ∉ join [','] values) :
    validateEncodings values = .ok () ↔ ∃ codings, ListsCodings values codings ∧
      EndsChunked codings ∧ ∀ coding ∈ codings, coding.Known := by
  constructor
  · intro accepted
    rcases validateEncodings_cases values with ⟨codings, lists, ends⟩ | ⟨raised, rejected, -⟩
    · refine ⟨codings, lists, ends, ?_⟩
      intro coding listed
      by_contra unknown
      rw [validateEncodings_of_lists lists unbroken ends,
        if_pos (any_unknown_iff.mpr ⟨coding, listed, unknown⟩)] at accepted
      cases accepted
    · cases rejected.symm.trans accepted
  · rintro ⟨codings, lists, ends, known⟩
    rw [validateEncodings_of_lists lists unbroken ends, if_neg]
    intro unknown
    obtain ⟨coding, listed, other⟩ := any_unknown_iff.mp unknown
    exact other (known coding listed)

/-- An unknown coding is not implemented. -/
theorem validateEncodings_unsupported (unbroken : '\n' ∉ join [','] values) :
    (∃ message, validateEncodings values = .error (.http1 message 501)) ↔
      ∃ codings, ListsCodings values codings ∧ EndsChunked codings ∧
        ∃ coding ∈ codings, ¬ coding.Known := by
  constructor
  · rintro ⟨message, unsupported⟩
    rcases validateEncodings_cases values with ⟨codings, lists, ends⟩ | ⟨raised, rejected, other⟩
    · refine ⟨codings, lists, ends, ?_⟩
      rw [← any_unknown_iff]
      by_contra known
      rw [validateEncodings_of_lists lists unbroken ends, if_neg known] at unsupported
      cases unsupported
    · cases rejected.symm.trans unsupported
      cases other
  · rintro ⟨codings, lists, ends, unknown⟩
    rw [validateEncodings_of_lists lists unbroken ends, if_pos (any_unknown_iff.mpr unknown)]
    exact ⟨_, rfl⟩

/-- A list of no values has no members, and so no chunked one at its end. -/
theorem not_endsChunked_of_nil (lists : ListsCodings [] codings) :
    ¬ EndsChunked codings := by
  obtain ⟨slots, text, members⟩ := lists
  have parsed := (parseListLoop_slots slots []).1
  rw [← text, members] at parsed
  rintro ⟨others, final, rfl, -⟩
  have empty : [] = (others ++ [final]).map Coding.text := Except.ok.inj parsed
  simp at empty

/-! ### The framing of a request -/

section Framing

variable {headers : List (Text × Text)}

/-- A length and an encoding exclude each other. -/
theorem validateFraming_both (lengths : fieldTexts headers "content-length" ≠ [])
    (encodings : fieldTexts headers "transfer-encoding" ≠ []) :
    validateFraming headers =
      .error (badRequest "Transfer-Encoding and Content-Length cannot be combined") := by
  simp only [validateFraming, if_pos (And.intro lengths encodings)]
  rfl

/-- Without an encoding only lengths are checked. -/
theorem validateFraming_lengths (encodings : fieldTexts headers "transfer-encoding" = []) :
    validateFraming headers = validateLengths (fieldTexts headers "content-length") := by
  by_cases lengths : fieldTexts headers "content-length" = []
  · simp only [validateFraming, lengths, encodings, ne_eq, not_true_eq_false, false_and, if_false]
    rfl
  · simp only [validateFraming, lengths, encodings, ne_eq, not_true_eq_false, and_false, if_false,
      not_false_eq_true, if_true]
    cases validateLengths (fieldTexts headers "content-length") <;> rfl

/-- Without a length only encodings are checked. -/
theorem validateFraming_encodings (lengths : fieldTexts headers "content-length" = [])
    (encodings : fieldTexts headers "transfer-encoding" ≠ []) :
    validateFraming headers = validateEncodings (fieldTexts headers "transfer-encoding") := by
  simp only [validateFraming, lengths, encodings, ne_eq, not_true_eq_false, false_and, if_false,
    not_false_eq_true, if_true]

/-- No lengths at all agree. -/
theorem agreeingLengths_nil : AgreeingLengths [] := ⟨[], 0, by simp, rfl, by simp⟩

/-- The values of the fields are free of line breaks. -/
def Unbroken (headers : List (Text × Text)) : Prop := ∀ field ∈ headers, '\n' ∉ field.2

/-- Joined fields have no line break if none of them has. -/
theorem Unbroken.join (unbroken : Unbroken headers) (name : String) :
    '\n' ∉ Search.join [','] (fieldTexts headers name) := by
  apply not_mem_join (by decide)
  intro value listed
  obtain ⟨field, among, rfl⟩ := mem_map.mp listed
  exact unbroken field (mem_of_mem_filter among)

/-- The framing is accepted where it is unambiguous. -/
theorem validateFraming_eq_ok (unbroken : Unbroken headers) :
    validateFraming headers = .ok () ↔ Framed headers := by
  have encodingsOk := validateEncodings_eq_ok (unbroken.join "transfer-encoding")
  by_cases encodings : fieldTexts headers "transfer-encoding" = []
  · rw [validateFraming_lengths encodings, validateLengths_eq_ok]
    constructor
    · intro agree
      exact ⟨.inr encodings, agree, fun some => absurd encodings some⟩
    · intro framed
      exact framed.lengths
  · by_cases lengths : fieldTexts headers "content-length" = []
    · rw [validateFraming_encodings lengths encodings, encodingsOk]
      constructor
      · intro codings
        refine ⟨.inl lengths, ?_, fun _ => codings⟩
        rw [lengths]
        exact agreeingLengths_nil
      · intro framed
        exact framed.codings encodings
    · rw [validateFraming_both lengths encodings]
      constructor
      · intro accepted
        cases accepted
      · intro framed
        rcases framed.exclusive with none | none
        · exact absurd none lengths
        · exact absurd none encodings

/-- The framing is reported as not supported where nothing but an unknown coding is wrong. -/
theorem validateFraming_unsupported (unbroken : Unbroken headers) :
    (∃ message, validateFraming headers = .error (.http1 message 501)) ↔
      OnlyUnknownCoding headers := by
  have unsupported := validateEncodings_unsupported (unbroken.join "transfer-encoding")
  by_cases encodings : fieldTexts headers "transfer-encoding" = []
  · rw [validateFraming_lengths encodings]
    constructor
    · rintro ⟨message, raised⟩
      cases raisesOnly_validateLengths _ _ raised
    · rintro ⟨-, codings, lists, ends, -⟩
      rw [encodings] at lists
      exact absurd ends (not_endsChunked_of_nil lists)
  · by_cases lengths : fieldTexts headers "content-length" = []
    · rw [validateFraming_encodings lengths encodings, unsupported]
      constructor
      · intro codings
        exact ⟨lengths, codings⟩
      · intro only
        exact only.2
    · rw [validateFraming_both lengths encodings]
      constructor
      · rintro ⟨message, raised⟩
        cases raised
      · intro only
        exact absurd only.1 lengths

end Framing

/-- The values of a valid head are free of line breaks. -/
theorem RequestHead.Unframed.headers_unbroken {library : UriLibrary} {head : RequestHead}
    (valid : head.Unframed library) : Unbroken head.headers := by
  intro field listed
  obtain ⟨line, among, rfl⟩ := mem_map.mp listed
  have clean := (valid.fields line among).clean
  show '\n' ∉ asText line.value
  intro broken
  obtain ⟨octet, inside, same⟩ := mem_map.mp broken
  have value : octet.toNat = 10 := by
    rw [← toNat_ofNat_octet octet, same]
    rfl
  have control : octet = 0x0A := UInt8.toNat_inj.mp value
  rw [control] at inside
  exact absurd (any_eq_false.mp clean _ inside) (by decide)

/--
Accepted requests have unambiguous framing.

What is returned has agreeing lengths or known codings with a final chunked one, but never both.
A head that is valid otherwise is accepted if its framing is unambiguous. It is reported as not
supported exactly where only an unknown coding is at fault.
-/
theorem parseRequest_framing {library : UriLibrary} (documented : library.Documented) (raw : Bytes) :
    (∀ request, parseRequest library raw = .ok request → Framed request.headers) ∧
    (∀ head : RequestHead, head.Unframed library → throughHeadEnd raw = some head.bytes →
      head.bytes.length ≤ maxHeadSize → Framed head.headers →
        parseRequest library raw = .ok head.request) ∧
    ((∃ message, parseRequest library raw = .error (.http1 message 501)) ↔
      ∃ head : RequestHead, head.Unframed library ∧ throughHeadEnd raw = some head.bytes ∧
        head.bytes.length ≤ maxHeadSize ∧ OnlyUnknownCoding head.headers) := by
  refine ⟨?_, ?_, ?_⟩
  · intro request parsed
    obtain ⟨head, valid, -, -, rfl⟩ := (parseRequest_eq_ok documented).mp parsed
    obtain ⟨unframed, framing⟩ := RequestHead.valid_iff.mp valid
    exact (validateFraming_eq_ok unframed.headers_unbroken).mp framing
  · intro head unframed through fits framed
    have framing := (validateFraming_eq_ok unframed.headers_unbroken).mpr framed
    rw [parseRequest_unframed documented unframed through fits, framing]
    rfl
  · constructor
    · rintro ⟨message, unsupported⟩
      rcases parseRequest_cases documented raw with
        ⟨head, unframed, through, fits⟩ | ⟨raised, rejected, other⟩
      · -- The head is valid up to its framing, which is what is refused.
        refine ⟨head, unframed, through, fits, ?_⟩
        rw [← validateFraming_unsupported unframed.headers_unbroken]
        rw [parseRequest_unframed documented unframed through fits] at unsupported
        cases checked : validateFraming head.headers with
        | error raised =>
          rw [checked] at unsupported
          exact ⟨message, congrArg Except.error (Except.error.inj unsupported)⟩
        | ok value =>
          rw [checked] at unsupported
          cases unsupported
      · cases rejected.symm.trans unsupported
        cases other
    · rintro ⟨head, unframed, through, fits, only⟩
      obtain ⟨message, unsupported⟩ :=
        (validateFraming_unsupported unframed.headers_unbroken).mpr only
      rw [parseRequest_unframed documented unframed through fits, unsupported]
      exact ⟨message, rfl⟩

/-- A request with a length that is spelled in two ways. -/
theorem parseRequest_framing_lengths : Framed [("Host".toList, "a".toList),
    ("Content-Length".toList, "05, 5".toList)] := by
  have parsed : parseRequest referenceUris
      (ascii "GET / HTTP/1.1\r\nHost: a\r\nContent-Length: 05, 5\r\n\r\n") = .ok {
        method := "GET".toList
        path := "/".toList
        headers := [("Host".toList, "a".toList), ("Content-Length".toList, "05, 5".toList)]
        rawHead := ascii "GET / HTTP/1.1\r\nHost: a\r\nContent-Length: 05, 5\r\n\r\n" } := by
    decide +kernel
  exact (parseRequest_framing referenceUris_documented _).1 _ parsed

end SolveTls
