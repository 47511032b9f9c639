import SolveTls.Http.ListGrammar
import SolveTls.Http1.RequestFormat

/-! The framing of a request, as what its Content-Length and Transfer-Encoding fields list. -/

namespace SolveTls

open Search

/-! ### Lengths -/

/-- One length in a list: digits with blanks around them. -/
structure LengthMember where
  before : Text
  digits : Text
  after : Text
  blankBefore : before.all isBlank = true
  blankAfter : after.all isBlank = true
  nonempty : digits ≠ []
  numeric : digits.all isDigit = true

def LengthMember.text (member : LengthMember) : Text := member.before ++ member.digits ++ member.after

/-- The value of a field that lists lengths. -/
def lengthsText (members : List LengthMember) : Text := join [','] (members.map LengthMember.text)

/-- Field values that list at least one length each, and the same number everywhere. -/
def AgreeingLengths (values : List Text) : Prop :=
  ∃ (fields : List (List LengthMember)) (length : Nat), (∀ field ∈ fields, field ≠ []) ∧
    values = fields.map lengthsText ∧
    ∀ member ∈ fields.flatten, textValue member.digits = length

/-! ### Transfer codings -/

/-- The value of a parameter is a token or a quoted string. -/
inductive IsParameterValue : Text → Prop where
  | token {text : Text} (plain : isTokenText text = true) : IsParameterValue text
  | quoted {body : Text} (inside : QuotedBody body) : IsParameterValue ('"' :: (body ++ ['"']))

/-- A parameter of a transfer coding, with the blanks around its semicolon and its equals sign. -/
structure Parameter where
  beforeSemicolon : Text
  afterSemicolon : Text
  name : Text
  beforeEquals : Text
  afterEquals : Text
  value : Text
  blanks : ∀ gap ∈ [beforeSemicolon, afterSemicolon, beforeEquals, afterEquals],
    gap.all isBlank = true
  named : isTokenText name = true
  valued : IsParameterValue value

/-- What stands behind the semicolon of a parameter. -/
def Parameter.body (parameter : Parameter) : Text :=
  parameter.afterSemicolon ++ (parameter.name ++ (parameter.beforeEquals ++
    '=' :: (parameter.afterEquals ++ parameter.value)))

def Parameter.text (parameter : Parameter) : Text :=
  parameter.beforeSemicolon ++ ';' :: parameter.body

/-- A transfer coding: its name, which is a token, and its parameters. -/
structure Coding where
  name : Text
  parameters : List Parameter
  named : isTokenText name = true

namespace Coding

def text (coding : Coding) : Text := coding.name ++ coding.parameters.flatMap Parameter.text

/-- Names are compared without regard to case. -/
def IsChunked (coding : Coding) : Prop := lower coding.name = "chunked".toList

def Known (coding : Coding) : Prop := lower coding.name ∈ knownTransferCodings

end Coding

/-- Field values that, combined into one list, have codings as their members. -/
def ListsCodings (values : List Text) (codings : List Coding) : Prop :=
  ∃ slots : List Slot, join [','] values = slotsText slots ∧
    slots.filterMap Slot.content = codings.map Coding.text

/-- The last coding, and no other, is chunked; it has no parameters. -/
def EndsChunked (codings : List Coding) : Prop :=
  ∃ others final, codings = others ++ [final] ∧ final.IsChunked ∧ final.parameters = [] ∧
    ∀ other ∈ others, ¬ other.IsChunked

/-! ### Both together -/

/-- The framing of a request is unambiguous. -/
structure Framed (headers : List (Text × Text)) : Prop where
  exclusive : fieldTexts headers "content-length" = [] ∨ fieldTexts headers "transfer-encoding" = []
  lengths : AgreeingLengths (fieldTexts headers "content-length")
  codings : fieldTexts headers "transfer-encoding" ≠ [] → ∃ codings,
    ListsCodings (fieldTexts headers "transfer-encoding") codings ∧ EndsChunked codings ∧
      ∀ coding ∈ codings, coding.Known

/-- The framing would be unambiguous if all of its codings were known. -/
def OnlyUnknownCoding (headers : List (Text × Text)) : Prop :=
  fieldTexts headers "content-length" = [] ∧ ∃ codings,
    ListsCodings (fieldTexts headers "transfer-encoding") codings ∧ EndsChunked codings ∧
      ∃ coding ∈ codings, ¬ coding.Known

end SolveTls
