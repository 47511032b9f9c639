import SolveTls.Base.Search
import SolveTls.Http.Fields

/-! What comma-separated field lists are made of, independent of any scanner. -/

namespace SolveTls

/-- The inside of a quoted string, where a backslash takes the next character with it. -/
inductive QuotedBody : Text → Prop where
  | nil : QuotedBody []
  | plain {char : Char} {rest : Text} (noQuote : char ≠ '"') (noEscape : char ≠ '\\')
    (body : QuotedBody rest) : QuotedBody (char :: rest)
  | escaped (char : Char) {rest : Text} (body : QuotedBody rest) :
    QuotedBody ('\\' :: char :: rest)

/-- Text with balanced quotes, and only some of the characters outside of them. -/
inductive Balanced (outside : Char → Prop) : Text → Prop where
  | nil : Balanced outside []
  | plain {char : Char} {rest : Text} (noQuote : char ≠ '"') (allowed : outside char)
    (others : Balanced outside rest) : Balanced outside (char :: rest)
  | quoted {body rest : Text} (inside : QuotedBody body) (others : Balanced outside rest) :
    Balanced outside ('"' :: (body ++ '"' :: rest))

/-- What follows a quote that is never closed; a last backslash has nothing to take with it. -/
def Unclosed (body : Text) : Prop :=
  QuotedBody body ∨ ∃ complete, body = complete ++ ['\\'] ∧ QuotedBody complete

/-- Text that ends inside a quoted string. -/
def EndsQuoted (text : Text) : Prop :=
  ∃ front body, text = front ++ '"' :: body ∧ Balanced (fun _ => True) front ∧ Unclosed body

/-- A list member: not empty, without blanks around it, and without a comma outside of quotes. -/
structure IsMember (text : Text) : Prop where
  nonempty : text ≠ []
  begins : text.head?.any isBlank = false
  ends : text.getLast?.any isBlank = false
  balanced : Balanced (· ≠ ',') text

/-- What stands between two separating commas: a member or nothing, with blanks around it. -/
structure Slot where
  before : Text
  member : Option { text : Text // IsMember text }
  after : Text
  blankBefore : before.all isBlank = true
  blankAfter : after.all isBlank = true

/-- The text of the member, if there is one. -/
def Slot.content (slot : Slot) : Option Text := slot.member.map Subtype.val

def Slot.text (slot : Slot) : Text := slot.before ++ slot.content.getD [] ++ slot.after

/-- Slots with commas between them. -/
def slotsText (slots : List Slot) : Text := Search.join [','] (slots.map Slot.text)

end SolveTls
