import SolveTls.Proofs.Errors
import SolveTls.Proofs.Http1.Characters

/-! The request parser accepts exactly the heads of the format, and returns their parts. -/

namespace SolveTls

open Fallible Search List

variable {octets line raw : Bytes} {text method : Text} {octet : UInt8} {library : UriLibrary}
  {lines : List Bytes} {headers : List (Text × Text)} {head : RequestHead}

/-! ### Octets of tokens and targets -/

/-- ASCII is decoded octet by octet. -/
theorem decodeAscii_eq_some :
    decodeAscii octets = some text ↔ octets.all (· < 0x80) = true ∧ text = asText octets := by
  unfold decodeAscii
  by_cases small : octets.all (· < 0x80) = true
  · rw [if_pos small]
    exact ⟨fun same => ⟨small, (Option.some.inj same).symm⟩, fun both => by rw [both.2]⟩
  · rw [if_neg small]
    exact ⟨(by intros; contradiction), fun both => absurd both.1 small⟩

/-- An octet whose character is printable is neither a blank nor a line break. -/
theorem octet_of_printable (printable : (asText octets).all isPrintable = true)
    (among : octet ∈ octets) : 32 < octet.toNat ∧ octet.toNat < 127 := by
  rw [asText, all_map, all_eq_true] at printable
  have known := isPrintable_iff.mp (printable octet among)
  rwa [toNat_ofNat_octet] at known

/-- Printable text is ASCII. -/
theorem ascii_of_printable (printable : (asText octets).all isPrintable = true) :
    octets.all (· < 0x80) = true := by
  rw [all_eq_true]
  intro octet among
  have range := octet_of_printable printable among
  rw [decide_eq_true_eq, UInt8.lt_iff_toNat_lt]
  show octet.toNat < 128
  omega

/-- It holds no blank and no control octet. -/
theorem not_mem_of_printable (printable : (asText octets).all isPrintable = true)
    (outside : octet.toNat ≤ 32) : octet ∉ octets := fun among => by
  have range := octet_of_printable printable among
  omega

/-- A token is printable. -/
theorem printable_of_isTokenText (token : isTokenText text = true) :
    text.all isPrintable = true := by
  simp only [isTokenText, Bool.and_eq_true, all_eq_true] at token ⊢
  exact fun char among => isPrintable_of_isTokenChar (token.2 char among)

/-- A token is not empty. -/
theorem ne_nil_of_isTokenText (token : isTokenText (asText octets) = true) :
    octets ≠ [] := by
  rintro rfl
  cases token

/-- A token holds no colon. -/
theorem colon_not_mem (token : isTokenText (asText octets) = true) :
    (0x3A : UInt8) ∉ octets := fun among => by
  simp only [isTokenText, Bool.and_eq_true, asText, all_map, all_eq_true] at token
  exact absurd (token.2 _ among) (by decide)

/-! ### The request line -/

/-- A target is not empty. -/
theorem asTextNil_invalid :
    validateTarget library method [] ≠ .ok () := by
  intro valid
  unfold validateTarget at valid
  split at valid
  · -- An empty authority has no host.
    cases valid
  · cases valid

/-- The three parts of a request line are found at its two spaces. -/
theorem parseRequestLine_eq_ok (documented : library.Documented) {path : Text} :
    parseRequestLine library line = .ok (method, path) ↔ ∃ rawMethod rawTarget,
      line = rawMethod ++ 0x20 :: (rawTarget ++ 0x20 :: supportedVersion) ∧
      method = asText rawMethod ∧ path = asText rawTarget ∧
      isTokenText (asText rawMethod) = true ∧
      validateTarget library (asText rawMethod) (asText rawTarget) = .ok () := by
  constructor
  · intro parsed
    have whole := join_split [0x20] line
    unfold parseRequestLine at parsed
    split at parsed
    · rename_i rawMethod rawTarget version parts
      rw [parts] at whole
      split at parsed
      · cases parsed
      · split at parsed
        · rename_i method' target' decoded decoded'
          obtain ⟨-, rfl⟩ := decodeAscii_eq_some.mp decoded
          obtain ⟨-, rfl⟩ := decodeAscii_eq_some.mp decoded'
          -- The token, the version and the target are checked in this order.
          split at parsed
          · cases parsed
          · rename_i token
            split at parsed
            · cases parsed
            · rename_i supported
              cases checked : asHttp1Error
                  (validateTarget library (asText rawMethod) (asText rawTarget)) with
              | error raised =>
                rw [checked] at parsed
                cases parsed
              | ok value =>
                rw [checked] at parsed
                obtain ⟨rfl, rfl⟩ := Prod.mk.inj (Except.ok.inj parsed)
                refine ⟨rawMethod, rawTarget, ?_, rfl, rfl, by simpa using token,
                  asHttp1Error_eq_ok.mp checked⟩
                rw [← whole, ← not_not.mp supported]
                simp [join]
        · cases parsed
    · cases parsed
  · rintro ⟨rawMethod, rawTarget, rfl, rfl, rfl, token, valid⟩
    have printable := printable_of_isTokenText token
    have printable' := printable_of_validateTarget documented (isLatin1_asText _) valid
    have separate : ∀ part ∈ [rawMethod, rawTarget, supportedVersion], (0x20 : UInt8) ∉ part := by
      simp only [mem_cons, not_mem_nil, or_false, forall_eq_or_imp, forall_eq]
      exact ⟨not_mem_of_printable printable (by decide),
        not_mem_of_printable printable' (by decide), by decide⟩
    have parts : split [0x20] (rawMethod ++ 0x20 :: (rawTarget ++ 0x20 :: supportedVersion)) =
        [rawMethod, rawTarget, supportedVersion] := by
      have joined : join [0x20] [rawMethod, rawTarget, supportedVersion] =
          rawMethod ++ 0x20 :: (rawTarget ++ 0x20 :: supportedVersion) := by simp [join]
      rw [← joined]
      exact split_join_of_not_mem (by simp) separate
    have nonempty : rawTarget ≠ [] := by
      rintro rfl
      exact asTextNil_invalid valid
    have decoded := decodeAscii_eq_some.mpr ⟨ascii_of_printable printable, rfl⟩
    have decoded' := decodeAscii_eq_some.mpr ⟨ascii_of_printable printable', rfl⟩
    have unflawed : ¬ (rawMethod = [] ∨ rawTarget = [] ∨ supportedVersion = []) := by
      simp [ne_nil_of_isTokenText token, nonempty, supportedVersion]
    rw [parseRequestLine, parts]
    simp only [if_neg unflawed, decoded, decoded', token, not_true_eq_false, if_false, ne_eq, valid]
    rfl

/-! ### Field lines -/

/-- A field line is cut at its first colon and trimmed. -/
theorem parseField_eq_ok {header : Text × Text} :
    parseField line = .ok header ↔
      ∃ field : FieldLine, field.Valid ∧ line = field.bytes ∧ header = field.header := by
  constructor
  · intro parsed
    unfold parseField at parsed
    split at parsed
    · cases parsed
    · split at parsed
      · cases parsed
      · rename_i rawName value cutting
        obtain ⟨rfl, -⟩ := cut_eq_some.mp cutting
        split at parsed
        · cases parsed
        · rename_i name decoded
          obtain ⟨-, rfl⟩ := decodeAscii_eq_some.mp decoded
          split at parsed
          · cases parsed
          · rename_i token
            split at parsed
            · cases parsed
            · rename_i clean
              obtain rfl := Except.ok.inj parsed
              -- The blanks that trimming removes are the optional ones.
              obtain ⟨before, after, whole, blank, blank', begins, ends⟩ :=
                trim_spec isSpaceOrTab value
              refine ⟨⟨rawName, before, trim isSpaceOrTab value, after⟩,
                ⟨by simpa using token, blank, blank', ?_, begins, ends⟩, ?_, rfl⟩
              · rw [whole] at clean
                simp only [any_append, Bool.or_eq_true, not_or, Bool.not_eq_true] at clean
                exact clean.1.2
              · rw [FieldLine.bytes, ← whole]
  · rintro ⟨⟨name, before, value, after⟩, valid, rfl, rfl⟩
    obtain ⟨token, blank, blank', clean, begins, ends⟩ := valid
    have printable := printable_of_isTokenText token
    have unfolded : ¬ (FieldLine.bytes ⟨name, before, value, after⟩).head?.any isSpaceOrTab := by
      obtain ⟨first, rest, rfl⟩ := exists_cons_of_ne_nil (ne_nil_of_isTokenText token)
      have range := octet_of_printable printable (mem_cons_self ..)
      simp only [FieldLine.bytes, cons_append, List.head?_cons, Option.any_some, isSpaceOrTab,
        Bool.or_eq_true, decide_eq_true_eq, not_or]
      refine ⟨?_, ?_⟩ <;> rintro rfl <;> simp at range
    have cutting : cut 0x3A (FieldLine.bytes ⟨name, before, value, after⟩) =
        (name, some (before ++ value ++ after)) :=
      cut_eq_some.mpr ⟨rfl, colon_not_mem token⟩
    have decoded := decodeAscii_eq_some.mpr ⟨ascii_of_printable printable, rfl⟩
    have blanks : ∀ items : Bytes, items.all isSpaceOrTab = true →
        items.any isControlOctet = false := by
      intro items all
      rw [any_eq_false]
      intro octet among
      have known := all_eq_true.mp all octet among
      simp only [isSpaceOrTab, Bool.or_eq_true, decide_eq_true_eq] at known
      rcases known with rfl | rfl <;> decide
    have clean' : (before ++ value ++ after).any isControlOctet = false := by
      rw [any_append, any_append, blanks before blank, clean, blanks after blank']
      rfl
    unfold parseField
    simp only [if_neg unfolded, cutting, decoded, token, not_true_eq_false, if_false, clean',
      Bool.false_eq_true, trim_append blank blank' begins ends]
    rfl

/-- Field lines are parsed one by one. -/
theorem parseFields_eq_ok :
    lines.mapM parseField = .ok headers ↔ ∃ fields : List FieldLine,
      (∀ field ∈ fields, field.Valid) ∧ lines = fields.map FieldLine.bytes ∧
        headers = fields.map FieldLine.header := by
  -- The induction is on the lines; the first one that fails ends the loop.
  induction lines generalizing headers with
  | nil =>
    rw [mapM_nil]
    constructor
    · intro same
      obtain rfl := Except.ok.inj same
      exact ⟨[], (by intros; contradiction), rfl, rfl⟩
    · rintro ⟨fields, -, none, rfl⟩
      rw [map_eq_nil_iff.mp none.symm]
      rfl
  | cons line rest ih =>
    rw [mapM_cons_eq_ok]
    constructor
    · rintro ⟨header, headers', parsed, others, rfl⟩
      obtain ⟨field, valid, rfl, rfl⟩ := parseField_eq_ok.mp parsed
      obtain ⟨fields, valids, rfl, rfl⟩ := ih.mp others
      exact ⟨field :: fields, forall_mem_cons.mpr ⟨valid, valids⟩, rfl, rfl⟩
    · rintro ⟨fields, valid, shape, rfl⟩
      cases fields with
      | nil => cases shape
      | cons field fields =>
        obtain ⟨rfl, rest'⟩ := List.cons.inj shape
        obtain ⟨valid, valids⟩ := forall_mem_cons.mp valid
        exact ⟨_, _, parseField_eq_ok.mpr ⟨field, valid, rfl, rfl⟩,
          ih.mpr ⟨fields, valids, rest', rfl⟩, rfl⟩

/-- There is one Host field, with a valid authority. -/
theorem checkHost_eq_ok :
    checkHost library headers = .ok () ↔ ∃ host name, fieldTexts headers "host" = [host] ∧
      validateAuthority library.ipv6Compressed host false = .ok name := by
  unfold checkHost
  split
  · rename_i host one
    cases checked : validateAuthority library.ipv6Compressed host false with
    | error message => simp [asValueError, asHttp1Error, Except.map, one, checked]
    | ok name =>
      refine ⟨fun _ => ⟨host, name, one, checked⟩, fun _ => rfl⟩
  · rename_i others
    refine ⟨(by intros; contradiction), ?_⟩
    rintro ⟨host, -, one, -⟩
    exact absurd one (others host)

/-! ### Rejections -/

/-- `HTTP1Error` with any status but the one that an unknown transfer coding is given. -/
def Exn.isOtherHttp1 : Exn → Bool
  | .http1 _ status => status ≠ 501
  | _ => false

/-- `ValueError`, of which `HTTP1Error` is a subclass. -/
def Exn.isValueError : Exn → Bool
  | .value _ | .http1 _ _ => true
  | _ => false

/-- Whatever its status, it is an `HTTP1Error`. -/
theorem isHttp1_of_isOtherHttp1 (raised : Exn) (other : raised.isOtherHttp1 = true) :
    raised.isHttp1 = true := by
  cases raised with
  | http1 message status => rfl
  | _ => cases other

/-- The text of an error becomes a `ValueError`. -/
theorem raisesOnly_asValueError {α : Type} (outcome : Except String α) :
    RaisesOnly Exn.isValueError (asValueError outcome) := by
  cases outcome with
  | error message => exact raisesOnly_error rfl
  | ok value => exact raisesOnly_ok value

/-- A `ValueError` becomes an `HTTP1Error` with status 400. -/
theorem raisesOnly_asHttp1Error {α : Type} {outcome : Except Exn α}
    (values : RaisesOnly Exn.isValueError outcome) :
    RaisesOnly Exn.isOtherHttp1 (asHttp1Error outcome) := by
  cases outcome with
  | ok value => exact raisesOnly_ok value
  | error raised =>
    have known := values raised rfl
    cases raised with
    | value message => exact raisesOnly_error rfl
    | http1 message status => exact raisesOnly_error rfl
    | _ => cases known

/-- An absolute form is checked part by part. -/
theorem raisesOnly_validateAbsoluteForm (library : UriLibrary) (target : Text) :
    RaisesOnly Exn.isValueError (validateAbsoluteForm library target) := by
  unfold validateAbsoluteForm
  refine raisesOnly_guard rfl (raisesOnly_guard rfl ?_)
  cases splitAbsoluteUri library target with
  | error message => exact raisesOnly_error rfl
  | ok parsed =>
    refine raisesOnly_bind (raisesOnly_asValueError _) fun _ => raisesOnly_bind ?_ fun _ =>
      raisesOnly_guard rfl (raisesOnly_ok _)
    -- The authority is checked without its user information.
    exact raisesOnly_ite (raisesOnly_ite (raisesOnly_guard rfl
      (raisesOnly_map (raisesOnly_asValueError _))) (raisesOnly_map (raisesOnly_asValueError _)))
      (raisesOnly_ok _)

/-- Each form of a target has its own check. -/
theorem raisesOnly_validateTarget (library : UriLibrary) (method target : Text) :
    RaisesOnly Exn.isValueError (validateTarget library method target) := by
  unfold validateTarget
  refine raisesOnly_ite (raisesOnly_map (raisesOnly_asValueError _)) (raisesOnly_ite
    (raisesOnly_guard rfl (raisesOnly_ok _)) (raisesOnly_ite ?_
      (raisesOnly_validateAbsoluteForm library target)))
  exact raisesOnly_asValueError _

/-- A coding is malformed, or has parameters it must not have. -/
theorem raisesOnly_checkTransferCoding (value : Text) :
    RaisesOnly Exn.isOtherHttp1 (checkTransferCoding value) := by
  unfold checkTransferCoding
  cases transferCoding value with
  | none => exact raisesOnly_error rfl
  | some coding => exact raisesOnly_guard rfl (raisesOnly_ok _)

/-- Lengths are malformed or in conflict. -/
theorem raisesOnly_validateLengths (values : List Text) :
    RaisesOnly Exn.isOtherHttp1 (validateLengths values) :=
  raisesOnly_guard rfl (raisesOnly_guard rfl (raisesOnly_ok _))

/-- Codings are malformed, in a wrong order or unknown. -/
theorem raisesOnly_validateEncodings (values : List Text) :
    RaisesOnly Exn.isHttp1 (validateEncodings values) := by
  have parsed := raisesOnly_asHttp1Error (raisesOnly_asValueError (parseHttpTexts values))
  refine raisesOnly_bind (raisesOnly_mono parsed isHttp1_of_isOtherHttp1) fun members => ?_
  have checked := raisesOnly_mapM raisesOnly_checkTransferCoding members
  refine raisesOnly_bind (raisesOnly_mono checked isHttp1_of_isOtherHttp1) fun codings => ?_
  -- An unknown coding is the one reason for the other status.
  exact raisesOnly_guard rfl (raisesOnly_guard rfl (raisesOnly_ok _))

/-- Framing is checked by lengths and by codings. -/
theorem raisesOnly_validateFraming (headers : List (Text × Text)) :
    RaisesOnly Exn.isHttp1 (validateFraming headers) := by
  have lengths (values : List Text) : RaisesOnly Exn.isHttp1 (validateLengths values) :=
    raisesOnly_mono (raisesOnly_validateLengths values) isHttp1_of_isOtherHttp1
  have encodings := raisesOnly_validateEncodings
  unfold validateFraming
  refine raisesOnly_guard rfl ?_
  exact raisesOnly_ite (raisesOnly_bind (lengths _) fun _ =>
    raisesOnly_ite (encodings _) (raisesOnly_ok _)) (raisesOnly_ite (encodings _) (raisesOnly_ok _))

/-- A request line is checked from left to right. -/
theorem raisesOnly_parseRequestLine (library : UriLibrary) (line : Bytes) :
    RaisesOnly Exn.isOtherHttp1 (parseRequestLine library line) := by
  unfold parseRequestLine
  split
  · rename_i version _
    -- A version is either malformed or not supported.
    have outdated :
        (Exn.http1 "HTTP version is not supported" (if isVersion version then 505 else 400)).isOtherHttp1
          = true := by
      split <;> rfl
    refine raisesOnly_guard rfl ?_
    split
    · exact raisesOnly_guard rfl (raisesOnly_guard outdated
        (raisesOnly_map (raisesOnly_asHttp1Error (raisesOnly_validateTarget library _ _))))
    · exact raisesOnly_error rfl
  · exact raisesOnly_error rfl

/-- So is a field line. -/
theorem raisesOnly_parseField (line : Bytes) :
    RaisesOnly Exn.isOtherHttp1 (parseField line) := by
  unfold parseField
  refine raisesOnly_guard rfl ?_
  split
  · exact raisesOnly_error rfl
  · split
    · exact raisesOnly_error rfl
    · exact raisesOnly_guard rfl (raisesOnly_guard rfl (raisesOnly_ok _))

/-- A head is too large for its target, or as a whole. -/
theorem raisesOnly_checkHeadSize (data : Bytes) (incomplete : Bool) :
    RaisesOnly Exn.isOtherHttp1 (checkHeadSize data incomplete) := by
  have error : (headSizeError data).isOtherHttp1 = true := by
    unfold headSizeError
    split
    · rfl
    · dsimp only
      split <;> rfl
  unfold checkHeadSize
  split <;> exact raisesOnly_guard error (raisesOnly_ok _)

/-- The Host field is missing, repeated or invalid. -/
theorem raisesOnly_checkHost (library : UriLibrary) (headers : List (Text × Text)) :
    RaisesOnly Exn.isOtherHttp1 (checkHost library headers) := by
  unfold checkHost
  split
  · exact raisesOnly_map (raisesOnly_asHttp1Error (raisesOnly_asValueError _))
  · exact raisesOnly_error rfl

/-! ### Lines -/

/-- A valid head is one whose framing is valid too. -/
theorem RequestHead.valid_iff :
    head.Valid library ↔ head.Unframed library ∧ validateFraming head.headers = .ok () := by
  constructor
  · intro valid
    exact ⟨⟨valid.method, valid.target, valid.fields, valid.host⟩, valid.framing⟩
  · intro both
    exact ⟨both.1.method, both.1.target, both.1.fields, both.1.host, both.2⟩

/-- The lines of a valid head hold no line break. -/
theorem RequestHead.Unframed.unbroken (documented : library.Documented)
    (valid : head.Unframed library) (among : line ∈ head.lines) :
    (0x0D : UInt8) ∉ line ∧ (0x0A : UInt8) ∉ line := by
  have token := printable_of_isTokenText valid.method
  have target := printable_of_validateTarget documented (isLatin1_asText _) valid.target
  rcases mem_cons.mp among with rfl | among
  · -- The request line is printable apart from its spaces.
    simp only [RequestHead.requestLine, mem_append, mem_cons, not_or]
    exact ⟨⟨not_mem_of_printable token (by decide), by decide,
        not_mem_of_printable target (by decide), by decide, by decide⟩,
      not_mem_of_printable token (by decide), by decide,
        not_mem_of_printable target (by decide), by decide, by decide⟩
  · obtain ⟨field, listed, rfl⟩ := mem_map.mp among
    obtain ⟨name, before, after, free, -, -⟩ := valid.fields field listed
    have named := printable_of_isTokenText name
    -- Neither blanks nor a value without control octets break a line.
    have blank : ∀ {octet : UInt8} {items : Bytes}, isSpaceOrTab octet = false →
        items.all isSpaceOrTab = true → octet ∉ items := fun other all among => by
      rw [all_eq_true.mp all _ among] at other
      cases other
    have clean : ∀ {octet : UInt8}, isControlOctet octet = true → octet ∉ field.value :=
      fun control among => any_eq_false.mp free _ among control
    simp only [FieldLine.bytes, mem_append, mem_cons, not_or]
    exact ⟨⟨not_mem_of_printable named (by decide), by decide,
        ⟨blank (by decide) before, clean (by decide)⟩, blank (by decide) after⟩,
      not_mem_of_printable named (by decide), by decide,
        ⟨blank (by decide) before, clean (by decide)⟩, blank (by decide) after⟩

/-- The lines as they are split, with the initial empty one. -/
def RequestHead.allLines (head : RequestHead) : List Bytes :=
  if head.leading then [] :: head.lines else head.lines

/-- A head is its lines, and an empty one behind them. -/
theorem RequestHead.bytes_eq (head : RequestHead) :
    head.bytes = join crlf head.allLines ++ headEnd := by
  have nonempty : head.allLines ≠ [] := by
    unfold RequestHead.allLines
    split <;> simp [RequestHead.lines]
  have ends : headEnd = crlf ++ crlf := rfl
  rw [ends, ← append_assoc, join_append_separator crlf nonempty, RequestHead.bytes,
    RequestHead.allLines]
  split <;> simp

/-- Only an initial empty line is skipped. -/
theorem RequestHead.skip_allLines (head : RequestHead) :
    skipEmptyLine head.allLines = head.lines := by
  unfold RequestHead.allLines
  split
  · rfl
  · -- The request line holds two spaces at least.
    rw [RequestHead.lines, skipEmptyLine]
    intro lines same
    have empty := (List.cons.inj same).1
    simp [RequestHead.requestLine] at empty

/-- The lines of a head are found again. -/
theorem RequestHead.Unframed.split_join (documented : library.Documented)
    (valid : head.Unframed library) :
    split crlf (join crlf head.allLines) = head.allLines := by
  have unbroken : ∀ line ∈ head.allLines, (0x0D : UInt8) ∉ line := by
    intro line among
    unfold RequestHead.allLines at among
    split at among
    · rcases mem_cons.mp among with rfl | among
      · exact not_mem_nil
      · exact (valid.unbroken documented among).1
    · exact (valid.unbroken documented among).1
  refine split_join_of_not_mem ?_ unbroken
  unfold RequestHead.allLines
  split <;> simp [RequestHead.lines]

/-- The lines of a head are parsed into its request, if its framing is valid. -/
theorem parseLines_unframed (documented : library.Documented) (valid : head.Unframed library)
    (rawHead : Bytes) :
    parseLines library rawHead head.lines =
      (validateFraming head.headers).map fun _ => { head.request with rawHead } := by
  have unbroken : ¬ head.lines.any (fun line => line.contains 0x0D || line.contains 0x0A) := by
    simp only [any_eq_true, not_exists, not_and, Bool.or_eq_true, not_or,
      contains_iff_mem]
    intro line among
    exact valid.unbroken documented among
  have begun := (parseRequestLine_eq_ok documented).mpr
    ⟨head.method, head.target, rfl, rfl, rfl, valid.method, valid.target⟩
  have listed := parseFields_eq_ok.mpr ⟨head.fields, valid.fields, rfl, rfl⟩
  have hosted := checkHost_eq_ok.mpr valid.host
  unfold RequestHead.headers at hosted
  simp only [RequestHead.lines] at unbroken ⊢
  rw [parseLines, if_neg unbroken, RequestHead.requestLine, begun]
  simp only [bind, Except.bind, listed, hosted]
  rw [RequestHead.headers]
  -- Only the framing is left to be checked.
  cases validateFraming (head.fields.map FieldLine.header) <;> rfl

/-- Lines of no such head are rejected, and not for a transfer coding. -/
theorem parseLines_cases (documented : library.Documented) (rawHead : Bytes) (lines : List Bytes) :
    (∃ head : RequestHead, head.Unframed library ∧ lines = head.lines) ∨
      ∃ raised, parseLines library rawHead lines = .error raised ∧ raised.isOtherHttp1 = true := by
  cases lines with
  | nil => exact .inr ⟨_, rfl, rfl⟩
  | cons first rest =>
    rw [parseLines]
    split
    · exact .inr ⟨_, rfl, rfl⟩
    · cases begun : parseRequestLine library first with
      | error raised => exact .inr ⟨raised, rfl, raisesOnly_parseRequestLine _ _ raised begun⟩
      | ok parts =>
        simp only [bind, Except.bind]
        cases listed : rest.mapM parseField with
        | error raised =>
          exact .inr ⟨raised, rfl, raisesOnly_mapM raisesOnly_parseField _ raised listed⟩
        | ok headers =>
          cases hosted : checkHost library headers with
          | error raised =>
            exact .inr ⟨raised, by simp only [hosted], raisesOnly_checkHost _ _ raised hosted⟩
          | ok value =>
            -- All three parts were accepted, so they are those of a head.
            obtain ⟨method, target, rfl, -, -, token, valid⟩ :=
              (parseRequestLine_eq_ok documented).mp begun
            obtain ⟨fields, valids, rfl, rfl⟩ := parseFields_eq_ok.mp listed
            exact .inl ⟨⟨false, method, target, fields⟩,
              ⟨token, valid, valids, checkHost_eq_ok.mp hosted⟩, rfl⟩

/-! ### Whole heads -/

/-- The octets of a head, as they stand at the front of a request. -/
theorem throughHeadEnd_eq_some {head : Bytes} :
    throughHeadEnd raw = some head ↔ ∃ position, find? headEnd raw = some position ∧
      head = raw.take position ++ headEnd := by
  have whole : ∀ {position}, find? headEnd raw = some position →
      raw.take (position + headEnd.length) = raw.take position ++ headEnd := by
    intro position found
    obtain ⟨-, ⟨more, occurs⟩, -⟩ := find?_eq_some.mp found
    rw [take_add, ← occurs, take_left]
  unfold throughHeadEnd
  constructor
  · intro through
    obtain ⟨position, found, rfl⟩ := Option.map_eq_some_iff.mp through
    exact ⟨position, found, whole found⟩
  · rintro ⟨position, found, rfl⟩
    rw [found, Option.map_some, whole found]

/-- A complete head is checked for its length. -/
theorem checkHeadSize_eq_ok {position : Nat} (found : find? headEnd raw = some position) :
    checkHeadSize raw false = .ok () ↔ position + headEnd.length ≤ maxHeadSize := by
  unfold checkHeadSize
  rw [found]
  simp only
  split
  · exact ⟨(by intros; contradiction), fun fits => by omega⟩
  · exact ⟨fun _ => by omega, fun _ => rfl⟩

/-- The initial empty line is the only difference between the lines and the parsed ones. -/
theorem allLines_of_skip (skipped : skipEmptyLine lines = head.lines) :
    ∃ leading, { head with leading }.allLines = lines := by
  cases lines with
  | nil => cases skipped
  | cons first rest =>
    cases first with
    | nil =>
      refine ⟨true, ?_⟩
      rw [RequestHead.allLines, if_pos rfl]
      exact congrArg (List.cons []) skipped.symm
    | cons octet octets => exact ⟨false, skipped.symm⟩

section Documented

variable (documented : library.Documented)

include documented

/-- A head within the limit is parsed into its request, if its framing is valid. -/
theorem parseRequest_unframed (valid : head.Unframed library)
    (through : throughHeadEnd raw = some head.bytes) (fits : head.bytes.length ≤ maxHeadSize) :
    parseRequest library raw = (validateFraming head.headers).map fun _ => head.request := by
  obtain ⟨position, found, bytes⟩ := throughHeadEnd_eq_some.mp through
  have within := find?_within found
  have lines : raw.take position = join crlf head.allLines := by
    rw [RequestHead.bytes_eq] at bytes
    exact (append_cancel_right bytes).symm
  have size : position + headEnd.length ≤ maxHeadSize := by
    rw [bytes, length_append, length_take] at fits
    omega
  unfold throughHeadEnd at through
  rw [found, Option.map_some, Option.some.injEq] at through
  -- The lines that were joined are found again.
  unfold parseRequest
  rw [(checkHeadSize_eq_ok found).mpr size, found]
  show parseLines library (raw.take (position + headEnd.length))
    (skipEmptyLine (split crlf (raw.take position))) = _
  rw [through, lines, valid.split_join documented, head.skip_allLines]
  exact parseLines_unframed documented valid head.bytes

/-- Octets that do not begin with such a head are rejected, and not for a transfer coding. -/
theorem parseRequest_cases (raw : Bytes) :
    (∃ head : RequestHead, head.Unframed library ∧ throughHeadEnd raw = some head.bytes ∧
      head.bytes.length ≤ maxHeadSize) ∨
      ∃ raised, parseRequest library raw = .error raised ∧ raised.isOtherHttp1 = true := by
  unfold parseRequest
  cases checked : checkHeadSize raw false with
  | error raised => exact .inr ⟨raised, rfl, raisesOnly_checkHeadSize _ _ raised checked⟩
  | ok value =>
    cases found : find? headEnd raw with
    | none => exact .inr ⟨_, rfl, rfl⟩
    | some position =>
      rcases parseLines_cases documented (raw.take (position + headEnd.length))
        (skipEmptyLine (split crlf (raw.take position))) with ⟨head, valid, lines⟩ | rejected
      · obtain ⟨leading, whole⟩ := allLines_of_skip lines
        have bytes : { head with leading }.bytes = raw.take position ++ headEnd := by
          rw [RequestHead.bytes_eq, whole, join_split]
        have within := find?_within found
        have size := (checkHeadSize_eq_ok found).mp checked
        refine .inl ⟨{ head with leading }, ⟨valid.method, valid.target, valid.fields, valid.host⟩,
          throughHeadEnd_eq_some.mpr ⟨position, found, bytes⟩, ?_⟩
        rw [bytes, length_append, length_take]
        omega
      · exact .inr rejected

/-- The parser accepts exactly the valid heads, and returns what they stand for. -/
theorem parseRequest_eq_ok {request : HTTP1Request} :
    parseRequest library raw = .ok request ↔ ∃ head : RequestHead, head.Valid library ∧
      throughHeadEnd raw = some head.bytes ∧ head.bytes.length ≤ maxHeadSize ∧
      request = head.request := by
  constructor
  · intro parsed
    rcases parseRequest_cases documented raw with ⟨head, valid, through, fits⟩ | ⟨_, rejected, -⟩
    · rw [parseRequest_unframed documented valid through fits] at parsed
      cases framed : validateFraming head.headers with
      | error raised =>
        rw [framed] at parsed
        cases parsed
      | ok value =>
        rw [framed] at parsed
        exact ⟨head, RequestHead.valid_iff.mpr ⟨valid, framed⟩, through, fits,
          (Except.ok.inj parsed).symm⟩
    · cases rejected.symm.trans parsed
  · rintro ⟨head, valid, through, fits, rfl⟩
    obtain ⟨unframed, framed⟩ := RequestHead.valid_iff.mp valid
    rw [parseRequest_unframed documented unframed through fits, framed]
    rfl

/-- Every rejection of a request is an `HTTP1Error`. -/
theorem raisesOnly_parseRequest (raw : Bytes) :
    RaisesOnly Exn.isHttp1 (parseRequest library raw) := by
  rcases parseRequest_cases documented raw with ⟨head, valid, through, fits⟩ | ⟨_, rejected, other⟩
  · rw [parseRequest_unframed documented valid through fits]
    exact raisesOnly_map (raisesOnly_validateFraming head.headers)
  · rw [rejected]
    exact raisesOnly_error (isHttp1_of_isOtherHttp1 _ other)

/-! ### Parsing again what was parsed -/

/-- A head without an initial empty line ends where it should. -/
theorem RequestHead.Valid.throughHeadEnd (valid : head.Valid library)
    (plain : head.leading = false) :
    throughHeadEnd head.bytes = some head.bytes := by
  obtain ⟨unframed, -⟩ := RequestHead.valid_iff.mp valid
  have all : head.allLines = head.lines := by rw [RequestHead.allLines, plain]; rfl
  have filled : ∀ line ∈ head.lines, line ≠ [] := by
    intro line among
    rcases mem_cons.mp among with rfl | among
    · simp [RequestHead.requestLine]
    · obtain ⟨field, -, rfl⟩ := mem_map.mp among
      simp [FieldLine.bytes]
  -- The empty line is the first one behind lines that are not empty.
  have found := find?_join (show (0x0D : UInt8) ∉ [0x0A] by decide) (cons_ne_nil _ _) filled
    fun line among => (unframed.unbroken documented among).1
  refine throughHeadEnd_eq_some.mpr ⟨(join crlf head.lines).length, ?_, ?_⟩
  · rw [head.bytes_eq, all]
    exact found
  · rw [head.bytes_eq, all, take_left]

end Documented

/-- A head without its optional parts. -/
def RequestHead.plain (head : RequestHead) : RequestHead where
  leading := false
  method := head.method
  target := head.target
  fields := head.fields.map fun field => { field with before := [], after := [] }

/-- The canonical form of a parsed request is its head without the optional parts. -/
theorem canonical_request (head : RequestHead) : head.request.canonical = head.plain := by
  simp only [HTTP1Request.canonical, RequestHead.request, RequestHead.plain, RequestHead.headers,
    map_map, asOctets_asText, RequestHead.mk.injEq, true_and]
  refine map_congr_left fun field _ => ?_
  simp [FieldLine.header, asOctets_asText]

/-- The optional parts are no part of the headers. -/
theorem RequestHead.plain_headers (head : RequestHead) : head.plain.headers = head.headers := by
  simp only [RequestHead.plain, RequestHead.headers, map_map]
  rfl

/-- A head stays valid without its optional parts. -/
theorem RequestHead.Valid.plain (valid : head.Valid library) : head.plain.Valid library := by
  refine ⟨valid.method, valid.target, ?_, ?_, ?_⟩
  · intro line among
    obtain ⟨field, listed, rfl⟩ := mem_map.mp among
    have kept := valid.fields field listed
    exact ⟨kept.name, rfl, rfl, kept.clean, kept.begins, kept.ends⟩
  · rw [head.plain_headers]
    exact valid.host
  · rw [head.plain_headers]
    exact valid.framing

/-- Leaving out the optional parts makes a head no longer. -/
theorem RequestHead.length_plain (head : RequestHead) :
    head.plain.bytes.length ≤ head.bytes.length := by
  have shorter : ∀ fields : List FieldLine,
      (((fields.map fun field => ({ field with before := [], after := [] } : FieldLine)).map
          FieldLine.bytes).flatMap (· ++ crlf)).length ≤
        ((fields.map FieldLine.bytes).flatMap (· ++ crlf)).length := by
    intro fields
    induction fields with
    | nil => exact le_rfl
    | cons field rest ih =>
      simp only [map_cons, flatMap_cons, length_append, FieldLine.bytes,
        length_cons, nil_append, append_nil] at ih ⊢
      omega
  have lines := shorter head.fields
  simp only [RequestHead.bytes, RequestHead.lines, RequestHead.plain, RequestHead.requestLine,
    flatMap_cons, length_append] at lines ⊢
  simp only [Bool.false_eq_true, if_false, length_nil]
  omega

/--
The request parser accepts exactly its grammar and loses nothing.

Octets are accepted if those through the first empty line are a valid head within the limit, and
what is returned are the parts of that head. The method, the target, the names and the values of a
head are determined by its octets. A returned request, written again without optional parts, parses
to the same method, path and headers. Every rejection is an `HTTP1Error`.
-/
theorem parseRequest_grammar {library : UriLibrary} (documented : library.Documented) (raw : Bytes) :
    (∀ request, parseRequest library raw = .ok request ↔ ∃ head : RequestHead,
      head.Valid library ∧ throughHeadEnd raw = some head.bytes ∧
        head.bytes.length ≤ maxHeadSize ∧ request = head.request) ∧
    (∀ first second : RequestHead, first.Valid library → second.Valid library →
      throughHeadEnd raw = some first.bytes → throughHeadEnd raw = some second.bytes →
      first.bytes.length ≤ maxHeadSize →
        first.method = second.method ∧ first.target = second.target ∧
        first.fields.map FieldLine.name = second.fields.map FieldLine.name ∧
        first.fields.map FieldLine.value = second.fields.map FieldLine.value) ∧
    (∀ request, parseRequest library raw = .ok request →
      parseRequest library request.canonical.bytes =
        .ok { request with rawHead := request.canonical.bytes }) ∧
    RaisesOnly Exn.isHttp1 (parseRequest library raw) := by
  refine ⟨fun request => parseRequest_eq_ok documented, ?_, ?_, raisesOnly_parseRequest documented raw⟩
  · intro first second valid valid' through through' fits
    -- Both heads are what the parser returns, which is one request.
    have same : first.bytes = second.bytes := Option.some.inj (through.symm.trans through')
    have parsed := (parseRequest_eq_ok documented).mpr ⟨first, valid, through, fits, rfl⟩
    have parsed' := (parseRequest_eq_ok documented).mpr
      ⟨second, valid', through', same ▸ fits, rfl⟩
    have requests := Except.ok.inj (parsed.symm.trans parsed')
    simp only [RequestHead.request, HTTP1Request.mk.injEq, RequestHead.headers] at requests
    obtain ⟨method, path, headers, -⟩ := requests
    have octets : ∀ fields : List FieldLine,
        fields.map FieldLine.name = (fields.map FieldLine.header).map (asOctets ·.1) ∧
        fields.map FieldLine.value = (fields.map FieldLine.header).map (asOctets ·.2) := by
      intro fields
      simp only [map_map, FieldLine.header, Function.comp_def, asOctets_asText, and_self]
    refine ⟨asText_injective method, asText_injective path, ?_, ?_⟩
    · rw [(octets first.fields).1, (octets second.fields).1, headers]
    · rw [(octets first.fields).2, (octets second.fields).2, headers]
  · intro request parsed
    obtain ⟨head, valid, -, fits, rfl⟩ := (parseRequest_eq_ok documented).mp parsed
    rw [canonical_request]
    refine (parseRequest_eq_ok documented).mpr ⟨head.plain, valid.plain,
      valid.plain.throughHeadEnd documented rfl, head.length_plain.trans fits, ?_⟩
    simp only [RequestHead.request, head.plain_headers]
    rfl

/-- A request with an initial empty line and blanks around a value. -/
theorem parseRequest_grammar_leadingLine :
    parseRequest referenceUris (ascii "GET / HTTP/1.1\r\nHost:a\r\n\r\n") =
      .ok {
        method := "GET".toList
        path := "/".toList
        headers := [("Host".toList, "a".toList)]
        rawHead := ascii "GET / HTTP/1.1\r\nHost:a\r\n\r\n" } := by
  have parsed : parseRequest referenceUris
      (ascii "\r\nGET / HTTP/1.1\r\nHost: a\t\r\n\r\nrest") = .ok {
        method := "GET".toList
        path := "/".toList
        headers := [("Host".toList, "a".toList)]
        rawHead := ascii "\r\nGET / HTTP/1.1\r\nHost: a\t\r\n\r\n" } := by decide +kernel
  exact ((parseRequest_grammar referenceUris_documented _).2.2.1 _ parsed).trans (by decide +kernel)

end SolveTls
