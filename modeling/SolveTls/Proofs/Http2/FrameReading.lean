import SolveTls.Proofs.Http2.FrameLists

/-! One complete wire frame through the reader: what it becomes, and what it may raise. -/

namespace SolveTls.HTTP2FrameReader

open Octets Fallible List

variable {α : Type} {message : String} {condition : Prop} {payload : Payload} {wire : Bytes}
  {after : HTTP2FrameReader} {maximum : Nat} {budget : Option Int}

/-! ### What every reader method leaves alone -/

/-- The buffer and the limits stay, and the entry count grows within its budget. -/
structure Kept (before after : HTTP2FrameReader) : Prop where
  data : after.data = before.data
  maxFrameSize : after.maxFrameSize = before.maxFrameSize
  forensic : after.forensic = before.forensic
  payloadEnd : after.payloadEnd = before.payloadEnd
  maxEntries : after.maxEntries = before.maxEntries
  grows : before.entriesRead ≤ after.entriesRead
  budget : ∀ limit ∈ before.maxEntries, (before.entriesRead : Int) ≤ limit →
    (after.entriesRead : Int) ≤ limit

/-- The errors of the reader carry a text and a code; the entry limit has a code of its own. -/
def Fault (reader : HTTP2FrameReader) (error : HTTP2FrameParsingError) : Prop :=
  error.message ≠ "" ∧
    (error.code = ErrorCode.protocolError.code ∨ error.code = ErrorCode.flowControlError.code ∨
      error.code = ErrorCode.frameSizeError.code ∨
      reader.maxEntries ≠ none ∧ error.code = ErrorCode.enhanceYourCalm.code)

/-- Without a budget an error is about the format. -/
theorem Fault.calm {reader : HTTP2FrameReader} {error : HTTP2FrameParsingError}
    (fault : Fault reader error) (unlimited : reader.maxEntries = none) :
    error.code ≠ ErrorCode.enhanceYourCalm.code ∧ error.code ≠ ErrorCode.noError.code := by
  obtain ⟨-, same | same | same | ⟨limited, -⟩⟩ := fault
  · rw [same]
    decide
  · rw [same]
    decide
  · rw [same]
    decide
  · exact absurd unlimited limited

/-- What is kept is kept along a run. -/
theorem kept : Progress Kept where
  refl _ := ⟨rfl, rfl, rfl, rfl, rfl, le_refl _, fun _ _ fits => fits⟩
  trans first second := by
    refine ⟨second.data.trans first.data, second.maxFrameSize.trans first.maxFrameSize,
      second.forensic.trans first.forensic, second.payloadEnd.trans first.payloadEnd,
      second.maxEntries.trans first.maxEntries, first.grows.trans second.grows, ?_⟩
    intro limit among fits
    exact second.budget limit (first.maxEntries ▸ among) (first.budget limit among fits)

/-- What methods that reserve no entries leave alone besides. -/
structure Still (before after : HTTP2FrameReader) : Prop extends Kept before after where
  entries : after.entriesRead = before.entriesRead

/-- So is what they leave alone. -/
theorem still : Progress Still where
  refl reader := ⟨kept.refl reader, rfl⟩
  trans first second :=
    ⟨kept.trans first.toKept second.toKept, second.entries.trans first.entries⟩

/-- Exits that keep to a relation, with the errors that the reader may raise. -/
def faulting (relation : HTTP2FrameReader → HTTP2FrameReader → Prop) :
    Exits HTTP2FrameReader HTTP2FrameParsingError where
  returns := relation
  raises before raised after := relation before after ∧ Fault after raised

/-- An error is seen from where the run began. -/
theorem chained_faulting {relation : HTTP2FrameReader → HTTP2FrameReader → Prop}
    (progress : Progress relation) : (faulting relation).Chained where
  refl := progress.refl
  trans := progress.trans
  onward earlier later := ⟨progress.trans earlier later.1, later.2⟩

/-- A method that reserves no entries and raises only as the reader may. -/
abbrev Tame {α : Type} (action : FrameReader α) : Prop := (faulting Still).Covers action

/-- A method that may reserve entries. -/
abbrev Counting {α : Type} (action : FrameReader α) : Prop := (faulting Kept).Covers action

/-- Entries are counted as long as the budget allows. -/
theorem counting_reserveEntries (entries : Nat) : Counting (reserveEntries entries) := by
  have chained := chained_faulting kept
  refine fun reader => chained.at_bind (chained.covers_get reader) ?_
  rintro _ _ ⟨⟩
  by_cases excess : ∃ limit ∈ reader.maxEntries, limit < (reader.entriesRead : Int) + entries
  · -- Over the budget nothing is counted, and the error is the one kept for budgets.
    rw [raiseIf_pos excess, throw_bind_eq]
    obtain ⟨limit, among, -⟩ := excess
    have budgeted : reader.maxEntries ≠ none := by
      rw [Option.mem_def] at among
      simp [among]
    exact .of_error rfl ⟨kept.refl reader, (by decide : "HTTP/2 decoded entry limit exceeded" ≠ ""),
      .inr (.inr (.inr ⟨budgeted, rfl⟩))⟩
  · rw [raiseIf_neg excess, pure_bind_eq]
    refine .of_ok rfl ⟨rfl, rfl, rfl, rfl, rfl, Nat.le_add_right _ _, fun limit among _ => ?_⟩
    by_contra beyond
    exact excess ⟨limit, among, by push_cast at beyond ⊢; omega⟩

/-- Reading moves the reader, or finds too few octets. -/
theorem tame_read (n : Int) : Tame (read n) := by
  have chained := chained_faulting still
  refine fun reader => chained.at_bind (chained.covers_get reader) ?_
  rintro _ _ ⟨⟩
  dsimp only
  by_cases short : n < 0 ∨ (reader.pos : Int) + n > (reader.payloadEnd.getD reader.data.length : Nat)
  · rw [raiseIf_pos short, throw_bind_eq]
    exact .of_error rfl ⟨still.refl reader, by simp [toString], .inr (.inr (.inl rfl))⟩
  · rw [raiseIf_neg short, pure_bind_eq]
    exact .of_ok rfl ⟨⟨rfl, rfl, rfl, rfl, rfl, le_refl _, fun _ _ fits => fits⟩, rfl⟩

/-- Padding is read, and looked at last. -/
theorem tame_skipPadding (length : Nat) : Tame (skipPadding length) := by
  have chained := chained_faulting still
  refine chained.covers_bind (tame_read length) fun _ =>
    chained.covers_bind chained.covers_get fun _ => chained.covers_raiseIf fun reader => ?_
  exact ⟨still.refl reader, by decide, .inl rfl⟩

/-! ### From the parts of a reader method to the whole of it -/

/-- Properties of reader methods that a method has if all its steps have them. -/
structure Stepwise (property : (α : Type) → FrameReader α → Prop) : Prop
    extends Composed property where
  /-- A check that raises one of the errors of malformed frames. -/
  guards : ∀ {condition : Prop} [Decidable condition] {message : String} {code : Nat},
    message ≠ "" →
    code = ErrorCode.protocolError.code ∨ code = ErrorCode.flowControlError.code ∨
      code = ErrorCode.frameSizeError.code →
        property Unit (raiseIf condition ⟨message, code⟩)
  reads : ∀ n, property Bytes (read n)
  /-- Whether padding is looked at depends on the reader. -/
  skips : ∀ length, property Unit (skipPadding length)

namespace Stepwise

variable {property : (α : Type) → FrameReader α → Prop} (stepwise : Stepwise property)
  (header : FrameHeader)

include stepwise

/-- A guard that raises PROTOCOL_ERROR, and what follows it. -/
theorem protocol [Decidable condition] {next : FrameReader α} (said : message ≠ "")
    (rest : property α next) :
    property α (do raiseIf condition ⟨message, ErrorCode.protocolError.code⟩; next) :=
  stepwise.bind (stepwise.guards said (.inl rfl)) fun _ => rest

/-- A guard that raises FRAME_SIZE_ERROR, and what follows it. -/
theorem sized [Decidable condition] {next : FrameReader α} (said : message ≠ "")
    (rest : property α next) :
    property α (do raiseIf condition ⟨message, ErrorCode.frameSizeError.code⟩; next) :=
  stepwise.bind (stepwise.guards said (.inr (.inr rfl))) fun _ => rest

/-- One octet is read and taken as a number. -/
theorem on_readUint8 : property Nat readUint8 := stepwise.map (stepwise.reads 1)

/-- Two octets are read. -/
theorem on_readUint16 : property Nat readUint16 := stepwise.map (stepwise.reads 2)

/-- Four octets are read. -/
theorem on_readUint32 : property Nat readUint32 := stepwise.map (stepwise.reads 4)

/-- The reserved bit is dropped after reading. -/
theorem on_readUint32WithReserved : property Nat readUint32WithReserved :=
  stepwise.map stepwise.on_readUint32

/-- A priority is an integer and an octet. -/
theorem on_readPriority : property PriorityInfo readPriority :=
  stepwise.bind stepwise.on_readUint32 fun _ => stepwise.map stepwise.on_readUint8

/-- The pad length is there if the flag says so. -/
theorem on_readPaddingLength : property Nat (readPaddingLength header) :=
  on_ite (fun _ => stepwise.bind stepwise.on_readUint8 fun _ =>
    stepwise.protocol (by decide) (stepwise.pure _)) fun _ => stepwise.pure 0

/-- The common end of a padded payload. -/
theorem on_envelope [Decidable condition] (said : message ≠ "") (blockLength : Int)
    (padLength : Nat) (payload : Bytes → α) :
    property α (do
      raiseIf condition ⟨message, ErrorCode.protocolError.code⟩
      let block ← read blockLength
      skipPadding padLength
      return payload block) :=
  stepwise.protocol said <|
    stepwise.bind (stepwise.reads blockLength) fun _ => stepwise.map (stepwise.skips padLength)

/-- A DATA payload is an envelope. -/
theorem on_parseData : property DataPayload (parseData header) :=
  stepwise.protocol (by decide) <|
    stepwise.bind (stepwise.on_readPaddingLength header) fun _ =>
      stepwise.on_envelope (by decide) _ _ _

/-- A HEADERS payload may have a priority before its block. -/
theorem on_parseHeaders : property HeadersPayload (parseHeaders header) :=
  stepwise.protocol (by decide) <|
    stepwise.bind (stepwise.on_readPaddingLength header) fun _ =>
      stepwise.bind (on_ite (fun _ => stepwise.map stepwise.on_readPriority) fun _ =>
        stepwise.pure none) fun _ => stepwise.on_envelope (by decide) _ _ _

/-- A PRIORITY payload has one length. -/
theorem on_parsePriority : property PriorityInfo (parsePriority header) :=
  stepwise.sized (by decide) <| stepwise.protocol (by decide) <|
    stepwise.on_readPriority

/-- So has a RST_STREAM payload. -/
theorem on_parseRstStream : property RstStreamPayload (parseRstStream header) :=
  stepwise.sized (by decide) <| stepwise.protocol (by decide) <|
    stepwise.map stepwise.on_readUint32

/-- Each entry is read and its value is checked. -/
theorem on_settingsLoop (entriesLeft : Nat) (settings : Dict Nat Nat)
    (entries : List (Nat × Nat)) : property _ (settingsLoop entriesLeft settings entries) := by
  -- The induction is on the entries that are left to read.
  induction entriesLeft generalizing settings entries with
  | zero => exact stepwise.pure _
  | succ entriesLeft ih =>
    refine stepwise.bind stepwise.on_readUint16 fun _ =>
      stepwise.bind stepwise.on_readUint32 fun _ =>
        stepwise.protocol (by decide) <| stepwise.bind ?_ fun _ =>
          stepwise.protocol (by decide) <| ih _ _
    -- Only the window size check has a code of its own.
    exact stepwise.guards (by decide) (.inr (.inl rfl))

/-- SETTINGS payloads reserve their entries at once. -/
theorem on_parseSettings (reserves : ∀ entries, property Unit (reserveEntries entries)) :
    property SettingsPayload (parseSettings header) :=
  stepwise.protocol (by decide) <|
    on_ite (fun _ => stepwise.sized (by decide) (stepwise.pure _)) fun _ =>
      stepwise.sized (by decide) <|
        stepwise.bind (reserves _) fun _ => stepwise.on_settingsLoop _ _ _

/-- A PUSH_PROMISE payload has a stream before its block. -/
theorem on_parsePushPromise : property PushPromisePayload (parsePushPromise header) :=
  stepwise.protocol (by decide) <|
    stepwise.bind (stepwise.on_readPaddingLength header) fun _ =>
      stepwise.bind stepwise.on_readUint32WithReserved fun _ =>
        stepwise.protocol (by decide) <| stepwise.on_envelope (by decide) _ _ _

/-- A PING payload is read as it is. -/
theorem on_parsePing : property PingPayload (parsePing header) :=
  stepwise.protocol (by decide) <| stepwise.sized (by decide) <|
    stepwise.map (stepwise.reads _)

/-- A GOAWAY payload ends in debug data of any length. -/
theorem on_parseGoaway : property GoawayPayload (parseGoaway header) :=
  stepwise.protocol (by decide) <|
    stepwise.sized (by decide) <|
      stepwise.bind stepwise.on_readUint32WithReserved fun _ =>
        stepwise.bind stepwise.on_readUint32 fun _ =>
          stepwise.map (on_ite (fun _ => stepwise.reads _) fun _ => stepwise.pure [])

/-- A window is not changed by zero. -/
theorem on_parseWindowUpdate : property WindowUpdatePayload (parseWindowUpdate header) :=
  stepwise.sized (by decide) <|
    stepwise.bind stepwise.on_readUint32WithReserved fun _ =>
      stepwise.protocol (by decide) (stepwise.pure _)

/-- A CONTINUATION payload is its block. -/
theorem on_parseContinuation : property ContinuationPayload (parseContinuation header) :=
  stepwise.protocol (by decide) <| stepwise.map (stepwise.reads _)

/-- An ALTSVC payload has an origin before its value. -/
theorem on_parseAltsvc : property AltSvcPayload (parseAltsvc header) :=
  stepwise.protocol (by decide) <|
    stepwise.bind stepwise.on_readUint16 fun _ =>
      stepwise.protocol (by decide) <|
        stepwise.bind (stepwise.reads _) fun _ => stepwise.map (stepwise.reads _)

/-- ORIGIN members are read as long as there are octets. -/
theorem on_originLoop (reserves : ∀ entries, property Unit (reserveEntries entries))
    (turns bytesRead : Nat) (origins : List Bytes) :
    property _ (originLoop header turns bytesRead origins) := by
  -- The induction is on the turns, of which each reads one member.
  induction turns generalizing bytesRead origins with
  | zero => exact stepwise.pure _
  | succ turns ih =>
    refine on_ite (fun _ => ?_) fun _ => stepwise.pure _
    exact stepwise.protocol (by decide) <|
      stepwise.bind stepwise.on_readUint16 fun _ =>
        stepwise.protocol (by decide) <|
          stepwise.bind (reserves 1) fun _ => stepwise.bind (stepwise.reads _) fun _ => ih _ _

/-- ORIGIN payloads reserve their members one by one. -/
theorem on_parseOrigin (reserves : ∀ entries, property Unit (reserveEntries entries)) :
    property OriginPayload (parseOrigin header) :=
  stepwise.protocol (by decide) <|
    stepwise.on_originLoop header reserves _ _ _

/-- A PRIORITY_UPDATE payload names its stream. -/
theorem on_parsePriorityUpdate : property PriorityUpdatePayload (parsePriorityUpdate header) :=
  stepwise.protocol (by decide) <|
    stepwise.sized (by decide) <|
      stepwise.bind stepwise.on_readUint32WithReserved fun _ =>
        stepwise.protocol (by decide) <| stepwise.map (stepwise.reads _)

/-- Only SETTINGS and ORIGIN payloads reserve entries. -/
theorem on_parsePayloadByType
    (reserves : header.kind = some .settings ∨ header.kind = some .origin →
      ∀ entries, property Unit (reserveEntries entries)) :
    property Payload (parsePayloadByType header) := by
  unfold parsePayloadByType
  cases kind : header.kind with
  | none => exact stepwise.map (stepwise.reads _)
  | some type =>
    cases type with
    | data => exact stepwise.map (stepwise.on_parseData header)
    | headers => exact stepwise.map (stepwise.on_parseHeaders header)
    | priority => exact stepwise.map (stepwise.on_parsePriority header)
    | rstStream => exact stepwise.map (stepwise.on_parseRstStream header)
    | settings => exact stepwise.map (stepwise.on_parseSettings header (reserves (.inl kind)))
    | pushPromise => exact stepwise.map (stepwise.on_parsePushPromise header)
    | ping => exact stepwise.map (stepwise.on_parsePing header)
    | goaway => exact stepwise.map (stepwise.on_parseGoaway header)
    | windowUpdate => exact stepwise.map (stepwise.on_parseWindowUpdate header)
    | continuation => exact stepwise.map (stepwise.on_parseContinuation header)
    | altsvc => exact stepwise.map (stepwise.on_parseAltsvc header)
    | origin => exact stepwise.map (stepwise.on_parseOrigin header (reserves (.inr kind)))
    | priorityUpdate => exact stepwise.map (stepwise.on_parsePriorityUpdate header)

end Stepwise

/-- What a method leaves alone is known from its steps. -/
theorem stepwise_still : Stepwise fun _ action => Within Still action where
  toComposed := still.composed_within
  guards _ _ := still.composed_within.on_raiseIf (still.within_throw _)
  reads n := (tame_read n).within And.left
  skips length := (tame_skipPadding length).within And.left

/-- So is what it may raise. -/
theorem stepwise_counting : Stepwise fun _ action => Counting action where
  toComposed := (chained_faulting kept).composed_covers
  guards said known := by
    refine (chained_faulting kept).covers_raiseIf fun reader => ⟨kept.refl reader, said, ?_⟩
    rcases known with known | known | known
    · exact .inl known
    · exact .inr (.inl known)
    · exact .inr (.inr (.inl known))
  reads n reader := ⟨fun ran => ((tame_read n reader).returned ran).toKept,
    fun ran => ((tame_read n reader).raised ran).imp_left Still.toKept⟩
  skips length reader := ⟨fun ran => ((tame_skipPadding length reader).returned ran).toKept,
    fun ran => ((tame_skipPadding length reader).raised ran).imp_left Still.toKept⟩

/-- Payloads of other types reserve nothing. -/
theorem still_parsePayloadByType {header : FrameHeader} (settings : header.kind ≠ some .settings)
    (origin : header.kind ≠ some .origin) : Within Still (parsePayloadByType header) :=
  stepwise_still.on_parsePayloadByType header fun reserves =>
    reserves.elim (absurd · settings) (absurd · origin)

/-- Any payload may reserve entries within the budget. -/
theorem counting_parsePayloadByType (header : FrameHeader) :
    Counting (parsePayloadByType header) :=
  stepwise_counting.on_parsePayloadByType header fun _ => counting_reserveEntries

/-- However a payload is read, the buffer and the limits stay. -/
theorem kept_parsePayloadByType (header : FrameHeader) : Within Kept (parsePayloadByType header) :=
  (counting_parsePayloadByType header).within And.left

/-! ### The grammar a payload is read with -/

variable {header : FrameHeader} {reader reached : HTTP2FrameReader} {body : Bytes}

/-- The dispatcher wraps what the parser of the type has returned. -/
theorem mapped_ok {parser : FrameReader α} {wrap : α → Payload}
    (ran : (wrap <$> parser) reader = (.ok payload, reached))
    (sound : ∀ read, parser reader = (.ok read, reached) → Read header body (wrap read) reached ∧
      reader.entriesRead + (wrap read).entryCount ≤ reached.entriesRead) :
    Read header body payload reached ∧
      reader.entriesRead + payload.entryCount ≤ reached.entriesRead := by
  simp only [map_eq_bind, bind_eq_ok, pure_eq_ok] at ran
  obtain ⟨read, _, ran, rfl, rfl⟩ := ran
  exact sound read ran

/-- A payload that was read is the one its octets stand for, and its entries were counted. -/
theorem parsePayloadByType_sound (window : Window reader body) (size : body.length = header.length)
    (ran : parsePayloadByType header reader = (.ok payload, reached)) :
    Read header body payload reached ∧
      reader.entriesRead + payload.entryCount ≤ reached.entriesRead := by
  have grown : reader.entriesRead ≤ reached.entriesRead :=
    ((kept_parsePayloadByType header).reached ran).grows
  unfold parsePayloadByType at ran
  cases kind : header.kind with
  | none =>
    simp only [kind, bind_eq_ok, pure_eq_ok] at ran
    obtain ⟨raw, final, took, rfl, rfl⟩ := ran
    obtain ⟨left, rfl, width, -, window'⟩ := read_ok window took
    rw [length_append] at size
    obtain rfl : left = [] := length_eq_zero_iff.mp (by omega)
    rw [append_nil]
    refine ⟨⟨.unknown kind, ?_, window'⟩, grown⟩
    simp only [WellFormed, kind]
  | some type =>
    rw [kind] at ran
    cases type with
    | data =>
      exact mapped_ok ran fun _ parsed => ⟨parseData_sound window size kind parsed, grown⟩
    | headers =>
      exact mapped_ok ran fun _ parsed => ⟨parseHeaders_sound window size kind parsed, grown⟩
    | priority =>
      exact mapped_ok ran fun _ parsed => ⟨parsePriority_sound window size kind parsed, grown⟩
    | rstStream =>
      exact mapped_ok ran fun _ parsed => ⟨parseRstStream_sound window size kind parsed, grown⟩
    | settings =>
      refine mapped_ok ran fun _ parsed => ?_
      obtain ⟨whole, counted⟩ := parseSettings_sound window size kind parsed
      exact ⟨whole, counted.ge⟩
    | pushPromise =>
      exact mapped_ok ran fun _ parsed => ⟨parsePushPromise_sound window size kind parsed, grown⟩
    | ping =>
      exact mapped_ok ran fun _ parsed => ⟨parsePing_sound window size kind parsed, grown⟩
    | goaway =>
      exact mapped_ok ran fun _ parsed => ⟨parseGoaway_sound window size kind parsed, grown⟩
    | windowUpdate =>
      exact mapped_ok ran fun _ parsed => ⟨parseWindowUpdate_sound window size kind parsed, grown⟩
    | continuation =>
      exact mapped_ok ran fun _ parsed => ⟨parseContinuation_sound window size kind parsed, grown⟩
    | altsvc =>
      exact mapped_ok ran fun _ parsed => ⟨parseAltsvc_sound window size kind parsed, grown⟩
    | origin =>
      refine mapped_ok ran fun _ parsed => ?_
      obtain ⟨whole, counted⟩ := parseOrigin_sound window size kind parsed
      exact ⟨whole, counted.ge⟩
    | priorityUpdate =>
      exact mapped_ok ran fun _ parsed => ⟨parsePriorityUpdate_sound window size kind parsed, grown⟩

/-- The payload a parser returned, wrapped as the dispatcher wraps it. -/
private theorem mapped {parser : FrameReader α} (wrap : α → Payload)
    (ran : ∃ payload reached, parser reader = (.ok payload, reached)) :
    ∃ payload reached, (wrap <$> parser) reader = (.ok payload, reached) := by
  obtain ⟨payload, final, ran⟩ := ran
  refine ⟨wrap payload, final, ?_⟩
  simp only [map_eq_bind, bind_eq_ok, pure_eq_ok]
  exact ⟨payload, final, ran, rfl, rfl⟩

/-- Every well-formed payload is read, when no entry budget is in the way. -/
theorem parsePayloadByType_complete (lenient : Lenient reader) (window : Window reader body)
    (size : body.length = header.length) (good : WellFormed header body) :
    ∃ payload reached, parsePayloadByType header reader = (.ok payload, reached) := by
  unfold parsePayloadByType
  cases kind : header.kind with
  | none =>
    have took := read_append window.whole
    rw [size] at took
    simp only [bind_eq_ok, pure_eq_ok]
    exact ⟨_, _, body, _, took, rfl, rfl⟩
  | some type =>
    cases type with
    | data => exact mapped _ (parseData_complete window size kind lenient good)
    | headers => exact mapped _ (parseHeaders_complete window size kind lenient good)
    | priority => exact mapped _ (parsePriority_complete window size kind good)
    | rstStream => exact mapped _ (parseRstStream_complete window size kind good)
    | settings => exact mapped _ (parseSettings_complete window size kind lenient good)
    | pushPromise => exact mapped _ (parsePushPromise_complete window size kind lenient good)
    | ping => exact mapped _ (parsePing_complete window size kind good)
    | goaway => exact mapped _ (parseGoaway_complete window size kind good)
    | windowUpdate => exact mapped _ (parseWindowUpdate_complete window size kind good)
    | continuation => exact mapped _ (parseContinuation_complete window size kind good)
    | altsvc => exact mapped _ (parseAltsvc_complete window size kind good)
    | origin => exact mapped _ (parseOrigin_complete window size kind lenient good)
    | priorityUpdate => exact mapped _ (parsePriorityUpdate_complete window size kind good)

/-- A grammar that returns has used up the payload, so the final length check never fails. -/
theorem parseWholePayload_eq (window : Window reader body) (size : body.length = header.length) :
    parseWholePayload header reader.pos reader = parsePayloadByType header reader := by
  simp only [parseWholePayload, bind_apply]
  rcases ran : parsePayloadByType header reader with ⟨error | payload, after⟩
  · rfl
  · have finished := (parsePayloadByType_sound window size ran).1.finished.bound
    have kept := (kept_parsePayloadByType header).reached ran
    rw [kept.payloadEnd, kept.data, window.bound, length_nil] at finished
    have used : ¬ ((after.pos : Int) - reader.pos ≠ header.length) := by omega
    simp only [get_apply, raiseIf_neg used, pure_apply]

/-! ### The entries a payload is charged for -/

/-- The run did not end at the entry limit. -/
def WithinBudget {α : Type} (result : Except HTTP2FrameParsingError α × HTTP2FrameReader) : Prop :=
  ∀ error, result.1 = .error error → error.code ≠ ErrorCode.enhanceYourCalm.code

/-- The first half did not end at the limit if the whole did not. -/
theorem WithinBudget.first {β : Type} {next : α → FrameReader β}
    (within : WithinBudget ((action >>= next) reader)) : WithinBudget (action reader) := by
  intro error same
  refine within error ?_
  rw [bind_apply]
  rcases ran : action reader with ⟨raised | value, after⟩ <;> rw [ran] at same
  · cases same
    rfl
  · cases same

/-- A reservation within the budget counts all its entries. -/
theorem WithinBudget.reserved {entries : Nat}
    (within : WithinBudget (reserveEntries entries reader)) :
    reserveEntries entries reader = (.ok (), reader.count entries) := by
  by_cases excess : ∃ limit ∈ reader.maxEntries, limit < (reader.entriesRead : Int) + entries
  · exfalso
    simp only [WithinBudget, reserveEntries, bind_apply, get_apply, raiseIf_pos excess,
      throw_apply] at within
    exact within _ rfl rfl
  · simp only [reserveEntries, bind_apply, get_apply, raiseIf_neg excess, pure_apply, set_apply]
    rfl

/-- SETTINGS entries are charged before the first of them is looked at. -/
theorem parseSettings_reserved (body : Bytes) (kind : header.kind = some .settings)
    (within : WithinBudget (parseSettings header reader)) :
    (parseSettings header reader).2.entriesRead =
      reader.entriesRead + reservedEntries header body := by
  simp only [parseSettings, reservedEntries, kind] at within ⊢
  by_cases stream : header.streamId ≠ 0
  · simp only [bind_apply, raiseIf_pos stream, throw_apply, stream, false_and, if_false,
      Nat.add_zero]
  · have zero : header.streamId = 0 := not_not.mp stream
    simp only [bind_apply, raiseIf_neg stream, pure_apply, zero, true_and] at within ⊢
    by_cases flagged : header.has FrameFlags.ack = true
    · -- An acknowledgment has no entries, whatever its length.
      simp only [flagged, if_true, Bool.true_eq_false, false_and, if_false, Nat.add_zero]
      exact (stepwise_still.sized (by decide) (stepwise_still.pure _) reader).entries
    · simp only [if_neg flagged] at within ⊢
      have plain : header.has FrameFlags.ack = false := by simpa using flagged
      by_cases whole : header.length % settingsEntrySize ≠ 0
      · have indivisible : ¬ 6 ∣ header.length := fun divides =>
          whole (Nat.mod_eq_zero_of_dvd divides)
        simp only [bind_apply, raiseIf_pos whole, throw_apply, indivisible, and_false, if_false,
          Nat.add_zero]
      · have divides : 6 ∣ header.length := Nat.dvd_of_mod_eq_zero (not_not.mp whole)
        simp only [raiseIf_neg whole, pure_bind_eq] at within ⊢
        rw [bind_apply, within.first.reserved]
        simp only [plain, divides, and_self, if_true]
        exact (stepwise_still.on_settingsLoop _ _ _ _).entries

/-- ORIGIN members are charged one by one, up to the first that is not complete. -/
theorem originLoop_reserved {turns bytesRead : Nat} {origins : List Bytes}
    (window : Window reader body) (size : bytesRead + body.length = header.length)
    (enough : body.length ≤ turns)
    (within : WithinBudget (originLoop header turns bytesRead origins reader)) :
    (originLoop header turns bytesRead origins reader).2.entriesRead =
      reader.entriesRead + completeMembers turns body := by
  induction turns generalizing body reader bytesRead origins with
  | zero => rfl
  | succ turns ih =>
    match body, window, size, enough with
    | [], window, size, enough =>
      have done : ¬ bytesRead < header.length := by simp only [length_nil] at size; omega
      simp only [originLoop, if_neg done, pure_apply, completeMembers, Nat.add_zero]
    | [_], window, size, enough =>
      simp only [length_cons, length_nil] at size
      have more : bytesRead < header.length := by omega
      have short : bytesRead + 2 > header.length := by omega
      simp only [originLoop, if_pos more, bind_apply, raiseIf_pos short, throw_apply,
        completeMembers, Nat.add_zero]
    | high :: low :: rest, window, size, enough =>
      simp only [length_cons] at size enough
      have more : bytesRead < header.length := by omega
      have room : ¬ bytesRead + 2 > header.length := by omega
      have split : Window reader ([high, low] ++ rest) := window
      have behind : Window ((reader.skip 2).count 1) rest := split.skip.count 1
      simp only [originLoop, if_pos more, raiseIf_neg room, pure_bind_eq] at within ⊢
      rw [bind_apply, readUint16_append split rfl] at within ⊢
      simp only [completeMembers]
      by_cases fits : bigEndian [high, low] ≤ rest.length
      · have inside : ¬ bytesRead + 2 + bigEndian [high, low] > header.length := by omega
        simp only [raiseIf_neg inside, pure_bind_eq] at within ⊢
        have reserved := within.first.reserved
        rw [bind_apply, reserved] at within ⊢
        -- The member itself is there, so reading it cannot fail.
        have width := length_take_of_le fits
        rw [← take_append_drop (bigEndian [high, low]) rest] at behind
        have took := read_append behind
        have moved := behind.skip
        rw [width] at took moved
        simp only [bind_apply, took] at within ⊢
        rw [ih moved (by simp only [length_drop]; omega)
          (by simp only [length_drop]; omega) within, if_pos fits]
        simp only [HTTP2FrameReader.skip, HTTP2FrameReader.count]
        omega
      · have outside : bytesRead + 2 + bigEndian [high, low] > header.length := by omega
        simp only [bind_apply, raiseIf_pos outside, throw_apply, if_neg fits, Nat.add_zero]
        rfl

/-- A payload is charged for the entries it announces, on every path within the budget. -/
theorem parsePayloadByType_reserved (window : Window reader body)
    (size : body.length = header.length)
    (within : WithinBudget (parsePayloadByType header reader)) :
    (parsePayloadByType header reader).2.entriesRead =
      reader.entriesRead + reservedEntries header body := by
  by_cases settings : header.kind = some .settings
  · simp only [parsePayloadByType, settings, map_eq_bind] at within ⊢
    have charged := parseSettings_reserved body settings within.first
    rw [bind_apply]
    rcases ran : parseSettings header reader with ⟨_ | _, after⟩ <;> rw [ran] at charged
    · exact charged
    · exact charged
  · by_cases origin : header.kind = some .origin
    · simp only [parsePayloadByType, origin, map_eq_bind, reservedEntries] at within ⊢
      have inner := within.first
      simp only [parseOrigin] at inner ⊢
      by_cases stream : header.streamId ≠ 0
      · simp only [bind_apply, raiseIf_pos stream, throw_apply, stream, if_false, Nat.add_zero]
      · have zero : header.streamId = 0 := not_not.mp stream
        simp only [raiseIf_neg stream, pure_bind_eq] at inner ⊢
        have charged := originLoop_reserved window (by omega) size.le inner
        rw [bind_apply, if_pos zero]
        rcases ran : originLoop header header.length 0 [] reader with ⟨_ | _, after⟩ <;>
          rw [ran] at charged
        · exact charged
        · exact charged
    · rw [(still_parsePayloadByType settings origin reader).entries]
      simp only [reservedEntries, Nat.add_zero]

/-! ### The nine header octets -/

/-- Three octets ahead are read as a number. -/
theorem readUint24_append {taken rest : Bytes} (window : Window reader (taken ++ rest))
    (width : taken.length = 3) :
    readUint24 reader = (.ok (bigEndian taken), reader.skip 3) :=
  readUint_append window width

/-- A frame is its length, type and flag octets, its stream identifier and its payload. -/
theorem split_wire (long : frameHeaderSize ≤ wire.length) :
    ∃ (length : Bytes) (type flags : UInt8) (stream body : Bytes),
      wire = length ++ (type :: (flags :: (stream ++ body))) ∧ length.length = 3 ∧
      stream.length = 4 ∧ body = wire.drop frameHeaderSize ∧
      headerOf wire = ⟨bigEndian length, type.toNat, flags.toNat, bigEndian stream % 2 ^ 31⟩ := by
  simp only [frameHeaderSize] at *
  obtain ⟨length, rest, rfl, width⟩ := split_at 3 wire (by omega)
  rw [length_append, width] at long
  match rest, long with
  | type :: flags :: rest, long =>
    simp only [length_cons] at long
    obtain ⟨stream, body, rfl, streamWidth⟩ := split_at 4 rest (by omega)
    refine ⟨length, type, flags, stream, body, rfl, width, streamWidth, ?_, ?_⟩
    · match length, stream, width, streamWidth with
      | [_, _, _], [_, _, _, _], _, _ => rfl
    · match length, stream, width, streamWidth with
      | [_, _, _], [_, _, _, _], _, _ => simp [headerOf, bigEndian]

/-- No frame is longer than its length field can say. -/
theorem headerOf_length_le (wire : Bytes) : (headerOf wire).length ≤ maxAllowedFrameSize := by
  -- Three octets hold at most the largest frame size there is.
  have bound := bigEndian_lt (wire.take 3)
  have width : 256 ^ (wire.take 3).length ≤ 256 ^ 3 :=
    Nat.pow_le_pow_right (by decide) (by simp only [length_take]; omega)
  simp only [headerOf, maxAllowedFrameSize]
  omega

/-- A reader between two frames, with a complete one of an admissible size ahead. -/
structure Ahead (reader : HTTP2FrameReader) (wire : Bytes) : Prop where
  idle : reader.payloadEnd = none
  holds : ∃ after, reader.data.drop reader.pos = wire ++ after
  framed : IsWireFrame wire
  fits : (headerOf wire).length ≤ reader.maxFrameSize

/-- Outside a payload everything up to the end of the buffer can be read. -/
theorem Ahead.window {after : Bytes} (ahead : Ahead reader wire)
    (held : reader.data.drop reader.pos = wire ++ after) : Window reader (wire ++ after) := by
  have lengths := congrArg List.length held
  have long := ahead.framed.1
  rw [length_drop, length_append] at lengths
  simp only [frameHeaderSize] at long
  refine ⟨?_, [], by rw [held, append_nil]⟩
  rw [ahead.idle, Option.getD_none, length_append]
  omega

/-- The header of a complete frame of an admissible size is read as the format says. -/
theorem parseHeader_ahead (ahead : Ahead reader wire) :
    parseHeader reader = (.ok (headerOf wire), reader.skip frameHeaderSize) := by
  obtain ⟨after, held⟩ := ahead.holds
  obtain ⟨length, type, flags, stream, body, shape, width, streamWidth, -, fields⟩ :=
    split_wire ahead.framed.1
  have whole := ahead.framed.2
  have lengths := congrArg List.length held
  rw [length_drop, length_append] at lengths
  -- Each field is read at the position the one before it left.
  have start : Window reader (length ++ (type :: (flags :: (stream ++ (body ++ after))))) := by
    have window := ahead.window held
    rw [shape] at window
    simpa using window
  have atType := start.skip
  rw [width] at atType
  have atFlags : Window ((reader.skip 3).skip 1) (flags :: (stream ++ (body ++ after))) := by
    have split : Window _ ([type] ++ (flags :: (stream ++ (body ++ after)))) := atType
    exact split.skip
  have atStream : Window (((reader.skip 3).skip 1).skip 1) (stream ++ (body ++ after)) := by
    have split : Window _ ([flags] ++ (stream ++ (body ++ after))) := atFlags
    exact split.skip
  have fits := ahead.fits
  rw [fields] at fits whole ⊢
  simp only [frameHeaderSize] at whole
  simp only [parseHeader, bind_eq_ok, get_eq_ok, raiseIf_eq_ok, pure_eq_ok]
  refine ⟨_, _, ⟨rfl, rfl⟩, (), _, ⟨?_, rfl⟩, _, _, readUint24_append start width, _, _,
    readUint8_append atType, _, _, readUint8_append atFlags, _, _,
    readUint32WithReserved_append atStream streamWidth, _, _, ⟨rfl, rfl⟩, (), _, ⟨?_, rfl⟩, (), _,
    ⟨?_, rfl⟩, rfl, ?_⟩
  · simp only [frameHeaderSize]
    omega
  · exact not_lt.mpr fits
  · show ¬ reader.data.length < reader.pos + 3 + 1 + 1 + 4 + bigEndian length
    omega
  · rfl

/-! ### One complete frame -/

/-- What a payload that did not parse is kept as. -/
def malformedPayload (header : FrameHeader) (body : Bytes) (error : HTTP2FrameParsingError) :
    Payload :=
  .unknown {
    unknownType := header.type
    rawPayload := body
    parseError := some error.message
    errorCode := some error.code
  }

/-- The reader inside the payload of the frame that was ahead of it. -/
def inPayload (reader : HTTP2FrameReader) (wire : Bytes) : HTTP2FrameReader :=
  { reader.skip frameHeaderSize with
    payloadEnd := some (reader.pos + frameHeaderSize + (headerOf wire).length) }

/-- The payload is as long as the header says. -/
theorem length_payload (framed : IsWireFrame wire) :
    (wire.drop frameHeaderSize).length = (headerOf wire).length := by
  have whole := framed.2
  rw [length_drop]
  omega

/-- Inside the payload exactly its octets can be read. -/
theorem Ahead.inPayload_window (ahead : Ahead reader wire) :
    Window (reader.inPayload wire) (wire.drop frameHeaderSize) := by
  obtain ⟨after, held⟩ := ahead.holds
  refine ⟨?_, after, ?_⟩
  · rw [length_payload ahead.framed]
    rfl
  · show reader.data.drop (reader.pos + frameHeaderSize) = _
    rw [← drop_drop, held, drop_append_of_le_length ahead.framed.1]

/-- Whether a malformed payload is kept as bytes. -/
def Tolerates (reader : HTTP2FrameReader) (header : FrameHeader) : Prop :=
  reader.forensic = true ∨ header.kind = some .altsvc ∨ header.kind = some .origin

instance (reader : HTTP2FrameReader) (header : FrameHeader) : Decidable (Tolerates reader header) :=
  inferInstanceAs (Decidable (_ ∨ _ ∨ _))

/-- A malformed payload is kept, where that is tolerated, or its error is raised again. -/
theorem keepMalformed_eq (ahead : Ahead reader wire) (data : after.data = reader.data)
    (forensic : after.forensic = reader.forensic) (error : HTTP2FrameParsingError) :
    keepMalformed (headerOf wire) (reader.pos + frameHeaderSize) error after =
      if error.code ≠ ErrorCode.enhanceYourCalm.code ∧ Tolerates reader (headerOf wire) then
        (.ok (malformedPayload (headerOf wire) (wire.drop frameHeaderSize) error),
          { after with pos := reader.pos + frameHeaderSize + (headerOf wire).length })
      else (.error error, after) := by
  obtain ⟨behind, held⟩ := ahead.holds
  have body : (after.data.drop (reader.pos + frameHeaderSize)).take (headerOf wire).length =
      wire.drop frameHeaderSize := by
    rw [data, ← drop_drop, held, drop_append_of_le_length ahead.framed.1,
      ← length_payload ahead.framed, take_left]
  by_cases calm : error.code = ErrorCode.enhanceYourCalm.code
  · simp only [keepMalformed, bind_apply, raiseIf_pos calm, throw_apply, ne_eq, calm, not_true,
      false_and, if_false]
  · by_cases tolerated : Tolerates reader (headerOf wire)
    · have kept : ¬ (¬ after.forensic = true ∧ (headerOf wire).kind ≠ some .altsvc ∧
          (headerOf wire).kind ≠ some .origin) := by
        rw [forensic]
        unfold Tolerates at tolerated
        tauto
      simp only [keepMalformed, bind_apply, raiseIf_neg calm, pure_apply, get_apply,
        raiseIf_neg kept, set_apply, body, malformedPayload, ne_eq, calm, tolerated, not_false_iff,
        true_and, if_true]
    · have raised : ¬ after.forensic = true ∧ (headerOf wire).kind ≠ some .altsvc ∧
          (headerOf wire).kind ≠ some .origin := by
        rw [forensic]
        unfold Tolerates at tolerated
        tauto
      simp only [keepMalformed, bind_apply, raiseIf_neg calm, pure_apply, get_apply,
        raiseIf_pos raised, throw_apply, tolerated, and_false, if_false]

/-- A complete frame is its header, its octets, and what the payload grammar makes of them. -/
theorem parseFrame_ahead (ahead : Ahead reader wire) :
    parseFrame reader =
      match parsePayloadByType (headerOf wire) (reader.inPayload wire) with
      | (.ok payload, after) =>
        (.ok ⟨headerOf wire, payload, wire⟩, { after with payloadEnd := none })
      | (.error error, after) =>
        if error.code ≠ ErrorCode.enhanceYourCalm.code ∧ Tolerates reader (headerOf wire) then
          (.ok ⟨headerOf wire,
              malformedPayload (headerOf wire) (wire.drop frameHeaderSize) error, wire⟩,
            { after with
              pos := reader.pos + frameHeaderSize + (headerOf wire).length
              payloadEnd := none })
        else
          (.error error, { after with payloadEnd := none }) := by
  obtain ⟨behind, held⟩ := ahead.holds
  have inside : parseWholePayload (headerOf wire) (reader.pos + frameHeaderSize)
      (reader.inPayload wire) = parsePayloadByType (headerOf wire) (reader.inPayload wire) :=
    parseWholePayload_eq ahead.inPayload_window (length_payload ahead.framed)
  have kept := kept_parsePayloadByType (headerOf wire) (reader.inPayload wire)
  have raw : ∀ after : HTTP2FrameReader, after.data = reader.data →
      (after.data.drop reader.pos).take
        (reader.pos + frameHeaderSize + (headerOf wire).length - reader.pos) = wire := by
    intro after data
    have width : reader.pos + frameHeaderSize + (headerOf wire).length - reader.pos =
        wire.length := by
      rw [ahead.framed.2]
      omega
    rw [data, held, width, take_left]
  -- The reader moves past the header, and the end of the payload is set for the grammar only.
  simp only [parseFrame, bind_apply, get_apply, parseHeader_ahead ahead, modify_apply,
    ensuring_apply, tryCatch_apply]
  have place : (reader.skip frameHeaderSize).pos = reader.pos + frameHeaderSize := rfl
  have same : { reader.skip frameHeaderSize with
      payloadEnd := some ((reader.skip frameHeaderSize).pos + (headerOf wire).length) } =
    reader.inPayload wire := rfl
  rw [same, place, inside]
  rcases ran : parsePayloadByType (headerOf wire) (reader.inPayload wire) with
    ⟨error | payload, after⟩ <;> rw [ran] at kept
  · simp only [keepMalformed_eq ahead kept.data kept.forensic]
    by_cases tolerated : error.code ≠ ErrorCode.enhanceYourCalm.code ∧
        Tolerates reader (headerOf wire)
    · simp only [if_pos tolerated, pure_apply]
      rw [raw _ kept.data]
    · simp only [if_neg tolerated]
  · simp only [pure_apply]
    rw [raw _ kept.data]

/-- The reader inside the payload of a complete frame. -/
def opened (wire : Bytes) (maximum : Nat) (budget : Option Int) : HTTP2FrameReader :=
  { (create wire maximum false true budget).skip frameHeaderSize with
    payloadEnd := some (frameHeaderSize + (headerOf wire).length) }

/-- A new reader has the frame ahead that its buffer begins with. -/
theorem ahead_create {suffix : Bytes} (framed : IsWireFrame wire)
    (fits : (headerOf wire).length ≤ maximum) (strictPadding forensic : Bool)
    (budget : Option Int) :
    Ahead (create (wire ++ suffix) maximum strictPadding forensic budget) wire :=
  ⟨rfl, ⟨suffix, rfl⟩, framed, le_min fits (headerOf_length_le wire)⟩

/-- So it has if the frame is all there is. -/
theorem ahead_alone (framed : IsWireFrame wire) (fits : (headerOf wire).length ≤ maximum)
    (strictPadding forensic : Bool) (budget : Option Int) :
    Ahead (create wire maximum strictPadding forensic budget) wire := by
  have followed : Ahead (create (wire ++ []) maximum strictPadding forensic budget) wire :=
    ahead_create framed fits strictPadding forensic budget
  rwa [append_nil] at followed

/-- It is the reader of the general case. -/
theorem opened_eq (wire : Bytes) (maximum : Nat) (budget : Option Int) :
    opened wire maximum budget = (create wire maximum false true budget).inPayload wire := by
  simp only [opened, inPayload, create, Nat.zero_add]

/-- It may read the octets of the payload. -/
theorem opened_window (framed : IsWireFrame wire) (maximum : Nat) (budget : Option Int) :
    Window (opened wire maximum budget) (wire.drop frameHeaderSize) := by
  have whole := framed.2
  refine ⟨?_, [], ?_⟩
  · simp only [opened, Option.getD_some, skip_pos, create, Nat.zero_add, length_drop]
    omega
  · simp [opened, create, HTTP2FrameReader.skip]

/-- A reader created for one complete frame reads it. -/
theorem parseFrame_wire (framed : IsWireFrame wire) (fits : (headerOf wire).length ≤ maximum) :
    parseFrame (create wire maximum false true budget) =
      match parsePayloadByType (headerOf wire) (opened wire maximum budget) with
      | (.ok payload, after) =>
        (.ok ⟨headerOf wire, payload, wire⟩, { after with payloadEnd := none })
      | (.error error, after) =>
        if error.code = ErrorCode.enhanceYourCalm.code then
          (.error error, { after with payloadEnd := none })
        else
          (.ok ⟨headerOf wire,
              malformedPayload (headerOf wire) (wire.drop frameHeaderSize) error, wire⟩,
            { after with
              pos := frameHeaderSize + (headerOf wire).length
              payloadEnd := none }) := by
  rw [parseFrame_ahead (ahead_alone framed fits false true budget), opened_eq]
  rcases parsePayloadByType (headerOf wire) _ with ⟨error | payload, after⟩
  · -- The forensic reader tolerates every error but the one about its budget.
    have tolerated : Tolerates (create wire maximum false true budget) (headerOf wire) := .inl rfl
    by_cases calm : error.code = ErrorCode.enhanceYourCalm.code
    · simp [calm]
    · have start : (create wire maximum false true budget).pos = 0 := rfl
      simp only [if_pos (And.intro calm tolerated), if_neg calm, start, Nat.zero_add]
  · rfl

/-- What the reader returns for a complete frame, whatever its entry budget. -/
structure Captured (wire : Bytes) (frame : ParsedFrame) : Prop where
  framed : IsWireFrame wire
  header : frame.header = headerOf wire
  raw : frame.raw = wire
  payload : WellFormed (headerOf wire) (wire.drop frameHeaderSize) ∧
      Encodes (headerOf wire) (wire.drop frameHeaderSize) frame.payload ∨
    ∃ error : HTTP2FrameParsingError, error.message ≠ "" ∧
      (error.code = ErrorCode.protocolError.code ∨ error.code = ErrorCode.flowControlError.code ∨
        error.code = ErrorCode.frameSizeError.code) ∧
      frame.payload = malformedPayload (headerOf wire) (wire.drop frameHeaderSize) error

/-- A complete frame is captured, unless its entries exceed the budget. -/
theorem parseFrame_cases (framed : IsWireFrame wire) (fits : (headerOf wire).length ≤ maximum) :
    (∃ frame reader, parseFrame (create wire maximum false true budget) = (.ok frame, reader) ∧
      Captured wire frame ∧ frame.payload.entryCount ≤ reader.entriesRead ∧
      reader.entriesRead = reservedEntries (headerOf wire) (wire.drop frameHeaderSize) ∧
      ∀ limit ∈ budget, 0 ≤ limit → (reader.entriesRead : Int) ≤ limit) ∨
    ∃ error reader, parseFrame (create wire maximum false true budget) = (.error error, reader) ∧
      error.code = ErrorCode.enhanceYourCalm.code := by
  rw [parseFrame_wire framed fits]
  have charged := parsePayloadByType_reserved (opened_window framed maximum budget)
    (length_payload framed)
  have fresh : (opened wire maximum budget).entriesRead = 0 := rfl
  rw [fresh, Nat.zero_add] at charged
  rcases ran : parsePayloadByType (headerOf wire) (opened wire maximum budget) with
    ⟨error | payload, after⟩
  · obtain ⟨kept, said, code⟩ :=
      (counting_parsePayloadByType (headerOf wire) (opened wire maximum budget)).raised ran
    by_cases calm : error.code = ErrorCode.enhanceYourCalm.code
    · exact .inr ⟨error, _, if_pos calm, calm⟩
    · rw [ran] at charged
      have counted := charged fun raised same => by
        cases same
        exact calm
      refine .inl ⟨_, _, if_neg calm, ⟨framed, rfl, rfl, .inr ⟨error, said, ?_, rfl⟩⟩, Nat.zero_le _,
        counted, kept.budget⟩
      rcases code with protocol | flow | size | ⟨-, limit⟩
      · exact .inl protocol
      · exact .inr (.inl flow)
      · exact .inr (.inr size)
      · exact absurd limit calm
  · obtain ⟨read, counted⟩ :=
      parsePayloadByType_sound (opened_window framed maximum budget) (length_payload framed) ran
    have kept := (kept_parsePayloadByType (headerOf wire)).reached ran
    rw [fresh, Nat.zero_add] at counted
    rw [ran] at charged
    have announced := charged fun _ same => by cases same
    exact .inl ⟨_, _, rfl, ⟨framed, rfl, rfl, .inl ⟨read.wellFormed, read.encodes⟩⟩, counted, announced,
      kept.budget⟩

/-- A payload with a meaning carries no parse error. -/
theorem parseError_of_encodes (encoded : Encodes header body payload) :
    payload.parseError = none := by
  cases encoded <;> rfl

/-- The reader is at the end of its frame after a payload it could read. -/
theorem pos_of_read (framed : IsWireFrame wire)
    (ran : parsePayloadByType (headerOf wire) (opened wire maximum budget) = (.ok payload, after)) :
    after.pos = wire.length := by
  have window := opened_window framed maximum budget
  have finished := (parsePayloadByType_sound window (length_payload framed) ran).1.finished.bound
  have kept := (kept_parsePayloadByType (headerOf wire)).reached ran
  -- The end of the payload never moved, and nothing is left before it.
  rw [kept.payloadEnd, kept.data, length_nil] at finished
  have stop : (opened wire maximum budget).payloadEnd.getD (opened wire maximum budget).data.length =
      frameHeaderSize + (headerOf wire).length := rfl
  have whole := framed.2
  omega

/-- The forensic reader accepts exactly the well-formed frames, and decodes them faithfully. -/
theorem parseFrame_decodes (wire : Bytes) (maximum : Nat) (framed : IsWireFrame wire)
    (fits : (headerOf wire).length ≤ maximum) :
    ∃ frame reader, parseFrame (create wire maximum false true none) = (.ok frame, reader) ∧
      reader.pos = wire.length ∧ Decodes wire frame := by
  have window := opened_window framed maximum none
  have size := length_payload framed
  rw [parseFrame_wire framed fits]
  rcases ran : parsePayloadByType (headerOf wire) (opened wire maximum none) with
    ⟨error | payload, after⟩
  · -- Without a budget the error is about the format, and the bytes are kept.
    obtain ⟨kept, fault⟩ :=
      (counting_parsePayloadByType (headerOf wire) (opened wire maximum none)).raised ran
    have calm := fault.calm kept.maxEntries
    have malformed : ¬ WellFormed (headerOf wire) (wire.drop frameHeaderSize) := by
      intro good
      obtain ⟨payload, reached, read⟩ := parsePayloadByType_complete ⟨rfl, rfl⟩ window size good
      rw [ran] at read
      cases read
    refine ⟨_, _, if_neg calm.1, framed.2.symm, rfl, rfl, ?_, fun good => absurd good malformed,
      fun _ => ⟨error.message, error.code, fault.1, calm.2, rfl⟩⟩
    exact ⟨fun clean => (by cases clean), fun good => absurd good malformed⟩
  · obtain ⟨read, -⟩ := parsePayloadByType_sound window size ran
    have ended := pos_of_read framed ran
    exact ⟨_, _, rfl, ended, rfl, rfl,
      ⟨fun _ => read.wellFormed, fun _ => parseError_of_encodes read.encodes⟩,
      fun _ => read.encodes, fun malformed => absurd read.wellFormed malformed⟩

/-- A HEADERS frame with a pad length, a priority and two octets of padding. -/
def paddedHeaders : Bytes :=
  [0, 0, 9, 1, 0x2C, 0, 0, 0, 1, 2, 0x80, 0, 0, 3, 15, 0x82, 0, 0]

/-- A padded HEADERS frame meets both conditions. -/
theorem parseFrame_decodes_paddedHeaders :
    IsWireFrame paddedHeaders ∧ (headerOf paddedHeaders).length ≤ 65536 ∧
      ∃ frame reader, parseFrame (create paddedHeaders 65536 false true none) = (.ok frame, reader) ∧
        reader.pos = paddedHeaders.length ∧ Decodes paddedHeaders frame :=
  ⟨by decide, by decide, parseFrame_decodes paddedHeaders 65536 (by decide) (by decide)⟩

example : (parseFrame (create paddedHeaders 65536 false true none)).1.toOption.map (·.payload) =
    some (.headers {
      headerBlock := [0x82]
      priority := some { exclusive := true, dependency := 3, weight := 16 }
      endStream := false
      endHeaders := true
      padded := true }) := by decide

end SolveTls.HTTP2FrameReader
