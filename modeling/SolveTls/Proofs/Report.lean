import SolveTls.Report

/-! What the report says about a capture can be read back from it. -/

namespace SolveTls

/-! ### Reading a report -/

/-- Latin-1 encoding, which fails on characters it does not have. -/
def latin1? (text : Text) : Option Bytes :=
  text.mapM fun char => if char.toNat < 256 then some (UInt8.ofNat char.toNat) else none

/-- A reported field list, encoded back to octets. -/
def reportedFields? (value : Json) : Option (List Field) := do
  let items ← value.asList?
  items.mapM fun item => do
    match ← item.asList? with
    | [key, value] => return (← latin1? (← key.asText?), ← latin1? (← value.asText?))
    | _ => none

/-- The octets of one reported frame, from the hex digits of its raw field. -/
def reportedRaw? (frame : Json) : Option Bytes := do
  Hex.decode (← (← frame.field? "raw").asText?)

/-- The octets of all reported frames, one after another. -/
def reportedRaws? (report : Dict String Json) : Option Bytes := do
  let frames ← (← Dict.get? report "frames").asList?
  let raws ← frames.mapM reportedRaw?
  return raws.flatten

/-! ### What is read is what was captured -/

/-- Every octet is a Latin-1 character, so the text of octets encodes back to them. -/
theorem latin1?_asText (value : Bytes) : latin1? (asText value) = some value := by
  induction value with
  | nil => rfl
  | cons octet rest ih =>
    have below : octet.toNat < 256 := octet.toNat_lt
    have valid : octet.toNat.isValidChar := Or.inl (by omega)
    have code : (Char.ofNat octet.toNat).toNat = octet.toNat := by
      rw [Char.ofNat, dif_pos valid]
      rfl
    simp only [latin1?, asText, List.map_cons, List.mapM_cons] at ih ⊢
    simp [code, below, ih]

theorem reportedFields?_fieldsReport (fields : List Field) :
    reportedFields? (fieldsReport fields) = some fields := by
  -- Each pair is a list of two texts, both of which encode back.
  simp only [reportedFields?, fieldsReport, Json.asList?, Option.bind_eq_bind, Option.bind_some]
  induction fields with
  | nil => rfl
  | cons field rest ih =>
    rw [List.map_cons, List.mapM_cons, ih]
    simp [Json.asText?, latin1?_asText]

/-- The raw octets of a frame stand in its report as hex digits. -/
theorem frameReport_raw (frame : ParsedFrame) :
    Json.field? "raw" (.object (frameReport frame)) = some (plainBytes frame.raw) := by
  simp only [Json.field?, frameReport, Dict.update, List.foldl_cons, List.foldl_nil]
  exact Dict.get?_set_self _ _ _

theorem http2Report_frames (md5 : Text → Text) (capture : HTTP2Capture) :
    Dict.get? (http2Report md5 (some capture)) "frames" =
      some (.list (capture.frames.map fun frame => .object (frameReport frame))) := by
  -- The frames are stored last, over everything else.
  simp only [http2Report]
  exact Dict.get?_set_self _ _ _

/-- The reported frames give back the captured octets. -/
theorem reportedRaws?_http2Report (md5 : Text → Text) (capture : HTTP2Capture) :
    reportedRaws? (http2Report md5 (some capture)) =
      some (capture.frames.flatMap ParsedFrame.raw) := by
  have raws : (capture.frames.map fun frame => Json.object (frameReport frame)).mapM reportedRaw? =
      some (capture.frames.map ParsedFrame.raw) := by
    induction capture.frames with
    | nil => rfl
    | cons frame rest ih =>
      rw [List.map_cons, List.mapM_cons, ih]
      simp [reportedRaw?, frameReport_raw, plainBytes, Json.asText?, Hex.decode_encode]
  simp only [reportedRaws?, http2Report_frames, Json.asList?, Option.bind_eq_bind,
    Option.bind_some]
  rw [raws, List.flatMap_def]
  rfl

/-- The fields of the request are reported exactly when there are any. -/
theorem http2Report_headers (md5 : Text → Text) (capture : HTTP2Capture) :
    Dict.get? (http2Report md5 (some capture)) "headers" = capture.headers.map fieldsReport := by
  have fresh : Dict.get? (buildAkamaiFingerprint md5 (some capture)) "headers" = none := by
    unfold buildAkamaiFingerprint
    dsimp only
    split <;> simp [Dict.get?]
  simp only [http2Report]
  rw [Dict.get?_set_of_ne _ (by decide)]
  -- Settings and trailers are stored under other keys, before and after.
  cases capture.headers with
  | none =>
    cases capture.initialSettings with
    | none =>
      by_cases none : capture.trailers = []
      · simpa [none] using fresh
      · simpa [none, Dict.get?_set_of_ne] using fresh
    | some settings =>
      by_cases none : capture.trailers = []
      · simpa [none, Dict.get?_set_of_ne] using fresh
      · simpa [none, Dict.get?_set_of_ne] using fresh
  | some headers =>
    by_cases none : capture.trailers = []
    · simp [none, Dict.get?_set_self]
    · simp [none, Dict.get?_set_of_ne, Dict.get?_set_self]

/-- Trailers are reported exactly when there are any. -/
theorem http2Report_trailers (md5 : Text → Text) (capture : HTTP2Capture) :
    Dict.get? (http2Report md5 (some capture)) "trailers" =
      if capture.trailers = [] then none else some (fieldsReport capture.trailers) := by
  have fresh : Dict.get? (buildAkamaiFingerprint md5 (some capture)) "trailers" = none := by
    unfold buildAkamaiFingerprint
    dsimp only
    split <;> simp [Dict.get?]
  simp only [http2Report]
  rw [Dict.get?_set_of_ne _ (by decide)]
  by_cases empty : capture.trailers = []
  · rw [if_pos empty, if_pos empty]
    -- Nothing stored before has this key.
    cases capture.headers <;> cases capture.initialSettings <;>
      simpa [Dict.get?_set_of_ne] using fresh
  · rw [if_neg empty, if_neg empty]
    exact Dict.get?_set_self _ _ _

end SolveTls
