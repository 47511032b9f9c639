import SolveTls.Http2.HeaderTables

/-! Announcing the smallest and the final size keeps the peer's table equal to the encoder's. -/

namespace SolveTls

open DynamicTable

variable {δ : Type}
variable {older newer calls : List EncoderCall} {encoder : ResponseEncoder}

/-! ### One more call -/

@[simp] theorem pendingSizes_assigned (calls : List EncoderCall) (size : Nat) :
    pendingSizes (calls ++ [.assigned size]) = pendingSizes calls ++ [size] := by
  simp [pendingSizes]

@[simp] theorem pendingSizes_encoded (calls : List EncoderCall) (block : HeaderBlock) :
    pendingSizes (calls ++ [.encoded block]) = [] := by
  simp [pendingSizes]

@[simp] theorem encoderTable_assigned (calls : List EncoderCall) (size : Nat) :
    encoderTable (calls ++ [.assigned size]) = (encoderTable calls).resize fieldSize size := by
  simp [encoderTable]

@[simp] theorem encoderTable_encoded (calls : List EncoderCall) (block : HeaderBlock) :
    encoderTable (calls ++ [.encoded block]) =
      (encoderTable calls).insertAll fieldSize block.inserted := by
  simp [encoderTable]

@[simp] theorem peerTable_assigned (calls : List EncoderCall) (size : Nat) :
    peerTable (calls ++ [.assigned size]) = peerTable calls := by
  simp [peerTable]

@[simp] theorem peerTable_encoded (calls : List EncoderCall) (block : HeaderBlock) :
    peerTable (calls ++ [.encoded block]) =
      ((peerTable calls).resizeAll fieldSize block.updates).insertAll fieldSize block.inserted := by
  simp [peerTable]

/-! ### The peer's table -/

/-- The smallest and the final size evict as much as all of them. -/
theorem resizeAll_extremes (table : Table Field) (sizes : List Nat) :
    table.resizeAll fieldSize (extremes sizes) = table.resizeAll fieldSize sizes := by
  cases sizes with
  | nil => rfl
  | cons size rest =>
    have least : (size :: rest).min? = some (rest.foldl min size) := List.min?_cons'
    have last : (size :: rest).getLast? = some (rest.getLast?.getD size) := List.getLast?_cons
    rw [table.resizeAll_extremes fieldSize least last]
    simp only [extremes, least, last]
    -- With one size for both ends, announcing it once is enough.
    split
    · rename_i same
      rw [← same, Table.resizeAll_twice]
    · rfl

theorem Announced.of_append (announced : Announced (older ++ newer)) :
    Announced older := by
  -- What stands in the older part stands in the whole.
  constructor
  · intro before size after cut
    exact announced.effective before size (after ++ newer) (by rw [cut]; simp)
  · intro before block after cut
    exact announced.updates before block (after ++ newer) (by rw [cut]; simp)

/-- Between blocks, the encoder is ahead of its peer by the sizes not announced yet. -/
theorem encoderTable_eq (announced : Announced calls) :
    encoderTable calls = (peerTable calls).resizeAll fieldSize (pendingSizes calls) := by
  -- The induction is on the calls, adding the newest one last.
  induction calls using List.reverseRecOn with
  | nil => rfl
  | append_singleton older call ih =>
    have earlier := ih announced.of_append
    cases call with
    | assigned size =>
      rw [encoderTable_assigned, peerTable_assigned, pendingSizes_assigned, earlier,
        Table.resizeAll_append]
      rfl
    | encoded block =>
      rw [encoderTable_encoded, peerTable_encoded, pendingSizes_encoded, earlier,
        announced.updates older block [] rfl, resizeAll_extremes]
      rfl

/-- After every block, the two tables are the same. -/
theorem peerTable_eq {block : HeaderBlock} (announced : Announced (older ++ [.encoded block])) :
    peerTable (older ++ [.encoded block]) = encoderTable (older ++ [.encoded block]) := by
  -- Nothing is pending right after a block.
  rw [encoderTable_eq announced, pendingSizes_encoded]
  rfl

/-! ### The encoder -/

/-- The encoder is where its calls have led it, and remembers what it has to announce. -/
structure Consistent (encoder : ResponseEncoder) (calls : List EncoderCall) : Prop where
  table : Table.mk encoder.entries encoder.maxSize = encoderTable calls
  pending : encoder.tableSizeChanges = pendingSizes calls
  resized : encoder.resized = decide (pendingSizes calls ≠ [])
  announced : Announced calls

theorem consistent_initial : Consistent {} [] :=
  ⟨rfl, rfl, rfl, ⟨fun _ _ _ cut => by simp at cut, fun _ _ _ cut => by simp at cut⟩⟩

theorem Consistent.limit (consistent : Consistent encoder calls) :
    encoder.maxSize = (encoderTable calls).limit :=
  congrArg Table.limit consistent.table

/-- The last call of a longer log is the one that was added. -/
private theorem append_cases {call last : EncoderCall}
    (cut : calls ++ [last] = older ++ call :: newer) :
    (∃ between, calls = older ++ call :: between) ∨ calls = older ∧ last = call := by
  -- Either something follows the call, or it stands last itself.
  rcases List.eq_nil_or_concat newer with rfl | ⟨between, other, rfl⟩
  · exact .inr (by simpa using List.append_inj' cut rfl)
  · refine .inl ⟨between, ?_⟩
    have parts : calls ++ [last] = (older ++ call :: between) ++ [other] := by simpa using cut
    exact (List.append_inj' parts rfl).1

/-- Assigning a different size is a change that will be announced. -/
theorem Consistent.assign {size : Nat} (consistent : Consistent encoder calls)
    (differs : size ≠ encoder.maxSize) :
    Consistent (encoder.setHeaderTableSize size) (calls ++ [.assigned size]) := by
  refine ⟨?_, ?_, ?_, ?_, ?_⟩
  · rw [encoderTable_assigned, ← consistent.table]
    rfl
  · simp only [ResponseEncoder.setHeaderTableSize, if_pos differs, consistent.pending,
      pendingSizes_assigned]
  · simp [ResponseEncoder.setHeaderTableSize, differs]
  · intro older other newer cut
    rcases append_cases cut with ⟨between, earlier⟩ | ⟨rfl, same⟩
    · exact consistent.announced.effective older other between earlier
    · rw [← EncoderCall.assigned.inj same, ← consistent.limit]
      exact differs
  · intro older block newer cut
    rcases append_cases cut with ⟨between, earlier⟩ | ⟨-, same⟩
    · exact consistent.announced.updates older block between earlier
    · cases same

/-- The collapsed changes are the smallest and the final one. -/
theorem collapse_eq_extremes (changes : List Nat) :
    ResponseEncoder.collapse changes = extremes changes := by
  -- Without changes both are empty; otherwise both ends exist.
  cases changes with
  | nil => rfl
  | cons change rest =>
    simp only [ResponseEncoder.collapse, extremes, List.min?_cons', List.getLast?_cons]

/-- A header block announces what is pending, and nothing is pending after it. -/
theorem Consistent.encode (hpack : Hpack δ) (consistent : Consistent encoder calls)
    (headers : List Field) :
    Consistent (encoder.encode hpack headers).2
      (calls ++ [.encoded (encoder.encode hpack headers).1]) := by
  -- The flag is set exactly if something is pending, so nothing is suppressed.
  have updates : (encoder.encode hpack headers).1.updates = extremes (pendingSizes calls) := by
    simp only [ResponseEncoder.encode, ResponseEncoder.encodeRecorded, collapse_eq_extremes,
      consistent.pending, consistent.resized]
    by_cases empty : pendingSizes calls = []
    · rw [empty]
      rfl
    · rw [if_pos (by simpa using empty)]
  refine ⟨?_, ?_, ?_, ?_, ?_⟩
  · rw [encoderTable_encoded, ← consistent.table]
    rfl
  · rw [pendingSizes_encoded]
    simp only [ResponseEncoder.encode, ResponseEncoder.encodeRecorded, collapse_eq_extremes,
      consistent.pending, consistent.resized]
    by_cases empty : pendingSizes calls = []
    · rw [empty]
      rfl
    · rw [if_pos (by simpa using empty)]
  · rw [pendingSizes_encoded]
    rfl
  · intro older size newer cut
    rcases append_cases cut with ⟨between, earlier⟩ | ⟨-, same⟩
    · exact consistent.announced.effective older size between earlier
    · cases same
  · intro older block newer cut
    rcases append_cases cut with ⟨between, earlier⟩ | ⟨rfl, same⟩
    · exact consistent.announced.updates older block between earlier
    · rw [← EncoderCall.encoded.inj same]
      exact updates

end SolveTls
