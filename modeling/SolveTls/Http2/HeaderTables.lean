import SolveTls.Http2.Adapter

/-! What the calls into the encoder mean to its own header table and to the peer's. -/

namespace SolveTls

open DynamicTable

/-- The table both sides start with. -/
def initialTable : Table Field where
  limit := 4096

/-- The sizes assigned since the last header block. -/
def pendingSizes (calls : List EncoderCall) : List Nat :=
  calls.foldl (fun pending call =>
    match call with
    | .assigned size => pending ++ [size]
    | .encoded _ => []) []

/-- The encoder's table, which goes through every size that is assigned. -/
def encoderTable (calls : List EncoderCall) : Table Field :=
  calls.foldl (fun table call =>
    match call with
    | .assigned size => table.resize fieldSize size
    | .encoded block => table.insertAll fieldSize block.inserted) initialTable

/-- The peer's table, which sees nothing but the header blocks. -/
def peerTable (calls : List EncoderCall) : Table Field :=
  calls.foldl (fun table call =>
    match call with
    | .assigned _ => table
    | .encoded block =>
      (table.resizeAll fieldSize block.updates).insertAll fieldSize block.inserted) initialTable

/-- The smallest and the final one of some sizes, or one size if they are the same. -/
def extremes (sizes : List Nat) : List Nat :=
  match sizes.min?, sizes.getLast? with
  | some smallest, some final => if smallest = final then [smallest] else [smallest, final]
  | _, _ => []

/-- Every size assigned was a change, and every block announced the changes before it. -/
structure Announced (calls : List EncoderCall) : Prop where
  effective : ∀ older size newer, calls = older ++ .assigned size :: newer →
    size ≠ (encoderTable older).limit
  updates : ∀ older block newer, calls = older ++ .encoded block :: newer →
    block.updates = extremes (pendingSizes older)

end SolveTls
