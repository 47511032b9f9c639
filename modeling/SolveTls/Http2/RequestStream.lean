import SolveTls.Http2.H2Laws

/-! A request as it comes on the wire: the header blocks of all streams and the content of one. -/

namespace SolveTls

open H2

variable {κ δ : Type}

/-! ### Header blocks -/

/-- The header blocks that frames are made of: the complete ones in order, and one still open. -/
structure RequestBlocks where
  completed : List OpenBlock := []
  opened : Option OpenBlock := none
  deriving DecidableEq, Repr

namespace RequestBlocks

/-- One more frame begins a block, continues the open one, or belongs to none. -/
def take (blocks : RequestBlocks) (frame : ParsedFrame) : RequestBlocks :=
  match gather blocks.opened frame.header.streamId frame.payload with
  | some (block, true) => { completed := blocks.completed ++ [block], opened := none }
  | some (block, false) => { blocks with opened := some block }
  | none => blocks

/-- The header blocks of frames in the order in which they came. -/
def ofFrames (frames : List ParsedFrame) : RequestBlocks := frames.foldl take {}

end RequestBlocks

/-- The one decoder of a connection after it was given these blocks, one after another. -/
def Hpack.after (hpack : Hpack δ) (blocks : List OpenBlock) : δ :=
  blocks.foldl (fun decoder block => (hpack.decode decoder block.fragment).2)
    (hpack.decoder maxHeaderListSize)

/-- The fields of a block as they stand on the wire, decoded after the older blocks. -/
def Hpack.rawFields (hpack : Hpack δ) (older : List OpenBlock) (block : OpenBlock) :
    Except Exn (List Field) :=
  (hpack.decode (hpack.after older) block.fragment).1

/-! ### Content -/

/-- The content a client has sent on a stream, and whether it has ended the stream. -/
structure Upload where
  octets : Nat := 0
  ended : Bool := false
  deriving DecidableEq, Repr

namespace Upload

/-- DATA counts without its padding until END_STREAM, which HEADERS can carry as well. -/
def take (streamId : Nat) (upload : Upload) (frame : ParsedFrame) : Upload :=
  if upload.ended ∨ frame.header.streamId ≠ streamId then upload
  else
    match frame.payload with
    | .data payload =>
      { octets := upload.octets + payload.data.length, ended := payload.endStream }
    | .headers payload => { upload with ended := payload.endStream }
    | _ => upload

/-- What the frames of a connection upload on one of its streams. -/
def ofFrames (streamId : Nat) (frames : List ParsedFrame) : Upload :=
  frames.foldl (take streamId) {}

end Upload

end SolveTls
