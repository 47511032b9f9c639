import SolveTls.Base.Fallible
import SolveTls.Base.Octets

/-! A sequential big-endian reader over a fixed buffer. -/

namespace SolveTls

open Fallible

structure ByteReader where
  data : Bytes
  pos : Nat := 0
  deriving DecidableEq, Repr

/-- A method of the reader; the texts of its `ValueError`s are its errors. -/
abbrev ReaderM (α : Type) := Fallible ByteReader String α

namespace ByteReader

def hasMore (self : ByteReader) : Bool := self.pos < self.data.length

def read (n : Nat) : ReaderM Bytes := do
  let self ← get
  raiseIf (self.pos + n > self.data.length) "Insufficient data"
  set { self with pos := self.pos + n }
  return (self.data.drop self.pos).take n

def readRemaining : ReaderM Bytes := do
  let self ← get
  read (self.data.length - self.pos)

def readUint8 : ReaderM Nat := do return Octets.bigEndian (← read 1)

def readUint16 : ReaderM Nat := do return Octets.bigEndian (← read 2)

def readUint24 : ReaderM Nat := do return Octets.bigEndian (← read 3)

/-- Read a length-prefixed blob; TLS writes the length in 1, 2 or 3 octets. -/
def readVector (lengthBytes : Nat) : ReaderM Bytes := do
  let length ←
    if lengthBytes = 1 then readUint8
    else if lengthBytes = 2 then readUint16
    else if lengthBytes = 3 then readUint24
    else throw "Invalid length_bytes"
  read length

/-- Read elements until the buffer is used up; every element takes at least one octet. -/
def readAll {α : Type} (element : ReaderM α) : Nat → ReaderM (List α)
  | 0 => pure []
  | turns + 1 => do
    let self ← get
    if self.hasMore then
      let first ← element
      let rest ← readAll element turns
      return first :: rest
    else
      return []

/-- Everything that a second reader finds in a blob of the first one. -/
def within {α : Type} (blob : Bytes) (element : ReaderM α) : ReaderM (List α) :=
  fromExcept (readAll element blob.length { data := blob }).1

end ByteReader

end SolveTls
