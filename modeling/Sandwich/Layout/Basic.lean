import Sandwich.Layout.Field

/-! Layouts: an opcode and then fields, each in exactly its width, with
nothing between them. The contract reads its call data at fixed offsets, so
that packing and unpacking walk one and the same list of fields. -/

namespace Sandwich

/-- The fields behind an opcode. -/
structure Layout where
  name : String
  opcode : UInt8
  fields : List Field
deriving DecidableEq

/-- A payload taken apart. -/
structure Payload where
  layout : String
  opcode : UInt8
  fields : List (String × Content)
deriving DecidableEq

namespace Payload

/-- The content of the first field of that name. -/
def get? (d : Payload) (name : String) : Option Content :=
  (d.fields.find? (·.1 == name)).map (·.2)

def describe (d : Payload) : String :=
  d.layout ++ " (opcode " ++ toString d.opcode ++ ")" ++
    String.join (d.fields.map fun f => "\n  " ++ f.1 ++ ": " ++ f.2.describe)

end Payload

namespace Layout

/-- The length of a payload: the opcode and all the fields. -/
def size (l : Layout) : Nat := 1 + l.fields.foldr (fun f n => f.kind.width + n) 0

/-- The bytes of fields and their values, in order. The first misfit is the error. -/
def writeFields : List Field → List Value → Except PayloadError Bytes
  | f :: fs, v :: vs => do return (← f.write v) ++ (← writeFields fs vs)
  | _, _ => .ok []

/-- The payload of `opcode` and `values`. -/
def encode (l : Layout) (opcode : UInt8) (values : List Value) : Except PayloadError Bytes :=
  if values.length ≠ l.fields.length then
    .error (.arityMismatch l.name l.fields.length values.length)
  else (writeFields l.fields values).map (opcode :: ·)

/-- What the fields hold, each reading the bytes of its width. -/
def readFields : List Field → Bytes → Except PayloadError (List (String × Content))
  | [], _ => .ok []
  | f :: fs, bytes => do
    let content ← f.read (bytes.take f.kind.width)
    return (f.name, content) :: (← readFields fs (bytes.drop f.kind.width))

/-- The payload taken apart. Its opcode need not be the one of the layout: the
contract, too, looks at offsets alone once it has dispatched. -/
def decode (l : Layout) (data : Bytes) : Except PayloadError Payload :=
  if data.length ≠ l.size then .error (.lengthMismatch l.name l.size data.length)
  else do return ⟨l.name, data.headD 0, ← readFields l.fields data.tail⟩

end Layout

end Sandwich
