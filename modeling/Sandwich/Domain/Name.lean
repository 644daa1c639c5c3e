import Sandwich.Domain.Image
import Sandwich.Domain.Punycode
import Sandwich.Text.Composition
import Sandwich.Text.Direction
import Sandwich.Text.Joining

/-! Names of hosts in any script: labels with full stops between them. A label
is composed of characters that a name may hold, starts with no mark, and has
joiners only where they show. If a label runs from right to left, each label
runs in one direction. -/

namespace Sandwich.Domain

/-- Whether a name may hold the character, if it is in ASCII. -/
def isPlain (c : Char) : Bool :=
  0x80 ≤ c.toNat || (0x20 < c.toNat && c.toNat ≠ 0x7f && !"%#/:<>?@[\\]^|".contains c)

def isAscii (text : List Char) : Bool := text.all (·.toNat < 0x80)

/-! ### Joiners -/

/-- Whether the nearest of the characters that is not passed over joins towards `side`. -/
def joins (side : Text.Joining) (text : List Char) : Bool :=
  match (text.map Text.joining).find? (· ≠ .transparent) with
  | none => false
  | some kind => kind = side || kind = .both

/-- Whether each joiner shows: behind a mark that silences a vowel, or, when it keeps
letters apart, between two that would join. The characters before the text are `before`,
the last one first. -/
def joinersShow (before : List Char) : List Char → Bool
  | [] => true
  | c :: rest =>
    let behindSilencer := (before.head?.map Text.rank) = some Text.silencerRank
    let between := c = '\u200c' && joins .next before && joins .previous rest
    ((c ≠ '\u200c' && c ≠ '\u200d') || behindSilencer || between) &&
      joinersShow (c :: before) rest

/-! ### Directions -/

/-- Whether a label runs in one direction: from its first character, over neutral ones and
marks, to a character or number that ends it. From right to left, numbers are of one kind. -/
def runsOneWay (label : List Char) : Bool :=
  match label.map Text.direction with
  | [] => true
  | first :: rest =>
    let back := rest.reverse.dropWhile (· = .mark)
    match first with
    | .left =>
      back.head?.all (· ∈ [.left, .number]) && back.all (· ∈ [.left, .number, .neutral, .mark])
    | .right =>
      back.head?.all (· ∈ [.right, .number, .arabicNumber]) &&
        back.all (· ∈ [.right, .number, .arabicNumber, .neutral, .mark]) &&
        !(.number ∈ back && .arabicNumber ∈ back)
    | _ => false

/-- Whether the text has a part that runs from right to left. -/
def runsBack (text : List Char) : Bool :=
  text.any fun c => Text.direction c = .right || Text.direction c = .arabicNumber

/-! ### Labels -/

/-- Whether a text is a label. One beyond ASCII has at most a thousand characters. -/
def isLabel (text : List Char) : Bool :=
  text.all isPlain && !(text.head?.any Text.isMark) && joinersShow [] text &&
    (isAscii text || text.length ≤ 1000)

/-- The label that another stands for in ASCII: itself, unless it starts with `xn--`. -/
def unpack? (label : List Char) : Option (List Char) :=
  match label with
  | 'x' :: 'n' :: '-' :: '-' :: packed =>
    if packed.isEmpty || packed.getLast? = some '-' || 2000 < packed.length || !isAscii packed then
      none
    else
      (Punycode.decode? packed).filter fun text =>
        text.all isKept && Text.compose text = text && isLabel text
  | _ => if isLabel label then some label else none

/-- The name that a text stands for: each character becomes its image, and the whole is
composed. -/
def ofText? (text : List Char) : Option (List Char) := do
  let name := Text.compose (← text.mapM image?).flatten
  let labels ← (name.splitOn '.').mapM unpack?
  if labels.any runsBack && !labels.all runsOneWay then none else some name

end Sandwich.Domain
