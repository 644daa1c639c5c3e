import Sandwich.Bytes
import Sandwich.Text.Alphanumeric
import Sandwich.Text.Blank
import Sandwich.Text.Utf8

/-! Variables, and the file that they can be kept in: a name, an equals sign and
a value on each line. A value may be quoted and may then go over several lines,
and outside single quotes it may hold the values of other variables. -/

namespace Sandwich.Command

/-- The values of variables. -/
abbrev Variables := String → Option String

namespace Variables

/-! ### Lines -/

/-- How the end of a text is quoted. -/
inductive Quoting
  | bare
  /-- Bare, and behind a blank. -/
  | blank
  | escaped
  | double
  | doubleEscaped
  | single
  | singleEscaped
deriving DecidableEq

/-- The quoting behind a character that is not quoted. -/
def Quoting.ofBare (c : Char) : Quoting :=
  if c = '\\' then escaped else if c = '"' then double else if c = '\'' then single else bare

def Quoting.next : Quoting → Char → Quoting
  | bare, c => if Text.isBlank c && c ≠ '\n' && c ≠ '\r' then blank else ofBare c
  | blank, c => ofBare c
  | escaped, _ => bare
  | double, c => if c = '\\' then doubleEscaped else if c = '"' then bare else double
  | doubleEscaped, _ => double
  | single, c => if c = '\\' then singleEscaped else if c = '\'' then bare else single
  | singleEscaped, _ => single

/-- The text up to a comment, and how its end is quoted; nothing if there is a comment. -/
def beforeComment : Quoting → List Char → List Char × Option Quoting
  | q, [] => ([], some q)
  | q, c :: cs =>
    if q = .blank && c = '#' then ([], none)
    else
      let (text, last) := beforeComment (q.next c) cs
      (c :: text, last)

/-- The lines of a file with their ends; a file that ends in a line end has no line behind it. -/
def lines : Bytes → List Bytes
  | [] => []
  | b :: bs =>
    if b = 10 then [b] :: lines bs
    else
      match lines bs with
      | [] => [[b]]
      | line :: rest => (b :: line) :: rest

/-- Without the line end. -/
def chomp (cs : List Char) : List Char :=
  match cs.reverse with
  | '\n' :: '\r' :: rest => rest.reverse
  | '\n' :: rest => rest.reverse
  | _ => cs

/-- The entries of a file, each on as many lines as its quotes take, the first
of which may have been read already. The list ends with nothing where an entry
cannot be read. -/
def entries : (start : List Char) → Quoting → List Bytes → List (Option (List Char))
  | _, quoting, [] => if quoting = .bare then [] else [none]
  | start, quoting, line :: rest =>
    match Text.decodeUtf8? line with
    | none => [none]
    | some cs =>
      if (Text.trimStart (start ++ cs)).head? = some '#' then some [] :: entries [] .bare rest
      else
        match beforeComment quoting cs with
        | (text, none) => some (start ++ text) :: entries [] .bare rest
        | (_, some .bare) => some (chomp (start ++ cs)) :: entries [] .bare rest
        | (_, some quoting) => entries (start ++ cs) quoting rest

/-! ### Values -/

/-- What the next character of a value belongs to. -/
inductive Mode
  | outer
  | single
  | escaped
  /-- Only blanks and a comment may follow. -/
  | ended
  /-- The name of a variable behind a dollar sign. -/
  | name (cs : List Char)
  /-- The same in braces. -/
  | braced (cs : List Char)

/-- Whether a character belongs to the name of a variable behind a dollar sign. -/
def inName (c : Char) : Bool := Text.isAlphanumeric c

/-- The character that a backslash and `c` stand for. -/
def unescape? (c : Char) : Option Char :=
  if c = 'n' then some '\n' else if "\\'\"$ ".contains c then some c else none

/-- The value that a text stands for; `inDouble` tells whether it is in double quotes. -/
def readValue (lookup : List Char → List Char) :
    (inDouble : Bool) → Mode → List Char → Option (List Char)
  | inDouble, mode, [] =>
    match mode with
    | .single => none
    | .braced _ => none
    | .name cs => if inDouble then none else some (lookup cs)
    | _ => if inDouble then none else some []
  | inDouble, mode, c :: cs =>
    match mode with
    | .ended =>
      if c = ' ' || c = '\t' then readValue lookup inDouble .ended cs
      else if c = '#' then some [] else none
    | .escaped => do return (← unescape? c) :: (← readValue lookup inDouble .outer cs)
    | .single =>
      if c = '\'' then readValue lookup inDouble .outer cs
      else (readValue lookup inDouble .single cs).map (c :: ·)
    | .name name =>
      if inName c then readValue lookup inDouble (.name (name ++ [c])) cs
      else if c = '\x7b' && name.isEmpty then readValue lookup inDouble (.braced []) cs
      else if c = '$' then (readValue lookup inDouble (.name []) cs).map (lookup name ++ ·)
      else (readValue lookup inDouble .outer cs).map (lookup name ++ c :: ·)
    | .braced name =>
      if c = '\x7d' then (readValue lookup inDouble .outer cs).map (lookup name ++ ·)
      else readValue lookup inDouble (.braced (name ++ [c])) cs
    | .outer =>
      if c = '$' then readValue lookup inDouble (.name []) cs
      else if c = '\\' then readValue lookup inDouble .escaped cs
      else if c = '"' then readValue lookup (!inDouble) .outer cs
      else if inDouble then (readValue lookup inDouble .outer cs).map (c :: ·)
      else if c = '\'' then readValue lookup inDouble .single cs
      else if c = ' ' || c = '\t' then readValue lookup inDouble .ended cs
      else (readValue lookup inDouble .outer cs).map (c :: ·)

/-! ### Entries -/

/-- The name of a variable at the start of a text, and what comes after it and any blanks. -/
def readName (cs : List Char) : Option (List Char × List Char) :=
  let inName (c : Char) : Bool := c.isAlphanum || c = '_' || c = '.'
  match cs with
  | c :: _ =>
    if c.isAlpha || c = '_' then some (cs.takeWhile inName, Text.trimStart (cs.dropWhile inName))
    else none
  | [] => none

/-- The name that is set, and the text of its value. The word `export` may stand before the name. -/
def readSetting (cs : List Char) : Option (List Char × List Char) := do
  match ← readName cs with
  | (name, '=' :: rest) => return (name, Text.trimStart rest)
  | (name, rest) =>
    guard (name = "export".toList)
    match ← readName rest with
    | (name, '=' :: rest) => return (name, Text.trimStart rest)
    | _ => none

/-- The variable of an entry and its value; the inner nothing stands for an entry without one. -/
def readEntry (lookup : List Char → List Char) (entry : List Char) :
    Option (Option (String × String)) :=
  let cs := Text.trim entry
  if cs.isEmpty || cs.head? = some '#' then some none
  else do
    let (name, text) ← readSetting cs
    let value ← if text.head? = some '#' then some [] else readValue lookup false .outer text
    return some (String.ofList name, String.ofList value)

/-- The variables with those of the entries, as far as they can be read. What is
set already stays as it is. There is no result if a value holds a zero byte, which
no variable can. -/
def add (vars : Variables) : List (Option (List Char)) → Option Variables
  | some entry :: rest =>
    let lookup (name : List Char) := ((vars (String.ofList name)).getD "").toList
    match readEntry lookup entry with
    | none => some vars
    | some none => vars.add rest
    | some (some (name, value)) =>
      if (vars name).isSome then vars.add rest
      else if value.contains '\x00' then none
      else add (fun n => if n = name then some value else vars n) rest
  | _ => some vars

/-- The bytes without the mark that a text in UTF-8 may start with. -/
def withoutMark : Bytes → Bytes
  | 0xef :: 0xbb :: 0xbf :: bs => bs
  | bs => bs

/-- The variables with those that a file sets, unless one of them cannot be set. -/
def load (vars : Variables) (file : Bytes) : Option Variables :=
  vars.add (entries [] .bare (lines (withoutMark file)))

end Variables

end Sandwich.Command
