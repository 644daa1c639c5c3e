import Sandwich.Json.Number
import Sandwich.Text.Quoted

/-! Values of a data format with objects, arrays, strings, whole numbers, truth
values and null, and their text without blanks. -/

namespace Sandwich

inductive Json
  | null
  | bool (b : Bool)
  | num (n : Int)
  | str (s : String)
  | arr (items : List Json)
  /-- The members in order. -/
  | obj (members : List (String × Json))
deriving Inhabited

namespace Json

/-- The character within quotes. -/
def escape (c : Char) : String :=
  if c = '"' then "\\\""
  else if c = '\\' then "\\\\"
  else if c = '\n' then "\\n"
  else if c = '\r' then "\\r"
  else if c = '\t' then "\\t"
  else if c = '\x08' then "\\b"
  else if c = '\x0c' then "\\f"
  else if c.toNat < 0x10 then "\\u000" ++ Text.hexNumeral c.toNat
  else if c.toNat < 0x20 then "\\u00" ++ Text.hexNumeral c.toNat
  else c.toString

def quote (s : String) : String := "\"" ++ String.join (s.toList.map escape) ++ "\""

mutual

/-- The text of a value. -/
def render : Json → String
  | null => "null"
  | bool b => if b then "true" else "false"
  | num n => Number.render n
  | str s => quote s
  | arr items => "[" ++ ",".intercalate (renderItems items) ++ "]"
  | obj members => "\x7b" ++ ",".intercalate (renderMembers members) ++ "\x7d"

def renderItems : List Json → List String
  | [] => []
  | item :: items => item.render :: renderItems items

def renderMembers : List (String × Json) → List String
  | [] => []
  | (name, value) :: members => (quote name ++ ":" ++ value.render) :: renderMembers members

end

/-- Whether the value is an object with the member `name`, which may be null. -/
def has (name : String) : Json → Bool
  | obj members => (members.lookup name).isSome
  | _ => false

/-- The member `name` of an object; nothing if it is missing or null. -/
def member? (name : String) : Json → Option Json
  | obj members =>
    match members.lookup name with
    | some null => none
    | found => found
  | _ => none

end Json

end Sandwich
