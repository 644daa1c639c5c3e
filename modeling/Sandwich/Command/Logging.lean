import Sandwich.Command.LogLine
import Sandwich.Text.Alphanumeric
import Sandwich.Text.Blank
import Sandwich.Text.Utf8

/-! Which events are told about. A filter is a text with commas between rules;
each rule names origins, a level, or both: `origins[span{field}]=level`. -/

namespace Sandwich

namespace Level

/-- The level that a number of flags for verbosity selects. -/
def ofVerbosity : Nat → Option Level
  | 0 => none
  | 1 => some .error
  | 2 => some .warn
  | 3 => some .info
  | 4 => some .debug
  | _ => some .trace

/-- The level that a text names, by word or by number. The outer nothing stands for no level,
and the inner one for none at all. -/
def ofText? (text : List Char) : Option (Option Level) :=
  let digits := if text.head? = some '+' then text.drop 1 else text
  if !digits.isEmpty && digits.all Char.isDigit then
    match String.ofList (digits.dropWhile (· = '0')) with
    | "" => some none
    | "1" => some (some .error)
    | "2" => some (some .warn)
    | "3" => some (some .info)
    | "4" => some (some .debug)
    | "5" => some (some .trace)
    | _ => none
  else
    match String.ofList (text.map Char.toLower) with
    | "off" => some none
    | "error" => some (some .error)
    | "warn" => some (some .warn)
    | "info" => some (some .info)
    | "debug" => some (some .debug)
    | "trace" => some (some .trace)
    | _ => none

end Level

/-- Up to which level some events are told about. -/
structure LogRule where
  /-- How the names of the origins start. -/
  origins : List Char := []
  /-- The name of a value that comes with the events. -/
  field : Option (List Char) := none
  /-- Whether the rule asks for a span, or for a value of a field. No event comes with a span. -/
  isNarrow : Bool := false
  level : Option Level := some .trace
deriving DecidableEq

namespace LogRule

/-- Whether the rule is about an event. -/
def covers (rule : LogRule) (origin : List Char) (event : Event) : Bool :=
  let names := "message" :: event.fields.map (·.1)
  !rule.isNarrow && rule.origins.isPrefixOf origin &&
    rule.field.all fun name => String.ofList name ∈ names

/-- Whether the rule says at least as much as another about which events it covers: by the
length of the origins, and then by the field. -/
def isAsSpecificAs (a b : LogRule) : Bool :=
  if a.origins.length ≠ b.origins.length then b.origins.length < a.origins.length
  else
    match a.field, b.field with
    | _, none => true
    | none, some _ => false
    | some name, some other => !(name < other)

/-- How far a rule has been read; `start` is where the part that is being read begins. -/
inductive Place
  | start
  | origins (start : Nat)
  | span (start : Nat)
  | field (start : Nat)
  | afterField
  | afterSpan
  | level (start : Nat)

/-- Why a text is no rule. -/
inductive Fault
  | malformed
  /-- A part of the text would begin or end within a character. -/
  | torn
deriving DecidableEq

/-- Reads the character at `i` of a rule; `part` gives the text between two places of it. -/
def step (part : (start stop : Nat) → Except Fault (List Char)) (c : Char) (i : Nat) :
    Place × LogRule → Except Fault (Place × LogRule)
  | (.start, rule) =>
    if c = '[' then .ok (.span (i + 1), rule)
    else if c ∈ ['-', ':', '_'] || Text.isAlphanumeric c then .ok (.origins i, rule)
    else .error .malformed
  | (.origins start, rule) => do
    if c = '=' then return (.level (i + 1), { rule with origins := ← part start i })
    else if c = '[' then return (.span (i + 1), { rule with origins := ← part start i })
    else return (.origins start, rule)
  | (.span start, rule) => do
    if c = ']' then
      let _ ← part start i
      return (.afterSpan, { rule with isNarrow := true })
    else if c = '\x7b' then
      return (.field (i + 1), { rule with isNarrow := !(← part start i).isEmpty })
    else return (.span start, rule)
  | (.field start, rule) => do
    if c = '\x7d' then
      let text ← part start i
      if text.isEmpty then throw .malformed
      return (.afterField, { rule with
        field := some (text.takeWhile (· ≠ '='))
        isNarrow := rule.isNarrow || text.contains '=' })
    else return (.field start, rule)
  | (.afterField, rule) => if c = ']' then .ok (.afterSpan, rule) else .error .malformed
  | (.afterSpan, rule) => if c = '=' then .ok (.level (i + 1), rule) else .error .malformed
  | (.level start, rule) => .ok (.level start, rule)

/-- Reads the characters from the place `i` on. -/
def steps (part : (start stop : Nat) → Except Fault (List Char)) :
    List Char → Nat → Place × LogRule → Except Fault (Place × LogRule)
  | [], _, read => .ok read
  | c :: cs, i, read => do steps part cs (i + c.utf8Size) (← step part c i read)

/-- The text between two places, which have to be between characters. -/
def part (bytes : Bytes) (start stop : Nat) : Except Fault (List Char) :=
  match Text.decodeUtf8? (bytes.take start), Text.decodeUtf8? ((bytes.take stop).drop start) with
  | some _, some text => .ok text
  | _, _ => .error .torn

/-- The level that a text names. -/
def readLevel (text : List Char) : Except Fault (Option Level) :=
  match Level.ofText? text with
  | some level => .ok level
  | none => .error .malformed

/-- The rule in a text. Its form is that of the text without the blanks around it, but its
parts are cut out of the text as it is, at the same places. -/
def parse (text : List Char) : Except Fault LogRule := do
  let bytes := Hex.utf8 text
  match ← steps (part bytes) (Text.trim text) 0 (.start, {}) with
  | (.origins start, rule) =>
    let text ← part bytes start bytes.length
    match Level.ofText? text with
    | some level => return { rule with level }
    | none => return { rule with origins := text }
  | (.level start, rule) =>
    let text ← part bytes start bytes.length
    if text.isEmpty then return rule
    else return { rule with level := ← readLevel text }
  | (.afterSpan, rule) => return rule
  | _ => throw .malformed

end LogRule

/-- Rules, of which a later one goes before an earlier one that is as specific. -/
abbrev LogFilter := List LogRule

namespace LogFilter

/-- The most specific rule about an event. -/
def rule? (filter : LogFilter) (origin : List Char) (event : Event) : Option LogRule :=
  (filter.filter (·.covers origin event)).foldl (fun best rule =>
    match best with
    | some other => if rule.isAsSpecificAs other then some rule else best
    | none => some rule) none

/-- Whether an event is told about. -/
def admits (filter : LogFilter) (origin : String) (event : Event) : Bool :=
  match (filter.rule? origin.toList event).bind LogRule.level with
  | some level => event.level.rank ≤ level.rank
  | none => false

/-- The filter that flags for verbosity select. -/
def ofVerbosity (n : Nat) : LogFilter := [{ level := Level.ofVerbosity n }]

/-- The rules among some texts; nothing if one of the texts would be torn. -/
def rules? : List (List Char) → Option LogFilter
  | [] => some []
  | text :: texts =>
    match LogRule.parse text with
    | .ok rule => (rules? texts).map (rule :: ·)
    | .error .malformed => rules? texts
    | .error .torn => none

/-- The filter in a text. What is no rule is passed over, and errors alone are told about if
there is none. -/
def parse? (text : List Char) : Option LogFilter :=
  match rules? (text.splitOn ',') with
  | some [] => some [{ level := some .error }]
  | filter => filter

end LogFilter

end Sandwich
