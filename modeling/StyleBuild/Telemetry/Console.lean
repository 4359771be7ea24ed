import StyleBuild.Value.Literal
import StyleBuild.Text.Case

/-!
# Log lines

A log entry has a level, an event name and fields. On a console it is one line: the level in brackets,
the event padded to thirty characters, then the fields by name, a text in quotes only if it needs them. A
stack and an error follow on lines of their own.
-/

set_option autoImplicit false

namespace StyleBuild

inductive Level where
  | debug | info | warning | error | critical
  deriving DecidableEq, Repr, Inhabited

namespace Level

def name : Level → String
  | debug => "debug"
  | info => "info"
  | warning => "warning"
  | error => "error"
  | critical => "critical"

def all : List Level := [debug, info, warning, error, critical]

def aliases : List (String × Level) := [("warn", warning), ("fatal", critical), ("msg", info)]

def ofName? (s : String) : Option Level := (all.find? fun l => l.name == s).or (aliases.lookup s)

def rank : Level → Nat
  | debug => 10
  | info => 20
  | warning => 30
  | error => 40
  | critical => 50

/-- Names of thresholds, with the least rank that passes. -/
def thresholds : List (String × Nat) :=
  [("DEBUG", 10), ("INFO", 20), ("WARNING", 30), ("WARN", 30), ("ERROR", 40), ("CRITICAL", 50),
   ("FATAL", 50), ("NOTSET", 0)]

def threshold? (s : String) : Option Nat :=
  (thresholds.find? fun t => Text.raisesTo t.1 s).map (·.2)

end Level

namespace Console

def style (codes : List Nat) : String :=
  String.join (codes.map fun n => String.singleton (Char.ofNat 27) ++ "[" ++ toString n ++ "m")

def levelStyle : Level → List Nat
  | .warning => [33, 1]
  | .debug | .info => [32, 1]
  | .error | .critical => [31, 1]

def paint (color : Bool) (codes : List Nat) (s : String) : String :=
  if color then style codes ++ s ++ style [0] else s

def pad (width : Nat) (s : String) : String := s ++ "".pushn ' ' (width - s.length)

def needsQuotes (s : String) : Bool :=
  s.toList.any fun c =>
    c == ' ' || c == '\t' || c == '=' || c == '\r' || c == '\n' || c == '"' || c.toNat == 39

def fieldText : Value → String
  | .text s => if needsQuotes s then Literal.ofText s else s
  | v => Literal.ofValue v

def trimEnd (s : String) : String :=
  String.ofList (s.toList.reverse.dropWhile (· == ' ')).reverse

/-- The names of the logger, which stand in brackets of their own. -/
def loggerNames : List String := ["logger", "logger_name"]

def loggerText (color : Bool) (v : Value) : String :=
  let reset := if color then style [0] else ""
  "[" ++ reset ++ paint color [1, 34] (Literal.display v) ++ "]" ++ reset

def line (color : Bool) (level : Level) (event : String) (fields : List (String × Value)) : String :=
  let others := fields.filter fun f => !loggerNames.contains f.1
  let sorted := others.mergeSort fun a b => decide (a.1 ≤ b.1)
  trimEnd <| "[" ++ paint color (levelStyle level) (pad 9 level.name) ++ "] "
    ++ paint color [1] (pad 30 event)
    ++ String.join ((loggerNames.filterMap fun n => fields.lookup n).map fun v => " " ++ loggerText color v)
    ++ String.join (sorted.map fun f =>
      " " ++ paint color [36] f.1 ++ "=" ++ paint color [35] (fieldText f.2))

/-- Fields that stand on lines of their own, or not at all. -/
def apart : List String := ["stack", "exception", "exc_info", "timestamp"]

def ownLine (v : Option Value) : Except Value (Option String) :=
  match v with
  | none | some .null => .ok none
  | some (.text s) => .ok (some ("\n" ++ s))
  | some v => .error v

/-- An entry with the lines of a stack and of an error after it, and a rule between them; one that is no
text is an error. -/
def entry (color : Bool) (level : Level) (event : String) (fields : List (String × Value)) :
    Except Value String := do
  let head := line color level event (fields.filter fun f => !apart.contains f.1)
  let stack ← ownLine (fields.lookup "stack")
  let isRuled := stack.isSome && (((fields.lookup "exc_info").map (!·.isFalsy)).getD false
    || ((fields.lookup "exception").map (!·.isNull)).getD false)
  let problem ← ownLine (fields.lookup "exception")
  pure (head ++ stack.getD "" ++ (if isRuled then "\n\n" ++ "".pushn '=' 79 ++ "\n" else "")
    ++ problem.getD "")

end Console

end StyleBuild
