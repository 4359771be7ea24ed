import StyleBuild.Fault.Described
import StyleBuild.Session

/-!
# Sheets of lines

The simplest stylesheets: a line is a rule of its own, or one of a few statements. This module has the
statements and the parser.
-/

set_option autoImplicit false

namespace StyleBuild.Lines

inductive Word where
  | warn | debug | error | deprecated | call
  deriving DecidableEq, Repr

def Word.name : Word → String
  | .warn => "warn"
  | .debug => "debug"
  | .error => "error"
  | .deprecated => "deprecated"
  | .call => "call"

inductive Statement where
  | css (text : String) (line : Nat)
  | use (reference : String) (line : Nat)
  | word (w : Word) (operand : String) (line : Nat)
  | extended (action : Value) (line : Nat)
  deriving Repr

structure Sheet where
  url : String
  statements : List Statement
  deriving Repr

def isMargin (c : Char) : Bool :=
  c == ' ' || c == '\t' || c == '\r' || c.toNat == 12 || c.toNat == 11

/-- The text between an opening and a closing, if the line has both and the text is free of quotes. -/
def between? (opening closing : String) (line : List Char) : Option (List Char) :=
  let o := opening.toList
  let c := closing.toList
  if o.isPrefixOf line && c.isSuffixOf line && o.length + c.length ≤ line.length then
    let inner := (line.drop o.length).take (line.length - o.length - c.length)
    if inner.contains '"' then none else some inner
  else none

def isNameChar (c : Char) : Bool := c.isAlphanum || c == '_' || c == '-'

def named? (opening : String) (line : List Char) : Option (List Char) :=
  match between? opening ";" line with
  | some inner => if !inner.isEmpty && inner.all isNameChar then some inner else none
  | none => none

def refusal (line : Nat) (raw : List Char) : Fault :=
  .raised { kind := "ToolError", message := "expected selector"
            attributes := [("line", .int line), ("column", .int ((raw.findIdx (· == '!') : Nat) : Int))] }

/-- The statement of a record after two at-signs; one kind fails while parsing. -/
def extended (line : Nat) (doc : List Char) : Except Fault Statement :=
  match Json.read doc with
  | .error r => .error (.raised { kind := r.kind, message := r.message doc })
  | .ok v =>
    match v.get? "do" with
    | some (.text "parsefail") => .error (Fault.ofDescription ((v.get? "exc").getD .null))
    | _ => .ok (.extended v line)

def statement (line : Nat) (raw trimmed : List Char) : Except Fault Statement :=
  if trimmed = "!!!".toList then .error (refusal line raw)
  else if "@@".toList.isPrefixOf trimmed then extended line (trimmed.drop 2)
  else
    let used := (between? "@use \"" "\";" trimmed).or (between? "@import \"" "\";" trimmed)
    match used.filter (!·.isEmpty) with
    | some r => .ok (.use (String.ofList r) line)
    | none =>
      let quoted := [Word.warn, .debug, .error].findSome? fun w =>
        (between? ("@" ++ w.name ++ " \"") "\";" trimmed).map (w, ·)
      let bare := [Word.deprecated, .call].findSome? fun w =>
        (named? ("@" ++ w.name ++ " ") trimmed).map (w, ·)
      match quoted.or bare with
      | some (w, operand) => .ok (.word w (String.ofList operand) line)
      | none => .ok (.css (String.ofList trimmed) line)

/-- The statements of lines, numbered from `n`; blank lines have none. -/
def statements (n : Nat) : List (List Char) → Except Fault (List Statement)
  | [] => .ok []
  | raw :: rest => do
    let trimmed := Text.trimBy isMargin raw
    if trimmed.isEmpty then statements (n + 1) rest
    else do
      let s ← statement n raw trimmed
      let more ← statements (n + 1) rest
      pure (s :: more)

def parse (contents url : String) : Except Fault Sheet := do
  let ss ← statements 0 (Text.splitAtChar '\n' contents.toList)
  pure ⟨url, ss⟩

def Statement.toValue : Statement → Value
  | css text line => .list [.text "css", .text text, .int line]
  | use reference line => .list [.text "use", .text reference, .int line]
  | word w operand line => .list [.text w.name, .text operand, .int line]
  | extended action line => .list [.text "ext", action, .int line]

end StyleBuild.Lines
