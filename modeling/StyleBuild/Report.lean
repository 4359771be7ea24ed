import StyleBuild.Span
import StyleBuild.Stage

/-!
# Error reports

A report is what a failed compilation tells its caller: the stage, a code of `E` and three digits, a
message, and optionally a suggestion, a place and a context.
-/

set_option autoImplicit false

namespace StyleBuild

/-- Whether a text is `E` and three decimal digits of any script. -/
def Report.isCode (s : String) : Bool :=
  match s.toList with
  | 'E' :: ds => ds.length == 3 && ds.all Text.isDecimal
  | _ => false

structure Report where
  stage : Stage
  code : String
  message : String
  suggestion : Option String := none
  span : Option Span := none
  context : Option (List (String × Value)) := none
  coded : Report.isCode code = true
  deriving Repr

namespace Report

def exitCode (r : Report) : Nat := r.stage.exitCode

/-- The report without its suggestion: one line, and a second one for the place. -/
def summary (r : Report) : String :=
  let head := "[" ++ r.stage.name ++ "] " ++ r.code ++ ": " ++ r.message
  match r.span with
  | some s => head ++ "\n  at " ++ s.format
  | none => head

/-- The report for display; an empty suggestion is left out. -/
def format (r : Report) : String :=
  match r.suggestion with
  | some s => if s.isEmpty then r.summary else r.summary ++ "\nSuggestion: " ++ s
  | none => r.summary

def checkCode (v : Value) : Checked { s : String // isCode s = true } :=
  (Check.nonempty v).andThen fun s =>
    if h : isCode s = true then pure ⟨s, h⟩ else .fail .codePattern v

def check (fs : List (String × Value)) : Checked Report :=
  (fun stage code message suggestion span context _ =>
      ⟨stage, code.1, message, suggestion, span, context, code.2⟩)
    <$> Check.required fs "stage" (Check.oneOf (Stage.all.map Stage.name) Stage.ofName?)
    <*> Check.required fs "code" checkCode
    <*> Check.required fs "message" Check.nonempty
    <*> Check.withDefault fs "suggestion" none (Check.optional Check.text)
    <*> Check.withDefault fs "span" none (Check.optional (Check.model Span.model Span.check))
    <*> Check.withDefault fs "context" none (Check.optional Check.fields)
    <*> Check.noOthers fs ["stage", "code", "message", "suggestion", "span", "context"]

def model : String := "CompilationError"

end Report

end StyleBuild
