import StyleBuild.Compile.Toolchain
import StyleBuild.Lines.Sheet

/-!
# Evaluating sheets of lines

The evaluator walks a sheet and the sheets it uses, each URL once, and collects the rules it meets.
-/

set_option autoImplicit false

namespace StyleBuild.Lines

structure RuleLine where
  text : String
  url : String
  line : Nat
  deriving DecidableEq, Repr

structure Notes where
  calls : List (String × String × Option String) := []
  parsed : List (String × Dialect) := []
  deriving Repr

def kit : Kit := ⟨Sheet, List RuleLine, Notes⟩

/-- Where a walk stands: sheets entered so far, and rules in reverse order. -/
structure Walk where
  seen : List String := []
  rules : List RuleLine := []

def Walk.add (w : Walk) (text url : String) (line : Nat) : Walk :=
  { w with rules := ⟨text, url, line⟩ :: w.rules }

abbrev Next := Walk → Script kit

def boolText (b : Bool) : String := if b then "true" else "false"

def comment (s : String) : String := "/* " ++ s ++ " */"

/-- A place given as a record; a place that is not in order is a fault. -/
def withSpan (action : Value) (k : Option Span → Script kit) : Script kit :=
  match Fault.spanOf (action.get? "span") with
  | .ok s => k s
  | .error f => .fail f

def trialText (r : Except Fault (Imported kit)) : Except Fault String :=
  match r with
  | .ok i => .ok (comment (i.url ++ " " ++ i.dialect.name ++ " " ++ boolText i.isDependency))
  | .error (.failure f) => .ok (comment (f.report.code ++ " " ++ f.report.stage.name))
  | .error f => .error f

def action (functions : List (String × Function)) (v : Value) (url : String) (line : Nat) (w : Walk)
    (k : Next) : Script kit :=
  let message := (Fault.textOf? (v.get? "message")).getD ""
  match v.get? "do" with
  | some (.text "throw") => .fail (Fault.ofDescription ((v.get? "exc").getD .null))
  | some (.text "warn") => withSpan v fun span =>
    .warn message (Fault.textOf? (v.get? "deprecation")) span (Fault.textOf? (v.get? "origin_url"))
      (k w)
  | some (.text "debug") => withSpan v fun span => .debug message span (k w)
  | some (.text "isdep") =>
    .isDependency (Fault.textOf? (v.get? "url")) fun b =>
      k (w.add (comment ("isdep " ++ boolText b)) url line)
  | some (.text "functions") =>
    let names := (functions.map (·.1)).mergeSort fun a b => decide (a ≤ b)
    k (w.add (comment ("functions " ++ ",".intercalate names)) url line)
  | some (.text "try") =>
    let base := match v.get? "base" with
      | some b => Fault.textOf? (some b)
      | none => some url
    .load ((Fault.textOf? (v.get? "ref")).getD "") base fun r =>
      match trialText r with
      | .ok text => k (w.add text url line)
      | .error f => .fail f
  | _ => k w

def wordStep (functions : List (String × Function)) (word : Word) (operand url : String) (line : Nat)
    (w : Walk) (k : Next) : Script kit :=
  let here : Span := { url := some url, line }
  match word with
  | .warn => .warn operand none (some here) (some url) (k w)
  | .debug => .debug operand (some here) (k w)
  | .deprecated => .warn (operand ++ " is deprecated") (some operand) (some here) (some url) (k w)
  | .error => .fail (.raised
      { kind := "ToolError", message := operand
        attributes := [("url", .text url), ("line", .int line)] })
  | .call =>
    match functions.lookup operand with
    | none => .fail (.unknownKey operand)
    | some f =>
      match f.call with
      | .ok text => k (w.add text url line)
      | .error e => .fail e

def tooDeep : Fault :=
  .raised { kind := "RecursionError", message := "maximum recursion depth exceeded" }

/-- Walks statements of the sheet at `url`; `enter` walks a sheet that is used for the first time. -/
def walkThrough (functions : List (String × Function)) (enter : Sheet → Walk → Next → Script kit)
    (ss : List Statement) (url : String) (w : Walk) (k : Next) : Script kit :=
  match ss with
  | [] => k w
  | .css text line :: rest => walkThrough functions enter rest url (w.add text url line) k
  | .word word operand line :: rest =>
    wordStep functions word operand url line w fun w => walkThrough functions enter rest url w k
  | .extended v line :: rest =>
    action functions v url line w fun w => walkThrough functions enter rest url w k
  | .use reference _ :: rest =>
    .load reference (some url) fun r =>
      match r with
      | .error f => .fail f
      | .ok i =>
        if w.seen.contains i.url then walkThrough functions enter rest url w k
        else enter i.sheet w fun w => walkThrough functions enter rest url w k

/-- Walks a sheet; the fuel bounds how deeply sheets are nested. -/
def walk (functions : List (String × Function)) (fuel : Nat) (sheet : Sheet) (w : Walk) (k : Next) :
    Script kit :=
  let enter : Sheet → Walk → Next → Script kit := match fuel with
    | 0 => fun _ _ _ => .fail tooDeep
    | fuel + 1 => walk functions fuel
  walkThrough functions enter sheet.statements sheet.url { w with seen := sheet.url :: w.seen } k

def maxDepth : Nat := 10000

/-- Evaluates a sheet to its rules; the walk is a coroutine, also where it is not awaited. The depth is too
large to be unfolded unasked. -/
@[irreducible] def evaluate (sheet : Sheet) (functions : List (String × Function)) : Script kit :=
  (walk functions maxDepth sheet {} fun w => .finish w.rules.reverse).mapFault
    (Fault.leaving "coroutine")

end StyleBuild.Lines
