import StyleBuild.Fault
import StyleBuild.Dialect
import StyleBuild.Value.Integer

/-!
# Described faults

Collaborators that follow a script raise faults described by untyped values: the kind with a message and
attributes, or a family of failures with what it is made of. A description that is not in order yields
the fault of reading it instead.
-/

set_option autoImplicit false

namespace StyleBuild.Fault

def ofChecked {α : Type} (model : String) (c : Checked α) : Except Fault α :=
  c.outcome.mapError (.invalid model)

def named {α : Type} (ofName? : String → Option α) (unknown : Value → Fault) (v : Value) :
    Except Fault α :=
  let found := match v with
    | .text s => ofName? s
    | _ => none
  match found with
  | some a => .ok a
  | none => .error (unknown v)

def stageOf : Value → Except Fault Stage := named Stage.ofName? .unknownStage

/-- The dialect a hint names in any case; without a hint the flag chooses. -/
def hinted (hint : Value) (indented : Bool) : Except Fault Dialect :=
  match hint with
  | .null => .ok (Dialect.unhinted indented)
  | .text s => named Dialect.ofName? .unknownDialect (.text (Text.lower s))
  | v => .error (.noAttribute v "lower")

/-- Checks that line and column of a place have few enough digits to be shown. -/
def displayable (s : Option Span) : Except Fault Unit :=
  let fits := s.all fun s => Integer.isShown (s.line + 1) && Integer.isShown (s.column + 1)
  if fits then .ok ()
  else .error (.raised { kind := "ValueError", message := Integer.Problem.tooLarge.message })

def spanOf (v : Option Value) : Except Fault (Option Span) :=
  match v with
  | some (.record fs) => some <$> ofChecked Span.model (Span.check fs)
  | _ => .ok none

def textsOf : Value → List String
  | .list vs => vs.filterMap fun v => match v with
    | .text s => some s
    | _ => none
  | _ => []

def textOf? : Option Value → Option String
  | some (.text s) => some s
  | _ => none

def badCall (message : String) : Fault := .raised { kind := "TypeError", message }

/-- The integer a value is; a truth value counts as zero or one, a real number cannot be shifted, and
anything else cannot be compared with zero. -/
def integerOf : Value → Except Fault Int
  | .int n => .ok n
  | .bool b => .ok (if b then 1 else 0)
  | .real _ => .error (badCall "unsupported operand type(s) for <<: 'float' and 'int'")
  | v => .error (badCall ("'<' not supported between instances of '" ++ v.typeName ++ "' and 'int'"))

/-- The texts a value consists of: the items of a list, the characters of a text or the names of a
record. -/
def candidatesOf (v : Value) : Except Fault (List String) := do
  let items ← match v with
    | .list vs => pure vs
    | .text s => pure (s.toList.map fun c => .text (String.singleton c))
    | .record fs => pure (fs.map fun f => .text f.1)
    | v => .error (.notIterable v.typeName)
  (items.zip (List.range items.length)).mapM fun (v, i) => match v with
    | .text s => pure s
    | v => .error (badCall ("sequence item " ++ toString i ++ ": expected str instance, " ++ v.typeName
        ++ " found"))

def ambiguity (reference candidates base : Value) (stage : Stage) : Except Fault Failure := do
  pure (Failure.undecided reference (← candidatesOf candidates) base stage)

/-- What failures of a family are made from: keywords, the first of which must be given. -/
structure Family where
  name : String
  required : List String
  keywords : List String

def families : List Family :=
  [⟨"ImportNotFoundError", ["reference"], ["reference", "base_url", "stage", "span"]⟩,
   ⟨"AmbiguousImportError", ["reference", "candidates"],
    ["reference", "candidates", "base_url", "stage"]⟩,
   ⟨"SassSyntaxError", ["message"], ["message", "span", "stage"]⟩,
   ⟨"EvaluationError", ["message"], ["message", "span", "stage"]⟩,
   ⟨"ConfigurationError", ["message"], ["message", "suggestion", "context"]⟩]

/-- Checks the keywords of a description: none unknown, and then none missing. -/
def Family.checkKeywords (f : Family) (given : List String) : Except Fault Unit :=
  let maker := f.name ++ ".__init__"
  match given.find? (!f.keywords.contains ·) with
  | some k => .error (.unexpectedOption maker k)
  | none =>
    match f.required.filter (!given.contains ·) with
    | [] => .ok ()
    | [a] => .error (badCall (maker ++ "() missing 1 required positional argument: '" ++ a ++ "'"))
    | as => .error (badCall (maker ++ "() missing " ++ toString as.length
        ++ " required positional arguments: " ++ " and ".intercalate (as.map fun a => "'" ++ a ++ "'")))

def reportOf (kind : Failure.Kind) (stage : Stage) (span : Option Span) (fs : List (String × Value)) :
    Except Fault Failure := do
  let given := fs.filter fun f => ["message", "suggestion", "context"].contains f.1
  let report ← ofChecked Report.model (Report.check
    ([("stage", .text stage.name), ("code", .text kind.code)] ++ given))
  pure { kind, report := { report with span } }

def failureOf (family : Family) (fs : List (String × Value)) : Except Fault Failure := do
  let stage ← (fs.lookup "stage").mapM stageOf
  let span ← spanOf (fs.lookup "span")
  family.checkKeywords (fs.map Prod.fst)
  let field (name : String) : Value := (fs.lookup name).getD .null
  let stage := stage.getD .evaluate
  match family.name with
  | "ImportNotFoundError" =>
    pure (Failure.unresolved (field "reference") (field "base_url") stage span)
  | "AmbiguousImportError" =>
    ambiguity (field "reference") (field "candidates") (field "base_url") stage
  | "SassSyntaxError" => reportOf .badSource stage span fs
  | "EvaluationError" => reportOf .evaluation stage span fs
  | _ => reportOf .configuration .start none fs

def generalOf (fs : List (String × Value)) : Except Fault Failure := do
  let report ← ofChecked Report.model (match fs.lookup "error" with
    | some (.record gs) => Report.check gs
    | _ => Report.check [])
  pure { kind := .general, report }

def raisedOf (kind : String) (fs : List (String × Value)) : Raised :=
  { kind
    message := match fs.lookup "message" with
      | some v => if kind = "KeyError" then Literal.ofValue v else Literal.display v
      | none => ""
    attributes := match fs.lookup "attrs" with
      | some (.record gs) => gs
      | _ => [] }

def describedBy (v : Value) : Except Fault Fault :=
  match v with
  | .record fs =>
    let type := (textOf? (fs.lookup "type")).getD ""
    let shown (g : Failure) : Except Fault Fault := do
      displayable g.report.span
      pure (.failure g)
    match families.find? (·.name == type) with
    | some family => failureOf family (fs.filter (·.1 != "type")) >>= shown
    | none =>
      if type = Failure.Kind.general.name then generalOf fs >>= shown
      else .ok (.raised (raisedOf type fs))
  | _ => .ok (.raised { kind := "Exception", message := "" })

def ofDescription (v : Value) : Fault :=
  match describedBy v with
  | .ok f => f
  | .error f => f

end StyleBuild.Fault
