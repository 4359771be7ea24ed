import StyleBuild.Report
import StyleBuild.FileTree
import StyleBuild.Url
import StyleBuild.Text.Utf8

/-!
# Faults

Whatever can go wrong in a compilation is a fault. A `Failure` is a fault that carries a report and ends
a run in an orderly way; the other faults come from untyped input, from the file tree or from a
collaborator. `Fault.kind` is the name a fault goes by in reports and traces, `Fault.message` its text.
-/

set_option autoImplicit false

namespace StyleBuild

inductive Failure.Kind where
  | general
  /-- Every resolver declined a reference. -/
  | notFound (reference base : Value)
  | ambiguous (reference : Value) (candidates : List String) (base : Value)
  | badSource
  | evaluation
  /-- The request or its collaborators contradict each other. -/
  | configuration
  deriving Repr

/-- A reported failure; `cause` is the kind of the fault it was made from. -/
structure Failure where
  kind : Failure.Kind
  report : Report
  cause : Option String := none
  deriving Repr

structure Raised where
  kind : String
  message : String
  attributes : List (String × Value) := []
  deriving Repr

inductive Fault where
  | failure (f : Failure)
  | invalid (model : String) (violations : List Violation)
  /-- A pending answer where only direct ones are taken. -/
  | pendingAnswer (call : String)
  | malformedUrl (m : Url.Malformed)
  | notFileUrl (url : String)
  | unnamedPath (p : Path)
  | unresolvedPath (u : FileTree.Unresolved)
  | notText (i : Text.Utf8.Invalid)
  | directoryRead (p : Path)
  | missingFile (p : Path)
  | blockedPath (o : FileTree.Obstacle) (p : Path)
  | deniedPath (p : Path)
  | unknownStage (given : Value)
  | unknownDialect (given : Value)
  | unknownStyle (given : Value)
  | unknownLevel (name : String)
  | negativeThreshold (n : Int)
  | unknownKey (name : String)
  /-- A value is used as something it is not. -/
  | noAttribute (v : Value) (name : String)
  | notCallable (type : String)
  | notIterable (type : String)
  | wrongProduct (entryPoint type : String)
  | unexpectedOption (function option : String)
  | repeatedOption (function option : String)
  | notAPath (type : String)
  | raised (r : Raised)
  deriving Repr

namespace Failure

def Kind.code : Kind → String
  | .general => "E000"
  | .notFound _ _ => "E201"
  | .ambiguous _ _ _ => "E202"
  | .badSource => "E301"
  | .evaluation => "E302"
  | .configuration => "E101"

theorem Kind.isCode_code (k : Kind) : Report.isCode k.code = true := by
  cases k <;> simp only [Kind.code] <;> decide

def Kind.name : Kind → String
  | .general => "SassException"
  | .notFound _ _ => "ImportNotFoundError"
  | .ambiguous _ _ _ => "AmbiguousImportError"
  | .badSource => "SassSyntaxError"
  | .evaluation => "EvaluationError"
  | .configuration => "ConfigurationError"

def message (f : Failure) : String := f.report.summary

/-- The failure as of another stage: a new one with the same family and report otherwise. -/
def withStage (f : Failure) (s : Stage) : Failure :=
  { f with report := { f.report with stage := s }, cause := none }

/-- Nothing found for a reference, which a collaborator may give as any value. -/
def unresolved (reference base : Value) (stage : Stage) (span : Option Span) : Failure where
  kind := .notFound reference base
  report :=
    { stage, span, code := (Kind.notFound reference base).code
      message := "Can't find stylesheet to import: '" ++ Literal.display reference ++ "'"
      suggestion := some
        "Check the reference spelling, or add a load path or importer that can resolve it"
      context := some [("reference", reference), ("base_url", base)]
      coded := Kind.isCode_code _ }

def notFound (reference : String) (base : Option String) (stage : Stage := .evaluate)
    (span : Option Span := none) : Failure :=
  unresolved (.text reference) (.ofText? base) stage span

def undecided (reference : Value) (candidates : List String) (base : Value) (stage : Stage) :
    Failure where
  kind := .ambiguous reference candidates base
  report :=
    { stage, code := (Kind.ambiguous reference candidates base).code
      message := "It's not clear which file to import for '" ++ Literal.display reference
        ++ "'. Found: " ++ ", ".intercalate candidates
      suggestion := some "Rename or remove one of the candidates, or import with an extension"
      context := some [("reference", reference), ("base_url", base),
        ("candidates", .texts candidates)]
      coded := Kind.isCode_code _ }

def ambiguous (reference : String) (candidates : List String) (base : Option String)
    (stage : Stage := .evaluate) : Failure :=
  undecided (.text reference) candidates (.ofText? base) stage

def badSource (message : String) (span : Option Span) (cause : Option String) : Failure where
  kind := .badSource
  report := { stage := .evaluate, code := Kind.badSource.code, message, span,
              coded := Kind.isCode_code _ }
  cause := cause

def evaluation (message : String) (span : Option Span) (stage : Stage) (cause : Option String) :
    Failure where
  kind := .evaluation
  report := { stage, code := Kind.evaluation.code, message, span, coded := Kind.isCode_code _ }
  cause := cause

/-- A failure of the configuration; it always belongs to the first stage. -/
def configuration (message : String) (suggestion : Option String := none)
    (context : Option (List (String × Value)) := none) (cause : Option String := none) : Failure where
  kind := .configuration
  report := { stage := .start, code := Kind.configuration.code, message, suggestion, context,
              coded := Kind.isCode_code _ }
  cause := cause

end Failure

namespace Violation

/-- A literal of more than fifty octets shows its two ends only. -/
def abridge (s : String) : String :=
  if s.utf8ByteSize ≤ 50 then s
  else
    let fit (n : Nat) (cs : List Char) : List Char :=
      (cs.foldl (fun (acc : List Char × Nat) c =>
        if acc.2 + c.utf8Size ≤ n then (c :: acc.1, acc.2 + c.utf8Size) else (acc.1, n + 1))
        ([], 0)).1
    String.ofList (fit 25 s.toList).reverse ++ "..." ++ String.ofList (fit 24 s.toList.reverse)

/-- A step of a place, in quotes of its own if it holds a point. -/
def placeText : Place → String
  | .index i => toString i
  | .field n => if n.toList.contains '.' then "\x60" ++ n ++ "\x60" else n

def describe (v : Violation) : String :=
  let place := ".".intercalate (v.place.map placeText)
  (if v.place.isEmpty then "" else place ++ "\n") ++ "  " ++ v.rule.message ++ " [type="
    ++ v.rule.code ++ ", input_value=" ++ abridge (Literal.ofValue v.input) ++ ", input_type="
    ++ v.input.typeName ++ "]\n    For further information visit https://errors.pydantic.dev/2.14/v/"
    ++ v.rule.code

end Violation

namespace Fault

def notTextMessage (i : Text.Utf8.Invalid) : String :=
  let head := "'utf-8' codec can't decode "
  let site :=
    if i.size = 1 then "byte 0x" ++ String.ofList (Literal.hex 2 i.octet.toNat) ++ " in position "
      ++ toString i.offset
    else "bytes in position " ++ toString i.offset ++ "-" ++ toString (i.offset + i.size - 1)
  head ++ site ++ ": " ++ i.flaw.text

def systemMessage (number : Nat) (text : String) (p : Path) : String :=
  "[Errno " ++ toString number ++ "] " ++ text ++ ": " ++ Literal.ofText p.toText

def kind : Fault → String
  | failure f => f.kind.name
  | invalid _ _ => "ValidationError"
  | pendingAnswer _ => "AwaitableInSyncModeError"
  | malformedUrl _ | notFileUrl _ | unnamedPath _ | unknownStage _ | unknownDialect _
  | unknownStyle _ | unknownLevel _ | negativeThreshold _ => "ValueError"
  | unresolvedPath (.loop _) => "RuntimeError"
  | unresolvedPath .nul => "ValueError"
  | notText _ => "UnicodeDecodeError"
  | directoryRead _ | blockedPath .isDirectory _ => "IsADirectoryError"
  | missingFile _ | blockedPath .missing _ => "FileNotFoundError"
  | blockedPath .occupied _ => "FileExistsError"
  | blockedPath .notDirectory _ => "NotADirectoryError"
  | blockedPath .loop _ | blockedPath .tooLong _ => "OSError"
  | deniedPath _ => "PermissionError"
  | unknownKey _ => "KeyError"
  | noAttribute _ _ => "AttributeError"
  | notCallable _ | notIterable _ | wrongProduct _ _ | unexpectedOption _ _ | repeatedOption _ _
  | notAPath _ => "TypeError"
  | raised r => r.kind

def message : Fault → String
  | failure f => f.message
  | invalid model vs =>
    toString vs.length ++ " validation error" ++ (if vs.length = 1 then "" else "s") ++ " for "
      ++ model ++ "\n" ++ "\n".intercalate (vs.map Violation.describe)
  | pendingAnswer call => call ++ " returned an awaitable in synchronous mode"
  | malformedUrl m => m.message
  | notFileUrl url => "Not a file: URL: " ++ url
  | unnamedPath p => "PosixPath(" ++ Literal.ofText p.toText ++ ") has an empty name"
  | unresolvedPath (.loop site) => "Symlink loop from " ++ Literal.ofText site
  | unresolvedPath .nul => "embedded null byte"
  | notText i => notTextMessage i
  | directoryRead p | blockedPath .isDirectory p => systemMessage 21 "Is a directory" p
  | missingFile p | blockedPath .missing p => systemMessage 2 "No such file or directory" p
  | blockedPath .occupied p => systemMessage 17 "File exists" p
  | blockedPath .notDirectory p => systemMessage 20 "Not a directory" p
  | blockedPath .loop p => systemMessage 40 "Too many levels of symbolic links" p
  | blockedPath .tooLong p => systemMessage 36 "File name too long" p
  | deniedPath p => systemMessage 13 "Permission denied" p
  | unknownStage v => Literal.ofValue v ++ " is not a valid CompilationStage"
  | unknownDialect v => Literal.ofValue v ++ " is not a valid Syntax"
  | unknownStyle v => Literal.ofValue v ++ " is not a valid OutputStyle"
  | unknownLevel name => "Unknown log level: " ++ name
  | negativeThreshold n => "threshold must be non-negative, got " ++ toString n
  | unknownKey name => Literal.ofText name
  | noAttribute v name =>
    "'" ++ v.typeName ++ "' object has no attribute '" ++ name ++ "'"
  | notCallable type => "'" ++ type ++ "' object is not callable"
  | notIterable type => "'" ++ type ++ "' object is not iterable"
  | wrongProduct entryPoint type =>
    "Entry point " ++ Literal.ofText entryPoint ++ " produced " ++ type ++ ", expected Toolchain"
  | unexpectedOption function option =>
    function ++ "() got an unexpected keyword argument '" ++ option ++ "'"
  | repeatedOption function option =>
    function ++ "() got multiple values for argument '" ++ option ++ "'"
  | notAPath type => "expected str, bytes or os.PathLike object, not " ++ type
  | raised r => r.message

/-- The text of a fault, or its kind if it has none. -/
def describe (f : Fault) : String := if f.message.isEmpty then f.kind else f.message

/-- An attribute a fault carries; null counts as absent. -/
def attribute? (f : Fault) (name : String) : Option Value :=
  match f with
  | raised r =>
    match r.attributes.lookup name with
    | some .null => none
    | other => other
  | _ => none

/-- A count in an attribute; anything else counts as zero. -/
def countOf : Option Value → Nat
  | some (.int n) => n.toNat
  | some (.bool b) => if b then 1 else 0
  | _ => 0

/-- The place a fault points at: its own URL or the given one, and its line and column. Without a URL
and a line it points nowhere. -/
def span? (f : Fault) (url : Option String) : Option Span :=
  let url := match f.attribute? "url" with
    | some (.text s) => some s
    | _ => url
  let line := f.attribute? "line"
  if url.isNone ∧ line.isNone then none
  else some { url, line := countOf line, column := countOf (f.attribute? "column") }

/-- The kind of fault that ends an iteration, which may not leave a routine as it is. -/
def stopKind : String := "StopIteration"

/-- A fault as it leaves a routine of the given sort: the end of an iteration turns into an error. -/
def leaving (routine : String) (f : Fault) : Fault :=
  match f with
  | raised r =>
    if r.kind = stopKind then raised { kind := "RuntimeError", message := routine ++ " raised StopIteration" }
    else f
  | _ => f

end Fault

end StyleBuild
