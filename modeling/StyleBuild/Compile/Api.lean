import StyleBuild.Fault.Described
import StyleBuild.Value.Mapping
import StyleBuild.Compile.Steps

/-!
# Compile functions

Eight functions compile: from a file or from a text, directly or awaiting, with a full result or, in
their older form, with the text alone and the source map handed to a callback. They differ in the
options they know and in how they turn them into a request.
-/

set_option autoImplicit false

namespace StyleBuild

structure Operation where
  ofText : Bool
  mode : Mode
  legacy : Bool
  deriving DecidableEq, Repr

namespace Operation

def stem (o : Operation) : String := if o.ofText then "compile_string" else "compile"

def modeMark (o : Operation) : String := if o.mode = .awaiting then "_async" else ""

def fullName (o : Operation) : String := o.stem ++ "_to_result" ++ o.modeMark

def name (o : Operation) : String := if o.legacy then o.stem ++ o.modeMark else o.fullName

def all : List Operation :=
  [false, true].flatMap fun ofText => [Mode.direct, .awaiting].flatMap fun mode =>
    [false, true].map fun legacy => ⟨ofText, mode, legacy⟩

def ofName? (s : String) : Option Operation := all.find? fun o => o.name == s

def notice? (o : Operation) : Option String :=
  if o.legacy then
    some (o.name ++ "() is deprecated and will be removed; use " ++ o.fullName ++ "() instead")
  else none

def commonOptions : List String :=
  ["load_paths", "importers", "package_config", "environment_load_paths", "functions", "style",
   "quiet_deps", "verbose", "source_map", "charset", "color", "logger", "toolchain", "import_cache"]

def options (o : Operation) : List String :=
  if o.ofText then ["syntax", "url", "importer"] ++ commonOptions else commonOptions

def itemsOf (a : Argument) : Except Fault Argument :=
  match a with
  | .value (.text s) => .ok (.value (.list (s.toList.map fun c => .text (String.singleton c))))
  | .value (.record fs) => .ok (.value (.list (fs.map fun f => .text f.1)))
  | .value (.list vs) => .ok (.value (.list vs))
  | .value v => .error (.notIterable v.typeName)
  | a => .ok a

/-- The entry that an item stands for in a sequence given where a mapping is expected: its two elements
are the key and the value. -/
def entryOf (place : Nat) (item : Value) : Except Fault (Value × Value) :=
  let refuse (kind text : String) : Except Fault (Value × Value) := .error (.raised ⟨kind, text, []⟩)
  match itemsOf (.value item) with
  | .ok (.value (.list [key, v])) =>
    if key.isKey then .ok (key, v)
    else refuse "TypeError" ("unhashable type: '" ++ key.typeName ++ "'")
  | .ok (.value (.list vs)) =>
    refuse "ValueError" ("dictionary update sequence element #" ++ toString place ++ " has length "
      ++ toString vs.length ++ "; 2 is required")
  | _ => refuse "TypeError" ("cannot convert dictionary update sequence element #" ++ toString place
      ++ " to a sequence")

/-- The entries of something given where a mapping is expected; what counts as absent has none. -/
def mappingOf (a : Argument) : Except Fault Argument :=
  match a with
  | .value v =>
    if v.isFalsy then .ok (.functions [])
    else match v with
      | .record fs => .ok (.value (.record fs))
      | v => do
        match ← itemsOf (.value v) with
        | .value (.list vs) =>
          let entries ← vs.zipIdx.mapM fun x => entryOf x.2 x.1
          pure (.value (Value.ofEntries (entries.foldl (fun t e => Value.setKey e.1 e.2 t) [])))
        | a => pure a
  | a => .ok a

def dialectHint (hint : Value) (indented : Bool) : Except Fault Value :=
  if hint.isNull && !indented then .ok .null
  else match Fault.hinted hint indented with
    | .ok d => .ok (.text d.name)
    | .error (.unknownDialect v) => .error (.failure (Failure.configuration
        ("Unknown syntax: " ++ Literal.ofValue hint)
        (some ("Use one of: " ++ ", ".intercalate (Dialect.all.map Dialect.name))) none
        (some (Fault.unknownDialect v).kind)))
    | .error f => .error f

/-- An option's untyped value; an option that is not given is null. -/
def given (os : List (String × Argument)) (name : String) : Value :=
  ((os.lookup name).map Argument.untyped).getD .null

def modernize (o : Operation) (os : List (String × Argument)) :
    Except Fault (List (String × Argument)) := do
  let own := if o.ofText then ["source_map", "indented", "syntax"] else ["source_map"]
  let hint ← if o.ofText then
      (fun v => [("syntax", Argument.value v)]) <$>
        dialectHint (given os "syntax") (!(given os "indented").isFalsy)
    else pure []
  let wanted := match os.lookup "source_map" with
    | none | some (.value .null) => false
    | some _ => true
  pure (hint ++ [("source_map", .value (.bool wanted))] ++ os.filter fun x => !own.contains x.1)

def entryName (o : Operation) : String := if o.ofText then "source" else "path"

/-- Refuses the entry given once more by its name, and an option that the function does not know; an
older function knows them all and passes them on. -/
def allow (o : Operation) (os : List (String × Argument)) : Except Fault Unit :=
  match os.find? fun x => x.1 == o.entryName || !(o.legacy || o.options.contains x.1) with
  | none => .ok ()
  | some (name, _) =>
    .error (if name == o.entryName then .repeatedOption o.name name
      else .unexpectedOption o.name name)

/-- The entry as an option: a function that compiles a file takes its path as text. -/
def entryOption (o : Operation) (entry : Value) : Except Fault (String × Argument) :=
  match o.ofText, entry with
  | false, .text s => .ok (o.entryName, .value (.text s))
  | false, v => .error (.notAPath v.typeName)
  | true, v => .ok (o.entryName, .value v)

def requestOf (o : Operation) (entry : Value) (os : List (String × Argument)) :
    Except Fault Request := do
  match os.find? fun x => !o.options.contains x.1 with
  | some (name, _) => .error (.unexpectedOption o.fullName name)
  | none =>
    let entry ← o.entryOption entry
    let sequence (name : String) : Except Fault Argument :=
      itemsOf ((os.lookup name).getD (.value (.list [])))
    let importers ← sequence "importers"
    let loadPaths ← sequence "load_paths"
    let environment ← if (given os "environment_load_paths").isNull then pure (.value .null)
      else sequence "environment_load_paths"
    let functions ← mappingOf ((os.lookup "functions").getD (.functions []))
    let kept := os.filter fun x =>
      ["syntax", "url", "importer", "package_config", "style", "quiet_deps", "verbose", "source_map",
       "charset"].contains x.1
    Request.ofOptions
      ([entry, ("importers", importers), ("load_paths", loadPaths),
        ("environment_load_paths", environment), ("functions", functions)] ++ kept)

def request (o : Operation) (entry : Value) (os : List (String × Argument)) :
    Except Fault Request := do
  requestOf o entry (← if o.legacy then o.modernize os else pure os)

/-- What an older function hands to the callback it was given, if there is a map. -/
def delivered (o : Operation) (os : List (String × Argument)) (r : Result) :
    Except Fault (Option SourceMap) :=
  if !o.legacy then .ok none
  else match os.lookup "source_map", r.sourceMap with
    | none, _ | some (.value .null), _ | _, none => .ok none
    | some (.value v), some _ => .error (.notCallable v.typeName)
    | some _, some m => .ok (some m)

end Operation

end StyleBuild
