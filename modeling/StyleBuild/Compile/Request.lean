import StyleBuild.Session
import StyleBuild.Compile.Assemble

/-!
# Requests

A request describes one compilation. It names either a file or a source text; the URL, dialect and
importer of an entry only go with a text. Requests are built from options, which are checked one by one
and then against each other; what is wrong with them is a configuration failure.
-/

set_option autoImplicit false

namespace StyleBuild

structure Request where
  path : Option Path := none
  source : Option String := none
  url : Option String := none
  dialect : Option Dialect := none
  importer : Option Importer := none
  importers : List Importer := []
  loadPaths : List Path := []
  environmentPaths : Option (List Path) := none
  packages : Option Packages := none
  functions : List (String × Function) := []
  quietDeps : Bool := false
  verbose : Bool := false
  style : Style := .expanded
  sourceMap : Bool := false
  charset : Bool := true

/-- An option as it is given: untyped, or one of the things options can hold. -/
inductive Argument where
  | value (v : Value)
  | importer (i : Option Importer)
  | importers (is : List (Option Importer))
  | functions (fs : List (String × Function))
  | packages (c : Packages)
  | callback

namespace Argument

def untyped : Argument → Value
  | value v => v
  | _ => .null

def checkImporter (a : Argument) : Checked (Option Importer) :=
  let i := match a with
    | importer i => i
    | value .null => none
    | value v => some (.misfit v)
    | _ => none
  match i with
  | some (.misfit v) => .fail (.custom ("importer has no resolve() method: " ++ v.typeName)) v
  | _ => pure i

/-- Importers, the first that is none reported by its place. -/
def importersFrom (i : Nat) : List (Option Importer) → Except String (List Importer)
  | [] => .ok []
  | x :: rest =>
    match Importer.misfitType? x, x with
    | some type, _ =>
      .error ("importers[" ++ toString i ++ "] has no resolve() method: " ++ type)
    | none, some imp => (importersFrom (i + 1) rest).map (imp :: ·)
    | none, none => .ok []

def checkImporters (a : Argument) : Checked (List Importer) :=
  let given : Option (List (Option Importer)) := match a with
    | importers is => some is
    | value (.list vs) => some (vs.map fun v => if v.isNull then none else some (.misfit v))
    | _ => none
  match given with
  | none => .fail .tupleType a.untyped
  | some is =>
    match importersFrom 0 is with
    | .ok is => pure is
    | .error text => .fail (.custom text) .null

def callables : List (String × Function) → Checked (List (String × Function))
  | [] => pure []
  | (name, f) :: rest =>
    let one : Checked (String × Function) := match f with
      | .misfit v => (Checked.fail .callableType v).under (.field name)
      | _ => pure (name, f)
    List.cons <$> one <*> callables rest

/-- A key as a step of a place: a truth value counts as its number. -/
def keyPlace (key : Value) : Place :=
  .field (match key with
    | .text s => s
    | .bool b => if b then "1" else "0"
    | v => Literal.ofValue v)

/-- What is wrong with entries that are no functions: their keys, unless they are text, and their
values. -/
def entryFlaws (es : List (Value × Value)) : List Violation :=
  es.flatMap fun (key, v) =>
    (match key with
      | .text _ => []
      | key => [⟨[keyPlace key, .field "[key]"], .textType, key⟩])
    ++ [⟨[keyPlace key], .callableType, v⟩]

def checkFunctions (a : Argument) : Checked (List (String × Function)) :=
  match a with
  | functions fs => callables fs
  | value (.mapping es) => ⟨.error (entryFlaws es)⟩
  | value (.record fs) => callables (fs.map fun f => (f.1, .misfit f.2))
  | _ => .fail .recordType a.untyped

def checkPackages (a : Argument) : Checked (Option Packages) :=
  match a with
  | packages c => pure (some c)
  | a => Check.optional (Check.model Packages.model Packages.check) a.untyped

end Argument

namespace Request

def syntheticUrl : String := "stdin:"

/-- The canonical URL of an entry given in memory; an empty one counts as none. -/
def entryUrl (r : Request) : String :=
  match r.url with
  | some u => if u.isEmpty then syntheticUrl else u
  | none => syntheticUrl

/-- The dialect of an entry given in memory: the one named, or that of its URL. -/
def entryDialect (r : Request) : Except Fault Dialect :=
  match r.dialect, r.url with
  | some d, _ => .ok d
  | none, some u =>
    if u.isEmpty then .ok .scss else (Dialect.forLocation u).mapError .malformedUrl
  | none, none => .ok .scss

def entryLabel (r : Request) : String :=
  match r.path, r.url with
  | some p, _ => p.toText
  | none, some u => if u.isEmpty then "<string>" else u
  | none, none => "<string>"

/-- The resolvers a request describes; without directories of its own it asks the environment. -/
def resolvers (r : Request) (environ : List (String × String)) : Except Fault (List Resolver) := do
  let environment ← match r.environmentPaths with
    | some ps => pure (ps.map Path.toText)
    | none => Environ.loadPaths environ ":"
  Resolver.cascade (r.importers.map some) (r.loadPaths.map Path.toText) environment
    (r.packages.map .packages)

def contradiction? (r : Request) : Option String :=
  if r.path.isNone = r.source.isNone then some "exactly one of path and source must be given"
  else if r.path.isSome ∧ r.url.isSome then some "url only applies when compiling a source string"
  else if r.path.isSome ∧ r.dialect.isSome then
    some "syntax only applies when compiling a source string"
  else if r.path.isSome ∧ r.importer.isSome then
    some "importer only applies when compiling a source string"
  else if r.importer.isSome ∧ r.url.isNone then some "importer requires url"
  else none

/-- The options of a request, in the order in which they are checked. -/
def optionNames : List String :=
  ["path", "source", "url", "syntax", "importer", "importers", "load_paths",
   "environment_load_paths", "package_config", "functions", "quiet_deps", "verbose", "style",
   "source_map", "charset"]

def option {α : Type} (options : List (String × Argument)) (name : String) (dflt : α)
    (check : Argument → Checked α) : Checked α :=
  match options.lookup name with
  | some a => (check a).under (.field name)
  | none => pure dflt

def plain {α : Type} (options : List (String × Argument)) (name : String) (dflt : α)
    (check : Check α) : Checked α :=
  option options name dflt fun a => check a.untyped

def checkOptions (os : List (String × Argument)) : Checked Request :=
  (fun path source url dialect importer importers loadPaths environmentPaths packages functions
      quietDeps verbose style sourceMap charset _ =>
      { path, source, url, dialect, importer, importers, loadPaths, environmentPaths, packages,
        functions, quietDeps, verbose, style, sourceMap, charset })
    <$> plain os "path" none (Check.optional Packages.checkPath)
    <*> plain os "source" none (Check.optional Check.text)
    <*> plain os "url" none (Check.optional Check.text)
    <*> plain os "syntax" none
      (Check.optional (Check.oneOf (Dialect.all.map Dialect.name) Dialect.ofName?))
    <*> option os "importer" none Argument.checkImporter
    <*> option os "importers" [] Argument.checkImporters
    <*> plain os "load_paths" [] (Check.tuple Packages.checkPath)
    <*> plain os "environment_load_paths" none (Check.optional (Check.tuple Packages.checkPath))
    <*> option os "package_config" none Argument.checkPackages
    <*> option os "functions" [] Argument.checkFunctions
    <*> plain os "quiet_deps" false Check.bool
    <*> plain os "verbose" false Check.bool
    <*> plain os "style" .expanded (Check.oneOf (Style.all.map Style.name) Style.ofName?)
    <*> plain os "source_map" false Check.bool
    <*> plain os "charset" true Check.bool
    <*> Check.noOthers (os.map fun o => (o.1, o.2.untyped)) optionNames

def check (os : List (String × Argument)) : Checked Request :=
  (checkOptions os).andThen fun r =>
    match r.contradiction? with
    | some text => .fail (.custom text) .null
    | none => pure r

def invalid (vs : List Violation) : Fault :=
  let first := vs.head?
  let place := ".".intercalate ((first.map Violation.place).getD [] |>.map Place.text)
  .failure (Failure.configuration
    ("Invalid compilation request (" ++ (if place.isEmpty then "request" else place) ++ "): "
      ++ (first.map fun v => v.rule.message).getD "")
    (some "Check the arguments passed to the compile function")
    (some [("errors", .texts (vs.map fun v => v.rule.message))])
    (some (Fault.invalid "" []).kind))

def ofOptions (os : List (String × Argument)) : Except Fault Request :=
  (check os).outcome.mapError invalid

end Request

end StyleBuild
