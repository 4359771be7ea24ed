import StyleBuild.Import.Packages

/-!
# Resolvers

Imports are looked for in a fixed order: through the importer that loaded the requester, through the
importers given explicitly, in the load paths, in the directories the environment names, and at last in
the configured packages. A resolver is one importer with its place in that order.
-/

set_option autoImplicit false

namespace StyleBuild

/-- An importer of the caller's own: how it is told apart, and how it is shown. -/
structure Handle where
  id : String
  label : String
  deriving DecidableEq, Repr

/-- What shows of an object without calling it: its truth value, and what its method is called in messages.
An importer can be any object with the method, an empty collection included, so it may count as false. -/
structure Bearing where
  truth : Bool := true
  method : String := "Importer.resolve"
  deriving DecidableEq, Repr

inductive Importer where
  | directory (root : Path)
  | packages (config : Packages)
  /-- A value given as a configuration of packages that is not checked. -/
  | unchecked (config : Value)
  | custom (handle : Handle) (bearing : Bearing := {})
  /-- A value given as an importer that is none. -/
  | misfit (value : Value)
  deriving Repr

namespace Importer

def label : Importer → String
  | directory root => "FilesystemImporter(" ++ Literal.ofText root.toText ++ ")"
  | packages config =>
    "PackageImporter([" ++ ", ".intercalate (config.entries.map Package.name) ++ "])"
  | unchecked config => "PackageImporter(" ++ Literal.ofValue config ++ ")"
  | custom handle _ => handle.label
  | misfit value => Literal.ofValue value

def misfitType? : Option Importer → Option String
  | none => some "NoneType"
  | some (misfit v) => some v.typeName
  | some _ => none

/-- Whether an importer counts as not given where its truth value is asked. -/
def isFalsy : Importer → Bool
  | misfit v => v.isFalsy
  | custom _ bearing => !bearing.truth
  | _ => false

def method : Importer → String
  | directory _ => "FilesystemImporter.resolve"
  | packages _ | unchecked _ => "PackageImporter.resolve"
  | custom _ bearing => bearing.method
  | misfit v => v.typeName ++ ".resolve"

def sameDirectory (t : FileTree) (a b : Path) : Except Fault Bool :=
  match t.realPath a, t.realPath b with
  | .ok a, .ok b => .ok (a == b)
  | .error u, _ | _, .error u => .error (.unresolvedPath u)

def default : Importer := directory ⟨0, []⟩

end Importer

inductive ResolverKind where
  | entryRelative | explicit | loadPath | environment | package
  deriving DecidableEq, Repr

def ResolverKind.name : ResolverKind → String
  | .entryRelative => "entry_relative"
  | .explicit => "explicit"
  | .loadPath => "load_path"
  | .environment => "environment"
  | .package => "package"

structure Resolver where
  kind : ResolverKind
  importer : Importer
  label : String
  deriving Repr

namespace Resolver

def loadsDependencies (r : Resolver) : Bool := r.kind != .entryRelative

def relativeTo (i : Importer) : Resolver := ⟨.entryRelative, i, "relative:" ++ i.label⟩

/-- The resolver of a directory; an empty text names none. -/
def ofDirectory? (kind : ResolverKind) (title path : String) : Option Resolver :=
  if path.isEmpty then none else some ⟨kind, .directory (Path.ofText path), title ++ path⟩

def ofImporters (i : Nat) : List (Option Importer) → Except Fault (List Resolver)
  | [] => .ok []
  | none :: _ => .error (.failure (Failure.configuration "Importer list contains None" none
      (some [("index", .int i)])))
  | some imp :: rest => do
    let more ← ofImporters (i + 1) rest
    pure (⟨.explicit, imp, "importer:" ++ imp.label⟩ :: more)

/-- All resolvers but the relative one, in order; the importer of packages comes last. -/
def cascade (importers : List (Option Importer)) (loadPaths environment : List String)
    (packages : Option Importer) : Except Fault (List Resolver) := do
  let explicit ← ofImporters 0 importers
  pure (explicit
    ++ loadPaths.filterMap (ofDirectory? .loadPath "load_path:")
    ++ environment.filterMap (ofDirectory? .environment "environment:")
    ++ (packages.map fun i => (⟨.package, i, "package"⟩ : Resolver)).toList)

end Resolver

/-! ## The environment -/

def loadPathVariable : String := "SASS_PATH"

def splitOnRun (run : List Char) (cs : List Char) : List (List Char) :=
  match cs with
  | [] => [[]]
  | c :: rest =>
    if run.isPrefixOf (c :: rest) then [] :: splitOnRun run (rest.drop (run.length - 1))
    else
      match splitOnRun run rest with
      | part :: parts => (c :: part) :: parts
      | [] => [[c]]
termination_by cs.length

/-- The load paths a list in the environment names; entries without a visible character are ignored. -/
def pathsOf (listed separator : String) : List String :=
  ((splitOnRun separator.toList listed.toList).filter fun s => !s.all Text.isBlank).map String.ofList

/-- The load paths the environment names; there must be something to split its list at. -/
def Environ.loadPaths (environ : List (String × String)) (separator : String) :
    Except Fault (List String) :=
  if separator.isEmpty then .error (.raised { kind := "ValueError", message := "empty separator" })
  else .ok (pathsOf ((environ.lookup loadPathVariable).getD "") separator)

end StyleBuild
