import StyleBuild.Import.Lookup

/-!
# Packages

A configuration maps package names to directories. A reference `package:name/path` stands for the file at
`path` below the package's directory; a stylesheet of a package finds its neighbours by relative paths.
-/

set_option autoImplicit false

namespace StyleBuild

structure Package where
  name : String
  root : Path
  uri : String := "lib/"
  deriving DecidableEq, Repr

def Package.directory (p : Package) : Path := p.root / Path.ofText p.uri

structure Packages where
  entries : List Package := []
  deriving DecidableEq, Repr

namespace Packages

def get? (c : Packages) (name : String) : Option Package := c.entries.find? fun p => p.name == name

def repeated? (seen : List String) : List Package → Option String
  | [] => none
  | p :: rest => if seen.contains p.name then some p.name else repeated? (p.name :: seen) rest

def checkPath : Check Path
  | .text s => pure (Path.ofText s)
  | v => .fail .pathType v

def checkPackage (fs : List (String × Value)) : Checked Package :=
  (fun name root uri _ => ⟨name, root, uri⟩)
    <$> Check.required fs "name" Check.nonempty
    <*> Check.required fs "root" checkPath
    <*> Check.withDefault fs "package_uri" "lib/" Check.text
    <*> Check.noOthers fs ["name", "root", "package_uri"]

def ofList (entries : List Package) (input : Value) : Checked Packages :=
  match repeated? [] entries with
  | some name => .fail (.custom ("Duplicate package name: " ++ name)) input
  | none => pure ⟨entries⟩

def check (fs : List (String × Value)) : Checked Packages :=
  ((fun entries _ => entries)
    <$> Check.withDefault fs "packages" [] (Check.tuple (Check.model "PackageEntry" checkPackage))
    <*> Check.noOthers fs ["packages"]).andThen fun entries => ofList entries (.record fs)

def packageModel : String := "PackageEntry"

def model : String := "PackageConfig"

/-! ## Configuration documents -/

/-- The fault of asking a value that is no record for a field. -/
def notIndexed (item : Value) : Fault :=
  .raised { kind := "TypeError", message := match item with
    | .text _ => "string indices must be integers, not 'str'"
    | .list _ => "list indices must be integers or slices, not str"
    | .tuple _ => "tuple indices must be integers or slices, not str"
    | .octets _ => "byte indices must be integers or slices, not str"
    | v => "'" ++ v.typeName ++ "' object is not subscriptable" }

def field (item : Value) (name : String) : Except Fault Value :=
  match item with
  | .record _ | .mapping _ => match item.get? name with
    | some v => .ok v
    | none => .error (.unknownKey name)
  | v => .error (notIndexed v)

/-- The root a `rootUri` names: a `file:` URL's path, or a path below the base directory, resolved. -/
def rootOf (t : FileTree) (base : Path) (uri : Value) : Except Fault Path :=
  match uri with
  | .text s =>
    if Text.startsWith "file:" s then FileTree.urlToPath s
    else match t.realPath (base / Path.ofText (Url.unquoteText s)) with
      | .ok p => .ok p
      | .error u => .error (.unresolvedPath u)
  | .octets _ => .error (.raised
      { kind := "TypeError", message := "startswith first arg must be bytes or a tuple of bytes, not str" })
  | v => .error (.noAttribute v "startswith")

def ofItem (t : FileTree) (base : Path) (item : Value) : Except Fault Package := do
  let name ← field item "name"
  let root ← rootOf t base (← field item "rootUri")
  let uri := (item.get? "packageUri").getD (.text "lib/")
  match ((fun n u => (⟨n, root, u⟩ : Package)) <$> (Check.nonempty name).under (.field "name")
      <*> (Check.text uri).under (.field "package_uri")).outcome with
  | .ok p => pure p
  | .error vs => .error (.invalid packageModel vs)

/-- A fault in a document as a configuration failure; faults of URLs and paths stay what they are. -/
def asConfiguration (f : Fault) : Fault :=
  match f with
  | .invalid _ vs =>
    .failure (Failure.configuration
      ("Invalid package configuration: " ++ (vs.head?.map fun v => v.rule.message).getD "")
      none (some [("errors", .texts (vs.map fun v => v.rule.message))]) (some f.kind))
  | .unknownKey _ =>
    .failure (Failure.configuration ("Package configuration entry is missing a field: " ++ f.message)
      (some "Each package needs 'name' and 'rootUri'") none (some f.kind))
  | .raised r =>
    if r.kind = "TypeError" then
      .failure (Failure.configuration
        ("Package configuration entry is missing a field: " ++ f.message)
        (some "Each package needs 'name' and 'rootUri'") none (some f.kind))
    else f
  | _ => f

/-- A value as a literal, which an integer of too many digits has not. -/
def literal (v : Value) : Except Fault String :=
  if Integer.allShown v then .ok (Literal.ofValue v)
  else .error (.raised { kind := "ValueError", message := Integer.Problem.tooLarge.message })

def ofDocument (t : FileTree) (doc : Value) (base : Path) : Except Fault Packages :=
  match doc with
  | .record _ | .mapping _ =>
    match (doc.get? "packages").getD (.list []) with
    | .list items =>
      (items.mapM (ofItem t base) >>= fun entries =>
        match (ofList entries (.record [])).outcome with
        | .ok c => .ok c
        | .error vs => .error (.invalid model vs)).mapError asConfiguration
    | v => do
      let shown ← literal v
      .error (.failure (Failure.configuration "Package configuration 'packages' must be a list"
        none (some [("packages", .text shown)])))
  | v => .error (.noAttribute v "get")

/-! ## Resolution -/

abbrev Directories := String → Except Fault (Option Path)

def directories (c : Packages) : Directories := fun name => .ok ((c.get? name).map Package.directory)

/-- What an unchecked value names in place of a configuration: it is asked for the package, and what it
has there for the directory, which no untyped value knows. -/
def directoriesIn (config : Value) : Directories := fun name =>
  match config with
  | .record _ =>
    match config.get? name with
    | none | some .null => .ok none
    | some v => .error (.noAttribute v "package_root")
  | v => .error (.noAttribute v "get")

def answer (t : FileTree) (directory : Directories) (reference : String) (base : Option String) :
    Lookup.Outcome :=
  match Url.split reference with
  | .error m => (.error (.malformedUrl m), [])
  | .ok u =>
    if u.scheme = "package".toList then
      let path := Url.unquote u.path
      let (name, rest) := (Text.cutAt '/' path).getD (path, [])
      match directory (String.ofList name) with
      | .error f => (.error f, [])
      | .ok none => (.ok none, [.packageUnknown (String.ofList name) reference])
      | .ok (some d) =>
        Lookup.answer t (.ok (some (d / Path.ofText (String.ofList rest)))) reference base fun _ => []
    else
      match base with
      | some b =>
        if u.scheme = [] ∧ Text.startsWith "file:" b then
          Lookup.answer t
            (do
              let requester ← FileTree.urlToPath b
              pure (some (requester.parent / Path.ofText (String.ofList (Url.unquote u.path)))))
            reference base fun _ => []
        else (.ok none, [])
      | none => (.ok none, [])

end Packages

end StyleBuild
