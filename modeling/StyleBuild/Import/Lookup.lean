import StyleBuild.Fault
import StyleBuild.Import.Source
import StyleBuild.Telemetry.Event

/-!
# Looking up files

A path without a known extension stands for a file with one, or for its partial, whose name starts with
an underscore. The candidates form tiers; the first tier with an existing file decides, and several
files in it are ambiguous. A directory stands for the `index` file inside it.

A probe asks a tree of which every directory is searchable and every file readable (`FileTree`); a system
that denies a directory fails there instead of saying that nothing exists.
-/

set_option autoImplicit false

namespace StyleBuild

namespace FileTree

def urlOf (parts : List String) : String :=
  "file://" ++ String.ofList (Url.quote (absoluteText parts).toList)

def pathToUrl (t : FileTree) (p : Path) : Except Fault String :=
  match t.realPath p with
  | .ok real => .ok (urlOf real.parts)
  | .error u => .error (.unresolvedPath u)

/-- A path with a drive letter after its first slash starts at the letter. -/
def dropDriveSlash (cs : List Char) : List Char :=
  match cs with
  | '/' :: c :: ':' :: rest => c :: ':' :: rest
  | _ => cs

def urlToPath (url : String) : Except Fault Path :=
  match Url.split url with
  | .error m => .error (.malformedUrl m)
  | .ok u =>
    if u.scheme = "file".toList then
      .ok (Path.ofText (String.ofList (dropDriveSlash (Url.unquote u.path))))
    else .error (.notFileUrl url)

/-- The text of a file, its line ends unified. -/
def readText (t : FileTree) (p : Path) : Except Fault String :=
  match t.entryAt p with
  | some (.file bytes) =>
    match Text.Utf8.decode bytes with
    | .ok cs => .ok (String.ofList (Text.Utf8.unifyLines cs))
    | .error i => .error (.notText i)
  | some _ => .error (.directoryRead p)
  | none => .error (.missingFile p)

end FileTree

namespace Lookup

def sassExtensions : List String := [".sass", ".scss"]

def allExtensions : List String := [".sass", ".scss", ".css"]

def hasExtension (p : Path) : Bool := allExtensions.contains p.suffix

/-- For each extension the partial and the plain file. -/
def candidates (p : Path) (extensions : List String) : List Path :=
  extensions.flatMap fun e => [⟨p.slashes, p.parts.dropLast ++ ["_" ++ p.name ++ e]⟩,
    ⟨p.slashes, p.parts.dropLast ++ [p.name ++ e]⟩]

def probe (t : FileTree) (p : Path) : Except Fault (Option Entry) :=
  (t.probe p).mapError fun o => .blockedPath o p

def isFile (t : FileTree) (p : Path) : Except Fault Bool :=
  (probe t p).map fun e => match e with
    | some (.file _) => true
    | _ => false

def isDir (t : FileTree) (p : Path) : Except Fault Bool :=
  (probe t p).map fun e => match e with
    | some .dir => true
    | _ => false

def existing (t : FileTree) : List Path → Except Fault (List Path)
  | [] => .ok []
  | p :: rest => do
    let here ← isFile t p
    let found ← existing t rest
    pure (if here then p :: found else found)

/-- The files of the first tier that has any; a path without a last segment has no tiers. -/
def tryPath (t : FileTree) (p : Path) : Except Fault (List Path) :=
  if hasExtension p then
    existing t [⟨p.slashes, p.parts.dropLast ++ ["_" ++ p.name]⟩, p]
  else if p.parts.isEmpty then .error (.unnamedPath p)
  else do
    let found ← existing t (candidates p sassExtensions)
    if found.isEmpty then existing t (candidates p [".css"]) else pure found

def file (t : FileTree) (p : Path) (reference : String) (base : Option String) :
    Except Fault (Option Path) := do
  let found ← tryPath t p
  let found ←
    if found.isEmpty && !hasExtension p then do
      if ← isDir t p then tryPath t (p / (⟨0, ["index"]⟩ : Path)) else pure found
    else pure found
  match found with
  | [] => pure none
  | [q] => pure (some q)
  | several => do
    let urls ← several.mapM t.pathToUrl
    .error (.failure (Failure.ambiguous reference urls base))

/-- A file's canonical URL, text and dialect, in this order; the URL goes to the events if asked. -/
def load (t : FileTree) (q : Path) (announce : String → List Event) :
    Except Fault Source × List Event :=
  match t.pathToUrl q with
  | .error f => (.error f, [])
  | .ok url =>
    (do
      let contents ← t.readText q
      match Dialect.forLocation q.name with
      | .ok dialect => pure { url, contents, dialect }
      | .error m => .error (.malformedUrl m), announce url)

/-- The path a reference names for an importer of a directory: a `file:` URL's own, none for another
scheme, an absolute one, or one relative to the requester's directory or else to the root. -/
def target (root : Path) (reference : String) (base : Option String) : Except Fault (Option Path) :=
  match Url.split reference with
  | .error m => .error (.malformedUrl m)
  | .ok u =>
    if u.scheme = "file".toList then some <$> FileTree.urlToPath reference
    else if 1 < u.scheme.length then .ok none
    else
      let relative := Path.ofText (Url.unquoteText reference)
      match base with
      | some b =>
        if relative.isAbsolute then .ok (some relative)
        else if Text.startsWith "file:" b then do
          let requester ← FileTree.urlToPath b
          pure (some (requester.parent / relative))
        else .ok (some (root / relative))
      | none => .ok (some (root / relative))

abbrev Outcome := Except Fault (Option Source) × List Event

def answer (t : FileTree) (p : Except Fault (Option Path)) (reference : String)
    (base : Option String) (announce : String → List Event) : Outcome :=
  match p with
  | .error f => (.error f, [])
  | .ok none => (.ok none, [])
  | .ok (some p) =>
    match file t p reference base with
    | .error f => (.error f, [])
    | .ok none => (.ok none, [])
    | .ok (some q) =>
      let (r, events) := load t q announce
      (some <$> r, events)

def inDirectory (t : FileTree) (root : Path) (reference : String) (base : Option String) : Outcome :=
  answer t (target root reference base) reference base fun url => [.fileFound reference url]

end Lookup

end StyleBuild
