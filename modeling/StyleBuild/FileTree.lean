import StyleBuild.Path

/-!
# File trees

A tree lists its files, directories and symbolic links by absolute segments; the root is always a
directory. `walk` follows a path the way a system does: every segment on the way must be a directory or
a link to one, a double point goes to the parent of the directory reached so far, and after forty links
it gives up, as it does at a segment or a path that is too long. `realPath` is the absolute form of a path
with its links replaced, whether it exists or not.

A tree has no permissions: every directory is taken as searchable and every file as readable, so a refusal
of access below a directory is none of the ways in which a path is blocked here.
-/

set_option autoImplicit false

namespace StyleBuild

inductive Entry where
  | file (bytes : List UInt8)
  | dir
  | link (target : String)
  deriving DecidableEq, Repr

/-- Entries by absolute segments, and the directory that relative paths start from. -/
structure FileTree where
  entries : List (List String × Entry)
  current : List String
  deriving Repr

namespace FileTree

inductive Blocked where
  | missing | notDirectory | loop | tooLong
  deriving DecidableEq, Repr

/-- The entry at absolute segments, links not followed. -/
def find? (t : FileTree) (p : List String) : Option Entry :=
  if p = [] then some .dir else t.entries.lookup p

def absolute (t : FileTree) (p : Path) : List String :=
  if p.isAbsolute then p.parts else t.current ++ p.parts

/-- The most octets of a segment. -/
def maxName : Nat := 255

/-- The octets a whole path has to stay below. -/
def maxText : Nat := 4096

/-- Follows the segments `rest` from the directory `here`. A last segment that does not exist is
reached without an entry. -/
def walk (t : FileTree) (links : Nat) (here rest : List String) :
    Except Blocked (List String × Option Entry) :=
  match rest with
  | [] => .ok (here, t.find? here)
  | name :: rest =>
    if name = ".." then walk t links here.dropLast rest
    else if name = "." then walk t links here rest
    else if maxName < name.utf8ByteSize then .error .tooLong
    else
      match t.find? (here ++ [name]) with
      | none => if rest = [] then .ok (here ++ [name], none) else .error .missing
      | some (.file bytes) =>
        if rest = [] then .ok (here ++ [name], some (.file bytes)) else .error .notDirectory
      | some .dir => walk t links (here ++ [name]) rest
      | some (.link target) =>
        match links with
        | 0 => .error .loop
        | links + 1 =>
          walk t links (if (Path.ofText target).isAbsolute then [] else here) (Path.steps target ++ rest)
termination_by (links, rest.length)

/-- The number of links followed before a path counts as a loop. -/
def maxLinks : Nat := 40

def locate (t : FileTree) (p : Path) : Except Blocked (List String × Option Entry) :=
  if maxText ≤ p.toText.utf8ByteSize then .error .tooLong else t.walk maxLinks [] (t.absolute p)

/-- What a system finds under a text, which it walks as it is written. -/
def stat (t : FileTree) (s : String) : Option Entry :=
  let start := if (Path.ofText s).isAbsolute then [] else t.current
  if s.isEmpty || maxText ≤ s.utf8ByteSize then none
  else match t.walk maxLinks start (Path.steps s) with
    | .ok (_, e) => e
    | .error _ => none

def entryAt (t : FileTree) (p : Path) : Option Entry :=
  match t.locate p with
  | .ok (_, e) => e
  | .error _ => none

def isFile (t : FileTree) (p : Path) : Bool :=
  match t.entryAt p with
  | some (.file _) => true
  | _ => false

def isDir (t : FileTree) (p : Path) : Bool :=
  match t.entryAt p with
  | some .dir => true
  | _ => false

/-! ## Real paths -/

/-- Links met so far, each under the path it was met by; one without a place is still being replaced. -/
abbrev Met := List (Path × Option Path)

/-- Where a path without links leads; double points at its start go up from the current directory. -/
def site (t : FileTree) (p : Path) : List String :=
  (t.absolute p).foldl (fun acc s => if s = ".." then acc.dropLast else acc ++ [s]) []

def stepUp (p : Path) : Path :=
  match p.parts.getLast? with
  | none => if p.isAbsolute then p else ⟨p.slashes, [".."]⟩
  | some s => if s = ".." then ⟨p.slashes, p.parts ++ [".."]⟩ else p.parent

/-- Replaces the links among `rest` after the link-free `here`. A link met again while it is being
replaced ends the work: the second component is then false and the rest is appended as it is. -/
def replaceLinks (t : FileTree) (fuel : Nat) (met : Met) (here : Path) (rest : List String) :
    Path × Bool × Met :=
  match rest with
  | [] => (here, true, met)
  | name :: rest =>
    if name = ".." then replaceLinks t fuel met (stepUp here) rest
    else
      let next : Path := ⟨here.slashes, here.parts ++ [name]⟩
      match t.find? (t.site next) with
      | some (.link target) =>
        match met.lookup next with
        | some (some place) => replaceLinks t fuel met place rest
        | some none => (⟨next.slashes, next.parts ++ rest⟩, false, met)
        | none =>
          match fuel with
          | 0 => (⟨next.slashes, next.parts ++ rest⟩, false, met)
          | fuel + 1 =>
            let leads := Path.ofText target
            let (place, whole, met) := replaceLinks t fuel ((next, none) :: met)
              (if leads.isAbsolute then ⟨1, []⟩ else here) leads.parts
            if whole then replaceLinks t (fuel + 1) ((next, some place) :: met) place rest
            else (⟨place.slashes, place.parts ++ rest⟩, false, met)
      | _ => replaceLinks t fuel met next rest
termination_by (fuel, rest.length)

/-- The absolute form of a path, its links replaced; segments that do not exist are kept. -/
def realParts (t : FileTree) (p : Path) : List String :=
  t.site (t.replaceLinks (2 * t.entries.length + 2) [] ⟨min 1 p.slashes, []⟩ p.parts).1

inductive Unresolved where
  | loop (site : String)
  | nul
  deriving DecidableEq, Repr

def absoluteText (parts : List String) : String := "/" ++ "/".intercalate parts

/-- The real path, unless it turns in a circle or no system would take it. -/
def realPath (t : FileTree) (p : Path) : Except Unresolved Path :=
  if p.holdsNul then .error .nul
  else
    let parts := t.realParts p
    match t.locate ⟨1, parts⟩ with
    | .error .loop => .error (.loop (absoluteText parts))
    | _ => .ok ⟨1, parts⟩

/-! ## Changing a tree -/

def set (t : FileTree) (p : List String) (e : Entry) : FileTree :=
  { t with entries := (p, e) :: t.entries.filter (·.1 != p) }

def erase (t : FileTree) (p : List String) : FileTree :=
  { t with entries := t.entries.filter fun x => !p.isPrefixOf x.1 }

def makeDirs (t : FileTree) (p : List String) : FileTree :=
  (List.range (p.length + 1)).foldl (fun t n =>
    match t.find? (p.take n) with
    | none => t.set (p.take n) .dir
    | some _ => t) t

def put (t : FileTree) (p : List String) (e : Entry) : FileTree :=
  (t.makeDirs p.dropLast).set p e

/-! ## Writing through paths -/

inductive Obstacle where
  | occupied
  | isDirectory
  | notDirectory
  | missing
  | loop
  | tooLong
  deriving DecidableEq, Repr

def Blocked.obstacle : Blocked → Obstacle
  | .missing => .missing
  | .notDirectory => .notDirectory
  | .loop => .loop
  | .tooLong => .tooLong

/-- What there is at a path. One that leads nowhere has nothing, but one that is too long is an
obstacle. -/
def probe (t : FileTree) (p : Path) : Except Obstacle (Option Entry) :=
  if p.holdsNul then .ok none
  else match t.locate p with
    | .ok (_, e) => .ok e
    | .error .tooLong => .error .tooLong
    | .error _ => .ok none

def isLink (t : FileTree) (p : Path) : Bool :=
  match t.locate p.parent with
  | .ok (site, some .dir) =>
    match t.find? (site ++ [p.name]) with
    | some (.link _) => true
    | _ => false
  | _ => false

def makeDir (t : FileTree) (p : Path) : Except Obstacle FileTree :=
  if t.isDir p then .ok t
  else if t.isLink p then .error .occupied
  else match t.locate p with
    | .ok (site, none) => .ok (t.set site .dir)
    | .ok (_, some _) => .error .occupied
    | .error b => .error b.obstacle

def ensureDirUp (t : FileTree) (slashes : Nat) : List String → Except Obstacle FileTree
  | [] => t.makeDir ⟨slashes, []⟩
  | name :: above =>
    let p : Path := ⟨slashes, (name :: above).reverse⟩
    match t.makeDir p with
    | .error .missing => do (← ensureDirUp t slashes above).makeDir p
    | r => r

def ensureDir (t : FileTree) (p : Path) : Except Obstacle FileTree :=
  t.ensureDirUp p.slashes p.parts.reverse

def writeFile (t : FileTree) (p : Path) (bytes : List UInt8) : Except Obstacle FileTree :=
  match t.locate p with
  | .ok (_, some .dir) => .error .isDirectory
  | .ok (site, _) => .ok (t.set site (.file bytes))
  | .error b => .error b.obstacle

/-- The tree with an entry at a path whose last segment is not followed, and the directories above it. -/
def place (t : FileTree) (p : Path) (e : Entry) : Except Obstacle FileTree := do
  let t ← t.ensureDir p.parent
  match t.locate p.parent with
  | .ok (dir, _) => pure (t.set (dir ++ [p.name]) e)
  | .error b => .error b.obstacle

def save (t : FileTree) (p : Path) (bytes : List UInt8) : Except Obstacle FileTree := do
  (← t.ensureDir p.parent).writeFile p bytes

/-- The tree without what a path names, a link itself and not what it leads to. -/
def remove (t : FileTree) (p : Path) : FileTree :=
  match t.locate p.parent with
  | .ok (dir, some .dir) => t.erase (dir ++ [p.name])
  | _ => t

def contents? (t : FileTree) (p : List String) : Option (List UInt8) :=
  match t.find? p with
  | some (.file bytes) => some bytes
  | some (.link _) =>
    match t.walk maxLinks [] p with
    | .ok (_, some (.file bytes)) => some bytes
    | _ => none
  | _ => none

/-- The files below a directory, and links to files, with contents that an earlier tree did not have. -/
def changedSince (t before : FileTree) (root : List String) : List (List String × List UInt8) :=
  t.entries.filterMap fun e =>
    if root.isPrefixOf e.1 then
      match t.contents? e.1 with
      | some bytes => if before.contents? e.1 = some bytes then none else some (e.1.drop root.length, bytes)
      | none => none
    else none

def wayTo (target start : List String) : List String :=
  match target, start with
  | a :: target, b :: start =>
    if a = b then wayTo target start else (b :: start).map (fun _ => "..") ++ a :: target
  | target, start => start.map (fun _ => "..") ++ target

end FileTree

end StyleBuild
