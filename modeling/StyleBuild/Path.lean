import StyleBuild.Text.Split

/-!
# Paths

A path is a number of leading slashes (none, one or two) and its segments. Empty segments and single
points are left out, double points are kept: only the file tree knows what they mean.
-/

set_option autoImplicit false

namespace StyleBuild

structure Path where
  slashes : Nat
  parts : List String
  deriving DecidableEq, Repr, Inhabited

namespace Path

/-- The segments of a text between slashes that count: neither empty nor a single point. -/
def segments (cs : List Char) : List String :=
  ((Text.splitAtChar '/' cs).filter fun s => s != [] && s != ['.']).map String.ofList

/-- The segments of a text as a system walks them: single points are kept, and a slash at the end asks for
a directory as one would. -/
def steps (s : String) : List String :=
  let parts := (Text.splitAtChar '/' s.toList).filter (· != [])
  let ends := !parts.isEmpty && s.toList.getLast? == some '/'
  (if ends then parts ++ [['.']] else parts).map String.ofList

/-- The path a text stands for; exactly two leading slashes are kept, more count as one. -/
def ofText (s : String) : Path :=
  let cs := s.toList
  let n := (cs.takeWhile (· == '/')).length
  ⟨if n ≤ 2 then n else 1, segments cs⟩

/-- The text of a path; the empty path is a single point. -/
def toText (p : Path) : String :=
  if p.slashes = 0 ∧ p.parts = [] then "."
  else String.ofList (List.replicate p.slashes '/') ++ "/".intercalate p.parts

def holdsNul (p : Path) : Bool := p.parts.any fun s => s.toList.contains (Char.ofNat 0)

def isAbsolute (p : Path) : Bool := p.slashes != 0

def name (p : Path) : String := p.parts.getLast?.getD ""

/-- The text from the last point of a name, unless that point is its first or last character. -/
def suffixOf (name : List Char) : List Char :=
  let tail := name.reverse.takeWhile (· != '.')
  if tail.isEmpty ∨ name.length ≤ tail.length + 1 then [] else '.' :: tail.reverse

def suffix (p : Path) : String := String.ofList ((suffixOf p.name.toList).map Char.toLower)

def parent (p : Path) : Path := ⟨p.slashes, p.parts.dropLast⟩

/-- The path with another last segment; a path without segments has none to replace. -/
def withName? (p : Path) (name : String) : Option Path :=
  if p.parts.isEmpty then none else some ⟨p.slashes, p.parts.dropLast ++ [name]⟩

/-- One path after another; an absolute one stands alone. -/
def join (p q : Path) : Path :=
  if q.isAbsolute then q else ⟨p.slashes, p.parts ++ q.parts⟩

instance : HDiv Path Path Path := ⟨join⟩

end Path

end StyleBuild
