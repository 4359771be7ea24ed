import StyleBuild.Path
import StyleBuild.Url
import StyleBuild.Text.Case

/-!
# Stylesheet dialects

The dialect of a stylesheet decides how its text is read. A path or URL shows it by its suffix; an
in-memory source may name it.
-/

set_option autoImplicit false

namespace StyleBuild

inductive Dialect where
  | scss | sass | css
  deriving DecidableEq, Repr, Inhabited

namespace Dialect

def name : Dialect → String
  | scss => "scss"
  | sass => "sass"
  | css => "css"

def extension (d : Dialect) : String := "." ++ d.name

def all : List Dialect := [scss, sass, css]

def ofName? (s : String) : Option Dialect := all.find? fun d => d.name == s

/-- The dialect of a path; an unknown suffix means the default. -/
def ofPath (p : Path) : Dialect :=
  if p.suffix = ".sass" then sass else if p.suffix = ".css" then css else scss

def looksLikeUrl (s : String) : Bool :=
  Text.holds "://".toList s.toList || Text.startsWith "file:" s || Text.startsWith "package:" s

/-- The dialect shown by the suffix of a path or of a URL's path. -/
def forLocation (s : String) : Except Url.Malformed Dialect :=
  if looksLikeUrl s then do
    let url ← Url.split s
    pure (ofPath (Path.ofText (String.ofList url.path)))
  else .ok (ofPath (Path.ofText s))

/-- The dialect that the older flag chooses. -/
def unhinted (indented : Bool) : Dialect := if indented then sass else scss

end Dialect

end StyleBuild
