import StyleBuild.Fault
import StyleBuild.SourceMap
import StyleBuild.Telemetry.Event

/-!
# Assembling a result

Text that is not ASCII gets one charset marker in front, a declaration or a byte-order mark, if markers
are wanted. The source map moves along with it and names no target.
-/

set_option autoImplicit false

namespace StyleBuild

inductive Style where
  | expanded | compressed
  deriving DecidableEq, Repr, Inhabited

namespace Style

def name : Style → String
  | expanded => "expanded"
  | compressed => "compressed"

def all : List Style := [expanded, compressed]

def ofName? (s : String) : Option Style := all.find? fun st => st.name == s

end Style

/-- What the serializer hands over to build a source map with, if it has kept track. -/
abbrev Builder := Option (Except Fault SourceMap)

structure Result where
  css : String
  sourceMap : Option SourceMap
  loadedUrls : List String
  deriving Repr

namespace Assemble

def marker (css : String) (style : Style) (charset : Bool) : String :=
  if !charset || css.toList.all Url.isAscii then ""
  else match style with
    | .compressed => String.singleton SourceMap.byteOrderMark
    | .expanded => "@charset \"UTF-8\";\n"

/-- The map to go with a text, with the event of a map that is not to be had. -/
def mapFor (builder : Builder) (wanted : Bool) (front : String) :
    Except Fault (Option SourceMap) × List Event :=
  if !wanted then (.ok none, [])
  else match builder with
    | none => (.ok none, [.mapUnavailable])
    | some built =>
      (built.map fun m => some { m.withFront front.toList with targetUrl := none }, [])

def result (css : String) (builder : Builder) (style : Style) (charset sourceMap : Bool)
    (loaded : List String) : Except Fault Result × List Event :=
  let front := marker css style charset
  let (map, events) := mapFor builder sourceMap front
  (map.map fun m => ⟨front ++ css, m, loaded⟩, events)

end Assemble

end StyleBuild
