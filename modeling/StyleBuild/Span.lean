import StyleBuild.Value.Check

/-!
# Places in a stylesheet

Lines and columns count from zero; for display they count from one.
-/

set_option autoImplicit false

namespace StyleBuild

structure Span where
  url : Option String := none
  line : Nat := 0
  column : Nat := 0
  text : Option String := none
  deriving DecidableEq, Repr, Inhabited

namespace Span

/-- The place for display: the URL, or a dash if it is unknown or empty, then line and column. -/
def format (s : Span) : String :=
  let url := match s.url with
    | some u => if u.isEmpty then "-" else u
    | none => "-"
  url ++ ":" ++ toString (s.line + 1) ++ ":" ++ toString (s.column + 1)

def check (fs : List (String × Value)) : Checked Span :=
  (fun url line column text _ => ⟨url, line, column, text⟩)
    <$> Check.withDefault fs "url" none (Check.optional Check.text)
    <*> Check.withDefault fs "line" 0 Check.nat
    <*> Check.withDefault fs "column" 0 Check.nat
    <*> Check.withDefault fs "text" none (Check.optional Check.text)
    <*> Check.noOthers fs ["url", "line", "column", "text"]

def model : String := "SourceSpan"

end Span

end StyleBuild
