import StyleBuild.Dialect
import StyleBuild.Value.Check

/-!
# Loaded sources

What an importer answers with: the canonical URL of a stylesheet, its text and its dialect.
-/

set_option autoImplicit false

namespace StyleBuild

structure Source where
  url : String
  contents : String
  dialect : Dialect := .scss
  mapUrl : Option String := none
  deriving DecidableEq, Repr, Inhabited

namespace Source

def check (fs : List (String × Value)) : Checked Source :=
  (fun url contents dialect mapUrl _ => ⟨url, contents, dialect, mapUrl⟩)
    <$> Check.required fs "canonical_url" Check.nonempty
    <*> Check.required fs "contents" Check.text
    <*> Check.withDefault fs "syntax" .scss
      (Check.oneOf (Dialect.all.map Dialect.name) Dialect.ofName?)
    <*> Check.withDefault fs "source_map_url" none (Check.optional Check.text)
    <*> Check.noOthers fs ["canonical_url", "contents", "syntax", "source_map_url"]

def model : String := "ImporterResult"

end Source

end StyleBuild
