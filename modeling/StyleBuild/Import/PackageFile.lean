import StyleBuild.Import.Packages
import StyleBuild.Value.Yaml

/-!
# Package configuration files

A configuration file is a document in one of two formats, told apart by the file's suffix. Roots in it
are relative to the file's directory.
-/

set_option autoImplicit false

namespace StyleBuild.Packages

/-- Suffixes of files in the indented format; all others hold JSON. -/
def indentedSuffixes : List String := [".yaml", ".yml"]

def fileFailure (p : Path) (message : String) (suggestion cause : Option String) : Fault :=
  .failure (Failure.configuration message suggestion (some [("path", .text p.toText)]) cause)

/-- The fault of a document: a flaw of its format is a failure of the file, any other stays what it is. -/
def flawed (p : Path) (isFormat : Bool) (kind message : String) : Fault :=
  if isFormat then
    fileFailure p ("Invalid package configuration syntax in " ++ p.name ++ ": " ++ message) none (some kind)
  else .raised { kind, message }

/-- The document in a file. An indented document that counts as absent is an empty record. -/
def document (p : Path) (text : List Char) : Except Fault Value :=
  if indentedSuffixes.contains p.suffix then
    match Yaml.read text with
    | .ok v => .ok (if v.isFalsy then .record [] else v)
    | .error f => .error (flawed p f.isFormat f.kind f.message)
  else
    match Json.read text with
    | .ok v => .ok v
    | .error r => .error (flawed p r.isFormat r.kind (r.message text))

def absoluteOf (t : FileTree) (p : Path) : String :=
  if p.isAbsolute then p.toText
  else if p.parts.isEmpty then (⟨1, t.current⟩ : Path).toText
  else ((⟨1, t.current⟩ : Path) / p).toText

def ofFile (t : FileTree) (p : Path) : Except Fault Packages := do
  match ← Lookup.probe t p with
  | none => .error (fileFailure p ("Package configuration not found: " ++ p.toText)
      (some ("Ensure the file exists at: " ++ absoluteOf t p)) none)
  | some _ => do
    let text ← t.readText p
    match ← document p text.toList with
    | .record fs => ofDocument t (.record fs) p.parent
    | .mapping es => ofDocument t (.mapping es) p.parent
    | _ =>
      .error (fileFailure p ("Package configuration " ++ p.name ++ " must be a mapping") none none)

end StyleBuild.Packages
