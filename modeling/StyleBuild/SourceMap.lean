import StyleBuild.SourceMap.Vlq
import StyleBuild.Value.Check
import StyleBuild.Value.Json.Writer

/-!
# Source maps

A mapping ties a position in the generated text to one in a source; all positions count from zero. The
`mappings` text writes them sorted by generated position, line after line, as differences: the generated
column to the mapping before it on the line, all else to the mapping before it anywhere.
-/

set_option autoImplicit false

namespace StyleBuild

structure Mapping where
  generatedLine : Nat
  generatedColumn : Nat
  sourceIndex : Nat := 0
  sourceLine : Nat := 0
  sourceColumn : Nat := 0
  nameIndex : Option Nat := none
  deriving DecidableEq, Repr, Inhabited

structure SourceMap where
  version : Int := 3
  sources : List String := []
  sourcesContent : Option (List (Option String)) := none
  names : List String := []
  mappings : List Mapping := []
  targetUrl : Option String := none
  deriving DecidableEq, Repr, Inhabited

namespace Mapping

def before (a b : Mapping) : Bool :=
  a.generatedLine < b.generatedLine
    || (a.generatedLine == b.generatedLine && a.generatedColumn ≤ b.generatedColumn)

/-- A mapping after `lines` more lines; a mapping on the first line also moves right. -/
def shift (lines columns : Nat) (m : Mapping) : Mapping :=
  { m with
    generatedLine := m.generatedLine + lines
    generatedColumn := m.generatedColumn + if m.generatedLine = 0 then columns else 0 }

def check (fs : List (String × Value)) : Checked Mapping :=
  (fun gl gc si ol oc ni _ => ⟨gl, gc, si, ol, oc, ni⟩)
    <$> Check.required fs "generated_line" Check.nat
    <*> Check.required fs "generated_column" Check.nat
    <*> Check.withDefault fs "source_index" 0 Check.nat
    <*> Check.withDefault fs "original_line" 0 Check.nat
    <*> Check.withDefault fs "original_column" 0 Check.nat
    <*> Check.withDefault fs "name_index" none (Check.optional Check.nat)
    <*> Check.noOthers fs ["generated_line", "generated_column", "source_index", "original_line",
      "original_column", "name_index"]

end Mapping

namespace SourceMap

/-- The byte-order mark, which takes no column. -/
def byteOrderMark : Char := Char.ofNat 0xfeff

/-- How text put in front moves positions: its line ends, and the characters after the last one. -/
def displacement (front : List Char) : Nat × Nat :=
  let text := front.filter (· != byteOrderMark)
  (text.count '\n', (text.reverse.takeWhile (· != '\n')).length)

def withFront (m : SourceMap) (front : List Char) : SourceMap :=
  let (lines, columns) := displacement front
  { m with mappings := m.mappings.map (Mapping.shift lines columns) }

/-- The values that the next segment's differences refer to. -/
structure Previous where
  line : Nat := 0
  column : Nat := 0
  source : Nat := 0
  sourceLine : Nat := 0
  sourceColumn : Nat := 0
  name : Nat := 0

def delta (a b : Nat) : List Char := Vlq.encode ((a : Int) - b)

/-- One segment: four differences, or five for a mapping with a name. -/
def segment (p : Previous) (m : Mapping) : List Char :=
  delta m.generatedColumn p.column ++ delta m.sourceIndex p.source
    ++ delta m.sourceLine p.sourceLine ++ delta m.sourceColumn p.sourceColumn
    ++ match m.nameIndex with
      | some n => delta n p.name
      | none => []

def Previous.after (p : Previous) (m : Mapping) : Previous :=
  ⟨m.generatedLine, m.generatedColumn, m.sourceIndex, m.sourceLine, m.sourceColumn,
    m.nameIndex.getD p.name⟩

/-- Segments in order: a comma before a segment on the same line, a semicolon for each new line, where
the generated column restarts. -/
def writeSegments (p : Previous) (first : Bool) : List Mapping → List Char
  | [] => []
  | m :: rest =>
    if p.line < m.generatedLine then
      List.replicate (m.generatedLine - p.line) ';' ++ segment { p with column := 0 } m
        ++ writeSegments (p.after m) false rest
    else (if first then [] else [',']) ++ segment p m ++ writeSegments (p.after m) false rest

def encodedMappings (m : SourceMap) : List Char :=
  writeSegments {} true (m.mappings.mergeSort Mapping.before)

def toValue (m : SourceMap) : Value :=
  .record <|
    [("version", .int m.version), ("sources", .texts m.sources), ("names", .texts m.names),
      ("mappings", .text (String.ofList m.encodedMappings))]
    ++ (match m.sourcesContent with
      | some cs => [("sourcesContent", .list (cs.map Value.ofText?))]
      | none => [])
    ++ (match m.targetUrl with
      | some u => [("file", .text u)]
      | none => [])

def toJson (m : SourceMap) (indent : Option Nat) : String := Json.write indent m.toValue

def check (fs : List (String × Value)) : Checked SourceMap :=
  (fun v s c n m t _ => ⟨v, s, c, n, m, t⟩)
    <$> Check.withDefault fs "version" 3 Check.int
    <*> Check.withDefault fs "sources" [] (Check.list Check.text)
    <*> Check.withDefault fs "sources_content" none
      (Check.optional (Check.list (Check.optional Check.text)))
    <*> Check.withDefault fs "names" [] (Check.list Check.text)
    <*> Check.withDefault fs "mappings" [] (Check.list (Check.model "Mapping" Mapping.check))
    <*> Check.withDefault fs "target_url" none (Check.optional Check.text)
    <*> Check.noOthers fs
      ["version", "sources", "sources_content", "names", "mappings", "target_url"]

def model : String := "SourceMap"

end SourceMap

end StyleBuild
