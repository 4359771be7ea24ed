import StyleBuild.Proofs.MappingsText
import StyleBuild.Proofs.Positions

/-!
# The mappings text behind whole lines

Whole lines put in front of a generated text move every mapping down by their number. Sorting does not see
that, since it compares positions, and neither do the segments, which hold differences and start the column
anew on each line. So the `mappings` text of the moved map is the old one behind as many semicolons.
-/

set_option autoImplicit false

namespace StyleBuild

namespace Mapping

theorem before_shift (lines : Nat) (a b : Mapping) :
    (a.shift lines 0).before (b.shift lines 0) = a.before b := by
  rw [Bool.eq_iff_iff, before_iff, before_iff]
  simp only [shift, ite_self, Nat.add_zero]
  omega

theorem mergeSort_shift (lines : Nat) (ms : List Mapping) :
    (ms.map (shift lines 0)).mergeSort before = (ms.mergeSort before).map (shift lines 0) :=
  (List.map_mergeSort fun a _ b _ => (before_shift lines a b).symm).symm

end Mapping

namespace SourceMap

/-- What the next segment refers to once everything has moved down. -/
def Previous.down (lines : Nat) (p : Previous) : Previous := { p with line := p.line + lines }

/-- A segment tells nothing of lines. -/
theorem segment_shift (lines : Nat) (p : Previous) (m : Mapping) :
    segment (p.down lines) (m.shift lines 0) = segment p m := by
  simp [segment, Previous.down, Mapping.shift]

theorem after_shift (lines : Nat) (p : Previous) (m : Mapping) :
    (p.down lines).after (m.shift lines 0) = (p.after m).down lines := by
  simp [Previous.after, Previous.down, Mapping.shift]

/-- Segments that move down together with what they refer to are written as before. -/
theorem writeSegments_shift (lines : Nat) (p : Previous) (first : Bool) (ms : List Mapping) :
    writeSegments (p.down lines) first (ms.map (Mapping.shift lines 0)) = writeSegments p first ms := by
  induction ms generalizing p first with
  | nil => rfl
  | cons m rest ih =>
    have same_gap : (m.shift lines 0).generatedLine - (p.down lines).line = m.generatedLine - p.line := by
      simp only [Mapping.shift, Previous.down]
      omega
    have same_line : (p.down lines).line < (m.shift lines 0).generatedLine ↔ p.line < m.generatedLine := by
      simp [Mapping.shift, Previous.down]
    have restarted : segment { p.down lines with column := 0 } (m.shift lines 0)
        = segment { p with column := 0 } m := segment_shift lines { p with column := 0 } m
    simp only [List.map_cons, writeSegments, same_line, same_gap, restarted, segment_shift, after_shift, ih]

/-- At the start of a line, lines without segments are semicolons. -/
theorem writeSegments_skip {lines : Nat} {p : Previous} (start : p.column = 0) {m : Mapping}
    (below : p.line + lines ≤ m.generatedLine) (rest : List Mapping) :
    writeSegments p true (m :: rest)
      = List.replicate lines ';' ++ writeSegments (p.down lines) true (m :: rest) := by
  have restarted : { p with column := 0 } = p := by rw [← start]
  have downwards : { p.down lines with column := 0 } = p.down lines := by rw [Previous.down, start]
  have segments : segment (p.down lines) m = segment p m := rfl
  have afterwards : (p.down lines).after m = p.after m := rfl
  simp only [writeSegments, restarted, downwards, segments, afterwards, if_true, List.nil_append]
  by_cases here : m.generatedLine = p.line + lines
  · have reached : ¬ (p.down lines).line < m.generatedLine := by simp [Previous.down, here]
    rw [if_neg reached]
    by_cases stays : lines = 0
    · simp [here, stays]
    · have ends : p.line < m.generatedLine := by omega
      have gap : m.generatedLine - p.line = lines := by omega
      rw [if_pos ends, gap, List.append_assoc]
  · have ends : p.line < m.generatedLine := by omega
    have still : (p.down lines).line < m.generatedLine := by
      simp only [Previous.down]
      omega
    have gap : m.generatedLine - p.line = lines + (m.generatedLine - (p.down lines).line) := by
      simp only [Previous.down]
      omega
    rw [if_pos ends, if_pos still, gap, List.replicate_add]
    simp only [List.append_assoc]

theorem mappings_withFront_of_whole {front : List Char}
    (whole : visible front = [] ∨ (visible front).getLast? = some '\n') (m : SourceMap) :
    (m.withFront front).mappings
      = m.mappings.map (Mapping.shift ((visible front).count '\n') 0) := by
  have ends : displacement front = ((visible front).count '\n', 0) := by
    rcases whole with empty | last
    · rw [displacement_eq, empty]
      rfl
    · obtain ⟨text, lines⟩ := List.getLast?_eq_some_iff.mp last
      have column : (Position.endOf (visible front)).column = 0 := by
        rw [lines, Position.endOf_concat]
        rfl
      rw [displacement_eq, column, Position.endOf_eq]
  simp only [withFront, ends]

/-- Lines in front of a generated text are semicolons in front of its `mappings`; a map without mappings
has none to move. -/
theorem encodedMappings_withFront (m : SourceMap) {front : List Char}
    (whole : visible front = [] ∨ (visible front).getLast? = some '\n') :
    (m.mappings ≠ [] → (m.withFront front).encodedMappings
      = List.replicate ((visible front).count '\n') ';' ++ m.encodedMappings) ∧
    (m.mappings = [] → (m.withFront front).encodedMappings = [] ∧ m.encodedMappings = []) := by
  have moved : (m.withFront front).encodedMappings = writeSegments {} true
      ((m.mappings.mergeSort Mapping.before).map (Mapping.shift ((visible front).count '\n') 0)) := by
    rw [encodedMappings, mappings_withFront_of_whole whole, Mapping.mergeSort_shift]
  generalize (visible front).count '\n' = lines at moved
  rw [moved, encodedMappings]
  constructor
  · intro mapped
    cases sorted : m.mappings.mergeSort Mapping.before with
    | nil =>
      have none_left := (List.mergeSort_perm m.mappings Mapping.before).length_eq
      rw [sorted] at none_left
      exact absurd (List.length_eq_zero_iff.mp none_left.symm) mapped
    | cons first rest =>
      have below : ({} : Previous).line + lines ≤ (first.shift lines 0).generatedLine := by
        simp [Mapping.shift]
      rw [List.map_cons, writeSegments_skip rfl below, ← List.map_cons, writeSegments_shift]
  · intro unmapped
    simp [unmapped, writeSegments]

/-- Two mappings out of order, behind a mark and two lines. -/
theorem encodedMappings_behind_lines :
    (withFront { mappings := [⟨1, 2, 0, 0, 0, none⟩, ⟨0, 4, 0, 3, 0, none⟩] }
        (byteOrderMark :: "a\n\n".toList)).encodedMappings = ";;IAGA;EAHA".toList := by
  have whole : visible (byteOrderMark :: "a\n\n".toList) = []
      ∨ (visible (byteOrderMark :: "a\n\n".toList)).getLast? = some '\n' := by decide
  have moved := (encodedMappings_withFront
    { mappings := [⟨1, 2, 0, 0, 0, none⟩, ⟨0, 4, 0, 3, 0, none⟩] } whole).1 (by simp)
  have sorted : [(⟨1, 2, 0, 0, 0, none⟩ : Mapping), ⟨0, 4, 0, 3, 0, none⟩].mergeSort Mapping.before
      = [⟨0, 4, 0, 3, 0, none⟩, ⟨1, 2, 0, 0, 0, none⟩] := by simp [List.mergeSort, Mapping.before_iff]
  rw [moved, encodedMappings, sorted]
  decide +kernel

end SourceMap

end StyleBuild
