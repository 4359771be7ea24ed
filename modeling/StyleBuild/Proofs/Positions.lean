import Mathlib.Data.List.Forall2
import Mathlib.Data.List.Induction
import StyleBuild.Compile.Assemble

/-!
# Positions in a generated text

A position is found by reading a text up to it: a line end starts the next line, any other character takes
one column. Where two texts are joined, positions of the second move by the end of the first, those on its
first line to the right as well. This is how a source map follows the charset marker in front of a text, and
why texts put in front of each other move it as their concatenation does.
-/

set_option autoImplicit false

namespace StyleBuild

structure Position where
  line : Nat
  column : Nat
  deriving DecidableEq, Repr

namespace Position

def past (p : Position) (c : Char) : Position :=
  if c = '\n' then ⟨p.line + 1, 0⟩ else ⟨p.line, p.column + 1⟩

def endOf (text : List Char) : Position := text.foldl past ⟨0, 0⟩

/-- A position of a text once the text stands behind another one, which ends at `front`. -/
def behind (front p : Position) : Position :=
  ⟨front.line + p.line, if p.line = 0 then front.column + p.column else p.column⟩

theorem endOf_concat (text : List Char) (c : Char) : endOf (text ++ [c]) = (endOf text).past c := by
  simp [endOf]

theorem behind_past (front p : Position) (c : Char) :
    behind front (p.past c) = (behind front p).past c := by
  by_cases ends : c = '\n'
  · simp [past, behind, ends]
    omega
  · by_cases first : p.line = 0
    · simp [past, behind, ends, first]
      omega
    · simp [past, behind, ends, first]

theorem behind_behind (first second p : Position) :
    behind first (behind second p) = behind (behind first second) p := by
  -- the columns of the first text reach a position only through first lines
  by_cases joined : second.line = 0
  · by_cases top : p.line = 0
    · simp [behind, joined, top, Nat.add_assoc]
    · simp [behind, joined, top]
  · by_cases top : p.line = 0
    · simp [behind, joined, top]
    · simp [behind, joined, top, Nat.add_assoc]

theorem endOf_append (front text : List Char) :
    endOf (front ++ text) = behind (endOf front) (endOf text) := by
  -- the text grows at its end, where both sides take the same step
  induction text using List.reverseRecOn with
  | nil => simp [endOf, behind]
  | append_singleton text c ih =>
    rw [← List.append_assoc, endOf_concat, ih, endOf_concat, behind_past]

theorem endOf_eq (text : List Char) :
    endOf text = ⟨text.count '\n', (text.reverse.takeWhile (· != '\n')).length⟩ := by
  induction text using List.reverseRecOn with
  | nil => rfl
  | append_singleton text c ih =>
    rw [endOf_concat, ih]
    by_cases ends : c = '\n'
    · simp [past, ends]
    · simp [past, ends]

theorem endOf_eq_start {text : List Char} : endOf text = ⟨0, 0⟩ ↔ text = [] := by
  constructor
  · intro start
    -- the last character of a text ends a line or takes a column
    rcases List.eq_nil_or_concat' text with none | ⟨before, c, rfl⟩
    · exact none
    · exfalso
      rw [endOf_concat, past] at start
      split at start
      · cases congrArg line start
      · cases congrArg column start
  · rintro rfl
    rfl

end Position

namespace Mapping

def position (m : Mapping) : Position := ⟨m.generatedLine, m.generatedColumn⟩

/-- The mapping at another position of the generated text. -/
def movedTo (m : Mapping) (p : Position) : Mapping :=
  { m with generatedLine := p.line, generatedColumn := p.column }

@[simp] theorem position_movedTo (m : Mapping) (p : Position) : (m.movedTo p).position = p := rfl

theorem shift_eq_movedTo (m : Mapping) (front : Position) :
    m.shift front.line front.column = m.movedTo (front.behind m.position) := by
  by_cases first : m.generatedLine = 0
  · simp [shift, movedTo, position, Position.behind, first, Nat.add_comm]
  · simp [shift, movedTo, position, Position.behind, first, Nat.add_comm]

end Mapping

namespace SourceMap

/-- What of a text takes columns. -/
def visible (text : List Char) : List Char := text.filter (· != byteOrderMark)

theorem displacement_eq (front : List Char) :
    displacement front
      = ((Position.endOf (visible front)).line, (Position.endOf (visible front)).column) := by
  rw [Position.endOf_eq]
  rfl

theorem mappings_withFront (m : SourceMap) (front : List Char) :
    (m.withFront front).mappings
      = m.mappings.map fun p => p.movedTo ((Position.endOf (visible front)).behind p.position) := by
  simp only [withFront, displacement_eq]
  exact List.map_congr_left fun p _ => p.shift_eq_movedTo _

theorem withFront_eq_of_mappings {m : SourceMap} {front : List Char} {mappings : List Mapping}
    (moved : (m.withFront front).mappings = mappings) : m.withFront front = { m with mappings } := by
  rw [← moved]
  rfl

theorem withFront_withFront (m : SourceMap) (front text : List Char) :
    (m.withFront text).withFront front = m.withFront (front ++ text) := by
  have joined : ((m.withFront text).withFront front).mappings
      = (m.withFront (front ++ text)).mappings := by
    simp only [mappings_withFront, List.map_map]
    refine List.map_congr_left fun p _ => ?_
    simp only [Function.comp_apply, Mapping.position_movedTo, visible, List.filter_append,
      Position.endOf_append, Position.behind_behind]
    rfl
  exact withFront_eq_of_mappings joined

theorem visible_eq_nil {text : List Char} : visible text = [] ↔ ∀ c ∈ text, c = byteOrderMark := by
  simp [visible, List.filter_eq_nil_iff]

theorem withFront_of_invisible {front : List Char} (invisible : visible front = []) (m : SourceMap) :
    m.withFront front = m := by
  have kept : (m.withFront front).mappings = m.mappings := by
    rw [mappings_withFront, invisible]
    refine (List.map_congr_left fun p _ => ?_).trans m.mappings.map_id
    simp [Position.endOf, Position.behind, Mapping.movedTo, Mapping.position]
  exact withFront_eq_of_mappings kept

/-- A mapping at the start shows where a text in front of it ends. -/
theorem invisible_of_withFront {front : List Char}
    (kept : withFront { mappings := [⟨0, 0, 0, 0, 0, none⟩] } front
      = { mappings := [⟨0, 0, 0, 0, 0, none⟩] }) : visible front = [] := by
  have positions := congrArg (fun m : SourceMap => m.mappings.map Mapping.position) kept
  simp only [mappings_withFront, List.map_cons, List.map_nil, Mapping.position_movedTo,
    List.cons.injEq, and_true] at positions
  have ends : Position.endOf (visible front) = ⟨0, 0⟩ := positions
  exact Position.endOf_eq_start.mp ends

/-- Texts in front of a map act on it as their concatenation does, and those that leave every map as it is
are just the ones of byte-order marks. -/
theorem withFront_acts :
    (∀ (m : SourceMap) (front text : List Char),
      (m.withFront text).withFront front = m.withFront (front ++ text)) ∧
    ∀ front : List Char, (∀ m : SourceMap, m.withFront front = m) ↔ ∀ c ∈ front, c = byteOrderMark := by
  refine ⟨withFront_withFront, fun front => ?_⟩
  rw [← visible_eq_nil]
  constructor
  · intro kept
    exact invisible_of_withFront (kept _)
  · exact withFront_of_invisible

theorem withFront_acts_on_column :
    (∀ c ∈ [byteOrderMark, byteOrderMark], c = byteOrderMark) ∧
    withFront { mappings := [⟨0, 3, 0, 4, 2, none⟩] } [byteOrderMark, byteOrderMark]
        = { mappings := [⟨0, 3, 0, 4, 2, none⟩] } ∧
      (withFront { mappings := [⟨0, 3, 0, 4, 2, none⟩] } "\nab".toList).withFront "c".toList
        = { mappings := [⟨1, 5, 0, 4, 2, none⟩] } := by
  have marks : ∀ c ∈ [byteOrderMark, byteOrderMark], c = byteOrderMark := by simp
  refine ⟨marks, (withFront_acts.2 _).mpr marks _, ?_⟩
  rw [withFront_acts.1]
  decide

end SourceMap

namespace Assemble

theorem marker_ne_empty (css : String) (style : Style) (charset : Bool) :
    marker css style charset ≠ "" ↔ charset = true ∧ ∃ c ∈ css.toList, 128 ≤ c.toNat := by
  have ascii : css.toList.all Url.isAscii = false ↔ ∃ c ∈ css.toList, 128 ≤ c.toNat := by
    simp [Url.isAscii]
  rw [← ascii]
  unfold marker
  cases charset with
  | false => simp
  | true =>
    cases plain : css.toList.all Url.isAscii with
    | true => simp
    | false => cases style <;> simp

theorem positions_behind_marker (css : String) (style : Style) (charset : Bool)
    (loaded : List String) (built : SourceMap) :
    ∃ moved : SourceMap,
      result css (some (.ok built)) style charset true loaded
          = (.ok ⟨marker css style charset ++ css, some moved, loaded⟩, []) ∧
        List.Forall₂
          (fun m m' : Mapping =>
            m' = m.movedTo m'.position ∧
              ∀ u v : String, css = u ++ v → m.position = Position.endOf u.toList →
                m'.position = Position.endOf
                  (SourceMap.visible (marker css style charset).toList ++ u.toList))
          built.mappings moved.mappings ∧
        moved = { built with mappings := moved.mappings, targetUrl := none } ∧
        (marker css style charset ≠ "" ↔ charset = true ∧ ∃ c ∈ css.toList, 128 ≤ c.toNat) := by
  let front := (marker css style charset).toList
  refine ⟨{ built.withFront front with targetUrl := none }, rfl, ?_, rfl,
    marker_ne_empty css style charset⟩
  simp only [SourceMap.mappings_withFront, List.forall₂_map_right_iff, List.forall₂_same]
  intro m _
  refine ⟨rfl, ?_⟩
  intro u v _ there
  rw [Mapping.position_movedTo, Position.endOf_append, there]

theorem positions_behind_declaration :
    ∃ moved : SourceMap,
      result "é {}" (some (.ok { mappings := [⟨0, 1, 0, 4, 2, none⟩] })) .expanded true true []
          = (.ok ⟨"@charset \"UTF-8\";\né {}", some moved, []⟩, []) ∧
        moved.mappings = [⟨1, 1, 0, 4, 2, none⟩] := by
  obtain ⟨moved, assembled, pairs, -, -⟩ := positions_behind_marker "é {}" .expanded true []
    { mappings := [⟨0, 1, 0, 4, 2, none⟩] }
  refine ⟨moved, assembled, ?_⟩
  obtain ⟨m, rest, ⟨kept, there⟩, nothing, shape⟩ := List.forall₂_cons_left_iff.1 pairs
  rw [shape, List.forall₂_nil_left_iff.1 nothing, kept, there "é" " {}" (by decide) (by decide)]
  decide

end Assemble

end StyleBuild
