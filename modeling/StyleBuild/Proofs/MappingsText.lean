import StyleBuild.Proofs.Vlq
import StyleBuild.SourceMap
import StyleBuild.Text.Split

/-!
# Reading the mappings of a source map

`SourceMap.decodeMappings` reads a `mappings` text by the rules of the format: semicolons end the lines of
the generated text and commas divide the segments of a line, a segment is four or five differences, the
generated column starts anew on each line and all else is carried on. Read back, the text of a map is its
mappings in the order of their generated positions, those of one position in the order they came in.
-/

set_option autoImplicit false

namespace StyleBuild

namespace SourceMap

/-! ## The reader -/

/-- What the differences of the next segment are added to. -/
structure Totals where
  column : Nat := 0
  source : Nat := 0
  sourceLine : Nat := 0
  sourceColumn : Nat := 0
  name : Nat := 0

/-- A total after a difference, which must not lead below zero. -/
def advance (total : Nat) (difference : Int) : Option Nat := (total + difference).toNat?

/-- The name of a segment from what follows its four positions, and the total of names after it. -/
def readName (total : Nat) : List Int → Option (Option Nat × Nat)
  | [] => some (none, total)
  | [n] => (advance total n).map fun name => (some name, name)
  | _ => none

def readFields (line : Nat) (t : Totals) : List Int → Option (Mapping × Totals)
  | c :: s :: l :: k :: named => do
    let column ← advance t.column c
    let source ← advance t.source s
    let sourceLine ← advance t.sourceLine l
    let sourceColumn ← advance t.sourceColumn k
    let (nameIndex, name) ← readName t.name named
    some (⟨line, column, source, sourceLine, sourceColumn, nameIndex⟩,
      ⟨column, source, sourceLine, sourceColumn, name⟩)
  | _ => none

def readSegments (line : Nat) (t : Totals) : List (List Char) → Option (List Mapping × Totals)
  | [] => some ([], t)
  | text :: rest => do
    let fields ← Vlq.decode text
    let (m, t) ← readFields line t fields
    let (ms, t) ← readSegments line t rest
    some (m :: ms, t)

/-- The segments of a line; a line without text has none. -/
def segmentsOf (text : List Char) : List (List Char) :=
  if text = [] then [] else Text.splitAtChar ',' text

def readLines (line : Nat) (t : Totals) : List (List Char) → Option (List Mapping)
  | [] => some []
  | text :: rest => do
    let (ms, t) ← readSegments line { t with column := 0 } (segmentsOf text)
    let more ← readLines (line + 1) t rest
    some (ms ++ more)

def decodeMappings (text : List Char) : Option (List Mapping) :=
  readLines 0 {} (Text.splitAtChar ';' text)

/-! ## One segment -/

def Previous.totals (p : Previous) : Totals :=
  ⟨p.column, p.source, p.sourceLine, p.sourceColumn, p.name⟩

theorem advance_sub (a b : Nat) : advance b ((a : Int) - b) = some a := by
  have sum : (b : Int) + (a - b) = a := by omega
  rw [advance, sum]
  rfl

theorem decode_delta_append (a b : Nat) (rest : List Char) :
    Vlq.decode (delta a b ++ rest) = (Vlq.decode rest).map (((a : Int) - b) :: ·) :=
  Vlq.decode_encode_append _ rest

/-- The differences that a segment writes. -/
def fields (p : Previous) (m : Mapping) : List Int :=
  (m.generatedColumn - p.column : Int) :: (m.sourceIndex - p.source : Int)
    :: (m.sourceLine - p.sourceLine : Int) :: (m.sourceColumn - p.sourceColumn : Int)
    :: match m.nameIndex with
      | some n => [(n - p.name : Int)]
      | none => []

theorem decode_segment (p : Previous) (m : Mapping) :
    Vlq.decode (segment p m) = some (fields p m) := by
  unfold segment fields
  simp only [List.append_assoc, decode_delta_append]
  cases m.nameIndex with
  | none => rfl
  | some n =>
    have last := decode_delta_append n p.name []
    rw [List.append_nil] at last
    simp only [last]
    rfl

theorem readFields_fields (p : Previous) (m : Mapping) :
    readFields m.generatedLine p.totals (fields p m) = some (m, (p.after m).totals) := by
  obtain ⟨line, column, source, sourceLine, sourceColumn, name⟩ := m
  cases name with
  | none =>
    simp only [fields, readFields, Previous.totals, advance_sub, readName, Option.bind_eq_bind,
      Option.bind_some]
    rfl
  | some n =>
    simp only [fields, readFields, Previous.totals, advance_sub, readName, Option.bind_eq_bind,
      Option.bind_some, Option.map_some]
    rfl

theorem mem_alphabet_of_mem_segment {p : Previous} {m : Mapping} {c : Char}
    (there : c ∈ segment p m) : c ∈ Vlq.alphabet := by
  unfold segment delta at there
  simp only [List.mem_append] at there
  rcases there with (((there | there) | there) | there) | there
  · exact Vlq.mem_alphabet_of_mem_encode there
  · exact Vlq.mem_alphabet_of_mem_encode there
  · exact Vlq.mem_alphabet_of_mem_encode there
  · exact Vlq.mem_alphabet_of_mem_encode there
  · cases named : m.nameIndex with
    | none => simp [named] at there
    | some n =>
      rw [named] at there
      exact Vlq.mem_alphabet_of_mem_encode there

theorem semicolon_notMem_segment (p : Previous) (m : Mapping) : ';' ∉ segment p m := by
  intro there
  have outside : ';' ∉ Vlq.alphabet := by decide
  exact outside (mem_alphabet_of_mem_segment there)

theorem comma_notMem_segment (p : Previous) (m : Mapping) : ',' ∉ segment p m := by
  intro there
  have outside : ',' ∉ Vlq.alphabet := by decide
  exact outside (mem_alphabet_of_mem_segment there)

theorem segment_ne_nil (p : Previous) (m : Mapping) : segment p m ≠ [] := by
  intro empty
  have first : delta m.generatedColumn p.column = [] := by
    simp only [segment, List.append_eq_nil_iff] at empty
    exact empty.1.1.1.1
  exact Vlq.encode_ne_nil _ first

/-! ## The segments of a line -/

theorem segmentsOf_segment (p : Previous) (m : Mapping) : segmentsOf (segment p m) = [segment p m] := by
  rw [segmentsOf, if_neg (segment_ne_nil p m)]
  exact Text.splitAtChar_of_notMem (comma_notMem_segment p m)

theorem segmentsOf_append {text : List Char} (some_text : text ≠ []) (p : Previous) (m : Mapping) :
    segmentsOf (text ++ ',' :: segment p m) = segmentsOf text ++ [segment p m] := by
  have longer : text ++ ',' :: segment p m ≠ [] := by simp
  rw [segmentsOf, segmentsOf, if_neg longer, if_neg some_text, Text.splitAtChar_append_sep,
    Text.splitAtChar_of_notMem (comma_notMem_segment p m)]

theorem readSegments_append {line : Nat} {t u v : Totals} {xs ys : List (List Char)}
    {ms ns : List Mapping} (first : readSegments line t xs = some (ms, u))
    (second : readSegments line u ys = some (ns, v)) :
    readSegments line t (xs ++ ys) = some (ms ++ ns, v) := by
  induction xs generalizing t ms with
  | nil =>
    obtain ⟨rfl, rfl⟩ : [] = ms ∧ t = u := by simpa [readSegments] using first
    exact second
  | cons x xs ih =>
    simp only [readSegments, Option.bind_eq_bind, Option.bind_eq_some_iff] at first
    obtain ⟨fs, decoded, ⟨m, t'⟩, read, ⟨rest, u'⟩, more, result⟩ := first
    obtain ⟨rfl, rfl⟩ : m :: rest = ms ∧ u' = u := by simpa using result
    have tail := ih more
    simp [readSegments, decoded, read, tail]

theorem readSegments_segment (p : Previous) (m : Mapping) :
    readSegments m.generatedLine p.totals [segment p m] = some ([m], (p.after m).totals) := by
  simp [readSegments, decode_segment, readFields_fields]

/-- A line of the generated text as far as it is written: its text reads as mappings, from the totals at
the end of the line before, and leaves the totals that the next segment refers to. -/
structure Line (t : Totals) (text : List Char) (ms : List Mapping) (p : Previous) : Prop where
  plain : ';' ∉ text
  reads : readSegments p.line { t with column := 0 } (segmentsOf text) = some (ms, p.totals)

theorem Line.start (p : Previous) (m : Mapping) :
    Line p.totals (segment { p with column := 0 } m) [m] (p.after m) where
  plain := semicolon_notMem_segment _ m
  reads := by
    rw [segmentsOf_segment]
    exact readSegments_segment { p with column := 0 } m

theorem Line.extend {t : Totals} {text : List Char} {ms : List Mapping} {p : Previous}
    (line : Line t text ms p) {m : Mapping} (here : m.generatedLine = p.line) :
    Line t (text ++ (if text.isEmpty then [] else [',']) ++ segment p m) (ms ++ [m])
      (p.after m) := by
  have appended : segmentsOf (text ++ (if text.isEmpty then [] else [',']) ++ segment p m) =
      segmentsOf text ++ [segment p m] := by
    by_cases empty : text = []
    · subst empty
      exact segmentsOf_segment p m
    · have filled : text.isEmpty = false := by simpa using empty
      rw [filled, ← segmentsOf_append empty p m]
      simp
  constructor
  · have separator : ';' ∉ (if text.isEmpty then [] else [',']) := by split <;> simp
    simp only [List.mem_append, not_or]
    exact ⟨⟨line.plain, separator⟩, semicolon_notMem_segment p m⟩
  · have last := readSegments_segment p m
    rw [appended]
    rw [here] at last
    have reads := readSegments_append line.reads last
    rw [← here] at reads
    exact reads

/-! ## The lines of a text -/

theorem readLines_column (line : Nat) (t : Totals) (texts : List (List Char)) :
    readLines line { t with column := 0 } texts = readLines line t texts := by
  cases texts <;> rfl

theorem readLines_skip (count line : Nat) (t : Totals) (texts : List (List Char)) :
    readLines line t (List.replicate count [] ++ texts) = readLines (line + count) t texts := by
  induction count generalizing line t with
  | zero => rfl
  | succ count ih =>
    have next : line + (count + 1) = line + 1 + count := by omega
    rw [List.replicate_succ, List.cons_append, next, ← readLines_column (line + 1 + count), ← ih]
    cases more : readLines (line + 1) { t with column := 0 } (List.replicate count [] ++ texts) with
    | none => simp [readLines, segmentsOf, readSegments, more]
    | some ms => simp [readLines, segmentsOf, readSegments, more]

theorem splitAtChar_semicolons {text : List Char} (plain : ';' ∉ text) (count : Nat)
    (rest : List Char) :
    Text.splitAtChar ';' (text ++ (List.replicate (count + 1) ';' ++ rest)) =
      text :: (List.replicate count [] ++ Text.splitAtChar ';' rest) := by
  induction count generalizing text with
  | zero =>
    simp [Text.splitAtChar_append_sep, Text.splitAtChar_of_notMem plain]
  | succ count ih =>
    have shorter := @ih [] (by simp)
    rw [List.nil_append] at shorter
    rw [List.replicate_succ, List.cons_append, Text.splitAtChar_append_sep,
      Text.splitAtChar_of_notMem plain, shorter]
    rfl

/-- Segments written from within a line on are read back. The induction goes along the mappings and
carries the line that is being written. -/
theorem readLines_writeSegments {t : Totals} {text : List Char} {ms rest : List Mapping}
    {p : Previous} (line : Line t text ms p)
    (below : ∀ m ∈ rest, p.line ≤ m.generatedLine)
    (ordered : rest.Pairwise fun a b => a.generatedLine ≤ b.generatedLine) :
    readLines p.line t (Text.splitAtChar ';' (text ++ writeSegments p (text.isEmpty) rest)) =
      some (ms ++ rest) := by
  induction rest generalizing t text ms p with
  | nil =>
    rw [writeSegments, List.append_nil, List.append_nil, Text.splitAtChar_of_notMem line.plain]
    simp [readLines, line.reads]
  | cons m rest ih =>
    obtain ⟨later, ordered⟩ := List.pairwise_cons.mp ordered
    have reached : p.line ≤ m.generatedLine := below m (by simp)
    by_cases ends : p.line < m.generatedLine
    · obtain ⟨skipped, gap⟩ : ∃ skipped, m.generatedLine - p.line = skipped + 1 :=
        ⟨m.generatedLine - p.line - 1, by omega⟩
      have next : p.line + 1 + skipped = m.generatedLine := by omega
      have filled : (segment { p with column := 0 } m).isEmpty = false := by
        simpa using segment_ne_nil { p with column := 0 } m
      have more := ih (Line.start p m) later ordered
      rw [filled] at more
      rw [writeSegments, if_pos ends, gap, List.append_assoc, splitAtChar_semicolons line.plain]
      simp only [readLines, line.reads, Option.bind_eq_bind, Option.bind_some, readLines_skip, next]
      have read : readLines m.generatedLine p.totals (Text.splitAtChar ';'
          (segment { p with column := 0 } m ++ writeSegments (p.after m) false rest)) =
          some ([m] ++ rest) := more
      rw [read]
      rfl
    · have here : m.generatedLine = p.line := by omega
      have filled : (text ++ (if text.isEmpty then [] else [',']) ++ segment p m).isEmpty = false := by
        simp [segment_ne_nil]
      have more := ih (line.extend here) later ordered
      rw [filled, List.append_assoc, List.append_assoc] at more
      rw [writeSegments, if_neg ends, List.append_assoc]
      have read : readLines m.generatedLine t _ = some (ms ++ [m] ++ rest) := more
      rw [here, List.append_assoc] at read
      exact read

end SourceMap

/-! ## The order of mappings -/

namespace Mapping

def standsAt (line column : Nat) (m : Mapping) : Bool :=
  m.generatedLine == line && m.generatedColumn == column

/-- The same mappings by generated position, those of one position in the order they came in. -/
structure SortedFrom (ms sorted : List Mapping) : Prop where
  perm : sorted.Perm ms
  ordered : sorted.Pairwise fun a b =>
    a.generatedLine < b.generatedLine ∨
      a.generatedLine = b.generatedLine ∧ a.generatedColumn ≤ b.generatedColumn
  stable : ∀ line column,
    sorted.filter (standsAt line column) = ms.filter (standsAt line column)

theorem before_iff (a b : Mapping) :
    a.before b = true ↔ a.generatedLine < b.generatedLine ∨
      a.generatedLine = b.generatedLine ∧ a.generatedColumn ≤ b.generatedColumn := by
  simp [before]

theorem before_trans (a b c : Mapping) (ab : a.before b = true) (bc : b.before c = true) :
    a.before c = true := by
  rw [before_iff] at ab bc ⊢
  omega

theorem before_total (a b : Mapping) : (a.before b || b.before a) = true := by
  rw [Bool.or_eq_true, before_iff, before_iff]
  omega

theorem standsAt_iff {line column : Nat} {m : Mapping} :
    m.standsAt line column = true ↔ m.generatedLine = line ∧ m.generatedColumn = column := by
  simp [standsAt]

theorem mergeSort_sortedFrom (ms : List Mapping) : SortedFrom ms (ms.mergeSort before) where
  perm := List.mergeSort_perm ms before
  ordered := (List.pairwise_mergeSort before_trans before_total ms).imp fun {a b} => (before_iff a b).mp
  stable := by
    intro line column
    have level : (ms.filter (standsAt line column)).Pairwise fun a b => a.before b = true := by
      rw [List.pairwise_iff_forall_sublist]
      intro a b pair
      have inA := List.mem_filter.mp (pair.subset (List.mem_cons_self))
      have inB := List.mem_filter.mp (pair.subset (List.mem_cons_of_mem a List.mem_cons_self))
      have atA := standsAt_iff.mp inA.2
      have atB := standsAt_iff.mp inB.2
      rw [before_iff]
      omega
    -- Mappings of one position are in order already, so sorting keeps them as a sublist.
    have kept := (List.sublist_mergeSort before_trans before_total level
      List.filter_sublist).filter (standsAt line column)
    simp only [List.filter_filter, Bool.and_self] at kept
    have count := ((List.mergeSort_perm ms before).filter (standsAt line column)).length_eq
    exact (kept.eq_of_length count.symm).symm

/-- Two lists with the same mappings at each position. -/
def SamePlaces (as bs : List Mapping) : Prop :=
  ∀ line column, as.filter (standsAt line column) = bs.filter (standsAt line column)

namespace SamePlaces

variable {as bs : List Mapping} {a b : Mapping}

theorem symm (same : SamePlaces as bs) : SamePlaces bs as :=
  fun line column => (same line column).symm

theorem mem (same : SamePlaces as bs) (there : a ∈ as) : a ∈ bs := by
  have standing : a ∈ as.filter (standsAt a.generatedLine a.generatedColumn) :=
    List.mem_filter.mpr ⟨there, standsAt_iff.mpr ⟨rfl, rfl⟩⟩
  rw [same] at standing
  exact (List.mem_filter.mp standing).1

theorem tail (same : SamePlaces (a :: as) (a :: bs)) : SamePlaces as bs := by
  intro line column
  have whole := same line column
  by_cases stands : a.standsAt line column = true
  · rw [List.filter_cons_of_pos stands, List.filter_cons_of_pos stands] at whole
    exact (List.cons.inj whole).2
  · rw [List.filter_cons_of_neg stands, List.filter_cons_of_neg stands] at whole
    exact whole

theorem head (same : SamePlaces (a :: as) (b :: bs)) (leastA : ∀ m ∈ as, a.before m = true)
    (leastB : ∀ m ∈ bs, b.before m = true) : a = b := by
  rcases List.mem_cons.mp (same.mem List.mem_cons_self) with found | inB
  · exact found
  rcases List.mem_cons.mp (same.symm.mem List.mem_cons_self) with found | inA
  · exact found.symm
  have ab := (before_iff a b).mp (leastA b inA)
  have ba := (before_iff b a).mp (leastB a inB)
  have atA : a.standsAt a.generatedLine a.generatedColumn = true := standsAt_iff.mpr ⟨rfl, rfl⟩
  have atB : b.standsAt a.generatedLine a.generatedColumn = true := standsAt_iff.mpr (by omega)
  have heads := same a.generatedLine a.generatedColumn
  rw [List.filter_cons_of_pos atA, List.filter_cons_of_pos atB] at heads
  exact (List.cons.inj heads).1

/-- In order, such lists are one list: both start with a mapping of the least position, and with the
first one there. -/
theorem eq_of_ordered (same : SamePlaces as bs)
    (orderedA : as.Pairwise fun a b => a.before b = true)
    (orderedB : bs.Pairwise fun a b => a.before b = true) : as = bs := by
  induction as generalizing bs with
  | nil =>
    cases bs with
    | nil => rfl
    | cons b bs => simpa using same.symm.mem (List.mem_cons_self (a := b) (l := bs))
  | cons a as ih =>
    cases bs with
    | nil => simpa using same.mem (List.mem_cons_self (a := a) (l := as))
    | cons b bs =>
      obtain ⟨leastA, laterA⟩ := List.pairwise_cons.mp orderedA
      obtain ⟨leastB, laterB⟩ := List.pairwise_cons.mp orderedB
      obtain rfl := same.head leastA leastB
      rw [ih same.tail laterA laterB]

end SamePlaces

theorem SortedFrom.eq_mergeSort {ms sorted : List Mapping} (from_ms : SortedFrom ms sorted) :
    sorted = ms.mergeSort before := by
  have merged := mergeSort_sortedFrom ms
  have same : SamePlaces sorted (ms.mergeSort before) := by
    intro line column
    rw [from_ms.stable, merged.stable]
  apply same.eq_of_ordered
  · exact from_ms.ordered.imp fun {a b} => (before_iff a b).mpr
  · exact List.pairwise_mergeSort before_trans before_total ms

end Mapping

/-! ## The text of a map -/

namespace SourceMap

/-- The text of a map reads as one list, and that is the only one sorted from its mappings. -/
theorem decodeMappings_encodedMappings (m : SourceMap) :
    ∃ sorted, decodeMappings m.encodedMappings = some sorted ∧
      ∀ ms, Mapping.SortedFrom m.mappings ms ↔ ms = sorted := by
  refine ⟨m.mappings.mergeSort Mapping.before, ?_, ?_⟩
  · have nothing : Line {} [] [] {} := ⟨by simp, rfl⟩
    have ordered := (Mapping.mergeSort_sortedFrom m.mappings).ordered
    have lines : (m.mappings.mergeSort Mapping.before).Pairwise fun a b =>
        a.generatedLine ≤ b.generatedLine := by
      apply ordered.imp
      intro a b positions
      omega
    exact readLines_writeSegments nothing (fun m _ => Nat.zero_le m.generatedLine) lines
  · intro ms
    constructor
    · exact Mapping.SortedFrom.eq_mergeSort
    · rintro rfl
      exact Mapping.mergeSort_sortedFrom m.mappings

example : decodeMappings "AAEA,EAAAA;;CAACC".toList =
    some [⟨0, 0, 0, 2, 0, none⟩, ⟨0, 2, 0, 2, 0, some 0⟩, ⟨2, 1, 0, 2, 1, some 1⟩] := by decide +kernel

end SourceMap

end StyleBuild
