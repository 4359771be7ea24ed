import StyleBuild.Dialect

/-!
# Paths as texts

A path that was read from a text is read from its own text again, and percent decoding leaves a text alone
in which no two hexadecimal digits follow a percent sign.
-/

set_option autoImplicit false

namespace StyleBuild

namespace Text

theorem notMem_of_mem_splitAtChar {sep : Char} {cs part : List Char}
    (there : part ∈ splitAtChar sep cs) : sep ∉ part := by
  induction cs generalizing part with
  | nil =>
    rw [splitAtChar, List.mem_singleton] at there
    simp [there]
  | cons c rest ih =>
    obtain ⟨first, parts, split⟩ := List.exists_cons_of_ne_nil (splitAtChar_ne_nil sep rest)
    have without : ∀ part ∈ first :: parts, sep ∉ part := by
      intro part there
      exact ih (split ▸ there)
    by_cases cut : c = sep
    · simp only [splitAtChar, split, cut, if_true, List.mem_cons] at there
      rcases there with rfl | there
      · simp
      · exact without part (List.mem_cons.mpr there)
    · simp only [splitAtChar, split, cut, if_false, List.mem_cons] at there
      rcases there with rfl | there
      · have first_without := without first List.mem_cons_self
        simp [first_without, Ne.symm cut]
      · exact without part (List.mem_cons_of_mem _ there)

theorem splitAtChar_intercalate {sep : Char} {parts : List (List Char)} (some_there : parts ≠ [])
    (absent : ∀ part ∈ parts, sep ∉ part) : splitAtChar sep ([sep].intercalate parts) = parts := by
  induction parts with
  | nil => exact absurd rfl some_there
  | cons part rest ih =>
    have here := absent part List.mem_cons_self
    by_cases last : rest = []
    · rw [last, List.intercalate_singleton, splitAtChar_of_notMem here]
    · have later := ih last fun p there => absent p (List.mem_cons_of_mem _ there)
      rw [List.intercalate_cons_of_ne_nil last, List.append_assoc, List.singleton_append,
        splitAtChar_append_sep, splitAtChar_of_notMem here, later, List.singleton_append]

theorem mem_of_holds {run cs : List Char} (found : holds run cs = true) {c : Char}
    (there : c ∈ run) : c ∈ cs := by
  induction cs with
  | nil =>
    rw [holds, List.isEmpty_iff] at found
    simp [found] at there
  | cons d rest ih =>
    rw [holds, Bool.or_eq_true] at found
    rcases found with front | later
    · exact (List.isPrefixOf_iff_prefix.mp front).subset there
    · exact List.mem_cons_of_mem _ (ih later)

end Text

/-! ## Segments -/

namespace Path

structure Segment (w : String) : Prop where
  nonempty : w ≠ ""
  moving : w ≠ "."
  whole : '/' ∉ w.toList

/-- A path as texts stand for it. -/
structure Regular (p : Path) : Prop where
  slashes : p.slashes ≤ 2
  segments : ∀ w ∈ p.parts, Segment w

theorem segment_of_mem {cs : List Char} {w : String} (there : w ∈ segments cs) : Segment w := by
  rw [segments, List.mem_map] at there
  obtain ⟨part, kept, rfl⟩ := there
  rw [List.mem_filter, Bool.and_eq_true, bne_iff_ne, bne_iff_ne] at kept
  obtain ⟨cut, nonempty, moving⟩ := kept
  refine ⟨?_, ?_, ?_⟩
  · simpa using nonempty
  · intro point
    exact moving (by simpa using congrArg String.toList point)
  · rw [String.toList_ofList]
    exact Text.notMem_of_mem_splitAtChar cut

theorem regular_ofText (s : String) : (ofText s).Regular where
  slashes := by
    dsimp only [ofText]
    split <;> omega
  segments w there := segment_of_mem there

theorem Regular.parent {p : Path} (regular : p.Regular) : p.parent.Regular :=
  ⟨regular.slashes, fun w there => regular.segments w (List.dropLast_subset p.parts there)⟩

theorem Regular.join {p q : Path} (outer : p.Regular) (inner : q.Regular) : (p / q).Regular := by
  show (Path.join p q).Regular
  unfold Path.join
  split
  · exact inner
  · refine ⟨outer.slashes, fun w there => ?_⟩
    rcases List.mem_append.mp there with above | below
    · exact outer.segments w above
    · exact inner.segments w below

theorem regular_singleton {w : String} (segment : Segment w) : Regular ⟨0, [w]⟩ :=
  ⟨Nat.zero_le 2, by simpa using segment⟩

theorem name_mem {p : Path} (some_there : p.parts ≠ []) : p.name ∈ p.parts := by
  rw [Path.name, List.getLast?_eq_some_getLast some_there, Option.getD_some]
  exact List.getLast_mem some_there

theorem Regular.name_ne_empty {p : Path} (regular : p.Regular) (some_there : p.parts ≠ []) : p.name ≠ "" :=
  (regular.segments _ (name_mem some_there)).nonempty

theorem segments_slash (cs : List Char) : segments ('/' :: cs) = segments cs := by
  have cut : Text.splitAtChar '/' ('/' :: cs) = [] :: Text.splitAtChar '/' cs :=
    Text.splitAtChar_append_sep '/' [] cs
  simp [segments, cut]

theorem segments_slashes (n : Nat) (cs : List Char) :
    segments (List.replicate n '/' ++ cs) = segments cs := by
  induction n with
  | zero => rfl
  | succ n ih => rw [List.replicate_succ, List.cons_append, segments_slash, ih]

theorem segments_intercalate {parts : List String} (regular : ∀ w ∈ parts, Segment w) :
    segments (['/'].intercalate (parts.map String.toList)) = parts := by
  by_cases none_there : parts = []
  · rw [none_there]
    rfl
  · have cut : Text.splitAtChar '/' (['/'].intercalate (parts.map String.toList))
        = parts.map String.toList := by
      refine Text.splitAtChar_intercalate (by simpa using none_there) ?_
      intro part there
      obtain ⟨w, listed, rfl⟩ := List.mem_map.mp there
      exact (regular w listed).whole
    have kept : (parts.map String.toList).filter (fun s => s != [] && s != ['.'])
        = parts.map String.toList := by
      refine List.filter_eq_self.mpr ?_
      intro part there
      obtain ⟨w, listed, rfl⟩ := List.mem_map.mp there
      have nonempty : w.toList ≠ [] := by
        simpa using (regular w listed).nonempty
      have moving : w.toList ≠ ['.'] := by
        intro point
        exact (regular w listed).moving (String.toList_injective point)
      simp [nonempty, moving]
    rw [segments, cut, kept]
    simp

theorem head_intercalate {parts : List String} (regular : ∀ w ∈ parts, Segment w) :
    (['/'].intercalate (parts.map String.toList)).takeWhile (· == '/') = [] := by
  cases parts with
  | nil => rfl
  | cons w rest =>
    have segment := regular w List.mem_cons_self
    obtain ⟨c, cs, text⟩ := List.exists_cons_of_ne_nil
      (show w.toList ≠ [] by simpa using segment.nonempty)
    have other : c ≠ '/' := by
      rintro rfl
      exact segment.whole (text ▸ List.mem_cons_self)
    cases rest with
    | nil => simp [text, other]
    | cons next rest => simp [text, other, List.intercalate_cons_cons]

theorem ofText_toText {p : Path} (regular : p.Regular) : ofText p.toText = p := by
  obtain ⟨slashes, parts⟩ := p
  by_cases empty : slashes = 0 ∧ parts = []
  · obtain ⟨rfl, rfl⟩ := empty
    decide
  · have text : (toText ⟨slashes, parts⟩).toList
        = List.replicate slashes '/' ++ ['/'].intercalate (parts.map String.toList) := by
      simp [toText, empty, String.toList_intercalate]
    have leading : ((toText ⟨slashes, parts⟩).toList.takeWhile (· == '/')).length = slashes := by
      rw [text, List.takeWhile_append_of_pos (by simp), head_intercalate regular.segments]
      simp
    have small : slashes ≤ 2 := regular.slashes
    simp only [ofText, leading, small, if_true, mk.injEq, true_and]
    rw [text, segments_slashes, segments_intercalate regular.segments]

/-! ## Suffixes -/

theorem takeWhile_pointless {e : List Char} (pointless : '.' ∉ e) (before : List Char) :
    (e.reverse ++ before).takeWhile (· != '.') = e.reverse ++ before.takeWhile (· != '.') := by
  refine List.takeWhile_append_of_pos fun c there => ?_
  rw [bne_iff_ne]
  rintro rfl
  exact pointless (List.mem_reverse.mp there)

theorem suffixOf_of_pointless {cs : List Char} (pointless : '.' ∉ cs) : suffixOf cs = [] := by
  have whole := takeWhile_pointless pointless []
  rw [List.takeWhile_nil, List.append_nil] at whole
  simp [suffixOf, whole]

/-- The last point of a name starts a suffix unless it is at either end. -/
theorem suffixOf_point {stem e : List Char} (pointless : '.' ∉ e) :
    suffixOf (stem ++ '.' :: e) = if stem = [] ∨ e = [] then [] else '.' :: e := by
  have tail : (stem ++ '.' :: e).reverse.takeWhile (· != '.') = e.reverse := by
    rw [List.reverse_append, List.reverse_cons, List.append_assoc, takeWhile_pointless pointless]
    simp
  have short : e.reverse.isEmpty = true ∨ (stem ++ '.' :: e).length ≤ e.reverse.length + 1 ↔
      stem = [] ∨ e = [] := by
    rw [List.isEmpty_reverse, List.isEmpty_iff, List.length_append, List.length_cons, List.length_reverse,
      ← List.length_eq_zero_iff (l := stem), or_comm]
    exact or_congr (by omega) Iff.rfl
  simp only [suffixOf, tail, short, List.reverse_reverse]

theorem suffixOf_append {stem e : List Char} (named : stem ≠ []) (some_there : e ≠ [])
    (pointless : '.' ∉ e) : suffixOf (stem ++ '.' :: e) = '.' :: e := by
  rw [suffixOf_point pointless, if_neg (not_or.mpr ⟨named, some_there⟩)]

theorem suffixOf_cons (c : Char) {cs : List Char} (shown : suffixOf cs ≠ []) :
    suffixOf (c :: cs) = suffixOf cs := by
  unfold suffixOf at shown ⊢
  dsimp only at shown ⊢
  split at shown
  · exact absurd rfl shown
  · next long =>
    rw [not_or, Nat.not_le] at long
    have tail : (c :: cs).reverse.takeWhile (· != '.') = cs.reverse.takeWhile (· != '.') := by
      rw [List.reverse_cons, List.takeWhile_append, if_neg]
      rw [List.length_reverse]
      omega
    have longer : ¬ ((cs.reverse.takeWhile (· != '.')).isEmpty = true ∨
        (c :: cs).length ≤ (cs.reverse.takeWhile (· != '.')).length + 1) := by
      rw [not_or, Nat.not_le, List.length_cons]
      exact ⟨long.1, by omega⟩
    rw [tail, if_neg longer, if_neg (not_or.mpr ⟨long.1, Nat.not_le.mpr long.2⟩)]

end Path

/-! ## Octets of ASCII -/

namespace Text.Utf8

theorem step_ascii {c : Char} (small : c.toNat < 128) (rest : List UInt8) :
    step (UInt8.ofNat c.toNat) rest = .char c 0 := by
  have octet : (UInt8.ofNat c.toNat).toNat = c.toNat := by
    rw [UInt8.toNat_ofNat']
    omega
  have low : UInt8.ofNat c.toNat < 0x80 := by
    rw [UInt8.lt_iff_toNat_lt, octet]
    exact small
  simp only [step, low, if_true, octet, Char.ofNat_toNat]

theorem utf8EncodeChar_ascii {c : Char} (small : c.toNat < 128) :
    String.utf8EncodeChar c = [UInt8.ofNat c.toNat] := by
  have short : c.val.toNat ≤ 127 := Nat.le_of_lt_succ small
  rw [String.utf8EncodeChar, if_pos short]
  rfl

theorem decodeFrom_encode {cs : List Char} (ascii : ∀ c ∈ cs, c.toNat < 128) (offset : Nat) :
    decodeFrom offset (encode cs) = .ok cs := by
  induction cs generalizing offset with
  | nil => rw [encode, List.flatMap_nil, decodeFrom]
  | cons c rest ih =>
    have small := ascii c List.mem_cons_self
    have later := ih (fun d there => ascii d (List.mem_cons_of_mem _ there)) (offset + 0 + 1)
    have encoded : encode (c :: rest) = UInt8.ofNat c.toNat :: encode rest := by
      rw [encode, List.flatMap_cons, utf8EncodeChar_ascii small, encode]
      rfl
    rw [encoded, decodeFrom, step_ascii small]
    simp only [List.drop_zero, later]
    rfl

end Text.Utf8

/-! ## Percent signs -/

namespace Url

def Unescaped (cs : List Char) : Prop :=
  ∀ before a b after, cs = before ++ '%' :: a :: b :: after →
    Json.hexDigit? a = none ∨ Json.hexDigit? b = none

theorem unescaped_of_notMem {cs : List Char} (absent : '%' ∉ cs) : Unescaped cs := by
  rintro before a b after rfl
  simp at absent

theorem Unescaped.left {cs ds : List Char} (unescaped : Unescaped (cs ++ ds)) : Unescaped cs := by
  rintro before a b after rfl
  exact unescaped before a b (after ++ ds) (by simp)

theorem Unescaped.right {cs ds : List Char} (unescaped : Unescaped (cs ++ ds)) : Unescaped ds := by
  rintro before a b after rfl
  exact unescaped (cs ++ before) a b after (by simp)

theorem Unescaped.tail {c : Char} {cs : List Char} (unescaped : Unescaped (c :: cs)) :
    Unescaped cs := by
  rintro before a b after rfl
  exact unescaped (c :: before) a b after rfl

theorem unescape_of_unescaped {cs : List Char} (unescaped : Unescaped cs) :
    unescape cs = cs.map fun c => UInt8.ofNat c.toNat := by
  fun_induction unescape cs with
  | case1 a b rest x y low high ih =>
    rcases unescaped [] a b rest rfl with none_there | none_there
    · rw [none_there] at high
      cases high
    · rw [none_there] at low
      cases low
  | case2 a b rest _ ih =>
    rw [ih unescaped.tail]
    rfl
  | case3 c rest _ ih => rw [ih unescaped.tail, List.map_cons]
  | case4 => rfl

theorem decodeLossy_ascii {cs : List Char} (ascii : ∀ c ∈ cs, isAscii c = true) :
    Text.Utf8.decodeLossy (cs.map fun c => UInt8.ofNat c.toNat) = cs := by
  induction cs with
  | nil => simp [Text.Utf8.decodeLossy]
  | cons c rest ih =>
    have small : c.toNat < 128 := by
      simpa [isAscii] using ascii c List.mem_cons_self
    rw [List.map_cons, Text.Utf8.decodeLossy, Text.Utf8.step_ascii small]
    simp only [List.drop_zero]
    rw [ih fun d there => ascii d (List.mem_cons_of_mem _ there)]

theorem unquote_of_unescaped {cs : List Char} (unescaped : Unescaped cs) : unquote cs = cs := by
  fun_induction unquote cs with
  | case1 => rfl
  | case2 c rest first ih =>
    -- the run of ASCII characters at the front, and what follows it
    have whole : c :: rest = (c :: rest.takeWhile isAscii) ++ rest.dropWhile isAscii := by
      rw [List.cons_append, List.takeWhile_append_dropWhile]
    have ascii : ∀ d ∈ c :: rest.takeWhile isAscii, isAscii d = true := by
      intro d there
      rcases List.mem_cons.mp there with rfl | later
      · exact first
      · exact List.all_eq_true.mp List.all_takeWhile d later
    rw [whole] at unescaped
    rw [ih unescaped.right, unescape_of_unescaped unescaped.left, decodeLossy_ascii ascii, ← whole]
  | case3 c rest _ ih => rw [ih unescaped.tail]

end Url

/-! ## Dialects -/

theorem Dialect.forLocation_of_segment {w : String} (segment : Path.Segment w)
    (file : Text.startsWith "file:" w = false) (package : Text.startsWith "package:" w = false) :
    forLocation w = .ok (ofPath ⟨0, [w]⟩) := by
  have path : Path.ofText w = ⟨0, [w]⟩ := by
    have regular : Path.Regular ⟨0, [w]⟩ := ⟨by simp, by simpa using segment⟩
    have text : Path.toText ⟨0, [w]⟩ = w := by simp [Path.toText]
    rw [← Path.ofText_toText regular, text]
  have inside : Text.holds "://".toList w.toList = false := by
    rw [Bool.eq_false_iff]
    intro found
    exact segment.whole (Text.mem_of_holds found (by decide))
  have local_name : looksLikeUrl w = false := by
    simp only [looksLikeUrl, inside, file, package, Bool.or_false]
  rw [forLocation, local_name, path]
  rfl

end StyleBuild
