import Mathlib.Data.List.TakeWhile
import StyleBuild.Proofs.PathText
import StyleBuild.Import.Lookup

/-!
# File URLs

A canonical URL is read back as the path that it was made of: its characters are those of the path's octets,
and every octet that means something in a URL is escaped. So different places have different URLs. A drive
letter is the one exception, which the reader takes for the start of the path.
-/

set_option autoImplicit false

namespace StyleBuild

/-! ## Octets of characters -/

namespace Text.Utf8

theorem isTail_iff {b : UInt8} : isTail b = true ↔ 0x80 ≤ b.toNat ∧ b.toNat < 0xc0 := by
  simp [isTail, UInt8.le_iff_toNat_le, UInt8.lt_iff_toNat_lt]

theorem second3_iff {a b : UInt8} : second3 a b = true ↔
    isTail b = true ∧ (b.toNat < 0xa0 → a.toNat ≠ 0xe0) ∧ (0xa0 ≤ b.toNat → a.toNat ≠ 0xed) := by
  by_cases low : b.toNat < 0xa0
  · simp [second3, UInt8.lt_iff_toNat_lt, ← UInt8.toNat_inj, low, Nat.not_le.mpr low]
  · simp [second3, UInt8.lt_iff_toNat_lt, ← UInt8.toNat_inj, low, Nat.le_of_not_lt low]

theorem second4_iff {a b : UInt8} : second4 a b = true ↔
    isTail b = true ∧ (b.toNat < 0x90 → a.toNat ≠ 0xf0) ∧ (0x90 ≤ b.toNat → a.toNat ≠ 0xf4) := by
  by_cases low : b.toNat < 0x90
  · simp [second4, UInt8.lt_iff_toNat_lt, ← UInt8.toNat_inj, low, Nat.not_le.mpr low]
  · simp [second4, UInt8.lt_iff_toNat_lt, ← UInt8.toNat_inj, low, Nat.le_of_not_lt low]

theorem step_two {a b : UInt8} (least : 0xc2 ≤ a.toNat) (most : a.toNat < 0xe0)
    (tail : isTail b = true) (rest : List UInt8) :
    step a (b :: rest) = .char (Char.ofNat (a.toNat % 0x20 * 0x40 + tailBits b)) 1 := by
  have above : ¬ a.toNat < 128 ∧ ¬ a.toNat < 194 := by omega
  simp [step, UInt8.lt_iff_toNat_lt, above, most, tail]

theorem step_three {a b c : UInt8} (least : 0xe0 ≤ a.toNat) (most : a.toNat < 0xf0)
    (second : second3 a b = true) (tail : isTail c = true) (rest : List UInt8) :
    step a (b :: c :: rest)
      = .char (Char.ofNat ((a.toNat % 0x10 * 0x40 + tailBits b) * 0x40 + tailBits c)) 2 := by
  have above : ¬ a.toNat < 128 ∧ ¬ a.toNat < 194 ∧ ¬ a.toNat < 224 := by omega
  simp [step, UInt8.lt_iff_toNat_lt, above, most, second, tail]

theorem step_four {a b c d : UInt8} (least : 0xf0 ≤ a.toNat) (most : a.toNat < 0xf5)
    (second : second4 a b = true) (third : isTail c = true) (tail : isTail d = true)
    (rest : List UInt8) :
    step a (b :: c :: d :: rest)
      = .char (Char.ofNat
          (((a.toNat % 8 * 0x40 + tailBits b) * 0x40 + tailBits c) * 0x40 + tailBits d)) 3 := by
  have above : ¬ a.toNat < 128 ∧ ¬ a.toNat < 194 ∧ ¬ a.toNat < 224 ∧ ¬ a.toNat < 240 := by omega
  simp [step, UInt8.lt_iff_toNat_lt, above, most, second, third, tail]

theorem toNat_octet {n : Nat} (small : n < 256) : (UInt8.ofNat n).toNat = n := by
  rw [UInt8.toNat_ofNat']
  omega

theorem isTail_octet (n : Nat) : isTail (UInt8.ofNat (n % 64 + 128)) = true := by
  rw [isTail_iff, toNat_octet (by omega)]
  omega

theorem tailBits_octet (n : Nat) : tailBits (UInt8.ofNat (n % 64 + 128)) = n % 64 := by
  rw [tailBits, toNat_octet (by omega)]
  omega

/-- The octets of a character are read as this character, whatever follows them. -/
theorem step_utf8EncodeChar (c : Char) (rest : List UInt8) :
    ∃ a more, String.utf8EncodeChar c = a :: more ∧ step a (more ++ rest) = .char c more.length := by
  by_cases one : c.val.toNat ≤ 127
  · have small : c.toNat < 128 := Nat.lt_succ_of_le one
    exact ⟨UInt8.ofNat c.toNat, [], utf8EncodeChar_ascii small, step_ascii small rest⟩
  · have valid : c.val.toNat < 0xd800 ∨ 0xdfff < c.val.toNat ∧ c.val.toNat < 0x110000 := c.valid
    have same : ∀ {n : Nat}, n = c.val.toNat → Char.ofNat n = c := by
      rintro n rfl
      exact Char.ofNat_toNat c
    rw [String.utf8EncodeChar]
    generalize c.val.toNat = v at one valid same
    rw [if_neg one]
    split
    · have first : (UInt8.ofNat (v / 64 % 32 + 192)).toNat = v / 64 % 32 + 192 := toNat_octet (by omega)
      refine ⟨_, _, rfl, ?_⟩
      rw [List.cons_append, step_two (by omega) (by omega) (isTail_octet v), tailBits_octet, first,
        same (by omega)]
      rfl
    · split
      · have first : (UInt8.ofNat (v / 4096 % 16 + 224)).toNat = v / 4096 % 16 + 224 :=
          toNat_octet (by omega)
        have inside : second3 (UInt8.ofNat (v / 4096 % 16 + 224)) (UInt8.ofNat (v / 64 % 64 + 128)) := by
          rw [second3_iff, first, toNat_octet (by omega)]
          exact ⟨isTail_octet _, by omega, by omega⟩
        refine ⟨_, _, rfl, ?_⟩
        rw [List.cons_append, List.cons_append,
          step_three (by omega) (by omega) inside (isTail_octet v), tailBits_octet, tailBits_octet,
          first, same (by omega)]
        rfl
      · have first : (UInt8.ofNat (v / 262144 % 8 + 240)).toNat = v / 262144 % 8 + 240 :=
          toNat_octet (by omega)
        have inside : second4 (UInt8.ofNat (v / 262144 % 8 + 240)) (UInt8.ofNat (v / 4096 % 64 + 128)) := by
          rw [second4_iff, first, toNat_octet (by omega)]
          exact ⟨isTail_octet _, by omega, by omega⟩
        refine ⟨_, _, rfl, ?_⟩
        rw [List.cons_append, List.cons_append, List.cons_append,
          step_four (by omega) (by omega) inside (isTail_octet _) (isTail_octet v), tailBits_octet,
          tailBits_octet, tailBits_octet, first, same (by omega)]
        rfl

theorem decodeLossy_encode (cs : List Char) : decodeLossy (encode cs) = cs := by
  induction cs with
  | nil => rw [encode, List.flatMap_nil, decodeLossy]
  | cons c rest ih =>
    obtain ⟨a, more, octets, read⟩ := step_utf8EncodeChar c (encode rest)
    have encoded : encode (c :: rest) = a :: (more ++ encode rest) := by
      rw [encode, List.flatMap_cons, octets, encode, List.cons_append]
    rw [encoded, decodeLossy, read]
    simp [ih]

end Text.Utf8

/-! ## Percent signs -/

namespace Url

/-- A character that does not end the path of a URL and is not dropped from it. -/
def isPathChar (c : Char) : Bool := c != '\t' && c != '\r' && c != '\n' && c != '?' && c != '#'

/-- What holds of the numbers below 256 holds of octets. -/
theorem forall_octet {P : UInt8 → Prop} (all : ∀ n : Fin 256, P (UInt8.ofNat n)) (b : UInt8) : P b := by
  have here := all ⟨b.toNat, b.toNat_lt⟩
  rwa [UInt8.ofNat_toNat] at here

theorem mem_quote {cs : List Char} {c : Char} (there : c ∈ quote cs) :
    isAscii c = true ∧ isPathChar c = true := by
  obtain ⟨b, -, here⟩ := List.mem_flatMap.mp there
  have octet := forall_octet (P := fun b => (quoteOctet b).all (fun c => isAscii c && isPathChar c) = true)
    (by decide +kernel) b
  simpa using List.all_eq_true.mp octet c here

theorem hexDigit?_capitalHex {n : Nat} (digit : n < 16) : Json.hexDigit? (capitalHex n) = some n := by
  have all : ∀ n : Fin 16, Json.hexDigit? (capitalHex n) = some n.val := by decide
  exact all ⟨n, digit⟩

theorem unescape_cons {c : Char} (other : c ≠ '%') (rest : List Char) :
    unescape (c :: rest) = UInt8.ofNat c.toNat :: unescape rest := by
  rw [unescape]
  rintro a b after rfl
  exact absurd rfl other

theorem plain_of_isPlainOctet {b : UInt8} (plain : isPlainOctet b = true) :
    UInt8.ofNat (Char.ofNat b.toNat).toNat = b ∧ Char.ofNat b.toNat ≠ '%' :=
  forall_octet (P := fun b => isPlainOctet b = true →
    UInt8.ofNat (Char.ofNat b.toNat).toNat = b ∧ Char.ofNat b.toNat ≠ '%') (by decide +kernel) b plain

theorem unescape_quoteOctet (b : UInt8) (rest : List Char) :
    unescape (quoteOctet b ++ rest) = b :: unescape rest := by
  unfold quoteOctet
  split
  · next plain =>
    obtain ⟨same, other⟩ := plain_of_isPlainOctet plain
    rw [List.singleton_append, unescape_cons other, same]
  · have octet : b.toNat < 256 := b.toNat_lt
    have whole : b.toNat / 16 * 16 + b.toNat % 16 = b.toNat := by omega
    rw [List.cons_append, List.cons_append, List.cons_append, List.nil_append, unescape,
      hexDigit?_capitalHex (by omega), hexDigit?_capitalHex (by omega)]
    dsimp only
    rw [whole, UInt8.ofNat_toNat]

theorem unescape_quote (cs : List Char) : unescape (quote cs) = Text.Utf8.encode cs := by
  unfold quote
  induction Text.Utf8.encode cs with
  | nil => rw [List.flatMap_nil, unescape]
  | cons b rest ih => rw [List.flatMap_cons, unescape_quoteOctet, ih]

theorem unquote_of_ascii {cs : List Char} (ascii : ∀ c ∈ cs, isAscii c = true) :
    unquote cs = Text.Utf8.decodeLossy (unescape cs) := by
  cases cs with
  | nil => rw [unquote, unescape, Text.Utf8.decodeLossy]
  | cons c rest =>
    rw [List.forall_mem_cons] at ascii
    rw [unquote, if_pos ascii.1, List.takeWhile_eq_self_iff.mpr ascii.2,
      List.dropWhile_eq_nil_iff.mpr ascii.2, unquote, List.append_nil]

/-- What was written into a URL is read out of it. -/
theorem unquote_quote (cs : List Char) : unquote (quote cs) = cs := by
  rw [unquote_of_ascii fun c there => (mem_quote there).1, unescape_quote,
    Text.Utf8.decodeLossy_encode]

/-! ## Splitting -/

theorem clean_eq_self {cs : List Char} (first : ∀ c ∈ cs.head?, 0x20 < c.toNat)
    (plain : ∀ c ∈ cs, isPathChar c = true) : clean cs = cs := by
  have kept : cs.dropWhile (fun c => c.toNat ≤ 0x20) = cs := by
    cases cs with
    | nil => rfl
    | cons c rest =>
      have large := first c rfl
      simp [Nat.not_le.mpr large]
  rw [clean, kept, List.filter_eq_self]
  intro c there
  have inside := plain c there
  simp [isPathChar] at inside
  simp [inside]

/-- A reference without authority, query and fragment is its scheme and its path. -/
theorem split_of_path {s : String} {scheme rest path : List Char} (cleaned : clean s.toList = s.toList)
    (front : splitScheme s.toList = (scheme, rest)) (behind : splitAuthority rest = ([], path))
    (plain : ∀ c ∈ path, isPathChar c = true) :
    split s = .ok ⟨scheme,
      if withParameters.contains (String.ofList scheme) then dropParameters path else path⟩ := by
  have whole : path.takeWhile (· != '#') = path := by
    refine List.takeWhile_eq_self_iff.mpr fun c there => ?_
    have inside := plain c there
    simp [isPathChar] at inside
    simp [inside]
  have unasked : path.takeWhile (· != '?') = path := by
    refine List.takeWhile_eq_self_iff.mpr fun c there => ?_
    have inside := plain c there
    simp [isPathChar] at inside
    simp [inside]
  simp only [split, cleaned, front, behind, whole, unasked]
  rfl

/-- A reference that is a path as it stands, if no scheme is read off it. -/
structure PathOnly (cs : List Char) : Prop where
  visible : ∀ c ∈ cs.head?, 0x20 < c.toNat
  plain : ∀ c ∈ cs, isPathChar c = true
  local_path : ¬ ['/', '/'] <+: cs
  parameterless : ';' ∉ Text.afterLast '/' cs

theorem splitAuthority_of_local {cs : List Char} (local_path : ¬ ['/', '/'] <+: cs) :
    splitAuthority cs = ([], cs) := by
  unfold splitAuthority
  split
  · next rest => exact absurd ⟨rest, rfl⟩ local_path
  · rfl

theorem dropParameters_of_notMem {cs : List Char} (absent : ';' ∉ Text.afterLast '/' cs) :
    dropParameters cs = cs := by
  have kept : (Text.afterLast '/' cs).takeWhile (· != ';') = Text.afterLast '/' cs := by
    refine List.takeWhile_eq_self_iff.mpr fun c there => ?_
    rw [bne_iff_ne]
    rintro rfl
    exact absent there
  have last : Text.afterLast '/' cs <:+ cs := by
    rw [← List.reverse_prefix, Text.afterLast, List.reverse_reverse]
    exact List.takeWhile_prefix _
  obtain ⟨front, whole⟩ := last
  rw [dropParameters, kept]
  generalize Text.afterLast '/' cs = tail at whole
  rw [← whole]
  simp

theorem split_of_pathOnly {s : String} (only : PathOnly s.toList)
    (schemeless : splitScheme s.toList = ([], s.toList)) : split s = .ok ⟨[], s.toList⟩ := by
  rw [split_of_path (clean_eq_self only.visible only.plain) schemeless
    (splitAuthority_of_local only.local_path) only.plain, dropParameters_of_notMem only.parameterless]
  rfl

theorem splitScheme_of_empty {cs : List Char} (schemeless : (splitScheme cs).1 = []) :
    splitScheme cs = ([], cs) := by
  unfold splitScheme at schemeless ⊢
  split at schemeless
  · split at schemeless
    · split at schemeless
      · simp at schemeless
      · next other => rw [if_neg other]
    · rfl
  · rfl

end Url

/-! ## Places and their URLs -/

namespace FileTree

theorem toList_urlOf (parts : List String) : (urlOf parts).toList
    = 'f' :: 'i' :: 'l' :: 'e' :: ':' :: '/' :: '/' :: Url.quote (absoluteText parts).toList := by
  simp [urlOf]

theorem quote_absoluteText (parts : List String) :
    ∃ rest, Url.quote (absoluteText parts).toList = '/' :: rest := by
  refine ⟨Url.quote ("/".intercalate parts).toList, ?_⟩
  rw [absoluteText, String.toList_append]
  rfl

theorem split_urlOf (parts : List String) :
    Url.split (urlOf parts) = .ok ⟨"file".toList, Url.quote (absoluteText parts).toList⟩ := by
  have text := toList_urlOf parts
  obtain ⟨rest, slash⟩ := quote_absoluteText parts
  have plain : ∀ c ∈ Url.quote (absoluteText parts).toList, Url.isPathChar c = true :=
    fun c there => (Url.mem_quote there).2
  have cleaned : Url.clean (urlOf parts).toList = (urlOf parts).toList := by
    refine Url.clean_eq_self ?_ ?_
    · rw [text]
      simp
    · rw [text]
      simp only [List.forall_mem_cons]
      exact ⟨by decide, by decide, by decide, by decide, by decide, by decide, by decide, plain⟩
  have front : Url.splitScheme (urlOf parts).toList
      = ("file".toList, '/' :: '/' :: Url.quote (absoluteText parts).toList) := by
    rw [text]
    rfl
  have behind : Url.splitAuthority ('/' :: '/' :: Url.quote (absoluteText parts).toList)
      = ([], Url.quote (absoluteText parts).toList) := by
    rw [slash]
    rfl
  exact Url.split_of_path cleaned front behind plain

theorem urlToPath_urlOf {parts : List String} (segments : ∀ w ∈ parts, Path.Segment w)
    (driveless : (absoluteText parts).toList[2]? ≠ some ':') :
    urlToPath (urlOf parts) = .ok ⟨1, parts⟩ := by
  have text : Path.toText ⟨1, parts⟩ = absoluteText parts := by
    simp [Path.toText, absoluteText]
  have whole : dropDriveSlash (absoluteText parts).toList = (absoluteText parts).toList := by
    unfold dropDriveSlash
    split
    · next c rest shape =>
      rw [shape] at driveless
      exact absurd rfl driveless
    · rfl
  rw [urlToPath, split_urlOf]
  dsimp only
  rw [if_pos rfl, Url.unquote_quote, whole, String.ofList_toList, ← text,
    Path.ofText_toText ⟨by simp, segments⟩]

theorem urlOf_inj {parts parts' : List String} (segments : ∀ w ∈ parts, Path.Segment w)
    (segments' : ∀ w ∈ parts', Path.Segment w) (same : urlOf parts = urlOf parts') :
    parts = parts' := by
  have quoted := congrArg String.toList same
  rw [toList_urlOf, toList_urlOf] at quoted
  simp only [List.cons.injEq, true_and] at quoted
  have texts : (absoluteText parts).toList = (absoluteText parts').toList := by
    rw [← Url.unquote_quote (absoluteText parts).toList, quoted, Url.unquote_quote]
  have text : ∀ parts, Path.toText ⟨1, parts⟩ = absoluteText parts := by
    simp [Path.toText, absoluteText]
  have path : Path.mk 1 parts = Path.mk 1 parts' := by
    rw [← Path.ofText_toText (p := ⟨1, parts⟩) ⟨by simp, segments⟩,
      ← Path.ofText_toText (p := ⟨1, parts'⟩) ⟨by simp, segments'⟩, text, text,
      String.toList_injective texts]
  exact congrArg Path.parts path

end FileTree

end StyleBuild
