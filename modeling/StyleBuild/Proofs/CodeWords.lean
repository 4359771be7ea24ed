import StyleBuild.Proofs.Vlq

/-!
# Code words

The texts that `Vlq.encode` writes are the code words of a prefix code: where one ends is seen from its digits
alone, so a run of them is read back one by one, whatever follows. A text is a code word just if its digits go on up
to the last one, no zero is written in front of a number, and zero has no sign.
-/

set_option autoImplicit false

namespace StyleBuild.Vlq

/-! ## Symbols and digits -/

theorem symbol_of_digit? {c : Char} {d : Nat} (read : digit? c = some d) : symbol d = c ∧ d < 64 := by
  obtain ⟨inside, same, -⟩ := List.findIdx?_eq_some_iff_getElem.mp read
  refine ⟨?_, inside⟩
  rw [symbol, List.getD_eq_getElem?_getD, List.getElem?_eq_getElem inside, Option.getD_some]
  exact eq_of_beq same

theorem symbol_inj {d e : Nat} (small : d < 64) (small' : e < 64) : symbol d = symbol e ↔ d = e := by
  constructor
  · intro same
    have read := digit?_symbol small
    rw [same, digit?_symbol small'] at read
    exact (Option.some.inj read).symm
  · rintro rfl
    rfl

theorem testBit_five {d : Nat} (small : d < 64) : d.testBit 5 = true ↔ 32 ≤ d := by
  have each : ∀ d : Fin 64, d.val.testBit 5 = true ↔ 32 ≤ d.val := by decide
  exact each ⟨d, small⟩

theorem mapM_digit?_eq_some_iff {cs : List Char} {ds : List Nat} :
    cs.mapM digit? = some ds ↔ cs = ds.map symbol ∧ ∀ d ∈ ds, d < 64 := by
  induction cs generalizing ds with
  | nil =>
    rw [List.mapM_nil]
    constructor
    · intro read
      cases read
      simp
    · rintro ⟨text, -⟩
      rw [List.map_eq_nil_iff.mp text.symm]
      rfl
  | cons c rest ih =>
    rw [List.mapM_cons]
    constructor
    · intro read
      obtain ⟨d, first, read⟩ := Option.bind_eq_some_iff.mp read
      obtain ⟨more, later, read⟩ := Option.bind_eq_some_iff.mp read
      cases read
      obtain ⟨same, small⟩ := symbol_of_digit? first
      obtain ⟨text, smaller⟩ := ih.mp later
      exact ⟨by rw [List.map_cons, same, ← text], List.forall_mem_cons.mpr ⟨small, smaller⟩⟩
    · rintro ⟨text, small⟩
      cases ds with
      | nil => cases text
      | cons d more =>
        obtain ⟨rfl, rfl⟩ := List.cons.inj text
        rw [List.forall_mem_cons] at small
        rw [digit?_symbol small.1, ih.mpr ⟨rfl, small.2⟩]
        rfl

/-! ## Digits of numbers -/

theorem digits_small {v : Nat} (small : v < 32) : digits v = [v] := by
  rw [digits, if_pos small]

theorem digits_large {v : Nat} (large : ¬ v < 32) : digits v = (v % 32 + 32) :: digits (v / 32) := by
  rw [digits, if_neg large]

/-- Digits that are continued up to the last one; a number with several digits does not end in zero. -/
structure Word (front : List Nat) (last : Nat) : Prop where
  continued : ∀ d ∈ front, 32 ≤ d ∧ d < 64
  ended : last < 32
  shortest : front ≠ [] → last ≠ 0

/-- What digits amount to. -/
def value : List Nat → Nat
  | [] => 0
  | d :: rest => d % 32 + 32 * value rest

theorem value_pos {last : Nat} (ended : last < 32) (nonzero : last ≠ 0) (front : List Nat) :
    0 < value (front ++ [last]) := by
  induction front with
  | nil =>
    show 0 < last % 32 + 32 * 0
    omega
  | cons d front ih =>
    show 0 < d % 32 + 32 * value (front ++ [last])
    omega

theorem digits_continued {d v : Nat} (marked : 32 ≤ d ∧ d < 64) (positive : 0 < v) :
    digits (d % 32 + 32 * v) = d :: digits v := by
  have low : (d % 32 + 32 * v) % 32 + 32 = d := by omega
  have high : (d % 32 + 32 * v) / 32 = v := by omega
  rw [digits_large (by omega), low, high]

theorem digits_value {front : List Nat} {last : Nat} (word : Word front last) :
    digits (value (front ++ [last])) = front ++ [last] := by
  induction front with
  | nil =>
    have same : value ([] ++ [last]) = last := by
      show last % 32 + 32 * 0 = last
      have ended := word.ended
      omega
    rw [same, digits_small word.ended, List.nil_append]
  | cons d front ih =>
    obtain ⟨marked, later⟩ := List.forall_mem_cons.mp word.continued
    have nonzero : last ≠ 0 := word.shortest (List.cons_ne_nil d front)
    have rest : Word front last := ⟨later, word.ended, fun _ => nonzero⟩
    show digits (d % 32 + 32 * value (front ++ [last])) = d :: (front ++ [last])
    rw [digits_continued marked (value_pos word.ended nonzero front), ih rest]

/-- The digits of a number end in zero only if it is zero. -/
theorem digits_eq_append (v : Nat) :
    ∃ front last, digits v = front ++ [last] ∧ (∀ d ∈ front, 32 ≤ d ∧ d < 64) ∧ last < 32 ∧
      (v ≠ 0 → last ≠ 0) := by
  induction v using digits.induct with
  | case1 v small =>
    exact ⟨[], v, digits_small small, by simp, small, id⟩
  | case2 v large ih =>
    obtain ⟨front, last, split, continued, ended, nonzero⟩ := ih
    have marked : 32 ≤ v % 32 + 32 ∧ v % 32 + 32 < 64 := by omega
    refine ⟨(v % 32 + 32) :: front, last, ?_, List.forall_mem_cons.mpr ⟨marked, continued⟩, ended, ?_⟩
    · rw [digits_large large, split, List.cons_append]
    · intro _
      exact nonzero (by omega)

theorem word_digits (v : Nat) : ∃ front last, digits v = front ++ [last] ∧ Word front last := by
  obtain ⟨front, last, split, continued, ended, nonzero⟩ := digits_eq_append v
  refine ⟨front, last, split, continued, ended, fun several => nonzero ?_⟩
  rintro rfl
  have lengths := congrArg List.length ((digits_small (by decide)).symm.trans split)
  have positive := List.length_pos_iff.mpr several
  rw [List.length_append, List.length_singleton, List.length_singleton] at lengths
  omega

/-! ## Signs -/

theorem fold_unfold {v : Nat} (signed : v ≠ 1) : fold (unfold v) = v := by
  unfold unfold fold
  split <;> split <;> omega

theorem fold_ne_one (n : Int) : fold n ≠ 1 := by
  unfold fold
  split <;> omega

/-! ## The code -/

theorem digits_append_inj {v w : Nat} {rest rest' : List Char}
    (same : (digits v).map symbol ++ rest = (digits w).map symbol ++ rest') : v = w ∧ rest = rest' := by
  induction v using digits.induct generalizing w with
  | case1 v small =>
    rw [digits_small small] at same
    by_cases small' : w < 32
    · rw [digits_small small'] at same
      obtain ⟨first, later⟩ := List.cons.inj same
      exact ⟨(symbol_inj (by omega) (by omega)).mp first, later⟩
    · rw [digits_large small'] at same
      have first := (symbol_inj (by omega) (by omega)).mp (List.cons.inj same).1
      omega
  | case2 v large ih =>
    rw [digits_large large] at same
    by_cases small' : w < 32
    · rw [digits_small small'] at same
      have first := (symbol_inj (by omega) (by omega)).mp (List.cons.inj same).1
      omega
    · rw [digits_large small'] at same
      obtain ⟨first, later⟩ := List.cons.inj same
      have low := (symbol_inj (by omega) (by omega)).mp first
      obtain ⟨high, behind⟩ := ih later
      exact ⟨by omega, behind⟩

theorem digits_inj {v w : Nat} (same : digits v = digits w) : v = w :=
  (digits_append_inj (congrArg (fun ds => ds.map symbol ++ []) same)).1

theorem encode_append_inj {m n : Int} {rest rest' : List Char} :
    encode m ++ rest = encode n ++ rest' ↔ m = n ∧ rest = rest' := by
  constructor
  · intro same
    obtain ⟨folded, behind⟩ := digits_append_inj same
    refine ⟨?_, behind⟩
    rw [← unfold_fold m, folded, unfold_fold]
  · rintro ⟨rfl, rfl⟩
    rfl

theorem decode_flatMap_encode (ns : List Int) : decode (ns.flatMap encode) = some ns := by
  induction ns with
  | nil => rfl
  | cons n ns ih => rw [List.flatMap_cons, decode_encode_append, ih, Option.map_some]

theorem Word.small {front : List Nat} {last : Nat} (word : Word front last) :
    ∀ d ∈ front ++ [last], d < 64 := by
  intro d there
  have ended := word.ended
  rcases List.mem_append.mp there with inner | last_there
  · exact (word.continued d inner).2
  · rw [List.mem_singleton.mp last_there]
    omega

theorem word_iff_bits {front : List Nat} {last : Nat} (small : ∀ d ∈ front ++ [last], d < 64) :
    Word front last ↔ (∀ d ∈ front, d.testBit 5 = true) ∧ last.testBit 5 = false ∧ (front ≠ [] → last ≠ 0) := by
  have marked : ∀ d ∈ front, (d.testBit 5 = true ↔ 32 ≤ d ∧ d < 64) := by
    intro d there
    have bounded := small d (List.mem_append_left _ there)
    rw [testBit_five bounded]
    exact ⟨fun large => ⟨large, bounded⟩, And.left⟩
  have unmarked : last.testBit 5 = false ↔ last < 32 := by
    have bounded := small last (by simp)
    rw [Bool.eq_false_iff, Ne, testBit_five bounded, Nat.not_le]
  constructor
  · intro word
    exact ⟨fun d there => (marked d there).mpr (word.continued d there), unmarked.mpr word.ended, word.shortest⟩
  · rintro ⟨continued, ended, shortest⟩
    exact ⟨fun d there => (marked d there).mp (continued d there), unmarked.mp ended, shortest⟩

/-- The digits of folded integers are the words other than that of the number one. -/
theorem exists_digits_fold_iff {front : List Nat} {last : Nat} :
    (∃ n, digits (fold n) = front ++ [last]) ↔ Word front last ∧ front ++ [last] ≠ [1] := by
  constructor
  · rintro ⟨n, written⟩
    obtain ⟨front', last', split, word⟩ := word_digits (fold n)
    obtain ⟨rfl, rfl⟩ := List.append_singleton_inj.mp (written.symm.trans split)
    refine ⟨word, fun single => fold_ne_one n (digits_inj ?_)⟩
    rw [written, single, digits_small (by decide)]
  · rintro ⟨word, other⟩
    refine ⟨unfold (value (front ++ [last])), ?_⟩
    have written := digits_value word
    have signed : value (front ++ [last]) ≠ 1 := by
      intro one
      rw [one, digits_small (by decide)] at written
      exact other written.symm
    rw [fold_unfold signed, written]

/-- A run of code words is read back, code words are told apart whatever follows them, and a text over the alphabet
is a code word just if all its digits but the last have the continuation bit and the last has not, the last is not
zero unless it is the only one, and the text is not that of negative zero. -/
theorem code_exact :
    (∀ ns : List Int, decode (ns.flatMap encode) = some ns) ∧
      (∀ (m n : Int) (rest rest' : List Char),
        encode m ++ rest = encode n ++ rest' ↔ m = n ∧ rest = rest') ∧
      ∀ cs : List Char, (∃ n, encode n = cs) ↔
        ∃ front last, cs.mapM digit? = some (front ++ [last]) ∧ (∀ d ∈ front, d.testBit 5 = true) ∧
          last.testBit 5 = false ∧ (front ≠ [] → last ≠ 0) ∧ cs ≠ ['B'] := by
  refine ⟨decode_flatMap_encode, fun _ _ _ _ => encode_append_inj, fun cs => ?_⟩
  constructor
  · rintro ⟨n, rfl⟩
    obtain ⟨front, last, split, word⟩ := word_digits (fold n)
    have other := (exists_digits_fold_iff.mp ⟨n, split⟩).2
    have read : (encode n).mapM digit? = some (front ++ [last]) :=
      mapM_digit?_eq_some_iff.mpr ⟨by rw [encode, split], word.small⟩
    obtain ⟨continued, ended, shortest⟩ := (word_iff_bits word.small).mp word
    refine ⟨front, last, read, continued, ended, shortest, ?_⟩
    intro text
    rw [text] at read
    exact other (Option.some.inj read).symm
  · rintro ⟨front, last, read, continued, ended, shortest, other⟩
    obtain ⟨rfl, small⟩ := mapM_digit?_eq_some_iff.mp read
    have word := (word_iff_bits small).mpr ⟨continued, ended, shortest⟩
    obtain ⟨n, written⟩ := exists_digits_fold_iff.mpr ⟨word, fun single => other (by rw [single]; rfl)⟩
    exact ⟨n, by rw [encode, written]⟩

end StyleBuild.Vlq
