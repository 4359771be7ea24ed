import StyleBuild.SourceMap.Vlq

/-!
# Reading base64 VLQ

`Vlq.decode` reads a run of integers: each digit brings five bits, the least significant first, bit five
says that the number goes on, and the lowest bit of the total is its sign. What `Vlq.encode` writes is
read back, whatever follows it (`decode_encode_append`), and holds no character outside the alphabet.
-/

set_option autoImplicit false

namespace StyleBuild.Vlq

def digit? (c : Char) : Option Nat := alphabet.idxOf? c

/-- The integer whose sign was moved into the lowest bit. -/
def unfold (v : Nat) : Int := if v % 2 = 0 then (v / 2 : Nat) else -(v / 2 : Nat)

/-- Reads integers from within a number: `total` is what its digits so far amount to, and the next one
counts `weight`. A text that ends within a number is refused. -/
def decodeFrom (weight total : Nat) : List Char → Option (List Int)
  | [] => if weight = 1 then some [] else none
  | c :: rest => do
    let d ← digit? c
    if d < 32 then
      let more ← decodeFrom 1 0 rest
      some (unfold (total + weight * d) :: more)
    else decodeFrom (weight * 32) (total + weight * (d - 32)) rest

def decode (cs : List Char) : Option (List Int) := decodeFrom 1 0 cs

theorem digit?_symbol {d : Nat} (small : d < 64) : digit? (symbol d) = some d := by
  have each : ∀ d : Fin 64, digit? (symbol d) = some d.val := by decide +kernel
  exact each ⟨d, small⟩

theorem symbol_mem (d : Nat) : symbol d ∈ alphabet := by
  unfold symbol
  rw [List.getD_eq_getElem?_getD]
  cases found : alphabet[d]? with
  | none => decide
  | some c => exact List.mem_of_getElem? found

theorem unfold_fold (n : Int) : unfold (fold n) = n := by
  unfold unfold fold
  split <;> split <;> omega

theorem digits_ne_nil (v : Nat) : digits v ≠ [] := by
  rw [digits]
  split <;> simp

/-- The digits of a number end it: what they add is the number at the weight of the first. -/
theorem decodeFrom_digits (weight total v : Nat) (rest : List Char) :
    decodeFrom weight total ((digits v).map symbol ++ rest) =
      (decodeFrom 1 0 rest).map (unfold (total + weight * v) :: ·) := by
  induction v using digits.induct generalizing weight total with
  | case1 v small =>
    rw [digits, if_pos small]
    simp only [List.map_cons, List.map_nil, List.cons_append, List.nil_append, decodeFrom,
      digit?_symbol (show v < 64 by omega), Option.bind_eq_bind, Option.bind_some, if_pos small]
    cases decodeFrom 1 0 rest <;> rfl
  | case2 v large ih =>
    have marked : v % 32 + 32 < 64 := by omega
    have continued : ¬ v % 32 + 32 < 32 := by omega
    have value : total + weight * (v % 32 + 32 - 32) + weight * 32 * (v / 32) = total + weight * v := by
      have parts : weight * v = weight * (v % 32) + weight * (32 * (v / 32)) := by
        rw [← Nat.mul_add, Nat.mod_add_div]
      rw [parts, Nat.add_sub_cancel, Nat.mul_assoc, Nat.add_assoc]
    rw [digits, if_neg large]
    simp only [List.map_cons, List.cons_append, decodeFrom, digit?_symbol marked,
      Option.bind_eq_bind, Option.bind_some, if_neg continued]
    rw [ih, value]

theorem decode_encode_append (n : Int) (rest : List Char) :
    decode (encode n ++ rest) = (decode rest).map (n :: ·) := by
  rw [decode, encode, decodeFrom_digits, Nat.zero_add, Nat.one_mul, unfold_fold]
  rfl

theorem encode_ne_nil (n : Int) : encode n ≠ [] := by
  unfold encode
  intro empty
  exact digits_ne_nil _ (List.map_eq_nil_iff.mp empty)

theorem mem_alphabet_of_mem_encode {n : Int} {c : Char} (there : c ∈ encode n) : c ∈ alphabet := by
  obtain ⟨d, -, rfl⟩ := List.mem_map.mp there
  exact symbol_mem d

end StyleBuild.Vlq
