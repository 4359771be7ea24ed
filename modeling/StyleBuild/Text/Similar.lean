/-!
# Similar words

Two words are similar if they share enough text. What they share is their longest common run, and then
what the parts before it and the parts after it share; of several longest runs the one that starts first
in the known word counts, and then the one that starts first in the other.
-/

set_option autoImplicit false

namespace StyleBuild.Text

def commonStart : List Char → List Char → Nat
  | a :: as, b :: bs => if a = b then commonStart as bs + 1 else 0
  | _, _ => 0

/-- A run that two texts share: where it starts in each, and its length. -/
structure Run where
  left : Nat
  right : Nat
  length : Nat
  deriving DecidableEq, Repr

def longestRun (a b : List Char) : Run :=
  (List.range a.length).foldl (fun best i =>
    (List.range b.length).foldl (fun best j =>
      let n := commonStart (a.drop i) (b.drop j)
      if best.length < n then ⟨i, j, n⟩ else best) best) ⟨0, 0, 0⟩

/-- How many characters two texts share; the fuel is the length of the first. -/
def sharedFrom : Nat → List Char → List Char → Nat
  | 0, _, _ => 0
  | fuel + 1, a, b =>
    let r := longestRun a b
    if r.length = 0 then 0
    else r.length + sharedFrom fuel (a.take r.left) (b.take r.right)
      + sharedFrom fuel (a.drop (r.left + r.length)) (b.drop (r.right + r.length))

structure Likeness where
  shared : Nat
  total : Nat
  deriving DecidableEq, Repr

def likeness (known word : String) : Likeness :=
  ⟨sharedFrom (known.length + 1) known.toList word.toList, known.length + word.length⟩

def Likeness.isClose (l : Likeness) : Bool := 3 * l.total ≤ 10 * l.shared

/-- The order in which words are preferred: by likeness, then by their text, the greatest first. -/
def prefers (a b : String × Likeness) : Bool :=
  let x := a.2.shared * b.2.total
  let y := b.2.shared * a.2.total
  if x = y then decide (b.1 ≤ a.1) else y < x

/-- At most three known words that are similar to a word, in alphabetical order. -/
def similar (known : List String) (word : String) : List String :=
  let close := (known.map fun k => (k, likeness k word)).filter (·.2.isClose)
  (((close.mergeSort prefers).take 3).map Prod.fst).mergeSort fun a b => decide (a ≤ b)

theorem commonStart_le_left (a b : List Char) : commonStart a b ≤ a.length := by
  induction a generalizing b with
  | nil => simp [commonStart]
  | cons x as ih =>
    cases b with
    | nil => simp [commonStart]
    | cons y bs =>
      unfold commonStart
      split
      · simpa using ih bs
      · simp

end StyleBuild.Text
