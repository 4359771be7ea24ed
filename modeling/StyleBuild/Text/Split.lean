/-!
# Cutting texts

Texts are cut at single characters: everywhere, at the first or at the last one. Lines end at any of the
line and page separators; a carriage return and a line feed after it are one line end.
-/

set_option autoImplicit false

namespace StyleBuild.Text

def splitAtChar (sep : Char) : List Char → List (List Char)
  | [] => [[]]
  | c :: rest =>
    match splitAtChar sep rest with
    | part :: parts => if c = sep then [] :: part :: parts else (c :: part) :: parts
    | [] => [[c]]

def cutAt (sep : Char) : List Char → Option (List Char × List Char)
  | [] => none
  | c :: rest =>
    if c = sep then some ([], rest) else (cutAt sep rest).map fun (a, b) => (c :: a, b)

/-- Text after the last occurrence of a character, or the whole text. -/
def afterLast (sep : Char) (cs : List Char) : List Char :=
  (cs.reverse.takeWhile (· != sep)).reverse

def endsLine (c : Char) : Bool :=
  let n := c.toNat
  (0xa ≤ n && n ≤ 0xd) || (0x1c ≤ n && n ≤ 0x1e) || n == 0x85 || n == 0x2028 || n == 0x2029

/-- The lines of a text, the characters of the line so far given last one first. -/
def linesFrom (line : List Char) : List Char → List (List Char)
  | [] => if line.isEmpty then [] else [line.reverse]
  | '\r' :: '\n' :: rest => line.reverse :: linesFrom [] rest
  | c :: rest => if endsLine c then line.reverse :: linesFrom [] rest else linesFrom (c :: line) rest

/-- The lines of a text; a line end at its very end starts no further line. -/
def lines (s : String) : List String := (linesFrom [] s.toList).map String.ofList

def holds (run : List Char) : List Char → Bool
  | [] => run.isEmpty
  | c :: rest => run.isPrefixOf (c :: rest) || holds run rest

def startsWith (start s : String) : Bool := start.toList.isPrefixOf s.toList

theorem splitAtChar_ne_nil (sep : Char) (cs : List Char) : splitAtChar sep cs ≠ [] := by
  induction cs with
  | nil => simp [splitAtChar]
  | cons c rest ih =>
    unfold splitAtChar
    split
    · split <;> simp
    · simp

theorem splitAtChar_append_sep (sep : Char) (a b : List Char) :
    splitAtChar sep (a ++ sep :: b) = splitAtChar sep a ++ splitAtChar sep b := by
  induction a with
  | nil =>
    obtain ⟨part, parts, rest⟩ := List.exists_cons_of_ne_nil (splitAtChar_ne_nil sep b)
    simp [splitAtChar, rest]
  | cons c a ih =>
    obtain ⟨part, parts, rest⟩ := List.exists_cons_of_ne_nil (splitAtChar_ne_nil sep a)
    simp only [List.cons_append, splitAtChar, ih, rest]
    split <;> rfl

theorem splitAtChar_of_notMem {sep : Char} {cs : List Char} (absent : sep ∉ cs) :
    splitAtChar sep cs = [cs] := by
  induction cs with
  | nil => rfl
  | cons c rest ih =>
    rw [List.mem_cons, not_or] at absent
    simp [splitAtChar, ih absent.2, Ne.symm absent.1]

end StyleBuild.Text
