/-!
# Places in a configuration document

A cursor is the rest of a document with the number of characters, of lines and of columns before it. A
line ends at U+000A, U+0085, U+2028 or U+2029; a byte-order mark takes no column.
-/

set_option autoImplicit false

namespace StyleBuild.Yaml

inductive Flaw where
  | character
  | lexical
  | order
  /-- More than one document, or a name for a node that is unknown or taken. -/
  | composition
  | construction
  /-- A scalar whose value cannot be computed, which is a fault of its own kind. -/
  | unreadable (kind message : String)
  deriving DecidableEq, Repr

def isBreak (c : Char) : Bool :=
  c == '\n' || c.toNat == 0x85 || c.toNat == 0x2028 || c.toNat == 0x2029

def isGap (c : Char) : Bool := c == ' ' || c == '\t'

/-- Whether a text ends a line: it is empty or starts with a line end. -/
def endsLine : List Char → Bool
  | [] => true
  | c :: _ => isBreak c

/-- Whether a text ends a word: it ends a line or starts with a blank or a tab. -/
def endsWord : List Char → Bool
  | [] => true
  | c :: _ => isGap c || isBreak c

def endsLineOrBlank (cs : List Char) : Bool := endsLine cs || cs.head? == some ' '

/-- Whether a line starts with the mark of a new document or of the end of one. -/
def atMark (cs : List Char) : Bool :=
  (cs.take 3 == "---".toList || cs.take 3 == "...".toList) && endsWord (cs.drop 3)

structure Cursor where
  rest : List Char
  index : Nat := 0
  line : Nat := 0
  column : Nat := 0
  deriving Repr

namespace Cursor

def next (c : Cursor) : Cursor :=
  match c.rest with
  | [] => c
  | x :: rest =>
    if isBreak x then ⟨rest, c.index + 1, c.line + 1, 0⟩
    else ⟨rest, c.index + 1, c.line, if x.toNat = 0xfeff then c.column else c.column + 1⟩

def skip (c : Cursor) : Nat → Cursor
  | 0 => c
  | n + 1 => c.next.skip n

def span (c : Cursor) (p : Char → Bool) : List Char × Cursor :=
  let run := c.rest.takeWhile p
  (run, c.skip run.length)

def skipWhile (c : Cursor) (p : Char → Bool) : Cursor := (c.span p).2

def skipBlanks (c : Cursor) : Cursor := c.skipWhile (· == ' ')

def isAt (c : Cursor) (x : Char) : Bool := c.rest.head? == some x

/-- A line end, as it counts inside a scalar, and the cursor past it. -/
def lineBreak? (c : Cursor) : Option (Char × Cursor) :=
  match c.rest with
  | [] => none
  | x :: _ => if isBreak x then some (if x.toNat = 0x85 then '\n' else x, c.next) else none

def skipComment (c : Cursor) : Cursor := if c.isAt '#' then c.skipWhile (!isBreak ·) else c

def finishLine (c : Cursor) : Except Flaw Cursor :=
  let c := c.skipBlanks.skipComment
  if endsLine c.rest then .ok c.next else .error .lexical

/-- The cursor at the next token, past blanks, comments and line ends, and whether a line has ended. -/
def gap (crossed : Bool) : Nat → Cursor → Cursor × Bool
  | 0, c => (c, crossed)
  | fuel + 1, c =>
    let c := c.skipBlanks.skipComment
    match c.lineBreak? with
    | some (_, c) => gap true fuel c
    | none => (c, crossed)

theorem next_rest (c : Cursor) : c.next.rest = c.rest.tail := by
  unfold next
  split
  · next h => simp [h]
  · next h => split <;> simp [h]

theorem skip_rest (c : Cursor) (n : Nat) : (c.skip n).rest = c.rest.drop n := by
  induction n generalizing c with
  | zero => simp [skip]
  | succ n ih => simp [skip, ih, next_rest]

end Cursor

end StyleBuild.Yaml
