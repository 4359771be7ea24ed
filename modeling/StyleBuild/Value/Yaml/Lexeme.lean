import StyleBuild.Text.Utf8
import StyleBuild.Value.Json.Reader
import StyleBuild.Value.Yaml.Cursor

/-!
# Lexemes of configuration documents

A scalar is plain, in quotes, or a block of indented lines. Beside scalars a document holds names of nodes,
tags and directives. Each function takes a cursor at its lexeme and gives the cursor past it.
-/

set_option autoImplicit false

namespace StyleBuild.Yaml

/-- What line ends inside a scalar count for: one is a blank, of several the first is dropped. -/
def folded (first : Char) (more : List Char) : List Char :=
  (if first != '\n' then [first] else if more.isEmpty then [' '] else []) ++ more

/-! ## Scalars in quotes -/

def quotedBreaks : Nat → List Char → Cursor → Except Flaw (List Char × Cursor)
  | 0, _, _ => .error .lexical
  | fuel + 1, acc, c =>
    if atMark c.rest then .error .lexical
    else
      let c := c.skipWhile isGap
      match c.lineBreak? with
      | some (b, c) => quotedBreaks fuel (b :: acc) c
      | none => .ok (acc.reverse, c)

def escapeOf? (c : Char) : Option Char :=
  [('0', 0), ('a', 7), ('b', 8), ('t', 9), ('\t', 9), ('n', 10), ('v', 11), ('f', 12), ('r', 13),
    ('e', 27), (' ', 32), ('"', 34), ('\\', 92), ('/', 47), ('N', 0x85), ('_', 0xa0), ('L', 0x2028),
    ('P', 0x2029)].lookup c |>.map Char.ofNat

def escapeWidth? (c : Char) : Option Nat := [('x', 2), ('u', 4), ('U', 8)].lookup c

def hexValue? (cs : List Char) : Option Nat :=
  cs.foldlM (fun n c => (Json.hexDigit? c).map fun d => n * 16 + d) 0

/-- The character with a number. Half of a surrogate pair, which the format admits, is no character here; the
null character takes its place. -/
def charOf (n : Nat) : Except Flaw Char :=
  if n < 0x110000 then .ok (Char.ofNat n)
  else if n < Nat.pow 2 31 then .error (.unreadable "ValueError" "chr() arg not in range(0x110000)")
  else .error (.unreadable "OverflowError" "Python int too large to convert to C int")

def numbered (width : Nat) (c : Cursor) : Except Flaw (Char × Cursor) :=
  if c.rest.length < width then .error .lexical
  else match hexValue? (c.rest.take width) with
    | some n => (charOf n).map fun x => (x, c.skip width)
    | none => .error .lexical

def quotedFrom (double : Bool) : Nat → List Char → Cursor → Except Flaw (List Char × Cursor)
  | 0, _, _ => .error .lexical
  | fuel + 1, acc, c =>
    match c.rest with
    | [] => .error .lexical
    | x :: more =>
      if isGap x || isBreak x then
        let (blanks, c) := c.span isGap
        match c.lineBreak? with
        | some (b, c) => do
          let (breaks, c) ← quotedBreaks (c.rest.length + 1) [] c
          quotedFrom double fuel ((folded b breaks).reverse ++ acc) c
        | none => quotedFrom double fuel (blanks.reverse ++ acc) c
      else if double then
        if x = '"' then .ok (acc.reverse, c.next)
        else if x = '\\' then
          match more with
          | [] => .error .lexical
          | e :: _ =>
            match escapeOf? e, escapeWidth? e with
            | some y, _ => quotedFrom double fuel (y :: acc) (c.skip 2)
            | none, some width => do
              let (y, c) ← numbered width (c.skip 2)
              quotedFrom double fuel (y :: acc) c
            | none, none =>
              if isBreak e then do
                let (breaks, c) ← quotedBreaks (c.rest.length + 1) [] (c.skip 2)
                quotedFrom double fuel (breaks.reverse ++ acc) c
              else .error .lexical
        else quotedFrom double fuel (x :: acc) c.next
      else if x.toNat = 39 then
        if (more.head?.map Char.toNat) = some 39 then quotedFrom double fuel (x :: acc) (c.skip 2)
        else .ok (acc.reverse, c.next)
      else quotedFrom double fuel (x :: acc) c.next

def quoted (double : Bool) (c : Cursor) : Except Flaw (String × Cursor) :=
  (quotedFrom double (c.rest.length + 1) [] c.next).map fun (cs, c) => (String.ofList cs, c)

/-! ## Plain scalars -/

def isFlowMark (c : Char) : Bool := ",[]\x7b\x7d".toList.contains c

def endsPlain (inFlow : Bool) : List Char → Bool
  | [] => true
  | c :: cs =>
    endsWord (c :: cs)
      || (c == ':' && (endsWord cs || (inFlow && (cs.head?.map isFlowMark).getD false)))
      || (inFlow && (isFlowMark c || c == '?'))

def plainRun (inFlow : Bool) : List Char → Nat
  | [] => 0
  | c :: cs => if endsPlain inFlow (c :: cs) then 0 else plainRun inFlow cs + 1

/-- Line ends and blanks after the first line end inside a plain scalar; none if a document ends there. -/
def plainBreaks : Nat → List Char → Cursor → Option (List Char) × Cursor
  | 0, acc, c => (some acc.reverse, c)
  | fuel + 1, acc, c =>
    let c := c.skipBlanks
    match c.lineBreak? with
    | some (b, c) => if atMark c.rest then (none, c) else plainBreaks fuel (b :: acc) c
    | none => (some acc.reverse, c)

/-- What stands between two words of a plain scalar, nothing if it ends here, and whether a line has
ended. -/
def plainGap (c : Cursor) : List Char × Bool × Cursor :=
  let (blanks, c) := c.span (· == ' ')
  match c.lineBreak? with
  | none => (blanks, false, c)
  | some (b, c) =>
    if atMark c.rest then ([], true, c)
    else match plainBreaks (c.rest.length + 1) [] c with
      | (some breaks, c) => (folded b breaks, true, c)
      | (none, c) => ([], true, c)

/-- The text of a plain scalar, last character first, in a block with this indentation, and whether a
line has ended since its last word. -/
def plainFrom (inFlow : Bool) (indent : Int) :
    Nat → List Char → List Char → Bool → Cursor → List Char × Bool × Cursor
  | 0, acc, _, crossed, c => (acc, crossed, c)
  | fuel + 1, acc, before, crossed, c =>
    let n := if c.isAt '#' then 0 else plainRun inFlow c.rest
    if n = 0 then (acc, crossed, c)
    else
      let acc := (c.rest.take n).reverse ++ (before.reverse ++ acc)
      let (between, crossed, c) := plainGap (c.skip n)
      if between.isEmpty || c.isAt '#' || (!inFlow && (c.column : Int) < indent) then (acc, crossed, c)
      else plainFrom inFlow indent fuel acc between crossed c

def plain (inFlow : Bool) (indent : Int) (c : Cursor) : String × Bool × Cursor :=
  let (acc, crossed, c) := plainFrom inFlow indent (c.rest.length + 1) [] [] false c
  (String.ofList acc.reverse, crossed, c)

/-! ## Blocks of lines -/

inductive Chomp where
  | strip | clip | keep
  deriving DecidableEq, Repr

def chompOf? (c : Cursor) : Option Chomp :=
  if c.isAt '+' then some .keep else if c.isAt '-' then some .strip else none

def stepOf? (c : Cursor) : Option Nat :=
  match c.rest with
  | d :: _ => if d.isDigit then some (d.toNat - 48) else none
  | [] => none

/-- The header of a block: a sign and an indentation, in either order, and then nothing. -/
def blockHeader (c : Cursor) : Except Flaw (Chomp × Option Nat × Cursor) := do
  let (chomp, step, c) := match chompOf? c, stepOf? c with
    | some chomp, _ =>
      match stepOf? c.next with
      | some n => (chomp, some n, c.skip 2)
      | none => (chomp, none, c.next)
    | none, some n =>
      match chompOf? c.next with
      | some chomp => (chomp, some n, c.skip 2)
      | none => (.clip, some n, c.next)
    | none, none => (.clip, none, c)
  if step = some 0 then .error .lexical
  else if endsLineOrBlank c.rest then (c.finishLine).map fun c => (chomp, step, c)
  else .error .lexical

def blockBreaks (indent : Nat) : Nat → List Char → Cursor → List Char × Cursor
  | 0, acc, c => (acc.reverse, c)
  | fuel + 1, acc, c =>
    let c := c.skip (min (c.rest.takeWhile (· == ' ')).length (indent - c.column))
    match c.lineBreak? with
    | some (b, c) => blockBreaks indent fuel (b :: acc) c
    | none => (acc.reverse, c)

/-- Empty lines before the first line of a block, and the widest indentation among them and it. -/
def blockMargin : Nat → List Char → Nat → Cursor → List Char × Nat × Cursor
  | 0, acc, widest, c => (acc.reverse, widest, c)
  | fuel + 1, acc, widest, c =>
    let moved := c.skipBlanks
    let widest := if moved.index = c.index then widest else max widest moved.column
    match moved.lineBreak? with
    | some (b, c) => blockMargin fuel (b :: acc) widest c
    | none => (acc.reverse, widest, moved)

/-- The lines of a block, last character first, the end of the last one and the empty lines after it. -/
def blockLines (isFolded : Bool) (indent : Nat) :
    Nat → List Char → List Char → List Char → Cursor → List Char × List Char × List Char × Cursor
  | 0, acc, ending, breaks, c => (acc, ending, breaks, c)
  | fuel + 1, acc, ending, breaks, c =>
    if c.column = indent ∧ !c.rest.isEmpty then
      let isText (c : Cursor) : Bool := !(c.rest.head?.map isGap).getD true
      let acc := breaks.reverse ++ (ending.reverse ++ acc)
      let (line, after) := c.span (!isBreak ·)
      let (ending, after) := match after.lineBreak? with
        | some (b, after) => ([b], after)
        | none => ([], after)
      let (breaks, after) := blockBreaks indent (after.rest.length + 1) [] after
      let acc := line.reverse ++ acc
      if after.column = indent ∧ !after.rest.isEmpty then
        let joint := if isFolded && ending == ['\n'] && isText c && isText after
          then (if breaks.isEmpty then [' '] else []) else ending
        blockLines isFolded indent fuel acc joint breaks after
      else (acc, ending, breaks, after)
    else (acc, ending, breaks, c)

def block (isFolded : Bool) (parent : Int) (c : Cursor) : Except Flaw (String × Cursor) := do
  let (chomp, step, c) ← blockHeader c.next
  let least := max 1 (parent + 1).toNat
  let fuel := c.rest.length + 1
  let (breaks, indent, c) := match step with
    | none =>
      let (breaks, widest, c) := blockMargin fuel [] 0 c
      (breaks, max least widest, c)
    | some n =>
      let (breaks, c) := blockBreaks (least + n - 1) fuel [] c
      (breaks, least + n - 1, c)
  let (acc, ending, breaks, c) := blockLines isFolded indent fuel [] [] breaks c
  let tail := (if chomp = .strip then [] else ending) ++ (if chomp = .keep then breaks else [])
  pure (String.ofList (acc.reverse ++ tail), c)

/-! ## Names, tags and directives -/

def isNameChar (c : Char) : Bool := c.isAlphanum || c == '-' || c == '_'

def nodeName (c : Cursor) : Except Flaw (String × Cursor) :=
  let (name, c) := c.span isNameChar
  let isEnd := endsWord c.rest || (c.rest.head?.map ("?:,]\x7d%@\x60".toList.contains ·)).getD false
  if name.isEmpty || !isEnd then .error .lexical else .ok (String.ofList name, c)

def isTagChar (c : Char) : Bool :=
  c.isAlphanum || c.toNat == 39 || "-;/?:@&=+$,_.!~*()[]%".toList.contains c

def tagOctets : Nat → List UInt8 → Cursor → Except Flaw (List UInt8 × Cursor)
  | 0, acc, c => .ok (acc.reverse, c)
  | fuel + 1, acc, c =>
    if c.isAt '%' then
      if c.rest.length < 3 then .error .lexical
      else match hexValue? ((c.rest.drop 1).take 2) with
        | some n => tagOctets fuel (n.toUInt8 :: acc) (c.skip 3)
        | none => .error .lexical
    else .ok (acc.reverse, c)

def tagChars : Nat → List Char → Cursor → Except Flaw (List Char × Cursor)
  | 0, acc, c => .ok (acc, c)
  | fuel + 1, acc, c =>
    match c.rest with
    | [] => .ok (acc, c)
    | x :: _ =>
      if x = '%' then do
        let (bytes, c) ← tagOctets (c.rest.length + 1) [] c
        match Text.Utf8.decode bytes with
        | .ok cs => tagChars fuel (cs.reverse ++ acc) c
        | .error _ => .error .lexical
      else if isTagChar x then tagChars fuel (x :: acc) c.next
      else .ok (acc, c)

def tagText (c : Cursor) : Except Flaw (String × Cursor) := do
  let (acc, d) ← tagChars (c.rest.length + 1) [] c
  if d.index = c.index then .error .lexical else pure (String.ofList acc.reverse, d)

def tagHandle (c : Cursor) : Except Flaw (String × Cursor) :=
  if !c.isAt '!' then .error .lexical
  else if c.next.isAt ' ' then .ok ("!", c.next)
  else
    let (name, d) := c.next.span isNameChar
    if d.isAt '!' then .ok ("!" ++ String.ofList name ++ "!", d.next) else .error .lexical

def tag (c : Cursor) : Except Flaw (Option String × String × Cursor) := do
  let after := c.rest.drop 1
  let (handle, text, d) ←
    if after.head? = some '<' then do
      let (text, d) ← tagText (c.skip 2)
      if d.isAt '>' then pure (none, text, d.next) else .error .lexical
    else if endsWord after then pure (none, "!", c.next)
    else do
      let hasHandle := (after.takeWhile fun x => !(x == ' ' || isBreak x)).contains '!'
      let (handle, d) ← if hasHandle then tagHandle c else pure ("!", c.next)
      let (text, d) ← tagText d
      pure (some handle, text, d)
  if endsLineOrBlank d.rest then pure (handle, text, d) else .error .lexical

inductive Directive where
  | version (major : Nat)
  | handle (name stem : String)
  | other
  deriving DecidableEq, Repr

def versionNumber (c : Cursor) : Except Flaw (Nat × Cursor) :=
  let (digits, d) := c.span Char.isDigit
  if digits.isEmpty then .error .lexical else .ok (Integer.decimal digits, d)

def directive (c : Cursor) : Except Flaw (Directive × Cursor) := do
  let (name, c) := c.next.span isNameChar
  if name.isEmpty || !endsLineOrBlank c.rest then .error .lexical
  else
    let (d, c) ←
      if name = "YAML".toList then do
        let (major, c) ← versionNumber c.skipBlanks
        if !c.isAt '.' then .error .lexical
        else
          let (_, c) ← versionNumber c.next
          if endsLineOrBlank c.rest then pure (Directive.version major, c) else .error .lexical
      else if name = "TAG".toList then do
        let (handle, c) ← tagHandle c.skipBlanks
        if !c.isAt ' ' then .error .lexical
        else
          let (stem, c) ← tagText c.skipBlanks
          if endsLineOrBlank c.rest then pure (Directive.handle handle stem, c) else .error .lexical
      else pure (Directive.other, c.skipWhile (!isBreak ·))
    (c.finishLine).map fun c => (d, c)

end StyleBuild.Yaml
