import StyleBuild.Value

/-!
# Tags

A tag says what kind of value a node stands for. A plain scalar without a tag gets one by its form: the
forms of a kind are told apart by the characters a scalar consists of.
-/

set_option autoImplicit false

namespace StyleBuild.Yaml

inductive Tag where
  | null | bool | int | real | text | moment | octets
  | list | map | set | orderedMap | pairs
  /-- The key that merges another mapping. -/
  | merge
  /-- The key of a mapping's own value. -/
  | default
  | other
  deriving DecidableEq, Repr

namespace Tag

def stem : String := "tag:yaml.org,2002:"

def ofName (name : String) : Tag :=
  ([("null", null), ("bool", bool), ("int", int), ("float", real), ("str", text), ("timestamp", moment),
    ("binary", octets), ("seq", list), ("map", map), ("set", set), ("omap", orderedMap),
    ("pairs", pairs), ("merge", merge), ("value", default)].map fun (n, t) => (stem ++ n, t)).lookup name
    |>.getD other

def isCollection : Tag → Bool
  | list | map | set | orderedMap | pairs => true
  | _ => false

/-! ## Forms of plain scalars -/

def forms (word : String) : List String :=
  [word, word.capitalize, String.ofList (word.toList.map Char.toUpper)]

/-- Words for null; so is no text at all. -/
def nullWords : List String := ["", "~"] ++ forms "null"

def trueWords : List String := ["yes", "true", "on"].flatMap forms

def falseWords : List String := ["no", "false", "off"].flatMap forms

def unsigned : List Char → List Char
  | '-' :: cs | '+' :: cs => cs
  | cs => cs

/-- A digit, or an underscore between digits. -/
def isDigitOrBar (c : Char) : Bool := c.isDigit || c == '_'

def someOf (p : Char → Bool) (cs : List Char) : Bool := !cs.isEmpty && cs.all p

def startsDigit (cs : List Char) : Bool := (cs.head?.map Char.isDigit).getD false

/-- One or more parts of a sixty-based number, each a colon and a number below sixty, and the rest. -/
def sixtieths : List Char → Nat × List Char
  | ':' :: a :: b :: rest =>
    if a.isDigit ∧ b.isDigit ∧ a.toNat ≤ 53 then
      let (n, rest) := sixtieths rest
      (n + 1, rest)
    else if a.isDigit then
      let (n, rest) := sixtieths (b :: rest)
      (n + 1, rest)
    else (0, ':' :: a :: b :: rest)
  | [':', a] => if a.isDigit then (1, []) else (0, [':', a])
  | cs => (0, cs)

def sexagesimal? (cs : List Char) : Option (List Char) :=
  let (n, rest) := sixtieths (cs.dropWhile isDigitOrBar)
  if startsDigit cs ∧ 0 < n then some rest else none

def isExponent : List Char → Bool
  | [] => true
  | e :: s :: ds => (e == 'e' || e == 'E') && (s == '+' || s == '-') && someOf Char.isDigit ds
  | _ => false

def isReal (cs : List Char) : Bool :=
  let body := unsigned cs
  let isFraction (cs : List Char) : Bool := isExponent (cs.dropWhile isDigitOrBar)
  (startsDigit body && match body.dropWhile isDigitOrBar with
      | '.' :: rest => isFraction rest
      | _ => false)
    || (match cs with
      | '.' :: rest => startsDigit rest && isFraction rest
      | _ => false)
    || (match sexagesimal? body with
      | some ('.' :: rest) => rest.all isDigitOrBar
      | _ => false)
    || [".inf", ".Inf", ".INF"].contains (String.ofList body)
    || [".nan", ".NaN", ".NAN"].contains (String.ofList cs)

/-- The form of an integer: binary, octal, hexadecimal, decimal or sixty-based. -/
def isInt (cs : List Char) : Bool :=
  let isOneOf (digits : String) (c : Char) : Bool := c == '_' || digits.toList.contains c
  match unsigned cs with
  | ['0'] => true
  | '0' :: 'b' :: ds => someOf (isOneOf "01") ds
  | '0' :: 'x' :: ds => someOf (isOneOf "0123456789abcdefABCDEF") ds
  | '0' :: ds => someOf (isOneOf "01234567") ds
  | d :: ds =>
    d.isDigit && (ds.all isDigitOrBar || (match sexagesimal? (d :: ds) with
      | some rest => rest.isEmpty
      | none => false))
  | [] => false

def oneOrTwo : List Char → Option (List Char × List Char)
  | a :: b :: rest =>
    if a.isDigit then (if b.isDigit then some ([a, b], rest) else some ([a], b :: rest)) else none
  | [a] => if a.isDigit then some ([a], []) else none
  | [] => none

def exactly (n : Nat) (cs : List Char) : Option (List Char × List Char) :=
  if (cs.take n).length = n ∧ (cs.take n).all Char.isDigit then some (cs.take n, cs.drop n) else none

def past (c : Char) : List Char → Option (List Char)
  | d :: rest => if d = c then some rest else none
  | [] => none

structure Zone where
  negative : Bool
  hours : List Char
  minutes : List Char
  deriving DecidableEq, Repr

structure Clock where
  hour : List Char
  minute : List Char
  second : List Char
  fraction : List Char
  zone : Option Zone
  deriving DecidableEq, Repr

structure Stamp where
  year : List Char
  month : List Char
  day : List Char
  clock : Option Clock
  deriving DecidableEq, Repr

def zone? (cs : List Char) : Option (Option Zone) :=
  match cs.dropWhile fun c => c == ' ' || c == '\t' with
  | ['Z'] => some (some ⟨false, ['0'], []⟩)
  | s :: rest => do
    if s = '+' ∨ s = '-' then
      let (hours, rest) ← oneOrTwo rest
      match rest with
      | [] => some (some ⟨s = '-', hours, []⟩)
      | ':' :: rest =>
        let (minutes, rest) ← exactly 2 rest
        if rest.isEmpty then some (some ⟨s = '-', hours, minutes⟩) else none
      | _ => none
    else none
  | [] => if cs.isEmpty then some none else none

def clock? (cs : List Char) : Option Clock := do
  let rest ← match cs with
    | 'T' :: rest | 't' :: rest => some rest
    | c :: _ => if c = ' ' ∨ c = '\t' then some (cs.dropWhile fun c => c == ' ' || c == '\t') else none
    | [] => none
  let (hour, rest) ← oneOrTwo rest
  let (minute, rest) ← exactly 2 (← past ':' rest)
  let (second, rest) ← exactly 2 (← past ':' rest)
  let (fraction, rest) := match rest with
    | '.' :: rest => (rest.takeWhile Char.isDigit, rest.dropWhile Char.isDigit)
    | rest => ([], rest)
  let zone ← zone? rest
  pure ⟨hour, minute, second, fraction, zone⟩

def stamp? (cs : List Char) : Option Stamp := do
  let (year, rest) ← exactly 4 cs
  let (month, rest) ← oneOrTwo (← past '-' rest)
  let (day, rest) ← oneOrTwo (← past '-' rest)
  if rest.isEmpty then pure ⟨year, month, day, none⟩
  else pure ⟨year, month, day, some (← clock? rest)⟩

def isMoment (cs : List Char) : Bool :=
  match stamp? cs with
  | some s => s.clock.isSome || (s.month.length == 2 && s.day.length == 2)
  | none => false

/-- The tag of a scalar by its form; a line end after it does not count. -/
def ofForm (s : String) : Tag :=
  let cs := if s.toList.getLast? = some '\n' then s.toList.dropLast else s.toList
  let word := String.ofList cs
  let isNull := if s.isEmpty then true else !cs.isEmpty && nullWords.contains word
  if trueWords.contains word || falseWords.contains word then bool
  else if isReal cs then real
  else if isInt cs then int
  else if word = "<<" then merge
  else if isNull then null
  else if isMoment cs then moment
  else if word = "=" then default
  else if ["!", "&", "*"].contains word then other
  else text

end Tag

end StyleBuild.Yaml
