import StyleBuild.Table
import StyleBuild.Value.Integer

/-!
# Reading JSON text

The reader takes the three number names `NaN`, `Infinity` and `-Infinity` beside the standard's values,
and of a repeated field name the last value. A refusal names its cause and the position it was found
at, counted in characters. An integer with too many digits and brackets nested too deeply are refused as
well, without a position.

Texts here consist of characters, and half of a surrogate pair is none: where the format lets an escape stand
for one alone, the reader puts the null character in its place.
-/

set_option autoImplicit false

namespace StyleBuild.Json

inductive Cause where
  | value | propertyName | colon | comma | extra | unterminated | control | escape | unicode | mark
  | digits (count : Nat)
  | nesting (inList : Bool)
  deriving DecidableEq, Repr

structure Refusal where
  cause : Cause
  position : Nat
  deriving DecidableEq, Repr

def Cause.text : Cause → String
  | .value => "Expecting value"
  | .propertyName => "Expecting property name enclosed in double quotes"
  | .colon => "Expecting ':' delimiter"
  | .comma => "Expecting ',' delimiter"
  | .extra => "Extra data"
  | .unterminated => "Unterminated string starting at"
  | .control => "Invalid control character at"
  | .escape => "Invalid \\escape"
  | .unicode => "Invalid \\uXXXX escape"
  | .mark => "Unexpected UTF-8 BOM (decode using utf-8-sig)"
  | .digits count => (Integer.Problem.tooLong count).message
  | .nesting inList => "maximum recursion depth exceeded while decoding a JSON "
      ++ (if inList then "array" else "object") ++ " from a unicode string"

def Refusal.kind (r : Refusal) : String :=
  match r.cause with
  | .digits _ => "ValueError"
  | .nesting _ => "RecursionError"
  | _ => "JSONDecodeError"

def Refusal.isFormat (r : Refusal) : Bool :=
  match r.cause with
  | .digits _ | .nesting _ => false
  | _ => true

/-- The message of a refusal: its cause with line and column from one and the offset from zero. -/
def Refusal.message (r : Refusal) (doc : List Char) : String :=
  if !r.isFormat then r.cause.text else
  let before := doc.take r.position
  let line := before.count '\n' + 1
  let column := (before.reverse.takeWhile (· != '\n')).length + 1
  r.cause.text ++ ": line " ++ toString line ++ " column " ++ toString column ++ " (char "
    ++ toString r.position ++ ")"

structure Cursor where
  rest : List Char
  position : Nat

namespace Cursor

def next (c : Cursor) : Cursor := ⟨c.rest.tail, c.position + 1⟩

def skip (c : Cursor) (n : Nat) : Cursor := ⟨c.rest.drop n, c.position + n⟩

def blanks (c : Cursor) : Cursor :=
  c.skip (c.rest.takeWhile fun x => x == ' ' || x == '\t' || x == '\n' || x == '\r').length

def stop {α : Type} (c : Cursor) (cause : Cause) : Except Refusal α := .error ⟨cause, c.position⟩

end Cursor

def hexDigit? (c : Char) : Option Nat :=
  if '0' ≤ c ∧ c ≤ '9' then some (c.toNat - 48)
  else if 'a' ≤ c ∧ c ≤ 'f' then some (c.toNat - 87)
  else if 'A' ≤ c ∧ c ≤ 'F' then some (c.toNat - 55)
  else none

def hexUnit? : List Char → Option Nat
  | a :: b :: c :: d :: _ => do
    let a ← hexDigit? a
    let b ← hexDigit? b
    let c ← hexDigit? c
    let d ← hexDigit? d
    pure (((a * 16 + b) * 16 + c) * 16 + d)
  | _ => none

def escapeLetter? : Char → Option Char
  | '"' => some '"'
  | '\\' => some '\\'
  | '/' => some '/'
  | 'b' => some (Char.ofNat 8)
  | 'f' => some (Char.ofNat 12)
  | 'n' => some '\n'
  | 'r' => some '\r'
  | 't' => some '\t'
  | _ => none

/-- The characters up to the closing quote; `opening` is the offset of the opening one. Two escapes that
make a surrogate pair are one character, one of them alone becomes the null character. -/
def readString (opening : Nat) : Nat → Cursor → List Char → Except Refusal (String × Cursor)
  | 0, _, _ => .error ⟨.unterminated, opening⟩
  | fuel + 1, c, acc =>
    match c.rest with
    | [] => .error ⟨.unterminated, opening⟩
    | '"' :: _ => .ok (String.ofList acc.reverse, c.next)
    | '\\' :: [] => .error ⟨.unterminated, opening⟩
    | '\\' :: 'u' :: digits =>
      if digits.length ≤ 4 then c.next.stop .unicode
      else match hexUnit? digits with
        | none => c.next.stop .unicode
        | some high =>
          let single := fun (_ : Unit) => readString opening fuel (c.skip 6) (Char.ofNat high :: acc)
          if 0xd800 ≤ high ∧ high ≤ 0xdbff ∧ 10 < digits.length then
            match digits.drop 4 with
            | '\\' :: 'u' :: more =>
              match hexUnit? more with
              | none => (c.skip 7).stop .unicode
              | some low =>
                if 0xdc00 ≤ low ∧ low ≤ 0xdfff then
                  readString opening fuel (c.skip 12)
                    (Char.ofNat (0x10000 + (high - 0xd800) * 0x400 + (low - 0xdc00)) :: acc)
                else single ()
            | _ => single ()
          else single ()
    | '\\' :: letter :: _ =>
      match escapeLetter? letter with
      | some x => readString opening fuel (c.skip 2) (x :: acc)
      | none => c.stop .escape
    | x :: _ =>
      if x.toNat < 0x20 then c.stop .control else readString opening fuel c.next (x :: acc)

def readNumber (c : Cursor) : Except Refusal (Value × Cursor) :=
  let neg := c.rest.head? == some '-'
  let c0 := if neg then c.next else c
  let whole := if c0.rest.head? == some '0' then ['0'] else c0.rest.takeWhile Char.isDigit
  if whole.isEmpty then c.stop .value
  else
    let c1 := c0.skip whole.length
    let places := match c1.rest with
      | '.' :: more => more.takeWhile Char.isDigit
      | _ => []
    let c2 := if places.isEmpty then c1 else c1.skip (places.length + 1)
    let (power, size) : List Char × Nat := match c2.rest with
      | e :: sign :: more =>
        if e = 'e' ∨ e = 'E' then
          if sign = '-' ∨ sign = '+' then (more.takeWhile Char.isDigit, 2)
          else ((sign :: more).takeWhile Char.isDigit, 1)
        else ([], 0)
      | _ => ([], 0)
    if places.isEmpty ∧ power.isEmpty then
      if Integer.maxDigits < whole.length then c.stop (.digits whole.length)
      else .ok (.int (if neg then -(Integer.decimal whole : Int) else Integer.decimal whole), c1)
    else
      let e : Int := Integer.decimal power
      let e := if size = 2 ∧ c2.rest.tail.head? == some '-' then -e else e
      let x := Binary64.ofDecimal neg (Integer.decimal (whole ++ places)) (e - places.length)
      .ok (.real x, if power.isEmpty then c2 else c2.skip (size + power.length))

/-- How many lists and records may be nested. -/
def maxDepth : Nat := 980

mutual
/-- One value inside `depth` lists and records; the fuel bounds the steps and is the length of the text. -/
def readValue (depth : Nat) : Nat → Cursor → Except Refusal (Value × Cursor)
  | 0, c => c.stop .value
  | fuel + 1, c =>
    match c.rest with
    | '"' :: _ => do
      let (s, c) ← readString c.position (fuel + 1) c.next []
      pure (.text s, c)
    | '\x7b' :: _ =>
      if maxDepth ≤ depth then c.stop (.nesting false)
      else
        let c := c.next.blanks
        match c.rest with
        | '\x7d' :: _ => .ok (.record [], c.next)
        | _ => readFields (depth + 1) fuel c []
    | '[' :: _ =>
      if maxDepth ≤ depth then c.stop (.nesting true)
      else
        let c := c.next.blanks
        match c.rest with
        | ']' :: _ => .ok (.list [], c.next)
        | _ => readItems (depth + 1) fuel c []
    | 'n' :: 'u' :: 'l' :: 'l' :: _ => .ok (.null, c.skip 4)
    | 't' :: 'r' :: 'u' :: 'e' :: _ => .ok (.bool true, c.skip 4)
    | 'f' :: 'a' :: 'l' :: 's' :: 'e' :: _ => .ok (.bool false, c.skip 5)
    | 'N' :: 'a' :: 'N' :: _ => .ok (.real Binary64.nan, c.skip 3)
    | 'I' :: 'n' :: 'f' :: 'i' :: 'n' :: 'i' :: 't' :: 'y' :: _ =>
      .ok (.real (Binary64.infinity false), c.skip 8)
    | '-' :: 'I' :: 'n' :: 'f' :: 'i' :: 'n' :: 'i' :: 't' :: 'y' :: _ =>
      .ok (.real (Binary64.infinity true), c.skip 9)
    | _ => readNumber c
def readItems (depth : Nat) : Nat → Cursor → List Value → Except Refusal (Value × Cursor)
  | 0, c, _ => c.stop .value
  | fuel + 1, c, acc => do
    let (v, c) ← readValue depth fuel c
    let c := c.blanks
    match c.rest with
    | ']' :: _ => pure (.list (v :: acc).reverse, c.next)
    | ',' :: _ => readItems depth fuel c.next.blanks (v :: acc)
    | _ => c.stop .comma
def readFields (depth : Nat) : Nat → Cursor → List (String × Value) → Except Refusal (Value × Cursor)
  | 0, c, _ => c.stop .propertyName
  | fuel + 1, c, acc =>
    match c.rest with
    | '"' :: _ => do
      let (k, c) ← readString c.position (fuel + 1) c.next []
      let c := c.blanks
      match c.rest with
      | ':' :: _ =>
        let (v, c) ← readValue depth fuel c.next.blanks
        let c := c.blanks
        let acc := Table.set k v acc
        match c.rest with
        | '\x7d' :: _ => pure (.record acc, c.next)
        | ',' :: _ => readFields depth fuel c.next.blanks acc
        | _ => c.stop .comma
      | _ => c.stop .colon
    | _ => c.stop .propertyName
end

def read (doc : List Char) : Except Refusal Value :=
  if doc.head? == some (Char.ofNat 0xfeff) then .error ⟨.mark, 0⟩
  else do
    let (v, c) ← readValue 0 (2 * doc.length + 2) (Cursor.mk doc 0).blanks
    let c := c.blanks
    if c.rest.isEmpty then pure v else c.stop .extra

end StyleBuild.Json
