import StyleBuild.Value.Literal

/-!
# JSON text of a value

Only printable ASCII is written: every other character is an escape, or two for the halves of its UTF-16
form. On one line items are separated by a comma and a blank; indented, each item has a line of its own. A value
of a type that JSON lacks is written as the text of its literal.
-/

set_option autoImplicit false

namespace StyleBuild.Json

def unitEscape (n : Nat) : List Char := '\\' :: 'u' :: Literal.hex 4 n

def escape (c : Char) : List Char :=
  if c = '"' ∨ c = '\\' then ['\\', c]
  else if c = '\n' then ['\\', 'n']
  else if c = '\r' then ['\\', 'r']
  else if c = '\t' then ['\\', 't']
  else if c.toNat = 8 then ['\\', 'b']
  else if c.toNat = 12 then ['\\', 'f']
  else if 0x20 ≤ c.toNat ∧ c.toNat < 0x7f then [c]
  else if c.toNat < 0x10000 then unitEscape c.toNat
  else unitEscape (0xd800 + (c.toNat - 0x10000) / 0x400)
    ++ unitEscape (0xdc00 + (c.toNat - 0x10000) % 0x400)

def quote (s : String) : String := String.ofList ('"' :: s.toList.flatMap escape ++ ['"'])

/-- A JSON number; the three values without one get their usual names. -/
def number (x : Binary64) : String :=
  if x.isNan then "NaN"
  else if x.isInfinite then (if x.negative then "-Infinity" else "Infinity")
  else x.finiteText

def breakLine (indent : Option Nat) (depth : Nat) : String :=
  match indent with
  | some n => "\n" ++ "".pushn ' ' (n * depth)
  | none => ""

def separator (indent : Option Nat) (depth : Nat) : String :=
  match indent with
  | some _ => "," ++ breakLine indent depth
  | none => ", "

def enclose (indent : Option Nat) (depth : Nat) (opening closing : String) (items : List String) :
    String :=
  if items.isEmpty then opening ++ closing
  else opening ++ breakLine indent (depth + 1)
    ++ (separator indent (depth + 1)).intercalate items ++ breakLine indent depth ++ closing

mutual
def writeAt (indent : Option Nat) (depth : Nat) : Value → String
  | .null => "null"
  | .bool b => if b then "true" else "false"
  | .int n => toString n
  | .real x => number x
  | .text s => quote s
  | .list xs => enclose indent depth "[" "]" (writeItems indent (depth + 1) xs)
  | .record fs => enclose indent depth "\x7b" "\x7d" (writeFields indent (depth + 1) fs)
  | v => quote (Literal.ofValue v)
def writeItems (indent : Option Nat) (depth : Nat) : List Value → List String
  | [] => []
  | v :: rest => writeAt indent depth v :: writeItems indent depth rest
def writeFields (indent : Option Nat) (depth : Nat) : List (String × Value) → List String
  | [] => []
  | (k, v) :: rest => (quote k ++ ": " ++ writeAt indent depth v) :: writeFields indent depth rest
end

/-- A value as JSON text, on one line or indented by the given number of blanks per level. -/
def write (indent : Option Nat) (v : Value) : String := writeAt indent 0 v

end StyleBuild.Json
