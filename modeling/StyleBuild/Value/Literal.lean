import StyleBuild.Value
import StyleBuild.Text.Printable

/-!
# Quoted literals

Messages show a value as a literal: a text stands in single quotes, or in double quotes if it holds a
single quote and no double one; the backslash, the enclosing quote and every character that is not
printable are escaped.
-/

set_option autoImplicit false

namespace StyleBuild.Literal

def hex (width n : Nat) : List Char :=
  let ds := Nat.toDigits 16 n
  List.replicate (width - ds.length) '0' ++ ds

def escape (quote c : Char) : List Char :=
  if c = quote ∨ c = '\\' then ['\\', c]
  else if c = '\n' then ['\\', 'n']
  else if c = '\r' then ['\\', 'r']
  else if c = '\t' then ['\\', 't']
  else if Text.isPrintable c then [c]
  else if c.toNat < 0x100 then '\\' :: 'x' :: hex 2 c.toNat
  else if c.toNat < 0x10000 then '\\' :: 'u' :: hex 4 c.toNat
  else '\\' :: 'U' :: hex 8 c.toNat

def quoteFor (cs : List Char) : Char := if Char.ofNat 39 ∈ cs ∧ '"' ∉ cs then '"' else Char.ofNat 39

def ofText (s : String) : String :=
  let q := quoteFor s.toList
  String.ofList (q :: s.toList.flatMap (escape q) ++ [q])

def ofReal (x : Binary64) : String :=
  if x.isNan then "nan"
  else if x.isInfinite then (if x.negative then "-inf" else "inf")
  else x.finiteText

/-- Octets as a literal: printable ASCII stands for itself. -/
def ofOctets (bytes : List UInt8) : String :=
  let cs := bytes.map fun b => Char.ofNat b.toNat
  let q := quoteFor cs
  let piece (c : Char) : List Char := if c.toNat < 0x80 then escape q c else '\\' :: 'x' :: hex 2 c.toNat
  String.ofList ('b' :: q :: cs.flatMap piece ++ [q])

def call (name : String) (arguments : List String) : String :=
  name ++ "(" ++ ", ".intercalate arguments ++ ")"

def ofSeconds (n : Int) : String :=
  let days := Int.fdiv n 86400
  let seconds := Int.fmod n 86400
  call "datetime.timedelta" (if n = 0 then ["0"]
    else (if days = 0 then [] else ["days=" ++ toString days])
      ++ (if seconds = 0 then [] else ["seconds=" ++ toString seconds]))

def ofDate (d : Date) : String := call "datetime.date" ([d.year, d.month, d.day].map toString)

/-- A moment as a literal; microseconds, and then seconds, are left out if they are zero. -/
def ofMoment (m : Moment) : String :=
  let fine := if m.micro = 0 then (if m.second = 0 then [] else [m.second]) else [m.second, m.micro]
  let zone := match m.offset with
    | none => []
    | some 0 => ["tzinfo=datetime.timezone.utc"]
    | some n => ["tzinfo=" ++ call "datetime.timezone" [ofSeconds n]]
  call "datetime.datetime"
    (([m.date.year, m.date.month, m.date.day, m.hour, m.minute] ++ fine).map toString ++ zone)

/-- Items in the brackets of a tuple; a single one keeps its comma. -/
def tupleOf : List String → String
  | [one] => "(" ++ one ++ ",)"
  | items => "(" ++ ", ".intercalate items ++ ")"

/-- Items in the braces of a set, which are not empty. -/
def setOf : List String → String
  | [] => "set()"
  | items => "\x7b" ++ ", ".intercalate items ++ "\x7d"

mutual
def ofValue : Value → String
  | .null => "None"
  | .bool b => if b then "True" else "False"
  | .int n => toString n
  | .real x => ofReal x
  | .text s => ofText s
  | .list xs => "[" ++ ", ".intercalate (ofItems xs) ++ "]"
  | .record fs => "\x7b" ++ ", ".intercalate (ofFields fs) ++ "\x7d"
  | .mapping es => "\x7b" ++ ", ".intercalate (ofEntries es) ++ "\x7d"
  | .tuple xs => tupleOf (ofItems xs)
  | .set xs => setOf (ofItems xs)
  | .date d => ofDate d
  | .moment m => ofMoment m
  | .octets bs => ofOctets bs
def ofItems : List Value → List String
  | [] => []
  | v :: rest => ofValue v :: ofItems rest
def ofFields : List (String × Value) → List String
  | [] => []
  | (k, v) :: rest => (ofText k ++ ": " ++ ofValue v) :: ofFields rest
def ofEntries : List (Value × Value) → List String
  | [] => []
  | (k, v) :: rest => (ofValue k ++ ": " ++ ofValue v) :: ofEntries rest
end

/-- A value as it stands in running text: a text as it is, any other as a literal. -/
def display : Value → String
  | .text s => s
  | v => ofValue v

end StyleBuild.Literal
