import StyleBuild.Text.Case
import StyleBuild.Text.Split
import StyleBuild.Value.Integer
import StyleBuild.Value.Literal
import StyleBuild.Value.Yaml.Cursor
import StyleBuild.Value.Yaml.Tag

/-!
# Values of scalars

The tag of a scalar says how its text is read: as an integer in one of several bases, as a real number, as
a date or a moment, as octets, or as the text it is. A text that its tag does not fit is a fault of its own
kind.
-/

set_option autoImplicit false

namespace StyleBuild.Yaml

def withoutBars (s : String) : List Char := s.toList.filter (· != '_')

def signed (cs : List Char) : Except Flaw (Bool × List Char) :=
  match cs with
  | [] => .error (.unreadable "IndexError" "string index out of range")
  | '-' :: cs => .ok (true, cs)
  | '+' :: cs => .ok (false, cs)
  | cs => .ok (false, cs)

def integerIn (base : Nat) (cs : List Char) : Except Flaw Int :=
  (Integer.read base cs).mapError fun p => .unreadable "ValueError" p.message

/-- The value of parts in base sixty, the last one first. -/
def sixties : Int → List Int → Int
  | _, [] => 0
  | unit, d :: rest => d * unit + sixties (unit * 60) rest

def integer (s : String) : Except Flaw Int := do
  let (negative, cs) ← signed (withoutBars s)
  let n ← match cs with
    | ['0'] => pure 0
    | '0' :: 'b' :: ds => integerIn 2 ds
    | '0' :: 'x' :: ds => integerIn 16 ds
    | '0' :: ds => integerIn 8 ('0' :: ds)
    | [] => .error (.unreadable "IndexError" "string index out of range")
    | cs =>
      if cs.contains ':' then do
        let parts ← (Text.splitAtChar ':' cs).mapM (integerIn 10)
        pure (sixties 1 parts.reverse)
      else integerIn 10 cs
  pure (if negative then -n else n)

def decimal? (negative : Bool) (cs : List Char) : Option Binary64 :=
  let whole := cs.takeWhile Char.isDigit
  let (places, rest) := match cs.dropWhile Char.isDigit with
    | '.' :: rest => (rest.takeWhile Char.isDigit, rest.dropWhile Char.isDigit)
    | rest => ([], rest)
  let power? : Option Int := match rest with
    | [] => some 0
    | 'e' :: '-' :: ds => if Tag.someOf Char.isDigit ds then some (-(Integer.decimal ds : Int)) else none
    | 'e' :: '+' :: ds | 'e' :: ds =>
      if Tag.someOf Char.isDigit ds then some (Integer.decimal ds : Int) else none
    | _ => none
  match power? with
  | some e =>
    if whole.isEmpty && places.isEmpty then none
    else some (Binary64.ofDecimal negative (Integer.decimal (whole ++ places)) (e - places.length))
  | none => none

def realOf (cs : List Char) : Except Flaw Binary64 :=
  let body := Text.trimBy Text.isBlank cs
  let (negative, body) := match body with
    | '-' :: rest => (true, rest)
    | '+' :: rest => (false, rest)
    | rest => (false, rest)
  if body = "inf".toList ∨ body = "infinity".toList then .ok (Binary64.infinity negative)
  else if body = "nan".toList then .ok Binary64.nan
  else match decimal? negative body with
    | some x => .ok x
    | none => .error (.unreadable "ValueError"
        ("could not convert string to float: " ++ Literal.ofText (String.ofList cs)))

def realSixties : Binary64 → Nat → List Binary64 → Binary64
  | sum, _, [] => sum
  | sum, unit, d :: rest =>
    realSixties (sum.add (d.mul (Binary64.ofDyadic unit 0))) (unit * 60) rest

def real (s : String) : Except Flaw Binary64 := do
  let (negative, cs) ← signed ((withoutBars s).map Char.toLower)
  if cs = ".nan".toList then pure Binary64.nan
  else
    let x ← if cs = ".inf".toList then pure (Binary64.infinity false)
      else if cs.contains ':' then do
        let parts ← (Text.splitAtChar ':' cs).mapM realOf
        pure (realSixties ⟨0⟩ 1 parts.reverse)
      else realOf cs
    pure (if negative && !x.isNan then x.neg else x)

def inRange (flaw : Option String) (v : Value) : Except Flaw Value :=
  match flaw with
  | some text => .error (.unreadable "ValueError" text)
  | none => .ok v

/-- The distance of a zone from Greenwich in seconds, which is less than a day. -/
def zoneOffset (z : Tag.Zone) : Except Flaw Int :=
  let seconds : Int := (Integer.decimal z.hours * 60 + Integer.decimal z.minutes) * 60
  let seconds := if z.negative then -seconds else seconds
  if seconds.natAbs < 86400 then .ok seconds
  else .error (.unreadable "ValueError" ("offset must be a timedelta strictly between "
    ++ "-timedelta(hours=24) and timedelta(hours=24), not " ++ Literal.ofSeconds seconds ++ "."))

def moment (s : String) : Except Flaw Value :=
  let cs := if s.toList.getLast? = some '\n' then s.toList.dropLast else s.toList
  match Tag.stamp? cs with
  | none => .error (.unreadable "AttributeError" "'NoneType' object has no attribute 'groupdict'")
  | some t =>
    let date : Date := ⟨Integer.decimal t.year, Integer.decimal t.month, Integer.decimal t.day⟩
    match t.clock with
    | none => inRange date.flaw? (.date date)
    | some c => do
      let offset ← c.zone.mapM zoneOffset
      let micro := Integer.decimal ((c.fraction ++ List.replicate 6 '0').take 6)
      let m : Moment := ⟨date, Integer.decimal c.hour, Integer.decimal c.minute,
        Integer.decimal c.second, micro, offset⟩
      inRange m.flaw? (.moment m)

def sixBits? (c : Char) : Option Nat :=
  if c.isUpper then some (c.toNat - 65)
  else if c.isLower then some (c.toNat - 71)
  else if c.isDigit then some (c.toNat + 4)
  else if c = '+' then some 62
  else if c = '/' then some 63
  else none

/-- Octets in base 64: how many characters of a group were read, the bits left over and the equals signs
seen in it. Other characters are skipped, and what follows a full group's padding is not read. -/
def base64 : Nat → Nat → Nat → List UInt8 → List Char → Option (List UInt8)
  | place, _, _, acc, [] => if place = 0 then some acc.reverse else none
  | place, left, pads, acc, c :: rest =>
    if c = '=' then
      if 2 ≤ place then
        if 4 ≤ place + pads + 1 then some acc.reverse else base64 place left (pads + 1) acc rest
      else base64 place left pads acc rest
    else match sixBits? c with
      | none => base64 place left pads acc rest
      | some b =>
        match place with
        | 0 => base64 1 b 0 acc rest
        | 1 => base64 2 (b % 16) 0 ((left * 4 + b / 16).toUInt8 :: acc) rest
        | 2 => base64 3 (b % 4) 0 ((left * 16 + b / 4).toUInt8 :: acc) rest
        | _ => base64 0 0 0 ((left * 64 + b).toUInt8 :: acc) rest

def truth (s : String) : Except Flaw Bool :=
  let word := Text.lower s
  if ["yes", "true", "on"].contains word then .ok true
  else if ["no", "false", "off"].contains word then .ok false
  else .error (.unreadable "KeyError" (Literal.ofText word))

def scalarValue (t : Tag) (s : String) : Except Flaw Value :=
  match t with
  | .null => .ok .null
  | .bool => (truth s).map .bool
  | .int => (integer s).map .int
  | .real => (real s).map .real
  | .text => .ok (.text s)
  | .moment => moment s
  | .octets =>
    if s.toList.all (·.toNat < 128) then
      match base64 0 0 0 [] s.toList with
      | some bytes => .ok (.octets bytes)
      | none => .error .construction
    else .error .construction
  | _ => .error .construction

end StyleBuild.Yaml
