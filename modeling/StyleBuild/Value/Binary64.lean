/-!
# Binary64 numbers and their shortest decimal text

A number is its 64-bit pattern. `ofDecimal` rounds a decimal fraction to the nearest number, a tie
going to the even significand. `shortest` finds the fewest decimal digits that read back as the same
number and, of those, the nearest to it; all comparisons are between exact natural numbers.
-/

set_option autoImplicit false

namespace StyleBuild

/-- A binary64 number, by its bit pattern. -/
structure Binary64 where
  bits : Nat
  deriving DecidableEq, Repr, Inhabited

namespace Binary64

def negative (x : Binary64) : Bool := x.bits / Nat.pow 2 63 % 2 == 1

def exponent (x : Binary64) : Nat := x.bits / Nat.pow 2 52 % 2048

def fraction (x : Binary64) : Nat := x.bits % Nat.pow 2 52

def isNan (x : Binary64) : Bool := x.exponent == 2047 && x.fraction != 0

def isInfinite (x : Binary64) : Bool := x.exponent == 2047 && x.fraction == 0

/-- The significand `m` of a finite number `m * 2 ^ q`, its sign apart. -/
def significand (x : Binary64) : Nat :=
  if x.exponent = 0 then x.fraction else Nat.pow 2 52 + x.fraction

/-- The power `q` of a finite number `m * 2 ^ q`. -/
def power (x : Binary64) : Int := if x.exponent = 0 then -1074 else (x.exponent : Int) - 1075

def nan : Binary64 := ⟨2047 * Nat.pow 2 52 + Nat.pow 2 51⟩

def infinity (neg : Bool) : Binary64 := ⟨(if neg then Nat.pow 2 63 else 0) + 2047 * Nat.pow 2 52⟩

def toInt? (x : Binary64) : Option Int :=
  if x.exponent = 2047 then none
  else
    let sign : Int := if x.negative then -1 else 1
    if 0 ≤ x.power then some (sign * (x.significand * Nat.pow 2 x.power.toNat : Nat))
    else
      let d := Nat.pow 2 (-x.power).toNat
      if x.significand % d = 0 then some (sign * (x.significand / d : Nat)) else none

/-- A quotient rounded to the nearest natural number, a half to the even neighbour. -/
def roundDiv (num den : Nat) : Nat :=
  let q := num / den
  let r := 2 * (num % den)
  if r < den then q else if den < r then q + 1 else if q % 2 = 0 then q else q + 1

def ofQuotient (neg : Bool) (num den : Nat) : Binary64 :=
  let sign := if neg then Nat.pow 2 63 else 0
  let guess : Int := (Nat.log2 num : Int) - Nat.log2 den - 52
  let fits (q : Int) : Bool := num * Nat.pow 2 (-q).toNat < den * Nat.pow 2 (53 + q.toNat)
    && den * Nat.pow 2 (52 + q.toNat) ≤ num * Nat.pow 2 (-q).toNat
  let q := max (-1074) (if fits guess then guess else guess - 1)
  let m := roundDiv (num * Nat.pow 2 (-q).toNat) (den * Nat.pow 2 q.toNat)
  let (m, q) := if m = Nat.pow 2 53 then (Nat.pow 2 52, q + 1) else (m, q)
  if 971 < q then infinity neg
  else if m < Nat.pow 2 52 then ⟨sign + m⟩
  else ⟨sign + (q + 1075).toNat * Nat.pow 2 52 + (m - Nat.pow 2 52)⟩

/-- The number nearest to `m * 10 ^ e`; far out of range it is zero or infinite. -/
def ofDecimal (neg : Bool) (m : Nat) (e : Int) : Binary64 :=
  let size : Int := (Nat.toDigits 10 m).length + e
  if m = 0 ∨ size < -340 then ⟨if neg then Nat.pow 2 63 else 0⟩
  else if 320 < size then infinity neg
  else ofQuotient neg (m * Nat.pow 10 e.toNat) (Nat.pow 10 (-e).toNat)

def ofDyadic (m q : Int) : Binary64 :=
  if m = 0 then ⟨0⟩ else ofQuotient (m < 0) (m.natAbs * Nat.pow 2 q.toNat) (Nat.pow 2 (-q).toNat)

def signedSignificand (x : Binary64) : Int :=
  if x.negative then -(x.significand : Int) else x.significand

def mul (x y : Binary64) : Binary64 :=
  ofDyadic (x.signedSignificand * y.signedSignificand) (x.power + y.power)

def add (x y : Binary64) : Binary64 :=
  let q := min x.power y.power
  let scaled (z : Binary64) : Int := z.signedSignificand * (Nat.pow 2 (z.power - q).toNat : Nat)
  ofDyadic (scaled x + scaled y) q

def neg (x : Binary64) : Binary64 :=
  ⟨if x.negative then x.bits - Nat.pow 2 63 else x.bits + Nat.pow 2 63⟩

/-- Decimal digits with the place of the point: `0.d₁d₂… * 10 ^ point`. -/
structure Digits where
  digits : List Char
  point : Int
  deriving DecidableEq, Repr

/-- Scaled comparison of a grid point `t * 10 ^ g` with `v * 2 ^ (q - 2)`. -/
def gridSides (q g : Int) (t v : Nat) : Nat × Nat :=
  (t * Nat.pow 10 g.toNat * Nat.pow 2 (2 - q).toNat,
    v * Nat.pow 2 (q - 2).toNat * Nat.pow 10 (-g).toNat)

/-- How many decimal places stand before the point: `10 ^ (k - 1) ≤ value < 10 ^ k`. -/
def magnitude (m : Nat) (q : Int) : Int :=
  let whole := m * Nat.pow 2 q.toNat / Nat.pow 2 (-q).toNat
  if 0 < whole then (Nat.toDigits 10 whole).length
  else
    match (List.range 330).find? fun j => Nat.pow 2 (-q).toNat ≤ m * Nat.pow 10 (j + 1) with
    | some j => -(j : Int)
    | none => 0

/-- The grid point with `n` digits that reads back as `m * 2 ^ q`, if there is one. -/
def onGrid (m : Nat) (q : Int) (lowGap : Nat) (k : Int) (n : Nat) : Option (Nat × Int) :=
  let g := k - n
  let t := (gridSides q g 1 (4 * m)).2 / (gridSides q g 1 0).1
  let within (c : Nat) : Bool :=
    let lo := gridSides q g c (4 * m - lowGap)
    let hi := gridSides q g c (4 * m + 2)
    if m % 2 = 0 then lo.2 ≤ lo.1 && hi.1 ≤ hi.2 else lo.2 < lo.1 && hi.1 < hi.2
  let nearer : Nat :=
    let here := gridSides q g (2 * t + 1) (8 * m)
    if here.2 < here.1 then t else if here.1 < here.2 then t + 1
    else if t % 2 = 0 then t else t + 1
  match within t, within (t + 1) with
  | true, true => some (nearer, g)
  | true, false => some (t, g)
  | false, true => some (t + 1, g)
  | false, false => none

def shortest (x : Binary64) : Digits :=
  let m := x.significand
  let q := x.power
  let lowGap := if x.fraction = 0 ∧ 1 < x.exponent then 1 else 2
  let k := magnitude m q
  match (List.range 17).findSome? fun n => onGrid m q lowGap k (n + 1) with
  | some (t, g) =>
    let ds := Nat.toDigits 10 t
    ⟨(ds.reverse.dropWhile (· == '0')).reverse, ds.length + g⟩
  | none => ⟨['0'], 1⟩

/-- Digits written out: positional while the leading digit's exponent is from -4 to 15, with an
exponent of at least two digits beyond. -/
def Digits.write (d : Digits) : List Char :=
  let n := d.digits.length
  if d.point < -3 ∨ 16 < d.point then
    let e := d.point - 1
    let mantissa := match d.digits with
      | [c] => [c]
      | c :: rest => c :: '.' :: rest
      | [] => ['0']
    let es := Nat.toDigits 10 e.natAbs
    mantissa ++ ['e', if e < 0 then '-' else '+'] ++ (if es.length < 2 then '0' :: es else es)
  else if d.point ≤ 0 then
    '0' :: '.' :: (List.replicate (-d.point).toNat '0' ++ d.digits)
  else if n ≤ d.point.toNat then
    d.digits ++ List.replicate (d.point.toNat - n) '0' ++ ['.', '0']
  else
    d.digits.take d.point.toNat ++ '.' :: d.digits.drop d.point.toNat

def finiteText (x : Binary64) : String :=
  let body := if x.significand = 0 then ['0', '.', '0'] else x.shortest.write
  String.ofList (if x.negative then '-' :: body else body)

end Binary64

end StyleBuild
