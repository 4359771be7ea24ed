import StyleBuild.Text.Blank
import StyleBuild.Value.Literal

/-!
# Integers and their digits

Reading and showing an integer in base ten stops at a number of digits, so that both stay cheap; a base
that is a power of two has no such bound.
-/

set_option autoImplicit false

namespace StyleBuild.Integer

/-- The most digits of an integer that is read or shown in base ten. -/
def maxDigits : Nat := 4300

inductive Problem where
  | invalid (base : Nat) (text : String)
  /-- The text has too many digits. -/
  | tooLong (digits : Nat)
  /-- The integer has too many digits. -/
  | tooLarge
  deriving DecidableEq, Repr

def Problem.message : Problem → String
  | .invalid base text =>
    "invalid literal for int() with base " ++ toString base ++ ": " ++ Literal.ofText text
  | .tooLong digits => "Exceeds the limit (" ++ toString maxDigits
      ++ " digits) for integer string conversion: value has " ++ toString digits
      ++ " digits; use sys.set_int_max_str_digits() to increase the limit"
  | .tooLarge => "Exceeds the limit (" ++ toString maxDigits
      ++ " digits) for integer string conversion; use sys.set_int_max_str_digits() to increase the limit"

def digit? (c : Char) : Option Nat :=
  if c.isDigit then some (c.toNat - 48)
  else if 'a' ≤ c ∧ c ≤ 'f' then some (c.toNat - 87)
  else if 'A' ≤ c ∧ c ≤ 'F' then some (c.toNat - 55)
  else none

/-- The value of digits in a base; there must be one. -/
def ofDigits? (base : Nat) (cs : List Char) : Option Nat :=
  if cs.isEmpty then none
  else cs.foldlM (fun n c => match digit? c with
    | some d => if d < base then some (n * base + d) else none
    | none => none) 0

def decimal (ds : List Char) : Nat := ds.foldl (fun n d => n * 10 + (d.toNat - 48)) 0

def isShown (n : Int) : Bool := n.natAbs < Nat.pow 10 maxDigits

mutual
def allShown : Value → Bool
  | .int n => isShown n
  | .list xs | .tuple xs | .set xs => itemsShown xs
  | .record fs => fieldsShown fs
  | .mapping es => entriesShown es
  | _ => true
def itemsShown : List Value → Bool
  | [] => true
  | v :: rest => allShown v && itemsShown rest
def fieldsShown : List (String × Value) → Bool
  | [] => true
  | (_, v) :: rest => allShown v && fieldsShown rest
def entriesShown : List (Value × Value) → Bool
  | [] => true
  | (k, v) :: rest => allShown k && allShown v && entriesShown rest
end

def read (base : Nat) (cs : List Char) : Except Problem Int :=
  let body := Text.trimBy Text.isBlank cs
  let (negative, ds) := match body with
    | '-' :: rest => (true, rest)
    | '+' :: rest => (false, rest)
    | rest => (false, rest)
  let run := (ds.takeWhile Char.isDigit).length
  if base = 10 ∧ maxDigits < run then .error (.tooLong run)
  else match ofDigits? base ds with
    | some n => .ok (if negative then -(n : Int) else n)
    | none => .error (.invalid base (String.ofList cs))

end StyleBuild.Integer
