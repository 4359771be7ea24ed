import StyleBuild.Value.Binary64
import StyleBuild.Value.Calendar

/-!
# Untyped values

Options, error contexts, configuration documents and log fields arrive as untyped values. A record
keeps its fields in the order in which they were written; a name occurs once. A mapping is a record with
keys of any type; dates, moments, octets, tuples and sets occur in configuration documents only.
-/

set_option autoImplicit false

namespace StyleBuild

inductive Value where
  | null
  | bool (b : Bool)
  | int (n : Int)
  | real (x : Binary64)
  | text (s : String)
  | list (items : List Value)
  | record (fields : List (String × Value))
  /-- A record whose keys are not all text. -/
  | mapping (entries : List (Value × Value))
  | tuple (items : List Value)
  | set (items : List Value)
  | date (d : Date)
  | moment (m : Moment)
  | octets (bytes : List UInt8)
  deriving Repr, Inhabited

namespace Value

def typeName : Value → String
  | null => "NoneType"
  | bool _ => "bool"
  | int _ => "int"
  | real _ => "float"
  | text _ => "str"
  | list _ => "list"
  | record _ | mapping _ => "dict"
  | tuple _ => "tuple"
  | set _ => "set"
  | date _ => "datetime.date"
  | moment _ => "datetime.datetime"
  | octets _ => "bytes"

/-- Whether a value counts as absent: null, false, zero, and every empty text, list or record. -/
def isFalsy : Value → Bool
  | null => true
  | bool b => !b
  | int n => n == 0
  | real x => x.significand == 0 && x.exponent != 2047
  | text s => s.isEmpty
  | list xs => xs.isEmpty
  | record fs => fs.isEmpty
  | mapping es => es.isEmpty
  | tuple xs | set xs => xs.isEmpty
  | date _ | moment _ => false
  | octets bs => bs.isEmpty

def isNull : Value → Bool
  | null => true
  | _ => false

def entry? (name : String) : List (Value × Value) → Option Value
  | [] => none
  | (text k, v) :: rest => if k = name then some v else entry? name rest
  | _ :: rest => entry? name rest

def get? (v : Value) (name : String) : Option Value :=
  match v with
  | record fs => fs.lookup name
  | mapping es => entry? name es
  | _ => none

def ofText? : Option String → Value
  | some s => text s
  | none => null

def texts (xs : List String) : Value := list (xs.map text)

mutual
/-- Equality of values, fields in order. -/
def same : Value → Value → Bool
  | null, null => true
  | bool a, bool b => a == b
  | int a, int b => a == b
  | real a, real b => a == b
  | text a, text b => a == b
  | list a, list b => sameList a b
  | record a, record b => sameFields a b
  | mapping a, mapping b => sameEntries a b
  | tuple a, tuple b => sameList a b
  | set a, set b => sameList a b
  | date a, date b => a == b
  | moment a, moment b => a == b
  | octets a, octets b => a == b
  | _, _ => false
def sameList : List Value → List Value → Bool
  | [], [] => true
  | a :: as, b :: bs => same a b && sameList as bs
  | _, _ => false
def sameFields : List (String × Value) → List (String × Value) → Bool
  | [], [] => true
  | (j, a) :: as, (k, b) :: bs => j == k && same a b && sameFields as bs
  | _, _ => false
def sameEntries : List (Value × Value) → List (Value × Value) → Bool
  | [], [] => true
  | (j, a) :: as, (k, b) :: bs => same j k && same a b && sameEntries as bs
  | _, _ => false
end

instance : BEq Value := ⟨same⟩

end Value

end StyleBuild
