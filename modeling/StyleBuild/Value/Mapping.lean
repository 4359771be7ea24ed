import StyleBuild.Value

/-!
# Keys of mappings

Two keys are one if they are equal as values: a truth value is the number zero or one, a real number
without fraction is an integer, and a moment is its point in time. A key given again keeps its first
form and its place and takes the new value.
-/

set_option autoImplicit false

namespace StyleBuild.Value

def keyInt? : Value → Option Int
  | bool b => some (if b then 1 else 0)
  | int n => some n
  | real x => x.toInt?
  | _ => none

/-- Whether two keys are one; the number that is none is one key. -/
def sameKey (a b : Value) : Bool :=
  match keyInt? a, keyInt? b with
  | some m, some n => m == n
  | none, none =>
    match a, b with
    | real x, real y => x == y || (x.isNan && y.isNan)
    | moment x, moment y => x.same y
    | a, b => a == b
  | _, _ => false

/-- Whether a value can be a key: a collection that may change cannot. -/
def isKey : Value → Bool
  | list _ | record _ | mapping _ | set _ => false
  | _ => true

def setKey {α : Type} (k : Value) (a : α) : List (Value × α) → List (Value × α)
  | [] => [(k, a)]
  | (j, b) :: rest => if sameKey j k then (j, a) :: rest else (j, b) :: setKey k a rest

def fields? : List (Value × Value) → Option (List (String × Value))
  | [] => some []
  | (text k, v) :: rest => (fields? rest).map ((k, v) :: ·)
  | _ :: _ => none

/-- Entries as a value: a record if all keys are text. -/
def ofEntries (es : List (Value × Value)) : Value :=
  match fields? es with
  | some fs => record fs
  | none => mapping es

theorem fields?_texts (fs : List (String × Value)) :
    fields? (fs.map fun f => (text f.1, f.2)) = some fs := by
  induction fs with
  | nil => rfl
  | cons f rest ih => simp [fields?, ih]

end StyleBuild.Value
