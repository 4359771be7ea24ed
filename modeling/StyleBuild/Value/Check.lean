import StyleBuild.Value.Literal
import StyleBuild.Value.Json.Reader
import StyleBuild.Text.Blank
import StyleBuild.Text.Split
import StyleBuild.Text.Digit

/-!
# Checking untyped values

A check turns an untyped value into a typed one or lists every rule it breaks, each with the place of
the offending part. Checks of several fields are combined applicatively, so that all violations are
reported, in the order of the fields; unknown fields come last, in the order they were written.
-/

set_option autoImplicit false

namespace StyleBuild

inductive Place where
  | field (name : String)
  | index (i : Nat)
  deriving DecidableEq, Repr

def Place.text : Place → String
  | .field name => name
  | .index i => toString i

inductive Rule where
  | missing | extra
  | intType | intParsing | intFraction | intSize | finite | notNegative
  | textType | textEmpty | codePattern
  | boolType | boolParsing
  | choice (allowed : List String)
  | listType | tupleType | recordType | modelType (model : String)
  | pathType | callableType
  | custom (text : String)
  deriving DecidableEq, Repr

namespace Rule

def code : Rule → String
  | missing => "missing"
  | extra => "extra_forbidden"
  | intType => "int_type"
  | intParsing => "int_parsing"
  | intFraction => "int_from_float"
  | intSize => "int_parsing_size"
  | finite => "finite_number"
  | notNegative => "greater_than_equal"
  | textType => "string_type"
  | textEmpty => "string_too_short"
  | codePattern => "string_pattern_mismatch"
  | boolType => "bool_type"
  | boolParsing => "bool_parsing"
  | choice _ => "enum"
  | listType => "list_type"
  | tupleType => "tuple_type"
  | recordType => "dict_type"
  | modelType _ => "model_type"
  | pathType => "path_type"
  | callableType => "callable_type"
  | custom _ => "value_error"

def alternatives (names : List String) : String :=
  let quoted := names.map fun n => "'" ++ n ++ "'"
  match quoted.getLast?, quoted.dropLast with
  | some last, [] => last
  | some last, before => ", ".intercalate before ++ " or " ++ last
  | none, _ => ""

def message : Rule → String
  | missing => "Field required"
  | extra => "Extra inputs are not permitted"
  | intType => "Input should be a valid integer"
  | intParsing => "Input should be a valid integer, unable to parse string as an integer"
  | intFraction => "Input should be a valid integer, got a number with a fractional part"
  | intSize => "Unable to parse input string as an integer, exceeded maximum size"
  | finite => "Input should be a finite number"
  | notNegative => "Input should be greater than or equal to 0"
  | textType => "Input should be a valid string"
  | textEmpty => "String should have at least 1 character"
  | codePattern => "String should match pattern '^E\\d\x7b3\x7d$'"
  | boolType => "Input should be a valid boolean"
  | boolParsing => "Input should be a valid boolean, unable to interpret input"
  | choice allowed => "Input should be " ++ alternatives allowed
  | listType => "Input should be a valid list"
  | tupleType => "Input should be a valid tuple"
  | recordType => "Input should be a valid dictionary"
  | modelType model => "Input should be a valid dictionary or instance of " ++ model
  | pathType => "Input is not a valid path for <class 'pathlib.Path'>"
  | callableType => "Input should be callable"
  | custom text => "Value error, " ++ text

end Rule

structure Violation where
  place : List Place
  rule : Rule
  input : Value
  deriving Repr

structure Checked (α : Type) where
  outcome : Except (List Violation) α

namespace Checked

variable {α β : Type}

instance : Applicative Checked where
  pure a := ⟨.ok a⟩
  seq f x := ⟨match f.outcome, (x ()).outcome with
    | .ok f, .ok a => .ok (f a)
    | .ok _, .error e => .error e
    | .error e, .ok _ => .error e
    | .error e, .error e' => .error (e ++ e')⟩

def fail (rule : Rule) (input : Value) : Checked α := ⟨.error [⟨[], rule, input⟩]⟩

def under (p : Place) (c : Checked α) : Checked α :=
  ⟨match c.outcome with
    | .ok a => .ok a
    | .error vs => .error (vs.map fun v => { v with place := p :: v.place })⟩

def andThen (c : Checked α) (k : α → Checked β) : Checked β :=
  match c.outcome with
  | .ok a => k a
  | .error vs => ⟨.error vs⟩

end Checked

abbrev Check (α : Type) := Value → Checked α

namespace Check

variable {α : Type}

/-- Null, or what the check accepts. -/
def optional (check : Check α) : Check (Option α)
  | .null => pure none
  | v => some <$> check v

def text : Check String
  | .text s => pure s
  | v => .fail .textType v

def nonempty (v : Value) : Checked String :=
  (text v).andThen fun s => if s.isEmpty then .fail .textEmpty v else pure s

/-- An integer without any ornament: an optional minus sign, and digits of which the first is no zero
unless it is the only one. -/
def strictInt (cs : List Char) : Except Rule Int :=
  let (neg, ds) := match cs with
    | '-' :: rest => (true, rest)
    | _ => (false, cs)
  let run := ds.takeWhile Char.isDigit
  if run.isEmpty ∨ (run.head? = some '0' ∧ run ≠ ['0']) then .error .intParsing
  else if Integer.maxDigits < run.length then .error .intSize
  else if run.length < ds.length then .error .intParsing
  else .ok (if neg then -(Integer.decimal run : Int) else Integer.decimal run)

/-- The text after leading zeros, and underscores among them; a zero before a point and the last of all
zeros stay. Other text has to start with a digit or a minus sign. -/
def afterZeros (cs : List Char) : Option (List Char) :=
  let starts (cs : List Char) : Bool := match cs with
    | c :: _ => ('1' ≤ c && c ≤ '9') || c == '-'
    | [] => false
  match cs with
  | '0' :: rest =>
    let isZero (c : Char) : Bool := c == '0' || c == '_'
    let zeros := '0' :: rest.takeWhile isZero
    match rest.dropWhile isZero with
    | [] => some (zeros.drop (zeros.length - 1))
    | '.' :: more => some (zeros.drop (zeros.length - 1) ++ '.' :: more)
    | more => if starts more then some more else none
  | cs => if starts cs then some cs else none

/-- The text without a fraction of zeros, of which there must be one. -/
def withoutZeroFraction (cs : List Char) : List Char :=
  match Text.cutAt '.' cs with
  | some (whole, zeros) => if !zeros.isEmpty && zeros.all (· == '0') then whole else cs
  | none => cs

/-- The text without underscores, which stand singly and inside it. -/
def withoutBars (cs : List Char) : List Char :=
  if cs.head? = some '_' ∨ cs.getLast? = some '_' ∨ Text.holds ['_', '_'] cs then cs
  else cs.filter (· != '_')

/-- The integer a text stands for: an optional sign, digits in groups, and an optional fraction of
zeros, with white space around it. -/
def intOfText (s : String) : Except Rule Int :=
  match strictInt s.toList with
  | .ok n => .ok n
  | .error .intSize => .error .intSize
  | .error _ =>
    let cs := match Text.trimBy Text.isSpace s.toList with
      | '+' :: '-' :: _ => none
      | '+' :: rest => afterZeros rest
      | rest => afterZeros rest
    match cs with
    | none => .error .intParsing
    | some cs => (strictInt (withoutBars (withoutZeroFraction cs))).mapError fun _ => .intParsing

def wordEnd : Int := Int.pow 2 63

/-- An integer, or a value that stands for one without loss. -/
def int (v : Value) : Checked Int :=
  match v with
  | .int n => pure n
  | .bool b => pure (if b then 1 else 0)
  | .real x =>
    if x.isNan || x.isInfinite then .fail .finite v
    else match x.toInt? with
      | none => .fail .intFraction v
      | some n => if -wordEnd < n ∧ n < wordEnd then pure n else .fail .intSize v
  | .text s =>
    match intOfText s with
    | .ok n => pure n
    | .error r => .fail r v
  | _ => .fail .intType v

def nat (v : Value) : Checked Nat :=
  (int v).andThen fun n => if n < 0 then .fail .notNegative v else pure n.toNat

def boolOfWord? (s : String) : Option Bool :=
  let w := String.ofList (s.toList.map Char.toLower)
  if ["0", "off", "f", "false", "n", "no"].contains w then some false
  else if ["1", "on", "t", "true", "y", "yes"].contains w then some true
  else none

def bool (v : Value) : Checked Bool :=
  let ofInt (n : Int) : Checked Bool :=
    if n = 0 then pure false else if n = 1 then pure true else .fail .boolParsing v
  match v with
  | .bool b => pure b
  | .int n => if -wordEnd ≤ n ∧ n < wordEnd then ofInt n else .fail .boolType v
  | .real x =>
    match x.toInt? with
    | some n => if -wordEnd < n ∧ n < wordEnd then ofInt n else .fail .boolType v
    | none => .fail .boolType v
  | .text s =>
    match boolOfWord? s with
    | some b => pure b
    | none => .fail .boolParsing v
  | _ => .fail .boolType v

def oneOf (names : List String) (ofName? : String → Option α) (v : Value) : Checked α :=
  match v with
  | .text s =>
    match ofName? s with
    | some a => pure a
    | none => .fail (.choice names) v
  | _ => .fail (.choice names) v

def items (check : Check α) (i : Nat) : List Value → Checked (List α)
  | [] => pure []
  | v :: rest => List.cons <$> (check v).under (.index i) <*> items check (i + 1) rest

def list (check : Check α) : Check (List α)
  | .list vs => items check 0 vs
  | v => .fail .listType v

def tuple (check : Check α) : Check (List α)
  | .list vs => items check 0 vs
  | v => .fail .tupleType v

def fields : Check (List (String × Value))
  | .record fs => pure fs
  | v => .fail .recordType v

def required (fs : List (String × Value)) (name : String) (check : Check α) : Checked α :=
  match fs.lookup name with
  | some v => (check v).under (.field name)
  | none => (Checked.fail .missing (.record fs)).under (.field name)

def withDefault (fs : List (String × Value)) (name : String) (dflt : α) (check : Check α) :
    Checked α :=
  match fs.lookup name with
  | some v => (check v).under (.field name)
  | none => pure dflt

def noOthers (fs : List (String × Value)) (known : List String) : Checked Unit :=
  let extra := fs.filter fun f => !known.contains f.1
  if extra.isEmpty then pure ()
  else ⟨.error (extra.map fun f => ⟨[.field f.1], .extra, f.2⟩)⟩

def model (name : String) (check : List (String × Value) → Checked α) : Check α
  | .record fs => check fs
  | v => .fail (.modelType name) v

end Check

end StyleBuild
