import StyleBuild.Value.Literal
import StyleBuild.Text.Similar
import StyleBuild.Text.Split

/-!
# Command line arguments

Arguments are options and operands. A long option takes its value after an equals sign or from the next
argument, a short one from the rest of its own argument or from the next one; short options without
values may share an argument. Two dashes end the options. Long options similar to an unknown one are
suggested.
-/

set_option autoImplicit false

namespace StyleBuild.Command

/-- How an option is written, which option it is, and what it sets: nothing yet, if a value follows. -/
structure Spelling (ω : Type) where
  name : String
  option : ω
  sets : Option Bool

inductive Given where
  | value (s : String)
  | flag (b : Bool)
  deriving DecidableEq, Repr

inductive Unreadable where
  | unknown (name : String) (near : List String)
  | lacksValue (name : String)
  | takesNoValue (name : String)
  deriving DecidableEq, Repr

def suggestion (near : List String) : String :=
  match near.map Literal.ofText with
  | [] => ""
  | [one] => " Did you mean " ++ one ++ "?"
  | several => " (Did you mean one of: " ++ ", ".intercalate several ++ "?)"

def Unreadable.message : Unreadable → String
  | .unknown name near => "No such option " ++ Literal.ofText name ++ "." ++ suggestion near
  | .lacksValue name => "Option " ++ Literal.ofText name ++ " requires an argument."
  | .takesNoValue name => "Option " ++ Literal.ofText name ++ " does not take a value."

structure Arguments (ω : Type) where
  options : List (ω × Given) := []
  operands : List String := []

variable {ω : Type}

/-- The options of one argument; the last may still need a value. -/
structure Reading (ω : Type) where
  complete : List (ω × Given) := []
  open? : Option (String × ω) := none

def readLong (table : List (Spelling ω)) (name : String) (value : Option String) :
    Option (Except Unreadable (Reading ω)) :=
  (table.find? fun s => s.name == name).map fun s =>
    match s.sets, value with
    | none, some v => .ok { complete := [(s.option, .value v)] }
    | none, none => .ok { open? := some (name, s.option) }
    | some _, some _ => .error (.takesNoValue name)
    | some b, none => .ok { complete := [(s.option, .flag b)] }

def readShort (table : List (Spelling ω)) : List Char → Except Unreadable (Reading ω)
  | [] => .ok {}
  | c :: rest =>
    let name := String.ofList ['-', c]
    match table.find? fun s => s.name == name with
    | none => .error (.unknown name [])
    | some s =>
      match s.sets with
      | none =>
        if rest.isEmpty then .ok { open? := some (name, s.option) }
        else .ok { complete := [(s.option, .value (String.ofList rest))] }
      | some b => (readShort table rest).map fun r =>
          { r with complete := (s.option, .flag b) :: r.complete }

def isLong (s : String) : Bool := Text.startsWith "--" s

def longNames (table : List (Spelling ω)) : List String := (table.map Spelling.name).filter isLong

def readOption (table : List (Spelling ω)) (arg : String) : Except Unreadable (Reading ω) :=
  let cs := arg.toList
  let (name, value) := match Text.cutAt '=' cs with
    | some (name, value) => (String.ofList name, some (String.ofList value))
    | none => (arg, none)
  match if isLong arg then readLong table name value else none with
  | some r => r
  | none =>
    if isLong arg then .error (.unknown name (Text.similar (longNames table) name))
    else readShort table cs.tail

/-- Reads arguments. Unless operands and options may be mixed, the first operand ends the options. -/
def readArguments (table : List (Spelling ω)) (mixed : Bool) :
    List String → Except Unreadable (Arguments ω)
  | [] => .ok {}
  | arg :: rest =>
    if arg = "--" then .ok { operands := rest }
    else if arg.toList.head? = some '-' ∧ 1 < arg.length then
      match readOption table arg with
      | .error u => .error u
      | .ok r =>
        match r.open? with
        | none => (readArguments table mixed rest).map fun more =>
            { more with options := r.complete ++ more.options }
        | some (name, o) =>
          match rest with
          | [] => .error (.lacksValue name)
          | v :: rest => (readArguments table mixed rest).map fun more =>
              { more with options := r.complete ++ (o, .value v) :: more.options }
    else if mixed then
      (readArguments table mixed rest).map fun more =>
        { more with operands := arg :: more.operands }
    else .ok { operands := arg :: rest }

namespace Arguments

variable [DecidableEq ω]

/-- The options that were given, in the order of their first mention. -/
def mentioned (a : Arguments ω) : List ω :=
  a.options.foldl (fun acc o => if acc.contains o.1 then acc else acc ++ [o.1]) []

def values (a : Arguments ω) (o : ω) : List String :=
  a.options.filterMap fun x => match x.2 with
    | .value v => if x.1 = o then some v else none
    | .flag _ => none

def value? (a : Arguments ω) (o : ω) : Option String := (a.values o).getLast?

def flag? (a : Arguments ω) (o : ω) : Option Bool :=
  (a.options.filterMap fun x => match x.2 with
    | .flag b => if x.1 = o then some b else none
    | .value _ => none).getLast?

end Arguments

end StyleBuild.Command
