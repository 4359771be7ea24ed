import StyleBuild.Command.Arguments
import StyleBuild.Compile.Assemble
import StyleBuild.Fault

/-!
# Settings of the compile command

Options are checked in the order of their first mention, then the input, then whether anything is left
over. Paths are checked against the file tree before anything is compiled.
-/

set_option autoImplicit false

namespace StyleBuild.Command

inductive Choice where
  | loadPath | style | sourceMap | packageConfig | quietDeps | verbose | charset | color | awaiting
  | toolchain | output | logLevel | help
  deriving DecidableEq, Repr

def spellings : List (Spelling Choice) :=
  [⟨"--load-path", .loadPath, none⟩, ⟨"-I", .loadPath, none⟩, ⟨"--style", .style, none⟩,
   ⟨"--source-map", .sourceMap, none⟩, ⟨"--package-config", .packageConfig, none⟩,
   ⟨"--quiet-deps", .quietDeps, some true⟩, ⟨"--verbose", .verbose, some true⟩,
   ⟨"--charset", .charset, some true⟩, ⟨"--no-charset", .charset, some false⟩,
   ⟨"--color", .color, some true⟩, ⟨"--no-color", .color, some false⟩,
   ⟨"--async", .awaiting, some true⟩, ⟨"--toolchain", .toolchain, none⟩,
   ⟨"--output", .output, none⟩, ⟨"-o", .output, none⟩, ⟨"--log-level", .logLevel, none⟩,
   ⟨"--help", .help, some true⟩, ⟨"-h", .help, some true⟩]

def Choice.title (c : Choice) : String :=
  " / ".intercalate ((spellings.filter fun s => s.option == c).map fun s => "'" ++ s.name ++ "'")

inductive Misuse where
  | missing (operand : String)
  | invalid (title problem : String)
  | extra (operands : List String)
  /-- Looking at a value is a fault itself. -/
  | broken (f : Fault)
  deriving Repr

def Misuse.message : Misuse → String
  | .missing operand => "Missing argument '" ++ operand ++ "'."
  | .invalid title problem => "Invalid value for " ++ title ++ ": " ++ problem
  | .extra operands =>
    "Got unexpected extra argument" ++ (if operands.length = 1 then "" else "s") ++ " ("
      ++ " ".intercalate operands ++ ")"
  | .broken f => f.message

inductive PathRule where
  | existingFile | file | directory
  deriving DecidableEq, Repr

def PathRule.misuse? (r : PathRule) (t : FileTree) (title s : String) : Option Misuse :=
  let shown := Literal.ofText s
  if s.toList.contains (Char.ofNat 0) then some (.broken (.unresolvedPath .nul))
  else match r, t.stat s with
    | .existingFile, none => some (.invalid title ("File " ++ shown ++ " does not exist."))
    | .existingFile, some .dir | .file, some .dir =>
      some (.invalid title ("File " ++ shown ++ " is a directory."))
    | .directory, some (.file _) => some (.invalid title ("Directory " ++ shown ++ " is a file."))
    | _, _ => none

/-- The one of some names that a text spells in any case. -/
def oneOf (names : List String) (s : String) : Except String String :=
  match names.find? fun n => Text.foldsTo n s with
  | some n => .ok n
  | none => .error (Literal.ofText s ++ " is not one of "
      ++ ", ".intercalate (names.map fun n => "'" ++ n ++ "'") ++ ".")

def levelNames : List String := ["debug", "info", "warning", "error"]

def Choice.misuse? (c : Choice) (t : FileTree) (a : Arguments Choice) : Option Misuse :=
  let named (names : List String) : Option Misuse :=
    (a.value? c).bind fun s => match oneOf names s with
      | .ok _ => none
      | .error problem => some (.invalid c.title problem)
  match c with
  | .loadPath => (a.values c).findSome? (PathRule.directory.misuse? t c.title)
  | .sourceMap | .output => (a.value? c).bind (PathRule.file.misuse? t c.title)
  | .packageConfig => (a.value? c).bind (PathRule.existingFile.misuse? t c.title)
  | .style => named (Style.all.map Style.name)
  | .logLevel => named levelNames
  | _ => none

def inputTitle : String := "INPUT"

def inputOf (t : FileTree) (operands : List String) : Except Misuse String :=
  match operands with
  | [] => .error (.missing inputTitle)
  | input :: _ =>
    match PathRule.existingFile.misuse? t ("'" ++ inputTitle ++ "'") input with
    | some m => .error m
    | none => .ok input

structure Settings where
  input : Path
  loadPaths : List Path
  style : Style
  mapPath : Option Path
  packageConfig : Option Path
  quietDeps : Bool
  verbose : Bool
  charset : Bool
  color : Bool
  mode : Mode
  toolchain : Option String
  output : Option Path
  level : String

def Settings.ofArguments (t : FileTree) (a : Arguments Choice) : Except Misuse Settings :=
  match a.mentioned.findSome? fun c => c.misuse? t a with
  | some m => .error m
  | none => do
    let input ← inputOf t a.operands
    if 1 < a.operands.length then .error (.extra a.operands.tail)
    else
      let path (c : Choice) : Option Path := (a.value? c).map Path.ofText
      let named (c : Choice) (names : List String) (dflt : String) : String :=
        match (a.value? c).map (oneOf names) with
        | some (.ok n) => n
        | _ => dflt
      pure
        { input := Path.ofText input
          loadPaths := (a.values .loadPath).map Path.ofText
          style := (Style.ofName? (named .style (Style.all.map Style.name) "")).getD .expanded
          mapPath := path .sourceMap
          packageConfig := path .packageConfig
          quietDeps := (a.flag? .quietDeps).getD false
          verbose := (a.flag? .verbose).getD false
          charset := (a.flag? .charset).getD true
          color := (a.flag? .color).getD false
          mode := if (a.flag? .awaiting).getD false then .awaiting else .direct
          toolchain := a.value? .toolchain
          output := path .output
          level := named .logLevel levelNames "warning" }

end StyleBuild.Command
