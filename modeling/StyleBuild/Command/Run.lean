import StyleBuild.Command.Settings
import StyleBuild.Compile.Api
import StyleBuild.Import.PackageFile
import StyleBuild.Text.Styling

/-!
# Running the command line

The program has one command, which compiles a stylesheet and writes the result to a file or to standard
output. Failures of a compilation end it with the exit code of their stage, files that may not be
written with a code of their own; any other fault is a crash.
-/

set_option autoImplicit false

namespace StyleBuild.Command

def programName : String := "sass-core"

def version : String := "0.1.0"

def usageExit : Nat := 2

def permissionExit : Nat := 3

def compileUsage : String := "compile [OPTIONS] " ++ inputTitle

structure Outcome (K : Kit) where
  exitCode : Nat
  out : String := ""
  err : String := ""
  crash : Option Fault := none
  /-- The least rank of events that are logged. -/
  threshold : Nat := 30
  world : World K

variable {K : Kit}

def Outcome.logged (o : Outcome K) : List Event :=
  o.world.events.filter fun e => o.threshold ≤ e.level.rank

/-- A line as it is printed where the output is no terminal. -/
def printed (text : String) : String := String.ofList (Text.unstyled text.toList) ++ "\n"

def refuse (name usage message : String) (w : World K) : Outcome K :=
  { exitCode := usageExit
    err := "Usage: " ++ programName ++ " " ++ usage ++ "\nTry '" ++ name
      ++ " --help' for help.\n\n" ++ printed ("Error: " ++ message)
    world := w }

/-- The refusal of arguments that cannot be read; one about a value stands alone. -/
def refuseReading (name usage : String) (u : Unreadable) (w : World K) : Outcome K :=
  match u with
  | .unknown _ _ => refuse name usage u.message w
  | _ => { exitCode := usageExit, err := printed ("Error: " ++ u.message), world := w }

/-! ## Compiling -/

def Settings.options (s : Settings) (packages : Option Packages) : List (String × Argument) :=
  [("load_paths", .value (.texts (s.loadPaths.map Path.toText))),
   ("package_config", match packages with
     | some c => .packages c
     | none => .value .null),
   ("style", .value (.text s.style.name)), ("quiet_deps", .value (.bool s.quietDeps)),
   ("verbose", .value (.bool s.verbose)), ("source_map", .value (.bool s.mapPath.isSome)),
   ("charset", .value (.bool s.charset))]

/-- Compiles: the package configuration is read first, then a toolchain is looked for. -/
def compile (s : Settings) (offers : List (EntryPoint K)) (w : World K) :
    Except Fault Result × World K :=
  match s.packageConfig.mapM (Packages.ofFile w.files) with
  | .error f => (.error f, w)
  | .ok packages =>
    let (found, events) := EntryPoint.discover (.ofText? s.toolchain) offers
    let w := w.emitAll events
    match found with
    | .error f => (.error f, w)
    | .ok t =>
      let operation : Operation := ⟨false, s.mode, false⟩
      match operation.request (.text s.input.toText) (s.options packages) with
      | .error f => (.error f, w)
      | .ok request =>
        let job : Job K := { request, mode := s.mode, toolchain := (.ok t, []) }
        let (r, session) := Compile.run job (fun _ _ _ w => (.value .declined, w))
          { world := w, cache := { resolvers := [] } }
        (r, session.world)

/-! ## Writing the result -/

def writeText (denied : String → Bool) (t : FileTree) (p : Path) (text : String) :
    FileTree × Except Fault Unit :=
  match t.ensureDir p.parent with
  | .error o => (t, .error (.blockedPath o p.parent))
  | .ok t =>
    if denied p.toText then (t, .error (.deniedPath p))
    else match t.writeFile p (Text.Utf8.encode text.toList) with
      | .error o => (t, .error (.blockedPath o p))
      | .ok t => (t, .ok ())

def relativeUrl (t : FileTree) (target start : Path) : Except Fault String :=
  match t.realPath target, t.realPath start with
  | .ok a, .ok b => .ok (⟨0, FileTree.wayTo a.parts b.parts⟩ : Path).toText
  | .error u, _ | _, .error u => .error (.unresolvedPath u)

def writeMap (denied : String → Bool) (t : FileTree) (m : SourceMap) (p : Path)
    (output : Option Path) : FileTree × Except Fault String :=
  match output.mapM fun o => relativeUrl t o p.parent with
  | .error f => (t, .error f)
  | .ok targetUrl =>
    match writeText denied t p (({ m with targetUrl } : SourceMap).toJson none) with
    | (t, .error f) => (t, .error f)
    | (t, .ok ()) =>
      let start := match output with
        | some o => o.parent
        | none => ⟨0, []⟩
      (t, (relativeUrl t p start).map fun url => "\n\n/*# sourceMappingURL=" ++ url ++ " */")

def unwritten (f : Fault) (what : String) (p : Path) (o : Outcome K) : Outcome K :=
  match f with
  | .deniedPath _ =>
    { o with
      exitCode := permissionExit
      err := o.err ++ printed ("Error: Cannot write " ++ what ++ " (path=" ++ p.toText ++ ")") }
  | f => { o with exitCode := 1, crash := some f }

def deliver (denied : String → Bool) (s : Settings) (css : String) (loaded : Nat) (o : Outcome K) :
    Outcome K :=
  match s.output with
  | none => { o with out := printed css }
  | some p =>
    let (files, r) := writeText denied o.world.files p (css ++ "\n")
    let o := { o with world := { o.world with files } }
    match r with
    | .error f => unwritten f "output" p o
    | .ok () =>
      { o with
        err := o.err ++ printed ("Compiled " ++ s.input.toText ++ " to " ++ p.toText)
        world := o.world.emit (.cssWritten p.toText loaded) }

def conclude (denied : String → Bool) (s : Settings) (r : Result) (o : Outcome K) : Outcome K :=
  let loaded := r.loadedUrls.length
  match s.mapPath, r.sourceMap with
  | none, _ => deliver denied s r.css loaded o
  | some _, none =>
    deliver denied s r.css loaded
      { o with err := o.err ++ printed "Warning: The toolchain produced no source map" }
  | some p, some m =>
    let (files, comment) := writeMap denied o.world.files m p s.output
    let o := { o with world := { o.world with files } }
    match comment with
    | .error f => unwritten f "source map" p o
    | .ok comment => deliver denied s (r.css ++ comment) loaded o

def runCompile (denied : String → Bool) (s : Settings) (offers : List (EntryPoint K)) (w : World K) :
    Outcome K :=
  let (r, after) := compile s offers w
  let fresh := after.log.drop w.log.length
  let o : Outcome K :=
    { exitCode := 0
      err := String.join (fresh.map fun d => d.line s.color ++ "\n")
      threshold := (Level.threshold? s.level).getD 30
      world := after }
  match r with
  | .ok r => conclude denied s r o
  | .error (.failure f) =>
    { o with
      exitCode := f.report.exitCode
      err := o.err ++ printed ("Error: " ++ f.report.format) }
  | .error f => { o with exitCode := 1, crash := some f }

/-! ## The program -/

inductive Top where
  | version | help
  deriving DecidableEq, Repr

def topSpellings : List (Spelling Top) :=
  [⟨"--version", .version, some true⟩, ⟨"--help", .help, some true⟩, ⟨"-h", .help, some true⟩]

def topUsage : String := "[OPTIONS] COMMAND [ARGS]..."

def helpText (usage : String) (names : List String) : String :=
  "Usage: " ++ programName ++ " " ++ usage ++ "\n\nOptions:\n"
    ++ String.join (names.map fun n => "  " ++ n ++ "\n")

def runArguments (denied : String → Bool) (args : List String) (offers : List (EntryPoint K))
    (w : World K) : Outcome K :=
  let name := programName ++ " compile"
  match readArguments spellings true args with
  | .error u => refuseReading name compileUsage u w
  | .ok a =>
    if (a.flag? .help).isSome then
      { exitCode := 0, out := helpText compileUsage (spellings.map (·.name)), world := w }
    else match Settings.ofArguments w.files a with
      | .error (.broken f) => { exitCode := 1, crash := some f, world := w }
      | .error m => refuse name compileUsage m.message w
      | .ok s => runCompile denied s offers w

def commandName : String := "compile"

def runTop (args : List String) (w : World K) : Except (Outcome K) (List String) :=
  let help : Outcome K :=
    { exitCode := 0, out := helpText topUsage (topSpellings.map (·.name)), world := w }
  match readArguments topSpellings false args with
  | .error u => .error (refuseReading programName topUsage u w)
  | .ok a =>
    match a.mentioned, a.operands with
    | .version :: _, _ =>
      .error { exitCode := 0, out := programName ++ " " ++ version ++ "\n", world := w }
    | .help :: _, _ => .error help
    | [], operands => .ok operands

/-- The refusal of an unknown command; one that looks like an option is read as one first. -/
def refuseCommand (command : String) (rest : List String) (w : World K) : Outcome K :=
  let refused := refuse programName topUsage
    ("No such command " ++ Literal.ofText command ++ "."
      ++ suggestion (Text.similar [commandName] command)) w
  match runTop (command :: rest) w with
  | .error o => o
  | .ok _ => refused

/-- Runs the program on its arguments; `denied` tells which files may not be written. -/
def run (denied : String → Bool) (args : List String) (offers : List (EntryPoint K)) (w : World K) :
    Outcome K :=
  match runTop args w with
  | .error o => o
  | .ok [] =>
    { exitCode := usageExit, out := helpText topUsage (topSpellings.map (·.name)), world := w }
  | .ok (command :: rest) =>
    if command = commandName then runArguments denied rest offers w else refuseCommand command rest w

end StyleBuild.Command
