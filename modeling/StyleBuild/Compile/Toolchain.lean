import StyleBuild.Import.Steps
import StyleBuild.Compile.Assemble

/-!
# Toolchains

The library does not parse, evaluate or render stylesheets itself; a toolchain does. An evaluator talks
to the compiler only through its context: it loads imports, warns, and asks what is a dependency. That
conversation is a `Script`, so the same evaluator runs whether imports are answered directly or awaited.
-/

set_option autoImplicit false

namespace StyleBuild

inductive Script (K : Kit) where
  | finish (tree : K.Tree)
  | fail (f : Fault)
  | load (reference : String) (base : Option String) (next : Except Fault (Imported K) → Script K)
  | warn (message : String) (deprecation : Option String) (span : Option Span)
    (origin : Option String) (next : Script K)
  | debug (message : String) (span : Option Span) (next : Script K)
  | isDependency (url : Option String) (next : Bool → Script K)

namespace Script

variable {K : Kit}

def mapFault (f : Fault → Fault) : Script K → Script K
  | finish tree => .finish tree
  | fail e => .fail (f e)
  | load reference base next => .load reference base fun r => (next r).mapFault f
  | warn message deprecation span origin next =>
    .warn message deprecation span origin (next.mapFault f)
  | debug message span next => .debug message span (next.mapFault f)
  | isDependency url next => .isDependency url fun b => (next b).mapFault f

def run (c : Collaborators K) (mode : Mode) : Script K → Session K → Except Fault K.Tree × Session K
  | finish tree, s => (.ok tree, s)
  | fail f, s => (.error f, s)
  | load reference base next, s =>
    let (r, s) := c.drive mode (Import.load reference base) s
    run c mode (next r) s
  | warn message deprecation span origin next, s =>
    run c mode next (s.warn message deprecation span origin)
  | debug message span next, s => run c mode next (s.debug message span)
  | isDependency url next, s => run c mode (next (s.cache.isDependency url)) s

end Script

/-- How an evaluator answers: directly; later, and it can be told beforehand; or later without a
sign. -/
inductive Evaluation where
  | plain | awaitable | disguised
  deriving DecidableEq, Repr

/-- What the methods of a toolchain are called in messages. -/
structure Methods where
  parse : String := "Parser.parse"
  evaluate : String := "Evaluator.evaluate"
  render : String := "Serializer.render"
  deriving DecidableEq, Repr

/-- What parses, evaluates and renders. A serializer is taken to keep its declared result type: it answers
with a text and a builder or none. -/
structure Toolchain (K : Kit) where
  name : String := "default"
  methods : Methods := {}
  evaluation : Evaluation := .plain
  parse : String → Dialect → String → World K → Answer (World K) Fault K.Sheet × World K
  evaluate : K.Sheet → List (String × Function) → Script K
  render : K.Tree → Style → World K → Answer (World K) Fault (String × Builder) × World K

abbrev Importers (K : Kit) :=
  Handle → String → Option String → World K → Answer (World K) Fault Offer × World K

namespace Toolchain

variable {K : Kit}

def collaborators (t : Toolchain K) (importers : Importers K) : Collaborators K :=
  ⟨importers, t.parse, t.methods.parse⟩

def isAwaitable (t : Toolchain K) : Bool := t.evaluation == .awaitable

end Toolchain

/-! ## Discovery -/

inductive EntryLoad (K : Kit) where
  | toolchain (t : Toolchain K)
  | factory (t : Toolchain K)
  | factoryOf (v : Value)
  | factoryRaises (f : Fault)
  | value (v : Value)
  | raises (f : Fault)

structure EntryPoint (K : Kit) where
  name : String
  value : String
  load : EntryLoad K

namespace EntryPoint

variable {K : Kit}

/-- The toolchain of an entry point, a factory called if there is one. -/
def toolchain (e : EntryPoint K) : Except Fault (Toolchain K) :=
  match e.load with
  | .toolchain t | .factory t => .ok t
  | .factoryOf v => .error (.wrongProduct e.name v.typeName)
  | .value v => .error (.notCallable v.typeName)
  | .factoryRaises f | .raises f => .error f

def group : String := "sass_core.toolchains"

def noneUsable (name : Value) : Fault :=
  let named := if name.isFalsy then "" else " named " ++ Literal.ofValue name
  .failure (Failure.configuration ("No Sass toolchain installed" ++ named)
    (some ("Install a package providing a '" ++ group
      ++ "' entry point, or pass toolchain= explicitly"))
    (some [("group", .text group), ("name", name)]))

/-- The first entry point that loads; each one before it is reported. -/
def firstUsable (name : Value) :
    List (EntryPoint K) → Except Fault (Toolchain K) × List Event
  | [] => (.error (noneUsable name), [])
  | e :: rest =>
    match e.toolchain with
    | .ok t => (.ok t, [.toolchainLoaded e.name t.name])
    | .error f =>
      let (r, events) := firstUsable name rest
      (r, .toolchainFailed e.name e.value f.message :: events)

/-- Looks for a toolchain among the entry points in the order of their names, or among those of the given
name; null asks for none. -/
def discover (name : Value) (es : List (EntryPoint K)) :
    Except Fault (Toolchain K) × List Event :=
  let sorted := es.mergeSort fun a b => decide (a.name ≤ b.name)
  firstUsable name (match name with
    | .null => sorted
    | .text n => sorted.filter fun e => e.name == n
    | _ => [])

end EntryPoint

end StyleBuild
