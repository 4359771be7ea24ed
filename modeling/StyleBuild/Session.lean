import StyleBuild.Table
import StyleBuild.Effect
import StyleBuild.Diagnostic
import StyleBuild.Diagnostic.Throttle
import StyleBuild.Import.Resolver
import StyleBuild.Telemetry.Tracer

/-!
# The state of a compilation

A toolchain brings its own types: parsed sheets, evaluated trees, and a state its collaborators keep to
themselves. A session is everything a compilation can read or change: the outer world, the import cache,
the throttle for deprecation notices and the context of the run.
-/

set_option autoImplicit false

namespace StyleBuild

/-- The types a toolchain brings along. -/
structure Kit where
  Sheet : Type
  Tree : Type
  State : Type

/-- What lies outside the compiler: files and environment, what it has been told, and the collaborators'
own state. -/
structure World (K : Kit) where
  files : FileTree
  environ : List (String × String)
  events : List Event
  spans : List SpanRecord
  log : List Diagnostic
  own : K.State

namespace World

variable {K : Kit}

def emit (w : World K) (e : Event) : World K := { w with events := w.events ++ [e] }

def emitAll (w : World K) (es : List Event) : World K := { w with events := w.events ++ es }

def report (w : World K) (d : Diagnostic) : World K := { w with log := w.log ++ [d] }

def openSpan (w : World K) (name : String) (attributes : List (String × String)) : World K :=
  { w with spans := w.spans ++ [SpanRecord.start name (attributes.map fun a => (a.1, .text a.2))] }

/-- Marks the span opened last as failed. -/
def failSpan (w : World K) (f : Fault) : World K :=
  match w.spans.getLast? with
  | some r => { w with spans := w.spans.dropLast ++ [r.fail f] }
  | none => w

end World

/-- A resolved stylesheet; the serial tells resolutions apart. -/
structure Loaded where
  serial : Nat
  source : Source
  resolver : Resolver
  isDependency : Bool
  deriving Repr

inductive Verdict where
  | found (l : Loaded)
  | missing
  | ambiguous (f : Failure)
  deriving Repr

/-- A reference and the URL of the stylesheet that makes it. -/
abbrev Key := Option String × String

structure Cache (K : Kit) where
  resolvers : List Resolver
  entry : Importer := .default
  /-- Whether resolution through this cache may be awaited. -/
  awaits : Bool := false
  verdicts : List (Key × Verdict) := []
  loads : List (String × Loaded) := []
  parsed : List (String × K.Sheet) := []
  serial : Nat := 0

namespace Cache

variable {K : Kit}

def loadedUrls (c : Cache K) : List String := c.loads.map (·.1)

def lookup (c : Cache K) (reference : String) (base : Option String) : Option Loaded :=
  match Table.get? (base, reference) c.verdicts with
  | some (.found l) => some l
  | _ => none

def isDependency (c : Cache K) (url : Option String) : Bool :=
  match url with
  | none => false
  | some u => ((Table.get? u c.loads).map Loaded.isDependency).getD false

/-- The resolver for imports relative to a requester; an unknown requester has none. -/
def relative? (c : Cache K) (base : Option String) : Option Resolver :=
  match base with
  | none => some (Resolver.relativeTo c.entry)
  | some b => (Table.get? b c.loads).map fun l => Resolver.relativeTo l.resolver.importer

/-- The importer a seeded stylesheet resolves through; one that counts as false leaves this to the entry's. -/
def seedImporter (c : Cache K) (importer : Option Importer) : Importer :=
  match importer with
  | some i => if i.isFalsy then c.entry else i
  | none => c.entry

/-- Registers a stylesheet given in memory; an earlier parsed form of its URL is forgotten. -/
def seed (c : Cache K) (url contents : String) (dialect : Dialect) (importer : Option Importer) :
    Loaded × Cache K :=
  let l : Loaded :=
    ⟨c.serial, { url, contents, dialect }, Resolver.relativeTo (c.seedImporter importer), false⟩
  (l, { c with
    loads := Table.set url l c.loads
    parsed := Table.erase url c.parsed
    serial := c.serial + 1 })

def settle (c : Cache K) (reference : String) (base : Option String) (v : Verdict) : Cache K :=
  { c with verdicts := Table.set (base, reference) v c.verdicts }

def record (c : Cache K) (reference : String) (base : Option String) (r : Resolver) (s : Source) :
    Loaded × Cache K :=
  let l : Loaded := ⟨c.serial, s, r, c.isDependency base || r.loadsDependencies⟩
  (l, { c.settle reference base (.found l) with
    loads := Table.setNew s.url l c.loads
    serial := c.serial + 1 })

end Cache

inductive Function where
  | text (s : String)
  | raising (f : Fault)
  | misfit (v : Value)
  deriving Repr

def Function.call : Function → Except Fault String
  | text s => .ok s
  | raising f => .error f
  | misfit v => .error (.notCallable v.typeName)

structure Context where
  quietDeps : Bool := false
  functions : List (String × Function) := []
  loaded : List String := []
  suppressed : Nat := 0

structure Session (K : Kit) where
  world : World K
  cache : Cache K
  throttle : Throttle := {}
  context : Context := {}

namespace Session

variable {K : Kit}

def emit (s : Session K) (e : Event) : Session K := { s with world := s.world.emit e }

def recordLoaded (s : Session K) (url : String) : Session K :=
  if s.context.loaded.contains url then s
  else { s with context := { s.context with loaded := s.context.loaded ++ [url] } }

/-- Counts a deprecation notice and passes it on unless there were too many of its kind. -/
def notice (s : Session K) (kind message : String) (span : Option Span) : Bool × Session K :=
  let t := s.throttle.record kind
  let s := { s with throttle := t, world := s.world.emitAll (t.event? kind).toList }
  if t.passes kind then (true, { s with world := s.world.report (.warn message span true) })
  else (false, s)

/-- A warning from a stylesheet. Its origin is the given URL or else that of its place; with quiet
dependencies a warning that originates in one is dropped and counted. -/
def warn (s : Session K) (message : String) (deprecation : Option String) (span : Option Span)
    (origin : Option String) : Session K :=
  let origin := origin.or (span.bind Span.url)
  if s.context.quietDeps && s.cache.isDependency origin then
    { s with
      context := { s.context with suppressed := s.context.suppressed + 1 }
      world := s.world.emit (.warningSuppressed origin deprecation) }
  else
    match deprecation with
    | some kind => (s.notice kind message span).2
    | none => { s with world := s.world.report (.warn message span false) }

def debug (s : Session K) (message : String) (span : Option Span) : Session K :=
  { s with world := s.world.report (.debug message span) }

end Session

end StyleBuild
