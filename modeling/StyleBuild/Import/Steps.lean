import StyleBuild.Session

/-!
# Resolving and parsing imports

The steps of an import call importers and the parser and keep their results in the cache: a key is
decided once, a stylesheet is parsed once per URL. The steps are the same whether calls are answered
directly or awaited.
-/

set_option autoImplicit false

namespace StyleBuild

/-- An importer's answer: it declines, it has a source, or it returned a value of another type. -/
inductive Offer where
  | declined
  | source (s : Source)
  | other (type : String)
  deriving DecidableEq, Repr

inductive ImportCall where
  | resolve (importer : Importer) (reference : String) (base : Option String)
  | parse (contents : String) (dialect : Dialect) (url : String)

abbrev ImportCall.Reply (K : Kit) : ImportCall → Type
  | resolve _ _ _ => Offer
  | parse _ _ _ => K.Sheet

/-- The refusal of a pending answer, which names the method that gave it. -/
def ImportCall.refuse (parser : String) : ImportCall → Fault
  | resolve i _ _ => .pendingAnswer i.method
  | parse _ _ _ => .pendingAnswer parser

structure Imported (K : Kit) where
  url : String
  sheet : K.Sheet
  dialect : Dialect
  isDependency : Bool

abbrev ImportSteps (K : Kit) (α : Type) :=
  Steps (Session K) Fault ImportCall (ImportCall.Reply K) α

namespace Import

variable {K : Kit}

def suspended (r : Resolver) (reference : String) (f : Fault) : Fault :=
  .failure (Failure.configuration
    ("Importer " ++ r.label ++ " is asynchronous and cannot be used by a synchronous compile")
    (some "Use the asynchronous compile functions with asynchronous importers")
    (some [("resolver", .text r.label), ("reference", .text reference)]) (some f.kind))

def wrongAnswer (r : Resolver) (reference type : String) : Fault :=
  .failure (Failure.configuration
    ("Importer " ++ r.label ++ " returned " ++ type ++ ", expected ImporterResult or None") none
    (some [("resolver", .text r.label), ("reference", .text reference)]))

/-- The base URL a resolver is told: only the relative one learns who asks. -/
def baseFor (r : Resolver) (base : Option String) : Option String :=
  if r.kind = .entryRelative then base else none

def ask (r : Resolver) (reference : String) (base : Option String) : ImportSteps K Offer :=
  match r.importer with
  | .misfit v => Steps.fail (.noAttribute v "resolve")
  | i => Steps.perform (ImportCall.resolve i reference (baseFor r base))

def firstAnswer (reference : String) (base : Option String) :
    List Resolver → ImportSteps K (Option (Resolver × Source))
  | [] => pure none
  | r :: rest => do
    match ← (ask r reference base).attempt with
    | .error (.pendingAnswer call) =>
      Steps.fail (suspended r reference (.pendingAnswer call))
    | .error f => Steps.fail f
    | .ok .declined => do
      Steps.modify (·.emit (.declined r.label reference))
      firstAnswer reference base rest
    | .ok (.other type) => Steps.fail (wrongAnswer r reference type)
    | .ok (.source s) => pure (some (r, s))

def cascade (reference : String) (base : Option String) (relative : Option Resolver)
    (resolvers : List Resolver) : ImportSteps K (Option (Resolver × Source)) :=
  (firstAnswer reference base (relative.toList ++ resolvers)).mapFault (Fault.leaving "generator")

/-- Stores an ambiguity; other faults leave no verdict. -/
def settleFault (reference : String) (base : Option String) (f : Fault) (s : Session K) : Session K :=
  match f with
  | .failure g =>
    match g.kind with
    | .ambiguous _ _ _ => { s with cache := s.cache.settle reference base (.ambiguous g) }
    | _ => s
  | _ => s

def resolveNew (reference : String) (base : Option String) : ImportSteps K Loaded := do
  let s ← Steps.get
  match ← (cascade reference base (s.cache.relative? base) s.cache.resolvers).attempt with
  | .error f => do
    Steps.modify (settleFault reference base f)
    Steps.fail f
  | .ok none => do
    Steps.modify fun s =>
      { s with cache := s.cache.settle reference base .missing }.emit (.importMissing reference base)
    Steps.fail (.failure (Failure.notFound reference base))
  | .ok (some (r, source)) => do
    let s ← Steps.get
    let l := (s.cache.record reference base r source).1
    Steps.modify fun s =>
      { s with cache := (s.cache.record reference base r source).2 }.emit
        (.importResolved reference base source.url r.kind.name r.label)
    pure l

/-- Resolves a key, or repeats its verdict. -/
def resolve (reference : String) (base : Option String) : ImportSteps K Loaded := do
  let s ← Steps.get
  match Table.get? (base, reference) s.cache.verdicts with
  | some (.found l) => pure l
  | some .missing => Steps.fail (.failure (Failure.notFound reference base))
  | some (.ambiguous f) => Steps.fail (.failure f)
  | none => resolveNew reference base

def parseFault (url : String) (f : Fault) : Fault :=
  match f with
  | .failure _ => f
  | .pendingAnswer _ =>
    .failure (Failure.configuration
      "Parser is asynchronous and cannot be used by a synchronous compile" none
      (some [("url", .text url)]) (some f.kind))
  | _ => .failure (Failure.badSource f.describe (f.span? (some url)) (some f.kind))

def sheetOf (l : Loaded) : ImportSteps K K.Sheet := do
  let s ← Steps.get
  match Table.get? l.source.url s.cache.parsed with
  | some sheet => pure sheet
  | none => do
    let call := ImportCall.parse l.source.contents l.source.dialect l.source.url
    let sheet : K.Sheet ← (Steps.perform call).mapFault (parseFault l.source.url)
    Steps.modify fun s =>
      { s with cache := { s.cache with parsed := Table.set l.source.url sheet s.cache.parsed } }
    pure sheet

def parse (l : Loaded) : ImportSteps K (Imported K) := do
  let sheet ← sheetOf l
  pure ⟨l.source.url, sheet, l.source.dialect, l.isDependency⟩

def fetch (reference : String) (base : Option String) : ImportSteps K (Imported K) := do
  let l ← resolve reference base
  parse l

/-- Imports for the run of the context, which notes the URL. -/
def load (reference : String) (base : Option String) : ImportSteps K (Imported K) := do
  let imported ← fetch reference base
  Steps.modify (·.recordLoaded imported.url)
  pure imported

end Import

structure Collaborators (K : Kit) where
  importer : Handle → String → Option String → World K → Answer (World K) Fault Offer × World K
  parse : String → Dialect → String → World K → Answer (World K) Fault K.Sheet × World K
  /-- What the parser's method is called in messages. -/
  parseMethod : String := "Parser.parse"

def Answer.onSession {K : Kit} {ρ : Type} (s : Session K) (a : Answer (World K) Fault ρ × World K) :
    Answer (Session K) Fault ρ × Session K :=
  let answer := match a.1 with
    | .value r => .value r
    | .fault f => .fault f
    | .pending wait => .pending fun s =>
      let (r, w) := wait s.world
      (r, { s with world := w })
  (answer, { s with world := a.2 })

def Offer.ofSource? : Option Source → Offer
  | some s => .source s
  | none => .declined

namespace Collaborators

variable {K : Kit}

def library (s : Session K) (o : Lookup.Outcome) : Answer (Session K) Fault Offer × Session K :=
  (.ofExcept (o.1.map Offer.ofSource?), { s with world := s.world.emitAll o.2 })

def importHost (c : Collaborators K) : Host (Session K) Fault ImportCall (ImportCall.Reply K)
  | .resolve (.directory root) reference base, s =>
    library s (Lookup.inDirectory s.world.files root reference base)
  | .resolve (.packages config) reference base, s =>
    library s (Packages.answer s.world.files config.directories reference base)
  | .resolve (.unchecked config) reference base, s =>
    library s (Packages.answer s.world.files (Packages.directoriesIn config) reference base)
  | .resolve (.custom handle _) reference base, s =>
    Answer.onSession s (c.importer handle reference base s.world)
  | .resolve (.misfit v) _ _, s => (.fault (.noAttribute v "resolve"), s)
  | .parse contents dialect url, s => Answer.onSession s (c.parse contents dialect url s.world)

def drive (c : Collaborators K) (mode : Mode) {α : Type} (steps : ImportSteps K α) (s : Session K) :
    Except Fault α × Session K :=
  match mode with
  | .direct => (steps s).direct (ImportCall.refuse c.parseMethod) c.importHost
  | .awaiting => (steps s).awaiting c.importHost

end Collaborators

end StyleBuild
