import StyleBuild.Compile.Request
import StyleBuild.Compile.Toolchain

/-!
# The stages of a run

A run starts by settling its toolchain, cache and context, resolves and parses its entry, evaluates it,
and assembles the result. Each stage has a span and two events. A failure is reported in an event of its
own before it leaves the run; any other fault leaves without one.
-/

set_option autoImplicit false

namespace StyleBuild

inductive CompileCall (K : Kit) where
  | load (c : ImportCall)
  | evaluate (sheet : K.Sheet)
  | render (tree : K.Tree) (style : Style)

abbrev CompileCall.Reply {K : Kit} : CompileCall K → Type
  | load c => c.Reply K
  | evaluate _ => K.Tree
  | render _ _ => String × Builder

/-- The refusal of a pending answer, which names the method that gave it. -/
def CompileCall.refuse {K : Kit} (methods : Methods) : CompileCall K → Fault
  | load c => c.refuse methods.parse
  | evaluate _ => .pendingAnswer methods.evaluate
  | render _ _ => .pendingAnswer methods.render

abbrev CompileSteps (K : Kit) (α : Type) :=
  Steps (Session K) Fault (CompileCall K) CompileCall.Reply α

structure Job (K : Kit) where
  request : Request
  mode : Mode
  /-- The toolchain, given or looked for, with the events of looking for it. -/
  toolchain : Except Fault (Toolchain K) × List Event
  /-- A cache kept from earlier runs, with resolvers of its own. -/
  cache : Option (Cache K) := none
  throttle : Option Throttle := none

namespace Compile

variable {K : Kit} {α : Type}

def liftRun : Run (Session K) Fault ImportCall (ImportCall.Reply K) α →
    Run (Session K) Fault (CompileCall K) CompileCall.Reply α
  | .done outcome s => .done outcome s
  | .call c s resume => .call (.load c) s fun x s => liftRun (resume x s)

def lift (m : ImportSteps K α) : CompileSteps K α := fun s => liftRun (m s)

def emit (e : Event) : CompileSteps K Unit := Steps.modify (·.emit e)

def inStage (run : RunLabel) (stage : Stage) (attributes : List (String × String))
    (body : CompileSteps K α) : CompileSteps K α := do
  emit (.stageStart run stage)
  let title := "compile." ++ Text.lowerAscii stage.name
  let named := attributes.map fun a => ("sass." ++ a.1, a.2)
  Steps.modify fun s => { s with world := s.world.openSpan title named }
  match ← body.attempt with
  | .ok a => do
    emit (.stageComplete run stage)
    pure a
  | .error f => do
    Steps.modify fun s => { s with world := s.world.failSpan f }
    Steps.fail f

/-- The cache of a run: the one supplied, if its kind fits, or a new one. -/
def cacheFor (job : Job K) (environ : List (String × String)) : Except Fault (Cache K) :=
  match job.cache with
  | some c =>
    if job.mode = .direct ∧ c.awaits then
      .error (.failure (Failure.configuration
        "An AsyncImportCache cannot be used by a synchronous compile"
        (some "Pass an ImportCache, or use the asynchronous compile functions")))
    else .ok c
  | none => do
    let resolvers ← job.request.resolvers environ
    pure { resolvers, awaits := job.mode = .awaiting }

def start (job : Job K) : CompileSteps K (Toolchain K) := do
  Steps.modify fun s => { s with world := s.world.emitAll job.toolchain.2 }
  let t ← Steps.ofExcept job.toolchain.1
  if job.mode = .direct ∧ t.isAwaitable then
    Steps.fail (.failure (Failure.configuration
      ("Toolchain " ++ Literal.ofText t.name ++ " has an asynchronous evaluator")
      (some "Use the asynchronous compile functions with this toolchain")
      (some [("toolchain", .text t.name)])))
  else do
    let s ← Steps.get
    let cache ← Steps.ofExcept (cacheFor job s.world.environ)
    Steps.modify fun s => { s with
      cache
      throttle := job.throttle.getD { verbose := job.request.verbose }
      context := { quietDeps := job.request.quietDeps, functions := job.request.functions } }
    pure t

def entry (r : Request) : CompileSteps K (Imported K) :=
  match r.path with
  | some p => lift (Import.load p.toText none)
  | none => do
    let dialect ← Steps.ofExcept r.entryDialect
    let s ← Steps.get
    let seeded := s.cache.seed r.entryUrl (r.source.getD "") dialect r.importer
    Steps.modify fun s => { s with cache := seeded.2 }
    if r.url.isSome then Steps.modify (·.recordLoaded seeded.1.source.url)
    lift (Import.parse seeded.1)

/-- A failed import of the entry belongs to the stage that looks for it. -/
def retag (f : Fault) : Fault :=
  match f with
  | .failure g =>
    match g.kind with
    | .notFound _ _ | .ambiguous _ _ _ =>
      .failure { g.withStage .resolveEntry with cause := some g.kind.name }
    | _ => f
  | _ => f

def evaluatorFault (toolchain : String) (f : Fault) : Fault :=
  match f with
  | .failure _ => f
  | .pendingAnswer _ =>
    .failure (Failure.configuration "Evaluator returned an awaitable in a synchronous compile" none
      (some [("toolchain", .text toolchain)]) (some f.kind))
  | _ => .failure (Failure.evaluation f.describe (f.span? none) .evaluate (some f.kind))

def serializerFault (f : Fault) : Fault :=
  match f with
  | .failure _ => f
  | _ => .failure (Failure.evaluation f.describe (f.span? none) .assemble (some f.kind))

def assemble (r : Request) (tree : K.Tree) : CompileSteps K Result := do
  let rendered : String × Builder ←
    (Steps.perform (CompileCall.render tree r.style)).mapFault serializerFault
  let s ← Steps.get
  let (result, events) := Assemble.result rendered.1 rendered.2 r.style r.charset r.sourceMap
    s.context.loaded
  Steps.modify fun s => { s with world := s.world.emitAll events }
  Steps.ofExcept result

def stages (job : Job K) (run : RunLabel) : CompileSteps K Result := do
  let r := job.request
  let t ← inStage run .start [("mode", job.mode.name), ("entry", r.entryLabel)] (start job)
  let e ← inStage run .resolveEntry [] ((entry r).mapFault retag)
  let tree : K.Tree ← inStage run .evaluate [("url", e.url)]
    ((Steps.perform (CompileCall.evaluate e.sheet)).mapFault (evaluatorFault t.name))
  inStage run .assemble [("style", r.style.name)] (assemble r tree)

/-- Reports a failure; any other fault leaves the run as it leaves a routine. -/
def announce (run : RunLabel) (f : Fault) : CompileSteps K α :=
  match f with
  | .failure g => do
    emit (.failed run g.report.stage g.report.code g.report.message)
    Steps.fail f
  | f => Steps.fail (f.leaving "generator")

def steps (job : Job K) : CompileSteps K Result := do
  let run : RunLabel := ⟨job.request.entryLabel, job.mode⟩
  let result ← (stages job run).orElse (announce run)
  let s ← Steps.get
  let omitted := s.throttle.omitted
  if !omitted.isEmpty then emit (.omitted run omitted)
  emit (.complete run result.loadedUrls.length s.context.suppressed)
  pure result

/-- Answers the calls of a run. What an evaluator raises that answers later leaves it as it leaves a
coroutine. -/
def host (t : Toolchain K) (importers : Importers K) :
    Host (Session K) Fault (CompileCall K) CompileCall.Reply
  | .load c, s => (t.collaborators importers).importHost c s
  | .evaluate sheet, s =>
    let script := t.evaluate sheet s.context.functions
    let walk := script.run (t.collaborators importers)
    let later (mode : Mode) (s : Session K) :=
      let (r, s) := walk mode s
      (r.mapError (Fault.leaving "coroutine"), s)
    match t.evaluation with
    | .plain =>
      let (r, s) := walk .direct s
      (.ofExcept r, s)
    | .awaitable => (.pending (later .awaiting), s)
    | .disguised => (.pending (later .direct), s)
  | .render tree style, s => Answer.onSession s (t.render tree style s.world)

/-- What a run refuses a pending answer with. Without a toolchain there is no answer to refuse. -/
def refusal (job : Job K) : CompileCall K → Fault :=
  match job.toolchain.1 with
  | .ok t => CompileCall.refuse t.methods
  | .error f => fun _ => f

def run (job : Job K) (importers : Importers K) (s : Session K) : Except Fault Result × Session K :=
  let host : Host (Session K) Fault (CompileCall K) CompileCall.Reply :=
    match job.toolchain.1 with
    | .ok t => host t importers
    | .error f => fun _ s => (.fault f, s)
  match job.mode with
  | .direct => (steps job s).direct (refusal job) host
  | .awaiting => (steps job s).awaiting host

end Compile

end StyleBuild
