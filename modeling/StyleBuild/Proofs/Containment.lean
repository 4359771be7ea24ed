import StyleBuild.Lines.Toolchain
import StyleBuild.Proofs.RunFrames

/-!
# What leaves a run

A run that gives no result should end in a failure, which has a stage and a code, and report it once.
The parser, the evaluator and the serializer are held to this, whatever they raise. Three kinds of fault
are not: what an importer raises when it is asked for the path of the entry, a malformed URL of an entry
in memory, and what the builder of the source map raises. `Compile.Escape` says when they occur, and
`Compile.run_contained` that they are all there is.
-/

set_option autoImplicit false

namespace StyleBuild

variable {K : Kit} {α : Type}

/-! ## Reports of failures -/

/-- The failures that have been reported. -/
def World.failures (w : World K) : List Event := w.events.filter Event.isFailed

/-- Nothing is reported as a failure in between. -/
def Session.SameFailures (s t : Session K) : Prop := t.world.failures = s.world.failures

/-- An action of a collaborator that reports no failures, nor takes reports back. -/
def Answer.Silent {ρ : Type} (act : World K → Answer (World K) Fault ρ × World K) : Prop :=
  ∀ w e, (refused e (act w)).2.failures = w.failures ∧ (awaited (act w)).2.failures = w.failures

/-- The importers, the parser and the serializer leave the reports of failures to the run. -/
structure Toolchain.Silent (t : Toolchain K) (importers : Importers K) : Prop where
  importer : ∀ handle reference base, Answer.Silent (importers handle reference base)
  parse : ∀ contents dialect url, Answer.Silent (t.parse contents dialect url)
  render : ∀ tree style, Answer.Silent (t.render tree style)

theorem World.failures_frame : World.Frame fun w v : World K => v.failures = w.failures where
  refl _ := rfl
  trans first second := second.trans first
  told w others := by
    simp only [World.emitAll, World.failures, List.filter_append, others, List.append_nil]
  spans _ _ := rfl
  log _ _ := rfl

theorem Session.SameFailures.frame : Steps.Frame (Session.SameFailures (K := K)) :=
  World.failures_frame.sessions

theorem Session.sameFailures_emit {e : Event} (other : e.isFailed = false) (s : Session K) :
    SameFailures s (s.emit e) := World.failures_frame.emit other s

theorem Toolchain.Silent.within {t : Toolchain K} {importers : Importers K}
    (silent : t.Silent importers) : t.Within (fun w v => v.failures = w.failures) importers where
  importer := silent.importer
  parse := silent.parse
  render := silent.render

open Session

namespace Compile

variable {job : Job K} {importers : Importers K}
variable {h : Settled (Session K) Fault (CompileCall K) CompileCall.Reply}

theorem settled_silent (silent : ∀ t, job.toolchain.1 = .ok t → t.Silent importers)
    (c : CompileCall K) (s : Session K) : SameFailures s (settled job importers c s).2 :=
  settled_within World.failures_frame (fun t found => (silent t found).within) c s

theorem moves_stages (silent : ∀ c s, SameFailures s (h c s).2)
    (others : job.toolchain.2.filter Event.isFailed = []) (run : RunLabel) :
    (stages job run).Moves h SameFailures :=
  within_stages World.failures_frame silent others run

end Compile

/-! ## Faults that are no failures -/

def Fault.isFailure : Fault → Bool
  | failure _ => true
  | _ => false

@[simp] theorem Fault.isFailure_leaving (routine : String) (f : Fault) :
    (f.leaving routine).isFailure = f.isFailure := by
  unfold leaving
  split
  · split
    · rfl
    · rfl
  · rfl

namespace Import

variable {h : Settled (Session K) Fault ImportCall (ImportCall.Reply K)}
variable {reference : String} {base : Option String} {rs : List Resolver} {s : Session K} {f : Fault}

/-- Asked in turn, resolvers decline until one raises a fault that is neither a failure nor the refusal of
a pending answer. -/
inductive Raises (h : Settled (Session K) Fault ImportCall (ImportCall.Reply K)) (reference : String)
    (base : Option String) : List Resolver → Session K → Fault → Prop where
  | here {r : Resolver} {rest : List Resolver} {s : Session K} {f : Fault}
    (raised : (ask r reference base).Ends h s f) (foreign : f.isFailure = false)
    (direct : ∀ call, f ≠ .pendingAnswer call) : Raises h reference base (r :: rest) s f
  | later {r : Resolver} {rest : List Resolver} {s t : Session K} {f : Fault}
    (declined : (ask r reference base).exec h s = (.ok .declined, t))
    (raises : Raises h reference base rest (t.emit (.declined r.label reference)) f) :
    Raises h reference base (r :: rest) s f

theorem Raises.not_failure (raises : Raises h reference base rs s f) : f.isFailure = false := by
  induction raises with
  | here _ foreign _ => exact foreign
  | later _ _ ih => exact ih

theorem ends_firstAnswer (foreign : f.isFailure = false) :
    (firstAnswer reference base rs).Ends h s f ↔ Raises h reference base rs s f := by
  induction rs generalizing s with
  | nil =>
    constructor
    · intro ended
      exact absurd ended Steps.ends_pure
    · intro raises
      cases raises
  | cons r rest ih =>
    unfold firstAnswer
    rw [Steps.ends_attemptThen]
    constructor
    · -- Two of the five answers become failures, one goes on, and one ends without a fault.
      intro ended
      rcases ran : (ask r reference base).exec h s with ⟨outcome, t⟩
      rw [ran] at ended
      split at ended
      · obtain rfl := Steps.ends_fail.1 ended
        cases foreign
      · next raised direct asked =>
        obtain rfl := Steps.ends_fail.1 ended
        obtain rfl : outcome = .error raised := asked
        exact .here (Steps.ends_of_exec ran) foreign fun call same => direct call (same ▸ rfl)
      · next asked =>
        obtain rfl : outcome = .ok .declined := asked
        exact .later ran (ih.1 ended)
      · obtain rfl := Steps.ends_fail.1 ended
        cases foreign
      · exact absurd ended Steps.ends_pure
    · intro raises
      cases raises with
      | here raised _ direct =>
        rw [raised]
        split
        · next asked => exact absurd (Except.error.inj asked) (direct _)
        · next asked => exact Steps.ends_fail.2 (Except.error.inj asked).symm
        · next asked => cases asked
        · next asked => cases asked
        · next asked => cases asked
      | later declined raises =>
        rw [declined]
        exact ih.2 raises

/-- Looking for a reference for the first time, an importer raises a fault. -/
def Disrupted (h : Settled (Session K) Fault ImportCall (ImportCall.Reply K)) (reference : String)
    (base : Option String) (s : Session K) (f : Fault) : Prop :=
  Table.get? (base, reference) s.cache.verdicts = none ∧
    Raises h reference base ((s.cache.relative? base).toList ++ s.cache.resolvers) s f

theorem ends_cascade (foreign : f.isFailure = false) (relative : Option Resolver) :
    (cascade reference base relative rs).Ends h s f ↔
      ∃ raised, Raises h reference base (relative.toList ++ rs) s raised ∧
        raised.leaving "generator" = f := by
  unfold cascade
  rw [Steps.ends_mapFault]
  constructor
  · rintro ⟨raised, ended, rfl⟩
    rw [Fault.isFailure_leaving] at foreign
    exact ⟨raised, (ends_firstAnswer foreign).1 ended, rfl⟩
  · rintro ⟨raised, raises, rfl⟩
    exact ⟨raised, (ends_firstAnswer raises.not_failure).2 raises, rfl⟩

theorem ends_resolveNew (foreign : f.isFailure = false) :
    (resolveNew reference base).Ends h s f ↔
      (cascade reference base (s.cache.relative? base) s.cache.resolvers).Ends h s f := by
  unfold resolveNew
  rw [Steps.ends_getThen, Steps.ends_attemptThen]
  generalize ran : (cascade reference base (s.cache.relative? base) s.cache.resolvers).exec h s =
    outcome
  unfold Steps.Ends
  rw [ran]
  rcases outcome with ⟨raised | none | ⟨r, source⟩, t⟩
  · constructor
    · intro ended
      cases ended
      rfl
    · intro ended
      cases ended
      rfl
  · constructor
    · intro ended
      cases ended
      cases foreign
    · intro ended
      cases ended
  · constructor
    · intro ended
      cases ended
    · intro ended
      cases ended

theorem ends_resolve (foreign : f.isFailure = false) :
    (resolve reference base).Ends h s f ↔
      ∃ raised, Disrupted h reference base s raised ∧ raised.leaving "generator" = f := by
  unfold resolve Disrupted
  rw [Steps.ends_getThen]
  cases known : Table.get? (base, reference) s.cache.verdicts with
  | none =>
    simp only [true_and]
    exact (ends_resolveNew foreign).trans (ends_cascade foreign _)
  | some verdict =>
    simp only [reduceCtorEq, false_and, exists_false, iff_false]
    intro ended
    cases verdict with
    | found l => exact Steps.ends_pure ended
    | missing =>
      obtain rfl := Steps.ends_fail.1 ended
      cases foreign
    | ambiguous g =>
      obtain rfl := Steps.ends_fail.1 ended
      cases foreign

theorem isFailure_parseFault (url : String) (f : Fault) : (parseFault url f).isFailure = true := by
  unfold parseFault
  split
  · rfl
  · rfl
  · rfl

/-- Whatever the parser raises becomes a failure. -/
theorem isFailure_of_ends_parse {l : Loaded} (ended : (parse l).Ends h s f) :
    f.isFailure = true := by
  unfold parse at ended
  obtain ended | ⟨sheet, t, -, ended⟩ := Steps.ends_bind.1 ended
  · unfold sheetOf at ended
    rw [Steps.ends_getThen] at ended
    split at ended
    · exact absurd ended Steps.ends_pure
    · obtain ended | ⟨sheet, t, -, ended⟩ := Steps.ends_bind.1 ended
      · obtain ⟨raised, -, rfl⟩ := Steps.ends_mapFault.1 ended
        exact isFailure_parseFault _ _
      · cases ended
  · exact absurd ended Steps.ends_pure

theorem ends_load (foreign : f.isFailure = false) :
    (load reference base).Ends h s f ↔
      ∃ raised, Disrupted h reference base s raised ∧ raised.leaving "generator" = f := by
  rw [← ends_resolve foreign]
  unfold load fetch
  rw [Steps.ends_bind, Steps.ends_bind]
  constructor
  · rintro ((ended | ⟨l, t, -, ended⟩) | ⟨imported, t, -, ended⟩)
    · exact ended
    · rw [isFailure_of_ends_parse ended] at foreign
      cases foreign
    · cases ended
  · intro ended
    exact .inl (.inl ended)

end Import

/-! ## The ways out of a run -/

/-- A toolchain is given, or looked for among entry points. -/
def Job.Equipped (job : Job K) : Prop :=
  (∃ t, job.toolchain = (.ok t, [])) ∨ ∃ name es, job.toolchain = EntryPoint.discover name es

theorem EntryPoint.error_of_firstUsable {name : Value} {es : List (EntryPoint K)} {f : Fault}
    (failed : (firstUsable name es).1 = .error f) : f = noneUsable name := by
  induction es with
  | nil =>
    cases failed
    rfl
  | cons e rest ih =>
    unfold firstUsable at failed
    split at failed
    · cases failed
    · exact ih failed

namespace Job.Equipped

variable {job : Job K}

theorem error_eq (equipped : job.Equipped) {f : Fault} (failed : job.toolchain.1 = .error f) :
    ∃ name, f = EntryPoint.noneUsable name := by
  obtain ⟨t, given⟩ | ⟨name, es, found⟩ := equipped
  · rw [given] at failed
    cases failed
  · rw [found] at failed
    exact ⟨name, EntryPoint.error_of_firstUsable failed⟩

theorem isFailure (equipped : job.Equipped) {f : Fault} (failed : job.toolchain.1 = .error f) :
    f.isFailure = true := by
  obtain ⟨name, rfl⟩ := equipped.error_eq failed
  rfl

theorem silent (equipped : job.Equipped) : job.toolchain.2.filter Event.isFailed = [] := by
  obtain ⟨t, given⟩ | ⟨name, es, found⟩ := equipped
  · rw [given]
    rfl
  · rw [found]
    exact EntryPoint.firstUsable_silent _ _

end Job.Equipped

theorem Resolver.ofImporters_some (i : Nat) (is : List Importer) :
    ∃ rs, ofImporters i (is.map some) = .ok rs := by
  induction is generalizing i with
  | nil => exact ⟨[], rfl⟩
  | cons imp rest ih =>
    obtain ⟨more, listed⟩ := ih (i + 1)
    exact ⟨⟨.explicit, imp, "importer:" ++ imp.label⟩ :: more, by
      simp [ofImporters, listed, bind, Except.bind, pure, Except.pure]⟩

/-- A request always describes resolvers: the environment's list is split at a colon. -/
theorem Request.resolvers_ok (r : Request) (environ : List (String × String)) :
    ∃ rs, r.resolvers environ = .ok rs := by
  obtain ⟨explicit, listed⟩ := Resolver.ofImporters_some 0 r.importers
  have split : ∃ paths, Environ.loadPaths environ ":" = .ok paths := ⟨_, rfl⟩
  obtain ⟨paths, split⟩ := split
  unfold resolvers Resolver.cascade
  rw [listed]
  cases r.environmentPaths with
  | some ps => exact ⟨_, rfl⟩
  | none =>
    rw [split]
    exact ⟨_, rfl⟩

namespace Compile

variable {job : Job K} {importers : Importers K} {s : Session K} {f : Fault}
variable {h : Settled (Session K) Fault (CompileCall K) CompileCall.Reply}

theorem isFailure_cacheFor {environ : List (String × String)}
    (failed : cacheFor job environ = .error f) : f.isFailure = true := by
  unfold cacheFor at failed
  split at failed
  · split at failed
    · cases failed
      rfl
    · cases failed
  · obtain ⟨rs, described⟩ := job.request.resolvers_ok environ
    rw [described] at failed
    cases failed

theorem isFailure_of_ends_start (equipped : job.Equipped) (ended : (start job).Ends h s f) :
    f.isFailure = true := by
  unfold start at ended
  rw [Steps.ends_modifyThen] at ended
  obtain ended | ⟨t, u, -, ended⟩ := Steps.ends_bind.1 ended
  · exact equipped.isFailure ended
  · split at ended
    · obtain rfl := Steps.ends_fail.1 ended
      rfl
    · rw [Steps.ends_getThen] at ended
      obtain ended | ⟨cache, v, -, ended⟩ := Steps.ends_bind.1 ended
      · exact isFailure_cacheFor ended
      · cases ended

theorem ends_lift {m : ImportSteps K α} :
    (lift m).Ends h s f ↔ m.Ends (fun c => h (.load c)) s f := by
  unfold Steps.Ends Steps.exec lift
  rw [follow_liftRun]

theorem ends_entry (foreign : f.isFailure = false) (r : Request) :
    (entry r).Ends h s f ↔
      (∃ p raised, r.path = some p ∧
        Import.Disrupted (fun c => h (.load c)) p.toText none s raised ∧
        raised.leaving "generator" = f) ∨
      (r.path = none ∧ r.entryDialect = .error f) := by
  unfold entry
  cases r.path with
  | some p =>
    simp only [ends_lift, Import.ends_load foreign, Option.some.injEq, reduceCtorEq, false_and,
      or_false, exists_eq_left', exists_and_left]
  | none =>
    simp only [reduceCtorEq, false_and, exists_false, false_or, true_and]
    rw [Steps.ends_bind]
    constructor
    · rintro (ended | ⟨dialect, t, -, ended⟩)
      · exact ended
      · rw [Steps.ends_getThen, Steps.ends_modifyThen] at ended
        have parsed : (Fault.isFailure f) = true := by
          split at ended
          · rw [Steps.ends_modifyThen] at ended
            exact Import.isFailure_of_ends_parse (ends_lift.1 ended)
          · exact Import.isFailure_of_ends_parse (ends_lift.1 ended)
        rw [parsed] at foreign
        cases foreign
    · intro malformed
      exact .inl malformed

theorem retag_eq (foreign : f.isFailure = false) : retag f = f := by
  cases f with
  | failure g => cases foreign
  | _ => rfl

theorem isFailure_retag (f : Fault) : (retag f).isFailure = f.isFailure := by
  unfold retag
  split
  · split
    · rfl
    · rfl
    · rfl
  · rfl

theorem isFailure_evaluatorFault (toolchain : String) (f : Fault) :
    (evaluatorFault toolchain f).isFailure = true := by
  unfold evaluatorFault
  split
  · rfl
  · rfl
  · rfl

theorem isFailure_serializerFault (f : Fault) : (serializerFault f).isFailure = true := by
  unfold serializerFault
  split
  · rfl
  · rfl

theorem result_eq_error {css : String} {builder : Builder} {style : Style}
    {charset sourceMap : Bool} {loaded : List String} :
    (Assemble.result css builder style charset sourceMap loaded).1 = .error f ↔
      sourceMap = true ∧ builder = some (.error f) := by
  unfold Assemble.result Assemble.mapFor
  cases sourceMap with
  | false => simp [Except.map]
  | true =>
    rcases builder with _ | raised | built
    · simp [Except.map]
    · simp [Except.map]
    · simp [Except.map]

/-- Of what happens while a result is assembled, only a fault of the map's builder is no failure. -/
theorem ends_assemble (foreign : f.isFailure = false) (r : Request) (tree : K.Tree) :
    (assemble r tree).Ends h s f ↔
      r.sourceMap = true ∧ ∃ css t, h (.render tree r.style) s = (.ok (css, some (.error f)), t) := by
  unfold assemble
  rw [Steps.ends_bind, Steps.ends_mapFault]
  simp only [Steps.exec_mapFault, Steps.exec_perform, Steps.ends_getThen]
  constructor
  · rintro (⟨raised, -, rfl⟩ | ⟨⟨css, builder⟩, t, rendered, ended⟩)
    · rw [isFailure_serializerFault] at foreign
      cases foreign
    · obtain ⟨wanted, rfl⟩ := result_eq_error.1 ended
      refine ⟨wanted, css, t, ?_⟩
      generalize h (.render tree r.style) s = answer at rendered
      rcases answer with ⟨raised | made, u⟩
      · cases rendered
      · cases rendered
        rfl
  · rintro ⟨wanted, css, t, rendered⟩
    refine .inr ⟨(css, some (.error f)), t, ?_, result_eq_error.2 ⟨wanted, rfl⟩⟩
    rw [rendered]
    rfl

/-! ## Stage by stage -/

/-- The session once a stage is announced and its span open. -/
def within (run : RunLabel) (stage : Stage) (attributes : List (String × String)) (s : Session K) :
    Session K :=
  let started := s.emit (.stageStart run stage)
  { started with
    world := started.world.openSpan ("compile." ++ Text.lowerAscii stage.name)
      (attributes.map fun a => ("sass." ++ a.1, a.2)) }

theorem ends_inStage {run : RunLabel} {stage : Stage} {attributes : List (String × String)}
    {body : CompileSteps K α} :
    (inStage run stage attributes body).Ends h s f ↔
      body.Ends h (within run stage attributes s) f := by
  unfold inStage emit
  rw [Steps.ends_modifyThen, Steps.ends_modifyThen, Steps.ends_attemptThen, Steps.Ends, Steps.Ends]
  rcases ran : body.exec h (within run stage attributes s) with ⟨raised | a, t⟩
  · rw [within] at ran
    rw [ran]
    exact Iff.rfl
  · rw [within] at ran
    rw [ran]
    constructor
    · intro ended
      cases ended
    · intro ended
      cases ended

def label (job : Job K) : RunLabel := ⟨job.request.entryLabel, job.mode⟩

def startStage (job : Job K) : CompileSteps K (Toolchain K) :=
  inStage (label job) .start [("mode", job.mode.name), ("entry", job.request.entryLabel)] (start job)

def entryStage (job : Job K) : CompileSteps K (Imported K) :=
  inStage (label job) .resolveEntry [] ((entry job.request).mapFault retag)

def evaluateStage (job : Job K) (t : Toolchain K) (e : Imported K) : CompileSteps K K.Tree :=
  inStage (label job) .evaluate [("url", e.url)]
    ((Steps.perform (CompileCall.evaluate e.sheet)).mapFault (evaluatorFault t.name))

def assembleStage (job : Job K) (tree : K.Tree) : CompileSteps K Result :=
  inStage (label job) .assemble [("style", job.request.style.name)] (assemble job.request tree)

theorem stages_eq (job : Job K) :
    stages job (label job) = (do
      let t ← startStage job
      let e ← entryStage job
      let tree ← evaluateStage job t e
      assembleStage job tree) := rfl

/-- The faults that the stages of a run let through as they are. -/
inductive Escape (job : Job K) (h : Settled (Session K) Fault (CompileCall K) CompileCall.Reply)
    (s : Session K) : Fault → Prop where
  /-- An importer raises a fault when it is asked for the path of the entry. -/
  | importer {t : Toolchain K} {u : Session K} {p : Path} {raised : Fault}
    (started : (startStage job).exec h s = (.ok t, u))
    (path : job.request.path = some p)
    (disrupted : Import.Disrupted (fun c => h (.load c)) p.toText none
      (within (label job) .resolveEntry [] u) raised) :
    Escape job h s (raised.leaving "generator")
  /-- The dialect of an entry in memory cannot be told, as its URL is malformed. -/
  | url {t : Toolchain K} {u : Session K} {f : Fault}
    (started : (startStage job).exec h s = (.ok t, u))
    (path : job.request.path = none)
    (malformed : job.request.entryDialect = .error f) : Escape job h s f
  /-- The builder of a map that is wanted raises a fault. -/
  | map {t : Toolchain K} {u v w x : Session K} {e : Imported K} {tree : K.Tree} {css : String}
    {f : Fault}
    (started : (startStage job).exec h s = (.ok t, u))
    (entered : (entryStage job).exec h u = (.ok e, v))
    (evaluated : (evaluateStage job t e).exec h v = (.ok tree, w))
    (rendered : h (.render tree job.request.style)
      (within (label job) .assemble [("style", job.request.style.name)] w) =
        (.ok (css, some (.error f)), x))
    (wanted : job.request.sourceMap = true) (foreign : f.isFailure = false) : Escape job h s f

theorem isFailure_entryDialect {r : Request} (malformed : r.entryDialect = .error f) :
    f.isFailure = false := by
  unfold Request.entryDialect at malformed
  split at malformed
  · cases malformed
  · split at malformed
    · cases malformed
    · generalize Dialect.forLocation _ = dialect at malformed
      cases dialect with
      | ok d => cases malformed
      | error m =>
        cases malformed
        rfl
  · cases malformed

theorem Escape.not_failure (escape : Escape job h s f) : f.isFailure = false := by
  cases escape with
  | importer _ _ disrupted =>
    rw [Fault.isFailure_leaving]
    exact disrupted.2.not_failure
  | url _ _ malformed => exact isFailure_entryDialect malformed
  | map _ _ _ _ _ foreign => exact foreign

/-- A fault that is no failure ends the stages of a run just if it escapes. -/
theorem ends_stages (equipped : job.Equipped) (foreign : f.isFailure = false) :
    (stages job (label job)).Ends h s f ↔ Escape job h s f := by
  have contained {g : Fault} (failure : g.isFailure = true) (same : g = f) : False := by
    rw [same, foreign] at failure
    cases failure
  have entering {u : Session K} : (entryStage job).Ends h u f ↔
      (entry job.request).Ends h (within (label job) .resolveEntry [] u) f := by
    unfold entryStage
    rw [ends_inStage, Steps.ends_mapFault]
    constructor
    · rintro ⟨raised, ended, rfl⟩
      rw [isFailure_retag] at foreign
      rwa [retag_eq foreign]
    · intro ended
      exact ⟨f, ended, retag_eq foreign⟩
  rw [stages_eq]
  constructor
  · intro ended
    obtain ended | ⟨t, u, started, ended⟩ := Steps.ends_bind.1 ended
    · exact (contained (isFailure_of_ends_start equipped (ends_inStage.1 ended)) rfl).elim
    obtain ended | ⟨e, v, entered, ended⟩ := Steps.ends_bind.1 ended
    · obtain ⟨p, raised, path, disrupted, rfl⟩ | ⟨path, malformed⟩ :=
        (ends_entry foreign _).1 (entering.1 ended)
      · exact .importer started path disrupted
      · exact .url started path malformed
    obtain ended | ⟨tree, w, evaluated, ended⟩ := Steps.ends_bind.1 ended
    · obtain ⟨raised, -, same⟩ := Steps.ends_mapFault.1 (ends_inStage.1 ended)
      exact (contained (isFailure_evaluatorFault _ _) same).elim
    · obtain ⟨wanted, css, x, rendered⟩ := (ends_assemble foreign _ _).1 (ends_inStage.1 ended)
      exact .map started entered evaluated rendered wanted foreign
  · intro escape
    cases escape with
    | importer started path disrupted =>
      refine Steps.ends_bind.2 (.inr ⟨_, _, started, Steps.ends_bind.2 (.inl (entering.2 ?_))⟩)
      exact (ends_entry foreign job.request).2 (.inl ⟨_, _, path, disrupted, rfl⟩)
    | url started path malformed =>
      refine Steps.ends_bind.2 (.inr ⟨_, _, started, Steps.ends_bind.2 (.inl (entering.2 ?_))⟩)
      exact (ends_entry foreign job.request).2 (.inr ⟨path, malformed⟩)
    | map started entered evaluated rendered wanted foreign =>
      have ended := (ends_assemble foreign job.request _).2 ⟨wanted, _, _, rendered⟩
      refine Steps.ends_bind.2 (.inr ⟨_, _, started, ?_⟩)
      refine Steps.ends_bind.2 (.inr ⟨_, _, entered, ?_⟩)
      exact Steps.ends_bind.2 (.inr ⟨_, _, evaluated, ends_inStage.2 ended⟩)

end Compile

/-! ## Silence of the collaborators of lines -/

namespace Lines

theorem answerAs_within {ρ : Type} {V : World kit → World kit → Prop} (frame : World.Frame V)
    (later : Bool) {act : World kit → Except Fault ρ × World kit} (kept : ∀ w, V w (act w).2) :
    Answer.Within V (answerAs later act) := by
  intro w e
  cases later with
  | false =>
    simp only [answerAs, Bool.false_eq_true, if_false, Answer.refused_ofExcept,
      Answer.awaited_ofExcept]
    exact ⟨kept w, kept w⟩
  | true => exact ⟨frame.refl w, kept w⟩

theorem toolchain_silent (c : Settings) (table : List (String × Canned × Bool)) :
    (toolchain c).Silent (importers table) where
  importer handle reference base := by
    unfold importers
    generalize table.lookup handle.id = entry
    rcases entry with _ | ⟨canned, later⟩
    · exact fun w e => ⟨rfl, rfl⟩
    · exact answerAs_within World.failures_frame later fun w => rfl
  parse contents dialect url := by
    simp only [toolchain]
    exact answerAs_within World.failures_frame c.awaitParse fun w => rfl
  render tree style := by
    simp only [toolchain]
    exact answerAs_within World.failures_frame c.awaitRender fun w => rfl

end Lines

/-! ## The end of a run -/

namespace Compile

variable {job : Job K} {importers : Importers K} {s : Session K} {f : Fault}
variable {h : Settled (Session K) Fault (CompileCall K) CompileCall.Reply}

/-- The report of a failure; other faults have none. -/
def announcement (run : RunLabel) : Fault → List Event
  | .failure g => [.failed run g.report.stage g.report.code g.report.message]
  | _ => []

/-- What a run reports about its outcome. -/
def announced (run : RunLabel) : Except Fault Result → List Event
  | .ok _ => []
  | .error f => announcement run f

theorem exec_announce (run : RunLabel) (f : Fault) (s : Session K) :
    (announce run f : CompileSteps K α).exec h s =
      (.error (f.leaving "generator"),
        { s with world := s.world.emitAll (announcement run f) }) := by
  cases f with
  | failure g => rfl
  | _ => simp [announce, announcement, World.emitAll]

theorem failures_emitAll_announcement (run : RunLabel) (f : Fault) (w : World K) :
    (w.emitAll (announcement run f)).failures = w.failures ++ announcement run f := by
  have kept : (announcement run f).filter Event.isFailed = announcement run f := by
    cases f with
    | failure g => rfl
    | _ => rfl
  rw [World.failures, World.emitAll, List.filter_append, kept]
  rfl

theorem announcement_leaving (run : RunLabel) (routine : String) (f : Fault) :
    announcement run (f.leaving routine) = announcement run f := by
  unfold Fault.leaving
  split
  · split
    · rfl
    · rfl
  · rfl

theorem exec_announced {t : Session K}
    (failed : (stages job (label job)).exec h s = (.error f, t)) :
    ((stages job (label job)).orElse (announce (label job))).exec h s =
      (.error (f.leaving "generator"),
        { t with world := t.world.emitAll (announcement (label job) f) }) := by
  rw [Steps.exec_orElse, failed]
  exact exec_announce (label job) f t

theorem exec_steps_error {t : Session K}
    (failed : (stages job (label job)).exec h s = (.error f, t)) :
    (steps job).exec h s =
      (.error (f.leaving "generator"),
        { t with world := t.world.emitAll (announcement (label job) f) }) := by
  have handled := exec_announced failed
  simp only [label] at handled ⊢
  rw [steps, Steps.exec_bind, handled]

theorem exec_steps_ok {r : Result} {t : Session K}
    (done : (stages job (label job)).exec h s = (.ok r, t)) :
    ∃ u, (steps job).exec h s = (.ok r, u) ∧ SameFailures t u := by
  have passed : ((stages job (label job)).orElse (announce (label job))).exec h s = (.ok r, t) := by
    rw [Steps.exec_orElse, done]
  simp only [label] at passed
  rw [steps, Steps.exec_bind, passed]
  have finished (u : Session K) : SameFailures u
      (u.emit (.complete (label job) r.loadedUrls.length t.context.suppressed)) :=
    sameFailures_emit rfl u
  have counted : SameFailures t (t.emit (.omitted (label job) t.throttle.omitted)) :=
    sameFailures_emit rfl t
  -- Notices that were held back are counted before the run is reported complete.
  cases none : t.throttle.omitted.isEmpty with
  | true =>
    refine ⟨_, ?_, finished t⟩
    show Steps.exec h (if _ then _ else _) t = _
    rw [none]
    rfl
  | false =>
    refine ⟨_, ?_, SameFailures.frame.trans counted (finished _)⟩
    show Steps.exec h (if _ then _ else _) t = _
    rw [none]
    rfl

/-- A run ends with a result, with a failure that it has reported once, by its stage, code and message,
or with a fault that escapes and is not reported. -/
theorem run_contained (job : Job K) (importers : Importers K) (s : Session K)
    (equipped : job.Equipped) (silent : ∀ t, job.toolchain.1 = .ok t → t.Silent importers) :
    (run job importers s).2.world.failures =
        s.world.failures ++ announced (label job) (run job importers s).1 ∧
      (∀ f, (run job importers s).1 = .error f →
        (∃ g, f = .failure g ∧ Report.isCode g.report.code = true) ∨
          ∃ raised, Escape job (settled job importers) s raised ∧ f = raised.leaving "generator") ∧
      ∀ raised, Escape job (settled job importers) s raised →
        (run job importers s).1 = .error (raised.leaving "generator") ∧ raised.isFailure = false := by
  have quiet : ∀ c s, SameFailures s (settled job importers c s).2 := settled_silent silent
  have moved := moves_stages quiet equipped.silent (label job) s
  rw [run_eq_exec]
  rcases ran : (stages job (label job)).exec (settled job importers) s with ⟨raised | r, t⟩
  · -- The stages report nothing themselves, so the report of the end is the only one.
    rw [ran] at moved
    rw [exec_steps_error ran]
    refine ⟨?_, ?_, ?_⟩
    · show (t.world.emitAll (announcement (label job) raised)).failures =
        s.world.failures ++ announcement (label job) (raised.leaving "generator")
      rw [failures_emitAll_announcement, announcement_leaving, moved]
    · rintro f ended
      cases ended
      cases foreign : raised.isFailure with
      | true =>
        cases raised with
        | failure g => exact .inl ⟨g, rfl, g.report.coded⟩
        | _ => cases foreign
      | false =>
        exact .inr ⟨raised, (ends_stages equipped foreign).1 (Steps.ends_of_exec ran), rfl⟩
    · intro escaped escape
      have ended := (ends_stages equipped escape.not_failure).2 escape
      rw [Steps.Ends, ran] at ended
      cases ended
      exact ⟨rfl, escape.not_failure⟩
  · obtain ⟨u, finished, same⟩ := exec_steps_ok ran
    rw [ran] at moved
    rw [finished]
    refine ⟨?_, ?_, ?_⟩
    · show u.world.failures = s.world.failures ++ []
      rw [List.append_nil]
      exact same.trans moved
    · intro f ended
      cases ended
    · intro escaped escape
      have ended := (ends_stages equipped escape.not_failure).2 escape
      rw [Steps.Ends, ran] at ended
      cases ended

end Compile

namespace Lines

open Compile

def raisingImporter : Importer := .custom ⟨"b", "Imp(b)"⟩

/-- An importer that raises, whatever it is asked for. -/
def raisingImporters : Importers kit :=
  importers [("b", .raising (.raised ⟨"ValueError", "no", []⟩), false)]

/-- A sheet in memory that imports through it. -/
def raisingImport : Job kit where
  request :=
    { source := some "@use \"colors\";", url := some "memory:main", importer := some raisingImporter }
  mode := .direct
  toolchain := (.ok (toolchain {}), [])

/-- A sheet that it should find itself. -/
def raisingEntry : Job kit where
  request := { path := some ⟨0, ["main"]⟩ }
  mode := .direct
  toolchain := (.ok (toolchain {}), [])
  cache := some { resolvers := [], entry := raisingImporter }

def containmentStart : Session kit := .blank ({} : Notes)

theorem raising_runs_contained :
    announced (label raisingImport) (run raisingImport raisingImporters containmentStart).1 =
        [.failed ⟨"memory:main", .direct⟩ .evaluate "E302" "no"] ∧
      ∃ raised, Escape raisingEntry (settled raisingEntry raisingImporters) containmentStart raised := by
  have silent : ∀ t, Except.ok (toolchain {}) = (.ok t : Except Fault (Toolchain kit)) →
      t.Silent raisingImporters := by
    rintro t given
    cases given
    exact toolchain_silent {} _
  constructor
  · obtain ⟨reported, -⟩ := run_contained raisingImport raisingImporters containmentStart
      (.inl ⟨_, rfl⟩) silent
    have seen : (run raisingImport raisingImporters containmentStart).2.world.failures =
        [.failed ⟨"memory:main", .direct⟩ .evaluate "E302" "no"] := by decide +kernel
    rw [seen] at reported
    exact reported.symm
  · obtain ⟨reported, ended, -⟩ := run_contained raisingEntry raisingImporters containmentStart
      (.inl ⟨_, rfl⟩) silent
    have seen : (run raisingEntry raisingImporters containmentStart).2.world.failures = [] := by
      decide +kernel
    have fruitless : (run raisingEntry raisingImporters containmentStart).1.toOption.isNone := by
      decide +kernel
    rcases outcome : (run raisingEntry raisingImporters containmentStart).1 with f | r
    · obtain ⟨g, rfl, -⟩ | ⟨raised, escape, -⟩ := ended f outcome
      · rw [seen, outcome] at reported
        cases reported
      · exact ⟨raised, escape⟩
    · rw [outcome] at fruitless
      cases fruitless

/-- An importer that raises when it is asked for an entry ends the run without a report. -/
theorem raising_entry_unreported :
    (run raisingEntry raisingImporters containmentStart).1.toOption.isNone ∧
      (run raisingEntry raisingImporters containmentStart).2.world.failures = [] := by
  decide +kernel

end Lines

end StyleBuild
