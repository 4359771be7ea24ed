import StyleBuild.Lines.Toolchain
import StyleBuild.Proofs.Calls

/-!
# Direct and awaited runs agree

A run leaves the way its calls are answered in three places only: in the labels of its events, in one
attribute of its first span, and in the kind of its cache. `Session.unmoded` forgets these. Two sessions
that are equal without them are alike, and the steps of a run match from alike sessions on, whichever of
the two ways they were written for.

An importer, a parser or a serializer has a twin that comes to the same, now or later; the twin of an
evaluator makes the same conversation and is awaited. The run of a job and the run of its twin then have
the same outcome, the same calls, the same diagnostics, and the same events but for the labels, as long as
the evaluator lets no end of an iteration out, which a coroutine would turn into another fault.
-/

set_option autoImplicit false

namespace StyleBuild

variable {K : Kit} {α : Type}

/-! ## What the mode leaves behind -/

def RunLabel.unmoded (l : RunLabel) : RunLabel := { l with mode := .direct }

/-- An event without the mode of its run. -/
def Event.unmoded : Event → Event
  | stageStart run stage => stageStart run.unmoded stage
  | stageComplete run stage => stageComplete run.unmoded stage
  | failed run stage code message => failed run.unmoded stage code message
  | omitted run counts => omitted run.unmoded counts
  | complete run loaded suppressed => complete run.unmoded loaded suppressed
  | e => e

theorem Event.unmoded_unmoded (e : Event) : e.unmoded.unmoded = e.unmoded := by
  cases e <;> rfl

/-- A span without the attribute that shows the mode. -/
def SpanRecord.unmoded (r : SpanRecord) : SpanRecord :=
  { r with attributes := r.attributes.filter fun a => a.1 != "sass.mode" }

def World.unmoded (w : World K) : World K :=
  { w with events := w.events.map Event.unmoded, spans := w.spans.map SpanRecord.unmoded }

def Session.unmoded (s : Session K) : Session K :=
  { s with world := s.world.unmoded, cache := s.cache.unmoded }

/-- Sessions that differ at most in what the mode of a run leaves behind. -/
def Session.Alike (s s' : Session K) : Prop := s.unmoded = s'.unmoded

theorem SpanRecord.unmoded_fail (r : SpanRecord) (f : Fault) :
    (r.fail f).unmoded = r.unmoded.fail f := by
  have kept : ∀ (key : String) (v : Value), key ≠ "sass.mode" → ∀ q : SpanRecord,
      (q.withAttribute key v).unmoded = q.unmoded.withAttribute key v := by
    intro key v other q
    have shown : (key != "sass.mode") = true := bne_iff_ne.mpr other
    simp only [SpanRecord.unmoded, SpanRecord.withAttribute, List.filter_append, List.filter_cons,
      List.filter_nil, shown, if_true]
  have first := kept "exception.type" (.text f.kind) (by decide) r
  have second := kept "exception.message" (.text (Redact.redactText f.message Redact.defaultLength))
    (by decide) (r.withAttribute "exception.type" (.text f.kind))
  rw [first] at second
  let message := Redact.redactText f.message Redact.defaultLength
  exact congrArg (fun q : SpanRecord => { q with failure := some message }) second

theorem World.unmoded_failSpan (w : World K) (f : Fault) :
    (w.failSpan f).unmoded = w.unmoded.failSpan f := by
  have last : w.unmoded.spans.getLast? = w.spans.getLast?.map SpanRecord.unmoded := by
    simp [World.unmoded]
  unfold World.failSpan
  rw [last]
  cases w.spans.getLast? with
  | none => rfl
  | some r => simp [World.unmoded, SpanRecord.unmoded_fail]

namespace Session

theorem Alike.eq {β : Type} {s s' : Session K} (h : Alike s s') (f : Session K → β)
    (blind : ∀ t, f t.unmoded = f t) : f s = f s' := by
  rw [← blind s, ← blind s', show s.unmoded = s'.unmoded from h]

theorem Alike.worlds {s s' : Session K} (h : Alike s s') : s.world.unmoded = s'.world.unmoded :=
  congrArg Session.world (show s.unmoded = s'.unmoded from h)

theorem Alike.caches {s s' : Session K} (h : Alike s s') : s.cache.unmoded = s'.cache.unmoded :=
  congrArg Session.cache (show s.unmoded = s'.unmoded from h)

/-- A change that is not concerned with the mode keeps sessions alike. -/
theorem Alike.change {f : Session K → Session K} (keeps : ∀ s, (f s).unmoded = f s.unmoded)
    {s s' : Session K} (h : Alike s s') : Alike (f s) (f s') := by
  unfold Alike
  rw [keeps s, keeps s', h]

theorem Alike.emit {e e' : Event} (same : e.unmoded = e'.unmoded) {s s' : Session K}
    (h : Alike s s') : Alike (s.emit e) (s'.emit e') := by
  have key : ∀ (t : Session K) (e : Event), (t.emit e).unmoded = t.unmoded.emit e.unmoded := by
    intro t e
    simp [unmoded, Session.emit, World.emit, World.unmoded]
  unfold Alike
  rw [key s, key s', h, same]

theorem Alike.withWorld {s s' : Session K} (h : Alike s s') {w w' : World K}
    (worlds : w.unmoded = w'.unmoded) : Alike { s with world := w } { s' with world := w' } := by
  have rest : ∀ t : Session K, ∀ v : World K,
      ({ t with world := v } : Session K).unmoded = { t.unmoded with world := v.unmoded } :=
    fun _ _ => rfl
  unfold Alike
  rw [rest s, rest s', worlds, show s.unmoded = s'.unmoded from h]

theorem Alike.withCache {s s' : Session K} (h : Alike s s') {c c' : Cache K}
    (caches : c.unmoded = c'.unmoded) : Alike { s with cache := c } { s' with cache := c' } := by
  have rest : ∀ t : Session K, ∀ d : Cache K,
      ({ t with cache := d } : Session K).unmoded = { t.unmoded with cache := d.unmoded } :=
    fun _ _ => rfl
  unfold Alike
  rw [rest s, rest s', caches, show s.unmoded = s'.unmoded from h]

theorem Alike.emitAll (es : List Event) {s s' : Session K} (h : Alike s s') :
    Alike { s with world := s.world.emitAll es } { s' with world := s'.world.emitAll es } := by
  refine h.withWorld ?_
  have told : ∀ w : World K,
      (w.emitAll es).unmoded = w.unmoded.emitAll (es.map Event.unmoded) := by
    intro w
    simp [World.emitAll, World.unmoded]
  rw [told, told, h.worlds]

theorem unmoded_recordLoaded (s : Session K) (url : String) :
    (s.recordLoaded url).unmoded = s.unmoded.recordLoaded url := by
  have same : s.unmoded.context = s.context := rfl
  unfold recordLoaded
  rw [same]
  split <;> rfl

theorem unmoded_report (w : World K) (d : Diagnostic) :
    (w.report d).unmoded = w.unmoded.report d := rfl

theorem unmoded_warn (s : Session K) (message : String) (deprecation : Option String)
    (span : Option Span) (origin : Option String) :
    (s.warn message deprecation span origin).unmoded =
      s.unmoded.warn message deprecation span origin := by
  have context : s.unmoded.context = s.context := rfl
  have cache : s.unmoded.cache.isDependency = s.cache.isDependency := rfl
  unfold warn
  simp only [context, cache]
  split
  · simp [unmoded, World.emit, World.unmoded, Event.unmoded]
  · cases deprecation with
    | none => rfl
    | some kind =>
      have throttle : s.unmoded.throttle = s.throttle := rfl
      have told : ∀ (t : Throttle) (w : World K),
          (w.emitAll (t.event? kind).toList).unmoded =
            w.unmoded.emitAll (t.event? kind).toList := by
        intro t w
        unfold Throttle.event?
        split <;> simp [World.emitAll, World.unmoded, Event.unmoded]
      simp only [notice, throttle]
      split
      · simp only [unmoded, unmoded_report, told]
      · simp only [unmoded, told]

end Session

/-- Imports are not concerned with the mode. -/
theorem Session.Alike.blind : ImportBlind (Session.Alike (K := K)) where
  caches states := states.caches
  emit _ states := states.emit rfl
  change unmoded states := states.withCache (by rw [unmoded, unmoded, states.caches])
  loaded url states := states.change fun s => Session.unmoded_recordLoaded s url

/-! ## Twins -/

/-- The second answer comes to what the first one says at once, in worlds that differ at most by the
mode. -/
def Answer.Twin {ρ : Type} (a a' : Answer (World K) Fault ρ × World K) : Prop :=
  ∃ r w w', a = (.ofExcept r, w) ∧ Answer.awaited a' = (r, w') ∧ w.unmoded = w'.unmoded

/-- Importers and others that may answer now where their originals do, or later. -/
def Importers.Twin (f f' : Importers K) : Prop :=
  ∀ handle reference base w w', w.unmoded = w'.unmoded →
    Answer.Twin (f handle reference base w) (f' handle reference base w')

structure Toolchain.Twin (t t' : Toolchain K) : Prop where
  name : t.name = t'.name
  plain : t.evaluation = .plain
  awaitable : t'.evaluation = .awaitable
  evaluate : t.evaluate = t'.evaluate
  parse : ∀ contents dialect url w w', w.unmoded = w'.unmoded →
    Answer.Twin (t.parse contents dialect url w) (t'.parse contents dialect url w')
  render : ∀ tree style w w', w.unmoded = w'.unmoded →
    Answer.Twin (t.render tree style w) (t'.render tree style w')

/-- What has left one routine leaves every other as it is. -/
theorem Fault.leaving_leaving (first second : String) (f : Fault) :
    (f.leaving first).leaving second = f.leaving first := by
  cases f with
  | raised r =>
    by_cases stop : r.kind = stopKind
    · simp [leaving, stop, stopKind]
    · simp [leaving, stop]
  | _ => rfl

/-- With these importers, no fault of the evaluator is one that a coroutine would change. -/
def Toolchain.WithoutStops (t : Toolchain K) (importers : Importers K) : Prop :=
  ∀ sheet (s : Session K) f,
    ((t.evaluate sheet s.context.functions).run (t.collaborators importers) .direct s).1 = .error f →
      f.leaving "coroutine" = f

theorem Toolchain.WithoutStops.unchanged {t : Toolchain K} {importers : Importers K}
    (goesOn : t.WithoutStops importers) (sheet : K.Sheet) (s : Session K) :
    ((t.evaluate sheet s.context.functions).run (t.collaborators importers) .direct s).1.mapError
        (Fault.leaving "coroutine") =
      ((t.evaluate sheet s.context.functions).run (t.collaborators importers) .direct s).1 := by
  have kept := goesOn sheet s
  generalize ((t.evaluate sheet s.context.functions).run (t.collaborators importers) .direct s).1 = r
    at kept ⊢
  cases r with
  | error f => exact congrArg Except.error (kept f rfl)
  | ok tree => rfl

theorem Answer.Twin.settle {ρ : Type} {a a' : Answer (World K) Fault ρ × World K}
    (twin : Answer.Twin a a') (e : Fault) {s s' : Session K} (states : s.Alike s') :
    (Answer.refused e (Answer.onSession s a)).1 = (Answer.awaited (Answer.onSession s' a')).1 ∧
      (Answer.refused e (Answer.onSession s a)).2.Alike
        (Answer.awaited (Answer.onSession s' a')).2 := by
  obtain ⟨r, w, w', rfl, later, worlds⟩ := twin
  rw [Answer.refused_onSession, Answer.awaited_onSession, Answer.refused_ofExcept, later]
  exact ⟨rfl, states.withWorld worlds⟩

open Session (Alike)

theorem Session.Alike.library {s s' : Session K} (states : Alike s s') (o : Lookup.Outcome) (e : Fault) :
    (Answer.refused e (Collaborators.library s o)).1 =
        (Answer.awaited (Collaborators.library s' o)).1 ∧
      (Answer.refused e (Collaborators.library s o)).2.Alike
        (Answer.awaited (Collaborators.library s' o)).2 := by
  unfold Collaborators.library
  rw [Answer.refused_ofExcept, Answer.awaited_ofExcept]
  exact ⟨rfl, states.emitAll o.2⟩

variable {t t' : Toolchain K} {importers importers' : Importers K}

theorem imports_agree (twin : t.Twin t') (twins : Importers.Twin importers importers') :
    Run.HostsAgree Alike ((t.collaborators importers).settled .direct)
      ((t'.collaborators importers').settled .awaiting) := by
  intro c s s' states
  have files : s.world.files = s'.world.files := states.eq (·.world.files) fun _ => rfl
  simp only [Collaborators.settled, Host.refusing, Host.awaited]
  cases c with
  | resolve importer reference base =>
    cases importer with
    | directory root =>
      simp only [Collaborators.importHost, files]
      exact states.library _ _
    | packages config =>
      simp only [Collaborators.importHost, files]
      exact states.library _ _
    | unchecked config =>
      simp only [Collaborators.importHost, files]
      exact states.library _ _
    | custom handle _ => exact (twins handle reference base _ _ states.worlds).settle _ states
    | misfit v => exact ⟨rfl, states⟩
  | parse contents dialect url =>
    exact (twin.parse contents dialect url _ _ states.worlds).settle _ states

theorem load_agrees (twin : t.Twin t') (twins : Importers.Twin importers importers')
    (reference : String) (base : Option String) {s s' : Session K} (states : Alike s s') :
    let c := t.collaborators importers
    let c' := t'.collaborators importers'
    let m := Import.load (K := K) reference base
    (c.drive .direct m s).1 = (c'.drive .awaiting m s').1 ∧
      Alike (c.drive .direct m s).2 (c'.drive .awaiting m s').2 ∧
      c.calls .direct m s = c'.calls .awaiting m s' := by
  intro c c' m
  have hosts := imports_agree twin twins
  have blind := Alike.blind.load (K := K) reference base
  rw [Collaborators.drive_eq_exec, Collaborators.drive_eq_exec]
  obtain ⟨outcome, after⟩ := blind.exec hosts states
  refine ⟨outcome.eq, after, ?_⟩
  unfold Collaborators.calls
  refine (blind s s' states).trace hosts ?_
  exact fun _ _ _ _ => rfl

/-- The conversation of an evaluator goes the same way with its twin. -/
theorem script_agrees (twin : t.Twin t') (twins : Importers.Twin importers importers')
    (script : Script K) {s s' : Session K} (states : Alike s s') :
    let c := t.collaborators importers
    let c' := t'.collaborators importers'
    (script.run c .direct s).1 = (script.run c' .awaiting s').1 ∧
      Alike (script.run c .direct s).2 (script.run c' .awaiting s').2 ∧
      script.calls c .direct s = script.calls c' .awaiting s' := by
  intro c c'
  induction script generalizing s s' with
  | finish tree => exact ⟨rfl, states, rfl⟩
  | fail f => exact ⟨rfl, states, rfl⟩
  | load reference base next ih =>
    obtain ⟨outcome, after, made⟩ := load_agrees twin twins reference base states
    simp only [Script.run, Script.calls]
    rw [← outcome, ← made]
    obtain ⟨same, ends, rest⟩ := ih _ after
    exact ⟨same, ends, congrArg _ rest⟩
  | warn message deprecation span origin next ih =>
    exact ih (states.change fun s => Session.unmoded_warn s message deprecation span origin)
  | debug message span next ih => exact ih (states.change (f := (·.debug message span)) fun _ => rfl)
  | isDependency url next ih =>
    have known : s.cache.isDependency url = s'.cache.isDependency url :=
      states.eq (·.cache.isDependency url) fun _ => rfl
    simp only [Script.run, Script.calls, known]
    exact ih _ states

namespace Compile

theorem hosts_agree (twin : t.Twin t') (twins : Importers.Twin importers importers')
    (goesOn : t.WithoutStops importers) :
    Run.HostsAgree Alike ((host t importers).refusing (CompileCall.refuse t.methods))
      (host t' importers').awaited := by
  intro c s s' states
  cases c with
  | load c => exact imports_agree twin twins c s s' states
  | evaluate sheet =>
    have functions : s.context.functions = s'.context.functions :=
      states.eq (·.context.functions) fun _ => rfl
    obtain ⟨outcome, after, -⟩ :=
      script_agrees twin twins (t.evaluate sheet s.context.functions) states
    simp only [Host.refusing, Host.awaited, host, twin.plain, twin.awaitable, ← twin.evaluate,
      ← functions, Answer.refused_ofExcept, Answer.awaited]
    refine ⟨?_, after⟩
    rw [← outcome]
    exact (goesOn.unchanged sheet s).symm
  | render tree style =>
    exact (twin.render tree style _ _ states.worlds).settle _ states

theorem inner_agrees (twin : t.Twin t') (twins : Importers.Twin importers importers')
    (c : CompileCall K) (s s' : Session K) (states : Alike s s') :
    inner t importers .direct c s = inner t' importers' .awaiting c s' := by
  cases c with
  | load c => rfl
  | evaluate sheet =>
    have functions : s.context.functions = s'.context.functions :=
      states.eq (·.context.functions) fun _ => rfl
    obtain ⟨-, -, made⟩ := script_agrees twin twins (t.evaluate sheet s.context.functions) states
    simp only [inner, twin.plain, twin.awaitable, ← twin.evaluate, ← functions]
    exact made
  | render tree style => rfl

/-! ## Stages match -/

theorem match_lift {m : ImportSteps K α} (blind : Steps.Match Alike Eq m m) :
    Steps.Match Alike Eq (lift m) (lift m) := by
  have lifted : ∀ r r' : Run (Session K) Fault ImportCall (ImportCall.Reply K) α,
      Run.Match Alike Eq r r' → Run.Match Alike Eq (liftRun r) (liftRun r') := by
    intro r r' matched
    induction matched with
    | done outcomes states => exact .done outcomes states
    | call c states _ ih => exact .call _ states fun x s s' related => ih x s s' related
  exact fun s s' states => lifted _ _ (blind s s' states)

theorem match_emit {e e' : Event} (same : e.unmoded = e'.unmoded) :
    Steps.Match Alike Eq (emit e : CompileSteps K Unit) (emit e') :=
  .modify fun _ _ states => states.emit same

theorem match_perform (c : CompileCall K) :
    Steps.Match Alike Eq (Steps.perform c : CompileSteps K c.Reply) (Steps.perform c) := .perform c

/-- The span of a stage as it is opened. -/
def opened (title : String) (attributes : List (String × String)) : SpanRecord :=
  SpanRecord.start title
    ((attributes.map fun a => ("sass." ++ a.1, a.2)).map fun a => (a.1, .text a.2))

/-- A stage matches itself under labels and attributes that differ only by the mode. -/
theorem match_inStage {run run' : RunLabel} (labels : run.unmoded = run'.unmoded) (stage : Stage)
    {attributes attributes' : List (String × String)}
    (spans : ∀ title, (opened title attributes).unmoded = (opened title attributes').unmoded)
    {Q : α → α → Prop} {body body' : CompileSteps K α} (bodies : Steps.Match Alike Q body body') :
    Steps.Match Alike Q (inStage run stage attributes body)
      (inStage run' stage attributes' body') := by
  have told : (Event.stageStart run stage).unmoded = (Event.stageStart run' stage).unmoded :=
    congrArg (Event.stageStart · stage) labels
  have tells : (Event.stageComplete run stage).unmoded = (Event.stageComplete run' stage).unmoded :=
    congrArg (Event.stageComplete · stage) labels
  refine .bind (match_emit told) fun _ => .bind (.modify fun s s' states => ?_) fun _ => ?_
  · refine states.withWorld ?_
    have key : ∀ (w : World K) (title : String) (as : List (String × String)),
        (w.openSpan title (as.map fun a => ("sass." ++ a.1, a.2))).unmoded =
          { w.unmoded with spans := w.unmoded.spans ++ [(opened title as).unmoded] } := by
      intro w title as
      simp [World.openSpan, World.unmoded, opened]
    rw [key, key, states.worlds, spans]
  · refine bodies.attempt.andThen fun outcome outcome' outcomes => ?_
    cases outcomes with
    | ok values => exact .bind (match_emit tells) fun _ => .pure values
    | error f =>
      refine .bind (.modify fun s s' states => states.withWorld ?_) fun _ => .fail f
      rw [World.unmoded_failSpan, World.unmoded_failSpan, states.worlds]

/-- The same request in the two ways of answering calls: without a cache of the caller's, and with a
toolchain and its twin, given or found in the same way. -/
structure Twin (job job' : Job K) : Prop where
  request : job.request = job'.request
  throttle : job.throttle = job'.throttle
  direct : job.mode = .direct
  awaiting : job'.mode = .awaiting
  noCache : job.cache = none
  noCache' : job'.cache = none
  toolchains : Outcomes Toolchain.Twin job.toolchain.1 job'.toolchain.1
  found : job.toolchain.2 = job'.toolchain.2

variable {job job' : Job K}

theorem match_start (twin : Twin job job') :
    Steps.Match Alike Toolchain.Twin (start job) (start job') := by
  refine .bind (.modify fun s s' states => ?_) fun _ =>
    (Steps.Match.ofExcept twin.toolchains).andThen fun t t' toolchains => ?_
  · rw [twin.found]
    exact states.emitAll _
  · have plain : t.isAwaitable = false := by simp [Toolchain.isAwaitable, toolchains.plain]
    rw [if_neg (by simp [plain]), if_neg (by simp [twin.awaiting])]
    refine .get fun s s' states => ?_
    have environ : s.world.environ = s'.world.environ := states.eq (·.world.environ) fun _ => rfl
    -- The two new caches differ in their kind only.
    have caches : Outcomes (fun c c' : Cache K => c.unmoded = c'.unmoded)
        (cacheFor job s.world.environ) (cacheFor job' s'.world.environ) := by
      simp only [cacheFor, twin.noCache, twin.noCache', ← twin.request, environ]
      cases job.request.resolvers s'.world.environ with
      | error f => exact .error f
      | ok resolvers => exact .ok rfl
    refine (Steps.Match.ofExcept caches).andThen fun c c' same => ?_
    refine .bind (.modify fun u u' states => ?_) fun _ => .pure toolchains
    rw [twin.request, twin.throttle]
    have worlds := states.worlds
    simp only [Alike, Session.unmoded, same, worlds]

theorem match_entry (r : Request) : Steps.Match Alike Eq (entry (K := K) r) (entry r) := by
  unfold entry
  split
  · exact match_lift (Alike.blind.load _ none)
  · refine .bind (.ofExcept (.refl _)) fun dialect => .get fun s s' states => ?_
    have seeded : (s.cache.seed r.entryUrl (r.source.getD "") dialect r.importer).1 =
        (s'.cache.seed r.entryUrl (r.source.getD "") dialect r.importer).1 :=
      states.eq (fun s => (s.cache.seed r.entryUrl (r.source.getD "") dialect r.importer).1)
        fun _ => rfl
    have caches : (s.cache.seed r.entryUrl (r.source.getD "") dialect r.importer).2.unmoded =
        (s'.cache.seed r.entryUrl (r.source.getD "") dialect r.importer).2.unmoded :=
      states.eq (fun s => (s.cache.seed r.entryUrl (r.source.getD "") dialect r.importer).2.unmoded)
        fun _ => rfl
    simp only [seeded]
    refine .bind (.modify fun u u' states => states.withCache caches) fun _ => ?_
    split
    · refine .bind (.modify fun u u' states => ?_) fun _ => match_lift (Alike.blind.parse _)
      exact states.change fun u => Session.unmoded_recordLoaded u _
    · exact match_lift (Alike.blind.parse _)

theorem match_assemble (r : Request) (tree : K.Tree) :
    Steps.Match Alike Eq (assemble r tree) (assemble r tree) := by
  have rendered := match_perform (CompileCall.render tree r.style)
  refine .bind (rendered.mapFault serializerFault) fun css => .get fun s s' states => ?_
  have loaded : s.context.loaded = s'.context.loaded := states.eq (·.context.loaded) fun _ => rfl
  simp only [loaded]
  exact .bind (.modify fun _ _ states => states.emitAll _) fun _ => .ofExcept (.refl _)

theorem match_stages (twin : Twin job job') {run run' : RunLabel}
    (labels : run.unmoded = run'.unmoded) :
    Steps.Match Alike Eq (stages job run) (stages job' run') := by
  unfold stages
  rw [← twin.request]
  have spans : ∀ title, (opened title [("mode", job.mode.name),
      ("entry", job.request.entryLabel)]).unmoded = (opened title [("mode", job'.mode.name),
      ("entry", job.request.entryLabel)]).unmoded := by
    intro title
    have key : ("sass." ++ "mode" : String) = "sass.mode" := by decide
    simp [opened, SpanRecord.start, SpanRecord.unmoded, key, Value.isNull]
  refine (match_inStage labels .start spans (match_start twin)).andThen fun t t' toolchains => ?_
  refine .bind (match_inStage labels .resolveEntry (fun _ => rfl)
    ((match_entry job.request).mapFault retag)) fun e => ?_
  have evaluated := match_perform (CompileCall.evaluate e.sheet)
  rw [toolchains.name]
  refine .bind (match_inStage labels .evaluate (fun _ => rfl)
    (evaluated.mapFault (evaluatorFault t'.name))) fun tree => ?_
  exact match_inStage labels .assemble (fun _ => rfl) (match_assemble job.request tree)

theorem match_steps (twin : Twin job job') : Steps.Match Alike Eq (steps job) (steps job') := by
  unfold steps
  rw [← twin.request]
  have labels : RunLabel.unmoded ⟨job.request.entryLabel, job.mode⟩ =
      RunLabel.unmoded ⟨job.request.entryLabel, job'.mode⟩ := rfl
  refine .bind ((match_stages twin labels).orElse fun f => ?_) fun result => ?_
  · unfold announce
    split
    · exact .bind (match_emit rfl) fun _ => .fail _
    · exact .fail _
  · refine .get fun s s' states => ?_
    have omitted : s.throttle.omitted = s'.throttle.omitted :=
      states.eq (·.throttle.omitted) fun _ => rfl
    have suppressed : s.context.suppressed = s'.context.suppressed :=
      states.eq (·.context.suppressed) fun _ => rfl
    simp only [omitted, suppressed]
    have last : Steps.Match Alike Eq
        (emit (.complete ⟨job.request.entryLabel, job.mode⟩ result.loadedUrls.length
          s'.context.suppressed) >>= fun _ => pure result : CompileSteps K Result)
        (emit (.complete ⟨job.request.entryLabel, job'.mode⟩ result.loadedUrls.length
          s'.context.suppressed) >>= fun _ => pure result) :=
      .bind (match_emit rfl) fun _ => .pure rfl
    split
    · exact .bind (match_emit rfl) fun _ => last
    · exact last

theorem settled_agree (twin : Twin job job') (twins : Importers.Twin importers importers')
    (goesOn : ∀ t, job.toolchain.1 = .ok t → t.WithoutStops importers) :
    Run.HostsAgree Alike (settled job importers) (settled job' importers') := by
  have found := twin.toolchains
  simp only [settled, twin.direct, twin.awaiting, hostFor, refusal]
  generalize job.toolchain.1 = r, job'.toolchain.1 = r' at found goesOn ⊢
  cases found with
  | ok toolchains => exact hosts_agree toolchains twins (goesOn _ rfl)
  | error f => exact fun _ _ _ states => ⟨rfl, states⟩

theorem calls_agree (twin : Twin job job') (twins : Importers.Twin importers importers')
    (goesOn : ∀ t, job.toolchain.1 = .ok t → t.WithoutStops importers) (s : Session K) :
    calls job importers s = calls job' importers' s := by
  have hosts := settled_agree twin twins goesOn
  have matched := match_steps twin s s rfl
  have found := twin.toolchains
  unfold calls
  rw [twin.direct, twin.awaiting]
  generalize job.toolchain.1 = r, job'.toolchain.1 = r' at found ⊢
  cases found with
  | ok toolchains => exact matched.trace hosts (inner_agrees toolchains twins)
  | error f => rfl

end Compile

/-! ## Twins among the collaborators of lines -/

namespace Lines

/-- An action that leaves the telemetry alone and ends in no stopped iteration has a twin. -/
theorem answerAs_twin {ρ : Type} (later : Bool) {act : World kit → Except Fault ρ × World kit}
    (blind : ∀ w w', w.unmoded = w'.unmoded →
      (act w).1 = (act w').1 ∧ (act w).2.unmoded = (act w').2.unmoded)
    (stays : ∀ w, (act w).1.mapError (Fault.leaving "coroutine") = (act w).1)
    {w w' : World kit} (worlds : w.unmoded = w'.unmoded) :
    Answer.Twin (answerAs false act w) (answerAs later act w') := by
  obtain ⟨outcome, after⟩ := blind w w' worlds
  refine ⟨(act w).1, (act w).2, (act w').2, rfl, ?_, after⟩
  cases later with
  | false => rw [outcome]; exact Answer.awaited_ofExcept _ _
  | true => rw [outcome, ← stays w']; rfl

theorem noted {w w' : World kit} (worlds : w.unmoded = w'.unmoded) (note : Notes → Notes) :
    ({ w with own := note w.own } : World kit).unmoded =
      ({ w' with own := note w'.own } : World kit).unmoded :=
  congrArg (fun u : World kit => ({ u with own := note u.own } : World kit)) worlds

theorem memory_stays (files : List (String × String)) (scheme reference : String)
    (base : Option String) :
    ((Canned.memory files scheme).answer reference base).mapError (Fault.leaving "coroutine") =
      (Canned.memory files scheme).answer reference base := by
  simp only [Canned.answer]
  split
  · cases Dialect.forLocation _ <;> rfl
  · rfl

theorem memory_twin (files : List (String × String)) (later : Bool) :
    Importers.Twin (Lines.importers [("m", .memory files "memory", false)])
      (Lines.importers [("m", .memory files "memory", later)]) := by
  intro handle reference base w w' worlds
  simp only [Lines.importers, List.lookup_cons, List.lookup_nil]
  cases handle.id == "m" with
  | false => exact ⟨.ok .declined, w, w', rfl, rfl, worlds⟩
  | true =>
    refine answerAs_twin later (fun _ _ same => ⟨rfl, ?_⟩) (fun _ => ?_) worlds
    · exact noted same fun notes =>
        { notes with calls := notes.calls ++ [(handle.id, reference, base)] }
    · exact memory_stays files "memory" reference base

/-- The toolchain of lines has a twin with an awaited evaluator and a serializer that answers later. -/
theorem toolchain_twin (later : Bool) :
    (toolchain {}).Twin (toolchain { evaluation := .awaitable, awaitRender := later }) where
  name := rfl
  plain := rfl
  awaitable := rfl
  evaluate := rfl
  parse contents dialect url w w' worlds := by
    refine ⟨_, _, _, rfl, Answer.awaited_ofExcept _ _, ?_⟩
    exact noted worlds fun notes => { notes with parsed := notes.parsed ++ [(url, dialect)] }
  render tree style w w' worlds := by
    show Answer.Twin (answerAs false (fun w => (render {} tree style, w)) w)
      (answerAs later (fun w => (render {} tree style, w)) w')
    exact answerAs_twin later (fun _ _ same => ⟨rfl, same⟩) (fun _ => rfl) worlds

/-- The evaluator is a coroutine in either way of running it, so what it raises is changed already. -/
theorem toolchain_withoutStops (c : Settings) (importers : Importers kit) :
    (toolchain c).WithoutStops importers := by
  intro sheet s f raised
  have ran : ((evaluate sheet s.context.functions).run _ .direct s).1 = .error f := raised
  unfold evaluate at ran
  rw [Script.run_mapFault] at ran
  generalize (Script.run _ _ _ s).1 = outcome at ran
  cases outcome with
  | error g => rw [← Except.error.inj ran, Fault.leaving_leaving]
  | ok tree => cases ran

end Lines

/-! ## Two ways to the same -/

namespace Compile

variable {job job' : Job K} {importers importers' : Importers K}

/-- A run whose calls are answered directly and the run of its twin, in which any of the importers, the
parser and the serializer answer later and the evaluator is awaited, come to the same: the same result or
the same fault, the same calls of importers and of the parser in the same order, the same diagnostics,
and the same events but for the mode in their labels. The end of an iteration is the one fault that the
evaluator may not raise: its coroutine would turn it into another. -/
theorem run_awaiting_agrees (twin : Twin job job') (twins : Importers.Twin importers importers')
    (goesOn : ∀ t, job.toolchain.1 = .ok t → t.WithoutStops importers) (s : Session K) :
    (run job importers s).1 = (run job' importers' s).1 ∧
      calls job importers s = calls job' importers' s ∧
      (run job importers s).2.world.log = (run job' importers' s).2.world.log ∧
      (run job importers s).2.world.events.map Event.unmoded =
        (run job' importers' s).2.world.events.map Event.unmoded := by
  rw [run_eq_exec, run_eq_exec]
  obtain ⟨outcomes, states⟩ := (match_steps twin).exec (settled_agree twin twins goesOn) (Eq.refl s.unmoded)
  refine ⟨outcomes.eq, calls_agree twin twins goesOn s, ?_, ?_⟩
  · exact states.eq (·.world.log) fun _ => rfl
  · exact states.eq (fun t => t.world.events.map Event.unmoded) fun t => by
      simp [Session.unmoded, World.unmoded, Function.comp_def, Event.unmoded_unmoded]

end Compile

namespace Lines

/-- A sheet in memory that uses another one there. -/
def memoryJob (mode : Mode) (c : Settings) : Job kit where
  request :=
    { source := some "@use \"colors\";\na { }", url := some "memory:main"
      importer := some (.custom ⟨"m", "Imp(m)"⟩) }
  mode := mode
  toolchain := (.ok (toolchain c), [])

def emptySession : Session kit := .blank ({} : Notes)

/-- The importer of the sheet that is used, which warns. -/
def memoryImporters (later : Bool) : Importers kit :=
  Lines.importers [("m", .memory [("colors", "@warn \"old\";")] "memory", later)]

theorem memory_run_agrees :
    let job := memoryJob .direct {}
    let job' := memoryJob .awaiting { evaluation := .awaitable, awaitRender := true }
    let now := memoryImporters false
    let later := memoryImporters true
    (Compile.run job now emptySession).1 = (Compile.run job' later emptySession).1 ∧
      Compile.calls job now emptySession = Compile.calls job' later emptySession ∧
      (Compile.run job now emptySession).2.world.log =
        (Compile.run job' later emptySession).2.world.log ∧
      (Compile.run job now emptySession).2.world.events.map Event.unmoded =
        (Compile.run job' later emptySession).2.world.events.map Event.unmoded := by
  have twin : Compile.Twin (memoryJob .direct {})
      (memoryJob .awaiting { evaluation := .awaitable, awaitRender := true }) :=
    ⟨rfl, rfl, rfl, rfl, rfl, rfl, .ok (toolchain_twin true), rfl⟩
  refine Compile.run_awaiting_agrees twin (memory_twin _ true) ?_ emptySession
  rintro _ ⟨⟩
  exact toolchain_withoutStops {} _

end Lines

end StyleBuild
