import StyleBuild.Proofs.Memoization

/-!
# Runs that share a cache

A cache that has served earlier runs knows more than a new one: stylesheets with their parsed forms,
verdicts, and who loaded each URL first. Where the collaborators go by their arguments alone, sheets and
verdicts are what a new cache would come to. The first loads need not be: the first to load a URL decides
on its importer and on whether it is a dependency, also for runs in which another one would have been
first.

`Consult` is what a run finds out about first loads. `Compile.served_run_agrees` says that a run on a
cache that has served others comes to the same as on a new one, and delivers the same diagnostics, if the
earlier first loads stand up to all that it finds out on the new one.
-/

set_option autoImplicit false

namespace StyleBuild

variable {K : Kit}

/-! ## What a run finds out about first loads -/

inductive Consult where
  /-- Who loaded a stylesheet that makes an import. -/
  | requester (url : String) (first : Option Standing)
  /-- Whether a URL is a dependency. -/
  | question (url : String) (isDependency : Bool)

/-- An earlier first load of the URL, if there is one, would have said the same. -/
def Consult.Stands (c : Cache K) : Consult → Prop
  | requester url first => ∀ earlier, Table.get? url c.firsts = some earlier →
      ∃ now, first = some now ∧ now.resolver.importer = earlier.resolver.importer ∧
        now.isDependency = earlier.isDependency
  | question url isDependency => ∀ earlier, Table.get? url c.firsts = some earlier →
      earlier.isDependency = isDependency

/-- The question whether a URL is a dependency, if there is a URL. -/
def Cache.question (c : Cache K) (url : Option String) : List Consult :=
  (url.map fun u => Consult.question u (c.isDependency (some u))).toList

/-- What an evaluator finds out. A warning asks for its origin only where dependencies are quiet. -/
def Script.consults (c : Collaborators K) : Script K → Session K → List Consult
  | finish _, _ => []
  | fail _, _ => []
  | load reference base next, s =>
    (base.map fun u => Consult.requester u (Table.get? u s.cache.firsts)).toList
      ++ consults c (next (c.drive .direct (Import.load reference base) s).1)
        (c.drive .direct (Import.load reference base) s).2
  | warn message deprecation span origin next, s =>
    (if s.context.quietDeps then s.cache.question (origin.or (span.bind Span.url)) else [])
      ++ consults c next (s.warn message deprecation span origin)
  | debug message span next, s => consults c next (s.debug message span)
  | isDependency url next, s =>
    s.cache.question url ++ consults c (next (s.cache.isDependency url)) s

/-! ## Rerunners side by side -/

/-- One of two rerunners knows earlier first loads besides those of the other. -/
structure Rerunner.Beside (earlier : List (String × Standing)) (m m' : Rerunner K) : Prop where
  answers : m.answers = m'.answers
  resolvers : m.resolvers = m'.resolvers
  entry : m.entry = m'.entry
  firsts : ∀ u, Table.get? u m.firsts = (Table.get? u earlier).or (Table.get? u m'.firsts)

namespace Rerunner.Beside

variable {c₀ : Cache K} {m m' : Rerunner K} {base : Option String}

theorem isDependency_eq (beside : Beside c₀.firsts m m') {u : String}
    (stands : (Consult.question u (m'.isDependency (some u))).Stands c₀) :
    m.isDependency (some u) = m'.isDependency (some u) := by
  cases known : Table.get? u c₀.firsts with
  | none => simp [isDependency, beside.firsts, known]
  | some earlier =>
    rw [← stands earlier known]
    simp [isDependency, beside.firsts, known]

theorem requester_eq (beside : Beside c₀.firsts m m')
    (stands : ∀ u, base = some u → (Consult.requester u (Table.get? u m'.firsts)).Stands c₀) :
    m.relative? base = m'.relative? base ∧ m.isDependency base = m'.isDependency base := by
  cases base with
  | none => exact ⟨by simp [relative?, beside.entry], rfl⟩
  | some u =>
    cases known : Table.get? u c₀.firsts with
    | none => simp [relative?, isDependency, beside.firsts, known]
    | some earlier =>
      obtain ⟨now, found, importer, flag⟩ := stands u rfl earlier known
      simp [relative?, isDependency, beside.firsts, known, found, importer, flag]

theorem fetch (beside : Beside c₀.firsts m m') (reference : String)
    (relative : m.relative? base = m'.relative? base)
    (flag : m.isDependency base = m'.isDependency base) :
    (m.fetch reference base).1 = (m'.fetch reference base).1 ∧
      Beside c₀.firsts (m.fetch reference base).2 (m'.fetch reference base).2 := by
  have cascades : m.cascade reference base = m'.cascade reference base := by
    unfold cascade
    rw [relative, beside.answers, beside.resolvers]
  unfold Rerunner.fetch resolve parse
  rw [cascades, flag, beside.answers]
  rcases m'.cascade reference base with f | _ | ⟨r, source⟩
  · exact ⟨rfl, beside⟩
  · exact ⟨rfl, beside⟩
  · refine ⟨rfl, rfl, beside.resolvers, beside.entry, fun u => ?_⟩
    rw [Table.get?_setNew, Table.get?_setNew, beside.firsts, Option.or_assoc]

end Rerunner.Beside

/-! ## Deterministic toolchains -/

/-- An evaluator that imports only on behalf of sheets it has been given, where a sheet is what its URL
stands for. -/
def Script.Grounded (o : Answers K) (meaning : String → String × Dialect) :
    Script K → List String → Prop
  | finish _, _ => True
  | fail _, _ => True
  | load _ base next, given =>
    (∀ u, base = some u → u ∈ given) ∧ (∀ f, (next (.error f)).Grounded o meaning given) ∧
      ∀ i : Imported K, o.Makes meaning i.url i.sheet →
        (next (.ok i)).Grounded o meaning (i.url :: given)
  | warn _ _ _ _ next, given => next.Grounded o meaning given
  | debug _ _ next, given => next.Grounded o meaning given
  | isDependency _ next, given => ∀ b, (next b).Grounded o meaning given

theorem Script.Grounded.mapFault {o : Answers K} {meaning : String → String × Dialect}
    {script : Script K} {given : List String} (grounded : script.Grounded o meaning given)
    (f : Fault → Fault) : (script.mapFault f).Grounded o meaning given := by
  induction script generalizing given with
  | finish tree => trivial
  | fail e => trivial
  | load reference base next ih =>
    obtain ⟨asked, failed, imported⟩ := grounded
    exact ⟨asked, fun e => ih _ (failed e), fun i made => ih _ (imported i made)⟩
  | warn message deprecation span origin next ih => exact ih grounded
  | debug message span next ih => exact ih grounded
  | isDependency url next ih => exact fun b => ih b (grounded b)

/-- Importers, parser and serializer go by their arguments and the files alone, change no file and
report nothing themselves, and the evaluator is grounded. -/
structure Toolchain.Steady (t : Toolchain K) (importers : Importers K) (files : FileTree)
    (o : Answers K) (meaning : String → String × Dialect)
    (rendered : K.Tree → Style → Except Fault (String × Builder)) : Prop where
  plays : (t.collaborators importers).Plays .direct files o
  quiet : ∀ call s, s.world.files = files →
    ((t.collaborators importers).settled .direct call s).2.world.log = s.world.log
  renders : ∀ tree style w, w.files = files →
    ∃ w', w'.files = files ∧ w'.log = w.log ∧
      Answer.refused (CompileCall.refuse t.methods (.render tree style : CompileCall K))
        (t.render tree style w) = (rendered tree style, w')
  grounded : ∀ url sheet functions, o.Makes meaning url sheet →
    (t.evaluate sheet functions).Grounded o meaning [url]

/-! ## Sessions side by side -/

/-- What runs have in common. -/
structure Scene (K : Kit) where
  files : FileTree
  answers : Answers K
  meaning : String → String × Dialect
  resolvers : List Resolver
  entry : Importer

def Scene.pool (sc : Scene K) : List Importer := sc.entry :: sc.resolvers.map Resolver.importer

/-- A session fit for a run of the scene. -/
structure Session.Ready (sc : Scene K) (s : Session K) : Prop where
  here : s.world.files = sc.files
  coherent : s.cache.Coherent sc.answers sc.pool sc.meaning
  direct : s.cache.awaits = false
  resolvers : s.cache.resolvers = sc.resolvers
  entry : s.cache.entry = sc.entry

/-- Where two sessions come from: the first started on the cache, and they had the two logs. -/
structure Past (K : Kit) where
  cache : Cache K
  log : List Diagnostic
  log' : List Diagnostic

variable {sc : Scene K} {past : Past K}

/-- Sessions of a scene, the first of which knows the first loads of a past cache besides. The same has
been delivered in both. -/
structure Session.Beside (sc : Scene K) (past : Past K) (s s' : Session K) : Prop where
  ready : s.Ready sc
  ready' : s'.Ready sc
  firsts : ∀ u, Table.get? u s.cache.firsts =
    (Table.get? u past.cache.firsts).or (Table.get? u s'.cache.firsts)
  log : ∃ delivered, s.world.log = past.log ++ delivered ∧ s'.world.log = past.log' ++ delivered

/-- Sessions in the same run. -/
structure Session.Abreast (sc : Scene K) (past : Past K) (s s' : Session K) : Prop
    extends Session.Beside sc past s s' where
  throttle : s.throttle = s'.throttle
  context : s.context = s'.context

theorem Session.Beside.rerunners {s s' : Session K} (beside : s.Beside sc past s') :
    (s.cache.rerunner sc.answers).Beside past.cache.firsts (s'.cache.rerunner sc.answers) where
  answers := rfl
  resolvers := beside.ready.resolvers.trans beside.ready'.resolvers.symm
  entry := beside.ready.entry.trans beside.ready'.entry.symm
  firsts := beside.firsts

/-- Only telemetry has been added, or the collaborators' own state has changed. -/
structure Session.Told (s t : Session K) : Prop where
  files : t.world.files = s.world.files
  log : t.world.log = s.world.log
  rest : t = { s with world := t.world }

theorem Session.told_emit (s : Session K) (e : Event) : s.Told (s.emit e) := ⟨rfl, rfl, rfl⟩

/-- A relation between sessions that telemetry does not matter to. -/
def Session.Deaf (R : Session K → Session K → Prop) : Prop :=
  ∀ {s s' t t'}, R s s' → Told s t → Told s' t' → R t t'

open Session (Beside Abreast Told Deaf)

theorem Session.Ready.keep {s t : Session K} (ready : s.Ready sc)
    (here : t.world.files = s.world.files) (cache : t.cache = s.cache) : t.Ready sc where
  here := here.trans ready.here
  coherent := cache ▸ ready.coherent
  direct := cache ▸ ready.direct
  resolvers := cache ▸ ready.resolvers
  entry := cache ▸ ready.entry

/-- Nothing is looked at but the files, the caches and the logs. -/
theorem Session.Beside.keep {s s' t t' : Session K} (beside : Beside sc past s s')
    (here : t.world.files = s.world.files) (here' : t'.world.files = s'.world.files)
    (cache : t.cache = s.cache) (cache' : t'.cache = s'.cache)
    (log : ∃ delivered, t.world.log = past.log ++ delivered ∧
      t'.world.log = past.log' ++ delivered) :
    Beside sc past t t' where
  ready := beside.ready.keep here cache
  ready' := beside.ready'.keep here' cache'
  firsts := by
    rw [cache, cache']
    exact beside.firsts
  log := log

theorem Session.Beside.deaf : Deaf (Beside sc past) := by
  intro s s' t t' beside told told'
  have log : ∃ delivered, t.world.log = past.log ++ delivered ∧
      t'.world.log = past.log' ++ delivered := by
    rw [told.log, told'.log]
    exact beside.log
  exact beside.keep told.files told'.files (by rw [told.rest]) (by rw [told'.rest]) log

theorem Session.Abreast.deaf : Deaf (Abreast sc past) := by
  intro s s' t t' abreast told told'
  refine ⟨abreast.toBeside.deaf told told', ?_, ?_⟩
  · rw [told.rest, told'.rest]
    exact abreast.throttle
  · rw [told.rest, told'.rest]
    exact abreast.context

namespace Session.Abreast

variable {s s' : Session K}

theorem isDependency_eq (abreast : Abreast sc past s s') {url : Option String}
    (stands : ∀ x ∈ s'.cache.question url, x.Stands past.cache) :
    s.cache.isDependency url = s'.cache.isDependency url := by
  cases url with
  | none => rfl
  | some u =>
    rw [← Cache.isDependency_rerunner sc.answers s.cache,
      ← Cache.isDependency_rerunner sc.answers s'.cache]
    apply abreast.rerunners.isDependency_eq
    apply stands
    simp [Cache.question]

theorem report (abreast : Abreast sc past s s') (d : Diagnostic) :
    Abreast sc past { s with world := s.world.report d }
      { s' with world := s'.world.report d } := by
  obtain ⟨delivered, log, log'⟩ := abreast.log
  have more : ∃ delivered, s.world.log ++ [d] = past.log ++ delivered ∧
      s'.world.log ++ [d] = past.log' ++ delivered := by
    refine ⟨delivered ++ [d], ?_, ?_⟩
    · rw [log, List.append_assoc]
    · rw [log', List.append_assoc]
  exact ⟨abreast.toBeside.keep rfl rfl rfl rfl more, abreast.throttle, abreast.context⟩

theorem recordLoaded (abreast : Abreast sc past s s') (url : String) :
    Abreast sc past (s.recordLoaded url) (s'.recordLoaded url) := by
  unfold Session.recordLoaded
  rw [abreast.context]
  split
  · exact abreast
  · exact ⟨abreast.toBeside.keep rfl rfl rfl rfl abreast.log, abreast.throttle, rfl⟩

theorem notice (abreast : Abreast sc past s s') (kind message : String)
    (span : Option Span) :
    Abreast sc past (s.notice kind message span).2
      (s'.notice kind message span).2 := by
  have counted (t : Throttle) : Abreast sc past
      { s with throttle := t, world := s.world.emitAll (t.event? kind).toList }
      { s' with throttle := t, world := s'.world.emitAll (t.event? kind).toList } :=
    ⟨abreast.toBeside.keep rfl rfl rfl rfl abreast.log, rfl, abreast.context⟩
  unfold Session.notice
  rw [abreast.throttle]
  dsimp only
  split
  · exact (counted _).report _
  · exact counted _

theorem warn (abreast : Abreast sc past s s') (message : String)
    (deprecation : Option String) (span : Option Span) (origin : Option String)
    (stands : ∀ x ∈ (if s'.context.quietDeps then
        s'.cache.question (origin.or (span.bind Span.url)) else []), x.Stands past.cache) :
    Abreast sc past (s.warn message deprecation span origin)
      (s'.warn message deprecation span origin) := by
  have quiet : (s.context.quietDeps && s.cache.isDependency (origin.or (span.bind Span.url))) =
      (s'.context.quietDeps && s'.cache.isDependency (origin.or (span.bind Span.url))) := by
    rw [abreast.context]
    cases asked : s'.context.quietDeps with
    | false => rfl
    | true =>
      rw [asked] at stands
      rw [abreast.isDependency_eq stands]
  unfold Session.warn
  simp only [quiet]
  split
  · refine ⟨abreast.toBeside.keep rfl rfl rfl rfl abreast.log, abreast.throttle, ?_⟩
    simp only [abreast.context]
  · cases deprecation with
    | some kind => exact abreast.notice kind message span
    | none => exact abreast.report _

end Session.Abreast

/-! ## Imports and evaluators side by side -/

theorem Cache.knows_iff_firsts {c : Cache K} {u : String} :
    c.Knows (some u) ↔ (Table.get? u c.firsts).isSome := by
  rw [Cache.knows_some, ← Option.isSome_iff_exists, Cache.firsts, Table.get?_mapValues,
    Option.isSome_map]

theorem Rerunner.fetch_known {m : Rerunner K} {u : String} (known : (Table.get? u m.firsts).isSome)
    (reference : String) (base : Option String) :
    (Table.get? u (m.fetch reference base).2.firsts).isSome := by
  unfold Rerunner.fetch resolve
  rcases m.cascade reference base with f | _ | ⟨r, source⟩
  · exact known
  · exact known
  · simp [Table.get?_setNew, known]

theorem Rerunner.fetch_config (m : Rerunner K) (reference : String) (base : Option String) :
    (m.fetch reference base).2.resolvers = m.resolvers ∧ (m.fetch reference base).2.entry = m.entry := by
  unfold Rerunner.fetch resolve
  rcases m.cascade reference base with f | _ | ⟨r, source⟩ <;> exact ⟨rfl, rfl⟩

theorem Session.Reruns.ready {s t : Session K} {reference : String} {base : Option String}
    (after : s.Reruns sc.answers sc.pool sc.meaning sc.files
      ((s.cache.rerunner sc.answers).fetch reference base).2 t) (ready : s.Ready sc) : t.Ready sc := by
  obtain ⟨resolvers, entry⟩ := (s.cache.rerunner sc.answers).fetch_config reference base
  rw [← after.rerunner] at resolvers entry
  exact ⟨after.files, after.coherent, after.awaits.trans ready.direct,
    resolvers.trans ready.resolvers, entry.trans ready.entry⟩

section

variable {t : Toolchain K} {importers : Importers K}
variable {rendered : K.Tree → Style → Except Fault (String × Builder)}

theorem Toolchain.Steady.importFrame
    (steady : t.Steady importers sc.files sc.answers sc.meaning rendered) :
    ImportFrame ((t.collaborators importers).settled .direct) fun s s' : Session K =>
      s.world.files = sc.files → s'.world.files = sc.files ∧ s'.world.log = s.world.log where
  refl s here := ⟨here, rfl⟩
  trans first second here := by
    obtain ⟨there, log⟩ := first here
    obtain ⟨last, log'⟩ := second there
    exact ⟨last, log'.trans log⟩
  call call s here := ⟨steady.plays.files call s here, steady.quiet call s here⟩
  cache s cache here := ⟨here, rfl⟩
  loaded s url here := by
    unfold Session.recordLoaded
    split
    · exact ⟨here, rfl⟩
    · exact ⟨here, rfl⟩
  declined s label reference here := ⟨here, rfl⟩
  missing s reference base here := ⟨here, rfl⟩
  resolved s reference base url kind label here := ⟨here, rfl⟩

theorem exec_load {h : Settled (Session K) Fault ImportCall (ImportCall.Reply K)} (reference : String)
    (base : Option String) (s : Session K) :
    (Import.load reference base).exec h s =
      match (Import.fetch reference base).exec h s with
      | (.ok i, t) => (.ok i, t.recordLoaded i.url)
      | (.error f, t) => (.error f, t) := by
  rw [Import.load, Steps.exec_bind]
  rcases (Import.fetch reference base).exec h s with ⟨_ | _, _⟩ <;> rfl

/-- What is known of an import that a session has come through. -/
structure Arrived (sc : Scene K) (s t : Session K) (r : Except Fault (Imported K)) : Prop where
  known : ∀ u, s.cache.Knows (some u) → t.cache.Knows (some u)
  imported : ∀ i, r = .ok i →
    t.cache.Knows (some i.url) ∧ sc.answers.Makes sc.meaning i.url i.sheet

theorem load_abreast (steady : t.Steady importers sc.files sc.answers sc.meaning rendered)
    (canonical : sc.answers.Canonical sc.pool sc.meaning) {s s' : Session K}
    (abreast : Abreast sc past s s') {base : Option String}
    (known : s'.cache.Knows base)
    (stands : ∀ u, base = some u →
      (Consult.requester u (Table.get? u s'.cache.firsts)).Stands past.cache) (reference : String) :
    ∃ r u u', (Import.load reference base).exec ((t.collaborators importers).settled .direct) s =
        (r, u) ∧
      (Import.load reference base).exec ((t.collaborators importers).settled .direct) s' = (r, u') ∧
      Abreast sc past u u' ∧ Arrived sc s' u' r := by
  have known₁ : s.cache.Knows base := by
    cases base with
    | none => trivial
    | some u =>
      have first := abreast.rerunners.firsts u
      rw [Cache.knows_iff_firsts] at known ⊢
      show (Table.get? u (s.cache.rerunner sc.answers).firsts).isSome
      rw [first, Option.isSome_or]
      exact Bool.or_eq_true_iff.2 (.inr known)
  obtain ⟨relative, flag⟩ := abreast.rerunners.requester_eq stands
  obtain ⟨same, rerunners⟩ := abreast.rerunners.fetch reference relative flag
  obtain ⟨u, ran, after⟩ :=
    Import.exec_fetch steady.plays canonical abreast.ready.here abreast.ready.coherent reference known₁
  obtain ⟨u', ran', after'⟩ :=
    Import.exec_fetch steady.plays canonical abreast.ready'.here abreast.ready'.coherent reference known
  rw [same] at ran
  have log : u.world.log = s.world.log := by
    have moved := steady.importFrame.closed.fetch reference base s abreast.ready.here
    rw [ran] at moved
    exact moved.2
  have log' : u'.world.log = s'.world.log := by
    have moved := steady.importFrame.closed.fetch reference base s' abreast.ready'.here
    rw [ran'] at moved
    exact moved.2
  have next : Abreast sc past u u' := by
    refine ⟨⟨after.ready abreast.ready, after'.ready abreast.ready', ?_, ?_⟩, ?_, ?_⟩
    · show ∀ v, Table.get? v (u.cache.rerunner sc.answers).firsts =
        (Table.get? v past.cache.firsts).or (Table.get? v (u'.cache.rerunner sc.answers).firsts)
      rw [after.rerunner, after'.rerunner]
      exact rerunners.firsts
    · rw [log, log']
      exact abreast.log
    · rw [after.throttle, after'.throttle, abreast.throttle]
    · rw [after.context, after'.context, abreast.context]
  have arrived : Arrived sc s' u' ((s'.cache.rerunner sc.answers).fetch reference base).1 := by
    refine ⟨fun v there => ?_, fun i fetched => ?_⟩
    · rw [Cache.knows_iff_firsts] at there ⊢
      show (Table.get? v (u'.cache.rerunner sc.answers).firsts).isSome
      rw [after'.rerunner]
      exact Rerunner.fetch_known there reference base
    · obtain ⟨loaded, made⟩ := abreast.ready'.coherent.fetch_ok canonical fetched
      rw [← after'.rerunner] at loaded
      exact ⟨Cache.knows_iff_firsts.2 loaded, made⟩
  rw [exec_load, exec_load, ran, ran']
  generalize ((s'.cache.rerunner sc.answers).fetch reference base).1 = r at arrived ⊢
  cases r with
  | error f => exact ⟨_, _, _, rfl, rfl, next, arrived⟩
  | ok i =>
    refine ⟨_, _, _, rfl, rfl, next.recordLoaded i.url, ?_, ?_⟩
    · simpa using arrived.known
    · simpa using arrived.imported

/-- An evaluator comes to the same in both sessions. The induction is on what it does next; the sheets it
has been given stay known. -/
theorem script_abreast (steady : t.Steady importers sc.files sc.answers sc.meaning rendered)
    (canonical : sc.answers.Canonical sc.pool sc.meaning) {script : Script K} {given : List String}
    {s s' : Session K} (grounded : script.Grounded sc.answers sc.meaning given)
    (known : ∀ u ∈ given, s'.cache.Knows (some u))
    (abreast : Abreast sc past s s')
    (stands : ∀ x ∈ script.consults (t.collaborators importers) s', x.Stands past.cache) :
    ∃ r u u', script.run (t.collaborators importers) .direct s = (r, u) ∧
      script.run (t.collaborators importers) .direct s' = (r, u') ∧
      Abreast sc past u u' := by
  induction script generalizing given s s' with
  | finish tree => exact ⟨_, _, _, rfl, rfl, abreast⟩
  | fail f => exact ⟨_, _, _, rfl, rfl, abreast⟩
  | load reference base next ih =>
    obtain ⟨ground, onError, onSheet⟩ := grounded
    simp only [Script.consults, List.mem_append] at stands
    have known' : s'.cache.Knows base := by
      cases base with
      | none => trivial
      | some u => exact known u (ground u rfl)
    have stands' : ∀ u, base = some u →
        (Consult.requester u (Table.get? u s'.cache.firsts)).Stands past.cache := by
      rintro u rfl
      exact stands _ (.inl (by simp))
    obtain ⟨r, u, u', ran, ran', next_abreast, arrived⟩ :=
      load_abreast steady canonical abreast known' stands' reference
    have rest : ∀ x ∈ (next r).consults (t.collaborators importers) u', x.Stands past.cache := by
      intro x there
      refine stands x (.inr ?_)
      rw [Collaborators.drive_eq_exec, ran']
      exact there
    simp only [Script.run, Collaborators.drive_eq_exec, ran, ran']
    cases r with
    | error f =>
      exact ih (.error f) (onError f) (fun v there => arrived.known v (known v there)) next_abreast rest
    | ok i =>
      obtain ⟨loaded, made⟩ := arrived.imported i rfl
      refine ih (.ok i) (onSheet i made) (fun v there => ?_) next_abreast rest
      rcases List.mem_cons.1 there with rfl | earlier
      · exact loaded
      · exact arrived.known v (known v earlier)
  | warn message deprecation span origin next ih =>
    simp only [Script.consults, List.mem_append] at stands
    have warned := abreast.warn message deprecation span origin fun x there => stands x (.inl there)
    refine ih grounded (fun v there => ?_) warned fun x there => stands x (.inr there)
    rw [Session.cache_warn]
    exact known v there
  | debug message span next ih =>
    exact ih grounded known (abreast.report _) stands
  | isDependency url next ih =>
    simp only [Script.consults, List.mem_append] at stands
    have same := abreast.isDependency_eq fun x there => stands x (.inl there)
    simp only [Script.run, same]
    exact ih _ (grounded _) known abreast fun x there => stands x (.inr there)

end

/-! ## Runs side by side -/

namespace Compile

/-- A run that takes only direct answers, on a cache that is supplied. -/
def reusing (t : Toolchain K) (r : Request) (c : Cache K) : Job K where
  request := r
  mode := .direct
  toolchain := (.ok t, [])
  cache := some c

def directly (t : Toolchain K) (importers : Importers K) :
    Settled (Session K) Fault (CompileCall K) CompileCall.Reply :=
  (host t importers).refusing (CompileCall.refuse t.methods)

theorem run_reusing (t : Toolchain K) (importers : Importers K) (r : Request) (c : Cache K)
    (s : Session K) :
    run (reusing t r c) importers s = (steps (reusing t r c)).exec (directly t importers) s :=
  run_eq_exec (reusing t r c) importers s

/-- What one call of a run finds out about first loads. -/
def consulted (t : Toolchain K) (importers : Importers K) :
    CompileCall K → Session K → List Consult
  | .evaluate sheet, s =>
    match t.evaluation with
    | .plain => (t.evaluate sheet s.context.functions).consults (t.collaborators importers) s
    | _ => []
  | _, _ => []

/-- What a run finds out about first loads, on the cache of the session it starts in. -/
def consults (t : Toolchain K) (importers : Importers K) (r : Request) (s : Session K) :
    List Consult :=
  (steps (reusing t r s.cache) s).trace (directly t importers) (consulted t importers)

section

variable {t : Toolchain K} {importers : Importers K}
variable {rendered : K.Tree → Style → Except Fault (String × Builder)}
variable {P : CompileCall K → Session K → Prop} {R : Session K → Session K → Prop}
variable {h : Settled (Session K) Fault (CompileCall K) CompileCall.Reply}

theorem told_failSpan (s : Session K) (f : Fault) :
    s.Told { s with world := s.world.failSpan f } := by
  unfold World.failSpan
  cases s.world.spans.getLast? with
  | none => exact ⟨rfl, rfl, rfl⟩
  | some r => exact ⟨rfl, rfl, rfl⟩

theorem agree_inStage {α : Type} {S : Except Fault α → Session K → Session K → Prop}
    (deaf : Deaf R) (deafAfter : ∀ r, Deaf (S r)) {m m' : CompileSteps K α} (run : RunLabel)
    (stage : Stage) (attributes : List (String × String)) (body : Steps.Agree h P R S m m') :
    Steps.Agree h P R S (inStage run stage attributes m) (inStage run stage attributes m') := by
  refine .modifyThen (fun s s' states => deaf states (s.told_emit _) (s'.told_emit _)) ?_
  refine .modifyThen (fun s s' states => deaf states ⟨rfl, rfl, rfl⟩ ⟨rfl, rfl, rfl⟩) ?_
  refine .attemptThen body fun r => ?_
  cases r with
  | ok a =>
    refine .modifyThen (fun s s' states => deafAfter _ states (s.told_emit _) (s'.told_emit _)) ?_
    exact .pure fun _ _ states => states
  | error f =>
    refine .modifyThen (fun s s' states =>
      deafAfter _ states (told_failSpan s f) (told_failSpan s' f)) ?_
    exact .fail fun _ _ states => states

theorem cacheFor_reusing (r : Request) {c : Cache K} (direct : c.awaits = false)
    (environ : List (String × String)) : cacheFor (reusing t r c) environ = .ok c := by
  simp [cacheFor, reusing, direct]

/-- Settling what a run needs makes sessions with the caches supplied those of the same run. -/
theorem agree_start (r : Request) {c c' : Cache K} (direct : c.awaits = false)
    (direct' : c'.awaits = false) :
    Steps.Agree h P
      (fun s s' => Beside sc past s s' ∧ s.cache = c ∧ s'.cache = c')
      (fun r s s' => Beside sc past s s' ∧
        ∀ u, r = .ok u → Abreast sc past s s')
      (start (reusing t r c)) (start (reusing t r c')) := by
  refine .modifyThen (Q := fun s s' => Beside sc past s s' ∧ s.cache = c ∧
    s'.cache = c') ?_ (.okThen ?_)
  · rintro s s' ⟨beside, cache, cache'⟩
    exact ⟨beside.deaf ⟨rfl, rfl, rfl⟩ ⟨rfl, rfl, rfl⟩, cache, cache'⟩
  · refine .ite ?_ ?_
    · exact .fail fun s s' ⟨beside, _, _⟩ => ⟨beside, fun _ failed => nomatch failed⟩
    · refine .get fun s s' ⟨beside, cache, cache'⟩ => ?_
      rw [cacheFor_reusing r direct, cacheFor_reusing r direct']
      refine .okThen (.modifyThen (Q := Abreast sc past) ?_ ?_)
      · rintro _ _ ⟨rfl, rfl⟩
        exact ⟨beside.keep rfl rfl cache.symm cache'.symm beside.log, rfl, rfl⟩
      · exact .pure fun s s' abreast => ⟨abreast.toBeside, fun _ _ => abreast⟩

theorem agree_entry (steady : t.Steady importers sc.files sc.answers sc.meaning rendered)
    (canonical : sc.answers.Canonical sc.pool sc.meaning) {r : Request} (path : r.path.isSome) :
    Steps.Agree (directly t importers) P (Abreast sc past)
      (fun e s s' => Abreast sc past s s' ∧
        ∀ i, e = .ok i → s'.cache.Knows (some i.url) ∧
          sc.answers.Makes sc.meaning i.url i.sheet)
      ((entry r).mapFault retag) ((entry r).mapFault retag) := by
  obtain ⟨p, given⟩ := Option.isSome_iff_exists.1 path
  intro s s' abreast _
  have known : s'.cache.Knows none := trivial
  obtain ⟨e, u, u', ran, ran', after, arrived⟩ := load_abreast steady canonical abreast known
    (fun _ absent => nomatch absent) p.toText
  have entered (s : Session K) : (entry r).exec (directly t importers) s =
      (Import.load p.toText none).exec ((t.collaborators importers).settled .direct) s := by
    rw [entry, given]
    exact exec_lift t importers .direct _ s
  rw [Steps.exec_mapFault, Steps.exec_mapFault, entered, entered, ran, ran']
  refine ⟨_, u, u', rfl, rfl, after, fun i passed => arrived.imported i ?_⟩
  cases e with
  | ok j => exact passed
  | error f => cases passed

/-- The evaluator comes to the same, if the earlier first loads stand up to what it finds out. -/
theorem agree_evaluate (steady : t.Steady importers sc.files sc.answers sc.meaning rendered)
    (canonical : sc.answers.Canonical sc.pool sc.meaning) {e : Imported K} (toolchain : String) :
    Steps.Agree (directly t importers)
      (fun call s => ∀ x ∈ consulted t importers call s, x.Stands past.cache)
      (fun s s' => Abreast sc past s s' ∧ s'.cache.Knows (some e.url) ∧
        sc.answers.Makes sc.meaning e.url e.sheet)
      (fun _ => Abreast sc past)
      ((Steps.perform (CompileCall.evaluate e.sheet)).mapFault (evaluatorFault toolchain) :
        CompileSteps K K.Tree)
      ((Steps.perform (CompileCall.evaluate e.sheet)).mapFault (evaluatorFault toolchain)) := by
  refine .mapFault _ (.perform ?_)
  rintro s s' ⟨abreast, known, made⟩ stands
  simp only [directly, Host.refusing, host]
  cases plain : t.evaluation with
  | plain =>
    simp only [consulted, plain] at stands
    obtain ⟨r, u, u', ran, ran', after⟩ := script_abreast steady canonical
      (steady.grounded e.url e.sheet s'.context.functions made)
      (by simpa using known) abreast stands
    simp only [abreast.context, ran, ran', Answer.refused_ofExcept]
    exact ⟨_, _, _, rfl, rfl, after⟩
  | awaitable => exact ⟨_, s, s', rfl, rfl, abreast⟩
  | disguised => exact ⟨_, s, s', rfl, rfl, abreast⟩

theorem agree_assemble (steady : t.Steady importers sc.files sc.answers sc.meaning rendered)
    (r : Request) (tree : K.Tree) :
    Steps.Agree (directly t importers) P (Abreast sc past)
      (fun _ => Abreast sc past)
      (assemble r tree : CompileSteps K Result) (assemble r tree) := by
  refine .bind (S := fun _ => Abreast sc past) (.mapFault _ (.perform ?_))
    (fun _ => ?_) (fun _ _ _ abreast => abreast)
  · intro s s' abreast _
    obtain ⟨w, here, log, ran⟩ := steady.renders tree r.style s.world abreast.ready.here
    obtain ⟨w', here', log', ran'⟩ := steady.renders tree r.style s'.world abreast.ready'.here
    have settled (u : Session K) (v : World K)
        (ran : Answer.refused (CompileCall.refuse t.methods (.render tree r.style : CompileCall K))
          (t.render tree r.style u.world) = (rendered tree r.style, v)) :
        directly t importers (.render tree r.style) u =
          (rendered tree r.style, { u with world := v }) :=
      (Answer.refused_onSession _ _ _).trans (by rw [ran])
    refine ⟨_, _, _, settled s w ran, settled s' w' ran', ?_⟩
    exact abreast.deaf ⟨here.trans abreast.ready.here.symm, log, rfl⟩
      ⟨here'.trans abreast.ready'.here.symm, log', rfl⟩
  · refine .get fun s s' abreast => ?_
    rw [abreast.context]
    refine .modifyThen (Q := Abreast sc past) ?_ ?_
    · rintro _ _ ⟨rfl, rfl⟩
      exact abreast.deaf ⟨rfl, rfl, rfl⟩ ⟨rfl, rfl, rfl⟩
    · exact .ofExcept fun _ _ after => after

theorem agree_stages (steady : t.Steady importers sc.files sc.answers sc.meaning rendered)
    (canonical : sc.answers.Canonical sc.pool sc.meaning) {r : Request} (path : r.path.isSome)
    {c c' : Cache K}
    (direct : c.awaits = false) (direct' : c'.awaits = false) (run : RunLabel) :
    Steps.Agree (directly t importers)
      (fun call s => ∀ x ∈ consulted t importers call s, x.Stands past.cache)
      (fun s s' => Beside sc past s s' ∧ s.cache = c ∧ s'.cache = c')
      (fun _ => Beside sc past)
      (stages (reusing t r c) run) (stages (reusing t r c') run) := by
  refine .bind (agree_inStage ?_ ?_ run .start _ (agree_start r direct direct')) (fun u => ?_)
    fun _ _ _ ⟨beside, _⟩ => beside
  · rintro s s' v v' ⟨beside, rfl, rfl⟩ told told'
    exact ⟨beside.deaf told told', by rw [told.rest], by rw [told'.rest]⟩
  · rintro e s s' v v' ⟨beside, abreast⟩ told told'
    exact ⟨beside.deaf told told', fun u passed => (abreast u passed).deaf told told'⟩
  refine .narrow (fun _ _ ⟨_, abreast⟩ => abreast u rfl) ?_
  refine .bind (agree_inStage Abreast.deaf ?_ run .resolveEntry [] (agree_entry steady canonical path))
    (fun e => ?_) fun _ _ _ ⟨abreast, _⟩ => abreast.toBeside
  · rintro e s s' v v' ⟨abreast, arrived⟩ told told'
    refine ⟨abreast.deaf told told', fun i passed => ?_⟩
    rw [told'.rest]
    exact arrived i passed
  refine .narrow (fun _ _ ⟨abreast, arrived⟩ => And.intro abreast (arrived e rfl)) ?_
  refine .bind (agree_inStage ?_ (fun _ => Abreast.deaf) run .evaluate _
    (agree_evaluate steady canonical u.name)) (fun tree => ?_) fun _ _ _ abreast => abreast.toBeside
  · rintro s s' v v' ⟨abreast, known, made⟩ told told'
    refine ⟨abreast.deaf told told', ?_, made⟩
    rw [told'.rest]
    exact known
  · intro s s' abreast always
    obtain ⟨result, v, v', ran, ran', after⟩ := agree_inStage Abreast.deaf (fun _ => Abreast.deaf) run
      .assemble _ (agree_assemble steady r tree) s s' abreast always
    exact ⟨result, v, v', ran, ran', after.toBeside⟩

theorem agree_announce (run : RunLabel) (f : Fault) (deaf : Deaf R) :
    Steps.Agree h P R (fun _ => R) (announce run f : CompileSteps K Result) (announce run f) := by
  cases f with
  | failure g =>
    refine .modifyThen (fun s s' states => deaf states (s.told_emit _) (s'.told_emit _)) ?_
    exact .fail fun _ _ states => states
  | _ => exact .fail fun _ _ states => states

theorem agree_steps (steady : t.Steady importers sc.files sc.answers sc.meaning rendered)
    (canonical : sc.answers.Canonical sc.pool sc.meaning) {r : Request} (path : r.path.isSome)
    {c c' : Cache K}
    (direct : c.awaits = false) (direct' : c'.awaits = false) :
    Steps.Agree (directly t importers)
      (fun call s => ∀ x ∈ consulted t importers call s, x.Stands past.cache)
      (fun s s' => Beside sc past s s' ∧ s.cache = c ∧ s'.cache = c')
      (fun _ => Beside sc past)
      (steps (reusing t r c)) (steps (reusing t r c')) := by
  refine .bind (.orElse (agree_stages steady canonical path direct direct' _)
    (fun f => agree_announce _ f Beside.deaf) fun _ _ _ beside => beside) (fun result => ?_)
    fun _ _ _ beside => beside
  -- What is left only tells of the end, and may tell more on one side than on the other.
  refine .get fun s s' beside => ?_
  rintro _ _ ⟨rfl, rfl⟩ -
  dsimp only
  split <;> split <;>
    exact ⟨.ok result, _, _, rfl, rfl, beside.deaf ⟨rfl, rfl, rfl⟩ ⟨rfl, rfl, rfl⟩⟩

/-- A run on each of two caches side by side comes to the same, and leaves them side by side. -/
theorem run_beside (steady : t.Steady importers sc.files sc.answers sc.meaning rendered)
    (canonical : sc.answers.Canonical sc.pool sc.meaning) {r : Request} (path : r.path.isSome)
    {s s' : Session K}
    (beside : Beside sc past s s')
    (stands : ∀ x ∈ consults t importers r s', x.Stands past.cache) :
    (run (reusing t r s.cache) importers s).1 = (run (reusing t r s'.cache) importers s').1 ∧
      Beside sc past (run (reusing t r s.cache) importers s).2
        (run (reusing t r s'.cache) importers s').2 := by
  obtain ⟨outcome, u, u', ran, ran', after⟩ := agree_steps steady canonical path beside.ready.direct
    beside.ready'.direct s s' ⟨beside, rfl, rfl⟩ (Run.always_of_trace stands)
  rw [run_reusing, run_reusing, ran, ran']
  exact ⟨rfl, after⟩

/-- Requests served one after another on the cache of the session. -/
def serve (t : Toolchain K) (importers : Importers K) : List Request → Session K → Session K
  | [], s => s
  | r :: rest, s => serve t importers rest (run (reusing t r s.cache) importers s).2

theorem beside_self {s : Session K} (ready : s.Ready sc) :
    Beside sc ⟨{ resolvers := [] }, s.world.log, s.world.log⟩ s s where
  ready := ready
  ready' := ready
  firsts := fun _ => rfl
  log := ⟨[], by simp, by simp⟩

theorem serve_ready (steady : t.Steady importers sc.files sc.answers sc.meaning rendered)
    (canonical : sc.answers.Canonical sc.pool sc.meaning) {requests : List Request}
    (paths : ∀ r ∈ requests, r.path.isSome) {s : Session K} (ready : s.Ready sc) :
    (serve t importers requests s).Ready sc := by
  induction requests generalizing s with
  | nil => exact ready
  | cons r rest ih =>
    have stands : ∀ x ∈ consults t importers r s, x.Stands ({ resolvers := [] } : Cache K) := by
      intro x _
      cases x with
      | requester url first => exact fun _ known => nomatch known
      | question url isDependency => exact fun _ known => nomatch known
    obtain ⟨-, after⟩ := run_beside steady canonical (paths r List.mem_cons_self)
      (beside_self ready) stands
    exact ih (fun r' there => paths r' (List.mem_cons_of_mem r there)) after.ready

end

end Compile

/-! ## The toolchain of lines is deterministic -/

namespace Lines

/-- A statement that is not spelled out as a record. -/
def Statement.isPlain : Statement → Bool
  | .extended _ _ => false
  | _ => true

/-- A text all of whose statements are plain. -/
def isPlainText (contents : String) : Bool :=
  match statements 0 (Text.splitAtChar '\n' contents.toList) with
  | .ok ss => ss.all Statement.isPlain
  | .error _ => true

theorem parse_plain {contents url : String} {sheet : Sheet} (parsed : parse contents url = .ok sheet)
    (plain : isPlainText contents) : sheet.url = url ∧ ∀ st ∈ sheet.statements, st.isPlain := by
  unfold isPlainText at plain
  unfold parse at parsed
  cases found : statements 0 (Text.splitAtChar '\n' contents.toList) with
  | error f =>
    rw [found] at parsed
    cases parsed
  | ok ss =>
    rw [found] at parsed plain
    obtain rfl := Except.ok.inj parsed
    exact ⟨rfl, List.all_eq_true.1 plain⟩

section

variable {o : Answers kit} {meaning : String → String × Dialect} {given : List String}

theorem wordStep_grounded (functions : List (String × Function)) (word : Word)
    (operand url : String) (line : Nat) (w : Walk) {k : Next}
    (next : ∀ w, (k w).Grounded o meaning given) :
    (wordStep functions word operand url line w k).Grounded o meaning given := by
  cases word with
  | warn => exact next w
  | debug => exact next w
  | deprecated => exact next w
  | error => trivial
  | call =>
    unfold wordStep
    dsimp only
    cases functions.lookup operand with
    | none => trivial
    | some f =>
      dsimp only
      cases f.call with
      | ok text => exact next _
      | error e => trivial

/-- Sheets that are entered on the way are grounded if they come with their URLs. -/
def Enters (o : Answers kit) (meaning : String → String × Dialect)
    (enter : Sheet → Walk → Next → Script kit) : Prop :=
  ∀ url (sheet : Sheet), o.Makes meaning url sheet → ∀ w k given, url ∈ given →
    (∀ w more, given ⊆ more → (k w).Grounded o meaning more) →
    (enter sheet w k).Grounded o meaning given

/-- A walk through plain statements asks only on behalf of the sheets it is in. -/
theorem walkThrough_grounded (functions : List (String × Function))
    {enter : Sheet → Walk → Next → Script kit} (enters : Enters o meaning enter)
    {ss : List Statement} (plain : ∀ st ∈ ss, st.isPlain) {url : String} (w : Walk) {k : Next}
    (there : url ∈ given) (next : ∀ w more, given ⊆ more → (k w).Grounded o meaning more) :
    (walkThrough functions enter ss url w k).Grounded o meaning given := by
  induction ss generalizing w given with
  | nil => exact next w given (List.Subset.refl given)
  | cons st rest ih =>
    have plainRest : ∀ st ∈ rest, st.isPlain :=
      fun st later => plain st (List.mem_cons_of_mem _ later)
    cases st with
    | css text line => exact ih plainRest _ there next
    | word word operand line =>
      exact wordStep_grounded functions word operand url line w fun w => ih plainRest w there next
    | extended v line => exact nomatch plain _ List.mem_cons_self
    | use reference line =>
      refine ⟨fun u same => Option.some.inj same ▸ there, fun f => trivial, fun i made => ?_⟩
      have wider {more : List String} (larger : i.url :: given ⊆ more) : given ⊆ more :=
        fun u known => larger (List.mem_cons_of_mem _ known)
      have onward (w : Walk) {more : List String} (larger : i.url :: given ⊆ more) :
          (walkThrough functions enter rest url w k).Grounded o meaning more :=
        ih plainRest w (wider larger there) fun w further further_larger =>
          next w further fun u known => further_larger (wider larger known)
      dsimp only
      split
      · exact onward w (List.Subset.refl _)
      · exact enters i.url i.sheet made w _ _ List.mem_cons_self fun w more larger => onward w larger

/-- The induction is on how deeply sheets may still be nested. -/
theorem walk_enters (functions : List (String × Function))
    (plain : ∀ url (sheet : Sheet), o.Makes meaning url sheet →
      sheet.url = url ∧ ∀ st ∈ sheet.statements, st.isPlain) (fuel : Nat) :
    Enters o meaning (walk functions fuel) := by
  induction fuel with
  | zero =>
    intro url sheet made w k given there next
    obtain ⟨same, plainHere⟩ := plain url sheet made
    have refused : Enters o meaning fun _ _ _ => .fail tooDeep := fun _ _ _ _ _ _ _ _ => trivial
    exact walkThrough_grounded functions refused plainHere _ (same ▸ there) next
  | succ fuel ih =>
    intro url sheet made w k given there next
    obtain ⟨same, plainHere⟩ := plain url sheet made
    exact walkThrough_grounded functions ih plainHere _ (same ▸ there) next

end

theorem memoryMeaning_plain {texts : List (String × String)}
    (plain : ∀ e ∈ texts, isPlainText e.2) (scheme url : String) :
    isPlainText (memoryMeaning texts scheme url).1 := by
  unfold memoryMeaning
  dsimp only
  cases found : texts.lookup (String.ofList (url.toList.drop (scheme ++ ":").length)) with
  | none => decide
  | some contents =>
    obtain ⟨before, after, rfl, -⟩ := List.lookup_eq_some_iff.1 found
    exact plain _ (List.mem_append_right _ List.mem_cons_self)

/-- The toolchain of lines with texts in memory is deterministic. -/
theorem memory_steady (files : FileTree) {texts : List (String × String)}
    (plain : ∀ e ∈ texts, isPlainText e.2) (id scheme : String) :
    (toolchain {}).Steady (importers [(id, .memory texts scheme, false)]) files
      (answers files [(id, .memory texts scheme)]) (memoryMeaning texts scheme) (render {}) where
  plays := directly_plays files [(id, .memory texts scheme)]
  quiet := by
    rintro call s rfl
    obtain ⟨w, -, log, settled⟩ := directly_settled [(id, .memory texts scheme)] call s
    exact (congrArg (fun r => r.2.world.log) settled).trans log
  renders := fun tree style w here => ⟨w, here, rfl, Answer.refused_ofExcept _ _ w⟩
  grounded := by
    intro url sheet functions made
    have plainSheets (url : String) (sheet : Sheet)
        (made : (answers files [(id, .memory texts scheme)]).Makes (memoryMeaning texts scheme) url
          sheet) : sheet.url = url ∧ ∀ st ∈ sheet.statements, st.isPlain :=
      parse_plain made (memoryMeaning_plain plain scheme url)
    show (evaluate sheet functions).Grounded _ _ [url]
    unfold evaluate
    refine Script.Grounded.mapFault ?_ _
    exact walk_enters functions plainSheets maxDepth url sheet made {} _ [url] List.mem_cons_self
      fun _ _ _ => trivial

end Lines

/-! ## A request on a cache that has served others -/

namespace Compile

/-- A session whose cache is new. -/
def renewed (s : Session K) (resolvers : List Resolver) (entry : Importer) : Session K :=
  { s with cache := { resolvers, entry } }

/-- On a cache that has served other requests, a request comes to the same result or fault as on a new
cache with the same resolvers, and the same diagnostics are delivered, if the first loads of the others
stand up to all that the request finds out on the new cache: a stylesheet that makes an import was loaded
through the same importer and is a dependency in both or in neither, and so is the origin of a warning
where dependencies are quiet. -/
theorem served_run_agrees {t : Toolchain K} {importers : Importers K} {s : Session K}
    {o : Answers K} {rendered : K.Tree → Style → Except Fault (String × Builder)}
    {meaning : String → String × Dialect} {resolvers : List Resolver} {entry : Importer}
    {requests : List Request} {r : Request} (steady : t.Steady importers s.world.files o meaning rendered)
    (canonical : o.Canonical (entry :: resolvers.map Resolver.importer) meaning)
    (paths : ∀ r ∈ requests, r.path.isSome) (path : r.path.isSome)
    (stands : ∀ x ∈ consults t importers r (renewed s resolvers entry),
      x.Stands (serve t importers requests (renewed s resolvers entry)).cache) :
    let fresh := renewed s resolvers entry
    let served := serve t importers requests fresh
    (run (reusing t r served.cache) importers served).1 =
        (run (reusing t r fresh.cache) importers fresh).1 ∧
      ∃ delivered,
        (run (reusing t r served.cache) importers served).2.world.log =
            served.world.log ++ delivered ∧
          (run (reusing t r fresh.cache) importers fresh).2.world.log =
            fresh.world.log ++ delivered := by
  intro fresh served
  let sc : Scene K := ⟨s.world.files, o, meaning, resolvers, entry⟩
  have new : fresh.Ready sc := by
    refine ⟨rfl, .new List.mem_cons_self fun r listed => ?_, rfl, rfl, rfl⟩
    exact List.mem_cons_of_mem _ (List.mem_map_of_mem (f := Resolver.importer) listed)
  have beside : Beside sc ⟨served.cache, served.world.log, fresh.world.log⟩ served fresh := by
    refine ⟨serve_ready steady canonical paths new, new, fun u => ?_, [], by simp, by simp⟩
    exact Option.or_none.symm
  obtain ⟨outcome, after⟩ := run_beside steady canonical path beside stands
  exact ⟨outcome, after.log⟩

end Compile

namespace Lines

open Compile

/-- A consultation that plainly stands: the requester was not loaded, or the answer is the same. -/
def plainlyStands (c : Cache kit) : Consult → Bool
  | .requester url _ => (Table.get? url c.firsts).isNone
  | .question url isDependency =>
    (Table.get? url c.firsts).all fun earlier => earlier.isDependency == isDependency

theorem stands_of_plainly {c : Cache kit} {x : Consult} (plainly : plainlyStands c x) :
    x.Stands c := by
  cases x with
  | requester url first =>
    intro earlier known
    simp [plainlyStands, known] at plainly
  | question url isDependency =>
    intro earlier known
    simpa [plainlyStands, known] using plainly

/-- Two sheets that use a third one, which warns. -/
def sharedTexts : List (String × String) :=
  [("one", "@use \"colors\";"), ("two", "@use \"colors\";\n@warn \"two\";"),
    ("colors", "@warn \"old\";")]

def sharedImporters : Importers kit := importers [("m", .memory sharedTexts "memory", false)]

/-- A request that silences dependencies. -/
def quietly (name : String) : Request := { path := some ⟨0, [name]⟩, quietDeps := true }

def sharedStart : Session kit := .blank ({} : Notes)

theorem shared_plainly :
    (consults (toolchain {}) sharedImporters (quietly "two")
      (renewed sharedStart [] memoryImporter)).all
        (plainlyStands (serve (toolchain {}) sharedImporters [quietly "one"]
          (renewed sharedStart [] memoryImporter)).cache) := by
  decide +kernel

theorem shared_steady : (toolchain {}).Steady sharedImporters sharedStart.world.files
    (answers sharedStart.world.files [("m", .memory sharedTexts "memory")])
    (memoryMeaning sharedTexts "memory") (render {}) :=
  memory_steady _ (by decide +kernel) "m" "memory"

theorem shared_canonical :
    (answers sharedStart.world.files [("m", .memory sharedTexts "memory")]).Canonical
      (memoryImporter :: ([] : List Resolver).map Resolver.importer)
      (memoryMeaning sharedTexts "memory") :=
  memory_canonical _ sharedTexts "m" "Imp(m)" "memory" (by simp [memoryImporter])

theorem shared_run_agrees :
    let fresh := renewed sharedStart [] memoryImporter
    let served := serve (toolchain {}) sharedImporters [quietly "one"] fresh
    (∀ x ∈ consults (toolchain {}) sharedImporters (quietly "two") fresh, x.Stands served.cache) ∧
      (run (reusing (toolchain {}) (quietly "two") served.cache) sharedImporters served).1 =
        (run (reusing (toolchain {}) (quietly "two") fresh.cache) sharedImporters fresh).1 ∧
      ∃ delivered,
        (run (reusing (toolchain {}) (quietly "two") served.cache) sharedImporters
            served).2.world.log = served.world.log ++ delivered ∧
          (run (reusing (toolchain {}) (quietly "two") fresh.cache) sharedImporters
            fresh).2.world.log = fresh.world.log ++ delivered := by
  have stands : ∀ x ∈ consults (toolchain {}) sharedImporters (quietly "two")
      (renewed sharedStart [] memoryImporter), x.Stands (serve (toolchain {}) sharedImporters
        [quietly "one"] (renewed sharedStart [] memoryImporter)).cache :=
    fun x there => stands_of_plainly (List.all_eq_true.1 shared_plainly x there)
  exact ⟨stands, served_run_agrees shared_steady shared_canonical (by decide) rfl stands⟩

/-- The importer of the entry has a sheet that warns, a listed one has it too, and one that uses it. -/
def vendoredImporters : Importers kit :=
  importers [("e", .memory [("dep", "@warn \"w\";")] "x", false),
    ("x", .memory [("main", "@use \"dep\";"), ("dep", "@warn \"w\";")] "x", false)]

def vendoredStart : Session kit :=
  renewed (.blank ({} : Notes)) [⟨.explicit, .custom ⟨"x", "Imp(x)"⟩, "importer:Imp(x)"⟩]
    (.custom ⟨"e", "Imp(e)"⟩)

/-- First loads outlive the run that made them: a sheet that an earlier request has loaded as a
dependency is silent when a later request compiles it by itself, though on a new cache it is not. -/
theorem served_dependency_is_silent :
    let served := serve (toolchain {}) vendoredImporters [quietly "main"] vendoredStart
    (run (reusing (toolchain {}) (quietly "dep") served.cache) vendoredImporters
        served).2.world.log = served.world.log ∧
      (run (reusing (toolchain {}) (quietly "dep") vendoredStart.cache) vendoredImporters
        vendoredStart).2.world.log =
          vendoredStart.world.log ++ [.warn "w" (some { url := some "x:dep", line := 0 }) false] := by
  decide +kernel

end Lines

end StyleBuild
