import StyleBuild.Lines.Toolchain
import StyleBuild.Proofs.Histories
import StyleBuild.Proofs.ImportFailures

/-!
# The URLs that a run has loaded

A run keeps its own record of URLs, apart from that of the cache: it is empty when the run starts, its entry
is put there if it has a path or a URL, and an import of the evaluator is added if it succeeds.
`Compile.loads` is what the imports of a run came to, and `Compile.loaded_urls_exact` reads the record of a
finished run off it.
-/

set_option autoImplicit false

namespace StyleBuild

variable {K : Kit} {α β : Type}

/-! ## One import -/

/-- A record of URLs after an import. -/
def noteLoad (urls : List String) : Except Fault (Imported K) → List String
  | .ok imported => joinUrl urls imported.url
  | .error _ => urls

theorem mem_noteLoads {urls : List String} {xs : List (Except Fault (Imported K))} {url : String} :
    url ∈ xs.foldl noteLoad urls ↔
      url ∈ urls ∨ ∃ imported, .ok imported ∈ xs ∧ imported.url = url := by
  induction xs generalizing urls with
  | nil => simp
  | cons x rest ih =>
    rw [List.foldl_cons, ih]
    cases x with
    | error f => simp [noteLoad]
    | ok imported =>
      rw [noteLoad, mem_joinUrl, or_assoc]
      refine or_congr_right ?_
      constructor
      · rintro (rfl | ⟨later, there, rfl⟩)
        · exact ⟨imported, List.mem_cons_self, rfl⟩
        · exact ⟨later, List.mem_cons_of_mem _ there, rfl⟩
      · rintro ⟨found, there, rfl⟩
        rcases List.mem_cons.mp there with same | later
        · exact .inl (congrArg Imported.url (Except.ok.inj same))
        · exact .inr ⟨found, later, rfl⟩

theorem nodup_noteLoads {urls : List String} (nodup : urls.Nodup)
    (xs : List (Except Fault (Imported K))) : (xs.foldl noteLoad urls).Nodup := by
  induction xs generalizing urls with
  | nil => exact nodup
  | cons x rest ih =>
    refine ih ?_
    cases x with
    | error f => exact nodup
    | ok imported => exact nodup_joinUrl nodup imported.url

theorem Session.loaded_recordLoaded (s : Session K) (url : String) :
    (s.recordLoaded url).context.loaded = joinUrl s.context.loaded url := by
  unfold recordLoaded joinUrl
  by_cases there : url ∈ s.context.loaded
  · simp [there]
  · simp [there]

theorem Session.loaded_warn (s : Session K) (message : String) (deprecation : Option String)
    (span : Option Span) (origin : Option String) :
    (s.warn message deprecation span origin).context.loaded = s.context.loaded := by
  unfold warn
  dsimp only
  split
  · rfl
  · cases deprecation with
    | none => rfl
    | some kind =>
      unfold notice
      dsimp only
      split <;> rfl

namespace Import

theorem context_resolve (c : Collaborators K) (mode : Mode) (reference : String)
    (base : Option String) (s : Session K) :
    ((resolve reference base).exec (c.settled mode) s).2.context = s.context := by
  cases stored : Table.get? (base, reference) s.cache.verdicts with
  | some v => rw [(exec_resolve_stored c mode stored).1]
  | none =>
    obtain ⟨w, executed⟩ := (exec_resolve_new c mode stored).1
    rw [executed]

theorem context_parse (c : Collaborators K) (mode : Mode) (l : Loaded) (s : Session K) :
    ((parse l).exec (c.settled mode) s).2.context = s.context := by
  have read := read_parse c mode l s
  generalize (parse l).exec (c.settled mode) s = ran, c.exchanges mode (parse l) s = xs at read ⊢
  cases read with
  | kept sheet stored => rfl
  | made sheet w new => rfl
  | failed f w new => rfl

theorem context_fetch (c : Collaborators K) (mode : Mode) (reference : String)
    (base : Option String) (s : Session K) :
    ((fetch reference base).exec (c.settled mode) s).2.context = s.context := by
  have resolved := context_resolve c mode reference base s
  rcases ran : (resolve reference base).exec (c.settled mode) s with ⟨f | l, t⟩
  · rw [ran] at resolved
    rw [(fetch_of_fault ran).1, resolved]
  · rw [ran] at resolved
    rw [(fetch_of_found ran).1, context_parse c mode l t, resolved]

theorem loaded_load (c : Collaborators K) (mode : Mode) (reference : String) (base : Option String)
    (s : Session K) :
    ((load reference base).exec (c.settled mode) s).2.context.loaded
      = noteLoad s.context.loaded ((load reference base).exec (c.settled mode) s).1 := by
  have fetched := context_fetch c mode reference base s
  rw [load, Steps.exec_bind]
  rcases ran : (fetch reference base).exec (c.settled mode) s with ⟨f | imported, t⟩
  · rw [ran] at fetched
    exact congrArg Context.loaded fetched
  · rw [ran] at fetched
    have recorded := t.loaded_recordLoaded imported.url
    rw [fetched] at recorded
    exact recorded

end Import

/-! ## The imports of an evaluator -/

/-- What the imports of an evaluator come to, in order. -/
def Script.loads (c : Collaborators K) (mode : Mode) :
    Script K → Session K → List (Except Fault (Imported K))
  | finish _, _ => []
  | fail _, _ => []
  | load reference base next, s =>
    let (imported, t) := c.drive mode (Import.load reference base) s
    imported :: loads c mode (next imported) t
  | warn message deprecation span origin next, s =>
    loads c mode next (s.warn message deprecation span origin)
  | debug message span next, s => loads c mode next (s.debug message span)
  | isDependency url next, s => loads c mode (next (s.cache.isDependency url)) s

theorem Script.loaded_run (c : Collaborators K) (mode : Mode) (script : Script K) (s : Session K) :
    (script.run c mode s).2.context.loaded
      = (script.loads c mode s).foldl noteLoad s.context.loaded := by
  induction script generalizing s with
  | finish tree => rfl
  | fail f => rfl
  | load reference base next ih =>
    have recorded := Import.loaded_load c mode reference base s
    rw [run, loads, c.drive_eq_exec]
    generalize (Import.load reference base).exec (c.settled mode) s = ran at recorded ⊢
    rcases ran with ⟨imported, t⟩
    rw [List.foldl_cons, ← recorded]
    exact ih imported t
  | warn message deprecation span origin next ih =>
    rw [run, loads, ih, Session.loaded_warn]
  | debug message span next ih => exact ih _
  | isDependency url next ih => exact ih _ _

/-! ## The stages -/

namespace Steps

variable {σ ε κ : Type} {ρ : κ → Type} {h : Settled σ ε κ ρ}

theorem exec_bind_ok {m : Steps σ ε κ ρ α} {f : α → Steps σ ε κ ρ β} {s u : σ} {b : β}
    (ran : (m >>= f).exec h s = (.ok b, u)) :
    ∃ a t, m.exec h s = (.ok a, t) ∧ (f a).exec h t = (.ok b, u) ∧
      ∀ (τ : Type) (note : κ → σ → List τ),
        (m >>= f).notes h note s = m.notes h note s ++ (f a).notes h note t := by
  rw [exec_bind] at ran
  rcases first : m.exec h s with ⟨e | a, t⟩
  · rw [first] at ran
    cases ran
  · rw [first] at ran
    refine ⟨a, t, rfl, ran, ?_⟩
    intro τ note
    rw [notes_bind, first]

theorem exec_mapFault_ok {m : Steps σ ε κ ρ α} {f : ε → ε} {s t : σ} {a : α}
    (ran : (m.mapFault f).exec h s = (.ok a, t)) : m.exec h s = (.ok a, t) := by
  rw [exec_mapFault] at ran
  rcases first : m.exec h s with ⟨e | b, u⟩
  · rw [first] at ran
    cases ran
  · rw [first] at ran
    exact ran

end Steps

theorem Assemble.loadedUrls_result {css : String} {builder : Builder} {style : Style}
    {charset sourceMap : Bool} {loaded : List String} {made : Result}
    (assembled : (result css builder style charset sourceMap loaded).1 = .ok made) :
    made.loadedUrls = loaded := by
  simp only [result] at assembled
  generalize mapFor builder sourceMap (marker css style charset) = mapped at assembled
  rcases mapped with ⟨f | map, events⟩
  · cases assembled
  · cases assembled
    rfl

namespace Compile

variable {job : Job K} {importers : Importers K} {t : Toolchain K} {s : Session K} {τ : Type}
variable {h : Settled (Session K) Fault (CompileCall K) CompileCall.Reply}

/-- What the imports come to that an evaluator makes within one call of a run. -/
def loadsWithin (t : Toolchain K) (importers : Importers K) (mode : Mode) :
    CompileCall K → Session K → List (Except Fault (Imported K))
  | .evaluate sheet, s =>
    let script := t.evaluate sheet s.context.functions
    match t.evaluation, mode with
    | .plain, _ => script.loads (t.collaborators importers) .direct s
    | .awaitable, .awaiting => script.loads (t.collaborators importers) .awaiting s
    | .disguised, .awaiting => script.loads (t.collaborators importers) .direct s
    | _, .direct => []
  | _, _ => []

/-- What the imports of a run come to, in order. -/
def loads (job : Job K) (importers : Importers K) (s : Session K) :
    List (Except Fault (Imported K)) :=
  match job.toolchain.1 with
  | .ok t => (steps job).notes (settled job importers) (loadsWithin t importers job.mode) s
  | .error _ => []

/-- What the entry of a run comes to. -/
def entered (job : Job K) (importers : Importers K) (s : Session K) :
    Except Fault (Imported K) :=
  ((startStage job >>= fun _ => entryStage job).exec (settled job importers) s).1

theorem notes_lift {note : CompileCall K → Session K → List τ}
    (unseen : ∀ c s, note (.load c) s = []) (m : ImportSteps K α) (s : Session K) :
    (lift m).notes h note s = [] := by
  unfold Steps.notes lift
  rw [trace_liftRun]
  induction m s with
  | done outcome s => rfl
  | call c s resume ih =>
    rw [Run.trace, unseen]
    exact ih _ _

theorem notes_inStage (note : CompileCall K → Session K → List τ) (run : RunLabel) (stage : Stage)
    (attributes : List (String × String)) (body : CompileSteps K α) (s : Session K) :
    (inStage run stage attributes body).notes h note s
      = body.notes h note (within run stage attributes s) := by
  show Steps.notes h note (body.attempt >>= _) (within run stage attributes s) = _
  rw [Steps.notes_bind, Steps.notes_attempt, Steps.exec_attempt]
  rcases body.exec h (within run stage attributes s) with ⟨f | a, t⟩
  · exact List.append_nil _
  · exact List.append_nil _

theorem exec_inStage_ok {run : RunLabel} {stage : Stage} {attributes : List (String × String)}
    {body : CompileSteps K α} {a : α} {u : Session K}
    (ran : (inStage run stage attributes body).exec h s = (.ok a, u)) :
    ∃ v, body.exec h (within run stage attributes s) = (.ok a, v) ∧ u.context = v.context := by
  rw [exec_inStage] at ran
  generalize body.exec h (within run stage attributes s) = outcome at ran ⊢
  rcases outcome with ⟨f | b, v⟩
  · cases ran
  · cases ran
    exact ⟨v, rfl, rfl⟩

theorem context_within (run : RunLabel) (stage : Stage) (attributes : List (String × String))
    (s : Session K) : (within run stage attributes s).context = s.context := rfl

theorem notes_start (note : CompileCall K → Session K → List τ) (job : Job K) (s : Session K) :
    (start job).notes h note s = [] := by
  simp only [start, Steps.notes_bind, Steps.notes_modify, Steps.exec_modify, Steps.notes_ofExcept,
    Steps.exec_ofExcept, List.nil_append]
  cases job.toolchain.1 with
  | error f => rfl
  | ok t =>
    dsimp only
    split
    · rfl
    · simp only [Steps.notes_bind, Steps.notes_get, Steps.exec_get, Steps.notes_ofExcept,
        Steps.exec_ofExcept, List.nil_append]
      cases cacheFor job (s.world.emitAll job.toolchain.2).environ with
      | error f => rfl
      | ok cache => rfl

theorem loaded_start {u : Session K} (ran : (start job).exec h s = (.ok t, u)) :
    job.toolchain.1 = .ok t ∧ u.context.loaded = [] := by
  simp only [start, Steps.exec_bind, Steps.exec_modify, Steps.exec_ofExcept] at ran
  cases found : job.toolchain.1 with
  | error f =>
    rw [found] at ran
    cases ran
  | ok t' =>
    rw [found] at ran
    dsimp only at ran
    split at ran
    · cases ran
    · simp only [Steps.exec_bind, Steps.exec_get, Steps.exec_ofExcept] at ran
      cases supplied : cacheFor job (s.world.emitAll job.toolchain.2).environ with
      | error f =>
        rw [supplied] at ran
        cases ran
      | ok cache =>
        rw [supplied] at ran
        cases ran
        exact ⟨rfl, rfl⟩

theorem notes_entry {note : CompileCall K → Session K → List τ}
    (unseen : ∀ c s, note (.load c) s = []) (r : Request) (s : Session K) :
    (entry r).notes h note s = [] := by
  unfold entry
  cases r.path with
  | some p => exact notes_lift unseen _ s
  | none =>
    simp only [Steps.notes_bind, Steps.notes_ofExcept, Steps.exec_ofExcept, List.nil_append]
    cases r.entryDialect with
    | error f => rfl
    | ok dialect =>
      simp only [Steps.notes_get, Steps.exec_get, Steps.notes_modify, Steps.exec_modify,
        List.nil_append]
      split
      · simp only [Steps.notes_bind, Steps.notes_modify, Steps.exec_modify, List.nil_append,
          notes_lift unseen]
      · exact notes_lift unseen _ _

/-- The URLs in the record of a run once its entry is there. -/
def entryUrls (r : Request) (e : Imported K) : List String :=
  match r.path with
  | some _ => [e.url]
  | none => if r.url.isSome then [r.entryUrl] else []

theorem mem_entryUrls {r : Request} {e : Imported K} {url : String} :
    url ∈ entryUrls r e ↔ (r.path.isSome = true ∧ url = e.url) ∨
      (r.path = none ∧ r.url.isSome = true ∧ url = r.entryUrl) := by
  unfold entryUrls
  cases r.path with
  | some p => simp
  | none => by_cases given : r.url.isSome = true <;> simp [given]

theorem nodup_entryUrls (r : Request) (e : Imported K) : (entryUrls r e).Nodup := by
  unfold entryUrls
  split
  · simp
  · split <;> simp

theorem loaded_entry (found : job.toolchain.1 = .ok t) (fresh : s.context.loaded = [])
    {e : Imported K} {u : Session K}
    (ran : (entry job.request).exec (settled job importers) s = (.ok e, u)) :
    u.context.loaded = entryUrls job.request e := by
  unfold entry at ran
  unfold entryUrls
  cases path : job.request.path with
  | some p =>
    rw [path] at ran
    simp only [exec_lift_settled found] at ran
    have recorded := Import.loaded_load (t.collaborators importers) job.mode p.toText none s
    rw [ran, fresh] at recorded
    exact recorded
  | none =>
    rw [path] at ran
    simp only [Steps.exec_bind, Steps.exec_ofExcept] at ran
    cases dialect : job.request.entryDialect with
    | error f =>
      rw [dialect] at ran
      cases ran
    | ok d =>
      rw [dialect] at ran
      simp only [Steps.exec_get, Steps.exec_modify] at ran
      split at ran
      · next given =>
        simp only [Steps.exec_bind, Steps.exec_modify, exec_lift_settled found] at ran
        have kept := congrArg (fun ran => ran.2.context.loaded) ran
        simp only [Import.context_parse, Session.loaded_recordLoaded, fresh] at kept
        simp only [given, if_true, ← kept]
        rfl
      · next missing =>
        simp only [exec_lift_settled found] at ran
        have kept := congrArg (fun ran => ran.2.context.loaded) ran
        simp only [Import.context_parse, fresh] at kept
        simp only [missing, ← kept]
        rfl

theorem loaded_evaluate (importers : Importers K) (found : job.toolchain.1 = .ok t) (sheet : K.Sheet)
    (s : Session K) :
    (settled job importers (.evaluate sheet) s).2.context.loaded
      = (loadsWithin t importers job.mode (.evaluate sheet) s).foldl noteLoad s.context.loaded := by
  have walked (mode : Mode) := Script.loaded_run (t.collaborators importers) mode
    (t.evaluate sheet s.context.functions) s
  rw [settled_eq found]
  unfold loadsWithin
  cases job.mode with
  | direct =>
    cases answers : t.evaluation with
    | plain => simpa [Host.refusing, host, answers] using walked .direct
    | awaitable => simp [Host.refusing, host, answers, Answer.refused]
    | disguised => simp [Host.refusing, host, answers, Answer.refused]
  | awaiting =>
    cases answers : t.evaluation with
    | plain => simpa [Host.awaited, host, answers] using walked .direct
    | awaitable => simpa [Host.awaited, host, answers, Answer.awaited] using walked .awaiting
    | disguised => simpa [Host.awaited, host, answers, Answer.awaited] using walked .direct

theorem context_render (importers : Importers K) (found : job.toolchain.1 = .ok t) (tree : K.Tree)
    (style : Style) (s : Session K) :
    (settled job importers (.render tree style) s).2.context = s.context := by
  rw [settled_eq found]
  cases job.mode with
  | direct => simp only [Host.refusing, host, Answer.refused_onSession]
  | awaiting => simp only [Host.awaited, host, Answer.awaited_onSession]

theorem loadedUrls_assemble (found : job.toolchain.1 = .ok t) {tree : K.Tree} {result : Result}
    {u : Session K} (ran : (assemble job.request tree).exec (settled job importers) s = (.ok result, u)) :
    result.loadedUrls = s.context.loaded := by
  have kept := context_render importers found tree job.request.style s
  simp only [assemble, Steps.exec_bind, Steps.exec_mapFault, Steps.exec_perform] at ran
  generalize settled job importers (.render tree job.request.style) s = answer at ran kept
  rcases answer with ⟨f | ⟨css, builder⟩, v⟩
  · cases ran
  · have assembled := Assemble.loadedUrls_result (congrArg Prod.fst ran)
    rw [assembled]
    exact congrArg Context.loaded kept

/-- What a run does once its stages have ended asks for nothing. -/
theorem notes_steps (note : CompileCall K → Session K → List τ) (job : Job K) (s : Session K) :
    (steps job).notes h note s = (stages job (label job)).notes h note s := by
  have announced (f : Fault) (u : Session K) :
      (announce (label job) f : CompileSteps K Result).notes h note u = [] := by
    cases f with
    | failure g => rfl
    | _ => rfl
  have handled : ((stages job (label job)).orElse (announce (label job))).notes h note s
      = (stages job (label job)).notes h note s := by
    refine (Run.trace_handle h note _ _).trans ?_
    rcases (stages job (label job) s).follow h with ⟨f | result, u⟩
    · exact (congrArg _ (announced f u)).trans (List.append_nil _)
    · exact List.append_nil _
  have closed (result : Result) (u : Session K) : (closing job result).notes h note u = [] := by
    simp only [closing, Steps.notes_bind, Steps.notes_get, Steps.exec_get, List.nil_append]
    split
    · rfl
    · rfl
  rw [steps_eq, Steps.notes_bind, handled]
  rcases ((stages job (label job)).orElse (announce (label job))).exec h s with ⟨f | result, u⟩
  · exact List.append_nil _
  · exact (congrArg _ (closed result u)).trans (List.append_nil _)

theorem stages_of_run {result : Result} (done : (run job importers s).1 = .ok result) :
    ∃ u, (stages job (label job)).exec (settled job importers) s = (.ok result, u) := by
  rw [run_eq_exec] at done
  rcases ran : (stages job (label job)).exec (settled job importers) s with ⟨f | made, u⟩
  · rw [exec_steps_error ran] at done
    cases done
  · obtain ⟨v, closed, -⟩ := exec_steps_ok ran
    rw [closed] at done
    cases done
    exact ⟨u, rfl⟩

theorem notes_assemble {note : CompileCall K → Session K → List τ}
    (unseen : ∀ tree style s, note (.render tree style) s = []) (r : Request) (tree : K.Tree)
    (s : Session K) : (assemble r tree).notes h note s = [] := by
  simp only [assemble, Steps.notes_bind, Steps.notes_mapFault, Steps.notes_perform, unseen,
    Steps.exec_mapFault, Steps.exec_perform, List.nil_append]
  rcases h (.render tree r.style) s with ⟨f | made, t⟩
  · rfl
  · rfl

theorem stages_ok {result : Result} {x : Session K}
    (ran : (stages job (label job)).exec h s = (.ok result, x)) :
    ∃ t u e v tree w, (startStage job).exec h s = (.ok t, u) ∧
      (entryStage job).exec h u = (.ok e, v) ∧
      (evaluateStage job t e).exec h v = (.ok tree, w) ∧
      (assembleStage job tree).exec h w = (.ok result, x) ∧
      ∀ (τ : Type) (note : CompileCall K → Session K → List τ), (∀ c s, note (.load c) s = []) →
        (∀ tree style s, note (.render tree style) s = []) →
        (steps job).notes h note s = (evaluateStage job t e).notes h note v := by
  have noted (τ : Type) (note : CompileCall K → Session K → List τ) := notes_steps (h := h) note job s
  rw [stages_eq] at ran noted
  obtain ⟨t, u, started, ran, notes₁⟩ := Steps.exec_bind_ok ran
  obtain ⟨e, v, entered, ran, notes₂⟩ := Steps.exec_bind_ok ran
  obtain ⟨tree, w, evaluated, assembled, notes₃⟩ := Steps.exec_bind_ok ran
  refine ⟨t, u, e, v, tree, w, started, entered, evaluated, assembled, ?_⟩
  intro τ note loads renders
  have starting : (startStage job).notes h note s = [] :=
    (notes_inStage note _ _ _ _ s).trans (notes_start note job _)
  have entering : (entryStage job).notes h note u = [] := by
    rw [entryStage, notes_inStage, Steps.notes_mapFault, notes_entry loads]
  have assembling : (assembleStage job tree).notes h note w = [] :=
    (notes_inStage note _ _ _ _ w).trans (notes_assemble renders job.request tree _)
  rw [noted, notes₁, notes₂, notes₃, starting, entering, assembling, List.append_nil]
  rfl

theorem loadedUrls_stages {result : Result} {x : Session K}
    (ran : (stages job (label job)).exec (settled job importers) s = (.ok result, x)) :
    ∃ e, entered job importers s = .ok e ∧
      result.loadedUrls = (loads job importers s).foldl noteLoad (entryUrls job.request e) := by
  obtain ⟨t, u, e, v, tree, w, started, entering, evaluated, assembled, noted⟩ := stages_ok ran
  have entered_ok : entered job importers s = .ok e := by
    have both : (startStage job >>= fun _ => entryStage job).exec (settled job importers) s
        = (.ok e, v) := by
      rw [Steps.exec_bind, started]
      exact entering
    exact congrArg Prod.fst both
  refine ⟨e, entered_ok, ?_⟩
  obtain ⟨u', start_ran, same_u⟩ := exec_inStage_ok started
  obtain ⟨v', entry_ran, same_v⟩ := exec_inStage_ok entering
  obtain ⟨w', evaluate_ran, same_w⟩ := exec_inStage_ok evaluated
  obtain ⟨x', assemble_ran, -⟩ := exec_inStage_ok assembled
  -- the record after each stage: nothing, the entry, the imports, the result
  obtain ⟨found, fresh⟩ := loaded_start start_ran
  have empty : (within (label job) .resolveEntry [] u).context.loaded = [] := by
    rw [context_within, same_u, fresh]
  have entry_record : v.context.loaded = entryUrls job.request e := by
    rw [same_v]
    exact loaded_entry found empty (Steps.exec_mapFault_ok entry_ran)
  have imported := loaded_evaluate importers found e.sheet
    (within (label job) .evaluate [("url", e.url)] v)
  have settled_ok := Steps.exec_mapFault_ok evaluate_ran
  rw [Steps.exec_perform] at settled_ok
  rw [settled_ok, context_within, entry_record] at imported
  have listed : loads job importers s = loadsWithin t importers job.mode (.evaluate e.sheet)
      (within (label job) .evaluate [("url", e.url)] v) := by
    simp only [loads, found]
    rw [noted _ _ (fun _ _ => rfl) (fun _ _ _ => rfl), evaluateStage, notes_inStage,
      Steps.notes_mapFault, Steps.notes_perform]
  rw [loadedUrls_assemble found assemble_ran, context_within, same_w, imported, listed]

theorem loaded_urls_exact (job : Job K) (importers : Importers K) (s : Session K) {result : Result}
    (done : (run job importers s).1 = .ok result) :
    ∃ e, entered job importers s = .ok e ∧ result.loadedUrls.Nodup ∧
      ∀ url, url ∈ result.loadedUrls ↔
        (job.request.path.isSome = true ∧ url = e.url) ∨
        (job.request.path = none ∧ job.request.url.isSome = true ∧ url = job.request.entryUrl) ∨
        ∃ imported, .ok imported ∈ loads job importers s ∧ imported.url = url := by
  obtain ⟨x, ran⟩ := stages_of_run done
  obtain ⟨e, entered_ok, recorded⟩ := loadedUrls_stages ran
  refine ⟨e, entered_ok, ?_, ?_⟩
  · rw [recorded]
    exact nodup_noteLoads (nodup_entryUrls job.request e) _
  · intro url
    rw [recorded, mem_noteLoads, mem_entryUrls, or_assoc]

end Compile

namespace Lines

open Compile

def fourSheets : Importers kit :=
  importers [("m", .memory [("a", "@use \"b\";"), ("b", "x"), ("c", "y"), ("bad", "!!!")] "m", false)]

def sheetJob (text : String) (cache : Cache kit) : Job kit where
  request := { source := some text, url := some "s:main", importer := some (.custom ⟨"m", "Imp(m)"⟩) }
  mode := .direct
  toolchain := (.ok (toolchain {}), [])
  cache := some cache

def usedBefore : Session kit :=
  (run (sheetJob "@use \"b\";\n@use \"c\";" { resolvers := [] }) fourSheets (.blank ({} : Notes))).2

/-- A sheet that tries `bad`, which cannot be parsed, and uses `a`, which uses `b`. -/
def tryingJob : Job kit :=
  sheetJob "@@\x7b\"do\":\"try\",\"ref\":\"bad\"\x7d\n@use \"a\";" usedBefore.cache

theorem trying_run_loaded :
    usedBefore.cache.loadedUrls = ["s:main", "m:b", "m:c"] ∧
      (loads tryingJob fourSheets usedBefore).map (·.toOption.map Imported.url)
        = [none, some "m:a", some "m:b"] ∧
      ∃ result, (run tryingJob fourSheets usedBefore).1 = .ok result ∧
        ∀ url, url ∈ result.loadedUrls ↔ url = "s:main" ∨ url = "m:a" ∨ url = "m:b" := by
  have listed : (loads tryingJob fourSheets usedBefore).map (·.toOption.map Imported.url)
      = [none, some "m:a", some "m:b"] := by decide +kernel
  refine ⟨by decide +kernel, listed, ?_⟩
  have ended : (run tryingJob fourSheets usedBefore).1.toOption.isSome := by decide +kernel
  rcases done : (run tryingJob fourSheets usedBefore).1 with f | result
  · rw [done] at ended
    cases ended
  · obtain ⟨e, -, -, recorded⟩ := loaded_urls_exact tryingJob fourSheets usedBefore done
    refine ⟨result, rfl, fun url => ?_⟩
    have imports : (∃ imported, .ok imported ∈ loads tryingJob fourSheets usedBefore ∧
        imported.url = url) ↔ some url ∈ (loads tryingJob fourSheets usedBefore).map
          (·.toOption.map Imported.url) := by
      constructor
      · rintro ⟨imported, there, rfl⟩
        exact List.mem_map.mpr ⟨_, there, rfl⟩
      · intro there
        obtain ⟨outcome, there, same⟩ := List.mem_map.mp there
        rcases outcome with f | imported
        · cases same
        · exact ⟨imported, there, Option.some.inj same⟩
    have source : tryingJob.request.path = none ∧ tryingJob.request.url.isSome = true ∧
        tryingJob.request.entryUrl = "s:main" := ⟨rfl, rfl, rfl⟩
    rw [recorded, imports, listed, source.1, source.2.1, source.2.2]
    simp

end Lines

end StyleBuild
