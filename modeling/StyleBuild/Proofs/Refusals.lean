import StyleBuild.Proofs.LoadedUrls

/-!
# Pending answers in direct runs

Where calls are answered directly, a pending answer is dropped unstarted and its call is refused. The refusal
is thrown into whatever made the call: a resolution in the entry, a resolution in an import that the
evaluator makes, the evaluation or the rendering. `Steps.Halts` says that a pending answer is the last one that is
asked for, and how what was going on has failed with it; it passes from calls through imports and scripts to
whole runs.
-/

set_option autoImplicit false

namespace StyleBuild

variable {K : Kit} {α β : Type}

/-! ## What pending answers show -/

namespace Answer

variable {σ ε ρ : Type}

/-- What an answer shows as long as nothing is started. -/
def shown : Answer σ ε ρ → Option (Except ε ρ)
  | .value r => some (.ok r)
  | .fault e => some (.error e)
  | .pending _ => none

theorem refused_eq (e : ε) (a : Answer σ ε ρ × σ) : refused e a = (a.1.shown.getD (.error e), a.2) := by
  obtain ⟨answer, s⟩ := a
  cases answer with
  | value r => rfl
  | fault f => rfl
  | pending wait => rfl

@[simp] theorem shown_ofExcept (r : Except ε ρ) : (ofExcept r : Answer σ ε ρ).shown = some r := by
  cases r with
  | ok r => rfl
  | error e => rfl

@[simp] theorem shown_onSession (s : Session K) (a : Answer (World K) Fault ρ × World K) :
    (onSession s a).1.shown = a.1.shown := by
  obtain ⟨answer, w⟩ := a
  cases answer with
  | value r => rfl
  | fault f => rfl
  | pending wait => rfl

/-- Answers that differ at most in what they would do if they were started. -/
def Alike (a a' : Answer σ ε ρ × σ) : Prop := a.1.shown = a'.1.shown ∧ a.2 = a'.2

theorem Alike.refused {a a' : Answer σ ε ρ × σ} (alike : Alike a a') (e : ε) :
    Answer.refused e a = Answer.refused e a' := by
  rw [refused_eq, refused_eq, alike.1, alike.2]

end Answer

def Importers.Alike (importers importers' : Importers K) : Prop :=
  ∀ handle reference base w,
    Answer.Alike (importers handle reference base w) (importers' handle reference base w)

/-- Toolchains that differ at most in what their pending answers would do. -/
structure Toolchain.Alike (t t' : Toolchain K) : Prop where
  name : t.name = t'.name
  methods : t.methods = t'.methods
  evaluation : t.evaluation = t'.evaluation
  parse : ∀ contents dialect url w,
    Answer.Alike (t.parse contents dialect url w) (t'.parse contents dialect url w)
  evaluate : t.evaluation = .plain → t.evaluate = t'.evaluate
  render : ∀ tree style w, Answer.Alike (t.render tree style w) (t'.render tree style w)

def Job.retooled (job : Job K) (t : Toolchain K) : Job K := { job with toolchain := (.ok t, job.toolchain.2) }

theorem Script.run_congr {c c' : Collaborators K} {mode : Mode} (same : c.settled mode = c'.settled mode)
    (script : Script K) (s : Session K) : script.run c mode s = script.run c' mode s := by
  induction script generalizing s with
  | finish tree => rfl
  | fail f => rfl
  | load reference base next ih =>
    have driven : c.drive mode (Import.load reference base) s = c'.drive mode (Import.load reference base) s := by
      rw [Collaborators.drive_eq_exec, Collaborators.drive_eq_exec, same]
    simp only [run, driven]
    exact ih _ _
  | warn message deprecation span origin next ih => exact ih _
  | debug message span next ih => exact ih _
  | isDependency url next ih => exact ih _ _

namespace Compile

variable {t t' : Toolchain K} {importers importers' : Importers K}

theorem collaborators_alike (tools : t.Alike t') (asked : importers.Alike importers') :
    (t.collaborators importers).settled .direct = (t'.collaborators importers').settled .direct := by
  funext call s
  rcases call with ⟨importer, reference, base⟩ | ⟨contents, dialect, url⟩
  · cases importer with
    | custom handle bearing =>
      simp only [Collaborators.settled, Host.refusing, Collaborators.importHost, Answer.refused_onSession]
      have same := (asked handle reference base s.world).refused (.pendingAnswer bearing.method)
      exact congrArg (fun a => (a.1, { s with world := a.2 })) same
    | _ => rfl
  · simp only [Collaborators.settled, Host.refusing, Collaborators.importHost, Answer.refused_onSession,
      ImportCall.refuse, Toolchain.collaborators, ← tools.methods]
    have same := (tools.parse contents dialect url s.world).refused (.pendingAnswer t.methods.parse)
    exact congrArg (fun a => (a.1, { s with world := a.2 })) same

/-- How the calls of a direct run are settled. -/
abbrev refusing (t : Toolchain K) (importers : Importers K) :
    Settled (Session K) Fault (CompileCall K) CompileCall.Reply :=
  (host t importers).refusing (CompileCall.refuse t.methods)

theorem refusing_alike (tools : t.Alike t') (asked : importers.Alike importers') :
    refusing t importers = refusing t' importers' := by
  have loads := collaborators_alike tools asked
  funext call s
  cases call with
  | load c => exact congrFun (congrFun loads c) s
  | evaluate sheet =>
    simp only [Host.refusing, host, CompileCall.refuse, ← tools.evaluation, ← tools.methods]
    cases plain : t.evaluation with
    | plain =>
      simp only [Script.run_congr loads, tools.evaluate plain]
    | awaitable => rfl
    | disguised => rfl
  | render tree style =>
    simp only [Host.refusing, host, Answer.refused_onSession, CompileCall.refuse, ← tools.methods]
    have same := (tools.render tree style s.world).refused (.pendingAnswer t.methods.render)
    exact congrArg (fun a => (a.1, { s with world := a.2 })) same

theorem exec_start_alike (tools : t.Alike t') {job : Job K} (found : job.toolchain.1 = .ok t)
    {h : Settled (Session K) Fault (CompileCall K) CompileCall.Reply} (s : Session K) :
    (start (job.retooled t')).exec h s
      = (((start job).exec h s).1.map fun _ => t', ((start job).exec h s).2) := by
  have same : t'.isAwaitable = t.isAwaitable := by
    rw [Toolchain.isAwaitable, Toolchain.isAwaitable, tools.evaluation]
  have caches (environ : List (String × String)) :
      cacheFor (job.retooled t') environ = cacheFor job environ := rfl
  simp only [start, Job.retooled, Steps.exec_bind, Steps.exec_modify, Steps.exec_ofExcept, found, same,
    ← tools.name]
  split
  · rfl
  · simp only [Steps.exec_bind, Steps.exec_get, Steps.exec_ofExcept]
    rw [Job.retooled] at caches
    rw [caches]
    cases cacheFor job (s.world.emitAll job.toolchain.2).environ with
    | error f => rfl
    | ok cache => rfl

/-- Of the toolchain itself the steps use no more than its name and whether it can be told to answer
later. -/
theorem exec_stages_alike (tools : t.Alike t') {job : Job K} (found : job.toolchain.1 = .ok t)
    (h : Settled (Session K) Fault (CompileCall K) CompileCall.Reply) (s : Session K) :
    (stages (job.retooled t') (label job)).exec h s = (stages job (label job)).exec h s := by
  have evaluated : evaluateStage (job.retooled t') t' = evaluateStage job t := by
    funext e
    rw [evaluateStage, evaluateStage, tools.name]
    rfl
  have same : label (job.retooled t') = label job := rfl
  rw [stages_eq, ← same, stages_eq, Steps.exec_bind, Steps.exec_bind]
  have begun : (startStage (job.retooled t')).exec h s
      = (((startStage job).exec h s).1.map fun _ => t', ((startStage job).exec h s).2) := by
    have opened : within (label (job.retooled t')) .start
        [("mode", (job.retooled t').mode.name), ("entry", (job.retooled t').request.entryLabel)] s
          = within (label job) .start [("mode", job.mode.name), ("entry", job.request.entryLabel)] s := rfl
    rw [startStage, startStage, exec_inStage, exec_inStage, opened, exec_start_alike tools found]
    generalize (start job).exec h (within _ _ _ s) = ran
    rcases ran with ⟨f | a, u⟩
    · rfl
    · rfl
  rw [begun]
  rcases ran : (startStage job).exec h s with ⟨f | a, u⟩
  · rfl
  · obtain ⟨v, started, -⟩ := exec_inStage_ok ran
    obtain rfl : t = a := Except.ok.inj (found.symm.trans (loaded_start started).1)
    simp only [Except.map, evaluated]
    rfl

/-- Whatever pending answers would do, a direct run does not start them: it comes to the same, and leaves
the same session, where they would do something else. -/
theorem run_alike {job : Job K} (direct : job.mode = .direct) (found : job.toolchain.1 = .ok t)
    (tools : t.Alike t') (asked : importers.Alike importers') (s : Session K) :
    run (job.retooled t') importers' s = run job importers s := by
  have found' : (job.retooled t').toolchain.1 = .ok t' := rfl
  have direct' : (job.retooled t').mode = .direct := direct
  have hosts : settled (job.retooled t') importers' = settled job importers := by
    rw [settled_eq found, settled_eq found', direct, direct']
    exact (refusing_alike tools asked).symm
  have closed : closing (job.retooled t') = closing job := rfl
  have same : label (job.retooled t') = label job := rfl
  rw [run_eq_exec, run_eq_exec, hosts, steps_eq, steps_eq, closed, same, Steps.exec_bind, Steps.exec_bind,
    Steps.exec_orElse, Steps.exec_orElse, exec_stages_alike tools found]

end Compile

/-! ## Refused calls -/

/-- Someone a run asks: an importer on behalf of a key, the parser for a URL, the evaluator or the
serializer. -/
inductive Inquiry where
  | importer (key : Key)
  | parser (url : String)
  | evaluator
  | serializer
  deriving DecidableEq

namespace Inquiry

/-- The failure of a run that was given a pending answer. -/
def Refused : Inquiry → Failure → Prop
  | .serializer, g => g.kind = .evaluation ∧ g.report.code = "E302" ∧ g.report.stage = .assemble
      ∧ g.report.exitCode = 2
  | _, g => g.kind = .configuration ∧ g.report.code = "E101" ∧ g.report.stage = .start
      ∧ g.report.exitCode = 1

/-- Nothing is stored for what was asked. -/
def Open (cache : Cache K) : Inquiry → Prop
  | .importer key => Table.get? key cache.verdicts = none
  | .parser url => Table.get? url cache.parsed = none
  | _ => True

theorem Refused.settleFault {x : Inquiry} {g : Failure} (refused : x.Refused g) (reference : String)
    (base : Option String) (s : Session K) : Import.settleFault reference base (.failure g) s = s := by
  unfold Import.settleFault
  cases x with
  | serializer => simp only [refused.1]
  | _ => simp only [refused.1]

theorem Refused.retag {x : Inquiry} {g : Failure} (refused : x.Refused g) :
    Compile.retag (.failure g) = .failure g := by
  unfold Compile.retag
  cases x with
  | serializer => simp only [refused.1]
  | _ => simp only [refused.1]

end Inquiry

/-- What is asked in turn, with a mark on pending answers, and what came of it: no answer was pending, or the
last one was, and it has ended in the failure for it with nothing stored. -/
inductive Halted (xs : List (Inquiry × Bool)) : Except Fault α × Session K → Prop where
  | answered {r : Except Fault α × Session K} (all : ∀ x ∈ xs, x.2 = false) : Halted xs r
  | refused {past : List (Inquiry × Bool)} {x : Inquiry} {g : Failure} {t : Session K}
    (last : xs = past ++ [(x, true)]) (all : ∀ y ∈ past, y.2 = false) (refused : x.Refused g)
    (nothing : x.Open t.cache) : Halted xs (.error (.failure g), t)

namespace Halted

variable {xs : List (Inquiry × Bool)} {r : Except Fault α × Session K} {t : Session K}

theorem silent : Halted [] r := .answered (by simp)

theorem alone {x : Inquiry} {g : Failure} (refused : x.Refused g) (nothing : x.Open t.cache) :
    Halted [(x, true)] ((.error (.failure g), t) : Except Fault α × Session K) := by
  have last : [(x, true)] = [] ++ [(x, true)] := rfl
  exact .refused last (by simp) refused nothing

theorem after {past : List (Inquiry × Bool)} (all : ∀ x ∈ past, x.2 = false) (halted : Halted xs r) :
    Halted (past ++ xs) r := by
  cases halted with
  | answered rest =>
    refine .answered fun x there => ?_
    rcases List.mem_append.mp there with before | after
    · exact all x before
    · exact rest x after
  | refused last rest refused nothing =>
    rename_i before x g t
    have whole : past ++ xs = (past ++ before) ++ [(x, true)] := by rw [last, List.append_assoc]
    refine .refused whole (fun y there => ?_) refused nothing
    rcases List.mem_append.mp there with early | late
    · exact all y early
    · exact rest y late

theorem of_ok {a : α} (halted : Halted xs ((.ok a, t) : Except Fault α × Session K)) :
    ∀ x ∈ xs, x.2 = false := by
  cases halted with
  | answered all => exact all

theorem cast {f : Fault} (halted : Halted xs ((.error f, t) : Except Fault α × Session K)) :
    Halted xs ((.error f, t) : Except Fault β × Session K) := by
  cases halted with
  | answered all => exact .answered all
  | refused last all refused nothing => exact .refused last all refused nothing

theorem mapError (f : Fault → Fault) (halted : Halted xs r)
    (passes : ∀ x g, Inquiry.Refused x g → f (.failure g) = .failure g) :
    Halted xs (r.1.mapError f, r.2) := by
  cases halted with
  | answered all => exact .answered all
  | refused last all refused nothing =>
    show Halted _ (.error (f _), _)
    rw [passes _ _ refused]
    exact .refused last all refused nothing

end Halted

namespace Steps

variable {κ : Type} {ρ : κ → Type} {h : Settled (Session K) Fault κ ρ}
variable {note : κ → Session K → List (Inquiry × Bool)} {s : Session K}

/-- Steps that end with the first pending answer. -/
def Halts (h : Settled (Session K) Fault κ ρ) (note : κ → Session K → List (Inquiry × Bool))
    (m : Steps (Session K) Fault κ ρ α) (s : Session K) : Prop :=
  Halted (m.notes h note s) (m.exec h s)

theorem Halts.bind {m : Steps (Session K) Fault κ ρ α} {f : α → Steps (Session K) Fault κ ρ β}
    (first : m.Halts h note s) (next : ∀ a t, m.exec h s = (.ok a, t) → (f a).Halts h note t) :
    (m >>= f).Halts h note s := by
  unfold Halts at first ⊢
  rw [notes_bind, exec_bind]
  rcases ran : m.exec h s with ⟨e | a, t⟩
  · rw [ran] at first
    rw [List.append_nil]
    exact first.cast
  · rw [ran] at first
    exact (next a t ran).after first.of_ok

theorem Halts.mapFault {m : Steps (Session K) Fault κ ρ α} (f : Fault → Fault) (halts : m.Halts h note s)
    (passes : ∀ x g, Inquiry.Refused x g → f (.failure g) = .failure g) :
    (m.mapFault f).Halts h note s := by
  unfold Halts
  rw [notes_mapFault, exec_mapFault]
  exact halts.mapError f passes

end Steps

/-! ## Imports -/

def ImportCall.inquiry (base : Option String) : ImportCall → Inquiry
  | .resolve _ reference _ => .importer (base, reference)
  | .parse _ _ url => .parser url

/-- A call of an import that a stylesheet makes, with a mark if its answer is pending. -/
def Collaborators.noted (c : Collaborators K) (base : Option String) (call : ImportCall) (s : Session K) :
    List (Inquiry × Bool) :=
  [(call.inquiry base, (c.importHost call s).1.shown.isNone)]

namespace Import

variable {c : Collaborators K} {reference : String} {base : Option String} {s : Session K}

/-- A call that is answered comes to its answer, and one with a pending answer to its refusal. -/
theorem settled_noted (c : Collaborators K) (base : Option String) (call : ImportCall) (s : Session K) :
    (c.noted base call s = [(call.inquiry base, false)]) ∨
      (c.noted base call s = [(call.inquiry base, true)] ∧
        (c.settled .direct call s).1 = .error (call.refuse c.parseMethod)) := by
  have settled : c.settled .direct call s
      = ((c.importHost call s).1.shown.getD (.error (call.refuse c.parseMethod)),
        (c.importHost call s).2) := Answer.refused_eq (call.refuse c.parseMethod) (c.importHost call s)
  rw [settled, Collaborators.noted]
  cases (c.importHost call s).1.shown with
  | none => exact .inr ⟨rfl, rfl⟩
  | some r => exact .inl rfl

theorem halts_firstAnswer (rs : List Resolver)
    (new : Table.get? (base, reference) s.cache.verdicts = none) :
    (firstAnswer reference base rs).Halts (c.settled .direct) (c.noted base) s := by
  induction rs generalizing s with
  | nil => exact .silent
  | cons r rest ih =>
    by_cases misfit : ∃ v, r.importer = .misfit v
    · obtain ⟨v, none_there⟩ := misfit
      have ran : (ask r reference base).exec (c.settled .direct) s
          = (.error (.noAttribute v "resolve"), s) := by
        rw [ask_misfit none_there]
        rfl
      have unasked : (ask r reference base).notes (c.settled .direct) (c.noted base) s = [] := by
        rw [ask_misfit none_there]
        rfl
      obtain ⟨-, noted⟩ := Prod.mk.inj (notes_firstAnswer_cons (c.noted base) rest ran)
      rw [Steps.Halts, noted, unasked]
      exact .silent
    · have there : ∀ v, r.importer ≠ .misfit v := fun v here => misfit ⟨v, here⟩
      have asks : (ask r reference base : ImportSteps K Offer)
          = Steps.perform (ImportCall.resolve r.importer reference (baseFor r base)) := ask_importer there
      rcases ran : (ask r reference base).exec (c.settled .direct) s with ⟨outcome, t⟩
      have asked : (ask r reference base).notes (c.settled .direct) (c.noted base) s
          = c.noted base (.resolve r.importer reference (baseFor r base)) s := by
        rw [asks]
        exact Steps.notes_perform _ _ _ _
      have settled : c.settled .direct (.resolve r.importer reference (baseFor r base)) s = (outcome, t) := by
        rw [← ran, asks]
        rfl
      have kept : t.cache = s.cache := by
        have same := congrArg Session.cache
          (c.settled_world .direct (.resolve r.importer reference (baseFor r base)) s)
        rw [settled] at same
        exact same
      obtain ⟨executed, noted⟩ := Prod.mk.inj (notes_firstAnswer_cons (c.noted base) rest ran)
      rw [Steps.Halts, executed, noted, asked]
      obtain now | ⟨later, refused⟩ := settled_noted c base (.resolve r.importer reference (baseFor r base)) s
      · rw [now]
        have answered (x : Inquiry) : ∀ y ∈ [(x, false)], y.2 = false := by simp
        rcases outcome with f | offer
        · exact .answered (answered _)
        · cases offer with
          | declined =>
            refine Halted.after (answered _) (ih ?_)
            rw [← kept] at new
            exact new
          | source source => exact .answered (answered _)
          | other type => exact .answered (answered _)
      · rw [settled] at refused
        cases refused
        rw [later]
        exact .alone ⟨rfl, rfl, rfl, rfl⟩ (kept ▸ new)

theorem halts_resolve (c : Collaborators K) (reference : String) (base : Option String) (s : Session K) :
    (resolve reference base).Halts (c.settled .direct) (c.noted base) s := by
  simp only [resolve, Steps.Halts, Steps.exec_bind, Steps.notes_bind, Steps.exec_get,
    Steps.notes_get, List.nil_append]
  cases stored : Table.get? (base, reference) s.cache.verdicts with
  | some v =>
    cases v with
    | found l => exact .silent
    | missing => exact .silent
    | ambiguous f => exact .silent
  | none =>
    have halts := halts_firstAnswer (c := c) ((s.cache.relative? base).toList ++ s.cache.resolvers) stored
    have cascaded := halts.mapFault (Fault.leaving "generator") fun _ _ _ => rfl
    unfold Steps.Halts at cascaded
    simp only [resolveNew, Steps.exec_bind, Steps.notes_bind, Steps.exec_get, Steps.notes_get,
      Steps.exec_attempt, Steps.notes_attempt, List.nil_append, cascade]
    generalize ((firstAnswer reference base _).mapFault _).exec (c.settled .direct) s = ran at cascaded ⊢
    rcases ran with ⟨f | found, t⟩
    · simp only [Steps.exec_bind, Steps.notes_bind, Steps.exec_modify, Steps.notes_modify, Steps.exec_fail,
        Steps.notes_fail, List.append_nil]
      cases cascaded with
      | answered all => exact .answered all
      | refused last all refused nothing =>
        rw [refused.settleFault]
        exact .refused last all refused nothing
    · cases found with
      | none =>
        simp only [Steps.exec_modify, Steps.notes_modify, Steps.notes_fail, Steps.exec_bind, Steps.notes_bind,
          List.append_nil]
        exact .answered cascaded.of_ok
      | some found =>
        simp only [Steps.exec_modify, Steps.notes_modify, Steps.notes_pure, Steps.exec_bind, Steps.notes_bind,
          Steps.exec_get, Steps.notes_get, List.append_nil]
        exact .answered cascaded.of_ok

theorem halts_parse (c : Collaborators K) (base : Option String) (l : Loaded) (s : Session K) :
    (parse l).Halts (c.settled .direct) (c.noted base) s := by
  have sheet : (sheetOf l).Halts (c.settled .direct) (c.noted base) s := by
    simp only [sheetOf, Steps.Halts, Steps.exec_bind, Steps.notes_bind, Steps.exec_get, Steps.notes_get,
      List.nil_append]
    cases stored : Table.get? l.source.url s.cache.parsed with
    | some sheet => exact .silent
    | none =>
      refine Steps.Halts.bind ?_ fun _ _ _ => .silent
      rw [Steps.Halts, Steps.notes_mapFault, Steps.exec_mapFault, Steps.notes_perform, Steps.exec_perform]
      have kept := congrArg Session.cache
        (c.settled_world .direct (.parse l.source.contents l.source.dialect l.source.url) s)
      obtain now | ⟨later, refused⟩ :=
        settled_noted c base (.parse l.source.contents l.source.dialect l.source.url) s
      · rw [now]
        exact .answered (by simp)
      · rw [later, refused]
        refine .alone ⟨rfl, rfl, rfl, rfl⟩ ?_
        show Table.get? l.source.url _ = none
        rw [kept]
        exact stored
  exact sheet.bind fun _ _ _ => .silent

theorem halts_load (c : Collaborators K) (reference : String) (base : Option String) (s : Session K) :
    (load reference base).Halts (c.settled .direct) (c.noted base) s := by
  have fetched : (fetch reference base).Halts (c.settled .direct) (c.noted base) s :=
    (halts_resolve c reference base s).bind fun l t _ => halts_parse c base l t
  exact fetched.bind fun _ _ _ => .silent

end Import

/-! ## Scripts -/

/-- An evaluator that lets the faults of its imports pass. -/
def Script.Passing : Script K → Prop
  | finish _ => True
  | fail _ => True
  | load _ _ next => (∀ f, next (.error f) = .fail f) ∧ ∀ imported, (next (.ok imported)).Passing
  | warn _ _ _ _ next => next.Passing
  | debug _ _ next => next.Passing
  | isDependency _ next => ∀ b, (next b).Passing

/-- Who is asked in the imports of an evaluator. -/
def Script.inquiries (c : Collaborators K) : Script K → Session K → List (Inquiry × Bool)
  | finish _, _ => []
  | fail _, _ => []
  | load reference base next, s =>
    (Import.load reference base).notes (c.settled .direct) (c.noted base) s
      ++ inquiries c (next (c.drive .direct (Import.load reference base) s).1)
        (c.drive .direct (Import.load reference base) s).2
  | warn message deprecation span origin next, s =>
    inquiries c next (s.warn message deprecation span origin)
  | debug message span next, s => inquiries c next (s.debug message span)
  | isDependency url next, s => inquiries c (next (s.cache.isDependency url)) s

theorem Script.halted_run (c : Collaborators K) {script : Script K} (passing : script.Passing) (s : Session K) :
    Halted (script.inquiries c s) (script.run c .direct s) := by
  induction script generalizing s with
  | finish tree => exact .silent
  | fail f => exact .silent
  | load reference base next ih =>
    have loaded := Import.halts_load c reference base s
    rw [Steps.Halts, ← Collaborators.drive_eq_exec] at loaded
    rcases ran : c.drive .direct (Import.load reference base) s with ⟨f | imported, t⟩
    · rw [ran] at loaded
      simp only [inquiries, run, ran, passing.1, List.append_nil]
      exact loaded.cast
    · rw [ran] at loaded
      simp only [inquiries, run, ran]
      exact (ih _ (passing.2 imported) t).after loaded.of_ok
  | warn message deprecation span origin next ih => exact ih passing _
  | debug message span next ih => exact ih passing _
  | isDependency url next ih => exact ih _ (passing _) s

/-! ## Runs -/

namespace Compile

variable {t : Toolchain K} {importers : Importers K}

/-- Who is asked in a call of a run, with a mark on pending answers. -/
def noted (t : Toolchain K) (importers : Importers K) : CompileCall K → Session K → List (Inquiry × Bool)
  | .load c, s => (t.collaborators importers).noted none c s
  | .evaluate sheet, s =>
    match t.evaluation with
    | .plain => (t.evaluate sheet s.context.functions).inquiries (t.collaborators importers) s
    | _ => [(.evaluator, true)]
  | .render tree style, s => [(.serializer, (t.render tree style s.world).1.shown.isNone)]

/-- Who is asked in a direct run, in order. -/
def inquiries (job : Job K) (t : Toolchain K) (importers : Importers K) (s : Session K) :
    List (Inquiry × Bool) :=
  (steps job).notes (settled job importers) (noted t importers) s

theorem halts_lift (t : Toolchain K) (importers : Importers K) {m : ImportSteps K α} {s : Session K}
    (halts : m.Halts ((t.collaborators importers).settled .direct) ((t.collaborators importers).noted none) s) :
    (lift m).Halts (refusing t importers) (noted t importers) s := by
  have executed : (lift m).exec (refusing t importers) s
      = m.exec ((t.collaborators importers).settled .direct) s := exec_lift t importers .direct m s
  have asked : (lift m).notes (refusing t importers) (noted t importers) s
      = m.notes ((t.collaborators importers).settled .direct) ((t.collaborators importers).noted none) s :=
    trace_liftRun _ _ _
  rw [Steps.Halts, asked, executed]
  exact halts

theorem halts_inStage {h : Settled (Session K) Fault (CompileCall K) CompileCall.Reply}
    {note : CompileCall K → Session K → List (Inquiry × Bool)} {run : RunLabel} {stage : Stage}
    {attributes : List (String × String)} {body : CompileSteps K α} {s : Session K}
    (halts : body.Halts h note (within run stage attributes s)) :
    (inStage run stage attributes body).Halts h note s := by
  unfold Steps.Halts at halts ⊢
  rw [notes_inStage, exec_inStage]
  generalize body.exec h (within run stage attributes s) = ran at halts ⊢
  rcases ran with ⟨f | a, t⟩
  · cases halts with
    | answered all => exact .answered all
    | refused last all refused nothing => exact .refused last all refused nothing
  · exact .answered halts.of_ok

theorem halts_entry (t : Toolchain K) (importers : Importers K) (r : Request) (s : Session K) :
    ((entry r).mapFault retag).Halts (refusing t importers) (noted t importers) s := by
  refine Steps.Halts.mapFault retag ?_ fun _ _ refused => refused.retag
  unfold entry
  cases r.path with
  | some p => exact halts_lift t importers (Import.halts_load _ p.toText none s)
  | none =>
    refine Steps.Halts.bind .silent fun dialect u _ => ?_
    refine Steps.Halts.bind .silent fun v w _ => ?_
    refine Steps.Halts.bind .silent fun _ x _ => ?_
    split
    · refine Steps.Halts.bind .silent fun _ y _ => ?_
      exact halts_lift t importers (Import.halts_parse _ none _ y)
    · exact halts_lift t importers (Import.halts_parse _ none _ x)

theorem halts_evaluate (t : Toolchain K) (importers : Importers K)
    (passing : ∀ sheet functions, (t.evaluate sheet functions).Passing) (sheet : K.Sheet) (s : Session K) :
    ((Steps.perform (CompileCall.evaluate sheet)).mapFault (evaluatorFault t.name)).Halts
      (refusing t importers) (noted t importers) s := by
  have refused : Halted [(Inquiry.evaluator, true)]
      ((.error (evaluatorFault t.name (.pendingAnswer t.methods.evaluate)), s) :
        Except Fault K.Tree × Session K) := .alone ⟨rfl, rfl, rfl, rfl⟩ trivial
  have walked := Script.halted_run (t.collaborators importers) (passing sheet s.context.functions) s
  rw [Steps.Halts, Steps.notes_mapFault, Steps.exec_mapFault, Steps.notes_perform, Steps.exec_perform]
  simp only [noted, Host.refusing, host]
  cases t.evaluation with
  | plain =>
    simp only [Answer.refused_ofExcept]
    exact walked.mapError (evaluatorFault t.name) fun _ _ _ => rfl
  | awaitable => exact refused
  | disguised => exact refused

theorem halts_assemble (t : Toolchain K) (importers : Importers K) (r : Request) (tree : K.Tree)
    (s : Session K) : (assemble r tree).Halts (refusing t importers) (noted t importers) s := by
  refine Steps.Halts.bind ?_ fun rendered u _ => .silent
  rw [Steps.Halts, Steps.notes_mapFault, Steps.exec_mapFault, Steps.notes_perform, Steps.exec_perform]
  simp only [noted, Host.refusing, host, Answer.refused_eq, Answer.shown_onSession]
  cases (t.render tree r.style s.world).1.shown with
  | none => exact .alone ⟨rfl, rfl, rfl, rfl⟩ trivial
  | some outcome => exact .answered (by simp)

theorem halts_stages (importers : Importers K) {job : Job K} (found : job.toolchain.1 = .ok t)
    (passing : ∀ sheet functions, (t.evaluate sheet functions).Passing) (s : Session K) :
    (stages job (label job)).Halts (refusing t importers) (noted t importers) s := by
  have started : (startStage job).Halts (refusing t importers) (noted t importers) s := by
    refine halts_inStage ?_
    rw [Steps.Halts, notes_start]
    exact .silent
  rw [stages_eq]
  refine started.bind fun a u ran => ?_
  obtain ⟨v, began, -⟩ := exec_inStage_ok ran
  obtain rfl : t = a := Except.ok.inj (found.symm.trans (loaded_start began).1)
  refine (halts_inStage (halts_entry t importers job.request _)).bind fun e v _ => ?_
  refine (halts_inStage (halts_evaluate t importers passing e.sheet _)).bind fun tree w _ => ?_
  exact halts_inStage (halts_assemble t importers job.request tree _)

theorem halts_steps (importers : Importers K) {job : Job K} (found : job.toolchain.1 = .ok t)
    (passing : ∀ sheet functions, (t.evaluate sheet functions).Passing) (s : Session K) :
    (steps job).Halts (refusing t importers) (noted t importers) s := by
  have staged := halts_stages importers found passing s
  unfold Steps.Halts at staged ⊢
  rw [notes_steps]
  generalize ran : (stages job (label job)).exec (refusing t importers) s = ended at staged
  cases staged with
  | answered all => exact .answered all
  | refused last all refused nothing =>
    rw [exec_steps_error ran]
    exact .refused last all refused nothing

/-- An evaluator that can be told to answer later ends a direct run at once. -/
theorem awaitable_refused {job : Job K} (direct : job.mode = .direct) (found : job.toolchain.1 = .ok t)
    (awaitable : t.evaluation = .awaitable) (s : Session K) :
    inquiries job t importers s = [] ∧
      ∃ g, (run job importers s).1 = .error (.failure g) ∧ Inquiry.evaluator.Refused g := by
  have told : t.isAwaitable = true := by
    rw [Toolchain.isAwaitable, awaitable]
    rfl
  obtain ⟨g, u, started, refused⟩ : ∃ g u,
      (startStage job).exec (settled job importers) s = (.error (.failure g), u) ∧
        Inquiry.evaluator.Refused g := by
    rw [startStage, exec_inStage]
    simp only [start, Steps.exec_bind, Steps.exec_modify, Steps.exec_ofExcept, found, direct, told, and_self,
      if_true, Steps.exec_fail]
    exact ⟨_, _, rfl, rfl, rfl, rfl, rfl⟩
  have ran : (stages job (label job)).exec (settled job importers) s = (.error (.failure g), u) := by
    rw [stages_eq, Steps.exec_bind, started]
  constructor
  · rw [inquiries, notes_steps, stages_eq, Steps.notes_bind, started, startStage, notes_inStage, notes_start]
    rfl
  · rw [run_eq_exec, exec_steps_error ran]
    exact ⟨g, rfl, refused⟩

/-- A direct run starts nothing that is pending: it comes to the same whatever the pending answers would do.
An evaluator that can be told to answer later ends it at its start. A pending answer of an importer, of the
parser, of the evaluator or of the serializer is the last one it asks for, and it fails with the failure for
that, with nothing stored for the key or the URL in question. -/
theorem pending_answers_refused (job : Job K) (importers : Importers K) (s : Session K) {t : Toolchain K}
    (direct : job.mode = .direct) (found : job.toolchain.1 = .ok t)
    (passing : ∀ sheet functions, (t.evaluate sheet functions).Passing) :
    (∀ t' importers', t.Alike t' → importers.Alike importers' →
      run (job.retooled t') importers' s = run job importers s) ∧
    (t.evaluation = .awaitable → inquiries job t importers s = [] ∧
      ∃ g, (run job importers s).1 = .error (.failure g) ∧ Inquiry.evaluator.Refused g) ∧
    ∀ x, (x, true) ∈ inquiries job t importers s →
      (∃ past, inquiries job t importers s = past ++ [(x, true)] ∧ ∀ y ∈ past, y.2 = false) ∧
      (∃ g, (run job importers s).1 = .error (.failure g) ∧ x.Refused g) ∧
      x.Open (run job importers s).2.cache := by
  refine ⟨?_, ?_, ?_⟩
  · intro t' importers' tools asked
    exact run_alike direct found tools asked s
  · intro awaitable
    exact awaitable_refused direct found awaitable s
  · intro x there
    have halts := halts_steps importers found passing s
    have hosts : settled job importers = refusing t importers := by rw [settled_eq found, direct]
    rw [← hosts] at halts
    change Halted (inquiries job t importers s) _ at halts
    rw [run_eq_exec]
    generalize (steps job).exec (settled job importers) s = ran at halts ⊢
    cases halts with
    | answered all => cases all _ there
    | refused last all refused nothing =>
      rename_i past y g u
      obtain rfl : x = y := by
        rw [last, List.mem_append] at there
        rcases there with early | late
        · cases all _ early
        · exact congrArg Prod.fst (List.mem_singleton.mp late)
      exact ⟨⟨past, last, all⟩, ⟨g, rfl, refused⟩, nothing⟩

end Compile

namespace References

open Compile

theorem loadAll_passing (sheet : List String) : (loadAll sheet).Passing := by
  induction sheet with
  | nil => trivial
  | cons reference rest ih => exact ⟨fun _ => rfl, fun _ => ih⟩

/-- An importer has one sheet at hand and needs time for what that refers to. -/
def slowImporters : Importers kit := fun _ reference _ w =>
  if reference = "main" then (.value (.source { url := "m:main", contents := "x", dialect := .scss }), w)
  else (.pending fun w => (.ok .declined, w), w)

theorem slow_import_refused :
    let ran := run (job "main" start.cache) slowImporters start
    (∃ g, ran.1 = .error (.failure g) ∧ g.report.code = "E101" ∧ g.report.exitCode = 1) ∧
      Table.get? (none, "x") ran.2.cache.verdicts = none := by
  have asked : (Inquiry.importer (none, "x"), true)
      ∈ inquiries (job "main" start.cache) toolchain slowImporters start := by decide +kernel
  obtain ⟨-, -, refuses⟩ := pending_answers_refused (job "main" start.cache) slowImporters start rfl rfl
    fun sheet _ => loadAll_passing sheet
  obtain ⟨-, ⟨g, failed, -, code, -, exit⟩, nothing⟩ := refuses _ asked
  exact ⟨⟨g, failed, code, exit⟩, nothing⟩

end References

end StyleBuild
