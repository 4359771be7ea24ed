import StyleBuild.Compile.Steps
import StyleBuild.Proofs.Driver

/-!
# The calls of a compilation

The steps of an import and of a whole run as programs on settled answers, and the calls of importers and
of the parser that an observer sees. A run hands its evaluator over in a single call; the imports which
the evaluator makes meanwhile are runs of their own, and their calls belong to the run as well.
-/

set_option autoImplicit false

namespace StyleBuild

variable {K : Kit} {α : Type}

/-- A session in an empty world. -/
def Session.blank (own : K.State) : Session K :=
  { world := ⟨⟨[], []⟩, [], [], [], [], own⟩, cache := { resolvers := [] } }

@[simp] theorem Session.cache_recordLoaded (s : Session K) (url : String) :
    (s.recordLoaded url).cache = s.cache := by
  unfold Session.recordLoaded
  split <;> rfl

@[simp] theorem Session.cache_warn (s : Session K) (message : String)
    (deprecation : Option String) (span : Option Span) (origin : Option String) :
    (s.warn message deprecation span origin).cache = s.cache := by
  unfold Session.warn
  dsimp only
  split
  · rfl
  · cases deprecation with
    | none => rfl
    | some kind =>
      unfold Session.notice
      dsimp only
      split <;> rfl

theorem Answer.refused_onSession {ρ : Type} (e : Fault) (s : Session K)
    (a : Answer (World K) Fault ρ × World K) :
    Answer.refused e (Answer.onSession s a) =
      ((Answer.refused e a).1, { s with world := (Answer.refused e a).2 }) := by
  rcases a with ⟨_ | _ | _, w⟩ <;> rfl

theorem Answer.awaited_onSession {ρ : Type} (s : Session K)
    (a : Answer (World K) Fault ρ × World K) :
    Answer.awaited (Answer.onSession s a) =
      ((Answer.awaited a).1, { s with world := (Answer.awaited a).2 }) := by
  rcases a with ⟨_ | _ | _, w⟩ <;> rfl

namespace Collaborators

/-- How the calls of an import are settled. -/
def settled (c : Collaborators K) (mode : Mode) :
    Settled (Session K) Fault ImportCall (ImportCall.Reply K) :=
  match mode with
  | .direct => c.importHost.refusing (ImportCall.refuse c.parseMethod)
  | .awaiting => c.importHost.awaited

/-- A call of an import reaches nothing of a session but the world. -/
theorem settled_world (c : Collaborators K) (mode : Mode) (call : ImportCall) (s : Session K) :
    (c.settled mode call s).2 = { s with world := (c.settled mode call s).2.world } := by
  cases mode with
  | direct =>
    rcases call with ⟨_ | _ | _ | _ | _, reference, base⟩ | ⟨contents, dialect, url⟩ <;>
      simp [settled, Host.refusing, importHost, library, Answer.refused_onSession]
  | awaiting =>
    rcases call with ⟨_ | _ | _ | _ | _, reference, base⟩ | ⟨contents, dialect, url⟩ <;>
      simp [settled, Host.awaited, importHost, library, Answer.awaited_onSession]

theorem drive_eq_exec (c : Collaborators K) (mode : Mode) (m : ImportSteps K α) (s : Session K) :
    c.drive mode m s = m.exec (c.settled mode) s := by
  cases mode with
  | direct => exact Run.direct_eq_follow _ _ _
  | awaiting => exact Run.awaiting_eq_follow _ _

/-- The calls that the steps of an import make. -/
def calls (c : Collaborators K) (mode : Mode) (m : ImportSteps K α) (s : Session K) :
    List ImportCall :=
  (m s).trace (c.settled mode) fun call _ => [call]

end Collaborators

/-- A script whose fault is turned into another goes the way it would go by itself. -/
theorem Script.run_mapFault (c : Collaborators K) (mode : Mode) (f : Fault → Fault) (script : Script K)
    (s : Session K) :
    (script.mapFault f).run c mode s =
      ((script.run c mode s).1.mapError f, (script.run c mode s).2) := by
  induction script generalizing s with
  | finish tree => rfl
  | fail e => rfl
  | load reference base next ih => exact ih _ _
  | warn message deprecation span origin next ih => exact ih _
  | debug message span next ih => exact ih _
  | isDependency url next ih => exact ih _ _

/-- The calls that the imports of an evaluator make. -/
def Script.calls (c : Collaborators K) (mode : Mode) : Script K → Session K → List ImportCall
  | finish _, _ => []
  | fail _, _ => []
  | load reference base next, s =>
    c.calls mode (Import.load reference base) s
      ++ calls c mode (next (c.drive mode (Import.load reference base) s).1)
        (c.drive mode (Import.load reference base) s).2
  | warn message deprecation span origin next, s =>
    calls c mode next (s.warn message deprecation span origin)
  | debug message span next, s => calls c mode next (s.debug message span)
  | isDependency url next, s => calls c mode (next (s.cache.isDependency url)) s

/-! ## What imports are put together from -/

/-- What an import does to its session beside its calls. -/
inductive Import.Keeps (s : Session K) : Session K → Prop where
  | cache (c : Cache K) : Keeps s { s with cache := c }
  | loaded (url : String) : Keeps s (s.recordLoaded url)
  | missing (c : Cache K) (reference : String) (base : Option String) :
    Keeps s ({ s with cache := c }.emit (.importMissing reference base))
  | resolved (c : Cache K) (reference : String) (base : Option String) (url kind label : String) :
    Keeps s ({ s with cache := c }.emit (.importResolved reference base url kind label))

/-- A property of programs that calls of importers and reports of declining have. -/
structure AskClosed (P : (α : Type) → ImportSteps K α → Prop) : Prop extends Steps.Closed P where
  call : ∀ c : ImportCall, P (c.Reply K) (Steps.perform c)
  declined : ∀ label reference, P Unit (Steps.modify (·.emit (.declined label reference)))

/-- A property that the bookkeeping of imports has as well. -/
structure ImportClosed (P : (α : Type) → ImportSteps K α → Prop) : Prop extends AskClosed P where
  keeps : ∀ {f : Session K → Session K}, (∀ s, Import.Keeps s (f s)) → P Unit (Steps.modify f)

theorem AskClosed.firstAnswer {P : (α : Type) → ImportSteps K α → Prop} (closed : AskClosed P)
    (reference : String) (base : Option String) (rs : List Resolver) :
    P _ (Import.firstAnswer reference base rs) := by
  induction rs with
  | nil => exact closed.pure _
  | cons r rest ih =>
    have asked : P _ (Import.ask r reference base) := by
      unfold Import.ask
      split
      · exact closed.fail _
      · exact closed.call (.resolve r.importer reference (Import.baseFor r base))
    refine closed.bind (closed.attempt asked) fun answer => ?_
    split
    · exact closed.fail _
    · exact closed.fail _
    · exact closed.bind (closed.declined _ _) fun _ => ih
    · exact closed.fail _
    · exact closed.pure _

namespace ImportClosed

variable {P : (α : Type) → ImportSteps K α → Prop} (closed : ImportClosed P)
include closed

theorem resolve (reference : String) (base : Option String) : P _ (Import.resolve reference base) := by
  have cascaded (relative : Option Resolver) (rs : List Resolver) :
      P _ (Import.cascade reference base relative rs) :=
    closed.mapFault _ (closed.firstAnswer reference base _)
  have resolvedNew : P _ (Import.resolveNew reference base) := by
    refine closed.getThen fun s => closed.bind (closed.attempt (cascaded _ _)) fun answer => ?_
    split
    · refine closed.bind (closed.keeps fun s => ?_) fun _ => closed.fail _
      unfold Import.settleFault
      split
      · split
        · exact .cache _
        · exact .cache s.cache
      · exact .cache s.cache
    · exact closed.bind (closed.keeps fun s => .missing _ _ _) fun _ => closed.fail _
    · refine closed.getThen fun s => closed.bind (closed.keeps fun s => ?_) fun _ => closed.pure _
      exact .resolved _ _ _ _ _ _
  refine closed.getThen fun s => ?_
  split
  · exact closed.pure _
  · exact closed.fail _
  · exact closed.fail _
  · exact resolvedNew

theorem parse (l : Loaded) : P _ (Import.parse l) := by
  have sheet : P _ (Import.sheetOf l) := by
    refine closed.getThen fun s => ?_
    split
    · exact closed.pure _
    · have asked := closed.call (.parse l.source.contents l.source.dialect l.source.url)
      refine closed.bind (closed.mapFault _ asked) fun sheet => ?_
      exact closed.bind (closed.keeps fun s => .cache _) fun _ => closed.pure _
  exact closed.bind sheet fun _ => closed.pure _

theorem fetch (reference : String) (base : Option String) : P _ (Import.fetch reference base) :=
  closed.bind (closed.resolve reference base) fun l => closed.parse l

theorem load (reference : String) (base : Option String) : P _ (Import.load reference base) := by
  refine closed.bind (closed.fetch reference base) fun imported => ?_
  exact closed.bind (closed.keeps fun s => .loaded _) fun _ => closed.pure _

end ImportClosed

/-! ## What imports leave alone -/

/-- A frame in which the collaborators stay and declining is reported. -/
structure AskFrame (h : Settled (Session K) Fault ImportCall (ImportCall.Reply K))
    (V : Session K → Session K → Prop) : Prop extends Steps.Frame V where
  call : ∀ call s, V s (h call s).2
  declined : ∀ s label reference, V s (s.emit (.declined label reference))

/-- A frame in which the collaborators and the bookkeeping of imports stay: the cache may change, URLs be
noted and imports be reported. -/
structure ImportFrame (h : Settled (Session K) Fault ImportCall (ImportCall.Reply K))
    (V : Session K → Session K → Prop) : Prop extends AskFrame h V where
  cache : ∀ s cache, V s { s with cache := cache }
  loaded : ∀ s url, V s (s.recordLoaded url)
  missing : ∀ s reference base, V s (s.emit (.importMissing reference base))
  resolved : ∀ s reference base url kind label,
    V s (s.emit (.importResolved reference base url kind label))

variable {h : Settled (Session K) Fault ImportCall (ImportCall.Reply K)}
variable {V : Session K → Session K → Prop}

theorem AskFrame.closed (frame : AskFrame h V) : AskClosed fun _ m => m.Moves h V where
  toClosed := Steps.Moves.closed frame.toFrame
  call c := .perform (frame.call c)
  declined label reference := .modify fun s => frame.declined s label reference

theorem ImportFrame.closed (frame : ImportFrame h V) : ImportClosed fun _ m => m.Moves h V where
  toAskClosed := frame.toAskFrame.closed
  keeps {f} kept := .modify fun s => by
    have keeps := kept s
    generalize f s = t at keeps ⊢
    cases keeps with
    | cache c => exact frame.cache s c
    | loaded url => exact frame.loaded s url
    | missing c reference base => exact frame.trans (frame.cache s c) (frame.missing _ _ _)
    | resolved c reference base url kind label =>
      exact frame.trans (frame.cache s c) (frame.resolved _ _ _ _ _ _)

/-- Nothing of a session changes but its world, its cache and what it has loaded. -/
def Import.Touches (s t : Session K) : Prop :=
  ∃ world cache loaded, t = { s with world, cache, context := { s.context with loaded } }

theorem Collaborators.import_frame (c : Collaborators K) (mode : Mode) :
    ImportFrame (c.settled mode) Import.Touches where
  refl s := ⟨s.world, s.cache, s.context.loaded, rfl⟩
  trans := by
    rintro s t u ⟨w, cache, loaded, rfl⟩ ⟨w', cache', loaded', rfl⟩
    exact ⟨w', cache', loaded', rfl⟩
  call call s := ⟨_, _, _, c.settled_world mode call s⟩
  declined s _ _ := ⟨_, _, _, rfl⟩
  cache s _ := ⟨_, _, _, rfl⟩
  missing s _ _ := ⟨_, _, _, rfl⟩
  resolved s _ _ _ _ _ := ⟨_, _, _, rfl⟩
  loaded s url := by
    unfold Session.recordLoaded
    split
    · exact ⟨_, _, _, rfl⟩
    · exact ⟨_, _, _, rfl⟩

/-! ## What imports cannot tell apart -/

def Cache.unmoded (c : Cache K) : Cache K := { c with awaits := false }

/-- A relation of sessions that imports cannot tell apart: their caches are the same but for their kind, and
what an import does to both of them keeps it. -/
structure ImportBlind (R : Session K → Session K → Prop) : Prop where
  caches : ∀ {s s'}, R s s' → s.cache.unmoded = s'.cache.unmoded
  emit : ∀ {s s'} (e : Event), R s s' → R (s.emit e) (s'.emit e)
  change : ∀ {s s'} {f : Cache K → Cache K}, (∀ c, (f c).unmoded = f c.unmoded) → R s s' →
    R { s with cache := f s.cache } { s' with cache := f s'.cache }
  loaded : ∀ {s s'} (url : String), R s s' → R (s.recordLoaded url) (s'.recordLoaded url)

namespace ImportBlind

variable {R : Session K → Session K → Prop} (blind : ImportBlind R)
include blind

theorem eq {β : Type} {s s' : Session K} (states : R s s') (f : Cache K → β)
    (unmoded : ∀ c, f c.unmoded = f c) : f s.cache = f s'.cache := by
  rw [← unmoded s.cache, ← unmoded s'.cache, blind.caches states]

theorem firstAnswer (reference : String) (base : Option String) (rs : List Resolver) :
    Steps.Match R Eq (Import.firstAnswer reference base rs : ImportSteps K _)
      (Import.firstAnswer reference base rs) := by
  induction rs with
  | nil => exact .pure rfl
  | cons r rest ih =>
    have asked : Steps.Match R Eq (Import.ask r reference base : ImportSteps K _)
        (Import.ask r reference base) := by
      unfold Import.ask
      split
      · exact .fail _
      · exact .perform (ImportCall.resolve r.importer reference (Import.baseFor r base))
    refine .bind asked.attemptSame fun answer => ?_
    split
    · exact .fail _
    · exact .fail _
    · exact .bind (.modify fun _ _ states => blind.emit _ states) fun _ => ih
    · exact .fail _
    · exact .pure rfl

theorem settleFault (reference : String) (base : Option String) (f : Fault) {s s' : Session K}
    (states : R s s') :
    R (Import.settleFault reference base f s) (Import.settleFault reference base f s') := by
  unfold Import.settleFault
  cases f with
  | failure g =>
    dsimp only
    split
    · exact blind.change (f := (·.settle reference base (.ambiguous g))) (fun _ => rfl) states
    · exact states
  | _ => exact states

theorem resolveNew (reference : String) (base : Option String) :
    Steps.Match R Eq (Import.resolveNew reference base : ImportSteps K _)
      (Import.resolveNew reference base) := by
  refine .get fun s s' states => ?_
  rw [blind.eq states (·.relative? base) fun _ => rfl, blind.eq states (·.resolvers) fun _ => rfl]
  have asked := blind.firstAnswer reference base
    ((s'.cache.relative? base).toList ++ s'.cache.resolvers)
  refine .bind (asked.mapFault (Fault.leaving "generator")).attemptSame fun answer => ?_
  split
  · exact .bind (.modify fun _ _ states => blind.settleFault reference base _ states) fun _ => .fail _
  · refine .bind (.modify fun _ _ states => ?_) fun _ => .fail _
    have settled := blind.change (f := (·.settle reference base .missing)) (fun _ => rfl) states
    exact blind.emit _ settled
  · rename_i r source
    refine .get fun t t' states => ?_
    rw [blind.eq states (fun c => (c.record reference base r source).1) fun _ => rfl]
    refine .bind (.modify fun _ _ states => ?_) fun _ => .pure rfl
    have recorded := blind.change (f := fun c => (c.record reference base r source).2)
      (fun _ => rfl) states
    exact blind.emit _ recorded

theorem resolve (reference : String) (base : Option String) :
    Steps.Match R Eq (Import.resolve reference base : ImportSteps K _)
      (Import.resolve reference base) := by
  refine .get fun s s' states => ?_
  rw [blind.eq states (·.verdicts) fun _ => rfl]
  split
  · exact .pure rfl
  · exact .fail _
  · exact .fail _
  · exact blind.resolveNew reference base

theorem parse (l : Loaded) :
    Steps.Match R Eq (Import.parse l : ImportSteps K _) (Import.parse l) := by
  refine .bind (.get fun s s' states => ?_) fun _ => .pure rfl
  rw [blind.eq states (·.parsed) fun _ => rfl]
  split
  · exact .pure rfl
  · have asked : Steps.Match R Eq _ _ := .perform (ε := Fault) (ρ := ImportCall.Reply K)
      (ImportCall.parse l.source.contents l.source.dialect l.source.url)
    refine .bind (asked.mapFault (Import.parseFault l.source.url)) fun sheet =>
      .bind (.modify fun _ _ states => ?_) fun _ => .pure rfl
    exact blind.change (f := fun c => { c with parsed := Table.set l.source.url sheet c.parsed })
      (fun _ => rfl) states

theorem load (reference : String) (base : Option String) :
    Steps.Match R Eq (Import.load reference base : ImportSteps K _) (Import.load reference base) := by
  refine .bind (.bind (blind.resolve reference base) blind.parse) fun imported => ?_
  exact .bind (.modify fun _ _ states => blind.loaded imported.url states) fun _ => .pure rfl

end ImportBlind

namespace Compile

/-- How the calls of a run are answered. -/
def hostFor (job : Job K) (importers : Importers K) :
    Host (Session K) Fault (CompileCall K) CompileCall.Reply :=
  match job.toolchain.1 with
  | .ok t => host t importers
  | .error f => fun _ s => (.fault f, s)

/-- How the calls of a run are settled. -/
def settled (job : Job K) (importers : Importers K) :
    Settled (Session K) Fault (CompileCall K) CompileCall.Reply :=
  match job.mode with
  | .direct => (hostFor job importers).refusing (refusal job)
  | .awaiting => (hostFor job importers).awaited

theorem run_eq_exec (job : Job K) (importers : Importers K) (s : Session K) :
    run job importers s = (steps job).exec (settled job importers) s := by
  unfold run settled
  cases job.mode with
  | direct => exact Run.direct_eq_follow _ _ _
  | awaiting => exact Run.awaiting_eq_follow _ _

theorem follow_liftRun (h : Settled (Session K) Fault (CompileCall K) CompileCall.Reply)
    (r : Run (Session K) Fault ImportCall (ImportCall.Reply K) α) :
    (liftRun r).follow h = r.follow fun c s => h (.load c) s := by
  induction r with
  | done outcome s => rfl
  | call c s resume ih => exact ih _ _

theorem trace_liftRun {τ : Type} (h : Settled (Session K) Fault (CompileCall K) CompileCall.Reply)
    (note : CompileCall K → Session K → List τ)
    (r : Run (Session K) Fault ImportCall (ImportCall.Reply K) α) :
    (liftRun r).trace h note = r.trace (fun c s => h (.load c) s) fun c s => note (.load c) s := by
  induction r with
  | done outcome s => rfl
  | call c s resume ih =>
    rw [liftRun, Run.trace, Run.trace, ih]

theorem exec_lift (t : Toolchain K) (importers : Importers K) (mode : Mode) (m : ImportSteps K α)
    (s : Session K) :
    (lift m).exec (match mode with
      | .direct => (host t importers).refusing (CompileCall.refuse t.methods)
      | .awaiting => (host t importers).awaited) s =
      m.exec ((t.collaborators importers).settled mode) s := by
  cases mode with
  | direct => exact follow_liftRun _ _
  | awaiting => exact follow_liftRun _ _

/-- The calls of importers and of the parser that one call of a run amounts to: an evaluator that would
answer later is never started where only direct answers are taken. -/
def inner (t : Toolchain K) (importers : Importers K) (mode : Mode) :
    CompileCall K → Session K → List ImportCall
  | .load c, _ => [c]
  | .evaluate sheet, s =>
    let script := t.evaluate sheet s.context.functions
    match t.evaluation, mode with
    | .plain, _ => script.calls (t.collaborators importers) .direct s
    | .awaitable, .awaiting => script.calls (t.collaborators importers) .awaiting s
    | .disguised, .awaiting => script.calls (t.collaborators importers) .direct s
    | _, .direct => []
  | .render _ _, _ => []

/-- All calls of importers and of the parser in a run, in order. -/
def calls (job : Job K) (importers : Importers K) (s : Session K) : List ImportCall :=
  match job.toolchain.1 with
  | .ok t => (steps job s).trace (settled job importers) (inner t importers job.mode)
  | .error _ => []

end Compile

end StyleBuild
