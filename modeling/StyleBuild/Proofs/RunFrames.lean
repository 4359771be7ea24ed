import StyleBuild.Proofs.Calls

/-!
# What a run leaves alone

Beside its calls a run tells events, records spans, logs messages and keeps its books; the outer world
changes in no other way. So a relation of worlds that the telling does not concern holds between the
worlds before and after a whole run as soon as each call of a collaborator keeps it.
-/

set_option autoImplicit false

namespace StyleBuild

variable {K : Kit} {α : Type}

/-! ## Events of the library -/

def Event.isFailed : Event → Bool
  | failed _ _ _ _ => true
  | _ => false

theorem Lookup.answer_silent {announce : String → List Event}
    (others : ∀ url, (announce url).filter Event.isFailed = []) (files : FileTree)
    (p : Except Fault (Option Path)) (reference : String) (base : Option String) :
    (answer files p reference base announce).2.filter Event.isFailed = [] := by
  unfold answer
  split
  · rfl
  · rfl
  · split
    · rfl
    · rfl
    · next q _ =>
      show (load files q announce).2.filter Event.isFailed = []
      unfold load
      split
      · rfl
      · exact others _

theorem Packages.answer_silent (files : FileTree) (directory : Directories) (reference : String)
    (base : Option String) :
    (answer files directory reference base).2.filter Event.isFailed = [] := by
  unfold answer
  split
  · rfl
  · split
    · dsimp only
      split
      · rfl
      · rfl
      · exact Lookup.answer_silent (fun _ => rfl) _ _ _ _
    · split
      · split
        · exact Lookup.answer_silent (fun _ => rfl) _ _ _ _
        · rfl
      · rfl

theorem EntryPoint.firstUsable_silent (name : Value) (es : List (EntryPoint K)) :
    (firstUsable name es).2.filter Event.isFailed = [] := by
  induction es with
  | nil => rfl
  | cons e rest ih =>
    unfold firstUsable
    split
    · rfl
    · exact ih

theorem Assemble.result_silent (css : String) (builder : Builder) (style : Style)
    (charset sourceMap : Bool) (loaded : List String) :
    (result css builder style charset sourceMap loaded).2.filter Event.isFailed = [] := by
  unfold result mapFor
  dsimp only
  split
  · rfl
  · split
    · rfl
    · rfl

/-! ## Frames of the world -/

/-- A relation of worlds before and after, which events that report no failure, spans and messages do not
concern. -/
structure World.Frame (V : World K → World K → Prop) : Prop where
  refl : ∀ w, V w w
  trans : ∀ {w v u}, V w v → V v u → V w u
  told : ∀ {es : List Event} (w), es.filter Event.isFailed = [] → V w (w.emitAll es)
  spans : ∀ w spans, V w { w with spans := spans }
  log : ∀ w log, V w { w with log := log }

/-- A session has its world moved only as the relation allows. -/
def Session.Within (V : World K → World K → Prop) (s t : Session K) : Prop := V s.world t.world

/-- An action of a collaborator that keeps a relation, whether it is awaited or not. -/
def Answer.Within {ρ : Type} (V : World K → World K → Prop)
    (act : World K → Answer (World K) Fault ρ × World K) : Prop :=
  ∀ w e, V w (refused e (act w)).2 ∧ V w (awaited (act w)).2

/-- The importers, the parser and the serializer keep a relation of worlds. -/
structure Toolchain.Within (V : World K → World K → Prop) (t : Toolchain K)
    (importers : Importers K) : Prop where
  importer : ∀ handle reference base, Answer.Within V (importers handle reference base)
  parse : ∀ contents dialect url, Answer.Within V (t.parse contents dialect url)
  render : ∀ tree style, Answer.Within V (t.render tree style)

variable {V : World K → World K → Prop}

namespace World.Frame

variable (frame : World.Frame V)
include frame

theorem sessions : Steps.Frame (Session.Within V) where
  refl s := frame.refl s.world
  trans first second := frame.trans first second

theorem emit {e : Event} (other : e.isFailed = false) (s : Session K) :
    Session.Within V s (s.emit e) := by
  have others : [e].filter Event.isFailed = [] := by simp [other]
  exact frame.told s.world others

theorem failSpan (f : Fault) (s : Session K) :
    Session.Within V s { s with world := s.world.failSpan f } := by
  unfold Session.Within World.failSpan
  split
  · exact frame.spans _ _
  · exact frame.refl _

theorem recordLoaded (s : Session K) (url : String) : Session.Within V s (s.recordLoaded url) := by
  unfold Session.Within Session.recordLoaded
  split
  · exact frame.refl _
  · exact frame.refl _

theorem report (w : World K) (d : Diagnostic) : V w (w.report d) := frame.log w _

theorem notice (s : Session K) (kind message : String) (span : Option Span) :
    Session.Within V s (s.notice kind message span).2 := by
  have counted : ((s.throttle.record kind).event? kind).toList.filter Event.isFailed = [] := by
    unfold Throttle.event?
    split
    · rfl
    · rfl
  have emitted := frame.told s.world counted
  simp only [Session.notice]
  split
  · exact frame.trans emitted (frame.report _ _)
  · exact emitted

theorem warn (s : Session K) (message : String) (deprecation : Option String) (span : Option Span)
    (origin : Option String) : Session.Within V s (s.warn message deprecation span origin) := by
  simp only [Session.warn]
  split
  · exact frame.emit (e := .warningSuppressed _ deprecation) rfl s
  · split
    · exact frame.notice s _ message span
    · exact frame.report _ _

theorem debug (s : Session K) (message : String) (span : Option Span) :
    Session.Within V s (s.debug message span) := frame.report s.world _

end World.Frame

/-! ## Calls of collaborators -/

namespace Collaborators

variable {t : Toolchain K} {importers : Importers K}

theorem library_within (frame : World.Frame V) {o : Lookup.Outcome}
    (others : o.2.filter Event.isFailed = []) (s : Session K) (e : Fault) :
    Session.Within V s (Answer.refused e (library s o)).2 ∧
      Session.Within V s (Answer.awaited (library s o)).2 := by
  have emitted := frame.told s.world others
  unfold library
  rw [Answer.refused_ofExcept, Answer.awaited_ofExcept]
  exact ⟨emitted, emitted⟩

theorem onSession_within {ρ : Type} {act : World K → Answer (World K) Fault ρ × World K}
    (within : Answer.Within V act) (s : Session K) (e : Fault) :
    Session.Within V s (Answer.refused e (Answer.onSession s (act s.world))).2 ∧
      Session.Within V s (Answer.awaited (Answer.onSession s (act s.world))).2 := by
  rw [Answer.refused_onSession, Answer.awaited_onSession]
  exact within s.world e

theorem importHost_within (frame : World.Frame V) (within : t.Within V importers) (c : ImportCall)
    (s : Session K) (e : Fault) :
    Session.Within V s (Answer.refused e ((t.collaborators importers).importHost c s)).2 ∧
      Session.Within V s (Answer.awaited ((t.collaborators importers).importHost c s)).2 := by
  rcases c with ⟨root | config | config | handle | v, reference, base⟩ | ⟨contents, dialect, url⟩
  · exact library_within frame (Lookup.answer_silent (fun _ => rfl) _ _ _ _) s e
  · exact library_within frame (Packages.answer_silent _ _ _ _) s e
  · exact library_within frame (Packages.answer_silent _ _ _ _) s e
  · exact onSession_within (within.importer handle reference base) s e
  · exact ⟨frame.refl _, frame.refl _⟩
  · exact onSession_within (within.parse contents dialect url) s e

theorem settled_within (frame : World.Frame V) (within : t.Within V importers) (mode : Mode)
    (c : ImportCall) (s : Session K) :
    Session.Within V s ((t.collaborators importers).settled mode c s).2 := by
  cases mode with
  | direct => exact (importHost_within frame within c s (c.refuse t.methods.parse)).1
  | awaiting => exact (importHost_within frame within c s (c.refuse t.methods.parse)).2

end Collaborators

theorem World.Frame.imports (frame : World.Frame V)
    {h : Settled (Session K) Fault ImportCall (ImportCall.Reply K)}
    (calls : ∀ c s, Session.Within V s (h c s).2) : ImportFrame h (Session.Within V) where
  toFrame := frame.sessions
  call := calls
  cache s _ := frame.refl s.world
  loaded := frame.recordLoaded
  declined s _ _ := frame.emit rfl s
  missing s _ _ := frame.emit rfl s
  resolved s _ _ _ _ _ := frame.emit rfl s

/-- The conversation of an evaluator, by induction on its script. -/
theorem Script.run_within (frame : World.Frame V) {t : Toolchain K} {importers : Importers K}
    (within : t.Within V importers) (mode : Mode) (script : Script K) (s : Session K) :
    Session.Within V s (script.run (t.collaborators importers) mode s).2 := by
  induction script generalizing s with
  | finish tree => exact frame.refl _
  | fail f => exact frame.refl _
  | load reference base next ih =>
    have imports := frame.imports (Collaborators.settled_within frame within mode)
    have loaded := imports.closed.load reference base s
    rw [← Collaborators.drive_eq_exec] at loaded
    exact frame.sessions.trans loaded (ih _ _)
  | warn message deprecation span origin next ih =>
    exact frame.sessions.trans (frame.warn s message deprecation span origin) (ih _)
  | debug message span next ih => exact frame.sessions.trans (frame.debug s message span) (ih _)
  | isDependency url next ih => exact ih _ _

/-! ## Stage by stage -/

namespace Compile

variable {job : Job K} {importers : Importers K}
variable {h : Settled (Session K) Fault (CompileCall K) CompileCall.Reply}

theorem host_within (frame : World.Frame V) {t : Toolchain K} (within : t.Within V importers)
    (c : CompileCall K) (s : Session K) (e : Fault) :
    Session.Within V s (Answer.refused e (host t importers c s)).2 ∧
      Session.Within V s (Answer.awaited (host t importers c s)).2 := by
  cases c with
  | load c => exact Collaborators.importHost_within frame within c s e
  | render tree style => exact Collaborators.onSession_within (within.render tree style) s e
  | evaluate sheet =>
    -- An evaluator that would answer later has done nothing yet when it is refused.
    have walked (mode : Mode) :=
      Script.run_within frame within mode (t.evaluate sheet s.context.functions) s
    unfold host
    cases t.evaluation with
    | plain =>
      simp only [Answer.refused_ofExcept, Answer.awaited_ofExcept]
      exact ⟨walked .direct, walked .direct⟩
    | awaitable => exact ⟨frame.refl _, walked .awaiting⟩
    | disguised => exact ⟨frame.refl _, walked .direct⟩

theorem settled_within (frame : World.Frame V)
    (within : ∀ t, job.toolchain.1 = .ok t → t.Within V importers) (c : CompileCall K)
    (s : Session K) : Session.Within V s (settled job importers c s).2 := by
  unfold settled hostFor refusal
  generalize job.toolchain.1 = found at within
  cases found with
  | error f =>
    cases job.mode with
    | direct => exact frame.refl _
    | awaiting => exact frame.refl _
  | ok t =>
    cases job.mode with
    | direct => exact (host_within frame (within t rfl) c s (c.refuse t.methods)).1
    | awaiting => exact (host_within frame (within t rfl) c s (c.refuse t.methods)).2

theorem within_inStage (frame : World.Frame V) (run : RunLabel) (stage : Stage)
    (attributes : List (String × String)) {body : CompileSteps K α}
    (moves : body.Moves h (Session.Within V)) :
    (inStage run stage attributes body).Moves h (Session.Within V) := by
  have told {e : Event} (other : e.isFailed = false) :
      (emit e : CompileSteps K Unit).Moves h (Session.Within V) :=
    .modify fun s => frame.emit other s
  refine .bind frame.sessions (told rfl) fun _ => ?_
  refine .bind frame.sessions (.modify fun s => frame.spans s.world _) fun _ => ?_
  refine .bind frame.sessions moves.attempt fun outcome => ?_
  split
  · exact .bind frame.sessions (told rfl) fun _ => .pure frame.sessions _
  · exact .bind frame.sessions (.modify fun s => frame.failSpan _ s) fun _ => .fail frame.sessions _

theorem within_lift {m : ImportSteps K α}
    (moves : m.Moves (fun c => h (.load c)) (Session.Within V)) :
    (lift m).Moves h (Session.Within V) := by
  intro s
  have moved := moves s
  rwa [Steps.exec, ← follow_liftRun h (m s)] at moved

theorem within_start (frame : World.Frame V)
    (others : job.toolchain.2.filter Event.isFailed = []) :
    (start job).Moves h (Session.Within V) := by
  refine .bind frame.sessions (.modify fun s => frame.told s.world others) fun _ => ?_
  refine .bind frame.sessions (.ofExcept frame.sessions _) fun t => ?_
  split
  · exact .fail frame.sessions _
  · refine .get fun s => .bind frame.sessions (.ofExcept frame.sessions _) fun cache => ?_
    refine .bind frame.sessions (.modify fun s => frame.refl s.world) fun _ => ?_
    exact .pure frame.sessions _

theorem within_entry (frame : World.Frame V) (calls : ∀ c s, Session.Within V s (h c s).2)
    (r : Request) : (entry r).Moves h (Session.Within V) := by
  have imports := frame.imports fun c s => calls (.load c) s
  unfold entry
  split
  · exact within_lift (imports.closed.load _ _)
  · refine .bind frame.sessions (.ofExcept frame.sessions _) fun dialect => .get fun s => ?_
    refine .bind frame.sessions (.modify fun s => frame.refl s.world) fun _ => ?_
    have parsed (l : Loaded) : (lift (Import.parse l)).Moves h (Session.Within V) :=
      within_lift (imports.closed.parse l)
    split
    · exact .bind frame.sessions (.modify fun s => frame.recordLoaded s _) fun _ => parsed _
    · exact parsed _

theorem within_assemble (frame : World.Frame V) (calls : ∀ c s, Session.Within V s (h c s).2)
    (r : Request) (tree : K.Tree) : (assemble r tree).Moves h (Session.Within V) := by
  refine .bind frame.sessions (.mapFault _ (.perform (calls _))) fun rendered => .get fun s => ?_
  have others := Assemble.result_silent rendered.1 rendered.2 r.style r.charset r.sourceMap
    s.context.loaded
  refine .bind frame.sessions (.modify fun s => frame.told s.world others) fun _ => ?_
  exact .ofExcept frame.sessions _

theorem within_stages (frame : World.Frame V) (calls : ∀ c s, Session.Within V s (h c s).2)
    (others : job.toolchain.2.filter Event.isFailed = []) (run : RunLabel) :
    (stages job run).Moves h (Session.Within V) := by
  refine .bind frame.sessions (within_inStage frame _ _ _ (within_start frame others)) fun t => ?_
  refine .bind frame.sessions ?_ fun e => ?_
  · exact within_inStage frame _ _ _ (.mapFault _ (within_entry frame calls _))
  refine .bind frame.sessions ?_ fun tree => ?_
  · exact within_inStage frame _ _ _ (.mapFault _ (.perform (calls _)))
  exact within_inStage frame _ _ _ (within_assemble frame calls _ _)

/-- A whole run keeps a relation of worlds that reports of failures do not concern either. -/
theorem run_within (frame : World.Frame V)
    (failed : ∀ w run stage code message, V w (w.emit (.failed run stage code message)))
    (within : ∀ t, job.toolchain.1 = .ok t → t.Within V importers)
    (others : job.toolchain.2.filter Event.isFailed = []) (s : Session K) :
    Session.Within V s (run job importers s).2 := by
  have calls := settled_within frame within
  have announced (f : Fault) : (announce ⟨job.request.entryLabel, job.mode⟩ f :
      CompileSteps K Result).Moves (settled job importers) (Session.Within V) := by
    unfold announce
    split
    · refine .bind frame.sessions (.modify fun s => ?_) fun _ => .fail frame.sessions _
      exact failed s.world _ _ _ _
    · exact .fail frame.sessions _
  have told {e : Event} (other : e.isFailed = false) :
      (emit e : CompileSteps K Unit).Moves (settled job importers) (Session.Within V) :=
    .modify fun s => frame.emit other s
  have moves : (steps job).Moves (settled job importers) (Session.Within V) := by
    refine .bind frame.sessions ?_ fun result => .get fun s => ?_
    · exact .orElse frame.sessions (within_stages frame calls others _) announced
    dsimp only
    split
    · refine .bind frame.sessions (told rfl) fun _ => ?_
      exact .bind frame.sessions (told rfl) fun _ => .pure frame.sessions _
    · exact .bind frame.sessions (told rfl) fun _ => .pure frame.sessions _
  rw [run_eq_exec]
  exact moves s

end Compile

end StyleBuild
