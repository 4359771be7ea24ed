import StyleBuild.Proofs.Containment

/-!
# The course of a run

A run reports the start and the completion of each stage and at last how it has ended, and it calls the
evaluator and the serializer in between. Its story is what an observer learns from the run itself: what
it adds to the events, and these calls. Whatever its collaborators add to the events meanwhile is not part
of it, so nothing has to be assumed about them.
-/

set_option autoImplicit false

namespace StyleBuild

/-! ## What a program tells -/

/-- Someone who follows a program: what they see of its state and hear of its calls. -/
structure Observer (σ κ τ : Type) where
  seen : σ → List τ
  heard : κ → List τ

/-- An observer of programs that make only some of the calls. -/
def Observer.only {σ κ ι τ : Type} (o : Observer σ κ τ) (f : ι → κ) : Observer σ ι τ :=
  ⟨o.seen, fun c => o.heard (f c)⟩

namespace Run

variable {σ ε κ τ : Type} {ρ : κ → Type} {α β : Type}

/-- What a program adds itself to what is seen, since it was last in control, and its calls. -/
def story (o : Observer σ κ τ) (h : Settled σ ε κ ρ) (before : σ) : Run σ ε κ ρ α → List τ
  | done _ s => (o.seen s).drop (o.seen before).length
  | call c s resume =>
    (o.seen s).drop (o.seen before).length ++ o.heard c
      ++ story o h (h c s).2 (resume (h c s).1 (h c s).2)

/-- A program that takes nothing back of what is seen has this story. -/
def Tells (o : Observer σ κ τ) (h : Settled σ ε κ ρ) (before : σ) :
    Run σ ε κ ρ α → List τ → Prop
  | done _ s, told => o.seen s = o.seen before ++ told
  | call c s resume, told => ∃ now later, o.seen s = o.seen before ++ now ∧
    Tells o h (h c s).2 (resume (h c s).1 (h c s).2) later ∧ told = now ++ o.heard c ++ later

namespace Tells

variable {o : Observer σ κ τ} {h : Settled σ ε κ ρ} {before : σ} {told later : List τ}
variable {r : Run σ ε κ ρ α}

theorem story_eq (tells : Tells o h before r told) : r.story o h before = told := by
  induction r generalizing before told with
  | done outcome s =>
    have more : o.seen s = o.seen before ++ told := tells
    rw [story, more, List.drop_left]
  | call c s resume ih =>
    obtain ⟨now, later, more, next, rfl⟩ := tells
    rw [story, ih _ _ next, more, List.drop_left]

/-- What was seen to be added before belongs to the story. -/
theorem since {s : σ} {now : List τ} (more : o.seen s = o.seen before ++ now)
    (tells : Tells o h s r told) : Tells o h before r (now ++ told) := by
  cases r with
  | done outcome t =>
    have later : o.seen t = o.seen s ++ told := tells
    show o.seen t = o.seen before ++ (now ++ told)
    rw [later, more, List.append_assoc]
  | call c t resume =>
    obtain ⟨after, later, added, next, rfl⟩ := tells
    refine ⟨now ++ after, later, ?_, next, by simp only [List.append_assoc]⟩
    rw [added, more, List.append_assoc]

theorem bind {f : α → σ → Run σ ε κ ρ β} (tells : Tells o h before r told)
    (next : ∀ a t, r.follow h = (.ok a, t) → Tells o h t (f a t) later)
    (failed : ∀ e t, r.follow h = (.error e, t) → later = []) :
    Tells o h before (r.bind f) (told ++ later) := by
  induction r generalizing before told with
  | done outcome s =>
    cases outcome with
    | ok a => exact (next a s rfl).since tells
    | error e =>
      rw [failed e s rfl, List.append_nil]
      exact tells
  | call c s resume ih =>
    obtain ⟨now, rest, more, after, rfl⟩ := tells
    refine ⟨now, rest ++ later, more, ih _ _ after next failed, ?_⟩
    rw [List.append_assoc _ rest]

theorem handle {f : ε → σ → Run σ ε κ ρ α} (tells : Tells o h before r told)
    (next : ∀ e t, r.follow h = (.error e, t) → Tells o h t (f e t) later)
    (passed : ∀ a t, r.follow h = (.ok a, t) → later = []) :
    Tells o h before (r.handle f) (told ++ later) := by
  induction r generalizing before told with
  | done outcome s =>
    cases outcome with
    | error e => exact (next e s rfl).since tells
    | ok a =>
      rw [passed a s rfl, List.append_nil]
      exact tells
  | call c s resume ih =>
    obtain ⟨now, rest, more, after, rfl⟩ := tells
    refine ⟨now, rest ++ later, more, ih _ _ after next passed, ?_⟩
    rw [List.append_assoc _ rest]

/-- Where the hosts leave what is seen alone, it grows by what a program has told without its calls. -/
theorem seen_follow {keep : τ → Bool} (keeps : ∀ s, (o.seen s).filter keep = o.seen s)
    (unheard : ∀ c, (o.heard c).filter keep = []) (hosts : ∀ c s, o.seen (h c s).2 = o.seen s)
    (tells : Tells o h before r told) :
    o.seen (r.follow h).2 = o.seen before ++ told.filter keep := by
  induction r generalizing before told with
  | done outcome s =>
    have more : o.seen s = o.seen before ++ told := tells
    have kept := keeps s
    rw [more, List.filter_append, keeps before, List.append_cancel_left_eq] at kept
    rw [follow, more, kept]
  | call c s resume ih =>
    obtain ⟨now, later, more, next, rfl⟩ := tells
    have kept := keeps s
    rw [more, List.filter_append, keeps before, List.append_cancel_left_eq] at kept
    rw [follow, ih _ _ next, hosts, more, List.filter_append, List.filter_append, kept, unheard,
      List.append_nil, List.append_assoc]

end Tells

end Run

namespace Steps

variable {σ ε κ τ : Type} {ρ : κ → Type} {α β : Type}

def story (o : Observer σ κ τ) (h : Settled σ ε κ ρ) (m : Steps σ ε κ ρ α) (s : σ) : List τ :=
  (m s).story o h s

def Tells (o : Observer σ κ τ) (h : Settled σ ε κ ρ) (m : Steps σ ε κ ρ α) (s : σ)
    (told : List τ) : Prop :=
  (m s).Tells o h s told

variable {o : Observer σ κ τ} {h : Settled σ ε κ ρ} {m : Steps σ ε κ ρ α} {s : σ}
variable {told later : List τ}

theorem Tells.ofExcept (r : Except ε α) : (Steps.ofExcept r : Steps σ ε κ ρ α).Tells o h s [] :=
  (List.append_nil _).symm

theorem Tells.modify {f : σ → σ} (more : o.seen (f s) = o.seen s ++ told) :
    (Steps.modify f : Steps σ ε κ ρ Unit).Tells o h s told := more

theorem Tells.perform (c : κ) : (Steps.perform c : Steps σ ε κ ρ (ρ c)).Tells o h s (o.heard c) := by
  refine ⟨[], [], (List.append_nil _).symm, (List.append_nil _).symm, ?_⟩
  rw [List.nil_append, List.append_nil]

theorem Tells.bind {f : α → Steps σ ε κ ρ β} (tells : m.Tells o h s told)
    (next : ∀ a t, m.exec h s = (.ok a, t) → (f a).Tells o h t later)
    (failed : ∀ e t, m.exec h s = (.error e, t) → later = []) :
    (m >>= f).Tells o h s (told ++ later) :=
  Run.Tells.bind tells next failed

theorem Tells.andThen {f : α → Steps σ ε κ ρ β} {a : α} {t : σ} (tells : m.Tells o h s told)
    (ran : m.exec h s = (.ok a, t)) (next : (f a).Tells o h t later) :
    (m >>= f).Tells o h s (told ++ later) := by
  refine tells.bind (fun a' t' ran' => ?_) (fun e t' ran' => ?_)
  · rw [ran] at ran'
    cases ran'
    exact next
  · rw [ran] at ran'
    cases ran'

theorem Tells.failing {f : α → Steps σ ε κ ρ β} {e : ε} {t : σ} (tells : m.Tells o h s told)
    (ran : m.exec h s = (.error e, t)) : (m >>= f).Tells o h s told := by
  have all : (m >>= f).Tells o h s (told ++ []) := by
    refine tells.bind (fun a' t' ran' => ?_) (fun _ _ _ => rfl)
    rw [ran] at ran'
    cases ran'
  rwa [List.append_nil] at all

theorem Tells.mapFault (f : ε → ε) (tells : m.Tells o h s told) : (m.mapFault f).Tells o h s told := by
  have all : (m.mapFault f).Tells o h s (told ++ []) :=
    Run.Tells.handle tells (fun _ _ _ => (List.append_nil _).symm) (fun _ _ _ => rfl)
  rwa [List.append_nil] at all

theorem Tells.attempt (tells : m.Tells o h s told) : m.attempt.Tells o h s told := by
  have inner : Run.Tells o h s ((m s).bind fun a t =>
      .done (.ok (Except.ok a : Except ε α)) t) (told ++ []) :=
    Run.Tells.bind tells (fun _ _ _ => (List.append_nil _).symm) (fun _ _ _ => rfl)
  have all : m.attempt.Tells o h s (told ++ [] ++ []) :=
    Run.Tells.handle inner (fun _ _ _ => (List.append_nil _).symm) (fun _ _ _ => rfl)
  rwa [List.append_nil, List.append_nil] at all

/-- Steps that tell nothing, wherever they start. -/
def Mute (o : Observer σ κ τ) (h : Settled σ ε κ ρ) (m : Steps σ ε κ ρ α) : Prop :=
  ∀ s, m.Tells o h s []

theorem Mute.closed (o : Observer σ κ τ) (h : Settled σ ε κ ρ) :
    Closed fun α (m : Steps σ ε κ ρ α) => m.Mute o h where
  ofExcept r _ := .ofExcept r
  get s := .ofExcept (o := o) (h := h) (s := s) (.ok s)
  bind first next s := (first s).bind (fun a t _ => next a t) (fun _ _ _ => rfl)
  mapFault f mute s := (mute s).mapFault f
  attempt mute s := (mute s).attempt

end Steps

/-! ## What a run tells -/

/-- The events of a run itself, which carry its label. -/
def Event.isRun : Event → Bool
  | stageStart _ _ | stageComplete _ _ | failed _ _ _ _ | omitted _ _ | complete _ _ _ => true
  | _ => false

namespace Compile

/-- A mark that a run leaves: an event of its own, or a call of the evaluator or the serializer. -/
inductive Mark where
  | event (e : Event)
  | evaluate
  | render
  deriving DecidableEq

def Mark.isEvent : Mark → Bool
  | event _ => true
  | _ => false

variable {K : Kit} {α β : Type}

def observer : Observer (Session K) (CompileCall K) Mark where
  seen s := (s.world.events.filter Event.isRun).map .event
  heard
    | .load _ => []
    | .evaluate _ => [.evaluate]
    | .render _ _ => [.render]

variable {h : Settled (Session K) Fault (CompileCall K) CompileCall.Reply} {s : Session K}
variable {run : RunLabel} {job : Job K}

theorem seen_emitAll (s : Session K) (es : List Event) :
    observer.seen { s with world := s.world.emitAll es } =
      observer.seen s ++ (es.filter Event.isRun).map .event := by
  simp [observer, World.emitAll]

theorem seen_emit (s : Session K) {e : Event} (own : e.isRun = true) :
    observer.seen (s.emit e) = observer.seen s ++ [.event e] := by
  refine (seen_emitAll s [e]).trans ?_
  simp [own]

theorem tells_emit (s : Session K) {e : Event} (own : e.isRun = true) :
    (emit e : CompileSteps K Unit).Tells observer h s [.event e] := .modify (seen_emit s own)

theorem seen_of_silent (s : Session K) (es : List Event) (silent : es.filter Event.isRun = []) :
    observer.seen { s with world := s.world.emitAll es } = observer.seen s ++ [] := by
  rw [seen_emitAll, silent]
  rfl

theorem seen_eq {s t : Session K} (same : t.world.events = s.world.events) :
    observer.seen t = observer.seen s ++ [] := by
  simp [observer, same]

theorem seen_recordLoaded (s : Session K) (url : String) :
    observer.seen (s.recordLoaded url) = observer.seen s ++ [] := by
  refine seen_eq ?_
  unfold Session.recordLoaded
  split
  · rfl
  · rfl

theorem import_mute : ImportClosed fun α (m : ImportSteps K α) =>
    m.Mute (observer.only CompileCall.load) fun c => h (.load c) where
  toClosed := Steps.Mute.closed _ _
  call c _ := .perform c
  declined label reference s := .modify (seen_of_silent s [.declined label reference] rfl)
  keeps {f} kept s := by
    refine .modify ?_
    have keeps := kept s
    generalize f s = t at keeps ⊢
    cases keeps with
    | cache c => exact seen_eq rfl
    | loaded url => exact seen_recordLoaded s url
    | missing c reference base =>
      exact seen_of_silent { s with cache := c } [.importMissing reference base] rfl
    | resolved c reference base url kind label =>
      exact seen_of_silent { s with cache := c } [.importResolved reference base url kind label] rfl

theorem tells_liftRun {r : Run (Session K) Fault ImportCall (ImportCall.Reply K) α} {told : List Mark}
    (tells : r.Tells (observer.only CompileCall.load) (fun c => h (.load c)) s told) :
    (liftRun r).Tells observer h s told := by
  induction r generalizing s told with
  | done outcome t => exact tells
  | call c t resume ih =>
    obtain ⟨now, later, more, next, rfl⟩ := tells
    exact ⟨now, later, more, ih _ _ next, rfl⟩

theorem mute_lift {m : ImportSteps K α}
    (mute : m.Mute (observer.only CompileCall.load) fun c => h (.load c)) :
    (lift m).Mute observer h :=
  fun s => tells_liftRun (mute s)

/-! ## The parts of stages -/

theorem mute_modify {f : Session K → Session K}
    (same : ∀ s, observer.seen (f s) = observer.seen s ++ []) :
    (Steps.modify f : CompileSteps K Unit).Mute observer h :=
  fun s => .modify (same s)

theorem EntryPoint.firstUsable_unmarked (name : Value) (es : List (EntryPoint K)) :
    (EntryPoint.firstUsable name es).2.filter Event.isRun = [] := by
  induction es with
  | nil => rfl
  | cons e rest ih =>
    unfold EntryPoint.firstUsable
    split
    · rfl
    · exact ih

theorem unmarked_of_equipped (equipped : job.Equipped) : job.toolchain.2.filter Event.isRun = [] := by
  obtain ⟨t, given⟩ | ⟨name, es, found⟩ := equipped
  · rw [given]
    rfl
  · rw [found]
    exact EntryPoint.firstUsable_unmarked _ _

theorem mute_start (equipped : job.Equipped) : (start job).Mute observer h := by
  have closed := Steps.Mute.closed (observer (K := K)) h
  refine closed.bind (mute_modify fun s => seen_of_silent s _ (unmarked_of_equipped equipped)) fun _ => ?_
  refine closed.bind (closed.ofExcept _) fun t => ?_
  split
  · exact closed.fail _
  · refine closed.getThen fun s => closed.bind (closed.ofExcept _) fun cache => ?_
    exact closed.bind (mute_modify fun s => seen_eq rfl) fun _ => closed.pure _

theorem mute_entry (r : Request) : (entry (K := K) r).Mute observer h := by
  have closed := Steps.Mute.closed (observer (K := K)) h
  unfold entry
  split
  · exact mute_lift (import_mute.load _ none)
  · refine closed.bind (closed.ofExcept _) fun dialect => closed.getThen fun s => ?_
    refine closed.bind (mute_modify fun s => seen_eq rfl) fun _ => ?_
    have parsed (l : Loaded) : (lift (K := K) (Import.parse l)).Mute observer h :=
      mute_lift (import_mute.parse l)
    split
    · exact closed.bind (mute_modify fun s => seen_recordLoaded s _) fun _ => parsed _
    · exact parsed _

theorem result_unmarked (css : String) (builder : Builder) (style : Style) (charset sourceMap : Bool)
    (loaded : List String) :
    (Assemble.result css builder style charset sourceMap loaded).2.filter Event.isRun = [] := by
  unfold Assemble.result Assemble.mapFor
  dsimp only
  split
  · rfl
  · split
    · rfl
    · rfl

theorem tells_assemble (r : Request) (tree : K.Tree) :
    (assemble r tree).Tells observer h s [.render] := by
  have closed := Steps.Mute.closed (observer (K := K)) h
  have rendered : (Steps.perform (CompileCall.render tree r.style)).Tells observer h s [.render] :=
    .perform _
  refine (rendered.mapFault serializerFault).bind (fun made t _ => ?_) (fun _ _ _ => rfl)
  refine closed.getThen (fun u => ?_) t
  refine closed.bind (mute_modify fun v => ?_) fun _ => closed.ofExcept _
  exact seen_of_silent v _ (result_unmarked made.1 made.2 r.style r.charset r.sourceMap u.context.loaded)

/-! ## Going through stages -/

/-- The calls that belong to a stage. -/
def work : Stage → List Mark
  | .evaluate => [.evaluate]
  | .assemble => [.render]
  | _ => []

/-- What a stage tells until it has done its work. -/
def opening (run : RunLabel) (stage : Stage) : List Mark := .event (.stageStart run stage) :: work stage

/-- What a stage tells that is completed. -/
def whole (run : RunLabel) (stage : Stage) : List Mark :=
  opening run stage ++ [.event (.stageComplete run stage)]

/-- Steps that complete some stages in order, or start one of them last and fail in it, with what is known
of their result or of the fault and its stage. -/
inductive Passes (run : RunLabel) (h : Settled (Session K) Fault (CompileCall K) CompileCall.Reply)
    (Q : Stage → Fault → Session K → Prop) (R : α → Session K → Prop) (stages : List Stage)
    (m : CompileSteps K α) (s : Session K) : Prop where
  | through {a : α} {t : Session K} (ran : m.exec h s = (.ok a, t))
    (told : m.Tells observer h s (stages.flatMap (whole run))) (known : R a t)
  | stopped {past later : List Stage} {last : Stage} {f : Fault} {t : Session K}
    (split : stages = past ++ last :: later) (ran : m.exec h s = (.error f, t))
    (told : m.Tells observer h s (past.flatMap (whole run) ++ opening run last)) (known : Q last f t)

variable {Q : Stage → Fault → Session K → Prop} {R : α → Session K → Prop}

theorem Passes.bind {R' : β → Session K → Prop} {stages stages' : List Stage} {m : CompileSteps K α}
    {f : α → CompileSteps K β} (first : Passes run h Q R stages m s)
    (next : ∀ a t, R a t → Passes run h Q R' stages' (f a) t) :
    Passes run h Q R' (stages ++ stages') (m >>= f) s := by
  cases first with
  | through ran told known =>
    rename_i a t
    have bound : (m >>= f).exec h s = (f a).exec h t := by rw [Steps.exec_bind, ran]
    cases next a t known with
    | through ran' told' known' =>
      refine .through (bound.trans ran') ?_ known'
      rw [List.flatMap_append]
      exact told.andThen ran told'
    | stopped split ran' told' known' =>
      refine .stopped (by rw [split, ← List.append_assoc]) (bound.trans ran') ?_ known'
      rw [List.flatMap_append, List.append_assoc]
      exact told.andThen ran told'
  | stopped split ran told known =>
    rename_i past later last e t
    have bound : (m >>= f).exec h s = (.error e, t) := by rw [Steps.exec_bind, ran]
    exact .stopped (by rw [split, List.append_assoc, List.cons_append]) bound (told.failing ran) known

theorem exec_inStage (run : RunLabel) (stage : Stage) (attributes : List (String × String))
    (body : CompileSteps K α) (s : Session K) :
    (inStage run stage attributes body).exec h s =
      match body.exec h (within run stage attributes s) with
      | (.ok a, t) => (.ok a, t.emit (.stageComplete run stage))
      | (.error f, t) => (.error f, { t with world := t.world.failSpan f }) := by
  show Steps.exec h (body.attempt >>= _) (within run stage attributes s) = _
  rw [Steps.exec_bind, Steps.exec_attempt]
  rcases body.exec h (within run stage attributes s) with ⟨f | a, t⟩
  · rfl
  · rfl

theorem events_failSpan (w : World K) (f : Fault) : (w.failSpan f).events = w.events := by
  unfold World.failSpan
  split
  · rfl
  · rfl

theorem tells_inStage (run : RunLabel) {stage : Stage} {attributes : List (String × String)}
    {body : CompileSteps K α} {told : List Mark}
    (tells : body.Tells observer h (within run stage attributes s) told) :
    (inStage run stage attributes body).Tells observer h s
      (.event (.stageStart run stage) :: (told ++
        match (body.exec h (within run stage attributes s)).1 with
        | .ok _ => [.event (.stageComplete run stage)]
        | .error _ => [])) := by
  have started := tells_emit (h := h) s (e := .stageStart run stage) rfl
  have spanned : (Steps.modify fun t : Session K =>
      { t with world := t.world.openSpan ("compile." ++ Text.lowerAscii stage.name)
                 (attributes.map fun a => ("sass." ++ a.1, a.2)) } : CompileSteps K Unit).Tells
        observer h (s.emit (.stageStart run stage)) [] := .modify (seen_eq rfl)
  refine started.andThen rfl (spanned.andThen rfl ?_)
  refine tells.attempt.andThen (Steps.exec_attempt h body _) ?_
  -- The completion is reported, a fault only noted in the span.
  generalize body.exec h (within run stage attributes s) = result
  rcases result with ⟨f | a, t⟩
  · exact Steps.Tells.andThen (.modify (seen_eq (events_failSpan _ _))) rfl (.ofExcept (.error f))
  · exact (tells_emit t rfl).andThen rfl (.ofExcept (.ok a))

theorem passes_inStage {attributes : List (String × String)} {stage : Stage}
    {body : CompileSteps K α} (tells : ∀ s, body.Tells observer h s (work stage))
    (completed : ∀ a t, body.exec h (within run stage attributes s) = (.ok a, t) →
      R a (t.emit (.stageComplete run stage)))
    (failed : ∀ f t, body.exec h (within run stage attributes s) = (.error f, t) →
      Q stage f { t with world := t.world.failSpan f }) :
    Passes run h Q R [stage] (inStage run stage attributes body) s := by
  have ran := exec_inStage (h := h) run stage attributes body s
  have told := tells_inStage run (tells (within run stage attributes s))
  rcases outcome : body.exec h (within run stage attributes s) with ⟨f | a, t⟩
  · rw [outcome] at ran told
    have split : [stage] = [] ++ stage :: [] := rfl
    refine .stopped split ran ?_ (failed f t outcome)
    rwa [List.append_nil] at told
  · rw [outcome] at ran told
    refine .through ran ?_ (completed a t outcome)
    rwa [List.flatMap_singleton]

/-- The stages that a run goes through. -/
def course : List Stage := [.start, .resolveEntry, .evaluate, .assemble]

theorem tells_evaluate (t : Toolchain K) (e : Imported K) (s : Session K) :
    ((Steps.perform (CompileCall.evaluate e.sheet)).mapFault (evaluatorFault t.name)).Tells observer h s
      [.evaluate] :=
  Steps.Tells.mapFault (evaluatorFault t.name) (.perform (CompileCall.evaluate e.sheet))

theorem passes_stages (equipped : job.Equipped) (s : Session K) :
    Passes (label job) h (fun _ _ _ => True) (fun _ _ => True) course (stages job (label job)) s := by
  have entered : ∀ s, ((entry job.request).mapFault retag).Tells observer h s (work .resolveEntry) :=
    fun s => (mute_entry job.request s).mapFault retag
  rw [stages_eq]
  refine Passes.bind (R := fun _ _ => True)
    (passes_inStage (fun s => mute_start equipped s) (fun _ _ _ => trivial) fun _ _ _ => trivial) ?_
  intro t u _
  refine Passes.bind (R := fun _ _ => True)
    (passes_inStage entered (fun _ _ _ => trivial) fun _ _ _ => trivial) ?_
  intro e v _
  refine Passes.bind (R := fun _ _ => True)
    (passes_inStage (tells_evaluate t e) (fun _ _ _ => trivial) fun _ _ _ => trivial) ?_
  intro tree w _
  exact passes_inStage (fun _ => tells_assemble job.request tree) (fun _ _ _ => trivial)
    fun _ _ _ => trivial

/-! ## A whole run -/

/-- The three ways in which the story of a run and its outcome fit together. -/
inductive Course (run : RunLabel) : List Mark → Except Fault Result → Prop where
  /-- All stages are completed, and the run reports so, after the notices held back if there are any. -/
  | finished {held : List Event} {result : Result} {suppressed : Nat}
    (counted : held = [] ∨ ∃ counts, held = [.omitted run counts]) :
    Course run (course.flatMap (whole run) ++ held.map .event
      ++ [.event (.complete run result.loadedUrls.length suppressed)]) (.ok result)
  /-- A failure in the stage started last is reported. -/
  | reported {past later : List Stage} {last : Stage} {g : Failure}
    (split : course = past ++ last :: later) :
    Course run (past.flatMap (whole run) ++ opening run last
      ++ [.event (.failed run g.report.stage g.report.code g.report.message)]) (.error (.failure g))
  /-- Any other fault leaves the stage started last without a report. -/
  | escaped {past later : List Stage} {last : Stage} {f : Fault}
    (split : course = past ++ last :: later) (foreign : f.isFailure = false) :
    Course run (past.flatMap (whole run) ++ opening run last) (.error f)

theorem tells_announce (f : Fault) (s : Session K) :
    (announce run f : CompileSteps K α).Tells observer h s ((announcement run f).map .event) := by
  cases f with
  | failure g => exact (tells_emit s rfl).andThen rfl (.ofExcept _)
  | _ => exact .ofExcept _

/-- What a run does once its stages are completed. -/
def closing (job : Job K) (result : Result) : CompileSteps K Result := do
  let s ← Steps.get
  if !s.throttle.omitted.isEmpty then emit (.omitted (label job) s.throttle.omitted)
  emit (.complete (label job) result.loadedUrls.length s.context.suppressed)
  pure result

theorem steps_eq (job : Job K) :
    steps job = (stages job (label job)).orElse (announce (label job)) >>= closing job := rfl

theorem tells_closing (job : Job K) (result : Result) (s : Session K) :
    ∃ held suppressed t, (held = [] ∨ ∃ counts, held = [.omitted (label job) counts]) ∧
      (closing job result).Tells observer h s (held.map .event
        ++ [.event (.complete (label job) result.loadedUrls.length suppressed)]) ∧
      (closing job result).exec h s = (.ok result, t) ∧ t.cache = s.cache := by
  let last : Event := .complete (label job) result.loadedUrls.length s.context.suppressed
  let held : Event := .omitted (label job) s.throttle.omitted
  have ended (t : Session K) : (emit last >>= fun _ => pure result : CompileSteps K Result).Tells
      observer h t [.event last] := (tells_emit t rfl).andThen rfl (.ofExcept (.ok result))
  cases none : s.throttle.omitted.isEmpty with
  | true =>
    refine ⟨[], s.context.suppressed, s.emit last, .inl rfl, ?_, ?_, rfl⟩
    · show Steps.Tells observer h (if _ then _ else _) s _
      rw [none]
      exact ended s
    · show Steps.exec h (if _ then _ else _) s = _
      rw [none]
      rfl
  | false =>
    have counted := tells_emit (h := h) s (e := held) rfl
    refine ⟨[held], s.context.suppressed, (s.emit held).emit last, .inr ⟨_, rfl⟩, ?_, ?_, rfl⟩
    · show Steps.Tells observer h (if _ then _ else _) s _
      rw [none]
      exact counted.andThen rfl (ended _)
    · show Steps.exec h (if _ then _ else _) s = _
      rw [none]
      rfl

theorem tells_steps_error {told : List Mark} {f : Fault} {t : Session K}
    (tells : (stages job (label job)).Tells observer h s told)
    (ran : (stages job (label job)).exec h s = (.error f, t)) :
    (steps job).Tells observer h s (told ++ (announcement (label job) f).map .event) := by
  have handled : ((stages job (label job)).orElse (announce (label job))).Tells observer h s
      (told ++ (announcement (label job) f).map .event) := by
    refine Run.Tells.handle tells (fun e u ended => ?_) (fun a u ended => ?_)
    · cases ran.symm.trans ended
      exact tells_announce f t
    · cases ran.symm.trans ended
  rw [steps_eq]
  exact handled.failing (exec_announced ran)

/-- A run whose stages are completed reports that, and keeps the result and the cache. -/
theorem tells_steps_ok {told : List Mark} {result : Result} {t : Session K}
    (tells : (stages job (label job)).Tells observer h s told)
    (ran : (stages job (label job)).exec h s = (.ok result, t)) :
    ∃ held suppressed u, (held = [] ∨ ∃ counts, held = [.omitted (label job) counts]) ∧
      (steps job).Tells observer h s (told ++ held.map .event
        ++ [.event (.complete (label job) result.loadedUrls.length suppressed)]) ∧
      (steps job).exec h s = (.ok result, u) ∧ u.cache = t.cache := by
  have passed : ((stages job (label job)).orElse (announce (label job))).Tells observer h s
      (told ++ []) := by
    refine Run.Tells.handle tells (fun e u ended => ?_) (fun _ _ _ => rfl)
    cases ran.symm.trans ended
  have done : ((stages job (label job)).orElse (announce (label job))).exec h s = (.ok result, t) := by
    rw [Steps.exec_orElse, ran]
  obtain ⟨held, suppressed, u, counted, closed, executed, same⟩ := tells_closing (h := h) job result t
  rw [List.append_nil] at passed
  rw [steps_eq]
  refine ⟨held, suppressed, u, counted, ?_, ?_, same⟩
  · rw [List.append_assoc]
    exact passed.andThen done closed
  · rw [Steps.exec_bind, done]
    exact executed

theorem steps_course (equipped : job.Equipped) (s : Session K) :
    ∃ told, (steps job).Tells observer h s told ∧
      Course (label job) told ((steps job).exec h s).1 := by
  cases passes_stages (h := h) equipped s with
  | stopped split ran told known =>
    rename_i past later last f t
    refine ⟨_, tells_steps_error told ran, ?_⟩
    rw [exec_steps_error ran]
    cases foreign : f.isFailure with
    | true =>
      cases f with
      | failure g => exact .reported split
      | _ => cases foreign
    | false =>
      have silent : announcement (label job) f = [] := by
        cases f with
        | failure g => cases foreign
        | _ => rfl
      rw [silent, List.map_nil, List.append_nil]
      exact .escaped split (by rw [Fault.isFailure_leaving, foreign])
  | through ran told known =>
    obtain ⟨held, suppressed, u, counted, tells, executed, -⟩ := tells_steps_ok told ran
    refine ⟨_, tells, ?_⟩
    rw [executed]
    exact .finished counted

/-! ## Calls in their places -/

/-- Wherever the second mark stands, the first one stands before it. -/
def Precedes (a b : Mark) (marks : List Mark) : Prop :=
  ∀ before after, marks = before ++ b :: after → a ∈ before

theorem precedes_append {a b : Mark} {first rest : List Mark} (here : a ∈ first) (absent : b ∉ first) :
    Precedes a b (first ++ rest) := by
  intro before after split
  obtain ⟨more, rfl, -⟩ | ⟨more, rfl, rest_eq⟩ := List.append_eq_append_iff.mp split
  · exact List.mem_append_left _ here
  · cases more with
    | nil => simpa using here
    | cons c more =>
      obtain ⟨rfl, -⟩ := List.cons.inj rest_eq
      exact absurd (List.mem_append_right before List.mem_cons_self) absent

theorem precedes_of_notMem {a b : Mark} {marks : List Mark} (absent : b ∉ marks) :
    Precedes a b marks := by
  rintro before after rfl
  exact absurd (List.mem_append_right before List.mem_cons_self) absent

/-- The evaluator and the serializer are called at most once each, and not before the stages ahead of
theirs are completed. -/
structure Ordered (run : RunLabel) (marks : List Mark) : Prop where
  evaluatesOnce : marks.count .evaluate ≤ 1
  evaluatesLate : Precedes (.event (.stageComplete run .resolveEntry)) .evaluate marks
  rendersOnce : marks.count .render ≤ 1
  rendersLate : Precedes (.event (.stageComplete run .evaluate)) .render marks

/-- A call that belongs to one stage is made as often as that stage is started. -/
theorem count_started (mark : Mark) (own : Stage) (called : mark.isEvent = false)
    (owned : ∀ stage, (work stage).count mark = [stage].count own) (past : List Stage) (last : Stage)
    (tail : List Event) :
    (past.flatMap (whole run) ++ opening run last ++ tail.map Mark.event).count mark =
      (past ++ [last]).count own := by
  have unmarked (es : List Event) : (es.map Mark.event).count mark = 0 := by
    refine List.count_eq_zero.mpr fun there => ?_
    obtain ⟨e, -, rfl⟩ := List.mem_map.mp there
    cases called
  have opened (stage : Stage) : (opening run stage).count mark = [stage].count own := by
    have split : opening run stage = [Event.stageStart run stage].map Mark.event ++ work stage := rfl
    rw [split, List.count_append, unmarked, owned, Nat.zero_add]
  have completed : (past.flatMap (whole run)).count mark = past.count own := by
    induction past with
    | nil => rfl
    | cons stage past ih =>
      have closed := unmarked [.stageComplete run stage]
      rw [List.flatMap_cons, List.count_append, ih, whole, List.count_append, opened]
      rw [List.map_singleton] at closed
      rw [closed, Nat.add_zero, ← List.count_append, List.singleton_append]
  rw [List.count_append, List.count_append, completed, opened, unmarked, List.count_append,
    Nat.add_zero]

theorem course_split {past later : List Stage} {last : Stage} (split : course = past ++ last :: later) :
    (past = [] ∧ last = .start) ∨ (past = [.start] ∧ last = .resolveEntry) ∨
      (past = [.start, .resolveEntry] ∧ last = .evaluate) ∨
      (past = [.start, .resolveEntry, .evaluate] ∧ last = .assemble) := by
  rcases past with _ | ⟨a, _ | ⟨b, _ | ⟨c, _ | ⟨d, past⟩⟩⟩⟩
  all_goals simp_all [course]

theorem ordered_of_split (run : RunLabel) {past later : List Stage} {last : Stage}
    (split : course = past ++ last :: later) (tail : List Event) :
    Ordered run (past.flatMap (whole run) ++ opening run last ++ tail.map .event) := by
  -- No stage is started more often than it occurs in the course.
  have once (own : Stage) (single : course.count own ≤ 1) : (past ++ [last]).count own ≤ 1 := by
    have started : (past ++ [last]).Sublist course := by
      rw [split]
      exact (List.Sublist.refl past).append (List.singleton_sublist.mpr List.mem_cons_self)
    exact Nat.le_trans (started.count_le own) single
  have entered : Mark.event (.stageComplete run .resolveEntry) ∈
      [Stage.start, .resolveEntry].flatMap (whole run) := by simp [whole]
  have evaluated : Mark.event (.stageComplete run .evaluate) ∈
      [Stage.start, .resolveEntry, .evaluate].flatMap (whole run) := by simp [whole]
  have uncalled : Mark.evaluate ∉ [Stage.start, .resolveEntry].flatMap (whole run) := by
    simp [whole, opening, work]
  have unrendered : Mark.render ∉ [Stage.start, .resolveEntry, .evaluate].flatMap (whole run) := by
    simp [whole, opening, work]
  refine ⟨?_, ?_, ?_, ?_⟩
  · rw [count_started .evaluate .evaluate rfl (fun stage => by cases stage <;> rfl)]
    exact once .evaluate (by decide)
  · obtain ⟨rfl, rfl⟩ | ⟨rfl, rfl⟩ | ⟨rfl, rfl⟩ | ⟨rfl, rfl⟩ := course_split split
    · exact precedes_of_notMem (by simp [opening, work])
    · exact precedes_of_notMem (by simp [whole, opening, work])
    · rw [List.append_assoc]
      exact precedes_append entered uncalled
    · show Precedes _ _ ([Stage.start, .resolveEntry].flatMap (whole run) ++
        (whole run .evaluate ++ opening run .assemble ++ tail.map .event))
      exact precedes_append entered uncalled
  · rw [count_started .render .assemble rfl (fun stage => by cases stage <;> rfl)]
    exact once .assemble (by decide)
  · obtain ⟨rfl, rfl⟩ | ⟨rfl, rfl⟩ | ⟨rfl, rfl⟩ | ⟨rfl, rfl⟩ := course_split split
    · exact precedes_of_notMem (by simp [opening, work])
    · exact precedes_of_notMem (by simp [whole, opening, work])
    · exact precedes_of_notMem (by simp [whole, opening, work])
    · rw [List.append_assoc]
      exact precedes_append evaluated unrendered

theorem Course.ordered {marks : List Mark} {outcome : Except Fault Result}
    (course : Course run marks outcome) : Ordered run marks := by
  cases course with
  | finished counted =>
    rename_i held result suppressed
    have all : Compile.course = [.start, .resolveEntry, .evaluate] ++ .assemble :: [] := rfl
    have ordered := ordered_of_split run all
      (.stageComplete run .assemble :: held ++ [.complete run result.loadedUrls.length suppressed])
    rw [List.map_append] at ordered
    exact ordered
  | reported split => exact ordered_of_split run split [_]
  | escaped split foreign =>
    have ordered := ordered_of_split run split []
    rwa [List.map_nil, List.append_nil] at ordered

/-- Whatever is compiled, with whatever collaborators and in whichever mode, a run completes all of its
stages in order and reports that it is complete, or starts one last, does the work of that stage and fails
in it; it reports this once if the fault is a failure and not at all if it is none. It calls the evaluator
and the serializer in their places, at most once each. -/
theorem run_course (job : Job K) (importers : Importers K) (s : Session K) (equipped : job.Equipped) :
    Course (label job) ((steps job).story observer (settled job importers) s)
        (Compile.run job importers s).1 ∧
      Ordered (label job) ((steps job).story observer (settled job importers) s) := by
  obtain ⟨told, tells, course⟩ := steps_course (h := settled job importers) equipped s
  have story : (steps job).story observer (settled job importers) s = told := tells.story_eq
  rw [run_eq_exec, story]
  exact ⟨course, course.ordered⟩

/-- Where the collaborators add no events of runs, the events of a run are those of its story. -/
theorem events_run (job : Job K) (importers : Importers K) (s : Session K) (equipped : job.Equipped)
    (silent : ∀ c t, observer.seen (settled job importers c t).2 = observer.seen t) :
    observer.seen (Compile.run job importers s).2 =
      observer.seen s ++ ((steps job).story observer (settled job importers) s).filter Mark.isEvent := by
  obtain ⟨told, tells, -⟩ := steps_course (h := settled job importers) equipped s
  have story : (steps job).story observer (settled job importers) s = told := tells.story_eq
  rw [run_eq_exec, story]
  refine Run.Tells.seen_follow (fun t => ?_) (fun c => ?_) silent tells
  · refine List.filter_eq_self.mpr fun mark there => ?_
    obtain ⟨e, -, rfl⟩ := List.mem_map.mp there
    rfl
  · cases c with
    | load c => rfl
    | evaluate sheet => rfl
    | render tree style => rfl

end Compile

namespace Lines

open Compile

/-- A run that fails while it evaluates, as an importer raises. -/
theorem raising_import_course :
    (steps raisingImport).story observer (settled raisingImport raisingImporters) containmentStart =
        [.event (.stageStart (label raisingImport) .start),
          .event (.stageComplete (label raisingImport) .start),
          .event (.stageStart (label raisingImport) .resolveEntry),
          .event (.stageComplete (label raisingImport) .resolveEntry),
          .event (.stageStart (label raisingImport) .evaluate), .evaluate,
          .event (.failed (label raisingImport) .evaluate "E302" "no")] ∧
      Course (label raisingImport)
        ((steps raisingImport).story observer (settled raisingImport raisingImporters) containmentStart)
        (run raisingImport raisingImporters containmentStart).1 := by
  refine ⟨by decide +kernel, ?_⟩
  exact (run_course raisingImport raisingImporters containmentStart (.inl ⟨_, rfl⟩)).1

end Lines

end StyleBuild
