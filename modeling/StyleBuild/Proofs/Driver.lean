import StyleBuild.Effect

/-!
# Following a program

The two ways of running a program differ only in what they make of a pending answer. Once each answer is
settled, by refusing or by awaiting it, both are one function, `Run.follow`, and `Run.trace` is what an
observer of the calls notes on the way.

`Run.Match` relates two programs that make the same calls and never look at what a relation on the states
leaves open. Followed through hosts that agree in the same sense, they end alike. `Steps.Agree` does so
under a condition on the calls, `Steps.Moves` says what a single program leaves alone, and `Steps.Ends`
which fault it ends in.
-/

set_option autoImplicit false

namespace StyleBuild

namespace Answer

variable {σ ε ρ : Type}

/-- What an answer comes to where a pending one is refused. -/
def refused (e : ε) : Answer σ ε ρ × σ → Except ε ρ × σ
  | (.value r, s) => (.ok r, s)
  | (.fault f, s) => (.error f, s)
  | (.pending _, s) => (.error e, s)

/-- What an answer comes to where a pending one is awaited. -/
def awaited : Answer σ ε ρ × σ → Except ε ρ × σ
  | (.value r, s) => (.ok r, s)
  | (.fault f, s) => (.error f, s)
  | (.pending wait, s) => wait s

@[simp] theorem refused_fault (e f : ε) (s : σ) :
    refused e ((.fault f, s) : Answer σ ε ρ × σ) = (.error f, s) := rfl

@[simp] theorem awaited_fault (f : ε) (s : σ) :
    awaited ((.fault f, s) : Answer σ ε ρ × σ) = (.error f, s) := rfl

@[simp] theorem refused_ofExcept (e : ε) (r : Except ε ρ) (s : σ) :
    refused e (ofExcept r, s) = (r, s) := by
  cases r <;> rfl

@[simp] theorem awaited_ofExcept (r : Except ε ρ) (s : σ) : awaited (ofExcept r, s) = (r, s) := by
  cases r <;> rfl

end Answer

/-- A host that settles every call. -/
abbrev Settled (σ ε κ : Type) (ρ : κ → Type) := (request : κ) → σ → Except ε (ρ request) × σ

namespace Host

variable {σ ε κ : Type} {ρ : κ → Type}

def refusing (refuse : κ → ε) (host : Host σ ε κ ρ) : Settled σ ε κ ρ :=
  fun c s => Answer.refused (refuse c) (host c s)

def awaited (host : Host σ ε κ ρ) : Settled σ ε κ ρ := fun c s => Answer.awaited (host c s)

end Host

namespace Run

variable {σ ε κ τ : Type} {ρ : κ → Type} {α β : Type}

/-- Runs a program on settled answers. -/
def follow (h : Settled σ ε κ ρ) : Run σ ε κ ρ α → Except ε α × σ
  | done outcome s => (outcome, s)
  | call c s resume => follow h (resume (h c s).1 (h c s).2)

/-- What an observer of the calls notes while a program is followed. -/
def trace (h : Settled σ ε κ ρ) (note : κ → σ → List τ) : Run σ ε κ ρ α → List τ
  | done _ _ => []
  | call c s resume => note c s ++ trace h note (resume (h c s).1 (h c s).2)

theorem direct_eq_follow (refuse : κ → ε) (host : Host σ ε κ ρ) (r : Run σ ε κ ρ α) :
    r.direct refuse host = r.follow (host.refusing refuse) := by
  induction r with
  | done outcome s => rfl
  | call c s resume ih =>
    simp only [direct, follow, Host.refusing]
    rcases host c s with ⟨_ | _ | _, t⟩ <;> simp only [Answer.refused] <;> exact ih _ _

theorem awaiting_eq_follow (host : Host σ ε κ ρ) (r : Run σ ε κ ρ α) :
    r.awaiting host = r.follow host.awaited := by
  induction r with
  | done outcome s => rfl
  | call c s resume ih =>
    simp only [awaiting, follow, Host.awaited]
    rcases host c s with ⟨_ | _ | _, t⟩ <;> simp only [Answer.awaited] <;> exact ih _ _

theorem follow_bind (h : Settled σ ε κ ρ) (r : Run σ ε κ ρ α) (f : α → σ → Run σ ε κ ρ β) :
    (r.bind f).follow h = match r.follow h with
      | (.ok a, s) => (f a s).follow h
      | (.error e, s) => (.error e, s) := by
  induction r with
  | done outcome s => cases outcome <;> rfl
  | call c s resume ih => exact ih _ _

theorem follow_handle (h : Settled σ ε κ ρ) (r : Run σ ε κ ρ α) (f : ε → σ → Run σ ε κ ρ α) :
    (r.handle f).follow h = match r.follow h with
      | (.ok a, s) => (.ok a, s)
      | (.error e, s) => (f e s).follow h := by
  induction r with
  | done outcome s => cases outcome <;> rfl
  | call c s resume ih => exact ih _ _

theorem trace_bind (h : Settled σ ε κ ρ) (note : κ → σ → List τ) (r : Run σ ε κ ρ α)
    (f : α → σ → Run σ ε κ ρ β) :
    (r.bind f).trace h note = r.trace h note ++ match r.follow h with
      | (.ok a, s) => (f a s).trace h note
      | (.error _, _) => [] := by
  induction r with
  | done outcome s => cases outcome <;> rfl
  | call c s resume ih =>
    simp only [bind, trace, follow, ih, List.append_assoc]

theorem trace_handle (h : Settled σ ε κ ρ) (note : κ → σ → List τ) (r : Run σ ε κ ρ α)
    (f : ε → σ → Run σ ε κ ρ α) :
    (r.handle f).trace h note = r.trace h note ++ match r.follow h with
      | (.ok _, _) => []
      | (.error e, s) => (f e s).trace h note := by
  induction r with
  | done outcome s => cases outcome <;> rfl
  | call c s resume ih =>
    simp only [handle, trace, follow, ih, List.append_assoc]

end Run

/-! ## Steps -/

namespace Steps

variable {σ ε κ τ : Type} {ρ : κ → Type} {α β : Type} (h : Settled σ ε κ ρ)

/-- Runs the steps of a program on settled answers. -/
def exec (m : Steps σ ε κ ρ α) (s : σ) : Except ε α × σ := (m s).follow h

@[simp] theorem exec_pure (a : α) (s : σ) :
    (pure a : Steps σ ε κ ρ α).exec h s = (.ok a, s) := rfl

@[simp] theorem exec_fail (e : ε) (s : σ) :
    (fail e : Steps σ ε κ ρ α).exec h s = (.error e, s) := rfl

@[simp] theorem exec_ofExcept (r : Except ε α) (s : σ) :
    (ofExcept r : Steps σ ε κ ρ α).exec h s = (r, s) := rfl

@[simp] theorem exec_get (s : σ) : (get : Steps σ ε κ ρ σ).exec h s = (.ok s, s) := rfl

@[simp] theorem exec_modify (f : σ → σ) (s : σ) :
    (modify f : Steps σ ε κ ρ Unit).exec h s = (.ok (), f s) := rfl

@[simp] theorem exec_perform (c : κ) (s : σ) :
    (perform c : Steps σ ε κ ρ (ρ c)).exec h s = h c s := rfl

theorem exec_bind (m : Steps σ ε κ ρ α) (f : α → Steps σ ε κ ρ β) (s : σ) :
    (m >>= f).exec h s = match m.exec h s with
      | (.ok a, s) => (f a).exec h s
      | (.error e, s) => (.error e, s) :=
  Run.follow_bind h (m s) f

theorem exec_orElse (m : Steps σ ε κ ρ α) (f : ε → Steps σ ε κ ρ α) (s : σ) :
    (m.orElse f).exec h s = match m.exec h s with
      | (.ok a, s) => (.ok a, s)
      | (.error e, s) => (f e).exec h s :=
  Run.follow_handle h (m s) f

theorem exec_mapFault (f : ε → ε) (m : Steps σ ε κ ρ α) (s : σ) :
    (m.mapFault f).exec h s = ((m.exec h s).1.mapError f, (m.exec h s).2) := by
  refine (Run.follow_handle h (m s) _).trans ?_
  unfold exec
  rcases (m s).follow h with ⟨_ | _, t⟩ <;> rfl

theorem exec_attempt (m : Steps σ ε κ ρ α) (s : σ) :
    m.attempt.exec h s = (.ok (m.exec h s).1, (m.exec h s).2) := by
  refine (Run.follow_handle h _ _).trans ?_
  rw [Run.follow_bind]
  unfold exec
  rcases (m s).follow h with ⟨_ | _, t⟩ <;> rfl

/-- What an observer of the calls notes while steps run. -/
def notes (note : κ → σ → List τ) (m : Steps σ ε κ ρ α) (s : σ) : List τ := (m s).trace h note

variable (note : κ → σ → List τ)

@[simp] theorem notes_pure (a : α) (s : σ) :
    (pure a : Steps σ ε κ ρ α).notes h note s = [] := rfl

@[simp] theorem notes_fail (e : ε) (s : σ) :
    (fail e : Steps σ ε κ ρ α).notes h note s = [] := rfl

@[simp] theorem notes_ofExcept (r : Except ε α) (s : σ) :
    (ofExcept r : Steps σ ε κ ρ α).notes h note s = [] := rfl

@[simp] theorem notes_get (s : σ) : (get : Steps σ ε κ ρ σ).notes h note s = [] := rfl

@[simp] theorem notes_modify (f : σ → σ) (s : σ) :
    (modify f : Steps σ ε κ ρ Unit).notes h note s = [] := rfl

@[simp] theorem notes_perform (c : κ) (s : σ) :
    (perform c : Steps σ ε κ ρ (ρ c)).notes h note s = note c s := List.append_nil _

theorem notes_bind (m : Steps σ ε κ ρ α) (f : α → Steps σ ε κ ρ β) (s : σ) :
    (m >>= f).notes h note s = m.notes h note s ++ match m.exec h s with
      | (.ok a, s) => (f a).notes h note s
      | (.error _, _) => [] :=
  Run.trace_bind h note (m s) f

@[simp] theorem notes_mapFault (f : ε → ε) (m : Steps σ ε κ ρ α) (s : σ) :
    (m.mapFault f).notes h note s = m.notes h note s := by
  refine (Run.trace_handle h note (m s) _).trans ?_
  rcases (m s).follow h with ⟨_ | _, t⟩ <;> exact List.append_nil _

@[simp] theorem notes_attempt (m : Steps σ ε κ ρ α) (s : σ) :
    m.attempt.notes h note s = m.notes h note s := by
  refine (Run.trace_handle h note _ _).trans ?_
  rw [Run.trace_bind, Run.follow_bind]
  rcases (m s).follow h with ⟨_ | _, t⟩ <;> simp [notes, Run.trace, Run.follow]

end Steps

/-! ## Programs that match -/

/-- Outcomes that are the same fault, or values in a relation. -/
inductive Outcomes {ε α β : Type} (Q : α → β → Prop) : Except ε α → Except ε β → Prop where
  | ok {a : α} {b : β} (values : Q a b) : Outcomes Q (.ok a) (.ok b)
  | error (e : ε) : Outcomes Q (.error e) (.error e)

theorem Outcomes.refl {ε α : Type} (r : Except ε α) : Outcomes Eq r r := by
  cases r with
  | ok a => exact .ok rfl
  | error e => exact .error e

theorem Outcomes.eq {ε α : Type} {r r' : Except ε α} (same : Outcomes Eq r r') : r = r' := by
  cases same with
  | ok values => rw [values]
  | error e => rfl

namespace Run

variable {σ ε κ τ : Type} {ρ : κ → Type} {α α' β β' : Type}
variable {R : σ → σ → Prop} {Q : α → α' → Prop} {P : β → β' → Prop}

/-- Two programs that end alike, or make the same call and match again after every outcome of it, as
long as their states are related. -/
inductive Match (R : σ → σ → Prop) (Q : α → α' → Prop) :
    Run σ ε κ ρ α → Run σ ε κ ρ α' → Prop where
  | done {r : Except ε α} {r' : Except ε α'} (outcomes : Outcomes Q r r') {s s' : σ}
    (states : R s s') : Match R Q (.done r s) (.done r' s')
  | call (c : κ) {s s' : σ} {resume : Except ε (ρ c) → σ → Run σ ε κ ρ α}
    {resume' : Except ε (ρ c) → σ → Run σ ε κ ρ α'}
    (states : R s s') (next : ∀ x t t', R t t' → Match R Q (resume x t) (resume' x t')) :
    Match R Q (.call c s resume) (.call c s' resume')

theorem Match.bind {r : Run σ ε κ ρ α} {r' : Run σ ε κ ρ α'} {f : α → σ → Run σ ε κ ρ β}
    {f' : α' → σ → Run σ ε κ ρ β'} (m : Match R Q r r')
    (mf : ∀ a a' s s', Q a a' → R s s' → Match R P (f a s) (f' a' s')) :
    Match R P (r.bind f) (r'.bind f') := by
  induction m with
  | done outcomes states =>
    cases outcomes with
    | ok values => exact mf _ _ _ _ values states
    | error e => exact .done (.error e) states
  | call c states _ ih => exact .call c states fun x t t' related => ih x t t' related

theorem Match.handle {r : Run σ ε κ ρ α} {r' : Run σ ε κ ρ α'} {f : ε → σ → Run σ ε κ ρ α}
    {f' : ε → σ → Run σ ε κ ρ α'} (m : Match R Q r r')
    (mf : ∀ e s s', R s s' → Match R Q (f e s) (f' e s')) :
    Match R Q (r.handle f) (r'.handle f') := by
  induction m with
  | done outcomes states =>
    cases outcomes with
    | ok values => exact .done (.ok values) states
    | error e => exact mf e _ _ states
  | call c states _ ih => exact .call c states fun x t t' related => ih x t t' related

/-- Hosts that settle a call alike in related states, and leave related states. -/
def HostsAgree (R : σ → σ → Prop) (h h' : Settled σ ε κ ρ) : Prop :=
  ∀ c s s', R s s' → (h c s).1 = (h' c s').1 ∧ R (h c s).2 (h' c s').2

theorem Match.follow {h h' : Settled σ ε κ ρ} (hosts : HostsAgree R h h')
    {r : Run σ ε κ ρ α} {r' : Run σ ε κ ρ α'} (m : Match R Q r r') :
    Outcomes Q (r.follow h).1 (r'.follow h').1 ∧ R (r.follow h).2 (r'.follow h').2 := by
  induction m with
  | done outcomes states => exact ⟨outcomes, states⟩
  | call c states _ ih =>
    obtain ⟨same, related⟩ := hosts c _ _ states
    simp only [Run.follow, ← same]
    exact ih _ _ _ related

/-- Matching programs are seen to make the same calls by observers who note the same. -/
theorem Match.trace {h h' : Settled σ ε κ ρ} (hosts : HostsAgree R h h')
    {note note' : κ → σ → List τ} (notes : ∀ c s s', R s s' → note c s = note' c s')
    {r : Run σ ε κ ρ α} {r' : Run σ ε κ ρ α'} (m : Match R Q r r') :
    r.trace h note = r'.trace h' note' := by
  induction m with
  | done outcomes states => rfl
  | call c states _ ih =>
    obtain ⟨same, related⟩ := hosts c _ _ states
    simp only [Run.trace, notes c _ _ states, ← same]
    rw [ih _ _ _ related]

end Run

namespace Steps

variable {σ ε κ : Type} {ρ : κ → Type} {α α' β β' : Type}
variable {R : σ → σ → Prop} {Q : α → α' → Prop} {P : β → β' → Prop}

/-- Steps that match from related states on. -/
def Match (R : σ → σ → Prop) (Q : α → α' → Prop) (m : Steps σ ε κ ρ α) (m' : Steps σ ε κ ρ α') :
    Prop :=
  ∀ s s', R s s' → Run.Match R Q (m s) (m' s')

theorem Match.pure {a : α} {a' : α'} (values : Q a a') :
    Match R Q (Pure.pure a : Steps σ ε κ ρ α) (Pure.pure a') :=
  fun _ _ states => .done (.ok values) states

theorem Match.fail (e : ε) : Match R Q (Steps.fail e : Steps σ ε κ ρ α) (Steps.fail e) :=
  fun _ _ states => .done (.error e) states

theorem Match.ofExcept {r : Except ε α} {r' : Except ε α'} (outcomes : Outcomes Q r r') :
    Match R Q (Steps.ofExcept r : Steps σ ε κ ρ α) (Steps.ofExcept r') :=
  fun _ _ states => .done outcomes states

theorem Match.modify {f f' : σ → σ} (keeps : ∀ s s', R s s' → R (f s) (f' s')) :
    Match R Eq (Steps.modify f : Steps σ ε κ ρ Unit) (Steps.modify f') :=
  fun s s' states => .done (.ok rfl) (keeps s s' states)

theorem Match.perform (c : κ) : Match R Eq (Steps.perform c : Steps σ ε κ ρ (ρ c)) (Steps.perform c) :=
  fun _ _ states => .call c states fun x _ _ related => .done (.refl x) related

theorem Match.andThen {m : Steps σ ε κ ρ α} {m' : Steps σ ε κ ρ α'} {f : α → Steps σ ε κ ρ β}
    {f' : α' → Steps σ ε κ ρ β'} (mm : Match R Q m m')
    (mf : ∀ a a', Q a a' → Match R P (f a) (f' a')) : Match R P (m >>= f) (m' >>= f') :=
  fun s s' states => (mm s s' states).bind fun a a' t t' values related =>
    mf a a' values t t' related

theorem Match.bind {m m' : Steps σ ε κ ρ α} {f : α → Steps σ ε κ ρ β} {f' : α → Steps σ ε κ ρ β'}
    (mm : Match R Eq m m') (mf : ∀ a, Match R P (f a) (f' a)) : Match R P (m >>= f) (m' >>= f') :=
  mm.andThen fun a _ same => same ▸ mf a

/-- Steps that first look at their state match if they do so for any two related states. -/
theorem Match.get {f : σ → Steps σ ε κ ρ β} {f' : σ → Steps σ ε κ ρ β'}
    (mf : ∀ s s', R s s' → Match R P (f s) (f' s')) :
    Match R P (Steps.get >>= f) (Steps.get >>= f') :=
  fun s s' states => mf s s' states s s' states

theorem Match.orElse {m : Steps σ ε κ ρ α} {m' : Steps σ ε κ ρ α'} {f : ε → Steps σ ε κ ρ α}
    {f' : ε → Steps σ ε κ ρ α'} (mm : Match R Q m m') (mf : ∀ e, Match R Q (f e) (f' e)) :
    Match R Q (m.orElse f) (m'.orElse f') :=
  fun s s' states => (mm s s' states).handle fun e t t' related => mf e t t' related

theorem Match.mapFault {m : Steps σ ε κ ρ α} {m' : Steps σ ε κ ρ α'} (f : ε → ε)
    (mm : Match R Q m m') : Match R Q (m.mapFault f) (m'.mapFault f) :=
  fun s s' states => (mm s s' states).handle fun e _ _ related => .done (.error (f e)) related

theorem Match.attempt {m : Steps σ ε κ ρ α} {m' : Steps σ ε κ ρ α'} (mm : Match R Q m m') :
    Match R (Outcomes Q) m.attempt m'.attempt := by
  intro s s' states
  refine Run.Match.handle (Q := Outcomes Q) ((mm s s' states).bind ?_) ?_
  · exact fun a a' _ _ values related => .done (.ok (.ok values)) related
  · exact fun e _ _ related => .done (.ok (.error e)) related

theorem Match.attemptSame {m m' : Steps σ ε κ ρ α} (mm : Match R Eq m m') :
    Match R Eq m.attempt m'.attempt := by
  intro s s' states
  refine Run.Match.handle (Q := Eq) ((mm s s' states).bind ?_) ?_
  · rintro a _ _ _ rfl related
    exact .done (.ok rfl) related
  · exact fun e _ _ related => .done (.ok rfl) related

theorem Match.exec {h h' : Settled σ ε κ ρ} (hosts : Run.HostsAgree R h h')
    {m : Steps σ ε κ ρ α} {m' : Steps σ ε κ ρ α'} (mm : Match R Q m m') {s s' : σ}
    (states : R s s') :
    Outcomes Q (m.exec h s).1 (m'.exec h' s').1 ∧ R (m.exec h s).2 (m'.exec h' s').2 :=
  (mm s s' states).follow hosts

end Steps

/-! ## Conditions on the calls of a run -/

namespace Run

variable {σ ε κ τ : Type} {ρ : κ → Type} {α β : Type}
variable {h : Settled σ ε κ ρ} {P : κ → σ → Prop}

/-- Each call satisfies a condition, in the state it is made in. -/
def Always (h : Settled σ ε κ ρ) (P : κ → σ → Prop) : Run σ ε κ ρ α → Prop
  | done _ _ => True
  | call c s resume => P c s ∧ Always h P (resume (h c s).1 (h c s).2)

theorem always_of_trace {note : κ → σ → List τ} {T : τ → Prop} {r : Run σ ε κ ρ α}
    (noted : ∀ x ∈ r.trace h note, T x) : r.Always h fun c s => ∀ x ∈ note c s, T x := by
  induction r with
  | done outcome s => trivial
  | call c s resume ih =>
    refine ⟨fun x there => noted x (List.mem_append_left _ there), ih _ _ fun x there => ?_⟩
    exact noted x (List.mem_append_right _ there)

theorem Always.of_bind {r : Run σ ε κ ρ α} {f : α → σ → Run σ ε κ ρ β}
    (always : (r.bind f).Always h P) :
    r.Always h P ∧ ∀ a s, r.follow h = (.ok a, s) → (f a s).Always h P := by
  induction r with
  | done outcome s =>
    refine ⟨trivial, fun a t followed => ?_⟩
    obtain ⟨rfl, rfl⟩ := Prod.mk.inj followed
    exact always
  | call c s resume ih =>
    obtain ⟨now, later⟩ := always
    obtain ⟨first, second⟩ := ih _ _ later
    exact ⟨⟨now, first⟩, second⟩

theorem Always.of_handle {r : Run σ ε κ ρ α} {f : ε → σ → Run σ ε κ ρ α}
    (always : (r.handle f).Always h P) :
    r.Always h P ∧ ∀ e s, r.follow h = (.error e, s) → (f e s).Always h P := by
  induction r with
  | done outcome s =>
    refine ⟨trivial, fun e t followed => ?_⟩
    obtain ⟨rfl, rfl⟩ := Prod.mk.inj followed
    exact always
  | call c s resume ih =>
    obtain ⟨now, later⟩ := always
    obtain ⟨first, second⟩ := ih _ _ later
    exact ⟨⟨now, first⟩, second⟩

end Run

namespace Steps

variable {σ ε κ : Type} {ρ : κ → Type} {α β : Type}
variable {h : Settled σ ε κ ρ} {P : κ → σ → Prop} {R : σ → σ → Prop}

/-- Steps on one host that come to the same from states in a relation, and end in states in another one,
which may depend on the outcome. The calls on the right satisfy a condition. -/
def Agree (h : Settled σ ε κ ρ) (P : κ → σ → Prop) (R : σ → σ → Prop)
    (S : Except ε α → σ → σ → Prop) (m m' : Steps σ ε κ ρ α) : Prop :=
  ∀ s s', R s s' → (m' s').Always h P →
    ∃ r t t', m.exec h s = (r, t) ∧ m'.exec h s' = (r, t') ∧ S r t t'

namespace Agree

variable {S : Except ε α → σ → σ → Prop} {T : Except ε β → σ → σ → Prop}
variable {m m' : Steps σ ε κ ρ α}

theorem narrow {Q : σ → σ → Prop} (narrower : ∀ s s', Q s s' → R s s')
    (agree : Agree h P R S m m') : Agree h P Q S m m' :=
  fun s s' states always => agree s s' (narrower s s' states) always

theorem pure {a : α} (after : ∀ s s', R s s' → S (.ok a) s s') :
    Agree h P R S (Pure.pure a : Steps σ ε κ ρ α) (Pure.pure a) :=
  fun s s' states _ => ⟨.ok a, s, s', rfl, rfl, after s s' states⟩

theorem fail {e : ε} (after : ∀ s s', R s s' → S (.error e) s s') :
    Agree h P R S (Steps.fail e : Steps σ ε κ ρ α) (Steps.fail e) :=
  fun s s' states _ => ⟨.error e, s, s', rfl, rfl, after s s' states⟩

theorem ofExcept {r : Except ε α} (after : ∀ s s', R s s' → S r s s') :
    Agree h P R S (Steps.ofExcept r : Steps σ ε κ ρ α) (Steps.ofExcept r) :=
  fun s s' states _ => ⟨r, s, s', rfl, rfl, after s s' states⟩

theorem perform {c : κ} {S : Except ε (ρ c) → σ → σ → Prop}
    (after : ∀ s s', R s s' → P c s' → ∃ r t t', h c s = (r, t) ∧ h c s' = (r, t') ∧ S r t t') :
    Agree h P R S (Steps.perform c : Steps σ ε κ ρ (ρ c)) (Steps.perform c) :=
  fun s s' states always => after s s' states always.1

theorem bind {f f' : α → Steps σ ε κ ρ β} (agree : Agree h P R S m m')
    (next : ∀ a, Agree h P (S (.ok a)) T (f a) (f' a))
    (failed : ∀ e t t', S (.error e) t t' → T (.error e) t t') :
    Agree h P R T (m >>= f) (m' >>= f') := by
  intro s s' states always
  obtain ⟨first, second⟩ := Run.Always.of_bind always
  obtain ⟨r, t, t', ran, ran', after⟩ := agree s s' states first
  rw [exec_bind, exec_bind, ran, ran']
  cases r with
  | error e => exact ⟨.error e, t, t', rfl, rfl, failed e t t' after⟩
  | ok a => exact next a t t' after (second a t' ran')

theorem get {f f' : σ → Steps σ ε κ ρ β}
    (next : ∀ s s', R s s' → Agree h P (fun t t' => t = s ∧ t' = s') T (f s) (f' s')) :
    Agree h P R T (Steps.get >>= f) (Steps.get >>= f') :=
  fun s s' states always => next s s' states s s' ⟨rfl, rfl⟩ always

theorem orElse {f f' : ε → Steps σ ε κ ρ α} {U : Except ε α → σ → σ → Prop}
    (agree : Agree h P R S m m') (next : ∀ e, Agree h P (S (.error e)) U (f e) (f' e))
    (passed : ∀ a t t', S (.ok a) t t' → U (.ok a) t t') :
    Agree h P R U (m.orElse f) (m'.orElse f') := by
  intro s s' states always
  obtain ⟨first, second⟩ := Run.Always.of_handle always
  obtain ⟨r, t, t', ran, ran', after⟩ := agree s s' states first
  rw [exec_orElse, exec_orElse, ran, ran']
  cases r with
  | ok a => exact ⟨.ok a, t, t', rfl, rfl, passed a t t' after⟩
  | error e => exact next e t t' after (second e t' ran')

theorem mapFault {U : Except ε α → σ → σ → Prop} (f : ε → ε)
    (agree : Agree h P R (fun r t t' => U (r.mapError f) t t') m m') :
    Agree h P R U (m.mapFault f) (m'.mapFault f) := by
  intro s s' states always
  obtain ⟨first, -⟩ := Run.Always.of_handle always
  obtain ⟨r, t, t', ran, ran', after⟩ := agree s s' states first
  rw [exec_mapFault, exec_mapFault, ran, ran']
  exact ⟨_, t, t', rfl, rfl, after⟩

theorem ite {p : Prop} [Decidable p] {n n' : Steps σ ε κ ρ α} (yes : Agree h P R S m m')
    (no : Agree h P R S n n') : Agree h P R S (if p then m else n) (if p then m' else n') := by
  split
  · exact yes
  · exact no

theorem okThen {a : α} {f f' : α → Steps σ ε κ ρ β} (next : Agree h P R T (f a) (f' a)) :
    Agree h P R T (Steps.ofExcept (.ok a) >>= f) (Steps.ofExcept (.ok a) >>= f') := next

theorem attemptThen {f f' : Except ε α → Steps σ ε κ ρ β} (agree : Agree h P R S m m')
    (next : ∀ r, Agree h P (S r) T (f r) (f' r)) :
    Agree h P R T (m.attempt >>= f) (m'.attempt >>= f') := by
  intro s s' states always
  obtain ⟨first, second⟩ := Run.Always.of_bind always
  obtain ⟨caught, -⟩ := Run.Always.of_handle first
  obtain ⟨inner, -⟩ := Run.Always.of_bind caught
  obtain ⟨r, t, t', ran, ran', after⟩ := agree s s' states inner
  have attempted : m'.attempt.exec h s' = (.ok r, t') := by rw [exec_attempt, ran']
  rw [exec_bind, exec_bind, exec_attempt, attempted, ran]
  exact next r t t' after (second r t' attempted)

theorem modifyThen {f f' : σ → σ} {Q : σ → σ → Prop} (after : ∀ s s', R s s' → Q (f s) (f' s'))
    (next : Agree h P Q S m m') :
    Agree h P R S (Steps.modify f >>= fun _ => m) (Steps.modify f' >>= fun _ => m') :=
  fun s s' states always => next (f s) (f' s') (after s s' states) always

end Agree

/-! ## What steps leave alone -/

/-- A relation between the states before and after, which steps one after another keep. -/
structure Frame (V : σ → σ → Prop) : Prop where
  refl : ∀ s, V s s
  trans : ∀ {s t u}, V s t → V t u → V s u

/-- Steps that move only within a frame, however they end. -/
def Moves (h : Settled σ ε κ ρ) (V : σ → σ → Prop) (m : Steps σ ε κ ρ α) : Prop :=
  ∀ s, V s (m.exec h s).2

namespace Moves

variable {V : σ → σ → Prop} {m : Steps σ ε κ ρ α}

theorem ofExcept (frame : Frame V) (r : Except ε α) :
    Moves h V (Steps.ofExcept r : Steps σ ε κ ρ α) := fun s => frame.refl s

theorem pure (frame : Frame V) (a : α) : Moves h V (Pure.pure a : Steps σ ε κ ρ α) :=
  ofExcept frame (.ok a)

theorem fail (frame : Frame V) (e : ε) : Moves h V (Steps.fail e : Steps σ ε κ ρ α) :=
  ofExcept frame (.error e)

theorem modify {f : σ → σ} (moved : ∀ s, V s (f s)) :
    Moves h V (Steps.modify f : Steps σ ε κ ρ Unit) := moved

theorem perform {c : κ} (moved : ∀ s, V s (h c s).2) :
    Moves h V (Steps.perform c : Steps σ ε κ ρ (ρ c)) := moved

theorem bind (frame : Frame V) {f : α → Steps σ ε κ ρ β} (first : Moves h V m)
    (next : ∀ a, Moves h V (f a)) : Moves h V (m >>= f) := by
  intro s
  have moved : V s (m.exec h s).2 := first s
  rw [exec_bind]
  generalize m.exec h s = ran at moved ⊢
  rcases ran with ⟨e | a, t⟩
  · exact moved
  · exact frame.trans moved (next a t)

theorem get {f : σ → Steps σ ε κ ρ β} (next : ∀ s, Moves h V (f s)) :
    Moves h V (Steps.get >>= f) := fun s => next s s

theorem mapFault (f : ε → ε) (moves : Moves h V m) : Moves h V (m.mapFault f) := by
  intro s
  rw [exec_mapFault]
  exact moves s

theorem attempt (moves : Moves h V m) : Moves h V m.attempt := by
  intro s
  rw [exec_attempt]
  exact moves s

theorem orElse (frame : Frame V) {f : ε → Steps σ ε κ ρ α} (moves : Moves h V m)
    (handled : ∀ e, Moves h V (f e)) : Moves h V (m.orElse f) := by
  intro s
  have moved : V s (m.exec h s).2 := moves s
  rw [exec_orElse]
  generalize m.exec h s = ran at moved ⊢
  rcases ran with ⟨e | a, t⟩
  · exact frame.trans moved (handled e t)
  · exact moved

end Moves

/-! ## What passes from parts to the whole -/

/-- A property of programs that holds of whatever is put together from programs that have it. -/
structure Closed (P : (α : Type) → Steps σ ε κ ρ α → Prop) : Prop where
  ofExcept : ∀ {α : Type} (r : Except ε α), P α (Steps.ofExcept r)
  get : P σ Steps.get
  bind : ∀ {α β : Type} {m : Steps σ ε κ ρ α} {f : α → Steps σ ε κ ρ β},
    P α m → (∀ a, P β (f a)) → P β (m >>= f)
  mapFault : ∀ {α : Type} {m : Steps σ ε κ ρ α} (f : ε → ε), P α m → P α (m.mapFault f)
  attempt : ∀ {α : Type} {m : Steps σ ε κ ρ α}, P α m → P (Except ε α) m.attempt

namespace Closed

variable {P : (α : Type) → Steps σ ε κ ρ α → Prop}

theorem pure (closed : Closed P) (a : α) : P α (Pure.pure a) := closed.ofExcept (.ok a)

theorem fail (closed : Closed P) (e : ε) : P α (Steps.fail e) := closed.ofExcept (.error e)

theorem getThen (closed : Closed P) {f : σ → Steps σ ε κ ρ β} (next : ∀ s, P β (f s)) :
    P β (Steps.get >>= f) := closed.bind closed.get next

end Closed

theorem Moves.closed {V : σ → σ → Prop} (frame : Frame V) :
    Closed fun α (m : Steps σ ε κ ρ α) => m.Moves h V where
  ofExcept := Moves.ofExcept frame
  get s := frame.refl s
  bind := Moves.bind frame
  mapFault := Moves.mapFault
  attempt := Moves.attempt

/-! ## The faults that steps end in -/

/-- Steps that end in a fault. -/
def Ends (h : Settled σ ε κ ρ) (m : Steps σ ε κ ρ α) (s : σ) (e : ε) : Prop :=
  (m.exec h s).1 = .error e

variable {m : Steps σ ε κ ρ α} {s : σ} {e : ε}

theorem ends_of_exec {t : σ} (ran : m.exec h s = (.error e, t)) : m.Ends h s e :=
  congrArg Prod.fst ran

@[simp] theorem ends_pure {a : α} : ¬ (pure a : Steps σ ε κ ρ α).Ends h s e := nofun

@[simp] theorem ends_fail {e' : ε} : (fail e' : Steps σ ε κ ρ α).Ends h s e ↔ e' = e :=
  Except.error.injEq e' e ▸ Iff.rfl

@[simp] theorem ends_ofExcept {r : Except ε α} :
    (ofExcept r : Steps σ ε κ ρ α).Ends h s e ↔ r = .error e := Iff.rfl

theorem ends_bind {f : α → Steps σ ε κ ρ β} :
    (m >>= f).Ends h s e ↔
      m.Ends h s e ∨ ∃ a t, m.exec h s = (.ok a, t) ∧ (f a).Ends h t e := by
  unfold Ends
  rw [exec_bind]
  rcases m.exec h s with ⟨e' | a, t⟩
  · simp
  · constructor
    · intro ended
      exact .inr ⟨a, t, rfl, ended⟩
    · rintro (ended | ⟨a', t', same, ended⟩)
      · cases ended
      · cases same
        exact ended

/-- Steps after a change of the state end as they do in the changed state. -/
theorem ends_modifyThen {f : σ → σ} {k : Unit → Steps σ ε κ ρ β} :
    (modify f >>= k).Ends h s e ↔ (k ()).Ends h (f s) e := Iff.rfl

theorem ends_getThen {k : σ → Steps σ ε κ ρ β} :
    (get >>= k).Ends h s e ↔ (k s).Ends h s e := Iff.rfl

theorem ends_attemptThen {k : Except ε α → Steps σ ε κ ρ β} :
    (m.attempt >>= k).Ends h s e ↔ (k (m.exec h s).1).Ends h (m.exec h s).2 e := by
  unfold Ends
  rw [exec_bind, exec_attempt]

theorem ends_mapFault {f : ε → ε} :
    (m.mapFault f).Ends h s e ↔ ∃ e', m.Ends h s e' ∧ f e' = e := by
  unfold Ends
  rw [exec_mapFault]
  rcases m.exec h s with ⟨raised | a, t⟩
  · constructor
    · intro ended
      exact ⟨raised, rfl, Except.error.inj ended⟩
    · rintro ⟨_, same, rfl⟩
      cases same
      rfl
  · constructor
    · intro ended
      cases ended
    · rintro ⟨_, same, -⟩
      cases same

end Steps

end StyleBuild
