import StyleBuild.Proofs.Driver

/-!
# Where the two ways of running a program part

A host can see which calls are made and which of its pending answers are started. Seen like this, running a program
directly and running it awaiting are the same up to the first pending answer: `Run.Comes` leads there, or to the
end. At the pending answer the one goes on with a refusal and has started nothing, the other with what the answer
comes to, as if the host had said so at once.
-/

set_option autoImplicit false

namespace StyleBuild

/-- What a host sees: that a call is made, or that its pending answer to one is started. -/
inductive Deed (κ : Type) where
  | called (request : κ)
  | started (request : κ)

namespace Deed

variable {κ : Type}

def isCall : Deed κ → Bool
  | called _ => true
  | started _ => false

end Deed

/-! ## A host that takes notes -/

section

variable {σ ε κ : Type}

/-- The answer of a host that takes notes. -/
def Answer.watched {ρ : Type} (c : κ) : Answer σ ε ρ → Answer (σ × List (Deed κ)) ε ρ
  | .value r => .value r
  | .fault e => .fault e
  | .pending wait => .pending fun s => ((wait s.1).1, ((wait s.1).2, s.2 ++ [.started c]))

variable {ρ : κ → Type}

namespace Host

/-- The host that notes what it sees beside its state. -/
def watched (host : Host σ ε κ ρ) : Host (σ × List (Deed κ)) ε κ ρ := fun c s =>
  ((host c s.1).1.watched c, ((host c s.1).2, s.2 ++ [.called c]))

/-- The host that says at once what its pending answers come to. -/
def prompt (host : Host σ ε κ ρ) : Host σ ε κ ρ := fun c s =>
  (.ofExcept (host.awaited c s).1, (host.awaited c s).2)

/-- What is seen of a call whose answer is awaited. -/
def deeds (host : Host σ ε κ ρ) (c : κ) (s : σ) : List (Deed κ) :=
  match (host c s).1 with
  | .pending _ => [.called c, .started c]
  | _ => [.called c]

end Host

/-- The settled host that adds notes to the ones it has. -/
def Settled.noting {τ : Type} (h : Settled σ ε κ ρ) (note : κ → σ → List τ) :
    Settled (σ × List τ) ε κ ρ := fun c s =>
  ((h c s.1).1, ((h c s.1).2, s.2 ++ note c s.1))

theorem Host.refusing_watched (refuse : κ → ε) (host : Host σ ε κ ρ) :
    host.watched.refusing refuse = (host.refusing refuse).noting fun c _ => [.called c] := by
  funext c s
  simp only [refusing, watched, Settled.noting]
  rcases host c s.1 with ⟨_ | _ | _, t⟩ <;> rfl

theorem Host.awaited_watched (host : Host σ ε κ ρ) :
    host.watched.awaited = host.awaited.noting host.deeds := by
  funext c s
  simp only [awaited, watched, Settled.noting, deeds]
  rcases host c s.1 with ⟨_ | _ | _, t⟩
  · rfl
  · rfl
  · simp [Answer.watched, Answer.awaited]

theorem Host.refusing_prompt (refuse : κ → ε) (host : Host σ ε κ ρ) :
    host.prompt.refusing refuse = host.awaited := by
  funext c s
  exact Answer.refused_ofExcept _ _ _

end

namespace Run

variable {σ ε κ τ : Type} {ρ : κ → Type} {α : Type}

/-- A program beside notes that it never looks at. -/
def beside (r : Run σ ε κ ρ α) (notes : List τ) : Run (σ × List τ) ε κ ρ α :=
  match r with
  | done outcome s => .done outcome (s, notes)
  | call c s resume => .call c (s, notes) fun x t => (resume x t.1).beside t.2

theorem follow_beside (h : Settled σ ε κ ρ) (note : κ → σ → List τ) (r : Run σ ε κ ρ α)
    (notes : List τ) :
    (r.beside notes).follow (h.noting note) =
      ((r.follow h).1, ((r.follow h).2, notes ++ r.trace h note)) := by
  induction r generalizing notes with
  | done outcome s => simp [beside, follow, trace]
  | call c s resume ih =>
    simp only [beside, follow, trace, Settled.noting, ih, List.append_assoc]

/-! ## What is seen of a program -/

/-- What a host sees of a program that takes only direct answers. -/
def seenDirect (refuse : κ → ε) (host : Host σ ε κ ρ) (r : Run σ ε κ ρ α) : List (Deed κ) :=
  ((r.beside []).direct refuse host.watched).2.2

/-- What a host sees of a program that awaits pending answers. -/
def seenAwaiting (host : Host σ ε κ ρ) (r : Run σ ε κ ρ α) : List (Deed κ) :=
  ((r.beside []).awaiting host.watched).2.2

variable (refuse : κ → ε) (host : Host σ ε κ ρ) (r : Run σ ε κ ρ α)

/-- A host that takes notes makes no difference to the program. -/
theorem direct_watched :
    (r.beside []).direct refuse host.watched =
      ((r.direct refuse host).1, (r.direct refuse host).2,
        r.trace (host.refusing refuse) fun c _ => [.called c]) := by
  rw [direct_eq_follow, direct_eq_follow, Host.refusing_watched, follow_beside, List.nil_append]

theorem awaiting_watched :
    (r.beside []).awaiting host.watched =
      ((r.awaiting host).1, (r.awaiting host).2, r.trace host.awaited host.deeds) := by
  rw [awaiting_eq_follow, awaiting_eq_follow, Host.awaited_watched, follow_beside, List.nil_append]

theorem seenDirect_eq_trace :
    r.seenDirect refuse host = r.trace (host.refusing refuse) fun c _ => [.called c] := by
  rw [seenDirect, direct_watched]

theorem seenAwaiting_eq_trace : r.seenAwaiting host = r.trace host.awaited host.deeds := by
  rw [seenAwaiting, awaiting_watched]

theorem started_notMem_seenDirect (c : κ) : .started c ∉ r.seenDirect refuse host := by
  rw [seenDirect_eq_trace]
  induction r with
  | done outcome s => exact List.not_mem_nil
  | call d s resume ih =>
    rw [trace, List.singleton_append, List.mem_cons, not_or]
    refine ⟨?_, ih _ _⟩
    intro same
    cases same

theorem awaiting_eq_direct_prompt : r.awaiting host = r.direct refuse host.prompt := by
  rw [awaiting_eq_follow, direct_eq_follow, Host.refusing_prompt]

theorem calls_seenAwaiting :
    (r.seenAwaiting host).filter Deed.isCall = r.seenDirect refuse host.prompt := by
  rw [seenAwaiting_eq_trace, seenDirect_eq_trace, Host.refusing_prompt]
  induction r with
  | done outcome s => rfl
  | call c s resume ih =>
    have called : (host.deeds c s).filter Deed.isCall = [.called c] := by
      unfold Host.deeds
      split <;> rfl
    rw [trace, trace, List.filter_append, called, ih]

variable {host r}

/-! ## The way to the first pending answer -/

/-- A program comes to another one by calls that are answered at once. -/
inductive Comes (host : Host σ ε κ ρ) : Run σ ε κ ρ α → List κ → Run σ ε κ ρ α → Prop where
  | here (r : Run σ ε κ ρ α) : Comes host r [] r
  | call {c : κ} {s t : σ} {resume : Except ε (ρ c) → σ → Run σ ε κ ρ α} {x : Except ε (ρ c)}
    {cs : List κ} {r' : Run σ ε κ ρ α} (answered : host c s = (.ofExcept x, t))
    (later : Comes host (resume x t) cs r') : Comes host (.call c s resume) (c :: cs) r'

/-- A call that is answered at once is the same to both. -/
theorem answered_step {c : κ} {s t : σ} {resume : Except ε (ρ c) → σ → Run σ ε κ ρ α}
    {x : Except ε (ρ c)} (answered : host c s = (.ofExcept x, t)) :
    (call c s resume).direct refuse host = (resume x t).direct refuse host ∧
      (call c s resume).seenDirect refuse host = .called c :: (resume x t).seenDirect refuse host ∧
      (call c s resume).awaiting host = (resume x t).awaiting host ∧
      (call c s resume).seenAwaiting host = .called c :: (resume x t).seenAwaiting host := by
  have refused : host.refusing refuse c s = (x, t) := by
    rw [Host.refusing, answered, Answer.refused_ofExcept]
  have awaited : host.awaited c s = (x, t) := by
    rw [Host.awaited, answered, Answer.awaited_ofExcept]
  have deeds : host.deeds c s = [.called c] := by
    rw [Host.deeds, answered]
    cases x <;> rfl
  simp only [direct_eq_follow, awaiting_eq_follow, seenDirect_eq_trace, seenAwaiting_eq_trace, follow,
    trace, refused, awaited, deeds, List.singleton_append]
  exact ⟨trivial, trivial, trivial, trivial⟩

theorem Comes.agree {cs : List κ} {r' : Run σ ε κ ρ α} (comes : Comes host r cs r') :
    r.direct refuse host = r'.direct refuse host ∧
      r.seenDirect refuse host = cs.map .called ++ r'.seenDirect refuse host ∧
      r.awaiting host = r'.awaiting host ∧
      r.seenAwaiting host = cs.map .called ++ r'.seenAwaiting host := by
  induction comes with
  | here r => exact ⟨rfl, rfl, rfl, rfl⟩
  | call answered later ih =>
    obtain ⟨direct, seen, awaiting, seen'⟩ := answered_step refuse answered
    rw [direct, seen, awaiting, seen', List.map_cons, List.cons_append, List.cons_append]
    exact ⟨ih.1, congrArg _ ih.2.1, ih.2.2.1, congrArg _ ih.2.2.2⟩

/-- A pending answer is where they part. -/
theorem pending_step {c : κ} {s t : σ} {resume : Except ε (ρ c) → σ → Run σ ε κ ρ α}
    {wait : σ → Except ε (ρ c) × σ} (pending : host c s = (.pending wait, t)) :
    (call c s resume).direct refuse host = (resume (.error (refuse c)) t).direct refuse host ∧
      (call c s resume).seenDirect refuse host =
        .called c :: (resume (.error (refuse c)) t).seenDirect refuse host ∧
      (call c s resume).awaiting host = (resume (wait t).1 (wait t).2).awaiting host ∧
      (call c s resume).seenAwaiting host =
        .called c :: .started c :: (resume (wait t).1 (wait t).2).seenAwaiting host := by
  have refused : host.refusing refuse c s = (.error (refuse c), t) := by
    rw [Host.refusing, pending, Answer.refused]
  have awaited : host.awaited c s = wait t := by
    rw [Host.awaited, pending, Answer.awaited]
  have deeds : host.deeds c s = [.called c, .started c] := by
    rw [Host.deeds, pending]
  simp only [direct_eq_follow, awaiting_eq_follow, seenDirect_eq_trace, seenAwaiting_eq_trace, follow,
    trace, refused, awaited, deeds, List.cons_append, List.nil_append]
  exact ⟨trivial, trivial, trivial, trivial⟩

/-- The first call of a program that is answered by a pending answer, after calls that are not. -/
structure FirstPending (host : Host σ ε κ ρ) (r : Run σ ε κ ρ α) (cs : List κ) (c : κ) (s t : σ)
    (resume : Except ε (ρ c) → σ → Run σ ε κ ρ α) (wait : σ → Except ε (ρ c) × σ) : Prop where
  comes : Comes host r cs (.call c s resume)
  pending : host c s = (.pending wait, t)

/-- Both ways make the same calls up to the first pending answer, which only the awaiting one starts. -/
theorem FirstPending.parts {cs : List κ} {c : κ} {s t : σ}
    {resume : Except ε (ρ c) → σ → Run σ ε κ ρ α} {wait : σ → Except ε (ρ c) × σ}
    (first : FirstPending host r cs c s t resume wait) :
    r.direct refuse host = (resume (.error (refuse c)) t).direct refuse host ∧
      r.seenDirect refuse host =
        (cs ++ [c]).map .called ++ (resume (.error (refuse c)) t).seenDirect refuse host ∧
      r.awaiting host = (resume (wait t).1 (wait t).2).awaiting host ∧
      r.seenAwaiting host =
        (cs ++ [c]).map .called ++ .started c :: (resume (wait t).1 (wait t).2).seenAwaiting host := by
  obtain ⟨direct, seen, awaiting, seen'⟩ := first.comes.agree refuse
  obtain ⟨refused, called, awaited, started⟩ := pending_step refuse first.pending
  rw [direct, seen, awaiting, seen', refused, called, awaited, started]
  simp

theorem comes_to_end_or_pending (host : Host σ ε κ ρ) (r : Run σ ε κ ρ α) :
    (∃ cs x s, Comes host r cs (.done x s)) ∨
      ∃ cs c s t resume wait, FirstPending host r cs c s t resume wait := by
  induction r with
  | done outcome s => exact .inl ⟨[], outcome, s, .here _⟩
  | call c s resume ih =>
    have onward : ∀ x t, host c s = (.ofExcept x, t) →
        (∃ cs x s', Comes host (call c s resume) cs (.done x s')) ∨
          ∃ cs d s' t resume' wait, FirstPending host (call c s resume) cs d s' t resume' wait := by
      intro x t answered
      obtain ⟨cs, y, u, comes⟩ | ⟨cs, d, u, v, resume', wait, first⟩ := ih x t
      · exact .inl ⟨c :: cs, y, u, .call answered comes⟩
      · exact .inr ⟨c :: cs, d, u, v, resume', wait, .call answered first.comes, first.pending⟩
    rcases answer : host c s with ⟨v | e | wait, t⟩
    · exact onward (.ok v) t answer
    · exact onward (.error e) t answer
    · exact .inr ⟨[], c, s, t, resume, wait, .here _, answer⟩

/-- Awaiting pending answers is running directly on a host that gives them at once, with the same calls. Without a
pending answer the two ways of running a program have the same calls in the same order and end alike. A program
comes to its end by calls that are answered at once, or to a first pending answer. Up to the call that has it, this
included, both make the same calls; the direct way does not start the answer, as it never starts any, and resumes
the program with the refusal of the call. -/
theorem drivers_part_at_pending (refuse : κ → ε) (host : Host σ ε κ ρ) (r : Run σ ε κ ρ α) :
    (r.awaiting host = r.direct refuse host.prompt ∧
        (r.seenAwaiting host).filter Deed.isCall = r.seenDirect refuse host.prompt) ∧
      ((∀ c, .started c ∉ r.seenAwaiting host) →
        r.direct refuse host = r.awaiting host ∧
          r.seenDirect refuse host = r.seenAwaiting host) ∧
      (∀ c, .started c ∉ r.seenDirect refuse host) ∧
      ((∃ cs x s, Comes host r cs (.done x s)) ∨
        ∃ cs c s t resume wait, FirstPending host r cs c s t resume wait) ∧
      ∀ cs c s t resume wait, FirstPending host r cs c s t resume wait →
        r.direct refuse host = (resume (.error (refuse c)) t).direct refuse host ∧
          r.seenDirect refuse host =
            (cs ++ [c]).map .called ++ (resume (.error (refuse c)) t).seenDirect refuse host ∧
          r.awaiting host = (resume (wait t).1 (wait t).2).awaiting host ∧
          r.seenAwaiting host =
            (cs ++ [c]).map .called ++ .started c :: (resume (wait t).1 (wait t).2).seenAwaiting host := by
  refine ⟨⟨awaiting_eq_direct_prompt refuse host r, calls_seenAwaiting refuse host r⟩, ?_,
    started_notMem_seenDirect refuse host r, comes_to_end_or_pending host r, ?_⟩
  · intro unstarted
    obtain ⟨cs, x, s, comes⟩ | ⟨cs, c, s, t, resume, wait, first⟩ := comes_to_end_or_pending host r
    · obtain ⟨direct, seen, awaiting, seen'⟩ := comes.agree refuse
      rw [direct, seen, awaiting, seen']
      exact ⟨rfl, rfl⟩
    · obtain ⟨-, -, -, seen⟩ := first.parts refuse
      refine absurd ?_ (unstarted c)
      rw [seen]
      simp
  · intro cs c s t resume wait first
    exact first.parts refuse

end Run

end StyleBuild
