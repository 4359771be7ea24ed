/-!
# Programs that call collaborators

A program works on a state and hands calls to its host. The host answers a call with a value, with a
fault, or with a pending computation that yields one of the two when it is awaited. The program is
written once; `Run.direct` refuses pending answers and `Run.awaiting` awaits them, and they differ in
nothing else.
-/

set_option autoImplicit false

namespace StyleBuild

inductive Answer (σ ε ρ : Type) where
  | value (r : ρ)
  | fault (e : ε)
  | pending (wait : σ → Except ε ρ × σ)

def Answer.ofExcept {σ ε ρ : Type} : Except ε ρ → Answer σ ε ρ
  | .ok r => .value r
  | .error e => .fault e

/-- A program in progress: finished, or at a call with what it does after each outcome. -/
inductive Run (σ ε κ : Type) (ρ : κ → Type) (α : Type) where
  | done (outcome : Except ε α) (state : σ)
  | call (request : κ) (state : σ) (resume : Except ε (ρ request) → σ → Run σ ε κ ρ α)

/-- Answers every call, on the state the caller leaves it. -/
abbrev Host (σ ε κ : Type) (ρ : κ → Type) := (request : κ) → σ → Answer σ ε (ρ request) × σ

namespace Run

variable {σ ε κ : Type} {ρ : κ → Type} {α β : Type}

/-- Runs a program that takes only direct answers: a pending one is dropped unstarted, and the program
goes on with a refusal in its place. -/
def direct (refuse : κ → ε) (host : Host σ ε κ ρ) : Run σ ε κ ρ α → Except ε α × σ
  | done outcome s => (outcome, s)
  | call c s resume =>
    match host c s with
    | (.value r, s) => direct refuse host (resume (.ok r) s)
    | (.fault e, s) => direct refuse host (resume (.error e) s)
    | (.pending _, s) => direct refuse host (resume (.error (refuse c)) s)

def awaiting (host : Host σ ε κ ρ) : Run σ ε κ ρ α → Except ε α × σ
  | done outcome s => (outcome, s)
  | call c s resume =>
    match host c s with
    | (.value r, s) => awaiting host (resume (.ok r) s)
    | (.fault e, s) => awaiting host (resume (.error e) s)
    | (.pending wait, s) => awaiting host (resume (wait s).1 (wait s).2)

/-- One program after another; a fault skips the second. -/
def bind (r : Run σ ε κ ρ α) (f : α → σ → Run σ ε κ ρ β) : Run σ ε κ ρ β :=
  match r with
  | done (.ok a) s => f a s
  | done (.error e) s => done (.error e) s
  | call c s resume => call c s fun x s => (resume x s).bind f

def handle (r : Run σ ε κ ρ α) (f : ε → σ → Run σ ε κ ρ α) : Run σ ε κ ρ α :=
  match r with
  | done (.ok a) s => done (.ok a) s
  | done (.error e) s => f e s
  | call c s resume => call c s fun x s => (resume x s).handle f

def mapFault (f : ε → ε) (r : Run σ ε κ ρ α) : Run σ ε κ ρ α :=
  r.handle fun e s => done (.error (f e)) s

end Run

/-- A program, before it has its state. -/
def Steps (σ ε κ : Type) (ρ : κ → Type) (α : Type) : Type := σ → Run σ ε κ ρ α

namespace Steps

variable {σ ε κ : Type} {ρ : κ → Type} {α β : Type}

instance : Monad (Steps σ ε κ ρ) where
  pure a := fun s => .done (.ok a) s
  bind m f := fun s => (m s).bind f

def fail (e : ε) : Steps σ ε κ ρ α := fun s => .done (.error e) s

def ofExcept (r : Except ε α) : Steps σ ε κ ρ α := fun s => .done r s

def get : Steps σ ε κ ρ σ := fun s => .done (.ok s) s

def modify (f : σ → σ) : Steps σ ε κ ρ Unit := fun s => .done (.ok ()) (f s)

def perform (c : κ) : Steps σ ε κ ρ (ρ c) := fun s => .call c s fun x s => .done x s

def orElse (m : Steps σ ε κ ρ α) (f : ε → Steps σ ε κ ρ α) : Steps σ ε κ ρ α :=
  fun s => (m s).handle f

def mapFault (f : ε → ε) (m : Steps σ ε κ ρ α) : Steps σ ε κ ρ α := fun s => (m s).mapFault f

/-- The outcome of a program, faults included. -/
def attempt (m : Steps σ ε κ ρ α) : Steps σ ε κ ρ (Except ε α) :=
  fun s => ((m s).bind fun a s => .done (.ok (Except.ok a)) s).handle
    fun e s => .done (.ok (Except.error e)) s

end Steps

end StyleBuild
