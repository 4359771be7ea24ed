import StyleBuild.Telemetry.Event

/-!
# Throttling deprecation notices

Of each kind of notice the first few are passed on, and the rest only counted. A verbose throttle passes
on everything.
-/

set_option autoImplicit false

namespace StyleBuild

structure Throttle where
  threshold : Nat := 5
  verbose : Bool := false
  /-- Notices seen, by kind, in order of first appearance. -/
  counts : List (String × Nat) := []
  deriving DecidableEq, Repr, Inhabited

namespace Throttle

def count (t : Throttle) (kind : String) : Nat := (t.counts.lookup kind).getD 0

def bump (kind : String) : List (String × Nat) → List (String × Nat)
  | [] => [(kind, 1)]
  | (k, n) :: rest => if k = kind then (k, n + 1) :: rest else (k, n) :: bump kind rest

def record (t : Throttle) (kind : String) : Throttle := { t with counts := bump kind t.counts }

/-- Whether a notice that has just been counted is passed on. -/
def passes (t : Throttle) (kind : String) : Bool := t.verbose || t.count kind ≤ t.threshold

/-- The event for the first notice of a kind that is not passed on. -/
def event? (t : Throttle) (kind : String) : Option Event :=
  if !t.verbose && t.count kind == t.threshold + 1 then some (.throttled kind t.threshold) else none

def omitted (t : Throttle) : List (String × Nat) :=
  if t.verbose then []
  else (t.counts.filter fun c => t.threshold < c.2).map fun c => (c.1, c.2 - t.threshold)

end Throttle

end StyleBuild
