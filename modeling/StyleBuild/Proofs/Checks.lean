import Mathlib.Data.List.Forall2
import StyleBuild.Value.Check

/-!
# What passes a check

Checks put together pass exactly if each of them passes, and then give what is made of their results. A
computation that may fail is taken apart in the same way.
-/

set_option autoImplicit false

namespace StyleBuild

theorem bind_eq_ok_iff {ε α β : Type} {x : Except ε α} {f : α → Except ε β} {b : β} :
    (x >>= f) = .ok b ↔ ∃ a, x = .ok a ∧ f a = .ok b := by
  cases x with
  | error e => simp [bind, Except.bind]
  | ok a => simp [bind, Except.bind]

theorem mapError_eq_ok_iff {ε ε' α : Type} {g : ε → ε'} {x : Except ε α} {a : α} :
    x.mapError g = .ok a ↔ x = .ok a := by
  cases x <;> simp [Except.mapError]

theorem mapM_eq_ok_iff {ε α β : Type} {f : α → Except ε β} {xs : List α} {ys : List β} :
    xs.mapM f = .ok ys ↔ List.Forall₂ (fun x y => f x = .ok y) xs ys := by
  induction xs generalizing ys with
  | nil => exact ⟨fun made => Except.ok.inj made ▸ .nil, fun none_left => by cases none_left; rfl⟩
  | cons x rest ih =>
    simp only [List.mapM_cons, bind_eq_ok_iff, ih]
    constructor
    · rintro ⟨y, first, more, others, made⟩
      exact Except.ok.inj made ▸ .cons first others
    · rintro (_ | ⟨first, others⟩)
      exact ⟨_, first, _, others, rfl⟩

/-- What fails for a list fails for one of its elements, after it was done for those before it. -/
theorem mapM_eq_error_iff {ε α β : Type} {f : α → Except ε β} {xs : List α} {e : ε} :
    xs.mapM f = .error e ↔ ∃ before x after, xs = before ++ x :: after ∧ (∀ y ∈ before, ∃ b, f y = .ok b) ∧
      f x = .error e := by
  induction xs with
  | nil => simp [pure, Except.pure]
  | cons x rest ih =>
    rw [List.mapM_cons]
    cases first : f x with
    | error e' =>
      constructor
      · intro failed
        exact ⟨[], x, rest, rfl, by simp, by rw [first, Except.error.inj failed]⟩
      · rintro ⟨_ | ⟨y, before⟩, z, after, split, done, failed⟩
        · obtain ⟨rfl, rfl⟩ := List.cons.inj split
          rw [first] at failed
          exact congrArg Except.error (Except.error.inj failed)
        · obtain ⟨rfl, rfl⟩ := List.cons.inj split
          obtain ⟨b, read⟩ := done x List.mem_cons_self
          rw [first] at read
          cases read
    | ok b =>
      have later : (rest.mapM f >>= fun bs => pure (b :: bs)) = .error e ↔ rest.mapM f = .error e := by
        cases rest.mapM f <;> simp [bind, Except.bind, pure, Except.pure]
      refine later.trans (ih.trans ⟨?_, ?_⟩)
      · rintro ⟨before, z, after, rfl, done, failed⟩
        exact ⟨x :: before, z, after, rfl, List.forall_mem_cons.mpr ⟨⟨b, first⟩, done⟩, failed⟩
      · rintro ⟨_ | ⟨y, before⟩, z, after, split, done, failed⟩
        · obtain ⟨rfl, rfl⟩ := List.cons.inj split
          rw [first] at failed
          cases failed
        · obtain ⟨rfl, rfl⟩ := List.cons.inj split
          exact ⟨before, z, after, rfl, fun y there => done y (List.mem_cons_of_mem _ there), failed⟩

namespace Checked

variable {α β : Type}

theorem seq_eq_ok_iff {f : Checked (α → β)} {x : Checked α} {b : β} :
    (f <*> x).outcome = .ok b ↔ ∃ g a, f.outcome = .ok g ∧ x.outcome = .ok a ∧ g a = b := by
  obtain ⟨first⟩ := f
  obtain ⟨second⟩ := x
  constructor
  · intro passed
    cases first with
    | error vs => cases second <;> cases passed
    | ok g =>
      cases second with
      | error vs => cases passed
      | ok a => exact ⟨g, a, rfl, rfl, Except.ok.inj passed⟩
  · rintro ⟨g, a, rfl, rfl, rfl⟩
    rfl

theorem map_eq_ok_iff {f : α → β} {x : Checked α} {b : β} :
    (f <$> x).outcome = .ok b ↔ ∃ a, x.outcome = .ok a ∧ f a = b := by
  have mapped : (f <$> x).outcome = .ok b ↔ ∃ g a, (.ok f : Except (List Violation) (α → β)) = .ok g ∧
      x.outcome = .ok a ∧ g a = b := seq_eq_ok_iff (f := pure f)
  simpa using mapped

/-- What holds of all results of checks put together is shown one check at a time, from the last one on. -/
theorem forall_seq_ok {f : Checked (α → β)} {x : Checked α} {P : β → Prop}
    (each : ∀ g, f.outcome = .ok g → ∀ a, x.outcome = .ok a → P (g a)) :
    ∀ b, (f <*> x).outcome = .ok b → P b := by
  intro b passed
  obtain ⟨g, a, first, second, rfl⟩ := seq_eq_ok_iff.mp passed
  exact each g first a second

theorem forall_map_ok {f : α → β} {x : Checked α} {P : β → Prop}
    (each : ∀ a, x.outcome = .ok a → P (f a)) : ∀ b, (f <$> x).outcome = .ok b → P b := by
  intro b passed
  obtain ⟨a, first, rfl⟩ := map_eq_ok_iff.mp passed
  exact each a first

theorem under_eq_ok_iff {p : Place} {c : Checked α} {a : α} :
    (c.under p).outcome = .ok a ↔ c.outcome = .ok a := by
  unfold under
  cases c.outcome <;> simp

theorem andThen_eq_ok_iff {c : Checked α} {k : α → Checked β} {b : β} :
    (c.andThen k).outcome = .ok b ↔ ∃ a, c.outcome = .ok a ∧ (k a).outcome = .ok b := by
  unfold andThen
  cases c.outcome <;> simp

end Checked

namespace Check

theorem text_eq_ok_iff {v : Value} {s : String} : (text v).outcome = .ok s ↔ v = .text s := by
  constructor
  · intro passed
    cases v with
    | text given => rw [Except.ok.inj passed]
    | _ => cases passed
  · rintro rfl
    rfl

theorem nonempty_eq_ok_iff {v : Value} {s : String} :
    (nonempty v).outcome = .ok s ↔ v = .text s ∧ s ≠ "" := by
  rw [nonempty, Checked.andThen_eq_ok_iff]
  constructor
  · rintro ⟨given, is_text, long⟩
    split at long
    · cases long
    · next filled =>
      obtain rfl : given = s := Except.ok.inj long
      exact ⟨text_eq_ok_iff.mp is_text, by simpa using filled⟩
  · rintro ⟨is_text, filled⟩
    refine ⟨s, text_eq_ok_iff.mpr is_text, ?_⟩
    rw [if_neg (by simpa using filled)]
    rfl

theorem items_eq_ok_iff {α : Type} {check : Check α} {i : Nat} {vs : List Value} {as : List α} :
    (items check i vs).outcome = .ok as ↔ List.Forall₂ (fun v a => (check v).outcome = .ok a) vs as := by
  induction vs generalizing i as with
  | nil => exact ⟨fun passed => Except.ok.inj passed ▸ .nil, fun none_left => by cases none_left; rfl⟩
  | cons v rest ih =>
    simp only [items, Checked.seq_eq_ok_iff, Checked.map_eq_ok_iff, Checked.under_eq_ok_iff, ih]
    constructor
    · rintro ⟨_, more, ⟨a, first, rfl⟩, others, rfl⟩
      exact .cons first others
    · rintro (_ | ⟨first, others⟩)
      exact ⟨_, _, ⟨_, first, rfl⟩, others, rfl⟩

end Check

end StyleBuild
