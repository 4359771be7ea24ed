/-!
# Tables

A table is a list of keys and values in the order in which the keys first appeared.
-/

set_option autoImplicit false

namespace StyleBuild.Table

variable {κ α : Type} [DecidableEq κ]

/-- Sets a key: a known one keeps its place, a new one goes to the end. -/
def set (k : κ) (a : α) : List (κ × α) → List (κ × α)
  | [] => [(k, a)]
  | (j, b) :: rest => if j = k then (j, a) :: rest else (j, b) :: set k a rest

/-- Sets a key that is not there yet. -/
def setNew (k : κ) (a : α) : List (κ × α) → List (κ × α)
  | [] => [(k, a)]
  | (j, b) :: rest => if j = k then (j, b) :: rest else (j, b) :: setNew k a rest

def erase (k : κ) (t : List (κ × α)) : List (κ × α) := t.filter fun e => decide (e.1 ≠ k)

def get? (k : κ) : List (κ × α) → Option α
  | [] => none
  | (j, b) :: rest => if j = k then some b else get? k rest

theorem get?_set_self (k : κ) (a : α) (t : List (κ × α)) : get? k (set k a t) = some a := by
  induction t with
  | nil => simp [set, get?]
  | cons e rest ih =>
    obtain ⟨j, b⟩ := e
    by_cases h : j = k <;> simp [set, get?, h, ih]

theorem get?_set_of_ne {j k : κ} (h : k ≠ j) (a : α) (t : List (κ × α)) :
    get? j (set k a t) = get? j t := by
  induction t with
  | nil => simp [set, get?, h]
  | cons e rest ih =>
    obtain ⟨i, b⟩ := e
    by_cases hk : i = k
    · subst hk
      simp [set, get?, h]
    · by_cases hj : i = j
      · subst hj
        simp [set, get?, hk]
      · simp [set, get?, hk, hj, ih]

theorem get?_set (j k : κ) (a : α) (t : List (κ × α)) :
    get? j (set k a t) = if k = j then some a else get? j t := by
  by_cases h : k = j
  · rw [if_pos h, ← h, get?_set_self]
  · rw [if_neg h, get?_set_of_ne h]

theorem get?_setNew (j k : κ) (a : α) (t : List (κ × α)) :
    get? j (setNew k a t) = (get? j t).or (if k = j then some a else none) := by
  induction t with
  | nil => simp [setNew, get?]
  | cons e rest ih =>
    obtain ⟨i, b⟩ := e
    by_cases hk : i = k
    · by_cases hj : i = j
      · simp [setNew, get?, hk, ← hj]
      · have hkj : ¬k = j := fun h => hj (hk.trans h)
        simp [setNew, get?, hk, hkj]
    · by_cases hj : i = j
      · have hjk : ¬j = k := fun h => hk (hj.trans h)
        simp [setNew, get?, hj, hjk]
      · simp [setNew, get?, hk, hj, ih]

theorem setNew_of_known {k : κ} {t : List (κ × α)} (known : (get? k t).isSome) (a : α) :
    setNew k a t = t := by
  induction t with
  | nil => simp [get?] at known
  | cons e rest ih =>
    obtain ⟨i, b⟩ := e
    by_cases h : i = k
    · simp [setNew, h]
    · simp only [get?, h, if_false] at known
      simp [setNew, h, ih known]

theorem get?_erase_self (k : κ) (t : List (κ × α)) : get? k (erase k t) = none := by
  induction t with
  | nil => rfl
  | cons e rest ih =>
    obtain ⟨i, b⟩ := e
    by_cases h : i = k
    · simpa [erase, h] using ih
    · simpa [erase, get?, h] using ih

theorem get?_erase_of_ne {j k : κ} (h : k ≠ j) (t : List (κ × α)) :
    get? j (erase k t) = get? j t := by
  induction t with
  | nil => rfl
  | cons e rest ih =>
    obtain ⟨i, b⟩ := e
    by_cases hk : i = k
    · have hj : ¬i = j := fun hj => h (hk.symm.trans hj)
      simpa [erase, get?, hk, h] using ih
    · by_cases hj : i = j
      · simp [erase, get?, hj, Ne.symm h]
      · simpa [erase, get?, hk, hj] using ih

/-! ## The values of a table, mapped -/

variable {β : Type}

def mapValues (f : α → β) (t : List (κ × α)) : List (κ × β) := t.map fun e => (e.1, f e.2)

@[simp] theorem get?_mapValues (f : α → β) (k : κ) (t : List (κ × α)) :
    get? k (mapValues f t) = (get? k t).map f := by
  induction t with
  | nil => rfl
  | cons e rest ih =>
    obtain ⟨i, b⟩ := e
    by_cases h : i = k
    · simp [mapValues, get?, h]
    · simpa [mapValues, get?, h] using ih

theorem mapValues_set (f : α → β) (k : κ) (a : α) (t : List (κ × α)) :
    mapValues f (set k a t) = set k (f a) (mapValues f t) := by
  induction t with
  | nil => rfl
  | cons e rest ih =>
    obtain ⟨i, b⟩ := e
    by_cases h : i = k
    · simp [mapValues, set, h]
    · simpa [mapValues, set, h] using ih

theorem mapValues_setNew (f : α → β) (k : κ) (a : α) (t : List (κ × α)) :
    mapValues f (setNew k a t) = setNew k (f a) (mapValues f t) := by
  induction t with
  | nil => rfl
  | cons e rest ih =>
    obtain ⟨i, b⟩ := e
    by_cases h : i = k
    · simp [mapValues, setNew, h]
    · simpa [mapValues, setNew, h] using ih

theorem isSome_get?_iff {k : κ} {t : List (κ × α)} : (get? k t).isSome ↔ k ∈ t.map (·.1) := by
  induction t with
  | nil => simp [get?]
  | cons e rest ih =>
    obtain ⟨i, b⟩ := e
    by_cases h : i = k
    · simp [get?, h]
    · simp [get?, h, ih, Ne.symm h]

theorem keys_set (k : κ) (a : α) (t : List (κ × α)) :
    (set k a t).map (·.1) = if k ∈ t.map (·.1) then t.map (·.1) else t.map (·.1) ++ [k] := by
  induction t with
  | nil => rfl
  | cons e rest ih =>
    obtain ⟨i, b⟩ := e
    by_cases h : i = k
    · simp [set, h]
    · by_cases there : k ∈ rest.map (·.1)
      · simp only [set, if_neg h, List.map_cons, ih, if_pos there,
          if_pos (List.mem_cons_of_mem i there)]
      · have new : k ∉ i :: rest.map (·.1) := fun found =>
          (List.mem_cons.mp found).elim (Ne.symm h) there
        simp only [set, if_neg h, List.map_cons, ih, if_neg there, if_neg new, List.cons_append]

theorem keys_setNew (k : κ) (a : α) (t : List (κ × α)) :
    (setNew k a t).map (·.1) = (set k a t).map (·.1) := by
  induction t with
  | nil => rfl
  | cons e rest ih =>
    obtain ⟨i, b⟩ := e
    by_cases h : i = k
    · simp [set, setNew, h]
    · simp only [set, setNew, if_neg h, List.map_cons, ih]

end StyleBuild.Table
