import Mathlib.Data.List.Sort
import StyleBuild.Lines.Toolchain

/-!
# Looking for a toolchain

Packages are installed in any order, but entry points are tried in the order of their names. Among entry points
with different names the search therefore has one course only: it tries those that are asked for, from the least
name on, reports each, and ends at the first one that yields a toolchain.
-/

set_option autoImplicit false

namespace StyleBuild

variable {K : Kit}

namespace EntryPoint

/-! ## What an entry point is good for -/

/-- Loading an entry point yields the toolchain, or a factory that makes it. -/
def Yields (e : EntryPoint K) (t : Toolchain K) : Prop := e.load = .toolchain t ∨ e.load = .factory t

def Usable (e : EntryPoint K) : Prop := ∃ t, e.Yields t

/-- Without a name every entry point is asked for. -/
def Wanted (name : Option String) (e : EntryPoint K) : Prop := ∀ n ∈ name, e.name = n

/-- The event that tells what became of an entry point that was tried. -/
def report (e : EntryPoint K) : Event :=
  match e.toolchain with
  | .ok t => .toolchainLoaded e.name t.name
  | .error f => .toolchainFailed e.name e.value f.message

variable {e : EntryPoint K} {es : List (EntryPoint K)} {t : Toolchain K} {f : Fault}

theorem toolchain_eq_ok_iff : e.toolchain = .ok t ↔ e.Yields t := by
  obtain ⟨name, value, load⟩ := e
  cases load <;> simp [toolchain, Yields]

theorem toolchain_of_not_usable (unusable : ¬ e.Usable) : ∃ f, e.toolchain = .error f := by
  cases loaded : e.toolchain with
  | ok t => exact absurd ⟨t, toolchain_eq_ok_iff.mp loaded⟩ unusable
  | error f => exact ⟨f, rfl⟩

theorem Yields.unique {t' : Toolchain K} (yields : e.Yields t) (other : e.Yields t') : t = t' := by
  rw [← toolchain_eq_ok_iff] at yields other
  exact Except.ok.inj (yields.symm.trans other)

/-! ## Trying one after another -/

/-- The entry points of a list that are tried: those up to the first that is usable. -/
def tried : List (EntryPoint K) → List (EntryPoint K)
  | [] => []
  | e :: rest =>
    match e.toolchain with
    | .ok _ => [e]
    | .error _ => e :: tried rest

theorem tried_of_usable (usable : e.Usable) : tried (e :: es) = [e] := by
  obtain ⟨t, yields⟩ := usable
  rw [tried, toolchain_eq_ok_iff.mpr yields]

theorem tried_of_not_usable (unusable : ¬ e.Usable) : tried (e :: es) = e :: tried es := by
  obtain ⟨f, failed⟩ := toolchain_of_not_usable unusable
  rw [tried, failed]

theorem firstUsable_of_yields (name : Value) (yields : e.Yields t) :
    firstUsable name (e :: es) = (.ok t, [e.report]) := by
  rw [firstUsable, report, toolchain_eq_ok_iff.mpr yields]

theorem firstUsable_of_not_usable (name : Value) (unusable : ¬ e.Usable) :
    firstUsable name (e :: es) = ((firstUsable name es).1, e.report :: (firstUsable name es).2) := by
  obtain ⟨f, failed⟩ := toolchain_of_not_usable unusable
  rw [firstUsable, report, failed]

theorem tried_sublist (es : List (EntryPoint K)) : (tried es).Sublist es := by
  induction es with
  | nil => exact List.nil_sublist []
  | cons e rest ih =>
    by_cases usable : e.Usable
    · rw [tried_of_usable usable]
      exact (List.nil_sublist rest).cons_cons e
    · rw [tried_of_not_usable usable]
      exact ih.cons_cons e

/-- Each entry point that is tried is reported, and no other. -/
theorem firstUsable_reports (name : Value) (es : List (EntryPoint K)) :
    (firstUsable name es).2 = (tried es).map report := by
  induction es with
  | nil => rfl
  | cons e rest ih =>
    by_cases usable : e.Usable
    · obtain ⟨t, yields⟩ := usable
      rw [firstUsable_of_yields name yields, tried_of_usable ⟨t, yields⟩]
      rfl
    · rw [firstUsable_of_not_usable name usable, tried_of_not_usable usable, ih]
      rfl

theorem firstUsable_eq_error_iff {name : Value} :
    (firstUsable name es).1 = .error f ↔ f = noneUsable name ∧ ∀ e ∈ es, ¬ e.Usable := by
  induction es with
  | nil => simp [firstUsable, eq_comm]
  | cons e rest ih =>
    by_cases usable : e.Usable
    · obtain ⟨t, yields⟩ := usable
      rw [firstUsable_of_yields name yields, List.forall_mem_cons]
      constructor
      · rintro ⟨⟩
      · intro none
        exact absurd ⟨t, yields⟩ none.2.1
    · rw [firstUsable_of_not_usable name usable, List.forall_mem_cons, ih]
      simp [usable]

/-! ## Entry points in the order of their names -/

/-- Entry points from the least name on, no name twice. -/
def Ordered (es : List (EntryPoint K)) : Prop := es.Pairwise fun a b => a.name < b.name

theorem Ordered.least {rest : List (EntryPoint K)} (ordered : Ordered (e :: rest)) {e' : EntryPoint K}
    (there : e' ∈ e :: rest) : e.name ≤ e'.name := by
  rcases List.mem_cons.mp there with rfl | later
  · exact String.le_refl _
  · exact Std.le_of_lt (List.rel_of_pairwise_cons ordered later)

/-- The first toolchain is the one with the least name. -/
theorem firstUsable_eq_ok_iff {name : Value} (ordered : Ordered es) :
    (firstUsable name es).1 = .ok t ↔
      ∃ e ∈ es, e.Yields t ∧ ∀ e' ∈ es, e'.Usable → e.name ≤ e'.name := by
  induction es with
  | nil => simp [firstUsable]
  | cons e rest ih =>
    have tail : Ordered rest := List.Pairwise.of_cons ordered
    by_cases usable : e.Usable
    · obtain ⟨u, yields⟩ := usable
      rw [firstUsable_of_yields name yields]
      constructor
      · rintro ⟨⟩
        exact ⟨e, List.mem_cons_self, yields, fun e' there _ => ordered.least there⟩
      · rintro ⟨e', there, yields', least⟩
        have above : e'.name ≤ e.name := least e List.mem_cons_self ⟨u, yields⟩
        rcases List.mem_cons.mp there with rfl | later
        · rw [yields.unique yields']
        · exact absurd (List.rel_of_pairwise_cons ordered later) (String.not_lt.mpr above)
    · rw [firstUsable_of_not_usable name usable, ih tail]
      constructor
      · rintro ⟨e', there, yields, least⟩
        refine ⟨e', List.mem_cons_of_mem e there, yields, ?_⟩
        rw [List.forall_mem_cons]
        exact ⟨fun here => absurd here usable, least⟩
      · rintro ⟨e', there, yields, least⟩
        rw [List.forall_mem_cons] at least
        rcases List.mem_cons.mp there with rfl | later
        · exact absurd ⟨t, yields⟩ usable
        · exact ⟨e', later, yields, least.2⟩

/-- An entry point is tried unless one before it is usable. -/
theorem mem_tried_iff (ordered : Ordered es) :
    e ∈ tried es ↔ e ∈ es ∧ ∀ e' ∈ es, e'.name < e.name → ¬ e'.Usable := by
  induction es with
  | nil => simp [tried]
  | cons first rest ih =>
    have tail : Ordered rest := List.Pairwise.of_cons ordered
    by_cases usable : first.Usable
    · rw [tried_of_usable usable, List.mem_singleton, List.forall_mem_cons]
      constructor
      · rintro rfl
        refine ⟨List.mem_cons_self, fun same => absurd same (String.lt_irrefl _), fun e' later below => ?_⟩
        exact absurd below (String.not_lt.mpr (ordered.least (List.mem_cons_of_mem _ later)))
      · rintro ⟨there, unusable, -⟩
        rcases List.mem_cons.mp there with rfl | later
        · rfl
        · exact absurd usable (unusable (List.rel_of_pairwise_cons ordered later))
    · rw [tried_of_not_usable usable, List.mem_cons, List.mem_cons, List.forall_mem_cons, ih tail]
      constructor
      · rintro (rfl | ⟨later, others⟩)
        · refine ⟨.inl rfl, fun _ => usable, fun e' later below => ?_⟩
          exact absurd below (String.not_lt.mpr (ordered.least (List.mem_cons_of_mem _ later)))
        · exact ⟨.inr later, fun _ => usable, others⟩
      · rintro ⟨rfl | later, -, others⟩
        · exact .inl rfl
        · exact .inr ⟨later, others⟩

/-! ## The search -/

/-- The entry points that a search goes through, in order. -/
def candidates (name : Option String) (es : List (EntryPoint K)) : List (EntryPoint K) :=
  let sorted := es.mergeSort fun a b => decide (a.name ≤ b.name)
  match name with
  | none => sorted
  | some n => sorted.filter fun e => e.name == n

theorem discover_eq (name : Option String) (es : List (EntryPoint K)) :
    discover (.ofText? name) es = firstUsable (.ofText? name) (candidates name es) := by
  cases name <;> rfl

theorem mem_candidates_iff {name : Option String} :
    e ∈ candidates name es ↔ e ∈ es ∧ e.Wanted name := by
  cases name <;> simp [candidates, Wanted]

section

variable (distinct : (es.map EntryPoint.name).Nodup)
include distinct

theorem ordered_mergeSort : Ordered (es.mergeSort fun a b => decide (a.name ≤ b.name)) := by
  have sorted : (es.mergeSort fun a b => decide (a.name ≤ b.name)).Pairwise
      fun a b => decide (a.name ≤ b.name) = true := by
    apply List.pairwise_mergeSort
    · intro a b c below above
      rw [decide_eq_true_eq] at below above ⊢
      exact String.le_trans below above
    · intro a b
      rw [Bool.or_eq_true, decide_eq_true_eq, decide_eq_true_eq]
      exact String.le_total a.name b.name
  have different : (es.mergeSort fun a b => decide (a.name ≤ b.name)).Pairwise
      fun a b => a.name ≠ b.name := by
    rw [← List.pairwise_map]
    exact ((List.mergeSort_perm es _).map EntryPoint.name).nodup_iff.mpr distinct
  refine (sorted.and different).imp fun {a b} both => ?_
  exact Std.lt_of_le_of_ne (of_decide_eq_true both.1) both.2

theorem ordered_candidates (name : Option String) : Ordered (candidates name es) := by
  have sorted := ordered_mergeSort distinct
  cases name with
  | none => exact sorted
  | some n => exact sorted.filter _

theorem candidates_perm {es' : List (EntryPoint K)} (rearranged : es'.Perm es) (name : Option String) :
    candidates name es' = candidates name es := by
  have distinct' : (es'.map EntryPoint.name).Nodup := (rearranged.map _).nodup_iff.mpr distinct
  have sorted : (es'.mergeSort fun a b => decide (a.name ≤ b.name)) =
      es.mergeSort fun a b => decide (a.name ≤ b.name) := by
    refine List.Perm.eq_of_pairwise ?_ (ordered_mergeSort distinct') (ordered_mergeSort distinct) ?_
    · intro a b _ _ below above
      exact absurd (String.lt_trans below above) (String.lt_irrefl _)
    · exact (List.mergeSort_perm es' _).trans (rearranged.trans (List.mergeSort_perm es _).symm)
  unfold candidates
  rw [sorted]

end

/-- Entry points with different names lead to one toolchain or to one failure, with the same events, in whatever
order they are listed. The toolchain is that of the least name that is asked for and usable; the failure says that
there is none. The events are the reports of those that are tried, each once and in the order of the names: an entry
point is tried if it is asked for and none with a smaller name is usable. -/
theorem discovery_order_free (name : Option String) {es es' : List (EntryPoint K)}
    (distinct : (es.map EntryPoint.name).Nodup) (rearranged : es'.Perm es) :
    discover (.ofText? name) es' = discover (.ofText? name) es ∧
      (∀ t, (discover (.ofText? name) es).1 = .ok t ↔
        ∃ e ∈ es, e.Wanted name ∧ e.Yields t ∧
          ∀ e' ∈ es, e'.Wanted name → e'.Usable → e.name ≤ e'.name) ∧
      (∀ f, (discover (.ofText? name) es).1 = .error f ↔
        f = noneUsable (.ofText? name) ∧ ∀ e ∈ es, e.Wanted name → ¬ e.Usable) ∧
      ∃ reported : List (EntryPoint K), Ordered reported ∧
        (discover (.ofText? name) es).2 = reported.map report ∧
        ∀ e, e ∈ reported ↔ e ∈ es ∧ e.Wanted name ∧
          ∀ e' ∈ es, e'.Wanted name → e'.name < e.name → ¬ e'.Usable := by
  have ordered := ordered_candidates distinct name
  rw [discover_eq, discover_eq, candidates_perm distinct rearranged]
  refine ⟨rfl, fun t => ?_, fun f => ?_, tried (candidates name es), ?_, ?_, fun e => ?_⟩
  · rw [firstUsable_eq_ok_iff ordered]
    simp only [mem_candidates_iff, and_assoc, and_imp]
  · rw [firstUsable_eq_error_iff]
    simp only [mem_candidates_iff, and_imp]
  · exact ordered.sublist (tried_sublist _)
  · exact firstUsable_reports _ _
  · rw [mem_tried_iff ordered]
    simp only [mem_candidates_iff, and_assoc, and_imp]

end EntryPoint

namespace Lines

open EntryPoint

def brokenOffer : EntryPoint kit := ⟨"alpha", "a:make", .factoryRaises (.raised ⟨"ValueError", "no", []⟩)⟩

def madeOffer : EntryPoint kit := ⟨"beta", "b:make", .factory (toolchain { name := "beta" })⟩

def plainOffer : EntryPoint kit := ⟨"zeta", "z:tc", .toolchain (toolchain { name := "zeta" })⟩

theorem made_offer_found :
    ([plainOffer, brokenOffer, madeOffer].map EntryPoint.name).Nodup ∧
      [brokenOffer, madeOffer, plainOffer].Perm [plainOffer, brokenOffer, madeOffer] ∧
      (discover (.ofText? none) [brokenOffer, madeOffer, plainOffer]).1 =
        .ok (toolchain { name := "beta" }) := by
  have distinct : ([plainOffer, brokenOffer, madeOffer].map EntryPoint.name).Nodup := by decide
  have rearranged : [brokenOffer, madeOffer, plainOffer].Perm [plainOffer, brokenOffer, madeOffer] :=
    @List.perm_append_comm _ [brokenOffer, madeOffer] [plainOffer]
  refine ⟨distinct, rearranged, ?_⟩
  obtain ⟨same, found, -⟩ := discovery_order_free none distinct rearranged
  rw [same, found]
  refine ⟨madeOffer, by simp, by simp [Wanted], .inr rfl, ?_⟩
  intro e there _ usable
  simp only [List.mem_cons, List.not_mem_nil, or_false] at there
  obtain rfl | rfl | rfl := there
  · decide
  · obtain ⟨t, direct | made⟩ := usable
    · cases direct
    · cases made
  · decide

end Lines

end StyleBuild
