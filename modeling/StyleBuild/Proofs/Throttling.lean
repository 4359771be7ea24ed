import StyleBuild.Session

/-!
# What a throttle passes on

A throttle decides about a notice from a table of counts that it keeps as it goes. Over a run of notices its
table says how many of each kind came before, so each decision can be read off the run itself: a notice is
passed on where fewer earlier ones of its kind than the threshold stand in front of it. The log, the table
of what was left out and the events follow from these decisions.
-/

set_option autoImplicit false

namespace StyleBuild

structure Notice where
  kind : String
  message : String
  span : Option Span

def Notice.diagnostic (n : Notice) : Diagnostic := .warn n.message n.span true

/-- Reports notices one after the other; the flags say which ones were passed on. -/
def Session.notices {K : Kit} (s : Session K) : List Notice → List Bool × Session K
  | [] => ([], s)
  | n :: rest =>
    let (passed, s) := s.notice n.kind n.message n.span
    let (flags, s) := s.notices rest
    (passed :: flags, s)

namespace Throttle

/-! ## The table of counts -/

theorem lookup_cons_getD (k : String) (n : Nat) (rest : List (String × Nat)) (kind : String) :
    (((k, n) :: rest).lookup kind).getD 0 = if k = kind then n else (rest.lookup kind).getD 0 := by
  rw [List.lookup_cons]
  by_cases same : k = kind
  · simp [same]
  · have apart : (kind == k) = false := beq_eq_false_iff_ne.mpr (Ne.symm same)
    simp only [apart, same, if_false]

theorem lookup_bump (kind other : String) (counts : List (String × Nat)) :
    ((bump kind counts).lookup other).getD 0 =
      (counts.lookup other).getD 0 + if kind = other then 1 else 0 := by
  induction counts with
  | nil =>
    rw [bump, lookup_cons_getD]
    split
    · rfl
    · rfl
  | cons entry rest ih =>
    obtain ⟨k, n⟩ := entry
    unfold bump
    by_cases known : k = kind
    · simp only [known, if_true, lookup_cons_getD]
      split
      · rfl
      · rfl
    · simp only [known, if_false, lookup_cons_getD, ih]
      by_cases same : k = other
      · have apart : ¬kind = other := fun there => known (same.trans there.symm)
        simp only [same, apart, if_true, if_false, Nat.add_zero]
      · simp only [same, if_false]

theorem count_record (t : Throttle) (kind other : String) :
    (t.record kind).count other = t.count other + if kind = other then 1 else 0 :=
  lookup_bump kind other t.counts

theorem bump_eq_set (kind : String) (counts : List (String × Nat)) :
    bump kind counts = Table.set kind ((counts.lookup kind).getD 0 + 1) counts := by
  induction counts with
  | nil => rfl
  | cons entry rest ih =>
    obtain ⟨k, n⟩ := entry
    rw [bump, Table.set, lookup_cons_getD, ih]
    by_cases known : k = kind
    · simp only [known, if_true]
    · simp only [known, if_false]

theorem nodup_bump {counts : List (String × Nat)} (unique : (counts.map (·.1)).Nodup) (kind : String) :
    ((bump kind counts).map (·.1)).Nodup := by
  rw [bump_eq_set, Table.keys_set]
  split
  · exact unique
  · next new =>
    rw [List.nodup_append]
    refine ⟨unique, List.pairwise_singleton _ kind, ?_⟩
    intro k there j single same
    rw [List.mem_singleton] at single
    exact new (single ▸ same ▸ there)

theorem lookup_eq_zero_of_absent {kind : String} {counts : List (String × Nat)}
    (absent : kind ∉ counts.map (·.1)) : (counts.lookup kind).getD 0 = 0 := by
  induction counts with
  | nil => rfl
  | cons entry rest ih =>
    obtain ⟨k, n⟩ := entry
    rw [List.map_cons, List.mem_cons, not_or] at absent
    rw [lookup_cons_getD, if_neg (Ne.symm absent.1), ih absent.2]

/-! ## What is left out -/

theorem lookup_omitted {t : Throttle} (unique : (t.counts.map (·.1)).Nodup) (kind : String) :
    t.omitted.lookup kind
      = if t.verbose = false ∧ t.threshold < t.count kind then some (t.count kind - t.threshold) else none := by
  obtain ⟨threshold, verbose, counts⟩ := t
  cases verbose with
  | true => simp [omitted]
  | false =>
    simp only [omitted, count, Bool.false_eq_true, if_false, true_and] at unique ⊢
    induction counts with
    | nil => rfl
    | cons entry rest ih =>
      obtain ⟨k, n⟩ := entry
      rw [List.map_cons, List.nodup_cons] at unique
      have later := ih unique.2
      rw [lookup_cons_getD, List.filter_cons]
      by_cases same : k = kind
      · subst same
        rw [lookup_eq_zero_of_absent unique.1, if_neg (Nat.not_lt_zero threshold)] at later
        by_cases above : threshold < n
        · simp [above]
        · simp only [above, decide_false, Bool.false_eq_true, if_false, if_true, later]
      · by_cases above : threshold < n
        · have apart : (kind == k) = false := beq_eq_false_iff_ne.mpr (Ne.symm same)
          simp only [above, decide_true, if_true, List.map_cons, List.lookup_cons, apart, later, same, if_false]
        · simp only [above, decide_false, Bool.false_eq_true, if_false, later, same]

theorem mem_omitted_iff {t : Throttle} (unique : (t.counts.map (·.1)).Nodup) (kind : String) :
    kind ∈ t.omitted.map (·.1) ↔ t.verbose = false ∧ t.threshold < t.count kind := by
  have listed : kind ∈ t.omitted.map (·.1) ↔ (t.omitted.lookup kind).isSome := by
    rw [List.lookup_isSome_iff, List.mem_map]
    simp only [beq_iff_eq, @eq_comm String kind]
  rw [listed, lookup_omitted unique]
  split
  · next more => simp [more]
  · next few => simp [few]

/-! ## Decisions read off the run -/

/-- Whether a notice is to be passed on after some earlier ones. -/
def due (t : Throttle) (earlier : List Notice) (n : Notice) : Bool :=
  t.verbose || earlier.countP (·.kind == n.kind) < t.threshold

def rulings (t : Throttle) : List Notice → List Notice → List (Notice × Bool)
  | _, [] => []
  | earlier, n :: rest => (n, t.due earlier n) :: t.rulings (earlier ++ [n]) rest

/-- A kind is announced with its first notice that is not passed on. -/
def announced (t : Throttle) : List Notice → List Notice → List Event
  | _, [] => []
  | earlier, n :: rest =>
    (if !t.verbose && earlier.countP (·.kind == n.kind) == t.threshold then [.throttled n.kind t.threshold]
      else []) ++ t.announced (earlier ++ [n]) rest

theorem map_snd_rulings (t : Throttle) (earlier reports : List Notice) :
    (t.rulings earlier reports).map (·.2) = reports.mapIdx fun i n => t.due (earlier ++ reports.take i) n := by
  induction reports generalizing earlier with
  | nil => rfl
  | cons n rest ih =>
    rw [rulings, List.map_cons, ih, List.mapIdx_cons]
    simp only [List.take_zero, List.append_nil, List.take_succ_cons, List.append_assoc, List.cons_append,
      List.nil_append]

@[simp] theorem map_fst_rulings (t : Throttle) (earlier reports : List Notice) :
    (t.rulings earlier reports).map (·.1) = reports := by
  induction reports generalizing earlier with
  | nil => rfl
  | cons n rest ih => rw [rulings, List.map_cons, ih]

theorem announced_cons (t : Throttle) (earlier : List Notice) (n : Notice) (rest : List Notice) :
    t.announced earlier (n :: rest) = t.announced earlier [n] ++ t.announced (earlier ++ [n]) rest := by
  simp only [announced, List.append_nil]

theorem countP_snoc_kind (earlier : List Notice) (n : Notice) (kind : String) :
    (earlier ++ [n]).countP (·.kind == kind)
      = earlier.countP (·.kind == kind) + if n.kind = kind then 1 else 0 := by
  rw [List.countP_append, List.countP_singleton]
  simp only [beq_iff_eq]

/-- Of the notices of a kind the first ones are passed on, up to the threshold. -/
theorem countP_rulings (t : Throttle) (earlier reports : List Notice) (kind : String) :
    (t.rulings earlier reports).countP (fun r => r.1.kind == kind && r.2)
      = if t.verbose then reports.countP (·.kind == kind)
        else min t.threshold (earlier.countP (·.kind == kind) + reports.countP (·.kind == kind))
          - min t.threshold (earlier.countP (·.kind == kind)) := by
  induction reports generalizing earlier with
  | nil => simp [rulings]
  | cons n rest ih =>
    rw [rulings, List.countP_cons, List.countP_cons, ih, countP_snoc_kind]
    by_cases same : n.kind = kind
    · subst same
      simp only [due, beq_self_eq_true, Bool.true_and, Bool.or_eq_true, decide_eq_true_eq, if_true]
      cases t.verbose with
      | true => simp
      | false =>
        simp only [Bool.false_eq_true, false_or, if_false]
        split
        · omega
        · omega
    · simp [same]

/-- Of a kind's notices some are not passed on where there are more than the threshold. -/
theorem exists_held_iff (t : Throttle) (reports : List Notice) (kind : String) :
    (∃ n, (n, false) ∈ t.rulings [] reports ∧ n.kind = kind)
      ↔ t.verbose = false ∧ t.threshold < reports.countP (·.kind == kind) := by
  have split : (t.rulings [] reports).countP (fun r => r.1.kind == kind)
      = (t.rulings [] reports).countP (fun r => r.1.kind == kind && r.2)
        + (t.rulings [] reports).countP (fun r => r.1.kind == kind && !r.2) := by
    rw [List.countP_eq_countP_filter_add _ _ (·.2)]
    simp only [List.countP_filter]
  have all : (t.rulings [] reports).countP (fun r => r.1.kind == kind)
      = reports.countP (·.kind == kind) := by
    have each := List.countP_map (p := fun n : Notice => n.kind == kind) (f := Prod.fst)
      (l := t.rulings [] reports)
    rw [map_fst_rulings] at each
    exact each.symm
  have passed := countP_rulings t [] reports kind
  have held : (∃ n, (n, false) ∈ t.rulings [] reports ∧ n.kind = kind)
      ↔ 0 < (t.rulings [] reports).countP (fun r => r.1.kind == kind && !r.2) := by
    rw [List.countP_pos_iff]
    constructor
    · rintro ⟨n, there, same⟩
      exact ⟨(n, false), there, by simp [same]⟩
    · rintro ⟨⟨n, flag⟩, there, found⟩
      simp only [Bool.and_eq_true, beq_iff_eq, Bool.not_eq_true'] at found
      exact ⟨n, found.2 ▸ there, found.1⟩
  rw [held]
  rw [all, passed] at split
  cases verbose : t.verbose with
  | true =>
    simp only [verbose, if_true] at split
    simp only [Bool.true_eq_false, false_and, iff_false]
    omega
  | false =>
    simp only [verbose, Bool.false_eq_true, if_false, List.countP_nil] at split
    simp only [true_and]
    omega

theorem count_announced (t : Throttle) (earlier reports : List Notice) (kind : String) :
    (t.announced earlier reports).count (.throttled kind t.threshold)
      = if t.verbose = false ∧ earlier.countP (·.kind == kind) ≤ t.threshold
            ∧ t.threshold < earlier.countP (·.kind == kind) + reports.countP (·.kind == kind) then 1
        else 0 := by
  induction reports generalizing earlier with
  | nil =>
    rw [announced, List.count_nil, List.countP_nil, if_neg]
    omega
  | cons n rest ih =>
    rw [announced, List.count_append, ih, countP_snoc_kind, List.countP_cons]
    by_cases same : n.kind = kind
    · subst same
      simp only [beq_self_eq_true, if_true]
      cases t.verbose with
      | true => simp
      | false =>
        simp only [Bool.not_false, Bool.true_and, beq_iff_eq, true_and]
        by_cases reached : earlier.countP (·.kind == n.kind) = t.threshold
        · rw [if_pos reached, if_neg (by omega), if_pos (by omega)]
          simp
        · rw [if_neg reached, List.count_nil, Nat.zero_add]
          split
          · rw [if_pos (by omega)]
          · rw [if_neg (by omega)]
    · have other : Event.throttled n.kind t.threshold ≠ .throttled kind t.threshold := by
        intro told
        injection told with told
        exact same told
      simp only [same, beq_eq_false_iff_ne.mpr same, if_false, Nat.add_zero, Bool.false_eq_true]
      split
      · rw [List.count_cons_of_ne other, List.count_nil, Nat.zero_add]
      · rw [List.count_nil, Nat.zero_add]

theorem of_mem_announced {t : Throttle} {earlier reports : List Notice} {e : Event}
    (told : e ∈ t.announced earlier reports) : ∃ kind, e = .throttled kind t.threshold := by
  induction reports generalizing earlier with
  | nil => simp [announced] at told
  | cons n rest ih =>
    rw [announced, List.mem_append] at told
    rcases told with now | later
    · split at now
      · exact ⟨n.kind, List.mem_singleton.mp now⟩
      · simp at now
    · exact ih later

/-- Over a whole run the kinds that are announced are those of which a notice was not passed on. -/
theorem count_announced_whole (t : Throttle) (reports : List Notice) (kind : String) :
    (t.announced [] reports).count (.throttled kind t.threshold)
      = if t.verbose = false ∧ t.threshold < reports.countP (·.kind == kind) then 1 else 0 := by
  rw [count_announced]
  simp only [List.countP_nil, Nat.zero_le, true_and, Nat.zero_add]

theorem held_of_mem_announced {t : Throttle} {reports : List Notice} {e : Event}
    (told : e ∈ t.announced [] reports) :
    ∃ kind, (∃ n, (n, false) ∈ t.rulings [] reports ∧ n.kind = kind) ∧ e = .throttled kind t.threshold := by
  obtain ⟨kind, rfl⟩ := of_mem_announced told
  have once := List.count_pos_iff.mpr told
  refine ⟨kind, ?_, rfl⟩
  rw [exists_held_iff]
  rw [count_announced_whole] at once
  split at once
  · next several => exact several
  · omega

/-- What is decided about the notices of one kind depends on these alone. -/
theorem filter_rulings (t : Throttle) (earlier reports : List Notice) (kind : String) :
    (t.rulings earlier reports).filter (·.1.kind == kind)
      = t.rulings (earlier.filter (·.kind == kind)) (reports.filter (·.kind == kind)) := by
  induction reports generalizing earlier with
  | nil => rfl
  | cons n rest ih =>
    by_cases same : n.kind = kind
    · subst same
      have before : t.due (earlier.filter (·.kind == n.kind)) n = t.due earlier n := by
        rw [due, due, List.countP_filter]
        simp only [Bool.and_self]
      simp only [rulings, List.filter_cons, beq_self_eq_true, if_true, ih, List.filter_append,
        List.filter_nil, before]
    · simp only [rulings, List.filter_cons, beq_eq_false_iff_ne.mpr same, Bool.false_eq_true, if_false, ih,
        List.filter_append, List.filter_nil, List.append_nil]

/-! ## The table along a run -/

/-- A throttle with the settings of another that has counted some notices. -/
structure Counted (t : Throttle) (earlier : List Notice) (now : Throttle) : Prop where
  threshold : now.threshold = t.threshold
  verbose : now.verbose = t.verbose
  count : ∀ kind, now.count kind = earlier.countP (·.kind == kind)
  unique : (now.counts.map (·.1)).Nodup

theorem Counted.record {t now : Throttle} {earlier : List Notice} (counted : Counted t earlier now)
    (n : Notice) : Counted t (earlier ++ [n]) (now.record n.kind) where
  threshold := counted.threshold
  verbose := counted.verbose
  count kind := by rw [count_record, counted.count, countP_snoc_kind]
  unique := nodup_bump counted.unique n.kind

/-- What was counted of a kind is what was passed on and what was left out of it. -/
theorem Counted.balance {t now : Throttle} {reports : List Notice} (counted : Counted t reports now)
    (kind : String) :
    now.count kind = (t.rulings [] reports).countP (fun r => r.1.kind == kind && r.2)
      + (now.omitted.lookup kind).getD 0 := by
  rw [countP_rulings, lookup_omitted counted.unique, counted.verbose, counted.threshold, counted.count]
  cases t.verbose with
  | true => simp
  | false =>
    simp only [Bool.false_eq_true, if_false, List.countP_nil, Nat.zero_add, true_and]
    split
    · simp only [Option.getD_some]
      omega
    · simp only [Option.getD_none]
      omega

theorem Counted.mem_omitted_iff {t now : Throttle} {reports : List Notice} (counted : Counted t reports now)
    (kind : String) :
    kind ∈ now.omitted.map (·.1) ↔ ∃ n, (n, false) ∈ t.rulings [] reports ∧ n.kind = kind := by
  rw [exists_held_iff, Throttle.mem_omitted_iff counted.unique, counted.verbose, counted.threshold, counted.count]

end Throttle

namespace Session

open Throttle

variable {K : Kit}

/-- One notice: the decision that the earlier ones give, and what it adds to log and events. -/
theorem notice_eq {t : Throttle} {earlier : List Notice} {s : Session K}
    (counted : Counted t earlier s.throttle) (n : Notice) :
    s.notice n.kind n.message n.span
      = (t.due earlier n,
          { s with
            throttle := s.throttle.record n.kind
            world := { s.world with
              events := s.world.events ++ t.announced earlier [n]
              log := s.world.log ++ if t.due earlier n then [n.diagnostic] else [] } }) := by
  have now := counted.record n
  have mine : (s.throttle.record n.kind).count n.kind = earlier.countP (·.kind == n.kind) + 1 := by
    rw [now.count, countP_snoc_kind, if_pos rfl]
  have passes : (s.throttle.record n.kind).passes n.kind = t.due earlier n := by
    rw [Throttle.passes, due, now.verbose, now.threshold, mine]
    rfl
  have event : ((s.throttle.record n.kind).event? n.kind).toList = t.announced earlier [n] := by
    have reached : (earlier.countP (·.kind == n.kind) + 1 == t.threshold + 1)
        = (earlier.countP (·.kind == n.kind) == t.threshold) := by
      rw [Bool.eq_iff_iff, beq_iff_eq, beq_iff_eq, Nat.add_right_cancel_iff]
    simp only [event?, announced, now.verbose, now.threshold, mine, reached, List.append_nil]
    split
    · rfl
    · rfl
  simp only [notice, passes, event]
  cases t.due earlier n with
  | true => rfl
  | false => simp [World.emitAll]

theorem notices_eq {t : Throttle} {earlier : List Notice} {s : Session K}
    (counted : Counted t earlier s.throttle) (reports : List Notice) :
    ∃ now, Counted t (earlier ++ reports) now ∧
      s.notices reports
        = ((t.rulings earlier reports).map (·.2),
            { s with
              throttle := now
              world := { s.world with
                events := s.world.events ++ t.announced earlier reports
                log := s.world.log
                  ++ ((t.rulings earlier reports).filter (·.2)).map (·.1.diagnostic) } }) := by
  induction reports generalizing earlier s with
  | nil => exact ⟨s.throttle, by simpa using counted, by simp [notices, rulings, announced]⟩
  | cons n rest ih =>
    have next : Counted t (earlier ++ [n]) (s.notice n.kind n.message n.span).2.throttle := by
      rw [notice_eq counted]
      exact counted.record n
    obtain ⟨now, after, told⟩ := ih next
    refine ⟨now, by simpa using after, ?_⟩
    rw [notice_eq counted] at told
    dsimp only at told
    simp only [notices, notice_eq counted, told]
    rw [t.announced_cons earlier n rest, rulings, List.map_cons, List.filter_cons]
    cases t.due earlier n with
    | true => simp
    | false => simp

theorem zip_notices {t : Throttle} {s : Session K} (counted : Counted t [] s.throttle)
    (reports : List Notice) : reports.zip (s.notices reports).1 = t.rulings [] reports := by
  obtain ⟨now, -, run⟩ := notices_eq counted reports
  rw [run]
  exact (List.zip_of_prod (map_fst_rulings t [] reports) rfl).symm

/-- A fresh throttle passes on exactly the notices with fewer than the threshold of their kind before them,
or all where it is verbose: these are the ones it says it passed on, and the ones the log has received, in
order. For each kind the table counts all reports, those passed on and those left out; a kind is listed
among what was left out, and announced once, where some notice of it was not passed on. What happens to the
notices of a kind does not depend on those of other kinds. -/
theorem notices_accounted (s : Session K) (threshold : Nat) (verbose : Bool) (reports : List Notice) :
    let fresh : Session K := { s with throttle := { threshold, verbose } }
    let flags := (fresh.notices reports).1
    let after := (fresh.notices reports).2
    let held := fun kind => ∃ n, (n, false) ∈ reports.zip flags ∧ n.kind = kind
    flags = reports.mapIdx (fun i n =>
        verbose || (reports.take i).countP (·.kind == n.kind) < threshold) ∧
      after.world.log = s.world.log ++ ((reports.zip flags).filter (·.2)).map (·.1.diagnostic) ∧
      (∃ told, after.world.events = s.world.events ++ told ∧
        (∀ e ∈ told, ∃ kind, held kind ∧ e = .throttled kind threshold) ∧
        ∀ kind, held kind → told.count (.throttled kind threshold) = 1) ∧
      ∀ kind,
        after.throttle.count kind = reports.countP (·.kind == kind) ∧
        after.throttle.count kind
          = (reports.zip flags).countP (fun r => r.1.kind == kind && r.2)
            + (after.throttle.omitted.lookup kind).getD 0 ∧
        (kind ∈ after.throttle.omitted.map (·.1) ↔ held kind) ∧
        ∀ others : List Notice,
          others.filter (·.kind == kind) = reports.filter (·.kind == kind) →
          (others.zip (fresh.notices others).1).filter (·.1.kind == kind)
            = (reports.zip flags).filter (·.1.kind == kind) := by
  intro fresh flags after held
  have counted : Counted fresh.throttle [] fresh.throttle := ⟨rfl, rfl, fun _ => rfl, List.nodup_nil⟩
  obtain ⟨now, books, run⟩ := notices_eq counted reports
  rw [List.nil_append] at books
  have flagged : flags = (fresh.throttle.rulings [] reports).map (·.2) := congrArg Prod.fst run
  have left := congrArg Prod.snd run
  have zipped : reports.zip flags = fresh.throttle.rulings [] reports := zip_notices counted reports
  have some_held (kind : String) :
      held kind ↔ ∃ n, (n, false) ∈ fresh.throttle.rulings [] reports ∧ n.kind = kind := by
    rw [← zipped]
  refine ⟨?_, ?_, ⟨fresh.throttle.announced [] reports, ?_, ?_, ?_⟩, ?_⟩
  · rw [flagged, map_snd_rulings]
    rfl
  · rw [zipped]
    exact congrArg (·.world.log) left
  · exact congrArg (·.world.events) left
  · intro e there
    obtain ⟨kind, found, rfl⟩ := held_of_mem_announced there
    exact ⟨kind, (some_held kind).mpr found, rfl⟩
  · intro kind some
    rw [some_held, exists_held_iff] at some
    exact (count_announced_whole fresh.throttle reports kind).trans (if_pos some)
  · intro kind
    have ended : after.throttle = now := congrArg (·.throttle) left
    rw [ended, zipped]
    refine ⟨books.count kind, books.balance kind, ?_, ?_⟩
    · rw [some_held, books.mem_omitted_iff]
    · intro others same
      rw [zip_notices counted, filter_rulings, filter_rulings, same]

end Session

end StyleBuild
