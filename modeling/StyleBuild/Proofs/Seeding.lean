import StyleBuild.Proofs.DecidedOnce
import StyleBuild.Proofs.Memoization
import StyleBuild.Proofs.Provenance

/-!
# What a seed decides

A stylesheet given in memory brings the importer for its relative imports along. That importer is the first
to be asked for a reference, unless the reference was decided for the same URL before: verdicts outlive the
seed that they were made under. A key has a verdict just if an earlier call for it has ended in one
(`Collaborators.stored_iff_decided`), so which of the two happens can be told from the history alone.
-/

set_option autoImplicit false

namespace StyleBuild

variable {K : Kit}

/-! ## Resolvers that all decline -/

namespace Import

variable {c : Collaborators K} {mode : Mode} {reference : String} {base : Option String}

theorem declined_firstAnswer {rs : List Resolver} {s : Session K}
    (exhausted : ((firstAnswer reference base rs).exec (c.settled mode) s).1 = .ok none) :
    ∀ x ∈ c.exchanges mode (firstAnswer reference base rs) s, x.declines = true := by
  induction rs generalizing s with
  | nil =>
    intro x there
    cases there
  | cons r rest ih =>
    rcases ran : (ask r reference base).exec (c.settled mode) s with ⟨outcome, t⟩
    obtain ⟨executed, noted⟩ := Prod.mk.inj (firstAnswer_cons ran rest)
    rw [executed] at exhausted
    rw [noted]
    -- of the answers only one lets the search go on, and a search that stops has found something
    rcases outcome with f | _ | source | type
    · cases exhausted
    · have there : ∀ v, r.importer ≠ .misfit v := by
        intro v misfit
        rw [ask_misfit misfit] at ran
        cases ran
      rw [exchanges_ask there ran]
      intro x listed
      rcases List.mem_cons.mp listed with rfl | later
      · rfl
      · exact ih exhausted x later
    · cases exhausted
    · cases exhausted

theorem declined_cascade {s : Session K} (exhausted : c.answer mode reference base s = .ok none) :
    ∀ x ∈ c.exchanges mode (cascade reference base (s.cache.relative? base) s.cache.resolvers) s,
      x.declines = true := by
  rw [Collaborators.answer, Collaborators.drive_eq_exec, cascade, Steps.exec_mapFault] at exhausted
  rw [cascade, Collaborators.exchanges, Steps.notes_mapFault]
  apply declined_firstAnswer
  generalize ((firstAnswer reference base _).exec (c.settled mode) s).1 = outcome at exhausted ⊢
  cases outcome with
  | error f => cases exhausted
  | ok found => exact exhausted

end Import

/-! ## Keys that were decided -/

/-- That nothing was found is stored only if all resolvers have declined. An importer may raise the same
fault, but then no verdict is stored. -/
theorem Cache.exhausted_of_missing {cache : Cache K} {reference : String} {base : Option String}
    {answer : Except Fault (Option (Resolver × Source))}
    (new : Table.get? (base, reference) cache.verdicts = none)
    (stored : Table.get? (base, reference) (cache.conclude reference base answer).2.verdicts =
      some .missing) : answer = .ok none := by
  have other {v : Verdict} (settled : Table.get? (base, reference)
      (Table.set (base, reference) v cache.verdicts) = some .missing) : v = .missing :=
    Option.some.inj ((Table.get?_set_self _ _ _).symm.trans settled)
  rcases answer with f | _ | ⟨r, source⟩
  · simp only [conclude] at stored
    split at stored
    · cases other stored
    · cases new.symm.trans stored
  · rfl
  · cases other stored

namespace Collaborators

variable {c : Collaborators K} {mode : Mode} {reference : String} {base : Option String} {v : Verdict}

/-- An operation of a history was a call for the key and has ended in the verdict. -/
def Decided (c : Collaborators K) (mode : Mode) (reference : String) (base : Option String)
    (v : Verdict) (ops : List CacheOperation) (k : Caller K) : Prop :=
  ∃ before call later, ops = before ++ call :: later ∧ call.key? = some (base, reference) ∧
    c.EndsIn mode reference base (c.after mode before k) v

/-- A verdict that was not there before an operation is what the operation has ended in. -/
theorem endsIn_of_stored {op : CacheOperation} {k : Caller K}
    (new : Table.get? (base, reference) k.cache.verdicts = none)
    (stored : Table.get? (base, reference) (c.operate mode op k).2.cache.verdicts = some v) :
    op.key? = some (base, reference) ∧ c.EndsIn mode reference base k v := by
  cases entry_of_operate c mode op k with
  | seeded url contents dialect importer cache handed =>
    rw [cache] at stored
    cases new.symm.trans stored
  | parsed nth sheets cache handed =>
    rw [cache] at stored
    cases new.symm.trans stored
  | repeated reference' base' v' keyed stored' sheets cache handed =>
    rw [cache] at stored
    cases new.symm.trans stored
  | decided reference' base' keyed undecided sheets cache handed =>
    rw [cache] at stored
    by_cases same : (base', reference') = (base, reference)
    · obtain ⟨rfl, rfl⟩ := Prod.mk.inj same
      refine ⟨keyed, ?_⟩
      rcases Cache.stored_of_conclude stored with earlier | ⟨outcome, genuine⟩
      · cases new.symm.trans earlier
      · refine ⟨(resolution_of_new new).trans outcome.symm, ?_, genuine⟩
        rintro rfl
        rw [(Import.exec_resolve_new c mode new).2]
        exact Import.declined_cascade (Cache.exhausted_of_missing new stored)
    · rw [Cache.conclude_other same] at stored
      cases new.symm.trans stored

theorem decided_of_stored (ops : List CacheOperation) {k : Caller K}
    (stored : Table.get? (base, reference) (c.after mode ops k).cache.verdicts = some v) :
    Table.get? (base, reference) k.cache.verdicts = some v ∨
      c.Decided mode reference base v ops k := by
  induction ops generalizing k with
  | nil => exact .inl stored
  | cons op rest ih =>
    rcases ih stored with here | ⟨before, call, later, rfl, keyed, ends⟩
    · cases known : Table.get? (base, reference) k.cache.verdicts with
      | none =>
        obtain ⟨keyed, ends⟩ := endsIn_of_stored known here
        exact .inr ⟨[], op, rest, rfl, keyed, ends⟩
      | some u =>
        have kept := stored_operate c mode op known
        exact .inl (kept.symm.trans here)
    · exact .inr ⟨op :: before, call, later, rfl, keyed, ends⟩

/-- The verdicts of a cache are those that calls have ended in since it was new. -/
theorem stored_iff_decided (c : Collaborators K) (mode : Mode) (s : Session K)
    (resolvers : List Resolver) (entry : Importer) (awaits : Bool) (ops : List CacheOperation) :
    Table.get? (base, reference)
        (c.after mode ops (.start s resolvers entry awaits)).cache.verdicts = some v ↔
      c.Decided mode reference base v ops (.start s resolvers entry awaits) := by
  constructor
  · intro stored
    rcases decided_of_stored ops stored with before | decided
    · cases before
    · exact decided
  · rintro ⟨before, call, later, rfl, keyed, ends⟩
    have accounted := c.accounted_after mode before (Caller.accounted_start s resolvers entry awaits)
    rw [after_append]
    exact c.stored_after mode later (stored_of_endsIn accounted keyed ends)

end Collaborators

theorem Cache.seedImporter_of_truthy {cache : Cache K} {i : Importer} (counts : i.isFalsy = false) :
    cache.seedImporter (some i) = i := by
  simp [seedImporter, counts]

theorem Cache.seedImporter_of_falsy {cache : Cache K} {i : Importer} (void : i.isFalsy = true) :
    cache.seedImporter (some i) = cache.entry := by
  simp [seedImporter, void]

/-! ## The importer of a seed -/

namespace Collaborators

variable {c : Collaborators K} {mode : Mode} {k : Caller K} {i : Importer} {reference url : String}

/-- A reference from a URL is asked of an importer first, with the reference and the URL, and a source that
the importer answers with is what the reference leads to, without anybody else being asked. -/
def AsksFirst (c : Collaborators K) (mode : Mode) (i : Importer) (reference url : String)
    (k : Caller K) : Prop :=
  ∃ outcome rest, c.exchangesOf mode (.resolve reference (some url)) k =
      ⟨.resolve i reference (some url), outcome⟩ :: rest ∧
    ∀ source, outcome = .ok (.source source) → rest = [] ∧
      ∃ l, c.resolution mode reference (some url) k = .ok l ∧ l.source = source ∧
        l.resolver = .relativeTo i ∧ l.isDependency = false

theorem asksFirst_of_relative (new : Table.get? (some url, reference) k.cache.verdicts = none)
    (there : ∀ v, i ≠ .misfit v) (relative : k.cache.relative? (some url) = some (.relativeTo i))
    (own : k.cache.isDependency (some url) = false) : c.AsksFirst mode i reference url k := by
  obtain ⟨outcome, rest, exchanged, answers⟩ : ∃ outcome rest,
      c.exchangesOf mode (.resolve reference (some url)) k =
        ⟨.resolve i reference (some url), outcome⟩ :: rest ∧ _ := first_exchange new there relative
  refine ⟨outcome, rest, exchanged, ?_⟩
  intro source given
  obtain ⟨alone, answered⟩ := answers source given
  refine ⟨alone, (k.cache.record reference (some url) (.relativeTo i) source).1, ?_, rfl, rfl, ?_⟩
  · rw [resolution_of_new new, answered]
    rfl
  · simp [Cache.record, own, Resolver.loadsDependencies, Resolver.relativeTo]

end Collaborators

/-- Right after a URL was seeded with an importer, a reference from it is asked of this importer first, with
the reference and the URL, and what the importer answers is what the reference leads to, just if no call
before the seed has decided the reference for the URL. If one has, nobody is asked, and its verdict is
repeated. An importer that counts as false is not taken: the importer of the entry is asked in its place. -/
theorem seeded_importer_first (c : Collaborators K) (mode : Mode) (s : Session K)
    (resolvers : List Resolver) (entry : Importer) (awaits : Bool) (ops : List CacheOperation)
    (url contents : String) (dialect : Dialect) {i : Importer} (there : ∀ v, i ≠ .misfit v)
    (reference : String) :
    let start : Caller K := .start s resolvers entry awaits
    let k := c.after mode (ops ++ [.seed url contents dialect (some i)]) start
    ((∀ v, ¬ c.Decided mode reference (some url) v ops start) →
      (i.isFalsy = false → c.AsksFirst mode i reference url k) ∧
        (i.isFalsy = true → (∀ v, entry ≠ .misfit v) → c.AsksFirst mode entry reference url k)) ∧
    ∀ v, c.Decided mode reference (some url) v ops start →
      c.exchangesOf mode (.resolve reference (some url)) k = [] ∧
        c.resolution mode reference (some url) k = v.outcome reference (some url) := by
  intro start k
  have seeded : k.cache = ((c.after mode ops start).cache.seed url contents dialect (some i)).2 := by
    show (c.after mode (ops ++ [_]) start).cache = _
    rw [c.after_append]
    rfl
  have verdicts : k.cache.verdicts = (c.after mode ops start).cache.verdicts := by rw [seeded]; rfl
  have loads : Table.get? url k.cache.loads =
      some ((c.after mode ops start).cache.seed url contents dialect (some i)).1 := by
    rw [seeded]
    exact Table.get?_set_self _ _ _
  constructor
  · intro undecided
    have new : Table.get? (some url, reference) k.cache.verdicts = none := by
      rw [verdicts]
      cases stored : Table.get? (some url, reference) (c.after mode ops start).cache.verdicts with
      | none => rfl
      | some v =>
        have decided := (c.stored_iff_decided mode s resolvers entry awaits ops).mp stored
        exact absurd decided (undecided v)
    have relative : k.cache.relative? (some url) =
        some (.relativeTo ((c.after mode ops start).cache.seedImporter (some i))) := by
      simp only [Cache.relative?, loads, Option.map_some, Cache.seed, Resolver.relativeTo]
    have own : k.cache.isDependency (some url) = false := by
      simp only [Cache.isDependency, loads, Option.map_some, Option.getD_some, Cache.seed]
    constructor
    · intro counts
      rw [Cache.seedImporter_of_truthy counts] at relative
      exact Collaborators.asksFirst_of_relative new there relative own
    · intro void given
      have kept : (c.after mode ops start).cache.entry = entry := (c.settings_after mode ops start).2
      rw [Cache.seedImporter_of_falsy void, kept] at relative
      exact Collaborators.asksFirst_of_relative new given relative own
  · intro v decided
    have stored : Table.get? (some url, reference) k.cache.verdicts = some v := by
      rw [verdicts]
      exact (c.stored_iff_decided mode s resolvers entry awaits ops).mpr decided
    exact ⟨(Import.exec_resolve_stored c mode stored).2, Collaborators.resolution_of_stored stored⟩

namespace Lines

/-- Two importers that have a sheet each under the same name. -/
def rivalTable : List (String × Canned) := [("m", .memory [("a", "x")] "m"), ("n", .memory [("a", "y")] "n")]

def rivalStart : Caller kit :=
  .start (Session.blank (K := kit) ({} : Notes)) [] (.custom ⟨"m", "Imp(m)"⟩) false

/-- A stylesheet is seeded with the first importer and makes a reference. -/
def rivalUses (reference : String) : List CacheOperation :=
  [.seed "s:main" "" .scss (some (.custom ⟨"m", "Imp(m)"⟩)), .resolve reference (some "s:main")]

def rivalSeed : CacheOperation := .seed "s:main" "" .scss (some (.custom ⟨"n", "Imp(n)"⟩))

/-- The second importer as an object that counts as false. -/
def voidSeed : CacheOperation :=
  .seed "s:main" "" .scss (some (.custom ⟨"n", "Imp(n)"⟩ { truth := false }))

theorem resolved_of_asksFirst {i : Importer} {k : Caller kit} {u : String}
    (first : (directly rivalTable).AsksFirst .direct i "a" "s:main" k)
    (offered : ((directly rivalTable).exchangesOf .direct (.resolve "a" (some "s:main")) k).map
      (fun x => x.source?.map Source.url) = [some u]) :
    ∃ l, (directly rivalTable).resolution .direct "a" (some "s:main") k = .ok l ∧ l.source.url = u ∧
      l.isDependency = false := by
  obtain ⟨outcome, rest, exchanged, answers⟩ := first
  have given := (congrArg (List.map fun x => x.source?.map Source.url) exchanged).symm.trans offered
  rw [List.map_cons, List.cons.injEq] at given
  rcases outcome with f | _ | source | type
  · cases given.1
  · cases given.1
  · obtain ⟨-, l, resolved, same, -, own⟩ := answers source rfl
    exact ⟨l, resolved, same ▸ Option.some.inj given.1, own⟩
  · cases given.1

/-- Another reference than the one made before goes to the second importer once it is seeded, and stays with
the first one, which is also the entry's, if the second counts as false. -/
theorem rival_seed_first :
    (∀ v, ¬ (directly rivalTable).Decided .direct "a" (some "s:main") v (rivalUses "b") rivalStart) ∧
    (∃ l, (directly rivalTable).resolution .direct "a" (some "s:main")
        ((directly rivalTable).after .direct (rivalUses "b" ++ [rivalSeed]) rivalStart) = .ok l ∧
      l.source.url = "n:a" ∧ l.isDependency = false) ∧
    ∃ l, (directly rivalTable).resolution .direct "a" (some "s:main")
        ((directly rivalTable).after .direct (rivalUses "b" ++ [voidSeed]) rivalStart) = .ok l ∧
      l.source.url = "m:a" ∧ l.isDependency = false := by
  have undecided : ∀ v, ¬ (directly rivalTable).Decided .direct "a" (some "s:main") v (rivalUses "b")
      rivalStart := by
    rintro v ⟨before, call, later, split, keyed, -⟩
    have listed : call ∈ rivalUses "b" := by
      rw [split]
      exact List.mem_append_right _ List.mem_cons_self
    rcases List.mem_cons.mp listed with rfl | other
    · cases keyed
    · rw [List.mem_singleton.mp other] at keyed
      have same : "b" = "a" := (Prod.mk.inj (Option.some.inj keyed)).2
      exact absurd same (by decide)
  refine ⟨undecided, ?_, ?_⟩
  · have first := ((seeded_importer_first (directly rivalTable) .direct
      (Session.blank (K := kit) ({} : Notes)) [] (.custom ⟨"m", "Imp(m)"⟩) false (rivalUses "b") "s:main"
      "" .scss (i := .custom ⟨"n", "Imp(n)"⟩) nofun "a").1 undecided).1 rfl
    exact resolved_of_asksFirst first (by decide +kernel)
  · have first := ((seeded_importer_first (directly rivalTable) .direct
      (Session.blank (K := kit) ({} : Notes)) [] (.custom ⟨"m", "Imp(m)"⟩) false (rivalUses "b") "s:main"
      "" .scss (i := .custom ⟨"n", "Imp(n)"⟩ { truth := false }) nofun "a").1 undecided).2 rfl nofun
    exact resolved_of_asksFirst first (by decide +kernel)

/-- A reference that was decided before goes where it went under the first importer, and the second one,
which has an answer, is not asked. -/
theorem rival_seed_ignored :
    ((directly rivalTable).resolution .direct "a" (some "s:main")
        ((directly rivalTable).after .direct (rivalUses "a" ++ [rivalSeed]) rivalStart)).toOption.map
          (·.source.url) = some "m:a" ∧
      ((directly rivalTable).exchangesOf .direct (.resolve "a" (some "s:main"))
        ((directly rivalTable).after .direct (rivalUses "a" ++ [rivalSeed]) rivalStart)).isEmpty ∧
      ((directly rivalTable).resolution .direct "a" (some "s:main")
        ((directly rivalTable).after .direct [rivalSeed] rivalStart)).toOption.map (·.source.url) =
          some "n:a" := by
  decide +kernel

end Lines

end StyleBuild
