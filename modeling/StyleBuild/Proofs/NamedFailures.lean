import StyleBuild.Proofs.Cascade
import StyleBuild.Proofs.FailedImports
import StyleBuild.Proofs.LookupRules
import StyleBuild.Proofs.Seeding

/-!
# What a failed import names

A failure of an import names the reference and the stylesheet that made it. Nothing found is reported for the
key, so it names both as they were given. Several candidates are reported by the importer that has found
them, and it names the requester as it was told of it; only the importer of the requester itself is told. The
failure is stored and repeated as it is, so what it names was settled by the call that decided the key.
-/

set_option autoImplicit false

namespace StyleBuild

variable {K : Kit} {α : Type}

/-! ## Names -/

namespace Failure

/-- The reference and the requester among the attributes of a failure. -/
def subject? (g : Failure) : Option (Value × Value) :=
  match g.kind with
  | .notFound reference base => some (reference, base)
  | .ambiguous reference _ base => some (reference, base)
  | _ => none

/-- A failure says in its attributes and in its context what was asked for and by whom. -/
structure Names (g : Failure) (reference : String) (base : Option String) : Prop where
  attributes : g.subject? = some (.text reference, .ofText? base)
  context : ∃ entries, g.report.context = some entries ∧
    entries.lookup "reference" = some (.text reference) ∧
    entries.lookup "base_url" = some (.ofText? base)

variable {reference : String} {base base' : Option String}

theorem names_notFound (reference : String) (base : Option String) :
    (notFound reference base).Names reference base :=
  ⟨rfl, _, rfl, rfl, rfl⟩

theorem names_ambiguous (reference : String) (urls : List String) (base : Option String) :
    (ambiguous reference urls base).Names reference base :=
  ⟨rfl, _, rfl, rfl, rfl⟩

theorem Names.base_eq {g : Failure} (names : g.Names reference base) (other : g.Names reference base') :
    base = base' := by
  have same : Value.ofText? base = .ofText? base' :=
    (Prod.mk.inj (Option.some.inj (names.attributes.symm.trans other.attributes))).2
  cases base with
  | none =>
    cases base' with
    | none => rfl
    | some url => cases same
  | some url =>
    cases base' with
    | none => cases same
    | some url' => rw [Value.text.inj same]

end Failure

/-! ## The library's own importers -/

/-- An importer that the library brings along. -/
def Importer.isLibrary : Importer → Bool
  | directory _ | packages _ | unchecked _ => true
  | custom _ _ | misfit _ => false

namespace Collaborators

variable {c : Collaborators K} {mode : Mode} {reference : String} {base : Option String} {g : Failure}

/-- An importer of the library raises no failure of an import but an ambiguity, which names the reference
and what it was told of the requester. -/
theorem ambiguous_of_raises {i : Importer} (library : i.isLibrary = true) {s : Session K}
    (raised : c.reaction mode i reference base s = .raises (.failure g)) (isImport : g.isImport = true) :
    ∃ urls, g = Failure.ambiguous reference urls base := by
  have answers {o : Lookup.Outcome}
      (only : Only (fun g => ∃ urls, g = Failure.ambiguous reference urls base) o.1)
      (raised : Reaction.ofAnswer mode (Collaborators.library s o) = .raises (.failure g)) :
      ∃ urls, g = Failure.ambiguous reference urls base := by
    obtain ⟨f | _ | source, events⟩ := o
    · cases raised
      exact only g rfl isImport
    · cases raised
    · cases raised
  cases i with
  | directory root => exact answers (Lookup.only_answer (Lookup.only_target _ _ _) _) raised
  | packages config => exact answers (Packages.only_answer _ (fun _ _ => .ok _) _ _) raised
  | unchecked config =>
    exact answers (Packages.only_answer _ (Packages.only_directoriesIn config) _ _) raised
  | custom handle => cases library
  | misfit v => cases library

theorem reaction_of_mem {m : ImportSteps K α} {s : Session K} {x : Consultation}
    (there : x ∈ c.consultations mode m s) :
    ∃ t, x.reaction = c.reaction mode x.importer x.reference x.base t := by
  unfold consultations Steps.notes at there
  generalize m s = run at there
  induction run with
  | done outcome s => cases there
  | call request s resume ih =>
    rw [Run.trace, List.mem_append] at there
    rcases there with now | later
    · cases request with
      | resolve importer reference base =>
        rw [consultation, List.mem_singleton] at now
        exact ⟨s, by rw [now]⟩
      | parse contents dialect url => cases now
    · exact ih _ _ later

/-! ## Who has found several candidates -/

/-- Of the resolvers that a call for a key asks, this one has a failure raised. -/
def Detects (c : Collaborators K) (mode : Mode) (reference : String) (base : Option String)
    (k : Caller K) (g : Failure) (r : Resolver) : Prop :=
  r ∈ (k.cache.relative? base).toList ++ k.cache.resolvers ∧
    ⟨r.importer, reference, Import.baseFor r base, .raises (.failure g)⟩ ∈
      c.consultations mode (Import.resolve reference base) k.session

/-- A resolver has a failure raised in a call for the key: the one that comes after these operations, or one
among them. -/
def Detected (c : Collaborators K) (mode : Mode) (reference : String) (base : Option String)
    (ops : List CacheOperation) (k : Caller K) (g : Failure) (r : Resolver) : Prop :=
  ∃ before later, ops = before ++ later ∧
    (∀ call ∈ later.head?, call.key? = some (base, reference)) ∧
    c.Detects mode reference base (c.after mode before k) g r

theorem consultations_resolve_new {s : Session K}
    (new : Table.get? (base, reference) s.cache.verdicts = none) :
    c.consultations mode (Import.resolve reference base) s =
      c.consultations mode
        (Import.cascade reference base (s.cache.relative? base) s.cache.resolvers) s := by
  simp only [Import.resolve, Import.resolveNew, consultations, Steps.notes_bind, Steps.exec_get,
    Steps.notes_get, new, Steps.exec_attempt, Steps.notes_attempt]
  rcases (Import.cascade reference base (s.cache.relative? base) s.cache.resolvers).exec
    (c.settled mode) s with ⟨f | _ | found, t⟩ <;> exact List.append_nil _

theorem detects_of_answer {k : Caller K}
    (new : Table.get? (base, reference) k.cache.verdicts = none)
    (failed : c.answer mode reference base k.session = .error (.failure g)) (isImport : g.isImport = true) :
    ∃ r, c.Detects mode reference base k g r := by
  unfold Detects
  rw [consultations_resolve_new new]
  change ∃ r, r ∈ (k.session.cache.relative? base).toList ++ k.session.cache.resolvers ∧ _
  generalize asked : (k.session.cache.relative? base).toList ++ k.session.cache.resolvers = rs
  have outcome : ((Import.firstAnswer reference base rs).exec (c.settled mode) k.session).1.mapError
      (Fault.leaving "generator") = .error (.failure g) := by
    rw [← failed, answer, drive_eq_exec, Import.cascade, Steps.exec_mapFault, asked]
  have listed : c.consultations mode (Import.cascade reference base (k.session.cache.relative? base)
        k.session.cache.resolvers) k.session =
      c.consultations mode (Import.firstAnswer reference base rs) k.session := by
    rw [Import.cascade, asked]
    exact Steps.notes_mapFault _ _ _ _ _
  have consulted := Import.consulted_firstAnswer c mode reference base rs k.session
  rw [listed]
  rw [outcome] at consulted
  generalize c.consultations mode (Import.firstAnswer reference base rs) k.session = xs at consulted ⊢
  cases consulted with
  | decided before after r told split reaction _ decides =>
    obtain ⟨there, same⟩ : r ∈ rs ∧ told = Import.baseFor r base := by
      have listed : (r, told) ∈ rs.map fun r => (r, Import.baseFor r base) := by
        rw [split]
        simp
      obtain ⟨r', there, pair⟩ := List.mem_map.mp listed
      obtain ⟨rfl, rfl⟩ := Prod.mk.inj pair
      exact ⟨there, rfl⟩
    rw [same]
    -- a failure that the cascade makes itself is one of configuration
    cases decides with
    | raises f going told => exact ⟨r, there, by simp⟩
    | returns type f kind => simp [Failure.isImport, kind] at isImport
    | suspends f kind => simp [Failure.isImport, kind] at isImport
    | refuses call f kind => simp [Failure.isImport, kind] at isImport

end Collaborators

/-! ## Histories with the library's importers only -/

/-- Only importers of the library are asked: those of the resolvers, the one of the entry, and those that have
loaded something. -/
structure Cache.FromLibrary (cache : Cache K) : Prop where
  resolvers : ∀ r ∈ cache.resolvers, r.importer.isLibrary = true
  entry : cache.entry.isLibrary = true
  loads : ∀ url l, Table.get? url cache.loads = some l → l.resolver.importer.isLibrary = true

/-- A seed brings no importer along, or one of the library. -/
def CacheOperation.FromLibrary : CacheOperation → Prop
  | seed _ _ _ importer => ∀ i ∈ importer, i.isLibrary = true
  | _ => True

namespace Cache.FromLibrary

variable {cache : Cache K} {base : Option String}

theorem asked (library : cache.FromLibrary) {r : Resolver}
    (there : r ∈ (cache.relative? base).toList ++ cache.resolvers) : r.importer.isLibrary = true := by
  rcases List.mem_append.mp there with first | other
  · rw [Option.mem_toList] at first
    cases base with
    | none =>
      cases first
      exact library.entry
    | some url =>
      obtain ⟨l, loaded, rfl⟩ := Option.map_eq_some_iff.mp first
      exact library.loads url l loaded
  · exact library.resolvers r other

theorem seedImporter (library : cache.FromLibrary) {importer : Option Importer}
    (given : ∀ i ∈ importer, i.isLibrary = true) : (cache.seedImporter importer).isLibrary = true := by
  unfold Cache.seedImporter
  split
  · split
    · exact library.entry
    · exact given _ rfl
  · exact library.entry

theorem of_loads (library : cache.FromLibrary) {cache' : Cache K}
    (resolvers : cache'.resolvers = cache.resolvers) (entry : cache'.entry = cache.entry)
    (loads : ∀ url l, Table.get? url cache'.loads = some l →
      Table.get? url cache.loads = some l ∨ l.resolver.importer.isLibrary = true) :
    cache'.FromLibrary where
  resolvers := by
    rw [resolvers]
    exact library.resolvers
  entry := by
    rw [entry]
    exact library.entry
  loads url l there := (loads url l there).elim (library.loads url l) id

end Cache.FromLibrary

namespace Collaborators

variable {c : Collaborators K} {mode : Mode} {reference : String} {base : Option String} {g : Failure}
variable {k : Caller K}

theorem fromLibrary_operate (c : Collaborators K) (mode : Mode) {op : CacheOperation}
    (seeds : op.FromLibrary) (library : k.cache.FromLibrary) :
    (c.operate mode op k).2.cache.FromLibrary := by
  obtain ⟨resolvers, entry⟩ := settings_operate c mode op k
  refine library.of_loads resolvers entry ?_
  intro url l there
  cases entry_of_operate c mode op k with
  | seeded u contents dialect importer cache handed =>
    rw [cache] at there
    have entered := (Table.get?_set url u _ k.cache.loads).symm.trans there
    split at entered
    · cases entered
      exact .inr (library.seedImporter seeds)
    · exact .inl entered
  | parsed nth sheets cache handed =>
    rw [cache] at there
    exact .inl there
  | repeated reference base v keyed stored sheets cache handed =>
    rw [cache] at there
    exact .inl there
  | decided reference base keyed new sheets cache handed =>
    have loads := (Cache.conclude_keeps k.cache reference base
      (c.answer mode reference base k.session)).2.2.2
    rw [cache] at there
    replace there := (congrArg (Table.get? url) loads).symm.trans there
    split at there
    · next l' concluded =>
      rw [Table.get?_setNew] at there
      rcases Option.or_eq_some_iff.mp there with before | ⟨-, now⟩
      · exact .inl before
      · split at now
        · -- the load is new, and its resolver is the one that has answered
          cases now
          obtain ⟨r, source, answered, rfl⟩ := Cache.answer_of_conclude concluded
          have listed := ((Import.asked_cascade c mode reference base k.session).answered r source
            answered).1
          exact .inr (library.asked listed)
        · cases now
    · exact .inl there

theorem fromLibrary_after (c : Collaborators K) (mode : Mode) {ops : List CacheOperation}
    (seeds : ∀ op ∈ ops, op.FromLibrary) (library : k.cache.FromLibrary) :
    (c.after mode ops k).cache.FromLibrary := by
  induction ops generalizing k with
  | nil => exact library
  | cons op rest ih =>
    rw [List.forall_mem_cons] at seeds
    exact ih seeds.2 (fromLibrary_operate c mode seeds.1 library)

/-- A verdict was stored by the first call that came to it. -/
theorem first_decided (ops : List CacheOperation) {v : Verdict}
    (new : Table.get? (base, reference) k.cache.verdicts = none)
    (stored : Table.get? (base, reference) (c.after mode ops k).cache.verdicts = some v) :
    ∃ before call later, ops = before ++ call :: later ∧ call.key? = some (base, reference) ∧
      Table.get? (base, reference) (c.after mode before k).cache.verdicts = none ∧
      c.EndsIn mode reference base (c.after mode before k) v := by
  induction ops generalizing k with
  | nil => cases new.symm.trans stored
  | cons op rest ih =>
    cases known : Table.get? (base, reference) (c.operate mode op k).2.cache.verdicts with
    | none =>
      obtain ⟨before, call, later, rfl, keyed, undecided, ends⟩ := ih known stored
      exact ⟨op :: before, call, later, rfl, keyed, undecided, ends⟩
    | some u =>
      have kept : some u = some v := (c.stored_after mode rest known).symm.trans stored
      obtain rfl := Option.some.inj kept
      obtain ⟨keyed, ends⟩ := endsIn_of_stored new known
      exact ⟨[], op, rest, rfl, keyed, new, ends⟩

end Collaborators

/-! ## Where a failure of an import comes from -/

/-- Nothing is kept from a resolver where there is no requester, or where it is the requester's own. -/
theorem Import.baseFor_eq_iff {r : Resolver} {base : Option String} :
    baseFor r base = base ↔ base = none ∨ r.kind = .entryRelative := by
  unfold baseFor
  split
  · next own => simp [own]
  · next other => simp [other, eq_comm]

theorem Import.eq_of_parseFault {url : String} {f : Fault} {g : Failure}
    (left : parseFault url f = .failure g) (isImport : g.isImport = true) : f = .failure g := by
  unfold parseFault at left
  split at left
  · exact left
  · cases left
    cases isImport
  · cases left
    cases isImport

namespace Collaborators

variable {c : Collaborators K} {mode : Mode} {reference : String} {base : Option String} {g : Failure}
variable {k : Caller K}

theorem ambiguous_of_detects (library : k.cache.FromLibrary) {r : Resolver}
    (detects : c.Detects mode reference base k g r) (isImport : g.isImport = true) :
    ∃ urls, g = Failure.ambiguous reference urls (Import.baseFor r base) := by
  obtain ⟨asked, raised⟩ := detects
  obtain ⟨t, reaction⟩ := reaction_of_mem raised
  exact ambiguous_of_raises (library.asked asked) reaction.symm isImport

theorem ambiguous_of_detected {ops : List CacheOperation} (seeds : ∀ op ∈ ops, op.FromLibrary)
    (library : k.cache.FromLibrary) {r : Resolver}
    (detected : c.Detected mode reference base ops k g r) (isImport : g.isImport = true) :
    ∃ urls, g = Failure.ambiguous reference urls (Import.baseFor r base) := by
  obtain ⟨before, later, rfl, -, detects⟩ := detected
  rw [List.forall_mem_append] at seeds
  exact ambiguous_of_detects (fromLibrary_after c mode seeds.1 library) detects isImport

/-- Whichever resolver has found several candidates, the failure names what it was told of the requester. -/
theorem names_of_detected {ops : List CacheOperation} (seeds : ∀ op ∈ ops, op.FromLibrary)
    (library : k.cache.FromLibrary) {r : Resolver}
    (detected : c.Detected mode reference base ops k g r) (isImport : g.isImport = true) :
    g.Names reference (Import.baseFor r base) := by
  obtain ⟨urls, rfl⟩ := ambiguous_of_detected seeds library detected isImport
  exact Failure.names_ambiguous reference urls (Import.baseFor r base)

/-- The parser has raised a failure, given what a call for the key leads to. -/
def RaisedByParser (c : Collaborators K) (mode : Mode) (reference : String) (base : Option String)
    (k : Caller K) (g : Failure) : Prop :=
  ∃ l t, c.drive mode (Import.resolve reference base) k.session = (.ok l, t) ∧
    (c.settled mode (.parse l.source.contents l.source.dialect l.source.url) t).1 = .error (.failure g)

theorem detected_of_stored {ops : List CacheOperation}
    (new : Table.get? (base, reference) k.cache.verdicts = none)
    (stored : Table.get? (base, reference) (c.after mode ops k).cache.verdicts = some (.ambiguous g)) :
    ∃ r, c.Detected mode reference base ops k g r := by
  obtain ⟨before, call, later, rfl, keyed, undecided, ends⟩ := first_decided ops new stored
  have several := ends.genuine g rfl
  have outcome := (resolution_of_new undecided).symm.trans ends.outcome
  have answered : c.answer mode reference base (c.after mode before k).session = .error (.failure g) := by
    generalize c.answer mode reference base (c.after mode before k).session = answer at outcome
    rcases answer with f | _ | ⟨r, source⟩
    · rw [Except.error.inj outcome]
    · cases outcome
      cases several
    · cases outcome
  obtain ⟨r, detects⟩ := detects_of_answer undecided answered (Fault.isImport_of_ambiguity? several)
  exact ⟨r, before, call :: later, rfl, by rintro _ ⟨⟩; exact keyed, detects⟩

theorem origin_of_failure {ops : List CacheOperation}
    (new : Table.get? (base, reference) k.cache.verdicts = none)
    (failed : (c.drive mode (Import.load reference base) (c.after mode ops k).session).1 =
      .error (.failure g)) (isImport : g.isImport = true) :
    c.RaisedByParser mode reference base (c.after mode ops k) g ∨ g = .notFound reference base ∨
      ∃ r, c.Detected mode reference base ops k g r := by
  have now : ∀ {r}, c.Detects mode reference base (c.after mode ops k) g r →
      c.Detected mode reference base ops k g r :=
    fun detects => ⟨ops, [], (List.append_nil ops).symm, by rintro _ ⟨⟩, detects⟩
  rcases ran : c.drive mode (Import.load reference base) (c.after mode ops k).session with ⟨outcome, t⟩
  rw [ran] at failed
  obtain rfl : outcome = .error (.failure g) := failed
  rw [drive_eq_exec] at ran
  have setback := Import.setback_of_load ran
  generalize same : Fault.failure g = f, t.cache = left at setback
  cases setback with
  | broken _ undecided answered single again =>
    obtain ⟨r, detects⟩ := detects_of_answer undecided (same ▸ answered) isImport
    exact .inr (.inr ⟨r, now detects⟩)
  | ambiguous _ undecided answered several =>
    obtain ⟨r, detects⟩ := detects_of_answer undecided (same ▸ answered) isImport
    exact .inr (.inr ⟨r, now detects⟩)
  | exhausted undecided answered => exact .inr (.inl (Fault.failure.inj same))
  | repeated v _ stored outcome =>
    subst same
    cases v with
    | found l => cases outcome
    | missing => exact .inr (.inl (Fault.failure.inj (Except.error.inj outcome)).symm)
    | ambiguous g' =>
      -- whoever found the candidates was asked by the call that stored the verdict
      obtain rfl := Fault.failure.inj (Except.error.inj outcome)
      exact .inr (.inr (detected_of_stored new stored))
  | unparsed l u raised resolved refused unread sheets again =>
    rw [Import.eq_of_parseFault same.symm isImport] at refused
    exact .inl ⟨l, u, resolved, refused⟩

end Collaborators

theorem Cache.fromLibrary_listed {importers : List Importer} {loadPaths environment : List String}
    {packages : Option Importer} {entry : Importer}
    (library : ∀ i ∈ entry :: importers ++ packages.toList, i.isLibrary = true) (awaits : Bool) :
    Cache.FromLibrary
      ({ resolvers := Resolver.listed importers loadPaths environment packages, entry, awaits } : Cache K) where
  resolvers := by
    intro r there
    simp only [Resolver.listed, List.mem_append, List.mem_map] at there
    rcases there with ((⟨i, given, rfl⟩ | ⟨path, -, rfl⟩) | ⟨path, -, rfl⟩) | ⟨i, given, rfl⟩
    · exact library i (by simp [given])
    · rfl
    · rfl
    · exact library i (List.mem_append_right _ given)
  entry := library entry (by simp)
  loads := by
    rintro url l ⟨⟩

/-- With the importers of the library only, a failed import names its reference, and it names the requester
too unless a resolver other than the requester's own has found the candidates. The call that has found them
may be an earlier one. What the parser raises is its own. -/
theorem import_failure_names (c : Collaborators K) (mode : Mode) (s : Session K)
    {importers : List Importer} {loadPaths environment : List String} {packages : Option Importer}
    {rs : List Resolver}
    (built : Resolver.cascade (importers.map some) loadPaths environment packages = .ok rs)
    {entry : Importer} (library : ∀ i ∈ entry :: importers ++ packages.toList, i.isLibrary = true)
    (awaits : Bool) (ops : List CacheOperation) (seeds : ∀ op ∈ ops, op.FromLibrary)
    (reference : String) (base : Option String) {g : Failure}
    (failed : (c.drive mode (Import.load reference base)
      (c.after mode ops (.start s rs entry awaits)).session).1 = .error (.failure g))
    (isImport : g.isImport = true) :
    c.RaisedByParser mode reference base (c.after mode ops (.start s rs entry awaits)) g ∨
      (g.Names reference base ∨ g.Names reference none) ∧
      (g.Names reference base ↔ base = none ∨
        ∀ r, c.Detected mode reference base ops (.start s rs entry awaits) g r →
          r.kind = .entryRelative) := by
  obtain rfl : Resolver.listed importers loadPaths environment packages = rs :=
    Except.ok.inj ((Resolver.cascade_eq importers loadPaths environment packages).symm.trans built)
  have start : (Caller.start s (Resolver.listed importers loadPaths environment packages) entry
      awaits).cache.FromLibrary := Cache.fromLibrary_listed library awaits
  rcases Collaborators.origin_of_failure rfl failed isImport with parser | rfl | ⟨r, detected⟩
  · exact .inl parser
  · have names := Failure.names_notFound reference base
    refine .inr ⟨.inl names, fun _ => .inr ?_, fun _ => names⟩
    intro r detected
    obtain ⟨urls, other⟩ := Collaborators.ambiguous_of_detected seeds start detected isImport
    cases congrArg Failure.kind other
  · have told : ∀ {r'}, c.Detected mode reference base ops (.start s _ entry awaits) g r' →
        g.Names reference (Import.baseFor r' base) :=
      fun finds => Collaborators.names_of_detected seeds start finds isImport
    refine .inr ⟨?_, ?_, ?_⟩
    · have names := told detected
      unfold Import.baseFor at names
      split at names
      · exact .inl names
      · exact .inr names
    · intro names
      refine or_iff_not_imp_left.mpr fun known r' finds => ?_
      have same := (told finds).base_eq names
      exact (Import.baseFor_eq_iff.mp same).resolve_left known
    · intro known
      have same : Import.baseFor r base = base :=
        Import.baseFor_eq_iff.mpr (known.imp_right fun own => own r detected)
      exact same ▸ told detected

/-! ## A requester that is not named -/

namespace Lookup

open FileTree

variable {t : FileTree} {p : Path}

theorem nameTiers_of_known (known : hasExtension p = true) : nameTiers p = [[partialOf p, p]] :=
  if_pos (hasExtension_iff.mp known)

theorem queries_of_known (t : FileTree) (known : hasExtension p = true) : queries t p = [partialOf p, p] := by
  rw [queries, nameTiers_of_known known, if_pos (.inl (hasExtension_iff.mp known)), weighed, weighed, ite_self,
    List.append_nil]
  rfl

/-- A path with an extension stands for itself or for its partial. -/
theorem ruled_of_known (grounded : t.Grounded) (regular : p.Regular) (named : p.name ≠ "")
    (known : hasExtension p = true) (taken : ∀ q ∈ [partialOf p, p], refused t q = false)
    (reference : String) (base : Option String) :
    Ruled t reference base ([partialOf p, p].filter (fileAt t)) (file t p reference base) := by
  have whole : tiers t p = [[partialOf p, p]] := by
    rw [tiers, nameTiers_of_known known, indexTiers, if_neg fun index => index.1 (hasExtension_iff.mp known),
      List.append_nil]
  have decided : decisive t (tiers t p) = [partialOf p, p].filter (fileAt t) := by
    rw [whole, decisive, decisive]
    split
    · next nothing => exact nothing.symm
    · rfl
  rw [← decided]
  exact ruled_of_taken grounded regular named ((queries_of_known t known).symm ▸ taken) reference base

end Lookup

theorem Collaborators.settled_directory (c : Collaborators K) (mode : Mode) (root : Path)
    (reference : String) (base : Option String) (s : Session K) :
    c.settled mode (.resolve (.directory root) reference base) s =
      ((Lookup.inDirectory s.world.files root reference base).1.map Offer.ofSource?,
        { s with world := s.world.emitAll (Lookup.inDirectory s.world.files root reference base).2 }) := by
  cases mode with
  | direct => exact Answer.refused_ofExcept _ _ _
  | awaiting => exact Answer.awaited_ofExcept _ _

theorem Collaborators.load_of_unresolved {c : Collaborators K} {mode : Mode} {reference : String}
    {base : Option String} {k : Caller K} {f : Fault}
    (failed : c.resolution mode reference base k = .error f) :
    (c.drive mode (Import.load reference base) k.session).1 = .error f := by
  rcases resolved : (Import.resolve reference base).exec (c.settled mode) k.session with ⟨outcome, t⟩
  rw [resolution, drive_eq_exec, resolved] at failed
  obtain rfl : outcome = .error f := failed
  rw [drive_eq_exec, (Import.load_of_fetch c mode reference base k.session).1,
    (Import.fetch_of_fault resolved).1]

/-- A load path comes after the requester's own directory, and what it finds wrong ends the search. -/
theorem Import.answer_of_load_path {c : Collaborators K} {mode : Mode} {reference label : String}
    {base : Option String} {s : Session K} {root place : Path} {rest : List Resolver} {g : Failure}
    (relative : s.cache.relative? base = some (.relativeTo (.directory root)))
    (others : s.cache.resolvers = ⟨.loadPath, .directory place, label⟩ :: rest)
    (declines : (Lookup.inDirectory s.world.files root reference base).1 = .ok none)
    (raises : (Lookup.inDirectory s.world.files place reference none).1 = .error (.failure g)) :
    c.answer mode reference base s = .error (.failure g) := by
  have first := c.settled_directory mode root reference base s
  rw [declines] at first
  have aside : (ask (.relativeTo (.directory root)) reference base).exec (c.settled mode) s = _ := first
  obtain ⟨onward, -⟩ := Prod.mk.inj (firstAnswer_cons aside (⟨.loadPath, .directory place, label⟩ :: rest))
  generalize moved : Session.emit _ _ = t at onward
  have files : t.world.files = s.world.files := by
    rw [← moved]
    rfl
  have second := c.settled_directory mode place reference none t
  rw [files, raises] at second
  have below : (ask ⟨.loadPath, .directory place, label⟩ reference base).exec (c.settled mode) t = _ := second
  obtain ⟨ended, -⟩ := Prod.mk.inj (firstAnswer_cons below rest)
  rw [Collaborators.answer, Collaborators.drive_eq_exec, relative, others, cascade, Steps.exec_mapFault]
  exact congrArg (fun ran => ran.1.mapError (Fault.leaving "generator")) (onward.trans ended)

namespace Lines

open FileTree Lookup

/-- A directory with a partial beside the plain file. -/
def twinLib : FileTree :=
  ⟨[(["lib"], .dir), (["lib", "_a.scss"], .file [120]), (["lib", "a.scss"], .file [121])], []⟩

def twinSession : Session kit :=
  { world := ⟨twinLib, [], [], [], [], ({} : Notes)⟩
    cache := { resolvers := [] } }

/-- The directory is a load path of a new cache. -/
def twinStart : Caller kit :=
  .start twinSession [.ofDirectory .loadPath "load_path:" "lib"] .default false

/-- A stylesheet in the root becomes known. -/
def twinUses : List CacheOperation := [.seed "file:///main.scss" "" .scss none]

def twinsAgain : List CacheOperation := twinUses ++ [.fetch "a.scss" (some "file:///main.scss")]

theorem twinLib_root {name : String} (proper : Proper name) (absent : twinLib.find? [name] = none)
    (plain : Path.holdsNul ⟨1, [name]⟩ = false)
    (short : (Path.toText ⟨1, [name]⟩).utf8ByteSize < maxText) :
    twinLib.probe ⟨1, [name]⟩ = .ok none := by
  have walked : twinLib.walk maxLinks [] [name] = .ok ([name], twinLib.find? [name]) :=
    proper.walk_last (by rw [List.nil_append, absent]; rfl)
  rw [absent] at walked
  exact probe_of_locate plain (locate_of_walk short walked)

theorem twinLib_lib {name : String} (proper : Proper name) {bytes : List UInt8}
    (there : twinLib.find? ["lib", name] = some (.file bytes))
    (plain : Path.holdsNul ⟨0, ["lib", name]⟩ = false)
    (short : (Path.toText ⟨0, ["lib", name]⟩).utf8ByteSize < maxText) :
    twinLib.probe ⟨0, ["lib", name]⟩ = .ok (some (.file bytes)) := by
  rw [← there]
  exact probe_of_locate plain (proper.locate_within ⟨by decide, by decide, by decide⟩ rfl rfl
    (by rw [there]; rfl) short)

theorem twins_declined :
    file twinLib ⟨1, ["a.scss"]⟩ "a.scss" (some "file:///main.scss") = .ok none := by
  have under : twinLib.probe (partialOf ⟨1, ["a.scss"]⟩) = .ok none :=
    twinLib_root ⟨by decide, by decide, by decide⟩ rfl (by decide) (by decide)
  have plain : twinLib.probe ⟨1, ["a.scss"]⟩ = .ok none :=
    twinLib_root ⟨by decide, by decide, by decide⟩ rfl (by decide) (by decide)
  have regular : Path.Regular ⟨1, ["a.scss"]⟩ := Path.regular_ofText "/a.scss"
  have ruled := ruled_of_known (Straight.nil twinLib) regular (by decide) (by decide)
    (by simp [refused, under, plain]) "a.scss" (some "file:///main.scss")
  have found : [partialOf ⟨1, ["a.scss"]⟩, ⟨1, ["a.scss"]⟩].filter (fileAt twinLib) = [] := by
    simp [fileAt, under, plain]
  rw [found] at ruled
  generalize file twinLib ⟨1, ["a.scss"]⟩ "a.scss" (some "file:///main.scss") = outcome at ruled
  cases ruled with
  | nothing => rfl
  | several two _ => exact absurd two (by decide)

theorem twins_found : ∃ urls, file twinLib ⟨0, ["lib", "a.scss"]⟩ "a.scss" none =
    .error (.failure (Failure.ambiguous "a.scss" urls none)) := by
  have under : twinLib.probe (partialOf ⟨0, ["lib", "a.scss"]⟩) = .ok (some (.file [120])) :=
    twinLib_lib ⟨by decide, by decide, by decide⟩ rfl (by decide) (by decide)
  have plain : twinLib.probe ⟨0, ["lib", "a.scss"]⟩ = .ok (some (.file [121])) :=
    twinLib_lib ⟨by decide, by decide, by decide⟩ rfl (by decide) (by decide)
  have regular : Path.Regular ⟨0, ["lib", "a.scss"]⟩ := Path.regular_ofText "lib/a.scss"
  have ruled := ruled_of_known (Straight.nil twinLib) regular (by decide) (by decide)
    (by simp [refused, under, plain]) "a.scss" none
  have found : [partialOf ⟨0, ["lib", "a.scss"]⟩, ⟨0, ["lib", "a.scss"]⟩].filter (fileAt twinLib)
      = [partialOf ⟨0, ["lib", "a.scss"]⟩, ⟨0, ["lib", "a.scss"]⟩] := by
    simp [fileAt, under, plain]
  rw [found] at ruled
  generalize file twinLib ⟨0, ["lib", "a.scss"]⟩ "a.scss" none = outcome at ruled
  cases ruled with
  | several _ named => exact ⟨_, rfl⟩

/-- The reference names a file beside the requester or in the load path. -/
theorem twins_aimed :
    target ⟨0, []⟩ "a.scss" (some "file:///main.scss") = .ok (some ⟨1, ["a.scss"]⟩) ∧
      target ⟨0, ["lib"]⟩ "a.scss" none = .ok (some ⟨0, ["lib", "a.scss"]⟩) := by
  have split : Url.split "a.scss" = .ok ⟨[], "a.scss".toList⟩ := rfl
  have decoded : Url.unquoteText "a.scss" = "a.scss" := by decide +kernel
  have requester : urlToPath "file:///main.scss" = .ok ⟨1, ["main.scss"]⟩ := by
    have split : Url.split "file:///main.scss" = .ok ⟨"file".toList, "/main.scss".toList⟩ := rfl
    have decoded : Url.unquote "/main.scss".toList = "/main.scss".toList := by decide +kernel
    simp only [urlToPath, split, decoded]
    rfl
  constructor
  · simp only [target, split, decoded, requester]
    rfl
  · simp only [target, split, decoded]
    rfl

theorem twins_resolved : ∃ urls,
    (directly []).resolution .direct "a.scss" (some "file:///main.scss")
      ((directly []).after .direct twinUses twinStart) =
        .error (.failure (Failure.ambiguous "a.scss" urls none)) := by
  obtain ⟨aside, below⟩ := twins_aimed
  obtain ⟨urls, found⟩ := twins_found
  have declines : (inDirectory twinLib ⟨0, []⟩ "a.scss" (some "file:///main.scss")).1 = .ok none := by
    unfold inDirectory answer
    rw [aside]
    dsimp only
    rw [twins_declined]
  have raises : (inDirectory twinLib ⟨0, ["lib"]⟩ "a.scss" none).1
      = .error (.failure (Failure.ambiguous "a.scss" urls none)) := by
    unfold inDirectory answer
    rw [below]
    dsimp only
    rw [found]
  have answered : (directly []).answer .direct "a.scss" (some "file:///main.scss")
      ((directly []).after .direct twinUses twinStart).session =
        .error (.failure (Failure.ambiguous "a.scss" urls none)) :=
    Import.answer_of_load_path rfl rfl declines raises
  refine ⟨urls, ?_⟩
  rw [Collaborators.resolution_of_new rfl, answered]
  rfl

/-- An ambiguity that a load path has found leaves out who asked. -/
theorem requester_left_out :
    Resolver.cascade [] ["lib"] [] none = .ok [.ofDirectory .loadPath "load_path:" "lib"] ∧
    ∃ g, ((directly []).drive .direct (Import.load "a.scss" (some "file:///main.scss"))
        ((directly []).after .direct twinUses twinStart).session).1 = .error (.failure g) ∧
      g.isImport = true ∧ g.Names "a.scss" none ∧ ¬ g.Names "a.scss" (some "file:///main.scss") := by
  obtain ⟨urls, resolved⟩ := twins_resolved
  have names := Failure.names_ambiguous "a.scss" urls none
  refine ⟨rfl, _, Collaborators.load_of_unresolved resolved, rfl, names, ?_⟩
  intro other
  cases names.base_eq other

/-- The stored failure is raised again, and the load path that has found the candidates did so in an earlier
call. -/
theorem requester_left_out_again :
    Resolver.cascade (([] : List Importer).map some) ["lib"] [] none
      = .ok [.ofDirectory .loadPath "load_path:" "lib"] ∧
    (∀ i ∈ Importer.default :: [] ++ (none : Option Importer).toList, i.isLibrary = true) ∧
    (∀ op ∈ twinsAgain, op.FromLibrary) ∧
    ∃ g, ((directly []).drive .direct (Import.load "a.scss" (some "file:///main.scss"))
        ((directly []).after .direct twinsAgain twinStart).session).1 = .error (.failure g) ∧
      g.isImport = true ∧ g.Names "a.scss" none ∧
      ∃ r, (directly []).Detected .direct "a.scss" (some "file:///main.scss") twinsAgain twinStart g r ∧
        r.kind ≠ .entryRelative := by
  have built : Resolver.cascade (([] : List Importer).map some) ["lib"] [] none
      = .ok [.ofDirectory .loadPath "load_path:" "lib"] := rfl
  have library : ∀ i ∈ Importer.default :: [] ++ (none : Option Importer).toList, i.isLibrary = true := by
    simp [Importer.default, Importer.isLibrary]
  have seeds : ∀ op ∈ twinsAgain, op.FromLibrary := by
    simp [twinsAgain, twinUses, CacheOperation.FromLibrary]
  refine ⟨built, library, seeds, ?_⟩
  obtain ⟨urls, resolved⟩ := twins_resolved
  have names := Failure.names_ambiguous "a.scss" urls none
  have stored : Table.get? (some "file:///main.scss", "a.scss")
      ((directly []).after .direct twinsAgain twinStart).cache.verdicts =
        some (.ambiguous (Failure.ambiguous "a.scss" urls none)) :=
    (Collaborators.stored_iff_decided _ _ _ _ _ _ _).mpr ⟨twinUses, _, [], rfl, rfl,
      ⟨resolved, by rintro ⟨⟩, Verdict.genuine_ambiguous rfl⟩⟩
  have again : (directly []).resolution .direct "a.scss" (some "file:///main.scss")
      ((directly []).after .direct twinsAgain twinStart) =
        .error (.failure (Failure.ambiguous "a.scss" urls none)) :=
    Collaborators.resolution_of_stored stored
  have failed := Collaborators.load_of_unresolved again
  refine ⟨_, failed, rfl, names, ?_⟩
  rcases import_failure_names (directly []) .direct twinSession built library false twinsAgain seeds "a.scss"
    (some "file:///main.scss") failed rfl with ⟨l, t, found, -⟩ | ⟨-, named⟩
  · cases again.symm.trans (congrArg Prod.fst found)
  · by_contra none_other
    have other := named.mpr (.inr fun r detected => by_contra fun kind => none_other ⟨r, detected, kind⟩)
    cases names.base_eq other

end Lines

end StyleBuild
