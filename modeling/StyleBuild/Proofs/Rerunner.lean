import StyleBuild.Proofs.Calls

/-!
# Imports without memory

A `Rerunner` imports as a cache does, but of all that has happened it keeps only who loaded each
stylesheet first. Every import runs the whole cascade and the parser once more.

Where the collaborators answer by their arguments alone, a cache is a rerunner with a memory:
`Cache.Coherent` says that each stored verdict and each parsed sheet is what a rerun would give now, and
`Import.exec_fetch` that an import then ends as the rerun does and leaves the cache coherent.
-/

set_option autoImplicit false

namespace StyleBuild

variable {K : Kit}

/-- What importers and a parser answer that go by their arguments alone. -/
structure Answers (K : Kit) where
  offer : Importer → String → Option String → Except Fault Offer
  sheet : String → Dialect → String → Except Fault K.Sheet

namespace Answers

def reply (o : Answers K) : (call : ImportCall) → Except Fault (call.Reply K)
  | .resolve i reference base => o.offer i reference base
  | .parse contents dialect url => o.sheet contents dialect url

def ask (o : Answers K) (r : Resolver) (reference : String) (base : Option String) :
    Except Fault Offer :=
  match r.importer with
  | .misfit v => .error (.noAttribute v "resolve")
  | i => o.offer i reference (if r.kind = .entryRelative then base else none)

def firstAnswer (o : Answers K) (reference : String) (base : Option String) :
    List Resolver → Except Fault (Option (Resolver × Source))
  | [] => .ok none
  | r :: rest =>
    match o.ask r reference base with
    | .error (.pendingAnswer call) => .error (Import.suspended r reference (.pendingAnswer call))
    | .error f => .error f
    | .ok .declined => firstAnswer o reference base rest
    | .ok (.other type) => .error (Import.wrongAnswer r reference type)
    | .ok (.source s) => .ok (some (r, s))

/-- The URL of a source determines its text and its dialect, whichever of the importers answers. -/
def Canonical (o : Answers K) (pool : List Importer) (meaning : String → String × Dialect) : Prop :=
  ∀ i ∈ pool, ∀ reference base source, o.offer i reference base = .ok (.source source) →
    meaning source.url = (source.contents, source.dialect)

/-- A sheet is what the parser makes of the text that a URL stands for. -/
def Makes (o : Answers K) (meaning : String → String × Dialect) (url : String) (sheet : K.Sheet) :
    Prop :=
  o.sheet (meaning url).1 (meaning url).2 url = .ok sheet

end Answers

/-- Who loaded a stylesheet: a resolver, and whether as a dependency. -/
structure Standing where
  resolver : Resolver
  isDependency : Bool

def Loaded.standing (l : Loaded) : Standing := ⟨l.resolver, l.isDependency⟩

structure Rerunner (K : Kit) where
  answers : Answers K
  resolvers : List Resolver
  entry : Importer
  /-- Who loaded each URL first. -/
  firsts : List (String × Standing) := []

namespace Rerunner

def isDependency (m : Rerunner K) : Option String → Bool
  | none => false
  | some u => ((Table.get? u m.firsts).map Standing.isDependency).getD false

def relative? (m : Rerunner K) : Option String → Option Resolver
  | none => some (Resolver.relativeTo m.entry)
  | some u => (Table.get? u m.firsts).map fun first => Resolver.relativeTo first.resolver.importer

def cascade (m : Rerunner K) (reference : String) (base : Option String) :
    Except Fault (Option (Resolver × Source)) :=
  (m.answers.firstAnswer reference base ((m.relative? base).toList ++ m.resolvers)).mapError
    (Fault.leaving "generator")

def resolve (m : Rerunner K) (reference : String) (base : Option String) :
    Except Fault (Source × Standing) × Rerunner K :=
  match m.cascade reference base with
  | .error f => (.error f, m)
  | .ok none => (.error (.failure (Failure.notFound reference base)), m)
  | .ok (some (r, source)) =>
    let standing := ⟨r, m.isDependency base || r.loadsDependencies⟩
    (.ok (source, standing), { m with firsts := Table.setNew source.url standing m.firsts })

def parse (m : Rerunner K) (source : Source) (standing : Standing) : Except Fault (Imported K) :=
  match m.answers.sheet source.contents source.dialect source.url with
  | .ok sheet => .ok ⟨source.url, sheet, source.dialect, standing.isDependency⟩
  | .error f => .error (Import.parseFault source.url f)

def fetch (m : Rerunner K) (reference : String) (base : Option String) :
    Except Fault (Imported K) × Rerunner K :=
  match m.resolve reference base with
  | (.error f, m) => (.error f, m)
  | (.ok (source, standing), m) => (m.parse source standing, m)

/-- Registers a stylesheet given in memory; an importer that counts as not given is the entry's. -/
def seed (m : Rerunner K) (url : String) (importer : Option Importer) : Standing × Rerunner K :=
  let given := importer.filter fun i => !i.isFalsy
  let standing := ⟨Resolver.relativeTo (given.getD m.entry), false⟩
  (standing, { m with firsts := Table.set url standing m.firsts })

end Rerunner

/-! ## Collaborators without a state -/

/-- The collaborators' settled answers are the given ones as long as the files stay, and they leave the
files as they are. -/
structure Collaborators.Plays (c : Collaborators K) (mode : Mode) (files : FileTree)
    (o : Answers K) : Prop where
  reply : ∀ call s, s.world.files = files → (c.settled mode call s).1 = o.reply call
  files : ∀ call s, s.world.files = files → (c.settled mode call s).2.world.files = files

/-- Sessions that differ in their worlds at most, not in the files. -/
def Session.Drifts (files : FileTree) (s t : Session K) : Prop :=
  ∃ w : World K, w.files = files ∧ t = { s with world := w }

namespace Session.Drifts

variable {files : FileTree} {s t u : Session K}

theorem refl (here : s.world.files = files) : Drifts files s s := ⟨s.world, here, rfl⟩

theorem trans (first : Drifts files s t) (second : Drifts files t u) : Drifts files s u := by
  obtain ⟨w, -, rfl⟩ := first
  obtain ⟨w', here, rfl⟩ := second
  exact ⟨w', here, rfl⟩

theorem emit (drift : Drifts files s t) (e : Event) : Drifts files s (t.emit e) := by
  obtain ⟨w, here, rfl⟩ := drift
  exact ⟨w.emit e, here, rfl⟩

theorem files_eq (drift : Drifts files s t) : t.world.files = files := by
  obtain ⟨w, here, rfl⟩ := drift
  exact here

end Session.Drifts

open Session (Drifts)

section

variable {c : Collaborators K} {mode : Mode} {files : FileTree} {o : Answers K}

theorem Collaborators.Plays.settled (plays : c.Plays mode files o) (call : ImportCall)
    {s : Session K} (here : s.world.files = files) :
    ∃ t, Drifts files s t ∧ c.settled mode call s = (o.reply call, t) := by
  refine ⟨_, ⟨(c.settled mode call s).2.world, plays.files call s here, rfl⟩, ?_⟩
  rw [← c.settled_world mode call s, ← plays.reply call s here]

namespace Import

theorem exec_ask (plays : c.Plays mode files o) (r : Resolver) (reference : String)
    (base : Option String) {s : Session K} (here : s.world.files = files) :
    ∃ t, Drifts files s t ∧
      (ask r reference base).exec (c.settled mode) s = (o.ask r reference base, t) := by
  unfold ask Answers.ask
  cases r.importer with
  | misfit v => exact ⟨s, .refl here, rfl⟩
  | _ => exact plays.settled (.resolve _ reference (baseFor r base)) here

theorem exec_firstAnswer (plays : c.Plays mode files o) (reference : String)
    (base : Option String) (rs : List Resolver) {s : Session K} (here : s.world.files = files) :
    ∃ t, Drifts files s t ∧
      (firstAnswer reference base rs).exec (c.settled mode) s =
        (o.firstAnswer reference base rs, t) := by
  induction rs generalizing s with
  | nil => exact ⟨s, .refl here, rfl⟩
  | cons r rest ih =>
    obtain ⟨t, drift, asked⟩ := exec_ask plays r reference base here
    rw [firstAnswer, Answers.firstAnswer, Steps.exec_bind, Steps.exec_attempt, asked]
    rcases o.ask r reference base with (f | offer)
    · cases f with
      | _ => exact ⟨t, drift, rfl⟩
    · cases offer with
      | declined =>
        have declined := drift.emit (.declined r.label reference)
        obtain ⟨u, more, answered⟩ := ih declined.files_eq
        refine ⟨u, declined.trans more, ?_⟩
        rw [← answered]
        rfl
      | source source => exact ⟨t, drift, rfl⟩
      | other type => exact ⟨t, drift, rfl⟩

end Import

end

theorem Answers.firstAnswer_source {o : Answers K} {reference : String} {base : Option String}
    {rs : List Resolver} {r : Resolver} {source : Source}
    (found : o.firstAnswer reference base rs = .ok (some (r, source))) :
    r ∈ rs ∧ ∃ b, o.offer r.importer reference b = .ok (.source source) := by
  fun_induction Answers.firstAnswer o reference base rs with
  | case1 => simp at found
  | case2 => simp at found
  | case3 => simp at found
  | case4 i rest declined ih =>
    obtain ⟨there, offered⟩ := ih found
    exact ⟨List.mem_cons_of_mem _ there, offered⟩
  | case5 => simp at found
  | case6 i rest source' asked =>
    obtain ⟨rfl, rfl⟩ : i = r ∧ source' = source := by simpa using found
    refine ⟨List.mem_cons_self, ?_⟩
    unfold Answers.ask at asked
    split at asked
    · cases asked
    · exact ⟨_, asked⟩

/-! ## A cache as a rerunner with a memory -/

namespace Cache

def firsts (c : Cache K) : List (String × Standing) := Table.mapValues Loaded.standing c.loads

/-- A cache without its memory. -/
def rerunner (o : Answers K) (c : Cache K) : Rerunner K where
  answers := o
  resolvers := c.resolvers
  entry := c.entry
  firsts := c.firsts

@[simp] theorem isDependency_rerunner (o : Answers K) (c : Cache K) (base : Option String) :
    (c.rerunner o).isDependency base = c.isDependency base := by
  cases base with
  | none => rfl
  | some u =>
    simp only [Rerunner.isDependency, isDependency, rerunner, firsts, Table.get?_mapValues]
    cases Table.get? u c.loads <;> rfl

@[simp] theorem relative?_rerunner (o : Answers K) (c : Cache K) (base : Option String) :
    (c.rerunner o).relative? base = c.relative? base := by
  cases base with
  | none => rfl
  | some u =>
    simp only [Rerunner.relative?, relative?, rerunner, firsts, Table.get?_mapValues]
    cases Table.get? u c.loads <;> rfl

def Knows (c : Cache K) : Option String → Prop
  | none => True
  | some u => u ∈ c.loadedUrls

theorem knows_some {c : Cache K} {u : String} :
    c.Knows (some u) ↔ ∃ l, Table.get? u c.loads = some l := by
  rw [← Option.isSome_iff_exists, Table.isSome_get?_iff]
  rfl

/-- A verdict is what a rerun gives. -/
def Justifies (o : Answers K) (c : Cache K) (reference : String) (base : Option String) :
    Verdict → Prop
  | .found l => (c.rerunner o).cascade reference base = .ok (some (l.resolver, l.source)) ∧
      l.isDependency = (c.isDependency base || l.resolver.loadsDependencies) ∧
      c.Knows (some l.source.url)
  | .missing => (c.rerunner o).cascade reference base = .ok none
  | .ambiguous f => (c.rerunner o).cascade reference base = .error (.failure f)

/-- Each stored entry is what a rerun gives now, and only importers of the pool have loaded anything. -/
structure Coherent (o : Answers K) (pool : List Importer) (meaning : String → String × Dialect)
    (c : Cache K) : Prop where
  verdicts : ∀ reference base v, Table.get? (base, reference) c.verdicts = some v →
    c.Knows base ∧ c.Justifies o reference base v
  parsed : ∀ url sheet, Table.get? url c.parsed = some sheet →
    c.Knows (some url) ∧ o.Makes meaning url sheet
  entry : c.entry ∈ pool
  resolvers : ∀ r ∈ c.resolvers, r.importer ∈ pool
  loads : ∀ url l, Table.get? url c.loads = some l → l.resolver.importer ∈ pool

/-- No first load is forgotten or replaced. -/
structure Extends (c c' : Cache K) : Prop where
  resolvers : c'.resolvers = c.resolvers
  entry : c'.entry = c.entry
  loads : ∀ url l, Table.get? url c.loads = some l → Table.get? url c'.loads = some l

namespace Extends

variable {c c' : Cache K} {o : Answers K} {base : Option String}

theorem knows (more : Extends c c') (known : c.Knows base) : c'.Knows base := by
  cases base with
  | none => trivial
  | some u =>
    obtain ⟨l, stored⟩ := knows_some.1 known
    exact knows_some.2 ⟨l, more.loads u l stored⟩

theorem isDependency (more : Extends c c') (known : c.Knows base) :
    c'.isDependency base = c.isDependency base := by
  cases base with
  | none => rfl
  | some u =>
    obtain ⟨l, stored⟩ := knows_some.1 known
    simp [Cache.isDependency, stored, more.loads u l stored]

theorem relative? (more : Extends c c') (known : c.Knows base) :
    c'.relative? base = c.relative? base := by
  cases base with
  | none => simp [Cache.relative?, more.entry]
  | some u =>
    obtain ⟨l, stored⟩ := knows_some.1 known
    simp [Cache.relative?, stored, more.loads u l stored]

-- A rerun looks at the first loads only to find out about the requester.
theorem cascade (more : Extends c c') (known : c.Knows base) (reference : String) :
    (c'.rerunner o).cascade reference base = (c.rerunner o).cascade reference base := by
  unfold Rerunner.cascade
  rw [relative?_rerunner, relative?_rerunner, more.relative? known]
  simp only [rerunner, more.resolvers]

theorem justifies (more : Extends c c') (known : c.Knows base) {reference : String} {v : Verdict}
    (justified : c.Justifies o reference base v) : c'.Justifies o reference base v := by
  cases v with
  | found l =>
    obtain ⟨answered, flag, loaded⟩ := justified
    refine ⟨(more.cascade known reference).trans answered, ?_, more.knows loaded⟩
    rw [more.isDependency known, flag]
  | missing => exact (more.cascade known reference).trans justified
  | ambiguous f => exact (more.cascade known reference).trans justified

end Extends

namespace Coherent

variable {o : Answers K} {pool : List Importer} {meaning : String → String × Dialect} {c : Cache K}

theorem extend (coherent : c.Coherent o pool meaning) {c' : Cache K} (more : Extends c c')
    (verdicts : c'.verdicts = c.verdicts)
    (parsed : ∀ url sheet, Table.get? url c'.parsed = some sheet →
      Table.get? url c.parsed = some sheet)
    (loads : ∀ url l, Table.get? url c'.loads = some l → l.resolver.importer ∈ pool) :
    c'.Coherent o pool meaning where
  verdicts := by
    intro reference base v stored
    rw [verdicts] at stored
    obtain ⟨known, justified⟩ := coherent.verdicts reference base v stored
    exact ⟨more.knows known, more.justifies known justified⟩
  parsed := by
    intro url sheet stored
    obtain ⟨known, sheet_eq⟩ := coherent.parsed url sheet (parsed url sheet stored)
    exact ⟨more.knows known, sheet_eq⟩
  entry := more.entry ▸ coherent.entry
  resolvers := more.resolvers ▸ coherent.resolvers
  loads := loads

theorem settle (coherent : c.Coherent o pool meaning) {reference : String} {base : Option String}
    {v : Verdict} (known : c.Knows base) (justified : c.Justifies o reference base v) :
    (c.settle reference base v).Coherent o pool meaning where
  verdicts := by
    intro reference' base' v' stored
    by_cases same : (base, reference) = (base', reference')
    · obtain ⟨rfl, rfl⟩ := Prod.mk.inj same
      rw [Cache.settle, Table.get?_set_self] at stored
      obtain rfl := Option.some.inj stored
      exact ⟨known, justified⟩
    · rw [Cache.settle, Table.get?_set_of_ne same] at stored
      exact coherent.verdicts reference' base' v' stored
  parsed := coherent.parsed
  entry := coherent.entry
  resolvers := coherent.resolvers
  loads := coherent.loads

theorem new {resolvers : List Resolver} {entry : Importer} {awaits : Bool} (first : entry ∈ pool)
    (listed : ∀ r ∈ resolvers, r.importer ∈ pool) :
    ({ resolvers, entry, awaits } : Cache K).Coherent o pool meaning where
  verdicts := fun _ _ _ stored => nomatch stored
  parsed := fun _ _ stored => nomatch stored
  entry := first
  resolvers := listed
  loads := fun _ _ stored => nomatch stored

theorem importer_mem (coherent : c.Coherent o pool meaning) {base : Option String} {r : Resolver}
    (there : r ∈ (c.relative? base).toList ++ c.resolvers) : r.importer ∈ pool := by
  rcases List.mem_append.1 there with relative | listed
  · cases base with
    | none =>
      obtain rfl : r = Resolver.relativeTo c.entry := by simpa [relative?] using relative
      exact coherent.entry
    | some u =>
      obtain ⟨l, stored, rfl⟩ : ∃ l, Table.get? u c.loads = some l ∧
          Resolver.relativeTo l.resolver.importer = r := by simpa [relative?] using relative
      exact coherent.loads u l stored
  · exact coherent.resolvers r listed

/-- What a rerun finds comes from an importer of the pool. -/
theorem cascade_source (coherent : c.Coherent o pool meaning) {reference : String}
    {base : Option String} {r : Resolver} {source : Source}
    (found : (c.rerunner o).cascade reference base = .ok (some (r, source))) :
    r.importer ∈ pool ∧ ∃ b, o.offer r.importer reference b = .ok (.source source) := by
  have answered : o.firstAnswer reference base ((c.relative? base).toList ++ c.resolvers) =
      .ok (some (r, source)) := by
    simp only [Rerunner.cascade, relative?_rerunner] at found
    simp only [rerunner] at found
    revert found
    cases o.firstAnswer reference base ((c.relative? base).toList ++ c.resolvers) with
    | ok found => exact id
    | error f => nofun
  obtain ⟨there, offered⟩ := Answers.firstAnswer_source answered
  exact ⟨coherent.importer_mem there, offered⟩

theorem record (coherent : c.Coherent o pool meaning) {reference : String} {base : Option String}
    {r : Resolver} {source : Source} (known : c.Knows base)
    (found : (c.rerunner o).cascade reference base = .ok (some (r, source))) :
    (c.record reference base r source).2.Coherent o pool meaning := by
  let l := (c.record reference base r source).1
  let noted : Cache K :=
    { c with loads := Table.setNew source.url l c.loads, serial := c.serial + 1 }
  have more : Extends c noted := by
    refine ⟨rfl, rfl, fun url l' stored => ?_⟩
    rw [Table.get?_setNew, stored]
    rfl
  have loaded : noted.Knows (some source.url) := by
    rw [knows_some, ← Option.isSome_iff_exists, Table.get?_setNew]
    simp
  have pooled : ∀ url l', Table.get? url noted.loads = some l' → l'.resolver.importer ∈ pool := by
    intro url l' stored
    rw [Table.get?_setNew, Option.or_eq_some_iff] at stored
    rcases stored with old | ⟨-, new⟩
    · exact coherent.loads url l' old
    · split at new
      · obtain rfl := Option.some.inj new
        exact (coherent.cascade_source found).1
      · cases new
  refine (coherent.extend more rfl (fun _ _ stored => stored) pooled).settle (more.knows known) ?_
  refine ⟨(more.cascade known reference).trans found, ?_, loaded⟩
  rw [more.isDependency known]

theorem seed (coherent : c.Coherent o pool meaning) {url : String} (new : ¬c.Knows (some url))
    (contents : String) (dialect : Dialect) {importer : Option Importer}
    (pooled : c.seedImporter importer ∈ pool) :
    (c.seed url contents dialect importer).2.Coherent o pool meaning := by
  have more : Extends c (c.seed url contents dialect importer).2 := by
    refine ⟨rfl, rfl, fun url' l stored => ?_⟩
    have other : url ≠ url' := by
      rintro rfl
      exact new (knows_some.2 ⟨l, stored⟩)
    exact (Table.get?_set_of_ne other _ _).trans stored
  refine coherent.extend more rfl ?_ ?_
  · intro url' sheet stored
    by_cases same : url = url'
    · subst same
      simp [Cache.seed, Table.get?_erase_self] at stored
    · exact (Table.get?_erase_of_ne same _).symm.trans stored
  · intro url' l stored
    by_cases same : url = url'
    · subst same
      rw [Cache.seed, Table.get?_set_self] at stored
      obtain rfl := Option.some.inj stored
      exact pooled
    · exact coherent.loads url' l ((Table.get?_set_of_ne same _ _).symm.trans stored)

theorem withParsed (coherent : c.Coherent o pool meaning) {url : String} {sheet : K.Sheet}
    (known : c.Knows (some url)) (same : o.Makes meaning url sheet) :
    { c with parsed := Table.set url sheet c.parsed }.Coherent o pool meaning where
  verdicts := coherent.verdicts
  parsed := by
    intro url' sheet' stored
    by_cases here : url = url'
    · subst here
      rw [Table.get?_set_self] at stored
      obtain rfl := Option.some.inj stored
      exact ⟨known, same⟩
    · rw [Table.get?_set_of_ne here] at stored
      exact coherent.parsed url' sheet' stored
  entry := coherent.entry
  resolvers := coherent.resolvers
  loads := coherent.loads

end Coherent

theorem rerunner_record (o : Answers K) (c : Cache K) (reference : String) (base : Option String)
    (r : Resolver) (source : Source) :
    (c.record reference base r source).2.rerunner o =
      { c.rerunner o with
        firsts := Table.setNew source.url ⟨r, c.isDependency base || r.loadsDependencies⟩ c.firsts } := by
  simp only [rerunner, firsts, record, Table.mapValues_setNew]
  rfl

theorem seedImporter_eq (cache : Cache K) (importer : Option Importer) :
    cache.seedImporter importer = (importer.filter fun i => !i.isFalsy).getD cache.entry := by
  cases importer with
  | none => rfl
  | some i => cases falsy : i.isFalsy <;> simp [seedImporter, Option.filter, falsy]

theorem rerunner_seed (o : Answers K) (c : Cache K) (url contents : String) (dialect : Dialect)
    (importer : Option Importer) :
    (c.seed url contents dialect importer).2.rerunner o = ((c.rerunner o).seed url importer).2 ∧
      (c.seed url contents dialect importer).1.standing =
        ((c.rerunner o).seed url importer).1 := by
  simp only [rerunner, firsts, seed, Table.mapValues_set, Rerunner.seed, Loaded.standing,
    seedImporter_eq]
  exact ⟨trivial, trivial⟩

end Cache

/-! ## Imports through a coherent cache -/

/-- Where steps have led that did what a rerunner does. -/
structure Session.Reruns (o : Answers K) (pool : List Importer)
    (meaning : String → String × Dialect) (files : FileTree) (s : Session K) (m : Rerunner K)
    (t : Session K) : Prop where
  files : t.world.files = files
  throttle : t.throttle = s.throttle
  context : t.context = s.context
  awaits : t.cache.awaits = s.cache.awaits
  coherent : t.cache.Coherent o pool meaning
  rerunner : t.cache.rerunner o = m

namespace Import

variable {c : Collaborators K} {mode : Mode} {files : FileTree} {o : Answers K}
variable {pool : List Importer} {meaning : String → String × Dialect}

/-- A resolution gives what a rerun gives; what it found is loaded, and is what its URL stands for. -/
def Resolved (meaning : String → String × Dialect) (t : Session K) :
    Except Fault Loaded → Except Fault (Source × Standing) → Prop
  | .ok l, found => found = .ok (l.source, l.standing) ∧ t.cache.Knows (some l.source.url) ∧
      meaning l.source.url = (l.source.contents, l.source.dialect)
  | .error f, found => found = .error f

theorem exec_cascade (plays : c.Plays mode files o) (reference : String) (base : Option String)
    {s : Session K} (here : s.world.files = files) :
    ∃ t, Drifts files s t ∧
      (cascade reference base (s.cache.relative? base) s.cache.resolvers).exec (c.settled mode) s =
        ((s.cache.rerunner o).cascade reference base, t) := by
  obtain ⟨t, drift, answered⟩ := exec_firstAnswer plays reference base
    ((s.cache.relative? base).toList ++ s.cache.resolvers) here
  refine ⟨t, drift, ?_⟩
  rw [cascade, Steps.exec_mapFault, answered, Rerunner.cascade, Cache.relative?_rerunner]
  rfl

theorem settleFault_reruns {s : Session K} (here : s.world.files = files)
    (coherent : s.cache.Coherent o pool meaning) {reference : String} {base : Option String}
    (known : s.cache.Knows base) {f : Fault}
    (failed : (s.cache.rerunner o).cascade reference base = .error f) :
    s.Reruns o pool meaning files (s.cache.rerunner o) (settleFault reference base f s) := by
  unfold settleFault
  split
  · split
    · exact ⟨here, rfl, rfl, rfl, coherent.settle known failed, rfl⟩
    · exact ⟨here, rfl, rfl, rfl, coherent, rfl⟩
  · exact ⟨here, rfl, rfl, rfl, coherent, rfl⟩

theorem exec_resolveNew (plays : c.Plays mode files o) (canonical : o.Canonical pool meaning)
    {s : Session K} (here : s.world.files = files) (coherent : s.cache.Coherent o pool meaning)
    (reference : String) {base : Option String} (known : s.cache.Knows base) :
    ∃ r t, (resolveNew reference base).exec (c.settled mode) s = (r, t) ∧
      Resolved meaning t r ((s.cache.rerunner o).resolve reference base).1 ∧
      s.Reruns o pool meaning files ((s.cache.rerunner o).resolve reference base).2 t := by
  obtain ⟨_, ⟨w, files_eq, rfl⟩, ran⟩ := exec_cascade plays reference base here
  rw [resolveNew, Steps.exec_bind, Steps.exec_get]
  simp only [Steps.exec_bind, Steps.exec_attempt, ran]
  unfold Rerunner.resolve
  cases answered : (s.cache.rerunner o).cascade reference base with
  | error f =>
    obtain ⟨files', throttle, context, awaits, coherent', rerunner⟩ :=
      settleFault_reruns (s := { s with world := w }) files_eq coherent known answered
    exact ⟨_, _, rfl, rfl, files', throttle, context, awaits, coherent', rerunner⟩
  | ok found =>
    cases found with
    | none =>
      exact ⟨_, _, rfl, rfl, files_eq, rfl, rfl, rfl, coherent.settle known answered, rfl⟩
    | some found =>
      obtain ⟨r, source⟩ := found
      obtain ⟨pooled, b, offered⟩ := coherent.cascade_source answered
      have recorded := s.cache.rerunner_record o reference base r source
      refine ⟨_, _, rfl, ⟨?_, ?_, canonical _ pooled _ _ _ offered⟩, files_eq, rfl, rfl,
        rfl, coherent.record known answered, ?_⟩
      · simp only [Cache.isDependency_rerunner]
        rfl
      · rw [Cache.knows_some, ← Option.isSome_iff_exists]
        show (Table.get? source.url (Table.setNew source.url _ s.cache.loads)).isSome
        rw [Table.get?_setNew]
        simp
      · simp only [Cache.isDependency_rerunner]
        exact recorded

/-- A verdict that is repeated is the one a rerun comes to. -/
theorem exec_resolve (plays : c.Plays mode files o) (canonical : o.Canonical pool meaning)
    {s : Session K} (here : s.world.files = files) (coherent : s.cache.Coherent o pool meaning)
    (reference : String) {base : Option String} (known : s.cache.Knows base) :
    ∃ r t, (resolve reference base).exec (c.settled mode) s = (r, t) ∧
      Resolved meaning t r ((s.cache.rerunner o).resolve reference base).1 ∧
      s.Reruns o pool meaning files ((s.cache.rerunner o).resolve reference base).2 t := by
  rw [resolve, Steps.exec_bind, Steps.exec_get]
  dsimp only
  cases stored : Table.get? (base, reference) s.cache.verdicts with
  | none => exact exec_resolveNew plays canonical here coherent reference known
  | some v =>
    obtain ⟨-, justified⟩ := coherent.verdicts reference base v stored
    cases v with
    | found l =>
      obtain ⟨answered, flag, loaded⟩ := justified
      obtain ⟨pooled, b, offered⟩ := coherent.cascade_source answered
      -- The URL is known, so the rerun has nothing to note.
      have noted (standing : Standing) :
          Table.setNew l.source.url standing s.cache.firsts = s.cache.firsts := by
        apply Table.setNew_of_known
        obtain ⟨l', there⟩ := Cache.knows_some.1 loaded
        simp [Cache.firsts, there]
      simp only [Rerunner.resolve, answered, Cache.isDependency_rerunner]
      refine ⟨_, _, rfl, ⟨?_, loaded, canonical _ pooled _ _ _ offered⟩, here, rfl, rfl, rfl,
        coherent, ?_⟩
      · rw [← flag]
        rfl
      · simp only [Cache.rerunner, noted]
    | missing =>
      have answered : (s.cache.rerunner o).cascade reference base = .ok none := justified
      simp only [Rerunner.resolve, answered]
      exact ⟨_, _, rfl, rfl, here, rfl, rfl, rfl, coherent, rfl⟩
    | ambiguous f =>
      have answered : (s.cache.rerunner o).cascade reference base = .error (.failure f) := justified
      simp only [Rerunner.resolve, answered]
      exact ⟨_, _, rfl, rfl, here, rfl, rfl, rfl, coherent, rfl⟩

/-- A sheet that is kept is the one the parser makes. -/
theorem exec_parse (plays : c.Plays mode files o) {s : Session K} (here : s.world.files = files)
    (coherent : s.cache.Coherent o pool meaning) {l : Loaded}
    (loaded : s.cache.Knows (some l.source.url))
    (meant : meaning l.source.url = (l.source.contents, l.source.dialect)) :
    ∃ t, (parse l).exec (c.settled mode) s = ((s.cache.rerunner o).parse l.source l.standing, t) ∧
      s.Reruns o pool meaning files (s.cache.rerunner o) t := by
  rw [parse, Steps.exec_bind, sheetOf, Steps.exec_bind, Steps.exec_get]
  dsimp only
  cases stored : Table.get? l.source.url s.cache.parsed with
  | some sheet =>
    obtain ⟨-, made⟩ := coherent.parsed l.source.url sheet stored
    rw [Answers.Makes, meant] at made
    refine ⟨s, ?_, here, rfl, rfl, rfl, coherent, rfl⟩
    simp only [Rerunner.parse, Cache.rerunner, made]
    rfl
  | none =>
    obtain ⟨_, ⟨w, files_eq, rfl⟩, ran⟩ := plays.settled
      (.parse l.source.contents l.source.dialect l.source.url) here
    simp only [Steps.exec_bind, Steps.exec_mapFault, Steps.exec_perform, ran, Answers.reply,
      Rerunner.parse, Cache.rerunner]
    cases made : o.sheet l.source.contents l.source.dialect l.source.url with
    | error f => exact ⟨_, rfl, files_eq, rfl, rfl, rfl, coherent, rfl⟩
    | ok sheet =>
      have same : o.Makes meaning l.source.url sheet := by rw [Answers.Makes, meant, made]
      exact ⟨_, rfl, files_eq, rfl, rfl, rfl, coherent.withParsed loaded same, rfl⟩

/-- An import through a coherent cache ends as a rerun, and leaves the cache coherent. -/
theorem exec_fetch (plays : c.Plays mode files o) (canonical : o.Canonical pool meaning)
    {s : Session K} (here : s.world.files = files) (coherent : s.cache.Coherent o pool meaning)
    (reference : String) {base : Option String} (known : s.cache.Knows base) :
    ∃ t, (fetch reference base).exec (c.settled mode) s =
        (((s.cache.rerunner o).fetch reference base).1, t) ∧
      s.Reruns o pool meaning files ((s.cache.rerunner o).fetch reference base).2 t := by
  obtain ⟨r, t, ran, resolved, after⟩ :=
    exec_resolve plays canonical here coherent reference known
  rw [fetch, Steps.exec_bind, ran, Rerunner.fetch]
  cases r with
  | error f =>
    have answered : ((s.cache.rerunner o).resolve reference base).1 = .error f := resolved
    rw [← Prod.eta ((s.cache.rerunner o).resolve reference base), answered]
    exact ⟨t, rfl, after⟩
  | ok l =>
    obtain ⟨answered, loaded, meant⟩ := resolved
    obtain ⟨u, parsed, last⟩ := exec_parse plays after.files after.coherent loaded meant
    rw [after.rerunner] at parsed last
    rw [← Prod.eta ((s.cache.rerunner o).resolve reference base), answered]
    exact ⟨u, parsed, last.files, last.throttle.trans after.throttle,
      last.context.trans after.context, last.awaits.trans after.awaits, last.coherent,
      last.rerunner⟩

end Import

/-- What a rerun imports is what its URL stands for, and the URL is known from then on. -/
theorem Cache.Coherent.fetch_ok {o : Answers K} {pool : List Importer}
    {meaning : String → String × Dialect} {c : Cache K} (coherent : c.Coherent o pool meaning)
    (canonical : o.Canonical pool meaning) {reference : String} {base : Option String}
    {imported : Imported K} (fetched : ((c.rerunner o).fetch reference base).1 = .ok imported) :
    (Table.get? imported.url ((c.rerunner o).fetch reference base).2.firsts).isSome ∧
      o.Makes meaning imported.url imported.sheet := by
  unfold Rerunner.fetch Rerunner.resolve at fetched ⊢
  cases answered : (c.rerunner o).cascade reference base with
  | error f =>
    rw [answered] at fetched
    cases fetched
  | ok found =>
    cases found with
    | none =>
      rw [answered] at fetched
      cases fetched
    | some found =>
      obtain ⟨r, source⟩ := found
      obtain ⟨pooled, b, offered⟩ := coherent.cascade_source answered
      have meant := canonical r.importer pooled reference b source offered
      simp only [answered, Rerunner.parse] at fetched ⊢
      cases made : (c.rerunner o).answers.sheet source.contents source.dialect source.url with
      | error f =>
        rw [made] at fetched
        cases fetched
      | ok sheet =>
        rw [made] at fetched
        obtain rfl := Except.ok.inj fetched
        refine ⟨?_, ?_⟩
        · rw [Table.get?_setNew]
          simp
        · rw [Answers.Makes, meant]
          exact made

end StyleBuild
