import StyleBuild.Proofs.Histories
import StyleBuild.Proofs.Memoization

/-!
# Provenance

Whether a stylesheet is a dependency, and which importer its own relative imports go to, is settled at its
first load from what the cache knows of its requester at that moment. Both can be read off the chain of
first loads that leads from the stylesheet back to the entry, to a seed or to a requester that was not
loaded, and nothing that is loaded later changes them.
-/

set_option autoImplicit false

namespace StyleBuild

variable {K : Kit}

/-! ## Chains of first loads -/

/-- Where a chain of first loads begins. -/
inductive Root where
  | entry
  | seeded (importer : Option Importer)
  /-- A requester that was not loaded. -/
  | unknown

/-- The resolvers that answered along a chain, the nearest first, and its root. -/
structure Provenance where
  links : List Resolver
  root : Root

namespace Provenance

def via (p : Provenance) (r : Resolver) : Provenance := { p with links := r :: p.links }

def isDependency (p : Provenance) : Bool := p.links.any Resolver.loadsDependencies

/-- The importer at the root of a chain; in the place of a seeded one that counts as false stands that of
the entry. -/
def rootImporter? (entry : Importer) (p : Provenance) : Option Importer :=
  match p.root with
  | .entry => some entry
  | .seeded importer => some ((importer.filter fun i => !i.isFalsy).getD entry)
  | .unknown => none

/-- The importer of the nearest link that is not relative, or else that of the root. -/
def importer? (entry : Importer) (p : Provenance) : Option Importer :=
  match p.links.find? Resolver.loadsDependencies with
  | some r => some r.importer
  | none => p.rootImporter? entry

theorem isDependency_via (p : Provenance) (r : Resolver) :
    (p.via r).isDependency = (p.isDependency || r.loadsDependencies) := by
  simp only [isDependency, via, List.any_cons, Bool.or_comm]

theorem importer?_via (entry : Importer) (p : Provenance) (r : Resolver) :
    (p.via r).importer? entry =
      if r.loadsDependencies then some r.importer else p.importer? entry := by
  unfold importer? via
  rw [List.find?_cons]
  cases r.loadsDependencies with
  | true => rfl
  | false => rfl

end Provenance

/-- The chain that leads to a requester. The loads are given with the latest first; only the first load of
a URL counts, and its requester is looked for among the loads before it. -/
def provenance : List Load → Option String → Provenance
  | _, none => ⟨[], .entry⟩
  | [], some _ => ⟨[], .unknown⟩
  | load :: earlier, some url =>
    if load.url = url ∧ url ∉ earlier.map Load.url then
      match load.origin with
      | .seeded importer => ⟨[], .seeded importer⟩
      | .found base r => (provenance earlier base).via r
    else provenance earlier (some url)

theorem provenance_none (log : List Load) : provenance log none = ⟨[], .entry⟩ := by
  cases log with
  | nil => rfl
  | cons load earlier => rfl

theorem provenance_of_known {log : List Load} {url : String} (load : Load)
    (known : url ∈ log.map Load.url) :
    provenance (load :: log) (some url) = provenance log (some url) := by
  rw [provenance, if_neg]
  intro first
  exact first.2 known

theorem provenance_of_other {load : Load} {url : String} (log : List Load) (other : load.url ≠ url) :
    provenance (load :: log) (some url) = provenance log (some url) := by
  rw [provenance, if_neg]
  intro first
  exact other first.1

theorem provenance_of_first (load : Load) {log : List Load} (first : load.url ∉ log.map Load.url) :
    provenance (load :: log) (some load.url) =
      match load.origin with
      | .seeded importer => ⟨[], .seeded importer⟩
      | .found base r => (provenance log base).via r := by
  rw [provenance, if_pos ⟨rfl, first⟩]

/-- Later loads do not change the chain of a URL that is loaded. -/
theorem provenance_append {log : List Load} {url : String} (newer : List Load)
    (known : url ∈ log.map Load.url) :
    provenance (newer ++ log) (some url) = provenance log (some url) := by
  induction newer with
  | nil => rfl
  | cons load rest ih =>
    have listed : url ∈ (rest ++ log).map Load.url := by
      rw [List.map_append]
      exact List.mem_append_right _ known
    rw [List.cons_append, provenance_of_known load listed, ih]

/-! ## Seeds of new URLs -/

/-- A seed is for a URL that was not loaded. -/
def CacheOperation.Fresh (k : Caller K) : CacheOperation → Prop
  | seed url _ _ _ => url ∉ k.cache.loadedUrls
  | _ => True

/-- Each operation is fresh where the ones before it lead. -/
def Collaborators.AllFresh (c : Collaborators K) (mode : Mode) :
    List CacheOperation → Caller K → Prop
  | [], _ => True
  | op :: rest, k => op.Fresh k ∧ c.AllFresh mode rest (c.operate mode op k).2

/-! ## What the cache knows of a requester -/

/-- The loads are those of the cache, which knows of each requester what its chain tells. -/
structure Cache.Follows (cache : Cache K) (log : List Load) : Prop where
  urls : ∀ url, url ∈ cache.loadedUrls ↔ url ∈ log.map Load.url
  isDependency : ∀ base, cache.isDependency base = (provenance log base).isDependency
  relative? : ∀ base, cache.relative? base =
    ((provenance log base).importer? cache.entry).map Resolver.relativeTo

namespace Cache.Follows

variable {cache cache' : Cache K} {log : List Load}

theorem new (resolvers : List Resolver) (entry : Importer) (awaits : Bool) :
    Follows ({ resolvers, entry, awaits } : Cache K) [] where
  urls url := Iff.rfl
  isDependency base := by
    cases base with
    | none => rfl
    | some url => rfl
  relative? base := by
    cases base with
    | none => rfl
    | some url => rfl

theorem congr (follows : cache.Follows log) (loads : cache'.loads = cache.loads)
    (entry : cache'.entry = cache.entry) : cache'.Follows log where
  urls url := by
    rw [← follows.urls url, loadedUrls, loads]
    rfl
  isDependency base := by
    rw [← follows.isDependency base]
    simp only [Cache.isDependency, loads]
  relative? base := by
    rw [entry, ← follows.relative? base]
    simp only [Cache.relative?, loads, entry]

theorem again (follows : cache.Follows log) (load : Load) (known : load.url ∈ log.map Load.url) :
    cache.Follows (load :: log) := by
  have same : ∀ base, provenance (load :: log) base = provenance log base := by
    intro base
    cases base with
    | none => rw [provenance_none, provenance_none]
    | some url =>
      by_cases here : load.url = url
      · rw [here] at known
        exact provenance_of_known load known
      · exact provenance_of_other log here
  refine ⟨?_, ?_, ?_⟩
  · intro url
    rw [follows.urls url, List.map_cons, List.mem_cons]
    refine ⟨.inr, ?_⟩
    rintro (rfl | there)
    · exact known
    · exact there
  · intro base
    rw [same, follows.isDependency base]
  · intro base
    rw [same, follows.relative? base]

/-- A URL that is loaded for the first time, with what the cache then knows of it. -/
theorem first (follows : cache.Follows log) (load : Load) (l : Loaded)
    (entry : cache'.entry = cache.entry)
    (urls : ∀ url, url ∈ cache'.loadedUrls ↔ url ∈ cache.loadedUrls ∨ url = load.url)
    (loads : ∀ url, Table.get? url cache'.loads =
      if load.url = url then some l else Table.get? url cache.loads)
    (dependency : l.isDependency = (provenance (load :: log) (some load.url)).isDependency)
    (importer : some l.resolver.importer =
      (provenance (load :: log) (some load.url)).importer? cache.entry) :
    cache'.Follows (load :: log) := by
  refine ⟨?_, ?_, ?_⟩
  · intro url
    rw [urls url, follows.urls url, List.map_cons, List.mem_cons, or_comm]
  · intro base
    cases base with
    | none => rw [provenance_none]; rfl
    | some url =>
      rw [Cache.isDependency, loads url]
      by_cases here : load.url = url
      · subst here
        rw [if_pos rfl, ← dependency]
        rfl
      · rw [if_neg here, provenance_of_other log here, ← follows.isDependency (some url)]
        rfl
  · intro base
    rw [entry]
    cases base with
    | none => rw [provenance_none, Cache.relative?, entry]; rfl
    | some url =>
      rw [Cache.relative?, loads url]
      by_cases here : load.url = url
      · subst here
        rw [if_pos rfl, ← importer]
        rfl
      · rw [if_neg here, provenance_of_other log here, ← follows.relative? (some url)]
        rfl

theorem seed (follows : cache.Follows log) {url : String} (fresh : url ∉ cache.loadedUrls)
    (contents : String) (dialect : Dialect) (importer : Option Importer) :
    (cache.seed url contents dialect importer).2.Follows (⟨url, .seeded importer⟩ :: log) := by
  have new : url ∉ log.map Load.url := mt (follows.urls url).mpr fresh
  refine follows.first ⟨url, .seeded importer⟩ (cache.seed url contents dialect importer).1
    rfl ?_ ?_ ?_ ?_
  · intro u
    rw [loadedUrls_seed, mem_joinUrl]
  · intro u
    exact Table.get?_set u url _ _
  · rw [provenance_of_first ⟨url, .seeded importer⟩ new]
    rfl
  · rw [provenance_of_first ⟨url, .seeded importer⟩ new]
    exact congrArg some (cache.seedImporter_eq importer)

/-- What a resolver answers. A relative one is that of the requester. -/
theorem record (follows : cache.Follows log) (reference : String) {base : Option String}
    {r : Resolver} (source : Source)
    (relative : r.loadsDependencies = false → cache.relative? base = some r) :
    (cache.record reference base r source).2.Follows (⟨source.url, .found base r⟩ :: log) := by
  by_cases known : source.url ∈ cache.loadedUrls
  · have same : (cache.record reference base r source).2.loads = cache.loads :=
      Table.setNew_of_known (Table.isSome_get?_iff.mpr known) _
    exact (follows.congr same rfl).again ⟨source.url, .found base r⟩
      ((follows.urls source.url).mp known)
  · have new : source.url ∉ log.map Load.url := mt (follows.urls source.url).mpr known
    have absent : Table.get? source.url cache.loads = none := by
      simpa using mt Table.isSome_get?_iff.mp known
    refine follows.first ⟨source.url, .found base r⟩ (cache.record reference base r source).1
      rfl ?_ ?_ ?_ ?_
    · intro u
      rw [← mem_joinUrl]
      exact iff_of_eq (congrArg (u ∈ ·) ((Table.keys_setNew _ _ _).trans (Table.keys_set _ _ _)))
    · intro u
      refine (Table.get?_setNew u source.url _ cache.loads).trans ?_
      by_cases here : source.url = u
      · subst here
        rw [absent, Option.none_or]
        rfl
      · rw [if_neg here, if_neg here, Option.or_none]
    · rw [provenance_of_first ⟨source.url, .found base r⟩ new,
        Provenance.isDependency_via, ← follows.isDependency base]
      rfl
    · rw [provenance_of_first ⟨source.url, .found base r⟩ new, Provenance.importer?_via]
      cases dependency : r.loadsDependencies with
      | true => rfl
      | false =>
        -- the chain goes on with that of the requester, whose importer has just answered
        have requested := (follows.relative? base).symm.trans (relative dependency)
        obtain ⟨i, importer, rfl⟩ := Option.map_eq_some_iff.mp requested
        exact importer.symm

end Cache.Follows

/-! ## Resolvers that are not relative -/

namespace Resolver

theorem loadsDependencies_ofImporters {importers : List (Option Importer)} {i : Nat}
    {rs : List Resolver} (built : ofImporters i importers = .ok rs) :
    ∀ r ∈ rs, r.loadsDependencies = true := by
  induction importers generalizing i rs with
  | nil =>
    cases built
    nofun
  | cons importer rest ih =>
    cases importer with
    | none => cases built
    | some importer =>
      rw [ofImporters] at built
      cases more : ofImporters (i + 1) rest with
      | error f =>
        rw [more] at built
        cases built
      | ok others =>
        rw [more] at built
        cases built
        intro r there
        rcases List.mem_cons.mp there with rfl | other
        · rfl
        · exact ih more r other

theorem loadsDependencies_ofDirectories {kind : ResolverKind} (secondary : kind ≠ .entryRelative)
    (title : String) (paths : List String) :
    ∀ r ∈ paths.filterMap (ofDirectory? kind title), r.loadsDependencies = true := by
  intro r there
  obtain ⟨path, -, given⟩ := List.mem_filterMap.mp there
  rw [ofDirectory?] at given
  split at given
  · cases given
  · cases given
    simpa [loadsDependencies] using secondary

theorem loadsDependencies_cascade {importers : List (Option Importer)}
    {loadPaths environment : List String} {packages : Option Importer} {rs : List Resolver}
    (built : cascade importers loadPaths environment packages = .ok rs) :
    ∀ r ∈ rs, r.loadsDependencies = true := by
  rw [cascade] at built
  cases explicit : ofImporters 0 importers with
  | error f =>
    rw [explicit] at built
    cases built
  | ok first =>
    rw [explicit] at built
    cases built
    intro r there
    rcases List.mem_append.mp there with others | package
    · rcases List.mem_append.mp others with others | environment
      · rcases List.mem_append.mp others with given | path
        · exact loadsDependencies_ofImporters explicit r given
        · exact loadsDependencies_ofDirectories (by decide) _ _ r path
      · exact loadsDependencies_ofDirectories (by decide) _ _ r environment
    · obtain ⟨i, -, rfl⟩ := Option.map_eq_some_iff.mp (Option.mem_toList.mp package)
      rfl

end Resolver

/-! ## Histories -/

namespace Collaborators

variable {c : Collaborators K} {mode : Mode} {k : Caller K} {log : List Load}

/-- A resolver that is relative and answers is that of the requester. -/
theorem relative_of_answer {reference : String} {base : Option String} {r : Resolver}
    {source : Source} (secondary : ∀ r ∈ k.cache.resolvers, r.loadsDependencies = true)
    (answered : c.answer mode reference base k.session = .ok (some (r, source)))
    (relative : r.loadsDependencies = false) : k.cache.relative? base = some r := by
  obtain ⟨listed, -⟩ := (Import.asked_cascade c mode reference base k.session).answered r source answered
  rcases List.mem_append.mp listed with first | other
  · exact Option.mem_toList.mp first
  · rw [secondary r other] at relative
    cases relative

theorem follows_operate (c : Collaborators K) (mode : Mode) (accounted : k.Accounted)
    (secondary : ∀ r ∈ k.cache.resolvers, r.loadsDependencies = true)
    (follows : k.cache.Follows log) {op : CacheOperation} (fresh : op.Fresh k) :
    (c.operate mode op k).2.cache.Follows ((c.load? mode op k).toList ++ log) := by
  cases entry_of_operate c mode op k with
  | seeded url contents dialect importer cache handed =>
    rw [cache]
    exact follows.seed fresh contents dialect importer
  | parsed nth sheets cache handed =>
    rw [cache]
    exact follows.congr rfl rfl
  | repeated reference base v keyed stored sheets cache handed =>
    rw [cache, load?_of_keyed keyed, resolution_of_stored stored]
    have still : Cache.Follows { k.cache with parsed := sheets } log := follows.congr rfl rfl
    cases v with
    | found l =>
      have known := accounted.held l (.inr ⟨_, stored⟩)
      rcases c.answer mode reference base k.session with f | _ | ⟨r, source⟩
      · exact still
      · exact still
      · exact still.again ⟨l.source.url, .found base r⟩ ((follows.urls _).mp known)
    | missing => exact still
    | ambiguous f => exact still
  | decided reference base keyed new sheets cache handed =>
    rw [cache, load?_of_keyed keyed, resolution_of_new new]
    rcases answered : c.answer mode reference base k.session with f | _ | ⟨r, source⟩
    · obtain ⟨-, -, entry, loads⟩ := Cache.conclude_keeps k.cache reference base (.error f)
      exact follows.congr loads entry
    · exact follows.congr rfl rfl
    · have recorded := follows.record reference source (relative_of_answer secondary answered)
      exact recorded.congr rfl rfl

theorem settings_operate (c : Collaborators K) (mode : Mode) (op : CacheOperation) (k : Caller K) :
    (c.operate mode op k).2.cache.resolvers = k.cache.resolvers ∧
      (c.operate mode op k).2.cache.entry = k.cache.entry := by
  cases entry_of_operate c mode op k with
  | seeded url contents dialect importer cache handed => rw [cache]; exact ⟨rfl, rfl⟩
  | parsed nth sheets cache handed => rw [cache]; exact ⟨rfl, rfl⟩
  | repeated reference base v keyed stored sheets cache handed => rw [cache]; exact ⟨rfl, rfl⟩
  | decided reference base keyed new sheets cache handed =>
    obtain ⟨-, resolvers, entry, -⟩ := Cache.conclude_keeps k.cache reference base
      (c.answer mode reference base k.session)
    rw [cache]
    exact ⟨resolvers, entry⟩

theorem settings_after (c : Collaborators K) (mode : Mode) (ops : List CacheOperation) (k : Caller K) :
    (c.after mode ops k).cache.resolvers = k.cache.resolvers ∧
      (c.after mode ops k).cache.entry = k.cache.entry := by
  induction ops generalizing k with
  | nil => exact ⟨rfl, rfl⟩
  | cons op rest ih =>
    obtain ⟨resolvers, entry⟩ := settings_operate c mode op k
    obtain ⟨resolvers', entry'⟩ := ih (c.operate mode op k).2
    exact ⟨resolvers'.trans resolvers, entry'.trans entry⟩

theorem follows_after (c : Collaborators K) (mode : Mode) (ops : List CacheOperation)
    (accounted : k.Accounted) (secondary : ∀ r ∈ k.cache.resolvers, r.loadsDependencies = true)
    (follows : k.cache.Follows log) (fresh : c.AllFresh mode ops k) :
    (c.after mode ops k).cache.Follows ((c.loads mode ops k).reverse ++ log) := by
  induction ops generalizing k log with
  | nil => exact follows
  | cons op rest ih =>
    have resolvers := (settings_operate c mode op k).1
    have further := ih (accounted_operate c mode op k accounted) (resolvers ▸ secondary)
      (follows_operate c mode accounted secondary follows fresh.1) fresh.2
    have reversed : (c.loads mode (op :: rest) k).reverse ++ log =
        (c.loads mode rest (c.operate mode op k).2).reverse ++
          ((c.load? mode op k).toList ++ log) := by
      cases loaded : c.load? mode op k <;> simp [loads, along, loaded]
    rw [reversed]
    exact further

/-- The relative importer is the first to be asked, and if it answers, no other one is. -/
theorem first_exchange {reference : String} {base : Option String} {i : Importer}
    (new : Table.get? (base, reference) k.cache.verdicts = none) (there : ∀ v, i ≠ .misfit v)
    (relative : k.cache.relative? base = some (.relativeTo i)) :
    ∃ outcome rest, c.exchangesOf mode (.resolve reference base) k =
        ⟨.resolve i reference base, outcome⟩ :: rest ∧
      ∀ source, outcome = .ok (.source source) → rest = [] ∧
        c.answer mode reference base k.session = .ok (some (.relativeTo i, source)) := by
  have same : k.session.cache.relative? base = some (.relativeTo i) := relative
  have exchanged : c.exchangesOf mode (.resolve reference base) k =
      c.exchanges mode (Import.firstAnswer reference base (.relativeTo i :: k.cache.resolvers))
        k.session := by
    rw [exchangesOf, (Import.exec_resolve_new c mode new).2]
    refine (Steps.notes_mapFault _ _ _ _ _).trans ?_
    rw [same]
    rfl
  have answered : c.answer mode reference base k.session =
      ((Import.firstAnswer reference base (.relativeTo i :: k.cache.resolvers)).exec
        (c.settled mode) k.session).1.mapError (Fault.leaving "generator") := by
    rw [answer, drive_eq_exec, Import.cascade, Steps.exec_mapFault, same]
    rfl
  rcases ran : (Import.ask (.relativeTo i) reference base).exec (c.settled mode) k.session with
    ⟨outcome, t⟩
  have asked := Import.exchanges_ask (r := .relativeTo i) there ran
  obtain ⟨executed, noted⟩ := Prod.mk.inj (Import.firstAnswer_cons ran k.cache.resolvers)
  rw [exchanged, answered, executed, noted, asked]
  rcases outcome with f | _ | source | type
  · refine ⟨_, _, rfl, ?_⟩
    rintro _ ⟨⟩
  · refine ⟨_, _, rfl, ?_⟩
    rintro _ ⟨⟩
  · refine ⟨_, _, rfl, ?_⟩
    rintro _ ⟨⟩
    exact ⟨rfl, rfl⟩
  · refine ⟨_, _, rfl, ?_⟩
    rintro _ ⟨⟩

end Collaborators

/-- The chain of a loaded URL tells for the rest of the history whether the stylesheet is a dependency, and
which importer is asked first for what it refers to. -/
theorem provenance_decides (c : Collaborators K) (mode : Mode) (s : Session K) (entry : Importer)
    (awaits : Bool) {importers : List (Option Importer)} {loadPaths environment : List String}
    {packages : Option Importer} {resolvers : List Resolver}
    (built : Resolver.cascade importers loadPaths environment packages = .ok resolvers)
    (ops more : List CacheOperation)
    (fresh : c.AllFresh mode (ops ++ more) (.start s resolvers entry awaits)) (url : String)
    (loaded : url ∈ (c.after mode ops (.start s resolvers entry awaits)).cache.loadedUrls) :
    let chain := provenance (c.loads mode ops (.start s resolvers entry awaits)).reverse (some url)
    let k := c.after mode (ops ++ more) (.start s resolvers entry awaits)
    (k.cache.isDependency (some url) = true ↔ ∃ r ∈ chain.links, r.kind ≠ .entryRelative) ∧
    ∃ i, chain.importer? entry = some i ∧ k.cache.relative? (some url) = some (.relativeTo i) ∧
      ∀ reference, Table.get? (some url, reference) k.cache.verdicts = none →
        (∀ v, i ≠ .misfit v) → ∃ outcome rest,
          c.exchangesOf mode (.resolve reference (some url)) k =
            ⟨.resolve i reference (some url), outcome⟩ :: rest := by
  intro chain k
  have accounted := Caller.accounted_start s resolvers entry awaits
  have start : (Caller.start s resolvers entry awaits).cache.Follows [] := .new resolvers entry awaits
  have follows := c.follows_after mode (ops ++ more) accounted
    (Resolver.loadsDependencies_cascade built) start fresh
  have same := (c.settings_after mode (ops ++ more) (.start s resolvers entry awaits)).2
  have known : url ∈ (c.loads mode ops (.start s resolvers entry awaits)).reverse.map Load.url := by
    have listed := c.loadedUrls_after mode ops accounted List.eraseDups_nil.symm
    rw [listed, List.mem_eraseDups, List.nil_append] at loaded
    rw [List.map_reverse, List.mem_reverse]
    exact loaded
  -- what is loaded later stands in front of the log, where it does not change the chain
  have grown : (c.loads mode (ops ++ more) (.start s resolvers entry awaits)).reverse ++ [] =
      (c.loads mode more (c.after mode ops (.start s resolvers entry awaits))).reverse ++
        (c.loads mode ops (.start s resolvers entry awaits)).reverse := by
    rw [List.append_nil, Collaborators.loads, Collaborators.along_append, List.reverse_append]
  rw [grown] at follows
  refine ⟨?_, ?_⟩
  · rw [follows.isDependency, provenance_append _ known, Provenance.isDependency, List.any_eq_true]
    simp [Resolver.loadsDependencies, chain]
  · have relative := follows.relative? (some url)
    rw [provenance_append _ known, same] at relative
    have there : url ∈ k.cache.loadedUrls := by
      rw [follows.urls, List.map_append]
      exact List.mem_append_right _ known
    have some_there : (k.cache.relative? (some url)).isSome := by
      simpa [Cache.relative?] using Table.isSome_get?_iff.mpr there
    rw [relative, Option.isSome_map] at some_there
    obtain ⟨i, importer⟩ := Option.isSome_iff_exists.mp some_there
    have asked : k.cache.relative? (some url) = some (.relativeTo i) := by
      rw [relative]
      exact congrArg (Option.map Resolver.relativeTo) importer
    refine ⟨i, importer, asked, fun reference new fits => ?_⟩
    obtain ⟨outcome, rest, exchanged, -⟩ := Collaborators.first_exchange new fits asked
    exact ⟨outcome, rest, exchanged⟩

namespace Lines

/-- A main sheet of the entry, and a library in two parts that is found through an explicit importer. -/
def libraryTable : List (String × Canned) :=
  [("m", .memory [("main", "")] "m"), ("x", .memory [("lib", ""), ("part", "")] "x")]

def libraryImporter : Importer := .custom ⟨"x", "Imp(x)"⟩

def libraryStart : Caller kit :=
  .start (Session.blank (K := kit) ({} : Notes))
    [⟨.explicit, libraryImporter, "importer:" ++ libraryImporter.label⟩] (.custom ⟨"m", "Imp(m)"⟩) false

def libraryUses : List CacheOperation :=
  [.fetch "main" none, .fetch "lib" (some "m:main"), .fetch "part" (some "x:lib")]

def laterUses : List CacheOperation :=
  [.seed "s:own" "" .scss none, .resolve "part" (some "s:own")]

theorem laterUses_fresh : (directly libraryTable).AllFresh .direct (libraryUses ++ laterUses)
    libraryStart := by
  refine ⟨trivial, trivial, trivial, ?_, trivial, trivial⟩
  show "s:own" ∉ _
  decide +kernel

/-- The second part was loaded relative to the first one, which makes it a dependency that resolves through
the library's importer. -/
theorem library_part_provenance :
    (directly libraryTable).AllFresh .direct (libraryUses ++ laterUses) libraryStart ∧
    "x:part" ∈ ((directly libraryTable).after .direct libraryUses libraryStart).cache.loadedUrls ∧
    ((directly libraryTable).after .direct (libraryUses ++ laterUses)
      libraryStart).cache.isDependency (some "x:part") = true ∧
    ∃ i : Importer, i.label = "Imp(x)" ∧
      ((directly libraryTable).after .direct (libraryUses ++ laterUses)
        libraryStart).cache.relative? (some "x:part") = some (.relativeTo i) := by
  have loaded : "x:part" ∈
      ((directly libraryTable).after .direct libraryUses libraryStart).cache.loadedUrls := by
    decide +kernel
  have linked : ∃ r ∈ (provenance ((directly libraryTable).loads .direct libraryUses
      libraryStart).reverse (some "x:part")).links, r.kind ≠ .entryRelative := by decide +kernel
  have labelled : ((provenance ((directly libraryTable).loads .direct libraryUses
      libraryStart).reverse (some "x:part")).importer? (.custom ⟨"m", "Imp(m)"⟩)).map Importer.label =
        some "Imp(x)" := by decide +kernel
  have built : Resolver.cascade [some libraryImporter] [] [] none =
      .ok [⟨.explicit, libraryImporter, "importer:" ++ libraryImporter.label⟩] := rfl
  obtain ⟨dependency, i, importer, relative, -⟩ := provenance_decides (directly libraryTable) .direct
    (Session.blank (K := kit) ({} : Notes)) (.custom ⟨"m", "Imp(m)"⟩) false built libraryUses laterUses
    laterUses_fresh "x:part" loaded
  refine ⟨laterUses_fresh, loaded, dependency.mpr linked, i, ?_, relative⟩
  have label := (congrArg (Option.map Importer.label) importer).symm.trans labelled
  exact Option.some.inj label

end Lines

end StyleBuild
