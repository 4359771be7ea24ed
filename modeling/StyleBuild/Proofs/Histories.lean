import StyleBuild.Proofs.Exchanges

/-!
# Histories of a cache

A caller seeds stylesheets given in memory, resolves and fetches references on behalf of any requester,
and parses the entries that its seeds have handed out, in any order. `Collaborators.after` is where a
list of such operations leads.

An operation touches the books of a cache, its verdicts and first loads, in one of four ways
(`Collaborators.entry_of_operate`), and its sheets in one of three (`Collaborators.reading_of_operate`).
What holds along every history is drawn from these two lemmas.
-/

set_option autoImplicit false

namespace StyleBuild

variable {K : Kit}

/-! ## Operations -/

/-- What a caller does with a cache; the entries of its seeds are counted from zero. -/
inductive CacheOperation where
  | seed (url contents : String) (dialect : Dialect) (importer : Option Importer)
  | resolve (reference : String) (base : Option String)
  | fetch (reference : String) (base : Option String)
  | parse (nth : Nat)

namespace CacheOperation

/-- The key that an operation is a call for. -/
def key? : CacheOperation → Option Key
  | resolve reference base | fetch reference base => some (base, reference)
  | seed _ _ _ _ | parse _ => none

def seeds (url : String) : CacheOperation → Bool
  | seed u _ _ _ => u == url
  | _ => false

end CacheOperation

inductive Reply (K : Kit) where
  | entry (outcome : Except Fault Loaded)
  | sheet (outcome : Except Fault (Imported K))
  | nothing

def Reply.imported? : Reply K → Option (Imported K)
  | .sheet (.ok imported) => some imported
  | _ => none

/-- A session and the entries that seeds have handed out in it. -/
structure Caller (K : Kit) where
  session : Session K
  handed : List Loaded := []

namespace Caller

def cache (k : Caller K) : Cache K := k.session.cache

def start (s : Session K) (resolvers : List Resolver) (entry : Importer) (awaits : Bool) :
    Caller K :=
  ⟨{ s with cache := { resolvers, entry, awaits } }, []⟩

end Caller

namespace Collaborators

def operate (c : Collaborators K) (mode : Mode) : CacheOperation → Caller K → Reply K × Caller K
  | .seed url contents dialect importer, k =>
    let (l, cache) := k.cache.seed url contents dialect importer
    (.entry (.ok l), ⟨{ k.session with cache }, k.handed ++ [l]⟩)
  | .resolve reference base, k =>
    let (r, s) := c.drive mode (Import.resolve reference base) k.session
    (.entry r, { k with session := s })
  | .fetch reference base, k =>
    let (r, s) := c.drive mode (Import.fetch reference base) k.session
    (.sheet r, { k with session := s })
  | .parse nth, k =>
    match k.handed[nth]? with
    | some l =>
      let (r, s) := c.drive mode (Import.parse l) k.session
      (.sheet r, { k with session := s })
    | none => (.nothing, k)

/-- Where operations one after another lead. -/
def after (c : Collaborators K) (mode : Mode) : List CacheOperation → Caller K → Caller K
  | [], k => k
  | op :: rest, k => c.after mode rest (c.operate mode op k).2

def exchangesOf (c : Collaborators K) (mode : Mode) : CacheOperation → Caller K → List (Exchange K)
  | .seed _ _ _ _, _ => []
  | .resolve reference base, k => c.exchanges mode (Import.resolve reference base) k.session
  | .fetch reference base, k => c.exchanges mode (Import.fetch reference base) k.session
  | .parse nth, k =>
    match k.handed[nth]? with
    | some l => c.exchanges mode (Import.parse l) k.session
    | none => []

/-- What comes of a call for a key, before anything is parsed. -/
def resolution (c : Collaborators K) (mode : Mode) (reference : String) (base : Option String)
    (k : Caller K) : Except Fault Loaded :=
  (c.drive mode (Import.resolve reference base) k.session).1

/-- What is noted of operations one after another. -/
def along {τ : Type} (c : Collaborators K) (mode : Mode) (note : CacheOperation → Caller K → List τ) :
    List CacheOperation → Caller K → List τ
  | [], _ => []
  | op :: rest, k => note op k ++ c.along mode note rest (c.operate mode op k).2

theorem after_append (c : Collaborators K) (mode : Mode) (ops more : List CacheOperation)
    (k : Caller K) : c.after mode (ops ++ more) k = c.after mode more (c.after mode ops k) := by
  induction ops generalizing k with
  | nil => rfl
  | cons op rest ih => exact ih _

theorem along_append {τ : Type} (c : Collaborators K) (mode : Mode)
    (note : CacheOperation → Caller K → List τ) (ops more : List CacheOperation) (k : Caller K) :
    c.along mode note (ops ++ more) k =
      c.along mode note ops k ++ c.along mode note more (c.after mode ops k) := by
  induction ops generalizing k with
  | nil => rfl
  | cons op rest ih => simp only [List.cons_append, along, after, ih, List.append_assoc]

/-- What one operation keeps, operations one after another keep. -/
theorem after_induction {c : Collaborators K} {mode : Mode} {P : Caller K → Prop}
    (step : ∀ op k, P k → P (c.operate mode op k).2) (ops : List CacheOperation) {k : Caller K}
    (here : P k) : P (c.after mode ops k) := by
  induction ops generalizing k with
  | nil => exact here
  | cons op rest ih => exact ih (step op k here)

end Collaborators

/-! ## What an operation does to the books -/

/-- The entries that a caller can have parsed: those of its seeds, and those stored for a key. -/
def Caller.Holds (k : Caller K) (l : Loaded) : Prop :=
  l ∈ k.handed ∨ ∃ key, Table.get? key k.cache.verdicts = some (.found l)

namespace Collaborators

variable {c : Collaborators K} {mode : Mode} {k : Caller K}

/-- What becomes of the books: a seed is entered, a new key is decided, the verdict on a key is repeated,
or an entry is parsed. Which sheets there are is left open. -/
inductive Entry (c : Collaborators K) (mode : Mode) (k t : Caller K) : CacheOperation → Prop where
  | seeded (url contents : String) (dialect : Dialect) (importer : Option Importer)
    (cache : t.cache = (k.cache.seed url contents dialect importer).2)
    (handed : t.handed = k.handed ++ [(k.cache.seed url contents dialect importer).1]) :
    Entry c mode k t (.seed url contents dialect importer)
  | decided {op : CacheOperation} (reference : String) (base : Option String)
    (keyed : op.key? = some (base, reference))
    (new : Table.get? (base, reference) k.cache.verdicts = none) (sheets : List (String × K.Sheet))
    (cache : t.cache = { (k.cache.conclude reference base
      (c.answer mode reference base k.session)).2 with parsed := sheets })
    (handed : t.handed = k.handed) : Entry c mode k t op
  | repeated {op : CacheOperation} (reference : String) (base : Option String) (v : Verdict)
    (keyed : op.key? = some (base, reference))
    (stored : Table.get? (base, reference) k.cache.verdicts = some v)
    (sheets : List (String × K.Sheet)) (cache : t.cache = { k.cache with parsed := sheets })
    (handed : t.handed = k.handed) : Entry c mode k t op
  | parsed (nth : Nat) (sheets : List (String × K.Sheet))
    (cache : t.cache = { k.cache with parsed := sheets }) (handed : t.handed = k.handed) :
    Entry c mode k t (.parse nth)

theorem cache_of_parse (c : Collaborators K) (mode : Mode) (l : Loaded) (s : Session K) :
    ∃ sheets, ((Import.parse l).exec (c.settled mode) s).2.cache =
      { s.cache with parsed := sheets } := by
  have reading := Import.read_parse c mode l s
  generalize (Import.parse l).exec (c.settled mode) s = ran at reading ⊢
  generalize c.exchanges mode (Import.parse l) s = xs at reading
  cases reading with
  | kept sheet stored => exact ⟨_, rfl⟩
  | made sheet w new => exact ⟨_, rfl⟩
  | failed f w new => exact ⟨_, rfl⟩

theorem cache_of_fetch (c : Collaborators K) (mode : Mode) (reference : String)
    (base : Option String) (s : Session K) :
    ∃ sheets, ((Import.fetch reference base).exec (c.settled mode) s).2.cache =
      { ((Import.resolve reference base).exec (c.settled mode) s).2.cache with parsed := sheets } := by
  rcases ran : (Import.resolve reference base).exec (c.settled mode) s with ⟨f | l, t⟩
  · rw [(Import.fetch_of_fault ran).1]
    exact ⟨_, rfl⟩
  · rw [(Import.fetch_of_found ran).1]
    exact cache_of_parse c mode l t

theorem entry_of_operate (c : Collaborators K) (mode : Mode) (op : CacheOperation) (k : Caller K) :
    Entry c mode k (c.operate mode op k).2 op := by
  -- a fetch differs from a resolution in the sheets only
  have resolved (reference : String) (base : Option String) {t : Caller K} {op : CacheOperation}
      (keyed : op.key? = some (base, reference)) (handed : t.handed = k.handed)
      (cache : ∃ sheets, t.cache = { ((Import.resolve reference base).exec (c.settled mode)
        k.session).2.cache with parsed := sheets }) : Entry c mode k t op := by
    obtain ⟨sheets, cache⟩ := cache
    cases stored : Table.get? (base, reference) k.cache.verdicts with
    | some v =>
      rw [(Import.exec_resolve_stored c mode stored).1] at cache
      exact .repeated reference base v keyed stored sheets cache handed
    | none =>
      obtain ⟨w, executed⟩ := (Import.exec_resolve_new c mode stored).1
      rw [executed] at cache
      exact .decided reference base keyed stored sheets cache handed
  cases op with
  | seed url contents dialect importer => exact .seeded url contents dialect importer rfl rfl
  | resolve reference base =>
    refine resolved reference base rfl rfl ?_
    simp only [operate, drive_eq_exec]
    exact ⟨_, rfl⟩
  | fetch reference base =>
    refine resolved reference base rfl rfl ?_
    simp only [operate, drive_eq_exec]
    exact cache_of_fetch c mode reference base k.session
  | parse nth =>
    simp only [operate, drive_eq_exec]
    split
    · next l there =>
      obtain ⟨sheets, cache⟩ := cache_of_parse c mode l k.session
      exact .parsed nth sheets cache rfl
    · exact .parsed nth _ rfl rfl

theorem verdicts_of_operate (c : Collaborators K) (mode : Mode) (op : CacheOperation) (k : Caller K) :
    (c.operate mode op k).2.cache.verdicts = k.cache.verdicts ∨
      ∃ reference base, Table.get? (base, reference) k.cache.verdicts = none ∧
        (c.operate mode op k).2.cache.verdicts =
          (k.cache.conclude reference base (c.answer mode reference base k.session)).2.verdicts := by
  cases entry_of_operate c mode op k with
  | seeded url contents dialect importer cache handed => rw [cache]; exact .inl rfl
  | repeated reference base v keyed stored sheets cache handed => rw [cache]; exact .inl rfl
  | parsed nth sheets cache handed => rw [cache]; exact .inl rfl
  | decided reference base keyed new sheets cache handed =>
    rw [cache]
    exact .inr ⟨reference, base, new, rfl⟩

/-- An entry that is held after an operation was held before, or it was seeded or answered now. -/
theorem held_of_operate {op : CacheOperation} {l : Loaded} (held : (c.operate mode op k).2.Holds l) :
    k.Holds l ∨
      (∃ importer, op = .seed l.source.url l.source.contents l.source.dialect importer) ∨
      ∃ reference base r, op.key? = some (base, reference) ∧
        Table.get? (base, reference) k.cache.verdicts = none ∧
        c.answer mode reference base k.session = .ok (some (r, l.source)) := by
  cases entry_of_operate c mode op k with
  | seeded url contents dialect importer cache handed =>
    rw [Caller.Holds, handed, cache] at held
    rcases held with there | stored
    · rcases List.mem_append.mp there with earlier | new
      · exact .inl (.inl earlier)
      · obtain rfl := List.mem_singleton.mp new
        exact .inr (.inl ⟨importer, rfl⟩)
    · exact .inl (.inr stored)
  | repeated reference base v keyed stored sheets cache handed =>
    rw [Caller.Holds, handed, cache] at held
    exact .inl held
  | parsed nth sheets cache handed =>
    rw [Caller.Holds, handed, cache] at held
    exact .inl held
  | decided reference base keyed new sheets cache handed =>
    rw [Caller.Holds, handed, cache] at held
    rcases held with there | ⟨key, stored⟩
    · exact .inl (.inl there)
    · rcases Cache.stored_of_conclude stored with earlier | ⟨concluded, -⟩
      · exact .inl (.inr ⟨key, earlier⟩)
      · obtain ⟨r, source, answered, recorded⟩ := Cache.answer_of_conclude concluded.symm
        refine .inr (.inr ⟨reference, base, r, keyed, new, ?_⟩)
        rw [answered, recorded]
        rfl

end Collaborators

/-! ## What an operation does to the sheets -/

/-- The parse that makes the sheet of a stylesheet. -/
def Loaded.made (l : Loaded) (sheet : K.Sheet) : Parse K :=
  ⟨l.source.contents, l.source.dialect, l.source.url, sheet⟩

namespace Collaborators

variable {c : Collaborators K} {mode : Mode} {k : Caller K}

/-- What becomes of the sheets: that of a seeded URL is forgotten; or nothing is handed over and no parse
succeeds, a sheet that is there is handed over, or one that has just been made. -/
inductive Reading (op : CacheOperation) (k t : Caller K) (reply : Reply K) (xs : List (Exchange K)) :
    Prop where
  | seeded (url : String) (seeds : ∀ u, op.seeds u = (url == u))
    (sheets : t.cache.parsed = Table.erase url k.cache.parsed)
    (made : xs.filterMap Exchange.parse? = []) (silent : reply.imported? = none)
  | idle (unseeded : ∀ u, op.seeds u = false) (sheets : t.cache.parsed = k.cache.parsed)
    (made : xs.filterMap Exchange.parse? = []) (silent : reply.imported? = none)
  | kept (unseeded : ∀ u, op.seeds u = false) (l : Loaded) (sheet : K.Sheet) (held : t.Holds l)
    (stored : Table.get? l.source.url k.cache.parsed = some sheet)
    (sheets : t.cache.parsed = k.cache.parsed) (made : xs.filterMap Exchange.parse? = [])
    (handed : reply = .sheet (.ok (Import.handOver l sheet)))
  | made (unseeded : ∀ u, op.seeds u = false) (l : Loaded) (sheet : K.Sheet) (held : t.Holds l)
    (new : Table.get? l.source.url k.cache.parsed = none)
    (sheets : t.cache.parsed = Table.set l.source.url sheet k.cache.parsed)
    (made : xs.filterMap Exchange.parse? = [l.made sheet])
    (handed : reply = .sheet (.ok (Import.handOver l sheet)))

/-- An entry is parsed after exchanges that have made no sheet. -/
theorem reading_of_parse {op : CacheOperation} {t : Caller K} {l : Loaded} {s : Session K}
    {reply : Reply K} {before xs : List (Exchange K)} {ran : Except Fault (Imported K) × Session K}
    (unseeded : ∀ u, op.seeds u = false) (read : Import.Read l s xs ran)
    (same : s.cache.parsed = k.cache.parsed) (made : before.filterMap Exchange.parse? = [])
    (reached : t.session = ran.2) (replied : reply = .sheet ran.1) (held : t.Holds l) :
    Reading op k t reply (before ++ xs) := by
  have cache : t.cache = ran.2.cache := congrArg Session.cache reached
  cases read with
  | kept sheet stored =>
    refine .kept unseeded l sheet held ?_ ?_ ?_ replied
    · rw [← same]
      exact stored
    · rw [cache, same]
    · rw [List.filterMap_append, made]
      rfl
  | made sheet w new =>
    refine .made unseeded l sheet held ?_ ?_ ?_ replied
    · rw [← same]
      exact new
    · rw [cache, ← same]
      rfl
    · rw [List.filterMap_append, made]
      rfl
  | failed f w new =>
    refine .idle unseeded ?_ ?_ ?_
    · rw [cache, same]
    · rw [List.filterMap_append, made]
      rfl
    · rw [replied]
      rfl

theorem reading_of_operate (c : Collaborators K) (mode : Mode) (op : CacheOperation) (k : Caller K) :
    Reading op k (c.operate mode op k).2 (c.operate mode op k).1 (c.exchangesOf mode op k) := by
  cases op with
  | seed url contents dialect importer => exact .seeded url (fun u => rfl) rfl rfl rfl
  | resolve reference base =>
    obtain ⟨same, made⟩ := Import.sheets_of_resolve c mode reference base k.session
    simp only [operate, drive_eq_exec]
    exact .idle (fun u => rfl) same made rfl
  | fetch reference base =>
    obtain ⟨same, made⟩ := Import.sheets_of_resolve c mode reference base k.session
    simp only [operate, drive_eq_exec, exchangesOf]
    rcases ran : (Import.resolve reference base).exec (c.settled mode) k.session with ⟨f | l, t⟩
    · obtain ⟨executed, exchanged⟩ := Import.fetch_of_fault ran
      rw [executed, exchanged]
      rw [ran] at same
      exact .idle (fun u => rfl) same made rfl
    · obtain ⟨executed, exchanged⟩ := Import.fetch_of_found ran
      rw [executed, exchanged]
      rw [ran] at same
      refine reading_of_parse (fun u => rfl) (Import.read_parse c mode l t) same made rfl rfl
        (.inr ⟨(base, reference), ?_⟩)
      obtain ⟨sheets, cache⟩ := cache_of_parse c mode l t
      simp only [Caller.cache, cache]
      exact Import.verdict_of_resolve ran
  | parse nth =>
    simp only [operate, drive_eq_exec, exchangesOf]
    split
    · next l there =>
      have nothing : ([] : List (Exchange K)).filterMap Exchange.parse? = [] := rfl
      exact reading_of_parse (fun u => rfl) (Import.read_parse c mode l k.session) rfl nothing rfl rfl
        (.inl (List.mem_of_getElem? there))
    · exact .idle (fun u => rfl) rfl rfl rfl

end Collaborators

/-! ## First loads -/

/-- Where a stylesheet came from: a seed with the importer given for it, or the answer of a resolver to a
requester. -/
inductive Origin where
  | seeded (importer : Option Importer)
  | found (base : Option String) (r : Resolver)

structure Load where
  url : String
  origin : Origin

namespace Collaborators

variable {c : Collaborators K} {mode : Mode} {k : Caller K}

/-- What an operation loads. A key that was decided before leads to what was loaded then, so it does not
matter what its resolvers would answer now. -/
def load? (c : Collaborators K) (mode : Mode) : CacheOperation → Caller K → Option Load
  | .seed url _ _ importer, _ => some ⟨url, .seeded importer⟩
  | .resolve reference base, k | .fetch reference base, k =>
    match c.resolution mode reference base k, c.answer mode reference base k.session with
    | .ok l, .ok (some (r, _)) => some ⟨l.source.url, .found base r⟩
    | _, _ => none
  | .parse _, _ => none

def loads (c : Collaborators K) (mode : Mode) : List CacheOperation → Caller K → List Load :=
  c.along mode fun op k => (c.load? mode op k).toList

theorem resolution_of_stored {reference : String} {base : Option String} {v : Verdict}
    (stored : Table.get? (base, reference) k.cache.verdicts = some v) :
    c.resolution mode reference base k = v.outcome reference base := by
  rw [resolution, drive_eq_exec, (Import.exec_resolve_stored c mode stored).1]

theorem resolution_of_new {reference : String} {base : Option String}
    (new : Table.get? (base, reference) k.cache.verdicts = none) :
    c.resolution mode reference base k =
      (k.cache.conclude reference base (c.answer mode reference base k.session)).1 := by
  obtain ⟨w, executed⟩ := (Import.exec_resolve_new c mode new).1
  rw [resolution, drive_eq_exec, executed]
  rfl

theorem load?_of_keyed {op : CacheOperation} {reference : String} {base : Option String}
    (keyed : op.key? = some (base, reference)) :
    c.load? mode op k =
      match c.resolution mode reference base k, c.answer mode reference base k.session with
      | .ok l, .ok (some (r, _)) => some ⟨l.source.url, .found base r⟩
      | _, _ => none := by
  cases op with
  | seed url contents dialect importer => cases keyed
  | resolve reference' base' => cases keyed; rfl
  | fetch reference' base' => cases keyed; rfl
  | parse nth => cases keyed

end Collaborators

/-! ## The URLs that were loaded -/

/-- URLs in the order in which they came up, and one more that may have come up before. -/
def joinUrl (urls : List String) (url : String) : List String :=
  if url ∈ urls then urls else urls ++ [url]

theorem mem_joinUrl {urls : List String} {u url : String} :
    u ∈ joinUrl urls url ↔ u ∈ urls ∨ u = url := by
  unfold joinUrl
  split
  · next there =>
    refine ⟨.inl, ?_⟩
    rintro (known | rfl)
    · exact known
    · exact there
  · rw [List.mem_append, List.mem_singleton]

theorem nodup_joinUrl {urls : List String} (nodup : urls.Nodup) (url : String) :
    (joinUrl urls url).Nodup := by
  unfold joinUrl
  split
  · exact nodup
  · next new =>
    refine List.nodup_append.mpr ⟨nodup, by simp, ?_⟩
    rintro u there _ (_ | ⟨_, ⟨⟩⟩) rfl
    exact new there

theorem eraseDups_concat (urls : List String) (url : String) :
    (urls ++ [url]).eraseDups = joinUrl urls.eraseDups url := by
  rw [List.eraseDups_append, joinUrl]
  by_cases there : url ∈ urls
  · simp [there, List.removeAll]
  · simp [there, List.removeAll, List.eraseDups_cons]

namespace Cache

theorem loadedUrls_seed (cache : Cache K) (url contents : String) (dialect : Dialect)
    (importer : Option Importer) :
    (cache.seed url contents dialect importer).2.loadedUrls = joinUrl cache.loadedUrls url :=
  Table.keys_set _ _ _

theorem loadedUrls_conclude (cache : Cache K) (reference : String) (base : Option String)
    (answer : Except Fault (Option (Resolver × Source))) :
    (cache.conclude reference base answer).2.loadedUrls =
      match (cache.conclude reference base answer).1 with
      | .ok l => joinUrl cache.loadedUrls l.source.url
      | .error _ => cache.loadedUrls := by
  rw [loadedUrls, (conclude_keeps cache reference base answer).2.2.2]
  cases (cache.conclude reference base answer).1 with
  | error f => rfl
  | ok l => exact (Table.keys_setNew _ _ _).trans (Table.keys_set _ _ _)

end Cache

/-- Each entry that a caller holds and each sheet belongs to a URL that was loaded, first loads stand under
their own URLs, no URL is listed twice, and no verdict is an ambiguity without a failure of that kind. -/
structure Caller.Accounted (k : Caller K) : Prop where
  held : ∀ l, k.Holds l → l.source.url ∈ k.cache.loadedUrls
  parsed : ∀ url, (Table.get? url k.cache.parsed).isSome → url ∈ k.cache.loadedUrls
  loads : ∀ url l, Table.get? url k.cache.loads = some l → l.source.url = url
  nodup : k.cache.loadedUrls.Nodup
  genuine : ∀ key v, Table.get? key k.cache.verdicts = some v → v.Genuine

namespace Collaborators

variable {c : Collaborators K} {mode : Mode} {k : Caller K}

theorem loadedUrls_operate (c : Collaborators K) (mode : Mode) (accounted : k.Accounted)
    (op : CacheOperation) :
    (c.operate mode op k).2.cache.loadedUrls =
      match c.load? mode op k with
      | some load => joinUrl k.cache.loadedUrls load.url
      | none => k.cache.loadedUrls := by
  cases entry_of_operate c mode op k with
  | seeded url contents dialect importer cache handed =>
    rw [cache]
    exact Cache.loadedUrls_seed _ _ _ _ _
  | decided reference base keyed new sheets cache handed =>
    rw [cache, load?_of_keyed keyed, resolution_of_new new]
    refine (Cache.loadedUrls_conclude _ _ _ _).trans ?_
    rcases c.answer mode reference base k.session with f | _ | ⟨r, source⟩ <;> rfl
  | repeated reference base v keyed stored sheets cache handed =>
    rw [cache, load?_of_keyed keyed, resolution_of_stored stored]
    cases v with
    | found l =>
      -- the stylesheet was listed when the key was decided, whatever the resolvers would answer now
      have there := accounted.held l (.inr ⟨_, stored⟩)
      rcases c.answer mode reference base k.session with f | _ | ⟨r, source⟩
      · rfl
      · rfl
      · exact (if_pos there).symm
    | missing => rfl
    | ambiguous f => rfl
  | parsed nth sheets cache handed =>
    rw [cache]
    rfl

theorem mem_loadedUrls_operate (c : Collaborators K) (mode : Mode) (accounted : k.Accounted)
    (op : CacheOperation) {url : String} (there : url ∈ k.cache.loadedUrls) :
    url ∈ (c.operate mode op k).2.cache.loadedUrls := by
  rw [loadedUrls_operate c mode accounted op]
  cases c.load? mode op k with
  | none => exact there
  | some load => exact mem_joinUrl.mpr (.inl there)

theorem held_operate (accounted : k.Accounted) (op : CacheOperation) {l : Loaded}
    (held : (c.operate mode op k).2.Holds l) :
    l.source.url ∈ (c.operate mode op k).2.cache.loadedUrls := by
  rcases held_of_operate held with before | ⟨importer, rfl⟩ | ⟨reference, base, r, keyed, new, answered⟩
  · exact mem_loadedUrls_operate c mode accounted op (accounted.held l before)
  · rw [loadedUrls_operate c mode accounted]
    exact mem_joinUrl.mpr (.inr rfl)
  · rw [loadedUrls_operate c mode accounted, load?_of_keyed keyed, resolution_of_new new, answered]
    exact mem_joinUrl.mpr (.inr rfl)

/-- A sheet that is there after an operation was there before, or it is one of an entry held now. -/
theorem parsed_operate (c : Collaborators K) (mode : Mode) (op : CacheOperation) (k : Caller K)
    {url : String} (there : (Table.get? url (c.operate mode op k).2.cache.parsed).isSome) :
    (Table.get? url k.cache.parsed).isSome ∨
      ∃ l, (c.operate mode op k).2.Holds l ∧ l.source.url = url := by
  cases reading_of_operate c mode op k with
  | seeded u seeds sheets made silent =>
    rw [sheets] at there
    by_cases same : u = url
    · rw [same, Table.get?_erase_self] at there
      cases there
    · rw [Table.get?_erase_of_ne same] at there
      exact .inl there
  | idle unseeded sheets made silent => exact .inl (sheets ▸ there)
  | kept unseeded l sheet held stored sheets made handed => exact .inl (sheets ▸ there)
  | made unseeded l sheet held new sheets made handed =>
    rw [sheets, Table.get?_set] at there
    split at there
    · next same => exact .inr ⟨l, held, same⟩
    · exact .inl there

theorem loads_operate (c : Collaborators K) (mode : Mode) (accounted : k.Accounted)
    (op : CacheOperation) {url : String} {l : Loaded}
    (there : Table.get? url (c.operate mode op k).2.cache.loads = some l) : l.source.url = url := by
  cases entry_of_operate c mode op k with
  | seeded u contents dialect importer cache handed =>
    rw [cache] at there
    have entered := (Table.get?_set url u _ k.cache.loads).symm.trans there
    split at entered
    · next same =>
      cases entered
      exact same
    · exact accounted.loads url l entered
  | repeated reference base v keyed stored sheets cache handed =>
    rw [cache] at there
    exact accounted.loads url l there
  | parsed nth sheets cache handed =>
    rw [cache] at there
    exact accounted.loads url l there
  | decided reference base keyed new sheets cache handed =>
    have loads := (Cache.conclude_keeps k.cache reference base
      (c.answer mode reference base k.session)).2.2.2
    rw [cache] at there
    replace there := (congrArg (Table.get? url) loads).symm.trans there
    split at there
    · next l' concluded =>
      rw [Table.get?_setNew] at there
      rcases Option.or_eq_some_iff.mp there with before | ⟨-, now⟩
      · exact accounted.loads url l before
      · split at now
        · next same =>
          cases now
          exact same
        · cases now
    · exact accounted.loads url l there

theorem accounted_operate (c : Collaborators K) (mode : Mode) (op : CacheOperation) (k : Caller K)
    (accounted : k.Accounted) : (c.operate mode op k).2.Accounted where
  held l held := held_operate accounted op held
  parsed url there := by
    rcases parsed_operate c mode op k there with earlier | ⟨l, held, rfl⟩
    · exact mem_loadedUrls_operate c mode accounted op (accounted.parsed url earlier)
    · exact held_operate accounted op held
  loads url l there := loads_operate c mode accounted op there
  nodup := by
    rw [loadedUrls_operate c mode accounted op]
    cases c.load? mode op k with
    | none => exact accounted.nodup
    | some load => exact nodup_joinUrl accounted.nodup load.url
  genuine key v stored := by
    rcases verdicts_of_operate c mode op k with same | ⟨reference, base, -, concluded⟩
    · exact accounted.genuine key v (same ▸ stored)
    · rcases Cache.stored_of_conclude (concluded ▸ stored) with earlier | ⟨-, genuine⟩
      · exact accounted.genuine key v earlier
      · exact genuine

theorem accounted_after (c : Collaborators K) (mode : Mode) (ops : List CacheOperation)
    (accounted : k.Accounted) : (c.after mode ops k).Accounted :=
  after_induction (accounted_operate c mode) ops accounted

/-- URLs are listed in the order of their first loads. -/
theorem loadedUrls_after (c : Collaborators K) (mode : Mode) (ops : List CacheOperation)
    (accounted : k.Accounted) {urls : List String} (here : k.cache.loadedUrls = urls.eraseDups) :
    (c.after mode ops k).cache.loadedUrls =
      (urls ++ (c.loads mode ops k).map Load.url).eraseDups := by
  induction ops generalizing k urls with
  | nil => simpa [after, loads, along] using here
  | cons op rest ih =>
    -- `urls` are all loads so far, with repetitions; the table holds them without
    have step := loadedUrls_operate c mode accounted op
    have next := accounted_operate c mode op k accounted
    cases loaded : c.load? mode op k with
    | none =>
      rw [loaded] at step
      have rest_eq := ih next (step.trans here)
      simpa [after, loads, along, loaded] using rest_eq
    | some load =>
      rw [loaded, here] at step
      have rest_eq := ih next (step.trans (eraseDups_concat urls load.url).symm)
      simpa [after, loads, along, loaded] using rest_eq

end Collaborators

theorem Caller.accounted_start (s : Session K) (resolvers : List Resolver) (entry : Importer)
    (awaits : Bool) : (Caller.start s resolvers entry awaits).Accounted where
  held := by
    rintro l (there | ⟨key, stored⟩)
    · cases there
    · cases stored
  parsed := by
    intro url there
    cases there
  loads := by
    intro url l there
    cases there
  nodup := List.nodup_nil
  genuine := by
    intro key v stored
    cases stored

/-! ## Parses since a seed -/

def parsesOf (url : String) (xs : List (Exchange K)) : List (Parse K) :=
  (xs.filterMap Exchange.parse?).filter fun p => p.url == url

namespace Collaborators

/-- The parses of a URL that have succeeded since it was last seeded, the given ones first. -/
def parsesSince (c : Collaborators K) (mode : Mode) (url : String) :
    List CacheOperation → Caller K → List (Parse K) → List (Parse K)
  | [], _, made => made
  | op :: rest, k, made =>
    c.parsesSince mode url rest (c.operate mode op k).2
      (if op.seeds url then [] else made ++ parsesOf url (c.exchangesOf mode op k))

/-- The sheet that is there for a URL is the one that was made for it since it was last seeded. -/
theorem sheets_parsesSince (c : Collaborators K) (mode : Mode) (url : String)
    (ops : List CacheOperation) {k : Caller K} {made : List (Parse K)}
    (here : made.map Parse.sheet = (Table.get? url k.cache.parsed).toList) :
    (c.parsesSince mode url ops k made).map Parse.sheet =
      (Table.get? url (c.after mode ops k).cache.parsed).toList := by
  induction ops generalizing k made with
  | nil => exact here
  | cons op rest ih =>
    refine ih ?_
    -- `made` is empty or has the one sheet that is there, before and after the operation
    cases reading_of_operate c mode op k with
    | seeded u seeds sheets nothing silent =>
      rw [seeds url, sheets, parsesOf, nothing]
      by_cases same : u = url
      · simp [same, Table.get?_erase_self]
      · rw [Table.get?_erase_of_ne same]
        simp [same, here]
    | idle unseeded sheets nothing silent => simp [unseeded, parsesOf, nothing, sheets, here]
    | kept unseeded l sheet held stored sheets nothing handed =>
      simp [unseeded, parsesOf, nothing, sheets, here]
    | made unseeded l sheet held new sheets once handed =>
      rw [unseeded url, if_neg Bool.false_ne_true, List.map_append, here, parsesOf, once, sheets,
        Table.get?_set]
      by_cases same : l.source.url = url
      · rw [same] at new
        simp [Loaded.made, same, new]
      · simp [Loaded.made, same]

end Collaborators

end StyleBuild
