import StyleBuild.Proofs.LoadedUrls
import StyleBuild.Proofs.Memoization

/-!
# What a failed import leaves behind

An import can fail at three places: where its resolvers are asked, where the verdict on its key is repeated,
and where what it has resolved to is parsed. `Import.Setback` lists these places with the cache that each of
them leaves. A fault of an importer leaves no trace and a fault of the parser only what resolving leaves, so
both are open to another try; nothing found and several candidates are decided for good.
-/

set_option autoImplicit false

namespace StyleBuild

variable {K : Kit}

/-- The parser takes a source, in whatever session it is given it. -/
def Collaborators.Takes (c : Collaborators K) (mode : Mode) (source : Source) : Prop :=
  ∀ s : Session K, ∃ sheet,
    (c.settled mode (.parse source.contents source.dialect source.url) s).1 = .ok sheet

namespace Import

variable {c : Collaborators K} {mode : Mode} {reference : String} {base : Option String}
variable {s t : Session K} {f : Fault}

/-! ## Another try -/

theorem load_of_resolved {l : Loaded} (takes : c.Takes mode l.source)
    (ran : (resolve reference base).exec (c.settled mode) s = (.ok l, t)) :
    ∃ sheet, ((load reference base).exec (c.settled mode) s).1 = .ok (handOver l sheet) ∧
      c.exchanges mode (load reference base) s =
        c.exchanges mode (resolve reference base) s ++ c.exchanges mode (parse l) t := by
  obtain ⟨fetched, exchanged⟩ := fetch_of_found ran
  have read := read_parse c mode l t
  rcases parsed : (parse l).exec (c.settled mode) t with ⟨f | imported, u⟩
  · obtain ⟨raised, -, called⟩ := raised_of_ends_parse (Steps.ends_of_exec parsed)
    obtain ⟨sheet, taken⟩ := takes t
    cases called.symm.trans taken
  · have loaded : (load reference base).exec (c.settled mode) s =
        (.ok imported, u.recordLoaded imported.url) := by
      rw [load, Steps.exec_bind, fetched, parsed]
      rfl
    have noted : c.exchanges mode (load reference base) s =
        c.exchanges mode (fetch reference base) s := by
      rw [load, Collaborators.exchanges, Steps.notes_bind, fetched, parsed]
      exact List.append_nil _
    rw [loaded, noted, exchanged]
    rw [parsed] at read
    generalize c.exchanges mode (parse l) t = xs at read ⊢
    cases read with
    | kept sheet stored => exact ⟨sheet, rfl, rfl⟩
    | made sheet w new => exact ⟨sheet, rfl, rfl⟩

/-- An import on this cache succeeds once the resolvers come to a source that the parser takes. -/
def OpenToImporters (reference : String) (base : Option String) (cache : Cache K) : Prop :=
  ∀ (c : Collaborators K) (mode : Mode) (s : Session K) (r : Resolver) (source : Source),
    s.cache = cache → c.answer mode reference base s = .ok (some (r, source)) → c.Takes mode source →
    ∃ sheet, (c.drive mode (load reference base) s).1 =
      .ok (handOver (cache.record reference base r source).1 sheet)

/-- An import on this cache succeeds, and asks no importer, once the parser takes what is stored. -/
def OpenToParser (reference : String) (base : Option String) (l : Loaded) (cache : Cache K) : Prop :=
  ∀ (c : Collaborators K) (mode : Mode) (s : Session K), s.cache = cache → c.Takes mode l.source →
    ∃ sheet, (c.drive mode (load reference base) s).1 = .ok (handOver l sheet) ∧
      ∀ x ∈ c.exchanges mode (load reference base) s, x.asksImporter = false

theorem openToImporters {cache : Cache K} (new : Table.get? (base, reference) cache.verdicts = none) :
    OpenToImporters reference base cache := by
  rintro c mode s r source rfl answered takes
  obtain ⟨w, resolved⟩ := (exec_resolve_new c mode new).1
  rw [answered] at resolved
  obtain ⟨sheet, loaded, -⟩ := load_of_resolved takes resolved
  exact ⟨sheet, by rw [c.drive_eq_exec, loaded]⟩

theorem openToParser {cache : Cache K} {l : Loaded}
    (stored : Table.get? (base, reference) cache.verdicts = some (.found l)) :
    OpenToParser reference base l cache := by
  rintro c mode s rfl takes
  obtain ⟨resolved, asked⟩ := exec_resolve_stored c mode stored
  obtain ⟨sheet, loaded, exchanged⟩ := load_of_resolved takes resolved
  refine ⟨sheet, by rw [c.drive_eq_exec, loaded], ?_⟩
  rw [exchanged, asked, List.nil_append]
  have read := read_parse c mode l s
  intro x there
  generalize c.exchanges mode (parse l) s = xs, (parse l).exec (c.settled mode) s = ran at read there
  cases read with
  | kept sheet stored => cases there
  | made sheet w new => rw [List.mem_singleton.mp there]; rfl
  | failed f w new => rw [List.mem_singleton.mp there]; rfl

/-! ## Where an import fails -/

/-- Where an import fails, with the cache that it leaves. -/
inductive Setback (c : Collaborators K) (mode : Mode) (reference : String) (base : Option String)
    (s : Session K) : Fault → Cache K → Prop where
  /-- The resolvers have come to a fault that is no ambiguity: an importer's own, or a refusal of what an
  importer has returned. -/
  | broken (f : Fault) (new : Table.get? (base, reference) s.cache.verdicts = none)
    (answered : c.answer mode reference base s = .error f) (single : f.ambiguity? = none)
    (again : OpenToImporters reference base s.cache) :
    Setback c mode reference base s f s.cache
  | ambiguous (g : Failure) (new : Table.get? (base, reference) s.cache.verdicts = none)
    (answered : c.answer mode reference base s = .error (.failure g))
    (several : (Fault.failure g).ambiguity? = some g) :
    Setback c mode reference base s (.failure g) (s.cache.settle reference base (.ambiguous g))
  | exhausted (new : Table.get? (base, reference) s.cache.verdicts = none)
    (answered : c.answer mode reference base s = .ok none) :
    Setback c mode reference base s (.failure (.notFound reference base))
      (s.cache.settle reference base .missing)
  | repeated (v : Verdict) (f : Fault)
    (stored : Table.get? (base, reference) s.cache.verdicts = some v)
    (outcome : v.outcome reference base = .error f) : Setback c mode reference base s f s.cache
  | unparsed (l : Loaded) (u : Session K) (f : Fault)
    (resolved : c.drive mode (resolve reference base) s = (.ok l, u))
    (refused : (c.settled mode (.parse l.source.contents l.source.dialect l.source.url) u).1 = .error f)
    (unread : Table.get? l.source.url s.cache.parsed = none)
    (sheets : u.cache.parsed = s.cache.parsed) (again : OpenToParser reference base l u.cache) :
    Setback c mode reference base s (parseFault l.source.url f) u.cache

theorem setback_of_resolve (ran : (resolve reference base).exec (c.settled mode) s = (.error f, t)) :
    Setback c mode reference base s f t.cache := by
  cases stored : Table.get? (base, reference) s.cache.verdicts with
  | some v =>
    rw [(exec_resolve_stored c mode stored).1] at ran
    obtain ⟨outcome, rfl⟩ := Prod.mk.inj ran
    exact .repeated v f stored outcome
  | none =>
    obtain ⟨w, executed⟩ := (exec_resolve_new c mode stored).1
    rw [executed] at ran
    obtain ⟨outcome, rfl⟩ := Prod.mk.inj ran
    generalize answered : c.answer mode reference base s = answer at outcome ⊢
    rcases answer with g | _ | ⟨r, source⟩
    · obtain rfl : g = f := Except.error.inj outcome
      simp only [Cache.conclude]
      cases several : g.ambiguity? with
      | none => exact .broken g stored answered several (openToImporters stored)
      | some failure =>
        obtain rfl := Fault.eq_of_ambiguity? several
        exact .ambiguous failure stored answered several
    · obtain rfl : Fault.failure (.notFound reference base) = f := Except.error.inj outcome
      exact .exhausted stored answered
    · cases outcome

theorem setback_of_parse {l : Loaded} {u : Session K}
    (resolved : (resolve reference base).exec (c.settled mode) s = (.ok l, u))
    (ran : (parse l).exec (c.settled mode) u = (.error f, t)) :
    Setback c mode reference base s f t.cache := by
  obtain ⟨raised, rfl, called⟩ := raised_of_ends_parse (Steps.ends_of_exec ran)
  obtain ⟨same, unread⟩ : t.cache = u.cache ∧ Table.get? l.source.url u.cache.parsed = none := by
    have read := read_parse c mode l u
    rw [ran] at read
    generalize c.exchanges mode (parse l) u = xs at read
    generalize parseFault l.source.url raised = f at read
    cases read with
    | failed f w new => exact ⟨rfl, new⟩
  have sheets : u.cache.parsed = s.cache.parsed := by
    have kept := (sheets_of_resolve c mode reference base s).1
    rw [resolved] at kept
    exact kept
  rw [same]
  refine .unparsed l u raised ?_ called ?_ sheets (openToParser (verdict_of_resolve resolved))
  · rw [c.drive_eq_exec, resolved]
  · rw [← sheets]
    exact unread

theorem setback_of_load (ran : (load reference base).exec (c.settled mode) s = (.error f, t)) :
    Setback c mode reference base s f t.cache := by
  have fetched : (fetch reference base).exec (c.settled mode) s = (.error f, t) := by
    rw [load, Steps.exec_bind] at ran
    rcases first : (fetch reference base).exec (c.settled mode) s with ⟨g | imported, u⟩
    · rw [first] at ran
      exact ran
    · rw [first] at ran
      cases ran
  rcases resolved : (resolve reference base).exec (c.settled mode) s with ⟨g | l, u⟩
  · rw [(fetch_of_fault resolved).1] at fetched
    obtain ⟨failed, rfl⟩ := Prod.mk.inj fetched
    obtain rfl := Except.error.inj failed
    exact setback_of_resolve resolved
  · rw [(fetch_of_found resolved).1] at fetched
    exact setback_of_parse resolved fetched

/-- An import that fails leaves the run's own books alone. -/
theorem books_of_load (ran : (load reference base).exec (c.settled mode) s = (.error f, t)) :
    t.context = s.context ∧ t.throttle = s.throttle := by
  have touched := (c.import_frame mode).closed.load reference base s
  have recorded := loaded_load c mode reference base s
  rw [ran] at touched recorded
  obtain ⟨w, cache, loaded, rfl⟩ := touched
  have same : loaded = s.context.loaded := recorded
  exact ⟨by rw [same], rfl⟩

end Import

/-- An import that fails, in whatever session, changes of the cache what the place of its failure says, and
nothing of the run's own books. -/
theorem failed_import_framed (c : Collaborators K) (mode : Mode) (reference : String)
    (base : Option String) (s t : Session K) (f : Fault)
    (failed : c.drive mode (Import.load reference base) s = (.error f, t)) :
    Import.Setback c mode reference base s f t.cache ∧ t.context = s.context ∧
      t.throttle = s.throttle := by
  rw [c.drive_eq_exec] at failed
  exact ⟨Import.setback_of_load failed, Import.books_of_load failed⟩

namespace Lines

def refusedSheet : Collaborators kit := directly [("m", .memory [("a", "!!!")] "m")]

/-- The same importers with a parser that takes everything. -/
def mendedParser : Collaborators kit :=
  { refusedSheet with parse := fun _ _ url w => (.value (⟨url, []⟩ : Sheet), w) }

def trialStart : Session kit :=
  { Session.blank (K := kit) ({} : Notes) with
    cache := { resolvers := [], entry := .custom ⟨"m", "Imp(m)"⟩ } }

/-- A sheet that the parser has refused is resolved but not loaded, and another try succeeds. -/
theorem refused_sheet_framed : ∃ f t,
    refusedSheet.drive .direct (Import.load "a" none) trialStart = (.error f, t) ∧
      (Import.Setback refusedSheet .direct "a" none trialStart f t.cache ∧
        t.context = trialStart.context ∧ t.throttle = trialStart.throttle) ∧
      (t.cache.loadedUrls, t.context.loaded) = (["m:a"], []) ∧
      (mendedParser.drive .direct (Import.load "a" none) t).1.toOption.map (·.url) = some "m:a" := by
  have fails : (refusedSheet.drive .direct (Import.load "a" none) trialStart).1.toOption.isNone := by
    decide +kernel
  have tables : ((refusedSheet.drive .direct (Import.load "a" none) trialStart).2.cache.loadedUrls,
      (refusedSheet.drive .direct (Import.load "a" none) trialStart).2.context.loaded) =
        (["m:a"], []) := by decide +kernel
  have again : (mendedParser.drive .direct (Import.load "a" none)
      (refusedSheet.drive .direct (Import.load "a" none) trialStart).2).1.toOption.map (·.url) =
        some "m:a" := by decide +kernel
  rcases ran : refusedSheet.drive .direct (Import.load "a" none) trialStart with ⟨f | imported, t⟩
  · rw [ran] at tables again
    exact ⟨f, t, rfl, failed_import_framed refusedSheet .direct "a" none trialStart t f ran, tables, again⟩
  · rw [ran] at fails
    cases fails

end Lines

end StyleBuild
