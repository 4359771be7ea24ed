import StyleBuild.Proofs.Histories
import StyleBuild.Proofs.Memoization

/-!
# The dialect that an import reports

A sheet is made once for its URL, by a parse in the dialect of the entry that came first, while an import
reports the dialect of the entry that it was resolved to. The two agree where a URL is given in one dialect
only, by seeds and by importers, and they need not agree otherwise.
-/

set_option autoImplicit false

namespace StyleBuild

variable {K : Kit}

theorem Reply.eq_of_imported? {reply : Reply K} {imported : Imported K}
    (found : reply.imported? = some imported) : reply = .sheet (.ok imported) := by
  rcases reply with _ | ⟨_ | handed⟩ | _
  · cases found
  · cases found
  · rw [Option.some.inj found]
  · cases found

/-! ## The dialects of a URL -/

def CacheOperation.seededDialects (url : String) : CacheOperation → List Dialect
  | seed u _ dialect _ => if u = url then [dialect] else []
  | _ => []

namespace Collaborators

/-- The dialects in which an operation gives a URL: that of a seed, or those of the sources that importers
have answered with. -/
def dialectsOf (c : Collaborators K) (mode : Mode) (url : String) (op : CacheOperation)
    (k : Caller K) : List Dialect :=
  op.seededDialects url ++ (((c.exchangesOf mode op k).filterMap Exchange.source?).filter
    fun source => source.url == url).map Source.dialect

def dialects (c : Collaborators K) (mode : Mode) (url : String) :
    List CacheOperation → Caller K → List Dialect :=
  c.along mode (c.dialectsOf mode url)

/-- A history gives a URL in a single dialect. -/
def OneDialect (c : Collaborators K) (mode : Mode) (url : String) (ops : List CacheOperation)
    (k : Caller K) : Prop :=
  ∀ d ∈ c.dialects mode url ops k, ∀ d' ∈ c.dialects mode url ops k, d = d'

variable {c : Collaborators K} {mode : Mode} {k : Caller K} {op : CacheOperation} {url : String}

theorem exchanges_of_keyed {reference : String} {base : Option String}
    (keyed : op.key? = some (base, reference)) {x : Exchange K}
    (there : x ∈ c.exchanges mode (Import.resolve reference base) k.session) :
    x ∈ c.exchangesOf mode op k := by
  cases op with
  | seed url contents dialect importer => cases keyed
  | parse nth => cases keyed
  | resolve reference' base' =>
    cases keyed
    exact there
  | fetch reference' base' =>
    cases keyed
    rw [exchangesOf]
    rcases ran : (Import.resolve reference base).exec (c.settled mode) k.session with ⟨f | l, t⟩
    · rw [(Import.fetch_of_fault ran).2]
      exact there
    · rw [(Import.fetch_of_found ran).2]
      exact List.mem_append_left _ there

theorem dialect_of_offer {source : Source} {i : Importer} {reference : String} {base : Option String}
    (there : (⟨.resolve i reference base, .ok (.source source)⟩ : Exchange K) ∈
      c.exchangesOf mode op k) (here : source.url = url) :
    source.dialect ∈ c.dialectsOf mode url op k := by
  refine List.mem_append_right _ (List.mem_map_of_mem (List.mem_filter.mpr ⟨?_, ?_⟩))
  · exact List.mem_filterMap.mpr ⟨_, there, rfl⟩
  · exact beq_iff_eq.mpr here

theorem dialect_of_held {ds : List Dialect}
    (spoken : ∀ l, k.Holds l → l.source.url = url → l.source.dialect ∈ ds) {l : Loaded}
    (held : (c.operate mode op k).2.Holds l) (here : l.source.url = url) :
    l.source.dialect ∈ ds ++ c.dialectsOf mode url op k := by
  rcases held_of_operate held with before | ⟨importer, rfl⟩ | ⟨reference, base, r, keyed, new, answered⟩
  · exact List.mem_append_left _ (spoken l before here)
  · refine List.mem_append_right _ (List.mem_append_left _ ?_)
    rw [CacheOperation.seededDialects, if_pos here]
    exact List.mem_singleton_self _
  · have asked := Import.asked_cascade c mode reference base k.session
    obtain ⟨-, offered⟩ := asked.answered r l.source answered
    rw [← (Import.exec_resolve_new c mode new).2] at offered
    exact List.mem_append_right _ (dialect_of_offer (exchanges_of_keyed keyed offered) here)

end Collaborators

/-- What is known of a URL that was given in some dialects: its entries and its parses are in them. -/
structure Caller.Spoken (k : Caller K) (url : String) (ds : List Dialect) (made : List (Parse K)) :
    Prop where
  held : ∀ l, k.Holds l → l.source.url = url → l.source.dialect ∈ ds
  made : ∀ p ∈ made, p.url = url ∧ p.dialect ∈ ds

namespace Collaborators

variable {k : Caller K} {url : String} {ds : List Dialect} {made : List (Parse K)}

theorem spoken_operate (c : Collaborators K) (mode : Mode) (op : CacheOperation)
    (spoken : k.Spoken url ds made) :
    (c.operate mode op k).2.Spoken url (ds ++ c.dialectsOf mode url op k)
      (if op.seeds url then [] else made ++ parsesOf url (c.exchangesOf mode op k)) where
  held l held here := dialect_of_held spoken.held held here
  made p there := by
    have before (there : p ∈ made) : p.url = url ∧ p.dialect ∈ ds ++ c.dialectsOf mode url op k := by
      obtain ⟨here, given⟩ := spoken.made p there
      exact ⟨here, List.mem_append_left _ given⟩
    by_cases seeded : op.seeds url = true
    · rw [if_pos seeded] at there
      cases there
    · rw [if_neg seeded] at there
      rcases List.mem_append.mp there with earlier | now
      · exact before earlier
      · obtain ⟨parsed, same⟩ := List.mem_filter.mp now
        cases reading_of_operate c mode op k with
        | seeded u seeds sheets nothing silent =>
          rw [nothing] at parsed
          cases parsed
        | idle unseeded sheets nothing silent =>
          rw [nothing] at parsed
          cases parsed
        | kept unseeded l sheet held stored sheets nothing handed =>
          rw [nothing] at parsed
          cases parsed
        | made unseeded l sheet held new sheets once handed =>
          rw [once] at parsed
          obtain rfl := List.mem_singleton.mp parsed
          have here : l.source.url = url := beq_iff_eq.mp same
          exact ⟨here, dialect_of_held spoken.held held here⟩

theorem spoken_after (c : Collaborators K) (mode : Mode) (ops : List CacheOperation)
    (spoken : k.Spoken url ds made) :
    (c.after mode ops k).Spoken url (ds ++ c.dialects mode url ops k)
      (c.parsesSince mode url ops k made) := by
  induction ops generalizing k ds made with
  | nil => simpa [after, dialects, along, parsesSince] using spoken
  | cons op rest ih =>
    have further := ih (spoken_operate c mode op spoken)
    rw [List.append_assoc] at further
    exact further

theorem sheet_of_reply (c : Collaborators K) (mode : Mode) {op : CacheOperation}
    {imported : Imported K} (handed : (c.operate mode op k).1 = .sheet (.ok imported)) :
    ∃ l, (c.operate mode op k).2.Holds l ∧ l.source.url = imported.url ∧
      l.source.dialect = imported.dialect ∧
      Table.get? imported.url (c.operate mode op k).2.cache.parsed = some imported.sheet := by
  cases reading_of_operate c mode op k with
  | seeded u seeds sheets nothing silent =>
    rw [handed] at silent
    cases silent
  | idle unseeded sheets nothing silent =>
    rw [handed] at silent
    cases silent
  | kept unseeded l sheet held stored sheets nothing reply =>
    obtain rfl := Except.ok.inj (Reply.sheet.inj (reply.symm.trans handed))
    refine ⟨l, held, rfl, rfl, ?_⟩
    rw [sheets]
    exact stored
  | made unseeded l sheet held new sheets once reply =>
    obtain rfl := Except.ok.inj (Reply.sheet.inj (reply.symm.trans handed))
    refine ⟨l, held, rfl, rfl, ?_⟩
    rw [sheets]
    exact Table.get?_set_self _ _ _

end Collaborators

/-- A sheet that is handed over was made by the one parse of its URL that has succeeded since the URL was
last seeded. That parse was in the dialect that is reported if the URL was given in a single dialect. -/
theorem handed_over_made (c : Collaborators K) (mode : Mode) (s : Session K)
    (resolvers : List Resolver) (entry : Importer) (awaits : Bool) (ops : List CacheOperation)
    (op : CacheOperation) (imported : Imported K)
    (handed : (c.operate mode op
      (c.after mode ops (.start s resolvers entry awaits))).1 = .sheet (.ok imported)) :
    let start : Caller K := .start s resolvers entry awaits
    ∃ made, c.parsesSince mode imported.url (ops ++ [op]) start [] = [made] ∧
      made.url = imported.url ∧ made.sheet = imported.sheet ∧
      (c.OneDialect mode imported.url (ops ++ [op]) start → made.dialect = imported.dialect) := by
  intro start
  have led : c.after mode (ops ++ [op]) start = (c.operate mode op (c.after mode ops start)).2 :=
    c.after_append mode ops [op] start
  obtain ⟨l, held, here, dialect, there⟩ := c.sheet_of_reply mode handed
  rw [← led] at held there
  have unspoken : start.Spoken imported.url [] [] := by
    refine ⟨?_, nofun⟩
    rintro l (handed | ⟨key, stored⟩)
    · cases handed
    · cases stored
  have spoken := c.spoken_after mode (ops ++ [op]) unspoken
  have unread : ([] : List (Parse K)).map Parse.sheet =
      (Table.get? imported.url start.cache.parsed).toList := rfl
  have sheets := c.sheets_parsesSince mode imported.url (ops ++ [op]) unread
  rw [there] at sheets
  obtain ⟨made, single, sheet⟩ := List.map_eq_singleton_iff.mp sheets
  obtain ⟨url, given⟩ := spoken.made made (single ▸ List.mem_singleton_self made)
  refine ⟨made, single, url, sheet, ?_⟩
  intro one
  rw [← dialect]
  exact one _ given _ (spoken.held l held here)

namespace Lines

/-- A sheet that an importer has as `.scss`. -/
def sheetTable : List (String × Canned) := [("m", .memory [("a", "x")] "m")]

def sheetStart : Caller kit :=
  .start (Session.blank (K := kit) ({} : Notes)) [] (.custom ⟨"m", "Imp(m)"⟩) false

/-- Its URL is seeded in a dialect and the entry is parsed. -/
def seededSheet (dialect : Dialect) : List CacheOperation := [.seed "m:a" "y" dialect none, .parse 0]

/-- Seeded in the importer's dialect, the sheet is handed over as it was parsed. -/
theorem seeded_sheet_made : ∃ imported, ((directly sheetTable).operate .direct (.fetch "a" none)
      ((directly sheetTable).after .direct (seededSheet .scss) sheetStart)).1 = .sheet (.ok imported) ∧
    ∃ made, (directly sheetTable).parsesSince .direct imported.url
        (seededSheet .scss ++ [.fetch "a" none]) sheetStart [] = [made] ∧
      made.url = imported.url ∧ made.sheet = imported.sheet ∧ made.dialect = imported.dialect := by
  have handed : (((directly sheetTable).operate .direct (.fetch "a" none) ((directly sheetTable).after
      .direct (seededSheet .scss) sheetStart)).1.imported?.map Imported.url) = some "m:a" := by
    decide +kernel
  obtain ⟨imported, found, url⟩ := Option.map_eq_some_iff.mp handed
  have reply := Reply.eq_of_imported? found
  have one : (directly sheetTable).OneDialect .direct "m:a"
      (seededSheet .scss ++ [.fetch "a" none]) sheetStart := by
    unfold Collaborators.OneDialect
    decide +kernel
  obtain ⟨made, single, same, sheet, dialect⟩ := handed_over_made (directly sheetTable) .direct
    (Session.blank (K := kit) ({} : Notes)) [] (.custom ⟨"m", "Imp(m)"⟩) false (seededSheet .scss)
    (.fetch "a" none) imported reply
  exact ⟨imported, reply, made, single, same, sheet, dialect (url ▸ one)⟩

/-- Seeded in another one, it was parsed as `.sass` and is handed over as `.scss`. -/
theorem seeded_sheet_misreported :
    ∃ imported, ((directly sheetTable).operate .direct (.fetch "a" none)
      ((directly sheetTable).after .direct (seededSheet .sass) sheetStart)).1 = .sheet (.ok imported) ∧
    ∃ made, (directly sheetTable).parsesSince .direct imported.url
        (seededSheet .sass ++ [.fetch "a" none]) sheetStart [] = [made] ∧
      imported.dialect = .scss ∧ made.dialect = .sass := by
  have handed : (((directly sheetTable).operate .direct (.fetch "a" none) ((directly sheetTable).after
      .direct (seededSheet .sass) sheetStart)).1.imported?.map fun i => (i.url, i.dialect)) =
        some ("m:a", .scss) := by decide +kernel
  obtain ⟨imported, found, reported⟩ := Option.map_eq_some_iff.mp handed
  obtain ⟨url, dialect⟩ := Prod.mk.inj reported
  have parsed : ((directly sheetTable).parsesSince .direct "m:a"
      (seededSheet .sass ++ [.fetch "a" none]) sheetStart []).map Parse.dialect = [.sass] := by
    decide +kernel
  rw [← url] at parsed
  obtain ⟨made, single, sass⟩ := List.map_eq_singleton_iff.mp parsed
  exact ⟨imported, Reply.eq_of_imported? found, made, single, dialect, sass⟩

end Lines

end StyleBuild
