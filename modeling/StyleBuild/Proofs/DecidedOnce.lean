import StyleBuild.Lines.Toolchain
import StyleBuild.Proofs.Histories

/-!
# A key is decided once

Importers may answer differently each time they are asked. Once a call for a key has come to a stylesheet,
to the end of all resolvers or to an ambiguity, each later call for the key comes to the same and asks no
importer. Beside this stands what holds of the tables of a cache along every history: all that is stored
belongs to loaded URLs, these are listed in the order of their first loads, and between two seeds of a URL
the parser succeeds on it once at most.
-/

set_option autoImplicit false

namespace StyleBuild

variable {K : Kit}

/-! ## How a call ends -/

theorem Verdict.eq_of_outcome {v v' : Verdict} {reference : String} {base : Option String}
    (genuine : v.Genuine) (genuine' : v'.Genuine)
    (same : v.outcome reference base = v'.outcome reference base) : v = v' := by
  have missing : ∀ {f : Failure}, (Verdict.ambiguous f).Genuine → Failure.notFound reference base ≠ f := by
    intro f several same
    have none_there := several f rfl
    rw [← same] at none_there
    cases none_there
  cases v with
  | found l =>
    cases v' with
    | found l' => rw [Except.ok.inj same]
    | missing => cases same
    | ambiguous f => cases same
  | missing =>
    cases v' with
    | found l => cases same
    | missing => rfl
    | ambiguous f => exact absurd (Fault.failure.inj (Except.error.inj same)) (missing genuine')
  | ambiguous f =>
    cases v' with
    | found l => cases same
    | missing => exact absurd (Fault.failure.inj (Except.error.inj same)).symm (missing genuine)
    | ambiguous f' => rw [Fault.failure.inj (Except.error.inj same)]

/-- How a call for a key ends, as its caller sees it. A fault that says that nothing was found counts only
if all importers have declined. -/
structure Collaborators.EndsIn (c : Collaborators K) (mode : Mode) (reference : String)
    (base : Option String) (k : Caller K) (v : Verdict) : Prop where
  outcome : c.resolution mode reference base k = v.outcome reference base
  exhausted : v = .missing →
    ∀ x ∈ c.exchanges mode (Import.resolve reference base) k.session, x.declines = true
  genuine : v.Genuine

namespace Cache

variable {cache : Cache K} {reference : String} {base : Option String}
variable {answer : Except Fault (Option (Resolver × Source))}

theorem conclude_other {key : Key} (other : (base, reference) ≠ key) :
    Table.get? key (cache.conclude reference base answer).2.verdicts =
      Table.get? key cache.verdicts := by
  rcases answer with f | _ | ⟨r, source⟩
  · simp only [conclude]
    split
    · exact Table.get?_set_of_ne other _ _
    · rfl
  · exact Table.get?_set_of_ne other _ _
  · exact Table.get?_set_of_ne other _ _

/-- A conclusion stores its outcome, unless it is a fault that is no ambiguity. -/
theorem verdict_of_conclusion :
    (∃ v, Table.get? (base, reference) (cache.conclude reference base answer).2.verdicts = some v ∧
      v.outcome reference base = (cache.conclude reference base answer).1 ∧ v.Genuine) ∨
    ∃ f, answer = .error f ∧ f.ambiguity? = none := by
  rcases answer with f | _ | ⟨r, source⟩
  · cases several : f.ambiguity? with
    | none => exact .inr ⟨f, rfl, several⟩
    | some g =>
      obtain rfl := Fault.eq_of_ambiguity? several
      refine .inl ⟨.ambiguous g, ?_, rfl, Verdict.genuine_ambiguous several⟩
      simp only [conclude, several]
      exact Table.get?_set_self _ _ _
  · exact .inl ⟨.missing, Table.get?_set_self _ _ _, rfl, Verdict.genuine_missing⟩
  · exact .inl ⟨_, Table.get?_set_self _ _ _, rfl, Verdict.genuine_found _⟩

end Cache

namespace Collaborators

variable {c : Collaborators K} {mode : Mode} {k : Caller K} {op : CacheOperation}
variable {reference : String} {base : Option String} {v : Verdict}

theorem stored_of_endsIn (accounted : k.Accounted) (keyed : op.key? = some (base, reference))
    (ends : c.EndsIn mode reference base k v) :
    Table.get? (base, reference) (c.operate mode op k).2.cache.verdicts = some v := by
  cases entry_of_operate c mode op k with
  | seeded url contents dialect importer cache handed => cases keyed
  | parsed nth sheets cache handed => cases keyed
  | repeated reference' base' v' keyed' stored sheets cache handed =>
    obtain ⟨rfl, rfl⟩ := Prod.mk.inj (Option.some.inj (keyed.symm.trans keyed'))
    have genuine := accounted.genuine _ v' stored
    have outcome := (resolution_of_stored stored).symm.trans ends.outcome
    rw [cache, ← Verdict.eq_of_outcome genuine ends.genuine outcome]
    exact stored
  | decided reference' base' keyed' new sheets cache handed =>
    obtain ⟨rfl, rfl⟩ := Prod.mk.inj (Option.some.inj (keyed.symm.trans keyed'))
    have outcome := (resolution_of_new new).symm.trans ends.outcome
    rw [cache]
    rcases Cache.verdict_of_conclusion with ⟨v', stored, same, genuine⟩ | ⟨f, failed, plain⟩
    · rw [← Verdict.eq_of_outcome genuine ends.genuine (same.trans outcome)]
      exact stored
    · -- no verdict is stored, so the call cannot have ended in one
      exfalso
      rw [failed] at outcome
      cases v with
      | found l => cases outcome
      | ambiguous g =>
        obtain rfl : f = .failure g := Except.error.inj outcome
        cases plain.symm.trans (ends.genuine g rfl)
      | missing =>
        -- an importer may raise the same fault, but then it has not declined
        obtain rfl : f = .failure (Failure.notFound reference base) := Except.error.inj outcome
        have declined := ends.exhausted rfl
        rw [(Import.exec_resolve_new c mode new).2] at declined
        rcases (Import.asked_cascade c mode reference base k.session).blamed _ failed with
          ⟨x, there, kept⟩ | ⟨v, misfit⟩
        · rw [declined x there] at kept
          cases kept
        · cases misfit

/-! ## Verdicts stay -/

theorem stored_operate (c : Collaborators K) (mode : Mode) (op : CacheOperation) {key : Key}
    (stored : Table.get? key k.cache.verdicts = some v) :
    Table.get? key (c.operate mode op k).2.cache.verdicts = some v := by
  rcases verdicts_of_operate c mode op k with same | ⟨reference, base, new, concluded⟩
  · rw [same]
    exact stored
  · have other : (base, reference) ≠ key := by
      rintro rfl
      cases new.symm.trans stored
    rw [concluded, Cache.conclude_other other]
    exact stored

theorem stored_after (c : Collaborators K) (mode : Mode) (ops : List CacheOperation) {key : Key}
    (stored : Table.get? key k.cache.verdicts = some v) :
    Table.get? key (c.after mode ops k).cache.verdicts = some v :=
  after_induction (P := fun k => Table.get? key k.cache.verdicts = some v)
    (fun op _ stored => stored_operate c mode op stored) ops stored

theorem asks_none_of_stored (keyed : op.key? = some (base, reference))
    (stored : Table.get? (base, reference) k.cache.verdicts = some v) :
    ∀ x ∈ c.exchangesOf mode op k, x.asksImporter = false := by
  obtain ⟨executed, exchanged⟩ := Import.exec_resolve_stored c mode stored
  cases op with
  | seed url contents dialect importer => cases keyed
  | parse nth => cases keyed
  | resolve reference' base' =>
    cases keyed
    rw [exchangesOf, exchanged]
    intro x there
    cases there
  | fetch reference' base' =>
    cases keyed
    rw [exchangesOf]
    cases found : v.outcome reference base with
    | error f =>
      rw [found] at executed
      rw [(Import.fetch_of_fault executed).2, exchanged]
      intro x there
      cases there
    | ok l =>
      rw [found] at executed
      rw [(Import.fetch_of_found executed).2, exchanged, List.nil_append]
      have reading := Import.read_parse c mode l k.session
      intro x there
      generalize c.exchanges mode (Import.parse l) k.session = xs at reading there
      generalize (Import.parse l).exec (c.settled mode) k.session = ran at reading
      cases reading with
      | kept sheet stored => cases there
      | made sheet w new => rw [List.mem_singleton.mp there]; rfl
      | failed f w new => rw [List.mem_singleton.mp there]; rfl

end Collaborators

/-- A call for a key that has ended in a verdict decides it for all later calls: none of them asks an
importer, and each resolution has the verdict's outcome. What is stored is accounted for, URLs stand in
the order of their first loads, and at most one parse of a URL succeeds after each seed of it. -/
theorem decided_once (c : Collaborators K) (mode : Mode) (s : Session K) (resolvers : List Resolver)
    (entry : Importer) (awaits : Bool) :
    let start : Caller K := .start s resolvers entry awaits
    (∀ (before between : List CacheOperation) (call later : CacheOperation) (reference : String)
        (base : Option String) (v : Verdict),
      call.key? = some (base, reference) → later.key? = some (base, reference) →
      c.EndsIn mode reference base (c.after mode before start) v →
      let k := c.after mode (before ++ call :: between) start
      (∀ x ∈ c.exchangesOf mode later k, x.asksImporter = false) ∧
        c.resolution mode reference base k = v.outcome reference base) ∧
    (∀ ops, (c.after mode ops start).Accounted ∧
      (c.after mode ops start).cache.loadedUrls =
        ((c.loads mode ops start).map Load.url).eraseDups) ∧
    ∀ url ops, (c.parsesSince mode url ops start []).length ≤ 1 := by
  intro start
  have new : start.Accounted := Caller.accounted_start s resolvers entry awaits
  have accounted (ops : List CacheOperation) := c.accounted_after mode ops new
  refine ⟨?_, fun ops => ⟨accounted ops, ?_⟩, ?_⟩
  · intro before between call later reference base v called again ends k
    have stored := c.stored_after mode between
      (Collaborators.stored_of_endsIn (accounted before) called ends)
    have led : k = c.after mode between (c.operate mode call (c.after mode before start)).2 :=
      c.after_append mode before (call :: between) start
    rw [led]
    exact ⟨Collaborators.asks_none_of_stored again stored, Collaborators.resolution_of_stored stored⟩
  · exact c.loadedUrls_after mode ops new List.eraseDups_nil.symm
  · intro url ops
    have unread : ([] : List (Parse K)).map Parse.sheet =
        (Table.get? url start.cache.parsed).toList := rfl
    have counted := congrArg List.length (c.sheets_parsesSince mode url ops unread)
    rw [List.length_map] at counted
    rw [counted]
    exact Option.length_toList_le

namespace Lines

/-- Importers whose first answer is another one than all later ones. -/
def fickle : Collaborators kit :=
  (toolchain {}).collaborators fun handle reference base w =>
    let notes : Notes := w.own
    (.value (.source { url := if notes.calls.isEmpty then "n:first" else "n:later", contents := "" }),
      { w with own := { notes with calls := notes.calls ++ [(handle.id, reference, base)] } })

def fickleStart : Caller kit :=
  .start (Session.blank (K := kit) ({} : Notes)) [] (.custom ⟨"f", "Imp(f)"⟩) false

/-- The first reference stays with the first answer, whatever comes between. -/
theorem fickle_decided_once : ∃ l, l.source.url = "n:first" ∧
    fickle.EndsIn .direct "a" none fickleStart (.found l) ∧
    (∀ x ∈ fickle.exchangesOf .direct (.fetch "a" none) (fickle.after .direct
      [.resolve "a" none, .fetch "b" none, .seed "n:first" "" .sass none] fickleStart),
      x.asksImporter = false) ∧
    fickle.resolution .direct "a" none (fickle.after .direct
      [.resolve "a" none, .fetch "b" none, .seed "n:first" "" .sass none] fickleStart) = .ok l := by
  have first : (fickle.resolution .direct "a" none fickleStart).toOption.map (·.source.url) =
      some "n:first" := by decide +kernel
  rcases resolved : fickle.resolution .direct "a" none fickleStart with f | l
  · rw [resolved] at first
    cases first
  · rw [resolved] at first
    have ends : fickle.EndsIn .direct "a" none fickleStart (.found l) :=
      ⟨resolved, nofun, Verdict.genuine_found l⟩
    exact ⟨l, Option.some.inj first, ends,
      (decided_once fickle .direct (Session.blank (K := kit) ({} : Notes)) []
        (.custom ⟨"f", "Imp(f)"⟩) false).1 [] [.fetch "b" none, .seed "n:first" "" .sass none]
        (.resolve "a" none) (.fetch "a" none) "a" none (.found l) rfl rfl ends⟩

end Lines

end StyleBuild
