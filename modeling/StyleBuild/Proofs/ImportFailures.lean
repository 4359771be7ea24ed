import StyleBuild.Proofs.Course
import StyleBuild.Proofs.DecidedOnce

/-!
# Failures of imports

Nothing found, or several candidates: these failures are raised once for a key and repeated from its
verdict, in later imports and in later runs. A run tags one that concerns its entry with the stage that
looks for it, on a copy. So whatever runs share a cache, a failure belongs to the stage of the run that it
ends, it is otherwise the one of its key, and the cache keeps every ambiguity as an importer has raised it.
-/

set_option autoImplicit false

namespace StyleBuild

variable {K : Kit} {α β : Type}

def Failure.isImport (g : Failure) : Bool :=
  match g.kind with
  | .notFound _ _ | .ambiguous _ _ _ => true
  | _ => false

def Fault.isImport : Fault → Bool
  | failure g => g.isImport
  | _ => false

theorem Fault.isImport_of_ambiguity? {g : Failure} (several : (Fault.failure g).ambiguity? = some g) :
    g.isImport = true := by
  obtain ⟨kind, report, cause⟩ := g
  cases kind with
  | ambiguous reference candidates base => rfl
  | _ => cases several

theorem Fault.eq_of_leaving {routine : String} {f : Fault} {g : Failure}
    (left : f.leaving routine = .failure g) : f = .failure g := by
  unfold leaving at left
  split at left
  · split at left
    · cases left
    · exact left
  · exact left

/-- An outcome that is a failure of an import only with some property. -/
def Only (P : Failure → Prop) (r : Except Fault α) : Prop :=
  ∀ g, r = .error (.failure g) → g.isImport = true → P g

namespace Only

variable {P : Failure → Prop}

theorem ok (a : α) : Only P (.ok a : Except Fault α) := by
  intro g failed
  cases failed

theorem other {f : Fault} (other : f.isImport = false) : Only P (.error f : Except Fault α) := by
  rintro g ⟨⟩ isImport
  cases other.symm.trans isImport

theorem error {g : Failure} (holds : P g) : Only P (.error (.failure g) : Except Fault α) := by
  rintro _ ⟨⟩ _
  exact holds

theorem mono {Q : Failure → Prop} {r : Except Fault α} (only : Only P r) (weaker : ∀ g, P g → Q g) :
    Only Q r :=
  fun g failed isImport => weaker g (only g failed isImport)

/-- A fault of one outcome is as good as that of another. -/
theorem cast {f : Fault} (only : Only P (.error f : Except Fault α)) :
    Only P (.error f : Except Fault β) := by
  rintro g ⟨⟩ isImport
  exact only g rfl isImport

theorem bind {r : Except Fault α} {f : α → Except Fault β} (first : Only P r)
    (next : ∀ a, Only P (f a)) : Only P (r >>= f) := by
  cases r with
  | error e => exact first.cast
  | ok a => exact next a

theorem map {r : Except Fault α} (f : α → β) (only : Only P r) : Only P (r.map f) := by
  cases r with
  | error e => exact only.cast
  | ok a => exact .ok _

theorem mapM {f : α → Except Fault β} (only : ∀ a, Only P (f a)) (as : List α) :
    Only P (as.mapM f) := by
  induction as with
  | nil => exact .ok _
  | cons a rest ih =>
    rw [List.mapM_cons]
    exact (only a).bind fun b => ih.bind fun bs => .ok _

theorem leaving {r : Except Fault α} (only : Only P r) (routine : String) :
    Only P (r.mapError (Fault.leaving routine)) := by
  intro g failed isImport
  cases r with
  | ok a => cases failed
  | error f =>
    obtain rfl := Fault.eq_of_leaving (Except.error.inj failed)
    exact only g rfl isImport

end Only

/-! ## What the library's importers raise -/

variable {P : Failure → Prop}

theorem FileTree.only_pathToUrl (t : FileTree) (p : Path) : Only P (t.pathToUrl p) := by
  unfold pathToUrl
  split
  · exact .ok _
  · exact .other rfl

theorem FileTree.only_urlToPath (url : String) : Only P (urlToPath url) := by
  unfold urlToPath
  split
  · exact .other rfl
  · split
    · exact .ok _
    · exact .other rfl

namespace Lookup

variable {files : FileTree}

theorem only_probe (p : Path) : Only P (probe files p) := by
  unfold probe
  cases files.probe p with
  | error o => exact .other rfl
  | ok e => exact .ok _

theorem only_existing (ps : List Path) : Only P (existing files ps) := by
  induction ps with
  | nil => exact .ok _
  | cons p rest ih => exact ((only_probe p).map _).bind fun here => ih.bind fun found => .ok _

theorem only_tryPath (p : Path) : Only P (tryPath files p) := by
  unfold tryPath
  split
  · exact only_existing _
  · split
    · exact .other rfl
    · refine (only_existing _).bind fun found => ?_
      split
      · exact only_existing _
      · exact .ok _

/-- Several files for one path are the only failure of an import that a lookup raises. -/
theorem only_chosen (files : FileTree) (reference : String) (base : Option String)
    (found : List Path) :
    Only (fun g => ∃ urls, g = Failure.ambiguous reference urls base)
      (match found with
      | [] => pure none
      | [q] => pure (some q)
      | several => do
        let urls ← several.mapM files.pathToUrl
        .error (.failure (Failure.ambiguous reference urls base)) : Except Fault (Option Path)) := by
  split
  · exact .ok _
  · exact .ok _
  · refine (Only.mapM files.only_pathToUrl _).bind fun urls => ?_
    exact .error ⟨urls, rfl⟩

theorem only_file (files : FileTree) (p : Path) (reference : String) (base : Option String) :
    Only (fun g => ∃ urls, g = Failure.ambiguous reference urls base)
      (file files p reference base) := by
  refine (only_tryPath p).bind fun found => ?_
  split
  · refine ((only_probe p).map _).bind fun here => ?_
    split
    · exact (only_tryPath _).bind (only_chosen files reference base)
    · exact only_chosen files reference base found
  · exact only_chosen files reference base found

theorem only_target (root : Path) (reference : String) (base : Option String) :
    Only P (target root reference base) := by
  unfold target
  split
  · exact .other rfl
  · split
    · exact (FileTree.only_urlToPath reference).map _
    · split
      · exact .ok _
      · dsimp only
        split
        · split
          · exact .ok _
          · split
            · exact (FileTree.only_urlToPath _).bind fun _ => .ok _
            · exact .ok _
        · exact .ok _

theorem only_load (q : Path) (announce : String → List Event) : Only P (load files q announce).1 := by
  have read : Only P (files.readText q) := by
    unfold FileTree.readText
    split
    · split
      · exact .ok _
      · exact .other rfl
    · exact .other rfl
    · exact .other rfl
  unfold load
  have located := files.only_pathToUrl (P := P) q
  generalize files.pathToUrl q = url at located
  cases url with
  | error f => exact located.cast
  | ok url =>
    refine read.bind fun contents => ?_
    split
    · exact .ok _
    · exact .other rfl

theorem only_answer {p : Except Fault (Option Path)} {reference : String} {base : Option String}
    (named : Only (fun g => ∃ urls, g = Failure.ambiguous reference urls base) p)
    (announce : String → List Event) :
    Only (fun g => ∃ urls, g = Failure.ambiguous reference urls base)
      (answer files p reference base announce).1 := by
  unfold answer
  cases p with
  | error f => exact named.cast
  | ok p =>
    cases p with
    | none => exact .ok _
    | some p =>
      have found := only_file files p reference base
      dsimp only
      generalize file files p reference base = q at found ⊢
      cases q with
      | error f => exact found.cast
      | ok q =>
        cases q with
        | none => exact .ok _
        | some q => exact (only_load q announce).map _

end Lookup

theorem Packages.only_answer (files : FileTree) {directory : Directories}
    (named : ∀ name P, Only P (directory name)) (reference : String) (base : Option String) :
    Only (fun g => ∃ urls, g = Failure.ambiguous reference urls base)
      (answer files directory reference base).1 := by
  unfold answer
  split
  · exact .other rfl
  · split
    · dsimp only
      split
      · next f failed =>
        refine Only.cast (α := Option Path) ?_
        rw [← failed]
        exact named _ _
      · exact .ok _
      · exact Lookup.only_answer (.ok _) _
    · split
      · split
        · exact Lookup.only_answer ((FileTree.only_urlToPath _).bind fun _ => .ok _) _
        · exact .ok _
      · exact .ok _

theorem Packages.only_directoriesIn (config : Value) (name : String) (P : Failure → Prop) :
    Only P (directoriesIn config name) := by
  unfold directoriesIn
  split
  · split
    · exact .ok _
    · exact .ok _
    · exact .other rfl
  · exact .other rfl

/-! ## Collaborators that raise no failures of imports on their own account -/

/-- Some world makes an action of a collaborator end in a fault, now or later. -/
def Answer.Raises {ρ : Type} (act : World K → Answer (World K) Fault ρ × World K) (f : Fault) : Prop :=
  ∃ w, (awaited (act w)).1 = .error f

/-- An ambiguity as it is raised by default. -/
def Failure.Plain (g : Failure) : Prop :=
  (Fault.failure g).ambiguity? = some g ∧ g.report.stage = .evaluate

/-- Importers that raise no failure of an import but plain ambiguities. -/
def Importers.Plain (importers : Importers K) : Prop :=
  ∀ handle reference base g, Answer.Raises (importers handle reference base) (.failure g) →
    g.isImport = true → g.Plain

/-- An evaluator that fails with a failure of an import only if it was given this one. -/
def Script.Honest (given : Failure → Prop) : Script K → Prop
  | finish _ => True
  | fail f => Only given (.error f : Except Fault Unit)
  | load _ _ next => (∀ imported, (next (.ok imported)).Honest given) ∧
    ∀ f, (next (.error f)).Honest fun g => given g ∨ f = .failure g
  | warn _ _ _ _ next => next.Honest given
  | debug _ _ next => next.Honest given
  | isDependency _ next => ∀ answer, (next answer).Honest given

/-- A toolchain with some functions raises no failure of an import on its own account. -/
structure Toolchain.Fair (t : Toolchain K) (functions : List (String × Function)) : Prop where
  parse : ∀ contents dialect url f, Answer.Raises (t.parse contents dialect url) f → f.isImport = false
  evaluate : ∀ sheet, (t.evaluate sheet functions).Honest fun _ => False
  render : ∀ tree style f, Answer.Raises (t.render tree style) f → f.isImport = false
  build : ∀ tree style w css f,
    (Answer.awaited (t.render tree style w)).1 = .ok (css, some (.error f)) → f.isImport = false

/-- A job whose toolchain, given or looked for, and whose importers keep to this. -/
structure Job.Fair (job : Job K) (importers : Importers K) : Prop where
  equipped : job.Equipped
  importers : importers.Plain
  toolchain : ∀ t, job.toolchain.1 = .ok t → t.Fair job.request.functions

/-- An importer has raised a failure when it was asked for a reference. -/
def Importers.Raised (importers : Importers K) (reference : String) (g : Failure) : Prop :=
  ∃ (c : Collaborators K) (mode : Mode) (i : Importer) (base : Option String) (s : Session K),
    c.importer = importers ∧ (c.settled mode (.resolve i reference base) s).1 = .error (.failure g)

theorem Collaborators.refused_or_awaited {c : Collaborators K} {mode : Mode} {call : ImportCall}
    {s : Session K} {f : Fault} (failed : (c.settled mode call s).1 = .error f) :
    (Answer.refused (call.refuse c.parseMethod) (c.importHost call s)).1 = .error f ∨
      (Answer.awaited (c.importHost call s)).1 = .error f := by
  cases mode with
  | direct => exact .inl failed
  | awaiting => exact .inr failed

/-- A call that is refused or awaited fails only as the action does, or as it is refused. -/
theorem Answer.raises_of_settled {ρ : Type} {act : World K → Answer (World K) Fault ρ × World K}
    {s : Session K} {e f : Fault}
    (failed : (refused e (onSession s (act s.world))).1 = .error f ∨
      (awaited (onSession s (act s.world))).1 = .error f) : f = e ∨ Raises act f := by
  rw [refused_onSession, awaited_onSession] at failed
  rcases failed with refused | awaited
  · generalize answered : act s.world = answer at refused
    rcases answer with ⟨r | raised | wait, w⟩
    · cases refused
    · refine .inr ⟨s.world, ?_⟩
      rw [answered]
      exact refused
    · exact .inl (Except.error.inj refused).symm
  · exact .inr ⟨s.world, awaited⟩

theorem Only.of_ambiguous {reference : String} {base : Option String} {r : Except Fault α}
    (only : Only (fun g => ∃ urls, g = Failure.ambiguous reference urls base) r) :
    Only Failure.Plain r := by
  refine only.mono ?_
  rintro g ⟨urls, rfl⟩
  exact ⟨rfl, rfl⟩

/-- The library's importers and plain ones raise plain ambiguities. -/
theorem Importers.Plain.of_raised {importers : Importers K} (plain : importers.Plain)
    {reference : String} {g : Failure} (raised : importers.Raised reference g)
    (isImport : g.isImport = true) : g.Plain := by
  obtain ⟨c, mode, i, base, s, rfl, failed⟩ := raised
  have library {o : Lookup.Outcome} {refusal : Fault} (only : Only Failure.Plain o.1)
      (failed : (Answer.refused refusal (Collaborators.library s o)).1 = .error (.failure g) ∨
        (Answer.awaited (Collaborators.library s o)).1 = .error (.failure g)) : g.Plain := by
    unfold Collaborators.library at failed
    rw [Answer.refused_ofExcept, Answer.awaited_ofExcept, or_self] at failed
    exact only.map Offer.ofSource? g failed isImport
  have settled := Collaborators.refused_or_awaited failed
  cases i with
  | directory root => exact library (Lookup.only_answer (Lookup.only_target _ _ _) _).of_ambiguous settled
  | packages config =>
    exact library (Packages.only_answer _ (fun _ _ => .ok _) _ _).of_ambiguous settled
  | unchecked config =>
    exact library (Packages.only_answer _ (Packages.only_directoriesIn config) _ _).of_ambiguous settled
  | custom handle =>
    obtain refused | raised := Answer.raises_of_settled settled
    · cases refused
    · exact plain handle reference base g raised isImport
  | misfit v =>
    rcases settled with refused | awaited
    · cases refused
    · cases awaited

/-! ## What is blamed on a verdict -/

variable {importers : Importers K}

namespace Cache

/-- A failure is what a call for some key comes to by its verdict. -/
def Blames (cache : Cache K) (g : Failure) : Prop :=
  ∃ reference base v, Table.get? (base, reference) cache.verdicts = some v ∧
    v.outcome reference base = .error (.failure g)

/-- Every ambiguity in the cache is there as an importer has raised it. -/
def Vouched (importers : Importers K) (cache : Cache K) : Prop :=
  ∀ key g, Table.get? key cache.verdicts = some (.ambiguous g) →
    importers.Raised key.2 g ∧ g.isImport = true

/-- No verdict is changed, and ambiguities are added only as they are raised. -/
structure Keeps (importers : Importers K) (before after : Cache K) : Prop where
  stored : ∀ key v, Table.get? key before.verdicts = some v → Table.get? key after.verdicts = some v
  vouched : before.Vouched importers → after.Vouched importers

theorem Keeps.of_eq {before after : Cache K} (same : after.verdicts = before.verdicts) :
    Keeps importers before after := by
  constructor
  · intro key v stored
    rw [same]
    exact stored
  · intro vouched key g stored
    rw [same] at stored
    exact vouched key g stored

theorem Keeps.trans {a b c : Cache K} (first : Keeps importers a b) (second : Keeps importers b c) :
    Keeps importers a c :=
  ⟨fun key v stored => second.stored key v (first.stored key v stored),
    fun vouched => second.vouched (first.vouched vouched)⟩

theorem Blames.keep {before after : Cache K} {g : Failure} (blames : before.Blames g)
    (keeps : Keeps importers before after) : after.Blames g := by
  obtain ⟨reference, base, v, stored, outcome⟩ := blames
  exact ⟨reference, base, v, keeps.stored _ _ stored, outcome⟩

end Cache

/-- Steps that keep the verdicts, and end in a failure of an import only if it is blamed on one. -/
structure Accounted (importers : Importers K) (before : Cache K) (r : Except Fault α)
    (after : Cache K) : Prop where
  keeps : before.Keeps importers after
  blamed : Only after.Blames r

namespace Accounted

variable {before middle after : Cache K}

theorem andThen (keeps : before.Keeps importers middle) {r : Except Fault α}
    (next : Accounted importers middle r after) : Accounted importers before r after :=
  ⟨keeps.trans next.keeps, next.blamed⟩

theorem cast {f : Fault} (accounted : Accounted importers before (.error f : Except Fault α) after) :
    Accounted importers before (.error f : Except Fault β) after :=
  ⟨accounted.keeps, accounted.blamed.cast⟩

end Accounted

namespace Import

variable {c : Collaborators K} {mode : Mode} {reference : String} {base : Option String}
variable {s : Session K}

theorem raised_of_firstAnswer (own : c.importer = importers) {rs : List Resolver} {g : Failure}
    (failed : ((firstAnswer reference base rs).exec (c.settled mode) s).1 = .error (.failure g))
    (isImport : g.isImport = true) : importers.Raised reference g := by
  induction rs generalizing s with
  | nil => cases failed
  | cons r rest ih =>
    rcases ran : (ask r reference base).exec (c.settled mode) s with ⟨outcome, t⟩
    rw [(Prod.mk.inj (firstAnswer_cons ran rest)).1] at failed
    rcases outcome with f | offer
    · -- Only what the importer has raised itself is a failure of an import.
      by_cases misfit : ∃ v, r.importer = .misfit v
      · obtain ⟨v, none_there⟩ := misfit
        rw [ask_misfit none_there] at ran
        cases ran
        cases failed
      · rw [ask_importer fun v there => misfit ⟨v, there⟩] at ran
        have raised : (c.settled mode (.resolve r.importer reference (baseFor r base)) s).1 = .error f :=
          congrArg Prod.fst ran
        cases f with
        | failure g' =>
          cases failed
          exact ⟨c, mode, r.importer, baseFor r base, s, own, raised⟩
        | pendingAnswer call =>
          cases failed
          cases isImport
        | _ => cases failed
    · cases offer with
      | declined => exact ih failed
      | source source => cases failed
      | other type =>
        cases failed
        cases isImport

theorem raised_of_answer (own : c.importer = importers) {g : Failure}
    (failed : c.answer mode reference base s = .error (.failure g)) (isImport : g.isImport = true) :
    importers.Raised reference g := by
  rw [Collaborators.answer, Collaborators.drive_eq_exec, cascade, Steps.exec_mapFault] at failed
  rcases ran : (firstAnswer reference base
    ((s.cache.relative? base).toList ++ s.cache.resolvers)).exec (c.settled mode) s with ⟨f | found, t⟩
  · rw [ran] at failed
    obtain rfl := Fault.eq_of_leaving (Except.error.inj failed)
    exact raised_of_firstAnswer own (by rw [ran]) isImport
  · rw [ran] at failed
    cases failed

theorem keeps_conclude (own : c.importer = importers)
    (new : Table.get? (base, reference) s.cache.verdicts = none) :
    s.cache.Keeps importers
      (s.cache.conclude reference base (c.answer mode reference base s)).2 := by
  constructor
  · intro key v stored
    have other : (base, reference) ≠ key := by
      rintro rfl
      cases new.symm.trans stored
    rw [Cache.conclude_other other]
    exact stored
  · intro vouched key g stored
    by_cases same : (base, reference) = key
    · subst same
      obtain before | ⟨outcome, genuine⟩ := Cache.stored_of_conclude stored
      · cases new.symm.trans before
      · -- An ambiguity is not what a resolution concludes from nothing found.
        have several := genuine g rfl
        have isImport := Fault.isImport_of_ambiguity? several
        generalize answered : c.answer mode reference base s = answer at outcome
        rcases answer with f | _ | ⟨r, source⟩
        · obtain rfl : Fault.failure g = f := Except.error.inj outcome
          exact ⟨raised_of_answer own answered isImport, isImport⟩
        · cases outcome
          cases several
        · cases outcome
    · rw [Cache.conclude_other same] at stored
      exact vouched key g stored

theorem accounted_resolve (own : c.importer = importers) (plain : importers.Plain) (mode : Mode)
    (reference : String) (base : Option String) (s : Session K) :
    Accounted importers s.cache ((resolve reference base).exec (c.settled mode) s).1
      ((resolve reference base).exec (c.settled mode) s).2.cache := by
  cases stored : Table.get? (base, reference) s.cache.verdicts with
  | some v =>
    rw [(exec_resolve_stored c mode stored).1]
    exact ⟨.of_eq rfl, fun g failed _ => ⟨reference, base, v, stored, failed⟩⟩
  | none =>
    obtain ⟨w, executed⟩ := (exec_resolve_new c mode stored).1
    rw [executed]
    refine ⟨keeps_conclude own stored, fun g failed isImport => ?_⟩
    obtain ⟨v, settled, outcome, -⟩ | ⟨f, answered, single⟩ :=
      @Cache.verdict_of_conclusion K s.cache reference base (c.answer mode reference base s)
    · exact ⟨reference, base, v, settled, outcome.trans failed⟩
    · rw [answered] at failed
      obtain rfl : f = .failure g := Except.error.inj failed
      have plainly := plain.of_raised (raised_of_answer own answered isImport) isImport
      cases single.symm.trans plainly.1

theorem raised_of_ends_parse {h : Settled (Session K) Fault ImportCall (ImportCall.Reply K)} {l : Loaded}
    {f : Fault} (ended : (parse l).Ends h s f) :
    ∃ raised, f = parseFault l.source.url raised ∧
      (h (.parse l.source.contents l.source.dialect l.source.url) s).1 = .error raised := by
  unfold parse at ended
  obtain ended | ⟨sheet, t, -, ended⟩ := Steps.ends_bind.1 ended
  · unfold sheetOf at ended
    rw [Steps.ends_getThen] at ended
    split at ended
    · exact absurd ended Steps.ends_pure
    · obtain ended | ⟨sheet, t, -, ended⟩ := Steps.ends_bind.1 ended
      · obtain ⟨raised, called, rfl⟩ := Steps.ends_mapFault.1 ended
        exact ⟨raised, rfl, called⟩
      · cases ended
  · exact absurd ended Steps.ends_pure

theorem accounted_parse
    (tame : ∀ contents dialect url f, Answer.Raises (c.parse contents dialect url) f →
      f.isImport = false) (mode : Mode) (l : Loaded) (s : Session K) :
    Accounted importers s.cache ((parse l).exec (c.settled mode) s).1
      ((parse l).exec (c.settled mode) s).2.cache := by
  obtain ⟨sheets, cache⟩ := Collaborators.cache_of_parse c mode l s
  refine ⟨.of_eq (by rw [cache]), fun g failed isImport => ?_⟩
  obtain ⟨raised, same, called⟩ := raised_of_ends_parse failed
  -- A failure is left as it is, and whatever else is raised becomes another one.
  obtain rfl : raised = .failure g := by
    unfold parseFault at same
    split at same
    · exact same.symm
    · cases same
      cases isImport
    · cases same
      cases isImport
  obtain refused | raised := Answer.raises_of_settled (Collaborators.refused_or_awaited called)
  · cases refused
  · cases (tame _ _ _ _ raised).symm.trans isImport

theorem accounted_load (own : c.importer = importers) (plain : importers.Plain)
    (tame : ∀ contents dialect url f, Answer.Raises (c.parse contents dialect url) f →
      f.isImport = false) (mode : Mode) (reference : String) (base : Option String) (s : Session K) :
    Accounted importers s.cache ((load reference base).exec (c.settled mode) s).1
      ((load reference base).exec (c.settled mode) s).2.cache := by
  have fetched : Accounted importers s.cache ((fetch reference base).exec (c.settled mode) s).1
      ((fetch reference base).exec (c.settled mode) s).2.cache := by
    have resolved := accounted_resolve own plain mode reference base s
    rcases ran : (resolve reference base).exec (c.settled mode) s with ⟨f | l, t⟩
    · rw [ran] at resolved
      rw [(fetch_of_fault ran).1]
      exact resolved.cast
    · rw [ran] at resolved
      rw [(fetch_of_found ran).1]
      exact .andThen resolved.keeps (accounted_parse tame mode l t)
  unfold load
  rw [Steps.exec_bind]
  rcases ran : (fetch reference base).exec (c.settled mode) s with ⟨f | imported, t⟩
  · rw [ran] at fetched
    exact fetched.cast
  · rw [ran] at fetched
    refine ⟨fetched.keeps.trans (.of_eq ?_), .ok _⟩
    exact congrArg Cache.verdicts (t.cache_recordLoaded imported.url)

end Import

/-- An honest evaluator keeps the verdicts, and what it is given and passes on is blamed on one. -/
theorem Script.accounted {c : Collaborators K} (own : c.importer = importers)
    (plain : importers.Plain)
    (tame : ∀ contents dialect url f, Answer.Raises (c.parse contents dialect url) f →
      f.isImport = false) (mode : Mode) {given : Failure → Prop} {script : Script K}
    (honest : script.Honest given) {s : Session K}
    (known : ∀ g, given g → g.isImport = true → s.cache.Blames g) :
    Accounted importers s.cache (script.run c mode s).1 (script.run c mode s).2.cache := by
  induction script generalizing given s with
  | finish tree => exact ⟨.of_eq rfl, .ok _⟩
  | fail f =>
    refine ⟨.of_eq rfl, fun g failed isImport => ?_⟩
    cases failed
    exact known g (honest g rfl isImport) isImport
  | load reference base next ih =>
    have loaded := Import.accounted_load own plain tame mode reference base s
    rw [← Collaborators.drive_eq_exec] at loaded
    rcases ran : c.drive mode (Import.load reference base) s with ⟨outcome, t⟩
    rw [ran] at loaded
    simp only [run, ran]
    refine .andThen loaded.keeps ?_
    cases outcome with
    | ok imported =>
      exact ih _ (honest.1 imported) fun g heard isImport => (known g heard isImport).keep loaded.keeps
    | error f =>
      refine ih _ (honest.2 f) fun g heard isImport => ?_
      rcases heard with before | rfl
      · exact (known g before isImport).keep loaded.keeps
      · exact loaded.blamed g rfl isImport
  | warn message deprecation span origin next ih =>
    have kept := s.cache_warn message deprecation span origin
    rw [← kept] at known ⊢
    exact ih honest known
  | debug message span next ih =>
    exact ih (s := s.debug message span) honest known
  | isDependency url next ih => exact ih _ (honest _) known

/-- A failure is another one but for its stage. -/
def Failure.Retags (g original : Failure) : Prop :=
  g.kind = original.kind ∧ g.report = { original.report with stage := g.report.stage }

/-- What is blamed on a verdict still has the stage it was raised with. -/
theorem Cache.Blames.stage_eq {cache : Cache K} {g : Failure} (blames : cache.Blames g)
    (vouched : cache.Vouched importers) (plain : importers.Plain) (isImport : g.isImport = true) :
    g.report.stage = .evaluate := by
  obtain ⟨reference, base, v, stored, outcome⟩ := blames
  cases v with
  | found l => cases outcome
  | missing =>
    cases outcome
    rfl
  | ambiguous g' =>
    cases outcome
    exact (plain.of_raised (vouched _ _ stored).1 isImport).2

/-! ## Stage by stage -/

namespace Compile

variable {job : Job K} {t : Toolchain K} {s : Session K}

theorem settled_eq (found : job.toolchain.1 = .ok t) :
    settled job importers = match job.mode with
      | .direct => (host t importers).refusing (CompileCall.refuse t.methods)
      | .awaiting => (host t importers).awaited := by
  have hosted : hostFor job importers = host t importers := by
    simp only [hostFor, found]
  have refused : refusal job = CompileCall.refuse t.methods := by
    simp only [refusal, found]
  rw [← hosted, ← refused]
  rfl

theorem exec_lift_settled (found : job.toolchain.1 = .ok t) (m : ImportSteps K α) (s : Session K) :
    (lift m).exec (settled job importers) s =
      m.exec ((t.collaborators importers).settled job.mode) s := by
  rw [settled_eq found]
  exact exec_lift t importers job.mode m s

theorem accounted_entry (fair : job.Fair importers) (found : job.toolchain.1 = .ok t) (s : Session K) :
    Accounted importers s.cache ((entry job.request).exec (settled job importers) s).1
      ((entry job.request).exec (settled job importers) s).2.cache := by
  have tame := (fair.toolchain t found).parse
  have parsed (l : Loaded) (u : Session K) (same : u.cache.verdicts = s.cache.verdicts) :
      Accounted importers s.cache ((lift (Import.parse l)).exec (settled job importers) u).1
        ((lift (Import.parse l)).exec (settled job importers) u).2.cache := by
    rw [exec_lift_settled found]
    exact .andThen (.of_eq same) (Import.accounted_parse tame job.mode l u)
  unfold entry
  cases job.request.path with
  | some p =>
    simp only [exec_lift_settled found]
    exact Import.accounted_load (c := t.collaborators importers) rfl fair.importers tame job.mode
      p.toText none s
  | none =>
    simp only [Steps.exec_bind, Steps.exec_ofExcept]
    cases dialect : job.request.entryDialect with
    | error f =>
      have foreign := isFailure_entryDialect dialect
      refine ⟨.of_eq rfl, .other ?_⟩
      cases f with
      | failure g => cases foreign
      | _ => rfl
    | ok d =>
      simp only [Steps.exec_get, Steps.exec_modify]
      split
      · simp only [Steps.exec_bind, Steps.exec_modify]
        exact parsed _ _ (by rw [Session.cache_recordLoaded]; rfl)
      · exact parsed _ _ rfl

theorem functions_entry (importers : Importers K) (found : job.toolchain.1 = .ok t) (s : Session K) :
    ((entry job.request).exec (settled job importers) s).2.context.functions = s.context.functions := by
  have frame := (t.collaborators importers).import_frame job.mode
  have kept {m : ImportSteps K (Imported K)} (u : Session K)
      (same : u.context.functions = s.context.functions)
      (moves : m.Moves ((t.collaborators importers).settled job.mode) Import.Touches) :
      ((lift m).exec (settled job importers) u).2.context.functions = s.context.functions := by
    rw [exec_lift_settled found]
    obtain ⟨w, cache, loaded, moved⟩ := moves u
    rw [moved]
    exact same
  unfold entry
  cases job.request.path with
  | some p => exact kept s rfl (frame.closed.load p.toText none)
  | none =>
    simp only [Steps.exec_bind, Steps.exec_ofExcept]
    cases job.request.entryDialect with
    | error f => rfl
    | ok d =>
      simp only [Steps.exec_get, Steps.exec_modify]
      split
      · simp only [Steps.exec_bind, Steps.exec_modify]
        refine kept _ ?_ (frame.closed.parse _)
        unfold Session.recordLoaded
        split
        · rfl
        · rfl
      · exact kept _ rfl (frame.closed.parse _)

theorem accounted_evaluate (fair : job.Fair importers) (found : job.toolchain.1 = .ok t)
    (sheet : K.Sheet) (functions : s.context.functions = job.request.functions) :
    Accounted importers s.cache (settled job importers (.evaluate sheet) s).1
      (settled job importers (.evaluate sheet) s).2.cache := by
  have walked (mode : Mode) : Accounted importers s.cache
      ((t.evaluate sheet s.context.functions).run (t.collaborators importers) mode s).1
      ((t.evaluate sheet s.context.functions).run (t.collaborators importers) mode s).2.cache := by
    have honest := (fair.toolchain t found).evaluate sheet
    rw [← functions] at honest
    exact Script.accounted (c := t.collaborators importers) rfl fair.importers
      (fair.toolchain t found).parse mode honest fun _ given => given.elim
  have later (mode : Mode) : Accounted importers s.cache
      (((t.evaluate sheet s.context.functions).run (t.collaborators importers) mode s).1.mapError
        (Fault.leaving "coroutine"))
      ((t.evaluate sheet s.context.functions).run (t.collaborators importers) mode s).2.cache :=
    ⟨(walked mode).keeps, (walked mode).blamed.leaving _⟩
  have refused : Accounted importers s.cache
      (.error (.pendingAnswer t.methods.evaluate) : Except Fault K.Tree) s.cache :=
    ⟨.of_eq rfl, .other rfl⟩
  rw [settled_eq found]
  cases job.mode with
  | direct =>
    simp only [Host.refusing, host]
    cases t.evaluation with
    | plain =>
      simp only [Answer.refused_ofExcept]
      exact walked .direct
    | awaitable => exact refused
    | disguised => exact refused
  | awaiting =>
    simp only [Host.awaited, host]
    cases t.evaluation with
    | plain =>
      simp only [Answer.awaited_ofExcept]
      exact walked .direct
    | awaitable => exact later .awaiting
    | disguised => exact later .direct

theorem start_outcome {h : Settled (Session K) Fault (CompileCall K) CompileCall.Reply}
    (equipped : job.Equipped) (reused : job.cache = some s.cache) :
    ((start job).exec h s).2.cache = s.cache ∧
      Only (fun _ => False) ((start job).exec h s).1 ∧
      ∀ t, ((start job).exec h s).1 = .ok t → job.toolchain.1 = .ok t ∧
        ((start job).exec h s).2.context.functions = job.request.functions := by
  have supplied (environ : List (String × String)) : cacheFor job environ = .ok s.cache ∨
      ∃ f, cacheFor job environ = .error f ∧ f.isImport = false := by
    unfold cacheFor
    rw [reused]
    dsimp only
    split
    · exact .inr ⟨_, rfl, rfl⟩
    · exact .inl rfl
  unfold start
  simp only [Steps.exec_bind, Steps.exec_modify, Steps.exec_ofExcept]
  cases found : job.toolchain.1 with
  | error f =>
    obtain ⟨name, rfl⟩ := equipped.error_eq found
    exact ⟨rfl, .other rfl, nofun⟩
  | ok t =>
    dsimp only
    split
    · exact ⟨rfl, .other rfl, nofun⟩
    · simp only [Steps.exec_bind, Steps.exec_get, Steps.exec_ofExcept]
      obtain bound | ⟨f, failed, other⟩ := supplied (s.world.emitAll job.toolchain.2).environ
      · rw [bound]
        refine ⟨rfl, .ok _, ?_⟩
        rintro _ ⟨⟩
        exact ⟨rfl, rfl⟩
      · rw [failed]
        exact ⟨rfl, .other other, nofun⟩

/-- What a serializer answers, and what its builder does, is no failure of an import. -/
theorem render_outcome (fair : job.Fair importers) (found : job.toolchain.1 = .ok t) (tree : K.Tree)
    (style : Style) (s : Session K) :
    (settled job importers (.render tree style) s).2.cache = s.cache ∧
      Only (fun _ => False) (settled job importers (.render tree style) s).1 ∧
      ∀ css f, (settled job importers (.render tree style) s).1 = .ok (css, some (.error f)) →
        f.isImport = false := by
  have raised := (fair.toolchain t found).render tree style
  have built := (fair.toolchain t found).build tree style s.world
  have tame {r : Except Fault (String × Builder)}
      (only : ∀ f, r = .error f → f = .pendingAnswer t.methods.render ∨
        Answer.Raises (t.render tree style) f) : Only (fun _ => False) r := by
    intro g failed isImport
    obtain same | raises := only _ failed
    · cases same
    · cases (raised _ raises).symm.trans isImport
  rw [settled_eq found]
  cases job.mode with
  | direct =>
    refine ⟨?_, tame fun f failed => Answer.raises_of_settled (.inl failed), ?_⟩
    · simp only [Host.refusing, host, Answer.refused_onSession]
    · intro css f answered
      refine built css f ?_
      simp only [Host.refusing, host, Answer.refused_onSession] at answered
      generalize t.render tree style s.world = answer at answered ⊢
      rcases answer with ⟨r | raised | wait, w⟩
      · exact answered
      · cases answered
      · cases answered
  | awaiting =>
    refine ⟨?_, tame fun f failed => ?_, ?_⟩
    · simp only [Host.awaited, host, Answer.awaited_onSession]
    · exact Answer.raises_of_settled (e := .pendingAnswer t.methods.render) (.inr failed)
    · intro css f answered
      simp only [Host.awaited, host, Answer.awaited_onSession] at answered
      exact built css f answered

theorem assemble_outcome (fair : job.Fair importers) (found : job.toolchain.1 = .ok t) (tree : K.Tree)
    (s : Session K) :
    ((assemble job.request tree).exec (settled job importers) s).2.cache = s.cache ∧
      Only (fun _ => False) ((assemble job.request tree).exec (settled job importers) s).1 := by
  obtain ⟨kept, only, built⟩ := render_outcome fair found tree job.request.style s
  unfold assemble
  simp only [Steps.exec_bind, Steps.exec_mapFault, Steps.exec_perform]
  generalize settled job importers (.render tree job.request.style) s = answer at kept only built
  rcases answer with ⟨f | ⟨css, builder⟩, u⟩
  · refine ⟨kept, fun g failed isImport => ?_⟩
    -- A failure is left as it is, and whatever else is raised becomes another one.
    obtain rfl : f = .failure g := by
      have same : serializerFault f = .failure g := Except.error.inj failed
      unfold serializerFault at same
      split at same
      · exact same
      · cases same
        cases isImport
    exact only g rfl isImport
  · refine ⟨kept, fun g failed isImport => ?_⟩
    obtain ⟨-, rfl⟩ := result_eq_error.1 failed
    cases (built css _ rfl).symm.trans isImport

theorem retags_of_retag {f : Fault} {g : Failure} (tagged : retag f = .failure g)
    (isImport : g.isImport = true) :
    ∃ original, f = .failure original ∧ original.isImport = true ∧ g.report.stage = .resolveEntry ∧
      g.Retags original := by
  cases f with
  | failure original =>
    obtain ⟨kind, report, cause⟩ := original
    cases kind with
    | notFound reference base =>
      cases tagged
      exact ⟨_, rfl, rfl, rfl, rfl, rfl⟩
    | ambiguous reference candidates base =>
      cases tagged
      exact ⟨_, rfl, rfl, rfl, rfl, rfl⟩
    | _ =>
      cases tagged
      cases isImport
  | _ => cases tagged

theorem eq_of_evaluatorFault {toolchain : String} {f : Fault} {g : Failure}
    (same : evaluatorFault toolchain f = .failure g) (isImport : g.isImport = true) :
    f = .failure g := by
  unfold evaluatorFault at same
  split at same
  · exact same
  · cases same
    cases isImport
  · cases same
    cases isImport

/-- What is known of a fault that ends a stage: verdicts are kept, and a failure of an import occurs in two
stages only, has the one it occurred in and is otherwise blamed on a verdict. -/
def Blamed (importers : Importers K) (before : Cache K) (stage : Stage) (f : Fault) (t : Session K) :
    Prop :=
  before.Keeps importers t.cache ∧
    Only (fun g => (stage = .resolveEntry ∨ stage = .evaluate) ∧ g.report.stage = stage ∧
      ∃ original, t.cache.Blames original ∧ g.Retags original) (.error f : Except Fault Unit)

/-- A job has got its toolchain, the shared cache and its functions. -/
def Started (job : Job K) (cache : Cache K) (t : Toolchain K) (u : Session K) : Prop :=
  job.toolchain.1 = .ok t ∧ u.cache = cache ∧ u.context.functions = job.request.functions

theorem passes_start (fair : job.Fair importers) (reused : job.cache = some s.cache) :
    Passes (label job) (settled job importers) (Blamed importers s.cache) (Started job s.cache)
      [.start] (startStage job) s := by
  let opened := within (label job) .start
    [("mode", job.mode.name), ("entry", job.request.entryLabel)] s
  obtain ⟨same, only, functions⟩ := start_outcome (h := settled job importers) (s := opened)
    fair.equipped reused
  refine passes_inStage (fun s => mute_start fair.equipped s) ?_ ?_
  · intro t u ran
    rw [ran] at same functions
    exact ⟨(functions t rfl).1, same, (functions t rfl).2⟩
  · intro f u ran
    rw [ran] at same only
    exact ⟨.of_eq (congrArg Cache.verdicts same), only.cast.mono fun g impossible => impossible.elim⟩

theorem passes_entry (fair : job.Fair importers) {u : Session K}
    (started : Started job s.cache t u) :
    Passes (label job) (settled job importers) (Blamed importers s.cache)
      (fun _ v => s.cache.Keeps importers v.cache ∧ v.context.functions = job.request.functions)
      [.resolveEntry] (entryStage job) u := by
  obtain ⟨found, same, functions⟩ := started
  have accounted := accounted_entry fair found (within (label job) .resolveEntry [] u)
  have kept := functions_entry importers found (within (label job) .resolveEntry [] u)
  have before : (within (label job) .resolveEntry [] u).cache = s.cache := same
  rw [before] at accounted
  refine passes_inStage (fun s => (mute_entry job.request s).mapFault retag) ?_ ?_
  · intro e v ran
    rw [Steps.exec_mapFault] at ran
    obtain ⟨-, rfl⟩ := Prod.mk.inj ran
    exact ⟨accounted.keeps, kept.trans functions⟩
  · intro f v ran
    rw [Steps.exec_mapFault] at ran
    obtain ⟨outcome, rfl⟩ := Prod.mk.inj ran
    refine ⟨accounted.keeps, fun g failed isImport => ?_⟩
    cases failed
    -- The failure is a copy of the one that the entry's own import has ended in.
    generalize ((entry job.request).exec (settled job importers) _).1 = r at outcome accounted
    cases r with
    | ok e => cases outcome
    | error raised =>
      obtain ⟨original, rfl, isImport', stage, retags⟩ :=
        retags_of_retag (Except.error.inj outcome) isImport
      exact ⟨.inl rfl, stage, original, accounted.blamed original rfl isImport', retags⟩

theorem passes_evaluate (fair : job.Fair importers) (found : job.toolchain.1 = .ok t)
    (vouched : s.cache.Vouched importers) (e : Imported K) {v : Session K}
    (keeps : s.cache.Keeps importers v.cache)
    (functions : v.context.functions = job.request.functions) :
    Passes (label job) (settled job importers) (Blamed importers s.cache)
      (fun _ w => s.cache.Keeps importers w.cache) [.evaluate] (evaluateStage job t e) v := by
  have accounted := Accounted.andThen keeps (accounted_evaluate fair found e.sheet
    (s := within (label job) .evaluate [("url", e.url)] v) functions)
  refine passes_inStage (tells_evaluate t e) ?_ ?_
  · intro tree w ran
    rw [Steps.exec_mapFault, Steps.exec_perform] at ran
    obtain ⟨-, rfl⟩ := Prod.mk.inj ran
    exact accounted.keeps
  · intro f w ran
    rw [Steps.exec_mapFault, Steps.exec_perform] at ran
    obtain ⟨outcome, rfl⟩ := Prod.mk.inj ran
    refine ⟨accounted.keeps, fun g failed isImport => ?_⟩
    cases failed
    -- The evaluator has passed the failure on as it was given.
    generalize (settled job importers (.evaluate e.sheet) _).1 = r at outcome accounted
    cases r with
    | ok tree => cases outcome
    | error raised =>
      obtain rfl := eq_of_evaluatorFault (Except.error.inj outcome) isImport
      have blames := accounted.blamed g rfl isImport
      have stage := blames.stage_eq (accounted.keeps.vouched vouched) fair.importers isImport
      exact ⟨.inr rfl, stage, g, blames, rfl, rfl⟩

theorem passes_assemble (fair : job.Fair importers) (found : job.toolchain.1 = .ok t) (tree : K.Tree)
    {w : Session K} (keeps : s.cache.Keeps importers w.cache) :
    Passes (label job) (settled job importers) (Blamed importers s.cache)
      (fun _ x => s.cache.Keeps importers x.cache) [.assemble] (assembleStage job tree) w := by
  obtain ⟨same, only⟩ := assemble_outcome fair found tree
    (within (label job) .assemble [("style", job.request.style.name)] w)
  refine passes_inStage (fun _ => tells_assemble job.request tree) ?_ ?_
  · intro result x ran
    rw [ran] at same
    exact keeps.trans (.of_eq (congrArg Cache.verdicts same))
  · intro f x ran
    rw [ran] at same only
    exact ⟨keeps.trans (.of_eq (congrArg Cache.verdicts same)),
      only.cast.mono fun g impossible => impossible.elim⟩

theorem passes_blamed (fair : job.Fair importers) (reused : job.cache = some s.cache)
    (vouched : s.cache.Vouched importers) :
    Passes (label job) (settled job importers) (Blamed importers s.cache)
      (fun _ t => s.cache.Keeps importers t.cache) course (stages job (label job)) s := by
  rw [stages_eq]
  refine (passes_start fair reused).bind fun t u started => ?_
  refine (passes_entry fair started).bind ?_
  rintro e v ⟨keeps, functions⟩
  refine (passes_evaluate fair started.1 vouched e keeps functions).bind fun tree w keeps => ?_
  exact passes_assemble fair started.1 tree keeps

/-! ## Runs that share a cache -/

/-- The cache of runs one after another, each in whatever session, by jobs that keep to the rules. -/
inductive Shared (importers : Importers K) : Cache K → Prop where
  | new (resolvers : List Resolver) (entry : Importer) (awaits : Bool) :
    Shared importers { resolvers, entry, awaits }
  | compiled {job : Job K} {s : Session K} (before : Shared importers s.cache)
    (fair : job.Fair importers) (reused : job.cache = some s.cache) :
    Shared importers (run job importers s).2.cache

theorem run_blamed (fair : job.Fair importers) (reused : job.cache = some s.cache)
    (vouched : s.cache.Vouched importers) :
    s.cache.Keeps importers (run job importers s).2.cache ∧
      ∀ g, (run job importers s).1 = .error (.failure g) → g.isImport = true →
        ∃ past last later f, course = past ++ last :: later ∧
          (steps job).story observer (settled job importers) s = past.flatMap (whole (label job))
            ++ opening (label job) last ++ (announcement (label job) f).map .event ∧
          (last = .resolveEntry ∨ last = .evaluate) ∧ g.report.stage = last ∧
          ∃ original, (run job importers s).2.cache.Blames original ∧ g.Retags original := by
  rw [run_eq_exec]
  cases passes_blamed fair reused vouched with
  | through ran told known =>
    obtain ⟨held, suppressed, u, -, -, executed, same⟩ := tells_steps_ok told ran
    rw [executed]
    refine ⟨known.trans (.of_eq (congrArg Cache.verdicts same)), fun g failed => ?_⟩
    cases failed
  | stopped split ran told known =>
    rename_i past later last f t
    have story : (steps job).story observer (settled job importers) s = _ :=
      (tells_steps_error told ran).story_eq
    rw [exec_steps_error ran]
    obtain ⟨keeps, only⟩ := known
    refine ⟨keeps, fun g failed isImport => ?_⟩
    obtain rfl := Fault.eq_of_leaving (Except.error.inj failed)
    obtain ⟨place, stage, original, blames, retags⟩ := only g rfl isImport
    exact ⟨past, last, later, .failure g, split, story, place, stage, original, blames, retags⟩

theorem Shared.vouched {cache : Cache K} (shared : Shared importers cache) : cache.Vouched importers := by
  induction shared with
  | new resolvers entry awaits =>
    intro key g stored
    cases stored
  | compiled before fair reused vouched => exact (run_blamed fair reused vouched).1.vouched vouched

/-- Of the two stages that a failure of an import occurs in, the run has started the second one or not. -/
theorem starts_evaluate {run : RunLabel} {past later : List Stage} {last : Stage}
    (split : course = past ++ last :: later) (place : last = .resolveEntry ∨ last = .evaluate)
    (f : Fault) :
    last = if Mark.event (.stageStart run .evaluate) ∈ past.flatMap (whole run) ++ opening run last
        ++ (announcement run f).map .event then .evaluate else .resolveEntry := by
  have unannounced : Mark.event (.stageStart run .evaluate) ∉ (announcement run f).map .event := by
    cases f with
    | failure g => simp [announcement]
    | _ => simp [announcement]
  obtain ⟨rfl, rfl⟩ | ⟨rfl, rfl⟩ | ⟨rfl, rfl⟩ | ⟨rfl, rfl⟩ := course_split split
  · rcases place with same | same
    · cases same
    · cases same
  · rw [if_neg]
    rw [List.mem_append]
    rintro (there | there)
    · simp [whole, opening, work] at there
    · exact unannounced there
  · rw [if_pos]
    simp [opening]
  · rcases place with same | same
    · cases same
    · cases same

end Compile

theorem Failure.message_eq (g : Failure) :
    ∃ rest, g.message = "[" ++ g.report.stage.name ++ "] " ++ rest := by
  unfold message Report.summary
  cases g.report.span with
  | none => exact ⟨g.report.code ++ ": " ++ g.report.message, by simp only [String.append_assoc]⟩
  | some span =>
    exact ⟨g.report.code ++ ": " ++ g.report.message ++ ("\n  at " ++ span.format),
      by simp only [String.append_assoc]⟩

namespace Compile

variable {job : Job K} {s : Session K}

/-- Among runs that share a cache, a run that ends in a failure of an import tags it with its own stage,
EVALUATE if it has started that one and else RESOLVE_ENTRY, and its text starts with that. Otherwise the
failure is the one of some key's verdict. The run changes no verdict, and every ambiguity in the cache is
there as an importer has raised it. -/
theorem import_failure_staged (shared : Shared importers s.cache) (fair : job.Fair importers)
    (reused : job.cache = some s.cache) :
    (∀ g, (run job importers s).1 = .error (.failure g) → g.isImport = true →
      g.report.stage = (if .event (.stageStart (label job) .evaluate) ∈
          (steps job).story observer (settled job importers) s then .evaluate else .resolveEntry) ∧
        (∃ rest, g.message = "[" ++ g.report.stage.name ++ "] " ++ rest) ∧
        ∃ original, (run job importers s).2.cache.Blames original ∧ g.Retags original) ∧
      (∀ key v, Table.get? key s.cache.verdicts = some v →
        Table.get? key (run job importers s).2.cache.verdicts = some v) ∧
      ∀ key g, Table.get? key (run job importers s).2.cache.verdicts = some (.ambiguous g) →
        importers.Raised key.2 g ∧ g.report.stage = .evaluate := by
  obtain ⟨keeps, blamed⟩ := run_blamed fair reused shared.vouched
  refine ⟨?_, keeps.stored, ?_⟩
  · intro g failed isImport
    obtain ⟨past, last, later, f, split, story, place, stage, blames⟩ := blamed g failed isImport
    refine ⟨?_, g.message_eq, blames⟩
    rw [stage, story]
    exact starts_evaluate split place f
  · intro key g stored
    obtain ⟨raised, isImport⟩ := keeps.vouched shared.vouched key g stored
    exact ⟨raised, (fair.importers.of_raised raised isImport).2⟩

end Compile

namespace References

/-! ## Sheets of references -/

/-- A sheet is a list of references. -/
def kit : Kit := ⟨List String, Unit, Unit⟩

/-- The evaluator loads them one after the other, and lets what goes wrong pass. -/
def loadAll : List String → Script kit
  | [] => .finish ()
  | reference :: rest => .load reference none fun outcome =>
    match outcome with
    | .ok _ => loadAll rest
    | .error f => .fail f

def toolchain : Toolchain kit where
  parse contents _ _ w := (.value (if contents.isEmpty then [] else [contents]), w)
  evaluate sheet _ := loadAll sheet
  render _ _ w := (.value ("", none), w)

theorem loadAll_honest (sheet : List String) (given : Failure → Prop) : (loadAll sheet).Honest given := by
  induction sheet generalizing given with
  | nil => trivial
  | cons reference rest ih =>
    refine ⟨fun _ => ih given, fun f g failed _ => ?_⟩
    exact .inr (Except.error.inj failed)

theorem toolchain_fair (functions : List (String × Function)) : toolchain.Fair functions where
  parse contents dialect url f := by
    rintro ⟨w, failed⟩
    cases failed
  evaluate sheet := loadAll_honest sheet _
  render tree style f := by
    rintro ⟨w, failed⟩
    cases failed
  build tree style w css f answered := by cases answered

/-- There are two candidates for one reference, which another sheet makes. -/
def twoCandidates : Importers kit := fun _ reference base w =>
  if reference = "x" then (.fault (.failure (Failure.ambiguous "x" ["m:a", "m:b"] base)), w)
  else if reference = "main" then
    (.value (.source { url := "m:main", contents := "x", dialect := .scss }), w)
  else (.value .declined, w)

theorem twoCandidates_plain : twoCandidates.Plain := by
  rintro handle reference base g ⟨w, failed⟩ isImport
  unfold twoCandidates at failed
  split at failed
  · cases failed
    exact ⟨rfl, rfl⟩
  · split at failed
    · cases failed
    · cases failed

def start : Session kit :=
  { Session.blank (K := kit) () with
    cache := { resolvers := [], entry := .custom ⟨"m", "Imp(m)"⟩ } }

def job (path : String) (cache : Cache kit) : Job kit where
  request := { path := some ⟨0, [path]⟩ }
  mode := .direct
  toolchain := (.ok toolchain, [])
  cache := some cache

theorem job_fair (path : String) (cache : Cache kit) : (job path cache).Fair twoCandidates where
  equipped := .inl ⟨toolchain, rfl⟩
  importers := twoCandidates_plain
  toolchain t found := by
    cases found
    exact toolchain_fair _

open Compile

/-- The reference is compiled itself, and then a sheet that makes it. -/
def first : Except Fault Result × Session kit := run (job "x" start.cache) twoCandidates start

def second : Except Fault Result × Session kit := run (job "main" first.2.cache) twoCandidates first.2

def importFailure? : Except Fault Result → Option Failure
  | .error (.failure g) => if g.isImport then some g else none
  | _ => none

theorem eq_of_importFailure? {r : Except Fault Result} (failed : (importFailure? r).isSome) :
    ∃ g, r = .error (.failure g) ∧ g.isImport = true := by
  unfold importFailure? at failed
  split at failed
  · next g =>
    split at failed
    · next isImport => exact ⟨g, rfl, isImport⟩
    · cases failed
  · cases failed

theorem ambiguity_staged_twice :
    (∃ g, first.1 = .error (.failure g) ∧ g.report.stage = .resolveEntry) ∧
      ∃ g, second.1 = .error (.failure g) ∧ g.report.stage = .evaluate := by
  have shared : Shared twoCandidates start.cache := .new [] _ false
  constructor
  · obtain ⟨g, failed, isImport⟩ := eq_of_importFailure? (r := first.1) (by decide +kernel)
    have staged := (import_failure_staged shared (job_fair "x" start.cache) rfl).1 g failed isImport
    have early : Mark.event (.stageStart (label (job "x" start.cache)) .evaluate) ∉
        (steps (job "x" start.cache)).story observer (settled (job "x" start.cache) twoCandidates) start := by
      decide +kernel
    rw [if_neg early] at staged
    exact ⟨g, failed, staged.1⟩
  · obtain ⟨g, failed, isImport⟩ := eq_of_importFailure? (r := second.1) (by decide +kernel)
    have again : Shared twoCandidates first.2.cache := .compiled shared (job_fair "x" start.cache) rfl
    have staged := (import_failure_staged again (job_fair "main" first.2.cache) rfl).1 g failed isImport
    have late : Mark.event (.stageStart (label (job "main" first.2.cache)) .evaluate) ∈
        (steps (job "main" first.2.cache)).story observer
          (settled (job "main" first.2.cache) twoCandidates) first.2 := by
      decide +kernel
    rw [if_pos late] at staged
    exact ⟨g, failed, staged.1⟩

end References

end StyleBuild
