import StyleBuild.Proofs.Calls

/-!
# Exchanges with collaborators

What can be seen of an import from outside are its exchanges with importers and with the parser.

A resolution either repeats the verdict on its key or asks the resolvers and concludes from their answer
(`Import.exec_resolve_stored`, `Import.exec_resolve_new`); `Import.Asked` says what can have come up when
they were asked. A sheet is there or is made by one exchange with the parser (`Import.read_parse`).
-/

set_option autoImplicit false

namespace StyleBuild

variable {K : Kit} {α : Type}

/-! ## Exchanges -/

/-- A call of an import with what it came to. -/
structure Exchange (K : Kit) where
  request : ImportCall
  outcome : Except Fault (request.Reply K)

/-- What the parser was given and what it has made of it. -/
structure Parse (K : Kit) where
  contents : String
  dialect : Dialect
  url : String
  sheet : K.Sheet

namespace Exchange

def asksImporter : Exchange K → Bool
  | ⟨.resolve _ _ _, _⟩ => true
  | ⟨.parse _ _ _, _⟩ => false

def declines : Exchange K → Bool
  | ⟨.resolve _ _ _, .ok .declined⟩ => true
  | _ => false

/-- The source that an importer has answered with. -/
def source? : Exchange K → Option Source
  | ⟨.resolve _ _ _, .ok (.source s)⟩ => some s
  | _ => none

def parse? : Exchange K → Option (Parse K)
  | ⟨.parse contents dialect url, .ok sheet⟩ => some ⟨contents, dialect, url, sheet⟩
  | _ => none

theorem parse?_of_asksImporter {x : Exchange K} (asks : x.asksImporter = true) : x.parse? = none := by
  obtain ⟨request, outcome⟩ := x
  cases request with
  | resolve i reference base => rfl
  | parse contents dialect url => cases asks

end Exchange

def Collaborators.exchanges (c : Collaborators K) (mode : Mode) (m : ImportSteps K α)
    (s : Session K) : List (Exchange K) :=
  m.notes (c.settled mode) (fun call s => [⟨call, (c.settled mode call s).1⟩]) s

/-- What the resolvers answer for a key, asked one after the other. -/
def Collaborators.answer (c : Collaborators K) (mode : Mode) (reference : String) (base : Option String)
    (s : Session K) : Except Fault (Option (Resolver × Source)) :=
  (c.drive mode (Import.cascade reference base (s.cache.relative? base) s.cache.resolvers) s).1

/-! ## Verdicts and conclusions -/

/-- The failure that a fault is if several candidates were found. -/
def Fault.ambiguity? : Fault → Option Failure
  | .failure f =>
    match f.kind with
    | .ambiguous _ _ _ => some f
    | _ => none
  | _ => none

/-- What a call for a key comes to that has a verdict. -/
def Verdict.outcome (reference : String) (base : Option String) : Verdict → Except Fault Loaded
  | .found l => .ok l
  | .missing => .error (.failure (Failure.notFound reference base))
  | .ambiguous f => .error (.failure f)

/-- A verdict that is an ambiguity only with a failure of that kind. -/
def Verdict.Genuine (v : Verdict) : Prop :=
  ∀ f, v = .ambiguous f → (Fault.failure f).ambiguity? = some f

theorem Verdict.genuine_found (l : Loaded) : (Verdict.found l).Genuine := by
  intro f other
  cases other

theorem Verdict.genuine_missing : Verdict.missing.Genuine := by
  intro f other
  cases other

theorem Verdict.genuine_ambiguous {f : Failure} (several : (Fault.failure f).ambiguity? = some f) :
    (Verdict.ambiguous f).Genuine := by
  rintro _ ⟨⟩
  exact several

theorem Fault.eq_of_ambiguity? {f : Fault} {g : Failure} (several : f.ambiguity? = some g) :
    f = .failure g := by
  unfold ambiguity? at several
  split at several
  · split at several
    · rw [Option.some.inj several]
    · cases several
  · cases several

namespace Cache

/-- What a resolution concludes from the answer of the resolvers. -/
def conclude (cache : Cache K) (reference : String) (base : Option String) :
    Except Fault (Option (Resolver × Source)) → Except Fault Loaded × Cache K
  | .ok (some (r, source)) =>
    (.ok (cache.record reference base r source).1, (cache.record reference base r source).2)
  | .ok none =>
    (.error (.failure (Failure.notFound reference base)), cache.settle reference base .missing)
  | .error f =>
    (.error f, match f.ambiguity? with
      | some g => cache.settle reference base (.ambiguous g)
      | none => cache)

/-- A conclusion changes no more than the verdict on its key and, with a stylesheet, the first loads. -/
theorem conclude_keeps (cache : Cache K) (reference : String) (base : Option String)
    (answer : Except Fault (Option (Resolver × Source))) :
    (cache.conclude reference base answer).2.parsed = cache.parsed ∧
      (cache.conclude reference base answer).2.resolvers = cache.resolvers ∧
      (cache.conclude reference base answer).2.entry = cache.entry ∧
      (cache.conclude reference base answer).2.loads =
        match (cache.conclude reference base answer).1 with
        | .ok l => Table.setNew l.source.url l cache.loads
        | .error _ => cache.loads := by
  rcases answer with f | _ | ⟨r, source⟩
  · simp only [conclude]
    split <;> exact ⟨rfl, rfl, rfl, rfl⟩
  · exact ⟨rfl, rfl, rfl, rfl⟩
  · exact ⟨rfl, rfl, rfl, rfl⟩

theorem answer_of_conclude {cache : Cache K} {reference : String} {base : Option String}
    {answer : Except Fault (Option (Resolver × Source))} {l : Loaded}
    (found : (cache.conclude reference base answer).1 = .ok l) :
    ∃ r source, answer = .ok (some (r, source)) ∧ l = (cache.record reference base r source).1 := by
  rcases answer with f | _ | ⟨r, source⟩
  · cases found
  · cases found
  · exact ⟨r, source, rfl, (Except.ok.inj found).symm⟩

theorem verdict_of_conclude {cache : Cache K} {reference : String} {base : Option String}
    {answer : Except Fault (Option (Resolver × Source))} {l : Loaded}
    (found : (cache.conclude reference base answer).1 = .ok l) :
    Table.get? (base, reference) (cache.conclude reference base answer).2.verdicts =
      some (.found l) := by
  obtain ⟨r, source, rfl, rfl⟩ := answer_of_conclude found
  exact Table.get?_set_self _ _ _

/-- A verdict that is stored after a conclusion was stored before, or it is what was concluded. -/
theorem stored_of_conclude {cache : Cache K} {reference : String} {base : Option String}
    {answer : Except Fault (Option (Resolver × Source))} {key : Key} {v : Verdict}
    (stored : Table.get? key (cache.conclude reference base answer).2.verdicts = some v) :
    Table.get? key cache.verdicts = some v ∨
      v.outcome reference base = (cache.conclude reference base answer).1 ∧ v.Genuine := by
  have settled {u : Verdict}
      (stored : Table.get? key (Table.set (base, reference) u cache.verdicts) = some v) :
      Table.get? key cache.verdicts = some v ∨ u = v := by
    rw [Table.get?_set] at stored
    split at stored
    · exact .inr (Option.some.inj stored)
    · exact .inl stored
  rcases answer with f | _ | ⟨r, source⟩
  · simp only [conclude] at stored ⊢
    split at stored
    · next g several =>
      obtain rfl := Fault.eq_of_ambiguity? several
      refine (settled stored).imp_right ?_
      rintro rfl
      exact ⟨rfl, Verdict.genuine_ambiguous several⟩
    · exact .inl stored
  · refine (settled stored).imp_right ?_
    rintro rfl
    exact ⟨rfl, Verdict.genuine_missing⟩
  · refine (settled stored).imp_right ?_
    rintro rfl
    exact ⟨rfl, Verdict.genuine_found _⟩

def keep (cache : Cache K) (url : String) (sheet : K.Sheet) : Cache K :=
  { cache with parsed := Table.set url sheet cache.parsed }

end Cache

namespace Import

theorem settleFault_eq (reference : String) (base : Option String) (f : Fault) (s : Session K) :
    settleFault reference base f s =
      { s with cache := (s.cache.conclude reference base (.error f)).2 } := by
  unfold settleFault
  cases f with
  | failure g =>
    obtain ⟨kind, report, cause⟩ := g
    cases kind <;> rfl
  | _ => rfl

/-! ## What comes up when resolvers are asked -/

/-- What came up when resolvers were asked: exchanges with importers only, among them the one that has
answered with a source, or one that has not declined if all ended in a fault. -/
structure Asked (reference : String) (base : Option String) (rs : List Resolver)
    (xs : List (Exchange K)) (answer : Except Fault (Option (Resolver × Source))) : Prop where
  importers : ∀ x ∈ xs, x.asksImporter = true
  answered : ∀ r source, answer = .ok (some (r, source)) → r ∈ rs ∧
    (⟨.resolve r.importer reference (baseFor r base), .ok (.source source)⟩ : Exchange K) ∈ xs
  blamed : ∀ f, answer = .error f →
    (∃ x ∈ xs, x.declines = false) ∨ ∃ v, f = .noAttribute v "resolve"

variable {c : Collaborators K} {mode : Mode} {reference : String} {base : Option String}
variable {s : Session K}

theorem ask_misfit {r : Resolver} {v : Value} (none_there : r.importer = .misfit v) :
    (ask r reference base : ImportSteps K Offer) = Steps.fail (.noAttribute v "resolve") := by
  unfold ask
  rw [none_there]

theorem ask_importer {r : Resolver} (there : ∀ v, r.importer ≠ .misfit v) :
    (ask r reference base : ImportSteps K Offer) =
      Steps.perform (ImportCall.resolve r.importer reference (baseFor r base)) := by
  unfold ask
  cases importer : r.importer with
  | misfit v => exact absurd importer (there v)
  | _ => rfl

theorem exchanges_ask {r : Resolver} (there : ∀ v, r.importer ≠ .misfit v)
    {outcome : Except Fault Offer} {t : Session K}
    (ran : (ask r reference base).exec (c.settled mode) s = (outcome, t)) :
    c.exchanges mode (ask r reference base) s =
      [⟨.resolve r.importer reference (baseFor r base), outcome⟩] := by
  rw [ask_importer there] at ran ⊢
  have settled : (c.settled mode (.resolve r.importer reference (baseFor r base)) s).1 = outcome :=
    congrArg Prod.fst ran
  rw [← settled]
  exact Steps.notes_perform _ _ _ _

/-- The fault that asking a resolver ends in if its importer raises one. -/
def askFault (r : Resolver) (reference : String) : Fault → Fault
  | .pendingAnswer call => suspended r reference (.pendingAnswer call)
  | f => f

theorem notes_firstAnswer_cons {τ : Type} (note : ImportCall → Session K → List τ) {r : Resolver}
    {outcome : Except Fault Offer} {t : Session K} (rest : List Resolver) :
    (ask r reference base).exec (c.settled mode) s = (outcome, t) →
    ((firstAnswer reference base (r :: rest)).exec (c.settled mode) s,
      (firstAnswer reference base (r :: rest)).notes (c.settled mode) note s) =
      match outcome with
      | .ok .declined =>
        ((firstAnswer reference base rest).exec (c.settled mode) (t.emit (.declined r.label reference)),
          (ask r reference base).notes (c.settled mode) note s
            ++ (firstAnswer reference base rest).notes (c.settled mode) note
              (t.emit (.declined r.label reference)))
      | .ok (.source source) =>
        ((.ok (some (r, source)), t), (ask r reference base).notes (c.settled mode) note s)
      | .ok (.other type) =>
        ((.error (wrongAnswer r reference type), t),
          (ask r reference base).notes (c.settled mode) note s)
      | .error f =>
        ((.error (askFault r reference f), t), (ask r reference base).notes (c.settled mode) note s) := by
  intro ran
  simp only [firstAnswer, Steps.exec_bind, Steps.notes_bind, Steps.exec_attempt,
    Steps.notes_attempt, ran]
  rcases outcome with f | offer
  · cases f <;> simp [askFault]
  · cases offer <;> simp [Steps.exec_bind, Steps.notes_bind]

theorem firstAnswer_cons {r : Resolver} {outcome : Except Fault Offer} {t : Session K}
    (ran : (ask r reference base).exec (c.settled mode) s = (outcome, t)) (rest : List Resolver) :
    ((firstAnswer reference base (r :: rest)).exec (c.settled mode) s,
      c.exchanges mode (firstAnswer reference base (r :: rest)) s) =
      match outcome with
      | .ok .declined =>
        ((firstAnswer reference base rest).exec (c.settled mode) (t.emit (.declined r.label reference)),
          c.exchanges mode (ask r reference base) s ++ c.exchanges mode
            (firstAnswer reference base rest) (t.emit (.declined r.label reference)))
      | .ok (.source source) =>
        ((.ok (some (r, source)), t), c.exchanges mode (ask r reference base) s)
      | .ok (.other type) =>
        ((.error (wrongAnswer r reference type), t), c.exchanges mode (ask r reference base) s)
      | .error f => ((.error (askFault r reference f), t), c.exchanges mode (ask r reference base) s) := by
  have step := notes_firstAnswer_cons (fun call s => [(⟨call, (c.settled mode call s).1⟩ : Exchange K)])
    rest ran
  rcases outcome with f | offer
  · exact step
  · cases offer <;> exact step

/-- What came up with the rest of the resolvers, after one that declined. -/
theorem Asked.cons {r : Resolver} {rs : List Resolver} {xs : List (Exchange K)}
    {answer : Except Fault (Option (Resolver × Source))} (asked : Asked reference base rs xs answer)
    {x : Exchange K} (asks : x.asksImporter = true) :
    Asked reference base (r :: rs) ([x] ++ xs) answer where
  importers := by
    intro y there
    rcases List.mem_append.mp there with first | later
    · rw [List.mem_singleton.mp first]
      exact asks
    · exact asked.importers y later
  answered := by
    intro r' source found
    obtain ⟨listed, offered⟩ := asked.answered r' source found
    exact ⟨List.mem_cons_of_mem r listed, List.mem_append_right [x] offered⟩
  blamed := by
    intro f failed
    rcases asked.blamed f failed with ⟨y, there, kept⟩ | misfit
    · exact .inl ⟨y, List.mem_append_right [x] there, kept⟩
    · exact .inr misfit

theorem asked_firstAnswer (c : Collaborators K) (mode : Mode) (reference : String)
    (base : Option String) (rs : List Resolver) (s : Session K) :
    Asked reference base rs (c.exchanges mode (firstAnswer reference base rs) s)
      ((firstAnswer reference base rs).exec (c.settled mode) s).1 := by
  induction rs generalizing s with
  | nil => constructor <;> simp [Collaborators.exchanges, firstAnswer]
  | cons r rest ih =>
    by_cases misfit : ∃ v, r.importer = .misfit v
    · obtain ⟨v, none_there⟩ := misfit
      have ran : (ask r reference base).exec (c.settled mode) s =
          (.error (.noAttribute v "resolve"), s) := by rw [ask_misfit none_there]; rfl
      have exchanges : c.exchanges mode (ask r reference base) s = [] := by
        rw [ask_misfit none_there]; rfl
      obtain ⟨executed, noted⟩ := Prod.mk.inj (firstAnswer_cons ran rest)
      rw [executed, noted, exchanges]
      constructor <;> simp [askFault]
    · have there : ∀ v, r.importer ≠ .misfit v := fun v here => misfit ⟨v, here⟩
      rcases ran : (ask r reference base).exec (c.settled mode) s with ⟨outcome, t⟩
      obtain ⟨executed, noted⟩ := Prod.mk.inj (firstAnswer_cons ran rest)
      rw [executed, noted, exchanges_ask there ran]
      rcases outcome with f | offer
      · constructor <;> simp [Exchange.asksImporter, Exchange.declines]
      · cases offer with
        | declined => exact (ih _).cons rfl
        | source source => constructor <;> simp [Exchange.asksImporter, Exchange.declines]
        | other type => constructor <;> simp [Exchange.asksImporter, Exchange.declines]

theorem asked_cascade (c : Collaborators K) (mode : Mode) (reference : String)
    (base : Option String) (s : Session K) :
    Asked reference base ((s.cache.relative? base).toList ++ s.cache.resolvers)
      (c.exchanges mode (cascade reference base (s.cache.relative? base) s.cache.resolvers) s)
      (c.answer mode reference base s) := by
  have asked := asked_firstAnswer c mode reference base
    ((s.cache.relative? base).toList ++ s.cache.resolvers) s
  rw [Collaborators.answer, Collaborators.drive_eq_exec, cascade, Steps.exec_mapFault,
    Collaborators.exchanges, Steps.notes_mapFault]
  generalize (firstAnswer reference base _).exec (c.settled mode) s = ran at asked ⊢
  rcases ran with ⟨f | found, t⟩
  · refine ⟨asked.importers, nofun, ?_⟩
    rintro g failed
    obtain rfl : f.leaving "generator" = g := Except.error.inj failed
    rcases asked.blamed f rfl with kept | ⟨v, rfl⟩
    · exact .inl kept
    · exact .inr ⟨v, rfl⟩
  · exact asked

/-! ## What resolving and parsing come to -/

theorem world_frame (c : Collaborators K) (mode : Mode) :
    AskFrame (c.settled mode) fun s t : Session K => ∃ w, t = { s with world := w } where
  refl s := ⟨s.world, rfl⟩
  trans := by
    rintro s t u ⟨w, rfl⟩ ⟨w', rfl⟩
    exact ⟨w', rfl⟩
  call call s := ⟨_, c.settled_world mode call s⟩
  declined s label reference := ⟨_, rfl⟩

theorem exec_resolve_stored (c : Collaborators K) (mode : Mode) {v : Verdict}
    (stored : Table.get? (base, reference) s.cache.verdicts = some v) :
    (resolve reference base).exec (c.settled mode) s = (v.outcome reference base, s) ∧
      c.exchanges mode (resolve reference base) s = [] := by
  simp only [resolve, Collaborators.exchanges, Steps.exec_bind, Steps.notes_bind, Steps.exec_get,
    Steps.notes_get, stored]
  cases v with
  | found l => exact ⟨rfl, rfl⟩
  | missing => exact ⟨rfl, rfl⟩
  | ambiguous f => exact ⟨rfl, rfl⟩

theorem exec_resolve_new (c : Collaborators K) (mode : Mode)
    (new : Table.get? (base, reference) s.cache.verdicts = none) :
    (∃ w, (resolve reference base).exec (c.settled mode) s =
      ((s.cache.conclude reference base (c.answer mode reference base s)).1,
        { s with
          world := w
          cache := (s.cache.conclude reference base (c.answer mode reference base s)).2 })) ∧
      c.exchanges mode (resolve reference base) s =
        c.exchanges mode (cascade reference base (s.cache.relative? base) s.cache.resolvers) s := by
  rcases ran : (cascade reference base (s.cache.relative? base) s.cache.resolvers).exec
    (c.settled mode) s with ⟨answer, t⟩
  obtain ⟨w, rfl⟩ : ∃ w, t = { s with world := w } := by
    have moved : (cascade reference base (s.cache.relative? base) s.cache.resolvers).Moves
        (c.settled mode) fun s t => ∃ w, t = { s with world := w } :=
      .mapFault _ ((world_frame c mode).closed.firstAnswer reference base _)
    simpa only [ran] using moved s
  have answered : c.answer mode reference base s = answer := by
    rw [Collaborators.answer, Collaborators.drive_eq_exec, ran]
  rw [answered]
  simp only [resolve, resolveNew, Collaborators.exchanges, Steps.exec_bind, Steps.notes_bind,
    Steps.exec_get, Steps.notes_get, new, Steps.exec_attempt, Steps.notes_attempt, ran]
  rcases answer with f | found
  · refine ⟨⟨w, ?_⟩, List.append_nil _⟩
    have settled := settleFault_eq reference base f { s with world := w }
    exact congrArg (Prod.mk (Except.error f)) settled
  · cases found with
    | none => exact ⟨⟨_, rfl⟩, List.append_nil _⟩
    | some found => exact ⟨⟨_, rfl⟩, List.append_nil _⟩

theorem verdict_of_resolve {l : Loaded} {t : Session K}
    (ran : (resolve reference base).exec (c.settled mode) s = (.ok l, t)) :
    Table.get? (base, reference) t.cache.verdicts = some (.found l) := by
  cases stored : Table.get? (base, reference) s.cache.verdicts with
  | some v =>
    rw [(exec_resolve_stored c mode stored).1] at ran
    obtain ⟨found, rfl⟩ := Prod.mk.inj ran
    cases v with
    | found l' => rw [stored, Except.ok.inj found]
    | missing => cases found
    | ambiguous f => cases found
  | none =>
    obtain ⟨w, executed⟩ := (exec_resolve_new c mode stored).1
    rw [executed] at ran
    obtain ⟨found, rfl⟩ := Prod.mk.inj ran
    exact Cache.verdict_of_conclude found

theorem sheets_of_resolve (c : Collaborators K) (mode : Mode) (reference : String)
    (base : Option String) (s : Session K) :
    ((resolve reference base).exec (c.settled mode) s).2.cache.parsed = s.cache.parsed ∧
      (c.exchanges mode (resolve reference base) s).filterMap Exchange.parse? = [] := by
  cases stored : Table.get? (base, reference) s.cache.verdicts with
  | some v =>
    obtain ⟨executed, exchanged⟩ := exec_resolve_stored c mode stored
    rw [executed, exchanged]
    exact ⟨rfl, rfl⟩
  | none =>
    obtain ⟨⟨w, executed⟩, exchanged⟩ := exec_resolve_new c mode stored
    rw [executed, exchanged]
    refine ⟨(Cache.conclude_keeps _ _ _ _).1, List.filterMap_eq_nil_iff.mpr fun x there => ?_⟩
    exact Exchange.parse?_of_asksImporter ((asked_cascade c mode reference base s).importers x there)

/-- What an import of a loaded stylesheet hands over. -/
def handOver (l : Loaded) (sheet : K.Sheet) : Imported K :=
  ⟨l.source.url, sheet, l.source.dialect, l.isDependency⟩

/-- Reading a stylesheet: its sheet is there, or one exchange with the parser makes it or fails. -/
inductive Read (l : Loaded) (s : Session K) :
    List (Exchange K) → Except Fault (Imported K) × Session K → Prop where
  | kept (sheet : K.Sheet) (stored : Table.get? l.source.url s.cache.parsed = some sheet) :
    Read l s [] (.ok (handOver l sheet), s)
  | made (sheet : K.Sheet) (w : World K) (new : Table.get? l.source.url s.cache.parsed = none) :
    Read l s [⟨.parse l.source.contents l.source.dialect l.source.url, .ok sheet⟩]
      (.ok (handOver l sheet), { s with world := w, cache := s.cache.keep l.source.url sheet })
  | failed (f : Fault) (w : World K) (new : Table.get? l.source.url s.cache.parsed = none) :
    Read l s [⟨.parse l.source.contents l.source.dialect l.source.url, .error f⟩]
      (.error (parseFault l.source.url f), { s with world := w })

theorem read_parse (c : Collaborators K) (mode : Mode) (l : Loaded) (s : Session K) :
    Read l s (c.exchanges mode (parse l) s) ((parse l).exec (c.settled mode) s) := by
  cases stored : Table.get? l.source.url s.cache.parsed with
  | some sheet =>
    simp only [parse, sheetOf, Collaborators.exchanges, Steps.exec_bind, Steps.notes_bind,
      Steps.exec_get, Steps.notes_get, stored]
    exact .kept sheet stored
  | none =>
    rcases ran : c.settled mode (.parse l.source.contents l.source.dialect l.source.url) s with
      ⟨outcome, t⟩
    obtain ⟨w, rfl⟩ : ∃ w, t = { s with world := w } := by
      have moved := (world_frame c mode).call
        (.parse l.source.contents l.source.dialect l.source.url) s
      simpa only [ran] using moved
    simp only [parse, sheetOf, Collaborators.exchanges, Steps.exec_bind, Steps.notes_bind,
      Steps.exec_get, Steps.notes_get, stored, Steps.exec_mapFault, Steps.notes_mapFault,
      Steps.exec_perform, Steps.notes_perform, ran]
    cases outcome with
    | error f => exact .failed f w stored
    | ok sheet => exact .made sheet w stored

theorem fetch_of_found {l : Loaded} {t : Session K}
    (ran : (resolve reference base).exec (c.settled mode) s = (.ok l, t)) :
    (fetch reference base).exec (c.settled mode) s = (parse l).exec (c.settled mode) t ∧
      c.exchanges mode (fetch reference base) s =
        c.exchanges mode (resolve reference base) s ++ c.exchanges mode (parse l) t := by
  simp only [fetch, Collaborators.exchanges, Steps.exec_bind, Steps.notes_bind, ran, and_self]

theorem fetch_of_fault {f : Fault} {t : Session K}
    (ran : (resolve reference base).exec (c.settled mode) s = (.error f, t)) :
    (fetch reference base).exec (c.settled mode) s = (.error f, t) ∧
      c.exchanges mode (fetch reference base) s =
        c.exchanges mode (resolve reference base) s := by
  simp only [fetch, Collaborators.exchanges, Steps.exec_bind, Steps.notes_bind, ran, and_self,
    List.append_nil]

end Import

end StyleBuild
