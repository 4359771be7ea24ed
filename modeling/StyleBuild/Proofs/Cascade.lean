import StyleBuild.Lines.Toolchain
import StyleBuild.Proofs.Exchanges

/-!
# The order of the resolvers

Resolvers are asked one after the other until one does not decline, and that one decides. `Consulted` says so
of the list of all resolvers, each with the base URL it is told: either all were asked and declined, or those
before some resolver declined, it did not, and none after it was asked.
-/

set_option autoImplicit false

namespace StyleBuild

variable {K : Kit}

/-- What an importer does when it is asked. -/
inductive Reaction where
  | declines
  | offers (source : Source)
  | returns (type : String)
  /-- It answers later, where only direct answers are taken. -/
  | suspends
  | raises (f : Fault)

namespace Reaction

def ofOutcome : Except Fault Offer → Reaction
  | .ok .declined => declines
  | .ok (.source source) => offers source
  | .ok (.other type) => returns type
  | .error f => raises f

def ofAnswer (mode : Mode) : Answer (Session K) Fault Offer × Session K → Reaction
  | (.value offer, _) => ofOutcome (.ok offer)
  | (.fault f, _) => raises f
  | (.pending wait, s) =>
    match mode with
    | .direct => suspends
    | .awaiting => ofOutcome (wait s).1

/-- What the steps get to see of what an importer does. -/
def outcome (importer : Importer) : Reaction → Except Fault Offer
  | declines => .ok .declined
  | offers source => .ok (.source source)
  | returns type => .ok (.other type)
  | suspends => .error (.pendingAnswer importer.method)
  | raises f => .error f

@[simp] theorem outcome_ofOutcome (importer : Importer) (answer : Except Fault Offer) :
    (ofOutcome answer).outcome importer = answer := by
  rcases answer with f | offer
  · rfl
  · cases offer <;> rfl

end Reaction

structure Consultation where
  importer : Importer
  reference : String
  base : Option String
  reaction : Reaction

namespace Collaborators

def reaction (c : Collaborators K) (mode : Mode) (importer : Importer) (reference : String)
    (base : Option String) (s : Session K) : Reaction :=
  .ofAnswer mode (c.importHost (.resolve importer reference base) s)

def consultation (c : Collaborators K) (mode : Mode) : ImportCall → Session K → List Consultation
  | .resolve importer reference base, s =>
    [⟨importer, reference, base, c.reaction mode importer reference base s⟩]
  | .parse _ _ _, _ => []

/-- The importers that steps ask, with what each of them does. -/
def consultations {α : Type} (c : Collaborators K) (mode : Mode) (m : ImportSteps K α)
    (s : Session K) : List Consultation :=
  m.notes (c.settled mode) (c.consultation mode) s

theorem settled_resolve (c : Collaborators K) (mode : Mode) (importer : Importer)
    (reference : String) (base : Option String) (s : Session K) :
    (c.settled mode (.resolve importer reference base) s).1
      = (c.reaction mode importer reference base s).outcome importer := by
  unfold reaction
  cases mode with
  | direct =>
    simp only [settled, Host.refusing]
    rcases c.importHost (.resolve importer reference base) s with ⟨offer | f | wait, t⟩
    · exact (Reaction.outcome_ofOutcome importer (.ok offer)).symm
    · rfl
    · rfl
  | awaiting =>
    simp only [settled, Host.awaited]
    rcases c.importHost (.resolve importer reference base) s with ⟨offer | f | wait, t⟩
    · exact (Reaction.outcome_ofOutcome importer (.ok offer)).symm
    · rfl
    · exact (Reaction.outcome_ofOutcome importer (wait t).1).symm

end Collaborators

namespace Import

/-- What the resolver that has not declined makes of the whole. A fault of its importer is passed on as it
is, but for the end of an iteration and for a refusal of the importer's own to wait. -/
inductive Decides (r : Resolver) :
    Reaction → Except Fault (Option (Resolver × Source)) → Prop where
  | offers (source : Source) : Decides r (.offers source) (.ok (some (r, source)))
  | returns (type : String) (f : Failure) (kind : f.kind = .configuration) :
    Decides r (.returns type) (.error (.failure f))
  | suspends (f : Failure) (kind : f.kind = .configuration) :
    Decides r .suspends (.error (.failure f))
  | raises (f : Fault) (going : ∀ g, f = .raised g → g.kind ≠ Fault.stopKind)
    (told : ∀ call, f ≠ .pendingAnswer call) : Decides r (.raises f) (.error f)
  | stops (g : Raised) (stop : g.kind = Fault.stopKind) :
    Decides r (.raises (.raised g))
      (.error (.raised { kind := "RuntimeError", message := "generator raised StopIteration" }))
  | refuses (call : String) (f : Failure) (kind : f.kind = .configuration) :
    Decides r (.raises (.pendingAnswer call)) (.error (.failure f))

/-- Resolvers, each with the base URL it is told, asked in order up to the first that does not decline. A
value that is no importer cannot be asked. -/
inductive Consulted (reference : String) (rs : List (Resolver × Option String)) :
    List Consultation → Except Fault (Option (Resolver × Source)) → Prop where
  | exhausted :
    Consulted reference rs (rs.map fun (r, base) => ⟨r.importer, reference, base, .declines⟩)
      (.ok none)
  | decided (before after : List (Resolver × Option String)) (r : Resolver) (base : Option String)
    (split : rs = before ++ (r, base) :: after) (reaction : Reaction)
    (outcome : Except Fault (Option (Resolver × Source))) (decides : Decides r reaction outcome) :
    Consulted reference rs
      ((before.map fun (r, base) => ⟨r.importer, reference, base, .declines⟩)
        ++ [⟨r.importer, reference, base, reaction⟩]) outcome
  | misfit (before after : List (Resolver × Option String)) (r : Resolver) (base : Option String)
    (split : rs = before ++ (r, base) :: after) (value : Value) (none_there : r.importer = .misfit value) :
    Consulted reference rs
      (before.map fun (r, base) => ⟨r.importer, reference, base, .declines⟩)
      (.error (.noAttribute value "resolve"))

variable {c : Collaborators K} {mode : Mode} {reference : String} {base : Option String}
variable {s : Session K}

theorem Consulted.cons {rs : List (Resolver × Option String)} {told : List Consultation}
    {outcome : Except Fault (Option (Resolver × Source))} (consulted : Consulted reference rs told outcome)
    (r : Resolver) (base : Option String) :
    Consulted reference ((r, base) :: rs) (⟨r.importer, reference, base, .declines⟩ :: told) outcome := by
  cases consulted with
  | exhausted => exact .exhausted
  | decided before after r' base' split reaction _ decides =>
    exact .decided ((r, base) :: before) after r' base' (by rw [split]; rfl) reaction _ decides
  | misfit before after r' base' split value none_there =>
    exact .misfit ((r, base) :: before) after r' base' (by rw [split]; rfl) value none_there

theorem decides_fault (r : Resolver) (reference : String) (f : Fault) :
    Decides r (.raises f) (.error ((askFault r reference f).leaving "generator")) := by
  cases f with
  | pendingAnswer call => exact .refuses call _ rfl
  | raised g =>
    by_cases stop : g.kind = Fault.stopKind
    · have left : (Fault.raised g).leaving "generator"
          = .raised { kind := "RuntimeError", message := "generator raised StopIteration" } := by
        simp [Fault.leaving, stop]
      simpa only [askFault, left] using Decides.stops (r := r) g stop
    · have left : (Fault.raised g).leaving "generator" = .raised g := by
        simp [Fault.leaving, stop]
      have passed : Decides r (.raises (.raised g)) (.error (.raised g)) := by
        refine .raises _ ?_ ?_
        · rintro _ ⟨⟩
          exact stop
        · rintro _ ⟨⟩
      simpa only [askFault, left] using passed
  | _ =>
    refine .raises _ ?_ ?_
    · rintro _ ⟨⟩
    · rintro _ ⟨⟩

theorem consulted_firstAnswer (c : Collaborators K) (mode : Mode) (reference : String)
    (base : Option String) (rs : List Resolver) (s : Session K) :
    Consulted reference (rs.map fun r => (r, baseFor r base))
      (c.consultations mode (firstAnswer reference base rs) s)
      (((firstAnswer reference base rs).exec (c.settled mode) s).1.mapError
        (Fault.leaving "generator")) := by
  induction rs generalizing s with
  | nil => exact .exhausted
  | cons r rest ih =>
    by_cases misfit : ∃ v, r.importer = .misfit v
    · obtain ⟨v, none_there⟩ := misfit
      have ran : (ask r reference base).exec (c.settled mode) s =
          (.error (.noAttribute v "resolve"), s) := by rw [ask_misfit none_there]; rfl
      obtain ⟨executed, noted⟩ := Prod.mk.inj (notes_firstAnswer_cons _ rest ran)
      rw [executed, Collaborators.consultations, noted, ask_misfit none_there]
      exact .misfit [] _ r _ rfl v none_there
    · have there : ∀ v, r.importer ≠ .misfit v := fun v here => misfit ⟨v, here⟩
      rcases ran : (ask r reference base).exec (c.settled mode) s with ⟨outcome, t⟩
      obtain ⟨executed, noted⟩ := Prod.mk.inj (notes_firstAnswer_cons _ rest ran)
      rw [executed, Collaborators.consultations, noted, ask_importer there, Steps.notes_perform,
        Collaborators.consultation]
      have reacted :
          (c.reaction mode r.importer reference (baseFor r base) s).outcome r.importer = outcome := by
        rw [ask_importer there] at ran
        rw [← c.settled_resolve]
        exact congrArg Prod.fst ran
      -- the first resolver declines and the rest decide, or it decides itself
      generalize c.reaction mode r.importer reference (baseFor r base) s = reaction at reacted ⊢
      subst reacted
      cases reaction with
      | declines => exact (ih _).cons r _
      | offers source => exact .decided [] _ r _ rfl _ _ (.offers source)
      | returns type => exact .decided [] _ r _ rfl _ _ (.returns type _ rfl)
      | suspends => exact .decided [] _ r _ rfl _ _ (.suspends _ rfl)
      | raises f => exact .decided [] _ r _ rfl _ _ (decides_fault r reference f)

end Import

namespace Resolver

def ofDirectory (kind : ResolverKind) (title path : String) : Resolver :=
  ⟨kind, .directory (Path.ofText path), title ++ path⟩

/-- All resolvers but the relative one, in their order. -/
def listed (importers : List Importer) (loadPaths environment : List String)
    (packages : Option Importer) : List Resolver :=
  (importers.map fun i => ⟨.explicit, i, "importer:" ++ i.label⟩)
    ++ (loadPaths.filter (· ≠ "")).map (ofDirectory .loadPath "load_path:")
    ++ (environment.filter (· ≠ "")).map (ofDirectory .environment "environment:")
    ++ packages.toList.map fun i => ⟨.package, i, "package"⟩

theorem ofImporters_eq (i : Nat) (importers : List Importer) :
    ofImporters i (importers.map some)
      = .ok (importers.map fun imp => ⟨.explicit, imp, "importer:" ++ imp.label⟩) := by
  induction importers generalizing i with
  | nil => rfl
  | cons imp rest ih =>
    simp [ofImporters, ih (i + 1), bind, Except.bind, pure, Except.pure]

theorem filterMap_ofDirectory? (kind : ResolverKind) (title : String) (paths : List String) :
    paths.filterMap (ofDirectory? kind title)
      = (paths.filter (· ≠ "")).map (ofDirectory kind title) := by
  induction paths with
  | nil => rfl
  | cons path rest ih =>
    by_cases empty : path = ""
    · simp [ofDirectory?, empty, ih]
    · simp [ofDirectory?, ofDirectory, empty, ih]

theorem cascade_eq (importers : List Importer) (loadPaths environment : List String)
    (packages : Option Importer) :
    cascade (importers.map some) loadPaths environment packages
      = .ok (listed importers loadPaths environment packages) := by
  unfold cascade listed
  rw [ofImporters_eq, filterMap_ofDirectory?, filterMap_ofDirectory?]
  cases packages <;> rfl

theorem kind_of_listed {importers : List Importer} {loadPaths environment : List String}
    {packages : Option Importer} {r : Resolver}
    (there : r ∈ listed importers loadPaths environment packages) : r.kind ≠ .entryRelative := by
  simp only [listed, List.mem_append, List.mem_map] at there
  rcases there with ((⟨_, _, rfl⟩ | ⟨_, _, rfl⟩) | ⟨_, _, rfl⟩) | ⟨_, _, rfl⟩
  · rintro ⟨⟩
  · rintro ⟨⟩
  · rintro ⟨⟩
  · rintro ⟨⟩

end Resolver

theorem Import.first_answer_decides (c : Collaborators K) (mode : Mode) (importers : List Importer)
    (loadPaths environment : List String) (packages : Option Importer) (relative : Option Resolver)
    (entry : ∀ r ∈ relative, r.kind = .entryRelative) (reference : String) (base : Option String)
    (s : Session K) :
    ∃ rs, Resolver.cascade (importers.map some) loadPaths environment packages = .ok rs ∧
      rs = Resolver.listed importers loadPaths environment packages ∧
      Consulted reference (relative.toList.map (·, base) ++ rs.map (·, none))
        (c.consultations mode (cascade reference base relative rs) s)
        (c.drive mode (cascade reference base relative rs) s).1 := by
  refine ⟨_, Resolver.cascade_eq importers loadPaths environment packages, rfl, ?_⟩
  generalize listed : Resolver.listed importers loadPaths environment packages = rs
  have first : relative.toList.map (·, base)
      = relative.toList.map fun r => (r, baseFor r base) := by
    refine List.map_congr_left fun r there => ?_
    rw [baseFor, if_pos (entry r (Option.mem_toList.mp there))]
  have others : rs.map (·, (none : Option String)) = rs.map fun r => (r, baseFor r base) := by
    refine List.map_congr_left fun r there => ?_
    rw [baseFor, if_neg (Resolver.kind_of_listed (listed ▸ there))]
  have consulted := consulted_firstAnswer c mode reference base (relative.toList ++ rs) s
  rw [first, others, ← List.map_append, Collaborators.drive_eq_exec, cascade, Steps.exec_mapFault,
    Collaborators.consultations, Steps.notes_mapFault]
  exact consulted

namespace Lines

def asked (table : List (String × Canned × Bool)) : Collaborators kit :=
  (toolchain {}).collaborators (importers table)

def threeImporters : Collaborators kit :=
  asked [("m", .memory [] "m", false), ("n", .memory [("x", "p")] "n", false),
    ("o", .memory [("x", "q")] "o", false)]

theorem second_importer_decides :
    (∀ r ∈ some (Resolver.relativeTo (.custom ⟨"m", "Imp(m)"⟩)), r.kind = .entryRelative) ∧
    ∃ rs, Resolver.cascade [some (.custom ⟨"n", "Imp(n)"⟩), some (.custom ⟨"o", "Imp(o)"⟩)]
        ["", "lib"] [] none = .ok rs ∧
      rs.map (·.label) = ["importer:Imp(n)", "importer:Imp(o)", "load_path:lib"] ∧
      Import.Consulted "x"
        ((Resolver.relativeTo (.custom ⟨"m", "Imp(m)"⟩), some "m:main") :: rs.map (·, none))
        (threeImporters.consultations .direct
          (Import.cascade "x" (some "m:main") (some (.relativeTo (.custom ⟨"m", "Imp(m)"⟩))) rs)
          (Session.blank (K := kit) ({} : Notes)))
        (threeImporters.drive .direct
          (Import.cascade "x" (some "m:main") (some (.relativeTo (.custom ⟨"m", "Imp(m)"⟩))) rs)
          (Session.blank (K := kit) ({} : Notes))).1 ∧
      (threeImporters.consultations .direct
          (Import.cascade "x" (some "m:main") (some (.relativeTo (.custom ⟨"m", "Imp(m)"⟩))) rs)
          (Session.blank (K := kit) ({} : Notes))).map (fun x => (x.importer.label, x.base))
        = [("Imp(m)", some "m:main"), ("Imp(n)", none)] := by
  have entry : ∀ r ∈ some (Resolver.relativeTo (.custom ⟨"m", "Imp(m)"⟩)), r.kind = .entryRelative := by
    rintro _ ⟨⟩
    rfl
  refine ⟨entry, ?_⟩
  obtain ⟨rs, built, rfl, consulted⟩ := Import.first_answer_decides threeImporters .direct
    [.custom ⟨"n", "Imp(n)"⟩, .custom ⟨"o", "Imp(o)"⟩] ["", "lib"] [] none
    (some (.relativeTo (.custom ⟨"m", "Imp(m)"⟩))) entry "x" (some "m:main")
    (Session.blank (K := kit) ({} : Notes))
  exact ⟨_, built, by decide +kernel, consulted, by decide +kernel⟩

def iterationEnd : Fault := .raised { kind := "StopIteration", message := "" }

theorem iteration_end_not_passed_on :
    ∃ rs, Resolver.cascade [some (.custom ⟨"a", "Imp(a)"⟩)] [] [] none = .ok rs ∧
      (asked [("a", .raising iterationEnd, false)]).consultations .direct
          (Import.cascade "x" none none rs) (Session.blank (K := kit) ({} : Notes))
        = [⟨.custom ⟨"a", "Imp(a)"⟩, "x", none, .raises iterationEnd⟩] ∧
      ((asked [("a", .raising iterationEnd, false)]).drive .direct (Import.cascade "x" none none rs)
          (Session.blank (K := kit) ({} : Notes))).1 ≠ .error iterationEnd := by
  refine ⟨_, rfl, rfl, ?_⟩
  intro passed
  have same : (Fault.raised { kind := "RuntimeError", message := "generator raised StopIteration" })
      = iterationEnd := Except.error.inj passed
  have kind := congrArg Fault.kind same
  exact absurd kind (by decide)

end Lines

end StyleBuild
