import StyleBuild.Compile.Api
import StyleBuild.Proofs.Cascade
import StyleBuild.Proofs.Checks
import StyleBuild.Proofs.PathText

/-!
# Load paths of a request

Texts that name directories reach the resolvers as they are, or through a request, which makes paths of
them first. An empty text names no directory, but as a path it is the current one: a request searches the
current directory where the texts themselves name none.
-/

set_option autoImplicit false

namespace StyleBuild

theorem Path.toText_ne_empty {p : Path} (regular : p.Regular) : p.toText ≠ "" := by
  intro empty
  have read := ofText_toText regular
  rw [empty] at read
  rw [← read] at empty
  exact absurd empty (by decide)

theorem Packages.tuple_texts (ls : List String) :
    Check.tuple checkPath (.texts ls) = ⟨.ok (ls.map Path.ofText)⟩ := by
  have passed : (Check.items checkPath 0 (ls.map .text)).outcome = .ok (ls.map Path.ofText) := by
    rw [Check.items_eq_ok_iff, List.forall₂_map_left_iff, List.forall₂_map_right_iff]
    exact List.forall₂_same.mpr fun _ _ => rfl
  exact congrArg Checked.mk passed

/-! ## The paths of a request -/

namespace Request

variable {os : List (String × Argument)} {ls es : List String} {r : Request}

/-- Each text given for a directory becomes a path, the empty ones too. -/
theorem plain_load_paths (loads : os.lookup "load_paths" = some (.value (.texts ls))) :
    plain os "load_paths" [] (Check.tuple Packages.checkPath) = ⟨.ok (ls.map Path.ofText)⟩ := by
  rw [plain, option, loads]
  change (Check.tuple Packages.checkPath (.texts ls)).under _ = _
  rw [Packages.tuple_texts]
  rfl

theorem plain_environment_paths (environs : os.lookup "environment_load_paths" = some (.value (.texts es))) :
    plain os "environment_load_paths" none (Check.optional (Check.tuple Packages.checkPath))
      = ⟨.ok (some (es.map Path.ofText))⟩ := by
  rw [plain, option, environs]
  change (some <$> Check.tuple Packages.checkPath (.texts es)).under _ = _
  rw [Packages.tuple_texts]
  rfl

theorem paths_of_checkOptions : ∀ r, (checkOptions os).outcome = .ok r →
    (plain os "load_paths" [] (Check.tuple Packages.checkPath)).outcome = .ok r.loadPaths ∧
      (plain os "environment_load_paths" none (Check.optional (Check.tuple Packages.checkPath))).outcome
        = .ok r.environmentPaths := by
  unfold checkOptions
  iterate 15 refine Checked.forall_seq_ok ?_
  refine Checked.forall_map_ok ?_
  intros
  exact ⟨‹_›, ‹_›⟩

theorem paths_of_ofOptions (loads : os.lookup "load_paths" = some (.value (.texts ls)))
    (environs : os.lookup "environment_load_paths" = some (.value (.texts es)))
    (built : ofOptions os = .ok r) :
    r.loadPaths = ls.map Path.ofText ∧ r.environmentPaths = some (es.map Path.ofText) := by
  obtain ⟨made, options, consistent⟩ := Checked.andThen_eq_ok_iff.mp (mapError_eq_ok_iff.mp built)
  obtain rfl : made = r := by
    split at consistent
    · cases consistent
    · exact Except.ok.inj consistent
  obtain ⟨load_paths, environment_paths⟩ := paths_of_checkOptions _ options
  rw [plain_load_paths loads, Except.ok.injEq] at load_paths
  rw [plain_environment_paths environs, Except.ok.injEq] at environment_paths
  exact ⟨load_paths.symm, environment_paths.symm⟩

end Request

/-! ## The request of a compile function -/

namespace Operation

variable {o : Operation} {os passed : List (String × Argument)} {ls es : List String} {r : Request}

theorem lookup_filter_of_kept (name : String) (keep : String × Argument → Bool)
    (kept : ∀ a, keep (name, a) = true) (os : List (String × Argument)) :
    (os.filter keep).lookup name = os.lookup name := by
  induction os with
  | nil => rfl
  | cons x rest ih =>
    obtain ⟨other, a⟩ := x
    by_cases same : name = other
    · subst same
      simp [kept]
    · have next : (name == other) = false := by simpa using same
      by_cases there : keep (other, a) = true
      · simp [there, List.lookup_cons, next, ih]
      · simp [there, List.lookup_cons, next, ih]

/-- An older function passes on the options that are not its own. -/
theorem lookup_modernize (modern : o.modernize os = .ok passed) {name : String}
    (others : name ∉ ["source_map", "indented", "syntax"]) : passed.lookup name = os.lookup name := by
  simp only [List.mem_cons, List.not_mem_nil, or_false, not_or] at others
  obtain ⟨map, indented, dialect⟩ := others
  have marked : ∀ a : Argument, [("source_map", a)].lookup name = none := by
    intro a
    rw [List.lookup_cons, beq_false_of_ne map]
    rfl
  have dialect : (name == "syntax") = false := by simpa using dialect
  unfold modernize at modern
  cases text : o.ofText with
  | true =>
    simp only [text, if_true, bind_eq_ok_iff, pure, Except.pure, Except.ok.injEq] at modern
    obtain ⟨hint, hinted, rfl⟩ := modern
    have unhinted : hint.lookup name = none := by
      cases shown : dialectHint (given os "syntax") (!(given os "indented").isFalsy) with
      | error f => simp [shown, Functor.map, Except.map] at hinted
      | ok v =>
        simp only [shown, Functor.map, Except.map, Except.ok.injEq] at hinted
        simp [← hinted, List.lookup_cons, dialect]
    have kept := lookup_filter_of_kept name
      (fun x => !List.contains ["source_map", "indented", "syntax"] x.1) (by simp [*]) os
    rw [List.lookup_append, List.lookup_append, unhinted, marked, kept]
    rfl
  | false =>
    simp only [text, pure, Except.pure, Bool.false_eq_true, if_false, bind_eq_ok_iff, Except.ok.injEq] at modern
    obtain ⟨_, rfl, rfl⟩ := modern
    have kept := lookup_filter_of_kept name (fun x => !List.contains ["source_map"] x.1) (by simp [*]) os
    rw [List.nil_append, List.lookup_append, marked, kept]
    rfl

/-- The options that a compile function makes a request of have its load paths as they were given. -/
theorem options_of_requestOf {entry : Value} (loads : os.lookup "load_paths" = some (.value (.texts ls)))
    (environs : os.lookup "environment_load_paths" = some (.value (.texts es)))
    (built : o.requestOf entry os = .ok r) :
    ∃ options, Request.ofOptions options = .ok r ∧
      options.lookup "load_paths" = some (.value (.texts ls)) ∧
      options.lookup "environment_load_paths" = some (.value (.texts es)) := by
  have named : (given os "environment_load_paths").isNull = false := by
    simp only [given, environs]
    rfl
  have listed : ∀ ls, itemsOf (.value (.texts ls)) = .ok (.value (.texts ls)) := fun _ => rfl
  unfold requestOf at built
  split at built
  · cases built
  · simp only [bind_eq_ok_iff, loads, environs, named, Bool.false_eq_true, if_false, Option.getD_some,
      listed, Except.ok.injEq, exists_eq_left'] at built
    obtain ⟨⟨key, given_entry⟩, entered, importers, -, functions, -, made⟩ := built
    have entry_key : key = o.entryName := by
      unfold entryOption at entered
      split at entered
      · exact (Prod.mk.inj (Except.ok.inj entered)).1.symm
      · cases entered
      · exact (Prod.mk.inj (Except.ok.inj entered)).1.symm
    have other : ∀ name ∈ ["load_paths", "environment_load_paths"], (name == key) = false := by
      rw [entry_key, entryName]
      split <;> decide
    refine ⟨_, made, ?_, ?_⟩
    · simp [List.lookup_cons, other]
    · simp [List.lookup_cons, other]

/-- The load paths of a request are those that the function was given, each as a path. -/
theorem paths_of_request {entry : Value} (loads : os.lookup "load_paths" = some (.value (.texts ls)))
    (environs : os.lookup "environment_load_paths" = some (.value (.texts es)))
    (built : o.request entry os = .ok r) :
    r.loadPaths = ls.map Path.ofText ∧ r.environmentPaths = some (es.map Path.ofText) := by
  obtain ⟨passed, made, same⟩ : ∃ passed, o.requestOf entry passed = .ok r ∧
      ∀ name ∉ ["source_map", "indented", "syntax"], passed.lookup name = os.lookup name := by
    unfold request at built
    split at built
    · obtain ⟨passed, modern, made⟩ := bind_eq_ok_iff.mp built
      exact ⟨passed, made, fun _ others => lookup_modernize modern others⟩
    · exact ⟨os, built, fun _ _ => rfl⟩
  rw [← same _ (by decide)] at loads environs
  obtain ⟨options, read, loads, environs⟩ := options_of_requestOf loads environs made
  exact Request.paths_of_ofOptions loads environs read

end Operation

/-! ## The resolvers of a request -/

/-- What resolvers ask, in order, each with its place in the cascade. -/
def places (rs : List Resolver) : List (ResolverKind × Importer) := rs.map fun r => (r.kind, r.importer)

/-- What the resolvers of one kind ask, in order. -/
def searched (kind : ResolverKind) (rs : List Resolver) : List Importer :=
  ((places rs).filter fun x => x.1 = kind).map Prod.snd

theorem searched_eq_of_places {rs rs' : List Resolver} (same : places rs = places rs') (kind : ResolverKind) :
    searched kind rs = searched kind rs' := by
  rw [searched, same, searched]

/-- The importer that searches the directory a text stands for. -/
def directoryOf (path : String) : Importer := .directory (Path.ofText path)

/-- A text as it comes out of a request. -/
def throughPath (path : String) : String := (Path.ofText path).toText

theorem directoryOf_throughPath (path : String) : directoryOf (throughPath path) = directoryOf path := by
  rw [directoryOf, throughPath, Path.ofText_toText (Path.regular_ofText path), directoryOf]

theorem filter_throughPath (paths : List String) :
    (paths.map throughPath).filter (· ≠ "") = paths.map throughPath := by
  rw [List.filter_eq_self]
  intro text there
  obtain ⟨path, -, rfl⟩ := List.mem_map.mp there
  exact decide_eq_true (Path.toText_ne_empty (Path.regular_ofText path))

/-- A request searches what every text stands for. -/
theorem map_filter_throughPath (paths : List String) :
    ((paths.map throughPath).filter (· ≠ "")).map directoryOf = paths.map directoryOf := by
  rw [filter_throughPath, List.map_map]
  exact List.map_congr_left fun path _ => directoryOf_throughPath path

/-- No text is lost exactly if none is empty. -/
theorem map_filter_eq_map_iff {paths : List String} :
    (paths.filter (· ≠ "")).map directoryOf = paths.map directoryOf ↔ "" ∉ paths := by
  constructor
  · intro same there
    have count : (paths.filter (· ≠ "")).length = paths.length := by simpa using congrArg List.length same
    have kept : "" ∈ paths.filter (· ≠ "") := by rwa [List.filter_sublist.eq_of_length count]
    exact of_decide_eq_true (List.mem_filter.mp kept).2 rfl
  · intro absent
    have kept : paths.filter (· ≠ "") = paths :=
      List.filter_eq_self.mpr fun path there => decide_eq_true fun empty => absent (empty ▸ there)
    rw [kept]

namespace Resolver

theorem places_listed (importers : List Importer) (ls es : List String) (packages : Option Importer) :
    places (listed importers ls es packages)
      = importers.map (.explicit, ·) ++ ((ls.filter (· ≠ "")).map directoryOf).map (.loadPath, ·)
        ++ ((es.filter (· ≠ "")).map directoryOf).map (.environment, ·)
        ++ packages.toList.map (.package, ·) := by
  simp only [places, listed, List.map_append, List.map_map]
  rfl

theorem searched_listed (kind : ResolverKind) (importers : List Importer) (ls es : List String)
    (packages : Option Importer) :
    searched kind (listed importers ls es packages) = match kind with
      | .entryRelative => []
      | .explicit => importers
      | .loadPath => (ls.filter (· ≠ "")).map directoryOf
      | .environment => (es.filter (· ≠ "")).map directoryOf
      | .package => packages.toList := by
  rw [searched, places_listed]
  cases kind <;> simp [List.filter_map, Function.comp_def]

end Resolver

theorem Request.resolvers_eq {r : Request} {ls es : List String} (loads : r.loadPaths = ls.map Path.ofText)
    (environs : r.environmentPaths = some (es.map Path.ofText)) (environ : List (String × String)) :
    r.resolvers environ = .ok (Resolver.listed r.importers (ls.map throughPath) (es.map throughPath)
      (r.packages.map .packages)) := by
  unfold resolvers
  rw [environs, loads]
  simp only [pure_bind, List.map_map]
  exact Resolver.cascade_eq _ _ _ _

namespace Operation

theorem exists_request (o : Operation) (entry : String) (ls es : List String) :
    ∃ r, o.request (.text entry) [("load_paths", .value (.texts ls)),
      ("environment_load_paths", .value (.texts es))] = .ok r := by
  obtain ⟨ofText, mode, legacy⟩ := o
  cases ofText <;> cases legacy
  all_goals
    apply Exists.intro
    change (Request.check _).outcome.mapError Request.invalid = _
    rw [Request.check, Request.checkOptions, Request.plain_load_paths rfl, Request.plain_environment_paths rfl]
    rfl

/-- The resolvers of a request search a directory for every text that a function is given, the current one
for an empty text, where the texts themselves name none. So a request asks what they ask exactly if no text
is empty. -/
theorem requested_directories (o : Operation) (ls es : List String) :
    (∀ entry : String, ∃ r, o.request (.text entry) [("load_paths", .value (.texts ls)),
      ("environment_load_paths", .value (.texts es))] = .ok r) ∧
    ∀ (entry : Value) (os : List (String × Argument)) (r : Request),
      os.lookup "load_paths" = some (.value (.texts ls)) →
      os.lookup "environment_load_paths" = some (.value (.texts es)) →
      o.request entry os = .ok r → ∀ environ, ∃ rs direct, r.resolvers environ = .ok rs ∧
        Resolver.cascade (r.importers.map some) ls es (r.packages.map .packages) = .ok direct ∧
        searched .loadPath rs = ls.map directoryOf ∧ searched .environment rs = es.map directoryOf ∧
        searched .loadPath direct = (ls.filter (· ≠ "")).map directoryOf ∧
        searched .environment direct = (es.filter (· ≠ "")).map directoryOf ∧
        (places rs = places direct ↔ "" ∉ ls ∧ "" ∉ es) := by
  refine ⟨fun entry => o.exists_request entry ls es, ?_⟩
  intro entry os r loads environs built environ
  obtain ⟨load_paths, environment_paths⟩ := paths_of_request loads environs built
  refine ⟨_, _, Request.resolvers_eq load_paths environment_paths environ, Resolver.cascade_eq _ _ _ _, ?_⟩
  simp only [Resolver.searched_listed, map_filter_throughPath, true_and]
  constructor
  · intro same
    have loads := searched_eq_of_places same .loadPath
    have environs := searched_eq_of_places same .environment
    simp only [Resolver.searched_listed, map_filter_throughPath] at loads environs
    exact ⟨map_filter_eq_map_iff.mp loads.symm, map_filter_eq_map_iff.mp environs.symm⟩
  · rintro ⟨filled, filled'⟩
    rw [Resolver.places_listed, Resolver.places_listed, map_filter_throughPath, map_filter_throughPath,
      map_filter_eq_map_iff.mpr filled, map_filter_eq_map_iff.mpr filled']

/-- The function that compiles a file, with a full result. -/
def ofFile : Operation := ⟨false, .direct, false⟩

theorem requested_beside_lib : ∃ r, ofFile.request (.text "a.scss") [("load_paths", .value (.texts ["", "lib"])),
      ("environment_load_paths", .value (.texts []))] = .ok r ∧
    ∀ environ, ∃ rs direct, r.resolvers environ = .ok rs ∧
      Resolver.cascade (r.importers.map some) ["", "lib"] [] (r.packages.map .packages) = .ok direct ∧
      searched .loadPath rs = [directoryOf ".", directoryOf "lib"] ∧
      searched .loadPath direct = [directoryOf "lib"] ∧ places rs ≠ places direct := by
  obtain ⟨made, each⟩ := requested_directories ofFile ["", "lib"] []
  obtain ⟨r, built⟩ := made "a.scss"
  refine ⟨r, built, fun environ => ?_⟩
  obtain ⟨rs, direct, requested, given, loads, -, named, -, alike⟩ :=
    each (.text "a.scss") _ r rfl rfl built environ
  exact ⟨rs, direct, requested, given, loads, named, fun same => absurd (alike.mp same).1 (by decide)⟩

/-- A request for an empty text searches the current directory. -/
theorem empty_path_searched : ∃ r rs, ofFile.request (.text "a.scss") [("load_paths", .value (.texts [""])),
      ("environment_load_paths", .value (.texts []))] = .ok r ∧
    r.resolvers [] = .ok rs ∧ searched .loadPath rs = [directoryOf "."] ∧
    Resolver.cascade [] [""] [] none = .ok [] :=
  ⟨_, _, rfl, rfl, rfl, rfl⟩

end Operation

end StyleBuild
