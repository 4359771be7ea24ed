import Mathlib.Data.List.Forall2
import Mathlib.Data.List.Nodup
import StyleBuild.Proofs.Checks
import StyleBuild.Proofs.DirectoryReplies

/-!
# Package documents

A document is read exactly if it lists records of the right shape with distinct names, each with a root that
can be found, and then its packages stand in the order of the records. What is wrong with a document is a
configuration failure otherwise, except where a root is sought: a value that is no text, a malformed URL and a
path that cannot be resolved end the reading with a fault of their own. `Escapes` says which, and when.
-/

set_option autoImplicit false

namespace StyleBuild

theorem Text.exists_mem_splitAtChar_iff {sep c : Char} (other : c ≠ sep) {cs : List Char} :
    (∃ part ∈ splitAtChar sep cs, c ∈ part) ↔ c ∈ cs := by
  induction cs with
  | nil => simp [splitAtChar]
  | cons d rest ih =>
    obtain ⟨first, parts, split⟩ := List.exists_cons_of_ne_nil (splitAtChar_ne_nil sep rest)
    rw [split, List.exists_mem_cons_iff] at ih
    by_cases cut : d = sep
    · simp [splitAtChar, split, cut, other, ← ih]
    · simp [splitAtChar, split, cut, ← ih, or_assoc]

namespace Path

theorem holdsNul_ofText {s : String} : (ofText s).holdsNul = true ↔ Char.ofNat 0 ∈ s.toList := by
  have other : Char.ofNat 0 ≠ '/' := by decide
  rw [← Text.exists_mem_splitAtChar_iff other]
  simp only [holdsNul, ofText, segments, List.any_map, List.any_filter, List.any_eq_true, Function.comp_apply,
    String.toList_ofList, Bool.and_eq_true, bne_iff_ne, List.contains_iff_mem]
  constructor
  · rintro ⟨part, there, -, nul⟩
    exact ⟨part, there, nul⟩
  · rintro ⟨part, there, nul⟩
    refine ⟨part, there, ⟨List.ne_nil_of_mem nul, ?_⟩, nul⟩
    rintro rfl
    exact absurd nul (by decide)

theorem holdsNul_join {p q : Path} :
    (p / q).holdsNul = if q.isAbsolute then q.holdsNul else p.holdsNul || q.holdsNul := by
  change (join p q).holdsNul = _
  unfold join
  split
  · rfl
  · exact List.any_append

end Path

/-- Whether a fault is a failure of the configuration. -/
def Fault.IsConfiguration (f : Fault) : Prop := ∃ g, f = .failure g ∧ g.kind = .configuration

namespace Packages

variable {t : FileTree} {base : Path}

/-! ## Roots -/

/-- The root that a text names: the path of a `file:` URL, or a path below the base directory, resolved. -/
inductive Root (t : FileTree) (base : Path) : String → Path → Prop where
  | url {s : String} {u : Url} (file : Text.startsWith "file:" s = true) (split : Url.split s = .ok u) :
    Root t base s (Path.ofText (String.ofList (FileTree.dropDriveSlash (Url.unquote u.path))))
  | below {s : String} {p : Path} (other : Text.startsWith "file:" s = false)
    (real : t.realPath (base / Path.ofText (Url.unquoteText s)) = .ok p) : Root t base s p

/-- What the search for a root ends with outside the configuration failures. -/
inductive RootFault (t : FileTree) (base : Path) : Value → Fault → Prop where
  | untyped {v : Value} (text : ∀ s, v ≠ .text s) (octets : ∀ bs, v ≠ .octets bs) :
    RootFault t base v (.noAttribute v "startswith")
  | url {s : String} {m : Url.Malformed} (file : Text.startsWith "file:" s = true)
    (split : Url.split s = .error m) : RootFault t base (.text s) (.malformedUrl m)
  | below {s : String} {u : FileTree.Unresolved} (other : Text.startsWith "file:" s = false)
    (real : t.realPath (base / Path.ofText (Url.unquoteText s)) = .error u) :
    RootFault t base (.text s) (.unresolvedPath u)

theorem rootOf_of_root {s : String} {p : Path} (root : Root t base s p) : rootOf t base (.text s) = .ok p := by
  cases root with
  | url file split =>
    rw [rootOf, if_pos file, FileTree.urlToPath, split]
    exact if_pos (Url.scheme_of_file file split)
  | below other real =>
    rw [rootOf, if_neg (by simp [other]), real]

theorem rootOf_of_fault {v : Value} {f : Fault} (fault : RootFault t base v f) : rootOf t base v = .error f := by
  cases fault with
  | untyped text octets =>
    cases v with
    | text s => exact absurd rfl (text s)
    | octets bs => exact absurd rfl (octets bs)
    | _ => rfl
  | url file split =>
    rw [rootOf, if_pos file, FileTree.urlToPath, split]
  | below other real =>
    rw [rootOf, if_neg (by simp [other]), real]

theorem rootOf_cases (t : FileTree) (base : Path) (v : Value) :
    (∃ s p, v = .text s ∧ Root t base s p) ∨ (∃ f, RootFault t base v f) ∨
      (∃ bs f, v = .octets bs ∧ rootOf t base v = .error f ∧ (asConfiguration f).IsConfiguration) := by
  cases v with
  | text s =>
    cases file : Text.startsWith "file:" s with
    | true =>
      cases split : Url.split s with
      | error m => exact .inr (.inl ⟨_, .url file split⟩)
      | ok u => exact .inl ⟨s, _, rfl, .url file split⟩
    | false =>
      cases real : t.realPath (base / Path.ofText (Url.unquoteText s)) with
      | error u => exact .inr (.inl ⟨_, .below file real⟩)
      | ok p => exact .inl ⟨s, p, rfl, .below file real⟩
  | octets bs => exact .inr (.inr ⟨bs, _, rfl, rfl, _, rfl, rfl⟩)
  | _ => exact .inr (.inl ⟨_, .untyped (by simp) (by simp)⟩)

/-- The texts that name a root: a `file:` URL if it is well formed, other text if no system refuses the path
and its links do not turn in a circle. -/
def Rootable (t : FileTree) (base : Path) (s : String) : Prop :=
  if Text.startsWith "file:" s = true then ∃ u, Url.split s = .ok u
  else
    let p := Path.ofText (Url.unquoteText s)
    Char.ofNat 0 ∉ (Url.unquoteText s).toList ∧ (p.isAbsolute = false → base.holdsNul = false) ∧
      t.locate ⟨1, t.realParts (base / p)⟩ ≠ .error .loop

theorem exists_realPath_iff {p : Path} :
    (∃ q, t.realPath p = .ok q) ↔ p.holdsNul = false ∧ t.locate ⟨1, t.realParts p⟩ ≠ .error .loop := by
  unfold FileTree.realPath
  cases p.holdsNul with
  | true => simp
  | false =>
    simp only [Bool.false_eq_true, if_false, true_and]
    split
    · next circle => simp [circle]
    · next straight => simpa using straight

theorem exists_root_iff {s : String} : (∃ p, Root t base s p) ↔ Rootable t base s := by
  unfold Rootable
  cases file : Text.startsWith "file:" s with
  | true =>
    rw [if_pos rfl]
    constructor
    · rintro ⟨_, root⟩
      cases root with
      | url _ split => exact ⟨_, split⟩
      | below other _ => rw [file] at other; cases other
    · rintro ⟨u, split⟩
      exact ⟨_, .url file split⟩
  | false =>
    have resolved : (∃ p, Root t base s p) ↔ ∃ p, t.realPath (base / Path.ofText (Url.unquoteText s)) = .ok p := by
      refine exists_congr fun p => ⟨fun root => ?_, .below file⟩
      cases root with
      | url given _ => rw [file] at given; cases given
      | below _ real => exact real
    rw [resolved, exists_realPath_iff, if_neg (by decide), ← and_assoc]
    refine and_congr_left fun _ => ?_
    rw [← Path.holdsNul_ofText, Path.holdsNul_join]
    cases (Path.ofText (Url.unquoteText s)).isAbsolute <;> simp [and_comm]

/-! ## Items -/

/-- An item that describes a package. -/
structure Describes (t : FileTree) (base : Path) (item : Value) (p : Package) : Prop where
  name : item.get? "name" = some (.text p.name)
  named : p.name ≠ ""
  root : ∃ s, item.get? "rootUri" = some (.text s) ∧ Root t base s p.root
  uri : (item.get? "packageUri").getD (.text "lib/") = .text p.uri

/-- The shape of an item that describes a package. -/
structure Shaped (t : FileTree) (base : Path) (item : Value) : Prop where
  name : ∃ name, item.get? "name" = some (.text name) ∧ name ≠ ""
  root : ∃ s, item.get? "rootUri" = some (.text s) ∧ Rootable t base s
  uri : ∀ v, item.get? "packageUri" = some v → ∃ u, v = .text u

theorem exists_describes_iff {item : Value} : (∃ p, Describes t base item p) ↔ Shaped t base item := by
  constructor
  · rintro ⟨p, name, named, ⟨s, given, root⟩, uri⟩
    refine ⟨⟨p.name, name, named⟩, ⟨s, given, exists_root_iff.mp ⟨_, root⟩⟩, ?_⟩
    intro v there
    rw [there] at uri
    exact ⟨p.uri, uri⟩
  · rintro ⟨⟨name, given, named⟩, ⟨s, uri, rootable⟩, texts⟩
    obtain ⟨root, found⟩ := exists_root_iff.mpr rootable
    cases there : item.get? "packageUri" with
    | none => exact ⟨⟨name, root, "lib/"⟩, given, named, ⟨s, uri, found⟩, by rw [there]; rfl⟩
    | some v =>
      obtain ⟨u, rfl⟩ := texts v there
      exact ⟨⟨name, root, u⟩, given, named, ⟨s, uri, found⟩, by rw [there]; rfl⟩

theorem field_eq_ok_iff {item v : Value} {name : String} :
    field item name = .ok v ↔ item.get? name = some v := by
  unfold field
  split
  · split <;> simp [*]
  · split <;> simp [*]
  · next other other' =>
    cases item with
    | record fs => exact absurd rfl (other fs)
    | mapping es => exact absurd rfl (other' es)
    | _ => simp [Value.get?]

theorem configuration_of_field {item : Value} {name : String} {f : Fault} (failed : field item name = .error f) :
    (asConfiguration f).IsConfiguration := by
  have unknown : (asConfiguration (.unknownKey name)).IsConfiguration := ⟨_, rfl, rfl⟩
  unfold field at failed
  split at failed
  · split at failed <;> cases failed
    exact unknown
  · split at failed <;> cases failed
    exact unknown
  · cases failed
    exact ⟨_, rfl, rfl⟩

theorem rootOf_eq_ok_iff {v : Value} {p : Path} :
    rootOf t base v = .ok p ↔ ∃ s, v = .text s ∧ Root t base s p := by
  constructor
  · intro found
    rcases rootOf_cases t base v with ⟨s, q, rfl, root⟩ | ⟨f, fault⟩ | ⟨bs, f, -, failed, -⟩
    · rw [rootOf_of_root root, Except.ok.injEq] at found
      exact ⟨s, rfl, found ▸ root⟩
    · rw [rootOf_of_fault fault] at found
      cases found
    · rw [failed] at found
      cases found
  · rintro ⟨s, rfl, root⟩
    exact rootOf_of_root root

theorem checked_eq_ok_iff {name uri : Value} {root : Path} {p : Package} :
    ((fun n u => (⟨n, root, u⟩ : Package)) <$> (Check.nonempty name).under (.field "name")
        <*> (Check.text uri).under (.field "package_uri")).outcome = .ok p ↔
      name = .text p.name ∧ p.name ≠ "" ∧ p.root = root ∧ uri = .text p.uri := by
  simp only [Checked.seq_eq_ok_iff, Checked.map_eq_ok_iff, Checked.under_eq_ok_iff,
    Check.nonempty_eq_ok_iff, Check.text_eq_ok_iff]
  constructor
  · rintro ⟨_, u, ⟨n, ⟨rfl, named⟩, rfl⟩, rfl, rfl⟩
    exact ⟨rfl, named, rfl, rfl⟩
  · rintro ⟨rfl, named, rfl, rfl⟩
    exact ⟨_, _, ⟨_, ⟨rfl, named⟩, rfl⟩, rfl, rfl⟩

theorem ofItem_eq_ok_iff {item : Value} {p : Package} :
    ofItem t base item = .ok p ↔ Describes t base item p := by
  simp only [ofItem, bind_eq_ok_iff, field_eq_ok_iff, rootOf_eq_ok_iff]
  constructor
  · rintro ⟨name, given, uri, there, root, ⟨s, rfl, found⟩, checked⟩
    split at checked
    · next q passed =>
      obtain rfl : q = p := Except.ok.inj checked
      obtain ⟨rfl, named, rfl, package_uri⟩ := checked_eq_ok_iff.mp passed
      exact ⟨given, named, ⟨s, there, found⟩, package_uri⟩
    · cases checked
  · rintro ⟨given, named, ⟨s, there, found⟩, package_uri⟩
    refine ⟨_, given, _, there, p.root, ⟨s, rfl, found⟩, ?_⟩
    rw [checked_eq_ok_iff.mpr ⟨rfl, named, rfl, package_uri⟩]
    rfl

/-- What an item ends with outside the configuration failures. -/
def ItemFault (t : FileTree) (base : Path) (item : Value) (f : Fault) : Prop :=
  ∃ name uri, item.get? "name" = some name ∧ item.get? "rootUri" = some uri ∧ RootFault t base uri f

theorem ofItem_of_fault {item : Value} {f : Fault} (fault : ItemFault t base item f) :
    ofItem t base item = .error f := by
  obtain ⟨name, uri, named, given, sought⟩ := fault
  rw [ofItem, field_eq_ok_iff.mpr named, field_eq_ok_iff.mpr given]
  simp only [rootOf_of_fault sought, bind, Except.bind]

theorem asConfiguration_of_fault {item : Value} {f : Fault} (fault : ItemFault t base item f) :
    asConfiguration f = f ∧ ¬ f.IsConfiguration := by
  obtain ⟨_, _, -, -, sought⟩ := fault
  cases sought <;> exact ⟨rfl, fun ⟨_, same, _⟩ => by cases same⟩

/-- An item that fails does so as a configuration failure or at its root. -/
theorem fault_of_ofItem {item : Value} {f : Fault} (failed : ofItem t base item = .error f) :
    (asConfiguration f).IsConfiguration ∨ ItemFault t base item f := by
  unfold ofItem at failed
  cases named : field item "name" with
  | error e =>
    rw [named] at failed
    cases failed
    exact .inl (configuration_of_field named)
  | ok name =>
    cases given : field item "rootUri" with
    | error e =>
      rw [named, given] at failed
      cases failed
      exact .inl (configuration_of_field given)
    | ok uri =>
      rw [named, given] at failed
      rcases rootOf_cases t base uri with ⟨s, p, rfl, root⟩ | ⟨e, fault⟩ | ⟨bs, e, -, sought, configuration⟩
      · simp only [rootOf_of_root root, bind, Except.bind] at failed
        split at failed <;> cases failed
        exact .inl ⟨_, rfl, rfl⟩
      · simp only [rootOf_of_fault fault, bind, Except.bind] at failed
        cases failed
        exact .inr ⟨name, uri, field_eq_ok_iff.mp named, field_eq_ok_iff.mp given, fault⟩
      · simp only [sought, bind, Except.bind] at failed
        cases failed
        exact .inl configuration

/-! ## Documents -/

variable {fs : List (String × Value)} {items : List Value} {c : Packages} {f : Fault}

theorem get?_eq_some_iff (distinct : (c.entries.map Package.name).Nodup) {name : String} {p : Package} :
    c.get? name = some p ↔ p ∈ c.entries ∧ p.name = name := by
  constructor
  · intro found
    exact ⟨List.mem_of_find?_eq_some found, by simpa using List.find?_some found⟩
  · rintro ⟨there, rfl⟩
    cases found : c.get? p.name with
    | none => simpa using List.find?_eq_none.mp found p there
    | some q =>
      have same : q.name = p.name := by simpa using List.find?_some found
      rw [List.inj_on_of_nodup_map distinct (List.mem_of_find?_eq_some found) there same]

/-- The items that a document lists; one without the field lists none. -/
def Lists (fs : List (String × Value)) (items : List Value) : Prop :=
  fs.lookup "packages" = some (.list items) ∨ fs.lookup "packages" = none ∧ items = []

theorem repeated?_eq_none_iff {seen : List String} {entries : List Package} :
    repeated? seen entries = none ↔ (entries.map Package.name).Nodup ∧ ∀ p ∈ entries, p.name ∉ seen := by
  induction entries generalizing seen with
  | nil => simp [repeated?]
  | cons p rest ih =>
    by_cases known : p.name ∈ seen
    · simp [repeated?, known]
    · simp only [repeated?, List.contains_iff_mem, known, if_false, ih, List.mem_cons, not_or, List.map_cons,
        List.nodup_cons, List.mem_map, not_exists, not_and, forall_eq_or_imp, not_false_eq_true, true_and]
      constructor
      · rintro ⟨distinct, fresh⟩
        exact ⟨⟨fun q there => (fresh q there).1, distinct⟩, fun q there => (fresh q there).2⟩
      · rintro ⟨⟨apart, distinct⟩, fresh⟩
        exact ⟨distinct, fun q there => ⟨apart q there, fresh q there⟩⟩

/-- A configuration of packages, or the fault of a name that occurs a second time. -/
def distinct (entries : List Package) : Except Fault Packages :=
  match repeated? [] entries with
  | none => .ok ⟨entries⟩
  | some name => .error (.invalid model [⟨[], .custom ("Duplicate package name: " ++ name), .record []⟩])

theorem distinct_eq_ok_iff {entries : List Package} :
    distinct entries = .ok c ↔ entries = c.entries ∧ (entries.map Package.name).Nodup := by
  have none_twice : repeated? [] entries = none ↔ (entries.map Package.name).Nodup := by
    simp [repeated?_eq_none_iff]
  rw [← none_twice, distinct]
  cases repeated? [] entries with
  | none =>
    obtain ⟨read⟩ := c
    simp
  | some name => simp

/-- A document that lists items is read item by item; then the names are compared. -/
theorem ofDocument_of_lists (lists : Lists fs items) :
    ofDocument t (.record fs) base = (items.mapM (ofItem t base) >>= distinct).mapError asConfiguration := by
  have given : (Value.get? (.record fs) "packages").getD (.list []) = .list items := by
    rcases lists with listed | ⟨absent, rfl⟩
    · simp [Value.get?, listed]
    · simp [Value.get?, absent]
  rw [ofDocument, given]
  refine congrArg (fun next => (items.mapM (ofItem t base) >>= next).mapError asConfiguration) ?_
  funext entries
  unfold distinct ofList
  cases repeated? [] entries <;> rfl

/-- The fault of a value that is shown in a message and has no literal. -/
def unshown : Fault := .raised { kind := "ValueError", message := Integer.Problem.tooLarge.message }

/-- A value in place of a list is a configuration failure, unless it cannot even be shown. -/
theorem ofDocument_of_unlisted (t : FileTree) (base : Path) {v : Value} (given : fs.lookup "packages" = some v)
    (other : ∀ items, v ≠ .list items) :
    ∃ f, ofDocument t (.record fs) base = .error f ∧
      if Integer.allShown v then f.IsConfiguration else f = unshown := by
  have there : (Value.get? (.record fs) "packages").getD (.list []) = v := by simp [Value.get?, given]
  rw [ofDocument, there]
  split
  · next items => exact absurd rfl (other items)
  · cases shown : Integer.allShown v with
    | true => exact ⟨_, by rw [literal, shown]; rfl, _, rfl, rfl⟩
    | false => exact ⟨unshown, by rw [literal, shown]; rfl, rfl⟩

theorem lists_or_unlisted (fs : List (String × Value)) :
    (∃ items, Lists fs items) ∨ ∃ v, fs.lookup "packages" = some v ∧ ∀ items, v ≠ .list items := by
  cases given : fs.lookup "packages" with
  | none => exact .inl ⟨[], .inr ⟨given, rfl⟩⟩
  | some v =>
    by_cases listed : ∃ items, v = .list items
    · obtain ⟨items, rfl⟩ := listed
      exact .inl ⟨items, .inl given⟩
    · exact .inr ⟨v, rfl, fun items same => listed ⟨items, same⟩⟩

/-- A document is read if its items describe packages with distinct names. -/
theorem ofDocument_eq_ok_iff : ofDocument t (.record fs) base = .ok c ↔
    ∃ items, Lists fs items ∧ List.Forall₂ (Describes t base) items c.entries ∧
      (c.entries.map Package.name).Nodup := by
  have read : ∀ {items}, Lists fs items → (ofDocument t (.record fs) base = .ok c ↔
      List.Forall₂ (Describes t base) items c.entries ∧ (c.entries.map Package.name).Nodup) := by
    intro items lists
    simp only [ofDocument_of_lists lists, mapError_eq_ok_iff, bind_eq_ok_iff, mapM_eq_ok_iff, ofItem_eq_ok_iff,
      distinct_eq_ok_iff]
    constructor
    · rintro ⟨entries, described, rfl, apart⟩
      exact ⟨described, apart⟩
    · rintro ⟨described, apart⟩
      exact ⟨c.entries, described, rfl, apart⟩
  constructor
  · intro made
    rcases lists_or_unlisted fs with ⟨items, lists⟩ | ⟨v, given, other⟩
    · exact ⟨items, lists, (read lists).mp made⟩
    · obtain ⟨f, failed, -⟩ := ofDocument_of_unlisted t base given other
      rw [failed] at made
      cases made
  · rintro ⟨items, lists, described⟩
    exact (read lists).mpr described

/-- The names of the items are those of the packages they describe. -/
theorem names_eq {entries : List Package} (described : List.Forall₂ (Describes t base) items entries) :
    items.map (·.get? "name") = (entries.map Package.name).map (some ∘ .text) := by
  rw [List.map_map, ← List.forall₂_eq_eq_eq, List.forall₂_map_left_iff, List.forall₂_map_right_iff]
  exact described.imp fun _ _ describes => describes.name

theorem exists_describes_all_iff :
    (∃ entries, List.Forall₂ (Describes t base) items entries) ↔ ∀ item ∈ items, Shaped t base item := by
  induction items with
  | nil => exact ⟨fun _ => List.forall_mem_nil _, fun _ => ⟨[], .nil⟩⟩
  | cons item rest ih =>
    rw [List.forall_mem_cons, ← ih, ← exists_describes_iff]
    constructor
    · rintro ⟨_, _ | ⟨first, others⟩⟩
      exact ⟨⟨_, first⟩, ⟨_, others⟩⟩
    · rintro ⟨⟨p, first⟩, ⟨entries, others⟩⟩
      exact ⟨p :: entries, .cons first others⟩

theorem exists_ofDocument_iff : (∃ c, ofDocument t (.record fs) base = .ok c) ↔
    ∃ items, Lists fs items ∧ (∀ item ∈ items, Shaped t base item) ∧ (items.map (·.get? "name")).Nodup := by
  have apart : ∀ {names : List String}, (names.map (some ∘ Value.text)).Nodup ↔ names.Nodup :=
    List.nodup_map_iff fun _ _ same => Value.text.inj (Option.some.inj same)
  constructor
  · rintro ⟨c, made⟩
    obtain ⟨items, lists, described, distinct⟩ := ofDocument_eq_ok_iff.mp made
    refine ⟨items, lists, exists_describes_all_iff.mp ⟨_, described⟩, ?_⟩
    rwa [names_eq described, apart]
  · rintro ⟨items, lists, shaped, distinct⟩
    obtain ⟨entries, described⟩ := exists_describes_all_iff.mpr shaped
    rw [names_eq described, apart] at distinct
    exact ⟨⟨entries⟩, ofDocument_eq_ok_iff.mpr ⟨items, lists, described, distinct⟩⟩

/-- The faults of a document that are no configuration failures: the first item that fails has no root, or
what stands in place of the list has no literal. -/
inductive Escapes (t : FileTree) (base : Path) (fs : List (String × Value)) : Fault → Prop where
  | item {before after : List Value} {item : Value} {f : Fault}
    (given : fs.lookup "packages" = some (.list (before ++ item :: after)))
    (shaped : ∀ x ∈ before, Shaped t base x) (fault : ItemFault t base item f) : Escapes t base fs f
  | packages {v : Value} (given : fs.lookup "packages" = some v) (other : ∀ items, v ≠ .list items)
    (long : Integer.allShown v = false) : Escapes t base fs unshown

theorem ofDocument_of_escapes (escapes : Escapes t base fs f) :
    ofDocument t (.record fs) base = .error f ∧ ¬ f.IsConfiguration := by
  cases escapes with
  | @item before after item f given shaped fault =>
    have failed : (before ++ item :: after).mapM (ofItem t base) = .error f := by
      refine mapM_eq_error_iff.mpr ⟨before, item, after, rfl, fun x there => ?_, ofItem_of_fault fault⟩
      obtain ⟨p, describes⟩ := exists_describes_iff.mpr (shaped x there)
      exact ⟨p, ofItem_eq_ok_iff.mpr describes⟩
    obtain ⟨same, escaped⟩ := asConfiguration_of_fault fault
    rw [ofDocument_of_lists (.inl given), failed]
    exact ⟨congrArg Except.error same, escaped⟩
  | packages given other long =>
    obtain ⟨f, failed, reason⟩ := ofDocument_of_unlisted t base given other
    rw [long] at reason
    obtain rfl : f = unshown := reason
    exact ⟨failed, fun ⟨_, same, _⟩ => by cases same⟩

theorem escapes_of_ofDocument (failed : ofDocument t (.record fs) base = .error f) :
    f.IsConfiguration ∨ Escapes t base fs f := by
  rcases lists_or_unlisted fs with ⟨items, lists⟩ | ⟨v, given, other⟩
  · rw [ofDocument_of_lists lists] at failed
    cases read : items.mapM (ofItem t base) with
    | ok entries =>
      rw [read] at failed
      change (distinct entries).mapError asConfiguration = .error f at failed
      unfold distinct at failed
      split at failed <;> cases failed
      exact .inl ⟨_, rfl, rfl⟩
    | error e =>
      rw [read] at failed
      cases failed
      obtain ⟨before, item, after, rfl, done, stopped⟩ := mapM_eq_error_iff.mp read
      rcases fault_of_ofItem stopped with configuration | fault
      · exact .inl configuration
      · rw [(asConfiguration_of_fault fault).1]
        rcases lists with given | ⟨-, nothing⟩
        · refine .inr (.item given (fun x there => ?_) fault)
          obtain ⟨p, described⟩ := done x there
          exact exists_describes_iff.mp ⟨p, ofItem_eq_ok_iff.mp described⟩
        · simp at nothing
  · obtain ⟨e, stopped, reason⟩ := ofDocument_of_unlisted t base given other
    obtain rfl : e = f := Except.error.inj (stopped.symm.trans failed)
    cases long : Integer.allShown v with
    | true =>
      rw [long] at reason
      exact .inl reason
    | false =>
      rw [long] at reason
      obtain rfl : e = unshown := reason
      exact .inr (.packages given other long)

/-- A document of packages is read exactly if it lists items of the right shape with distinct names. Its packages
are then those the items describe, in their order, each found by its name. Otherwise it is a configuration
failure, unless the fault is one of those that escape. -/
theorem package_document_read (t : FileTree) (fs : List (String × Value)) (base : Path) :
    (∀ c, ofDocument t (.record fs) base = .ok c ↔ ∃ items, Lists fs items ∧
      List.Forall₂ (Describes t base) items c.entries ∧ (c.entries.map Package.name).Nodup) ∧
    (∀ c, ofDocument t (.record fs) base = .ok c → ∀ name p,
      c.get? name = some p ↔ p ∈ c.entries ∧ p.name = name) ∧
    ((∃ c, ofDocument t (.record fs) base = .ok c) ↔ ∃ items, Lists fs items ∧
      (∀ item ∈ items, Shaped t base item) ∧ (items.map (·.get? "name")).Nodup) ∧
    (∀ f, ofDocument t (.record fs) base = .error f ∧ ¬ f.IsConfiguration ↔ Escapes t base fs f) := by
  refine ⟨fun c => ofDocument_eq_ok_iff, fun c made name p => ?_, exists_ofDocument_iff, fun f => ?_⟩
  · obtain ⟨items, -, -, distinct⟩ := ofDocument_eq_ok_iff.mp made
    exact get?_eq_some_iff distinct
  · exact ⟨fun ⟨failed, escaped⟩ => (escapes_of_ofDocument failed).resolve_left escaped, ofDocument_of_escapes⟩

end Packages

namespace Lines

open Packages

/-- A document with a root of each kind. -/
def twoPackages : List (String × Value) :=
  [("packages", .list [.record [("name", .text "icons"), ("rootUri", .text "file:icons")],
    .record [("rootUri", .text "theme"), ("name", .text "theme"), ("packageUri", .text "src/")]])]

def iconsAndTheme : Packages := ⟨[⟨"icons", ⟨0, ["icons"]⟩, "lib/"⟩, ⟨"theme", ⟨1, ["theme"]⟩, "src/"⟩]⟩

theorem icons_root : Packages.Root themeTree ⟨0, []⟩ "file:icons" ⟨0, ["icons"]⟩ := by
  have split : Url.split "file:icons" = .ok ⟨"file".toList, "icons".toList⟩ := rfl
  have root : Packages.Root themeTree ⟨0, []⟩ "file:icons" _ := .url (by decide) split
  have named : Path.ofText (String.ofList (FileTree.dropDriveSlash (Url.unquote "icons".toList)))
      = ⟨0, ["icons"]⟩ := by decide +kernel
  exact named ▸ root

theorem theme_root : Packages.Root themeTree ⟨0, []⟩ "theme" ⟨1, ["theme"]⟩ := by
  have named : (⟨0, []⟩ : Path) / Path.ofText (Url.unquoteText "theme") = ⟨0, ["theme"]⟩ := by decide +kernel
  have proper : FileTree.Proper "theme" := ⟨by decide, by decide, by decide⟩
  refine .below (by decide) ?_
  rw [named, themeTree_linkless.realPath proper.holdsNul, themeTree_linkless.realParts_name rfl proper]

theorem two_packages_read : ofDocument themeTree (.record twoPackages) ⟨0, []⟩ = .ok iconsAndTheme ∧
    ∀ name p, iconsAndTheme.get? name = some p ↔ p ∈ iconsAndTheme.entries ∧ p.name = name := by
  obtain ⟨read, found, -, -⟩ := package_document_read themeTree twoPackages ⟨0, []⟩
  have made : ofDocument themeTree (.record twoPackages) ⟨0, []⟩ = .ok iconsAndTheme := by
    refine (read iconsAndTheme).mpr ⟨_, .inl rfl, .cons ?_ (.cons ?_ .nil), by decide⟩
    · exact ⟨rfl, by decide, ⟨_, rfl, icons_root⟩, rfl⟩
    · exact ⟨rfl, by decide, ⟨_, rfl, theme_root⟩, rfl⟩
  exact ⟨made, found iconsAndTheme made⟩

/-- A number in place of a root is not reported as a failure of the configuration. -/
theorem number_root_escapes :
    ofDocument themeTree (.record [("packages", .list [.record [("name", .text "a"), ("rootUri", .int 5)]])]) ⟨0, []⟩
      = .error (.noAttribute (.int 5) "startswith") ∧
    ¬ (Fault.noAttribute (.int 5) "startswith").IsConfiguration :=
  ⟨rfl, fun ⟨_, same, _⟩ => by cases same⟩

end Lines

end StyleBuild
