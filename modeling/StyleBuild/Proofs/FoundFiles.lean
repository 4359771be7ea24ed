import StyleBuild.Proofs.FileUrls
import StyleBuild.Proofs.LookupRules
import StyleBuild.Import.Packages

/-!
# Files that are found

A path that stands for a file stands for one next to it or inside of it, whose name shows a dialect. The file is
at a place that directories lead to, and this place is what its URL names, whatever links were followed on the
way. Text and dialect are taken from the path that was found, not from the place.
-/

set_option autoImplicit false

namespace StyleBuild

/-! ## Texts of paths -/

namespace Path

theorem toText_concat (slashes : Nat) (parts : List String) (w : String) :
    toText ⟨slashes, parts ++ [w]⟩
      = (if parts = [] then String.ofList (List.replicate slashes '/')
          else toText ⟨slashes, parts⟩ ++ "/") ++ w := by
  by_cases none_before : parts = []
  · simp [toText, none_before]
  · have apart : "/".intercalate (parts ++ [w]) = "/".intercalate parts ++ "/" ++ w := by
      rw [String.intercalate_append_of_ne_nil none_before (by simp), String.intercalate_singleton]
    simp [toText, none_before, apart, String.append_assoc]

theorem size_le_concat (slashes : Nat) (parts : List String) {w : String} (nonempty : w ≠ "") :
    (toText ⟨slashes, parts⟩).utf8ByteSize ≤ (toText ⟨slashes, parts ++ [w]⟩).utf8ByteSize := by
  have positive : w.utf8ByteSize ≠ 0 := mt String.utf8ByteSize_eq_zero_iff.mp nonempty
  rw [toText_concat, String.utf8ByteSize_append]
  by_cases none_before : parts = []
  · by_cases relative : slashes = 0
    · have point : (toText ⟨slashes, parts⟩).utf8ByteSize = 1 := by
        rw [relative, none_before]
        rfl
      omega
    · have front : toText ⟨slashes, parts⟩ = String.ofList (List.replicate slashes '/') := by
        simp [toText, relative, none_before]
      rw [front, if_pos none_before]
      omega
  · rw [if_neg none_before, String.utf8ByteSize_append]
    omega

end Path

namespace FileTree

variable {t : FileTree} {here rest dir site : List String} {name w : String} {n : Nat}
variable {bytes : List UInt8} {e : Entry}

/-! ## Ways of directories -/

/-- Directories all the way. -/
structure Open (t : FileTree) (dir : List String) : Prop where
  names : ∀ w ∈ dir, w ≠ ".." ∧ w ≠ "." ∧ ¬ maxName < w.utf8ByteSize
  dirs : ∀ before, before <+: dir → t.find? before = some .dir

namespace Open

theorem nil (t : FileTree) : t.Open [] where
  names := by simp
  dirs before front := by
    rw [List.prefix_nil.mp front]
    rfl

theorem of_prefix (opened : t.Open dir) {before : List String} (front : before <+: dir) :
    t.Open before where
  names w there := opened.names w (front.subset there)
  dirs way shorter := opened.dirs way (shorter.trans front)

theorem concat (opened : t.Open dir) (up : name ≠ "..") (point : name ≠ ".")
    (short : ¬ maxName < name.utf8ByteSize) (entry : t.find? (dir ++ [name]) = some .dir) :
    t.Open (dir ++ [name]) where
  names w there := by
    rcases List.mem_append.mp there with earlier | last
    · exact opened.names w earlier
    · rw [List.mem_singleton.mp last]
      exact ⟨up, point, short⟩
  dirs before front := by
    rcases List.prefix_concat_iff.mp front with rfl | shorter
    · exact entry
    · exact opened.dirs before shorter

theorem walk (opened : t.Open (here ++ dir)) (n : Nat) (rest : List String) :
    t.walk n here (dir ++ rest) = t.walk n (here ++ dir) rest := by
  induction dir generalizing here with
  | nil => rw [List.append_nil, List.nil_append]
  | cons w more ih =>
    obtain ⟨up, point, short⟩ := opened.names w (by simp)
    have entry : t.find? (here ++ [w]) = some .dir := opened.dirs _ ⟨more, by simp⟩
    have onward : here ++ w :: more = here ++ [w] ++ more := by simp
    rw [onward] at opened ⊢
    rw [← ih opened, List.cons_append, FileTree.walk]
    simp only [up, point, short, entry, if_false]

end Open

/-- A file in a directory that directories lead to. -/
structure Keeps (t : FileTree) (dir : List String) (name : String) (bytes : List UInt8) : Prop where
  opened : t.Open dir
  moving : name ≠ ".." ∧ name ≠ "."
  short : ¬ maxName < name.utf8ByteSize
  entry : t.find? (dir ++ [name]) = some (.file bytes)

namespace Open

/-- A walk that ends at an entry ends at a directory that is open or at a file in one. -/
theorem of_walk (opened : t.Open here) (found : t.walk n here rest = .ok (site, some e)) :
    e = .dir ∧ t.Open site ∨
      ∃ dir name bytes, site = dir ++ [name] ∧ e = .file bytes ∧ t.Keeps dir name bytes := by
  fun_induction t.walk n here rest with
  | case1 n here =>
    obtain ⟨rfl, entry⟩ := Prod.mk.inj (Except.ok.inj found)
    have directory := opened.dirs here (List.prefix_refl here)
    rw [directory] at entry
    exact .inl ⟨(Option.some.inj entry).symm, opened⟩
  | case2 n here rest ih => exact ih (opened.of_prefix (List.dropLast_prefix here)) found
  | case3 n here rest _ ih => exact ih opened found
  | case4 => cases found
  | case5 => cases found
  | case6 => cases found
  | case7 n here name up point short bytes entry =>
    cases found
    exact .inr ⟨here, name, bytes, rfl, rfl, opened, ⟨up, point⟩, short, entry⟩
  | case8 => cases found
  | case9 n here name rest up point short entry ih =>
    exact ih (opened.concat up point short entry) found
  | case10 => cases found
  | case11 here name rest _ _ _ target _ n ih =>
    refine ih ?_ found
    split
    · exact nil t
    · exact opened

/-- A walk to an entry comes to the directory that its last segment is looked for in. -/
theorem walk_concat (opened : t.Open here) (found : t.walk n here (rest ++ [w]) = .ok (site, some e)) :
    ∃ m dir, t.walk n here rest = .ok (dir, some .dir) ∧ t.walk m dir [w] = .ok (site, some e) := by
  fun_induction t.walk n here rest with
  | case1 n here =>
    exact ⟨n, here, by rw [opened.dirs here (List.prefix_refl here)], found⟩
  | case2 n here rest ih =>
    rw [List.cons_append, FileTree.walk, if_pos rfl] at found
    exact ih (opened.of_prefix (List.dropLast_prefix here)) found
  | case3 n here rest up ih =>
    rw [List.cons_append, FileTree.walk, if_neg up, if_pos rfl] at found
    exact ih opened found
  | case4 n here name rest up point long =>
    rw [List.cons_append, FileTree.walk, if_neg up, if_neg point, if_pos long] at found
    cases found
  | case5 n here name up point short absent =>
    simp [FileTree.walk, up, point, short, absent] at found
  | case6 n here name rest up point short absent =>
    simp [FileTree.walk, up, point, short, absent] at found
  | case7 n here name up point short bytes entry =>
    simp [FileTree.walk, up, point, short, entry] at found
  | case8 n here name rest up point short bytes entry =>
    simp [FileTree.walk, up, point, short, entry] at found
  | case9 n here name rest up point short entry ih =>
    simp only [List.cons_append, FileTree.walk, up, point, short, entry, if_false] at found
    exact ih (opened.concat up point short entry) found
  | case10 here name rest up point short target entry =>
    simp [FileTree.walk, up, point, short, entry] at found
  | case11 here name rest up point short target entry n ih =>
    simp only [List.cons_append, FileTree.walk, up, point, short, entry, if_false,
      ← List.append_assoc] at found
    refine ih ?_ found
    split
    · exact nil t
    · exact opened

end Open

/-! ## Names of places -/

theorem segment_of_mem_steps {target : String} (there : w ∈ Path.steps target) :
    w = "." ∨ Path.Segment w := by
  have kept : ∀ part ∈ (Text.splitAtChar '/' target.toList).filter (· != []),
      String.ofList part = "." ∨ Path.Segment (String.ofList part) := by
    intro part listed
    rw [List.mem_filter, bne_iff_ne] at listed
    by_cases point : part = ['.']
    · exact .inl (by rw [point])
    · have segment : String.ofList part ∈ Path.segments target.toList :=
        List.mem_map.mpr ⟨part, by simp [listed.1, listed.2, point], rfl⟩
      exact .inr (Path.segment_of_mem segment)
  dsimp only [Path.steps] at there
  obtain ⟨part, listed, rfl⟩ := List.mem_map.mp there
  split at listed
  · rcases List.mem_append.mp listed with earlier | last
    · exact kept part earlier
    · exact .inl (by rw [List.mem_singleton.mp last])
  · exact kept part listed

variable {Q : String → Prop}

/-- The place where a walk ends has names of the sort that the walk is given, if links have no others. -/
theorem names_of_walk (links : ∀ parts target, t.find? parts = some (.link target) →
      ∀ w ∈ Path.steps target, w = "." ∨ Q w)
    (start : ∀ w ∈ here, Q w) (onward : ∀ w ∈ rest, w = "." ∨ Q w) {found : Option Entry}
    (ended : t.walk n here rest = .ok (site, found)) : ∀ w ∈ site, Q w := by
  have concat : ∀ {here : List String} {name : String}, (∀ w ∈ here, Q w) → name ≠ "." →
      (name = "." ∨ Q name) → ∀ w ∈ here ++ [name], Q w := by
    intro here name start point last w there
    rcases List.mem_append.mp there with earlier | same
    · exact start w earlier
    · rw [List.mem_singleton.mp same]
      exact last.resolve_left point
  fun_induction t.walk n here rest with
  | case1 =>
    obtain ⟨rfl, -⟩ := Prod.mk.inj (Except.ok.inj ended)
    exact start
  | case2 n here rest ih =>
    rw [List.forall_mem_cons] at onward
    exact ih (fun w there => start w (List.dropLast_subset here there)) onward.2 ended
  | case3 n here rest _ ih =>
    rw [List.forall_mem_cons] at onward
    exact ih start onward.2 ended
  | case4 => cases ended
  | case5 n here name up point =>
    cases ended
    exact concat start point (onward name List.mem_cons_self)
  | case6 => cases ended
  | case7 n here name up point =>
    cases ended
    exact concat start point (onward name List.mem_cons_self)
  | case8 => cases ended
  | case9 n here name rest up point short entry ih =>
    rw [List.forall_mem_cons] at onward
    exact ih (concat start point onward.1) onward.2 ended
  | case10 => cases ended
  | case11 here name rest _ _ _ target linked n ih =>
    rw [List.forall_mem_cons] at onward
    refine ih ?_ ?_ ended
    · split
      · simp
      · exact start
    · intro w there
      rcases List.mem_append.mp there with step | later
      · exact links _ target linked w step
      · exact onward.2 w later

/-! ## Located files -/

variable {p : Path}

theorem keeps_of_locate (located : t.locate p = .ok (site, some (.file bytes))) :
    ∃ dir name, site = dir ++ [name] ∧ t.Keeps dir name bytes := by
  unfold locate at located
  split at located
  · cases located
  · rcases (Open.nil t).of_walk located with ⟨file, -⟩ | ⟨dir, name, bytes', rfl, file, kept⟩
    · cases file
    · cases file
      exact ⟨dir, name, rfl, kept⟩

/-- The whole text and the last segment are not too long for a system. -/
def Fits (p : Path) : Prop := p.name.utf8ByteSize ≤ maxName ∧ p.toText.utf8ByteSize < maxText

instance (p : Path) : Decidable (Fits p) := inferInstanceAs (Decidable (_ ∧ _))

/-- In a directory that is open, a name leads to its own entry. -/
theorem Open.locate_name (opened : t.Open dir) (moving : w ≠ ".." ∧ w ≠ ".")
    (unlinked : ∀ target, t.find? (dir ++ [w]) ≠ some (.link target)) (aimed : t.absolute p = dir ++ [w])
    (named : p.name = w) :
    t.locate p = if Fits p then .ok (dir ++ [w], t.find? (dir ++ [w])) else .error .tooLong := by
  have start : t.Open ([] ++ dir) := opened
  subst named
  rw [locate, aimed, start.walk, List.nil_append, FileTree.walk, if_neg moving.1, if_neg moving.2]
  by_cases long : maxText ≤ p.toText.utf8ByteSize
  · rw [if_pos long, if_neg fun fits => Nat.not_lt.mpr long fits.2]
  · rw [if_neg long]
    by_cases longer : maxName < p.name.utf8ByteSize
    · rw [if_pos longer, if_neg fun fits => Nat.not_lt.mpr fits.1 longer]
    · have fits : Fits p := ⟨Nat.not_lt.mp longer, Nat.not_le.mp long⟩
      rw [if_neg longer, if_pos fits]
      rcases entry : t.find? (dir ++ [p.name]) with _ | _ | _ | target
      · simp only [if_true]
      · simp only [if_true]
      · rw [FileTree.walk, entry]
      · exact absurd entry (unlinked target)

theorem Open.probe_name (opened : t.Open dir) (moving : w ≠ ".." ∧ w ≠ ".")
    (unlinked : ∀ target, t.find? (dir ++ [w]) ≠ some (.link target)) (aimed : t.absolute p = dir ++ [w])
    (named : p.name = w) (plain : p.holdsNul = false) :
    t.probe p = if Fits p then .ok (t.find? (dir ++ [w])) else .error .tooLong := by
  rw [probe, plain, if_neg Bool.false_ne_true, opened.locate_name moving unlinked aimed named]
  by_cases fits : Fits p
  · rw [if_pos fits, if_pos fits]
  · rw [if_neg fits, if_neg fits]

theorem names_of_locate (links : ∀ parts target, t.find? parts = some (.link target) →
      ∀ w ∈ Path.steps target, w = "." ∨ Q w)
    (home : ∀ w ∈ t.current, Q w) (given : ∀ w ∈ p.parts, Q w) {found : Option Entry}
    (located : t.locate p = .ok (site, found)) : ∀ w ∈ site, Q w := by
  unfold locate at located
  split at located
  · cases located
  · refine names_of_walk links (by simp) ?_ located
    intro w there
    unfold absolute at there
    split at there
    · exact .inr (given w there)
    · rcases List.mem_append.mp there with outer | inner
      · exact .inr (home w outer)
      · exact .inr (given w inner)

theorem segments_of_locate (home : ∀ w ∈ t.current, Path.Segment w) (regular : p.Regular)
    {found : Option Entry} (located : t.locate p = .ok (site, found)) : ∀ w ∈ site, Path.Segment w :=
  names_of_locate (fun _ _ _ _ => segment_of_mem_steps) home regular.segments located

/-- A file that is not found under a link has the name that it is found under. -/
theorem name_of_locate (nonempty : w ≠ "") (moving : w ≠ ".." ∧ w ≠ ".") {slashes : Nat} {parts : List String}
    (located : t.locate ⟨slashes, parts ++ [w]⟩ = .ok (site, some (.file bytes)))
    (plain : t.isLink ⟨slashes, parts ++ [w]⟩ = false) : ∃ dir, site = dir ++ [w] := by
  unfold locate at located
  split at located
  · cases located
  · next long =>
    rw [absolute_append] at located
    obtain ⟨m, dir, above, last⟩ := (Open.nil t).walk_concat located
    have parent : t.locate ⟨slashes, parts⟩ = .ok (dir, some .dir) := by
      refine locate_of_walk ?_ above
      exact Nat.lt_of_le_of_lt (Path.size_le_concat slashes parts nonempty) (Nat.not_le.mp long)
    have linkless : ∀ target, t.find? (dir ++ [w]) ≠ some (.link target) := by
      intro target linked
      simp [isLink, Path.parent, Path.name, parent, linked] at plain
    refine ⟨dir, ?_⟩
    rw [walk, if_neg moving.1, if_neg moving.2] at last
    split at last
    · cases last
    · split at last
      · simp at last
      · simp only [if_true] at last
        cases last
        rfl
      · rw [walk] at last
        exact (Prod.mk.inj (Except.ok.inj last)).1.symm
      · next target linked => exact absurd linked (linkless target)

end FileTree

namespace Lookup

open FileTree

variable {t : FileTree} {p q dir : Path} {w stem : String}

/-! ## What is found -/

variable {reference : String} {base : Option String}

theorem file_of_unnamed (regular : p.Regular) (unnamed : p.name = "") :
    file t p reference base = .error (.unnamedPath p) := by
  have empty : p.parts = [] := by
    by_contra some_there
    exact regular.name_ne_empty some_there unnamed
  have unknown : hasExtension p = false := by
    have suffix : p.suffix = "" := by
      rw [Path.suffix, unnamed]
      rfl
    rw [hasExtension, suffix]
    decide
  simp [file, tryPath, unknown, empty, bind, Except.bind]

theorem eq_of_settle {files : List Path} (settled : settle t reference base files = .ok (some q)) :
    files = [q] := by
  unfold settle at settled
  split at settled
  · cases settled
  · cases settled
    rfl
  · rcases mapped : files.mapM t.pathToUrl with f | urls
    · simp [mapped, bind, Except.bind] at settled
    · simp [mapped, bind, Except.bind] at settled

/-- What a path stands for is a candidate for it, and a file. -/
theorem found_of_file (regular : p.Regular) (found : file t p reference base = .ok (some q)) :
    Candidate p q ∧ fileAt t q = true := by
  by_cases named : p.name = ""
  · rw [file_of_unnamed regular named] at found
    cases found
  · refine candidate_of_mem_decisive regular named ?_
    rw [file_eq named] at found
    split at found
    · cases found
    · rw [eq_of_settle found]
      exact List.mem_singleton_self q

/-- A lookup that fails as such has several candidates, all of them files, and names their URLs. -/
theorem several_of_file (grounded : t.Grounded) (regular : p.Regular) {g : Failure}
    (failed : file t p reference base = .error (.failure g)) :
    ∃ files urls, g = Failure.ambiguous reference urls base ∧ UrlsOf t files urls ∧
      ∀ q ∈ files, Candidate p q ∧ fileAt t q = true := by
  by_cases named : p.name = ""
  · rw [file_of_unnamed regular named] at failed
    cases failed
  · rw [file_eq named] at failed
    split at failed
    · cases failed
    · have ruled := ruled_of_settle grounded (exists_of_mem_decisive (t := t) regular named) reference base
      have candidates := fun q => candidate_of_mem_decisive (t := t) (q := q) regular named
      rw [failed] at ruled
      generalize decisive t (tiers t p) = files at ruled candidates
      obtain - | - | ⟨-, urls⟩ := ruled
      exact ⟨files, _, rfl, urls, candidates⟩

/-! ## What is loaded -/

variable {s : Source}

/-- The URL of a source names the real path, its text is read through the path, and its dialect is shown by
the name. -/
structure Loads (t : FileTree) (q : Path) (s : Source) : Prop where
  url : t.pathToUrl q = .ok s.url
  contents : t.readText q = .ok s.contents
  dialect : Dialect.forLocation q.name = .ok s.dialect
  unmapped : s.mapUrl = none

theorem load_eq_ok_iff (announce : String → List Event) :
    (load t q announce).1 = .ok s ↔ Loads t q s := by
  constructor
  · intro loaded
    unfold load at loaded
    split at loaded
    · cases loaded
    · next url canonical =>
      rcases read : t.readText q with f | contents
      · simp [read, bind, Except.bind] at loaded
      · rcases shown : Dialect.forLocation q.name with m | dialect
        · simp [read, shown, bind, Except.bind] at loaded
        · simp only [read, shown, bind, Except.bind, pure, Except.pure, Except.ok.injEq] at loaded
          subst loaded
          exact ⟨canonical, read, shown, rfl⟩
  · rintro ⟨canonical, read, shown, unmapped⟩
    obtain ⟨url, contents, dialect, mapUrl⟩ := s
    obtain rfl : mapUrl = none := unmapped
    simp only [load, canonical, read, shown, bind, Except.bind, pure, Except.pure]

theorem answer_of_fault {f : Fault} (failed : file t p reference base = .error f)
    (announce : String → List Event) :
    (answer t (.ok (some p)) reference base announce).1 = .error f := by
  unfold answer
  dsimp only
  rw [failed]

theorem answer_of_missing (missed : file t p reference base = .ok none) (announce : String → List Event) :
    (answer t (.ok (some p)) reference base announce).1 = .ok none := by
  unfold answer
  dsimp only
  rw [missed]

theorem answer_eq_some_iff {aim : Except Fault (Option Path)} {announce : String → List Event} :
    (answer t aim reference base announce).1 = .ok (some s) ↔
      ∃ p q, aim = .ok (some p) ∧ file t p reference base = .ok (some q) ∧ Loads t q s := by
  constructor
  · intro answered
    unfold answer at answered
    split at answered
    · cases answered
    · cases answered
    · next p =>
      split at answered
      · cases answered
      · cases answered
      · next q found =>
        refine ⟨p, q, rfl, found, (load_eq_ok_iff announce).mp ?_⟩
        rcases loaded : load t q announce with ⟨f | source, events⟩
        · rw [loaded] at answered
          cases answered
        · rw [loaded] at answered
          cases answered
          rfl
  · rintro ⟨p, q, rfl, found, loads⟩
    unfold answer
    dsimp only
    rw [found]
    dsimp only
    rw [(load_eq_ok_iff announce).mpr loads]
    rfl

/-- A source is found at a place: it is a file there that its URL names, whose octets are its text. -/
theorem Loads.located (grounded : t.Grounded) (regular : q.Regular) (there : fileAt t q = true)
    (loads : Loads t q s) :
    ∃ dir name bytes cs, t.locate q = .ok (dir ++ [name], some (.file bytes)) ∧ t.Keeps dir name bytes ∧
      s.url = urlOf (dir ++ [name]) ∧ Text.Utf8.decode bytes = .ok cs ∧
      s.contents = String.ofList (Text.Utf8.unifyLines cs) := by
  have dotless : "." ∉ q.parts := fun point => (regular.segments "." point).moving rfl
  obtain ⟨site, bytes, located, canonical⟩ := pathToUrl_of_fileAt grounded dotless there
  obtain ⟨dir, name, rfl, kept⟩ := keeps_of_locate located
  have read := loads.contents
  have entry : t.entryAt q = some (.file bytes) := by
    rw [entryAt, located]
  rw [readText, entry] at read
  dsimp only at read
  split at read
  · next cs decoded =>
    exact ⟨dir, name, bytes, cs, located, kept, Except.ok.inj (loads.url.symm.trans canonical), decoded,
      (Except.ok.inj read).symm⟩
  · cases read

theorem loads_of_located (grounded : t.Grounded) (dotless : "." ∉ q.parts) (plain : q.holdsNul = false)
    {site : List String} {bytes : List UInt8} (located : t.locate q = .ok (site, some (.file bytes)))
    {cs : List Char} (decoded : Text.Utf8.decode bytes = .ok cs) {dialect : Dialect}
    (shown : Dialect.forLocation q.name = .ok dialect) :
    Loads t q ⟨urlOf site, String.ofList (Text.Utf8.unifyLines cs), dialect, none⟩ where
  url := pathToUrl_of_locate grounded dotless plain located
  contents := by
    have entry : t.entryAt q = some (.file bytes) := by
      rw [entryAt, located]
    simp only [readText, entry, decoded]
  dialect := shown
  unmapped := rfl

end Lookup

/-! ## What is looked up -/

theorem FileTree.regular_of_urlToPath {url : String} {p : Path} (read : urlToPath url = .ok p) :
    p.Regular := by
  unfold urlToPath at read
  split at read
  · cases read
  · split at read
    · rw [← Except.ok.inj read]
      exact Path.regular_ofText _
    · cases read

theorem Lookup.regular_of_target {root p : Path} (regular : root.Regular) {reference : String}
    {base : Option String} (aimed : target root reference base = .ok (some p)) : p.Regular := by
  have relative := Path.regular_ofText (Url.unquoteText reference)
  unfold target at aimed
  split at aimed
  · cases aimed
  · split at aimed
    · rcases read : FileTree.urlToPath reference with f | q
      · rw [read] at aimed
        cases aimed
      · rw [read] at aimed
        cases aimed
        exact FileTree.regular_of_urlToPath read
    · split at aimed
      · cases aimed
      · dsimp only at aimed
        split at aimed
        · split at aimed
          · rw [← Option.some.inj (Except.ok.inj aimed)]
            exact relative
          · split at aimed
            · next b _ _ =>
              rcases read : FileTree.urlToPath b with f | requester
              · rw [read] at aimed
                cases aimed
              · rw [read] at aimed
                rw [← Option.some.inj (Except.ok.inj aimed)]
                exact (FileTree.regular_of_urlToPath read).parent.join relative
            · rw [← Option.some.inj (Except.ok.inj aimed)]
              exact regular.join relative
        · rw [← Option.some.inj (Except.ok.inj aimed)]
          exact regular.join relative

namespace Packages

open Lookup

variable {directory : Directories} {reference : String} {base : Option String} {p : Path}

/-- The path a reference names for an importer of packages: one in the package's directory, or one relative to
the requester's directory. -/
def target (directory : Directories) (reference : String) (base : Option String) :
    Except Fault (Option Path) :=
  match Url.split reference with
  | .error m => .error (.malformedUrl m)
  | .ok u =>
    if u.scheme = "package".toList then
      let path := Url.unquote u.path
      let (name, rest) := (Text.cutAt '/' path).getD (path, [])
      (directory (String.ofList name)).map fun d =>
        d.map fun d => d / Path.ofText (String.ofList rest)
    else
      match base with
      | some b =>
        if u.scheme = [] ∧ Text.startsWith "file:" b then do
          let requester ← FileTree.urlToPath b
          pure (some (requester.parent / Path.ofText (String.ofList (Url.unquote u.path))))
        else .ok none
      | none => .ok none

theorem answer_eq_target (t : FileTree) (directory : Directories) (reference : String)
    (base : Option String) :
    (answer t directory reference base).1
      = (Lookup.answer t (target directory reference base) reference base fun _ => []).1 := by
  unfold answer target
  rcases Url.split reference with m | u
  · rfl
  · dsimp only
    by_cases package : u.scheme = "package".toList
    · rw [if_pos package, if_pos package]
      generalize (Text.cutAt '/' (Url.unquote u.path)).getD (Url.unquote u.path, []) = cut
      rcases directory (String.ofList cut.1) with f | _ | d
      · rfl
      · rfl
      · rfl
    · rw [if_neg package, if_neg package]
      rcases base with _ | b
      · rfl
      · dsimp only
        split
        · rfl
        · rfl

theorem target_of_package {u : Url} {name rest : List Char} (split : Url.split reference = .ok u)
    (scheme : u.scheme = "package".toList)
    (cut : (Text.cutAt '/' (Url.unquote u.path)).getD (Url.unquote u.path, []) = (name, rest)) {d : Path}
    (named : directory (String.ofList name) = .ok (some d)) (base : Option String) :
    target directory reference base = .ok (some (d / Path.ofText (String.ofList rest))) := by
  rw [target, split]
  dsimp only
  rw [if_pos scheme, cut]
  dsimp only
  rw [named]
  rfl

theorem target_of_relative {u : Url} {b : String} {requester : Path} (split : Url.split reference = .ok u)
    (schemeless : u.scheme = []) (file : Text.startsWith "file:" b = true)
    (read : FileTree.urlToPath b = .ok requester) (directory : Directories) :
    target directory reference (some b)
      = .ok (some (requester.parent / Path.ofText (String.ofList (Url.unquote u.path)))) := by
  rw [target, split]
  dsimp only
  rw [schemeless, if_neg (by decide), if_pos ⟨rfl, file⟩, read]
  rfl

theorem regular_of_target (regular : ∀ name d, directory name = .ok (some d) → d.Regular)
    (aimed : target directory reference base = .ok (some p)) : p.Regular := by
  unfold target at aimed
  split at aimed
  · cases aimed
  · next u _ =>
    split at aimed
    · dsimp only at aimed
      generalize (Text.cutAt '/' (Url.unquote u.path)).getD (Url.unquote u.path, []) = cut at aimed
      rcases listed : directory (String.ofList cut.1) with f | _ | d
      · rw [listed] at aimed
        cases aimed
      · rw [listed] at aimed
        cases aimed
      · rw [listed] at aimed
        rw [← Option.some.inj (Except.ok.inj aimed)]
        exact (regular _ d listed).join (Path.regular_ofText _)
    · split at aimed
      · next b =>
        split at aimed
        · rcases read : FileTree.urlToPath b with f | requester
          · rw [read] at aimed
            cases aimed
          · rw [read] at aimed
            rw [← Option.some.inj (Except.ok.inj aimed)]
            exact (FileTree.regular_of_urlToPath read).parent.join (Path.regular_ofText _)
        · cases aimed
      · cases aimed

end Packages

end StyleBuild
