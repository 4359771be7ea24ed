import StyleBuild.Proofs.CanonicalUrls

/-!
# References to packages

Two ways of naming a file meet in an importer of packages. A reference without a scheme is looked up next to the
requester, as a directory's importer does it, but only its path is: both agree on references that are nothing but
a path. A reference to a package is looked up in the package's directory, and what is found lies in there, if the
rest of the reference is neither absolute nor empty and does not go up.
-/

set_option autoImplicit false

namespace StyleBuild

/-! ## References next to the requester -/

theorem Url.scheme_of_split {s : String} {u : Url} (split : Url.split s = .ok u) :
    (splitScheme (clean s.toList)).1 = u.scheme := by
  unfold Url.split at split
  generalize splitScheme (clean s.toList) = front at split ⊢
  obtain ⟨scheme, rest⟩ := front
  dsimp only at split
  generalize splitAuthority rest = behind at split
  rcases brackets : checkBrackets behind.1 with m | _
  · simp [brackets, bind, Except.bind] at split
  · rcases delimiters : checkDelimiters behind.1 with m | _
    · simp [brackets, delimiters, bind, Except.bind] at split
    · simp only [brackets, delimiters, bind, Except.bind, pure, Except.pure, Except.ok.injEq] at split
      rw [← split]

namespace Lookup

variable {t : FileTree} {reference b : String} {requester : Path} {u : Url}

theorem target_of_relative (split : Url.split reference = .ok u) (schemeless : u.scheme = [])
    (file : Text.startsWith "file:" b = true) (read : FileTree.urlToPath b = .ok requester) (root : Path) :
    target root reference (some b)
      = .ok (some (requester.parent / Path.ofText (Url.unquoteText reference))) := by
  rw [target, split]
  dsimp only
  rw [schemeless, if_neg (by decide), if_neg (by decide)]
  split
  · next absolute =>
    have alone : requester.parent / Path.ofText (Url.unquoteText reference)
        = Path.ofText (Url.unquoteText reference) := if_pos absolute
    rw [alone]
  · rw [read]
    rfl

theorem load_unannounced (t : FileTree) (q : Path) (announce announce' : String → List Event) :
    (load t q announce).1 = (load t q announce').1 := by
  unfold load
  split
  · rfl
  · rfl

theorem answer_unannounced (t : FileTree) (aim : Except Fault (Option Path)) (reference : String)
    (base : Option String) (announce announce' : String → List Event) :
    (answer t aim reference base announce).1 = (answer t aim reference base announce').1 := by
  unfold answer
  split
  · rfl
  · rfl
  · split
    · rfl
    · rfl
    · next q _ => exact congrArg (some <$> ·) (load_unannounced t q announce announce')

end Lookup

namespace Packages

variable {t : FileTree} {reference b : String} {base : Option String} {requester d : Path} {u : Url}

/-- A reference without a scheme, made by a file: an importer of packages gives the same answer as that of any
directory, if the path of the reference is read as the whole reference is. It is if the reference is nothing but a
path. -/
theorem relative_lookup_agrees (t : FileTree) (directory : Directories) (root : Path)
    (split : Url.split reference = .ok u) (schemeless : u.scheme = [])
    (file : Text.startsWith "file:" b = true) (read : FileTree.urlToPath b = .ok requester) :
    (Path.ofText (String.ofList (Url.unquote u.path)) = Path.ofText (Url.unquoteText reference) →
      (answer t directory reference (some b)).1 = (Lookup.inDirectory t root reference (some b)).1) ∧
    (Url.PathOnly reference.toList →
      (answer t directory reference (some b)).1 = (Lookup.inDirectory t root reference (some b)).1) := by
  have agree : Path.ofText (String.ofList (Url.unquote u.path)) = Path.ofText (Url.unquoteText reference) →
      (answer t directory reference (some b)).1 = (Lookup.inDirectory t root reference (some b)).1 := by
    intro same
    rw [answer_eq_target, target_of_relative split schemeless file read, same, Lookup.inDirectory,
      Lookup.target_of_relative split schemeless file read]
    exact Lookup.answer_unannounced t _ reference (some b) _ _
  refine ⟨agree, fun only => agree ?_⟩
  have scheme := Url.scheme_of_split split
  rw [Url.clean_eq_self only.visible only.plain, schemeless] at scheme
  have whole := Url.split_of_pathOnly only (Url.splitScheme_of_empty scheme)
  obtain rfl : u = ⟨[], reference.toList⟩ := Except.ok.inj (split.symm.trans whole)
  rfl

end Packages

namespace Lines

open FileTree Lookup

theorem requester_read : urlToPath "file:///main.scss" = .ok ⟨1, ["main.scss"]⟩ := by
  have written : urlOf ["main.scss"] = "file:///main.scss" := by decide +kernel
  rw [← written]
  exact urlToPath_urlOf (Path.regular_ofText "main.scss").segments (by decide)

/-- What an importer of packages finds next to the requester for a reference of this path. -/
theorem neighbour_answered {reference : String} (split : Url.split reference = .ok ⟨[], "a.scss".toList⟩) :
    (Packages.answer (oneFile "a.scss") (Packages.directories {}) reference (some "file:///main.scss")).1
      = .ok (some ⟨"file:///a.scss", "x", .scss, none⟩) := by
  have written : urlOf ["a.scss"] = "file:///a.scss" := by decide +kernel
  have decoded : Url.unquote "a.scss".toList = "a.scss".toList := by decide +kernel
  have proper : Proper "a.scss" := ⟨by decide, by decide, by decide⟩
  have found := oneFile_file (by decide) proper ⟨by decide, by decide, by decide⟩ "a.scss" reference
    (some "file:///main.scss")
  rw [if_neg (by decide), if_pos rfl] at found
  have aimed := Packages.target_of_relative split rfl (by decide) requester_read (Packages.directories {})
  rw [decoded] at aimed
  have shown : Dialect.forLocation "a.scss" = .ok .scss := rfl
  have loads := oneFile_loads ⟨by decide, by decide, by decide⟩ proper shown
  rw [written] at loads
  rw [Packages.answer_eq_target]
  exact answer_eq_some_iff.mpr ⟨_, _, aimed, found, loads⟩

theorem neighbour_found_alike :
    (inDirectory (oneFile "a.scss") ⟨0, ["lib"]⟩ "a.scss" (some "file:///main.scss")).1
      = .ok (some ⟨"file:///a.scss", "x", .scss, none⟩) := by
  have split : Url.split "a.scss" = .ok ⟨[], "a.scss".toList⟩ := rfl
  have only : Url.PathOnly "a.scss".toList := ⟨by simp, by simp [Url.isPathChar], by decide, by decide⟩
  have agree := (Packages.relative_lookup_agrees (oneFile "a.scss") (Packages.directories {}) ⟨0, ["lib"]⟩
    split rfl (by decide) requester_read).2 only
  rw [← agree, neighbour_answered split]

/-- The importer of packages drops a query, which is part of the name for that of a directory. -/
theorem query_dropped_by_packages :
    Url.split "a.scss?b.scss" = .ok ⟨[], "a.scss".toList⟩ ∧
      (Packages.answer (oneFile "a.scss") (Packages.directories {}) "a.scss?b.scss" (some "file:///main.scss")).1
        = .ok (some ⟨"file:///a.scss", "x", .scss, none⟩) ∧
      (inDirectory (oneFile "a.scss") ⟨0, []⟩ "a.scss?b.scss" (some "file:///main.scss")).1 = .ok none := by
  have split : Url.split "a.scss?b.scss" = .ok ⟨[], "a.scss".toList⟩ := rfl
  refine ⟨split, neighbour_answered split, ?_⟩
  have decoded : Url.unquoteText "a.scss?b.scss" = "a.scss?b.scss" := by decide +kernel
  have aimed := Lookup.target_of_relative split rfl (by decide) requester_read ⟨0, []⟩
  rw [decoded] at aimed
  have missed := oneFile_file (v := "a.scss?b.scss") (by decide) ⟨by decide, by decide, by decide⟩
    ⟨by decide, by decide, by decide⟩ "a.scss" "a.scss?b.scss" (some "file:///main.scss")
  rw [if_neg (by decide), if_neg (by decide)] at missed
  rw [inDirectory, aimed]
  exact answer_of_missing missed _

end Lines

/-! ## References into a package -/

namespace FileTree

variable {t : FileTree} {slashes : Nat} {parts more : List String}

/-- Without links only double points move a path. -/
theorem Linkless.site_replaceLinks (linkless : t.Linkless) (fuel : Nat) (met : Met) (here : Path)
    (rest : List String) :
    t.site (t.replaceLinks fuel met here rest).1
      = rest.foldl (fun acc s => if s = ".." then acc.dropLast else acc ++ [s]) (t.site here) := by
  fun_induction t.replaceLinks fuel met here rest with
  | case1 => rfl
  | case2 fuel met here rest ih => rw [ih, site_stepUp, List.foldl_cons, if_pos rfl]
  | case3 fuel met here name rest up next target linked => exact absurd linked (linkless.find? _ target)
  | case4 fuel met here name rest up next target linked => exact absurd linked (linkless.find? _ target)
  | case5 met here name rest up next target linked => exact absurd linked (linkless.find? _ target)
  | case6 met here name rest up next target linked => exact absurd linked (linkless.find? _ target)
  | case7 met here name rest up next target linked => exact absurd linked (linkless.find? _ target)
  | case8 fuel met here name rest up next plain ih =>
    rw [ih, site_concat t here.slashes here.parts up, List.foldl_cons, if_neg up]

/-- Without links the real form of a path goes down as the path does. -/
theorem Linkless.realParts_append (linkless : t.Linkless) (slashes : Nat) (parts : List String)
    (down : ".." ∉ more) :
    t.realParts ⟨slashes, parts ++ more⟩ = t.realParts ⟨slashes, parts⟩ ++ more := by
  rw [realParts, realParts, linkless.site_replaceLinks, linkless.site_replaceLinks, List.foldl_append,
    foldl_stays down]

/-- The URL of a file in a directory or in one further down. -/
def Below (t : FileTree) (d : Path) (url : String) : Prop :=
  ∃ more bytes, more ≠ [] ∧ ".." ∉ more ∧ url = urlOf (t.realParts d ++ more) ∧
    t.find? (t.realParts d ++ more) = some (.file bytes)

theorem below_of_locate (linkless : t.Linkless) (grounded : t.Grounded) {d : Path} (some_there : more ≠ [])
    (down : ".." ∉ more) (dotless : "." ∉ d.parts ++ more) {site : List String} {bytes : List UInt8}
    (located : t.locate ⟨d.slashes, d.parts ++ more⟩ = .ok (site, some (.file bytes))) :
    t.Below d (urlOf site) := by
  obtain ⟨dir, name, rfl, kept⟩ := keeps_of_locate located
  have place := realParts_of_locate grounded dotless located
  rw [linkless.realParts_append d.slashes d.parts down] at place
  exact ⟨more, bytes, some_there, down, by rw [place], by rw [place]; exact kept.entry⟩

end FileTree

namespace Packages

open FileTree Lookup

variable {t : FileTree} {d rest q : Path}

/-- Where references into a package lead: below its directory. An empty rest stands for the directory, and
candidates for this one have its name. -/
def Contained (t : FileTree) (d rest : Path) (url : String) : Prop :=
  t.Below d url ∨ rest.parts = [] ∧ t.Below d.parent url

/-- Candidates for a path below a directory are below it too, unless the path is the directory itself. -/
theorem place_of_candidate (relative : rest.isAbsolute = false) (candidate : Candidate (d / rest) q) :
    ∃ e mid, q = ⟨e.slashes, e.parts ++ (mid ++ [q.name])⟩ ∧ mid ⊆ rest.parts ∧
      (e = d ∨ rest.parts = [] ∧ e = d.parent) := by
  have joined : d / rest = ⟨d.slashes, d.parts ++ rest.parts⟩ :=
    if_neg (by rw [relative]; exact Bool.false_ne_true)
  obtain ⟨dir, listed, place⟩ := candidate.place
  replace place : q = ⟨dir.slashes, dir.parts ++ [q.name]⟩ := place
  rw [joined, List.mem_cons, List.mem_singleton] at listed
  rcases listed with rfl | rfl
  · by_cases none_there : rest.parts = []
    · refine ⟨d.parent, [], ?_, by simp, .inr ⟨none_there, rfl⟩⟩
      rwa [none_there, List.append_nil] at place
    · refine ⟨d, rest.parts.dropLast, ?_, List.dropLast_subset rest.parts, .inl rfl⟩
      dsimp only [Path.parent] at place
      rwa [List.dropLast_append_of_ne_nil none_there, List.append_assoc] at place
  · refine ⟨d, rest.parts, ?_, List.Subset.refl _, .inl rfl⟩
    rwa [List.append_assoc] at place

theorem contained_of_candidate (linkless : t.Linkless) (grounded : t.Grounded) (regular : (d / rest).Regular)
    (relative : rest.isAbsolute = false) (down : ".." ∉ rest.parts) (candidate : Candidate (d / rest) q)
    {site : List String} {bytes : List UInt8} (located : t.locate q = .ok (site, some (.file bytes))) :
    Contained t d rest (urlOf site) := by
  have dotless : "." ∉ q.parts := fun point => ((candidate.regular regular).segments "." point).moving rfl
  obtain ⟨e, mid, place, inside, which⟩ := place_of_candidate relative candidate
  have lower : ".." ∉ mid ++ [q.name] := by
    rw [List.mem_append, List.mem_singleton]
    exact not_or.mpr ⟨fun there => down (inside there), (moving_of_known candidate.known).symm⟩
  rw [place] at located dotless
  have below : t.Below e (urlOf site) := below_of_locate linkless grounded (by simp) lower dotless located
  rcases which with rfl | ⟨none_there, rfl⟩
  · exact .inl below
  · exact .inr ⟨none_there, below⟩

theorem exists_of_urlsOf {files : List Path} {urls : List String} (places : UrlsOf t files urls) {url : String}
    (listed : url ∈ urls) :
    ∃ q ∈ files, ∃ site bytes, t.locate q = .ok (site, some (.file bytes)) ∧ url = urlOf site := by
  induction places with
  | nil => cases listed
  | cons first _ ih =>
    rcases List.mem_cons.mp listed with rfl | later
    · exact ⟨_, List.mem_cons_self, first⟩
    · obtain ⟨q, there, place⟩ := ih later
      exact ⟨q, List.mem_cons_of_mem _ there, place⟩

/-- A failure of an import comes from the lookup, not from reading what was found. -/
theorem file_of_failed {p : Path} {reference : String} {base : Option String} {announce : String → List Event}
    {g : Failure} (failed : (Lookup.answer t (.ok (some p)) reference base announce).1 = .error (.failure g))
    (isImport : g.isImport = true) : file t p reference base = .error (.failure g) := by
  unfold Lookup.answer at failed
  dsimp only at failed
  split at failed
  · next f found =>
    obtain rfl : f = .failure g := Except.error.inj failed
    exact found
  · cases failed
  · next q _ =>
    have none_there : Only (fun _ => False) (some <$> (load t q announce).1) := (only_load q announce).map some
    exact (none_there g failed isImport).elim

/-- Without links, a reference that names a package and goes on with a relative path that does not go up leads
into the directory of the package: the file that is answered with lies there, and so do all files that make it
ambiguous. -/
theorem package_reference_contained (linkless : t.Linkless) (grounded : t.Grounded) {c : Packages}
    {reference : String} {u : Url} {name rest : List Char} (split : Url.split reference = .ok u)
    (scheme : u.scheme = "package".toList)
    (cut : (Text.cutAt '/' (Url.unquote u.path)).getD (Url.unquote u.path, []) = (name, rest)) {p : Package}
    (configured : c.get? (String.ofList name) = some p) (regular : p.root.Regular)
    (relative : (Path.ofText (String.ofList rest)).isAbsolute = false)
    (down : ".." ∉ (Path.ofText (String.ofList rest)).parts) (base : Option String) :
    (∀ s, (answer t c.directories reference base).1 = .ok (some s) →
      Contained t p.directory (Path.ofText (String.ofList rest)) s.url) ∧
    (∀ g, (answer t c.directories reference base).1 = .error (.failure g) → g.isImport = true →
      ∃ urls, g = Failure.ambiguous reference urls base ∧
        ∀ url ∈ urls, Contained t p.directory (Path.ofText (String.ofList rest)) url) := by
  have named : c.directories (String.ofList name) = .ok (some p.directory) := by
    rw [directories, configured]
    rfl
  have directory_regular : p.directory.Regular := regular.join (Path.regular_ofText p.uri)
  have aim_regular := directory_regular.join (Path.regular_ofText (String.ofList rest))
  rw [answer_eq_target, target_of_package split scheme cut named]
  constructor
  · intro s answered
    obtain ⟨aim, q, aimed, found, loads⟩ := answer_eq_some_iff.mp answered
    obtain rfl := Option.some.inj (Except.ok.inj aimed)
    obtain ⟨candidate, there⟩ := found_of_file aim_regular found
    obtain ⟨dir, last, bytes, -, located, -, url, -⟩ :=
      loads.located grounded (candidate.regular aim_regular) there
    rw [url]
    exact contained_of_candidate linkless grounded aim_regular relative down candidate located
  · intro g failed isImport
    obtain ⟨files, urls, ambiguous, places, candidates⟩ :=
      several_of_file grounded aim_regular (file_of_failed failed isImport)
    refine ⟨urls, ambiguous, fun url listed => ?_⟩
    obtain ⟨q, there, site, bytes, located, rfl⟩ := exists_of_urlsOf places listed
    exact contained_of_candidate linkless grounded aim_regular relative down (candidates q there).1 located

end Packages

namespace Lines

open FileTree Lookup Packages

def theme : Package := ⟨"theme", ⟨0, ["theme"]⟩, "lib/"⟩

def themeTree : FileTree :=
  ⟨[(["theme"], .dir), (["theme", "lib"], .dir), (["theme", "lib", "a.scss"], .file (Text.Utf8.encode ['x']))], []⟩

theorem theme_directory : theme.directory = ⟨0, ["theme", "lib"]⟩ := by decide

theorem themeTree_linkless : themeTree.Linkless := by
  intro e there target
  simp only [themeTree, List.mem_cons, List.not_mem_nil, or_false] at there
  rcases there with rfl | rfl | rfl <;> rintro ⟨⟩

theorem themeTree_locate {w : String} (moving : w ≠ ".." ∧ w ≠ ".") (fits : Fits ⟨0, ["theme", "lib", w]⟩) :
    themeTree.locate ⟨0, ["theme", "lib", w]⟩
      = .ok (["theme", "lib", w], themeTree.find? ["theme", "lib", w]) := by
  have outer : themeTree.Open ["theme"] := (Open.nil themeTree).concat (by decide) (by decide) (by decide) rfl
  have inner : themeTree.Open (["theme"] ++ ["lib"]) := outer.concat (by decide) (by decide) (by decide) rfl
  have reached := inner.locate_name (p := ⟨0, ["theme", "lib", w]⟩) moving (themeTree_linkless.find? _) rfl rfl
  rwa [if_pos fits] at reached

theorem theme_aimed {reference : String} {path rest : List Char} {d : Path}
    (split : Url.split reference = .ok ⟨"package".toList, path⟩) (decoded : Url.unquote path = path)
    (cut : Text.cutAt '/' path = some ("theme".toList, rest))
    (joined : theme.directory / Path.ofText (String.ofList rest) = d) :
    target (directories ⟨[theme]⟩) reference none = .ok (some d) := by
  have named : directories ⟨[theme]⟩ (String.ofList "theme".toList) = .ok (some theme.directory) := rfl
  rw [← joined]
  refine target_of_package split rfl ?_ named none
  rw [decoded, cut]
  rfl

theorem theme_file_found :
    (answer themeTree (directories ⟨[theme]⟩) "package:theme/a.scss" none).1
      = .ok (some ⟨"file:///theme/lib/a.scss", "x", .scss, none⟩) := by
  have aimed : target (directories ⟨[theme]⟩) "package:theme/a.scss" none
      = .ok (some ⟨0, ["theme", "lib", "a.scss"]⟩) :=
    theme_aimed rfl (by decide +kernel) rfl (by decide)
  have located := themeTree_locate (w := "a.scss") (by decide) (by decide)
  have beside := themeTree_locate (w := "_a.scss") (by decide) (by decide)
  have nothing : themeTree.probe ⟨0, ["theme", "lib", "_a.scss"]⟩ = .ok none := probe_of_locate (by decide) beside
  have alone : Lookup.isFile themeTree (partialOf ⟨0, ["theme", "lib", "a.scss"]⟩) = .ok false :=
    isFile_of_nothing nothing
  have decoded : Text.Utf8.decode (Text.Utf8.encode ['x']) = .ok ['x'] :=
    Text.Utf8.decodeFrom_encode (by simp) 0
  have found := file_of_alone (by decide) ⟨_, probe_of_locate (by decide) located, decoded⟩ alone
    "package:theme/a.scss" none
  have shown : Dialect.forLocation "a.scss" = .ok .scss := rfl
  have loads := loads_of_located (q := ⟨0, ["theme", "lib", "a.scss"]⟩) (Straight.nil themeTree) (by decide)
    (by decide) located decoded shown
  have written : urlOf ["theme", "lib", "a.scss"] = "file:///theme/lib/a.scss" := by decide +kernel
  rw [written] at loads
  rw [answer_eq_target]
  exact answer_eq_some_iff.mpr ⟨_, _, aimed, found, loads⟩

theorem theme_file_contained : themeTree.Below theme.directory "file:///theme/lib/a.scss" := by
  have decoded : Url.unquote "theme/a.scss".toList = "theme/a.scss".toList := by decide +kernel
  have cut : (Text.cutAt '/' (Url.unquote "theme/a.scss".toList)).getD (Url.unquote "theme/a.scss".toList, [])
      = ("theme".toList, "a.scss".toList) := by
    rw [decoded]
    rfl
  have split : Url.split "package:theme/a.scss" = .ok ⟨"package".toList, "theme/a.scss".toList⟩ := rfl
  have contained := (package_reference_contained themeTree_linkless (Straight.nil themeTree)
    (c := ⟨[theme]⟩) (p := theme) split rfl cut rfl (Path.regular_ofText "theme") (by decide) (by decide) none).1
    _ theme_file_found
  exact contained.resolve_right fun empty => absurd empty.1 (by decide)

/-- The rest of the reference stands alone. -/
theorem absolute_rest_escapes :
    (oneFile "secret.scss").Linkless ∧ (oneFile "secret.scss").Grounded ∧
      Url.split "package:theme//secret.scss" = .ok ⟨"package".toList, "theme//secret.scss".toList⟩ ∧
      Text.cutAt '/' (Url.unquote "theme//secret.scss".toList) = some ("theme".toList, "/secret.scss".toList) ∧
      (⟨[theme]⟩ : Packages).get? "theme" = some theme ∧ ".." ∉ (Path.ofText "/secret.scss").parts ∧
      (answer (oneFile "secret.scss") (directories ⟨[theme]⟩) "package:theme//secret.scss" none).1
        = .ok (some ⟨"file:///secret.scss", "x", .scss, none⟩) ∧
      ¬ (oneFile "secret.scss").Below theme.directory "file:///secret.scss" := by
  have linkless : (oneFile "secret.scss").Linkless := linkless_filed _
  have decoded : Url.unquote "theme//secret.scss".toList = "theme//secret.scss".toList := by decide +kernel
  have aimed : target (directories ⟨[theme]⟩) "package:theme//secret.scss" none = .ok (some ⟨1, ["secret.scss"]⟩) :=
    theme_aimed rfl decoded rfl (by decide)
  have proper : Proper "secret.scss" := ⟨by decide, by decide, by decide⟩
  have found := oneFile_file (by decide) proper ⟨by decide, by decide, by decide⟩ "secret.scss"
    "package:theme//secret.scss" none
  rw [if_neg (by decide), if_pos rfl] at found
  have shown : Dialect.forLocation "secret.scss" = .ok .scss := rfl
  have loads := oneFile_loads ⟨by decide, by decide, by decide⟩ proper shown
  have written : urlOf ["secret.scss"] = "file:///secret.scss" := by decide +kernel
  rw [written] at loads
  refine ⟨linkless, (situated_filed _).grounded, rfl, by rw [decoded]; rfl, rfl, by decide, ?_, ?_⟩
  · rw [answer_eq_target]
    exact answer_eq_some_iff.mpr ⟨_, _, aimed, found, loads⟩
  · rintro ⟨more, bytes, -, -, -, entry⟩
    have place : (oneFile "secret.scss").realParts theme.directory = ["theme", "lib"] := by
      have down : ".." ∉ ["theme", "lib"] := by decide
      have home : (oneFile "secret.scss").realParts ⟨0, []⟩ = [] := by
        rw [realParts, replaceLinks]
        rfl
      have inside := linkless.realParts_append 0 [] down
      rw [theme_directory]
      rwa [home] at inside
    rw [place] at entry
    simp [oneFile, filed, FileTree.find?, List.lookup_cons] at entry

end Lines

end StyleBuild
