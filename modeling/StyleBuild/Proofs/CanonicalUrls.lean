import StyleBuild.Proofs.FoundFiles
import StyleBuild.Import.Resolver

/-!
# Canonical URLs

The URL of a source is a reference to the same source: whoever is asked for it finds the file at the place that it
names, by its own name or not at all. Two sources with one URL are one file and have one text. Their dialects are
those of the names that the file was found by, and a link may have a name of its own.
-/

set_option autoImplicit false

namespace StyleBuild

namespace FileTree

variable {t : FileTree} {p : Path} {site : List String} {found : Option Entry}

/-! ## Places without links -/

/-- The current directory is a place that paths can name. -/
structure Situated (t : FileTree) : Prop where
  grounded : t.Grounded
  segments : ∀ w ∈ t.current, Path.Segment w
  plain : ∀ w ∈ t.current, w.toList.contains (Char.ofNat 0) = false

theorem Linkless.plain_of_locate (linkless : t.Linkless) (situated : t.Situated)
    (plain : p.holdsNul = false) (located : t.locate p = .ok (site, found)) :
    ∀ w ∈ site, w.toList.contains (Char.ofNat 0) = false := by
  have given : ∀ w ∈ p.parts, w.toList.contains (Char.ofNat 0) = false := by
    simpa [Path.holdsNul] using plain
  exact names_of_locate (fun parts target linked => absurd linked (linkless.find? parts target))
    situated.plain given located

theorem Linkless.isLink (linkless : t.Linkless) (q : Path) : t.isLink q = false := by
  unfold FileTree.isLink
  split
  · split
    · next target linked => exact absurd linked (linkless.find? _ target)
    · rfl
  · rfl

end FileTree

/-! ## The file that a URL names -/

namespace Lookup

open FileTree

variable {t : FileTree} {p q root : Path} {dir : List String} {name w reference : String} {bytes : List UInt8}
variable {base : Option String} {s : Source}

theorem file_of_known (known : hasExtension p = true) (reference : String) (base : Option String) :
    file t p reference base
      = unlessRefused t [partialOf p, p] ([partialOf p, p].filter (fileAt t)) >>= settle t reference base := by
  have tried : tryPath t p = existing t [partialOf p, p] := by
    rw [tryPath, if_pos known]
    rfl
  rw [← existing_eq, file, tried, known]
  rcases existing t [partialOf p, p] with f | found
  · rfl
  · have chosen : (found.isEmpty && !true) = false := Bool.and_false _
    simp only [bind, Except.bind, chosen]
    rfl

/-- The text of a partial is longer than that of its file. -/
theorem fits_of_partial (fits : Fits ⟨1, dir ++ ["_" ++ name]⟩) : Fits ⟨1, dir ++ [name]⟩ := by
  have longer : ("_" ++ name).utf8ByteSize = 1 + name.utf8ByteSize := String.utf8ByteSize_append
  obtain ⟨short, small⟩ := fits
  rw [Path.toText_concat, String.utf8ByteSize_append, longer] at small
  have last : ∀ w, Path.name ⟨1, dir ++ [w]⟩ = w := by simp [Path.name]
  rw [last, longer] at short
  constructor
  · rw [last]
    omega
  · rw [Path.toText_concat, String.utf8ByteSize_append]
    omega

/-- A file is found by its own name, unless its partial is there or has no room for its name. -/
theorem file_of_kept (linkless : t.Linkless) (kept : t.Keeps dir name bytes)
    (plain : ∀ w ∈ dir ++ [name], w.toList.contains (Char.ofNat 0) = false)
    (known : hasExtension ⟨1, dir ++ [name]⟩ = true)
    (alone : ∀ other, t.find? (dir ++ ["_" ++ name]) ≠ some (.file other)) (reference : String)
    (base : Option String) :
    file t ⟨1, dir ++ [name]⟩ reference base
      = if Fits ⟨1, dir ++ ["_" ++ name]⟩ then .ok (some ⟨1, dir ++ [name]⟩)
        else .error (.blockedPath .tooLong ⟨1, dir ++ ["_" ++ name]⟩) := by
  have beside : partialOf ⟨1, dir ++ [name]⟩ = ⟨1, dir ++ ["_" ++ name]⟩ := by
    simp [partialOf, Path.name]
  have last : ∀ w, Path.name ⟨1, dir ++ [w]⟩ = w := by simp [Path.name]
  rw [List.forall_mem_append, List.forall_mem_singleton] at plain
  have moving : "_" ++ name ≠ ".." ∧ "_" ++ name ≠ "." := by
    constructor <;> intro point <;> simpa using congrArg (List.head? ∘ String.toList) point
  have under : t.probe ⟨1, dir ++ ["_" ++ name]⟩
      = if Fits ⟨1, dir ++ ["_" ++ name]⟩ then .ok (t.find? (dir ++ ["_" ++ name])) else .error .tooLong := by
    refine kept.opened.probe_name moving (linkless.find? _) rfl (last _) ?_
    simpa [Path.holdsNul] using plain
  have self : t.probe ⟨1, dir ++ [name]⟩
      = if Fits ⟨1, dir ++ [name]⟩ then .ok (t.find? (dir ++ [name])) else .error .tooLong := by
    refine kept.opened.probe_name kept.moving (linkless.find? _) rfl (last _) ?_
    simpa [Path.holdsNul] using plain
  rw [file_of_known known, beside]
  by_cases fits : Fits ⟨1, dir ++ ["_" ++ name]⟩
  · rw [if_pos fits] at under
    rw [if_pos (fits_of_partial fits), kept.entry] at self
    have absent : fileAt t ⟨1, dir ++ ["_" ++ name]⟩ = false := by
      unfold fileAt
      rw [under]
      split
      · next other there => exact absurd (Except.ok.inj there) (alone other)
      · rfl
    have there : fileAt t ⟨1, dir ++ [name]⟩ = true := by
      rw [fileAt, self]
    have taken : [(⟨1, dir ++ ["_" ++ name]⟩ : Path), ⟨1, dir ++ [name]⟩].find? (refused t) = none := by
      simp [refused, under, self]
    rw [if_pos fits, unlessRefused, taken]
    simp [absent, there, settle, bind, Except.bind, pure, Except.pure]
  · rw [if_neg fits] at under
    have first : [(⟨1, dir ++ ["_" ++ name]⟩ : Path), ⟨1, dir ++ [name]⟩].find? (refused t)
        = some ⟨1, dir ++ ["_" ++ name]⟩ := by
      simp [refused, under]
    rw [if_neg fits, unlessRefused, first]
    rfl

theorem target_of_url (root : Path) {parts : List String} (segments : ∀ w ∈ parts, Path.Segment w)
    (driveless : (absoluteText parts).toList[2]? ≠ some ':') (base : Option String) :
    target root (urlOf parts) base = .ok (some ⟨1, parts⟩) := by
  simp only [target, split_urlOf, if_true, urlToPath_urlOf segments driveless]
  rfl

theorem Candidate.name_of_located (candidate : Candidate p q)
    (located : t.locate q = .ok (dir ++ [name], some (.file bytes))) (plain : t.isLink q = false) :
    q.name = name := by
  obtain ⟨outer, -, joined⟩ := candidate.place
  have shape : q = ⟨outer.slashes, outer.parts ++ [q.name]⟩ := joined
  have moving : q.name ≠ ".." ∧ q.name ≠ "." := ⟨moving_of_known candidate.known, candidate.segment.moving⟩
  rw [shape] at located plain
  obtain ⟨above, same⟩ := name_of_locate candidate.segment.nonempty moving located plain
  have last := congrArg List.getLast? same
  simpa using last.symm

/-- Without links, the URL of a source that a directory was asked for leads every directory to the same source, or
to the refusal of a partial that has no room for its name. The place may not look like a drive, and no partial may
be there. -/
theorem canonical_url_found_again (linkless : t.Linkless) (situated : t.Situated) (regular : root.Regular)
    (answered : (inDirectory t root reference base).1 = .ok (some s)) :
    ∃ dir name bytes, t.find? (dir ++ [name]) = some (.file bytes) ∧
      (∀ w ∈ dir ++ [name], Path.Segment w) ∧ s.url = urlOf (dir ++ [name]) ∧
      ((absoluteText (dir ++ [name])).toList[2]? ≠ some ':' →
        (∀ other, t.find? (dir ++ ["_" ++ name]) ≠ some (.file other)) →
        ∀ (root' : Path) (base' : Option String),
          (inDirectory t root' s.url base').1
            = if Fits ⟨1, dir ++ ["_" ++ name]⟩ then .ok (some s)
              else .error (.blockedPath .tooLong ⟨1, dir ++ ["_" ++ name]⟩)) := by
  obtain ⟨p, q, aimed, found, loads⟩ := answer_eq_some_iff.mp answered
  have target_regular := regular_of_target regular aimed
  obtain ⟨candidate, there⟩ := found_of_file target_regular found
  have found_regular := candidate.regular target_regular
  obtain ⟨dir, name, bytes, cs, located, kept, url, decoded, text⟩ :=
    loads.located situated.grounded found_regular there
  have segments := segments_of_locate situated.segments found_regular located
  have plain := linkless.plain_of_locate situated (located_of_fileAt there).1 located
  have last := candidate.name_of_located located (linkless.isLink q)
  refine ⟨dir, name, bytes, kept.entry, segments, url, fun driveless alone root' base' => ?_⟩
  have known : hasExtension ⟨1, dir ++ [name]⟩ = true := by
    have same : Path.suffix ⟨1, dir ++ [name]⟩ = q.suffix := by
      simp [Path.suffix, Path.name, ← last]
    rw [hasExtension, same]
    exact candidate.known
  have again := file_of_kept linkless kept plain known alone s.url base'
  rw [inDirectory, url, target_of_url root' segments driveless, ← url]
  by_cases fits : Fits ⟨1, dir ++ ["_" ++ name]⟩
  · rw [if_pos fits] at again ⊢
    have reached : t.locate ⟨1, dir ++ [name]⟩ = .ok (dir ++ [name], some (.file bytes)) := by
      rw [kept.opened.locate_name kept.moving (linkless.find? _) rfl (by simp [Path.name]),
        if_pos (fits_of_partial fits), kept.entry]
    have shown : Dialect.forLocation (Path.name ⟨1, dir ++ [name]⟩) = .ok s.dialect := by
      rw [← loads.dialect, last]
      simp [Path.name]
    have dotless : "." ∉ dir ++ [name] := fun point => (segments "." point).moving rfl
    have unmarked : Path.holdsNul ⟨1, dir ++ [name]⟩ = false := by
      simpa [Path.holdsNul, or_imp, forall_and] using plain
    have same : s = ⟨urlOf (dir ++ [name]), String.ofList (Text.Utf8.unifyLines cs), s.dialect, none⟩ := by
      rw [← url, ← text, ← loads.unmapped]
    refine answer_eq_some_iff.mpr ⟨_, _, rfl, again, ?_⟩
    rw [same]
    exact loads_of_located situated.grounded dotless unmarked reached decoded shown
  · rw [if_neg fits] at again ⊢
    exact answer_of_fault again _

end Lookup

namespace FileTree

variable {t : FileTree} {w : String}

theorem Proper.fits (proper : Proper w) : Fits ⟨1, [w]⟩ := by
  have text : Path.toText ⟨1, [w]⟩ = "/" ++ w := by simp [Path.toText]
  refine ⟨proper.short, ?_⟩
  rw [text, String.utf8ByteSize_append]
  exact Nat.lt_of_le_of_lt (Nat.add_le_add_left proper.short _) (by decide)

theorem Linkless.locate_root (linkless : t.Linkless) (proper : Proper w) :
    t.locate ⟨1, [w]⟩ = .ok ([w], t.find? [w]) := by
  have reached := (Open.nil t).locate_name (p := ⟨1, [w]⟩) proper.staying.symm (linkless.find? _) rfl rfl
  rwa [if_pos proper.fits] at reached

theorem Linkless.probe_root (linkless : t.Linkless) (proper : Proper w) :
    t.probe ⟨1, [w]⟩ = .ok (t.find? [w]) := by
  have plain : Path.holdsNul ⟨1, [w]⟩ = false := proper.holdsNul
  exact probe_of_locate plain (linkless.locate_root proper)

end FileTree

namespace Lines

open FileTree Lookup

theorem situated_filed (files : List (String × String)) : (filed files).Situated :=
  ⟨Straight.nil _, by simp [filed], by simp [filed]⟩

theorem spaced_url_found_again :
    (inDirectory (filed [("a b.scss", "x")]) ⟨2, ["elsewhere"]⟩ "file:///a%20b.scss" (some "m:n")).1
      = .ok (some ⟨"file:///a%20b.scss", "x", .scss, none⟩) := by
  have proper : Proper "a b.scss" := ⟨by decide, by decide, by decide⟩
  have under : Proper ("_" ++ "a b.scss") := ⟨by decide, by decide, by decide⟩
  have written : urlOf ["a b.scss"] = "file:///a%20b.scss" := by decide +kernel
  have decoded : Url.unquoteText "a%20b.scss" = "a b.scss" := by decide +kernel
  have aimed : target ⟨0, []⟩ "a%20b.scss" none = .ok (some ⟨0, ["a b.scss"]⟩) := by
    have split : Url.split "a%20b.scss" = .ok ⟨[], "a%20b.scss".toList⟩ := rfl
    simp only [target, split, decoded]
    rfl
  have regular : Path.Regular ⟨0, ["a b.scss"]⟩ := Path.regular_ofText "a b.scss"
  have canonical : (filed [("a b.scss", "x")]).pathToUrl ⟨0, ["a b.scss"]⟩ = .ok (urlOf ["a b.scss"]) :=
    filed_url proper
  have absent : (filed [("a b.scss", "x")]).find? ["_" ++ "a b.scss"] = none := rfl
  have offered := inDirectory_of_target aimed regular (by decide) ⟨by decide, by decide⟩
    (filed_holdsText proper rfl (by simp)) (filed_partial under absent) canonical
  obtain ⟨dir, name, bytes, -, segments, url, again⟩ := canonical_url_found_again (linkless_filed _)
    (situated_filed _) ⟨Nat.zero_le 2, by simp⟩ (congrArg Prod.fst offered)
  have place : [] ++ ["a b.scss"] = dir ++ [name] := urlOf_inj regular.segments segments url
  obtain ⟨rfl, last⟩ := List.append_inj' place rfl
  obtain rfl : "a b.scss" = name := (List.cons.inj last).1
  have found := again (by decide) (by rintro other ⟨⟩) ⟨2, ["elsewhere"]⟩ (some "m:n")
  rw [if_pos (by decide), written] at found
  exact found

/-! ## A tree with one file -/

theorem oneFile_find (v w : String) :
    (oneFile w).find? [v] = if v = w then some (.file (Text.Utf8.encode ['x'])) else none := by
  by_cases same : v = w
  · simp [oneFile, filed, FileTree.find?, same]
  · simp [oneFile, filed, FileTree.find?, same, List.lookup_cons, beq_false_of_ne same]

/-- A name with an extension stands for the file if this is the partial or has the name itself. -/
theorem oneFile_file {v : String} (known : hasExtension ⟨1, [v]⟩ = true) (proper : Proper v)
    (under : Proper ("_" ++ v)) (w reference : String) (base : Option String) :
    file (oneFile w) ⟨1, [v]⟩ reference base
      = .ok (if "_" ++ v = w then some ⟨1, ["_" ++ v]⟩ else if v = w then some ⟨1, [v]⟩ else none) := by
  have linkless : (oneFile w).Linkless := linkless_filed _
  have first := linkless.probe_root under
  have second := linkless.probe_root proper
  have apart : "_" ++ v = w → v ≠ w := by
    rintro rfl same
    have length := congrArg String.length same
    rw [String.length_append] at length
    exact absurd length (by simp)
  rw [oneFile_find] at first second
  rw [file_of_known known]
  show unlessRefused (oneFile w) [⟨1, ["_" ++ v]⟩, ⟨1, [v]⟩] _ >>= _ = _
  have taken : [(⟨1, ["_" ++ v]⟩ : Path), ⟨1, [v]⟩].find? (refused (oneFile w)) = none := by
    simp [refused, first, second]
  rw [unlessRefused, taken]
  by_cases below : "_" ++ v = w
  · rw [if_pos below] at first ⊢
    rw [if_neg (apart below)] at second
    simp [fileAt, partialOf, Path.name, first, second, settle, bind, Except.bind, pure, Except.pure]
  · rw [if_neg below] at first ⊢
    by_cases same : v = w
    · rw [if_pos same] at second ⊢
      simp [fileAt, partialOf, Path.name, first, second, settle, bind, Except.bind, pure, Except.pure]
    · rw [if_neg same] at second ⊢
      simp [fileAt, partialOf, Path.name, first, second, settle, bind, Except.bind, pure, Except.pure]

theorem oneFile_loads {w : String} (segment : Path.Segment w) (proper : Proper w) {dialect : Dialect}
    (shown : Dialect.forLocation w = .ok dialect) :
    Loads (oneFile w) ⟨1, [w]⟩ ⟨urlOf [w], "x", dialect, none⟩ := by
  have linkless : (oneFile w).Linkless := linkless_filed _
  have located := linkless.locate_root proper
  rw [oneFile_find, if_pos rfl] at located
  exact loads_of_located (q := ⟨1, [w]⟩) (situated_filed _).grounded (by simpa using segment.moving.symm)
    proper.holdsNul located (Text.Utf8.decodeFrom_encode (by simp) 0) shown

theorem partial_shown {w : String} (segment : Path.Segment w) :
    Dialect.forLocation ("_" ++ w) = .ok (Dialect.ofPath ⟨0, ["_" ++ w]⟩) := by
  have text : ("_" ++ w).toList = '_' :: w.toList := by simp
  refine Dialect.forLocation_of_segment (segment_partial segment) ?_ ?_
  · rw [Text.startsWith, text]
    rfl
  · rw [Text.startsWith, text]
    rfl

theorem not_drive {w : String} (driveless : ':' ∉ w.toList) : (absoluteText [w]).toList[2]? ≠ some ':' := by
  intro drive
  have there := List.mem_of_getElem? drive
  simp [absoluteText, driveless] at there

/-! ## A partial without room for its own partial -/

section

variable {w : String} (segment : Path.Segment w) (known : hasExtension ⟨1, [w]⟩ = true)
  (proper_partial : Proper ("_" ++ w)) (driveless : ':' ∉ w.toList)

include segment known proper_partial driveless

theorem oneFile_partial_answered (proper : Proper w) (root : Path) (base : Option String) :
    (inDirectory (oneFile ("_" ++ w)) root (urlOf [w]) base).1
      = .ok (some ⟨urlOf ["_" ++ w], "x", Dialect.ofPath ⟨0, ["_" ++ w]⟩, none⟩) := by
  have aimed : target root (urlOf [w]) base = .ok (some ⟨1, [w]⟩) :=
    target_of_url root (by simpa using segment) (not_drive driveless) base
  have found := oneFile_file known proper proper_partial ("_" ++ w) (urlOf [w]) base
  rw [if_pos rfl] at found
  have loads := oneFile_loads (segment_partial segment) proper_partial (partial_shown segment)
  exact answer_eq_some_iff.mpr ⟨_, _, aimed, found, loads⟩

theorem oneFile_partial_refused_again (full : ("_" ++ w).utf8ByteSize = maxName) (root : Path)
    (base : Option String) :
    (inDirectory (oneFile ("_" ++ w)) root (urlOf ["_" ++ w]) base).1
      = .error (.blockedPath .tooLong ⟨1, ["_" ++ ("_" ++ w)]⟩) := by
  have longer : ("_" ++ ("_" ++ w)).utf8ByteSize = 1 + ("_" ++ w).utf8ByteSize := String.utf8ByteSize_append
  have unfit : ¬ Fits ⟨1, ["_" ++ ("_" ++ w)]⟩ := fun fits => by
    have short : ("_" ++ ("_" ++ w)).utf8ByteSize ≤ maxName := fits.1
    omega
  have aimed : target root (urlOf ["_" ++ w]) base = .ok (some ⟨1, ["_" ++ w]⟩) :=
    target_of_url root (by simpa using segment_partial segment) (not_drive (by simp [driveless])) base
  have kept : (oneFile ("_" ++ w)).Keeps [] ("_" ++ w) (Text.Utf8.encode ['x']) :=
    ⟨Open.nil _, proper_partial.staying.symm, Nat.not_lt.mpr proper_partial.short,
      (oneFile_find _ _).trans (if_pos rfl)⟩
  have differ : "_" ++ ("_" ++ w) ≠ "_" ++ w := fun same => by
    rw [same] at longer
    omega
  have alone : ∀ other, (oneFile ("_" ++ w)).find? ([] ++ ["_" ++ ("_" ++ w)]) ≠ some (.file other) := by
    intro other there
    exact nomatch ((oneFile_find _ _).trans (if_neg differ)).symm.trans there
  have refusal : file (oneFile ("_" ++ w)) ⟨1, ["_" ++ w]⟩ (urlOf ["_" ++ w]) base
      = .error (.blockedPath .tooLong ⟨1, ["_" ++ ("_" ++ w)]⟩) :=
    (file_of_kept (linkless_filed _) kept (by simpa using proper_partial.plain)
      (hasExtension_partial known) alone (urlOf ["_" ++ w]) base).trans (if_neg unfit)
  rw [inDirectory, aimed]
  exact answer_of_fault refusal _

end

/-- A name that leaves room for the underscore of a partial, and no more. -/
def fullName : String := letters 249 ++ ".scss"

/-- The partial is found, and the URL that it is found to have is refused. -/
theorem full_partial_refused_again :
    (oneFile ("_" ++ fullName)).Linkless ∧ (oneFile ("_" ++ fullName)).Situated ∧
      (absoluteText ["_" ++ fullName]).toList[2]? ≠ some ':' ∧
      (oneFile ("_" ++ fullName)).find? ["_" ++ ("_" ++ fullName)] = none ∧
      ∃ s, (inDirectory (oneFile ("_" ++ fullName)) ⟨0, []⟩ (urlOf [fullName]) none).1 = .ok (some s) ∧
        s.url = urlOf ["_" ++ fullName] ∧
        (inDirectory (oneFile ("_" ++ fullName)) ⟨0, []⟩ s.url none).1
          = .error (.blockedPath .tooLong ⟨1, ["_" ++ ("_" ++ fullName)]⟩) := by
  have size : fullName.utf8ByteSize = 254 := by
    rw [fullName, String.utf8ByteSize_append, letters_size]
    rfl
  have full : ("_" ++ fullName).utf8ByteSize = maxName := by
    rw [String.utf8ByteSize_append, size]
    rfl
  have letters_segment : Path.Segment (letters 249) :=
    ⟨fun empty => absurd (empty ▸ letters_size 249) (by decide),
      fun point => absurd (point ▸ letters_size 249) (by decide),
      fun slash => absurd (mem_letters slash) (by decide)⟩
  obtain ⟨segment, known⟩ := segment_extended letters_segment (e := ".scss") (by simp)
  have without : ∀ c, c ≠ 'a' → c ∉ ".scss".toList → c ∉ fullName.toList := by
    intro c other absent there
    rw [fullName, String.toList_append, List.mem_append] at there
    exact there.elim (fun letter => other (mem_letters letter)) absent
  have taken : Char.ofNat 0 ∉ fullName.toList := without _ (by decide) (by decide)
  have driveless : ':' ∉ fullName.toList := without _ (by decide) (by decide)
  have long : ∀ w, 3 ≤ w.utf8ByteSize → w ≠ "." ∧ w ≠ ".." := by
    rintro w long
    constructor <;> rintro rfl <;> exact absurd long (by decide)
  have proper : Proper fullName := ⟨long _ (by omega), by rw [size]; decide, by simpa using taken⟩
  have proper_partial : Proper ("_" ++ fullName) :=
    ⟨long _ (by rw [full]; decide), Nat.le_of_eq full, by simpa using taken⟩
  have answered := oneFile_partial_answered segment known proper_partial driveless proper ⟨0, []⟩ none
  have refusal := oneFile_partial_refused_again segment known proper_partial driveless full ⟨0, []⟩ none
  have absent : (oneFile ("_" ++ fullName)).find? ["_" ++ ("_" ++ fullName)] = none := by
    rw [oneFile_find, if_neg]
    intro same
    have longer : ("_" ++ ("_" ++ fullName)).utf8ByteSize = 1 + maxName := by
      rw [String.utf8ByteSize_append, full]
      rfl
    rw [same, full] at longer
    exact absurd longer (by decide)
  exact ⟨linkless_filed _, situated_filed _, not_drive (by simp [driveless]), absent, _, answered, rfl, refusal⟩

end Lines

/-! ## Sources with one URL -/

namespace Importer

/-- The path that an importer of files looks up; the others have none. -/
def aim (i : Importer) (reference : String) (base : Option String) : Except Fault (Option Path) :=
  match i with
  | directory root => Lookup.target root reference base
  | packages config => Packages.target config.directories reference base
  | unchecked config => Packages.target (Packages.directoriesIn config) reference base
  | _ => .ok none

/-- What an importer of files answers; the others decline. -/
def reply (t : FileTree) (i : Importer) (reference : String) (base : Option String) :
    Except Fault (Option Source) :=
  match i with
  | directory root => (Lookup.inDirectory t root reference base).1
  | packages config => (Packages.answer t config.directories reference base).1
  | unchecked config => (Packages.answer t (Packages.directoriesIn config) reference base).1
  | _ => .ok none

/-- The file that an importer finds for a reference. -/
def Finds (t : FileTree) (i : Importer) (reference : String) (base : Option String) (q : Path) : Prop :=
  ∃ p, i.aim reference base = .ok (some p) ∧ Lookup.file t p reference base = .ok (some q)

/-- The directories of an importer are paths as texts stand for them. -/
def Regular : Importer → Prop
  | directory root => root.Regular
  | packages config => ∀ p ∈ config.entries, p.root.Regular
  | _ => True

variable {t : FileTree} {i j : Importer} {reference reference' : String} {base base' : Option String}
variable {p q : Path} {s s' : Source}

theorem regular_of_aim (regular : i.Regular) (aimed : i.aim reference base = .ok (some p)) : p.Regular := by
  cases i with
  | directory root => exact Lookup.regular_of_target regular aimed
  | packages config =>
    refine Packages.regular_of_target ?_ aimed
    intro name d named
    obtain ⟨entry, found, rfl⟩ := Option.map_eq_some_iff.mp (Except.ok.inj named)
    exact (regular entry (List.mem_of_find?_eq_some found)).join (Path.regular_ofText entry.uri)
  | unchecked config =>
    refine Packages.regular_of_target ?_ aimed
    intro name d named
    unfold Packages.directoriesIn at named
    split at named
    · split at named <;> cases named
    · cases named
  | custom handle => cases aimed
  | misfit value => cases aimed

theorem finds_of_reply (answered : i.reply t reference base = .ok (some s)) :
    ∃ q, i.Finds t reference base q ∧ Lookup.Loads t q s := by
  cases i with
  | directory root =>
    obtain ⟨p, q, aimed, found, loads⟩ := Lookup.answer_eq_some_iff.mp answered
    exact ⟨q, ⟨p, aimed, found⟩, loads⟩
  | packages config =>
    rw [reply, Packages.answer_eq_target] at answered
    obtain ⟨p, q, aimed, found, loads⟩ := Lookup.answer_eq_some_iff.mp answered
    exact ⟨q, ⟨p, aimed, found⟩, loads⟩
  | unchecked config =>
    rw [reply, Packages.answer_eq_target] at answered
    obtain ⟨p, q, aimed, found, loads⟩ := Lookup.answer_eq_some_iff.mp answered
    exact ⟨q, ⟨p, aimed, found⟩, loads⟩
  | custom handle => cases answered
  | misfit value => cases answered

open FileTree Lookup

/-- An answer is a file at a place that its URL names. -/
theorem placed_of_reply (grounded : t.Grounded) (home : ∀ w ∈ t.current, Path.Segment w)
    (regular : i.Regular) (answered : i.reply t reference base = .ok (some s)) :
    ∃ q dir name bytes cs, i.Finds t reference base q ∧ Dialect.forLocation q.name = .ok s.dialect ∧
      (t.isLink q = false → q.name = name) ∧ (∀ w ∈ dir ++ [name], Path.Segment w) ∧
      s.url = urlOf (dir ++ [name]) ∧ t.find? (dir ++ [name]) = some (.file bytes) ∧
      Text.Utf8.decode bytes = .ok cs ∧ s.contents = String.ofList (Text.Utf8.unifyLines cs) := by
  obtain ⟨q, finds, loads⟩ := finds_of_reply answered
  obtain ⟨p, aimed, found⟩ := finds
  have aim_regular := regular_of_aim regular aimed
  obtain ⟨candidate, there⟩ := found_of_file aim_regular found
  have found_regular := candidate.regular aim_regular
  obtain ⟨dir, name, bytes, cs, located, kept, url, decoded, text⟩ :=
    loads.located grounded found_regular there
  exact ⟨q, dir, name, bytes, cs, ⟨p, aimed, found⟩, loads.dialect, candidate.name_of_located located,
    segments_of_locate home found_regular located, url, kept.entry, decoded, text⟩

/-- Two answers with one URL have one text. Their dialects are those of the names of the files found, so they have
one dialect as well if these are the same, and they are unless one of the files was found by a link. -/
theorem canonical_url_determines (grounded : t.Grounded) (home : ∀ w ∈ t.current, Path.Segment w)
    (regular : i.Regular) (regular' : j.Regular) (answered : i.reply t reference base = .ok (some s))
    (answered' : j.reply t reference' base' = .ok (some s')) (same : s.url = s'.url) :
    s.contents = s'.contents ∧
      ∃ q q', i.Finds t reference base q ∧ j.Finds t reference' base' q' ∧
        (q.name = q'.name → s.dialect = s'.dialect) ∧
        (t.isLink q = false → t.isLink q' = false → s.dialect = s'.dialect) := by
  obtain ⟨q, dir, name, bytes, cs, finds, shown, unlinked, segments, url, entry, decoded, text⟩ :=
    placed_of_reply grounded home regular answered
  obtain ⟨q', dir', name', bytes', cs', finds', shown', unlinked', segments', url', entry', decoded', text'⟩ :=
    placed_of_reply grounded home regular' answered'
  have place : dir ++ [name] = dir' ++ [name'] := by
    refine urlOf_inj segments segments' ?_
    rw [← url, ← url', same]
  have dialects : q.name = q'.name → s.dialect = s'.dialect := by
    intro names
    rw [names, shown'] at shown
    exact (Except.ok.inj shown).symm
  have last : name = name' := (List.cons.inj (List.append_inj' place rfl).2).1
  rw [place, entry'] at entry
  cases entry
  rw [decoded'] at decoded
  cases decoded
  refine ⟨text.trans text'.symm, q, q', finds, finds', dialects, fun plain plain' => dialects ?_⟩
  rw [unlinked plain, unlinked' plain', last]

end Importer

namespace Lines

open FileTree Lookup

/-- The partial is found under its other name by a directory and under its own by a package. -/
theorem partial_found_alike :
    ∃ s s' : Source, (Importer.directory ⟨0, []⟩).reply (oneFile "_c.scss") "file:///c.scss" none = .ok (some s) ∧
      (Importer.packages ⟨[⟨"p", ⟨1, []⟩, ""⟩]⟩).reply (oneFile "_c.scss") "package:p/_c.scss" none
        = .ok (some s') ∧ s.contents = s'.contents ∧ s.dialect = s'.dialect := by
  have segment : Path.Segment "c.scss" := ⟨by decide, by decide, by decide⟩
  have proper : Proper "c.scss" := ⟨by decide, by decide, by decide⟩
  have proper_partial : Proper ("_" ++ "c.scss") := ⟨by decide, by decide, by decide⟩
  have written : urlOf ["c.scss"] = "file:///c.scss" := by decide +kernel
  have answered := oneFile_partial_answered segment (by decide) proper_partial (by decide) proper ⟨0, []⟩ none
  rw [written] at answered
  have aimed : Packages.target (Packages.directories ⟨[⟨"p", ⟨1, []⟩, ""⟩]⟩) "package:p/_c.scss" none
      = .ok (some ⟨1, ["_" ++ "c.scss"]⟩) := by
    have decoded : Url.unquote "p/_c.scss".toList = "p/_c.scss".toList := by decide +kernel
    have cut : (Text.cutAt '/' (Url.unquote "p/_c.scss".toList)).getD (Url.unquote "p/_c.scss".toList, [])
        = ("p".toList, "_c.scss".toList) := by
      rw [decoded]
      rfl
    have split : Url.split "package:p/_c.scss" = .ok ⟨"package".toList, "p/_c.scss".toList⟩ := rfl
    have named : Packages.directories ⟨[⟨"p", ⟨1, []⟩, ""⟩]⟩ (String.ofList "p".toList)
        = .ok (some ⟨1, []⟩) := rfl
    exact Packages.target_of_package split rfl cut named none
  have found := oneFile_file (v := "_" ++ "c.scss") (by decide) proper_partial ⟨by decide, by decide, by decide⟩
    "_c.scss" "package:p/_c.scss" none
  rw [if_neg (by decide), if_pos (by decide)] at found
  have loads := oneFile_loads (segment_partial segment) proper_partial (partial_shown segment)
  have answered' := (Packages.answer_eq_target (oneFile "_c.scss") (Packages.directories ⟨[⟨"p", ⟨1, []⟩, ""⟩]⟩)
    "package:p/_c.scss" none).trans (answer_eq_some_iff.mpr ⟨_, _, aimed, found, loads⟩)
  have linkless : (oneFile "_c.scss").Linkless := linkless_filed _
  have regular : (Importer.directory ⟨0, []⟩).Regular := ⟨Nat.zero_le 2, by simp⟩
  have regular' : (Importer.packages ⟨[⟨"p", ⟨1, []⟩, ""⟩]⟩).Regular :=
    List.forall_mem_singleton.mpr ⟨by decide, by simp⟩
  obtain ⟨texts, q, q', -, -, -, dialects⟩ := Importer.canonical_url_determines (situated_filed _).grounded
    (situated_filed _).segments regular regular' answered answered' rfl
  exact ⟨_, _, answered, answered', texts,
    dialects (linkless.isLink q) (linkless.isLink q')⟩

/-- A file and a link to it with another extension. -/
def renamed : FileTree := ⟨[(["a.sass"], .link "b.scss"), (["b.scss"], .file (Text.Utf8.encode ['x']))], []⟩

theorem renamed_link : renamed.locate ⟨0, ["a.sass"]⟩ = .ok (["b.scss"], some (.file (Text.Utf8.encode ['x']))) := by
  have link : Proper "a.sass" := ⟨by decide, by decide, by decide⟩
  have goal : Proper "b.scss" := ⟨by decide, by decide, by decide⟩
  have target : Path.steps "b.scss" = ["b.scss"] := by decide
  have relative : (Path.ofText "b.scss").isAbsolute = false := by decide
  refine locate_of_walk (by decide) ?_
  show renamed.walk maxLinks [] ["a.sass"] = _
  have linked : renamed.find? ([] ++ ["a.sass"]) = some (.link "b.scss") := rfl
  rw [show maxLinks = 39 + 1 from rfl, link.walk_link linked, target, relative]
  exact goal.walk_last rfl

theorem renamed_root {w : String} (proper : Proper w) (ended : framed (renamed.find? [w]) = none) :
    renamed.locate ⟨0, [w]⟩ = .ok ([w], renamed.find? [w]) := by
  have text : Path.toText ⟨0, [w]⟩ = w := by simp [Path.toText]
  refine locate_of_walk ?_ (proper.walk_last ended)
  rw [text]
  exact Nat.lt_of_le_of_lt proper.short (by decide)

theorem renamed_reply {w : String} (segment : Path.Segment w) (proper : Proper w)
    (known : hasExtension ⟨0, [w]⟩ = true) (plain : Plain ⟨0, [w]⟩) (under : Proper ("_" ++ w))
    (absent : renamed.find? ["_" ++ w] = none)
    (located : renamed.locate ⟨0, [w]⟩ = .ok (["b.scss"], some (.file (Text.Utf8.encode ['x'])))) :
    (Importer.directory ⟨0, []⟩).reply renamed w none
      = .ok (some ⟨"file:///b.scss", "x", Dialect.ofPath ⟨0, [w]⟩, none⟩) := by
  have regular : Path.Regular ⟨0, [w]⟩ := Path.regular_singleton segment
  have text : Path.toText ⟨0, [w]⟩ = w := by simp [Path.toText]
  have aimed := target_of_plain regular plain
  rw [text] at aimed
  have holds : renamed.HoldsText ⟨0, [w]⟩ ['x'] :=
    ⟨_, probe_of_locate proper.holdsNul located, Text.Utf8.decodeFrom_encode (by simp) 0⟩
  have nothing : renamed.probe ⟨0, ["_" ++ w]⟩ = .ok none := by
    rw [probe_of_locate under.holdsNul (renamed_root under (by rw [absent]; rfl)), absent]
  have alone : Lookup.isFile renamed (partialOf ⟨0, [w]⟩) = .ok false := isFile_of_nothing nothing
  have canonical : renamed.pathToUrl ⟨0, [w]⟩ = .ok "file:///b.scss" := by
    have written : urlOf ["b.scss"] = "file:///b.scss" := by decide +kernel
    rw [← written]
    exact pathToUrl_of_locate (Straight.nil renamed) (by simpa using segment.moving.symm) proper.holdsNul located
  exact congrArg Prod.fst (inDirectory_of_target aimed regular known plain.named holds alone canonical)

/-- One URL, but the link shows another dialect than the file. -/
theorem renamed_dialects_differ :
    renamed.Grounded ∧ (∀ w ∈ renamed.current, Path.Segment w) ∧
      (Importer.directory ⟨0, []⟩).reply renamed "a.sass" none
        = .ok (some ⟨"file:///b.scss", "x", .sass, none⟩) ∧
      (Importer.directory ⟨0, []⟩).reply renamed "b.scss" none
        = .ok (some ⟨"file:///b.scss", "x", .scss, none⟩) := by
  refine ⟨Straight.nil renamed, by simp [renamed], ?_, ?_⟩
  · exact renamed_reply ⟨by decide, by decide, by decide⟩ ⟨by decide, by decide, by decide⟩ (by decide)
      ⟨⟨_, rfl, by decide⟩, Url.unescaped_of_notMem (by decide), by decide, by decide⟩
      ⟨by decide, by decide, by decide⟩ rfl renamed_link
  · have proper : Proper "b.scss" := ⟨by decide, by decide, by decide⟩
    exact renamed_reply ⟨by decide, by decide, by decide⟩ proper (by decide)
      ⟨⟨_, rfl, by decide⟩, Url.unescaped_of_notMem (by decide), by decide, by decide⟩
      ⟨by decide, by decide, by decide⟩ rfl (renamed_root proper rfl)

end Lines

end StyleBuild
