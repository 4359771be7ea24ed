import StyleBuild.Proofs.EntryFile
import StyleBuild.Proofs.RealPaths

/-!
# The rules of looking up

What a path stands for is told by tiers of candidates alone: the first tier in which there is a file decides,
and what is in later tiers makes no difference. A system is asked about one candidate after the other, and
where it refuses one for its length the refusal is what comes out, though a shorter candidate be there.
-/

set_option autoImplicit false

namespace StyleBuild

/-! ## Trees that differ in files -/

namespace FileTree

/-- What remains of an entry when files come and go. -/
def framed : Option Entry → Option Entry
  | some (.file _) => none
  | e => e

/-- The same directories and links; files may have come, gone or changed. -/
structure SameFrame (t t' : FileTree) : Prop where
  current : t'.current = t.current
  entries : ∀ parts, framed (t'.find? parts) = framed (t.find? parts)

/-- Where a walk ends, as far as directories and links tell. -/
def outline : Except Blocked (List String × Option Entry) → Except Blocked (List String × Option Entry)
  | .ok (site, e) => .ok (site, framed e)
  | .error .notDirectory => .error .missing
  | .error b => .error b

theorem framed_eq_none {e : Option Entry} : framed e = none ↔ e = none ∨ ∃ bytes, e = some (.file bytes) := by
  rcases e with _ | _ | _ | _ <;> simp [framed]

theorem framed_eq_dir {e : Option Entry} : framed e = some .dir ↔ e = some .dir := by
  rcases e with _ | _ | _ | _ <;> simp [framed]

theorem framed_eq_link {e : Option Entry} {target : String} :
    framed e = some (.link target) ↔ e = some (.link target) := by
  rcases e with _ | _ | _ | _ <;> simp [framed]

/-- A walk ends at a segment where there is no directory and no link. -/
theorem outline_walk_ended {t : FileTree} {name : String} (up : name ≠ "..") (point : name ≠ ".")
    (short : ¬ maxName < name.utf8ByteSize) {here : List String}
    (ended : framed (t.find? (here ++ [name])) = none) (n : Nat) (rest : List String) :
    outline (t.walk n here (name :: rest))
      = if rest = [] then .ok (here ++ [name], none) else .error .missing := by
  rcases framed_eq_none.mp ended with absent | ⟨bytes, entry⟩
  · simp only [walk, if_neg up, if_neg point, if_neg short, absent]
    split <;> rfl
  · simp only [walk, if_neg up, if_neg point, if_neg short, entry]
    split <;> rfl

namespace SameFrame

variable {t t' : FileTree}

theorem walk (same : t.SameFrame t') (n : Nat) (here rest : List String) :
    outline (t'.walk n here rest) = outline (t.walk n here rest) := by
  fun_induction t.walk n here rest with
  | case1 n here =>
    rw [FileTree.walk, outline, outline, same.entries]
  | case2 n here rest ih =>
    rw [FileTree.walk, if_pos rfl, ih]
  | case3 n here rest _ ih =>
    rw [FileTree.walk, if_neg (by decide), if_pos rfl, ih]
  | case4 n here name rest up point long =>
    rw [FileTree.walk, if_neg up, if_neg point, if_pos long]
  | case5 n here name up point short absent =>
    rw [outline_walk_ended up point short (by rw [same.entries, absent]; rfl)]
    rfl
  | case6 n here name rest up point short absent more =>
    rw [outline_walk_ended up point short (by rw [same.entries, absent]; rfl), if_neg more]
    rfl
  | case7 n here name up point short bytes entry =>
    rw [outline_walk_ended up point short (by rw [same.entries, entry]; rfl)]
    rfl
  | case8 n here name rest up point short bytes entry more =>
    rw [outline_walk_ended up point short (by rw [same.entries, entry]; rfl), if_neg more]
    rfl
  | case9 n here name rest up point short entry ih =>
    have there : t'.find? (here ++ [name]) = some .dir :=
      framed_eq_dir.mp ((same.entries _).trans (framed_eq_dir.mpr entry))
    simp only [FileTree.walk, if_neg up, if_neg point, if_neg short, there]
    exact ih
  | case10 here name rest up point short target entry =>
    have there : t'.find? (here ++ [name]) = some (.link target) :=
      framed_eq_link.mp ((same.entries _).trans (framed_eq_link.mpr entry))
    simp only [FileTree.walk, if_neg up, if_neg point, if_neg short, there]
  | case11 here name rest up point short target entry n ih =>
    have there : t'.find? (here ++ [name]) = some (.link target) :=
      framed_eq_link.mp ((same.entries _).trans (framed_eq_link.mpr entry))
    simp only [FileTree.walk, if_neg up, if_neg point, if_neg short, there]
    exact ih

theorem locate (same : t.SameFrame t') (p : Path) : outline (t'.locate p) = outline (t.locate p) := by
  have start : t'.absolute p = t.absolute p := by
    rw [absolute, absolute, same.current]
  unfold FileTree.locate
  split
  · rfl
  · rw [start]
    exact same.walk maxLinks [] (t.absolute p)

theorem grounded (same : t.SameFrame t') (grounded : t.Grounded) : t'.Grounded := by
  have straight : t.Straight t'.current := by
    rw [same.current]
    exact grounded
  refine ⟨straight.names, fun before front target linked => ?_⟩
  have before_linked := (same.entries before).symm.trans (framed_eq_link.mpr linked)
  exact straight.linkless before front target (framed_eq_link.mp before_linked)

end SameFrame

end FileTree

/-! ## What a system says of a path -/

namespace Lookup

open FileTree

variable {t t' : FileTree} {p q : Path}

/-- There is a file at a path, links followed. -/
def fileAt (t : FileTree) (p : Path) : Bool :=
  match t.probe p with
  | .ok (some (.file _)) => true
  | _ => false

def dirAt (t : FileTree) (p : Path) : Bool :=
  match t.probe p with
  | .ok (some .dir) => true
  | _ => false

/-- The system refuses a path for its length. -/
def refused (t : FileTree) (p : Path) : Bool :=
  match t.probe p with
  | .ok _ => false
  | .error _ => true

theorem isFile_eq (t : FileTree) (p : Path) :
    isFile t p = if refused t p then .error (.blockedPath .tooLong p) else .ok (fileAt t p) := by
  unfold isFile probe refused fileAt FileTree.probe
  rcases t.locate p with (_ | _ | _ | _) | ⟨site, _ | _ | _ | _⟩ <;> cases p.holdsNul <;> rfl

theorem isDir_eq (t : FileTree) (p : Path) :
    isDir t p = if refused t p then .error (.blockedPath .tooLong p) else .ok (dirAt t p) := by
  unfold isDir probe refused dirAt FileTree.probe
  rcases t.locate p with (_ | _ | _ | _) | ⟨site, _ | _ | _ | _⟩ <;> cases p.holdsNul <;> rfl

theorem refused_eq (t : FileTree) (p : Path) :
    refused t p = (!p.holdsNul && match outline (t.locate p) with
      | .error .tooLong => true
      | _ => false) := by
  unfold refused FileTree.probe
  rcases t.locate p with (_ | _ | _ | _) | ⟨site, _ | _ | _ | _⟩ <;> cases p.holdsNul <;> rfl

theorem dirAt_eq (t : FileTree) (p : Path) :
    dirAt t p = (!p.holdsNul && match outline (t.locate p) with
      | .ok (_, some .dir) => true
      | _ => false) := by
  unfold dirAt FileTree.probe
  rcases t.locate p with (_ | _ | _ | _) | ⟨site, _ | _ | _ | _⟩ <;> cases p.holdsNul <;> rfl

theorem refused_congr (same : t.SameFrame t') (p : Path) : refused t' p = refused t p := by
  rw [refused_eq, refused_eq, same.locate]

theorem dirAt_congr (same : t.SameFrame t') (p : Path) : dirAt t' p = dirAt t p := by
  rw [dirAt_eq, dirAt_eq, same.locate]

theorem located_of_fileAt (there : fileAt t p = true) :
    p.holdsNul = false ∧ ∃ site bytes, t.locate p = .ok (site, some (.file bytes)) := by
  unfold fileAt at there
  split at there
  · next bytes found =>
    obtain ⟨plain, site, located⟩ := locate_of_probe found
    exact ⟨plain, site, bytes, located⟩
  · cases there

/-- The URL of a file names the place where it is. -/
theorem pathToUrl_of_fileAt (grounded : t.Grounded) (dotless : "." ∉ p.parts)
    (there : fileAt t p = true) :
    ∃ site bytes, t.locate p = .ok (site, some (.file bytes)) ∧ t.pathToUrl p = .ok (urlOf site) := by
  obtain ⟨plain, site, bytes, located⟩ := located_of_fileAt there
  exact ⟨site, bytes, located, pathToUrl_of_locate grounded dotless plain located⟩

theorem pathToUrl_congr (same : t.SameFrame t') (grounded : t.Grounded) (dotless : "." ∉ p.parts)
    (there : fileAt t p = true) (still : fileAt t' p = true) : t'.pathToUrl p = t.pathToUrl p := by
  obtain ⟨site, bytes, located, url⟩ := pathToUrl_of_fileAt grounded dotless there
  obtain ⟨site', bytes', located', url'⟩ := pathToUrl_of_fileAt (same.grounded grounded) dotless still
  have placed := same.locate p
  rw [located, located'] at placed
  obtain ⟨rfl, -⟩ := Prod.mk.inj (Except.ok.inj placed)
  rw [url, url']

/-! ## Tiers -/

/-- The candidates for a name without extension in a directory: those to be compiled come first. -/
def stemTiers (dir : Path) (stem : String) : List (List Path) :=
  [["_" ++ stem ++ ".sass", stem ++ ".sass", "_" ++ stem ++ ".scss", stem ++ ".scss"],
    ["_" ++ stem ++ ".css", stem ++ ".css"]].map fun names => names.map fun w => dir / (⟨0, [w]⟩ : Path)

/-- The candidates for a path taken as the name of a file. -/
def nameTiers (p : Path) : List (List Path) :=
  if p.suffix ∈ [".sass", ".scss", ".css"] then [[p.parent / (⟨0, ["_" ++ p.name]⟩ : Path), p]]
  else stemTiers p.parent p.name

/-- The candidates for a path taken as a directory. -/
def indexTiers (t : FileTree) (p : Path) : List (List Path) :=
  if p.suffix ∉ [".sass", ".scss", ".css"] ∧ dirAt t p = true then stemTiers p "index" else []

/-- All candidates for a path, tier by tier. -/
def tiers (t : FileTree) (p : Path) : List (List Path) := nameTiers p ++ indexTiers t p

/-- The files of the first tier that has any. -/
def decisive (t : FileTree) : List (List Path) → List Path
  | [] => []
  | tier :: rest =>
    if tier.filter (fileAt t) = [] then decisive t rest else tier.filter (fileAt t)

/-- The tiers up to the first one that has a file. -/
def weighed (t : FileTree) : List (List Path) → List (List Path)
  | [] => []
  | tier :: rest => tier :: if tier.filter (fileAt t) = [] then weighed t rest else []

/-- The paths that a system is asked about, one after the other. -/
def queries (t : FileTree) (p : Path) : List Path :=
  (weighed t (nameTiers p)).flatten ++
    if p.suffix ∈ [".sass", ".scss", ".css"] ∨ decisive t (nameTiers p) ≠ [] then []
    else p :: (weighed t (indexTiers t p)).flatten

/-- What is found by asking about these paths, unless one of them is refused. -/
def unlessRefused {α : Type} (t : FileTree) (paths : List Path) (found : α) : Except Fault α :=
  match paths.find? (refused t) with
  | some q => .error (.blockedPath .tooLong q)
  | none => .ok found

theorem unlessRefused_append {α β : Type} (t : FileTree) (first second : List Path) (a : α)
    (f : α → Except Fault β) (b : β) (h : f a = unlessRefused t second b) :
    (unlessRefused t first a >>= f) = unlessRefused t (first ++ second) b := by
  unfold unlessRefused
  rw [List.find?_append]
  cases first.find? (refused t) with
  | some q => rfl
  | none => exact h

theorem existing_eq (t : FileTree) (paths : List Path) :
    existing t paths = unlessRefused t paths (paths.filter (fileAt t)) := by
  induction paths with
  | nil => rfl
  | cons p rest ih =>
    rw [existing, isFile_eq, ih, unlessRefused, unlessRefused, List.find?_cons]
    cases refused t p with
    | true => rfl
    | false =>
      cases rest.find? (refused t) with
      | some q => rfl
      | none =>
        cases there : fileAt t p <;> simp [there] <;> rfl

/-- What is found in tiers. -/
def search (t : FileTree) (tiers : List (List Path)) : Except Fault (List Path) :=
  unlessRefused t (weighed t tiers).flatten (decisive t tiers)

theorem search_cons (t : FileTree) (tier : List Path) (rest : List (List Path)) :
    search t (tier :: rest) = (do
      let found ← existing t tier
      if found.isEmpty then search t rest else pure found) := by
  have whole : search t (tier :: rest) = unlessRefused t
      (tier ++ (if tier.filter (fileAt t) = [] then weighed t rest else []).flatten)
      (if tier.filter (fileAt t) = [] then decisive t rest else tier.filter (fileAt t)) := rfl
  rw [whole, existing_eq]
  refine (unlessRefused_append t _ _ _ _ _ ?_).symm
  by_cases nothing : tier.filter (fileAt t) = []
  · rw [nothing]
    rfl
  · rw [if_neg nothing, if_neg nothing, List.isEmpty_eq_false_iff.mpr nothing]
    rfl

theorem search_singleton (t : FileTree) (tier : List Path) : search t [tier] = existing t tier := by
  rw [search_cons]
  rcases existing t tier with f | found
  · rfl
  · cases found with
    | nil => rfl
    | cons q rest => rfl

theorem hasExtension_iff : hasExtension p = true ↔ p.suffix ∈ [".sass", ".scss", ".css"] := by
  simp [hasExtension, allExtensions]

theorem stemTiers_eq (p : Path) :
    stemTiers p.parent p.name = [candidates p sassExtensions, candidates p [".css"]] := rfl

theorem tryPath_eq (named : p.name ≠ "") : tryPath t p = search t (nameTiers p) := by
  have segments : p.parts.isEmpty = false := by
    rw [List.isEmpty_eq_false_iff]
    intro none_there
    simp [Path.name, none_there] at named
  by_cases known : hasExtension p = true
  · have tiers : nameTiers p = [[⟨p.slashes, p.parts.dropLast ++ ["_" ++ p.name]⟩, p]] := by
      rw [nameTiers, if_pos (hasExtension_iff.mp known)]
      rfl
    rw [tryPath, if_pos known, tiers, search_singleton]
  · have tiers : nameTiers p = [candidates p sassExtensions, candidates p [".css"]] := by
      rw [nameTiers, if_neg (mt hasExtension_iff.mpr known), stemTiers_eq]
    rw [tryPath, if_neg known, segments, tiers, search_cons, search_singleton]
    rfl

theorem tryPath_index (t : FileTree) (p : Path) :
    tryPath t (p / (⟨0, ["index"]⟩ : Path)) = search t (stemTiers p "index") := by
  have joined : p / (⟨0, ["index"]⟩ : Path) = ⟨p.slashes, p.parts ++ ["index"]⟩ := rfl
  have name : Path.name ⟨p.slashes, p.parts ++ ["index"]⟩ = "index" := by simp [Path.name]
  have parent : Path.parent ⟨p.slashes, p.parts ++ ["index"]⟩ = p := by simp [Path.parent]
  have unknown : Path.suffix ⟨p.slashes, p.parts ++ ["index"]⟩ ∉ [".sass", ".scss", ".css"] := by
    rw [Path.suffix, name]
    decide
  rw [joined, tryPath_eq (by rw [name]; decide), nameTiers, if_neg unknown, name, parent]

/-- What a lookup makes of the files found. -/
def settle (t : FileTree) (reference : String) (base : Option String) (found : List Path) :
    Except Fault (Option Path) :=
  match found with
  | [] => pure none
  | [q] => pure (some q)
  | several => do
    let urls ← several.mapM t.pathToUrl
    .error (.failure (Failure.ambiguous reference urls base))

theorem decisive_append (t : FileTree) (first second : List (List Path)) :
    decisive t (first ++ second)
      = if decisive t first = [] then decisive t second else decisive t first := by
  induction first with
  | nil => rfl
  | cons tier rest ih =>
    rw [List.cons_append, decisive, decisive]
    split
    · exact ih
    · rfl

/-- What is found for a path by asking about it as a directory. -/
theorem search_index (t : FileTree) (p : Path) (unknown : hasExtension p = false) :
    (do if ← isDir t p then tryPath t (p / (⟨0, ["index"]⟩ : Path)) else pure [])
      = unlessRefused t (p :: (weighed t (indexTiers t p)).flatten) (decisive t (indexTiers t p)) := by
  have unlisted : p.suffix ∉ [".sass", ".scss", ".css"] := fun known =>
    Bool.false_ne_true (unknown.symm.trans (hasExtension_iff.mpr known))
  rw [isDir_eq, tryPath_index, unlessRefused, List.find?_cons]
  cases refused t p with
  | true => rfl
  | false =>
    cases directory : dirAt t p with
    | true =>
      have tiers : indexTiers t p = stemTiers p "index" := if_pos ⟨unlisted, directory⟩
      rw [tiers]
      rfl
    | false =>
      have tiers : indexTiers t p = [] := if_neg (by simp [directory])
      rw [tiers]
      rfl

theorem found_eq (named : p.name ≠ "") :
    (do
      let found ← tryPath t p
      if found.isEmpty && !hasExtension p then do
        if ← isDir t p then tryPath t (p / (⟨0, ["index"]⟩ : Path)) else pure found
      else pure found)
      = unlessRefused t (queries t p) (decisive t (tiers t p)) := by
  rw [tryPath_eq named, search, queries, tiers, decisive_append]
  refine unlessRefused_append t _ _ _ _ _ ?_
  cases known : hasExtension p with
  | true =>
    have suffix := hasExtension_iff.mp known
    have tiers : indexTiers t p = [] := if_neg fun unknown => unknown.1 suffix
    rw [if_pos (Or.inl suffix), tiers, decisive, Bool.not_true, Bool.and_false, if_neg Bool.false_ne_true]
    split
    · next nothing =>
      rw [nothing]
      rfl
    · rfl
  | false =>
    have suffix : p.suffix ∉ [".sass", ".scss", ".css"] := fun suffix =>
      Bool.false_ne_true (known.symm.trans (hasExtension_iff.mpr suffix))
    by_cases nothing : decisive t (nameTiers p) = []
    · have undecided : ¬ (p.suffix ∈ [".sass", ".scss", ".css"] ∨ decisive t (nameTiers p) ≠ []) :=
        not_or.mpr ⟨suffix, not_not.mpr nothing⟩
      rw [if_neg undecided, if_pos nothing, nothing]
      exact search_index t p known
    · rw [if_neg nothing, if_pos (Or.inr nothing), List.isEmpty_eq_false_iff.mpr nothing]
      rfl

theorem file_eq (named : p.name ≠ "") (reference : String) (base : Option String) :
    file t p reference base
      = match (queries t p).find? (refused t) with
        | some q => .error (.blockedPath .tooLong q)
        | none => settle t reference base (decisive t (tiers t p)) := by
  have found := found_eq (t := t) named
  have settled : file t p reference base
      = unlessRefused t (queries t p) (decisive t (tiers t p)) >>= settle t reference base := by
    rw [← found, bind_assoc, file]
    generalize tryPath t (p / (⟨0, ["index"]⟩ : Path)) = indexed
    rcases tryPath t p with f | found
    · rfl
    · show (if (found.isEmpty && !hasExtension p) = true then _ else _)
        = (if (found.isEmpty && !hasExtension p) = true then _ else _) >>= _
      split
      · rcases isDir t p with f | directory
        · rfl
        · cases directory <;> rfl
      · rfl
  rw [settled, unlessRefused]
  generalize decisive t (tiers t p) = files
  cases (queries t p).find? (refused t) with
  | some q => rfl
  | none => rfl

theorem fileAt_of_mem_decisive {tiers : List (List Path)} (there : q ∈ decisive t tiers) :
    fileAt t q = true ∧ ∃ tier ∈ weighed t tiers, q ∈ tier := by
  induction tiers with
  | nil => cases there
  | cons tier rest ih =>
    rw [decisive] at there
    rw [weighed]
    split at there
    · next nothing =>
      obtain ⟨file, later, weighed_later, listed⟩ := ih there
      rw [if_pos nothing]
      exact ⟨file, later, List.mem_cons_of_mem _ weighed_later, listed⟩
    · obtain ⟨listed, file⟩ := List.mem_filter.mp there
      exact ⟨file, tier, List.mem_cons_self, listed⟩

theorem weighed_subset (t : FileTree) (tiers : List (List Path)) : weighed t tiers ⊆ tiers := by
  induction tiers with
  | nil => exact List.Subset.refl []
  | cons tier rest ih =>
    rw [weighed]
    split
    · exact List.cons_subset_cons tier ih
    · simp

/-! ## Candidates as paths -/

variable {dir : Path} {w stem : String}

/-- A path that another one may stand for: next to it or inside of it, with a name that shows a dialect. -/
structure Candidate (p q : Path) : Prop where
  place : ∃ dir ∈ [p.parent, p], q = dir / (⟨0, [q.name]⟩ : Path)
  known : hasExtension q = true
  segment : Path.Segment q.name

theorem name_join (dir : Path) (w : String) : (dir / (⟨0, [w]⟩ : Path)).name = w := by
  show Path.name ⟨dir.slashes, dir.parts ++ [w]⟩ = w
  simp [Path.name]

theorem hasExtension_join (dir : Path) (w : String) :
    hasExtension (dir / (⟨0, [w]⟩ : Path)) = hasExtension ⟨0, [w]⟩ := by
  rw [hasExtension, hasExtension, Path.suffix, Path.suffix, name_join]
  rfl

theorem Candidate.mk_name (listed : dir ∈ [p.parent, p]) (segment : Path.Segment w)
    (known : hasExtension ⟨0, [w]⟩ = true) : Candidate p (dir / (⟨0, [w]⟩ : Path)) where
  place := ⟨dir, listed, by rw [name_join]⟩
  known := by rw [hasExtension_join, known]
  segment := by rwa [name_join]

theorem segment_partial (segment : Path.Segment w) : Path.Segment ("_" ++ w) where
  nonempty := by simp
  moving point := by simpa using congrArg (List.head? ∘ String.toList) point
  whole := by simpa using segment.whole

theorem hasExtension_partial (known : hasExtension ⟨0, [w]⟩ = true) :
    hasExtension ⟨0, ["_" ++ w]⟩ = true := by
  have text : ("_" ++ w).toList = '_' :: w.toList := by simp
  have shown : Path.suffixOf w.toList ≠ [] := by
    intro none_there
    have empty : Path.suffix ⟨0, [w]⟩ = "" := by
      show String.ofList ((Path.suffixOf w.toList).map Char.toLower) = ""
      rw [none_there]
      rfl
    rw [hasExtension_iff, empty] at known
    exact absurd known (by decide)
  have same : Path.suffix ⟨0, ["_" ++ w]⟩ = Path.suffix ⟨0, [w]⟩ := by
    show String.ofList ((Path.suffixOf ("_" ++ w).toList).map Char.toLower) = _
    rw [text, Path.suffixOf_cons '_' shown]
    rfl
  rw [hasExtension_iff, same]
  exact hasExtension_iff.mp known

theorem segment_extended (segment : Path.Segment w) {e : String} (listed : e ∈ [".sass", ".scss", ".css"]) :
    Path.Segment (w ++ e) ∧ hasExtension ⟨0, [w ++ e]⟩ = true := by
  have shape : ∃ cs, e.toList = '.' :: cs ∧ cs ≠ [] ∧ '.' ∉ cs ∧ '/' ∉ cs ∧
      e = String.ofList (('.' :: cs).map Char.toLower) := by
    simp only [List.mem_cons, List.not_mem_nil, or_false] at listed
    rcases listed with rfl | rfl | rfl <;> exact ⟨_, rfl, by decide, by decide, by decide, by decide⟩
  obtain ⟨cs, text, some_there, pointless, whole, lower⟩ := shape
  have stem : w.toList ≠ [] := by simpa using segment.nonempty
  constructor
  · refine ⟨?_, ?_, ?_⟩
    · simp [segment.nonempty]
    · intro point
      have length := congrArg (List.length ∘ String.toList) point
      have positive := List.length_pos_iff.mpr stem
      have more := List.length_pos_iff.mpr some_there
      simp [text] at length
      omega
    · simp [text, segment.whole, whole]
  · have suffix : Path.suffix ⟨0, [w ++ e]⟩ = e := by
      show String.ofList ((Path.suffixOf (w ++ e).toList).map Char.toLower) = e
      rw [String.toList_append, text, Path.suffixOf_append stem some_there pointless, ← lower]
    rw [hasExtension_iff, suffix]
    exact listed

theorem candidate_of_mem_stemTiers (listed : dir ∈ [p.parent, p]) (segment : Path.Segment stem)
    {tier : List Path} (tiered : tier ∈ stemTiers dir stem) (there : q ∈ tier) : Candidate p q := by
  obtain ⟨names, names_listed, rfl⟩ := List.mem_map.mp tiered
  obtain ⟨w, named, rfl⟩ := List.mem_map.mp there
  have shape : ∃ s e, w = s ++ e ∧ Path.Segment s ∧ e ∈ [".sass", ".scss", ".css"] := by
    simp only [List.mem_cons, List.not_mem_nil, or_false] at names_listed
    have under := segment_partial segment
    rcases names_listed with rfl | rfl
    · simp only [List.mem_cons, List.not_mem_nil, or_false] at named
      rcases named with rfl | rfl | rfl | rfl
      · exact ⟨_, _, rfl, under, by simp⟩
      · exact ⟨_, _, rfl, segment, by simp⟩
      · exact ⟨_, _, rfl, under, by simp⟩
      · exact ⟨_, _, rfl, segment, by simp⟩
    · simp only [List.mem_cons, List.not_mem_nil, or_false] at named
      rcases named with rfl | rfl
      · exact ⟨_, _, rfl, under, by simp⟩
      · exact ⟨_, _, rfl, segment, by simp⟩
  obtain ⟨s, e, rfl, stem_segment, extension⟩ := shape
  obtain ⟨whole, known⟩ := segment_extended stem_segment extension
  exact .mk_name listed whole known

theorem candidate_of_mem_tiers (regular : p.Regular) (named : p.name ≠ "") {tier : List Path}
    (tiered : tier ∈ tiers t p) (there : q ∈ tier) : Candidate p q := by
  have some_there : p.parts ≠ [] := by
    intro none_there
    simp [Path.name, none_there] at named
  have last : p.parts = p.parts.dropLast ++ [p.name] := by
    rw [Path.name, List.getLast?_eq_some_getLast some_there, Option.getD_some,
      List.dropLast_append_getLast]
  have segment : Path.Segment p.name := regular.segments p.name (by rw [last]; simp)
  have self : p = p.parent / (⟨0, [p.name]⟩ : Path) := by
    show p = ⟨p.slashes, p.parts.dropLast ++ [p.name]⟩
    rw [← last]
  rcases List.mem_append.mp tiered with beside | inside
  · unfold nameTiers at beside
    split at beside
    · next suffix =>
      have known : hasExtension ⟨0, [p.name]⟩ = true := by
        rw [← hasExtension_join p.parent, ← self]
        exact hasExtension_iff.mpr suffix
      rw [List.mem_singleton.mp beside, List.mem_cons, List.mem_singleton] at there
      rcases there with rfl | same
      · exact .mk_name (by simp) (segment_partial segment) (hasExtension_partial known)
      · have whole := Candidate.mk_name (p := p) List.mem_cons_self segment known
        rw [← self] at whole
        exact same ▸ whole
    · exact candidate_of_mem_stemTiers (by simp) segment beside there
  · unfold indexTiers at inside
    split at inside
    · exact candidate_of_mem_stemTiers (by simp) ⟨by decide, by decide, by decide⟩ inside there
    · cases inside

theorem Candidate.regular (candidate : Candidate p q) (regular : p.Regular) : q.Regular := by
  obtain ⟨dir, listed, joined⟩ := candidate.place
  rw [List.mem_cons, List.mem_singleton] at listed
  rw [joined]
  refine Path.Regular.join ?_ (Path.regular_singleton candidate.segment)
  rcases listed with rfl | rfl
  · exact regular.parent
  · exact regular

theorem moving_of_known (known : hasExtension q = true) : q.name ≠ ".." := by
  intro up
  have suffix : q.suffix = "" := by
    rw [Path.suffix, up]
    decide
  rw [hasExtension, suffix] at known
  exact absurd known (by decide)

/-! ## What is found -/

/-- Each of the URLs names the place of the file in the same position. -/
def UrlsOf (t : FileTree) (files : List Path) (urls : List String) : Prop :=
  List.Forall₂ (fun q url => ∃ site bytes, t.locate q = .ok (site, some (.file bytes)) ∧ url = urlOf site)
    files urls

theorem mapM_pathToUrl (grounded : t.Grounded) {files : List Path}
    (there : ∀ q ∈ files, fileAt t q = true ∧ "." ∉ q.parts) :
    ∃ urls, files.mapM t.pathToUrl = .ok urls ∧ UrlsOf t files urls := by
  induction files with
  | nil => exact ⟨[], rfl, .nil⟩
  | cons q rest ih =>
    rw [List.forall_mem_cons] at there
    obtain ⟨site, bytes, located, url⟩ := pathToUrl_of_fileAt grounded there.1.2 there.1.1
    obtain ⟨urls, mapped, named⟩ := ih there.2
    refine ⟨urlOf site :: urls, ?_, .cons ⟨site, bytes, located, rfl⟩ named⟩
    rw [List.mapM_cons, url, mapped]
    rfl

theorem mapM_pathToUrl_congr (same : t.SameFrame t') (grounded : t.Grounded) {files : List Path}
    (there : ∀ q ∈ files, fileAt t q = true ∧ "." ∉ q.parts)
    (still : ∀ q ∈ files, fileAt t' q = true) : files.mapM t'.pathToUrl = files.mapM t.pathToUrl := by
  induction files with
  | nil => rfl
  | cons q rest ih =>
    rw [List.forall_mem_cons] at there still
    rw [List.mapM_cons, List.mapM_cons, ih there.2 still.2,
      pathToUrl_congr same grounded there.1.2 there.1.1 still.1]

/-- What a lookup comes to, given the files of the tier that decides: several are ambiguous. -/
inductive Ruled (t : FileTree) (reference : String) (base : Option String) :
    List Path → Except Fault (Option Path) → Prop
  | nothing : Ruled t reference base [] (.ok none)
  | single (q : Path) : Ruled t reference base [q] (.ok (some q))
  | several {files : List Path} {urls : List String} : 1 < files.length → UrlsOf t files urls →
      Ruled t reference base files (.error (.failure (Failure.ambiguous reference urls base)))

theorem candidate_of_mem_decisive (regular : p.Regular) (named : p.name ≠ "")
    (there : q ∈ decisive t (tiers t p)) : Candidate p q ∧ fileAt t q = true := by
  obtain ⟨file, tier, weighed_tier, listed⟩ := fileAt_of_mem_decisive there
  exact ⟨candidate_of_mem_tiers regular named (weighed_subset t _ weighed_tier) listed, file⟩

theorem exists_of_mem_decisive (regular : p.Regular) (named : p.name ≠ "") :
    ∀ q ∈ decisive t (tiers t p), fileAt t q = true ∧ "." ∉ q.parts := by
  intro q found
  obtain ⟨candidate, file⟩ := candidate_of_mem_decisive regular named found
  exact ⟨file, fun point => ((candidate.regular regular).segments "." point).moving rfl⟩

theorem ruled_of_settle (grounded : t.Grounded) {found : List Path}
    (there : ∀ q ∈ found, fileAt t q = true ∧ "." ∉ q.parts) (reference : String)
    (base : Option String) : Ruled t reference base found (settle t reference base found) := by
  rcases found with _ | ⟨q, _ | ⟨r, rest⟩⟩
  · exact .nothing
  · exact .single q
  · obtain ⟨urls, mapped, named⟩ := mapM_pathToUrl grounded there
    simp only [settle, mapped]
    exact .several (by simp) named

/-! ## Later tiers -/

theorem weighed_append (t : FileTree) (first second : List (List Path)) :
    weighed t (first ++ second)
      = weighed t first ++ if decisive t first = [] then weighed t second else [] := by
  induction first with
  | nil => rfl
  | cons tier rest ih =>
    rw [List.cons_append, weighed, weighed, decisive]
    split
    · rw [ih, List.cons_append]
    · exact (List.append_nil [tier]).symm

/-- Tiers are weighed alike in two trees that agree on them. -/
theorem weighed_congr {ts : List (List Path)}
    (agree : ∀ tier ∈ weighed t ts, ∀ q ∈ tier, fileAt t' q = fileAt t q) :
    weighed t' ts = weighed t ts ∧ decisive t' ts = decisive t ts := by
  induction ts with
  | nil => exact ⟨rfl, rfl⟩
  | cons tier rest ih =>
    rw [weighed, List.forall_mem_cons] at agree
    have files : tier.filter (fileAt t') = tier.filter (fileAt t) := List.filter_congr agree.1
    rw [weighed, weighed, decisive, decisive, files]
    split
    · next nothing =>
      rw [if_pos nothing] at agree
      obtain ⟨tiers, found⟩ := ih agree.2
      rw [tiers, found]
      exact ⟨rfl, rfl⟩
    · exact ⟨rfl, rfl⟩

theorem settle_congr (same : t.SameFrame t') (grounded : t.Grounded) {found : List Path}
    (there : ∀ q ∈ found, fileAt t q = true ∧ "." ∉ q.parts)
    (still : ∀ q ∈ found, fileAt t' q = true) (reference : String) (base : Option String) :
    settle t' reference base found = settle t reference base found := by
  rcases found with _ | ⟨q, _ | ⟨r, rest⟩⟩
  · rfl
  · rfl
  · simp only [settle, mapM_pathToUrl_congr same grounded there still]

/-- Files that come and go behind the tier that decides make no difference. -/
theorem file_congr (same : t.SameFrame t') (grounded : t.Grounded) (regular : p.Regular)
    (named : p.name ≠ "")
    (agree : ∀ tier ∈ weighed t (tiers t p), ∀ q ∈ tier, fileAt t' q = fileAt t q)
    (reference : String) (base : Option String) :
    file t' p reference base = file t p reference base := by
  have index : indexTiers t' p = indexTiers t p := by
    rw [indexTiers, indexTiers, dirAt_congr same]
  have tiers_eq : tiers t' p = tiers t p := by
    rw [tiers, tiers, index]
  obtain ⟨-, decided⟩ := weighed_congr agree
  have asking : queries t' p = queries t p := by
    rw [tiers, weighed_append, List.forall_mem_append] at agree
    obtain ⟨name_tiers, name_decided⟩ := weighed_congr agree.1
    rw [queries, queries, name_tiers, name_decided, index]
    split
    · rfl
    · next undecided =>
      have nothing : decisive t (nameTiers p) = [] := not_not.mp (not_or.mp undecided).2
      rw [if_pos nothing] at agree
      rw [(weighed_congr agree.2).1]
  have there := exists_of_mem_decisive (t := t) regular named
  have still : ∀ q ∈ decisive t (tiers t p), fileAt t' q = true := by
    intro q found
    obtain ⟨file, tier, weighed_tier, listed⟩ := fileAt_of_mem_decisive found
    rw [agree tier weighed_tier q listed, file]
  have refusing : refused t' = refused t := funext (refused_congr same)
  rw [file_eq named, file_eq named, asking, tiers_eq, decided, refusing,
    settle_congr same grounded there still]

/-- Where the system takes every path it is asked about, the tiers say what a path stands for. -/
theorem ruled_of_taken (grounded : t.Grounded) (regular : p.Regular) (named : p.name ≠ "")
    (taken : ∀ q ∈ queries t p, refused t q = false) (reference : String) (base : Option String) :
    Ruled t reference base (decisive t (tiers t p)) (file t p reference base) := by
  have none_refused : (queries t p).find? (refused t) = none := by
    simpa [List.find?_eq_none] using taken
  rw [file_eq named, none_refused]
  exact ruled_of_settle grounded (exists_of_mem_decisive regular named) reference base

/-- A path with a name stands for what its tiers say, as long as the system takes every path it is asked
about; the first one that it refuses is reported. In both cases files behind the tier that decides have no
part in the outcome. -/
theorem file_follows_tiers (t : FileTree) (grounded : t.Grounded) (p : Path) (regular : p.Regular)
    (named : p.name ≠ "") (reference : String) (base : Option String) :
    ((∀ q ∈ queries t p, refused t q = false) →
      Ruled t reference base (decisive t (tiers t p)) (file t p reference base)) ∧
    (∀ q, (queries t p).find? (refused t) = some q →
      file t p reference base = .error (.blockedPath .tooLong q)) ∧
    ∀ t', t.SameFrame t' →
      (∀ tier ∈ weighed t (tiers t p), ∀ q ∈ tier, fileAt t' q = fileAt t q) →
      file t' p reference base = file t p reference base := by
  refine ⟨?_, ?_, ?_⟩
  · intro taken
    exact ruled_of_taken grounded regular named taken reference base
  · intro q first
    rw [file_eq named, first]
  · intro t' same agree
    exact file_congr same grounded regular named agree reference base

end Lookup

namespace FileTree

variable {t : FileTree} {p : Path} {name : String} {here rest : List String} {n : Nat}

theorem Proper.walk_dir (proper : Proper name) (found : t.find? (here ++ [name]) = some .dir) :
    t.walk n here (name :: rest) = t.walk n (here ++ [name]) rest := by
  simp only [walk, if_neg proper.staying.1, if_neg proper.staying.2, if_neg (Nat.not_lt.mpr proper.short),
    found]

theorem Proper.walk_link (proper : Proper name) {target : String}
    (found : t.find? (here ++ [name]) = some (.link target)) :
    t.walk (n + 1) here (name :: rest)
      = t.walk n (if (Path.ofText target).isAbsolute then [] else here) (Path.steps target ++ rest) := by
  simp only [walk, if_neg proper.staying.1, if_neg proper.staying.2, if_neg (Nat.not_lt.mpr proper.short),
    found]

theorem Proper.walk_last (proper : Proper name) (ended : framed (t.find? (here ++ [name])) = none) :
    t.walk n here [name] = .ok (here ++ [name], t.find? (here ++ [name])) := by
  rcases framed_eq_none.mp ended with absent | ⟨bytes, entry⟩
  · simp only [walk, if_neg proper.staying.1, if_neg proper.staying.2,
      if_neg (Nat.not_lt.mpr proper.short), absent, if_true]
  · simp only [walk, if_neg proper.staying.1, if_neg proper.staying.2,
      if_neg (Nat.not_lt.mpr proper.short), entry, if_true]

theorem locate_of_walk {site : List String} {e : Option Entry} (short : p.toText.utf8ByteSize < maxText)
    (walked : t.walk maxLinks [] (t.absolute p) = .ok (site, e)) : t.locate p = .ok (site, e) := by
  rw [locate, if_neg (Nat.not_le.mpr short), walked]

/-- A walk into a directory below the root ends at a segment where there is no directory and no link. -/
theorem Proper.locate_within (proper : Proper name) {dir : String} (outer : Proper dir)
    (top : t.current = []) (folder : t.find? [dir] = some .dir)
    (ended : framed (t.find? [dir, name]) = none)
    (short : (Path.toText ⟨0, [dir, name]⟩).utf8ByteSize < maxText) :
    t.locate ⟨0, [dir, name]⟩ = .ok ([dir, name], t.find? [dir, name]) := by
  refine locate_of_walk short ?_
  have start : t.absolute ⟨0, [dir, name]⟩ = [dir, name] := by
    simp [absolute, Path.isAbsolute, top]
  rw [start, outer.walk_dir folder]
  exact proper.walk_last ended

theorem probe_of_locate (plain : p.holdsNul = false) {site : List String} {e : Option Entry}
    (located : t.locate p = .ok (site, e)) : t.probe p = .ok e := by
  rw [probe, plain, if_neg Bool.false_ne_true, located]

end FileTree

namespace Lines

open FileTree Lookup

/-- A directory with a partial, a link to it, and a file of the next tier. -/
def linkedLib : FileTree :=
  ⟨[(["lib"], .dir), (["lib", "_a.scss"], .file [120]), (["lib", "a.scss"], .link "_a.scss"),
    (["lib", "a.css"], .file [121])], []⟩

theorem linkedLib_locate {name : String} (proper : Proper name)
    (ended : framed (linkedLib.find? ["lib", name]) = none)
    (short : (Path.toText ⟨0, ["lib", name]⟩).utf8ByteSize < maxText) :
    linkedLib.locate ⟨0, ["lib", name]⟩ = .ok (["lib", name], linkedLib.find? ["lib", name]) :=
  proper.locate_within ⟨by decide, by decide, by decide⟩ rfl rfl ended short

theorem linkedLib_link :
    linkedLib.locate ⟨0, ["lib", "a.scss"]⟩ = .ok (["lib", "_a.scss"], some (.file [120])) := by
  have lib : Proper "lib" := ⟨by decide, by decide, by decide⟩
  have link : Proper "a.scss" := ⟨by decide, by decide, by decide⟩
  have goal : Proper "_a.scss" := ⟨by decide, by decide, by decide⟩
  have target : Path.steps "_a.scss" = ["_a.scss"] := by decide
  have relative : (Path.ofText "_a.scss").isAbsolute = false := by decide
  refine locate_of_walk (by decide) ?_
  show linkedLib.walk maxLinks [] ["lib", "a.scss"] = _
  have linked : linkedLib.find? ([] ++ ["lib"] ++ ["a.scss"]) = some (.link "_a.scss") := rfl
  rw [lib.walk_dir rfl, show maxLinks = 39 + 1 from rfl, link.walk_link linked, target, relative]
  exact goal.walk_last rfl

theorem linked_partial_ambiguous :
    linkedLib.Grounded ∧ Path.Regular ⟨0, ["lib", "a"]⟩ ∧
      file linkedLib ⟨0, ["lib", "a"]⟩ "lib/a" none = .error (.failure
        (Failure.ambiguous "lib/a" ["file:///lib/_a.scss", "file:///lib/_a.scss"] none)) := by
  have grounded : linkedLib.Grounded := Straight.nil linkedLib
  have regular : Path.Regular ⟨0, ["lib", "a"]⟩ := Path.regular_ofText "lib/a"
  have partial_sass : linkedLib.probe ⟨0, ["lib", "_a.sass"]⟩ = .ok none :=
    probe_of_locate (by decide) (linkedLib_locate ⟨by decide, by decide, by decide⟩ rfl (by decide))
  have plain_sass : linkedLib.probe ⟨0, ["lib", "a.sass"]⟩ = .ok none :=
    probe_of_locate (by decide) (linkedLib_locate ⟨by decide, by decide, by decide⟩ rfl (by decide))
  have located : linkedLib.locate ⟨0, ["lib", "_a.scss"]⟩ = .ok (["lib", "_a.scss"], some (.file [120])) :=
    linkedLib_locate ⟨by decide, by decide, by decide⟩ rfl (by decide)
  have partial_scss : linkedLib.probe ⟨0, ["lib", "_a.scss"]⟩ = .ok (some (.file [120])) :=
    probe_of_locate (by decide) located
  have plain_scss : linkedLib.probe ⟨0, ["lib", "a.scss"]⟩ = .ok (some (.file [120])) :=
    probe_of_locate (by decide) linkedLib_link
  have names : nameTiers ⟨0, ["lib", "a"]⟩
      = [[⟨0, ["lib", "_a.sass"]⟩, ⟨0, ["lib", "a.sass"]⟩, ⟨0, ["lib", "_a.scss"]⟩, ⟨0, ["lib", "a.scss"]⟩],
        [⟨0, ["lib", "_a.css"]⟩, ⟨0, ["lib", "a.css"]⟩]] := by decide
  have decided : decisive linkedLib (tiers linkedLib ⟨0, ["lib", "a"]⟩)
      = [⟨0, ["lib", "_a.scss"]⟩, ⟨0, ["lib", "a.scss"]⟩] := by
    simp [tiers, names, decisive, fileAt, partial_sass, plain_sass, partial_scss, plain_scss]
  have taken : ∀ q ∈ queries linkedLib ⟨0, ["lib", "a"]⟩, refused linkedLib q = false := by
    simp [queries, names, weighed, decisive, fileAt, refused, partial_sass, plain_sass, partial_scss,
      plain_scss]
  have ruled := (file_follows_tiers linkedLib grounded ⟨0, ["lib", "a"]⟩ regular (by decide) "lib/a"
    none).1 taken
  rw [decided] at ruled
  refine ⟨grounded, regular, ?_⟩
  generalize file linkedLib ⟨0, ["lib", "a"]⟩ "lib/a" none = outcome at ruled
  obtain - | - | ⟨-, named⟩ := ruled
  obtain - | ⟨⟨site, bytes, first, rfl⟩, - | ⟨⟨site', bytes', second, rfl⟩, - | -⟩⟩ := named
  rw [located] at first
  rw [linkedLib_link] at second
  cases first
  cases second
  have url : urlOf ["lib", "_a.scss"] = "file:///lib/_a.scss" := by decide +kernel
  rw [url]

/-! ## A name without room for its candidates -/

def letters (n : Nat) : String := String.ofList (List.replicate n 'a')

theorem mem_letters {n : Nat} {c : Char} (there : c ∈ (letters n).toList) : c = 'a' := by
  rw [letters, String.toList_ofList] at there
  exact List.eq_of_mem_replicate there

theorem letters_size (n : Nat) : (letters n).utf8ByteSize = n := by
  induction n with
  | zero => rfl
  | succ n ih =>
    rw [letters, List.replicate_succ', String.ofList_append, String.utf8ByteSize_append]
    exact congrArg (· + 1) ih

def oneFile (name : String) : FileTree := filed [(name, "x")]

theorem oneFile_refuses (name : String) {w : String} (long : maxName < w.utf8ByteSize)
    (plain : w.toList.contains (Char.ofNat 0) = false) :
    (oneFile name).probe ⟨0, [w]⟩ = .error .tooLong := by
  have moving : w ≠ ".." ∧ w ≠ "." := by
    constructor <;> rintro rfl <;> exact absurd long (by decide)
  have walked : (oneFile name).walk maxLinks [] [w] = .error .tooLong := by
    rw [FileTree.walk, if_neg moving.1, if_neg moving.2, if_pos long]
  have located : (oneFile name).locate ⟨0, [w]⟩ = .error .tooLong := by
    unfold locate
    split
    · rfl
    · exact walked
  have taken : Path.holdsNul ⟨0, [w]⟩ = false := by
    simpa [Path.holdsNul] using plain
  rw [FileTree.probe, taken, if_neg Bool.false_ne_true, located]

theorem oneFile_probe (name : String) {w : String} (proper : Proper w) :
    (oneFile name).probe ⟨0, [w]⟩
      = .ok (if w = name then some (.file (Text.Utf8.encode ['x'])) else none) := by
  have listed : (oneFile name).find? [w]
      = if w = name then some (.file (Text.Utf8.encode ['x'])) else none := by
    by_cases same : w = name
    · simp [oneFile, filed, FileTree.find?, same]
    · simp [oneFile, filed, FileTree.find?, same, List.lookup_cons, beq_false_of_ne same]
  rw [← listed]
  exact (linkless_filed _).probe_name rfl proper

section

variable {name : String} (size : name.utf8ByteSize = 250) (plain : ∀ c ∈ name.toList, c = 'a')

include size plain

theorem regular_of_letters : Path.Regular ⟨0, [name]⟩ := by
  have named : name ≠ "" := fun empty => absurd (empty ▸ size) (by decide)
  have staying : name ≠ "." := fun point => absurd (point ▸ size) (by decide)
  have whole : '/' ∉ name.toList := fun slash => absurd (plain _ slash) (by decide)
  exact ⟨Nat.zero_le 2, by simpa using ⟨named, staying, whole⟩⟩

omit size in
theorem suffix_of_letters : Path.suffix ⟨0, [name]⟩ = "" := by
  have pointless : ∀ c ∈ name.toList.reverse, (c != '.') = true := by
    intro c there
    rw [plain c (List.mem_reverse.mp there)]
    decide
  have whole : name.toList.reverse.takeWhile (· != '.') = name.toList.reverse := by
    rw [← List.append_nil name.toList.reverse, List.takeWhile_append_of_pos pointless]
    rfl
  have last : Path.name ⟨0, [name]⟩ = name := rfl
  simp [Path.suffix, last, Path.suffixOf, whole]

theorem proper_of_letters {e : String} (five : e.utf8ByteSize = 5) (taken : Char.ofNat 0 ∉ e.toList) :
    Proper (name ++ e) := by
  have total : (name ++ e).utf8ByteSize = 255 := by
    rw [String.utf8ByteSize_append, size, five]
  have letters_taken : Char.ofNat 0 ∉ name.toList := fun there => absurd (plain _ there) (by decide)
  refine ⟨⟨?_, ?_⟩, Nat.le_of_eq total, by simp [taken, letters_taken]⟩
  · intro point
    exact absurd (point ▸ total) (by decide)
  · intro up
    exact absurd (up ▸ total) (by decide)

/-- A partial is longer by one octet, which is one too many. -/
theorem oneFile_partial_refused {e : String} (five : e.utf8ByteSize = 5)
    (taken : Char.ofNat 0 ∉ e.toList) (file : String) :
    (oneFile file).probe ⟨0, ["_" ++ name ++ e]⟩ = .error .tooLong := by
  have total : ("_" ++ name ++ e).utf8ByteSize = 256 := by
    rw [String.utf8ByteSize_append, String.utf8ByteSize_append, size, five]
    rfl
  have letters_taken : Char.ofNat 0 ∉ name.toList := fun there => absurd (plain _ there) (by decide)
  exact oneFile_refuses file (by rw [total]; decide) (by simp [taken, letters_taken])

theorem letters_refused :
    decisive (oneFile (name ++ ".scss")) (tiers (oneFile (name ++ ".scss")) ⟨0, [name]⟩)
        = [⟨0, [name ++ ".scss"]⟩] ∧
      file (oneFile (name ++ ".scss")) ⟨0, [name]⟩ name none
        = .error (.blockedPath .tooLong ⟨0, ["_" ++ name ++ ".sass"]⟩) := by
  have partial_sass := oneFile_partial_refused size plain (e := ".sass") (by decide) (by decide)
    (name ++ ".scss")
  have partial_scss := oneFile_partial_refused size plain (e := ".scss") (by decide) (by decide)
    (name ++ ".scss")
  have plain_sass := oneFile_probe (name ++ ".scss")
    (proper_of_letters size plain (e := ".sass") (by decide) (by decide))
  have plain_scss := oneFile_probe (name ++ ".scss")
    (proper_of_letters size plain (e := ".scss") (by decide) (by decide))
  rw [if_neg (mt (String.append_right_inj name).mp (by decide))] at plain_sass
  rw [if_pos rfl] at plain_scss
  have names : nameTiers ⟨0, [name]⟩
      = [[⟨0, ["_" ++ name ++ ".sass"]⟩, ⟨0, [name ++ ".sass"]⟩,
          ⟨0, ["_" ++ name ++ ".scss"]⟩, ⟨0, [name ++ ".scss"]⟩],
        [⟨0, ["_" ++ name ++ ".css"]⟩, ⟨0, [name ++ ".css"]⟩]] := by
    rw [nameTiers, suffix_of_letters plain, if_neg (by decide)]
    rfl
  constructor
  · simp [tiers, names, decisive, fileAt, partial_sass, plain_sass, partial_scss, plain_scss]
  · have named : Path.name ⟨0, [name]⟩ ≠ "" :=
      ((regular_of_letters size plain).segments name (by simp)).nonempty
    rw [file_eq named]
    simp [queries, names, weighed, refused, partial_sass]

end

/-- The only candidate that is there is not found. -/
theorem long_name_refused :
    (oneFile (letters 250 ++ ".scss")).Grounded ∧ Path.Regular ⟨0, [letters 250]⟩ ∧
      Path.name ⟨0, [letters 250]⟩ ≠ "" ∧
      decisive (oneFile (letters 250 ++ ".scss"))
        (tiers (oneFile (letters 250 ++ ".scss")) ⟨0, [letters 250]⟩)
        = [⟨0, [letters 250 ++ ".scss"]⟩] ∧
      file (oneFile (letters 250 ++ ".scss")) ⟨0, [letters 250]⟩ (letters 250) none
        = .error (.blockedPath .tooLong ⟨0, ["_" ++ letters 250 ++ ".sass"]⟩) ∧
      ¬ Ruled (oneFile (letters 250 ++ ".scss")) (letters 250) none
        (decisive (oneFile (letters 250 ++ ".scss"))
          (tiers (oneFile (letters 250 ++ ".scss")) ⟨0, [letters 250]⟩))
        (file (oneFile (letters 250 ++ ".scss")) ⟨0, [letters 250]⟩ (letters 250) none) := by
  have size := letters_size 250
  have plain : ∀ c ∈ (letters 250).toList, c = 'a' := fun c => mem_letters
  have regular := regular_of_letters size plain
  obtain ⟨decided, refusal⟩ := letters_refused size plain
  refine ⟨Straight.nil _, regular, (regular.segments _ (List.mem_singleton_self _)).nonempty, decided,
    refusal, ?_⟩
  rw [decided, refusal]
  rintro ⟨⟩

end Lines

end StyleBuild
