import StyleBuild.Proofs.NamedFailures
import StyleBuild.Proofs.PackageReferences

/-!
# Replies of a directory

A directory's importer is to answer, to decline or to report that several files match. Four things stand in its
way, all of them found out before a file is read: a reference that is no URL, a requester's URL that is none, a
path that has no last segment, and a path that the system refuses for its length. Each of them is what the
importer fails with, and the resolvers behind it are then not asked.
-/

set_option autoImplicit false

namespace StyleBuild

/-! ## Texts that are always split -/

theorem Text.mem_of_cutAt {sep : Char} {cs front rest : List Char} (cut : cutAt sep cs = some (front, rest)) :
    ∀ c ∈ rest, c ∈ cs := by
  induction cs generalizing front with
  | nil => cases cut
  | cons d cs ih =>
    intro c there
    rw [cutAt] at cut
    split at cut
    · cases cut
      exact List.mem_cons_of_mem d there
    · obtain ⟨⟨inner, behind⟩, cut_later, same⟩ := Option.map_eq_some_iff.mp cut
      cases same
      exact List.mem_cons_of_mem d (ih cut_later c there)

namespace Url

theorem mem_of_splitScheme {cs : List Char} : ∀ c ∈ (splitScheme cs).2, c ∈ cs := by
  intro c there
  unfold splitScheme at there
  split at there
  · next front rest cut =>
    split at there
    · split at there
      · exact Text.mem_of_cutAt cut c there
      · exact there
    · exact there
  · exact there

theorem mem_of_clean {cs : List Char} : ∀ c ∈ clean cs, c ∈ cs := by
  intro c there
  exact (List.dropWhile_sublist _).subset (List.mem_filter.mp there).1

/-- Only an authority is malformed, and it stands behind slashes. -/
theorem split_of_slashless {s : String} (slashless : '/' ∉ s.toList) : ∃ u, Url.split s = .ok u := by
  have behind : splitAuthority (splitScheme (clean s.toList)).2 = ([], (splitScheme (clean s.toList)).2) := by
    refine splitAuthority_of_local ?_
    rintro ⟨rest, shape⟩
    have there : '/' ∈ (splitScheme (clean s.toList)).2 := by
      rw [← shape]
      simp
    exact slashless (mem_of_clean _ (mem_of_splitScheme _ there))
  simp only [Url.split, behind]
  exact ⟨_, rfl⟩

theorem scheme_of_file {s : String} {u : Url} (file : Text.startsWith "file:" s = true)
    (split : Url.split s = .ok u) : u.scheme = "file".toList := by
  obtain ⟨rest, text⟩ := List.isPrefixOf_iff_prefix.mp file
  have cleaned : clean s.toList = "file:".toList ++ rest.filter fun c => c != '\t' && c != '\r' && c != '\n' := by
    rw [← text]
    rfl
  rw [← scheme_of_split split, cleaned]
  rfl

end Url

theorem Dialect.forLocation_of_slashless {w : String} (slashless : '/' ∉ w.toList) :
    ∃ dialect, forLocation w = .ok dialect := by
  obtain ⟨u, split⟩ := Url.split_of_slashless slashless
  unfold forLocation
  split
  · rw [split]
    exact ⟨_, rfl⟩
  · exact ⟨_, rfl⟩

/-! ## What stands in the way -/

namespace Lookup

open FileTree

variable {t : FileTree} {root p q : Path} {reference : String} {base : Option String} {f : Fault}

/-- Every file that shows a dialect by its name is a text. -/
def Readable (t : FileTree) : Prop :=
  ∀ q bytes, hasExtension q = true → t.entryAt q = some (.file bytes) →
    ∃ cs, Text.Utf8.decode bytes = .ok cs

/-- What is expected of a directory: a source, nothing, or that several files match. -/
inductive Orderly (reference : String) (base : Option String) : Except Fault (Option Source) → Prop
  | answered (s : Source) : Orderly reference base (.ok (some s))
  | declined : Orderly reference base (.ok none)
  | ambiguous {urls : List String} : 1 < urls.length →
      Orderly reference base (.error (.failure (Failure.ambiguous reference urls base)))

/-- What keeps a directory from replying, with the fault it comes to. -/
inductive Obstacle (t : FileTree) (root : Path) (reference : String) (base : Option String) : Fault → Prop
  | reference {m : Url.Malformed} : Url.split reference = .error m →
      Obstacle t root reference base (.malformedUrl m)
  /-- A relative reference is looked up next to the requester. -/
  | requester {u : Url} {b : String} {m : Url.Malformed} : Url.split reference = .ok u →
      u.scheme.length ≤ 1 → (Path.ofText (Url.unquoteText reference)).isAbsolute = false →
      base = some b → Text.startsWith "file:" b = true → Url.split b = .error m →
      Obstacle t root reference base (.malformedUrl m)
  | unnamed {p : Path} : target root reference base = .ok (some p) → p.parts = [] →
      Obstacle t root reference base (.unnamedPath p)
  | refused {p q : Path} : target root reference base = .ok (some p) → p.parts ≠ [] →
      (queries t p).find? (refused t) = some q → Obstacle t root reference base (.blockedPath .tooLong q)

theorem target_of_requester {u : Url} {b : String} (split : Url.split reference = .ok u)
    (schemeless : u.scheme.length ≤ 1)
    (relative : (Path.ofText (Url.unquoteText reference)).isAbsolute = false)
    (file : Text.startsWith "file:" b = true) :
    target root reference (some b)
      = (urlToPath b).map fun requester => some (requester.parent / Path.ofText (Url.unquoteText reference)) := by
  have other : u.scheme ≠ "file".toList := by
    intro same
    rw [same] at schemeless
    exact absurd schemeless (by decide)
  rw [target, split]
  dsimp only
  rw [if_neg other, if_neg (Nat.not_lt.mpr schemeless), relative, if_neg Bool.false_ne_true, if_pos file]
  rfl

theorem reply_of_target_error (failed : target root reference base = .error f) :
    (inDirectory t root reference base).1 = .error f := by
  unfold inDirectory answer
  rw [failed]

theorem reply_of_obstacle (regular : root.Regular) (obstacle : Obstacle t root reference base f) :
    (inDirectory t root reference base).1 = .error f := by
  cases obstacle with
  | reference malformed =>
    refine reply_of_target_error ?_
    rw [target, malformed]
  | requester split schemeless relative asked file malformed =>
    subst asked
    refine reply_of_target_error ?_
    rw [target_of_requester split schemeless relative file, urlToPath, malformed]
    rfl
  | @unnamed p aimed none_there =>
    have unnamed : p.name = "" := by
      rw [Path.name, none_there]
      rfl
    rw [inDirectory, aimed]
    exact answer_of_fault (file_of_unnamed (regular_of_target regular aimed) unnamed) _
  | @refused p q aimed some_there first =>
    have named := (regular_of_target regular aimed).name_ne_empty some_there
    rw [inDirectory, aimed]
    refine answer_of_fault ?_ _
    rw [file_eq named, first]

theorem obstacle_of_target (failed : target root reference base = .error f) :
    Obstacle t root reference base f := by
  unfold target at failed
  split at failed
  · next m malformed =>
    cases failed
    exact .reference malformed
  · next u split =>
    split at failed
    · next scheme =>
      rw [urlToPath, split] at failed
      dsimp only at failed
      rw [if_pos scheme] at failed
      cases failed
    · split at failed
      · cases failed
      · next short =>
        dsimp only at failed
        split at failed
        · next b =>
          split at failed
          · cases failed
          · next relative =>
            split at failed
            · next file =>
              unfold urlToPath at failed
              split at failed
              · next m malformed =>
                cases failed
                exact .requester split (Nat.not_lt.mp short) (Bool.eq_false_iff.mpr relative) rfl file malformed
              · next u' asked =>
                rw [if_pos (Url.scheme_of_file file asked)] at failed
                cases failed
            · cases failed
        · cases failed

/-! ## What comes out otherwise -/

theorem loads_of_found (grounded : t.Grounded) (readable : Readable t) (regular : p.Regular)
    (found : file t p reference base = .ok (some q)) : ∃ s, Loads t q s := by
  obtain ⟨candidate, there⟩ := found_of_file regular found
  obtain ⟨plain, site, bytes, located⟩ := located_of_fileAt there
  have dotless : "." ∉ q.parts := fun point => ((candidate.regular regular).segments "." point).moving rfl
  obtain ⟨cs, decoded⟩ := readable q bytes candidate.known (by rw [entryAt, located])
  obtain ⟨dialect, shown⟩ := Dialect.forLocation_of_slashless candidate.segment.whole
  exact ⟨_, loads_of_located grounded dotless plain located decoded shown⟩

theorem orderly_of_target (grounded : t.Grounded) (readable : Readable t) (regular : p.Regular)
    (aimed : target root reference base = .ok (some p)) (some_there : p.parts ≠ [])
    (taken : ∀ q ∈ queries t p, refused t q = false) :
    Orderly reference base (inDirectory t root reference base).1 := by
  have ruled := ruled_of_taken grounded regular (regular.name_ne_empty some_there) taken reference base
  rw [inDirectory, aimed]
  generalize decisive t (tiers t p) = files at ruled
  rcases found : file t p reference base with f | _ | q
  · rw [found] at ruled
    obtain - | - | ⟨several, urls⟩ := ruled
    rw [answer_of_fault found]
    exact .ambiguous (urls.length_eq ▸ several)
  · rw [answer_of_missing found]
    exact .declined
  · obtain ⟨s, loads⟩ := loads_of_found grounded readable regular found
    rw [answer_eq_some_iff.mpr ⟨p, q, rfl, found, loads⟩]
    exact .answered s

theorem orderly_or_obstacle (grounded : t.Grounded) (readable : Readable t) (regular : root.Regular)
    (reference : String) (base : Option String) :
    Orderly reference base (inDirectory t root reference base).1 ∨
      ∃ f, Obstacle t root reference base f := by
  rcases aimed : target root reference base with f | _ | p
  · exact .inr ⟨f, obstacle_of_target aimed⟩
  · refine .inl ?_
    rw [inDirectory, aimed]
    exact .declined
  · by_cases none_there : p.parts = []
    · exact .inr ⟨_, .unnamed aimed none_there⟩
    · rcases first : (queries t p).find? (refused t) with _ | q
      · refine .inl (orderly_of_target grounded readable (regular_of_target regular aimed) aimed none_there ?_)
        simpa [List.find?_eq_none] using first
      · exact .inr ⟨_, .refused aimed none_there first⟩

theorem Obstacle.not_orderly (obstacle : Obstacle t root reference base f) :
    ¬ Orderly reference base (.error f) := by
  intro orderly
  cases obstacle <;> cases orderly

end Lookup

/-! ## In a cascade -/

namespace Import

open Lookup

variable {K : Kit} {s : Session K} {r : Resolver} {root : Path} {reference : String} {asker : Option String}

theorem ask_directory (c : Collaborators K) (mode : Mode) (directory : r.importer = .directory root)
    (reference : String) (asker : Option String) (s : Session K) :
    (ask r reference asker).exec (c.settled mode) s
      = ((inDirectory s.world.files root reference (baseFor r asker)).1.map Offer.ofSource?,
        { s with world :=
          s.world.emitAll (inDirectory s.world.files root reference (baseFor r asker)).2 }) := by
  rw [ask_importer (by rw [directory]; rintro v ⟨⟩), directory, ← c.settled_directory]
  rfl

/-- What a directory declines is put to the next resolver, and only the events have become more. -/
theorem firstAnswer_of_declined (c : Collaborators K) (mode : Mode) (directory : r.importer = .directory root)
    (declined : (inDirectory s.world.files root reference (baseFor r asker)).1 = .ok none)
    (rest : List Resolver) :
    ∃ events, (firstAnswer reference asker (r :: rest)).exec (c.settled mode) s
      = (firstAnswer reference asker rest).exec (c.settled mode) { s with world := s.world.emitAll events } := by
  have asked := ask_directory c mode directory reference asker s
  rw [declined] at asked
  have passed := (Prod.mk.inj (firstAnswer_cons asked rest)).1
  refine ⟨(inDirectory s.world.files root reference (baseFor r asker)).2 ++ [.declined r.label reference], ?_⟩
  rw [passed]
  simp only [Session.emit, World.emit, World.emitAll, List.append_assoc]

/-- What stands in a directory's way ends the search, the resolvers behind it unasked. -/
theorem firstAnswer_of_obstacle (c : Collaborators K) (mode : Mode) (regular : root.Regular)
    (directory : r.importer = .directory root) {f : Fault}
    (obstacle : Obstacle s.world.files root reference (baseFor r asker) f) (rest : List Resolver) :
    ((firstAnswer reference asker (r :: rest)).exec (c.settled mode) s).1 = .error f ∧
      c.exchanges mode (firstAnswer reference asker (r :: rest)) s
        = [⟨.resolve (.directory root) reference (baseFor r asker), .error f⟩] := by
  have asked := ask_directory c mode directory reference asker s
  rw [reply_of_obstacle regular obstacle] at asked
  have once := exchanges_ask (by rw [directory]; rintro v ⟨⟩) asked
  obtain ⟨ended, noted⟩ := Prod.mk.inj (firstAnswer_cons asked rest)
  have raised : askFault r reference f = f := by
    cases obstacle <;> rfl
  rw [ended, noted, once, directory, raised]
  exact ⟨rfl, rfl⟩

/-- A directory of readable files answers, declines or reports that several files match, unless one of the four
obstacles is there; what it declines is passed on, and what an obstacle comes to ends the search. -/
theorem directory_replies (c : Collaborators K) (mode : Mode) (grounded : s.world.files.Grounded)
    (readable : Readable s.world.files) (regular : root.Regular) (reference : String) (base : Option String) :
    (Orderly reference base (inDirectory s.world.files root reference base).1 ↔
      ∀ f, ¬ Obstacle s.world.files root reference base f) ∧
    ∀ (r : Resolver) (rest : List Resolver) (asker : Option String), r.importer = .directory root →
      baseFor r asker = base →
      ((inDirectory s.world.files root reference base).1 = .ok none →
        ∃ events, (firstAnswer reference asker (r :: rest)).exec (c.settled mode) s
          = (firstAnswer reference asker rest).exec (c.settled mode)
            { s with world := s.world.emitAll events }) ∧
      ∀ f, Obstacle s.world.files root reference base f →
        (inDirectory s.world.files root reference base).1 = .error f ∧
        ((firstAnswer reference asker (r :: rest)).exec (c.settled mode) s).1 = .error f ∧
        c.exchanges mode (firstAnswer reference asker (r :: rest)) s
          = [⟨.resolve (.directory root) reference base, .error f⟩] := by
  constructor
  · constructor
    · intro orderly f obstacle
      rw [reply_of_obstacle regular obstacle] at orderly
      exact obstacle.not_orderly orderly
    · intro clear
      rcases orderly_or_obstacle grounded readable regular reference base with orderly | ⟨f, obstacle⟩
      · exact orderly
      · exact absurd obstacle (clear f)
  · rintro r rest asker directory rfl
    constructor
    · intro declined
      exact firstAnswer_of_declined c mode directory declined rest
    · intro f obstacle
      exact ⟨reply_of_obstacle regular obstacle, firstAnswer_of_obstacle c mode regular directory obstacle rest⟩

end Import

namespace Lines

open FileTree Lookup

theorem readable_oneFile (name : String) : Readable (oneFile name) := by
  intro q bytes _ entry
  unfold entryAt at entry
  split at entry
  · next site e located =>
    subst entry
    obtain ⟨dir, w, rfl, kept⟩ := keeps_of_locate located
    have listed := kept.entry
    rw [FileTree.find?, if_neg (by simp)] at listed
    have stored : bytes = Text.Utf8.encode ['x'] := by
      by_cases same : dir ++ [w] = [name]
      · simpa [oneFile, filed, same] using listed.symm
      · simp [oneFile, filed, List.lookup_cons, beq_false_of_ne same] at listed
    rw [stored]
    exact ⟨_, Text.Utf8.decodeFrom_encode (by simp) 0⟩
  · cases entry

/-- An empty reference names the directory that is searched, which has no last segment. -/
theorem empty_reference_unnamed : Obstacle (oneFile "a.scss") ⟨0, []⟩ "" none (.unnamedPath ⟨0, []⟩) := by
  have split : Url.split "" = .ok ⟨[], []⟩ := rfl
  have decoded : Url.unquoteText "" = "" := by decide +kernel
  refine .unnamed ?_ rfl
  simp only [target, split, decoded]
  rfl

/-- Neither reference is passed on, though there is nothing to read for it. -/
theorem nameless_references_fault :
    (oneFile "a.scss").Grounded ∧ Readable (oneFile "a.scss") ∧ Path.Regular ⟨0, []⟩ ∧
      (inDirectory (oneFile "a.scss") ⟨0, []⟩ "" none).1 = .error (.unnamedPath ⟨0, []⟩) ∧
      ¬ Orderly "" none (inDirectory (oneFile "a.scss") ⟨0, []⟩ "" none).1 ∧
      (inDirectory (oneFile "a.scss") ⟨0, []⟩ "//[" none).1 = .error (.malformedUrl .brackets) ∧
      ¬ Orderly "//[" none (inDirectory (oneFile "a.scss") ⟨0, []⟩ "//[" none).1 := by
  have regular : Path.Regular ⟨0, []⟩ := Path.regular_ofText ""
  have malformed : Obstacle (oneFile "a.scss") ⟨0, []⟩ "//[" none (.malformedUrl .brackets) := .reference rfl
  have unnamed := empty_reference_unnamed
  have first := reply_of_obstacle regular unnamed
  have second := reply_of_obstacle regular malformed
  refine ⟨(situated_filed _).grounded, readable_oneFile _, regular, first, ?_, second, ?_⟩
  · rw [first]
    exact unnamed.not_orderly
  · rw [second]
    exact malformed.not_orderly

/-- Next to the requester there is the file itself, and the partial that is asked for before it is short. -/
theorem neighbour_unobstructed (f : Fault) :
    ¬ Obstacle (oneFile "a.scss") ⟨0, []⟩ "a.scss" (some "file:///main.scss") f := by
  have split : Url.split "a.scss" = .ok ⟨[], "a.scss".toList⟩ := rfl
  have asker : Url.split "file:///main.scss" = .ok ⟨"file".toList, "/main.scss".toList⟩ := rfl
  have aimed := twins_aimed.1
  have linkless : (oneFile "a.scss").Linkless := linkless_filed _
  have under := linkless.probe_root (w := "_a.scss") ⟨by decide, by decide, by decide⟩
  have plain := linkless.probe_root (w := "a.scss") ⟨by decide, by decide, by decide⟩
  have asking : queries (oneFile "a.scss") ⟨1, ["a.scss"]⟩ = [⟨1, ["_a.scss"]⟩, ⟨1, ["a.scss"]⟩] :=
    queries_of_known _ (by decide)
  intro obstacle
  cases obstacle with
  | reference malformed => cases split.symm.trans malformed
  | requester _ _ _ same _ malformed =>
    cases same
    cases asker.symm.trans malformed
  | unnamed other none_there =>
    cases aimed.symm.trans other
    cases none_there
  | refused other _ first =>
    cases aimed.symm.trans other
    rw [asking] at first
    simp [refused, under, plain] at first

/-- A file is replied with; an empty reference ends the search before the second load path. -/
theorem replies_of_one_file :
    Orderly "a.scss" (some "file:///main.scss")
        (inDirectory (oneFile "a.scss") ⟨0, []⟩ "a.scss" (some "file:///main.scss")).1 ∧
      (directly []).exchanges .direct
          (Import.firstAnswer "" none ([".", "lib"].map (.ofDirectory .loadPath "load_path:")))
          (filedSession [("a.scss", "x")])
        = [⟨.resolve (.directory ⟨0, []⟩) "" none, .error (.unnamedPath ⟨0, []⟩)⟩] := by
  have grounded : (filedSession [("a.scss", "x")]).world.files.Grounded := (situated_filed _).grounded
  have readable : Readable (filedSession [("a.scss", "x")]).world.files := readable_oneFile "a.scss"
  have regular : Path.Regular ⟨0, []⟩ := Path.regular_ofText ""
  have named := Import.directory_replies (directly []) .direct grounded readable regular "a.scss"
    (some "file:///main.scss")
  have unnamed := Import.directory_replies (directly []) .direct grounded readable regular "" none
  refine ⟨named.1.mpr neighbour_unobstructed, ?_⟩
  exact ((unnamed.2 _ _ none rfl rfl).2 _ empty_reference_unnamed).2.2

end Lines

end StyleBuild
