import StyleBuild.Proofs.FileUrls
import StyleBuild.Proofs.RealPaths

/-!
# Resolved paths and their URLs

An absolute path without points and links is its own real path, whether anything is there or not. Its canonical URL
is that of no other resolved path and leads back to it, whatever characters its segments have. Only a path whose
first segment has a colon as second character is taken for one with a drive letter: read back, it is relative.
-/

set_option autoImplicit false

namespace StyleBuild

/-- The text of a path looks like a drive letter after a slash. -/
def Path.LikeDrive (p : Path) : Prop := p.toText.toList[2]? = some ':'

instance (p : Path) : Decidable p.LikeDrive := inferInstanceAs (Decidable (_ = _))

namespace FileTree

variable {t : FileTree} {p : Path} {here rest parts : List String}

/-- An absolute path that a system could take, without points and without a link on the way. -/
structure Resolved (t : FileTree) (p : Path) : Prop where
  rooted : p.slashes = 1
  segments : ∀ w ∈ p.parts, Path.Segment w
  straight : t.Straight p.parts
  plain : p.holdsNul = false

/-! ## The real path -/

theorem Straight.site (straight : t.Straight parts) : t.site ⟨1, parts⟩ = parts :=
  foldl_stays (fun up => (straight.names ".." up).1 rfl) []

/-- On a straight way there is nothing to replace. -/
theorem Straight.replaceLinks (straight : t.Straight (here ++ rest)) (fuel : Nat) (met : Met) :
    t.replaceLinks fuel met ⟨1, here⟩ rest = (⟨1, here ++ rest⟩, true, met) := by
  induction rest generalizing here with
  | nil => rw [FileTree.replaceLinks, List.append_nil]
  | cons name rest ih =>
    have up : name ≠ ".." := (straight.names name (by simp)).1
    have onward : here ++ name :: rest = (here ++ [name]) ++ rest := by simp
    rw [onward] at straight ⊢
    have front : t.Straight (here ++ [name]) := straight.of_prefix (List.prefix_append _ rest)
    have plain : ∀ target, t.find? (t.site ⟨1, here ++ [name]⟩) ≠ some (.link target) := by
      rw [front.site]
      exact front.linkless _ (List.prefix_refl _)
    rw [FileTree.replaceLinks, if_neg up]
    dsimp only
    split
    · next target linked => exact absurd linked (plain target)
    · exact ih straight

theorem Straight.realPath (straight : t.Straight parts) (plain : Path.holdsNul ⟨1, parts⟩ = false) :
    t.realPath ⟨1, parts⟩ = .ok ⟨1, parts⟩ := by
  have replaced := @Straight.replaceLinks t [] parts straight (2 * t.entries.length + 2) []
  have real : t.realParts ⟨1, parts⟩ = parts := by
    unfold realParts
    rw [show min 1 (Path.mk 1 parts).slashes = 1 from rfl, replaced]
    exact straight.site
  have unlooped : t.locate ⟨1, parts⟩ ≠ .error .loop := by
    unfold locate
    split
    · rintro ⟨⟩
    · exact straight.walk_ne_loop maxLinks
  unfold FileTree.realPath
  rw [plain, if_neg Bool.false_ne_true, real]
  dsimp only
  split
  · next looping => exact absurd looping unlooped
  · rfl

theorem Resolved.eq_mk (resolved : t.Resolved p) : p = ⟨1, p.parts⟩ := by
  obtain ⟨slashes, parts⟩ := p
  rw [show slashes = 1 from resolved.rooted]

theorem Resolved.pathToUrl (resolved : t.Resolved p) : t.pathToUrl p = .ok (urlOf p.parts) := by
  have plain := resolved.plain
  rw [resolved.eq_mk] at plain ⊢
  rw [FileTree.pathToUrl, resolved.straight.realPath plain]

/-! ## The way back -/

theorem dropDriveSlash_absoluteText (drive : (absoluteText parts).toList[2]? = some ':') :
    dropDriveSlash (absoluteText parts).toList = ("/".intercalate parts).toList := by
  have text : (absoluteText parts).toList = '/' :: ("/".intercalate parts).toList := by
    rw [absoluteText, String.toList_append]
    rfl
  rw [text] at drive ⊢
  generalize ("/".intercalate parts).toList = cs at drive
  rcases cs with _ | ⟨c, _ | ⟨d, more⟩⟩
  · cases drive
  · cases drive
  · obtain rfl : d = ':' := Option.some.inj drive
    rfl

/-- A path that looks like a drive loses its slash. -/
theorem urlToPath_urlOf_drive (segments : ∀ w ∈ parts, Path.Segment w)
    (drive : (absoluteText parts).toList[2]? = some ':') : urlToPath (urlOf parts) = .ok ⟨0, parts⟩ := by
  have some_there : parts ≠ [] := by
    rintro rfl
    revert drive
    decide
  have text : Path.toText ⟨0, parts⟩ = "/".intercalate parts := by
    simp [Path.toText, some_there]
  rw [urlToPath, split_urlOf]
  dsimp only
  rw [if_pos rfl, Url.unquote_quote, dropDriveSlash_absoluteText drive, String.ofList_toList, ← text,
    Path.ofText_toText ⟨by simp, segments⟩]

theorem Resolved.urlToPath_urlOf (resolved : t.Resolved p) :
    urlToPath (urlOf p.parts) = .ok (if p.LikeDrive then ⟨0, p.parts⟩ else p) := by
  have text : p.toText = absoluteText p.parts := by
    rw [resolved.eq_mk]
    simp [Path.toText, absoluteText]
  split
  · next drive =>
    rw [Path.LikeDrive, text] at drive
    exact urlToPath_urlOf_drive resolved.segments drive
  · next driveless =>
    rw [Path.LikeDrive, text] at driveless
    rw [FileTree.urlToPath_urlOf resolved.segments driveless, ← resolved.eq_mk]

/-- A resolved path has a canonical URL, which no other resolved path has. The path and its directory are read back
from the URL, unless the path looks like a drive: then it comes back without its slash. -/
theorem file_url_round_trip (resolved : t.Resolved p) :
    ∃ url, t.pathToUrl p = .ok url ∧
      (∀ p', t.Resolved p' → t.pathToUrl p' = .ok url → p' = p) ∧
      urlToPath url = .ok (if p.LikeDrive then ⟨0, p.parts⟩ else p) ∧
      ((urlToPath url).map Path.parent = .ok p.parent ↔ ¬ p.LikeDrive) := by
  refine ⟨urlOf p.parts, resolved.pathToUrl, ?_, resolved.urlToPath_urlOf, ?_⟩
  · intro p' resolved' same
    rw [resolved'.pathToUrl] at same
    have parts := urlOf_inj resolved'.segments resolved.segments (Except.ok.inj same)
    rw [resolved'.eq_mk, resolved.eq_mk, parts]
  · rw [resolved.urlToPath_urlOf]
    split
    · next drive =>
      refine iff_of_false ?_ (not_not_intro drive)
      intro same
      have slashes := congrArg Path.slashes (Except.ok.inj same)
      rw [Path.parent, Path.parent, resolved.rooted] at slashes
      cases slashes
    · next driveless => exact iff_of_true rfl driveless

/-! ## Two paths where nothing is -/

/-- A tree that has only its root. -/
def bare : FileTree := ⟨[], []⟩

theorem resolved_of_unlinked (unlinked : ∀ place target, t.find? place ≠ some (.link target))
    (proper : ∀ w ∈ parts, w ≠ "" ∧ w ≠ "." ∧ w ≠ ".." ∧ '/' ∉ w.toList)
    (plain : Path.holdsNul ⟨1, parts⟩ = false) : t.Resolved ⟨1, parts⟩ where
  rooted := rfl
  segments w there := ⟨(proper w there).1, (proper w there).2.1, (proper w there).2.2.2⟩
  straight :=
    { names := fun w there => ⟨(proper w there).2.2.1, (proper w there).2.1⟩
      linkless := fun before _ => unlinked before }
  plain := plain

theorem resolved_bare (proper : ∀ w ∈ parts, w ≠ "" ∧ w ≠ "." ∧ w ≠ ".." ∧ '/' ∉ w.toList)
    (plain : Path.holdsNul ⟨1, parts⟩ = false) : bare.Resolved ⟨1, parts⟩ := by
  refine resolved_of_unlinked ?_ proper plain
  intro place target linked
  unfold find? at linked
  split at linked
  · cases linked
  · cases linked

/-- A name with most of what means something in a URL or in a path. -/
def markedPath : Path := ⟨1, ["a b", "%41?#;&é:\\\n.scss"]⟩

theorem marked_path_round_trips :
    bare.Resolved markedPath ∧
      ∃ url, bare.pathToUrl markedPath = .ok url ∧ urlToPath url = .ok markedPath := by
  have resolved : bare.Resolved markedPath := resolved_bare (by decide) (by decide)
  obtain ⟨url, written, -, read, -⟩ := file_url_round_trip resolved
  rw [if_neg (by decide)] at read
  exact ⟨resolved, url, written, read⟩

theorem drive_path_comes_back_relative :
    bare.Resolved ⟨1, ["a:", "b"]⟩ ∧ bare.pathToUrl ⟨1, ["a:", "b"]⟩ = .ok "file:///a%3A/b" ∧
      urlToPath "file:///a%3A/b" = .ok ⟨0, ["a:", "b"]⟩ := by
  have resolved : bare.Resolved ⟨1, ["a:", "b"]⟩ := resolved_bare (by decide) (by decide)
  have written : urlOf ["a:", "b"] = "file:///a%3A/b" := by decide +kernel
  refine ⟨resolved, ?_, ?_⟩
  · rw [← written]
    exact resolved.pathToUrl
  · rw [← written]
    exact urlToPath_urlOf_drive resolved.segments (by decide)

end FileTree

end StyleBuild
