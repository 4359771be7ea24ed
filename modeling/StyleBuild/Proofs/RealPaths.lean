import Mathlib.Data.List.Perm.Subperm
import StyleBuild.Import.Lookup
import StyleBuild.Proofs.PathText

/-!
# Real paths

A system walks a path and follows its links as it meets them, at most forty; the real form of a path is
found by replacing each link once and remembering where it led. A path that leads to an entry has as its
real form the place where the walk ends. The links that are being replaced are the ones that the walk is
inside of, and a walk that comes to an end is never twice inside of the same one.
-/

set_option autoImplicit false

namespace StyleBuild

/-! ## Single points -/

/-- The second list is the first one without some of its single points. -/
inductive Undotted : List String → List String → Prop
  | nil : Undotted [] []
  | keep (w : String) {a b : List String} : Undotted a b → Undotted (w :: a) (w :: b)
  | drop {w : String} {a b : List String} : w = "." → Undotted a b → Undotted (w :: a) b

namespace Undotted

variable {a b c : List String}

theorem refl (a : List String) : Undotted a a := by
  induction a with
  | nil => exact nil
  | cons w rest ih => exact keep w ih

theorem append (h : Undotted a b) {d : List String} (h' : Undotted c d) :
    Undotted (a ++ c) (b ++ d) := by
  induction h with
  | nil => exact h'
  | keep w _ ih => exact keep w ih
  | drop point _ ih => exact drop point ih

theorem of_filter (parts : List (List Char)) :
    Undotted ((parts.filter (· != [])).map String.ofList)
      ((parts.filter fun s => s != [] && s != ['.']).map String.ofList) := by
  induction parts with
  | nil => exact nil
  | cons s rest ih =>
    by_cases empty : s = []
    · simpa [empty] using ih
    · by_cases point : s = ['.']
      · simpa [point] using drop rfl ih
      · simpa [empty, point] using keep (String.ofList s) ih

theorem of_text (s : String) : Undotted (Path.steps s) (Path.ofText s).parts := by
  have kept := of_filter (Text.splitAtChar '/' s.toList)
  dsimp only [Path.steps, Path.ofText, Path.segments]
  split
  · rw [List.map_append]
    simpa using kept.append (drop rfl nil)
  · exact kept

end Undotted

namespace FileTree

variable {t : FileTree} {here rest there more : List String} {j k : Nat}

theorem walk_undotted {n : Nat} {site : List String} {e : Entry}
    (found : t.walk n here rest = .ok (site, some e)) {rest' : List String}
    (undotted : Undotted rest rest') : t.walk n here rest' = .ok (site, some e) := by
  fun_induction t.walk n here rest generalizing rest' with
  | case1 =>
    cases undotted
    rw [walk]
    exact found
  | case2 n here rest ih =>
    obtain - | ⟨_, undotted⟩ | ⟨point, undotted⟩ := undotted
    · rw [walk, if_pos rfl]
      exact ih found undotted
    · exact absurd point (by decide)
  | case3 n here rest _ ih =>
    obtain - | ⟨_, undotted⟩ | ⟨_, undotted⟩ := undotted
    · rw [walk, if_neg (by decide), if_pos rfl]
      exact ih found undotted
    · exact ih found undotted
  | case4 => cases found
  | case5 => cases found
  | case6 => cases found
  | case7 n here name up staying short bytes entry =>
    obtain - | ⟨_, undotted⟩ | ⟨point, undotted⟩ := undotted
    · cases undotted
      simpa [walk, up, staying, short, entry] using found
    · exact absurd point staying
  | case8 => cases found
  | case9 n here name rest up staying short entry ih =>
    obtain - | ⟨_, undotted⟩ | ⟨point, undotted⟩ := undotted
    · simpa [walk, up, staying, short, entry] using ih found undotted
    · exact absurd point staying
  | case10 => cases found
  | case11 here name rest up staying short target entry n ih =>
    obtain - | ⟨_, undotted⟩ | ⟨point, undotted⟩ := undotted
    · simpa [walk, up, staying, short, entry] using
        ih found ((Undotted.refl (Path.steps target)).append undotted)
    · exact absurd point staying

/-! ## Where walks lead -/

/-- Every walk from `here` along `rest` that ends at an entry comes to `there` with `more` still to go, and
has followed `k` links or more by then. -/
def Leads (t : FileTree) (k : Nat) (here rest there more : List String) : Prop :=
  ∀ n tail site e, t.walk n here (rest ++ tail) = .ok (site, some e) →
    ∃ m, m + k ≤ n ∧ t.walk m there (more ++ tail) = .ok (site, some e)

namespace Leads

theorem refl (t : FileTree) (here rest : List String) : t.Leads 0 here rest here rest :=
  fun n _ _ _ found => ⟨n, Nat.le_refl n, found⟩

theorem trans (first : t.Leads j here rest there more) {far last : List String}
    (second : t.Leads k there more far last) : t.Leads (j + k) here rest far last := by
  intro n tail site e found
  obtain ⟨m, fewer, found⟩ := first n tail site e found
  obtain ⟨l, least, found⟩ := second m tail site e found
  exact ⟨l, by omega, found⟩

theorem append (leads : t.Leads k here rest there more) (mid : List String) :
    t.Leads k here (rest ++ mid) there (more ++ mid) := by
  intro n tail site e found
  rw [List.append_assoc] at found
  obtain ⟨m, fewer, found⟩ := leads n (mid ++ tail) site e found
  exact ⟨m, fewer, by rwa [List.append_assoc]⟩

theorem any (leads : t.Leads k here rest there more) : t.Leads 0 here rest there more := by
  intro n tail site e found
  obtain ⟨m, fewer, found⟩ := leads n tail site e found
  exact ⟨m, by omega, found⟩

/-- A walk that leads through a link back to where it started has no end. -/
theorem endless (back : t.Leads 1 here rest here (rest ++ more)) (n : Nat) (tail site : List String)
    (e : Entry) : t.walk n here (rest ++ tail) ≠ .ok (site, some e) := by
  induction n using Nat.strongRecOn generalizing tail with
  | ind n ih =>
    intro found
    obtain ⟨m, fewer, found⟩ := back n tail site e found
    rw [List.append_assoc] at found
    exact ih m (by omega) _ found

theorem up (t : FileTree) (here rest : List String) :
    t.Leads 0 here (".." :: rest) here.dropLast rest := by
  intro n tail site e found
  rw [List.cons_append, walk, if_pos rfl] at found
  exact ⟨n, Nat.le_refl n, found⟩

theorem name {name : String} (up : name ≠ "..") (point : name ≠ ".")
    (plain : ∀ target, t.find? (here ++ [name]) ≠ some (.link target)) :
    t.Leads 0 here [name] (here ++ [name]) [] := by
  intro n tail site e found
  refine ⟨n, Nat.le_refl n, ?_⟩
  rw [List.singleton_append, walk, if_neg up, if_neg point] at found
  split at found
  · cases found
  · split at found
    · split at found <;> cases found
    · next bytes entry =>
      split at found
      · next last =>
        rw [last, List.nil_append, walk, entry]
        exact found
      · cases found
    · exact found
    · next target entry => exact absurd entry (plain target)

theorem link {name : String} (up : name ≠ "..") (point : name ≠ ".") {target : String}
    (linked : t.find? (here ++ [name]) = some (.link target)) :
    t.Leads 1 here [name] (if (Path.ofText target).isAbsolute then [] else here)
      (Path.ofText target).parts := by
  intro n tail site e found
  rw [List.singleton_append, walk, if_neg up, if_neg point] at found
  split at found
  · cases found
  · simp only [linked] at found
    cases n with
    | zero => cases found
    | succ n =>
      exact ⟨n, Nat.le_refl _,
        walk_undotted found ((Undotted.of_text target).append (Undotted.refl tail))⟩

end Leads

/-! ## Straight ways -/

/-- Segments without points and without a link on the way. -/
structure Straight (t : FileTree) (parts : List String) : Prop where
  names : ∀ w ∈ parts, w ≠ ".." ∧ w ≠ "."
  linkless : ∀ before, before <+: parts → ∀ target, t.find? before ≠ some (.link target)

/-- The current directory is given by the way it really has. -/
def Grounded (t : FileTree) : Prop := t.Straight t.current

namespace Straight

variable {parts : List String}

theorem nil (t : FileTree) : t.Straight [] where
  names := by simp
  linkless before front target := by
    rw [List.prefix_nil.mp front]
    rintro ⟨⟩

theorem of_prefix (straight : t.Straight parts) {before : List String} (front : before <+: parts) :
    t.Straight before where
  names w there := straight.names w (front.subset there)
  linkless way shorter := straight.linkless way (shorter.trans front)

theorem concat (straight : t.Straight parts) {name : String} (up : name ≠ "..") (point : name ≠ ".")
    (plain : ∀ target, t.find? (parts ++ [name]) ≠ some (.link target)) :
    t.Straight (parts ++ [name]) where
  names w there := by
    rcases List.mem_append.mp there with earlier | last
    · exact straight.names w earlier
    · rw [List.mem_singleton.mp last]
      exact ⟨up, point⟩
  linkless before front := by
    rcases List.prefix_concat_iff.mp front with rfl | shorter
    · exact plain
    · exact straight.linkless before shorter

theorem leads (straight : t.Straight (here ++ rest)) : t.Leads 0 here rest (here ++ rest) [] := by
  induction rest generalizing here with
  | nil =>
    rw [List.append_nil]
    exact Leads.refl t here []
  | cons name rest ih =>
    obtain ⟨up, point⟩ := straight.names name (by simp)
    have onward : here ++ name :: rest = here ++ [name] ++ rest := by simp
    have first := Leads.name up point (straight.linkless (here ++ [name]) ⟨rest, by simp⟩)
    rw [onward] at straight ⊢
    exact (first.append rest).trans (ih straight)

theorem walk_ne_loop (straight : t.Straight (here ++ rest)) (n : Nat) :
    t.walk n here rest ≠ .error .loop := by
  induction rest generalizing here with
  | nil =>
    rw [walk]
    rintro ⟨⟩
  | cons name rest ih =>
    obtain ⟨up, point⟩ := straight.names name (by simp)
    have plain := straight.linkless (here ++ [name]) ⟨rest, by simp⟩
    have onward : here ++ name :: rest = here ++ [name] ++ rest := by simp
    rw [onward] at straight
    rw [walk, if_neg up, if_neg point]
    split
    · rintro ⟨⟩
    · split
      · split <;> rintro ⟨⟩
      · split <;> rintro ⟨⟩
      · exact ih straight
      · next target entry => exact absurd entry (plain target)

/-- A walk ends at a place that a straight way leads to. -/
theorem of_walk (straight : t.Straight here) {n : Nat} {site : List String} {e : Entry}
    (found : t.walk n here rest = .ok (site, some e)) : t.Straight site := by
  fun_induction t.walk n here rest with
  | case1 =>
    obtain ⟨rfl, -⟩ := Prod.mk.inj (Except.ok.inj found)
    exact straight
  | case2 n here rest ih => exact ih (straight.of_prefix (List.dropLast_prefix here)) found
  | case3 n here rest _ ih => exact ih straight found
  | case4 => cases found
  | case5 => cases found
  | case6 => cases found
  | case7 n here name up point _ bytes entry =>
    cases found
    exact straight.concat up point (by simp [entry])
  | case8 => cases found
  | case9 n here name rest up point _ entry ih =>
    exact ih (straight.concat up point (by simp [entry])) found
  | case10 => cases found
  | case11 here name rest _ _ _ target _ n ih =>
    refine ih ?_ found
    split
    · exact nil t
    · exact straight

end Straight

/-! ## Sites of paths without links -/

theorem absolute_append (t : FileTree) (slashes : Nat) (parts more : List String) :
    t.absolute ⟨slashes, parts ++ more⟩ = t.absolute ⟨slashes, parts⟩ ++ more := by
  unfold absolute
  split <;> split <;> simp_all [Path.isAbsolute]

theorem site_concat (t : FileTree) (slashes : Nat) (parts : List String) {name : String}
    (up : name ≠ "..") : t.site ⟨slashes, parts ++ [name]⟩ = t.site ⟨slashes, parts⟩ ++ [name] := by
  simp [site, absolute_append, up]

theorem site_stepUp (t : FileTree) (p : Path) : t.site (stepUp p) = (t.site p).dropLast := by
  obtain ⟨slashes, parts⟩ := p
  rcases List.eq_nil_or_concat parts with rfl | ⟨before, s, rfl⟩
  · by_cases absolute : Path.isAbsolute ⟨slashes, []⟩ = true
    · simp [stepUp, absolute, site, FileTree.absolute]
    · have raised : t.absolute ⟨slashes, [".."]⟩ = t.absolute ⟨slashes, []⟩ ++ [".."] :=
        absolute_append t slashes [] [".."]
      simp [stepUp, absolute, site, raised]
  · by_cases up : s = ".."
    · simp [stepUp, up, site, absolute_append]
    · simp [stepUp, up, Path.parent, site, absolute_append]

theorem foldl_stays {names : List String} (down : ".." ∉ names) (acc : List String) :
    names.foldl (fun acc s => if s = ".." then acc.dropLast else acc ++ [s]) acc = acc ++ names := by
  induction names generalizing acc with
  | nil => simp
  | cons w rest ih =>
    rw [List.mem_cons, not_or] at down
    simp [Ne.symm down.1, ih down.2]

theorem Grounded.site_current (grounded : t.Grounded) : t.site ⟨0, []⟩ = t.current := by
  have reached := foldl_stays (fun up => (grounded.names ".." up).1 rfl) ([] : List String)
  simpa [site, absolute, Path.isAbsolute] using reached

/-- A link leads to where its replacement starts. -/
theorem Leads.opened {here : Path} {name : String} (up : name ≠ "..") (dotless : "." ∉ name :: rest)
    {target : String}
    (linked : t.find? (t.site ⟨here.slashes, here.parts ++ [name]⟩) = some (.link target)) :
    t.Leads 1 (t.site here) [name]
      (t.site (if (Path.ofText target).isAbsolute then ⟨1, []⟩ else here)) (Path.ofText target).parts := by
  have root : t.site ⟨1, []⟩ = [] := rfl
  rw [site_concat t here.slashes here.parts up] at linked
  rw [apply_ite t.site, root]
  exact Leads.link up (List.ne_of_not_mem_cons dotless).symm linked

/-- A segment that is no link leads to its own place. -/
theorem Leads.passed {here : Path} {name : String} (up : name ≠ "..") (dotless : "." ∉ name :: rest)
    (plain : ∀ target, t.find? (t.site ⟨here.slashes, here.parts ++ [name]⟩) ≠ some (.link target)) :
    t.Leads 0 (t.site here) [name] (t.site ⟨here.slashes, here.parts ++ [name]⟩) [] := by
  rw [site_concat t here.slashes here.parts up] at plain ⊢
  exact Leads.name up (List.ne_of_not_mem_cons dotless).symm plain

/-! ## Replacing links -/

/-- Links that have been replaced lead to their places. -/
def Placed (t : FileTree) (met : Met) : Prop :=
  ∀ q place, met.lookup q = some (some place) →
    ∀ dir name, t.site q = dir ++ [name] → t.Leads 0 dir [name] (t.site place) []

theorem Placed.cons {met : Met} (placed : t.Placed met) {q : Path} {place : Option Path}
    (leads : ∀ p, place = some p →
      ∀ dir name, t.site q = dir ++ [name] → t.Leads 0 dir [name] (t.site p) []) :
    t.Placed ((q, place) :: met) := by
  intro q' p found
  by_cases same : q' = q
  · rw [same, List.lookup_cons_self] at found
    rw [same]
    exact leads p (Option.some.inj found)
  · rw [List.lookup_cons, beq_false_of_ne same] at found
    exact placed q' p found

theorem Placed.pending {met : Met} (placed : t.Placed met) (q : Path) :
    t.Placed ((q, none) :: met) :=
  placed.cons (by rintro _ ⟨⟩)

/-- The links that the walk is inside of, by their sites, while `rest` is left of the innermost. -/
structure Inside (t : FileTree) (opened : List (List String)) (met : Met) (here rest : List String) :
    Prop where
  distinct : opened.Nodup
  links : ∀ site ∈ opened, ∃ target, t.find? site = some (.link target)
  leads : ∀ site ∈ opened, ∃ dir name mid, site = dir ++ [name] ∧ t.Leads 1 dir [name] here (rest ++ mid)
  met : ∀ q, met.lookup q = some none → t.site q ∈ opened

namespace Inside

variable {opened : List (List String)} {met : Met} {name : String}

theorem onward (inside : t.Inside opened met here rest) (leads : t.Leads 0 here rest there more) :
    t.Inside opened met there more where
  distinct := inside.distinct
  links := inside.links
  met := inside.met
  leads site pending := by
    obtain ⟨dir, name, mid, split, opening⟩ := inside.leads site pending
    exact ⟨dir, name, mid, split, opening.trans (leads.append mid)⟩

theorem length_le (inside : t.Inside opened met here rest) : opened.length ≤ t.entries.length := by
  have listed : opened ⊆ t.entries.map Prod.fst := by
    intro site pending
    obtain ⟨target, linked⟩ := inside.links site pending
    unfold find? at linked
    split at linked
    · cases linked
    · obtain ⟨before, after, split, -⟩ := List.lookup_eq_some_iff.mp linked
      simp [split]
  simpa using (List.Nodup.subperm inside.distinct listed).length_le

theorem notMem (inside : t.Inside opened met here (name :: rest)) {n : Nat} {tail site : List String}
    {e : Entry} (found : t.walk n here (name :: rest ++ tail) = .ok (site, some e)) :
    here ++ [name] ∉ opened := by
  intro pending
  obtain ⟨dir, w, mid, split, back⟩ := inside.leads _ pending
  obtain ⟨rfl, last⟩ := List.append_inj' split rfl
  cases last
  replace back : t.Leads 1 here [name] here ([name] ++ (rest ++ mid)) := back
  exact back.endless n (rest ++ tail) site e found

theorem cons (inside : t.Inside opened met here (name :: rest)) (fresh : here ++ [name] ∉ opened)
    {target : String} (linked : t.find? (here ++ [name]) = some (.link target)) {q : Path}
    (site : t.site q = here ++ [name]) (leads : t.Leads 1 here [name] there more) :
    t.Inside ((here ++ [name]) :: opened) ((q, none) :: met) there more where
  distinct := List.nodup_cons.mpr ⟨fresh, inside.distinct⟩
  links := by
    rw [List.forall_mem_cons]
    exact ⟨⟨target, linked⟩, inside.links⟩
  leads := by
    rw [List.forall_mem_cons]
    refine ⟨⟨here, name, [], rfl, by simpa using leads⟩, ?_⟩
    intro s pending
    obtain ⟨dir, w, mid, split, opening⟩ := inside.leads s pending
    exact ⟨dir, w, rest ++ mid, split, opening.trans (leads.any.append (rest ++ mid))⟩
  met q' pending := by
    by_cases same : q' = q
    · rw [same, site]
      exact List.mem_cons_self
    · rw [List.lookup_cons, beq_false_of_ne same] at pending
      exact List.mem_cons_of_mem _ (inside.met q' pending)

end Inside

theorem dotless_parts (s : String) : "." ∉ (Path.ofText s).parts :=
  fun there => ((Path.regular_ofText s).segments "." there).moving rfl

/-- The links among `rest` are replaced: it leads to `place`, and no link is left open. -/
structure Replaced (t : FileTree) (met : Met) (here rest : List String) (place : Path) (met' : Met) :
    Prop where
  leads : t.Leads 0 here rest (t.site place) []
  placed : t.Placed met'
  closed : ∀ q, met'.lookup q = some none → met.lookup q = some none

namespace Replaced

variable {met mid met' : Met} {place q : Path} {name : String}

theorem after (later : t.Replaced met there more place met')
    (leads : t.Leads 0 here rest there more) : t.Replaced met here rest place met' :=
  ⟨leads.trans later.leads, later.placed, later.closed⟩

theorem link (inner : t.Replaced ((q, none) :: met) there more place met')
    (site : t.site q = here ++ [name]) (opened : t.Leads 1 here [name] there more) :
    t.Replaced met here [name] place ((q, some place) :: met') where
  leads := (opened.trans inner.leads).any
  placed := by
    refine inner.placed.cons ?_
    rintro _ ⟨⟩ dir w split
    obtain ⟨rfl, last⟩ := List.append_inj' (site.symm.trans split) rfl
    cases last
    exact (opened.trans inner.leads).any
  closed p pending := by
    by_cases same : p = q
    · rw [same, List.lookup_cons_self] at pending
      cases pending
    · rw [List.lookup_cons, beq_false_of_ne same] at pending
      have before := inner.closed p pending
      rwa [List.lookup_cons, beq_false_of_ne same] at before

theorem append (first : t.Replaced met here rest q mid)
    (second : t.Replaced mid (t.site q) more place met') :
    t.Replaced met here (rest ++ more) place met' where
  leads := (first.leads.append more).trans second.leads
  placed := second.placed
  closed p pending := first.closed p (second.closed p pending)

end Replaced

theorem replaced_of_whole {fuel : Nat} {met : Met} {here : Path} (dotless : "." ∉ rest)
    (placed : t.Placed met) (whole : (t.replaceLinks fuel met here rest).2.1 = true) :
    t.Replaced met (t.site here) rest (t.replaceLinks fuel met here rest).1
      (t.replaceLinks fuel met here rest).2.2 := by
  fun_induction t.replaceLinks fuel met here rest with
  | case1 => exact ⟨Leads.refl t _ [], placed, fun _ pending => pending⟩
  | case2 fuel met here rest ih =>
    have first := Leads.up t (t.site here) rest
    rw [← site_stepUp] at first
    exact (ih (by simp_all) placed whole).after first
  | case3 fuel met here name rest up next target linked place known ih =>
    have first := placed next place known (t.site here) name (site_concat t _ _ up)
    exact (ih (by simp_all) placed whole).after (first.append rest)
  | case4 => cases whole
  | case5 => cases whole
  | case6 met here name rest up next target linked fresh fuel way place met' done ihInner ih =>
    have inner := ihInner (dotless_parts target) (placed.pending next) (by rw [done])
    rw [done] at inner
    have first := inner.link (site_concat t _ _ up) (Leads.opened up dotless linked)
    exact first.append (ih (by simp_all) first.placed whole)
  | case7 => cases whole
  | case8 fuel met here name rest up next plain ih =>
    have first := (Leads.passed up dotless plain).append rest
    exact (ih (by simp_all) placed whole).after first

/-- A walk that ends at an entry has come to `here` and has `rest` to go, with fuel for the links that it is
not inside of. -/
def Underway (t : FileTree) (fuel : Nat) (met : Met) (here : Path) (rest : List String) : Prop :=
  ∃ opened n tail site e, t.Inside opened met (t.site here) rest ∧
    t.entries.length < fuel + opened.length ∧ t.walk n (t.site here) (rest ++ tail) = .ok (site, some e)

namespace Underway

variable {fuel : Nat} {met : Met} {here there : Path} {name target : String} {q : Path}

theorem onward (underway : t.Underway fuel met here rest)
    (leads : t.Leads 0 (t.site here) rest (t.site there) more) : t.Underway fuel met there more := by
  obtain ⟨opened, n, tail, site, e, inside, enough, found⟩ := underway
  obtain ⟨m, -, found⟩ := leads n tail site e found
  exact ⟨opened, m, tail, site, e, inside.onward leads, enough, found⟩

theorem not_pending (underway : t.Underway fuel met here (name :: rest))
    (site : t.site q = t.site here ++ [name]) : met.lookup q ≠ some none := by
  obtain ⟨opened, n, tail, place, e, inside, -, found⟩ := underway
  intro pending
  exact inside.notMem found (site ▸ inside.met q pending)

theorem enter (underway : t.Underway fuel met here (name :: rest))
    (linked : t.find? (t.site q) = some (.link target)) (site : t.site q = t.site here ++ [name])
    (leads : t.Leads 1 (t.site here) [name] (t.site there) more) :
    fuel ≠ 0 ∧ ∀ left, fuel = left + 1 → t.Underway left ((q, none) :: met) there more := by
  obtain ⟨opened, n, tail, place, e, inside, enough, found⟩ := underway
  rw [site] at linked
  have entered := inside.cons (inside.notMem found) linked site leads
  have bounded := entered.length_le
  rw [List.length_cons] at bounded
  refine ⟨by omega, fun left counted => ?_⟩
  obtain ⟨m, -, found⟩ := leads n (rest ++ tail) place e found
  exact ⟨_, m, rest ++ tail, place, e, entered, by rw [List.length_cons]; omega, found⟩

theorem leave (underway : t.Underway fuel met here (name :: rest)) {met' : Met}
    (replaced : t.Replaced met (t.site here) [name] there met') : t.Underway fuel met' there rest := by
  obtain ⟨opened, n, tail, site, e, inside, enough, found⟩ :=
    underway.onward (replaced.leads.append rest)
  exact ⟨opened, n, tail, site, e,
    ⟨inside.distinct, inside.links, inside.leads, fun p pending => inside.met p (replaced.closed p pending)⟩,
    enough, found⟩

end Underway

/-- Links on the way to an entry are replaced as a whole. -/
theorem replaceLinks_whole {fuel : Nat} {met : Met} {here : Path} (dotless : "." ∉ rest)
    (placed : t.Placed met) (underway : t.Underway fuel met here rest) :
    (t.replaceLinks fuel met here rest).2.1 = true := by
  fun_induction t.replaceLinks fuel met here rest with
  | case1 => rfl
  | case2 fuel met here rest ih =>
    have first := Leads.up t (t.site here) rest
    rw [← site_stepUp] at first
    exact ih (by simp_all) placed (underway.onward first)
  | case3 fuel met here name rest up next target linked place known ih =>
    have first := placed next place known (t.site here) name (site_concat t _ _ up)
    exact ih (by simp_all) placed (underway.onward (first.append rest))
  | case4 fuel met here name rest up next target linked pending =>
    -- a link that is still being replaced would be met again without end
    exact absurd pending (underway.not_pending (site_concat t _ _ up))
  | case5 met here name rest up next target linked fresh =>
    -- there is fuel for every link of the tree
    exact absurd rfl (underway.enter linked (site_concat t _ _ up) (Leads.opened up dotless linked)).1
  | case6 met here name rest up next target linked fresh fuel way place met' done _ ih =>
    have inner := replaced_of_whole (dotless_parts target) (placed.pending next) (by rw [done])
    rw [done] at inner
    have first := inner.link (site_concat t _ _ up) (Leads.opened up dotless linked)
    exact ih (by simp_all) first.placed (underway.leave first)
  | case7 met here name rest up next target linked fresh fuel way place whole met' done broken ih =>
    have entered := underway.enter linked (site_concat t _ _ up) (Leads.opened up dotless linked)
    have inner := ih (dotless_parts target) (placed.pending next) (entered.2 fuel rfl)
    rw [done] at inner
    exact absurd inner broken
  | case8 fuel met here name rest up next plain ih =>
    have first := (Leads.passed up dotless plain).append rest
    exact ih (by simp_all) placed (underway.onward first)

/-! ## The real form of what exists -/

/-- A walk along a path comes by the place where the replacement of its links starts. -/
theorem Grounded.leads (grounded : t.Grounded) (p : Path) :
    t.Leads 0 [] (t.absolute p) (t.site ⟨min 1 p.slashes, []⟩) p.parts := by
  unfold absolute
  split
  · next absolute =>
    have one : min 1 p.slashes = 1 := by
      have : p.slashes ≠ 0 := by simpa [Path.isAbsolute] using absolute
      omega
    rw [one]
    exact Leads.refl t [] p.parts
  · next relative =>
    have none_there : min 1 p.slashes = 0 := by
      have : p.slashes = 0 := by simpa [Path.isAbsolute] using relative
      omega
    rw [none_there, grounded.site_current]
    have whole : t.Leads 0 [] t.current t.current [] := Straight.leads grounded
    exact whole.append p.parts

/-- The real form of a path to an entry is the place where the entry is. -/
theorem realParts_of_locate (grounded : t.Grounded) {p : Path} (dotless : "." ∉ p.parts)
    {site : List String} {e : Entry} (located : t.locate p = .ok (site, some e)) :
    t.realParts p = site := by
  unfold locate at located
  split at located
  · cases located
  · rw [← List.append_nil (t.absolute p)] at located
    obtain ⟨n, -, found⟩ := grounded.leads p _ _ _ _ located
    have unmet : t.Inside [] [] (t.site ⟨min 1 p.slashes, []⟩) p.parts :=
      ⟨List.nodup_nil, by simp, by simp, by simp⟩
    have underway : t.Underway (2 * t.entries.length + 2) [] ⟨min 1 p.slashes, []⟩ p.parts :=
      ⟨[], n, [], site, e, unmet, by simp only [List.length_nil]; omega, found⟩
    have unplaced : t.Placed [] := by
      rintro q place ⟨⟩
    have replaced := replaced_of_whole dotless unplaced (replaceLinks_whole dotless unplaced underway)
    obtain ⟨m, -, ended⟩ := replaced.leads n [] site e found
    rw [List.nil_append, walk] at ended
    exact (Prod.mk.inj (Except.ok.inj ended)).1

theorem straight_of_locate {p : Path} {site : List String} {e : Entry}
    (located : t.locate p = .ok (site, some e)) : t.Straight site := by
  unfold locate at located
  split at located
  · cases located
  · exact (Straight.nil t).of_walk located

/-- The canonical URL of a path to an entry names the place where the entry is. -/
theorem pathToUrl_of_locate (grounded : t.Grounded) {p : Path} (dotless : "." ∉ p.parts)
    (plain : p.holdsNul = false) {site : List String} {e : Entry}
    (located : t.locate p = .ok (site, some e)) : t.pathToUrl p = .ok (urlOf site) := by
  have straight : t.Straight site := straight_of_locate located
  have again : t.locate ⟨1, site⟩ ≠ .error .loop := by
    unfold locate
    split
    · rintro ⟨⟩
    · exact straight.walk_ne_loop maxLinks
  have real : t.realPath p = .ok ⟨1, site⟩ := by
    unfold realPath
    rw [plain, if_neg Bool.false_ne_true, realParts_of_locate grounded dotless located]
    dsimp only
    split
    · next looping => exact absurd looping again
    · rfl
  rw [pathToUrl, real]

end FileTree

end StyleBuild
