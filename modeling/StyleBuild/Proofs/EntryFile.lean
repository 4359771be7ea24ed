import StyleBuild.Proofs.LoadedUrls
import StyleBuild.Proofs.PathText

/-!
# Entries that are files

The path of an entry is looked up like any reference, so it is first taken for a URL. A path is plain if this
makes no difference: no scheme is read off its text and nothing in it is decoded. The file at a plain path is
the one that is compiled.
-/

set_option autoImplicit false

namespace StyleBuild

variable {K : Kit} {α : Type}

/-! ## Files in trees without links -/

namespace FileTree

def Linkless (t : FileTree) : Prop := ∀ e ∈ t.entries, ∀ target, e.2 ≠ .link target

theorem Linkless.find? {t : FileTree} (linkless : t.Linkless) (parts : List String)
    (target : String) : t.find? parts ≠ some (.link target) := by
  unfold FileTree.find?
  split
  · rintro ⟨⟩
  · intro found
    obtain ⟨before, after, split, -⟩ := List.lookup_eq_some_iff.mp found
    exact linkless (parts, .link target) (split ▸ by simp) target rfl

theorem Linkless.walk {t : FileTree} (linkless : t.Linkless) (links : Nat) (here rest : List String) :
    t.walk links here rest ≠ .error .loop := by
  fun_induction t.walk links here rest with
  | case1 => rintro ⟨⟩
  | case2 _ _ _ ih => exact ih
  | case3 _ _ _ _ ih => exact ih
  | case4 => rintro ⟨⟩
  | case5 => rintro ⟨⟩
  | case6 => rintro ⟨⟩
  | case7 => rintro ⟨⟩
  | case8 => rintro ⟨⟩
  | case9 _ _ _ _ _ _ _ _ ih => exact ih
  | case10 here name _ _ _ _ target found => exact absurd found (linkless.find? _ target)
  | case11 here name _ _ _ _ target found => exact absurd found (linkless.find? _ target)

/-- A file whose octets are this text. -/
def HoldsText (t : FileTree) (p : Path) (text : List Char) : Prop :=
  ∃ bytes, t.probe p = .ok (some (.file bytes)) ∧ Text.Utf8.decode bytes = .ok text

variable {t : FileTree} {p : Path} {text : List Char}

theorem locate_of_probe {e : Entry} (there : t.probe p = .ok (some e)) :
    p.holdsNul = false ∧ ∃ site, t.locate p = .ok (site, some e) := by
  unfold probe at there
  by_cases nul : p.holdsNul = true
  · rw [if_pos nul] at there
    cases there
  · rw [if_neg nul] at there
    refine ⟨Bool.eq_false_iff.mpr nul, ?_⟩
    split at there
    · next site e' found =>
      cases there
      exact ⟨site, found⟩
    · cases there
    · cases there

theorem HoldsText.plain (holds : t.HoldsText p text) : p.holdsNul = false := by
  obtain ⟨bytes, there, -⟩ := holds
  exact (locate_of_probe there).1

theorem HoldsText.readText (holds : t.HoldsText p text) :
    t.readText p = .ok (String.ofList (Text.Utf8.unifyLines text)) := by
  obtain ⟨bytes, there, decoded⟩ := holds
  obtain ⟨-, site, located⟩ := locate_of_probe there
  have entry : t.entryAt p = some (.file bytes) := by
    rw [entryAt, located]
  simp only [FileTree.readText, entry, decoded]

theorem HoldsText.isFile (holds : t.HoldsText p text) : Lookup.isFile t p = .ok true := by
  obtain ⟨bytes, there, -⟩ := holds
  rw [Lookup.isFile, Lookup.probe, there]
  rfl

theorem isFile_of_nothing (nothing : t.probe p = .ok none) : Lookup.isFile t p = .ok false := by
  rw [Lookup.isFile, Lookup.probe, nothing]
  rfl

theorem Linkless.locate (linkless : t.Linkless) (p : Path) : t.locate p ≠ .error .loop := by
  unfold FileTree.locate
  split
  · rintro ⟨⟩
  · exact linkless.walk _ _ _

theorem Linkless.realPath (linkless : t.Linkless) (plain : p.holdsNul = false) :
    t.realPath p = .ok ⟨1, t.realParts p⟩ := by
  unfold FileTree.realPath
  rw [plain, if_neg Bool.false_ne_true]
  dsimp only
  split
  · next looping => exact absurd looping (linkless.locate _)
  · rfl

theorem Linkless.pathToUrl (linkless : t.Linkless) (plain : p.holdsNul = false) :
    t.pathToUrl p = .ok (urlOf (t.realParts p)) := by
  rw [FileTree.pathToUrl, linkless.realPath plain]

/-! ## Names in the root -/

/-- A name that stands for an entry of a directory. -/
structure Proper (w : String) : Prop where
  staying : w ≠ "." ∧ w ≠ ".."
  short : w.utf8ByteSize ≤ maxName
  plain : w.toList.contains (Char.ofNat 0) = false

theorem Proper.holdsNul {w : String} (proper : Proper w) : Path.holdsNul ⟨0, [w]⟩ = false := by
  simpa [Path.holdsNul] using proper.plain

theorem Linkless.probe_name (linkless : t.Linkless) (top : t.current = []) {w : String}
    (proper : Proper w) : t.probe ⟨0, [w]⟩ = .ok (t.find? [w]) := by
  have small : ¬ maxText ≤ (Path.toText ⟨0, [w]⟩).utf8ByteSize := by
    have short : w.utf8ByteSize ≤ 255 := proper.short
    have text : Path.toText ⟨0, [w]⟩ = w := by simp [Path.toText]
    rw [text, maxText]
    omega
  have walked : t.walk maxLinks [] [w] = .ok ([w], t.find? [w]) := by
    rw [FileTree.walk]
    simp only [proper.staying.1, proper.staying.2, Nat.not_lt.mpr proper.short, if_false,
      List.nil_append]
    rcases found : t.find? [w] with _ | bytes | _ | target
    · rfl
    · rfl
    · rw [FileTree.walk, found]
    · exact absurd found (linkless.find? _ _)
  have located : t.locate ⟨0, [w]⟩ = .ok ([w], t.find? [w]) := by
    rw [FileTree.locate, if_neg small, absolute, top]
    exact walked
  simp only [probe, proper.holdsNul, located, Bool.false_eq_true, if_false]

theorem Linkless.realParts_name (linkless : t.Linkless) (top : t.current = []) {w : String}
    (proper : Proper w) : t.realParts ⟨0, [w]⟩ = [w] := by
  have there : t.site ⟨0, [w]⟩ = [w] := by
    simp [site, absolute, Path.isAbsolute, top, proper.staying.2]
  rw [realParts, replaceLinks]
  simp only [proper.staying.2, if_false, Nat.min_zero, List.nil_append, there]
  split
  · next target found => exact absurd found (linkless.find? _ target)
  · rw [replaceLinks, there]

end FileTree

/-! ## Looking up a plain path -/

namespace Lookup

/-- The file that stands for a path as well. -/
def partialOf (p : Path) : Path := ⟨p.slashes, p.parts.dropLast ++ ["_" ++ p.name]⟩

/-- The last segment shows its dialect by its suffix, not as a URL does. -/
def PlainName (p : Path) : Prop :=
  Text.startsWith "file:" p.name = false ∧ Text.startsWith "package:" p.name = false

structure Plain (p : Path) : Prop where
  schemeless : ∃ u, Url.split p.toText = .ok u ∧ u.scheme.length ≤ 1
  unescaped : Url.Unescaped p.toText.toList
  named : PlainName p

variable {t : FileTree} {p : Path} {text : List Char}

theorem target_of_plain (regular : p.Regular) (plain : Plain p) :
    target ⟨0, []⟩ p.toText none = .ok (some p) := by
  obtain ⟨u, split, short⟩ := plain.schemeless
  have other : u.scheme ≠ "file".toList := by
    intro same
    rw [same] at short
    exact absurd short (by decide)
  have same_text : Url.unquoteText p.toText = p.toText := by
    rw [Url.unquoteText, Url.unquote_of_unescaped plain.unescaped, String.ofList_toList]
  have joined : (⟨0, []⟩ / p : Path) = p := by
    show Path.join ⟨0, []⟩ p = p
    unfold Path.join
    split
    · rfl
    · next relative =>
      have none_leading : p.slashes = 0 := by
        simpa [Path.isAbsolute] using relative
      simp [← none_leading]
  simp only [target, split, other, if_false, Nat.not_lt.mpr short, same_text,
    Path.ofText_toText regular, joined]

theorem name_mem {p : Path} (known : hasExtension p = true) : p.name ∈ p.parts := by
  by_cases empty : p.parts = []
  · have unknown : hasExtension p = false := by
      have suffix : p.suffix = "" := by
        simp [Path.suffix, Path.name, empty, Path.suffixOf]
      rw [hasExtension, suffix]
      decide
    rw [unknown] at known
    cases known
  · exact Path.name_mem empty

theorem load_of_known (regular : p.Regular) (known : hasExtension p = true) (named : PlainName p)
    (holds : t.HoldsText p text) {url : String} (canonical : t.pathToUrl p = .ok url)
    (announce : String → List Event) :
    load t p announce
      = (.ok ⟨url, String.ofList (Text.Utf8.unifyLines text), Dialect.ofPath p, none⟩,
        announce url) := by
  have segment := regular.segments p.name (name_mem known)
  have dialect : Dialect.forLocation p.name = .ok (Dialect.ofPath p) :=
    Dialect.forLocation_of_segment segment named.1 named.2
  simp only [load, canonical, holds.readText, dialect]
  rfl

theorem file_of_alone (known : hasExtension p = true) (holds : t.HoldsText p text)
    (alone : isFile t (partialOf p) = .ok false) (reference : String) (base : Option String) :
    file t p reference base = .ok (some p) := by
  have tried : tryPath t p = .ok [p] := by
    rw [partialOf] at alone
    simp [tryPath, known, existing, alone, holds.isFile, bind, Except.bind, pure, Except.pure]
  simp [file, tried, bind, Except.bind, pure, Except.pure]

theorem inDirectory_of_target {reference : String}
    (aimed : target ⟨0, []⟩ reference none = .ok (some p)) (regular : p.Regular)
    (known : hasExtension p = true) (named : PlainName p) (holds : t.HoldsText p text)
    (alone : isFile t (partialOf p) = .ok false) {url : String}
    (canonical : t.pathToUrl p = .ok url) :
    inDirectory t ⟨0, []⟩ reference none
      = (.ok (some ⟨url, String.ofList (Text.Utf8.unifyLines text), Dialect.ofPath p, none⟩),
        [.fileFound reference url]) := by
  unfold inDirectory answer
  rw [aimed]
  dsimp only
  rw [file_of_alone known holds alone]
  dsimp only
  rw [load_of_known regular known named holds canonical]
  rfl

end Lookup

/-! ## The first import on a new cache -/

theorem Collaborators.calls_eq (c : Collaborators K) (mode : Mode) (m : ImportSteps K α)
    (s : Session K) : c.calls mode m s = (c.exchanges mode m s).map Exchange.request := by
  unfold calls exchanges Steps.notes
  induction m s with
  | done outcome s => rfl
  | call request s resume ih =>
    simp only [Run.trace, List.map_append, List.map_cons, List.map_nil]
    rw [ih]

namespace Import

variable {s : Session K} {reference : String}

theorem answer_of_default (c : Collaborators K) (mode : Mode) {source : Source} {events : List Event}
    (entry : s.cache.entry = .default)
    (found : Lookup.inDirectory s.world.files ⟨0, []⟩ reference none = (.ok (some source), events)) :
    c.answer mode reference none s = .ok (some (.relativeTo .default, source)) ∧
      c.exchanges mode (cascade reference none (s.cache.relative? none) s.cache.resolvers) s
        = [⟨.resolve .default reference none, .ok (.source source)⟩] := by
  have relative : s.cache.relative? none = some (.relativeTo .default) := by
    rw [Cache.relative?, entry]
  have settled : c.settled mode (.resolve .default reference none) s
      = (.ok (.source source), { s with world := s.world.emitAll events }) := by
    cases mode with
    | direct =>
      simp [Collaborators.settled, Host.refusing, Collaborators.importHost, Importer.default,
        Collaborators.library, found, Offer.ofSource?, Except.map]
    | awaiting =>
      simp [Collaborators.settled, Host.awaited, Collaborators.importHost, Importer.default,
        Collaborators.library, found, Offer.ofSource?, Except.map]
  have asked : (ask (.relativeTo .default) reference none).exec (c.settled mode) s
      = (.ok (.source source), { s with world := s.world.emitAll events }) := settled
  obtain ⟨executed, exchanged⟩ := Prod.mk.inj (firstAnswer_cons asked s.cache.resolvers)
  rw [Collaborators.answer, Collaborators.drive_eq_exec, relative, cascade, Steps.exec_mapFault,
    Collaborators.exchanges, Steps.notes_mapFault]
  refine ⟨?_, ?_⟩
  · exact (congrArg (fun ran => ran.1.mapError (Fault.leaving "generator")) executed).trans rfl
  · refine exchanged.trans ?_
    exact exchanges_ask (by simp [Resolver.relativeTo, Importer.default]) asked

theorem exec_parse_new (c : Collaborators K) (mode : Mode) {l : Loaded}
    (new : Table.get? l.source.url s.cache.parsed = none) :
    ((parse l).exec (c.settled mode) s).1
        = ((c.settled mode (.parse l.source.contents l.source.dialect l.source.url) s).1.map
            (handOver l)).mapError (parseFault l.source.url) ∧
      c.exchanges mode (parse l) s
        = [⟨.parse l.source.contents l.source.dialect l.source.url,
            (c.settled mode (.parse l.source.contents l.source.dialect l.source.url) s).1⟩] := by
  simp only [parse, sheetOf, Collaborators.exchanges, Steps.exec_bind, Steps.notes_bind,
    Steps.exec_get, Steps.notes_get, new, Steps.exec_mapFault, Steps.notes_mapFault,
    Steps.exec_perform, Steps.notes_perform]
  rcases c.settled mode (.parse l.source.contents l.source.dialect l.source.url) s with ⟨f | sheet, t⟩
  · exact ⟨rfl, rfl⟩
  · exact ⟨rfl, rfl⟩

theorem load_of_fetch (c : Collaborators K) (mode : Mode) (reference : String) (base : Option String)
    (s : Session K) :
    ((load reference base).exec (c.settled mode) s).1
        = ((fetch reference base).exec (c.settled mode) s).1 ∧
      c.exchanges mode (load reference base) s = c.exchanges mode (fetch reference base) s := by
  rw [load, Collaborators.exchanges, Steps.exec_bind, Steps.notes_bind]
  rcases ran : (fetch reference base).exec (c.settled mode) s with ⟨f | imported, t⟩
  · exact ⟨rfl, List.append_nil _⟩
  · exact ⟨rfl, List.append_nil _⟩

/-- An import of what is neither decided nor parsed: the resolvers are asked, and the parser is given the source. -/
theorem load_of_answer (c : Collaborators K) (mode : Mode) {base : Option String} {r : Resolver} {source : Source}
    (undecided : Table.get? (base, reference) s.cache.verdicts = none)
    (answered : c.answer mode reference base s = .ok (some (r, source)))
    (unparsed : Table.get? source.url s.cache.parsed = none) :
    ∃ t : Session K,
      ((load reference base).exec (c.settled mode) s).1
          = ((c.settled mode (.parse source.contents source.dialect source.url) t).1.map
              (handOver (s.cache.record reference base r source).1)).mapError (parseFault source.url) ∧
        c.calls mode (load reference base) s
          = c.calls mode (cascade reference base (s.cache.relative? base) s.cache.resolvers) s
            ++ [.parse source.contents source.dialect source.url] := by
  obtain ⟨⟨w, resolved⟩, exchanged⟩ := exec_resolve_new c mode undecided
  rw [answered] at resolved
  generalize after : ({ s with world := w, cache := _ } : Session K) = t at resolved
  have new : Table.get? source.url t.cache.parsed = none := by
    rw [← after, (Cache.conclude_keeps _ _ _ _).1, unparsed]
  obtain ⟨fetched, exchanges⟩ := fetch_of_found resolved
  obtain ⟨parsed, read⟩ := exec_parse_new c mode
    (l := (s.cache.record reference base r source).1) new
  obtain ⟨loaded, noted⟩ := load_of_fetch c mode reference base s
  refine ⟨t, ?_, ?_⟩
  · rw [loaded, fetched, parsed]
    rfl
  · rw [Collaborators.calls_eq, Collaborators.calls_eq, noted, exchanges, exchanged, read, List.map_append]
    rfl

theorem load_of_default (c : Collaborators K) (mode : Mode) {source : Source} {events : List Event}
    {rs : List Resolver} {awaits : Bool} (fresh : s.cache = { resolvers := rs, awaits })
    (found : Lookup.inDirectory s.world.files ⟨0, []⟩ reference none = (.ok (some source), events)) :
    ∃ t : Session K,
      ((load reference none).exec (c.settled mode) s).1
          = ((c.settled mode (.parse source.contents source.dialect source.url) t).1.map fun sheet =>
              ⟨source.url, sheet, source.dialect, false⟩).mapError (parseFault source.url) ∧
        c.calls mode (load reference none) s
          = [.resolve .default reference none, .parse source.contents source.dialect source.url] := by
  obtain ⟨answered, asked⟩ := answer_of_default c mode (by rw [fresh]) found
  obtain ⟨t, loaded, called⟩ := load_of_answer c mode (by rw [fresh]; rfl) answered (by rw [fresh]; rfl)
  refine ⟨t, loaded, ?_⟩
  rw [called, Collaborators.calls_eq, asked]
  rfl

end Import

/-! ## The entry of a run -/

namespace Compile

variable {job : Job K} {importers : Importers K} {t : Toolchain K} {s : Session K}
variable {h : Settled (Session K) Fault (CompileCall K) CompileCall.Reply}

theorem start_fresh (found : job.toolchain.1 = .ok t)
    (fits : ¬ (job.mode = .direct ∧ t.isAwaitable = true)) (unshared : job.cache = none)
    (s : Session K) :
    ∃ u rs awaits, (start job).exec h s = (.ok t, u) ∧
      u.cache = { resolvers := rs, awaits } ∧ u.world.files = s.world.files := by
  obtain ⟨rs, described⟩ := job.request.resolvers_ok (s.world.emitAll job.toolchain.2).environ
  have supplied : cacheFor job (s.world.emitAll job.toolchain.2).environ
      = .ok { resolvers := rs, awaits := job.mode = .awaiting } := by
    simp [cacheFor, unshared, described, bind, Except.bind, pure, Except.pure]
  simp only [start, Steps.exec_bind, Steps.exec_modify, Steps.exec_ofExcept, found, fits, if_false,
    Steps.exec_get, supplied]
  exact ⟨_, rs, _, rfl, rfl, rfl⟩

theorem startStage_fresh (found : job.toolchain.1 = .ok t)
    (fits : ¬ (job.mode = .direct ∧ t.isAwaitable = true)) (unshared : job.cache = none)
    (s : Session K) :
    ∃ u rs awaits, (startStage job).exec h s = (.ok t, u) ∧
      u.cache = { resolvers := rs, awaits } ∧ u.world.files = s.world.files := by
  obtain ⟨u, rs, awaits, ran, cache, files⟩ := start_fresh (h := h) found fits unshared
    (within (label job) .start [("mode", job.mode.name), ("entry", job.request.entryLabel)] s)
  rw [startStage, exec_inStage, ran]
  exact ⟨_, rs, awaits, rfl, cache, files⟩

theorem notes_lift_inner (found : job.toolchain.1 = .ok t) (m : ImportSteps K α) (s : Session K) :
    (lift m).notes (settled job importers) (inner t importers job.mode) s
      = (t.collaborators importers).calls job.mode m s := by
  have loads : (fun c s => settled job importers (.load c) s)
      = (t.collaborators importers).settled job.mode := by
    rw [settled_eq found]
    cases job.mode with
    | direct => rfl
    | awaiting => rfl
  unfold Steps.notes lift Collaborators.calls
  rw [trace_liftRun, loads]
  rfl

theorem notes_before_entry {τ : Type} (note : CompileCall K → Session K → List τ) {u : Session K}
    (started : (startStage job).exec h s = (.ok t, u)) :
    ∃ rest, (steps job).notes h note s = (entryStage job).notes h note u ++ rest := by
  have starting : (startStage job).notes h note s = [] :=
    (notes_inStage note _ _ _ _ s).trans (notes_start note job _)
  have staged : ∃ rest, (stages job (label job)).notes h note s
      = (entryStage job).notes h note u ++ rest := by
    rw [stages_eq, Steps.notes_bind, starting, started, List.nil_append]
    exact ⟨_, Steps.notes_bind h note _ _ u⟩
  have handled : ∃ rest, ((stages job (label job)).orElse (announce (label job))).notes h note s
      = (stages job (label job)).notes h note s ++ rest := ⟨_, Run.trace_handle h note _ _⟩
  obtain ⟨later, staged⟩ := staged
  obtain ⟨report, handled⟩ := handled
  rw [steps_eq, Steps.notes_bind, handled, staged, List.append_assoc, List.append_assoc]
  exact ⟨_, rfl⟩

theorem calls_of_entry (found : job.toolchain.1 = .ok t) {p : Path}
    (path : job.request.path = some p) {u : Session K}
    (started : (startStage job).exec (settled job importers) s = (.ok t, u)) :
    ∃ rest, calls job importers s
      = (t.collaborators importers).calls job.mode (Import.load p.toText none)
          (within (label job) .resolveEntry [] u) ++ rest := by
  obtain ⟨rest, noted⟩ := notes_before_entry (inner t importers job.mode) started
  have entering : (entryStage job).notes (settled job importers) (inner t importers job.mode) u
      = (t.collaborators importers).calls job.mode (Import.load p.toText none)
          (within (label job) .resolveEntry [] u) := by
    rw [entryStage, notes_inStage, Steps.notes_mapFault, entry, path]
    exact notes_lift_inner found _ _
  refine ⟨rest, ?_⟩
  rw [← entering, ← noted]
  simp only [calls, found]
  rfl

theorem entered_of_path (found : job.toolchain.1 = .ok t) {p : Path}
    (path : job.request.path = some p) {u : Session K}
    (started : (startStage job).exec (settled job importers) s = (.ok t, u)) :
    entered job importers s
      = ((Import.load p.toText none).exec ((t.collaborators importers).settled job.mode)
          (within (label job) .resolveEntry [] u)).1.mapError retag := by
  have entering : (startStage job >>= fun _ => entryStage job).exec (settled job importers) s
      = (entryStage job).exec (settled job importers) u := by
    rw [Steps.exec_bind, started]
  rw [entered, entering, entryStage, exec_inStage, Steps.exec_mapFault, entry, path]
  simp only [exec_lift_settled found]
  rcases (Import.load p.toText none).exec ((t.collaborators importers).settled job.mode)
    (within (label job) .resolveEntry [] u) with ⟨f | imported, v⟩
  · rfl
  · rfl

/-- A run on a new cache whose entry the importer of the current directory finds: the parser is given the
source found, and what it makes of it is the entry. -/
theorem entered_of_found (job : Job K) (importers : Importers K) (s : Session K)
    (found : job.toolchain.1 = .ok t) (fits : ¬ (job.mode = .direct ∧ t.isAwaitable = true))
    (unshared : job.cache = none) {p : Path} (path : job.request.path = some p) {source : Source}
    {events : List Event}
    (offered : Lookup.inDirectory s.world.files ⟨0, []⟩ p.toText none = (.ok (some source), events)) :
    (∃ rest, calls job importers s = .resolve .default p.toText none
      :: .parse source.contents source.dialect source.url :: rest) ∧
    ∃ u, entered job importers s
      = (((t.collaborators importers).settled job.mode
          (.parse source.contents source.dialect source.url) u).1.map
            fun sheet => ⟨source.url, sheet, source.dialect, false⟩).mapError
              fun f => retag (Import.parseFault source.url f) := by
  obtain ⟨u, rs, awaits, started, cache, files⟩ := startStage_fresh
    (h := settled job importers) found fits unshared s
  rw [← files] at offered
  obtain ⟨v, loaded, called⟩ := Import.load_of_default (t.collaborators importers) job.mode
    (s := within (label job) .resolveEntry [] u) cache offered
  refine ⟨?_, v, ?_⟩
  · obtain ⟨rest, calls_eq⟩ := calls_of_entry found path started
    exact ⟨rest, by rw [calls_eq, called]; rfl⟩
  · rw [entered_of_path found path started, loaded]
    generalize (t.collaborators importers).settled job.mode _ v = answer
    rcases answer with ⟨f | sheet, w⟩
    · rfl
    · rfl

/-- A run whose entry is the file at a plain path, without a cache of earlier runs: first the importer of the
current directory is asked, then the parser is given the text of the file, its dialect and its URL, and what
the parser makes of it is the entry. -/
theorem plain_path_entered (job : Job K) (importers : Importers K) (s : Session K) {t : Toolchain K}
    (found : job.toolchain.1 = .ok t) (fits : ¬ (job.mode = .direct ∧ t.isAwaitable = true))
    (unshared : job.cache = none) {p : Path} (path : job.request.path = some p) (regular : p.Regular)
    (linkless : s.world.files.Linkless) {text : List Char} (holds : s.world.files.HoldsText p text)
    (known : Lookup.hasExtension p = true)
    (alone : Lookup.isFile s.world.files (Lookup.partialOf p) = .ok false) (plain : Lookup.Plain p) :
    ∃ url, s.world.files.pathToUrl p = .ok url ∧
      (∃ rest, calls job importers s = .resolve .default p.toText none
        :: .parse (String.ofList (Text.Utf8.unifyLines text)) (Dialect.ofPath p) url :: rest) ∧
      ∃ u, entered job importers s
        = (((t.collaborators importers).settled job.mode
            (.parse (String.ofList (Text.Utf8.unifyLines text)) (Dialect.ofPath p) url) u).1.map
              fun sheet => ⟨url, sheet, Dialect.ofPath p, false⟩).mapError
                fun f => retag (Import.parseFault url f) := by
  obtain ⟨url, canonical⟩ : ∃ url, s.world.files.pathToUrl p = .ok url :=
    ⟨_, linkless.pathToUrl holds.plain⟩
  have aimed := Lookup.target_of_plain regular plain
  have offered := Lookup.inDirectory_of_target aimed regular known plain.named holds alone canonical
  obtain ⟨called, entering⟩ := entered_of_found job importers s found fits unshared path offered
  dsimp only at called entering
  exact ⟨url, canonical, called, entering⟩

end Compile

namespace Lines

open Compile FileTree

/-- The tree with these files in its root. -/
def filed (files : List (String × String)) : FileTree :=
  ⟨files.map fun f => ([f.1], .file (Text.Utf8.encode f.2.toList)), []⟩

def filedSession (files : List (String × String)) : Session kit :=
  { world := ⟨filed files, [], [], [], [], ({} : Notes)⟩
    cache := { resolvers := [] } }

def fileJob (name : String) : Job kit where
  request := { path := some ⟨0, [name]⟩ }
  mode := .direct
  toolchain := (.ok (toolchain {}), [])

variable {files : List (String × String)} {name : String}

theorem linkless_filed (files : List (String × String)) : (filed files).Linkless := by
  intro e there target
  obtain ⟨f, -, rfl⟩ := List.mem_map.mp there
  rintro ⟨⟩

theorem filed_holdsText {text : List Char} (proper : Proper name)
    (listed : (filed files).find? [name] = some (.file (Text.Utf8.encode text)))
    (ascii : ∀ c ∈ text, c.toNat < 128) : (filed files).HoldsText ⟨0, [name]⟩ text := by
  refine ⟨Text.Utf8.encode text, ?_, Text.Utf8.decodeFrom_encode ascii 0⟩
  rw [(linkless_filed files).probe_name rfl proper, listed]

theorem filed_partial (proper : Proper ("_" ++ name))
    (absent : (filed files).find? ["_" ++ name] = none) :
    Lookup.isFile (filed files) (Lookup.partialOf ⟨0, [name]⟩) = .ok false := by
  have nothing : (filed files).probe ⟨0, ["_" ++ name]⟩ = .ok none := by
    rw [(linkless_filed files).probe_name rfl proper, absent]
  exact isFile_of_nothing nothing

theorem filed_url (proper : Proper name) :
    (filed files).pathToUrl ⟨0, [name]⟩ = .ok (urlOf [name]) := by
  rw [(linkless_filed files).pathToUrl proper.holdsNul,
    (linkless_filed files).realParts_name rfl proper]

def spacedFiles : List (String × String) := [("a b&c.SASS", "x\r\ny")]

theorem spaced_path_entered :
    ∃ rest, calls (fileJob "a b&c.SASS") (importers []) (filedSession spacedFiles)
      = .resolve .default "a b&c.SASS" none :: .parse "x\ny" .sass "file:///a%20b%26c.SASS" :: rest := by
  have proper : Proper "a b&c.SASS" := ⟨by decide, by decide, by decide⟩
  have under : Proper ("_" ++ "a b&c.SASS") := ⟨by decide, by decide, by decide⟩
  have holds : (filed spacedFiles).HoldsText ⟨0, ["a b&c.SASS"]⟩ "x\r\ny".toList :=
    filed_holdsText proper rfl (by simp)
  have plain : Lookup.Plain ⟨0, ["a b&c.SASS"]⟩ :=
    ⟨⟨_, rfl, by decide⟩, Url.unescaped_of_notMem (by decide), by decide, by decide⟩
  obtain ⟨url, canonical, called, -⟩ := plain_path_entered (fileJob "a b&c.SASS") (importers [])
    (filedSession spacedFiles) rfl (by decide) rfl rfl (Path.regular_ofText "a b&c.SASS")
    (linkless_filed spacedFiles) holds (by decide) (filed_partial under rfl) plain
  have written : url = "file:///a%20b%26c.SASS" := by
    have same := canonical.symm.trans (filed_url proper)
    exact (Except.ok.inj same).trans (by decide +kernel)
  rw [written] at called
  exact called

def escapedFiles : List (String × String) := [("a%62.scss", "x"), ("ab.scss", "y")]

/-- A name with an escape stands for another file. -/
theorem escaped_name_mistaken :
    (filed escapedFiles).Linkless ∧ (filed escapedFiles).HoldsText ⟨0, ["a%62.scss"]⟩ ['x'] ∧
      Lookup.hasExtension ⟨0, ["a%62.scss"]⟩ = true ∧
      Lookup.isFile (filed escapedFiles) (Lookup.partialOf ⟨0, ["a%62.scss"]⟩) = .ok false ∧
      (filed escapedFiles).pathToUrl ⟨0, ["a%62.scss"]⟩ = .ok "file:///a%2562.scss" ∧
      ∃ rest, calls (fileJob "a%62.scss") (importers []) (filedSession escapedFiles)
        = .resolve .default "a%62.scss" none :: .parse "y" .scss "file:///ab.scss" :: rest := by
  have proper : Proper "a%62.scss" := ⟨by decide, by decide, by decide⟩
  have under : Proper ("_" ++ "a%62.scss") := ⟨by decide, by decide, by decide⟩
  have url : urlOf ["a%62.scss"] = "file:///a%2562.scss" := by decide +kernel
  refine ⟨linkless_filed _, filed_holdsText proper rfl (by simp), by decide,
    filed_partial under rfl, by rw [filed_url proper, url], ?_⟩
  have aimed : Lookup.target ⟨0, []⟩ "a%62.scss" none = .ok (some ⟨0, ["ab.scss"]⟩) := by
    have split : Url.split "a%62.scss" = .ok ⟨[], "a%62.scss".toList⟩ := rfl
    have decoded : Url.unquoteText "a%62.scss" = "ab.scss" := by decide +kernel
    simp only [Lookup.target, split, decoded]
    rfl
  have other : Proper "ab.scss" := ⟨by decide, by decide, by decide⟩
  have other_under : Proper ("_" ++ "ab.scss") := ⟨by decide, by decide, by decide⟩
  have other_url : urlOf ["ab.scss"] = "file:///ab.scss" := by decide +kernel
  have holds : (filed escapedFiles).HoldsText ⟨0, ["ab.scss"]⟩ ['y'] :=
    filed_holdsText other rfl (by simp)
  have offered := Lookup.inDirectory_of_target aimed (Path.regular_ofText "ab.scss") (by decide)
    ⟨by decide, by decide⟩ holds (filed_partial other_under rfl) (filed_url other)
  rw [other_url] at offered
  exact (entered_of_found (fileJob "a%62.scss") (importers []) (filedSession escapedFiles) rfl
    (by decide) rfl rfl offered).1

end Lines

end StyleBuild
