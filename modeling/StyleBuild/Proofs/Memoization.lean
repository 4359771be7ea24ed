import StyleBuild.Lines.Toolchain
import StyleBuild.Proofs.Rerunner

/-!
# The memory of a cache cannot be seen

A caller seeds stylesheets given in memory and fetches imports, in any order, as long as each requester
has been loaded and no seed takes the URL of a stylesheet that has been. Then each reply of the cache,
and the table of first loads after it, are those of a rerunner.
-/

set_option autoImplicit false

namespace StyleBuild

variable {K : Kit}

/-- What a caller does with a cache. -/
inductive CacheUse where
  | seed (url contents : String) (dialect : Dialect) (importer : Option Importer)
  | fetch (reference : String) (base : Option String)

inductive CacheReply (K : Kit) where
  | seeded (source : Source) (standing : Standing)
  | fetched (outcome : Except Fault (Imported K))

namespace CacheUse

/-- A requester has been loaded, a seed has not. As requesters have been loaded, a seed has not been
one either. -/
def Fits (c : Cache K) : CacheUse → Prop
  | seed url _ _ _ => url ∉ c.loadedUrls
  | fetch _ base => c.Knows base

def importers : CacheUse → List Importer
  | seed _ _ _ importer => importer.toList
  | fetch _ _ => []

end CacheUse

namespace Collaborators

def use (c : Collaborators K) (mode : Mode) : CacheUse → Session K → CacheReply K × Session K
  | .seed url contents dialect importer, s =>
    let (l, cache) := s.cache.seed url contents dialect importer
    (.seeded l.source l.standing, { s with cache })
  | .fetch reference base, s =>
    let (r, s) := c.drive mode (Import.fetch reference base) s
    (.fetched r, s)

/-- The replies to uses one after another, each with the first loads after it. -/
def useAll (c : Collaborators K) (mode : Mode) :
    List CacheUse → Session K → List (CacheReply K × List (String × Standing))
  | [], _ => []
  | u :: rest, s =>
    ((c.use mode u s).1, (c.use mode u s).2.cache.firsts) :: c.useAll mode rest (c.use mode u s).2

/-- Each use fits the cache as the uses before it leave it. -/
def AllFit (c : Collaborators K) (mode : Mode) : List CacheUse → Session K → Prop
  | [], _ => True
  | u :: rest, s => u.Fits s.cache ∧ c.AllFit mode rest (c.use mode u s).2

end Collaborators

namespace Rerunner

def use (m : Rerunner K) : CacheUse → CacheReply K × Rerunner K
  | .seed url contents dialect importer =>
    let (standing, m) := m.seed url importer
    (.seeded { url, contents, dialect } standing, m)
  | .fetch reference base =>
    let (r, m) := m.fetch reference base
    (.fetched r, m)

def useAll (m : Rerunner K) : List CacheUse → List (CacheReply K × List (String × Standing))
  | [] => []
  | u :: rest => ((m.use u).1, (m.use u).2.firsts) :: (m.use u).2.useAll rest

end Rerunner

section

variable {c : Collaborators K} {mode : Mode} {files : FileTree} {o : Answers K}
variable {pool : List Importer} {meaning : String → String × Dialect}

/-- The importer of a seed is in a pool that has the one given and that of the entry. -/
theorem Cache.seedImporter_mem {cache : Cache K} {importer : Option Importer}
    (entry : cache.entry ∈ pool) (given : ∀ i ∈ importer.toList, i ∈ pool) :
    cache.seedImporter importer ∈ pool := by
  cases importer with
  | none => exact entry
  | some i =>
    show (if i.isFalsy then cache.entry else i) ∈ pool
    split
    · exact entry
    · exact given i (by simp)

theorem use_reruns (plays : c.Plays mode files o) (canonical : o.Canonical pool meaning)
    {s : Session K} (here : s.world.files = files) (coherent : s.cache.Coherent o pool meaning)
    {u : CacheUse} (fits : u.Fits s.cache) (pooled : ∀ i ∈ u.importers, i ∈ pool) :
    (c.use mode u s).1 = ((s.cache.rerunner o).use u).1 ∧
      s.Reruns o pool meaning files ((s.cache.rerunner o).use u).2 (c.use mode u s).2 := by
  cases u with
  | seed url contents dialect importer =>
    obtain ⟨rerunner, standing⟩ := s.cache.rerunner_seed o url contents dialect importer
    have given := Cache.seedImporter_mem coherent.entry pooled
    refine ⟨?_, here, rfl, rfl, rfl, coherent.seed fits contents dialect given, rerunner⟩
    exact congrArg (CacheReply.seeded { url, contents, dialect }) standing
  | fetch reference base =>
    obtain ⟨t, ran, reruns⟩ := Import.exec_fetch plays canonical here coherent reference fits
    simp only [Collaborators.use, Collaborators.drive_eq_exec, ran]
    exact ⟨rfl, reruns⟩

/-- Uses from a coherent cache on. The induction carries coherence from each use to the next. -/
theorem useAll_reruns (plays : c.Plays mode files o) (canonical : o.Canonical pool meaning)
    {uses : List CacheUse} (pooled : ∀ u ∈ uses, ∀ i ∈ u.importers, i ∈ pool) {s : Session K}
    (here : s.world.files = files) (coherent : s.cache.Coherent o pool meaning)
    (fit : c.AllFit mode uses s) :
    c.useAll mode uses s = (s.cache.rerunner o).useAll uses := by
  induction uses generalizing s with
  | nil => rfl
  | cons u rest ih =>
    obtain ⟨fits, more⟩ := fit
    obtain ⟨reply, after⟩ := use_reruns plays canonical here coherent fits
      (pooled u List.mem_cons_self)
    have rest_eq := ih (fun v there => pooled v (List.mem_cons_of_mem u there)) after.files
      after.coherent more
    rw [Collaborators.useAll, Rerunner.useAll, reply, rest_eq, ← after.rerunner]
    rfl

end

/-! ## The collaborators of lines -/

namespace Lines

/-- What the parser of lines and importers with canned answers say. -/
def answers (files : FileTree) (table : List (String × Canned)) : Answers kit where
  offer i reference base :=
    match i with
    | .directory root => (Lookup.inDirectory files root reference base).1.map Offer.ofSource?
    | .packages config =>
      (Packages.answer files config.directories reference base).1.map Offer.ofSource?
    | .unchecked config =>
      (Packages.answer files (Packages.directoriesIn config) reference base).1.map Offer.ofSource?
    | .custom handle _ =>
      match table.lookup handle.id with
      | none => .ok .declined
      | some canned => canned.answer reference base
    | .misfit v => .error (.noAttribute v "resolve")
  sheet contents _ url := parse contents url

/-- The toolchain of lines with importers that answer directly. -/
def directly (table : List (String × Canned)) : Collaborators kit :=
  (toolchain {}).collaborators (importers (table.map fun e => (e.1, e.2, false)))

theorem lookup_direct (table : List (String × Canned)) (id : String) :
    (table.map fun e => (e.1, e.2, false)).lookup id =
      (table.lookup id).map fun canned => (canned, false) := by
  induction table with
  | nil => rfl
  | cons e rest ih =>
    rw [List.map_cons, List.lookup_cons, List.lookup_cons]
    cases id == e.1 with
    | true => rfl
    | false => exact ih

/-- These collaborators answer as they are told, and leave the files and the log alone. -/
theorem directly_settled (table : List (String × Canned)) (call : ImportCall) (s : Session kit) :
    ∃ w : World kit, w.files = s.world.files ∧ w.log = s.world.log ∧
      (directly table).settled .direct call s =
        ((answers s.world.files table).reply call, { s with world := w }) := by
  rcases call with ⟨i, reference, base⟩ | ⟨contents, dialect, url⟩
  · cases i with
    | custom handle _ =>
      simp only [Collaborators.settled, Host.refusing, Collaborators.importHost, directly,
        Toolchain.collaborators, importers, lookup_direct, Answer.refused_onSession,
        Answers.reply, answers]
      cases table.lookup handle.id with
      | none => exact ⟨s.world, rfl, rfl, rfl⟩
      | some canned =>
        simp only [Option.map_some, answerAs, Bool.false_eq_true, if_false, Answer.refused_ofExcept]
        refine ⟨_, ?_, ?_, rfl⟩ <;> rfl
    | misfit v => exact ⟨s.world, rfl, rfl, rfl⟩
    | _ => refine ⟨_, ?_, ?_, Answer.refused_ofExcept _ _ _⟩ <;> rfl
  · have parsed (w : World kit) :=
      Answer.refused_ofExcept ((ImportCall.parse contents dialect url).refuse "Parser.parse")
        (parse contents url) w
    refine ⟨_, ?_, ?_, (Answer.refused_onSession _ _ _).trans
      (congrArg (fun r => (r.1, { s with world := r.2 })) (parsed _))⟩ <;> rfl

theorem directly_plays (files : FileTree) (table : List (String × Canned)) :
    (directly table).Plays .direct files (answers files table) where
  reply := by
    rintro call s rfl
    obtain ⟨w, -, -, settled⟩ := directly_settled table call s
    rw [settled]
  files := by
    rintro call s rfl
    obtain ⟨w, kept, -, settled⟩ := directly_settled table call s
    rw [settled]
    exact kept

/-- What the URL of a text in memory stands for. -/
def memoryMeaning (texts : List (String × String)) (scheme url : String) : String × Dialect :=
  let name := String.ofList (url.toList.drop (scheme ++ ":").length)
  ((texts.lookup name).getD "", (Dialect.forLocation name).toOption.getD .scss)

theorem memoryMeaning_append (texts : List (String × String)) (scheme name : String) :
    memoryMeaning texts scheme (scheme ++ ":" ++ name) =
      ((texts.lookup name).getD "", (Dialect.forLocation name).toOption.getD .scss) := by
  have dropped : (scheme ++ ":" ++ name).toList.drop (scheme ++ ":").length = name.toList := by
    rw [String.toList_append, ← String.length_toList, List.drop_left]
  simp only [memoryMeaning, dropped, String.ofList_toList]

/-- Texts in memory are determined by their URLs. -/
theorem memory_canonical (files : FileTree) (texts : List (String × String))
    (id label scheme : String) {pool : List Importer} (only : ∀ i ∈ pool, i = .custom ⟨id, label⟩) :
    (answers files [(id, .memory texts scheme)]).Canonical pool (memoryMeaning texts scheme) := by
  intro i pooled reference base source offered
  obtain rfl := only i pooled
  simp only [answers, List.lookup_cons, BEq.rfl, Canned.answer] at offered
  split at offered
  · next contents found =>
    generalize (if Text.startsWith (scheme ++ ":") reference then
      String.ofList (reference.toList.drop (scheme ++ ":").length) else reference) = name
      at found offered
    cases shown : Dialect.forLocation name with
    | error m =>
      rw [shown] at offered
      cases offered
    | ok dialect =>
      rw [shown] at offered
      obtain rfl : { url := scheme ++ ":" ++ name, contents, dialect } = source :=
        Offer.source.inj (Except.ok.inj offered)
      rw [memoryMeaning_append, found, shown]
      rfl
  · cases offered

end Lines

/-! ## Replies without memory -/

/-- Collaborators that go by their arguments alone and sources that their URLs determine: then each reply
of a new cache to uses that fit it, and the first loads after each, are those of a rerunner with the same
resolvers. -/
theorem useAll_eq_rerunner (c : Collaborators K) (mode : Mode) (o : Answers K)
    (meaning : String → String × Dialect) (resolvers : List Resolver) (entry : Importer)
    (awaits : Bool) (uses : List CacheUse) (s : Session K)
    (plays : c.Plays mode s.world.files o)
    (canonical : o.Canonical
      (entry :: resolvers.map Resolver.importer ++ uses.flatMap CacheUse.importers) meaning)
    (fit : c.AllFit mode uses { s with cache := { resolvers, entry, awaits } }) :
    c.useAll mode uses { s with cache := { resolvers, entry, awaits } } =
      Rerunner.useAll { answers := o, resolvers, entry } uses := by
  have listed : ∀ r ∈ resolvers, r.importer ∈
      entry :: resolvers.map Resolver.importer ++ uses.flatMap CacheUse.importers := by
    intro r there
    have mapped := List.mem_map_of_mem (f := Resolver.importer) there
    simp [mapped]
  have pooled : ∀ u ∈ uses, ∀ i ∈ u.importers,
      i ∈ entry :: resolvers.map Resolver.importer ++ uses.flatMap CacheUse.importers := by
    intro u there i given
    have listed := List.mem_flatMap_of_mem there given
    simp [listed]
  exact useAll_reruns (s := { s with cache := { resolvers, entry, awaits } }) plays canonical pooled
    rfl (.new (by simp) listed) fit

namespace Lines

/-- A sheet in memory and another one that it uses. -/
def memoryTexts : List (String × String) := [("main", "@use \"colors\";"), ("colors", "a { }")]

def memoryTable : List (String × Canned) := [("m", .memory memoryTexts "memory")]

def memoryImporter : Importer := .custom ⟨"m", "Imp(m)"⟩

/-- Both sheets, a seed that asks for what is not there, and a reference asked for twice. -/
def memoryUses : List CacheUse :=
  [.fetch "main" none, .fetch "colors" (some "memory:main"),
    .seed "memory:extra" "" .scss (some memoryImporter),
    .fetch "absent" (some "memory:extra"), .fetch "colors" (some "memory:main")]

def memorySession : Session kit :=
  { Session.blank (K := kit) ({} : Notes) with cache := { resolvers := [], entry := memoryImporter } }

theorem memoryUses_fit : (directly memoryTable).AllFit .direct memoryUses memorySession := by
  refine ⟨trivial, ?_, ?_, ?_, ?_, trivial⟩
  · show "memory:main" ∈ _
    decide +kernel
  · show "memory:extra" ∉ _
    decide +kernel
  · show "memory:extra" ∈ _
    decide +kernel
  · show "memory:main" ∈ _
    decide +kernel

theorem memoryUses_eq_rerunner :
    (directly memoryTable).AllFit .direct memoryUses memorySession ∧
      (directly memoryTable).useAll .direct memoryUses memorySession =
        Rerunner.useAll { answers := answers ⟨[], []⟩ memoryTable, resolvers := [],
                          entry := memoryImporter } memoryUses := by
  have canonical : (answers ⟨[], []⟩ memoryTable).Canonical
      [memoryImporter, memoryImporter] (memoryMeaning memoryTexts "memory") :=
    memory_canonical _ memoryTexts "m" "Imp(m)" "memory" (by simp [memoryImporter])
  exact ⟨memoryUses_fit, useAll_eq_rerunner (directly memoryTable) .direct _ _ [] memoryImporter
    false memoryUses memorySession (directly_plays _ _) canonical memoryUses_fit⟩

end Lines

end StyleBuild
