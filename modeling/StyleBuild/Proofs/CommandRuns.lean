import StyleBuild.Command.Run
import StyleBuild.Proofs.EntryFile

/-!
# Runs of the command line

A run whose compilation fails prints nothing but the report, and it leaves the files as they are: the map
and the text are written only once there is a result. Without an output file the text is printed, followed
by the comment that points at the map if one is written. Printing takes control sequences of terminals out
of the text, so it is the text of the result just if the text holds none.
-/

set_option autoImplicit false

namespace StyleBuild

variable {K : Kit}

/-! ## Control sequences -/

namespace Text

/-- An escape and a bracket, parameters, and a letter. -/
def Sequence (cs : List Char) : Prop :=
  ∃ parameters letter, cs = '\x1b' :: '[' :: (parameters ++ [letter]) ∧
    (∀ c ∈ parameters, isParameter c = true) ∧ letter.isAlpha = true

/-- A control sequence stands somewhere in the text. -/
def Styled (cs : List Char) : Prop := ∃ sequence, sequence <:+: cs ∧ Sequence sequence

theorem not_isParameter_of_isAlpha {c : Char} (letter : c.isAlpha = true) :
    isParameter c = false := by
  have ranges : (decide ('A'.val ≤ c.val ∧ c.val ≤ 'Z'.val) ||
      decide ('a'.val ≤ c.val) && decide (c.val ≤ 'z'.val)) = true := letter
  have bound : 64 < c.toNat := by
    simp only [Bool.or_eq_true, Bool.and_eq_true, decide_eq_true_eq, UInt32.le_iff_toNat_le,
      Char.toNat_val, Char.reduceToNat] at ranges
    omega
  have digit : c.isDigit = false := by
    simp only [Char.isDigit, Bool.and_eq_false_imp, decide_eq_true_eq, decide_eq_false_iff_not,
      ge_iff_le, UInt32.le_iff_toNat_le, Char.toNat_val, Char.reduceToNat]
    omega
  have other (d : Char) (small : d.toNat ≤ 64) : (c == d) = false := by
    rw [beq_eq_false_iff_ne]
    rintro rfl
    omega
  rw [isParameter, digit, other ';' (by decide), other '?' (by decide)]
  rfl

theorem afterSequence?_eq_some_iff {cs after : List Char} :
    afterSequence? cs = some after ↔ ∃ sequence, Sequence sequence ∧ cs = sequence ++ after := by
  constructor
  · intro found
    unfold afterSequence? at found
    split at found
    · next rest =>
      split at found
      · next letter tail kept =>
        split at found
        · next alphabetic =>
          cases found
          have allowed := List.all_eq_true.mp (List.all_takeWhile (l := rest) (p := isParameter))
          refine ⟨_, ⟨rest.takeWhile isParameter, letter, rfl, allowed, alphabetic⟩, ?_⟩
          have parts := List.takeWhile_append_dropWhile (p := isParameter) (l := rest)
          rw [kept] at parts
          rw [List.cons_append, List.cons_append, List.append_assoc, List.singleton_append, parts]
        · cases found
      · cases found
    · cases found
  · rintro ⟨_, ⟨parameters, letter, rfl, allowed, alphabetic⟩, rfl⟩
    have dropped : (parameters ++ letter :: after).dropWhile isParameter = letter :: after := by
      rw [List.dropWhile_append_of_pos allowed, List.dropWhile_cons,
        not_isParameter_of_isAlpha alphabetic]
      rfl
    simp [afterSequence?, dropped, alphabetic]

theorem styled_cons_iff {c : Char} {cs : List Char} :
    Styled (c :: cs) ↔ (∃ after, afterSequence? (c :: cs) = some after) ∨ Styled cs := by
  simp only [Styled, List.infix_cons_iff, afterSequence?_eq_some_iff]
  constructor
  · rintro ⟨sequence, ⟨after, starts⟩ | within, made⟩
    · exact .inl ⟨after, sequence, made, starts.symm⟩
    · exact .inr ⟨sequence, within, made⟩
  · rintro (⟨after, sequence, made, starts⟩ | ⟨sequence, within, made⟩)
    · exact ⟨sequence, .inl ⟨after, starts.symm⟩, made⟩
    · exact ⟨sequence, .inr within, made⟩

theorem length_unstyled_le (cs : List Char) : (unstyled cs).length ≤ cs.length := by
  fun_induction unstyled cs with
  | case1 => exact Nat.le_refl _
  | case2 c rest after found ih =>
    have shorter := length_afterSequence? found
    omega
  | case3 c rest none ih =>
    simp only [List.length_cons]
    omega

/-- A text keeps its characters just if no control sequence stands in it. -/
theorem unstyled_eq_self_iff {cs : List Char} : unstyled cs = cs ↔ ¬ Styled cs := by
  fun_induction unstyled cs with
  | case1 =>
    refine ⟨fun _ => ?_, fun _ => rfl⟩
    rintro ⟨_, within, _, _, rfl, -⟩
    cases List.infix_nil.mp within
  | case2 c rest after found ih =>
    have shorter := length_afterSequence? found
    have kept := length_unstyled_le after
    constructor
    · intro same
      rw [same] at kept
      omega
    · intro plain
      exact absurd (styled_cons_iff.mpr (.inl ⟨after, found⟩)) plain
  | case3 c rest none ih =>
    rw [styled_cons_iff, List.cons_inj_right, ih]
    simp [none]

end Text

namespace Command

theorem printed_eq_iff (text : String) :
    printed text = text ++ "\n" ↔ ¬ Text.Styled text.toList := by
  rw [printed, String.append_left_inj, ← Text.unstyled_eq_self_iff]
  constructor
  · intro same
    rw [← String.toList_ofList (l := Text.unstyled text.toList), same]
  · intro same
    rw [same, String.ofList_toList]

/-! ## Accepted command lines -/

/-- The arguments name the command and make settings for it. -/
inductive Accepts (w : World K) : List String → Settings → Prop where
  | intro {args rest : List String} {a : Arguments Choice} {s : Settings}
    (command : runTop args w = .ok (commandName :: rest))
    (read : readArguments spellings true rest = .ok a) (helpless : a.flag? .help = none)
    (settled : Settings.ofArguments w.files a = .ok s) : Accepts w args s

variable {denied : String → Bool} {args : List String} {offers : List (EntryPoint K)} {w : World K}
variable {s : Settings} {r : Result} {comment : String}

theorem Accepts.run_eq (accepted : Accepts w args s) :
    run denied args offers w = runCompile denied s offers w := by
  obtain ⟨command, read, helpless, settled⟩ := accepted
  simp [run, command, runArguments, read, helpless, settled]

/-! ## Files while compiling -/

/-- A command line brings no importers of its own. -/
def noImporters : Importers K := fun _ _ _ w => (.value .declined, w)

/-- The toolchain that a run comes to, once its packages are read. -/
def Equips (s : Settings) (offers : List (EntryPoint K)) (w : World K) (t : Toolchain K) : Prop :=
  (∃ packages, s.packageConfig.mapM (Packages.ofFile w.files) = .ok packages) ∧
    (EntryPoint.discover (.ofText? s.toolchain) offers).1 = .ok t

theorem compile_within {V : World K → World K → Prop} (frame : World.Frame V)
    (failed : ∀ w run stage code message, V w (w.emit (.failed run stage code message)))
    (within : ∀ t, Equips s offers w t → t.Within V noImporters) :
    V w (compile s offers w).2 := by
  have others : (EntryPoint.discover (.ofText? s.toolchain) offers).2.filter Event.isFailed = [] :=
    EntryPoint.firstUsable_silent _ _
  have told := frame.told w others
  unfold compile
  split
  · exact frame.refl w
  · next packages read =>
    dsimp only
    split
    · exact told
    · next t found =>
      split
      · exact told
      · next request _ =>
        have fits : ∀ t', (Except.ok t : Except Fault (Toolchain K)) = .ok t' →
            t'.Within V noImporters := by
          rintro _ ⟨⟩
          exact within t ⟨⟨packages, read⟩, found⟩
        have ran (start : Session K) : Session.Within V start (Compile.run
            ({ request, mode := s.mode, toolchain := (.ok t, []) } : Job K) noImporters start).2 :=
          Compile.run_within frame failed fits rfl start
        exact frame.trans told (ran { world := w.emitAll _, cache := { resolvers := [] } })

end Command

/-- The files of two worlds are related. -/
def World.Files (V : FileTree → FileTree → Prop) (w v : World K) : Prop := V w.files v.files

theorem World.Files.frame {V : FileTree → FileTree → Prop} (frame : Steps.Frame V) :
    World.Frame (World.Files V : World K → World K → Prop) where
  refl w := frame.refl w.files
  trans first second := frame.trans first second
  told w _ := frame.refl w.files
  spans w _ := frame.refl w.files
  log w _ := frame.refl w.files

/-- What the toolchain itself does to the files, in parsing and in rendering, keeps a relation. -/
structure Toolchain.KeepsFiles (V : FileTree → FileTree → Prop) (t : Toolchain K) : Prop where
  parse : ∀ contents dialect url, Answer.Within (World.Files V) (t.parse contents dialect url)
  render : ∀ tree style, Answer.Within (World.Files V) (t.render tree style)

namespace Command

variable {denied : String → Bool} {args : List String} {offers : List (EntryPoint K)} {w : World K}
variable {s : Settings} {r : Result} {comment : String}

theorem files_compile {V : FileTree → FileTree → Prop} (frame : Steps.Frame V)
    (keeps : ∀ t, Equips s offers w t → t.KeepsFiles V) : V w.files (compile s offers w).2.files := by
  have files : World.Frame (World.Files V : World K → World K → Prop) := World.Files.frame frame
  refine compile_within files (fun w _ _ _ _ => files.refl w) fun t equips => ?_
  exact ⟨fun _ _ _ w _ => ⟨files.refl w, files.refl w⟩, (keeps t equips).parse,
    (keeps t equips).render⟩

/-! ## The end of a run -/

theorem runCompile_of_failure (denied : String → Bool) {f : Failure}
    (failed : (compile s offers w).1 = .error (.failure f)) :
    (runCompile denied s offers w).exitCode = f.report.exitCode ∧
      (runCompile denied s offers w).out = "" ∧ (runCompile denied s offers w).crash = none ∧
      (runCompile denied s offers w).world = (compile s offers w).2 := by
  simp only [runCompile, failed, and_self]

/-- The comment that is printed after the text of a result: there is one just if a map is wanted and the
result has one, which is written first. -/
inductive Remark (denied : String → Bool) (s : Settings) (r : Result) (files : FileTree) :
    String → Prop where
  | unwanted (unasked : s.mapPath = none) : Remark denied s r files ""
  | absent {p : Path} (wanted : s.mapPath = some p) (mapless : r.sourceMap = none) :
    Remark denied s r files ""
  | written {p : Path} {m : SourceMap} {after : FileTree} {url : String}
    (wanted : s.mapPath = some p) (built : r.sourceMap = some m)
    (wrote : writeText denied files p (({ m with targetUrl := none } : SourceMap).toJson none) =
      (after, .ok ()))
    (way : relativeUrl after p ⟨0, []⟩ = .ok url) :
    Remark denied s r files ("\n\n/*# sourceMappingURL=" ++ url ++ " */")

/-- Without an output file the way to the map starts at the working directory. -/
theorem writeMap_eq_ok_iff {files : FileTree} {m : SourceMap} {p : Path} :
    (writeMap denied files m p none).2 = .ok comment ↔
      ∃ after url, writeText denied files p (({ m with targetUrl := none } : SourceMap).toJson none) =
          (after, .ok ()) ∧
        relativeUrl after p ⟨0, []⟩ = .ok url ∧
        comment = "\n\n/*# sourceMappingURL=" ++ url ++ " */" := by
  simp only [writeMap, Option.mapM_none, pure, Except.pure]
  rcases writeText denied files p _ with ⟨after, f | ⟨⟩⟩
  · constructor
    · rintro ⟨⟩
    · rintro ⟨_, _, ⟨⟩, -⟩
  · dsimp only
    constructor
    · intro commented
      cases way : relativeUrl after p ⟨0, []⟩ with
      | error f =>
        rw [way] at commented
        cases commented
      | ok url =>
        rw [way] at commented
        exact ⟨after, url, rfl, way, (Except.ok.inj commented).symm⟩
    · rintro ⟨_, url, ⟨⟩, way, rfl⟩
      rw [way]
      rfl

theorem exitCode_unwritten_ne_zero (f : Fault) (what : String) (p : Path) (o : Outcome K) :
    (unwritten f what p o).exitCode ≠ 0 := by
  unfold unwritten
  split
  · exact Nat.succ_ne_zero 2
  · exact Nat.succ_ne_zero 0

theorem deliver_printed (unfiled : s.output = none) (css : String) (loaded : Nat) (o : Outcome K) :
    deliver denied s css loaded o = { o with out := printed css } := by
  simp only [deliver, unfiled]

theorem conclude_of_remark (unfiled : s.output = none) {o : Outcome K}
    (remark : Remark denied s r o.world.files comment) :
    (conclude denied s r o).exitCode = o.exitCode ∧
      (conclude denied s r o).out = printed (r.css ++ comment) := by
  cases remark with
  | unwanted unasked => simp [conclude, unasked, deliver_printed unfiled]
  | absent wanted mapless => simp [conclude, wanted, mapless, deliver_printed unfiled]
  | written wanted built wrote way =>
    have commented := writeMap_eq_ok_iff.mpr ⟨_, _, wrote, way, rfl⟩
    simp [conclude, wanted, built, unfiled, commented, deliver_printed unfiled]

theorem remark_of_conclude (unfiled : s.output = none) {o : Outcome K}
    (success : (conclude denied s r o).exitCode = 0) :
    ∃ comment, Remark denied s r o.world.files comment := by
  unfold conclude at success
  dsimp only at success
  split at success
  · next unasked => exact ⟨_, .unwanted unasked⟩
  · next wanted mapless => exact ⟨_, .absent wanted mapless⟩
  · next p m wanted built =>
    split at success
    · exact absurd success (exitCode_unwritten_ne_zero _ _ _ _)
    · next comment commented =>
      rw [unfiled] at commented
      obtain ⟨after, url, wrote, way, -⟩ := writeMap_eq_ok_iff.mp commented
      exact ⟨_, .written wanted built wrote way⟩

theorem runCompile_of_result (denied : String → Bool) (made : (compile s offers w).1 = .ok r) :
    ∃ o : Outcome K, o.exitCode = 0 ∧ o.world = (compile s offers w).2 ∧
      runCompile denied s offers w = conclude denied s r o := by
  simp only [runCompile, made]
  exact ⟨_, rfl, rfl, rfl⟩

theorem result_of_success (success : (runCompile denied s offers w).exitCode = 0) :
    ∃ r, (compile s offers w).1 = .ok r := by
  unfold runCompile at success
  dsimp only at success
  split at success
  · next r made => exact ⟨r, made⟩
  · next f _ =>
    have positive : f.report.exitCode ≠ 0 := by
      unfold Report.exitCode Stage.exitCode
      split
      · exact Nat.succ_ne_zero 0
      · exact Nat.succ_ne_zero 1
    exact absurd success positive
  · exact absurd success (Nat.succ_ne_zero 0)

end Command

/-! ## From the entry to the result -/

namespace Compile

variable {job : Job K} {importers : Importers K} {s u : Session K} {t : Toolchain K}

theorem entryStage_of_entered (started : (startStage job).exec (settled job importers) s = (.ok t, u)) :
    ((entryStage job).exec (settled job importers) u).1 = entered job importers s := by
  rw [entered, Steps.exec_bind, started]

theorem run_of_unentered {f : Fault}
    (started : (startStage job).exec (settled job importers) s = (.ok t, u))
    (refused : entered job importers s = .error f) :
    (run job importers s).1 = .error (f.leaving "generator") := by
  rw [← entryStage_of_entered started] at refused
  rcases ran : (entryStage job).exec (settled job importers) u with ⟨f' | e, v⟩
  · rw [ran] at refused
    cases refused
    have staged : (stages job (label job)).exec (settled job importers) s = (.error f, v) := by
      simp only [stages_eq, Steps.exec_bind, started, ran]
    rw [run_eq_exec, exec_steps_error staged]
  · rw [ran] at refused
    cases refused

theorem run_of_entered {P : Result → Prop} {e : Imported K}
    (started : (startStage job).exec (settled job importers) s = (.ok t, u))
    (entering : entered job importers s = .ok e)
    (finished : ∀ v, ∃ tree x r y,
      (evaluateStage job t e).exec (settled job importers) v = (.ok tree, x) ∧
        (assembleStage job tree).exec (settled job importers) x = (.ok r, y) ∧ P r) :
    ∃ r, (run job importers s).1 = .ok r ∧ P r := by
  rw [← entryStage_of_entered started] at entering
  rcases ran : (entryStage job).exec (settled job importers) u with ⟨f | e', v⟩
  · rw [ran] at entering
    cases entering
  · rw [ran] at entering
    cases entering
    obtain ⟨tree, x, r, y, evaluated, assembled, holds⟩ := finished v
    have staged : (stages job (label job)).exec (settled job importers) s = (.ok r, y) := by
      simp only [stages_eq, Steps.exec_bind, started, ran, evaluated, assembled]
    obtain ⟨z, done, -⟩ := exec_steps_ok staged
    exact ⟨r, by rw [run_eq_exec, done], holds⟩

end Compile

/-! ## One file in the working directory -/

namespace Lines

open Command Compile FileTree

/-- The settings of a command line that names an input and nothing else. -/
def bareSettings : Command.Settings where
  input := ⟨0, ["a.scss"]⟩
  loadPaths := []
  style := .expanded
  mapPath := none
  packageConfig := none
  quietDeps := false
  verbose := false
  charset := true
  color := false
  mode := .direct
  toolchain := none
  output := none
  level := "warning"

def offered : EntryPoint kit := ⟨"lines", "lines:toolchain", .toolchain (toolchain { name := "lines" })⟩

/-- The world with one file. -/
def holding (text : String) : World kit := (filedSession [("a.scss", text)]).world

theorem stat_holding (text : String) :
    (holding text).files.stat "a.scss" = some (.file (Text.Utf8.encode text.toList)) := by
  have steps : Path.steps "a.scss" = ["a.scss"] := by decide +kernel
  have relative : (Path.ofText "a.scss").isAbsolute = false := by decide +kernel
  have size : "a.scss".utf8ByteSize = 6 := by decide
  have top : (holding text).files.current = [] := rfl
  have listed : (holding text).files.find? ["a.scss"] = some (.file (Text.Utf8.encode text.toList)) :=
    rfl
  simp [FileTree.stat, steps, relative, size, top, FileTree.walk, listed, maxText, maxName]

theorem accepts_holding (text : String) :
    Accepts (holding text) ["compile", "a.scss"] bareSettings := by
  have input : inputOf (holding text).files ["a.scss"] = .ok "a.scss" := by
    simp [inputOf, PathRule.misuse?, stat_holding text]
  have command : runTop ["compile", "a.scss"] (holding text) = .ok [commandName, "a.scss"] := by
    simp [runTop, readArguments, Arguments.mentioned, commandName]
  have read : readArguments spellings true ["a.scss"] = .ok { operands := ["a.scss"] } := by
    simp [readArguments, Except.map]
  refine .intro command read rfl ?_
  simp only [Command.Settings.ofArguments, input, bind, Except.bind, pure, Except.pure,
    Arguments.mentioned, Arguments.value?, Arguments.values, Arguments.flag?]
  rfl

theorem toolchain_keepsFiles (c : Settings) {V : FileTree → FileTree → Prop} (frame : Steps.Frame V) :
    (toolchain c).KeepsFiles V where
  parse contents dialect url := by
    simp only [toolchain]
    exact answerAs_within (World.Files.frame frame) c.awaitParse fun w => frame.refl w.files
  render tree style := by
    simp only [toolchain]
    exact answerAs_within (World.Files.frame frame) c.awaitRender fun w => frame.refl w.files

theorem discover_offered :
    EntryPoint.discover (.ofText? bareSettings.toolchain) [offered] =
      (.ok (toolchain { name := "lines" }), [.toolchainLoaded "lines" "lines"]) := by
  simp only [EntryPoint.discover, bareSettings, Value.ofText?, List.mergeSort_singleton]
  rfl

/-- The job that the command makes of the settings. -/
def bareJob : Job kit where
  request := { path := some ⟨0, ["a.scss"]⟩ }
  mode := .direct
  toolchain := (.ok (toolchain { name := "lines" }), [])

/-- The session in which the job is run. -/
def bareStart (text : String) : Session kit where
  world := (holding text).emitAll [.toolchainLoaded "lines" "lines"]
  cache := { resolvers := [] }

theorem compile_holding (text : String) :
    (Command.compile bareSettings [offered] (holding text)).1 =
      (Compile.run bareJob noImporters (bareStart text)).1 := by
  have read : bareSettings.packageConfig.mapM (Packages.ofFile (holding text).files) = .ok none := rfl
  have asked : Operation.request ⟨false, bareSettings.mode, false⟩ (.text bareSettings.input.toText)
      (bareSettings.options none) = .ok bareJob.request := rfl
  simp only [Command.compile, read, discover_offered, asked]
  rfl

theorem found_holding {text : String} (ascii : ∀ c ∈ text.toList, c.toNat < 128) :
    Lookup.inDirectory (holding text).files ⟨0, []⟩ "a.scss" none =
      (.ok (some ⟨"file:///a.scss", String.ofList (Text.Utf8.unifyLines text.toList), .scss, none⟩),
        [.fileFound "a.scss" "file:///a.scss"]) := by
  have proper : Proper "a.scss" := ⟨by decide, by decide, by decide⟩
  have under : Proper ("_" ++ "a.scss") := ⟨by decide, by decide, by decide⟩
  have holds : (holding text).files.HoldsText ⟨0, ["a.scss"]⟩ text.toList :=
    filed_holdsText proper rfl ascii
  have plain : Lookup.Plain ⟨0, ["a.scss"]⟩ :=
    ⟨⟨_, rfl, by decide⟩, Url.unescaped_of_notMem (by decide), by decide, by decide⟩
  have written : (holding text).files.pathToUrl ⟨0, ["a.scss"]⟩ = .ok "file:///a.scss" := by
    have url : urlOf ["a.scss"] = "file:///a.scss" := by decide +kernel
    exact (filed_url proper).trans (congrArg Except.ok url)
  have regular := Path.regular_ofText "a.scss"
  exact Lookup.inDirectory_of_target (Lookup.target_of_plain regular plain) regular (by decide)
    plain.named holds (filed_partial under rfl) written

theorem startStage_holding (text : String) :
    ∃ u, (startStage bareJob).exec (settled bareJob noImporters) (bareStart text) =
      (.ok (toolchain { name := "lines" }), u) := by
  have begun : ∃ u rs awaits, (startStage bareJob).exec (settled bareJob noImporters) (bareStart text) =
      (.ok (toolchain { name := "lines" }), u) ∧ u.cache = { resolvers := rs, awaits } ∧
        u.world.files = (bareStart text).world.files := startStage_fresh rfl (by decide) rfl _
  obtain ⟨u, -, -, started, -⟩ := begun
  exact ⟨u, started⟩

theorem settled_parse (contents url : String) (dialect : Dialect) (v : Session kit) :
    (((toolchain { name := "lines" }).collaborators noImporters).settled .direct
      (.parse contents dialect url) v).1 = parse contents url := by
  simp only [Collaborators.settled, Host.refusing, Collaborators.importHost, Answer.refused_onSession]
  exact congrArg Prod.fst (Answer.refused_ofExcept _ _ _)

/-- What the entry comes to is up to the parser. -/
theorem entered_holding {text : String} (ascii : ∀ c ∈ text.toList, c.toNat < 128) :
    entered bareJob noImporters (bareStart text) =
      ((parse (String.ofList (Text.Utf8.unifyLines text.toList)) "file:///a.scss").map
        fun sheet => ⟨"file:///a.scss", sheet, .scss, false⟩).mapError
          fun f => retag (Import.parseFault "file:///a.scss" f) := by
  obtain ⟨-, v, entering⟩ := entered_of_found bareJob noImporters (bareStart text) rfl (by decide) rfl
    rfl (found_holding ascii)
  rw [entering]
  generalize String.ofList (Text.Utf8.unifyLines text.toList) = contents
  rw [← settled_parse contents "file:///a.scss" .scss v]
  rfl

theorem compile_refused :
    ∃ f, (Command.compile bareSettings [offered] (holding "!!!")).1 = .error (.failure f) ∧
      f.report.stage = .evaluate := by
  obtain ⟨u, started⟩ := startStage_holding "!!!"
  have refused : entered bareJob noImporters (bareStart "!!!") =
      .error (Import.parseFault "file:///a.scss" (refusal 0 "!!!".toList)) := entered_holding (by simp)
  rw [compile_holding, run_of_unentered started refused]
  exact ⟨_, rfl, rfl⟩

theorem settled_bare :
    settled bareJob noImporters =
      (host (toolchain { name := "lines" }) noImporters).refusing
        (CompileCall.refuse (toolchain { name := "lines" }).methods) := settled_eq rfl

theorem settled_rule (url text : String) (v : Session kit) :
    settled bareJob noImporters (.evaluate ⟨url, [.css text 0]⟩) v = (.ok [⟨text, url, 0⟩], v) := by
  have walked (functions : List (String × Function)) :
      evaluate ⟨url, [.css text 0]⟩ functions = .finish [⟨text, url, 0⟩] := by
    unfold evaluate walk
    rfl
  rw [settled_bare]
  simp only [Host.refusing, host, toolchain, walked]
  rfl

theorem compile_styled :
    ∃ r, (Command.compile bareSettings [offered] (holding "\x1b[31mx")).1 = .ok r ∧
      r.css = "\x1b[31mx" := by
  obtain ⟨u, started⟩ := startStage_holding "\x1b[31mx"
  have entering : entered bareJob noImporters (bareStart "\x1b[31mx") =
      .ok ⟨"file:///a.scss", ⟨"file:///a.scss", [.css "\x1b[31mx" 0]⟩, .scss, false⟩ :=
    entered_holding (by simp)
  rw [compile_holding]
  refine run_of_entered started entering fun v => ?_
  have evaluated : ∃ x, (evaluateStage bareJob (toolchain { name := "lines" })
      ⟨"file:///a.scss", ⟨"file:///a.scss", [.css "\x1b[31mx" 0]⟩, .scss, false⟩).exec
        (settled bareJob noImporters) v = (.ok [⟨"\x1b[31mx", "file:///a.scss", 0⟩], x) := by
    rw [evaluateStage, exec_inStage, Steps.exec_mapFault, Steps.exec_perform, settled_rule]
    exact ⟨_, rfl⟩
  obtain ⟨x, evaluated⟩ := evaluated
  exact ⟨_, x, _, _, evaluated, rfl, rfl⟩

end Lines

/-! ## What a run prints and writes -/

namespace Command

variable {args : List String} {w : World K} {s : Settings}

/-- A run whose compilation fails ends with the exit code of the stage, prints nothing to standard output and
has no effect on files but those of the toolchain's own calls: where these leave the files alone (`V` is
equality), the files are the same as before. A run without an output file ends with zero just if there is a
result whose comment, if any, can be made; it prints the text and the comment, without control sequences. -/
theorem failing_run_writes_nothing (denied : String → Bool) (offers : List (EntryPoint K))
    (accepted : Accepts w args s) :
    (∀ f, (compile s offers w).1 = .error (.failure f) →
      (run denied args offers w).exitCode = (if f.report.stage = .start then 1 else 2) ∧
        (run denied args offers w).out = "" ∧ (run denied args offers w).crash = none ∧
        (run denied args offers w).world = (compile s offers w).2 ∧
        ∀ V : FileTree → FileTree → Prop, Steps.Frame V →
          (∀ t, Equips s offers w t → t.KeepsFiles V) →
          V w.files (run denied args offers w).world.files) ∧
      (s.output = none →
        ((run denied args offers w).exitCode = 0 ↔
          ∃ r comment, (compile s offers w).1 = .ok r ∧
            Remark denied s r (compile s offers w).2.files comment) ∧
        ∀ r comment, (compile s offers w).1 = .ok r →
          Remark denied s r (compile s offers w).2.files comment →
          (run denied args offers w).out = printed (r.css ++ comment) ∧
            ((run denied args offers w).out = r.css ++ comment ++ "\n" ↔
              ¬ Text.Styled (r.css ++ comment).toList)) := by
  rw [accepted.run_eq]
  refine ⟨fun f failed => ?_, fun unfiled => ⟨⟨fun success => ?_, ?_⟩, fun r comment made remark => ?_⟩⟩
  · obtain ⟨code, out, crash, world⟩ := runCompile_of_failure denied failed
    refine ⟨?_, out, crash, world, fun V frame keeps => ?_⟩
    · rw [code, Report.exitCode]
      cases f.report.stage <;> rfl
    · rw [world]
      exact files_compile frame keeps
  · obtain ⟨r, made⟩ := result_of_success success
    obtain ⟨o, -, world, concluded⟩ := runCompile_of_result denied made
    rw [concluded] at success
    obtain ⟨comment, remark⟩ := remark_of_conclude unfiled success
    exact ⟨r, comment, made, world ▸ remark⟩
  · rintro ⟨r, comment, made, remark⟩
    obtain ⟨o, zero, world, concluded⟩ := runCompile_of_result denied made
    rw [concluded, (conclude_of_remark unfiled (world ▸ remark)).1, zero]
  · obtain ⟨o, -, world, concluded⟩ := runCompile_of_result denied made
    have out : (runCompile denied s offers w).out = printed (r.css ++ comment) := by
      rw [concluded]
      exact (conclude_of_remark unfiled (world ▸ remark)).2
    rw [out]
    exact ⟨rfl, printed_eq_iff _⟩

end Command

namespace Lines

open Command

theorem refused_run_writes_nothing :
    Accepts (holding "!!!") ["compile", "a.scss"] bareSettings ∧
      (run (fun _ => false) ["compile", "a.scss"] [offered] (holding "!!!")).exitCode = 2 ∧
      (run (fun _ => false) ["compile", "a.scss"] [offered] (holding "!!!")).out = "" ∧
      (run (fun _ => false) ["compile", "a.scss"] [offered] (holding "!!!")).world.files =
        filed [("a.scss", "!!!")] := by
  obtain ⟨f, failed, stage⟩ := compile_refused
  have accepted := accepts_holding "!!!"
  obtain ⟨code, out, -, -, files⟩ :=
    (failing_run_writes_nothing (fun _ => false) [offered] accepted).1 f failed
  have frame : Steps.Frame fun a b : FileTree => b = a := ⟨fun _ => rfl, fun first second =>
    second.trans first⟩
  refine ⟨accepted, ?_, out, files _ frame fun t equips => ?_⟩
  · rw [code, stage]
    rfl
  · obtain ⟨-, found⟩ := equips
    rw [discover_offered] at found
    cases found
    exact toolchain_keepsFiles _ frame

/-- A control sequence of the text is lost on its way to standard output. -/
theorem styled_text_printed_bare :
    Accepts (holding "\x1b[31mx") ["compile", "a.scss"] bareSettings ∧
      bareSettings.output = none ∧ bareSettings.mapPath = none ∧
      (∃ r, (Command.compile bareSettings [offered] (holding "\x1b[31mx")).1 = .ok r ∧
        r.css = "\x1b[31mx") ∧
      (run (fun _ => false) ["compile", "a.scss"] [offered] (holding "\x1b[31mx")).exitCode = 0 ∧
      (run (fun _ => false) ["compile", "a.scss"] [offered] (holding "\x1b[31mx")).out = "x\n" := by
  obtain ⟨r, made, css⟩ := compile_styled
  have accepted := accepts_holding "\x1b[31mx"
  obtain ⟨o, zero, -, concluded⟩ := runCompile_of_result (fun _ => false) made
  have remark : Remark (fun _ => false) bareSettings r o.world.files "" := .unwanted rfl
  obtain ⟨code, out⟩ := conclude_of_remark rfl remark
  have bare : printed "\x1b[31mx" = "x\n" := by decide +kernel
  refine ⟨accepted, rfl, rfl, ⟨r, made, css⟩, ?_, ?_⟩
  · rw [accepted.run_eq, concluded, code, zero]
  · rw [accepted.run_eq, concluded, out, css, String.append_empty, bare]

end Lines

end StyleBuild
