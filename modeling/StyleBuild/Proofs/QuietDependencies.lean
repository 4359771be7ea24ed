import StyleBuild.Lines.Toolchain
import StyleBuild.Proofs.Calls
import StyleBuild.Proofs.Throttling

/-!
# Quiet dependencies

An evaluator asks its context for imports and hands it warnings and messages, in any order. With quiet
dependencies the context drops every warning that originates in a dependency, as the cache knows it at that
moment, before the throttle has counted it. What is delivered is then what a context that is not quiet
delivers for the calls without these warnings, and no notice of a dependency is counted against the limit
of its kind.
-/

set_option autoImplicit false

namespace StyleBuild

variable {K : Kit}

/-- What an evaluator asks of its context. -/
inductive ContextCall where
  | load (reference : String) (base : Option String)
  | warn (message : String) (deprecation : Option String) (span : Option Span)
    (origin : Option String)
  | debug (message : String) (span : Option Span)

namespace ContextCall

/-- A warning whose origin a cache knows as a dependency. -/
def fromDependency (cache : Cache K) : ContextCall → Bool
  | warn _ _ span origin => cache.isDependency (origin.or (span.bind Span.url))
  | _ => false

/-- A deprecation notice of a kind. -/
def isNotice (kind : String) : ContextCall → Bool
  | warn _ deprecation _ _ => deprecation == some kind
  | _ => false

end ContextCall

namespace Collaborators

def serve (c : Collaborators K) (mode : Mode) : ContextCall → Session K → Session K
  | .load reference base, s => (c.drive mode (Import.load reference base) s).2
  | .warn message deprecation span origin, s => s.warn message deprecation span origin
  | .debug message span, s => s.debug message span

def serveAll (c : Collaborators K) (mode : Mode) : List ContextCall → Session K → Session K
  | [], s => s
  | call :: rest, s => serveAll c mode rest (c.serve mode call s)

/-- The calls of a sequence, each with whether it is a warning from a dependency when it is made. -/
def marked (c : Collaborators K) (mode : Mode) :
    List ContextCall → Session K → List (ContextCall × Bool)
  | [], _ => []
  | call :: rest, s =>
    (call, call.fromDependency s.cache) :: marked c mode rest (c.serve mode call s)

/-- The calls of a sequence without the warnings from dependencies. -/
def audible (c : Collaborators K) (mode : Mode) (calls : List ContextCall) (s : Session K) :
    List ContextCall :=
  ((c.marked mode calls s).filter fun call => !call.2).map (·.1)

end Collaborators

/-- The calls that an evaluator makes, as it goes on after each import. -/
def Script.contextCalls (c : Collaborators K) (mode : Mode) : Script K → Session K → List ContextCall
  | finish _, _ => []
  | fail _, _ => []
  | load reference base next, s =>
    .load reference base :: contextCalls c mode (next (c.drive mode (Import.load reference base) s).1)
      (c.drive mode (Import.load reference base) s).2
  | warn message deprecation span origin next, s =>
    .warn message deprecation span origin ::
      contextCalls c mode next (s.warn message deprecation span origin)
  | debug message span next, s => .debug message span :: contextCalls c mode next (s.debug message span)
  | isDependency url next, s => contextCalls c mode (next (s.cache.isDependency url)) s

/-- An evaluator leaves its session as its calls do. -/
theorem Script.run_eq_serveAll (c : Collaborators K) (mode : Mode) (script : Script K) (s : Session K) :
    (script.run c mode s).2 = c.serveAll mode (script.contextCalls c mode s) s := by
  induction script generalizing s with
  | finish tree => rfl
  | fail f => rfl
  | load reference base next ih => exact ih _ _
  | warn message deprecation span origin next ih => exact ih _
  | debug message span next ih => exact ih _
  | isDependency url next ih => exact ih _ _

/-! ## What quiet dependencies leave behind -/

def Event.isHush : Event → Bool
  | warningSuppressed _ _ => true
  | _ => false

/-- A world without the reports of dropped warnings. -/
def World.unhushed (w : World K) : World K :=
  { w with events := w.events.filter fun e => !e.isHush }

def Session.unhushed (s : Session K) : Session K :=
  { s with
    world := s.world.unhushed
    context := { s.context with quietDeps := false, suppressed := 0 } }

def Session.withQuiet (s : Session K) (quiet : Bool) : Session K :=
  { s with context := { s.context with quietDeps := quiet } }

/-- Sessions that differ at most in what quiet dependencies leave behind. -/
def Session.Concur (s s' : Session K) : Prop := s.unhushed = s'.unhushed

namespace Session

theorem Concur.eq {β : Type} {s s' : Session K} (h : Concur s s') (f : Session K → β)
    (blind : ∀ t, f t.unhushed = f t) : f s = f s' := by
  rw [← blind s, ← blind s', show s.unhushed = s'.unhushed from h]

theorem Concur.change {f : Session K → Session K} (keeps : ∀ s, (f s).unhushed = f s.unhushed)
    {s s' : Session K} (h : Concur s s') : Concur (f s) (f s') := by
  unfold Concur
  rw [keeps s, keeps s', h]

theorem Concur.withWorld {s s' : Session K} (h : Concur s s') {w w' : World K}
    (worlds : w.unhushed = w'.unhushed) : Concur { s with world := w } { s' with world := w' } := by
  have rest : ∀ (t : Session K) (v : World K),
      ({ t with world := v } : Session K).unhushed = { t.unhushed with world := v.unhushed } :=
    fun _ _ => rfl
  unfold Concur
  rw [rest s, rest s', worlds, show s.unhushed = s'.unhushed from h]

theorem Concur.worlds {s s' : Session K} (h : Concur s s') :
    s.world.unhushed = s'.world.unhushed :=
  congrArg Session.world (show s.unhushed = s'.unhushed from h)

theorem Concur.emitAll (es : List Event) {s s' : Session K} (h : Concur s s') :
    Concur { s with world := s.world.emitAll es } { s' with world := s'.world.emitAll es } := by
  refine h.withWorld ?_
  have told : ∀ w : World K,
      (w.emitAll es).unhushed = w.unhushed.emitAll (es.filter fun e => !e.isHush) := by
    intro w
    simp [World.emitAll, World.unhushed]
  rw [told, told, h.worlds]

theorem unhushed_recordLoaded (s : Session K) (url : String) :
    (s.recordLoaded url).unhushed = s.unhushed.recordLoaded url := by
  have same : s.unhushed.context.loaded = s.context.loaded := rfl
  unfold recordLoaded
  rw [same]
  split
  · rfl
  · rfl

theorem unhushed_notice (s : Session K) (kind message : String) (span : Option Span) :
    (s.notice kind message span).2.unhushed = (s.unhushed.notice kind message span).2 := by
  have throttle : s.unhushed.throttle = s.throttle := rfl
  have told : ∀ w : World K, (w.emitAll ((s.throttle.record kind).event? kind).toList).unhushed =
      w.unhushed.emitAll ((s.throttle.record kind).event? kind).toList := by
    intro w
    unfold Throttle.event?
    split
    · simp [World.emitAll, World.unhushed, Event.isHush]
    · simp [World.emitAll, World.unhushed]
  simp only [notice, throttle]
  split
  · exact congrArg (fun w : World K =>
      ({ s.unhushed with throttle := s.throttle.record kind,
                         world := w.report (.warn message span true) } : Session K)) (told s.world)
  · exact congrArg (fun w : World K =>
      ({ s.unhushed with throttle := s.throttle.record kind, world := w } : Session K)) (told s.world)

theorem Concur.blind : ImportBlind (Concur (K := K)) where
  caches states := congrArg Cache.unmoded (states.eq (·.cache) fun _ => rfl)
  emit e states := states.emitAll [e]
  change {_ _ f} _ states := states.change (f := fun t => { t with cache := f t.cache }) fun _ => rfl
  loaded url states := states.change fun s => unhushed_recordLoaded s url

end Session

open Session (Concur)

/-! ## Collaborators that do not notice -/

/-- An action of a collaborator that comes to the same whatever warnings have been dropped. -/
def Answer.Unaware {ρ : Type} (act : World K → Answer (World K) Fault ρ × World K) : Prop :=
  ∀ w w' e, w.unhushed = w'.unhushed →
    ((refused e (act w)).1 = (refused e (act w')).1 ∧
      (refused e (act w)).2.unhushed = (refused e (act w')).2.unhushed) ∧
    (awaited (act w)).1 = (awaited (act w')).1 ∧
      (awaited (act w)).2.unhushed = (awaited (act w')).2.unhushed

/-- The importers and the parser cannot tell what warnings have been dropped. -/
structure Collaborators.Unaware (c : Collaborators K) : Prop where
  importer : ∀ handle reference base, Answer.Unaware (c.importer handle reference base)
  parse : ∀ contents dialect url, Answer.Unaware (c.parse contents dialect url)

namespace Collaborators

variable {c : Collaborators K}

theorem library_concurs {s s' : Session K} (states : Concur s s') (o : Lookup.Outcome) (e : Fault) :
    ((Answer.refused e (library s o)).1 = (Answer.refused e (library s' o)).1 ∧
      Concur (Answer.refused e (library s o)).2 (Answer.refused e (library s' o)).2) ∧
    (Answer.awaited (library s o)).1 = (Answer.awaited (library s' o)).1 ∧
      Concur (Answer.awaited (library s o)).2 (Answer.awaited (library s' o)).2 := by
  unfold library
  simp only [Answer.refused_ofExcept, Answer.awaited_ofExcept, true_and]
  exact ⟨states.emitAll o.2, states.emitAll o.2⟩

theorem onSession_concurs {ρ : Type} {act : World K → Answer (World K) Fault ρ × World K}
    (unaware : Answer.Unaware act) {s s' : Session K} (states : Concur s s') (e : Fault) :
    ((Answer.refused e (Answer.onSession s (act s.world))).1 =
        (Answer.refused e (Answer.onSession s' (act s'.world))).1 ∧
      Concur (Answer.refused e (Answer.onSession s (act s.world))).2
        (Answer.refused e (Answer.onSession s' (act s'.world))).2) ∧
    (Answer.awaited (Answer.onSession s (act s.world))).1 =
        (Answer.awaited (Answer.onSession s' (act s'.world))).1 ∧
      Concur (Answer.awaited (Answer.onSession s (act s.world))).2
        (Answer.awaited (Answer.onSession s' (act s'.world))).2 := by
  obtain ⟨⟨same, after⟩, same', after'⟩ := unaware s.world s'.world e states.worlds
  simp only [Answer.refused_onSession, Answer.awaited_onSession]
  exact ⟨⟨same, states.withWorld after⟩, same', states.withWorld after'⟩

theorem importHost_concurs (unaware : c.Unaware) (call : ImportCall) {s s' : Session K}
    (states : Concur s s') (e : Fault) :
    ((Answer.refused e (c.importHost call s)).1 = (Answer.refused e (c.importHost call s')).1 ∧
      Concur (Answer.refused e (c.importHost call s)).2
        (Answer.refused e (c.importHost call s')).2) ∧
    (Answer.awaited (c.importHost call s)).1 = (Answer.awaited (c.importHost call s')).1 ∧
      Concur (Answer.awaited (c.importHost call s)).2 (Answer.awaited (c.importHost call s')).2 := by
  have files : s.world.files = s'.world.files := states.eq (·.world.files) fun _ => rfl
  rcases call with ⟨root | config | config | handle | v, reference, base⟩ | ⟨contents, dialect, url⟩
  · simp only [importHost, files]
    exact library_concurs states _ e
  · simp only [importHost, files]
    exact library_concurs states _ e
  · simp only [importHost, files]
    exact library_concurs states _ e
  · exact onSession_concurs (unaware.importer handle reference base) states e
  · exact ⟨⟨rfl, states⟩, rfl, states⟩
  · exact onSession_concurs (unaware.parse contents dialect url) states e

theorem settled_concurs (unaware : c.Unaware) (mode : Mode) :
    Run.HostsAgree Concur (c.settled mode) (c.settled mode) := by
  intro call s s' states
  cases mode with
  | direct => exact (importHost_concurs unaware call states (call.refuse c.parseMethod)).1
  | awaiting => exact (importHost_concurs unaware call states (call.refuse c.parseMethod)).2

/-! ## One call -/

theorem load_keeps (c : Collaborators K) (mode : Mode) (reference : String) (base : Option String)
    (s : Session K) :
    let t := c.serve mode (.load reference base) s
    t.throttle = s.throttle ∧ t.context.quietDeps = s.context.quietDeps ∧
      t.context.suppressed = s.context.suppressed := by
  have moved := (c.import_frame mode).closed.load reference base s
  rw [← drive_eq_exec] at moved
  obtain ⟨w, cache, loaded, same⟩ := moved
  simp only [serve, same, and_self]

end Collaborators

/-- A warning that is not dropped goes to the throttle or to the log. -/
def Session.passOn (s : Session K) (message : String) (deprecation : Option String)
    (span : Option Span) : Session K :=
  match deprecation with
  | some kind => (s.notice kind message span).2
  | none => { s with world := s.world.report (.warn message span false) }

namespace Session

theorem warn_of_loud {s : Session K} (message : String) (deprecation : Option String)
    (span : Option Span) (origin : Option String)
    (loud : (s.context.quietDeps && s.cache.isDependency (origin.or (span.bind Span.url))) = false) :
    s.warn message deprecation span origin = s.passOn message deprecation span := by
  simp only [warn, loud, Bool.false_eq_true, if_false]
  rfl

theorem unhushed_passOn (s : Session K) (message : String) (deprecation : Option String)
    (span : Option Span) :
    (s.passOn message deprecation span).unhushed = s.unhushed.passOn message deprecation span := by
  cases deprecation with
  | none => rfl
  | some kind => exact unhushed_notice s kind message span

theorem passOn_context (s : Session K) (message : String) (deprecation : Option String)
    (span : Option Span) : (s.passOn message deprecation span).context = s.context := by
  cases deprecation with
  | none => rfl
  | some kind =>
    simp only [passOn, notice]
    split
    · rfl
    · rfl

end Session

namespace Collaborators

variable {c : Collaborators K}

/-- A call that is not dropped is served alike whether dependencies are quiet or not. -/
theorem serve_concurs (unaware : c.Unaware) (mode : Mode) {call : ContextCall} {s s' : Session K}
    (states : Concur s s') (kept : call.fromDependency s.cache = false)
    (loud : s'.context.quietDeps = false) : Concur (c.serve mode call s) (c.serve mode call s') := by
  cases call with
  | load reference base =>
    simp only [serve, drive_eq_exec]
    exact ((Concur.blind.load reference base).exec (settled_concurs unaware mode) states).2
  | warn message deprecation span origin =>
    have own : s.cache.isDependency (origin.or (span.bind Span.url)) = false := kept
    simp only [serve]
    rw [Session.warn_of_loud (s := s) _ _ _ _ (by rw [own, Bool.and_false]),
      Session.warn_of_loud (s := s') _ _ _ _ (by rw [loud, Bool.false_and])]
    exact states.change fun t => t.unhushed_passOn message deprecation span
  | debug message span => exact states.change (f := (·.debug message span)) fun _ => rfl

theorem serve_kept (mode : Mode) (call : ContextCall) {s : Session K}
    (kept : (s.context.quietDeps && call.fromDependency s.cache) = false) :
    (c.serve mode call s).context.quietDeps = s.context.quietDeps ∧
      (c.serve mode call s).context.suppressed = s.context.suppressed := by
  cases call with
  | load reference base => exact (c.load_keeps mode reference base s).2
  | warn message deprecation span origin =>
    simp only [serve]
    rw [Session.warn_of_loud _ _ _ _ kept, Session.passOn_context]
    exact ⟨rfl, rfl⟩
  | debug message span => exact ⟨rfl, rfl⟩

/-- A warning from a dependency is dropped and counted, and nothing else changes. -/
theorem serve_dropped (mode : Mode) {call : ContextCall} {s : Session K}
    (quiet : s.context.quietDeps = true) (dropped : call.fromDependency s.cache = true) :
    Concur (c.serve mode call s) s ∧ (c.serve mode call s).context.quietDeps = true ∧
      (c.serve mode call s).context.suppressed = s.context.suppressed + 1 := by
  cases call with
  | load reference base => cases dropped
  | debug message span => cases dropped
  | warn message deprecation span origin =>
    have foreign : s.cache.isDependency (origin.or (span.bind Span.url)) = true := dropped
    have hushed : c.serve mode (.warn message deprecation span origin) s =
        { s with
          context := { s.context with suppressed := s.context.suppressed + 1 }
          world := s.world.emit
            (.warningSuppressed (origin.or (span.bind Span.url)) deprecation) } := by
      simp only [serve, Session.warn, quiet, foreign, Bool.and_true, if_true]
    rw [hushed]
    refine ⟨?_, quiet, rfl⟩
    simp [Concur, Session.unhushed, World.unhushed, World.emit, Event.isHush]

/-! ## A sequence of calls -/

/-- With quiet dependencies on the left and without on the right, sessions that concur still do after all
calls on the left and the audible ones on the right. -/
theorem serveAll_concurs (unaware : c.Unaware) (mode : Mode) (calls : List ContextCall)
    {s s' : Session K} (states : Concur s s') (quiet : s.context.quietDeps = true)
    (loud : s'.context.quietDeps = false) :
    Concur (c.serveAll mode calls s) (c.serveAll mode (c.audible mode calls s) s') ∧
      (c.serveAll mode calls s).context.suppressed =
        s.context.suppressed + (c.marked mode calls s).countP (·.2) := by
  induction calls generalizing s s' with
  | nil => exact ⟨states, rfl⟩
  | cons call rest ih =>
    cases dependency : call.fromDependency s.cache with
    | false =>
      obtain ⟨still, same⟩ := c.serve_kept (s := s) mode call (by simp [dependency])
      obtain ⟨still', -⟩ := c.serve_kept (s := s') mode call (by simp [loud])
      have served := serve_concurs unaware mode states dependency loud
      obtain ⟨after, counted⟩ := ih served (still.trans quiet) (still'.trans loud)
      rw [same] at counted
      simp only [audible, marked, dependency, serveAll, List.filter_cons, List.map_cons,
        List.countP_cons, Bool.not_false, if_true, Bool.false_eq_true, if_false, Nat.add_zero]
      exact ⟨after, counted⟩
    | true =>
      obtain ⟨unchanged, still, more⟩ := c.serve_dropped mode quiet dependency
      obtain ⟨after, counted⟩ := ih (unchanged.trans states) still loud
      rw [more] at counted
      simp only [audible, marked, dependency, serveAll, List.filter_cons, List.countP_cons,
        Bool.not_true, Bool.false_eq_true, if_false, if_true]
      refine ⟨after, counted.trans ?_⟩
      omega

end Collaborators

/-! ## What the throttle counts -/

theorem Session.passOn_count (s : Session K) (message : String) (deprecation : Option String)
    (span : Option Span) (kind : String) :
    (s.passOn message deprecation span).throttle.count kind =
      s.throttle.count kind + if deprecation = some kind then 1 else 0 := by
  cases deprecation with
  | none => rfl
  | some k =>
    have counted : (s.passOn message (some k) span).throttle = s.throttle.record k := by
      simp only [passOn, notice]
      split
      · rfl
      · rfl
    simp only [counted, Throttle.count_record, Option.some.injEq]

namespace Collaborators

variable {c : Collaborators K}

/-- Where dependencies are not quiet, the throttle counts every notice of a kind. -/
theorem count_serveAll (mode : Mode) (calls : List ContextCall) {s : Session K}
    (loud : s.context.quietDeps = false) (kind : String) :
    (c.serveAll mode calls s).throttle.count kind =
      s.throttle.count kind + calls.countP (·.isNotice kind) := by
  induction calls generalizing s with
  | nil => rfl
  | cons call rest ih =>
    obtain ⟨still, -⟩ := c.serve_kept (s := s) mode call (by simp [loud])
    have counted : (c.serve mode call s).throttle.count kind =
        s.throttle.count kind + if call.isNotice kind then 1 else 0 := by
      cases call with
      | load reference base =>
        obtain ⟨same, -⟩ := c.load_keeps mode reference base s
        rw [same]
        rfl
      | warn message deprecation span origin =>
        simp only [serve, ContextCall.isNotice, beq_iff_eq]
        rw [Session.warn_of_loud _ _ _ _ (by rw [loud, Bool.false_and]), Session.passOn_count]
      | debug message span => rfl
    rw [serveAll, ih (still.trans loud), counted, List.countP_cons]
    omega

/-- A sequence of calls with quiet dependencies delivers to the log what the sequence without the warnings
from dependencies delivers where these are not quiet. Counts, omitted notices, loaded URLs and the cache's
loads are the same, each warning that is left out is counted once, and of a kind of notices the throttle
counts those that are left. -/
theorem quiet_delivers_audible (unaware : c.Unaware) (mode : Mode) (calls : List ContextCall)
    (s : Session K) :
    let audible := c.audible mode calls (s.withQuiet true)
    let quiet := c.serveAll mode calls (s.withQuiet true)
    let loud := c.serveAll mode audible (s.withQuiet false)
    quiet.world.log = loud.world.log ∧
      quiet.throttle.counts = loud.throttle.counts ∧
      quiet.throttle.omitted = loud.throttle.omitted ∧
      quiet.context.loaded = loud.context.loaded ∧
      quiet.cache.loadedUrls = loud.cache.loadedUrls ∧
      quiet.context.suppressed =
        s.context.suppressed + (c.marked mode calls (s.withQuiet true)).countP (·.2) ∧
      ∀ kind, quiet.throttle.count kind =
        s.throttle.count kind + audible.countP (·.isNotice kind) := by
  intro audible quiet loud
  obtain ⟨concur, dropped⟩ : Concur quiet loud ∧ _ :=
    serveAll_concurs unaware mode calls rfl rfl rfl
  have throttles : quiet.throttle = loud.throttle := concur.eq (·.throttle) fun _ => rfl
  refine ⟨concur.eq (·.world.log) fun _ => rfl, congrArg Throttle.counts throttles,
    congrArg Throttle.omitted throttles, concur.eq (·.context.loaded) fun _ => rfl,
    concur.eq (·.cache.loadedUrls) fun _ => rfl, dropped, ?_⟩
  intro kind
  rw [throttles]
  exact count_serveAll mode audible (s := s.withQuiet false) rfl kind

end Collaborators

namespace Lines

theorem answerAs_unaware {ρ : Type} (later : Bool) {outcome : Except Fault ρ} (note : Notes → Notes) :
    Answer.Unaware (answerAs later fun w : World kit => (outcome, { w with own := note w.own })) := by
  intro w w' e worlds
  have noted : ({ w with own := note w.own } : World kit).unhushed =
      ({ w' with own := note w'.own } : World kit).unhushed :=
    congrArg (fun u : World kit => ({ u with own := note u.own } : World kit)) worlds
  cases later with
  | false =>
    simp only [answerAs, Bool.false_eq_true, if_false, Answer.refused_ofExcept,
      Answer.awaited_ofExcept, true_and]
    exact ⟨noted, noted⟩
  | true => exact ⟨⟨rfl, worlds⟩, rfl, noted⟩

theorem collaborators_unaware (settings : Settings) (table : List (String × Canned × Bool)) :
    ((toolchain settings).collaborators (importers table)).Unaware where
  importer handle reference base := by
    show Answer.Unaware (importers table handle reference base)
    unfold importers
    generalize table.lookup handle.id = entry
    rcases entry with _ | ⟨canned, later⟩
    · exact fun w w' e worlds => ⟨⟨rfl, worlds⟩, rfl, worlds⟩
    · exact answerAs_unaware later fun notes =>
        { notes with calls := notes.calls ++ [(handle.id, reference, base)] }
  parse contents dialect url := answerAs_unaware settings.awaitParse fun notes =>
    { notes with parsed := notes.parsed ++ [(url, dialect)] }

/-- An importer of the caller's has a library, which is a dependency once it is loaded. -/
def libraryImporters : Collaborators kit :=
  (toolchain {}).collaborators (importers [("m", .memory [("lib", "")] "m", false)])

/-- A throttle lets one notice of each kind through. -/
def librarySession : Session kit :=
  { Session.blank (K := kit) ({} : Notes) with
    cache := { resolvers := [⟨.explicit, .custom ⟨"m", "Imp(m)"⟩, "importer:Imp(m)"⟩]
               entry := .custom ⟨"none", "Imp(none)"⟩ }
    throttle := { threshold := 1 } }

/-- Two notices from the library, before and after it is loaded, and one from the user's own sheet. -/
def libraryCalls : List ContextCall :=
  [.warn "early" (some "slash-div") none (some "m:lib"), .load "lib" none,
    .warn "late" (some "color") none (some "m:lib"), .warn "own" (some "color") none none]

theorem library_warnings_deleted :
    let quiet := libraryImporters.serveAll .direct libraryCalls (librarySession.withQuiet true)
    quiet.world.log = [.warn "early" none true, .warn "own" none true] ∧
      quiet.context.suppressed = 1 ∧ quiet.throttle.count "color" = 1 := by
  obtain ⟨log, -, -, -, -, suppressed, count⟩ := Collaborators.quiet_delivers_audible
    (c := libraryImporters) (collaborators_unaware {} _) .direct libraryCalls librarySession
  refine ⟨log.trans ?_, suppressed.trans ?_, (count "color").trans ?_⟩
  · decide +kernel
  · decide +kernel
  · decide +kernel

end Lines

end StyleBuild
