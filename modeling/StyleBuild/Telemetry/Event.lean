import StyleBuild.Telemetry.Console
import StyleBuild.Stage

/-!
# Events

The library tells what it does in events. Those of a compilation carry the label of the run: its entry
point and the way calls are answered.
-/

set_option autoImplicit false

namespace StyleBuild

/-- How the calls of a run are answered. -/
inductive Mode where
  | direct | awaiting
  deriving DecidableEq, Repr, Inhabited

def Mode.name : Mode → String
  | .direct => "sync"
  | .awaiting => "async"

structure RunLabel where
  entry : String
  mode : Mode
  deriving DecidableEq, Repr

inductive Event where
  | fileFound (reference url : String)
  | packageUnknown (package reference : String)
  | declined (resolver reference : String)
  | importMissing (reference : String) (base : Option String)
  | importResolved (reference : String) (base : Option String) (url kind label : String)
  | throttled (kind : String) (threshold : Nat)
  | warningSuppressed (origin deprecation : Option String)
  | mapUnavailable
  | toolchainFailed (entryPoint value error : String)
  | toolchainLoaded (entryPoint toolchain : String)
  | stageStart (run : RunLabel) (stage : Stage)
  | stageComplete (run : RunLabel) (stage : Stage)
  | failed (run : RunLabel) (stage : Stage) (code message : String)
  | omitted (run : RunLabel) (counts : List (String × Nat))
  | complete (run : RunLabel) (loaded suppressed : Nat)
  | cssWritten (path : String) (loaded : Nat)
  deriving DecidableEq, Repr

namespace Event

def level : Event → Level
  | mapUnavailable => .warning
  | toolchainFailed _ _ _ | failed _ _ _ _ => .error
  | complete _ _ _ => .info
  | _ => .debug

def name : Event → String
  | fileFound _ _ => "filesystem_import_found"
  | packageUnknown _ _ => "package_not_configured"
  | declined _ _ => "resolver_declined"
  | importMissing _ _ => "import_not_found"
  | importResolved _ _ _ _ _ => "import_resolved"
  | throttled _ _ => "deprecation_throttled"
  | warningSuppressed _ _ => "dependency_warning_suppressed"
  | mapUnavailable => "source_map_unavailable"
  | toolchainFailed _ _ _ => "toolchain_load_failed"
  | toolchainLoaded _ _ => "toolchain_loaded"
  | stageStart _ _ => "compilation_stage_start"
  | stageComplete _ _ => "compilation_stage_complete"
  | failed _ _ _ _ => "compilation_failed"
  | omitted _ _ => "deprecations_omitted"
  | complete _ _ _ => "compilation_complete"
  | cssWritten _ _ => "css_written"

def labelFields (run : RunLabel) : List (String × Value) :=
  [("entry", .text run.entry), ("mode", .text run.mode.name)]

def countFields (counts : List (String × Nat)) : List (String × Value) :=
  counts.map fun c => (c.1, .int c.2)

def fields : Event → List (String × Value)
  | fileFound reference url => [("reference", .text reference), ("url", .text url)]
  | packageUnknown package reference => [("package", .text package), ("reference", .text reference)]
  | declined resolver reference => [("resolver", .text resolver), ("reference", .text reference)]
  | importMissing reference base => [("reference", .text reference), ("base_url", .ofText? base)]
  | importResolved reference base url kind label =>
    [("reference", .text reference), ("base_url", .ofText? base), ("url", .text url),
      ("resolver", .text kind), ("resolver_label", .text label)]
  | throttled kind threshold => [("kind", .text kind), ("threshold", .int threshold)]
  | warningSuppressed origin deprecation =>
    [("origin_url", .ofText? origin), ("deprecation", .ofText? deprecation)]
  | mapUnavailable => [("reason", .text "serializer returned no builder")]
  | toolchainFailed entryPoint value error =>
    [("entry_point", .text entryPoint), ("value", .text value), ("error", .text error)]
  | toolchainLoaded entryPoint toolchain =>
    [("entry_point", .text entryPoint), ("toolchain", .text toolchain)]
  | stageStart run stage | stageComplete run stage =>
    labelFields run ++ [("stage", .text stage.name)]
  | failed run stage code message =>
    labelFields run ++ [("stage", .text Stage.failed.name), ("failed_stage", .text stage.name),
      ("code", .text code), ("error", .text message)]
  | omitted run counts => labelFields run ++ [("omitted", .record (countFields counts))]
  | complete run loaded suppressed =>
    labelFields run ++ [("stage", .text Stage.done.name), ("loaded", .int loaded),
      ("suppressed_warnings", .int suppressed)]
  | cssWritten path loaded => [("path", .text path), ("loaded", .int loaded)]

end Event

end StyleBuild
