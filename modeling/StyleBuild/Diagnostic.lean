import StyleBuild.Span
import StyleBuild.Telemetry.Console

/-!
# Diagnostics

Warnings and debug messages of a stylesheet go to its author, apart from the library's own events.
-/

set_option autoImplicit false

namespace StyleBuild

inductive Diagnostic where
  | warn (message : String) (span : Option Span) (deprecation : Bool)
  | debug (message : String) (span : Option Span)
  deriving DecidableEq, Repr

namespace Diagnostic

def placeField (span : Option Span) : List (String × Value) :=
  match span with
  | some s => [("location", .text s.format)]
  | none => []

def line (color : Bool) : Diagnostic → String
  | warn message span deprecation =>
    Console.line color .warning message
      ((if deprecation then [("deprecation", .bool true)] else []) ++ placeField span)
  | debug message span => Console.line color .debug message (placeField span)

def consoleLabel (color : Bool) : String := "StderrLogger(color=" ++ Literal.ofValue (.bool color) ++ ")"

end Diagnostic

end StyleBuild
