/-!
# Stages of a compilation

A run goes through four stages in order and ends done or failed. An error belongs to the stage it
occurred in, which also decides the exit code of a command line run.
-/

set_option autoImplicit false

namespace StyleBuild

inductive Stage where
  | start | resolveEntry | evaluate | assemble | done | failed
  deriving DecidableEq, Repr, Inhabited

namespace Stage

def name : Stage → String
  | start => "START"
  | resolveEntry => "RESOLVE_ENTRY"
  | evaluate => "EVALUATE"
  | assemble => "ASSEMBLE"
  | done => "DONE"
  | failed => "FAILED"

def all : List Stage := [start, resolveEntry, evaluate, assemble, done, failed]

def ofName? (s : String) : Option Stage := all.find? fun st => st.name == s

/-- Configuration problems exit with one, everything later with two. -/
def exitCode : Stage → Nat
  | start => 1
  | _ => 2

def description : Stage → String
  | start => "Validate the request and bind the import cache"
  | resolveEntry => "Resolve the entry point"
  | evaluate => "Evaluate stylesheets and resolve imports"
  | assemble => "Render CSS and assemble the result"
  | done => "Compilation finished"
  | failed => "Compilation failed"

end Stage

end StyleBuild
