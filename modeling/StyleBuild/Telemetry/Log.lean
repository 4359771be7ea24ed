import StyleBuild.Telemetry.Console
import StyleBuild.Fault
import StyleBuild.Table

/-!
# The log

A log has a threshold, below which entries are dropped, and writes the others as console lines or as
records. An entry written inside a span carries the ids of the span and of its trace.
-/

set_option autoImplicit false

namespace StyleBuild

/-- The active span: the id of its trace and its own; an id of zero means there is none. -/
structure TraceIds where
  trace : Int
  span : Int
  deriving DecidableEq, Repr

namespace TraceIds

/-- An id in hexadecimal digits, padded with zeros to a width that counts the sign of a negative one. -/
def digits (width : Nat) (n : Int) : String :=
  String.ofList (if n < 0 then '-' :: Literal.hex (width - 1) n.natAbs else Literal.hex width n.natAbs)

def fields (ids : TraceIds) : List (String × Value) :=
  if ids.trace ≠ 0 ∧ ids.span ≠ 0 then
    [("trace_id", .text (digits 32 ids.trace)), ("span_id", .text (digits 16 ids.span))]
  else []

/-- The fields of an entry inside a span; ids the entry has already are replaced. -/
def mark (ids : Option TraceIds) (entry : List (String × Value)) : List (String × Value) :=
  ((ids.map fields).getD []).foldl (fun entry f => Table.set f.1 f.2 entry) entry

end TraceIds

structure Log where
  threshold : Nat
  records : Bool
  deriving DecidableEq, Repr

namespace Log

def defaultLevel : String := "WARNING"

def ofLevel (name : String) (records : Bool) : Except Fault Log :=
  match Level.threshold? name with
  | some threshold => .ok { threshold, records }
  | none => .error (.unknownLevel name)

/-- What an entry becomes in the log: nothing below the threshold, a record, or the lines it takes on the
console. -/
def write (log : Log) (ids : Option TraceIds) (level : Level) (event : String)
    (fields : List (String × Value)) : Except Fault (List Value) :=
  if level.rank < log.threshold then .ok []
  else
    let fields := TraceIds.mark ids (Table.erase "timestamp" (Table.erase "level" fields))
    if log.records then
      .ok [.record (fields ++ [("event", .text event), ("level", .text level.name)])]
    else match Console.entry true level event fields with
      | .ok text => .ok ((Text.lines (text ++ "\n")).map .text)
      | .error v => .error (.raised
          { kind := "TypeError"
            message := "can only concatenate str (not \"" ++ v.typeName ++ "\") to str" })

/-- Writes an entry as the method of this name does; the one for caught errors adds a field that says so. -/
def call (log : Log) (ids : Option TraceIds) (method event : String) (fields : List (String × Value)) :
    Except Fault (List Value) :=
  if method = "exception" then log.write ids .error event (Table.setNew "exc_info" (.bool true) fields)
  else log.write ids ((Level.ofName? method).getD .info) event fields

end Log

end StyleBuild
