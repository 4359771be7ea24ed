import StyleBuild.Table
import StyleBuild.Fault
import StyleBuild.Telemetry.Redact

/-!
# Spans and tracers

A span has a name and attributes; a fault that ends it leaves its redacted message as the status and in
two more attributes. Spans go to a tracer. Tracers are kept by name: a caller may install one, otherwise
the provider makes one on first use. Once the provider has failed it is not asked again, and whoever asks
for a tracer that is not kept gets a silent one.
-/

set_option autoImplicit false

namespace StyleBuild

structure SpanRecord where
  name : String
  attributes : List (String × Value) := []
  failure : Option String := none
  deriving Repr

namespace SpanRecord

/-- A new span; attributes without a value are left out. -/
def start (name : String) (attributes : List (String × Value)) : SpanRecord :=
  { name, attributes := attributes.filter fun a => !a.2.isNull }

def withAttribute (r : SpanRecord) (key : String) (v : Value) : SpanRecord :=
  { r with attributes := r.attributes ++ [(key, v)] }

def fail (r : SpanRecord) (f : Fault) : SpanRecord :=
  let message := Redact.redactText f.message Redact.defaultLength
  let failed := (r.withAttribute "exception.type" (.text f.kind)).withAttribute "exception.message"
    (.text message)
  { failed with failure := some message }

end SpanRecord

inductive Tracer where
  /-- Installed by a caller, who tells tracers apart by labels. -/
  | installed (label : String)
  | provided (serial : Nat)
  | silent
  deriving DecidableEq, Repr

structure Tracers where
  kept : List (String × Tracer) := []
  /-- Whether the provider has failed before. -/
  disabled : Bool := false
  broken : Bool := false
  made : Nat := 0
  recorded : List (String × SpanRecord) := []
  deriving Repr

namespace Tracers

def mainName : String := "sass_core"

def get (t : Tracers) (name : String) : Tracer × Tracers :=
  match Table.get? name t.kept with
  | some tracer => (tracer, t)
  | none =>
    if t.disabled then (.silent, t)
    else if t.broken then (.silent, { t with disabled := true })
    else
      let tracer := Tracer.provided t.made
      (tracer, { t with kept := Table.set name tracer t.kept, made := t.made + 1 })

/-- Installs a tracer, or forgets the one that is kept. -/
def set (t : Tracers) (name : String) (tracer : Option Tracer) : Tracers :=
  match tracer with
  | some tracer => { t with kept := Table.set name tracer t.kept }
  | none => { t with kept := Table.erase name t.kept }

/-- Forgets all tracers and lets the provider be asked again. -/
def reset (t : Tracers) : Tracers := { t with kept := [], disabled := false }

def record (t : Tracers) (r : SpanRecord) : Tracers :=
  match t.get mainName with
  | (.installed label, t) => { t with recorded := t.recorded ++ [(label, r)] }
  | (_, t) => t

end Tracers

end StyleBuild
