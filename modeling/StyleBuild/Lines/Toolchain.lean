import StyleBuild.Lines.Evaluator

/-!
# The toolchain of lines

The serializer writes one rule to a line, or all of them in one line without blanks, and keeps track of
where each rule comes from. How the collaborators answer, directly or later, can be chosen.
-/

set_option autoImplicit false

namespace StyleBuild.Lines

def distinct (xs : List String) : List String :=
  xs.foldl (fun acc x => if acc.contains x then acc else acc ++ [x]) []

/-- Columns at which texts start that are written one after another. -/
def columns (start : Nat) : List String → List Nat
  | [] => []
  | t :: rest => start :: columns (start + t.length) rest

def ruleText (style : Style) (r : RuleLine) : String :=
  match style with
  | .expanded => r.text
  | .compressed => String.ofList (r.text.toList.filter (· != ' '))

def css (rules : List RuleLine) (style : Style) : String :=
  (match style with
    | .expanded => "\n"
    | .compressed => "").intercalate (rules.map (ruleText style))

def positions (rules : List RuleLine) (style : Style) : List (Nat × Nat) :=
  match style with
  | .expanded => (List.range rules.length).map (·, 0)
  | .compressed => (columns 0 (rules.map (ruleText style))).map (0, ·)

def sourceMap (rules : List RuleLine) (style : Style) : SourceMap :=
  let sources := distinct (rules.map RuleLine.url)
  { sources
    mappings := (rules.zip (positions rules style)).map fun (r, line, column) =>
      { generatedLine := line, generatedColumn := column
        sourceIndex := sources.findIdx (· == r.url), sourceLine := r.line } }

/-- Where the source map comes from: the serializer's own, none, or one spelled out. -/
inductive MapSource where
  | own
  | absent
  | given (fields : List (String × Value))

structure Settings where
  name : String := "default"
  evaluation : Evaluation := .plain
  awaitParse : Bool := false
  awaitRender : Bool := false
  renderFault : Option Fault := none
  map : MapSource := .own

def answerAs {σ ρ : Type} (later : Bool) (act : σ → Except Fault ρ × σ) (s : σ) :
    Answer σ Fault ρ × σ :=
  if later then
    (.pending fun s =>
      let (r, s) := act s
      (r.mapError (Fault.leaving "coroutine"), s), s)
  else
    let (r, s) := act s
    (.ofExcept r, s)

def render (c : Settings) (rules : List RuleLine) (style : Style) : Except Fault (String × Builder) :=
  match c.renderFault with
  | some f => .error f
  | none =>
    let builder : Builder := match c.map with
      | .own => some (.ok (sourceMap rules style))
      | .absent => none
      | .given fs => some (Fault.ofChecked SourceMap.model (SourceMap.check fs))
    .ok (css rules style, builder)

def toolchain (c : Settings) : Toolchain kit where
  name := c.name
  methods := { render := "AsyncSerializer.render" }
  evaluation := c.evaluation
  parse contents dialect url := answerAs c.awaitParse fun w =>
    let notes : Notes := w.own
    (parse contents url, { w with own := { notes with parsed := notes.parsed ++ [(url, dialect)] } })
  evaluate sheet functions := evaluate sheet functions
  render rules style := answerAs c.awaitRender fun w => (render c rules style, w)

/-! ## Importers with canned answers -/

inductive Canned where
  | memory (files : List (String × String)) (scheme : String)
  | table (entries : List (String × Value))
  | raising (f : Fault)
  | ambiguous (candidates : Value)
  /-- Always the same value, which is no source. -/
  | value (v : Value)

def Canned.answer (reference : String) (base : Option String) : Canned → Except Fault Offer
  | memory files scheme =>
    let start := scheme ++ ":"
    let name := if Text.startsWith start reference then
        String.ofList (reference.toList.drop start.length) else reference
    match files.lookup name with
    | some contents => do
      let dialect ← (Dialect.forLocation name).mapError .malformedUrl
      pure (.source { url := start ++ name, contents, dialect })
    | none => .ok .declined
  | table entries =>
    match entries.lookup reference with
    | some (.record fs) => .source <$> Fault.ofChecked Source.model (Source.check fs)
    | _ => .ok .declined
  | raising f => .error f
  | ambiguous candidates =>
    match Fault.ambiguity (.text reference) candidates (.ofText? base) .evaluate with
    | .ok f => .error (.failure f)
    | .error f => .error f
  | value .null => .ok .declined
  | value v => .ok (.other v.typeName)

/-- Importers by their handles' ids, each answering directly or later, all calls noted. -/
def importers (table : List (String × Canned × Bool)) : Importers kit :=
  fun handle reference base w =>
    match table.lookup handle.id with
    | none => (.value .declined, w)
    | some (canned, later) =>
      answerAs later (fun w =>
        let notes : Notes := w.own
        (canned.answer reference base,
          { w with own := { notes with calls := notes.calls ++ [(handle.id, reference, base)] } })) w

end StyleBuild.Lines
