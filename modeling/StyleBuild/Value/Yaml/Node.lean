import StyleBuild.Table
import StyleBuild.Value.Yaml.Tag
import StyleBuild.Value.Yaml.Token

/-!
# Nodes of configuration documents

A document is a tree of scalars, lists and maps, each with its tag. A node with a name may be referred to
later; inside itself it is a `ring`. A map keeps its entries as they were written, and those it has once
the maps under its merge keys are put in front of them.
-/

set_option autoImplicit false

namespace StyleBuild.Yaml

inductive Node where
  | scalar (tag : Tag) (text : String)
  | list (tag : Tag) (items : List Node)
  | map (tag : Tag) (entries : List (Node × Node)) (merged : Option (List (Node × Node)))
  /-- A reference to a collection from inside it. -/
  | ring (isMap : Bool)
  deriving Repr, Inhabited

namespace Node

def absent : Node := scalar .null ""

def tag : Node → Tag
  | scalar t _ | list t _ | map t _ _ => t
  | ring isMap => if isMap then .map else .list

/-- The entries that a map takes from the value of a merge key, if it can. -/
def mergeable? : Node → Option (List (Node × Node))
  | map _ _ merged => merged
  | list _ items =>
    items.foldr (fun item acc => match item, acc with
      | map _ _ (some es), some rest => some (rest ++ es)
      | _, _ => none) (some [])
  | _ => none

/-- A key as it counts in a map: the sign of a value is text. -/
def asKey (k : Node) : Node :=
  match k with
  | scalar .default s => scalar .text s
  | k => k

/-- The entries of a map, those of merged maps first; none if something cannot be merged. -/
def mergeEntries (es : List (Node × Node)) : Option (List (Node × Node)) := do
  let merged ← (es.filter (·.1.tag == .merge)).mapM fun e => e.2.mergeable?
  let own := (es.filter (·.1.tag != .merge)).map fun e => (e.1.asKey, e.2)
  pure (merged.flatten ++ own)

def ofEntries (t : Tag) (es : List (Node × Node)) : Node := map t es (mergeEntries es)

end Node

structure Reader where
  scan : Scan
  names : List (String × Node) := []
  handles : List (String × String) := []

abbrev Reading := StateT Reader (Except Flaw)

namespace Reading

def commonHandles : List (String × String) := [("!", "!"), ("!!", Tag.stem)]

def refuse {α : Type} (f : Flaw) : Reading α := fun _ => .error f

def peek : Reading Token := fun r => do
  let (t, scan) ← r.scan.peek
  pure (t, { r with scan })

def drop : Reading Unit := modify fun r => { r with scan := r.scan.drop }

def isNext (those : List Token) : Reading Bool := do
  let t ← peek
  pure (those.contains t)

def name (anchor : Option String) (n : Node) : Reading Unit :=
  match anchor with
  | some a => modify fun r => { r with names := Table.set a n r.names }
  | none => pure ()

def claim (anchor : Option String) : Reading Unit := do
  let r ← get
  match anchor with
  | some a => if (r.names.lookup a).isSome then refuse .composition else pure ()
  | none => pure ()

def properties : Reading (Option String × Option (Option String × String)) := do
  match ← peek with
  | .anchor a =>
    drop
    match ← peek with
    | .tag h t =>
      drop
      pure (some a, some (h, t))
    | _ => pure (some a, none)
  | .tag h t =>
    drop
    match ← peek with
    | .anchor a =>
      drop
      pure (some a, some (h, t))
    | _ => pure (none, some (h, t))
  | _ => pure (none, none)

/-- The full name of a tag; a lone exclamation mark leaves it to the form of the node. -/
def tagName (tag : Option (Option String × String)) : Reading (Option String) := do
  match tag with
  | none => pure none
  | some (none, text) => pure (some text)
  | some (some handle, text) =>
    match (← get).handles.lookup handle with
    | some stem => pure (some (stem ++ text))
    | none => refuse .order

def scalarTag (tagName : Option String) (isPlain : Bool) (text : String) : Tag :=
  match tagName with
  | none => if isPlain then Tag.ofForm text else .text
  | some "!" => Tag.ofForm text
  | some n => Tag.ofName n

def collectionTag (tagName : Option String) (dflt : Tag) : Tag :=
  match tagName with
  | none | some "!" => dflt
  | some n => Tag.ofName n

/-- A collection, known by its name from its start on. -/
def collection (anchor : Option String) (isMap : Bool) (content : Reading Node) : Reading Node := do
  claim anchor
  name anchor (.ring isMap)
  let n ← content
  name anchor n
  pure n

mutual
/-- A node, in block style if that is allowed; `inline` allows a list at the column of its key. -/
def node (block inline : Bool) : Nat → Reading Node
  | 0 => refuse .order
  | fuel + 1 => do
    if let .reference a ← peek then
      drop
      match (← get).names.lookup a with
      | some n => pure n
      | none => refuse .composition
    else
      let (anchor, tag) ← properties
      let tag ← tagName tag
      let asList := collectionTag tag .list
      let asMap := collectionTag tag .map
      match ← peek with
      | .scalar text isPlain =>
        drop
        claim anchor
        let n := Node.scalar (scalarTag tag isPlain text) text
        name anchor n
        pure n
      | .openList => collection anchor false (drop *> flowList asList fuel [] true)
      | .openMap => collection anchor true (drop *> flowMap asMap fuel [] true)
      | t =>
        if t == .item && inline then collection anchor false (inlineList asList fuel [])
        else if t == .blockList && block then collection anchor false (drop *> blockList asList fuel [])
        else if t == .blockMap && block then collection anchor true (drop *> blockMap asMap fuel [])
        else if anchor.isSome || tag.isSome then
          claim anchor
          let n := Node.scalar (scalarTag tag true "") ""
          name anchor n
          pure n
        else refuse .order
def nodeUnless (block inline : Bool) (those : List Token) : Nat → Reading Node
  | 0 => refuse .order
  | fuel + 1 => do
    if ← isNext those then pure .absent else node block inline fuel
def blockList (t : Tag) : Nat → List Node → Reading Node
  | 0, _ => refuse .order
  | fuel + 1, acc => do
    match ← peek with
    | .item =>
      drop
      let n ← nodeUnless true false [.item, .blockEnd] fuel
      blockList t fuel (n :: acc)
    | .blockEnd =>
      drop
      pure (.list t acc.reverse)
    | _ => refuse .order
def inlineList (t : Tag) : Nat → List Node → Reading Node
  | 0, _ => refuse .order
  | fuel + 1, acc => do
    match ← peek with
    | .item =>
      drop
      let n ← nodeUnless true false [.item, .key, .value, .blockEnd] fuel
      inlineList t fuel (n :: acc)
    | _ => pure (.list t acc.reverse)
def blockMap (t : Tag) : Nat → List (Node × Node) → Reading Node
  | 0, _ => refuse .order
  | fuel + 1, acc => do
    match ← peek with
    | .key =>
      drop
      let k ← nodeUnless true true [.key, .value, .blockEnd] fuel
      let v ← value true [.key, .value, .blockEnd] fuel
      blockMap t fuel ((k, v) :: acc)
    | .blockEnd =>
      drop
      pure (.ofEntries t acc.reverse)
    | _ => refuse .order
def value (block : Bool) (those : List Token) : Nat → Reading Node
  | 0 => refuse .order
  | fuel + 1 => do
    if ← isNext [.value] then
      drop
      nodeUnless block block those fuel
    else pure .absent
/-- Entries of a list in brackets; one with a key is a map of its own. -/
def flowList (t : Tag) : Nat → List Node → Bool → Reading Node
  | 0, _, _ => refuse .order
  | fuel + 1, acc, first => do
    if ← isNext [.closeList] then
      drop
      pure (.list t acc.reverse)
    else
      if !first then
        if ← isNext [.comma] then drop else refuse .order
      match ← peek with
      | .key =>
        drop
        let k ← nodeUnless false false [.value, .comma, .closeList] fuel
        let v ← value false [.comma, .closeList] fuel
        let _ ← peek
        flowList t fuel (.ofEntries .map [(k, v)] :: acc) false
      | .closeList =>
        drop
        pure (.list t acc.reverse)
      | _ =>
        let n ← node false false fuel
        flowList t fuel (n :: acc) false
/-- Entries of a map in brackets; one without a key sign has no value. -/
def flowMap (t : Tag) : Nat → List (Node × Node) → Bool → Reading Node
  | 0, _, _ => refuse .order
  | fuel + 1, acc, first => do
    if ← isNext [.closeMap] then
      drop
      pure (.ofEntries t acc.reverse)
    else
      if !first then
        if ← isNext [.comma] then drop else refuse .order
      match ← peek with
      | .key =>
        drop
        let k ← nodeUnless false false [.value, .comma, .closeMap] fuel
        let v ← value false [.comma, .closeMap] fuel
        flowMap t fuel ((k, v) :: acc) false
      | .closeMap =>
        drop
        pure (.ofEntries t acc.reverse)
      | _ =>
        let k ← node false false fuel
        let _ ← peek
        flowMap t fuel ((k, .absent) :: acc) false
end

/-! ## Documents -/

def directives : Nat → Bool → List (String × String) → Reading Unit
  | 0, _, _ => refuse .order
  | fuel + 1, versioned, handles => do
    match ← peek with
    | .directive d =>
      drop
      match d with
      | .version major => if versioned || major != 1 then refuse .order else directives fuel true handles
      | .handle h stem =>
        if (handles.lookup h).isSome then refuse .order
        else directives fuel versioned ((h, stem) :: handles)
      | .other => directives fuel versioned handles
    | _ => modify fun r => { r with handles := handles ++ commonHandles }

def skipEnds : Nat → Reading Unit
  | 0 => pure ()
  | fuel + 1 => do
    if ← isNext [.documentEnd] then
      drop
      skipEnds fuel

/-- Whether a document with a start mark comes, up to that mark; without one the stream ends. -/
def documentStart (fuel : Nat) : Reading Bool := do
  skipEnds fuel
  if ← isNext [.streamEnd] then pure false
  else
    directives fuel false []
    if ← isNext [.documentStart] then
      drop
      pure true
    else refuse .order

def isDirective : Token → Bool
  | .directive _ => true
  | _ => false

def document (fuel : Nat) : Reading (Option Node) := do
  let t ← peek
  let root ←
    if isDirective t || [.documentStart, .streamEnd].contains t then do
      if ← documentStart fuel then
        let t ← peek
        if isDirective t || [.documentStart, .documentEnd, .streamEnd].contains t then
          pure (some Node.absent)
        else some <$> node true false fuel
      else pure none
    else do
      modify fun r => { r with handles := commonHandles }
      some <$> node true false fuel
  if root.isSome then
    if ← isNext [.documentEnd] then drop
    if ← documentStart fuel then refuse .composition else pure root
  else pure root

end Reading

def Node.read (doc : List Char) : Except Flaw (Option Node) :=
  (Reading.document (4 * doc.length + 16)).run' { scan := { cursor := { rest := doc } } }

end StyleBuild.Yaml
