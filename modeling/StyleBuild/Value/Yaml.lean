import StyleBuild.Value.Mapping
import StyleBuild.Value.Yaml.Node
import StyleBuild.Value.Yaml.Scalar

/-!
# Configuration documents

A document is one value: mappings and lists in block or bracket style, and scalars. A key given twice
keeps its first place and its last value. Values are found level by level, the outermost first, so of
several faults the one least deep counts, and of those on one level the first.
-/

set_option autoImplicit false

namespace StyleBuild.Yaml

/-- A fault and the level it was found on. -/
abbrev Depth := Nat × Flaw

/-- The fault that counts of two, the first one on equal levels. -/
def Depth.first (a b : Depth) : Depth := if b.1 < a.1 then b else a

def both {α β γ : Type} (f : α → β → γ) (x : Except Depth α) (y : Except Depth β) : Except Depth γ :=
  match x, y with
  | .ok a, .ok b => .ok (f a b)
  | .error e, .ok _ | .ok _, .error e => .error e
  | .error e, .error e' => .error (Depth.first e e')

/-- The text of a scalar, or of the value of a map that has one of its own. -/
def Node.text? : Node → Option String
  | scalar _ s => some s
  | map _ es _ => entriesText? es
  | _ => none
where
  entriesText? : List (Node × Node) → Option String
    | [] => none
    | (k, v) :: rest => if k.tag == .default then v.text? else entriesText? rest

mutual
/-- The value of a node, looked at on a level; the contents of a collection are one level deeper. -/
def valueAt (level : Nat) : Node → Except Depth Value
  | .scalar t s =>
    if t.isCollection then .error (level + 1, .construction)
    else (scalarValue t s).mapError fun f => (level, f)
  | .list t items =>
    match t with
    | .list => (valuesAt (level + 1) items).map .list
    | .orderedMap | .pairs => (pairsAt (level + 1) items).map .list
    | .map | .set => .error (level + 1, .construction)
    | _ => .error (level, .construction)
  | .map t es merged =>
    match t with
    | .map | .set =>
      match merged with
      | none => .error (level + 1, .construction)
      | some es =>
        (entriesAt (level + 1) es).map fun es =>
          let es := es.foldl (fun acc e => Value.setKey e.1 e.2 acc) []
          if t = .set then .set (es.map Prod.fst) else .ofEntries es
    | .list | .orderedMap | .pairs => .error (level + 1, .construction)
    | .merge | .default | .other => .error (level, .construction)
    | t =>
      match Node.text?.entriesText? es with
      | some s => (scalarValue t s).mapError fun f => (level, f)
      | none => .error (level, .construction)
  | .ring isMap => .ok (if isMap then .record [] else .list [])
def valuesAt (level : Nat) : List Node → Except Depth (List Value)
  | [] => .ok []
  | n :: rest => both List.cons (valueAt level n) (valuesAt level rest)
def entriesAt (level : Nat) : List (Node × Node) → Except Depth (List (Value × Value))
  | [] => .ok []
  | (k, v) :: rest =>
    let key := if k.tag.isCollection then .error (level, .construction) else valueAt level k
    both List.cons (both Prod.mk key (valueAt level v)) (entriesAt level rest)
def pairsAt (level : Nat) : List Node → Except Depth (List Value)
  | [] => .ok []
  | .map _ [(k, v)] _ :: rest =>
    both List.cons (both (fun k v => .tuple [k, v]) (valueAt level k) (valueAt level v))
      (pairsAt level rest)
  | _ :: _ => .error (level, .construction)
end

def isAllowed (c : Char) : Bool :=
  let n := c.toNat
  n == 9 || n == 10 || n == 13 || (0x20 ≤ n && n ≤ 0x7e) || n == 0x85 || (0xa0 ≤ n && n ≤ 0xd7ff)
    || (0xe000 ≤ n && n ≤ 0xfffd) || 0x10000 ≤ n

/-- The value of a document; one without content is null. -/
def read (doc : List Char) : Except Flaw Value :=
  if !doc.all isAllowed then .error .character
  else do
    match ← Node.read doc with
    | none => pure .null
    | some n => (valueAt 0 n).mapError Prod.snd

namespace Flaw

def kind : Flaw → String
  | character => "ReaderError"
  | lexical => "ScannerError"
  | order => "ParserError"
  | composition => "ComposerError"
  | construction => "ConstructorError"
  | unreadable kind _ => kind

def message : Flaw → String
  | character => "special characters are not allowed"
  | lexical => "found characters that form no token"
  | order => "found a token out of place"
  | composition => "expected a single document with names given once before they are used"
  | construction => "found a node that stands for no value"
  | unreadable _ message => message

def isFormat : Flaw → Bool
  | unreadable _ _ => false
  | _ => true

end Flaw

end StyleBuild.Yaml
