import StyleBuild.Value.Yaml.Lexeme

/-!
# Tokens of configuration documents

A document is a sequence of tokens, found one by one as they are asked for. In block style the indentation
opens and closes collections, so a scan keeps the columns of the open ones; a node turns out to be a key
only when a colon follows it on its line, and the tokens for the key, and for the mapping it may open, are
then put in front of it. A token is therefore handed out only when no candidate for a key can change what
stands before it, and a flaw is found only by a reader that gets as far.
-/

set_option autoImplicit false

namespace StyleBuild.Yaml

inductive Token where
  | scalar (text : String) (plain : Bool)
  | anchor (name : String)
  | reference (name : String)
  | tag (handle : Option String) (text : String)
  | directive (d : Directive)
  | key | value
  | item | comma
  | openList | closeList | openMap | closeMap
  | blockList | blockMap | blockEnd
  | documentStart | documentEnd
  | streamEnd
  deriving DecidableEq, Repr

/-- A token that could still become a key. -/
structure Candidate where
  site : Nat
  required : Bool
  line : Nat
  column : Nat
  index : Nat
  deriving Repr

structure Scan where
  cursor : Cursor
  /-- Open brackets; a closing one too many counts below zero. -/
  flow : Int := 0
  /-- The column of the innermost block collection, and those of the outer ones. -/
  indent : Int := -1
  outer : List Int := []
  /-- Candidates by the number of brackets around them. -/
  keys : List (Int × Candidate) := []
  allowKey : Bool := true
  queue : List Token := []
  taken : Nat := 0
  ended : Bool := false

namespace Scan

/-- How many candidates may lie between a key and its colon, in characters. -/
def keyReach : Nat := 1024

def inFlow (s : Scan) : Bool := s.flow != 0

def emit (s : Scan) (t : Token) : Scan := { s with queue := s.queue ++ [t] }

def skip (s : Scan) (n : Nat) : Scan := { s with cursor := s.cursor.skip n }

/-- Forgets candidates that are too far away; one that has to be a key is a flaw. -/
def dropStale (s : Scan) : Except Flaw Scan :=
  let isStale (k : Int × Candidate) : Bool :=
    k.2.line != s.cursor.line || s.cursor.index - k.2.index > keyReach
  if s.keys.any fun k => isStale k && k.2.required then .error .lexical
  else .ok { s with keys := s.keys.filter (!isStale ·) }

def dropKey (s : Scan) : Except Flaw Scan :=
  match s.keys.lookup s.flow with
  | some k => if k.required then .error .lexical
    else .ok { s with keys := s.keys.filter (·.1 != s.flow) }
  | none => .ok s

def saveKey (s : Scan) : Except Flaw Scan :=
  if s.allowKey then do
    let required := !s.inFlow && s.indent == s.cursor.column
    let t ← s.dropKey
    pure { t with keys := (s.flow, ⟨s.taken + s.queue.length, required, s.cursor.line,
      s.cursor.column, s.cursor.index⟩) :: t.keys }
  else .ok s

def closeBlocks (column : Int) (s : Scan) : Scan :=
  if s.inFlow then s
  else
    let columns := s.indent :: s.outer
    let closed := columns.takeWhile (column < ·)
    match columns.dropWhile (column < ·) with
    | [] => s
    | indent :: outer =>
      { s with indent, outer, queue := s.queue ++ closed.map fun _ => Token.blockEnd }

/-- Opens a block collection at a column if it starts one, its token put at a place in the queue. -/
def openBlock (s : Scan) (column : Int) (place : Nat) (t : Token) : Scan :=
  if s.inFlow ∨ column ≤ s.indent then s
  else { s with indent := column, outer := s.indent :: s.outer, queue := s.queue.insertIdx place t }

def openBracket (s : Scan) (t : Token) : Except Flaw Scan := do
  let s ← s.saveKey
  pure ({ s with flow := s.flow + 1, allowKey := true }.emit t |>.skip 1)

def closeBracket (s : Scan) (t : Token) : Except Flaw Scan := do
  let s ← s.dropKey
  pure ({ s with flow := s.flow - 1, allowKey := false }.emit t |>.skip 1)

def comma (s : Scan) : Except Flaw Scan := do
  let s ← s.dropKey
  pure ({ s with allowKey := true }.emit .comma |>.skip 1)

def entryMark (s : Scan) (opening mark : Token) : Except Flaw Scan := do
  if !s.inFlow && !s.allowKey then .error .lexical
  else
    let s := s.openBlock s.cursor.column s.queue.length opening
    let s ← s.dropKey
    pure ({ s with allowKey := mark == Token.item || !s.inFlow }.emit mark |>.skip 1)

/-- A colon: the candidate before it is a key, or it stands without one. -/
def colon (s : Scan) : Except Flaw Scan :=
  match s.keys.lookup s.flow with
  | some k =>
    let place := k.site - s.taken
    let s := { s with
      keys := s.keys.filter (·.1 != s.flow)
      queue := s.queue.insertIdx place .key
      allowKey := false }
    .ok ((s.openBlock k.column place .blockMap).emit .value |>.skip 1)
  | none => do
    if !s.inFlow && !s.allowKey then .error .lexical
    else
      let s := s.openBlock s.cursor.column s.queue.length .blockMap
      let s ← { s with allowKey := !s.inFlow }.dropKey
      pure (s.emit .value |>.skip 1)

def closeAll (s : Scan) : Except Flaw Scan := do
  let s ← (s.closeBlocks (-1)).dropKey
  pure { s with allowKey := false }

def mark (s : Scan) (t : Token) : Except Flaw Scan := do
  let s ← s.closeAll
  pure (s.emit t |>.skip 3)

def directiveLine (s : Scan) : Except Flaw Scan := do
  let s ← s.closeAll
  let (d, cursor) ← directive s.cursor
  pure ({ s with cursor }.emit (.directive d))

def finish (s : Scan) : Except Flaw Scan := do
  let s ← s.closeAll
  pure { s.emit .streamEnd with keys := [], ended := true }

def named (s : Scan) (token : String → Token) : Except Flaw Scan := do
  let s ← s.saveKey
  let (name, cursor) ← nodeName s.cursor.next
  pure ({ s with cursor, allowKey := false }.emit (token name))

def tagged (s : Scan) : Except Flaw Scan := do
  let s ← s.saveKey
  let (handle, text, cursor) ← tag s.cursor
  pure ({ s with cursor, allowKey := false }.emit (.tag handle text))

def quotedScalar (s : Scan) (double : Bool) : Except Flaw Scan := do
  let s ← s.saveKey
  let (text, cursor) ← quoted double s.cursor
  pure ({ s with cursor, allowKey := false }.emit (.scalar text false))

def blockScalar (s : Scan) (isFolded : Bool) : Except Flaw Scan := do
  let s ← s.dropKey
  let (text, cursor) ← block isFolded s.indent s.cursor
  pure ({ s with cursor, allowKey := true }.emit (.scalar text false))

def plainScalar (s : Scan) : Except Flaw Scan := do
  let s ← s.saveKey
  let (text, crossed, cursor) := plain s.inFlow (s.indent + 1) s.cursor
  pure ({ s with cursor, allowKey := crossed }.emit (.scalar text true))

def startsPlain (inFlow : Bool) (cs : List Char) : Bool :=
  match cs with
  | [] => false
  | c :: rest =>
    !(endsWord cs || c.toNat == 39 || "-?:,[]\x7b\x7d#&*!|>\"%@\x60".toList.contains c)
      || (!endsWord rest && (c == '-' || (!inFlow && (c == '?' || c == ':'))))

def token (s : Scan) (c : Char) : Except Flaw Scan :=
  let after := s.cursor.rest.tail
  let starts := s.cursor.column == 0
  if c = '%' ∧ starts then s.directiveLine
  else if starts ∧ atMark s.cursor.rest then s.mark (if c = '-' then .documentStart else .documentEnd)
  else if c = '[' then s.openBracket .openList
  else if c.toNat = 0x7b then s.openBracket .openMap
  else if c = ']' then s.closeBracket .closeList
  else if c.toNat = 0x7d then s.closeBracket .closeMap
  else if c = ',' then s.comma
  else if c = '-' ∧ endsWord after then s.entryMark .blockList .item
  else if c = '?' ∧ (s.inFlow ∨ endsWord after) then s.entryMark .blockMap .key
  else if c = ':' ∧ (s.inFlow ∨ endsWord after) then s.colon
  else if c = '*' then s.named .reference
  else if c = '&' then s.named .anchor
  else if c = '!' then s.tagged
  else if c = '|' ∧ !s.inFlow then s.blockScalar false
  else if c = '>' ∧ !s.inFlow then s.blockScalar true
  else if c.toNat = 39 then s.quotedScalar false
  else if c = '"' then s.quotedScalar true
  else if startsPlain s.inFlow s.cursor.rest then s.plainScalar
  else .error .lexical

/-- Finds one more token, with those that the indentation puts before it. -/
def fetch (s : Scan) : Except Flaw Scan := do
  let start := if s.cursor.index = 0 ∧ s.cursor.isAt (Char.ofNat 0xfeff) then s.cursor.next else s.cursor
  let (cursor, crossed) := start.gap false (start.rest.length + 1)
  let s ← { s with cursor, allowKey := s.allowKey || (crossed && !s.inFlow) }.dropStale
  let s := s.closeBlocks s.cursor.column
  match s.cursor.rest with
  | [] => s.finish
  | c :: _ => s.token c

/-- Whether the next token is not settled: there is none, or it could still become a key. -/
def isUnsettled (s : Scan) : Bool :=
  s.queue.isEmpty || s.keys.any (·.2.site == s.taken)

def settle : Nat → Scan → Except Flaw Scan
  | 0, s => .ok s
  | fuel + 1, s =>
    if s.ended then .ok s
    else do
      let s ← if s.queue.isEmpty then pure s else s.dropStale
      if s.isUnsettled then
        let s ← s.fetch
        settle fuel s
      else pure s

/-- The next token; after the last one it is the end of the stream. -/
def peek (s : Scan) : Except Flaw (Token × Scan) := do
  let s ← s.settle (s.cursor.rest.length + 2)
  pure (s.queue.head?.getD .streamEnd, s)

def drop (s : Scan) : Scan := { s with queue := s.queue.tail, taken := s.taken + 1 }

end Scan

end StyleBuild.Yaml
