/-!
# UTF-8

`step` reads one character, or finds out how many octets a flawed sequence spans. Strict decoding stops
at the first flaw and tells where it is; lenient decoding puts U+FFFD in its place and goes on.
-/

set_option autoImplicit false

namespace StyleBuild.Text.Utf8

def encode (cs : List Char) : List UInt8 := cs.flatMap String.utf8EncodeChar

inductive Flaw where
  | startOctet | continuation | truncated
  deriving DecidableEq, Repr

def Flaw.text : Flaw → String
  | .startOctet => "invalid start byte"
  | .continuation => "invalid continuation byte"
  | .truncated => "unexpected end of data"

/-- One character, or a flaw; `more` counts the octets taken after the first. -/
inductive Step where
  | char (c : Char) (more : Nat)
  | flaw (f : Flaw) (more : Nat)
  deriving DecidableEq, Repr

def isTail (b : UInt8) : Bool := 0x80 ≤ b && b < 0xc0

def tailBits (b : UInt8) : Nat := b.toNat % 0x40

/-- Whether the second octet keeps a sequence of three inside its range: no overlong form, no surrogate. -/
def second3 (a b : UInt8) : Bool :=
  isTail b && (if b < 0xa0 then a != 0xe0 else a != 0xed)

def second4 (a b : UInt8) : Bool :=
  isTail b && (if b < 0x90 then a != 0xf0 else a != 0xf4)

def step (a : UInt8) (rest : List UInt8) : Step :=
  if a < 0x80 then .char (Char.ofNat a.toNat) 0
  else if a < 0xc2 then .flaw .startOctet 0
  else if a < 0xe0 then
    match rest with
    | [] => .flaw .truncated 0
    | b :: _ =>
      if isTail b then .char (Char.ofNat (a.toNat % 0x20 * 0x40 + tailBits b)) 1
      else .flaw .continuation 0
  else if a < 0xf0 then
    match rest with
    | [] => .flaw .truncated 0
    | [b] => if second3 a b then .flaw .truncated 1 else .flaw .continuation 0
    | b :: c :: _ =>
      if !second3 a b then .flaw .continuation 0
      else if !isTail c then .flaw .continuation 1
      else .char (Char.ofNat ((a.toNat % 0x10 * 0x40 + tailBits b) * 0x40 + tailBits c)) 2
  else if a < 0xf5 then
    match rest with
    | [] => .flaw .truncated 0
    | [b] => if second4 a b then .flaw .truncated 1 else .flaw .continuation 0
    | [b, c] =>
      if !second4 a b then .flaw .continuation 0
      else if !isTail c then .flaw .continuation 1 else .flaw .truncated 2
    | b :: c :: d :: _ =>
      if !second4 a b then .flaw .continuation 0
      else if !isTail c then .flaw .continuation 1
      else if !isTail d then .flaw .continuation 2
      else .char (Char.ofNat
        (((a.toNat % 8 * 0x40 + tailBits b) * 0x40 + tailBits c) * 0x40 + tailBits d)) 3
  else .flaw .startOctet 0

def decodeLossy (bytes : List UInt8) : List Char :=
  match bytes with
  | [] => []
  | a :: rest =>
    match step a rest with
    | .char c n => c :: decodeLossy (rest.drop n)
    | .flaw _ n => Char.ofNat 0xfffd :: decodeLossy (rest.drop n)
termination_by bytes.length

/-- A text that is not UTF-8: the flaw, its offset, the octets it spans and the first of them. -/
structure Invalid where
  flaw : Flaw
  offset : Nat
  size : Nat
  octet : UInt8
  deriving DecidableEq, Repr

/-- Decoding that stops at the first flaw; `offset` counts the octets before `bytes`. -/
def decodeFrom (offset : Nat) (bytes : List UInt8) : Except Invalid (List Char) :=
  match bytes with
  | [] => .ok []
  | a :: rest =>
    match step a rest with
    | .char c n => (decodeFrom (offset + n + 1) (rest.drop n)).map (c :: ·)
    | .flaw f n => .error ⟨f, offset, n + 1, a⟩
termination_by bytes.length

def decode (bytes : List UInt8) : Except Invalid (List Char) := decodeFrom 0 bytes

/-- Line ends CR LF and CR read as LF. -/
def unifyLines : List Char → List Char
  | '\r' :: '\n' :: rest => '\n' :: unifyLines rest
  | '\r' :: rest => '\n' :: unifyLines rest
  | c :: rest => c :: unifyLines rest
  | [] => []

end StyleBuild.Text.Utf8
