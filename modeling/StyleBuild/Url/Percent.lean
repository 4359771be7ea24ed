import StyleBuild.Text.Utf8
import StyleBuild.Value.Json.Reader

/-!
# Percent encoding

A path is written into a URL as its UTF-8 octets; letters, digits, `_ . - ~` and the slash stand for
themselves, every other octet is `%` and two capital hexadecimal digits. Reading decodes each run of
ASCII characters on its own and keeps a `%` that no two digits follow.
-/

set_option autoImplicit false

namespace StyleBuild.Url

def isPlainOctet (b : UInt8) : Bool :=
  (0x61 ≤ b && b ≤ 0x7a) || (0x41 ≤ b && b ≤ 0x5a) || (0x30 ≤ b && b ≤ 0x39)
    || b == 0x5f || b == 0x2e || b == 0x2d || b == 0x7e || b == 0x2f

def capitalHex (n : Nat) : Char := Char.ofNat (if n < 10 then 48 + n else 55 + n)

def quoteOctet (b : UInt8) : List Char :=
  if isPlainOctet b then [Char.ofNat b.toNat]
  else ['%', capitalHex (b.toNat / 16), capitalHex (b.toNat % 16)]

def quote (cs : List Char) : List Char := (Text.Utf8.encode cs).flatMap quoteOctet

def isAscii (c : Char) : Bool := c.toNat < 0x80

/-- The octets of a run of ASCII characters, its percent escapes decoded. -/
def unescape : List Char → List UInt8
  | '%' :: a :: b :: rest =>
    match Json.hexDigit? a, Json.hexDigit? b with
    | some x, some y => UInt8.ofNat (x * 16 + y) :: unescape rest
    | _, _ => 0x25 :: unescape (a :: b :: rest)
  | c :: rest => UInt8.ofNat c.toNat :: unescape rest
  | [] => []

/-- Percent decoding: runs of ASCII are decoded as UTF-8, other characters kept. -/
def unquote (cs : List Char) : List Char :=
  match cs with
  | [] => []
  | c :: rest =>
    if isAscii c then
      Text.Utf8.decodeLossy (unescape (c :: rest.takeWhile isAscii)) ++ unquote (rest.dropWhile isAscii)
    else c :: unquote rest
termination_by cs.length
decreasing_by
  · exact Nat.lt_succ_of_le (List.dropWhile_sublist isAscii).length_le
  · simp

def unquoteText (s : String) : String := String.ofList (unquote s.toList)

end StyleBuild.Url
