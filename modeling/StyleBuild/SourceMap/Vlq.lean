/-!
# Base64 VLQ

An integer is written as base64 digits, five bits each, the least significant first; bit five says that
another digit follows, and the lowest bit of the total is the sign.
-/

set_option autoImplicit false

namespace StyleBuild.Vlq

def alphabet : List Char :=
  "ABCDEFGHIJKLMNOPQRSTUVWXYZabcdefghijklmnopqrstuvwxyz0123456789+/".toList

def symbol (d : Nat) : Char := alphabet.getD d 'A'

/-- An integer with its sign moved into the lowest bit. -/
def fold (n : Int) : Nat := if n < 0 then 2 * n.natAbs + 1 else 2 * n.natAbs

/-- Digits of five bits, the least significant first, all but the last marked as continued. -/
def digits (v : Nat) : List Nat :=
  if v < 32 then [v] else (v % 32 + 32) :: digits (v / 32)
termination_by v

def encode (n : Int) : List Char := (digits (fold n)).map symbol

end StyleBuild.Vlq
