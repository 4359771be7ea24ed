import StyleBuild.Text.Split
import StyleBuild.Value.Json.Reader

/-!
# Hosts in brackets

A bracketed host is an IPv6 address, with a zone after `%` or an IPv4 tail if it likes, or a version
mark `v<hex>.<anything>`.
-/

set_option autoImplicit false

namespace StyleBuild.Url

open Text (splitAtChar cutAt)

/-- An octet of a dotted address: up to three digits, no leading zero, at most 255. -/
def isOctet (cs : List Char) : Bool :=
  !cs.isEmpty && cs.all Char.isDigit && cs.length ≤ 3 && (cs == ['0'] || cs.head? != some '0')
    && Integer.decimal cs ≤ 255

def isIpv4 (cs : List Char) : Bool :=
  let parts := splitAtChar '.' cs
  parts.length == 4 && parts.all isOctet

def isHextet (cs : List Char) : Bool :=
  !cs.isEmpty && cs.length ≤ 4 && cs.all fun c => (Json.hexDigit? c).isSome

/-- The groups of an IPv6 address; one gap `::` may stand for at least one missing group. -/
def areGroups (parts : List (List Char)) : Bool :=
  let gaps := (List.range parts.length).filter fun i =>
    0 < i && i + 1 < parts.length && parts[i]? == some []
  match gaps with
  | [] => parts.length == 8 && parts.all isHextet
  | [i] =>
    let side (xs : List (List Char)) := if xs == [[]] then [] else xs
    let high := side (parts.take i)
    let low := side (parts.drop (i + 1))
    high.all isHextet && low.all isHextet && high.length + low.length < 8
  | _ => false

def isIpv6 (cs : List Char) : Bool :=
  let (address, zoned) := match cutAt '%' cs with
    | some (a, zone) => (a, !zone.isEmpty && !zone.contains '%')
    | none => (cs, true)
  let parts := splitAtChar ':' address
  zoned && !cs.contains '/' && 3 ≤ parts.length &&
    match parts.getLast? with
    | some last =>
      if last.contains '.' then isIpv4 last && areGroups (parts.dropLast ++ [['0'], ['0']])
      else areGroups parts
    | none => false

/-- A version mark: `v`, hexadecimal digits, a point and something after it. -/
def isVersioned (cs : List Char) : Bool :=
  match cs with
  | 'v' :: rest =>
    let digits := rest.takeWhile fun c => (Json.hexDigit? c).isSome
    match rest.drop digits.length with
    | '.' :: tail => !digits.isEmpty && !tail.isEmpty && !tail.contains '\n'
    | _ => false
  | _ => false

end StyleBuild.Url
