import StyleBuild.Text.Blank

/-!
# Redaction

Messages that reach a trace may quote URLs. The user name and password of a URL and the values of query
parameters that carry secrets are replaced by a fixed word, then the message is cut to a length.
-/

set_option autoImplicit false

namespace StyleBuild.Redact

def mask : List Char := "<REDACTED>".toList

def isLogin (c : Char) : Bool := c != '@' && c != '/' && !Text.isBlank c

/-- A name, a colon and a password, both with at least one character. -/
def isNameAndPassword (login : List Char) : Bool :=
  match login with
  | [] => false
  | _ :: rest => rest.dropLast.contains ':'

/-- The text after a login and its `@`, if the text starts with one. -/
def afterLogin? (cs : List Char) : Option (List Char) :=
  match cs.dropWhile isLogin with
  | '@' :: rest => if isNameAndPassword (cs.takeWhile isLogin) then some rest else none
  | _ => none

theorem length_afterLogin? {cs rest : List Char} (h : afterLogin? cs = some rest) :
    rest.length < cs.length := by
  have le : (cs.dropWhile isLogin).length ≤ cs.length := (List.dropWhile_sublist isLogin).length_le
  unfold afterLogin? at h
  split at h
  · rename_i tail eq
    split at h
    · cases h
      rw [eq, List.length_cons] at le
      omega
    · cases h
  · cases h

/-- Logins after `://` masked, from left to right. -/
def maskLogins (cs : List Char) : List Char :=
  match cs with
  | [] => []
  | c :: rest =>
    if "://".toList.isPrefixOf (c :: rest) then
      match _h : afterLogin? (rest.drop 2) with
      | some after => "://".toList ++ mask ++ '@' :: maskLogins after
      | none => c :: maskLogins rest
    else c :: maskLogins rest
termination_by cs.length
decreasing_by
  · have := length_afterLogin? _h
    simp only [List.length_drop] at this
    simp only [List.length_cons]
    omega
  · simp
  · simp

def secretNames : List (List Char) :=
  ["token", "access_token", "api_key", "key", "signature", "sig"].map String.toList

/-- A small letter and the characters that match it without regard to case. -/
def matchesLetter (letter c : Char) : Bool :=
  c.toLower == letter
    || (letter == 'k' && c.toNat == 0x212a)
    || (letter == 's' && c.toNat == 0x17f)
    || (letter == 'i' && (c.toNat == 0x130 || c.toNat == 0x131))

def afterName? : List Char → List Char → Option (List Char)
  | [], '=' :: rest => some rest
  | w :: word, c :: rest => if matchesLetter w c then afterName? word rest else none
  | _, _ => none

def isSecret (c : Char) : Bool := c != '&' && !Text.isBlank c && c != '"' && c.toNat != 39

/-- The length of a secret parameter's name with its `=`, if a value follows it. -/
def secretSize? (cs : List Char) : Option Nat :=
  secretNames.findSome? fun word =>
    match afterName? word cs with
    | some (v :: _) => if isSecret v then some (word.length + 1) else none
    | _ => none

/-- Secret values after `?` or `&` masked, from left to right. -/
def maskSecrets (cs : List Char) : List Char :=
  match cs with
  | [] => []
  | c :: rest =>
    if c = '?' ∨ c = '&' then
      match secretSize? rest with
      | some n => c :: rest.take n ++ mask ++ maskSecrets ((rest.drop n).dropWhile isSecret)
      | none => c :: maskSecrets rest
    else c :: maskSecrets rest
termination_by cs.length
decreasing_by
  · have := (List.dropWhile_sublist isSecret (l := rest.drop n)).length_le
    simp only [List.length_drop] at this
    simp only [List.length_cons]
    omega
  · simp
  · simp

/-- The first `n` characters; a negative length leaves out that many at the end. -/
def cut (n : Int) (cs : List Char) : List Char :=
  if 0 ≤ n then cs.take n.toNat else cs.take (cs.length - n.natAbs)

def defaultLength : Int := 500

def redact (message : List Char) (length : Int) : List Char :=
  cut length (maskSecrets (maskLogins message))

def redactText (message : String) (length : Int) : String :=
  String.ofList (redact message.toList length)

end StyleBuild.Redact
