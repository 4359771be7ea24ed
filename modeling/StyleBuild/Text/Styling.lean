/-!
# Styling of terminals

A control sequence tells a terminal to change its color or the like: an escape and a bracket, numbers,
and a letter. Where the output is no terminal, texts are printed without them.
-/

set_option autoImplicit false

namespace StyleBuild.Text

/-- What stands between the bracket of a control sequence and its letter. -/
def isParameter (c : Char) : Bool := c.isDigit || c == ';' || c == '?'

def afterSequence? : List Char → Option (List Char)
  | '\x1b' :: '[' :: rest =>
    match rest.dropWhile isParameter with
    | letter :: after => if letter.isAlpha then some after else none
    | [] => none
  | _ => none

theorem length_afterSequence? {cs after : List Char} (found : afterSequence? cs = some after) :
    after.length < cs.length := by
  unfold afterSequence? at found
  split at found
  · next rest =>
    have shorter := (List.dropWhile_suffix (l := rest) isParameter).length_le
    split at found
    · next kept =>
      split at found
      · cases found
        rw [kept, List.length_cons] at shorter
        simp only [List.length_cons]
        omega
      · cases found
    · cases found
  · cases found

def unstyled (cs : List Char) : List Char :=
  match cs with
  | [] => []
  | c :: rest =>
    match _found : afterSequence? (c :: rest) with
    | some after => unstyled after
    | none => c :: unstyled rest
termination_by cs.length
decreasing_by
  · exact length_afterSequence? _found
  · simp

end StyleBuild.Text
