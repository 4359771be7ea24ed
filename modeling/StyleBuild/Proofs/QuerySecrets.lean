import Mathlib.Data.List.Forall2
import Mathlib.Data.List.TakeWhile
import StyleBuild.Proofs.Redaction

/-!
# Secret parameters in redacted messages

Logins are masked first, and what is taken for a login may start in front of a secret value, end in it or
start in it: nothing keeps a login from running past the end of an authority. A value that no login reaches
into or out of is masked as a whole, and so is one that a login covers; `secret_not_shown` says that such
values are not told apart. The values that are hidden wherever they stand are those without `@`, `:` and `/`.
-/

set_option autoImplicit false

namespace StyleBuild.Redact

/-! ## Logins in a text -/

/-- A user name, a colon and a password. -/
structure Login (login : List Char) : Prop where
  plain : ∀ c ∈ login, isLogin c = true
  divided : isNameAndPassword login = true

theorem afterLogin?_append {login : List Char} (is_login : Login login) {d : Char}
    (stops : isLogin d = false) (rest : List Char) :
    afterLogin? (login ++ d :: rest) = if d = '@' then some rest else none := by
  have taken : (login ++ d :: rest).takeWhile isLogin = login := by
    rw [List.takeWhile_append_of_pos is_login.plain, List.takeWhile_cons_of_neg (by simp [stops]),
      List.append_nil]
  have dropped : (login ++ d :: rest).dropWhile isLogin = d :: rest := by
    rw [List.dropWhile_append_of_pos is_login.plain, List.dropWhile_cons_of_neg (by simp [stops])]
  simp [afterLogin?_eq, taken, dropped, is_login.divided]

theorem afterLogin?_eq_some_iff {cs after : List Char} :
    afterLogin? cs = some after ↔ ∃ login, Login login ∧ cs = login ++ '@' :: after := by
  constructor
  · intro found
    rw [afterLogin?_eq] at found
    obtain ⟨⟨sign, divided⟩, rest⟩ := Option.ite_none_right_eq_some.mp found
    obtain ⟨tail, dropped⟩ := List.head?_eq_some_iff.mp sign
    obtain rfl : tail = after := by simpa [dropped] using rest
    refine ⟨cs.takeWhile isLogin, ⟨fun c there => List.mem_takeWhile_imp there, divided⟩, ?_⟩
    rw [← dropped, List.takeWhile_append_dropWhile]
  · rintro ⟨login, is_login, rfl⟩
    rw [afterLogin?_append is_login (by simp [isLogin]), if_pos rfl]

theorem maskLogins_login {login : List Char} (is_login : Login login) (after : List Char) :
    maskLogins (':' :: '/' :: '/' :: (login ++ '@' :: after))
      = "://".toList ++ mask ++ '@' :: maskLogins after := by
  rw [maskLogins_scheme, afterLogin?_eq_some_iff.mpr ⟨login, is_login, rfl⟩]

/-- Where no login starts, the scan goes on by one character. -/
theorem maskLogins_cons_of_loginless {c : Char} {rest : List Char}
    (loginless : ∀ login after, Login login →
      c :: rest ≠ ':' :: '/' :: '/' :: (login ++ '@' :: after)) :
    maskLogins (c :: rest) = c :: maskLogins rest := by
  by_cases starts : "://".toList.isPrefixOf (c :: rest) = true
  · obtain ⟨more, same⟩ := List.isPrefixOf_iff_prefix.mp starts
    obtain ⟨rfl, rfl⟩ := List.cons.inj same
    have missed : afterLogin? more = none := by
      rw [Option.eq_none_iff_forall_ne_some]
      intro after found
      obtain ⟨login, is_login, rfl⟩ := afterLogin?_eq_some_iff.mp found
      exact loginless login after is_login rfl
    have scheme := maskLogins_scheme more
    rw [missed] at scheme
    exact scheme
  · exact maskLogins_cons_of_other (Bool.eq_false_iff.mpr starts)

/-- A login with its `://` in front and its `@` behind that starts in one text and ends in the next. -/
def Crosses (front rest : List Char) : Prop :=
  ∃ before login after, front ++ rest = before ++ ':' :: '/' :: '/' :: (login ++ '@' :: after) ∧
    Login login ∧ before.length < front.length ∧ after.length < rest.length

theorem Crosses.behind {front rest : List Char} (crosses : Crosses front rest) (more : List Char) :
    Crosses (more ++ front) rest := by
  obtain ⟨before, login, after, text, is_login, starts, ends⟩ := crosses
  refine ⟨more ++ before, login, after, ?_, is_login, ?_, ends⟩
  · rw [List.append_assoc, text, List.append_assoc]
  · simpa using starts

theorem not_crosses_of_colonless {front : List Char} (colonless : ':' ∉ front) (rest : List Char) :
    ¬ Crosses front rest := by
  rintro ⟨before, login, after, text, -, starts, -⟩
  have colon : (front ++ rest)[before.length]? = some ':' := by simp [text]
  rw [List.getElem?_append_left starts] at colon
  exact colonless (List.mem_of_getElem? colon)

/-- A `://` that starts in front of another character ends there. -/
theorem scheme_in_front {d : Char} (colon : d ≠ ':') (slash : d ≠ '/') {front rest before more : List Char}
    (text : front ++ d :: rest = before ++ ':' :: '/' :: '/' :: more)
    (starts : before.length ≤ front.length) :
    ∃ left, front = before ++ ':' :: '/' :: '/' :: left ∧ left ++ d :: rest = more := by
  rcases List.append_eq_append_iff.mp text with ⟨tail, whole, cut⟩ | ⟨tail, whole, cut⟩
  · obtain rfl : tail = [] := by
      rw [whole, List.length_append] at starts
      exact List.length_eq_zero_iff.mp (by omega)
    exact absurd (List.cons.inj cut).1 colon
  · rcases tail with _ | ⟨_, _ | ⟨_, _ | ⟨_, left⟩⟩⟩
    · exact absurd (List.cons.inj cut).1.symm colon
    · simp only [List.cons_append, List.nil_append, List.cons.injEq] at cut
      exact absurd cut.2.1.symm slash
    · simp only [List.cons_append, List.nil_append, List.cons.injEq] at cut
      exact absurd cut.2.2.1.symm slash
    · simp only [List.cons_append, List.cons.injEq] at cut
      obtain ⟨rfl, rfl, rfl, cut⟩ := cut
      exact ⟨left, whole, cut.symm⟩

/-- No login starts in front of a path and ends behind it, as the slash in between ends it. -/
theorem not_crosses_of_path (front : List Char) {d : Char} (colon : d ≠ ':') (slash : d ≠ '/')
    (path : List Char) (colonless : ':' ∉ path) (rest : List Char) :
    ¬ Crosses (front ++ d :: '/' :: path) rest := by
  rintro ⟨before, login, after, text, is_login, starts, ends⟩
  rw [List.append_assoc, List.cons_append] at text
  by_cases outside : before.length ≤ front.length
  · obtain ⟨left, -, covered⟩ := scheme_in_front colon slash text outside
    have inner : left ++ d :: '/' :: path <+: login ++ '@' :: after := ⟨rest, by simp [← covered]⟩
    have long : (left ++ d :: '/' :: path).length ≤ login.length := by
      have size := congrArg List.length covered
      simp only [List.length_append, List.length_cons] at size ⊢
      omega
    obtain ⟨more, whole⟩ := List.prefix_of_prefix_length_le inner ⟨'@' :: after, rfl⟩ long
    exact absurd (is_login.plain '/' (by simp [← whole])) (by simp [isLogin])
  · -- it would start in the path, which has no colon
    have sign : ((front ++ [d]) ++ (('/' :: path) ++ rest))[before.length]? = some ':' := by
      have same : (front ++ [d]) ++ (('/' :: path) ++ rest) = front ++ d :: ('/' :: path ++ rest) := by simp
      rw [same, text]
      simp
    rw [List.getElem?_append_right (by simp; omega), List.getElem?_append_left (by simp at starts ⊢; omega)] at sign
    have there := List.mem_of_getElem? sign
    exact colonless (by simpa using there)

/-- Texts that no login crosses are masked apart. The induction is on the first text, of which either a
whole login or a character is taken. -/
theorem maskLogins_append_of_uncrossed {front rest : List Char} (uncrossed : ¬ Crosses front rest) :
    maskLogins (front ++ rest) = maskLogins front ++ maskLogins rest := by
  induction size : front.length using Nat.strongRecOn generalizing front with
  | ind size ih =>
    subst size
    rcases front with _ | ⟨c, front⟩
    · rw [maskLogins, List.nil_append, List.nil_append]
    by_cases starts : ∃ login after, Login login ∧ c :: front = ':' :: '/' :: '/' :: (login ++ '@' :: after)
    · obtain ⟨login, after, is_login, text⟩ := starts
      have further : ¬ Crosses after rest := by
        intro crosses
        apply uncrossed
        rw [text]
        simpa using crosses.behind (':' :: '/' :: '/' :: (login ++ ['@']))
      have shorter : after.length < (c :: front).length := by
        rw [text]
        simp
        omega
      have onward := ih _ shorter further rfl
      have joined : c :: front ++ rest = ':' :: '/' :: '/' :: (login ++ '@' :: (after ++ rest)) := by
        simp [text]
      rw [joined, text, maskLogins_login is_login, maskLogins_login is_login, onward]
      simp
    · have further : ¬ Crosses front rest := fun crosses => uncrossed (crosses.behind [c])
      have onward := ih front.length (by simp) further rfl
      have alone : maskLogins (c :: front) = c :: maskLogins front := by
        apply maskLogins_cons_of_loginless
        intro login after is_login text
        exact starts ⟨login, after, is_login, text⟩
      have joined : maskLogins (c :: (front ++ rest)) = c :: maskLogins (front ++ rest) := by
        apply maskLogins_cons_of_loginless
        intro login after is_login text
        by_cases ends : after.length < rest.length
        · exact uncrossed ⟨[], login, after, text, is_login, by simp, ends⟩
        · -- the login would end in the first text already
          have outer : rest <:+ c :: (front ++ rest) := ⟨c :: front, rfl⟩
          have behind : after <:+ c :: (front ++ rest) :=
            ⟨':' :: '/' :: '/' :: (login ++ ['@']), by simp [text]⟩
          obtain ⟨inner, rfl⟩ := List.suffix_of_suffix_length_le outer behind (by omega)
          have shared : c :: front ++ rest = ':' :: '/' :: '/' :: (login ++ '@' :: inner) ++ rest := by
            simpa using text
          exact starts ⟨login, inner, is_login, List.append_cancel_right shared⟩
      rw [List.cons_append, joined, alone, onward, List.cons_append]

theorem maskLogins_append_of_plain (front : List Char) {tail : List Char} (colonless : ':' ∉ tail)
    (signless : '@' ∉ tail) : maskLogins (front ++ tail) = maskLogins front ++ tail := by
  have uncrossed : ¬ Crosses front tail := by
    rintro ⟨before, login, after, text, -, -, ends⟩
    have closing : '@' :: after <:+ front ++ tail := ⟨before ++ ':' :: '/' :: '/' :: login, by simp [text]⟩
    have short : ('@' :: after).length ≤ tail.length := by
      rw [List.length_cons]
      omega
    have inside := List.suffix_of_suffix_length_le closing ⟨front, rfl⟩ short
    exact signless (inside.subset List.mem_cons_self)
  have kept := maskLogins_append_of_colonless colonless []
  rw [List.append_nil, maskLogins, List.append_nil] at kept
  rw [maskLogins_append_of_uncrossed uncrossed, kept]

/-! ## Secret parameters in a text -/

/-- The name of a secret parameter in any case. -/
def IsSecretName (word : List Char) : Prop :=
  ∃ name ∈ secretNames, List.Forall₂ (fun letter c => matchesLetter letter c = true) name word

theorem toNat_of_matchesLetter {letter c : Char} (same : matchesLetter letter c = true) :
    c = letter ∨ (65 ≤ c.toNat ∧ c.toNat ≤ 90) ∨ c.toNat ∈ [0x212a, 0x17f, 0x130, 0x131] := by
  simp only [matchesLetter, Bool.or_eq_true, Bool.and_eq_true, beq_iff_eq] at same
  rcases same with ((lower | ⟨-, kelvin⟩) | ⟨-, long⟩) | ⟨-, dotted | dotless⟩
  · by_cases capital : 65 ≤ c.toNat ∧ c.toNat ≤ 90
    · exact .inr (.inl capital)
    · have unchanged : c.toLower = c := dif_neg capital
      exact .inl (unchanged.symm.trans lower)
  · simp [kelvin]
  · simp [long]
  · simp [dotted]
  · simp [dotless]

/-- A letter of a name may stand in a value, and frames neither a parameter nor a login. -/
theorem plain_of_matchesLetter {name : List Char} (known : name ∈ secretNames) {letter c : Char}
    (there : letter ∈ name) (same : matchesLetter letter c = true) :
    isSecret c = true ∧ c ∉ ['=', '?', '@', ':'] := by
  have small : (secretNames.all fun name => name.all fun letter =>
      isSecret letter && decide (letter ∉ ['=', '?', '@', ':'])) = true := by decide +kernel
  rcases toNat_of_matchesLetter same with rfl | code
  · have letters := List.all_eq_true.mp small name known
    simpa only [Bool.and_eq_true, decide_eq_true_eq] using List.all_eq_true.mp letters c there
  · simp only [List.mem_cons, List.not_mem_nil, or_false] at code
    have visible : Text.isBlank c = false := by
      simp [Text.isBlank, Text.isSpace, Text.inRanges, Text.spaceRanges]
      omega
    have other : ∀ d : Char, d.toNat < 65 → c ≠ d := by
      rintro d low rfl
      omega
    have quote : c.toNat ≠ 39 := by omega
    simp [isSecret, visible, quote, other '&' (by decide), other '"' (by decide), other '=' (by decide),
      other '?' (by decide), other '@' (by decide), other ':' (by decide)]

theorem IsSecretName.plain {word : List Char} (named : IsSecretName word) :
    ∀ c ∈ word, isSecret c = true ∧ c ∉ ['=', '?', '@', ':'] := by
  obtain ⟨name, known, letters⟩ := named
  intro c there
  obtain ⟨i, at_i, rfl⟩ := List.getElem_of_mem there
  have matching := letters.get (i := i) (by rw [letters.length_eq]; exact at_i) at_i
  exact plain_of_matchesLetter known (List.get_mem _ _) matching

theorem IsSecretName.notMem {word : List Char} (named : IsSecretName word) {c : Char}
    (frames : c ∈ ['=', '?', '@', ':', '&']) : c ∉ word := by
  intro there
  obtain ⟨secret, other⟩ := named.plain c there
  simp only [List.mem_cons, List.not_mem_nil, or_false, not_or] at frames other
  rcases frames with rfl | rfl | rfl | rfl | rfl
  · exact other.1 rfl
  · exact other.2.1 rfl
  · exact other.2.2.1 rfl
  · exact other.2.2.2 rfl
  · simp [isSecret] at secret

theorem afterName?_eq_some_iff {name cs rest : List Char} :
    afterName? name cs = some rest ↔
      ∃ word, List.Forall₂ (fun letter c => matchesLetter letter c = true) name word ∧
        cs = word ++ '=' :: rest := by
  induction name generalizing cs with
  | nil =>
    constructor
    · intro found
      unfold afterName? at found
      split at found
      · obtain rfl := Option.some.inj found
        exact ⟨[], .nil, rfl⟩
      · simp at *
      · cases found
    · rintro ⟨word, letters, rfl⟩
      cases letters
      rfl
  | cons letter name ih =>
    constructor
    · intro found
      rcases cs with _ | ⟨c, cs⟩
      · cases found
      · obtain ⟨same, found⟩ := Option.ite_none_right_eq_some.mp found
        obtain ⟨word, letters, rfl⟩ := ih.mp found
        exact ⟨c :: word, .cons same letters, rfl⟩
    · rintro ⟨word, letters, rfl⟩
      cases letters with
      | cons same letters =>
        rw [List.cons_append, afterName?, if_pos same]
        exact ih.mpr ⟨_, letters, rfl⟩

/-- A parameter is found by the first `=`, which ends its name. -/
theorem secretSize?_eq_some_iff {cs : List Char} {n : Nat} :
    secretSize? cs = some n ↔
      ∃ word v rest, IsSecretName word ∧ isSecret v = true ∧ cs = word ++ '=' :: v :: rest ∧
        n = word.length + 1 := by
  have found_name : ∀ {n}, secretSize? cs = some n → ∃ word v rest, IsSecretName word ∧
      isSecret v = true ∧ cs = word ++ '=' :: v :: rest ∧ n = word.length + 1 := by
    intro n found
    obtain ⟨name, known, here⟩ := List.exists_of_findSome?_eq_some found
    split at here
    · next v rest after =>
      obtain ⟨secret, size⟩ := Option.ite_none_right_eq_some.mp here
      obtain ⟨word, letters, text⟩ := afterName?_eq_some_iff.mp after
      refine ⟨word, v, rest, ⟨name, known, letters⟩, secret, text, ?_⟩
      rw [← letters.length_eq]
      exact (Option.some.inj size).symm
    · cases here
  refine ⟨found_name, ?_⟩
  rintro ⟨word, v, rest, named, secret, text, rfl⟩
  obtain ⟨name, known, letters⟩ := named
  have some_size : (secretSize? cs).isSome = true := by
    rw [secretSize?, List.findSome?_isSome_iff]
    refine ⟨name, known, ?_⟩
    rw [afterName?_eq_some_iff.mpr ⟨word, letters, text⟩]
    simp [secret]
  obtain ⟨m, found⟩ := Option.isSome_iff_exists.mp some_size
  obtain ⟨word', v', rest', named', -, text', rfl⟩ := found_name found
  -- both names end at the first equals sign
  have ends : ∀ {word : List Char} (more : List Char), IsSecretName word →
      (word ++ '=' :: more).takeWhile (· != '=') = word := by
    intro word more named
    have before : ∀ c ∈ word, (c != '=') = true := by
      intro c there
      have absent := named.notMem (c := '=') (by simp)
      simp only [bne_iff_ne, ne_eq]
      rintro rfl
      exact absent there
    rw [List.takeWhile_append_of_pos before, List.takeWhile_cons_of_neg (by simp), List.append_nil]
  have same : word' = word := by
    rw [← ends (v' :: rest') named', ← text', text, ends _ ⟨name, known, letters⟩]
  rw [found, same]

/-! ## Masking values -/

/-- What may follow a value: nothing, or a character that no value holds. -/
def Ends (rest : List Char) : Prop := ∀ c ∈ rest.head?, isSecret c = false

theorem dropWhile_value {value rest : List Char} (secret : ∀ c ∈ value, isSecret c = true)
    (ends : Ends rest) : (value ++ rest).dropWhile isSecret = rest := by
  rw [List.dropWhile_append_of_pos secret]
  rcases rest with _ | ⟨c, rest⟩
  · rfl
  · exact List.dropWhile_cons_of_neg (by simp [ends c rfl])

theorem maskSecrets_cons_of_other {c : Char} {rest : List Char}
    (other : (c = '?' ∨ c = '&') → secretSize? rest = none) :
    maskSecrets (c :: rest) = c :: maskSecrets rest := by
  rw [maskSecrets]
  split
  · next mark => rw [other mark]
  · rfl

theorem maskSecrets_parameter {mark : Char} (marks : mark = '?' ∨ mark = '&') {word : List Char}
    (named : IsSecretName word) {v : Char} (secret : isSecret v = true) (rest : List Char) :
    maskSecrets (mark :: (word ++ '=' :: v :: rest))
      = mark :: (word ++ '=' :: (mask ++ maskSecrets ((v :: rest).dropWhile isSecret))) := by
  have size : secretSize? (word ++ '=' :: v :: rest) = some (word.length + 1) :=
    secretSize?_eq_some_iff.mpr ⟨word, v, rest, named, secret, rfl, rfl⟩
  have taken : (word ++ '=' :: v :: rest).take (word.length + 1) = word ++ ['='] := by
    rw [List.take_length_add_append]
    rfl
  have dropped : (word ++ '=' :: v :: rest).drop (word.length + 1) = v :: rest := by
    rw [List.drop_length_add_append]
    rfl
  rw [maskSecrets, if_pos marks, size]
  simp only [taken, dropped]
  simp

/-- In front of a mark, a secret parameter whose value has started with `inner`. -/
structure Opens (mark : Char) (front name inner : List Char) : Prop where
  named : IsSecretName name
  text : front = name ++ '=' :: inner
  valued : ∃ v more, inner ++ [mark] = v :: more ∧ isSecret v = true

/-- Whether a parameter starts is settled in front of the next mark. -/
theorem secretSize?_append_mark {mark : Char} (marks : mark = '?' ∨ mark = '&') (front rest : List Char) :
    secretSize? (front ++ mark :: rest) = none ∨ ∃ name inner, Opens mark front name inner := by
  cases found : secretSize? (front ++ mark :: rest) with
  | none => exact .inl rfl
  | some n =>
    right
    obtain ⟨name, v, more, named, secret, text, -⟩ := secretSize?_eq_some_iff.mp found
    have absent : mark ∉ name := by
      rcases marks with rfl | rfl
      · exact named.notMem (by simp)
      · exact named.notMem (by simp)
    have unequal : '=' ≠ mark := by
      rcases marks with rfl | rfl <;> decide
    rcases List.append_eq_append_iff.mp text with ⟨tail, whole, cut⟩ | ⟨tail, whole, cut⟩
    · exfalso
      rcases tail with _ | ⟨t, tail⟩
      · exact unequal (List.cons.inj cut).1.symm
      · obtain ⟨rfl, -⟩ := List.cons.inj cut
        exact absent (by simp [whole])
    · rcases tail with _ | ⟨t, inner⟩
      · exact absurd (List.cons.inj cut).1 unequal
      · obtain ⟨rfl, value⟩ := List.cons.inj cut
        refine ⟨name, inner, named, whole, ?_⟩
        rcases inner with _ | ⟨d, inner⟩
        · obtain ⟨rfl, -⟩ := List.cons.inj value
          exact ⟨v, [], rfl, secret⟩
        · obtain ⟨rfl, -⟩ := List.cons.inj value
          exact ⟨v, inner ++ [mark], rfl, secret⟩

theorem Opens.masked {mark : Char} {front name inner : List Char} (opens : Opens mark front name inner)
    {c : Char} (starts : c = '?' ∨ c = '&') (text : List Char) :
    maskSecrets (c :: (front ++ mark :: text))
      = c :: (name ++ '=' :: (mask ++ maskSecrets ((inner ++ mark :: text).dropWhile isSecret))) := by
  obtain ⟨named, rfl, v, more, first, secret⟩ := opens
  have joined : inner ++ mark :: text = v :: (more ++ text) := by
    rw [← List.singleton_append, ← List.append_assoc, first, List.cons_append]
  rw [joined, ← maskSecrets_parameter starts named secret, ← joined]
  simp

/-- A value that ends at the mark or before leaves the mark standing. -/
theorem dropWhile_append_mark {mark : Char} {inner : List Char}
    (ends : ¬ ∀ c ∈ inner ++ [mark], isSecret c = true) (text : List Char) :
    (inner ++ mark :: text).dropWhile isSecret = inner.dropWhile isSecret ++ mark :: text := by
  rw [List.dropWhile_append]
  split
  · next empty =>
    rw [List.isEmpty_iff] at empty
    have inner_secret : ∀ c ∈ inner, isSecret c = true := List.dropWhile_eq_nil_iff.mp empty
    have stop : isSecret mark ≠ true := by
      intro secret_mark
      apply ends
      intro c there
      rcases List.mem_append.mp there with there | there
      · exact inner_secret c there
      · rw [List.mem_singleton.mp there, secret_mark]
    rw [List.dropWhile_cons_of_neg stop, empty, List.nil_append]
  · rfl

/-- Whatever stands in front of a secret parameter, its value is masked as a whole: by itself, or with the
value of a parameter that it is part of. The induction is on what stands in front. -/
theorem maskSecrets_value {mark : Char} (marks : mark = '?' ∨ mark = '&') {word : List Char}
    (named : IsSecretName word) (front : List Char) :
    ∃ shown, ∀ value rest, value ≠ [] → (∀ c ∈ value, isSecret c = true) → Ends rest →
      maskSecrets (front ++ mark :: (word ++ '=' :: (value ++ rest))) = shown ++ maskSecrets rest := by
  induction size : front.length using Nat.strongRecOn generalizing front with
  | ind size ih =>
    subst size
    rcases front with _ | ⟨c, front⟩
    · refine ⟨mark :: (word ++ '=' :: mask), ?_⟩
      intro value rest some_value secret ends
      obtain ⟨v, value, rfl⟩ := List.exists_cons_of_ne_nil some_value
      have dropped := dropWhile_value secret ends
      rw [List.cons_append] at dropped
      rw [List.nil_append, List.cons_append, maskSecrets_parameter marks named (secret v (by simp)), dropped]
      simp
    by_cases starts : (c = '?' ∨ c = '&') ∧ ∃ name inner, Opens mark front name inner
    · obtain ⟨starts, name, inner, opens⟩ := starts
      by_cases inside : ∀ c ∈ inner ++ [mark], isSecret c = true
      · -- the value of the parameter that starts here goes on to the end of ours
        refine ⟨c :: (name ++ '=' :: mask), ?_⟩
        intro value rest _ secret ends
        have all_secret : ∀ c ∈ inner ++ [mark] ++ word ++ ['='] ++ value, isSecret c = true := by
          have equals : isSecret '=' = true := by decide
          simp only [List.forall_mem_append, List.forall_mem_singleton]
          rw [List.forall_mem_append, List.forall_mem_singleton] at inside
          exact ⟨⟨⟨inside, fun c there => (named.plain c there).1⟩, equals⟩, secret⟩
        have dropped := dropWhile_value all_secret ends
        simp only [List.append_assoc, List.cons_append, List.nil_append] at dropped
        rw [List.cons_append, opens.masked starts, dropped]
        simp
      · have shorter : (inner.dropWhile isSecret).length < (c :: front).length := by
          have left := (List.dropWhile_sublist isSecret (l := inner)).length_le
          rw [opens.text]
          simp only [List.length_cons, List.length_append]
          omega
        obtain ⟨shown, masked⟩ := ih _ shorter _ rfl
        refine ⟨c :: (name ++ '=' :: (mask ++ shown)), ?_⟩
        intro value rest some_value secret ends
        rw [List.cons_append, opens.masked starts, dropWhile_append_mark inside,
          masked value rest some_value secret ends]
        simp
    · obtain ⟨shown, masked⟩ := ih front.length (by simp) front rfl
      refine ⟨c :: shown, ?_⟩
      intro value rest some_value secret ends
      have onward : maskSecrets (c :: (front ++ mark :: (word ++ '=' :: (value ++ rest))))
          = c :: maskSecrets (front ++ mark :: (word ++ '=' :: (value ++ rest))) := by
        apply maskSecrets_cons_of_other
        intro marked
        rcases secretSize?_append_mark marks front (word ++ '=' :: (value ++ rest)) with missed | parameter
        · exact missed
        · exact absurd ⟨marked, parameter⟩ starts
      rw [List.cons_append, onward, masked value rest some_value secret ends, List.cons_append]

/-! ## What is shown of a value -/

theorem Ends.maskLogins {rest : List Char} (ends : Ends rest) : Ends (maskLogins rest) := by
  rcases rest with _ | ⟨c, rest⟩
  · rw [Redact.maskLogins]
    exact ends
  · have colon : c ≠ ':' := by
      rintro rfl
      have kept : isSecret ':' = false := ends ':' rfl
      exact absurd kept (by decide)
    have kept : Redact.maskLogins (c :: rest) = c :: Redact.maskLogins rest := by
      apply maskLogins_cons_of_loginless
      intro login after _ text
      exact colon (List.cons.inj text).1
    rw [kept]
    exact ends

theorem maskLogins_secret {value : List Char} (secret : ∀ c ∈ value, isSecret c = true) :
    ∀ c ∈ maskLogins value, isSecret c = true := by
  have frame : ∀ c ∈ "://".toList ++ mask ++ ['@'], isSecret c = true :=
    List.all_eq_true.mp (by decide +kernel)
  fun_induction maskLogins value with
  | case1 => exact secret
  | case2 c rest starts after found ih =>
    obtain ⟨login, -, text⟩ := afterLogin?_eq_some_iff.mp found
    have secret_after : ∀ c ∈ after, isSecret c = true := by
      intro d there
      apply secret d
      apply List.mem_cons_of_mem
      apply List.mem_of_mem_drop (i := 2)
      simp [text, there]
    have parts : "://".toList ++ mask ++ '@' :: maskLogins after
        = "://".toList ++ mask ++ ['@'] ++ maskLogins after := by simp
    rw [parts, List.forall_mem_append]
    exact ⟨frame, ih secret_after⟩
  | case3 c rest starts missed ih | case4 c rest other ih =>
    obtain ⟨first, more⟩ := List.forall_mem_cons.mp secret
    exact List.forall_mem_cons.mpr ⟨first, ih more⟩

theorem maskLogins_ne_nil {value : List Char} (some_value : value ≠ []) : maskLogins value ≠ [] := by
  obtain ⟨v, value, rfl⟩ := List.exists_cons_of_ne_nil some_value
  rw [maskLogins]
  split
  · split <;> simp
  · simp

/-- A text that ends in a mark, the name of a secret parameter and `=`, behind which a value stands. -/
def OpensValue (pre : String) : Prop :=
  ∃ front mark word, pre.toList = front ++ mark :: (word ++ ['=']) ∧ (mark = '?' ∨ mark = '&') ∧
    IsSecretName word

/-- A text that is empty or starts with what ends a value: `&`, white space or a quote. -/
def EndsValue (post : String) : Prop :=
  ∀ c ∈ post.toList.head?, c = '&' ∨ Text.isBlank c = true ∨ c = '"' ∨ c.toNat = 39

/-- A value of a parameter. -/
structure SecretValue (v : String) : Prop where
  nonempty : v ≠ ""
  plain : ∀ c ∈ v.toList, c ≠ '&' ∧ Text.isBlank c = false ∧ c ≠ '"' ∧ c.toNat ≠ 39

instance (post : String) : Decidable (EndsValue post) := Option.decidableForallMem post.toList.head?

instance (v : String) : Decidable (SecretValue v) :=
  let plain (c : Char) : Prop := c ≠ '&' ∧ Text.isBlank c = false ∧ c ≠ '"' ∧ c.toNat ≠ 39
  have : Decidable (∀ c ∈ v.toList, plain c) := List.decidableBAll plain v.toList
  decidable_of_iff (v ≠ "" ∧ ∀ c ∈ v.toList, plain c) ⟨fun h => ⟨h.1, h.2⟩, fun h => ⟨h.1, h.2⟩⟩

theorem EndsValue.ends {post : String} (ends : EndsValue post) : Ends post.toList := by
  intro c first
  rcases ends c first with rfl | blank | rfl | quote
  · decide
  · simp [isSecret, blank]
  · decide
  · simp [isSecret, quote]

theorem SecretValue.secret {v : String} (value : SecretValue v) : ∀ c ∈ v.toList, isSecret c = true := by
  intro c there
  obtain ⟨mark, visible, double, single⟩ := value.plain c there
  simp [isSecret, mark, visible, double, single]

/-- No login starts in front of the value and ends in or behind it, and none starts in it and ends behind
it. -/
def LoginsApart (pre v post : String) : Prop :=
  ¬ Crosses pre.toList (v ++ post).toList ∧ ¬ Crosses v.toList post.toList

/-- A login starts in front of the value and ends behind it, whichever of the two stands there. -/
def LoginsAround (pre v v' post : String) : Prop :=
  ∃ before left right after, pre.toList = before ++ ':' :: '/' :: '/' :: left ∧
    post.toList = right ++ '@' :: after ∧ Login (left ++ v.toList ++ right) ∧
    Login (left ++ v'.toList ++ right)

theorem redacted_apart {pre post : String} (opens : OpensValue pre) (ends : EndsValue post) :
    ∃ shown, ∀ v, SecretValue v → LoginsApart pre v post →
      maskSecrets (maskLogins (pre ++ v ++ post).toList) = shown := by
  obtain ⟨front, mark, word, text, marks, named⟩ := opens
  obtain ⟨shown, masked⟩ := maskSecrets_value marks named (maskLogins front)
  refine ⟨shown ++ maskSecrets (maskLogins post.toList), ?_⟩
  rintro v value ⟨left_apart, right_apart⟩
  have opening : maskLogins pre.toList = maskLogins front ++ mark :: (word ++ ['=']) := by
    have unmarked : ∀ c ∈ ['@', ':'], c ∉ mark :: (word ++ ['=']) := by
      intro c frames
      have absent : c ∉ word := named.notMem (by
        simp only [List.mem_cons, List.not_mem_nil, or_false] at frames ⊢
        tauto)
      simp only [List.mem_cons, List.not_mem_nil, or_false, List.mem_append, not_or] at frames ⊢
      rcases frames with rfl | rfl <;> rcases marks with rfl | rfl <;> simp [absent]
    rw [text]
    exact maskLogins_append_of_plain front (unmarked ':' (by simp)) (unmarked '@' (by simp))
  have parts : maskLogins (pre ++ v ++ post).toList
      = maskLogins front ++ mark :: (word ++ '=' :: (maskLogins v.toList ++ maskLogins post.toList)) := by
    rw [String.append_assoc, String.toList_append, maskLogins_append_of_uncrossed left_apart,
      String.toList_append, maskLogins_append_of_uncrossed right_apart, opening]
    simp
  rw [parts]
  apply masked
  · exact maskLogins_ne_nil (by simpa using value.nonempty)
  · exact maskLogins_secret value.secret
  · exact ends.ends.maskLogins

theorem redacted_around {pre v v' post : String} (around : LoginsAround pre v v' post) :
    maskLogins (pre ++ v ++ post).toList = maskLogins (pre ++ v' ++ post).toList := by
  obtain ⟨before, left, right, after, opening, closing, login, login'⟩ := around
  have masked : ∀ {u : String}, Login (left ++ u.toList ++ right) →
      maskLogins (pre ++ u ++ post).toList
        = maskLogins before ++ ("://".toList ++ mask ++ '@' :: maskLogins after) := by
    intro u covered
    have text : (pre ++ u ++ post).toList
        = before ++ ':' :: '/' :: '/' :: (left ++ u.toList ++ right ++ '@' :: after) := by
      simp [opening, closing]
    rw [text, maskLogins_append_scheme, maskLogins_login covered]
  rw [masked login, masked login']

theorem redactText_alike {pre post v v' : String} (opens : OpensValue pre) (ends : EndsValue post)
    (value : SecretValue v) (value' : SecretValue v')
    (alike : LoginsApart pre v post ∧ LoginsApart pre v' post ∨ LoginsAround pre v v' post)
    (length : Int) :
    redactText (pre ++ v ++ post) length = redactText (pre ++ v' ++ post) length := by
  unfold redactText redact
  rcases alike with ⟨apart, apart'⟩ | around
  · obtain ⟨shown, hidden⟩ := redacted_apart opens ends
    rw [hidden v value apart, hidden v' value' apart']
  · rw [redacted_around around]

/-! ## Values that are hidden everywhere -/

/-- A value with nothing that can frame or end a login. -/
def Inert (v : String) : Prop := ∀ c ∈ v.toList, c ≠ '@' ∧ c ≠ ':' ∧ c ≠ '/'

instance (v : String) : Decidable (Inert v) := List.decidableBAll _ v.toList

theorem Inert.login {v : String} (inert : Inert v) (value : SecretValue v) :
    ∀ c ∈ v.toList, isLogin c = true := by
  intro c there
  simp [isLogin, inert c there, value.plain c there]

theorem isNameAndPassword_inside (a b : Char) (inside : List Char) :
    isNameAndPassword (a :: (inside ++ [b])) = inside.contains ':' := by
  rw [isNameAndPassword, List.dropLast_concat]

/-- Between the first and the last character of a login, only colons count. -/
theorem login_replace {left right v v' : List Char} (filled : left ≠ []) (closed : right ≠ [])
    (plain : ∀ c ∈ v', isLogin c = true) (colonless : ':' ∉ v)
    (login : Login (left ++ v ++ right)) : Login (left ++ v' ++ right) := by
  obtain ⟨a, left, rfl⟩ := List.exists_cons_of_ne_nil filled
  obtain ⟨right, b, rfl⟩ := (List.eq_nil_or_concat' right).resolve_left closed
  have divided : ∀ v, isNameAndPassword (a :: left ++ v ++ (right ++ [b]))
      = (left ++ v ++ right).contains ':' := by
    intro v
    rw [← isNameAndPassword_inside a b]
    simp
  obtain ⟨all_plain, colon⟩ := login
  constructor
  · simp only [List.forall_mem_append] at all_plain ⊢
    exact ⟨⟨all_plain.1.1, plain⟩, all_plain.2⟩
  · rw [divided] at colon ⊢
    simp only [List.contains_iff_mem, List.mem_append] at colon ⊢
    tauto

/-- A login that ends behind the start of a value without a sign in it ends behind the whole value. -/
theorem ends_behind_value {front v post login after : List Char} (signless : '@' ∉ v)
    (other : ∀ c ∈ post.head?, c ≠ '@') (text : front ++ v ++ post = login ++ '@' :: after)
    (ends : after.length < v.length + post.length) :
    ∃ right, right ≠ [] ∧ post = right ++ '@' :: after ∧ login = front ++ v ++ right := by
  rcases List.append_eq_append_iff.mp text with ⟨right, whole, closing⟩ | ⟨tail, whole, cut⟩
  · refine ⟨right, ?_, closing, whole⟩
    rintro rfl
    exact other '@' (by simp [closing]) rfl
  · exfalso
    rcases tail with _ | ⟨c, tail⟩
    · rw [List.nil_append] at cut
      exact other '@' (by simp [← cut]) rfl
    · obtain ⟨rfl, rfl⟩ := List.cons.inj cut
      have short : ('@' :: tail).length ≤ v.length := by
        simp only [List.append_eq, List.length_append, List.length_cons] at ends ⊢
        omega
      have inside : '@' :: tail <:+ v := List.suffix_of_suffix_length_le ⟨login, whole.symm⟩ ⟨front, rfl⟩ short
      exact signless (inside.subset List.mem_cons_self)

/-- A login that reaches an inert value from the left covers it, and every other inert value there. -/
theorem around_of_crosses {pre post v v' : String} (opens : OpensValue pre) (ends : EndsValue post)
    (value' : SecretValue v') (inert : Inert v) (inert' : Inert v')
    (crosses : Crosses pre.toList (v ++ post).toList) : LoginsAround pre v v' post := by
  obtain ⟨front, mark, word, opening, -, -⟩ := opens
  obtain ⟨before, login, after, text, is_login, starts, stops⟩ := crosses
  have opened : pre.toList = front ++ mark :: word ++ ['='] := by simp [opening]
  rw [opened, List.append_assoc, List.singleton_append] at text
  rw [opened, List.length_append, List.length_singleton] at starts
  obtain ⟨left, scheme, covered⟩ := scheme_in_front (by decide) (by decide) text (by omega)
  rw [String.toList_append, ← List.singleton_append, ← List.append_assoc, ← List.append_assoc] at covered
  rw [String.toList_append, List.length_append] at stops
  have other : ∀ c ∈ post.toList.head?, c ≠ '@' := by
    rintro c first rfl
    have sign : isSecret '@' = false := ends.ends '@' first
    exact absurd sign (by decide)
  obtain ⟨right, filled, closing, whole⟩ :=
    ends_behind_value (fun there => (inert '@' there).1 rfl) other covered stops
  refine ⟨before, left ++ ['='], right, after, ?_, closing, whole ▸ is_login, ?_⟩
  · rw [opened, scheme]
    simp
  · have colonless : ':' ∉ v.toList := fun there => (inert ':' there).2.1 rfl
    exact login_replace (by simp) filled (inert'.login value') colonless (whole ▸ is_login)

theorem crosses_of_around {pre v v' post : String} (around : LoginsAround pre v v' post) :
    Crosses pre.toList (v' ++ post).toList := by
  obtain ⟨before, left, right, after, opening, closing, -, login⟩ := around
  refine ⟨before, left ++ v'.toList ++ right, after, ?_, login, ?_, ?_⟩
  · simp [opening, closing]
  · rw [opening]
    simp
  · rw [String.toList_append, closing]
    simp
    omega

/-- Logins treat all inert values alike. -/
theorem inert_alike {pre post v v' : String} (opens : OpensValue pre) (ends : EndsValue post)
    (value : SecretValue v) (value' : SecretValue v') (inert : Inert v) (inert' : Inert v') :
    LoginsApart pre v post ∧ LoginsApart pre v' post ∨ LoginsAround pre v v' post := by
  by_cases crosses : Crosses pre.toList (v ++ post).toList
  · exact .inr (around_of_crosses opens ends value' inert inert' crosses)
  · have colonless : ∀ {u : String}, Inert u → ¬ Crosses u.toList post.toList := fun inert =>
      not_crosses_of_colonless (fun there => (inert ':' there).2.1 rfl) _
    have apart' : ¬ Crosses pre.toList (v' ++ post).toList := fun crosses' =>
      crosses (crosses_of_around (around_of_crosses opens ends value inert' inert crosses'))
    exact .inl ⟨⟨crosses, colonless inert⟩, ⟨apart', colonless inert'⟩⟩

/-- What stands in the place of a secret, as a text. -/
def maskText : String := String.ofList mask

theorem maskText_value : SecretValue maskText := by decide +kernel

theorem maskText_inert : Inert maskText := by decide +kernel

theorem maskSecrets_append_of_markless (front : List Char) (unasked : '?' ∉ front) (unjoined : '&' ∉ front)
    (rest : List Char) : maskSecrets (front ++ rest) = front ++ maskSecrets rest := by
  induction front with
  | nil => rfl
  | cons c front ih =>
    rw [List.mem_cons, not_or] at unasked unjoined
    have other : ¬ (c = '?' ∨ c = '&') := by
      rintro (rfl | rfl)
      · exact unasked.1 rfl
      · exact unjoined.1 rfl
    rw [List.cons_append, maskSecrets_cons_of_other fun mark => absurd mark other,
      ih unasked.2 unjoined.2, List.cons_append]

/-- The fourth character of a message that starts with a host shows whether a login was found there. -/
theorem redact_host (rest : List Char) :
    redact (':' :: '/' :: '/' :: 'h' :: rest) 4
      = if (afterLogin? ('h' :: rest)).isSome then "://<".toList else "://h".toList := by
  rw [redact, maskLogins_scheme]
  cases found : afterLogin? ('h' :: rest) with
  | none =>
    have kept : maskLogins (['/', '/', 'h'] ++ rest) = ['/', '/', 'h'] ++ maskLogins rest :=
      maskLogins_append_of_colonless (by decide) rest
    simp only [List.cons_append, List.nil_append] at kept
    have shown := maskSecrets_append_of_markless [':', '/', '/', 'h'] (by decide) (by decide)
      (maskLogins rest)
    simp only [List.cons_append, List.nil_append] at shown
    simp only [kept, shown]
    rfl
  | some after =>
    have shown := maskSecrets_append_of_markless ("://".toList ++ mask ++ ['@'])
      (by decide) (by decide) (maskLogins after)
    simp only [List.append_assoc, List.singleton_append] at shown
    simp only [List.append_assoc, shown]
    rfl

/-- A value that cannot be told from the mask, wherever it stands. -/
def Hidden (v : String) : Prop :=
  ∀ pre post : String, OpensValue pre → EndsValue post → ∀ length : Int,
    redactText (pre ++ v ++ post) length = redactText (pre ++ maskText ++ post) length

/-- A hidden value makes a login where the mask makes one. -/
theorem Hidden.login {v : String} (hidden : Hidden v) (host : List Char) (post : String)
    (ends : EndsValue post) :
    (afterLogin? ('h' :: (host ++ "?key=".toList ++ v.toList ++ post.toList))).isSome
      = (afterLogin? ('h' :: (host ++ "?key=".toList ++ maskText.toList ++ post.toList))).isSome := by
  have opens : OpensValue (String.ofList ("://h".toList ++ host ++ "?key=".toList)) :=
    ⟨"://h".toList ++ host, '?', "key".toList, by simp, .inl rfl, "key".toList, by decide, by decide⟩
  have text : ∀ u : String, (String.ofList ("://h".toList ++ host ++ "?key=".toList) ++ u ++ post).toList
      = ':' :: '/' :: '/' :: 'h' :: (host ++ "?key=".toList ++ u.toList ++ post.toList) := by
    intro u
    simp
  have told : ∀ a b : Bool, String.ofList (if a then "://<".toList else "://h".toList)
      = String.ofList (if b then "://<".toList else "://h".toList) → a = b := by decide
  have same := hidden _ post opens ends 4
  rw [redactText, redactText, text, text, redact_host, redact_host] at same
  exact told _ _ same

/-- A sign or a slash in a value ends a login that goes on behind the mask, and a sign in it ends one that
the mask does not. -/
theorem Hidden.plain {v : String} (hidden : Hidden v) : ∀ c ∈ v.toList, isLogin c = true := by
  by_contra stops
  obtain ⟨start, d, more, parts, plain, stop⟩ : ∃ start d more, v.toList = start ++ d :: more ∧
      (∀ c ∈ start, isLogin c = true) ∧ isLogin d = false := by
    have some_left : v.toList.dropWhile isLogin ≠ [] := fun all => stops (List.dropWhile_eq_nil_iff.mp all)
    obtain ⟨d, more, left⟩ := List.exists_cons_of_ne_nil some_left
    refine ⟨v.toList.takeWhile isLogin, d, more, ?_, fun c there => List.mem_takeWhile_imp there, ?_⟩
    · rw [← left, List.takeWhile_append_dropWhile]
    · simpa [left] using List.head?_dropWhile_not isLogin v.toList
  have is_login : Login ("h:1?key=".toList ++ start) := by
    constructor
    · have host : ∀ c ∈ "h:1?key=".toList, isLogin c = true := List.all_eq_true.mp (by decide +kernel)
      exact List.forall_mem_append.mpr ⟨host, plain⟩
    · simp [isNameAndPassword]
  have found : ∀ post : List Char,
      (afterLogin? ('h' :: (":1".toList ++ "?key=".toList ++ v.toList ++ post))).isSome
        = decide (d = '@') := by
    intro post
    have text : 'h' :: (":1".toList ++ "?key=".toList ++ v.toList ++ post)
        = "h:1?key=".toList ++ start ++ d :: (more ++ post) := by
      simp [parts]
    rw [text, afterLogin?_append is_login stop]
    split <;> simp_all
  have covered := hidden.login ":1".toList "&@" (by decide)
  have ended := hidden.login ":1".toList "" (by decide)
  rw [found] at covered ended
  rw [covered] at ended
  exact absurd ended (by decide +kernel)

/-- A colon in a value makes a login of what is none around the mask. -/
theorem Hidden.colonless {v : String} (hidden : Hidden v) : ':' ∉ v.toList := by
  intro colon
  have is_login : Login ("h?key=".toList ++ v.toList ++ "&p".toList) := by
    constructor
    · have host : ∀ c ∈ "h?key=".toList, isLogin c = true := List.all_eq_true.mp (by decide +kernel)
      have tail : ∀ c ∈ "&p".toList, isLogin c = true := List.all_eq_true.mp (by decide +kernel)
      exact List.forall_mem_append.mpr ⟨List.forall_mem_append.mpr ⟨host, hidden.plain⟩, tail⟩
    · have inside := isNameAndPassword_inside 'h' 'p' ("?key=".toList ++ v.toList ++ ['&'])
      simp only [List.append_assoc] at inside
      simpa [colon] using inside
  have found := hidden.login [] "&p@" (by decide)
  have text : 'h' :: ([] ++ "?key=".toList ++ v.toList ++ "&p@".toList)
      = "h?key=".toList ++ v.toList ++ "&p".toList ++ '@' :: [] := by simp
  rw [text, afterLogin?_append is_login (by simp [isLogin])] at found
  exact absurd found (by decide +kernel)

theorem inert_of_hidden {v : String} (hidden : Hidden v) : Inert v := by
  intro c there
  have plain := hidden.plain c there
  refine ⟨?_, ?_, ?_⟩
  · rintro rfl
    simp [isLogin] at plain
  · rintro rfl
    exact hidden.colonless there
  · rintro rfl
    simp [isLogin] at plain

/-- Values that logins treat alike are not told apart by what is shown, whatever surrounds them and whatever
a message is cut to. A value that is hidden everywhere is one without a character of a login's frame. -/
theorem secret_not_shown {v : String} (value : SecretValue v) :
    (∀ pre post v' : String, OpensValue pre → EndsValue post → SecretValue v' →
      (LoginsApart pre v post ∧ LoginsApart pre v' post ∨ LoginsAround pre v v' post) →
        ∀ length : Int, redactText (pre ++ v ++ post) length = redactText (pre ++ v' ++ post) length) ∧
    (Hidden v ↔ Inert v) := by
  constructor
  · intro pre post v' opens ends value' alike length
    exact redactText_alike opens ends value value' alike length
  · constructor
    · exact inert_of_hidden
    · intro inert pre post opens ends length
      have alike := inert_alike opens ends value maskText_value inert maskText_inert
      exact redactText_alike opens ends value maskText_value alike length

/-- Behind a slash, which ends the authority, a value may hold a sign and a slash of its own. -/
theorem path_secret_not_shown :
    redactText "a://h:1/?Api_Key=b@c/d&e:f@g" 500 = redactText "a://h:1/?Api_Key=x&e:f@g" 500 := by
  have opens : OpensValue "a://h:1/?Api_Key=" :=
    ⟨"a://h:1/".toList, '?', "Api_Key".toList, by simp, .inl rfl, "api_key".toList, by decide, by decide⟩
  have uncrossed : ∀ rest : List Char, ¬ Crosses "a://h:1/?Api_Key=".toList rest :=
    not_crosses_of_path "a://h:".toList (d := '1') (by decide) (by decide) "?Api_Key=".toList (by decide)
  have apart : ∀ v : String, ':' ∉ v.toList → LoginsApart "a://h:1/?Api_Key=" v "&e:f@g" :=
    fun v colonless => ⟨uncrossed _, not_crosses_of_colonless colonless _⟩
  have value : SecretValue "b@c/d" := by decide
  exact (secret_not_shown value).1 "a://h:1/?Api_Key=" "&e:f@g" "x" opens (by decide) (by decide)
    (.inl ⟨apart _ (by decide), apart _ (by decide)⟩) 500

/-- A port makes a login of a host, a parameter and the part of its value in front of a sign, and the rest
of the value is shown. -/
theorem port_secret_shown :
    OpensValue "http://h:1?token=" ∧ EndsValue "" ∧ SecretValue "a@b" ∧ SecretValue "c" ∧
      redactText "http://h:1?token=a@b" defaultLength = "http://<REDACTED>@b" ∧
      redactText "http://h:1?token=c" defaultLength = "http://h:1?token=<REDACTED>" := by
  refine ⟨⟨"http://h:1".toList, '?', "token".toList, by simp, .inl rfl, "token".toList, by decide, by decide⟩,
    by decide, by decide, by decide, by decide +kernel, by decide +kernel⟩

end StyleBuild.Redact
