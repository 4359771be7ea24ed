import StyleBuild.Telemetry.Redact

/-!
# What redaction hides

Logins are masked from left to right, and a login found early could swallow the start of a later one or
keep the scan from seeing it. It cannot: no login reaches across `://`, so a text is masked apart in front
of every `://`. What a redacted message shows is then what it would show with the mask in the login's place.
-/

set_option autoImplicit false

namespace StyleBuild.Redact

/-! ## Logins -/

theorem afterLogin?_eq (cs : List Char) :
    afterLogin? cs
      = if (cs.dropWhile isLogin).head? = some '@' ∧ isNameAndPassword (cs.takeWhile isLogin) = true then
          some (cs.dropWhile isLogin).tail
        else none := by
  unfold afterLogin?
  split
  · next rest dropped => simp [dropped]
  · next other =>
    rw [if_neg]
    rintro ⟨sign, -⟩
    obtain ⟨rest, dropped⟩ := List.head?_eq_some_iff.mp sign
    exact other rest dropped

/-- The slash in `://` ends a login that has not met its `@` before. -/
theorem afterLogin?_append_scheme (front rest : List Char) :
    afterLogin? (front ++ ':' :: '/' :: rest)
      = (afterLogin? front).map (· ++ ':' :: '/' :: rest) := by
  have colon : isLogin ':' = true := by decide +kernel
  have slash : isLogin '/' = false := by simp [isLogin]
  rw [afterLogin?_eq, afterLogin?_eq, List.dropWhile_append, List.takeWhile_append]
  cases dropped : front.dropWhile isLogin with
  | nil => simp [colon, slash]
  | cons d more =>
    have shorter : (front.takeWhile isLogin).length ≠ front.length := by
      intro whole
      have parts := congrArg List.length (List.takeWhile_append_dropWhile (p := isLogin) (l := front))
      rw [dropped, List.length_append, List.length_cons] at parts
      omega
    rw [if_neg shorter]
    simp [apply_ite]

theorem afterLogin?_of_login {name password : List Char} (named : name ≠ [])
    (secured : password ≠ []) (names : ∀ c ∈ name, isLogin c = true)
    (passwords : ∀ c ∈ password, isLogin c = true) (rest : List Char) :
    afterLogin? (name ++ ':' :: password ++ '@' :: rest) = some rest := by
  have login : ∀ c ∈ name ++ ':' :: password, isLogin c = true := by
    intro c there
    rcases List.mem_append.mp there with there | there
    · exact names c there
    · rcases List.mem_cons.mp there with rfl | there
      · decide
      · exact passwords c there
  have sign : isLogin '@' = false := by simp [isLogin]
  have taken : (name ++ ':' :: password ++ '@' :: rest).takeWhile isLogin = name ++ ':' :: password := by
    rw [List.takeWhile_append_of_pos login, List.takeWhile_cons_of_neg (by simp [sign]), List.append_nil]
  have dropped : (name ++ ':' :: password ++ '@' :: rest).dropWhile isLogin = '@' :: rest := by
    rw [List.dropWhile_append_of_pos login, List.dropWhile_cons_of_neg (by simp [sign])]
  have whole : isNameAndPassword (name ++ ':' :: password) = true := by
    obtain ⟨n, name, rfl⟩ := List.exists_cons_of_ne_nil named
    simp [isNameAndPassword, List.dropLast_append_of_ne_nil, List.dropLast_cons_of_ne_nil secured]
  rw [afterLogin?_eq, taken, dropped]
  simp [whole]

/-! ## Masking piece by piece -/

theorem isPrefixOf_append_scheme (c : Char) (front rest : List Char) :
    "://".toList.isPrefixOf (c :: front ++ ':' :: '/' :: '/' :: rest)
      = "://".toList.isPrefixOf (c :: front) := by
  have text : "://".toList = [':', '/', '/'] := rfl
  rw [text]
  rcases front with _ | ⟨d, _ | ⟨e, more⟩⟩
  · simp [List.isPrefixOf]
  · simp [List.isPrefixOf]
  · simp [List.isPrefixOf]

theorem maskLogins_cons_of_other {c : Char} {rest : List Char}
    (other : "://".toList.isPrefixOf (c :: rest) = false) :
    maskLogins (c :: rest) = c :: maskLogins rest := by
  rw [maskLogins, if_neg (ne_true_of_eq_false other)]

theorem maskLogins_scheme (rest : List Char) :
    maskLogins (':' :: '/' :: '/' :: rest)
      = match afterLogin? rest with
        | some after => "://".toList ++ mask ++ '@' :: maskLogins after
        | none => ':' :: maskLogins ('/' :: '/' :: rest) := by
  have starts : "://".toList.isPrefixOf (':' :: '/' :: '/' :: rest) = true := by
    have text : "://".toList = [':', '/', '/'] := rfl
    simp [text]
  rw [maskLogins, if_pos starts]
  have past : List.drop 2 ('/' :: '/' :: rest) = rest := rfl
  split
  · next after found =>
    rw [past] at found
    rw [found]
  · next missed =>
    rw [past] at missed
    rw [missed]

/-- What stands in front of `://` is masked as it would be alone. -/
theorem maskLogins_append_scheme (front rest : List Char) :
    maskLogins (front ++ ':' :: '/' :: '/' :: rest)
      = maskLogins front ++ maskLogins (':' :: '/' :: '/' :: rest) := by
  have shape : ∀ {c : Char} {front : List Char}, "://".toList.isPrefixOf (c :: front) = true →
      c = ':' ∧ front = '/' :: '/' :: front.drop 2 := by
    intro c front starts
    obtain ⟨more, same⟩ := List.isPrefixOf_iff_prefix.mp starts
    obtain ⟨rfl, rfl⟩ := List.cons.inj same
    exact ⟨rfl, rfl⟩
  fun_induction maskLogins front with
  | case1 => rfl
  | case2 c front starts after found ih =>
    obtain ⟨rfl, urls⟩ := shape starts
    generalize front.drop 2 = more at urls found
    subst urls
    have reached := afterLogin?_append_scheme more ('/' :: rest)
    rw [found, Option.map_some] at reached
    simp only [List.cons_append] at reached ⊢
    rw [maskLogins_scheme, reached]
    simp only [ih, List.cons_append, List.append_assoc]
  | case3 c front starts missed ih =>
    obtain ⟨rfl, urls⟩ := shape starts
    generalize front.drop 2 = more at urls missed
    subst urls
    have missed_again := afterLogin?_append_scheme more ('/' :: rest)
    rw [missed, Option.map_none] at missed_again
    simp only [List.cons_append] at missed_again ih ⊢
    rw [maskLogins_scheme, missed_again]
    simp only [ih]
  | case4 c front other ih =>
    have still := isPrefixOf_append_scheme c front rest
    rw [Bool.eq_false_iff.mpr other] at still
    rw [List.cons_append] at still ⊢
    rw [maskLogins_cons_of_other still, ih, List.cons_append]

theorem maskLogins_append_of_colonless {front : List Char} (colonless : ':' ∉ front) (rest : List Char) :
    maskLogins (front ++ rest) = front ++ maskLogins rest := by
  induction front with
  | nil => rfl
  | cons c front ih =>
    rw [List.mem_cons, not_or] at colonless
    have other : "://".toList.isPrefixOf (c :: (front ++ rest)) = false := by
      have text : "://".toList = [':', '/', '/'] := rfl
      rw [text, List.isPrefixOf, beq_false_of_ne colonless.1, Bool.false_and]
    rw [List.cons_append, maskLogins_cons_of_other other, ih colonless.2, List.cons_append]

/-- A mask is no login, so it stays as it is. -/
theorem maskLogins_mask (rest : List Char) :
    maskLogins (':' :: '/' :: '/' :: (mask ++ '@' :: rest))
      = "://".toList ++ mask ++ '@' :: maskLogins rest := by
  have login : ∀ c ∈ mask, isLogin c = true := List.all_eq_true.mp (by decide)
  have sign : isLogin '@' = false := by simp [isLogin]
  have taken : (mask ++ '@' :: rest).takeWhile isLogin = mask := by
    rw [List.takeWhile_append_of_pos login, List.takeWhile_cons_of_neg (by simp [sign]), List.append_nil]
  have unnamed : isNameAndPassword mask = false := by decide
  have missed : afterLogin? (mask ++ '@' :: rest) = none := by
    rw [afterLogin?_eq, taken, if_neg (by simp [unnamed])]
  have colonless : ':' ∉ '/' :: '/' :: (mask ++ ['@']) := by decide
  have onward := maskLogins_append_of_colonless colonless rest
  simp only [List.cons_append, List.append_assoc, List.nil_append] at onward
  rw [maskLogins_scheme, missed]
  simp only [onward]
  rfl

/-! ## What is shown -/

/-- A user name or password that can stand in a URL. -/
structure Credential (s : String) : Prop where
  nonempty : s ≠ ""
  plain : ∀ c ∈ s.toList, c ≠ '@' ∧ c ≠ '/' ∧ Text.isBlank c = false

theorem Credential.login {s : String} (credential : Credential s) : ∀ c ∈ s.toList, isLogin c = true := by
  intro c there
  obtain ⟨sign, slash, visible⟩ := credential.plain c there
  simp [isLogin, sign, slash, visible]

theorem credential_iff (s : String) : Credential s ↔ s ≠ "" ∧ s.toList.all isLogin = true := by
  constructor
  · intro credential
    exact ⟨credential.nonempty, List.all_eq_true.mpr credential.login⟩
  · rintro ⟨nonempty, logins⟩
    refine ⟨nonempty, fun c there => ?_⟩
    simpa [isLogin, and_assoc] using List.all_eq_true.mp logins c there

instance (s : String) : Decidable (Credential s) := decidable_of_iff _ (credential_iff s).symm

variable {name password name' password' : String}

/-- A message with a login shows what it would show with the mask in its place. -/
theorem redactText_login (named : Credential name) (secured : Credential password) (pre post : String)
    (length : Int) :
    redactText (pre ++ "://" ++ name ++ ":" ++ password ++ "@" ++ post) length
      = redactText (pre ++ "://" ++ String.ofList mask ++ "@" ++ post) length := by
  have found : afterLogin? (name.toList ++ ':' :: password.toList ++ '@' :: post.toList) = some post.toList := by
    apply afterLogin?_of_login
    · simpa using named.nonempty
    · simpa using secured.nonempty
    · exact named.login
    · exact secured.login
  have masked := maskLogins_append_scheme pre.toList (name.toList ++ ':' :: password.toList ++ '@' :: post.toList)
  have kept := maskLogins_append_scheme pre.toList (mask ++ '@' :: post.toList)
  rw [maskLogins_scheme, found] at masked
  rw [maskLogins_mask] at kept
  have text : (pre ++ "://" ++ name ++ ":" ++ password ++ "@" ++ post).toList
      = pre.toList ++ ':' :: '/' :: '/' :: (name.toList ++ ':' :: password.toList ++ '@' :: post.toList) := by
    simp
  have text' : (pre ++ "://" ++ String.ofList mask ++ "@" ++ post).toList
      = pre.toList ++ ':' :: '/' :: '/' :: (mask ++ '@' :: post.toList) := by
    simp
  rw [redactText, redactText, redact, redact, text, text', masked, kept]

/-- Whatever stands around a URL and whatever a message is cut to, nothing of what is shown depends on the
user name and the password in it. -/
theorem login_not_shown (named : Credential name) (secured : Credential password)
    (named' : Credential name') (secured' : Credential password') (pre post : String) (length : Int) :
    redactText (pre ++ "://" ++ name ++ ":" ++ password ++ "@" ++ post) length
      = redactText (pre ++ "://" ++ name' ++ ":" ++ password' ++ "@" ++ post) length := by
  rw [redactText_login named secured, redactText_login named' secured']

/-- The URL follows on one without a login, and colons are part of its password. -/
theorem colons_not_shown :
    redactText "://u:p://a:b:c@h ://x:y@z" 500 = redactText "://u:p://::é:@h ://x:y@z" 500 := by
  exact login_not_shown (by decide : Credential "a") (by decide : Credential "b:c")
    (by decide : Credential ":") (by decide : Credential "é:") "://u:p" "h ://x:y@z" 500

end StyleBuild.Redact
