import Mathlib.Data.List.DropRight
import ResourceCatalog.Database.Url

/-!
# Masked addresses

The password of a login stands between the first `:` behind the scheme and the last `@`. A masked address is the same
for all passwords there, and masking it again changes nothing. What stands behind the last `@` is never masked, and
that is where an address has its password if it has no login.
-/

namespace ResourceCatalog.Database

/-! ## Splitting -/

section Splitting

variable {mark : Char} {s before behind : List Char}

theorem splitAtFirst?_eq_none (h : mark ∉ s) : splitAtFirst? mark s = none := by
  induction s with
  | nil => rfl
  | cons c s ih =>
    obtain ⟨hc, hs⟩ := not_or.1 fun h' => h (List.mem_cons.2 h')
    rw [splitAtFirst?, if_neg (Ne.symm hc), ih hs]
    rfl

theorem splitAtFirst?_append (h : mark ∉ before) (rest : List Char) :
    splitAtFirst? mark (before ++ mark :: rest) = some (before, mark :: rest) := by
  induction before with
  | nil => rw [List.nil_append, splitAtFirst?, if_pos rfl]
  | cons c before ih =>
    obtain ⟨hc, hbefore⟩ := not_or.1 fun h' => h (List.mem_cons.2 h')
    rw [List.cons_append, splitAtFirst?, if_neg (Ne.symm hc), ih hbefore]
    rfl

theorem splitAtFirst?_eq_some_iff : splitAtFirst? mark s = some (before, behind) ↔
    ∃ rest, behind = mark :: rest ∧ s = before ++ mark :: rest ∧ mark ∉ before := by
  constructor
  · intro h
    have hmem : mark ∈ s := by
      by_contra hnot
      rw [splitAtFirst?_eq_none hnot] at h
      cases h
    obtain ⟨front, rest, rfl, hfront⟩ := List.eq_append_cons_of_mem hmem
    rw [splitAtFirst?_append hfront] at h
    cases h
    exact ⟨rest, rfl, rfl, hfront⟩
  · rintro ⟨rest, rfl, rfl, hbefore⟩
    exact splitAtFirst?_append hbefore rest

theorem splitAtLast?_eq_none (h : mark ∉ s) : splitAtLast? mark s = none := by
  induction s with
  | nil => rfl
  | cons c s ih =>
    obtain ⟨hc, hs⟩ := not_or.1 fun h' => h (List.mem_cons.2 h')
    rw [splitAtLast?, ih hs]
    exact if_neg (Ne.symm hc)

theorem splitAtLast?_append (before : List Char) {rest : List Char} (h : mark ∉ rest) :
    splitAtLast? mark (before ++ mark :: rest) = some (before, mark :: rest) := by
  induction before with
  | nil => rw [List.nil_append, splitAtLast?, splitAtLast?_eq_none h, if_pos rfl]
  | cons c before ih => rw [List.cons_append, splitAtLast?, ih]

theorem splitAtLast?_append_of_notMem (s : List Char) {tail : List Char} (h : mark ∉ tail) :
    splitAtLast? mark (s ++ tail) = (splitAtLast? mark s).map fun (before, behind) => (before, behind ++ tail) := by
  induction s with
  | nil => exact splitAtLast?_eq_none h
  | cons c s ih =>
    rw [List.cons_append, splitAtLast?, splitAtLast?, ih]
    cases splitAtLast? mark s with
    | some parts => rfl
    | none =>
      show (if c = mark then _ else none) = (if c = mark then _ else none : Option _).map _
      by_cases hc : c = mark
      · rw [if_pos hc, if_pos hc]
        rfl
      · rw [if_neg hc, if_neg hc]
        rfl

/-- Behind the last mark of a text there is what can be taken from its end without a mark. -/
theorem exists_append_rtakeWhile (h : mark ∈ s) : ∃ front, s = front ++ mark :: s.rtakeWhile (· ≠ mark) := by
  induction s using List.reverseRecOn with
  | nil => cases h
  | append_singleton s c ih =>
    by_cases hc : c = mark
    · refine ⟨s, ?_⟩
      rw [List.rtakeWhile_concat_neg _ _ _ (by simpa using hc), hc]
    · have hs : mark ∈ s := by
        rcases List.mem_append.1 h with hs | hlast
        · exact hs
        · exact absurd (List.mem_singleton.1 hlast).symm hc
      obtain ⟨front, hfront⟩ := ih hs
      refine ⟨front, ?_⟩
      rw [List.rtakeWhile_concat_pos _ _ _ (by simpa using hc)]
      conv_lhs => rw [hfront]
      rw [List.append_assoc, List.cons_append]

theorem notMem_rtakeWhile : mark ∉ s.rtakeWhile (· ≠ mark) := by
  intro h
  have hne := List.mem_rtakeWhile_imp h
  exact absurd rfl (of_decide_eq_true hne)

theorem splitAtLast?_eq_some_iff : splitAtLast? mark s = some (before, behind) ↔
    ∃ rest, behind = mark :: rest ∧ s = before ++ mark :: rest ∧ mark ∉ rest := by
  constructor
  · intro h
    have hmem : mark ∈ s := by
      by_contra hnot
      rw [splitAtLast?_eq_none hnot] at h
      cases h
    obtain ⟨front, hs⟩ := exists_append_rtakeWhile hmem
    rw [hs, splitAtLast?_append front notMem_rtakeWhile] at h
    cases h
    exact ⟨_, rfl, hs, notMem_rtakeWhile⟩
  · rintro ⟨rest, rfl, rfl, hrest⟩
    exact splitAtLast?_append before hrest

end Splitting

/-! ## Schemes -/

theorem splitScheme?_append_of_notMem {before : List Char} (h : ':' ∉ before) (rest : List Char) :
    splitScheme? (before ++ rest) = (splitScheme? rest).map fun (scheme, tail) => (before ++ scheme, tail) := by
  induction before with
  | nil =>
    rw [List.nil_append]
    cases splitScheme? rest <;> rfl
  | cons c before ih =>
    obtain ⟨hc, hbefore⟩ := not_or.1 fun h' => h (List.mem_cons.2 h')
    rw [List.cons_append, splitScheme?, ih hbefore, Option.map_map]
    · rfl
    · rintro tail rfl
      exact absurd rfl hc

theorem splitScheme?_eq_none_of_append (before : List Char) {rest : List Char}
    (h : splitScheme? (before ++ rest) = none) : splitScheme? rest = none := by
  induction before with
  | nil => exact h
  | cons c before ih =>
    rw [List.cons_append] at h
    unfold splitScheme? at h
    split at h
    · cases h
    · rename_i heq
      obtain ⟨rfl, rfl⟩ := List.cons.inj heq
      exact ih (Option.map_eq_none_iff.1 h)
    · rename_i heq
      cases heq

/-- The scheme ends where it ends, whatever stands behind it. -/
theorem splitScheme?_replaced {url scheme tail : List Char} (h : splitScheme? url = some (scheme, tail)) :
    url = scheme ++ tail ∧ 2 ≤ scheme.length ∧ ∀ other, splitScheme? (scheme ++ other) = some (scheme, other) := by
  fun_induction splitScheme? url generalizing scheme with
  | case1 rest =>
    cases h
    exact ⟨rfl, by decide, fun other => rfl⟩
  | case2 c rest hno ih =>
    obtain ⟨⟨scheme', tail'⟩, hrest, ⟨⟩⟩ := Option.map_eq_some_iff.1 h
    obtain ⟨rfl, hlength, hother⟩ := ih hrest
    refine ⟨rfl, by rw [List.length_cons]; omega, fun other => ?_⟩
    rw [List.cons_append, splitScheme?, hother]
    · rfl
    · -- An end of the scheme here would be one in the text that was split as well.
      intro behind hc heq
      match scheme', hlength, heq with
      | a :: b :: more, _, heq =>
        cases heq
        exact hno _ hc rfl
  | case3 => cases h

/-! ## Logins -/

/-- A text that starts with a user, a password and an `@`. -/
def login (user password rest : List Char) : List Char := user ++ ':' :: password ++ '@' :: rest

variable {user host rest url tail : List Char}

theorem maskedUser?_login (huser : ':' ∉ user) (password : List Char) (hhost : '@' ∉ host) :
    maskedUser? (login user password host) = some (login user "****".toList host) := by
  rw [maskedUser?, login, splitAtLast?_append _ hhost]
  show (splitAtFirst? ':' (user ++ ':' :: password)).bind _ = _
  rw [splitAtFirst?_append huser]
  rfl

theorem eq_login_of_maskedUser? {out : List Char} (h : maskedUser? rest = some out) :
    ∃ user password host, rest = login user password host ∧ ':' ∉ user ∧ '@' ∉ host := by
  unfold maskedUser? at h
  obtain ⟨⟨before, behind⟩, hlast, h⟩ := Option.bind_eq_some_iff.1 h
  obtain ⟨⟨user, behindUser⟩, hfirst, -⟩ := Option.bind_eq_some_iff.1 h
  obtain ⟨host, rfl, rfl, hhost⟩ := splitAtLast?_eq_some_iff.1 hlast
  obtain ⟨password, rfl, rfl, huser⟩ := splitAtFirst?_eq_some_iff.1 hfirst
  exact ⟨user, password, host, rfl, huser, hhost⟩

/-- Of a rest that has an `@` of its own, all before its last one counts as password. -/
theorem exists_login_rtakeWhile (user password rest : List Char) :
    ∃ more, login user password rest = login user more (rest.rtakeWhile (· ≠ '@')) := by
  by_cases hat : '@' ∈ rest
  · obtain ⟨front, hfront⟩ := exists_append_rtakeWhile hat
    refine ⟨password ++ '@' :: front, ?_⟩
    conv_lhs => rw [login, hfront]
    simp only [login, List.append_assoc, List.cons_append]
  · have hself : rest.rtakeWhile (· ≠ '@') = rest := by
      rw [List.rtakeWhile_eq_self_iff]
      intro c hc
      exact decide_eq_true fun h => hat (h ▸ hc)
    exact ⟨password, by rw [hself]⟩

/-! ## Addresses -/

/-- The scheme of an address and what stands behind it. An address without a scheme is all rest. -/
def schemeAndRest (url : List Char) : List Char × List Char := (splitScheme? url).getD ([], url)

theorem masked_eq (url : List Char) : masked url =
    ((maskedUser? (schemeAndRest url).2).map ((schemeAndRest url).1 ++ ·)).getD url := rfl

/-- A mask in place of a password makes no scheme and leaves the scheme that there is. -/
theorem schemeAndRest_login {scheme password : List Char} (huser : ':' ∉ user)
    (h : schemeAndRest url = (scheme, login user password host)) :
    schemeAndRest (scheme ++ login user "****".toList host) = (scheme, login user "****".toList host) := by
  unfold schemeAndRest at h ⊢
  cases hscheme : splitScheme? url with
  | some parts =>
    rw [hscheme] at h
    cases h
    rw [(splitScheme?_replaced hscheme).2.2]
    rfl
  | none =>
    rw [hscheme] at h
    cases h
    have hhost : splitScheme? host = none := by
      apply splitScheme?_eq_none_of_append (user ++ ':' :: password ++ ['@'])
      rw [← hscheme, login, List.append_assoc _ ['@'] host]
      rfl
    have hmask : splitScheme? (':' :: "****".toList ++ '@' :: host) = none := by
      simp [splitScheme?, hhost]
    rw [List.nil_append, login, List.append_assoc, splitScheme?_append_of_notMem huser, hmask]
    rfl

theorem masked_masked (url : List Char) : masked (masked url) = masked url := by
  rcases hparts : schemeAndRest url with ⟨scheme, rest⟩
  have hmasked := masked_eq url
  rw [hparts] at hmasked
  cases hrest : maskedUser? rest with
  | none =>
    rw [hrest] at hmasked
    have hself : masked url = url := hmasked
    rw [hself, hself]
  | some out =>
    obtain ⟨user, password, host, rfl, huser, hhost⟩ := eq_login_of_maskedUser? hrest
    rw [maskedUser?_login huser password hhost] at hmasked
    have hlogin : masked url = scheme ++ login user "****".toList host := hmasked
    rw [hlogin, masked_eq, schemeAndRest_login huser hparts, maskedUser?_login huser _ hhost]
    rfl

/-! ## Addresses with a login -/

/-- An address with a user and a password before the rest, which names host and database. -/
def loginUrl (scheme user password rest : List Char) : List Char :=
  scheme ++ "://".toList ++ login user password rest

theorem splitScheme?_mark {scheme : List Char} (h : ':' ∉ scheme) (rest : List Char) :
    splitScheme? (scheme ++ "://".toList ++ rest) = some (scheme ++ "://".toList, rest) := by
  rw [List.append_assoc, splitScheme?_append_of_notMem h]
  rfl

theorem masked_loginUrl {scheme : List Char} (hscheme : ':' ∉ scheme) (huser : ':' ∉ user) (password rest : List Char) :
    masked (loginUrl scheme user password rest) =
      loginUrl scheme user "****".toList (rest.rtakeWhile (· ≠ '@')) := by
  obtain ⟨more, hmore⟩ := exists_login_rtakeWhile user password rest
  have hparts : schemeAndRest (loginUrl scheme user password rest) =
      (scheme ++ "://".toList, login user more (rest.rtakeWhile (· ≠ '@'))) := by
    rw [schemeAndRest, loginUrl, splitScheme?_mark hscheme, hmore]
    rfl
  rw [masked_eq, hparts, maskedUser?_login huser more notMem_rtakeWhile]
  rfl

/-- A masked address has four stars for the password and for all that stands behind it up to the last `@`. So it is
the same for all passwords, and to mask it again changes nothing. -/
theorem masked_hides_login {scheme user : List Char} (hscheme : ':' ∉ scheme) (huser : ':' ∉ user) :
    (∀ password rest, masked (loginUrl scheme user password rest) =
      loginUrl scheme user "****".toList (rest.rtakeWhile (· ≠ '@'))) ∧
    (∀ password password' rest, masked (loginUrl scheme user password rest) =
      masked (loginUrl scheme user password' rest)) ∧
    ∀ url, masked (masked url) = masked url := by
  refine ⟨masked_loginUrl hscheme huser, fun password password' rest => ?_, masked_masked⟩
  rw [masked_loginUrl hscheme huser, masked_loginUrl hscheme huser]

def sampleLoginUrl (password rest : String) : List Char :=
  loginUrl "postgres".toList "üser".toList password.toList rest.toList

-- Password and rest have all the marks in them that an address is split at.
theorem masked_hides_login_sample :
    ':' ∉ "postgres".toList ∧ ':' ∉ "üser".toList ∧
      masked (sampleLoginUrl "p@s://ß:/w" "h:5432/d?x=a@b") = sampleLoginUrl "****" "b" ∧
      masked (sampleLoginUrl "q" "h:5432/d?x=a@b") = sampleLoginUrl "****" "b" ∧
      masked (sampleLoginUrl "****" "b") = sampleLoginUrl "****" "b" := by
  have hscheme : ':' ∉ "postgres".toList := by decide
  have huser : ':' ∉ "üser".toList := by decide
  obtain ⟨hmasked, hsame, hagain⟩ := masked_hides_login hscheme huser
  have hfirst : masked (sampleLoginUrl "p@s://ß:/w" "h:5432/d?x=a@b") = sampleLoginUrl "****" "b" :=
    hmasked "p@s://ß:/w".toList "h:5432/d?x=a@b".toList
  have hother : masked (sampleLoginUrl "q" "h:5432/d?x=a@b") = sampleLoginUrl "****" "b" :=
    (hsame _ _ _).trans hfirst
  exact ⟨hscheme, huser, hfirst, hother, hother ▸ hagain _⟩

/-! ## Addresses with a query -/

theorem maskedUser?_append (rest : List Char) (htail : '@' ∉ tail) :
    maskedUser? (rest ++ tail) = (maskedUser? rest).map (· ++ tail) := by
  rw [maskedUser?, maskedUser?, splitAtLast?_append_of_notMem rest htail]
  cases splitAtLast? '@' rest with
  | none => rfl
  | some parts =>
    obtain ⟨before, behind⟩ := parts
    show (splitAtFirst? ':' before).bind _ = ((splitAtFirst? ':' before).bind _).map _
    cases splitAtFirst? ':' before with
    | none => rfl
    | some parts => exact congrArg some (List.append_assoc _ behind tail).symm

/-- Behind an address with a scheme, what has no `@` is masked in no way. -/
theorem masked_append (hscheme : splitScheme? url ≠ none) (htail : '@' ∉ tail) :
    masked (url ++ tail) = masked url ++ tail := by
  obtain ⟨⟨scheme, rest⟩, hparts⟩ := Option.ne_none_iff_exists'.1 hscheme
  obtain ⟨rfl, -, hother⟩ := splitScheme?_replaced hparts
  have hlonger : schemeAndRest (scheme ++ rest ++ tail) = (scheme, rest ++ tail) := by
    rw [schemeAndRest, List.append_assoc, hother]
    rfl
  have hshorter : schemeAndRest (scheme ++ rest) = (scheme, rest) := by
    rw [schemeAndRest, hparts]
    rfl
  rw [masked_eq, masked_eq, hlonger, hshorter, maskedUser?_append rest htail]
  cases maskedUser? rest with
  | none => rfl
  | some out => exact (List.append_assoc scheme out tail).symm

/-- An address whose user and password are parameters of its query. -/
def queryUrl (scheme host path user password : List Char) : List Char :=
  scheme ++ "://".toList ++ host ++ '/' :: path ++ "?user=".toList ++ user ++ "&password=".toList ++ password

theorem masked_queryUrl (scheme host path user : List Char) :
    ∃ front, ∀ password, '@' ∉ password → masked (queryUrl scheme host path user password) = front ++ password := by
  let url := scheme ++ ("://".toList ++ (host ++ '/' :: path ++ "?user=".toList ++ user ++ "&password=".toList))
  have hscheme : splitScheme? url ≠ none := by
    intro h
    cases splitScheme?_eq_none_of_append scheme h
  refine ⟨masked url, fun password h => ?_⟩
  rw [← masked_append hscheme h]
  simp only [queryUrl, url, List.append_assoc]

/-- The password of a query stands in the masked address as it is in the address. So the masked addresses of two
passwords are the same just if the passwords are. -/
theorem masked_queryUrl_iff (scheme host path user : List Char) {password password' : List Char}
    (h : '@' ∉ password) (h' : '@' ∉ password') :
    password <:+ masked (queryUrl scheme host path user password) ∧
    (masked (queryUrl scheme host path user password) = masked (queryUrl scheme host path user password') ↔
      password = password') := by
  obtain ⟨front, hfront⟩ := masked_queryUrl scheme host path user
  rw [hfront password h, hfront password' h']
  exact ⟨List.suffix_append front password, List.append_cancel_left_eq front password password' ▸ Iff.rfl⟩

def sampleQueryUrl (password : String) : List Char :=
  queryUrl "postgres".toList "127.0.0.1".toList "resdao".toList "resdao".toList password.toList

theorem masked_queryUrl_iff_sample :
    '@' ∉ "secret".toList ∧ '@' ∉ "tréso/r:".toList ∧
      "secret".toList <:+ masked (sampleQueryUrl "secret") ∧
      masked (sampleQueryUrl "secret") ≠ masked (sampleQueryUrl "tréso/r:") := by
  have h : '@' ∉ "secret".toList := by decide
  have h' : '@' ∉ "tréso/r:".toList := by decide
  obtain ⟨hshown, hiff⟩ := masked_queryUrl_iff "postgres".toList "127.0.0.1".toList "resdao".toList "resdao".toList h h'
  exact ⟨h, h', hshown, mt hiff.1 (by decide)⟩

/-- Two passwords of a query are told apart by the masked addresses, though nothing else in these has a `:` or an
`@`. -/
theorem query_password_not_hidden :
    ¬∀ scheme host path user password password' : List Char,
      (∀ c ∈ scheme ++ host ++ path ++ user, c ≠ ':' ∧ c ≠ '@') →
      (∀ c ∈ password ++ password', c ≠ '@' ∧ c ≠ '&' ∧ c ≠ '#') →
      masked (queryUrl scheme host path user password) = masked (queryUrl scheme host path user password') := by
  intro hidden
  have hplain : ("postgres".toList ++ "127.0.0.1".toList ++ "resdao".toList ++ "resdao".toList).all
      (fun c => c ≠ ':' ∧ c ≠ '@') = true := by decide
  have hpassword : ("secret".toList ++ "hunter2".toList).all (fun c => c ≠ '@' ∧ c ≠ '&' ∧ c ≠ '#') = true := by
    decide
  have heq := hidden "postgres".toList "127.0.0.1".toList "resdao".toList "resdao".toList "secret".toList
    "hunter2".toList (fun c hc => of_decide_eq_true (List.all_eq_true.1 hplain c hc))
    (fun c hc => of_decide_eq_true (List.all_eq_true.1 hpassword c hc))
  exact absurd heq (by decide)

end ResourceCatalog.Database
