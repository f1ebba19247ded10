/-!
# Addresses of databases

An address names a user and a password between its scheme and an `@`. Before it is written to a log the
password is hidden.
-/

namespace ResourceCatalog.Database

/-- Splits behind the first `://`. -/
def splitScheme? : List Char → Option (List Char × List Char)
  | ':' :: '/' :: '/' :: rest => some ([':', '/', '/'], rest)
  | c :: rest => (splitScheme? rest).map fun (scheme, tail) => (c :: scheme, tail)
  | [] => none

/-- Splits before the last `mark`. -/
def splitAtLast? (mark : Char) : List Char → Option (List Char × List Char)
  | [] => none
  | c :: rest =>
    match splitAtLast? mark rest with
    | some (before, tail) => some (c :: before, tail)
    | none => if c = mark then some ([], c :: rest) else none

/-- Splits before the first `mark`. -/
def splitAtFirst? (mark : Char) : List Char → Option (List Char × List Char)
  | [] => none
  | c :: rest =>
    if c = mark then some ([], c :: rest)
    else (splitAtFirst? mark rest).map fun (before, tail) => (c :: before, tail)

/-- What is written in place of a password. -/
def passwordMark : List Char := ":****".toList

/-- Hides the password of what stands behind the scheme. -/
def maskedUser? (rest : List Char) : Option (List Char) := do
  let (login, host) ← splitAtLast? '@' rest
  let (user, _) ← splitAtFirst? ':' login
  return user ++ passwordMark ++ host

/-- The address without its password. -/
def masked (url : List Char) : List Char :=
  let (scheme, rest) := (splitScheme? url).getD ([], url)
  ((maskedUser? rest).map (scheme ++ ·)).getD url

end ResourceCatalog.Database
