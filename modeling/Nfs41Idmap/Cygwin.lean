import Nfs41Idmap.Cache

/-!
# The local-account backend of the Cygwin build

Built with `NFS41_DRIVER_FEATURE_IDMAPPER_CYGWIN`, the mapper asks the local account
database through `cygwin_getent_passwd` and `cygwin_getent_group` instead of a directory.
A user found by name gets the principal `name@localdomain`; a principal is looked up by
the part before its `@`, and accepted only if the principal built back from the answer is
the one asked for.

That last check builds the principal from the whole key, `principal@localdomain`, and not
from the name before the `@`, so on a miss in the cache no principal of the form
`name@localdomain` passes it. `Nfs41Idmap.Interface` shows the consequence for
`nfs41_idmap_principal_to_ids`.

## Main definitions

* `CygwinDb` — the local account database, and `CygwinDb.ofAccounts`, the one holding
  given accounts
* `cygwinFetchUser`, `cygwinFetchGroup` — the Cygwin half of `idmap_lookup_user` and
  `idmap_lookup_group`

## Main results

* `cygwinFetchUser_of_ok`, `cygwinFetchGroup_of_ok` — a successful fetch stamps the
  working entry with the time of the fetch
* `cygwinFetchUser_principal_synthesized` — the principal check fails for every principal
  `name@domain` shorter than `VAL_LEN - 1`
* `cygwinFetchUser_principal_eq_ok_iff` — it passes exactly for principals of `VAL_LEN - 1`
  characters, whatever follows their `@`, and answers with the account named before it
-/

namespace Nfs41Idmap

/-- The local account database of the Cygwin build, as `cygwin_getent_passwd` and
`cygwin_getent_group` return it: `some` when they return zero, with the login or group name
they write and the ids. -/
structure CygwinDb where
  getentPasswd : List Char → Option (List Char × UInt32 × UInt32)
  getentGroup : List Char → Option (List Char × UInt32)

/-- The local account database holding the given accounts (login name, uid, gid) and groups
(name, gid). It reads a text of digits as an id, as `snprintf("%lu")` prints one, and
answers with the first account or group of that id; any other text it reads as a name, and
answers with the first of that name. -/
def CygwinDb.ofAccounts (users : List (List Char × UInt32 × UInt32))
    (groups : List (List Char × UInt32)) : CygwinDb where
  getentPasswd key := users.find? fun a =>
    if key.all Char.isDigit then Nat.toDigits 10 a.2.1.toNat = key else a.1 = key
  getentGroup key := groups.find? fun g =>
    if key.all Char.isDigit then Nat.toDigits 10 g.2.toNat = key else g.1 = key

/-- `snprintf(buf, size, ...)`: the formatted text, cut to `size - 1` characters. -/
def snprintfA (size : Nat) (text : List Char) : List Char := text.take (size - 1)

/-- `strcpy_s(dst, size, src)`: the copy, or the empty string when `src` does not fit,
which is what `dst` holds when the invalid-parameter handler returns. -/
def strcpyS (size : Nat) (src : List Char) : List Char := if src.length < size then src else []

/-- The `getent` half of the Cygwin build's `idmap_lookup_user`: the call for the lookup's
attribute, its status, and the working entry it fills. -/
def cygwinGetentUser (db : CygwinDb) (config : IdmapConfig) (lookup : IdmapLookup IdmapUser)
    (user : IdmapUser) : Nat × IdmapUser :=
  match lookup.attr, lookup.value with
  | .userName, .str name =>
    match db.getentPasswd name with
    | some (_, cyUid, cyGid) =>
      let principalName := snprintfA valLen (name ++ '@' :: config.localdomainName)
      (noError, { user with username := .copy name, principal := .copy principalName,
                            uid := cyUid, gid := cyGid })
    | none => (errorNotFound, user)
  | .principal, .str principal =>
    let searchName := (strcpyS valLen principal).takeWhile (· ≠ '@')
    match db.getentPasswd searchName with
    | some (_, cyUid, cyGid) =>
      let principalName := snprintfA valLen (principal ++ '@' :: config.localdomainName)
      if strcmp principalName principal = 0 then
        (noError, { user with username := .copy searchName, principal := .copy principalName,
                              uid := cyUid, gid := cyGid })
      else (errorNotFound, user)
    | none => (errorNotFound, user)
  | .uid, .int uid =>
    match db.getentPasswd (Nat.toDigits 10 uid.toNat) with
    | some (resUsername, cyUid, cyGid) =>
      let principalName := snprintfA valLen (resUsername ++ '@' :: config.localdomainName)
      (noError, { user with username := .copy resUsername, principal := .copy principalName,
                            uid := cyUid, gid := cyGid })
    | none => (errorNotFound, user)
  | _, _ => (errorNotFound, user)

/-- The Cygwin build's `idmap_lookup_user` after the cache check: the `getent` call, and
the stamp `now` if it succeeded. -/
def cygwinFetchUser (db : CygwinDb) (config : IdmapConfig) (lookup : IdmapLookup IdmapUser)
    (user : IdmapUser) (now : Nat) : Nat × IdmapUser :=
  let r := cygwinGetentUser db config lookup user
  if r.1 = noError then (r.1, { r.2 with lastUpdated := now }) else r

/-- The `getent` half of the Cygwin build's `idmap_lookup_group`. -/
def cygwinGetentGroup (db : CygwinDb) (lookup : IdmapLookup IdmapGroup) (group : IdmapGroup) :
    Nat × IdmapGroup :=
  match lookup.attr, lookup.value with
  | .groupName, .str name =>
    match db.getentGroup name with
    | some (_, cyGid) => (noError, { group with name := .copy name, gid := cyGid })
    | none => (errorNotFound, group)
  | .gid, .int gid =>
    match db.getentGroup (Nat.toDigits 10 gid.toNat) with
    | some (resGroupname, cyGid) => (noError, { group with name := .copy resGroupname, gid := cyGid })
    | none => (errorNotFound, group)
  | _, _ => (errorNotFound, group)

/-- The Cygwin build's `idmap_lookup_group` after the cache check. -/
def cygwinFetchGroup (db : CygwinDb) (lookup : IdmapLookup IdmapGroup) (group : IdmapGroup)
    (now : Nat) : Nat × IdmapGroup :=
  let r := cygwinGetentGroup db lookup group
  if r.1 = noError then (r.1, { r.2 with lastUpdated := now }) else r

section Fetch

variable {db : CygwinDb} {config : IdmapConfig} {now : Nat}

theorem cygwinFetchUser_of_ok {lookup : IdmapLookup IdmapUser} {user : IdmapUser}
    (h : (cygwinFetchUser db config lookup user now).1 = noError) :
    (cygwinFetchUser db config lookup user now).2.lastUpdated = now := by
  unfold cygwinFetchUser at h ⊢
  dsimp only at h ⊢
  split_ifs at h ⊢ with hr
  · rfl
  · exact absurd h hr

theorem cygwinFetchGroup_of_ok {lookup : IdmapLookup IdmapGroup} {group : IdmapGroup}
    (h : (cygwinFetchGroup db lookup group now).1 = noError) :
    (cygwinFetchGroup db lookup group now).2.lastUpdated = now := by
  unfold cygwinFetchGroup at h ⊢
  dsimp only at h ⊢
  split_ifs at h ⊢ with hr
  · rfl
  · exact absurd h hr

/-- The principal the check builds from a key `name@domain` is `name@domain@domain`, cut
to `VAL_LEN - 1` characters: it differs from the key whenever the key is shorter. -/
theorem snprintfA_principal_ne {key d : List Char} (hlen : key.length < valLen - 1) :
    strcmp (snprintfA valLen (key ++ '@' :: d)) key ≠ 0 := by
  rw [Ne, strcmp_eq_zero_iff, snprintfA]
  intro h
  have := congrArg List.length h
  simp only [List.length_take, List.length_append, List.length_cons] at this
  omega

/-- On a principal `name@domain` shorter than `VAL_LEN - 1`, the principal path of the
Cygwin fetch fails whatever the database holds. -/
theorem cygwinFetchUser_principal_synthesized {principal : List Char} {user : IdmapUser}
    (hlen : principal.length < valLen - 1) :
    cygwinFetchUser db config (principalLookup principal) user now = (errorNotFound, user) := by
  have hgetent : cygwinGetentUser db config (principalLookup principal) user =
      (errorNotFound, user) := by
    unfold cygwinGetentUser principalLookup
    dsimp only
    split
    · simp only [snprintfA_principal_ne hlen, if_false]
    · rfl
  simp only [cygwinFetchUser, hgetent, if_neg (by decide : errorNotFound ≠ noError)]

/-- The principal the check builds from a key is the key itself exactly when the key has
`VAL_LEN - 1` characters: `snprintf` then cuts `@domain` off again. -/
theorem snprintfA_principal_eq_iff {key d : List Char} :
    strcmp (snprintfA valLen (key ++ '@' :: d)) key = 0 ↔ key.length = valLen - 1 := by
  rw [strcmp_eq_zero_iff, snprintfA]
  constructor
  · intro h
    have := congrArg List.length h
    simp only [List.length_take, List.length_append, List.length_cons] at this
    omega
  · exact fun h => List.take_left' h

/-- On a miss in the cache, the principal path of the Cygwin fetch succeeds exactly on a
principal of `VAL_LEN - 1` characters whose part before the first `@` names an account,
whatever follows the `@`, and returns that account under the principal asked for. -/
theorem cygwinFetchUser_principal_eq_ok_iff {principal : List Char} {user e : IdmapUser} :
    cygwinFetchUser db config (principalLookup principal) user now = (noError, e) ↔
      principal.length = valLen - 1 ∧
        ∃ res uid gid, db.getentPasswd (principal.takeWhile (· ≠ '@')) = some (res, uid, gid) ∧
          e = ⟨.copy (principal.takeWhile (· ≠ '@')), .copy principal, uid, gid, now⟩ := by
  unfold cygwinFetchUser cygwinGetentUser principalLookup
  dsimp only
  by_cases hlen : principal.length = valLen - 1
  · have hcopy : strcpyS valLen principal = principal := if_pos (by rw [hlen]; decide)
    have hcheck : snprintfA valLen (principal ++ '@' :: config.localdomainName) = principal :=
      strcmp_eq_zero_iff.mp (snprintfA_principal_eq_iff.mpr hlen)
    rw [hcopy]
    cases db.getentPasswd (principal.takeWhile (· ≠ '@')) with
    | none => simp [errorNotFound, noError]
    | some r =>
      obtain ⟨res, uid, gid⟩ := r
      simp only [hcheck, hlen, strcmp_eq_zero_iff, ↓reduceIte, Prod.mk.injEq, true_and,
        Option.some.injEq, eq_comm]
      exact ⟨fun h => ⟨res, uid, gid, ⟨rfl, rfl, rfl⟩, h⟩,
        fun ⟨_, _, _, ⟨h1, h2, h3⟩, h⟩ => by subst h1 h2 h3; exact h⟩
  · have hcheck : strcmp (snprintfA valLen (principal ++ '@' :: config.localdomainName))
        principal ≠ 0 := mt snprintfA_principal_eq_iff.mp hlen
    cases db.getentPasswd ((strcpyS valLen principal).takeWhile (· ≠ '@')) with
    | none => simp [hlen, errorNotFound, noError]
    | some r => simp [hcheck, hlen, errorNotFound, noError]

/-- The status of a Cygwin user fetch, and the entry it returns on success, do not depend
on the working entry it fills: a success overwrites every field. -/
theorem cygwinFetchUser_work_irrel (lookup : IdmapLookup IdmapUser) (w w' : IdmapUser) :
    (cygwinFetchUser db config lookup w now).1 = (cygwinFetchUser db config lookup w' now).1 ∧
      ((cygwinFetchUser db config lookup w now).1 = noError →
        (cygwinFetchUser db config lookup w now).2 =
          (cygwinFetchUser db config lookup w' now).2) := by
  obtain ⟨attr, klass, value, cmp⟩ := lookup
  cases attr <;> cases value <;> simp only [cygwinFetchUser, cygwinGetentUser]
  case mk.userName.str name =>
    rcases db.getentPasswd name with _ | ⟨_, _, _⟩ <;> simp [errorNotFound, noError]
  case mk.principal.str principal =>
    by_cases hc : strcmp (snprintfA valLen (principal ++ '@' :: config.localdomainName))
        principal = 0 <;>
      rcases db.getentPasswd ((strcpyS valLen principal).takeWhile (· ≠ '@')) with
        _ | ⟨_, _, _⟩ <;>
      simp [hc, errorNotFound, noError]
  case mk.uid.int uid =>
    rcases db.getentPasswd (Nat.toDigits 10 uid.toNat) with _ | ⟨_, _, _⟩ <;>
      simp [errorNotFound, noError]
  all_goals simp [errorNotFound, noError]

theorem cygwinFetchGroup_work_irrel (lookup : IdmapLookup IdmapGroup) (w w' : IdmapGroup) :
    (cygwinFetchGroup db lookup w now).1 = (cygwinFetchGroup db lookup w' now).1 ∧
      ((cygwinFetchGroup db lookup w now).1 = noError →
        (cygwinFetchGroup db lookup w now).2 = (cygwinFetchGroup db lookup w' now).2) := by
  obtain ⟨attr, klass, value, cmp⟩ := lookup
  cases attr <;> cases value <;> simp only [cygwinFetchGroup, cygwinGetentGroup]
  case mk.groupName.str name =>
    rcases db.getentGroup name with _ | ⟨_, _⟩ <;> simp [errorNotFound, noError]
  case mk.gid.int gid =>
    rcases db.getentGroup (Nat.toDigits 10 gid.toNat) with _ | ⟨_, _⟩ <;>
      simp [errorNotFound, noError]
  all_goals simp [errorNotFound, noError]

end Fetch

end Nfs41Idmap
