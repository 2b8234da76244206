import Nfs41Idmap.Concurrent.Fresh

/-!
# The Cygwin fetch against an account database

The theorems about runs of the mapper assume a backend that answers a lookup only with a
record its key selects. For the Cygwin build that follows from what `cygwin_getent_passwd`
and `cygwin_getent_group` answer (`CygwinDbExact`): a name only with the account of that
name, the decimal text of an id only with the account of that id, every account one of the
records of the instant, and every name short enough for an entry. A user record of the
local database has the principal the build gives it, `name@localdomain`.

The build then answers exactly the keys it can answer (`UserKey.CygwinPlain`): a name with a
character other than a digit, which `cygwin_getent_passwd` reads as a name, shorter than
`VAL_LEN` so that `StringCchCopyA` copies it whole, and any id. A principal never
qualifies: below `VAL_LEN - 1` characters the principal check fails
(`cygwinFetchUser_principal_synthesized`), and at `VAL_LEN - 1` it answers with the principal
as asked (`cygwinFetchUser_principal_eq_ok_iff`). A name of `VAL_LEN` characters or more is
cached under another (`nameToUid_cygwin_long_name_prepends`).

## Main definitions

* `cygwinRecord` — the user record of an account
* `CygwinDbExact` — an account database that answers from the records of each instant
* `UserKey.CygwinPlain`, `GroupKey.CygwinPlain` — the keys the Cygwin fetch answers exactly

## Main results

* `cygwinFetch_exact_of_accounts` — against an exact account database the Cygwin build's
  fetches are exact backends for its plain keys, as the theorems about runs assume
* `cygwinDbExact_ofAccounts` — `CygwinDb.ofAccounts` is exact when its names fit an entry
-/

namespace Nfs41Idmap

/-- The user record of an account of the local database: the principal is the one the
Cygwin build gives it, `name@localdomain` as `snprintf` cuts it to `VAL_LEN - 1`
characters. -/
def cygwinRecord (config : IdmapConfig) (name : List Char) (uid gid : UInt32) : UserRecord :=
  ⟨name, some (snprintfA valLen (name ++ '@' :: config.localdomainName)), uid, gid⟩

/-- At every instant `t` the account database answers from the records of `userDb t` and
`groupDb t`: a text with a character other than a digit only with the account or group of
that name, the decimal text of an id only with the account or group of that id, and every
account and group one of the instant's records, with a name that fits an entry. -/
structure CygwinDbExact (db : Nat → CygwinDb) (config : IdmapConfig)
    (userDb : Nat → List UserRecord) (groupDb : Nat → List GroupRecord) : Prop where
  passwd_mem : ∀ t key name uid gid, (db t).getentPasswd key = some (name, uid, gid) →
    cygwinRecord config name uid gid ∈ userDb t ∧ name.length < valLen
  passwd_name : ∀ t key name uid gid, (db t).getentPasswd key = some (name, uid, gid) →
    key.all Char.isDigit = false → name = key
  passwd_uid : ∀ t (u : UInt32) name uid gid,
    (db t).getentPasswd (Nat.toDigits 10 u.toNat) = some (name, uid, gid) → uid = u
  group_mem : ∀ t key name gid, (db t).getentGroup key = some (name, gid) →
    ⟨name, gid⟩ ∈ groupDb t ∧ name.length < valLen
  group_name : ∀ t key name gid, (db t).getentGroup key = some (name, gid) →
    key.all Char.isDigit = false → name = key
  group_gid : ∀ t (g : UInt32) name gid,
    (db t).getentGroup (Nat.toDigits 10 g.toNat) = some (name, gid) → gid = g

/-- A key the Cygwin build answers with the account it names: a name with a character other
than a digit, shorter than `VAL_LEN`, or a uid. -/
def UserKey.CygwinPlain : UserKey → Prop
  | .name k => k.length < valLen ∧ k.all Char.isDigit = false
  | .principal _ => False
  | .uid _ => True

/-- A key the Cygwin build answers with the group it names. -/
def GroupKey.CygwinPlain : GroupKey → Prop
  | .name k => k.length < valLen ∧ k.all Char.isDigit = false
  | .gid _ => True

instance UserKey.decidableCygwinPlain : DecidablePred UserKey.CygwinPlain
  | .name k => inferInstanceAs (Decidable (k.length < valLen ∧ k.all Char.isDigit = false))
  | .principal _ => inferInstanceAs (Decidable False)
  | .uid _ => inferInstanceAs (Decidable True)

instance GroupKey.decidableCygwinPlain : DecidablePred GroupKey.CygwinPlain
  | .name k => inferInstanceAs (Decidable (k.length < valLen ∧ k.all Char.isDigit = false))
  | .gid _ => inferInstanceAs (Decidable True)

/-- `snprintf` into a `char[VAL_LEN]` leaves a principal that fits an entry. -/
theorem snprintfA_length_lt (text : List Char) : (snprintfA valLen text).length < valLen := by
  simp only [snprintfA, List.length_take, valLen]
  omega

/-- `%u` prints no text that the database reads as a name. -/
theorem all_isDigit_toDigits (n : Nat) : (Nat.toDigits 10 n).all Char.isDigit = true :=
  List.all_eq_true.mpr fun _ hc => isDigit_of_mem_toDigits hc

section Exact

variable {db : Nat → CygwinDb} {config : IdmapConfig}

/-- A successful Cygwin user fetch holds the record of the account `getent` returned. -/
theorem cygwinRecord_holds {name : List Char} {uid gid : UInt32} (hfit : name.length < valLen)
    (now : Nat) :
    IdmapUser.Holds ⟨.copy name, .copy (snprintfA valLen (name ++ '@' :: config.localdomainName)),
      uid, gid, now⟩ (cygwinRecord config name uid gid) :=
  ⟨ValStr.copy_of_lt hfit, ValStr.copy_of_lt (snprintfA_length_lt _), rfl, rfl⟩

theorem userFetchExact_of_accounts {userDb : Nat → List UserRecord}
    {groupDb : Nat → List GroupRecord} (h : CygwinDbExact db config userDb groupDb) :
    UserFetchExact userDb
      ((codeFetchUser (fun t => .cygwin (db t)) config).restrict UserKey.CygwinPlain) := by
  rintro t key work r ⟨hplain, errno, rfl⟩ hok
  cases key with
  | name k =>
    obtain ⟨hlen, hword⟩ := hplain
    simp only [fetchUser, UserKey.lookup, usernameLookup, cygwinFetchUser, cygwinGetentUser]
      at hok ⊢
    cases hdb : (db t).getentPasswd k with
    | none => simp [hdb, errorNotFound, noError] at hok
    | some a =>
      obtain ⟨name, uid, gid⟩ := a
      obtain rfl := h.passwd_name t k name uid gid hdb hword
      refine ⟨cygwinRecord config name uid gid, (h.passwd_mem t _ name uid gid hdb).1, ?_, rfl⟩
      simpa [hdb] using cygwinRecord_holds hlen t
  | principal k => exact hplain.elim
  | uid u =>
    simp only [fetchUser, UserKey.lookup, uidLookup, cygwinFetchUser, cygwinGetentUser] at hok ⊢
    cases hdb : (db t).getentPasswd (Nat.toDigits 10 u.toNat) with
    | none => simp [hdb, errorNotFound, noError] at hok
    | some a =>
      obtain ⟨name, uid, gid⟩ := a
      obtain rfl := h.passwd_uid t u name uid gid hdb
      obtain ⟨hmem, hfit⟩ := h.passwd_mem t _ name uid gid hdb
      exact ⟨cygwinRecord config name uid gid, hmem, by simpa [hdb] using cygwinRecord_holds hfit t,
        rfl⟩

theorem groupFetchExact_of_accounts {userDb : Nat → List UserRecord}
    {groupDb : Nat → List GroupRecord} (h : CygwinDbExact db config userDb groupDb) :
    GroupFetchExact groupDb
      ((codeFetchGroup (fun t => .cygwin (db t)) config).restrict GroupKey.CygwinPlain) := by
  rintro t key work r ⟨hplain, errno, rfl⟩ hok
  cases key with
  | name k =>
    obtain ⟨hlen, hword⟩ := hplain
    simp only [fetchGroup, GroupKey.lookup, groupLookup, cygwinFetchGroup, cygwinGetentGroup]
      at hok ⊢
    cases hdb : (db t).getentGroup k with
    | none => simp [hdb, errorNotFound, noError] at hok
    | some a =>
      obtain ⟨name, gid⟩ := a
      obtain rfl := h.group_name t k name gid hdb hword
      exact ⟨⟨name, gid⟩, (h.group_mem t _ name gid hdb).1,
        by simp [IdmapGroup.Holds, ValStr.copy_of_lt hlen], rfl⟩
  | gid g =>
    simp only [fetchGroup, GroupKey.lookup, gidLookup, cygwinFetchGroup, cygwinGetentGroup] at hok ⊢
    cases hdb : (db t).getentGroup (Nat.toDigits 10 g.toNat) with
    | none => simp [hdb, errorNotFound, noError] at hok
    | some a =>
      obtain ⟨name, gid⟩ := a
      obtain rfl := h.group_gid t g name gid hdb
      obtain ⟨hmem, hfit⟩ := h.group_mem t _ name gid hdb
      exact ⟨⟨name, gid⟩, hmem, by simp [IdmapGroup.Holds, ValStr.copy_of_lt hfit], rfl⟩

/-- Against an account database that answers from the records of each instant, the Cygwin
build's `idmap_lookup_user` and `idmap_lookup_group`, called with keys it can answer, are
exact backends: every answer they return without error holds a record of the instant that
the key selects. -/
theorem cygwinFetch_exact_of_accounts {userDb : Nat → List UserRecord}
    {groupDb : Nat → List GroupRecord} (h : CygwinDbExact db config userDb groupDb) :
    UserFetchExact userDb
        ((codeFetchUser (fun t => .cygwin (db t)) config).restrict UserKey.CygwinPlain) ∧
      GroupFetchExact groupDb
        ((codeFetchGroup (fun t => .cygwin (db t)) config).restrict GroupKey.CygwinPlain) :=
  ⟨userFetchExact_of_accounts h, groupFetchExact_of_accounts h⟩

end Exact

/-! ## A database of accounts -/

section OfAccounts

variable {users : List (List Char × UInt32 × UInt32)} {groups : List (List Char × UInt32)}
  {key : List Char}

/-- `CygwinDb.ofAccounts` answers with one of its accounts, found by name unless the text is
made of digits. -/
theorem ofAccounts_getentPasswd {a : List Char × UInt32 × UInt32}
    (h : (CygwinDb.ofAccounts users groups).getentPasswd key = some a) :
    a ∈ users ∧ (key.all Char.isDigit = false → a.1 = key) ∧
      (key.all Char.isDigit = true → Nat.toDigits 10 a.2.1.toNat = key) := by
  have hpick := List.find?_some h
  refine ⟨List.mem_of_find?_eq_some h, fun hk => ?_, fun hk => ?_⟩ <;>
    simpa [hk] using hpick

theorem ofAccounts_getentGroup {g : List Char × UInt32}
    (h : (CygwinDb.ofAccounts users groups).getentGroup key = some g) :
    g ∈ groups ∧ (key.all Char.isDigit = false → g.1 = key) ∧
      (key.all Char.isDigit = true → Nat.toDigits 10 g.2.toNat = key) := by
  have hpick := List.find?_some h
  refine ⟨List.mem_of_find?_eq_some h, fun hk => ?_, fun hk => ?_⟩ <;>
    simpa [hk] using hpick

/-- The database holding accounts and groups whose names fit an entry is exact, its user
records the accounts with the principal the build gives them. -/
theorem cygwinDbExact_ofAccounts (config : IdmapConfig)
    (hu : ∀ a ∈ users, a.1.length < valLen) (hg : ∀ g ∈ groups, g.1.length < valLen) :
    CygwinDbExact (fun _ => .ofAccounts users groups) config
      (fun _ => users.map fun a => cygwinRecord config a.1 a.2.1 a.2.2)
      (fun _ => groups.map fun g => ⟨g.1, g.2⟩) where
  passwd_mem _ _ _ _ _ h :=
    have hmem := (ofAccounts_getentPasswd h).1
    ⟨List.mem_map.mpr ⟨_, hmem, rfl⟩, hu _ hmem⟩
  passwd_name _ _ _ _ _ h hk := (ofAccounts_getentPasswd h).2.1 hk
  passwd_uid _ _ _ _ _ h :=
    toDigits_uint_inj ((ofAccounts_getentPasswd h).2.2 (all_isDigit_toDigits _))
  group_mem _ _ _ _ h :=
    have hmem := (ofAccounts_getentGroup h).1
    ⟨List.mem_map.mpr ⟨_, hmem, rfl⟩, hg _ hmem⟩
  group_name _ _ _ _ h hk := (ofAccounts_getentGroup h).2.1 hk
  group_gid _ _ _ _ h :=
    toDigits_uint_inj ((ofAccounts_getentGroup h).2.2 (all_isDigit_toDigits _))

end OfAccounts

/-- The local account database of `alice`, `bob` and their group. -/
def pairAccounts : CygwinDb :=
  .ofAccounts [("alice".toList, 1000, 513), ("bob".toList, 1001, 513)] [("users".toList, 513)]

theorem cygwinFetch_exact_of_accounts_pair :
    let config := IdmapConfig.defaults "dom".toList
    let userDb : Nat → List UserRecord := fun _ =>
      [cygwinRecord config "alice".toList 1000 513, cygwinRecord config "bob".toList 1001 513]
    let groupDb : Nat → List GroupRecord := fun _ => [⟨"users".toList, 513⟩]
    CygwinDbExact (fun _ => pairAccounts) config userDb groupDb ∧
      (UserFetchExact userDb
          ((codeFetchUser (fun _ => .cygwin pairAccounts) config).restrict UserKey.CygwinPlain) ∧
        GroupFetchExact groupDb
          ((codeFetchGroup (fun _ => .cygwin pairAccounts) config).restrict
            GroupKey.CygwinPlain)) :=
  have h := cygwinDbExact_ofAccounts (IdmapConfig.defaults "dom".toList) (by decide) (by decide)
  ⟨h, cygwinFetch_exact_of_accounts h⟩

end Nfs41Idmap
