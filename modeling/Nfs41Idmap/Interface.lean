import Nfs41Idmap.Lookup
import Nfs41Idmap.Ldap.Query
import Nfs41Idmap.Cygwin

/-!
# The mapper and its public interface

`struct idmap_context` holds the configuration and the two caches; the backend is the LDAP
connection, or in the Cygwin build the local account database. `idmap_lookup_user` and
`idmap_lookup_group` are `idmapLookup` over the build's fetch, and the six public functions
build their lookup, call one of them, and copy out the fields they return.

## Main definitions

* `Backend`, `IdmapContext`, `CallEnv` — the backend, the mapper's state, and what a call
  reads from outside it
* `idmapLookupUser`, `idmapLookupGroup` — `idmap_lookup_user`, `idmap_lookup_group`
* `nfs41IdmapNameToUid`, `nfs41IdmapNameToIds`, `nfs41IdmapUidToName`,
  `nfs41IdmapPrincipalToIds`, `nfs41IdmapGroupToGid`, `nfs41IdmapGidToGroup` — the public
  interface

## Main results

* `lookup_failure_keeps_context` — a lookup of either kind that fails leaves the
  configuration and both caches as they were, in both builds and for every backend
* `lookup_repeat_within_ttl_hits` — a repeat of a lookup that fetched an entry matching its
  own key is answered from the cache within `cache_ttl`
* `caseInsensitive_repeat_queries` — a directory that matches names regardless of case
  has its answers filed under a key the repeat does not match, so the repeat queries again
* `principalToIds_cygwin_cold_fails` — in the Cygwin build a principal that is not cached
  is never found
* `nameToUid_cygwin_long_name_cached_as_prefix` — in the Cygwin build a long name is cached
  under its first `VAL_LEN - 1` characters, and answers a lookup of that prefix
* `nameToUid_cygwin_long_name_prepends` — and is never found again: each lookup of it adds
  one more entry for the same account
-/

namespace Nfs41Idmap

/-- The backend a build of the mapper asks. -/
inductive Backend
  | ldap (client : LdapClient)
  | cygwin (db : CygwinDb)

/-- `struct idmap_context`: the configuration and the two caches. -/
structure IdmapContext where
  config : IdmapConfig
  users : List IdmapUser
  groups : List IdmapGroup

/-- What a call reads besides the mapper's state: the clock when the cache check runs and
when the fetch stamps its answer, the thread's `errno`, and the outcome of `entry_alloc`
should the insert need it. -/
structure CallEnv where
  now : Nat
  stamp : Nat
  errno : Nat
  allocError : Option Nat

/-- The fetch of `idmap_lookup_user` in each build. -/
def fetchUser : Backend → IdmapConfig → Nat → IdmapLookup IdmapUser → IdmapUser → Nat →
    Nat × IdmapUser
  | .ldap client, config, errno, lookup, user, now => ldapFetchUser client config errno lookup user now
  | .cygwin db, config, _, lookup, user, now => cygwinFetchUser db config lookup user now

/-- The fetch of `idmap_lookup_group` in each build. -/
def fetchGroup : Backend → IdmapConfig → Nat → IdmapLookup IdmapGroup → IdmapGroup → Nat →
    Nat × IdmapGroup
  | .ldap client, config, errno, lookup, group, now =>
    ldapFetchGroup client config errno lookup group now
  | .cygwin db, _, _, lookup, group, now => cygwinFetchGroup db lookup group now

/-- `idmap_lookup_user(context, lookup, user)`: the status, the caller's entry, and the
context after. `user` is what the caller's uninitialised stack entry holds. -/
def idmapLookupUser (backend : Backend) (context : IdmapContext) (env : CallEnv)
    (lookup : IdmapLookup IdmapUser) (user : IdmapUser) : Nat × IdmapUser × IdmapContext :=
  let r := idmapLookup userCacheOps IdmapUser.lastUpdated context.config.cacheTtl
    (fun w => fetchUser backend context.config env.errno lookup w env.stamp) env.allocError
    env.now lookup context.users user
  (r.1, r.2.1, { context with users := r.2.2 })

/-- `idmap_lookup_group(context, lookup, group)` -/
def idmapLookupGroup (backend : Backend) (context : IdmapContext) (env : CallEnv)
    (lookup : IdmapLookup IdmapGroup) (group : IdmapGroup) : Nat × IdmapGroup × IdmapContext :=
  let r := idmapLookup groupCacheOps IdmapGroup.lastUpdated context.config.cacheTtl
    (fun w => fetchGroup backend context.config env.errno lookup w env.stamp) env.allocError
    env.now lookup context.groups group
  (r.1, r.2.1, { context with groups := r.2.2 })

/-! ## The public interface

Each function returns its status, what it writes through its out parameters (`none` when
it writes nothing), and the context after. -/

/-- `nfs41_idmap_name_to_uid` -/
def nfs41IdmapNameToUid (backend : Backend) (context : IdmapContext) (env : CallEnv)
    (user : IdmapUser) (username : List Char) : Nat × Option UInt32 × IdmapContext :=
  let r := idmapLookupUser backend context env (usernameLookup username) user
  (r.1, if r.1 = noError then some r.2.1.uid else none, r.2.2)

/-- `nfs41_idmap_name_to_ids`, the one function that checks for a missing context. -/
def nfs41IdmapNameToIds (backend : Backend) (context : Option IdmapContext) (env : CallEnv)
    (user : IdmapUser) (username : List Char) :
    Nat × Option (UInt32 × UInt32) × Option IdmapContext :=
  match context with
  | none => (errorFileNotFound, none, none)
  | some context =>
    let r := idmapLookupUser backend context env (usernameLookup username) user
    (r.1, if r.1 = noError then some (r.2.1.uid, r.2.1.gid) else none, some r.2.2)

/-- `nfs41_idmap_uid_to_name`: the user name is copied into the caller's buffer of `len`
bytes, and a name that does not fit fails with `ERROR_BUFFER_OVERFLOW`. -/
def nfs41IdmapUidToName (backend : Backend) (context : IdmapContext) (env : CallEnv)
    (user : IdmapUser) (uid : UInt32) (len : Nat) : Nat × Option (List Char) × IdmapContext :=
  let r := idmapLookupUser backend context env (uidLookup uid) user
  if r.1 ≠ noError then (r.1, none, r.2.2)
  else
    let copy := stringCchCopyA len r.2.1.username.val
    (if copy.1 then noError else errorBufferOverflow, some copy.2, r.2.2)

/-- `nfs41_idmap_principal_to_ids` -/
def nfs41IdmapPrincipalToIds (backend : Backend) (context : IdmapContext) (env : CallEnv)
    (user : IdmapUser) (principal : List Char) : Nat × Option (UInt32 × UInt32) × IdmapContext :=
  let r := idmapLookupUser backend context env (principalLookup principal) user
  (r.1, if r.1 = noError then some (r.2.1.uid, r.2.1.gid) else none, r.2.2)

/-- `nfs41_idmap_group_to_gid` -/
def nfs41IdmapGroupToGid (backend : Backend) (context : IdmapContext) (env : CallEnv)
    (group : IdmapGroup) (name : List Char) : Nat × Option UInt32 × IdmapContext :=
  let r := idmapLookupGroup backend context env (groupLookup name) group
  (r.1, if r.1 = noError then some r.2.1.gid else none, r.2.2)

/-- `nfs41_idmap_gid_to_group` -/
def nfs41IdmapGidToGroup (backend : Backend) (context : IdmapContext) (env : CallEnv)
    (group : IdmapGroup) (gid : UInt32) (len : Nat) : Nat × Option (List Char) × IdmapContext :=
  let r := idmapLookupGroup backend context env (gidLookup gid) group
  if r.1 ≠ noError then (r.1, none, r.2.2)
  else
    let copy := stringCchCopyA len r.2.1.name.val
    (if copy.1 then noError else errorBufferOverflow, some copy.2, r.2.2)

/-! ## Failures leave the mapper as it was -/

section Failure

variable {backend : Backend} {context : IdmapContext} {env : CallEnv}

theorem idmapLookupUser_context_of_error {lookup : IdmapLookup IdmapUser} {user : IdmapUser}
    (h : (idmapLookupUser backend context env lookup user).1 ≠ noError) :
    (idmapLookupUser backend context env lookup user).2.2 = context := by
  simp only [idmapLookupUser] at h ⊢
  rw [idmapLookup_cache_of_error h]

theorem idmapLookupGroup_context_of_error {lookup : IdmapLookup IdmapGroup} {group : IdmapGroup}
    (h : (idmapLookupGroup backend context env lookup group).1 ≠ noError) :
    (idmapLookupGroup backend context env lookup group).2.2 = context := by
  simp only [idmapLookupGroup] at h ⊢
  rw [idmapLookup_cache_of_error h]

end Failure

/-- A lookup of either kind that fails leaves the configuration and both caches exactly as
they were, whatever the backend answered, in both builds: nothing is inserted before a
fetch has fully succeeded, and the working entry a failed fetch overwrote is the caller's,
not a cached one. -/
theorem lookup_failure_keeps_context (backend : Backend) (context : IdmapContext)
    (env : CallEnv) :
    (∀ lookup user, (idmapLookupUser backend context env lookup user).1 = noError ∨
      (idmapLookupUser backend context env lookup user).2.2 = context) ∧
    (∀ lookup group, (idmapLookupGroup backend context env lookup group).1 = noError ∨
      (idmapLookupGroup backend context env lookup group).2.2 = context) :=
  ⟨fun _ _ => or_iff_not_imp_left.mpr idmapLookupUser_context_of_error,
    fun _ _ => or_iff_not_imp_left.mpr idmapLookupGroup_context_of_error⟩

/-! ## A repeat within `cache_ttl` -/

section Repeat

variable {backend : Backend} {config : IdmapConfig} {errno now : Nat}

theorem fetchUser_stamp {lookup : IdmapLookup IdmapUser} {user : IdmapUser}
    (h : (fetchUser backend config errno lookup user now).1 = noError) :
    (fetchUser backend config errno lookup user now).2.lastUpdated = now := by
  cases backend with
  | ldap client =>
    simp only [fetchUser] at h ⊢
    obtain ⟨_, _, _, -, heq⟩ := ldapFetchUser_of_ok h
    rw [heq]
  | cygwin db => exact cygwinFetchUser_of_ok h

theorem fetchGroup_stamp {lookup : IdmapLookup IdmapGroup} {group : IdmapGroup}
    (h : (fetchGroup backend config errno lookup group now).1 = noError) :
    (fetchGroup backend config errno lookup group now).2.lastUpdated = now := by
  cases backend with
  | ldap client =>
    simp only [fetchGroup] at h ⊢
    obtain ⟨_, _, -, heq⟩ := ldapFetchGroup_of_ok h
    rw [heq]
  | cygwin db => exact cygwinFetchGroup_of_ok h

/-- In both builds, the status of a fetch, and the entry it returns on success, do not
depend on the working entry it fills. -/
theorem fetchUser_work_irrel (lookup : IdmapLookup IdmapUser) (w w' : IdmapUser) :
    (fetchUser backend config errno lookup w now).1 =
        (fetchUser backend config errno lookup w' now).1 ∧
      ((fetchUser backend config errno lookup w now).1 = noError →
        (fetchUser backend config errno lookup w now).2 =
          (fetchUser backend config errno lookup w' now).2) := by
  cases backend with
  | ldap client => exact @ldapFetchUser_work_irrel client config errno now lookup w w'
  | cygwin db => exact @cygwinFetchUser_work_irrel db config now lookup w w'

theorem fetchGroup_work_irrel (lookup : IdmapLookup IdmapGroup) (w w' : IdmapGroup) :
    (fetchGroup backend config errno lookup w now).1 =
        (fetchGroup backend config errno lookup w' now).1 ∧
      ((fetchGroup backend config errno lookup w now).1 = noError →
        (fetchGroup backend config errno lookup w now).2 =
          (fetchGroup backend config errno lookup w' now).2) := by
  cases backend with
  | ldap client => exact @ldapFetchGroup_work_irrel client config errno now lookup w w'
  | cygwin db => exact @cygwinFetchGroup_work_irrel db now lookup w w'

variable {context : IdmapContext} {env env' : CallEnv}

theorem idmapLookupUser_repeat_hits {lookup : IdmapLookup IdmapUser} {user : IdmapUser}
    (hquery : (cacheCheck userCacheOps IdmapUser.lastUpdated context.config.cacheTtl env.now
      lookup context.users user).1 = false)
    (hok : (idmapLookupUser backend context env lookup user).1 = noError)
    (hmatch : lookup.compare (idmapLookupUser backend context env lookup user).2.1 = 0)
    (halloc : env.allocError = none) (httl : 0 < context.config.cacheTtl)
    (hfresh : (env'.now : Int) - env.stamp < context.config.cacheTtl)
    (backend' : Backend) (user' : IdmapUser) :
    idmapLookupUser backend' (idmapLookupUser backend context env lookup user).2.2 env' lookup
        user' =
      (noError, (idmapLookupUser backend context env lookup user).2.1,
        (idmapLookupUser backend context env lookup user).2.2) := by
  obtain ⟨hstatus, hentry⟩ := idmapLookup_of_query
    (fun w => fetchUser backend context.config env.errno lookup w env.stamp) none hquery
  simp only [idmapLookupUser, halloc] at hok hmatch ⊢
  have hstamp := fetchUser_stamp (hstatus.symm.trans hok)
  rw [← hentry] at hstamp
  rw [idmapLookup_second_call_hits hquery (Prod.ext hok rfl) hmatch httl
    (by rw [hstamp]; exact hfresh)]

theorem idmapLookupGroup_repeat_hits {lookup : IdmapLookup IdmapGroup} {group : IdmapGroup}
    (hquery : (cacheCheck groupCacheOps IdmapGroup.lastUpdated context.config.cacheTtl env.now
      lookup context.groups group).1 = false)
    (hok : (idmapLookupGroup backend context env lookup group).1 = noError)
    (hmatch : lookup.compare (idmapLookupGroup backend context env lookup group).2.1 = 0)
    (halloc : env.allocError = none) (httl : 0 < context.config.cacheTtl)
    (hfresh : (env'.now : Int) - env.stamp < context.config.cacheTtl)
    (backend' : Backend) (group' : IdmapGroup) :
    idmapLookupGroup backend' (idmapLookupGroup backend context env lookup group).2.2 env' lookup
        group' =
      (noError, (idmapLookupGroup backend context env lookup group).2.1,
        (idmapLookupGroup backend context env lookup group).2.2) := by
  obtain ⟨hstatus, hentry⟩ := idmapLookup_of_query
    (fun w => fetchGroup backend context.config env.errno lookup w env.stamp) none hquery
  simp only [idmapLookupGroup, halloc] at hok hmatch ⊢
  have hstamp := fetchGroup_stamp (hstatus.symm.trans hok)
  rw [← hentry] at hstamp
  rw [idmapLookup_second_call_hits hquery (Prod.ext hok rfl) hmatch httl
    (by rw [hstamp]; exact hfresh)]

/-- A repeat within `cache_ttl` of a lookup that queried the backend and fetched an entry
whose looked-up field equals the key is answered from the cache: it returns the same entry
and leaves the mapper as it was, whatever backend it would ask. This holds for user and
group lookups alike, in both builds. -/
theorem lookup_repeat_within_ttl_hits :
    (∀ (backend backend' : Backend) (context : IdmapContext) (env env' : CallEnv)
        (lookup : IdmapLookup IdmapUser) (user user' : IdmapUser),
      (cacheCheck userCacheOps IdmapUser.lastUpdated context.config.cacheTtl env.now lookup
        context.users user).1 = false →
      (idmapLookupUser backend context env lookup user).1 = noError →
      lookup.compare (idmapLookupUser backend context env lookup user).2.1 = 0 →
      env.allocError = none → 0 < context.config.cacheTtl →
      (env'.now : Int) - env.stamp < context.config.cacheTtl →
      idmapLookupUser backend' (idmapLookupUser backend context env lookup user).2.2 env' lookup
          user' =
        (noError, (idmapLookupUser backend context env lookup user).2.1,
          (idmapLookupUser backend context env lookup user).2.2)) ∧
    (∀ (backend backend' : Backend) (context : IdmapContext) (env env' : CallEnv)
        (lookup : IdmapLookup IdmapGroup) (group group' : IdmapGroup),
      (cacheCheck groupCacheOps IdmapGroup.lastUpdated context.config.cacheTtl env.now lookup
        context.groups group).1 = false →
      (idmapLookupGroup backend context env lookup group).1 = noError →
      lookup.compare (idmapLookupGroup backend context env lookup group).2.1 = 0 →
      env.allocError = none → 0 < context.config.cacheTtl →
      (env'.now : Int) - env.stamp < context.config.cacheTtl →
      idmapLookupGroup backend' (idmapLookupGroup backend context env lookup group).2.2 env'
          lookup group' =
        (noError, (idmapLookupGroup backend context env lookup group).2.1,
          (idmapLookupGroup backend context env lookup group).2.2)) :=
  ⟨fun _ backend' _ _ _ _ _ user' hquery hok hmatch halloc httl hfresh =>
      idmapLookupUser_repeat_hits hquery hok hmatch halloc httl hfresh backend' user',
    fun _ backend' _ _ _ _ _ group' hquery hok hmatch halloc httl hfresh =>
      idmapLookupGroup_repeat_hits hquery hok hmatch halloc httl hfresh backend' group'⟩

end Repeat

/-! ## A directory that matches names regardless of case -/

/-- The directory entry of the user `alice`. -/
def aliceEntry (attr : List Char) : Option (List Char) :=
  if attr = "cn".toList then some "alice".toList
  else if attr = "uidNumber".toList then some "1000".toList
  else if attr = "gidNumber".toList then some "513".toList
  else none

/-- A directory holding the one user `alice` and matching `cn` without regard to case, as
the usual matching rule of `cn` does. -/
def caseInsensitiveDirectory : LdapClient where
  search _ filter :=
    if filter.map Char.toLower = "(&(objectclass=user)(cn=alice))".toList then .ok [aliceEntry]
    else .ok []
  mapError e := e
  search_error_ne_zero _ filter _ h := by
    simp only at h
    split at h <;> cases h
  mapError_ne_zero _ h := h

theorem lookup_repeat_within_ttl_hits_alice :
    let context : IdmapContext := ⟨IdmapConfig.defaults [], [], []⟩
    let first := idmapLookupUser (.ldap caseInsensitiveDirectory) context ⟨0, 0, 0, none⟩
      (usernameLookup "alice".toList) .zero
    idmapLookupUser (.ldap caseInsensitiveDirectory) first.2.2 ⟨1, 1, 0, none⟩
        (usernameLookup "alice".toList) .zero =
      (noError, first.2.1, first.2.2) :=
  lookup_repeat_within_ttl_hits.1 _ _ _ _ _ _ _ _ rfl (by decide) (by decide) rfl (by decide)
    (by decide)

/-- The name `ALICE` is answered with the user `alice` and filed under `alice`, so a repeat
a second later finds no entry for `ALICE`, queries the directory again, and adds a second
entry for the same user. -/
theorem caseInsensitive_repeat_queries :
    let context : IdmapContext := ⟨IdmapConfig.defaults [], [], []⟩
    let lookup := usernameLookup "ALICE".toList
    let first := idmapLookupUser (.ldap caseInsensitiveDirectory) context ⟨0, 0, 0, none⟩
      lookup .zero
    let second := idmapLookupUser (.ldap caseInsensitiveDirectory) first.2.2 ⟨1, 1, 0, none⟩
      lookup .zero
    (cacheCheck userCacheOps IdmapUser.lastUpdated 6000 0 lookup [] .zero).1 = false ∧
      first.1 = noError ∧
      (cacheCheck userCacheOps IdmapUser.lastUpdated 6000 1 lookup first.2.2.users .zero).1 =
        false ∧
      second.2.2.users.length = 2 := by
  decide

/-! ## The principal path of the Cygwin build -/

/-- In the Cygwin build, a principal shorter than `VAL_LEN - 1` for which the cache holds
no entry is never found: the check that the principal built back from the account matches
builds it from the whole principal, `principal@localdomain`. So the principal that
`nfs41_idmap_name_to_ids` synthesizes for an account maps back to its ids only through the
cache. -/
theorem principalToIds_cygwin_cold_fails (db : CygwinDb) (context : IdmapContext)
    (env : CallEnv) (user : IdmapUser) {principal : List Char}
    (hlen : principal.length < valLen - 1)
    (hcold : ∀ e ∈ context.users, e.principal.val ≠ principal) :
    nfs41IdmapPrincipalToIds (.cygwin db) context env user principal =
      (errorNotFound, none, context) := by
  have hsearch : listSearch (principalLookup principal).compare context.users = none :=
    listSearch_eq_none_iff.mpr fun e he => by
      simpa [principalLookup, principalCmp] using hcold e he
  have hquery : (cacheCheck userCacheOps IdmapUser.lastUpdated context.config.cacheTtl env.now
      (principalLookup principal) context.users user).1 = false := by
    simp [cacheCheck, cacheLookup_of_search_none hsearch, errorNotFound, noError]
  obtain ⟨hstatus, -⟩ := idmapLookup_of_query
    (fun w => fetchUser (.cygwin db) context.config env.errno (principalLookup principal) w
      env.stamp) env.allocError hquery
  rw [fetchUser, cygwinFetchUser_principal_synthesized hlen] at hstatus
  have hfail : (idmapLookupUser (.cygwin db) context env (principalLookup principal) user).1 =
      errorNotFound := hstatus
  have hkeep := idmapLookupUser_context_of_error (hfail.trans_ne (by decide))
  simp only [nfs41IdmapPrincipalToIds, hfail, hkeep]
  rfl

/-- The local account database holding the one account `alice`. -/
def aliceAccounts : CygwinDb where
  getentPasswd name := if name = "alice".toList then some ("alice".toList, 1000, 513) else none
  getentGroup _ := none

theorem principalToIds_cygwin_fails_alice :
    let context : IdmapContext := ⟨IdmapConfig.defaults "dom".toList, [], []⟩
    let named := nfs41IdmapNameToIds (.cygwin aliceAccounts) (some context) ⟨0, 0, 0, none⟩ .zero
      "alice".toList
    named.2.1 = some (1000, 513) ∧
      named.2.2.map (fun c => c.users.map (·.principal.val)) = some ["alice@dom".toList] ∧
      nfs41IdmapPrincipalToIds (.cygwin aliceAccounts) context ⟨0, 0, 0, none⟩ .zero
        "alice@dom".toList = (errorNotFound, none, context) := by
  intro context named
  exact ⟨by decide, by decide, principalToIds_cygwin_cold_fails aliceAccounts context _ _
    (by decide) fun _ h => absurd h (List.not_mem_nil _)⟩


/-! ## Names longer than a field in the Cygwin build -/

/-- In the Cygwin build, a user name the account database knows is cached under its first
`VAL_LEN - 1` characters: the lookup by name copies the name into the entry without checking
that it fits. For a name of `VAL_LEN` characters or more that prefix is another name, and a
later lookup of it within `cache_ttl` finds the entry and returns the uid of the long name,
whatever account the database holds under the prefix. -/
theorem nameToUid_cygwin_long_name_cached_as_prefix {db : CygwinDb} {context : IdmapContext}
    {env env' : CallEnv} {name res : List Char} {uid gid : UInt32} (user user' : IdmapUser)
    (hcold : context.users = [])
    (hdb : db.getentPasswd name = some (res, uid, gid)) (halloc : env.allocError = none)
    (httl : 0 < context.config.cacheTtl)
    (hfresh : (env'.now : Int) - env.stamp < context.config.cacheTtl) :
    let first := nfs41IdmapNameToUid (.cygwin db) context env user name
    first.1 = noError ∧ first.2.1 = some uid ∧
      nfs41IdmapNameToUid (.cygwin db) first.2.2 env' user' (name.take (valLen - 1)) =
        (noError, some uid, first.2.2) := by
  let e : IdmapUser := ⟨.copy name,
    .copy (snprintfA valLen (name ++ '@' :: context.config.localdomainName)), uid, gid, env.stamp⟩
  have hquery : cacheCheck userCacheOps IdmapUser.lastUpdated context.config.cacheTtl env.now
      (usernameLookup name) [] user = (false, user) := by
    simp [cacheCheck, listSearch, cacheLookup, errorNotFound, noError]
  have hfetch : fetchUser (.cygwin db) context.config env.errno (usernameLookup name) user
      env.stamp = (noError, e) := by
    simp [fetchUser, cygwinFetchUser, cygwinGetentUser, usernameLookup, hdb, e]
  have hfirst : idmapLookupUser (.cygwin db) context env (usernameLookup name) user =
      (noError, e, { context with users := [e] }) := by
    simp only [idmapLookupUser, idmapLookup, hcold, hquery, hfetch, halloc, ne_eq, httl.ne',
      cacheInsert_of_search_none (List.find?_nil : listSearch _ [] = none), not_false_eq_true,
      and_self, Bool.false_eq_true, ↓reduceIte]
  have hsearch : listSearch (usernameLookup (name.take (valLen - 1))).compare [e] = some e := by
    simp [listSearch, usernameLookup, usernameCmp, e, ValStr.copy, stringCchCopyA]
  have hsecond : idmapLookupUser (.cygwin db) { context with users := [e] } env'
      (usernameLookup (name.take (valLen - 1))) user' =
        (noError, e, { context with users := [e] }) := by
    have hcheck : cacheCheck userCacheOps IdmapUser.lastUpdated context.config.cacheTtl env'.now
        (usernameLookup (name.take (valLen - 1))) [e] user' = (true, e) :=
      cacheCheck_of_search hsearch hfresh
    simp only [idmapLookupUser, idmapLookup, hcheck, if_true]
  simp only [nfs41IdmapNameToUid, hfirst, hsecond, if_true, and_self]

/-- A local account database with the uid 1001 for every name of `VAL_LEN` characters and
1002 for every name of `VAL_LEN - 1`. -/
def longNameAccounts : CygwinDb where
  getentPasswd name :=
    if name.length = valLen then some (name, 1001, 513)
    else if name.length = valLen - 1 then some (name, 1002, 513) else none
  getentGroup _ := none

theorem nameToUid_cygwin_long_name_cached_as_prefix_accounts :
    let context : IdmapContext := ⟨IdmapConfig.defaults "dom".toList, [], []⟩
    let name := List.replicate valLen 'a'
    let first := nfs41IdmapNameToUid (.cygwin longNameAccounts) context ⟨0, 0, 0, none⟩ .zero name
    longNameAccounts.getentPasswd (name.take (valLen - 1)) =
        some (name.take (valLen - 1), 1002, 513) ∧
      first.1 = noError ∧ first.2.1 = some 1001 ∧
      nfs41IdmapNameToUid (.cygwin longNameAccounts) first.2.2 ⟨0, 0, 0, none⟩ .zero
        (name.take (valLen - 1)) = (noError, some 1001, first.2.2) := by
  intro context name first
  have hlen : name.length = valLen := List.length_replicate _ _
  have hprefix : (name.take (valLen - 1)).length = valLen - 1 := by
    rw [List.length_take, hlen, Nat.min_eq_left (Nat.sub_le _ _)]
  have hdb : longNameAccounts.getentPasswd name = some (name, 1001, 513) := by
    simp only [longNameAccounts, hlen, if_true]
  exact ⟨by simp only [longNameAccounts, hprefix, if_neg (by decide : valLen - 1 ≠ valLen),
      if_true],
    nameToUid_cygwin_long_name_cached_as_prefix .zero .zero rfl hdb rfl (by decide) (by decide)⟩

/-- In the Cygwin build, a lookup by a name of `VAL_LEN` characters or more that the account
database knows never finds an entry, since every entry holds a name of fewer characters, and
its own answer is filed under the name cut to `VAL_LEN - 1` characters. With caching on and
an allocation that does not fail, every such call answers the account's uid and puts one
more entry for the account in front of the cache, whatever the cache held. -/
theorem nameToUid_cygwin_long_name_prepends {db : CygwinDb} {context : IdmapContext}
    {env : CallEnv} {name res : List Char} {uid gid : UInt32} (user : IdmapUser)
    (hlong : valLen ≤ name.length) (hdb : db.getentPasswd name = some (res, uid, gid))
    (halloc : env.allocError = none) (httl : context.config.cacheTtl ≠ 0) :
    nfs41IdmapNameToUid (.cygwin db) context env user name =
      (noError, some uid, { context with
        users := ⟨.copy name, .copy (snprintfA valLen (name ++ '@' :: context.config.localdomainName)),
          uid, gid, env.stamp⟩ :: context.users }) := by
  let e : IdmapUser := ⟨.copy name,
    .copy (snprintfA valLen (name ++ '@' :: context.config.localdomainName)), uid, gid, env.stamp⟩
  -- no entry holds a name as long as the key
  have hmiss : listSearch (usernameLookup name).compare context.users = none :=
    listSearch_eq_none_iff.mpr fun x _ h => by
      have hfits := x.username.fits
      simp only [usernameLookup, usernameCmp, fieldStrcmp, strcmp_eq_zero_iff] at h
      have := congrArg List.length h
      omega
  have hquery : cacheCheck userCacheOps IdmapUser.lastUpdated context.config.cacheTtl env.now
      (usernameLookup name) context.users user = (false, user) := by
    simp [cacheCheck, cacheLookup_of_search_none hmiss, errorNotFound, noError]
  have hfetch : fetchUser (.cygwin db) context.config env.errno (usernameLookup name) user
      env.stamp = (noError, e) := by
    simp [fetchUser, cygwinFetchUser, cygwinGetentUser, usernameLookup, hdb, e]
  simp only [nfs41IdmapNameToUid, idmapLookupUser, idmapLookup, hquery, hfetch, halloc, httl,
    cacheInsert_of_search_none hmiss, Bool.false_eq_true, ne_eq, not_false_eq_true, and_self,
    if_true, if_false]

theorem nameToUid_cygwin_long_name_prepends_twice :
    let name := List.replicate valLen 'a'
    let db := CygwinDb.ofAccounts [(name, 1001, 513)] []
    let context : IdmapContext := ⟨IdmapConfig.defaults "dom".toList, [], []⟩
    let first := nfs41IdmapNameToUid (.cygwin db) context ⟨0, 0, 0, none⟩ .zero name
    let second := nfs41IdmapNameToUid (.cygwin db) first.2.2 ⟨1, 1, 0, none⟩ .zero name
    first.2.1 = some 1001 ∧ second.1 = noError ∧ second.2.1 = some 1001 ∧
      second.2.2.users.map (·.username.val) = [name.take (valLen - 1), name.take (valLen - 1)] ∧
      second.2.2.users.map (·.uid) = [1001, 1001] := by
  intro name db context first second
  have hlong : valLen ≤ name.length := (List.length_replicate _ _).ge
  have hword : name.all Char.isDigit = false :=
    List.all_eq_false.mpr ⟨'a', List.mem_replicate.mpr ⟨by decide, rfl⟩, by decide⟩
  -- from here on only the length of the name and its first letter matter
  clear_value name
  have hdb : db.getentPasswd name = some (name, 1001, 513) := by
    simp only [db, CygwinDb.ofAccounts, List.find?_cons, hword, Bool.false_eq_true, ↓reduceIte,
      decide_True]
  have hfirst : first = _ :=
    nameToUid_cygwin_long_name_prepends .zero hlong hdb rfl (by decide)
  have hsecond : second = _ := @nameToUid_cygwin_long_name_prepends db first.2.2 ⟨1, 1, 0, none⟩
    name name 1001 513 .zero hlong hdb rfl
    (by rw [hfirst]; exact (by decide : (IdmapConfig.defaults "dom".toList).cacheTtl ≠ 0))
  rw [hsecond, hfirst]
  exact ⟨rfl, rfl, rfl, rfl, rfl⟩

end Nfs41Idmap
