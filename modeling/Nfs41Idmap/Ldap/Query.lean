import Nfs41Idmap.Ldap.Filter

/-!
# The LDAP backend: `idmap_query_attrs` and the parse of its answer

In the LDAP build a lookup the cache cannot answer searches the directory with the filter
of `idmap_filter`, takes the first entry found, and reads the first value of each
attribute it asks for. `idmap_lookup_user` and `idmap_lookup_group` then copy those values
into the caller's working entry field by field, stopping at the first that does not fit or
does not parse, and stamp the entry with the time.

The directory is a parameter, `LdapClient`: any answer to any filter is allowed, so every
result below holds for every directory.

## Main definitions

* `LdapClient` — the directory, as the mapper reaches it through `Winldap.h`
* `idmapQueryAttrs` — `idmap_query_attrs`
* `ldapFetchUser`, `ldapFetchGroup` — the LDAP half of `idmap_lookup_user` and
  `idmap_lookup_group`

## Main results

* `idmapQueryAttrs_error_ne_zero` — a failed query reports a nonzero status
* `ldapFetchUser_of_ok`, `ldapFetchGroup_of_ok` — a successful fetch fills every field of
  the working entry from the directory's answer and stamps it with the time of the fetch
-/

namespace Nfs41Idmap

/-- `LDAP_NO_SUCH_ATTRIBUTE` -/
def ldapNoSuchAttribute : Nat := 0x10

/-- `LDAP_NO_RESULTS_RETURNED` -/
def ldapNoResultsReturned : Nat := 0x5e

/-- The directory as the mapper reaches it through `Winldap.h`. -/
structure LdapClient where
  /-- `ldap_search_stA(ld, base, LDAP_SCOPE_SUBTREE, filter, ...)`: an LDAP error code, or
  the entries found, each as the first value `ldap_get_valuesA` returns for an attribute
  name, `none` for `NULL`. -/
  search : (base filter : List Char) → Except Nat (List (List Char → Option (List Char)))
  /-- `LdapMapErrorToWin32` -/
  mapError : Nat → Nat
  /-- `ldap_search_stA` returns `LDAP_SUCCESS`, which is zero, exactly when it succeeds. -/
  search_error_ne_zero : ∀ base filter e, search base filter = .error e → e ≠ 0
  /-- An LDAP error maps to a Windows error. -/
  mapError_ne_zero : ∀ e, e ≠ 0 → mapError e ≠ 0

/-- `ATTR_FLAG(attr)` -/
def attrFlag (attr : LdapAttr) : Nat := 1 <<< attr.index

/-- The attributes of `enum ldap_attr` in order, as the loop of `idmap_query_attrs` visits
them. -/
def ldapAttrs : List LdapAttr := [.userName, .groupName, .principal, .uid, .gid]

/-- `idmap_query_attrs(context, lookup, attributes, optional, values, NUM_ATTRIBUTES)`: the
first value of each attribute in `attributes` of the first entry found (`values[i]`), or
the status of the step that fails. -/
def idmapQueryAttrs {ε : Type} (client : LdapClient) (config : IdmapConfig)
    (lookup : IdmapLookup ε) (attributes optional : Nat) :
    Except Nat (LdapAttr → Option (List Char)) :=
  match idmapFilter config lookup filterLen with
  | .error status => .error status
  | .ok filter =>
    match client.search config.base filter with
    | .error status => .error (client.mapError status)
    | .ok [] => .error (client.mapError ldapNoResultsReturned)
    | .ok (entry :: _) =>
      let values := fun attr =>
        if attrIsset attributes attr then entry (config.attributes attr) else none
      if ldapAttrs.any fun attr =>
          attrIsset attributes attr && (values attr).isNone && !attrIsset optional attr then
        .error (client.mapError ldapNoSuchAttribute)
      else .ok values

/-- `attributes` of `idmap_lookup_user` -/
def userAttributes : Nat :=
  attrFlag .userName ||| attrFlag .principal ||| attrFlag .uid ||| attrFlag .gid

/-- `optional` of `idmap_lookup_user`: the principal is cached if the entry has one. -/
def userOptional : Nat := attrFlag .principal

/-- `attributes` of `idmap_lookup_group`; it passes no optional attribute. -/
def groupAttributes : Nat := attrFlag .groupName ||| attrFlag .gid

/-- The LDAP build's `idmap_lookup_user` after the cache check: the query, the parse of
its answer into the working entry `user` field by field, and the stamp `now`. `errno` is
the thread's `errno` on entry, which `parse_uint` reads and sets. -/
def ldapFetchUser (client : LdapClient) (config : IdmapConfig) (errno : Nat)
    (lookup : IdmapLookup IdmapUser) (user : IdmapUser) (now : Nat) : Nat × IdmapUser :=
  match idmapQueryAttrs client config lookup userAttributes userOptional with
  | .error status => (status, user)
  | .ok values =>
    let username := (values .userName).getD []
    let principal := (values .principal).getD []
    if !(stringCchCopyA valLen username).1 then
      (errorBufferOverflow, { user with username := .copy username })
    else if !(stringCchCopyA valLen principal).1 then
      (errorBufferOverflow, { user with username := .copy username, principal := .copy principal })
    else
      match parseUint errno ((values .uid).getD []) with
      | (none, _) =>
        (errorInvalidParameter,
          { user with username := .copy username, principal := .copy principal })
      | (some uid, errno) =>
        match parseUint errno ((values .gid).getD []) with
        | (none, _) =>
          (errorInvalidParameter,
            { user with username := .copy username, principal := .copy principal, uid })
        | (some gid, _) => (noError, ⟨.copy username, .copy principal, uid, gid, now⟩)

/-- The LDAP build's `idmap_lookup_group` after the cache check. -/
def ldapFetchGroup (client : LdapClient) (config : IdmapConfig) (errno : Nat)
    (lookup : IdmapLookup IdmapGroup) (group : IdmapGroup) (now : Nat) : Nat × IdmapGroup :=
  match idmapQueryAttrs client config lookup groupAttributes 0 with
  | .error status => (status, group)
  | .ok values =>
    let name := (values .groupName).getD []
    if !(stringCchCopyA valLen name).1 then (errorBufferOverflow, { group with name := .copy name })
    else
      match parseUint errno ((values .gid).getD []) with
      | (none, _) => (errorInvalidParameter, { group with name := .copy name })
      | (some gid, _) => (noError, ⟨.copy name, gid, now⟩)

section Fetch

variable {client : LdapClient} {config : IdmapConfig} {errno now : Nat}

theorem idmapFilter_error_ne_zero {ε : Type} {lookup : IdmapLookup ε} {status : Nat}
    (h : idmapFilter config lookup filterLen = .error status) : status ≠ 0 := by
  simp only [idmapFilter] at h
  split_ifs at h
  cases h
  decide

/-- Every way `idmap_query_attrs` fails reports a nonzero status, so the callers' `if
(status)` sends every failure to their error exit. -/
theorem idmapQueryAttrs_error_ne_zero {ε : Type} {lookup : IdmapLookup ε}
    {attributes optional status : Nat}
    (h : idmapQueryAttrs client config lookup attributes optional = .error status) :
    status ≠ 0 := by
  unfold idmapQueryAttrs at h
  split at h
  · cases h
    exact idmapFilter_error_ne_zero ‹_›
  · split at h
    · cases h
      exact client.mapError_ne_zero _ (client.search_error_ne_zero _ _ _ ‹_›)
    · cases h
      exact client.mapError_ne_zero _ (by decide)
    · dsimp only at h
      split_ifs at h
      cases h
      exact client.mapError_ne_zero _ (by decide)

/-- A successful LDAP user fetch fills every field of the working entry from the
directory's answer, and stamps it with the time of the fetch. -/
theorem ldapFetchUser_of_ok {lookup : IdmapLookup IdmapUser} {user : IdmapUser}
    (h : (ldapFetchUser client config errno lookup user now).1 = noError) :
    ∃ values uid gid, idmapQueryAttrs client config lookup userAttributes userOptional = .ok values ∧
      ldapFetchUser client config errno lookup user now =
        (noError, ⟨.copy ((values .userName).getD []), .copy ((values .principal).getD []), uid,
          gid, now⟩) := by
  unfold ldapFetchUser at h ⊢
  cases hq : idmapQueryAttrs client config lookup userAttributes userOptional with
  | error status =>
    rw [hq] at h
    exact absurd h (idmapQueryAttrs_error_ne_zero hq)
  | ok values =>
    rw [hq] at h
    dsimp only at h ⊢
    split_ifs at h ⊢
    · simp [errorBufferOverflow, noError] at h
    · simp [errorBufferOverflow, noError] at h
    rcases hu : parseUint errno ((values .uid).getD []) with ⟨_ | uid, e⟩ <;> simp only [hu] at h ⊢
    · simp [errorInvalidParameter, noError] at h
    rcases hg : parseUint e ((values .gid).getD []) with ⟨_ | gid, e'⟩ <;> simp only [hg] at h ⊢
    · simp [errorInvalidParameter, noError] at h
    exact ⟨values, uid, gid, rfl, rfl⟩

/-- A successful LDAP group fetch fills every field of the working entry. -/
theorem ldapFetchGroup_of_ok {lookup : IdmapLookup IdmapGroup} {group : IdmapGroup}
    (h : (ldapFetchGroup client config errno lookup group now).1 = noError) :
    ∃ values gid, idmapQueryAttrs client config lookup groupAttributes 0 = .ok values ∧
      ldapFetchGroup client config errno lookup group now =
        (noError, ⟨.copy ((values .groupName).getD []), gid, now⟩) := by
  unfold ldapFetchGroup at h ⊢
  cases hq : idmapQueryAttrs client config lookup groupAttributes 0 with
  | error status =>
    rw [hq] at h
    exact absurd h (idmapQueryAttrs_error_ne_zero hq)
  | ok values =>
    rw [hq] at h
    dsimp only at h ⊢
    split_ifs at h ⊢
    · simp [errorBufferOverflow, noError] at h
    rcases hg : parseUint errno ((values .gid).getD []) with ⟨_ | gid, e⟩ <;> simp only [hg] at h ⊢
    · simp [errorInvalidParameter, noError] at h
    exact ⟨values, gid, rfl, rfl⟩

/-- The status of an LDAP user fetch, and the entry it returns on success, do not depend
on the working entry it fills. -/
theorem ldapFetchUser_work_irrel (lookup : IdmapLookup IdmapUser) (w w' : IdmapUser) :
    (ldapFetchUser client config errno lookup w now).1 =
        (ldapFetchUser client config errno lookup w' now).1 ∧
      ((ldapFetchUser client config errno lookup w now).1 = noError →
        (ldapFetchUser client config errno lookup w now).2 =
          (ldapFetchUser client config errno lookup w' now).2) := by
  unfold ldapFetchUser
  split
  next status hq => exact ⟨rfl, fun h => absurd h (idmapQueryAttrs_error_ne_zero hq)⟩
  next =>
    dsimp only
    split_ifs
    · exact ⟨rfl, fun h => absurd h (by decide : errorBufferOverflow ≠ noError)⟩
    · exact ⟨rfl, fun h => absurd h (by decide : errorBufferOverflow ≠ noError)⟩
    split
    · exact ⟨rfl, fun h => absurd h (by decide : errorInvalidParameter ≠ noError)⟩
    split
    · exact ⟨rfl, fun h => absurd h (by decide : errorInvalidParameter ≠ noError)⟩
    · exact ⟨rfl, fun _ => rfl⟩

theorem ldapFetchGroup_work_irrel (lookup : IdmapLookup IdmapGroup) (w w' : IdmapGroup) :
    (ldapFetchGroup client config errno lookup w now).1 =
        (ldapFetchGroup client config errno lookup w' now).1 ∧
      ((ldapFetchGroup client config errno lookup w now).1 = noError →
        (ldapFetchGroup client config errno lookup w now).2 =
          (ldapFetchGroup client config errno lookup w' now).2) := by
  unfold ldapFetchGroup
  split
  next status hq => exact ⟨rfl, fun h => absurd h (idmapQueryAttrs_error_ne_zero hq)⟩
  next =>
    dsimp only
    split_ifs
    · exact ⟨rfl, fun h => absurd h (by decide : errorBufferOverflow ≠ noError)⟩
    split
    · exact ⟨rfl, fun h => absurd h (by decide : errorInvalidParameter ≠ noError)⟩
    · exact ⟨rfl, fun _ => rfl⟩

end Fetch

end Nfs41Idmap
