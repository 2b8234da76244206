import Nfs41Idmap.Interface
import Nfs41Idmap.Config.Init

/-!
# `nfs41_idmap_create`: setting the mapper up

`nfs41_idmap_create` allocates a zeroed context, copies the local domain name into it with
`strcpy_s`, starts both caches empty and runs `config_init`. The LDAP build then connects
with `ldap_init` to the configured host and port and sets the protocol version, and the
time limit when `timeout` is not zero; the Cygwin build instead forces `timeout` to 6000.
Any failure frees the context and returns its status; only on success is the context
stored in `*context_out`. The second `context == NULL` test, after `strcpy_s`, can never
hold and is left out.

## Main definitions

* `LdapLibrary` — the calls into the LDAP library that `nfs41_idmap_create` makes
* `IdmapBuild` — what a build of the mapper is set up against
* `ldapConnect`, `nfs41IdmapCreate` — the LDAP part, and `nfs41_idmap_create`

## Main results

* `nfs41IdmapCreate_cases` — a context `nfs41_idmap_create` hands out holds the
  configuration `config_init` left without error and empty caches, so every session of the
  public functions on it starts where the runs of `Nfs41Idmap.Concurrent.Model` start
-/

namespace Nfs41Idmap

/-- `LDAP_SUCCESS` -/
def ldapSuccess : Nat := 0

/-- The options `nfs41_idmap_create` sets with `ldap_set_option`. -/
inductive LdapOption
  /-- `LDAP_OPT_PROTOCOL_VERSION` -/
  | protocolVersion
  /-- `LDAP_OPT_TIMELIMIT` -/
  | timeLimit
  deriving DecidableEq, Repr

/-- The LDAP library as `nfs41_idmap_create` calls it. -/
structure LdapLibrary where
  /-- `ldap_init(hostname, port)`: the connection, or after `NULL` the code
  `LdapGetLastError()` returns. -/
  init : List Char → UInt32 → Except Nat LdapClient
  /-- `ldap_set_option(ld, option, &value)`: `LDAP_SUCCESS` or an LDAP error code. -/
  setOption : LdapClient → LdapOption → UInt32 → Nat
  /-- `LdapMapErrorToWin32` -/
  mapError : Nat → Nat

/-- What a build of the mapper is set up against: the LDAP library, or in the Cygwin build
the local account database. -/
inductive IdmapBuild
  | ldap (lib : LdapLibrary)
  | cygwin (db : CygwinDb)

/-- The configuration in the context `calloc` returns: every field zero. -/
def IdmapConfig.zero : IdmapConfig :=
  ⟨[], [], 0, 0, 0, fun _ => [], fun _ => [], [], 0⟩

/-- The `#ifndef NFS41_DRIVER_FEATURE_IDMAPPER_CYGWIN` part of `nfs41_idmap_create`:
`ldap_init` with the configured host and port, then `ldap_set_option` of the protocol
version and, when `timeout` is not zero, of the time limit. The status, and the
connection when every call succeeded. -/
def ldapConnect (lib : LdapLibrary) (config : IdmapConfig) : Nat × Option LdapClient :=
  match lib.init config.hostname config.port with
  | .error status => (lib.mapError status, none)
  | .ok ld =>
    let status := lib.setOption ld .protocolVersion config.version
    if status ≠ ldapSuccess then (lib.mapError status, none)
    else if config.timeout ≠ 0 then
      let status := lib.setOption ld .timeLimit config.timeout
      if status ≠ ldapSuccess then (lib.mapError status, none) else (status, some ld)
    else (status, some ld)

/-- `nfs41_idmap_create(&context, localdomain_name)` with the configuration file's text
(`none` when it cannot be opened): the status, and the context with its backend when it
is stored in `*context_out`. `allocError` is `GetLastError()` when `calloc` fails. -/
def nfs41IdmapCreate (build : IdmapBuild) (hostnameLen errno : Nat) (allocError : Option Nat)
    (localdomainName : List Char) (file : Option (List Char)) :
    Nat × Option (IdmapContext × Backend) :=
  match allocError with
  | some status => (status, none)
  | none =>
    let config :=
      { IdmapConfig.zero with localdomainName := strcpyS (hostnameLen + 1) localdomainName }
    let r := configInit hostnameLen errno config file
    if r.1 ≠ noError then (r.1, none)
    else
      match build with
      | .ldap lib =>
        let c := ldapConnect lib r.2
        (c.1, c.2.map fun ld => (⟨r.2, [], []⟩, .ldap ld))
      | .cygwin db => (noError, some (⟨{ r.2 with timeout := 6000 }, [], []⟩, .cygwin db))

/-! ## What a created context holds -/

/-- Inversion of `nfs41_idmap_create`: a context it hands out holds the configuration
`config_init` left without error (with `timeout` forced in the Cygwin build) and empty
caches. -/
theorem nfs41IdmapCreate_cases {build : IdmapBuild} {hostnameLen errno : Nat}
    {allocError : Option Nat} {localdomainName : List Char} {file : Option (List Char)}
    {context : IdmapContext} {backend : Backend}
    (h : (nfs41IdmapCreate build hostnameLen errno allocError localdomainName file).2 =
      some (context, backend)) :
    ∃ cfg, configInit hostnameLen errno
        { IdmapConfig.zero with localdomainName := strcpyS (hostnameLen + 1) localdomainName }
        file = (noError, cfg) ∧
      (context.config = cfg ∨ context.config = { cfg with timeout := 6000 }) ∧
      context.users = [] ∧ context.groups = [] := by
  unfold nfs41IdmapCreate at h
  cases allocError with
  | some status => cases h
  | none =>
    dsimp only at h
    generalize configInit hostnameLen errno _ file = r at h ⊢
    obtain ⟨status, cfg⟩ := r
    by_cases hs : status = noError
    · subst hs
      simp only [ne_eq, not_true_eq_false, ↓reduceIte] at h
      refine ⟨cfg, rfl, ?_⟩
      cases build with
      | ldap lib =>
        obtain ⟨ld, -, hctx⟩ := Option.map_eq_some'.mp h
        cases hctx
        exact ⟨.inl rfl, rfl, rfl⟩
      | cygwin db =>
        cases h
        exact ⟨.inr rfl, rfl, rfl⟩
    · simp only [ne_eq, hs, not_false_eq_true, ↓reduceIte] at h
      cases h

end Nfs41Idmap
