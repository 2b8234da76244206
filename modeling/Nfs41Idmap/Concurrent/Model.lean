import Nfs41Idmap.Interface

/-!
# Concurrent calls on the two caches

The mapper serves many threads at once. Each cache is a list under an `SRWLOCK`:
`cache_lookup` searches it and copies the entry found under the shared lock, and
`cache_insert` searches it again and overwrites or prepends under the exclusive lock.
Between the two a thread runs the freshness test and asks the backend, holding no lock. A
call of `idmap_lookup_user` or `idmap_lookup_group` is therefore a few atomic steps of one
thread, and the steps of all threads interleave in any order.

`CacheStep` is one step of one thread on one cache. `MapperStep` lifts the steps of the user
cache and of the group cache, and lets the clock move between any two of them. The worlds
carry a ghost history of the calls that have returned, each with what it returned and the
instant its answer was decided, so a claim about every answer ever given is an invariant
of the reachable worlds.

The backend is a relation, `FetchRel`: what a query at a given instant, with a given key
and working entry, may answer. A query and the stamp it puts on its answer are one step,
as the fetch of `Nfs41Idmap.Interface` stamps with the time it is given. `codeFetchUser`
and `codeFetchGroup` are that fetch, against a backend that may change over time and
whatever the thread's `errno`.

`idmapLookup` is a run of these steps with no step of another thread in between:
`cacheStep_call` shows that the sequential model of `Nfs41Idmap.Lookup` is one run of the
concurrent one, and `Reachable.idmapLookupUser` and `Reachable.idmapLookupGroup` extend a
run of the mapper by a call of the interface.

## Main definitions

* `CallState`, `Call`, `CacheWorld` — a thread's place in a call, a returned call, and one
  cache with its threads and its history
* `CacheStep` — one atomic step of one thread on one cache
* `UserKey`, `GroupKey` — the keys of the six public functions
* `MapperWorld`, `MapperStep`, `Reachable` — the clock and both caches
* `codeFetchUser`, `codeFetchGroup` — the build's fetch as a backend relation
* `UserRecord`, `GroupRecord`, `IdmapUser.Holds`, `UserKey.Selects` — the backend's records,
  the record an entry holds, and the records a key selects

## Main results

* `cacheStep_call` — a call of `idmapLookup` at one instant is a run of `CacheStep`
* `UserKey.compare_eq_zero_iff` — a key's comparator finds an entry exactly when the key
  selects the record the entry holds
* `Reachable.idmapLookupUser`, `Reachable.idmapLookupGroup` — a reachable world followed by
  a call of `idmap_lookup_user` or `idmap_lookup_group` is reachable
* `cacheStep_check`, `cacheStep_query` — the steps of a call before and after its query
* `Reachable.userCallAt`, `Reachable.groupCallAt` — a call whose query comes later than its
  cache check, the clock moving on in between, extends a run of the mapper
* `mapperRun_caches_grow` — no run ever shrinks a cache
-/

namespace Nfs41Idmap

open Relation

/-! ## One cache and the threads on it -/

/-- Where a thread is in a call on one cache, with what its working entry holds. -/
inductive CallState (ε κ : Type)
  /-- In no call. -/
  | idle
  /-- Called with `key`; the working entry is the caller's, uninitialised. -/
  | started (key : κ) (work : ε)
  /-- `cache_lookup` returned `status`. -/
  | looked (key : κ) (status : Nat) (work : ε)
  /-- Nothing fresh was found: the backend is to be asked. -/
  | fetching (key : κ) (work : ε)
  /-- The backend answered at `time`, and the answer is to be inserted. -/
  | inserting (key : κ) (work : ε) (time : Nat)

/-- A returned call: its key, the status and the entry it returned, and the instant its
answer was decided, by the freshness test of a hit or by the query otherwise. -/
structure Call (ε κ : Type) where
  key : κ
  status : Nat
  entry : ε
  time : Nat

/-- One cache, the state of each thread's call on it, and the calls returned so far. -/
structure CacheWorld (ε κ : Type) where
  cache : List ε
  threads : Nat → CallState ε κ
  hist : List (Call ε κ)

namespace CacheWorld

variable {ε κ : Type}

/-- An empty cache with no call in flight and none returned, as `nfs41_idmap_create`
leaves it. -/
def init : CacheWorld ε κ := ⟨[], fun _ => .idle, []⟩

/-- Thread `tid` moves to `s`. -/
def move (w : CacheWorld ε κ) (tid : Nat) (s : CallState ε κ) : CacheWorld ε κ :=
  { w with threads := Function.update w.threads tid s }

/-- Thread `tid` returns from its call, `call`. -/
def finish (w : CacheWorld ε κ) (tid : Nat) (call : Call ε κ) : CacheWorld ε κ :=
  { w with threads := Function.update w.threads tid .idle, hist := w.hist ++ [call] }

variable {w : CacheWorld ε κ} {tid : Nat} {s s' : CallState ε κ} {call : Call ε κ}

@[simp] theorem move_cache : (w.move tid s).cache = w.cache := rfl

@[simp] theorem move_hist : (w.move tid s).hist = w.hist := rfl

@[simp] theorem move_threads_self : (w.move tid s).threads tid = s := Function.update_same _ _ _

@[simp] theorem move_move : (w.move tid s).move tid s' = w.move tid s' := by
  simp [move]

@[simp] theorem finish_cache : (w.finish tid call).cache = w.cache := rfl

@[simp] theorem finish_hist : (w.finish tid call).hist = w.hist ++ [call] := rfl

@[simp] theorem move_finish : (w.move tid s).finish tid call = w.finish tid call := by
  simp [move, finish]

/-- A thread that was idle before its call leaves only the call behind. -/
theorem finish_of_idle (h : w.threads tid = .idle) :
    w.finish tid call = { w with hist := w.hist ++ [call] } := by
  simp only [finish, ← h, Function.update_eq_self]

/-- A property of every thread's state survives a move to a state that has it. -/
theorem forall_move {P : CallState ε κ → Prop} (hw : ∀ t, P (w.threads t)) (hs : P s)
    (t : Nat) : P ((w.move tid s).threads t) := by
  simp only [move, Function.update_apply]
  split_ifs
  · exact hs
  · exact hw t

theorem forall_finish {P : CallState ε κ → Prop} (hw : ∀ t, P (w.threads t)) (hs : P .idle)
    (t : Nat) : P ((w.finish tid call).threads t) :=
  forall_move (s := .idle) hw hs t


end CacheWorld

/-- What tells the user cache from the group cache: its `cache_ops`, the stamp of an
entry, and the lookup each key builds. -/
structure CacheKind (ε κ : Type) where
  ops : CacheOps ε
  lastUpdated : ε → Nat
  lookup : κ → IdmapLookup ε

/-- What a query of the backend at an instant, with a key and a working entry, may
answer: a status, and the working entry after. -/
abbrev FetchRel (ε κ : Type) := Nat → κ → ε → Nat × ε → Prop

/-- The queries `Fetch` allows with a key that `P` admits: the backend of the runs in which
no query is made with another key. -/
def FetchRel.restrict {ε κ : Type} (Fetch : FetchRel ε κ) (P : κ → Prop) : FetchRel ε κ :=
  fun t key work r => P key ∧ Fetch t key work r

section Steps

variable {ε κ : Type} (kind : CacheKind ε κ) (cacheTtl : Int) (Fetch : FetchRel ε κ)

/-- One atomic step of one thread on one cache, at the instant `clock`. -/
inductive CacheStep (clock : Nat) : CacheWorld ε κ → CacheWorld ε κ → Prop
  /-- An idle thread calls with `key`, its working entry holding `work`. -/
  | start {w : CacheWorld ε κ} {tid : Nat} (key : κ) (work : ε) (h : w.threads tid = .idle) :
      CacheStep clock w (w.move tid (.started key work))
  /-- `cache_lookup`, under the shared lock. -/
  | lookup {w : CacheWorld ε κ} {tid : Nat} {key : κ} {work : ε}
      (h : w.threads tid = .started key work) :
      CacheStep clock w (w.move tid
        (.looked key (cacheLookup kind.ops (kind.lookup key) w.cache work).1
          (cacheLookup kind.ops (kind.lookup key) w.cache work).2))
  /-- The entry found is fresh: the call returns it. -/
  | hit {w : CacheWorld ε κ} {tid : Nat} {key : κ} {work : ε}
      (h : w.threads tid = .looked key noError work)
      (hfresh : isFresh cacheTtl clock (kind.lastUpdated work) = true) :
      CacheStep clock w (w.finish tid ⟨key, noError, work, clock⟩)
  /-- Nothing was found, or it is stale: the thread goes to the backend. -/
  | miss {w : CacheWorld ε κ} {tid : Nat} {key : κ} {status : Nat} {work : ε}
      (h : w.threads tid = .looked key status work)
      (hmiss : (decide (status = noError) && isFresh cacheTtl clock (kind.lastUpdated work)) =
        false) :
      CacheStep clock w (w.move tid (.fetching key work))
  /-- The query succeeds and caching is on: its answer is to be inserted. -/
  | fetched {w : CacheWorld ε κ} {tid : Nat} {key : κ} {work : ε} {r : Nat × ε}
      (h : w.threads tid = .fetching key work) (hr : Fetch clock key work r)
      (hok : r.1 = noError) (httl : cacheTtl ≠ 0) :
      CacheStep clock w (w.move tid (.inserting key r.2 clock))
  /-- The query fails, or caching is off: the call returns what the query left. -/
  | returned {w : CacheWorld ε κ} {tid : Nat} {key : κ} {work : ε} {r : Nat × ε}
      (h : w.threads tid = .fetching key work) (hr : Fetch clock key work r)
      (hret : ¬(r.1 = noError ∧ cacheTtl ≠ 0)) :
      CacheStep clock w (w.finish tid ⟨key, r.1, r.2, clock⟩)
  /-- `cache_insert`, under the exclusive lock; the call ignores its status. -/
  | insert {w : CacheWorld ε κ} {tid : Nat} {key : κ} {work : ε} {time : Nat}
      (allocError : Option Nat) (h : w.threads tid = .inserting key work time) :
      CacheStep clock w { w.finish tid ⟨key, noError, work, time⟩ with
        cache := (cacheInsert kind.ops (kind.lookup key) allocError work w.cache).2 }

variable {kind cacheTtl Fetch}

open CacheWorld in
/-- The opening steps of a call at `clock` by an idle thread: the call, `cache_lookup` under
the shared lock, and the freshness test. A fresh hit returns what the lookup copied;
otherwise the thread goes to the backend with it. -/
theorem cacheStep_check {clock : Nat} {w : CacheWorld ε κ} {tid : Nat}
    (hidle : w.threads tid = .idle) (key : κ) (work : ε) :
    let check := cacheCheck kind.ops kind.lastUpdated cacheTtl clock (kind.lookup key) w.cache work
    ReflTransGen (CacheStep kind cacheTtl Fetch clock) w
      (if check.1 then { w with hist := w.hist ++ [⟨key, noError, check.2, clock⟩] }
        else w.move tid (.fetching key check.2)) := by
  set l := cacheLookup kind.ops (kind.lookup key) w.cache work
  have hlooked : ReflTransGen (CacheStep kind cacheTtl Fetch clock) w
      (w.move tid (.looked key l.1 l.2)) := by
    refine .tail (.single (.start key work hidle)) ?_
    simpa using @CacheStep.lookup _ _ kind cacheTtl Fetch clock (w.move tid (.started key work))
      tid key work move_threads_self
  simp only [cacheCheck]
  split_ifs with hhit
  · simp only [Bool.and_eq_true, decide_eq_true_eq] at hhit
    have hstep := @CacheStep.hit _ _ kind cacheTtl Fetch clock
      (w.move tid (.looked key l.1 l.2)) tid key l.2 (by rw [move_threads_self, hhit.1]) hhit.2
    simpa [finish_of_idle hidle] using hlooked.tail hstep
  · simpa using hlooked.tail (CacheStep.miss move_threads_self (Bool.eq_false_iff.mpr hhit))

open CacheWorld in
/-- The closing steps of a call whose thread, idle before the call, went to the backend: the
query at `clock`, and `cache_insert` under the exclusive lock of a successful answer when
caching is on. -/
theorem cacheStep_query {clock : Nat} {w : CacheWorld ε κ} {tid : Nat}
    (hidle : w.threads tid = .idle) {key : κ} {fetch : ε → Nat × ε}
    (hfetch : ∀ work, Fetch clock key work (fetch work)) (allocError : Option Nat) (work : ε) :
    let r := fetch work
    ReflTransGen (CacheStep kind cacheTtl Fetch clock) (w.move tid (.fetching key work))
      (if r.1 = noError ∧ cacheTtl ≠ 0 then
        { w with cache := (cacheInsert kind.ops (kind.lookup key) allocError r.2 w.cache).2
                 hist := w.hist ++ [⟨key, r.1, r.2, clock⟩] }
      else { w with hist := w.hist ++ [⟨key, r.1, r.2, clock⟩] }) := by
  dsimp only
  split_ifs with hok
  · have hstep := @CacheStep.insert _ _ kind cacheTtl Fetch clock
      ((w.move tid (.fetching key work)).move tid (.inserting key (fetch work).2 clock)) tid key
      (fetch work).2 clock allocError move_threads_self
    simpa [hok.1, finish_of_idle hidle] using
      (ReflTransGen.single (CacheStep.fetched move_threads_self (hfetch work) hok.1 hok.2)).tail
        hstep
  · simpa [finish_of_idle hidle] using
      ReflTransGen.single (@CacheStep.returned _ _ kind cacheTtl Fetch clock
        (w.move tid (.fetching key work)) tid key work _ move_threads_self (hfetch work) hok)

/-- A call of `idmapLookup` at `clock`, by an idle thread and with a fetch the backend
relation allows, is a run of steps that ends with the cache the call leaves and the call
recorded with what it returned. -/
theorem cacheStep_call {clock : Nat} {w : CacheWorld ε κ} {tid : Nat}
    (hidle : w.threads tid = .idle) {key : κ} {fetch : ε → Nat × ε}
    (hfetch : ∀ work, Fetch clock key work (fetch work)) (allocError : Option Nat) (work : ε) :
    let r := idmapLookup kind.ops kind.lastUpdated cacheTtl fetch allocError clock
      (kind.lookup key) w.cache work
    ReflTransGen (CacheStep kind cacheTtl Fetch clock) w
      { w with cache := r.2.2, hist := w.hist ++ [⟨key, r.1, r.2.1, clock⟩] } := by
  have hcheck := @cacheStep_check _ _ kind cacheTtl Fetch clock w tid hidle key work
  have hquery := @cacheStep_query _ _ kind cacheTtl Fetch clock w tid hidle key fetch hfetch
    allocError (cacheCheck kind.ops kind.lastUpdated cacheTtl clock (kind.lookup key) w.cache work).2
  unfold idmapLookup
  dsimp only at hcheck hquery ⊢
  split_ifs at hcheck hquery ⊢
  · exact hcheck
  · exact hcheck
  all_goals simpa using hcheck.trans hquery

/-- A step of a thread never shortens the cache. -/
theorem CacheStep.length_le {clock : Nat} {w w' : CacheWorld ε κ}
    (h : CacheStep kind cacheTtl Fetch clock w w') : w.cache.length ≤ w'.cache.length := by
  cases h with
  | insert allocError h => exact length_le_cacheInsert
  | _ => exact le_rfl

end Steps

/-! ## The keys of the public interface -/

/-- The key of a user lookup: `nfs41_idmap_name_to_uid` and `nfs41_idmap_name_to_ids`
look up a name, `nfs41_idmap_principal_to_ids` a principal, `nfs41_idmap_uid_to_name` a
uid. -/
inductive UserKey
  | name (username : List Char)
  | principal (principal : List Char)
  | uid (uid : UInt32)
  deriving DecidableEq, Repr

/-- The lookup each user key builds. -/
def UserKey.lookup : UserKey → IdmapLookup IdmapUser
  | .name k => usernameLookup k
  | .principal k => principalLookup k
  | .uid k => uidLookup k

section KeyCompare

variable {k : List Char} {i : UInt32} {e : IdmapUser}

@[simp] theorem UserKey.name_compare :
    (UserKey.name k).lookup.compare e = 0 ↔ e.username.val = k :=
  fieldStrcmp_eq_zero

@[simp] theorem UserKey.principal_compare :
    (UserKey.principal k).lookup.compare e = 0 ↔ e.principal.val = k :=
  fieldStrcmp_eq_zero

@[simp] theorem UserKey.uid_compare : (UserKey.uid i).lookup.compare e = 0 ↔ e.uid = i :=
  idCmp_eq_zero

end KeyCompare

/-- The key of a group lookup: `nfs41_idmap_group_to_gid` looks up a name,
`nfs41_idmap_gid_to_group` a gid. -/
inductive GroupKey
  | name (name : List Char)
  | gid (gid : UInt32)
  deriving DecidableEq, Repr

/-- The lookup each group key builds. -/
def GroupKey.lookup : GroupKey → IdmapLookup IdmapGroup
  | .name k => groupLookup k
  | .gid k => gidLookup k

section KeyCompare

variable {k : List Char} {i : UInt32} {g : IdmapGroup}

@[simp] theorem GroupKey.name_compare :
    (GroupKey.name k).lookup.compare g = 0 ↔ g.name.val = k :=
  fieldStrcmp_eq_zero

@[simp] theorem GroupKey.gid_compare : (GroupKey.gid i).lookup.compare g = 0 ↔ g.gid = i :=
  idCmp_eq_zero

end KeyCompare

/-! ## The backend's records -/

/-- A user record of the backend: the name, the principal if the record has one, and the
ids. -/
structure UserRecord where
  username : List Char
  principal : Option (List Char)
  uid : UInt32
  gid : UInt32
  deriving DecidableEq, Repr

/-- A group record of the backend. -/
structure GroupRecord where
  name : List Char
  gid : UInt32
  deriving DecidableEq, Repr

/-- The entry holds the fields of the record. An absent principal is held as the empty
string, as `idmap_lookup_user` copies an optional attribute it did not get. -/
def IdmapUser.Holds (e : IdmapUser) (rec : UserRecord) : Prop :=
  e.username.val = rec.username ∧ e.principal.val = rec.principal.getD [] ∧ e.uid = rec.uid ∧
    e.gid = rec.gid

/-- The entry holds the fields of the record. -/
def IdmapGroup.Holds (e : IdmapGroup) (rec : GroupRecord) : Prop :=
  e.name.val = rec.name ∧ e.gid = rec.gid

/-- The record's attribute that the key looks up equals the key, an absent principal
counting as the empty string. -/
def UserKey.Selects : UserKey → UserRecord → Prop
  | .name k, rec => rec.username = k
  | .principal k, rec => rec.principal.getD [] = k
  | .uid k, rec => rec.uid = k

/-- The record's attribute that the key looks up equals the key. -/
def GroupKey.Selects : GroupKey → GroupRecord → Prop
  | .name k, rec => rec.name = k
  | .gid k, rec => rec.gid = k

/-- A key's comparator finds an entry exactly when the key selects the record the entry
holds. -/
theorem UserKey.compare_eq_zero_iff {key : UserKey} {e : IdmapUser} {rec : UserRecord}
    (h : e.Holds rec) : key.lookup.compare e = 0 ↔ key.Selects rec := by
  obtain ⟨hname, hprincipal, huid, -⟩ := h
  cases key <;> simp [UserKey.Selects, hname, hprincipal, huid]

theorem GroupKey.compare_eq_zero_iff {key : GroupKey} {e : IdmapGroup} {rec : GroupRecord}
    (h : e.Holds rec) : key.lookup.compare e = 0 ↔ key.Selects rec := by
  obtain ⟨hname, hgid⟩ := h
  cases key <;> simp [GroupKey.Selects, hname, hgid]

/-- Every answer the backend gives at `t` holds one of its records of that instant, which
the key selects. -/
def UserFetchExact (userDb : Nat → List UserRecord) (Fetch : FetchRel IdmapUser UserKey) : Prop :=
  ∀ t key work r, Fetch t key work r → r.1 = noError →
    ∃ rec ∈ userDb t, r.2.Holds rec ∧ key.Selects rec

/-- Every answer the backend gives at `t` holds one of its group records of that instant,
which the key selects. -/
def GroupFetchExact (groupDb : Nat → List GroupRecord) (Fetch : FetchRel IdmapGroup GroupKey) :
    Prop :=
  ∀ t key work r, Fetch t key work r → r.1 = noError →
    ∃ rec ∈ groupDb t, r.2.Holds rec ∧ key.Selects rec

/-- The user cache. -/
def userKind : CacheKind IdmapUser UserKey :=
  ⟨userCacheOps, IdmapUser.lastUpdated, UserKey.lookup⟩

/-- The group cache. -/
def groupKind : CacheKind IdmapGroup GroupKey :=
  ⟨groupCacheOps, IdmapGroup.lastUpdated, GroupKey.lookup⟩

/-- The fetch of `idmap_lookup_user` as a backend relation: its answer at `t` against the
backend of that instant, for any `errno` the thread holds. -/
def codeFetchUser (backend : Nat → Backend) (config : IdmapConfig) : FetchRel IdmapUser UserKey :=
  fun t key work r => ∃ errno, r = fetchUser (backend t) config errno key.lookup work t

/-- The fetch of `idmap_lookup_group` as a backend relation. -/
def codeFetchGroup (backend : Nat → Backend) (config : IdmapConfig) :
    FetchRel IdmapGroup GroupKey :=
  fun t key work r => ∃ errno, r = fetchGroup (backend t) config errno key.lookup work t

/-! ## The mapper -/

/-- The clock, and each cache with the threads on it. A thread's calls on the two caches
are kept apart, which only adds interleavings. -/
structure MapperWorld where
  clock : Nat
  users : CacheWorld IdmapUser UserKey
  groups : CacheWorld IdmapGroup GroupKey

/-- The mapper as `nfs41_idmap_create` leaves it, at some instant. -/
def MapperWorld.init (clock : Nat) : MapperWorld := ⟨clock, .init, .init⟩

section Mapper

variable (cacheTtl : Int) (FetchU : FetchRel IdmapUser UserKey)
  (FetchG : FetchRel IdmapGroup GroupKey)

/-- One step of the mapper: the clock moves, or one thread takes a step on one cache at
the time the clock shows. -/
inductive MapperStep : MapperWorld → MapperWorld → Prop
  | tick {w : MapperWorld} : MapperStep w { w with clock := w.clock + 1 }
  | user {w : MapperWorld} {u : CacheWorld IdmapUser UserKey}
      (h : CacheStep userKind cacheTtl FetchU w.clock w.users u) :
      MapperStep w { w with users := u }
  | group {w : MapperWorld} {g : CacheWorld IdmapGroup GroupKey}
      (h : CacheStep groupKind cacheTtl FetchG w.clock w.groups g) :
      MapperStep w { w with groups := g }

/-- The worlds some run of the mapper reaches. -/
inductive Reachable : MapperWorld → Prop
  | init (clock : Nat) : Reachable (MapperWorld.init clock)
  | tail {w w' : MapperWorld} (hw : Reachable w) (h : MapperStep cacheTtl FetchU FetchG w w') :
      Reachable w'

variable {cacheTtl FetchU FetchG} {w : MapperWorld}

/-- Steps of threads on the user cache at the world's instant are steps of the mapper. -/
theorem mapperRun_of_users {u : CacheWorld IdmapUser UserKey}
    (hrun : ReflTransGen (CacheStep userKind cacheTtl FetchU w.clock) w.users u) :
    ReflTransGen (MapperStep cacheTtl FetchU FetchG) w { w with users := u } := by
  induction hrun with
  | refl => exact .refl
  | tail _ hstep ih => exact ih.tail (.user hstep)

/-- Steps of threads on the group cache at the world's instant are steps of the mapper. -/
theorem mapperRun_of_groups {g : CacheWorld IdmapGroup GroupKey}
    (hrun : ReflTransGen (CacheStep groupKind cacheTtl FetchG w.clock) w.groups g) :
    ReflTransGen (MapperStep cacheTtl FetchU FetchG) w { w with groups := g } := by
  induction hrun with
  | refl => exact .refl
  | tail _ hstep ih => exact ih.tail (.group hstep)

/-- A run of the mapper from a reachable world reaches a reachable world. -/
theorem Reachable.run {w' : MapperWorld} (hw : Reachable cacheTtl FetchU FetchG w)
    (hrun : ReflTransGen (MapperStep cacheTtl FetchU FetchG) w w') :
    Reachable cacheTtl FetchU FetchG w' := by
  induction hrun with
  | refl => exact hw
  | tail _ hstep ih => exact ih.tail hstep

theorem Reachable.users_run {u : CacheWorld IdmapUser UserKey}
    (hw : Reachable cacheTtl FetchU FetchG w)
    (hrun : ReflTransGen (CacheStep userKind cacheTtl FetchU w.clock) w.users u) :
    Reachable cacheTtl FetchU FetchG { w with users := u } :=
  hw.run (mapperRun_of_users hrun)

theorem Reachable.groups_run {g : CacheWorld IdmapGroup GroupKey}
    (hw : Reachable cacheTtl FetchU FetchG w)
    (hrun : ReflTransGen (CacheStep groupKind cacheTtl FetchG w.clock) w.groups g) :
    Reachable cacheTtl FetchU FetchG { w with groups := g } :=
  hw.run (mapperRun_of_groups hrun)

/-- The clock moving on from a reachable world reaches a reachable world. -/
theorem Reachable.advance (hw : Reachable cacheTtl FetchU FetchG w) {clock : Nat}
    (hle : w.clock ≤ clock) : Reachable cacheTtl FetchU FetchG { w with clock := clock } := by
  obtain ⟨k, rfl⟩ := Nat.exists_eq_add_of_le hle
  induction k with
  | zero => exact hw
  | succ k ih => exact (ih (Nat.le_add_right _ _)).tail .tick

/-- A reachable world followed by a call on the user cache, run alone by an idle thread
with a fetch the backend allows, is reachable. -/
theorem Reachable.userCall (hw : Reachable cacheTtl FetchU FetchG w) (tid : Nat)
    (hidle : w.users.threads tid = .idle) (key : UserKey) (fetch : IdmapUser → Nat × IdmapUser)
    (hfetch : ∀ work, FetchU w.clock key work (fetch work)) (allocError : Option Nat)
    (work : IdmapUser) (r : Nat × IdmapUser × List IdmapUser)
    (hr : idmapLookup userCacheOps IdmapUser.lastUpdated cacheTtl fetch allocError w.clock
      key.lookup w.users.cache work = r) :
    Reachable cacheTtl FetchU FetchG
      { w with
        users := { w.users with
                   cache := r.2.2
                   hist := w.users.hist ++ [⟨key, r.1, r.2.1, w.clock⟩] } } := by
  subst hr
  exact hw.users_run (cacheStep_call hidle hfetch allocError work)

/-- A reachable world followed by a call of `idmap_lookup_user`, run alone by an idle
thread with the clock at the world's, is reachable: the user cache ends as the call leaves
it, and the call is recorded with what it returned. -/
theorem Reachable.idmapLookupUser {backend : Nat → Backend} {context : IdmapContext}
    (hw : Reachable context.config.cacheTtl (codeFetchUser backend context.config) FetchG w)
    (hcache : w.users.cache = context.users) (tid : Nat) (hidle : w.users.threads tid = .idle)
    (key : UserKey) (user : IdmapUser) (errno : Nat) (allocError : Option Nat) :
    let r := Nfs41Idmap.idmapLookupUser (backend w.clock) context
      ⟨w.clock, w.clock, errno, allocError⟩ key.lookup user
    Reachable context.config.cacheTtl (codeFetchUser backend context.config) FetchG
      { w with
        users := { w.users with
                   cache := r.2.2.users
                   hist := w.users.hist ++ [⟨key, r.1, r.2.1, w.clock⟩] } } := by
  exact hw.userCall tid hidle key _ (fun _ => ⟨errno, rfl⟩) allocError user _ (by rw [hcache])

theorem Reachable.idmapLookupUser_alice :
    let context : IdmapContext := ⟨IdmapConfig.defaults [], [], []⟩
    let backend : Nat → Backend := fun _ => .cygwin aliceAccounts
    let FetchG : FetchRel IdmapGroup GroupKey := fun _ _ _ _ => False
    let w0 := MapperWorld.init 0
    Reachable context.config.cacheTtl (codeFetchUser backend context.config) FetchG w0 ∧
      w0.users.cache = context.users ∧ w0.users.threads 0 = .idle ∧
      let r := Nfs41Idmap.idmapLookupUser (backend 0) context ⟨0, 0, 0, none⟩
        (UserKey.name "alice".toList).lookup .zero
      Reachable context.config.cacheTtl (codeFetchUser backend context.config) FetchG
        { w0 with
          users := { w0.users with
                     cache := r.2.2.users
                     hist := w0.users.hist ++ [⟨.name "alice".toList, r.1, r.2.1, 0⟩] } } := by
  intro context backend FetchG w0
  exact ⟨.init 0, rfl, rfl, Reachable.idmapLookupUser (.init 0) rfl 0 rfl _ _ 0 none⟩

/-- A reachable world followed by a call on the group cache, run alone by an idle thread
with a fetch the backend allows, is reachable. -/
theorem Reachable.groupCall (hw : Reachable cacheTtl FetchU FetchG w) (tid : Nat)
    (hidle : w.groups.threads tid = .idle) (key : GroupKey)
    (fetch : IdmapGroup → Nat × IdmapGroup) (hfetch : ∀ work, FetchG w.clock key work (fetch work))
    (allocError : Option Nat) (work : IdmapGroup) (r : Nat × IdmapGroup × List IdmapGroup)
    (hr : idmapLookup groupCacheOps IdmapGroup.lastUpdated cacheTtl fetch allocError w.clock
      key.lookup w.groups.cache work = r) :
    Reachable cacheTtl FetchU FetchG
      { w with
        groups := { w.groups with
                    cache := r.2.2
                    hist := w.groups.hist ++ [⟨key, r.1, r.2.1, w.clock⟩] } } := by
  subst hr
  exact hw.groups_run (cacheStep_call hidle hfetch allocError work)

/-- A reachable world followed by a call of `idmap_lookup_group` is reachable. -/
theorem Reachable.idmapLookupGroup {backend : Nat → Backend} {context : IdmapContext}
    (hw : Reachable context.config.cacheTtl FetchU (codeFetchGroup backend context.config) w)
    (hcache : w.groups.cache = context.groups) (tid : Nat)
    (hidle : w.groups.threads tid = .idle) (key : GroupKey) (group : IdmapGroup) (errno : Nat)
    (allocError : Option Nat) :
    let r := Nfs41Idmap.idmapLookupGroup (backend w.clock) context
      ⟨w.clock, w.clock, errno, allocError⟩ key.lookup group
    Reachable context.config.cacheTtl FetchU (codeFetchGroup backend context.config)
      { w with
        groups := { w.groups with
                    cache := r.2.2.groups
                    hist := w.groups.hist ++ [⟨key, r.1, r.2.1, w.clock⟩] } } := by
  exact hw.groupCall tid hidle key _ (fun _ => ⟨errno, rfl⟩) allocError group _ (by rw [hcache])

/-- A reachable world followed by a call on the user cache by an idle thread, whose cache
check runs at the world's instant and whose query, should it make one, at the later instant
`stamp`, reaches a reachable world at `stamp`: the user cache ends as the call leaves it,
and the call is recorded with what it returned, at the instant its answer was decided. -/
theorem Reachable.userCallAt (hw : Reachable cacheTtl FetchU FetchG w) (tid : Nat)
    (hidle : w.users.threads tid = .idle) (key : UserKey) (fetch : IdmapUser → Nat × IdmapUser)
    {stamp : Nat} (hle : w.clock ≤ stamp) (hfetch : ∀ work, FetchU stamp key work (fetch work))
    (allocError : Option Nat) (work : IdmapUser) :
    let r := idmapLookup userCacheOps IdmapUser.lastUpdated cacheTtl fetch allocError w.clock
      key.lookup w.users.cache work
    ∃ time, w.clock ≤ time ∧ time ≤ stamp ∧ Reachable cacheTtl FetchU FetchG
      { w with
        clock := stamp
        users := { w.users with
                   cache := r.2.2
                   hist := w.users.hist ++ [⟨key, r.1, r.2.1, time⟩] } } := by
  have hcheck := hw.users_run (@cacheStep_check _ _ userKind cacheTtl FetchU w.clock w.users tid
    hidle key work)
  unfold idmapLookup
  dsimp only [userKind] at hcheck ⊢
  by_cases hhit : (cacheCheck userCacheOps IdmapUser.lastUpdated cacheTtl w.clock key.lookup
    w.users.cache work).1 = true
  · rw [if_pos hhit] at hcheck ⊢
    exact ⟨w.clock, le_rfl, hle, hcheck.advance hle⟩
  · rw [if_neg hhit] at hcheck ⊢
    -- the clock moves on while the thread is at the backend
    have hquery := (hcheck.advance hle).users_run (@cacheStep_query _ _ userKind cacheTtl FetchU
      stamp w.users tid hidle key fetch hfetch allocError
      (cacheCheck userCacheOps IdmapUser.lastUpdated cacheTtl w.clock key.lookup w.users.cache
        work).2)
    dsimp only [userKind] at hquery ⊢
    refine ⟨stamp, hle, le_rfl, ?_⟩
    split_ifs at hquery ⊢ <;> exact hquery

/-- A reachable world followed by a call on the group cache by an idle thread, checked at
the world's instant and querying at `stamp`, reaches a reachable world at `stamp`. -/
theorem Reachable.groupCallAt (hw : Reachable cacheTtl FetchU FetchG w) (tid : Nat)
    (hidle : w.groups.threads tid = .idle) (key : GroupKey)
    (fetch : IdmapGroup → Nat × IdmapGroup) {stamp : Nat} (hle : w.clock ≤ stamp)
    (hfetch : ∀ work, FetchG stamp key work (fetch work)) (allocError : Option Nat)
    (work : IdmapGroup) :
    let r := idmapLookup groupCacheOps IdmapGroup.lastUpdated cacheTtl fetch allocError w.clock
      key.lookup w.groups.cache work
    ∃ time, w.clock ≤ time ∧ time ≤ stamp ∧ Reachable cacheTtl FetchU FetchG
      { w with
        clock := stamp
        groups := { w.groups with
                    cache := r.2.2
                    hist := w.groups.hist ++ [⟨key, r.1, r.2.1, time⟩] } } := by
  have hcheck := hw.groups_run (@cacheStep_check _ _ groupKind cacheTtl FetchG w.clock w.groups
    tid hidle key work)
  unfold idmapLookup
  dsimp only [groupKind] at hcheck ⊢
  by_cases hhit : (cacheCheck groupCacheOps IdmapGroup.lastUpdated cacheTtl w.clock key.lookup
    w.groups.cache work).1 = true
  · rw [if_pos hhit] at hcheck ⊢
    exact ⟨w.clock, le_rfl, hle, hcheck.advance hle⟩
  · rw [if_neg hhit] at hcheck ⊢
    have hquery := (hcheck.advance hle).groups_run (@cacheStep_query _ _ groupKind cacheTtl FetchG
      stamp w.groups tid hidle key fetch hfetch allocError
      (cacheCheck groupCacheOps IdmapGroup.lastUpdated cacheTtl w.clock key.lookup w.groups.cache
        work).2)
    dsimp only [groupKind] at hquery ⊢
    refine ⟨stamp, hle, le_rfl, ?_⟩
    split_ifs at hquery ⊢ <;> exact hquery

/-- Along every run of the mapper neither cache ever shrinks: nothing is evicted, so each
cache keeps an entry for every key ever inserted that no later insert overwrote. -/
theorem mapperRun_caches_grow {w' : MapperWorld}
    (h : ReflTransGen (MapperStep cacheTtl FetchU FetchG) w w') :
    w.users.cache.length ≤ w'.users.cache.length ∧
      w.groups.cache.length ≤ w'.groups.cache.length := by
  induction h with
  | refl => exact ⟨le_rfl, le_rfl⟩
  | tail _ hstep ih =>
    cases hstep with
    | tick => exact ih
    | user h => exact ⟨ih.1.trans h.length_le, ih.2⟩
    | group h => exact ⟨ih.1, ih.2.trans h.length_le⟩

theorem mapperRun_caches_grow_alice :
    let config := IdmapConfig.defaults []
    let FetchU := codeFetchUser (fun _ => .cygwin aliceAccounts) config
    let FetchG := codeFetchGroup (fun _ => .cygwin aliceAccounts) config
    let key := UserKey.name "alice".toList
    let r := idmapLookup userCacheOps IdmapUser.lastUpdated config.cacheTtl
      (fun work => fetchUser (.cygwin aliceAccounts) config 0 key.lookup work 0) none 0 key.lookup
      [] .zero
    let w' : MapperWorld :=
      { MapperWorld.init 0 with users := ⟨r.2.2, fun _ => .idle, [⟨key, r.1, r.2.1, 0⟩]⟩ }
    ReflTransGen (MapperStep config.cacheTtl FetchU FetchG) (MapperWorld.init 0) w' ∧
      w'.users.cache.length = 1 ∧
      ((MapperWorld.init 0).users.cache.length ≤ w'.users.cache.length ∧
        (MapperWorld.init 0).groups.cache.length ≤ w'.groups.cache.length) := by
  intro config FetchU FetchG key r w'
  have hrun : ReflTransGen (MapperStep config.cacheTtl FetchU FetchG) (MapperWorld.init 0) w' :=
    mapperRun_of_users (@cacheStep_call _ _ userKind config.cacheTtl FetchU 0 .init 0 rfl key _
      (fun _ => ⟨0, rfl⟩) none .zero)
  exact ⟨hrun, by decide, mapperRun_caches_grow hrun⟩

end Mapper

end Nfs41Idmap
