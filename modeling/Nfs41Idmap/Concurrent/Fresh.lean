import Nfs41Idmap.Concurrent.Model

/-!
# Every answer holds a recent record of its key

A call that succeeds returns either the copy of a cache entry that passed the freshness
test, or the entry its own query fetched. Entries reach the cache only through
`cache_insert` of a fetched answer, `cache_lookup` copies every field of the entry it finds,
and a thread's working entry is its own. So over any interleaving every successful call
returns the fields of a record the backend held at the instant of some query: one within
`cache_ttl` of the call's freshness test for a hit, the call's own query otherwise. The key
selects that record, since the comparator that found the entry reads the field the key
looks up.

The one gap is the principal. `idmap_lookup_user` caches a user who has no principal with
an empty principal, so a principal lookup with the empty key finds that entry, and the
record it returns has no principal at all. Counting an absent principal as the empty
string, the law holds for every key.

The backend here is any relation that answers exactly; `Nfs41Idmap.Concurrent.Backends`
derives that of each build's fetch, for the keys it can answer, from what the directory or
the account database holds.

## Main definitions

* `FreshInv` — the invariant of one cache: every entry holds a record of its stamp's
  instant, every thread knows the entry it carries, and every returned call was fresh
* `FetchStamps` — the backend stamps its answers with the instant of the query

## Main results

* `FreshInv.step`, `FreshInv.mono` — a step of a thread, or of the clock, keeps it
* `codeFetchUser_stamps`, `codeFetchGroup_stamps` — the build's fetch stamps its answers
* `reachable_answers_recent_records` — against an exact backend, every successful call in a
  reachable world returned a record of a recent instant that its key selects
-/

namespace Nfs41Idmap

section Generic

variable {ε κ : Type} (kind : CacheKind ε κ) (cacheTtl : Int) (Holds : Nat → ε → Prop)

/-- The backend stamps every answer it gives with the instant of its query. -/
def FetchStamps (Fetch : FetchRel ε κ) : Prop :=
  ∀ t key work r, Fetch t key work r → r.1 = noError → kind.lastUpdated r.2 = t

/-- Every answer the backend gives at `t` holds a record of that instant, and the key's
comparator finds it. -/
def FetchExact (Fetch : FetchRel ε κ) : Prop :=
  ∀ t key work r, Fetch t key work r → r.1 = noError →
    Holds t r.2 ∧ (kind.lookup key).compare r.2 = 0

/-- What a thread knows of the entry it carries. -/
def ThreadFresh (clock : Nat) : CallState ε κ → Prop
  | .looked key status work => status = noError →
      kind.lastUpdated work ≤ clock ∧ Holds (kind.lastUpdated work) work ∧
        (kind.lookup key).compare work = 0
  | .inserting key work time => time ≤ clock ∧ kind.lastUpdated work = time ∧
      Holds time work ∧ (kind.lookup key).compare work = 0
  | _ => True

/-- A returned call that succeeded returned an entry that holds a record of an instant
within `cache_ttl` of the call's decision, or of the decision itself, and that the key's
comparator finds. -/
def CallFresh (call : Call ε κ) : Prop :=
  call.status = noError → ∃ t0 ≤ call.time,
    ((call.time : Int) - t0 < cacheTtl ∨ t0 = call.time) ∧ Holds t0 call.entry ∧
      (kind.lookup call.key).compare call.entry = 0

/-- The invariant of one cache while the clock shows `clock`. -/
structure FreshInv (clock : Nat) (w : CacheWorld ε κ) : Prop where
  /-- Every entry holds a record of the instant of its stamp, which is past. -/
  cache : ∀ e ∈ w.cache, kind.lastUpdated e ≤ clock ∧ Holds (kind.lastUpdated e) e
  /-- Every thread knows the entry it carries. -/
  threads : ∀ tid, ThreadFresh kind Holds clock (w.threads tid)
  /-- Every returned call was fresh. -/
  hist : ∀ call ∈ w.hist, CallFresh kind cacheTtl Holds call

variable {kind cacheTtl Holds} {Fetch : FetchRel ε κ} {clock : Nat} {w w' : CacheWorld ε κ}

theorem freshInv_init (clock : Nat) : FreshInv kind cacheTtl Holds clock .init :=
  ⟨fun _ h => absurd h (List.not_mem_nil _), fun _ => trivial,
    fun _ h => absurd h (List.not_mem_nil _)⟩

theorem ThreadFresh.mono {s : CallState ε κ} {clock' : Nat}
    (hs : ThreadFresh kind Holds clock s) (hle : clock ≤ clock') :
    ThreadFresh kind Holds clock' s := by
  cases s with
  | looked key status work => exact fun h => ⟨(hs h).1.trans hle, (hs h).2⟩
  | inserting key work time => exact ⟨hs.1.trans hle, hs.2⟩
  | idle | started | fetching => trivial

/-- The clock moving on keeps the invariant. -/
theorem FreshInv.mono {clock' : Nat} (hw : FreshInv kind cacheTtl Holds clock w)
    (hle : clock ≤ clock') : FreshInv kind cacheTtl Holds clock' w :=
  ⟨fun e he => ⟨(hw.cache e he).1.trans hle, (hw.cache e he).2⟩,
    fun tid => (hw.threads tid).mono hle, hw.hist⟩

/-- One step of one thread keeps the invariant. -/
theorem FreshInv.step (hstamps : FetchStamps kind Fetch) (hexact : FetchExact kind Holds Fetch)
    (hw : FreshInv kind cacheTtl Holds clock w)
    (hstep : CacheStep kind cacheTtl Fetch clock w w') : FreshInv kind cacheTtl Holds clock w' := by
  cases hstep with
  | start key work h => exact ⟨hw.cache, CacheWorld.forall_move hw.threads trivial, hw.hist⟩
  | lookup h =>
    refine ⟨hw.cache, CacheWorld.forall_move hw.threads fun hok => ?_, hw.hist⟩
    obtain ⟨hmem, hcmp⟩ := cacheLookup_of_ok hok
    exact ⟨(hw.cache _ hmem).1, (hw.cache _ hmem).2, hcmp⟩
  | @hit tid key work h hfresh =>
    have ht := hw.threads tid
    rw [h] at ht
    obtain ⟨hle, hholds, hcmp⟩ := ht rfl
    have hage : (clock : Int) - kind.lastUpdated work < cacheTtl := by
      simpa [isFresh] using hfresh
    exact ⟨hw.cache, CacheWorld.forall_finish hw.threads trivial,
      List.forall_mem_append.mpr ⟨hw.hist, List.forall_mem_singleton.mpr fun _ =>
        ⟨_, hle, .inl hage, hholds, hcmp⟩⟩⟩
  | miss h hmiss => exact ⟨hw.cache, CacheWorld.forall_move hw.threads trivial, hw.hist⟩
  | fetched h hr hok httl =>
    exact ⟨hw.cache, CacheWorld.forall_move hw.threads
      ⟨le_rfl, hstamps _ _ _ _ hr hok, hexact _ _ _ _ hr hok⟩, hw.hist⟩
  | returned h hr hret =>
    exact ⟨hw.cache, CacheWorld.forall_finish hw.threads trivial,
      List.forall_mem_append.mpr ⟨hw.hist, List.forall_mem_singleton.mpr fun hok =>
        ⟨_, le_rfl, .inr rfl, hexact _ _ _ _ hr hok⟩⟩⟩
  | @insert tid key work time allocError h =>
    have ht := hw.threads tid
    rw [h] at ht
    obtain ⟨hle, hstamp, hholds, hcmp⟩ := ht
    refine ⟨fun e he => ?_, CacheWorld.forall_move (s := .idle) hw.threads trivial,
      List.forall_mem_append.mpr ⟨hw.hist, List.forall_mem_singleton.mpr fun _ =>
        ⟨_, le_rfl, .inr rfl, hholds, hcmp⟩⟩⟩
    rcases mem_cacheInsert he with rfl | he
    · exact ⟨hstamp ▸ hle, hstamp ▸ hholds⟩
    · exact hw.cache e he

end Generic

/-! ## The mapper -/

section Mapper

variable {cacheTtl : Int} {FetchU : FetchRel IdmapUser UserKey}
  {FetchG : FetchRel IdmapGroup GroupKey} {w : MapperWorld}

/-- In every reachable world both caches keep the invariant at the instant the clock
shows. -/
theorem freshInv_reachable {HoldsU : Nat → IdmapUser → Prop}
    {HoldsG : Nat → IdmapGroup → Prop}
    (hstampU : FetchStamps userKind FetchU) (hexactU : FetchExact userKind HoldsU FetchU)
    (hstampG : FetchStamps groupKind FetchG) (hexactG : FetchExact groupKind HoldsG FetchG)
    (hw : Reachable cacheTtl FetchU FetchG w) :
    FreshInv userKind cacheTtl HoldsU w.clock w.users ∧
      FreshInv groupKind cacheTtl HoldsG w.clock w.groups := by
  induction hw with
  | init clock => exact ⟨freshInv_init clock, freshInv_init clock⟩
  | tail _ hstep ih =>
    cases hstep with
    | tick => exact ⟨ih.1.mono (Nat.le_succ _), ih.2.mono (Nat.le_succ _)⟩
    | user h => exact ⟨ih.1.step hstampU hexactU h, ih.2⟩
    | group h => exact ⟨ih.1, ih.2.step hstampG hexactG h⟩

theorem UserFetchExact.fetchExact {userDb : Nat → List UserRecord}
    (h : UserFetchExact userDb FetchU) :
    FetchExact userKind (fun t e => ∃ rec ∈ userDb t, e.Holds rec) FetchU := by
  intro t key work r hr hok
  obtain ⟨rec, hmem, hholds, hsel⟩ := h t key work r hr hok
  exact ⟨⟨rec, hmem, hholds⟩, (UserKey.compare_eq_zero_iff hholds).mpr hsel⟩

theorem GroupFetchExact.fetchExact {groupDb : Nat → List GroupRecord}
    (h : GroupFetchExact groupDb FetchG) :
    FetchExact groupKind (fun t e => ∃ rec ∈ groupDb t, e.Holds rec) FetchG := by
  intro t key work r hr hok
  obtain ⟨rec, hmem, hholds, hsel⟩ := h t key work r hr hok
  exact ⟨⟨rec, hmem, hholds⟩, (GroupKey.compare_eq_zero_iff hholds).mpr hsel⟩

/-- The fetch of `idmap_lookup_user` stamps its answers with the instant of its query, in
both builds and against every backend. -/
theorem codeFetchUser_stamps (backend : Nat → Backend) (config : IdmapConfig) :
    FetchStamps userKind (codeFetchUser backend config) := by
  rintro t key work r ⟨errno, rfl⟩ hok
  exact fetchUser_stamp hok

/-- The fetch of `idmap_lookup_group` stamps its answers with the instant of its query. -/
theorem codeFetchGroup_stamps (backend : Nat → Backend) (config : IdmapConfig) :
    FetchStamps groupKind (codeFetchGroup backend config) := by
  rintro t key work r ⟨errno, rfl⟩ hok
  exact fetchGroup_stamp hok

/-- A backend restricted to some keys still stamps its answers. -/
theorem FetchStamps.restrict {ε κ : Type} {kind : CacheKind ε κ} {Fetch : FetchRel ε κ}
    (h : FetchStamps kind Fetch) (P : κ → Prop) : FetchStamps kind (Fetch.restrict P) :=
  fun t key work r hr => h t key work r hr.2

/-- Against a backend whose contents may change but whose every answer is a record of the
instant of the query, stamped with it, every successful call of every run returned the
fields of a record the backend held at an instant within `cache_ttl` of the call's
decision, or at the decision itself, and the call's key selects that record: its
looked-up attribute equals the key, an absent principal counting as the empty string. -/
theorem reachable_answers_recent_records {userDb : Nat → List UserRecord}
    {groupDb : Nat → List GroupRecord}
    (hstampU : FetchStamps userKind FetchU) (hexactU : UserFetchExact userDb FetchU)
    (hstampG : FetchStamps groupKind FetchG) (hexactG : GroupFetchExact groupDb FetchG)
    (hw : Reachable cacheTtl FetchU FetchG w) :
    (∀ call ∈ w.users.hist, call.status = noError → ∃ t0 ≤ call.time,
      ((call.time : Int) - t0 < cacheTtl ∨ t0 = call.time) ∧
        ∃ rec ∈ userDb t0, call.entry.Holds rec ∧ call.key.Selects rec) ∧
    (∀ call ∈ w.groups.hist, call.status = noError → ∃ t0 ≤ call.time,
      ((call.time : Int) - t0 < cacheTtl ∨ t0 = call.time) ∧
        ∃ rec ∈ groupDb t0, call.entry.Holds rec ∧ call.key.Selects rec) := by
  obtain ⟨hu, hg⟩ := freshInv_reachable hstampU hexactU.fetchExact hstampG hexactG.fetchExact hw
  refine ⟨fun call hcall hok => ?_, fun call hcall hok => ?_⟩
  · obtain ⟨t0, hle, htime, ⟨rec, hmem, hholds⟩, hcmp⟩ := hu.hist call hcall hok
    exact ⟨t0, hle, htime, rec, hmem, hholds, (UserKey.compare_eq_zero_iff hholds).mp hcmp⟩
  · obtain ⟨t0, hle, htime, ⟨rec, hmem, hholds⟩, hcmp⟩ := hg.hist call hcall hok
    exact ⟨t0, hle, htime, rec, hmem, hholds, (GroupKey.compare_eq_zero_iff hholds).mp hcmp⟩

end Mapper

end Nfs41Idmap
