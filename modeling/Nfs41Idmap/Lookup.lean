import Nfs41Idmap.Cache

/-!
# The cache in front of the backend: the body of `idmap_lookup_user` and `idmap_lookup_group`

Both functions have one shape. They look the key up in their cache, and return a hit whose
age is below `cache_ttl` as it is. Otherwise they fetch from the backend into the same
working entry, a stale hit's copy included, and on success, when caching is on, hand the
result to `cache_insert`, whose status they ignore.

`idmapLookup` is that shape over the fetch the build supplies (`Nfs41Idmap.Ldap.Query`,
`Nfs41Idmap.Cygwin`). The clock is read twice: by the freshness test, `now`, and by the
fetch when it stamps its answer.

`cache_ttl` is the `INT` field that `config_load` fills through a `UINT *`, so a configured
value from `2^31` on is negative once stored, and the freshness test then holds for no
entry: such a mapper queries the backend on every call, and still inserts every answer.

## Main definitions

* `isFresh` — the freshness test
* `cacheCheck` — the cache check that opens both functions
* `idmapLookup` — their common body

## Main results

* `idmapLookup_cache_of_error` — a call that fails leaves the cache as it was
* `idmapLookup_second_call_hits` — after a call that fetched an entry its own lookup
  matches, the same lookup within `cache_ttl` is answered from the cache, whatever the
  backend would answer
* `cacheTtl_high_never_fresh` — from `2^31` on no entry is fresh, however young
-/

namespace Nfs41Idmap

/-- `UTIL_DIFFRELTIME(UTIL_GETRELTIME(), entry->last_updated) < context->config.cache_ttl`,
with `now` the time read.

Modelled from the spec: `UTIL_GETRELTIME` and `UTIL_DIFFRELTIME` come from `util.h`, which
is not among the sources, so the test is the one the spec states, `now - lastUpdated <
cache_ttl`, with the clock a count of seconds and the difference taken in the integers. -/
def isFresh (cacheTtl : Int) (now lastUpdated : Nat) : Bool :=
  decide ((now : Int) - lastUpdated < cacheTtl)

section Generic

variable {ε : Type} (ops : CacheOps ε) (lastUpdated : ε → Nat) (cacheTtl : Int)

/-- The cache check that opens `idmap_lookup_user` and `idmap_lookup_group`:
`cache_lookup` into the working entry `work`, and whether it found an entry fresh enough
to return. -/
def cacheCheck (now : Nat) (lookup : IdmapLookup ε) (cache : List ε) (work : ε) : Bool × ε :=
  let r := cacheLookup ops lookup cache work
  (r.1 = noError && isFresh cacheTtl now (lastUpdated r.2), r.2)

/-- The common body of `idmap_lookup_user` and `idmap_lookup_group`: the status, the
working entry, and the cache after the call. `fetch` is the build's query of the backend
into the working entry, stamped when it succeeds; `allocError` is the outcome of
`entry_alloc`, should the insert need it. -/
def idmapLookup (fetch : ε → Nat × ε) (allocError : Option Nat) (now : Nat)
    (lookup : IdmapLookup ε) (cache : List ε) (work : ε) : Nat × ε × List ε :=
  let check := cacheCheck ops lastUpdated cacheTtl now lookup cache work
  if check.1 then (noError, check.2, cache)
  else
    let r := fetch check.2
    if r.1 = noError ∧ cacheTtl ≠ 0 then (r.1, r.2, (cacheInsert ops lookup allocError r.2 cache).2)
    else (r.1, r.2, cache)

variable {ops lastUpdated cacheTtl} {fetch : ε → Nat × ε} {allocError : Option Nat} {now : Nat}
  {lookup : IdmapLookup ε} {cache : List ε} {work : ε}

/-- A call that fails leaves its cache as it was: nothing is inserted before the fetch
has succeeded, and the working entry the fetch overwrote is not in the cache. -/
theorem idmapLookup_cache_of_error
    (h : (idmapLookup ops lastUpdated cacheTtl fetch allocError now lookup cache work).1 ≠ noError) :
    (idmapLookup ops lastUpdated cacheTtl fetch allocError now lookup cache work).2.2 = cache := by
  unfold idmapLookup at h ⊢
  dsimp only at h ⊢
  split_ifs at h ⊢ with hcheck hok
  · exact absurd rfl h
  · exact absurd hok.1 h
  · rfl

/-- A call whose cache check fails returns the status and the entry of its fetch. -/
theorem idmapLookup_of_query (fetch : ε → Nat × ε) (allocError : Option Nat)
    (hquery : (cacheCheck ops lastUpdated cacheTtl now lookup cache work).1 = false) :
    let r := fetch (cacheCheck ops lastUpdated cacheTtl now lookup cache work).2
    (idmapLookup ops lastUpdated cacheTtl fetch allocError now lookup cache work).1 = r.1 ∧
      (idmapLookup ops lastUpdated cacheTtl fetch allocError now lookup cache work).2.1 = r.2 := by
  unfold idmapLookup
  rw [if_neg (by simp [hquery])]
  dsimp only
  split_ifs <;> exact ⟨rfl, rfl⟩

/-- A cache check on a cache whose search finds `e`, fresh at `now`, returns `e`. -/
theorem cacheCheck_of_search {e : ε} (hsearch : listSearch lookup.compare cache = some e)
    (hfresh : ((now : Int) - lastUpdated e) < cacheTtl) :
    cacheCheck ops lastUpdated cacheTtl now lookup cache work = (true, e) := by
  simp [cacheCheck, cacheLookup_of_search_some hsearch, isFresh, hfresh]

/-- After a call that queried the backend and fetched an entry its own lookup matches,
with caching on and an allocation that does not fail, a second call with the same lookup,
at a time when the entry is still fresh, is answered from the cache: it returns the same
entry and leaves the cache alone, whatever backend, working entry and allocation it meets. -/
theorem idmapLookup_second_call_hits {e : ε} {cache' : List ε}
    (hquery : (cacheCheck ops lastUpdated cacheTtl now lookup cache work).1 = false)
    (hfirst : idmapLookup ops lastUpdated cacheTtl fetch none now lookup cache work =
      (noError, e, cache'))
    (hmatch : lookup.compare e = 0) (httl : 0 < cacheTtl) {now' : Nat}
    (hfresh : ((now' : Int) - lastUpdated e) < cacheTtl)
    (fetch' : ε → Nat × ε) (allocError' : Option Nat) (work' : ε) :
    idmapLookup ops lastUpdated cacheTtl fetch' allocError' now' lookup cache' work' =
      (noError, e, cache') := by
  have hinsert : cache' = (cacheInsert ops lookup none e cache).2 := by
    unfold idmapLookup at hfirst
    rw [if_neg (by simp [hquery])] at hfirst
    dsimp only at hfirst
    split_ifs at hfirst with hok <;> simp only [Prod.mk.injEq] at hfirst
    · obtain ⟨-, rfl, rfl⟩ := hfirst
      rfl
    · exact absurd ⟨hfirst.1, httl.ne'⟩ hok
  subst hinsert
  unfold idmapLookup
  rw [cacheCheck_of_search (listSearch_cacheInsert hmatch) hfresh, if_pos rfl]

/-- With a `cache_ttl` of zero or less, no entry stamped at or before `now` is fresh: the
cache check never hits. -/
theorem cacheCheck_of_ttl_nonpos (httl : cacheTtl ≤ 0)
    (hstamps : ∀ e ∈ cache, lastUpdated e ≤ now) :
    (cacheCheck ops lastUpdated cacheTtl now lookup cache work).1 = false := by
  by_cases hok : (cacheLookup ops lookup cache work).1 = noError
  · have hle := hstamps _ (cacheLookup_of_ok hok).1
    simp only [cacheCheck, isFresh, Bool.and_eq_false_iff, decide_eq_false_iff_not]
    right
    omega
  · simp [cacheCheck, hok]

/-- A call leaves only entries stamped at or before `bound` in a cache that held only such
entries, when its fetch stamps what it answers at or before `bound`. -/
theorem idmapLookup_stamps_le {bound : Nat} (hstamps : ∀ e ∈ cache, lastUpdated e ≤ bound)
    (hfetch : ∀ w, (fetch w).1 = noError → lastUpdated (fetch w).2 ≤ bound) :
    ∀ e ∈ (idmapLookup ops lastUpdated cacheTtl fetch allocError now lookup cache work).2.2,
      lastUpdated e ≤ bound := by
  unfold idmapLookup
  dsimp only
  split_ifs with hcheck hok
  · exact hstamps
  · intro e he
    rcases mem_cacheInsert he with rfl | he
    · exact hfetch _ hok.1
    · exact hstamps e he
  · exact hstamps

end Generic

/-! ## The freshness test over the configured `cache_ttl` -/

/-- From `2^31` on the stored `cache_ttl` is negative, and no entry is fresh, however
young: the cache never answers. -/
theorem cacheTtl_high_never_fresh (cfg : IdmapConfig) {v : UInt32} (hv : 2 ^ 31 ≤ v.toNat)
    (last age : Nat) :
    isFresh (cfg.storeUint .cacheTtl v).cacheTtl (last + age) last = false := by
  have := intOfUint_neg hv
  simp only [isFresh, IdmapConfig.storeUint, decide_eq_false_iff_not, not_lt]
  omega

theorem cacheTtl_high_never_fresh_at_two_pow_31 :
    2 ^ 31 ≤ (2147483648 : UInt32).toNat ∧
      isFresh ((IdmapConfig.defaults []).storeUint .cacheTtl 2147483648).cacheTtl (0 + 0) 0 = false :=
  ⟨by decide, cacheTtl_high_never_fresh (IdmapConfig.defaults []) (by decide) 0 0⟩

end Nfs41Idmap
