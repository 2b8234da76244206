import Nfs41Idmap.Concurrent.Model

/-!
# The id comparators in 32-bit arithmetic

`uid_cmp` and `gid_cmp` return `(int)value - (int)entry->id`: both ids are read as `int` and
subtracted as `int`. `idCmp` models the result as the exact difference of the two readings.
An `int` holds `[-2^31, 2^31)`, and that difference need not fit: C leaves such an overflow
undefined. It happens exactly when one id is below `2^31` and the other is not, and the two
lie within `2^31` of each other across that boundary, so `uid_cmp(0, 2^31)` already overflows.

On the processor the subtraction is the 32-bit one and wraps: the result is the `int` read of
`value - entry->id` modulo `2^32`, `idCmpWrapped`. It is the exact difference exactly where
that fits, and it is zero exactly on equal ids. `list_search` reads only whether the
comparator returns zero, so `cache_lookup` and `cache_insert` give the same results under both
readings, and so do a whole lookup and every step of the concurrent caches: what the model
proves of the caches and of the mapper's reachable worlds holds of the wrapping processor as
well.

## Main definitions

* `FitsInt` — a value a 32-bit `int` holds
* `SubOverflows` — the pairs of ids whose `int` difference leaves that range
* `idCmpWrapped`, `uidCmpWrapped`, `gidCmpWrapped` — the comparators as the processor computes
  them, and `uidLookupWrapped`, `gidLookupWrapped`, `UserKey.lookupWrapped`,
  `GroupKey.lookupWrapped` the lookups that use them

## Main results

* `uidCmp_gidCmp_overflow_iff` — for every pair of ids, `uid_cmp` and `gid_cmp` overflow
  exactly on `SubOverflows`
* `idCmpWrapped_eq_iff_fits` — the processor's result is the exact difference exactly when
  that fits
* `idCmpWrapped_eq_zero` — the processor's result is zero exactly on equal ids
* `cacheLookup_congr`, `cacheInsert_congr`, `idmapLookup_congr` — the caches, and the body
  of a lookup around them, read only whether the comparator is zero
* `fetchUser_with_compare`, `idmapLookupUser_with_compare` — the fetch never reads it, and
  a whole lookup reads only its zero test
* `idLookups_wrapped_agree` — `idmap_lookup_user` by uid and `idmap_lookup_group` by gid
  give the same results under both readings
* `cacheSteps_wrapped_agree` — the concurrent caches take the same steps under both
-/

namespace Nfs41Idmap

/-! ## The range of an `int` -/

/-- A value a 32-bit `int` holds. -/
def FitsInt (x : Int) : Prop := -2 ^ 31 ≤ x ∧ x < 2 ^ 31

instance : DecidablePred FitsInt := fun _ => inferInstanceAs (Decidable (_ ∧ _))

/-- The pairs `(value, id)` on which `(int)value - (int)id` overflows: one id is below `2^31`
and the other is not, with the upper one at most `2^31` above the lower when the key is the
lower, and less than `2^31` above it when the key is the upper. -/
def SubOverflows (value id : UInt32) : Prop :=
  (value.toNat < 2 ^ 31 ∧ 2 ^ 31 ≤ id.toNat ∧ id.toNat ≤ value.toNat + 2 ^ 31) ∨
    (id.toNat < 2 ^ 31 ∧ 2 ^ 31 ≤ value.toNat ∧ value.toNat < id.toNat + 2 ^ 31)

instance (value id : UInt32) : Decidable (SubOverflows value id) :=
  inferInstanceAs (Decidable (_ ∨ _))

/-- The two readings of a `UINT` as `int`: itself below `2^31`, less `2^32` from there on. -/
theorem intOfUint_cases (v : UInt32) :
    (v.toNat < 2 ^ 31 ∧ intOfUint v = v.toNat) ∨
      (2 ^ 31 ≤ v.toNat ∧ v.toNat < 2 ^ 32 ∧ intOfUint v = v.toNat - 2 ^ 32) := by
  have : v.toNat < 2 ^ 32 := v.toNat_lt_size
  unfold intOfUint
  split <;> omega

/-- The 32-bit difference borrows `2^32` or nothing. -/
theorem toNat_sub_cases (a b : UInt32) :
    (a - b).toNat + b.toNat = a.toNat ∨ (a - b).toNat + b.toNat = a.toNat + 2 ^ 32 := by
  have ha : a.toNat < 2 ^ 32 := a.toNat_lt_size
  have hb : b.toNat < 2 ^ 32 := b.toNat_lt_size
  have : (a - b).toNat = (2 ^ 32 - b.toNat + a.toNat) % 2 ^ 32 := BitVec.toNat_sub _ _
  omega

section Comparators

variable {ε : Type} {field : ε → UInt32} {entry : ε} {value : UInt32}

/-- The exact difference overflows an `int` exactly on `SubOverflows`. -/
theorem idCmp_not_fits_iff :
    ¬ FitsInt (idCmp field entry value) ↔ SubOverflows value (field entry) := by
  have := intOfUint_cases value
  have := intOfUint_cases (field entry)
  unfold FitsInt idCmp SubOverflows
  omega

/-- `uid_cmp` and `gid_cmp` overflow for every pair of ids on `SubOverflows`, and only
there. -/
theorem uidCmp_gidCmp_overflow_iff (user : IdmapUser) (group : IdmapGroup) (uid gid : UInt32) :
    (¬ FitsInt (uidCmp user uid) ↔ SubOverflows uid user.uid) ∧
      (¬ FitsInt (gidCmp group gid) ↔ SubOverflows gid group.gid) :=
  ⟨idCmp_not_fits_iff, idCmp_not_fits_iff⟩

/-- `nfs41_idmap_uid_to_name(0)` against a cached uid of `2^31`: `uid_cmp` computes
`0 - (-2^31) = 2^31`, one past `INT_MAX`; `gid_cmp` does the same for gids. -/
theorem uidCmp_gidCmp_overflow_at_zero :
    ¬ FitsInt (uidCmp { IdmapUser.zero with uid := 2147483648 } 0) ∧
      ¬ FitsInt (gidCmp { IdmapGroup.zero with gid := 2147483648 } 0) :=
  have h := uidCmp_gidCmp_overflow_iff { IdmapUser.zero with uid := 2147483648 }
    { IdmapGroup.zero with gid := 2147483648 } 0 0
  ⟨h.1.mpr (by decide), h.2.mpr (by decide)⟩

/-- `(int)value - (int)entry->field` as the processor computes it: the 32-bit difference of
the two bit patterns, read as `int`. -/
def idCmpWrapped (field : ε → UInt32) (entry : ε) (value : UInt32) : Int :=
  intOfUint (value - field entry)

/-- The processor's result is the exact difference exactly when that fits an `int`. -/
theorem idCmpWrapped_eq_iff_fits :
    idCmpWrapped field entry value = idCmp field entry value ↔
      FitsInt (idCmp field entry value) := by
  have := intOfUint_cases value
  have := intOfUint_cases (field entry)
  have := intOfUint_cases (value - field entry)
  have := toNat_sub_cases value (field entry)
  unfold idCmpWrapped idCmp FitsInt
  omega

-- At `uid_cmp(0, 2^31)` the difference is `2^31`, and the processor returns `-2^31`.
example : idCmp IdmapUser.uid { IdmapUser.zero with uid := 2147483648 } 0 = 2 ^ 31 ∧
    idCmpWrapped IdmapUser.uid { IdmapUser.zero with uid := 2147483648 } 0 = -2 ^ 31 := by
  decide

/-- The processor's result is zero exactly on equal ids, overflow or not. -/
@[simp] theorem idCmpWrapped_eq_zero :
    idCmpWrapped field entry value = 0 ↔ field entry = value := by
  have := intOfUint_cases (value - field entry)
  have := toNat_sub_cases value (field entry)
  have : (value - field entry).toNat < 2 ^ 32 := (value - field entry).toNat_lt_size
  have : value.toNat < 2 ^ 32 := value.toNat_lt_size
  have : (field entry).toNat < 2 ^ 32 := (field entry).toNat_lt_size
  rw [show field entry = value ↔ (field entry).toNat = value.toNat from
    ⟨congrArg _, UInt32.toNat.inj⟩]
  unfold idCmpWrapped
  omega

/-- `uid_cmp` as the processor computes it. -/
def uidCmpWrapped : IdmapUser → UInt32 → Int := idCmpWrapped IdmapUser.uid

/-- `gid_cmp` as the processor computes it. -/
def gidCmpWrapped : IdmapGroup → UInt32 → Int := idCmpWrapped IdmapGroup.gid

end Comparators

/-! ## The caches read only the zero test -/

section Congr

variable {ε : Type} {c c' : ε → Int}

theorem listSearch_congr (h : ∀ e, c e = 0 ↔ c' e = 0) (cache : List ε) :
    listSearch c cache = listSearch c' cache := by
  unfold listSearch
  congr 1
  funext e
  exact decide_eq_decide.mpr (h e)

theorem listSearchCopy_congr (h : ∀ e, c e = 0 ↔ c' e = 0) (copy : ε → ε) (cache : List ε) :
    listSearchCopy c copy cache = listSearchCopy c' copy cache := by
  induction cache with
  | nil => rfl
  | cons e es ih => simp only [listSearchCopy, h e, ih]

variable {lookup lookup' : IdmapLookup ε}

/-- Two lookups whose comparators are zero on the same entries find the same entry. -/
theorem cacheLookup_congr (h : ∀ e, lookup.compare e = 0 ↔ lookup'.compare e = 0)
    (ops : CacheOps ε) (cache : List ε) (entryOut : ε) :
    cacheLookup ops lookup cache entryOut = cacheLookup ops lookup' cache entryOut := by
  simp only [cacheLookup, listSearch_congr h]

/-- Two lookups whose comparators are zero on the same entries insert alike. -/
theorem cacheInsert_congr (h : ∀ e, lookup.compare e = 0 ↔ lookup'.compare e = 0)
    (ops : CacheOps ε) (allocError : Option Nat) (src : ε) (cache : List ε) :
    cacheInsert ops lookup allocError src cache =
      cacheInsert ops lookup' allocError src cache := by
  simp only [cacheInsert, listSearch_congr h, listSearchCopy_congr h]

/-- The body of `idmap_lookup_user` and `idmap_lookup_group` reads the comparator only
through `cache_lookup` and `cache_insert`. -/
theorem idmapLookup_congr (h : ∀ e, lookup.compare e = 0 ↔ lookup'.compare e = 0)
    (ops : CacheOps ε) (lastUpdated : ε → Nat) (cacheTtl : Int) (fetch : ε → Nat × ε)
    (allocError : Option Nat) (now : Nat) (cache : List ε) (work : ε) :
    idmapLookup ops lastUpdated cacheTtl fetch allocError now lookup cache work =
      idmapLookup ops lastUpdated cacheTtl fetch allocError now lookup' cache work := by
  simp only [idmapLookup, cacheCheck, cacheLookup_congr h, cacheInsert_congr h]

end Congr

/-! ## The fetch never reads the comparator -/

/-- The query builds its filter from a lookup's class, attribute and key only. -/
theorem idmapQueryAttrs_with_compare {ε : Type} (client : LdapClient) (config : IdmapConfig)
    (lookup : IdmapLookup ε) (compare : ε → Int) (attributes optional : Nat) :
    idmapQueryAttrs client config { lookup with compare := compare } attributes optional =
      idmapQueryAttrs client config lookup attributes optional := by
  unfold idmapQueryAttrs
  rw [show idmapFilter config { lookup with compare := compare } filterLen =
    idmapFilter config lookup filterLen from rfl]

/-- The fetch of either build reads a lookup's attribute, class and key, never its
comparator. -/
theorem fetchUser_with_compare (backend : Backend) (config : IdmapConfig) (errno : Nat)
    (lookup : IdmapLookup IdmapUser) (compare : IdmapUser → Int) (user : IdmapUser) (now : Nat) :
    fetchUser backend config errno { lookup with compare := compare } user now =
      fetchUser backend config errno lookup user now := by
  cases backend <;> simp only [fetchUser]
  · delta ldapFetchUser
    rw [idmapQueryAttrs_with_compare]
  · rfl

theorem fetchGroup_with_compare (backend : Backend) (config : IdmapConfig) (errno : Nat)
    (lookup : IdmapLookup IdmapGroup) (compare : IdmapGroup → Int) (group : IdmapGroup)
    (now : Nat) :
    fetchGroup backend config errno { lookup with compare := compare } group now =
      fetchGroup backend config errno lookup group now := by
  cases backend <;> simp only [fetchGroup]
  · delta ldapFetchGroup
    rw [idmapQueryAttrs_with_compare]
  · rfl

/-- `idmap_lookup_user` reads a lookup's comparator only through its zero test. -/
theorem idmapLookupUser_with_compare {lookup : IdmapLookup IdmapUser} {compare : IdmapUser → Int}
    (h : ∀ e, compare e = 0 ↔ lookup.compare e = 0) (backend : Backend) (context : IdmapContext)
    (env : CallEnv) (user : IdmapUser) :
    idmapLookupUser backend context env { lookup with compare := compare } user =
      idmapLookupUser backend context env lookup user := by
  have h' : ∀ e, ({ lookup with compare := compare } : IdmapLookup IdmapUser).compare e = 0 ↔
      lookup.compare e = 0 := h
  simp only [idmapLookupUser, idmapLookup_congr h', fetchUser_with_compare]

theorem idmapLookupGroup_with_compare {lookup : IdmapLookup IdmapGroup}
    {compare : IdmapGroup → Int} (h : ∀ e, compare e = 0 ↔ lookup.compare e = 0)
    (backend : Backend) (context : IdmapContext) (env : CallEnv) (group : IdmapGroup) :
    idmapLookupGroup backend context env { lookup with compare := compare } group =
      idmapLookupGroup backend context env lookup group := by
  have h' : ∀ e, ({ lookup with compare := compare } : IdmapLookup IdmapGroup).compare e = 0 ↔
      lookup.compare e = 0 := h
  simp only [idmapLookupGroup, idmapLookup_congr h', fetchGroup_with_compare]

/-! ## The by-id lookups on the processor -/

/-- The lookup of `nfs41_idmap_uid_to_name`, its comparator computed by the processor. -/
def uidLookupWrapped (uid : UInt32) : IdmapLookup IdmapUser :=
  ⟨.uid, .user, .int uid, (uidCmpWrapped · uid)⟩

/-- The lookup of `nfs41_idmap_gid_to_group`, its comparator computed by the processor. -/
def gidLookupWrapped (gid : UInt32) : IdmapLookup IdmapGroup :=
  ⟨.gid, .group, .int gid, (gidCmpWrapped · gid)⟩

/-- Whatever the ids, the caches and the backend, `idmap_lookup_user` by uid and
`idmap_lookup_group` by gid return the same status and entry and leave the same context when
the comparator wraps as on the processor as with the model's exact difference. -/
theorem idLookups_wrapped_agree (backend : Backend) (context : IdmapContext) (env : CallEnv)
    (user : IdmapUser) (group : IdmapGroup) (uid gid : UInt32) :
    idmapLookupUser backend context env (uidLookupWrapped uid) user =
        idmapLookupUser backend context env (uidLookup uid) user ∧
      idmapLookupGroup backend context env (gidLookupWrapped gid) group =
        idmapLookupGroup backend context env (gidLookup gid) group :=
  ⟨@idmapLookupUser_with_compare (uidLookup uid) (uidCmpWrapped · uid)
      (fun _ => idCmpWrapped_eq_zero.trans idCmp_eq_zero.symm) backend context env user,
    @idmapLookupGroup_with_compare (gidLookup gid) (gidCmpWrapped · gid)
      (fun _ => idCmpWrapped_eq_zero.trans idCmp_eq_zero.symm) backend context env group⟩

/-! ## The concurrent caches on the processor -/

section Steps

variable {ε κ : Type} {kind : CacheKind ε κ} {lookup' : κ → IdmapLookup ε} {cacheTtl : Int}
  {Fetch : FetchRel ε κ} {clock : Nat} {w w' : CacheWorld ε κ}

/-- A step of a cache whose comparators have the zero tests of another's is a step of the
other: a thread reads its comparator only in `cache_lookup` and `cache_insert`. -/
theorem CacheStep.of_zero_congr
    (h : ∀ key e, (lookup' key).compare e = 0 ↔ (kind.lookup key).compare e = 0)
    (hstep : CacheStep { kind with lookup := lookup' } cacheTtl Fetch clock w w') :
    CacheStep kind cacheTtl Fetch clock w w' := by
  cases hstep with
  | start key work hs => exact .start key work hs
  | @lookup tid key work hs =>
    rw [cacheLookup_congr (h key)]
    exact .lookup hs
  | hit hs hfresh => exact .hit hs hfresh
  | miss hs hmiss => exact .miss hs hmiss
  | fetched hs hr hok httl => exact .fetched hs hr hok httl
  | returned hs hr hret => exact .returned hs hr hret
  | @insert tid key work time allocError hs =>
    rw [cacheInsert_congr (h key)]
    exact .insert allocError hs

/-- Comparators with the same zero tests give the same steps. -/
theorem cacheStep_zero_congr
    (h : ∀ key e, (lookup' key).compare e = 0 ↔ (kind.lookup key).compare e = 0) :
    CacheStep { kind with lookup := lookup' } cacheTtl Fetch clock =
      CacheStep kind cacheTtl Fetch clock := by
  funext w w'
  exact propext ⟨CacheStep.of_zero_congr h,
    @CacheStep.of_zero_congr ε κ { kind with lookup := lookup' } kind.lookup cacheTtl Fetch clock
      w w' fun key e => (h key e).symm⟩

end Steps

/-- The lookup of each user key with its comparator as the processor computes it: `uid_cmp`
wraps, and `strcmp`, whose results are `-1`, `0` or `1`, has nothing to wrap. -/
def UserKey.lookupWrapped : UserKey → IdmapLookup IdmapUser
  | .uid k => uidLookupWrapped k
  | key => key.lookup

/-- The lookup of each group key with its comparator as the processor computes it. -/
def GroupKey.lookupWrapped : GroupKey → IdmapLookup IdmapGroup
  | .gid k => gidLookupWrapped k
  | key => key.lookup

/-- The user and the group cache take the same steps, from every world and at every instant,
whether `uid_cmp` and `gid_cmp` wrap as on the processor or compute the exact difference: the
mapper's reachable worlds, and what is proved of them, are those of the processor. -/
theorem cacheSteps_wrapped_agree (cacheTtl : Int) (FetchU : FetchRel IdmapUser UserKey)
    (FetchG : FetchRel IdmapGroup GroupKey) (clock : Nat) :
    CacheStep { userKind with lookup := UserKey.lookupWrapped } cacheTtl FetchU clock =
        CacheStep userKind cacheTtl FetchU clock ∧
      CacheStep { groupKind with lookup := GroupKey.lookupWrapped } cacheTtl FetchG clock =
        CacheStep groupKind cacheTtl FetchG clock := by
  constructor
  · refine cacheStep_zero_congr fun key e => ?_
    cases key with
    | uid k => exact idCmpWrapped_eq_zero.trans idCmp_eq_zero.symm
    | name k => rfl
    | principal k => rfl
  · refine cacheStep_zero_congr fun key e => ?_
    cases key with
    | gid k => exact idCmpWrapped_eq_zero.trans idCmp_eq_zero.symm
    | name k => rfl

end Nfs41Idmap
