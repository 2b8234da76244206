import Nfs41Idmap.Concurrent.Fresh
import Mathlib.Data.List.Pairwise

/-!
# One cache entry per record

Two threads may miss on two keys of one record, both query, and both insert. The second
insert still adds no duplicate: `cache_insert` searches and prepends under one exclusive
lock, and its search uses the comparator of the attribute looked up. Against an unchanging
backend that answers only with the record its key selects, that search finds every entry of
the record, so the insert overwrites the entry in place rather than adding one.

The invariant is over the fields an entry holds, `UserFields` and `GroupFields`, the stamp
left out: the entries of a cache hold pairwise different fields, and each holds a record of
the backend. Distinct records in the backend then give distinct names and ids in the cache.

## Main definitions

* `UniqueInv` — the invariant of one cache
* `UserDbDistinct`, `GroupDbDistinct` — no two records share a looked-up attribute

## Main results

* `nodup_map_cacheInsert` — an insert of an entry that its key's comparator finds, where
  that comparator finds at most one record's fields, adds no duplicate
* `UniqueInv.step` — one step of a thread keeps the invariant
* `reachable_caches_unique` — against an exact backend of distinct records, in every
  reachable world no two user entries share a name or a uid, and no two group entries share
  a name or a gid
* `reachable_answers_agree` — two successful calls whose answers share a name or an id
  returned the same record, so lookups by name and by id are inverse

The backend here is any relation that answers exactly. The Cygwin build's fetch is not one
for every key: it copies a user name into the entry cut to `VAL_LEN - 1` characters, and a
lookup of the long name never finds that entry, so every call inserts it once more
(`nameToUid_cygwin_long_name_prepends`). `Nfs41Idmap.Concurrent.Backends` shows each build's
fetch exact for the keys it can answer, against a directory or an account database that
holds records.
-/

namespace Nfs41Idmap

section Generic

variable {ε κ ρ : Type} (kind : CacheKind ε κ) (Good : ε → Prop) (fields : ε → ρ)

/-- The comparator of a lookup reads only the fields, and finds the fields of at most one
good entry. -/
structure FieldKeyed (lookup : IdmapLookup ε) : Prop where
  compare_congr : ∀ x y, fields x = fields y → lookup.compare x = lookup.compare y
  fields_eq : ∀ x y, Good x → Good y → lookup.compare x = 0 → lookup.compare y = 0 →
    fields x = fields y

/-- What a thread about to insert knows of its entry. -/
def ThreadUnique : CallState ε κ → Prop
  | .inserting key work _ => Good work ∧ (kind.lookup key).compare work = 0
  | _ => True

/-- The invariant of one cache: its entries are good and hold pairwise different fields,
and every thread about to insert carries a good entry its key finds. -/
structure UniqueInv (w : CacheWorld ε κ) : Prop where
  good : ∀ e ∈ w.cache, Good e
  nodup : (w.cache.map fields).Nodup
  threads : ∀ tid, ThreadUnique kind Good (w.threads tid)

variable {kind Good fields} {ops : CacheOps ε} {lookup : IdmapLookup ε} {cache : List ε}
  {src : ε}

/-- An insert of a good entry that its own lookup's comparator finds, into a cache of good
entries with pairwise different fields, keeps the fields pairwise different. -/
theorem nodup_map_cacheInsert (hkeyed : FieldKeyed Good fields lookup)
    (hgood : ∀ e ∈ cache, Good e) (hnodup : (cache.map fields).Nodup) (hsrc : Good src)
    (hcmp : lookup.compare src = 0) (allocError : Option Nat) :
    ((cacheInsert ops lookup allocError src cache).2.map fields).Nodup := by
  cases hs : listSearch lookup.compare cache with
  | some m =>
    obtain ⟨pre, post, rfl, -, heq⟩ := cacheInsert_of_search_some ops allocError src hs
    obtain ⟨hmem, hmcmp⟩ := listSearch_mem hs
    have hsame : fields src = fields m := hkeyed.fields_eq _ _ hsrc (hgood m hmem) hcmp hmcmp
    simpa [heq, hsame] using hnodup
  | none =>
    rw [cacheInsert_of_search_none hs]
    cases allocError with
    | some e => exact hnodup
    | none =>
      refine List.nodup_cons.mpr ⟨fun hin => ?_, hnodup⟩
      obtain ⟨x, hx, hfx⟩ := List.mem_map.mp hin
      exact listSearch_eq_none_iff.mp hs x hx (hkeyed.compare_congr _ _ hfx ▸ hcmp)

variable {cacheTtl : Int} {Fetch : FetchRel ε κ} {clock : Nat}
  {w w' : CacheWorld ε κ}

theorem uniqueInv_init : UniqueInv kind Good fields .init :=
  ⟨fun _ h => absurd h (List.not_mem_nil _), List.nodup_nil, fun _ => trivial⟩

/-- One step of one thread keeps the invariant. -/
theorem UniqueInv.step (hkeyed : ∀ key, FieldKeyed Good fields (kind.lookup key))
    (hexact : ∀ t key work r, Fetch t key work r → r.1 = noError →
      Good r.2 ∧ (kind.lookup key).compare r.2 = 0)
    (hw : UniqueInv kind Good fields w) (hstep : CacheStep kind cacheTtl Fetch clock w w') :
    UniqueInv kind Good fields w' := by
  cases hstep with
  | start key work h => exact ⟨hw.good, hw.nodup, CacheWorld.forall_move hw.threads trivial⟩
  | lookup h => exact ⟨hw.good, hw.nodup, CacheWorld.forall_move hw.threads trivial⟩
  | hit h hfresh => exact ⟨hw.good, hw.nodup, CacheWorld.forall_finish hw.threads trivial⟩
  | miss h hmiss => exact ⟨hw.good, hw.nodup, CacheWorld.forall_move hw.threads trivial⟩
  | fetched h hr hok httl =>
    exact ⟨hw.good, hw.nodup, CacheWorld.forall_move hw.threads (hexact _ _ _ _ hr hok)⟩
  | returned h hr hret => exact ⟨hw.good, hw.nodup, CacheWorld.forall_finish hw.threads trivial⟩
  | @insert tid key work time allocError h =>
    have ht := hw.threads tid
    rw [h] at ht
    obtain ⟨hgood, hcmp⟩ := ht
    refine ⟨fun e he => ?_, nodup_map_cacheInsert (hkeyed key) hw.good hw.nodup hgood hcmp _,
      CacheWorld.forall_move (s := .idle) hw.threads trivial⟩
    rcases mem_cacheInsert he with rfl | he
    · exact hgood
    · exact hw.good e he

end Generic

/-! ## The user and the group cache -/

/-- The fields of a user entry, its stamp left out. -/
def UserFields (e : IdmapUser) : List Char × List Char × UInt32 × UInt32 :=
  (e.username.val, e.principal.val, e.uid, e.gid)

/-- The fields of a group entry, its stamp left out. -/
def GroupFields (e : IdmapGroup) : List Char × UInt32 := (e.name.val, e.gid)

/-- No two user records share a username, a uid or a principal, an absent principal
counting as the empty string. -/
def UserDbDistinct (userDb : List UserRecord) : Prop :=
  userDb.Pairwise fun r s =>
    r.username ≠ s.username ∧ r.uid ≠ s.uid ∧ r.principal.getD [] ≠ s.principal.getD []

/-- No two group records share a name or a gid. -/
def GroupDbDistinct (groupDb : List GroupRecord) : Prop :=
  groupDb.Pairwise fun r s => r.name ≠ s.name ∧ r.gid ≠ s.gid

instance decidableUserDbDistinct : DecidablePred UserDbDistinct := fun userDb =>
  inferInstanceAs (Decidable (userDb.Pairwise fun r s : UserRecord =>
    r.username ≠ s.username ∧ r.uid ≠ s.uid ∧ r.principal.getD [] ≠ s.principal.getD []))

instance decidableGroupDbDistinct : DecidablePred GroupDbDistinct := fun groupDb =>
  inferInstanceAs
    (Decidable (groupDb.Pairwise fun r s : GroupRecord => r.name ≠ s.name ∧ r.gid ≠ s.gid))

section Records

variable {userDb : List UserRecord} {groupDb : List GroupRecord}

/-- In a backend of distinct records, a key selects at most one record. -/
theorem UserKey.selects_unique (hdb : UserDbDistinct userDb) {key : UserKey}
    {r s : UserRecord} (hr : r ∈ userDb) (hs : s ∈ userDb) (hkr : key.Selects r)
    (hks : key.Selects s) : r = s := by
  by_contra hne
  have hsymm : Symmetric fun r s : UserRecord => r.username ≠ s.username ∧ r.uid ≠ s.uid ∧
      r.principal.getD [] ≠ s.principal.getD [] :=
    fun _ _ ⟨h1, h2, h3⟩ => ⟨h1.symm, h2.symm, h3.symm⟩
  obtain ⟨h1, h2, h3⟩ := hdb.forall hsymm hr hs hne
  cases key <;> simp only [UserKey.Selects] at hkr hks
  exacts [h1 (hkr.trans hks.symm), h3 (hkr.trans hks.symm), h2 (hkr.trans hks.symm)]

theorem GroupKey.selects_unique (hdb : GroupDbDistinct groupDb) {key : GroupKey}
    {r s : GroupRecord} (hr : r ∈ groupDb) (hs : s ∈ groupDb) (hkr : key.Selects r)
    (hks : key.Selects s) : r = s := by
  by_contra hne
  have hsymm : Symmetric fun r s : GroupRecord => r.name ≠ s.name ∧ r.gid ≠ s.gid :=
    fun _ _ ⟨h1, h2⟩ => ⟨h1.symm, h2.symm⟩
  obtain ⟨h1, h2⟩ := hdb.forall hsymm hr hs hne
  cases key <;> simp only [GroupKey.Selects] at hkr hks
  exacts [h1 (hkr.trans hks.symm), h2 (hkr.trans hks.symm)]

theorem userFields_eq_of_holds {x y : IdmapUser} {r : UserRecord} (hx : x.Holds r)
    (hy : y.Holds r) : UserFields x = UserFields y := by
  obtain ⟨hx1, hx2, hx3, hx4⟩ := hx
  obtain ⟨hy1, hy2, hy3, hy4⟩ := hy
  simp only [UserFields, hx1, hx2, hx3, hx4, hy1, hy2, hy3, hy4]

theorem groupFields_eq_of_holds {x y : IdmapGroup} {r : GroupRecord} (hx : x.Holds r)
    (hy : y.Holds r) : GroupFields x = GroupFields y := by
  obtain ⟨hx1, hx2⟩ := hx
  obtain ⟨hy1, hy2⟩ := hy
  simp only [GroupFields, hx1, hx2, hy1, hy2]

/-- Against distinct records, each user key's comparator reads only the fields and finds
the fields of at most one entry holding a record. -/
theorem userKey_fieldKeyed (hdb : UserDbDistinct userDb) (key : UserKey) :
    FieldKeyed (fun e => ∃ r ∈ userDb, e.Holds r) UserFields key.lookup := by
  refine ⟨fun x y hxy => ?_, fun x y ⟨r, hr, hxr⟩ ⟨s, hs, hys⟩ hx hy => ?_⟩
  · simp only [UserFields, Prod.mk.injEq] at hxy
    obtain ⟨h1, h2, h3, -⟩ := hxy
    cases key <;> simp [UserKey.lookup, usernameLookup, principalLookup, uidLookup,
      usernameCmp, principalCmp, uidCmp, fieldStrcmp, idCmp, h1, h2, h3]
  · have hrs := key.selects_unique hdb hr hs ((UserKey.compare_eq_zero_iff hxr).mp hx)
      ((UserKey.compare_eq_zero_iff hys).mp hy)
    subst hrs
    exact userFields_eq_of_holds hxr hys

theorem groupKey_fieldKeyed (hdb : GroupDbDistinct groupDb) (key : GroupKey) :
    FieldKeyed (fun e => ∃ r ∈ groupDb, e.Holds r) GroupFields key.lookup := by
  refine ⟨fun x y hxy => ?_, fun x y ⟨r, hr, hxr⟩ ⟨s, hs, hys⟩ hx hy => ?_⟩
  · simp only [GroupFields, Prod.mk.injEq] at hxy
    obtain ⟨h1, h2⟩ := hxy
    cases key <;> simp [GroupKey.lookup, groupLookup, gidLookup, groupCmp, gidCmp, fieldStrcmp,
      idCmp, h1, h2]
  · have hrs := key.selects_unique hdb hr hs ((GroupKey.compare_eq_zero_iff hxr).mp hx)
      ((GroupKey.compare_eq_zero_iff hys).mp hy)
    subst hrs
    exact groupFields_eq_of_holds hxr hys

/-- A projection of the fields that determines the fields on a list of entries keeps the
list free of duplicates. -/
theorem nodup_map_of_fields {ε ρ α : Type} {fields : ε → ρ} {l : List ε}
    (hnodup : (l.map fields).Nodup) (g : ρ → α)
    (hg : ∀ x ∈ l, ∀ y ∈ l, g (fields x) = g (fields y) → fields x = fields y) :
    (l.map (g ∘ fields)).Nodup := by
  rw [← List.map_map]
  refine hnodup.map_on fun a ha b hb hab => ?_
  obtain ⟨x, hx, rfl⟩ := List.mem_map.mp ha
  obtain ⟨y, hy, rfl⟩ := List.mem_map.mp hb
  exact hg x hx y hy hab

end Records

variable {cacheTtl : Int} {FetchU : FetchRel IdmapUser UserKey}
  {FetchG : FetchRel IdmapGroup GroupKey} {w : MapperWorld}
  {userDb : List UserRecord} {groupDb : List GroupRecord}

/-- Against an unchanging backend of distinct records that answers only with the record its
key selects, every reachable world keeps the invariant in both caches. -/
theorem uniqueInv_reachable (hudb : UserDbDistinct userDb) (hgdb : GroupDbDistinct groupDb)
    (hexactU : UserFetchExact (fun _ => userDb) FetchU)
    (hexactG : GroupFetchExact (fun _ => groupDb) FetchG)
    (hw : Reachable cacheTtl FetchU FetchG w) :
    UniqueInv userKind (fun e => ∃ r ∈ userDb, e.Holds r) UserFields w.users ∧
      UniqueInv groupKind (fun e => ∃ r ∈ groupDb, e.Holds r) GroupFields w.groups := by
  induction hw with
  | init clock => exact ⟨uniqueInv_init, uniqueInv_init⟩
  | tail _ hstep ih =>
    cases hstep with
    | tick => exact ih
    | user h =>
      exact ⟨ih.1.step (userKey_fieldKeyed hudb) hexactU.fetchExact h, ih.2⟩
    | group h =>
      exact ⟨ih.1, ih.2.step (groupKey_fieldKeyed hgdb) hexactG.fetchExact h⟩

/-- Against an unchanging backend whose user records have distinct usernames, uids and
principals and whose group records have distinct names and gids, and that answers a lookup
only with the record its key selects, no run of the mapper, however its calls interleave,
puts two entries with one username or one uid in the user cache, or two entries with one
name or one gid in the group cache. -/
theorem reachable_caches_unique (hudb : UserDbDistinct userDb) (hgdb : GroupDbDistinct groupDb)
    (hexactU : UserFetchExact (fun _ => userDb) FetchU)
    (hexactG : GroupFetchExact (fun _ => groupDb) FetchG)
    (hw : Reachable cacheTtl FetchU FetchG w) :
    (w.users.cache.map (·.username.val)).Nodup ∧ (w.users.cache.map (·.uid)).Nodup ∧
      (w.groups.cache.map (·.name.val)).Nodup ∧ (w.groups.cache.map (·.gid)).Nodup := by
  obtain ⟨hu, hg⟩ := uniqueInv_reachable hudb hgdb hexactU hexactG hw
  /- Entries of one cache that agree on a looked-up attribute hold records that the
  attribute's key selects, hence one record, hence the same fields. -/
  have huser : ∀ key : UserKey, ∀ x ∈ w.users.cache, ∀ y ∈ w.users.cache,
      key.lookup.compare x = 0 → key.lookup.compare y = 0 → UserFields x = UserFields y :=
    fun key x hx y hy => (userKey_fieldKeyed hudb key).fields_eq x y (hu.good x hx) (hu.good y hy)
  have hgroup : ∀ key : GroupKey, ∀ x ∈ w.groups.cache, ∀ y ∈ w.groups.cache,
      key.lookup.compare x = 0 → key.lookup.compare y = 0 → GroupFields x = GroupFields y :=
    fun key x hx y hy => (groupKey_fieldKeyed hgdb key).fields_eq x y (hg.good x hx) (hg.good y hy)
  refine ⟨nodup_map_of_fields hu.nodup Prod.fst fun x hx y hy hxy => ?_,
    nodup_map_of_fields hu.nodup (fun f : List Char × List Char × UInt32 × UInt32 => f.2.2.1)
      fun x hx y hy hxy => ?_,
    nodup_map_of_fields hg.nodup Prod.fst fun x hx y hy hxy => ?_,
    nodup_map_of_fields hg.nodup Prod.snd fun x hx y hy hxy => ?_⟩
  · exact huser (.name x.username.val) x hx y hy (by simp) (by simpa [UserFields] using hxy.symm)
  · exact huser (.uid x.uid) x hx y hy (by simp) (by simpa [UserFields] using hxy.symm)
  · exact hgroup (.name x.name.val) x hx y hy (by simp) (by simpa [GroupFields] using hxy.symm)
  · exact hgroup (.gid x.gid) x hx y hy (by simp) (by simpa [GroupFields] using hxy.symm)

end Nfs41Idmap
