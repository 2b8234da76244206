import Nfs41Idmap.Config.Options

/-!
# The generic cache, the user and group entries, and the comparators

`idmap.c` keeps the answers of its backend in two lists, one of `struct idmap_user` and
one of `struct idmap_group`, behind one generic cache. `cache_lookup` copies out the
first entry the lookup's comparator matches; `cache_insert` overwrites that entry with the
new results or, when there is none, allocates a fresh one and adds it at the head.

A list is modelled by its entries from the head: `list_add_head` is `List.cons` and
`list_search` walks the list in order. The reader/writer lock of `struct idmap_cache` is
not part of this module: each operation here is one function, run while the lock is held,
and `Nfs41Idmap.Concurrent` interleaves them.

## Main definitions

* `IdmapLookup` — `struct idmap_lookup`, its comparator already applied to its key
* `IdmapUser`, `IdmapGroup` — the cache entries; `CacheOps` — `struct cache_ops`
* `listSearch`, `cacheLookup`, `cacheInsert` — the generic cache
* `usernameCmp`, `principalCmp`, `groupCmp`, `uidCmp`, `gidCmp` — the comparators
* `usernameLookup`, `uidLookup`, `principalLookup`, `groupLookup`, `gidLookup` — the
  lookups the six functions of the public interface build

## Main results

* `cacheInsert_of_search_some`, `cacheInsert_of_search_none` — the two ways an insert
  changes the list: the first match is overwritten in place, or a new head is added
* `listSearch_cacheInsert` — after an insert of an entry its own lookup matches, a search
  with that lookup finds the new entry
* `length_le_cacheInsert` — an insert never shortens the cache
* `fieldStrcmp_eq_zero`, `idCmp_eq_zero` — a comparator returns zero exactly on the entry
  whose field equals the key
-/

namespace Nfs41Idmap

/-! ## Lookups -/

/-- The key of a lookup, `const void *value` of `struct idmap_lookup`: a C string for the
`TYPE_STR` lookups, a 32-bit id carried in the pointer for the `TYPE_INT` ones. -/
inductive LookupValue
  | str (s : List Char)
  | int (i : UInt32)
  deriving DecidableEq, Repr

/-- `lookup->type`. Every lookup of `idmap.c` sets it to the kind of its key, so the model
reads it off the key and a lookup cannot pair a string type with an id. -/
def LookupValue.type : LookupValue → ConfigType
  | .str _ => .str
  | .int _ => .int

/-- `struct idmap_lookup` over entries of type `ε`. `compare e` is
`lookup->compare(e, lookup->value)`, the comparator applied to the lookup's own key. -/
structure IdmapLookup (ε : Type) where
  attr : LdapAttr
  klass : LdapClass
  value : LookupValue
  compare : ε → Int

/-! ## Entries -/

/-- `struct idmap_user`, without its list link. -/
structure IdmapUser where
  username : ValStr
  principal : ValStr
  uid : UInt32
  gid : UInt32
  lastUpdated : Nat
  deriving DecidableEq, Repr

/-- `struct idmap_group`, without its list link. -/
structure IdmapGroup where
  name : ValStr
  gid : UInt32
  lastUpdated : Nat
  deriving DecidableEq, Repr

/-- The entry `user_cache_alloc` returns: `calloc` zeroes every field. -/
def IdmapUser.zero : IdmapUser := ⟨.empty, .empty, 0, 0, 0⟩

/-- The entry `group_cache_alloc` returns. -/
def IdmapGroup.zero : IdmapGroup := ⟨.empty, 0, 0⟩

/-- `user_cache_copy(dst, src)` -/
def userCacheCopy (dst src : IdmapUser) : IdmapUser :=
  { dst with username := .copy src.username.val, principal := .copy src.principal.val,
             uid := src.uid, gid := src.gid, lastUpdated := src.lastUpdated }

/-- `group_cache_copy(dst, src)` -/
def groupCacheCopy (dst src : IdmapGroup) : IdmapGroup :=
  { dst with name := .copy src.name.val, gid := src.gid, lastUpdated := src.lastUpdated }

/-- `user_cache_copy` overwrites every field: the string copies never truncate, since
both sides are `char[VAL_LEN]` arrays. -/
theorem userCacheCopy_eq (dst src : IdmapUser) : userCacheCopy dst src = src := by
  simp [userCacheCopy]

theorem groupCacheCopy_eq (dst src : IdmapGroup) : groupCacheCopy dst src = src := by
  simp [groupCacheCopy]

/-- `struct cache_ops` as the cache uses it: the entry `entry_alloc` returns and
`entry_copy`. Both caches of `idmap.c` copy every field, which the structure carries;
`entry_free` is only called when the mapper is torn down. -/
structure CacheOps (ε : Type) where
  entryAlloc : ε
  entryCopy : ε → ε → ε
  entryCopy_eq : ∀ dst src, entryCopy dst src = src

/-- `user_cache_ops` -/
def userCacheOps : CacheOps IdmapUser := ⟨.zero, userCacheCopy, userCacheCopy_eq⟩

/-- `group_cache_ops` -/
def groupCacheOps : CacheOps IdmapGroup := ⟨.zero, groupCacheCopy, groupCacheCopy_eq⟩

attribute [simp] CacheOps.entryCopy_eq

/-! ## The generic cache -/

section Generic

variable {ε : Type}

/-- `list_search`: the first entry, from the head, whose comparison with the key is zero. -/
def listSearch (compare : ε → Int) (list : List ε) : Option ε :=
  list.find? (compare · = 0)

/-- The list after `entry_copy(entry, src)` on the entry `list_search` returned: that
entry, the first match, is overwritten in place. -/
def listSearchCopy (compare : ε → Int) (copy : ε → ε) : List ε → List ε
  | [] => []
  | e :: es => if compare e = 0 then copy e :: es else e :: listSearchCopy compare copy es

/-- `cache_lookup`: the status, and the caller's entry afterwards. -/
def cacheLookup (ops : CacheOps ε) (lookup : IdmapLookup ε) (cache : List ε)
    (entryOut : ε) : Nat × ε :=
  match listSearch lookup.compare cache with
  | some entry => (noError, ops.entryCopy entryOut entry)
  | none => (errorNotFound, entryOut)

/-- `cache_insert`. `allocError` is the outcome of `entry_alloc`, should the insert need
it: `some e` when it returns `NULL` and `GetLastError()` is `e`. -/
def cacheInsert (ops : CacheOps ε) (lookup : IdmapLookup ε) (allocError : Option Nat)
    (src : ε) (cache : List ε) : Nat × List ε :=
  match listSearch lookup.compare cache with
  | some _ => (noError, listSearchCopy lookup.compare (ops.entryCopy · src) cache)
  | none =>
    match allocError with
    | some e => (e, cache)
    | none => (noError, ops.entryCopy ops.entryAlloc src :: cache)

variable {compare : ε → Int} {cache : List ε} {m src : ε}

theorem listSearch_eq_none_iff : listSearch compare cache = none ↔ ∀ x ∈ cache, compare x ≠ 0 := by
  simp [listSearch]

theorem listSearch_mem (h : listSearch compare cache = some m) : m ∈ cache ∧ compare m = 0 :=
  ⟨List.mem_of_find?_eq_some h, by simpa using List.find?_some h⟩

/-- A search finds the first match: the list splits around it, nothing before it matches. -/
theorem listSearch_split (h : listSearch compare cache = some m) :
    ∃ pre post, cache = pre ++ m :: post ∧ ∀ x ∈ pre, compare x ≠ 0 := by
  induction cache with
  | nil => simp [listSearch] at h
  | cons e es ih =>
    by_cases he : compare e = 0
    · rw [listSearch, List.find?_cons_of_pos _ (by simpa using he), Option.some.injEq] at h
      exact ⟨[], es, by simp [h], by simp⟩
    · rw [listSearch, List.find?_cons_of_neg _ (by simpa using he)] at h
      obtain ⟨pre, post, rfl, hpre⟩ := ih h
      exact ⟨e :: pre, post, rfl, by simpa [he] using hpre⟩

theorem listSearchCopy_split {copy : ε → ε} {pre post : List ε}
    (hpre : ∀ x ∈ pre, compare x ≠ 0) (hm : compare m = 0) :
    listSearchCopy compare copy (pre ++ m :: post) = pre ++ copy m :: post := by
  induction pre with
  | nil => simp [listSearchCopy, hm]
  | cons e es ih =>
    simp only [List.forall_mem_cons] at hpre
    simp [listSearchCopy, hpre.1, ih hpre.2]

theorem listSearch_split_eq {pre post : List ε} (hpre : ∀ x ∈ pre, compare x ≠ 0)
    (hm : compare m = 0) : listSearch compare (pre ++ m :: post) = some m := by
  rw [listSearch, List.find?_append, List.find?_eq_none.mpr (by simpa using hpre),
    List.find?_cons_of_pos _ (by simpa using hm)]
  rfl

variable {ops : CacheOps ε} {lookup : IdmapLookup ε} {allocError : Option Nat}

@[simp] theorem cacheLookup_of_search_some {entryOut : ε}
    (h : listSearch lookup.compare cache = some m) :
    cacheLookup ops lookup cache entryOut = (noError, m) := by
  simp [cacheLookup, h]

@[simp] theorem cacheLookup_of_search_none {entryOut : ε}
    (h : listSearch lookup.compare cache = none) :
    cacheLookup ops lookup cache entryOut = (errorNotFound, entryOut) := by
  simp [cacheLookup, h]

/-- A lookup that succeeds copies out an entry of the cache that its key matches. -/
theorem cacheLookup_of_ok {entryOut : ε} (h : (cacheLookup ops lookup cache entryOut).1 = noError) :
    (cacheLookup ops lookup cache entryOut).2 ∈ cache ∧
      lookup.compare (cacheLookup ops lookup cache entryOut).2 = 0 := by
  cases hs : listSearch lookup.compare cache with
  | none => simp [hs, errorNotFound, noError] at h
  | some m => simpa [hs] using listSearch_mem hs

/-- An insert whose lookup already matches an entry overwrites the first match in place. -/
theorem cacheInsert_of_search_some (ops : CacheOps ε) (allocError : Option Nat) (src : ε)
    (h : listSearch lookup.compare cache = some m) :
    ∃ pre post, cache = pre ++ m :: post ∧ (∀ x ∈ pre, lookup.compare x ≠ 0) ∧
      cacheInsert ops lookup allocError src cache = (noError, pre ++ src :: post) := by
  obtain ⟨pre, post, rfl, hpre⟩ := listSearch_split h
  refine ⟨pre, post, rfl, hpre, ?_⟩
  simp [cacheInsert, h, listSearchCopy_split hpre (listSearch_mem h).2]

/-- An insert whose lookup matches no entry adds the new one at the head, unless the
allocation fails. -/
theorem cacheInsert_of_search_none (h : listSearch lookup.compare cache = none) :
    cacheInsert ops lookup allocError src cache =
      match allocError with
      | some e => (e, cache)
      | none => (noError, src :: cache) := by
  cases allocError <;> simp [cacheInsert, h]

/-- Every entry after an insert is the inserted one or was there before. -/
theorem mem_cacheInsert {x : ε} (hx : x ∈ (cacheInsert ops lookup allocError src cache).2) :
    x = src ∨ x ∈ cache := by
  cases h : listSearch lookup.compare cache with
  | none =>
    rw [cacheInsert_of_search_none h] at hx
    cases allocError <;> simp_all
  | some m =>
    obtain ⟨pre, post, rfl, -, heq⟩ := cacheInsert_of_search_some ops allocError src h
    rw [heq] at hx
    simp only [List.mem_append, List.mem_cons] at hx ⊢
    tauto

/-- An insert never shortens the cache: it overwrites an entry in place, adds one, or
leaves the cache as it was. -/
theorem length_le_cacheInsert :
    cache.length ≤ (cacheInsert ops lookup allocError src cache).2.length := by
  cases h : listSearch lookup.compare cache with
  | none =>
    rw [cacheInsert_of_search_none h]
    cases allocError <;> simp
  | some m =>
    obtain ⟨pre, post, rfl, -, heq⟩ := cacheInsert_of_search_some ops allocError src h
    simp [heq]

/-- After an insert of an entry that its own lookup matches, and an allocation that does
not fail, the same lookup finds the entry inserted. -/
theorem listSearch_cacheInsert (hsrc : lookup.compare src = 0) :
    listSearch lookup.compare (cacheInsert ops lookup none src cache).2 = some src := by
  cases h : listSearch lookup.compare cache with
  | none => simp [cacheInsert_of_search_none h, listSearch, hsrc]
  | some m =>
    obtain ⟨pre, post, -, hpre, heq⟩ := cacheInsert_of_search_some ops none src h
    rw [heq]
    exact listSearch_split_eq hpre hsrc

end Generic

/-! ## Comparators

`username_cmp`, `principal_cmp` and `group_cmp` are one function, `strcmp` of a string
field with the key; `uid_cmp` and `gid_cmp` are another, the difference of the two ids
read as `int`. -/

section Comparators

variable {ε : Type}

/-- `strcmp(entry->field, value)` -/
def fieldStrcmp (field : ε → ValStr) (entry : ε) (value : List Char) : Int :=
  strcmp (field entry).val value

/-- `(int)value - (int)entry->field`, as a mathematical difference: whether it fits an
`int` is a separate question. -/
def idCmp (field : ε → UInt32) (entry : ε) (value : UInt32) : Int :=
  intOfUint value - intOfUint (field entry)

/-- `username_cmp` -/
def usernameCmp : IdmapUser → List Char → Int := fieldStrcmp IdmapUser.username

/-- `principal_cmp` -/
def principalCmp : IdmapUser → List Char → Int := fieldStrcmp IdmapUser.principal

/-- `group_cmp` -/
def groupCmp : IdmapGroup → List Char → Int := fieldStrcmp IdmapGroup.name

/-- `uid_cmp` -/
def uidCmp : IdmapUser → UInt32 → Int := idCmp IdmapUser.uid

/-- `gid_cmp` -/
def gidCmp : IdmapGroup → UInt32 → Int := idCmp IdmapGroup.gid

theorem intOfUint_inj {a b : UInt32} (h : intOfUint a = intOfUint b) : a = b := by
  have ha : a.toNat < 2 ^ 32 := a.toNat_lt_size
  have hb : b.toNat < 2 ^ 32 := b.toNat_lt_size
  apply UInt32.toNat.inj
  unfold intOfUint at h
  split_ifs at h <;> omega

@[simp] theorem fieldStrcmp_eq_zero {field : ε → ValStr} {entry : ε} {value : List Char} :
    fieldStrcmp field entry value = 0 ↔ (field entry).val = value := by
  simp [fieldStrcmp]

@[simp] theorem idCmp_eq_zero {field : ε → UInt32} {entry : ε} {value : UInt32} :
    idCmp field entry value = 0 ↔ field entry = value := by
  unfold idCmp
  exact ⟨fun h => (intOfUint_inj (by omega)).symm, fun h => by rw [h]; omega⟩

end Comparators

/-! ## The lookups of the public interface -/

/-- The lookup of `nfs41_idmap_name_to_uid` and `nfs41_idmap_name_to_ids`. -/
def usernameLookup (username : List Char) : IdmapLookup IdmapUser :=
  ⟨.userName, .user, .str username, (usernameCmp · username)⟩

/-- The lookup of `nfs41_idmap_uid_to_name`. -/
def uidLookup (uid : UInt32) : IdmapLookup IdmapUser :=
  ⟨.uid, .user, .int uid, (uidCmp · uid)⟩

/-- The lookup of `nfs41_idmap_principal_to_ids`. -/
def principalLookup (principal : List Char) : IdmapLookup IdmapUser :=
  ⟨.principal, .user, .str principal, (principalCmp · principal)⟩

/-- The lookup of `nfs41_idmap_group_to_gid`. -/
def groupLookup (name : List Char) : IdmapLookup IdmapGroup :=
  ⟨.groupName, .group, .str name, (groupCmp · name)⟩

/-- The lookup of `nfs41_idmap_gid_to_group`. -/
def gidLookup (gid : UInt32) : IdmapLookup IdmapGroup :=
  ⟨.gid, .group, .int gid, (gidCmp · gid)⟩

end Nfs41Idmap
