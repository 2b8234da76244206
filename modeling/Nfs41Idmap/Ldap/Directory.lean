import Nfs41Idmap.Concurrent.Fresh

/-!
# The LDAP fetch against a directory of records

The theorems about runs of the mapper assume a backend that answers a lookup only with a
record its key selects (`UserFetchExact`, `GroupFetchExact`). For the LDAP build that
follows from what the directory holds and how it searches. A directory of records holds each
user and group record as an entry, under the configured class and attribute names with the
ids in decimal, and answers a search with the entries that pass the filter the text denotes,
values compared byte for byte (`RecordDirectory`).

A key whose printed text is made of `normal`s, a plain key, gets the filter of the two
equalities it is meant to have (`readFilter_idmapFilter`), so such a directory answers it
only with entries of records the key selects (`UserDirectoryExact`). Then `idmap_lookup_user`
and `idmap_lookup_group` answer exactly: they copy the names, and `parse_uint` reads back
every id that `%u` prints, so a successful fetch returns the record the directory holds. A
key with a filter metacharacter gets another filter (`idmapFilter_star_reads_as_presence`),
and its answer need not be a record it selects.

## Main definitions

* `UserKey.Plain`, `GroupKey.Plain` — keys that `idmap_filter` prints as a value of their own
* `UserRecord.InEntry`, `GroupRecord.InEntry` — a directory entry holding a record
* `UserDirectoryExact`, `GroupDirectoryExact` — a directory that answers the filter of each
  plain key only with entries of records the key selects
* `UserRecord.entry`, `GroupRecord.entry`, `RecordDirectory` — the entry a record is stored
  as, and a directory of records that evaluates filters byte for byte
* `IdmapConfig.NamesOk` — configured names under which the filters read as written
* `LdapClient.ofRecords` — the directory holding given records

## Main results

* `idmapQueryAttrs_eq_ok` — the values `idmap_query_attrs` returns are the first entry's
* `ldapFetchUser_eq_ok`, `ldapFetchGroup_eq_ok` — what a successful LDAP fetch read
* `ldapFetch_exact_of_directory` — against an exact directory the LDAP build's fetches are
  exact backends for plain keys, as the theorems about runs of the mapper assume
* `directoryExact_of_recordDirectory` — a directory of records is exact
* `recordDirectory_ofRecords` — `LdapClient.ofRecords` is a directory of records
-/

namespace Nfs41Idmap

/-! ## What a successful fetch read -/

section Fetch

variable {client : LdapClient} {config : IdmapConfig} {errno now : Nat}

/-- `idmap_query_attrs` succeeds only on a first entry, and returns the values of that
entry for the attributes it asked for. -/
theorem idmapQueryAttrs_eq_ok {ε : Type} {lookup : IdmapLookup ε} {attributes optional : Nat}
    {values : LdapAttr → Option (List Char)}
    (h : idmapQueryAttrs client config lookup attributes optional = .ok values) :
    ∃ filter entry rest, idmapFilter config lookup filterLen = .ok filter ∧
      client.search config.base filter = .ok (entry :: rest) ∧
      ∀ attr, attrIsset attributes attr = true → values attr = entry (config.attributes attr) := by
  unfold idmapQueryAttrs at h
  split at h
  · cases h
  · rename_i filter hf
    split at h
    · cases h
    · cases h
    · rename_i entry rest hs
      dsimp only at h
      split_ifs at h
      cases h
      exact ⟨filter, entry, rest, hf, hs, fun _ ha => if_pos ha⟩

/-- A successful LDAP user fetch copied a user name and a principal that fit, and stored
the ids `parse_uint` read in turn. -/
theorem ldapFetchUser_eq_ok {lookup : IdmapLookup IdmapUser} {user : IdmapUser}
    (h : (ldapFetchUser client config errno lookup user now).1 = noError) :
    ∃ values uid errno' gid,
      idmapQueryAttrs client config lookup userAttributes userOptional = .ok values ∧
      ((values .userName).getD []).length < valLen ∧
      ((values .principal).getD []).length < valLen ∧
      parseUint errno ((values .uid).getD []) = (some uid, errno') ∧
      (parseUint errno' ((values .gid).getD [])).1 = some gid ∧
      (ldapFetchUser client config errno lookup user now).2 =
        ⟨.copy ((values .userName).getD []), .copy ((values .principal).getD []), uid, gid, now⟩ := by
  unfold ldapFetchUser at h ⊢
  cases hq : idmapQueryAttrs client config lookup userAttributes userOptional with
  | error status =>
    rw [hq] at h
    exact absurd h (idmapQueryAttrs_error_ne_zero hq)
  | ok values =>
    rw [hq] at h
    dsimp only at h ⊢
    split_ifs at h ⊢ with hname hprincipal
    · simp [errorBufferOverflow, noError] at h
    · simp [errorBufferOverflow, noError] at h
    simp only [stringCchCopyA, Bool.not_eq_true', decide_eq_false_iff_not, not_not] at hname hprincipal
    rcases hu : parseUint errno ((values .uid).getD []) with ⟨_ | uid, e⟩ <;> simp only [hu] at h ⊢
    · simp [errorInvalidParameter, noError] at h
    rcases hg : parseUint e ((values .gid).getD []) with ⟨_ | gid, e'⟩ <;> simp only [hg] at h ⊢
    · simp [errorInvalidParameter, noError] at h
    exact ⟨values, uid, e, gid, rfl, hname, hprincipal, hu, by rw [hg], rfl⟩

/-- A successful LDAP group fetch copied a name that fits and stored the gid `parse_uint`
read. -/
theorem ldapFetchGroup_eq_ok {lookup : IdmapLookup IdmapGroup} {group : IdmapGroup}
    (h : (ldapFetchGroup client config errno lookup group now).1 = noError) :
    ∃ values gid, idmapQueryAttrs client config lookup groupAttributes 0 = .ok values ∧
      ((values .groupName).getD []).length < valLen ∧
      (parseUint errno ((values .gid).getD [])).1 = some gid ∧
      (ldapFetchGroup client config errno lookup group now).2 =
        ⟨.copy ((values .groupName).getD []), gid, now⟩ := by
  unfold ldapFetchGroup at h ⊢
  cases hq : idmapQueryAttrs client config lookup groupAttributes 0 with
  | error status =>
    rw [hq] at h
    exact absurd h (idmapQueryAttrs_error_ne_zero hq)
  | ok values =>
    rw [hq] at h
    dsimp only at h ⊢
    split_ifs at h ⊢ with hname
    · simp [errorBufferOverflow, noError] at h
    simp only [stringCchCopyA, Bool.not_eq_true', decide_eq_false_iff_not, not_not] at hname
    rcases hg : parseUint errno ((values .gid).getD []) with ⟨_ | gid, e⟩ <;> simp only [hg] at h ⊢
    · simp [errorInvalidParameter, noError] at h
    exact ⟨values, gid, rfl, hname, by rw [hg], rfl⟩

end Fetch

/-! ## Plain keys -/

/-- The key holds no character the filter grammar reads otherwise: a user name or principal
made of `normal`s, one-byte value characters and whole multi-byte characters, which
`idmap_filter` prints as a value of its own. A uid is printed in decimal. -/
def UserKey.Plain : UserKey → Prop
  | .name k | .principal k => isNormalText k = true
  | .uid _ => True

/-- The key holds no character the filter grammar reads otherwise. -/
def GroupKey.Plain : GroupKey → Prop
  | .name k => isNormalText k = true
  | .gid _ => True

instance UserKey.decidablePlain : DecidablePred UserKey.Plain
  | .name k | .principal k => inferInstanceAs (Decidable (isNormalText k = true))
  | .uid _ => inferInstanceAs (Decidable True)

instance GroupKey.decidablePlain : DecidablePred GroupKey.Plain
  | .name k => inferInstanceAs (Decidable (isNormalText k = true))
  | .gid _ => inferInstanceAs (Decidable True)

/-- A plain key is printed as a text of `normal`s. -/
theorem UserKey.Plain.text {key : UserKey} (h : key.Plain) :
    isNormalText key.lookup.value.text = true := by
  cases key with
  | name k => exact h
  | principal k => exact h
  | uid u => exact isNormalText_toDigits _

theorem GroupKey.Plain.text {key : GroupKey} (h : key.Plain) :
    isNormalText key.lookup.value.text = true := by
  cases key with
  | name k => exact h
  | gid g => exact isNormalText_toDigits _

/-! ## Exact directories -/

/-- The directory entry holds the user record under the configured attribute names: its
ids as `%u` prints them, and no principal attribute when the record has none. -/
def UserRecord.InEntry (rec : UserRecord) (config : IdmapConfig) (entry : LdapEntry) : Prop :=
  entry (config.attributes .userName) = some rec.username ∧
    entry (config.attributes .principal) = rec.principal ∧
    entry (config.attributes .uid) = some (Nat.toDigits 10 rec.uid.toNat) ∧
    entry (config.attributes .gid) = some (Nat.toDigits 10 rec.gid.toNat)

/-- The directory entry holds the group record under the configured attribute names. -/
def GroupRecord.InEntry (rec : GroupRecord) (config : IdmapConfig) (entry : LdapEntry) : Prop :=
  entry (config.attributes .groupName) = some rec.name ∧
    entry (config.attributes .gid) = some (Nat.toDigits 10 rec.gid.toNat)

/-- At every instant, the first entry the directory answers the search of a plain user key's
filter with holds one of that instant's user records, which the key selects. -/
def UserDirectoryExact (client : Nat → LdapClient) (config : IdmapConfig)
    (userDb : Nat → List UserRecord) : Prop :=
  ∀ t (key : UserKey), key.Plain → ∀ filter entry rest,
    idmapFilter config key.lookup filterLen = .ok filter →
    (client t).search config.base filter = .ok (entry :: rest) →
    ∃ rec ∈ userDb t, rec.InEntry config entry ∧ key.Selects rec

/-- At every instant, the first entry the directory answers the search of a plain group
key's filter with holds one of that instant's group records, which the key selects. -/
def GroupDirectoryExact (client : Nat → LdapClient) (config : IdmapConfig)
    (groupDb : Nat → List GroupRecord) : Prop :=
  ∀ t (key : GroupKey), key.Plain → ∀ filter entry rest,
    idmapFilter config key.lookup filterLen = .ok filter →
    (client t).search config.base filter = .ok (entry :: rest) →
    ∃ rec ∈ groupDb t, rec.InEntry config entry ∧ key.Selects rec

section Exact

variable {client : Nat → LdapClient} {config : IdmapConfig}

theorem userFetchExact_of_directory {userDb : Nat → List UserRecord}
    (h : UserDirectoryExact client config userDb) :
    UserFetchExact userDb
      ((codeFetchUser (fun t => .ldap (client t)) config).restrict UserKey.Plain) := by
  rintro t key work r ⟨hplain, errno, rfl⟩ hok
  simp only [fetchUser] at hok ⊢
  obtain ⟨values, uid, errno', gid, hq, hname, hprincipal, hu, hg, hr⟩ := ldapFetchUser_eq_ok hok
  obtain ⟨filter, entry, rest, hf, hs, hv⟩ := idmapQueryAttrs_eq_ok hq
  obtain ⟨rec, hmem, ⟨e1, e2, e3, e4⟩, hsel⟩ := h t key hplain filter entry rest hf hs
  rw [hv .userName (by decide), e1] at hname
  rw [hv .principal (by decide), e2] at hprincipal
  rw [hv .uid (by decide), e3, Option.getD_some, parseUint_toDigits] at hu
  obtain ⟨huid, rfl⟩ := Prod.mk.inj hu
  rw [hv .gid (by decide), e4, Option.getD_some, parseUint_toDigits] at hg
  refine ⟨rec, hmem, ?_, hsel⟩
  rw [hr, hv .userName (by decide), hv .principal (by decide), e1, e2]
  refine ⟨ValStr.copy_of_lt hname, ValStr.copy_of_lt hprincipal, ?_, ?_⟩
  · split_ifs at huid
    cases huid
    rfl
  · split_ifs at hg
    cases hg
    rfl

theorem groupFetchExact_of_directory {groupDb : Nat → List GroupRecord}
    (h : GroupDirectoryExact client config groupDb) :
    GroupFetchExact groupDb
      ((codeFetchGroup (fun t => .ldap (client t)) config).restrict GroupKey.Plain) := by
  rintro t key work r ⟨hplain, errno, rfl⟩ hok
  simp only [fetchGroup] at hok ⊢
  obtain ⟨values, gid, hq, hname, hg, hr⟩ := ldapFetchGroup_eq_ok hok
  obtain ⟨filter, entry, rest, hf, hs, hv⟩ := idmapQueryAttrs_eq_ok hq
  obtain ⟨rec, hmem, ⟨e1, e2⟩, hsel⟩ := h t key hplain filter entry rest hf hs
  rw [hv .groupName (by decide), e1] at hname
  rw [hv .gid (by decide), e2, Option.getD_some, parseUint_toDigits] at hg
  refine ⟨rec, hmem, ?_, hsel⟩
  rw [hr, hv .groupName (by decide), e1]
  refine ⟨ValStr.copy_of_lt hname, ?_⟩
  split_ifs at hg
  cases hg
  rfl

/-- Against a directory that answers the filter of each plain key only with entries of
records the key selects, the LDAP build's `idmap_lookup_user` and `idmap_lookup_group`,
called with plain keys, are exact backends: every answer they return without error holds
such a record, whatever the thread's `errno`. -/
theorem ldapFetch_exact_of_directory {userDb : Nat → List UserRecord}
    {groupDb : Nat → List GroupRecord} (hu : UserDirectoryExact client config userDb)
    (hg : GroupDirectoryExact client config groupDb) :
    UserFetchExact userDb
        ((codeFetchUser (fun t => .ldap (client t)) config).restrict UserKey.Plain) ∧
      GroupFetchExact groupDb
        ((codeFetchGroup (fun t => .ldap (client t)) config).restrict GroupKey.Plain) :=
  ⟨userFetchExact_of_directory hu, groupFetchExact_of_directory hg⟩

end Exact

/-! ## Directories of records -/

/-- The entry a user record is stored as: the user class, and the fields under the
configured attribute names, the ids in the decimal text `%u` prints, and no principal
attribute when the record has none. -/
def UserRecord.entry (config : IdmapConfig) (rec : UserRecord) : LdapEntry := fun attr =>
  if attr = "objectClass".toList then some (config.classes .user)
  else if attr = config.attributes .userName then some rec.username
  else if attr = config.attributes .principal then rec.principal
  else if attr = config.attributes .uid then some (Nat.toDigits 10 rec.uid.toNat)
  else if attr = config.attributes .gid then some (Nat.toDigits 10 rec.gid.toNat)
  else none

/-- The entry a group record is stored as. -/
def GroupRecord.entry (config : IdmapConfig) (rec : GroupRecord) : LdapEntry := fun attr =>
  if attr = "objectClass".toList then some (config.classes .group)
  else if attr = config.attributes .groupName then some rec.name
  else if attr = config.attributes .gid then some (Nat.toDigits 10 rec.gid.toNat)
  else none

/-- At every instant `t` the directory holds the records of `userDb t` and `groupDb t`, each
as its entry, and answers a search only with entries it holds that pass the filter the text
denotes, values compared byte for byte. -/
def RecordDirectory (client : Nat → LdapClient) (config : IdmapConfig)
    (userDb : Nat → List UserRecord) (groupDb : Nat → List GroupRecord) : Prop :=
  ∀ t filter es, (client t).search config.base filter = .ok es →
    ∃ f, readFilter filter = some f ∧ ∀ e ∈ es, f.eval e = true ∧
      ((∃ rec ∈ userDb t, e = rec.entry config) ∨ ∃ rec ∈ groupDb t, e = rec.entry config)

/-- Configured names under which the filters of `idmap_filter` read as written and the
fields of a record are told apart: the class and attribute names are descriptors, the two
classes differ, and the names a record is stored under differ from each other. -/
structure IdmapConfig.NamesOk (config : IdmapConfig) : Prop where
  classes_descr : ∀ k, isDescr (config.classes k) = true
  attributes_descr : ∀ a, isDescr (config.attributes a) = true
  classes_ne : config.classes .user ≠ config.classes .group
  user_nodup : ["objectClass".toList, config.attributes .userName, config.attributes .principal,
    config.attributes .uid, config.attributes .gid].Nodup
  group_nodup : ["objectClass".toList, config.attributes .groupName,
    config.attributes .gid].Nodup

/-- The names of the default configuration are such names. -/
theorem IdmapConfig.defaults_namesOk (localdomainName : List Char) :
    (IdmapConfig.defaults localdomainName).NamesOk :=
  ⟨fun k => by cases k <;> rfl, fun a => by cases a <;> rfl, by dsimp only [defaults]; decide,
    by dsimp only [defaults]; decide, by dsimp only [defaults]; decide⟩

/-- `LDAP_FILTER_ERROR` -/
def ldapFilterError : Nat := 0x57

/-- The directory holding the records under the configured names, which answers every search
with the entries that pass the filter, users first, and a text that denotes no filter with
`LDAP_FILTER_ERROR`. -/
def LdapClient.ofRecords (config : IdmapConfig) (users : List UserRecord)
    (groups : List GroupRecord) : LdapClient where
  search _ filter :=
    match readFilter filter with
    | some f => .ok ((users.map (UserRecord.entry config) ++
        groups.map (GroupRecord.entry config)).filter f.eval)
    | none => .error ldapFilterError
  mapError e := e
  search_error_ne_zero _ filter e h := by
    simp only at h
    split at h <;> cases h
    decide
  mapError_ne_zero _ h := h

/-- The directory holding the records of each instant is a directory of records. -/
theorem recordDirectory_ofRecords (config : IdmapConfig) (userDb : Nat → List UserRecord)
    (groupDb : Nat → List GroupRecord) :
    RecordDirectory (fun t => .ofRecords config (userDb t) (groupDb t)) config userDb groupDb := by
  intro t filter es hs
  simp only [LdapClient.ofRecords] at hs
  split at hs
  · next f hf =>
    cases hs
    refine ⟨f, hf, fun e he => ?_⟩
    obtain ⟨hmem, hpass⟩ := List.mem_filter.mp he
    refine ⟨hpass, ?_⟩
    rcases List.mem_append.mp hmem with h | h
    · obtain ⟨rec, hrec, rfl⟩ := List.mem_map.mp h
      exact .inl ⟨rec, hrec, rfl⟩
    · obtain ⟨rec, hrec, rfl⟩ := List.mem_map.mp h
      exact .inr ⟨rec, hrec, rfl⟩
  · cases hs

section Records

variable {config : IdmapConfig}

theorem UserRecord.inEntry_entry (hnames : config.NamesOk) (rec : UserRecord) :
    rec.InEntry config (rec.entry config) := by
  have h := hnames.user_nodup
  simp only [List.nodup_cons, List.mem_cons, List.mem_singleton, not_or, List.not_mem_nil,
    not_false_eq_true, and_true, List.nodup_nil] at h
  obtain ⟨⟨h1, h2, h3, h4⟩, ⟨h5, h6, h7⟩, ⟨h8, h9⟩, h10⟩ := h
  simp only [UserRecord.InEntry, UserRecord.entry, Ne.symm h1, Ne.symm h2, Ne.symm h3,
    Ne.symm h4, Ne.symm h5, Ne.symm h6, Ne.symm h7, Ne.symm h8, Ne.symm h9, Ne.symm h10,
    if_true, if_false, and_self]

theorem GroupRecord.inEntry_entry (hnames : config.NamesOk) (rec : GroupRecord) :
    rec.InEntry config (rec.entry config) := by
  have h := hnames.group_nodup
  simp only [List.nodup_cons, List.mem_cons, List.mem_singleton, not_or, List.not_mem_nil,
    not_false_eq_true, and_true, List.nodup_nil] at h
  obtain ⟨⟨h1, h2⟩, h3⟩ := h
  simp only [GroupRecord.InEntry, GroupRecord.entry, Ne.symm h1, Ne.symm h2, Ne.symm h3,
    if_true, if_false, and_self]

/-- An entry holding a record whose looked-up attribute has the printed key is one the key
selects. -/
theorem UserKey.selects_of_inEntry {key : UserKey} {rec : UserRecord} {e : LdapEntry}
    (hin : rec.InEntry config e)
    (hattr : e (config.attributes key.lookup.attr) = some key.lookup.value.text) :
    key.Selects rec := by
  obtain ⟨h1, h2, h3, -⟩ := hin
  cases key with
  | name k => exact Option.some.inj (h1.symm.trans hattr)
  | principal k =>
    have hp : rec.principal = some k := h2.symm.trans hattr
    simp [UserKey.Selects, hp]
  | uid u =>
    exact toDigits_uint_inj (Option.some.inj (h3.symm.trans hattr))

theorem GroupKey.selects_of_inEntry {key : GroupKey} {rec : GroupRecord} {e : LdapEntry}
    (hin : rec.InEntry config e)
    (hattr : e (config.attributes key.lookup.attr) = some key.lookup.value.text) :
    key.Selects rec := by
  obtain ⟨h1, h2⟩ := hin
  cases key with
  | name k => exact Option.some.inj (h1.symm.trans hattr)
  | gid g => exact toDigits_uint_inj (Option.some.inj (h2.symm.trans hattr))

variable {client : Nat → LdapClient} {userDb : Nat → List UserRecord}
  {groupDb : Nat → List GroupRecord}

theorem userDirectoryExact_of_recordDirectory (hdir : RecordDirectory client config userDb groupDb)
    (hnames : config.NamesOk) : UserDirectoryExact client config userDb := by
  intro t key hplain filter entry rest hf hs
  obtain ⟨f, hread, hes⟩ := hdir t filter _ hs
  obtain ⟨hpass, hrec⟩ := hes entry (.head _)
  rw [readFilter_idmapFilter hplain.text (hnames.classes_descr _) (hnames.attributes_descr _) hf]
    at hread
  cases hread
  obtain ⟨hclass, hattr⟩ := eval_and_equalities.mp hpass
  rcases hrec with ⟨rec, hmem, rfl⟩ | ⟨rec, -, rfl⟩
  · exact ⟨rec, hmem, rec.inEntry_entry hnames, key.selects_of_inEntry (rec.inEntry_entry hnames)
      hattr⟩
  · -- a group entry holds the group class, which the filter of a user key does not ask for
    cases key <;> exact absurd (Option.some.inj hclass) hnames.classes_ne.symm

theorem groupDirectoryExact_of_recordDirectory
    (hdir : RecordDirectory client config userDb groupDb) (hnames : config.NamesOk) :
    GroupDirectoryExact client config groupDb := by
  intro t key hplain filter entry rest hf hs
  obtain ⟨f, hread, hes⟩ := hdir t filter _ hs
  obtain ⟨hpass, hrec⟩ := hes entry (.head _)
  rw [readFilter_idmapFilter hplain.text (hnames.classes_descr _) (hnames.attributes_descr _) hf]
    at hread
  cases hread
  obtain ⟨hclass, hattr⟩ := eval_and_equalities.mp hpass
  rcases hrec with ⟨rec, -, rfl⟩ | ⟨rec, hmem, rfl⟩
  · cases key <;> exact absurd (Option.some.inj hclass) hnames.classes_ne
  · exact ⟨rec, hmem, rec.inEntry_entry hnames, key.selects_of_inEntry (rec.inEntry_entry hnames)
      hattr⟩

/-- A directory that holds the records of each instant as entries under configured names
that the filters read as written, and answers a search only with entries that pass the
filter, values compared byte for byte, is exact: the first entry it answers a plain key's
filter with holds a record of that instant that the key selects. -/
theorem directoryExact_of_recordDirectory (hdir : RecordDirectory client config userDb groupDb)
    (hnames : config.NamesOk) :
    UserDirectoryExact client config userDb ∧ GroupDirectoryExact client config groupDb :=
  ⟨userDirectoryExact_of_recordDirectory hdir hnames,
    groupDirectoryExact_of_recordDirectory hdir hnames⟩

end Records

/-! ## A directory of two users and a group -/

/-- `alice`, who has a principal. -/
def aliceRecord : UserRecord := ⟨"alice".toList, some "alice@LOCAL".toList, 1000, 513⟩

/-- `bob`, who has none. -/
def bobRecord : UserRecord := ⟨"bob".toList, none, 1001, 513⟩

/-- The group of both. -/
def usersRecord : GroupRecord := ⟨"users".toList, 513⟩

/-- The directory holding `alice`, `bob` and their group under the names of the default
configuration. -/
def pairDirectory : LdapClient :=
  .ofRecords (IdmapConfig.defaults []) [aliceRecord, bobRecord] [usersRecord]

/-- The directory of two users and a group is exact. -/
theorem pairDirectory_exact :
    UserDirectoryExact (fun _ => pairDirectory) (IdmapConfig.defaults [])
        (fun _ => [aliceRecord, bobRecord]) ∧
      GroupDirectoryExact (fun _ => pairDirectory) (IdmapConfig.defaults []) (fun _ => [usersRecord]) :=
  have hdir := recordDirectory_ofRecords (IdmapConfig.defaults [])
    (fun _ => [aliceRecord, bobRecord]) (fun _ => [usersRecord])
  ⟨userDirectoryExact_of_recordDirectory hdir (IdmapConfig.defaults_namesOk []),
    groupDirectoryExact_of_recordDirectory hdir (IdmapConfig.defaults_namesOk [])⟩

theorem ldapFetch_exact_of_directory_pair :
    UserDirectoryExact (fun _ => pairDirectory) (IdmapConfig.defaults [])
        (fun _ => [aliceRecord, bobRecord]) ∧
      GroupDirectoryExact (fun _ => pairDirectory) (IdmapConfig.defaults []) (fun _ => [usersRecord]) ∧
      (UserFetchExact (fun _ => [aliceRecord, bobRecord])
          ((codeFetchUser (fun _ => .ldap pairDirectory) (IdmapConfig.defaults [])).restrict
            UserKey.Plain) ∧
        GroupFetchExact (fun _ => [usersRecord])
          ((codeFetchGroup (fun _ => .ldap pairDirectory) (IdmapConfig.defaults [])).restrict
            GroupKey.Plain)) :=
  ⟨pairDirectory_exact.1, pairDirectory_exact.2,
    ldapFetch_exact_of_directory pairDirectory_exact.1 pairDirectory_exact.2⟩

theorem directoryExact_of_recordDirectory_pair :
    RecordDirectory (fun _ => pairDirectory) (IdmapConfig.defaults [])
        (fun _ => [aliceRecord, bobRecord]) (fun _ => [usersRecord]) ∧
      (IdmapConfig.defaults []).NamesOk ∧
      (UserDirectoryExact (fun _ => pairDirectory) (IdmapConfig.defaults [])
          (fun _ => [aliceRecord, bobRecord]) ∧
        GroupDirectoryExact (fun _ => pairDirectory) (IdmapConfig.defaults [])
          (fun _ => [usersRecord])) :=
  have hdir := recordDirectory_ofRecords (IdmapConfig.defaults [])
    (fun _ => [aliceRecord, bobRecord]) (fun _ => [usersRecord])
  ⟨hdir, IdmapConfig.defaults_namesOk [],
    directoryExact_of_recordDirectory hdir (IdmapConfig.defaults_namesOk [])⟩

/-- The directory answers the name `bob` with his entry, and the name `*`, whose filter is a
presence test, with every user's. -/
example :
    (pairDirectory.search [] "(&(objectClass=user)(cn=bob))".toList).map List.length = .ok 1 ∧
      (pairDirectory.search [] "(&(objectClass=user)(cn=*))".toList).map List.length = .ok 2 :=
  ⟨rfl, rfl⟩

end Nfs41Idmap
