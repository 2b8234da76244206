import Nfs41Idmap.ParseUint
import Mathlib.Logic.Function.Basic
import Mathlib.Data.List.Nodup
import Mathlib.Algebra.Group.Nat.Basic
import Mathlib.Algebra.Group.Int

/-!
# The configuration model: `struct idmap_config` and its option table

`g_options` lists every recognised key with its default, its type and the field it
fills. The source addresses a field by its byte offset; here an option names its field,
and an integer option can only name a `UINT` field, a string option only a string field
with the buffer size it is copied into, so the table cannot pair a type with the wrong
field. `cache_ttl` is the one integer field declared `INT`: `parse_uint` stores into it
through a `UINT *`, so the field holds the bits of the parsed value read as a signed
32-bit integer.

`NFS41_HOSTNAME_LEN` comes from a header that is not part of the sources; it is a
parameter `hostnameLen` of the table.

## Main results

* `configDefaults_eq` — every default passes its own check, given a host name buffer of
  at least `"localhost"`'s size, and gives the documented configuration
* `configFindOption_key` — the keys of `g_options` differ up to ASCII case, so
  `config_find_option` finds every option by its own key
-/

namespace Nfs41Idmap

/-- `enum ldap_class` -/
inductive LdapClass
  | user
  | group
  deriving DecidableEq, Repr

/-- `enum ldap_attr` -/
inductive LdapAttr
  | userName
  | groupName
  | principal
  | uid
  | gid
  deriving DecidableEq, Repr

/-- The position of an attribute in `enum ldap_attr`, the bit `ATTR_FLAG` sets. -/
def LdapAttr.index : LdapAttr → Nat
  | .userName => 0
  | .groupName => 1
  | .principal => 2
  | .uid => 3
  | .gid => 4

/-- `ATTR_ISSET(mask, attr)` -/
def attrIsset (mask : Nat) (attr : LdapAttr) : Bool := mask.testBit attr.index

/-- `enum config_type` -/
inductive ConfigType
  | str
  | int
  deriving DecidableEq, Repr

/-- `struct idmap_config`. Each string field holds the C string in its array. -/
structure IdmapConfig where
  hostname : List Char
  localdomainName : List Char
  port : UInt32
  version : UInt32
  timeout : UInt32
  classes : LdapClass → List Char
  attributes : LdapAttr → List Char
  base : List Char
  cacheTtl : Int

/-- The `INT` read of the bits of a `UINT`: two's complement on 32 bits. -/
def intOfUint (v : UInt32) : Int :=
  if v.toNat < 2 ^ 31 then v.toNat else (v.toNat : Int) - 2 ^ 32

theorem intOfUint_of_lt {v : UInt32} (h : v.toNat < 2 ^ 31) : intOfUint v = v.toNat := by
  simp only [intOfUint, if_pos h]

theorem intOfUint_neg {v : UInt32} (h : 2 ^ 31 ≤ v.toNat) : intOfUint v < 0 := by
  have : v.toNat < 2 ^ 32 := v.toNat_lt_size
  simp only [intOfUint, if_neg (not_lt.mpr h)]
  omega

/-- The `UINT` fields an integer option can fill; `cacheTtl` is declared `INT`. -/
inductive UintField
  | port
  | version
  | timeout
  | cacheTtl
  deriving DecidableEq, Repr

/-- The string fields a string option can fill. -/
inductive StrField
  | hostname
  | base
  | klass (c : LdapClass)
  | attr (a : LdapAttr)
  deriving DecidableEq, Repr

/-- The field an option fills, with its type: `OPT_INT`, or `OPT_STR` with the size of
the array it is copied into. -/
inductive ConfigTarget
  | int (field : UintField)
  | str (field : StrField) (maxLen : Nat)
  deriving DecidableEq, Repr

/-- `struct config_option` -/
structure ConfigOption where
  key : List Char
  defValue : List Char
  target : ConfigTarget
  deriving DecidableEq, Repr

/-- `OPT_INT(key, def, field)` -/
def optInt (key defValue : String) (field : UintField) : ConfigOption :=
  ⟨key.toList, defValue.toList, .int field⟩

/-- `OPT_STR(key, def, field, len)` -/
def optStr (key defValue : String) (field : StrField) (len : Nat) : ConfigOption :=
  ⟨key.toList, defValue.toList, .str field len⟩

/-- `OPT_CLASS(key, def, index)` -/
def optClass (key defValue : String) (c : LdapClass) : ConfigOption :=
  optStr key defValue (.klass c) nameLen

/-- `OPT_ATTR(key, def, index)` -/
def optAttr (key defValue : String) (a : LdapAttr) : ConfigOption :=
  optStr key defValue (.attr a) nameLen

/-- `g_options`: the recognised options, their defaults and their fields. -/
def gOptions (hostnameLen : Nat) : List ConfigOption :=
  [optStr "ldap_hostname" "localhost" .hostname (hostnameLen + 1),
   optInt "ldap_port" "389" .port,
   optInt "ldap_version" "3" .version,
   optInt "ldap_timeout" "0" .timeout,
   optStr "ldap_base" "cn=localhost" .base valLen,
   optClass "ldap_class_users" "user" .user,
   optClass "ldap_class_groups" "group" .group,
   optAttr "ldap_attr_username" "cn" .userName,
   optAttr "ldap_attr_groupname" "cn" .groupName,
   optAttr "ldap_attr_gssAuthName" "gssAuthName" .principal,
   optAttr "ldap_attr_uidNumber" "uidNumber" .uid,
   optAttr "ldap_attr_gidNumber" "gidNumber" .gid,
   optInt "cache_ttl" "6000" .cacheTtl]

namespace IdmapConfig

/-- `*(UINT *)((char *)config + option->offset) = v` -/
def storeUint (cfg : IdmapConfig) : UintField → UInt32 → IdmapConfig
  | .port, v => { cfg with port := v }
  | .version, v => { cfg with version := v }
  | .timeout, v => { cfg with timeout := v }
  | .cacheTtl, v => { cfg with cacheTtl := intOfUint v }

/-- The string field named by `field` after a copy left `s` in it. -/
def storeStr (cfg : IdmapConfig) : StrField → List Char → IdmapConfig
  | .hostname, s => { cfg with hostname := s }
  | .base, s => { cfg with base := s }
  | .klass c, s => { cfg with classes := Function.update cfg.classes c s }
  | .attr a, s => { cfg with attributes := Function.update cfg.attributes a s }

end IdmapConfig

/-- The typed store of `config_load`: `parse_uint` into an integer field, which fails with
`ERROR_INVALID_PARAMETER` and leaves the field alone, or `StringCchCopyNA` of the value's
characters into a string field, which fails with `ERROR_BUFFER_OVERFLOW` and leaves the
truncated copy. Returns the status and the configuration. -/
def configStore (errno : Nat) (cfg : IdmapConfig) (value : List Char) :
    ConfigTarget → Nat × IdmapConfig
  | .int field =>
    match (parseUint errno value).1 with
    | some v => (noError, cfg.storeUint field v)
    | none => (errorInvalidParameter, cfg)
  | .str field maxLen =>
    let r := stringCchCopyNA maxLen value value.length
    (if r.1 then noError else errorBufferOverflow, cfg.storeStr field r.2)

/-- `config_defaults`: parse every default of `g_options` into its field, stopping at the
first that fails. -/
def configDefaults (hostnameLen errno : Nat) (cfg : IdmapConfig) : Nat × IdmapConfig :=
  go (gOptions hostnameLen) cfg
where
  go : List ConfigOption → IdmapConfig → Nat × IdmapConfig
    | [], cfg => (noError, cfg)
    | o :: os, cfg =>
      match o.target with
      | .int field =>
        match (parseUint errno o.defValue).1 with
        | some v => go os (cfg.storeUint field v)
        | none => (errorInvalidParameter, cfg)
      | .str field maxLen =>
        let r := stringCchCopyA maxLen o.defValue
        if r.1 then go os (cfg.storeStr field r.2) else (errorBufferOverflow, cfg.storeStr field r.2)

/-- The configuration `config_defaults` produces: the documented default of every key. -/
def IdmapConfig.defaults (localdomainName : List Char) : IdmapConfig where
  hostname := "localhost".toList
  localdomainName := localdomainName
  port := 389
  version := 3
  timeout := 0
  classes
    | .user => "user".toList
    | .group => "group".toList
  attributes
    | .userName => "cn".toList
    | .groupName => "cn".toList
    | .principal => "gssAuthName".toList
    | .uid => "uidNumber".toList
    | .gid => "gidNumber".toList
  base := "cn=localhost".toList
  cacheTtl := 6000

/-- Every default passes its own check, once the host name buffer holds `"localhost"`:
`config_defaults` succeeds and sets every field to its documented default. -/
theorem configDefaults_eq {hostnameLen : Nat} (errno : Nat) (cfg : IdmapConfig)
    (hlen : 9 ≤ hostnameLen) :
    configDefaults hostnameLen errno cfg = (noError, IdmapConfig.defaults cfg.localdomainName) := by
  have hu : ∀ s : String, (strtoul s.toList).value ≠ ulongMax →
      (parseUint errno s.toList).1 = (parseUint 0 s.toList).1 :=
    fun s h => parseUint_errno_irrel h errno 0
  have hhost : stringCchCopyA (hostnameLen + 1) "localhost".toList = (true, "localhost".toList) :=
    stringCchCopyA_of_lt (by simp; omega)
  have hcopy : ∀ (n : Nat) (s : String), s.length < n →
      stringCchCopyA n s.toList = (true, s.toList) := fun n s h => stringCchCopyA_of_lt h
  simp only [configDefaults, configDefaults.go, gOptions, optStr, optInt, optClass, optAttr,
    hhost, hu "389" (by decide), hu "3" (by decide), hu "0" (by decide), hu "6000" (by decide),
    show (parseUint 0 "389".toList).1 = some 389 by decide,
    show (parseUint 0 "3".toList).1 = some 3 by decide,
    show (parseUint 0 "0".toList).1 = some 0 by decide,
    show (parseUint 0 "6000".toList).1 = some 6000 by decide,
    hcopy valLen "cn=localhost" (by decide), hcopy nameLen "user" (by decide),
    hcopy nameLen "group" (by decide), hcopy nameLen "cn" (by decide),
    hcopy nameLen "gssAuthName" (by decide), hcopy nameLen "uidNumber" (by decide),
    hcopy nameLen "gidNumber" (by decide), ↓reduceIte, IdmapConfig.storeStr, IdmapConfig.storeUint,
    IdmapConfig.defaults, Prod.mk.injEq, true_and, IdmapConfig.mk.injEq]
  refine ⟨funext ?_, funext ?_, by decide⟩
  · rintro (_ | _) <;> rfl
  · rintro (_ | _ | _ | _ | _) <;> rfl

/-- `_stricmp(a, b) == 0`: equal after ASCII lower-casing. -/
def stricmpEq (a b : List Char) : Bool := a.map Char.toLower = b.map Char.toLower

/-- `config_find_option`: the first option whose key matches ignoring case. -/
def configFindOption (hostnameLen : Nat) (key : List Char) : Option ConfigOption :=
  (gOptions hostnameLen).find? (fun o => stricmpEq key o.key)

private theorem gOptions_keys_nodup (hostnameLen : Nat) :
    ((gOptions hostnameLen).map fun o => o.key.map Char.toLower).Nodup := by
  simp only [gOptions, optStr, optInt, optClass, optAttr, List.map_cons, List.map_nil]
  decide

/-- `config_find_option` finds every option of the table by its own key. -/
theorem configFindOption_key {hostnameLen : Nat} {o : ConfigOption}
    (ho : o ∈ gOptions hostnameLen) : configFindOption hostnameLen o.key = some o := by
  let p := fun o' : ConfigOption => stricmpEq o.key o'.key
  obtain ⟨o', ho'⟩ : ∃ o', (gOptions hostnameLen).find? p = some o' :=
    Option.isSome_iff_exists.mp (List.find?_isSome.mpr ⟨o, ho, by simp [p, stricmpEq]⟩)
  have hkey : p o' = true := List.find?_some ho'
  simp only [p, stricmpEq, decide_eq_true_eq] at hkey
  exact ho'.trans (congrArg some (List.inj_on_of_nodup_map (gOptions_keys_nodup hostnameLen)
    (List.mem_of_find?_eq_some ho') ho hkey.symm))

end Nfs41Idmap
