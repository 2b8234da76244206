import Nfs41Idmap.Config.Load

/-!
# `config_init`: the defaults, then the file

`config_init` runs `config_defaults` and then `config_load`. Every store either of them
makes goes through one option of `g_options` into the field that option names, so a field
changes only when an option naming it is stored: the local domain name, which no option
names, is never touched, and a field whose option no line of the file names keeps its
documented default.

## Main definitions

* `ConfigField`, `IdmapConfig.get` — the fields an option can fill, and what one holds
* `configInit` — `config_init`

## Main results

* `configLoadBuffer_cases` — one buffer leaves the configuration alone, or stores the value
  of the option its key finds
* `configLoadLoop_of_buffers` — what every buffer keeps, the whole loop keeps
* `configInit_localdomainName` — `config_init` never changes the local domain name
* `configInit_unnamed_default` — after `config_init`, a field whose option no line of the
  file names holds its documented default
-/

namespace Nfs41Idmap

/-! ## The fields of the configuration -/

/-- A field of `struct idmap_config` that an option of `g_options` can fill. -/
inductive ConfigField
  | uint (field : UintField)
  | str (field : StrField)
  deriving DecidableEq, Repr

/-- The field an option fills, without its type's details. -/
def ConfigTarget.field : ConfigTarget → ConfigField
  | .int field => .uint field
  | .str field _ => .str field

/-- What a field of the configuration holds: a `UINT`, the `INT` field `cache_ttl`, or a
string. -/
inductive ConfigValue
  | uint (v : UInt32)
  | int (v : Int)
  | str (s : List Char)
  deriving DecidableEq, Repr

namespace IdmapConfig

/-- The value of one field of the configuration. -/
def get (cfg : IdmapConfig) : ConfigField → ConfigValue
  | .uint .port => .uint cfg.port
  | .uint .version => .uint cfg.version
  | .uint .timeout => .uint cfg.timeout
  | .uint .cacheTtl => .int cfg.cacheTtl
  | .str .hostname => .str cfg.hostname
  | .str .base => .str cfg.base
  | .str (.klass c) => .str (cfg.classes c)
  | .str (.attr a) => .str (cfg.attributes a)

variable {cfg : IdmapConfig} {g : ConfigField}

@[simp] theorem storeUint_localdomainName (cfg : IdmapConfig) (f : UintField) (v : UInt32) :
    (cfg.storeUint f v).localdomainName = cfg.localdomainName := by
  cases f <;> rfl

@[simp] theorem storeStr_localdomainName (cfg : IdmapConfig) (f : StrField) (s : List Char) :
    (cfg.storeStr f s).localdomainName = cfg.localdomainName := by
  cases f <;> rfl

/-- A `UINT` store changes only its own field. -/
theorem get_storeUint_of_ne {f : UintField} (v : UInt32) (h : g ≠ .uint f) :
    (cfg.storeUint f v).get g = cfg.get g := by
  cases f <;> rcases g with (_ | _ | _ | _) | (_ | _ | _ | _) <;> simp_all [storeUint, get]

/-- A string store changes only its own field. -/
theorem get_storeStr_of_ne {f : StrField} (s : List Char) (h : g ≠ .str f) :
    (cfg.storeStr f s).get g = cfg.get g := by
  cases f <;> rcases g with (_ | _ | _ | _) | (_ | _ | c | a) <;>
    simp_all [storeStr, get, Function.update_noteq, Ne.symm]

end IdmapConfig

/-- The typed store of `config_load` changes only the field of its target. -/
theorem configStore_get_of_ne {g : ConfigField} (errno : Nat) (cfg : IdmapConfig)
    (value : List Char) {t : ConfigTarget} (h : g ≠ t.field) :
    (configStore errno cfg value t).2.get g = cfg.get g := by
  cases t with
  | int f =>
    simp only [configStore]
    split
    · exact IdmapConfig.get_storeUint_of_ne _ h
    · rfl
  | str f maxLen => exact IdmapConfig.get_storeStr_of_ne _ h

@[simp] theorem configStore_localdomainName (errno : Nat) (cfg : IdmapConfig)
    (value : List Char) (t : ConfigTarget) :
    (configStore errno cfg value t).2.localdomainName = cfg.localdomainName := by
  cases t with
  | int f =>
    simp only [configStore]
    split <;> simp
  | str f maxLen => simp [configStore]

/-! ## One buffer, then the loop -/

/-- What `config_load` does with one buffer: nothing, or the store of the value of a line
that parses into the option its key finds. -/
theorem configLoadBuffer_cases (hostnameLen errno : Nat) (cfg : IdmapConfig)
    (buffer : List Char) :
    (configLoadBuffer hostnameLen errno cfg buffer).2 = cfg ∨
      ∃ pair option, configParsePair (buffer.takeWhile (· ≠ '\x00')) = .ok pair ∧
        configFindOption hostnameLen pair.key = some option ∧
        (configLoadBuffer hostnameLen errno cfg buffer).2 =
          (configStore errno cfg pair.value option.target).2 := by
  simp only [configLoadBuffer]
  split
  · exact .inl rfl
  · split
    · exact .inl rfl
    · split
      · exact .inl rfl
      · rename_i pair hpair
        split
        · exact .inl rfl
        · rename_i option hoption
          exact .inr ⟨pair, option, hpair, hoption, rfl⟩

/-- A property of the configuration that every buffer of the file keeps holds after the
whole loop, whether it stops early or not. -/
theorem configLoadLoop_of_buffers {hostnameLen errno : Nat} {P : IdmapConfig → Prop}
    {buffers : List (List Char)}
    (hbuf : ∀ buffer ∈ buffers, ∀ cfg, P cfg → P (configLoadBuffer hostnameLen errno cfg buffer).2)
    {cfg : IdmapConfig} (h : P cfg) : P (configLoadLoop hostnameLen errno cfg buffers).2 := by
  induction buffers generalizing cfg with
  | nil => exact h
  | cons buffer buffers ih =>
    have hb := hbuf buffer (.head _) cfg h
    simp only [configLoadLoop]
    split
    · exact ih (fun b hb => hbuf b (.tail _ hb)) hb
    · exact hb

theorem configLoad_localdomainName (hostnameLen errno : Nat) (cfg : IdmapConfig)
    (file : Option (List Char)) :
    (configLoad hostnameLen errno cfg file).2.localdomainName = cfg.localdomainName := by
  cases file with
  | none => rfl
  | some text =>
    refine configLoadLoop_of_buffers (P := fun c => c.localdomainName = cfg.localdomainName)
      (fun buffer _ c hc => ?_) rfl
    rcases configLoadBuffer_cases hostnameLen errno c buffer with h | ⟨_, _, _, _, h⟩ <;>
      simp [h, hc]

/-- A field that no option found by a line of the file names keeps its value through
`config_load`. -/
theorem configLoad_get_of_unnamed {hostnameLen errno : Nat} {cfg : IdmapConfig}
    {text : List Char} {g : ConfigField}
    (hunnamed : ∀ buffer ∈ fgetsBuffers text, ∀ pair option,
      configParsePair (buffer.takeWhile (· ≠ '\x00')) = .ok pair →
      configFindOption hostnameLen pair.key = some option → option.target.field ≠ g) :
    (configLoad hostnameLen errno cfg (some text)).2.get g = cfg.get g := by
  refine configLoadLoop_of_buffers (P := fun c => c.get g = cfg.get g)
    (fun buffer hb c hc => ?_) rfl
  rcases configLoadBuffer_cases hostnameLen errno c buffer with h | ⟨pair, o, hp, ho, h⟩
  · rw [h, hc]
  · rw [h, configStore_get_of_ne _ _ _ (hunnamed buffer hb pair o hp ho).symm, hc]

/-! ## `config_init` -/

/-- `config_init(config)`: `config_defaults`, then `config_load` of the file's text (`none`
when it cannot be opened), stopping after the first that fails. -/
def configInit (hostnameLen errno : Nat) (cfg : IdmapConfig) (file : Option (List Char)) :
    Nat × IdmapConfig :=
  let r := configDefaults hostnameLen errno cfg
  if r.1 ≠ noError then r else configLoad hostnameLen errno r.2 file

theorem configDefaults_localdomainName (hostnameLen errno : Nat) (cfg : IdmapConfig) :
    (configDefaults hostnameLen errno cfg).2.localdomainName = cfg.localdomainName := by
  suffices ∀ os cfg, (configDefaults.go errno os cfg).2.localdomainName = cfg.localdomainName
    from this _ cfg
  intro os
  induction os with
  | nil => intro _; rfl
  | cons o os ih =>
    intro cfg
    simp only [configDefaults.go]
    split
    · split <;> simp [ih]
    · split <;> simp [ih]

/-- `config_init` never changes the local domain name: no option of `g_options` names it. -/
theorem configInit_localdomainName (hostnameLen errno : Nat) (cfg : IdmapConfig)
    (file : Option (List Char)) :
    (configInit hostnameLen errno cfg file).2.localdomainName = cfg.localdomainName := by
  simp only [configInit]
  split
  · exact configDefaults_localdomainName _ _ _
  · rw [configLoad_localdomainName, configDefaults_localdomainName]

/-- Every field is named by exactly one option of `g_options`. -/
theorem gOptions_fields_nodup (hostnameLen : Nat) :
    ((gOptions hostnameLen).map fun o => o.target.field).Nodup := by
  simp only [gOptions, optStr, optInt, optClass, optAttr, List.map_cons, List.map_nil,
    ConfigTarget.field]
  decide

/-- The option `config_find_option` returns is one of `g_options` whose key matches. -/
theorem configFindOption_mem {hostnameLen : Nat} {key : List Char} {o : ConfigOption}
    (h : configFindOption hostnameLen key = some o) :
    o ∈ gOptions hostnameLen ∧ stricmpEq key o.key = true := by
  simp only [configFindOption] at h
  have hkey := List.find?_some h
  exact ⟨List.mem_of_find?_eq_some h, hkey⟩

/-- After `config_init`, an option of `g_options` whose key no line of the file matches
(ignoring case) holds its documented default, whatever the other lines set and whether or
not the load stopped at a bad line. -/
theorem configInit_unnamed_default {hostnameLen : Nat} (errno : Nat) (cfg : IdmapConfig)
    (text : List Char) {o : ConfigOption} (hlen : 9 ≤ hostnameLen)
    (ho : o ∈ gOptions hostnameLen)
    (hunnamed : ∀ buffer ∈ fgetsBuffers text, ∀ pair,
      configParsePair (buffer.takeWhile (· ≠ '\x00')) = .ok pair →
      stricmpEq pair.key o.key = false) :
    (configInit hostnameLen errno cfg (some text)).2.get o.target.field =
      (IdmapConfig.defaults cfg.localdomainName).get o.target.field := by
  simp only [configInit, configDefaults_eq errno cfg hlen, ne_eq, not_true_eq_false,
    ↓reduceIte]
  refine configLoad_get_of_unnamed fun buffer hb pair o' hp ho' hfield => ?_
  obtain ⟨hmem, hkey⟩ := configFindOption_mem ho'
  have : o' = o := List.inj_on_of_nodup_map (gOptions_fields_nodup hostnameLen) hmem ho hfield
  rw [this, hunnamed buffer hb pair hp] at hkey
  exact Bool.false_ne_true hkey

/-- A file that sets only the time limit leaves the port at its default. -/
theorem configInit_unnamed_default_port :
    9 ≤ 9 ∧ optInt "ldap_port" "389" .port ∈ gOptions 9 ∧
      (∀ buffer ∈ fgetsBuffers "ldap_timeout = 5\n".toList, ∀ pair,
        configParsePair (buffer.takeWhile (· ≠ '\x00')) = .ok pair →
        stricmpEq pair.key (optInt "ldap_port" "389" .port).key = false) ∧
      (configInit 9 0 (IdmapConfig.defaults []) (some "ldap_timeout = 5\n".toList)).2.get
          (optInt "ldap_port" "389" .port).target.field =
        (IdmapConfig.defaults (IdmapConfig.defaults []).localdomainName).get
          (optInt "ldap_port" "389" .port).target.field :=
  have hunnamed : ∀ buffer ∈ fgetsBuffers "ldap_timeout = 5\n".toList, ∀ pair,
      configParsePair (buffer.takeWhile (· ≠ '\x00')) = .ok pair →
      stricmpEq pair.key (optInt "ldap_port" "389" .port).key = false := by
    intro buffer hb pair hp
    rw [show "ldap_timeout = 5\n".toList = "ldap_timeout = 5".toList ++ ['\n'] from rfl,
      fgetsBuffers_line (by decide) [] (by decide), fgetsBuffers, List.mem_singleton] at hb
    subst hb
    rw [show configParsePair _ = .ok ⟨"ldap_timeout".toList, "5".toList⟩ by rfl] at hp
    cases hp
    decide
  ⟨le_refl 9, by decide, hunnamed,
    configInit_unnamed_default 0 _ _ (le_refl 9) (by decide) hunnamed⟩

end Nfs41Idmap
