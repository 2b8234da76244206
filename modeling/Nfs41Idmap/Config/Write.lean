import Nfs41Idmap.Config.Init
import Mathlib.Data.List.Basic

/-!
# Every configuration can be written as a file that `config_load` reads back

A configuration is written as one line `key = "value"` per option of `g_options`: a `UINT`
as `%u` prints it, `cache_ttl` as the `%u` of its 32 bits, a string as it is. `config_load`
reads such a file back exactly, as long as every string fits its buffer and holds no quote,
no `#`, no newline and no NUL. `config_parse_pair` cuts a line at its first `#` even inside
quotes, so no file sets a value containing one; a quote ends a quoted value, so the file
written here, which quotes every value, holds none. An unquoted value may hold a quote after
its first character (`key = a"b`), which this file does not use.

## Main definitions

* `ConfigValue.text`, `configLine`, `configText` — the file a configuration is written as
* `ConfigOption.Writable` — a value that the file can hold

## Main results

* `IdmapConfig.ext_of_get` — two configurations with the same fields and local domain name
  are equal
* `configLoadBuffer_configLine` — `config_load` reads a written line as the store of its
  option's value
* `configLoad_configText` — `config_load` reads back every writable configuration
-/

namespace Nfs41Idmap

/-! ## Writing a configuration -/

/-- The text a value takes in the file: a `UINT` as `%u` prints it, the `INT` field
`cache_ttl` as the `%u` of its bits, a string as it is. -/
def ConfigValue.text : ConfigValue → List Char
  | .uint v => Nat.toDigits 10 v.toNat
  | .int v => Nat.toDigits 10 (v % 2 ^ 32).toNat
  | .str s => s

/-- The line that sets option `o` to the value it has in `cfg`: `key = "value"`. -/
def configLine (cfg : IdmapConfig) (o : ConfigOption) : List Char :=
  o.key ++ ' ' :: '=' :: ' ' :: '"' :: (cfg.get o.target.field).text ++ ['"']

/-- The file that sets every option of `options` to its value in `cfg`, one line each. -/
def configText (cfg : IdmapConfig) : List ConfigOption → List Char
  | [] => []
  | o :: os => configLine cfg o ++ '\n' :: configText cfg os

/-- A value of a field of target `t` can be written in the file and read back: a string
fits the buffer and holds no quote, `#`, newline or NUL, and `cache_ttl` is within the range
of an `INT`. -/
def ConfigTarget.Writable : ConfigTarget → ConfigValue → Prop
  | .str _ maxLen, .str s => s.length < maxLen ∧ ∀ c ∈ s, c ≠ '"' ∧ c ≠ '#' ∧ c ≠ '\n' ∧ c ≠ '\x00'
  | .int _, .int v => -2 ^ 31 ≤ v ∧ v < 2 ^ 31
  | .int _, .uint _ => True
  | _, _ => False

instance : ∀ t v, Decidable (ConfigTarget.Writable t v)
  | .str _ maxLen, .str s =>
    inferInstanceAs (Decidable (s.length < maxLen ∧ ∀ c ∈ s, c ≠ '"' ∧ c ≠ '#' ∧ c ≠ '\n' ∧ c ≠ '\x00'))
  | .int _, .int v => inferInstanceAs (Decidable (-2 ^ 31 ≤ v ∧ v < 2 ^ 31))
  | .int _, .uint _ => inferInstanceAs (Decidable True)
  | .int _, .str _ => inferInstanceAs (Decidable False)
  | .str _ _, .uint _ => inferInstanceAs (Decidable False)
  | .str _ _, .int _ => inferInstanceAs (Decidable False)

/-- The value `cfg` holds for option `o` can be written in the file and read back. -/
def ConfigOption.Writable (cfg : IdmapConfig) (o : ConfigOption) : Prop :=
  o.target.Writable (cfg.get o.target.field)

instance (cfg : IdmapConfig) (o : ConfigOption) : Decidable (o.Writable cfg) :=
  inferInstanceAs (Decidable (o.target.Writable _))

/-! ## Reading back one line -/

/-- No decimal digit is a character the line format treats specially. -/
private theorem plain_of_isDigit {c : Char} (h : c.isDigit) :
    c ≠ '"' ∧ c ≠ '#' ∧ c ≠ '\n' ∧ c ≠ '\x00' := by
  refine ⟨?_, ?_, ?_, ?_⟩ <;> rintro rfl <;> exact absurd h (by decide)

/-- The text of a writable value holds no quote, `#`, newline or NUL. -/
theorem text_plain {cfg : IdmapConfig} {o : ConfigOption} (hw : o.Writable cfg) :
    ∀ c ∈ (cfg.get o.target.field).text, c ≠ '"' ∧ c ≠ '#' ∧ c ≠ '\n' ∧ c ≠ '\x00' := by
  have hdigits : ∀ n c, c ∈ Nat.toDigits 10 n → c ≠ '"' ∧ c ≠ '#' ∧ c ≠ '\n' ∧ c ≠ '\x00' :=
    fun _ _ hc => plain_of_isDigit (isDigit_of_mem_toDigits hc)
  simp only [ConfigOption.Writable, ConfigTarget.Writable] at hw
  split at hw
  · rename_i s hs
    rw [hs]
    exact hw.2
  · rename_i v hv
    rw [hv]
    exact hdigits _
  · rename_i v hv
    rw [hv]
    exact hdigits _
  · exact hw.elim

/-- The keys of `g_options` are non-empty, trimmed, and free of `=`, `#`, newlines and
NULs. -/
theorem gOptions_key_plain {hostnameLen : Nat} {o : ConfigOption}
    (ho : o ∈ gOptions hostnameLen) :
    o.key ≠ [] ∧ '=' ∉ o.key ∧ Trimmed o.key ∧
      ∀ c ∈ o.key, c ≠ '#' ∧ c ≠ '\n' ∧ c ≠ '\x00' := by
  have h : ∀ k ∈ (gOptions hostnameLen).map (·.key), k ≠ [] ∧ '=' ∉ k ∧ Trimmed k ∧
      ∀ c ∈ k, c ≠ '#' ∧ c ≠ '\n' ∧ c ≠ '\x00' := by
    simp only [gOptions, optStr, optInt, optClass, optAttr, List.map_cons, List.map_nil, Trimmed]
    decide
  exact h _ (List.mem_map_of_mem _ ho)

/-- The line written for a writable option of `g_options` holds no `#`, newline or NUL. -/
theorem configLine_plain {cfg : IdmapConfig} {o : ConfigOption} {hostnameLen : Nat}
    (ho : o ∈ gOptions hostnameLen) (hw : o.Writable cfg) :
    ∀ x ∈ configLine cfg o, x ≠ '#' ∧ x ≠ '\n' ∧ x ≠ '\x00' := by
  obtain ⟨-, -, -, hkey⟩ := gOptions_key_plain ho
  have htext := text_plain hw
  intro x hx
  simp only [configLine, List.mem_append, List.mem_cons, List.not_mem_nil, or_false] at hx
  rcases hx with (hx | rfl | rfl | rfl | rfl | hx) | rfl
  all_goals first
    | decide
    | exact hkey _ hx
    | exact (htext _ hx).2

/-- `config_load` reads the line written for an option of `g_options` as the store of the
option's value. -/
theorem configLoadBuffer_configLine {hostnameLen errno : Nat} {cfg : IdmapConfig}
    {o : ConfigOption} (ho : o ∈ gOptions hostnameLen) (hw : o.Writable cfg) (c : IdmapConfig) :
    configLoadBuffer hostnameLen errno c (configLine cfg o ++ ['\n']) =
      configStore errno c (cfg.get o.target.field).text o.target := by
  obtain ⟨hne, heq, htrim, hkey⟩ := gOptions_key_plain ho
  have htext := text_plain hw
  generalize ht : (cfg.get o.target.field).text = text at htext ⊢
  have hline : configLine cfg o ++ ['\n'] =
      o.key ++ ' ' :: '=' :: ' ' :: '"' :: text ++ '"' :: ['\n'] := by
    simp [configLine, ht]
  have hplain : ∀ x ∈ configLine cfg o ++ ['\n'], x ≠ '#' ∧ x ≠ '\x00' := by
    intro x hx
    rcases List.mem_append.mp hx with hx | hx
    · exact ⟨(configLine_plain ho hw x hx).1, (configLine_plain ho hw x hx).2.2⟩
    · rw [List.mem_singleton.mp hx]
      decide
  have hnul : (configLine cfg o ++ ['\n']).takeWhile (· ≠ '\x00') = configLine cfg o ++ ['\n'] :=
    List.takeWhile_eq_self_iff.mpr fun x hx => by simpa using (hplain x hx).2
  have hspace : AllSpace [' '] := fun x hx => by rw [List.mem_singleton.mp hx]; decide
  have hpair : configParsePair (configLine cfg o ++ ['\n']) = .ok ⟨o.key, text⟩ := by
    refine @configParsePair_of_form (fun _ => True) _ _
      ⟨[], [' '], [' '], '"' :: text ++ '"' :: ['\n'], ?_, fun _ h => absurd h (List.not_mem_nil _),
        hspace, hspace, hne, heq, htrim, .quoted (fun h => (htext '"' h).1 rfl) trivial⟩
    rw [List.takeWhile_eq_self_iff.mpr fun x hx => by simpa using (hplain x hx).1, hline]
    simp
  obtain ⟨k, key', hk⟩ := List.exists_cons_of_ne_nil hne
  have hk0 : isspace k = false := htrim.1 k (by simp [hk])
  have hk1 : k ≠ '#' := (hkey k (by simp [hk])).1
  have hdrop : (configLine cfg o ++ ['\n']).dropWhile isspace =
      k :: (key' ++ ' ' :: '=' :: ' ' :: '"' :: text ++ '"' :: ['\n']) := by
    rw [hline, hk]
    simp [hk0]
  simp only [configLoadBuffer, hnul, hdrop, hpair, configFindOption_key ho, if_neg hk1]


/-- The text written for an `INT` value is the `%u` of the `UINT` whose `INT` reading is
that value. -/
theorem text_int_eq {v : Int} (h1 : -2 ^ 31 ≤ v) (h2 : v < 2 ^ 31) :
    ∃ u : UInt32, (ConfigValue.int v).text = Nat.toDigits 10 u.toNat ∧ intOfUint u = v := by
  have hlt : (v % 2 ^ 32).toNat < UInt32.size := by
    have hsize : UInt32.size = 2 ^ 32 := rfl
    omega
  refine ⟨UInt32.ofNat (v % 2 ^ 32).toNat, by rw [UInt32.toNat_ofNat_of_lt hlt]; rfl, ?_⟩
  simp only [intOfUint, UInt32.toNat_ofNat_of_lt hlt]
  split_ifs <;> omega

/-- Storing the text of a writable value sets the option's field to that value and leaves
every other field alone. -/
theorem configStore_text {errno : Nat} {cfg : IdmapConfig} {o : ConfigOption}
    (herrno : errno ≠ erange) (hw : o.Writable cfg) (c : IdmapConfig) :
    (configStore errno c (cfg.get o.target.field).text o.target).1 = noError ∧
      ∀ g, (configStore errno c (cfg.get o.target.field).text o.target).2.get g =
        if g = o.target.field then cfg.get g else c.get g := by
  obtain ⟨key, defValue, target⟩ := o
  cases target with
  | int f =>
    cases f
    case cacheTtl =>
      simp only [ConfigOption.Writable, ConfigTarget.Writable, ConfigTarget.field,
        IdmapConfig.get] at hw
      obtain ⟨u, htext, hint⟩ := text_int_eq hw.1 hw.2
      simp only [ConfigTarget.field, IdmapConfig.get, htext, configStore, parseUint_toDigits,
        herrno, and_false, if_false]
      refine ⟨by trivial, fun g => ?_⟩
      split_ifs with hg
      · subst hg
        simp only [IdmapConfig.storeUint, IdmapConfig.get, hint]
      · exact IdmapConfig.get_storeUint_of_ne _ hg
    all_goals
      simp only [ConfigTarget.field, IdmapConfig.get, ConfigValue.text, configStore,
        parseUint_toDigits, herrno, and_false, if_false]
      refine ⟨by trivial, fun g => ?_⟩
      split_ifs with hg
      · subst hg
        rfl
      · exact IdmapConfig.get_storeUint_of_ne _ hg
  | str f maxLen =>
    obtain ⟨s, hs⟩ : ∃ s, cfg.get (.str f) = .str s := by cases f <;> exact ⟨_, rfl⟩
    simp only [ConfigOption.Writable, ConfigTarget.Writable, ConfigTarget.field, hs] at hw
    simp only [ConfigTarget.field, hs, ConfigValue.text, configStore, stringCchCopyNA,
      List.take_length, stringCchCopyA_of_lt hw.1, if_true]
    refine ⟨by trivial, fun g => ?_⟩
    split_ifs with hg
    · subst hg
      rw [hs]
      cases f <;> simp [IdmapConfig.storeStr, IdmapConfig.get]
    · exact IdmapConfig.get_storeStr_of_ne _ hg


/-! ## Reading back the whole file -/

/-- Two configurations with the same local domain name and the same value in every field
an option fills are equal. -/
theorem IdmapConfig.ext_of_get {c c' : IdmapConfig} (hd : c.localdomainName = c'.localdomainName)
    (h : ∀ g, c.get g = c'.get g) : c = c' := by
  cases c
  cases c'
  simp only [IdmapConfig.mk.injEq] at hd ⊢
  refine ⟨?_, hd, ?_, ?_, ?_, funext fun k => ?_, funext fun a => ?_, ?_, ?_⟩
  · simpa [IdmapConfig.get] using h (.str .hostname)
  · simpa [IdmapConfig.get] using h (.uint .port)
  · simpa [IdmapConfig.get] using h (.uint .version)
  · simpa [IdmapConfig.get] using h (.uint .timeout)
  · simpa [IdmapConfig.get] using h (.str (.klass k))
  · simpa [IdmapConfig.get] using h (.str (.attr a))
  · simpa [IdmapConfig.get] using h (.str .base)
  · simpa [IdmapConfig.get] using h (.uint .cacheTtl)

/-- Every field is filled by some option of `g_options`. -/
theorem mem_gOptions_fields (hostnameLen : Nat) (g : ConfigField) :
    g ∈ (gOptions hostnameLen).map fun o => o.target.field := by
  simp only [gOptions, optStr, optInt, optClass, optAttr, List.map_cons, List.map_nil,
    ConfigTarget.field]
  rcases g with (_ | _ | _ | _) | (_ | _ | (_ | _) | (_ | _ | _ | _ | _)) <;> decide

/-- `fgets` reads a written file one line per buffer, when every line is shorter than the
buffer. -/
theorem fgetsBuffers_configText {cfg : IdmapConfig} {os : List ConfigOption}
    (h : ∀ o ∈ os, '\n' ∉ configLine cfg o ∧ (configLine cfg o).length < configBufferLen - 1) :
    fgetsBuffers (configText cfg os) = os.map fun o => configLine cfg o ++ ['\n'] := by
  induction os with
  | nil => rw [configText, fgetsBuffers, List.map_nil]
  | cons o os ih =>
    obtain ⟨hnl, hlen⟩ := h o (.head _)
    rw [configText, fgetsBuffers_line hnl _ hlen, ih fun o' h' => h o' (.tail _ h'), List.map_cons]

/-- `config_load`'s loop over the lines written for writable options of `g_options` stores
each option's value, and leaves the fields no line names alone. -/
theorem configLoadLoop_configLines {hostnameLen errno : Nat} {cfg : IdmapConfig}
    (herrno : errno ≠ erange) {os : List ConfigOption}
    (hos : ∀ o ∈ os, o ∈ gOptions hostnameLen ∧ o.Writable cfg) (c : IdmapConfig) :
    (configLoadLoop hostnameLen errno c (os.map fun o => configLine cfg o ++ ['\n'])).1 = noError ∧
      ∀ g, (configLoadLoop hostnameLen errno c (os.map fun o => configLine cfg o ++ ['\n'])).2.get g =
        if g ∈ os.map (fun o => o.target.field) then cfg.get g else c.get g := by
  induction os generalizing c with
  | nil => exact ⟨rfl, fun g => by simp [configLoadLoop]⟩
  | cons o os ih =>
    obtain ⟨hgo, hw⟩ := hos o (.head _)
    obtain ⟨hok, hstore⟩ := configStore_text herrno hw c
    obtain ⟨hok', hget⟩ := ih (fun o' h => hos o' (.tail _ h))
      (configStore errno c (cfg.get o.target.field).text o.target).2
    simp only [List.map_cons, configLoadLoop, configLoadBuffer_configLine hgo hw, hok, if_true]
    refine ⟨hok', fun g => ?_⟩
    rw [hget, hstore]
    by_cases h1 : g ∈ os.map (fun o => o.target.field) <;>
      by_cases h2 : g = o.target.field <;> simp [h1, h2]

/-- `config_load` reads back every configuration written as one line `key = "value"` per
option of `g_options`, when every value can be written and every line is shorter than its
buffer: each field gets the value written for it, and the local domain name, which no
line names, stays as it was. -/
theorem configLoad_configText {hostnameLen errno : Nat} (cfg0 cfg : IdmapConfig)
    (herrno : errno ≠ erange) (hw : ∀ o ∈ gOptions hostnameLen, o.Writable cfg)
    (hlines : ∀ o ∈ gOptions hostnameLen, (configLine cfg o).length < configBufferLen - 1) :
    configLoad hostnameLen errno cfg0 (some (configText cfg (gOptions hostnameLen))) =
      (noError, { cfg with localdomainName := cfg0.localdomainName }) := by
  have hdomain := configLoad_localdomainName hostnameLen errno cfg0
    (some (configText cfg (gOptions hostnameLen)))
  have hbuf := fgetsBuffers_configText fun o ho =>
    ⟨fun h => (configLine_plain ho (hw o ho) _ h).2.1 rfl, hlines o ho⟩
  obtain ⟨hok, hget⟩ := configLoadLoop_configLines herrno (fun o ho => ⟨ho, hw o ho⟩) cfg0
  simp only [configLoad, hbuf] at hdomain ⊢
  refine Prod.ext hok (IdmapConfig.ext_of_get hdomain fun g => ?_)
  rw [hget, if_pos (mem_gOptions_fields hostnameLen g)]
  rcases g with (_ | _ | _ | _) | (_ | _ | _ | _) <;> rfl


/-- The default configuration with the port and base of a directory for `example.org`. -/
def exampleConfig : IdmapConfig :=
  { IdmapConfig.defaults [] with port := 636, base := "dc=example,dc=org".toList }

theorem configLoad_configText_example :
    (0 : Nat) ≠ erange ∧ (∀ o ∈ gOptions 64, o.Writable exampleConfig) ∧
      (∀ o ∈ gOptions 64, (configLine exampleConfig o).length < configBufferLen - 1) ∧
      configLoad 64 0 (IdmapConfig.defaults "example.org".toList)
          (some (configText exampleConfig (gOptions 64))) =
        (noError, { exampleConfig with
          localdomainName := (IdmapConfig.defaults "example.org".toList).localdomainName }) :=
  have hw : ∀ o ∈ gOptions 64, o.Writable exampleConfig := by decide
  have hlines : ∀ o ∈ gOptions 64, (configLine exampleConfig o).length < configBufferLen - 1 := by
    decide
  ⟨by decide, hw, hlines, configLoad_configText _ _ (by decide) hw hlines⟩

end Nfs41Idmap
