import Nfs41Idmap.Config.Options
import Nfs41Idmap.Config.ParsePair
import Mathlib.Data.List.Basic

/-!
# `config_load`: reading the configuration file

`config_load` reads the file with `fgets(buffer, sizeof(buffer), file)` into a
1024-byte buffer and treats each buffer as a line: it skips a buffer that is blank or
whose first non-blank character is `#`, and otherwise parses it with
`config_parse_pair`, looks the key up with `config_find_option` and stores the value,
stopping at the first buffer that fails. A file that cannot be opened leaves the defaults
and succeeds.

`fgets` stops after a newline or after 1023 characters, so a line of 1023 characters or
more arrives in several buffers, each of which is then read as a line of its own.
`configLoadReference` reads the same text line by line, split at the newlines.

## Main results

* `configLoad_eq_reference` — on a text whose lines have at most 1022 characters,
  `config_load` agrees with the line-wise reading
* `configLoad_long_comment` — the tail of a long comment line is read as a setting
-/

namespace Nfs41Idmap

/-- `fgets(buffer, n + 1, file)` on the unread rest of the file: the characters it stores,
up to and including a newline and at most `n` of them, and what it leaves unread. -/
def fgetsRead : Nat → List Char → List Char × List Char
  | 0, rest => ([], rest)
  | _ + 1, [] => ([], [])
  | n + 1, c :: rest =>
    if c = '\n' then ([c], rest)
    else
      let r := fgetsRead n rest
      (c :: r.1, r.2)

theorem fgetsRead_rest_length_le (n : Nat) (l : List Char) :
    (fgetsRead n l).2.length ≤ l.length := by
  induction n generalizing l with
  | zero => simp [fgetsRead]
  | succ n ih =>
    cases l with
    | nil => simp [fgetsRead]
    | cons c l =>
      simp only [fgetsRead]
      split
      · simp
      · simpa using Nat.le_succ_of_le (ih l)

/-- `sizeof(buffer)` in `config_load`. -/
def configBufferLen : Nat := 1024

/-- The buffers successive `fgets(buffer, sizeof(buffer), file)` calls fill, until one
returns `NULL` at the end of the file. -/
def fgetsBuffers : List Char → List (List Char)
  | [] => []
  | c :: rest =>
    let r := fgetsRead (configBufferLen - 1) (c :: rest)
    r.1 :: fgetsBuffers r.2
termination_by text => text.length
decreasing_by
  simp only [configBufferLen, fgetsRead]
  split
  · simp
  · simpa using Nat.lt_succ_of_le (fgetsRead_rest_length_le _ rest)

/-- The body of `config_load`'s loop for one buffer: the status it leaves and the
configuration. The buffer is read as the C string it holds, up to its first NUL. -/
def configLoadBuffer (hostnameLen errno : Nat) (cfg : IdmapConfig) (buffer : List Char) :
    Nat × IdmapConfig :=
  let line := buffer.takeWhile (· ≠ '\x00')
  -- skip comments and empty lines
  match line.dropWhile isspace with
  | [] => (noError, cfg)
  | c :: _ =>
    if c = '#' then (noError, cfg)
    else
      match configParsePair line with
      | .error _ => (errorInvalidParameter, cfg)
      | .ok pair =>
        match configFindOption hostnameLen pair.key with
        | none => (errorInvalidParameter, cfg)
        | some option => configStore errno cfg pair.value option.target

/-- `config_load`'s loop over the buffers, stopping at the first that fails. -/
def configLoadLoop (hostnameLen errno : Nat) : IdmapConfig → List (List Char) → Nat × IdmapConfig
  | cfg, [] => (noError, cfg)
  | cfg, buffer :: buffers =>
    let r := configLoadBuffer hostnameLen errno cfg buffer
    if r.1 = noError then configLoadLoop hostnameLen errno r.2 buffers else r

/-- `config_load(config, filename)` on the file's text, `none` when `fopen` fails. -/
def configLoad (hostnameLen errno : Nat) (cfg : IdmapConfig) :
    Option (List Char) → Nat × IdmapConfig
  | none => (noError, cfg)
  | some text => configLoadLoop hostnameLen errno cfg (fgetsBuffers text)

/-- The line-wise reading of a configuration text: split at the newlines, and each line
skipped, or parsed, looked up and stored as `config_load` does with a buffer, stopping at
the first line that fails. -/
def configLoadReference (hostnameLen errno : Nat) (cfg : IdmapConfig) (text : List Char) :
    Nat × IdmapConfig :=
  configLoadLoop hostnameLen errno cfg (text.splitOn '\n')

/-! ## Buffers that hold whole lines -/

/-- `fgets` stores the whole of a line shorter than the buffer, with its newline. -/
theorem fgetsRead_line {l : List Char} (hl : '\n' ∉ l) (r : List Char) {n : Nat}
    (hn : l.length < n) : fgetsRead n (l ++ '\n' :: r) = (l ++ ['\n'], r) := by
  induction l generalizing n with
  | nil =>
    obtain ⟨n, rfl⟩ := Nat.exists_eq_succ_of_ne_zero (Nat.pos_iff_ne_zero.mp hn)
    simp [fgetsRead]
  | cons c l ih =>
    obtain ⟨n, rfl⟩ : ∃ m, n = m + 1 := ⟨n - 1, by simp at hn; omega⟩
    have hc : c ≠ '\n' := fun h => hl (h ▸ .head _)
    simp [fgetsRead, hc, ih (fun h => hl (.tail _ h)) (by simpa using hn)]

/-- `fgets` stores all of a last line without newline that fits. -/
theorem fgetsRead_last {l : List Char} (hl : '\n' ∉ l) {n : Nat} (hn : l.length ≤ n) :
    fgetsRead n l = (l, []) := by
  induction l generalizing n with
  | nil => cases n <;> rfl
  | cons c l ih =>
    obtain ⟨n, rfl⟩ : ∃ m, n = m + 1 := ⟨n - 1, by simp at hn; omega⟩
    have hc : c ≠ '\n' := fun h => hl (h ▸ .head _)
    simp [fgetsRead, hc, ih (fun h => hl (.tail _ h)) (by simpa using hn)]

/-- `fgets` stops after `n` characters when no newline comes first. -/
theorem fgetsRead_full {l : List Char} (hl : '\n' ∉ l) (r : List Char) :
    fgetsRead l.length (l ++ r) = (l, r) := by
  induction l with
  | nil => rfl
  | cons c l ih =>
    have hc : c ≠ '\n' := fun h => hl (h ▸ .head _)
    simp [fgetsRead, hc, ih (fun h => hl (.tail _ h))]

theorem fgetsBuffers_of_ne_nil {text : List Char} (h : text ≠ []) :
    fgetsBuffers text = (fgetsRead (configBufferLen - 1) text).1 ::
      fgetsBuffers (fgetsRead (configBufferLen - 1) text).2 := by
  cases text with
  | nil => exact absurd rfl h
  | cons c rest => rw [fgetsBuffers]

/-- A first line shorter than the buffer fills one buffer, with its newline. -/
theorem fgetsBuffers_line {l : List Char} (hl : '\n' ∉ l) (rest : List Char)
    (hlen : l.length < configBufferLen - 1) :
    fgetsBuffers (l ++ '\n' :: rest) = (l ++ ['\n']) :: fgetsBuffers rest := by
  rw [fgetsBuffers_of_ne_nil (by simp), fgetsRead_line hl rest hlen]

/-- A text whose first line is `l` splits into `l` and the lines of the rest. -/
theorem splitOn_line {l : List Char} (hl : '\n' ∉ l) (rest : List Char) :
    (l ++ '\n' :: rest).splitOn '\n' = l :: rest.splitOn '\n' := by
  rw [List.splitOn, List.splitOnP_first (· == '\n') l
    (fun x hx h => hl (beq_iff_eq.mp h ▸ hx)) '\n' rfl rest]
  rfl

/-- A buffer that ends in white space, such as the newline `fgets` keeps, is handled as
the line without it. -/
theorem configLoadBuffer_append_space {hostnameLen errno : Nat} {w : Char} (hw : isspace w)
    (cfg : IdmapConfig) (l : List Char) :
    configLoadBuffer hostnameLen errno cfg (l ++ [w]) = configLoadBuffer hostnameLen errno cfg l := by
  rcases takeWhile_append_singleton (p := (· ≠ '\x00')) l w with h | h
  · simp only [configLoadBuffer, h]
  · simp only [configLoadBuffer, h, dropWhile_append_singleton hw, configParsePair_append_space hw]
    generalize List.dropWhile isspace (l.takeWhile (· ≠ '\x00')) = d
    cases d <;> rfl

/-- On a text whose lines have at most 1022 characters, every buffer `fgets` fills is one
whole line, and `config_load` reads the text line by line. -/
theorem configLoad_eq_reference (hostnameLen errno : Nat) (cfg : IdmapConfig) (text : List Char)
    (hlines : ∀ l ∈ text.splitOn '\n', l.length ≤ configBufferLen - 2) :
    configLoad hostnameLen errno cfg (some text) =
      configLoadReference hostnameLen errno cfg text := by
  simp only [configLoad, configLoadReference]
  induction' hn : text.length using Nat.strong_induction_on with n ih generalizing text cfg
  subst hn
  have hspace : isspace '\n' := by decide
  by_cases hnl : '\n' ∈ text
  · -- the first line is one buffer, with its newline
    obtain ⟨rest, hrest⟩ := dropWhile_eq_cons_of_mem hnl
    set l := text.takeWhile (· ≠ '\n')
    have htext : text = l ++ '\n' :: rest := by rw [← hrest, List.takeWhile_append_dropWhile]
    have hl : '\n' ∉ l := fun h => by
      simpa using List.mem_takeWhile_imp (p := fun c => decide (c ≠ '\n')) h
    have hsplit := splitOn_line hl rest
    have hlen : l.length < configBufferLen - 1 := by
      have := hlines l (by rw [htext, hsplit]; exact .head _)
      simp only [configBufferLen] at this ⊢
      omega
    rw [htext, hsplit, fgetsBuffers_line hl rest hlen]
    simp only [configLoadLoop, configLoadBuffer_append_space hspace]
    split
    · refine ih rest.length ?_ _ rest (fun l' hl' => hlines l' ?_) rfl
      · rw [htext, List.length_append, List.length_cons]
        omega
      · rw [htext, hsplit]
        exact .tail _ hl'
    · rfl
  · -- the whole text is one line without newline
    have hsplit : text.splitOn '\n' = [text] := by
      refine List.splitOnP_eq_single (· == '\n') text fun x hx h => hnl ?_
      rwa [← beq_iff_eq.mp h]
    cases text with
    | nil => simp [configLoadLoop, configLoadBuffer, fgetsBuffers]
    | cons c cs =>
      have hlen := hlines (c :: cs) (by simp [hsplit])
      simp only [configBufferLen] at hlen
      rw [hsplit, fgetsBuffers_of_ne_nil (List.cons_ne_nil _ _),
        fgetsRead_last hnl (by simp only [configBufferLen]; omega), fgetsBuffers]

theorem configLoad_eq_reference_port :
    (∀ l ∈ "ldap_port = 1\n".toList.splitOn '\n', l.length ≤ configBufferLen - 2) ∧
      configLoad 0 0 (IdmapConfig.defaults []) (some "ldap_port = 1\n".toList) =
        configLoadReference 0 0 (IdmapConfig.defaults []) "ldap_port = 1\n".toList :=
  ⟨by decide, configLoad_eq_reference 0 0 _ _ (by decide)⟩

/-! ## A line longer than the buffer -/

/-- A comment line of 1023 characters followed by `ldap_port = 1` on the same line. -/
def longCommentText : List Char :=
  '#' :: List.replicate 1022 'x' ++ "ldap_port = 1\n".toList

/-- `config_load` reads the tail of a comment line longer than its buffer as a setting:
the port becomes `1`, while the line-wise reading skips the whole comment. -/
theorem configLoad_long_comment (hostnameLen errno : Nat) (cfg : IdmapConfig) :
    configLoad hostnameLen errno cfg (some longCommentText) = (noError, cfg.storeUint .port 1) ∧
      configLoadReference hostnameLen errno cfg longCommentText = (noError, cfg) := by
  have hxlen : (List.replicate 1022 'x').length = 1022 := List.length_replicate _ _
  have hxs : ∀ c ∈ List.replicate 1022 'x', c = 'x' := fun _ hc => List.eq_of_mem_replicate hc
  rw [longCommentText]
  generalize List.replicate 1022 'x' = xs at hxlen hxs ⊢
  have hnl : '\n' ∉ '#' :: xs :=
    List.not_mem_cons_of_ne_of_not_mem (by decide) fun h => absurd (hxs _ h) (by decide)
  have hcomment : ∀ rest, configLoadBuffer hostnameLen errno cfg ('#' :: xs ++ rest) =
      (noError, cfg) := fun rest => by
    simp only [configLoadBuffer, List.cons_append, List.takeWhile_cons,
      show decide ('#' ≠ '\x00') = true by decide, List.dropWhile_cons,
      show isspace '#' = false by decide, Bool.false_eq_true, if_false, ↓reduceIte]
  have hport : configLoadBuffer hostnameLen errno cfg "ldap_port = 1\n".toList =
      (noError, cfg.storeUint .port 1) := rfl
  have htail : "ldap_port = 1\n".toList = "ldap_port = 1".toList ++ ['\n'] := rfl
  constructor
  · have hlen : ('#' :: xs).length = configBufferLen - 1 := by simp [configBufferLen, hxlen]
    rw [configLoad, fgetsBuffers_of_ne_nil (by simp), ← hlen, fgetsRead_full hnl]
    dsimp only
    rw [htail, fgetsBuffers_line (by decide) [] (by decide)]
    simpa [configLoadLoop, hcomment [], fgetsBuffers] using hport
  · have hline : '\n' ∉ '#' :: xs ++ "ldap_port = 1".toList := fun h =>
      (List.mem_append.mp h).elim hnl (by decide)
    rw [configLoadReference, htail, ← List.append_assoc, splitOn_line hline []]
    simp only [configLoadLoop, hcomment, ↓reduceIte, List.splitOn_nil]
    rfl

end Nfs41Idmap
