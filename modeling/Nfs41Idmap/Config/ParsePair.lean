import Nfs41Idmap.CString

/-!
# `config_parse_pair`: one `key = value` line

`config_parse_pair` cuts the line at its first `#`, skips white space, takes everything
before the first `=` as the key with its trailing white space trimmed, and then reads the
value: between a pair of double quotes verbatim, or else up to the end of the line with
trailing white space trimmed. It looks no further than the closing quote.

The grammar the parser accepts is stated here as `PairForm`: a line, cut at its first
`#`, of the form `ws* K ws* = ws* R`. The text allowed after the closing quote of a quoted
value is a parameter of the grammar: `PairForm (fun _ => True)` is what the parser
accepts, while requiring only white space there, `PairForm AllSpace`, describes a line
holding exactly one pair.

## Main results

* `configParsePair_eq_ok_iff` — `config_parse_pair` succeeds on a line, with a given key
  and value, exactly when the line has the form `PairForm (fun _ => True)` with them
* `configParsePair_accepts_text_after_quote` — a line with text after the closing quote
  is accepted although it is not of the form `PairForm AllSpace`
-/

namespace Nfs41Idmap

/-- `struct config_pair`: the key and the value cut out of a line. -/
structure ConfigPair where
  key : List Char
  value : List Char
  deriving DecidableEq, Repr

/-- Why `config_parse_pair` rejects a line. Each is logged with its own message and
returned as `ERROR_INVALID_PARAMETER`. -/
inductive PairError
  /-- "missing '='" -/
  | missingEquals
  /-- "empty key" -/
  | emptyKey
  /-- "end of line looking for value" -/
  | endOfLine
  /-- "no matching quote" -/
  | noMatchingQuote
  deriving DecidableEq, Repr

/-- `config_parse_pair(line, &pair)` -/
def configParsePair (line : List Char) : Except PairError ConfigPair :=
  -- terminate at comment, skip whitespace before key, find the `=`
  match ((line.takeWhile (· ≠ '#')).dropWhile isspace).span (· ≠ '=') with
  | (_, []) => .error .missingEquals
  | (key, _ :: afterEq) =>
    -- skip whitespace after key
    let key := key.rdropWhile isspace
    if key = [] then .error .emptyKey
    else
      -- skip whitespace after `=`
      match afterEq.dropWhile isspace with
      | [] => .error .endOfLine
      | c :: rest =>
        if c = '"' then
          -- value is between the quotes
          match rest.span (· ≠ '"') with
          | (_, []) => .error .noMatchingQuote
          | (value, _ :: _) => .ok ⟨key, value⟩
        else .ok ⟨key, (c :: rest).rdropWhile isspace⟩

/-! ## The grammar of a line -/

/-- Every character is white space. -/
def AllSpace (l : List Char) : Prop := ∀ c ∈ l, isspace c

/-- A key or an unquoted value: neither its first nor its last character is white space. -/
def Trimmed (l : List Char) : Prop :=
  (∀ c ∈ l.head?, isspace c = false) ∧ ∀ c ∈ l.getLast?, isspace c = false

/-- The value part `R` of a line and the value it yields: an unquoted `V ws*`, or a quoted
`"Q"` followed by a text the parameter `after` allows. -/
inductive ValueForm (after : List Char → Prop) : List Char → List Char → Prop
  | unquoted {v ws : List Char} : v ≠ [] → v.head? ≠ some '"' → Trimmed v → AllSpace ws →
      ValueForm after (v ++ ws) v
  | quoted {q t : List Char} : '"' ∉ q → after t → ValueForm after ('"' :: q ++ '"' :: t) q

/-- A line, cut at its first `#`, of the form `ws* K ws* = ws* R`, with `K` non-empty,
free of `=` and trimmed, and `R` of the form `ValueForm after` yielding `pair.value`. -/
def PairForm (after : List Char → Prop) (line : List Char) (pair : ConfigPair) : Prop :=
  ∃ ws₁ ws₂ ws₃ r, line.takeWhile (· ≠ '#') = ws₁ ++ pair.key ++ ws₂ ++ '=' :: (ws₃ ++ r) ∧
    AllSpace ws₁ ∧ AllSpace ws₂ ∧ AllSpace ws₃ ∧ pair.key ≠ [] ∧ '=' ∉ pair.key ∧
    Trimmed pair.key ∧ ValueForm after r pair.value

/-! ## What `config_parse_pair` accepts -/

section Proofs

variable {after : List Char → Prop}

private theorem allSpace_no_eq {ws : List Char} (h : AllSpace ws) : '=' ∉ ws :=
  fun hm => absurd (h _ hm) (by decide)

/-- A value form starts with neither white space nor an empty rest. -/
theorem ValueForm.head_not_space {r v : List Char} (h : ValueForm after r v) :
    ∀ c ∈ r.head?, isspace c = false := by
  cases h with
  | unquoted hne _ htrim _ =>
    obtain ⟨c, v', rfl⟩ := List.exists_cons_of_ne_nil hne
    simpa using htrim.1
  | quoted => simp [show isspace '"' = false by decide]

/-- `strchr(pos, '=')` on a string whose first `=` follows `a`. -/
private theorem span_first_eq {a b : List Char} (ha : '=' ∉ a) :
    (a ++ '=' :: b).span (· ≠ '=') = (a, '=' :: b) := by
  have hall : ∀ c ∈ a, decide (c ≠ '=') := fun c hc => by
    simp only [decide_eq_true_eq]
    rintro rfl
    exact ha hc
  rw [List.span_eq_take_drop, takeWhile_append_stop hall (by simp),
    dropWhile_append_stop hall (by simp)]

/-- The two halves `strchr(pos, d)` cuts a string into when it finds `d`. -/
private theorem span_eq_cons {d : Char} {l a b : List Char} {x : Char}
    (h : l.span (· ≠ d) = (a, x :: b)) : x = d ∧ d ∉ a ∧ l = a ++ x :: b := by
  rw [List.span_eq_take_drop, Prod.mk.injEq] at h
  obtain ⟨ha, hb⟩ := h
  refine ⟨?_, fun hm => ?_, by rw [← ha, ← hb, List.takeWhile_append_dropWhile]⟩
  · have hstop := head?_dropWhile_stop (p := fun c => decide (c ≠ d)) l
    rw [hb] at hstop
    simpa using hstop x rfl
  · exact absurd (List.mem_takeWhile_imp (ha ▸ hm)) (by simp)

theorem configParsePair_of_form {line : List Char} {pair : ConfigPair}
    (h : PairForm after line pair) : configParsePair line = .ok pair := by
  obtain ⟨key, value⟩ := pair
  obtain ⟨ws₁, ws₂, ws₃, r, hcut, h₁, h₂, h₃, hkey, hkeq, htrim, hval⟩ := h
  dsimp only at hcut hkey hkeq htrim hval
  obtain ⟨k, key', rfl⟩ := List.exists_cons_of_ne_nil hkey
  have hk : isspace k = false := htrim.1 k rfl
  have hdrop : (ws₁ ++ (k :: key') ++ ws₂ ++ '=' :: (ws₃ ++ r)).dropWhile isspace =
      (k :: key' ++ ws₂) ++ '=' :: (ws₃ ++ r) := by
    rw [List.append_assoc, List.append_assoc, dropWhile_append_stop h₁ (by simpa using hk),
      List.append_assoc]
  have hnoeq : '=' ∉ k :: key' ++ ws₂ := by
    rw [List.mem_append, not_or]
    exact ⟨hkeq, allSpace_no_eq h₂⟩
  simp only [configParsePair, hcut, hdrop, span_first_eq hnoeq,
    rdropWhile_append_stop h₂ htrim.2, dropWhile_append_stop h₃ hval.head_not_space,
    List.cons_ne_nil, if_false]
  cases hval with
  | @unquoted v ws hne hq htrimv hws =>
    obtain ⟨c, v', rfl⟩ := List.exists_cons_of_ne_nil hne
    have hc : c ≠ '"' := fun h => hq (by simp [h])
    simp only [List.cons_append, hc, if_false]
    rw [← List.cons_append, rdropWhile_append_stop hws htrimv.2]
  | @quoted _ t hq _ =>
    have hall : ∀ c ∈ value, decide (c ≠ '"') := fun c hc => by
      simp only [decide_eq_true_eq]
      rintro rfl
      exact hq hc
    have hstop : ∀ c ∈ ('"' :: t).head?, decide (c ≠ '"') = false := by simp
    simp only [List.cons_append, ↓reduceIte, List.span_eq_take_drop,
      takeWhile_append_stop hall hstop, dropWhile_append_stop hall hstop]

private theorem head?_of_prefix {v l : List Char} (hp : v <+: l) (hv : v ≠ []) :
    v.head? = l.head? := by
  obtain ⟨t, rfl⟩ := hp
  cases v with
  | nil => exact absurd rfl hv
  | cons => rfl

/-- The unquoted value `config_parse_pair` returns, with the white space it trims. -/
private theorem valueForm_unquoted {c : Char} {rest : List Char} (hc : isspace c = false)
    (hq : c ≠ '"') : ValueForm after (c :: rest) ((c :: rest).rdropWhile isspace) := by
  have hne : (c :: rest).rdropWhile isspace ≠ [] := fun h =>
    absurd (List.rdropWhile_eq_nil_iff.mp h c (.head _)) (by simp [hc])
  have hhead := head?_of_prefix (List.rdropWhile_prefix _ _) hne
  have hsplit := rdropWhile_append_rtakeWhile (p := isspace) (c :: rest)
  conv => arg 2; rw [← hsplit]
  refine .unquoted hne (by simp [hhead, hq]) ⟨by simpa [hhead] using hc,
    getLast?_rdropWhile_stop _⟩ fun x hx => List.mem_rtakeWhile_imp hx

theorem form_of_configParsePair {line : List Char} {pair : ConfigPair}
    (h : configParsePair line = .ok pair) : PairForm (fun _ => True) line pair := by
  unfold configParsePair at h
  split at h
  · cases h
  next pre x afterEq hspan =>
  obtain ⟨rfl, hpre, hsplit⟩ := span_eq_cons hspan
  by_cases hkey : pre.rdropWhile isspace = []
  · simp [hkey] at h
  simp only [hkey, if_false] at h
  split at h
  · cases h
  next c rest hrest =>
  set cut := line.takeWhile (· ≠ '#')
  have hkeyhead := head?_of_prefix (List.rdropWhile_prefix _ _) hkey
  have hcut : cut = cut.takeWhile isspace ++ pre.rdropWhile isspace ++ pre.rtakeWhile isspace ++
      '=' :: (afterEq.takeWhile isspace ++ c :: rest) := by
    rw [List.append_assoc _ (pre.rdropWhile isspace), rdropWhile_append_rtakeWhile,
      List.append_assoc, ← hrest, List.takeWhile_append_dropWhile, ← hsplit,
      List.takeWhile_append_dropWhile]
  have hc : isspace c = false := head?_dropWhile_stop afterEq c (by simp [hrest])
  have hpne : pre ≠ [] := fun hp => hkey (by simp [hp])
  have hkeyT : Trimmed (pre.rdropWhile isspace) := by
    refine ⟨fun x hx => head?_dropWhile_stop cut x ?_, getLast?_rdropWhile_stop _⟩
    rw [hsplit, List.head?_append_of_ne_nil _ hpne, ← hkeyhead]
    exact hx
  have hkeyEq : '=' ∉ pre.rdropWhile isspace := fun hm =>
    hpre ((List.rdropWhile_prefix _ _).subset hm)
  have hws₁ : AllSpace (cut.takeWhile isspace) := fun x hx => List.mem_takeWhile_imp hx
  have hws₂ : AllSpace (pre.rtakeWhile isspace) := fun x hx => List.mem_rtakeWhile_imp hx
  have hws₃ : AllSpace (afterEq.takeWhile isspace) := fun x hx => List.mem_takeWhile_imp hx
  by_cases hq : c = '"'
  · subst hq
    simp only [if_true] at h
    split at h
    · cases h
    next value y t hspan' =>
    obtain ⟨rfl, hval, rfl⟩ := span_eq_cons hspan'
    cases h
    exact ⟨_, _, _, _, hcut, hws₁, hws₂, hws₃, hkey, hkeyEq, hkeyT, .quoted hval trivial⟩
  · simp only [hq, if_false] at h
    cases h
    exact ⟨_, _, _, _, hcut, hws₁, hws₂, hws₃, hkey, hkeyEq, hkeyT, valueForm_unquoted hc hq⟩

/-- `config_parse_pair` succeeds on a line, yielding a key and a value, exactly when the
line, cut at its first `#`, reads `ws* K ws* = ws* R` with the key `K` non-empty, free of
`=` and trimmed, and `R` an unquoted value `V ws*` or a quoted `"Q"` followed by any text. -/
theorem configParsePair_eq_ok_iff (line : List Char) (pair : ConfigPair) :
    configParsePair line = .ok pair ↔ PairForm (fun _ => True) line pair :=
  ⟨form_of_configParsePair, configParsePair_of_form⟩

/-- The two shapes of a value part. -/
theorem ValueForm.eq_or {r v : List Char} (h : ValueForm after r v) :
    (∃ ws, r = v ++ ws ∧ v ≠ [] ∧ v.head? ≠ some '"') ∨
      ∃ t, r = '"' :: v ++ '"' :: t ∧ '"' ∉ v ∧ after t := by
  cases h with
  | unquoted hne hq _ _ => exact .inl ⟨_, rfl, hne, hq⟩
  | quoted hq ht => exact .inr ⟨_, rfl, hq, ht⟩

/-- The value part of a line of the form is what follows its first `=`, with the white
space after the `=` skipped. -/
theorem PairForm.valueForm {line : List Char} {pair : ConfigPair}
    (h : PairForm after line pair) :
    ValueForm after ((((line.takeWhile (· ≠ '#')).dropWhile (· ≠ '=')).drop 1).dropWhile isspace)
      pair.value := by
  obtain ⟨ws₁, ws₂, ws₃, r, hcut, h₁, h₂, h₃, -, hkeq, -, hval⟩ := h
  have hne : ∀ c ∈ ws₁ ++ pair.key ++ ws₂, decide (c ≠ '=') := by
    intro c hc
    simp only [decide_eq_true_eq]
    rintro rfl
    simp only [List.mem_append] at hc
    rcases hc with (hc | hc) | hc
    · exact allSpace_no_eq h₁ hc
    · exact hkeq hc
    · exact allSpace_no_eq h₂ hc
  rw [hcut, dropWhile_append_stop hne (by simp), List.drop_one, List.tail_cons,
    dropWhile_append_stop h₃ hval.head_not_space]
  exact hval

/-- Cutting at the comment first changes nothing: `config_parse_pair` cuts there itself. -/
private theorem configParsePair_cut (l : List Char) :
    configParsePair (l.takeWhile (· ≠ '#')) = configParsePair l := by
  have h : (l.takeWhile (· ≠ '#')).takeWhile (· ≠ '#') = l.takeWhile (· ≠ '#') := by
    rw [List.takeWhile_eq_self_iff]
    intro x hx
    exact List.mem_takeWhile_imp (p := fun c => decide (c ≠ '#')) hx
  unfold configParsePair
  rw [h]

/-- The value part of the parser ignores white space added at the end. -/
private theorem configParsePair_append_space_of_not_mem {w : Char} (hw : isspace w)
    {c : List Char} (hc : '#' ∉ c) : configParsePair (c ++ [w]) = configParsePair c := by
  have hne : ∀ d : Char, isspace d = false → w ≠ d := by
    rintro d hd rfl
    simp [hd] at hw
  have hcut : ∀ x ∈ c, decide (x ≠ '#') := fun x hx => by
    simp only [decide_eq_true_eq]
    rintro rfl
    exact hc hx
  have hcut' : ∀ x ∈ c ++ [w], decide (x ≠ '#') := fun x hx => by
    rcases List.mem_append.mp hx with hx | hx
    · exact hcut x hx
    · rw [List.mem_singleton.mp hx]
      simpa using hne '#' (by decide)
  simp only [configParsePair, List.takeWhile_eq_self_iff.mpr hcut,
    List.takeWhile_eq_self_iff.mpr hcut', dropWhile_append_singleton hw, List.span_eq_take_drop]
  generalize c.dropWhile isspace = d
  cases d with
  | nil => rfl
  | cons x d =>
  simp only [List.isEmpty_cons, Bool.false_eq_true, if_false]
  rw [takeWhile_ne_append_singleton (hne '=' (by decide)),
    dropWhile_ne_append_singleton (hne '=' (by decide))]
  by_cases heq : '=' ∈ x :: d
  · obtain ⟨a, ha⟩ := dropWhile_eq_cons_of_mem heq
    simp only [heq, if_true, ha, List.cons_append, dropWhile_append_singleton hw]
    generalize a.dropWhile isspace = e
    cases e with
    | nil => rfl
    | cons y rest =>
    simp only [List.isEmpty_cons, Bool.false_eq_true, if_false, List.cons_append]
    by_cases hy : y = '"'
    · simp only [hy, ↓reduceIte, takeWhile_ne_append_singleton (hne '"' (by decide)),
        dropWhile_ne_append_singleton (hne '"' (by decide))]
      by_cases hq : '"' ∈ rest
      · obtain ⟨b, hb⟩ := dropWhile_eq_cons_of_mem hq
        simp only [hq, ↓reduceIte, hb, List.cons_append]
      · simp only [hq, ↓reduceIte, dropWhile_eq_nil_of_not_mem hq, List.nil_append]
    · simp only [hy, if_false, ← List.cons_append, List.rdropWhile_concat_pos _ _ _ hw]
  · simp only [heq, if_false, dropWhile_eq_nil_of_not_mem heq]

/-- `config_parse_pair` ignores white space at the end of a line, such as the newline
`fgets` keeps. -/
theorem configParsePair_append_space {w : Char} (hw : isspace w) (l : List Char) :
    configParsePair (l ++ [w]) = configParsePair l := by
  rw [← configParsePair_cut (l ++ [w]), ← configParsePair_cut l]
  have hcut : '#' ∉ l.takeWhile (· ≠ '#') := fun h => by
    simpa using List.mem_takeWhile_imp h
  rcases takeWhile_append_singleton (p := (· ≠ '#')) l w with h | h
  · rw [h]
  · rw [h, configParsePair_append_space_of_not_mem hw hcut]

end Proofs

/-- `config_parse_pair` looks no further than the closing quote: a line with text after
it is accepted, although it does not hold exactly one pair with only white space after
the quoted value. -/
theorem configParsePair_accepts_text_after_quote :
    configParsePair "k = \"a\" b".toList = .ok ⟨"k".toList, "a".toList⟩ ∧
      ¬∃ pair, PairForm AllSpace "k = \"a\" b".toList pair := by
  refine ⟨rfl, ?_⟩
  rintro ⟨pair, h⟩
  have hr : (((("k = \"a\" b".toList.takeWhile (· ≠ '#')).dropWhile (· ≠ '=')).drop 1).dropWhile
      isspace) = ['"', 'a', '"', ' ', 'b'] := by decide
  rcases (hr ▸ h.valueForm).eq_or with ⟨ws, hws, hne, hq⟩ | ⟨t, ht, hq, hsp⟩
  · -- an unquoted value would not start with the quote
    obtain ⟨c, v, hv⟩ := List.exists_cons_of_ne_nil hne
    rw [hv, List.cons_append, List.cons.injEq] at hws
    exact hq (by rw [hv, ← hws.1]; rfl)
  · -- a quoted value would leave only white space after its closing quote
    obtain ⟨_, value⟩ := pair
    rcases value with _ | ⟨c, _ | ⟨d, v⟩⟩ <;>
      simp only [List.cons_append, List.nil_append, List.singleton_append, List.cons.injEq,
        true_and] at ht
    · exact absurd ht.1 (by decide)
    · exact absurd (hsp 'b' (by simp [← ht.2])) (by decide)
    · exact hq (by simp [← ht.2.1])

end Nfs41Idmap
