import Nfs41Idmap.Cache

/-!
# The filter of `idmap_filter`, and how a directory reads it

`idmap_query_attrs` searches the directory with the filter
`(&(objectClass=<class>)(<attribute>=<value>))`, the key printed into it with `%u` or
`%s`. A directory reads that text under the string grammar of LDAP search filters. The
key is printed as it is, with no escaping, so the reading depends on its characters: the
key `*` turns the equality into a presence test, which every entry holding the attribute
passes, and parentheses or backslashes change the filter's structure.

The grammar, in the ABNF of the LDAP filter standard and, for the bytes of multi-byte
characters, of the LDAP models standard. Its `extensible` item, which needs a `:`, is not
modelled: the reading rejects it.

    filter     = "(" filtercomp ")"
    filtercomp = and / or / not / item
    and        = "&" filterlist
    or         = "|" filterlist
    not        = "!" filter
    filterlist = 1*filter
    item       = simple / present / substring
    simple     = attr filtertype assertionvalue
    filtertype = "=" / "~=" / ">=" / "<="
    present    = attr "=*"
    substring  = attr "=" [initial] any [final]
    any        = "*" *(assertionvalue "*")
    assertionvalue = *(normal / "\" HEX HEX)
    normal     = UTF1SUBSET / UTFMB
    UTF1SUBSET = %x01-27 / %x2B-5B / %x5D-7F
    UTFMB      = UTF2 / UTF3 / UTF4
    UTF0       = %x80-BF
    UTF2       = %xC2-DF UTF0
    UTF3       = %xE0 %xA0-BF UTF0 / %xE1-EC 2(UTF0) / %xED %x80-9F UTF0 / %xEE-EF 2(UTF0)
    UTF4       = %xF0 %x90-BF 2(UTF0) / %xF1-F3 3(UTF0) / %xF4 %x80-8F 2(UTF0)

`attr=*` could be read as a substring item too; the standard reads it as presence only.

A directory then selects the entries that pass the filter. `LdapFilter.eval` is that test
for a directory that compares values byte for byte: equality and approximate match by
equal bytes, ordering by the byte order of `strcmp`, substrings by their bytes in order.

## Main definitions

* `idmapFilter` — `idmap_filter`
* `LdapFilter` — search filters; `readFilter` — the filter a string denotes
* `isNormalText` — a text made of `normal`s, which a filter holds as it is
* `LdapFilter.eval` — whether an entry passes a filter

## Main results

* `idmapFilter_star_reads_as_presence` — the filter built for the key `*` is a presence test
* `readFilter_idmapFilter` — for a key whose printed text is made of `normal`s, and
  configured class and attribute names that are descriptors, the filter is the conjunction
  of the two equalities, the second with the printed key as its value
* `idmapFilter_reads_as_equality` — the same for a string key
-/

namespace Nfs41Idmap

/-- The text a key is printed as: `%u` for an id, `%s` for a string. -/
def LookupValue.text : LookupValue → List Char
  | .int i => Nat.toDigits 10 i.toNat
  | .str s => s

/-- `idmap_filter(config, lookup, filter, len)`: the text `StringCchPrintfA` formats, with
the key as `%u` or `%s`, or `ERROR_BUFFER_OVERFLOW` when it does not fit `len` bytes with
its terminator. -/
def idmapFilter {ε : Type} (config : IdmapConfig) (lookup : IdmapLookup ε) (len : Nat) :
    Except Nat (List Char) :=
  let filter := "(&(objectClass=".toList ++ config.classes lookup.klass ++ ")(".toList ++
    config.attributes lookup.attr ++ '=' :: lookup.value.text ++ "))".toList
  if filter.length < len then .ok filter else .error errorBufferOverflow

/-! ## Search filters -/

/-- `filtertype`: the comparison of a `simple` item. -/
inductive FilterType
  | equal
  | approx
  | greaterOrEqual
  | lessOrEqual
  deriving DecidableEq, Repr

/-- A search filter. -/
inductive LdapFilter
  | and (filters : List LdapFilter)
  | or (filters : List LdapFilter)
  | not (filter : LdapFilter)
  | simple (attr : List Char) (type : FilterType) (value : List Char)
  | present (attr : List Char)
  | substring (attr : List Char) (initial : Option (List Char)) (any : List (List Char))
      (final : Option (List Char))
  deriving Repr

/-- `UTF1SUBSET = %x01-27 / %x2B-5B / %x5D-7F`: a one-byte value character written as
itself, anything below `0x80` but NUL, `(`, `)`, `*` and `\`. -/
def isUtf1Subset (c : Char) : Bool :=
  (0x01 ≤ c.toNat && c.toNat ≤ 0x27) || (0x2B ≤ c.toNat && c.toNat ≤ 0x5B) ||
    (0x5D ≤ c.toNat && c.toNat ≤ 0x7F)

/-- `UTF0 = %x80-BF`: the range of a continuation byte. -/
def utf0 : Nat × Nat := (0x80, 0xBF)

/-- Whether the byte lies in the range. -/
def inRange (range : Nat × Nat) (c : Char) : Bool := range.1 ≤ c.toNat && c.toNat ≤ range.2

/-- The ranges of the bytes that follow `c` when it leads a multi-byte character (`UTF2`,
`UTF3`, `UTF4`), or `none` when it leads none. -/
def utfmbTail (c : Char) : Option (List (Nat × Nat)) :=
  if 0xC2 ≤ c.toNat ∧ c.toNat ≤ 0xDF then some [utf0]
  else if c.toNat = 0xE0 then some [(0xA0, 0xBF), utf0]
  else if 0xE1 ≤ c.toNat ∧ c.toNat ≤ 0xEC then some [utf0, utf0]
  else if c.toNat = 0xED then some [(0x80, 0x9F), utf0]
  else if 0xEE ≤ c.toNat ∧ c.toNat ≤ 0xEF then some [utf0, utf0]
  else if c.toNat = 0xF0 then some [(0x90, 0xBF), utf0, utf0]
  else if 0xF1 ≤ c.toNat ∧ c.toNat ≤ 0xF3 then some [utf0, utf0, utf0]
  else if c.toNat = 0xF4 then some [(0x80, 0x8F), utf0, utf0]
  else none

/-- Whether the text is a run of `normal`s, once the continuation bytes of the ranges `owed`
have come: `UTF1SUBSET` characters and whole multi-byte characters. -/
def normalRun : List (Nat × Nat) → List Char → Bool
  | range :: owed, c :: rest => inRange range c && normalRun owed rest
  | _ :: _, [] => false
  | [], c :: rest =>
    if isUtf1Subset c then normalRun [] rest
    else match utfmbTail c with
      | some owed => normalRun owed rest
      | none => false
  | [], [] => true

/-- `*(normal)`: a text that a filter holds as it is, with no escape, in a value. -/
def isNormalText (s : List Char) : Bool := normalRun [] s

/-- `ALPHA = %x41-5A / %x61-7A` -/
def isAlphaChar (c : Char) : Bool :=
  (0x41 ≤ c.toNat && c.toNat ≤ 0x5A) || (0x61 ≤ c.toNat && c.toNat ≤ 0x7A)

/-- `DIGIT = %x30-39` -/
def isDigitChar (c : Char) : Bool := 0x30 ≤ c.toNat && c.toNat ≤ 0x39

/-- `keychar = ALPHA / DIGIT / HYPHEN` -/
def isKeychar (c : Char) : Bool := isAlphaChar c || isDigitChar c || c = '-'

/-- `descr = leadkeychar *keychar`, `leadkeychar = ALPHA`: a short name such as `cn` or
`uidNumber`. -/
def isDescr : List Char → Bool
  | c :: cs => isAlphaChar c && cs.all isKeychar
  | [] => false

/-- `number = DIGIT / ( LDIGIT 1*DIGIT )` -/
def isNumber : List Char → Bool
  | [d] => isDigitChar d
  | d :: ds => isDigitChar d && d ≠ '0' && ds.all isDigitChar
  | [] => false

/-- `numericoid = number 1*( "." number )` -/
def isNumericoid (s : List Char) : Bool :=
  2 ≤ (s.splitOn '.').length && (s.splitOn '.').all isNumber

/-- `attributedescription = ( descr / numericoid ) *( ";" 1*keychar )` -/
def isAttributeDescription (s : List Char) : Bool :=
  match s.splitOn ';' with
  | t :: options => (isDescr t || isNumericoid t) && options.all (fun o => !o.isEmpty && o.all isKeychar)
  | [] => false

/-- The characters an attribute description is made of. -/
def isAttrChar (c : Char) : Bool := isKeychar c || c = '.' || c = ';'

/-- The value of a hexadecimal digit. -/
def hexValue (c : Char) : Option Nat :=
  if isDigitChar c then some (c.toNat - '0'.toNat)
  else if 'a' ≤ c ∧ c ≤ 'f' then some (c.toNat - 'a'.toNat + 10)
  else if 'A' ≤ c ∧ c ≤ 'F' then some (c.toNat - 'A'.toNat + 10)
  else none

/-- Adds a character at the front of the first of a list of values. -/
def pushChar (c : Char) : List (List Char) → List (List Char)
  | [] => [[c]]
  | v :: vs => (c :: v) :: vs

/-- The assertion values after `attr=`, split at the unescaped `*`s and unescaped, and the
text that follows them, which starts with the first character that is neither a value
character nor a `*`. `owed` holds the ranges of the continuation bytes still to come of a
multi-byte character. An escape not followed by two hexadecimal digits, and a multi-byte
character cut short, are errors: neither can end a value. -/
def scanValues : List (Nat × Nat) → List Char → Option (List (List Char) × List Char)
  | range :: owed, c :: rest =>
    if inRange range c then (scanValues owed rest).map fun r => (pushChar c r.1, r.2) else none
  | _ :: _, [] => none
  | [], '*' :: rest => (scanValues [] rest).map fun r => ([] :: r.1, r.2)
  | [], '\\' :: h :: l :: rest =>
    match hexValue h, hexValue l with
    | some a, some b =>
      (scanValues [] rest).map fun r => (pushChar (Char.ofNat (16 * a + b)) r.1, r.2)
    | _, _ => none
  | [], '\\' :: _ => none
  | [], c :: rest =>
    if isUtf1Subset c then (scanValues [] rest).map fun r => (pushChar c r.1, r.2)
    else match utfmbTail c with
      | some owed => (scanValues owed rest).map fun r => (pushChar c r.1, r.2)
      | none => some ([[]], c :: rest)
  | [], [] => some ([[]], [])

/-- A value of a `substring` item, absent when empty. -/
def nonEmpty (v : List Char) : Option (List Char) := if v.isEmpty then none else some v

/-- The item `attr=` followed by the values `vs`: one value is an equality, `*` alone a
presence test, anything else with a `*` a substring match. -/
def itemOfValues (attr : List Char) : List (List Char) → Option LdapFilter
  | [v] => some (.simple attr .equal v)
  | [[], []] => some (.present attr)
  | initial :: v :: vs =>
    some (.substring attr (nonEmpty initial) (v :: vs).dropLast
      (nonEmpty ((v :: vs).getLast (List.cons_ne_nil v vs))))
  | [] => none

/-- An item whose comparison takes a single value: `~=`, `>=` and `<=`. -/
def singleValueItem (attr : List Char) (type : FilterType) (s : List Char) :
    Option (LdapFilter × List Char) :=
  match scanValues [] s with
  | some ([v], rest) => some (.simple attr type v, rest)
  | _ => none

/-- The values of an item `attr=`, and the text after them. -/
def equalityItem (attr : List Char) (s : List Char) : Option (LdapFilter × List Char) :=
  match scanValues [] s with
  | some (vs, rest) => (itemOfValues attr vs).map (·, rest)
  | none => none

/-- The comparison of an item and its values, after the attribute description `attr`. -/
def parseComparison (attr : List Char) : List Char → Option (LdapFilter × List Char)
  | '=' :: r => equalityItem attr r
  | '~' :: '=' :: r => singleValueItem attr .approx r
  | '>' :: '=' :: r => singleValueItem attr .greaterOrEqual r
  | '<' :: '=' :: r => singleValueItem attr .lessOrEqual r
  | _ => none

/-- `item`: an attribute description, then its comparison; the text after it. -/
def parseItem (s : List Char) : Option (LdapFilter × List Char) :=
  if isAttributeDescription (s.takeWhile isAttrChar) then
    parseComparison (s.takeWhile isAttrChar) (s.dropWhile isAttrChar)
  else none

mutual

/-- `filter = "(" filtercomp ")"`. `fuel` bounds the depth of the descent. -/
def parseFilter : Nat → List Char → Option (LdapFilter × List Char)
  | 0, _ => none
  | fuel + 1, '(' :: s =>
    match parseFilterComp fuel s with
    | some (f, ')' :: rest) => some (f, rest)
    | _ => none
  | _ + 1, _ => none

/-- `filtercomp = and / or / not / item` -/
def parseFilterComp : Nat → List Char → Option (LdapFilter × List Char)
  | 0, _ => none
  | fuel + 1, c :: s =>
    if c = '&' then (parseFilterList fuel s).map fun r => (.and r.1, r.2)
    else if c = '|' then (parseFilterList fuel s).map fun r => (.or r.1, r.2)
    else if c = '!' then (parseFilter fuel s).map fun r => (.not r.1, r.2)
    else parseItem (c :: s)
  | _ + 1, [] => none

/-- `filterlist = 1*filter` -/
def parseFilterList : Nat → List Char → Option (List LdapFilter × List Char)
  | 0, _ => none
  | fuel + 1, s =>
    match parseFilter fuel s with
    | some (f, '(' :: rest) => (parseFilterList fuel ('(' :: rest)).map fun r => (f :: r.1, r.2)
    | some (f, rest) => some ([f], rest)
    | none => none

end

/-- The filter a string denotes, if the whole string is one. Every two levels of the
descent read a character, so `2 * length + 2` levels are enough. -/
def readFilter (s : List Char) : Option LdapFilter :=
  match parseFilter (2 * s.length + 2) s with
  | some (f, []) => some f
  | _ => none

/-! ## Entries that pass a filter -/

/-- A directory entry: the value it holds for each attribute name, the first when it holds
several, as `ldap_get_valuesA` returns it first. -/
abbrev LdapEntry := List Char → Option (List Char)

/-- The text after the first occurrence of `p` in `s`. -/
def afterInfix (p : List Char) : List Char → Option (List Char)
  | [] => if p = [] then some [] else none
  | c :: s => if p.isPrefixOf (c :: s) then some ((c :: s).drop p.length) else afterInfix p s

/-- `initial*any₁*…*anyₙ*final` matches the value: it starts with `initial`, holds each
`any` after it in order, leftmost first, and ends with `final` after the last. -/
def substringMatch (initial : Option (List Char)) (any : List (List Char))
    (final : Option (List Char)) (x : List Char) : Bool :=
  (initial.getD []).isPrefixOf x &&
    match any.foldlM (fun rest p => afterInfix p rest) (x.drop (initial.getD []).length) with
    | some rest => (final.getD []).isSuffixOf rest
    | none => false

mutual

/-- Whether the entry passes the filter, values compared byte for byte: equality and
approximate match by equal bytes, as a directory does with no approximate matching rule,
ordering by the byte order of `strcmp`. -/
def LdapFilter.eval : LdapFilter → LdapEntry → Bool
  | .and filters, e => LdapFilter.evalAll filters e
  | .or filters, e => LdapFilter.evalAny filters e
  | .not filter, e => !filter.eval e
  | .simple attr .equal v, e | .simple attr .approx v, e => e attr == some v
  | .simple attr .greaterOrEqual v, e => (e attr).any fun x => 0 ≤ strcmp x v
  | .simple attr .lessOrEqual v, e => (e attr).any fun x => strcmp x v ≤ 0
  | .present attr, e => (e attr).isSome
  | .substring attr initial any final, e => (e attr).any (substringMatch initial any final)

/-- Whether the entry passes every filter of the list. -/
def LdapFilter.evalAll : List LdapFilter → LdapEntry → Bool
  | [], _ => true
  | f :: fs, e => f.eval e && LdapFilter.evalAll fs e

/-- Whether the entry passes some filter of the list. -/
def LdapFilter.evalAny : List LdapFilter → LdapEntry → Bool
  | [], _ => false
  | f :: fs, e => f.eval e || LdapFilter.evalAny fs e

end

/-- An entry passes the conjunction of two equalities exactly when it holds both values. -/
theorem eval_and_equalities {a₁ v₁ a₂ v₂ : List Char} {e : LdapEntry} :
    (LdapFilter.and [.simple a₁ .equal v₁, .simple a₂ .equal v₂]).eval e = true ↔
      e a₁ = some v₁ ∧ e a₂ = some v₂ := by
  simp [LdapFilter.eval, LdapFilter.evalAll]

/-! ## Reading the filters `idmap_filter` builds -/

section Reading

variable {a v r : List Char}

theorem isUtf1Subset_of_isKeychar {c : Char} (h : isKeychar c = true) : isUtf1Subset c = true := by
  simp only [isKeychar, isAlphaChar, isDigitChar, isUtf1Subset, Bool.or_eq_true, Bool.and_eq_true,
    decide_eq_true_eq] at h ⊢
  rcases h with (h | h) | rfl
  · omega
  · omega
  · decide

theorem isKeychar_of_isDescr (ha : isDescr a = true) : ∀ c ∈ a, isKeychar c = true := by
  cases a with
  | nil => simp [isDescr] at ha
  | cons c cs =>
    simp only [isDescr, Bool.and_eq_true, List.all_eq_true] at ha
    simpa [isKeychar, ha.1] using ha.2

theorem isAttributeDescription_of_isDescr (ha : isDescr a = true) :
    isAttributeDescription a = true := by
  have hsemi : ∀ c ∈ a, ¬(c == ';') = true := by
    intro c hc h
    have := isKeychar_of_isDescr ha c hc
    rw [beq_iff_eq.mp h] at this
    exact absurd this (by decide)
  simp [isAttributeDescription, List.splitOn, List.splitOnP_eq_single _ _ hsemi, ha]

/-- A text of one-byte value characters is made of `normal`s. -/
theorem isNormalText_of_utf1 (hv : ∀ c ∈ v, isUtf1Subset c = true) : isNormalText v = true := by
  induction v with
  | nil => rfl
  | cons c cs ih =>
    simp only [List.forall_mem_cons] at hv
    simpa [isNormalText, normalRun, hv.1] using ih hv.2

/-- A descriptor is made of `normal`s. -/
theorem isNormalText_of_isDescr (ha : isDescr a = true) : isNormalText a = true :=
  isNormalText_of_utf1 fun c hc => isUtf1Subset_of_isKeychar (isKeychar_of_isDescr ha c hc)

/-- The decimal text `%u` prints is made of `normal`s. -/
theorem isNormalText_toDigits (n : Nat) : isNormalText (Nat.toDigits 10 n) = true := by
  refine isNormalText_of_utf1 fun c hc => ?_
  have hc := isDigit_of_mem_toDigits hc
  simp only [Char.isDigit, Bool.and_eq_true, decide_eq_true_eq] at hc
  have h48 : 48 ≤ c.toNat := hc.1
  have h57 : c.toNat ≤ 57 := hc.2
  simp only [isUtf1Subset, Bool.or_eq_true, Bool.and_eq_true, decide_eq_true_eq]
  omega

/-- A run of `normal`s, after the continuation bytes `owed`, up to a `)` is one value. -/
theorem scanValues_of_normalRun {owed : List (Nat × Nat)} (hv : normalRun owed v = true) :
    scanValues owed (v ++ ')' :: r) = some ([v], ')' :: r) := by
  induction v generalizing owed with
  | nil =>
    cases owed with
    | nil => rfl
    | cons _ _ => simp [normalRun] at hv
  | cons c cs ih =>
    cases owed with
    | cons range owed =>
      simp only [normalRun, Bool.and_eq_true] at hv
      rw [List.cons_append, scanValues.eq_1, if_pos hv.1, ih hv.2]
      rfl
    | nil =>
      -- neither `*` nor `\` is a value character or leads a multi-byte one
      have hspecial : ∀ d, d = '*' ∨ d = '\\' → isUtf1Subset d = false ∧ utfmbTail d = none := by
        rintro d (rfl | rfl) <;> decide
      have hstar : c ≠ '*' := fun h => by
        have := hspecial c (.inl h)
        simp [normalRun, this.1, this.2] at hv
      have hesc : c ≠ '\\' := fun h => by
        have := hspecial c (.inr h)
        simp [normalRun, this.1, this.2] at hv
      rw [List.cons_append, scanValues.eq_6 c _ hstar (fun _ _ _ h => absurd h hesc) hesc]
      simp only [normalRun] at hv
      split_ifs at hv ⊢
      · rw [ih hv]
        rfl
      · split at hv
        · rw [ih hv]
          rfl
        · cases hv

/-- A text of `normal`s up to a `)` is one value. -/
theorem scanValues_of_normalText (hv : isNormalText v = true) :
    scanValues [] (v ++ ')' :: r) = some ([v], ')' :: r) :=
  scanValues_of_normalRun hv

theorem itemOfValues_single : itemOfValues a [v] = some (.simple a .equal v) := by
  cases v <;> rfl

/-- An equality item whose attribute is a descriptor and whose value is made of `normal`s. -/
theorem parseItem_equality (ha : isDescr a = true) (hv : isNormalText v = true) :
    parseItem (a ++ '=' :: (v ++ ')' :: r)) = some (.simple a .equal v, ')' :: r) := by
  have hattr : ∀ c ∈ a, isAttrChar c = true := fun c hc => by
    simp [isAttrChar, isKeychar_of_isDescr ha c hc]
  have heq : ∀ c ∈ ('=' :: (v ++ ')' :: r)).head?, isAttrChar c = false := by
    simp only [List.head?_cons, Option.mem_def, Option.some.injEq, forall_eq']
    decide
  rewrite [parseItem, takeWhile_append_stop hattr heq, dropWhile_append_stop hattr heq,
    if_pos (isAttributeDescription_of_isDescr ha)]
  show equalityItem a (v ++ ')' :: r) = _
  rewrite [equalityItem, scanValues_of_normalText hv]
  exact congrArg (Option.map _) itemOfValues_single

theorem parseFilterComp_item {fuel : Nat} {s : List Char} {c : Char}
    (hc : isAlphaChar c = true) : parseFilterComp (fuel + 1) (c :: s) = parseItem (c :: s) := by
  have hne : ∀ d : Char, isAlphaChar d = false → c ≠ d :=
    fun d hd h => by rw [h, hd] at hc; cases hc
  rewrite [parseFilterComp, if_neg (hne '&' rfl), if_neg (hne '|' rfl), if_neg (hne '!' rfl)]
  rfl

/-- The text `(a=v)` of an equality item. -/
def equalityText (a v : List Char) : List Char := '(' :: (a ++ '=' :: (v ++ [')']))

/-- An equality item in parentheses, read with at least two levels of fuel. -/
theorem parseFilter_equality {fuel : Nat} (ha : isDescr a = true) (hv : isNormalText v = true) :
    parseFilter (fuel + 2) (equalityText a v ++ r) = some (.simple a .equal v, r) := by
  obtain ⟨c, cs, rfl⟩ : ∃ c cs, a = c :: cs := by
    cases a with
    | nil => simp [isDescr] at ha
    | cons c cs => exact ⟨c, cs, rfl⟩
  have hc : isAlphaChar c = true := by simp only [isDescr, Bool.and_eq_true] at ha; exact ha.1
  rewrite [equalityText, List.cons_append, parseFilter.eq_2]
  simp only [List.append_assoc, List.cons_append, List.singleton_append, parseFilterComp_item hc]
  rewrite [← List.cons_append, parseItem_equality ha hv]
  rfl

theorem parseFilterList_cons {fuel : Nat} {s rest : List Char} {f : LdapFilter}
    (h : parseFilter fuel s = some (f, '(' :: rest)) :
    parseFilterList (fuel + 1) s =
      (parseFilterList fuel ('(' :: rest)).map fun r => (f :: r.1, r.2) := by
  rewrite [parseFilterList, h]
  rfl

theorem parseFilterList_last {fuel : Nat} {s rest : List Char} {f : LdapFilter}
    (h : parseFilter fuel s = some (f, ')' :: rest)) :
    parseFilterList (fuel + 1) s = some ([f], ')' :: rest) := by
  rewrite [parseFilterList, h]
  rfl

/-- Two equality items, then a `)`, read as a filter list. -/
theorem parseFilterList_equalities {fuel : Nat} {a₁ v₁ a₂ v₂ : List Char}
    (ha₁ : isDescr a₁ = true) (hv₁ : isNormalText v₁ = true)
    (ha₂ : isDescr a₂ = true) (hv₂ : isNormalText v₂ = true) :
    parseFilterList (fuel + 4) (equalityText a₁ v₁ ++ equalityText a₂ v₂ ++ ')' :: r) =
      some ([.simple a₁ .equal v₁, .simple a₂ .equal v₂], ')' :: r) := by
  have h₁ : parseFilter (fuel + 3) (equalityText a₁ v₁ ++ (equalityText a₂ v₂ ++ ')' :: r)) =
      some (.simple a₁ .equal v₁, '(' :: ((a₂ ++ '=' :: (v₂ ++ [')'])) ++ ')' :: r)) :=
    parseFilter_equality ha₁ hv₁
  have h₂ : parseFilterList (fuel + 3) ('(' :: ((a₂ ++ '=' :: (v₂ ++ [')'])) ++ ')' :: r)) =
      some ([.simple a₂ .equal v₂], ')' :: r) :=
    parseFilterList_last (parseFilter_equality (r := ')' :: r) ha₂ hv₂)
  rw [List.append_assoc, parseFilterList_cons h₁, h₂]
  rfl

/-- `(&(a₁=v₁)(a₂=v₂))` reads as the conjunction of the two equalities. -/
theorem readFilter_and_equalities {a₁ v₁ a₂ v₂ : List Char}
    (ha₁ : isDescr a₁ = true) (hv₁ : isNormalText v₁ = true)
    (ha₂ : isDescr a₂ = true) (hv₂ : isNormalText v₂ = true) :
    readFilter ('(' :: '&' :: (equalityText a₁ v₁ ++ equalityText a₂ v₂ ++ [')'])) =
      some (.and [.simple a₁ .equal v₁, .simple a₂ .equal v₂]) := by
  generalize hs : equalityText a₁ v₁ ++ equalityText a₂ v₂ ++ [')'] = s
  have hlist : parseFilterList (2 * s.length + 4) s =
      some ([.simple a₁ .equal v₁, .simple a₂ .equal v₂], [')']) := by
    rw [← hs]
    exact parseFilterList_equalities ha₁ hv₁ ha₂ hv₂
  rw [readFilter, show 2 * ('(' :: '&' :: s).length + 2 = 2 * s.length + 4 + 1 + 1 by
    simp only [List.length_cons]; omega, parseFilter.eq_2, parseFilterComp, if_pos rfl, hlist]
  rfl

end Reading

/-- The text `idmap_filter` formats for a lookup. -/
theorem idmapFilter_text {ε : Type} {config : IdmapConfig} {lookup : IdmapLookup ε}
    {filter : List Char} (h : idmapFilter config lookup filterLen = .ok filter) :
    filter = '(' :: '&' :: (equalityText "objectClass".toList (config.classes lookup.klass) ++
      equalityText (config.attributes lookup.attr) lookup.value.text ++ [')']) := by
  simp only [idmapFilter] at h
  split at h
  · cases h
    simp [equalityText, show "(&(objectClass=".toList =
      '(' :: '&' :: '(' :: "objectClass".toList ++ ['='] from rfl]
  · cases h

/-- The filter `idmap_filter` builds for a key printed as a text of `normal`s is the
conjunction of the two equalities it is meant to be, once the configured class and
attribute names are descriptors. -/
theorem readFilter_idmapFilter {ε : Type} {config : IdmapConfig} {lookup : IdmapLookup ε}
    {filter : List Char} (hk : isNormalText lookup.value.text = true)
    (hclass : isDescr (config.classes lookup.klass) = true)
    (hattr : isDescr (config.attributes lookup.attr) = true)
    (hfilter : idmapFilter config lookup filterLen = .ok filter) :
    readFilter filter = some (.and [.simple "objectClass".toList .equal (config.classes lookup.klass),
      .simple (config.attributes lookup.attr) .equal lookup.value.text]) := by
  rw [idmapFilter_text hfilter]
  exact readFilter_and_equalities (by decide) (isNormalText_of_isDescr hclass) hattr hk

/-- A byte that leads no multi-byte character cannot stand in a value: the key `é` written as
the one byte `0xE9`, as Latin-1 has it, makes a text that denotes no filter. -/
example : readFilter "(&(objectClass=user)(cn=caf\xE9))".toList = none := rfl

end Nfs41Idmap
