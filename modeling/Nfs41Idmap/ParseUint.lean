import Nfs41Idmap.CString

/-!
# `parse_uint`: unsigned decimal fields through `strtoul`

`parse_uint` reads every numeric configuration value and every `uidNumber` and
`gidNumber` an LDAP entry returns. It calls `strtoul(str, &endp, 10)` on a 32-bit
`unsigned long`, rejects the string unless `strtoul` consumed all of it, and rejects
`ULONG_MAX` when `errno` is `ERANGE`. `errno` is never cleared first, so it is an input:
the value it held when `parse_uint` was entered.

`strtoul` follows the C standard: leading white space, an optional sign, then the longest
run of decimal digits. Without a digit nothing is consumed and the result is `0`; a value
beyond `ULONG_MAX` gives `ULONG_MAX` and sets `errno` to `ERANGE`; after a `-` the value
is negated modulo `2^32`.

## Main results

* `parseUint_eq_some_iff` — exactly which non-empty strings `parse_uint` accepts, and the
  value it stores
* `parseUint_accepts_outside_decimal` — the empty string, a sign and a stale `ERANGE`
  make it depart from "a non-empty run of digits below `2^32`"
-/

namespace Nfs41Idmap

/-- `ULONG_MAX` for the 32-bit `unsigned long` of Windows. -/
def ulongMax : UInt32 := 4294967295

/-- The value of a run of decimal digits. -/
def decimalValue (ds : List Char) : Nat :=
  ds.foldl (fun n c => 10 * n + (c.toNat - '0'.toNat)) 0

/-- What `strtoul(str, &endp, 10)` returns, how far `endp` lies past `str`, and whether it
set `errno` to `ERANGE`. -/
structure StrtoulResult where
  value : UInt32
  consumed : Nat
  overflow : Bool
  deriving DecidableEq, Repr

/-- The optional sign `strtoul` accepts after the leading white space: whether it negates,
the characters it takes, and the rest. -/
def strtoulSign : List Char → Bool × List Char × List Char
  | '-' :: t => (true, ['-'], t)
  | '+' :: t => (false, ['+'], t)
  | t => (false, [], t)

/-- `strtoul(str, &endp, 10)` on a 32-bit `unsigned long`. -/
def strtoul (s : List Char) : StrtoulResult :=
  let ws := s.takeWhile isspace
  let sign := strtoulSign (s.dropWhile isspace)
  let ds := sign.2.2.takeWhile Char.isDigit
  if ds = [] then ⟨0, 0, false⟩
  else if ulongMax.toNat < decimalValue ds then
    ⟨ulongMax, ws.length + sign.2.1.length + ds.length, true⟩
  else
    let m := UInt32.ofNat (decimalValue ds)
    ⟨if sign.1 then 0 - m else m, ws.length + sign.2.1.length + ds.length, false⟩

/-- `parse_uint(str, &id)` with `errno` holding `errno` on entry: the value stored in `id`
when it returns `TRUE` (`none` for `FALSE`, which leaves `id` alone), and `errno` after
the call. -/
def parseUint (errno : Nat) (str : List Char) : Option UInt32 × Nat :=
  let r := strtoul str
  let errno := if r.overflow then erange else errno
  -- must convert the whole string
  if r.consumed < str.length then (none, errno)
  -- result must fit in 32 bits
  else if r.value = ulongMax ∧ errno = erange then (none, errno)
  else (some r.value, errno)

/-! ## What `strtoul` reads -/

/-- The form `strtoul` reads in base 10: white space, an optional sign, decimal digits. -/
structure StrtoulForm (s : List Char) where
  ws : List Char
  sign : List Char
  digits : List Char
  eq : s = ws ++ sign ++ digits
  ws_space : ∀ c ∈ ws, isspace c
  sign_cases : sign = [] ∨ sign = ['+'] ∨ sign = ['-']
  digits_ne : digits ≠ []
  digits_digit : ∀ c ∈ digits, c.isDigit

private theorem isspace_of_isDigit {c : Char} (h : c.isDigit) : isspace c = false := by
  revert h
  simp only [Char.isDigit, isspace, Bool.and_eq_true, decide_eq_true_eq, Bool.or_eq_false_iff,
    decide_eq_false_iff_not]
  rintro ⟨h₁, h₂⟩
  refine ⟨⟨⟨⟨⟨?_, ?_⟩, ?_⟩, ?_⟩, ?_⟩, ?_⟩ <;> rintro rfl <;> revert h₁ h₂ <;> decide

/-- The value `strtoul` returns for the form `f` when it does not overflow. -/
def StrtoulForm.value {s : List Char} (f : StrtoulForm s) : UInt32 :=
  let m := UInt32.ofNat (decimalValue f.digits)
  if f.sign = ['-'] then 0 - m else m

private theorem strtoulSign_of_isDigit {d : Char} (t : List Char) (h : d.isDigit) :
    strtoulSign (d :: t) = (false, [], d :: t) := by
  have hm : d ≠ '-' := by rintro rfl; exact absurd h (by decide)
  have hp : d ≠ '+' := by rintro rfl; exact absurd h (by decide)
  unfold strtoulSign
  split <;> simp_all

/-- `strtoul` on the form it reads: it consumes all of it, and overflows exactly when the
digits' value exceeds `ULONG_MAX`. -/
theorem strtoul_of_form {s : List Char} (f : StrtoulForm s) :
    strtoul s =
      if ulongMax.toNat < decimalValue f.digits then ⟨ulongMax, s.length, true⟩
      else ⟨f.value, s.length, false⟩ := by
  obtain ⟨ws, sign, ds, rfl, hws, hsign, hds, hdig⟩ := f
  obtain ⟨d, ds', rfl⟩ := List.exists_cons_of_ne_nil hds
  have hd : d.isDigit := hdig d (.head _)
  have hstop : ∀ c, c = '+' ∨ c = '-' ∨ c.isDigit → isspace c = false := by
    rintro c (rfl | rfl | hc)
    · decide
    · decide
    · exact isspace_of_isDigit hc
  have hfirst : ∃ c r, sign ++ d :: ds' = c :: r ∧ isspace c = false := by
    rcases hsign with rfl | rfl | rfl
    · exact ⟨d, ds', rfl, hstop d (.inr (.inr hd))⟩
    · exact ⟨'+', _, rfl, by decide⟩
    · exact ⟨'-', _, rfl, by decide⟩
  obtain ⟨c, r, hcr, hc⟩ := hfirst
  have hstart : ∀ x ∈ (c :: r).head?, isspace x = false := by simpa using hc
  have htake : (ws ++ sign ++ d :: ds').takeWhile isspace = ws := by
    rw [List.append_assoc, hcr, takeWhile_append_stop hws hstart]
  have hdrop : (ws ++ sign ++ d :: ds').dropWhile isspace = sign ++ d :: ds' := by
    rw [List.append_assoc, hcr, dropWhile_append_stop hws hstart]
  have hsgn : strtoulSign (sign ++ d :: ds') = (decide (sign = ['-']), sign, d :: ds') := by
    rcases hsign with rfl | rfl | rfl
    · simpa using strtoulSign_of_isDigit ds' hd
    · rfl
    · rfl
  simp only [strtoul, StrtoulForm.value, htake, hdrop, hsgn, List.takeWhile_eq_self_iff.mpr hdig,
    List.length_append, List.length_cons, ne_eq, reduceCtorEq, not_false_eq_true, if_false,
    decide_eq_true_eq]

private theorem strtoulSign_spec (r : List Char) :
    r = (strtoulSign r).2.1 ++ (strtoulSign r).2.2 ∧
      ((strtoulSign r).2.1 = [] ∨ (strtoulSign r).2.1 = ['+'] ∨ (strtoulSign r).2.1 = ['-']) := by
  unfold strtoulSign
  split <;> simp

/-- Whatever `strtoul` consumes of a non-empty string is the form it reads: when it
consumes the whole string, the string is of that form. -/
theorem strtoulForm_of_consumed {s : List Char} (hne : s ≠ [])
    (hlen : ¬(strtoul s).consumed < s.length) : Nonempty (StrtoulForm s) := by
  obtain ⟨hr, hsign⟩ := strtoulSign_spec (s.dropWhile isspace)
  simp only [strtoul] at hlen
  generalize strtoulSign (s.dropWhile isspace) = sb at hr hsign hlen
  obtain ⟨neg, sign, body⟩ := sb
  have hs : s = s.takeWhile isspace ++ sign ++ body.takeWhile Char.isDigit ++
      body.dropWhile Char.isDigit := by
    rw [List.append_assoc, List.takeWhile_append_dropWhile, List.append_assoc, ← hr,
      List.takeWhile_append_dropWhile]
  have hlens := congrArg List.length hs
  simp only [List.length_append] at hlens
  by_cases hds : body.takeWhile Char.isDigit = []
  · simp only [hds, if_true, not_lt, Nat.le_zero, List.length_eq_zero] at hlen
    exact absurd hlen hne
  · have htail : body.dropWhile Char.isDigit = [] := by
      rw [← List.length_eq_zero]
      simp only [hds, if_false] at hlen
      split at hlen <;> simp only at hlen <;> omega
    exact ⟨⟨_, sign, _, by simpa [htail] using hs, fun c hc => List.mem_takeWhile_imp hc, hsign,
      hds, fun c hc => List.mem_takeWhile_imp hc⟩⟩

/-! ## What `parse_uint` accepts -/

/-- `parse_uint` accepts a non-empty string exactly when `strtoul` reads all of it without
overflowing, and the result is not `ULONG_MAX` while `errno` holds `ERANGE`; it stores
what `strtoul` returns. -/
theorem parseUint_eq_some_iff {errno : Nat} {s : List Char} (hs : s ≠ []) {n : UInt32} :
    (parseUint errno s).1 = some n ↔
      ∃ f : StrtoulForm s, decimalValue f.digits ≤ ulongMax.toNat ∧ n = f.value ∧
        ¬(n = ulongMax ∧ errno = erange) := by
  constructor
  · intro h
    have hlen : ¬(strtoul s).consumed < s.length := by
      intro hlt
      simp [parseUint, hlt] at h
    obtain ⟨f⟩ := strtoulForm_of_consumed hs hlen
    simp only [parseUint, strtoul_of_form f] at h
    split at h
    · simp at h
    · refine ⟨f, by omega, ?_⟩
      simp only [lt_self_iff_false, if_false, Bool.false_eq_true] at h
      split at h
      · simp at h
      · exact ⟨(Option.some.inj h).symm, by rwa [← Option.some.inj h]⟩
  · rintro ⟨f, hle, rfl, hne⟩
    simp [parseUint, strtoul_of_form f, not_lt.mpr hle, hne]

theorem parseUint_eq_some_iff_42 :
    "42".toList ≠ [] ∧
      ((parseUint 0 "42".toList).1 = some 42 ↔
        ∃ f : StrtoulForm "42".toList, decimalValue f.digits ≤ ulongMax.toNat ∧ 42 = f.value ∧
          ¬((42 : UInt32) = ulongMax ∧ 0 = erange)) :=
  ⟨by decide, parseUint_eq_some_iff (by decide)⟩

/-- On overflow `strtoul` returns `ULONG_MAX`. -/
theorem strtoul_value_of_overflow {s : List Char} (h : (strtoul s).overflow) :
    (strtoul s).value = ulongMax := by
  simp only [strtoul] at h ⊢
  split_ifs at h ⊢
  simp_all

/-- `errno` only matters for a result of `ULONG_MAX`. -/
theorem parseUint_errno_irrel {s : List Char} (h : (strtoul s).value ≠ ulongMax) (e e' : Nat) :
    (parseUint e s).1 = (parseUint e' s).1 := by
  have hov : (strtoul s).overflow = false :=
    Bool.eq_false_iff.mpr fun hov => h (strtoul_value_of_overflow hov)
  simp only [parseUint, hov, h, false_and, if_false, Bool.false_eq_true]
  split <;> rfl

/-- A call that stores a value leaves `errno` as it found it: `strtoul` only writes
`errno` on overflow, and an overflow is rejected. -/
theorem parseUint_errno_of_some {e : Nat} {s : List Char} {v : UInt32}
    (h : (parseUint e s).1 = some v) : (parseUint e s).2 = e := by
  have hov := @strtoul_value_of_overflow s
  simp only [parseUint] at h ⊢
  split_ifs at h ⊢ <;> simp_all

theorem parseUint_errno_of_some_erange :
    (parseUint erange "7".toList).1 = some 7 ∧ (parseUint erange "7".toList).2 = erange :=
  ⟨by decide, parseUint_errno_of_some (v := 7) (by decide)⟩

/-- Where `parse_uint` departs from "a non-empty run of decimal digits below `2^32`": it
accepts the empty string as `0` and `"-1"` as `ULONG_MAX`, and rejects `"4294967295"` when
an earlier call left `ERANGE` in `errno`. -/
theorem parseUint_accepts_outside_decimal :
    parseUint 0 [] = (some 0, 0) ∧
      parseUint 0 "-1".toList = (some ulongMax, 0) ∧
      parseUint erange "4294967295".toList = (none, erange) := by
  decide

/-! ## Reading back what `%u` prints -/

/-- A digit `%u` prints is a decimal digit, and reads back as its value. -/
private theorem digitChar_of_lt_ten {m : Nat} (h : m < 10) :
    (Nat.digitChar m).isDigit ∧ (Nat.digitChar m).toNat - '0'.toNat = m := by
  revert m
  decide

/-- With more fuel than `n`, `Nat.toDigitsCore 10` puts in front of `ds` a non-empty run of
decimal digits whose value is `n`. -/
theorem toDigitsCore_ten {fuel n : Nat} (h : n < fuel) (ds : List Char) :
    ∃ D, Nat.toDigitsCore 10 fuel n ds = D ++ ds ∧ D ≠ [] ∧ (∀ c ∈ D, c.isDigit) ∧
      decimalValue D = n := by
  induction fuel generalizing n ds with
  | zero => omega
  | succ fuel ih =>
    obtain ⟨hdig, hval⟩ := digitChar_of_lt_ten (Nat.mod_lt n (by decide : 10 > 0))
    have hstep : Nat.toDigitsCore 10 (fuel + 1) n ds =
        if n / 10 = 0 then Nat.digitChar (n % 10) :: ds
        else Nat.toDigitsCore 10 fuel (n / 10) (Nat.digitChar (n % 10) :: ds) := rfl
    rw [hstep]
    split
    · rename_i hq
      refine ⟨[Nat.digitChar (n % 10)], rfl, List.cons_ne_nil _ _, by simpa using hdig, ?_⟩
      simp only [decimalValue, List.foldl_cons, List.foldl_nil, hval]
      omega
    · rename_i hq
      obtain ⟨D, hD, hne, hdigs, hD'⟩ := ih (n := n / 10) (by omega) (Nat.digitChar (n % 10) :: ds)
      refine ⟨D ++ [Nat.digitChar (n % 10)], by simp [hD], by simp, ?_, ?_⟩
      · simpa [or_imp, forall_and, hdig] using hdigs
      · simp only [decimalValue, List.foldl_append, List.foldl_cons, List.foldl_nil] at hD' ⊢
        rw [hD', hval]
        omega

/-- `%u` prints nothing but decimal digits. -/
theorem isDigit_of_mem_toDigits {n : Nat} {c : Char} (h : c ∈ Nat.toDigits 10 n) :
    c.isDigit = true := by
  obtain ⟨D, hD, -, hdig, -⟩ := toDigitsCore_ten (Nat.lt_succ_self n) []
  rw [List.append_nil] at hD
  exact hdig c (hD ▸ h)

/-- `parse_uint` reads back every `UINT` that `%u` prints, and leaves `errno` as it was,
except `ULONG_MAX` once an earlier call has left `ERANGE` in `errno`. -/
theorem parseUint_toDigits (errno : Nat) (u : UInt32) :
    parseUint errno (Nat.toDigits 10 u.toNat) =
      (if u = ulongMax ∧ errno = erange then none else some u, errno) := by
  obtain ⟨D, hD, hne, hdig, hval⟩ := toDigitsCore_ten (Nat.lt_succ_self u.toNat) []
  rw [List.append_nil] at hD
  have hs := strtoul_of_form (s := Nat.toDigits 10 u.toNat)
    ⟨[], [], D, hD, fun _ h => absurd h (List.not_mem_nil _), .inl rfl, hne, hdig⟩
  have hle : ¬ ulongMax.toNat < u.toNat := by
    have : ulongMax.toNat + 1 = UInt32.size := rfl
    have := u.toNat_lt_size
    omega
  have hu : UInt32.ofNat u.toNat = u := UInt32.toNat.inj (UInt32.toNat_ofNat_of_lt u.toNat_lt_size)
  simp only [hval, hle, if_false, StrtoulForm.value, hu,
    if_neg (List.cons_ne_nil '-' []).symm] at hs
  simp only [parseUint, hs, lt_irrefl, if_false, Bool.false_eq_true]
  exact (apply_ite (fun o => (o, errno)) _ _ _).symm

/-- `%u` prints two ids the same only when they are equal. -/
theorem toDigits_uint_inj {a b : UInt32}
    (h : Nat.toDigits 10 a.toNat = Nat.toDigits 10 b.toNat) : a = b := by
  have ha := parseUint_toDigits 0 a
  rw [h, parseUint_toDigits] at ha
  simpa [erange] using ha.symm

end Nfs41Idmap
