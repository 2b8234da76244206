import Mathlib.Data.List.DropRight

/-!
# C strings, status codes and the bounded copies of `idmap.c`

The mapper keeps every string in a fixed `char` array and fills it with the `strsafe.h`
copies, which truncate and report failure when the source does not fit. A C string is
modelled as the list of its characters before the terminating NUL, one `Char` per byte.
A `char[VAL_LEN]` array holding one is a `ValStr`, which carries the fact that the string
and its terminator fit, so a cached entry cannot hold an over-long name.

## Main definitions

* `isspace`, `strcmp` — the C library functions in the "C" locale
* `stringCchCopyA`, `stringCchCopyNA` — the `strsafe.h` copies: whether they succeeded,
  and what the destination holds afterwards
* `ValStr` — the contents of a `char[VAL_LEN]` field of a cache entry
-/

namespace Nfs41Idmap

/-! ## Constants of `idmap.c` and of the Windows headers it includes -/

/-- `NO_ERROR` -/
def noError : Nat := 0
/-- `ERROR_FILE_NOT_FOUND` -/
def errorFileNotFound : Nat := 2
/-- `ERROR_INVALID_PARAMETER` -/
def errorInvalidParameter : Nat := 87
/-- `ERROR_BUFFER_OVERFLOW` -/
def errorBufferOverflow : Nat := 111
/-- `ERROR_NOT_FOUND` -/
def errorNotFound : Nat := 1168
/-- `ERANGE`, the `errno` value `strtoul` leaves on overflow. -/
def erange : Nat := 34

/-- `FILTER_LEN`: the size of the LDAP filter buffer. -/
def filterLen : Nat := 1024
/-- `NAME_LEN`: the size of a configured class or attribute name. -/
def nameLen : Nat := 32
/-- `VAL_LEN`: the size of every string field of a cache entry. -/
def valLen : Nat := 257

/-! ## Characters and comparison -/

/-- `isspace` in the "C" locale. Bytes above `0x7f` are not spaces. -/
def isspace (c : Char) : Bool :=
  c = ' ' || c = '\t' || c = '\n' || c = '\x0b' || c = '\x0c' || c = '\r'

/-- `strcmp`: negative, zero or positive as the first string sorts before, with or after
the second, bytes compared unsigned. -/
def strcmp : List Char → List Char → Int
  | [], [] => 0
  | [], _ :: _ => -1
  | _ :: _, [] => 1
  | a :: as, b :: bs => if a = b then strcmp as bs else if a.toNat < b.toNat then -1 else 1

@[simp] theorem strcmp_eq_zero_iff {a b : List Char} : strcmp a b = 0 ↔ a = b := by
  induction a generalizing b with
  | nil => cases b <;> simp [strcmp]
  | cons x xs ih =>
    cases b with
    | nil => simp [strcmp]
    | cons y ys =>
      by_cases hxy : x = y
      · simp [strcmp, hxy, ih]
      · simp only [strcmp, hxy, if_false, List.cons.injEq, false_and, iff_false]
        split <;> decide

/-! ## Scanning

`config_parse_pair` and `strtoul` skip runs of characters with loops such as
`while (isspace(*pos)) pos++`; these lemmas say where such a scan stops on a string built
from a run and a rest that does not continue it. -/

section Scan

variable {α : Type} {p : α → Bool} {ws r v : List α}

theorem takeWhile_append_stop (hws : ∀ c ∈ ws, p c) (hr : ∀ c ∈ r.head?, p c = false) :
    (ws ++ r).takeWhile p = ws := by
  rw [List.takeWhile_append_of_pos hws]
  cases r with
  | nil => simp
  | cons c t => simp [hr c rfl]

theorem dropWhile_append_stop (hws : ∀ c ∈ ws, p c) (hr : ∀ c ∈ r.head?, p c = false) :
    (ws ++ r).dropWhile p = r := by
  rw [List.dropWhile_append_of_pos hws]
  cases r with
  | nil => simp
  | cons c t => simp [hr c rfl]

theorem rdropWhile_append_stop (hws : ∀ c ∈ ws, p c) (hv : ∀ c ∈ v.getLast?, p c = false) :
    (v ++ ws).rdropWhile p = v := by
  have hrev : ∀ c ∈ v.reverse.head?, p c = false := by simpa [List.head?_reverse] using hv
  simp only [List.rdropWhile, List.reverse_append,
    dropWhile_append_stop (fun c hc => hws c (List.mem_reverse.mp hc)) hrev, List.reverse_reverse]

theorem rdropWhile_append_rtakeWhile (l : List α) : l.rdropWhile p ++ l.rtakeWhile p = l := by
  rw [List.rdropWhile, List.rtakeWhile, ← List.reverse_append, List.takeWhile_append_dropWhile,
    List.reverse_reverse]

theorem head?_dropWhile_stop (l : List α) : ∀ c ∈ (l.dropWhile p).head?, p c = false := by
  intro c hc
  have := List.head?_dropWhile_not p l
  rwa [Option.mem_def.mp hc] at this

theorem getLast?_rdropWhile_stop (l : List α) : ∀ c ∈ (l.rdropWhile p).getLast?, p c = false := by
  intro c hc
  have hne : l.rdropWhile p ≠ [] := by rintro h; simp [h] at hc
  have := List.rdropWhile_last_not p l hne
  rw [List.getLast?_eq_getLast _ hne, Option.mem_some_iff] at hc
  simpa [hc] using this

/-- One more character at the end either extends what a scan takes or is not reached. -/
theorem takeWhile_append_singleton (l : List α) (w : α) :
    (l ++ [w]).takeWhile p = l.takeWhile p ∨ (l ++ [w]).takeWhile p = l.takeWhile p ++ [w] := by
  induction l with
  | nil => by_cases h : p w <;> simp [h]
  | cons x l ih =>
    by_cases h : p x
    · rcases ih with h' | h' <;> simp [h, h']
    · simp [h]

/-- A character the scan skips, added at the end, stays at the end of what remains. -/
theorem dropWhile_append_singleton {w : α} (hw : p w) (l : List α) :
    (l ++ [w]).dropWhile p = if (l.dropWhile p).isEmpty then [] else l.dropWhile p ++ [w] := by
  induction l with
  | nil => simp [hw]
  | cons x l ih => by_cases h : p x <;> simp [h, ih]

theorem takeWhile_ne_append_singleton [DecidableEq α] {d w : α} (hw : w ≠ d) (l : List α) :
    (l ++ [w]).takeWhile (· ≠ d) = if d ∈ l then l.takeWhile (· ≠ d) else l ++ [w] := by
  induction l with
  | nil => simp [hw]
  | cons x l ih =>
    by_cases h : x = d
    · simp [h]
    · by_cases hl : d ∈ l <;> simp_all [Ne.symm h]

theorem dropWhile_ne_append_singleton [DecidableEq α] {d w : α} (hw : w ≠ d) (l : List α) :
    (l ++ [w]).dropWhile (· ≠ d) = if d ∈ l then l.dropWhile (· ≠ d) ++ [w] else [] := by
  induction l with
  | nil => simp [hw]
  | cons x l ih =>
    by_cases h : x = d
    · simp [h]
    · by_cases hl : d ∈ l <;> simp_all [Ne.symm h]

theorem dropWhile_eq_nil_of_not_mem [DecidableEq α] {d : α} {l : List α} (h : d ∉ l) :
    l.dropWhile (· ≠ d) = [] := by
  rw [List.dropWhile_eq_nil_iff]
  intro x hx
  simp only [decide_eq_true_eq]
  rintro rfl
  exact h hx

/-- `strchr(l, d)` finds `d` when it occurs: the rest starts with it. -/
theorem dropWhile_eq_cons_of_mem [DecidableEq α] {d : α} {l : List α} (h : d ∈ l) :
    ∃ t, l.dropWhile (· ≠ d) = d :: t := by
  have hstop := head?_dropWhile_stop (p := fun c => decide (c ≠ d)) l
  cases hd : l.dropWhile (· ≠ d) with
  | nil =>
    rw [List.dropWhile_eq_nil_iff] at hd
    exact absurd (hd d h) (by simp)
  | cons x t =>
    rw [hd] at hstop
    exact ⟨t, by simpa using hstop x rfl⟩

end Scan

/-! ## The `strsafe.h` copies -/

/-- `StringCchCopyA(dst, cch, src)`: whether it succeeded, and what `dst` holds afterwards.
It fails when `src` and its terminator do not fit in `cch` characters, leaving the
truncated string. -/
def stringCchCopyA (cch : Nat) (src : List Char) : Bool × List Char :=
  (decide (src.length < cch), src.take (cch - 1))

/-- `StringCchCopyNA(dst, cch, src, n)`: as `StringCchCopyA` on the first `n` characters
of `src`. -/
def stringCchCopyNA (cch : Nat) (src : List Char) (n : Nat) : Bool × List Char :=
  stringCchCopyA cch (src.take n)

theorem stringCchCopyA_of_lt {cch : Nat} {src : List Char} (h : src.length < cch) :
    stringCchCopyA cch src = (true, src) := by
  simp [stringCchCopyA, h, List.take_of_length_le (Nat.le_sub_one_of_lt h)]

/-- A copy that succeeds copies the whole string. -/
theorem stringCchCopyA_snd_of_fst {cch : Nat} {src : List Char}
    (h : (stringCchCopyA cch src).1 = true) : (stringCchCopyA cch src).2 = src :=
  (stringCchCopyA_of_lt (of_decide_eq_true h)).symm ▸ rfl

theorem stringCchCopyA_length_lt {cch : Nat} (src : List Char) (h : 0 < cch) :
    (stringCchCopyA cch src).2.length < cch := by
  simp only [stringCchCopyA, List.length_take]
  omega

/-- The contents of a `char[VAL_LEN]` field: a string whose terminator still fits. -/
structure ValStr where
  val : List Char
  fits : val.length < valLen
  deriving DecidableEq, Repr

namespace ValStr

/-- The empty string, as `calloc` leaves a field. -/
def empty : ValStr := ⟨[], by decide⟩

/-- The field after `StringCchCopyA(field, VAL_LEN, src)`. -/
def copy (src : List Char) : ValStr :=
  ⟨(stringCchCopyA valLen src).2, stringCchCopyA_length_lt src (by decide)⟩

/-- Copying a field's own contents leaves it as it was: `StringCchCopyA` between two
`char[VAL_LEN]` fields never truncates. -/
@[simp] theorem copy_val (s : ValStr) : copy s.val = s := by
  cases s with
  | mk val fits => simp [copy, stringCchCopyA_of_lt fits]

theorem copy_of_lt {src : List Char} (h : src.length < valLen) : (copy src).val = src := by
  simp [copy, stringCchCopyA_of_lt h]

end ValStr

end Nfs41Idmap
