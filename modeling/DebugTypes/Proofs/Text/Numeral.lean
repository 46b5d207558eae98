import DebugTypes.Proofs.Text.Decimal
import Mathlib.Data.List.Forall2
import Mathlib.Data.Nat.Digits.Defs
import Mathlib.Tactic.IntervalCases

/-!
# Numerals in a base

A numeral is one or more digits, of which letters may be of either case.  Its value is the value of
its digits in the base, the last digit being the least significant, so that zeros in front of it do
not matter.

## Main definitions

* `Text.IsDigitIn base c d` — the character `c` is the digit with the value `d`.
* `Text.Numeral base cs m` — the text `cs` is a numeral with the value `m`.

## Main statements

* `Text.foldlM_digit_eq_some_iff` — reading digits one after the other gives the value of a numeral.
* `Text.digits?_eq_some_iff` — a text is read as decimal digits exactly if it is a numeral.
* `Text.numeral_of_map_toLower` — the digits of a number are a numeral, in whatever case.
-/

namespace DebugTypes.Text

/-- The character is the digit with the value `d` in a base, whatever the case of its letter. -/
def IsDigitIn (base : Nat) (c : Char) (d : Nat) : Prop :=
  d < base ∧ (c = d.digitChar ∨ c = d.digitChar.toUpper)

instance (base : Nat) (c : Char) (d : Nat) : Decidable (IsDigitIn base c d) :=
  inferInstanceAs (Decidable (_ ∧ _))

/-- The text is one or more digits, which together have the value `m`. -/
structure Numeral (base : Nat) (cs : List Char) (m : Nat) : Prop where
  ne_nil : cs ≠ []
  digits : ∃ ds, List.Forall₂ (IsDigitIn base) cs ds ∧ m = Nat.ofDigits base ds.reverse

/-! ## Digits -/

section

variable {c : Char} {d : Nat}

/-- What holds of every ASCII character holds of each of them. -/
theorem of_forall_ascii {P : Char → Prop} (hc : c.toNat < 128) (h : ∀ n < 128, P (Char.ofNat n)) :
    P c := by
  have hn := h c.toNat hc
  rwa [Char.ofNat_toNat] at hn

theorem toNat_lt_of_hexDigit? (h : hexDigit? c = some d) : c.toNat < 128 := by
  unfold hexDigit? at h
  split at h
  · rename_i hdigit
    have hrange : '0'.toNat ≤ c.toNat ∧ c.toNat ≤ '9'.toNat := Char.isDigit_iff_toNat.1 hdigit
    exact Nat.lt_of_le_of_lt hrange.2 (by decide)
  split at h
  · rename_i hletter
    have hle : c.toNat ≤ 'f'.toNat := hletter.2
    exact Nat.lt_of_le_of_lt hle (by decide)
  split at h
  · rename_i hletter
    have hle : c.toNat ≤ 'F'.toNat := hletter.2
    exact Nat.lt_of_le_of_lt hle (by decide)
  · cases h

theorem hexDigit?_eq_some_iff : hexDigit? c = some d ↔ IsDigitIn 16 c d := by
  constructor
  · intro h
    have hdigit : ∀ d ∈ hexDigit? c, IsDigitIn 16 c d := by
      apply of_forall_ascii (toNat_lt_of_hexDigit? h)
      decide
    exact hdigit d h
  · rintro ⟨hd, hc⟩
    interval_cases d <;> rcases hc with rfl | rfl <;> decide

theorem digit?_eq_some_iff : digit? c = some d ↔ IsDigitIn 10 c d := by
  constructor
  · intro h
    have hdigit : c.isDigit = true := by
      by_contra hdigit
      rw [digit?, if_neg hdigit] at h
      cases h
    have hhex : hexDigit? c = some d := by
      rwa [hexDigit?, if_pos hdigit, ← digit?_of_isDigit hdigit]
    have hrange : '0'.toNat ≤ c.toNat ∧ c.toNat ≤ '9'.toNat := Char.isDigit_iff_toNat.1 hdigit
    rw [digit?_of_isDigit hdigit, Option.some.injEq] at h
    have hd : d < 10 := by
      simp only [Char.reduceToNat] at hrange h
      omega
    exact ⟨hd, (hexDigit?_eq_some_iff.1 hhex).2⟩
  · rintro ⟨hd, hc⟩
    interval_cases d <;> rcases hc with rfl | rfl <;> decide

/-- The digit with the value zero. -/
theorem isDigitIn_zero {base : Nat} (h : 0 < base) : IsDigitIn base '0' 0 := ⟨h, .inl rfl⟩

/-- A letter of either case is the digit that the small letter is. -/
theorem isDigitIn_of_toLower {base : Nat} (hd : d < base) (h : c.toLower = d.digitChar) :
    IsDigitIn base c d := by
  refine ⟨hd, ?_⟩
  have hcases : c = c.toLower ∨ c = c.toLower.toUpper := by
    by_cases hascii : c.toNat < 128
    · apply of_forall_ascii hascii
      decide
    · have hcapital : ¬(c.val ≥ 'A'.val ∧ c.val ≤ 'Z'.val) := by
        intro hrange
        have hle : c.toNat ≤ 'Z'.toNat := hrange.2
        simp only [Char.reduceToNat] at hle
        omega
      have hsame : c.toLower = c := dif_neg hcapital
      exact .inl hsame.symm
  rwa [h] at hcases

end

/-! ## Digits one after the other -/

/-- Reading digits one after the other, each of which makes the digits in front of it one place more
significant. -/
theorem foldlM_digit_eq_some_iff {base : Nat} {value? : Char → Option Nat}
    (h : ∀ {c d}, value? c = some d ↔ IsDigitIn base c d) {cs : List Char} {value m : Nat} :
    cs.foldlM (fun v c => (value? c).map fun d => base * v + d) value = some m ↔
      ∃ ds, List.Forall₂ (IsDigitIn base) cs ds ∧
        m = Nat.ofDigits base ds.reverse + base ^ ds.length * value := by
  induction cs generalizing value with
  | nil =>
      constructor
      · intro hm
        obtain rfl : value = m := by simpa using hm
        exact ⟨[], .nil, by simp⟩
      · rintro ⟨ds, hds, rfl⟩
        cases hds
        simp
  | cons c cs ih =>
      rw [List.foldlM_cons]
      constructor
      · intro hm
        obtain ⟨v, hv, hm⟩ := Option.bind_eq_some_iff.1 hm
        obtain ⟨d, hd, rfl⟩ := Option.map_eq_some_iff.1 hv
        obtain ⟨ds, hds, rfl⟩ := ih.1 hm
        refine ⟨d :: ds, .cons (h.1 hd) hds, ?_⟩
        rw [List.reverse_cons, Nat.ofDigits_append, Nat.ofDigits_singleton, List.length_reverse,
          List.length_cons]
        ring
      · rintro ⟨_, hds, rfl⟩
        cases hds with
        | @cons _ d _ ds hd hds =>
            refine Option.bind_eq_some_iff.2 ⟨base * value + d, ?_, ih.2 ⟨ds, hds, ?_⟩⟩
            · rw [h.2 hd, Option.map_some]
            · rw [List.reverse_cons, Nat.ofDigits_append, Nat.ofDigits_singleton,
                List.length_reverse, List.length_cons]
              ring

theorem digitsFrom_eq_foldlM (cs : List Char) (value : Nat) :
    digitsFrom value cs = cs.foldlM (fun v c => (digit? c).map fun d => 10 * v + d) value := by
  induction cs generalizing value with
  | nil => rfl
  | cons c cs ih =>
      rw [digitsFrom, List.foldlM_cons]
      cases digit? c with
      | none => rfl
      | some d => exact ih (10 * value + d)

/-- A text that is not empty is a numeral if its digits are read one after the other. -/
theorem numeral_iff_foldlM {base : Nat} {value? : Char → Option Nat}
    (h : ∀ {c d}, value? c = some d ↔ IsDigitIn base c d) {cs : List Char} (hne : cs ≠ [])
    {m : Nat} :
    cs.foldlM (fun v c => (value? c).map fun d => base * v + d) 0 = some m ↔ Numeral base cs m := by
  rw [foldlM_digit_eq_some_iff h]
  simp only [Nat.mul_zero, Nat.add_zero]
  exact ⟨fun hds => ⟨hne, hds⟩, fun hm => hm.digits⟩

/-- A text is read as decimal digits exactly if it is a numeral. -/
theorem digits?_eq_some_iff {cs : List Char} {m : Nat} :
    digits? cs = some m ↔ Numeral 10 cs m := by
  cases cs with
  | nil => exact ⟨nofun, fun h => absurd rfl h.ne_nil⟩
  | cons c cs =>
      rw [digits?_eq_digitsFrom (List.cons_ne_nil c cs), digitsFrom_eq_foldlM]
      exact numeral_iff_foldlM digit?_eq_some_iff (List.cons_ne_nil c cs)

/-! ## Values -/

namespace Numeral

variable {base : Nat} {cs : List Char} {m : Nat}

/-- Zeros in front of a numeral do not change its value. -/
theorem replicate_zero_append (h : Numeral base cs m) (k : Nat) :
    Numeral base (List.replicate k '0' ++ cs) m := by
  obtain ⟨hne, ds, hds, rfl⟩ := h
  have hbase : 0 < base := by
    cases hds with
    | nil => exact absurd rfl hne
    | cons hd _ => exact Nat.zero_lt_of_lt hd.1
  refine ⟨by simp [hne], List.replicate k 0 ++ ds, ?_, ?_⟩
  · induction k with
    | zero => exact hds
    | succ k ih =>
        rw [List.replicate_succ, List.replicate_succ]
        exact .cons (isDigitIn_zero hbase) ih
  · rw [List.reverse_append, List.reverse_replicate, Nat.ofDigits_append]
    simp [Nat.ofDigits_replicate_zero]

/-- A digit behind a numeral. -/
theorem concat (h : Numeral base cs m) {c : Char} {d : Nat} (hd : IsDigitIn base c d) :
    Numeral base (cs ++ [c]) (base * m + d) := by
  obtain ⟨-, ds, hds, rfl⟩ := h
  refine ⟨by simp, ds ++ [d], List.rel_append hds (.cons hd .nil), ?_⟩
  rw [List.reverse_append, List.reverse_singleton, List.singleton_append, Nat.ofDigits_cons,
    Nat.add_comm]

end Numeral

/-- The digits of a number in a base are a numeral with its value, whatever the case of each
letter. -/
theorem numeral_of_map_toLower {base : Nat} (hbase : 1 < base) {cs : List Char} {n : Nat}
    (h : cs.map Char.toLower = Nat.toDigits base n) : Numeral base cs n := by
  induction n using Nat.strong_induction_on generalizing cs with
  | _ n ih =>
    by_cases hn : n < base
    · rw [Nat.toDigits_of_lt_base hn, List.map_eq_singleton_iff] at h
      obtain ⟨c, rfl, hc⟩ := h
      refine ⟨by simp, [n], .cons (isDigitIn_of_toLower hn hc) .nil, by simp⟩
    · rw [Nat.toDigits_of_base_le hbase (by omega), List.map_eq_append_iff] at h
      obtain ⟨front, last, rfl, hfront, hlast⟩ := h
      obtain ⟨c, rfl, hc⟩ := List.map_eq_singleton_iff.1 hlast
      have hdiv : n / base < n := Nat.div_lt_self (by omega) hbase
      have hmod : n % base < base := Nat.mod_lt n (by omega)
      have hnumeral := (ih (n / base) hdiv hfront).concat (isDigitIn_of_toLower hmod hc)
      rwa [Nat.div_add_mod] at hnumeral

end DebugTypes.Text
