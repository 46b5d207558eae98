import DebugTypes.Proofs.Text.Words
import DebugTypes.Text.Integer

/-!
# Decimal texts read back

The decimal text of a number names that number in every type of fixed width that holds it, and it is
one word.

## Main statements

* `Text.digitsFrom_eq` — the value of a list of digits is that of core's `Nat.ofDigitChars`.
* `Text.integer?_repr` — the integer of the decimal text of a number.
-/

namespace DebugTypes.Text

theorem digit?_of_isDigit {c : Char} (h : c.isDigit = true) :
    digit? c = some (c.toNat - '0'.toNat) := by rw [digit?, if_pos h]

/-- No digit is blank. -/
theorem isBlank_of_isDigit {c : Char} (h : c.isDigit = true) : isBlank c = false := by
  rw [Char.isDigit_iff_toNat] at h
  have hle : c.toNat ≤ 57 := h.2
  have hge : 48 ≤ c.toNat := h.1
  simp only [isBlank, Bool.or_eq_false_iff, Bool.and_eq_false_iff, decide_eq_false_iff_not,
    beq_eq_false_iff_ne]
  omega

/-- The value of a list of digits, as core has it. -/
theorem digitsFrom_eq {cs : List Char} (h : ∀ c ∈ cs, c.isDigit = true) (value : Nat) :
    digitsFrom value cs = some (Nat.ofDigitChars 10 cs value) := by
  induction cs generalizing value with
  | nil => rfl
  | cons c cs ih =>
      rw [digitsFrom, digit?_of_isDigit (h c List.mem_cons_self), Option.bind_some,
        ih fun c' hmem => h c' (List.mem_cons_of_mem c hmem), Nat.ofDigitChars_cons]

theorem isDigit_of_mem_repr {n : Nat} {c : Char} (h : c ∈ n.repr.toList) : c.isDigit = true := by
  rw [Nat.toList_repr] at h
  exact Nat.isDigit_of_mem_toDigits (by decide) (by decide) h

/-- The decimal text of a number is one word. -/
theorem isWord_repr (n : Nat) : IsWord n.repr where
  ne_nil := by
    rw [Nat.toList_repr]
    exact Nat.toDigits_ne_nil
  blankFree _ h := isBlank_of_isDigit (isDigit_of_mem_repr h)

/-- Text of digits has no sign. -/
theorem signedDigits?_of_isDigit {cs : List Char} (h : ∀ c ∈ cs, c.isDigit = true) (signed : Bool) :
    signedDigits? signed cs = (digits? cs).map Int.ofNat := by
  unfold signedDigits?
  split
  · exact absurd (h '+' List.mem_cons_self) (by decide)
  · exact absurd (h '-' List.mem_cons_self) (by decide)
  · rfl

theorem digits?_eq_digitsFrom {cs : List Char} (hne : cs ≠ []) : digits? cs = digitsFrom 0 cs := by
  cases cs with
  | nil => exact absurd rfl hne
  | cons c cs => rfl

theorem digits?_repr (n : Nat) : digits? n.repr.toList = some n := by
  rw [digits?_eq_digitsFrom (isWord_repr n).ne_nil, digitsFrom_eq fun c h => isDigit_of_mem_repr h,
    Nat.toList_repr, Nat.ofDigitChars_ten_toDigits]

/-- The decimal text of a number names it in every type that holds it. -/
theorem integer?_repr (α : Type) [FixedWidth α] (n : Nat) :
    integer? α n.repr = FixedWidth.ofInt? α n := by
  rw [integer?, (isWord_repr n).blankFree.trim_eq,
    signedDigits?_of_isDigit fun c h => isDigit_of_mem_repr h, digits?_repr]
  rfl

theorem integer?_uint32 {n : Nat} (h : n < UInt32.size) :
    integer? UInt32 n.repr = some (UInt32.ofNat n) := by
  rw [integer?_repr, FixedWidth.ofInt?, if_pos]
  · rfl
  · change (0 : Int) ≤ n ∧ (n : Int) ≤ 0xFFFFFFFF
    change n < 4294967296 at h
    omega

theorem integer?_uint64 {n : Nat} (h : n < UInt64.size) :
    integer? UInt64 n.repr = some (UInt64.ofNat n) := by
  rw [integer?_repr, FixedWidth.ofInt?, if_pos]
  · rfl
  · change (0 : Int) ≤ n ∧ (n : Int) ≤ 0xFFFFFFFFFFFFFFFF
    change n < 18446744073709551616 at h
    omega

end DebugTypes.Text
