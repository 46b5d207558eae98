import DebugTypes.CType.Constants
import DebugTypes.Proofs.Text.Numeral
import Mathlib.Data.Int.ModEq

/-!
# The language of enum literals

A literal without the blanks around it is a magnitude, with a minus sign in front or without.  A
magnitude is a numeral: in decimal, or in hexadecimal behind a marker that announces it.

## Main definitions

* `radixMarkers` — what may stand in front of the digits, and the base that it announces.
* `Magnitude cs m` — the text `cs` spells the magnitude `m`.

## Main statements

* `magnitude?_eq_some_iff` — which magnitudes are read.
* `literalValue?_of_unsigned`, `literalValue?_of_negative` — the value of a literal.
* `literalValue?_of_spelling` — which literals have a value, and which one.
-/

namespace DebugTypes

open Text

/-- What may stand in front of the digits of a magnitude, with the base that it announces. -/
def radixMarkers : List (List Char × Nat) :=
  [([], 10), (['0', 'x'], 16), (['0', 'X'], 16), (['0', 'x', '+'], 16), (['0', 'X', '+'], 16)]

/-- The text spells the magnitude `m`: a marker, and a numeral in the base that it announces. -/
def Magnitude (cs : List Char) (m : Nat) : Prop :=
  ∃ marker ∈ radixMarkers, ∃ digits, cs = marker.1 ++ digits ∧ Numeral marker.2 digits m

/-! ## Reading magnitudes -/

theorem hexDigitsFrom_eq_foldlM (cs : List Char) (value : Nat) :
    hexDigitsFrom value cs =
      cs.foldlM (fun v c => (hexDigit? c).map fun d => 16 * v + d) value := by
  induction cs generalizing value with
  | nil => rfl
  | cons c cs ih =>
      rw [hexDigitsFrom, List.foldlM_cons]
      cases hexDigit? c with
      | none => rfl
      | some d => exact ih (16 * value + d)

theorem hexDigits?_eq_some_iff {cs : List Char} {m : Nat} :
    hexDigits? cs = some m ↔ Numeral 16 cs m := by
  cases cs with
  | nil => exact ⟨nofun, fun h => absurd rfl h.ne_nil⟩
  | cons c cs =>
      have hdigits : hexDigits? (c :: cs) = hexDigitsFrom 0 (c :: cs) := rfl
      rw [hdigits, hexDigitsFrom_eq_foldlM]
      exact numeral_iff_foldlM hexDigit?_eq_some_iff (List.cons_ne_nil c cs)

variable {cs digits : List Char} {m : Nat}

/-- Every digit of a numeral in a base of the markers is a hexadecimal one. -/
theorem isSome_hexDigit?_of_mem {base : Nat} (hbase : base ≤ 16) (h : Numeral base cs m) {c : Char}
    (hc : c ∈ cs) : (hexDigit? c).isSome = true := by
  obtain ⟨-, ds, hds, -⟩ := h
  induction hds with
  | nil => cases hc
  | @cons c' d _ _ hd _ ih =>
      rcases List.mem_cons.1 hc with rfl | hc
      · have hhex : IsDigitIn 16 c d := ⟨Nat.lt_of_lt_of_le hd.1 hbase, hd.2⟩
        rw [hexDigit?_eq_some_iff.2 hhex]
        rfl
      · exact ih hc

theorem base_le_of_mem {marker : List Char × Nat} (h : marker ∈ radixMarkers) : marker.2 ≤ 16 := by
  revert marker
  decide

/-- Digits without a marker are read as decimal ones: none of them is an `x`. -/
theorem magnitude?_of_decimal (h : Numeral 10 cs m) : magnitude? cs = some m := by
  have hx : ∀ c ∈ cs, (hexDigit? c).isSome = true :=
    fun c hc => isSome_hexDigit?_of_mem (by decide) h hc
  unfold magnitude?
  split
  · exact absurd (hx 'x' (by simp)) (by decide)
  · exact absurd (hx 'X' (by simp)) (by decide)
  · exact absurd (hx 'x' (by simp)) (by decide)
  · exact absurd (hx 'X' (by simp)) (by decide)
  · exact digits?_eq_some_iff.2 h

/-- Behind `0x` or `0X` the digits are hexadecimal. -/
theorem magnitude?_of_hexadecimal {x : Char} (hx : x = 'x' ∨ x = 'X')
    (hplus : ∀ rest, cs ≠ '+' :: rest) : magnitude? ('0' :: x :: cs) = hexDigits? cs := by
  rw [magnitude?.eq_def]
  rcases hx with rfl | rfl
  · split <;> simp_all
  · split <;> simp_all

theorem magnitude?_eq_some_iff : magnitude? cs = some m ↔ Magnitude cs m := by
  constructor
  · intro h
    unfold magnitude? at h
    split at h
    · exact ⟨(['0', 'x', '+'], 16), by decide, _, rfl, hexDigits?_eq_some_iff.1 h⟩
    · exact ⟨(['0', 'X', '+'], 16), by decide, _, rfl, hexDigits?_eq_some_iff.1 h⟩
    · exact ⟨(['0', 'x'], 16), by decide, _, rfl, hexDigits?_eq_some_iff.1 h⟩
    · exact ⟨(['0', 'X'], 16), by decide, _, rfl, hexDigits?_eq_some_iff.1 h⟩
    · exact ⟨([], 10), by decide, _, rfl, digits?_eq_some_iff.1 h⟩
  · rintro ⟨marker, hmarker, digits, rfl, hdigits⟩
    have hplus : ∀ rest, digits ≠ '+' :: rest := by
      rintro rest rfl
      have hhex := isSome_hexDigit?_of_mem (base_le_of_mem hmarker) hdigits (c := '+') (by simp)
      exact absurd hhex (by decide)
    simp only [radixMarkers, List.mem_cons, List.not_mem_nil, or_false] at hmarker
    rcases hmarker with rfl | rfl | rfl | rfl | rfl
    · exact magnitude?_of_decimal hdigits
    · exact (magnitude?_of_hexadecimal (.inl rfl) hplus).trans (hexDigits?_eq_some_iff.2 hdigits)
    · exact (magnitude?_of_hexadecimal (.inr rfl) hplus).trans (hexDigits?_eq_some_iff.2 hdigits)
    · exact hexDigits?_eq_some_iff.2 hdigits
    · exact hexDigits?_eq_some_iff.2 hdigits

/-! ## Signs -/

/-- No magnitude begins with a minus sign, and none has a blank. -/
theorem Magnitude.forall_mem (h : Magnitude cs m) : ∀ c ∈ cs, c ≠ '-' ∧ isBlank c = false := by
  obtain ⟨marker, hmarker, digits, rfl, hdigits⟩ := h
  intro c hc
  rcases List.mem_append.1 hc with hc | hc
  · have hall : ∀ marker ∈ radixMarkers, ∀ c ∈ marker.1, c ≠ '-' ∧ isBlank c = false := by
      simp [radixMarkers, isBlank]
    exact hall marker hmarker c hc
  · have hhex := isSome_hexDigit?_of_mem (base_le_of_mem hmarker) hdigits hc
    obtain ⟨d, hd⟩ := Option.isSome_iff_exists.1 hhex
    have hdigit : (hexDigit? c).isSome = true → c ≠ '-' ∧ isBlank c = false := by
      apply of_forall_ascii (toNat_lt_of_hexDigit? hd)
      decide
    exact hdigit hhex

/-- Without a sign, the bits of the magnitude are those of the value. -/
theorem signedLiteral?_of_magnitude (h : Magnitude cs m) :
    signedLiteral? cs = if m < UInt64.size then some (Int64.ofInt m) else none := by
  unfold signedLiteral?
  split
  · exact absurd rfl (h.forall_mem '-' List.mem_cons_self).1
  · rw [magnitude?_eq_some_iff.2 h]
    rfl

theorem signedLiteral?_minus (h : Magnitude cs m) :
    signedLiteral? ('-' :: cs) =
      if m ≤ 0x8000000000000000 then some (Int64.ofInt (-(m : Int))) else none := by
  rw [signedLiteral?, magnitude?_eq_some_iff.2 h]
  rfl

/-- What is left of a literal when it is trimmed is read. -/
theorem literalValue?_ofList {cs : List Char} (h : ∀ c ∈ cs, isBlank c = false) :
    literalValue? (String.ofList cs) = signedLiteral? cs := by
  have hfree : BlankFree cs := h
  rw [literalValue?, String.toList_ofList, hfree.trim_eq]

/-- Blanks around a literal do not change its value. -/
theorem literalValue?_blanks {before after : List Char} (hbefore : ∀ c ∈ before, isBlank c = true)
    (hafter : ∀ c ∈ after, isBlank c = true) (s : String) :
    literalValue? (String.ofList (before ++ s.toList ++ after)) = literalValue? s := by
  rw [literalValue?, String.toList_ofList, trim_append_append hbefore hafter, literalValue?]

/-- The signs that a literal may have. -/
def literalSigns : List (List Char) := [[], ['-']]

/-- Texts that spell the same magnitude are literals of the same value, with either sign. -/
theorem literalValue?_congr {sign cs cs' : List Char} (hsign : sign ∈ literalSigns)
    (h : Magnitude cs m) (h' : Magnitude cs' m) :
    literalValue? (String.ofList (sign ++ cs)) = literalValue? (String.ofList (sign ++ cs')) := by
  have hblank : ∀ {cs : List Char}, Magnitude cs m → ∀ c ∈ sign ++ cs, isBlank c = false := by
    intro cs h c hc
    rcases List.mem_append.1 hc with hc | hc
    · have hall : ∀ sign ∈ literalSigns, ∀ c ∈ sign, isBlank c = false := by
        simp [literalSigns, isBlank]
      exact hall sign hsign c hc
    · exact (h.forall_mem c hc).2
  rw [literalValue?_ofList (hblank h), literalValue?_ofList (hblank h')]
  simp only [literalSigns, List.mem_cons, List.not_mem_nil, or_false] at hsign
  rcases hsign with rfl | rfl
  · rw [List.nil_append, List.nil_append, signedLiteral?_of_magnitude h,
      signedLiteral?_of_magnitude h']
  · rw [List.singleton_append, List.singleton_append, signedLiteral?_minus h,
      signedLiteral?_minus h']

/-- Zeros in front of the digits of a magnitude do not change it. -/
theorem Magnitude.zeros {marker : List Char × Nat} (hmarker : marker ∈ radixMarkers)
    (h : Numeral marker.2 digits m) (k : Nat) :
    Magnitude (marker.1 ++ (List.replicate k '0' ++ digits)) m :=
  ⟨marker, hmarker, _, rfl, h.replicate_zero_append k⟩

/-! ## Values -/

/-- The signed number with the bits of a magnitude is congruent to it. -/
theorem toInt_ofInt_modEq (n : Int) : (Int64.ofInt n).toInt ≡ n [ZMOD 2 ^ 64] := by
  rw [Int64.toInt_ofInt]
  exact Int.bmod_emod

theorem literalValue?_of_unsigned {s : String} (h : Magnitude (trim s.toList) m)
    (hm : m < 2 ^ 64) : literalValue? s = some (Int64.ofInt m) := by
  rw [literalValue?, signedLiteral?_of_magnitude h]
  exact if_pos hm

theorem literalValue?_of_negative {s : String} {cs : List Char} (hs : trim s.toList = '-' :: cs)
    (h : Magnitude cs m) :
    literalValue? s = if m ≤ 2 ^ 63 then some (Int64.ofInt (-(m : Int))) else none := by
  rw [literalValue?, hs, signedLiteral?_minus h]
  rfl

/-- A text that spells no magnitude in range, with or without a minus sign, has no value. -/
theorem literalValue?_eq_none {s : String}
    (h : ∀ m < 2 ^ 64, ¬Magnitude (trim s.toList) m ∧
      ∀ cs, trim s.toList = '-' :: cs → ¬Magnitude cs m) : literalValue? s = none := by
  rw [literalValue?]
  by_contra hvalue
  obtain ⟨v, hv⟩ := Option.ne_none_iff_exists'.1 hvalue
  unfold signedLiteral? at hv
  split at hv
  · rename_i cs hcs
    obtain ⟨m, hm, hv⟩ := Option.bind_eq_some_iff.1 hv
    split at hv
    · rename_i hle
      exact (h m (by omega)).2 cs hcs (magnitude?_eq_some_iff.1 hm)
    · cases hv
  · obtain ⟨m, hm, hv⟩ := Option.bind_eq_some_iff.1 hv
    split at hv
    · rename_i hlt
      exact (h m hlt).1 (magnitude?_eq_some_iff.1 hm)
    · cases hv

/-- The decimal text of a number is a magnitude. -/
theorem magnitude_repr (n : Nat) : Magnitude n.repr.toList n :=
  ⟨([], 10), by decide, _, rfl, digits?_eq_some_iff.1 (digits?_repr n)⟩

/-- Every signed number is the value of its decimal text. -/
theorem literalValue?_toString (v : Int64) : literalValue? (toString v.toInt) = some v := by
  have hge := v.le_toInt
  have hlt := v.toInt_lt
  cases hv : v.toInt with
  | ofNat n =>
      rw [hv, Int.ofNat_eq_natCast] at hlt
      have htrim : trim (toString (Int.ofNat n)).toList = n.repr.toList :=
        (isWord_repr n).blankFree.trim_eq
      have hvalue := literalValue?_of_unsigned (htrim ▸ magnitude_repr n) (by omega)
      rw [hvalue, ← v.ofInt_toInt, hv]
      rfl
  | negSucc n =>
      rw [hv] at hge
      have htext : (toString (Int.negSucc n)).toList = '-' :: (n + 1).repr.toList :=
        String.toList_append
      have hfree : BlankFree ('-' :: (n + 1).repr.toList) := by
        intro c hc
        rcases List.mem_cons.1 hc with rfl | hc
        · decide
        · exact (isWord_repr (n + 1)).blankFree c hc
      have htrim : trim (toString (Int.negSucc n)).toList = '-' :: (n + 1).repr.toList := by
        rw [htext, hfree.trim_eq]
      rw [literalValue?_of_negative htrim (magnitude_repr (n + 1)), if_pos (by omega),
        ← v.ofInt_toInt, hv]
      rfl

/-- The bits of every unsigned number are those of the value of its hexadecimal text. -/
theorem literalValue?_hexadecimal (w : UInt64) {x : Char} (hx : x = 'x' ∨ x = 'X') (k : Nat)
    (h : digits.map Char.toLower = Nat.toDigits 16 w.toNat) :
    literalValue? (String.ofList ('0' :: x :: (List.replicate k '0' ++ digits))) =
      some w.toInt64 := by
  have hmarker : (['0', x], 16) ∈ radixMarkers := by rcases hx with rfl | rfl <;> decide
  have hbase : 1 < 16 := by decide
  have hmagnitude := Magnitude.zeros hmarker (numeral_of_map_toLower hbase h) k
  have hblank : ∀ c ∈ '0' :: x :: (List.replicate k '0' ++ digits), isBlank c = false :=
    fun c hc => (hmagnitude.forall_mem c hc).2
  have hsigned := signedLiteral?_of_magnitude hmagnitude
  rw [if_pos w.toNat_lt] at hsigned
  rw [literalValue?_ofList hblank]
  refine hsigned.trans (congrArg some ?_)
  rw [Int64.ofInt_eq_ofNat]
  exact Int64.toBitVec_inj.1 (BitVec.ofNat_toNat ..)

/-- **The language of literals.**  A literal without the blanks around it is a magnitude of less
than 64 bits, with a minus sign or without.  Without one, its value is the signed number with the
same bits, and with one it is exact, so that there is none below the least signed number.  No other
text has a value.  Every signed number is the value of its decimal text, and the bits of every
unsigned number those of its hexadecimal text in whatever case and with any zeros in front; neither
blanks around a literal nor zeros in front of its digits change its value. -/
theorem literalValue?_of_spelling (s : String) :
    (∀ m < 2 ^ 64, Magnitude (trim s.toList) m →
      ∃ v, literalValue? s = some v ∧ v.toInt ≡ m [ZMOD 2 ^ 64]) ∧
    (∀ m < 2 ^ 64, ∀ cs, trim s.toList = '-' :: cs → Magnitude cs m →
      (m ≤ 2 ^ 63 → ∃ v, literalValue? s = some v ∧ v.toInt = -m) ∧
        (2 ^ 63 < m → literalValue? s = none)) ∧
    ((∀ m < 2 ^ 64, ¬Magnitude (trim s.toList) m ∧
      ∀ cs, trim s.toList = '-' :: cs → ¬Magnitude cs m) → literalValue? s = none) ∧
    (∀ before after, (∀ c ∈ before ++ after, isBlank c = true) →
      literalValue? (String.ofList (before ++ s.toList ++ after)) = literalValue? s) ∧
    (∀ sign ∈ literalSigns, ∀ marker ∈ radixMarkers, ∀ digits m k, Numeral marker.2 digits m →
      literalValue? (String.ofList (sign ++ (marker.1 ++ (List.replicate k '0' ++ digits)))) =
        literalValue? (String.ofList (sign ++ (marker.1 ++ digits)))) ∧
    (∀ v : Int64, literalValue? (toString v.toInt) = some v) ∧
    ∀ (w : UInt64) (x : Char) (k : Nat) (digits : List Char), x = 'x' ∨ x = 'X' →
      digits.map Char.toLower = Nat.toDigits 16 w.toNat →
      literalValue? (String.ofList ('0' :: x :: (List.replicate k '0' ++ digits))) =
        some w.toInt64 := by
  refine ⟨fun m hm h => ?_, fun m _ cs hs h => ?_, literalValue?_eq_none, fun before after h => ?_,
    fun sign hsign marker hmarker digits m k h => ?_, literalValue?_toString,
    fun w x k digits hx h => literalValue?_hexadecimal w hx k h⟩
  · exact ⟨_, literalValue?_of_unsigned h hm, toInt_ofInt_modEq m⟩
  · rw [literalValue?_of_negative hs h]
    constructor
    · intro hle
      rw [if_pos hle]
      exact ⟨_, rfl, Int64.toInt_ofInt_of_le (by omega) (by omega)⟩
    · intro hlt
      rw [if_neg (by omega)]
  · have hbefore : ∀ c ∈ before, isBlank c = true := fun c hc => h c (List.mem_append_left _ hc)
    have hafter : ∀ c ∈ after, isBlank c = true := fun c hc => h c (List.mem_append_right _ hc)
    exact literalValue?_blanks hbefore hafter s
  · exact literalValue?_congr hsign (.zeros hmarker h k) ⟨marker, hmarker, digits, rfl, h⟩

/-- The least signed number, in hexadecimal and between blanks. -/
theorem literalValue?_of_spelling_least :
    trim " -0x8000000000000000\n".toList = '-' :: "0x8000000000000000".toList ∧
      Magnitude "0x8000000000000000".toList (2 ^ 63) ∧
      ∃ v, literalValue? " -0x8000000000000000\n" = some v ∧ v.toInt = -2 ^ 63 := by
  have htrim : trim " -0x8000000000000000\n".toList = '-' :: "0x8000000000000000".toList := by
    decide
  have hmagnitude : Magnitude "0x8000000000000000".toList (2 ^ 63) :=
    magnitude?_eq_some_iff.1 (by decide)
  obtain ⟨-, hnegative, -⟩ := literalValue?_of_spelling " -0x8000000000000000\n"
  exact ⟨htrim, hmagnitude, (hnegative _ (by decide) _ htrim hmagnitude).1 (by decide)⟩

end DebugTypes
