import DebugTypes.Element
import DebugTypes.Proofs.Text.Numeral

/-!
# Integer fields

A field that holds an integer has a decimal numeral between blanks, with a sign in front of it or
none.  The integer is taken as it is or refused: none out of the range of its type is read as
another one.

## Main definitions

* `Text.SignedNumeral signed cs k` — the text `cs` is a numeral behind a sign or none, and has the
  value `k`.
* `Text.padded k zeros` — the decimal text of `k` with zeros in front of its digits.
* `Text.FixedWidth.Values α value` — what the members of a type of fixed width stand for.
* `ReadsExactly α value least greatest` — what is read from fields that hold integers of a type.

## Main statements

* `Text.signedDigits?_eq_some_iff` — which texts name an integer, and which one.
* `Text.integer?_eq_some_iff` — which texts name a member of a type of fixed width.
* `readsExactly_fixedWidth` — fields of each type are read exactly.
-/

namespace DebugTypes

namespace Text

/-- The text is a numeral behind a sign or none, and has the value `k`.  Only types with negative
values have the sign `-`. -/
inductive SignedNumeral (signed : Bool) : List Char → Int → Prop where
  | unsigned {cs : List Char} {m : Nat} (h : Numeral 10 cs m) : SignedNumeral signed cs m
  | plus {cs : List Char} {m : Nat} (h : Numeral 10 cs m) : SignedNumeral signed ('+' :: cs) m
  | minus {cs : List Char} {m : Nat} (hsigned : signed = true) (h : Numeral 10 cs m) :
      SignedNumeral signed ('-' :: cs) (-m)

variable {signed : Bool} {cs : List Char} {c : Char} {k : Int} {m : Nat}

/-! ## Signs -/

theorem Numeral.isDigit (h : Numeral 10 cs m) : ∀ c ∈ cs, c.isDigit = true := by
  obtain ⟨-, ds, hds, -⟩ := h
  intro c hc
  induction hds with
  | nil => cases hc
  | @cons c' d _ _ hd _ ih =>
      rcases List.mem_cons.1 hc with rfl | hc
      · by_contra hdigit
        have hnone : digit? c = none := if_neg hdigit
        exact absurd (hnone.symm.trans (digit?_eq_some_iff.2 hd)) nofun
      · exact ih hc

/-- The integer that a text names is its value. -/
theorem signedDigits?_eq_some_iff :
    signedDigits? signed cs = some k ↔ SignedNumeral signed cs k := by
  constructor
  · intro h
    unfold signedDigits? at h
    split at h
    · obtain ⟨m, hm, rfl⟩ := Option.map_eq_some_iff.1 h
      exact .plus (digits?_eq_some_iff.1 hm)
    · split at h
      · rename_i hsigned
        obtain ⟨_, hm, rfl⟩ := Option.map_eq_some_iff.1 h
        obtain ⟨m, hdigits, hcast⟩ := Option.bind_eq_some_iff.1 hm
        obtain rfl := Option.some.inj hcast
        exact .minus hsigned (digits?_eq_some_iff.1 hdigits)
      · cases h
    · obtain ⟨m, hm, rfl⟩ := Option.map_eq_some_iff.1 h
      exact .unsigned (digits?_eq_some_iff.1 hm)
  · intro h
    cases h with
    | unsigned h =>
        rw [signedDigits?_of_isDigit h.isDigit, digits?_eq_some_iff.2 h]
        rfl
    | plus h =>
        rw [signedDigits?, digits?_eq_some_iff.2 h]
        rfl
    | minus hsigned h =>
        rw [signedDigits?, if_pos hsigned, digits?_eq_some_iff.2 h]
        rfl

namespace SignedNumeral

/-- A text has at most one value. -/
theorem unique {k' : Int} (h : SignedNumeral signed cs k) (h' : SignedNumeral signed cs k') :
    k = k' :=
  Option.some.inj ((signedDigits?_eq_some_iff.2 h).symm.trans (signedDigits?_eq_some_iff.2 h'))

theorem blankFree (h : SignedNumeral signed cs k) : BlankFree cs := by
  have hdigits : ∀ {cs m}, Numeral 10 cs m → BlankFree cs :=
    fun h c hc => isBlank_of_isDigit (h.isDigit c hc)
  cases h with
  | unsigned h => exact hdigits h
  | plus h => exact List.forall_mem_cons.2 ⟨by decide, hdigits h⟩
  | minus _ h => exact List.forall_mem_cons.2 ⟨by decide, hdigits h⟩

/-- Without negative values there is no minus sign, not even in front of zero. -/
theorem minus_notMem (h : SignedNumeral false cs k) : '-' ∉ cs := by
  have hdigits : ∀ {cs m}, Numeral 10 cs m → '-' ∉ cs :=
    fun h hc => absurd (h.isDigit _ hc) (by decide)
  cases h with
  | unsigned h => exact hdigits h
  | plus h => exact List.not_mem_cons_of_ne_of_not_mem (by decide) (hdigits h)
  | minus hsigned _ => cases hsigned

end SignedNumeral

/-! ## Blanks -/

theorem mem_trimStart (hc : c ∈ cs) (hblank : isBlank c = false) : c ∈ trimStart cs := by
  induction cs with
  | nil => cases hc
  | cons first cs ih =>
      by_cases hfirst : isBlank first = true
      · rw [trimStart_cons_of_blank hfirst]
        have hne : c ≠ first := by
          rintro rfl
          exact absurd hfirst (by simp [hblank])
        exact ih (List.mem_of_ne_of_mem hne hc)
      · rwa [trimStart_cons_of_not_blank (Bool.eq_false_of_not_eq_true hfirst)]

/-- Trimming takes away blanks only. -/
theorem mem_trim (hc : c ∈ cs) (hblank : isBlank c = false) : c ∈ trim cs :=
  List.mem_reverse.2 (mem_trimStart (List.mem_reverse.2 (mem_trimStart hc hblank)) hblank)

/-! ## Decimal texts -/

/-- The decimal text of an integer with zeros in front of its digits. -/
def padded (k : Int) (zeros : Nat) : List Char :=
  (if k < 0 then ['-'] else []) ++ (List.replicate zeros '0' ++ k.natAbs.repr.toList)

theorem signedNumeral_padded (hsigned : k < 0 → signed = true) (zeros : Nat) :
    SignedNumeral signed (padded k zeros) k := by
  have hdigits : Numeral 10 (List.replicate zeros '0' ++ k.natAbs.repr.toList) k.natAbs :=
    (digits?_eq_some_iff.1 (digits?_repr k.natAbs)).replicate_zero_append zeros
  by_cases hk : k < 0
  · have hvalue : -(k.natAbs : Int) = k := by omega
    have hnumeral := SignedNumeral.minus (hsigned hk) hdigits
    rw [hvalue] at hnumeral
    rwa [padded, if_pos hk]
  · have hvalue : (k.natAbs : Int) = k := by omega
    have hnumeral : SignedNumeral signed _ k.natAbs := .unsigned hdigits
    rw [hvalue] at hnumeral
    rwa [padded, if_neg hk]

/-! ## Members of types of fixed width -/

namespace FixedWidth

/-- The members of a type of fixed width stand for the integers in its range. -/
structure Values (α : Type) [FixedWidth α] (value : α → Int) : Prop where
  mem_range : ∀ n, least α ≤ value n ∧ value n ≤ greatest α
  value_ofInt : ∀ k, least α ≤ k → k ≤ greatest α → value (ofInt k) = k
  ofInt_value : ∀ n, ofInt (value n) = n

section

variable {α : Type} [FixedWidth α]

/-- A type without negative values stands for the natural numbers below its size. -/
theorem values_of_toNat {toNat : α → Nat} {ofNat : Nat → α} (size : Nat) (hleast : least α = 0)
    (hgreatest : greatest α = size - 1) (hofInt : ∀ k, (ofInt k : α) = ofNat k.toNat)
    (hlt : ∀ n, toNat n < size) (htoNat : ∀ m < size, toNat (ofNat m) = m)
    (hofNat : ∀ n, ofNat (toNat n) = n) : Values α fun n => toNat n where
  mem_range n := by
    have hlt := hlt n
    omega
  value_ofInt k hk hk' := by
    have hlt : k.toNat < size := by omega
    rw [hofInt, htoNat _ hlt]
    omega
  ofInt_value n := by rw [hofInt, Int.toNat_natCast, hofNat]

theorem values_uint8 : Values UInt8 fun n => n.toNat :=
  values_of_toNat UInt8.size rfl rfl (fun _ => rfl) UInt8.toNat_lt
    (fun _ h => UInt8.toNat_ofNat_of_lt' h) fun _ => UInt8.ofNat_toNat

theorem values_uint32 : Values UInt32 fun n => n.toNat :=
  values_of_toNat UInt32.size rfl rfl (fun _ => rfl) UInt32.toNat_lt
    (fun _ h => UInt32.toNat_ofNat_of_lt' h) fun _ => UInt32.ofNat_toNat

theorem values_uint64 : Values UInt64 fun n => n.toNat :=
  values_of_toNat UInt64.size rfl rfl (fun _ => rfl) UInt64.toNat_lt
    (fun _ h => UInt64.toNat_ofNat_of_lt' h) fun _ => UInt64.ofNat_toNat

theorem values_int64 : Values Int64 Int64.toInt where
  mem_range n := ⟨n.le_toInt, n.toInt_le⟩
  value_ofInt _ hk hk' := Int64.toInt_ofInt_of_le hk (Int.lt_add_one_of_le hk')
  ofInt_value n := n.ofInt_toInt

variable {value : α → Int} {n : α}

theorem Values.ofInt?_eq_some_iff (h : Values α value) : ofInt? α k = some n ↔ value n = k := by
  unfold ofInt?
  constructor
  · intro hn
    split at hn
    · rename_i hrange
      rw [← Option.some.inj hn, h.value_ofInt k hrange.1 hrange.2]
    · cases hn
  · rintro rfl
    rw [if_pos (h.mem_range n), h.ofInt_value]

end

end FixedWidth

open FixedWidth

section

variable {α : Type} [FixedWidth α] {value : α → Int} {n : α} {s : String}

/-- A text names the member of the type that stands for its value. -/
theorem integer?_eq_some_iff (h : Values α value) :
    integer? α s = some n ↔ SignedNumeral (least α < 0) (trim s.toList) (value n) := by
  simp only [integer?, Option.bind_eq_some_iff, signedDigits?_eq_some_iff, h.ofInt?_eq_some_iff]
  constructor
  · rintro ⟨k, hk, rfl⟩
    exact hk
  · exact fun hk => ⟨_, hk, rfl⟩

/-- A text that names no member of the type has no value in its range. -/
theorem integer?_eq_none_iff (h : Values α value) :
    integer? α s = none ↔
      ∀ k, SignedNumeral (least α < 0) (trim s.toList) k → k < least α ∨ greatest α < k := by
  rw [Option.eq_none_iff_forall_ne_some]
  simp only [ne_eq, integer?_eq_some_iff h]
  constructor
  · intro hnone k hk
    by_contra hrange
    refine hnone (ofInt k) ?_
    rwa [h.value_ofInt k (by omega) (by omega)]
  · intro hrange n hn
    have hmem := h.mem_range n
    have hout := hrange _ hn
    omega

end

end Text

open Text

/-- What is read from fields that hold integers of the type `α`, whose members stand for the
integers from `least` to `greatest`. -/
structure ReadsExactly (α : Type) [FixedWidth α] (value : α → Int) (least greatest : Int) :
    Prop where
  /-- The members of the type stand for the integers in its range. -/
  range : ∀ k, (∃ n, value n = k) ↔ least ≤ k ∧ k ≤ greatest
  /-- A text is read as `n` if, without the blanks around it, it has the value of `n`. -/
  ok_iff : ∀ field s n, readInteger α field s = .ok n ↔
    SignedNumeral (least < 0) (trim s.toList) (value n)
  /-- Any other text is refused, and the error has the text as it stands in the field. -/
  error_iff : ∀ field s e, readInteger α field s = .error e ↔
    e = .invalidNumber field s ∧
      ∀ k, SignedNumeral (least < 0) (trim s.toList) k → k < least ∨ greatest < k
  /-- A value out of range is not read as another one. -/
  outOfRange : ∀ field s k, SignedNumeral (least < 0) (trim s.toList) k →
    k < least ∨ greatest < k → readInteger α field s = .error (.invalidNumber field s)
  /-- Without negative values, a minus sign is refused wherever it stands. -/
  minus : 0 ≤ least → ∀ field s, '-' ∈ s.toList →
    readInteger α field s = .error (.invalidNumber field s)
  /-- The decimal text of every member is read as the member, whatever zeros are in front of its
  digits and blanks around it. -/
  decimal : ∀ field n before after zeros, (∀ c ∈ before ++ after, isBlank c = true) →
    readInteger α field (String.ofList (before ++ padded (value n) zeros ++ after)) = .ok n
  /-- An attribute is a field of its name. -/
  ofAttribute : ∀ (e : Element) field s, e.attribute? field = some s →
    e.integer α field = readInteger α field s

section

variable {α : Type} [FixedWidth α] {value : α → Int}

theorem readInteger_eq_ok_iff {field s : String} {n : α} :
    readInteger α field s = .ok n ↔ integer? α s = some n := by
  unfold readInteger
  cases integer? α s <;> simp

theorem readInteger_eq_error_iff {field s : String} {e : ReadError} :
    readInteger α field s = .error e ↔ e = .invalidNumber field s ∧ integer? α s = none := by
  unfold readInteger
  cases integer? α s <;> simp [eq_comm]

/-- The integer in an attribute that is present is that of the field. -/
theorem Element.integer_of_attribute? {e : Element} {field s : String}
    (h : e.attribute? field = some s) : e.integer α field = readInteger α field s := by
  rw [integer, required, h]
  rfl

theorem readsExactly_of_values (h : FixedWidth.Values α value) {least greatest : Int}
    (hleast : FixedWidth.least α = least) (hgreatest : FixedWidth.greatest α = greatest) :
    ReadsExactly α value least greatest := by
  subst hleast hgreatest
  have hrefused : ∀ {field s}, integer? α s = none →
      readInteger α field s = .error (.invalidNumber field s) :=
    fun hnone => readInteger_eq_error_iff.2 ⟨rfl, hnone⟩
  constructor
  case range =>
    intro k
    constructor
    · rintro ⟨n, rfl⟩
      exact h.mem_range n
    · exact fun hk => ⟨_, h.value_ofInt k hk.1 hk.2⟩
  case ok_iff => exact fun field s n => readInteger_eq_ok_iff.trans (integer?_eq_some_iff h)
  case error_iff =>
    intro field s e
    rw [readInteger_eq_error_iff, integer?_eq_none_iff h]
  case outOfRange =>
    intro field s k hk hrange
    refine hrefused ((integer?_eq_none_iff h).2 fun k' hk' => ?_)
    rwa [hk'.unique hk]
  case minus =>
    intro hleast field s hminus
    have hsigned : decide (FixedWidth.least α < 0) = false := decide_eq_false (by omega)
    refine hrefused ((integer?_eq_none_iff h).2 fun k hk => ?_)
    rw [hsigned] at hk
    exact absurd (mem_trim hminus (by decide)) hk.minus_notMem
  case decimal =>
    intro field n before after zeros hblank
    have hnumeral : SignedNumeral (FixedWidth.least α < 0) (padded (value n) zeros) (value n) := by
      refine signedNumeral_padded (fun hn => decide_eq_true ?_) zeros
      exact Int.lt_of_le_of_lt (h.mem_range n).1 hn
    have hbefore : ∀ c ∈ before, isBlank c = true :=
      fun c hc => hblank c (List.mem_append_left _ hc)
    have hafter : ∀ c ∈ after, isBlank c = true :=
      fun c hc => hblank c (List.mem_append_right _ hc)
    rw [readInteger_eq_ok_iff, integer?_eq_some_iff h, String.toList_ofList,
      trim_append_append hbefore hafter, hnumeral.blankFree.trim_eq]
    exact hnumeral
  case ofAttribute => exact fun e field s hs => Element.integer_of_attribute? hs

end

/-- **Integer fields are read exactly** in each type of fixed width.  A text is read if, without
the blanks around it, it is a decimal numeral behind a plus sign or none, or behind a minus sign
where the type has negative values, and if its value is in the range of the type; what is read then
stands for this value.  Every other text is refused, and with it every value out of range.  The
decimal text of every member of the type leads back to the member. -/
theorem readsExactly_fixedWidth :
    ReadsExactly UInt8 (fun n => n.toNat) 0 (2 ^ 8 - 1) ∧
      ReadsExactly UInt32 (fun n => n.toNat) 0 (2 ^ 32 - 1) ∧
      ReadsExactly UInt64 (fun n => n.toNat) 0 (2 ^ 64 - 1) ∧
      ReadsExactly Int64 Int64.toInt (-2 ^ 63) (2 ^ 63 - 1) :=
  ⟨readsExactly_of_values FixedWidth.values_uint8 rfl (by decide),
    readsExactly_of_values FixedWidth.values_uint32 rfl (by decide),
    readsExactly_of_values FixedWidth.values_uint64 rfl (by decide),
    readsExactly_of_values FixedWidth.values_int64 (by decide) (by decide)⟩

-- The least id that is out of range, and the greatest one that is not.
example : readInteger UInt32 "id" "4294967296" = .error (.invalidNumber "id" "4294967296") := by rfl
example : readInteger UInt32 "id" "\u00a0+0004294967295\n" = .ok 4294967295 := by rfl

end DebugTypes
