import Mathlib.Algebra.Order.Field.Basic
import Mathlib.Algebra.Order.Field.Rat
import Mathlib.Tactic.FieldSimp
import Mathlib.Tactic.Linarith
import Mathlib.Tactic.Ring
import PayloadCheck.Value.Equality

/-!
# The order of numbers, and their equality across kinds

Numbers are compared by their exact sizes. Turning a comparison round turns its result round
(`compare?_swap`), two numbers are the same iff each is at most the other (`same_eq_le_and_le`), and
whole numbers compare as integers do. Equality of numbers of any kind, decimal ones included, is
equality of the rational numbers or infinities that they are (`Amount.same_iff`).
-/

namespace PayloadCheck

namespace Number

/-! ### Comparisons -/

theorem Extent.compare?_swap (x y : Extent) :
    y.compare? x = (x.compare? y).map Ordering.swap := by
  cases x with
  | undefined => cases y <;> rfl
  | infinite s =>
    cases y with
    | undefined => rfl
    | infinite t => cases s <;> cases t <;> rfl
    | ratio c d => cases s <;> rfl
  | ratio a b =>
    cases y with
    | undefined => rfl
    | infinite t => cases t <;> rfl
    | ratio c d =>
      simp only [compare?, Option.map_some, Option.some.injEq]
      exact Std.OrientedCmp.eq_swap

theorem compare?_swap (m n : Number) : n.compare? m = (m.compare? n).map Ordering.swap :=
  Extent.compare?_swap m.extent n.extent

theorem same_comm (m n : Number) : m.same n = n.same m := by
  rw [same, same, compare?_swap m n]
  rcases m.compare? n with _ | _ | _ | _ <;> rfl

theorem same_eq_le_and_le (m n : Number) : m.same n = (n.le m && m.le n) := by
  rw [same, le, le, compare?_swap m n]
  rcases m.compare? n with _ | _ | _ | _ <;> rfl

theorem compare?_whole (i k : Int) : (whole i).compare? (.whole k) = some (compare i k) := by
  simp only [compare?, extent, Extent.compare?, Nat.cast_one, mul_one]

theorem same_whole (i k : Int) : (whole i).same (.whole k) = decide (i = k) := by
  rw [same, compare?_whole]
  by_cases h : i = k
  · subst h
    simp
  · have hne : compare i k ≠ .eq := fun heq => h (compare_eq_iff_eq.mp heq)
    rw [decide_eq_false h]
    simpa using hne

theorem le_whole (i k : Int) : (whole i).le (.whole k) = decide (i ≤ k) := by
  rw [le, compare?_whole]
  by_cases h : i ≤ k
  · rw [decide_eq_true h]
    rcases h.lt_or_eq with hlt | rfl
    · rw [compare_lt_iff_lt.mpr hlt]
    · rw [compare_eq_iff_eq.mpr rfl]
  · rw [decide_eq_false h, compare_gt_iff_gt.mpr (not_le.mp h)]

/-! ### Sizes -/

/-- The denominator of a size is not zero. -/
def Extent.IsProper : Extent → Prop
  | .ratio _ den => den ≠ 0
  | _ => True

/-- The rational number that a size is, or the infinity by its sign. -/
def Extent.size? : Extent → Option (ℚ ⊕ Bool)
  | .ratio num den => some (.inl (num / den))
  | .infinite negative => some (.inr negative)
  | .undefined => none

theorem Extent.compare?_eq_iff {x y : Extent} (hx : x.IsProper) (hy : y.IsProper) :
    x.compare? y = some .eq ↔ ∃ q, x.size? = some q ∧ y.size? = some q := by
  cases x with
  | undefined => simp [compare?, size?]
  | infinite s =>
    cases y with
    | undefined => simp [compare?, size?]
    | infinite t => cases s <;> cases t <;> simp [compare?, size?]
    | ratio c d => cases s <;> simp [compare?, size?]
  | ratio a b =>
    cases y with
    | undefined => simp [compare?, size?]
    | infinite t => cases t <;> simp [compare?, size?]
    | ratio c d =>
      have hb : (b : ℚ) ≠ 0 := Nat.cast_ne_zero.mpr hx
      have hd : (d : ℚ) ≠ 0 := Nat.cast_ne_zero.mpr hy
      simp only [compare?, size?, Option.some.injEq, exists_eq_left', Sum.inl.injEq]
      rw [compare_eq_iff_eq, div_eq_div_iff hd hb, eq_comm]
      exact_mod_cast Iff.rfl

theorem twoPow_ne_zero (n : Nat) : twoPow n ≠ 0 := (Nat.two_pow_pos n).ne'

theorem isProper_extent (n : Number) : n.extent.IsProper := by
  cases n with
  | whole i => exact Nat.one_ne_zero
  | double d =>
    cases d with
    | nan => trivial
    | infinite s => trivial
    | finite s m e =>
      change (Double.scale m 1 e).2 ≠ 0
      unfold Double.scale
      split
      · exact Nat.one_ne_zero
      · rw [Nat.one_mul]
        exact twoPow_ne_zero _

theorem same_iff (m n : Number) :
    m.same n = true ↔ ∃ q, m.extent.size? = some q ∧ n.extent.size? = some q := by
  rw [same, beq_iff_eq]
  exact Extent.compare?_eq_iff m.isProper_extent n.isProper_extent

end Number

/-! ### Decimal numbers -/

namespace Decimal

/-- The rational number `± m · 10 ^ e`. -/
def quantity (negative : Bool) (m : Nat) (e : Int) : ℚ := (Double.signed negative m : ℚ) * 10 ^ e

theorem quantity_zero (negative : Bool) (e : Int) : quantity negative 0 e = 0 := by
  cases negative <;> simp [quantity, Double.signed]

theorem stripZeros_eq (m : Nat) : m = (stripZeros m).1 * 10 ^ (stripZeros m).2 := by
  induction m using stripZeros.induct with
  | case1 m h k n hstrip ih =>
    rw [stripZeros, dif_pos h, hstrip]
    simp only [hstrip] at ih ⊢
    rw [Nat.pow_succ, ← Nat.mul_assoc, ← ih]
    omega
  | case2 m h =>
    rw [stripZeros, dif_neg h]
    simp

theorem stripZeros_mod (m : Nat) (hm : m ≠ 0) : (stripZeros m).1 % 10 ≠ 0 := by
  induction m using stripZeros.induct with
  | case1 m h k n hstrip ih =>
    rw [stripZeros, dif_pos h, hstrip]
    simp only [hstrip] at ih ⊢
    exact ih (by omega)
  | case2 m h =>
    rw [stripZeros, dif_neg h]
    exact fun hzero => h ⟨hm, hzero⟩

theorem quantity_stripZeros (negative : Bool) (m : Nat) (e : Int) :
    quantity negative (stripZeros m).1 (e + (stripZeros m).2) = quantity negative m e := by
  have hten : (10 : ℚ) ≠ 0 := by norm_num
  have hshift : ((stripZeros m).1 : ℚ) * 10 ^ (e + ((stripZeros m).2 : Int)) = m * 10 ^ e := by
    conv_rhs => rw [stripZeros_eq m]
    push_cast
    rw [zpow_add₀ hten, zpow_natCast]
    ring
  cases negative with
  | false => simpa [quantity, Double.signed] using hshift
  | true => simpa [quantity, Double.signed] using hshift

/-- A coefficient that does not end in a zero is that of the greatest exponent. -/
theorem eq_of_mul_tenPow {m n : Nat} {e f : Int} (hm : m % 10 ≠ 0) (hle : e ≤ f)
    (h : (m : ℚ) * 10 ^ e = n * 10 ^ f) : m = n ∧ e = f := by
  obtain ⟨k, rfl⟩ := Int.le.dest hle
  have hten : (10 : ℚ) ≠ 0 := by norm_num
  rw [zpow_add₀ hten, zpow_natCast, mul_comm ((10 : ℚ) ^ e), ← mul_assoc] at h
  have hcancel : (m : ℚ) = n * 10 ^ k := mul_right_cancel₀ (zpow_ne_zero e hten) h
  have hnat : m = n * 10 ^ k := by exact_mod_cast hcancel
  cases k with
  | zero => exact ⟨by simpa using hnat, by simp⟩
  | succ k =>
    rw [Nat.pow_succ, ← Nat.mul_assoc] at hnat
    exact absurd (by omega) hm

theorem quantity_pos {m : Nat} (hm : m ≠ 0) (e : Int) : 0 < (m : ℚ) * 10 ^ e := by
  have hmpos : (0 : ℚ) < m := by exact_mod_cast Nat.pos_of_ne_zero hm
  exact mul_pos hmpos (zpow_pos (by norm_num) e)

/-- Without zeros at the end, sign, coefficient and exponent are determined by the number. -/
theorem eq_of_quantity {s t : Bool} {m n : Nat} {e f : Int} (hm : m % 10 ≠ 0) (hn : n % 10 ≠ 0)
    (h : quantity s m e = quantity t n f) : s = t ∧ m = n ∧ e = f := by
  have hmpos : 0 < (m : ℚ) * 10 ^ e := quantity_pos (by rintro rfl; exact hm rfl) e
  have hnpos : 0 < (n : ℚ) * 10 ^ f := quantity_pos (by rintro rfl; exact hn rfl) f
  have hsize : s = t ∧ (m : ℚ) * 10 ^ e = n * 10 ^ f := by
    cases s <;> cases t <;> simp [quantity, Double.signed] at h ⊢ <;>
      linarith only [h, hmpos, hnpos]
  obtain ⟨rfl, hsize⟩ := hsize
  refine ⟨rfl, ?_⟩
  rcases le_total e f with hle | hle
  · exact eq_of_mul_tenPow hm hle hsize
  · obtain ⟨hmn, hef⟩ := eq_of_mul_tenPow hn hle hsize.symm
    exact ⟨hmn.symm, hef.symm⟩

theorem normal_of_ne_zero (negative : Bool) {m : Nat} (hm : m ≠ 0) (e : Int) :
    normal negative m e = (negative, (stripZeros m).1, e + (stripZeros m).2) := by
  rw [normal, if_neg hm]

theorem quantity_eq_zero_iff {negative : Bool} {m : Nat} {e : Int} :
    quantity negative m e = 0 ↔ m = 0 := by
  have hpower : (10 : ℚ) ^ e ≠ 0 := zpow_ne_zero e (by norm_num)
  cases negative <;> simp [quantity, Double.signed, hpower]

/-- Two forms of decimal numbers are the same iff the numbers are. -/
theorem normal_eq_iff {s t : Bool} {m n : Nat} {e f : Int} :
    normal s m e = normal t n f ↔ quantity s m e = quantity t n f := by
  by_cases hm : m = 0
  · subst hm
    rw [quantity_zero, eq_comm (a := (0 : ℚ)), quantity_eq_zero_iff]
    by_cases hn : n = 0
    · subst hn
      simp [normal]
    · have hmod := stripZeros_mod n hn
      rw [normal_of_ne_zero t hn, normal, if_pos rfl]
      simp only [Prod.mk.injEq, hn, iff_false, not_and]
      intro _ hzero
      rw [← hzero] at hmod
      exact absurd rfl hmod
  · by_cases hn : n = 0
    · subst hn
      have hmod := stripZeros_mod m hm
      rw [quantity_zero, quantity_eq_zero_iff, normal_of_ne_zero s hm, normal, if_pos rfl]
      simp only [Prod.mk.injEq, hm, iff_false, not_and]
      intro _ hzero
      rw [hzero] at hmod
      exact absurd rfl hmod
    · rw [normal_of_ne_zero s hm, normal_of_ne_zero t hn, ← quantity_stripZeros s m e,
        ← quantity_stripZeros t n f]
      constructor
      · intro heq
        simp only [Prod.mk.injEq] at heq
        rw [heq.1, heq.2.1, heq.2.2]
      · intro hquantity
        obtain ⟨hs, hstrip, hexponent⟩ :=
          eq_of_quantity (stripZeros_mod m hm) (stripZeros_mod n hn) hquantity
        rw [hs, hstrip, hexponent]

end Decimal

namespace Number

/-- A power of two below the line is a power of five above that of ten. -/
theorem quantity_fives (negative : Bool) (m : Nat) {e : Int} (he : ¬ 0 ≤ e) :
    Decimal.quantity negative (m * Nat.pow 5 (-e).toNat) e =
      (Double.signed negative m : ℚ) / twoPow (-e).toNat := by
  obtain ⟨k, rfl⟩ : ∃ k : Nat, e = -k := ⟨(-e).toNat, by omega⟩
  have hten : (10 : ℚ) ^ k = 2 ^ k * 5 ^ k := by
    rw [← mul_pow]
    norm_num
  have hpower : (m : ℚ) * 5 ^ k * (10 : ℚ) ^ (-(k : Int)) = m / 2 ^ k := by
    rw [zpow_neg, zpow_natCast, hten]
    field_simp
  cases negative with
  | false => simpa [Decimal.quantity, Double.signed, twoPow] using hpower
  | true => simpa [Decimal.quantity, Double.signed, twoPow, neg_div] using hpower

/-- A finite number has the decimal form of its size; the others have none. -/
theorem normal?_cases (n : Number) :
    (n.normal? = none ∧ ∀ q, n.extent.size? ≠ some (.inl q)) ∨
      ∃ s m e, n.normal? = some (Decimal.normal s m e) ∧
        n.extent.size? = some (.inl (Decimal.quantity s m e)) := by
  cases n with
  | whole i =>
    right
    refine ⟨i < 0, i.natAbs, 0, rfl, ?_⟩
    by_cases hi : i < 0
    · have habs : ((i.natAbs : Int) : ℚ) = -i := by
        rw [Int.natCast_natAbs, abs_of_neg hi]
        push_cast
        rfl
      simp [extent, Extent.size?, Decimal.quantity, Double.signed, hi] at habs ⊢
      rw [abs_of_neg (by exact_mod_cast hi)]
      ring
    · have habs : |(i : ℚ)| = i := abs_of_nonneg (by exact_mod_cast not_lt.mp hi)
      simp [extent, Extent.size?, Decimal.quantity, Double.signed, hi, habs]
  | double d =>
    cases d with
    | nan => exact Or.inl ⟨rfl, by simp [extent, Extent.ofDouble, Extent.size?]⟩
    | infinite s => exact Or.inl ⟨rfl, by simp [extent, Extent.ofDouble, Extent.size?]⟩
    | finite s m e =>
      right
      by_cases he : 0 ≤ e
      · refine ⟨s, m * twoPow e.toNat, 0, by simp [normal?, he], ?_⟩
        simp [extent, Extent.ofDouble, Double.scale, he, Extent.size?, Decimal.quantity]
      · refine ⟨s, m * Nat.pow 5 (-e).toNat, e, by simp [normal?, he], ?_⟩
        rw [quantity_fives s m he]
        simp [extent, Extent.ofDouble, Double.scale, he, Extent.size?]

end Number

namespace Value.Amount

/-- The rational number that an amount is, or the infinity by its sign. -/
def size? : Amount → Option (ℚ ⊕ Bool)
  | number n => n.extent.size?
  | decimal (.finite s m e) => some (.inl (Decimal.quantity s m e))
  | decimal (.infinite s) => some (.inr s)
  | decimal (.undefined ..) => none

theorem sameDecimal_iff (d : Decimal) (n : Number) :
    Number.sameDecimal d n = true ↔
      ∃ q, (decimal d).size? = some q ∧ n.extent.size? = some q := by
  cases d with
  | finite s m e =>
    simp only [Number.sameDecimal, size?, Option.some.injEq, exists_eq_left', beq_iff_eq]
    rcases n.normal?_cases with ⟨hnone, hsize⟩ | ⟨t, k, f, hnormal, hsize⟩
    · simp [hnone, hsize]
    · rw [hnormal, hsize, Option.some.injEq, Option.some.injEq, Sum.inl.injEq]
      exact Decimal.normal_eq_iff
  | infinite s =>
    cases n with
    | whole i => simp [Number.sameDecimal, size?, Number.extent, Number.Extent.size?]
    | double x =>
      cases x with
      | infinite t =>
        simp only [Number.sameDecimal, size?, Number.extent, Number.Extent.ofDouble,
          Number.Extent.size?, beq_iff_eq, Option.some.injEq, exists_eq_left', Sum.inr.injEq]
        exact eq_comm
      | nan => simp [Number.sameDecimal, Number.extent, Number.Extent.ofDouble, Number.Extent.size?]
      | finite t m e =>
        simp [Number.sameDecimal, size?, Number.extent, Number.Extent.ofDouble, Number.Extent.size?]
  | undefined s q payload => cases n <;> simp [Number.sameDecimal, size?]

theorem sameDecimals_iff (c d : Decimal) :
    c.same d = true ↔ ∃ q, (decimal c).size? = some q ∧ (decimal d).size? = some q := by
  cases c with
  | finite s m e =>
    cases d with
    | finite t n f =>
      simp only [Decimal.same, size?, beq_iff_eq, Decimal.normal_eq_iff, Option.some.injEq,
        exists_eq_left', Sum.inl.injEq]
      exact eq_comm
    | infinite t => simp [Decimal.same, size?]
    | undefined t q payload => simp [Decimal.same, size?]
  | infinite s =>
    cases d with
    | finite t n f => simp [Decimal.same, size?]
    | infinite t =>
      simp only [Decimal.same, size?, beq_iff_eq, Option.some.injEq, exists_eq_left', Sum.inr.injEq]
      exact eq_comm
    | undefined t q payload => simp [Decimal.same, size?]
  | undefined s q payload => cases d <;> simp [Decimal.same, size?]

/-- Amounts are the same iff they are the same rational number or the same infinity. -/
theorem same_iff (x y : Amount) :
    x.same y = true ↔ ∃ q, x.size? = some q ∧ y.size? = some q := by
  cases x with
  | number m =>
    cases y with
    | number n => exact Number.same_iff m n
    | decimal d =>
      rw [show (number m).same (decimal d) = Number.sameDecimal d m from rfl, sameDecimal_iff]
      exact exists_congr fun q => and_comm
  | decimal c =>
    cases y with
    | number n => exact sameDecimal_iff c n
    | decimal d => exact sameDecimals_iff c d

theorem same_comm (x y : Amount) : x.same y = y.same x := by
  rw [Bool.eq_iff_iff, same_iff, same_iff]
  exact exists_congr fun q => and_comm

theorem same_trans {x y z : Amount} (hxy : x.same y = true) (hyz : y.same z = true) :
    x.same z = true := by
  obtain ⟨q, hx, hy⟩ := (same_iff x y).mp hxy
  obtain ⟨r, hy', hz⟩ := (same_iff y z).mp hyz
  rw [hy] at hy'
  cases hy'
  exact (same_iff x z).mpr ⟨q, hx, hz⟩

end Value.Amount

end PayloadCheck
