import Mathlib.Algebra.Order.Floor.Ring
import Mathlib.Data.Int.Log
import Mathlib.Data.Rat.Floor
import Mathlib.Tactic.Linarith
import Mathlib.Tactic.Positivity

/-!
# Rounding to `float64`

`float64 q` is the `float64` nearest to a rational: 53 significant bits, a tie to the even mantissa. Exponents are
not bounded; what is rounded here lies between `10^-9` and `2^53`.

* `float64_between`: rounding does not leave an interval of whole numbers.
* `float64_natCast`, `float64_natCast_mul_two_pow`: a whole number of 53 bits is itself.
-/
namespace PerGo.L1

/-- The nearest whole number, a tie to the even one. -/
def roundEven (q : ℚ) : ℤ :=
  if q - ⌊q⌋ < 1 / 2 then ⌊q⌋
  else if 1 / 2 < q - ⌊q⌋ then ⌊q⌋ + 1
  else if ⌊q⌋ % 2 = 0 then ⌊q⌋
  else ⌊q⌋ + 1

/-- The distance between neighbouring `float64`s around a positive rational. -/
def ulp (q : ℚ) : ℚ := 2 ^ (Int.log 2 q - 52)

/-- The nearest `float64` of a rational that is not negative. -/
def float64 (q : ℚ) : ℚ := if q = 0 then 0 else roundEven (q / ulp q) * ulp q

theorem roundEven_mem (q : ℚ) : roundEven q = ⌊q⌋ ∨ (roundEven q = ⌊q⌋ + 1 ∧ (⌊q⌋ : ℚ) < q) := by
  unfold roundEven
  have hlt : ¬ q - ⌊q⌋ < 1 / 2 → (⌊q⌋ : ℚ) < q := by
    intro h
    linarith
  split
  · exact .inl rfl
  · rename_i h
    split
    · exact .inr ⟨rfl, hlt h⟩
    · split
      · exact .inl rfl
      · exact .inr ⟨rfl, hlt h⟩

theorem le_roundEven {a : ℤ} {q : ℚ} (h : (a : ℚ) ≤ q) : a ≤ roundEven q := by
  have hfloor : a ≤ ⌊q⌋ := Int.le_floor.mpr h
  rcases roundEven_mem q with he | ⟨he, -⟩
  · omega
  · omega

theorem roundEven_le {b : ℤ} {q : ℚ} (h : q ≤ b) : roundEven q ≤ b := by
  have hfloor : (⌊q⌋ : ℚ) ≤ q := Int.floor_le q
  rcases roundEven_mem q with he | ⟨he, hlt⟩
  · have : (⌊q⌋ : ℚ) ≤ b := hfloor.trans h
    rw [he]
    exact_mod_cast this
  · have : (⌊q⌋ : ℚ) < b := hlt.trans_le h
    have hb : ⌊q⌋ < b := by exact_mod_cast this
    omega

/-- A whole number is a multiple of the distance, below `2^53`. -/
theorem exists_ulp_inv {q : ℚ} (hpos : 0 < q) (hlt : q < 2 ^ 53) : ∃ e : ℕ, ulp q = ((2 : ℚ) ^ e)⁻¹ := by
  have hlog : Int.log 2 q < 53 := by
    have hle : ((2 : ℕ) : ℚ) ^ Int.log 2 q ≤ q := Int.zpow_log_le_self (by decide) hpos
    have h : ((2 : ℕ) : ℚ) ^ Int.log 2 q < ((2 : ℕ) : ℚ) ^ (53 : ℤ) := by
      refine hle.trans_lt (hlt.trans_eq ?_)
      norm_num
    exact (zpow_lt_zpow_iff_right₀ (by norm_num)).mp h
  refine ⟨(52 - Int.log 2 q).toNat, ?_⟩
  unfold ulp
  rw [← zpow_natCast, ← zpow_neg]
  congr 1
  omega

/-- Rounding keeps an order against whole numbers. -/
theorem float64_between {a b : ℤ} {q : ℚ} (hq : 0 ≤ q) (hlt : q < 2 ^ 53) (ha : (a : ℚ) ≤ q) (hb : q ≤ b) :
    (a : ℚ) ≤ float64 q ∧ float64 q ≤ b := by
  unfold float64
  split
  · rename_i h0
    rw [h0] at ha hb
    exact ⟨ha, hb⟩
  · rename_i h0
    obtain ⟨e, he⟩ := exists_ulp_inv (lt_of_le_of_ne hq (Ne.symm h0)) hlt
    have hpow : (0 : ℚ) < 2 ^ e := by positivity
    have hdiv : q / ulp q = q * 2 ^ e := by rw [he, div_inv_eq_mul]
    have hlow : a * 2 ^ e ≤ roundEven (q / ulp q) := by
      apply le_roundEven
      rw [hdiv]
      push_cast
      exact mul_le_mul_of_nonneg_right ha hpow.le
    have hhigh : roundEven (q / ulp q) ≤ b * 2 ^ e := by
      apply roundEven_le
      rw [hdiv]
      push_cast
      exact mul_le_mul_of_nonneg_right hb hpow.le
    have hlowQ : (a : ℚ) * 2 ^ e ≤ roundEven (q / ulp q) := by exact_mod_cast hlow
    have hhighQ : (roundEven (q / ulp q) : ℚ) ≤ b * 2 ^ e := by exact_mod_cast hhigh
    rw [he] at hlowQ hhighQ ⊢
    exact ⟨(le_mul_inv_iff₀ hpow).mpr hlowQ, (mul_inv_le_iff₀ hpow).mpr hhighQ⟩

theorem float64_natCast {n : ℕ} (h : n < 2 ^ 53) : float64 n = n := by
  have hq : (n : ℚ) < 2 ^ 53 := by exact_mod_cast h
  obtain ⟨hle, hge⟩ := float64_between (a := n) (b := n) (Nat.cast_nonneg n) hq (by simp) (by simp)
  exact le_antisymm (by exact_mod_cast hge) (by exact_mod_cast hle)

theorem float64_mul_two_pow {q : ℚ} (hq : 0 < q) (k : ℕ) : float64 (q * 2 ^ k) = float64 q * 2 ^ k := by
  have hscaled : 0 < q * 2 ^ k := by positivity
  have hlog : Int.log 2 (q * 2 ^ k) = Int.log 2 q + k := by
    refine eq_of_forall_le_iff fun z => ?_
    have hsplit : ((2 : ℕ) : ℚ) ^ z = ((2 : ℕ) : ℚ) ^ (z - k) * 2 ^ k := by
      rw [Nat.cast_ofNat, ← zpow_natCast, ← zpow_add₀ two_ne_zero, sub_add_cancel]
    rw [← Int.zpow_le_iff_le_log (by decide) hscaled, hsplit, mul_le_mul_iff_left₀ (by positivity),
      Int.zpow_le_iff_le_log (by decide) hq]
    omega
  have hulp : ulp (q * 2 ^ k) = ulp q * 2 ^ k := by
    unfold ulp
    rw [hlog, ← zpow_natCast, ← zpow_add₀ two_ne_zero]
    congr 1
    omega
  unfold float64
  rw [if_neg hscaled.ne', if_neg hq.ne', hulp, mul_div_mul_right _ _ (by positivity), mul_assoc]

/-- A whole number of 53 bits is itself, in front of any number of zeros. -/
theorem float64_natCast_mul_two_pow {n : ℕ} (h : n < 2 ^ 53) (k : ℕ) : float64 (n * 2 ^ k) = n * 2 ^ k := by
  rcases Nat.eq_zero_or_pos n with rfl | hpos
  · simp [float64]
  · rw [float64_mul_two_pow (by exact_mod_cast hpos), float64_natCast h]

end PerGo.L1
