import Mathlib.Algebra.Order.Field.Power
import Mathlib.Tactic.Linarith
import Mathlib.Tactic.FieldSimp
import Mathlib.Tactic.Ring
import InfrastructureManager.Time.Calendar

/-!
# Minutes as `float64`

`Duration.Minutes()` of Go's `time` package is `float64(min) + float64(nsec)/(60e9)`, and line
272 of `gardener_cluster_controller.go` compares two such values, one scaled by `0.95`. Every
`float64` operation rounds its exact result to 53 significant bits, ties to even; a `float64` is
here the rational it denotes, computed with integers so that it evaluates.
`abs_roundRatio_sub_le` bounds one rounding by half a unit in the last place, and
`abs_minutes_sub_le` bounds the whole of `Minutes()`.
-/

namespace InfrastructureManager

/-! ### Rounding to 53 bits -/

/-- `⌊log₂ n⌋ + acc`, halving `n` at most `fuel` times. -/
def log2Acc : Nat → Nat → Nat → Nat
  | 0, _, acc => acc
  | fuel + 1, n, acc => if 2 ≤ n then log2Acc fuel (n / 2) (acc + 1) else acc

/-- Whether `a * 2 ^ t ≤ b`, for an integer exponent `t`. -/
def leMulTwoPow (a b : Nat) (t : Int) : Bool :=
  if 0 ≤ t then a * 2 ^ t.toNat ≤ b else a ≤ b * 2 ^ (-t).toNat

/-- The binary exponent of `a / b` for positive `a` and `b`: the `e` with
`2 ^ e ≤ a / b < 2 ^ (e + 1)`. -/
def ratioExponent (a b : Nat) : Int :=
  let e : Int := (log2Acc a a 0 : Int) - log2Acc b b 0
  if leMulTwoPow b a e then e else e - 1

/-- The integer nearest to `n / d`, ties to even, for `0 < d`. -/
def divRoundEven (n : Int) (d : Nat) : Int :=
  if 2 * (n % d) < d then n / d
  else if d < 2 * (n % d) then n / d + 1
  else if n / d % 2 = 0 then n / d else n / d + 1

/-- `n / d` rounded to `float64`: the nearest multiple of `2 ^ (e - 52)`, ties to even, where
`e` is the binary exponent of `n / d`. The exponent range is not bounded: every value rounded
here is zero or between `2⁻³⁶` and `2³⁶` in magnitude, far from the subnormal and overflowing
values of `float64`. -/
def roundRatio (n : Int) (d : Nat) : ℚ :=
  if n = 0 ∨ d = 0 then 0
  else
    let k := ratioExponent n.natAbs d - 52
    if 0 ≤ k then ((divRoundEven n (d * 2 ^ k.toNat) * 2 ^ k.toNat : Int) : ℚ)
    else mkRat (divRoundEven (n * 2 ^ (-k).toNat) d) (2 ^ (-k).toNat)

/-- `float64(n)` for an integer `n`. -/
def float64OfInt (n : Int) : ℚ := roundRatio n 1

/-- `float64` addition: the exact sum, rounded. -/
def addFloat64 (a b : ℚ) : ℚ := roundRatio (a.num * b.den + b.num * a.den) (a.den * b.den)

/-- `float64` multiplication: the exact product, rounded. -/
def mulFloat64 (a b : ℚ) : ℚ := roundRatio (a.num * b.num) (a.den * b.den)

/-- `float64` division by a positive integral constant: the exact quotient, rounded. -/
def divFloat64 (a : ℚ) (b : Nat) : ℚ := roundRatio a.num (a.den * b)

/-- `Duration.Minutes()`: `float64(min) + float64(nsec)/(60e9)`, where `min` and `nsec` are the
quotient and the remainder by `time.Minute`, both truncated toward zero. -/
def Duration.minutes (d : Duration) : ℚ :=
  addFloat64 (float64OfInt (d.nanoseconds.tdiv 60000000000))
    (divFloat64 (float64OfInt (d.nanoseconds.tmod 60000000000)) 60000000000)

/-- Go prints `time.Duration(69350000000).Minutes()` as `1.1558333333333333`. -/
example : Duration.minutes ⟨69350000000, by decide⟩ =
    mkRat 2602705284651199 2251799813685248 := by
  decide

/-! ### The exponent -/

theorem log2Acc_eq {fuel n : Nat} (h : n < 2 ^ fuel) (acc : Nat) :
    log2Acc fuel n acc = n.log2 + acc := by
  induction fuel generalizing n acc with
  | zero =>
    obtain rfl : n = 0 := by simpa using h
    simp [log2Acc]
  | succ fuel ih =>
    have hp := Nat.pow_succ 2 fuel
    by_cases h2 : 2 ≤ n
    · have hn : n.log2 = (n / 2).log2 + 1 := by conv_lhs => rw [Nat.log2]; exact if_pos h2
      rw [log2Acc, if_pos h2, ih (by omega), hn]
      omega
    · have hn : n.log2 = 0 := by conv_lhs => rw [Nat.log2]; exact if_neg h2
      rw [log2Acc, if_neg h2, hn]
      omega

theorem log2Acc_self (n : Nat) : log2Acc n n 0 = n.log2 :=
  log2Acc_eq (Nat.lt_two_pow n) 0

theorem leMulTwoPow_iff (a b : Nat) (t : Int) :
    leMulTwoPow a b t = true ↔ (a : ℚ) * 2 ^ t ≤ b := by
  unfold leMulTwoPow
  split_ifs with ht
  · rw [← Int.toNat_of_nonneg ht, zpow_natCast, decide_eq_true_iff, ← Nat.cast_le (α := ℚ)]
    push_cast
    rfl
  · obtain ⟨j, rfl⟩ : ∃ j : Nat, t = -(j : Int) := ⟨(-t).toNat, by omega⟩
    rw [zpow_neg, zpow_natCast, decide_eq_true_iff, ← Nat.cast_le (α := ℚ), ← div_eq_mul_inv,
      div_le_iff₀ (by positivity), neg_neg, Int.toNat_natCast]
    push_cast
    rfl

/-- The exponent of `a / b` is at most its binary logarithm. -/
theorem two_zpow_ratioExponent_le {a b : Nat} (ha : 0 < a) (hb : 0 < b) :
    (2 : ℚ) ^ ratioExponent a b ≤ a / b := by
  unfold ratioExponent
  simp only [log2Acc_self]
  split_ifs with h
  · rw [le_div_iff₀ (by exact_mod_cast hb), mul_comm]
    exact (leMulTwoPow_iff _ _ _).mp h
  · have hla : ((2 ^ a.log2 : Nat) : ℚ) ≤ a := by exact_mod_cast Nat.log2_self_le ha.ne'
    have hlb : (b : ℚ) ≤ ((2 ^ (b.log2 + 1) : Nat) : ℚ) := by exact_mod_cast Nat.lt_log2_self.le
    calc (2 : ℚ) ^ ((a.log2 : Int) - b.log2 - 1)
        = ((2 ^ a.log2 : Nat) : ℚ) / ((2 ^ (b.log2 + 1) : Nat) : ℚ) := by
          rw [show ((a.log2 : Int) - b.log2 - 1) = a.log2 - ((b.log2 + 1 : Nat) : Int) by omega,
            zpow_sub₀ two_ne_zero, zpow_natCast, zpow_natCast]
          push_cast
          rfl
      _ ≤ a / b := div_le_div₀ (Nat.cast_nonneg _) hla (by exact_mod_cast hb) hlb

/-! ### One rounding -/

/-- The integer `divRoundEven` picks is within half of `n / d`. -/
theorem abs_divRoundEven_sub_le (n : Int) {d : Nat} (hd : 0 < d) :
    |(divRoundEven n d : ℚ) - n / d| ≤ 1 / 2 := by
  have hq := Int.ediv_add_emod n d
  have h₀ := Int.emod_nonneg n (by omega : (d : Int) ≠ 0)
  have h₁ := Int.emod_lt_of_pos n (by omega : (0 : Int) < d)
  have key : -(d : Int) ≤ 2 * (divRoundEven n d * d - n) ∧ 2 * (divRoundEven n d * d - n) ≤ d := by
    unfold divRoundEven
    split_ifs <;> constructor <;> linarith
  have hd' : (0 : ℚ) < d := by exact_mod_cast hd
  have c₁ := (Int.cast_le (R := ℚ)).mpr key.1
  have c₂ := (Int.cast_le (R := ℚ)).mpr key.2
  push_cast at c₁ c₂
  rw [show (divRoundEven n d : ℚ) - n / d = (divRoundEven n d * d - n) / d by field_simp, abs_le,
    le_div_iff₀ hd', div_le_iff₀ hd']
  constructor <;> linarith

/-- `roundRatio` picks a multiple `q * 2 ^ k` of its unit in the last place, `k = e - 52`, with
`q` within half of `n / d / 2 ^ k`. -/
theorem roundRatio_eq_mul (n : Int) {d : Nat} (hn : n ≠ 0) (hd : 0 < d) :
    ∃ q : Int, roundRatio n d = q * 2 ^ (ratioExponent n.natAbs d - 52) ∧
      |(q : ℚ) - n / d / 2 ^ (ratioExponent n.natAbs d - 52)| ≤ 1 / 2 := by
  simp only [roundRatio, hn, hd.ne', or_self, if_false]
  generalize ratioExponent n.natAbs d - 52 = k
  split_ifs with hk
  · obtain ⟨j, rfl⟩ := Int.eq_ofNat_of_zero_le hk
    simp only [Int.toNat_natCast, zpow_natCast]
    refine ⟨divRoundEven n (d * 2 ^ j), by push_cast; rfl, ?_⟩
    have h := abs_divRoundEven_sub_le n (d := d * 2 ^ j) (by positivity)
    rwa [Nat.cast_mul, Nat.cast_pow, Nat.cast_ofNat, ← div_div] at h
  · obtain ⟨j, rfl⟩ : ∃ j : Nat, k = -(j : Int) := ⟨(-k).toNat, by omega⟩
    simp only [neg_neg, Int.toNat_natCast, zpow_neg, zpow_natCast]
    refine ⟨divRoundEven (n * 2 ^ j) d, by rw [Rat.mkRat_eq_div]; push_cast; rfl, ?_⟩
    have h := abs_divRoundEven_sub_le (n * 2 ^ j) hd
    rwa [Int.cast_mul, Int.cast_pow, Int.cast_ofNat, mul_div_right_comm, ← div_inv_eq_mul] at h

/-- One rounding to `float64` moves `n / d` by at most half a unit in the last place: a
`2⁻⁵³` part of its magnitude. -/
theorem abs_roundRatio_sub_le (n : Int) {d : Nat} (hd : 0 < d) :
    |roundRatio n d - n / d| ≤ |(n : ℚ) / d| / 2 ^ 53 := by
  rcases eq_or_ne n 0 with rfl | hn
  · simp [roundRatio]
  obtain ⟨q, hq, hle⟩ := roundRatio_eq_mul n hn hd
  have hE := two_zpow_ratioExponent_le (Int.natAbs_pos.mpr hn) hd
  rw [Nat.cast_natAbs, Int.cast_abs, ← abs_of_pos (a := (d : ℚ)) (by exact_mod_cast hd),
    ← abs_div] at hE
  have hk : (0 : ℚ) < 2 ^ (ratioExponent n.natAbs d - 52) := zpow_pos two_pos _
  calc |roundRatio n d - n / d|
      = |(q : ℚ) - n / d / 2 ^ (ratioExponent n.natAbs d - 52)| *
          2 ^ (ratioExponent n.natAbs d - 52) := by
        rw [hq, ← abs_of_pos hk, ← abs_mul, abs_of_pos hk, sub_mul, div_mul_cancel₀ _ hk.ne']
    _ ≤ 1 / 2 * 2 ^ (ratioExponent n.natAbs d - 52) := mul_le_mul_of_nonneg_right hle hk.le
    _ = 2 ^ ratioExponent n.natAbs d / 2 ^ 53 := by
        rw [zpow_sub₀ two_ne_zero]
        norm_num
        ring
    _ ≤ |(n : ℚ) / d| / 2 ^ 53 := div_le_div_of_nonneg_right hE (by norm_num)

/-- `float64(n)` is exact for an integer below `2 ^ 53` in magnitude. -/
theorem float64OfInt_eq {n : Int} (h : |n| < 2 ^ 53) : float64OfInt n = n := by
  rcases eq_or_ne n 0 with rfl | hn
  · simp [float64OfInt, roundRatio]
  obtain ⟨q, hq, hle⟩ := roundRatio_eq_mul n hn one_pos
  have hE := two_zpow_ratioExponent_le (Int.natAbs_pos.mpr hn) one_pos
  have h53 : (2 : ℚ) ^ ratioExponent n.natAbs 1 < 2 ^ (53 : Int) := by
    rw [Nat.cast_one, div_one, Nat.cast_natAbs] at hE
    exact hE.trans_lt (by exact_mod_cast h)
  obtain ⟨j, hj⟩ : ∃ j : Nat, ratioExponent n.natAbs 1 - 52 = -(j : Int) :=
    ⟨(52 - ratioExponent n.natAbs 1).toNat, by
      have := (zpow_lt_zpow_iff_right₀ one_lt_two).mp h53; omega⟩
  rw [hj, Nat.cast_one, div_one, zpow_neg, zpow_natCast, div_inv_eq_mul] at hle
  have hq' : q = n * 2 ^ j := by
    have : |((q - n * 2 ^ j : Int) : ℚ)| ≤ 1 / 2 := by push_cast; exact hle
    have : |q - n * 2 ^ j| < 1 := by
      rw [← Int.cast_lt (R := ℚ), Int.cast_abs]; push_cast; linarith
    rw [abs_lt] at this
    omega
  rw [float64OfInt, hq, hj, hq', zpow_neg, zpow_natCast]
  push_cast
  field_simp

/-! ### The operations -/

theorem abs_addFloat64_sub_le (a b : ℚ) : |addFloat64 a b - (a + b)| ≤ |a + b| / 2 ^ 53 := by
  have e : ((a.num * b.den + b.num * a.den : Int) : ℚ) / ((a.den * b.den : Nat) : ℚ) = a + b := by
    conv_rhs => rw [← Rat.num_div_den a, ← Rat.num_div_den b]
    push_cast
    field_simp
  simpa only [e] using abs_roundRatio_sub_le (a.num * b.den + b.num * a.den)
    (d := a.den * b.den) (Nat.mul_pos a.den_pos b.den_pos)

theorem abs_mulFloat64_sub_le (a b : ℚ) : |mulFloat64 a b - a * b| ≤ |a * b| / 2 ^ 53 := by
  have e : ((a.num * b.num : Int) : ℚ) / ((a.den * b.den : Nat) : ℚ) = a * b := by
    conv_rhs => rw [← Rat.num_div_den a, ← Rat.num_div_den b]
    push_cast
    field_simp
  simpa only [e] using abs_roundRatio_sub_le (a.num * b.num) (d := a.den * b.den)
    (Nat.mul_pos a.den_pos b.den_pos)

theorem abs_divFloat64_sub_le (a : ℚ) {b : Nat} (hb : 0 < b) :
    |divFloat64 a b - a / b| ≤ |a / b| / 2 ^ 53 := by
  have e : (a.num : ℚ) / ((a.den * b : Nat) : ℚ) = a / b := by
    conv_rhs => rw [← Rat.num_div_den a]
    push_cast
    rw [div_div]
  simpa only [e] using abs_roundRatio_sub_le a.num (d := a.den * b) (Nat.mul_pos a.den_pos hb)

/-- The remainder by a minute lies within a minute of zero, with the sign of the dividend. -/
private theorem tmod_minute_bounds (a : Int) :
    -60000000000 < a.tmod 60000000000 ∧ a.tmod 60000000000 < 60000000000 ∧
      (0 ≤ a → 0 ≤ a.tmod 60000000000) ∧ (a ≤ 0 → a.tmod 60000000000 ≤ 0) := by
  rcases a with m | m
  · show -60000000000 < Int.tmod (Int.ofNat m) (Int.ofNat 60000000000) ∧ _
    simp only [Int.tmod, Int.ofNat_eq_coe]
    omega
  · show -60000000000 < Int.tmod (Int.negSucc m) (Int.ofNat 60000000000) ∧ _
    simp only [Int.tmod, Int.ofNat_eq_coe, Int.negSucc_eq]
    omega

/-- The quotient and remainder by a minute of a duration are exact as `float64`. -/
private theorem minutes_eq_split (d : Duration) :
    d.minutes = addFloat64 (d.nanoseconds.tdiv 60000000000 : ℚ)
      (divFloat64 (d.nanoseconds.tmod 60000000000 : ℚ) 60000000000) := by
  have hd := d.inRange
  have hmr := Int.tdiv_add_tmod d.nanoseconds 60000000000
  obtain ⟨hr₁, hr₂, -, -⟩ := tmod_minute_bounds d.nanoseconds
  rw [Duration.minutes, float64OfInt_eq (abs_lt.mpr ⟨by omega, by omega⟩),
    float64OfInt_eq (abs_lt.mpr ⟨by omega, by omega⟩)]

/-- `Minutes()` is within `(|d| + 2 min) / 2⁵³` of the exact count of minutes, in nanoseconds. -/
theorem abs_minutes_sub_le (d : Duration) :
    |60000000000 * d.minutes - d.nanoseconds| ≤ (|(d.nanoseconds : ℚ)| + 120000000000) / 2 ^ 53 := by
  have hmr := Int.tdiv_add_tmod d.nanoseconds 60000000000
  obtain ⟨hr₁, hr₂, -, -⟩ := tmod_minute_bounds d.nanoseconds
  rw [minutes_eq_split]
  generalize d.nanoseconds.tdiv 60000000000 = m at hmr
  generalize d.nanoseconds.tmod 60000000000 = r at hmr hr₁ hr₂
  rw [← hmr]
  have hq := abs_divFloat64_sub_le (r : ℚ) (b := 60000000000) (by norm_num)
  have hs := abs_addFloat64_sub_le (m : ℚ) (divFloat64 r 60000000000)
  rw [Nat.cast_ofNat] at hq
  generalize divFloat64 r 60000000000 = F at hq hs ⊢
  have hq₁ : |F - r / 60000000000| ≤ 1 / 2 ^ 53 := by
    refine hq.trans (div_le_div_of_nonneg_right ?_ (by norm_num))
    rw [abs_div, div_le_one (by norm_num), abs_of_pos (by norm_num : (0 : ℚ) < 60000000000)]
    exact_mod_cast (abs_le.mpr ⟨by omega, by omega⟩ : |r| ≤ 60000000000)
  have hmq : |(m : ℚ) + r / 60000000000| = |((60000000000 * m + r : Int) : ℚ)| / 60000000000 := by
    rw [← abs_of_pos (show (0 : ℚ) < 60000000000 by norm_num), ← abs_div]
    push_cast
    field_simp
    ring_nf
  have hmF : |(m : ℚ) + F| ≤ |((60000000000 * m + r : Int) : ℚ)| / 60000000000 + 1 / 2 ^ 53 := by
    rw [← hmq, show (m : ℚ) + F = (m + r / 60000000000) + (F - r / 60000000000) by ring]
    exact (abs_add _ _).trans (add_le_add_left hq₁ _)
  have hsplit : 60000000000 * addFloat64 m F - ((60000000000 * m + r : Int) : ℚ) =
      60000000000 * (addFloat64 m F - (m + F)) + 60000000000 * (F - r / 60000000000) := by
    push_cast
    ring
  have htri := abs_add (60000000000 * (addFloat64 m F - (m + F))) (60000000000 * (F - r / 60000000000))
  rw [abs_mul, abs_mul, abs_of_pos (by norm_num : (0 : ℚ) < 60000000000)] at htri
  rw [hsplit]
  linarith

/-! ### Signs -/

/-- A value within `2⁻⁵³` of the magnitude of a nonnegative `y` from `y` is nonnegative. -/
theorem nonneg_of_abs_sub_le {x y : ℚ} (h : |x - y| ≤ |y| / 2 ^ 53) (hy : 0 ≤ y) : 0 ≤ x := by
  rw [abs_of_nonneg hy] at h
  linarith [(abs_le.mp h).1, div_le_self hy (by norm_num : (1 : ℚ) ≤ 2 ^ 53)]

/-- A value within `2⁻⁵³` of the magnitude of a nonpositive `y` from `y` is nonpositive. -/
theorem nonpos_of_abs_sub_le {x y : ℚ} (h : |x - y| ≤ |y| / 2 ^ 53) (hy : y ≤ 0) : x ≤ 0 := by
  rw [abs_of_nonpos hy] at h
  linarith [(abs_le.mp h).2, div_le_self (neg_nonneg.mpr hy) (by norm_num : (1 : ℚ) ≤ 2 ^ 53)]

/-- `Minutes()` of a duration that is not negative is not negative. -/
theorem Duration.minutes_nonneg {d : Duration} (h : 0 ≤ d.nanoseconds) : 0 ≤ d.minutes := by
  have hm : 0 ≤ d.nanoseconds.tdiv 60000000000 := Int.tdiv_nonneg h (by norm_num)
  have hr := (tmod_minute_bounds d.nanoseconds).2.2.1 h
  have hF := nonneg_of_abs_sub_le (abs_divFloat64_sub_le _ (b := 60000000000) (by norm_num))
    (div_nonneg (Int.cast_nonneg.mpr hr) (Nat.cast_nonneg _))
  rw [minutes_eq_split]
  exact nonneg_of_abs_sub_le (abs_addFloat64_sub_le _ _) (add_nonneg (Int.cast_nonneg.mpr hm) hF)

/-- `Minutes()` of a duration that is not positive is not positive. -/
theorem Duration.minutes_nonpos {d : Duration} (h : d.nanoseconds ≤ 0) : d.minutes ≤ 0 := by
  have hmr := Int.tdiv_add_tmod d.nanoseconds 60000000000
  obtain ⟨hr₁, -, -, hr⟩ := tmod_minute_bounds d.nanoseconds
  have hm : d.nanoseconds.tdiv 60000000000 ≤ 0 := by have := hr h; omega
  have hF := nonpos_of_abs_sub_le (abs_divFloat64_sub_le _ (b := 60000000000) (by norm_num))
    (div_nonpos_of_nonpos_of_nonneg (Int.cast_nonpos.mpr (hr h)) (Nat.cast_nonneg _))
  rw [minutes_eq_split]
  exact nonpos_of_abs_sub_le (abs_addFloat64_sub_le _ _) (add_nonpos (Int.cast_nonpos.mpr hm) hF)

/-! ### The threshold of line 272 -/

/-- A `time.Duration` is an `int64`. -/
theorem Duration.abs_nanoseconds_le (d : Duration) : |(d.nanoseconds : ℚ)| ≤ 2 ^ 63 := by
  have hd := d.inRange
  rw [abs_le]
  constructor <;> exact_mod_cast (by omega)

/-- `0.95 * rotationPeriod.Minutes()`, with `0.95` and the product rounded, is within
`(3 |p| + 2³⁷) / 2⁵³` of 95 % of the period, in nanoseconds. -/
theorem abs_threshold_sub_le (p : Duration) :
    |60000000000 * mulFloat64 (roundRatio 95 100) p.minutes - 95 / 100 * p.nanoseconds| ≤
      (3 * |(p.nanoseconds : ℚ)| + 2 ^ 37) / 2 ^ 53 := by
  have hP := p.abs_nanoseconds_le
  have hr : |roundRatio 95 100 - 95 / 100| ≤ 1 / 2 ^ 53 := by
    have h := abs_roundRatio_sub_le 95 (d := 100) (by norm_num)
    norm_num [abs_div] at h ⊢
    linarith
  have hr₁ : |roundRatio 95 100| ≤ 1 := by
    rw [abs_le] at hr ⊢; constructor <;> linarith
  have hM := abs_minutes_sub_le p
  have hM₁ : |60000000000 * p.minutes| ≤ |(p.nanoseconds : ℚ)| + 1025 := by
    have := abs_sub_abs_le_abs_sub (60000000000 * p.minutes) p.nanoseconds
    linarith
  have hT := abs_mulFloat64_sub_le (roundRatio 95 100) p.minutes
  generalize roundRatio 95 100 = r at hr hr₁ hT
  generalize mulFloat64 r p.minutes = T at hT
  have e₁ : |60000000000 * (T - r * p.minutes)| ≤ (|(p.nanoseconds : ℚ)| + 1025) / 2 ^ 53 := by
    calc |60000000000 * (T - r * p.minutes)|
        ≤ 60000000000 * (|r * p.minutes| / 2 ^ 53) := by
          rw [abs_mul, abs_of_pos (by norm_num : (0 : ℚ) < 60000000000)]
          exact mul_le_mul_of_nonneg_left hT (by norm_num)
      _ = |r| * |60000000000 * p.minutes| / 2 ^ 53 := by
          rw [abs_mul, abs_mul, abs_of_pos (by norm_num : (0 : ℚ) < 60000000000)]; ring
      _ ≤ 1 * (|(p.nanoseconds : ℚ)| + 1025) / 2 ^ 53 :=
          div_le_div_of_nonneg_right (mul_le_mul hr₁ hM₁ (abs_nonneg _) zero_le_one) (by norm_num)
      _ = _ := by rw [one_mul]
  have e₂ : |r * (60000000000 * p.minutes - p.nanoseconds)| ≤
      (|(p.nanoseconds : ℚ)| + 120000000000) / 2 ^ 53 := by
    rw [abs_mul]
    calc |r| * |60000000000 * p.minutes - p.nanoseconds|
        ≤ 1 * ((|(p.nanoseconds : ℚ)| + 120000000000) / 2 ^ 53) :=
          mul_le_mul hr₁ hM (abs_nonneg _) zero_le_one
      _ = _ := one_mul _
  have e₃ : |(r - 95 / 100) * p.nanoseconds| ≤ |(p.nanoseconds : ℚ)| / 2 ^ 53 := by
    rw [abs_mul]
    calc |r - 95 / 100| * |(p.nanoseconds : ℚ)|
        ≤ 1 / 2 ^ 53 * |(p.nanoseconds : ℚ)| :=
          mul_le_mul_of_nonneg_right hr (abs_nonneg _)
      _ = _ := by ring
  calc |60000000000 * T - 95 / 100 * p.nanoseconds|
      = |60000000000 * (T - r * p.minutes) + r * (60000000000 * p.minutes - p.nanoseconds) +
          (r - 95 / 100) * p.nanoseconds| := by ring_nf
    _ ≤ _ := (abs_add_three _ _ _).trans (by linarith)

end InfrastructureManager
