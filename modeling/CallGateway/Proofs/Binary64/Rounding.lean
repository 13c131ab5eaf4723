import CallGateway.Binary64

/-!
# How far rounding leads astray

Ranks are compared in units of the least positive number. A fraction of one or more is rounded to a
rank that is off by one part in `2 ^ 53` at most, so what stays clear of infinity before rounding is
finite after it.
-/

namespace CallGateway.Binary64

/-! ## Quotients -/

theorem roundDiv_spec (num : Nat) (h : 0 < den) :
    2 * (roundDiv num den * den) ≤ 2 * num + den ∧
      2 * num ≤ 2 * (roundDiv num den * den) + den := by
  have hd := Nat.div_add_mod num den
  have hm := Nat.mod_lt num h
  rw [Nat.mul_comm] at hd
  simp only [roundDiv]
  split
  · omega
  · rw [Nat.add_mul]
    omega

/-- `2 ^ f` is the greatest power of two up to `num / den`. -/
def IsFloorLog2 (num den : Nat) (f : Int) : Prop :=
  den * 2 ^ f.toNat ≤ num * 2 ^ (-f).toNat ∧ num * 2 ^ (-f).toNat < den * 2 ^ f.toNat * 2

/-- Where the quotient is below a power of two and above half of it, the next one is meant. -/
theorem isFloorLog2_pred {e : Int} (h : num * 2 ^ (-e).toNat < den * 2 ^ e.toNat)
    (h' : den * 2 ^ e.toNat < num * 2 ^ (-e).toNat * 2) : IsFloorLog2 num den (e - 1) := by
  rw [IsFloorLog2]
  by_cases he : 1 ≤ e
  · have hup : e.toNat = (e - 1).toNat + 1 := by omega
    have hdown : (-(e - 1)).toNat = (-e).toNat := by omega
    rw [hup, Nat.pow_succ, ← Nat.mul_assoc] at h h'
    rw [hdown]
    omega
  · have hup : (e - 1).toNat = e.toNat := by omega
    have hdown : (-(e - 1)).toNat = (-e).toNat + 1 := by omega
    rw [hup, hdown, Nat.pow_succ, ← Nat.mul_assoc]
    omega

/-- Powers of two on both sides do no harm. -/
theorem IsFloorLog2.shift (H : IsFloorLog2 num den f) {i j : Nat} (h : (i : Int) = f + j) :
    den * 2 ^ i ≤ num * 2 ^ j ∧ num * 2 ^ j < den * 2 ^ i * 2 := by
  obtain ⟨t, ht⟩ : ∃ t, j = (-f).toNat + t := ⟨j - (-f).toNat, by omega⟩
  have hi : i = f.toNat + t := by omega
  have ht₀ : 0 < 2 ^ t := Nat.two_pow_pos t
  rw [hi, ht, Nat.pow_add, Nat.pow_add, ← Nat.mul_assoc, ← Nat.mul_assoc, Nat.mul_right_comm _ _ 2]
  exact ⟨Nat.mul_le_mul_right _ H.1, Nat.mul_lt_mul_of_pos_right H.2 ht₀⟩

theorem floorLog2_eq {e : Int} (he : (num.log2 : Int) - den.log2 = e) : floorLog2 num den =
    if den * 2 ^ e.toNat ≤ num * 2 ^ (-e).toNat then e else e - 1 := by
  simp only [floorLog2, he]
  split
  · next h =>
    have h0 : (-e).toNat = 0 := by omega
    rw [h0, Nat.pow_zero, Nat.mul_one]
  · next h =>
    have h0 : e.toNat = 0 := by omega
    rw [h0, Nat.pow_zero, Nat.mul_one]

theorem floorLog2_spec (hn : 0 < num) (hd : 0 < den) :
    IsFloorLog2 num den (floorLog2 num den) := by
  have hn₁ := Nat.log2_self_le (Nat.ne_of_gt hn)
  have hn₂ := @Nat.lt_log2_self num
  have hd₁ := Nat.log2_self_le (Nat.ne_of_gt hd)
  have hd₂ := @Nat.lt_log2_self den
  obtain ⟨e, he⟩ : ∃ e : Int, (num.log2 : Int) - den.log2 = e := ⟨_, rfl⟩
  rw [floorLog2_eq he]
  generalize num.log2 = a at hn₁ hn₂ he
  generalize den.log2 = b at hd₁ hd₂ he
  -- Both sides lie between this power of two and its double.
  have hpow : 2 ^ b * 2 ^ e.toNat = 2 ^ a * 2 ^ (-e).toNat := by
    have hexp : b + e.toNat = a + (-e).toNat := by omega
    rw [← Nat.pow_add, ← Nat.pow_add, hexp]
  have hn₁ : 2 ^ a * 2 ^ (-e).toNat ≤ num * 2 ^ (-e).toNat := Nat.mul_le_mul_right _ hn₁
  have hn₂ : num * 2 ^ (-e).toNat < 2 ^ (a + 1) * 2 ^ (-e).toNat :=
    Nat.mul_lt_mul_of_pos_right hn₂ (Nat.two_pow_pos _)
  have hd₁ : 2 ^ b * 2 ^ e.toNat ≤ den * 2 ^ e.toNat := Nat.mul_le_mul_right _ hd₁
  have hd₂ : den * 2 ^ e.toNat < 2 ^ (b + 1) * 2 ^ e.toNat :=
    Nat.mul_lt_mul_of_pos_right hd₂ (Nat.two_pow_pos _)
  rw [Nat.pow_succ, Nat.mul_right_comm] at hn₂ hd₂
  split
  · next h => exact ⟨h, by omega⟩
  · next h => exact isFloorLog2_pred (by omega) (by omega)

/-! ## Ranks -/

/-- The value of a rank, in units of the least positive number. -/
def units (r : Nat) : Nat :=
  if r < 2 ^ 52 then r else (2 ^ 52 + r % 2 ^ 52) * 2 ^ (r / 2 ^ 52 - 1)

/-- So many units make one. -/
@[irreducible] def one : Nat := 2 ^ 1074

/-- What infinity stands in for: the first power of two beyond the finite numbers. -/
@[irreducible] def infinity : Nat := 2 ^ 1024

theorem one_pos : 0 < one := by
  obtain ⟨k, hk⟩ : ∃ k, one = 2 ^ k := ⟨1074, by unfold one; rfl⟩
  rw [hk]
  exact Nat.two_pow_pos k

theorem two_pow_mul_one (h : a + 1074 = b + c) : 2 ^ a * one = 2 ^ b * 2 ^ c := by
  unfold one
  rw [← Nat.pow_add, h, Nat.pow_add]

theorem infinity_mul_one_le (h : 2047 * 2 ^ 52 ≤ r) : infinity * one ≤ units r := by
  have hr : ¬ r < 2 ^ 52 := by omega
  obtain ⟨c, hc, hq⟩ : ∃ c, 1024 + 1074 = 52 + c ∧ c ≤ r / 2 ^ 52 - 1 := ⟨2046, rfl, by omega⟩
  unfold infinity
  rw [units, if_neg hr, two_pow_mul_one hc]
  apply Nat.mul_le_mul (Nat.le_add_right _ _)
  exact Nat.pow_le_pow_right Nat.two_pos hq

/-- A mantissa that fills its range, or has the least exponent. -/
theorem units_add (k m : Nat) (hm : m ≤ 2 ^ 53) (h : 2 ^ 52 ≤ m ∨ k = 0) :
    units (k * 2 ^ 52 + m) = m * 2 ^ k := by
  rw [units]
  by_cases hlt : m < 2 ^ 52
  · obtain rfl : k = 0 := h.resolve_left (by omega)
    rw [if_pos (by omega), Nat.zero_mul, Nat.zero_add, Nat.pow_zero, Nat.mul_one]
  · rw [if_neg (by omega)]
    by_cases htop : m = 2 ^ 53
    · subst htop
      have hq : (k * 2 ^ 52 + 2 ^ 53) / 2 ^ 52 - 1 = k + 1 := by omega
      have hr : (k * 2 ^ 52 + 2 ^ 53) % 2 ^ 52 = 0 := by omega
      have hp : 52 + (k + 1) = 53 + k := by omega
      rw [hq, hr, Nat.add_zero, ← Nat.pow_add, ← Nat.pow_add, hp]
    · have hq : (k * 2 ^ 52 + m) / 2 ^ 52 - 1 = k := by omega
      have hr : 2 ^ 52 + (k * 2 ^ 52 + m) % 2 ^ 52 = m := by omega
      rw [hq, hr]

/-- The value of a number is its fraction. -/
theorem units_fraction (x : Binary64) : units x.rank * x.fraction.2 = x.fraction.1 * one := by
  have hu : units x.rank = x.mantissa * 2 ^ (x.rank / 2 ^ 52 - 1) := by
    rw [units, mantissa]
    split
    · next h =>
      have h0 : x.rank / 2 ^ 52 - 1 = 0 := by omega
      rw [h0, Nat.pow_zero, Nat.mul_one]
    · rfl
  rw [hu, fraction]
  split
  · next h =>
    rw [exponent] at h
    have he : x.exponent.toNat + 1074 = x.rank / 2 ^ 52 - 1 + 0 := by
      rw [exponent]
      omega
    have hone := two_pow_mul_one he
    rw [Nat.pow_zero, Nat.mul_one] at hone
    rw [Nat.mul_one, ← hone, Nat.mul_assoc]
  · next h =>
    rw [exponent] at h
    have he : 0 + 1074 = x.rank / 2 ^ 52 - 1 + (-x.exponent).toNat := by
      rw [exponent]
      omega
    have hone := two_pow_mul_one he
    rw [Nat.pow_zero, Nat.one_mul] at hone
    rw [hone, Nat.mul_assoc]

theorem fraction_pos (x : Binary64) : 0 < x.fraction.2 := by
  rw [fraction]
  split
  · exact Nat.one_pos
  · exact Nat.two_pow_pos _

/-! ## Rounding -/

/-- A rank that is off the fraction `num / den` by one part in `2 ^ 53` at most. -/
structure Near (num den r : Nat) : Prop where
  upper : units r * den * 2 ^ 53 ≤ num * one * (2 ^ 53 + 1)
  lower : num * one * 2 ^ 53 ≤ units r * den * (2 ^ 53 + 1)

section
variable {n d v w : Nat}

/-- Bounds on `n / d` are bounds on `v / w` where both are the same. -/
theorem mul_le_of_ratio (hd : 0 < d) (hs : n * w = d * v) (h : a * d * x ≤ n * y) :
    a * w * x ≤ v * y := by
  apply Nat.le_of_mul_le_mul_left _ hd
  calc d * (a * w * x) = a * d * x * w := by ac_rfl
    _ ≤ n * y * w := Nat.mul_le_mul_right w h
    _ = n * w * y := by ac_rfl
    _ = d * (v * y) := by rw [hs, Nat.mul_assoc]

theorem le_mul_of_ratio (hd : 0 < d) (hs : n * w = d * v) (h : n * x ≤ a * d * y) :
    v * x ≤ a * w * y := by
  apply Nat.le_of_mul_le_mul_left _ hd
  calc d * (v * x) = n * w * x := by rw [hs, Nat.mul_assoc]
    _ = n * x * w := by ac_rfl
    _ ≤ a * d * y * w := Nat.mul_le_mul_right w h
    _ = d * (a * w * y) := by ac_rfl

theorem le_roundDiv (hd : 0 < d) (h : 2 ^ 52 * d ≤ n) : 2 ^ 52 ≤ roundDiv n d := by
  obtain ⟨-, hr⟩ := roundDiv_spec n hd
  apply Nat.le_of_not_lt
  intro hlt
  have hm : roundDiv n d * d ≤ (2 ^ 52 - 1) * d := Nat.mul_le_mul_right d (by omega)
  rw [Nat.sub_mul] at hm
  omega

theorem roundDiv_le (hd : 0 < d) (h : n < d * 2 ^ 53) : roundDiv n d ≤ 2 ^ 53 := by
  obtain ⟨hr, -⟩ := roundDiv_spec n hd
  apply Nat.le_of_not_lt
  intro hlt
  have hm : (2 ^ 53 + 1) * d ≤ roundDiv n d * d := Nat.mul_le_mul_right d hlt
  rw [Nat.add_mul] at hm
  omega

/-- A quotient of `2 ^ 52` or more is off by little when it is rounded. -/
theorem near_roundDiv (hd : 0 < d) (hnorm : 2 ^ 52 * d ≤ n) (hn : n < d * 2 ^ 53)
    (hs : n * (den * 2 ^ k) = d * (num * one)) : Near num den (k * 2 ^ 52 + roundDiv n d) := by
  obtain ⟨hr, hr'⟩ := roundDiv_spec n hd
  have hle := le_roundDiv hd hnorm
  have hm := Nat.mul_le_mul_right d hle
  have hu : units (k * 2 ^ 52 + roundDiv n d) * den = roundDiv n d * (den * 2 ^ k) := by
    rw [units_add _ _ (roundDiv_le hd hn) (.inl hle)]
    ac_rfl
  constructor
  · rw [hu]
    exact mul_le_of_ratio hd hs (by omega)
  · rw [hu]
    exact le_mul_of_ratio hd hs (by omega)

end

theorem nearestRank_eq (hn : num ≠ 0) (he : max (floorLog2 num den - 52) (-1074) = e) :
    nearestRank num den =
      (e + 1074).toNat * 2 ^ 52 + roundDiv (num * 2 ^ (-e).toNat) (den * 2 ^ e.toNat) := by
  rw [nearestRank, if_neg hn]
  simp only [he]
  split
  · next h =>
    have h0 : (-e).toNat = 0 := by omega
    rw [h0, Nat.pow_zero, Nat.mul_one]
  · next h =>
    have h0 : e.toNat = 0 := by omega
    rw [h0, Nat.pow_zero, Nat.mul_one]

/-- What is one or more is rounded to a rank near it, and what is less to a small rank at worst. -/
theorem nearestRank_spec (hn : 0 < num) (hd : 0 < den) :
    nearestRank num den ≤ 2 ^ 53 ∧ num < den ∨ Near num den (nearestRank num den) := by
  have hf := floorLog2_spec hn hd
  obtain ⟨e, he⟩ : ∃ e, max (floorLog2 num den - 52) (-1074) = e := ⟨_, rfl⟩
  rw [nearestRank_eq (Nat.ne_of_gt hn) he]
  generalize floorLog2 num den = f at hf he
  obtain ⟨t, ht⟩ : ∃ t : Nat, f + t = e + 52 := ⟨(e + 52 - f).toNat, by omega⟩
  have hd' : 0 < den * 2 ^ e.toNat := Nat.mul_pos hd (Nat.two_pow_pos _)
  obtain ⟨hlow, hup⟩ := hf.shift (i := e.toNat + 52) (j := (-e).toNat + t) (by omega)
  rw [Nat.pow_add, Nat.pow_add, ← Nat.mul_assoc, ← Nat.mul_assoc] at hlow hup
  have hlt : num * 2 ^ (-e).toNat < den * 2 ^ e.toNat * 2 ^ 53 := by
    have ht : num * 2 ^ (-e).toNat * 1 ≤ num * 2 ^ (-e).toNat * 2 ^ t :=
      Nat.mul_le_mul_left _ (Nat.two_pow_pos t)
    omega
  have hs : num * 2 ^ (-e).toNat * (den * 2 ^ (e + 1074).toNat) =
      den * 2 ^ e.toNat * (num * one) := by
    have hone := two_pow_mul_one (a := e.toNat) (b := (-e).toNat) (c := (e + 1074).toNat) (by omega)
    calc num * 2 ^ (-e).toNat * (den * 2 ^ (e + 1074).toNat)
        = num * den * (2 ^ (-e).toNat * 2 ^ (e + 1074).toNat) := by ac_rfl
      _ = num * den * (2 ^ e.toNat * one) := by rw [hone]
      _ = den * 2 ^ e.toNat * (num * one) := by ac_rfl
  by_cases hnorm : 2 ^ 52 * (den * 2 ^ e.toNat) ≤ num * 2 ^ (-e).toNat
  · exact .inr (near_roundDiv hd' hnorm hlt hs)
  · -- The exponent is the least that there is.
    have hmin : e = -1074 := by
      cases t with
      | zero => omega
      | succ t => omega
    have hk : (e + 1074).toNat = 0 := by omega
    have ha : e.toNat = 0 := by omega
    obtain ⟨p, hb⟩ : ∃ p, (-e).toNat = 52 + p := ⟨1022, by omega⟩
    rw [hk, Nat.zero_mul, Nat.zero_add]
    refine .inl ⟨roundDiv_le hd' hlt, ?_⟩
    apply Nat.lt_of_not_le
    intro hle
    apply hnorm
    rw [ha, hb, Nat.pow_zero, Nat.mul_one, Nat.pow_add, Nat.mul_comm]
    apply Nat.mul_le_mul hle
    exact Nat.le_mul_of_pos_right _ (Nat.two_pow_pos _)

/-- What is small enough before rounding is finite after it. -/
theorem nearestRank_lt (hd : 0 < den) (h : num * (2 ^ 53 + 1) < den * infinity * 2 ^ 53) :
    nearestRank num den < 2047 * 2 ^ 52 := by
  obtain rfl | hn := Nat.eq_zero_or_pos num
  · rw [nearestRank, if_pos rfl]
    decide
  obtain ⟨hr, -⟩ | hr := nearestRank_spec hn hd
  · omega
  apply Nat.lt_of_not_le
  intro hle
  apply Nat.lt_irrefl (num * one * (2 ^ 53 + 1))
  calc num * one * (2 ^ 53 + 1) = num * (2 ^ 53 + 1) * one := Nat.mul_right_comm ..
    _ < den * infinity * 2 ^ 53 * one := Nat.mul_lt_mul_of_pos_right h one_pos
    _ = infinity * one * (den * 2 ^ 53) := by ac_rfl
    _ ≤ units (nearestRank num den) * (den * 2 ^ 53) :=
      Nat.mul_le_mul_right _ (infinity_mul_one_le hle)
    _ = units (nearestRank num den) * den * 2 ^ 53 := (Nat.mul_assoc ..).symm
    _ ≤ num * one * (2 ^ 53 + 1) := hr.upper

theorem lt_infinity_of_le (hd : 0 < den) (hc : c ≤ 2 ^ 81) (h : num ≤ c * den) :
    num * (2 ^ 53 + 1) < den * infinity * 2 ^ 53 := by
  have hinf : 2 ^ 82 < infinity := by decide +kernel
  calc num * (2 ^ 53 + 1) ≤ 2 ^ 81 * den * (2 * 2 ^ 53) := by
        apply Nat.mul_le_mul _ (by decide)
        exact Nat.le_trans h (Nat.mul_le_mul_right den hc)
    _ = den * 2 ^ 82 * 2 ^ 53 := by omega
    _ < den * infinity * 2 ^ 53 := by
      apply Nat.mul_lt_mul_of_pos_right _ (Nat.two_pow_pos 53)
      exact Nat.mul_lt_mul_of_pos_left hinf hd

theorem units_le_one (h : r ≤ 2 ^ 53) : units r ≤ one := by
  obtain ⟨k, hk⟩ : ∃ k, 0 + 1074 = 54 + k := ⟨1020, rfl⟩
  have hone := two_pow_mul_one hk
  have hu : units r ≤ 2 ^ 54 := by
    rw [units]
    split
    · omega
    · obtain hq | hq : r / 2 ^ 52 - 1 = 0 ∨ r / 2 ^ 52 - 1 = 1 := by omega
      all_goals
        rw [hq]
        omega
  rw [Nat.pow_zero, Nat.one_mul] at hone
  rw [hone]
  exact Nat.le_trans hu (Nat.le_mul_of_pos_right _ (Nat.two_pow_pos k))

/-- Rounding at most doubles what is one or more. -/
theorem units_nearestRank_le (hd : 0 < den) (hc : 0 < c) (h : num ≤ c * den) :
    units (nearestRank num den) ≤ 2 * c * one := by
  have hle : one ≤ 2 * c * one := Nat.le_mul_of_pos_left one (by omega)
  obtain rfl | hn := Nat.eq_zero_or_pos num
  · rw [nearestRank, if_pos rfl]
    exact Nat.zero_le _
  obtain ⟨hr, -⟩ | hr := nearestRank_spec hn hd
  · exact Nat.le_trans (units_le_one hr) hle
  apply Nat.le_of_mul_le_mul_right _ (Nat.mul_pos hd (Nat.two_pow_pos 53))
  calc units (nearestRank num den) * (den * 2 ^ 53)
      = units (nearestRank num den) * den * 2 ^ 53 := (Nat.mul_assoc ..).symm
    _ ≤ num * one * (2 ^ 53 + 1) := hr.upper
    _ ≤ c * den * one * (2 * 2 ^ 53) := by
      apply Nat.mul_le_mul _ (by decide)
      exact Nat.mul_le_mul_right one h
    _ = 2 * c * one * (den * 2 ^ 53) := by ac_rfl

theorem rank_of_ofFraction? {sign : Bool} (h : ofFraction? sign num den = some x) :
    x.rank = nearestRank num den := by
  simp only [ofFraction?] at h
  split at h
  · cases h
    rfl
  · cases h

theorem exists_ofFraction? (sign : Bool) (hd : 0 < den)
    (h : num * (2 ^ 53 + 1) < den * infinity * 2 ^ 53) :
    ∃ x, ofFraction? sign num den = some x ∧ x.rank = nearestRank num den := by
  have hr := nearestRank_lt hd h
  exact ⟨_, dif_pos hr, rfl⟩

/-! ## Products and quotients -/

/-- The quotient by what is half of one or more. -/
theorem exists_div? {x y : Binary64} (hc : 0 < c) (hc' : c ≤ 2 ^ 80)
    (hx : units x.rank ≤ c * one) (hy : one ≤ 2 * units y.rank) :
    ∃ z, x.div? y = some z ∧ units z.rank ≤ 4 * c * one := by
  have hy₀ : y.rank ≠ 0 := by
    intro h
    have hu : units 0 = 0 := rfl
    have hone := one_pos
    rw [h, hu] at hy
    omega
  have hx₂ := x.fraction_pos
  have hy₂ := y.fraction_pos
  have hx₁ : x.fraction.1 ≤ c * x.fraction.2 := by
    apply Nat.le_of_mul_le_mul_right _ one_pos
    rw [← units_fraction, Nat.mul_right_comm]
    exact Nat.mul_le_mul_right _ hx
  have hy₁ : y.fraction.2 ≤ 2 * y.fraction.1 := by
    apply Nat.le_of_mul_le_mul_right _ one_pos
    rw [Nat.mul_assoc, ← units_fraction, ← Nat.mul_assoc, Nat.mul_comm]
    exact Nat.mul_le_mul_right _ hy
  have hd : 0 < x.fraction.2 * y.fraction.1 := Nat.mul_pos hx₂ (by omega)
  have hq : x.fraction.1 * y.fraction.2 ≤ 2 * c * (x.fraction.2 * y.fraction.1) :=
    calc x.fraction.1 * y.fraction.2 ≤ c * x.fraction.2 * (2 * y.fraction.1) :=
          Nat.mul_le_mul hx₁ hy₁
      _ = 2 * c * (x.fraction.2 * y.fraction.1) := by ac_rfl
  obtain ⟨z, hz, hr⟩ := exists_ofFraction? (x.negative != y.negative) hd
    (lt_infinity_of_le hd (by omega) hq)
  refine ⟨z, ?_, ?_⟩
  · rw [div?, if_neg hy₀, hz]
  · have hu := units_nearestRank_le hd (by omega) hq
    rw [hr]
    rwa [← Nat.mul_assoc] at hu

/-- The product of the fractions `a / c` and `b / d`, which are near the integers `n` and `p`. -/
theorem product_lt {a b c d u v n p : Nat} (hc : 0 < c) (hd : 0 < d) (hu : u * c = a * one)
    (hv : v * d = b * one) (hn : u * 2 ^ 53 ≤ n * one * (2 ^ 53 + 1))
    (hp : v * 2 ^ 53 ≤ p * one * (2 ^ 53 + 1))
    (h : n * p * (2 ^ 53 + 1) ^ 3 < infinity * (2 ^ 53) ^ 3) :
    a * b * (2 ^ 53 + 1) < c * d * infinity * 2 ^ 53 := by
  have cube (k : Nat) : k ^ 3 = k * k * k := by rw [Nat.pow_succ, Nat.pow_succ, Nat.pow_one]
  apply Nat.lt_of_mul_lt_mul_right (a := one * one * (2 ^ 53 * 2 ^ 53))
  calc a * b * (2 ^ 53 + 1) * (one * one * (2 ^ 53 * 2 ^ 53))
      = (a * one) * (b * one) * (2 ^ 53 * 2 ^ 53) * (2 ^ 53 + 1) := by ac_rfl
    _ = (u * c) * (v * d) * (2 ^ 53 * 2 ^ 53) * (2 ^ 53 + 1) := by rw [hu, hv]
    _ = (u * 2 ^ 53) * (v * 2 ^ 53) * (c * d * (2 ^ 53 + 1)) := by ac_rfl
    _ ≤ (n * one * (2 ^ 53 + 1)) * (p * one * (2 ^ 53 + 1)) * (c * d * (2 ^ 53 + 1)) :=
      Nat.mul_le_mul_right _ (Nat.mul_le_mul hn hp)
    _ = n * p * (2 ^ 53 + 1) ^ 3 * (one * one * (c * d)) := by
      rw [cube]
      ac_rfl
    _ < infinity * (2 ^ 53) ^ 3 * (one * one * (c * d)) := by
      apply Nat.mul_lt_mul_of_pos_right h
      exact Nat.mul_pos (Nat.mul_pos one_pos one_pos) (Nat.mul_pos hc hd)
    _ = c * d * infinity * 2 ^ 53 * (one * one * (2 ^ 53 * 2 ^ 53)) := by
      rw [cube]
      ac_rfl

/-- The product of two rounded integers. -/
theorem exists_mul? {x y : Binary64} {n p : Nat} (hx : Near n 1 x.rank) (hy : Near p 1 y.rank)
    (h : n * p * (2 ^ 53 + 1) ^ 3 < infinity * (2 ^ 53) ^ 3) : ∃ z, x.mul? y = some z := by
  have hn := hx.upper
  have hp := hy.upper
  rw [Nat.mul_one] at hn hp
  have hlt := product_lt x.fraction_pos y.fraction_pos x.units_fraction y.units_fraction hn hp h
  have hd := Nat.mul_pos x.fraction_pos y.fraction_pos
  obtain ⟨z, hz, -⟩ := exists_ofFraction? (x.negative != y.negative) hd hlt
  exact ⟨z, hz⟩

/-- The greatest ranks apart, a finite number may be off by one part in `2 ^ 53` four times. -/
theorem units_lt_infinity (h : r ≤ 2047 * 2 ^ 52 - 5) :
    units r * (2 ^ 53 + 1) ^ 4 < infinity * one * (2 ^ 53) ^ 4 := by
  obtain ⟨c, hc, hq⟩ : ∃ c, 1024 + 1074 = 53 + c ∧ (r / 2 ^ 52 - 1 < c ∨ r / 2 ^ 52 - 1 = c ∧
      2 ^ 52 + r % 2 ^ 52 ≤ 2 ^ 53 - 5) := ⟨2045, rfl, by omega⟩
  have hu : units r ≤ (2 ^ 53 - 5) * 2 ^ c := by
    rw [units]
    split
    · next h =>
      calc r ≤ (2 ^ 53 - 5) * 1 := by omega
        _ ≤ (2 ^ 53 - 5) * 2 ^ c := Nat.mul_le_mul_left _ (Nat.two_pow_pos c)
    · obtain hq | ⟨hq, hm⟩ := hq
      · calc (2 ^ 52 + r % 2 ^ 52) * 2 ^ (r / 2 ^ 52 - 1)
            ≤ 2 ^ 53 * 2 ^ (r / 2 ^ 52 - 1) := Nat.mul_le_mul_right _ (by omega)
          _ = 2 ^ 52 * 2 ^ (r / 2 ^ 52 - 1 + 1) := by
            have hp : 2 ^ (r / 2 ^ 52 - 1 + 1) = 2 ^ (r / 2 ^ 52 - 1) * 2 := Nat.pow_succ _ _
            omega
          _ ≤ (2 ^ 53 - 5) * 2 ^ c :=
            Nat.mul_le_mul (by decide) (Nat.pow_le_pow_right Nat.two_pos hq)
      · rw [hq]
        exact Nat.mul_le_mul_right _ hm
  have hinf : infinity * one = 2 ^ 53 * 2 ^ c := by
    unfold infinity
    exact two_pow_mul_one hc
  calc units r * (2 ^ 53 + 1) ^ 4 ≤ (2 ^ 53 - 5) * 2 ^ c * (2 ^ 53 + 1) ^ 4 :=
        Nat.mul_le_mul_right _ hu
    _ = (2 ^ 53 - 5) * (2 ^ 53 + 1) ^ 4 * 2 ^ c := Nat.mul_right_comm ..
    _ < 2 ^ 53 * (2 ^ 53) ^ 4 * 2 ^ c :=
      Nat.mul_lt_mul_of_pos_right (by decide +kernel) (Nat.two_pow_pos c)
    _ = infinity * one * (2 ^ 53) ^ 4 := by
      rw [hinf]
      exact Nat.mul_right_comm ..

end CallGateway.Binary64
