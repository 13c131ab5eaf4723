import CallGateway.Proofs.Binary64.Rounding

/-!
# Numbers that need no rounding

A fraction that is worth as much as a finite number is rounded to that number.
-/

namespace CallGateway.Binary64

theorem roundDiv_mul (m : Nat) (hd : 0 < d) : roundDiv (m * d) d = m := by
  simp only [roundDiv, Nat.mul_div_cancel m hd, Nat.mul_mod_left, Nat.mul_zero]
  exact if_pos (.inl hd)

/-- A rank is a mantissa that fills its range, or one with the least exponent. -/
theorem exists_rank (hr : r ≠ 0) :
    ∃ k m, r = k * 2 ^ 52 + m ∧ 0 < m ∧ m < 2 ^ 53 ∧ (2 ^ 52 ≤ m ∨ m < 2 ^ 52 ∧ k = 0) := by
  by_cases h : r < 2 ^ 52
  · exact ⟨0, r, by omega, by omega, by omega, .inr ⟨h, rfl⟩⟩
  · exact ⟨r / 2 ^ 52 - 1, 2 ^ 52 + r % 2 ^ 52, by omega, by omega, by omega, .inl (by omega)⟩

section
variable {num den k m : Nat}

/-- The exponent with which `num / den` is rounded when it is `m` times a power of two. -/
theorem exponent_of_units (hd : 0 < den) (hm : m < 2 ^ 53)
    (full : 2 ^ 52 ≤ m ∨ m < 2 ^ 52 ∧ k = 0) (h : num * one = m * 2 ^ k * den)
    (hf : IsFloorLog2 num den f) : max (f - 52) (-1074) = (k : Int) - 1074 := by
  obtain ⟨t, ht⟩ : ∃ t : Nat, 0 ≤ f + 1074 + t := ⟨(-f).toNat, by omega⟩
  obtain ⟨i, hi⟩ := Int.eq_ofNat_of_zero_le ht
  obtain ⟨hlow, hup⟩ := hf.shift (i := i) (j := 1074 + t) (by omega)
  -- In these units the fraction is an integer.
  have hone := two_pow_mul_one (a := t) (b := 1074 + t) (c := 0) (by omega)
  have hnum : num * 2 ^ (1074 + t) = den * (m * 2 ^ (k + t)) := by
    calc num * 2 ^ (1074 + t) = num * one * 2 ^ t := by
          rw [Nat.pow_zero, Nat.mul_one] at hone
          rw [← hone]
          ac_rfl
      _ = den * (m * 2 ^ (k + t)) := by
          rw [h, Nat.pow_add]
          ac_rfl
  rw [hnum, Nat.mul_assoc, ← Nat.pow_succ] at hup
  rw [hnum] at hlow
  have hlow := Nat.le_of_mul_le_mul_left hlow hd
  have hup := Nat.lt_of_mul_lt_mul_left hup
  have bound {p : Nat} (hp : m < 2 ^ p) : i < p + (k + t) := by
    refine (Nat.pow_lt_pow_iff_right (by decide : 1 < 2)).1 (Nat.lt_of_le_of_lt hlow ?_)
    rw [Nat.pow_add 2 p]
    exact Nat.mul_lt_mul_of_pos_right hp (Nat.two_pow_pos _)
  rcases full with hfull | ⟨hsmall, rfl⟩
  · have hlt : 52 + (k + t) < i + 1 := by
      refine (Nat.pow_lt_pow_iff_right (by decide : 1 < 2)).1 (Nat.lt_of_le_of_lt ?_ hup)
      rw [Nat.pow_add]
      exact Nat.mul_le_mul_right _ hfull
    have := bound hm
    omega
  · have := bound hsmall
    omega

theorem nearestRank_of_units (hd : 0 < den) (h : num * one = units r * den) :
    nearestRank num den = r := by
  by_cases hr : r = 0
  · subst hr
    rw [units, if_pos (by decide), Nat.zero_mul] at h
    have hn : num = 0 := (Nat.mul_eq_zero.1 h).resolve_right (Nat.ne_of_gt one_pos)
    rw [nearestRank, if_pos hn]
  obtain ⟨k, m, rfl, hm, hm', full⟩ := exists_rank hr
  rw [units_add k m (Nat.le_of_lt hm') (full.imp_right (·.2))] at h
  have hn : num ≠ 0 := by
    rintro rfl
    rw [Nat.zero_mul] at h
    exact Nat.ne_of_lt (Nat.mul_pos (Nat.mul_pos hm (Nat.two_pow_pos k)) hd) h
  have hf := floorLog2_spec (Nat.pos_of_ne_zero hn) hd
  rw [nearestRank_eq hn (exponent_of_units hd hm' full h hf)]
  obtain ⟨e, he⟩ : ∃ e : Int, (k : Int) - 1074 = e := ⟨_, rfl⟩
  have hk : (e + 1074).toNat = k := by omega
  have hone := two_pow_mul_one (a := e.toNat) (b := k) (c := (-e).toNat) (by omega)
  have hquot : num * 2 ^ (-e).toNat = m * (den * 2 ^ e.toNat) := by
    apply Nat.eq_of_mul_eq_mul_left (Nat.two_pow_pos k)
    calc 2 ^ k * (num * 2 ^ (-e).toNat) = num * (2 ^ k * 2 ^ (-e).toNat) := by ac_rfl
      _ = num * one * 2 ^ e.toNat := by rw [← hone]; ac_rfl
      _ = 2 ^ k * (m * (den * 2 ^ e.toNat)) := by rw [h]; ac_rfl
  rw [he, hk, hquot, roundDiv_mul m (Nat.mul_pos hd (Nat.two_pow_pos _))]

end

/-- Every fraction with the value of a number is read as that number. -/
theorem ofFraction?_of_units {x : Binary64} (hd : 0 < den)
    (h : num * one = units x.rank * den) : ofFraction? x.negative num den = some x := by
  have hr := nearestRank_of_units hd h
  simp only [ofFraction?, hr, x.rank_lt, dif_pos]

theorem mantissa_ne_zero {x : Binary64} (h : x.rank ≠ 0) : x.mantissa ≠ 0 := by
  rw [mantissa]
  split <;> omega

end CallGateway.Binary64
