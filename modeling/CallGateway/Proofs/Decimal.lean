import CallGateway.Decimal.Text
import CallGateway.Proofs.Binary64.Exact
import CallGateway.Proofs.Text.Digits

/-!
# Decimals that stand for binary numbers

The decimal with which a number is shown reads back as that number: the search takes nothing else
from its grids, and the exact value, with which it ends, needs no rounding. Written positionally,
the decimal is an integer of as many places as stand behind the point.
-/

namespace CallGateway.Decimal

open Binary64

variable {tie : Tie} {x : Binary64} {d : Decimal}

/-! ## Reading back -/

theorem readsBack_iff : readsBack x d = true ↔ ofDecimal? x.negative d.digits d.scale = some x :=
  beq_iff_eq

/-- The exact value takes twice as many bits as places. -/
theorem readsBack_exact (h : x.rank ≠ 0) : readsBack x (exact x) = true := by
  have hm := mantissa_ne_zero h
  have hunits := x.units_fraction
  rw [readsBack_iff, exact]
  rw [fraction] at hunits
  split
  · next he =>
    rw [if_pos he, Nat.mul_one] at hunits
    have hn : x.mantissa * 2 ^ x.exponent.toNat ≠ 0 :=
      Nat.mul_ne_zero hm (Nat.ne_of_gt (Nat.two_pow_pos _))
    simp only [ofDecimal?]
    rw [if_neg hn, if_neg (by decide), if_pos (by decide)]
    refine ofFraction?_of_units Nat.one_pos ?_
    rw [hunits, Int.toNat_zero, Nat.pow_zero, Nat.mul_one, Nat.mul_one]
  · next he =>
    rw [if_neg he] at hunits
    obtain ⟨p, hp⟩ : ∃ p, (-x.exponent).toNat = p := ⟨_, rfl⟩
    rw [hp] at hunits ⊢
    have hn : x.mantissa * 5 ^ p ≠ 0 := Nat.mul_ne_zero hm (Nat.ne_of_gt (Nat.pow_pos (by decide)))
    have hlog : 2 * p ≤ (x.mantissa * 5 ^ p).log2 := by
      rw [Nat.le_log2 hn, Nat.pow_mul]
      calc (2 ^ 2) ^ p ≤ 5 ^ p := Nat.pow_le_pow_left (by decide) p
        _ ≤ x.mantissa * 5 ^ p := Nat.le_mul_of_pos_left _ (Nat.pos_of_ne_zero hm)
    simp only [ofDecimal?]
    rw [if_neg hn, if_neg (by omega), if_neg he, if_neg (by omega), hp]
    refine ofFraction?_of_units (Nat.pow_pos (by decide)) ?_
    calc x.mantissa * 5 ^ p * one = units x.rank * 2 ^ p * 5 ^ p := by rw [hunits]; ac_rfl
      _ = units x.rank * 10 ^ p := by rw [Nat.mul_assoc, ← Nat.mul_pow]

theorem readsBack_onGrid? {scale : Int} (h : onGrid? tie x scale = some d) :
    readsBack x d = true := by
  simp only [onGrid?] at h
  split at h
  · next hlow hhigh =>
    rw [← Option.some.inj h]
    split
    · exact hlow
    · exact hhigh
  · next hlow hhigh => rw [← Option.some.inj h]; exact hlow
  · next hlow hhigh => rw [← Option.some.inj h]; exact hhigh
  · cases h

theorem readsBack_search (h : x.rank ≠ 0) (tries : Nat) (scale : Int) :
    readsBack x (search tie x tries scale) = true := by
  induction tries generalizing scale with
  | zero => exact readsBack_exact h
  | succ tries ih =>
    rw [search]
    cases hgrid : onGrid? tie x scale with
    | none => exact ih (scale - 1)
    | some d => exact readsBack_onGrid? hgrid

/-- The shortest decimal reads back. -/
theorem readsBack_shortest (tie : Tie) (x : Binary64) : readsBack x (shortest tie x) = true := by
  rw [shortest]
  split
  · next h =>
    obtain ⟨negative, rank, hlt⟩ := x
    obtain rfl : rank = 0 := h
    rw [readsBack_iff, ofDecimal?, if_pos rfl]
  · next h => exact readsBack_search h _ _

/-- Only zero has no digits but zero. -/
theorem digits_shortest_eq_zero (h : (shortest tie x).digits = 0) : x.rank = 0 := by
  have hx := readsBack_iff.1 (readsBack_shortest tie x)
  rw [ofDecimal?, if_pos h] at hx
  rw [← Option.some.inj hx]

/-- Zeros behind the digits are as good as a scale above zero. -/
theorem ofDecimal?_shift {negative : Bool} {n : Nat} {scale : Int}
    (h : ofDecimal? negative n scale = some x) :
    ofDecimal? negative (n * 10 ^ scale.toNat) (min scale 0) = some x := by
  by_cases hs : scale ≤ 0
  · have h0 : scale.toNat = 0 := by omega
    rwa [h0, Nat.pow_zero, Nat.mul_one, Int.min_eq_left hs]
  · rw [Int.min_eq_right (by omega)]
    by_cases hn : n = 0
    · rw [ofDecimal?, if_pos hn] at h
      rw [ofDecimal?, hn, Nat.zero_mul, if_pos rfl, h]
    · have hbound : ¬ 400 < scale := by
        intro hlt
        rw [ofDecimal?, if_neg hn, if_pos hlt] at h
        cases h
      rw [ofDecimal?, if_neg hn, if_neg hbound, if_pos (by omega)] at h
      have hn : n * 10 ^ scale.toNat ≠ 0 :=
        Nat.mul_ne_zero hn (Nat.ne_of_gt (Nat.pow_pos (by decide)))
      rw [ofDecimal?, if_neg hn, if_neg (by decide), if_pos (Int.le_refl 0), Int.toNat_zero,
        Nat.pow_zero, Nat.mul_one, h]

/-! ## Places -/

open Text

theorem toDigits_shift {n : Nat} (h : n ≠ 0) (k : Nat) :
    Nat.toDigits 10 (n * 10 ^ k) = Nat.toDigits 10 n ++ List.replicate k '0' := by
  induction k with
  | zero => rw [Nat.pow_zero, Nat.mul_one, List.replicate_zero, List.append_nil]
  | succ k ih =>
    have hpos : 0 < n * 10 ^ k := Nat.mul_pos (Nat.pos_of_ne_zero h) (Nat.pow_pos (by decide))
    have hten : n * 10 ^ (k + 1) = n * 10 ^ k * 10 := by rw [Nat.pow_succ, Nat.mul_assoc]
    rw [hten, Nat.toDigits_eq_if (by decide), if_neg (by omega), Nat.mul_div_cancel _ (by decide),
      Nat.mul_mod_left, ih, List.append_assoc, List.replicate_succ']
    rfl

/-- Without places behind the point, the text is that of an integer. -/
theorem positional_of_nonneg (h : 0 ≤ d.scale) :
    d.positional = (Nat.toDigits 10 (d.digits * 10 ^ d.scale.toNat), []) := by
  simp only [positional, if_pos h, digitChars]
  split
  · next h0 => rw [h0, Nat.zero_mul]
  · next h0 => rw [toDigits_shift h0]

/-- All digits together and how many of them stand behind the point. -/
theorem positional_of_neg (h : d.scale < 0) :
    ofDigits 10 ((d.positional.1 ++ d.positional.2).map digitValue) = d.digits ∧
      d.positional.2.length = (-d.scale).toNat := by
  rw [positional, if_neg (Int.not_le.2 h)]
  dsimp only
  rw [digitChars]
  by_cases hlt : (-d.scale).toNat < (Nat.toDigits 10 d.digits).length
  · rw [if_pos hlt]
    dsimp only
    rw [List.take_append_drop, ofDigits_toDigits, List.length_drop]
    exact ⟨rfl, by omega⟩
  · rw [if_neg hlt]
    dsimp only
    have zeros (k : Nat) : (List.replicate k '0').map digitValue = List.replicate k 0 :=
      List.map_replicate
    rw [List.map_append, List.map_append, zeros, ← List.append_assoc, ofDigits_append,
      ofDigits_toDigits, List.length_append, List.length_replicate]
    have hzero (k : Nat) : ofDigits 10 (['0'].map digitValue ++ List.replicate k 0) = 0 :=
      ofDigits_zeros 10 (k + 1)
    rw [hzero, Nat.zero_mul, Nat.zero_add]
    exact ⟨rfl, by omega⟩

end CallGateway.Decimal
