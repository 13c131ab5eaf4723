import CallGateway.Proofs.Decimal
import CallGateway.Proofs.Json.Number

/-!
# Printed numbers stay in range

Reading a number rounds several times, so a text near the limit could be read as infinity. No number
is printed as such a text: what is printed of the greatest numbers is read, and the others are far
enough from the limit.
-/

namespace CallGateway.Json

open NumberText Text Binary64

/-! ## Significands -/

theorem mul_pow_le_foldl (n : Nat) (ds : List Nat) :
    n * 10 ^ ds.length ≤ ds.foldl (fun n d => n * 10 + d) n := by
  induction ds generalizing n with
  | nil => simp
  | cons d ds ih =>
    calc n * 10 ^ (d :: ds).length = n * 10 * 10 ^ ds.length := by
          rw [List.length_cons, Nat.pow_succ, Nat.mul_comm (10 ^ _), ← Nat.mul_assoc]
      _ ≤ (n * 10 + d) * 10 ^ ds.length := Nat.mul_le_mul_right _ (Nat.le_add_right _ _)
      _ ≤ ds.foldl (fun n d => n * 10 + d) (n * 10 + d) := ih _

/-- Digits that find no room count for nothing. -/
theorem appendDigits_le (n : Nat) (ds : List Nat) :
    (appendDigits n ds).1 * 10 ^ (appendDigits n ds).2.length ≤
      ds.foldl (fun n d => n * 10 + d) n := by
  induction ds generalizing n with
  | nil => simp [appendDigits]
  | cons d ds ih =>
    rw [appendDigits]
    split
    · exact ih _
    · exact mul_pow_le_foldl n (d :: ds)

theorem appendDigits_lt (h : n < 2 ^ 64) (ds : List Nat) : (appendDigits n ds).1 < 2 ^ 64 := by
  induction ds generalizing n with
  | nil => exact h
  | cons d ds ih =>
    rw [appendDigits]
    split
    · next h => exact ih h
    · exact h

theorem length_appendDigits (n : Nat) (ds : List Nat) :
    (appendDigits n ds).2.length ≤ ds.length := by
  induction ds generalizing n with
  | nil => exact Nat.le_refl _
  | cons d ds ih =>
    rw [appendDigits]
    split
    · exact Nat.le_succ_of_le (ih _)
    · exact Nat.le_refl _

/-- There is room for nineteen digits. -/
theorem appendDigits_room (h : n < 10 ^ k) (hds : ∀ d ∈ ds, d < 10) (hk : k + ds.length ≤ 19) :
    (appendDigits n ds).2 = [] := by
  induction ds generalizing n k with
  | nil => rfl
  | cons d ds ih =>
    have hd : d < 10 := hds d (.head _)
    rw [List.length_cons] at hk
    have hn : n * 10 + d < 10 ^ (k + 1) := by
      rw [Nat.pow_succ]
      omega
    have hp : 10 ^ (k + 1) ≤ 10 ^ 19 := Nat.pow_le_pow_right (by decide) (by omega)
    rw [appendDigits, if_pos (by omega)]
    exact ih hn (fun d h => hds d (.tail _ h)) (by omega)

theorem significand_lt (whole fraction : List Nat) : (significand whole fraction).1 < 2 ^ 64 :=
  appendDigits_lt (appendDigits_lt (by decide) _) _

/-! ## Moving the point -/

theorem near_nearestRank {n : Nat} (hn : 0 < n) : Near n 1 (nearestRank n 1) := by
  obtain ⟨-, hlt⟩ | hnear := nearestRank_spec hn Nat.one_pos
  · omega
  · exact hnear

theorem exists_powerOfTen? {k : Nat} (h : k ≤ 308) :
    ∃ y, powerOfTen? k = some y ∧ Near (10 ^ k) 1 y.rank ∧ one ≤ 2 * units y.rank := by
  have finite : ∀ k ≤ 308, 10 ^ k * (2 ^ 53 + 1) < 1 * infinity * 2 ^ 53 := by decide +kernel
  have hpos : 0 < 10 ^ k := Nat.pow_pos (by decide)
  obtain ⟨y, hy, hr⟩ := exists_ofFraction? false Nat.one_pos (finite k h)
  have hn := near_nearestRank hpos
  rw [← hr] at hn
  have hle : 1 * one ≤ 10 ^ k * one := Nat.mul_le_mul_right one hpos
  have hlow := hn.lower
  exact ⟨y, hy, hn, by omega⟩

/-- A number below `2 ^ 64` is not led out of range by a division. -/
theorem movePoint?_of_neg {x : Binary64} {scale : Int} (hx : units x.rank ≤ 2 ^ 65 * one)
    (hs : scale < 0) : ∃ y, movePoint? x scale = some y := by
  rw [movePoint?, if_neg (by omega)]
  dsimp only
  split
  · next h =>
    obtain ⟨y, hy, -, hle⟩ := exists_powerOfTen? h
    obtain ⟨z, hz, -⟩ := exists_div? (by decide) (by decide) hx hle
    exact ⟨z, by rw [hy]; exact hz⟩
  · obtain ⟨y, hy, -, hle⟩ := exists_powerOfTen? (Nat.le_refl 308)
    obtain ⟨z, hz, hz'⟩ := exists_div? (by decide) (by decide) hx hle
    obtain ⟨y', hy', -, hle'⟩ :=
      exists_powerOfTen? (Nat.min_le_right ((-scale).toNat - 308) 308)
    obtain ⟨z', hz'', -⟩ := exists_div? (by decide) (by decide) hz' hle'
    exact ⟨z', by simp only [hy, hz, hy', bind, Option.bind, hz'']⟩

/-- A multiplication does not lead out of range what stays clear of infinity. -/
theorem movePoint?_of_nonneg {x : Binary64} {n : Nat} {scale : Int}
    (hx : ofFraction? false n 1 = some x) (hs : 0 ≤ scale)
    (h : n * 10 ^ scale.toNat * (2 ^ 53 + 1) ^ 3 < infinity * (2 ^ 53) ^ 3) :
    ∃ y, movePoint? x scale = some y := by
  have hr := rank_of_ofFraction? hx
  rw [movePoint?, if_pos hs]
  split
  · exact ⟨x, rfl⟩
  · next hx₀ =>
    have hn : 0 < n := by
      apply Nat.pos_of_ne_zero
      rintro rfl
      exact hx₀ hr
    have hnear := near_nearestRank hn
    rw [← hr] at hnear
    have hscale : scale.toNat ≤ 308 := by
      apply Nat.le_of_not_lt
      intro hlt
      have infinite : ∃ k, k = 309 ∧ infinity * (2 ^ 53) ^ 3 ≤ 10 ^ k * (2 ^ 53 + 1) ^ 3 :=
        ⟨309, rfl, by decide +kernel⟩
      obtain ⟨k, hk, hlim⟩ := infinite
      have hp : 1 * 10 ^ k ≤ n * 10 ^ scale.toNat :=
        Nat.mul_le_mul hn (Nat.pow_le_pow_right (by decide) (by omega))
      have hp := Nat.mul_le_mul_right ((2 ^ 53 + 1) ^ 3) hp
      rw [Nat.one_mul] at hp
      exact Nat.lt_irrefl _ (Nat.lt_of_le_of_lt (Nat.le_trans hlim hp) h)
    obtain ⟨y, hy, hn', -⟩ := exists_powerOfTen? hscale
    obtain ⟨z, hz⟩ := exists_mul? hnear hn' h
    refine ⟨z, ?_⟩
    rw [if_neg (by omega)]
    simp only [hy, hz, bind, Option.bind]

/-! ## What a number is written as -/

/-- A decimal stands for `x`, as far as integers below it can tell: each integer below the decimal
is hardly greater than `x`. -/
def Tight (x : Binary64) (d : Decimal) : Prop :=
  ∀ c, c * 10 ^ (-d.scale).toNat ≤ d.digits * 10 ^ d.scale.toNat →
    c * one * 2 ^ 53 ≤ units x.rank * (2 ^ 53 + 1)

theorem mul_one_le_of_nearestRank {c num den : Nat} (hd : 0 < den) (h : c * den ≤ num) :
    c * one * 2 ^ 53 ≤ units (nearestRank num den) * (2 ^ 53 + 1) := by
  obtain rfl | hc := Nat.eq_zero_or_pos c
  · simp
  have hle : den ≤ num := Nat.le_trans (Nat.le_mul_of_pos_left den hc) h
  obtain ⟨-, hlt⟩ | hn := nearestRank_spec (Nat.lt_of_lt_of_le hd hle) hd
  · omega
  apply Nat.le_of_mul_le_mul_right _ hd
  calc c * one * 2 ^ 53 * den = c * den * one * 2 ^ 53 := by ac_rfl
    _ ≤ num * one * 2 ^ 53 := Nat.mul_le_mul_right _ (Nat.mul_le_mul_right _ h)
    _ ≤ units (nearestRank num den) * den * (2 ^ 53 + 1) := hn.lower
    _ = units (nearestRank num den) * (2 ^ 53 + 1) * den := Nat.mul_right_comm ..

theorem tight_of_readsBack {x : Binary64} {d : Decimal} (h : Decimal.readsBack x d = true) :
    Tight x d := by
  intro c hc
  have none : c = 0 → c * one * 2 ^ 53 ≤ units x.rank * (2 ^ 53 + 1) := by
    rintro rfl
    simp
  have hpow : 0 < 10 ^ (-d.scale).toNat := Nat.pow_pos (by decide)
  have h := beq_iff_eq.1 h
  rw [ofDecimal?] at h
  split at h
  · next h0 =>
    rw [h0, Nat.zero_mul] at hc
    exact none ((Nat.mul_eq_zero.1 (Nat.le_zero.1 hc)).resolve_right (Nat.ne_of_gt hpow))
  split at h
  · cases h
  split at h
  · next hs =>
    have h0 : (-d.scale).toNat = 0 := by omega
    rw [h0, Nat.pow_zero] at hc
    rw [rank_of_ofFraction? h]
    exact mul_one_le_of_nearestRank Nat.one_pos hc
  have h0 : d.scale.toNat = 0 := by omega
  rw [h0, Nat.pow_zero, Nat.mul_one] at hc
  split at h
  · -- So small a decimal has no integer below it but zero.
    next hs =>
    apply none
    apply Nat.eq_zero_of_not_pos
    intro hpos
    have hlog := @Nat.lt_log2_self d.digits
    have hp : 2 ^ (d.digits.log2 + 1) ≤ 2 ^ (-d.scale).toNat :=
      Nat.pow_le_pow_right (by decide) (by omega)
    have hp' : 2 ^ (-d.scale).toNat ≤ 10 ^ (-d.scale).toNat :=
      Nat.pow_le_pow_left (by decide) _
    have hle := Nat.le_mul_of_pos_left (10 ^ (-d.scale).toNat) hpos
    omega
  · rw [rank_of_ofFraction? h]
    exact mul_one_le_of_nearestRank hpow hc

/-- The leading digits of a decimal, with the zeros that belong behind them, stay clear of
infinity. -/
theorem Tight.lt {x : Binary64} {d : Decimal} (H : Tight x d) (hx : x.rank ≤ 2047 * 2 ^ 52 - 5)
    {c k s : Nat} (hc : c * 10 ^ k ≤ d.digits) (hs : (s : Int) = k + d.scale) :
    c * 10 ^ s * (2 ^ 53 + 1) ^ 3 < infinity * (2 ^ 53) ^ 3 := by
  have hle : c * 10 ^ s * 10 ^ (-d.scale).toNat ≤ d.digits * 10 ^ d.scale.toNat := by
    have hp : 10 ^ s * 10 ^ (-d.scale).toNat = 10 ^ k * 10 ^ d.scale.toNat := by
      rw [← Nat.pow_add, ← Nat.pow_add]
      congr 1
      omega
    rw [Nat.mul_assoc, hp, ← Nat.mul_assoc]
    exact Nat.mul_le_mul_right _ hc
  have hpow (n : Nat) : n ^ 4 = n ^ 3 * n := Nat.pow_succ _ _
  apply Nat.lt_of_mul_lt_mul_right (a := one * 2 ^ 53)
  calc c * 10 ^ s * (2 ^ 53 + 1) ^ 3 * (one * 2 ^ 53)
      = c * 10 ^ s * one * 2 ^ 53 * (2 ^ 53 + 1) ^ 3 := by ac_rfl
    _ ≤ units x.rank * (2 ^ 53 + 1) * (2 ^ 53 + 1) ^ 3 := Nat.mul_le_mul_right _ (H _ hle)
    _ = units x.rank * (2 ^ 53 + 1) ^ 4 := by
      rw [hpow]
      ac_rfl
    _ < infinity * one * (2 ^ 53) ^ 4 := units_lt_infinity hx
    _ = infinity * (2 ^ 53) ^ 3 * (one * 2 ^ 53) := by
      rw [hpow (2 ^ 53)]
      ac_rfl

/-! ## Reading -/

theorem exists_readNumber (negative : Bool) {whole fraction : List Nat} {exponent : Option Int}
    {n : Nat} {scale : Int} (hsig : significand whole fraction = (n, scale))
    (h : scale + exponent.getD 0 < 0 ∨
      n * 10 ^ (scale + exponent.getD 0).toNat * (2 ^ 53 + 1) ^ 3 < infinity * (2 ^ 53) ^ 3) :
    ∃ m, readNumber negative whole fraction exponent = some m := by
  have hn : n < 2 ^ 64 := by
    have h := significand_lt whole fraction
    rwa [hsig] at h
  have hle : n ≤ 2 ^ 64 * 1 := by omega
  obtain ⟨x, hx, hr⟩ :=
    exists_ofFraction? false Nat.one_pos (lt_infinity_of_le Nat.one_pos (by decide) hle)
  have hu := units_nearestRank_le Nat.one_pos (by decide) hle
  rw [← hr] at hu
  obtain ⟨y, hy⟩ : ∃ y, movePoint? x (scale + exponent.getD 0) = some y := by
    by_cases hs : scale + exponent.getD 0 < 0
    · exact movePoint?_of_neg hu hs
    · exact movePoint?_of_nonneg hx (by omega) (h.resolve_left hs)
  rw [readNumber]
  refine (Decidable.em _).elim (fun h => ⟨_, dif_pos h⟩) fun h =>
    ⟨.float { y with negative }, (dif_neg h).trans ?_⟩
  simp only [hsig, hx, hy, bind, Option.bind, pure]

/-- With few digits in front of the point there is room for all of them. -/
theorem significand_short {whole : List Nat} (hw : whole.length ≤ 16) (h : ∀ d ∈ whole, d < 10)
    (fraction : List Nat) : ∃ n scale, significand whole fraction = (n, scale) ∧ scale ≤ 0 := by
  have hroom : (appendDigits 0 whole).2 = [] :=
    appendDigits_room (by decide : 0 < 10 ^ 0) h (by omega)
  have hlen := length_appendDigits (appendDigits 0 whole).1 fraction
  refine ⟨_, _, rfl, ?_⟩
  rw [hroom, List.length_nil]
  omega

theorem significand_one {d : Nat} (hd : d < 10) (fraction : List Nat) :
    significand [d] fraction = ((appendDigits d fraction).1,
      (appendDigits d fraction).2.length - (fraction.length : Int)) := by
  have hfit : appendDigits 0 [d] = (d, []) := by
    rw [appendDigits, if_pos (by omega), appendDigits, Nat.zero_mul, Nat.zero_add]
  rw [significand, hfit]
  simp

theorem exists_reread_float {x : Binary64} (hx : x.rank ≤ 2047 * 2 ^ 52 - 5) :
    ∃ m, (Number.float x).reread = some m := by
  obtain ⟨w, f, e, hw, hf, he, hp, h⟩ := write_parts (Decimal.shortest Decimal.jsonStyle.tie x)
  have hprint : (Number.float x).print = Bytes.ofAscii (ofParts x.negative w f e) := by
    rw [Number.print, Decimal.Style.writeBinary, hp, ofParts]
  rw [reread_of_parts hw hf he hprint]
  have htight := tight_of_readsBack (Decimal.readsBack_shortest Decimal.jsonStyle.tie x)
  generalize Decimal.shortest Decimal.jsonStyle.tie x = d at h htight
  have hds {ds : List Char} (h : Digits ds) : ∀ d ∈ ds.map digitValue, d < 10 := by
    intro d hd
    obtain ⟨c, hc, rfl⟩ := List.mem_map.1 hd
    exact digitValue_lt (h c hc)
  obtain ⟨hlen, rfl⟩ | ⟨hlen, hdigits, hv⟩ := h
  · obtain ⟨n, scale, hsig, hs⟩ := significand_short (by rwa [List.length_map]) (hds hw.digits)
      (f.tail.map digitValue)
    have hn := significand_lt (w.map digitValue) (f.tail.map digitValue)
    rw [hsig] at hn
    apply exists_readNumber x.negative hsig
    rw [exponentValue, Option.getD_none, Int.add_zero]
    obtain hneg | rfl := Int.lt_or_eq_of_le hs
    · exact .inl hneg
    · refine .inr ?_
      have hlim : 2 ^ 64 * (2 ^ 53 + 1) ^ 3 < infinity * (2 ^ 53) ^ 3 := by decide +kernel
      rw [Int.toNat_zero, Nat.pow_zero, Nat.mul_one]
      exact Nat.lt_of_le_of_lt (Nat.mul_le_mul_right _ (Nat.le_of_lt hn)) hlim
  · obtain ⟨c, rfl⟩ := List.length_eq_one_iff.1 hlen
    have hsig := significand_one (hds hw.digits (digitValue c) (.head _)) (f.tail.map digitValue)
    have happ := appendDigits_le (digitValue c) (f.tail.map digitValue)
    have hvalue : (f.tail.map digitValue).foldl (fun n d => n * 10 + d) (digitValue c) =
        d.digits := by
      have h := Text.ofDigits_toDigits d.digits
      rw [← hdigits] at h
      simpa [Text.ofDigits] using h
    have hlead : d.leading = d.scale + (f.tail.map digitValue).length := by
      rw [Decimal.leading, Decimal.width, ← hdigits, List.length_map]
      simp only [List.length_append, List.length_singleton]
      omega
    rw [hvalue] at happ
    apply exists_readNumber x.negative hsig
    rw [hv, Option.getD_some, hlead]
    generalize appendDigits (digitValue c) (f.tail.map digitValue) = r at happ
    by_cases hs : (r.2.length : Int) + d.scale < 0
    · exact .inl (by omega)
    · exact .inr (htight.lt hx happ (by omega))

/-- The numbers next to infinity, of which no more than this can be said in general. -/
theorem reread_greatest : ∀ (negative : Bool) (i : Fin 4), (Number.float
    ⟨negative, 2047 * 2 ^ 52 - 1 - i, by omega⟩).reread.isSome = true := by
  decide +kernel

theorem Number.exists_reread (n : Number) : ∃ m, n.reread = some m := by
  cases n with
  | int n h => exact ⟨_, reread_int h⟩
  | float x =>
    by_cases hx : x.rank ≤ 2047 * 2 ^ 52 - 5
    · exact exists_reread_float hx
    · obtain ⟨negative, rank, hlt⟩ := x
      dsimp only at hx
      obtain ⟨i, hi, rfl⟩ : ∃ i, i < 4 ∧ rank = 2047 * 2 ^ 52 - 1 - i :=
        ⟨2047 * 2 ^ 52 - 1 - rank, by omega, by omega⟩
      exact Option.isSome_iff_exists.1 (reread_greatest negative ⟨i, hi⟩)

end CallGateway.Json
