import CallGateway.Basic
import CallGateway.Text.Alphanumeric
import CallGateway.Text.Lowercase

/-!
# Lower-casing of alphanumeric text

Lower-casing keeps a text alphanumeric and leaves alone what it has made, with one exception: the
small form of the dotted capital I ends in a combining dot, which is not alphanumeric.
-/

namespace CallGateway.Text

/-- The combining dot that the dotted capital I leaves behind. -/
def dotAbove : Char := Char.ofNat 0x307

/-! ## Sets of code points as bits -/

/-- The numbers of the ranges, a bit for each. -/
def rangeBits (rs : List (Nat × Nat)) : Nat :=
  rs.foldr (fun r m => (2 ^ (r.2 + 1 - r.1) - 1) <<< r.1 ||| m) 0

/-- The ranges ascend from `k` on. -/
def ascends : Nat → List (Nat × Nat) → Bool
  | _, [] => true
  | k, (low, high) :: rest => k.ble low && low.ble high && ascends (high + 1) rest

theorem inRanges_of_testBit {k : Nat} {rs : List (Nat × Nat)} (h : ascends k rs = true)
    (H : (rangeBits rs).testBit n = true) : k ≤ n ∧ inRanges rs n = true := by
  induction rs generalizing k with
  | nil => cases (Nat.zero_testBit n).symm.trans H
  | cons r rs ih =>
    simp only [ascends, Bool.and_eq_true, Nat.ble_eq] at h
    obtain ⟨⟨h1, h2⟩, h3⟩ := h
    simp only [rangeBits, List.foldr_cons, Nat.testBit_or, Nat.testBit_shiftLeft,
      Nat.testBit_two_pow_sub_one, Bool.or_eq_true, Bool.and_eq_true, decide_eq_true_eq] at H
    rcases H with H | H
    · rw [inRanges, if_neg (by omega), if_pos (by omega)]
      exact ⟨by omega, rfl⟩
    · obtain ⟨h4, h5⟩ := ih h3 H
      rw [inRanges, if_neg (by omega), if_neg (by omega)]
      exact ⟨by omega, h5⟩

/-- The `k` numbers from `a` on that lie `step` apart, a bit for each. -/
def stepBits (a step : Nat) : Nat → Nat
  | 0 => 0
  | k + 1 => stepBits a step k ||| 1 <<< (a + step * k)

theorem testBit_stepBits (h : j < k) : (stepBits a step k).testBit (a + step * j) = true := by
  induction k with
  | zero => cases h
  | succ k ih =>
    rw [stepBits, Nat.testBit_or, Bool.or_eq_true]
    rcases Nat.lt_succ_iff_lt_or_eq.1 h with h | rfl
    · exact .inl (ih h)
    · exact .inr (by simp)

namespace CapitalRun

def length (r : CapitalRun) : Nat := (r.last - r.first) / r.step + 1

/-- What the runs count from the numbers that `start` gives, together with `m`. -/
def union (start : CapitalRun → Nat) (m : Nat) (rs : List CapitalRun) : Nat :=
  rs.foldr (fun r m => stepBits (start r) r.step r.length ||| m) m

theorem testBit_union {r : CapitalRun} (hr : r ∈ rs)
    (h : (stepBits (start r) r.step r.length).testBit n = true) :
    (union start m rs).testBit n = true := by
  induction hr with
  | head => rw [union, List.foldr_cons, Nat.testBit_or, h, Bool.true_or]
  | tail _ _ ih => rw [union, List.foldr_cons, Nat.testBit_or, ← union, ih, Bool.or_true]

theorem testBit_union_base (h : m.testBit n = true) : (union start m rs).testBit n = true := by
  induction rs with
  | nil => exact h
  | cons r rs ih => rw [union, List.foldr_cons, Nat.testBit_or, ← union, ih, Bool.or_true]

theorem testBit_of_lower? {r : CapitalRun} (H : r.lower? c = some n) :
    (stepBits r.first r.step r.length).testBit c = true ∧
      (stepBits r.small r.step r.length).testBit n = true := by
  rw [lower?] at H
  split at H
  next h =>
    obtain ⟨h1, h2, h3⟩ := h
    have hj : (c - r.first) / r.step < r.length :=
      Nat.lt_succ_of_le (Nat.div_le_div_right (Nat.sub_le_sub_right h2 _))
    have hc : r.step * ((c - r.first) / r.step) = c - r.first :=
      Nat.mul_div_cancel' (Nat.dvd_of_mod_eq_zero h3)
    have bit (a : Nat) : (stepBits a r.step r.length).testBit (a + (c - r.first)) = true :=
      hc ▸ testBit_stepBits hj
    refine ⟨?_, Option.some.inj H ▸ bit r.small⟩
    have first := bit r.first
    rwa [Nat.add_sub_cancel' h1] at first
  next => cases H

end CapitalRun

/-- The capitals of the runs and the dotted capital I, a bit for each. -/
def capitals : Nat := CapitalRun.union (·.first) (1 <<< 0x130) capitalRuns

/-- The small forms of the runs, a bit for each. -/
def smallForms : Nat := CapitalRun.union (·.small) 0 capitalRuns

/-- Lower-casing leaves the character alone. -/
def isSmall (c : Char) : Bool :=
  c.toNat != 0x130 && (capitalRuns.findSome? (·.lower? c.toNat)).isNone

/-! ## What the tables say -/

/-- The alphanumeric ranges ascend and leave out the surrogates. The small forms lie in them, and no
small form is a capital. -/
theorem tables_sound : ascends 0 alphanumericRanges = true ∧
    (∀ r ∈ alphanumericRanges, r.2 < 0xd800 ∨ 0xdfff < r.1 ∧ r.2 < 0x110000) ∧
    smallForms &&& rangeBits alphanumericRanges = smallForms ∧ smallForms &&& capitals = 0 := by
  refine ⟨?_, ?_, ?_, ?_⟩ <;> decide +kernel

theorem not_isAlphanumeric_dotAbove : isAlphanumeric dotAbove = false := by decide

theorem not_isAlphanumeric_hyphen : isAlphanumeric '-' = false := by decide

theorem not_isSmall_sigma : isSmall 'Σ' = false := by decide

theorem small_sigma (h : d = 'ς' ∨ d = 'σ') : isSmall d ∧ isAlphanumeric d := by
  rcases h with rfl | rfl <;> decide

theorem small_i : isSmall 'i' ∧ isAlphanumeric 'i' := by decide

theorem isSmall_dotAbove : isSmall dotAbove := by decide

/-! ## Characters -/

theorem lowerChar_of_isSmall (h : isSmall c) : lowerChar c = [c] := by
  simp only [isSmall, Bool.and_eq_true, bne_iff_ne, Option.isNone_iff_eq_none] at h
  rw [lowerChar, if_neg h.1, h.2]

/-- The capitals below `0xc0` are those from A to Z. -/
theorem isSmall_of_lt {c : Char} (h : c.toNat < 0xc0) (h' : c.toNat < 0x41 ∨ 0x5a < c.toNat) :
    isSmall c := by
  have runs : ∀ r ∈ capitalRuns, 0xc0 ≤ r.first ∨ 0x41 ≤ r.first ∧ r.last ≤ 0x5a := by
    decide +kernel
  have none : capitalRuns.findSome? (·.lower? c.toNat) = none := by
    refine List.findSome?_eq_none_iff.2 fun r hr => ?_
    have := runs r hr
    exact if_neg (by omega)
  have hd : c.toNat ≠ 0x130 := by omega
  simp only [isSmall, none, Option.isNone_none, Bool.and_true, bne_iff_ne]
  exact hd

theorem toNat_ofNat_of_inRanges (h : inRanges alphanumericRanges n = true) :
    (Char.ofNat n).toNat = n := by
  obtain ⟨r, hr, h1, h2⟩ := exists_of_inRanges h
  have hv : n.isValidChar := by
    have := tables_sound.2.1 r hr
    rw [Nat.isValidChar]; omega
  rw [Char.ofNat, dif_pos hv]
  rfl

/-- What a capital becomes is alphanumeric and small. -/
theorem small_of_lower? {r : CapitalRun} (hr : r ∈ capitalRuns) (H : r.lower? c = some n) :
    isAlphanumeric (Char.ofNat n) ∧ isSmall (Char.ofNat n) := by
  obtain ⟨ascending, -, alphanumeric, lower⟩ := tables_sound
  have small : smallForms.testBit n = true :=
    CapitalRun.testBit_union hr (CapitalRun.testBit_of_lower? H).2
  have plain : capitals.testBit n = false := by
    have h : (smallForms &&& capitals).testBit n = false := by
      rw [lower, Nat.zero_testBit]
    rwa [Nat.testBit_and, small, Bool.true_and] at h
  have ha : inRanges alphanumericRanges n = true := by
    rw [← alphanumeric, Nat.testBit_and, Bool.and_eq_true] at small
    exact (inRanges_of_testBit ascending small.2).2
  have hn := toNat_ofNat_of_inRanges ha
  have hd : n ≠ 0x130 := by
    rintro rfl
    have : capitals.testBit 0x130 = true := CapitalRun.testBit_union_base (by decide)
    exact Bool.false_ne_true (plain.symm.trans this)
  have hs : capitalRuns.findSome? (·.lower? n) = none := by
    refine List.findSome?_eq_none_iff.2 fun s hs => ?_
    refine Option.eq_none_iff_forall_ne_some.2 fun m h => ?_
    have : capitals.testBit n = true :=
      CapitalRun.testBit_union hs (CapitalRun.testBit_of_lower? h).1
    exact Bool.false_ne_true (plain.symm.trans this)
  refine ⟨by rwa [isAlphanumeric, hn], ?_⟩
  simp only [isSmall, hn, hs, Option.isNone_none, Bool.and_true, bne_iff_ne]
  exact hd

/-- The small form of an alphanumeric character, the dotted capital I apart. -/
theorem lowerChar_eq (ha : isAlphanumeric c) (hc : c ≠ 'İ') :
    ∃ d, lowerChar c = [d] ∧ isAlphanumeric d ∧ isSmall d := by
  have hd : c.toNat ≠ 0x130 := fun h => hc (Char.ext (UInt32.toNat_inj.1 h))
  rw [lowerChar, if_neg hd]
  cases h : capitalRuns.findSome? (·.lower? c.toNat) with
  | some n =>
    obtain ⟨r, hr, H⟩ := List.exists_of_findSome?_eq_some h
    exact ⟨_, rfl, small_of_lower? hr H⟩
  | none => exact ⟨c, rfl, ha, by simp [isSmall, hd, h]⟩

/-! ## Texts -/

theorem lowerFrom_of_isSmall (before : List Char) (h : ∀ c ∈ cs, isSmall c) :
    lowerFrom before cs = cs := by
  induction cs generalizing before with
  | nil => rfl
  | cons c cs ih =>
    have hc := h c (.head _)
    have hs : c ≠ 'Σ' := by rintro rfl; exact Bool.false_ne_true (not_isSmall_sigma.symm.trans hc)
    rw [lowerFrom, if_neg hs, lowerChar_of_isSmall hc, ih _ fun d hd => h d (.tail _ hd)]
    rfl

theorem lowerFrom_ne_nil (before : List Char) (h : cs ≠ []) : lowerFrom before cs ≠ [] := by
  cases cs with
  | nil => exact absurd rfl h
  | cons c cs =>
    rw [lowerFrom]
    refine List.append_ne_nil_of_left_ne_nil ?_ _
    split
    · split <;> exact List.cons_ne_nil _ _
    · rw [lowerChar]
      split
      · exact List.cons_ne_nil _ _
      · split <;> exact List.cons_ne_nil _ _

theorem lowerCase_of_isSmall (h : ∀ c ∈ cs, isSmall c) : lowerCase cs = cs :=
  lowerFrom_of_isSmall [] h

/-- Everything in the small form of an alphanumeric text is alphanumeric and small, except for what
becomes of dotted capital I. -/
theorem mem_lowerFrom {before : List Char} (ha : ∀ c ∈ cs, isAlphanumeric c)
    (hd : d ∈ lowerFrom before cs) : isSmall d ∧ (isAlphanumeric d ∨ d = dotAbove ∧ 'İ' ∈ cs) := by
  induction cs generalizing before with
  | nil => cases hd
  | cons c cs ih =>
    rw [lowerFrom, List.mem_append] at hd
    rcases hd with hd | hd
    · split at hd
      · have : d = 'ς' ∨ d = 'σ' := by
          split at hd
          · exact .inl (List.mem_singleton.1 hd)
          · exact .inr (List.mem_singleton.1 hd)
        exact (small_sigma this).imp_right .inl
      · by_cases hc : c = 'İ'
        · subst hc
          rw [lowerChar, if_pos (by decide)] at hd
          rcases List.mem_cons.1 hd with rfl | hd
          · exact small_i.imp_right .inl
          · cases List.mem_singleton.1 hd
            exact ⟨isSmall_dotAbove, .inr ⟨rfl, .head _⟩⟩
        · obtain ⟨d', h, h1, h2⟩ := lowerChar_eq (ha c (.head _)) hc
          rw [h, List.mem_singleton] at hd
          subst hd
          exact ⟨h2, .inl h1⟩
    · obtain ⟨h1, h2⟩ := ih (fun x hx => ha x (.tail _ hx)) hd
      exact ⟨h1, h2.imp_right fun h => ⟨h.1, .tail _ h.2⟩⟩

theorem dotAbove_mem_lowerFrom (before : List Char) (h : 'İ' ∈ cs) :
    dotAbove ∈ lowerFrom before cs := by
  induction cs generalizing before with
  | nil => cases h
  | cons c cs ih =>
    rw [lowerFrom, List.mem_append]
    rcases List.mem_cons.1 h with rfl | h
    · rw [if_neg (by decide)]
      exact .inl (by decide)
    · exact .inr (ih _ h)

end CallGateway.Text
