import CallGateway.Basic
import CallGateway.Text.Reader

/-!
# Decimal digits

The digits of a number write that number, behind as many zeros as there may be, and a reader of
digits takes them off the front of a text.
-/

namespace CallGateway.Text

def Digits (cs : List Char) : Prop := ∀ c ∈ cs, c.isDigit = true

def digitValue (c : Char) : Nat := c.toNat - 0x30

theorem digits_append (hcs : Digits cs) (hds : Digits ds) : Digits (cs ++ ds) := by
  intro c hc
  obtain hc | hc := List.mem_append.1 hc
  · exact hcs c hc
  · exact hds c hc

theorem digits_zeros (n : Nat) : Digits (List.replicate n '0') := by
  intro c hc
  rw [(List.mem_replicate.1 hc).2]
  decide

theorem digits_toDigits (n : Nat) : Digits (Nat.toDigits 10 n) := by
  intro c hc
  exact Nat.isDigit_of_mem_toDigits (by decide) (by decide) hc

theorem toNat_of_isDigit {c : Char} (h : c.isDigit = true) : 48 ≤ c.toNat ∧ c.toNat ≤ 57 := by
  simp only [Char.isDigit, Bool.and_eq_true, decide_eq_true_eq] at h
  exact ⟨UInt32.le_iff_toNat_le.1 h.1, UInt32.le_iff_toNat_le.1 h.2⟩

theorem digitValue_lt {c : Char} (h : c.isDigit = true) : digitValue c < 10 := by
  have := toNat_of_isDigit h
  rw [digitValue]
  omega

theorem digitValue_digitChar : ∀ d < 10, digitValue d.digitChar = d := by decide

theorem ofDigits_append (base : Nat) (as bs : List Nat) :
    ofDigits base (as ++ bs) = ofDigits base as * base ^ bs.length + ofDigits base bs := by
  have shift (bs : List Nat) (n : Nat) : bs.foldl (fun n d => n * base + d) n =
      n * base ^ bs.length + bs.foldl (fun n d => n * base + d) 0 := by
    induction bs generalizing n with
    | nil => simp
    | cons b bs ih =>
      rw [List.foldl_cons, List.foldl_cons, ih (n * base + b), ih (0 * base + b),
        List.length_cons, Nat.pow_succ]
      simp only [Nat.add_mul, Nat.zero_mul, Nat.zero_add, Nat.mul_assoc, Nat.add_assoc,
        Nat.mul_comm base]
  rw [ofDigits, List.foldl_append, shift]; rfl

theorem ofDigits_zeros (base n : Nat) : ofDigits base (List.replicate n 0) = 0 := by
  induction n with
  | zero => rfl
  | succ n ih => rw [List.replicate_succ', ofDigits_append, ih]; simp [ofDigits]

theorem ofDigits_toDigits (n : Nat) :
    ofDigits 10 ((Nat.toDigits 10 n).map digitValue) = n := by
  induction n using Nat.strongRecOn with
  | ind n ih =>
    rw [Nat.toDigits_eq_if (by decide)]
    split
    · next h => simp [ofDigits, digitValue_digitChar n h]
    · next h =>
      have hd := digitValue_digitChar (n % 10) (Nat.mod_lt n (by decide))
      rw [List.map_append, List.map_singleton, ofDigits_append, hd, ih (n / 10) (by omega)]
      simp only [ofDigits, List.length_singleton, List.foldl_cons, List.foldl_nil]
      omega

/-! ## Reading -/

/-- No digit comes next. -/
def EndsDigits (cs : List Char) : Prop := ∀ c rest, cs = c :: rest → decimalValue? c = none

theorem decimalValue?_of_isDigit {c : Char} (h : c.isDigit = true) :
    decimalValue? c = some (digitValue c) := by
  have hc := toNat_of_isDigit h
  rw [decimalValue?, if_pos]
  · rfl
  · exact ⟨UInt32.le_iff_toNat_le.2 hc.1, UInt32.le_iff_toNat_le.2 hc.2⟩

/-- Digits are taken off the front: all of them, if no more of them are wanted or follow. -/
theorem takeDigits_append (H : Digits ds) (most : Nat) (rest : List Char) (hm : ds.length ≤ most)
    (hend : ds.length = most ∨ EndsDigits rest) :
    takeDigits decimalValue? most (ds ++ rest) = (ds.map digitValue, rest) := by
  induction ds generalizing most with
  | nil =>
    cases most with
    | zero => rfl
    | succ most =>
      cases rest with
      | nil => rfl
      | cons c rest =>
        have hc : decimalValue? c = none := by
          obtain h | h := hend
          · cases h
          · exact h c rest rfl
        simp only [List.nil_append, takeDigits, hc, List.map_nil]
  | cons d ds ih =>
    cases most with
    | zero => simp at hm
    | succ most =>
      have hd := decimalValue?_of_isDigit (H d (.head _))
      have ih := ih (fun c hc => H c (.tail _ hc)) most (Nat.le_of_succ_le_succ hm)
        (hend.imp_left Nat.succ.inj)
      simp only [List.cons_append, takeDigits, hd, ih, List.map_cons]

/-- All digits are taken off the front. -/
theorem spanDigits_append {value? : Char → Option Nat} {value : Char → Nat} {cs rest : List Char}
    (H : ∀ c ∈ cs, value? c = some (value c)) (hend : ∀ c ds, rest = c :: ds → value? c = none) :
    spanDigits value? (cs ++ rest) = (cs.map value, rest) := by
  induction cs with
  | nil =>
    cases rest with
    | nil => rfl
    | cons c ds => simp only [List.nil_append, spanDigits, hend c ds rfl, List.map_nil]
  | cons c cs ih =>
    obtain ⟨hc, hcs⟩ := List.forall_mem_cons.1 H
    simp only [List.cons_append, spanDigits, hc, ih hcs, List.map_cons]

/-! ## Any base -/

/-- The digits write the number in the shortest way. -/
structure Spells (base n : Nat) (ds : List Nat) : Prop where
  value : ofDigits base ds = n
  ne_nil : ds ≠ []
  lead : ds.head? = some 0 → ds = [0]
  length_le : ∀ k, 0 < k → n < base ^ k → ds.length ≤ k

theorem exists_toDigits {base : Nat} (hb : 1 < base) (n : Nat) : ∃ ds,
    Nat.toDigits base n = ds.map Nat.digitChar ∧ (∀ d ∈ ds, d < base) ∧ Spells base n ds := by
  induction n using Nat.strongRecOn with
  | ind n ih =>
    rw [Nat.toDigits_eq_if hb]
    split
    · next h =>
      refine ⟨[n], rfl, by simpa using h, ⟨by simp [ofDigits], List.cons_ne_nil _ _, ?_, ?_⟩⟩
      · simp
      · exact fun k hk _ => hk
    · next h =>
      have hlt : n / base < n := Nat.div_lt_self (by omega) hb
      obtain ⟨ds, hds, hbound, S⟩ := ih (n / base) hlt
      have hmod : n % base < base := Nat.mod_lt n (by omega)
      refine ⟨ds ++ [n % base], by rw [hds, List.map_append]; rfl, ?_, ⟨?_, ?_, ?_, ?_⟩⟩
      · exact List.forall_mem_append.2 ⟨hbound, by simpa using hmod⟩
      · rw [ofDigits_append, S.value]
        simp only [ofDigits, List.length_singleton, List.foldl_cons, List.foldl_nil, Nat.pow_one,
          Nat.zero_mul, Nat.zero_add]
        rw [Nat.mul_comm, Nat.div_add_mod]
      · exact List.append_ne_nil_of_left_ne_nil S.ne_nil _
      · intro hlead
        -- A leading zero would be all of the number without its last digit.
        obtain ⟨d, ds, rfl⟩ := List.exists_cons_of_ne_nil S.ne_nil
        have hzero := S.value
        rw [S.lead hlead] at hzero
        have : 0 < n / base := Nat.div_pos (Nat.le_of_not_lt h) (by omega)
        simp [ofDigits] at hzero
        omega
      · intro k hk hn
        obtain ⟨k, rfl⟩ := Nat.exists_eq_succ_of_ne_zero (Nat.ne_of_gt hk)
        rw [List.length_append, List.length_singleton]
        have hkpos : 0 < k := by
          refine Nat.pos_of_ne_zero fun h0 => ?_
          rw [h0, Nat.pow_one] at hn
          exact h hn
        have := S.length_le k hkpos (by rw [Nat.div_lt_iff_lt_mul (by omega)]; exact hn)
        omega

/-- The digits of a number are read from the front of a text as far as they go. -/
theorem spanDigits_toDigits {base : Nat} (hb : 1 < base) {value? : Char → Option Nat}
    (hv : ∀ d < base, value? d.digitChar = some d) (n : Nat) {rest : List Char}
    (hend : ∀ c ds, rest = c :: ds → value? c = none) :
    ∃ ds, spanDigits value? (Nat.toDigits base n ++ rest) = (ds, rest) ∧ Spells base n ds := by
  obtain ⟨ds, hds, hbound, S⟩ := exists_toDigits hb n
  refine ⟨ds, ?_, S⟩
  have hread : ∀ c ∈ ds.map Nat.digitChar, value? c = some ((value? c).getD 0) := by
    intro c hc
    obtain ⟨d, hd, rfl⟩ := List.mem_map.1 hc
    rw [hv d (hbound d hd)]; rfl
  rw [hds, spanDigits_append hread hend, List.map_map]
  congr 1
  refine (List.map_congr_left fun d hd => ?_).trans (List.map_id' ds)
  rw [Function.comp_apply, hv d (hbound d hd)]; rfl

end CallGateway.Text
