import CallGateway.Uuid

/-! Identifiers are read back from the form in which they are shown. -/

namespace CallGateway.Uuid

theorem hexValue?_digitChar : ∀ d < 16, Text.hexValue? d.digitChar = some d := by decide

theorem length_writeHex (k n : Nat) : (writeHex k n).length = k := by
  induction k generalizing n with
  | zero => rfl
  | succ k ih => rw [writeHex, List.length_append, ih]; rfl

theorem readHex_append (n : Nat) (cs ds : List Char) :
    readHex n (cs ++ ds) = (readHex n cs).bind fun m => readHex m ds := by
  induction cs generalizing n with
  | nil => rfl
  | cons c cs ih =>
    rw [List.cons_append, readHex, readHex]
    cases Text.hexValue? c with
    | none => rfl
    | some d => exact ih (n * 16 + d)

theorem readHex_writeHex (H : m < 16 ^ k) (n : Nat) :
    readHex n (writeHex k m) = some (n * 16 ^ k + m) := by
  induction k generalizing m with
  | zero =>
    obtain rfl : m = 0 := by simpa using H
    rw [Nat.pow_zero, Nat.mul_one]; rfl
  | succ k ih =>
    have hm : m / 16 < 16 ^ k := by
      rw [Nat.pow_succ] at H
      omega
    have hd := hexValue?_digitChar (m % 16) (Nat.mod_lt m (by decide))
    rw [writeHex, readHex_append, ih hm, Option.bind_some, readHex, hd, Option.bind_some, readHex,
      Nat.pow_succ, ← Nat.mul_assoc]
    congr 1
    omega

theorem ofHex?_hex (u : Uuid) : ofHex? u.hex = some u := by
  have h : u.hex.length = 32 := length_writeHex ..
  rw [ofHex?, if_pos h, hex, readHex_writeHex u.bits.isLt, Nat.zero_mul,
    Nat.zero_add, Option.map_some, BitVec.ofNat_toNat, BitVec.setWidth_eq]

theorem unhyphenate_hyphenate (ks : List Nat) {cs : List Char} (H : cs.length = ks.sum) :
    unhyphenate ks (hyphenate ks cs) = some cs := by
  induction ks generalizing cs with
  | nil =>
    obtain rfl := List.eq_nil_of_length_eq_zero H
    rfl
  | cons k ks ih =>
    rw [List.sum_cons] at H
    cases ks with
    | nil => exact if_pos H
    | cons l ks =>
      have hk : (cs.take k).length = k := by rw [List.length_take]; omega
      have hd : (cs.drop k).length = (l :: ks).sum := by rw [List.length_drop]; omega
      rw [hyphenate, unhyphenate, List.drop_left' hk, List.take_left' hk]
      · show (unhyphenate (l :: ks) _).map _ = _
        rw [ih hd, Option.map_some, List.take_append_drop]
      · exact nofun
      · exact nofun

theorem length_hyphenate (ks : List Nat) {cs : List Char} (H : cs.length = ks.sum) :
    (hyphenate ks cs).length = ks.sum + (ks.length - 1) := by
  induction ks generalizing cs with
  | nil => exact H
  | cons k ks ih =>
    rw [List.sum_cons] at H ⊢
    cases ks with
    | nil => exact H
    | cons l ks =>
      have hd : (cs.drop k).length = (l :: ks).sum := by rw [List.length_drop]; omega
      rw [hyphenate, List.length_append, List.length_cons, ih hd, List.length_take]
      · simp only [List.length_cons]
        omega
      · exact nofun

/-- The form in which an identifier is shown is read as that identifier. -/
theorem parse?_display (u : Uuid) : parse? u.display = some u := by
  have h : u.hex.length = groupLengths.sum := length_writeHex ..
  have hl : (hyphenate groupLengths u.hex).length = 36 := length_hyphenate groupLengths h
  rw [parse?, display, String.toList_ofList]
  rw [if_neg (by omega), if_pos hl, ofHyphenated?, unhyphenate_hyphenate groupLengths h,
    Option.bind_some, ofHex?_hex]

end CallGateway.Uuid
