import CallGateway.Proofs.Decimal
import CallGateway.Proofs.Json.Number
import CallGateway.Proofs.Settings.Tree

/-!
# What a text is taken for

A text from the environment is taken for a boolean, an integer or a number if it spells one, and
where a text is wanted after all, what it has been taken for is shown again. The text has survived
this exactly if it spells nothing, or if it is what booleans, integers or numbers are shown as.
-/

namespace CallGateway.Settings

open Text Json.NumberText

namespace Scalar

/-! ## Digits -/

theorem spanDigits_digits {cs rest : List Char} (H : Digits cs)
    (hend : ∀ c ds, rest = c :: ds → decimalValue? c = none) :
    spanDigits decimalValue? (cs ++ rest) = (cs.map digitValue, rest) :=
  spanDigits_append (fun c hc => decimalValue?_of_isDigit (H c hc)) hend

section
variable {whole fraction : List Char}

theorem spanDigits_whole (H : Digits whole) :
    spanDigits decimalValue? whole = (whole.map digitValue, []) := by
  have h : spanDigits decimalValue? (whole ++ []) = _ := spanDigits_digits H nofun
  rwa [List.append_nil] at h

theorem spanDigits_point (H : Digits whole) :
    spanDigits decimalValue? (whole ++ '.' :: fraction) =
      (whole.map digitValue, '.' :: fraction) := by
  refine spanDigits_digits H fun c ds h => ?_
  rw [← (List.cons.inj h).1]
  decide

theorem readNat?_whole (H : Digits whole) (ne : whole ≠ []) :
    readNat? whole = some (ofDigits 10 (whole.map digitValue)) := by
  obtain ⟨c, cs, rfl⟩ := List.exists_cons_of_ne_nil ne
  rw [readNat?, spanDigits_whole H]
  rfl

theorem readNat?_point (H : Digits whole) : readNat? (whole ++ '.' :: fraction) = none := by
  rw [readNat?, spanDigits_point H]
  cases whole <;> rfl

theorem readDecimal?_whole (H : Digits whole) (ne : whole ≠ []) :
    readDecimal? whole = some (ofDigits 10 (whole.map digitValue), 0) := by
  obtain ⟨c, cs, rfl⟩ := List.exists_cons_of_ne_nil ne
  rw [readDecimal?, spanDigits_whole H]
  simp [readExponent?]

theorem readDecimal?_point (H : Digits whole) (ne : whole ≠ []) (F : Digits fraction) :
    readDecimal? (whole ++ '.' :: fraction) =
      some (ofDigits 10 ((whole ++ fraction).map digitValue), -(fraction.length : Int)) := by
  obtain ⟨c, cs, rfl⟩ := List.exists_cons_of_ne_nil ne
  rw [readDecimal?, spanDigits_point H]
  simp [spanDigits_whole F, readExponent?]

end

theorem readNat?_toDigits (n : Nat) : readNat? (Nat.toDigits 10 n) = some n := by
  rw [readNat?_whole (digits_toDigits n) Nat.toDigits_ne_nil, ofDigits_toDigits]

/-! ## Signs -/

/-- A text behind a minus or without sign. -/
def signed (negative : Bool) (cs : List Char) : String :=
  String.ofList ((if negative then ['-'] else []) ++ cs)

/-- The text starts with a digit. -/
def Leads (cs : List Char) : Prop := ∃ c rest, cs = c :: rest ∧ c.isDigit = true

theorem leads_toDigits (n : Nat) : Leads (Nat.toDigits 10 n) := (whole_toDigits n).head

theorem readSign_signed {cs : List Char} (h : Leads cs) (negative : Bool) :
    readSign (signed negative cs).toList = (negative, cs) := by
  rw [signed, String.toList_ofList]
  cases negative with
  | true => rfl
  | false =>
    obtain ⟨c, rest, rfl, hc⟩ := h
    show readSign (c :: rest) = (false, c :: rest)
    rw [readSign.eq_def]
    split
    · next h => rw [(List.cons.inj h).1] at hc; exact absurd hc (by decide)
    · next h => rw [(List.cons.inj h).1] at hc; exact absurd hc (by decide)
    · rfl

/-- An integer and its sign. -/
def signedInt (negative : Bool) (n : Nat) : Int := if negative then -n else n

theorem readInt64?_signed (negative : Bool) (n : Nat) :
    readInt64? (signed negative (Nat.toDigits 10 n)) =
      if -2 ^ 63 ≤ signedInt negative n ∧ signedInt negative n < 2 ^ 63 then
        some (Int64.ofInt (signedInt negative n))
      else none := by
  simp only [readInt64?, readSign_signed (leads_toDigits n), readNat?_toDigits,
    Option.bind_eq_bind, Option.bind_some]
  rfl

/-- Every integer but zero is shown with its sign, and zero without. -/
theorem toString_signedInt {negative : Bool} {n : Nat} (h : negative = true → n ≠ 0) :
    toString (signedInt negative n) = signed negative (Nat.toDigits 10 n) := by
  rw [Int.toString_eq_repr, Int.repr_eq_if, signedInt]
  cases negative with
  | true =>
    have hn : ¬ (0 : Int) ≤ -n := by have := h rfl; omega
    have habs : (- -(n : Int)).toNat = n := by omega
    rw [if_pos rfl, if_neg hn, habs, Nat.repr_eq_ofList_toDigits, signed, if_pos rfl,
      String.ofList_append]
  | false =>
    rw [if_neg Bool.false_ne_true, if_pos (Int.natCast_nonneg n), Int.toNat_natCast,
      Nat.repr_eq_ofList_toDigits]
    rfl

theorem exists_signedInt (i : Int) :
    ∃ negative n, i = signedInt negative n ∧ (negative = true → n ≠ 0) := by
  by_cases h : i < 0
  · exact ⟨true, i.natAbs, by rw [signedInt, if_pos rfl]; omega, fun _ => by omega⟩
  · exact ⟨false, i.natAbs, by rw [signedInt, if_neg Bool.false_ne_true]; omega, nofun⟩

/-- Integers of 64 bits are read back. -/
theorem readInt64?_toString (n : Int64) : readInt64? (toString n.toInt) = some n := by
  obtain ⟨negative, k, hk, hsign⟩ := exists_signedInt n.toInt
  have hbounds : -2 ^ 63 ≤ n.toInt ∧ n.toInt < 2 ^ 63 := ⟨n.le_toInt, n.toInt_lt⟩
  rw [hk] at hbounds
  rw [hk, toString_signedInt hsign, readInt64?_signed, if_pos hbounds, ← hk, Int64.ofInt_toInt]

/-! ## Numbers -/

section
variable {d : Decimal}

theorem plain_isPositional (d : Decimal) : Decimal.plainStyle.isPositional d = true := rfl

theorem write_of_nonneg (h : 0 ≤ d.scale) :
    Decimal.plainStyle.write d = Nat.toDigits 10 (d.digits * 10 ^ d.scale.toNat) := by
  rw [Decimal.Style.write, if_pos (plain_isPositional d), Decimal.positional_of_nonneg h]
  rfl

theorem write_of_neg (h : d.scale < 0) :
    Decimal.plainStyle.write d = d.positional.1 ++ '.' :: d.positional.2 := by
  obtain ⟨-, hlen⟩ := Decimal.positional_of_neg h
  rw [Decimal.Style.write, if_pos (plain_isPositional d)]
  split
  · next whole hparts =>
    rw [hparts, List.length_nil] at hlen
    omega
  · next hparts => rw [hparts]

theorem leads_write (d : Decimal) : Leads (Decimal.plainStyle.write d) := by
  by_cases h : 0 ≤ d.scale
  · rw [write_of_nonneg h]
    exact leads_toDigits _
  · obtain ⟨c, cs, hcs, hc⟩ := (positional_parts d).1.head
    rw [write_of_neg (Int.not_le.1 h), hcs]
    exact ⟨c, _, rfl, hc⟩

/-- The digits that are read are those that have been written, and zeros where there is room for
them in front of the point. -/
theorem readDecimal?_write (d : Decimal) : readDecimal? (Decimal.plainStyle.write d) =
    some (d.digits * 10 ^ d.scale.toNat, min d.scale 0) := by
  by_cases h : 0 ≤ d.scale
  · rw [write_of_nonneg h, readDecimal?_whole (digits_toDigits _) Nat.toDigits_ne_nil,
      ofDigits_toDigits, Int.min_eq_right h]
  · have h := Int.not_le.1 h
    obtain ⟨hdigits, hlen⟩ := Decimal.positional_of_neg h
    obtain ⟨hwhole, hfraction⟩ := positional_parts d
    have ne : d.positional.1 ≠ [] := by
      obtain ⟨c, cs, hcs, -⟩ := hwhole.head
      rw [hcs]
      exact List.cons_ne_nil c cs
    have hscale : d.scale.toNat = 0 ∧ -(((-d.scale).toNat : Nat) : Int) = min d.scale 0 := by omega
    rw [write_of_neg h, readDecimal?_point hwhole.digits ne hfraction, hdigits, hlen, hscale.1,
      hscale.2, Nat.pow_zero, Nat.mul_one]

end

/-- The zero below zero, which is shown as the integer zero behind a sign. -/
def negativeZero : Float64 := .finite { Binary64.zero with negative := true }

theorem eq_negativeZero {x : Binary64} (hneg : x.negative = true) (hrank : x.rank = 0) :
    .finite x = negativeZero := by
  obtain ⟨negative, rank, hlt⟩ := x
  cases hneg
  cases hrank
  rfl

/-- The decimal with which a number is shown. -/
def shown (x : Binary64) : Decimal := Decimal.shortest Decimal.plainStyle.tie x

theorem display_finite (x : Binary64) :
    Float64.display (.finite x) = signed x.negative (Decimal.plainStyle.write (shown x)) := rfl

/-- Numbers are read back. -/
theorem readFloat64?_display (x : Float64) : readFloat64? x.display = some x := by
  cases x with
  | finite x =>
    have back := Decimal.ofDecimal?_shift
      (Decimal.readsBack_iff.1 (Decimal.readsBack_shortest Decimal.plainStyle.tie x))
    simp only [readFloat64?, display_finite, readSign_signed (leads_write _), readDecimal?_write,
      shown, back]
  | infinite negative => cases negative <;> decide +kernel
  | nan => decide +kernel

/-- Where a number is shown as an integer, that integer is shown in the same way. -/
theorem toString_of_readInt64?_display {x : Float64} {n : Int64} (hx : x ≠ negativeZero)
    (h : readInt64? x.display = some n) : toString n.toInt = x.display := by
  cases x with
  | finite x =>
    rw [display_finite] at h ⊢
    by_cases hs : 0 ≤ (shown x).scale
    · rw [write_of_nonneg hs] at h ⊢
      -- Only zero has no digits, and the zero below zero is ruled out.
      have hsign : x.negative = true → (shown x).digits * 10 ^ (shown x).scale.toNat ≠ 0 := by
        intro hneg h0
        have hten : 10 ^ (shown x).scale.toNat ≠ 0 := Nat.ne_of_gt (Nat.pow_pos (by decide))
        have hdigits := (Nat.mul_eq_zero.1 h0).resolve_right hten
        exact hx (eq_negativeZero hneg (Decimal.digits_shortest_eq_zero hdigits))
      rw [readInt64?_signed] at h
      split at h
      · next hbounds =>
        rw [← Option.some.inj h, Int64.toInt_ofInt_of_le hbounds.1 hbounds.2,
          toString_signedInt hsign]
      · cases h
    · have hwhole := (positional_parts (shown x)).1.digits
      rw [write_of_neg (Int.not_le.1 hs)] at h
      have lead := leads_write (shown x)
      rw [write_of_neg (Int.not_le.1 hs)] at lead
      simp only [readInt64?, readSign_signed lead, readNat?_point hwhole, Option.bind_eq_bind,
        Option.bind_none] at h
      cases h
  | infinite negative =>
    have none : readInt64? (Float64.infinite negative).display = none := by
      cases negative <;> decide +kernel
    rw [none] at h
    cases h
  | nan =>
    have none : readInt64? Float64.nan.display = none := by decide +kernel
    rw [none] at h
    cases h

/-! ## Booleans -/

/-- The text spells no boolean in any case. -/
def NoBoolean (s : String) : Prop := Node.canonical s ≠ "true" ∧ Node.canonical s ≠ "false"

instance : DecidablePred NoBoolean := fun _ => inferInstanceAs (Decidable (_ ∧ _))

/-- What has neither letters nor anything beyond them is no boolean. -/
theorem noBoolean_of_lt {s : String} (h : ∀ c ∈ s.toList, c.toNat < 0x41) : NoBoolean s := by
  have hs : Node.canonical s = s :=
    Node.IsPlain.canonical fun c hc => ⟨Nat.lt_trans (h c hc) (by decide), .inl (h c hc)⟩
  have letter : ∀ word, (∃ c ∈ word.toList, ¬ c.toNat < 0x41) → Node.canonical s ≠ word := by
    rintro word ⟨c, hc, hn⟩ rfl
    rw [hs] at hc
    exact hn (h c hc)
  exact ⟨letter _ ⟨'t', by decide, by decide⟩, letter _ ⟨'f', by decide, by decide⟩⟩

theorem lt_of_digits {cs : List Char} (H : Digits cs) : ∀ c ∈ cs, c.toNat < 0x41 :=
  fun c hc => Nat.lt_of_le_of_lt (toNat_of_isDigit (H c hc)).2 (by decide)

theorem noBoolean_signed {cs : List Char} (h : ∀ c ∈ cs, c.toNat < 0x41) (negative : Bool) :
    NoBoolean (signed negative cs) := by
  refine noBoolean_of_lt fun c hc => ?_
  rw [signed, String.toList_ofList] at hc
  rcases List.mem_append.1 hc with hc | hc
  · cases negative with
    | true => rw [List.mem_singleton.1 hc]; decide
    | false => cases hc
  · exact h c hc

theorem noBoolean_toString (i : Int) : NoBoolean (toString i) := by
  obtain ⟨negative, n, rfl, hsign⟩ := exists_signedInt i
  rw [toString_signedInt hsign]
  exact noBoolean_signed (lt_of_digits (digits_toDigits n)) negative

theorem noBoolean_display (x : Float64) : NoBoolean x.display := by
  cases x with
  | finite x =>
    rw [display_finite]
    refine noBoolean_signed ?_ x.negative
    by_cases h : 0 ≤ (shown x).scale
    · rw [write_of_nonneg h]
      exact lt_of_digits (digits_toDigits _)
    · obtain ⟨hwhole, hfraction⟩ := positional_parts (shown x)
      rw [write_of_neg (Int.not_le.1 h)]
      refine List.forall_mem_append.2 ⟨lt_of_digits hwhole.digits, ?_⟩
      exact List.forall_mem_cons.2 ⟨by decide, lt_of_digits hfraction⟩
  | infinite negative => cases negative <;> decide +kernel
  | nan => decide +kernel

end Scalar

/-! ## Texts -/

open Scalar

/-- Texts that are what they are taken for. -/
inductive Verbatim : String → Prop
  | bool (b : Bool) : Verbatim (if b then "true" else "false")
  | int (n : Int64) : Verbatim (toString n.toInt)
  | float (x : Float64) (h : x ≠ negativeZero) : Verbatim x.display
  /-- No boolean, no integer of 64 bits and no number. -/
  | text (s : String) (hbool : NoBoolean s) (hint : readInt64? s = none)
    (hfloat : readFloat64? s = none) : Verbatim s

/-- What a text is taken for is no table. -/
theorem solid_ofText (s : String) : Node.Solid (Node.ofText s) := by
  intro below
  simp only [Node.ofText]
  split
  · simp only [Node.onto]
  split
  · simp only [Node.onto]
  split
  · simp only [Node.onto]
  split <;> simp only [Node.onto]

theorem ofText_of_int {s : String} {n : Int64} (hbool : NoBoolean s)
    (hint : readInt64? s = some n) : Node.ofText s = .int n := by
  simp only [Node.ofText, if_neg hbool.1, if_neg hbool.2, hint]

theorem ofText_of_float {s : String} {x : Float64} (hbool : NoBoolean s)
    (hint : readInt64? s = none) (hfloat : readFloat64? s = some x) :
    Node.ofText s = .float x := by
  simp only [Node.ofText, if_neg hbool.1, if_neg hbool.2, hint, hfloat]

theorem string_of_verbatim {s : String} (V : Verbatim s) :
    Reader.string (Node.ofText s) = some s := by
  cases V with
  | bool b => cases b <;> decide +kernel
  | int n => rw [ofText_of_int (noBoolean_toString _) (readInt64?_toString n)]; rfl
  | float x h =>
    -- A whole number that has 64 bits is taken for an integer.
    cases hint : readInt64? x.display with
    | some n =>
      rw [ofText_of_int (noBoolean_display x) hint, Reader.string,
        toString_of_readInt64?_display h hint]
    | none =>
      rw [ofText_of_float (noBoolean_display x) hint (readFloat64?_display x), Reader.string]
  | text _ hbool hint hfloat =>
    simp only [Node.ofText, if_neg hbool.1, if_neg hbool.2, hint, hfloat, Reader.string]

/-- Every text is a text again, and it is the same one if it shows what it is taken for. -/
theorem exists_string_ofText (s : String) :
    ∃ t, Reader.string (Node.ofText s) = some t ∧ (t = s ↔ Verbatim s) := by
  have same {t : String} (h : Reader.string (Node.ofText s) = some t) (V : t = s → Verbatim s) :
      t = s ↔ Verbatim s :=
    ⟨V, fun V => Option.some.inj (h.symm.trans (string_of_verbatim V))⟩
  by_cases htrue : Node.canonical s = "true"
  · have h : Reader.string (Node.ofText s) = some "true" := by
      simp only [Node.ofText, if_pos htrue, Reader.string, if_true]
    exact ⟨_, h, same h fun hs => hs ▸ .bool true⟩
  by_cases hfalse : Node.canonical s = "false"
  · have h : Reader.string (Node.ofText s) = some "false" := by
      simp only [Node.ofText, if_neg htrue, if_pos hfalse, Reader.string, Bool.false_eq_true,
        if_false]
    exact ⟨_, h, same h fun hs => hs ▸ .bool false⟩
  cases hint : readInt64? s with
  | some n =>
    have h : Reader.string (Node.ofText s) = some (toString n.toInt) := by
      rw [ofText_of_int ⟨htrue, hfalse⟩ hint]; rfl
    exact ⟨_, h, same h fun hs => hs ▸ .int n⟩
  | none =>
    cases hfloat : readFloat64? s with
    | some x =>
      have h : Reader.string (Node.ofText s) = some x.display := by
        rw [ofText_of_float ⟨htrue, hfalse⟩ hint hfloat]; rfl
      refine ⟨_, h, same h fun hs => ?_⟩
      -- The zero below zero would have been taken for an integer.
      have hx : x ≠ negativeZero := by
        rintro rfl
        rw [← hs] at hint
        exact absurd hint (by decide +kernel)
      exact hs ▸ .float x hx
    | none =>
      have V : Verbatim s := .text s ⟨htrue, hfalse⟩ hint hfloat
      exact ⟨s, string_of_verbatim V, iff_of_true rfl V⟩

end CallGateway.Settings
