import CallGateway.Json.Print
import CallGateway.Json.Scan
import CallGateway.Proofs.Text.Digits

/-!
# Numbers in JSON text

Every number is printed as JSON writes numbers, and a text of that form is read to its end: the
scanner stops where the value does.
-/

namespace CallGateway.Json

/-- What may stand behind a value: white space, and what goes on with or ends a container. -/
def endBytes : Bytes := [byte ',', byte ']', byte '\x7d', 0x20, 0x09, 0x0a, 0x0d]

/-- A value may end here. -/
def Ends (rest : Bytes) : Prop := ∀ b r, rest = b :: r → b ∈ endBytes

theorem ends_nil : Ends [] := by
  intro b r h
  cases h

theorem ends_cons (h : b ∈ endBytes) : Ends (b :: r) := by
  intro _ _ h'
  cases h'
  exact h

/-- No digit comes next. -/
def NoDigit (rest : Bytes) : Prop := ∀ b r, rest = b :: r → digit? b = none

theorem Ends.noDigit (h : Ends rest) : NoDigit rest := by
  intro b r hr
  have none : ∀ b ∈ endBytes, digit? b = none := by decide +kernel
  exact none b (h b r hr)

namespace NumberText

open Text (Digits digitValue digits_append digits_zeros digits_toDigits)

/-- A zero, or digits that do not start with one. -/
def Whole (cs : List Char) : Prop :=
  cs = ['0'] ∨ ∃ c ds, cs = c :: ds ∧ c.isDigit = true ∧ c ≠ '0' ∧ Digits ds

def Fraction (cs : List Char) : Prop := cs = [] ∨ ∃ ds, cs = '.' :: ds ∧ ds ≠ [] ∧ Digits ds

/-- The letter in either case, a sign or none, and digits. -/
def Exponent (cs : List Char) : Prop :=
  cs = [] ∨ ∃ letter sign ds, cs = letter :: (sign ++ ds) ∧ (letter = 'e' ∨ letter = 'E') ∧
    (sign = [] ∨ sign = ['+'] ∨ sign = ['-']) ∧ ds ≠ [] ∧ Digits ds

theorem digit?_byte {c : Char} (h : c.isDigit = true) :
    digit? (CallGateway.byte c) = some (digitValue c) := by
  have hc := Text.toNat_of_isDigit h
  have hb : (CallGateway.byte c).toNat = c.toNat := by
    rw [CallGateway.byte, Nat.toUInt8, UInt8.toNat_ofNat']
    omega
  rw [digit?, if_pos, hb, digitValue]
  rw [UInt8.le_iff_toNat_le, UInt8.le_iff_toNat_le, hb]
  exact hc

theorem ofAscii_cons (c : Char) (cs : List Char) :
    Bytes.ofAscii (c :: cs) = CallGateway.byte c :: Bytes.ofAscii cs := rfl

theorem ofAscii_append (cs ds : List Char) :
    Bytes.ofAscii (cs ++ ds) = Bytes.ofAscii cs ++ Bytes.ofAscii ds := List.map_append

theorem scanDigits_of_noDigit (h : NoDigit rest) : scanDigits rest = ([], rest) := by
  cases rest with
  | nil => rfl
  | cons b r => rw [scanDigits, h b r rfl]

theorem scanDigits_append (hcs : Digits cs) (h : NoDigit rest) :
    scanDigits (Bytes.ofAscii cs ++ rest) = (cs.map digitValue, rest) := by
  induction cs with
  | nil => exact scanDigits_of_noDigit h
  | cons c cs ih =>
    rw [ofAscii_cons, List.cons_append, scanDigits, digit?_byte (hcs c (.head _)),
      ih fun d hd => hcs d (.tail _ hd)]
    rfl

theorem Whole.digits (h : Whole cs) : Digits cs := by
  rcases h with rfl | ⟨c, ds, rfl, hc, -, hds⟩
  · intro c hc
    cases List.mem_singleton.1 hc
    decide
  · intro d hd
    rcases List.mem_cons.1 hd with rfl | hd
    · exact hc
    · exact hds d hd

theorem digitValue_ne_zero {c : Char} (hc : c.isDigit = true) (h0 : c ≠ '0') :
    digitValue c ≠ 0 := by
  intro h
  have h1 := Text.toNat_of_isDigit hc
  rw [digitValue] at h
  apply h0
  apply Char.ext
  apply UInt32.toNat_inj.1
  show c.toNat = 48
  omega

theorem scanWhole_append (hw : Whole w) (h : NoDigit rest) :
    scanWhole (Bytes.ofAscii w ++ rest) = some (w.map digitValue, rest) := by
  rw [scanWhole, scanDigits_append hw.digits h]
  rcases hw with rfl | ⟨c, ds, rfl, hc, h0, -⟩
  · rfl
  · cases hv : digitValue c with
    | zero => exact absurd hv (digitValue_ne_zero hc h0)
    | succ n =>
      rw [List.map_cons, hv]
      split
      · next h => cases h
      · next h => cases h
      · next h => cases h; rfl

theorem scanFraction_append (hf : Fraction f) (h : NoDigit rest)
    (hp : ∀ b r, rest = b :: r → b ≠ byte '.') :
    scanFraction (Bytes.ofAscii f ++ rest) = some (f.tail.map digitValue, rest) := by
  rcases hf with rfl | ⟨ds, rfl, hne, hds⟩
  · cases rest with
    | nil => rfl
    | cons b r =>
      show scanFraction (b :: r) = _
      rw [scanFraction, if_neg (hp b r rfl)]; rfl
  · rw [ofAscii_cons, List.cons_append, scanFraction, if_pos rfl, scanDigits_append hds h]
    cases ds with
    | nil => exact absurd rfl hne
    | cons d ds => rfl

/-- What an exponent is worth. -/
def exponentValue : List Char → Option Int
  | [] => none
  | _ :: '-' :: ds => some (-(ofDigits (ds.map digitValue) : Int))
  | _ :: '+' :: ds => some (ofDigits (ds.map digitValue) : Nat)
  | _ :: ds => some (ofDigits (ds.map digitValue) : Nat)

theorem byte_ne_of_isDigit {c : Char} (h : c.isDigit = true) {b : UInt8} (hb : digit? b = none) :
    CallGateway.byte c ≠ b := by
  intro h'
  rw [← h', digit?_byte h] at hb
  cases hb

theorem exponentValue_unsigned {letter d : Char} (h : d.isDigit = true) (ds : List Char) :
    exponentValue (letter :: d :: ds) = some (ofDigits ((d :: ds).map digitValue) : Nat) := by
  have hm : d ≠ '-' := by rintro rfl; revert h; decide
  have hp : d ≠ '+' := by rintro rfl; revert h; decide
  rw [exponentValue.eq_def]
  split
  · next h' => cases h'
  · next h' => cases h'; exact absurd rfl hm
  · next h' => cases h'; exact absurd rfl hp
  · next h' => cases h'; rfl

theorem scanExponent_append (he : Exponent e) (h : Ends rest) :
    scanExponent (Bytes.ofAscii e ++ rest) = some (exponentValue e, rest) := by
  obtain rfl | ⟨letter, sign, ds, rfl, hl, hs, hne, hds⟩ := he
  · cases rest with
    | nil => rfl
    | cons b r =>
      have letterless : ∀ b ∈ endBytes, ¬ (b = byte 'e' ∨ b = byte 'E') := by decide +kernel
      show scanExponent (b :: r) = _
      rw [scanExponent.eq_def]
      exact if_neg (letterless b (h b r rfl))
  · have hb : CallGateway.byte letter = byte 'e' ∨ CallGateway.byte letter = byte 'E' := by
      obtain rfl | rfl := hl
      · exact .inl rfl
      · exact .inr rfl
    have hd := scanDigits_append hds h.noDigit
    obtain ⟨d, ds, rfl⟩ := List.exists_cons_of_ne_nil hne
    obtain rfl | rfl | rfl := hs
    · have hm := byte_ne_of_isDigit (hds d (.head _)) (b := byte '-') (by decide)
      have hp := byte_ne_of_isDigit (hds d (.head _)) (b := byte '+') (by decide)
      rw [List.nil_append, exponentValue_unsigned (hds d (.head _))]
      simp only [ofAscii_cons, List.cons_append] at hd ⊢
      simp only [scanExponent, if_pos hb, if_neg hm, if_neg hp, hd]
      rfl
    · rw [List.singleton_append, ofAscii_cons, ofAscii_cons, List.cons_append, List.cons_append]
      have hp : byte '+' ≠ byte '-' := by decide
      simp only [scanExponent, if_pos hb, if_neg hp, if_true, hd]
      rfl
    · rw [List.singleton_append, ofAscii_cons, ofAscii_cons, List.cons_append, List.cons_append]
      simp only [scanExponent, if_pos hb, if_true, hd]
      rfl

/-- Sign, digits, point and exponent, as JSON has them. -/
def ofParts (negative : Bool) (w f e : List Char) : List Char :=
  (if negative then ['-'] else []) ++ (w ++ (f ++ e))

theorem noDigit_exponent (he : Exponent e) (h : Ends rest) : NoDigit (Bytes.ofAscii e ++ rest) := by
  obtain rfl | ⟨letter, sign, ds, rfl, rfl | rfl, -⟩ := he
  · exact h.noDigit
  all_goals
    intro b r hr
    cases hr
    decide

theorem noDigit_fraction (hf : Fraction f) (he : Exponent e) (h : Ends rest) :
    NoDigit (Bytes.ofAscii f ++ (Bytes.ofAscii e ++ rest)) := by
  rcases hf with hf | ⟨ds, rfl, -⟩
  · subst hf
    show NoDigit (Bytes.ofAscii e ++ rest)
    exact noDigit_exponent he h
  · rintro b r hr
    cases hr
    decide

theorem noPoint_exponent (he : Exponent e) (h : Ends rest) :
    ∀ b r, Bytes.ofAscii e ++ rest = b :: r → b ≠ byte '.' := by
  obtain rfl | ⟨letter, sign, ds, rfl, rfl | rfl, -⟩ := he
  · intro b r hr
    have pointless : ∀ b ∈ endBytes, b ≠ byte '.' := by decide +kernel
    exact pointless b (h b r hr)
  all_goals
    intro b r hr
    cases hr
    decide

theorem Whole.head (hw : Whole w) : ∃ c cs, w = c :: cs ∧ c.isDigit = true := by
  rcases hw with rfl | ⟨c, ds, rfl, hc, -⟩
  · exact ⟨_, _, rfl, by decide⟩
  · exact ⟨c, ds, rfl, hc⟩

/-- `bs` is a number as JSON has it, and it is worth `n`; none stands for what is beyond every
range. -/
inductive IsNumber : Option Number → Bytes → Prop
  | mk (negative : Bool) (hw : Whole w) (hf : Fraction f) (he : Exponent e) :
    IsNumber (readNumber negative (w.map digitValue) (f.tail.map digitValue) (exponentValue e))
      (Bytes.ofAscii (ofParts negative w f e))

theorem IsNumber.scan (H : IsNumber n bs) (h : Ends rest) :
    scanNumber (bs ++ rest) = some (n, rest) := by
  obtain ⟨negative, hw, hf, he⟩ := H
  rename_i w f e
  have unsigned : Bytes.ofAscii (w ++ (f ++ e)) ++ rest =
      Bytes.ofAscii w ++ (Bytes.ofAscii f ++ (Bytes.ofAscii e ++ rest)) := by
    rw [ofAscii_append, ofAscii_append, List.append_assoc, List.append_assoc]
  have hw' := scanWhole_append hw (noDigit_fraction hf he h)
  have hf' := scanFraction_append hf (noDigit_exponent he h) (noPoint_exponent he h)
  have he' := scanExponent_append he h
  cases negative with
  | true =>
    rw [ofParts, if_pos rfl, List.singleton_append, ofAscii_cons, List.cons_append, unsigned,
      scanNumber]
    dsimp only
    rw [if_pos rfl]
    simp only [hw', hf', he', bind, Option.bind, pure]
  | false =>
    obtain ⟨c, cs, rfl, hc⟩ := hw.head
    have hb : byte c ≠ byte '-' := byte_ne_of_isDigit hc (by decide)
    rw [ofParts, if_neg (by decide), List.nil_append, unsigned, scanNumber.eq_def]
    have hcons : Bytes.ofAscii (c :: cs) ++ (Bytes.ofAscii f ++ (Bytes.ofAscii e ++ rest)) =
      byte c :: (Bytes.ofAscii cs ++ (Bytes.ofAscii f ++ (Bytes.ofAscii e ++ rest))) := rfl
    rw [hcons] at hw' ⊢
    dsimp only
    rw [if_neg hb]
    simp only [hw', hf', he', bind, Option.bind, pure]

/-! ## How numbers are printed -/

theorem digitChar_ne_zero {n : Nat} (h : n < 10) (h0 : n ≠ 0) : n.digitChar ≠ '0' := by
  revert h0
  revert n
  decide

theorem toDigits_of_ne_zero {n : Nat} (h : n ≠ 0) :
    ∃ c ds, Nat.toDigits 10 n = c :: ds ∧ c ≠ '0' := by
  induction n using Nat.strongRecOn with
  | ind n ih =>
    rw [Nat.toDigits_eq_if (by decide)]
    split
    · next hn => exact ⟨_, _, rfl, digitChar_ne_zero hn h⟩
    · obtain ⟨c, ds, hd, hc⟩ := ih (n / 10) (by omega) (by omega)
      rw [hd]
      exact ⟨c, _, rfl, hc⟩

theorem whole_toDigits (n : Nat) : Whole (Nat.toDigits 10 n) := by
  by_cases h : n = 0
  · subst h
    exact .inl rfl
  · obtain ⟨c, ds, hd, hc⟩ := toDigits_of_ne_zero h
    have hn := digits_toDigits n
    rw [hd] at hn ⊢
    exact .inr ⟨c, ds, rfl, hn c (.head _), hc, fun d hd => hn d (.tail _ hd)⟩

theorem positional_parts (d : Decimal) :
    Whole d.positional.1 ∧ Digits d.positional.2 := by
  have hw := whole_toDigits d.digits
  have hd := digits_toDigits d.digits
  rw [Decimal.positional]
  dsimp only
  split
  · split
    · exact ⟨hw, nofun⟩
    · next h0 =>
      obtain ⟨c, ds, hc, h⟩ := toDigits_of_ne_zero h0
      refine ⟨?_, nofun⟩
      rw [hc] at hd
      rw [Decimal.digitChars, hc]
      refine .inr ⟨c, _, rfl, hd c (.head _), h, digits_append (fun d h => hd d (.tail _ h)) ?_⟩
      exact digits_zeros _
  · split
    · next hs hl =>
      rw [Decimal.digitChars] at hl ⊢
      refine ⟨?_, fun c hc => hd c (List.mem_of_mem_drop hc)⟩
      by_cases h0 : d.digits = 0
      · rw [h0, Nat.toDigits_zero, List.length_singleton] at hl
        omega
      · obtain ⟨c, ds, hc, h⟩ := toDigits_of_ne_zero h0
        rw [hc] at hd hl ⊢
        have hk : (c :: ds).length - (-d.scale).toNat =
            ds.length - (-d.scale).toNat + 1 ∨ (-d.scale).toNat = 0 := by
          rw [List.length_cons] at hl ⊢; omega
        have hk := hk.resolve_right (by omega)
        rw [hk, List.take_succ_cons]
        exact .inr ⟨c, _, rfl, hd c (.head _), h,
          fun x hx => hd x (.tail _ (List.mem_of_mem_take hx))⟩
    · exact ⟨.inl rfl, digits_append (digits_zeros _) hd⟩

theorem length_positional {d : Decimal} (h : Decimal.jsonStyle.isPositional d = true) :
    d.positional.1.length ≤ 16 := by
  have hlead : d.digits = 0 ∨ d.scale + ((Nat.toDigits 10 d.digits).length : Int) ≤ 16 := by
    obtain h | h := Bool.or_eq_true_iff.1 h
    · exact .inl (beq_iff_eq.1 h)
    · have hlt : d.leading < 16 := of_decide_eq_true (Bool.and_eq_true_iff.1 h).2
      rw [Decimal.leading, Decimal.width] at hlt
      exact .inr (by omega)
  have hzero : d.digits = 0 → (Nat.toDigits 10 d.digits).length = 1 := by
    intro h0
    rw [h0]
    rfl
  rw [Decimal.positional]
  dsimp only
  rw [Decimal.digitChars]
  split
  · split
    · next h0 => exact Nat.le_trans (Nat.le_of_eq (hzero h0)) (by decide)
    · rw [List.length_append, List.length_replicate]
      omega
  · split
    · rw [List.length_take]
      omega
    · exact Nat.one_le_of_lt (by decide : 0 < 16)

/-- An exponent is written behind a sign. -/
theorem exponent_scientific (x : Int) :
    Exponent ('e' :: (if x < 0 then '-' else '+') :: Nat.toDigits 10 x.natAbs) ∧
      exponentValue ('e' :: (if x < 0 then '-' else '+') :: Nat.toDigits 10 x.natAbs) =
        some x := by
  have hn : ofDigits ((Nat.toDigits 10 x.natAbs).map digitValue) = x.natAbs :=
    Text.ofDigits_toDigits _
  constructor
  · refine .inr ⟨'e', [if x < 0 then '-' else '+'], _, rfl, .inl rfl, ?_, Nat.toDigits_ne_nil,
      digits_toDigits _⟩
    split
    · exact .inr (.inr rfl)
    · exact .inr (.inl rfl)
  · split
    all_goals
      rw [exponentValue, hn]
      apply congrArg some
      omega

/-- How a number is written: positionally with few digits in front of the point, or with one digit
in front of the point and the exponent of that digit. -/
theorem write_parts (d : Decimal) : ∃ w f e, Whole w ∧ Fraction f ∧ Exponent e ∧
    Decimal.jsonStyle.write d = w ++ (f ++ e) ∧ (w.length ≤ 16 ∧ e = [] ∨
      w.length = 1 ∧ w ++ f.tail = Nat.toDigits 10 d.digits ∧
        exponentValue e = some d.leading) := by
  rw [Decimal.Style.write]
  split
  · next hp =>
    obtain ⟨hw, hf⟩ := positional_parts d
    have hlen := length_positional hp
    split
    · next w h =>
      rw [h] at hw hlen
      exact ⟨w, ['.', '0'], [], hw, .inr ⟨['0'], rfl, by decide, digits_zeros 1⟩, .inl rfl, rfl,
        .inl ⟨hlen, rfl⟩⟩
    · next w f hne h =>
      rw [h] at hw hf hlen
      refine ⟨w, '.' :: f, [], hw, .inr ⟨f, rfl, fun h0 => hne h0, hf⟩, .inl rfl, ?_,
        .inl ⟨hlen, rfl⟩⟩
      rw [List.append_nil]
  · next hp =>
    have h0 : d.digits ≠ 0 := fun h0 => hp (by
      rw [Decimal.Style.isPositional, Decimal.jsonStyle, h0]; rfl)
    obtain ⟨c, ds, hc, h⟩ := toDigits_of_ne_zero h0
    have hd := digits_toDigits d.digits
    rw [hc] at hd
    have hw : Whole [c] := .inr ⟨c, [], rfl, hd c (.head _), h, nofun⟩
    obtain ⟨he, hv⟩ := exponent_scientific d.leading
    rw [Decimal.scientific, Decimal.digitChars, hc, Decimal.digitChars]
    cases ds with
    | nil => exact ⟨[c], [], _, hw, .inl rfl, he, rfl, .inr ⟨rfl, rfl, hv⟩⟩
    | cons c' ds =>
      refine ⟨[c], '.' :: c' :: ds, _, hw, .inr ⟨_, rfl, List.cons_ne_nil _ _, fun x hx => ?_⟩,
        he, rfl, .inr ⟨rfl, rfl, hv⟩⟩
      exact hd x (.tail _ hx)

end NumberText

open NumberText Text

theorem Number.exists_parts (n : Number) : ∃ negative w f e, Whole w ∧ Fraction f ∧ Exponent e ∧
    n.print = Bytes.ofAscii (ofParts negative w f e) := by
  cases n with
  | int n _ =>
    refine ⟨n < 0, Nat.toDigits 10 n.natAbs, [], [], whole_toDigits _, .inl rfl, .inl rfl, ?_⟩
    rw [print, printInt, ofParts, List.append_nil, List.append_nil, Decimal.digitChars]
    simp only [decide_eq_true_eq]
  | float x =>
    obtain ⟨w, f, e, hw, hf, he, h, -⟩ := write_parts (Decimal.shortest Decimal.jsonStyle.tie x)
    exact ⟨x.negative, w, f, e, hw, hf, he, by rw [print, Decimal.Style.writeBinary, h, ofParts]⟩

/-- What a printed number is read as. -/
def Number.reread (n : Number) : Option Number := (scanNumber n.print).bind (·.1)

theorem reread_of_parts {n : Number} (hw : Whole w) (hf : Fraction f) (he : Exponent e)
    (hp : n.print = Bytes.ofAscii (ofParts negative w f e)) :
    n.reread =
      readNumber negative (w.map digitValue) (f.tail.map digitValue) (exponentValue e) := by
  have hs := (IsNumber.mk negative hw hf he).scan ends_nil
  rw [← hp, List.append_nil] at hs
  rw [Number.reread, hs]; rfl

theorem Number.isNumber_print (n : Number) : IsNumber n.reread n.print := by
  obtain ⟨negative, w, f, e, hw, hf, he, hp⟩ := n.exists_parts
  rw [reread_of_parts hw hf he hp, hp]
  exact .mk negative hw hf he

/-- Integers are read back. -/
theorem Number.reread_int {n : Int} (h : -2 ^ 63 ≤ n ∧ n < 2 ^ 64) :
    (Number.int n h).reread = some (.int n h) := by
  have hp : (Number.int n h).print =
      Bytes.ofAscii (ofParts (n < 0) (Nat.toDigits 10 n.natAbs) [] []) := by
    rw [print, printInt, ofParts, List.append_nil, List.append_nil, Decimal.digitChars]
    simp only [decide_eq_true_eq]
  rw [reread_of_parts (whole_toDigits _) (.inl rfl) (.inl rfl) hp, readNumber]
  have hn : (if decide (n < 0) then -(n.natAbs : Int) else n.natAbs) = n := by
    simp only [decide_eq_true_eq]
    split <;> omega
  have hd : ofDigits ((Nat.toDigits 10 n.natAbs).map digitValue) = n.natAbs :=
    Text.ofDigits_toDigits n.natAbs
  simp only [hd, hn, List.tail_nil, List.map_nil, exponentValue, true_and]
  rw [dif_pos]
  refine ⟨fun hneg h0 => ?_, h⟩
  simp only [decide_eq_true_eq] at hneg
  omega

theorem NumberText.IsNumber.head (H : IsNumber n bs) :
    ∃ b r, bs = b :: r ∧ (b = byte '-' ∨ (digit? b).isSome = true) := by
  obtain ⟨negative, hw, hf, he⟩ := H
  obtain ⟨c, cs, rfl, hc⟩ := hw.head
  cases negative with
  | true => exact ⟨_, _, rfl, .inl rfl⟩
  | false =>
    refine ⟨_, _, rfl, .inr ?_⟩
    show (digit? (CallGateway.byte c)).isSome = true
    rw [digit?_byte hc]; rfl

end CallGateway.Json
