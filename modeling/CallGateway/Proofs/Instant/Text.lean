import CallGateway.Instant.Text
import CallGateway.Proofs.Text.Digits

/-!
# Instants are read back

The text of an instant is read part by part: each part takes its digits and stops at the mark behind
them, whatever the year and however long the fraction. Leap seconds are kept.
-/

namespace CallGateway.Instant

open Text

/-! ## Padded numbers -/

theorem digits_padded (w n : Nat) : Digits (padded w n) :=
  digits_append (digits_zeros _) (digits_toDigits n)

theorem length_padded {w : Nat} (hw : 0 < w) (h : n < 10 ^ w) : (padded w n).length = w := by
  have hlen := (Nat.length_toDigits_le_iff (by decide) hw).2 h
  simp only [padded, List.length_append, List.length_replicate]
  omega

theorem ofDigits_padded (w n : Nat) : ofDigits 10 ((padded w n).map digitValue) = n := by
  have hz : digitValue '0' = 0 := rfl
  simp only [padded, List.map_append, List.map_replicate, hz]
  rw [ofDigits_append, ofDigits_zeros, ofDigits_toDigits, Nat.zero_mul, Nat.zero_add]

theorem padded_ne_nil (w n : Nat) : padded w n ≠ [] := by
  simp [padded, Nat.toDigits_ne_nil]

/-! ## Characters -/

theorem not_isBlankChar_of_isDigit {c : Char} (h : c.isDigit = true) : isBlankChar c = false := by
  have hc := toNat_of_isDigit h
  have small : ∀ n < 58, 48 ≤ n → inRanges blankRanges n = false := by decide
  exact small c.toNat (by omega) hc.1

theorem trimStart_cons {c : Char} (h : isBlankChar c = false) (cs : List Char) :
    trimStart (c :: cs) = c :: cs := by
  rw [trimStart, List.dropWhile_cons_of_neg (by simp [h])]

theorem trimStart_digits (hds : Digits ds) (hne : ds ≠ []) (rest : List Char) :
    trimStart (ds ++ rest) = ds ++ rest := by
  obtain ⟨d, ds, rfl⟩ := List.exists_cons_of_ne_nil hne
  exact trimStart_cons (not_isBlankChar_of_isDigit (hds d (.head _))) _

theorem endsDigits_cons {c : Char} (h : decimalValue? c = none) (cs : List Char) :
    EndsDigits (c :: cs) := by
  intro _ _ h'
  cases h'
  exact h

theorem readMark_trimStart {c : Char} (h : isBlankChar c = false) (cs : List Char) :
    readMark c (trimStart (c :: cs)) = some cs := by
  rw [trimStart_cons h]
  exact if_pos rfl

/-! ## Parts -/

/-- All digits in front are read, if no more are wanted or follow. -/
theorem readNat_padded (w n most : Nat) (rest : List Char) (hm : (padded w n).length ≤ most)
    (hend : (padded w n).length = most ∨ EndsDigits rest) :
    readNat most (padded w n ++ rest) = some (n, rest) := by
  have ht := takeDigits_append (digits_padded w n) most rest hm hend
  have hv := ofDigits_padded w n
  rw [readNat, ht]
  cases hp : (padded w n).map digitValue with
  | nil => exact absurd (List.map_eq_nil_iff.1 hp) (padded_ne_nil w n)
  | cons d ds => simp only [← hp, hv]

theorem readPart_padded (h : n < 100) (rest : List Char) :
    readPart (padded 2 n ++ rest) = some (n, rest) := by
  have hlen : (padded 2 n).length = 2 := length_padded (by decide) h
  rw [readPart, trimStart_digits (digits_padded 2 n) (padded_ne_nil 2 n)]
  exact readNat_padded 2 n 2 rest (by omega) (.inl hlen)

theorem readYear_yearText (year : Int) (rest : List Char) :
    readYear (yearText year ++ '-' :: rest) = some (year, '-' :: rest) := by
  have hend : EndsDigits ('-' :: rest) := endsDigits_cons (by decide) rest
  rw [yearText]
  split
  · next h =>
    have hlen : (padded 4 year.toNat).length = 4 := length_padded (by decide) (by omega)
    have hr := readNat_padded 4 year.toNat 4 ('-' :: rest) (by omega) (.inl hlen)
    have hd := digits_padded 4 year.toNat
    rw [readYear, trimStart_digits hd (padded_ne_nil _ _)]
    obtain ⟨d, ds, hp⟩ := List.exists_cons_of_ne_nil (padded_ne_nil 4 year.toNat)
    rw [hp] at hr hd ⊢
    have hm : d ≠ '-' := by rintro rfl; exact absurd (hd '-' (.head _)) (by decide)
    have hs : d ≠ '+' := by rintro rfl; exact absurd (hd '+' (.head _)) (by decide)
    rw [List.cons_append] at hr ⊢
    simp only [if_neg hm, if_neg hs, hr, Option.map_some, Int.toNat_of_nonneg h.1]
  · next h =>
    have hr := readNat_padded 4 year.natAbs (padded 4 year.natAbs ++ '-' :: rest).length
      ('-' :: rest) (by simp) (.inr hend)
    rw [readYear, List.cons_append, trimStart_cons (by split <;> decide)]
    by_cases hneg : year < 0
    · simp only [if_pos hneg, if_true, hr, Option.map_some]
      congr 2
      omega
    · have hne : '+' ≠ '-' := by decide
      simp only [if_neg hneg, if_neg hne, if_true, hr, Option.map_some]
      congr 2
      omega

theorem readFraction_point {ds : List Char} (hds : Digits ds) (hne : ds ≠ []) (hlen : ds.length ≤ 9)
    (hend : EndsDigits rest) : readFraction ('.' :: (ds ++ rest)) =
      some (ofDigits 10 (ds.map digitValue) * 10 ^ (9 - ds.length), rest) := by
  have ht := takeDigits_append hds (ds ++ rest).length rest (by simp) (.inr hend)
  obtain ⟨d, ds, rfl⟩ := List.exists_cons_of_ne_nil hne
  have htake : ((d :: ds).map digitValue).take 9 = (d :: ds).map digitValue :=
    List.take_of_length_le (by simpa using hlen)
  rw [readFraction, if_pos rfl, ht]
  simp only [List.map_cons] at htake ⊢
  simp only [htake, List.length_cons, List.length_map]

theorem readFraction_fractionText {nano : Nat} (h : nano < 10 ^ 9) (rest : List Char) :
    readFraction (fractionText nano ++ 'Z' :: rest) = some (nano, 'Z' :: rest) := by
  have hend : EndsDigits ('Z' :: rest) := endsDigits_cons (by decide) rest
  -- So many digits are written, with the nanoseconds in units that leave nothing over.
  have point (w unit : Nat) (hw : 0 < w ∧ w ≤ 9) (hunit : unit = 10 ^ (9 - w))
      (hn : nano % unit = 0) (hlt : nano / unit < 10 ^ w) :
      readFraction ('.' :: padded w (nano / unit) ++ 'Z' :: rest) = some (nano, 'Z' :: rest) := by
    have hlen : (padded w (nano / unit)).length = w := length_padded hw.1 hlt
    have hr := readFraction_point (digits_padded w (nano / unit)) (padded_ne_nil _ _) (by omega)
      hend
    rw [List.cons_append, hr, ofDigits_padded, hlen, ← hunit, Nat.div_mul_cancel]
    exact Nat.dvd_of_mod_eq_zero hn
  rw [fractionText]
  split
  · next h0 =>
    subst h0
    rfl
  split
  · next h6 => exact point 3 (10 ^ 6) (by decide) (by decide) h6 (by omega)
  split
  · next h3 => exact point 6 (10 ^ 3) (by decide) (by decide) h3 (by omega)
  · have h := point 9 1 (by decide) (by decide) (Nat.mod_one nano) (by omega)
    rwa [Nat.div_one] at h

theorem ofLocal?_self (t : Instant) :
    ofLocal? t.date t.hour t.minute t.second t.nano 0 = some t := by
  obtain ⟨date, hour, minute, second, nano, hdate, hhour, hminute, hsecond, hnano⟩ := t
  have hm : ((hour * 60 + minute - 0 : Int) % 1440).toNat = hour * 60 + minute := by omega
  have hlo : ¬ (hour * 60 + minute - 0 : Int) < 0 := by omega
  have hhi : ¬ 1440 ≤ (hour * 60 + minute - 0 : Int) := by omega
  have hh : (hour * 60 + minute) / 60 = hour := by omega
  have hmin : (hour * 60 + minute) % 60 = minute := by omega
  simp only [ofLocal?, hm, hlo, hhi, hh, hmin, hdate, hhour, hminute, hsecond, hnano, and_self,
    if_true, if_false, dite_true]

theorem readDate_text {date : Date} (hm : date.month < 100) (hd : date.day < 100)
    (rest : List Char) :
    readDate (yearText date.year ++ '-' :: (padded 2 date.month ++ '-' ::
      (padded 2 date.day ++ rest))) = some (date, rest) := by
  have hdash : isBlankChar '-' = false := by decide
  simp only [readDate, readYear_yearText, readMark_trimStart hdash, readPart_padded hm,
    readPart_padded hd, bind, Option.bind, pure]

theorem readTime_text {hour minute second nano : Nat} (hh : hour < 100) (hm : minute < 100)
    (hs : second < 100) (hn : nano < 10 ^ 9) (rest : List Char) :
    readTime (padded 2 hour ++ ':' :: (padded 2 minute ++ ':' :: (padded 2 second ++
      (fractionText nano ++ 'Z' :: rest)))) = some ((hour, minute, second, nano), 'Z' :: rest) := by
  have hcolon : isBlankChar ':' = false := by decide
  simp only [readTime, readPart_padded hh, readMark_trimStart hcolon, readPart_padded hm,
    readPart_padded hs, readFraction_fractionText hn, bind, Option.bind, pure]

/-- The text of an instant is read as that instant. -/
theorem parse?_display (t : Instant) : parse? t.display = some t := by
  obtain ⟨hdate, hhour, hminute, hsecond, hnano⟩ := t.valid
  obtain ⟨-, ⟨-, hmonth⟩, -, hday⟩ := hdate
  have hdays : daysInMonth t.date.year t.date.month ≤ 31 := by
    rw [daysInMonth]
    repeat' split
    all_goals omega
  have hmonth' : t.date.month < 100 := by omega
  have hday' : t.date.day < 100 := by omega
  have hhour' : t.hour < 100 := by omega
  have hminute' : t.minute < 100 := by omega
  have hsecond' : t.second < 100 := by omega
  have hd := readDate_text hmonth' hday' ('T' :: (padded 2 t.hour ++ ':' :: (padded 2 t.minute ++
    ':' :: (padded 2 t.second ++ (fractionText t.nano ++ ['Z'])))))
  have ht := readTime_text hhour' hminute' hsecond' hnano []
  have hsep (cs : List Char) : readSeparator ('T' :: cs) = some cs := rfl
  have hoffset : readOffset (trimStart ['Z']) = some (0, []) := by decide
  rw [parse?, display, String.toList_ofList]
  simp only [List.append_assoc, List.cons_append]
  simp only [hd, hsep, ht, hoffset, bind, Option.bind, ofLocal?_self]
  rfl

end CallGateway.Instant
