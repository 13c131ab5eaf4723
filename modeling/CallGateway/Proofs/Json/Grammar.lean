import CallGateway.Json.Decode
import CallGateway.Proofs.Json.Number
import CallGateway.Proofs.Json.String

/-!
# The grammar of JSON text

Which texts are JSON, and what tree a text stands for: a relation between trees and texts that says
nothing of how a text is read. The main statement is that every text of the grammar is read to its
end, and as the tree that it stands for.
-/

namespace CallGateway.Json

open NumberText (IsNumber)

def Blank (ws : Bytes) : Prop := ∀ b ∈ ws, isBlankByte b = true

instance {ws : Bytes} : Decidable (Blank ws) := inferInstanceAs (Decidable (∀ b ∈ ws, _))

mutual

/-- Inside `level` containers the text is the value `t`, without white space around it. -/
inductive IsValue : Nat → Tree → Bytes → Prop
  | null : IsValue level .null (Bytes.ofAscii ['n', 'u', 'l', 'l'])
  | true : IsValue level (.bool true) (Bytes.ofAscii ['t', 'r', 'u', 'e'])
  | false : IsValue level (.bool false) (Bytes.ofAscii ['f', 'a', 'l', 's', 'e'])
  | number (H : IsNumber n bs) : IsValue level (.number n) bs
  | string (H : IsString s bs) : IsValue level (.string s) bs
  | noItems (hws : Blank ws) :
    IsValue level (.array (nestingLimit ≤ level) []) (byte '[' :: (ws ++ [byte ']']))
  | array (H : IsElements (level + 1) ts bs) :
    IsValue level (.array (nestingLimit ≤ level) ts) (byte '[' :: (bs ++ [byte ']']))
  | noMembers (hws : Blank ws) :
    IsValue level (.object (nestingLimit ≤ level) []) (byte '\x7b' :: (ws ++ [byte '\x7d']))
  | object (H : IsMembers (level + 1) ms bs) :
    IsValue level (.object (nestingLimit ≤ level) ms) (byte '\x7b' :: (bs ++ [byte '\x7d']))

/-- A value with white space around it. -/
inductive IsElement : Nat → Tree → Bytes → Prop
  | pad (hws : Blank ws) (H : IsValue level t bs) (hws' : Blank ws') :
    IsElement level t (ws ++ (bs ++ ws'))

/-- One element or more, with commas between them. -/
inductive IsElements : Nat → List Tree → Bytes → Prop
  | one (H : IsElement level t bs) : IsElements level [t] bs
  | cons (H : IsElement level t bs) (H' : IsElements level ts r) :
    IsElements level (t :: ts) (bs ++ byte ',' :: r)

/-- A name and an element with a colon between them. -/
inductive IsMember : Nat → Option String × Tree → Bytes → Prop
  | name (hws : Blank ws) (hn : IsString k name) (hws' : Blank ws') (H : IsElement level t bs) :
    IsMember level (k, t) (ws ++ (name ++ (ws' ++ byte ':' :: bs)))

/-- One member or more, with commas between them. -/
inductive IsMembers : Nat → List (Option String × Tree) → Bytes → Prop
  | one (H : IsMember level m bs) : IsMembers level [m] bs
  | cons (H : IsMember level m bs) (H' : IsMembers level ms r) :
    IsMembers level (m :: ms) (bs ++ byte ',' :: r)

end

/-! ## White space and marks -/

theorem skipBlank_cons {b : UInt8} {rest : Bytes} (H : isBlankByte b = false) :
    skipBlank (b :: rest) = b :: rest := by
  rw [skipBlank, List.dropWhile_cons_of_neg (by simp [H])]

theorem blank_nil : Blank [] := by
  intro b hb
  cases hb

theorem skipBlank_append (H : Blank ws) (rest : Bytes) :
    skipBlank (ws ++ rest) = skipBlank rest := by
  induction ws with
  | nil => rfl
  | cons b ws ih =>
    have hb := H b (.head _)
    have h := ih fun c hc => H c (.tail _ hc)
    simpa [skipBlank, hb] using h

theorem scanMark_append (H : Blank ws) (b : UInt8) (rest : Bytes) :
    scanMark b (ws ++ rest) = scanMark b rest := by
  simp only [scanMark, skipBlank_append H]

theorem scanMark_self {b : UInt8} {rest : Bytes} (H : isBlankByte b = false) :
    scanMark b (b :: rest) = some rest := by
  rw [scanMark, skipBlank_cons H]
  exact if_pos rfl

theorem scanMark_other {b c : UInt8} {rest : Bytes} (H : isBlankByte c = false) (hc : c ≠ b) :
    scanMark b (c :: rest) = none := by
  rw [scanMark, skipBlank_cons H]
  exact if_neg hc

theorem scanValue_append (H : Blank ws) (fuel level : Nat) (rest : Bytes) :
    scanValue fuel level (ws ++ rest) = scanValue fuel level rest := by
  cases fuel with
  | zero => rfl
  | succ fuel => rw [scanValue, scanValue, skipBlank_append H]

/-- White space and a mark that may follow a value. -/
theorem ends_append (H : Blank ws) (h : Ends rest) : Ends (ws ++ rest) := by
  cases ws with
  | nil => exact h
  | cons b ws =>
    have blank : ∀ b, isBlankByte b = true → b ∈ endBytes := by
      intro b hb
      simp only [isBlankByte, Bool.or_eq_true, beq_iff_eq] at hb
      obtain ((rfl | rfl) | rfl) | rfl := hb <;> decide
    exact ends_cons (blank b (H b (.head _)))

/-! ## First bytes -/

/-- A byte with which a value can begin. -/
structure Opens (b : UInt8) : Prop where
  notBlank : isBlankByte b = false
  notBracket : b ≠ byte ']'

theorem opens_of_number {b : UInt8} (H : b = byte '-' ∨ (digit? b).isSome = true) : Opens b := by
  rcases H with rfl | H
  · exact ⟨by decide, by decide⟩
  · rw [digit?] at H
    split at H
    · next h =>
      simp only [UInt8.le_iff_toNat_le] at h
      have h0 : (byte '0').toNat = 48 := by decide
      have h9 : (byte '9').toNat = 57 := by decide
      constructor
      · simp only [isBlankByte, Bool.or_eq_false_iff, beq_eq_false_iff_ne, ne_eq]
        refine ⟨⟨⟨?_, ?_⟩, ?_⟩, ?_⟩ <;> (rintro rfl; revert h; decide)
      · rintro rfl
        revert h
        decide
    · cases H

theorem IsValue.opens (H : IsValue level t bs) : ∃ b r, bs = b :: r ∧ Opens b := by
  cases H with
  | number H =>
    obtain ⟨b, r, h, hb⟩ := H.head
    exact ⟨b, r, h, opens_of_number hb⟩
  | string H =>
    obtain ⟨H⟩ := H
    exact ⟨_, _, rfl, by decide, by decide⟩
  | _ => exact ⟨_, _, rfl, by decide, by decide⟩

theorem IsValue.length_pos (H : IsValue level t bs) : 0 < bs.length := by
  obtain ⟨b, r, rfl, -⟩ := H.opens
  exact Nat.succ_pos _

/-- White space and a bracket do not begin a list of elements. -/
theorem IsElement.scanMark (H : IsElement level t bs) (rest : Bytes) :
    scanMark (byte ']') (bs ++ rest) = none := by
  obtain ⟨hws, H, -⟩ := H
  obtain ⟨b, r, rfl, hb⟩ := H.opens
  rw [List.append_assoc, scanMark_append hws]
  exact scanMark_other hb.notBlank hb.notBracket

theorem IsElements.scanMark (H : IsElements level ts bs) (rest : Bytes) :
    Json.scanMark (byte ']') (bs ++ rest) = none := by
  cases H with
  | one H => exact H.scanMark rest
  | cons H _ => rw [List.append_assoc]; exact H.scanMark _

theorem IsMember.scanMark (H : IsMember level m bs) (rest : Bytes) :
    Json.scanMark (byte '\x7d') (bs ++ rest) = none := by
  obtain ⟨hws, ⟨hn⟩, -, -⟩ := H
  rw [List.append_assoc, scanMark_append hws]
  exact scanMark_other (by decide) (by decide)

theorem IsMembers.scanMark (H : IsMembers level ms bs) (rest : Bytes) :
    Json.scanMark (byte '\x7d') (bs ++ rest) = none := by
  cases H with
  | one H => exact H.scanMark rest
  | cons H _ => rw [List.append_assoc]; exact H.scanMark _

/-! ## Leaves -/

theorem scanWord_self (letters : List Char) (t : Tree) (rest : Bytes) :
    scanWord letters t (Bytes.ofAscii letters ++ rest) = (t, some rest) := by
  rw [scanWord, if_pos (List.isPrefixOf_iff_prefix.2 (List.prefix_append ..)), List.drop_left]

theorem scanValue_null (fuel level : Nat) (rest : Bytes) :
    scanValue (fuel + 1) level (Bytes.ofAscii ['n', 'u', 'l', 'l'] ++ rest) =
      (.null, some rest) := by
  show scanValue (fuel + 1) level (byte 'n' :: (Bytes.ofAscii ['u', 'l', 'l'] ++ rest)) = _
  rw [scanValue, skipBlank_cons (by decide)]
  dsimp only
  rw [if_pos rfl, scanWord_self]

theorem scanValue_true (fuel level : Nat) (rest : Bytes) :
    scanValue (fuel + 1) level (Bytes.ofAscii ['t', 'r', 'u', 'e'] ++ rest) =
      (.bool true, some rest) := by
  show scanValue (fuel + 1) level (byte 't' :: (Bytes.ofAscii ['r', 'u', 'e'] ++ rest)) = _
  rw [scanValue, skipBlank_cons (by decide)]
  dsimp only
  rw [if_neg (by decide), if_pos rfl, scanWord_self]

theorem scanValue_false (fuel level : Nat) (rest : Bytes) :
    scanValue (fuel + 1) level (Bytes.ofAscii ['f', 'a', 'l', 's', 'e'] ++ rest) =
      (.bool false, some rest) := by
  show scanValue (fuel + 1) level (byte 'f' :: (Bytes.ofAscii ['a', 'l', 's', 'e'] ++ rest)) = _
  rw [scanValue, skipBlank_cons (by decide)]
  dsimp only
  rw [if_neg (by decide), if_neg (by decide), if_pos rfl, scanWord_self]

theorem number_byte {b : UInt8} (H : b = byte '-' ∨ (digit? b).isSome = true) :
    b ≠ byte 'n' ∧ b ≠ byte 't' ∧ b ≠ byte 'f' ∧ b ≠ byte '"' := by
  refine ⟨?_, ?_, ?_, ?_⟩ <;> (rintro rfl; revert H; decide)

theorem scanValue_number (fuel level : Nat) (H : IsNumber n bs) (h : Ends rest) :
    scanValue (fuel + 1) level (bs ++ rest) = (.number n, some rest) := by
  obtain ⟨b, r, hbs, hb⟩ := H.head
  obtain ⟨hn, ht, hf, hq⟩ := number_byte hb
  have hs := H.scan h
  rw [hbs, List.cons_append] at hs ⊢
  rw [scanValue, skipBlank_cons (opens_of_number hb).notBlank]
  dsimp only
  rw [if_neg hn, if_neg ht, if_neg hf, if_neg hq, if_pos hb, hs]

theorem scanValue_string (fuel level : Nat) (H : IsString s bs) (rest : Bytes) :
    scanValue (fuel + 1) level (bs ++ rest) = (.string s, some rest) := by
  obtain ⟨tail, ps, h, hps, hs⟩ := H.scan rest
  rw [h, scanValue, skipBlank_cons (by decide)]
  dsimp only
  rw [if_neg (by decide), if_neg (by decide), if_neg (by decide), if_pos rfl, hps]
  dsimp only
  rw [hs]

/-! ## Containers -/

theorem scanValue_bracket (fuel level : Nat) (rest : Bytes) :
    scanValue (fuel + 1) level (byte '[' :: rest) =
      match scanMark (byte ']') rest with
      | some r => (.array (nestingLimit ≤ level) [], some r)
      | none => (.array (nestingLimit ≤ level) (scanItems fuel (level + 1) rest).1,
          (scanItems fuel (level + 1) rest).2) := by
  rw [scanValue, skipBlank_cons (by decide)]
  dsimp only
  refine (if_neg (by decide)).trans <| (if_neg (by decide)).trans <| (if_neg (by decide)).trans <|
    (if_neg (by decide)).trans <| (if_neg (by decide)).trans <| (if_pos rfl).trans ?_
  cases scanMark (byte ']') rest <;> rfl

theorem scanValue_brace (fuel level : Nat) (rest : Bytes) :
    scanValue (fuel + 1) level (byte '\x7b' :: rest) =
      match scanMark (byte '\x7d') rest with
      | some r => (.object (nestingLimit ≤ level) [], some r)
      | none => (.object (nestingLimit ≤ level) (scanMembers fuel (level + 1) rest).1,
          (scanMembers fuel (level + 1) rest).2) := by
  rw [scanValue, skipBlank_cons (by decide)]
  dsimp only
  refine (if_neg (by decide)).trans <| (if_neg (by decide)).trans <| (if_neg (by decide)).trans <|
    (if_neg (by decide)).trans <| (if_neg (by decide)).trans <| (if_neg (by decide)).trans <|
    (if_pos rfl).trans ?_
  cases scanMark (byte '\x7d') rest <;> rfl

theorem scanName_append (hws : Blank ws) (H : IsString k name) (rest : Bytes) :
    scanName (ws ++ (name ++ rest)) = some (k, rest) := by
  obtain ⟨tail, ps, h, hps, hs⟩ := H.scan rest
  rw [h, scanName, scanMark_append hws, scanMark_self (by decide)]
  simp only [hps, hs, bind, Option.bind, pure]

mutual

/-- A value is read to its end, whatever may follow a value. -/
theorem IsValue.scan : IsValue level t bs → ∀ fuel rest, 2 * bs.length ≤ fuel → Ends rest →
    scanValue fuel level (bs ++ rest) = (t, some rest)
  | H, 0, _, hf, _ => absurd hf (by have := H.length_pos; omega)
  | .null, fuel + 1, rest, _, _ => scanValue_null fuel level rest
  | .true, fuel + 1, rest, _, _ => scanValue_true fuel level rest
  | .false, fuel + 1, rest, _, _ => scanValue_false fuel level rest
  | .number H, fuel + 1, _, _, h => scanValue_number fuel level H h
  | .string H, fuel + 1, rest, _, _ => scanValue_string fuel level H rest
  | .noItems hws, fuel + 1, rest, _, _ => by
    rw [List.cons_append, List.append_assoc, scanValue_bracket, scanMark_append hws,
      List.singleton_append, scanMark_self (by decide)]
  | .array H, fuel + 1, rest, hf, _ => by
    simp only [List.length_cons, List.length_append, List.length_nil] at hf
    rw [List.cons_append, List.append_assoc, scanValue_bracket, H.scanMark,
      List.singleton_append, H.scan fuel rest (by omega)]
  | .noMembers hws, fuel + 1, rest, _, _ => by
    rw [List.cons_append, List.append_assoc, scanValue_brace, scanMark_append hws,
      List.singleton_append, scanMark_self (by decide)]
  | .object H, fuel + 1, rest, hf, _ => by
    simp only [List.length_cons, List.length_append, List.length_nil] at hf
    rw [List.cons_append, List.append_assoc, scanValue_brace, H.scanMark,
      List.singleton_append, H.scan fuel rest (by omega)]

theorem IsElement.scan : IsElement level t bs → ∀ fuel b rest, 2 * bs.length ≤ fuel →
    b ∈ endBytes → isBlankByte b = false →
    ∃ r, scanValue fuel level (bs ++ b :: rest) = (t, some r) ∧ skipBlank r = b :: rest
  | .pad hws H hws', fuel, b, rest, hf, hb, hb' => by
    simp only [List.length_append] at hf
    refine ⟨_, ?_, (skipBlank_append hws' _).trans (skipBlank_cons hb')⟩
    rw [List.append_assoc, List.append_assoc, scanValue_append hws]
    exact H.scan fuel _ (by omega) (ends_append hws' (ends_cons hb))

theorem IsElements.scan : IsElements level ts bs → ∀ fuel rest, 2 * bs.length + 1 ≤ fuel →
    scanItems fuel level (bs ++ byte ']' :: rest) = (ts, some rest)
  | _, 0, _, hf => by omega
  | .one H, fuel + 1, rest, hf => by
    obtain ⟨r, hv, hr⟩ := H.scan fuel (byte ']') rest (by omega) (by decide) (by decide)
    rw [scanItems, hv]
    simp only [hr, if_neg (show byte ']' ≠ byte ',' by decide), if_true]
  | .cons H H', fuel + 1, rest, hf => by
    simp only [List.length_cons, List.length_append] at hf
    rw [List.append_assoc, List.cons_append]
    obtain ⟨r, hv, hr⟩ := H.scan fuel (byte ',') _ (by omega) (by decide) (by decide)
    rw [scanItems, hv]
    simp only [hr, if_true, H'.scan fuel rest (by omega)]

theorem IsMember.scan : IsMember level m bs → ∀ fuel b rest, 2 * bs.length ≤ fuel →
    b ∈ endBytes → isBlankByte b = false →
    ∃ r₁ r₂ r₃, scanName (bs ++ b :: rest) = some (m.1, r₁) ∧
      Json.scanMark (byte ':') r₁ = some r₂ ∧
      scanValue fuel level r₂ = (m.2, some r₃) ∧ skipBlank r₃ = b :: rest
  | .name hws hn hws' H, fuel, b, rest, hf, hb, hb' => by
    simp only [List.length_cons, List.length_append] at hf
    obtain ⟨r, hv, hr⟩ := H.scan fuel b rest (by omega) hb hb'
    simp only [List.append_assoc, List.cons_append]
    refine ⟨_, _, r, scanName_append hws hn _, ?_, hv, hr⟩
    rw [scanMark_append hws', scanMark_self (by decide)]

theorem IsMembers.scan : IsMembers level ms bs → ∀ fuel rest, 2 * bs.length + 1 ≤ fuel →
    scanMembers fuel level (bs ++ byte '\x7d' :: rest) = (ms, some rest)
  | _, 0, _, hf => by omega
  | .one (m := (_, _)) H, fuel + 1, rest, hf => by
    obtain ⟨r₁, r₂, r₃, hn, hc, hv, hr⟩ :=
      H.scan fuel (byte '\x7d') rest (by omega) (by decide) (by decide)
    simp only [scanMembers, hn, hc, hv, hr, if_neg (show byte '\x7d' ≠ byte ',' by decide), if_true]
  | .cons (m := (_, _)) (r := more) H H', fuel + 1, rest, hf => by
    simp only [List.length_cons, List.length_append] at hf
    rw [List.append_assoc, List.cons_append]
    obtain ⟨r₁, r₂, r₃, hn, hc, hv, hr⟩ :=
      H.scan fuel (byte ',') (more ++ byte '\x7d' :: rest) (by omega) (by decide) (by decide)
    simp only [scanMembers, hn, hc, hv, hr, if_true, H'.scan fuel rest (by omega)]

end

/-- A JSON text is read to its end, but for white space. -/
theorem IsElement.scan_all (H : IsElement 0 t bs) :
    ∃ ws, Json.scan bs = (t, some ws) ∧ skipBlank ws = [] := by
  obtain @⟨ws, _, _, bs, ws', hws, H, hws'⟩ := H
  refine ⟨ws', ?_, ?_⟩
  · have hend := ends_append hws' ends_nil
    rw [List.append_nil] at hend
    rw [Json.scan, scanValue_append hws]
    apply H.scan _ _ _ hend
    simp only [List.length_append]
    omega
  · have h := skipBlank_append hws' []
    rwa [List.append_nil] at h

/-- A decoder of a JSON text works on the tree that the text stands for. -/
theorem decode_element (d : Decoder α) (H : IsElement 0 t bs) :
    decode d bs = (d t).mapError Problem.inText := by
  obtain ⟨ws, hs, hws⟩ := H.scan_all
  rw [decode, decodeFront, hs]
  cases d t with
  | error p => rfl
  | ok a =>
    show (if (skipBlank ws).isEmpty then _ else _) = _
    rw [hws]; rfl

mutual

/-- A text of the grammar breaks off nowhere. -/
theorem IsValue.intact : IsValue level t bs → t.intact = true
  | .null | .true | .false | .number _ | .string _ | .noItems _ | .noMembers _ => rfl
  | .array H => H.intact
  | .object H => H.intact

theorem IsElement.intact : IsElement level t bs → t.intact = true
  | .pad _ H _ => H.intact

theorem IsElements.intact : IsElements level ts bs → Tree.intactItems ts = true
  | .one H => by rw [Tree.intactItems, H.intact]; rfl
  | .cons H H' => by rw [Tree.intactItems, H.intact, H'.intact]; rfl

theorem IsMember.intact : IsMember level m bs → m.2.intact = true
  | .name _ _ _ H => H.intact

theorem IsMembers.intact : IsMembers level ms bs → Tree.intactMembers ms = true
  | .one (m := (_, _)) H => by rw [Tree.intactMembers, H.intact]; rfl
  | .cons (m := (_, _)) H H' => by rw [Tree.intactMembers, H.intact, H'.intact]; rfl

end

end CallGateway.Json
