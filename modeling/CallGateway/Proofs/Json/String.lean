import CallGateway.Json.Print
import CallGateway.Json.Scan

/-!
# Strings in JSON text

A string is read up to its closing quote, whatever it is made of. A printed one is read back as it
was: each byte leaves one piece, and the pieces spell the text.
-/

namespace CallGateway.Json

/-- The pieces of a string as they are written. -/
inductive IsPieces : List Piece → Bytes → Prop
  | nil : IsPieces [] []
  | plain (hq : b ≠ byte '"') (hs : b ≠ byte '\\') (hb : 0x20 ≤ b) (H : IsPieces ps bs) :
    IsPieces (.byte b :: ps) (b :: bs)
  | escape (he : simpleEscape? e = some c) (H : IsPieces ps bs) :
    IsPieces (.byte c :: ps) (byte '\\' :: e :: bs)
  | unit (hn : hexUnit? h₁ h₂ h₃ h₄ = some n) (H : IsPieces ps bs) :
    IsPieces (.unit n :: ps) (byte '\\' :: byte 'u' :: h₁ :: h₂ :: h₃ :: h₄ :: bs)

/-- `bs` is a string between its quotes, and it spells `s`. -/
inductive IsString : Option String → Bytes → Prop
  | ofPieces (H : IsPieces ps bs) : IsString (spell ps) (byte '"' :: (bs ++ [byte '"']))

/-- Pieces are read up to the closing quote. -/
theorem IsPieces.scan (H : IsPieces ps bs) (rest : Bytes) :
    scanPieces (bs ++ byte '"' :: rest) = some (ps, rest) := by
  induction H with
  | nil =>
    rw [List.nil_append, scanPieces.eq_def]
    exact if_pos rfl
  | plain hq hs hb _ ih =>
    rw [List.cons_append, scanPieces.eq_def]
    simp only [if_neg hq, if_neg hs, if_neg (UInt8.not_lt.2 hb), ih, Option.map_some]
  | @escape e c _ _ he _ ih =>
    have hu : e ≠ byte 'u' := by
      rintro rfl
      revert he
      simp [show simpleEscape? (byte 'u') = none by decide]
    rw [List.cons_append, List.cons_append, scanPieces.eq_def]
    simp only [if_neg (show byte '\\' ≠ byte '"' by decide), if_true, if_neg hu, he, ih,
      Option.map_some]
  | unit hn _ ih =>
    simp only [List.cons_append]
    rw [scanPieces.eq_def]
    simp only [if_neg (show byte '\\' ≠ byte '"' by decide), if_true, hn, ih, Option.map_some]

theorem IsString.scan (H : IsString s bs) (rest : Bytes) :
    ∃ tail ps, bs ++ rest = byte '"' :: tail ∧ scanPieces tail = some (ps, rest) ∧
      spell ps = s := by
  obtain ⟨H⟩ := H
  refine ⟨_, _, ?_, H.scan rest, rfl⟩
  rw [List.cons_append, List.append_assoc]; rfl

/-! ## How strings are printed -/

/-- The piece that a byte is read as once it has been escaped. -/
def pieceOf (b : UInt8) : Piece :=
  if 0x20 ≤ b ∨ b = 0x08 ∨ b = 0x09 ∨ b = 0x0a ∨ b = 0x0c ∨ b = 0x0d then .byte b
  else .unit b.toNat

theorem hexUnit?_control {b : UInt8} (H : b < 0x20) :
    hexUnit? (byte '0') (byte '0') (byte (Nat.digitChar (b.toNat / 16)))
      (byte (Nat.digitChar (b.toNat % 16))) = some b.toNat := by
  have small : ∀ n < 32, hexUnit? (byte '0') (byte '0') (byte (Nat.digitChar (n / 16)))
      (byte (Nat.digitChar (n % 16))) = some n := by decide
  exact small _ (UInt8.lt_iff_toNat_lt.1 H)

theorem isPieces_escapeByte (b : UInt8) (H : IsPieces ps bs) :
    IsPieces (pieceOf b :: ps) (escapeByte b ++ bs) := by
  rw [escapeByte]
  split
  · next h => subst h; exact .escape (by decide) H
  split
  · next h => subst h; exact .escape (by decide) H
  next hq hs =>
  split
  · next h => rw [pieceOf, if_pos (.inl h)]; exact .plain hq hs h H
  split
  · next h => subst h; exact .escape (by decide) H
  split
  · next h => subst h; exact .escape (by decide) H
  split
  · next h => subst h; exact .escape (by decide) H
  split
  · next h => subst h; exact .escape (by decide) H
  split
  · next h => subst h; exact .escape (by decide) H
  next h h8 h9 ha hc hd =>
  rw [pieceOf, if_neg (by simp only [h, h8, h9, ha, hc, hd, or_self, not_false_eq_true])]
  exact .unit (hexUnit?_control (UInt8.not_le.1 h)) H

theorem isPieces_escaped (bs : Bytes) : IsPieces (bs.map pieceOf) (bs.flatMap escapeByte) := by
  induction bs with
  | nil => exact .nil
  | cons b bs ih =>
    rw [List.map_cons, List.flatMap_cons]
    exact isPieces_escapeByte b ih

theorem codePointBytes_control {b : UInt8} (H : b < 0x20) : codePointBytes b.toNat = [b] := by
  have small : ∀ n < 32, codePointBytes n = [n.toUInt8] := by decide
  rw [small _ (UInt8.lt_iff_toNat_lt.1 H), Nat.toUInt8, UInt8.ofNat_toNat]

theorem assemble_pieces (bs : Bytes) : assemble (bs.map pieceOf) = some bs := by
  induction bs with
  | nil => rfl
  | cons b bs ih =>
    rw [List.map_cons, pieceOf]
    split
    · rw [assemble, ih]; rfl
    · next h =>
      have hb : b < 0x20 := UInt8.not_le.1 fun hb => h (.inl hb)
      have hn : b.toNat < 0xd800 := Nat.lt_trans (UInt8.lt_iff_toNat_lt.1 hb) (by decide)
      rw [assemble.eq_def]
      dsimp only
      rw [if_pos (.inl hn), ih, codePointBytes_control hb]; rfl

theorem spell_pieces (s : String) : spell ((Bytes.ofString s).map pieceOf) = some s := by
  rw [spell, assemble_pieces]
  exact Bytes.toString?_ofString s

theorem isString_print (s : String) : IsString (some s) (printString s) := by
  have H := IsString.ofPieces (isPieces_escaped (Bytes.ofString s))
  rwa [spell_pieces] at H

end CallGateway.Json
