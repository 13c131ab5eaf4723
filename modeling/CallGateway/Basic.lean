/-! What everything else is made of: the arithmetic of the core library, byte strings, and what can
keep something from being done. -/

namespace CallGateway

/-! ## Numbers

Powers and sums of numbers are those of the core library, whatever else is imported. -/

@[default_instance 10000]
instance (priority := 10000) natPower [NatPow α] : Pow α Nat := instPowNat

instance (priority := 10000) natZero : Zero Nat := ⟨0⟩

/-! ## Bytes -/

/-- Byte strings, as messages and request bodies carry them. -/
abbrev Bytes := List UInt8

namespace Bytes

/-- The UTF-8 form of a text. -/
def ofString (s : String) : Bytes := s.toByteArray.data.toList

/-- The text with this UTF-8 form, if there is one. -/
def toString? (bs : Bytes) : Option String := String.fromUTF8? ⟨bs.toArray⟩

/-- Characters of the ASCII range, one byte each. -/
def ofAscii (cs : List Char) : Bytes := cs.map fun c => c.toNat.toUInt8

theorem toString?_ofString (s : String) : toString? (ofString s) = some s := by
  have h : (⟨(ofString s).toArray⟩ : ByteArray) = s.toByteArray := by simp [ofString]
  rw [toString?, h, String.fromUTF8?, dif_pos s.isValidUTF8]; rfl

end Bytes

/-- The byte of a character of the ASCII range. -/
def byte (c : Char) : UInt8 := c.toNat.toUInt8

/-! ## Obstacles -/

/-- An error, or a breakdown that nobody handles. -/
inductive Obstacle (ε : Type)
  | error (e : ε)
  | breakdown
  deriving DecidableEq

def Obstacle.map (f : ε → δ) : Obstacle ε → Obstacle δ
  | .error e => .error (f e)
  | .breakdown => .breakdown

end CallGateway
