/-! Sets of code points, and the texts that consist of white space. -/

namespace CallGateway.Text

/-! ## Ranges

A set of code points is an ascending list of closed ranges. -/

/-- Look `n` up in ranges that ascend; the search stops at the first range above `n`. -/
def inRanges : List (Nat × Nat) → Nat → Bool
  | [], _ => false
  | (low, high) :: rest, n =>
    if n < low then false else if n ≤ high then true else inRanges rest n

theorem exists_of_inRanges {rs : List (Nat × Nat)} {n : Nat} (H : inRanges rs n = true) :
    ∃ r ∈ rs, r.1 ≤ n ∧ n ≤ r.2 := by
  induction rs with
  | nil => cases H
  | cons r rs ih =>
    rw [inRanges] at H
    split at H
    · cases H
    · split at H
      · exact ⟨r, .head _, by omega, by omega⟩
      · obtain ⟨s, hs, h⟩ := ih H
        exact ⟨s, .tail _ hs, h⟩

/-! ## White space -/

/-- The code points with the White_Space property. -/
def blankRanges : List (Nat × Nat) :=
  [(0x9, 0xd), (0x20, 0x20), (0x85, 0x85), (0xa0, 0xa0), (0x1680, 0x1680), (0x2000, 0x200a),
    (0x2028, 0x2029), (0x202f, 0x202f), (0x205f, 0x205f), (0x3000, 0x3000)]

def isBlankChar (c : Char) : Bool := inRanges blankRanges c.toNat

def trimStart (cs : List Char) : List Char := cs.dropWhile isBlankChar

/-- Remove the white space at both ends. -/
def trim (cs : List Char) : List Char := (trimStart (trimStart cs).reverse).reverse

def isBlank (s : String) : Bool := s.toList.all isBlankChar

theorem trimStart_eq_nil_iff {cs : List Char} :
    trimStart cs = [] ↔ cs.all isBlankChar = true := by
  rw [trimStart]
  induction cs with
  | nil => exact iff_of_true rfl rfl
  | cons c cs ih => cases h : isBlankChar c <;> simp [h, ih]

/-- What a trim at the front removes is blank, so it makes no difference to the question. -/
theorem trim_eq_nil_iff {cs : List Char} : trim cs = [] ↔ cs.all isBlankChar = true := by
  have front : cs.all isBlankChar = (trimStart cs).all isBlankChar := by
    conv => lhs; rw [← List.takeWhile_append_dropWhile (p := isBlankChar) (l := cs)]
    rw [List.all_append, List.all_takeWhile, Bool.true_and, trimStart]
  rw [trim, List.reverse_eq_nil_iff, trimStart_eq_nil_iff, List.all_reverse, front]

theorem isBlank_iff {s : String} : isBlank s = true ↔ trim s.toList = [] := trim_eq_nil_iff.symm

end CallGateway.Text
