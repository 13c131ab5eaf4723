import CallGateway.Proofs.Json.Grammar

/-!
# Printed values

A printed value is a text of the grammar, and `readBack` is the tree that it stands for: the value
itself, up to the rounding of numbers and to what lies beyond the nesting limit.
-/

namespace CallGateway.Json

namespace Value

mutual

/-- The tree that a printed value is read as, inside `level` containers. -/
def readBack (level : Nat) : Value → Tree
  | .null => .null
  | .bool b => .bool b
  | .number n => .number n.reread
  | .string s => .string (some s)
  | .array items => .array (nestingLimit ≤ level) (readBackItems (level + 1) items)
  | .object fields => .object (nestingLimit ≤ level) (readBackFields (level + 1) fields)

def readBackItems (level : Nat) : List Value → List Tree
  | [] => []
  | v :: vs => readBack level v :: readBackItems level vs

def readBackFields (level : Nat) : List (String × Value) → List (Option String × Tree)
  | [] => []
  | (k, v) :: fs => (some k, readBack level v) :: readBackFields level fs

end

theorem readBackItems_eq_map (level : Nat) (items : List Value) :
    readBackItems level items = items.map (readBack level) := by
  induction items with
  | nil => rfl
  | cons v vs ih => rw [readBackItems, ih, List.map_cons]

theorem readBackFields_eq_map (level : Nat) (fields : List (String × Value)) :
    readBackFields level fields = fields.map fun f => (some f.1, f.2.readBack level) := by
  induction fields with
  | nil => rfl
  | cons f fs ih => rw [readBackFields, ih, List.map_cons]

theorem isElement_of_isValue (H : IsValue level t bs) : IsElement level t bs := by
  have h := IsElement.pad blank_nil H blank_nil
  rwa [List.nil_append, List.append_nil] at h

theorem isMember_of_isValue (k : String) (H : IsValue level t bs) :
    IsMember level (some k, t) (printString k ++ byte ':' :: bs) :=
  .name blank_nil (isString_print k) blank_nil (isElement_of_isValue H)

mutual

theorem isValue_print (level : Nat) : (v : Value) → IsValue level (v.readBack level) v.print
  | .null => .null
  | .bool true => .true
  | .bool false => .false
  | .number n => .number n.isNumber_print
  | .string s => .string (isString_print s)
  | .array [] => .noItems blank_nil
  | .array (v :: vs) => .array (isElements_print (level + 1) (v :: vs) v vs rfl)
  | .object [] => .noMembers blank_nil
  | .object ((k, v) :: fs) => by
    have H := IsValue.object (isMembers_print (level + 1) ((k, v) :: fs) k v fs rfl)
    simpa only [print, readBack, List.cons_append, List.append_assoc] using H

theorem isElements_print (level : Nat) : (items : List Value) → ∀ v vs, items = v :: vs →
    IsElements level (readBackItems level items) (v.print ++ printItems vs)
  | [], _, _, h => nomatch h
  | v :: [], _, _, rfl => by
    rw [printItems, List.append_nil]
    exact .one (isElement_of_isValue (isValue_print level v))
  | v :: w :: ws, _, _, rfl =>
    .cons (isElement_of_isValue (isValue_print level v))
      (isElements_print level (w :: ws) w ws rfl)

theorem isMembers_print (level : Nat) : (fields : List (String × Value)) → ∀ k v fs,
    fields = (k, v) :: fs → IsMembers level (readBackFields level fields)
      (printString k ++ byte ':' :: (v.print ++ printFields fs))
  | [], _, _, _, h => nomatch h
  | (k, v) :: [], _, _, _, rfl => by
    rw [printFields, List.append_nil]
    exact .one (isMember_of_isValue k (isValue_print level v))
  | (k, v) :: (l, w) :: fs, _, _, _, rfl => by
    have H := IsMembers.cons (isMember_of_isValue k (isValue_print level v))
      (isMembers_print level ((l, w) :: fs) l w fs rfl)
    simpa only [printFields, readBackFields, List.cons_append, List.append_assoc] using H

end

/-- A decoder of a printed value works on the tree that the value is read back as. -/
theorem decode_print (d : Decoder α) (v : Value) :
    decode d v.print = (d (v.readBack 0)).mapError Problem.inText :=
  decode_element d (isElement_of_isValue (isValue_print 0 v))

end Value

end CallGateway.Json
