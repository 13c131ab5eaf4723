import CallGateway.Proofs.Json.Value
import CallGateway.Proofs.Message.Wire

/-!
# Which texts are replies

A reply is read from an object by what it says under four names. It carries a result or an error
message, never both and never neither, where a result of `null` is a result and an error message of
`null` is none. What is written is read as it was.
-/

namespace CallGateway.Reply

open Json Fields

/-- What an object says under the names of a reply: nothing where a member is absent, and an error
message may be `null`. -/
structure Said where
  requestId : Uuid
  success : Bool
  result : Option Value
  errorMessage : Option (Option String)

namespace Said

def names : List String := ["requestId", "success", "result", "errorMessage"]

/-- An error message on the wire. -/
def messageTree : Option String → Tree
  | none => .null
  | some m => .string (some m)

/-- The members say this, each once at most and in any order, among others of any kind. -/
structure In (s : Said) (ms : List (Option String × Tree)) : Prop where
  spelled : ∀ m ∈ ms, m.1.isSome = true
  once : ∀ name ∈ names, (ms.map (·.1)).count (some name) ≤ 1
  requestId : ∃ text, ms.lookup (some "requestId") = some (.string (some text)) ∧
    Uuid.parse? text = some s.requestId
  success : ms.lookup (some "success") = some (.bool s.success)
  result : ms.lookup (some "result") = s.result.map Value.tree
  errorMessage : ms.lookup (some "errorMessage") = s.errorMessage.map messageTree

def parts (s : Said) : Parts :=
  ⟨s.requestId, s.success, s.result.map Value.normal, s.errorMessage.join⟩

variable {s : Said} {ms : List (Option String × Tree)}

theorem In.partsDecoder (H : s.In ms) (h : ∀ m ∈ ms, m.2.intact = true) :
    Reply.partsDecoder (.object false ms) = .ok s.parts := by
  obtain ⟨text, hid, hparse⟩ := H.requestId
  have hi : (required "requestId" Uuid.decoder).ofMembers ms = .ok s.requestId := by
    apply field_of_once hid (H.once _ (by decide))
    show Decoder.parsed _ _ Uuid.parse? (.string (some text)) = _
    rw [Decoder.parsed, hparse]
  have hs : (required "success" .bool).ofMembers ms = .ok s.success :=
    field_of_once H.success (H.once _ (by decide)) rfl
  have hr : (optional "result" (fun t => (Decoder.value t).map some) none).ofMembers ms =
      .ok (s.result.map Value.normal) := by
    have hres := H.result
    cases hv : s.result with
    | none =>
      rw [hv] at hres
      exact optional_of_absent hres
    | some v =>
      rw [hv] at hres
      apply field_of_once hres (H.once _ (by decide))
      rw [Value.value_tree]
      rfl
  have he : (optional "errorMessage" (.option .string) none).ofMembers ms =
      .ok s.errorMessage.join := by
    have herr := H.errorMessage
    cases hm : s.errorMessage with
    | none =>
      rw [hm] at herr
      exact optional_of_absent herr
    | some m =>
      rw [hm] at herr
      apply field_of_once herr (H.once _ (by decide))
      cases m <;> rfl
  apply decoder_of_members fun m hm => ⟨H.spelled m hm, h m hm⟩
  exact ofMembers_seq.2 ⟨_, _, ofMembers_seq.2 ⟨_, _, ofMembers_seq.2 ⟨_, _,
    ofMembers_map.2 ⟨_, hi, rfl⟩, hs, rfl⟩, hr, rfl⟩, he, rfl⟩

end Said

/-! ## Written replies -/

theorem members (r : Reply) : ∃ fs, r.toJson = .object fs ∧ (fs.map (·.1)).Nodup ∧
    fs.lookup "requestId" = some r.requestId.toJson ∧
    fs.lookup "success" = some (.bool r.isSuccess) ∧ fs.lookup "result" = r.result? ∧
    fs.lookup "errorMessage" = r.errorMessage?.map .string := by
  obtain ⟨id, o⟩ := r
  cases o <;> refine ⟨_, rfl, ?_⟩ <;>
    simp [List.lookup_cons, isSuccess, result?, errorMessage?]

section
variable {fs : List (String × Value)} {p : Parts} {r : Reply}

theorem ofBytes_written
    (hi : (required "requestId" Uuid.decoder).ofMembers (Value.readBackFields 1 fs) =
      .ok p.requestId)
    (hs : (required "success" .bool).ofMembers (Value.readBackFields 1 fs) = .ok p.success)
    (hr : (optional "result" (fun t => (Decoder.value t).map some) none).ofMembers
      (Value.readBackFields 1 fs) = .ok p.result)
    (he : (optional "errorMessage" (.option .string) none).ofMembers (Value.readBackFields 1 fs) =
      .ok p.errorMessage) (hp : ofParts p = .ok r) : ofBytes (Value.object fs).print = .ok r := by
  have H : Reply.partsDecoder ((Value.object fs).readBack 0) = .ok p := by
    apply decoder_written (by decide)
    exact ofMembers_seq.2 ⟨_, _, ofMembers_seq.2 ⟨_, _, ofMembers_seq.2 ⟨_, _,
      ofMembers_map.2 ⟨_, hi, rfl⟩, hs, rfl⟩, hr, rfl⟩, he, rfl⟩
  rw [ofBytes, Except.mapError_eq_ok, Value.decode_print, Except.mapError_eq_ok, decoder, H]
  exact hp

end

/-- A successful reply is read with the result that its text is read as. -/
theorem ofBytes_success (id : Uuid) {v w : Value} (H : Decoder.value (v.readBack 1) = .ok w) :
    ofBytes (toBytes ⟨id, .success v⟩) = .ok ⟨id, .success w⟩ := by
  obtain ⟨fs, hfs, hn, hid, hsuccess, hresult, herror⟩ := members ⟨id, .success v⟩
  rw [toBytes, hfs]
  apply ofBytes_written (p := ⟨id, true, some w, none⟩)
  · exact field_written hn hid (Uuid.decoder_readBack id 1)
  · exact field_written hn hsuccess rfl
  · exact field_written hn hresult (by rw [H]; rfl)
  · exact optional_unwritten herror
  · rfl

theorem ofBytes_failure (id : Uuid) (m : String) :
    ofBytes (toBytes ⟨id, .failure m⟩) = .ok ⟨id, .failure m⟩ := by
  obtain ⟨fs, hfs, hn, hid, hsuccess, hresult, herror⟩ := members ⟨id, .failure m⟩
  rw [toBytes, hfs]
  apply ofBytes_written (p := ⟨id, false, none, some m⟩)
  · exact field_written hn hid (Uuid.decoder_readBack id 1)
  · exact field_written hn hsuccess rfl
  · exact optional_unwritten hresult
  · exact field_written hn herror rfl
  · rfl

end CallGateway.Reply
