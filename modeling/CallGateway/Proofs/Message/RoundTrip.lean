import CallGateway.Proofs.Instant.Text
import CallGateway.Proofs.Json.Value
import CallGateway.Proofs.Message.Wire

/-!
# Messages come back

What is written is read as it was, field by field: the fields that are left out because they are
empty are the ones that default to being empty.
-/

namespace CallGateway

open Json Fields

/-! ## Metadata -/

theorem map_go_strings (level : Nat) (entries : List (String × String)) :
    Decoder.map.go .string (Value.readBackFields level
      (entries.map fun (k, s) => (k, .string s))) = .ok entries := by
  induction entries with
  | nil => rfl
  | cons e entries ih =>
    simp only [List.map_cons, Value.readBackFields, Value.readBack, Decoder.map.go, ih]
    rfl

theorem map_strings {level : Nat} {entries : List (String × String)} (H : Ascending entries)
    (hl : level < nestingLimit) : Decoder.map .string ((Value.object
      (entries.map fun (k, s) => (k, .string s))).readBack level) = .ok entries := by
  rw [Value.readBack, Decoder.map, decide_eq_false (Nat.not_le_of_lt hl), map_go_strings]
  exact congrArg Except.ok (sortFields_of_ascending H)

namespace Metadata

/-- The members of metadata on the wire. -/
theorem toJson_eq (m : Metadata) : ∃ fs, m.toJson = .object fs ∧ (fs.map (·.1)).Nodup ∧
    fs.lookup "userId" = m.userId.map .string ∧ fs.lookup "tenantId" = m.tenantId.map .string ∧
    fs.lookup "headers" = if m.headers.isEmpty then none
      else some (.object (m.headers.map fun (k, s) => (k, .string s))) := by
  obtain ⟨userId, tenantId, headers⟩ := m
  refine ⟨_, rfl, ?_⟩
  cases userId <;> cases tenantId <;> cases headers <;> simp [List.lookup_cons]

theorem decoder_readBack {m : Metadata} {level : Nat} (H : Ascending m.headers)
    (hl : level + 1 < nestingLimit) : decoder (m.toJson.readBack level) = .ok m := by
  obtain ⟨fs, hfs, hn, huser, htenant, hheaders⟩ := m.toJson_eq
  have hh : (optional "headers" (.map .string) []).ofMembers
      (Value.readBackFields (level + 1) fs) = .ok m.headers := by
    cases hm : m.headers with
    | nil =>
      rw [hm] at hheaders
      exact optional_unwritten hheaders
    | cons e entries =>
      rw [hm] at hheaders H
      exact field_written hn hheaders (map_strings H hl)
  rw [hfs]
  apply decoder_written (by omega)
  refine ofMembers_seq.2 ⟨_, _, ofMembers_seq.2 ⟨_, _, ofMembers_map.2 ⟨_, ?_, rfl⟩, ?_, rfl⟩, hh,
    rfl⟩
  · exact text_written hn huser
  · exact text_written hn htenant

end Metadata

/-! ## Envelopes -/

namespace Envelope

theorem members (e : Envelope) : ∃ fs, e.toJson = .object fs ∧ (fs.map (·.1)).Nodup ∧
    fs.lookup "requestId" = some e.requestId.toJson ∧
    fs.lookup "clientType" = some (.string e.clientType) ∧
    fs.lookup "procedureName" = some (.string e.procedureName) ∧
    fs.lookup "parameters" = some e.parameters ∧
    fs.lookup "replyTo" = some (.string e.replyTo) ∧
    fs.lookup "metadata" = some e.metadata.toJson ∧
    fs.lookup "issuedAt" = some e.issuedAt.toJson := by
  refine ⟨_, rfl, ?_⟩
  simp [List.lookup_cons]

theorem decoder_readBack {e : Envelope} (now : Instant) (hp : e.parameters.Faithful 1)
    (hm : Ascending e.metadata.headers) : decoder now (e.toJson.readBack 0) = .ok e := by
  obtain ⟨fs, hfs, hn, hid, hclient, hproc, hparams, hreply, hmeta, hissued⟩ := e.members
  have hissue : Instant.decoder (e.issuedAt.toJson.readBack 1) = .ok e.issuedAt := by
    show Decoder.parsed _ _ Instant.parse? (.string (some e.issuedAt.display)) = _
    rw [Decoder.parsed, Instant.parse?_display]
  rw [hfs]
  apply decoder_written (by decide)
  refine ofMembers_seq.2 ⟨_, _, ofMembers_seq.2 ⟨_, _, ofMembers_seq.2 ⟨_, _, ofMembers_seq.2 ⟨_, _,
    ofMembers_seq.2 ⟨_, _, ofMembers_seq.2 ⟨_, _, ofMembers_map.2 ⟨_, ?_, rfl⟩, ?_, rfl⟩, ?_, rfl⟩,
    ?_, rfl⟩, ?_, rfl⟩, ?_, rfl⟩, ?_, rfl⟩
  · exact field_written hn hid (Uuid.decoder_readBack _ _)
  · exact field_written hn hclient rfl
  · exact field_written hn hproc rfl
  · exact field_written hn hparams hp.value_readBack
  · exact field_written hn hreply rfl
  · exact field_written hn hmeta (Metadata.decoder_readBack hm (by decide))
  · exact field_written hn hissued hissue

/-- An envelope that names a reply topic is read as it was written, if its parameters are nested 126
deep at most and their floating-point numbers are read back. -/
theorem round_trip (e : Envelope) (now : Instant) (hr : Text.isBlank e.replyTo = false)
    (hn : e.parameters.nesting ≤ 126) (hf : ∀ x ∈ e.parameters.floats, Value.Survives x)
    (ho : e.parameters.Ordered) (hm : Ascending e.metadata.headers) :
    ofBytes now e.toBytes = .ok e := by
  have hp : e.parameters.Faithful 1 := by
    refine ⟨ho, ?_, hf⟩
    rw [show nestingLimit = 127 from rfl]
    omega
  have H : decode (decoder now) e.toBytes = .ok e := by
    rw [toBytes, Value.decode_print, decoder_readBack now hp hm]
    rfl
  rw [ofBytes, H]
  exact if_neg (by rw [hr]; exact Bool.false_ne_true)

/-- Limits of every kind: the integers, escapes, the least and a large floating-point number, a leap
second, an empty text that is present and one that is absent. -/
def extremes : Envelope where
  requestId := ⟨0xffffffffffffffffffffffffffffffff⟩
  clientType := "CLIENT_1"
  procedureName := "line\nbreak \"quoted\" \\ Σ"
  parameters := .object [("\x00", .number (.int (-9223372036854775808) (by decide))),
    ("a", .array [.number (.int 18446744073709551615 (by decide)), .null, .bool true,
      .number (.float { Binary64.zero with negative := true }),
      .number (.float ⟨false, 1, by decide⟩),
      .number (.float ⟨false, 0x7e37e43c8800759c, by decide⟩)]),
    ("𝄞", .object [("", .string "\u007f")])]
  replyTo := "relay.responses"
  metadata := ⟨some "", none, [("", "empty"), ("trace", "\t")]⟩
  issuedAt := ⟨⟨-1, 2, 28⟩, 23, 59, 60, 120000000, by decide⟩

theorem round_trip_extremes : Text.isBlank extremes.replyTo = false ∧
    extremes.parameters.nesting ≤ 126 ∧
    (∀ x ∈ extremes.parameters.floats, Value.Survives x) ∧ extremes.parameters.Ordered ∧
    Ascending extremes.metadata.headers ∧ ofBytes .epoch extremes.toBytes = .ok extremes := by
  have hr : Text.isBlank extremes.replyTo = false := by decide
  have hn : extremes.parameters.nesting ≤ 126 := by decide
  have hf : ∀ x ∈ extremes.parameters.floats, Value.Survives x := by decide +kernel
  have ho : extremes.parameters.Ordered := by
    simp only [extremes, Value.Ordered, Value.OrderedFields, Value.OrderedItems]
    decide
  have hm : Ascending extremes.metadata.headers := by decide
  exact ⟨hr, hn, hf, ho, hm, round_trip extremes .epoch hr hn hf ho hm⟩

end Envelope

end CallGateway
