import CallGateway.Message.Reply
import CallGateway.Proofs.Json.Record
import CallGateway.Proofs.Uuid

/-!
# Messages on the wire

Envelopes and replies share topics, so what is read need not be of the kind that is expected. Each
kind is told from the other, and what is taken for an envelope or a reply has the identifier, the
procedure and the error message of the one that was written.
-/

namespace CallGateway

open Json Fields

theorem Uuid.decoder_readBack (u : Uuid) (level : Nat) :
    Uuid.decoder (u.toJson.readBack level) = .ok u := by
  show Decoder.parsed _ _ Uuid.parse? (.string (some u.display)) = _
  rw [Decoder.parsed, Uuid.parse?_display]

section
variable {fs : List (String × Value)} {level : Nat} {name : String} {d : Decoder α}
  {absent : Option α} {a : α}

/-- A field of a printed object that has a member of its name. -/
theorem field_member {v : Value}
    (H : (field name d absent).ofMembers (Value.readBackFields level fs) = .ok a)
    (h : fs.lookup name = some v) : d (v.readBack level) = .ok a :=
  field_of_lookup H (by rw [lookup_readBackFields, h]; rfl)

theorem field_no_member
    (H : (field name d absent).ofMembers (Value.readBackFields level fs) = .ok a)
    (h : fs.lookup name = none) : absent = some a :=
  field_of_absent H (by rw [lookup_readBackFields, h]; rfl)

end

/-! ## Envelopes -/

/-- Fields of an envelope, each from the members of its name. -/
theorem Envelope.of_object {now : Instant} {ms : List (Option String × Tree)} {e : Envelope}
    (H : Envelope.decoder now (.object deep ms) = .ok e) :
    (required "requestId" Uuid.decoder).ofMembers ms = .ok e.requestId ∧
    (required "procedureName" .string).ofMembers ms = .ok e.procedureName ∧
    (optional "parameters" .value .null).ofMembers ms = .ok e.parameters ∧
    (required "replyTo" .string).ofMembers ms = .ok e.replyTo := by
  obtain ⟨_, _, H₁, -, rfl⟩ := ofMembers_seq.1 (decoder_object H)
  obtain ⟨_, _, H₂, -, rfl⟩ := ofMembers_seq.1 H₁
  obtain ⟨_, _, H₃, hr, rfl⟩ := ofMembers_seq.1 H₂
  obtain ⟨_, _, H₄, hv, rfl⟩ := ofMembers_seq.1 H₃
  obtain ⟨_, _, H₅, hp, rfl⟩ := ofMembers_seq.1 H₄
  obtain ⟨_, _, H₆, -, rfl⟩ := ofMembers_seq.1 H₅
  obtain ⟨_, hi, rfl⟩ := ofMembers_map.1 H₆
  exact ⟨hi, hp, hv, hr⟩

theorem Envelope.of_decoded {now : Instant} {fs : List (String × Value)} {e : Envelope}
    (H : decode (Envelope.decoder now) (Value.object fs).print = .ok e) :
    (required "requestId" Uuid.decoder).ofMembers (Value.readBackFields 1 fs) = .ok e.requestId ∧
    (required "procedureName" .string).ofMembers (Value.readBackFields 1 fs) =
      .ok e.procedureName ∧
    (optional "parameters" .value .null).ofMembers (Value.readBackFields 1 fs) =
      .ok e.parameters ∧
    (required "replyTo" .string).ofMembers (Value.readBackFields 1 fs) = .ok e.replyTo := by
  rw [Value.decode_print, Except.mapError_eq_ok] at H
  exact of_object H

theorem Header.of_decoded {fs : List (String × Value)} {h : Header}
    (H : decode Header.decoder (Value.object fs).print = .ok h) :
    (required "requestId" Uuid.decoder).ofMembers (Value.readBackFields 1 fs) = .ok h.requestId ∧
    (required "replyTo" .string).ofMembers (Value.readBackFields 1 fs) = .ok h.replyTo := by
  obtain ⟨_, _, H₁, hr, rfl⟩ := ofMembers_seq.1 (decode_object H)
  obtain ⟨_, hi, rfl⟩ := ofMembers_map.1 H₁
  exact ⟨hi, hr⟩

/-- What is taken for an envelope has been decoded. -/
theorem Envelope.ofBytes_eq_ok {now : Instant} {bs : Bytes} {e : Envelope}
    (H : Envelope.ofBytes now bs = .ok e) : decode (decoder now) bs = .ok e := by
  rw [ofBytes] at H
  split at H
  · cases H
  · next h =>
    split at H
    · cases H
    · cases H; exact h

/-- The members of an envelope on the wire. -/
theorem Envelope.toJson_eq (e : Envelope) : ∃ fs, e.toJson = .object fs ∧
    fs.lookup "requestId" = some e.requestId.toJson ∧
    fs.lookup "procedureName" = some (.string e.procedureName) ∧ fs.lookup "success" = none := by
  refine ⟨_, rfl, ?_, ?_, ?_⟩ <;> simp [List.lookup_cons]

theorem Envelope.ofBytes_toBytes {e e' : Envelope} {now : Instant}
    (H : Envelope.ofBytes now e.toBytes = .ok e') :
    e'.requestId = e.requestId ∧ e'.procedureName = e.procedureName := by
  obtain ⟨fs, hfs, hid, hproc, -⟩ := e.toJson_eq
  have H := ofBytes_eq_ok H
  rw [toBytes, hfs] at H
  obtain ⟨hi, hp, -⟩ := of_decoded H
  have hi := field_member hi hid
  have hp := field_member hp hproc
  rw [Uuid.decoder_readBack] at hi
  exact ⟨(Except.ok.inj hi).symm, (Except.ok.inj hp).symm⟩

/-! ## Replies -/

namespace Reply

/-- The members of a reply on the wire. -/
theorem toJson_eq (r : Reply) : ∃ fs, r.toJson = .object fs ∧
    fs.lookup "requestId" = some r.requestId.toJson ∧
    fs.lookup "success" = some (.bool r.isSuccess) ∧
    fs.lookup "errorMessage" = r.errorMessage?.map .string ∧ fs.lookup "replyTo" = none := by
  obtain ⟨id, o⟩ := r
  cases o <;>
    refine ⟨_, rfl, ?_, ?_, ?_, ?_⟩ <;> simp [List.lookup_cons, isSuccess, errorMessage?]

theorem outcome_of_errorMessage? {r : Reply} (H : r.errorMessage? = some m) :
    r.outcome = .failure m := by
  obtain ⟨id, o⟩ := r
  cases o <;> cases H
  rfl

theorem parts_of_decoded {fs : List (String × Value)} {p : Parts}
    (H : partsDecoder ((Value.object fs).readBack 0) = .ok p) :
    (required "requestId" Uuid.decoder).ofMembers (Value.readBackFields 1 fs) = .ok p.requestId ∧
    (required "success" .bool).ofMembers (Value.readBackFields 1 fs) = .ok p.success ∧
    (optional "errorMessage" (.option .string) none).ofMembers (Value.readBackFields 1 fs) =
      .ok p.errorMessage := by
  obtain ⟨_, _, H₁, he, rfl⟩ := ofMembers_seq.1 (decoder_object H)
  obtain ⟨_, _, H₂, -, rfl⟩ := ofMembers_seq.1 H₁
  obtain ⟨_, _, H₃, hs, rfl⟩ := ofMembers_seq.1 H₂
  obtain ⟨_, hi, rfl⟩ := ofMembers_map.1 H₃
  exact ⟨hi, hs, he⟩

theorem ofBytes_print {v : Value} {r : Reply} (H : Reply.ofBytes v.print = .ok r) :
    ∃ p, partsDecoder (v.readBack 0) = .ok p ∧ ofParts p = .ok r := by
  rw [ofBytes, Except.mapError_eq_ok, Value.decode_print, Except.mapError_eq_ok, decoder] at H
  cases hp : partsDecoder (v.readBack 0) with
  | error e => rw [hp] at H; cases H
  | ok p => rw [hp] at H; exact ⟨p, rfl, H⟩

theorem ofParts_eq_ok {p : Parts} {r : Reply} (H : ofParts p = .ok r) :
    r.requestId = p.requestId ∧ r.errorMessage? = p.errorMessage := by
  obtain ⟨id, success, result, error⟩ := p
  cases success <;> cases result <;> cases error <;> cases H <;> exact ⟨rfl, rfl⟩

theorem ofBytes_toBytes {r r' : Reply} (H : Reply.ofBytes r.toBytes = .ok r') :
    r'.requestId = r.requestId ∧ r'.errorMessage? = r.errorMessage? := by
  obtain ⟨p, hp, hr⟩ := ofBytes_print H
  obtain ⟨fs, hfs, hid, -, herr, -⟩ := r.toJson_eq
  rw [hfs] at hp
  obtain ⟨hi, -, he⟩ := parts_of_decoded hp
  obtain ⟨hri, hre⟩ := ofParts_eq_ok hr
  have hi := field_member hi hid
  rw [Uuid.decoder_readBack] at hi
  refine ⟨hri.trans (Except.ok.inj hi).symm, hre.trans ?_⟩
  cases hm : r.errorMessage? with
  | none =>
    rw [hm] at herr
    exact (Option.some.inj (field_no_member he herr)).symm
  | some m =>
    rw [hm] at herr
    have he := field_member he herr
    exact (Except.ok.inj he).symm

end Reply

/-! ## One kind in the place of the other -/

/-- An envelope is no reply. -/
theorem Reply.ofBytes_envelope (e : Envelope) : (Reply.ofBytes e.toBytes).toOption = none := by
  cases H : Reply.ofBytes e.toBytes with
  | error _ => rfl
  | ok r =>
    obtain ⟨p, hp, -⟩ := ofBytes_print H
    obtain ⟨fs, hfs, -, -, hno⟩ := e.toJson_eq
    rw [hfs] at hp
    cases field_no_member (parts_of_decoded hp).2.1 hno

/-- A reply is no envelope. -/
theorem Envelope.ofBytes_reply (now : Instant) (r : Reply) :
    (Envelope.ofBytes now r.toBytes).toOption = none := by
  cases H : Envelope.ofBytes now r.toBytes with
  | error _ => rfl
  | ok e =>
    obtain ⟨fs, hfs, -, -, -, hno⟩ := r.toJson_eq
    have H := ofBytes_eq_ok H
    rw [Reply.toBytes, hfs] at H
    cases field_no_member (of_decoded H).2.2.2 hno

/-- Nobody can be told from a reply who could be answered. -/
theorem Header.ofBytes?_reply (r : Reply) : Header.ofBytes? r.toBytes = none := by
  rw [ofBytes?]
  split
  · rfl
  · next h H =>
    obtain ⟨fs, hfs, -, -, -, hno⟩ := r.toJson_eq
    rw [Reply.toBytes, hfs] at H
    cases field_no_member (of_decoded H).2 hno

end CallGateway
