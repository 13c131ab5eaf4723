import CallGateway.Proofs.Json.Depth
import CallGateway.Proofs.Message.ReplyRules

/-!
# Messages that say whom to answer

An object that names a call and a topic for its reply is readable as far as it takes to answer it,
whatever else it holds and however deep. A reply is readable if its result is nested within the
limit, though the numbers in it may be read as others.
-/

namespace CallGateway

open Json Fields

/-- Fields that say which call a message belongs to and where its reply goes, among any others. -/
structure Addressed (fs : List (String × Value)) (h : Header) : Prop where
  distinct : (fs.map (·.1)).Nodup
  requestId : ∃ text, fs.lookup "requestId" = some (.string text) ∧
    Uuid.parse? text = some h.requestId
  replyTo : fs.lookup "replyTo" = some (.string h.replyTo)
  notBlank : Text.isBlank h.replyTo = false

namespace Addressed

variable {fs : List (String × Value)} {h : Header}

theorem uuid (H : Addressed fs h) : ∃ text, fs.lookup "requestId" = some (.string text) ∧
    Uuid.decoder ((Value.string text).readBack 1) = .ok h.requestId := by
  obtain ⟨text, ht, hp⟩ := H.requestId
  refine ⟨text, ht, ?_⟩
  show Decoder.parsed _ _ Uuid.parse? (.string (some text)) = _
  rw [Decoder.parsed, hp]

/-- The header is readable. -/
theorem header (H : Addressed fs h) : Header.ofBytes? (Value.object fs).print = some h := by
  obtain ⟨text, ht, hu⟩ := H.uuid
  have hd : decode Header.decoder (Value.object fs).print = .ok h := by
    rw [Value.decode_print, Except.mapError_eq_ok]
    apply decoder_written (by decide)
    exact ofMembers_seq.2 ⟨_, _, ofMembers_map.2 ⟨_, field_written H.distinct ht hu, rfl⟩,
      field_written H.distinct H.replyTo rfl, rfl⟩
  rw [Header.ofBytes?, hd]
  exact if_neg (by rw [H.notBlank]; exact Bool.false_ne_true)

/-- An envelope that is read from such a message has its header, and parameters that fit into a
message again. -/
theorem envelope (H : Addressed fs h) {now : Instant} {e : Envelope}
    (he : Envelope.ofBytes now (Value.object fs).print = .ok e) :
    e.header = h ∧ 1 + e.parameters.nesting ≤ nestingLimit := by
  obtain ⟨hi, -, hv, hr⟩ := Envelope.of_decoded (Envelope.ofBytes_eq_ok he)
  obtain ⟨text, ht, hu⟩ := H.uuid
  have hi := field_member hi ht
  have hr := field_member hr H.replyTo
  rw [hu] at hi
  constructor
  · rw [Envelope.header, ← Except.ok.inj hi, ← Except.ok.inj hr]
  · cases hp : fs.lookup "parameters" with
    | none =>
      rw [← Option.some.inj (field_no_member hv hp)]
      decide
    | some v => exact Value.nesting_of_value_readBack v (by decide) (field_member hv hp)

theorem topic_nonempty (H : Addressed fs h) : h.replyTo.isEmpty = false := by
  rw [String.isEmpty_eq_false_iff]
  intro h0
  have hb := H.notBlank
  rw [h0] at hb
  cases hb

end Addressed

/-- A reply whose result fits is read as a reply to the same call. -/
theorem Reply.exists_ofBytes {r : Reply}
    (H : ∀ v, r.result? = some v → 1 + v.nesting ≤ nestingLimit) :
    ∃ r', Reply.ofBytes r.toBytes = .ok r' ∧ r'.requestId = r.requestId := by
  obtain ⟨id, v | m⟩ := r
  · obtain ⟨w, hw⟩ := v.exists_value_readBack (H v rfl)
    exact ⟨_, ofBytes_success id hw, rfl⟩
  · exact ⟨_, ofBytes_failure id m, rfl⟩

end CallGateway
