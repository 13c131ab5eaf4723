import Mathlib.Data.List.DropRight
import CallGateway.Proofs.Json.Whole
import CallGateway.Proofs.Message.Wire

/-!
# Headers beside envelopes

The header of a message is read where the envelope cannot be, so that its sender still gets an
answer. From an object the two readers take the same identifier and the same topic: where there is an
envelope there is its header, and a header without an envelope means that some other part of the
message is at fault.
-/

namespace CallGateway

namespace Json

theorem skipBlank_skipBlank (bs : Bytes) : skipBlank (skipBlank bs) = skipBlank bs :=
  List.dropWhile_idempotent ..

theorem scanValue_skipBlank (fuel level : Nat) (bs : Bytes) :
    scanValue fuel level (skipBlank bs) = scanValue fuel level bs := by
  cases fuel with
  | zero => rfl
  | succ fuel => rw [scanValue, scanValue, skipBlank_skipBlank]

/-- A text that starts with a brace is read as an object, however far it goes. -/
theorem scan_object {bs : Bytes} (h : (skipBlank bs).head? = some (byte '\x7b')) :
    ∃ deep ms, (scan bs).1 = .object deep ms := by
  obtain ⟨rest, hrest⟩ := List.head?_eq_some_iff.1 h
  rw [scan, ← scanValue_skipBlank, hrest, scanValue_brace]
  split <;> exact ⟨_, _, rfl⟩

/-- What is decoded from a text depends on the decoder only by what it makes of the document. -/
theorem decode_eq_ok {d : Decoder α} {bs : Bytes} {a : α} :
    decode d bs = .ok a ↔
      d (scan bs).1 = .ok a ∧ ∃ rest, (scan bs).2 = some rest ∧ (skipBlank rest).isEmpty = true := by
  rw [decode, decodeFront]
  cases d (scan bs).1 with
  | error p =>
    refine iff_of_false (fun h => by cases h) ?_
    rintro ⟨h, -⟩
    cases h
  | ok b =>
    cases (scan bs).2 with
    | none =>
      refine iff_of_false (fun h => by cases h) ?_
      rintro ⟨-, rest, h, -⟩
      cases h
    | some rest =>
      show (if _ then Except.ok b else Except.error Problem.malformed) = _ ↔ _
      simp only [Option.some.injEq, exists_eq_left']
      split
      · next hrest => exact (and_iff_left hrest).symm
      · next hrest =>
        refine iff_of_false (fun h => by cases h) ?_
        rintro ⟨-, h⟩
        exact hrest h

end Json

open Json Fields

theorem Uuid.decoder_whole : Uuid.decoder.Whole := Decoder.parsed_whole _ _ _

theorem Instant.decoder_whole : Instant.decoder.Whole := Decoder.parsed_whole _ _ _

theorem Metadata.decoder_whole : Metadata.decoder.Whole :=
  have text := Decoder.string_whole
  Whole.decoder
    ((((field_whole text.option "userId" _).map _).seq (field_whole text.option "tenantId" _)).seq
      (field_whole text.map "headers" _)) _

namespace Envelope

variable {now : Instant} {ms : List (Option String × Tree)} {e : Envelope}

/-- Nothing in an envelope breaks off. -/
theorem members_of_decoder (H : decoder now (.object deep ms) = .ok e) :
    ∀ m ∈ ms, m.1.isSome = true ∧ m.2.intact = true := by
  have text := Decoder.string_whole
  refine Whole.members ?_ H
  exact ((((((((field_whole Uuid.decoder_whole _ _).map _).seq (field_whole text _ _)).seq
    (field_whole text _ _)).seq (field_whole Decoder.value_whole _ _)).seq
    (field_whole text _ _)).seq (field_whole Metadata.decoder_whole _ _)).seq
    (field_whole Instant.decoder_whole _ _))

/-- Where there is an envelope there is its header. -/
theorem header_of_decoder (H : decoder now (.object deep ms) = .ok e) :
    Header.decoder (.object deep ms) = .ok e.header := by
  cases deep with
  | true => cases H
  | false =>
    obtain ⟨hid, -, -, hreply⟩ := of_object H
    refine decoder_of_members (members_of_decoder H) (ofMembers_seq.2 ?_)
    exact ⟨_, _, ofMembers_map.2 ⟨_, hid, rfl⟩, hreply, rfl⟩

theorem header_of_decode {bs : Bytes} (brace : (skipBlank bs).head? = some (byte '\x7b'))
    (H : decode (decoder now) bs = .ok e) : decode Header.decoder bs = .ok e.header := by
  obtain ⟨hd, hend⟩ := decode_eq_ok.1 H
  obtain ⟨deep, ms, hms⟩ := scan_object brace
  rw [hms] at hd
  refine decode_eq_ok.2 ⟨?_, hend⟩
  rw [hms]
  exact header_of_decoder hd

end Envelope

namespace Header

/-- What the two readers have to say of the same text. -/
structure Agrees (now : Instant) (bs : Bytes) : Prop where
  envelope : ∀ e, Envelope.ofBytes now bs = .ok e → ofBytes? bs = some e.header
  noReplyTopic : ∀ id, Envelope.ofBytes now bs = .error (.noReplyTopic id) → ofBytes? bs = none
  malformed : ∀ h err, ofBytes? bs = some h → Envelope.ofBytes now bs = .error err →
    ∃ p, err = .malformed p

theorem ofBytes?_of_decode {bs : Bytes} {h : Header} (H : decode decoder bs = .ok h) :
    ofBytes? bs = if Text.isBlank h.replyTo then none else some h := by
  rw [ofBytes?, H]

/-- A reader of headers agrees with a reader of envelopes on every text that starts like an
object. -/
theorem agrees (now : Instant) (bs : Bytes) (brace : (skipBlank bs).head? = some (byte '\x7b')) :
    Agrees now bs := by
  cases he : decode (Envelope.decoder now) bs with
  | error p =>
    have hbytes : Envelope.ofBytes now bs = .error (.malformed p) := by rw [Envelope.ofBytes, he]
    refine ⟨fun e h => ?_, fun id h => ?_, fun h err _ herr => ⟨p, ?_⟩⟩
    · rw [hbytes] at h; cases h
    · rw [hbytes] at h; cases h
    · exact (Except.error.inj (hbytes.symm.trans herr)).symm
  | ok e =>
    have hheader := ofBytes?_of_decode (Envelope.header_of_decode brace he)
    by_cases blank : Text.isBlank e.replyTo = true
    · have hbytes : Envelope.ofBytes now bs = .error (.noReplyTopic e.requestId) := by
        simp only [Envelope.ofBytes, he, if_pos blank]
      rw [if_pos (show Text.isBlank e.header.replyTo = true from blank)] at hheader
      refine ⟨fun e' h => ?_, fun id h => hheader, fun h err hh herr => ?_⟩
      · rw [hbytes] at h; cases h
      · rw [hheader] at hh; cases hh
    · have hbytes : Envelope.ofBytes now bs = .ok e := by
        simp only [Envelope.ofBytes, he, if_neg blank]
      rw [if_neg (show ¬ Text.isBlank e.header.replyTo = true from blank)] at hheader
      refine ⟨fun e' h => ?_, fun id h => ?_, fun h err hh herr => ?_⟩
      · rw [hheader, Except.ok.inj (hbytes.symm.trans h)]
      · rw [hbytes] at h; cases h
      · rw [hbytes] at herr; cases herr

/-- A text whose names are out of order and in part written with escapes. -/
def escaped : Bytes :=
  Bytes.ofString <|
    " \x7b\"reply\\u0054o\": \"r\", \"procedureName\":\"p\", \"extra\": [[]], " ++
      "\"clientType\":\"c\",\"requestId\":\"00000000-0000-0000-0000-000000000007\"\x7d"

theorem agrees_escaped : (skipBlank escaped).head? = some (byte '\x7b') ∧
    (Envelope.ofBytes .epoch escaped).toOption.map Envelope.header = some ⟨⟨7⟩, "r"⟩ ∧
    ofBytes? escaped = some ⟨⟨7⟩, "r"⟩ := by
  have brace : (skipBlank escaped).head? = some (byte '\x7b') := by decide +kernel
  have read : (Envelope.ofBytes .epoch escaped).toOption.map Envelope.header = some ⟨⟨7⟩, "r"⟩ := by
    decide +kernel
  refine ⟨brace, read, ?_⟩
  cases he : Envelope.ofBytes .epoch escaped with
  | error err => rw [he] at read; cases read
  | ok e =>
    rw [(agrees .epoch escaped brace).envelope e he]
    rw [he] at read
    exact read

end Header

end CallGateway
