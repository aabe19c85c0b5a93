import ClusterDriver.Proofs.Frame
import ClusterDriver.ServerError

set_option autoImplicit false

namespace ClusterDriver

theorem ServerErrorKind.code_ofCode (code : Int32) : (ofCode code).code = code := by
  unfold ofCode
  split
  case h_15 => rfl
  all_goals
    next known => exact Int32.toInt_inj.1 known.symm

namespace ServerError

/-- A code in four bytes, a length in two, the upper one first, and a text of that many bytes. -/
structure Envelope where
  code : List UInt8
  upper : UInt8
  lower : UInt8
  message : ByteArray
  four : code.length = 4
  fits : message.size = 256 * upper.toNat + lower.toNat
  valid : message.IsValidUTF8

namespace Envelope

variable (envelope : Envelope)

def bytes : ByteArray :=
  bytesOfList (envelope.code ++ [envelope.upper, envelope.lower]) ++ envelope.message

def serverError : ServerError where
  kind := .ofCode (UInt32.ofNat (BigEndian.toNat envelope.code)).toInt32
  message := .ofByteArray envelope.message envelope.valid

theorem size_bytes : envelope.bytes.size = 6 + envelope.message.size := by
  simp [bytes, size_bytesOfList, envelope.four]

theorem extract_bytes (trailing : ByteArray) :
    (envelope.bytes ++ trailing).extract 0 (6 + envelope.message.size) = envelope.bytes := by
  rw [← size_bytes, ByteArray.extract_append_eq_left rfl]

end Envelope

theorem decode_split {code : List UInt8} {upper lower : UInt8} {length : Nat}
    (four : code.length = 4) (announced : length = 256 * upper.toNat + lower.toNat)
    (rest : ByteArray) :
    decode (bytesOfList (code ++ [upper, lower]) ++ rest) =
      if rest.size < length then
        .error (.malformed s!"ERROR message announces {length} bytes, {rest.size} available")
      else
        match Text.Utf8.text? (rest.extract 0 length) with
        | .error fault => .error (.malformed ("ERROR message is not UTF-8: " ++ fault.message))
        | .ok message => .ok ⟨.ofCode (UInt32.ofNat (BigEndian.toNat code)).toInt32, message⟩ := by
  have front : (bytesOfList (code ++ [upper, lower])).size = 6 := by
    simp [size_bytesOfList, four]
  have size : (bytesOfList (code ++ [upper, lower]) ++ rest).size = 6 + rest.size := by
    rw [ByteArray.size_append, front]
  have first : ((bytesOfList (code ++ [upper, lower]) ++ rest).extract 0 4).data.toList = code := by
    simp [bytesOfList, four]
  have second : ((bytesOfList (code ++ [upper, lower]) ++ rest).extract 4 6).data.toList =
      [upper, lower] := by
    simp [bytesOfList, four]
  have read : BigEndian.toNat [upper, lower] = length := by
    simp [BigEndian.toNat, announced, Nat.mul_comm]
  have message : (bytesOfList (code ++ [upper, lower]) ++ rest).extract 6 (6 + length) =
      rest.extract 0 length := by
    have skipped := ByteArray.extract_append_size_add (a := bytesOfList (code ++ [upper, lower]))
      (b := rest) (i := 0) (j := length)
    rwa [front] at skipped
  simp only [decode, envelopeLength, size, first, second, read, message, Nat.add_sub_cancel_left]
  exact if_neg (by omega)

theorem text?_eq_ok_iff (bytes : ByteArray) (text : String) :
    Text.Utf8.text? bytes = .ok text ↔ ∃ valid, text = .ofByteArray bytes valid := by
  unfold Text.Utf8.text? String.fromUTF8?
  by_cases valid : bytes.IsValidUTF8
  · simp [valid, String.fromUTF8, eq_comm]
  · simp [valid]

theorem decode_envelope (envelope : Envelope) (trailing : ByteArray) :
    decode (envelope.bytes ++ trailing) = .ok envelope.serverError := by
  have room : ¬ (envelope.message ++ trailing).size < envelope.message.size := by
    rw [ByteArray.size_append]
    omega
  have text : Text.Utf8.text? envelope.message = .ok envelope.serverError.message :=
    (text?_eq_ok_iff ..).2 ⟨envelope.valid, rfl⟩
  rw [Envelope.bytes, ByteArray.append_assoc, decode_split envelope.four envelope.fits, if_neg room,
    ByteArray.extract_append_eq_left rfl, text]
  rfl

theorem exists_front {body : ByteArray} (long : 6 ≤ body.size) :
    ∃ (code : List UInt8) (upper lower : UInt8) (rest : ByteArray),
      code.length = 4 ∧ body = bytesOfList (code ++ [upper, lower]) ++ rest := by
  obtain ⟨⟨data⟩⟩ := body
  match data, long with
  | c₃ :: c₂ :: c₁ :: c₀ :: upper :: lower :: rest, _ =>
    refine ⟨[c₃, c₂, c₁, c₀], upper, lower, bytesOfList rest, rfl, ?_⟩
    ext1
    simp [bytesOfList]

theorem exists_envelope {body : ByteArray} {serverError : ServerError}
    (read : decode body = .ok serverError) :
    ∃ (envelope : Envelope) (trailing : ByteArray), body = envelope.bytes ++ trailing := by
  have long : 6 ≤ body.size := by
    apply Nat.le_of_not_lt
    intro short
    simp [decode, envelopeLength, short] at read
  obtain ⟨code, upper, lower, rest, four, rfl⟩ := exists_front long
  rw [decode_split four rfl] at read
  split at read
  next => cases read
  next room =>
    split at read
    next => cases read
    next message text =>
      obtain ⟨valid, -⟩ := (text?_eq_ok_iff ..).1 text
      have enough := Nat.le_of_not_lt room
      refine ⟨⟨code, upper, lower, _, four, ?_, valid⟩,
        rest.extract (256 * upper.toNat + lower.toNat) rest.size, ?_⟩
      · rw [ByteArray.size_extract]
        omega
      · rw [Envelope.bytes, ByteArray.append_assoc,
          ← ByteArray.extract_eq_extract_append_extract _ (Nat.zero_le _) enough,
          ByteArray.extract_zero_size]

theorem encode_envelope (envelope : Envelope) : encode envelope.serverError = envelope.bytes := by
  have small : BigEndian.toNat envelope.code < 2 ^ 32 := by
    have bound := BigEndian.toNat_lt envelope.code
    rwa [envelope.four] at bound
  have code : BigEndian.ofNat 4 envelope.serverError.kind.code.toUInt32.toNat = envelope.code := by
    rw [Envelope.serverError, ServerErrorKind.code_ofCode, UInt32.toUInt32_toInt32,
      UInt32.toNat_ofNat_of_lt' small, ← envelope.four, BigEndian.ofNat_toNat]
  have length : BigEndian.ofNat 2 envelope.message.size = [envelope.upper, envelope.lower] := by
    have back := BigEndian.ofNat_toNat [envelope.upper, envelope.lower]
    simpa [BigEndian.toNat, Nat.mul_comm, ← envelope.fits] using back
  -- What two bytes announce is never cut off.
  have fits : min envelope.message.size maxMessageLength = envelope.message.size := by
    have upper := envelope.upper.toNat_lt
    have lower := envelope.lower.toNat_lt
    rw [envelope.fits, maxMessageLength]
    omega
  have message : envelope.serverError.message.toUTF8 = envelope.message := rfl
  rw [encode, message, fits, code, length, ByteArray.extract_zero_size, Envelope.bytes]

theorem exists_length {length : Nat} (fits : length ≤ maxMessageLength) :
    ∃ upper lower : UInt8, BigEndian.ofNat 2 length = [upper, lower] ∧
      length = 256 * upper.toNat + lower.toNat := by
  obtain ⟨upper, lower, two⟩ : ∃ upper lower, BigEndian.ofNat 2 length = [upper, lower] :=
    ⟨_, _, rfl⟩
  refine ⟨upper, lower, two, ?_⟩
  have small : length < 256 ^ 2 := Nat.lt_succ_of_le fits
  have read := BigEndian.toNat_ofNat 2 length
  rw [two, Nat.mod_eq_of_lt small] at read
  rw [← read]
  simp [BigEndian.toNat, Nat.mul_comm]

theorem code_read_back (code : Int32) :
    (UInt32.ofNat (BigEndian.toNat (BigEndian.ofNat 4 code.toUInt32.toNat))).toInt32 = code := by
  have small : code.toUInt32.toNat < 256 ^ 4 := code.toUInt32.toNat_lt
  rw [BigEndian.toNat_ofNat, Nat.mod_eq_of_lt small, UInt32.ofNat_toNat, Int32.toInt32_toUInt32]

theorem exists_written (code : Int32) {message : String}
    (short : message.utf8ByteSize ≤ maxMessageLength) :
    ∃ envelope : Envelope, envelope.serverError = ⟨.ofCode code, message⟩ := by
  obtain ⟨upper, lower, -, announced⟩ := exists_length short
  refine ⟨{
    code := BigEndian.ofNat 4 code.toUInt32.toNat
    upper := upper
    lower := lower
    message := message.toByteArray
    four := BigEndian.length_ofNat ..
    fits := announced
    valid := message.isValidUTF8
  }, ?_⟩
  rw [Envelope.serverError, code_read_back]

/-- A body can be read if and only if an envelope is at its front. Then the rest of it does not
matter, and the error that was read is written as that envelope. Errors with a message that fits
are read as they were written, whatever their code. -/
theorem envelope_roundtrip :
    (∀ body, (∃ serverError, decode body = .ok serverError) ↔
      ∃ (envelope : Envelope) (trailing : ByteArray), body = envelope.bytes ++ trailing) ∧
    (∀ (envelope : Envelope) (trailing : ByteArray) (serverError : ServerError),
      decode (envelope.bytes ++ trailing) = .ok serverError →
        encode serverError =
            (envelope.bytes ++ trailing).extract 0 (6 + envelope.message.size) ∧
          ∀ others, decode (envelope.bytes ++ others) = .ok serverError) ∧
    (∀ (code : Int32) (message : String), message.utf8ByteSize ≤ 65535 →
      decode (encode ⟨.ofCode code, message⟩) = .ok ⟨.ofCode code, message⟩) ∧
    ∀ code : Int32, (ServerErrorKind.ofCode code).code = code := by
  refine ⟨?_, ?_, ?_, ServerErrorKind.code_ofCode⟩
  · intro body
    constructor
    · rintro ⟨serverError, read⟩
      exact exists_envelope read
    · rintro ⟨envelope, trailing, rfl⟩
      exact ⟨envelope.serverError, decode_envelope envelope trailing⟩
  · intro envelope trailing serverError read
    obtain rfl : envelope.serverError = serverError := by
      rw [decode_envelope] at read
      exact Except.ok.inj read
    rw [encode_envelope, Envelope.extract_bytes]
    exact ⟨rfl, decode_envelope envelope⟩
  · intro code message short
    obtain ⟨envelope, written⟩ := exists_written code short
    have read := decode_envelope envelope .empty
    rwa [ByteArray.append_empty, ← encode_envelope, written] at read

def readTimeoutEnvelope : Envelope where
  code := [0x00, 0x00, 0x12, 0x00]
  upper := 0
  lower := 2
  message := "rt".toByteArray
  four := rfl
  fits := rfl
  valid := String.isValidUTF8 "rt"

theorem readTimeoutEnvelope_roundtrip :
    decode (readTimeoutEnvelope.bytes ++ bytesOfList [0, 1]) = .ok ⟨.readTimeout, "rt"⟩ ∧
    encode ⟨.readTimeout, "rt"⟩ =
        (readTimeoutEnvelope.bytes ++ bytesOfList [0, 1]).extract 0 (6 + 2) ∧
    (∀ others, decode (readTimeoutEnvelope.bytes ++ others) = .ok ⟨.readTimeout, "rt"⟩) ∧
    "lost".utf8ByteSize ≤ 65535 ∧
    decode (encode ⟨.ofCode (-7), "lost"⟩) = .ok ⟨.ofCode (-7), "lost"⟩ := by
  have read : decode (readTimeoutEnvelope.bytes ++ bytesOfList [0, 1]) =
      .ok ⟨.readTimeout, "rt"⟩ := decode_envelope readTimeoutEnvelope _
  obtain ⟨written, trailing⟩ := envelope_roundtrip.2.1 readTimeoutEnvelope _ _ read
  have short : "lost".utf8ByteSize ≤ 65535 := by decide
  exact ⟨read, written, trailing, short, envelope_roundtrip.2.2.1 (-7) "lost" short⟩

end ServerError

end ClusterDriver
