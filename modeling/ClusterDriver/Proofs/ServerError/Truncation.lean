import ClusterDriver.Proofs.ServerError
import ClusterDriver.Proofs.Text.Utf8

set_option autoImplicit false

namespace ClusterDriver.ServerError

open Text.Utf8

theorem decode_encode (serverError : ServerError) :
    decode (encode serverError) =
      match text? (serverError.message.toUTF8.extract 0
        (min serverError.message.utf8ByteSize maxMessageLength)) with
      | .error fault => .error (.malformed ("ERROR message is not UTF-8: " ++ fault.message))
      | .ok message => .ok ⟨.ofCode serverError.kind.code, message⟩ := by
  have size : serverError.message.toUTF8.size = serverError.message.utf8ByteSize := rfl
  rw [encode, size]
  generalize cut : min serverError.message.utf8ByteSize maxMessageLength = length
  obtain ⟨upper, lower, announced, value⟩ :=
    exists_length (cut ▸ Nat.min_le_right _ _ : length ≤ maxMessageLength)
  have left : (serverError.message.toUTF8.extract 0 length).size = length := by
    rw [ByteArray.size_extract, size]
    omega
  -- The reader takes as many bytes as are announced, which is all that was left.
  have whole : (serverError.message.toUTF8.extract 0 length).extract 0 length =
      serverError.message.toUTF8.extract 0 length := by
    conv => lhs; arg 3; rw [← left]
    exact ByteArray.extract_zero_size
  have read := decode_split (BigEndian.length_ofNat 4 serverError.kind.code.toUInt32.toNat) value
    (serverError.message.toUTF8.extract 0 length)
  rw [if_neg (by omega), whole, code_read_back] at read
  rw [announced]
  exact read

theorem extract_front (front rest : String) :
    (front ++ rest).toByteArray.extract 0 front.utf8ByteSize = front.toByteArray := by
  rw [String.toByteArray_append]
  exact ByteArray.extract_append_eq_left rfl

theorem text?_extract_eq_ok_iff (text front : String) {count : Nat}
    (within : count ≤ text.utf8ByteSize) :
    text? (text.toUTF8.extract 0 count) = .ok front ↔
      (∃ rest, text = front ++ rest) ∧ front.utf8ByteSize = count := by
  rw [text?_eq_ok_iff, String.toUTF8_eq_toByteArray]
  constructor
  · rintro ⟨valid, rfl⟩
    -- Bytes from the front that are a text end where a character ends.
    obtain ⟨whole, rest, rfl, place⟩ : ∃ whole rest, text = whole ++ rest ∧
        (⟨count⟩ : String.Pos.Raw) = whole.rawEndPos := by
      rw [← String.Pos.Raw.isValid_iff_exists_append,
        String.Pos.Raw.isValid_iff_isValidUTF8_extract_zero]
      exact ⟨within, valid⟩
    obtain rfl : count = whole.utf8ByteSize := congrArg String.Pos.Raw.byteIdx place
    have same : String.ofByteArray _ valid = whole :=
      String.toByteArray_inj.1 (extract_front whole rest)
    rw [same]
    exact ⟨⟨rest, rfl⟩, rfl⟩
  · rintro ⟨⟨rest, rfl⟩, rfl⟩
    have bytes := extract_front front rest
    exact ⟨bytes ▸ front.isValidUTF8, String.toByteArray_inj.1 bytes.symm⟩

theorem decode_cut {serverError : ServerError} {before : String} {char : Char} {after : String}
    (same : serverError.message = before ++ String.singleton char ++ after)
    (starts : before.utf8ByteSize < maxMessageLength)
    (ends : maxMessageLength < before.utf8ByteSize + char.utf8Size) :
    decode (encode serverError) = .error (.malformed
      ("ERROR message is not UTF-8: " ++ (Fault.incomplete before.utf8ByteSize).message)) := by
  have long : min serverError.message.utf8ByteSize maxMessageLength = maxMessageLength := by
    rw [same, String.utf8ByteSize_append, String.utf8ByteSize_append,
      String.utf8ByteSize_singleton]
    omega
  rw [decode_encode, long, same, text?_cut before char after starts ends]

/-- An error that was written can be read unless its message was cut off within a character. What is
read has the same code, and of the message as much as an envelope can hold; otherwise it is told
where the character begins that was cut through. -/
theorem reads_unless_cut (serverError : ServerError) :
    (∀ read, decode (encode serverError) = .ok read ↔
      read.kind = .ofCode serverError.kind.code ∧
        (∃ rest, serverError.message = read.message ++ rest) ∧
        read.message.utf8ByteSize = min serverError.message.utf8ByteSize 65535) ∧
    (ServerErrorKind.ofCode serverError.kind.code).code = serverError.kind.code ∧
    ((∃ read, decode (encode serverError) = .ok read) ∨
      ∃ (before : String) (char : Char) (after : String),
        serverError.message = before ++ String.singleton char ++ after ∧
          before.utf8ByteSize < 65535 ∧ 65535 < before.utf8ByteSize + char.utf8Size ∧
          decode (encode serverError) = .error (.malformed ("ERROR message is not UTF-8: " ++
            s!"incomplete utf-8 byte sequence from index {before.utf8ByteSize}"))) := by
  have within : min serverError.message.utf8ByteSize maxMessageLength ≤
      serverError.message.utf8ByteSize := Nat.min_le_left _ _
  have reads : ∀ read, decode (encode serverError) = .ok read ↔
      read.kind = .ofCode serverError.kind.code ∧
        (∃ rest, serverError.message = read.message ++ rest) ∧
        read.message.utf8ByteSize = min serverError.message.utf8ByteSize maxMessageLength := by
    rintro ⟨kind, message⟩
    rw [decode_encode, ← text?_extract_eq_ok_iff _ _ within]
    cases text? (serverError.message.toUTF8.extract 0
      (min serverError.message.utf8ByteSize maxMessageLength)) with
    | error fault => simp
    | ok left => simp [eq_comm]
  refine ⟨reads, ServerErrorKind.code_ofCode _, ?_⟩
  rcases cut_cases serverError.message within with
    ⟨front, rest, same, size⟩ | ⟨before, char, after, same, starts, ends⟩
  · exact .inl ⟨⟨_, front⟩, (reads _).2 ⟨rfl, ⟨rest, same⟩, size⟩⟩
  · have longer : before.utf8ByteSize + char.utf8Size ≤ serverError.message.utf8ByteSize := by
      rw [same, String.utf8ByteSize_append, String.utf8ByteSize_append,
        String.utf8ByteSize_singleton]
      omega
    have limit : min serverError.message.utf8ByteSize maxMessageLength = maxMessageLength := by
      omega
    rw [limit] at starts ends
    exact .inr ⟨before, char, after, same, starts, ends, decode_cut same starts ends⟩

theorem utf8ByteSize_replicate (char : Char) (count : Nat) :
    (String.ofList (List.replicate count char)).utf8ByteSize = count * char.utf8Size := by
  induction count with
  | zero => simp
  | succ count ih =>
    rw [List.replicate_succ, String.ofList_cons, String.utf8ByteSize_append, ih,
      String.utf8ByteSize_singleton, Nat.succ_mul, Nat.add_comm]

def accents : String := .ofList (List.replicate 32768 'é')

theorem accents_are_cut : decode (encode ⟨.serverError, accents⟩) =
    .error (.malformed
      "ERROR message is not UTF-8: incomplete utf-8 byte sequence from index 65534") := by
  have accent : 'é'.utf8Size = 2 := by decide
  have size : (String.ofList (List.replicate 32767 'é')).utf8ByteSize = 65534 := by
    rw [utf8ByteSize_replicate, accent]
  have same : accents =
      String.ofList (List.replicate 32767 'é') ++ String.singleton 'é' ++ "" := by
    rw [String.append_empty, String.singleton_eq_ofList, ← String.ofList_append,
      ← List.replicate_succ']
    rfl
  have starts : (String.ofList (List.replicate 32767 'é')).utf8ByteSize < maxMessageLength := by
    rw [size]
    decide
  have ends : maxMessageLength <
      (String.ofList (List.replicate 32767 'é')).utf8ByteSize + 'é'.utf8Size := by
    rw [size, accent]
    decide
  rw [@decode_cut ⟨.serverError, accents⟩ _ _ _ same starts ends, size]
  rfl

end ClusterDriver.ServerError
