import ClusterDriver.Frame
import Mathlib.Algebra.Group.Nat.Defs

set_option autoImplicit false

namespace ClusterDriver

namespace BigEndian

theorem length_ofNat (width value : Nat) : (ofNat width value).length = width := by
  induction width with
  | zero => rfl
  | succ width ih => simp [ofNat, ih]

theorem toNat_cons (byte : UInt8) (bytes : List UInt8) :
    toNat (byte :: bytes) = byte.toNat * 256 ^ bytes.length + toNat bytes := by
  have from_start : ∀ (rest : List UInt8) (start : Nat),
      rest.foldl (fun value next => value * 256 + next.toNat) start
        = start * 256 ^ rest.length + toNat rest := by
    intro rest
    induction rest with
    | nil => intro start; simp [toNat]
    | cons next rest ih =>
        intro start
        simp only [toNat, List.foldl_cons, List.length_cons]
        rw [ih, ih (0 * 256 + next.toNat), Nat.pow_succ]
        grind
  simpa [toNat] using from_start bytes byte.toNat

theorem toNat_lt (bytes : List UInt8) : toNat bytes < 256 ^ bytes.length := by
  induction bytes with
  | nil => simp [toNat]
  | cons byte bytes ih =>
      have small : byte.toNat < 256 := byte.toNat_lt
      rw [toNat_cons, List.length_cons, Nat.pow_succ]
      calc byte.toNat * 256 ^ bytes.length + toNat bytes
          < byte.toNat * 256 ^ bytes.length + 256 ^ bytes.length := by omega
        _ = (byte.toNat + 1) * 256 ^ bytes.length := by rw [Nat.succ_mul]
        _ ≤ 256 * 256 ^ bytes.length := Nat.mul_le_mul_right _ small
        _ = 256 ^ bytes.length * 256 := Nat.mul_comm _ _

theorem shiftRight_eq_div (width value : Nat) : value >>> (8 * width) = value / 256 ^ width := by
  rw [Nat.shiftRight_eq_div_pow, Nat.pow_mul]

theorem toNat_ofNat (width value : Nat) : toNat (ofNat width value) = value % 256 ^ width := by
  induction width with
  | zero => simp [ofNat, toNat, Nat.mod_one]
  | succ width ih =>
      have head : (UInt8.ofNat (value / 256 ^ width)).toNat = value / 256 ^ width % 256 :=
        UInt8.toNat_ofNat'
      rw [ofNat, toNat_cons, length_ofNat, ih, shiftRight_eq_div, head, Nat.pow_succ, Nat.mod_mul,
        Nat.mul_comm, Nat.add_comm]

theorem ofNat_mul_add (width multiple value : Nat) :
    ofNat width (multiple * 256 ^ width + value) = ofNat width value := by
  induction width generalizing multiple with
  | zero => rfl
  | succ width ih =>
      have shift : multiple * 256 ^ (width + 1) = multiple * 256 * 256 ^ width := by
        rw [Nat.pow_succ]; grind
      have head : UInt8.ofNat ((multiple * 256 * 256 ^ width + value) >>> (8 * width))
          = UInt8.ofNat (value >>> (8 * width)) := by
        have positive : 0 < 256 ^ width := Nat.pow_pos (by decide)
        rw [shiftRight_eq_div, shiftRight_eq_div, Nat.add_comm, Nat.add_mul_div_right _ _ positive]
        apply UInt8.toNat_inj.mp
        rw [UInt8.toNat_ofNat', UInt8.toNat_ofNat', Nat.add_mul_mod_self_right]
      rw [ofNat, ofNat, shift, head, ih]

theorem ofNat_toNat (bytes : List UInt8) : ofNat bytes.length (toNat bytes) = bytes := by
  induction bytes with
  | nil => rfl
  | cons byte bytes ih =>
      have positive : 0 < 256 ^ bytes.length := Nat.pow_pos (by decide)
      have head : (byte.toNat * 256 ^ bytes.length + toNat bytes) / 256 ^ bytes.length
          = byte.toNat := by
        rw [Nat.add_comm, Nat.add_mul_div_right _ _ positive,
          Nat.div_eq_of_lt (toNat_lt bytes), Nat.zero_add]
      rw [List.length_cons, ofNat, toNat_cons, shiftRight_eq_div, head, ofNat_mul_add, ih,
        UInt8.ofNat_toNat]

end BigEndian

theorem size_bytesOfList (bytes : List UInt8) : (bytesOfList bytes).size = bytes.length := rfl

theorem exists_header (bytes : ByteArray) (long : headerLength ≤ bytes.size) :
    ∃ version flags code : UInt8, ∃ stream length : List UInt8, ∃ body : ByteArray,
      stream.length = 2 ∧ length.length = 4 ∧
      bytes = bytesOfList ([version, flags] ++ stream ++ [code] ++ length) ++ body := by
  obtain ⟨⟨data⟩⟩ := bytes
  match data, long with
  | version :: flags :: s₁ :: s₀ :: code :: l₃ :: l₂ :: l₁ :: l₀ :: rest, _ =>
      refine ⟨version, flags, code, [s₁, s₀], [l₃, l₂, l₁, l₀], ⟨⟨rest⟩⟩, rfl, rfl, ?_⟩
      ext1
      simp [bytesOfList]

namespace FrameHeader

theorem decode_bytesOfList (version flags code : UInt8) (stream length : List UInt8)
    (two : stream.length = 2) (four : length.length = 4) :
    decode (bytesOfList ([version, flags] ++ stream ++ [code] ++ length)) =
      if version &&& ~~~responseFlag ≠ protocolVersion then
        .error (.unsupportedVersion (version &&& ~~~responseFlag))
      else
        match Opcode.ofCode? code with
        | none => .error (.unknownOpcode code)
        | some opcode =>
            if maxBodyLength < BigEndian.toNat length then
              .error (.frameTooLarge (BigEndian.toNat length) maxBodyLength)
            else
              .ok {
                version
                flags
                stream := (UInt16.ofNat (BigEndian.toNat stream)).toInt16
                opcode
                length := BigEndian.toNat length
              } := by
  match stream, two, length, four with
  | [_, _], _, [_, _, _, _], _ => rfl

theorem decode_eq_ok {version flags code : UInt8} {stream length : List UInt8}
    {header : FrameHeader} (two : stream.length = 2) (four : length.length = 4)
    (read : decode (bytesOfList ([version, flags] ++ stream ++ [code] ++ length)) = .ok header) :
    version &&& ~~~responseFlag = protocolVersion ∧
    BigEndian.toNat length ≤ maxBodyLength ∧
    ∃ opcode : Opcode, opcode.code = code ∧
      header = {
        version
        flags
        stream := (UInt16.ofNat (BigEndian.toNat stream)).toInt16
        opcode
        length := BigEndian.toNat length
      } := by
  rw [decode_bytesOfList version flags code stream length two four] at read
  split at read
  next => cases read
  next known =>
    split at read
    next => cases read
    next opcode coded =>
      split at read
      next => cases read
      next fits =>
        cases read
        exact ⟨Decidable.not_not.mp known, Nat.not_lt.mp fits, opcode,
          ((Opcode.ofCode?_eq_some_iff code opcode).mp coded).symm, rfl⟩

end FrameHeader

namespace Frame

theorem decode_append (start body : ByteArray) (nine : start.size = headerLength) :
    decode (start ++ body) =
      match FrameHeader.decode start with
      | .error e => .error e
      | .ok header =>
          if body.size ≠ header.length then
            .error (.malformed s!"Header announces {header.length} body bytes, got {body.size}")
          else
            .ok (header.withBody body) := by
  have long : ¬(start ++ body).size < headerLength := by
    rw [ByteArray.size_append]; omega
  have front : (start ++ body).extract 0 headerLength = start :=
    ByteArray.extract_append_eq_left nine.symm
  have back : (start ++ body).extract headerLength (start ++ body).size = body :=
    ByteArray.extract_append_eq_right nine.symm ByteArray.size_append
  rw [decode, if_neg long, front]
  cases FrameHeader.decode start with
  | error e => rfl
  | ok header =>
    dsimp only
    rw [back]

theorem encode_eq_error_iff (frame : Frame) (error : ProtocolError) :
    frame.encode = .error error ↔
      maxBodyLength < frame.body.size ∧ error = .frameTooLarge frame.body.size maxBodyLength := by
  rw [encode]
  split
  next large => simp [large, eq_comm]
  next fits => simp [fits]

theorem encode_eq_ok_iff (frame : Frame) (bytes : ByteArray) :
    frame.encode = .ok bytes ↔
      frame.body.size ≤ maxBodyLength ∧ bytes = bytesOfList frame.headerBytes ++ frame.body := by
  rw [encode]
  split
  next large => simp [Nat.not_le.mpr large]
  next fits => simp [Nat.not_lt.mp fits, eq_comm]

theorem size_headerBytes (frame : Frame) : (bytesOfList frame.headerBytes).size = headerLength := by
  simp [size_bytesOfList, headerBytes, BigEndian.length_ofNat, headerLength]

theorem toInt16_ofNat_toNat (stream : Int16) :
    (UInt16.ofNat (BigEndian.toNat (BigEndian.ofNat 2 stream.toUInt16.toNat))).toInt16 = stream := by
  have small : stream.toUInt16.toNat < 256 ^ 2 := stream.toUInt16.toNat_lt
  rw [BigEndian.toNat_ofNat, Nat.mod_eq_of_lt small, UInt16.ofNat_toNat, Int16.toInt16_toUInt16]

theorem ofNat_toNat_toInt16 (bytes : List UInt8) (two : bytes.length = 2) :
    BigEndian.ofNat 2 (UInt16.ofNat (BigEndian.toNat bytes)).toInt16.toUInt16.toNat = bytes := by
  have small : BigEndian.toNat bytes < 2 ^ 16 := by
    have := BigEndian.toNat_lt bytes
    rw [two] at this
    omega
  rw [UInt16.toUInt16_toInt16, UInt16.toNat_ofNat', Nat.mod_eq_of_lt small, ← two,
    BigEndian.ofNat_toNat]

theorem decode_of_encode {frame : Frame} {bytes : ByteArray} (written : frame.encode = .ok bytes) :
    decode bytes =
      if frame.version &&& ~~~responseFlag = protocolVersion then
        .ok frame
      else
        .error (.unsupportedVersion (frame.version &&& ~~~responseFlag)) := by
  obtain ⟨fits, rfl⟩ := (encode_eq_ok_iff frame bytes).mp written
  have length : BigEndian.toNat (BigEndian.ofNat 4 frame.body.size) = frame.body.size := by
    rw [BigEndian.toNat_ofNat]
    apply Nat.mod_eq_of_lt
    unfold maxBodyLength at fits
    omega
  rw [decode_append _ _ (size_headerBytes frame), headerBytes,
    FrameHeader.decode_bytesOfList _ _ _ _ _ (BigEndian.length_ofNat _ _)
      (BigEndian.length_ofNat _ _),
    Opcode.ofCode?_code, length, toInt16_ofNat_toNat]
  by_cases known : frame.version &&& ~~~responseFlag = protocolVersion
  · simp [known, Nat.not_lt.mpr fits, FrameHeader.withBody]
  · simp [known]

theorem encode_of_decode {frame : Frame} {bytes : ByteArray} (read : decode bytes = .ok frame) :
    frame.version &&& ~~~responseFlag = protocolVersion ∧ frame.encode = .ok bytes := by
  have long : headerLength ≤ bytes.size := by
    unfold decode at read
    split at read
    · cases read
    · omega
  obtain ⟨version, flags, code, stream, length, body, two, four, rfl⟩ := exists_header bytes long
  have nine : (bytesOfList ([version, flags] ++ stream ++ [code] ++ length)).size
      = headerLength := by
    simp [size_bytesOfList, two, four, headerLength]
  rw [decode_append _ _ nine] at read
  split at read
  next => cases read
  next header parsed =>
    obtain ⟨known, fits, opcode, rfl, rfl⟩ := FrameHeader.decode_eq_ok two four parsed
    split at read
    next => cases read
    next whole =>
      cases read
      have size : body.size = BigEndian.toNat length := Decidable.not_not.mp whole
      refine ⟨known, (encode_eq_ok_iff _ _).mpr ⟨size ▸ fits, ?_⟩⟩
      simp only [headerBytes, FrameHeader.withBody, ofNat_toNat_toInt16 stream two, size]
      rw [← four, BigEndian.ofNat_toNat]

theorem decode_inverts_encode :
    (∀ (frame : Frame) (error : ProtocolError), frame.encode = .error error ↔
      maxBodyLength < frame.body.size ∧
      error = .frameTooLarge frame.body.size maxBodyLength) ∧
    (∀ (frame : Frame) (bytes : ByteArray), frame.encode = .ok bytes →
      decode bytes =
        if frame.version &&& ~~~responseFlag = protocolVersion then
          .ok frame
        else
          .error (.unsupportedVersion (frame.version &&& ~~~responseFlag))) ∧
    (∀ (bytes : ByteArray) (frame : Frame), decode bytes = .ok frame →
      frame.encode = .ok bytes) ∧
    ∀ bytes : ByteArray, (∃ frame : Frame, decode bytes = .ok frame) ↔
      ∃ frame : Frame, frame.version &&& ~~~responseFlag = protocolVersion ∧
        frame.body.size ≤ maxBodyLength ∧ frame.encode = .ok bytes := by
  refine ⟨encode_eq_error_iff, fun _ _ => decode_of_encode, fun _ _ read => ?_, ?_⟩
  · exact (encode_of_decode read).2
  · intro bytes
    constructor
    · rintro ⟨frame, read⟩
      obtain ⟨known, written⟩ := encode_of_decode read
      exact ⟨frame, known, ((encode_eq_ok_iff frame bytes).mp written).1, written⟩
    · rintro ⟨frame, known, -, written⟩
      exact ⟨frame, by rw [decode_of_encode written, if_pos known]⟩

def pushedEvent : Frame where
  version := protocolVersion ||| responseFlag
  flags := 2
  stream := eventStream
  opcode := .event
  body := bytesOfList [7, 0, 255]

theorem decode_encode_pushedEvent :
    pushedEvent.encode =
      .ok (bytesOfList [0x84, 2, 0xFF, 0xFF, 0x0C, 0, 0, 0, 3, 7, 0, 255]) ∧
    decode (bytesOfList [0x84, 2, 0xFF, 0xFF, 0x0C, 0, 0, 0, 3, 7, 0, 255]) = .ok pushedEvent :=
  have written : pushedEvent.encode =
      .ok (bytesOfList [0x84, 2, 0xFF, 0xFF, 0x0C, 0, 0, 0, 3, 7, 0, 255]) := rfl
  have read := (decode_inverts_encode.2.1 pushedEvent _ written).trans (if_pos (by decide))
  ⟨decode_inverts_encode.2.2.1 _ _ read, read⟩

end Frame

end ClusterDriver
