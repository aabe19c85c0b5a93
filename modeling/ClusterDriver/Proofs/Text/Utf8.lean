import ClusterDriver.Text.Utf8

set_option autoImplicit false

namespace ClusterDriver.Text.Utf8

def Follows (low high : UInt8) : List UInt8 → Prop
  | [] => True
  | byte :: rest => (low ≤ byte ∧ byte ≤ high) ∧ Follows 0x80 0xBF rest

theorem checkFollowing_whole {low high : UInt8} {bytes : List UInt8}
    (follows : Follows low high bytes) (total seen : Nat) (rest : List UInt8) :
    checkFollowing total seen bytes.length low high (bytes ++ rest) = .character total := by
  induction bytes generalizing low high seen with
  | nil => rfl
  | cons byte more ih => simp [checkFollowing, follows.1, ih follows.2]

theorem checkFollowing_part {low high : UInt8} {bytes : List UInt8}
    (follows : Follows low high bytes) (total seen : Nat) {count : Nat}
    (short : count < bytes.length) :
    checkFollowing total seen bytes.length low high (bytes.take count) = .unfinished := by
  induction bytes generalizing low high seen count with
  | nil => cases short
  | cons byte more ih =>
    cases count with
    | zero => rfl
    | succ count => simp [checkFollowing, follows.1, ih follows.2 _ (Nat.lt_of_succ_lt_succ short)]

section Numbers

variable {bound : UInt8} {value : Nat}

theorem le_ofNat (small : value < 256) : bound ≤ UInt8.ofNat value ↔ bound.toNat ≤ value := by
  rw [UInt8.le_iff_toNat_le, UInt8.toNat_ofNat_of_lt' small]

theorem ofNat_le (small : value < 256) : UInt8.ofNat value ≤ bound ↔ value ≤ bound.toNat := by
  rw [UInt8.le_iff_toNat_le, UInt8.toNat_ofNat_of_lt' small]

theorem following?_ofNat (small : value < 256) :
    following? (UInt8.ofNat value) =
      if value < 0x80 then some (0, 0x80, 0xBF)
      else if value < 0xC2 then none
      else if value < 0xE0 then some (1, 0x80, 0xBF)
      else if value = 0xE0 then some (2, 0xA0, 0xBF)
      else if value = 0xED then some (2, 0x80, 0x9F)
      else if value < 0xF0 then some (2, 0x80, 0xBF)
      else if value = 0xF0 then some (3, 0x90, 0xBF)
      else if value < 0xF4 then some (3, 0x80, 0xBF)
      else if value = 0xF4 then some (3, 0x80, 0x8F)
      else none := by
  have number := UInt8.toNat_ofNat_of_lt' (n := value) small
  simp only [following?, UInt8.lt_iff_toNat_lt, ← UInt8.toNat_inj, number, UInt8.toNat_ofNat]

theorem following?_one (small : value < 0x80) :
    following? (UInt8.ofNat value) = some (0, 0x80, 0xBF) := by
  rw [following?_ofNat (by omega), if_pos small]

theorem following?_two (large : 0xC2 ≤ value) (small : value < 0xE0) :
    following? (UInt8.ofNat value) = some (1, 0x80, 0xBF) := by
  rw [following?_ofNat (by omega), if_neg (by omega), if_neg (by omega), if_pos small]

theorem following?_three (large : 0xE0 < value) (small : value < 0xF0) (other : value ≠ 0xED) :
    following? (UInt8.ofNat value) = some (2, 0x80, 0xBF) := by
  rw [following?_ofNat (by omega), if_neg (by omega), if_neg (by omega), if_neg (by omega),
    if_neg (by omega), if_neg other, if_pos small]

theorem following?_four (large : 0xF0 < value) (small : value < 0xF4) :
    following? (UInt8.ofNat value) = some (3, 0x80, 0xBF) := by
  rw [following?_ofNat (by omega), if_neg (by omega), if_neg (by omega), if_neg (by omega),
    if_neg (by omega), if_neg (by omega), if_neg (by omega), if_neg (by omega), if_pos small]

theorem follows_ofNat {low high : UInt8} {rest : List UInt8} (small : value < 256)
    (least : low.toNat ≤ value) (most : value ≤ high.toNat) (more : Follows 0x80 0xBF rest) :
    Follows low high (UInt8.ofNat value :: rest) :=
  ⟨⟨(le_ofNat small).2 least, (ofNat_le small).2 most⟩, more⟩

theorem follows_usual {rest : List UInt8} (more : Follows 0x80 0xBF rest) :
    Follows 0x80 0xBF (UInt8.ofNat (value % 64 + 128) :: rest) :=
  follows_ofNat (by omega) (by simp) (by simp; omega) more

end Numbers

theorem exists_encoded (char : Char) : ∃ lead more low high,
    String.utf8EncodeChar char = lead :: more ∧
      following? lead = some (more.length, low, high) ∧ Follows low high more := by
  have valid := char.valid
  simp only [UInt32.isValidChar, Nat.isValidChar] at valid
  unfold String.utf8EncodeChar
  generalize char.val.toNat = value at valid
  dsimp only
  -- After some leading bytes the second one keeps out what has a shorter form, the surrogates and
  -- what lies past the last plane.
  by_cases one : value ≤ 0x7F
  · rw [if_pos one]
    exact ⟨_, _, _, _, rfl, following?_one (by omega), trivial⟩
  rw [if_neg one]
  by_cases two : value ≤ 0x7FF
  · rw [if_pos two]
    exact ⟨_, _, _, _, rfl, following?_two (by omega) (by omega), follows_usual trivial⟩
  rw [if_neg two]
  by_cases three : value ≤ 0xFFFF
  · rw [if_pos three]
    by_cases lowest : value < 0x1000
    · have lead : value / 4096 % 16 + 224 = 0xE0 := by omega
      rw [lead]
      exact ⟨_, _, 0xA0, 0xBF, rfl, rfl,
        follows_ofNat (by omega) (by simp; omega) (by simp; omega) (follows_usual trivial)⟩
    by_cases surrogates : value / 4096 = 0xD
    · have lead : value / 4096 % 16 + 224 = 0xED := by omega
      rw [lead]
      exact ⟨_, _, 0x80, 0x9F, rfl, rfl,
        follows_ofNat (by omega) (by simp) (by simp; omega) (follows_usual trivial)⟩
    · exact ⟨_, _, _, _, rfl, following?_three (by omega) (by omega) (by omega),
        follows_usual (follows_usual trivial)⟩
  rw [if_neg three]
  by_cases lowest : value < 0x40000
  · have lead : value / 262144 % 8 + 240 = 0xF0 := by omega
    rw [lead]
    exact ⟨_, _, 0x90, 0xBF, rfl, rfl, follows_ofNat (by omega) (by simp; omega) (by simp; omega)
      (follows_usual (follows_usual trivial))⟩
  by_cases highest : 0x100000 ≤ value
  · have lead : value / 262144 % 8 + 240 = 0xF4 := by omega
    rw [lead]
    exact ⟨_, _, 0x80, 0x8F, rfl, rfl, follows_ofNat (by omega) (by simp) (by simp; omega)
      (follows_usual (follows_usual trivial))⟩
  · exact ⟨_, _, _, _, rfl, following?_four (by omega) (by omega),
      follows_usual (follows_usual (follows_usual trivial))⟩

theorem firstFault?_character (index : Nat) (char : Char) (rest : List UInt8) :
    firstFault? index (String.utf8EncodeChar char ++ rest) =
      firstFault? (index + char.utf8Size) rest := by
  obtain ⟨lead, more, low, high, encoded, leads, follows⟩ := exists_encoded char
  have size : char.utf8Size = more.length + 1 := by
    rw [← String.length_utf8EncodeChar, encoded, List.length_cons]
  rw [encoded, List.cons_append, firstFault?, front, leads]
  simp only [checkFollowing_whole follows, List.drop_left, size]
  rw [Nat.add_right_comm, Nat.add_assoc]

theorem firstFault?_text (index : Nat) (chars : List Char) (rest : List UInt8) :
    firstFault? index (chars.flatMap String.utf8EncodeChar ++ rest) =
      firstFault? (index + (String.ofList chars).utf8ByteSize) rest := by
  induction chars generalizing index with
  | nil => rfl
  | cons char chars ih =>
    rw [List.flatMap_cons, List.append_assoc, firstFault?_character, ih, String.ofList_cons,
      String.utf8ByteSize_append, String.utf8ByteSize_singleton, Nat.add_assoc]

theorem firstFault?_part (index : Nat) (char : Char) {count : Nat} (some : 0 < count)
    (notAll : count < char.utf8Size) :
    firstFault? index ((String.utf8EncodeChar char).take count) = .some (.incomplete index) := by
  obtain ⟨lead, more, low, high, encoded, leads, follows⟩ := exists_encoded char
  obtain ⟨count, rfl⟩ := Nat.exists_eq_succ_of_ne_zero (Nat.pos_iff_ne_zero.1 some)
  have short : count < more.length := by
    rw [← String.length_utf8EncodeChar, encoded, List.length_cons] at notAll
    omega
  rw [encoded, List.take_succ_cons, firstFault?, front, leads]
  simp only [checkFollowing_part follows _ _ short]

theorem text?_fault {bytes : ByteArray} {fault : Fault}
    (found : firstFault? 0 bytes.data.toList = some fault) : text? bytes = .error fault := by
  have invalid : ¬bytes.IsValidUTF8 := by
    rintro ⟨chars, rfl⟩
    have none := firstFault?_text 0 chars []
    rw [List.append_nil] at none
    simp [List.utf8Encode, none, firstFault?] at found
  simp [text?, String.fromUTF8?, invalid, found]

theorem cut_cases (text : String) {count : Nat} (within : count ≤ text.utf8ByteSize) :
    (∃ front rest : String, text = front ++ rest ∧ front.utf8ByteSize = count) ∨
      ∃ (before : String) (char : Char) (after : String),
        text = before ++ String.singleton char ++ after ∧ before.utf8ByteSize < count ∧
          count < before.utf8ByteSize + char.utf8Size := by
  obtain ⟨chars, rfl⟩ := text.exists_eq_ofList
  induction chars generalizing count with
  | nil => exact .inl ⟨"", "", rfl, (Nat.le_zero.1 within).symm⟩
  | cons char chars ih =>
    rw [String.ofList_cons, String.utf8ByteSize_append, String.utf8ByteSize_singleton] at within
    rw [String.ofList_cons]
    by_cases none : count = 0
    · exact .inl ⟨"", _, (String.empty_append).symm, none.symm⟩
    by_cases cut : count < char.utf8Size
    · refine .inr ⟨"", char, _, by rw [String.empty_append], ?_, ?_⟩
      · exact Nat.pos_of_ne_zero none
      · simpa using cut
    -- The first character is left whole, and the rest is cut that much earlier.
    have fewer : count - char.utf8Size ≤ (String.ofList chars).utf8ByteSize := by omega
    rcases ih fewer with ⟨front, rest, same, size⟩ | ⟨before, other, after, same, starts, ends⟩
    · refine .inl ⟨String.singleton char ++ front, rest, by rw [same, String.append_assoc], ?_⟩
      rw [String.utf8ByteSize_append, String.utf8ByteSize_singleton]
      omega
    · refine .inr ⟨String.singleton char ++ before, other, after, ?_, ?_, ?_⟩
      · rw [same, String.append_assoc, String.append_assoc, String.append_assoc]
      all_goals
        rw [String.utf8ByteSize_append, String.utf8ByteSize_singleton]
        omega

theorem text?_cut (before : String) (char : Char) (after : String) {count : Nat}
    (starts : before.utf8ByteSize < count)
    (ends : count < before.utf8ByteSize + char.utf8Size) :
    text? ((before ++ String.singleton char ++ after).toUTF8.extract 0 count) =
      .error (.incomplete before.utf8ByteSize) := by
  have bytes : ((before ++ String.singleton char ++ after).toUTF8.extract 0 count).data.toList =
      before.toList.flatMap String.utf8EncodeChar ++
        (String.utf8EncodeChar char).take (count - before.utf8ByteSize) := by
    have encoded : before.toByteArray.data.toList =
        before.toList.flatMap String.utf8EncodeChar := by
      rw [← String.utf8Encode_toList, List.utf8Encode, List.data_toByteArray]
    have whole : (before.toList.flatMap String.utf8EncodeChar).length ≤ count := by
      rw [← encoded]
      exact Nat.le_of_lt starts
    have nothing : count - before.utf8ByteSize - char.utf8Size = 0 := by omega
    simp [List.utf8Encode, List.take_of_length_le whole, nothing, encoded]
  have fault := firstFault?_text 0 before.toList
    ((String.utf8EncodeChar char).take (count - before.utf8ByteSize))
  rw [firstFault?_part _ _ (by omega) (by omega), String.ofList_toList, Nat.zero_add] at fault
  exact text?_fault (bytes ▸ fault)

end ClusterDriver.Text.Utf8
