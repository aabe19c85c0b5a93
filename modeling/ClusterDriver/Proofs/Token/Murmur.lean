import ClusterDriver.Token.Murmur
import Mathlib.Data.Nat.Digits.Defs

set_option autoImplicit false

namespace ClusterDriver.Token.Murmur

namespace Reference

def little (bytes : List UInt8) : BitVec 64 :=
  BitVec.ofNat 64 (Nat.ofDigits 256 (bytes.map UInt8.toNat))

def scrambleFirst (word : BitVec 64) : BitVec 64 :=
  (word * 0x87c37b91114253d5#64).rotateLeft 31 * 0x4cf5ad432745937f#64

def scrambleSecond (word : BitVec 64) : BitVec 64 :=
  (word * 0x4cf5ad432745937f#64).rotateLeft 33 * 0x87c37b91114253d5#64

def avalanche (word : BitVec 64) : BitVec 64 :=
  let word := (word ^^^ (word >>> 33)) * 0xff51afd7ed558ccd#64
  let word := (word ^^^ (word >>> 33)) * 0xc4ceb9fe1a85ec53#64
  word ^^^ (word >>> 33)

def mixBlock (key : List UInt8) (words : BitVec 64 × BitVec 64) (number : Nat) :
    BitVec 64 × BitVec 64 :=
  let low := little ((key.drop (16 * number)).take 8)
  let high := little ((key.drop (16 * number + 8)).take 8)
  let first := ((words.1 ^^^ scrambleFirst low).rotateLeft 27 + words.2) * 5 + 0x52dce729#64
  let second := ((words.2 ^^^ scrambleSecond high).rotateLeft 31 + first) * 5 + 0x38495ab5#64
  (first, second)

def mixBlocks (key : List UInt8) (words : BitVec 64 × BitVec 64) : BitVec 64 × BitVec 64 :=
  (List.range (key.length / 16)).foldl (mixBlock key) words

def tailOf (key : List UInt8) : List UInt8 := key.drop (16 * (key.length / 16))

/-- The first half of the hash with seed 0, for a way of reading the tail as two words. A word of
zeros mixes to zero, so it does not matter whether words without any bytes are mixed in. -/
def hash (readTail : List UInt8 → BitVec 64 × BitVec 64) (key : List UInt8) : BitVec 64 :=
  let words := mixBlocks key (0, 0)
  let tail := readTail (tailOf key)
  let length := BitVec.ofNat 64 key.length
  let first := words.1 ^^^ scrambleFirst tail.1 ^^^ length
  let second := words.2 ^^^ scrambleSecond tail.2 ^^^ length
  let first := first + second
  let second := second + first
  avalanche first + avalanche second

/-- The hash as a signed number. The greatest one stands in for the least. -/
def token (readTail : List UInt8 → BitVec 64 × BitVec 64) (key : List UInt8) : Int :=
  let value := (hash readTail key).toInt
  if value = -2 ^ 63 then 2 ^ 63 - 1 else value

/-- Each byte is extended by its sign, moved to its offset and xor-ed with the others. -/
def signedWord (bytes : List UInt8) : BitVec 64 :=
  (bytes.zipIdx.map fun (byte, offset) => byte.toBitVec.signExtend 64 <<< (8 * offset)).foldr
    (· ^^^ ·) 0

def signedTail (tail : List UInt8) : BitVec 64 × BitVec 64 :=
  (signedWord (tail.take 8), signedWord (tail.drop 8))

def paddedTail (tail : List UInt8) : BitVec 64 × BitVec 64 :=
  let block := tail ++ List.replicate (16 - tail.length) 0
  (little (block.take 8), little (block.drop 8))

-- The published value for "hello".
example : hash paddedTail [0x68, 0x65, 0x6C, 0x6C, 0x6F] = 0xcbd8a7b341bd9b02#64 := by decide

end Reference

theorem toBitVec_mixFirst (word : UInt64) :
    (mixFirst word).toBitVec = Reference.scrambleFirst word.toBitVec := by
  simp [mixFirst, rotateLeft, firstFactor, secondFactor, Reference.scrambleFirst,
    BitVec.rotateLeft_def]

theorem toBitVec_mixSecond (word : UInt64) :
    (mixSecond word).toBitVec = Reference.scrambleSecond word.toBitVec := by
  simp [mixSecond, rotateLeft, firstFactor, secondFactor, Reference.scrambleSecond,
    BitVec.rotateLeft_def]

theorem toBitVec_finish (word : UInt64) :
    (finish word).toBitVec = Reference.avalanche word.toBitVec := by
  simp [finish, Reference.avalanche]

theorem toBitVec_littleEndian (bytes : List UInt8) :
    (littleEndian bytes).toBitVec = Reference.little bytes := by
  induction bytes with
  | nil => rfl
  | cons byte rest ih =>
    have small : byte.toNat < 2 ^ 8 := byte.toNat_lt
    -- The shifted rest leaves room for the byte, so that adding and joining are the same.
    have joined : Nat.ofDigits 256 ((byte :: rest).map UInt8.toNat) =
        Nat.ofDigits 256 (rest.map UInt8.toNat) <<< 8 ||| byte.toNat := by
      rw [Nat.shiftLeft_eq, Nat.mul_comm, ← Nat.two_pow_add_eq_or_of_lt small, List.map_cons,
        Nat.ofDigits_cons, Nat.add_comm]
    rw [Reference.little, joined, littleEndian, UInt64.toBitVec_or, UInt64.toBitVec_shiftLeft, ih,
      BitVec.or_comm]
    apply BitVec.eq_of_toNat_eq
    simp [Reference.little, Nat.shiftLeft_eq]

theorem toBitVec_signedWord (bytes : List UInt8) :
    (signedWord bytes).toBitVec = Reference.signedWord bytes := by
  have moved (start : Nat) : ((bytes.zipIdx start).map fun (byte, offset) =>
      byte.toBitVec.signExtend 64 <<< (8 * offset)).foldr (· ^^^ ·) 0 =
        (signedWord bytes).toBitVec <<< (8 * start) := by
    induction bytes generalizing start with
    | nil => simp [signedWord]
    | cons byte rest ih =>
      rw [List.zipIdx_cons, List.map_cons, List.foldr_cons, ih, signedWord, UInt64.toBitVec_xor,
        UInt64.toBitVec_shiftLeft, BitVec.shiftLeft_xor_distrib, Nat.mul_succ, Nat.add_comm,
        BitVec.shiftLeft_add]
      simp [signExtend]
  simpa [Reference.signedWord] using (moved 0).symm

def State.words (state : State) : BitVec 64 × BitVec 64 :=
  (state.first.toBitVec, state.second.toBitVec)

theorem words_mixBlock (state : State) (bytes : List UInt8) :
    (mixBlock state (littleEndian (bytes.take 8)) (littleEndian ((bytes.drop 8).take 8))).words =
      Reference.mixBlock bytes state.words 0 := by
  have turn27 (word : UInt64) :
      (rotateLeft word 27).toBitVec = word.toBitVec.rotateLeft 27 := by
    simp [rotateLeft, BitVec.rotateLeft_def]
  have turn31 (word : UInt64) :
      (rotateLeft word 31).toBitVec = word.toBitVec.rotateLeft 31 := by
    simp [rotateLeft, BitVec.rotateLeft_def]
  simp [mixBlock, State.words, Reference.mixBlock, toBitVec_mixFirst, toBitVec_mixSecond,
    toBitVec_littleEndian, turn27, turn31]

theorem mixBlocks_long {key : List UInt8} (long : 16 ≤ key.length)
    (words : BitVec 64 × BitVec 64) :
    Reference.mixBlocks key words =
      Reference.mixBlocks (key.drop 16) (Reference.mixBlock key words 0) := by
  have count : key.length / 16 = (key.drop 16).length / 16 + 1 := by
    rw [List.length_drop]
    omega
  have later (words : BitVec 64 × BitVec 64) (number : Nat) :
      Reference.mixBlock key words (number + 1) =
        Reference.mixBlock (key.drop 16) words number := by
    have low : 16 + 16 * number = 16 * (number + 1) := by omega
    have high : 16 + (16 * number + 8) = 16 * (number + 1) + 8 := by omega
    simp only [Reference.mixBlock, List.drop_drop, low, high]
  simp only [Reference.mixBlocks]
  rw [count, List.range_succ_eq_map, List.foldl_cons, List.foldl_map]
  simp only [Nat.succ_eq_add_one, later]

theorem tailOf_long {key : List UInt8} (long : 16 ≤ key.length) :
    Reference.tailOf key = Reference.tailOf (key.drop 16) := by
  have place : 16 + 16 * ((key.length - 16) / 16) = 16 * (key.length / 16) := by omega
  rw [Reference.tailOf, Reference.tailOf, List.drop_drop, List.length_drop, place]

theorem words_mixTail (state : State) (tail : List UInt8) :
    (mixTail state tail).words =
      (state.words.1 ^^^ Reference.scrambleFirst (Reference.signedTail tail).1,
        state.words.2 ^^^ Reference.scrambleSecond (Reference.signedTail tail).2) := by
  have first : (mixTail state tail).first.toBitVec =
      state.first.toBitVec ^^^ Reference.scrambleFirst (Reference.signedWord (tail.take 8)) := by
    cases tail with
    | nil => simp [mixTail, Reference.signedWord, Reference.scrambleFirst]
    | cons byte rest =>
      simp [mixTail, toBitVec_mixFirst, toBitVec_signedWord]
  have second : (mixTail state tail).second.toBitVec =
      state.second.toBitVec ^^^ Reference.scrambleSecond (Reference.signedWord (tail.drop 8)) := by
    by_cases long : 8 < tail.length
    · simp [mixTail, long, toBitVec_mixSecond, toBitVec_signedWord]
    · have none : tail.drop 8 = [] := List.drop_eq_nil_of_le (Nat.le_of_not_lt long)
      simp [mixTail, long, none, Reference.signedWord, Reference.scrambleSecond]
  exact Prod.ext first second

theorem words_mixAll (state : State) (key : List UInt8) :
    (mixAll state key).words =
      ((Reference.mixBlocks key state.words).1 ^^^
          Reference.scrambleFirst (Reference.signedTail (Reference.tailOf key)).1,
        (Reference.mixBlocks key state.words).2 ^^^
          Reference.scrambleSecond (Reference.signedTail (Reference.tailOf key)).2) := by
  -- A step takes a block off the front of the key; the tail at its end stays the same.
  fun_induction mixAll state key with
  | case1 state key long ih => rw [ih, mixBlocks_long long, tailOf_long long, words_mixBlock]
  | case2 state key short =>
    have none : key.length / 16 = 0 := Nat.div_eq_of_lt (Nat.lt_of_not_le short)
    rw [words_mixTail, Reference.mixBlocks, Reference.tailOf, none]
    rfl

theorem toBitVec_hash (key : List UInt8) :
    (hash key).toBitVec = Reference.hash Reference.signedTail key := by
  have words := words_mixAll ⟨0, 0⟩ key
  obtain ⟨first, second⟩ := Prod.ext_iff.1 words
  simp only [State.words] at first second
  simp [hash, Reference.hash, toBitVec_finish, first, second, UInt64.toBitVec_ofNat']

theorem toInt_token (key : List UInt8) :
    (token key).toInt = Reference.token Reference.signedTail key := by
  have value : (hash key).toInt64.toInt = (Reference.hash Reference.signedTail key).toInt := by
    rw [← toBitVec_hash, ← Int64.toInt_toBitVec, UInt64.toBitVec_toInt64]
  have least : (hash key).toInt64 = Int64.minValue ↔
      (Reference.hash Reference.signedTail key).toInt = -2 ^ 63 := by
    rw [← value, ← Int64.toInt_inj]
    rfl
  simp only [token, Reference.token, least, ← value]
  split <;> rfl

theorem signExtend_of_lt {byte : UInt8} (unsigned : byte < 0x80) :
    signExtend byte = byte.toUInt64 := by
  have positive : byte.toBitVec.msb = false := by
    rw [BitVec.msb_eq_decide, decide_eq_false_iff_not, Nat.not_le]
    exact unsigned
  apply UInt64.toBitVec_inj.1
  simp [signExtend, BitVec.signExtend_eq_setWidth_of_msb_false positive]

theorem signedWord_eq_littleEndian {bytes : List UInt8} (unsigned : ∀ byte ∈ bytes, byte < 0x80) :
    signedWord bytes = littleEndian bytes := by
  induction bytes with
  | nil => rfl
  | cons byte rest ih =>
    rw [signedWord, littleEndian, ih fun byte later => unsigned byte (List.mem_cons_of_mem _ later),
      signExtend_of_lt (unsigned byte List.mem_cons_self)]
    apply UInt64.toBitVec_inj.1
    apply BitVec.eq_of_getLsbD_eq
    intro place _
    -- The byte has no bits from the eighth on, the shifted rest has none before.
    by_cases low : place < 8
    · simp [low]
    · have none : byte.toBitVec.getLsbD place = false :=
        BitVec.getLsbD_of_ge _ _ (Nat.le_of_not_lt low)
      simp [none]

theorem little_append_zeros (bytes : List UInt8) (count : Nat) :
    Reference.little (bytes ++ List.replicate count 0) = Reference.little bytes := by
  have zeros : Nat.ofDigits 256 ((List.replicate count (0 : UInt8)).map UInt8.toNat) = 0 := by
    simp
  rw [Reference.little, List.map_append, Nat.ofDigits_append, zeros, Nat.mul_zero, Nat.add_zero,
    Reference.little]

theorem signedTail_eq_paddedTail {tail : List UInt8} (unsigned : ∀ byte ∈ tail, byte < 0x80) :
    Reference.signedTail tail = Reference.paddedTail tail := by
  have read {bytes : List UInt8} (part : ∀ byte ∈ bytes, byte ∈ tail) :
      Reference.signedWord bytes = Reference.little bytes := by
    rw [← toBitVec_signedWord, ← toBitVec_littleEndian,
      signedWord_eq_littleEndian fun byte there => unsigned byte (part byte there)]
  rw [Reference.signedTail, Reference.paddedTail, read fun _ => List.mem_of_mem_take,
    read fun _ => List.mem_of_mem_drop, List.take_append, List.drop_append, List.take_replicate,
    List.drop_replicate, little_append_zeros, little_append_zeros]

/-- The tokens are those of the variant with signs, and those of the original wherever no byte of
the tail has one. -/
theorem token_eq_reference :
    (∀ key, (token key).toInt = Reference.token Reference.signedTail key) ∧
      ∀ key, (∀ byte ∈ Reference.tailOf key, byte < 0x80) →
        (token key).toInt = Reference.token Reference.paddedTail key := by
  constructor
  · exact toInt_token
  · intro key unsigned
    rw [toInt_token, Reference.token, Reference.token, Reference.hash, Reference.hash,
      signedTail_eq_paddedTail unsigned]

/-- A block with signs in it, and a tail without any: "déjà vu à la carte" in UTF-8. -/
def accentedKey : List UInt8 :=
  [0x64, 0xC3, 0xA9, 0x6A, 0xC3, 0xA0, 0x20, 0x76, 0x75, 0x20, 0xC3, 0xA0, 0x20, 0x6C, 0x61, 0x20,
    0x63, 0x61, 0x72, 0x74, 0x65]

theorem accentedKey_token_eq_reference :
    (∀ byte ∈ Reference.tailOf accentedKey, byte < 0x80) ∧
      (token accentedKey).toInt = Reference.token Reference.paddedTail accentedKey := by
  have tail : Reference.tailOf accentedKey = [0x63, 0x61, 0x72, 0x74, 0x65] := by rfl
  have unsigned : ∀ byte ∈ Reference.tailOf accentedKey, byte < 0x80 := by
    rw [tail]
    simp
  exact ⟨unsigned, token_eq_reference.2 accentedKey unsigned⟩

-- With a sign in the tail the two variants disagree.
example : Reference.token Reference.signedTail [0x80] ≠
    Reference.token Reference.paddedTail [0x80] := by
  decide

end ClusterDriver.Token.Murmur
