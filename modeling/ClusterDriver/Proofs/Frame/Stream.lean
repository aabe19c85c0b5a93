import ClusterDriver.Frame.Reader
import ClusterDriver.Proofs.Frame
import Mathlib.Data.List.Forall2

set_option autoImplicit false

namespace ClusterDriver

namespace FrameReader

theorem split_short {count : Nat} {bytes : ByteArray} (short : bytes.size < count) :
    split count bytes = (bytes, ByteArray.empty) := by
  have whole : bytes.extract 0 count = bytes := by
    simpa [Nat.max_eq_left (Nat.le_of_lt short)] using
      ByteArray.extract_zero_max_size (a := bytes) (i := count)
  rw [split, whole, ByteArray.extract_eq_empty_iff.2 (by omega)]

theorem split_append {count : Nat} {taken : ByteArray} (rest : ByteArray)
    (exact : taken.size = count) : split count (taken ++ rest) = (taken, rest) := by
  rw [split, ByteArray.extract_append_eq_left exact.symm,
    ByteArray.extract_append_eq_right exact.symm ByteArray.size_append]

theorem exists_append {count : Nat} {bytes : ByteArray} (long : count ≤ bytes.size) :
    ∃ taken rest : ByteArray, bytes = taken ++ rest ∧ taken.size = count := by
  refine ⟨bytes.extract 0 count, bytes.extract count bytes.size, ?_, ?_⟩
  · rw [ByteArray.extract_append_extract, Nat.zero_min, Nat.max_eq_right long,
      ByteArray.extract_zero_size]
  · rw [ByteArray.size_extract, Nat.min_eq_left long, Nat.sub_zero]

section Body

variable {header : FrameHeader} {read : ByteArray}

theorem feedBody_short {bytes : ByteArray} (short : bytes.size < header.length - read.size) :
    feedBody header read bytes = .more (.inBody header (read ++ bytes)) := by
  rw [feedBody, split_short short]
  exact if_pos (by rw [ByteArray.size_append]; omega)

theorem feedBody_full {taken : ByteArray} (rest : ByteArray)
    (exact : taken.size = header.length - read.size) :
    feedBody header read (taken ++ rest) = .done (.ok (header.withBody (read ++ taken))) rest := by
  rw [feedBody, split_append rest exact]
  exact if_neg (by rw [ByteArray.size_append]; omega)

end Body

theorem feed_short {read bytes : ByteArray} (short : bytes.size < headerLength - read.size) :
    (inHeader read).feed bytes = .more (.inHeader (read ++ bytes)) := by
  rw [feed, split_short short]
  exact if_pos (by rw [ByteArray.size_append]; omega)

theorem feed_full {read taken : ByteArray} (rest : ByteArray)
    (exact : taken.size = headerLength - read.size) :
    (inHeader read).feed (taken ++ rest) =
      match FrameHeader.decode (read ++ taken) with
      | .error e => .done (.error e) rest
      | .ok header => feedBody header ByteArray.empty rest := by
  rw [feed, split_append rest exact]
  exact if_neg (by rw [ByteArray.size_append]; omega)

def Progress.andThen : Progress → ByteArray → Progress
  | .more reader, bytes => reader.feed bytes
  | .done result rest, bytes => .done result (rest ++ bytes)

theorem feedBody_append (header : FrameHeader) (read first second : ByteArray) :
    feedBody header read (first ++ second) = (feedBody header read first).andThen second := by
  by_cases short : first.size < header.length - read.size
  · rw [feedBody_short short, Progress.andThen, feed]
    have missing : header.length - (read ++ first).size =
        header.length - read.size - first.size := by
      rw [ByteArray.size_append, Nat.sub_add_eq]
    by_cases shorter : second.size < header.length - read.size - first.size
    · rw [feedBody_short (show second.size < header.length - (read ++ first).size by omega),
        feedBody_short, ByteArray.append_assoc]
      rw [ByteArray.size_append]
      omega
    · obtain ⟨taken, rest, rfl, exact⟩ := exists_append (Nat.le_of_not_lt shorter)
      rw [feedBody_full rest (exact.trans missing.symm), ← ByteArray.append_assoc, feedBody_full,
        ByteArray.append_assoc]
      rw [ByteArray.size_append]
      omega
  · obtain ⟨taken, rest, rfl, exact⟩ := exists_append (Nat.le_of_not_lt short)
    rw [feedBody_full rest exact, ByteArray.append_assoc, feedBody_full _ exact, Progress.andThen]

theorem feed_append (reader : FrameReader) (first second : ByteArray) :
    reader.feed (first ++ second) = (reader.feed first).andThen second := by
  cases reader with
  | inBody header read => exact feedBody_append header read first second
  | inHeader read =>
    by_cases short : first.size < headerLength - read.size
    · rw [feed_short short, Progress.andThen]
      have missing : headerLength - (read ++ first).size =
          headerLength - read.size - first.size := by
        rw [ByteArray.size_append, Nat.sub_add_eq]
      by_cases shorter : second.size < headerLength - read.size - first.size
      · rw [feed_short (show second.size < headerLength - (read ++ first).size by omega),
          feed_short, ByteArray.append_assoc]
        rw [ByteArray.size_append]
        omega
      · obtain ⟨taken, rest, rfl, exact⟩ := exists_append (Nat.le_of_not_lt shorter)
        rw [feed_full rest (exact.trans missing.symm), ← ByteArray.append_assoc, feed_full,
          ByteArray.append_assoc]
        rw [ByteArray.size_append]
        omega
    · obtain ⟨taken, rest, rfl, exact⟩ := exists_append (Nat.le_of_not_lt short)
      rw [feed_full rest exact, ByteArray.append_assoc, feed_full _ exact]
      cases FrameHeader.decode (read ++ taken) with
      | error e => rfl
      | ok header => exact feedBody_append header ByteArray.empty rest second

/-- A reader that has not been given all that it waits for. -/
def Waits (reader : FrameReader) : Prop := reader.feed ByteArray.empty = .more reader

theorem waits_start : start.Waits := feed_short (by decide)

theorem waits_more {reader later : FrameReader} {bytes : ByteArray}
    (more : reader.feed bytes = .more later) : later.Waits := by
  have again := reader.feed_append bytes ByteArray.empty
  rw [ByteArray.append_empty, more] at again
  exact again.symm

def Progress.conclude : Progress → Except DriverError (Option Frame) × ByteArray
  | .more reader => (reader.atEnd.map fun _ => none, ByteArray.empty)
  | .done (.ok frame) rest => (.ok (some frame), rest)
  | .done (.error e) rest => (.error (.protocol e), rest)

end FrameReader

/-- What the first read of a stream gives that holds these bytes and then ends, and how many of
them it takes. -/
inductive FirstRead (bytes : ByteArray) : Except DriverError (Option Frame) → Nat → Prop
  | nothing (empty : bytes.size = 0) : FirstRead bytes (.ok none) 0
  | cutHeader (begun : 0 < bytes.size) (short : bytes.size < headerLength) :
      FirstRead bytes (.error (.connection "reading frame header: Connection lost")) bytes.size
  | refused {error : ProtocolError} (long : headerLength ≤ bytes.size)
      (refusal : FrameHeader.decode (bytes.extract 0 headerLength) = .error error) :
      FirstRead bytes (.error (.protocol error)) headerLength
  | cutBody {header : FrameHeader} (long : headerLength ≤ bytes.size)
      (accepted : FrameHeader.decode (bytes.extract 0 headerLength) = .ok header)
      (short : bytes.size < headerLength + header.length) :
      FirstRead bytes (.error (.connection "reading frame body: Connection lost")) bytes.size
  | whole {header : FrameHeader} {frame : Frame}
      (accepted : FrameHeader.decode (bytes.extract 0 headerLength) = .ok header)
      (long : headerLength + header.length ≤ bytes.size)
      (decoded : Frame.decode (bytes.extract 0 (headerLength + header.length)) = .ok frame) :
      FirstRead bytes (.ok (some frame)) (headerLength + header.length)

namespace Frame

def TravelsAs (frame : Frame) (bytes : ByteArray) : Prop :=
  frame.version &&& ~~~responseFlag = protocolVersion ∧ frame.encode = .ok bytes

theorem TravelsAs.parts {frame : Frame} {bytes : ByteArray} (travels : frame.TravelsAs bytes) :
    ∃ (start body : ByteArray) (header : FrameHeader), bytes = start ++ body ∧
      start.size = headerLength ∧ FrameHeader.decode start = .ok header ∧
      body.size = header.length ∧ header.withBody body = frame := by
  obtain ⟨known, written⟩ := travels
  have read := (decode_of_encode written).trans (if_pos known)
  obtain ⟨-, rfl⟩ := (encode_eq_ok_iff frame bytes).1 written
  have nine := size_headerBytes frame
  rw [decode_append _ _ nine] at read
  split at read
  next => cases read
  next header accepted =>
    split at read
    next => cases read
    next exact =>
      exact ⟨_, _, header, rfl, nine, accepted, Decidable.not_not.1 exact, Except.ok.inj read⟩

end Frame

def cutError (count : Nat) : DriverError :=
  if count < headerLength then .connection "reading frame header: Connection lost"
  else .connection "reading frame body: Connection lost"

namespace FirstRead

theorem unique {bytes : ByteArray} {result other : Except DriverError (Option Frame)}
    {count more : Nat} (first : FirstRead bytes result count) (second : FirstRead bytes other more) :
    result = other ∧ count = more := by
  cases first <;> cases second <;> grind [headerLength]

theorem of_header {start body rest : ByteArray} {header : FrameHeader}
    (nine : start.size = headerLength) (accepted : FrameHeader.decode start = .ok header)
    (exact : body.size = header.length) :
    FirstRead (start ++ body ++ rest) (.ok (some (header.withBody body)))
      (headerLength + header.length) := by
  have front : (start ++ body ++ rest).extract 0 headerLength = start := by
    rw [ByteArray.append_assoc, ByteArray.extract_append_eq_left nine.symm]
  have both : (start ++ body).size = headerLength + header.length := by
    rw [ByteArray.size_append, nine, exact]
  refine .whole (by rwa [front]) (by rw [ByteArray.size_append]; omega) ?_
  rw [ByteArray.extract_append_eq_left both.symm, Frame.decode_append start body nine, accepted]
  exact if_neg (not_not_intro exact)

theorem of_cut {start part : ByteArray} {header : FrameHeader} (nine : start.size = headerLength)
    (accepted : FrameHeader.decode start = .ok header) (short : part.size < header.length) :
    FirstRead (start ++ part) (.error (.connection "reading frame body: Connection lost"))
      (start ++ part).size := by
  have front : (start ++ part).extract 0 headerLength = start :=
    ByteArray.extract_append_eq_left nine.symm
  have size : (start ++ part).size = headerLength + part.size := by
    rw [ByteArray.size_append, nine]
  exact .cutBody (by omega) (by rwa [front]) (by omega)

theorem of_travelling {frame : Frame} {bytes : ByteArray} (travels : frame.TravelsAs bytes)
    (rest : ByteArray) : FirstRead (bytes ++ rest) (.ok (some frame)) bytes.size := by
  obtain ⟨start, body, header, rfl, nine, accepted, exact, rfl⟩ := travels.parts
  rw [ByteArray.size_append, nine, exact]
  exact of_header nine accepted exact

theorem of_part {frame : Frame} {bytes : ByteArray} (travels : frame.TravelsAs bytes) {count : Nat}
    (begun : 0 < count) (short : count < bytes.size) :
    FirstRead (bytes.extract 0 count) (.error (cutError count)) count := by
  have size : (bytes.extract 0 count).size = count := by
    rw [ByteArray.size_extract, Nat.min_eq_left (Nat.le_of_lt short), Nat.sub_zero]
  unfold cutError
  split
  next early =>
    have cut : FirstRead (bytes.extract 0 count) _ (bytes.extract 0 count).size :=
      .cutHeader (by omega) (by omega)
    rwa [size] at cut
  next late =>
    obtain ⟨start, body, header, rfl, nine, accepted, exact, rfl⟩ := travels.parts
    rw [ByteArray.size_append, nine] at short
    have inside : count - headerLength ≤ body.size := by omega
    obtain ⟨part, missing, rfl, taken⟩ := FrameReader.exists_append inside
    have both : (start ++ part).size = count := by
      rw [ByteArray.size_append]
      omega
    rw [ByteArray.size_append] at exact short
    rw [← ByteArray.append_assoc, ByteArray.extract_append_eq_left both.symm, ← both]
    exact of_cut nine accepted (by omega)

end FirstRead

namespace FrameReader

theorem atEnd_inHeader {bytes : ByteArray} (begun : 0 < bytes.size) :
    (inHeader bytes).atEnd = .error (.connection "reading frame header: Connection lost") :=
  if_neg (Nat.ne_of_gt begun)

theorem feed_reads (bytes : ByteArray) : ∃ count ≤ bytes.size,
    FirstRead bytes (start.feed bytes).conclude.1 count ∧
      (start.feed bytes).conclude.2 = bytes.extract count bytes.size := by
  by_cases short : bytes.size < headerLength
  · have more : start.feed bytes = .more (.inHeader bytes) := by
      rw [start, feed_short short, ByteArray.empty_append]
    rw [more]
    rcases Nat.eq_zero_or_pos bytes.size with empty | begun
    · obtain rfl := ByteArray.size_eq_zero_iff.1 empty
      exact ⟨0, Nat.le_refl _, .nothing rfl, rfl⟩
    · refine ⟨bytes.size, Nat.le_refl _, ?_, ByteArray.extract_same.symm⟩
      rw [Progress.conclude, atEnd_inHeader begun]
      exact .cutHeader begun short
  -- From here on the bytes begin with a whole header.
  obtain ⟨front, rest, rfl, nine⟩ := exists_append (Nat.le_of_not_lt short)
  have long : headerLength ≤ (front ++ rest).size := Nat.le_of_not_lt short
  have taken : (front ++ rest).extract 0 headerLength = front :=
    ByteArray.extract_append_eq_left nine.symm
  have left : (front ++ rest).extract headerLength (front ++ rest).size = rest :=
    ByteArray.extract_append_eq_right nine.symm ByteArray.size_append
  rw [start, feed_full rest nine, ByteArray.empty_append]
  cases decoded : FrameHeader.decode front with
  | error error => exact ⟨headerLength, long, .refused long (by rwa [taken]), left.symm⟩
  | ok header =>
    dsimp only
    by_cases cut : rest.size < header.length
    · rw [feedBody_short (show rest.size < header.length - ByteArray.empty.size from cut)]
      exact ⟨_, Nat.le_refl _, .of_cut nine decoded cut, ByteArray.extract_same.symm⟩
    · obtain ⟨body, rest, rfl, exact⟩ := exists_append (Nat.le_of_not_lt cut)
      have both : headerLength + header.length = (front ++ body).size := by
        rw [ByteArray.size_append, nine, exact]
      rw [feedBody_full rest exact, ByteArray.empty_append, ← ByteArray.append_assoc]
      refine ⟨headerLength + header.length, ?_, .of_header nine decoded exact, ?_⟩
      · rw [ByteArray.size_append]
        omega
      · rw [ByteArray.extract_append_eq_right both ByteArray.size_append]
        rfl

end FrameReader

namespace ByteSource

def joined (pieces : List ByteArray) : ByteArray := pieces.foldr (· ++ ·) ByteArray.empty

def bytes (source : ByteSource) : ByteArray := joined source.pieces

theorem readFrame_joined {reader : FrameReader} (waits : reader.Waits) (pieces : List ByteArray) :
    ((readFrame none reader pieces).1, joined (readFrame none reader pieces).2) =
      (reader.feed (joined pieces)).conclude := by
  induction pieces generalizing reader with
  | nil =>
    have none : joined [] = ByteArray.empty := rfl
    rw [none, waits]
    rfl
  | cons piece pieces ih =>
    have whole : joined (piece :: pieces) = piece ++ joined pieces := rfl
    rw [whole, reader.feed_append, readFrame]
    cases progress : reader.feed piece with
    | more later => exact ih (FrameReader.waits_more progress)
    | done result rest => cases result <;> rfl

theorem joined_filter (pieces : List ByteArray) :
    joined (pieces.filter fun piece => piece.size ≠ 0) = joined pieces := by
  induction pieces with
  | nil => rfl
  | cons piece pieces ih =>
    by_cases empty : piece.size = 0
    · obtain rfl := ByteArray.size_eq_zero_iff.1 empty
      exact ih.trans ByteArray.empty_append.symm
    · rw [List.filter_cons_of_pos (by simpa using empty)]
      exact congrArg (piece ++ ·) ih

theorem next_reads {source : ByteSource} (ends : source.fault = none) :
    ∃ count ≤ source.bytes.size, FirstRead source.bytes source.next.1 count ∧
      source.next.2.fault = none ∧
      source.next.2.bytes = source.bytes.extract count source.bytes.size := by
  obtain ⟨count, within, first, left⟩ := FrameReader.feed_reads source.bytes
  have same := readFrame_joined FrameReader.waits_start
    (source.pieces.filter fun piece => piece.size ≠ 0)
  rw [joined_filter, ← ends] at same
  have result : source.next.1 = (FrameReader.start.feed source.bytes).conclude.1 :=
    (Prod.ext_iff.1 same).1
  have rest : source.next.2.bytes = (FrameReader.start.feed source.bytes).conclude.2 :=
    (Prod.ext_iff.1 same).2
  rw [← result] at first
  rw [← rest] at left
  exact ⟨count, within, first, ends, left⟩

inductive Reads : ByteSource → List Frame → ByteSource → Prop
  | nil {source : ByteSource} : Reads source [] source
  | cons {source rest last : ByteSource} {frame : Frame} {frames : List Frame}
      (first : source.next = (.ok (some frame), rest)) (others : Reads rest frames last) :
      Reads source (frame :: frames) last

theorem next_eq {source : ByteSource} (ends : source.fault = none)
    {result : Except DriverError (Option Frame)} {count : Nat}
    (first : FirstRead source.bytes result count) :
    source.next.1 = result ∧ source.next.2.fault = none ∧
      source.next.2.bytes = source.bytes.extract count source.bytes.size := by
  obtain ⟨other, -, read, still, left⟩ := next_reads ends
  obtain ⟨same, rfl⟩ := read.unique first
  exact ⟨same, still, left⟩

theorem reads_travelling {frames : List Frame} {wholes : List ByteArray}
    (travel : List.Forall₂ Frame.TravelsAs frames wholes) {source : ByteSource}
    (ends : source.fault = none) {rest : ByteArray} (bytes : source.bytes = joined wholes ++ rest) :
    ∃ last, Reads source frames last ∧ last.fault = none ∧ last.bytes = rest := by
  induction travel generalizing source with
  | nil => exact ⟨source, .nil, ends, bytes.trans ByteArray.empty_append⟩
  | @cons frame whole frames wholes travels others ih =>
    have split : source.bytes = whole ++ (joined wholes ++ rest) := by
      rw [bytes, ← ByteArray.append_assoc]
      rfl
    obtain ⟨result, still, left⟩ := next_eq ends
      (split ▸ FirstRead.of_travelling travels (joined wholes ++ rest))
    rw [split, ByteArray.extract_append_eq_right rfl ByteArray.size_append] at left
    obtain ⟨last, reads, facts⟩ := ih still left
    exact ⟨last, .cons (Prod.ext result rfl) reads, facts⟩

theorem size_eq (source : ByteSource) : source.size = source.bytes.size := by
  have from_start : ∀ (pieces : List ByteArray) (start : Nat),
      pieces.foldl (fun total piece => total + piece.size) start =
        start + (joined pieces).size := by
    intro pieces
    induction pieces with
    | nil => intro start; rfl
    | cons piece pieces ih =>
      intro start
      have whole : joined (piece :: pieces) = piece ++ joined pieces := rfl
      rw [List.foldl_cons, ih, whole, ByteArray.size_append, Nat.add_assoc]
  rw [size, from_start, Nat.zero_add]
  rfl

theorem length_le_size {frames : List Frame} {wholes : List ByteArray}
    (travel : List.Forall₂ Frame.TravelsAs frames wholes) :
    frames.length ≤ (joined wholes).size := by
  induction travel with
  | nil => exact Nat.le_refl 0
  | @cons frame whole frames wholes travels others ih =>
    obtain ⟨start, body, header, split, nine, -⟩ := travels.parts
    have joins : joined (whole :: wholes) = whole ++ joined wholes := rfl
    have positive : 0 < headerLength := by decide
    rw [joins, List.length_cons, ByteArray.size_append, split, ByteArray.size_append]
    omega

theorem frames_reads {source last : ByteSource} {read : List Frame} (reads : Reads source read last)
    (limit : Nat) :
    frames (read.length + limit) source =
      (read ++ (frames limit last).1, (frames limit last).2) := by
  induction reads with
  | nil => rw [List.length_nil, Nat.zero_add]; rfl
  | @cons source rest last frame others first _ ih =>
    have next : (frame :: others).length + limit = others.length + limit + 1 := by
      rw [List.length_cons]
      omega
    rw [next, frames, first]
    dsimp only
    rw [ih]
    rfl

theorem allFrames_reads {source last : ByteSource} {read : List Frame}
    (reads : Reads source read last) (few : read.length ≤ source.size)
    (ended : ∀ frame, last.next.1 ≠ .ok (some frame)) :
    source.allFrames = (read, last.next.1.map fun _ => ()) := by
  obtain ⟨spare, enough⟩ := Nat.exists_eq_add_of_le few
  rw [allFrames, enough, Nat.add_assoc, frames_reads reads, frames]
  rcases result : last.next with ⟨error | _ | frame, rest⟩
  · simp [Except.map]
  · simp [Except.map]
  · exact absurd (congrArg Prod.fst result) (ended frame)

theorem bytes_decide_frames :
    (∀ source : ByteSource, source.fault = none → ∃ count ≤ source.bytes.size,
      FirstRead source.bytes source.next.1 count ∧ source.next.2.fault = none ∧
        source.next.2.bytes = source.bytes.extract count source.bytes.size) ∧
    (∀ (bytes : ByteArray) (result other : Except DriverError (Option Frame)) (count more : Nat),
      FirstRead bytes result count → FirstRead bytes other more → result = other ∧ count = more) ∧
    (∀ (source : ByteSource) (sent : List Frame) (wholes : List ByteArray),
      source.fault = none → List.Forall₂ Frame.TravelsAs sent wholes →
      source.bytes = joined wholes →
        source.allFrames = (sent, .ok ()) ∧
          ∃ last, Reads source sent last ∧ last.next.1 = .ok none) ∧
    ∀ (source : ByteSource) (sent : List Frame) (wholes : List ByteArray) (frame : Frame)
      (whole : ByteArray) (count : Nat), source.fault = none →
      List.Forall₂ Frame.TravelsAs sent wholes → frame.TravelsAs whole →
      0 < count → count < whole.size → source.bytes = joined wholes ++ whole.extract 0 count →
        source.allFrames = (sent, .error (cutError count)) ∧
          ∃ last, Reads source sent last ∧ last.next.1 = .error (cutError count) := by
  refine ⟨fun _ ends => next_reads ends, fun _ _ _ _ _ first second => first.unique second, ?_, ?_⟩
  · intro source sent wholes ends travel bytes
    have whole := bytes.trans ByteArray.append_empty.symm
    obtain ⟨last, reads, still, left⟩ := reads_travelling travel ends whole
    have nothing : FirstRead last.bytes (.ok none) 0 := .nothing (by rw [left]; rfl)
    have ended : last.next.1 = .ok none := (next_eq still nothing).1
    have few : sent.length ≤ source.size := by
      rw [size_eq, bytes]
      exact length_le_size travel
    refine ⟨?_, last, reads, ended⟩
    rw [allFrames_reads reads few (by simp [ended]), ended]
    rfl
  · intro source sent wholes frame whole count ends travel travels begun short bytes
    obtain ⟨last, reads, still, left⟩ := reads_travelling travel ends bytes
    have cut : last.next.1 = .error (cutError count) :=
      (next_eq still (left ▸ FirstRead.of_part travels begun short)).1
    have few : sent.length ≤ source.size := by
      rw [size_eq, bytes, ByteArray.size_append]
      exact Nat.le_trans (length_le_size travel) (Nat.le_add_right _ _)
    refine ⟨?_, last, reads, cut⟩
    rw [allFrames_reads reads few (by simp [cut]), cut]
    rfl

def question : Frame := .request 1 .query (bytesOfList [0x71, 0x3F])

def questionBytes : ByteArray := bytesOfList [4, 0, 0, 1, 7, 0, 0, 0, 2, 0x71, 0x3F]

def broken : ByteSource where
  pieces := [[4, 0], [0, 1, 7, 0, 0, 0, 2, 0x71], [0x3F, 4, 0], [0, 1, 7, 0, 0, 0],
    [2, 0x71]].map bytesOfList

theorem broken_bytes_decide_frames :
    broken.fault = none ∧ List.Forall₂ Frame.TravelsAs [question] [questionBytes] ∧
    broken.bytes = joined [questionBytes] ++ questionBytes.extract 0 10 ∧
    broken.allFrames = ([question], .error (.connection "reading frame body: Connection lost")) := by
  have travels : question.TravelsAs questionBytes := ⟨by decide, rfl⟩
  have travel : List.Forall₂ Frame.TravelsAs [question] [questionBytes] := .cons travels .nil
  have bytes : broken.bytes = joined [questionBytes] ++ questionBytes.extract 0 10 := by decide
  exact ⟨rfl, travel, bytes, (bytes_decide_frames.2.2.2 broken [question] [questionBytes] question
    questionBytes 10 rfl travel travels (by decide) (by decide) bytes).1⟩

end ByteSource

end ClusterDriver
