import ClusterDriver.DriverError
import ClusterDriver.Frame

/-!
Reading frames from a byte stream that arrives in pieces. A reader asks for the nine header
bytes first and for the body only once the header is accepted, so that nothing behind a refused
header is taken from the stream.
-/

set_option autoImplicit false

namespace ClusterDriver

inductive FrameReader where
  | inHeader (bytes : ByteArray)
  | inBody (header : FrameHeader) (bytes : ByteArray)
deriving DecidableEq

namespace FrameReader

def start : FrameReader := .inHeader ByteArray.empty

/-- What became of the bytes given to a reader: all of them were taken, or they completed a
frame or a header that is refused, and some may be left over. -/
inductive Progress where
  | more (reader : FrameReader)
  | done (result : Except ProtocolError Frame) (rest : ByteArray)

def split (count : Nat) (bytes : ByteArray) : ByteArray × ByteArray :=
  (bytes.extract 0 count, bytes.extract count bytes.size)

def feedBody (header : FrameHeader) (read bytes : ByteArray) : Progress :=
  let (taken, rest) := split (header.length - read.size) bytes
  let body := read ++ taken
  if body.size < header.length then .more (.inBody header body)
  else .done (.ok (header.withBody body)) rest

def feed (reader : FrameReader) (bytes : ByteArray) : Progress :=
  match reader with
  | .inHeader read =>
      let (taken, rest) := split (headerLength - read.size) bytes
      let complete := read ++ taken
      if complete.size < headerLength then .more (.inHeader complete)
      else
        match FrameHeader.decode complete with
        | .error e => .done (.error e) rest
        | .ok header => feedBody header ByteArray.empty rest
  | .inBody header read => feedBody header read bytes

def activity : FrameReader → String
  | .inHeader _ => "reading frame header"
  | .inBody _ _ => "reading frame body"

def atEnd (reader : FrameReader) : Except DriverError Unit :=
  -- The end of the stream between frames is no fault; inside a frame it is one.
  match reader with
  | .inHeader bytes =>
      if bytes.size = 0 then .ok ()
      else .error (.ofFault reader.activity ⟨.unexpectedEnd, "early eof"⟩)
  | .inBody _ _ => .error (.ofFault reader.activity ⟨.unexpectedEnd, "early eof"⟩)

def atFault (reader : FrameReader) (fault : StreamFault) : DriverError :=
  .ofFault reader.activity fault

end FrameReader

/-- A byte stream: the pieces still to be read, and the fault it ends with instead of an
orderly end. -/
structure ByteSource where
  pieces : List ByteArray
  fault : Option StreamFault := none

namespace ByteSource

def readFrame (fault : Option StreamFault) :
    FrameReader → List ByteArray → Except DriverError (Option Frame) × List ByteArray
  | reader, [] =>
      match fault with
      | some fault => (.error (reader.atFault fault), [])
      | none => (reader.atEnd.map fun _ => none, [])
  | reader, piece :: pieces =>
      match reader.feed piece with
      | .more reader => readFrame fault reader pieces
      | .done (.ok frame) rest => (.ok (some frame), rest :: pieces)
      | .done (.error e) rest => (.error (.protocol e), rest :: pieces)

def next (source : ByteSource) : Except DriverError (Option Frame) × ByteSource :=
  let (result, pieces) :=
    readFrame source.fault .start (source.pieces.filter fun piece => piece.size ≠ 0)
  (result, { source with pieces })

def size (source : ByteSource) : Nat :=
  source.pieces.foldl (fun total piece => total + piece.size) 0

def frames : Nat → ByteSource → List Frame × Except DriverError Unit
  | 0, _ => ([], .ok ())
  | limit + 1, source =>
      match source.next with
      | (.error e, _) => ([], .error e)
      | (.ok none, _) => ([], .ok ())
      | (.ok (some frame), rest) =>
          let (more, result) := frames limit rest
          (frame :: more, result)

def allFrames (source : ByteSource) : List Frame × Except DriverError Unit :=
  -- A frame takes at least a header's worth of bytes, so there are no more frames than bytes.
  frames (source.size + 1) source

end ByteSource

structure ByteSink where
  written : ByteArray := ByteArray.empty
  writeFault : Option StreamFault := none
  flushFault : Option StreamFault := none

namespace ByteSink

def writeFrame (sink : ByteSink) (frame : Frame) : Except DriverError Unit × ByteSink :=
  match frame.encode with
  | .error e => (.error (.protocol e), sink)
  | .ok bytes =>
      match sink.writeFault with
      | some fault => (.error (.ofFault "writing frame" fault), sink)
      | none =>
          let sink := { sink with written := sink.written ++ bytes }
          match sink.flushFault with
          | some fault => (.error (.ofFault "flushing stream" fault), sink)
          | none => (.ok (), sink)

end ByteSink

end ClusterDriver
