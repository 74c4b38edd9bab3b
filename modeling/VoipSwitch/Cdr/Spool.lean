import VoipSwitch.Lib.FramedLog
import VoipSwitch.Lib.OrdMap
import VoipSwitch.Core.Types

/-! The CDR spool of a domain: numbered segment files of frames, a checkpoint behind the last
acknowledged frame, and a quarantine for what could not be read. -/
namespace VoipSwitch

open Framed Keyed

def spoolSchemaVersion : Nat := 1

def segmentSizeLimit : Nat := 16 * 1024 * 1024

def maxFrameSize : Nat := 64 * 1024 * 1024

/-- `u64::saturating_mul`. -/
def satMul64 (m n : Nat) : Nat := min (m * n) u64Max

/-- The formats that the spool relies on: a frame's payload with its schema version, and the
checksum of a payload. -/
structure Codec (α : Type) where
  encode : Nat → α → Bytes
  decode : Bytes → Except String (Nat × α)
  check : Bytes → UInt32

structure SpoolPosition where
  segment : Nat
  offset : Nat
deriving DecidableEq

namespace SpoolPosition

instance : LT SpoolPosition where
  lt a b := a.segment < b.segment ∨ a.segment = b.segment ∧ a.offset < b.offset

instance : DecidableLT SpoolPosition := fun a b =>
  inferInstanceAs (Decidable (a.segment < b.segment ∨ a.segment = b.segment ∧ a.offset < b.offset))

end SpoolPosition

inductive ReplayEntry (α : Type) where
  | write (position : SpoolPosition) (command : α)
  | quarantined (position : SpoolPosition) (reason : String)
deriving DecidableEq

/-- Where the frame of an entry ends. -/
def ReplayEntry.position {α : Type} : ReplayEntry α → SpoolPosition
  | .write position _ | .quarantined position _ => position

structure QuarantineFile where
  frame : Bytes
  reason : String
deriving DecidableEq

/-- The files of a spool. Directory listings are sorted, so the segments stand in ascending
order; a quarantine file is named by the segment and the offset that its bytes come from. -/
structure CdrSpool where
  segments : OrdMap Nat Bytes
  ascending : segments.Ascending
  checkpoint : Option SpoolPosition
  quarantine : Nat → Nat → Option QuarantineFile

namespace CdrSpool

variable {α : Type}

/-- A spool directory without any file. -/
def empty : CdrSpool where
  segments := []
  ascending := .nil
  checkpoint := none
  quarantine _ _ := none

/-- An absent checkpoint file stands for the very beginning. -/
def readCheckpoint (s : CdrSpool) : SpoolPosition :=
  s.checkpoint.getD { segment := 0, offset := 0 }

/-- The last of the segments. -/
def latest (s : CdrSpool) : Option Nat := s.segments.getLast?.map Prod.fst

/-- Open a segment for appending, with the file created if need be, and write to it. -/
def write (s : CdrSpool) (segment : Nat) (bytes : Bytes) : CdrSpool :=
  { s with
    segments := s.segments.insert segment ((s.segments.lookup segment).getD [] ++ bytes)
    ascending := s.ascending.insert _ _ }

/-- `truncate_file`. -/
def truncate (s : CdrSpool) (segment length : Nat) : CdrSpool :=
  { s with
    segments := s.segments.adjust segment (·.take length)
    ascending := s.ascending.adjust _ _ }

def quarantineSuffix (s : CdrSpool) (segment offset : Nat) (bytes : Bytes) (reason : String) :
    CdrSpool :=
  { s with
    quarantine := fun segment' offset' =>
      if segment' = segment ∧ offset' = offset then some { frame := bytes, reason }
      else s.quarantine segment' offset' }

/-- `path.metadata()` of a segment, as far as its length goes. -/
def lengthOf (s : CdrSpool) (segment : Nat) : Nat :=
  ((s.segments.lookup segment).map List.length).getD 0

/-- A segment of length `offset` has no room for another frame. -/
def isFull (offset length : Nat) : Bool :=
  0 < offset && segmentSizeLimit < satAdd64 offset length

/-- The segment in which a frame of this length is to go, and that segment's length. -/
def appendTarget (s : CdrSpool) (length : Nat) : Nat × Nat :=
  let segment := s.latest.getD (max (satSucc64 s.readCheckpoint.segment) 1)
  let offset := s.lengthOf segment
  if isFull offset length then (satSucc64 segment, 0) else (segment, offset)

/-- What became of writing and syncing a frame. -/
inductive WriteOutcome where
  | synced
  /-- Only so many bytes were written before an error. -/
  | failed (written : Nat)
deriving DecidableEq

/-- The frame of a command. -/
def frameOf (codec : Codec α) (command : α) : Bytes :=
  frame codec.check (codec.encode spoolSchemaVersion command)

def append (codec : Codec α) (command : α) (outcome : WriteOutcome) (s : CdrSpool) :
    Except String SpoolPosition × CdrSpool :=
  let payload := codec.encode spoolSchemaVersion command
  if maxFrameSize < payload.length then
    (.error s!"CDR spool frame exceeds maximum size: {payload.length}", s)
  else
    let frame := frameOf codec command
    let (segment, offset) := s.appendTarget frame.length
    match outcome with
    | .synced => (.ok { segment, offset := satAdd64 offset frame.length }, s.write segment frame)
    | .failed written =>
      (.error "durable CDR append failed",
        (s.write segment (frame.take written)).truncate segment offset)

/-- The process dies in the middle of an append. -/
def crash (codec : Codec α) (command : α) (written : Nat) (s : CdrSpool) : CdrSpool :=
  s.write (s.appendTarget (frameOf codec command).length).1
    ((frameOf codec command).take written)

/-- The command of a frame, or why it is quarantined. -/
def commandOf (codec : Codec α) (piece : Piece) : Except String α :=
  if (codec.check piece.payload).toNat ≠ piece.expected then .error "CRC mismatch"
  else
    match codec.decode piece.payload with
    | .ok (version, command) =>
      if version = spoolSchemaVersion then .ok command
      else
        .error s!"unsupported schema version {version} (expected {spoolSchemaVersion})"
    | .error error => .error s!"invalid JSON payload: {error}"

/-- An incomplete frame at the end of the latest segment was never acknowledged to anyone; in a
closed segment it is kept for inspection. -/
def recoverIncompleteTail (s : CdrSpool) (segment offset : Nat) (latest : Option Nat) : CdrSpool :=
  let s := if latest = some segment then s
    else s.quarantineSuffix segment offset (((s.segments.lookup segment).getD []).drop offset)
      "incomplete frame in closed segment"
  s.truncate segment offset

/-- Read the frames of a segment from `offset` on; `rest` are the bytes from there. -/
def replayFrames (codec : Codec α) (latest : Option Nat) (segment : Nat) :
    Nat → Nat → Bytes → CdrSpool → List (ReplayEntry α) × CdrSpool
  | 0, _, _, s => ([], s)
  | fuel + 1, offset, rest, s =>
    if rest = [] then ([], s)
    else
      match read maxFrameSize rest with
      | .incomplete => ([], s.recoverIncompleteTail segment offset latest)
      | .oversized =>
        ([], (s.quarantineSuffix segment offset rest "frame length exceeds maximum").truncate
          segment offset)
      | .frame piece =>
        let next := offset + piece.raw.length
        let position : SpoolPosition := { segment, offset := next }
        match commandOf codec piece with
        | .ok command =>
          let (entries, s) :=
            replayFrames codec latest segment fuel next (rest.drop piece.raw.length) s
          (.write position command :: entries, s)
        | .error reason =>
          let s := s.quarantineSuffix segment offset piece.raw reason
          let (entries, s) :=
            replayFrames codec latest segment fuel next (rest.drop piece.raw.length) s
          (.quarantined position reason :: entries, s)

/-- Where the unacknowledged part of a segment begins. -/
def startOf (checkpoint : SpoolPosition) (segment : Nat) : Nat :=
  if segment = checkpoint.segment then checkpoint.offset else 0

/-- Replay the listed segments. Each segment is changed by its own turn only. -/
def replaySegments (codec : Codec α) (checkpoint : SpoolPosition) (latest : Option Nat) :
    List (Nat × Bytes) → CdrSpool → Except String (List (ReplayEntry α)) × CdrSpool
  | [], s => (.ok [], s)
  | (segment, bytes) :: later, s =>
    if segment < checkpoint.segment then replaySegments codec checkpoint latest later s
    else
      let offset := startOf checkpoint segment
      if bytes.length < offset then
        (.error s!"CDR spool checkpoint {offset} exceeds segment {segment} length {bytes.length}",
          s)
      else
        let (entries, s) :=
          replayFrames codec latest segment bytes.length offset (bytes.drop offset) s
        match replaySegments codec checkpoint latest later s with
        | (.ok more, s) => (.ok (entries ++ more), s)
        | (.error error, s) => (.error error, s)

def replay (codec : Codec α) (s : CdrSpool) : Except String (List (ReplayEntry α)) × CdrSpool :=
  replaySegments codec s.readCheckpoint s.latest s.segments s

def acknowledge (position : SpoolPosition) (s : CdrSpool) : Except String Unit × CdrSpool :=
  if position < s.readCheckpoint then (.error "CDR spool checkpoint cannot move backwards", s)
  else
    (.ok (),
      { s with
        checkpoint := some position
        segments := s.segments.filter fun file => ¬ file.1 < position.segment
        ascending := s.ascending.filter _ })

def backlogBytes (s : CdrSpool) : Nat :=
  s.segments.foldl (fun bytes file =>
    if file.1 < s.readCheckpoint.segment then bytes
    else satAdd64 bytes (file.2.length - startOf s.readCheckpoint file.1)) 0

end CdrSpool

end VoipSwitch
