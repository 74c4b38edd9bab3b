import VoipSwitch.Cdr.Replay
import VoipSwitch.Lib.Transition

/-! The spool is a queue: an append puts a frame at its end, an acknowledgement takes frames
from its front, and a replay shows what it holds. -/
namespace VoipSwitch

open Framed Keyed

namespace SpoolPosition

variable {a b c : SpoolPosition}

theorem lt_iff : a < b ↔ a.segment < b.segment ∨ a.segment = b.segment ∧ a.offset < b.offset :=
  Iff.rfl

theorem lt_irrefl (a : SpoolPosition) : ¬ a < a := by
  rw [lt_iff]
  omega

theorem lt_of_not_lt (first : ¬ b < a) (second : b < c) : a < c := by
  rw [lt_iff] at *
  omega

theorem eq_of_not_lt (first : ¬ a < b) (second : ¬ b < a) : a = b := by
  rw [lt_iff] at *
  have hSegment : a.segment = b.segment := by omega
  have hOffset : a.offset = b.offset := by omega
  cases a
  cases b
  rw [SpoolPosition.mk.injEq]
  exact ⟨hSegment, hOffset⟩

end SpoolPosition

namespace CdrSpool

variable {α : Type} {codec : Codec α} {s : CdrSpool}

theorem locatedFrom_append (segment offset : Nat) (first later : List Piece) :
    locatedFrom segment offset (first ++ later) = locatedFrom segment offset first ++
      locatedFrom segment (offset + (joined first).length) later := by
  induction first generalizing offset with
  | nil => rfl
  | cons piece first ih =>
      rw [List.cons_append, locatedFrom, ih, locatedFrom, joined_cons, List.length_append,
        Nat.add_assoc, List.cons_append]

/-- Frames end where they are, and behind the start. -/
theorem mem_locatedFrom {segment offset : Nat} {pieces : List Piece}
    {located : SpoolPosition × Piece} (h : located ∈ locatedFrom segment offset pieces) :
    located.1.segment = segment ∧ ∃ first later, pieces = first ++ located.2 :: later ∧
      located.1.offset = offset + (joined (first ++ [located.2])).length := by
  induction pieces generalizing offset with
  | nil => exact (List.not_mem_nil h).elim
  | cons piece pieces ih =>
      rcases List.mem_cons.mp h with rfl | hLater
      · refine ⟨rfl, [], pieces, rfl, ?_⟩
        simp
      · obtain ⟨hSegment, first, later, rfl, hOffset⟩ := ih hLater
        refine ⟨hSegment, piece :: first, later, rfl, ?_⟩
        rw [hOffset, List.cons_append, joined_cons, List.length_append, Nat.add_assoc]

/-- The unacknowledged frames of a file. -/
def fileFrames (checkpoint : SpoolPosition) (file : Nat × Bytes) : List (SpoolPosition × Piece) :=
  if file.1 < checkpoint.segment then []
  else locatedFrom file.1 (startOf checkpoint file.1) (fileScan checkpoint file).pieces

/-- The unacknowledged frames of a spool. -/
def frames (s : CdrSpool) : List (SpoolPosition × Piece) :=
  s.segments.flatMap (fileFrames s.readCheckpoint)

theorem entries_eq (codec : Codec α) (s : CdrSpool) :
    s.entries codec = s.frames.map fun located => entryOf codec located.1 located.2 := by
  rw [entries, frames, List.map_flatMap]
  apply List.flatMap_congr
  intro file _
  rw [fileEntries, fileFrames]
  split
  · rfl
  · exact entriesFrom_eq _ _ _

theorem frames_replayed (codec : Codec α) (s : CdrSpool) :
    (s.replayed codec).frames = s.frames := by
  rw [frames, readCheckpoint_replayed, replayed_segments, frames, OrdMap.mapValues,
    List.flatMap_map]
  apply List.flatMap_congr
  intro file _
  rw [fileFrames, fileFrames]
  split
  · rfl
  · next hActive => rw [fileScan_kept hActive]

theorem raw_ne_nil {limit : Nat} {bytes : Bytes} {piece : Piece}
    (h : piece ∈ (scan limit bytes).pieces) : piece.raw ≠ [] := by
  induction bytes using scan_induction limit with
  | nil => exact (List.not_mem_nil h).elim
  | incomplete bytes hNil hRead =>
      rw [scan_eq hNil, hRead] at h
      exact (List.not_mem_nil h).elim
  | oversized bytes hNil hRead =>
      rw [scan_eq hNil, hRead] at h
      exact (List.not_mem_nil h).elim
  | frame front rest hRead hRaw ih =>
      rw [scan_cons hRead hRaw] at h
      rcases List.mem_cons.mp h with rfl | hLater
      · exact hRaw
      · exact ih hLater

/-- A frame of a file ends in its unacknowledged part. -/
theorem mem_fileFrames {checkpoint : SpoolPosition} {file : Nat × Bytes}
    {located : SpoolPosition × Piece} (h : located ∈ fileFrames checkpoint file) :
    ¬ file.1 < checkpoint.segment ∧ located.1.segment = file.1 ∧
      startOf checkpoint file.1 < located.1.offset ∧
      ∃ first later, (fileScan checkpoint file).pieces = first ++ located.2 :: later ∧
        located.1.offset = startOf checkpoint file.1 + (joined (first ++ [located.2])).length := by
  rw [fileFrames] at h
  split at h
  · exact (List.not_mem_nil h).elim
  · next hActive =>
      obtain ⟨hSegment, first, later, hPieces, hOffset⟩ := mem_locatedFrom h
      refine ⟨hActive, hSegment, ?_, first, later, hPieces, hOffset⟩
      have hMem : located.2 ∈ (fileScan checkpoint file).pieces := by
        rw [hPieces]
        simp
      have hRaw : located.2.raw ≠ [] := raw_ne_nil hMem
      have hPositive := List.length_pos_iff.mpr hRaw
      rw [joined_append, List.length_append, joined_cons, List.length_append] at hOffset
      omega

/-- What a replay shows is not acknowledged yet. -/
theorem checkpoint_lt (s : CdrSpool) {located : SpoolPosition × Piece} (h : located ∈ s.frames) :
    s.readCheckpoint < located.1 := by
  obtain ⟨file, _, hMem⟩ := List.mem_flatMap.mp h
  obtain ⟨hActive, hSegment, hStart, _⟩ := mem_fileFrames hMem
  rw [SpoolPosition.lt_iff, hSegment]
  rw [startOf] at hStart
  split at hStart
  · next hSame => exact .inr ⟨hSame.symm, hStart⟩
  · next hOther => exact .inl (by omega)

theorem locatedFrom_sorted {segment offset : Nat} {pieces : List Piece}
    (hRaw : ∀ piece ∈ pieces, piece.raw ≠ []) :
    (locatedFrom segment offset pieces).Pairwise (·.1 < ·.1) := by
  induction pieces generalizing offset with
  | nil => exact List.Pairwise.nil
  | cons piece pieces ih =>
      refine List.pairwise_cons.mpr ⟨?_, ih fun piece hMem => hRaw piece (.tail _ hMem)⟩
      intro located hMem
      obtain ⟨hSegment, first, later, hPieces, hOffset⟩ := mem_locatedFrom hMem
      have hPositive := List.length_pos_iff.mpr (hRaw located.2 (by rw [hPieces]; simp))
      rw [joined_append, List.length_append, joined_cons, List.length_append] at hOffset
      rw [SpoolPosition.lt_iff, hSegment]
      refine .inr ⟨rfl, ?_⟩
      show offset + piece.raw.length < located.1.offset
      omega

/-- A replay shows the frames in the order of their positions. -/
theorem frames_sorted (s : CdrSpool) : s.frames.Pairwise (·.1 < ·.1) := by
  rw [frames, List.pairwise_flatMap]
  constructor
  · intro file _
    rw [fileFrames]
    split
    · exact List.Pairwise.nil
    · exact locatedFrom_sorted fun piece hMem => raw_ne_nil hMem
  · have hFiles : s.segments.Pairwise (·.1 < ·.1) := List.pairwise_map.mp s.ascending
    apply hFiles.imp
    intro file later hLess located hMem located' hMem'
    obtain ⟨_, hSegment, _⟩ := mem_fileFrames hMem
    obtain ⟨_, hSegment', _⟩ := mem_fileFrames hMem'
    rw [SpoolPosition.lt_iff, hSegment, hSegment']
    exact .inl hLess

section Acknowledge

/-- The position stands behind the checkpoint and at the end of a frame of its segment, if that
segment is there. -/
structure Boundary (s : CdrSpool) (position : SpoolPosition) : Prop where
  ahead : ¬ position < s.readCheckpoint
  frame : ∀ bytes, s.segments.lookup position.segment = some bytes →
    ∃ first later, (fileScan s.readCheckpoint (position.segment, bytes)).pieces = first ++ later ∧
      position.offset = startOf s.readCheckpoint position.segment + (joined first).length

theorem Boundary.checkpoint (s : CdrSpool) : s.Boundary s.readCheckpoint where
  ahead := by
    rw [SpoolPosition.lt_iff]
    omega
  frame bytes _ := by
    refine ⟨[], _, rfl, ?_⟩
    rw [startOf, if_pos rfl, joined_nil, List.length_nil, Nat.add_zero]

theorem Boundary.of_mem {located : SpoolPosition × Piece} (h : located ∈ s.frames) :
    s.Boundary located.1 where
  ahead hLess := by
    have hMore := checkpoint_lt s h
    rw [SpoolPosition.lt_iff] at hLess hMore
    omega
  frame bytes hBytes := by
    obtain ⟨file, hFile, hMem⟩ := List.mem_flatMap.mp h
    obtain ⟨_, hSegment, _, first, later, hPieces, hOffset⟩ := mem_fileFrames hMem
    have hFound := OrdMap.lookup_of_mem s.ascending hFile
    rw [hSegment] at hBytes ⊢
    obtain rfl := Option.some.inj (hFound.symm.trans hBytes)
    refine ⟨first ++ [located.2], later, ?_, hOffset⟩
    rw [hPieces, List.append_assoc, List.singleton_append]

/-- The spool after an acknowledgement that was accepted. -/
def acknowledged (s : CdrSpool) (position : SpoolPosition) : CdrSpool :=
  { s with
    checkpoint := some position
    segments := s.segments.filter fun file => ¬ file.1 < position.segment
    ascending := s.ascending.filter _ }

theorem acknowledge_eq {position : SpoolPosition} (h : ¬ position < s.readCheckpoint) :
    acknowledge position s = (.ok (), s.acknowledged position) := if_neg h

/-- A scan from an acknowledged position finds the later ones of the frames. -/
theorem fileScan_acknowledged {position : SpoolPosition} (h : s.Boundary position)
    {file : Nat × Bytes} (hFile : file ∈ s.segments) (hActive : ¬ file.1 < position.segment) :
    ∃ first later, (fileScan s.readCheckpoint file).pieces = first ++ later ∧
      fileScan position file = { fileScan s.readCheckpoint file with pieces := later } ∧
      startOf position file.1 = startOf s.readCheckpoint file.1 + (joined first).length := by
  have hAhead := h.ahead
  rw [SpoolPosition.lt_iff, not_or] at hAhead
  by_cases hSame : file.1 = position.segment
  · obtain ⟨first, later, hPieces, hOffset⟩ := h.frame file.2 (by
      rw [← hSame]
      exact OrdMap.lookup_of_mem s.ascending hFile)
    rw [← hSame] at hPieces hOffset
    have hStart : startOf position file.1 =
        startOf s.readCheckpoint file.1 + (joined first).length := by
      rw [startOf, if_pos hSame, hOffset]
    refine ⟨first, later, hPieces, ?_, hStart⟩
    rw [fileScan, hStart, ← List.drop_drop]
    exact scan_drop hPieces
  · have hStart : startOf position file.1 = startOf s.readCheckpoint file.1 := by
      rw [startOf, startOf, if_neg hSame, if_neg (by omega)]
    refine ⟨[], _, rfl, ?_, ?_⟩
    · rw [fileScan, hStart, fileScan]
    · rw [hStart, joined_nil, List.length_nil, Nat.add_zero]

/-- The frames of a file behind an acknowledged position. -/
theorem fileFrames_acknowledged {position : SpoolPosition} (h : s.Boundary position)
    {file : Nat × Bytes} (hFile : file ∈ s.segments) :
    fileFrames position file =
      (fileFrames s.readCheckpoint file).filter fun located => position < located.1 := by
  have hAhead := h.ahead
  rw [SpoolPosition.lt_iff, not_or] at hAhead
  by_cases hBefore : file.1 < position.segment
  · rw [fileFrames, if_pos hBefore, eq_comm, List.filter_eq_nil_iff]
    intro located hMem
    obtain ⟨_, hSegment, _⟩ := mem_fileFrames hMem
    rw [decide_eq_true_eq, SpoolPosition.lt_iff, hSegment]
    omega
  · obtain ⟨first, later, hPieces, hScan, hStart⟩ := fileScan_acknowledged h hFile hBefore
    have hOffset : position.segment = file.1 → startOf position file.1 = position.offset :=
      fun hSame => if_pos hSame.symm
    have hOther : ¬ position.segment = file.1 → (joined first).length = 0 := by
      intro hNot
      have hZero : startOf position file.1 = 0 := if_neg fun hSame => hNot hSame.symm
      omega
    rw [fileFrames, if_neg hBefore, fileFrames, if_neg (by omega), hScan, hPieces,
      locatedFrom_append, List.filter_append, ← hStart]
    have hFirst : (locatedFrom file.1 (startOf s.readCheckpoint file.1) first).filter
        (fun located => position < located.1) = [] := by
      rw [List.filter_eq_nil_iff]
      intro located hMem
      obtain ⟨hSegment, before, behind, hSplit, hEnd⟩ := mem_locatedFrom hMem
      have hLength := congrArg (fun pieces => (joined pieces).length) hSplit
      have hPiece : located.2 ∈ (fileScan s.readCheckpoint file).pieces := by
        rw [hPieces, hSplit]
        simp
      have hPositive := List.length_pos_iff.mpr (raw_ne_nil hPiece)
      simp only [joined_append, joined_cons, List.length_append, joined_nil, List.append_nil]
        at hLength hEnd
      rw [decide_eq_true_eq, SpoolPosition.lt_iff, hSegment]
      omega
    have hLater : (locatedFrom file.1 (startOf position file.1) later).filter
        (fun located => position < located.1) =
          locatedFrom file.1 (startOf position file.1) later := by
      rw [List.filter_eq_self]
      intro located hMem
      obtain ⟨hSegment, before, behind, hSplit, hEnd⟩ := mem_locatedFrom hMem
      have hPiece : located.2 ∈ (fileScan s.readCheckpoint file).pieces := by
        rw [hPieces, hSplit]
        simp
      have hPositive := List.length_pos_iff.mpr (raw_ne_nil hPiece)
      rw [joined_append, List.length_append, joined_cons, List.length_append] at hEnd
      rw [decide_eq_true_eq, SpoolPosition.lt_iff, hSegment]
      omega
    rw [hFirst, hLater, List.nil_append]

/-- An acknowledgement takes the frames up to its position. -/
theorem frames_acknowledged {position : SpoolPosition} (h : s.Boundary position) :
    (s.acknowledged position).frames = s.frames.filter fun located => position < located.1 := by
  have hFilter : (s.acknowledged position).frames =
      s.segments.flatMap (fileFrames position) := by
    rw [frames, acknowledged]
    simp only [readCheckpoint, Option.getD_some]
    induction s.segments with
    | nil => rfl
    | cons file files ih =>
        rw [List.flatMap_cons]
        by_cases hBefore : file.1 < position.segment
        · rw [List.filter_cons_of_neg (by simpa using hBefore), ih, fileFrames, if_pos hBefore,
            List.nil_append]
        · rw [List.filter_cons_of_pos (by simpa using hBefore), List.flatMap_cons, ih]
  rw [hFilter, frames, List.filter_flatMap]
  apply List.flatMap_congr
  intro file hFile
  exact fileFrames_acknowledged h hFile

end Acknowledge

section Append

/-- The next segment number is needed and there is none. -/
def saturates (s : CdrSpool) (length : Nat) : Bool :=
  match s.latest with
  | none => u64Max ≤ s.readCheckpoint.segment
  | some segment => u64Max ≤ segment && isFull (s.lengthOf segment) length

/-- The segment that is appended to ends with a complete frame. -/
def endsClean (s : CdrSpool) (length : Nat) : Bool :=
  (fileScan s.readCheckpoint ((s.appendTarget length).1,
    (s.segments.lookup (s.appendTarget length).1).getD [])).stop = .clean

/-- The checkpoint is not ahead of all segments. -/
def CheckpointReached (s : CdrSpool) : Prop :=
  ∀ segment, s.latest = some segment → s.readCheckpoint.segment ≤ segment

/-- Where an append puts its frame: at the end of the last segment or in a new one behind it. -/
inductive Target (s : CdrSpool) : Nat → Nat → Prop where
  | last (files : List (Nat × Bytes)) (segment : Nat) (bytes : Bytes)
      (hSegments : s.segments = files ++ [(segment, bytes)]) : Target s segment bytes.length
  | next (segment : Nat) (hFiles : ∀ key ∈ s.segments.keys, key < segment)
      (hCheckpoint : s.readCheckpoint.segment < segment) : Target s segment 0

theorem segments_of_latest {segment : Nat} (h : s.latest = some segment) :
    ∃ files bytes, s.segments = files ++ [(segment, bytes)] := by
  rw [latest, Option.map_eq_some_iff] at h
  obtain ⟨file, hLast, rfl⟩ := h
  obtain ⟨files, hFiles⟩ := List.getLast?_eq_some_iff.mp hLast
  exact ⟨files, file.2, hFiles⟩

theorem latest_of_segments {files : List (Nat × Bytes)} {file : Nat × Bytes}
    (h : s.segments = files ++ [file]) : s.latest = some file.1 := by
  rw [latest, h, List.getLast?_concat, Option.map_some]

theorem lt_of_last {files : List (Nat × Bytes)} {file : Nat × Bytes}
    (h : s.segments = files ++ [file]) : ∀ key ∈ OrdMap.keys files, key < file.1 := by
  have hAscending := s.ascending
  rw [h, OrdMap.Ascending, OrdMap.keys, List.map_append, List.pairwise_append] at hAscending
  exact fun key hMem => hAscending.2.2 key hMem file.1 (by simp)

theorem lookup_last {files : List (Nat × Bytes)} {file : Nat × Bytes}
    (h : s.segments = files ++ [file]) : s.segments.lookup file.1 = some file.2 :=
  OrdMap.lookup_of_mem s.ascending (by rw [h]; simp)

/-- Below the last number, an append goes behind all that the checkpoint has passed. -/
theorem target_of_append {length : Nat} (hReached : s.CheckpointReached)
    (hRoom : s.saturates length = false) :
    s.Target (s.appendTarget length).1 (s.appendTarget length).2 := by
  cases hLatest : s.latest with
  | none =>
      have hNil : s.segments = [] := by
        rwa [latest, Option.map_eq_none_iff, List.getLast?_eq_none_iff] at hLatest
      rw [saturates, hLatest, decide_eq_false_iff_not, Nat.not_le] at hRoom
      have hTarget : s.appendTarget length = (max (satSucc64 s.readCheckpoint.segment) 1, 0) := by
        simp [appendTarget, hLatest, hNil, lengthOf, isFull]
      rw [hTarget]
      apply Target.next
      · rw [hNil]
        exact fun _ hMem => (List.not_mem_nil hMem).elim
      · rw [satSucc64]
        omega
  | some segment =>
      obtain ⟨files, bytes, hSegments⟩ := segments_of_latest hLatest
      have hLength : s.lengthOf segment = bytes.length := by
        rw [lengthOf, lookup_last hSegments]
        rfl
      rw [saturates, hLatest] at hRoom
      simp only [hLength] at hRoom
      rw [appendTarget, hLatest, Option.getD_some, hLength]
      split
      · next hFull =>
          have hBelow : segment < u64Max := by
            simp only [hFull, Bool.and_true, decide_eq_false_iff_not, Nat.not_le] at hRoom
            exact hRoom
          have hNext : satSucc64 segment = segment + 1 := by
            rw [satSucc64]
            omega
          apply Target.next
          · intro key hMem
            rw [hSegments, OrdMap.keys, List.map_append, List.mem_append] at hMem
            rw [hNext]
            rcases hMem with hOld | hLast
            · have hLess := lt_of_last hSegments key hOld
              exact Nat.lt_succ_of_lt hLess
            · rw [List.mem_singleton.mp hLast]
              exact Nat.lt_succ_self _
          · have hBefore := hReached segment hLatest
            rw [hNext]
            exact Nat.lt_succ_of_le hBefore
      · exact .last files segment bytes hSegments

theorem fileFrames_append {checkpoint : SpoolPosition} {segment : Nat} {bytes : Bytes}
    (hActive : ¬ segment < checkpoint.segment) (hStart : startOf checkpoint segment ≤ bytes.length)
    (hClean : (fileScan checkpoint (segment, bytes)).stop = .clean) (more : Bytes) :
    fileFrames checkpoint (segment, bytes ++ more) = fileFrames checkpoint (segment, bytes) ++
      locatedFrom segment bytes.length (scan maxFrameSize more).pieces := by
  have hScan : fileScan checkpoint (segment, bytes ++ more) =
      { scan maxFrameSize more with
        pieces := (fileScan checkpoint (segment, bytes)).pieces ++
          (scan maxFrameSize more).pieces } := by
    rw [fileScan]
    simp only
    rw [List.drop_append_of_le_length hStart]
    exact scan_append hClean more
  have hWhole := scan_partition maxFrameSize (bytes.drop (startOf checkpoint segment))
  rw [(rest_eq_nil_iff maxFrameSize _).mpr hClean, List.append_nil] at hWhole
  have hEnd : startOf checkpoint segment +
      (joined (fileScan checkpoint (segment, bytes)).pieces).length = bytes.length := by
    rw [fileScan, hWhole, List.length_drop]
    omega
  rw [fileFrames, if_neg hActive, fileFrames, if_neg hActive, hScan, locatedFrom_append, hEnd]

/-- What is written to the end of a spool is scanned as if it stood alone. -/
theorem frames_write {segment offset : Nat} (hTarget : s.Target segment offset)
    (hReached : s.CheckpointReached) (hWithin : s.CheckpointWithin)
    (hClean : (fileScan s.readCheckpoint
      (segment, (s.segments.lookup segment).getD [])).stop = .clean) (more : Bytes) :
    (s.write segment more).frames =
      s.frames ++ locatedFrom segment offset (scan maxFrameSize more).pieces := by
  have hCheckpoint : (s.write segment more).readCheckpoint = s.readCheckpoint := rfl
  rw [frames, hCheckpoint, frames, write]
  cases hTarget with
  | last files _ bytes hSegments =>
      have hBytes := lookup_last hSegments
      have hActive := hReached segment (latest_of_segments hSegments)
      simp only [hBytes, Option.getD_some] at hClean ⊢
      have hAscending := s.ascending
      rw [hSegments] at hAscending ⊢
      rw [OrdMap.insert_last hAscending, List.flatMap_append, List.flatMap_append,
        List.append_assoc]
      congr 1
      rw [List.flatMap_singleton, List.flatMap_singleton]
      have hMem : (segment, bytes) ∈ s.segments := by
        rw [hSegments]
        simp
      exact fileFrames_append (Nat.not_lt.mpr hActive) (start_le_length hWithin hMem) hClean more
  | next _ hFiles hAhead =>
      have hNone : s.segments.lookup segment = none := by
        apply OrdMap.lookup_eq_none
        exact fun hMem => Nat.lt_irrefl _ (hFiles segment hMem)
      simp only [hNone, Option.getD_none, List.nil_append]
      rw [OrdMap.insert_of_gt hFiles, List.flatMap_append, List.flatMap_singleton, fileFrames,
        if_neg (by omega)]
      have hStart : startOf s.readCheckpoint segment = 0 := if_neg (by omega)
      simp only [fileScan, hStart, List.drop_zero]

/-- Nothing that is written to the end of a spool takes back a frame. -/
theorem frames_write_prefix {segment offset : Nat} (hTarget : s.Target segment offset)
    (hWithin : s.CheckpointWithin) (more : Bytes) :
    ∃ added, (s.write segment more).frames = s.frames ++ added := by
  have hCheckpoint : (s.write segment more).readCheckpoint = s.readCheckpoint := rfl
  rw [frames, hCheckpoint, frames, write]
  cases hTarget with
  | last files _ bytes hSegments =>
      have hBytes := lookup_last hSegments
      have hMem : (segment, bytes) ∈ s.segments := by
        rw [hSegments]
        simp
      have hStart : startOf s.readCheckpoint segment ≤ bytes.length := start_le_length hWithin hMem
      have hAscending := s.ascending
      simp only [hBytes, Option.getD_some]
      rw [hSegments] at hAscending ⊢
      rw [OrdMap.insert_last hAscending, List.flatMap_append, List.flatMap_append,
        List.flatMap_singleton, List.flatMap_singleton]
      obtain ⟨pieces, hPieces⟩ := scan_prefix maxFrameSize
        (bytes.drop (startOf s.readCheckpoint segment)) more
      rw [← List.drop_append_of_le_length hStart] at hPieces
      rw [fileFrames, fileFrames]
      split
      · exact ⟨[], by simp⟩
      · simp only [fileScan, hPieces, locatedFrom_append]
        exact ⟨_, (List.append_assoc _ _ _).symm⟩
  | next _ hFiles hAhead =>
      simp only [OrdMap.insert_of_gt hFiles, List.flatMap_append]
      exact ⟨_, rfl⟩

theorem lookup_write (s : CdrSpool) (segment : Nat) (more : Bytes) (other : Nat) :
    (s.write segment more).segments.lookup other =
      if segment = other then some ((s.segments.lookup segment).getD [] ++ more)
      else s.segments.lookup other := OrdMap.lookup_insert

theorem CheckpointWithin.write {segment offset : Nat} (h : s.CheckpointWithin)
    (hTarget : s.Target segment offset) (more : Bytes) :
    (s.write segment more).CheckpointWithin := by
  intro bytes hBytes
  rw [lookup_write] at hBytes
  split at hBytes
  · next hSame =>
      obtain rfl := Option.some.inj hBytes
      cases hTarget with
      | last files _ before hSegments =>
          have hBefore := lookup_last hSegments
          rw [hBefore, Option.getD_some, List.length_append]
          apply Nat.le_add_right_of_le
          apply h before
          rw [hSame] at hBefore
          exact hBefore
      | next _ _ hAhead => exact (Nat.lt_irrefl _ (hSame ▸ hAhead)).elim
  · exact h bytes hBytes

theorem latest_write {segment offset : Nat} (hTarget : s.Target segment offset) (more : Bytes) :
    (s.write segment more).latest = some segment := by
  have hAscending := s.ascending
  rw [latest, write]
  cases hTarget with
  | last files _ bytes hSegments =>
      rw [hSegments] at hAscending
      simp only [hSegments, OrdMap.insert_last hAscending, List.getLast?_concat, Option.map_some]
  | next _ hFiles _ =>
      simp only [OrdMap.insert_of_gt hFiles, List.getLast?_concat, Option.map_some]

theorem CheckpointReached.write {segment offset : Nat} (h : s.CheckpointReached)
    (hTarget : s.Target segment offset) (more : Bytes) :
    (s.write segment more).CheckpointReached := by
  intro last hLast
  obtain rfl := Option.some.inj ((latest_write hTarget more).symm.trans hLast)
  cases hTarget with
  | last files _ bytes hSegments => exact h segment (latest_of_segments hSegments)
  | next _ _ hAhead => exact Nat.le_of_lt hAhead

/-- An append that failed leaves at most an empty segment behind. -/
theorem truncate_write {segment offset : Nat} (hTarget : s.Target segment offset) (more : Bytes) :
    (s.write segment more).truncate segment offset = s.write segment [] := by
  have hLength : ((s.segments.lookup segment).getD []).length = offset := by
    cases hTarget with
    | last files _ bytes hSegments =>
        rw [lookup_last hSegments]
        rfl
    | next _ hFiles _ =>
        rw [OrdMap.lookup_eq_none fun hMem => Nat.lt_irrefl _ (hFiles segment hMem)]
        rfl
  have hSame : ((s.write segment more).truncate segment offset).segments =
      (s.write segment []).segments := by
    apply OrdMap.ext_lookup (CdrSpool.ascending _) (CdrSpool.ascending _)
    intro other
    rw [truncate, OrdMap.lookup_adjust, lookup_write, lookup_write, lookup_write, if_pos rfl]
    split
    · rw [Option.map_some, List.take_left' hLength, List.append_nil]
    · rfl
  rw [truncate, write] at hSame ⊢
  rw [write]
  simp only [CdrSpool.mk.injEq, and_true] at hSame ⊢
  exact hSame

/-- A frame that goes into a segment ends where the segment then does. -/
theorem satAdd64_of_target {payload : Bytes} {check : Bytes → UInt32}
    (hFits : payload.length ≤ maxFrameSize) :
    satAdd64 (s.appendTarget (frame check payload).length).2 (frame check payload).length =
      (s.appendTarget (frame check payload).length).2 + (frame check payload).length := by
  have hLength : (frame check payload).length = headerSize + payload.length := length_frame
  rw [maxFrameSize] at hFits
  rw [headerSize] at hLength
  have hBelow : (s.appendTarget (frame check payload).length).2 = 0 ∨
      satAdd64 (s.appendTarget (frame check payload).length).2 (frame check payload).length ≤
        segmentSizeLimit := by
    rw [appendTarget]
    split
    · exact .inl rfl
    · next hRoom =>
        simp only [isFull, Bool.and_eq_true, decide_eq_true_eq, not_and, Nat.not_lt] at hRoom
        exact (Nat.eq_zero_or_pos _).imp id hRoom
  rw [satAdd64, segmentSizeLimit, u64Max] at *
  omega

/-- A command that does not fit into a frame is not appended. -/
theorem append_oversized {command : α} (outcome : WriteOutcome)
    (h : maxFrameSize < (codec.encode spoolSchemaVersion command).length) :
    ∃ error, append codec command outcome s = (.error error, s) :=
  ⟨_, if_pos h⟩

theorem append_synced {command : α}
    (hFits : (codec.encode spoolSchemaVersion command).length ≤ maxFrameSize) :
    append codec command .synced s =
      (.ok { segment := (s.appendTarget (frameOf codec command).length).1
             offset := (s.appendTarget (frameOf codec command).length).2 +
               (frameOf codec command).length },
        s.write (s.appendTarget (frameOf codec command).length).1 (frameOf codec command)) := by
  rw [append, if_neg (Nat.not_lt.mpr hFits), frameOf, ← satAdd64_of_target hFits]

theorem append_failed {command : α} {written : Nat}
    (hFits : (codec.encode spoolSchemaVersion command).length ≤ maxFrameSize)
    (hTarget : s.Target (s.appendTarget (frameOf codec command).length).1
      (s.appendTarget (frameOf codec command).length).2) :
    append codec command (.failed written) s = (.error "durable CDR append failed",
      s.write (s.appendTarget (frameOf codec command).length).1 []) := by
  rw [append, if_neg (Nat.not_lt.mpr hFits), ← truncate_write hTarget]

end Append

end CdrSpool

end VoipSwitch
