import VoipSwitch.Cdr.Durability

/-! Which bytes of a spool a replay gives up, and what the quarantine keeps of them. -/
namespace VoipSwitch

open Framed Keyed

namespace CdrSpool

variable {α : Type} {codec : Codec α} {s : CdrSpool}

section Quarantine

theorem quarantineAll_other {segment other : Nat} (hOther : other ≠ segment) (offset : Nat)
    (files : List (Nat × QuarantineFile)) :
    (s.quarantineAll segment files).quarantine other offset = s.quarantine other offset := by
  induction files generalizing s with
  | nil => rfl
  | cons file files ih =>
      show ((s.quarantineSuffix _ _ _ _).quarantineAll segment files).quarantine other offset = _
      rw [ih, quarantineSuffix]
      exact if_neg fun hSame => hOther hSame.1

theorem quarantineAll_of_not_mem {segment offset : Nat} {files : List (Nat × QuarantineFile)}
    (h : ∀ file ∈ files, file.1 ≠ offset) :
    (s.quarantineAll segment files).quarantine segment offset = s.quarantine segment offset := by
  induction files generalizing s with
  | nil => rfl
  | cons file files ih =>
      show ((s.quarantineSuffix _ _ _ _).quarantineAll segment files).quarantine segment offset = _
      rw [ih fun later hMem => h later (.tail _ hMem), quarantineSuffix]
      exact if_neg fun hSame => h file (.head _) hSame.2.symm

/-- Files with different offsets do not overwrite each other. -/
theorem quarantineAll_of_mem {segment : Nat} {files : List (Nat × QuarantineFile)}
    (hSorted : files.Pairwise (·.1 < ·.1)) {file : Nat × QuarantineFile} (hMem : file ∈ files) :
    (s.quarantineAll segment files).quarantine segment file.1 = some file.2 := by
  induction files generalizing s with
  | nil => exact (List.not_mem_nil hMem).elim
  | cons first files ih =>
      obtain ⟨hFirst, hLater⟩ := List.pairwise_cons.mp hSorted
      show ((s.quarantineSuffix _ _ _ _).quarantineAll segment files).quarantine segment _ = _
      rcases List.mem_cons.mp hMem with rfl | hTail
      · rw [quarantineAll_of_not_mem fun later hMem => Nat.ne_of_gt (hFirst later hMem)]
        exact if_pos ⟨rfl, rfl⟩
      · exact ih hLater hTail

/-- What is refused of a file's frames lies where these are. -/
theorem mem_refusedFrom {offset : Nat} {pieces : List Piece} {file : Nat × QuarantineFile}
    (h : file ∈ refusedFrom codec offset pieces) :
    ∃ first piece later reason, pieces = first ++ piece :: later ∧
      commandOf codec piece = .error reason ∧ file.1 = offset + (joined first).length ∧
      file.2 = { frame := piece.raw, reason } := by
  induction pieces generalizing offset with
  | nil => exact (List.not_mem_nil h).elim
  | cons piece pieces ih =>
      have hLater : file ∈ refusedFrom codec (offset + piece.raw.length) pieces →
          ∃ first piece' later reason, piece :: pieces = first ++ piece' :: later ∧
            commandOf codec piece' = .error reason ∧ file.1 = offset + (joined first).length ∧
            file.2 = { frame := piece'.raw, reason } := by
        intro hMem
        obtain ⟨first, piece', later, reason, rfl, hCommand, hOffset, hFile⟩ := ih hMem
        refine ⟨piece :: first, piece', later, reason, rfl, hCommand, ?_, hFile⟩
        rw [hOffset, joined_cons, List.length_append, Nat.add_assoc]
      rw [refusedFrom] at h
      split at h
      · exact hLater h
      · next reason hCommand =>
          rcases List.mem_cons.mp h with rfl | hMem
          · exact ⟨[], piece, pieces, reason, rfl, hCommand, rfl, rfl⟩
          · exact hLater hMem

theorem refusedFrom_of_error {offset : Nat} {first later : List Piece} {piece : Piece}
    {reason : String} (h : commandOf codec piece = .error reason) :
    (offset + (joined first).length, { frame := piece.raw, reason }) ∈
      refusedFrom codec offset (first ++ piece :: later) := by
  induction first generalizing offset with
  | nil =>
      rw [List.nil_append, refusedFrom, h]
      exact .head _
  | cons front first ih =>
      rw [joined_cons, List.length_append, ← Nat.add_assoc, List.cons_append, refusedFrom]
      split
      · exact ih
      · exact .tail _ ih

theorem refusedFrom_sorted {offset : Nat} {pieces : List Piece}
    (hRaw : ∀ piece ∈ pieces, piece.raw ≠ []) :
    (refusedFrom codec offset pieces).Pairwise (·.1 < ·.1) := by
  induction pieces generalizing offset with
  | nil => exact List.Pairwise.nil
  | cons piece pieces ih =>
      have hLater : ∀ offset, (refusedFrom codec offset pieces).Pairwise (·.1 < ·.1) :=
        fun _ => ih fun piece hMem => hRaw piece (.tail _ hMem)
      rw [refusedFrom]
      split
      · exact hLater _
      · refine List.pairwise_cons.mpr ⟨?_, hLater _⟩
        intro file hMem
        obtain ⟨first, _, _, _, _, _, hOffset, _⟩ := mem_refusedFrom hMem
        have hPositive := List.length_pos_iff.mpr (hRaw piece (.head _))
        rw [hOffset]
        omega

/-- All that a replay refuses of a file. -/
def refusedOf (codec : Codec α) (s : CdrSpool) (file : Nat × Bytes) : List (Nat × QuarantineFile) :=
  if file.1 < s.readCheckpoint.segment then []
  else refused codec s.latest file.1 (startOf s.readCheckpoint file.1)
    (fileScan s.readCheckpoint file)

theorem mem_refusedRest {latest : Option Nat} {segment offset : Nat} {scan : Scan}
    {file : Nat × QuarantineFile} (h : file ∈ refusedRest latest segment offset scan) :
    file.1 = offset ∧ file.2.frame = scan.rest := by
  rw [refusedRest] at h
  split at h
  · exact (List.not_mem_nil h).elim
  · split at h
    · exact (List.not_mem_nil h).elim
    · rw [List.mem_singleton.mp h]
      exact ⟨rfl, rfl⟩
  · rw [List.mem_singleton.mp h]
    exact ⟨rfl, rfl⟩

theorem refusedRest_sorted (latest : Option Nat) (segment offset : Nat) (scan : Scan) :
    (refusedRest latest segment offset scan).Pairwise (·.1 < ·.1) := by
  rw [refusedRest]
  split
  · exact List.Pairwise.nil
  · split
    · exact List.Pairwise.nil
    · exact List.pairwise_singleton _ _
  · exact List.pairwise_singleton _ _

theorem refusedOf_sorted (codec : Codec α) (s : CdrSpool) (file : Nat × Bytes) :
    (refusedOf codec s file).Pairwise (·.1 < ·.1) := by
  rw [refusedOf]
  split
  · exact List.Pairwise.nil
  · rw [refused, List.pairwise_append]
    refine ⟨refusedFrom_sorted fun piece hMem => raw_ne_nil hMem, refusedRest_sorted _ _ _ _, ?_⟩
    intro front hFront last hLast
    obtain ⟨first, piece, later, _, hPieces, _, hOffset, _⟩ := mem_refusedFrom hFront
    have hPiece : piece ∈ (fileScan s.readCheckpoint file).pieces := by
      rw [hPieces]
      simp
    have hPositive := List.length_pos_iff.mpr (raw_ne_nil hPiece)
    rw [hOffset, (mem_refusedRest hLast).1, hPieces, joined_append, joined_cons,
      List.length_append, List.length_append]
    omega

theorem turn_quarantine (codec : Codec α) (s t : CdrSpool) (file : Nat × Bytes) :
    (turn codec s.readCheckpoint s.latest t file).quarantine =
      (t.quarantineAll file.1 (refusedOf codec s file)).quarantine := by
  rw [turn, refusedOf]
  split
  · rfl
  · rfl

/-- The turns of other segments leave the quarantine of a segment alone. -/
theorem turns_quarantine_other (codec : Codec α) (s t : CdrSpool) {files : List (Nat × Bytes)}
    {segment : Nat} (hOther : ∀ file ∈ files, file.1 ≠ segment) (offset : Nat) :
    (files.foldl (turn codec s.readCheckpoint s.latest) t).quarantine segment offset =
      t.quarantine segment offset := by
  induction files generalizing t with
  | nil => rfl
  | cons file files ih =>
      have hHead : segment ≠ file.1 := fun hSame => hOther file (.head _) hSame.symm
      rw [List.foldl_cons, ih _ fun later hMem => hOther later (.tail _ hMem), turn_quarantine,
        quarantineAll_other hHead]

theorem turns_quarantine (codec : Codec α) (s t : CdrSpool) {files : List (Nat × Bytes)}
    (hDistinct : OrdMap.Ascending files) {file : Nat × Bytes} (hMem : file ∈ files)
    (offset : Nat) :
    (files.foldl (turn codec s.readCheckpoint s.latest) t).quarantine file.1 offset =
      (t.quarantineAll file.1 (refusedOf codec s file)).quarantine file.1 offset := by
  induction files generalizing t with
  | nil => exact (List.not_mem_nil hMem).elim
  | cons first files ih =>
      have hParts : (∀ key ∈ OrdMap.keys files, first.1 < key) ∧ OrdMap.Ascending files :=
        List.pairwise_cons.mp hDistinct
      rw [List.foldl_cons]
      rcases List.mem_cons.mp hMem with rfl | hTail
      · rw [turns_quarantine_other codec s _ _ offset, turn_quarantine]
        exact fun later hLater => Nat.ne_of_gt (hParts.1 later.1 (List.mem_map_of_mem hLater))
      · have hOther : file.1 ≠ first.1 :=
          Nat.ne_of_gt (hParts.1 file.1 (List.mem_map_of_mem hTail))
        rw [ih _ hParts.2 hTail]
        by_cases hRefused : ∃ entry ∈ refusedOf codec s file, entry.1 = offset
        · obtain ⟨entry, hEntry, rfl⟩ := hRefused
          rw [quarantineAll_of_mem (refusedOf_sorted codec s file) hEntry,
            quarantineAll_of_mem (refusedOf_sorted codec s file) hEntry]
        · have hNone : ∀ entry ∈ refusedOf codec s file, entry.1 ≠ offset :=
            fun entry hEntry hSame => hRefused ⟨entry, hEntry, hSame⟩
          rw [quarantineAll_of_not_mem hNone, quarantineAll_of_not_mem hNone, turn_quarantine,
            quarantineAll_other hOther]

/-- What is refused is in the quarantine after the replay. -/
theorem replayed_quarantine_of_mem {file : Nat × Bytes} (hFile : file ∈ s.segments)
    {entry : Nat × QuarantineFile} (hEntry : entry ∈ refusedOf codec s file) :
    (s.replayed codec).quarantine file.1 entry.1 = some entry.2 := by
  rw [replayed, turns_quarantine codec s s s.ascending hFile,
    quarantineAll_of_mem (refusedOf_sorted codec s file) hEntry]

/-- A quarantine file where nothing is refused stays as it is. -/
theorem replayed_quarantine_of_not_mem {segment offset : Nat}
    (h : ∀ file ∈ s.segments, file.1 = segment → ∀ entry ∈ refusedOf codec s file,
      entry.1 ≠ offset) :
    (s.replayed codec).quarantine segment offset = s.quarantine segment offset := by
  rw [replayed]
  by_cases hThere : ∃ file ∈ s.segments, file.1 = segment
  · obtain ⟨file, hFile, rfl⟩ := hThere
    rw [turns_quarantine codec s s s.ascending hFile,
      quarantineAll_of_not_mem (h file hFile rfl)]
  · exact turns_quarantine_other codec s s
      (fun file hFile hSame => hThere ⟨file, hFile, hSame⟩) offset

end Quarantine

section Conservation

/-- A replay cuts this byte off its segment. -/
def Removed (codec : Codec α) (s : CdrSpool) (segment i : Nat) : Prop :=
  (replay codec s).2.lengthOf segment ≤ i

/-- This byte is in a frame that a replay reads and cannot use. -/
def Skipped (codec : Codec α) (s : CdrSpool) (segment i : Nat) : Prop :=
  s.CheckpointWithin ∧ ∃ located ∈ s.frames, ∃ reason,
    commandOf codec located.2 = .error reason ∧ located.1.segment = segment ∧
      i < located.1.offset ∧ located.1.offset ≤ i + located.2.raw.length

/-- A quarantine file has this byte. -/
def InQuarantine (s : CdrSpool) (segment i : Nat) (byte : UInt8) : Prop :=
  ∃ offset file, s.quarantine segment offset = some file ∧ offset ≤ i ∧
    file.frame[i - offset]? = some byte

/-- A complete and valid frame stands somewhere in these bytes. -/
def HoldsFrame (codec : Codec α) (bytes : Bytes) : Prop :=
  ∃ skipped piece command, read maxFrameSize (bytes.drop skipped) = .frame piece ∧
    commandOf codec piece = .ok command

/-- An incomplete frame at the end of the latest segment. -/
def tornTail (s : CdrSpool) (segment : Nat) : Option Bytes :=
  match s.segments.lookup segment with
  | some bytes =>
    if s.latest = some segment ∧ ¬ segment < s.readCheckpoint.segment ∧
        (fileScan s.readCheckpoint (segment, bytes)).stop = .incomplete then
      some (fileScan s.readCheckpoint (segment, bytes)).rest
    else none
  | none => none

/-- This byte is in an incomplete frame at the end of the latest segment that has no valid frame
within it. -/
def Torn (codec : Codec α) (s : CdrSpool) (segment i : Nat) : Prop :=
  ∃ tail, s.tornTail segment = some tail ∧ s.lengthOf segment ≤ i + tail.length ∧
    ¬ HoldsFrame codec tail

/-- A replay gives up no byte that the quarantine does not have, and the quarantine loses none. -/
structure Conserves (codec : Codec α) (s : CdrSpool) : Prop where
  bytes : ∀ segment bytes i byte, s.segments.lookup segment = some bytes →
    bytes[i]? = some byte → Removed codec s segment i ∨ Skipped codec s segment i →
      InQuarantine (replay codec s).2 segment i byte ∨ Torn codec s segment i
  files : ∀ segment offset file, s.quarantine segment offset = some file →
    ∃ file', (replay codec s).2.quarantine segment offset = some file' ∧ file'.frame = file.frame

/-- If there is a valid frame in the torn tail of a segment, then the tail is in quarantine. -/
def TailKept (codec : Codec α) (s : CdrSpool) : Prop :=
  ∀ segment tail, s.tornTail segment = some tail → HoldsFrame codec tail →
    ∀ i byte, tail[i]? = some byte →
      InQuarantine s segment (s.lengthOf segment - tail.length + i) byte

/-- Where something is refused, the quarantine has no file with other bytes. -/
def Unused (codec : Codec α) (s : CdrSpool) : Prop :=
  ∀ file ∈ s.segments, ∀ entry ∈ refusedOf codec s file, ∀ old,
    s.quarantine file.1 entry.1 = some old → old.frame = entry.2.frame

theorem getElem?_rest {start : Nat} {bytes : Bytes} (k : Nat) :
    bytes[start + (joined (scan maxFrameSize (bytes.drop start)).pieces).length + k]? =
      (scan maxFrameSize (bytes.drop start)).rest[k]? := by
  have hWhole := scan_partition maxFrameSize (bytes.drop start)
  rw [Nat.add_assoc, ← List.getElem?_drop]
  nth_rewrite 1 [← hWhole]
  rw [List.getElem?_append_right (Nat.le_add_right _ _), Nat.add_sub_cancel_left]

theorem getElem?_piece {start : Nat} {bytes : Bytes} {first later : List Piece} {piece : Piece}
    (hPieces : (scan maxFrameSize (bytes.drop start)).pieces = first ++ piece :: later) {k : Nat}
    (hk : k < piece.raw.length) :
    bytes[start + (joined first).length + k]? = piece.raw[k]? := by
  have hWhole := scan_partition maxFrameSize (bytes.drop start)
  rw [hPieces, joined_append, joined_cons, List.append_assoc, List.append_assoc] at hWhole
  rw [Nat.add_assoc, ← List.getElem?_drop, ← hWhole,
    List.getElem?_append_right (Nat.le_add_right _ _), Nat.add_sub_cancel_left,
    List.getElem?_append_left hk]

/-- What is refused of a frame holds the bytes of the frame. -/
theorem inQuarantine_of_skipped {segment i : Nat} {bytes : Bytes} {byte : UInt8}
    (hBytes : s.segments.lookup segment = some bytes) (hByte : bytes[i]? = some byte)
    (h : Skipped codec s segment i) : InQuarantine (s.replayed codec) segment i byte := by
  obtain ⟨_, located, hMem, reason, hCommand, rfl, hBefore, hBehind⟩ := h
  obtain ⟨file, hFile, hLocated⟩ := List.mem_flatMap.mp hMem
  obtain ⟨hActive, hSegment, _, first, later, hPieces, hOffset⟩ := mem_fileFrames hLocated
  have hFound := OrdMap.lookup_of_mem s.ascending hFile
  rw [hSegment] at hBytes ⊢
  obtain rfl := Option.some.inj (hFound.symm.trans hBytes)
  have hEntry : (startOf s.readCheckpoint file.1 + (joined first).length,
      { frame := located.2.raw, reason }) ∈ refusedOf codec s file := by
    rw [refusedOf, if_neg hActive, refused, hPieces]
    exact List.mem_append_left _ (refusedFrom_of_error hCommand)
  rw [joined_append, List.length_append, joined_cons, joined_nil, List.append_nil] at hOffset
  refine ⟨_, _, replayed_quarantine_of_mem hFile hEntry, by omega, ?_⟩
  rw [fileScan] at hPieces
  rw [← hByte, ← getElem?_piece hPieces (by omega)]
  congr 1
  omega

/-- A byte that is cut off is in what the scan of its segment leaves. -/
theorem rest_of_removed (hWithin : s.CheckpointWithin) {segment i : Nat} {bytes : Bytes}
    {byte : UInt8} (hBytes : s.segments.lookup segment = some bytes)
    (hByte : bytes[i]? = some byte) (h : Removed codec s segment i) :
    ¬ segment < s.readCheckpoint.segment ∧ ∃ k,
      i = startOf s.readCheckpoint segment +
        (joined (fileScan s.readCheckpoint (segment, bytes)).pieces).length + k ∧
      (fileScan s.readCheckpoint (segment, bytes)).rest[k]? = some byte := by
  have hInside : i < bytes.length := (List.getElem?_eq_some_iff.mp hByte).1
  rw [Removed, replay_eq codec hWithin, lengthOf, replayed_segments, OrdMap.lookup_mapValues,
    hBytes] at h
  simp only [Option.map_some, Option.getD_some] at h
  rw [kept] at h
  split at h
  · omega
  · next hActive =>
      rw [List.length_take] at h
      obtain ⟨k, rfl⟩ := Nat.exists_eq_add_of_le (by omega :
        startOf s.readCheckpoint segment +
          (joined (fileScan s.readCheckpoint (segment, bytes)).pieces).length ≤ i)
      refine ⟨hActive, k, rfl, ?_⟩
      rw [fileScan, ← hByte]
      exact (getElem?_rest k).symm

theorem length_of_lookup (hWithin : s.CheckpointWithin) {segment : Nat} {bytes : Bytes}
    (hBytes : s.segments.lookup segment = some bytes) :
    s.lengthOf segment = startOf s.readCheckpoint segment +
      (joined (fileScan s.readCheckpoint (segment, bytes)).pieces).length +
        (fileScan s.readCheckpoint (segment, bytes)).rest.length := by
  have hStart : startOf s.readCheckpoint segment ≤ bytes.length :=
    start_le_length hWithin (OrdMap.mem_of_lookup hBytes)
  have hWhole := congrArg List.length
    (scan_partition maxFrameSize (bytes.drop (startOf s.readCheckpoint segment)))
  rw [List.length_append, List.length_drop] at hWhole
  rw [lengthOf, hBytes, fileScan, Option.map_some, Option.getD_some]
  simp only
  omega

theorem tornTail_eq_some {segment : Nat} {tail : Bytes} (h : s.tornTail segment = some tail) :
    ∃ bytes, s.segments.lookup segment = some bytes ∧ s.latest = some segment ∧
      ¬ segment < s.readCheckpoint.segment ∧
      (fileScan s.readCheckpoint (segment, bytes)).stop = .incomplete ∧
      tail = (fileScan s.readCheckpoint (segment, bytes)).rest := by
  rw [tornTail] at h
  split at h
  · next bytes hBytes =>
      split at h
      · next hTorn => exact ⟨bytes, hBytes, hTorn.1, hTorn.2.1, hTorn.2.2, (Option.some.inj h).symm⟩
      · simp at h
  · simp at h

/-- A replay that overwrites nothing keeps what the quarantine has. -/
theorem InQuarantine.replayed {segment i : Nat} {byte : UInt8} (hUnused : Unused codec s)
    (h : InQuarantine s segment i byte) : InQuarantine (s.replayed codec) segment i byte := by
  obtain ⟨offset, file, hFile, hOffset, hByte⟩ := h
  by_cases hRefused : ∃ bytes, (segment, bytes) ∈ s.segments ∧
      ∃ entry ∈ refusedOf codec s (segment, bytes), entry.1 = offset
  · obtain ⟨bytes, hMem, entry, hEntry, rfl⟩ := hRefused
    refine ⟨_, _, replayed_quarantine_of_mem hMem hEntry, hOffset, ?_⟩
    rw [← hUnused _ hMem entry hEntry file hFile]
    exact hByte
  · refine ⟨offset, file, ?_, hOffset, hByte⟩
    rw [replayed_quarantine_of_not_mem, hFile]
    rintro ⟨_, bytes⟩ hMem rfl entry hEntry hSame
    exact hRefused ⟨bytes, hMem, entry, hEntry, hSame⟩

/-- What a replay cuts off is in quarantine or a torn frame. -/
theorem inQuarantine_of_removed (hWithin : s.CheckpointWithin) (hTail : TailKept codec s)
    (hUnused : Unused codec s) {segment i : Nat} {bytes : Bytes} {byte : UInt8}
    (hBytes : s.segments.lookup segment = some bytes) (hByte : bytes[i]? = some byte)
    (h : Removed codec s segment i) :
    InQuarantine (s.replayed codec) segment i byte ∨ Torn codec s segment i := by
  obtain ⟨hActive, k, hIndex, hRest⟩ := rest_of_removed hWithin hBytes hByte h
  have hMem := OrdMap.mem_of_lookup hBytes
  have hLength := length_of_lookup hWithin hBytes
  have hInside := (List.getElem?_eq_some_iff.mp hRest).1
  have hEntry : ∀ reason, (startOf s.readCheckpoint segment +
      (joined (fileScan s.readCheckpoint (segment, bytes)).pieces).length,
        { frame := (fileScan s.readCheckpoint (segment, bytes)).rest, reason }) ∈
          refusedOf codec s (segment, bytes) →
      InQuarantine (s.replayed codec) segment i byte := by
    intro reason hEntry
    refine ⟨_, _, replayed_quarantine_of_mem hMem hEntry, by omega, ?_⟩
    rw [hIndex, Nat.add_sub_cancel_left]
    exact hRest
  cases hStop : (fileScan s.readCheckpoint (segment, bytes)).stop with
  | clean =>
      have hNone : (fileScan s.readCheckpoint (segment, bytes)).rest = [] :=
        (rest_eq_nil_iff maxFrameSize _).mpr hStop
      rw [hNone] at hInside
      exact (Nat.not_lt_zero _ hInside).elim
  | oversized =>
      left
      apply hEntry "frame length exceeds maximum"
      rw [refusedOf, if_neg hActive, refused, refusedRest, hStop]
      exact List.mem_append_right _ (.head _)
  | incomplete =>
      by_cases hLatest : s.latest = some segment
      · have hTorn : s.tornTail segment =
            some (fileScan s.readCheckpoint (segment, bytes)).rest := by
          rw [tornTail, hBytes]
          exact if_pos ⟨hLatest, hActive, hStop⟩
        by_cases hHolds : HoldsFrame codec (fileScan s.readCheckpoint (segment, bytes)).rest
        · left
          apply InQuarantine.replayed hUnused
          have hKept := hTail segment _ hTorn hHolds k byte hRest
          rw [hLength, Nat.add_sub_cancel, ← hIndex] at hKept
          exact hKept
        · exact .inr ⟨_, hTorn, by omega, hHolds⟩
      · left
        apply hEntry "incomplete frame in closed segment"
        rw [refusedOf, if_neg hActive, refused, refusedRest, hStop]
        simp only [hLatest, if_false]
        exact List.mem_append_right _ (.head _)

theorem Conserves.unused (hWithin : s.CheckpointWithin) (h : Conserves codec s) :
    Unused codec s := by
  intro file hFile entry hEntry old hOld
  obtain ⟨after, hAfter, hFrame⟩ := h.files file.1 entry.1 old hOld
  rw [replay_eq codec hWithin, replayed_quarantine_of_mem hFile hEntry] at hAfter
  rw [← hFrame, Option.some.inj hAfter]

/-- A spool that gives up no byte has its torn tails in quarantine. -/
theorem Conserves.tailKept (hWithin : s.CheckpointWithin) (h : Conserves codec s) :
    TailKept codec s := by
  intro segment tail hTorn hHolds i byte hByte
  obtain ⟨bytes, hBytes, hLatest, hActive, hStop, rfl⟩ := tornTail_eq_some hTorn
  have hLength := length_of_lookup hWithin hBytes
  rw [hLength, Nat.add_sub_cancel]
  have hWhole : bytes[startOf s.readCheckpoint segment +
      (joined (fileScan s.readCheckpoint (segment, bytes)).pieces).length + i]? = some byte := by
    rw [fileScan] at hByte ⊢
    exact (getElem?_rest i).trans hByte
  have hRemoved : Removed codec s segment (startOf s.readCheckpoint segment +
      (joined (fileScan s.readCheckpoint (segment, bytes)).pieces).length + i) := by
    rw [Removed, replay_eq codec hWithin, lengthOf, replayed_segments, OrdMap.lookup_mapValues,
      hBytes]
    simp only [Option.map_some, Option.getD_some]
    rw [kept, if_neg hActive, List.length_take]
    omega
  rcases h.bytes segment bytes _ byte hBytes hWhole (.inl hRemoved) with hKept | hDropped
  · rw [replay_eq codec hWithin] at hKept
    obtain ⟨offset, file, hFile, hOffset, hFound⟩ := hKept
    refine ⟨offset, file, ?_, hOffset, hFound⟩
    rw [← hFile, replayed_quarantine_of_not_mem]
    -- a frame that is refused ends before the tail
    rintro other hMem hSame entry hEntry rfl
    have hOther : other = (segment, bytes) := by
      have hLookup := OrdMap.lookup_of_mem s.ascending hMem
      rw [hSame, hBytes] at hLookup
      exact Prod.ext hSame (Option.some.inj hLookup).symm
    rw [hOther] at hMem hEntry
    simp only at hFile
    rw [replayed_quarantine_of_mem hMem hEntry] at hFile
    obtain rfl := Option.some.inj hFile
    rw [refusedOf, if_neg hActive, refused, refusedRest, hStop] at hEntry
    simp only [hLatest, if_true, List.append_nil] at hEntry
    obtain ⟨first, piece, later, reason, hPieces, _, hStart, hContent⟩ := mem_refusedFrom hEntry
    have hInside := (List.getElem?_eq_some_iff.mp hFound).1
    rw [hContent, hPieces, joined_append, joined_cons, List.length_append, List.length_append,
      hStart] at hInside
    simp only at hInside
    omega
  · obtain ⟨tail, hTail, _, hNone⟩ := hDropped
    rw [← Option.some.inj (hTorn.symm.trans hTail)] at hNone
    exact (hNone hHolds).elim

/-- A replay gives up bytes exactly where a torn frame swallows a valid one or where the place in
the quarantine is taken. -/
theorem conserves_iff (codec : Codec α) (s : CdrSpool) :
    Conserves codec s ↔ (s.CheckpointWithin → TailKept codec s ∧ Unused codec s) := by
  constructor
  · intro h hWithin
    exact ⟨h.tailKept hWithin, h.unused hWithin⟩
  · intro h
    by_cases hWithin : s.CheckpointWithin
    · obtain ⟨hTail, hUnused⟩ := h hWithin
      constructor
      · intro segment bytes i byte hBytes hByte hLost
        rw [replay_eq codec hWithin]
        rcases hLost with hRemoved | hSkipped
        · exact inQuarantine_of_removed hWithin hTail hUnused hBytes hByte hRemoved
        · exact .inl (inQuarantine_of_skipped hBytes hByte hSkipped)
      · intro segment offset file hFile
        rw [replay_eq codec hWithin]
        by_cases hRefused : ∃ bytes, (segment, bytes) ∈ s.segments ∧
            ∃ entry ∈ refusedOf codec s (segment, bytes), entry.1 = offset
        · obtain ⟨bytes, hMem, entry, hEntry, rfl⟩ := hRefused
          exact ⟨_, replayed_quarantine_of_mem hMem hEntry,
            (hUnused _ hMem entry hEntry file hFile).symm⟩
        · refine ⟨file, ?_, rfl⟩
          rw [replayed_quarantine_of_not_mem, hFile]
          rintro ⟨_, bytes⟩ hMem rfl entry hEntry hSame
          exact hRefused ⟨bytes, hMem, entry, hEntry, hSame⟩
    · constructor
      · intro segment bytes i byte hBytes hByte hLost
        have hInside := (List.getElem?_eq_some_iff.mp hByte).1
        rcases hLost with hRemoved | hSkipped
        · obtain ⟨error, hReplay⟩ := replay_beyond codec hWithin
          rw [Removed, hReplay, lengthOf, hBytes] at hRemoved
          exact (Nat.not_lt.mpr hRemoved hInside).elim
        · exact (hWithin hSkipped.1).elim
      · intro segment offset file hFile
        obtain ⟨error, hReplay⟩ := replay_beyond codec hWithin
        rw [hReplay]
        exact ⟨file, hFile, rfl⟩

/-- A segment with the header of a long frame and the whole frame of a short command. -/
def hidingSpool : CdrSpool where
  segments := [(1, (frameOf tornCodec tornCommand).take headerSize ++
    frameOf tornCodec shortCommand)]
  ascending := List.pairwise_singleton _ _
  checkpoint := none
  quarantine _ _ := none

/-- The frame of the short command is cut off with the torn one and no quarantine file has it. -/
theorem torn_frame_hides_valid_frame : ¬ Conserves tornCodec hidingSpool := by
  have hShort : (frameOf tornCodec shortCommand).length <
      (tornCodec.encode spoolSchemaVersion tornCommand).length := by
    decide +kernel
  have hScan : fileScan hidingSpool.readCheckpoint (1,
      (frameOf tornCodec tornCommand).take headerSize ++ frameOf tornCodec shortCommand) =
        { pieces := [], rest := (frameOf tornCodec tornCommand).take headerSize ++
            frameOf tornCodec shortCommand, stop := .incomplete } :=
    scan_swallowed allowed_torn.1 maxFrameSize_lt hShort
  have hTorn : hidingSpool.tornTail 1 = some ((frameOf tornCodec tornCommand).take headerSize ++
      frameOf tornCodec shortCommand) := by
    have hBytes : hidingSpool.segments.lookup 1 = some ((frameOf tornCodec tornCommand).take
        headerSize ++ frameOf tornCodec shortCommand) := if_pos rfl
    rw [tornTail, hBytes]
    simp only [hScan, and_true]
    exact if_pos ⟨rfl, Nat.not_lt_zero _⟩
  have hHolds : HoldsFrame tornCodec ((frameOf tornCodec tornCommand).take headerSize ++
      frameOf tornCodec shortCommand) := by
    refine ⟨headerSize, pieceFor tornCodec shortCommand, shortCommand, ?_,
      commandOf_pieceFor shortCommand_roundTrips⟩
    have hHeader : ((frameOf tornCodec tornCommand).take headerSize).length = headerSize := by
      rw [List.length_take, frameOf, length_frame]
      omega
    rw [List.drop_left' hHeader]
    have hRead := read_of_parts
      (parts_pieceOf tornCodec.check shortCommand_fits maxFrameSize_lt) []
    rw [List.append_nil] at hRead
    exact hRead
  intro h
  have hByte : ((frameOf tornCodec tornCommand).take headerSize ++
      frameOf tornCodec shortCommand)[0]? = some _ := List.getElem?_eq_getElem (by
    rw [List.length_append]
    exact Nat.add_pos_right _ (List.length_pos_iff.mpr frame_ne_nil))
  obtain ⟨offset, file, hFile, _⟩ :=
    h.tailKept (fun _ _ => Nat.zero_le _) 1 _ hTorn hHolds 0 _ hByte
  simp only [hidingSpool, reduceCtorEq] at hFile

end Conservation

end CdrSpool

end VoipSwitch
