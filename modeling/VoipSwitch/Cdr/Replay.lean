import VoipSwitch.Cdr.Spool

/-! What a replay does, said once: the frames that a scan of each segment finds become entries,
those that cannot be used are quarantined, and what the scan leaves is cut off. -/
namespace VoipSwitch

open Framed Keyed

namespace CdrSpool

variable {α : Type} {codec : Codec α} {s : CdrSpool}

/-- The entry of a frame that ends at `position`. -/
def entryOf (codec : Codec α) (position : SpoolPosition) (piece : Piece) : ReplayEntry α :=
  match commandOf codec piece with
  | .ok command => .write position command
  | .error reason => .quarantined position reason

theorem position_entryOf (position : SpoolPosition) (piece : Piece) :
    (entryOf codec position piece).position = position := by
  rw [entryOf]
  split
  · rfl
  · rfl

/-- The entries of the frames that follow each other from `offset` on. -/
def entriesFrom (codec : Codec α) (segment : Nat) : Nat → List Piece → List (ReplayEntry α)
  | _, [] => []
  | offset, piece :: pieces =>
    entryOf codec { segment, offset := offset + piece.raw.length } piece ::
      entriesFrom codec segment (offset + piece.raw.length) pieces

/-- Frames that follow each other from `offset` on, with the positions where they end. -/
def locatedFrom (segment : Nat) : Nat → List Piece → List (SpoolPosition × Piece)
  | _, [] => []
  | offset, piece :: pieces =>
    ({ segment, offset := offset + piece.raw.length }, piece) ::
      locatedFrom segment (offset + piece.raw.length) pieces

theorem entriesFrom_eq (segment offset : Nat) (pieces : List Piece) :
    entriesFrom codec segment offset pieces =
      (locatedFrom segment offset pieces).map fun located => entryOf codec located.1 located.2 := by
  induction pieces generalizing offset with
  | nil => rfl
  | cons piece pieces ih => rw [entriesFrom, ih, locatedFrom, List.map_cons]

/-- The frames that are quarantined, by their offsets. -/
def refusedFrom (codec : Codec α) : Nat → List Piece → List (Nat × QuarantineFile)
  | _, [] => []
  | offset, piece :: pieces =>
    match commandOf codec piece with
    | .ok _ => refusedFrom codec (offset + piece.raw.length) pieces
    | .error reason =>
      (offset, { frame := piece.raw, reason }) ::
        refusedFrom codec (offset + piece.raw.length) pieces

/-- What is quarantined of the bytes that a scan leaves. -/
def refusedRest (latest : Option Nat) (segment offset : Nat) (scan : Scan) :
    List (Nat × QuarantineFile) :=
  match scan.stop with
  | .clean => []
  | .incomplete =>
    if latest = some segment then []
    else [(offset, { frame := scan.rest, reason := "incomplete frame in closed segment" })]
  | .oversized => [(offset, { frame := scan.rest, reason := "frame length exceeds maximum" })]

/-- All that the replay of a segment quarantines. -/
def refused (codec : Codec α) (latest : Option Nat) (segment offset : Nat) (scan : Scan) :
    List (Nat × QuarantineFile) :=
  refusedFrom codec offset scan.pieces ++
    refusedRest latest segment (offset + (joined scan.pieces).length) scan

def quarantineAll (s : CdrSpool) (segment : Nat) (files : List (Nat × QuarantineFile)) : CdrSpool :=
  files.foldl (fun s file => s.quarantineSuffix segment file.1 file.2.frame file.2.reason) s

theorem quarantineAll_segments (s : CdrSpool) (segment : Nat)
    (files : List (Nat × QuarantineFile)) :
    (s.quarantineAll segment files).segments = s.segments := by
  induction files generalizing s with
  | nil => rfl
  | cons file files ih => exact ih _

theorem quarantineAll_checkpoint (s : CdrSpool) (segment : Nat)
    (files : List (Nat × QuarantineFile)) :
    (s.quarantineAll segment files).checkpoint = s.checkpoint := by
  induction files generalizing s with
  | nil => rfl
  | cons file files ih => exact ih _

theorem adjust_eq_self {m : OrdMap Nat Bytes} {segment length : Nat}
    (h : ∀ bytes, m.lookup segment = some bytes → bytes.length ≤ length) :
    m.adjust segment (·.take length) = m := by
  induction m with
  | nil => rfl
  | cons file rest ih =>
      simp only [OrdMap.adjust]
      split
      · next hSame =>
          have hShort := h file.2 (by rw [OrdMap.lookup, if_pos hSame])
          rw [List.take_of_length_le hShort]
      · next hOther =>
          rw [ih]
          intro bytes hBytes
          apply h
          rwa [OrdMap.lookup, if_neg hOther]

/-- Cutting a file behind its end changes nothing. -/
theorem truncate_eq_self {segment length : Nat}
    (h : ∀ bytes, s.segments.lookup segment = some bytes → bytes.length ≤ length) :
    s.truncate segment length = s := by
  cases s
  simp only [truncate, CdrSpool.mk.injEq, and_true]
  exact adjust_eq_self h

/-- The spool after the turn of a segment that was scanned from `offset` on. -/
def turned (codec : Codec α) (latest : Option Nat) (segment offset : Nat) (scan : Scan)
    (s : CdrSpool) : CdrSpool :=
  (s.quarantineAll segment (refused codec latest segment offset scan)).truncate segment
    (offset + (joined scan.pieces).length)

/-- The loop over a segment returns the entries of its frames and quarantines what cannot be read.
The induction is on the scan of the bytes that are left. -/
theorem replayFrames_eq (latest : Option Nat) (segment : Nat) (rest : Bytes) :
    ∀ (fuel offset : Nat) (bytes : Bytes) (s : CdrSpool), rest.length ≤ fuel →
      s.segments.lookup segment = some bytes → bytes.drop offset = rest → offset ≤ bytes.length →
      replayFrames codec latest segment fuel offset rest s =
        (entriesFrom codec segment offset (scan maxFrameSize rest).pieces,
          turned codec latest segment offset (scan maxFrameSize rest) s) := by
  induction rest using scan_induction maxFrameSize with
  | nil =>
      intro fuel offset bytes s _ hFile hRest hWithin
      have hShort : bytes.length ≤ offset := List.drop_eq_nil_iff.mp hRest
      have hReplay : replayFrames codec latest segment fuel offset [] s = ([], s) := by
        cases fuel with
        | zero => rfl
        | succ fuel => rw [replayFrames, if_pos rfl]
      rw [hReplay, scan_nil]
      refine Prod.ext rfl (truncate_eq_self ?_).symm
      intro found hFound
      obtain rfl := Option.some.inj (hFile.symm.trans hFound)
      exact hShort
  | incomplete rest hNil hRead =>
      intro fuel offset bytes s hFuel hFile hRest hWithin
      obtain ⟨fuel, rfl⟩ := Nat.exists_eq_succ_of_ne_zero
        (Nat.ne_of_gt (Nat.lt_of_lt_of_le (List.length_pos_iff.mpr hNil) hFuel))
      rw [replayFrames, if_neg hNil, hRead, scan_eq hNil, hRead]
      simp only [entriesFrom, turned, refused, refusedFrom, refusedRest, joined_nil,
        List.length_nil, Nat.add_zero, List.nil_append, recoverIncompleteTail, hFile,
        Option.getD_some, hRest]
      split
      · rfl
      · rfl
  | oversized rest hNil hRead =>
      intro fuel offset bytes s hFuel hFile hRest hWithin
      obtain ⟨fuel, rfl⟩ := Nat.exists_eq_succ_of_ne_zero
        (Nat.ne_of_gt (Nat.lt_of_lt_of_le (List.length_pos_iff.mpr hNil) hFuel))
      rw [replayFrames, if_neg hNil, hRead, scan_eq hNil, hRead]
      rfl
  | frame piece rest hRead hRaw ih =>
      intro fuel offset bytes s hFuel hFile hRest hWithin
      have hNil : piece.raw ++ rest ≠ [] := fun hNil => hRaw (List.append_eq_nil_iff.mp hNil).1
      obtain ⟨fuel, rfl⟩ := Nat.exists_eq_succ_of_ne_zero
        (Nat.ne_of_gt (Nat.lt_of_lt_of_le (List.length_pos_iff.mpr hNil) hFuel))
      have hPositive := List.length_pos_iff.mpr hRaw
      have hLength := congrArg List.length hRest
      rw [List.length_drop, List.length_append] at hLength
      rw [List.length_append] at hFuel
      have hNext : bytes.drop (offset + piece.raw.length) = rest := by
        rw [← List.drop_drop, hRest, List.drop_left]
      have hLater : ∀ s' : CdrSpool, s'.segments = s.segments →
          replayFrames codec latest segment fuel (offset + piece.raw.length) rest s' = _ :=
        fun s' hSame => ih fuel (offset + piece.raw.length) bytes s' (by omega)
          (by rw [hSame]; exact hFile) hNext (by omega)
      rw [replayFrames, if_neg hNil, hRead, scan_cons hRead hRaw]
      simp only [List.drop_left, entriesFrom, entryOf, turned, refused, refusedFrom, joined_cons,
        List.length_append, ← Nat.add_assoc]
      cases hCommand : commandOf codec piece with
      | ok command =>
          simp only [hLater s rfl]
          rfl
      | error reason =>
          simp only [hLater (s.quarantineSuffix segment offset piece.raw reason) rfl]
          rfl

/-- What a scan finds in the unacknowledged part of a file. -/
def fileScan (checkpoint : SpoolPosition) (file : Nat × Bytes) : Scan :=
  scan maxFrameSize (file.2.drop (startOf checkpoint file.1))

def fileEntries (codec : Codec α) (checkpoint : SpoolPosition) (file : Nat × Bytes) :
    List (ReplayEntry α) :=
  if file.1 < checkpoint.segment then []
  else entriesFrom codec file.1 (startOf checkpoint file.1) (fileScan checkpoint file).pieces

def turn (codec : Codec α) (checkpoint : SpoolPosition) (latest : Option Nat) (s : CdrSpool)
    (file : Nat × Bytes) : CdrSpool :=
  if file.1 < checkpoint.segment then s
  else turned codec latest file.1 (startOf checkpoint file.1) (fileScan checkpoint file) s

theorem turn_lookup (checkpoint : SpoolPosition) (latest : Option Nat) (file : Nat × Bytes)
    {segment : Nat} (hOther : file.1 ≠ segment) :
    (turn codec checkpoint latest s file).segments.lookup segment = s.segments.lookup segment := by
  rw [turn]
  split
  · rfl
  · rw [turned, truncate, OrdMap.lookup_adjust, if_neg hOther, quarantineAll_segments]

theorem turn_checkpoint (checkpoint : SpoolPosition) (latest : Option Nat) (file : Nat × Bytes) :
    (turn codec checkpoint latest s file).checkpoint = s.checkpoint := by
  rw [turn]
  split
  · rfl
  · exact quarantineAll_checkpoint _ _ _

/-- A turn over the first file leaves the later ones as they are. -/
theorem lookup_turn_later (codec : Codec α) (checkpoint : SpoolPosition) (latest : Option Nat)
    {file : Nat × Bytes} {files : List (Nat × Bytes)}
    (hFirst : ∀ key ∈ OrdMap.keys files, file.1 < key)
    (hFiles : ∀ other ∈ file :: files, s.segments.lookup other.1 = some other.2) :
    ∀ later ∈ files,
      (turn codec checkpoint latest s file).segments.lookup later.1 = some later.2 := by
  intro later hMem
  have hLess := hFirst later.1 (List.mem_map_of_mem hMem)
  rw [turn_lookup checkpoint latest file (Nat.ne_of_lt hLess)]
  exact hFiles later (.tail _ hMem)

theorem replaySegments_eq (checkpoint : SpoolPosition) (latest : Option Nat)
    (files : List (Nat × Bytes)) (s : CdrSpool) (hDistinct : OrdMap.Ascending files)
    (hFiles : ∀ file ∈ files, s.segments.lookup file.1 = some file.2)
    (hWithin : ∀ file ∈ files, ¬ file.1 < checkpoint.segment →
      startOf checkpoint file.1 ≤ file.2.length) :
    replaySegments codec checkpoint latest files s =
      (.ok (files.flatMap (fileEntries codec checkpoint)),
        files.foldl (turn codec checkpoint latest) s) := by
  induction files generalizing s with
  | nil => rfl
  | cons file files ih =>
      have hParts : (∀ key ∈ OrdMap.keys files, file.1 < key) ∧ OrdMap.Ascending files :=
        List.pairwise_cons.mp hDistinct
      have hLater := lookup_turn_later codec checkpoint latest hParts.1 hFiles
      have hRest := ih (turn codec checkpoint latest s file) hParts.2 hLater
        fun later hMem => hWithin later (.tail _ hMem)
      rw [replaySegments, List.flatMap_cons, List.foldl_cons, fileEntries]
      split
      · next hAcknowledged =>
          rw [turn, if_pos hAcknowledged] at hRest ⊢
          rw [hRest, List.nil_append]
      · next hActive =>
          have hStart := hWithin file (.head _) hActive
          rw [turn, if_neg hActive] at hRest ⊢
          simp only
          rw [if_neg (Nat.not_lt.mpr hStart), replayFrames_eq latest file.1 _ _ _ file.2 s
            (by rw [List.length_drop]; omega) (hFiles file (.head _)) rfl hStart]
          simp only [fileScan] at hRest ⊢
          rw [hRest]

/-- The checkpoint lies in its segment, if that is still there. -/
def CheckpointWithin (s : CdrSpool) : Prop :=
  ∀ bytes, s.segments.lookup s.readCheckpoint.segment = some bytes →
    s.readCheckpoint.offset ≤ bytes.length

/-- The entries that a replay returns. -/
def entries (codec : Codec α) (s : CdrSpool) : List (ReplayEntry α) :=
  s.segments.flatMap (fileEntries codec s.readCheckpoint)

/-- The spool after a replay. -/
def replayed (codec : Codec α) (s : CdrSpool) : CdrSpool :=
  s.segments.foldl (turn codec s.readCheckpoint s.latest) s

theorem start_le_length (h : s.CheckpointWithin) {file : Nat × Bytes} (hMem : file ∈ s.segments) :
    startOf s.readCheckpoint file.1 ≤ file.2.length := by
  rw [startOf]
  split
  · next hSame =>
      apply h
      rw [← hSame]
      exact OrdMap.lookup_of_mem s.ascending hMem
  · exact Nat.zero_le _

theorem replay_eq (codec : Codec α) (h : s.CheckpointWithin) :
    replay codec s = (.ok (s.entries codec), s.replayed codec) :=
  replaySegments_eq _ _ _ _ s.ascending (fun _ hMem => OrdMap.lookup_of_mem s.ascending hMem)
    fun _ hMem _ => start_le_length h hMem

/-- A replay that finds the checkpoint behind the end of its segment touches nothing. -/
theorem replaySegments_beyond {checkpoint : SpoolPosition} (latest : Option Nat) {bytes : Bytes}
    (hShort : bytes.length < checkpoint.offset) {files : List (Nat × Bytes)}
    (hDistinct : OrdMap.Ascending files) (hMem : (checkpoint.segment, bytes) ∈ files) :
    ∃ error, replaySegments codec checkpoint latest files s = (.error error, s) := by
  induction files with
  | nil => exact (List.not_mem_nil hMem).elim
  | cons file files ih =>
      have hParts : (∀ key ∈ OrdMap.keys files, file.1 < key) ∧ OrdMap.Ascending files :=
        List.pairwise_cons.mp hDistinct
      rw [replaySegments]
      rcases List.mem_cons.mp hMem with rfl | hTail
      · simp only [startOf, if_true]
        rw [if_neg (Nat.lt_irrefl _), if_pos hShort]
        exact ⟨_, rfl⟩
      · rw [if_pos (hParts.1 _ (List.mem_map_of_mem hTail))]
        exact ih hParts.2 hTail

theorem replay_beyond (codec : Codec α) (h : ¬ s.CheckpointWithin) :
    ∃ error, replay codec s = (.error error, s) := by
  obtain ⟨bytes, hBytes⟩ := not_forall.mp h
  obtain ⟨hLookup, hShort⟩ := Classical.not_imp.mp hBytes
  exact replaySegments_beyond s.latest (Nat.not_le.mp hShort) s.ascending
    (OrdMap.mem_of_lookup hLookup)

/-- What a replay keeps of a segment. -/
def kept (checkpoint : SpoolPosition) (segment : Nat) (bytes : Bytes) : Bytes :=
  if segment < checkpoint.segment then bytes
  else bytes.take (startOf checkpoint segment +
    (joined (fileScan checkpoint (segment, bytes)).pieces).length)

theorem lookup_turns (checkpoint : SpoolPosition) (latest : Option Nat)
    (files : List (Nat × Bytes)) (s : CdrSpool) (hDistinct : OrdMap.Ascending files)
    (hFiles : ∀ file ∈ files, s.segments.lookup file.1 = some file.2) (segment : Nat) :
    (files.foldl (turn codec checkpoint latest) s).segments.lookup segment =
      if segment ∈ OrdMap.keys files then
        (s.segments.lookup segment).map (kept checkpoint segment)
      else s.segments.lookup segment := by
  induction files generalizing s with
  | nil => rfl
  | cons file files ih =>
      have hParts : (∀ key ∈ OrdMap.keys files, file.1 < key) ∧ OrdMap.Ascending files :=
        List.pairwise_cons.mp hDistinct
      have hLater := lookup_turn_later codec checkpoint latest hParts.1 hFiles
      rw [List.foldl_cons, ih _ hParts.2 hLater]
      by_cases hSame : file.1 = segment
      · have hGone : segment ∉ OrdMap.keys files := fun hMem =>
          Nat.lt_irrefl _ (hSame ▸ hParts.1 segment hMem)
        have hHead : segment ∈ OrdMap.keys (file :: files) := hSame ▸ .head _
        have hFile := hFiles file (.head _)
        rw [hSame] at hFile
        rw [if_neg hGone, if_pos hHead, hFile, Option.map_some, turn, kept, hSame]
        split
        · rw [hFile]
        · rw [turned, truncate, OrdMap.lookup_adjust, if_pos rfl, quarantineAll_segments, hFile,
            Option.map_some, ← hSame]
      · have hMem : segment ∈ OrdMap.keys (file :: files) ↔ segment ∈ OrdMap.keys files := by
          show segment ∈ file.1 :: OrdMap.keys files ↔ _
          rw [List.mem_cons]
          exact ⟨fun h => h.resolve_left fun hEq => hSame hEq.symm, .inr⟩
        rw [turn_lookup checkpoint latest file hSame]
        simp only [hMem]

/-- A replay cuts off what the scans of the segments leave. -/
theorem replayed_segments (codec : Codec α) (s : CdrSpool) :
    (s.replayed codec).segments = s.segments.mapValues (kept s.readCheckpoint) := by
  apply OrdMap.ext_lookup (s.replayed codec).ascending (s.ascending.mapValues _)
  intro segment
  rw [replayed, lookup_turns _ _ _ _ s.ascending
    (fun _ hMem => OrdMap.lookup_of_mem s.ascending hMem), OrdMap.lookup_mapValues]
  split
  · rfl
  · next hGone => rw [OrdMap.lookup_eq_none hGone, Option.map_none]

theorem replayed_checkpoint (codec : Codec α) (s : CdrSpool) :
    (s.replayed codec).checkpoint = s.checkpoint := by
  suffices h : ∀ (files : List (Nat × Bytes)) (t : CdrSpool),
      (files.foldl (turn codec s.readCheckpoint s.latest) t).checkpoint = t.checkpoint from h _ _
  intro files
  induction files with
  | nil => exact fun _ => rfl
  | cons file files ih => exact fun t => (ih _).trans (turn_checkpoint _ _ _)

theorem readCheckpoint_replayed (codec : Codec α) (s : CdrSpool) :
    (s.replayed codec).readCheckpoint = s.readCheckpoint := by
  rw [readCheckpoint, replayed_checkpoint, readCheckpoint]

/-- What is kept of a segment is the frames that were found in it. -/
theorem drop_kept {checkpoint : SpoolPosition} {segment : Nat} {bytes : Bytes}
    (hActive : ¬ segment < checkpoint.segment) :
    (kept checkpoint segment bytes).drop (startOf checkpoint segment) =
      joined (fileScan checkpoint (segment, bytes)).pieces := by
  have hParts := scan_partition maxFrameSize (bytes.drop (startOf checkpoint segment))
  rw [kept, if_neg hActive, List.drop_take, Nat.add_sub_cancel_left]
  rw [fileScan]
  nth_rewrite 2 [← hParts]
  exact List.take_left

theorem fileScan_kept {checkpoint : SpoolPosition} {segment : Nat} {bytes : Bytes}
    (hActive : ¬ segment < checkpoint.segment) :
    fileScan checkpoint (segment, kept checkpoint segment bytes) =
      { pieces := (fileScan checkpoint (segment, bytes)).pieces, rest := [], stop := .clean } := by
  rw [fileScan]
  simp only
  rw [drop_kept hActive]
  exact scan_joined _ _

/-- A second replay finds the entries of the first one. -/
theorem entries_replayed (codec : Codec α) (s : CdrSpool) :
    (s.replayed codec).entries codec = s.entries codec := by
  rw [entries, readCheckpoint_replayed, replayed_segments, entries, OrdMap.mapValues,
    List.flatMap_map]
  apply List.flatMap_congr
  intro file _
  rw [fileEntries, fileEntries]
  split
  · rfl
  · next hActive => rw [fileScan_kept hActive]

end CdrSpool

end VoipSwitch
