import VoipSwitch.Cdr.Durability

/-! Without crashes a spool is exactly the queue of the commands that were appended to it. -/
namespace VoipSwitch

open Document Framed Keyed

namespace CdrSpool

variable {α : Type} {codec : Codec α} {s : CdrSpool} {r : SpoolRun α}

section Clean

/-- All that is not acknowledged is complete frames. -/
def Clean (s : CdrSpool) : Prop :=
  ∀ segment bytes, s.segments.lookup segment = some bytes →
    ¬ segment < s.readCheckpoint.segment →
      (fileScan s.readCheckpoint (segment, bytes)).stop = .clean

theorem Clean.target {segment offset : Nat} (h : s.Clean) (hReached : s.CheckpointReached)
    (hTarget : s.Target segment offset) :
    (fileScan s.readCheckpoint (segment, (s.segments.lookup segment).getD [])).stop = .clean := by
  cases hTarget with
  | last files _ bytes hSegments =>
      rw [lookup_last hSegments]
      exact h segment bytes (lookup_last hSegments)
        (Nat.not_lt.mpr (hReached segment (latest_of_segments hSegments)))
  | next _ hFiles hAhead =>
      rw [OrdMap.lookup_eq_none fun hMem => Nat.lt_irrefl _ (hFiles segment hMem)]
      rw [fileScan]
      simp only [Option.getD_none, List.drop_nil, scan_nil]

theorem Clean.write {segment offset : Nat} (h : s.Clean) (hReached : s.CheckpointReached)
    (hWithin : s.CheckpointWithin) (hTarget : s.Target segment offset) {more : Bytes}
    (hMore : (scan maxFrameSize more).stop = .clean) : (s.write segment more).Clean := by
  intro other bytes hBytes hActive
  have hCheckpoint : (s.write segment more).readCheckpoint = s.readCheckpoint := rfl
  rw [hCheckpoint] at hActive ⊢
  rw [lookup_write] at hBytes
  split at hBytes
  · next hSame =>
      have hBefore := h.target hReached hTarget
      have hStart : startOf s.readCheckpoint segment ≤
          ((s.segments.lookup segment).getD []).length := by
        cases hTarget with
        | last files _ bytes hSegments =>
            rw [lookup_last hSegments]
            exact start_le_length hWithin (OrdMap.mem_of_lookup (lookup_last hSegments))
        | next _ hFiles hAhead =>
            rw [startOf, if_neg (Nat.ne_of_gt hAhead)]
            exact Nat.zero_le _
      rw [← Option.some.inj hBytes, ← hSame, fileScan]
      simp only
      rw [List.drop_append_of_le_length hStart, scan_append hBefore]
      exact hMore
  · exact h other bytes hBytes hActive

theorem Clean.replayed (codec : Codec α) (s : CdrSpool) : (s.replayed codec).Clean := by
  intro segment bytes hBytes hActive
  rw [readCheckpoint_replayed] at hActive ⊢
  rw [replayed_segments, OrdMap.lookup_mapValues, Option.map_eq_some_iff] at hBytes
  obtain ⟨before, _, rfl⟩ := hBytes
  rw [fileScan_kept hActive]

theorem Clean.acknowledged {position : SpoolPosition} (h : s.Clean)
    (hBoundary : s.Boundary position) : (s.acknowledged position).Clean := by
  intro segment bytes hBytes hActive
  have hCheckpoint : (s.acknowledged position).readCheckpoint = position := rfl
  rw [hCheckpoint] at hActive ⊢
  rw [lookup_acknowledged hActive] at hBytes
  obtain ⟨_, _, _, hScan, _⟩ :=
    fileScan_acknowledged hBoundary (OrdMap.mem_of_lookup hBytes) hActive
  have hAhead := hBoundary.ahead
  rw [SpoolPosition.lt_iff] at hAhead
  rw [hScan]
  exact h segment bytes hBytes (by omega)

end Clean

section Backlog

/-- The size of frames. -/
def frameBytes (frames : List (SpoolPosition × Piece)) : Nat :=
  (frames.map fun located => located.2.raw.length).sum

theorem frameBytes_locatedFrom (segment offset : Nat) (pieces : List Piece) :
    frameBytes (locatedFrom segment offset pieces) = (joined pieces).length := by
  induction pieces generalizing offset with
  | nil => rfl
  | cons piece pieces ih =>
      have hLater := ih (offset + piece.raw.length)
      rw [frameBytes] at hLater ⊢
      rw [locatedFrom, List.map_cons, List.sum_cons, hLater, joined_cons, List.length_append]

/-- A file without remains has as many unacknowledged bytes as its frames. -/
theorem frameBytes_fileFrames {checkpoint : SpoolPosition} {file : Nat × Bytes}
    (hActive : ¬ file.1 < checkpoint.segment)
    (hClean : (fileScan checkpoint file).stop = .clean) :
    frameBytes (fileFrames checkpoint file) = file.2.length - startOf checkpoint file.1 := by
  have hWhole := scan_partition maxFrameSize (file.2.drop (startOf checkpoint file.1))
  rw [(rest_eq_nil_iff maxFrameSize _).mpr hClean, List.append_nil] at hWhole
  rw [fileFrames, if_neg hActive, frameBytes_locatedFrom, fileScan, hWhole, List.length_drop]

theorem frameBytes_append (first later : List (SpoolPosition × Piece)) :
    frameBytes (first ++ later) = frameBytes first + frameBytes later := by
  rw [frameBytes, List.map_append, List.sum_append]
  rfl

theorem backlog_foldl (checkpoint : SpoolPosition) (files : List (Nat × Bytes)) (bytes : Nat)
    (hBytes : bytes ≤ u64Max)
    (hClean : ∀ file ∈ files, ¬ file.1 < checkpoint.segment →
      (fileScan checkpoint file).stop = .clean) :
    files.foldl (fun bytes file =>
      if file.1 < checkpoint.segment then bytes
      else satAdd64 bytes (file.2.length - startOf checkpoint file.1)) bytes =
        min (bytes + frameBytes (files.flatMap (fileFrames checkpoint))) u64Max := by
  induction files generalizing bytes with
  | nil =>
      show bytes = min (bytes + 0) u64Max
      omega
  | cons file files ih =>
      have hLater := fun file hMem => hClean file (.tail _ hMem)
      rw [List.foldl_cons, List.flatMap_cons, frameBytes_append]
      by_cases hActive : file.1 < checkpoint.segment
      · rw [if_pos hActive, ih bytes hBytes hLater, fileFrames, if_pos hActive]
        rw [show frameBytes [] = 0 from rfl, Nat.zero_add]
      · have hBelow : satAdd64 bytes (file.2.length - startOf checkpoint file.1) ≤ u64Max :=
          Nat.min_le_right _ _
        rw [if_neg hActive, ih _ hBelow hLater,
          ← frameBytes_fileFrames hActive (hClean file (.head _) hActive), satAdd64]
        omega

theorem backlogBytes_eq (h : s.Clean) : s.backlogBytes = min (frameBytes s.frames) u64Max := by
  rw [backlogBytes, backlog_foldl _ _ _ (Nat.zero_le _), Nat.zero_add, frames]
  intro file hMem hActive
  exact h file.1 file.2 (OrdMap.lookup_of_mem s.ascending hMem) hActive

end Backlog

section Exact

/-- The spool holds the queue and nothing else. -/
structure Exact (codec : Codec α) (r : SpoolRun α) : Prop extends Holds codec r where
  exact : r.spool.frames = pendingFrames codec r
  clean : r.spool.Clean
  room : frameBytes r.spool.frames ≤ u64Max

/-- No crashes; what is appended can be read back; and there is a segment number for it, and the
size of the backlog can be counted. -/
def keepsOrder (codec : Codec α) (r : SpoolRun α) : SpoolStep α → Prop
  | .append command _ =>
    roundTrips codec command ∧ r.spool.saturates (frameOf codec command).length = false ∧
      r.spool.backlogBytes + (frameOf codec command).length ≤ u64Max
  | .crash _ _ => False
  | _ => True

theorem Exact.init (h : (spoolSystem codec).init r) : Exact codec r := by
  have hHolds := Holds.init h
  obtain ⟨hSegments, hPending, _⟩ := h
  have hFrames : r.spool.frames = [] := by
    rw [frames, hSegments]
    rfl
  refine ⟨hHolds, ?_, ?_, ?_⟩
  · rw [hFrames, pendingFrames, hPending]
    rfl
  · intro segment bytes hBytes
    rw [hSegments, OrdMap.lookup_nil] at hBytes
    simp at hBytes
  · rw [hFrames]
    exact Nat.zero_le _

theorem Exact.backlog (h : Exact codec r) : r.spool.backlogBytes = frameBytes r.spool.frames := by
  rw [backlogBytes_eq h.clean, Nat.min_eq_left h.room]

theorem Exact.append {command : α} (outcome : WriteOutcome) (h : Exact codec r)
    (hTrip : roundTrips codec command)
    (hRoom : r.spool.saturates (frameOf codec command).length = false)
    (hBacklog : r.spool.backlogBytes + (frameOf codec command).length ≤ u64Max) :
    Exact codec (runStep codec r (.append command outcome)) := by
  have hTarget := target_of_append h.reached hRoom
  have hEnds : r.spool.endsClean (frameOf codec command).length = true :=
    decide_eq_true (h.clean.target h.reached hTarget)
  have hHolds : Holds codec (runStep codec r (.append command outcome)) :=
    h.toHolds.append hRoom fun _ => ⟨hTrip, hEnds⟩
  by_cases hFits : maxFrameSize < (codec.encode spoolSchemaVersion command).length
  · obtain ⟨error, hRefused⟩ := append_oversized (s := r.spool) outcome hFits
    rw [runStep, hRefused]
    exact h
  · rw [Nat.not_lt] at hFits
    cases outcome with
    | failed written =>
        have hFrames : (r.spool.write (r.spool.appendTarget (frameOf codec command).length).1
            []).frames = r.spool.frames := by
          rw [frames_write hTarget h.reached h.within (of_decide_eq_true hEnds), scan_nil]
          exact List.append_nil _
        refine ⟨hHolds, ?_, ?_, ?_⟩
        · rw [runStep, append_failed hFits hTarget]
          exact hFrames.trans h.exact
        · rw [runStep, append_failed hFits hTarget]
          apply h.clean.write h.reached h.within hTarget
          rw [scan_nil]
        · rw [runStep, append_failed hFits hTarget]
          show frameBytes (r.spool.write _ []).frames ≤ u64Max
          rw [hFrames]
          exact h.room
    | synced =>
        have hFrames := frames_append h.reached h.within hFits hRoom hEnds
        have hScan : scan maxFrameSize (frameOf codec command) =
            { pieces := [pieceFor codec command], rest := [], stop := .clean } :=
          scan_frame hFits maxFrameSize_lt
        refine ⟨hHolds, ?_, ?_, ?_⟩
        · rw [runStep, append_synced hFits]
          show (r.spool.write _ _).frames = _
          rw [hFrames, h.exact, pendingFrames, pendingFrames, List.map_append]
          rfl
        · rw [runStep, append_synced hFits]
          apply h.clean.write h.reached h.within hTarget
          rw [hScan]
        · rw [runStep, append_synced hFits]
          show frameBytes (r.spool.write _ _).frames ≤ u64Max
          rw [h.backlog] at hBacklog
          rw [hFrames, frameBytes_append]
          exact hBacklog

theorem Exact.replayed (h : Exact codec r) : Exact codec (runStep codec r .replay) := by
  have hHolds := h.toHolds.replayed
  rw [runStep, replay_eq codec h.within] at hHolds ⊢
  refine ⟨hHolds, ?_, Clean.replayed codec _, ?_⟩
  · rw [frames_replayed]
    exact h.exact
  · rw [frames_replayed]
    exact h.room

theorem frameBytes_filter_le (keep : SpoolPosition × Piece → Bool)
    (frames : List (SpoolPosition × Piece)) :
    frameBytes (frames.filter keep) ≤ frameBytes frames := by
  induction frames with
  | nil => exact Nat.le_refl _
  | cons located frames ih =>
      rw [← List.singleton_append, List.filter_append, frameBytes_append, frameBytes_append]
      apply Nat.add_le_add _ ih
      cases hKeep : keep located with
      | true => rw [List.filter_cons_of_pos hKeep, List.filter_nil]
      | false =>
          rw [List.filter_cons_of_neg (by rw [hKeep]; exact Bool.false_ne_true), List.filter_nil]
          exact Nat.zero_le _

theorem Exact.acknowledge {position : SpoolPosition} (h : Exact codec r)
    (hSeen : position ∈ r.seen) : Exact codec (runStep codec r (.acknowledge position)) := by
  have hHolds := h.toHolds.acknowledge hSeen
  by_cases hAhead : position < r.spool.readCheckpoint
  · rw [runStep, CdrSpool.acknowledge, if_pos hAhead]
    exact h
  · have hBoundary := h.seen.boundary hSeen hAhead
    have hFrames := frames_acknowledged hBoundary
    rw [runStep, acknowledge_eq hAhead] at hHolds ⊢
    refine ⟨hHolds, ?_, h.clean.acknowledged hBoundary, ?_⟩
    · show (r.spool.acknowledged position).frames = _
      rw [hFrames, pendingFrames_filter, h.exact]
    · show frameBytes (r.spool.acknowledged position).frames ≤ u64Max
      rw [hFrames]
      exact Nat.le_trans (frameBytes_filter_le _ _) h.room

theorem Exact.step {step : SpoolStep α} (h : Exact codec r) (hAllowed : allowed codec r step)
    (hOrder : keepsOrder codec r step) : Exact codec (runStep codec r step) := by
  cases step with
  | append command outcome => exact h.append outcome hOrder.1 hOrder.2.1 hOrder.2.2
  | crash command written => exact hOrder.elim
  | replay => exact h.replayed
  | acknowledge position => exact h.acknowledge hAllowed

theorem Exact.of_run (h : Transition.ReachableWithin (spoolSystem codec) (keepsOrder codec) r) :
    Exact codec r := by
  apply h.invariant
  · exact fun r hInit => .init hInit
  · rintro r step _ h hOrder ⟨hAllowed, rfl⟩
    exact h.step hAllowed hOrder

/-- A replay shows the queue. -/
theorem Exact.entries (h : Exact codec r) :
    r.spool.entries codec = r.pending.map fun command => .write command.1 command.2 := by
  rw [entries_eq, h.exact, pendingFrames, List.map_map]
  apply List.map_congr_left
  intro command hMem
  rw [Function.comp_apply, entryOf, commandOf_pieceFor (h.readable command hMem)]

/-- Without crashes a replay returns the commands that are pending, in the order of their appends
and with the positions that these returned, and they are all of the backlog. -/
theorem replay_returns_pending
    (hRun : Transition.ReachableWithin (spoolSystem codec) (keepsOrder codec) r) :
    (replay codec r.spool).1 = .ok (r.pending.map fun command => .write command.1 command.2) ∧
      r.pending.Pairwise (·.1 < ·.1) ∧
      r.spool.backlogBytes =
        (r.pending.map fun command => (frameOf codec command.2).length).sum := by
  have hExact := Exact.of_run hRun
  refine ⟨?_, ?_, ?_⟩
  · rw [replay_eq codec hExact.within, hExact.entries]
  · have hSorted := frames_sorted r.spool
    rw [hExact.exact, pendingFrames, List.pairwise_map] at hSorted
    exact hSorted
  · rw [hExact.backlog, hExact.exact, pendingFrames, frameBytes, List.map_map]
    rfl

set_option maxRecDepth 20000 in
/-- The command that is not acknowledged is what is left, with all of the backlog. -/
theorem replay_returns_pending_appended :
    acknowledgedRun.pending.map (·.1.offset) = [1938] ∧
      (replay tornCodec acknowledgedRun.spool).1 =
        .ok (acknowledgedRun.pending.map fun command => .write command.1 command.2) ∧
      acknowledgedRun.spool.backlogBytes =
        (acknowledgedRun.pending.map fun command => (frameOf tornCodec command.2).length).sum := by
  have hStart : Transition.ReachableWithin (spoolSystem tornCodec) (keepsOrder tornCodec) .start :=
    ⟨_, init_start, .refl⟩
  have hFirst := reachable_step hStart (.append shortCommand .synced)
    ⟨shortCommand_roundTrips, by decide, by decide +kernel⟩ trivial
  have hSecond := reachable_step hFirst (.append shortCommand .synced)
    ⟨shortCommand_roundTrips, by decide +kernel, by decide +kernel⟩ trivial
  have hReplayed := reachable_step hSecond .replay trivial trivial
  have hExact := replay_returns_pending
    (reachable_step hReplayed (.acknowledge _) trivial acknowledgedRun_seen)
  exact ⟨by decide +kernel, hExact.1, hExact.2.2⟩

end Exact

section Saturated

theorem kept_of_clean {checkpoint : SpoolPosition} {segment : Nat} {bytes : Bytes}
    (hClean : (fileScan checkpoint (segment, bytes)).stop = .clean) :
    kept checkpoint segment bytes = bytes := by
  have hWhole := scan_partition maxFrameSize (bytes.drop (startOf checkpoint segment))
  rw [(rest_eq_nil_iff maxFrameSize _).mpr hClean, List.append_nil] at hWhole
  rw [kept]
  split
  · rfl
  · apply List.take_of_length_le
    rw [fileScan, hWhole, List.length_drop]
    omega

/-- A replay of complete frames leaves the segments as they are. -/
theorem Clean.segments_replayed (h : s.Clean) :
    (s.replayed codec).segments = s.segments := by
  apply OrdMap.ext_lookup (CdrSpool.ascending _) s.ascending
  intro segment
  rw [replayed_segments, OrdMap.lookup_mapValues]
  cases hBytes : s.segments.lookup segment with
  | none => rfl
  | some bytes =>
      rw [Option.map_some]
      by_cases hActive : segment < s.readCheckpoint.segment
      · rw [kept, if_pos hActive]
      · rw [kept_of_clean (h segment bytes hBytes hActive)]

/-- The steps of a run without crashes. -/
def crashFree (codec : Codec α) (_ : SpoolRun α) : SpoolStep α → Prop
  | .append command _ => roundTrips codec command
  | .crash _ _ => False
  | _ => True

theorem keepsOrder.crashFree {step : SpoolStep α} (h : keepsOrder codec r step) :
    crashFree codec r step := by
  cases step with
  | append command outcome => exact h.1
  | crash command written => exact h
  | replay => trivial
  | acknowledge position => trivial

/-- A run whose spool has one segment, with the frame of one command, and no backlog. -/
structure Drained (codec : Codec α) (command : α) (segment : Nat) (r : SpoolRun α) : Prop where
  run : Transition.ReachableWithin (spoolSystem codec) (keepsOrder codec) r
  segments : r.spool.segments = [(segment, frameOf codec command)]
  checkpoint : r.spool.readCheckpoint = { segment, offset := (frameOf codec command).length }
  pending : r.pending = []

/-- A command is appended in a new segment, replayed and acknowledged. -/
theorem drained_of_append {command : α} {segment : Nat}
    (hRun : Transition.ReachableWithin (spoolSystem codec) (keepsOrder codec) r)
    (hPending : r.pending = []) (hTrip : roundTrips codec command)
    (hFits : (codec.encode spoolSchemaVersion command).length ≤ maxFrameSize)
    (hRoom : r.spool.saturates (frameOf codec command).length = false)
    (hTarget : r.spool.appendTarget (frameOf codec command).length = (segment, 0))
    (hFiles : ∀ key ∈ r.spool.segments.keys, key < segment) :
    ∃ r', Drained codec command segment r' := by
  have hExact := Exact.of_run hRun
  have hBacklog : r.spool.backlogBytes + (frameOf codec command).length ≤ u64Max := by
    have hNone : r.spool.backlogBytes = 0 := by
      rw [hExact.backlog, hExact.exact, pendingFrames, hPending]
      rfl
    have hLength : (frameOf codec command).length = headerSize + _ := length_frame
    rw [hNone, hLength, headerSize, u64Max]
    rw [maxFrameSize] at hFits
    omega
  have hAppended := reachable_step hRun (.append command .synced) ⟨hTrip, hRoom, hBacklog⟩ trivial
  have hStep : runStep codec r (.append command .synced) =
      { r with
        spool := r.spool.write segment (frameOf codec command)
        pending := [({ segment, offset := (frameOf codec command).length }, command)] } := by
    rw [runStep, append_synced hFits, hTarget, hPending, Nat.zero_add]
    rfl
  rw [hStep] at hAppended
  have hHeld := Exact.of_run hAppended
  have hReplayed := reachable_step hAppended .replay trivial trivial
  rw [runStep, replay_eq codec hHeld.within, hHeld.entries] at hReplayed
  have hShown := Exact.of_run hReplayed
  have hMem : (({ segment, offset := (frameOf codec command).length } : SpoolPosition),
      pieceFor codec command) ∈
        ((r.spool.write segment (frameOf codec command)).replayed codec).frames := by
    rw [hShown.exact]
    exact .head _
  have hAhead := (Boundary.of_mem hMem).ahead
  have hAcknowledged := reachable_step hReplayed
    (.acknowledge { segment, offset := (frameOf codec command).length }) trivial (.head _)
  rw [runStep, acknowledge_eq hAhead] at hAcknowledged
  refine ⟨_, hAcknowledged, ?_, rfl, ?_⟩
  · show ((r.spool.write segment (frameOf codec command)).replayed codec).segments.filter _ = _
    have hFresh : r.spool.segments.lookup segment = none :=
      OrdMap.lookup_eq_none fun hKey => Nat.lt_irrefl _ (hFiles segment hKey)
    rw [hHeld.clean.segments_replayed]
    show (r.spool.segments.insert segment _).filter _ = _
    rw [hFresh, OrdMap.insert_of_gt hFiles, List.filter_append, List.filter_eq_nil_iff.mpr]
    · simp
    · intro file hFile
      have hBefore := hFiles file.1 (List.mem_map_of_mem hFile)
      simpa using hBefore
  · show List.filter _ _ = _
    rw [List.filter_cons_of_neg, List.filter_nil]
    simp [SpoolPosition.lt_iff]

theorem Drained.next {command : α} {segment : Nat} (h : Drained codec command segment r)
    (hTrip : roundTrips codec command)
    (hFits : (codec.encode spoolSchemaVersion command).length ≤ maxFrameSize)
    (hFull : isFull (frameOf codec command).length (frameOf codec command).length = true)
    (hBelow : segment < u64Max) : ∃ r', Drained codec command (segment + 1) r' := by
  have hLatest : r.spool.latest = some segment :=
    latest_of_segments (by rw [h.segments, List.nil_append])
  have hLength : r.spool.lengthOf segment = (frameOf codec command).length := by
    rw [lengthOf, h.segments, OrdMap.lookup, if_pos rfl]
    rfl
  apply drained_of_append h.run h.pending hTrip hFits
  · rw [saturates, hLatest]
    simp only [hLength, hFull, Bool.and_true, decide_eq_false_iff_not, Nat.not_le]
    exact hBelow
  · rw [appendTarget, hLatest, Option.getD_some, hLength]
    simp only [hFull, if_true, Prod.mk.injEq, and_true]
    rw [satSucc64]
    omega
  · intro key hKey
    rw [h.segments] at hKey
    rw [List.mem_singleton.mp hKey]
    exact Nat.lt_succ_self _

/-- One command after the other takes its segment, up to the last segment number. -/
theorem drained_upTo {command : α} (hTrip : roundTrips codec command)
    (hFits : (codec.encode spoolSchemaVersion command).length ≤ maxFrameSize)
    (hFull : isFull (frameOf codec command).length (frameOf codec command).length = true)
    (segment : Nat) (h : segment < u64Max) : ∃ r, Drained codec command (segment + 1) r := by
  induction segment with
  | zero =>
      apply drained_of_append ⟨_, init_start, .refl⟩ rfl hTrip hFits
      · rfl
      · rfl
      · exact fun _ hMem => (List.not_mem_nil hMem).elim
  | succ segment ih =>
      obtain ⟨r, hDrained⟩ := ih (Nat.lt_of_succ_lt h)
      exact hDrained.next hTrip hFits hFull h

/-- The frame that follows in the last segment ends behind the position that its append returns. -/
theorem Drained.misplaced {command : α} (h : Drained codec command u64Max r)
    (hTrip : roundTrips codec command)
    (hFits : (codec.encode spoolSchemaVersion command).length ≤ maxFrameSize)
    (hFull : isFull (frameOf codec command).length (frameOf codec command).length = true) :
    ∃ r', Transition.ReachableWithin (spoolSystem codec) (crashFree codec) r' ∧
      (replay codec r'.spool).1 ≠
        .ok (r'.pending.map fun command => .write command.1 command.2) := by
  have hRun : Transition.ReachableWithin (spoolSystem codec) (crashFree codec) r := by
    obtain ⟨start, hStart, run⟩ := h.run
    exact ⟨start, hStart, run.mono fun _ _ => keepsOrder.crashFree⟩
  have hAppend := reachable_step hRun (.append command .synced) hTrip trivial
  have hLatest : r.spool.latest = some u64Max :=
    latest_of_segments (by rw [h.segments, List.nil_append])
  have hBytes : r.spool.segments.lookup u64Max = some (frameOf codec command) := by
    rw [h.segments]
    exact if_pos rfl
  have hTarget : r.spool.appendTarget (frameOf codec command).length = (u64Max, 0) := by
    rw [appendTarget, hLatest, Option.getD_some, lengthOf, hBytes]
    simp only [Option.map_some, Option.getD_some, hFull, if_true]
    rfl
  rw [runStep, append_synced hFits, hTarget, h.pending, Nat.zero_add] at hAppend
  refine ⟨_, hAppend, ?_⟩
  have hCheckpoint : (r.spool.write u64Max (frameOf codec command)).readCheckpoint =
      { segment := u64Max, offset := (frameOf codec command).length } := h.checkpoint
  have hWithin : (r.spool.write u64Max (frameOf codec command)).CheckpointWithin := by
    intro bytes hFound
    rw [hCheckpoint, lookup_write, if_pos rfl, hBytes] at hFound
    rw [hCheckpoint, ← Option.some.inj hFound, Option.getD_some, List.length_append]
    exact Nat.le_add_right _ _
  intro hReplay
  rw [replay_eq codec hWithin] at hReplay
  -- every frame that a replay shows ends behind the checkpoint
  have hShown : .write { segment := u64Max, offset := (frameOf codec command).length } command ∈
      (r.spool.write u64Max (frameOf codec command)).entries codec := by
    rw [Except.ok.inj hReplay]
    exact .head _
  rw [entries_eq] at hShown
  obtain ⟨located, hLocated, hEntry⟩ := List.mem_map.mp hShown
  have hPosition := congrArg ReplayEntry.position hEntry
  rw [position_entryOf] at hPosition
  have hAhead := checkpoint_lt _ hLocated
  rw [hPosition, hCheckpoint,
    ReplayEntry.position, SpoolPosition.lt_iff] at hAhead
  simp at hAhead

/-- A command whose frame takes a segment of its own. -/
def hugeCommand : CdrWriteCommand := sampleCommand (String.ofList (List.replicate 5000000 'x'))

def hugeCodec : Codec CdrWriteCommand := spoolCodec (.knowing [hugeCommand.document])

theorem hugeCommand_roundTrips : roundTrips hugeCodec hugeCommand := by
  rw [roundTrips, hugeCodec]
  exact decode_encode_of_none (JsonText.knowing_readsBack hugeCommand) rfl

theorem length_hugeCommand :
    10000000 ≤ (hugeCodec.encode spoolSchemaVersion hugeCommand).length ∧
      (hugeCodec.encode spoolSchemaVersion hugeCommand).length ≤ 10010000 := by
  have hLength := length_document (String.ofList (List.replicate 5000000 'x'))
  have hSmall : (sampleCommand "").document.render.length ≤ 2000 := by decide +kernel
  have hNone : (Json.renderStr "").length = 2 := by decide
  rw [Json.length_renderStr_replicate, hNone] at hLength
  have hText : hugeCodec.encode spoolSchemaVersion hugeCommand =
      (sampleCommand (String.ofList (List.replicate 5000000 'x'))).document.render := rfl
  rw [hText]
  omega

theorem hugeCommand_fits :
    (hugeCodec.encode spoolSchemaVersion hugeCommand).length ≤ maxFrameSize := by
  have hLength := length_hugeCommand
  rw [maxFrameSize]
  omega

/-- No two of the frames fit into a segment. -/
theorem hugeCommand_full :
    isFull (frameOf hugeCodec hugeCommand).length
      (frameOf hugeCodec hugeCommand).length = true := by
  have hLength := length_hugeCommand
  have hFrame : (frameOf hugeCodec hugeCommand).length = headerSize + _ := length_frame
  rw [isFull, hFrame, satAdd64, segmentSizeLimit, headerSize, u64Max, Bool.and_eq_true,
    decide_eq_true_eq, decide_eq_true_eq]
  omega

/-- Behind the last segment number the next frame goes where the previous one is, and its append
returns the position of that one. -/
theorem last_segment_misplaces_frame :
    ∃ r, Transition.ReachableWithin (spoolSystem hugeCodec) (crashFree hugeCodec) r ∧
      (replay hugeCodec r.spool).1 ≠
        .ok (r.pending.map fun command => .write command.1 command.2) := by
  obtain ⟨r, hDrained⟩ := drained_upTo hugeCommand_roundTrips hugeCommand_fits hugeCommand_full
    (u64Max - 1) (by decide)
  exact hDrained.misplaced hugeCommand_roundTrips hugeCommand_fits hugeCommand_full

end Saturated

end CdrSpool

end VoipSwitch
