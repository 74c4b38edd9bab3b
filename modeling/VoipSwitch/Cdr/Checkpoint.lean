import VoipSwitch.Cdr.Durability

/-! The checkpoint of a spool whose segments may hold anything. -/
namespace VoipSwitch

open Framed Keyed

namespace CdrSpool

variable {α : Type} {codec : Codec α} {s : CdrSpool} {r : SpoolRun α}

section Placed

/-- The checkpoint, if there is one, lies in its segment. -/
def Placed (s : CdrSpool) : Prop :=
  ∀ position, s.checkpoint = some position →
    ∃ bytes, s.segments.lookup position.segment = some bytes ∧ position.offset ≤ bytes.length

theorem Placed.within (h : s.Placed) : s.CheckpointWithin := by
  intro bytes hBytes
  rw [readCheckpoint] at hBytes ⊢
  cases hCheckpoint : s.checkpoint with
  | none => exact Nat.zero_le _
  | some position =>
      obtain ⟨found, hFound, hOffset⟩ := h position hCheckpoint
      rw [hCheckpoint, Option.getD_some, hFound] at hBytes
      obtain rfl := Option.some.inj hBytes
      exact hOffset

theorem le_latest {segment last : Nat} (hLatest : s.latest = some last)
    (hMem : segment ∈ s.segments.keys) : segment ≤ last := by
  obtain ⟨files, bytes, hSegments⟩ := segments_of_latest hLatest
  rw [hSegments, OrdMap.keys, List.map_append, List.mem_append] at hMem
  rcases hMem with hOld | hLast
  · exact Nat.le_of_lt (lt_of_last hSegments segment hOld)
  · exact Nat.le_of_eq (List.mem_singleton.mp hLast)

theorem Placed.reached (h : s.Placed) : s.CheckpointReached := by
  intro last hLatest
  rw [readCheckpoint]
  cases hCheckpoint : s.checkpoint with
  | none => exact Nat.zero_le _
  | some position =>
      obtain ⟨bytes, hBytes, _⟩ := h position hCheckpoint
      exact le_latest hLatest (OrdMap.mem_keys_of_lookup hBytes)

/-- Whatever is appended goes to the end of the spool. -/
theorem Placed.target (h : s.Placed) (hNumbers : ∀ segment ∈ s.segments.keys, segment ≤ u64Max)
    (length : Nat) : ∃ offset, s.Target (s.appendTarget length).1 offset := by
  cases hRoom : s.saturates length with
  | false => exact ⟨_, target_of_append h.reached hRoom⟩
  | true =>
      rw [saturates] at hRoom
      split at hRoom
      · next hLatest =>
          have hNone : s.checkpoint = none := by
            cases hCheckpoint : s.checkpoint with
            | none => rfl
            | some position =>
                obtain ⟨bytes, hBytes, _⟩ := h position hCheckpoint
                rw [latest, Option.map_eq_none_iff, List.getLast?_eq_none_iff] at hLatest
                rw [hLatest, OrdMap.lookup_nil] at hBytes
                simp at hBytes
          rw [readCheckpoint, hNone] at hRoom
          simp [u64Max] at hRoom
      · next last hLatest =>
          obtain ⟨files, bytes, hSegments⟩ := segments_of_latest hLatest
          rw [Bool.and_eq_true, decide_eq_true_eq] at hRoom
          have hLast : last = u64Max := by
            apply Nat.le_antisymm _ hRoom.1
            apply hNumbers
            rw [hSegments, OrdMap.keys]
            simp
          have hTarget : (s.appendTarget length).1 = last := by
            rw [appendTarget, hLatest]
            simp only [Option.getD_some, hRoom.2, if_true]
            rw [satSucc64, hLast]
            exact Nat.min_eq_right (Nat.le_succ _)
          rw [hTarget]
          exact ⟨_, .last files last bytes hSegments⟩

theorem Placed.write (h : s.Placed) (segment : Nat) (more : Bytes) :
    (s.write segment more).Placed := by
  intro position hCheckpoint
  obtain ⟨bytes, hBytes, hOffset⟩ := h position hCheckpoint
  rw [lookup_write]
  split
  · next hSame =>
      refine ⟨_, rfl, ?_⟩
      rw [hSame, hBytes, Option.getD_some, List.length_append]
      exact Nat.le_add_right_of_le hOffset
  · exact ⟨bytes, hBytes, hOffset⟩

/-- A replay cuts a segment behind the checkpoint only. -/
theorem lookup_replayed (codec : Codec α) (h : s.CheckpointWithin) {segment : Nat} {bytes : Bytes}
    (hBytes : s.segments.lookup segment = some bytes) :
    ∃ left, (s.replayed codec).segments.lookup segment = some left ∧ left <+: bytes ∧
      (segment < s.readCheckpoint.segment → left = bytes) ∧
      (segment = s.readCheckpoint.segment → s.readCheckpoint.offset ≤ left.length) := by
  rw [replayed_segments, OrdMap.lookup_mapValues, hBytes, Option.map_some]
  refine ⟨_, rfl, ?_, ?_, ?_⟩
  · rw [kept]
    split
    · exact List.prefix_refl _
    · exact List.take_prefix _ _
  · intro hBefore
    rw [kept, if_pos hBefore]
  · rintro rfl
    have hOffset := h bytes hBytes
    rw [kept, if_neg (Nat.lt_irrefl _), startOf, if_pos rfl, List.length_take]
    omega

theorem Placed.replayed (codec : Codec α) (h : s.Placed) : (s.replayed codec).Placed := by
  intro position hCheckpoint
  rw [replayed_checkpoint] at hCheckpoint
  obtain ⟨bytes, hBytes, _⟩ := h position hCheckpoint
  obtain ⟨left, hLeft, _, _, hOffset⟩ := lookup_replayed codec h.within hBytes
  have hPosition : s.readCheckpoint = position := by
    rw [readCheckpoint, hCheckpoint, Option.getD_some]
  rw [hPosition] at hOffset
  exact ⟨left, hLeft, hOffset rfl⟩

theorem Placed.acknowledged {position : SpoolPosition} {bytes : Bytes}
    (hBytes : s.segments.lookup position.segment = some bytes)
    (hOffset : position.offset ≤ bytes.length) : (s.acknowledged position).Placed := by
  intro other hOther
  obtain rfl := Option.some.inj hOther
  rw [lookup_acknowledged (Nat.lt_irrefl _)]
  exact ⟨bytes, hBytes, hOffset⟩

end Placed

section Runs

/-- Runs from a spool with any segments and a checkpoint that lies in its own. -/
def contentSystem (codec : Codec α) : Transition.System (SpoolRun α) (SpoolStep α) where
  init r := r.spool.Placed ∧ (∀ segment ∈ r.spool.segments.keys, segment ≤ u64Max) ∧ r.seen = []
  next := (spoolSystem codec).next

/-- The steps other than an append that fails when the segment numbers are used up. -/
def keepsFiles (codec : Codec α) (r : SpoolRun α) : SpoolStep α → Prop
  | .append command (.failed _) => r.spool.saturates (frameOf codec command).length = false
  | _ => True

structure Safe (r : SpoolRun α) : Prop where
  placed : r.spool.Placed
  numbers : ∀ segment ∈ r.spool.segments.keys, segment ≤ u64Max
  seen : Seen r.spool r.seen
  behind : ∀ position ∈ r.seen, 0 < position.offset

theorem Safe.init (h : (contentSystem codec).init r) : Safe r := by
  obtain ⟨hPlaced, hNumbers, hSeen⟩ := h
  refine ⟨hPlaced, hNumbers, ?_, ?_⟩
  · rw [hSeen]
    exact fun _ hMem => (List.not_mem_nil hMem).elim
  · rw [hSeen]
    exact fun _ hMem => (List.not_mem_nil hMem).elim

theorem appendTarget_le (length : Nat)
    (hNumbers : ∀ segment ∈ s.segments.keys, segment ≤ u64Max) :
    (s.appendTarget length).1 ≤ u64Max := by
  rw [appendTarget]
  split
  · exact Nat.min_le_right _ _
  · cases hLatest : s.latest with
    | none =>
        apply Nat.max_le.mpr
        exact ⟨Nat.min_le_right _ _, by decide⟩
    | some last =>
        obtain ⟨files, bytes, hSegments⟩ := segments_of_latest hLatest
        apply hNumbers
        rw [hSegments, OrdMap.keys]
        simp

/-- Something is written where an append writes. -/
theorem Safe.write (h : Safe r) (length : Nat) (more : Bytes) (pending : List (SpoolPosition × α)) :
    Safe { r with spool := r.spool.write (r.spool.appendTarget length).1 more, pending } := by
  obtain ⟨offset, hTarget⟩ := h.placed.target h.numbers length
  refine ⟨h.placed.write _ _, ?_, h.seen.write hTarget h.placed.within more, h.behind⟩
  intro segment hMem
  rcases OrdMap.mem_keys_insert hMem with rfl | hOld
  · exact appendTarget_le length h.numbers
  · exact h.numbers segment hOld

theorem Safe.append {command : α} {outcome : WriteOutcome} (h : Safe r)
    (hFiles : keepsFiles codec r (.append command outcome)) :
    Safe (runStep codec r (.append command outcome)) := by
  by_cases hFits : maxFrameSize < (codec.encode spoolSchemaVersion command).length
  · obtain ⟨error, hRefused⟩ := append_oversized (s := r.spool) outcome hFits
    rw [runStep, hRefused]
    exact h
  · rw [Nat.not_lt] at hFits
    cases outcome with
    | failed written =>
        rw [runStep, append_failed hFits (target_of_append h.placed.reached hFiles)]
        exact h.write _ _ _
    | synced =>
        rw [runStep, append_synced hFits]
        exact h.write _ _ _

theorem Safe.replayed (h : Safe r) : Safe (runStep codec r .replay) := by
  rw [runStep, replay_eq codec h.placed.within]
  refine ⟨h.placed.replayed codec, ?_, h.seen.replayed codec, ?_⟩
  · intro segment hMem
    apply h.numbers
    rw [replayed_segments, OrdMap.keys, OrdMap.mapValues, List.map_map] at hMem
    exact hMem
  · intro position hSeen
    rcases List.mem_append.mp hSeen with hNew | hOld
    · rw [entries_eq, List.map_map] at hNew
      obtain ⟨located, hMem, rfl⟩ := List.mem_map.mp hNew
      rw [Function.comp_apply, position_entryOf]
      obtain ⟨file, _, hFrame⟩ := List.mem_flatMap.mp hMem
      have hStart := (mem_fileFrames hFrame).2.2.1
      exact Nat.lt_of_le_of_lt (Nat.zero_le _) hStart
    · exact h.behind position hOld

/-- A position that was seen and is not acknowledged yet lies in a segment. -/
theorem Safe.lookup_seen (h : Safe r) {position : SpoolPosition} (hSeen : position ∈ r.seen)
    (hAhead : ¬ position < r.spool.readCheckpoint) :
    ∃ bytes, r.spool.segments.lookup position.segment = some bytes := by
  rcases h.seen position hSeen with hBehind | hFrame
  · have hSame : position = r.spool.readCheckpoint := SpoolPosition.eq_of_not_lt hAhead hBehind
    cases hCheckpoint : r.spool.checkpoint with
    | none =>
        have hOffset := h.behind position hSeen
        rw [hSame, readCheckpoint, hCheckpoint] at hOffset
        exact (Nat.lt_irrefl _ hOffset).elim
    | some checkpoint =>
        obtain ⟨bytes, hBytes, _⟩ := h.placed checkpoint hCheckpoint
        rw [hSame, readCheckpoint, hCheckpoint]
        exact ⟨bytes, hBytes⟩
  · obtain ⟨located, hMem, rfl⟩ := List.mem_map.mp hFrame
    obtain ⟨file, hFile, hLocated⟩ := List.mem_flatMap.mp hMem
    rw [(mem_fileFrames hLocated).2.1]
    exact ⟨file.2, OrdMap.lookup_of_mem r.spool.ascending hFile⟩

theorem Safe.acknowledge {position : SpoolPosition} (h : Safe r) (hSeen : position ∈ r.seen) :
    Safe (runStep codec r (.acknowledge position)) := by
  rw [runStep]
  by_cases hAhead : position < r.spool.readCheckpoint
  · rw [CdrSpool.acknowledge, if_pos hAhead]
    exact h
  · have hBoundary := h.seen.boundary hSeen hAhead
    obtain ⟨bytes, hBytes⟩ := h.lookup_seen hSeen hAhead
    rw [acknowledge_eq hAhead]
    refine ⟨Placed.acknowledged hBytes (hBoundary.length_le h.placed.within hBytes), ?_,
      h.seen.acknowledged hBoundary, h.behind⟩
    intro segment hMem
    obtain ⟨file, hFile, rfl⟩ := List.mem_map.mp hMem
    exact h.numbers file.1 (List.mem_map_of_mem (List.mem_filter.mp hFile).1)

theorem Safe.of_run (h : Transition.ReachableWithin (contentSystem codec) (keepsFiles codec) r) :
    Safe r := by
  apply h.invariant
  · exact fun r hInit => .init hInit
  · rintro r step _ h hFiles ⟨hAllowed, rfl⟩
    cases step with
    | append command outcome => exact h.append hFiles
    | crash command written => exact h.write _ _ _
    | replay => exact h.replayed
    | acknowledge position => exact h.acknowledge hAllowed

theorem append_checkpoint (codec : Codec α) (s : CdrSpool) (command : α) (outcome : WriteOutcome) :
    (append codec command outcome s).2.checkpoint = s.checkpoint := by
  rw [append]
  split
  · rfl
  · cases outcome with
    | synced => rfl
    | failed written => rfl

/-- What holds of the checkpoint in a state of a run. -/
structure CheckpointSafe (codec : Codec α) (r : SpoolRun α) : Prop where
  /-- A replay never finds the checkpoint behind the end of its segment. -/
  replays : ∃ entries, (replay codec r.spool).1 = .ok entries
  /-- A second replay returns what the first one did. -/
  repeats : (replay codec (replay codec r.spool).2).1 = (replay codec r.spool).1
  /-- A replay cuts segments behind the checkpoint only. -/
  keeps : ∀ segment bytes, r.spool.segments.lookup segment = some bytes →
    ∃ left, (replay codec r.spool).2.segments.lookup segment = some left ∧ left <+: bytes ∧
      (segment < r.spool.readCheckpoint.segment → left = bytes) ∧
      (segment = r.spool.readCheckpoint.segment → r.spool.readCheckpoint.offset ≤ left.length)
  /-- An acknowledgement deletes only segments all of which lies before its position. -/
  deletes : ∀ position ∈ r.seen, ∀ segment bytes, r.spool.segments.lookup segment = some bytes →
    (acknowledge position r.spool).2.segments.lookup segment ≠ some bytes →
      ∀ offset, { segment, offset } < position
  /-- No step moves the checkpoint backwards. -/
  advances : ∀ step r', (contentSystem codec).next r step r' →
    ¬ r'.spool.readCheckpoint < r.spool.readCheckpoint

theorem deleted_before {position : SpoolPosition} {segment : Nat} {bytes : Bytes}
    (hBytes : s.segments.lookup segment = some bytes)
    (hGone : (acknowledge position s).2.segments.lookup segment ≠ some bytes) (offset : Nat) :
    { segment, offset } < position := by
  by_cases hAhead : position < s.readCheckpoint
  · rw [acknowledge, if_pos hAhead] at hGone
    exact (hGone hBytes).elim
  · rw [acknowledge_eq hAhead] at hGone
    by_cases hBefore : segment < position.segment
    · exact .inl hBefore
    · rw [lookup_acknowledged hBefore] at hGone
      exact (hGone hBytes).elim

theorem Safe.advances (h : Safe r) (step : SpoolStep α) :
    ¬ (runStep codec r step).spool.readCheckpoint < r.spool.readCheckpoint := by
  have hStays : ∀ r' : SpoolRun α, r'.spool.checkpoint = r.spool.checkpoint →
      ¬ r'.spool.readCheckpoint < r.spool.readCheckpoint := by
    intro r' hSame
    rw [readCheckpoint, hSame]
    exact SpoolPosition.lt_irrefl _
  cases step with
  | append command outcome =>
      have hCheckpoint := append_checkpoint codec r.spool command outcome
      apply hStays
      rw [runStep]
      split
      · next position spool hAppend => rw [← hCheckpoint, hAppend]
      · next error spool hAppend => rw [← hCheckpoint, hAppend]
  | crash command written => exact SpoolPosition.lt_irrefl _
  | replay =>
      rw [runStep, replay_eq codec h.placed.within]
      exact hStays _ (replayed_checkpoint codec _)
  | acknowledge position =>
      by_cases hAhead : position < r.spool.readCheckpoint
      · rw [runStep, CdrSpool.acknowledge, if_pos hAhead]
        exact SpoolPosition.lt_irrefl _
      · rw [runStep, acknowledge_eq hAhead]
        exact hAhead

/-- The checkpoint is safe whatever the segments hold: replays return, and cut segments behind it
only; what is deleted lies before it; and it never moves backwards. -/
theorem checkpoint_safe
    (hRun : Transition.ReachableWithin (contentSystem codec) (keepsFiles codec) r) :
    CheckpointSafe codec r := by
  have hSafe := Safe.of_run hRun
  have hWithin := hSafe.placed.within
  refine ⟨?_, ?_, ?_, ?_, ?_⟩
  · rw [replay_eq codec hWithin]
    exact ⟨_, rfl⟩
  · rw [replay_eq codec hWithin, replay_eq codec (hSafe.placed.replayed codec).within,
      entries_replayed]
  · intro segment bytes hBytes
    rw [replay_eq codec hWithin]
    exact lookup_replayed codec hWithin hBytes
  · intro position _ segment bytes hBytes hGone offset
    exact deleted_before hBytes hGone offset
  · rintro step _ ⟨_, rfl⟩
    exact hSafe.advances step

/-- The last segment that there can be, full of empty frames of which the first is acknowledged. -/
def fullSpool : CdrSpool where
  segments := [(u64Max, List.replicate segmentSizeLimit 0)]
  ascending := List.pairwise_singleton _ _
  checkpoint := some { segment := u64Max, offset := 8 }
  quarantine _ _ := none

theorem init_full :
    (contentSystem tornCodec).init { spool := fullSpool, pending := [], seen := [] } := by
  refine ⟨?_, ?_, rfl⟩
  · rintro position hPosition
    obtain rfl := Option.some.inj hPosition
    refine ⟨List.replicate segmentSizeLimit 0, if_pos rfl, ?_⟩
    rw [List.length_replicate]
    decide
  · intro segment hMem
    exact Nat.le_of_eq (List.mem_singleton.mp hMem)

theorem init_content_start : (contentSystem tornCodec).init .start :=
  ⟨fun _ hPosition => (Option.some_ne_none _ hPosition.symm).elim,
    fun _ hMem => (List.not_mem_nil hMem).elim, rfl⟩

set_option maxRecDepth 20000 in
/-- Behind two appends, a replay and an acknowledgement an append fails. -/
theorem checkpoint_safe_full :
    CheckpointSafe tornCodec { spool := fullSpool, pending := [], seen := [] } ∧
      CheckpointSafe tornCodec
        (runStep tornCodec acknowledgedRun (.append shortCommand (.failed 3))) := by
  refine ⟨checkpoint_safe ⟨_, init_full, .refl⟩, ?_⟩
  have hStep : ∀ {r : SpoolRun CdrWriteCommand} (step : SpoolStep CdrWriteCommand),
      Transition.ReachableWithin (contentSystem tornCodec) (keepsFiles tornCodec) r →
      keepsFiles tornCodec r step → allowed tornCodec r step →
      Transition.ReachableWithin (contentSystem tornCodec) (keepsFiles tornCodec)
        (runStep tornCodec r step) :=
    fun step hRun hKeeps hAllowed => hRun.step hKeeps ⟨hAllowed, rfl⟩
  have hFirst := hStep (.append shortCommand .synced) ⟨_, init_content_start, .refl⟩ trivial trivial
  have hSecond := hStep (.append shortCommand .synced) hFirst trivial trivial
  have hReplayed := hStep .replay hSecond trivial trivial
  have hAcknowledged := hStep (.acknowledge _) hReplayed trivial acknowledgedRun_seen
  have hRoom : acknowledgedRun.spool.saturates (frameOf tornCodec shortCommand).length = false := by
    decide +kernel
  exact checkpoint_safe (hStep (.append shortCommand (.failed 3)) hAcknowledged hRoom trivial)

/-- An append that fails when the last segment number is taken empties the segment. -/
theorem append_failed_saturated {command : α} {bytes : Bytes} (written : Nat)
    (hFits : (codec.encode spoolSchemaVersion command).length ≤ maxFrameSize)
    (hSegments : s.segments = [(u64Max, bytes)])
    (hFull : isFull bytes.length (frameOf codec command).length = true) :
    ∃ error spool, append codec command (.failed written) s = (.error error, spool) ∧
      spool.segments = [(u64Max, [])] ∧ spool.readCheckpoint = s.readCheckpoint := by
  have hLatest : s.latest = some u64Max :=
    latest_of_segments (by rw [hSegments, List.nil_append])
  have hTarget : s.appendTarget (frameOf codec command).length = (u64Max, 0) := by
    rw [appendTarget, hLatest, Option.getD_some, lengthOf, hSegments, OrdMap.lookup, if_pos rfl]
    simp only [Option.map_some, Option.getD_some, hFull, if_true]
    rfl
  rw [append, if_neg (Nat.not_lt.mpr hFits)]
  simp only [hTarget]
  refine ⟨_, _, rfl, ?_, rfl⟩
  rw [truncate, write]
  simp only [hSegments, OrdMap.insert, OrdMap.adjust, if_true, List.take_zero]

/-- The checkpoint is then left behind the end of its segment. -/
theorem not_checkpointSafe_of_saturated {command : α} (bytes : Bytes) (offset written : Nat)
    (hFits : (codec.encode spoolSchemaVersion command).length ≤ maxFrameSize)
    (hSegments : r.spool.segments = [(u64Max, bytes)])
    (hFull : isFull bytes.length (frameOf codec command).length = true)
    (hCheckpoint : r.spool.readCheckpoint = { segment := u64Max, offset }) (hOffset : 0 < offset) :
    ¬ CheckpointSafe codec (runStep codec r (.append command (.failed written))) := by
  obtain ⟨error, spool, hAppend, hLeft, hStays⟩ :=
    append_failed_saturated written hFits hSegments hFull
  rw [runStep, hAppend]
  intro hSafe
  obtain ⟨entries, hReplay⟩ := hSafe.replays
  have hBeyond : ¬ spool.CheckpointWithin := by
    intro hWithin
    have hLength := hWithin [] (by rw [hStays.trans hCheckpoint, hLeft, OrdMap.lookup, if_pos rfl])
    rw [hStays.trans hCheckpoint] at hLength
    exact Nat.not_le.mpr hOffset hLength
  obtain ⟨reason, hError⟩ := replay_beyond codec hBeyond
  rw [hError] at hReplay
  cases hReplay

theorem isFull_full (length : Nat) (h : 0 < length) : isFull segmentSizeLimit length = true := by
  rw [isFull, satAdd64, segmentSizeLimit, u64Max, Bool.and_eq_true, decide_eq_true_eq,
    decide_eq_true_eq]
  omega

/-- An append that fails in a full segment with the last number takes the acknowledged frames. -/
theorem failed_append_empties_segment :
    ∃ r, Transition.Reachable (contentSystem tornCodec) r ∧ ¬ CheckpointSafe tornCodec r := by
  have hStart : Transition.Reachable (contentSystem tornCodec)
      { spool := fullSpool, pending := [], seen := [] } := ⟨_, init_full, .refl⟩
  have hRun := hStart.runs (.step (i := .append shortCommand (.failed 0)) (C := fun _ _ => True)
    .refl trivial ⟨trivial, rfl⟩)
  refine ⟨_, hRun, not_checkpointSafe_of_saturated (List.replicate segmentSizeLimit 0) 8 0
    shortCommand_fits rfl ?_ rfl (by decide)⟩
  rw [List.length_replicate]
  exact isFull_full _ (List.length_pos_iff.mpr frame_ne_nil)

end Runs

end CdrSpool

end VoipSwitch
