import VoipSwitch.Cdr.Queue
import VoipSwitch.Cdr.Record

/-! Runs of a spool: the writer appends, the domain's worker replays and acknowledges, and the
process may die in the middle of an append. What the runs are compared with is a plain queue of
the commands whose append succeeded. -/
namespace VoipSwitch

open Framed Keyed

namespace CdrSpool

/-- A spool and the queue that it stands for. -/
structure SpoolRun (α : Type) where
  spool : CdrSpool
  /-- The commands that were appended and are not acknowledged, with the positions that their
  appends returned. -/
  pending : List (SpoolPosition × α)
  /-- The positions that a replay has returned. -/
  seen : List SpoolPosition

inductive SpoolStep (α : Type) where
  | append (command : α) (outcome : WriteOutcome)
  /-- The process dies after it wrote this many bytes of a frame. -/
  | crash (command : α) (written : Nat)
  | replay
  | acknowledge (position : SpoolPosition)

section Steps

variable {α : Type}

def runStep (codec : Codec α) (r : SpoolRun α) : SpoolStep α → SpoolRun α
  | .append command outcome =>
    match append codec command outcome r.spool with
    | (.ok position, spool) => { r with spool, pending := r.pending ++ [(position, command)] }
    | (.error _, spool) => { r with spool }
  | .crash command written => { r with spool := crash codec command written r.spool }
  | .replay =>
    match replay codec r.spool with
    | (.ok entries, spool) => { r with spool, seen := entries.map (·.position) ++ r.seen }
    | (.error _, spool) => { r with spool }
  | .acknowledge position =>
    match acknowledge position r.spool with
    | (.ok _, spool) =>
      { r with spool, pending := r.pending.filter fun command => position < command.1 }
    | (.error _, spool) => { r with spool }

/-- A crash leaves a part of a frame that could be written; a position is acknowledged once a
replay has returned it. -/
def allowed (codec : Codec α) (r : SpoolRun α) : SpoolStep α → Prop
  | .crash command written =>
    (codec.encode spoolSchemaVersion command).length ≤ maxFrameSize ∧
      written < (frameOf codec command).length
  | .acknowledge position => position ∈ r.seen
  | _ => True

/-- Runs from a spool without segments, which has any checkpoint and any quarantine. -/
def spoolSystem (codec : Codec α) : Transition.System (SpoolRun α) (SpoolStep α) where
  init r := r.spool.segments = [] ∧ r.pending = [] ∧ r.seen = []
  next r step r' := allowed codec r step ∧ r' = runStep codec r step

theorem reachable_step {codec : Codec α} {C : SpoolRun α → SpoolStep α → Prop} {r : SpoolRun α}
    (h : Transition.ReachableWithin (spoolSystem codec) C r) (step : SpoolStep α) (hC : C r step)
    (hAllowed : allowed codec r step) :
    Transition.ReachableWithin (spoolSystem codec) C (runStep codec r step) :=
  h.step hC ⟨hAllowed, rfl⟩

/-- The payload of a command is read back as that command. -/
def roundTrips (codec : Codec α) (command : α) : Prop :=
  codec.decode (codec.encode spoolSchemaVersion command) = .ok (spoolSchemaVersion, command)

/-- The frame that is read back for a command. -/
def pieceFor (codec : Codec α) (command : α) : Piece :=
  pieceOf codec.check (codec.encode spoolSchemaVersion command)

theorem commandOf_pieceFor {codec : Codec α} {command : α} (h : roundTrips codec command) :
    commandOf codec (pieceFor codec command) = .ok command := by
  rw [commandOf, pieceFor, pieceOf]
  simp only [ne_eq, not_true_eq_false, if_false]
  rw [h]
  rfl

variable {codec : Codec α} {r : SpoolRun α}

/-- The frames of the commands that are pending. -/
def pendingFrames (codec : Codec α) (r : SpoolRun α) : List (SpoolPosition × Piece) :=
  r.pending.map fun command => (command.1, pieceFor codec command.2)

/-- Positions that a replay has returned: each is acknowledged or the end of a frame. -/
def Seen (s : CdrSpool) (positions : List SpoolPosition) : Prop :=
  ∀ position ∈ positions, ¬ s.readCheckpoint < position ∨ position ∈ s.frames.map Prod.fst

/-- The spool holds the queue, perhaps among remains of torn frames. -/
structure Holds (codec : Codec α) (r : SpoolRun α) : Prop where
  frames : (pendingFrames codec r).Sublist r.spool.frames
  within : r.spool.CheckpointWithin
  reached : r.spool.CheckpointReached
  seen : Seen r.spool r.seen
  readable : ∀ command ∈ r.pending, roundTrips codec command.2

/-- A replay shows the queue. -/
theorem Holds.write_mem (h : Holds codec r) {command : SpoolPosition × α}
    (hMem : command ∈ r.pending) : .write command.1 command.2 ∈ r.spool.entries codec := by
  rw [entries_eq, List.mem_map]
  refine ⟨(command.1, pieceFor codec command.2), h.frames.subset (List.mem_map_of_mem hMem), ?_⟩
  rw [entryOf, commandOf_pieceFor (h.readable command hMem)]

theorem Seen.write {s : CdrSpool} {positions : List SpoolPosition} {segment offset : Nat}
    (h : Seen s positions) (hTarget : s.Target segment offset) (hWithin : s.CheckpointWithin)
    (more : Bytes) : Seen (s.write segment more) positions := by
  obtain ⟨added, hAdded⟩ := frames_write_prefix hTarget hWithin more
  intro position hSeen
  rw [hAdded, List.map_append, List.mem_append]
  exact (h position hSeen).imp id .inl

/-- Something is written to the end of the spool. -/
theorem Holds.write {segment offset : Nat} (h : Holds codec r)
    (hTarget : r.spool.Target segment offset) (more : Bytes) :
    Holds codec { r with spool := r.spool.write segment more } := by
  obtain ⟨added, hAdded⟩ := frames_write_prefix hTarget h.within more
  constructor
  · rw [hAdded]
    exact h.frames.trans (List.sublist_append_left _ _)
  · exact h.within.write hTarget more
  · exact h.reached.write hTarget more
  · exact h.seen.write hTarget h.within more
  · exact h.readable

theorem maxFrameSize_lt : maxFrameSize < 2 ^ 32 := by decide

/-- The frame of a command is written behind a complete frame. -/
theorem frames_append {s : CdrSpool} {command : α} (hReached : s.CheckpointReached)
    (hWithin : s.CheckpointWithin)
    (hFits : (codec.encode spoolSchemaVersion command).length ≤ maxFrameSize)
    (hRoom : s.saturates (frameOf codec command).length = false)
    (hClean : s.endsClean (frameOf codec command).length = true) :
    (s.write (s.appendTarget (frameOf codec command).length).1 (frameOf codec command)).frames =
      s.frames ++ [({ segment := (s.appendTarget (frameOf codec command).length).1
                      offset := (s.appendTarget (frameOf codec command).length).2 +
                        (frameOf codec command).length }, pieceFor codec command)] := by
  rw [endsClean, decide_eq_true_eq] at hClean
  have hScan : scan maxFrameSize (frameOf codec command) =
      { pieces := [pieceFor codec command], rest := [], stop := .clean } :=
    scan_frame hFits maxFrameSize_lt
  rw [frames_write (target_of_append hReached hRoom) hReached hWithin hClean, hScan]
  rfl

theorem Holds.append {command : α} {outcome : WriteOutcome} (h : Holds codec r)
    (hRoom : r.spool.saturates (frameOf codec command).length = false)
    (hSynced : outcome = .synced → roundTrips codec command ∧
      r.spool.endsClean (frameOf codec command).length = true) :
    Holds codec (runStep codec r (.append command outcome)) := by
  have hTarget := target_of_append h.reached hRoom
  by_cases hFits : maxFrameSize < (codec.encode spoolSchemaVersion command).length
  · obtain ⟨error, hRefused⟩ := append_oversized (s := r.spool) outcome hFits
    rw [runStep, hRefused]
    exact h
  · rw [Nat.not_lt] at hFits
    cases outcome with
    | failed written =>
        rw [runStep, append_failed hFits hTarget]
        exact h.write hTarget []
    | synced =>
        obtain ⟨hTrip, hClean⟩ := hSynced rfl
        have hWritten := h.write hTarget (frameOf codec command)
        rw [runStep, append_synced hFits]
        refine ⟨?_, hWritten.within, hWritten.reached, hWritten.seen, ?_⟩
        · rw [pendingFrames, List.map_append,
            frames_append h.reached h.within hFits hRoom hClean]
          exact h.frames.append (List.Sublist.refl _)
        · intro appended hMem
          rcases List.mem_append.mp hMem with hOld | hNew
          · exact h.readable appended hOld
          · rw [List.mem_singleton.mp hNew]
            exact hTrip

theorem CheckpointWithin.replayed {s : CdrSpool} (codec : Codec α) (h : s.CheckpointWithin) :
    (s.replayed codec).CheckpointWithin := by
  intro bytes hBytes
  rw [readCheckpoint_replayed] at hBytes ⊢
  rw [replayed_segments, OrdMap.lookup_mapValues, Option.map_eq_some_iff] at hBytes
  obtain ⟨before, hBefore, rfl⟩ := hBytes
  have hOffset := h before hBefore
  rw [kept, if_neg (Nat.lt_irrefl _), startOf, if_pos rfl, List.length_take]
  omega

theorem latest_replayed (codec : Codec α) (s : CdrSpool) :
    (s.replayed codec).latest = s.latest := by
  rw [latest, replayed_segments, OrdMap.mapValues, List.getLast?_map, Option.map_map, latest]
  rfl

theorem Seen.replayed {s : CdrSpool} {positions : List SpoolPosition} (codec : Codec α)
    (h : Seen s positions) :
    Seen (s.replayed codec) ((s.entries codec).map (·.position) ++ positions) := by
  intro position hSeen
  rw [readCheckpoint_replayed, frames_replayed]
  rcases List.mem_append.mp hSeen with hNew | hOld
  · right
    rw [entries_eq, List.map_map] at hNew
    obtain ⟨located, hMem, rfl⟩ := List.mem_map.mp hNew
    rw [Function.comp_apply, position_entryOf]
    exact List.mem_map_of_mem hMem
  · exact h position hOld

theorem CheckpointReached.replayed {s : CdrSpool} (codec : Codec α) (h : s.CheckpointReached) :
    (s.replayed codec).CheckpointReached := by
  intro segment hLatest
  rw [latest_replayed] at hLatest
  rw [readCheckpoint_replayed]
  exact h segment hLatest

theorem Holds.replayed (h : Holds codec r) : Holds codec (runStep codec r .replay) := by
  rw [runStep, replay_eq codec h.within]
  constructor
  · rw [frames_replayed]
    exact h.frames
  · exact h.within.replayed codec
  · exact h.reached.replayed codec
  · exact h.seen.replayed codec
  · exact h.readable

theorem Boundary.length_le {s : CdrSpool} {position : SpoolPosition} (h : s.Boundary position)
    (hWithin : s.CheckpointWithin) {bytes : Bytes}
    (hBytes : s.segments.lookup position.segment = some bytes) :
    position.offset ≤ bytes.length := by
  obtain ⟨first, later, hPieces, hOffset⟩ := h.frame bytes hBytes
  have hStart : startOf s.readCheckpoint position.segment ≤ bytes.length :=
    start_le_length hWithin (OrdMap.mem_of_lookup hBytes)
  have hWhole := congrArg List.length
    (scan_partition maxFrameSize (bytes.drop (startOf s.readCheckpoint position.segment)))
  rw [fileScan] at hPieces
  simp only at hPieces
  rw [hPieces, joined_append, List.length_append, List.length_append, List.length_drop] at hWhole
  omega

theorem lookup_acknowledged {s : CdrSpool} {position : SpoolPosition} {segment : Nat}
    (h : ¬ segment < position.segment) :
    (s.acknowledged position).segments.lookup segment = s.segments.lookup segment := by
  rw [acknowledged]
  simp only
  induction s.segments with
  | nil => rfl
  | cons file files ih =>
      by_cases hSame : file.1 = segment
      · rw [List.filter_cons_of_pos (by simpa [hSame] using h), OrdMap.lookup, if_pos hSame,
          OrdMap.lookup, if_pos hSame]
      · rw [OrdMap.lookup, if_neg hSame, List.filter_cons]
        split
        · rw [OrdMap.lookup, if_neg hSame, ih]
        · exact ih

theorem CheckpointWithin.acknowledged {s : CdrSpool} {position : SpoolPosition}
    (h : s.CheckpointWithin) (hBoundary : s.Boundary position) :
    (s.acknowledged position).CheckpointWithin := by
  intro bytes hBytes
  have hCheckpoint : (s.acknowledged position).readCheckpoint = position := rfl
  rw [hCheckpoint] at hBytes ⊢
  rw [lookup_acknowledged (Nat.lt_irrefl _)] at hBytes
  exact hBoundary.length_le h hBytes

theorem acknowledged_reached (s : CdrSpool) (position : SpoolPosition) :
    (s.acknowledged position).CheckpointReached := by
  intro segment hLatest
  obtain ⟨files, bytes, hSegments⟩ := segments_of_latest hLatest
  have hMem : (segment, bytes) ∈ (s.acknowledged position).segments := by
    rw [hSegments]
    simp
  have hKept := (List.mem_filter.mp hMem).2
  simp only [decide_eq_true_eq, Nat.not_lt] at hKept
  exact hKept

/-- A position that was seen and is not acknowledged yet is the end of a frame. -/
theorem Seen.boundary {s : CdrSpool} {positions : List SpoolPosition} (h : Seen s positions)
    {position : SpoolPosition} (hSeen : position ∈ positions)
    (hAhead : ¬ position < s.readCheckpoint) : s.Boundary position := by
  rcases h position hSeen with hBehind | hFrame
  · have hSame : position = s.readCheckpoint := SpoolPosition.eq_of_not_lt hAhead hBehind
    rw [hSame]
    exact .checkpoint _
  · obtain ⟨located, hMem, rfl⟩ := List.mem_map.mp hFrame
    exact .of_mem hMem

theorem Seen.acknowledged {s : CdrSpool} {positions : List SpoolPosition}
    {position : SpoolPosition} (h : Seen s positions) (hBoundary : s.Boundary position) :
    Seen (s.acknowledged position) positions := by
  intro other hOther
  show ¬ position < other ∨ other ∈ (s.acknowledged position).frames.map Prod.fst
  rw [frames_acknowledged hBoundary]
  by_cases hBehind : position < other
  · right
    rcases h other hOther with hOld | hFrame
    · exact (hOld (SpoolPosition.lt_of_not_lt hBoundary.ahead hBehind)).elim
    · obtain ⟨located, hMem, rfl⟩ := List.mem_map.mp hFrame
      exact List.mem_map_of_mem (List.mem_filter.mpr ⟨hMem, decide_eq_true hBehind⟩)
  · exact .inl hBehind

theorem pendingFrames_filter (codec : Codec α) (r : SpoolRun α) (spool : CdrSpool)
    (position : SpoolPosition) :
    pendingFrames codec { r with
        spool := spool, pending := r.pending.filter fun command => position < command.1 } =
      (pendingFrames codec r).filter fun located => position < located.1 := by
  rw [pendingFrames, pendingFrames, List.filter_map]
  rfl

theorem Holds.acknowledge {position : SpoolPosition} (h : Holds codec r)
    (hSeen : position ∈ r.seen) : Holds codec (runStep codec r (.acknowledge position)) := by
  rw [runStep]
  by_cases hAhead : position < r.spool.readCheckpoint
  · rw [CdrSpool.acknowledge, if_pos hAhead]
    exact h
  · have hBoundary := h.seen.boundary hSeen hAhead
    rw [acknowledge_eq hAhead]
    constructor
    · show List.Sublist _ (r.spool.acknowledged position).frames
      rw [frames_acknowledged hBoundary, pendingFrames_filter]
      exact h.frames.filter _
    · exact h.within.acknowledged hBoundary
    · exact acknowledged_reached _ _
    · exact h.seen.acknowledged hBoundary
    · exact fun command hMem => h.readable command (List.mem_filter.mp hMem).1

/-- The steps that have a segment number left for what they write, and append only what can
be read back and only behind a complete frame. -/
def writesClean (codec : Codec α) (r : SpoolRun α) : SpoolStep α → Prop
  | .append command outcome =>
    r.spool.saturates (frameOf codec command).length = false ∧
      (outcome = .synced → roundTrips codec command ∧
        r.spool.endsClean (frameOf codec command).length = true)
  | .crash command _ => r.spool.saturates (frameOf codec command).length = false
  | _ => True

theorem Holds.init (h : (spoolSystem codec).init r) : Holds codec r := by
  obtain ⟨hSegments, hPending, hSeen⟩ := h
  constructor
  · rw [pendingFrames, hPending]
    exact List.nil_sublist _
  · intro bytes hBytes
    rw [hSegments, OrdMap.lookup_nil] at hBytes
    simp at hBytes
  · intro segment hLatest
    rw [latest, hSegments] at hLatest
    simp at hLatest
  · rw [hSeen]
    exact fun _ hMem => (List.not_mem_nil hMem).elim
  · rw [hPending]
    exact fun _ hMem => (List.not_mem_nil hMem).elim

theorem Holds.step {step : SpoolStep α} (h : Holds codec r) (hAllowed : allowed codec r step)
    (hClean : writesClean codec r step) : Holds codec (runStep codec r step) := by
  cases step with
  | append command outcome => exact h.append hClean.1 hClean.2
  | crash command written => exact h.write (target_of_append h.reached hClean) _
  | replay => exact h.replayed
  | acknowledge position => exact h.acknowledge hAllowed

/-- Every command that was appended is replayed until it is acknowledged, whatever crashes
happen, as long as nothing is written behind a torn frame. -/
theorem appended_commands_replayed
    (hRun : Transition.ReachableWithin (spoolSystem codec) (writesClean codec) r) :
    ∃ entries, (replay codec r.spool).1 = .ok entries ∧
      ∀ position command, (position, command) ∈ r.pending → .write position command ∈ entries := by
  have hHolds : Holds codec r := by
    apply hRun.invariant
    · exact fun r hInit => .init hInit
    · rintro r step _ h hClean ⟨hAllowed, rfl⟩
      exact h.step hAllowed hClean
  rw [replay_eq codec hHolds.within]
  exact ⟨_, rfl, fun position command hMem => hHolds.write_mem hMem⟩

/-- A run of a new spool. -/
def SpoolRun.start : SpoolRun α := { spool := .empty, pending := [], seen := [] }

theorem init_start : (spoolSystem codec).init SpoolRun.start := ⟨rfl, rfl, rfl⟩

end Steps

section Torn

/-- The process dies behind the header of the frame of a long command. -/
def tornCommand : CdrWriteCommand := sampleCommand "call-with-a-longer-name"

def shortCommand : CdrWriteCommand := sampleCommand "call-1"

def tornCodec : Codec CdrWriteCommand := spoolCodec (.knowing [shortCommand.document])

def tornRun : SpoolRun CdrWriteCommand := runStep tornCodec .start (.crash tornCommand 8)

theorem allowed_torn : allowed tornCodec .start (.crash tornCommand 8) := by
  refine ⟨?_, ?_⟩
  · decide +kernel
  · decide +kernel

theorem shortCommand_fits :
    (tornCodec.encode spoolSchemaVersion shortCommand).length ≤ maxFrameSize := by
  decide +kernel

theorem shortCommand_roundTrips : roundTrips tornCodec shortCommand := by
  rw [roundTrips, tornCodec]
  exact decode_encode_of_none (JsonText.knowing_readsBack shortCommand) rfl

def appendedRun : SpoolRun CdrWriteCommand :=
  runStep tornCodec (runStep tornCodec .start (.append shortCommand .synced))
    (.append shortCommand .synced)

/-- Two commands are appended to a new spool and replayed, and the first is acknowledged. -/
def acknowledgedRun : SpoolRun CdrWriteCommand :=
  runStep tornCodec (runStep tornCodec appendedRun .replay)
    (.acknowledge { segment := 1, offset := 969 })

set_option maxRecDepth 20000 in
theorem acknowledgedRun_seen :
    { segment := 1, offset := 969 } ∈ (runStep tornCodec appendedRun .replay).seen := by
  decide +kernel

/-- The length in the torn header reaches over the frame that is appended behind it. -/
theorem torn_frame_swallows_command :
    ∃ r, Transition.Reachable (spoolSystem tornCodec) r ∧
      ∃ position command, (position, command) ∈ r.pending ∧
        ∃ entries, (replay tornCodec r.spool).1 = .ok entries ∧
          .write position command ∉ entries := by
  have hStart : Transition.Reachable (spoolSystem tornCodec) .start := ⟨_, init_start, .refl⟩
  have hCrash := reachable_step hStart (.crash tornCommand 8) trivial allowed_torn
  have hAppend := reachable_step hCrash (.append shortCommand .synced) trivial trivial
  have hEmpty : (match (replay tornCodec (append tornCodec shortCommand .synced tornRun.spool).2).1
      with | .ok entries => entries.isEmpty | .error _ => false) = true := by
    decide +kernel
  rw [runStep, append_synced shortCommand_fits] at hAppend
  rw [append_synced shortCommand_fits] at hEmpty
  refine ⟨_, hAppend, _, shortCommand, List.mem_append_right _ (.head _), ?_⟩
  split at hEmpty
  · next entries hReplay =>
      refine ⟨entries, hReplay, ?_⟩
      rw [List.isEmpty_iff.mp hEmpty]
      exact List.not_mem_nil
  · simp at hEmpty

/-- A replay after the crash repairs the segment, and the command that follows is kept. -/
theorem appended_commands_replayed_torn :
    ∃ entries, (replay tornCodec
        (runStep tornCodec (runStep tornCodec tornRun .replay)
          (.append shortCommand .synced)).spool).1 = .ok entries ∧
      ∀ position command, (position, command) ∈ (runStep tornCodec
          (runStep tornCodec tornRun .replay) (.append shortCommand .synced)).pending →
        .write position command ∈ entries := by
  have hRoom : CdrSpool.empty.saturates (frameOf tornCodec tornCommand).length = false := by
    decide
  have hNext : (runStep tornCodec tornRun .replay).spool.saturates
      (frameOf tornCodec shortCommand).length = false := by
    decide +kernel
  have hClean : (runStep tornCodec tornRun .replay).spool.endsClean
      (frameOf tornCodec shortCommand).length = true := by
    decide +kernel
  have hStart : Transition.ReachableWithin (spoolSystem tornCodec) (writesClean tornCodec) .start :=
    ⟨_, init_start, .refl⟩
  have hCrash := reachable_step hStart (.crash tornCommand 8) hRoom allowed_torn
  have hReplay := reachable_step hCrash .replay trivial trivial
  apply appended_commands_replayed
  exact reachable_step hReplay (.append shortCommand .synced)
    ⟨hNext, fun _ => ⟨shortCommand_roundTrips, hClean⟩⟩ trivial

end Torn

end CdrSpool

end VoipSwitch
