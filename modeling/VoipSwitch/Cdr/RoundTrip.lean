import VoipSwitch.Cdr.Record
import VoipSwitch.Cdr.Fifo

/-! What becomes of a command that is appended and replayed. -/
namespace VoipSwitch

open Document Framed Keyed

namespace CdrSpool

/-- Complete frames throughout, a checkpoint in the right place, and segment numbers left. -/
structure WellFormed (s : CdrSpool) : Prop where
  within : s.CheckpointWithin
  reached : s.CheckpointReached
  clean : s.Clean
  numbered : s.readCheckpoint.segment < u64Max ∧ ∀ segment ∈ s.segments.keys, segment < u64Max

variable {s : CdrSpool}

theorem WellFormed.room (h : s.WellFormed) (length : Nat) : s.saturates length = false := by
  rw [saturates]
  split
  · exact decide_eq_false (Nat.not_le.mpr h.numbered.1)
  · next segment hLatest =>
      obtain ⟨files, bytes, hSegments⟩ := segments_of_latest hLatest
      have hMem : segment ∈ s.segments.keys := by
        rw [hSegments, OrdMap.keys]
        simp
      have hBelow := h.numbered.2 segment hMem
      rw [Bool.and_eq_false_iff, decide_eq_false_iff_not]
      exact .inl (Nat.not_le.mpr hBelow)

theorem WellFormed.empty : CdrSpool.empty.WellFormed where
  within bytes hBytes := by simp [CdrSpool.empty, OrdMap.lookup_nil] at hBytes
  reached segment hLatest := by simp [CdrSpool.empty, latest] at hLatest
  clean segment bytes hBytes := by simp [CdrSpool.empty, OrdMap.lookup_nil] at hBytes
  numbered := ⟨by decide, fun _ hMem => (List.not_mem_nil hMem).elim⟩

section Append

variable {α : Type} {codec : Codec α} {command : α}

/-- What an append and a replay behind it return. -/
theorem WellFormed.replay_append (h : s.WellFormed)
    (hFits : (codec.encode spoolSchemaVersion command).length ≤ maxFrameSize) :
    ∃ position spool entries, append codec command .synced s = (.ok position, spool) ∧
      (replay codec spool).1 = .ok (entries ++ [entryOf codec position (pieceFor codec command)]) ∧
      ∀ entry ∈ entries, entry.position < position := by
  have hRoom := h.room (frameOf codec command).length
  have hTarget := target_of_append h.reached hRoom
  have hEnds : s.endsClean (frameOf codec command).length = true :=
    decide_eq_true (h.clean.target h.reached hTarget)
  have hFrames := frames_append h.reached h.within hFits hRoom hEnds
  have hSorted := frames_sorted (s.write (s.appendTarget (frameOf codec command).length).1
    (frameOf codec command))
  rw [hFrames, List.pairwise_append] at hSorted
  refine ⟨_, _, s.entries codec, append_synced hFits, ?_, ?_⟩
  · rw [replay_eq codec (h.within.write hTarget _), entries_eq, hFrames, List.map_append,
      ← entries_eq]
    rfl
  · intro entry hMem
    rw [entries_eq] at hMem
    obtain ⟨located, hLocated, rfl⟩ := List.mem_map.mp hMem
    rw [position_entryOf]
    exact hSorted.2.2 located hLocated _ (.head _)

end Append

/-- The command comes back from a replay, at the position that its append returned. -/
def ComesBack (codec : Codec CdrWriteCommand) (command : CdrWriteCommand) (s : CdrSpool) : Prop :=
  ∃ position spool entries, append codec command .synced s = (.ok position, spool) ∧
    (replay codec spool).1 = .ok entries ∧ .write position command ∈ entries ∧
    ∀ reason, .quarantined position reason ∉ entries

section Recording

variable {text : JsonText} {command : CdrWriteCommand}

theorem comesBack_of_none (hText : text.ReadsBack command)
    (hFits : ((spoolCodec text).encode spoolSchemaVersion command).length ≤ maxFrameSize)
    (hSpool : s.WellFormed) (hRecording : command.recording = none) :
    ComesBack (spoolCodec text) command s := by
  obtain ⟨position, spool, earlier, hAppend, hReplay, hBefore⟩ := hSpool.replay_append hFits
  have hTrip : roundTrips (spoolCodec text) command := decode_encode_of_none hText hRecording
  refine ⟨position, spool, _, hAppend, hReplay, ?_, ?_⟩
  · rw [entryOf, commandOf_pieceFor hTrip]
    exact List.mem_append_right _ (.head _)
  · intro reason hMem
    rcases List.mem_append.mp hMem with hOld | hNew
    · have hLess := hBefore _ hOld
      rw [ReplayEntry.position, SpoolPosition.lt_iff] at hLess
      omega
    · rw [entryOf, commandOf_pieceFor hTrip] at hNew
      simp at hNew

/-- The frame of a command with a recording is quarantined. -/
theorem not_comesBack_of_some (hText : text.ReadsBack command)
    (hFits : ((spoolCodec text).encode spoolSchemaVersion command).length ≤ maxFrameSize)
    (hSpool : s.WellFormed) (hRecording : command.recording.isSome) :
    ¬ ComesBack (spoolCodec text) command s := by
  obtain ⟨position, spool, earlier, hAppend, hReplay, _⟩ := hSpool.replay_append hFits
  have hDecode := decode_encode hText
  rw [if_pos hRecording] at hDecode
  have hRefused : ∃ reason, commandOf (spoolCodec text) (pieceFor (spoolCodec text) command) =
      .error reason := by
    rw [commandOf, pieceFor, pieceOf]
    simp only [ne_eq, not_true_eq_false, if_false, hDecode]
    exact ⟨_, rfl⟩
  obtain ⟨reason, hReason⟩ := hRefused
  rintro ⟨_, _, entries, hAppend', hReplay', _, hNone⟩
  rw [hAppend] at hAppend'
  obtain ⟨rfl, rfl⟩ : position = _ ∧ spool = _ := by simpa using hAppend'
  obtain rfl := Except.ok.inj (hReplay.symm.trans hReplay')
  refine hNone reason (List.mem_append_right _ ?_)
  rw [entryOf, hReason]
  exact .head _

/-- A command comes back from any well-formed spool exactly if it has no recording: the place where
one is stored is never written, and is missed when it is read. -/
theorem comesBack_iff (hText : text.ReadsBack command)
    (hFits : ((spoolCodec text).encode spoolSchemaVersion command).length ≤ maxFrameSize)
    (hSpool : s.WellFormed) :
    ComesBack (spoolCodec text) command s ↔ command.recording = none := by
  constructor
  · intro h
    by_contra hSome
    exact not_comesBack_of_some hText hFits hSpool (Option.isSome_iff_ne_none.mpr hSome) h
  · exact comesBack_of_none hText hFits hSpool

/-- A command without a recording comes back. -/
theorem comesBack_iff_sample :
    ComesBack (spoolCodec (.knowing [(sampleCommand "call-1").document])) (sampleCommand "call-1")
      .empty :=
  (comesBack_iff (JsonText.knowing_readsBack _) (by decide +kernel) WellFormed.empty).mpr rfl

/-- The recording of an answered call. -/
def sampleRecording : RecordingRecord where
  recordingId := "recording-1"
  callId := "call-1"
  domainId := "domain-a"
  status := "complete"
  callerNumber := "1001"
  calleeNumber := "1002"
  startedAtMs := 100
  endedAtMs := some 200
  durationMs := 100
  format := "wav"
  sampleRate := 8000
  channelCount := 2
  fileName := "call-1.wav"
  storageRoot := "/var/lib/voipswitch/recordings"
  storagePath := "/var/lib/voipswitch/recordings/domain-a/call-1.wav"
  fileSizeBytes := 3200
  packetsTapped := 10
  packetsDropped := 0
  errorCode := none
  errorMessage := none

def recordedCommand : CdrWriteCommand :=
  { sampleCommand "call-1" with recording := some sampleRecording }

/-- The CDR of a recorded call does not come back. -/
theorem recorded_call_quarantined :
    ¬ ComesBack (spoolCodec (.knowing [recordedCommand.document])) recordedCommand .empty :=
  not_comesBack_of_some (JsonText.knowing_readsBack _) (by decide +kernel) WellFormed.empty rfl

end Recording

end CdrSpool

end VoipSwitch
