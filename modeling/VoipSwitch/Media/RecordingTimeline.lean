import VoipSwitch.Media.Recorder

/-! The media time of a recorded channel. A writer knows the packet before only; it keeps the time
as long as no packet falls behind that one or ends before what is recorded, and loses it with the
first packet that does. -/
namespace VoipSwitch.Media.Recording

/-- A packet whose samples came in one datagram. -/
structure VoicePacket where
  timestamp : UInt32
  samples : List Int16
  observedAt : Nat
  short : samples.length ≤ u16Max

namespace ChannelWriter

def record (writer : ChannelWriter) (packet : VoicePacket) : ChannelWriter :=
  writer.writePacket packet.timestamp packet.samples packet.observedAt

def sampleCount (writer : ChannelWriter) : Nat := writer.file.length / 2

end ChannelWriter

/-- The media time with this timestamp that is nearest to the given one. -/
def place (latest : Int) (timestamp : UInt32) : Int :=
  latest + Int.bmod (timestamp.toNat - latest) (2 ^ 32)

/-- The start of the packet before, and the latest media time of all packets. -/
structure Timeline where
  last : Int
  latest : Int

namespace Timeline

def first (packet : VoicePacket) : Timeline where
  last := packet.timestamp.toNat
  latest := packet.timestamp.toNat + packet.samples.length

def start (timeline : Timeline) (packet : VoicePacket) : Int :=
  place timeline.latest packet.timestamp

def finish (timeline : Timeline) (packet : VoicePacket) : Int :=
  timeline.start packet + packet.samples.length

def next (timeline : Timeline) (packet : VoicePacket) : Timeline where
  last := timeline.start packet
  latest := max timeline.latest (timeline.finish packet)

/-- The packet does not fall behind the one before, and does not end before what is recorded. -/
def InOrder (timeline : Timeline) (packet : VoicePacket) : Prop :=
  timeline.last ≤ timeline.start packet ∧ timeline.latest ≤ timeline.finish packet

instance (timeline : Timeline) (packet : VoicePacket) : Decidable (timeline.InOrder packet) :=
  inferInstanceAs (Decidable (_ ∧ _))

def AllInOrder : Timeline → List VoicePacket → Prop
  | _, [] => True
  | timeline, packet :: packets =>
    timeline.InOrder packet ∧ AllInOrder (timeline.next packet) packets

def decideAllInOrder :
    (packets : List VoicePacket) → (timeline : Timeline) → Decidable (timeline.AllInOrder packets)
  | [], _ => inferInstanceAs (Decidable True)
  | packet :: packets, timeline =>
    have := decideAllInOrder packets (timeline.next packet)
    inferInstanceAs (Decidable (_ ∧ _))

instance (timeline : Timeline) (packets : List VoicePacket) :
    Decidable (timeline.AllInOrder packets) := decideAllInOrder packets timeline

/-- A packet adds no more samples than new media time. A late one adds nothing, and the packets
that may follow it are written where they would have been without it. -/
structure KeepsTime (timeline : Timeline) (writer : ChannelWriter) (packet : VoicePacket) :
    Prop where
  growth : ((writer.record packet).sampleCount : Int) ≤
    writer.sampleCount + (max timeline.latest (timeline.finish packet) - timeline.latest)
  adds_nothing : timeline.finish packet ≤ timeline.latest →
    (writer.record packet).file = writer.file
  undisturbed : timeline.finish packet ≤ timeline.latest → ∀ following : VoicePacket,
    timeline.latest ≤ timeline.start following →
      ((writer.record packet).record following).file = (writer.record following).file

def AllKeepTime : Timeline → ChannelWriter → List VoicePacket → Prop
  | _, _, [] => True
  | timeline, writer, packet :: packets =>
    timeline.KeepsTime writer packet ∧
      AllKeepTime (timeline.next packet) (writer.record packet) packets

end Timeline

variable {writer : ChannelWriter} {timeline : Timeline} {packet following : VoicePacket}
  {latest time : Int} {timestamp last : UInt32} {count delta len : Nat}

section Place

theorem place_emod : place latest timestamp % 4294967296 = timestamp.toNat := by
  have hRange := timestamp.toNat_lt
  simp only [place, Int.bmod_def]
  omega

theorem place_range : latest - 2147483648 ≤ place latest timestamp ∧
    place latest timestamp < latest + 2147483648 := by
  simp only [place, Int.bmod_def]
  omega

/-- The timestamp of a media time. -/
def stampOf (time : Int) : UInt32 := UInt32.ofNat (time % 4294967296).toNat

theorem place_stampOf (hLow : latest - 2147483648 ≤ time) (hHigh : time < latest + 2147483648) :
    place latest (stampOf time) = time := by
  have hToNat : ((stampOf time).toNat : Int) = time % 4294967296 := by
    rw [stampOf, UInt32.toNat_ofNat']
    omega
  have hPlace := @place_emod latest (stampOf time)
  have hRange := @place_range latest (stampOf time)
  omega

/-- The distance between two timestamps, from their media times. -/
theorem toNat_sub_eq (hLast : (last.toNat : Int) = time % 4294967296) :
    ((timestamp - last).toNat : Int) = (place latest timestamp - time) % 4294967296 := by
  have hPlace := @place_emod latest timestamp
  have hRange := last.toNat_lt
  rw [UInt32.toNat_sub]
  omega

end Place

section Room

/-- The silence before a packet at the given distance from the one before. -/
def silenceAt (count delta : Nat) : Nat :=
  if count ≤ delta ∧ delta - count ≤ maxTimestampGapSamples then delta - count else 0

/-- How many samples of a packet at the given distance are there already. -/
def overlapAt (count delta len : Nat) : Nat :=
  if count ≤ delta then 0 else min (count - delta) len

theorem silenceAt_fits : silenceAt count delta * 2 ≤ u64Max := by
  rw [silenceAt]
  split
  · next hGap => exact Nat.le_trans (Nat.mul_le_mul_right 2 hGap.2) (by decide)
  · exact Nat.zero_le _

theorem record_file (hLast : writer.lastTimestamp = some last) (packet : VoicePacket) :
    (writer.record packet).file = writer.file ++
      List.replicate (silenceAt writer.lastSampleCount (packet.timestamp - last).toNat * 2) 0 ++
      (packet.samples.drop (overlapAt writer.lastSampleCount (packet.timestamp - last).toNat
        packet.samples.length)).flatMap sampleBytes := by
  have hFits := @silenceAt_fits writer.lastSampleCount (packet.timestamp - last).toNat
  rw [ChannelWriter.record, ChannelWriter.writePacket, ChannelWriter.makeRoom, hLast]
  rw [silenceAt] at hFits ⊢
  rw [overlapAt]
  simp only
  split
  · next hAhead =>
      split
      · next hGap =>
          rw [if_pos ⟨hAhead, hGap⟩] at hFits ⊢
          simp only [ChannelWriter.writeSilence, fillSilence_eq, Nat.min_eq_left hFits]
      · next hGap =>
          rw [if_neg (fun hBoth => hGap hBoth.2), Nat.zero_mul, List.replicate_zero,
            List.append_nil]
  · next hBehind =>
      rw [if_neg (fun hBoth => hBehind hBoth.1), Nat.zero_mul, List.replicate_zero,
        List.append_nil]

@[simp] theorem record_lastTimestamp :
    (writer.record packet).lastTimestamp = some packet.timestamp := rfl

@[simp] theorem record_lastSampleCount :
    (writer.record packet).lastSampleCount = packet.samples.length := rfl

theorem length_record_file (hLast : writer.lastTimestamp = some last) (packet : VoicePacket) :
    (writer.record packet).file.length = writer.file.length +
      (silenceAt writer.lastSampleCount (packet.timestamp - last).toNat +
        (packet.samples.length - overlapAt writer.lastSampleCount
          (packet.timestamp - last).toNat packet.samples.length)) * 2 := by
  rw [record_file hLast, List.length_append, List.length_append, List.length_replicate,
    length_flatMap_sampleBytes, List.length_drop]
  omega

end Room

namespace Timeline

/-- The writer knows where the packet before starts, and this one ends where the recorded media
time does. -/
structure Synced (timeline : Timeline) (writer : ChannelWriter) : Prop where
  stamped : ∃ last, writer.lastTimestamp = some last ∧
    (last.toNat : Int) = timeline.last % 4294967296
  latest_eq : timeline.latest = timeline.last + writer.lastSampleCount
  short : writer.lastSampleCount ≤ u16Max

/-- How far the packet is from the one before, as a writer in step sees it. -/
def offset (timeline : Timeline) (packet : VoicePacket) : Nat :=
  ((timeline.start packet - timeline.last) % 4294967296).toNat

theorem Synced.file_eq (h : timeline.Synced writer) (packet : VoicePacket) :
    (writer.record packet).file = writer.file ++
      List.replicate (silenceAt writer.lastSampleCount (timeline.offset packet) * 2) 0 ++
      (packet.samples.drop (overlapAt writer.lastSampleCount (timeline.offset packet)
        packet.samples.length)).flatMap sampleBytes := by
  obtain ⟨last, hLast, hStamp⟩ := h.stamped
  have hDelta : (packet.timestamp - last).toNat = timeline.offset packet := by
    have hSub := @toNat_sub_eq timeline.latest timeline.last packet.timestamp last hStamp
    rw [offset, start]
    omega
  rw [record_file hLast, hDelta]

theorem Synced.length_eq (h : timeline.Synced writer) (packet : VoicePacket) :
    (writer.record packet).file.length = writer.file.length +
      (silenceAt writer.lastSampleCount (timeline.offset packet) +
        (packet.samples.length - overlapAt writer.lastSampleCount (timeline.offset packet)
          packet.samples.length)) * 2 := by
  rw [h.file_eq, List.length_append, List.length_append, List.length_replicate,
    length_flatMap_sampleBytes, List.length_drop]
  omega

theorem Synced.offset_of_le (h : timeline.Synced writer)
    (hStart : timeline.last ≤ timeline.start packet) :
    (timeline.offset packet : Int) = timeline.start packet - timeline.last := by
  have hRange := @place_range timeline.latest packet.timestamp
  have hLatest := h.latest_eq
  have hShort := h.short
  rw [u16Max] at hShort
  rw [offset, start] at *
  omega

theorem Synced.offset_of_lt (h : timeline.Synced writer)
    (hStart : timeline.start packet < timeline.last) :
    (timeline.offset packet : Int) = timeline.start packet - timeline.last + 4294967296 := by
  have hRange := @place_range timeline.latest packet.timestamp
  have hLatest := h.latest_eq
  have hShort := h.short
  rw [u16Max] at hShort
  rw [offset, start] at *
  omega

/-- A packet behind the one before is taken for one that is far ahead. -/
theorem Synced.behind (h : timeline.Synced writer)
    (hStart : timeline.start packet < timeline.last) :
    silenceAt writer.lastSampleCount (timeline.offset packet) = 0 ∧
      overlapAt writer.lastSampleCount (timeline.offset packet) len = 0 := by
  have hOffset := h.offset_of_lt hStart
  have hRange := @place_range timeline.latest packet.timestamp
  have hLatest := h.latest_eq
  have hGap : maxTimestampGapSamples = 40000 := rfl
  rw [start] at hOffset hStart
  constructor
  · apply if_neg
    omega
  · apply if_pos
    omega

/-- Behind what is recorded, the rest of a packet is written. -/
theorem Synced.overlapping (h : timeline.Synced writer)
    (hStart : timeline.last ≤ timeline.start packet)
    (hBehind : timeline.start packet < timeline.latest) :
    silenceAt writer.lastSampleCount (timeline.offset packet) = 0 ∧
      (overlapAt writer.lastSampleCount (timeline.offset packet) len : Int) =
        min (timeline.latest - timeline.start packet) len := by
  have hOffset := h.offset_of_le hStart
  have hLatest := h.latest_eq
  rw [silenceAt, overlapAt]
  constructor
  · apply if_neg
    omega
  · rw [if_neg (by omega)]
    omega

/-- Ahead of what is recorded, a small enough gap is filled. -/
theorem Synced.ahead (h : timeline.Synced writer)
    (hStart : timeline.latest ≤ timeline.start packet) :
    (silenceAt writer.lastSampleCount (timeline.offset packet) : Int) =
        (if timeline.start packet - timeline.latest ≤ 40000 then
          timeline.start packet - timeline.latest else 0) ∧
      overlapAt writer.lastSampleCount (timeline.offset packet) len = 0 := by
  have hLatest := h.latest_eq
  have hOffset := h.offset_of_le (show timeline.last ≤ timeline.start packet by omega)
  have hGap : maxTimestampGapSamples = 40000 := rfl
  rw [silenceAt, overlapAt, hGap]
  constructor
  · split
    · rw [if_pos (by omega)]
      omega
    · rw [if_neg (by omega)]
      rfl
  · apply if_pos
    omega

theorem Synced.first (started : Nat) (packet : VoicePacket) :
    (Timeline.first packet).Synced (({ started } : ChannelWriter).record packet) where
  stamped := by
    refine ⟨packet.timestamp, rfl, ?_⟩
    have hRange := packet.timestamp.toNat_lt
    show (packet.timestamp.toNat : Int) = packet.timestamp.toNat % 4294967296
    omega
  latest_eq := rfl
  short := packet.short

theorem synced_next (hOrder : timeline.InOrder packet) :
    (timeline.next packet).Synced (writer.record packet) where
  stamped := ⟨packet.timestamp, rfl, place_emod.symm⟩
  latest_eq := max_eq_right hOrder.2
  short := packet.short

/-- In order, what a packet adds is at most what it reaches beyond the recorded media time. -/
theorem Synced.added_le (h : timeline.Synced writer) (hOrder : timeline.InOrder packet) :
    (silenceAt writer.lastSampleCount (timeline.offset packet) : Int) +
        (packet.samples.length - overlapAt writer.lastSampleCount (timeline.offset packet)
          packet.samples.length : Nat) ≤ timeline.finish packet - timeline.latest := by
  obtain ⟨hStart, hFinish⟩ := hOrder
  rw [finish] at *
  by_cases hBehind : timeline.start packet < timeline.latest
  · obtain ⟨hSilence, hOverlap⟩ := @Synced.overlapping _ _ _ packet.samples.length h hStart hBehind
    omega
  · obtain ⟨hSilence, hOverlap⟩ :=
      @Synced.ahead _ _ _ packet.samples.length h (Int.not_lt.mp hBehind)
    rw [hSilence, hOverlap]
    split
    · omega
    · omega

theorem sampleCount_record (h : timeline.Synced writer) (packet : VoicePacket) :
    (writer.record packet).sampleCount = writer.sampleCount +
      (silenceAt writer.lastSampleCount (timeline.offset packet) +
        (packet.samples.length - overlapAt writer.lastSampleCount (timeline.offset packet)
          packet.samples.length)) := by
  rw [ChannelWriter.sampleCount, ChannelWriter.sampleCount, h.length_eq]
  omega

/-- Nothing is written of a late packet that is in order. -/
theorem Synced.file_of_late (h : timeline.Synced writer) (hOrder : timeline.InOrder packet)
    (hLate : timeline.finish packet ≤ timeline.latest) :
    (writer.record packet).file = writer.file := by
  have hAdded := h.added_le hOrder
  have hSilence : silenceAt writer.lastSampleCount (timeline.offset packet) = 0 := by omega
  have hNone : packet.samples.length ≤ overlapAt writer.lastSampleCount (timeline.offset packet)
      packet.samples.length := by omega
  rw [h.file_eq, hSilence, List.drop_eq_nil_of_le hNone]
  simp

theorem Synced.keepsTime (h : timeline.Synced writer) (hOrder : timeline.InOrder packet) :
    timeline.KeepsTime writer packet where
  growth := by
    have hAdded := h.added_le hOrder
    rw [sampleCount_record h, max_eq_right hOrder.2]
    omega
  adds_nothing := h.file_of_late hOrder
  undisturbed hLate following hAfter := by
    have hNext := @synced_next writer timeline packet hOrder
    have hLatest : (timeline.next packet).latest = timeline.latest := max_eq_left hLate
    have hStart : (timeline.next packet).start following = timeline.start following := by
      rw [start, start, hLatest]
    have hOwn := @Synced.ahead _ _ _ following.samples.length h hAfter
    have hThen := @Synced.ahead _ _ following following.samples.length hNext
      (by rw [hLatest, hStart]; exact hAfter)
    rw [hLatest, hStart, ← hOwn.1] at hThen
    rw [hNext.file_eq, h.file_eq following, h.file_of_late hOrder hLate, hOwn.2, hThen.2,
      Int.ofNat_inj.mp hThen.1]

/-- One sample at the given media time. -/
def sampleAt (time : Int) : VoicePacket where
  timestamp := stampOf time
  samples := [0]
  observedAt := 0
  short := by decide

theorem start_sampleAt (hLow : timeline.latest - 2147483648 ≤ time)
    (hHigh : time < timeline.latest + 2147483648) : timeline.start (sampleAt time) = time :=
  place_stampOf hLow hHigh

/-- Where a sample soon after the recorded media time is written. -/
theorem Synced.length_sampleAt (h : timeline.Synced writer) {ahead : Nat} (hSoon : ahead ≤ 1) :
    (writer.record (sampleAt (timeline.latest + ahead))).file.length =
      writer.file.length + (ahead + 1) * 2 := by
  have hStart : timeline.start (sampleAt (timeline.latest + ahead)) = timeline.latest + ahead :=
    start_sampleAt (by omega) (by omega)
  have hAhead := @Synced.ahead _ _ _ 1 h (show timeline.latest ≤
    timeline.start (sampleAt (timeline.latest + ahead)) by omega)
  rw [hStart, if_pos (by omega)] at hAhead
  have hLength := h.length_eq (sampleAt (timeline.latest + ahead))
  have hOne : (sampleAt (timeline.latest + ahead)).samples.length = 1 := rfl
  rw [hOne, hAhead.2] at hLength
  omega

/-- Where the same sample is written after a packet that ends before the recorded media time. -/
theorem length_record_sampleAt (hLate : timeline.finish packet < timeline.latest) {ahead : Nat}
    (hSoon : ahead ≤ 1) :
    ((writer.record packet).record (sampleAt (timeline.latest + ahead))).file.length =
      (writer.record packet).file.length +
        ((if timeline.latest + ahead - timeline.finish packet ≤ 40000 then
          (timeline.latest + ahead - timeline.finish packet).toNat else 0) + 1) * 2 := by
  have hRange := @place_range timeline.latest packet.timestamp
  have hPlace := @place_emod timeline.latest packet.timestamp
  have hStamp : ((sampleAt (timeline.latest + ahead)).timestamp.toNat : Int) =
      (timeline.latest + ahead) % 4294967296 := by
    show ((stampOf (timeline.latest + ahead)).toNat : Int) = _
    rw [stampOf, UInt32.toNat_ofNat']
    omega
  have hDistance : (((sampleAt (timeline.latest + ahead)).timestamp - packet.timestamp).toNat : Int)
      = timeline.latest + ahead - timeline.start packet := by
    have hFirst := packet.timestamp.toNat_lt
    have hSecond := (sampleAt (timeline.latest + ahead)).timestamp.toNat_lt
    rw [finish, start] at hLate
    rw [UInt32.toNat_sub, start]
    omega
  have hLength := length_record_file (@record_lastTimestamp writer packet)
    (sampleAt (timeline.latest + ahead))
  have hOne : (sampleAt (timeline.latest + ahead)).samples.length = 1 := rfl
  have hGap : maxTimestampGapSamples = 40000 := rfl
  rw [finish] at hLate ⊢
  generalize ((sampleAt (timeline.latest + ahead)).timestamp - packet.timestamp).toNat = distance
    at hDistance hLength
  have hOverlap : overlapAt packet.samples.length distance 1 = 0 := if_pos (by omega)
  rw [record_lastSampleCount, hOne, hOverlap, silenceAt, hGap] at hLength
  rw [hLength]
  split
  · rw [if_pos (by omega)]
    omega
  · rw [if_neg (by omega)]

/-- A late packet that ends before the recorded media time moves the samples that follow it. -/
theorem Synced.disturbed (h : timeline.Synced writer)
    (hLate : timeline.finish packet < timeline.latest) :
    ¬ timeline.KeepsTime writer packet := by
  intro hKeeps
  have hSame := hKeeps.adds_nothing (Int.le_of_lt hLate)
  -- right at the recorded time if the writer fills the gap, one later if it does not
  have hMoved : ∀ ahead : Nat, ahead ≤ 1 →
      (if timeline.latest + ahead - timeline.finish packet ≤ 40000 then
        (timeline.latest + ahead - timeline.finish packet).toNat else 0) = ahead := by
    intro ahead hSoon
    have hStart : timeline.latest ≤ timeline.start (sampleAt (timeline.latest + ahead)) := by
      rw [start_sampleAt (by omega) (by omega)]
      omega
    have hFile := hKeeps.undisturbed (Int.le_of_lt hLate) _ hStart
    have hLengths := congrArg List.length hFile
    rw [length_record_sampleAt hLate hSoon, h.length_sampleAt hSoon, hSame] at hLengths
    omega
  have hAt := hMoved 0 (Nat.zero_le 1)
  have hAfter := hMoved 1 (Nat.le_refl 1)
  split at hAt
  · omega
  · split at hAfter
    · omega
    · omega

theorem Synced.inOrder (h : timeline.Synced writer) (hKeeps : timeline.KeepsTime writer packet) :
    timeline.InOrder packet := by
  have hFinish : timeline.latest ≤ timeline.finish packet := by
    rw [← Int.not_lt]
    intro hLate
    exact h.disturbed hLate hKeeps
  refine ⟨?_, hFinish⟩
  rw [← Int.not_lt]
  intro hStart
  have hLatest := h.latest_eq
  obtain ⟨hSilence, hOverlap⟩ := @Synced.behind _ _ _ packet.samples.length h hStart
  have hGrowth := hKeeps.growth
  rw [sampleCount_record h, hSilence, hOverlap, max_eq_right hFinish, finish] at hGrowth
  omega

/-- In every run the channel keeps its time exactly if every packet is in order. -/
theorem Synced.allKeepTime_iff (h : timeline.Synced writer) (packets : List VoicePacket) :
    timeline.AllKeepTime writer packets ↔ timeline.AllInOrder packets := by
  induction packets generalizing timeline writer with
  | nil => exact Iff.rfl
  | cons packet packets ih =>
      rw [AllKeepTime, AllInOrder]
      constructor
      · intro ⟨hKeeps, hRest⟩
        have hOrder := h.inOrder hKeeps
        exact ⟨hOrder, (ih (synced_next hOrder)).mp hRest⟩
      · intro ⟨hOrder, hRest⟩
        exact ⟨h.keepsTime hOrder, (ih (synced_next hOrder)).mpr hRest⟩

end Timeline

/-- From the first packet on, a channel grows with new media time only and late packets leave no
trace, exactly if no packet falls behind the one before it or ends before what is recorded. -/
theorem keepsTime_iff_inOrder (started : Nat) (first : VoicePacket)
    (packets : List VoicePacket) :
    (Timeline.first first).AllKeepTime (({ started } : ChannelWriter).record first) packets ↔
      (Timeline.first first).AllInOrder packets :=
  (Timeline.Synced.first started first).allKeepTime_iff packets

/-- Twenty milliseconds of silence. -/
def silentPacket (timestamp : UInt32) : VoicePacket where
  timestamp
  samples := List.replicate 160 0
  observedAt := 0
  short := by rw [List.length_replicate]; decide

/-- The first of two packets comes once more, and is written once more. -/
theorem repeated_packet_written_again :
    ¬ (Timeline.first (silentPacket 0)).AllKeepTime
      (({ started := 0 } : ChannelWriter).record (silentPacket 0))
      [silentPacket 160, silentPacket 0] := by
  rw [(Timeline.Synced.first 0 (silentPacket 0)).allKeepTime_iff]
  decide +kernel

end VoipSwitch.Media.Recording
