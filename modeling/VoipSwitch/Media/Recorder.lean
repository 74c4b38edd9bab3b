import VoipSwitch.Media.Companding
import VoipSwitch.Media.RtpParsers

/-! The recorder of a call. Each channel is written to a file of its own as its packets come, with
silence where packets are missing; at the end the two files become one WAV file of two channels. -/
namespace VoipSwitch.Media.Recording

open Framed (Bytes le32 readLe32 readLe32_le32)

def sampleRate : Nat := 8000
def channels : Nat := 2
def bitsPerSample : Nat := 16
def maxTimestampGapSamples : Nat := sampleRate * 5
def u32Max : Nat := 2 ^ 32 - 1

/-- `i16::to_le_bytes`. -/
def sampleBytes (sample : Int16) : Bytes :=
  [sample.toUInt16.toUInt8, (sample.toUInt16 >>> 8).toUInt8]

/-- `u16::to_le_bytes`. -/
def le16 (n : Nat) : Bytes := [UInt8.ofNat n, UInt8.ofNat (n / 256)]

section Channels

/-- A channel with the bytes of its file; times are in nanoseconds. -/
structure ChannelWriter where
  file : Bytes := []
  started : Nat
  samplesWritten : Nat := 0
  lastTimestamp : Option UInt32 := none
  lastSampleCount : Nat := 0

namespace ChannelWriter

/-- The loop of `write_silence`: at most 512 bytes at a time. -/
def fillSilence (bytes : Nat) (file : Bytes) : Bytes :=
  if bytes = 0 then file
  else fillSilence (bytes - min bytes 512) (file ++ List.replicate (min bytes 512) 0)
termination_by bytes
decreasing_by omega

def writeSilence (writer : ChannelWriter) (samples : Nat) : ChannelWriter :=
  { writer with
    file := fillSilence (min (samples * 2) u64Max) writer.file
    samplesWritten := satAdd64 writer.samplesWritten samples }

/-- The silence before a packet, and how many of its samples are there already. -/
def makeRoom (writer : ChannelWriter) (timestamp : UInt32) (count observedAt : Nat) :
    ChannelWriter × Nat :=
  match writer.lastTimestamp with
  | some last =>
    let delta := (timestamp - last).toNat
    if writer.lastSampleCount ≤ delta then
      let gap := delta - writer.lastSampleCount
      if gap ≤ maxTimestampGapSamples then (writer.writeSilence gap, 0) else (writer, 0)
    else (writer, min (writer.lastSampleCount - delta) count)
  | none =>
    let leading := (observedAt - writer.started) / 1000000 * sampleRate / 1000
    (writer.writeSilence (min leading u32Max), 0)

def writePacket (writer : ChannelWriter) (timestamp : UInt32) (samples : List Int16)
    (observedAt : Nat) : ChannelWriter :=
  let (writer, offset) := writer.makeRoom timestamp samples.length observedAt
  { writer with
    file := writer.file ++ (samples.drop offset).flatMap sampleBytes
    samplesWritten := satAdd64 writer.samplesWritten (samples.length - offset)
    lastTimestamp := some timestamp
    lastSampleCount := samples.length }

end ChannelWriter

end Channels

section Wav

def ascii (text : List Char) : Bytes := text.map fun c => UInt8.ofNat c.toNat

/-- `write_wav_header`. -/
def wavHeader (dataBytes : Nat) : Bytes :=
  ascii ['R', 'I', 'F', 'F'] ++ le32 (36 + dataBytes) ++
    ascii ['W', 'A', 'V', 'E', 'f', 'm', 't', ' '] ++ le32 16 ++ le16 1 ++ le16 channels ++
    le32 sampleRate ++ le32 (sampleRate * channels * (bitsPerSample / 8)) ++
    le16 (channels * (bitsPerSample / 8)) ++ le16 bitsPerSample ++ ascii ['d', 'a', 't', 'a'] ++
    le32 dataBytes

/-- The next sample of a file and what is left of the file. A file that has ended is silent. -/
def readSampleOrSilence : Bytes → Bytes × Bytes
  | low :: high :: rest => ([low, high], rest)
  | _ => ([0, 0], [])

def interleave : Nat → Bytes → Bytes → Bytes
  | 0, _, _ => []
  | total + 1, caller, callee =>
    let (left, caller) := readSampleOrSilence caller
    let (right, callee) := readSampleOrSilence callee
    left ++ right ++ interleave total caller callee

/-- `u64::checked_mul`. -/
def checkedMul64 (m n : Nat) : Option Nat := if m * n ≤ u64Max then some (m * n) else none

/-- `interleave_wav`: the bytes of the final file. -/
def interleaveWav (caller callee : Bytes) (callerSamples calleeSamples : Nat) :
    Except String Bytes :=
  let totalSamples := max callerSamples calleeSamples
  match (checkedMul64 totalSamples channels).bind (checkedMul64 · (bitsPerSample / 8)) with
  | none => .error "recording WAV size overflow"
  | some dataBytes =>
    if dataBytes ≤ u32Max - 36 then
      .ok (wavHeader dataBytes ++ interleave totalSamples caller callee)
    else .error "recording WAV exceeds RIFF size limit"

end Wav

section Loop

inductive RecordingSide where
  | caller
  | callee
deriving DecidableEq

/-- A packet on its way to the recorder. -/
structure RecorderMessage where
  side : RecordingSide
  packet : Bytes
  observedAt : Nat

structure Recorder where
  caller : ChannelWriter
  callee : ChannelWriter

namespace Recorder

def create (started : Nat) : Recorder := ⟨{ started }, { started }⟩

/-- The samples of a packet that is recorded. -/
def samplesOf (payloadTypes : List UInt8) (rtp : RtpPayload) : Option (List Int16) :=
  if rtp.payloadType ∉ payloadTypes then none
  else if rtp.payloadType = 0 then some (rtp.payload.map G711.decodeMulaw)
  else if rtp.payloadType = 8 then some (rtp.payload.map G711.decodeAlaw)
  else none

/-- A round of the loop of `run_recorder`. -/
def receive (payloadTypes : List UInt8) (recorder : Recorder) (message : RecorderMessage) :
    Recorder :=
  match parseRtp message.packet with
  | .error _ => recorder
  | .ok rtp =>
    match samplesOf payloadTypes rtp with
    | none => recorder
    | some samples =>
      let timestamp := UInt32.ofNat rtp.timestamp
      match message.side with
      | .caller =>
        { recorder with
          caller := recorder.caller.writePacket timestamp samples message.observedAt }
      | .callee =>
        { recorder with
          callee := recorder.callee.writePacket timestamp samples message.observedAt }

/-- What the recorder leaves: no file if there is no sample at all. -/
def finish (recorder : Recorder) : Except String (Option Bytes) :=
  if max recorder.caller.samplesWritten recorder.callee.samplesWritten = 0 then .ok none
  else (interleaveWav recorder.caller.file recorder.callee.file recorder.caller.samplesWritten
    recorder.callee.samplesWritten).map some

/-- `run_recorder`. -/
def run (payloadTypes : List UInt8) (started : Nat) (messages : List RecorderMessage) :
    Except String (Option Bytes) :=
  (messages.foldl (receive payloadTypes) (create started)).finish

end Recorder

end Loop

/-- The channel's file and its count are those of the samples. -/
structure ChannelWriter.Holds (writer : ChannelWriter) (samples : List Int16) : Prop where
  file_eq : writer.file = samples.flatMap sampleBytes
  count_eq : writer.samplesWritten = min samples.length u64Max

/-- The number in some bytes, the least significant one first. -/
def littleEndian (bytes : Bytes) : Nat := bytes.foldr (fun byte rest => byte.toNat + 256 * rest) 0

/-- A sample of 16 bits in two's complement. -/
def signed16 (n : Nat) : Int := if n < 2 ^ 15 then n else n - 2 ^ 16

def fieldAt (file : Bytes) (offset count : Nat) : Nat :=
  littleEndian ((file.drop offset).take count)

def sampleAt (file : Bytes) (offset : Nat) : Int := signed16 (fieldAt file offset 2)

/-- A WAV file of two channels of 16 bit PCM at 8000 Hz with these samples, field by field as the
format has it. The sizes of its header say how long it is, and where one channel ends before the
other, it is silent. -/
structure WavLayout (file : Bytes) (caller callee : List Int16) : Prop where
  length_eq : file.length = 44 + 4 * max caller.length callee.length
  /-- `RIFF` -/
  riff : file.take 4 = [0x52, 0x49, 0x46, 0x46]
  riffSize : fieldAt file 4 4 = file.length - 8
  /-- `WAVEfmt ` -/
  wave : (file.drop 8).take 8 = [0x57, 0x41, 0x56, 0x45, 0x66, 0x6d, 0x74, 0x20]
  formatSize : fieldAt file 16 4 = 16
  pcm : fieldAt file 20 2 = 1
  channels : fieldAt file 22 2 = 2
  sampleRate : fieldAt file 24 4 = 8000
  byteRate : fieldAt file 28 4 = 32000
  blockAlign : fieldAt file 32 2 = 4
  bitsPerSample : fieldAt file 34 2 = 16
  /-- `data` -/
  data : (file.drop 36).take 4 = [0x64, 0x61, 0x74, 0x61]
  dataSize : fieldAt file 40 4 = file.length - 44
  left : ∀ i < max caller.length callee.length,
    sampleAt file (44 + 4 * i) = (caller.getD i 0).toInt
  right : ∀ i < max caller.length callee.length,
    sampleAt file (46 + 4 * i) = (callee.getD i 0).toInt

variable {writer caller callee : ChannelWriter} {samples left right : List Int16}

section Writing

theorem fillSilence_eq (bytes : Nat) (file : Bytes) :
    ChannelWriter.fillSilence bytes file = file ++ List.replicate bytes 0 := by
  induction bytes using Nat.strong_induction_on generalizing file with
  | _ bytes ih =>
      rw [ChannelWriter.fillSilence]
      split
      · next hZero => rw [hZero, List.replicate_zero, List.append_nil]
      · next hMore =>
          have hChunk : min bytes 512 + (bytes - min bytes 512) = bytes := by omega
          rw [ih _ (by omega), List.append_assoc, List.replicate_append_replicate, hChunk]

theorem flatMap_silence (n : Nat) :
    (List.replicate n (0 : Int16)).flatMap sampleBytes = List.replicate (n * 2) 0 := by
  induction n with
  | zero => rfl
  | succ n ih =>
      rw [List.replicate_succ, List.flatMap_cons, ih, Nat.succ_mul, Nat.add_comm,
        ← List.replicate_append_replicate]
      rfl

theorem length_flatMap_sampleBytes (samples : List Int16) :
    (samples.flatMap sampleBytes).length = samples.length * 2 := by
  induction samples with
  | nil => rfl
  | cons sample samples ih =>
      rw [List.flatMap_cons, List.length_append, ih, List.length_cons, Nat.succ_mul, Nat.add_comm]
      rfl

namespace ChannelWriter

theorem Holds.writeSilence (h : writer.Holds samples) {n : Nat} (hFits : n * 2 ≤ u64Max) :
    (writer.writeSilence n).Holds (samples ++ List.replicate n 0) where
  file_eq := by
    rw [List.flatMap_append, flatMap_silence, ← h.file_eq, ChannelWriter.writeSilence,
      fillSilence_eq, Nat.min_eq_left hFits]
  count_eq := by
    simp only [ChannelWriter.writeSilence, List.length_append, List.length_replicate, satAdd64,
      h.count_eq]
    omega

/-- What is written before the samples of a packet is silence. -/
theorem Holds.makeRoom (h : writer.Holds samples) (timestamp : UInt32) (count observedAt : Nat) :
    ∃ n, (writer.makeRoom timestamp count observedAt).1.Holds (samples ++ List.replicate n 0) := by
  have hNone : writer.Holds (samples ++ List.replicate 0 0) := by
    rw [List.replicate_zero, List.append_nil]
    exact h
  rw [ChannelWriter.makeRoom]
  split
  · simp only
    split
    · split
      · next hGap =>
          refine ⟨_, h.writeSilence ?_⟩
          exact Nat.le_trans (Nat.mul_le_mul_right 2 hGap) (by decide)
      · exact ⟨0, hNone⟩
    · exact ⟨0, hNone⟩
  · have hLeading := Nat.min_le_right
      ((observedAt - writer.started) / 1000000 * sampleRate / 1000) u32Max
    exact ⟨_, h.writeSilence (Nat.le_trans (Nat.mul_le_mul_right 2 hLeading) (by decide))⟩

theorem Holds.writePacket (h : writer.Holds samples) (timestamp : UInt32) (voice : List Int16)
    (observedAt : Nat) : ∃ later, (writer.writePacket timestamp voice observedAt).Holds later := by
  obtain ⟨n, hRoom⟩ := h.makeRoom timestamp voice.length observedAt
  refine ⟨samples ++ List.replicate n 0 ++
    voice.drop (writer.makeRoom timestamp voice.length observedAt).2, ?_, ?_⟩
  · rw [List.flatMap_append, ← hRoom.file_eq]
    rfl
  · have hCount := hRoom.count_eq
    rw [ChannelWriter.writePacket]
    simp only [satAdd64, hCount, List.length_append, List.length_drop]
    omega

end ChannelWriter

/-- Both files of a recorder hold the samples of some sequence. -/
def Recorder.Sampled (recorder : Recorder) : Prop :=
  (∃ left, recorder.caller.Holds left) ∧ ∃ right, recorder.callee.Holds right

theorem Recorder.sampled_create (started : Nat) : (create started).Sampled :=
  ⟨⟨[], rfl, rfl⟩, [], rfl, rfl⟩

theorem Recorder.Sampled.receive {recorder : Recorder} (h : recorder.Sampled)
    (payloadTypes : List UInt8) (message : RecorderMessage) :
    (recorder.receive payloadTypes message).Sampled := by
  obtain ⟨⟨left, hLeft⟩, right, hRight⟩ := h
  rw [Recorder.receive]
  split
  · exact ⟨⟨left, hLeft⟩, right, hRight⟩
  · next rtp _ =>
      split
      · exact ⟨⟨left, hLeft⟩, right, hRight⟩
      · next voice _ =>
          split
          · exact ⟨hLeft.writePacket _ voice message.observedAt, right, hRight⟩
          · exact ⟨⟨left, hLeft⟩, hRight.writePacket _ voice message.observedAt⟩

theorem Recorder.sampled_foldl (payloadTypes : List UInt8) (started : Nat)
    (messages : List RecorderMessage) :
    (messages.foldl (receive payloadTypes) (create started)).Sampled := by
  apply List.foldlRecOn messages _ (sampled_create started)
  intro recorder hSampled message _
  exact hSampled.receive payloadTypes message

end Writing

section Reading

theorem readSampleOrSilence_cons (sample : Int16) (samples : List Int16) :
    readSampleOrSilence ((sample :: samples).flatMap sampleBytes) =
      (sampleBytes sample, samples.flatMap sampleBytes) := rfl

/-- A sample of a file, or silence. -/
theorem readSampleOrSilence_flatMap (samples : List Int16) :
    readSampleOrSilence (samples.flatMap sampleBytes) =
      (sampleBytes (samples.getD 0 0), samples.tail.flatMap sampleBytes) := by
  cases samples with
  | nil => rfl
  | cons sample samples => exact readSampleOrSilence_cons sample samples

theorem interleave_flatMap (total : Nat) (left right : List Int16) :
    interleave total (left.flatMap sampleBytes) (right.flatMap sampleBytes) =
      (List.range total).flatMap fun i =>
        sampleBytes (left.getD i 0) ++ sampleBytes (right.getD i 0) := by
  induction total generalizing left right with
  | zero => rfl
  | succ total ih =>
      rw [interleave, readSampleOrSilence_flatMap, readSampleOrSilence_flatMap]
      simp only
      rw [ih, List.range_succ_eq_map, List.flatMap_cons, List.flatMap_map]
      have hTail : ∀ (samples : List Int16) (i : Nat), samples.tail.getD i 0 =
          samples.getD (i + 1) 0 := by
        intro samples i
        cases samples with
        | nil => rfl
        | cons sample samples => rfl
      simp only [hTail]

theorem length_interleave_frames (total : Nat) (left right : List Int16) :
    ((List.range total).flatMap fun i =>
      sampleBytes (left.getD i 0) ++ sampleBytes (right.getD i 0)).length = total * 4 := by
  induction total with
  | zero => rfl
  | succ total ih =>
      rw [List.range_succ, List.flatMap_append, List.length_append, ih, Nat.succ_mul]
      rfl

theorem length_wavHeader (dataBytes : Nat) : (wavHeader dataBytes).length = 44 := rfl

theorem littleEndian_le32 {n : Nat} (h : n < 2 ^ 32) : littleEndian (le32 n) = n := by
  simp only [littleEndian, le32, List.foldr_cons, List.foldr_nil, UInt8.toNat_ofNat']
  omega

theorem littleEndian_le16 {n : Nat} (h : n < 2 ^ 16) : littleEndian (le16 n) = n := by
  simp only [littleEndian, le16, List.foldr_cons, List.foldr_nil, UInt8.toNat_ofNat']
  omega

theorem signed16_sampleBytes (sample : Int16) :
    signed16 (littleEndian (sampleBytes sample)) = sample.toInt := by
  have hLess := sample.toBitVec.isLt
  have hLow : sample.toUInt16.toUInt8.toNat = sample.toBitVec.toNat % 256 := rfl
  have hHigh : (sample.toUInt16 >>> 8).toUInt8.toNat = sample.toBitVec.toNat / 256 % 256 :=
    congrArg (· % 256) (Nat.shiftRight_eq_div_pow sample.toBitVec.toNat 8)
  have hBytes : littleEndian (sampleBytes sample) = sample.toBitVec.toNat := by
    simp only [littleEndian, sampleBytes, List.foldr_cons, List.foldr_nil, hLow, hHigh]
    omega
  rw [hBytes, signed16, Int16.toInt, BitVec.toInt_eq_toNat_cond]
  split_ifs <;> omega

/-- The places of the members when each is written with four bytes. -/
theorem drop_flatMap_four {α : Type} {f : α → Bytes} (hFour : ∀ a, (f a).length = 4) (l : List α)
    (i : Nat) : (l.flatMap f).drop (4 * i) = (l.drop i).flatMap f := by
  induction l generalizing i with
  | nil => simp
  | cons a l ih =>
      cases i with
      | zero => rfl
      | succ i =>
          rw [List.flatMap_cons, Nat.mul_succ, Nat.add_comm, ← List.drop_drop,
            List.drop_left' (hFour a), ih, List.drop_succ_cons]

/-- The two samples of a frame. -/
theorem frame_at {header : Bytes} (hHeader : header.length = 44) {total i : Nat} (hLess : i < total)
    (left right : List Int16) :
    ∃ rest, (header ++ (List.range total).flatMap fun i =>
      sampleBytes (left.getD i 0) ++ sampleBytes (right.getD i 0)).drop (44 + 4 * i) =
        sampleBytes (left.getD i 0) ++ (sampleBytes (right.getD i 0) ++ rest) := by
  have hFour : ∀ i, (sampleBytes (left.getD i 0) ++ sampleBytes (right.getD i 0)).length = 4 :=
    fun _ => rfl
  have hIndex : i < (List.range total).length := by
    rwa [List.length_range]
  rw [← List.drop_drop, List.drop_left' hHeader, drop_flatMap_four hFour,
    List.drop_eq_getElem_cons hIndex, List.getElem_range, List.flatMap_cons, List.append_assoc]
  exact ⟨_, rfl⟩

theorem wavHeader_eq (n : Nat) :
    wavHeader n = [0x52, 0x49, 0x46, 0x46] ++ (le32 (36 + n) ++
      ([0x57, 0x41, 0x56, 0x45, 0x66, 0x6d, 0x74, 0x20] ++ (le32 16 ++ (le16 1 ++ (le16 2 ++
        (le32 8000 ++ (le32 32000 ++ (le16 4 ++ (le16 16 ++
          ([0x64, 0x61, 0x74, 0x61] ++ le32 n)))))))))) := rfl

/-- What is read at the place of a field. -/
theorem fieldAt_header {n offset count value : Nat} {frames : Bytes} (field : Bytes)
    (hPart : ((wavHeader n ++ frames).drop offset).take count = field)
    (hValue : littleEndian field = value) :
    fieldAt (wavHeader n ++ frames) offset count = value := by
  rw [fieldAt, hPart, hValue]

/-- A header and the frames it announces. -/
theorem wavLayout_of_header {frames : Bytes}
    (hFrames : frames = (List.range (max left.length right.length)).flatMap fun i =>
      sampleBytes (left.getD i 0) ++ sampleBytes (right.getD i 0))
    (hFits : max left.length right.length * 4 + 36 < 2 ^ 32) :
    WavLayout (wavHeader (max left.length right.length * 4) ++ frames) left right := by
  have hCount : frames.length = max left.length right.length * 4 := by
    rw [hFrames]
    exact length_interleave_frames _ left right
  have hLength : (wavHeader (max left.length right.length * 4) ++ frames).length =
      44 + 4 * max left.length right.length := by
    rw [List.length_append, length_wavHeader, hCount, Nat.mul_comm]
  have hHeader := length_wavHeader (max left.length right.length * 4)
  have hSmall : 36 + max left.length right.length * 4 < 2 ^ 32 := by omega
  have hData : max left.length right.length * 4 < 2 ^ 32 := by omega
  constructor
  · exact hLength
  · simp [wavHeader_eq]
  · refine fieldAt_header (le32 (36 + max left.length right.length * 4)) ?_ ?_
    · simp [wavHeader_eq, le32]
    · rw [littleEndian_le32 hSmall, hLength]
      omega
  · simp [wavHeader_eq, le32]
  · refine fieldAt_header (le32 16) ?_ (littleEndian_le32 (by decide))
    simp [wavHeader_eq, le32]
  · refine fieldAt_header (le16 1) ?_ (littleEndian_le16 (by decide))
    simp [wavHeader_eq, le32, le16]
  · refine fieldAt_header (le16 2) ?_ (littleEndian_le16 (by decide))
    simp [wavHeader_eq, le32, le16]
  · refine fieldAt_header (le32 8000) ?_ (littleEndian_le32 (by decide))
    simp [wavHeader_eq, le32, le16]
  · refine fieldAt_header (le32 32000) ?_ (littleEndian_le32 (by decide))
    simp [wavHeader_eq, le32, le16]
  · refine fieldAt_header (le16 4) ?_ (littleEndian_le16 (by decide))
    simp [wavHeader_eq, le32, le16]
  · refine fieldAt_header (le16 16) ?_ (littleEndian_le16 (by decide))
    simp [wavHeader_eq, le32, le16]
  · simp [wavHeader_eq, le32, le16]
  · refine fieldAt_header (le32 (max left.length right.length * 4)) ?_ ?_
    · simp [wavHeader_eq, le32, le16]
    · rw [littleEndian_le32 hData, hLength]
      omega
  · intro i hLess
    obtain ⟨rest, hFrame⟩ := frame_at hHeader hLess left right
    rw [← hFrames] at hFrame
    rw [sampleAt, fieldAt, hFrame]
    exact signed16_sampleBytes _
  · intro i hLess
    obtain ⟨rest, hFrame⟩ := frame_at hHeader hLess left right
    have hSecond := congrArg (List.drop 2) hFrame
    rw [← hFrames, List.drop_drop] at hSecond
    rw [sampleAt, fieldAt, show 46 + 4 * i = 44 + 4 * i + 2 by omega, hSecond]
    exact signed16_sampleBytes _

end Reading

/-- The check of the size: it fails for more samples than a file can announce, also where their
number does not fit in its width. -/
theorem interleaveWav_eq (hCaller : caller.Holds left) (hCallee : callee.Holds right) :
    interleaveWav caller.file callee.file caller.samplesWritten callee.samplesWritten =
      if max left.length right.length * 4 + 36 < 2 ^ 32 then
        .ok (wavHeader (max left.length right.length * 4) ++
          interleave (max left.length right.length) caller.file callee.file)
      else if max left.length right.length * 4 ≤ u64Max then
        .error "recording WAV exceeds RIFF size limit"
      else .error "recording WAV size overflow" := by
  have hTotal : max caller.samplesWritten callee.samplesWritten =
      min (max left.length right.length) u64Max := by
    rw [hCaller.count_eq, hCallee.count_eq]
    omega
  rw [interleaveWav, hTotal]
  generalize max left.length right.length = total
  have hWidths : bitsPerSample / 8 = 2 := rfl
  have hChannels : channels = 2 := rfl
  by_cases hFits : total * 4 ≤ u64Max
  · have hLimit : total * 4 ≤ u32Max - 36 ↔ total * 4 + 36 < 2 ^ 32 := by
      rw [u32Max]
      omega
    have hMin : min total u64Max = total := by omega
    have hTwice : total * 2 ≤ u64Max := by omega
    have hMul : total * 2 * 2 = total * 4 := by omega
    simp only [hMin, hWidths, hChannels, checkedMul64, if_pos hTwice, Option.bind_some, hMul,
      if_pos hFits, hLimit]
  · have hOver : ¬ min total u64Max * 2 * 2 ≤ u64Max := by
      rw [u64Max] at hFits ⊢
      omega
    have hLarge : ¬ total * 4 + 36 < 2 ^ 32 := by
      rw [u64Max] at hFits
      omega
    have hNone : (checkedMul64 (min total u64Max) channels).bind
        (checkedMul64 · (bitsPerSample / 8)) = none := by
      rw [checkedMul64, hChannels, hWidths]
      split
      · exact if_neg hOver
      · rfl
    simp only [hNone, if_neg hLarge, if_neg hFits]

theorem interleaveWav_ok_iff (hCaller : caller.Holds left) (hCallee : callee.Holds right) :
    (∃ file, interleaveWav caller.file callee.file caller.samplesWritten
        callee.samplesWritten = .ok file) ↔
      max left.length right.length * 4 + 36 < 2 ^ 32 := by
  rw [interleaveWav_eq hCaller hCallee]
  split
  · next hFits => exact iff_of_true ⟨_, rfl⟩ hFits
  · next hLarge =>
      apply iff_of_false _ hLarge
      intro hFile
      obtain ⟨file, hFile⟩ := hFile
      split at hFile
      · cases hFile
      · cases hFile

theorem wavLayout_of_ok (hCaller : caller.Holds left) (hCallee : callee.Holds right)
    {file : Bytes}
    (hFile : interleaveWav caller.file callee.file caller.samplesWritten callee.samplesWritten =
      .ok file) : WavLayout file left right := by
  rw [interleaveWav_eq hCaller hCallee] at hFile
  split at hFile
  · next hFits =>
      rw [← Except.ok.inj hFile]
      apply wavLayout_of_header _ hFits
      rw [hCaller.file_eq, hCallee.file_eq]
      exact interleave_flatMap _ left right
  · split at hFile
    · cases hFile
    · cases hFile

/-- A recording that ends with a file ends with the samples of its two channels in it. -/
theorem Recorder.run_layout {payloadTypes : List UInt8} {started : Nat}
    {messages : List RecorderMessage} {file : Bytes}
    (h : run payloadTypes started messages = .ok (some file)) :
    ∃ left right, WavLayout file left right ∧
      (messages.foldl (receive payloadTypes) (create started)).caller.Holds left ∧
      (messages.foldl (receive payloadTypes) (create started)).callee.Holds right := by
  obtain ⟨⟨left, hCaller⟩, right, hCallee⟩ := sampled_foldl payloadTypes started messages
  rw [run, finish] at h
  split at h
  · cases h
  · cases hFile : interleaveWav
        (messages.foldl (receive payloadTypes) (create started)).caller.file
        (messages.foldl (receive payloadTypes) (create started)).callee.file
        (messages.foldl (receive payloadTypes) (create started)).caller.samplesWritten
        (messages.foldl (receive payloadTypes) (create started)).callee.samplesWritten with
    | error error =>
        rw [hFile] at h
        cases h
    | ok written =>
        rw [hFile] at h
        cases h
        exact ⟨left, right, wavLayout_of_ok hCaller hCallee hFile, hCaller, hCallee⟩

/-- Whatever is recorded, the two files hold some samples; and the final file is written exactly
if it is not larger than its header can say, and then has the layout of these samples. -/
theorem interleaveWav_layout :
    (∀ (payloadTypes : List UInt8) (started : Nat) (messages : List RecorderMessage),
      (messages.foldl (Recorder.receive payloadTypes) (Recorder.create started)).Sampled) ∧
    ∀ (caller callee : ChannelWriter) (left right : List Int16),
      caller.Holds left → callee.Holds right →
      ((∃ file, interleaveWav caller.file callee.file caller.samplesWritten
          callee.samplesWritten = .ok file) ↔
        max left.length right.length * 4 + 36 < 2 ^ 32) ∧
      ∀ file, interleaveWav caller.file callee.file caller.samplesWritten
          callee.samplesWritten = .ok file → WavLayout file left right := by
  use Recorder.sampled_foldl
  intro caller callee left right hCaller hCallee
  use interleaveWav_ok_iff hCaller hCallee
  intro file hFile
  exact wavLayout_of_ok hCaller hCallee hFile

/-- Two samples of the caller and one of the callee. -/
theorem interleaveWav_layout_unequal :
    ∃ file, interleaveWav ([1, -2].flatMap sampleBytes) ([3].flatMap sampleBytes) 2 1 = .ok file ∧
      WavLayout file [1, -2] [3] := by
  obtain ⟨hWritten, hLayout⟩ := interleaveWav_layout.2
    { file := [1, -2].flatMap sampleBytes, started := 0, samplesWritten := 2 }
    { file := [3].flatMap sampleBytes, started := 0, samplesWritten := 1 } [1, -2] [3]
    ⟨rfl, rfl⟩ ⟨rfl, rfl⟩
  obtain ⟨file, hFile⟩ := hWritten.mpr (by decide)
  exact ⟨file, hFile, hLayout file hFile⟩

end VoipSwitch.Media.Recording
