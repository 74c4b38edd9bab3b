import VoipSwitch.Ai.Playback
import VoipSwitch.Core.Types

/-! Speech that comes in pieces. The packets of the pieces hold what the packets of the whole hold;
their timestamps count samples as long as only the last packet is short. -/
namespace VoipSwitch

open G711

section Chunks

variable {α : Type} {size : Nat} {items : List α}

theorem chunks_nil : chunks size ([] : List α) = [] := by
  rw [chunks, List.length_nil]
  by_cases hZero : size = 0
  · rw [hZero]
    rfl
  · have hNone : (0 + size - 1) / size = 0 := Nat.div_eq_of_lt (by omega)
    rw [hNone]
    rfl

/-- All chunks but the last are full, and the last one holds the rest. -/
theorem chunks_eq_concat (hSize : 0 < size) (hItems : items ≠ []) :
    ∃ full last, chunks size items = full ++ [last] ∧ (∀ part ∈ full, part.length = size) ∧
      last.length ≤ size ∧ (last.length = size ↔ items.length % size = 0) ∧
      items.length = full.length * size + last.length := by
  have hLength := List.length_pos_iff.mpr hItems
  have hSplit := Nat.div_add_mod' (items.length + size - 1) size
  have hRest := Nat.mod_lt (items.length + size - 1) hSize
  have hSome : 0 < (items.length + size - 1) / size := Nat.div_pos (by omega) hSize
  obtain ⟨n, hCount⟩ := Nat.exists_eq_succ_of_ne_zero (Nat.ne_of_gt hSome)
  rw [hCount, Nat.succ_mul] at hSplit
  have hBelow : n * size < items.length := by omega
  have hAbove : items.length ≤ n * size + size := by omega
  refine ⟨(List.range n).map fun i => (items.drop (i * size)).take size,
    (items.drop (n * size)).take size, ?_, ?_, ?_, ?_, ?_⟩
  · rw [chunks, hCount, List.range_succ, List.map_append]
    rfl
  · intro part hMem
    obtain ⟨i, hi, rfl⟩ := List.mem_map.mp hMem
    have hBefore : (i + 1) * size ≤ n * size :=
      Nat.mul_le_mul_right size (List.mem_range.mp hi)
    rw [Nat.succ_mul] at hBefore
    rw [List.length_take, List.length_drop]
    omega
  · rw [List.length_take, List.length_drop]
    omega
  · have hMod : items.length % size = (items.length - n * size) % size := by
      conv_lhs => rw [show items.length = (items.length - n * size) + n * size by omega]
      rw [Nat.add_mul_mod_self_right]
    rw [List.length_take, List.length_drop, hMod]
    constructor
    · intro hFull
      have hAll : items.length - n * size = size := by omega
      rw [hAll, Nat.mod_self]
    · intro hWhole
      by_contra hShort
      rw [Nat.mod_eq_of_lt (by omega)] at hWhole
      omega
  · rw [List.length_map, List.length_range, List.length_take, List.length_drop]
    omega

end Chunks

namespace TtsPlayback

/-- The pieces are put into packets one after the other. -/
def packetizeAll (codec : PlaybackCodec) :
    List (List UInt8) → TtsPlayback → Except String (List PlaybackFrame × TtsPlayback)
  | [], playback => .ok ([], playback)
  | piece :: pieces, playback => do
      let (packets, playback) ← playback.packetize piece codec
      let (later, last) ← packetizeAll codec pieces playback
      return (packets ++ later, last)

/-- Every timestamp counts the samples that were sent before. -/
def OnTime (start : UInt32) (packets : List PlaybackFrame) : Prop :=
  ∀ before packet after, packets = before ++ packet :: after →
    packet.timestamp = start + UInt32.ofNat (before.flatMap (·.payload)).length

/-- The pieces give the payload of the whole, with timestamps that count its samples. -/
def SplitsWell (playback : TtsPlayback) (codec : PlaybackCodec) (pieces : List (List UInt8)) :
    Prop :=
  ∃ packets next whole last,
    packetizeAll codec pieces playback = .ok (packets, next) ∧
    playback.packetize pieces.flatten codec = .ok (whole, last) ∧
    packets.flatMap (·.payload) = whole.flatMap (·.payload) ∧
    OnTime playback.timestamp packets

variable {codec : PlaybackCodec} {playback : TtsPlayback} {parts pieces : List (List UInt8)}

section Payload

theorem frames_append (codec : PlaybackCodec) (parts later : List (List UInt8))
    (playback : TtsPlayback) :
    frames codec (parts ++ later) playback =
      ((frames codec parts playback).1 ++ (frames codec later (frames codec parts playback).2).1,
        (frames codec later (frames codec parts playback).2).2) := by
  induction parts generalizing playback with
  | nil => rfl
  | cons part parts ih =>
      rw [List.cons_append, frames, frames, ih]
      rfl

theorem packetize_of_even {pcm : List UInt8} (hEven : pcm.length % 2 = 0) :
    playback.packetize pcm codec = .ok (frames codec (chunks 640 pcm) playback) := by
  rw [packetize, if_neg (not_not.mpr hEven)]

/-- The packets of the pieces are those of all their chunks. -/
theorem packetizeAll_eq (hPairs : ∀ piece ∈ pieces, piece.length % 4 = 0) :
    packetizeAll codec pieces playback =
      .ok (frames codec (pieces.flatMap (chunks 640)) playback) := by
  induction pieces generalizing playback with
  | nil => rfl
  | cons piece pieces ih =>
      have hEven : piece.length % 2 = 0 := by
        have hPair := hPairs piece List.mem_cons_self
        omega
      have hRest := fun other hMem => hPairs other (List.mem_cons_of_mem piece hMem)
      rw [packetizeAll, packetize_of_even hEven, List.flatMap_cons, frames_append]
      simp only [bind, Except.bind, ih hRest]
      rfl

theorem length_flatten_pairs (hPairs : ∀ piece ∈ pieces, piece.length % 4 = 0) :
    pieces.flatten.length % 4 = 0 := by
  induction pieces with
  | nil => rfl
  | cons piece pieces ih =>
      have hRest := ih fun other hMem => hPairs other (List.mem_cons_of_mem piece hMem)
      have hPair := hPairs piece List.mem_cons_self
      rw [List.flatten_cons, List.length_append]
      omega

theorem flatMap_chunkSamples (hPairs : ∀ piece ∈ pieces, piece.length % 4 = 0) :
    pieces.flatMap chunkSamples = chunkSamples pieces.flatten := by
  induction pieces with
  | nil => rfl
  | cons piece pieces ih =>
      have hRest := ih fun other hMem => hPairs other (List.mem_cons_of_mem piece hMem)
      rw [List.flatMap_cons, List.flatten_cons,
        chunkSamples_append _ (hPairs piece List.mem_cons_self), hRest]

/-- What is played does not depend on the pieces. -/
theorem payload_pieces (hPairs : ∀ piece ∈ pieces, piece.length % 4 = 0) :
    (frames codec (pieces.flatMap (chunks 640)) playback).1.flatMap (·.payload) =
      (frames codec (chunks 640 pieces.flatten) playback).1.flatMap (·.payload) := by
  have hChunks : ∀ piece : List UInt8, (chunks 640 piece).flatMap chunkSamples =
      chunkSamples piece := fun piece => flatMap_chunks piece (by decide) (by decide)
  rw [payload_frames, payload_frames, hChunks, List.flatMap_assoc]
  simp only [hChunks]
  rw [flatMap_chunkSamples hPairs]

end Payload

section Timestamps

theorem length_chunkSamples (bytes : List UInt8) :
    (chunkSamples bytes).length = bytes.length / 4 := by
  fun_induction chunkSamples bytes with
  | case1 low high _ _ rest ih =>
      simp only [List.length_cons, ih]
      omega
  | case2 bytes hShort =>
      rcases bytes with _ | ⟨low, _ | ⟨high, _ | ⟨a, _ | ⟨b, rest⟩⟩⟩⟩
      · rfl
      · simp
      · simp
      · simp
      · exact absurd rfl (hShort low high a b rest)

/-- The samples that a packet of a chunk holds. -/
def heldBy (part : List UInt8) : Nat := part.length / 4

theorem onTime_cons {start : UInt32} {packet : PlaybackFrame} {packets : List PlaybackFrame} :
    OnTime start (packet :: packets) ↔
      packet.timestamp = start ∧
        OnTime (start + UInt32.ofNat packet.payload.length) packets := by
  constructor
  · intro h
    refine ⟨?_, ?_⟩
    · rw [h [] packet packets rfl]
      simp
    · intro before other after hSplit
      rw [h (packet :: before) other after (by rw [hSplit, List.cons_append]), List.flatMap_cons,
        List.length_append, UInt32.ofNat_add, UInt32.add_assoc]
  · intro ⟨hFirst, hRest⟩ before other after hSplit
    cases before with
    | nil =>
        obtain ⟨rfl, -⟩ := List.cons.inj hSplit
        rw [hFirst]
        simp
    | cons first before =>
        obtain ⟨rfl, hTail⟩ := List.cons.inj hSplit
        rw [hRest before other after hTail, List.flatMap_cons, List.length_append,
          UInt32.ofNat_add, UInt32.add_assoc]

theorem ofNat_eq_packet_iff {n : Nat} (hLe : n ≤ 160) : UInt32.ofNat n = 160 ↔ n = 160 := by
  rw [← UInt32.toNat_inj, UInt32.toNat_ofNat']
  show n % 2 ^ 32 = 160 ↔ n = 160
  omega

/-- The timestamps count samples exactly if all chunks before the last are full. -/
theorem onTime_frames_iff {start : UInt32} {part : List UInt8}
    (hLe : ∀ other ∈ part :: parts, heldBy other ≤ 160) :
    OnTime start (frames codec (part :: parts) playback).1 ↔
      playback.timestamp = start ∧ ∀ other ∈ (part :: parts).dropLast, heldBy other = 160 := by
  induction parts generalizing playback start part with
  | nil =>
      rw [frames, frames, onTime_cons]
      apply and_congr_right
      intro _
      constructor
      · intro _ other hMem
        cases hMem
      · intro _ before packet after hSplit
        simp at hSplit
  | cons next parts ih =>
      have hLater : ∀ other ∈ next :: parts, heldBy other ≤ 160 :=
        fun other hMem => hLe other (.tail _ hMem)
      have hHeld : (frames codec [part] playback).1.map (·.payload.length) = [heldBy part] := by
        simp [frames, heldBy, length_chunkSamples]
      rw [frames, onTime_cons, ih hLater, List.dropLast_cons_cons, List.forall_mem_cons]
      simp only [frames, List.map_cons, List.map_nil, List.cons.injEq, and_true] at hHeld
      rw [hHeld]
      apply and_congr_right
      intro hStart
      show (playback.timestamp + 160 = start + UInt32.ofNat (heldBy part) ∧ _) ↔ _
      rw [show playback.timestamp = start from hStart]
      apply and_congr_left
      intro _
      rw [UInt32.add_right_inj, eq_comm]
      exact ofNat_eq_packet_iff (hLe part List.mem_cons_self)

end Timestamps

section Pieces

variable {piece : List UInt8}

theorem chunks_eq_nil_iff : chunks 640 piece = [] ↔ piece = [] := by
  constructor
  · intro hNone
    by_contra hSome
    obtain ⟨full, last, hChunks, -⟩ := @chunks_eq_concat _ 640 piece (by decide) hSome
    rw [hChunks] at hNone
    simp at hNone
  · rintro rfl
    exact chunks_nil

theorem flatMap_chunks_eq_nil_iff :
    pieces.flatMap (chunks 640) = [] ↔ pieces.filter (· ≠ []) = [] := by
  simp [List.flatMap_eq_nil_iff, chunks_eq_nil_iff, List.filter_eq_nil_iff]

theorem heldBy_le (hMem : piece ∈ pieces.flatMap (chunks 640)) : heldBy piece ≤ 160 := by
  obtain ⟨whole, -, hChunk⟩ := List.mem_flatMap.mp hMem
  obtain ⟨i, -, rfl⟩ := List.mem_map.mp hChunk
  rw [heldBy, List.length_take]
  omega

/-- A piece fills all its packets exactly if it is a number of whole packets long. -/
theorem heldBy_chunks_iff (hPair : piece.length % 4 = 0) :
    (∀ part ∈ chunks 640 piece, heldBy part = 160) ↔ piece.length % 640 = 0 := by
  by_cases hNone : piece = []
  · rw [hNone, chunks_nil]
    simp
  · obtain ⟨full, last, hChunks, hFull, hLe, hLast, hLength⟩ :=
      @chunks_eq_concat _ 640 piece (by decide) hNone
    rw [hChunks, ← hLast]
    constructor
    · intro hAll
      have hHeld := hAll last (List.mem_append_right _ (List.mem_singleton_self last))
      rw [heldBy] at hHeld
      omega
    · intro hWhole part hMem
      rw [heldBy]
      rcases List.mem_append.mp hMem with hBefore | hOwn
      · rw [hFull part hBefore]
      · rw [List.mem_singleton.mp hOwn, hWhole]

theorem heldBy_dropLast_chunks {part : List UInt8} (hMem : part ∈ (chunks 640 piece).dropLast) :
    heldBy part = 160 := by
  by_cases hNone : piece = []
  · rw [hNone, chunks_nil] at hMem
    cases hMem
  · obtain ⟨full, last, hChunks, hFull, -⟩ := @chunks_eq_concat _ 640 piece (by decide) hNone
    rw [hChunks, List.dropLast_concat] at hMem
    rw [heldBy, hFull part hMem]

/-- All chunks but the last are full exactly if all pieces end with a full packet, but for the
last of those that are not empty. -/
theorem full_chunks_iff (hPairs : ∀ piece ∈ pieces, piece.length % 4 = 0) :
    (∀ part ∈ (pieces.flatMap (chunks 640)).dropLast, heldBy part = 160) ↔
      ∀ piece ∈ (pieces.filter (· ≠ [])).dropLast, piece.length % 640 = 0 := by
  induction pieces with
  | nil => simp
  | cons piece pieces ih =>
      have hRest := ih fun other hMem => hPairs other (List.mem_cons_of_mem piece hMem)
      by_cases hEmpty : piece = []
      · rw [hEmpty, List.flatMap_cons, chunks_nil, List.nil_append, hRest]
        simp
      · rw [List.flatMap_cons, List.filter_cons_of_pos (by simpa using hEmpty)]
        by_cases hLater : pieces.filter (· ≠ []) = []
        · rw [flatMap_chunks_eq_nil_iff.mpr hLater, hLater, List.append_nil]
          apply iff_of_true
          · intro part hMem
            exact heldBy_dropLast_chunks hMem
          · simp
        · have hChunks : pieces.flatMap (chunks 640) ≠ [] := fun hNone =>
            hLater (flatMap_chunks_eq_nil_iff.mp hNone)
          rw [List.dropLast_append_of_ne_nil hChunks, List.dropLast_cons_of_ne_nil hLater,
            List.forall_mem_append, List.forall_mem_cons, hRest,
            heldBy_chunks_iff (hPairs piece List.mem_cons_self)]

end Pieces

/-- The payload never depends on the pieces; the timestamps count samples exactly if no piece but
the last, of those that are not empty, ends with a short packet. -/
theorem packetizeAll_splitsWell_iff (playback : TtsPlayback) (codec : PlaybackCodec)
    (pieces : List (List UInt8)) (hPairs : ∀ piece ∈ pieces, piece.length % 4 = 0) :
    SplitsWell playback codec pieces ↔
      ∀ piece ∈ (pieces.filter (· ≠ [])).dropLast, piece.length % 640 = 0 := by
  have hAll := @packetizeAll_eq codec playback pieces hPairs
  have hWhole : playback.packetize pieces.flatten codec = _ :=
    packetize_of_even (by have hPair := length_flatten_pairs hPairs; omega)
  have hOnTime : OnTime playback.timestamp
      (frames codec (pieces.flatMap (chunks 640)) playback).1 ↔
        ∀ part ∈ (pieces.flatMap (chunks 640)).dropLast, heldBy part = 160 := by
    cases hParts : pieces.flatMap (chunks 640) with
    | nil =>
        apply iff_of_true
        · intro before packet after hSplit
          simp [frames] at hSplit
        · simp
    | cons part parts =>
        rw [onTime_frames_iff (fun other hMem => heldBy_le (hParts ▸ hMem))]
        exact and_iff_right rfl
  rw [← full_chunks_iff hPairs, ← hOnTime]
  constructor
  · rintro ⟨packets, next, whole, last, hPackets, -, -, hTimes⟩
    rw [hAll] at hPackets
    obtain ⟨rfl, -⟩ := Prod.mk.inj (Except.ok.inj hPackets)
    exact hTimes
  · intro hTimes
    exact ⟨_, _, _, _, hAll, hWhole, payload_pieces hPairs, hTimes⟩

theorem length_full_and_short (full short : List UInt8) (hFull : full.length = 640)
    (hShort : short.length = 4) :
    (∀ piece ∈ [full, short], piece.length % 4 = 0) ∧
      ∀ piece ∈ ([full, short].filter (· ≠ [])).dropLast, piece.length % 640 = 0 := by
  have hKept : [full, short].filter (· ≠ []) = [full, short] := by
    simp [← List.length_eq_zero_iff, hFull, hShort]
  rw [hKept]
  simp [hFull, hShort]

/-- A full packet, and a piece of one sample behind it. -/
theorem packetizeAll_splitsWell_iff_full :
    SplitsWell ⟨1, 0⟩ .pcma [List.replicate 640 0, [0, 0, 0, 0]] :=
  have hLengths := length_full_and_short (List.replicate 640 0) [0, 0, 0, 0]
    List.length_replicate rfl
  (packetizeAll_splitsWell_iff ⟨1, 0⟩ .pcma _ hLengths.1).mpr hLengths.2

/-- Two pieces of one sample each: the second packet is stamped as if the first held 160. -/
theorem short_pieces_skip_timestamps :
    ¬ SplitsWell ⟨1, 0⟩ .pcma [[0, 0, 0, 0], [0, 0, 0, 0]] := by
  rintro ⟨packets, next, whole, last, hPackets, -, -, hTimes⟩
  have hRun : packetizeAll .pcma [[0, 0, 0, 0], [0, 0, 0, 0]] ⟨1, 0⟩ =
      .ok ([⟨1, 0, [0x55]⟩, ⟨1, 160, [0x55]⟩], ⟨1, 320⟩) := by
    decide
  rw [hRun] at hPackets
  obtain ⟨rfl, -⟩ := Prod.mk.inj (Except.ok.inj hPackets)
  have hSecond := hTimes [⟨1, 0, [0x55]⟩] ⟨1, 160, [0x55]⟩ [] rfl
  exact absurd hSecond (by decide)

end TtsPlayback

end VoipSwitch
