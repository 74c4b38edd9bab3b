import Mathlib.Data.List.Forall2
import VoipSwitch.Media.Companding

/-! The speech that is played to a caller: how its samples are put into packets, and what the
recorder makes of the packets. -/
namespace VoipSwitch

open G711

structure PlaybackFrame where
  generation : UInt64
  timestamp : UInt32
  payload : List UInt8
deriving DecidableEq

structure TtsPlayback where
  generation : UInt64 := 0
  timestamp : UInt32 := 0
deriving DecidableEq

section Samples

variable {α : Type}

/-- `i16::from_le_bytes`. -/
def fromLeBytes (low high : UInt8) : Int16 :=
  (UInt16.ofNat (low.toNat + 256 * high.toNat)).toInt16

/-- The samples of a text of bytes. -/
def samplesOf : List UInt8 → List Int16
  | low :: high :: rest => fromLeBytes low high :: samplesOf rest
  | _ => []

/-- One of every two, the first. -/
def everySecond : List α → List α
  | first :: _ :: rest => first :: everySecond rest
  | _ => []

/-- The first sample of every four bytes. -/
def chunkSamples : List UInt8 → List Int16
  | low :: high :: _ :: _ :: rest => fromLeBytes low high :: chunkSamples rest
  | _ => []

/-- `slice::chunks`. -/
def chunks (size : Nat) (items : List α) : List (List α) :=
  (List.range ((items.length + size - 1) / size)).map fun i => (items.drop (i * size)).take size

theorem chunkSamples_eq (bytes : List UInt8) :
    chunkSamples bytes = everySecond (samplesOf bytes) := by
  fun_induction chunkSamples bytes with
  | case1 low high _ _ rest ih => rw [samplesOf, samplesOf, everySecond, ih]
  | case2 bytes hShort =>
      match bytes with
      | [] => rfl
      | [_] => rfl
      | [_, _] => rfl
      | [_, _, _] => rfl
      | low :: high :: a :: b :: rest => exact absurd rfl (hShort low high a b rest)

/-- Whole packets can be read one after the other. -/
theorem chunkSamples_append {left : List UInt8} (right : List UInt8)
    (hWhole : left.length % 4 = 0) :
    chunkSamples (left ++ right) = chunkSamples left ++ chunkSamples right := by
  fun_induction chunkSamples left with
  | case1 low high _ _ rest ih =>
      rw [List.cons_append, List.cons_append, List.cons_append, List.cons_append, chunkSamples,
        ih (by simp only [List.length_cons] at hWhole; omega), List.cons_append]
  | case2 left hShort =>
      match left with
      | [] => rfl
      | [_] => exact absurd hWhole (by simp)
      | [_, _] => exact absurd hWhole (by simp)
      | [_, _, _] => exact absurd hWhole (by simp)
      | low :: high :: a :: b :: rest => exact absurd rfl (hShort low high a b rest)

/-- The chunks are read as the whole is. -/
theorem flatMap_chunks {size : Nat} (bytes : List UInt8) (hSize : size % 4 = 0) (hPos : 0 < size) :
    (chunks size bytes).flatMap chunkSamples = chunkSamples bytes := by
  have hPrefix : ∀ n, (List.range n).flatMap
      (fun i => chunkSamples ((bytes.drop (i * size)).take size)) =
        chunkSamples (bytes.take (n * size)) := by
    intro n
    induction n with
    | zero => simp [chunkSamples]
    | succ n ih =>
        rw [List.range_succ, List.flatMap_append, ih, List.flatMap_singleton, Nat.succ_mul,
          List.take_add]
        by_cases hShort : bytes.length < n * size
        · rw [List.drop_eq_nil_of_le (Nat.le_of_lt hShort), List.take_nil, List.append_nil]
          exact List.append_nil _
        · rw [chunkSamples_append]
          rw [List.length_take, Nat.min_eq_left (Nat.not_lt.mp hShort), Nat.mul_mod, hSize,
            Nat.mul_zero, Nat.zero_mod]
  have hAll : bytes.length ≤ (bytes.length + size - 1) / size * size := by
    have hSplit := Nat.div_add_mod' (bytes.length + size - 1) size
    have hRest := Nat.mod_lt (bytes.length + size - 1) hPos
    omega
  rw [chunks, List.flatMap_map, hPrefix, List.take_of_length_le hAll]

end Samples

namespace TtsPlayback

/-- `TtsPlayback::new`. -/
def new (generation : UInt64) : Except String TtsPlayback :=
  if generation = 0 then .error "playback generation must be greater than zero"
  else .ok { generation, timestamp := 0 }

def interrupt (playback : TtsPlayback) (generation : UInt64) : Except String TtsPlayback :=
  if generation ≤ playback.generation then .error "playback generation must increase"
  else .ok { generation, timestamp := 0 }

/-- A frame for each chunk. -/
def frames (codec : PlaybackCodec) :
    List (List UInt8) → TtsPlayback → List PlaybackFrame × TtsPlayback
  | [], playback => ([], playback)
  | chunk :: rest, playback =>
    let frame : PlaybackFrame :=
      { generation := playback.generation
        timestamp := playback.timestamp
        payload := (chunkSamples chunk).map codec.encode }
    let later := frames codec rest { playback with timestamp := playback.timestamp + 160 }
    (frame :: later.1, later.2)

def packetize (playback : TtsPlayback) (pcm : List UInt8) (codec : PlaybackCodec) :
    Except String (List PlaybackFrame × TtsPlayback) :=
  let inputSamplesPerPacket := 320
  if pcm.length % 2 ≠ 0 then .error "PCM16LE payload must contain complete samples"
  else .ok (frames codec (chunks (inputSamplesPerPacket * 2) pcm) playback)

variable {codec : PlaybackCodec} {playback : TtsPlayback} {pcm : List UInt8}

theorem payload_frames (codec : PlaybackCodec) (parts : List (List UInt8))
    (playback : TtsPlayback) :
    (frames codec parts playback).1.flatMap (·.payload) =
      (parts.flatMap chunkSamples).map codec.encode := by
  induction parts generalizing playback with
  | nil => rfl
  | cons chunk rest ih =>
      rw [frames, List.flatMap_cons, List.flatMap_cons, ih, List.map_append]

/-- The packets hold every second sample, encoded. -/
theorem payload_packetize {packets : List PlaybackFrame} {next : TtsPlayback}
    (hPackets : playback.packetize pcm codec = .ok (packets, next)) :
    packets.flatMap (·.payload) = (everySecond (samplesOf pcm)).map codec.encode := by
  rw [packetize] at hPackets
  split at hPackets
  · exact absurd hPackets (by simp)
  · obtain ⟨rfl, -⟩ := Prod.mk.inj (Except.ok.inj hPackets)
    rw [payload_frames, flatMap_chunks _ (by decide) (by decide), chunkSamples_eq]

/-- The speech is put into packets, and from these the recorder takes a faithful value for every
sample that is played. -/
def RoundTrips (playback : TtsPlayback) (codec : PlaybackCodec) (pcm : List UInt8) : Prop :=
  ∃ packets next, playback.packetize pcm codec = .ok (packets, next) ∧
    List.Forall₂ (Faithful codec) (everySecond (samplesOf pcm))
      ((packets.flatMap (·.payload)).map codec.decode)

theorem forall₂_faithful_iff (samples : List Int16) :
    List.Forall₂ (Faithful codec) samples ((samples.map codec.encode).map codec.decode) ↔
      ∀ sample ∈ samples, Exact codec sample := by
  rw [List.map_map, List.forall₂_map_right_iff, List.forall₂_same]
  exact forall₂_congr fun sample _ => faithful_iff_exact codec sample

/-- The recorder gives the speech back exactly if it does so for each of the samples played, and no
sample is encoded for A-law as in a prompt. -/
theorem packetize_roundTrips_iff (playback : TtsPlayback) (codec : PlaybackCodec)
    (hEven : pcm.length % 2 = 0) :
    (RoundTrips playback codec pcm ↔ ∀ sample ∈ everySecond (samplesOf pcm), Exact codec sample) ∧
      ∀ sample, alawEncode sample ≠ pcm16ToAlaw sample := by
  constructor
  · rw [← forall₂_faithful_iff]
    constructor
    · rintro ⟨packets, next, hPackets, hFaithful⟩
      rwa [payload_packetize hPackets] at hFaithful
    · intro hFaithful
      have hPackets : playback.packetize pcm codec =
          .ok (frames codec (chunks 640 pcm) playback) := by
        rw [packetize, if_neg (not_not.mpr hEven)]
      refine ⟨_, _, hPackets, ?_⟩
      rwa [payload_packetize hPackets]
  · exact alawEncode_ne_pcm16ToAlaw

theorem packetize_roundTrips_iff_silence :
    (RoundTrips ⟨1, 0⟩ .pcmu [0, 0, 0, 0] ↔
      ∀ sample ∈ everySecond (samplesOf [0, 0, 0, 0]), Exact .pcmu sample) ∧
      ∀ sample, alawEncode sample ≠ pcm16ToAlaw sample :=
  packetize_roundTrips_iff ⟨1, 0⟩ .pcmu (by decide)

/-- Silence is recorded as a loud noise, and a quiet sample is not encoded as in a prompt. -/
theorem silence_not_roundTrips :
    ¬ RoundTrips ⟨1, 0⟩ .pcmu [0, 0, 0, 0] ∧ alawEncode 1000 ≠ pcm16ToAlaw 1000 := by
  constructor
  · rintro ⟨packets, next, hPackets, hFaithful⟩
    have hPayload : packets.flatMap (·.payload) = [0x8f] := by
      rw [payload_packetize hPackets]
      decide
    rw [hPayload] at hFaithful
    obtain ⟨hFirst, -⟩ := List.forall₂_cons.mp hFaithful
    exact absurd hFirst (by decide)
  · decide

end TtsPlayback

end VoipSwitch
