import VoipSwitch.Ai.Connector
import VoipSwitch.Core.Types

/-! Media frames on a stream. The frames that were written are read, whatever the portions in
which their bytes come; and a frame that is read at all is valid, with its parts inside the
length that was announced for it. -/
namespace VoipSwitch.Connector

open Framed Framing Connection

/-- What `write_media_frame` writes for frames that come one after the other. -/
def writeMediaFrames (json : JsonCodec MediaFrameMetadata) (frames : List MediaFrame) :
    Except String Bytes :=
  (frames.mapM (mediaFormat json).frame).map List.flatten

/-- The bytes begin with a frame: its length, the length of its metadata, the metadata and the
payload, each where the lengths say. -/
structure Holds (json : JsonCodec MediaFrameMetadata) (bytes rest : Bytes) (frame : MediaFrame) :
    Prop where
  valid : frame.validate = .ok ()
  parts : ∃ total metadataLen metadata, total.length = 4 ∧ metadataLen.length = 4 ∧
    bytes = total ++ (metadataLen ++ metadata ++ frame.payload) ++ rest ∧
    readBe32 total = 4 + metadata.length + frame.payload.length ∧
    readBe32 total ≤ maxMediaFrameLen ∧
    readBe32 metadataLen = metadata.length ∧ 0 < metadata.length ∧
    metadata.length ≤ maxMediaMetadataLen ∧ json.fromSlice metadata = .ok frame.metadata

section Drain

variable {α : Type} {F : Format α} {messages : List α} {p : Progress} {bytes pipe : Bytes}

/-- The bytes at hand give some of the messages, and the reading stands in the next one. -/
theorem drain_stream (hSendable : ∀ message ∈ messages, Sendable F message)
    (hAligned : Aligned F p messages) (hStream : p.consumed ++ bytes ++ pipe = stream F messages) :
    ∃ delivered remaining q, F.drain p bytes = .ok (delivered, q) ∧
      messages = delivered ++ remaining ∧ Aligned F q remaining ∧
      q.consumed ++ pipe = stream F remaining := by
  induction messages generalizing p bytes with
  | nil =>
      obtain rfl : p = .start := hAligned
      have hNone := (List.append_eq_nil_iff.mp hStream).1
      obtain rfl := (List.append_eq_nil_iff.mp hNone).2
      exact ⟨[], [], .start, rfl, rfl, rfl, hStream⟩
  | cons message messages ih =>
      obtain ⟨body, hBody, hDecode⟩ := hSendable message List.mem_cons_self
      rw [stream_cons hBody] at hStream
      rw [Format.drain_eq]
      rcases Format.poll_reads hBody bytes (hAligned body hBody) hStream with
        ⟨q, hPoll, hReads, hConsumed⟩ | ⟨rest, hPoll, hRest⟩
      · refine ⟨[], message :: messages, q, by rw [hPoll], rfl, ?_, ?_⟩
        · intro body' hBody'
          obtain rfl := Except.ok.inj (hBody.symm.trans hBody')
          exact hReads
        · rw [hConsumed, hStream, stream_cons hBody]
      · have hLater := ih (fun other hMem => hSendable other (List.mem_cons_of_mem _ hMem))
          (aligned_start messages) hRest
        obtain ⟨delivered, remaining, q, hDrain, rfl, hOn, hRemaining⟩ := hLater
        refine ⟨message :: delivered, remaining, q, ?_, rfl, hOn, hRemaining⟩
        rw [hPoll, hDecode]
        simp only [hDrain, Except.map]

/-- With all the bytes there, all the messages are read and none is begun. -/
theorem drainAll_stream {chunks : List Bytes} (hSendable : ∀ message ∈ messages, Sendable F message)
    (hAligned : Aligned F p messages)
    (hStream : p.consumed ++ chunks.flatten = stream F messages) :
    F.drainAll p chunks = .ok (messages, .start) := by
  induction chunks generalizing p messages with
  | nil =>
      rw [List.flatten_nil, List.append_nil] at hStream
      cases messages with
      | nil =>
          obtain rfl : p = .start := hAligned
          rfl
      | cons message messages =>
          obtain ⟨body, hBody, _⟩ := hSendable message List.mem_cons_self
          rw [stream_cons hBody] at hStream
          have hLess := (hAligned body hBody).length_lt
          rw [hStream, List.length_append, List.length_append, length_be32] at hLess
          omega
  | cons chunk chunks ih =>
      rw [List.flatten_cons, ← List.append_assoc] at hStream
      obtain ⟨delivered, remaining, q, hDrain, rfl, hOn, hRemaining⟩ :=
        drain_stream hSendable hAligned hStream
      have hLater := ih (fun other hMem => hSendable other (List.mem_append_right _ hMem)) hOn
        hRemaining
      rw [Format.drainAll, hDrain]
      simp only [bind, Except.bind, hLater]
      rfl

end Drain

variable {json : JsonCodec MediaFrameMetadata} {frame : MediaFrame} {frames : List MediaFrame}
  {bytes rest : Bytes}

theorem map_ok {α β : Type} {x : Except String α} {f : α → β} {b : β} (h : x.map f = .ok b) :
    ∃ a, x = .ok a ∧ f a = b := by
  cases x with
  | error error => cases h
  | ok a => exact ⟨a, rfl, Except.ok.inj h⟩

theorem writeMediaFrames_ok (hJson : ∀ frame ∈ frames, json.ReadsBack frame.metadata)
    (h : writeMediaFrames json frames = .ok bytes) :
    (∀ frame ∈ frames, Sendable (mediaFormat json) frame) ∧
      bytes = stream (mediaFormat json) frames := by
  induction frames generalizing bytes with
  | nil =>
      obtain rfl := Except.ok.inj h
      exact ⟨nofun, rfl⟩
  | cons frame frames ih =>
      obtain ⟨written, hWritten, rfl⟩ := map_ok h
      rw [List.mapM_cons] at hWritten
      obtain ⟨first, hFirst, hWritten⟩ := ok_of_bind hWritten
      obtain ⟨later, hLater, hWritten⟩ := ok_of_bind hWritten
      obtain rfl := Except.ok.inj hWritten
      obtain ⟨body, hBody, rfl⟩ := map_ok hFirst
      have hRest : writeMediaFrames json frames = .ok later.flatten := by
        rw [writeMediaFrames, hLater]
        rfl
      obtain ⟨hSendable, hStream⟩ :=
        ih (fun other hMem => hJson other (List.mem_cons_of_mem _ hMem)) hRest
      have hOwn := mediaFormat_readsBack (hJson frame List.mem_cons_self) body hBody
      constructor
      · intro other hMem
        rcases List.mem_cons.mp hMem with rfl | hRest
        · exact ⟨body, hBody, hOwn⟩
        · exact hSendable other hRest
      · rw [List.flatten_cons, stream_cons hBody, hStream]

theorem mediaCheckLen_ok {len : Nat} (h : mediaCheckLen len = .ok ()) :
    4 ≤ len ∧ len ≤ maxMediaFrameLen := by
  rw [mediaCheckLen, checkFrameLen] at h
  split at h
  · cases h
  · next hCheck =>
      split at hCheck
      · cases hCheck
      · split at h
        · cases h
        · omega

theorem mediaFrame_ok {body : Bytes} (h : mediaFrame json body = .ok frame) :
    frame.validate = .ok () ∧ 0 < readBe32 body ∧ readBe32 body ≤ maxMediaMetadataLen ∧
      readBe32 body ≤ body.length - 4 ∧
      json.fromSlice ((body.drop 4).take (readBe32 body)) = .ok frame.metadata ∧
      frame.payload = body.drop (4 + readBe32 body) := by
  rw [mediaFrame] at h
  simp only at h
  split at h
  · cases h
  · next hLen =>
      obtain ⟨metadata, hMetadata, h⟩ := ok_of_bind h
      obtain ⟨_, hValid, h⟩ := ok_of_bind h
      obtain rfl := Except.ok.inj h
      exact ⟨hValid, by omega, by omega, by omega, hMetadata, rfl⟩

/-- A body that is accepted is cut where the length of the metadata says. -/
theorem holds_of_mediaFrame {total body : Bytes} (hFour : total.length = 4)
    (hLen : body.length = readBe32 total) (hLimits : 4 ≤ readBe32 total)
    (hMax : readBe32 total ≤ maxMediaFrameLen) (h : mediaFrame json body = .ok frame) :
    Holds json (total ++ body ++ rest) rest frame := by
  obtain ⟨hValid, hPositive, hMetadataMax, hInside, hMetadata, hPayload⟩ := mediaFrame_ok h
  have hCut : (body.drop 4).take (readBe32 body) ++ frame.payload = body.drop 4 := by
    rw [hPayload, ← List.drop_drop]
    exact List.take_append_drop _ _
  have hMetadataLen : ((body.drop 4).take (readBe32 body)).length = readBe32 body := by
    rw [List.length_take, List.length_drop]
    omega
  have hPayloadLen : frame.payload.length = body.length - (4 + readBe32 body) := by
    rw [hPayload, List.length_drop]
  refine ⟨hValid, total, body.take 4, (body.drop 4).take (readBe32 body), hFour, ?_, ?_, ?_, hMax,
    ?_, ?_, ?_, hMetadata⟩
  · rw [List.length_take]
    omega
  · rw [List.append_assoc (body.take 4), hCut, List.take_append_drop]
  · rw [hMetadataLen, hPayloadLen]
    omega
  · rw [hMetadataLen, readBe32, readBe32, List.take_take, Nat.min_self]
  · rw [hMetadataLen]
    exact hPositive
  · rw [hMetadataLen]
    exact hMetadataMax

/-- What was written is read back, in whatever portions it comes; and what is read as one frame
is a valid frame whose parts lie inside the announced length. -/
theorem mediaFrames_roundTrip (json : JsonCodec MediaFrameMetadata) (frames : List MediaFrame)
    (hJson : ∀ frame ∈ frames, json.ReadsBack frame.metadata) :
    (∀ bytes, writeMediaFrames json frames = .ok bytes → ∀ chunks : List Bytes,
      chunks.flatten = bytes →
        (mediaFormat json).drainAll .start chunks = .ok (frames, .start)) ∧
    ∀ bytes frame rest, (mediaFormat json).poll .start bytes = .inr (.ok frame, rest) →
      Holds json bytes rest frame := by
  constructor
  · intro bytes hWritten chunks hChunks
    obtain ⟨hSendable, rfl⟩ := writeMediaFrames_ok hJson hWritten
    exact drainAll_stream hSendable (aligned_start frames) hChunks
  · intro bytes frame rest hPoll
    have hPositive : ∀ len, (mediaFormat json).checkLen len = .ok () → 0 < len := by
      intro len hCheck
      exact Nat.lt_of_lt_of_le (by decide) (mediaCheckLen_ok hCheck).1
    have hLess : ([] : Bytes).length < 4 := by decide
    obtain ⟨total, body, rfl, hFour, hCheck, hLen, hDecode⟩ := Format.poll_ok hPositive hLess hPoll
    obtain ⟨hLimits, hMax⟩ := mediaCheckLen_ok hCheck
    exact holds_of_mediaFrame hFour hLen hLimits hMax hDecode

/-- Two frames of one stream, whose bytes come in two portions. -/
theorem mediaFrames_roundTrip_portions :
    ∃ bytes, writeMediaFrames knowsMedia [mediaSample, { mediaSample with payload := [1] }] =
        .ok bytes ∧
      (mediaFormat knowsMedia).drainAll .start [bytes.take 2, bytes.drop 2] =
        .ok ([mediaSample, { mediaSample with payload := [1] }], .start) := by
  have hWrites : (writeMediaFrames knowsMedia
      [mediaSample, { mediaSample with payload := [1] }]).toOption.isSome = true := by
    decide +kernel
  have hJson : ∀ frame ∈ [mediaSample, { mediaSample with payload := [1] }],
      knowsMedia.ReadsBack frame.metadata := by
    have hKnown : knowsMedia.ReadsBack mediaSample.metadata :=
      knowing_readsBack (by decide)
    intro frame hMem
    rcases List.mem_cons.mp hMem with rfl | hRest
    · exact hKnown
    · rw [List.mem_singleton.mp hRest]
      exact hKnown
  cases hWritten : writeMediaFrames knowsMedia
      [mediaSample, { mediaSample with payload := [1] }] with
  | error error =>
      rw [hWritten] at hWrites
      cases hWrites
  | ok bytes =>
      have hCut : [bytes.take 2, bytes.drop 2].flatten = bytes := by simp
      exact ⟨bytes, rfl, (mediaFrames_roundTrip knowsMedia _ hJson).1 bytes hWritten _ hCut⟩

end VoipSwitch.Connector
