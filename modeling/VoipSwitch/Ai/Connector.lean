import VoipSwitch.Lib.Framing
import VoipSwitch.Lib.Json
import VoipSwitch.Lib.Transition

/-! The connections of the AI connector. Each loop waits for an outbound message and for an inbound
frame at once, and drops what it has begun to read of the frame when the outbound message is
first. -/
namespace VoipSwitch

open Framed Framing Transition Document

namespace Connector

section Frames

def maxControlFrameLen : Nat := 1024 * 1024
def maxMediaFrameLen : Nat := 256 * 1024
def maxMediaMetadataLen : Nat := 16 * 1024

/-- The check of `read_frame_len`. -/
def checkFrameLen (maxLen len : Nat) : Except String Unit :=
  if len = 0 ∨ maxLen < len then .error s!"invalid frame length {len}, maximum {maxLen}"
  else .ok ()

/-- The check of `write_frame`. -/
def writtenBody (maxLen : Nat) (body : Bytes) : Except String Bytes :=
  if body.isEmpty ∨ maxLen < body.length then
    .error s!"invalid frame length {body.length}, maximum {maxLen}"
  else .ok body

/-- The texts of the values of a type, as `serde_json` writes and reads them. -/
structure JsonCodec (α : Type) where
  toVec : α → Bytes
  fromSlice : Bytes → Except String α

/-- The text of a value is read as this value, and is not empty. -/
def JsonCodec.ReadsBack {α : Type} (json : JsonCodec α) (value : α) : Prop :=
  json.fromSlice (json.toVec value) = .ok value ∧ json.toVec value ≠ []

theorem writtenBody_ok {maxLen : Nat} {body written : Bytes}
    (h : writtenBody maxLen body = .ok written) :
    written = body ∧ 0 < body.length ∧ body.length ≤ maxLen := by
  rw [writtenBody] at h
  split at h
  · cases h
  · next hNot =>
      rw [not_or, List.isEmpty_iff, Nat.not_lt] at hNot
      exact ⟨(Except.ok.inj h).symm, List.length_pos_iff.mpr hNot.1, hNot.2⟩

theorem checkFrameLen_ok {maxLen len : Nat} (hPositive : 0 < len) (hLe : len ≤ maxLen) :
    checkFrameLen maxLen len = .ok () := by
  apply if_neg
  rintro (hZero | hLess)
  · exact Nat.ne_of_gt hPositive hZero
  · exact Nat.not_lt.mpr hLe hLess

end Frames

section Control

/-- The messages of the control connection have the type `μ`. -/
structure ControlEnvelope (μ : Type) where
  protocolVersion : UInt16
  messageId : String
  timestampMs : UInt64
  message : μ
deriving DecidableEq

def protocolVersion : UInt16 := 1

/-- `ControlEnvelope::validate`; messages have a check of their own. -/
def ControlEnvelope.validate {μ : Type} (validMessage : μ → Except String Unit)
    (envelope : ControlEnvelope μ) : Except String Unit :=
  if envelope.protocolVersion ≠ VoipSwitch.Connector.protocolVersion then
    .error s!"unsupported protocol version {envelope.protocolVersion}, expected {1}"
  else validMessage envelope.message

/-- `read_json_frame` and `write_json_frame`. -/
def controlFormat {μ : Type} (json : JsonCodec (ControlEnvelope μ)) :
    Format (ControlEnvelope μ) where
  checkLen := checkFrameLen maxControlFrameLen
  encode envelope := writtenBody maxControlFrameLen (json.toVec envelope)
  decode := json.fromSlice
  checkLen_encode h := by
    obtain ⟨rfl, hPositive, hLe⟩ := writtenBody_ok h
    exact ⟨checkFrameLen_ok hPositive hLe, hPositive, Nat.lt_of_le_of_lt hLe (by decide)⟩

theorem controlFormat_readsBack {μ : Type} {json : JsonCodec (ControlEnvelope μ)}
    {envelope : ControlEnvelope μ} (h : json.ReadsBack envelope) :
    (controlFormat json).ReadsBack envelope := by
  intro body hBody
  rw [(writtenBody_ok hBody).1]
  exact h.1

end Control

section Media

inductive MediaDirection where
  | fromParticipant
  | toParticipant
deriving DecidableEq

inductive AudioCodec where
  | pcma
  | pcmu
  | pcm16Le
deriving DecidableEq

structure MediaFrameMetadata where
  jobId : String
  tenantId : String
  conversationId : String
  participantId : String
  streamId : String
  sequence : UInt64
  generation : UInt64
  direction : MediaDirection
  codec : AudioCodec
  sampleRate : UInt32
  channels : UInt8
  mediaTimestamp : UInt64
  durationMs : UInt16
  endOfStream : Bool
deriving DecidableEq

structure MediaFrame where
  metadata : MediaFrameMetadata
  payload : Bytes
deriving DecidableEq

def MediaFrame.validate (frame : MediaFrame) : Except String Unit :=
  if frame.metadata.generation = 0 then .error "media generation must be greater than zero"
  else if frame.metadata.channels = 0 ∨ 2 < frame.metadata.channels then
    .error "media channels must be 1 or 2"
  else if frame.metadata.sampleRate = 0 ∨ frame.metadata.durationMs = 0 then
    .error "media sample rate and duration must be non-zero"
  else if frame.payload.isEmpty ∧ ¬ frame.metadata.endOfStream then
    .error "non-terminal media frame requires payload"
  else .ok ()

variable (json : JsonCodec MediaFrameMetadata)

/-- The body that `write_media_frame` writes. -/
def mediaBody (frame : MediaFrame) : Except String Bytes := do
  frame.validate
  let metadata := json.toVec frame.metadata
  if maxMediaMetadataLen < metadata.length then .error "media metadata too large"
  else writtenBody maxMediaFrameLen (be32 metadata.length ++ metadata ++ frame.payload)

/-- What `read_media_frame` makes of a body. -/
def mediaFrame (body : Bytes) : Except String MediaFrame :=
  let metadataLen := readBe32 body
  if metadataLen = 0 ∨ maxMediaMetadataLen < metadataLen ∨ body.length - 4 < metadataLen then
    .error s!"invalid media metadata length {metadataLen}"
  else do
    let metadata ← json.fromSlice ((body.drop 4).take metadataLen)
    let frame : MediaFrame := { metadata, payload := body.drop (4 + metadataLen) }
    frame.validate
    return frame

def mediaCheckLen (len : Nat) : Except String Unit :=
  match checkFrameLen maxMediaFrameLen len with
  | .error error => .error error
  | .ok () => if len < 4 then .error "media frame too short" else .ok ()

variable {json}

theorem mediaBody_ok {frame : MediaFrame} {body : Bytes} (h : mediaBody json frame = .ok body) :
    frame.validate = .ok () ∧
      body = be32 (json.toVec frame.metadata).length ++ json.toVec frame.metadata ++
        frame.payload ∧
      (json.toVec frame.metadata).length ≤ maxMediaMetadataLen ∧
        body.length ≤ maxMediaFrameLen := by
  rw [mediaBody] at h
  cases hValid : frame.validate with
  | error error =>
      rw [hValid] at h
      cases h
  | ok _ =>
      rw [hValid] at h
      simp only [bind, Except.bind] at h
      split at h
      · cases h
      · next hMetadata =>
          obtain ⟨rfl, _, hLe⟩ := writtenBody_ok h
          exact ⟨rfl, rfl, Nat.not_lt.mp hMetadata, hLe⟩

/-- `read_media_frame` and `write_media_frame`. -/
def mediaFormat (json : JsonCodec MediaFrameMetadata) : Format MediaFrame where
  checkLen := mediaCheckLen
  encode := mediaBody json
  decode := mediaFrame json
  checkLen_encode h := by
    obtain ⟨_, rfl, _, hLe⟩ := mediaBody_ok h
    simp only [List.length_append, length_be32] at hLe ⊢
    refine ⟨?_, by omega, Nat.lt_of_le_of_lt hLe (by decide)⟩
    rw [mediaCheckLen, checkFrameLen_ok (by omega) hLe]
    exact if_neg (by omega)

theorem mediaFormat_readsBack {frame : MediaFrame} (h : json.ReadsBack frame.metadata) :
    (mediaFormat json).ReadsBack frame := by
  intro body hBody
  obtain ⟨hValid, rfl, hMetadata, _⟩ := mediaBody_ok hBody
  have hPositive := List.length_pos_iff.mpr h.2
  have hDrop : (be32 (json.toVec frame.metadata).length ++ json.toVec frame.metadata ++
      frame.payload).drop 4 = json.toVec frame.metadata ++ frame.payload := by
    rw [List.append_assoc]
    exact List.drop_left' (length_be32 _)
  have hLen : readBe32 (be32 (json.toVec frame.metadata).length ++ json.toVec frame.metadata ++
      frame.payload) = (json.toVec frame.metadata).length := by
    rw [List.append_assoc]
    exact readBe32_be32 (Nat.lt_of_le_of_lt hMetadata (by decide)) _
  change mediaFrame json _ = _
  rw [mediaFrame]
  simp only [hLen]
  rw [if_neg]
  · rw [hDrop, List.take_left' rfl, ← List.drop_drop, hDrop, List.drop_left' rfl, h.1]
    simp only [bind, Except.bind, hValid]
    rfl
  · rintro (hZero | hLarge | hShort)
    · exact Nat.ne_of_gt hPositive hZero
    · exact Nat.not_lt.mpr hMetadata hLarge
    · simp only [List.length_append, length_be32] at hShort
      omega

end Media

/-- Whether a loop goes on, has left for a reason other than the frames, or has failed to read a
frame. -/
inductive Status where
  | running
  | ended
  | failed
deriving DecidableEq

/-- A connection: what the gateway has written, the bytes on their way, those that have arrived,
what is read of a frame, and what was delivered. -/
structure Connection (α : Type) where
  written : List α
  pipe : Bytes
  buffer : Bytes
  reading : Progress
  delivered : List α
  status : Status

inductive Action (α : Type) where
  | write (message : α)
  | arrive (count : Nat)
  /-- The pending read is polled. -/
  | poll
  /-- The other branch is first: the pending read is dropped, and a message written or not. -/
  | outbound (written : Bool)
  /-- The queue of outbound messages is closed, or the stream has ended. -/
  | close

namespace Connection

variable {α : Type}

def opened : Connection α where
  written := []
  pipe := []
  buffer := []
  reading := .start
  delivered := []
  status := .running

def step (F : Format α) (accepts : α → Bool) (s : Connection α) :
    Action α → Option (Connection α)
  | .write message =>
      match F.frame message with
      | .error _ => none
      | .ok bytes => some { s with written := s.written ++ [message], pipe := s.pipe ++ bytes }
  | .arrive count =>
      some { s with buffer := s.buffer ++ s.pipe.take count, pipe := s.pipe.drop count }
  | .poll =>
      if s.status ≠ .running then none
      else
        match F.poll s.reading s.buffer with
        | .inl reading => some { s with reading, buffer := [] }
        | .inr (.error _, _) => some { s with status := .failed }
        | .inr (.ok message, rest) =>
            if accepts message then
              some { s with
                delivered := s.delivered ++ [message], reading := .start, buffer := rest }
            else some { s with status := .ended }
  | .outbound written =>
      if s.status ≠ .running then none
      else some { s with reading := .start, status := if written then .running else .ended }
  | .close => if s.status ≠ .running then none else some { s with status := .ended }

/-- The gateway sends some messages. -/
def system (F : Format α) (accepts : α → Bool) (sends : α → Prop) :
    System (Connection α) (Action α) where
  init s := s = .opened
  next s action t :=
    (∀ message, action = .write message → sends message) ∧ s.step F accepts action = some t

/-- The bytes of some messages. -/
def stream (F : Format α) (messages : List α) : Bytes :=
  messages.flatMap fun message =>
    match F.frame message with
    | .ok bytes => bytes
    | .error _ => []

/-- What is delivered comes first of what was written; and while the loop goes on, the bytes of
the other messages are those in hand and those to come. -/
def Intact (F : Format α) (s : Connection α) : Prop :=
  s.status ≠ .failed ∧ ∃ remaining, s.written = s.delivered ++ remaining ∧
    (s.status = .running → s.reading.consumed ++ s.buffer ++ s.pipe = stream F remaining)

/-- No read is dropped that has taken a byte, unless the connection is given up. -/
def Unbroken (s : Connection α) : Action α → Prop
  | .outbound true => s.reading = .start
  | _ => True

/-- The reading is at the start, or in the first message. -/
def Aligned (F : Format α) (reading : Progress) : List α → Prop
  | [] => reading = .start
  | message :: _ => ∀ body, F.encode message = .ok body → reading.Reads body

/-- A message that can be written, and is read as it was written. -/
def Sendable (F : Format α) (message : α) : Prop :=
  ∃ body, F.encode message = .ok body ∧ F.decode body = .ok message

/-- The connection is intact, and the reading is in the right place. -/
def Sound (F : Format α) (s : Connection α) : Prop :=
  s.status ≠ .failed ∧ ∃ remaining, s.written = s.delivered ++ remaining ∧
    (∀ message ∈ remaining, Sendable F message) ∧
    (s.status = .running →
      s.reading.consumed ++ s.buffer ++ s.pipe = stream F remaining ∧
        Aligned F s.reading remaining)

variable {F : Format α} {accepts : α → Bool} {sends : α → Prop} {s t : Connection α}
  {action : Action α} {message : α} {messages : List α}

theorem Sound.intact (h : Sound F s) : Intact F s := by
  obtain ⟨hNotFailed, remaining, hWritten, _, hRunning⟩ := h
  exact ⟨hNotFailed, remaining, hWritten, fun hStatus => (hRunning hStatus).1⟩

theorem stream_cons {body : Bytes} (hBody : F.encode message = .ok body) :
    stream F (message :: messages) = be32 body.length ++ body ++ stream F messages := by
  rw [stream, List.flatMap_cons, Format.frame, hBody]
  rfl

theorem stream_append_singleton {bytes : Bytes} (hFrame : F.frame message = .ok bytes) :
    stream F (messages ++ [message]) = stream F messages ++ bytes := by
  rw [stream, List.flatMap_append, List.flatMap_singleton, hFrame]
  rfl

theorem aligned_start (messages : List α) : Aligned F .start messages := by
  cases messages with
  | nil => rfl
  | cons message messages => exact fun body _ => Progress.reads_start body

theorem Aligned.append_singleton {reading : Progress} (h : Aligned F reading messages) :
    Aligned F reading (messages ++ [message]) := by
  cases messages with
  | nil =>
      obtain rfl : reading = .start := h
      exact aligned_start [message]
  | cons first messages => exact h

theorem Sound.write (h : Sound F s) (hReads : F.ReadsBack message) {bytes : Bytes}
    (hFrame : F.frame message = .ok bytes) :
    Sound F { s with written := s.written ++ [message], pipe := s.pipe ++ bytes } := by
  obtain ⟨hNotFailed, remaining, hWritten, hSendable, hRunning⟩ := h
  have hNew : Sendable F message := by
    rw [Format.frame] at hFrame
    cases hBody : F.encode message with
    | error error =>
        rw [hBody] at hFrame
        cases hFrame
    | ok body => exact ⟨body, hBody, hReads body hBody⟩
  refine ⟨hNotFailed, remaining ++ [message], ?_, fun other hMem => ?_, fun hStatus => ?_⟩
  · rw [hWritten, List.append_assoc]
  · rcases List.mem_append.mp hMem with hOld | hLast
    · exact hSendable other hOld
    · rw [List.mem_singleton.mp hLast]
      exact hNew
  · obtain ⟨hStream, hAligned⟩ := hRunning hStatus
    refine ⟨?_, hAligned.append_singleton⟩
    rw [stream_append_singleton hFrame, ← hStream,
      List.append_assoc (s.reading.consumed ++ s.buffer)]

theorem Sound.arrive (h : Sound F s) (count : Nat) :
    Sound F { s with buffer := s.buffer ++ s.pipe.take count, pipe := s.pipe.drop count } := by
  obtain ⟨hNotFailed, remaining, hWritten, hSendable, hRunning⟩ := h
  refine ⟨hNotFailed, remaining, hWritten, hSendable, fun hStatus => ?_⟩
  obtain ⟨hStream, hAligned⟩ := hRunning hStatus
  refine ⟨?_, hAligned⟩
  rw [← hStream, ← List.append_assoc, List.append_assoc, List.take_append_drop]

/-- A poll takes bytes of the first message that is not delivered, and delivers it with its last
byte. -/
theorem Sound.poll (h : Sound F s) (hStep : s.step F accepts .poll = some t) : Sound F t := by
  obtain ⟨hNotFailed, remaining, hWritten, hSendable, hRunning⟩ := h
  rw [step] at hStep
  split at hStep
  · cases hStep
  · next hStatus =>
      obtain ⟨hStream, hAligned⟩ := hRunning (not_not.mp hStatus)
      cases remaining with
      | nil =>
          have hNone : (s.reading.consumed ++ s.buffer) ++ s.pipe = [] := hStream
          have hHand := (List.append_eq_nil_iff.mp hNone).1
          have hBuffer := (List.append_eq_nil_iff.mp hHand).2
          have hPoll : F.poll s.reading s.buffer = .inl s.reading := by
            rw [hBuffer]
            rfl
          simp only [hPoll] at hStep
          rw [← Option.some.inj hStep]
          refine ⟨hNotFailed, [], hWritten, hSendable, fun _ => ⟨?_, hAligned⟩⟩
          rw [hBuffer] at hStream
          exact hStream
      | cons message messages =>
          obtain ⟨body, hBody, hDecode⟩ := hSendable message List.mem_cons_self
          rw [stream_cons hBody] at hStream
          rcases Format.poll_reads hBody s.buffer (hAligned body hBody) hStream with
            ⟨q, hPoll, hReads, hConsumed⟩ | ⟨rest, hPoll, hRest⟩
          · simp only [hPoll] at hStep
            rw [← Option.some.inj hStep]
            refine ⟨hNotFailed, message :: messages, hWritten, hSendable, fun _ => ⟨?_, ?_⟩⟩
            · rw [stream_cons hBody, ← hStream, hConsumed, List.append_nil]
            · intro body' hBody'
              obtain rfl := Except.ok.inj (hBody.symm.trans hBody')
              exact hReads
          · simp only [hPoll, hDecode] at hStep
            split at hStep
            · rw [← Option.some.inj hStep]
              refine ⟨hNotFailed, messages, ?_, ?_, fun _ => ⟨hRest, aligned_start messages⟩⟩
              · rw [hWritten, List.append_assoc]
                rfl
              · exact fun other hMem => hSendable other (List.mem_cons_of_mem _ hMem)
            · rw [← Option.some.inj hStep]
              exact ⟨nofun, message :: messages, hWritten, hSendable, nofun⟩

theorem Sound.step (h : Sound F s) (hReads : ∀ message, sends message → F.ReadsBack message)
    (hNext : (system F accepts sends).next s action t) (hUnbroken : s.Unbroken action) :
    Sound F t := by
  obtain ⟨hSends, hStep⟩ := hNext
  cases action with
  | write message =>
      rw [Connection.step] at hStep
      split at hStep
      · cases hStep
      · next bytes hFrame =>
          rw [← Option.some.inj hStep]
          exact h.write (hReads message (hSends message rfl)) hFrame
  | arrive count =>
      rw [← Option.some.inj hStep]
      exact h.arrive count
  | poll => exact h.poll hStep
  | outbound written =>
      obtain ⟨hNotFailed, remaining, hWritten, hSendable, hRunning⟩ := h
      rw [Connection.step] at hStep
      split at hStep
      · cases hStep
      · next hStatus =>
          rw [← Option.some.inj hStep]
          cases written with
          | false => exact ⟨nofun, remaining, hWritten, hSendable, nofun⟩
          | true =>
              obtain ⟨hStream, _⟩ := hRunning (not_not.mp hStatus)
              have hStart : s.reading = .start := hUnbroken
              rw [hStart] at hStream
              exact ⟨nofun, remaining, hWritten, hSendable,
                fun _ => ⟨hStream, aligned_start remaining⟩⟩
  | close =>
      obtain ⟨_, remaining, hWritten, hSendable, _⟩ := h
      rw [Connection.step] at hStep
      split at hStep
      · cases hStep
      · rw [← Option.some.inj hStep]
        exact ⟨nofun, remaining, hWritten, hSendable, nofun⟩

/-- A dropped read that has taken bytes loses them. -/
theorem Sound.unbroken_of_intact (h : Sound F s)
    (hStep : s.step F accepts action = some t) (hIntact : Intact F t) : s.Unbroken action := by
  cases action with
  | outbound written =>
      cases written with
      | false => trivial
      | true =>
          obtain ⟨_, remaining, hWritten, _, hRunning⟩ := h
          rw [Connection.step] at hStep
          split at hStep
          · cases hStep
          · next hStatus =>
              obtain ⟨hStream, _⟩ := hRunning (not_not.mp hStatus)
              rw [← Option.some.inj hStep] at hIntact
              obtain ⟨_, remaining', hWritten', hRunning'⟩ := hIntact
              have hStream' : s.buffer ++ s.pipe = stream F remaining' := hRunning' rfl
              have hSame : remaining' = remaining :=
                List.append_cancel_left (hWritten'.symm.trans hWritten)
              rw [hSame, ← hStream, List.append_assoc] at hStream'
              have hNil : s.reading.consumed = [] := by
                have hLengths := congrArg List.length hStream'
                simp only [List.length_append] at hLengths
                exact List.length_eq_zero_iff.mp (by omega)
              exact Progress.consumed_eq_nil.mp hNil
  | write message => trivial
  | arrive count => trivial
  | poll => trivial
  | close => trivial

/-- When everything has arrived and been read, everything is delivered. -/
theorem Sound.delivered_eq (h : Sound F s) (hStatus : s.status = .running) (hPipe : s.pipe = [])
    (hBuffer : s.buffer = []) : s.delivered = s.written := by
  obtain ⟨_, remaining, hWritten, hSendable, hRunning⟩ := h
  obtain ⟨hStream, hAligned⟩ := hRunning hStatus
  cases remaining with
  | nil => rw [hWritten, List.append_nil]
  | cons message messages =>
      obtain ⟨body, hBody, _⟩ := hSendable message List.mem_cons_self
      have hLess := (hAligned body hBody).length_lt
      rw [stream_cons hBody, hPipe, hBuffer, List.append_nil, List.append_nil] at hStream
      rw [hStream] at hLess
      simp only [List.length_append, length_be32] at hLess
      omega

/-- While no read is dropped that has taken bytes, the messages are delivered as they were
written. -/
theorem intact_of_unbroken (hReads : ∀ message, sends message → F.ReadsBack message)
    (h : ReachableWithin (system F accepts sends) Unbroken s) :
    (Intact F s ∧ s.delivered <+: s.written ∧
      (s.status = .running → s.pipe = [] → s.buffer = [] → s.delivered = s.written)) ∧
      ∀ action t, (system F accepts sends).next s action t →
        (Intact F t ↔ s.Unbroken action) := by
  have hSound : Sound F s := by
    apply h.invariant
    · rintro s rfl
      exact ⟨nofun, [], rfl, nofun, fun _ => ⟨rfl, rfl⟩⟩
    · exact fun s action t hSound hUnbroken hNext => hSound.step hReads hNext hUnbroken
  refine ⟨⟨hSound.intact, ?_, hSound.delivered_eq⟩, fun action t hNext => ⟨?_, ?_⟩⟩
  · obtain ⟨_, remaining, hWritten, _⟩ := hSound
    exact ⟨remaining, hWritten.symm⟩
  · exact hSound.unbroken_of_intact hNext.2
  · exact fun hUnbroken => (hSound.step hReads hNext hUnbroken).intact

end Connection

section Connections

variable {μ : Type}

/-- The loop of `run_control_connection`; an envelope that is not valid ends it. -/
def controlConnection (json : JsonCodec (ControlEnvelope μ))
    (validMessage : μ → Except String Unit) (envelopes : ControlEnvelope μ → Prop) :
    System (Connection (ControlEnvelope μ)) (Action (ControlEnvelope μ)) :=
  Connection.system (controlFormat json) (fun envelope => (envelope.validate validMessage).isOk)
    envelopes

/-- The loop of `run_media_connection`. -/
def mediaConnection (json : JsonCodec MediaFrameMetadata) (frames : MediaFrame → Prop) :
    System (Connection MediaFrame) (Action MediaFrame) :=
  Connection.system (mediaFormat json) (fun _ => true) frames

/-- Envelopes and media frames are delivered as the gateway has written them, however their bytes
arrive, while no read is dropped that has taken bytes; and the first that is dropped breaks the
stream. -/
theorem frames_kept_of_unbroken {controlJson : JsonCodec (ControlEnvelope μ)}
    {validMessage : μ → Except String Unit} {envelopes : ControlEnvelope μ → Prop}
    {mediaJson : JsonCodec MediaFrameMetadata} {frames : MediaFrame → Prop}
    (hControl : ∀ envelope, envelopes envelope → controlJson.ReadsBack envelope)
    (hMedia : ∀ frame, frames frame → mediaJson.ReadsBack frame.metadata) :
    (∀ s, ReachableWithin (controlConnection controlJson validMessage envelopes)
        Connection.Unbroken s →
      (s.Intact (controlFormat controlJson) ∧ s.delivered <+: s.written ∧
        (s.status = .running → s.pipe = [] → s.buffer = [] → s.delivered = s.written)) ∧
        ∀ action t, (controlConnection controlJson validMessage envelopes).next s action t →
          (t.Intact (controlFormat controlJson) ↔ s.Unbroken action)) ∧
      ∀ s, ReachableWithin (mediaConnection mediaJson frames) Connection.Unbroken s →
        (s.Intact (mediaFormat mediaJson) ∧ s.delivered <+: s.written ∧
          (s.status = .running → s.pipe = [] → s.buffer = [] → s.delivered = s.written)) ∧
          ∀ action t, (mediaConnection mediaJson frames).next s action t →
            (t.Intact (mediaFormat mediaJson) ↔ s.Unbroken action) := by
  constructor
  · intro s hReached
    exact Connection.intact_of_unbroken
      (fun envelope hSent => controlFormat_readsBack (hControl envelope hSent)) hReached
  · intro s hReached
    exact Connection.intact_of_unbroken
      (fun frame hSent => mediaFormat_readsBack (hMedia frame hSent)) hReached

end Connections

section Samples

structure ProtocolError where
  code : String
  message : String
  retryable : Bool
  relatedMessageId : Option String
deriving DecidableEq

def ProtocolError.document (error : ProtocolError) : Json :=
  .obj [("code", .str error.code), ("message", .str error.message),
    ("retryable", .bool error.retryable),
    ("related_message_id", match error.relatedMessageId with
      | some id => .str id
      | none => .null)]

def ControlEnvelope.document (envelope : ControlEnvelope ProtocolError) : Json :=
  .obj [("protocol_version", .num envelope.protocolVersion.toNat),
    ("message_id", .str envelope.messageId), ("timestamp_ms", .num envelope.timestampMs.toNat),
    ("type", .str "error"), ("payload", envelope.message.document)]

def MediaFrameMetadata.document (metadata : MediaFrameMetadata) : Json :=
  .obj [("job_id", .str metadata.jobId), ("tenant_id", .str metadata.tenantId),
    ("conversation_id", .str metadata.conversationId),
    ("participant_id", .str metadata.participantId), ("stream_id", .str metadata.streamId),
    ("sequence", .num metadata.sequence.toNat), ("generation", .num metadata.generation.toNat),
    ("direction", .str (match metadata.direction with
      | .fromParticipant => "from_participant"
      | .toParticipant => "to_participant")),
    ("codec", .str (match metadata.codec with
      | .pcma => "pcma"
      | .pcmu => "pcmu"
      | .pcm16Le => "pcm16_le")),
    ("sample_rate", .num metadata.sampleRate.toNat), ("channels", .num metadata.channels.toNat),
    ("media_timestamp", .num metadata.mediaTimestamp.toNat),
    ("duration_ms", .num metadata.durationMs.toNat),
    ("end_of_stream", .bool metadata.endOfStream)]

/-- Texts of documents, and a reader that knows one of them. -/
def knowing {α : Type} (document : α → Json) (known : α) : JsonCodec α where
  toVec value := (document value).render
  fromSlice bytes :=
    if bytes = (document known).render then .ok known
    else .error "expected value at line 1 column 1"

def busyError : ControlEnvelope ProtocolError where
  protocolVersion := 1
  messageId := "gateway-1"
  timestampMs := 1
  message := { code := "busy", message := "try again", retryable := true, relatedMessageId := none }

def mediaSample : MediaFrame where
  metadata := {
    jobId := "job-1", tenantId := "tenant-1", conversationId := "conversation-1"
    participantId := "participant-1", streamId := "stream-1", sequence := 4, generation := 1
    direction := .fromParticipant, codec := .pcmu, sampleRate := 8000, channels := 1
    mediaTimestamp := 640, durationMs := 20, endOfStream := false }
  payload := List.replicate 160 0x7f

def knowsError : JsonCodec (ControlEnvelope ProtocolError) :=
  knowing ControlEnvelope.document busyError

def knowsMedia : JsonCodec MediaFrameMetadata :=
  knowing MediaFrameMetadata.document mediaSample.metadata

theorem knowing_readsBack {α : Type} {document : α → Json} {known : α}
    (h : (document known).render ≠ []) : (knowing document known).ReadsBack known :=
  ⟨if_pos rfl, h⟩

section Steps

variable {α : Type} [DecidableEq α] (F : Format α) (accepts : α → Bool) (known : α)

def writesOnly : Action α → Bool
  | .write message => message = known
  | _ => true

def knownStep (s : Connection α) (action : Action α) : Option (Connection α) :=
  if writesOnly known action then s.step F accepts action else none

def isUnbroken (s : Connection α) : Action α → Bool
  | .outbound true => s.reading = .start
  | _ => true

def unbrokenStep (s : Connection α) (action : Action α) : Option (Connection α) :=
  if isUnbroken s action then knownStep F accepts known s action else none

variable {F accepts known}

theorem next_of_knownStep {s t : Connection α} {action : Action α}
    (h : knownStep F accepts known s action = some t) :
    (Connection.system F accepts (· = known)).next s action t := by
  rw [knownStep] at h
  split at h
  · next hKnown =>
      refine ⟨fun message hWrite => ?_, h⟩
      rw [hWrite] at hKnown
      exact of_decide_eq_true hKnown
  · cases h

omit [DecidableEq α] in
theorem unbroken_of_isUnbroken {s : Connection α} {action : Action α}
    (h : isUnbroken s action = true) : s.Unbroken action := by
  cases action with
  | outbound written =>
      cases written with
      | false => trivial
      | true =>
          have hStart : decide (s.reading = .start) = true := h
          rw [decide_eq_true_eq] at hStart
          exact hStart
  | write message => trivial
  | arrive count => trivial
  | poll => trivial
  | close => trivial

theorem reachable_of_unbrokenStep {schedule : List (Action α)} {s : Connection α}
    (h : schedule.foldlM (unbrokenStep F accepts known) .opened = some s) :
    ReachableWithin (Connection.system F accepts (· = known)) Connection.Unbroken s := by
  refine ⟨.opened, rfl, runsWithin_of_foldlM ?_ h⟩
  intro s action t hStep
  rw [unbrokenStep] at hStep
  split at hStep
  · next hUnbroken => exact ⟨unbroken_of_isUnbroken hUnbroken, next_of_knownStep hStep⟩
  · cases hStep

end Steps

abbrev errorConnection := controlConnection knowsError (fun _ => .ok ()) (· = busyError)

def acceptsError (envelope : ControlEnvelope ProtocolError) : Bool :=
  (envelope.validate fun _ => .ok ()).isOk

/-- A frame that arrives in two parts, after an outbound message. -/
def inParts {α : Type} (message : α) : List (Action α) :=
  [.outbound true, .write message, .arrive 2, .poll, .arrive 1000, .poll]

theorem frames_kept_of_unbroken_sample :
    ∃ s : Connection (ControlEnvelope ProtocolError), s.written = [busyError] ∧
      s.delivered = s.written := by
  have hRun : ((inParts busyError).foldlM
      (unbrokenStep (controlFormat knowsError) acceptsError busyError) .opened).any (fun s =>
        s.written = [busyError] && s.status = .running && s.pipe.isEmpty && s.buffer.isEmpty) =
      true := by
    decide +kernel
  obtain ⟨s, hEnd, hIdle⟩ := (Option.any_eq_true ..).mp hRun
  simp only [Bool.and_eq_true, decide_eq_true_eq, List.isEmpty_iff] at hIdle
  obtain ⟨⟨⟨hWritten, hStatus⟩, hPipe⟩, hBuffer⟩ := hIdle
  have hControl : ∀ envelope, envelope = busyError → knowsError.ReadsBack envelope := by
    rintro envelope rfl
    exact knowing_readsBack (by decide)
  have hMedia : ∀ frame, frame = mediaSample → knowsMedia.ReadsBack frame.metadata := by
    rintro frame rfl
    exact knowing_readsBack (by decide)
  have hReached : ReachableWithin errorConnection Connection.Unbroken s :=
    reachable_of_unbrokenStep hEnd
  obtain ⟨_, _, hDelivered⟩ := ((frames_kept_of_unbroken hControl hMedia).1 s hReached).1
  exact ⟨s, hWritten, hDelivered hStatus hPipe hBuffer⟩

/-- An outbound message is first after two bytes of a frame have been read. -/
theorem dropped_read_loses_frame :
    ∃ s, Reachable errorConnection s ∧ s.written = [busyError] ∧ s.pipe = [] ∧
      s.delivered = [] ∧ s.status = .failed ∧ ¬ s.Intact (controlFormat knowsError) := by
  have hRun : ([.write busyError, .arrive 2, .poll, .outbound true, .arrive 1000, .poll].foldlM
      (knownStep (controlFormat knowsError) acceptsError busyError) .opened).any (fun s =>
        s.written = [busyError] && s.pipe.isEmpty && s.delivered.isEmpty && s.status = .failed) =
      true := by
    decide +kernel
  obtain ⟨s, hEnd, hLost⟩ := (Option.any_eq_true ..).mp hRun
  simp only [Bool.and_eq_true, decide_eq_true_eq, List.isEmpty_iff] at hLost
  obtain ⟨⟨⟨hWritten, hPipe⟩, hDelivered⟩, hStatus⟩ := hLost
  refine ⟨s, ⟨.opened, rfl, runsWithin_of_foldlM (fun _ _ _ hStep => ?_) hEnd⟩, hWritten, hPipe,
    hDelivered, hStatus, fun hIntact => hIntact.1 hStatus⟩
  exact ⟨trivial, next_of_knownStep hStep⟩

end Samples

end Connector

end VoipSwitch
