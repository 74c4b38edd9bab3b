import VoipSwitch.Ai.Identifiers
import VoipSwitch.Lib.JsonText

/-! The control frame that starts a conversation. What is accepted of a start is measured in bytes
of the prompt, and what fits into a frame in bytes of the text. -/
namespace VoipSwitch.AiProtocol

open Connector Framed Framing Document Json

section Texts

-- `ryu`, which writes a finite `f64`, and `serde_json` as a parser.
variable (ratioText : ℚ → Bytes)

def AiPipelineType.label : AiPipelineType → String
  | .transcription => "transcription"
  | .realtimeAssist => "realtime_assist"
  | .postCallAnalysis => "post_call_analysis"
  | .llmTask => "llm_task"
  | .voiceAgent => "voice_agent"

def directionLabel : MediaDirection → String
  | .fromParticipant => "from_participant"
  | .toParticipant => "to_participant"

def codecLabel : AudioCodec → String
  | .pcma => "pcma"
  | .pcmu => "pcmu"
  | .pcm16Le => "pcm16_le"

def jobRefText (job : JobRef) : Bytes :=
  objectText [("job_id", renderStr job.jobId), ("tenant_id", renderStr job.tenantId),
    ("conversation_id", renderStr job.conversationId),
    ("operation_id", renderStr job.operationId), ("generation", numberText job.generation)]

def AiProfileSnapshot.jsonText (profile : AiProfileSnapshot) : Bytes :=
  objectText [("profile_id", renderStr profile.profileId),
    ("profile_version", numberText profile.profileVersion),
    ("pipeline_type", renderStr profile.pipelineType.label),
    ("asr_provider_id", optionText profile.asrProviderId),
    ("llm_provider_id", optionText profile.llmProviderId),
    ("tts_provider_id", optionText profile.ttsProviderId),
    ("capture_complete_ratio", ratioText profile.captureCompleteRatio),
    ("capture_process_min_ratio", ratioText profile.captureProcessMinRatio),
    ("capture_complete_max_gap_ms", numberText profile.captureCompleteMaxGapMs),
    ("capture_process_max_gap_ms", numberText profile.captureProcessMaxGapMs)]

def Participant.jsonText (participant : Participant) : Bytes :=
  objectText [("participant_id", renderStr participant.participantId),
    ("role", renderStr participant.role),
    ("display_number", optionText participant.displayNumber)]

def StreamBinding.jsonText (stream : StreamBinding) : Bytes :=
  objectText [("stream_id", renderStr stream.streamId),
    ("participant_id", renderStr stream.participantId),
    ("direction", renderStr (directionLabel stream.direction)),
    ("codec", renderStr (codecLabel stream.codec)), ("sample_rate", numberText stream.sampleRate),
    ("channels", numberText stream.channels)]

/-- A vector of bytes is written as an array of numbers. -/
def WelcomePrompt.jsonText : WelcomePrompt → Bytes
  | .text words => objectText [("kind", renderStr "text"), ("value", renderStr words)]
  | .pcmWav bytes =>
    objectText [("kind", renderStr "pcm_wav"),
      ("value", arrayText (bytes.map fun b => numberText b.toNat))]

def welcomeText : Option WelcomePrompt → Bytes
  | some welcome => welcome.jsonText
  | none => utf8 "null"

def StartConversation.jsonText (request : StartConversation) : Bytes :=
  objectText [("conversation", jobRefText request.conversation),
    ("profile", request.profile.jsonText ratioText), ("participant", request.participant.jsonText),
    ("input_stream", request.inputStream.jsonText), ("welcome", welcomeText request.welcome)]

/-- `serde_json::to_vec` of the envelope of a start. -/
def startText (envelope : ControlEnvelope StartConversation) : Bytes :=
  objectText [("protocol_version", numberText envelope.protocolVersion.toNat),
    ("message_id", renderStr envelope.messageId),
    ("timestamp_ms", numberText envelope.timestampMs.toNat),
    ("type", renderStr "start_conversation"), ("payload", envelope.message.jsonText ratioText)]

variable (read : Bytes → Except String (ControlEnvelope StartConversation))

def startJson : JsonCodec (ControlEnvelope StartConversation) where
  toVec := startText ratioText
  fromSlice := read

end Texts

section Lengths

/-- The texts of a start other than its prompt. -/
def startStrings (envelope : ControlEnvelope StartConversation) : List String :=
  let request := envelope.message
  [envelope.messageId, request.conversation.jobId, request.conversation.tenantId,
    request.conversation.conversationId, request.conversation.operationId,
    request.profile.profileId, request.profile.pipelineType.label,
    request.participant.participantId, request.participant.role, request.inputStream.streamId,
    request.inputStream.participantId, directionLabel request.inputStream.direction,
    codecLabel request.inputStream.codec]

def startOptions (request : StartConversation) : List (Option String) :=
  [request.profile.asrProviderId, request.profile.llmProviderId, request.profile.ttsProviderId,
    request.participant.displayNumber]

def startNumbers (envelope : ControlEnvelope StartConversation) : List Nat :=
  let request := envelope.message
  [envelope.protocolVersion.toNat, envelope.timestampMs.toNat, request.conversation.generation,
    request.profile.profileVersion, request.profile.captureCompleteMaxGapMs,
    request.profile.captureProcessMaxGapMs, request.inputStream.sampleRate,
    request.inputStream.channels]

/-- What a start takes up without its prompt: its names, its texts and its numbers. -/
def bareLength (ratioText : ℚ → Bytes) (envelope : ControlEnvelope StartConversation) : Nat :=
  609 + ((startStrings envelope).map escapedLength).sum +
    ((startOptions envelope.message).map optionLength).sum +
    ((startNumbers envelope).map digits).sum +
    (ratioText envelope.message.profile.captureCompleteRatio).length +
    (ratioText envelope.message.profile.captureProcessMinRatio).length

theorem length_jobRefText (job : JobRef) :
    (jobRefText job).length = 81 + escapedLength job.jobId + escapedLength job.tenantId +
      escapedLength job.conversationId + escapedLength job.operationId + digits job.generation := by
  have hNames : (["job_id", "tenant_id", "conversation_id", "operation_id", "generation"].map
      escapedLength).sum = 52 := by
    decide
  rw [jobRefText, length_objectText]
  simp only [List.map_cons, List.map_nil, List.sum_cons, List.sum_nil, length_renderStr,
    length_numberText] at hNames ⊢
  omega

theorem AiProfileSnapshot.length_jsonText (ratioText : ℚ → Bytes) (profile : AiProfileSnapshot) :
    (profile.jsonText ratioText).length = 228 + escapedLength profile.profileId +
      escapedLength profile.pipelineType.label + optionLength profile.asrProviderId +
      optionLength profile.llmProviderId + optionLength profile.ttsProviderId +
      digits profile.profileVersion + digits profile.captureCompleteMaxGapMs +
      digits profile.captureProcessMaxGapMs + (ratioText profile.captureCompleteRatio).length +
      (ratioText profile.captureProcessMinRatio).length := by
  have hNames : (["profile_id", "profile_version", "pipeline_type", "asr_provider_id",
      "llm_provider_id", "tts_provider_id", "capture_complete_ratio", "capture_process_min_ratio",
      "capture_complete_max_gap_ms", "capture_process_max_gap_ms"].map escapedLength).sum =
        183 := by
    decide
  rw [AiProfileSnapshot.jsonText, length_objectText]
  simp only [List.map_cons, List.map_nil, List.sum_cons, List.sum_nil, length_renderStr,
    length_numberText, length_optionText] at hNames ⊢
  omega

theorem Participant.length_jsonText (participant : Participant) :
    participant.jsonText.length = 49 + escapedLength participant.participantId +
      escapedLength participant.role + optionLength participant.displayNumber := by
  have hNames : (["participant_id", "role", "display_number"].map escapedLength).sum = 32 := by
    decide
  rw [Participant.jsonText, length_objectText]
  simp only [List.map_cons, List.map_nil, List.sum_cons, List.sum_nil, length_renderStr,
    length_optionText] at hNames ⊢
  omega

theorem StreamBinding.length_jsonText (stream : StreamBinding) :
    stream.jsonText.length = 89 + escapedLength stream.streamId +
      escapedLength stream.participantId + escapedLength (directionLabel stream.direction) +
      escapedLength (codecLabel stream.codec) + digits stream.sampleRate +
      digits stream.channels := by
  have hNames : (["stream_id", "participant_id", "direction", "codec", "sample_rate",
      "channels"].map escapedLength).sum = 56 := by
    decide
  rw [StreamBinding.jsonText, length_objectText]
  simp only [List.map_cons, List.map_nil, List.sum_cons, List.sum_nil, length_renderStr,
    length_numberText] at hNames ⊢
  omega

theorem length_startText (ratioText : ℚ → Bytes) (envelope : ControlEnvelope StartConversation) :
    (startText ratioText envelope).length =
      bareLength ratioText envelope + (welcomeText envelope.message.welcome).length := by
  have hNames : (["protocol_version", "message_id", "timestamp_ms", "type", "payload",
      "conversation", "profile", "participant", "input_stream", "welcome",
      "start_conversation"].map escapedLength).sum = 116 := by
    decide
  rw [startText, length_objectText]
  simp only [StartConversation.jsonText, length_objectText, List.map_cons, List.map_nil,
    List.sum_cons, List.sum_nil, length_renderStr, length_numberText, length_jobRefText,
    AiProfileSnapshot.length_jsonText, Participant.length_jsonText, StreamBinding.length_jsonText,
    bareLength, startStrings, startOptions, startNumbers] at hNames ⊢
  omega

/-- The digits of the bytes, and a comma or the bracket after each of them. -/
def wavLength (bytes : List UInt8) : Nat :=
  (bytes.map fun b => digits b.toNat + 1).sum

theorem length_welcomeText_wav (first : UInt8) (rest : List UInt8) :
    (welcomeText (some (.pcmWav (first :: rest)))).length = 28 + wavLength (first :: rest) := by
  have hNames : (["kind", "value", "pcm_wav"].map escapedLength).sum = 16 := by
    decide
  have hBytes :
    ((first :: rest).map fun b => numberText b.toNat).map (fun item => item.length + 1) =
      (first :: rest).map fun b => digits b.toNat + 1 := by
    rw [List.map_map]
    apply List.map_congr_left
    intro b _
    exact congrArg (· + 1) (length_numberText b.toNat)
  rw [welcomeText, WelcomePrompt.jsonText, length_objectText, wavLength, ← hBytes]
  simp only [List.map_cons, List.map_nil, List.sum_cons, List.sum_nil, length_renderStr,
    length_arrayText] at hNames ⊢
  omega

end Lengths

section Bounds

/-- What is checked of a start, where an accepted one can be relied on. -/
theorem StartConversation.accepted {request : StartConversation} (h : request.validate = .ok ()) :
    request.profile.validate = .ok () ∧
      ∀ welcome, request.welcome = some welcome → welcome.validate = .ok () := by
  simp only [StartConversation.validate, Bind.bind, Except.bind, throw, throwThe,
    MonadExceptOf.throw] at h
  split at h
  · exact absurd h (by simp)
  · next hProfile =>
      refine ⟨hProfile, fun welcome hWelcome => ?_⟩
      rw [hWelcome] at h
      split_ifs at h
      exact h

theorem AiProfileSnapshot.ratios {profile : AiProfileSnapshot} (h : profile.validate = .ok ()) :
    (0 ≤ profile.captureCompleteRatio ∧ profile.captureCompleteRatio ≤ 1) ∧
      (0 ≤ profile.captureProcessMinRatio ∧ profile.captureProcessMinRatio ≤ 1) := by
  have hRange : ¬ (¬ (0 ≤ profile.captureCompleteRatio ∧ profile.captureCompleteRatio ≤ 1) ∨
      ¬ (0 ≤ profile.captureProcessMinRatio ∧ profile.captureProcessMinRatio ≤ 1) ∨
        profile.captureCompleteRatio < profile.captureProcessMinRatio) := by
    intro hOut
    simp only [AiProfileSnapshot.validate, Bind.bind, Except.bind, throw, throwThe,
      MonadExceptOf.throw, if_pos hOut] at h
    split at h
    · cases h
    · split at h
      · cases h
      · cases h
  rw [not_or, not_or, not_not, not_not] at hRange
  exact ⟨hRange.1, hRange.2.1⟩

/-- The identifiers of a start. -/
def startIds (envelope : ControlEnvelope StartConversation) : List String :=
  let request := envelope.message
  [envelope.messageId, request.conversation.jobId, request.conversation.tenantId,
    request.conversation.conversationId, request.conversation.operationId,
    request.profile.profileId, request.participant.participantId, request.inputStream.streamId,
    request.inputStream.participantId]

/-- A start that is accepted, with valid identifiers, with texts of at most 1 KiB in its profile and
its participant, and with numbers of 64 bits. -/
structure SoundStart (envelope : ControlEnvelope StartConversation) : Prop where
  accepted : envelope.message.validate = .ok ()
  identifiers : ∀ id ∈ startIds envelope, validId id = true
  role : envelope.message.participant.role.utf8ByteSize ≤ 1024
  options : ∀ words, some words ∈ startOptions envelope.message → words.utf8ByteSize ≤ 1024
  numbers : ∀ n ∈ startNumbers envelope, n < 2 ^ 64

theorem size_of_validId {s : String} (h : validId s = true) : s.utf8ByteSize ≤ 128 := by
  rw [validId, validateId] at h
  split at h
  · exact absurd h (by simp [Except.isOk, Except.toBool])
  · next hSize => exact Nat.not_lt.mp fun hLong => hSize (.inr hLong)

/-- What a start takes up without its prompt leaves most of the frame free. -/
theorem SoundStart.bareLength_le {ratioText : ℚ → Bytes}
    {envelope : ControlEnvelope StartConversation} (h : SoundStart envelope)
    (hRatio : ∀ ratio, 0 ≤ ratio → ratio ≤ 1 → (ratioText ratio).length ≤ 24) :
    bareLength ratioText envelope ≤ 100000 := by
  have hIds : ∀ id ∈ startIds envelope, escapedLength id ≤ 768 := by
    intro id hMem
    have hSize := size_of_validId (h.identifiers id hMem)
    have hEscaped := escapedLength_le id
    omega
  have hRole := escapedLength_le envelope.message.participant.role
  have hSmall := h.role
  have hPipeline : escapedLength envelope.message.profile.pipelineType.label ≤ 18 := by
    cases envelope.message.profile.pipelineType <;> decide
  have hDirection : escapedLength (directionLabel envelope.message.inputStream.direction) ≤ 18 := by
    cases envelope.message.inputStream.direction <;> decide
  have hCodec : escapedLength (codecLabel envelope.message.inputStream.codec) ≤ 18 := by
    cases envelope.message.inputStream.codec <;> decide
  have hOptions : ∀ words ∈ startOptions envelope.message, optionLength words ≤ 6146 := by
    intro words hMem
    cases words with
    | none => exact (by decide : 4 ≤ 6146)
    | some words =>
        have hSize := h.options words hMem
        have hEscaped := escapedLength_le words
        rw [optionLength]
        omega
  have hNumbers : ∀ n ∈ startNumbers envelope, digits n ≤ 20 := fun n hMem =>
    digits_le (by decide) (Nat.lt_of_lt_of_le (h.numbers n hMem) (by decide))
  obtain ⟨hComplete, hProcess⟩ := AiProfileSnapshot.ratios (StartConversation.accepted h.accepted).1
  have hCompleteText := hRatio _ hComplete.1 hComplete.2
  have hProcessText := hRatio _ hProcess.1 hProcess.2
  simp only [startIds, startOptions, startNumbers, List.forall_mem_cons, List.not_mem_nil]
    at hIds hOptions hNumbers
  simp only [bareLength, startStrings, startOptions, startNumbers, List.map_cons, List.map_nil,
    List.sum_cons, List.sum_nil]
  omega

/-- A prompt that is not a WAV file. -/
theorem length_welcomeText_le {welcome : Option WelcomePrompt}
    (hAccepted : ∀ prompt, welcome = some prompt → prompt.validate = .ok ())
    (hText : ∀ bytes, welcome ≠ some (.pcmWav bytes)) : (welcomeText welcome).length ≤ 12100 := by
  cases welcome with
  | none => exact (by decide : (utf8 "null").length ≤ 12100)
  | some prompt =>
      cases prompt with
      | text words =>
          have hWords := hAccepted _ rfl
          have hSize : words.utf8ByteSize ≤ 2000 := by
            rw [WelcomePrompt.validate] at hWords
            split_ifs at hWords with hBlank hLong
            exact Nat.not_lt.mp hLong
          have hEscaped := escapedLength_le words
          have hNames : (["kind", "value", "text"].map escapedLength).sum = 13 := by
            decide
          rw [welcomeText, WelcomePrompt.jsonText, length_objectText]
          simp only [List.map_cons, List.map_nil, List.sum_cons, List.sum_nil, length_renderStr]
            at hNames ⊢
          omega
      | pcmWav bytes => exact absurd rfl (hText bytes)

end Bounds

section Sending

variable {ratioText : ℚ → Bytes} {read : Bytes → Except String (ControlEnvelope StartConversation)}
  {envelope : ControlEnvelope StartConversation}

/-- A WAV prompt leaves room for the rest of the start when its bytes are written as numbers. -/
def FitsFrame (ratioText : ℚ → Bytes) (envelope : ControlEnvelope StartConversation) : Prop :=
  ∀ bytes, envelope.message.welcome = some (.pcmWav bytes) →
    bareLength ratioText envelope + 28 + wavLength bytes ≤ maxControlFrameLen

theorem frame_ok_iff :
    (∃ frame, (controlFormat (startJson ratioText read)).frame envelope = .ok frame) ↔
      (startText ratioText envelope).length ≤ maxControlFrameLen := by
  have hSome : ¬ (startText ratioText envelope).isEmpty = true := by
    rw [startText, objectText, List.cons_append]
    exact Bool.false_ne_true
  have hFrame : (controlFormat (startJson ratioText read)).frame envelope =
      (writtenBody maxControlFrameLen (startText ratioText envelope)).map
        fun body => be32 body.length ++ body := rfl
  rw [hFrame, writtenBody]
  constructor
  · rintro ⟨frame, hSent⟩
    split_ifs at hSent with hRefused
    · cases hSent
    · exact Nat.not_lt.mp fun hLong => hRefused (.inr hLong)
  · intro hLe
    rw [if_neg (not_or.mpr ⟨hSome, Nat.not_lt.mpr hLe⟩)]
    exact ⟨_, rfl⟩

/-- What an accepted start takes up is in the frame's bounds exactly where its prompt is. -/
theorem length_le_iff_fitsFrame
    (hRatio : ∀ ratio, 0 ≤ ratio → ratio ≤ 1 → (ratioText ratio).length ≤ 24)
    (hSound : SoundStart envelope) :
    (startText ratioText envelope).length ≤ maxControlFrameLen ↔ FitsFrame ratioText envelope := by
  have hAccepted := (StartConversation.accepted hSound.accepted).2
  rw [length_startText]
  by_cases hWav : ∃ bytes, envelope.message.welcome = some (.pcmWav bytes)
  · obtain ⟨bytes, hWelcome⟩ := hWav
    have hLength : (welcomeText envelope.message.welcome).length = 28 + wavLength bytes := by
      rw [hWelcome]
      cases bytes with
      | nil => exact absurd (hAccepted _ hWelcome) (by simp [WelcomePrompt.validate])
      | cons first rest => exact length_welcomeText_wav first rest
    rw [hLength, ← Nat.add_assoc]
    constructor
    · intro hLe other hOther
      have hSame := hWelcome.symm.trans hOther
      injection hSame with hSame
      injection hSame with hSame
      exact hSame ▸ hLe
    · intro hFits
      exact hFits bytes hWelcome
  · have hText : ∀ bytes, envelope.message.welcome ≠ some (.pcmWav bytes) :=
      fun bytes hWelcome => hWav ⟨bytes, hWelcome⟩
    have hBare := hSound.bareLength_le hRatio
    have hWelcome := length_welcomeText_le hAccepted hText
    have hLimit : maxControlFrameLen = 1048576 := rfl
    constructor
    · intro _ bytes hOther
      exact absurd hOther (hText bytes)
    · intro _
      omega

/-- An accepted start is written, and the connection goes on after it, exactly where its prompt is
not a WAV file or leaves room for the rest when its bytes are written as numbers. -/
theorem start_sent_iff_fitsFrame (ratioText : ℚ → Bytes)
    (read : Bytes → Except String (ControlEnvelope StartConversation))
    (accepts : ControlEnvelope StartConversation → Bool)
    (envelope : ControlEnvelope StartConversation)
    (hRatio : ∀ ratio, 0 ≤ ratio → ratio ≤ 1 → (ratioText ratio).length ≤ 24)
    (hSound : SoundStart envelope) :
    ((∃ frame, (controlFormat (startJson ratioText read)).frame envelope = .ok frame) ∧
        ∀ s : Connection (ControlEnvelope StartConversation), s.status = .running →
          ∃ t, s.step (controlFormat (startJson ratioText read)) accepts
              (.outbound ((controlFormat (startJson ratioText read)).frame envelope).isOk) =
              some t ∧ t.status = .running) ↔
      FitsFrame ratioText envelope := by
  rw [frame_ok_iff]
  constructor
  · intro hSent
    exact (length_le_iff_fitsFrame hRatio hSound).mp hSent.1
  · intro hFits
    have hLe := (length_le_iff_fitsFrame hRatio hSound).mpr hFits
    obtain ⟨frame, hFrame⟩ := (@frame_ok_iff ratioText read envelope).mpr hLe
    refine ⟨hLe, fun s hRunning => ?_⟩
    rw [hFrame, Connection.step, if_neg (not_not.mpr hRunning)]
    exact ⟨_, rfl, rfl⟩

/-- A voice agent for one caller, with a prompt of the given bytes. -/
def startWith (welcome : Option WelcomePrompt) : ControlEnvelope StartConversation where
  protocolVersion := 1
  messageId := "message-1"
  timestampMs := 1
  message :=
    { conversation :=
        { jobId := "job-1", tenantId := "tenant-1", conversationId := "conversation-1"
          operationId := "operation-1", generation := 1 }
      profile :=
        { profileId := "profile-1", profileVersion := 1, pipelineType := .voiceAgent
          asrProviderId := some "asr", llmProviderId := some "llm", ttsProviderId := some "tts"
          captureCompleteRatio := 1, captureProcessMinRatio := 0
          captureCompleteMaxGapMs := 0, captureProcessMaxGapMs := 0 }
      participant := { participantId := "caller", role := "caller", displayNumber := none }
      inputStream :=
        { streamId := "stream-1", participantId := "caller", direction := .fromParticipant
          codec := .pcma, sampleRate := 8000, channels := 1 }
      welcome }

/-- The texts of the two bounds of a ratio. -/
def boundText (ratio : ℚ) : Bytes :=
  if ratio = 1 then utf8 "1.0" else utf8 "0.0"

theorem soundStart_of_accepted {welcome : Option WelcomePrompt}
    (hAccepted : (startWith welcome).message.validate = .ok ()) :
    SoundStart (startWith welcome) where
  accepted := hAccepted
  identifiers := by
    simp only [startIds, startWith, List.forall_mem_cons]
    decide
  role := by
    change "caller".utf8ByteSize ≤ 1024
    decide
  options := by
    intro words hMem
    simp only [startOptions, startWith, List.mem_cons, Option.some.injEq, reduceCtorEq,
      List.not_mem_nil, or_false] at hMem
    obtain rfl | rfl | rfl := hMem <;> decide
  numbers := by
    simp only [startNumbers, startWith, List.forall_mem_cons]
    decide

theorem start_sent_iff_fitsFrame_short :
    ((∃ frame, (controlFormat (startJson boundText fun _ => .error "")).frame
        (startWith (some (.pcmWav [82, 73, 70, 70]))) = .ok frame) ∧
        ∀ s : Connection (ControlEnvelope StartConversation), s.status = .running →
          ∃ t, s.step (controlFormat (startJson boundText fun _ => .error "")) (fun _ => true)
              (.outbound ((controlFormat (startJson boundText fun _ => .error "")).frame
                (startWith (some (.pcmWav [82, 73, 70, 70])))).isOk) =
              some t ∧ t.status = .running) ↔
      FitsFrame boundText (startWith (some (.pcmWav [82, 73, 70, 70]))) := by
  refine start_sent_iff_fitsFrame boundText (fun _ => .error "") (fun _ => true) _ ?_
    (soundStart_of_accepted rfl)
  intro ratio _ _
  rw [boundText]
  split
  · decide
  · decide

/-- A prompt of the given number of bytes, of three digits each. -/
def silence (size : Nat) : ControlEnvelope StartConversation :=
  startWith (some (.pcmWav (List.replicate size 255)))

theorem wavLength_replicate (size : Nat) : wavLength (List.replicate size 255) = size * 4 := by
  have hByte : digits (255 : UInt8).toNat + 1 = 4 := by
    decide
  rw [wavLength, List.map_replicate, List.sum_replicate_nat, hByte]

/-- Such a prompt is accepted up to 768 KiB, and from 256 KiB on it is never sent. -/
theorem silence_not_sent {size : Nat} (hLong : 262144 ≤ size) (hAccepted : size ≤ 786432) :
    SoundStart (silence size) ∧
      ¬ ∃ frame, (controlFormat (startJson ratioText read)).frame (silence size) = .ok frame := by
  obtain ⟨rest, rfl⟩ : ∃ rest, size = rest + 1 := ⟨size - 1, by omega⟩
  constructor
  · apply soundStart_of_accepted
    have hWelcome : (WelcomePrompt.pcmWav (List.replicate (rest + 1) 255)).validate = .ok () := by
      rw [WelcomePrompt.validate, List.length_replicate, if_neg]
      rintro (hEmpty | hTooLong)
      · exact Bool.false_ne_true hEmpty
      · omega
    exact hWelcome
  · have hWelcome : (welcomeText (silence (rest + 1)).message.welcome).length =
        28 + (rest + 1) * 4 := by
      rw [← wavLength_replicate]
      exact length_welcomeText_wav 255 (List.replicate rest 255)
    have hLimit : maxControlFrameLen = 1048576 := rfl
    rw [frame_ok_iff, length_startText, hWelcome]
    omega

/-- A start that is accepted, with a silence that does not fit into a frame. -/
theorem long_silence_not_sent :
    SoundStart (silence 300000) ∧
      ¬ ∃ frame, (controlFormat (startJson boundText fun _ => .error "")).frame (silence 300000) =
        .ok frame :=
  silence_not_sent (by decide) (by decide)

end Sending

end VoipSwitch.AiProtocol
