import VoipSwitch.Ai.Wire

/-! The identifiers of what the AI connections accept. An identifier is checked where it is
made, and not where it is read. -/
namespace VoipSwitch.AiProtocol

open Keyed Schema Connector Framed Framing

section Checks

/-- The check of an identifier's constructor. -/
def validId (s : String) : Bool := (validateId "id" s).isOk

/-- A path that names an entry of the directory it is joined to. -/
def DirectChild (path : String) : Prop :=
  path ≠ "" ∧ path ≠ "." ∧ path ≠ ".." ∧ '/' ∉ path.toList

theorem slash_not_mem {s : String} (h : validId s = true) : '/' ∉ s.toList := by
  intro hMem
  rw [validId, validateId] at h
  split at h
  · cases h
  · split at h
    · cases h
    · next hAll =>
        rw [not_not, List.all_eq_true] at hAll
        exact absurd (hAll '/' hMem) (by decide)

theorem recordPath_directChild {s : String} (h : validId s = true) :
    DirectChild (AiOutbox.recordPath s) := by
  have hLength : 5 ≤ (AiOutbox.recordPath s).toList.length := by
    rw [AiOutbox.recordPath, String.toList_append, List.length_append]
    exact Nat.le_add_left _ _
  refine ⟨?_, ?_, ?_, ?_⟩
  · intro hSame
    rw [hSame] at hLength
    exact absurd hLength (by decide)
  · intro hSame
    rw [hSame] at hLength
    exact absurd hLength (by decide)
  · intro hSame
    rw [hSame] at hLength
    exact absurd hLength (by decide)
  · rw [AiOutbox.recordPath, String.toList_append, List.mem_append]
    rintro (hMem | hMem)
    · exact slash_not_mem h hMem
    · exact absurd hMem (by decide)

/-- A message's job references are among its identifiers. -/
theorem jobId_mem {m : ControlMessage} {job : JobRef} (h : job ∈ m.jobs) :
    job.jobId ∈ m.identifiers := by
  cases m <;> simp_all [ControlMessage.jobs, ControlMessage.identifiers, jobIds, segmentIds]

end Checks

section Decoders

-- `serde_json` as a writer of messages, and as a parser of texts.
variable (write : ControlEnvelope ControlMessage → Bytes)
variable (writeMetadata : MediaFrameMetadata → Bytes) (parse : Bytes → Except String Value)

def controlJson : JsonCodec (ControlEnvelope ControlMessage) where
  toVec := write
  fromSlice body := do envelope.read (← parse body)

/-- What the control connection makes of a frame's body. -/
def acceptControl (body : Bytes) : Except String (ControlEnvelope ControlMessage) := do
  let e ← (controlFormat (controlJson write parse)).decode body
  e.validate ControlMessage.validate
  return e

def metadataJson : JsonCodec MediaFrameMetadata where
  toVec := writeMetadata
  fromSlice body := do mediaMetadata.read (← parse body)

/-- What the media connection makes of a frame's body. -/
def acceptMedia (body : Bytes) : Except String MediaFrame := do
  mediaCheckLen body.length
  (mediaFormat (metadataJson writeMetadata parse)).decode body

/-- The texts at the identifiers of a control document. -/
def controlTexts (body : Bytes) : List String :=
  match parse body with
  | .ok v => envelope.texts v
  | .error _ => []

/-- The texts at the identifiers of a media frame's metadata. -/
def mediaTexts (body : Bytes) : List String :=
  match parse ((body.drop 4).take (readBe32 body)) with
  | .ok v => mediaMetadata.texts v
  | .error _ => []

variable {write writeMetadata parse}

/-- An accepted envelope contains the identifiers that stand in its text. -/
theorem control_identifiers {body : Bytes} {e : ControlEnvelope ControlMessage}
    (h : acceptControl write parse body = .ok e) (s : String) :
    s ∈ e.message.identifiers ↔ s ∈ controlTexts parse body := by
  obtain ⟨e', hDecode, h⟩ := ok_of_bind h
  obtain ⟨_, _, h⟩ := ok_of_bind h
  obtain rfl := Except.ok.inj h
  obtain ⟨v, hParse, hRead⟩ := ok_of_bind hDecode
  rw [controlTexts, hParse]
  exact envelope.sound hRead s

/-- An accepted media frame contains the identifiers that stand in its text. -/
theorem media_identifiers {body : Bytes} {frame : MediaFrame}
    (h : acceptMedia writeMetadata parse body = .ok frame) (s : String) :
    s ∈ metadataIds frame.metadata ↔ s ∈ mediaTexts parse body := by
  obtain ⟨_, _, h⟩ := ok_of_bind h
  replace h : mediaFrame _ body = .ok frame := h
  rw [mediaFrame] at h
  split at h
  · cases h
  · obtain ⟨metadata, hDecode, h⟩ := ok_of_bind h
    obtain ⟨_, _, h⟩ := ok_of_bind h
    obtain rfl := Except.ok.inj h
    obtain ⟨v, hParse, hRead⟩ := ok_of_bind hDecode
    rw [mediaTexts, hParse]
    exact mediaMetadata.sound hRead s

/-- What is accepted has valid identifiers, and a record path below the outbox for each of its
jobs, just when its text has valid identifiers. -/
theorem identifiers_valid_iff (write : ControlEnvelope ControlMessage → Bytes)
    (writeMetadata : MediaFrameMetadata → Bytes) (parse : Bytes → Except String Value) :
    (∀ body e, acceptControl write parse body = .ok e →
      ((∀ s ∈ e.message.identifiers, validId s = true) ∧
        (∀ job ∈ e.message.jobs, DirectChild (AiOutbox.recordPath job.jobId)) ↔
          ∀ s ∈ controlTexts parse body, validId s = true)) ∧
    ∀ body frame, acceptMedia writeMetadata parse body = .ok frame →
      ((∀ s ∈ metadataIds frame.metadata, validId s = true) ∧
        DirectChild (AiOutbox.recordPath frame.metadata.jobId) ↔
          ∀ s ∈ mediaTexts parse body, validId s = true) := by
  constructor
  · intro body e h
    constructor
    · rintro ⟨hValid, -⟩ s hMem
      exact hValid s ((control_identifiers h s).mpr hMem)
    · intro hValid
      have hIds : ∀ s ∈ e.message.identifiers, validId s = true := by
        intro s hMem
        exact hValid s ((control_identifiers h s).mp hMem)
      refine ⟨hIds, ?_⟩
      intro job hJob
      exact recordPath_directChild (hIds _ (jobId_mem hJob))
  · intro body frame h
    constructor
    · rintro ⟨hValid, -⟩ s hMem
      exact hValid s ((media_identifiers h s).mpr hMem)
    · intro hValid
      have hIds : ∀ s ∈ metadataIds frame.metadata, validId s = true := by
        intro s hMem
        exact hValid s ((media_identifiers h s).mp hMem)
      exact ⟨hIds, recordPath_directChild (hIds _ (.head _))⟩

end Decoders

section Samples

/-- The status of a job, as a document. -/
def statusDocument (jobId : String) : Value :=
  .obj [
    ("protocol_version", .int 1),
    ("message_id", .str "m"),
    ("timestamp_ms", .int 0),
    ("type", .str "job_status"),
    ("payload", .obj [
      ("job", .obj [
        ("job_id", .str jobId),
        ("tenant_id", .str "t"),
        ("conversation_id", .str "c"),
        ("operation_id", .str "o"),
        ("generation", .int 1)]),
      ("state", .str "persisted"),
      ("analysis_version", .int 1),
      ("result_version", .int 1)])]

/-- The text of this document. -/
def statusText (jobId : String) : Bytes :=
  Document.Json.utf8 ("\x7b\"protocol_version\":1,\"message_id\":\"m\",\"timestamp_ms\":0," ++
    "\"type\":\"job_status\",\"payload\":\x7b\"job\":\x7b\"job_id\":\"" ++ jobId ++
    "\",\"tenant_id\":\"t\",\"conversation_id\":\"c\",\"operation_id\":\"o\"," ++
    "\"generation\":1\x7d,\"state\":\"persisted\",\"analysis_version\":1," ++
    "\"result_version\":1\x7d\x7d")

/-- The parser on this text. -/
def statusParse (jobId : String) (body : Bytes) : Except String Value :=
  if body = statusText jobId then .ok (statusDocument jobId) else .error "another text"

def statusEnvelope (jobId : String) : ControlEnvelope ControlMessage where
  protocolVersion := 1
  messageId := "m"
  timestampMs := 0
  message := .jobStatus {
    job := {
      jobId := jobId
      tenantId := "t"
      conversationId := "c"
      operationId := "o"
      generation := 1 }
    state := .persisted
    analysisVersion := 1
    resultVersion := some 1
    errorCode := none }

theorem acceptControl_status (jobId : String)
    (h : envelope.read (statusDocument jobId) = .ok (statusEnvelope jobId)) :
    acceptControl (fun _ => []) (statusParse jobId) (statusText jobId) =
      .ok (statusEnvelope jobId) := by
  have hParse : statusParse jobId (statusText jobId) = .ok (statusDocument jobId) := if_pos rfl
  have hDecode : (controlFormat (controlJson (fun _ => []) (statusParse jobId))).decode
      (statusText jobId) = .ok (statusEnvelope jobId) := by
    simp only [controlFormat, controlJson, hParse, bind, Except.bind, h]
  simp only [acceptControl, hDecode]
  rfl

/-- The status of a job whose identifier leads out of the outbox is accepted. -/
theorem identifiers_not_valid :
    ∃ (parse : Bytes → Except String Value) (body : Bytes) (e : ControlEnvelope ControlMessage),
      acceptControl (fun _ => []) parse body = .ok e ∧
        ¬ ((∀ s ∈ e.message.identifiers, validId s = true) ∧
          ∀ job ∈ e.message.jobs, DirectChild (AiOutbox.recordPath job.jobId)) := by
  refine ⟨_, _, _, acceptControl_status "../../x" (by decide), ?_⟩
  rintro ⟨hValid, -⟩
  exact absurd (hValid "../../x" (by decide)) (by decide)

theorem identifiers_valid_status :
    (∀ s ∈ (statusEnvelope "j").message.identifiers, validId s = true) ∧
      ∀ job ∈ (statusEnvelope "j").message.jobs,
        DirectChild (AiOutbox.recordPath job.jobId) := by
  apply ((identifiers_valid_iff (fun _ => []) (fun _ => []) (statusParse "j")).1 _ _
    (acceptControl_status _ (by decide))).mpr
  have hParse : statusParse "j" (statusText "j") = .ok (statusDocument "j") := if_pos rfl
  rw [controlTexts, hParse]
  decide

end Samples

end VoipSwitch.AiProtocol
