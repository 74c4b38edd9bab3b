import VoipSwitch.Ai.Outbox

/-! The service of post-call jobs. One task takes the commands of the calls, the events of
the gateway and the ticks of the replay timer, one at a time. -/
namespace VoipSwitch.AiOutbox

open Keyed Stateful Proc Transition AiProtocol

/-- What the media tap of a call is for. -/
structure AiMediaTapSpec where
  job : JobRef
  callerStreamId : String
  calleeStreamId : String
deriving DecidableEq

structure ActiveCapture where
  tap : AiMediaTapSpec
  enabled : Bool
deriving DecidableEq

structure AiCaptureFinalized where
  job : JobRef
  finalSequences : OrdMap String Nat
deriving DecidableEq

/-- The outboxes of the domains that have one, the databases, the live captures and the
messages that the connector's queue took. -/
structure AiJobService where
  outboxes : Table String Files
  results : Results
  active : Table String ActiveCapture
  sent : List AiProtocol.ControlMessage
deriving DecidableEq

namespace AiJobService

/-- What the operating system, the databases and the connector do while one command, event
or tick is handled. A record is stored by a second operation on its outbox. -/
structure Env where
  domainsError : Option String
  openError : String → Option String
  listError : String → Option String
  files : String → Io
  storing : String → Io
  databaseError : String → String → Option String
  connected : Bool
  takes : Nat → Bool
  tapError : Option String

abbrev Handler (α : Type) := Proc Env AiJobService String α

def ofExcept {α : Type} : Except String α → Handler α
  | .error error => fail error
  | .ok a => pure a

def ofOption : Option String → Handler Unit
  | some error => fail error
  | none => pure ()

section Outboxes

/-- The directory of a domain. -/
def filesOf (s : AiJobService) (domainId : String) : Files :=
  (s.outboxes.get domainId).getD .empty

def putFiles (domainId : String) (files : Files) (s : AiJobService) : AiJobService :=
  { s with outboxes := s.outboxes.insert domainId files }

/-- Run an operation on the outbox of a domain. -/
def onOutbox {α : Type} (domainId : String) (io : Io) (operation : Operation α) : Handler α :=
  focus (filesOf · domainId) (putFiles domainId) id io operation

/-- `ai_outbox_dir` and `AiSubmissionOutbox::open`. -/
def openOutbox (domainId : String) : Handler Unit := do
  let env ← read
  ofExcept (validateDomainStorageId domainId)
  ofOption (env.openError domainId)
  modify fun s => putFiles domainId (s.filesOf domainId) s

/-- `AiConnector::try_send`. -/
def trySend (message : AiProtocol.ControlMessage) : Handler Unit := do
  let env ← read
  let s ← get
  if env.takes s.sent.length then modify fun s => { s with sent := s.sent ++ [message] }
  else fail "AI control queue full"

/-- Send what a record waits for; a full queue leaves it to the replay. -/
def sendPending (record : OutboxRecord) : Handler Unit :=
  whenSome record.pendingMessage fun message => do
    let _ ← attempt (trySend message)

def outboxOf (s : AiJobService) (domainId : String) : Outbox where
  files := s.filesOf domainId
  results := s.results

def putOutbox (domainId : String) (outbox : Outbox) (s : AiJobService) : AiJobService :=
  { putFiles domainId outbox.files s with results := outbox.results }

/-- `persist_completed_record` with the outbox of a domain. -/
def persistCompleted (domainId : String) (record : OutboxRecord) : Handler OutboxRecord := do
  let env ← read
  focus (outboxOf · domainId) (putOutbox domainId) id (env.storing domainId)
    (persistCompletedRecord (env.databaseError domainId record.job.jobId) record)

end Outboxes

section Commands

inductive JobCommand where
  | submit (request : SubmitPostCallJob) (tap : AiMediaTapSpec)
  | endCall (conversationId : String) (capture : Option AiCaptureFinalized)
deriving DecidableEq

/-- What an ended call without a finalized capture leaves behind. -/
def unfinalized (tap : AiMediaTapSpec) : AiCaptureFinalized where
  job := tap.job
  finalSequences := (OrdMap.insert [(tap.callerStreamId, 0)] tap.calleeStreamId 0)

/-- The capture that ends with a call. -/
def endedCapture (s : AiJobService) (conversationId : String) :
    Option AiCaptureFinalized → Option AiCaptureFinalized
  | some capture => some capture
  | none =>
    (s.active.entries.find? fun entry => entry.2.tap.job.conversationId = conversationId).map
      fun entry => unfinalized entry.2.tap

def submit (request : SubmitPostCallJob) (tap : AiMediaTapSpec) : Handler OutboxRecord := do
  let env ← read
  if request.job ≠ tap.job then fail "AI tap job does not match submission"
  else do
    openOutbox request.job.tenantId
    let record ← onOutbox request.job.tenantId (env.files request.job.tenantId) (append request)
    modify fun s =>
      if s.active.contains request.job.jobId then s
      else { s with active := s.active.insert request.job.jobId { tap := tap, enabled := false } }
    return record

def endCapture (capture : AiCaptureFinalized) : Handler OutboxRecord := do
  let env ← read
  modify fun s => { s with active := s.active.remove capture.job.jobId }
  openOutbox capture.job.tenantId
  onOutbox capture.job.tenantId (env.files capture.job.tenantId)
    (markInputEnded capture.job capture.finalSequences)

def handleCommand : JobCommand → Handler Unit
  | .submit request tap => do
    let record ← submit request tap
    sendPending record
  | .endCall conversationId capture => do
    match (← get).endedCapture conversationId capture with
    | none => return
    | some capture => do
      let record ← endCapture capture
      sendPending record

end Commands

section Events

def streamsReady (required accepted : List String) : Bool := required.all (accepted.contains ·)

def enableCapture (job : JobRef) (acceptedStreams : List String) : Handler Unit := do
  let env ← read
  match (← get).active.get job.jobId with
  | none => return
  | some capture =>
    if capture.enabled then return
    else if capture.tap.job ≠ job then fail "AI audio ready job reference mismatch"
    else if !streamsReady [capture.tap.callerStreamId, capture.tap.calleeStreamId]
        acceptedStreams then return
    else do
      ofOption env.tapError
      modify fun s =>
        { s with active := s.active.insert job.jobId { capture with enabled := true } }

def completeJob (completed : JobCompleted) : Handler Unit := do
  let env ← read
  modify fun s => { s with active := s.active.remove completed.job.jobId }
  let domainId := completed.job.tenantId
  openOutbox domainId
  let record ← onOutbox domainId (env.files domainId) (markCompleted completed)
  let record ← persistCompleted domainId record
  sendPending record

def handleStatus (status : JobStatus) : Handler Unit := do
  let env ← read
  match status.state with
  | .completed => trySend (.jobResultRequest status.job)
  | .persisted =>
    match status.resultVersion with
    | none => fail "persisted AI job has no result version"
    | some resultVersion => do
      openOutbox status.job.tenantId
      let _ ← onOutbox status.job.tenantId (env.files status.job.tenantId)
        (acknowledgeResult status.job resultVersion)
  | _ => return

/-- The events that concern jobs. -/
def handleEvent : AiProtocol.ControlMessage → Handler Unit
  | .durableAccepted job _ => do
    let env ← read
    openOutbox job.tenantId
    let _ ← onOutbox job.tenantId (env.files job.tenantId) (markAccepted job)
  | .audioInputReady job acceptedStreams => enableCapture job acceptedStreams
  | .jobCompleted completed => completeJob completed
  | .jobStatus status => handleStatus status
  | _ => pure ()

end Events

section Replay

/-- `name.ends_with(".json")`. -/
def isRecordName (name : String) : Bool := ".json".toList.isSuffixOf name.toList

/-- The files that `list` reads, in the order of their names. -/
def recordNames (files : Files) : List String := files.entries.keys.filter isRecordName

/-- `list`: one file that cannot be read spoils the list. -/
def list (io : Io) (files : Files) : Except String (List OutboxRecord) :=
  (recordNames files).mapM (readPath io files)

/-- A record that the gateway is still to be told about. -/
def isPending (record : OutboxRecord) : Bool :=
  record.state = .pendingSubmission || record.state = .inputEnded || record.state = .resultStored

/-- Store the result of a record that has one to store. -/
def settle (domainId : String) (record : OutboxRecord) : Handler OutboxRecord :=
  if record.state = .completed then persistCompleted domainId record else pure record

/-- The loop over the records of a domain. -/
def settleAll (domainId : String) : List OutboxRecord → Handler (List OutboxRecord)
  | [] => pure []
  | record :: rest => do
    let record ← settle domainId record
    let records ← settleAll domainId rest
    return if isPending record then record :: records else records

/-- The loop over the domains. -/
def collect : List String → Handler (List OutboxRecord)
  | [] => pure []
  | domainId :: rest => do
    let env ← read
    openOutbox domainId
    ofOption (env.listError domainId)
    let records ← ofExcept (list (env.files domainId) ((← get).filesOf domainId))
    let records ← settleAll domainId records
    let others ← collect rest
    return records ++ others

/-- The loop over the messages, which ends when the queue is full. -/
def sendAll : List OutboxRecord → Handler Unit
  | [] => pure ()
  | record :: rest =>
    match record.pendingMessage with
    | none => sendAll rest
    | some message => do
      match ← attempt (trySend message) with
      | .ok () => sendAll rest
      | .error _ => return

def replayPending : Handler Unit := do
  let env ← read
  ofOption env.domainsError
  let records ← collect (← get).outboxes.entries.keys
  if env.connected then sendAll records else return

end Replay

inductive Input where
  | command (command : JobCommand)
  | event (message : AiProtocol.ControlMessage)
  | replay

/-- One round of the task; an error is logged. -/
def handle : Input → Handler Unit
  | .command command => handleCommand command
  | .event message => handleEvent message
  | .replay => replayPending

section Samples

def calmIo : Io where
  receivedAtMs := 0
  now := 0
  readError _ := none
  writeFault _ := none

/-- Nothing fails; `connected` says whether the gateway is there. -/
def calm (connected : Bool) : Env where
  domainsError := none
  openError _ := none
  listError _ := none
  files _ := calmIo
  storing _ := calmIo
  databaseError _ _ := none
  connected := connected
  takes _ := true
  tapError := none

def jobOf (jobId tenantId : String) : JobRef where
  jobId := jobId
  tenantId := tenantId
  conversationId := "c"
  operationId := "o"
  generation := 1

def submissionOf (jobId tenantId : String) : SubmitPostCallJob where
  job := jobOf jobId tenantId
  profile := {
    profileId := "p"
    profileVersion := 1
    pipelineType := .postCallAnalysis
    asrProviderId := some "a"
    llmProviderId := some "l"
    ttsProviderId := none
    captureCompleteRatio := 1
    captureProcessMinRatio := 0
    captureCompleteMaxGapMs := 1
    captureProcessMaxGapMs := 1 }
  participants := [{ participantId := "x", role := "caller", displayNumber := none }]
  streams := [{
    streamId := "s"
    participantId := "x"
    direction := .fromParticipant
    codec := .pcma
    sampleRate := 8000
    channels := 1 }]

def tapOf (jobId tenantId : String) : AiMediaTapSpec where
  job := jobOf jobId tenantId
  callerStreamId := "s"
  calleeStreamId := "t"

def noJobs : AiJobService where
  outboxes := .empty
  results := .empty
  active := .empty
  sent := []

end Samples

end AiJobService

end VoipSwitch.AiOutbox
