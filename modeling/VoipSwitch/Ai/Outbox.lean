import VoipSwitch.Ai.Protocol
import VoipSwitch.Lib.Proc
import VoipSwitch.Lib.Transition
import VoipSwitch.Store.Tables

/-! The outbox of post-call jobs of one domain: a directory with one file for each job, and
the results of the jobs in the domain's database. A file is replaced by a rename, so that
what a write leaves is the old file or the new one. -/
namespace VoipSwitch.AiOutbox

open Keyed Stateful Proc Transition AiProtocol

section Records

def outboxSchemaVersion : Nat := 1

inductive OutboxState where
  | pendingSubmission
  | accepted
  | inputEnded
  | completed
  | resultStored
deriving DecidableEq

structure OutboxRecord where
  schemaVersion : Nat
  submission : SubmitPostCallJob
  state : OutboxState
  finalSequences : OrdMap String Nat
  completed : Option JobCompleted
  completedReceivedAtMs : Option Nat
  createdAtMs : Nat
  updatedAtMs : Nat
deriving DecidableEq

namespace OutboxRecord

def job (record : OutboxRecord) : JobRef := record.submission.job

def pendingMessage (record : OutboxRecord) : Option AiProtocol.ControlMessage :=
  match record.state with
  | .pendingSubmission => some (.submitPostCallJob record.submission)
  | .inputEnded => some (.endAudioInput {
      job := record.submission.job
      finalSequences := record.finalSequences })
  | .resultStored =>
    record.completed.map fun completed => .resultPersisted completed.job completed.resultVersion
  | .accepted | .completed => none

/-- `completed_received_at_ms` of a record. -/
def receivedAtMs (record : OutboxRecord) : Option Nat :=
  record.completed.map fun _ => record.completedReceivedAtMs.getD record.updatedAtMs

end OutboxRecord

/-- A file of the directory; the text of a record stands for the record. -/
inductive StoredFile where
  | undecodable
  | record (record : OutboxRecord)
deriving DecidableEq

/-- The directory, by file name. -/
abbrev Files := Table String StoredFile

/-- How a write ends: before the rename, after it, or well. -/
inductive WriteFault where
  | refused (error : String)
  | unsynced (error : String)
deriving DecidableEq

/-- What the operating system does in one operation. A removal fails as a write does. -/
structure Io where
  receivedAtMs : Nat
  now : Nat
  readError : String → Option String
  writeFault : String → Option WriteFault

abbrev Operation (α : Type) := Proc Io Files String α

def recordPath (jobId : String) : String := jobId ++ ".json"

/-- What `read_path` makes of a file that could be read. -/
def decodeFile (path : String) : StoredFile → Except String OutboxRecord
  | .undecodable => .error s!"parse AI outbox record {path}"
  | .record record =>
    if record.schemaVersion ≠ outboxSchemaVersion then
      .error s!"unsupported AI outbox schema {record.schemaVersion} in {path}"
    else .ok record

/-- `read_path`, as a function of the directory. -/
def readPath (io : Io) (files : Files) (path : String) : Except String OutboxRecord :=
  match io.readError path, files.get path with
  | some error, _ => .error error
  | none, none => .error s!"read AI outbox record {path}"
  | none, some file => decodeFile path file

/-- Let a write or a removal take effect as far as it goes. -/
def replace (path : String) (change : Files → Files) : Operation Unit := do
  let io ← read
  match io.writeFault path with
  | some (.refused error) => fail error
  | some (.unsynced error) => do
    modify change
    fail error
  | none => modify change

def write (record : OutboxRecord) : Operation Unit :=
  let path := recordPath record.submission.job.jobId
  replace path fun files => files.insert path (.record record)

def load (path : String) : Operation OutboxRecord := do
  let io ← read
  match readPath io (← get) path with
  | .error error => fail error
  | .ok record => return record

def update (job : JobRef) (mutate : OutboxRecord → Except String OutboxRecord) :
    Operation OutboxRecord := do
  let io ← read
  let record ← load (recordPath job.jobId)
  if record.submission.job ≠ job then
    fail s!"AI outbox job reference mismatch: {job.jobId}"
  else match mutate record with
    | .error error => fail error
    | .ok record => do
      let record := { record with updatedAtMs := io.now }
      write record
      return record

end Records

section Operations

/-- The record that `append` writes. -/
def newRecord (submission : SubmitPostCallJob) (now : Nat) : OutboxRecord where
  schemaVersion := outboxSchemaVersion
  submission := submission
  state := .pendingSubmission
  finalSequences := []
  completed := none
  completedReceivedAtMs := none
  createdAtMs := now
  updatedAtMs := now

def append (submission : SubmitPostCallJob) : Operation OutboxRecord := do
  let io ← read
  match submission.validate with
  | .error error => fail error
  | .ok () => do
    let path := recordPath submission.job.jobId
    if (← get).contains path then do
      let existing ← load path
      if existing.submission ≠ submission then
        fail s!"AI outbox job_id collision: {submission.job.jobId}"
      else return existing
    else do
      let record := newRecord submission io.now
      write record
      return record

/-- The change of `mark_accepted`. -/
def accept (record : OutboxRecord) : Except String OutboxRecord :=
  if record.state = .pendingSubmission then .ok { record with state := .accepted }
  else .ok record

def markAccepted (job : JobRef) : Operation OutboxRecord := update job accept

/-- The change of `mark_input_ended`. -/
def endInput (job : JobRef) (finalSequences : OrdMap String Nat) (record : OutboxRecord) :
    Except String OutboxRecord :=
  if record.state = .completed ∨ record.state = .resultStored then .ok record
  else if record.finalSequences ≠ [] ∧ record.finalSequences ≠ finalSequences then
    .error s!"AI final sequence collision for job {job.jobId}"
  else .ok { record with finalSequences := finalSequences, state := .inputEnded }

def markInputEnded (job : JobRef) (finalSequences : OrdMap String Nat) :
    Operation OutboxRecord :=
  if finalSequences = [] then fail "AI input end requires final stream sequences"
  else update job (endInput job finalSequences)

/-- The record with a result that was received now. -/
def withResult (completed : JobCompleted) (receivedAtMs : Nat) (record : OutboxRecord) :
    OutboxRecord :=
  { record with
    completed := some completed
    completedReceivedAtMs := some receivedAtMs
    state := .completed }

/-- The change of `mark_completed`. -/
def complete (completed : JobCompleted) (receivedAtMs : Nat) (record : OutboxRecord) :
    Except String OutboxRecord :=
  match record.completed with
  | none => .ok (withResult completed receivedAtMs record)
  | some existing =>
    if completed.resultVersion < existing.resultVersion then .ok record
    else if existing.resultVersion = completed.resultVersion then
      if existing ≠ completed then
        .error s!"AI completed result collision for job {completed.job.jobId} version {completed.resultVersion}"
      else .ok record
    else .ok (withResult completed receivedAtMs record)

def markCompleted (completed : JobCompleted) : Operation OutboxRecord := do
  let io ← read
  update completed.job (complete completed io.receivedAtMs)

/-- The change of `mark_result_stored`. -/
def storeResult (job : JobRef) (resultVersion : Nat) (record : OutboxRecord) :
    Except String OutboxRecord :=
  match record.completed with
  | none => .error "AI outbox has no completed result"
  | some completed =>
    if completed.resultVersion ≠ resultVersion then
      .error s!"AI stored result version mismatch for job {job.jobId}: expected {completed.resultVersion}, got {resultVersion}"
    else .ok { record with state := .resultStored }

def markResultStored (job : JobRef) (resultVersion : Nat) : Operation OutboxRecord :=
  update job (storeResult job resultVersion)

def acknowledgeResult (job : JobRef) (resultVersion : Nat) : Operation Bool := do
  let path := recordPath job.jobId
  if (← get).contains path then do
    let record ← load path
    if record.submission.job ≠ job then
      fail s!"AI outbox job reference mismatch: {job.jobId}"
    else match record.completed with
      | none => fail "AI outbox has no completed result"
      | some completed =>
        if record.state ≠ .resultStored ∨ completed.resultVersion ≠ resultVersion then
          fail s!"AI persisted ACK does not match stored result for job {job.jobId} version {resultVersion}"
        else do
          replace path fun files => files.remove path
          return true
  else return false

end Operations

section Effects

variable {io : Io} {s : Files} {job : JobRef} {path : String} {record record' : OutboxRecord}
variable {mutate : OutboxRecord → Except String OutboxRecord}

/-- A write to `path` gets as far as its rename. -/
def writable (io : Io) (path : String) : Bool :=
  match io.writeFault path with
  | some (.refused _) => false
  | some (.unsynced _) | none => true

theorem writable_of_unsynced {error : String}
    (h : io.writeFault path = some (.unsynced error)) : writable io path = true := by
  rw [writable, h]

theorem writable_of_none (h : io.writeFault path = none) : writable io path = true := by
  rw [writable, h]

/-- The record that an update of `job` finds and can replace. -/
def findJob (io : Io) (files : Files) (job : JobRef) : Option OutboxRecord :=
  match readPath io files (recordPath job.jobId) with
  | .error _ => none
  | .ok record =>
    if record.submission.job = job ∧ writable io (recordPath job.jobId) then some record else none

theorem get_of_readPath (h : readPath io s path = .ok record) :
    s.get path = some (.record record) ∧ record.schemaVersion = outboxSchemaVersion := by
  rw [readPath] at h
  split at h
  · cases h
  · cases h
  · next file _ hGet =>
      rw [hGet]
      cases file with
      | undecodable => cases h
      | record stored =>
          rw [decodeFile] at h
          split at h
          · cases h
          · next hVersion =>
              obtain rfl := Except.ok.inj h
              exact ⟨rfl, not_not.mp hVersion⟩

theorem get_of_findJob (h : findJob io s job = some record) :
    s.get (recordPath job.jobId) = some (.record record) ∧ record.submission.job = job ∧
      writable io (recordPath job.jobId) = true ∧ record.schemaVersion = outboxSchemaVersion := by
  rw [findJob] at h
  split at h
  · cases h
  · next stored hRead =>
      split at h
      · next hBoth =>
          obtain rfl := Option.some.inj h
          have hGet := get_of_readPath hRead
          exact ⟨hGet.1, hBoth.1, hBoth.2, hGet.2⟩
      · cases h

theorem load_keeps {K : Files → Prop} : Keeps io K K (load path) := by
  intro files h
  rw [load, post_bind, post_read, post_bind, post_get]
  split
  · exact h
  · exact h

theorem post_replace {change : Files → Files} {Q : Unit → Files → Prop} {E : Files → Prop}
    (hRefused : writable io path = false → E s)
    (hUnsynced : ∀ error, io.writeFault path = some (.unsynced error) → E (change s))
    (hDone : io.writeFault path = none → Q () (change s)) :
    Post (replace path change) io s Q E := by
  rw [replace, post_bind, post_read]
  split
  · next hFault =>
      apply hRefused
      rw [writable, hFault]
  · next error hFault => exact hUnsynced error hFault
  · next hFault => exact hDone hFault

/-- What an update does: it stops before its write, or the new record is there. -/
theorem post_update {Q : OutboxRecord → Files → Prop} {E : Files → Prop}
    (hMutate : ∀ record record', mutate record = .ok record' →
      record'.submission = record.submission)
    (hStop : (∀ record record', findJob io s job = some record → mutate record ≠ .ok record') →
      E s)
    (hUnsynced : ∀ record record' error, findJob io s job = some record →
      mutate record = .ok record' → io.writeFault (recordPath job.jobId) = some (.unsynced error) →
      E (s.insert (recordPath job.jobId) (.record { record' with updatedAtMs := io.now })))
    (hDone : ∀ record record', findJob io s job = some record → mutate record = .ok record' →
      io.writeFault (recordPath job.jobId) = none →
      Q { record' with updatedAtMs := io.now }
        (s.insert (recordPath job.jobId) (.record { record' with updatedAtMs := io.now }))) :
    Post (update job mutate) io s Q E := by
  rw [update, post_bind, post_read, post_bind, load, post_bind, post_read, post_bind, post_get]
  cases hRead : readPath io s (recordPath job.jobId) with
  | error error =>
      apply hStop
      intro record record' hFind
      rw [findJob, hRead] at hFind
      cases hFind
  | ok record =>
      rw [post_pure]
      split
      · next hOther =>
          apply hStop
          intro stored record' hFind
          simp [findJob, hRead, hOther] at hFind
      · next hSame =>
          rw [not_not] at hSame
          cases hNew : mutate record with
          | error error =>
              apply hStop
              intro stored record' hFind hOk
              simp only [findJob, hRead, hSame, true_and] at hFind
              split at hFind
              · obtain rfl := Option.some.inj hFind
                rw [hNew] at hOk
                cases hOk
              · cases hFind
          | ok record' =>
              have hPath : recordPath record'.submission.job.jobId = recordPath job.jobId := by
                rw [hMutate record record' hNew, hSame]
              have hFind (hWritable : writable io (recordPath job.jobId) = true) :
                  findJob io s job = some record := by
                simp [findJob, hRead, hSame, hWritable]
              rw [post_bind, write]
              simp only [hPath]
              apply post_replace
              · intro hRefused
                apply hStop
                intro stored record'' hOther
                rw [(get_of_findJob hOther).2.2.1] at hRefused
                cases hRefused
              · intro error hFault
                exact hUnsynced record record' error
                  (hFind (writable_of_unsynced hFault)) hNew hFault
              · intro hFault
                exact hDone record record' (hFind (writable_of_none hFault)) hNew hFault

/-- The directory after an update, whatever the update returns. -/
def afterUpdate (io : Io) (files : Files) (job : JobRef)
    (mutate : OutboxRecord → Except String OutboxRecord) : Files :=
  match (findJob io files job).map mutate with
  | some (.ok record) =>
    files.insert (recordPath job.jobId) (.record { record with updatedAtMs := io.now })
  | some (.error _) | none => files

theorem final_update
    (hMutate : ∀ record record', mutate record = .ok record' →
      record'.submission = record.submission) :
    (update job mutate).final io s = afterUpdate io s job mutate := by
  apply Post.final (P := fun t => t = afterUpdate io s job mutate)
  apply post_update hMutate
  · intro hNone
    rw [afterUpdate]
    split
    · next stored hStored =>
        obtain ⟨record, hFind, hNew⟩ := Option.map_eq_some_iff.mp hStored
        exact absurd hNew (hNone record stored hFind)
    · rfl
    · rfl
  · intro record record' error hFind hNew _
    rw [afterUpdate, hFind, Option.map_some, hNew]
  · intro record record' hFind hNew _
    rw [afterUpdate, hFind, Option.map_some, hNew]

theorem accept_submission (h : accept record = .ok record') :
    record'.submission = record.submission := by
  rw [accept] at h
  split at h <;> obtain rfl := Except.ok.inj h <;> rfl

theorem endInput_submission {finalSequences : OrdMap String Nat}
    (h : endInput job finalSequences record = .ok record') :
    record'.submission = record.submission := by
  rw [endInput] at h
  split at h
  · obtain rfl := Except.ok.inj h
    rfl
  · split at h
    · cases h
    · obtain rfl := Except.ok.inj h
      rfl

theorem final_markInputEnded {finalSequences : OrdMap String Nat} :
    (markInputEnded job finalSequences).final io s =
      if finalSequences ≠ [] then afterUpdate io s job (endInput job finalSequences)
      else s := by
  rw [markInputEnded]
  by_cases hEmpty : finalSequences = []
  · rw [if_pos hEmpty, if_neg (not_not.mpr hEmpty)]
    rfl
  · rw [if_neg hEmpty, if_pos hEmpty]
    exact final_update fun _ _ => endInput_submission

theorem complete_submission {completed : JobCompleted} {receivedAtMs : Nat}
    (h : complete completed receivedAtMs record = .ok record') :
    record'.submission = record.submission := by
  rw [complete] at h
  split at h
  · obtain rfl := Except.ok.inj h
    rfl
  · split at h
    · obtain rfl := Except.ok.inj h
      rfl
    · split at h
      · split at h
        · cases h
        · obtain rfl := Except.ok.inj h
          rfl
      · obtain rfl := Except.ok.inj h
        rfl

theorem storeResult_submission {resultVersion : Nat}
    (h : storeResult job resultVersion record = .ok record') :
    record'.submission = record.submission := by
  rw [storeResult] at h
  split at h
  · cases h
  · split at h
    · cases h
    · obtain rfl := Except.ok.inj h
      rfl

end Effects

section Results

structure AiCallResultRecord where
  jobId : String
  resultVersion : Nat
  domainId : String
  callId : String
  operationId : String
  generation : Nat
  profileId : String
  profileVersion : Nat
  captureQuality : CaptureQuality
  transcript : List TranscriptSegment
  result : StructuredCallResult
  receivedAtMs : Nat
deriving DecidableEq

/-- The table `ai_call_result` of every domain's database, each row by its domain and its
primary key. The columns are read off the row's payload. -/
abbrev Results := Table (String ×ₗ String ×ₗ Nat) AiCallResultRecord

def AiCallResultRecord.key (record : AiCallResultRecord) : String ×ₗ String ×ₗ Nat :=
  toLex (record.domainId, toLex (record.jobId, record.resultVersion))

/-- `validate_domain_storage_id`. -/
def validateDomainStorageId (domainId : String) : Except String Unit :=
  if domainId.isEmpty ∨ domainId = "." ∨ domainId = ".." ∨ '/' ∈ domainId.toList
      ∨ '\\' ∈ domainId.toList then
    .error s!"invalid domain id in legacy runtime data: {domainId}"
  else .ok ()

/-- The values that an `INTEGER` column must hold. -/
def AiCallResultRecord.inRange (record : AiCallResultRecord) : Bool :=
  [record.resultVersion, record.generation, record.profileVersion, record.receivedAtMs].all
    fun value => value ≤ i64Max

/-- `persist_ai_result`: insert the row if its key is new, and compare otherwise. -/
def persistAiResult (databaseError : Option String) (results : Results)
    (record : AiCallResultRecord) : Except String Results :=
  match validateDomainStorageId record.domainId with
  | .error error => .error error
  | .ok () =>
    if record.resultVersion = 0 ∨ record.profileVersion = 0 then
      .error "AI result and profile versions must be greater than zero"
    else match databaseError with
      | some error => .error error
      | none =>
        if ¬ record.inRange then .error "value out of SQLite INTEGER range"
        else match results.get record.key with
          | none => .ok (results.insert record.key record)
          | some stored =>
            if stored ≠ record then
              .error s!"AI result collision for job {record.jobId} version {record.resultVersion}"
            else .ok results

/-- The row of a record's result. -/
def callResult (record : OutboxRecord) (completed : JobCompleted) (receivedAtMs : Nat) :
    AiCallResultRecord where
  jobId := completed.job.jobId
  resultVersion := completed.resultVersion
  domainId := completed.job.tenantId
  callId := completed.job.conversationId
  operationId := completed.job.operationId
  generation := completed.job.generation
  profileId := record.submission.profile.profileId
  profileVersion := record.submission.profile.profileVersion
  captureQuality := completed.captureQuality
  transcript := completed.transcript
  result := completed.result
  receivedAtMs := receivedAtMs

/-- The outbox of a domain and the results that are stored. -/
structure Outbox where
  files : Files
  results : Results
deriving DecidableEq

/-- An operation on the directory alone. -/
def onFiles {α : Type} (operation : Operation α) : Proc Io Outbox String α := do
  let io ← read
  focus Outbox.files (fun files outbox => { outbox with files := files }) id io operation

def persistCompletedRecord (databaseError : Option String) (record : OutboxRecord) :
    Proc Io Outbox String OutboxRecord :=
  match record.completed, record.receivedAtMs with
  | none, _ => fail "AI outbox completion missing"
  | some _, none => fail "AI outbox completion timestamp missing"
  | some completed, some receivedAtMs => do
    match persistAiResult databaseError (← get).results
        (callResult record completed receivedAtMs) with
    | .error error => fail error
    | .ok results => do
      modify fun outbox => { outbox with results := results }
      onFiles (markResultStored completed.job completed.resultVersion)

end Results

end VoipSwitch.AiOutbox
