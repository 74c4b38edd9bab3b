import VoipSwitch.Ai.JobService

/-! What becomes of a submission that the gateway never took. The record of a job has one
state for two facts, whether the gateway took the job and whether the call's audio ended. -/
namespace VoipSwitch.AiOutbox

open Keyed Stateful Proc Transition AiProtocol

section Records

variable {P : OutboxRecord → Prop} {io : Io} {files : Files} {job : JobRef} {path : String}

def AllRecords (P : OutboxRecord → Prop) (files : Files) : Prop :=
  ∀ path record, files.get path = some (.record record) → P record

theorem AllRecords.empty : AllRecords P .empty := fun _ _ h => by cases h

theorem AllRecords.insert {record : OutboxRecord} (h : AllRecords P files) (hRecord : P record) :
    AllRecords P (files.insert path (.record record)) := by
  intro path' record' hGet
  rw [Table.get_insert] at hGet
  split at hGet
  · cases hGet
    exact hRecord
  · exact h path' record' hGet

theorem AllRecords.remove (h : AllRecords P files) : AllRecords P (files.remove path) := by
  intro path' record' hGet
  rw [Table.get_remove] at hGet
  split at hGet
  · cases hGet
  · exact h path' record' hGet

theorem update_keepsRecords {mutate : OutboxRecord → Except String OutboxRecord}
    (hMutate : ∀ record record', mutate record = .ok record' →
      record'.submission = record.submission)
    (hRecord : ∀ record record', P record → record.submission.job = job →
      mutate record = .ok record' → P { record' with updatedAtMs := io.now }) :
    Keeps io (AllRecords P) (AllRecords P) (update job mutate) := by
  intro files h
  have hInsert : ∀ record record', findJob io files job = some record →
      mutate record = .ok record' → AllRecords P (files.insert (recordPath job.jobId)
        (.record { record' with updatedAtMs := io.now })) := by
    intro record record' hFind hNew
    have hGet := get_of_findJob hFind
    exact h.insert (hRecord record record' (h _ _ hGet.1) hGet.2.1 hNew)
  apply post_update hMutate
  · exact fun _ => h
  · intro record record' error hFind hNew _
    exact hInsert record record' hFind hNew
  · intro record record' hFind hNew _
    exact hInsert record record' hFind hNew

theorem append_keepsRecords {submission : SubmitPostCallJob}
    (hNew : P (newRecord submission io.now)) :
    Keeps io (AllRecords P) (AllRecords P) (append submission) := by
  intro files h
  rw [append, post_bind, post_read]
  split
  · exact h
  · rw [post_bind, post_get, post_ite]
    split
    · rw [post_bind]
      apply (load_keeps files h).mono
      · intro existing t ht
        split <;> exact ht
      · exact fun _ ht => ht
    · rw [post_bind, write]
      apply post_replace
      · exact fun _ => h
      · exact fun _ _ => h.insert hNew
      · exact fun _ => h.insert hNew

theorem acknowledgeResult_keepsRecords {resultVersion : Nat} :
    Keeps io (AllRecords P) (AllRecords P) (acknowledgeResult job resultVersion) := by
  intro files h
  rw [acknowledgeResult, post_bind, post_get, post_ite]
  split
  · rw [post_bind]
    apply (load_keeps files h).mono
    · intro record t ht
      split
      · exact ht
      · split
        · exact ht
        · split
          · exact ht
          · rw [post_bind]
            apply post_replace
            · exact fun _ => ht
            · exact fun _ _ => ht.remove
            · exact fun _ => ht.remove
    · exact fun _ ht => ht
  · exact h

end Records

namespace AiJobService

section Handlers

variable {P : OutboxRecord → Prop} {env : Env} {s : AiJobService} {domainId : String}

/-- A property of every record of every outbox. -/
def AllStored (P : OutboxRecord → Prop) (s : AiJobService) : Prop :=
  ∀ domainId, AllRecords P (s.filesOf domainId)

theorem filesOf_putFiles {files : Files} {domainId' : String} :
    (putFiles domainId files s).filesOf domainId' =
      if domainId = domainId' then files else s.filesOf domainId' := by
  simp only [filesOf, putFiles, Table.get_insert]
  split <;> rfl

theorem AllStored.putFiles {files : Files} (h : AllStored P s) (hFiles : AllRecords P files) :
    AllStored P (putFiles domainId files s) := by
  intro domainId'
  rw [filesOf_putFiles]
  split
  · exact hFiles
  · exact h domainId'

/-- What an operation keeps in its own directory it keeps in all of them. -/
theorem onOutbox_keeps {α : Type} {io : Io} {operation : Operation α}
    (h : Keeps io (AllRecords P) (AllRecords P) operation) :
    Keeps env (AllStored P) (AllStored P) (onOutbox domainId io operation) := by
  intro s hs
  rw [onOutbox, post_focus]
  exact (h _ (hs domainId)).mono (fun _ _ ht => hs.putFiles ht) fun _ ht => hs.putFiles ht

theorem ofExcept_keeps {K : AiJobService → Prop} {α : Type} {value : Except String α} :
    Keeps env K K (ofExcept value) := by
  cases value with
  | error error => exact .fail (fun _ h => h) error
  | ok a => exact .pure a

theorem ofOption_keeps {K : AiJobService → Prop} {error : Option String} :
    Keeps env K K (ofOption error) := by
  cases error with
  | none => exact .pure ()
  | some error => exact .fail (fun _ h => h) error

theorem openOutbox_keeps : Keeps env (AllStored P) (AllStored P) (openOutbox domainId) := by
  apply Keeps.withEnv
  apply Keeps.bind ofExcept_keeps
  intro _
  apply Keeps.bind ofOption_keeps
  intro _
  apply Keeps.modify
  intro t ht
  exact ht.putFiles (ht domainId)

/-- Sending touches nothing but the queue. -/
theorem trySend_keeps {K : AiJobService → Prop}
    (hK : ∀ s sent, K s → K { s with sent := sent }) {message : AiProtocol.ControlMessage} :
    Keeps env K K (trySend message) := by
  apply Keeps.withEnv
  apply Keeps.withState
  intro s
  apply Keeps.ite
  · exact .modify fun t ht => hK t _ ht
  · exact .fail (fun _ h => h) _

theorem sendPending_keeps {K : AiJobService → Prop}
    (hK : ∀ s sent, K s → K { s with sent := sent }) {record : OutboxRecord} :
    Keeps env K K (sendPending record) := by
  apply Keeps.whenSome
  intro message
  apply Keeps.bind (trySend_keeps hK).attempt
  exact fun _ => .pure ()

theorem AllStored.sent (sent : List AiProtocol.ControlMessage) (h : AllStored P s) :
    AllStored P { s with sent := sent } := h

/-- A property that storing a record's result keeps. -/
def KeptByStoring (env : Env) (P : OutboxRecord → Prop) : Prop :=
  ∀ domainId job resultVersion record record', P record →
    storeResult job resultVersion record = .ok record' →
    P { record' with updatedAtMs := (env.storing domainId).now }

theorem persistCompleted_keeps (hStore : KeptByStoring env P) {record : OutboxRecord} :
    Keeps env (AllStored P) (AllStored P) (persistCompleted domainId record) := by
  apply Keeps.withEnv
  intro s hs
  rw [post_focus]
  have hKept : Keeps (env.storing domainId) (fun outbox : Outbox => AllRecords P outbox.files)
      (fun outbox => AllRecords P outbox.files)
      (persistCompletedRecord (env.databaseError domainId record.job.jobId) record) := by
    rw [persistCompletedRecord]
    split
    · exact .fail (fun _ h => h) _
    · exact .fail (fun _ h => h) _
    · apply Keeps.withState
      intro outbox
      split
      · exact .fail (fun _ h => h) _
      · apply Keeps.bind
        · apply Keeps.modify
          exact fun t ht => ht
        · intro _ outbox' hOutbox
          rw [onFiles, post_bind, post_read, post_focus]
          apply update_keepsRecords (fun _ _ => storeResult_submission) _ _ hOutbox
          intro stored stored' hStored _
          exact hStore _ _ _ _ _ hStored
  exact (hKept _ (hs domainId)).mono (fun _ _ ht => hs.putFiles ht) fun _ ht => hs.putFiles ht

theorem submit_keeps {request : SubmitPostCallJob} {tap : AiMediaTapSpec}
    (hNew : ∀ now, P (newRecord request now)) :
    Keeps env (AllStored P) (AllStored P) (handleCommand (.submit request tap)) := by
  apply Keeps.bind
  · apply Keeps.withEnv
    apply Keeps.ite (.fail (fun _ h => h) _)
    apply Keeps.bind openOutbox_keeps
    intro _
    apply Keeps.bind (onOutbox_keeps (append_keepsRecords (hNew _)))
    intro record
    apply Keeps.bind
    · apply Keeps.modify
      intro t ht
      split <;> exact ht
    · exact fun _ => .pure _
  · exact fun _ => sendPending_keeps fun _ sent ht => ht.sent sent

theorem completeJob_keeps {completed : JobCompleted}
    (hComplete : ∀ record record', P record → record.submission.job = completed.job →
      complete completed (env.files completed.job.tenantId).receivedAtMs record = .ok record' →
      P { record' with updatedAtMs := (env.files completed.job.tenantId).now })
    (hStore : KeptByStoring env P) :
    Keeps env (AllStored P) (AllStored P) (completeJob completed) := by
  apply Keeps.withEnv
  apply Keeps.bind
  · apply Keeps.modify
    exact fun t ht => ht
  · intro _
    apply Keeps.bind openOutbox_keeps
    intro _
    apply Keeps.bind
    · apply onOutbox_keeps
      exact Keeps.withEnv (update_keepsRecords (fun _ _ => complete_submission) hComplete)
    · intro record
      apply Keeps.bind (persistCompleted_keeps hStore)
      exact fun _ => sendPending_keeps fun _ sent ht => ht.sent sent

theorem handleStatus_keeps {status : JobStatus} :
    Keeps env (AllStored P) (AllStored P) (handleStatus status) := by
  apply Keeps.withEnv
  split
  · exact trySend_keeps fun _ sent ht => ht.sent sent
  · split
    · exact .fail (fun _ h => h) _
    · apply Keeps.bind openOutbox_keeps
      intro _
      apply Keeps.bind (onOutbox_keeps acknowledgeResult_keepsRecords)
      exact fun _ => .pure ()
  · exact .pure ()

theorem enableCapture_keeps {job : JobRef} {acceptedStreams : List String} :
    Keeps env (AllStored P) (AllStored P) (enableCapture job acceptedStreams) := by
  apply Keeps.withEnv
  apply Keeps.withState
  intro s
  split
  · exact .pure ()
  · apply Keeps.ite (.pure ())
    apply Keeps.ite (.fail (fun _ h => h) _)
    apply Keeps.ite (.pure ())
    apply Keeps.bind ofOption_keeps
    exact fun _ => .modify fun t ht => ht

theorem handleEvent_keeps {message : AiProtocol.ControlMessage}
    (hAccept : ∀ job duplicate, message = .durableAccepted job duplicate → ∀ record record',
      P record → record.submission.job = job → accept record = .ok record' →
      P { record' with updatedAtMs := (env.files job.tenantId).now })
    (hComplete : ∀ completed, message = .jobCompleted completed → ∀ record record', P record →
      record.submission.job = completed.job →
      complete completed (env.files completed.job.tenantId).receivedAtMs record = .ok record' →
      P { record' with updatedAtMs := (env.files completed.job.tenantId).now })
    (hStore : KeptByStoring env P) :
    Keeps env (AllStored P) (AllStored P) (handleEvent message) := by
  rw [handleEvent.eq_def]
  split
  · apply Keeps.withEnv
    apply Keeps.bind openOutbox_keeps
    intro _
    apply Keeps.bind
    · apply onOutbox_keeps
      exact update_keepsRecords (fun _ _ => accept_submission) (hAccept _ _ rfl)
    · exact fun _ => .pure ()
  · exact enableCapture_keeps
  · exact completeJob_keeps (hComplete _ rfl) hStore
  · exact handleStatus_keeps
  · exact .pure ()

theorem settleAll_keeps (hStore : KeptByStoring env P) (records : List OutboxRecord) :
    Keeps env (AllStored P) (AllStored P) (settleAll domainId records) := by
  induction records with
  | nil => exact .pure _
  | cons record rest ih =>
      apply Keeps.bind
      · exact .ite (persistCompleted_keeps hStore) (.pure _)
      · intro settled
        apply Keeps.bind ih
        exact fun _ => .pure _

theorem collect_keeps (hStore : KeptByStoring env P) (domains : List String) :
    Keeps env (AllStored P) (AllStored P) (collect domains) := by
  induction domains with
  | nil => exact .pure _
  | cons domainId rest ih =>
      apply Keeps.withEnv
      apply Keeps.bind openOutbox_keeps
      intro _
      apply Keeps.bind ofOption_keeps
      intro _
      apply Keeps.withState
      intro s
      apply Keeps.bind ofExcept_keeps
      intro records
      apply Keeps.bind (settleAll_keeps hStore records)
      intro settled
      apply Keeps.bind ih
      exact fun _ => .pure _

theorem sendAll_keeps (records : List OutboxRecord) :
    Keeps env (AllStored P) (AllStored P) (sendAll records) := by
  induction records with
  | nil => exact .pure ()
  | cons record rest ih =>
      rw [sendAll]
      split
      · exact ih
      · apply Keeps.bind (trySend_keeps fun _ sent ht => ht.sent sent).attempt
        intro result
        split
        · exact ih
        · exact .pure ()

theorem replayPending_keeps (hStore : KeptByStoring env P) :
    Keeps env (AllStored P) (AllStored P) replayPending := by
  apply Keeps.withEnv
  apply Keeps.bind ofOption_keeps
  intro _
  apply Keeps.withState
  intro s
  apply Keeps.bind (collect_keeps hStore _)
  intro records
  exact .ite (sendAll_keeps records) (.pure ())

end Handlers

section EndOfCall

variable {env : Env} {s : AiJobService} {domainId : String}

/-- The outbox of a domain can be opened. -/
def opens (env : Env) (domainId : String) : Bool :=
  (validateDomainStorageId domainId).isOk && (env.openError domainId).isNone

theorem post_openOutbox {Q : Unit → AiJobService → Prop} {E : AiJobService → Prop}
    (hClosed : opens env domainId = false → E s)
    (hOpen : opens env domainId = true → Q () (putFiles domainId (s.filesOf domainId) s)) :
    Post (openOutbox domainId) env s Q E := by
  rw [openOutbox, post_bind, post_read, post_bind]
  cases hValid : validateDomainStorageId domainId with
  | error error =>
      apply hClosed
      rw [opens, hValid]
      rfl
  | ok value =>
      rw [ofExcept, post_pure, post_bind]
      cases hError : env.openError domainId with
      | some error =>
          apply hClosed
          rw [opens, hValid, hError]
          rfl
      | none =>
          apply hOpen
          rw [opens, hValid, hError]
          rfl

/-- What the end of a capture leaves in the directory of a domain. -/
def endedFiles (env : Env) (s : AiJobService) (capture : AiCaptureFinalized)
    (domainId : String) : Files :=
  if capture.job.tenantId = domainId ∧ opens env domainId ∧ capture.finalSequences ≠ [] then
    afterUpdate (env.files domainId) (s.filesOf domainId) capture.job
      (endInput capture.job capture.finalSequences)
  else s.filesOf domainId

theorem filesOf_endCapture (capture : AiCaptureFinalized) (domainId : String) :
    ((endCapture capture).final env s).filesOf domainId = endedFiles env s capture domainId := by
  apply Post.final (P := fun t : AiJobService => t.filesOf domainId = _)
  rw [endCapture, post_bind, post_read, post_bind, post_modify, post_bind]
  apply post_openOutbox
  · intro hClosed
    rw [endedFiles, if_neg]
    · rfl
    · rintro ⟨rfl, hOpen, -⟩
      rw [hClosed] at hOpen
      cases hOpen
  · intro hOpen
    rw [onOutbox, post_focus]
    apply Post.of_final (P := fun files => (putFiles _ files _).filesOf domainId = _)
    rw [filesOf_putFiles, filesOf_putFiles, if_pos rfl, final_markInputEnded, endedFiles]
    by_cases hSame : capture.job.tenantId = domainId
    · subst hSame
      rw [if_pos rfl]
      by_cases hEmpty : capture.finalSequences = []
      · rw [if_neg (not_not.mpr hEmpty), if_neg fun h => h.2.2 hEmpty]
        rfl
      · rw [if_pos hEmpty, if_pos ⟨rfl, hOpen, hEmpty⟩]
        rfl
    · rw [if_neg hSame, if_neg fun h => hSame h.1, filesOf_putFiles, if_neg hSame]
      rfl

theorem filesOf_endCall (env : Env) (s : AiJobService) (conversationId : String)
    (capture : Option AiCaptureFinalized) (domainId : String) :
    ((handleCommand (.endCall conversationId capture)).final env s).filesOf domainId =
      match s.endedCapture conversationId capture with
      | none => s.filesOf domainId
      | some capture => endedFiles env s capture domainId := by
  have hBind : handleCommand (.endCall conversationId capture) = get >>= fun s : AiJobService =>
      match s.endedCapture conversationId capture with
      | none => pure ()
      | some capture => endCapture capture >>= fun record => sendPending record := rfl
  apply Post.final (P := fun t : AiJobService => t.filesOf domainId = _)
  rw [hBind, post_bind, post_get]
  cases s.endedCapture conversationId capture with
  | none => rfl
  | some capture =>
      rw [post_bind]
      apply (Post.of_final (P := fun t : AiJobService => t.filesOf domainId = _)
        (filesOf_endCapture capture domainId)).mono
      · intro record t ht
        exact sendPending_keeps (K := fun t => t.filesOf domainId = _) (fun _ _ h => h) t ht
      · exact fun _ ht => ht

end EndOfCall

section Runs

/-- The service with the jobs that the gateway accepted or completed so far. -/
structure Node where
  service : AiJobService
  marked : List JobRef
deriving DecidableEq

/-- The jobs that an input says the gateway took. -/
def marks : Input → List JobRef
  | .event (.durableAccepted job _) => [job]
  | .event (.jobCompleted completed) => [completed.job]
  | _ => []

def Node.next (n : Node) (i : Env × Input) : Node where
  service := (handle i.2).final i.1 n.service
  marked := n.marked ++ marks i.2

def system : System Node (Env × Input) where
  init n := n.service.outboxes = .empty ∧ n.marked = []
  next n i n' := n' = n.next i

/-- The gateway is asked to take every job that it never took. -/
def Node.Submitting (n : Node) : Prop :=
  AllStored (fun record => record.job ∉ n.marked →
    record.pendingMessage = some (.submitPostCallJob record.submission)) n.service

/-- The end of a call reaches the record of a job that the gateway never took. -/
def Node.endsUnsubmitted (n : Node) (i : Env × Input) : Bool :=
  match i.2 with
  | .command (.endCall conversationId capture) =>
    (n.service.endedCapture conversationId capture).any fun capture =>
      opens i.1 capture.job.tenantId && capture.finalSequences ≠ [] &&
        (findJob (i.1.files capture.job.tenantId) (n.service.filesOf capture.job.tenantId)
          capture.job).any fun record =>
            record.state = .pendingSubmission && capture.job ∉ n.marked
  | _ => false

/-- A job that the gateway never took is as it was submitted. -/
def Untouched (marked : List JobRef) (record : OutboxRecord) : Prop :=
  record.job ∈ marked ∨
    record.state = .pendingSubmission ∧ record.finalSequences = [] ∧ record.completed = none

theorem untouched_of_marked {marked : List JobRef} {record record' : OutboxRecord} {now : Nat}
    (hSubmission : record'.submission = record.submission) (h : record.submission.job ∈ marked) :
    Untouched marked { record' with updatedAtMs := now } := by
  left
  rw [OutboxRecord.job, hSubmission]
  exact h

theorem storeResult_keepsUntouched {env : Env} {marked : List JobRef} :
    KeptByStoring env (Untouched marked) := by
  intro domainId job resultVersion record record' h hStore
  rcases h with hMarked | ⟨_, _, hNone⟩
  · exact untouched_of_marked (storeResult_submission hStore) hMarked
  · rw [storeResult, hNone] at hStore
    cases hStore

theorem endInput_keepsUntouched {n : Node} {env : Env} {capture : AiCaptureFinalized}
    (h : AllStored (Untouched n.marked) n.service)
    (hTaken : opens env capture.job.tenantId = true → capture.finalSequences ≠ [] →
      ∀ record, findJob (env.files capture.job.tenantId)
        (n.service.filesOf capture.job.tenantId) capture.job = some record →
      record.state = .pendingSubmission → capture.job ∈ n.marked) (domainId : String) :
    AllRecords (Untouched n.marked) (endedFiles env n.service capture domainId) := by
  rw [endedFiles]
  split
  · next hEnded =>
      obtain ⟨rfl, hOpen, hSequences⟩ := hEnded
      rw [afterUpdate]
      split
      · next record' hUpdated =>
          obtain ⟨record, hFind, hNew⟩ := Option.map_eq_some_iff.mp hUpdated
          have hFound := get_of_findJob hFind
          apply (h _).insert
          apply untouched_of_marked (endInput_submission hNew)
          rcases h _ _ _ hFound.1 with hMarked | ⟨hPending, -⟩
          · exact hMarked
          · rw [hFound.2.1]
            exact hTaken hOpen hSequences record hFind hPending
      · exact h _
      · exact h _
  · exact h _

theorem next_untouched {n : Node} {i : Env × Input}
    (h : AllStored (Untouched n.marked) n.service) (hEnds : n.endsUnsubmitted i = false) :
    AllStored (Untouched (n.next i).marked) (n.next i).service := by
  obtain ⟨env, input⟩ := i
  have hGrown : AllStored (Untouched (n.marked ++ marks input)) n.service := by
    intro domainId path record hGet
    apply (h domainId path record hGet).imp_left
    exact List.mem_append_left _
  cases input with
  | command command =>
      cases command with
      | submit request tap =>
          apply Post.final
          exact submit_keeps (fun now => Or.inr ⟨rfl, rfl, rfl⟩) _ hGrown
      | endCall conversationId capture =>
          have hMarked : n.marked ++ marks (.command (.endCall conversationId capture)) =
            n.marked := List.append_nil _
          intro domainId
          simp only [Node.next, handle, hMarked, filesOf_endCall]
          simp only [Node.endsUnsubmitted] at hEnds
          cases hEnded : n.service.endedCapture conversationId capture with
          | none => exact h domainId
          | some capture =>
              apply endInput_keepsUntouched h
              intro hOpen hSequences record hFind hPending
              simpa [hEnded, hOpen, hSequences, hFind, hPending] using hEnds
  | event message =>
      apply Post.final
      apply handleEvent_keeps _ _ storeResult_keepsUntouched _ hGrown
      · rintro job duplicate rfl record record' - hJob hNew
        apply untouched_of_marked (accept_submission hNew)
        rw [hJob]
        exact List.mem_append_right _ (.head _)
      · rintro completed rfl record record' - hJob hNew
        apply untouched_of_marked (complete_submission hNew)
        rw [hJob]
        exact List.mem_append_right _ (.head _)
  | replay =>
      apply Post.final
      exact replayPending_keeps storeResult_keepsUntouched _ hGrown

theorem AllStored.submitting {n : Node} (h : AllStored (Untouched n.marked) n.service) :
    n.Submitting := by
  intro domainId path record hGet hNever
  rcases h domainId path record hGet with hMarked | ⟨hPending, -⟩
  · exact absurd hMarked hNever
  · rw [OutboxRecord.pendingMessage, hPending]

theorem untouched_of_reachable {n : Node}
    (h : ReachableWithin system (fun n i => n.endsUnsubmitted i = false) n) :
    AllStored (Untouched n.marked) n.service := by
  apply h.invariant
  · rintro s ⟨hEmpty, -⟩ domainId
    rw [filesOf, hEmpty]
    exact .empty
  · rintro s i t hs hC rfl
    exact next_untouched hs hC

/-- The end of a call whose job the gateway never took turns the request to take it into the
request to end its audio. -/
theorem not_submitting_of_endsUnsubmitted {n : Node} {i : Env × Input}
    (h : AllStored (Untouched n.marked) n.service) (hEnds : n.endsUnsubmitted i = true) :
    ¬ (n.next i).Submitting := by
  obtain ⟨env, input⟩ := i
  rw [Node.endsUnsubmitted] at hEnds
  split at hEnds
  · next conversationId finalized hInput =>
      obtain rfl : input = _ := hInput
      obtain ⟨capture, hEnded, hCapture⟩ := (Option.any_eq_true ..).mp hEnds
      simp only [Bool.and_eq_true, decide_eq_true_eq] at hCapture
      obtain ⟨⟨hOpen, hSequences⟩, hFound⟩ := hCapture
      obtain ⟨record, hFind, hPending⟩ := (Option.any_eq_true ..).mp hFound
      simp only [Bool.and_eq_true, decide_eq_true_eq] at hPending
      have hGet := get_of_findJob hFind
      have hSame : record.finalSequences = [] := by
        rcases h _ _ _ hGet.1 with hMarked | ⟨-, hSequences, -⟩
        · rw [OutboxRecord.job, hGet.2.1] at hMarked
          exact absurd hMarked hPending.2
        · exact hSequences
      have hNew : endInput capture.job capture.finalSequences record =
          .ok { record with finalSequences := capture.finalSequences, state := .inputEnded } := by
        rw [endInput, if_neg (by rw [hPending.1]; decide), if_neg fun h => h.1 hSame]
      intro hSubmitting
      have hFiles := filesOf_endCall env n.service conversationId finalized capture.job.tenantId
      simp only [hEnded] at hFiles
      rw [endedFiles, if_pos ⟨rfl, hOpen, hSequences⟩, afterUpdate, hFind, Option.map_some,
        hNew] at hFiles
      have hMarks : (n.next (env, .command (.endCall conversationId finalized))).marked =
        n.marked := List.append_nil _
      have hMessage := hSubmitting capture.job.tenantId (recordPath capture.job.jobId) _
        (by rw [Node.next, handle, hFiles, Table.get_insert_self])
        (by rw [hMarks, OutboxRecord.job, hGet.2.1]; exact hPending.2)
      cases hMessage
  · cases hEnds

/-- As long as no call ends whose job the gateway never took, the gateway is asked to take
every job that it never took; the first such end is the first miss. -/
theorem submission_kept (n : Node)
    (h : ReachableWithin system (fun n i => n.endsUnsubmitted i = false) n) :
    n.Submitting ∧ ∀ i n', system.next n i n' → (n'.Submitting ↔ n.endsUnsubmitted i = false) := by
  have hUntouched := untouched_of_reachable h
  refine ⟨hUntouched.submitting, ?_⟩
  rintro i n' rfl
  constructor
  · intro hSubmitting
    rw [← Bool.not_eq_true]
    intro hEnds
    exact not_submitting_of_endsUnsubmitted hUntouched hEnds hSubmitting
  · intro hEnds
    exact (next_untouched hUntouched hEnds).submitting

/-- A call that ends while the gateway is away: it will be told that the audio of a job
ended that it never heard of. -/
theorem submission_lost : ¬ ∀ n, Reachable system n → n.Submitting := by
  intro hAll
  let start : Node := { service := noJobs, marked := [] }
  let submitted :=
    start.next (calm false, .command (.submit (submissionOf "j" "d") (tapOf "j" "d")))
  let ended := submitted.next (calm false, .command (.endCall "c" none))
  have hRun : Runs system start ended :=
    .step (.step .refl trivial rfl) trivial rfl
  have hSubmitting := hAll ended ⟨start, ⟨rfl, rfl⟩, hRun⟩
  let record : OutboxRecord := { newRecord (submissionOf "j" "d") 0 with
    state := .inputEnded
    finalSequences := [("s", 0), ("t", 0)] }
  have hMessage := hSubmitting "d" "j.json" record (by decide) (by decide)
  cases hMessage

/-- The call of a job that the gateway accepted ends, and then another job is submitted while the
gateway is away. -/
def acceptedInputs : List (Env × Input) :=
  [(calm true, .command (.submit (submissionOf "j" "d") (tapOf "j" "d"))),
    (calm true, .event (.durableAccepted (jobOf "j" "d") false)),
    (calm true, .command (.endCall "c" none)),
    (calm false, .command (.submit (submissionOf "k" "d") (tapOf "k" "d")))]

theorem submission_kept_submitted :
    (acceptedInputs.foldl Node.next { service := noJobs, marked := [] }).Submitting ∧
      (acceptedInputs.foldl Node.next { service := noJobs, marked := [] }).marked =
        [jobOf "j" "d"] :=
  ⟨(submission_kept _ ⟨_, ⟨rfl, rfl⟩,
    .step (.step (.step (.step .refl rfl rfl) rfl rfl) rfl rfl) rfl rfl⟩).1, rfl⟩

end Runs

end AiJobService

end VoipSwitch.AiOutbox
