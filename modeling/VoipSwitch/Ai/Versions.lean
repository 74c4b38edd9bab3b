import VoipSwitch.Ai.JobService

/-! The results of a job come in versions. What the operations on one outbox may make of a
record, in any order and however often they are repeated. -/
namespace VoipSwitch.AiOutbox

open Keyed Stateful Proc Transition AiProtocol

section Changes

/-- The states of a record that has a result. -/
def OutboxRecord.Settled (record : OutboxRecord) : Prop :=
  record.state = .completed ∨ record.state = .resultStored

instance (record : OutboxRecord) : Decidable record.Settled :=
  inferInstanceAs (Decidable (_ ∨ _))

/-- The state says whether there is a result. -/
def OutboxRecord.Sound (record : OutboxRecord) : Prop :=
  record.completed.isSome = true ↔ record.Settled

/-- The same submission with the same result or a later one. -/
structure Advances (old new : OutboxRecord) : Prop where
  submission : new.submission = old.submission
  completed : ∀ completed, old.completed = some completed → ∃ later, new.completed = some later ∧
    (later = completed ∨ completed.resultVersion < later.resultVersion)
  settled : old.Settled → new.Settled

variable {old mid new record record' : OutboxRecord} {job : JobRef}

theorem Advances.refl (record : OutboxRecord) : Advances record record where
  submission := rfl
  completed completed h := ⟨completed, h, .inl rfl⟩
  settled h := h

/-- A version that was replaced by a later one, and that by another, was replaced by a later one. -/
theorem Advances.trans (h : Advances old mid) (h' : Advances mid new) : Advances old new where
  submission := h'.submission.trans h.submission
  completed := by
    intro completed hOld
    obtain ⟨later, hMid, hLater⟩ := h.completed completed hOld
    obtain ⟨last, hNew, hLast⟩ := h'.completed later hMid
    refine ⟨last, hNew, ?_⟩
    rcases hLater with rfl | hLater
    · exact hLast
    · rcases hLast with rfl | hLast
      · exact .inr hLater
      · exact .inr (hLater.trans hLast)
  settled hOld := h'.settled (h.settled hOld)

theorem Advances.stamped (h : Advances old new) (now : Nat) :
    Advances old { new with updatedAtMs := now } :=
  ⟨h.submission, h.completed, h.settled⟩

/-- A change of a record that keeps its result and its submission. -/
def Lawful (mutate : OutboxRecord → Except String OutboxRecord) : Prop :=
  ∀ record record', record.Sound → mutate record = .ok record' →
    Advances record record' ∧ record'.Sound

/-- A record without a result has no completion that a change could lose. -/
theorem OutboxRecord.Sound.none (h : record.Sound) (hOld : ¬ record.Settled) :
    record.completed = none := by
  rw [← Option.not_isSome_iff_eq_none]
  exact fun hSome => hOld (h.mp hSome)

theorem Advances.unsettled (hOld : ¬ old.Settled) (hNone : old.completed = none)
    (hSubmission : new.submission = old.submission) : Advances old new := by
  refine ⟨hSubmission, ?_, fun hSettled => absurd hSettled hOld⟩
  intro completed hSome
  rw [hNone] at hSome
  cases hSome

/-- An acceptance settles nothing: a record that waits for it has no completion yet. -/
theorem accept_lawful : Lawful accept := by
  intro record record' hSound h
  rw [accept] at h
  split at h
  · next hPending =>
      obtain rfl := Except.ok.inj h
      have hOld : ¬ record.Settled := by
        rw [OutboxRecord.Settled, hPending]
        decide
      have hNone := hSound.none hOld
      refine ⟨.unsettled hOld hNone rfl, ?_⟩
      simp [OutboxRecord.Sound, OutboxRecord.Settled, hNone]
  · obtain rfl := Except.ok.inj h
    exact ⟨.refl _, hSound⟩

/-- The end of the audio leaves a record with a result as it is. -/
theorem endInput_lawful {finalSequences : OrdMap String Nat} :
    Lawful (endInput job finalSequences) := by
  intro record record' hSound h
  rw [endInput] at h
  split at h
  · obtain rfl := Except.ok.inj h
    exact ⟨.refl _, hSound⟩
  · next hOld =>
      split at h
      · cases h
      · obtain rfl := Except.ok.inj h
        have hNone := hSound.none hOld
        refine ⟨.unsettled hOld hNone rfl, ?_⟩
        simp [OutboxRecord.Sound, OutboxRecord.Settled, hNone]

theorem withResult_sound (completed : JobCompleted) (receivedAtMs : Nat)
    (record : OutboxRecord) : (withResult completed receivedAtMs record).Sound := by
  simp [OutboxRecord.Sound, OutboxRecord.Settled, withResult]

/-- A completion replaces the one before it only with a later version. An older one leaves the
record as it is, and another result of the same version is an error. -/
theorem complete_lawful {completed : JobCompleted} {receivedAtMs : Nat} :
    Lawful (complete completed receivedAtMs) := by
  intro record record' hSound h
  rw [complete] at h
  split at h
  · next hNone =>
      obtain rfl := Except.ok.inj h
      refine ⟨⟨rfl, ?_, fun _ => .inl rfl⟩, withResult_sound _ _ _⟩
      intro earlier hSome
      rw [hNone] at hSome
      cases hSome
  · next existing hSome =>
      split at h
      · obtain rfl := Except.ok.inj h
        exact ⟨.refl _, hSound⟩
      · next hNotOlder =>
          split at h
          · split at h
            · cases h
            · obtain rfl := Except.ok.inj h
              exact ⟨.refl _, hSound⟩
          · next hOther =>
              obtain rfl := Except.ok.inj h
              refine ⟨⟨rfl, ?_, fun _ => .inl rfl⟩, withResult_sound _ _ _⟩
              intro earlier hEarlier
              rw [hSome] at hEarlier
              obtain rfl := Option.some.inj hEarlier
              exact ⟨completed, rfl, .inr (by omega)⟩

theorem storeResult_lawful {resultVersion : Nat} : Lawful (storeResult job resultVersion) := by
  intro record record' hSound h
  rw [storeResult] at h
  split at h
  · cases h
  · next completed hSome =>
      split at h
      · cases h
      · obtain rfl := Except.ok.inj h
        refine ⟨⟨rfl, fun earlier hEarlier => ⟨earlier, hEarlier, .inl rfl⟩, fun _ => .inr rfl⟩, ?_⟩
        simp [OutboxRecord.Sound, OutboxRecord.Settled, hSome]

/-- After a result was taken, taking it again changes nothing. -/
theorem complete_again {completed : JobCompleted} {receivedAtMs receivedAtMs' : Nat}
    (h : complete completed receivedAtMs old = .ok mid) (hLater : Advances mid record) :
    complete completed receivedAtMs' record = .ok record := by
  have hTaken : ∃ taken, mid.completed = some taken ∧
      (taken = completed ∨ completed.resultVersion < taken.resultVersion) := by
    rw [complete] at h
    split at h
    · obtain rfl := Except.ok.inj h
      exact ⟨completed, rfl, .inl rfl⟩
    · next existing hSome =>
        split at h
        · next hOlder =>
            obtain rfl := Except.ok.inj h
            exact ⟨existing, hSome, .inr hOlder⟩
        · split at h
          · split at h
            · cases h
            · next hSame =>
                obtain rfl := Except.ok.inj h
                exact ⟨existing, hSome, .inl (not_not.mp hSame)⟩
          · obtain rfl := Except.ok.inj h
            exact ⟨completed, rfl, .inl rfl⟩
  obtain ⟨taken, hMid, hTaken⟩ := hTaken
  obtain ⟨later, hSome, hLast⟩ := hLater.completed taken hMid
  rw [complete, hSome]
  have hVersion : later = completed ∨ completed.resultVersion < later.resultVersion := by
    rcases hTaken with rfl | hTaken
    · exact hLast
    · rcases hLast with rfl | hLast
      · exact .inr hTaken
      · exact .inr (hTaken.trans hLast)
  rcases hVersion with rfl | hOlder
  · simp
  · simp [hOlder]

end Changes

section System

inductive OutboxOperation where
  | append (submission : SubmitPostCallJob)
  | markAccepted (job : JobRef)
  | markInputEnded (job : JobRef) (finalSequences : OrdMap String Nat)
  | markCompleted (completed : JobCompleted)
  | persistCompletedRecord (record : OutboxRecord) (databaseError : Option String)
  | markResultStored (job : JobRef) (resultVersion : Nat)
  | acknowledgeResult (job : JobRef) (resultVersion : Nat)
deriving DecidableEq

namespace OutboxOperation

def job : OutboxOperation → JobRef
  | .append submission => submission.job
  | .markAccepted job | .markInputEnded job _ | .markResultStored job _
  | .acknowledgeResult job _ => job
  | .markCompleted completed => completed.job
  | .persistCompletedRecord record _ => (record.completed.map (·.job)).getD record.job

/-- The file that an operation is about. -/
def path (operation : OutboxOperation) : String := recordPath operation.job.jobId

def run : OutboxOperation → Proc Io Outbox String Unit
  | .append submission => do let _ ← onFiles (AiOutbox.append submission)
  | .markAccepted job => do let _ ← onFiles (AiOutbox.markAccepted job)
  | .markInputEnded job finalSequences => do
    let _ ← onFiles (AiOutbox.markInputEnded job finalSequences)
  | .markCompleted completed => do let _ ← onFiles (AiOutbox.markCompleted completed)
  | .persistCompletedRecord record databaseError => do
    let _ ← AiOutbox.persistCompletedRecord databaseError record
  | .markResultStored job resultVersion => do
    let _ ← onFiles (AiOutbox.markResultStored job resultVersion)
  | .acknowledgeResult job resultVersion => do
    let _ ← onFiles (AiOutbox.acknowledgeResult job resultVersion)

end OutboxOperation

/-- The outbox after an operation. -/
def Outbox.next (s : Outbox) (i : Io × OutboxOperation) : Outbox := i.2.run.final i.1 s

/-- The row of the record's result is stored. -/
def Persisted (results : Results) (record : OutboxRecord) : Prop :=
  ∃ completed receivedAtMs, record.completed = some completed ∧
    results.get (callResult record completed receivedAtMs).key =
      some (callResult record completed receivedAtMs)

/-- Runs of operations on an outbox that is empty at first. A record whose result is to be
stored has just been written or read. -/
def operations : System Outbox (Io × OutboxOperation) where
  init s := s = { files := .empty, results := .empty }
  next s i t := t = s.next i ∧
    ∀ record databaseError, i.2 = .persistCompletedRecord record databaseError →
      s.files.get (recordPath record.job.jobId) = some (.record record)

/-- A result is marked as stored only if its row is. -/
def storesPersisted (s : Outbox) (i : Io × OutboxOperation) : Prop :=
  ∀ job resultVersion, i.2 = .markResultStored job resultVersion →
    ∀ record record', s.files.get (recordPath job.jobId) = some (.record record) →
      storeResult job resultVersion record = .ok record' → Persisted s.results record

end System

section Steps

variable {io : Io} {s t : Outbox} {files : Files} {job : JobRef} {record : OutboxRecord}

theorem final_onFiles {α : Type} {operation : Operation α} :
    (onFiles operation).final io s = { s with files := operation.final io s.files } := by
  apply Post.final (P := fun t => t = _)
  rw [onFiles, post_bind, post_read, post_focus]
  apply (Post.of_final (P := fun files => files = operation.final io s.files) rfl).mono
  · rintro _ _ rfl
    rfl
  · rintro _ rfl
    rfl

/-- What `append` leaves in the directory. -/
def afterAppend (io : Io) (files : Files) (submission : SubmitPostCallJob) : Files :=
  let path := recordPath submission.job.jobId
  if submission.validate = .ok () ∧ files.contains path = false ∧ writable io path then
    files.insert path (.record (newRecord submission io.now))
  else files

/-- What an append leaves: a new record, if the submission is valid and its file is not there yet. A
record that is there is kept, whatever was submitted. -/
theorem final_append {submission : SubmitPostCallJob} :
    (append submission).final io files = afterAppend io files submission := by
  apply Post.final (P := fun t => t = afterAppend io files submission)
  rw [append, post_bind, post_read]
  split
  · next error hInvalid =>
      rw [afterAppend, if_neg]
      · rfl
      · rintro ⟨hValid, -⟩
        rw [hValid] at hInvalid
        cases hInvalid
  · next hValid =>
      rw [post_bind, post_get, post_ite]
      split
      · next hThere =>
          have hSame : afterAppend io files submission = files := by
            apply if_neg
            rintro ⟨-, hNew, -⟩
            rw [hNew] at hThere
            cases hThere
          rw [hSame, post_bind]
          apply (load_keeps (K := fun t => t = files) files rfl).mono
          · rintro existing t rfl
            split <;> rfl
          · exact fun _ ht => ht
      · next hNew =>
          rw [Bool.not_eq_true] at hNew
          have hWritten : writable io (recordPath submission.job.jobId) = true →
              afterAppend io files submission = files.insert (recordPath submission.job.jobId)
                (.record (newRecord submission io.now)) :=
            fun hWritable => if_pos ⟨hValid, hNew, hWritable⟩
          rw [post_bind, write]
          apply post_replace
          · intro hRefused
            symm
            apply if_neg
            rintro ⟨-, -, hWritable⟩
            exact Bool.false_ne_true (hRefused.symm.trans hWritable)
          · intro error hFault
            exact (hWritten (writable_of_unsynced hFault)).symm
          · intro hFault
            exact (hWritten (writable_of_none hFault)).symm

/-- The record is the one that an acknowledgement is about. -/
def acknowledgeable (record : OutboxRecord) (resultVersion : Nat) : Bool :=
  record.state = .resultStored && record.completed.any (·.resultVersion = resultVersion)

/-- What `acknowledge_result` leaves in the directory. -/
def afterAcknowledge (io : Io) (files : Files) (job : JobRef) (resultVersion : Nat) : Files :=
  if (findJob io files job).any (acknowledgeable · resultVersion) then
    files.remove (recordPath job.jobId)
  else files

/-- What an acknowledgement leaves: the file is removed if its record has the result of that version
stored, and stays in every other case. Each way out of the operation is one case. -/
theorem final_acknowledge {resultVersion : Nat} :
    (acknowledgeResult job resultVersion).final io files =
      afterAcknowledge io files job resultVersion := by
  apply Post.final (P := fun t => t = afterAcknowledge io files job resultVersion)
  have hKept (hNone : ∀ record, findJob io files job = some record →
      acknowledgeable record resultVersion = false) :
      files = afterAcknowledge io files job resultVersion := by
    rw [afterAcknowledge, if_neg]
    intro hAny
    obtain ⟨record, hFind, hMatch⟩ := (Option.any_eq_true ..).mp hAny
    rw [hNone record hFind] at hMatch
    cases hMatch
  rw [acknowledgeResult, post_bind, post_get, post_ite]
  split
  · rw [post_bind, load, post_bind, post_read, post_bind, post_get]
    cases hRead : readPath io files (recordPath job.jobId) with
    | error error =>
        apply hKept
        intro record hFind
        rw [findJob, hRead] at hFind
        cases hFind
    | ok record =>
        rw [post_pure]
        split
        · next hOther =>
            apply hKept
            intro stored hFind
            simp [findJob, hRead, hOther] at hFind
        · next hSame =>
            rw [not_not] at hSame
            have hOnly : ∀ stored, findJob io files job = some stored → stored = record := by
              intro stored hFind
              simp only [findJob, hRead, hSame, true_and] at hFind
              split at hFind
              · exact (Option.some.inj hFind).symm
              · cases hFind
            cases hCompleted : record.completed with
            | none =>
                apply hKept
                intro stored hFind
                rw [hOnly stored hFind, acknowledgeable, hCompleted]
                simp
            | some completed =>
                rw [post_ite]
                split
                · next hMismatch =>
                    apply hKept
                    intro stored hFind
                    rw [hOnly stored hFind, acknowledgeable, hCompleted]
                    rcases hMismatch with hState | hVersion
                    · simp [hState]
                    · simp [hVersion]
                · next hMatch =>
                    rw [not_or, not_not, not_not] at hMatch
                    have hRemoved (hWritable : writable io (recordPath job.jobId) = true) :
                        files.remove (recordPath job.jobId) =
                          afterAcknowledge io files job resultVersion := by
                      rw [afterAcknowledge, if_pos]
                      have hFind : findJob io files job = some record := by
                        simp [findJob, hRead, hSame, hWritable]
                      simp [hFind, acknowledgeable, hCompleted, hMatch]
                    rw [post_bind]
                    apply post_replace
                    · intro hRefused
                      apply hKept
                      intro stored hFind
                      have hWritable := (get_of_findJob hFind).2.2.1
                      rw [hRefused] at hWritable
                      cases hWritable
                    · intro error hFault
                      exact hRemoved (writable_of_unsynced hFault)
                    · intro hFault
                      exact hRemoved (writable_of_none hFault)
  · next hAbsent =>
      apply hKept
      intro record hFind
      have hGet := (get_of_findJob hFind).1
      rw [Table.contains, hGet] at hAbsent
      exact absurd rfl hAbsent

/-- A row is there once it was stored, and no row that was there is lost or replaced. -/
theorem persistAiResult_ok {databaseError : Option String} {results results' : Results}
    {row : AiCallResultRecord} (h : persistAiResult databaseError results row = .ok results') :
    results'.get row.key = some row ∧
      ∀ key stored, results.get key = some stored → results'.get key = some stored := by
  rw [persistAiResult.eq_def] at h
  split at h
  · cases h
  · split at h
    · cases h
    · split at h
      · cases h
      · split at h
        · cases h
        · split at h
          · next hNew =>
              obtain rfl := Except.ok.inj h
              refine ⟨Table.get_insert_self, ?_⟩
              intro key stored hStored
              rw [Table.get_insert_of_ne, hStored]
              rintro rfl
              rw [hNew] at hStored
              cases hStored
          · next old hOld =>
              split at h
              · cases h
              · next hSame =>
                  obtain rfl := Except.ok.inj h
                  rw [not_not] at hSame
                  rw [hOld, hSame]
                  exact ⟨rfl, fun _ _ hStored => hStored⟩

/-- What `persist_completed_record` leaves. -/
def afterPersist (io : Io) (s : Outbox) (record : OutboxRecord) (databaseError : Option String) :
    Outbox :=
  match record.completed, record.receivedAtMs with
  | some completed, some receivedAtMs =>
    match persistAiResult databaseError s.results (callResult record completed receivedAtMs) with
    | .error _ => s
    | .ok results => {
        files := afterUpdate io s.files completed.job
          (storeResult completed.job completed.resultVersion)
        results := results }
  | _, _ => s

/-- What storing a result leaves. The row is stored first; the record is marked only behind it. -/
theorem final_persistCompletedRecord {databaseError : Option String} :
    (persistCompletedRecord databaseError record).final io s =
      afterPersist io s record databaseError := by
  apply Post.final (P := fun t => t = afterPersist io s record databaseError)
  rw [persistCompletedRecord, afterPersist]
  cases record.completed with
  | none => rfl
  | some completed =>
      cases record.receivedAtMs with
      | none => rfl
      | some receivedAtMs =>
          simp only [post_bind, post_get]
          cases persistAiResult databaseError s.results
              (callResult record completed receivedAtMs) with
          | error error => rfl
          | ok results =>
              rw [post_bind, post_modify, onFiles, post_bind, post_read, post_focus]
              apply (Post.of_final (P := fun files => files = _) (final_update
                fun _ _ => storeResult_submission)).mono
              · rintro _ _ rfl
                rfl
              · rintro _ rfl
                rfl

/-- What an operation leaves. -/
def afterOperation (io : Io) (s : Outbox) : OutboxOperation → Outbox
  | .append submission => { s with files := afterAppend io s.files submission }
  | .markAccepted job => { s with files := afterUpdate io s.files job accept }
  | .markInputEnded job finalSequences =>
    { s with
      files :=
        if finalSequences ≠ [] then
          afterUpdate io s.files job (endInput job finalSequences)
        else s.files }
  | .markCompleted completed =>
    { s with files := afterUpdate io s.files completed.job (complete completed io.receivedAtMs) }
  | .persistCompletedRecord record databaseError => afterPersist io s record databaseError
  | .markResultStored job resultVersion =>
    { s with files := afterUpdate io s.files job (storeResult job resultVersion) }
  | .acknowledgeResult job resultVersion =>
    { s with files := afterAcknowledge io s.files job resultVersion }

/-- What an operation leaves of the outbox, whatever it returns. -/
theorem next_eq {operation : OutboxOperation} :
    s.next (io, operation) = afterOperation io s operation := by
  cases operation with
  | append submission =>
      rw [Outbox.next, OutboxOperation.run, final_bind_pure, final_onFiles,
        final_append, afterOperation]
  | markAccepted job =>
      rw [Outbox.next, OutboxOperation.run, final_bind_pure, final_onFiles, markAccepted,
        final_update fun _ _ => accept_submission, afterOperation]
  | markInputEnded job finalSequences =>
      rw [Outbox.next, OutboxOperation.run, final_bind_pure, final_onFiles,
        final_markInputEnded, afterOperation]
  | markCompleted completed =>
      rw [Outbox.next, OutboxOperation.run, final_bind_pure, final_onFiles, afterOperation]
      exact congrArg (fun files => { s with files := files })
        (final_update fun _ _ => complete_submission)
  | persistCompletedRecord record databaseError =>
      rw [Outbox.next, OutboxOperation.run, final_bind_pure, final_persistCompletedRecord,
        afterOperation]
  | markResultStored job resultVersion =>
      rw [Outbox.next, OutboxOperation.run, final_bind_pure, final_onFiles, markResultStored,
        final_update fun _ _ => storeResult_submission, afterOperation]
  | acknowledgeResult job resultVersion =>
      rw [Outbox.next, OutboxOperation.run, final_bind_pure, final_onFiles,
        final_acknowledge, afterOperation]

/-- The change that an operation makes of its job's record. -/
def mutation (io : Io) : OutboxOperation → Option (OutboxRecord → Except String OutboxRecord)
  | .append _ | .acknowledgeResult _ _ => none
  | .markAccepted _ => some accept
  | .markInputEnded job finalSequences => some (endInput job finalSequences)
  | .markCompleted completed => some (complete completed io.receivedAtMs)
  | .persistCompletedRecord record _ =>
    record.completed.map fun completed => storeResult completed.job completed.resultVersion
  | .markResultStored job resultVersion => some (storeResult job resultVersion)

/-- The operations that rewrite a record do so lawfully. -/
theorem mutation_lawful {operation : OutboxOperation}
    {mutate : OutboxRecord → Except String OutboxRecord}
    (h : mutation io operation = some mutate) : Lawful mutate := by
  cases operation with
  | append submission => cases h
  | markAccepted job =>
      obtain rfl := Option.some.inj h
      exact accept_lawful
  | markInputEnded job finalSequences =>
      obtain rfl := Option.some.inj h
      exact endInput_lawful
  | markCompleted completed =>
      obtain rfl := Option.some.inj h
      exact complete_lawful
  | persistCompletedRecord record databaseError =>
      obtain ⟨completed, _, rfl⟩ := Option.map_eq_some_iff.mp h
      exact storeResult_lawful
  | markResultStored job resultVersion =>
      obtain rfl := Option.some.inj h
      exact storeResult_lawful
  | acknowledgeResult job resultVersion => cases h

/-- What an operation may do to a file. -/
inductive FileChange (io : Io) (operation : OutboxOperation) (path : String) :
    Option StoredFile → Option StoredFile → Prop where
  | same (file : Option StoredFile) : FileChange io operation path file file
  | appended {submission : SubmitPostCallJob} (hOperation : operation = .append submission) :
      FileChange io operation path none (some (.record (newRecord submission io.now)))
  | updated {record record' : OutboxRecord} {mutate : OutboxRecord → Except String OutboxRecord}
      (hMutation : mutation io operation = some mutate) (hPath : path = operation.path)
      (hJob : record.job = operation.job) (hNew : mutate record = .ok record') :
      FileChange io operation path (some (.record record))
        (some (.record { record' with updatedAtMs := io.now }))
  | removed {record : OutboxRecord} {job : JobRef} {resultVersion : Nat}
      (hOperation : operation = .acknowledgeResult job resultVersion)
      (hPath : path = recordPath job.jobId) (hJob : record.job = job)
      (hMatch : acknowledgeable record resultVersion = true) :
      FileChange io operation path (some (.record record)) none

/-- An update rewrites the record of its job, or leaves every file as it is. -/
theorem get_afterUpdate (io : Io) (files : Files) (job : JobRef) (path : String)
    (mutate : OutboxRecord → Except String OutboxRecord) :
    (afterUpdate io files job mutate).get path = files.get path ∨
      ∃ record record', path = recordPath job.jobId ∧ files.get path = some (.record record) ∧
        record.job = job ∧ mutate record = .ok record' ∧
        (afterUpdate io files job mutate).get path =
          some (.record { record' with updatedAtMs := io.now }) := by
  rw [afterUpdate]
  split
  · next record' hUpdated =>
      obtain ⟨record, hFind, hNew⟩ := Option.map_eq_some_iff.mp hUpdated
      have hFound := get_of_findJob hFind
      rw [Table.get_insert]
      split
      · next hPath =>
          refine .inr ⟨record, record', hPath.symm, ?_, hFound.2.1, hNew, rfl⟩
          rw [← hPath]
          exact hFound.1
      · exact .inl rfl
  · exact .inl rfl
  · exact .inl rfl

theorem afterUpdate_change {operation : OutboxOperation} {path : String}
    {mutate : OutboxRecord → Except String OutboxRecord}
    (hMutation : mutation io operation = some mutate) :
    FileChange io operation path (files.get path)
      ((afterUpdate io files operation.job mutate).get path) := by
  rcases get_afterUpdate io files operation.job path mutate with
    hSame | ⟨record, record', hPath, hOld, hJob, hNew, hGet⟩
  · rw [hSame]
    exact .same _
  · rw [hOld, hGet]
    exact .updated hMutation hPath hJob hNew

/-- All that an operation can do to one file. The cases are the operations, and each of them is
read off what it leaves. -/
theorem next_change (io : Io) (s : Outbox) (operation : OutboxOperation) (path : String) :
    FileChange io operation path (s.files.get path)
      ((s.next (io, operation)).files.get path) := by
  rw [next_eq]
  cases operation with
  | append submission =>
      simp only [afterOperation, afterAppend]
      split
      · next hNew =>
          rw [Table.get_insert]
          split
          · next hPath =>
              rw [← hPath, Table.not_contains_iff.mp hNew.2.1]
              exact .appended rfl
          · exact .same _
      · exact .same _
  | markAccepted job => exact afterUpdate_change rfl
  | markInputEnded job finalSequences =>
      simp only [afterOperation]
      split
      · have hMutation : mutation io (.markInputEnded job finalSequences) = some _ := rfl
        exact afterUpdate_change hMutation
      · exact .same _
  | markCompleted completed => exact afterUpdate_change rfl
  | persistCompletedRecord record databaseError =>
      rw [afterOperation, afterPersist]
      split
      · next completed receivedAtMs hCompleted _ =>
          split
          · exact .same _
          · have hJob : (OutboxOperation.persistCompletedRecord record databaseError).job =
                completed.job := by
              rw [OutboxOperation.job, hCompleted]
              rfl
            rw [← hJob]
            apply afterUpdate_change
            rw [mutation, hCompleted, hJob]
            rfl
      · exact .same _
  | markResultStored job resultVersion => exact afterUpdate_change rfl
  | acknowledgeResult job resultVersion =>
      simp only [afterOperation, afterAcknowledge]
      split
      · next hAny =>
          obtain ⟨record, hFind, hMatch⟩ := (Option.any_eq_true ..).mp hAny
          have hFound := get_of_findJob hFind
          rw [Table.get_remove]
          split
          · next hPath =>
              rw [← hPath, hFound.1]
              exact .removed rfl rfl hFound.2.1 hMatch
          · exact .same _
      · exact .same _

/-- Stored results are kept by every operation. -/
theorem results_grow {operation : OutboxOperation} {key : String ×ₗ String ×ₗ Nat}
    {row : AiCallResultRecord} (h : s.results.get key = some row) :
    (s.next (io, operation)).results.get key = some row := by
  rw [next_eq]
  cases operation with
  | persistCompletedRecord record databaseError =>
      rw [afterOperation, afterPersist]
      split
      · split
        · exact h
        · next hPersist => exact (persistAiResult_ok hPersist).2 key row h
      · exact h
  | append submission => exact h
  | markAccepted job => exact h
  | markInputEnded job finalSequences => exact h
  | markCompleted completed => exact h
  | markResultStored job resultVersion => exact h
  | acknowledgeResult job resultVersion => exact h

end Steps

section Runs

variable {io : Io} {s t : Outbox} {operation : OutboxOperation} {path : String}
variable {record record' : OutboxRecord}

/-- Every record of the directory is sound. -/
def Outbox.AllSound (s : Outbox) : Prop :=
  ∀ path record, s.files.get path = some (.record record) → record.Sound

theorem newRecord_sound {submission : SubmitPostCallJob} {now : Nat} :
    (newRecord submission now).Sound := by
  simp [OutboxRecord.Sound, OutboxRecord.Settled, newRecord]

theorem next_allSound (io : Io) (operation : OutboxOperation) (h : s.AllSound) :
    (s.next (io, operation)).AllSound := by
  intro path record hGet
  have hChange := next_change io s operation path
  rw [hGet] at hChange
  generalize hOld : s.files.get path = old at hChange
  cases hChange with
  | same => exact h path record hOld
  | appended _ => exact newRecord_sound
  | updated hMutation _ _ hNew => exact (mutation_lawful hMutation _ _ (h path _ hOld) hNew).2

theorem allSound_of_reachable (h : Reachable operations s) : s.AllSound := by
  apply h.invariant
  · rintro s rfl path record hGet
    cases hGet
  · rintro s i t hs ⟨rfl, -⟩
    exact next_allSound _ _ hs

/-- The steps of a run leave the file in place. -/
def keepsFile (path : String) (s : Outbox) (i : Io × OutboxOperation) : Prop :=
  (s.next i).files.contains path = true

/-- A record that stays goes forward. -/
theorem advances_of_run (run : RunsWithin operations (keepsFile path) s t) (h : s.AllSound)
    (hGet : s.files.get path = some (.record record)) :
    ∃ record', t.files.get path = some (.record record') ∧ Advances record record' ∧
      record'.Sound := by
  apply run.invariant (P := fun t => ∃ record', t.files.get path = some (.record record') ∧
    Advances record record' ∧ record'.Sound)
  · exact ⟨record, hGet, .refl record, h path record hGet⟩
  · rintro u ⟨io, operation⟩ t ⟨record', hMid, hAdvances, hSound⟩ hKeeps ⟨rfl, -⟩
    have hChange := next_change io u operation path
    rw [hMid] at hChange
    generalize hNew : (u.next (io, operation)).files.get path = new at hChange
    cases hChange with
    | same => exact ⟨record', rfl, hAdvances, hSound⟩
    | updated hMutation _ _ hMutate =>
        have hLawful := mutation_lawful hMutation _ _ hSound hMutate
        exact ⟨_, rfl, (hAdvances.trans hLawful.1).stamped _, hLawful.2⟩
    | removed _ _ _ _ =>
        rw [keepsFile, Table.contains, hNew] at hKeeps
        cases hKeeps

/-- A change that is not the storing of a result leaves a stored result alone. -/
theorem mutation_stored {mutate : OutboxRecord → Except String OutboxRecord}
    (hMutation : mutation io operation = some mutate) (hNew : mutate record = .ok record')
    (hStored : record'.state = .resultStored) :
    record' = record ∨ (∃ job resultVersion, operation = .markResultStored job resultVersion) ∨
      ∃ result databaseError, operation = .persistCompletedRecord result databaseError := by
  cases operation with
  | append submission => cases hMutation
  | markAccepted job =>
      obtain rfl := Option.some.inj hMutation
      rw [accept] at hNew
      split at hNew <;> obtain rfl := Except.ok.inj hNew
      · cases hStored
      · exact .inl rfl
  | markInputEnded job finalSequences =>
      obtain rfl := Option.some.inj hMutation
      rw [endInput] at hNew
      split at hNew
      · exact .inl (Except.ok.inj hNew).symm
      · split at hNew
        · cases hNew
        · obtain rfl := Except.ok.inj hNew
          cases hStored
  | markCompleted completed =>
      obtain rfl := Option.some.inj hMutation
      rw [complete] at hNew
      split at hNew
      · obtain rfl := Except.ok.inj hNew
        cases hStored
      · split at hNew
        · exact .inl (Except.ok.inj hNew).symm
        · split at hNew
          · split at hNew
            · cases hNew
            · exact .inl (Except.ok.inj hNew).symm
          · obtain rfl := Except.ok.inj hNew
            cases hStored
  | persistCompletedRecord result databaseError => exact .inr (.inr ⟨result, databaseError, rfl⟩)
  | markResultStored job resultVersion => exact .inr (.inl ⟨job, resultVersion, rfl⟩)
  | acknowledgeResult job resultVersion => cases hMutation

theorem storeResult_ok {job : JobRef} {resultVersion : Nat}
    (h : storeResult job resultVersion record = .ok record') :
    record' = { record with state := .resultStored } := by
  rw [storeResult] at h
  split at h
  · cases h
  · split at h
    · cases h
    · exact (Except.ok.inj h).symm

theorem Persisted.grown {results results' : Results} (h : Persisted results record)
    (hGrow : ∀ key row, results.get key = some row → results'.get key = some row)
    (hCompleted : record'.completed = record.completed)
    (hSubmission : record'.submission = record.submission) : Persisted results' record' := by
  obtain ⟨completed, receivedAtMs, hSome, hRow⟩ := h
  have hSame : callResult record' completed receivedAtMs =
      callResult record completed receivedAtMs := by
    rw [callResult, callResult, hSubmission]
  refine ⟨completed, receivedAtMs, hCompleted.trans hSome, ?_⟩
  rw [hSame]
  exact hGrow _ _ hRow

/-- A record whose result is marked as stored has its row. -/
def Outbox.StoredPersisted (s : Outbox) : Prop :=
  ∀ path record, s.files.get path = some (.record record) → record.state = .resultStored →
    Persisted s.results record

/-- A record's result is about the record's job. -/
def Outbox.Owned (s : Outbox) : Prop :=
  ∀ path record, s.files.get path = some (.record record) →
    ∀ completed, record.completed = some completed → completed.job = record.job

/-- Only `mark_completed` changes the result of a record. -/
theorem mutation_completed {mutate : OutboxRecord → Except String OutboxRecord}
    (hMutation : mutation io operation = some mutate) (hNew : mutate record = .ok record') :
    record'.completed = record.completed ∨
      ∃ completed, operation = .markCompleted completed ∧ record'.completed = some completed := by
  cases operation with
  | append submission => cases hMutation
  | markAccepted job =>
      obtain rfl := Option.some.inj hMutation
      rw [accept] at hNew
      split at hNew <;> obtain rfl := Except.ok.inj hNew <;> exact .inl rfl
  | markInputEnded job finalSequences =>
      obtain rfl := Option.some.inj hMutation
      rw [endInput] at hNew
      split at hNew
      · exact .inl (congrArg _ (Except.ok.inj hNew).symm)
      · split at hNew
        · cases hNew
        · obtain rfl := Except.ok.inj hNew
          exact .inl rfl
  | markCompleted completed =>
      obtain rfl := Option.some.inj hMutation
      rw [complete] at hNew
      split at hNew
      · obtain rfl := Except.ok.inj hNew
        exact .inr ⟨completed, rfl, rfl⟩
      · split at hNew
        · exact .inl (congrArg _ (Except.ok.inj hNew).symm)
        · split at hNew
          · split at hNew
            · cases hNew
            · exact .inl (congrArg _ (Except.ok.inj hNew).symm)
          · obtain rfl := Except.ok.inj hNew
            exact .inr ⟨completed, rfl, rfl⟩
  | persistCompletedRecord result databaseError =>
      obtain ⟨completed, _, rfl⟩ := Option.map_eq_some_iff.mp hMutation
      rw [storeResult_ok hNew]
      exact .inl rfl
  | markResultStored job resultVersion =>
      obtain rfl := Option.some.inj hMutation
      rw [storeResult_ok hNew]
      exact .inl rfl
  | acknowledgeResult job resultVersion => cases hMutation

/-- A result that is in a record belongs to the job of the record. A record that completes takes it
over from the message, which names the job. -/
theorem next_owned (hSound : s.AllSound) (h : s.Owned) : (s.next (io, operation)).Owned := by
  intro path record hGet
  have hChange := next_change io s operation path
  rw [hGet] at hChange
  generalize hOld : s.files.get path = old at hChange
  cases hChange with
  | same => exact h path record hOld
  | appended _ => exact fun completed hNone => by cases hNone
  | @updated record record' mutate hMutation hPath hJob hNew =>
      intro completed hSome
      have hSubmission := ((mutation_lawful hMutation) _ _ (hSound path _ hOld) hNew).1.submission
      have hSame : OutboxRecord.job { record' with updatedAtMs := io.now } = record.job :=
        congrArg SubmitPostCallJob.job hSubmission
      rw [hSame]
      rcases mutation_completed hMutation hNew with hKept | ⟨taken, rfl, hTaken⟩
      · exact h path record hOld completed (hKept.symm.trans hSome)
      · obtain rfl := Option.some.inj (hTaken.symm.trans hSome)
        exact hJob.symm

/-- The result that `persist_completed_record` marks as stored has just been persisted. -/
theorem persist_storedPersisted {result : OutboxRecord} {databaseError : Option String}
    (h : s.StoredPersisted) (hOwned : s.Owned)
    (hThere : s.files.get (recordPath result.job.jobId) = some (.record result)) :
    (afterPersist io s result databaseError).StoredPersisted := by
  rw [afterPersist]
  split
  · next completed receivedAtMs hCompleted _ =>
      split
      · exact h
      · next results hPersist =>
          have hRow := persistAiResult_ok hPersist
          intro path record hGet hStored
          rcases get_afterUpdate io s.files completed.job path
            (storeResult completed.job completed.resultVersion) with
            hSame | ⟨old, new, hPath, hOld, hJob, hNew, hUpdated⟩
          · exact (h path record (hSame ▸ hGet) hStored).grown hRow.2 rfl rfl
          · have hOwner := hOwned _ _ hThere completed hCompleted
            rw [hPath, hOwner, hThere] at hOld
            obtain rfl : result = old := by cases hOld; rfl
            obtain rfl : record = { new with updatedAtMs := io.now } := by
              rw [hUpdated] at hGet
              cases hGet
              rfl
            rw [storeResult_ok hNew]
            exact ⟨completed, receivedAtMs, hCompleted, hRow.1⟩
  · exact h

/-- A record whose result is said to be stored has its row. The row is stored before the record is
marked, or is there already; every other operation keeps both. -/
theorem next_storedPersisted {i : Io × OutboxOperation} (h : s.StoredPersisted)
    (hSound : s.AllSound) (hOwned : s.Owned) (hC : storesPersisted s i)
    (hNext : operations.next s i t) : t.StoredPersisted := by
  obtain ⟨io, operation⟩ := i
  obtain ⟨rfl, hThere⟩ := hNext
  by_cases hPersist : ∃ result databaseError,
      operation = .persistCompletedRecord result databaseError
  · obtain ⟨result, databaseError, rfl⟩ := hPersist
    rw [next_eq]
    exact persist_storedPersisted h hOwned (hThere result databaseError rfl)
  · intro path record hGet hStored
    have hChange := next_change io s operation path
    rw [hGet] at hChange
    generalize hOld : s.files.get path = old at hChange
    cases hChange with
    | same => exact (h path record hOld hStored).grown (fun _ _ => results_grow) rfl rfl
    | appended _ => cases hStored
    | @updated record record' mutate hMutation hPath hJob hNew =>
        have hLawful := mutation_lawful hMutation _ _ (hSound path _ hOld) hNew
        rcases mutation_stored hMutation hNew hStored with rfl | ⟨job, resultVersion, rfl⟩ | hOther
        · exact (h path _ hOld hStored).grown (fun _ _ => results_grow) rfl rfl
        · obtain rfl := Option.some.inj hMutation
          rw [hPath] at hOld
          apply (hC job resultVersion rfl record record' hOld hNew).grown
            (fun _ _ => results_grow)
          · rw [storeResult_ok hNew]
          · exact hLawful.1.submission
        · exact absurd hOther hPersist

/-- The three invariants are carried together: a row can only be found by the job and the version
that the record has. -/
theorem storedPersisted_of_reachable (h : ReachableWithin operations storesPersisted s) :
    s.StoredPersisted := by
  have hAll : s.StoredPersisted ∧ s.AllSound ∧ s.Owned := by
    apply h.invariant
    · rintro s rfl
      refine ⟨?_, ?_, ?_⟩ <;> intro path record hGet <;> cases hGet
    · rintro s i t ⟨hStored, hSound, hOwned⟩ hC hNext
      refine ⟨next_storedPersisted hStored hSound hOwned hC hNext, ?_, ?_⟩
      · obtain ⟨rfl, -⟩ := hNext
        exact next_allSound _ _ hSound
      · obtain ⟨rfl, -⟩ := hNext
        exact next_owned hSound hOwned
  exact hAll.1

/-- The same file, but for the time of the last change. -/
def SameButStamp (old new : Option StoredFile) : Prop :=
  old = new ∨ ∃ record now, old = some (.record record) ∧
    new = some (.record { record with updatedAtMs := now })

/-- An append that returns a record has checked the submission, and the record is in its file. -/
theorem append_returned {files : Files} {submission : SubmitPostCallJob}
    (h : ∃ record, (append submission io files).1 = .ok record) :
    submission.validate = .ok () ∧ ∃ record,
      (afterAppend io files submission).get (recordPath submission.job.jobId) =
        some (.record record) ∧ record.submission = submission := by
  obtain ⟨returned, hReturned⟩ := h
  rw [← final_append]
  apply Post.returned (Q := fun _ t => submission.validate = .ok () ∧ ∃ record,
    t.get (recordPath submission.job.jobId) = some (.record record) ∧
      record.submission = submission) (E := fun _ => True) _ hReturned
  rw [append, post_bind, post_read]
  split
  · trivial
  · next hValid =>
      rw [post_bind, post_get, post_ite]
      split
      · rw [post_bind, load, post_bind, post_read, post_bind, post_get]
        split
        · trivial
        · next existing hRead =>
            rw [post_pure, post_ite]
            split
            · trivial
            · next hSame =>
                exact ⟨hValid, existing, (get_of_readPath hRead).1, not_not.mp hSame⟩
      · rw [post_bind, write]
        apply post_replace
        · exact fun _ => trivial
        · exact fun _ _ => trivial
        · exact fun _ => ⟨hValid, _, Table.get_insert_self, rfl⟩

/-- An update that returns a record has found one in the file of the job, and has rewritten it. -/
theorem update_returned {files : Files} {job : JobRef}
    {mutate : OutboxRecord → Except String OutboxRecord}
    (hMutate : ∀ record record', mutate record = .ok record' →
      record'.submission = record.submission)
    (h : ∃ record, (update job mutate io files).1 = .ok record) :
    ∃ record record', files.get (recordPath job.jobId) = some (.record record) ∧
      mutate record = .ok record' ∧
      (afterUpdate io files job mutate).get (recordPath job.jobId) =
        some (.record { record' with updatedAtMs := io.now }) := by
  obtain ⟨returned, hReturned⟩ := h
  rw [← final_update hMutate]
  apply Post.returned (Q := fun _ t => ∃ record record',
    files.get (recordPath job.jobId) = some (.record record) ∧ mutate record = .ok record' ∧
      t.get (recordPath job.jobId) = some (.record { record' with updatedAtMs := io.now }))
    (E := fun _ => True) _ hReturned
  apply post_update hMutate
  · exact fun _ => trivial
  · exact fun _ _ _ _ _ _ => trivial
  · intro record record' hFind hNew _
    exact ⟨record, record', (get_of_findJob hFind).1, hNew, Table.get_insert_self⟩

theorem returned_of_run {α : Type} {m : Operation α}
    (h : ((do let _ ← onFiles m) io s : Except String Unit × Outbox).1 = .ok ()) :
    ∃ a, (m io s.files).1 = .ok a := by
  apply Post.returned (Q := fun _ _ => ∃ a, (m io s.files).1 = .ok a) (E := fun _ => True) _ h
  rw [post_bind, onFiles, post_bind, post_read, post_focus]
  simp only [Post]
  rcases m io s.files with ⟨result, files⟩
  cases result with
  | ok a => exact ⟨a, rfl⟩
  | error error => trivial

/-- The operations that a command or an event of the gateway may repeat. -/
def OutboxOperation.repeatable : OutboxOperation → Bool
  | .append _ | .markCompleted _ => true
  | _ => false

/-- Once an operation succeeded, repeating it while the record stays stamps the record at
most. -/
theorem repeated_operation {u : Outbox} {io' : Io} (hRepeatable : operation.repeatable = true)
    (h : s.AllSound) (hReturned : (operation.run io s).1 = .ok ())
    (run : RunsWithin operations (keepsFile operation.path) (s.next (io, operation)) u) :
    (u.next (io', operation)).results = u.results ∧ ∀ path,
      SameButStamp (u.files.get path) ((u.next (io', operation)).files.get path) := by
  have hSound := next_allSound io operation h
  rw [next_eq]
  cases operation with
  | append submission =>
      refine ⟨rfl, fun path => .inl ?_⟩
      obtain ⟨-, record, hGet, -⟩ := append_returned (returned_of_run hReturned)
      have hStored : (s.next (io, .append submission)).files.get
          (OutboxOperation.append submission).path = some (.record record) := by
        rw [next_eq]
        exact hGet
      obtain ⟨record', hThere, -, -⟩ := advances_of_run run hSound hStored
      rw [afterOperation, afterAppend, if_neg]
      rintro ⟨-, hAbsent, -⟩
      rw [Table.not_contains_iff] at hAbsent
      rw [OutboxOperation.path, OutboxOperation.job, hAbsent] at hThere
      cases hThere
  | markCompleted completed =>
      refine ⟨rfl, fun path => ?_⟩
      obtain ⟨old, new, -, hNew, hGet⟩ :=
        update_returned (fun _ _ => complete_submission) (returned_of_run hReturned)
      have hStored : (s.next (io, .markCompleted completed)).files.get
          (OutboxOperation.markCompleted completed).path =
            some (.record { new with updatedAtMs := io.now }) := by
        rw [next_eq]
        exact hGet
      obtain ⟨record, hThere, hAdvances, -⟩ := advances_of_run run hSound hStored
      rcases get_afterUpdate io' u.files completed.job path
        (complete completed io'.receivedAtMs) with
        hSame | ⟨record', new', hPath, hOld, -, hMutate, hUpdated⟩
      · exact .inl hSame.symm
      · rw [hPath] at hOld
        obtain rfl : record' = record := by
          have hBoth := hOld.symm.trans hThere
          cases hBoth
          rfl
        have hLater : Advances new record' := ⟨hAdvances.submission, hAdvances.completed,
          hAdvances.settled⟩
        obtain rfl : new' = record' := by
          rw [complete_again hNew hLater] at hMutate
          exact (Except.ok.inj hMutate).symm
        refine .inr ⟨new', io'.now, ?_, hUpdated⟩
        rw [hPath]
        exact hOld
  | markAccepted job => cases hRepeatable
  | markInputEnded job finalSequences => cases hRepeatable
  | persistCompletedRecord record databaseError => cases hRepeatable
  | markResultStored job resultVersion => cases hRepeatable
  | acknowledgeResult job resultVersion => cases hRepeatable

/-- The same operating system, but every write ends well. -/
def Io.steady (io : Io) : Io := { io with writeFault := fun _ => none }

theorem findJob_of_not_writable {files : Files} {job : JobRef}
    (h : writable io (recordPath job.jobId) = false) : findJob io files job = none := by
  rw [findJob]
  split
  · rfl
  · rw [h]
    simp

theorem findJob_steady {files : Files} {job : JobRef}
    (h : writable io (recordPath job.jobId) = true) :
    findJob io.steady files job = findJob io files job := by
  have hSteady : writable io.steady (recordPath job.jobId) = true := rfl
  have hRead : readPath io.steady files (recordPath job.jobId) =
      readPath io files (recordPath job.jobId) := rfl
  rw [findJob, findJob, hRead, hSteady, h]

theorem afterUpdate_of_not_writable {files : Files} {job : JobRef}
    {mutate : OutboxRecord → Except String OutboxRecord}
    (h : writable io (recordPath job.jobId) = false) :
    afterUpdate io files job mutate = files := by
  rw [afterUpdate, findJob_of_not_writable h]
  rfl

theorem afterUpdate_steady {files : Files} {job : JobRef}
    {mutate : OutboxRecord → Except String OutboxRecord}
    (h : writable io (recordPath job.jobId) = true) :
    afterUpdate io.steady files job mutate = afterUpdate io files job mutate := by
  rw [afterUpdate, afterUpdate, findJob_steady h]
  rfl

/-- A refused write or removal leaves the directory as it was. -/
theorem files_of_refused (h : writable io operation.path = false) :
    (s.next (io, operation)).files = s.files := by
  rw [next_eq]
  cases operation with
  | append submission =>
      apply if_neg
      rintro ⟨-, -, hWritable⟩
      exact Bool.false_ne_true (h.symm.trans hWritable)
  | markAccepted job => exact afterUpdate_of_not_writable h
  | markInputEnded job finalSequences =>
      simp only [afterOperation, ite_eq_right_iff]
      exact fun _ => afterUpdate_of_not_writable h
  | markCompleted completed => exact afterUpdate_of_not_writable h
  | persistCompletedRecord record databaseError =>
      rw [afterOperation, afterPersist]
      split
      · next completed receivedAtMs hCompleted _ =>
          rw [OutboxOperation.path, OutboxOperation.job, hCompleted] at h
          split
          · rfl
          · exact afterUpdate_of_not_writable h
      · rfl
  | markResultStored job resultVersion => exact afterUpdate_of_not_writable h
  | acknowledgeResult job resultVersion =>
      have hNone : findJob io s.files job = none := findJob_of_not_writable h
      simp only [afterOperation, afterAcknowledge, hNone]
      rfl

/-- A write whose rename is done leaves what a write leaves that ends well. -/
theorem files_of_renamed (h : writable io operation.path = true) :
    (s.next (io, operation)).files = (s.next (io.steady, operation)).files := by
  rw [next_eq, next_eq]
  cases operation with
  | append submission =>
      have hSteady : writable io.steady (recordPath submission.job.jobId) = true := rfl
      simp only [afterOperation, afterAppend, hSteady,
        show writable io (recordPath submission.job.jobId) = true from h]
      rfl
  | markAccepted job => exact (afterUpdate_steady h).symm
  | markInputEnded job finalSequences =>
      simp only [afterOperation]
      split
      · exact (afterUpdate_steady h).symm
      · rfl
  | markCompleted completed => exact (afterUpdate_steady h).symm
  | persistCompletedRecord record databaseError =>
      rw [afterOperation, afterOperation, afterPersist, afterPersist]
      split
      · next completed receivedAtMs hCompleted _ =>
          rw [OutboxOperation.path, OutboxOperation.job, hCompleted] at h
          split
          · rfl
          · exact (afterUpdate_steady h).symm
      · rfl
  | markResultStored job resultVersion => exact (afterUpdate_steady h).symm
  | acknowledgeResult job resultVersion =>
      have hSteady : findJob io.steady s.files job = findJob io s.files job := findJob_steady h
      simp only [afterOperation, afterAcknowledge, hSteady]

/-- Where the write would end well, an update stops before it. -/
theorem update_stopped {files : Files} {job : JobRef}
    {mutate : OutboxRecord → Except String OutboxRecord}
    (hMutate : ∀ record record', mutate record = .ok record' →
      record'.submission = record.submission)
    (h : io.writeFault (recordPath job.jobId) = none) :
    Post (update job mutate) io files (fun _ _ => True) fun t => t = files := by
  apply post_update hMutate
  · exact fun _ => rfl
  · intro record record' error _ _ hFault
    rw [h] at hFault
    cases hFault
  · exact fun _ _ _ _ _ => trivial

theorem replace_stopped {change : Files → Files} {files : Files}
    (h : io.writeFault path = none) :
    Post (replace path change) io files (fun _ _ => True) fun t => t = files := by
  apply post_replace
  · exact fun _ => rfl
  · intro error hFault
    rw [h] at hFault
    cases hFault
  · exact fun _ => trivial

/-- An append that fails before it writes leaves the files as they are. -/
theorem append_stopped {files : Files} {submission : SubmitPostCallJob}
    (h : io.writeFault (recordPath submission.job.jobId) = none) :
    Post (append submission) io files (fun _ _ => True) fun t => t = files := by
  rw [append, post_bind, post_read]
  split
  · exact rfl
  · rw [post_bind, post_get, post_ite]
    split
    · rw [post_bind]
      apply (load_keeps (K := fun t => t = files) files rfl).mono
      · rintro existing t rfl
        rw [post_ite]
        split
        · exact rfl
        · trivial
      · exact fun _ ht => ht
    · rw [post_bind, write]
      apply (replace_stopped h).mono
      · exact fun _ _ _ => trivial
      · exact fun _ ht => ht

/-- An acknowledgement that fails leaves the files as they are, its removal being the last step. -/
theorem acknowledgeResult_stopped {files : Files} {job : JobRef} {resultVersion : Nat}
    (h : io.writeFault (recordPath job.jobId) = none) :
    Post (acknowledgeResult job resultVersion) io files (fun _ _ => True)
      fun t => t = files := by
  rw [acknowledgeResult, post_bind, post_get, post_ite]
  split
  · rw [post_bind]
    apply (load_keeps (K := fun t => t = files) files rfl).mono
    · rintro record t rfl
      split
      · exact rfl
      · split
        · exact rfl
        · rw [post_ite]
          split
          · exact rfl
          · rw [post_bind]
            apply (replace_stopped h).mono
            · exact fun _ _ _ => trivial
            · exact fun _ ht => ht
    · exact fun _ ht => ht
  · trivial

theorem onFiles_stopped {α : Type} {m : Operation α}
    (h : Post m io s.files (fun _ _ => True) fun t => t = s.files) :
    Post (onFiles m >>= fun _ => pure ()) io s (fun (_ : Unit) _ => True)
      fun t => t.files = s.files := by
  rw [post_bind, onFiles, post_bind, post_read, post_focus]
  apply h.mono
  · exact fun _ _ _ => trivial
  · exact fun _ ht => ht

/-- Without a fault of the write an operation that fails has changed no file. -/
theorem run_stopped (h : io.writeFault operation.path = none) :
    Post operation.run io s (fun _ _ => True) fun t => t.files = s.files := by
  cases operation with
  | append submission => exact onFiles_stopped (append_stopped h)
  | markAccepted job => exact onFiles_stopped (update_stopped (fun _ _ => accept_submission) h)
  | markInputEnded job finalSequences =>
      apply onFiles_stopped
      rw [markInputEnded, post_ite]
      split
      · exact rfl
      · exact update_stopped (fun _ _ => endInput_submission) h
  | markCompleted completed =>
      apply onFiles_stopped
      exact update_stopped (fun _ _ => complete_submission) h
  | persistCompletedRecord record databaseError =>
      rw [OutboxOperation.run, post_bind, persistCompletedRecord]
      split
      · exact rfl
      · exact rfl
      · next completed receivedAtMs hCompleted _ =>
          rw [OutboxOperation.path, OutboxOperation.job, hCompleted] at h
          rw [post_bind, post_get]
          split
          · exact rfl
          · rw [post_bind, post_modify, onFiles, post_bind, post_read, post_focus]
            apply (update_stopped (fun _ _ => storeResult_submission) h).mono
            · exact fun _ _ _ => trivial
            · exact fun _ ht => ht
  | markResultStored job resultVersion =>
      exact onFiles_stopped (update_stopped (fun _ _ => storeResult_submission) h)
  | acknowledgeResult job resultVersion =>
      exact onFiles_stopped (acknowledgeResult_stopped h)

/-- A failed operation leaves the directory as it was, unless all that failed is the
synchronisation after its rename or removal. -/
theorem failed_operation {error : String} (h : (operation.run io s).1 = .error error) :
    (s.next (io, operation)).files = s.files ∨
      (∃ fault, io.writeFault operation.path = some (.unsynced fault)) ∧
        (s.next (io, operation)).files = (s.next (io.steady, operation)).files := by
  cases hFault : io.writeFault operation.path with
  | none => exact .inl ((run_stopped hFault).stopped h)
  | some fault =>
      cases fault with
      | refused fault =>
          apply Or.inl
          apply files_of_refused
          rw [writable, hFault]
      | unsynced fault => exact .inr ⟨⟨fault, rfl⟩, files_of_renamed (writable_of_unsynced hFault)⟩

/-- Only the acknowledgement of a stored result removes a record. -/
theorem removed_by_acknowledgement (hBefore : s.files.contains path = true)
    (hAfter : (s.next (io, operation)).files.contains path = false) :
    ∃ job resultVersion record completed,
      operation = .acknowledgeResult job resultVersion ∧ path = recordPath job.jobId ∧
        s.files.get path = some (.record record) ∧ record.job = job ∧
        record.state = .resultStored ∧ record.completed = some completed ∧
        completed.resultVersion = resultVersion := by
  have hChange := next_change io s operation path
  rw [Table.not_contains_iff.mp hAfter] at hChange
  rw [Table.contains] at hBefore
  generalize hOld : s.files.get path = old at hChange hBefore
  cases hChange with
  | same => cases hBefore
  | @removed record job resultVersion hOperation hPath hJob hMatch =>
      rw [acknowledgeable, Bool.and_eq_true, decide_eq_true_eq] at hMatch
      obtain ⟨completed, hCompleted, hVersion⟩ := (Option.any_eq_true ..).mp hMatch.2
      exact ⟨job, resultVersion, record, completed, hOperation, hPath, rfl, hJob, hMatch.1,
        hCompleted, of_decide_eq_true hVersion⟩

/-- What the operations on an outbox keep: a stored result has its row; the result of a record
that stays never gets older and its state never goes back; a record goes only when its stored
result is acknowledged; a repetition stamps the record at most; and a failed operation leaves
the directory alone but for a change that is not synchronised. -/
theorem results_kept :
    (∀ s, ReachableWithin operations storesPersisted s → s.StoredPersisted) ∧
    (∀ s t path record completed, Reachable operations s →
      RunsWithin operations (keepsFile path) s t →
      s.files.get path = some (.record record) → record.completed = some completed →
      ∃ record' completed', t.files.get path = some (.record record') ∧
        record'.completed = some completed' ∧
        completed.resultVersion ≤ completed'.resultVersion ∧ record'.Settled) ∧
    (∀ (s : Outbox) io operation path, s.files.contains path = true →
      (s.next (io, operation)).files.contains path = false →
      ∃ job resultVersion record completed,
        operation = .acknowledgeResult job resultVersion ∧ path = recordPath job.jobId ∧
          s.files.get path = some (.record record) ∧ record.job = job ∧
          record.state = .resultStored ∧ record.completed = some completed ∧
          completed.resultVersion = resultVersion) ∧
    (∀ (s u : Outbox) io io' operation, Reachable operations s → operation.repeatable = true →
      (operation.run io s).1 = .ok () →
      RunsWithin operations (keepsFile operation.path) (s.next (io, operation)) u →
      (u.next (io', operation)).results = u.results ∧ ∀ path,
        SameButStamp (u.files.get path) ((u.next (io', operation)).files.get path)) ∧
    ∀ (s : Outbox) io (operation : OutboxOperation) error, (operation.run io s).1 = .error error →
      (s.next (io, operation)).files = s.files ∨
        (∃ fault, io.writeFault operation.path = some (.unsynced fault)) ∧
          (s.next (io, operation)).files = (s.next (io.steady, operation)).files := by
  refine ⟨fun s => storedPersisted_of_reachable, ?_, fun s io operation path =>
    removed_by_acknowledgement, ?_, fun s io operation error => failed_operation⟩
  · intro s t path record completed hReachable run hGet hCompleted
    have hSound := allSound_of_reachable hReachable
    obtain ⟨record', hThere, hAdvances, -⟩ := advances_of_run run hSound hGet
    obtain ⟨completed', hLater, hVersion⟩ := hAdvances.completed completed hCompleted
    refine ⟨record', completed', hThere, hLater, ?_, hAdvances.settled ?_⟩
    · rcases hVersion with rfl | hLess
      · exact Nat.le_refl _
      · exact Nat.le_of_lt hLess
    · apply (hSound path record hGet).mp
      rw [hCompleted]
      rfl
  · intro s u io io' operation hReachable hRepeatable hReturned run
    exact repeated_operation hRepeatable (allSound_of_reachable hReachable) hReturned run

/-- The first result of a job. -/
def resultOf (jobId tenantId : String) : JobCompleted where
  job := AiJobService.jobOf jobId tenantId
  resultVersion := 1
  captureQuality := .complete
  transcript := []
  result := {
    schemaVersion := 1
    summary := "s"
    purpose := "p"
    outcome := "o"
    keyPoints := []
    actionItems := []
    tags := []
    action := none }

def noRecords : Outbox where
  files := .empty
  results := .empty

/-- Nothing fails but the synchronisation of the directory. -/
def unsynced : Io := { AiJobService.calmIo with writeFault := fun _ => some (.unsynced "sync") }

def appended : Outbox :=
  noRecords.next (AiJobService.calmIo, .append (AiJobService.submissionOf "j" "d"))

def finished : Outbox :=
  appended.next (AiJobService.calmIo, .markCompleted (resultOf "j" "d"))

/-- A write that is not synchronised has happened although it fails, a result that is marked
as stored need not be, and a submission that is repeated after its acknowledgement is new. -/
theorem results_not_kept :
    (∃ (s : Outbox) (io : Io) (operation : OutboxOperation),
      (operation.run io s).1 ≠ .ok () ∧ (s.next (io, operation)).files ≠ s.files) ∧
    (∃ s, Reachable operations s ∧ ¬ s.StoredPersisted) ∧
    ∃ (s u : Outbox) (io : Io) (operation : OutboxOperation), Reachable operations s ∧
      operation.repeatable = true ∧ (operation.run io s).1 = .ok () ∧
      Runs operations (s.next (io, operation)) u ∧
      ¬ SameButStamp (u.files.get operation.path)
        ((u.next (io, operation)).files.get operation.path) := by
  have hAppended : Runs operations noRecords appended :=
    .step .refl trivial ⟨rfl, fun _ _ h => by cases h⟩
  have hFinished : Runs operations noRecords finished :=
    hAppended.trans (.step .refl trivial ⟨rfl, fun _ _ h => by cases h⟩)
  let marked := finished.next
    (AiJobService.calmIo, .markResultStored (AiJobService.jobOf "j" "d") 1)
  have hMarked : Runs operations finished marked :=
    .step .refl trivial ⟨rfl, fun _ _ h => by cases h⟩
  refine ⟨⟨noRecords, unsynced, .append (AiJobService.submissionOf "j" "d"), by decide,
    by decide⟩, ⟨marked, ⟨noRecords, rfl, hFinished.trans hMarked⟩, ?_⟩, ?_⟩
  · intro hPersisted
    let record : OutboxRecord := { withResult (resultOf "j" "d") 0
      (newRecord (AiJobService.submissionOf "j" "d") 0) with state := .resultStored }
    obtain ⟨completed, receivedAtMs, _, hRow⟩ :=
      hPersisted "j.json" record (by decide) rfl
    have hEmpty : marked.results = .empty := by decide
    rw [hEmpty] at hRow
    cases hRow
  · let acknowledged := marked.next
      (AiJobService.calmIo, .acknowledgeResult (AiJobService.jobOf "j" "d") 1)
    have hAcknowledged : Runs operations appended acknowledged :=
      .step (.step (.step .refl trivial ⟨rfl, fun _ _ h => by cases h⟩) trivial
        ⟨rfl, fun _ _ h => by cases h⟩) trivial ⟨rfl, fun _ _ h => by cases h⟩
    refine ⟨noRecords, acknowledged, AiJobService.calmIo,
      .append (AiJobService.submissionOf "j" "d"), ⟨noRecords, rfl, .refl⟩, rfl,
      by decide, hAcknowledged, ?_⟩
    have hGone : acknowledged.files.get "j.json" = none := by decide
    have hNew : (acknowledged.next (AiJobService.calmIo, .append
        (AiJobService.submissionOf "j" "d"))).files.get "j.json" ≠ none := by decide
    rintro (hSame | ⟨record, now, hOld, -⟩)
    · exact hNew (hSame.symm.trans hGone)
    · exact absurd (hGone.symm.trans hOld) nofun

theorem results_kept_persisted :
    (finished.next (AiJobService.calmIo, .persistCompletedRecord (withResult (resultOf "j" "d") 0
      (newRecord (AiJobService.submissionOf "j" "d") 0)) none)).StoredPersisted := by
  apply results_kept.1
  refine ⟨noRecords, rfl, .step (.step (.step .refl ?_ ⟨rfl, ?_⟩) ?_ ⟨rfl, ?_⟩) ?_ ⟨rfl, ?_⟩⟩
  · exact fun _ _ h => by cases h
  · exact fun _ _ h => by cases h
  · exact fun _ _ h => by cases h
  · exact fun _ _ h => by cases h
  · exact fun _ _ h => by cases h
  · intro record databaseError h
    cases h
    decide

end Runs

end VoipSwitch.AiOutbox
