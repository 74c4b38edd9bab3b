import VoipSwitch.Cdr.RoundTrip
import VoipSwitch.Store.Repetition
import VoipSwitch.Lib.Transition

/-! The retention of recordings, next to the batches that are persisted meanwhile. The job removes
a file and marks its row in two steps, and it works on rows that it has read before. -/
namespace VoipSwitch

open Keyed

inductive FileError where
  | notFound
  | other
deriving DecidableEq

/-- The files that the job meets, by their canonical paths. -/
structure FileSystem where
  canonicalize : String → Except FileError String
  isFile : String → Bool

def FileSystem.removeFile (path : String) (files : FileSystem) : FileSystem where
  canonicalize other :=
    match files.canonicalize other with
    | .ok found => if found = path then .error .notFound else .ok found
    | .error error => .error error
  isFile other := other ≠ path && files.isFile other

/-- `Path::starts_with`, which compares components. -/
def pathStartsWith (path root : String) : Bool :=
  let components (text : String) := (text.toList.splitOn '/').filter fun part => !part.isEmpty
  (components root).isPrefixOf (components path)

/-- `u64::try_from` of a column. -/
def columnU64 (value : Int) : Option Nat :=
  if 0 ≤ value then some value.toNat else none

structure CleanupLimits where
  nowMs : UInt64
  cutoff : Nat
  maxBytes : Nat
deriving DecidableEq

def CleanupLimits.of (retentionDays maxSizeGb nowMs : UInt64) : CleanupLimits where
  nowMs
  cutoff := nowMs.toNat - satMul64 retentionDays.toNat (24 * 60 * 60 * 1000)
  maxBytes := satMul64 maxSizeGb.toNat (1024 * 1024 * 1024)

/-- The rows that can expire, the oldest first. -/
def CdrTables.expirable (t : CdrTables) : List CallRecordingRow :=
  let age (row : CallRecordingRow) := row.endedAtMs.getD row.startedAtMs
  ((t.callRecording.entries.map Prod.snd).filter fun row =>
    row.status = "complete" || row.status = "incomplete" || row.status = "failed").insertionSort
      fun a b => age a < age b ∨ age a = age b ∧ a.callId ≤ b.callId

/-- The sizes of rows; a release build wraps their sum. -/
def recordedBytes (rows : List CallRecordingRow) : Nat :=
  (rows.filterMap fun row => columnU64 row.fileSizeBytes).sum % (u64Max + 1)

namespace CallRecordingRow

def endedAt (limits : CleanupLimits) (row : CallRecordingRow) : Nat :=
  (row.endedAtMs.bind columnU64).getD limits.nowMs.toNat

def fileSize (row : CallRecordingRow) : Nat := (columnU64 row.fileSizeBytes).getD 0

/-- Neither its age nor the size of all recordings asks for the row. -/
def isKept (limits : CleanupLimits) (totalBytes : Nat) (row : CallRecordingRow) : Bool :=
  limits.cutoff ≤ row.endedAt limits && totalBytes ≤ limits.maxBytes

end CallRecordingRow

/-- What is to be done about a row's file: the path to remove, none, or nothing at all because the
file is not one of the root. -/
inductive FileVerdict where
  | remove (path : String)
  | gone
  | foreign
deriving DecidableEq

def FileSystem.verdict (files : FileSystem) (row : CallRecordingRow) : FileVerdict :=
  if row.storagePath.isEmpty then .gone
  else
    match files.canonicalize row.storageRoot, files.canonicalize row.storagePath with
    | .ok root, .ok path =>
        if pathStartsWith path root && files.isFile path then .remove path else .foreign
    | _, .error .notFound => .gone
    | _, _ => .foreign

/-- The next thing that a job does. -/
inductive CleanupPlace where
  | nextDomain
  | nextRow (domainId : DomainId) (rows : List CallRecordingRow)
  | marking (domainId : DomainId) (row : CallRecordingRow) (removed : Option (String × FileSystem))
      (rows : List CallRecordingRow)

structure CleanupJob where
  limits : CleanupLimits
  domains : List DomainId
  totalBytes : Nat
  totalExpired : Nat
  place : CleanupPlace

/-- `UPDATE call_recording SET status='expired', …`. -/
def CdrTables.expire (callId : String) (nowMs : Int) (t : CdrTables) : CdrTables :=
  match t.callRecording.get callId with
  | none => t
  | some row =>
      let row := { row with
        status := "expired", storagePath := "", fileSizeBytes := 0, updatedAt := nowMs }
      { t with callRecording := t.callRecording.insert callId row }

/-- A row that was set to expired after its file was removed, and what paths meant before that. -/
structure Expired where
  domainId : DomainId
  callId : String
  file : String
  before : FileSystem

def Expired.pointedAtBy (expired : Expired) (path : String) : Bool :=
  match expired.before.canonicalize path with
  | .ok found => found = expired.file
  | .error _ => false

/-- The databases, the files, the job that is running if any, and the rows it has expired. -/
structure Retention where
  databases : DomainDatabases
  files : FileSystem
  job : Option CleanupJob
  expired : List Expired

inductive RetentionAction where
  | persist (command : CdrWriteCommand)
  | start (retentionDays maxSizeGb nowMs : UInt64) (domainIds : List DomainId)
  /-- The job goes on, or fails at an error of the disk or of a database. -/
  | advance (fails : Bool)
  /-- Others write and remove files. -/
  | disk (files : FileSystem)

namespace Retention

variable {s t : Retention}

def openDomain (domainId : DomainId) (s : Retention) : Retention :=
  { s with databases :=
      Function.update s.databases domainId (s.databases domainId).openDomainCdrDb }

/-- The row is marked in the database of its domain, if it is there. -/
def mark (domainId : DomainId) (row : CallRecordingRow) (removed : Option (String × FileSystem))
    (nowMs : Int) (s : Retention) : Retention :=
  let db := s.databases domainId
  let expired :=
    match removed, db.records.callRecording.get row.callId with
    | some (file, before), some _ =>
        { domainId, callId := row.callId, file, before } :: s.expired
    | _, _ => s.expired
  { s with
    databases := Function.update s.databases domainId
      { db with records := db.records.expire row.callId nowMs }
    expired }

/-- What the job does next. -/
def advance (job : CleanupJob) (fails : Bool) (s : Retention) : Retention :=
  match job.place with
  | .nextDomain =>
      match job.domains with
      | [] => { s with job := none }
      | domainId :: domains =>
          if fails then { s with job := none }
          else
            let rows := (s.databases domainId).openDomainCdrDb.records.expirable
            { s.openDomain domainId with
              job := some { job with
                domains
                totalBytes := satAdd64 job.totalBytes (recordedBytes rows)
                place := .nextRow domainId rows } }
  | .nextRow _ [] => { s with job := some { job with place := .nextDomain } }
  | .nextRow domainId (row :: rows) =>
      if row.isKept job.limits job.totalBytes then
        { s with job := some { job with place := .nextRow domainId rows } }
      else
        match s.files.verdict row with
        | .remove path =>
            if fails then { s with job := none }
            else
              { s with
                files := s.files.removeFile path
                job := some { job with
                  place := .marking domainId row (some (path, s.files)) rows } }
        | .gone => { s with job := some { job with place := .marking domainId row none rows } }
        | .foreign => { s with job := some { job with place := .nextRow domainId rows } }
  | .marking domainId row removed rows =>
      match asI64 job.limits.nowMs with
      | .error _ => { s with job := none }
      | .ok nowMs =>
          if fails then { s with job := none }
          else
            { s.mark domainId row removed nowMs with
              job := some { job with
                totalBytes := job.totalBytes - row.fileSize
                totalExpired := satAdd64 job.totalExpired 1
                place := .nextRow domainId rows } }

def step (s : Retention) : RetentionAction → Option Retention
  | .persist command => some { s with databases := s.databases.persist command }
  | .start retentionDays maxSizeGb nowMs domainIds =>
      match s.job with
      | some _ => none
      | none =>
          some { s with job := some {
            limits := .of retentionDays maxSizeGb nowMs
            domains := domainIds
            totalBytes := 0
            totalExpired := 0
            place := .nextDomain } }
  | .advance fails => s.job.map fun job => s.advance job fails
  | .disk files => some { s with files }

def system : Transition.System Retention RetentionAction where
  init s := s.job = none ∧ s.expired = []
  next s action t := s.step action = some t

/-- No row that has expired is a recording with the file that was removed. -/
def StaysExpired (s : Retention) : Prop :=
  ∀ expired ∈ s.expired, ∀ row,
    (s.databases expired.domainId).records.callRecording.get expired.callId = some row →
      row.status = "complete" ∨ row.status = "incomplete" →
        expired.pointedAtBy row.storagePath = false

/-- A batch that writes again the recording of a row that has expired, with the file that was
removed. -/
def restores (s : Retention) (command : CdrWriteCommand) : Bool :=
  !command.mixesDomains && command.batchRows.toBool &&
    command.recording.any fun recording =>
      (recording.status = "complete" || recording.status = "incomplete") &&
        s.expired.any fun expired =>
          expired.domainId = command.callCdr.domainId && expired.callId = recording.callId &&
            expired.pointedAtBy recording.storagePath

/-- No batch brings back what the job has removed. -/
def leavesExpired (s : Retention) : RetentionAction → Bool
  | .persist command => !s.restores command
  | _ => true

end Retention

section Rows

variable {t : CdrTables} {rows : BatchRows} {command : CdrWriteCommand} {k : String}
  {row : CallRecordingRow}

theorem fields_recordingUpsertStatement {record : RecordingRecord}
    (h : recordingUpsertStatement record = .ok row) :
    row.callId = record.callId ∧ row.status = record.status ∧
      row.storagePath = record.storagePath := by
  rw [recordingUpsertStatement] at h
  iterate 8 obtain ⟨_, _, h⟩ := ok_of_bind h
  rw [← Except.ok.inj h]
  exact ⟨rfl, rfl, rfl⟩

theorem CdrTables.get_put_recording (h : (t.put rows).callRecording.get k = some row) :
    t.callRecording.get k = some row ∨
      ∃ new, rows.recording = some new ∧ new.callId = k ∧ row.status = new.status ∧
        row.storagePath = new.storagePath := by
  rw [CdrTables.put] at h
  split at h
  · exact .inl h
  · rw [CdrTables.insertRows] at h
    cases hNew : rows.recording with
    | none =>
        rw [hNew] at h
        exact .inl h
    | some new =>
        rw [hNew] at h
        by_cases hSame : new.callId = k
        · right
          refine ⟨new, rfl, hSame, ?_⟩
          simp only [← hSame, Table.get_upsert_self] at h
          cases hOld : t.callRecording.get new.callId with
          | none =>
              rw [hOld, Merge.onto] at h
              rw [← Option.some.inj h]
              exact ⟨rfl, rfl⟩
          | some old =>
              rw [hOld, Merge.onto] at h
              rw [← Option.some.inj h]
              exact ⟨rfl, rfl⟩
        · left
          simp only [Table.get_upsert_of_ne hSame] at h
          exact h

/-- A row that a batch has changed is the row of its recording. -/
theorem get_recording_persistCdrBatch {db : DomainDatabase}
    (h : (db.persistCdrBatch command).2.records.callRecording.get k = some row) :
    db.records.callRecording.get k = some row ∨
      command.mixesDomains = false ∧ (∃ rows, command.batchRows = .ok rows) ∧
        ∃ recording, command.recording = some recording ∧ recording.callId = k ∧
          row.status = recording.status ∧ row.storagePath = recording.storagePath := by
  rw [records_persistCdrBatch] at h
  cases hMixes : command.mixesDomains with
  | true =>
      rw [hMixes, if_pos rfl] at h
      exact .inl h
  | false =>
      rw [hMixes, if_neg Bool.false_ne_true, CdrWriteCommand.puts, hMixes,
        if_neg Bool.false_ne_true] at h
      cases hRows : command.batchRows with
      | error error =>
          rw [hRows] at h
          exact .inl h
      | ok rows =>
          rw [hRows] at h
          rcases CdrTables.get_put_recording h with hOld | ⟨new, hNew, hKey, hStatus, hPath⟩
          · exact .inl hOld
          · right
            have hRecording := (batchRows_parts hRows).1
            rw [hNew] at hRecording
            obtain ⟨record, hRecord, hStatement⟩ := recordingRow_some hRecording
            obtain ⟨hCallId, hSameStatus, hSamePath⟩ := fields_recordingUpsertStatement hStatement
            refine ⟨rfl, ⟨rows, rfl⟩, record, hRecord, ?_, ?_, ?_⟩
            · exact hCallId.symm.trans hKey
            · exact hStatus.trans hSameStatus
            · exact hPath.trans hSamePath

/-- A batch writes the row of its recording, if the call has one already. -/
theorem CdrTables.get_put_of_known {old new : CallRecordingRow} (hNew : rows.recording = some new)
    (hOld : t.callRecording.get new.callId = some old) :
    (t.put rows).callRecording.get new.callId = some (CallRecordingRow.merge.apply old new) := by
  have hFree : ¬ rows.recording.any t.nameTaken = true := by
    rw [hNew, Option.any_some, CdrTables.nameTaken_of_get hOld]
    exact Bool.false_ne_true
  rw [CdrTables.put, if_neg hFree, CdrTables.insertRows, hNew]
  simp only [Table.get_upsert_self, hOld, Merge.onto]

theorem CdrTables.isSome_put (h : (t.callRecording.get k).isSome = true) :
    ((t.put rows).callRecording.get k).isSome = true := by
  rw [CdrTables.put]
  split
  · exact h
  · rw [CdrTables.insertRows]
    cases hNew : rows.recording with
    | none => exact h
    | some new =>
        by_cases hSame : new.callId = k
        · subst hSame
          simp only [Table.get_upsert_self]
          cases t.callRecording.get new.callId with
          | none => rfl
          | some old => rfl
        · simp only [Table.get_upsert_of_ne hSame]
          exact h

theorem isSome_persistCdrBatch {db : DomainDatabase}
    (h : (db.records.callRecording.get k).isSome = true) :
    ((db.persistCdrBatch command).2.records.callRecording.get k).isSome = true := by
  rw [records_persistCdrBatch, CdrWriteCommand.puts]
  split
  · exact h
  · split
    · exact h
    · exact CdrTables.isSome_put h

/-- What a batch writes over the row of a call that has one. -/
theorem get_persistCdrBatch_of_known {db : DomainDatabase} {recording : RecordingRecord}
    (hMixes : command.mixesDomains = false) (hRows : command.batchRows = .ok rows)
    (hRecording : command.recording = some recording)
    (h : (db.records.callRecording.get recording.callId).isSome = true) :
    ∃ row, (db.persistCdrBatch command).2.records.callRecording.get recording.callId = some row ∧
      row.status = recording.status ∧ row.storagePath = recording.storagePath := by
  obtain ⟨old, hOld⟩ := Option.isSome_iff_exists.mp h
  cases hNew : rows.recording with
  | none =>
      have hNone := (batchRows_parts hRows).1
      rw [hNew, CdrWriteCommand.recordingRow, hRecording] at hNone
      cases hStatement : recordingUpsertStatement recording with
      | error error => simp only [hStatement, Except.map, reduceCtorEq] at hNone
      | ok built => simp only [hStatement, Except.map, Except.ok.injEq, reduceCtorEq] at hNone
  | some new =>
      have hSome := (batchRows_parts hRows).1
      rw [hNew] at hSome
      obtain ⟨record, hRecord, hStatement⟩ := recordingRow_some hSome
      obtain rfl : recording = record := Option.some.inj (hRecording.symm.trans hRecord)
      obtain ⟨hCall, hStatus, hPath⟩ := fields_recordingUpsertStatement hStatement
      rw [records_persistCdrBatch, hMixes, if_neg Bool.false_ne_true, CdrWriteCommand.puts, hMixes,
        if_neg Bool.false_ne_true, hRows]
      rw [← hCall] at hOld ⊢
      exact ⟨_, CdrTables.get_put_of_known hNew hOld, hStatus, hPath⟩

theorem CdrTables.get_expire_of_ne {nowMs : Int} {other : String} (h : other ≠ k) :
    (t.expire other nowMs).callRecording.get k = t.callRecording.get k := by
  rw [CdrTables.expire]
  split
  · rfl
  · exact Table.get_insert_of_ne h

theorem CdrTables.isSome_expire {nowMs : Int} {other : String}
    (h : (t.callRecording.get k).isSome = true) :
    ((t.expire other nowMs).callRecording.get k).isSome = true := by
  by_cases hSame : other = k
  · subst hSame
    rw [CdrTables.expire]
    split
    · exact h
    · simp only [Table.get_insert_self, Option.isSome_some]
  · rw [CdrTables.get_expire_of_ne hSame]
    exact h

theorem CdrTables.get_expire_self {nowMs : Int}
    (h : (t.expire k nowMs).callRecording.get k = some row) : row.status = "expired" := by
  rw [CdrTables.expire] at h
  split at h
  · next hNone =>
      rw [hNone] at h
      cases h
  · simp only [Table.get_insert_self, Option.some.injEq] at h
    rw [← h]

end Rows

namespace Retention

variable {s t : Retention}

/-- The rows of the recordings are all that the property looks at. -/
theorem StaysExpired.of_same (h : s.StaysExpired) (hExpired : t.expired = s.expired)
    (hRows : ∀ domainId, (t.databases domainId).records.callRecording =
      (s.databases domainId).records.callRecording) : t.StaysExpired := by
  intro expired hMem row hRow
  rw [hExpired] at hMem
  rw [hRows] at hRow
  exact h expired hMem row hRow

theorem StaysExpired.persist (h : s.StaysExpired) {command : CdrWriteCommand}
    (hLeaves : s.restores command = false) :
    StaysExpired { s with databases := s.databases.persist command } := by
  intro expired hMem row hRow hStatus
  by_cases hDomain : expired.domainId = command.callCdr.domainId
  · simp only [DomainDatabases.persist, hDomain, Function.update_self] at hRow
    rcases get_recording_persistCdrBatch hRow with
      hOld | ⟨hMixes, ⟨rows, hRows⟩, recording, hRecording, hCall, hSameStatus, hSamePath⟩
    · rw [← hDomain] at hOld
      exact h expired hMem row hOld hStatus
    · -- The batch would be one that restores the row.
      by_contra hPoints
      rw [Bool.not_eq_false] at hPoints
      rw [hSameStatus] at hStatus
      rw [hSamePath] at hPoints
      apply absurd hLeaves
      rw [Bool.not_eq_false, restores, hMixes, hRows, hRecording]
      simp only [Bool.not_false, Except.toBool, Bool.true_and, Option.any_some, Bool.and_eq_true,
        Bool.or_eq_true, decide_eq_true_eq, List.any_eq_true]
      exact ⟨hStatus, expired, hMem, ⟨hDomain, hCall.symm⟩, hPoints⟩
  · simp only [DomainDatabases.persist_of_ne hDomain] at hRow
    exact h expired hMem row hRow hStatus

theorem records_openDomain (domainId other : DomainId) :
    ((s.openDomain domainId).databases other).records.callRecording =
      (s.databases other).records.callRecording := by
  rw [openDomain]
  by_cases hSame : other = domainId
  · subst hSame
    simp only [Function.update_self]
    rfl
  · simp only [Function.update_of_ne hSame]

theorem StaysExpired.mark (h : s.StaysExpired) (domainId : DomainId) (marked : CallRecordingRow)
    (removed : Option (String × FileSystem)) (nowMs : Int) :
    (s.mark domainId marked removed nowMs).StaysExpired := by
  intro expired hMem row hRow hStatus
  by_cases hMarked : expired.domainId = domainId ∧ expired.callId = marked.callId
  · -- The row has just been set to expired.
    obtain ⟨hDomain, hCall⟩ := hMarked
    simp only [Retention.mark, hDomain, hCall, Function.update_self] at hRow
    have hExpired := CdrTables.get_expire_self hRow
    rw [hExpired] at hStatus
    exact absurd hStatus (by decide)
  · have hOld : expired ∈ s.expired := by
      simp only [Retention.mark] at hMem
      split at hMem
      · rcases List.mem_cons.mp hMem with rfl | hOld
        · exact absurd ⟨rfl, rfl⟩ hMarked
        · exact hOld
      · exact hMem
    apply h expired hOld row _ hStatus
    by_cases hDomain : expired.domainId = domainId
    · have hCall : marked.callId ≠ expired.callId := fun hEqual => hMarked ⟨hDomain, hEqual.symm⟩
      simp only [Retention.mark, hDomain, Function.update_self,
        CdrTables.get_expire_of_ne hCall] at hRow
      rw [hDomain]
      exact hRow
    · simp only [Retention.mark, Function.update_of_ne hDomain] at hRow
      exact hRow

/-- The rows that have expired are still there. -/
def Known (s : Retention) : Prop :=
  ∀ expired ∈ s.expired,
    ((s.databases expired.domainId).records.callRecording.get expired.callId).isSome = true

theorem Known.of_same (h : s.Known) (hExpired : t.expired = s.expired)
    (hRows : ∀ domainId, (t.databases domainId).records.callRecording =
      (s.databases domainId).records.callRecording) : t.Known := by
  intro expired hMem
  rw [hExpired] at hMem
  rw [hRows]
  exact h expired hMem

theorem Known.persist (h : s.Known) (command : CdrWriteCommand) :
    Known { s with databases := s.databases.persist command } := by
  intro expired hMem
  by_cases hDomain : expired.domainId = command.callCdr.domainId
  · simp only [DomainDatabases.persist, hDomain, Function.update_self]
    rw [← hDomain]
    exact isSome_persistCdrBatch (h expired hMem)
  · simp only [DomainDatabases.persist_of_ne hDomain]
    exact h expired hMem

theorem Known.mark (h : s.Known) (domainId : DomainId) (row : CallRecordingRow)
    (removed : Option (String × FileSystem)) (nowMs : Int) :
    (s.mark domainId row removed nowMs).Known := by
  have hKept : ∀ other callId,
      ((s.databases other).records.callRecording.get callId).isSome = true →
        (((s.mark domainId row removed nowMs).databases other).records.callRecording.get
          callId).isSome = true := by
    intro other callId hSome
    by_cases hDomain : other = domainId
    · subst hDomain
      simp only [Retention.mark, Function.update_self]
      exact CdrTables.isSome_expire hSome
    · simp only [Retention.mark, Function.update_of_ne hDomain]
      exact hSome
  intro expired hMem
  apply hKept
  simp only [Retention.mark] at hMem
  split at hMem
  · next file before old hOld =>
      rcases List.mem_cons.mp hMem with rfl | hEarlier
      · exact Option.isSome_iff_exists.mpr ⟨old, hOld⟩
      · exact h expired hEarlier
  · exact h expired hMem

/-- What the steps of a job keep, if it looks only at recordings and is kept by marking. -/
theorem advance_keeps {P : Retention → Prop}
    (hSame : ∀ {s t : Retention}, P s → t.expired = s.expired →
      (∀ domainId, (t.databases domainId).records.callRecording =
        (s.databases domainId).records.callRecording) → P t)
    (hMark : ∀ {s : Retention}, P s → ∀ domainId row removed nowMs,
      P (s.mark domainId row removed nowMs))
    (h : P s) (job : CleanupJob) (fails : Bool) : P (s.advance job fails) := by
  rw [Retention.advance]
  split
  · split
    · exact hSame h rfl fun _ => rfl
    · next domainId domains _ =>
        split
        · exact hSame h rfl fun _ => rfl
        · exact hSame h rfl (records_openDomain domainId)
  · exact hSame h rfl fun _ => rfl
  · split
    · exact hSame h rfl fun _ => rfl
    · split
      · split
        · exact hSame h rfl fun _ => rfl
        · exact hSame h rfl fun _ => rfl
      · exact hSame h rfl fun _ => rfl
      · exact hSame h rfl fun _ => rfl
  · next domainId row removed rows _ =>
      split
      · exact hSame h rfl fun _ => rfl
      · next nowMs _ =>
          split
          · exact hSame h rfl fun _ => rfl
          · exact hSame (hMark h domainId row removed nowMs) rfl fun _ => rfl

/-- The same of any step that is no batch. -/
theorem step_keeps {P : Retention → Prop} {action : RetentionAction}
    (hSame : ∀ {s t : Retention}, P s → t.expired = s.expired →
      (∀ domainId, (t.databases domainId).records.callRecording =
        (s.databases domainId).records.callRecording) → P t)
    (hMark : ∀ {s : Retention}, P s → ∀ domainId row removed nowMs,
      P (s.mark domainId row removed nowMs))
    (hPersist : ∀ command, action = .persist command →
      P { s with databases := s.databases.persist command })
    (h : P s) (hStep : s.step action = some t) : P t := by
  cases action with
  | persist command =>
      rw [← Option.some.inj hStep]
      exact hPersist command rfl
  | start retentionDays maxSizeGb nowMs domainIds =>
      rw [step] at hStep
      split at hStep
      · cases hStep
      · rw [← Option.some.inj hStep]
        exact hSame h rfl fun _ => rfl
  | advance fails =>
      obtain ⟨job, _, rfl⟩ := Option.map_eq_some_iff.mp hStep
      exact advance_keeps hSame hMark h job fails
  | disk files =>
      rw [← Option.some.inj hStep]
      exact hSame h rfl fun _ => rfl

theorem Known.step {action : RetentionAction} (h : s.Known) (hStep : s.step action = some t) :
    t.Known :=
  step_keeps Known.of_same Known.mark (fun command _ => h.persist command) h hStep

theorem StaysExpired.step {action : RetentionAction} (h : s.StaysExpired)
    (hLeaves : s.leavesExpired action = true) (hStep : s.step action = some t) :
    t.StaysExpired := by
  apply step_keeps StaysExpired.of_same StaysExpired.mark _ h hStep
  rintro command rfl
  apply h.persist
  rw [leavesExpired, Bool.not_eq_true'] at hLeaves
  exact hLeaves

theorem known_of_reachable {C : Retention → RetentionAction → Prop}
    (h : Transition.ReachableWithin system C s) : s.Known := by
  apply h.invariant
  · rintro s ⟨_, hNone⟩ expired hMem
    rw [hNone] at hMem
    exact (List.not_mem_nil hMem).elim
  · exact fun s action t hKnown _ hStep => hKnown.step hStep

/-- A batch that brings back what was removed turns its row back. -/
theorem not_staysExpired_of_restores (h : s.Known) {command : CdrWriteCommand}
    (hRestores : s.restores command = true) :
    ¬ StaysExpired { s with databases := s.databases.persist command } := by
  rw [restores, Bool.and_eq_true, Bool.and_eq_true, Bool.not_eq_true'] at hRestores
  obtain ⟨⟨hMixes, hOk⟩, hRecording⟩ := hRestores
  obtain ⟨recording, hSome, hPoints⟩ := (Option.any_eq_true ..).mp hRecording
  rw [Bool.and_eq_true, Bool.or_eq_true, decide_eq_true_eq, decide_eq_true_eq,
    List.any_eq_true] at hPoints
  obtain ⟨hStatus, expired, hMem, hExpired⟩ := hPoints
  rw [Bool.and_eq_true, Bool.and_eq_true, decide_eq_true_eq, decide_eq_true_eq] at hExpired
  obtain ⟨⟨hDomain, hCall⟩, hPath⟩ := hExpired
  intro hStays
  cases hRows : command.batchRows with
  | error error =>
      rw [hRows] at hOk
      cases hOk
  | ok rows =>
      have hKnown := h expired hMem
      rw [hDomain, hCall] at hKnown
      obtain ⟨row, hRow, hSameStatus, hSamePath⟩ :=
        get_persistCdrBatch_of_known hMixes hRows hSome hKnown
      have hGone := hStays expired hMem row
      simp only [DomainDatabases.persist, hDomain, Function.update_self, hCall] at hGone
      have hNot := hGone hRow (by rw [hSameStatus]; exact hStatus)
      rw [hSamePath, hPath] at hNot
      cases hNot

/-- Rows that have expired stay so in every run in which no batch brings back what was removed,
and the first batch that does so ends that. -/
theorem staysExpired_of_leaves
    (h : Transition.ReachableWithin system (fun s action => s.leavesExpired action = true) s) :
    s.StaysExpired ∧ ∀ action t, s.step action = some t →
      (t.StaysExpired ↔ s.leavesExpired action = true) := by
  have hStays : s.StaysExpired := by
    apply h.invariant
    · rintro s ⟨_, hNone⟩ expired hMem
      rw [hNone] at hMem
      exact (List.not_mem_nil hMem).elim
    · exact fun s action t hStays hLeaves hStep => hStays.step hLeaves hStep
  refine ⟨hStays, fun action t hStep =>
    ⟨fun hAfter => ?_, fun hLeaves => hStays.step hLeaves hStep⟩⟩
  by_contra hRestores
  rw [Bool.not_eq_true] at hRestores
  cases action with
  | persist command =>
      rw [leavesExpired, Bool.not_eq_false'] at hRestores
      rw [← Option.some.inj hStep] at hAfter
      exact not_staysExpired_of_restores (known_of_reachable h) hRestores hAfter
  | start retentionDays maxSizeGb nowMs domainIds => cases hRestores
  | advance fails => cases hRestores
  | disk files => cases hRestores

/-- A batch, one run of the job that removes its recording, and more batches. -/
def oneRun (batches : List CdrWriteCommand) : List RetentionAction :=
  [.persist CdrSpool.recordedCommand, .start 1 20 86400201 ["domain-a"]] ++
    List.replicate 3 (.advance false) ++ batches.map .persist

def oneFile : Retention where
  databases := noDatabases
  files := { canonicalize := .ok, isFile := fun path =>
    path = CdrSpool.sampleRecording.storagePath }
  job := none
  expired := []

def revives (s : Retention) : Bool :=
  s.expired.any fun expired =>
    ((s.databases expired.domainId).records.callRecording.get expired.callId).any fun row =>
      (row.status = "complete" || row.status = "incomplete") &&
        expired.pointedAtBy row.storagePath

theorem not_staysExpired_of_revives (h : s.revives = true) : ¬ s.StaysExpired := by
  intro hStays
  obtain ⟨expired, hMem, hRow⟩ := List.any_eq_true.mp h
  obtain ⟨row, hSome, hRevived⟩ := (Option.any_eq_true ..).mp hRow
  rw [Bool.and_eq_true, Bool.or_eq_true, decide_eq_true_eq, decide_eq_true_eq] at hRevived
  have hNot := hStays expired hMem row hSome hRevived.1
  rw [hRevived.2] at hNot
  cases hNot

/-- The recording is removed and marked, and a batch of another call does not change that. -/
theorem staysExpired_of_leaves_sample :
    ∃ s : Retention, s.expired ≠ [] ∧ s.StaysExpired ∧
      s.restores CdrSpool.recordedCommand = true := by
  have hRun : ((oneRun [sampleCommand "call-2"]).foldlM
      (fun s action => if leavesExpired s action then step s action else none) oneFile).any
      (fun s => !s.expired.isEmpty && s.restores CdrSpool.recordedCommand) = true := by
    decide
  obtain ⟨s, hEnd, hCheck⟩ := (Option.any_eq_true ..).mp hRun
  have hReached : Transition.ReachableWithin system
      (fun s action => s.leavesExpired action = true) s := by
    refine ⟨oneFile, ⟨rfl, rfl⟩, Transition.runsWithin_of_foldlM ?_ hEnd⟩
    intro s action t hStep
    split at hStep
    · next hLeaves => exact ⟨hLeaves, hStep⟩
    · cases hStep
  rw [Bool.and_eq_true, Bool.not_eq_true', List.isEmpty_eq_false_iff] at hCheck
  exact ⟨s, hCheck.1, (staysExpired_of_leaves hReached).1, hCheck.2⟩

/-- The batch of a recording that has been removed comes once more. -/
theorem expired_recording_revived :
    ∃ s, Transition.Reachable system s ∧ ¬ s.StaysExpired := by
  have hRun : ((oneRun [CdrSpool.recordedCommand]).foldlM step oneFile).any revives = true := by
    decide
  obtain ⟨s, hEnd, hCheck⟩ := (Option.any_eq_true ..).mp hRun
  refine ⟨s, ⟨oneFile, ⟨rfl, rfl⟩, Transition.runsWithin_of_foldlM ?_ hEnd⟩,
    not_staysExpired_of_revives hCheck⟩
  exact fun _ _ _ hStep => ⟨trivial, hStep⟩

end Retention

end VoipSwitch
