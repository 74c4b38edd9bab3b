import VoipSwitch.Lib.Eviction
import VoipSwitch.Store.Pagination
import VoipSwitch.Store.Retention

/-! A whole run of the retention job over all domains, with nobody else at work. -/
namespace VoipSwitch

open Eviction Keyed

/-- Every recording stands at its own call. -/
def CdrTables.OwnCalls (t : CdrTables) : Prop :=
  ∀ callId row, t.callRecording.get callId = some row → row.callId = callId

def CallRecordingRow.isRecorded (row : CallRecordingRow) : Bool :=
  row.status = "complete" || row.status = "incomplete" || row.status = "failed"

/-- What orders the rows of a domain: their end, or their start where no end is known. -/
def CallRecordingRow.age (row : CallRecordingRow) : Int := row.endedAtMs.getD row.startedAtMs

def CallRecordingRow.expired (nowMs : Int) (row : CallRecordingRow) : CallRecordingRow :=
  { row with status := "expired", storagePath := "", fileSizeBytes := 0, updatedAt := nowMs }

section Tables

variable {t : CdrTables} {callId : String} {row : CallRecordingRow}

theorem CdrTables.get_expire_same (nowMs : Int) :
    (t.expire callId nowMs).callRecording.get callId =
      (t.callRecording.get callId).map (·.expired nowMs) := by
  rw [CdrTables.expire]
  split
  · next hNone => rw [hNone, Option.map_none]
  · next row hRow =>
      rw [hRow, Option.map_some]
      exact Table.get_insert_self

theorem CdrTables.OwnCalls.expire (h : t.OwnCalls) (callId : String) (nowMs : Int) :
    (t.expire callId nowMs).OwnCalls := by
  intro other row hRow
  by_cases hSame : callId = other
  · subst hSame
    rw [CdrTables.get_expire_same, Option.map_eq_some_iff] at hRow
    obtain ⟨old, hOld, rfl⟩ := hRow
    exact h callId old hOld
  · rw [CdrTables.get_expire_of_ne hSame] at hRow
    exact h other row hRow

theorem CdrTables.OwnCalls.ensureCdrSchema (h : t.OwnCalls) : t.ensureCdrSchema.OwnCalls := h

theorem CdrTables.mem_expirable (h : t.OwnCalls) :
    row ∈ t.expirable ↔ t.callRecording.get row.callId = some row ∧ row.isRecorded = true := by
  rw [CdrTables.expirable, List.mem_insertionSort, List.mem_filter, List.mem_map]
  constructor
  · rintro ⟨⟨entry, hMem, rfl⟩, hStatus⟩
    have hGet := Table.mem_entries.mp hMem
    exact ⟨by rw [h _ _ hGet]; exact hGet, hStatus⟩
  · rintro ⟨hGet, hStatus⟩
    exact ⟨⟨(row.callId, row), Table.mem_entries.mpr hGet, rfl⟩, hStatus⟩

theorem CdrTables.nodup_expirable (h : t.OwnCalls) :
    (t.expirable.map CallRecordingRow.callId).Nodup := by
  have hKeys : (t.callRecording.entries.map Prod.snd).map CallRecordingRow.callId =
      t.callRecording.entries.keys := by
    rw [List.map_map, OrdMap.keys]
    apply List.map_congr_left
    intro entry hMem
    exact h _ _ (Table.mem_entries.mp hMem)
  have hNodup : t.callRecording.entries.keys.Nodup :=
    t.callRecording.ascending.imp fun hLess => ne_of_lt hLess
  rw [CdrTables.expirable, ((List.perm_insertionSort _ _).map _).nodup_iff]
  apply List.Nodup.sublist (List.filter_sublist.map _)
  rw [hKeys]
  exact hNodup

theorem CdrTables.sorted_expirable (t : CdrTables) :
    t.expirable.Pairwise fun row other => row.age ≤ other.age := by
  let order (row other : CallRecordingRow) : Prop :=
    row.age < other.age ∨ row.age = other.age ∧ row.callId ≤ other.callId
  have hTotal : Std.Total order := ⟨fun row other => by
    rcases lt_trichotomy row.age other.age with hLess | hSame | hMore
    · exact .inl (.inl hLess)
    · rcases le_total row.callId other.callId with hLow | hHigh
      · exact .inl (.inr ⟨hSame, hLow⟩)
      · exact .inr (.inr ⟨hSame.symm, hHigh⟩)
    · exact .inr (.inl hMore)⟩
  have hTrans : IsTrans CallRecordingRow order := ⟨fun first second third h₁ h₂ => by
    rcases h₁ with hLess | ⟨hSame, hCall⟩ <;> rcases h₂ with hLess' | ⟨hSame', hCall'⟩
    · exact .inl (hLess.trans hLess')
    · exact .inl (hSame' ▸ hLess)
    · exact .inl (hSame ▸ hLess')
    · exact .inr ⟨hSame.trans hSame', hCall.trans hCall'⟩⟩
  apply (List.pairwise_insertionSort order _).imp
  intro row other hOrder
  rcases hOrder with hLess | ⟨hSame, _⟩
  · exact hLess.le
  · exact hSame.le

end Tables

/-- The domains with a database, the recordings in them, and the files. -/
structure RecordingStore extends CdrStore where
  files : FileSystem
  ownCalls : ∀ domainId, (databases domainId).records.OwnCalls

namespace RecordingStore

variable {store after : RecordingStore} {domainId other : DomainId} {row : CallRecordingRow}
  {callId : String}

def recording (store : RecordingStore) (domainId : DomainId) (callId : String) :
    Option CallRecordingRow :=
  (store.databases domainId).records.callRecording.get callId

/-- The complete, incomplete and failed recordings of a domain, the oldest first. -/
def recordings (store : RecordingStore) (domainId : DomainId) : List CallRecordingRow :=
  (store.databases domainId).records.expirable

def modify (domainId : DomainId) (f : CdrTables → CdrTables)
    (hf : ∀ t : CdrTables, t.OwnCalls → (f t).OwnCalls) (store : RecordingStore) :
    RecordingStore where
  toCdrStore := { store.toCdrStore with
    databases := Function.update store.databases domainId
      { store.databases domainId with records := f (store.databases domainId).records } }
  files := store.files
  ownCalls other := by
    by_cases hSame : other = domainId
    · subst hSame
      simp only [Function.update_self]
      exact hf _ (store.ownCalls other)
    · simp only [Function.update_of_ne hSame]
      exact store.ownCalls other

def openDomain (domainId : DomainId) (store : RecordingStore) : RecordingStore :=
  store.modify domainId CdrTables.ensureCdrSchema fun _ h => h.ensureCdrSchema

def expire (domainId : DomainId) (callId : String) (nowMs : Int) (store : RecordingStore) :
    RecordingStore :=
  store.modify domainId (CdrTables.expire callId nowMs) fun _ h => h.expire callId nowMs

def removeFile (path : String) (store : RecordingStore) : RecordingStore :=
  { store with files := store.files.removeFile path }

end RecordingStore

/-- A loop in which no step fails comes to its end. -/
theorem exists_foldlM {ε σ α : Type} {f : σ → α → Except ε σ} (h : ∀ s x, ∃ t, f s x = .ok t)
    (xs : List α) (s : σ) : ∃ t, xs.foldlM f s = .ok t := by
  induction xs generalizing s with
  | nil => exact ⟨s, rfl⟩
  | cons x xs ih =>
      obtain ⟨middle, hStep⟩ := h s x
      obtain ⟨last, hRest⟩ := ih middle
      use last
      rw [List.foldlM_cons]
      exact bind_of_ok hStep hRest

/-- The store with the two totals of a run. -/
structure CleanupScan where
  store : RecordingStore
  totalBytes : Nat
  totalExpired : Nat

namespace CleanupScan

def mark (limits : CleanupLimits) (domainId : DomainId) (row : CallRecordingRow)
    (scan : CleanupScan) : Except String CleanupScan := do
  let nowMs ← asI64 limits.nowMs
  return {
    store := scan.store.expire domainId row.callId nowMs
    totalBytes := scan.totalBytes - row.fileSize
    totalExpired := satAdd64 scan.totalExpired 1 }

/-- One row of a domain. -/
def visit (limits : CleanupLimits) (domainId : DomainId) (scan : CleanupScan)
    (row : CallRecordingRow) : Except String CleanupScan :=
  if row.isKept limits scan.totalBytes then .ok scan
  else
    match scan.store.files.verdict row with
    | .remove path => mark limits domainId row { scan with store := scan.store.removeFile path }
    | .gone => mark limits domainId row scan
    | .foreign => .ok scan

def visitDomain (limits : CleanupLimits) (scan : CleanupScan) (domainId : DomainId) :
    Except String CleanupScan :=
  let store := scan.store.openDomain domainId
  let rows := store.recordings domainId
  rows.foldlM (visit limits domainId)
    { scan with store, totalBytes := satAdd64 scan.totalBytes (recordedBytes rows) }

end CleanupScan

/-- The store that a run leaves, and what it returns. -/
def RecordingStore.cleanupRecordings (retentionDays maxSizeGb nowMs : UInt64)
    (store : RecordingStore) : Except String (RecordingStore × Nat) := do
  let scan ← store.listDomainIds.foldlM
    (CleanupScan.visitDomain (.of retentionDays maxSizeGb nowMs))
    { store, totalBytes := 0, totalExpired := 0 }
  return (scan.store, scan.totalExpired)

section Files

variable {files : FileSystem} {row : CallRecordingRow} {path : String}

/-- The file of a row is missing, or it is below the row's root, which then is no other file. -/
inductive FileSystem.Removable (files : FileSystem) (row : CallRecordingRow) : Prop where
  | unnamed (hPath : row.storagePath.isEmpty = true)
  | missing (hPath : files.canonicalize row.storagePath = .error .notFound)
  | inside (root path : String) (hRoot : files.canonicalize row.storageRoot = .ok root)
      (hPath : files.canonicalize row.storagePath = .ok path)
      (hInside : pathStartsWith path root = true) (hFile : files.isFile path = true)
      (hBelow : files.isFile root = true → root = path)

theorem FileSystem.canonicalize_removeFile (files : FileSystem) (path other : String) :
    (files.removeFile path).canonicalize other =
      if files.canonicalize other = .ok path then .error .notFound
      else files.canonicalize other := by
  rw [FileSystem.removeFile]
  cases hFound : files.canonicalize other with
  | error error => simp [hFound]
  | ok found => simp [hFound]

theorem FileSystem.Removable.verdict (h : files.Removable row) :
    files.verdict row = .gone ∨ ∃ path, files.verdict row = .remove path ∧
      files.isFile path = true := by
  by_cases hEmpty : row.storagePath.isEmpty = true
  · left
    rw [FileSystem.verdict, if_pos hEmpty]
  · cases h with
    | unnamed hPath => exact absurd hPath hEmpty
    | missing hPath =>
        left
        rw [FileSystem.verdict, if_neg hEmpty, hPath]
        cases files.canonicalize row.storageRoot <;> rfl
    | inside root path hRoot hPath hInside hFile hBelow =>
        right
        use path
        rw [FileSystem.verdict, if_neg hEmpty, hRoot, hPath]
        simp only [hInside, hFile, Bool.and_self, if_true, and_self]

/-- The removal of one file leaves the others removable. -/
theorem FileSystem.Removable.removeFile (h : files.Removable row)
    (hRemoved : files.isFile path = true) : (files.removeFile path).Removable row := by
  cases h with
  | unnamed hPath => exact .unnamed hPath
  | missing hPath =>
      apply FileSystem.Removable.missing
      rw [FileSystem.canonicalize_removeFile, hPath]
      rfl
  | inside root found hRoot hPath hInside hFile hBelow =>
      by_cases hSame : found = path
      · apply FileSystem.Removable.missing
        rw [FileSystem.canonicalize_removeFile, hPath, hSame, if_pos rfl]
      · have hOther : root ≠ path := by
          intro hRootPath
          rw [hRootPath] at hBelow
          exact hSame (hBelow hRemoved).symm
        apply FileSystem.Removable.inside root found _ _ hInside
        · simp [FileSystem.removeFile, hSame, hFile]
        · intro hRootFile
          simp only [FileSystem.removeFile, Bool.and_eq_true] at hRootFile
          exact hBelow hRootFile.2
        · rw [FileSystem.canonicalize_removeFile, hRoot, if_neg]
          rw [Except.ok.injEq]
          exact hOther
        · rw [FileSystem.canonicalize_removeFile, hPath, if_neg]
          rw [Except.ok.injEq]
          exact hSame

end Files

/-- What a run of the job does to rows: those that end before the cutoff are old. -/
def CleanupLimits.policy (limits : CleanupLimits) : Policy CallRecordingRow where
  size := CallRecordingRow.fileSize
  old row := row.endedAt limits < limits.cutoff
  limit := limits.maxBytes

theorem CallRecordingRow.isKept_eq (limits : CleanupLimits) (totalBytes : Nat)
    (row : CallRecordingRow) :
    row.isKept limits totalBytes = limits.policy.keeps totalBytes row := by
  rw [Bool.eq_iff_iff, Policy.keeps_iff, CallRecordingRow.isKept, Bool.and_eq_true]
  simp [CleanupLimits.policy]

/-- The sizes of rows, with no end to their sum. -/
def recordedSize (rows : List CallRecordingRow) : Nat := (rows.map CallRecordingRow.fileSize).sum

theorem recordedBytes_eq (rows : List CallRecordingRow) :
    recordedBytes rows = recordedSize rows % (u64Max + 1) := by
  rw [recordedBytes, recordedSize]
  congr 1
  induction rows with
  | nil => rfl
  | cons row rows ih =>
      rw [List.map_cons, List.sum_cons, ← ih, CallRecordingRow.fileSize]
      cases hSize : columnU64 row.fileSizeBytes with
      | none => simp [hSize]
      | some size => simp [hSize]

namespace RecordingStore

variable {store after final : RecordingStore} {domainId other : DomainId} {row : CallRecordingRow}
  {callId : String} {limits : CleanupLimits} {gone more : List CallRecordingRow}

theorem recording_modify_of_ne {f : CdrTables → CdrTables}
    {hf : ∀ t : CdrTables, t.OwnCalls → (f t).OwnCalls} (h : other ≠ domainId) :
    (store.modify domainId f hf).databases other = store.databases other := by
  simp only [modify, Function.update_of_ne h]

theorem records_modify {f : CdrTables → CdrTables}
    {hf : ∀ t : CdrTables, t.OwnCalls → (f t).OwnCalls} :
    ((store.modify domainId f hf).databases domainId).records =
      f (store.databases domainId).records := by
  simp only [modify, Function.update_self]

/-- Of the recordings of a domain, exactly the given ones have been set to expired. -/
def RowsExpired (limits : CleanupLimits) (domainId : DomainId) (gone : List CallRecordingRow)
    (store after : RecordingStore) : Prop :=
  ∀ callId, after.recording domainId callId =
    if callId ∈ gone.map CallRecordingRow.callId then
      (store.recording domainId callId).map (·.expired limits.nowMs.toNat)
    else store.recording domainId callId

/-- The same, and nothing has changed in other domains. -/
structure Expires (limits : CleanupLimits) (domainId : DomainId) (gone : List CallRecordingRow)
    (store after : RecordingStore) : Prop where
  others : ∀ other, other ≠ domainId → ∀ callId, after.recording other callId =
    store.recording other callId
  rows : RowsExpired limits domainId gone store after
  files : ∀ row, store.files.Removable row → after.files.Removable row

theorem Expires.refl (limits : CleanupLimits) (domainId : DomainId) (store : RecordingStore) :
    Expires limits domainId [] store store where
  others _ _ _ := rfl
  rows _ := by simp
  files _ h := h

theorem Expires.trans (first : Expires limits domainId gone store after)
    (second : Expires limits domainId more after final) :
    Expires limits domainId (gone ++ more) store final where
  others other hOther callId := (second.others other hOther callId).trans
    (first.others other hOther callId)
  rows callId := by
    have hTwice : ∀ row : CallRecordingRow, (row.expired limits.nowMs.toNat).expired
        limits.nowMs.toNat = row.expired limits.nowMs.toNat := fun row => rfl
    rw [second.rows, first.rows, List.map_append]
    by_cases hFirst : callId ∈ gone.map CallRecordingRow.callId
    · simp [hFirst, Function.comp_def, hTwice]
    · simp [hFirst]
  files row h := second.files row (first.files row h)

theorem expires_openDomain (limits : CleanupLimits) (domainId : DomainId)
    (store : RecordingStore) : Expires limits domainId [] store (store.openDomain domainId) where
  others other hOther callId := by
    rw [recording, openDomain, recording_modify_of_ne hOther, recording]
  rows callId := by
    rw [recording, openDomain, records_modify]
    rfl
  files _ h := h

theorem expires_expire (limits : CleanupLimits) (domainId : DomainId) (row : CallRecordingRow)
    (store : RecordingStore) :
    Expires limits domainId [row] store (store.expire domainId row.callId limits.nowMs.toNat) where
  others other hOther callId := by
    rw [recording, expire, recording_modify_of_ne hOther, recording]
  rows callId := by
    rw [recording, expire, records_modify]
    by_cases hSame : callId = row.callId
    · subst hSame
      rw [CdrTables.get_expire_same]
      simp [recording]
    · rw [CdrTables.get_expire_of_ne (Ne.symm hSame)]
      simp [recording, hSame]
  files _ h := h

theorem mem_recordings :
    row ∈ store.recordings domainId ↔
      store.recording domainId row.callId = some row ∧ row.isRecorded = true :=
  CdrTables.mem_expirable (store.ownCalls domainId)

theorem nodup_recordings (store : RecordingStore) (domainId : DomainId) :
    ((store.recordings domainId).map CallRecordingRow.callId).Nodup :=
  CdrTables.nodup_expirable (store.ownCalls domainId)

theorem recordings_eq (h : ∀ callId, after.recording domainId callId =
    store.recording domainId callId) : after.recordings domainId = store.recordings domainId := by
  have hTable : (after.databases domainId).records.callRecording =
      (store.databases domainId).records.callRecording := Table.ext h
  rw [recordings, CdrTables.expirable, hTable]
  rfl

/-- Rows that are set to expired are no recordings any more, and the others stay what they are. -/
theorem RowsExpired.mem_recordings (h : RowsExpired limits domainId gone store after) :
    row ∈ after.recordings domainId ↔
      row ∈ store.recordings domainId ∧ row.callId ∉ gone.map CallRecordingRow.callId := by
  rw [RecordingStore.mem_recordings, RecordingStore.mem_recordings, h row.callId]
  by_cases hGone : row.callId ∈ gone.map CallRecordingRow.callId
  · rw [if_pos hGone]
    constructor
    · intro ⟨hRow, hRecorded⟩
      obtain ⟨old, _, rfl⟩ := Option.map_eq_some_iff.mp hRow
      cases hRecorded
    · intro ⟨_, hStays⟩
      exact absurd hGone hStays
  · rw [if_neg hGone]
    constructor
    · intro hRow
      exact ⟨hRow, hGone⟩
    · exact And.left

end RecordingStore

namespace CleanupScan

variable {scan next final : CleanupScan} {limits : CleanupLimits} {domainId : DomainId}
  {row : CallRecordingRow} {rows gone more : List CallRecordingRow}

/-- The rows that a part of a run has set to expired, and what its totals are after that. -/
structure Expires (limits : CleanupLimits) (domainId : DomainId) (gone : List CallRecordingRow)
    (scan next : CleanupScan) : Prop where
  store : RecordingStore.Expires limits domainId gone scan.store next.store
  totalBytes : next.totalBytes = scan.totalBytes - recordedSize gone
  totalExpired : scan.totalExpired + gone.length ≤ u64Max →
    next.totalExpired = scan.totalExpired + gone.length

theorem Expires.refl (limits : CleanupLimits) (domainId : DomainId) (scan : CleanupScan) :
    Expires limits domainId [] scan scan where
  store := .refl limits domainId scan.store
  totalBytes := rfl
  totalExpired _ := rfl

theorem Expires.trans (first : Expires limits domainId gone scan next)
    (second : Expires limits domainId more next final) :
    Expires limits domainId (gone ++ more) scan final where
  store := first.store.trans second.store
  totalBytes := by
    have hSize : recordedSize (gone ++ more) = recordedSize gone + recordedSize more := by
      simp [recordedSize]
    rw [second.totalBytes, first.totalBytes, hSize]
    omega
  totalExpired h := by
    rw [List.length_append] at h ⊢
    have hFirst := first.totalExpired (by omega)
    rw [second.totalExpired (by omega), hFirst]
    omega

theorem expires_mark (h : scan.mark limits domainId row = .ok next) :
    Expires limits domainId [row] scan next := by
  obtain ⟨nowMs, hNow, hNext⟩ := ok_of_bind h
  rw [asI64] at hNow
  split at hNow
  · cases hNow
    cases hNext
    constructor
    · exact RecordingStore.expires_expire limits domainId row scan.store
    · simp [recordedSize]
    · intro hMost
      exact Nat.min_eq_left hMost
  · cases hNow

theorem expires_visit (hFile : scan.store.files.Removable row)
    (h : scan.visit limits domainId row = .ok next) :
    Expires limits domainId (if limits.policy.keeps scan.totalBytes row then [] else [row])
      scan next := by
  rw [visit, CallRecordingRow.isKept_eq] at h
  split at h
  · next hKeeps =>
      cases h
      rw [if_pos hKeeps]
      exact .refl limits domainId scan
  · next hKeeps =>
      rw [if_neg hKeeps]
      rcases hFile.verdict with hGone | ⟨path, hRemove, hPath⟩
      · rw [hGone] at h
        exact expires_mark h
      · rw [hRemove] at h
        have hMark := expires_mark h
        constructor
        · constructor
          · exact hMark.store.others
          · exact hMark.store.rows
          · intro other hOther
            exact hMark.store.files other (hOther.removeFile hPath)
        · exact hMark.totalBytes
        · exact hMark.totalExpired

/-- The loop over the rows of a domain is a pass over them. -/
theorem expires_visits (hFiles : ∀ row ∈ rows, scan.store.files.Removable row)
    (h : rows.foldlM (visit limits domainId) scan = .ok next) :
    Expires limits domainId (limits.policy.evicted scan.totalBytes rows) scan next := by
  induction rows generalizing scan with
  | nil =>
      cases h
      exact .refl limits domainId _
  | cons row rows ih =>
      rw [List.foldlM_cons] at h
      obtain ⟨middle, hVisit, hRest⟩ := ok_of_bind h
      have hFirst := expires_visit (hFiles row List.mem_cons_self) hVisit
      have hOthers := ih (fun other hMem =>
        hFirst.store.files other (hFiles other (List.mem_cons_of_mem _ hMem))) hRest
      have hBoth := hFirst.trans hOthers
      rw [hFirst.totalBytes] at hBoth
      by_cases hKeeps : limits.policy.keeps scan.totalBytes row = true
      · rw [if_pos hKeeps] at hBoth
        rw [limits.policy.evicted_cons_of_keeps hKeeps]
        exact hBoth
      · rw [if_neg hKeeps] at hBoth
        have hSize : recordedSize [row] = limits.policy.size row := by
          simp [recordedSize, CleanupLimits.policy]
        rw [hSize] at hBoth
        rw [limits.policy.evicted_cons_of_not hKeeps]
        exact hBoth

/-- What a run counts when it comes to a domain. -/
def totalWith (scan : CleanupScan) (domainId : DomainId) : Nat :=
  satAdd64 scan.totalBytes (recordedBytes (scan.store.recordings domainId))

theorem expires_visitDomain
    (hFiles : ∀ row ∈ scan.store.recordings domainId, scan.store.files.Removable row)
    (h : scan.visitDomain limits domainId = .ok next) :
    Expires limits domainId
      (limits.policy.evicted (scan.totalWith domainId) (scan.store.recordings domainId))
      { scan with totalBytes := scan.totalWith domainId } next := by
  have hRows : (scan.store.openDomain domainId).recordings domainId =
      scan.store.recordings domainId := by
    rw [RecordingStore.recordings, RecordingStore.openDomain, RecordingStore.records_modify]
    rfl
  rw [visitDomain, hRows] at h
  let opened : CleanupScan := { scan with
    store := scan.store.openDomain domainId
    totalBytes := scan.totalWith domainId }
  have hPass := @expires_visits opened next limits domainId _ hFiles h
  have hOpen := RecordingStore.expires_openDomain limits domainId scan.store
  exact ⟨hOpen.trans hPass.store, hPass.totalBytes, hPass.totalExpired⟩

/-- What the domains of a run have lost, if the run had the given totals when it came to them. -/
structure Ran (limits : CleanupLimits) (domainIds : List DomainId) (total : DomainId → Nat)
    (scan next : CleanupScan) : Prop where
  others : ∀ domainId, domainId ∉ domainIds → ∀ callId,
    next.store.recording domainId callId = scan.store.recording domainId callId
  rows : ∀ domainId ∈ domainIds, RecordingStore.RowsExpired limits domainId
    (limits.policy.evicted (total domainId) (scan.store.recordings domainId)) scan.store next.store
  totalExpired :
    let expired := (domainIds.map fun domainId =>
      (limits.policy.evicted (total domainId) (scan.store.recordings domainId)).length).sum
    scan.totalExpired + expired ≤ u64Max → next.totalExpired = scan.totalExpired + expired
  bounded : scan.totalBytes ≤ limits.maxBytes →
    limits.policy.fits u64Max scan.totalBytes (domainIds.map scan.store.recordings) = true →
      scan.totalBytes + (domainIds.map fun domainId => recordedSize
        (limits.policy.kept (total domainId) (scan.store.recordings domainId))).sum ≤
          limits.maxBytes

/-- The total at a domain is exact as long as no sum leaves its range. -/
theorem totalWith_eq
    (h : scan.totalBytes + recordedSize (scan.store.recordings domainId) ≤ u64Max) :
    scan.totalWith domainId =
      scan.totalBytes + recordedSize (scan.store.recordings domainId) := by
  rw [totalWith, recordedBytes_eq, Nat.mod_eq_of_lt (by omega), satAdd64, Nat.min_eq_left h]

/-- The first domain is expired by its own total, and the others as they stand. -/
theorem ran_visitDomain {domainIds : List DomainId} {total : DomainId → Nat}
    {middle : CleanupScan} (hNew : domainId ∉ domainIds)
    (first : Expires limits domainId
      (limits.policy.evicted (scan.totalWith domainId) (scan.store.recordings domainId))
      { scan with totalBytes := scan.totalWith domainId } middle)
    (rest : Ran limits domainIds total middle next) :
    Ran limits (domainId :: domainIds)
      (Function.update total domainId (scan.totalWith domainId)) scan next := by
  have hOther : ∀ other ∈ domainIds, other ≠ domainId := by
    intro other hMem hSame
    exact hNew (hSame ▸ hMem)
  have hSame : ∀ other ∈ domainIds,
      middle.store.recordings other = scan.store.recordings other := by
    intro other hMem
    exact RecordingStore.recordings_eq (first.store.others other (hOther other hMem))
  have hLater : ∀ f : Nat → List CallRecordingRow → Nat,
      (domainIds.map fun other => f (Function.update total domainId (scan.totalWith domainId) other)
        (scan.store.recordings other)) =
      domainIds.map fun other => f (total other) (middle.store.recordings other) := by
    intro f
    apply List.map_congr_left
    intro other hMem
    rw [Function.update_of_ne (hOther other hMem), hSame other hMem]
  constructor
  · intro other hMem callId
    rw [List.mem_cons, not_or] at hMem
    rw [rest.others other hMem.2, first.store.others other hMem.1]
  · intro other hMem
    rcases List.mem_cons.mp hMem with rfl | hRest
    · rw [Function.update_self]
      intro callId
      rw [rest.others other hNew, first.store.rows callId]
    · rw [Function.update_of_ne (hOther other hRest), ← hSame other hRest]
      intro callId
      rw [rest.rows other hRest callId, first.store.others other (hOther other hRest)]
  · rw [List.map_cons, List.sum_cons, Function.update_self, hLater fun total rows =>
      (limits.policy.evicted total rows).length]
    intro expired hMost
    have hFirst : scan.totalExpired + (limits.policy.evicted (scan.totalWith domainId)
        (scan.store.recordings domainId)).length ≤ u64Max →
        middle.totalExpired = scan.totalExpired + (limits.policy.evicted (scan.totalWith domainId)
          (scan.store.recordings domainId)).length := first.totalExpired
    have hMiddle := hFirst (by omega)
    have hRest := rest.totalExpired (by omega)
    omega
  · rw [List.map_cons, List.map_cons, List.sum_cons, Function.update_self, hLater fun total rows =>
      recordedSize (limits.policy.kept total rows)]
    intro hCarried hFits
    rw [Policy.fits, Bool.and_eq_true, decide_eq_true_eq] at hFits
    have hTotal : scan.totalWith domainId = scan.totalBytes +
        limits.policy.bytes (scan.store.recordings domainId) := totalWith_eq hFits.1
    rw [hTotal] at first ⊢
    -- What is counted after the domain is what it keeps and what was carried.
    have hKept := limits.policy.bytes_kept_add_evicted
      (scan.totalBytes + limits.policy.bytes (scan.store.recordings domainId))
      (scan.store.recordings domainId)
    have hNext : middle.totalBytes = scan.totalBytes +
        limits.policy.bytes (scan.store.recordings domainId) - limits.policy.bytes
          (limits.policy.evicted (scan.totalBytes + limits.policy.bytes
            (scan.store.recordings domainId)) (scan.store.recordings domainId)) :=
      first.totalBytes
    have hMiddle : middle.totalBytes = scan.totalBytes + limits.policy.bytes
        (limits.policy.kept (scan.totalBytes + limits.policy.bytes
          (scan.store.recordings domainId)) (scan.store.recordings domainId)) := by
      omega
    have hLimit := limits.policy.bytes_kept_le hCarried (scan.store.recordings domainId)
    have hMaps : domainIds.map middle.store.recordings = domainIds.map scan.store.recordings :=
      List.map_congr_left hSame
    rw [← hMiddle] at hLimit hFits
    have hRest := rest.bounded hLimit (by rw [hMaps]; exact hFits.2)
    rw [hMiddle] at hRest
    rw [← Nat.add_assoc]
    exact hRest

/-- Every run of the loop over the domains is passes over their recordings. -/
theorem exists_ran {domainIds : List DomainId} (hNodup : domainIds.Nodup)
    (hFiles : ∀ domainId ∈ domainIds, ∀ row ∈ scan.store.recordings domainId,
      scan.store.files.Removable row)
    (h : domainIds.foldlM (visitDomain limits) scan = .ok next) :
    ∃ total, Ran limits domainIds total scan next := by
  induction domainIds generalizing scan with
  | nil =>
      cases h
      use fun _ => 0
      constructor
      · exact fun _ _ _ => rfl
      · exact fun _ hMem => absurd hMem List.not_mem_nil
      · exact fun _ => rfl
      · exact fun hCarried _ => hCarried
  | cons domainId domainIds ih =>
      rw [List.foldlM_cons] at h
      obtain ⟨middle, hVisit, hRest⟩ := ok_of_bind h
      rw [List.nodup_cons] at hNodup
      have first := expires_visitDomain (hFiles domainId List.mem_cons_self) hVisit
      have hLater : ∀ other ∈ domainIds, ∀ row ∈ middle.store.recordings other,
          middle.store.files.Removable row := by
        intro other hMem row hRow
        have hOther : other ≠ domainId := fun hSame => hNodup.1 (hSame ▸ hMem)
        rw [RecordingStore.recordings_eq (first.store.others other hOther)] at hRow
        exact first.store.files row (hFiles other (List.mem_cons_of_mem _ hMem) row hRow)
      obtain ⟨total, rest⟩ := ih hNodup.2 hLater hRest
      exact ⟨_, ran_visitDomain hNodup.1 first rest⟩

theorem exists_visit (hNow : limits.nowMs.toNat ≤ i64Max) (domainId : DomainId)
    (scan : CleanupScan) (row : CallRecordingRow) :
    ∃ next, scan.visit limits domainId row = .ok next := by
  have hMark : ∀ scan : CleanupScan, ∃ next, scan.mark limits domainId row = .ok next := by
    intro scan
    rw [mark, asI64, if_pos hNow]
    exact ⟨_, rfl⟩
  rw [visit]
  split
  · exact ⟨scan, rfl⟩
  · split
    · exact hMark _
    · exact hMark scan
    · exact ⟨scan, rfl⟩

theorem exists_visitDomain (hNow : limits.nowMs.toNat ≤ i64Max) (scan : CleanupScan)
    (domainId : DomainId) : ∃ next, scan.visitDomain limits domainId = .ok next :=
  exists_foldlM (exists_visit hNow domainId) _ _

end CleanupScan

/-! The steps of the job, with nobody else at work, make up such a run. -/

namespace Retention

variable {limits : CleanupLimits} {domains : List DomainId} {domainId : DomainId}
  {scan next : CleanupScan} {row : CallRecordingRow} {rows : List CallRecordingRow}
  {place : CleanupPlace} {s : Retention}

/-- The job has come to a place of its run. -/
structure At (limits : CleanupLimits) (domains : List DomainId) (place : CleanupPlace)
    (scan : CleanupScan) (s : Retention) : Prop where
  databases : s.databases = scan.store.databases
  files : s.files = scan.store.files
  job : s.job = some {
    limits, domains, totalBytes := scan.totalBytes, totalExpired := scan.totalExpired, place }

/-- Runs in which the job goes on without an error. -/
abbrev Advances : Retention → Retention → Prop :=
  Transition.RunsWithin system fun _ action => action = .advance false

theorem advances_of_job {job : CleanupJob} (h : s.job = some job) :
    Advances s (s.advance job false) :=
  .step .refl rfl (by simp [system, step, h])

theorem runs_mark {removed : Option (String × FileSystem)}
    (hAt : At limits domains (.marking domainId row removed rows) scan s)
    (h : scan.mark limits domainId row = .ok next) :
    ∃ t, Advances s t ∧ At limits domains (.nextRow domainId rows) next t := by
  obtain ⟨nowMs, hNow, hNext⟩ := ok_of_bind h
  cases hNext
  refine ⟨_, advances_of_job hAt.job, ?_⟩
  constructor
  · simp only [advance, hNow, Bool.false_eq_true, if_false, mark, hAt.databases]
    rfl
  · simp only [advance, hNow, Bool.false_eq_true, if_false, mark, hAt.files]
    rfl
  · simp only [advance, hNow, Bool.false_eq_true, if_false]

/-- The steps of the job over a row come to what the visit of the row computes. -/
theorem runs_visit (hAt : At limits domains (.nextRow domainId (row :: rows)) scan s)
    (h : scan.visit limits domainId row = .ok next) :
    ∃ t, Advances s t ∧ At limits domains (.nextRow domainId rows) next t := by
  rw [CleanupScan.visit] at h
  have hStep := advances_of_job hAt.job
  have hFiles := hAt.files
  split at h
  · next hKept =>
      cases h
      refine ⟨_, hStep, ?_⟩
      constructor
      · simp only [advance, hKept, if_true, hAt.databases]
      · simp only [advance, hKept, if_true, hFiles]
      · simp only [advance, hKept, if_true]
  · next hKept =>
      split at h
      · next path hVerdict =>
          have hMark : At limits domains (.marking domainId row (some (path, s.files)) rows)
              { scan with store := scan.store.removeFile path }
              (s.advance { limits, domains, totalBytes := scan.totalBytes
                           totalExpired := scan.totalExpired
                           place := .nextRow domainId (row :: rows) } false) := by
            constructor
            · simp only [advance, hKept, hFiles, hVerdict, Bool.false_eq_true, if_false,
                hAt.databases]
              rfl
            · simp only [advance, hKept, hFiles, hVerdict, Bool.false_eq_true, if_false]
              rfl
            · simp only [advance, hKept, hFiles, hVerdict, Bool.false_eq_true, if_false]
          obtain ⟨t, hRest, hAfter⟩ := runs_mark hMark h
          exact ⟨t, hStep.trans hRest, hAfter⟩
      · next hVerdict =>
          have hMark : At limits domains (.marking domainId row none rows) scan
              (s.advance { limits, domains, totalBytes := scan.totalBytes
                           totalExpired := scan.totalExpired
                           place := .nextRow domainId (row :: rows) } false) := by
            constructor
            · simp only [advance, hKept, hFiles, hVerdict, Bool.false_eq_true, if_false,
                hAt.databases]
            · simp only [advance, hKept, hFiles, hVerdict, Bool.false_eq_true, if_false]
            · simp only [advance, hKept, hFiles, hVerdict, Bool.false_eq_true, if_false]
          obtain ⟨t, hRest, hAfter⟩ := runs_mark hMark h
          exact ⟨t, hStep.trans hRest, hAfter⟩
      · next hVerdict =>
          cases h
          refine ⟨_, hStep, ?_⟩
          constructor
          · simp only [advance, hKept, hFiles, hVerdict, Bool.false_eq_true, if_false,
              hAt.databases]
          · simp only [advance, hKept, hFiles, hVerdict, Bool.false_eq_true, if_false]
          · simp only [advance, hKept, hFiles, hVerdict, Bool.false_eq_true, if_false]

theorem runs_visits (hAt : At limits domains (.nextRow domainId rows) scan s)
    (h : rows.foldlM (CleanupScan.visit limits domainId) scan = .ok next) :
    ∃ t, Advances s t ∧ At limits domains (.nextRow domainId []) next t := by
  induction rows generalizing scan s with
  | nil =>
      cases h
      exact ⟨s, .refl, hAt⟩
  | cons row rows ih =>
      rw [List.foldlM_cons] at h
      obtain ⟨middle, hVisit, hRest⟩ := ok_of_bind h
      obtain ⟨t, hFirst, hMiddle⟩ := runs_visit hAt hVisit
      obtain ⟨u, hLater, hAfter⟩ := ih hMiddle hRest
      exact ⟨u, hFirst.trans hLater, hAfter⟩

theorem runs_visitDomain (hAt : At limits (domainId :: domains) .nextDomain scan s)
    (h : scan.visitDomain limits domainId = .ok next) :
    ∃ t, Advances s t ∧ At limits domains .nextDomain next t := by
  have hOpened : At limits domains
      (.nextRow domainId ((scan.store.openDomain domainId).recordings domainId))
      { scan with
        store := scan.store.openDomain domainId
        totalBytes := satAdd64 scan.totalBytes
          (recordedBytes ((scan.store.openDomain domainId).recordings domainId)) }
      (s.advance { limits, domains := domainId :: domains, totalBytes := scan.totalBytes
                   totalExpired := scan.totalExpired, place := .nextDomain } false) := by
    have hRows : (scan.store.openDomain domainId).recordings domainId =
        (s.databases domainId).openDomainCdrDb.records.expirable := by
      rw [RecordingStore.recordings, RecordingStore.openDomain, RecordingStore.records_modify,
        hAt.databases]
      rfl
    rw [hRows]
    constructor
    · simp only [advance, Bool.false_eq_true, if_false, openDomain, hAt.databases]
      rfl
    · simp only [advance, Bool.false_eq_true, if_false, openDomain, hAt.files]
      rfl
    · simp only [advance, Bool.false_eq_true, if_false]
  obtain ⟨t, hRows, hEnd⟩ := runs_visits hOpened h
  refine ⟨_, ((advances_of_job hAt.job).trans hRows).trans (advances_of_job hEnd.job), ?_⟩
  constructor
  · exact hEnd.databases
  · exact hEnd.files
  · rfl

/-- The job comes to the end of its run with the store that the run leaves. -/
theorem runs_visitDomains (hAt : At limits domains .nextDomain scan s)
    (h : domains.foldlM (CleanupScan.visitDomain limits) scan = .ok next) :
    ∃ t, Advances s t ∧ At limits [] .nextDomain next t := by
  induction domains generalizing scan s with
  | nil =>
      cases h
      exact ⟨s, .refl, hAt⟩
  | cons domainId domains ih =>
      rw [List.foldlM_cons] at h
      obtain ⟨middle, hVisit, hRest⟩ := ok_of_bind h
      obtain ⟨t, hFirst, hMiddle⟩ := runs_visitDomain hAt hVisit
      obtain ⟨u, hLater, hAfter⟩ := ih hMiddle hRest
      exact ⟨u, hFirst.trans hLater, hAfter⟩

/-- A job that is started comes to the end of its run, with what the run returns. -/
theorem runs_cleanupRecordings {store after : RecordingStore} {days gigabytes now : UInt64}
    {count : Nat} (hJob : s.job = none) (hDatabases : s.databases = store.databases)
    (hFiles : s.files = store.files)
    (h : store.cleanupRecordings days gigabytes now = .ok (after, count)) :
    ∃ started t totalBytes,
      s.step (.start days gigabytes now store.listDomainIds) = some started ∧
        Advances started t ∧
          At (.of days gigabytes now) [] .nextDomain
            { store := after, totalBytes, totalExpired := count } t := by
  obtain ⟨scan, hScan, hEnd⟩ := ok_of_bind h
  cases hEnd
  let started : Retention := { s with
    job := some {
      limits := .of days gigabytes now, domains := store.listDomainIds
      totalBytes := 0, totalExpired := 0, place := .nextDomain } }
  have hStart : s.step (.start days gigabytes now store.listDomainIds) = some started := by
    rw [step, hJob]
  have hFirst : At (.of days gigabytes now) store.listDomainIds .nextDomain
      { store, totalBytes := 0, totalExpired := 0 } started := ⟨hDatabases, hFiles, rfl⟩
  obtain ⟨t, hRuns, hAt⟩ := runs_visitDomains hFirst hScan
  exact ⟨started, t, scan.totalBytes, hStart, hRuns, hAt⟩

end Retention

end VoipSwitch
