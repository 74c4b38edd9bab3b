import Mathlib.Algebra.Order.BigOperators.Group.List
import VoipSwitch.Store.Cleanup

/-! What a run of the retention job promises about the recordings that it leaves. -/
namespace VoipSwitch

open Eviction Keyed

def CdrTables.withRecording (row : CallRecordingRow) (t : CdrTables) : CdrTables :=
  { t with callRecording := t.callRecording.insert row.callId row }

theorem CdrTables.OwnCalls.withRecording {t : CdrTables} (h : t.OwnCalls)
    (row : CallRecordingRow) : (t.withRecording row).OwnCalls := by
  intro callId found hFound
  by_cases hSame : row.callId = callId
  · simp only [CdrTables.withRecording, hSame, Table.get_insert_self, Option.some.injEq] at hFound
    rw [← hFound, hSame]
  · simp only [CdrTables.withRecording, Table.get_insert_of_ne hSame] at hFound
    exact h callId found hFound

namespace RecordingStore

variable {store after : RecordingStore} {domainId other : DomainId}
  {row : CallRecordingRow} {limits : CleanupLimits} {gone : List CallRecordingRow}
  {total : DomainId → Nat} {days gigabytes now : UInt64} {count : Nat}

def AllRemovable (store : RecordingStore) : Prop :=
  ∀ domainId ∈ store.domainIds, ∀ row ∈ store.recordings domainId, store.files.Removable row

/-- The recordings of a domain that are not what they were. -/
def changedRows (store after : RecordingStore) (domainId : DomainId) :
    List (String × CallRecordingRow) :=
  (store.databases domainId).records.callRecording.entries.filter fun entry =>
    after.recording domainId entry.1 ≠ some entry.2

/-- What is promised: no recording that ended before the cutoff is left, the others fit, and the
rows that have changed are counted. -/
structure CleanedUp (limits : CleanupLimits) (store after : RecordingStore) (count : Nat) :
    Prop where
  aged : ∀ domainId ∈ store.domainIds, ∀ row ∈ after.recordings domainId, ∀ endedAtMs : Nat,
    row.endedAtMs = some (endedAtMs : Int) → limits.cutoff ≤ endedAtMs
  bounded : (store.domainIds.map fun domainId => recordedSize (after.recordings domainId)).sum ≤
    limits.maxBytes
  counted : count = (store.domainIds.map fun domainId =>
    (store.changedRows after domainId).length).sum

/-- With exact sums no total of a run leaves the range of `u64`. -/
def totalsFit (limits : CleanupLimits) (store : RecordingStore) : Bool :=
  limits.policy.fits u64Max 0 (store.listDomainIds.map store.recordings) &&
    (store.domainIds.map fun domainId => (store.recordings domainId).length).sum ≤ u64Max

theorem mem_listDomainIds : domainId ∈ store.listDomainIds ↔ domainId ∈ store.domainIds :=
  List.mem_insertionSort _

theorem sum_listDomainIds (f : DomainId → Nat) :
    (store.listDomainIds.map f).sum = (store.domainIds.map f).sum :=
  ((List.perm_insertionSort _ _).map f).sum_eq

theorem ran_of_cleanup (hFiles : store.AllRemovable)
    (h : store.cleanupRecordings days gigabytes now = .ok (after, count)) :
    ∃ total scan, CleanupScan.Ran (.of days gigabytes now) store.listDomainIds total
      { store, totalBytes := 0, totalExpired := 0 } scan ∧
        scan.store = after ∧ scan.totalExpired = count := by
  obtain ⟨scan, hScan, hEnd⟩ := ok_of_bind h
  cases hEnd
  have hNodup : store.listDomainIds.Nodup :=
    (List.perm_insertionSort _ _).nodup_iff.mpr store.nodup
  obtain ⟨total, hRan⟩ := CleanupScan.exists_ran hNodup
    (fun domainId hMem => hFiles domainId (mem_listDomainIds.mp hMem)) hScan
  exact ⟨total, scan, hRan, rfl, rfl⟩

section Rows

variable {start : Nat}

theorem mem_recordings_iff_kept
    (h : RowsExpired limits domainId (limits.policy.evicted start (store.recordings domainId))
      store after) :
    row ∈ after.recordings domainId ↔
      row ∈ limits.policy.kept start (store.recordings domainId) := by
  rw [h.mem_recordings, limits.policy.mem_kept_iff (store.nodup_recordings domainId)]

theorem recordings_perm_kept
    (h : RowsExpired limits domainId (limits.policy.evicted start (store.recordings domainId))
      store after) :
    (after.recordings domainId).Perm (limits.policy.kept start (store.recordings domainId)) := by
  have hKept : (limits.policy.kept start (store.recordings domainId)).Nodup := by
    have hAll := (limits.policy.kept_append_evicted_perm start
      (store.recordings domainId)).nodup_iff.mpr (store.nodup_recordings domainId).of_map
    exact (List.nodup_append.mp hAll).1
  rw [List.perm_ext_iff_of_nodup (after.nodup_recordings domainId).of_map hKept]
  intro row
  exact mem_recordings_iff_kept h

theorem nodup_changedRows (store after : RecordingStore) (domainId : DomainId) :
    ((store.changedRows after domainId).map Prod.fst).Nodup := by
  apply List.Nodup.sublist (List.filter_sublist.map Prod.fst)
  exact (store.databases domainId).records.callRecording.ascending.imp fun hLess => ne_of_lt hLess

theorem mem_changedRows (hGone : ∀ row ∈ gone, row ∈ store.recordings domainId)
    (h : RowsExpired limits domainId gone store after) (callId : String) :
    callId ∈ (store.changedRows after domainId).map Prod.fst ↔
      callId ∈ gone.map CallRecordingRow.callId := by
  constructor
  · intro hChanged
    obtain ⟨entry, hMem, rfl⟩ := List.mem_map.mp hChanged
    obtain ⟨hEntry, hOther⟩ := List.mem_filter.mp hMem
    by_contra hStays
    rw [decide_eq_true_eq, h entry.1, if_neg hStays] at hOther
    exact hOther (Table.mem_entries.mp hEntry)
  · intro hExpired
    obtain ⟨row, hRow, rfl⟩ := List.mem_map.mp hExpired
    obtain ⟨hGet, hRecorded⟩ := mem_recordings.mp (hGone row hRow)
    apply List.mem_map.mpr
    refine ⟨(row.callId, row), List.mem_filter.mpr ⟨Table.mem_entries.mpr hGet, ?_⟩, rfl⟩
    rw [decide_eq_true_eq, h row.callId, if_pos hExpired, hGet, Option.map_some]
    intro hSame
    have hExpiredRow : row.expired limits.nowMs.toNat = row := Option.some.inj hSame
    rw [← hExpiredRow] at hRecorded
    cases hRecorded

theorem length_changedRows
    (h : RowsExpired limits domainId (limits.policy.evicted start (store.recordings domainId))
      store after) :
    (store.changedRows after domainId).length =
      (limits.policy.evicted start (store.recordings domainId)).length := by
  have hGone : ((limits.policy.evicted start (store.recordings domainId)).map
      CallRecordingRow.callId).Nodup := by
    have hAll := ((limits.policy.kept_append_evicted_perm start
      (store.recordings domainId)).map CallRecordingRow.callId).nodup_iff.mpr
        (store.nodup_recordings domainId)
    rw [List.map_append, List.nodup_append] at hAll
    exact hAll.2.1
  have hPerm := (List.perm_ext_iff_of_nodup (nodup_changedRows store after domainId) hGone).mpr
    (mem_changedRows (fun row => limits.policy.mem_of_evicted) h)
  have hLength := hPerm.length_eq
  rw [List.length_map, List.length_map] at hLength
  exact hLength

end Rows

/-- A run leaves no recording that ended before the cutoff. -/
theorem aged_of_ran {scan : CleanupScan} {domainIds : List DomainId}
    (hRan : CleanupScan.Ran limits domainIds total { store, totalBytes := 0, totalExpired := 0 }
      scan) (hDomain : domainId ∈ domainIds) (hRow : row ∈ scan.store.recordings domainId)
    {endedAtMs : Nat} (hEnded : row.endedAtMs = some (endedAtMs : Int)) :
    limits.cutoff ≤ endedAtMs := by
  have hKept := (mem_recordings_iff_kept (hRan.rows domainId hDomain)).mp hRow
  have hOld := limits.policy.not_old_of_kept hKept
  have hEnd : row.endedAt limits = endedAtMs := by
    simp [CallRecordingRow.endedAt, hEnded, columnU64]
  simp only [CleanupLimits.policy, decide_eq_false_iff_not, not_lt, hEnd] at hOld
  exact hOld

/-- If no total leaves the range of `u64`, a run comes to its end and leaves what it should:
no row that is too old, no more than the allowed size, and the count of the rows that changed. -/
theorem cleanupRecordings_cleansUp (store : RecordingStore) (days gigabytes now : UInt64)
    (hFiles : store.AllRemovable)
    (hFit : store.totalsFit (.of days gigabytes now) = true) :
    (now.toNat ≤ i64Max →
      ∃ after count, store.cleanupRecordings days gigabytes now = .ok (after, count)) ∧
    ∀ after count, store.cleanupRecordings days gigabytes now = .ok (after, count) →
      CleanedUp (.of days gigabytes now) store after count := by
  constructor
  · intro hNow
    obtain ⟨scan, hScan⟩ := exists_foldlM
      (@CleanupScan.exists_visitDomain (.of days gigabytes now) hNow)
      store.listDomainIds { store, totalBytes := 0, totalExpired := 0 }
    exact ⟨scan.store, scan.totalExpired, bind_of_ok hScan rfl⟩
  · intro after count hRun
    obtain ⟨total, scan, hRan, rfl, rfl⟩ := ran_of_cleanup hFiles hRun
    rw [totalsFit, Bool.and_eq_true, decide_eq_true_eq] at hFit
    constructor
    · intro domainId hDomain row hRow endedAtMs
      exact aged_of_ran hRan (mem_listDomainIds.mpr hDomain) hRow
    · have hBounded := hRan.bounded (Nat.zero_le _) hFit.1
      rw [Nat.zero_add] at hBounded
      have hSizes : store.listDomainIds.map (fun domainId =>
            recordedSize (scan.store.recordings domainId)) =
          store.listDomainIds.map fun domainId => recordedSize
            ((CleanupLimits.of days gigabytes now).policy.kept (total domainId)
              (store.recordings domainId)) := by
        apply List.map_congr_left
        intro domainId hDomain
        exact ((recordings_perm_kept (hRan.rows domainId hDomain)).map _).sum_eq
      rw [← sum_listDomainIds, hSizes]
      exact hBounded
    · have hChanged : store.listDomainIds.map (fun domainId =>
            (store.changedRows scan.store domainId).length) =
          store.listDomainIds.map fun domainId =>
            ((CleanupLimits.of days gigabytes now).policy.evicted (total domainId)
              (store.recordings domainId)).length := by
        apply List.map_congr_left
        intro domainId hDomain
        exact length_changedRows (hRan.rows domainId hDomain)
      have hMost : (store.listDomainIds.map fun domainId =>
            ((CleanupLimits.of days gigabytes now).policy.evicted (total domainId)
              (store.recordings domainId)).length).sum ≤ u64Max := by
        apply le_trans _ hFit.2
        rw [← sum_listDomainIds]
        apply List.sum_le_sum
        intro domainId _
        exact Policy.length_evicted_le _ _ _
      rw [← sum_listDomainIds, hChanged]
      have hCounted := hRan.totalExpired (by rw [Nat.zero_add]; exact hMost)
      rw [Nat.zero_add] at hCounted
      exact hCounted

/-- A store of two domains, with no recording yet. -/
def twoDomains : RecordingStore where
  domainIds := ["a", "b"]
  nodup := by decide
  databases := noDatabases
  files := { canonicalize := .ok, isFile := fun path => path ≠ "/r" }
  ownCalls _ _ _ hRow := by cases hRow

def record (domainId : DomainId) (row : CallRecordingRow) (store : RecordingStore) :
    RecordingStore :=
  store.modify domainId (CdrTables.withRecording row) fun _ h => h.withRecording row

def recordingOf (callId : String) (endedAtMs size : Nat) : CallRecordingRow where
  recordingId := callId
  callId
  domainId := ""
  status := "complete"
  callerNumber := ""
  calleeNumber := ""
  startedAtMs := 0
  endedAtMs := some endedAtMs
  durationMs := 0
  format := ""
  sampleRate := 0
  channelCount := 0
  fileName := ""
  storageRoot := "/r"
  storagePath := "/r/" ++ callId
  fileSizeBytes := size
  packetsTapped := 0
  packetsDropped := 0
  errorCode := none
  errorMessage := none
  createdAt := 0
  updatedAt := 0

theorem removable_of_check {files : FileSystem}
    (h : (store.domainIds.all fun domainId => (store.recordings domainId).all fun row =>
      files.isFile row.storagePath && !files.isFile row.storageRoot &&
        pathStartsWith row.storagePath row.storageRoot) = true)
    (hFiles : store.files = files) (hPaths : files.canonicalize = .ok) : store.AllRemovable := by
  intro domainId hDomain row hRow
  have hCheck := List.all_eq_true.mp (List.all_eq_true.mp h domainId hDomain) row hRow
  rw [Bool.and_eq_true, Bool.and_eq_true, Bool.not_eq_true'] at hCheck
  obtain ⟨⟨hFile, hRoot⟩, hInside⟩ := hCheck
  rw [hFiles]
  apply FileSystem.Removable.inside row.storageRoot row.storagePath
  · rw [hPaths]
  · rw [hPaths]
  · exact hInside
  · exact hFile
  · intro hOther
    rw [hRoot] at hOther
    cases hOther

/-- Recordings of a gibibyte each: an old one, one that is too much, and one that stays. -/
def threeRecordings : RecordingStore :=
  ((twoDomains.record "a" (recordingOf "1" 5 1)).record "a" (recordingOf "2" 86400010
    (2 ^ 30))).record "a" (recordingOf "3" 86400020 (2 ^ 30))

theorem removable_threeRecordings : threeRecordings.AllRemovable :=
  removable_of_check (by decide) rfl rfl

theorem cleanupRecordings_cleansUp_sample :
    ((86400030 : UInt64).toNat ≤ i64Max →
      ∃ after count, threeRecordings.cleanupRecordings 1 1 86400030 = .ok (after, count)) ∧
    ∀ after count, threeRecordings.cleanupRecordings 1 1 86400030 = .ok (after, count) →
      CleanedUp (.of 1 1 86400030) threeRecordings after count :=
  cleanupRecordings_cleansUp threeRecordings 1 1 86400030 removable_threeRecordings
    (by decide)

/-- The sum of the sizes is zero for the run, and nothing goes. -/
theorem wrapped_total :
    ∃ store : RecordingStore, store.AllRemovable ∧
      ∃ after count, store.cleanupRecordings 1 1 10 = .ok (after, count) ∧
        ¬ CleanedUp (.of 1 1 10) store after count := by
  let store := ((twoDomains.record "a" (recordingOf "1" 5 (2 ^ 63 - 1))).record "a"
    (recordingOf "2" 6 (2 ^ 63 - 1))).record "a" (recordingOf "3" 7 2)
  have hRun : ((store.cleanupRecordings 1 1 10).toOption.any fun result =>
      (CleanupLimits.of 1 1 10).maxBytes < (store.domainIds.map fun domainId =>
        recordedSize (result.1.recordings domainId)).sum) = true := by
    decide
  use store, removable_of_check (by decide) rfl rfl
  obtain ⟨result, hResult, hMore⟩ := (Option.any_eq_true ..).mp hRun
  rw [decide_eq_true_eq] at hMore
  cases hCleanup : store.cleanupRecordings 1 1 10 with
  | error error =>
      rw [hCleanup] at hResult
      cases hResult
  | ok after =>
      rw [hCleanup] at hResult
      cases hResult
      refine ⟨result.1, result.2, rfl, fun hCleaned => ?_⟩
      exact absurd hCleaned.bounded (not_le.mpr hMore)

/-- A row that is set to expired is one of those that go. -/
theorem mem_evicted_of_expired {start : Nat}
    (h : RowsExpired limits domainId (limits.policy.evicted start (store.recordings domainId))
      store after) (hRow : row ∈ store.recordings domainId)
    (hExpired : (after.recording domainId row.callId).any (·.status = "expired") = true) :
    row ∈ limits.policy.evicted start (store.recordings domainId) := by
  have hAll := (limits.policy.kept_append_evicted_perm start
    (store.recordings domainId)).symm.subset hRow
  rcases List.mem_append.mp hAll with hKept | hEvicted
  · obtain ⟨hGet, hRecorded⟩ := mem_recordings.mp ((mem_recordings_iff_kept h).mpr hKept)
    rw [hGet, Option.any_some, decide_eq_true_eq] at hExpired
    rw [CallRecordingRow.isRecorded, hExpired] at hRecorded
    cases hRecorded
  · exact hEvicted

/-- What goes for its size in a domain is older than what stays there. Across domains the order is
that of the scan. -/
theorem cleanupRecordings_oldestFirst (store : RecordingStore) (days gigabytes now : UInt64)
    (hFiles : store.AllRemovable) :
    ∀ after count, store.cleanupRecordings days gigabytes now = .ok (after, count) →
      ∀ domainId ∈ store.domainIds, ∀ row ∈ store.recordings domainId,
        (after.recording domainId row.callId).any (·.status = "expired") = true →
          (CleanupLimits.of days gigabytes now).cutoff ≤ row.endedAt (.of days gigabytes now) →
            ∀ other ∈ after.recordings domainId, row.age ≤ other.age := by
  intro after count hRun domainId hDomain row hRow hExpired hRetained other hOther
  obtain ⟨total, scan, hRan, rfl, _⟩ := ran_of_cleanup hFiles hRun
  have hRows := hRan.rows domainId (mem_listDomainIds.mpr hDomain)
  have hYoung : (CleanupLimits.of days gigabytes now).policy.old row = false := by
    simpa [CleanupLimits.policy] using hRetained
  have hBefore := Policy.evicted_before_kept _ (CdrTables.sorted_expirable _)
    (mem_evicted_of_expired hRows hRow hExpired) hYoung
    ((mem_recordings_iff_kept hRows).mp hOther)
  exact hBefore

/-- The second of the three goes for its size and is not younger than the third. -/
theorem cleanupRecordings_oldestFirst_sample :
    ∃ after count, threeRecordings.cleanupRecordings 1 1 86400030 = .ok (after, count) ∧
      ∃ row ∈ threeRecordings.recordings "a",
        (after.recording "a" row.callId).any (·.status = "expired") = true ∧
          (CleanupLimits.of 1 1 86400030).cutoff ≤ row.endedAt (.of 1 1 86400030) ∧
            ∀ other ∈ after.recordings "a", row.age ≤ other.age := by
  have hRun : ((threeRecordings.cleanupRecordings 1 1 86400030).toOption.any fun result =>
      (threeRecordings.recordings "a").any fun row =>
        (result.1.recording "a" row.callId).any (·.status = "expired") &&
          (CleanupLimits.of 1 1 86400030).cutoff ≤ row.endedAt (.of 1 1 86400030)) = true := by
    decide
  obtain ⟨result, hResult, hFound⟩ := (Option.any_eq_true ..).mp hRun
  obtain ⟨row, hRow, hGone⟩ := List.any_eq_true.mp hFound
  rw [Bool.and_eq_true, decide_eq_true_eq] at hGone
  obtain ⟨hExpired, hRetained⟩ := hGone
  cases hCleanup : threeRecordings.cleanupRecordings 1 1 86400030 with
  | error error =>
      rw [hCleanup] at hResult
      cases hResult
  | ok after =>
      rw [hCleanup] at hResult
      cases hResult
      have hOlder := cleanupRecordings_oldestFirst threeRecordings 1 1 86400030
        removable_threeRecordings result.1 result.2 hCleanup "a" (by decide) row hRow
        hExpired hRetained
      exact ⟨result.1, result.2, rfl, row, hRow, hExpired, hRetained, hOlder⟩

/-- The domains are passed one after the other: the later recording, in the second of them, goes
for its size, and the earlier one stays. -/
theorem earlier_recording_stays :
    ∃ store : RecordingStore, store.AllRemovable ∧
      ∃ after count, store.cleanupRecordings 1 1 10 = .ok (after, count) ∧
        ∃ row ∈ store.recordings "b", ∃ other ∈ after.recordings "a",
          (after.recording "b" row.callId).any (·.status = "expired") = true ∧
            (CleanupLimits.of 1 1 10).cutoff ≤ row.endedAt (.of 1 1 10) ∧
              row.endedAtMs = some 7 ∧ other.endedAtMs = some 5 := by
  let store := (twoDomains.record "a" (recordingOf "1" 5 (2 ^ 30))).record "b"
    (recordingOf "2" 7 (2 ^ 30))
  have hRun : ((store.cleanupRecordings 1 1 10).toOption.any fun result =>
      (store.recordings "b").any fun row => (result.1.recordings "a").any fun other =>
        (result.1.recording "b" row.callId).any (·.status = "expired") &&
          (CleanupLimits.of 1 1 10).cutoff ≤ row.endedAt (.of 1 1 10) &&
            row.endedAtMs = some 7 && other.endedAtMs = some 5) = true := by
    decide
  use store, removable_of_check (by decide) rfl rfl
  obtain ⟨result, hResult, hFound⟩ := (Option.any_eq_true ..).mp hRun
  obtain ⟨row, hRow, hOther⟩ := List.any_eq_true.mp hFound
  obtain ⟨other, hMem, hEnds⟩ := List.any_eq_true.mp hOther
  simp only [Bool.and_eq_true, decide_eq_true_eq] at hEnds
  obtain ⟨⟨⟨hExpired, hRetained⟩, hLate⟩, hEarly⟩ := hEnds
  cases hCleanup : store.cleanupRecordings 1 1 10 with
  | error error =>
      rw [hCleanup] at hResult
      cases hResult
  | ok after =>
      rw [hCleanup] at hResult
      cases hResult
      exact ⟨result.1, result.2, rfl, row, hRow, other, hMem, hExpired, hRetained, hLate, hEarly⟩

end RecordingStore

end VoipSwitch
