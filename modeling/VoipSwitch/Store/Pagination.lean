import VoipSwitch.Store.Repetition
import VoipSwitch.Lib.Ranking
import Mathlib.Order.OrderDual

/-! The list of the call records, page by page. Every database of a domain answers with its own
latest records, and the pages are cut from what all of them answer. -/
namespace VoipSwitch

open Keyed Ranking

/-- `as_u64` of a column. -/
def asU64 (value : Int) : Except String UInt64 :=
  if 0 ≤ value ∧ value ≤ u64Max then .ok (UInt64.ofNat value.toNat)
  else .error "negative value in unsigned CDR column"

def optionAsU64 : Option Int → Except String (Option UInt64)
  | none => .ok none
  | some value => (asU64 value).map some

def finalStatusFromRow : Option Int → Except String (Option UInt16)
  | none => .ok none
  | some value =>
    if 0 ≤ value ∧ value ≤ u16Max then .ok (some (UInt16.ofNat value.toNat))
    else .error "final status out of range"

/-- `MediaForwardingMode::from_str`, with the context of its error. -/
def mediaForwardingModeFromRow : Option String → Except String (Option MediaForwardingMode)
  | none => .ok none
  | some value =>
    if value = "userspace" then .ok (some .userspace)
    else if value = "fast_path" then .ok (some .fastPath)
    else if value = "mixed" then .ok (some .mixed)
    else .error s!"invalid media forwarding mode: {value}"

/-- A row of `call_cdr` with what the query adds to it. -/
structure CdrQueryRow where
  cdr : CallCdrRow
  traceAvailable : Bool
  traceIncomplete : Int
  recordingStatus : Option String
  recordingAvailable : Bool
deriving DecidableEq

def cdrFromRow (row : CdrQueryRow) : Except String CdrRecord := do
  return {
    callId := row.cdr.callId
    domainId := row.cdr.domainId
    callerNumber := row.cdr.callerNumber
    calleeNumber := row.cdr.calleeNumber
    inboundRouteId := row.cdr.inboundRouteId
    inboundRouteName := row.cdr.inboundRouteName
    inboundTrunkRef := row.cdr.inboundTrunkRef
    inboundTrunkName := row.cdr.inboundTrunkName
    outboundRouteId := row.cdr.outboundRouteId
    outboundRouteName := row.cdr.outboundRouteName
    outboundTrunkRef := row.cdr.outboundTrunkRef
    outboundTrunkName := row.cdr.outboundTrunkName
    startedAtMs := ← asU64 row.cdr.startedAtMs
    answeredAtMs := ← optionAsU64 row.cdr.answeredAtMs
    endedAtMs := ← asU64 row.cdr.endedAtMs
    durationMs := ← asU64 row.cdr.durationMs
    billableMs := ← asU64 row.cdr.billableMs
    answered := row.cdr.answered ≠ 0
    finalStatus := ← finalStatusFromRow row.cdr.finalStatus
    hangupCause := row.cdr.hangupCause
    mediaForwardingMode := ← mediaForwardingModeFromRow row.cdr.mediaForwardingMode
    callerToCalleePackets := ← asU64 row.cdr.callerToCalleePackets
    callerToCalleeBytes := ← asU64 row.cdr.callerToCalleeBytes
    calleeToCallerPackets := ← asU64 row.cdr.calleeToCallerPackets
    calleeToCallerBytes := ← asU64 row.cdr.calleeToCallerBytes
    callerToCalleeRtcpPackets := ← asU64 row.cdr.callerToCalleeRtcpPackets
    calleeToCallerRtcpPackets := ← asU64 row.cdr.calleeToCallerRtcpPackets
    traceAvailable := row.traceAvailable
    traceIncomplete := row.traceIncomplete ≠ 0
    recordingStatus := row.recordingStatus
    incomplete := row.cdr.incomplete ≠ 0
    incompleteReason := row.cdr.incompleteReason
    recordingAvailable := row.recordingAvailable }

namespace DomainDatabase

/-- The rows of `call_cdr`; the key of the table is the column `call_id`. -/
def cdrRows (db : DomainDatabase) : List CallCdrRow :=
  db.records.callCdr.entries.map fun entry => { entry.2 with callId := entry.1 }

/-- What `list_cdr` selects for a row. -/
def queryRow (db : DomainDatabase) (row : CallCdrRow) : CdrQueryRow where
  cdr := row
  traceAvailable := row.traceAvailable = 1 ||
    db.traces.callTraceMessage.entries.any fun entry => entry.2.callId = row.callId
  traceIncomplete := ((db.traces.callTraceCall.get row.callId).map (·.incomplete)).getD 0
  recordingStatus := (db.records.callRecording.get row.callId).map (·.status)
  recordingAvailable := (db.records.callRecording.get row.callId).any fun recording =>
    (recording.status = "complete" || recording.status = "incomplete") &&
      recording.storagePath ≠ ""

/-- `ORDER BY ended_at_ms DESC, call_id DESC`. -/
def cdrOrder (row : CallCdrRow) : ℤᵒᵈ ×ₗ Stringᵒᵈ :=
  toLex (OrderDual.toDual row.endedAtMs, OrderDual.toDual row.callId)

def selectCdr (db : DomainDatabase) (limit : Int) : List CdrQueryRow :=
  ((ranked cdrOrder db.cdrRows).take limit.toNat).map db.queryRow

/-- All call records of the domain, in no order. -/
def cdrs (db : DomainDatabase) : Except String (List CdrRecord) :=
  db.cdrRows.mapM fun row => cdrFromRow (db.queryRow row)

end DomainDatabase

structure PageRequest where
  page : UInt64
  pageSize : UInt64
deriving DecidableEq

structure PageResult (α : Type) where
  rows : List α
  total : Nat
  page : Option PageRequest

/-- The databases of the domains in the data directory. -/
structure CdrStore where
  domainIds : List DomainId
  nodup : domainIds.Nodup
  databases : DomainDatabases

namespace CdrStore

/-- The directory is read in any order, and sorted. -/
def listDomainIds (store : CdrStore) : List DomainId :=
  store.domainIds.insertionSort (· ≤ ·)

def opened (store : CdrStore) (domainId : DomainId) : DomainDatabase :=
  (store.databases domainId).openDomainCdrDb

/-- The loop over the domains, with its running total and the rows so far. -/
def collectCdr (store : CdrStore) (fetchLimit : Nat) :
    List DomainId → Nat → List CdrRecord → Except String (Nat × List CdrRecord)
  | [], total, rows => .ok (total, rows)
  | domainId :: domainIds, total, rows => do
    let db := store.opened domainId
    let limit ← asI64 (UInt64.ofNat fetchLimit)
    let more ← (db.selectCdr limit).mapM cdrFromRow
    store.collectCdr fetchLimit domainIds (satAdd64 total db.cdrRows.length) (rows ++ more)

/-- The order of the list: the latest first, then by domain, then the higher call id first. -/
def listOrder (record : CdrRecord) : ℕᵒᵈ ×ₗ (String ×ₗ Stringᵒᵈ) :=
  toLex (OrderDual.toDual record.endedAtMs.toNat,
    toLex (record.domainId, OrderDual.toDual record.callId))

def listCdr (store : CdrStore) (domainId : Option DomainId) (page : PageRequest) :
    Except String (PageResult CdrRecord) := do
  let offset := satMul64 (page.page.toNat - 1) page.pageSize.toNat
  let fetchLimit := satAdd64 offset page.pageSize.toNat
  let domainIds :=
    match domainId with
    | some id => [id]
    | none => store.listDomainIds
  if domainIds.isEmpty then return { rows := [], total := 0, page := some page }
  else
    let (total, allRows) ← store.collectCdr fetchLimit domainIds 0 []
    return {
      rows := ((ranked listOrder allRows).drop offset).take page.pageSize.toNat
      total
      page := some page }

end CdrStore

section Reading

/-- What a record takes over from its row for the order of the list. -/
theorem cdrFromRow_ok {row : CdrQueryRow} {record : CdrRecord}
    (h : cdrFromRow row = .ok record) :
    record.callId = row.cdr.callId ∧ record.domainId = row.cdr.domainId ∧
      (record.endedAtMs.toNat : ℤ) = row.cdr.endedAtMs := by
  rw [cdrFromRow] at h
  obtain ⟨_, _, h⟩ := ok_of_bind h
  obtain ⟨_, _, h⟩ := ok_of_bind h
  obtain ⟨endedAtMs, hEnded, h⟩ := ok_of_bind h
  iterate 10 obtain ⟨_, _, h⟩ := ok_of_bind h
  rw [← Except.ok.inj h]
  refine ⟨rfl, rfl, ?_⟩
  rw [asU64] at hEnded
  split at hEnded
  · next hRange =>
      rw [← Except.ok.inj hEnded, UInt64.toNat_ofNat', Nat.mod_eq_of_lt (by
        rw [u64Max] at hRange
        omega)]
      exact Int.toNat_of_nonneg hRange.1
  · cases hEnded

end Reading

namespace CdrStore

variable {store : CdrStore} {records : DomainId → List CdrRecord} {domainId : DomainId}

/-- A row of a domain and the record that is read of it. -/
def Reads (store : CdrStore) (domainId : DomainId) (row : CallCdrRow) (record : CdrRecord) : Prop :=
  cdrFromRow ((store.opened domainId).queryRow row) = .ok record ∧ record.domainId = domainId

theorem reads_of_cdrs (hRecords : (store.opened domainId).cdrs = .ok (records domainId))
    (hOwn : ∀ record ∈ records domainId, record.domainId = domainId) :
    List.Forall₂ (store.Reads domainId) (store.opened domainId).cdrRows (records domainId) := by
  have hRows := forall₂_of_mapM hRecords
  apply List.forall₂_iff_zip.mpr
  constructor
  · exact hRows.length_eq
  · intro row record hMem
    exact ⟨List.forall₂_zip hRows hMem, hOwn record (List.of_mem_zip hMem).2⟩

/-- In one domain the two orders are one. -/
theorem listOrder_le_iff {row other : CallCdrRow} {record otherRecord : CdrRecord}
    (h : store.Reads domainId row record) (hOther : store.Reads domainId other otherRecord) :
    DomainDatabase.cdrOrder row ≤ DomainDatabase.cdrOrder other ↔
      listOrder record ≤ listOrder otherRecord := by
  obtain ⟨hCall, -, hEnded⟩ := cdrFromRow_ok h.1
  obtain ⟨hOtherCall, -, hOtherEnded⟩ := cdrFromRow_ok hOther.1
  simp only [DomainDatabase.queryRow] at hCall hEnded hOtherCall hOtherEnded
  rw [DomainDatabase.cdrOrder, DomainDatabase.cdrOrder, listOrder, listOrder,
    Prod.Lex.toLex_le_toLex, Prod.Lex.toLex_le_toLex, Prod.Lex.toLex_le_toLex, h.2, hOther.2,
    ← hEnded, ← hOtherEnded, ← hCall, ← hOtherCall]
  simp only [OrderDual.toDual_lt_toDual, lt_self_iff_false, false_or,
    OrderDual.toDual_le_toDual, EmbeddingLike.apply_eq_iff_eq, true_and]
  exact or_congr Int.ofNat_lt (and_congr_left' Int.ofNat_inj)

/-- A domain answers with the first of its records. -/
theorem select_reads (hRecords : (store.opened domainId).cdrs = .ok (records domainId))
    (hOwn : ∀ record ∈ records domainId, record.domainId = domainId) (limit : Nat) :
    ((store.opened domainId).selectCdr limit).mapM cdrFromRow =
      .ok ((ranked listOrder (records domainId)).take limit) := by
  have hRanked := forall₂_ranked DomainDatabase.cdrOrder listOrder
    (fun row other record otherRecord h hOther => listOrder_le_iff h hOther)
    (reads_of_cdrs hRecords hOwn)
  rw [DomainDatabase.selectCdr, Int.toNat_natCast]
  apply mapM_of_forall₂
  rw [List.forall₂_map_left_iff]
  exact (List.forall₂_take limit hRanked).imp fun row record h => h.1

/-- The loop puts together what the domains answer. -/
theorem collectCdr_ok {fetchLimit : Nat} (hLimit : fetchLimit ≤ i64Max) (domainIds : List DomainId)
    (hRecords : ∀ id ∈ domainIds, (store.opened id).cdrs = .ok (records id))
    (hOwn : ∀ id ∈ domainIds, ∀ record ∈ records id, record.domainId = id)
    (total : Nat) (rows : List CdrRecord)
    (hTotal : total + (domainIds.flatMap records).length ≤ u64Max) :
    store.collectCdr fetchLimit domainIds total rows =
      .ok (total + (domainIds.flatMap records).length,
        rows ++ domainIds.flatMap fun id => (ranked listOrder (records id)).take fetchLimit) := by
  induction domainIds generalizing total rows with
  | nil => simp [collectCdr]
  | cons id domainIds ih =>
      have hFetch : (UInt64.ofNat fetchLimit).toNat = fetchLimit := by
        rw [UInt64.toNat_ofNat', Nat.mod_eq_of_lt (by rw [i64Max] at hLimit; omega)]
      have hAsI64 : asI64 (UInt64.ofNat fetchLimit) = .ok (fetchLimit : ℤ) := by
        rw [asI64, hFetch, if_pos hLimit]
      have hCount := (reads_of_cdrs (hRecords id List.mem_cons_self)
        (hOwn id List.mem_cons_self)).length_eq
      have hSelect := select_reads (hRecords id List.mem_cons_self) (hOwn id List.mem_cons_self)
        fetchLimit
      rw [List.flatMap_cons, List.length_append] at hTotal ⊢
      have hSum : satAdd64 total (store.opened id).cdrRows.length =
          total + (records id).length := by
        rw [satAdd64, hCount]
        omega
      rw [collectCdr, hAsI64, hSum]
      show ((store.opened id).selectCdr fetchLimit).mapM cdrFromRow >>= _ = _
      rw [hSelect, List.flatMap_cons, ← List.append_assoc, ← Nat.add_assoc]
      apply ih
      · exact fun other hMem => hRecords other (List.mem_cons_of_mem id hMem)
      · exact fun other hMem => hOwn other (List.mem_cons_of_mem id hMem)
      · omega

theorem callIds_of_reads {rows : List CallCdrRow} {others : List CdrRecord}
    (h : List.Forall₂ (store.Reads domainId) rows others) :
    others.map (·.callId) = rows.map (·.callId) := by
  induction h with
  | nil => rfl
  | cons hHead _ ih => rw [List.map_cons, List.map_cons, ih, (cdrFromRow_ok hHead.1).1]; rfl

/-- The primary key of the table. -/
theorem callIds_nodup (db : DomainDatabase) : (db.cdrRows.map (·.callId)).Nodup := by
  rw [DomainDatabase.cdrRows, List.map_map]
  exact db.records.callCdr.ascending.imp ne_of_lt

/-- No two call records stand at one place of the list. -/
theorem listOrder_distinct (hRecords : ∀ id ∈ store.domainIds,
      (store.opened id).cdrs = .ok (records id))
    (hOwn : ∀ id ∈ store.domainIds, ∀ record ∈ records id, record.domainId = id) :
    Distinct listOrder (store.domainIds.flatMap records) := by
  have hParts : ∀ record other : CdrRecord, listOrder record = listOrder other →
      record.domainId = other.domainId ∧ record.callId = other.callId := by
    intro record other hSame
    have hRest := toLex_inj.mp (Prod.mk.inj (toLex_inj.mp hSame)).2
    exact ⟨(Prod.mk.inj hRest).1, OrderDual.toDual_inj.mp (Prod.mk.inj hRest).2⟩
  rw [Distinct, List.pairwise_flatMap]
  constructor
  · intro id hMem
    have hNodup := callIds_nodup (store.opened id)
    rw [← callIds_of_reads (reads_of_cdrs (hRecords id hMem) (hOwn id hMem))] at hNodup
    apply (List.pairwise_map.mp hNodup).imp
    exact fun hNe hSame => hNe (hParts _ _ hSame).2
  · apply store.nodup.imp_of_mem
    intro id other hMem hOther hNe record hRecord otherRecord hOtherRecord hSame
    apply hNe
    rw [← hOwn id hMem record hRecord, ← hOwn other hOther otherRecord hOtherRecord]
    exact (hParts _ _ hSame).1

/-- All call records, in the order of the list. -/
def listed (store : CdrStore) (records : DomainId → List CdrRecord) : List CdrRecord :=
  ranked listOrder (store.domainIds.flatMap records)

theorem listDomainIds_perm (store : CdrStore) : store.listDomainIds.Perm store.domainIds :=
  List.perm_insertionSort _ _

/-- A page that ends within the range of the columns is that part of the whole list. -/
theorem listCdr_ok (hRecords : ∀ id ∈ store.domainIds, (store.opened id).cdrs = .ok (records id))
    (hOwn : ∀ id ∈ store.domainIds, ∀ record ∈ records id, record.domainId = id)
    (hTotal : (store.domainIds.flatMap records).length ≤ u64Max) (page : PageRequest)
    (hEnd : (page.page.toNat - 1) * page.pageSize.toNat + page.pageSize.toNat ≤ i64Max) :
    store.listCdr none page = .ok {
      rows := ((store.listed records).drop ((page.page.toNat - 1) * page.pageSize.toNat)).take
        page.pageSize.toNat
      total := (store.domainIds.flatMap records).length
      page := some page } := by
  have hMax : i64Max ≤ u64Max := by decide
  have hOffset : satMul64 (page.page.toNat - 1) page.pageSize.toNat =
      (page.page.toNat - 1) * page.pageSize.toNat := by
    rw [satMul64]
    omega
  have hFetch : satAdd64 ((page.page.toNat - 1) * page.pageSize.toNat) page.pageSize.toNat =
      (page.page.toNat - 1) * page.pageSize.toNat + page.pageSize.toNat := by
    rw [satAdd64]
    omega
  have hMem : ∀ id, id ∈ store.listDomainIds → id ∈ store.domainIds := fun id =>
    store.listDomainIds_perm.mem_iff.mp
  have hAll := (store.listDomainIds_perm).flatMap_right records
  rw [listCdr, hOffset, hFetch]
  split
  · next hNone =>
      -- Without domains there are no records either.
      rw [List.isEmpty_iff] at hNone
      have hEmpty : store.domainIds = [] := by
        have hPerm := store.listDomainIds_perm
        rw [hNone] at hPerm
        exact List.nil_perm.mp hPerm
      rw [listed, hEmpty, List.flatMap_nil, ranked, List.insertionSort_nil, List.drop_nil,
        List.take_nil]
      rfl
  · rw [collectCdr_ok hEnd _ (fun id h => hRecords id (hMem id h))
      (fun id h => hOwn id (hMem id h))]
    · have hCut := take_ranked_parts
        (Distinct.perm (listOrder_distinct hRecords hOwn) hAll.symm)
        ((page.page.toNat - 1) * page.pageSize.toNat + page.pageSize.toNat)
      have hListed : ranked listOrder (store.listDomainIds.flatMap records) =
          store.listed records :=
        (ranked_eq_of_perm (listOrder_distinct hRecords hOwn) hAll.symm).symm
      show Except.ok _ = _
      rw [Nat.zero_add, hAll.length_eq, List.nil_append, List.take_drop, hCut, hListed,
        List.take_drop]
    · rw [Nat.zero_add, hAll.length_eq]
      exact hTotal

/-- A page that ends beyond that range is refused. -/
theorem listCdr_error (hDomains : store.domainIds ≠ []) {page : PageRequest}
    (hEnd : i64Max < (page.page.toNat - 1) * page.pageSize.toNat + page.pageSize.toNat) :
    store.listCdr none page = .error "value out of SQLite INTEGER range" := by
  have hFetch : i64Max < satAdd64 (satMul64 (page.page.toNat - 1) page.pageSize.toNat)
      page.pageSize.toNat := by
    rw [satAdd64, satMul64, u64Max]
    rw [i64Max] at hEnd ⊢
    omega
  have hBound : satAdd64 (satMul64 (page.page.toNat - 1) page.pageSize.toNat)
      page.pageSize.toNat ≤ u64Max := Nat.min_le_right _ _
  have hSome : store.listDomainIds ≠ [] := by
    intro hNone
    have hPerm := store.listDomainIds_perm
    rw [hNone] at hPerm
    exact hDomains (List.nil_perm.mp hPerm)
  obtain ⟨id, domainIds, hIds⟩ := List.exists_cons_of_ne_nil hSome
  have hLimit : asI64 (UInt64.ofNat (satAdd64 (satMul64 (page.page.toNat - 1)
      page.pageSize.toNat) page.pageSize.toNat)) = .error "value out of SQLite INTEGER range" := by
    rw [asI64, if_neg]
    rw [UInt64.toNat_ofNat', Nat.mod_eq_of_lt (by rw [u64Max] at hBound; omega)]
    exact not_le.mpr hFetch
  rw [listCdr]
  simp only [hIds]
  rw [collectCdr, hLimit]
  rfl

/-- The pages together list every call record of every domain once, in one order, and each of them
has the number of all records. Pages that end beyond the range of a column are refused. -/
theorem listCdr_partition {size : UInt64} {pages : Nat}
    (hRecords : ∀ id ∈ store.domainIds, (store.opened id).cdrs = .ok (records id))
    (hOwn : ∀ id ∈ store.domainIds, ∀ record ∈ records id, record.domainId = id)
    (hSize : 0 < size.toNat) (hFits : pages * size.toNat ≤ i64Max)
    (hAll : (store.domainIds.flatMap records).length ≤ pages * size.toNat) :
    ∃ results : Nat → PageResult CdrRecord,
      (∀ index < pages, store.listCdr none
        { page := UInt64.ofNat (index + 1), pageSize := size } = .ok (results index)) ∧
      ((List.range pages).flatMap fun index => (results index).rows) = store.listed records ∧
      (store.listed records).Perm (store.domainIds.flatMap records) ∧
      (store.listed records).Pairwise (fun a b => listOrder a < listOrder b) ∧
      (∀ index < pages, (results index).total = (store.domainIds.flatMap records).length) ∧
      ∀ page : PageRequest, page.pageSize = size → pages < page.page.toNat →
        ∀ result, store.listCdr none page = .ok result → result.rows = [] := by
  have hTotal : (store.domainIds.flatMap records).length ≤ u64Max :=
    (hAll.trans hFits).trans (by decide)
  have hLength : (store.listed records).length = (store.domainIds.flatMap records).length :=
    (ranked_perm listOrder _).length_eq
  refine ⟨fun index => {
    rows := ((store.listed records).drop (index * size.toNat)).take size.toNat
    total := (store.domainIds.flatMap records).length
    page := some { page := UInt64.ofNat (index + 1), pageSize := size } }, ?_, ?_, ?_, ?_, ?_, ?_⟩
  · intro index hIndex
    have hEnd : index * size.toNat + size.toNat ≤ i64Max := by
      rw [← Nat.succ_mul]
      exact (Nat.mul_le_mul_right _ hIndex).trans hFits
    have hPage : (UInt64.ofNat (index + 1)).toNat = index + 1 := by
      have hPages : pages ≤ pages * size.toNat := Nat.le_mul_of_pos_right pages hSize
      rw [UInt64.toNat_ofNat', Nat.mod_eq_of_lt]
      rw [i64Max] at hFits
      omega
    have hOk := listCdr_ok hRecords hOwn hTotal
      { page := UInt64.ofNat (index + 1), pageSize := size } (by
        rw [hPage, Nat.add_sub_cancel]
        exact hEnd)
    rw [hPage, Nat.add_sub_cancel] at hOk
    exact hOk
  · rw [flatMap_pages, List.take_of_length_le (by rw [hLength]; exact hAll)]
  · exact ranked_perm listOrder _
  · have hDistinct : Distinct listOrder (store.listed records) :=
      Distinct.perm (listOrder_distinct hRecords hOwn) (ranked_perm listOrder _).symm
    exact (ranked_ranked listOrder _).imp₂ (fun a b hLe hNe => lt_of_le_of_ne hLe hNe) hDistinct
  · exact fun index _ => rfl
  · intro page hPageSize hLater result hResult
    by_cases hDomains : store.domainIds = []
    · have hNone : store.listDomainIds = [] := by
        have hPerm := store.listDomainIds_perm
        rw [hDomains] at hPerm
        exact List.perm_nil.mp hPerm
      rw [listCdr] at hResult
      simp only [hNone] at hResult
      rw [← Except.ok.inj hResult]
    · by_cases hEnd : (page.page.toNat - 1) * page.pageSize.toNat + page.pageSize.toNat ≤ i64Max
      · rw [listCdr_ok hRecords hOwn hTotal page hEnd] at hResult
        rw [← Except.ok.inj hResult]
        have hOffset : pages * size.toNat ≤ (page.page.toNat - 1) * page.pageSize.toNat := by
          rw [hPageSize]
          exact Nat.mul_le_mul_right _ (Nat.le_sub_one_of_lt hLater)
        simp only
        rw [List.drop_eq_nil_of_le (by omega), List.take_nil]
      · rw [listCdr_error hDomains (not_le.mp hEnd)] at hResult
        cases hResult

/-- What is read of a domain, if it can be read. -/
def recordsOf (store : CdrStore) (id : DomainId) : List CdrRecord :=
  (store.opened id).cdrs.toOption.getD []

theorem recordsOf_eq (h : (store.opened domainId).cdrs.toBool = true) :
    (store.opened domainId).cdrs = .ok (store.recordsOf domainId) := by
  rw [recordsOf]
  cases hRead : (store.opened domainId).cdrs with
  | error error =>
      rw [hRead] at h
      cases h
  | ok records => rfl

/-- One domain with two calls and one without any. -/
def twoCalls : CdrStore where
  domainIds := ["domain-b", "domain-a"]
  nodup := by decide
  databases := twoBatches.foldl DomainDatabases.persist noDatabases

theorem recordsOf_twoCalls :
    (∀ id ∈ twoCalls.domainIds, (twoCalls.opened id).cdrs = .ok (twoCalls.recordsOf id)) ∧
      ∀ id ∈ twoCalls.domainIds, ∀ record ∈ twoCalls.recordsOf id, record.domainId = id := by
  constructor
  · have hRead : ∀ id ∈ twoCalls.domainIds, (twoCalls.opened id).cdrs.toBool = true := by
      decide
    exact fun id hMem => recordsOf_eq (hRead id hMem)
  · decide

/-- Two pages of one record each. -/
theorem listCdr_partition_sample :
    ∃ first second : PageResult CdrRecord,
      twoCalls.listCdr none { page := 1, pageSize := 1 } = .ok first ∧
      twoCalls.listCdr none { page := 2, pageSize := 1 } = .ok second ∧
      first.rows ++ second.rows = twoCalls.listed twoCalls.recordsOf ∧
      (twoCalls.listed twoCalls.recordsOf).map (·.callId) = ["call-2", "call-1"] := by
  obtain ⟨results, hPages, hRows, -⟩ := @listCdr_partition twoCalls
    twoCalls.recordsOf 1 2 recordsOf_twoCalls.1 recordsOf_twoCalls.2 (by decide)
      (by decide) (by decide)
  refine ⟨results 0, results 1, hPages 0 (by decide), hPages 1 (by decide), ?_, by decide⟩
  rw [← hRows]
  simp [List.range_succ]

/-- A page size beyond the range of a column is refused, although there are records. -/
theorem huge_page_refused :
    (∀ id ∈ twoCalls.domainIds, (twoCalls.opened id).cdrs = .ok (twoCalls.recordsOf id)) ∧
      (∀ id ∈ twoCalls.domainIds, ∀ record ∈ twoCalls.recordsOf id, record.domainId = id) ∧
      twoCalls.domainIds.flatMap twoCalls.recordsOf ≠ [] ∧
      twoCalls.listCdr none { page := 1, pageSize := 9223372036854775808 } =
        .error "value out of SQLite INTEGER range" := by
  refine ⟨recordsOf_twoCalls.1, recordsOf_twoCalls.2, ?_, listCdr_error (by decide) (by decide)⟩
  rw [← List.length_pos_iff]
  decide

end CdrStore

end VoipSwitch
