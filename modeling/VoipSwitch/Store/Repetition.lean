import VoipSwitch.Store.Tables
import VoipSwitch.Lib.Repetition

/-! Batches that are persisted again. A row that a batch has written is not changed by the same
batch, and no batch of another call touches it; only the forwarding modes that the opening of a
database fills in may be taken back for a while. -/
namespace VoipSwitch

open Keyed Repetition

/-- All the records of a batch are of one call, as those of a finalized call are. -/
def CdrWriteCommand.ofOneCall (command : CdrWriteCommand) : Prop :=
  (∀ leg ∈ command.legCdrs, leg.callId = command.callCdr.callId) ∧
    ∀ recording, command.recording = some recording → recording.callId = command.callCdr.callId

section Rows

theorem CallCdrRow.filled_filled (row : CallCdrRow) : row.filled.filled = row.filled := by
  by_cases hFills : (row.mediaForwardingMode.isNone &&
      (row.answered = 1 || decide (0 < row.callerToCalleePackets) ||
        decide (0 < row.calleeToCallerPackets))) = true
  · have hFilled : row.filled = { row with mediaForwardingMode := some "userspace" } := by
      rw [CallCdrRow.filled, if_pos hFills]
    rw [hFilled, CallCdrRow.filled]
    simp only [Option.isNone_some, Bool.false_and, Bool.false_eq_true, if_false]
  · have hFilled : row.filled = row := by rw [CallCdrRow.filled, if_neg hFills]
    rw [hFilled, hFilled]

/-- A row to which an opening gives a mode. -/
def CallCdrRow.lacksMode (row : CallCdrRow) : Bool :=
  row.mediaForwardingMode.isNone &&
    (row.answered = 1 || decide (0 < row.callerToCalleePackets) ||
      decide (0 < row.calleeToCallerPackets))

theorem CallCdrRow.filled_of_not_lacksMode {row : CallCdrRow} (h : row.lacksMode = false) :
    row.filled = row := by
  rw [CallCdrRow.lacksMode] at h
  rw [CallCdrRow.filled, h, if_neg Bool.false_ne_true]

theorem CallCdrRow.lacksMode_apply (old row : CallCdrRow) :
    (CallCdrRow.merge.apply old row).lacksMode = row.lacksMode := rfl

/-- The mode that is there does not matter to a row that conflicts with it. -/
theorem CallCdrRow.apply_filled (old row : CallCdrRow) :
    CallCdrRow.merge.apply old.filled row = CallCdrRow.merge.apply old row := by
  rw [CallCdrRow.filled]
  split
  · rfl
  · rfl

theorem CallCdrRow.onto_filled (o : Option CallCdrRow) (row : CallCdrRow) :
    CallCdrRow.merge.onto (o.map CallCdrRow.filled) row = CallCdrRow.merge.onto o row := by
  cases o with
  | none => rfl
  | some old => exact congrArg some (CallCdrRow.apply_filled old row)

end Rows

/-- The rows of a batch. -/
structure BatchRows where
  recording : Option CallRecordingRow
  legs : List ((String ×ₗ String) × LegCdrRow)
  call : CallCdrRow

/-- The keys of a batch are those of one call. -/
structure BatchRows.Of (rows : BatchRows) (callId : String) : Prop where
  recording : ∀ row, rows.recording = some row → row.callId = callId
  legs : ∀ leg ∈ rows.legs, (ofLex leg.1).1 = callId
  call : rows.call.callId = callId

namespace CdrTables

variable {t u : CdrTables} {rows others : BatchRows} {callId other : String}

def insertRows (rows : BatchRows) (t : CdrTables) : CdrTables where
  callCdr := t.callCdr.upsert CallCdrRow.merge rows.call.callId rows.call
  legCdr := t.legCdr.upsertAll LegCdrRow.merge rows.legs
  callRecording :=
    match rows.recording with
    | none => t.callRecording
    | some row => t.callRecording.upsert CallRecordingRow.merge row.callId row

/-- A batch without its conversions. -/
def put (rows : BatchRows) (t : CdrTables) : CdrTables :=
  if rows.recording.any t.nameTaken then t else t.insertRows rows

theorem ensureCdrSchema_ensureCdrSchema (t : CdrTables) :
    t.ensureCdrSchema.ensureCdrSchema = t.ensureCdrSchema := by
  have hCalls : (t.callCdr.mapValues (·.filled)).mapValues (·.filled) =
      t.callCdr.mapValues CallCdrRow.filled := by
    apply Table.ext
    intro k
    rw [Table.get_mapValues, Table.get_mapValues, Option.map_map]
    congr 1
    funext row
    exact CallCdrRow.filled_filled row
  rw [ensureCdrSchema, ensureCdrSchema]
  simp only [hCalls]

/-- The modes that an opening fills in make no difference to a batch. -/
theorem put_ensureCdrSchema (rows : BatchRows) (t : CdrTables) :
    (t.ensureCdrSchema.put rows).ensureCdrSchema = (t.put rows).ensureCdrSchema := by
  have hTaken : t.ensureCdrSchema.nameTaken = t.nameTaken := rfl
  rw [put, put, hTaken]
  split
  · exact ensureCdrSchema_ensureCdrSchema t
  · have hCalls : ((t.callCdr.mapValues (·.filled)).upsert CallCdrRow.merge rows.call.callId
        rows.call).mapValues (·.filled) =
        (t.callCdr.upsert CallCdrRow.merge rows.call.callId rows.call).mapValues
          CallCdrRow.filled := by
      apply Table.ext
      intro k
      rw [Table.get_mapValues, Table.get_mapValues]
      by_cases hSame : rows.call.callId = k
      · subst hSame
        rw [Table.get_upsert_self, Table.get_upsert_self, Table.get_mapValues,
          CallCdrRow.onto_filled]
      · rw [Table.get_upsert_of_ne hSame, Table.get_upsert_of_ne hSame, Table.get_mapValues,
          Option.map_map]
        congr 1
        funext row
        exact CallCdrRow.filled_filled row
    rw [insertRows, insertRows, ensureCdrSchema, ensureCdrSchema]
    simp only [ensureCdrSchema, hCalls]

/-- Tables in which an opening finds nothing to fill in. -/
def Filled (t : CdrTables) : Prop :=
  t.ensureCdrSchema = t

theorem filled_ensureCdrSchema (t : CdrTables) : t.ensureCdrSchema.Filled :=
  ensureCdrSchema_ensureCdrSchema t

theorem Filled.get (h : t.Filled) {k : String} {row : CallCdrRow}
    (hRow : t.callCdr.get k = some row) : row.filled = row := by
  have hCalls := congrArg (Table.get · k) (congrArg CdrTables.callCdr h)
  simp only [ensureCdrSchema, Table.get_mapValues, hRow, Option.map_some, Option.some.injEq]
    at hCalls
  exact hCalls

theorem filled_of_get (h : ∀ k row, t.callCdr.get k = some row → row.filled = row) : t.Filled := by
  have hCalls : t.callCdr.mapValues (·.filled) = t.callCdr := by
    apply Table.ext
    intro k
    rw [Table.get_mapValues]
    cases hRow : t.callCdr.get k with
    | none => rfl
    | some row => rw [Option.map_some, h k row hRow]
  rw [Filled, ensureCdrSchema]
  simp only [hCalls]

theorem Filled.put (h : t.Filled) (hRow : rows.call.lacksMode = false) : (t.put rows).Filled := by
  rw [CdrTables.put]
  split
  · exact h
  · apply filled_of_get
    intro k row hGet
    rw [insertRows] at hGet
    by_cases hSame : rows.call.callId = k
    · subst hSame
      simp only [Table.get_upsert_self] at hGet
      apply CallCdrRow.filled_of_not_lacksMode
      cases hOld : t.callCdr.get rows.call.callId with
      | none =>
          rw [hOld, Merge.onto] at hGet
          rw [← Option.some.inj hGet]
          exact hRow
      | some old =>
          rw [hOld, Merge.onto] at hGet
          rw [← Option.some.inj hGet, CallCdrRow.lacksMode_apply]
          exact hRow
    · simp only [Table.get_upsert_of_ne hSame] at hGet
      exact h.get hGet

/-- The name of a recording is not taken where its call has a row already. -/
theorem nameTaken_of_get {row old : CallRecordingRow}
    (h : t.callRecording.get row.callId = some old) : t.nameTaken row = false := by
  rw [nameTaken, h, Option.isNone_some, Bool.false_and]

theorem nameTaken_insertRows (rows : BatchRows) (t : CdrTables) :
    rows.recording.any (t.insertRows rows).nameTaken = false := by
  cases hRecording : rows.recording with
  | none => rfl
  | some row =>
      have hGet : (t.insertRows rows).callRecording.get row.callId =
          CallRecordingRow.merge.onto (t.callRecording.get row.callId) row := by
        rw [insertRows]
        simp only [hRecording]
        exact Table.get_upsert_self
      rw [Option.any_some]
      cases hOld : t.callRecording.get row.callId with
      | none =>
          rw [hOld] at hGet
          exact nameTaken_of_get hGet
      | some old =>
          rw [hOld] at hGet
          exact nameTaken_of_get hGet

/-- A batch does nothing the second time. -/
theorem put_put (rows : BatchRows) (t : CdrTables) : (t.put rows).put rows = t.put rows := by
  by_cases hTaken : rows.recording.any t.nameTaken = true
  · have hSame : t.put rows = t := by rw [put, if_pos hTaken]
    rw [hSame, hSame]
  · have hPut : t.put rows = t.insertRows rows := by rw [put, if_neg hTaken]
    rw [hPut, put, nameTaken_insertRows, if_neg Bool.false_ne_true, insertRows, insertRows]
    simp only [Table.upsert_upsert, Table.upsertAll_upsertAll LegCdrRow.merge_overwrites]
    cases rows.recording with
    | none => rfl
    | some row => simp only [Table.upsert_upsert]

/-- A batch whose rows are there, but for the modes that an opening fills in. -/
def Settled (rows : BatchRows) (t : CdrTables) : Prop :=
  (t.put rows).ensureCdrSchema = t.ensureCdrSchema

theorem Settled.congr (h : Settled rows t) (hSame : u.ensureCdrSchema = t.ensureCdrSchema) :
    Settled rows u := by
  rw [Settled, ← put_ensureCdrSchema, hSame, put_ensureCdrSchema]
  exact h

theorem settled_put (rows : BatchRows) (t : CdrTables) : Settled rows (t.put rows) := by
  rw [Settled, put_put]

/-- Tables in which the rows of one call are those of other tables. -/
structure SameFor (callId : String) (t u : CdrTables) : Prop where
  call : u.callCdr.get callId = t.callCdr.get callId
  legs : ∀ key, (ofLex key).1 = callId → u.legCdr.get key = t.legCdr.get key
  recording : u.callRecording.get callId = t.callRecording.get callId

theorem put_sameFor (hRows : others.Of other) (hOther : other ≠ callId) :
    SameFor callId t (t.put others) := by
  rw [put]
  split
  · exact ⟨rfl, fun _ _ => rfl, rfl⟩
  · constructor
    · exact Table.get_upsert_of_ne (by rw [hRows.call]; exact hOther)
    · intro key hKey
      apply Table.get_upsertAll_of_ne
      rintro leg hMem rfl
      exact hOther ((hRows.legs leg hMem).symm.trans hKey)
    · rw [insertRows]
      cases hRecording : others.recording with
      | none => rfl
      | some row =>
          exact Table.get_upsert_of_ne (by rw [hRows.recording row hRecording]; exact hOther)

/-- A name that is taken stays taken. -/
theorem names_put (others : BatchRows) (t : CdrTables) (name : String)
    (h : t.callRecording.entries.any (fun entry => entry.2.recordingId = name) = true) :
    (t.put others).callRecording.entries.any (fun entry => entry.2.recordingId = name) = true := by
  rw [put]
  split
  · exact h
  · rw [insertRows]
    cases others.recording with
    | none => exact h
    | some row =>
        rw [List.any_eq_true] at h ⊢
        obtain ⟨⟨key, old⟩, hMem, hName⟩ := h
        rw [Table.mem_entries] at hMem
        by_cases hSame : row.callId = key
        · subst hSame
          refine ⟨(row.callId, CallRecordingRow.merge.apply old row), ?_, hName⟩
          rw [Table.mem_entries, Table.get_upsert_self, hMem, Merge.onto]
        · refine ⟨(key, old), ?_, hName⟩
          rw [Table.mem_entries, Table.get_upsert_of_ne hSame]
          exact hMem

theorem nameTaken_put {row : CallRecordingRow} (hRow : row.callId = callId)
    (hSame : SameFor callId t (t.put others)) (h : t.nameTaken row = true) :
    (t.put others).nameTaken row = true := by
  rw [nameTaken, Bool.and_eq_true] at h ⊢
  rw [hRow] at h ⊢
  rw [hSame.recording]
  exact ⟨h.1, names_put others t row.recordingId h.2⟩

/-- Where a batch changes nothing but modes, its rows are there. -/
theorem Settled.tables (h : Settled rows t) (hFree : ¬ rows.recording.any t.nameTaken = true) :
    (∀ k, ((t.callCdr.upsert CallCdrRow.merge rows.call.callId rows.call).get k).map
        CallCdrRow.filled = (t.callCdr.get k).map CallCdrRow.filled) ∧
      t.legCdr.upsertAll LegCdrRow.merge rows.legs = t.legCdr ∧
      ∀ row, rows.recording = some row →
        t.callRecording.upsert CallRecordingRow.merge row.callId row = t.callRecording := by
  rw [Settled, CdrTables.put, if_neg hFree, insertRows, ensureCdrSchema, ensureCdrSchema] at h
  simp only [CdrTables.mk.injEq] at h
  obtain ⟨hCalls, hLegs, hRecordings⟩ := h
  refine ⟨fun k => ?_, hLegs, fun row hRow => ?_⟩
  · have hRow := congrArg (Table.get · k) hCalls
    simp only [Table.get_mapValues] at hRow
    exact hRow
  · rw [hRow] at hRecordings
    exact hRecordings

/-- The batches of other calls leave a batch settled. -/
theorem Settled.put (h : Settled rows t) (hRows : rows.Of callId) (hOthers : others.Of other)
    (hOther : other ≠ callId) : Settled rows (t.put others) := by
  have hSame := put_sameFor (t := t) hOthers hOther
  by_cases hTaken : rows.recording.any t.nameTaken = true
  · obtain ⟨row, hRow, hName⟩ := (Option.any_eq_true ..).mp hTaken
    have hStill := nameTaken_put (hRows.recording row hRow) hSame hName
    have hAny : rows.recording.any (t.put others).nameTaken = true := by
      rw [hRow]
      exact hStill
    rw [Settled, CdrTables.put, if_pos hAny]
  · obtain ⟨hCalls, hLegs, hRecordings⟩ := h.tables hTaken
    have hFree : rows.recording.any (t.put others).nameTaken = false := by
      cases hRow : rows.recording with
      | none => rfl
      | some row =>
          -- The row of the recording is there, since inserting it changes nothing.
          have hGet := congrArg (Table.get · row.callId) (hRecordings row hRow)
          simp only [Table.get_upsert_self] at hGet
          rw [Option.any_some]
          cases hOld : t.callRecording.get row.callId with
          | none =>
              rw [hOld] at hGet
              cases hGet
          | some old =>
              have hNow : (t.put others).callRecording.get row.callId = some old := by
                rw [hRows.recording row hRow, hSame.recording, ← hRows.recording row hRow]
                exact hOld
              exact nameTaken_of_get hNow
    rw [Settled, CdrTables.put, hFree, if_neg Bool.false_ne_true, insertRows, ensureCdrSchema,
      ensureCdrSchema]
    simp only [CdrTables.mk.injEq]
    refine ⟨?_, ?_, ?_⟩
    · apply Table.ext
      intro k
      rw [Table.get_mapValues, Table.get_mapValues]
      by_cases hKey : rows.call.callId = k
      · subst hKey
        have hRow := hCalls rows.call.callId
        rw [Table.get_upsert_self] at hRow ⊢
        rw [hRows.call] at hRow ⊢
        rw [hSame.call]
        exact hRow
      · rw [Table.get_upsert_of_ne hKey]
    · apply Table.upsertAll_eq_self_of_get hLegs
      exact fun leg hMem => hSame.legs leg.1 (hRows.legs leg hMem)
    · cases hRow : rows.recording with
      | none => rfl
      | some row =>
          apply Table.upsert_eq_self_of_get (hRecordings row hRow)
          rw [hRows.recording row hRow]
          exact hSame.recording

end CdrTables

section Statements

theorem callId_cdrUpsertStatement {record : CdrRecord} {row : CallCdrRow}
    (h : cdrUpsertStatement record = .ok row) : row.callId = record.callId := by
  rw [cdrUpsertStatement] at h
  iterate 11 obtain ⟨_, _, h⟩ := ok_of_bind h
  rw [← Except.ok.inj h]

theorem key_legCdrUpsertStatement {record : LegCdrRecord} {row : LegCdrRow}
    (h : legCdrUpsertStatement record = .ok row) : (ofLex row.key).1 = record.callId := by
  rw [legCdrUpsertStatement] at h
  iterate 6 obtain ⟨_, _, h⟩ := ok_of_bind h
  rw [← Except.ok.inj h]
  rfl

theorem callId_recordingUpsertStatement {record : RecordingRecord} {row : CallRecordingRow}
    (h : recordingUpsertStatement record = .ok row) : row.callId = record.callId := by
  rw [recordingUpsertStatement] at h
  iterate 8 obtain ⟨_, _, h⟩ := ok_of_bind h
  rw [← Except.ok.inj h]

/-- A record that asks an opening to fill in its mode. -/
def CdrRecord.lacksMode (record : CdrRecord) : Bool :=
  record.mediaForwardingMode.isNone &&
    (record.answered || 0 < record.callerToCalleePackets || 0 < record.calleeToCallerPackets)

theorem asI64_pos {value : UInt64} {column : Int} (h : asI64 value = .ok column) :
    decide (0 < column) = decide (0 < value) := by
  rw [asI64] at h
  split at h
  · rw [← Except.ok.inj h, decide_eq_decide, UInt64.lt_iff_toNat_lt]
    exact Int.natCast_pos
  · cases h

/-- Whether a row lacks a mode is a matter of its record. -/
theorem lacksMode_cdrUpsertStatement {record : CdrRecord} {row : CallCdrRow}
    (h : cdrUpsertStatement record = .ok row) : row.lacksMode = record.lacksMode := by
  rw [cdrUpsertStatement] at h
  iterate 5 obtain ⟨_, _, h⟩ := ok_of_bind h
  obtain ⟨caller, hCaller, h⟩ := ok_of_bind h
  obtain ⟨_, _, h⟩ := ok_of_bind h
  obtain ⟨callee, hCallee, h⟩ := ok_of_bind h
  iterate 3 obtain ⟨_, _, h⟩ := ok_of_bind h
  rw [← Except.ok.inj h, CallCdrRow.lacksMode, CdrRecord.lacksMode]
  simp only [asI64_pos hCaller, asI64_pos hCallee, Option.isNone_map]
  cases record.answered with
  | false => rfl
  | true => rfl

def CdrWriteCommand.recordingRow (command : CdrWriteCommand) :
    Except String (Option CallRecordingRow) :=
  match command.recording with
  | none => .ok none
  | some recording => (recordingUpsertStatement recording).map some

/-- The rows of a command whose numbers fit into the columns. -/
def CdrWriteCommand.batchRows (command : CdrWriteCommand) : Except String BatchRows := do
  let recording ← command.recordingRow
  let legs ← command.legCdrs.mapM legCdrUpsertStatement
  let call ← cdrUpsertStatement command.callCdr
  if command.callCdr.traceAvailable then
    let _ ← asI64 command.traceEndedAtMs
  return { recording, legs := legs.map fun leg => (leg.key, leg), call }

theorem legs_mapM {records : List LegCdrRecord} {rows : List LegCdrRow} {callId : String}
    (h : records.mapM legCdrUpsertStatement = .ok rows)
    (hCall : ∀ leg ∈ records, leg.callId = callId) : ∀ row ∈ rows, (ofLex row.key).1 = callId := by
  induction records generalizing rows with
  | nil =>
      rw [List.mapM_nil] at h
      rw [← Except.ok.inj h]
      exact fun row hMem => (List.not_mem_nil hMem).elim
  | cons record records ih =>
      rw [List.mapM_cons] at h
      obtain ⟨row, hRow, h⟩ := ok_of_bind h
      obtain ⟨later, hLater, h⟩ := ok_of_bind h
      rw [← Except.ok.inj h]
      intro other hMem
      rcases List.mem_cons.mp hMem with hHead | hTail
      · rw [hHead, key_legCdrUpsertStatement hRow]
        exact hCall record List.mem_cons_self
      · exact ih hLater (fun leg hLeg => hCall leg (List.mem_cons_of_mem _ hLeg)) other hTail

theorem batchRows_parts {command : CdrWriteCommand} {rows : BatchRows}
    (h : command.batchRows = .ok rows) :
    command.recordingRow = .ok rows.recording ∧
      (∃ legs, command.legCdrs.mapM legCdrUpsertStatement = .ok legs ∧
        rows.legs = legs.map fun leg => (leg.key, leg)) ∧
      cdrUpsertStatement command.callCdr = .ok rows.call := by
  rw [CdrWriteCommand.batchRows] at h
  obtain ⟨recording, hRecording, h⟩ := ok_of_bind h
  obtain ⟨legs, hLegs, h⟩ := ok_of_bind h
  obtain ⟨call, hCall, h⟩ := ok_of_bind h
  have hRows : rows = { recording, legs := legs.map fun leg => (leg.key, leg), call } := by
    split at h
    · obtain ⟨_, _, h⟩ := ok_of_bind h
      exact (Except.ok.inj h).symm
    · exact (Except.ok.inj h).symm
  subst hRows
  exact ⟨hRecording, ⟨legs, hLegs, rfl⟩, hCall⟩

theorem recordingRow_some {command : CdrWriteCommand} {row : CallRecordingRow}
    (h : command.recordingRow = .ok (some row)) :
    ∃ record, command.recording = some record ∧ recordingUpsertStatement record = .ok row := by
  rw [CdrWriteCommand.recordingRow] at h
  cases hCommand : command.recording with
  | none =>
      rw [hCommand] at h
      cases Except.ok.inj h
  | some record =>
      rw [hCommand] at h
      refine ⟨record, rfl, ?_⟩
      cases hStatement : recordingUpsertStatement record with
      | error error => simp only [hStatement, Except.map, reduceCtorEq] at h
      | ok built =>
          simp only [hStatement, Except.map, Except.ok.injEq, Option.some.injEq] at h
          rw [h]

theorem batchRows_of {command : CdrWriteCommand} {rows : BatchRows}
    (h : command.batchRows = .ok rows)
    (hCall : command.ofOneCall) : rows.Of command.callCdr.callId := by
  obtain ⟨hRecording, ⟨legs, hLegs, hRows⟩, hRow⟩ := batchRows_parts h
  constructor
  · intro row hSome
    rw [hSome] at hRecording
    obtain ⟨record, hCommand, hStatement⟩ := recordingRow_some hRecording
    rw [callId_recordingUpsertStatement hStatement]
    exact hCall.2 record hCommand
  · intro leg hMem
    rw [hRows] at hMem
    obtain ⟨row, hLeg, rfl⟩ := List.mem_map.mp hMem
    exact legs_mapM hLegs hCall.1 row hLeg
  · exact callId_cdrUpsertStatement hRow

/-- What the transaction does with the records, once the rows are built. -/
theorem persist_of_rows {command : CdrWriteCommand} {rows : BatchRows} (t : CdrTables)
    (h : command.batchRows = .ok rows) :
    (rows.recording.any t.nameTaken = true ∧ ∃ error, t.persist command = .error error) ∨
      (¬ rows.recording.any t.nameTaken = true ∧ t.persist command = .ok (t.insertRows rows)) := by
  obtain ⟨hRecording, ⟨legs, hLegs, hRows⟩, hCall⟩ := batchRows_parts h
  rw [CdrTables.insertRows, hRows]
  cases hSome : rows.recording with
  | none =>
      rw [hSome, CdrWriteCommand.recordingRow] at hRecording
      right
      refine ⟨by simp, ?_⟩
      rw [CdrTables.persist]
      cases hCommand : command.recording with
      | none =>
          simp only [hLegs, hCall]
          rfl
      | some record =>
          rw [hCommand] at hRecording
          cases hStatement : recordingUpsertStatement record with
          | error error => simp only [hStatement, Except.map, reduceCtorEq] at hRecording
          | ok built =>
              simp only [hStatement, Except.map, Except.ok.injEq, reduceCtorEq] at hRecording
  | some row =>
      rw [hSome] at hRecording
      obtain ⟨record, hCommand, hStatement⟩ := recordingRow_some hRecording
      rw [CdrTables.persist]
      simp only [hCommand, hStatement, hLegs, hCall, Document.bind_ok, CdrTables.upsertRecording,
        Option.any_some]
      by_cases hTaken : t.nameTaken row = true
      · left
        refine ⟨hTaken, "UNIQUE constraint failed: call_recording.recording_id", ?_⟩
        simp only [hTaken, if_true]
        rfl
      · right
        refine ⟨hTaken, ?_⟩
        simp only [hTaken, Bool.false_eq_true, if_false]
        rfl

end Statements

section Batches

variable {command other : CdrWriteCommand} {t u : CdrTables}

theorem persist_parts {t' : CdrTables} (h : t.persist command = .ok t') :
    ∃ recording legs call, command.recordingRow = .ok recording ∧
      command.legCdrs.mapM legCdrUpsertStatement = .ok legs ∧
      cdrUpsertStatement command.callCdr = .ok call := by
  rw [CdrTables.persist] at h
  cases hCommand : command.recording with
  | none =>
      simp only [hCommand] at h
      obtain ⟨_, _, h⟩ := ok_of_bind h
      obtain ⟨legs, hLegs, h⟩ := ok_of_bind h
      obtain ⟨call, hCall, _⟩ := ok_of_bind h
      refine ⟨none, legs, call, ?_, hLegs, hCall⟩
      rw [CdrWriteCommand.recordingRow, hCommand]
  | some record =>
      simp only [hCommand] at h
      obtain ⟨row, hRow, h⟩ := ok_of_bind h
      obtain ⟨_, _, h⟩ := ok_of_bind h
      obtain ⟨legs, hLegs, h⟩ := ok_of_bind h
      obtain ⟨call, hCall, _⟩ := ok_of_bind h
      refine ⟨some row, legs, call, ?_, hLegs, hCall⟩
      rw [CdrWriteCommand.recordingRow, hCommand]
      exact congrArg (Except.map some) hRow

/-- A transaction that is committed has built all its rows. -/
theorem batchRows_of_transact {db db' : DomainDatabase} (h : db.transact command = .ok db') :
    ∃ rows, command.batchRows = .ok rows := by
  rw [DomainDatabase.transact] at h
  obtain ⟨records, hRecords, h⟩ := ok_of_bind h
  obtain ⟨recording, legs, call, hRecording, hLegs, hCall⟩ := persist_parts hRecords
  refine ⟨{ recording, legs := legs.map fun leg => (leg.key, leg), call }, ?_⟩
  cases hTrace : command.callCdr.traceAvailable with
  | false =>
      rw [CdrWriteCommand.batchRows, hRecording, hLegs, hCall, hTrace]
      rfl
  | true =>
      rw [hTrace, if_pos rfl] at h
      obtain ⟨traces, hTraces, _⟩ := ok_of_bind h
      rw [TraceTables.completeTrace] at hTraces
      obtain ⟨endedAtMs, hEnded, _⟩ := ok_of_bind hTraces
      rw [CdrWriteCommand.batchRows, hRecording, hLegs, hCall, hTrace, hEnded]
      rfl

theorem transact_ok {rows : BatchRows} (h : command.batchRows = .ok rows) (db : DomainDatabase)
    (hFree : db.records.persist command = .ok (db.records.insertRows rows)) :
    ∃ db', db.transact command = .ok db' ∧ db'.records = db.records.insertRows rows := by
  rw [DomainDatabase.transact, hFree, Document.bind_ok]
  cases hTrace : command.callCdr.traceAvailable with
  | false => exact ⟨{ records := db.records.insertRows rows, traces := db.traces }, rfl, rfl⟩
  | true =>
      rw [CdrWriteCommand.batchRows] at h
      obtain ⟨_, _, h⟩ := ok_of_bind h
      obtain ⟨_, _, h⟩ := ok_of_bind h
      obtain ⟨_, _, h⟩ := ok_of_bind h
      rw [hTrace, if_pos rfl] at h
      obtain ⟨endedAtMs, hEnded, _⟩ := ok_of_bind h
      rw [if_pos rfl, TraceTables.completeTrace, hEnded, Document.bind_ok]
      exact ⟨_, rfl, rfl⟩

/-- What a batch does with the records of its domain. -/
def CdrWriteCommand.puts (command : CdrWriteCommand) (t : CdrTables) : CdrTables :=
  if command.mixesDomains then t
  else
    match command.batchRows with
    | .error _ => t
    | .ok rows => t.put rows

/-- The records that a batch leaves: its domain's database is opened first. -/
theorem records_persistCdrBatch (command : CdrWriteCommand) (db : DomainDatabase) :
    (db.persistCdrBatch command).2.records =
      if command.mixesDomains then db.records else command.puts db.records.ensureCdrSchema := by
  rw [DomainDatabase.persistCdrBatch, CdrWriteCommand.puts]
  split
  · rfl
  · cases hRows : command.batchRows with
    | error error =>
        cases hTransact : db.openDomainCdrDb.transact command with
        | ok db' =>
            obtain ⟨rows, hBuilt⟩ := batchRows_of_transact hTransact
            rw [hRows] at hBuilt
            cases hBuilt
        | error error =>
            simp only [hTransact]
            rfl
    | ok rows =>
        change _ = db.records.ensureCdrSchema.put rows
        rw [CdrTables.put]
        rcases persist_of_rows db.openDomainCdrDb.records hRows with ⟨hTaken, error, hError⟩ |
          ⟨hFree, hPersist⟩
        · have hTransact : db.openDomainCdrDb.transact command = .error error := by
            rw [DomainDatabase.transact, hError]
            rfl
          simp only [hTransact]
          exact (if_pos hTaken).symm
        · obtain ⟨db', hTransact, hRecords⟩ := transact_ok hRows db.openDomainCdrDb hPersist
          simp only [hTransact, hRecords]
          exact (if_neg hFree).symm

theorem CdrWriteCommand.puts_congr (hSame : u.ensureCdrSchema = t.ensureCdrSchema) :
    (command.puts u).ensureCdrSchema = (command.puts t).ensureCdrSchema := by
  rw [CdrWriteCommand.puts, CdrWriteCommand.puts]
  split
  · exact hSame
  · split
    · exact hSame
    · rw [← CdrTables.put_ensureCdrSchema, hSame, CdrTables.put_ensureCdrSchema]

theorem ensureCdrSchema_persistCdrBatch (command : CdrWriteCommand) (db : DomainDatabase) :
    (db.persistCdrBatch command).2.records.ensureCdrSchema =
      (command.puts db.records).ensureCdrSchema := by
  rw [records_persistCdrBatch]
  split
  · next hMixes => rw [CdrWriteCommand.puts, if_pos hMixes]
  · apply CdrWriteCommand.puts_congr
    exact CdrTables.ensureCdrSchema_ensureCdrSchema db.records

theorem lacksMode_of_batchRows {rows : BatchRows} (h : command.batchRows = .ok rows) :
    rows.call.lacksMode = command.callCdr.lacksMode :=
  lacksMode_cdrUpsertStatement (batchRows_parts h).2.2

/-- Once a batch of rows with modes has come, an opening finds nothing to fill in. -/
theorem filled_persistCdrBatch (hMixes : command.mixesDomains = false)
    (hMode : command.callCdr.lacksMode = false) (db : DomainDatabase) :
    (db.persistCdrBatch command).2.records.Filled := by
  rw [records_persistCdrBatch, hMixes, if_neg Bool.false_ne_true, CdrWriteCommand.puts, hMixes,
    if_neg Bool.false_ne_true]
  cases hRows : command.batchRows with
  | error error => exact CdrTables.filled_ensureCdrSchema db.records
  | ok rows =>
      apply (CdrTables.filled_ensureCdrSchema db.records).put
      rw [lacksMode_of_batchRows hRows]
      exact hMode

/-- A batch that would change nothing but modes. -/
def CdrWriteCommand.Stored (command : CdrWriteCommand) (t : CdrTables) : Prop :=
  (command.puts t).ensureCdrSchema = t.ensureCdrSchema

theorem CdrWriteCommand.stored_iff :
    command.Stored t ↔
      command.mixesDomains = true ∨
        ∀ rows, command.batchRows = .ok rows → CdrTables.Settled rows t := by
  rw [CdrWriteCommand.Stored, CdrWriteCommand.puts]
  split
  · next hMixes => exact ⟨fun _ => .inl hMixes, fun _ => rfl⟩
  · next hMixes =>
      cases hRows : command.batchRows with
      | error error =>
          constructor
          · intro _
            right
            intro rows hBuilt
            cases hBuilt
          · exact fun _ => rfl
      | ok rows =>
          constructor
          · intro h
            right
            intro others hOthers
            rw [← Except.ok.inj hOthers]
            exact h
          · intro h
            exact h.resolve_left hMixes rows rfl

theorem CdrWriteCommand.Stored.congr (h : command.Stored t)
    (hSame : u.ensureCdrSchema = t.ensureCdrSchema) : command.Stored u := by
  rw [CdrWriteCommand.stored_iff] at h ⊢
  exact h.imp_right fun hSettled rows hRows => (hSettled rows hRows).congr hSame

theorem CdrWriteCommand.stored_puts (command : CdrWriteCommand) (t : CdrTables) :
    command.Stored (command.puts t) := by
  rw [CdrWriteCommand.stored_iff, CdrWriteCommand.puts]
  split
  · next hMixes => exact .inl hMixes
  · right
    intro rows hRows
    rw [hRows]
    exact CdrTables.settled_put rows t

theorem CdrWriteCommand.Stored.puts (h : command.Stored t) (hCommand : command.ofOneCall)
    (hOther : other.ofOneCall) (hCalls : other.callCdr.callId ≠ command.callCdr.callId) :
    command.Stored (other.puts t) := by
  rw [CdrWriteCommand.puts]
  split
  · exact h
  · split
    · exact h
    · next others hOthers =>
        rw [CdrWriteCommand.stored_iff] at h ⊢
        apply h.imp_right
        intro hSettled rows hRows
        exact (hSettled rows hRows).put (batchRows_of hRows hCommand) (batchRows_of hOthers hOther)
          hCalls

end Batches

section Runs

variable {databases others : DomainDatabases} {command : CdrWriteCommand} {domainId : DomainId}

theorem DomainDatabases.persist_of_ne (h : domainId ≠ command.callCdr.domainId) :
    databases.persist command domainId = databases domainId := by
  rw [DomainDatabases.persist]
  exact Function.update_of_ne h ..

theorem DomainDatabases.records_persist (databases : DomainDatabases) (command : CdrWriteCommand) :
    (databases.persist command command.callCdr.domainId).records.ensureCdrSchema =
      (command.puts (databases command.callCdr.domainId).records).ensureCdrSchema := by
  rw [DomainDatabases.persist, Function.update_self]
  exact ensureCdrSchema_persistCdrBatch command (databases command.callCdr.domainId)

/-- Databases whose records are those of other ones, as their openings find them. -/
def DomainDatabases.Same (databases others : DomainDatabases) : Prop :=
  ∀ domainId, (databases domainId).records.ensureCdrSchema =
    (others domainId).records.ensureCdrSchema

theorem DomainDatabases.Same.persist (h : databases.Same others) (command : CdrWriteCommand) :
    (databases.persist command).Same (others.persist command) := by
  intro domainId
  by_cases hDomain : domainId = command.callCdr.domainId
  · subst hDomain
    rw [records_persist, records_persist]
    exact CdrWriteCommand.puts_congr (h command.callCdr.domainId)
  · rw [persist_of_ne hDomain, persist_of_ne hDomain]
    exact h domainId

/-- A command that is stored in the database of its domain. -/
def DomainDatabases.Holds (databases : DomainDatabases) (command : CdrWriteCommand) : Prop :=
  command.Stored (databases command.callCdr.domainId).records

theorem DomainDatabases.holds_persist (databases : DomainDatabases) (command : CdrWriteCommand) :
    (databases.persist command).Holds command :=
  (command.stored_puts (databases command.callCdr.domainId).records).congr
    (databases.records_persist command)

theorem DomainDatabases.Holds.same (h : databases.Holds command) (hSame : others.Same databases) :
    others.Holds command :=
  CdrWriteCommand.Stored.congr h (hSame command.callCdr.domainId)

/-- A command that is held is persisted in vain. -/
theorem DomainDatabases.Holds.persist_same (h : databases.Holds command) :
    (databases.persist command).Same databases := by
  intro domainId
  by_cases hDomain : domainId = command.callCdr.domainId
  · subst hDomain
    rw [records_persist]
    exact h
  · rw [persist_of_ne hDomain]

theorem DomainDatabases.Holds.persist {other : CdrWriteCommand} (h : databases.Holds command)
    (hCommand : command.ofOneCall) (hOther : other.ofOneCall)
    (hCalls : other.callCdr.callId ≠ command.callCdr.callId) :
    (databases.persist other).Holds command := by
  by_cases hDomain : command.callCdr.domainId = other.callCdr.domainId
  · have hStored := CdrWriteCommand.Stored.puts h hCommand hOther hCalls
    apply hStored.congr
    rw [hDomain]
    exact databases.records_persist other
  · rw [DomainDatabases.Holds, persist_of_ne hDomain]
    exact h

def CdrWriteCommand.callId (command : CdrWriteCommand) : String := command.callCdr.callId

/-- A persisted batch is absorbed, as the openings of the databases see it. -/
theorem absorbs_same : Absorbs DomainDatabases.persist CdrWriteCommand.ofOneCall
    CdrWriteCommand.callId DomainDatabases.Same (fun command databases => databases.Holds command)
    where
  step hSame := hSame.persist _
  back _ hHeld hSame domainId := (hHeld.persist_same domainId).trans (hSame domainId)
  made _ := DomainDatabases.holds_persist _ _
  kept hCommand hOther hHeld hCalls := hHeld.persist hCommand hOther hCalls
  idle _ _ hHeld hOther := hHeld.same hOther.persist_same

/-- Databases with the very records of other ones. -/
def DomainDatabases.SameRecords (databases others : DomainDatabases) : Prop :=
  ∀ domainId, (databases domainId).records = (others domainId).records

/-- A command that is held by a database in which no mode is lacking. -/
structure DomainDatabases.HoldsFilled (databases : DomainDatabases) (command : CdrWriteCommand) :
    Prop where
  held : databases.Holds command
  filled : command.mixesDomains = false →
    (databases command.callCdr.domainId).records.Filled

theorem DomainDatabases.SameRecords.persist (h : databases.SameRecords others)
    (command : CdrWriteCommand) :
    (databases.persist command).SameRecords (others.persist command) := by
  intro domainId
  by_cases hDomain : domainId = command.callCdr.domainId
  · subst hDomain
    rw [DomainDatabases.persist, DomainDatabases.persist, Function.update_self,
      Function.update_self, records_persistCdrBatch, records_persistCdrBatch, h]
  · rw [persist_of_ne hDomain, persist_of_ne hDomain]
    exact h domainId

theorem DomainDatabases.records_persist_of_mixes (hMixes : command.mixesDomains = true) :
    (databases.persist command).SameRecords databases := by
  intro domainId
  by_cases hDomain : domainId = command.callCdr.domainId
  · subst hDomain
    rw [DomainDatabases.persist, Function.update_self, records_persistCdrBatch, if_pos hMixes]
  · rw [persist_of_ne hDomain]

theorem DomainDatabases.filled_persist (databases : DomainDatabases)
    (hMixes : command.mixesDomains = false) (hMode : command.callCdr.lacksMode = false) :
    (databases.persist command command.callCdr.domainId).records.Filled := by
  rw [DomainDatabases.persist, Function.update_self]
  exact filled_persistCdrBatch hMixes hMode (databases command.callCdr.domainId)

theorem DomainDatabases.HoldsFilled.persist_same (h : databases.HoldsFilled command)
    (hMode : command.callCdr.lacksMode = false) :
    (databases.persist command).SameRecords databases := by
  cases hMixes : command.mixesDomains with
  | true => exact records_persist_of_mixes hMixes
  | false =>
      intro domainId
      by_cases hDomain : domainId = command.callCdr.domainId
      · subst hDomain
        calc (databases.persist command command.callCdr.domainId).records
          _ = (databases.persist command command.callCdr.domainId).records.ensureCdrSchema :=
              (databases.filled_persist hMixes hMode).symm
          _ = (databases command.callCdr.domainId).records.ensureCdrSchema :=
              h.held.persist_same command.callCdr.domainId
          _ = (databases command.callCdr.domainId).records := h.filled hMixes
      · rw [persist_of_ne hDomain]

/-- Where no mode is lacking, a batch leaves none lacking. -/
theorem DomainDatabases.HoldsFilled.filled_persist {other : CdrWriteCommand}
    (h : databases.HoldsFilled command) (hMode : other.callCdr.lacksMode = false)
    (hMixes : command.mixesDomains = false) :
    (databases.persist other command.callCdr.domainId).records.Filled := by
  cases hOther : other.mixesDomains with
  | true =>
      rw [records_persist_of_mixes hOther command.callCdr.domainId]
      exact h.filled hMixes
  | false =>
      by_cases hDomain : command.callCdr.domainId = other.callCdr.domainId
      · rw [hDomain]
        exact databases.filled_persist hOther hMode
      · rw [persist_of_ne hDomain]
        exact h.filled hMixes

/-- A persisted batch with its mode is absorbed without a trace. -/
theorem absorbs_sameRecords : Absorbs DomainDatabases.persist
    (fun command => command.ofOneCall ∧ command.callCdr.lacksMode = false)
    CdrWriteCommand.callId DomainDatabases.SameRecords
    (fun command databases => databases.HoldsFilled command) where
  step hSame := hSame.persist _
  back hCommand hHeld hSame domainId :=
    (hHeld.persist_same hCommand.2 domainId).trans (hSame domainId)
  made hCommand :=
    ⟨DomainDatabases.holds_persist _ _, fun hMixes =>
      DomainDatabases.filled_persist _ hMixes hCommand.2⟩
  kept hCommand hOther hHeld hCalls :=
    ⟨hHeld.held.persist hCommand.1 hOther.1 hCalls, hHeld.filled_persist hOther.2⟩
  idle _ hOther hHeld hHeldOther :=
    ⟨hHeld.held.same hHeldOther.held.persist_same, hHeld.filled_persist hOther.2⟩

/-- A spool that delivers batches again leaves the records that it would leave without: as the
next opening finds them, and exactly so where no record lacks its mode. -/
theorem replayed_records_eq {batches repeated : List CdrWriteCommand}
    (h : WithRepetitions [] batches repeated)
    (hCommands : ∀ command ∈ batches, command.ofOneCall)
    (hCalls : (batches.map CdrWriteCommand.callId).Nodup) (databases : DomainDatabases)
    (domainId : DomainId) :
    (repeated.foldl DomainDatabases.persist databases domainId).openDomainCdrDb.records =
        (batches.foldl DomainDatabases.persist databases domainId).openDomainCdrDb.records ∧
      ((∀ command ∈ batches, command.callCdr.lacksMode = false) →
        (repeated.foldl DomainDatabases.persist databases domainId).records =
          (batches.foldl DomainDatabases.persist databases domainId).records) := by
  constructor
  · apply absorbs_same.foldl h hCommands hCalls
    · exact fun _ => rfl
    · exact fun command hMem => (List.not_mem_nil hMem).elim
  · intro hModes
    apply absorbs_sameRecords.foldl h
    · exact fun command hMem => ⟨hCommands command hMem, hModes command hMem⟩
    · exact hCalls
    · exact fun _ => rfl
    · exact fun command hMem => (List.not_mem_nil hMem).elim

/-- A call that was answered before modes were recorded. -/
def answeredCommand (callId : String) : CdrWriteCommand :=
  { sampleCommand callId with callCdr := { sampleCdr callId with answered := true } }

def twoBatches : List CdrWriteCommand := [answeredCommand "call-1", sampleCommand "call-2"]

def firstAgain : List CdrWriteCommand := twoBatches ++ [answeredCommand "call-1"]

def noDatabases : DomainDatabases := fun _ => .empty

theorem firstAgain_repeats : WithRepetitions [] twoBatches firstAgain := by
  apply WithRepetitions.next
  apply WithRepetitions.next
  apply WithRepetitions.again
  · exact List.mem_cons_of_mem _ List.mem_cons_self
  · exact WithRepetitions.done _

theorem twoBatches_ofOneCall : ∀ command ∈ twoBatches, command.ofOneCall := by
  intro command hMem
  rcases List.mem_cons.mp hMem with rfl | hTail
  · exact ⟨fun leg hLeg => (List.not_mem_nil hLeg).elim, nofun⟩
  · rw [List.mem_singleton.mp hTail]
    exact ⟨fun leg hLeg => (List.not_mem_nil hLeg).elim, nofun⟩

/-- The openings find the same records although the first batch comes twice. -/
theorem replayed_records_eq_sample :
    (firstAgain.foldl DomainDatabases.persist noDatabases "domain-a").openDomainCdrDb.records =
      (twoBatches.foldl DomainDatabases.persist noDatabases "domain-a").openDomainCdrDb.records :=
  (replayed_records_eq firstAgain_repeats twoBatches_ofOneCall (by decide) noDatabases
    "domain-a").1

/-- The batch that comes again takes back the mode that the second batch's opening filled in. -/
theorem replayed_mode_lost :
    WithRepetitions [] twoBatches firstAgain ∧ (∀ command ∈ twoBatches, command.ofOneCall) ∧
      (twoBatches.map CdrWriteCommand.callId).Nodup ∧
      (firstAgain.foldl DomainDatabases.persist noDatabases "domain-a").records ≠
        (twoBatches.foldl DomainDatabases.persist noDatabases "domain-a").records := by
  refine ⟨firstAgain_repeats, twoBatches_ofOneCall, by decide, ?_⟩
  intro hSame
  have hRow := congrArg (fun t : CdrTables => (t.callCdr.get "call-1").map (·.mediaForwardingMode))
    hSame
  revert hRow
  decide

end Runs

end VoipSwitch
