import VoipSwitch.Store.Repetition
import VoipSwitch.Lib.Transition
import Mathlib.Data.Finset.Erase
import Mathlib.Data.Finset.Insert

/-! The writer of call traces: callers put messages and marks into a bounded queue, a thread takes
them to the databases, and the batch of a call ends its trace. -/
namespace VoipSwitch

open Keyed

def callTraceQueueCapacity : Nat := 4096

inductive CallTraceWriteCommand where
  | record (message : CallTraceMessage)
  | markIncomplete (callId : String) (domainId : DomainId)
  | complete (callId : String) (domainId : DomainId) (endedAtMs : UInt64) (incomplete : Bool)
deriving DecidableEq

section Statements

/-- `ON CONFLICT(call_id) DO UPDATE` of `insert_call_trace_message`. -/
def TraceCallRow.observe : Merge TraceCallRow where
  apply old excluded :=
    { old with
      domainId := excluded.domainId
      firstObservedAtMs := min old.firstObservedAtMs excluded.firstObservedAtMs }
  self row := by simp
  again old row := by simp

namespace TraceTables

/-- `insert_call_trace_message`; a message whose number is taken is ignored. -/
def insertMessage (message : CallTraceMessage) (t : TraceTables) : Except String TraceTables := do
  let observedAtMs ← asI64 message.observedAtMs
  let row : TraceCallRow :=
    { callId := message.callId, domainId := message.domainId, firstObservedAtMs := observedAtMs,
      endedAtMs := none, incomplete := 0 }
  let sequence ← asI64 message.sequence
  let key : String ×ₗ Int := toLex (message.callId, sequence)
  return {
    callTraceCall := t.callTraceCall.upsert TraceCallRow.observe message.callId row
    callTraceMessage :=
      if t.callTraceMessage.contains key then t.callTraceMessage
      else t.callTraceMessage.insert key message }

/-- `mark_call_trace_incomplete`, which does nothing to a call without a row. -/
def markIncomplete (callId : String) (t : TraceTables) : TraceTables :=
  match t.callTraceCall.get callId with
  | none => t
  | some row =>
      { t with callTraceCall := t.callTraceCall.insert callId { row with incomplete := 1 } }

/-- The tables after `complete_trace_statement`, before the retention. -/
def completed (callId domainId : String) (endedAtMs : Int) (incomplete : Bool) (t : TraceTables) :
    TraceTables :=
  let row : TraceCallRow :=
    { callId, domainId, firstObservedAtMs := endedAtMs, endedAtMs := some endedAtMs,
      incomplete := incomplete.toInt }
  { t with callTraceCall := t.callTraceCall.upsert TraceCallRow.complete callId row }

theorem completeTrace_eq (callId domainId : String) (endedAtMs : UInt64) (incomplete : Bool)
    (t : TraceTables) :
    t.completeTrace callId domainId endedAtMs incomplete =
      (asI64 endedAtMs).map fun endedAtMs =>
        (t.completed callId domainId endedAtMs incomplete).retain := by
  rw [completeTrace]
  cases asI64 endedAtMs with
  | error error => rfl
  | ok endedAtMs => rfl

end TraceTables

end Statements

/-- A transaction on the traces of a database, which is opened for it. -/
def DomainDatabase.accessTraces (f : TraceTables → Except String TraceTables)
    (db : DomainDatabase) : DomainDatabase :=
  let db := db.openDomainCdrDb
  match f db.traces with
  | .ok traces => { db with traces }
  | .error _ => db

/-- What is left of a call into the writer, between two points where others can run. -/
inductive TraceOp where
  | sendRecord (message : CallTraceMessage)
  | noteIncomplete (callId : String) (domainId : DomainId)
  | sendMarker (callId : String) (domainId : DomainId)
  | forget (callId : String)
  | takeIncomplete (callId : String) (domainId : DomainId) (endedAtMs : UInt64)
  | sendComplete (callId : String) (domainId : DomainId) (endedAtMs : UInt64) (incomplete : Bool)
deriving DecidableEq

/-- The writer and the databases, with the messages that were given to it before the end of their
calls, the calls that have ended since, and the messages that were dropped, refused, ignored or
deleted. -/
structure CallTraceWriter where
  queue : List CallTraceWriteCommand
  stopped : Bool
  incompleteCalls : Finset String
  trackedCalls : Finset String
  ops : List TraceOp
  databases : DomainDatabases
  given : List CallTraceMessage
  ended : List (DomainId × String)
  lost : List CallTraceMessage

inductive TraceAction where
  | record (message : CallTraceMessage)
  | markIncomplete (callId : String) (domainId : DomainId)
  | complete (callId : String) (domainId : DomainId) (endedAtMs : UInt64)
  | proceed (op : TraceOp)
  /-- The thread handles a command, and the database may fail. -/
  | write (fails : Bool)
  | stop
  | persist (command : CdrWriteCommand) (fails : Bool)

/-- Whether the batch is committed by a database with these records. -/
def CdrWriteCommand.commits (command : CdrWriteCommand) (t : CdrTables) : Bool :=
  !command.mixesDomains &&
    match command.batchRows with
    | .ok rows => !rows.recording.any t.nameTaken
    | .error _ => false

namespace CallTraceWriter

variable {s t : CallTraceWriter}

/-- The message is in its table, with its own packet and all else. -/
def stored (s : CallTraceWriter) (message : CallTraceMessage) : Bool :=
  match asI64 message.sequence with
  | .ok sequence =>
      (s.databases message.domainId).traces.callTraceMessage.get
        (toLex (message.callId, sequence)) = some message
  | .error _ => false

/-- The call has ended: it was completed, or its row says so. -/
def hasEnded (s : CallTraceWriter) (domainId : DomainId) (callId : String) : Bool :=
  s.ended.contains (domainId, callId) ||
    ((s.databases domainId).traces.callTraceCall.get callId).any (·.endedAtMs.isSome)

/-- `SyncSender::try_send`. -/
def trySend (command : CallTraceWriteCommand) (s : CallTraceWriter) : Option CallTraceWriter :=
  if s.stopped || callTraceQueueCapacity ≤ s.queue.length then none
  else some { s with queue := s.queue ++ [command] }

/-- The next part of a call into the writer. -/
def handle (op : TraceOp) (s : CallTraceWriter) : CallTraceWriter :=
  match op with
  | .sendRecord message =>
      match s.trySend (.record message) with
      | some s => s
      | none =>
          { s with
            ops := s.ops ++ [.noteIncomplete message.callId message.domainId]
            lost := message :: s.lost }
  | .noteIncomplete callId domainId =>
      { s with
        incompleteCalls := insert callId s.incompleteCalls
        ops := s.ops ++ [.sendMarker callId domainId] }
  | .sendMarker callId domainId => (s.trySend (.markIncomplete callId domainId)).getD s
  | .forget callId => { s with incompleteCalls := s.incompleteCalls.erase callId }
  | .takeIncomplete callId domainId endedAtMs =>
      { s with
        incompleteCalls := s.incompleteCalls.erase callId
        ops := s.ops ++
          [.sendComplete callId domainId endedAtMs (decide (callId ∈ s.incompleteCalls))] }
  | .sendComplete callId domainId endedAtMs incomplete =>
      (s.trySend (.complete callId domainId endedAtMs incomplete)).getD s

/-- The databases change; messages that were given and are deleted are lost. -/
def withDatabases (databases : DomainDatabases) (s : CallTraceWriter) : CallTraceWriter :=
  let after := { s with databases }
  { after with
    lost := s.given.filter (fun message => s.stored message && !after.stored message) ++ s.lost }

def access (domainId : DomainId) (f : TraceTables → Except String TraceTables)
    (s : CallTraceWriter) : CallTraceWriter :=
  s.withDatabases
    (Function.update s.databases domainId ((s.databases domainId).accessTraces f))

/-- A message that is not there after it was handled is lost. -/
def checkStored (message : CallTraceMessage) (s : CallTraceWriter) : CallTraceWriter :=
  if s.stored message then s else { s with lost := message :: s.lost }

/-- What the thread does with a command. -/
def execute (command : CallTraceWriteCommand) (fails : Bool) (s : CallTraceWriter) :
    CallTraceWriter :=
  match command with
  | .record message =>
      if fails then s.checkStored message
      else (s.access message.domainId (·.insertMessage message)).checkStored message
  | .markIncomplete callId domainId =>
      if fails then s else s.access domainId fun t => .ok (t.markIncomplete callId)
  | .complete callId domainId endedAtMs incomplete =>
      if fails then s else s.access domainId (·.completeTrace callId domainId endedAtMs incomplete)

def step (s : CallTraceWriter) : TraceAction → Option CallTraceWriter
  | .record message =>
      some { s with
        trackedCalls := insert message.callId s.trackedCalls
        ops := s.ops ++ [.sendRecord message]
        given :=
          if s.hasEnded message.domainId message.callId then s.given else message :: s.given }
  | .markIncomplete callId domainId =>
      some { s with ops := s.ops ++ [.noteIncomplete callId domainId] }
  | .complete callId domainId endedAtMs =>
      some { s with
        trackedCalls := s.trackedCalls.erase callId
        ops := s.ops ++
          [if callId ∈ s.trackedCalls then .takeIncomplete callId domainId endedAtMs
            else .forget callId]
        ended := (domainId, callId) :: s.ended }
  | .proceed op => if op ∈ s.ops then some (handle op { s with ops := s.ops.erase op }) else none
  | .write fails =>
      match s.stopped, s.queue with
      | false, command :: queue => some (execute command fails { s with queue })
      | _, _ => none
  | .stop => some { s with stopped := true }
  | .persist command fails =>
      if fails then some s
      else
        let domainId := command.callCdr.domainId
        let ends :=
          command.commits (s.databases domainId).records && command.callCdr.traceAvailable
        let s := s.withDatabases (s.databases.persist command)
        some { s with
          ended := if ends then (domainId, command.traceCallId) :: s.ended else s.ended }

def system : Transition.System CallTraceWriter TraceAction where
  init s := s.queue = [] ∧ s.incompleteCalls = ∅ ∧ s.trackedCalls = ∅ ∧ s.ops = [] ∧ s.given = [] ∧
    s.ended = [] ∧ s.lost = []
  next s action t := s.step action = some t

/-- The messages in the queue, and those that are about to be sent. -/
def waiting (s : CallTraceWriter) : List CallTraceMessage :=
  (s.queue.filterMap fun
    | .record message => some message
    | _ => none) ++
  s.ops.filterMap fun
    | .sendRecord message => some message
    | _ => none

/-- The call whose row a step ends without a mark of incompleteness, and the time of its end. -/
def ends (s : CallTraceWriter) : TraceAction → Option (DomainId × String × Int)
  | .write false =>
      match s.stopped, s.queue with
      | false, .complete callId domainId endedAtMs false :: _ =>
          (asI64 endedAtMs).toOption.map fun endedAtMs => (domainId, callId, endedAtMs)
      | _, _ => none
  | .persist command false =>
      let domainId := command.callCdr.domainId
      if command.commits (s.databases domainId).records && command.callCdr.traceAvailable then
        (asI64 command.traceEndedAtMs).toOption.map fun endedAtMs =>
          (domainId, command.traceCallId, endedAtMs)
      else none
  | _ => none

/-- A message that was given for the call is on its way still, or was lost. -/
def misses (s : CallTraceWriter) (domainId : DomainId) (callId : String) : Bool :=
  s.given.any fun message =>
    message.domainId = domainId && message.callId = callId &&
      (s.waiting.contains message || s.lost.contains message) && !s.stored message

end CallTraceWriter

/-- The retention deletes the trace of the call at once, a hundred other calls having ended
later. -/
def TraceTables.retires (callId domainId : String) (endedAtMs : Int) (t : TraceTables) : Bool :=
  decide (callId ∈ ((t.completed callId domainId endedAtMs false).ended.drop 100).map Prod.snd)

namespace CallTraceWriter

/-- A row that is ended has its mark, or is deleted, or no message of its call is missed. -/
def endsHonestly (s : CallTraceWriter) (action : TraceAction) : Bool :=
  match s.ends action with
  | none => true
  | some (domainId, callId, endedAtMs) =>
      let traces := (s.databases domainId).traces
      (traces.callTraceCall.get callId).any (0 < ·.incomplete) ||
        traces.retires callId domainId endedAtMs || !s.misses domainId callId

end CallTraceWriter

namespace TraceTables

variable {t u v : TraceTables} {callId : String}

/-- The call is shown as ended and complete. -/
def Shown (t : TraceTables) (callId : String) : Prop :=
  ∃ row, t.callTraceCall.get callId = some row ∧ row.endedAtMs.isSome = true ∧ row.incomplete = 0

/-- Only the calls of `ends` come to be shown, and the messages of shown calls are kept. -/
structure Keeps (ends : String → Prop) (t u : TraceTables) : Prop where
  shown : ∀ callId, u.Shown callId → ends callId ∨ t.Shown callId
  kept : ∀ callId, u.Shown callId → ∀ sequence message,
    t.callTraceMessage.get (toLex (callId, sequence)) = some message →
      u.callTraceMessage.get (toLex (callId, sequence)) = some message

theorem Keeps.refl (ends : String → Prop) (t : TraceTables) : Keeps ends t t :=
  ⟨fun _ hShown => .inr hShown, fun _ _ _ _ hGet => hGet⟩

theorem Keeps.trans {ends : String → Prop} (h : Keeps ends t u) (h' : Keeps (fun _ => False) u v) :
    Keeps ends t v := by
  have hBefore : ∀ callId, v.Shown callId → u.Shown callId := fun callId hShown =>
    (h'.shown callId hShown).resolve_left False.elim
  constructor
  · exact fun callId hShown => h.shown callId (hBefore callId hShown)
  · intro callId hShown sequence message hGet
    exact h'.kept callId hShown sequence message
      (h.kept callId (hBefore callId hShown) sequence message hGet)

/-- Calls of `ends` that are not shown after all. -/
theorem Keeps.narrow {ends : String → Prop} (h : Keeps ends t u)
    (hNot : ∀ callId, ends callId → ¬ u.Shown callId) : Keeps (fun _ => False) t u :=
  ⟨fun callId hShown => .inr ((h.shown callId hShown).resolve_left fun hEnds =>
    hNot callId hEnds hShown), h.kept⟩

/-- A message that is stored again or anew leaves the ends of the rows alone. The case split is on
the row of its call: there is none yet, or it gets another message. -/
theorem insertMessage_keeps {message : CallTraceMessage}
    (h : t.insertMessage message = .ok u) : Keeps (fun _ => False) t u := by
  rw [insertMessage] at h
  obtain ⟨observedAtMs, _, h⟩ := ok_of_bind h
  obtain ⟨sequence, _, h⟩ := ok_of_bind h
  rw [← Except.ok.inj h]
  constructor
  · rintro callId ⟨row, hRow, hEnded, hComplete⟩
    right
    by_cases hSame : message.callId = callId
    · subst hSame
      simp only [Table.get_upsert_self] at hRow
      cases hOld : t.callTraceCall.get message.callId with
      | none =>
          rw [hOld, Merge.onto] at hRow
          rw [← Option.some.inj hRow] at hEnded
          cases hEnded
      | some old =>
          rw [hOld, Merge.onto] at hRow
          rw [← Option.some.inj hRow] at hEnded hComplete
          exact ⟨old, hOld, hEnded, hComplete⟩
    · simp only [Table.get_upsert_of_ne hSame] at hRow
      exact ⟨row, hRow, hEnded, hComplete⟩
  · intro callId _ number other hGet
    simp only
    split
    · exact hGet
    · next hTaken =>
        rw [Table.get_insert_of_ne]
        · exact hGet
        · intro hSame
          apply hTaken
          rw [Table.contains_iff]
          exact ⟨other, hSame ▸ hGet⟩

/-- A mark hides a call; it never shows one. -/
theorem markIncomplete_keeps (callId : String) (t : TraceTables) :
    Keeps (fun _ => False) t (t.markIncomplete callId) := by
  rw [markIncomplete]
  split
  · exact .refl _ t
  · next old hOld =>
      refine ⟨?_, fun _ _ _ _ hGet => hGet⟩
      rintro other ⟨row, hRow, hEnded, hComplete⟩
      right
      by_cases hSame : callId = other
      · subst hSame
        simp only [Table.get_insert_self, Option.some.injEq] at hRow
        rw [← hRow] at hComplete
        cases hComplete
      · simp only [Table.get_insert_of_ne hSame] at hRow
        exact ⟨row, hRow, hEnded, hComplete⟩

theorem retain_keeps (t : TraceTables) : Keeps (fun _ => False) t t.retain := by
  constructor
  · rintro callId ⟨row, hRow, hEnded, hComplete⟩
    rw [retain] at hRow
    exact .inr ⟨row, (Table.get_retain_eq_some.mp hRow).1, hEnded, hComplete⟩
  · rintro callId ⟨row, hRow, _⟩ sequence message hGet
    rw [retain] at hRow ⊢
    exact Table.get_retain_eq_some.mpr ⟨hGet, (Table.get_retain_eq_some.mp hRow).2⟩

theorem completed_keeps (callId domainId : String) (endedAtMs : Int) (incomplete : Bool)
    (t : TraceTables) :
    Keeps (fun other => other = callId) t (t.completed callId domainId endedAtMs incomplete) := by
  refine ⟨?_, fun _ _ _ _ hGet => hGet⟩
  rintro other ⟨row, hRow, hEnded, hComplete⟩
  by_cases hSame : other = callId
  · exact .inl hSame
  · right
    rw [completed] at hRow
    simp only [Table.get_upsert_of_ne (Ne.symm hSame)] at hRow
    exact ⟨row, hRow, hEnded, hComplete⟩

/-- The row of a call that is completed. -/
theorem get_completed (callId domainId : String) (endedAtMs : Int) (incomplete : Bool)
    (t : TraceTables) :
    ∃ row, (t.completed callId domainId endedAtMs incomplete).callTraceCall.get callId = some row ∧
      row.endedAtMs = some endedAtMs ∧
      row.incomplete =
        max (((t.callTraceCall.get callId).map (·.incomplete)).getD 0) incomplete.toInt := by
  rw [completed]
  simp only [Table.get_upsert_self]
  cases t.callTraceCall.get callId with
  | none =>
      refine ⟨_, rfl, rfl, ?_⟩
      cases incomplete with
      | false => rfl
      | true => rfl
  | some old => exact ⟨_, rfl, rfl, rfl⟩

/-- Where the row has a mark, gets one or is deleted, completing shows nothing new. -/
theorem completed_retain_keeps {domainId : String} {endedAtMs : Int} {incomplete : Bool}
    (h : incomplete = true ∨ (t.callTraceCall.get callId).any (0 < ·.incomplete) = true ∨
      incomplete = false ∧ t.retires callId domainId endedAtMs = true) :
    Keeps (fun _ => False) t (t.completed callId domainId endedAtMs incomplete).retain := by
  apply ((completed_keeps callId domainId endedAtMs incomplete t).trans (retain_keeps _)).narrow
  rintro other rfl ⟨row, hRow, _, hComplete⟩
  rw [retain] at hRow
  obtain ⟨hRow, hRetained⟩ := Table.get_retain_eq_some.mp hRow
  obtain ⟨now, hNow, _, hIncomplete⟩ := get_completed other domainId endedAtMs incomplete t
  obtain rfl : now = row := Option.some.inj (hNow.symm.trans hRow)
  rw [hComplete] at hIncomplete
  rcases h with rfl | hMarked | ⟨rfl, hRetires⟩
  · have hOne : (1 : Int) ≤ 0 := by
      calc (1 : Int)
        _ ≤ max (((t.callTraceCall.get other).map (·.incomplete)).getD 0) 1 := le_max_right _ _
        _ = 0 := hIncomplete.symm
    exact absurd hOne (by decide)
  · obtain ⟨old, hOld, hPositive⟩ := (Option.any_eq_true ..).mp hMarked
    rw [decide_eq_true_eq] at hPositive
    rw [hOld] at hIncomplete
    have hAtMost : old.incomplete ≤ 0 := by
      calc old.incomplete
        _ ≤ max old.incomplete incomplete.toInt := le_max_left _ _
        _ = 0 := hIncomplete.symm
    exact absurd hPositive (not_lt.mpr hAtMost)
  · rw [retires, decide_eq_true_eq] at hRetires
    rw [decide_eq_true_eq] at hRetained
    exact hRetained hRetires

/-- Else the call is shown. -/
theorem shown_completed_retain {domainId : String} {endedAtMs : Int}
    (hUnmarked : (t.callTraceCall.get callId).any (0 < ·.incomplete) = false)
    (hRetires : t.retires callId domainId endedAtMs = false) :
    (t.completed callId domainId endedAtMs false).retain.Shown callId := by
  obtain ⟨row, hRow, hEnded, hIncomplete⟩ := get_completed callId domainId endedAtMs false t
  rw [retires, decide_eq_false_iff_not] at hRetires
  refine ⟨row, ?_, by rw [hEnded]; rfl, ?_⟩
  · rw [retain]
    exact Table.get_retain_eq_some.mpr ⟨hRow, decide_eq_true hRetires⟩
  · rw [hIncomplete]
    cases hOld : t.callTraceCall.get callId with
    | none => rfl
    | some old =>
        rw [hOld, Option.any_some, decide_eq_false_iff_not, not_lt] at hUnmarked
        exact max_eq_right hUnmarked

/-- Completing and retiring add no message. -/
theorem get_completed_retain {domainId : String} {endedAtMs : Int} {incomplete : Bool}
    {key : String ×ₗ Int} {message : CallTraceMessage}
    (h : (t.completed callId domainId endedAtMs incomplete).retain.callTraceMessage.get key =
      some message) : t.callTraceMessage.get key = some message := by
  rw [retain] at h
  exact (Table.get_retain_eq_some.mp h).1

end TraceTables

section Batches

variable {command : CdrWriteCommand}

theorem DomainDatabase.traces_accessTraces (f : TraceTables → Except String TraceTables)
    (db : DomainDatabase) :
    (db.accessTraces f).traces =
      match f db.traces with
      | .ok traces => traces
      | .error _ => db.traces := by
  rw [accessTraces]
  change (match f db.traces with
    | .ok traces => { db.openDomainCdrDb with traces }
    | .error _ => db.openDomainCdrDb).traces = _
  cases f db.traces with
  | error error => rfl
  | ok traces => rfl

/-- The traces that a transaction leaves. -/
theorem traces_of_transact {db db' : DomainDatabase} (h : db.transact command = .ok db') :
    if command.callCdr.traceAvailable then
      ∃ endedAtMs, asI64 command.traceEndedAtMs = .ok endedAtMs ∧
        db'.traces = (db.traces.completed command.traceCallId command.traceDomainId endedAtMs
          false).retain
    else db'.traces = db.traces := by
  rw [DomainDatabase.transact] at h
  obtain ⟨records, _, h⟩ := ok_of_bind h
  cases hTrace : command.callCdr.traceAvailable with
  | false =>
      rw [hTrace, if_neg Bool.false_ne_true] at h
      rw [if_neg Bool.false_ne_true, ← Except.ok.inj h]
  | true =>
      rw [hTrace, if_pos rfl] at h
      obtain ⟨traces, hTraces, h⟩ := ok_of_bind h
      rw [TraceTables.completeTrace_eq] at hTraces
      rw [if_pos rfl, ← Except.ok.inj h]
      cases hEnded : asI64 command.traceEndedAtMs with
      | error error =>
          rw [hEnded] at hTraces
          cases hTraces
      | ok endedAtMs =>
          rw [hEnded] at hTraces
          exact ⟨endedAtMs, rfl, (Except.ok.inj hTraces).symm⟩

/-- A batch is committed if its transaction can be. -/
theorem commits_iff (db : DomainDatabase) :
    command.commits db.records = true ↔
      command.mixesDomains = false ∧ ∃ db', db.openDomainCdrDb.transact command = .ok db' := by
  rw [CdrWriteCommand.commits, Bool.and_eq_true, Bool.not_eq_true']
  refine and_congr_right fun _ => ?_
  cases hRows : command.batchRows with
  | error error =>
      constructor
      · exact fun hFalse => absurd hFalse Bool.false_ne_true
      · rintro ⟨db', hTransact⟩
        obtain ⟨rows, hBuilt⟩ := batchRows_of_transact hTransact
        rw [hRows] at hBuilt
        cases hBuilt
  | ok rows =>
      rw [Bool.not_eq_true']
      rcases persist_of_rows db.openDomainCdrDb.records hRows with ⟨hTaken, error, hError⟩ |
        ⟨hFree, hPersist⟩
      · have hStill : rows.recording.any db.records.nameTaken = true := hTaken
        rw [hStill]
        constructor
        · exact fun hFalse => absurd hFalse.symm Bool.false_ne_true
        · rintro ⟨db', hTransact⟩
          rw [DomainDatabase.transact, hError] at hTransact
          cases hTransact
      · have hNot : rows.recording.any db.records.nameTaken = false := Bool.not_eq_true _ ▸ hFree
        obtain ⟨db', hTransact, _⟩ := transact_ok hRows db.openDomainCdrDb hPersist
        exact ⟨fun _ => ⟨db', hTransact⟩, fun _ => hNot⟩

/-- What a batch does with the traces of its domain. -/
theorem traces_persistCdrBatch (command : CdrWriteCommand) (db : DomainDatabase) :
    if command.commits db.records && command.callCdr.traceAvailable then
      ∃ endedAtMs, asI64 command.traceEndedAtMs = .ok endedAtMs ∧
        (db.persistCdrBatch command).2.traces =
          (db.traces.completed command.traceCallId command.callCdr.domainId endedAtMs
            false).retain
    else (db.persistCdrBatch command).2.traces = db.traces := by
  cases hCommits : command.commits db.records with
  | false =>
      rw [Bool.false_and, if_neg Bool.false_ne_true, DomainDatabase.persistCdrBatch]
      split
      · rfl
      · next hMixes =>
          cases hTransact : db.openDomainCdrDb.transact command with
          | error error =>
              simp only [hTransact]
              rfl
          | ok db' =>
              have hTrue := (commits_iff db).mpr ⟨Bool.not_eq_true _ ▸ hMixes, db', hTransact⟩
              rw [hCommits] at hTrue
              cases hTrue
  | true =>
      obtain ⟨hMixes, db', hTransact⟩ := (commits_iff db).mp hCommits
      have hTraces := traces_of_transact hTransact
      have hDomain : command.traceDomainId = command.callCdr.domainId := by
        rw [CdrWriteCommand.mixesDomains, Bool.or_eq_false_iff, Bool.or_eq_false_iff] at hMixes
        exact bne_eq_false_iff_eq.mp hMixes.1.1
      rw [hDomain] at hTraces
      rw [Bool.true_and, DomainDatabase.persistCdrBatch, hMixes, if_neg Bool.false_ne_true]
      simp only [hTransact]
      exact hTraces

end Batches

namespace CallTraceWriter

variable {s t : CallTraceWriter} {domainId other : DomainId} {message : CallTraceMessage}

/-- The message's call is shown as ended and complete. -/
def shows (s : CallTraceWriter) (message : CallTraceMessage) : Prop :=
  (s.databases message.domainId).traces.Shown message.callId

/-- The traces that are shown as complete are so. -/
def Faithful (s : CallTraceWriter) : Prop :=
  ∀ message ∈ s.given, s.shows message → s.stored message = true

/-- A message is there, on its way, or counted as lost. -/
def IsAccounted (s : CallTraceWriter) (message : CallTraceMessage) : Prop :=
  s.stored message = true ∨ message ∈ s.waiting ∨ message ∈ s.lost

def Accounted (s : CallTraceWriter) : Prop := ∀ message ∈ s.given, s.IsAccounted message

/-- A message waits as a command of the queue, or as the first half of a `record` that is still at
work. -/
theorem mem_waiting :
    message ∈ s.waiting ↔ .record message ∈ s.queue ∨ .sendRecord message ∈ s.ops := by
  rw [waiting, List.mem_append, List.mem_filterMap, List.mem_filterMap]
  refine or_congr ⟨?_, fun hMem => ⟨_, hMem, rfl⟩⟩ ⟨?_, fun hMem => ⟨_, hMem, rfl⟩⟩
  · rintro ⟨command, hMem, hCommand⟩
    split at hCommand
    · rw [← Option.some.inj hCommand]
      exact hMem
    · cases hCommand
  · rintro ⟨op, hMem, hOp⟩
    split at hOp
    · rw [← Option.some.inj hOp]
      exact hMem
    · cases hOp

theorem stored_congr (h : (t.databases message.domainId).traces =
    (s.databases message.domainId).traces) : t.stored message = s.stored message := by
  rw [stored, stored, h]

/-- A message counts as stored under its own key, and unchanged; another one with its sequence
number hides it. -/
theorem stored_iff : s.stored message = true ↔
    ∃ sequence, asI64 message.sequence = .ok sequence ∧
      (s.databases message.domainId).traces.callTraceMessage.get
        (toLex (message.callId, sequence)) = some message := by
  rw [stored]
  cases asI64 message.sequence with
  | error error =>
      constructor
      · exact fun hFalse => absurd hFalse Bool.false_ne_true
      · rintro ⟨sequence, hSequence, _⟩
        cases hSequence
  | ok sequence =>
      rw [decide_eq_true_eq]
      constructor
      · exact fun hGet => ⟨sequence, rfl, hGet⟩
      · rintro ⟨number, hNumber, hGet⟩
        rw [Except.ok.inj hNumber]
        exact hGet

section Access

theorem traces_access (f : TraceTables → Except String TraceTables) :
    ((s.access domainId f).databases domainId).traces =
      match f (s.databases domainId).traces with
      | .ok traces => traces
      | .error _ => (s.databases domainId).traces := by
  rw [access, withDatabases]
  simp only [Function.update_self]
  exact DomainDatabase.traces_accessTraces f (s.databases domainId)

theorem traces_access_of_ne {f : TraceTables → Except String TraceTables} (h : other ≠ domainId) :
    ((s.access domainId f).databases other).traces = (s.databases other).traces := by
  rw [access, withDatabases]
  simp only [Function.update_of_ne h]

/-- An access changes the tables of one domain, or fails and is rolled back. -/
theorem keeps_access {f : TraceTables → Except String TraceTables}
    (h : ∀ traces, f (s.databases domainId).traces = .ok traces →
      TraceTables.Keeps (fun _ => False) (s.databases domainId).traces traces) (other : DomainId) :
    TraceTables.Keeps (fun _ => False) (s.databases other).traces
      ((s.access domainId f).databases other).traces := by
  by_cases hSame : other = domainId
  · subst hSame
    rw [traces_access]
    cases hAccess : f (s.databases other).traces with
    | error error => exact .refl _ _
    | ok traces => exact h traces hAccess
  · rw [traces_access_of_ne hSame]
    exact .refl _ _

theorem databases_checkStored : (s.checkStored message).databases = s.databases := by
  rw [checkStored]
  split
  · rfl
  · rfl

theorem given_checkStored : (s.checkStored message).given = s.given := by
  rw [checkStored]
  split
  · rfl
  · rfl

theorem given_execute (command : CallTraceWriteCommand) (fails : Bool) :
    (s.execute command fails).given = s.given := by
  cases command with
  | record message =>
      rw [execute]
      split
      · exact given_checkStored
      · exact given_checkStored
  | markIncomplete callId domainId =>
      rw [execute]
      split
      · rfl
      · rfl
  | complete callId domainId endedAtMs incomplete =>
      rw [execute]
      split
      · rfl
      · rfl

theorem trySend_eq {command : CallTraceWriteCommand} (h : s.trySend command = some t) :
    t = { s with queue := s.queue ++ [command] } := by
  rw [trySend] at h
  split at h
  · cases h
  · exact (Option.some.inj h).symm

end Access

section Accounting

/-- Nothing that was waiting or lost is forgotten, and the databases stay. -/
structure Covers (s t : CallTraceWriter) : Prop where
  databases : t.databases = s.databases
  given : t.given = s.given
  covered : ∀ message, message ∈ s.waiting ∨ message ∈ s.lost →
    message ∈ t.waiting ∨ message ∈ t.lost

theorem Covers.isAccounted (h : Covers s t) (hMessage : s.IsAccounted message) :
    t.IsAccounted message := by
  rcases hMessage with hStored | hElse
  · left
    rw [stored_congr (s := s) (by rw [h.databases])]
    exact hStored
  · exact .inr (h.covered message hElse)

theorem Covers.of_sublists (hDatabases : t.databases = s.databases) (hGiven : t.given = s.given)
    (hQueue : ∀ message, .record message ∈ s.queue → .record message ∈ t.queue)
    (hOps : ∀ message, .sendRecord message ∈ s.ops → .sendRecord message ∈ t.ops)
    (hLost : ∀ message ∈ s.lost, message ∈ t.lost) : Covers s t := by
  refine ⟨hDatabases, hGiven, fun message hElse => ?_⟩
  refine hElse.imp (fun hWaiting => ?_) (hLost message)
  rw [mem_waiting] at hWaiting ⊢
  exact hWaiting.imp (hQueue message) (hOps message)

/-- What the queue does not take is where it was. -/
theorem covers_trySend (command : CallTraceWriteCommand) (s : CallTraceWriter) :
    Covers s ((s.trySend command).getD s) := by
  cases hSend : s.trySend command with
  | none => exact ⟨rfl, rfl, fun _ hElse => hElse⟩
  | some t =>
      rw [Option.getD_some, trySend_eq hSend]
      apply Covers.of_sublists
      · rfl
      · rfl
      · exact fun message hMem => List.mem_append_left _ hMem
      · exact fun message hMem => hMem
      · exact fun message hMem => hMem

theorem covers_ops (op : TraceOp) (calls : Finset String) (s : CallTraceWriter) :
    Covers s { s with incompleteCalls := calls, ops := s.ops ++ [op] } := by
  apply Covers.of_sublists
  · rfl
  · rfl
  · exact fun message hMem => hMem
  · exact fun message hMem => List.mem_append_left _ hMem
  · exact fun message hMem => hMem

/-- A part of a call sends its message, loses it, or has none. -/
theorem covers_handle {op : TraceOp} (hOp : op ∈ s.ops) :
    Covers s (handle op { s with ops := s.ops.erase op }) := by
  have hTaken : ∀ message, message ∈ s.waiting ∨ message ∈ s.lost →
      op = .sendRecord message ∨ message ∈ waiting { s with ops := s.ops.erase op } ∨
        message ∈ s.lost := by
    intro message hElse
    by_cases hOwn : op = .sendRecord message
    · exact .inl hOwn
    · refine .inr (hElse.imp_left fun hWaiting => ?_)
      rw [mem_waiting] at hWaiting ⊢
      exact hWaiting.imp_right fun hMem => (List.mem_erase_of_ne (Ne.symm hOwn)).mpr hMem
  have hOther : (∀ message, op ≠ .sendRecord message) → ∀ t,
      Covers { s with ops := s.ops.erase op } t → Covers s t := by
    intro hNot t hCovers
    refine ⟨hCovers.databases, hCovers.given, fun message hElse => ?_⟩
    exact hCovers.covered message ((hTaken message hElse).resolve_left (hNot message))
  cases op with
  | sendRecord sent =>
      rw [handle]
      cases hSend : trySend (.record sent) { s with ops := s.ops.erase (.sendRecord sent) } with
      | some t =>
          rw [trySend_eq hSend]
          refine ⟨rfl, rfl, fun message hElse => ?_⟩
          rcases hTaken message hElse with hOwn | hWaiting | hLost
          · left
            rw [mem_waiting, ← TraceOp.sendRecord.inj hOwn]
            exact .inl (List.mem_append_right _ (List.mem_singleton_self _))
          · left
            rw [mem_waiting] at hWaiting ⊢
            exact hWaiting.imp_left fun hMem => List.mem_append_left _ hMem
          · exact .inr hLost
      | none =>
          refine ⟨rfl, rfl, fun message hElse => ?_⟩
          rcases hTaken message hElse with hOwn | hWaiting | hLost
          · right
            rw [← TraceOp.sendRecord.inj hOwn]
            exact List.mem_cons_self
          · left
            rw [mem_waiting] at hWaiting ⊢
            exact hWaiting.imp_right fun hMem => List.mem_append_left _ hMem
          · exact .inr (List.mem_cons_of_mem _ hLost)
  | noteIncomplete callId domainId => exact hOther nofun _ (covers_ops _ _ _)
  | sendMarker callId domainId => exact hOther nofun _ (covers_trySend _ _)
  | forget callId => exact hOther nofun _ ⟨rfl, rfl, fun _ hElse => hElse⟩
  | takeIncomplete callId domainId endedAtMs => exact hOther nofun _ (covers_ops _ _ _)
  | sendComplete callId domainId endedAtMs incomplete => exact hOther nofun _ (covers_trySend _ _)

/-- A message that the databases lose with this step is put down as lost. -/
theorem IsAccounted.withDatabases (h : s.IsAccounted message) (hGiven : message ∈ s.given)
    (databases : DomainDatabases) : (s.withDatabases databases).IsAccounted message := by
  by_cases hAfter : (s.withDatabases databases).stored message = true
  · exact .inl hAfter
  · right
    rcases h with hStored | hWaiting | hLost
    · right
      apply List.mem_append_left
      rw [List.mem_filter, hStored, Bool.true_and, Bool.not_eq_true']
      exact ⟨hGiven, Bool.not_eq_true _ ▸ hAfter⟩
    · exact .inl hWaiting
    · exact .inr (List.mem_append_right _ hLost)

theorem IsAccounted.checkStored (h : s.IsAccounted message) (checked : CallTraceMessage) :
    (s.checkStored checked).IsAccounted message := by
  rw [CallTraceWriter.checkStored]
  split
  · exact h
  · exact h.imp_right fun hElse => hElse.imp_right fun hLost => List.mem_cons_of_mem _ hLost

theorem isAccounted_checkStored (s : CallTraceWriter) (message : CallTraceMessage) :
    (s.checkStored message).IsAccounted message := by
  rw [CallTraceWriter.checkStored]
  split
  · next hStored => exact .inl hStored
  · exact .inr (.inr List.mem_cons_self)

/-- The command that is taken from the queue stores its message, loses it, or has none. -/
theorem Accounted.execute {command : CallTraceWriteCommand} {queue : List CallTraceWriteCommand}
    (h : s.Accounted) (hQueue : s.queue = command :: queue) (fails : Bool) :
    (execute command fails { s with queue }).Accounted := by
  intro message hGiven
  rw [given_execute] at hGiven
  have hTaken : command = .record message ∨ IsAccounted { s with queue } message := by
    rcases h message hGiven with hStored | hWaiting | hLost
    · exact .inr (.inl hStored)
    · rw [mem_waiting, hQueue, List.mem_cons] at hWaiting
      rcases hWaiting with (hOwn | hQueued) | hOps
      · exact .inl hOwn.symm
      · exact .inr (.inr (.inl (mem_waiting.mpr (.inl hQueued))))
      · exact .inr (.inr (.inl (mem_waiting.mpr (.inr hOps))))
    · exact .inr (.inr (.inr hLost))
  cases command with
  | record handled =>
      rw [CallTraceWriter.execute]
      rcases hTaken with hOwn | hElse
      · rw [CallTraceWriteCommand.record.inj hOwn]
        split
        · exact isAccounted_checkStored _ message
        · exact isAccounted_checkStored _ message
      · split
        · exact hElse.checkStored handled
        · exact (hElse.withDatabases hGiven _).checkStored handled
  | markIncomplete callId domainId =>
      have hElse := hTaken.resolve_left nofun
      rw [CallTraceWriter.execute]
      split
      · exact hElse
      · exact hElse.withDatabases hGiven _
  | complete callId domainId endedAtMs incomplete =>
      have hElse := hTaken.resolve_left nofun
      rw [CallTraceWriter.execute]
      split
      · exact hElse
      · exact hElse.withDatabases hGiven _

/-- Every message is stored, waiting or lost after a step if it was before. The sends and the
writes carry the argument: a message goes from one place to the next, or is noted as lost. -/
theorem Accounted.step {action : TraceAction} (h : s.Accounted) (hStep : s.step action = some t) :
    t.Accounted := by
  cases action with
  | record recorded =>
      rw [← Option.some.inj hStep]
      intro message hGiven
      have hNew : message ∈ s.given ∨ message = recorded := by
        simp only at hGiven
        split at hGiven
        · exact .inl hGiven
        · exact (List.mem_cons.mp hGiven).symm
      rcases hNew with hBefore | rfl
      · rcases h message hBefore with hStored | hWaiting | hLost
        · exact .inl hStored
        · right
          left
          rw [mem_waiting] at hWaiting ⊢
          exact hWaiting.imp_right fun hMem => List.mem_append_left _ hMem
        · exact .inr (.inr hLost)
      · right
        left
        rw [mem_waiting]
        exact .inr (List.mem_append_right _ (List.mem_singleton_self _))
  | markIncomplete callId domainId =>
      rw [← Option.some.inj hStep]
      exact fun message hGiven => (covers_ops _ _ s).isAccounted (h message hGiven)
  | complete callId domainId endedAtMs =>
      rw [← Option.some.inj hStep]
      intro message hGiven
      exact ((covers_ops _ s.incompleteCalls s).isAccounted (h message hGiven)).imp_right id
  | proceed op =>
      rw [CallTraceWriter.step] at hStep
      split at hStep
      · next hOp =>
          rw [← Option.some.inj hStep]
          have hCovers := covers_handle hOp
          intro message hGiven
          rw [hCovers.given] at hGiven
          exact hCovers.isAccounted (h message hGiven)
      · cases hStep
  | write fails =>
      rw [CallTraceWriter.step] at hStep
      split at hStep
      · next command queue _ hQueue =>
          rw [← Option.some.inj hStep]
          exact h.execute hQueue fails
      · cases hStep
  | stop =>
      rw [← Option.some.inj hStep]
      exact h
  | persist command fails =>
      rw [CallTraceWriter.step] at hStep
      split at hStep
      · rw [← Option.some.inj hStep]
        exact h
      · rw [← Option.some.inj hStep]
        exact fun message hGiven => (h message hGiven).withDatabases hGiven _

end Accounting

section Endings

/-- A row that the step ends is marked as incomplete already, or the retention deletes it at once.
Such an end shows nothing. -/
def EndsUnseen (s : CallTraceWriter) (action : TraceAction) : Prop :=
  ∀ domainId callId endedAtMs, s.ends action = some (domainId, callId, endedAtMs) →
    ((s.databases domainId).traces.callTraceCall.get callId).any (0 < ·.incomplete) = true ∨
      (s.databases domainId).traces.retires callId domainId endedAtMs = true

theorem EndsUnseen.completed {action : TraceAction} {callId : String} {endedAtMs : Int}
    (h : s.EndsUnseen action) (hOwn : s.ends action = some (domainId, callId, endedAtMs)) :
    TraceTables.Keeps (fun _ => False) (s.databases domainId).traces
      ((s.databases domainId).traces.completed callId domainId endedAtMs false).retain := by
  apply TraceTables.completed_retain_keeps
  exact .inr ((h _ _ _ hOwn).imp_right fun hRetires => ⟨rfl, hRetires⟩)

/-- The completion is the one command of the queue that can end a row. -/
theorem EndsUnseen.execute {command : CallTraceWriteCommand} {queue : List CallTraceWriteCommand}
    {fails : Bool} (h : s.EndsUnseen (.write fails)) (hStopped : s.stopped = false)
    (hQueue : s.queue = command :: queue) (other : DomainId) :
    TraceTables.Keeps (fun _ => False) (s.databases other).traces
      ((execute command fails { s with queue }).databases other).traces := by
  cases command with
  | record message =>
      rw [CallTraceWriter.execute]
      split
      · rw [databases_checkStored]
        exact .refl _ _
      · rw [databases_checkStored]
        exact keeps_access (fun traces hInsert => TraceTables.insertMessage_keeps hInsert) other
  | markIncomplete callId domainId =>
      rw [CallTraceWriter.execute]
      split
      · exact .refl _ _
      · apply keeps_access
        intro traces hMark
        rw [← Except.ok.inj hMark]
        exact TraceTables.markIncomplete_keeps callId _
  | complete callId domainId endedAtMs incomplete =>
      rw [CallTraceWriter.execute]
      cases fails with
      | true => exact .refl _ _
      | false =>
          apply keeps_access
          intro traces hComplete
          simp only [TraceTables.completeTrace_eq] at hComplete
          cases hEnded : asI64 endedAtMs with
          | error error =>
              rw [hEnded] at hComplete
              cases hComplete
          | ok ended =>
              rw [hEnded] at hComplete
              rw [← Except.ok.inj hComplete]
              cases incomplete with
              | true => exact TraceTables.completed_retain_keeps (.inl rfl)
              | false =>
                  apply h.completed
                  rw [ends, hStopped, hQueue]
                  simp only [hEnded]
                  rfl

theorem EndsUnseen.persist {command : CdrWriteCommand} (h : s.EndsUnseen (.persist command false))
    (other : DomainId) :
    TraceTables.Keeps (fun _ => False) (s.databases other).traces
      (s.databases.persist command other).traces := by
  by_cases hDomain : other = command.callCdr.domainId
  · subst hDomain
    simp only [DomainDatabases.persist, Function.update_self]
    have hTraces := traces_persistCdrBatch command (s.databases command.callCdr.domainId)
    split at hTraces
    · next hCommits =>
        obtain ⟨ended, hEnded, hAfter⟩ := hTraces
        rw [hAfter]
        apply h.completed
        rw [ends]
        simp only [hCommits, if_true, hEnded]
        rfl
    · rw [hTraces]
      exact .refl _ _
  · rw [DomainDatabases.persist_of_ne hDomain]
    exact .refl _ _

/-- A step that ends no row unmarked shows nothing new. -/
theorem EndsUnseen.keeps {action : TraceAction} (h : s.EndsUnseen action)
    (hStep : s.step action = some t) (other : DomainId) :
    TraceTables.Keeps (fun _ => False) (s.databases other).traces (t.databases other).traces := by
  cases action with
  | record message | markIncomplete callId domainId | complete callId domainId endedAtMs | stop =>
      rw [← Option.some.inj hStep]
      exact .refl _ _
  | proceed op =>
      rw [CallTraceWriter.step] at hStep
      split at hStep
      · next hOp =>
          rw [← Option.some.inj hStep, (covers_handle hOp).databases]
          exact .refl _ _
      · cases hStep
  | write fails =>
      rw [CallTraceWriter.step] at hStep
      split at hStep
      · next hStopped hQueue =>
          rw [← Option.some.inj hStep]
          exact h.execute hStopped hQueue other
      · cases hStep
  | persist command fails =>
      cases fails with
      | true =>
          rw [← Option.some.inj hStep]
          exact .refl _ _
      | false =>
          rw [← Option.some.inj hStep]
          exact h.persist other

/-- A step that ends a row completes it, and touches no other domain. -/
theorem traces_of_ends {action : TraceAction} {callId : String} {endedAtMs : Int}
    (hEnds : s.ends action = some (domainId, callId, endedAtMs)) (hStep : s.step action = some t) :
    t.given = s.given ∧
      (t.databases domainId).traces =
        ((s.databases domainId).traces.completed callId domainId endedAtMs false).retain ∧
      ∀ other, other ≠ domainId → (t.databases other).traces = (s.databases other).traces := by
  cases action with
  | record message => cases hEnds
  | markIncomplete callId domainId => cases hEnds
  | complete callId domainId endedAtMs => cases hEnds
  | proceed op => cases hEnds
  | stop => cases hEnds
  | write fails =>
      cases fails with
      | true => cases hEnds
      | false =>
          rw [CallTraceWriter.ends] at hEnds
          split at hEnds
          · next completed domain ended _ hStopped hQueue =>
              cases hConverted : asI64 ended with
              | error error =>
                  rw [hConverted] at hEnds
                  cases hEnds
              | ok converted =>
                  rw [hConverted] at hEnds
                  obtain ⟨rfl, rfl, rfl⟩ : domain = domainId ∧ completed = callId ∧
                      converted = endedAtMs := by
                    simpa [Except.toOption] using hEnds
                  rw [CallTraceWriter.step, hStopped, hQueue] at hStep
                  simp only [Option.some.injEq] at hStep
                  rw [← hStep]
                  refine ⟨rfl, ?_, fun other hOther => ?_⟩
                  · rw [execute, if_neg Bool.false_ne_true, traces_access]
                    simp only [TraceTables.completeTrace_eq, hConverted, Except.map]
                  · rw [execute, if_neg Bool.false_ne_true, traces_access_of_ne hOther]
          · cases hEnds
  | persist command fails =>
      cases fails with
      | true => cases hEnds
      | false =>
          rw [CallTraceWriter.ends] at hEnds
          split at hEnds
          · next hCommits =>
              cases hConverted : asI64 command.traceEndedAtMs with
              | error error =>
                  rw [hConverted] at hEnds
                  cases hEnds
              | ok converted =>
                  rw [hConverted] at hEnds
                  obtain ⟨rfl, rfl, rfl⟩ : command.callCdr.domainId = domainId ∧
                      command.traceCallId = callId ∧ converted = endedAtMs := by
                    simpa [Except.toOption] using hEnds
                  rw [← Option.some.inj hStep]
                  refine ⟨rfl, ?_, fun other hOther => ?_⟩
                  · have hTraces := traces_persistCdrBatch command
                      (s.databases command.callCdr.domainId)
                    rw [if_pos hCommits] at hTraces
                    obtain ⟨ended, hEnded, hAfter⟩ := hTraces
                    rw [hConverted] at hEnded
                    simp only [withDatabases, DomainDatabases.persist, Function.update_self,
                      hAfter, Except.ok.inj hEnded]
                  · simp only [withDatabases, DomainDatabases.persist_of_ne hOther]
          · cases hEnds

theorem hasEnded_of_shows (h : s.shows message) :
    s.hasEnded message.domainId message.callId = true := by
  obtain ⟨row, hRow, hEnded, _⟩ := h
  rw [hasEnded, hRow, Option.any_some, hEnded, Bool.or_true]

/-- No message is given to a call that is shown already. -/
theorem given_step {action : TraceAction} (hStep : s.step action = some t)
    (hGiven : message ∈ t.given) (hShows : s.shows message) : message ∈ s.given := by
  cases action with
  | record recorded =>
      rw [← Option.some.inj hStep] at hGiven
      simp only at hGiven
      split at hGiven
      · exact hGiven
      · next hNot =>
          rcases List.mem_cons.mp hGiven with rfl | hBefore
          · exact absurd (hasEnded_of_shows hShows) hNot
          · exact hBefore
  | markIncomplete callId domainId =>
      rw [← Option.some.inj hStep] at hGiven
      exact hGiven
  | complete callId domainId endedAtMs =>
      rw [← Option.some.inj hStep] at hGiven
      exact hGiven
  | proceed op =>
      rw [CallTraceWriter.step] at hStep
      split at hStep
      · next hOp =>
          rw [← Option.some.inj hStep, (covers_handle hOp).given] at hGiven
          exact hGiven
      · cases hStep
  | write fails =>
      rw [CallTraceWriter.step] at hStep
      split at hStep
      · rw [← Option.some.inj hStep, given_execute] at hGiven
        exact hGiven
      · cases hStep
  | stop =>
      rw [← Option.some.inj hStep] at hGiven
      exact hGiven
  | persist command fails =>
      rw [CallTraceWriter.step] at hStep
      split at hStep
      · rw [← Option.some.inj hStep] at hGiven
        exact hGiven
      · rw [← Option.some.inj hStep] at hGiven
        exact hGiven

theorem stored_of_keeps {ends : String → Prop}
    (h : TraceTables.Keeps ends (s.databases message.domainId).traces
      (t.databases message.domainId).traces) (hShows : t.shows message)
    (hStored : s.stored message = true) : t.stored message = true := by
  rw [stored_iff] at hStored ⊢
  obtain ⟨sequence, hSequence, hGet⟩ := hStored
  exact ⟨sequence, hSequence, h.kept message.callId hShows sequence message hGet⟩

/-- Where nothing new is shown, what is shown stays complete. -/
theorem Faithful.of_keeps {action : TraceAction} (h : s.Faithful) (hStep : s.step action = some t)
    (hKeeps : ∀ domainId, TraceTables.Keeps (fun _ => False) (s.databases domainId).traces
      (t.databases domainId).traces) : t.Faithful := by
  intro message hGiven hShows
  have hBefore : s.shows message :=
    ((hKeeps message.domainId).shown message.callId hShows).resolve_left False.elim
  exact stored_of_keeps (hKeeps message.domainId) hShows
    (h message (given_step hStep hGiven hBefore) hBefore)

/-- A call that misses nothing has all its messages stored. -/
theorem stored_of_misses (hAccounted : s.Accounted) {callId : String}
    (h : s.misses domainId callId = false) (hGiven : message ∈ s.given)
    (hDomain : message.domainId = domainId) (hCall : message.callId = callId) :
    s.stored message = true := by
  by_contra hNot
  have hMissed : s.misses domainId callId = true := by
    rw [misses, List.any_eq_true]
    refine ⟨message, hGiven, ?_⟩
    have hElse := (hAccounted message hGiven).resolve_left hNot
    simp only [hDomain, hCall, decide_true, Bool.true_and, Bool.and_eq_true, Bool.or_eq_true,
      List.contains_iff_mem, Bool.not_eq_true']
    exact ⟨hElse, Bool.not_eq_true _ ▸ hNot⟩
  rw [h] at hMissed
  cases hMissed

/-- A row that is ended is right exactly if it is ended honestly. -/
theorem Faithful.step_iff {action : TraceAction} (h : s.Faithful) (hAccounted : s.Accounted)
    (hStep : s.step action = some t) : t.Faithful ↔ s.endsHonestly action = true := by
  cases hEnds : s.ends action with
  | none =>
      rw [endsHonestly, hEnds]
      have hUnseen : s.EndsUnseen action := by
        intro domainId callId endedAtMs hOwn
        rw [hEnds] at hOwn
        cases hOwn
      exact ⟨fun _ => rfl, fun _ => h.of_keeps hStep (hUnseen.keeps hStep)⟩
  | some ending =>
      obtain ⟨domainId, callId, endedAtMs⟩ := ending
      rw [endsHonestly, hEnds]
      simp only [Bool.or_eq_true, Bool.not_eq_true']
      obtain ⟨hGivenSame, hOwn, hOthers⟩ := traces_of_ends hEnds hStep
      constructor
      · intro hAfter
        by_contra hNot
        rw [not_or, not_or, Bool.not_eq_true, Bool.not_eq_true, Bool.not_eq_false] at hNot
        obtain ⟨⟨hUnmarked, hRetires⟩, hMisses⟩ := hNot
        -- The row is shown now, and a message of its call that was missed is still missed.
        rw [misses, List.any_eq_true] at hMisses
        obtain ⟨message, hGiven, hMissed⟩ := hMisses
        simp only [Bool.and_eq_true, decide_eq_true_eq, Bool.not_eq_true'] at hMissed
        obtain ⟨⟨⟨hDomain, hCall⟩, _⟩, hUnstored⟩ := hMissed
        have hShown := TraceTables.shown_completed_retain hUnmarked hRetires
        rw [← hOwn, ← hDomain, ← hCall] at hShown
        have hStored := hAfter message (hGivenSame ▸ hGiven) hShown
        rw [stored_iff, hDomain, hOwn] at hStored
        obtain ⟨sequence, hSequence, hGet⟩ := hStored
        have hBefore : s.stored message = true := by
          rw [stored_iff, hDomain]
          exact ⟨sequence, hSequence, TraceTables.get_completed_retain hGet⟩
        rw [hUnstored] at hBefore
        cases hBefore
      · rintro (hMarked | hMisses)
        · have hUnseen : s.EndsUnseen action := by
            intro _ _ _ hOwn
            rw [hEnds] at hOwn
            cases hOwn
            exact hMarked
          exact h.of_keeps hStep (hUnseen.keeps hStep)
        · intro message hGiven hShows
          rw [hGivenSame] at hGiven
          by_cases hDomain : message.domainId = domainId
          · have hKeeps := (TraceTables.completed_keeps callId domainId endedAtMs false
              (s.databases domainId).traces).trans (TraceTables.retain_keeps _)
            rw [← hOwn, ← hDomain] at hKeeps
            apply stored_of_keeps hKeeps hShows
            rcases hKeeps.shown message.callId hShows with hCall | hBefore
            · exact stored_of_misses hAccounted hMisses hGiven hDomain hCall
            · exact h message hGiven hBefore
          · have hSame := hOthers message.domainId hDomain
            rw [stored_congr hSame]
            rw [shows, hSame] at hShows
            exact h message hGiven hShows

end Endings

theorem accounted_of_reachable {C : CallTraceWriter → TraceAction → Prop}
    (h : Transition.ReachableWithin system C s) : s.Accounted := by
  apply h.invariant
  · rintro s ⟨_, _, _, _, hGiven, _⟩ message hMem
    rw [hGiven] at hMem
    exact (List.not_mem_nil hMem).elim
  · exact fun s action t hAccounted _ hStep => hAccounted.step hStep

/-- While rows are ended honestly, what is shown as a complete trace is one; and the first row that
is not ended so is shown wrongly. -/
theorem faithful_of_honest
    (h : Transition.ReachableWithin system (fun s action => s.endsHonestly action = true) s) :
    s.Faithful ∧ ∀ action t, s.step action = some t →
      (t.Faithful ↔ s.endsHonestly action = true) := by
  have hBoth : s.Faithful ∧ s.Accounted := by
    apply h.invariant
    · rintro s ⟨_, _, _, _, hGiven, _⟩
      constructor
      · intro message hMem
        rw [hGiven] at hMem
        exact (List.not_mem_nil hMem).elim
      · intro message hMem
        rw [hGiven] at hMem
        exact (List.not_mem_nil hMem).elim
    · intro s action t ⟨hFaithful, hAccounted⟩ hHonest hStep
      exact ⟨(hFaithful.step_iff hAccounted hStep).mpr hHonest, hAccounted.step hStep⟩
  exact ⟨hBoth.1, fun action t hStep => hBoth.1.step_iff hBoth.2 hStep⟩

section Samples

def idleWriter : CallTraceWriter where
  queue := []
  stopped := false
  incompleteCalls := ∅
  trackedCalls := ∅
  ops := []
  databases _ := .empty
  given := []
  ended := []
  lost := []

theorem idleWriter_init : system.init idleWriter := ⟨rfl, rfl, rfl, rfl, rfl, rfl, rfl⟩

/-- A message about the AI agent, numbered by the time in milliseconds. -/
def agentMessage (packet : String) : CallTraceMessage where
  callId := "call-1"
  domainId := "domain-a"
  sequence := 1000
  observedAtMs := 1000
  direction := "ai-agent"
  adapterCallLegId := "42"
  sessionId := none
  sourceAddr := none
  destinationAddr := none
  startLine := "AI event"
  packet

def tracedCommand : CdrWriteCommand :=
  { sampleCommand "call-1" with callCdr := { sampleCdr "call-1" with traceAvailable := true } }

/-- Messages are recorded one after the other, and the call ends. -/
def recordAll (packets : List String) : List TraceAction :=
  (packets.flatMap fun packet =>
    [.record (agentMessage packet), .proceed (.sendRecord (agentMessage packet)), .write false]) ++
    [.persist tracedCommand false]

def showsComplete (s : CallTraceWriter) (message : CallTraceMessage) : Bool :=
  ((s.databases message.domainId).traces.callTraceCall.get message.callId).any fun row =>
    row.endedAtMs.isSome && row.incomplete = 0

theorem shows_of_showsComplete {message : CallTraceMessage} (h : s.showsComplete message = true) :
    s.shows message := by
  obtain ⟨row, hRow, hShown⟩ := (Option.any_eq_true ..).mp h
  rw [Bool.and_eq_true, decide_eq_true_eq] at hShown
  exact ⟨row, hRow, hShown⟩

/-- The trace of one message is shown, and it is there. -/
theorem faithful_of_honest_sample :
    ∃ s : CallTraceWriter, s.Faithful ∧ ∃ message ∈ s.given, s.shows message := by
  have hRun : ((recordAll ["started"]).foldlM
      (fun s action => if endsHonestly s action then step s action else none) idleWriter).any
      (fun s => s.given.any s.showsComplete) = true := by
    decide
  obtain ⟨s, hEnd, hCheck⟩ := (Option.any_eq_true ..).mp hRun
  have hReached : Transition.ReachableWithin system
      (fun s action => s.endsHonestly action = true) s := by
    refine ⟨idleWriter, idleWriter_init, Transition.runsWithin_of_foldlM ?_ hEnd⟩
    intro s action t hStep
    split at hStep
    · next hHonest => exact ⟨hHonest, hStep⟩
    · cases hStep
  obtain ⟨message, hGiven, hShows⟩ := List.any_eq_true.mp hCheck
  exact ⟨s, (faithful_of_honest hReached).1, message, hGiven, shows_of_showsComplete hShows⟩

/-- Of two messages in one millisecond the second is ignored, and no mark is made. -/
theorem colliding_message_missed :
    ∃ s, Transition.Reachable system s ∧ ¬ s.Faithful := by
  have hRun : ((recordAll ["started", "stopped"]).foldlM step idleWriter).any
      (fun s => s.given.any fun message => s.showsComplete message && !s.stored message) =
        true := by
    decide
  obtain ⟨s, hEnd, hCheck⟩ := (Option.any_eq_true ..).mp hRun
  obtain ⟨message, hGiven, hMissed⟩ := List.any_eq_true.mp hCheck
  rw [Bool.and_eq_true, Bool.not_eq_true'] at hMissed
  refine ⟨s, ⟨idleWriter, idleWriter_init, Transition.runsWithin_of_foldlM ?_ hEnd⟩, ?_⟩
  · exact fun _ _ _ hStep => ⟨trivial, hStep⟩
  · intro hFaithful
    have hStored := hFaithful message hGiven (shows_of_showsComplete hMissed.1)
    rw [hMissed.2] at hStored
    cases hStored

end Samples

end CallTraceWriter

end VoipSwitch
