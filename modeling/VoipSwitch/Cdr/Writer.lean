import VoipSwitch.Cdr.Record
import VoipSwitch.Cdr.Spool
import VoipSwitch.Lib.Table
import VoipSwitch.Lib.Transition
import Mathlib.Logic.Function.Basic

/-! The tasks that carry CDRs from calls to the database: the callers that wait for a durable
acknowledgement, the writer that appends to the spools, one worker a domain that replays its
spool, and the configuration that changes the limits of the spools. A step is what a task does
between two points where another task can run. -/
namespace VoipSwitch

open Keyed

/-- A call of `enqueue_durable`. -/
abbrev Ticket := Nat

def cdrWriterQueueCapacity : Nat := 512

def mib : Nat := 1024 * 1024

/-- Limits as `cdr_spool_limits` makes them: what is not positive is replaced by a default. -/
structure CdrSpoolLimits where
  warningMb : Nat
  resumeMb : Nat
  rejectMb : Nat
  resumeMb_pos : 0 < resumeMb
  rejectMb_pos : 0 < rejectMb
deriving DecidableEq

structure DomainSpoolStatus where
  backlogBytes : Nat
  rejectingNewCalls : Bool
  warningActive : Bool
  appendFailed : Bool
deriving DecidableEq

namespace DomainSpoolStatus

def initial : DomainSpoolStatus where
  backlogBytes := 0
  rejectingNewCalls := false
  warningActive := false
  appendFailed := false

/-- The status with a new measurement. Calls are rejected from the upper limit on, and admitted
again below the lower one. -/
def updated (limits : CdrSpoolLimits) (backlogBytes : Nat) (status : DomainSpoolStatus) :
    DomainSpoolStatus :=
  let warningBytes := satMul64 limits.warningMb mib
  let rejectBytes := satMul64 limits.rejectMb mib
  let resumeBytes := satMul64 limits.resumeMb mib
  { status with
    backlogBytes := backlogBytes
    warningActive :=
      if !status.warningActive && decide (warningBytes ≤ backlogBytes) then true
      else if status.warningActive && decide (backlogBytes < warningBytes) then false
      else status.warningActive
    rejectingNewCalls :=
      if !status.rejectingNewCalls && decide (rejectBytes ≤ backlogBytes) then true
      else if status.rejectingNewCalls && decide (backlogBytes < resumeBytes) then false
      else status.rejectingNewCalls }

end DomainSpoolStatus

structure SpoolAdmission where
  domains : Table DomainId DomainSpoolStatus
  limits : CdrSpoolLimits

namespace SpoolAdmission

/-- `entry(domain_id).or_default()`. -/
def status (a : SpoolAdmission) (domainId : DomainId) : DomainSpoolStatus :=
  (a.domains.get domainId).getD .initial

/-- The second half of `update`, with the limits that its first half has read. -/
def update (a : SpoolAdmission) (limits : CdrSpoolLimits) (domainId : DomainId)
    (backlogBytes : Nat) : SpoolAdmission :=
  { a with
    domains := a.domains.insert domainId ((a.status domainId).updated limits backlogBytes) }

def admitsNewCall (a : SpoolAdmission) (domainId : DomainId) : Bool :=
  (a.domains.get domainId).all fun status => !status.rejectingNewCalls && !status.appendFailed

def appendFailure (a : SpoolAdmission) (domainId : DomainId) (failed : Bool) : SpoolAdmission :=
  { a with
    domains := a.domains.insert domainId { a.status domainId with appendFailed := failed } }

end SpoolAdmission

/-- A call of `SpoolAdmission::update` with the limits once they are read. -/
structure Publication where
  domainId : DomainId
  backlogBytes : Nat
  limits : Option CdrSpoolLimits
deriving DecidableEq

/-- A call of `set_limits`: the limits are written and the backlogs are to be read, or these
measurements are to be published again. -/
inductive Refresh where
  | snapshotting
  | updating (publications : List Publication)

structure PendingAppend where
  command : CdrWriteCommand
  ticket : Ticket

def PendingAppend.domainId (item : PendingAppend) : DomainId := item.command.callCdr.domainId

inductive CdrWriterMessage where
  | write (item : PendingAppend)
  | shutdown

inductive CallerPhase where
  | acquiring
  | sending
  | waiting
  | told (success : Bool)
deriving DecidableEq

structure Caller where
  command : CdrWriteCommand
  phase : CallerPhase

structure DomainPermits where
  closed : Bool
  domains : Table DomainId Nat

/-- Where the loop of a domain worker stands. -/
inductive WorkerPhase where
  | receiving
  | draining
  | loading
  | sleeping
  | handling (entries : List (ReplayEntry CdrWriteCommand))
  | acknowledging (position : SpoolPosition) (rest : List (ReplayEntry CdrWriteCommand))
  | measuring (rest : List (ReplayEntry CdrWriteCommand))
  | publishing (publication : Publication) (rest : List (ReplayEntry CdrWriteCommand))
  | stopped

/-- A worker with its wake channel: whether a wake is in it, and whether the writer holds its
sender. -/
structure DomainWorker where
  phase : WorkerPhase
  wake : Bool
  connected : Bool

/-- Where the writer stands: in `start_replay_workers`, in its `select`, in
`flush_pending_domain` for the first of some domains, or at its end. -/
inductive WriterPhase where
  | listing
  | starting (domains : List DomainId)
  | startPublishing (publication : Publication) (rest : List DomainId)
  | startWaking (domainId : DomainId) (rest : List DomainId)
  | selecting
  | flushing (domains : List DomainId)
  | publishing (publication : Publication) (rest : List DomainId)
  | waking (domainId : DomainId) (rest : List DomainId)
  | acknowledging (domainId : DomainId) (rest : List DomainId)
  | refusing (domainId : DomainId) (rest : List DomainId)
  | checking
  | finishing
  | stopped

structure CdrService where
  spools : DomainId → CdrSpool
  admission : SpoolAdmission
  refreshes : List Refresh
  writer : WriterPhase
  channel : List CdrWriterMessage
  closed : Bool
  workers : DomainId → Option DomainWorker
  pending : Table DomainId (List PendingAppend)
  permits : DomainPermits
  callers : Ticket → Option Caller
  /-- Durable acknowledgements that were sent. -/
  replies : List Ticket
  /-- The commands in the order in which the writer took them from its channel. -/
  received : List PendingAppend
  /-- The successful appends. -/
  appended : List PendingAppend

/-- What became of the task that appends a command and measures the backlog. -/
inductive AppendOutcome where
  /-- An error before anything was written. -/
  | refused
  | written (outcome : CdrSpool.WriteOutcome) (measured : Bool)
deriving DecidableEq

namespace CdrService

def queue (s : CdrService) (domainId : DomainId) : List PendingAppend :=
  (s.pending.get domainId).getD []

/-- `ensure_domain_worker`. -/
def ensureDomainWorker (domainId : DomainId) (s : CdrService) : CdrService :=
  match s.workers domainId with
  | some _ => s
  | none =>
    { s with
      workers := Function.update s.workers domainId
        (some { phase := .receiving, wake := false, connected := true }) }

/-- `wake_tx.try_send(())`: a wake that is there already is enough. -/
def wakeDomainWorker (domainId : DomainId) (s : CdrService) : CdrService :=
  { s with
    workers := Function.update s.workers domainId
      ((s.workers domainId).map fun worker => { worker with wake := true }) }

def setSpool (domainId : DomainId) (spool : CdrSpool) (s : CdrService) : CdrService :=
  { s with spools := Function.update s.spools domainId spool }

/-- The next step of a publication: read the limits, or apply them. -/
def publish (publication : Publication) (s : CdrService) : Option Publication × CdrService :=
  match publication.limits with
  | none => (some { publication with limits := some s.admission.limits }, s)
  | some limits =>
    (none, { s with
      admission := s.admission.update limits publication.domainId publication.backlogBytes })

section Callers

def setCaller (ticket : Ticket) (caller : Caller) (s : CdrService) : CdrService :=
  { s with callers := Function.update s.callers ticket (some caller) }

@[simp] theorem callers_setCaller_self (ticket : Ticket) (caller : Caller) (s : CdrService) :
    (s.setCaller ticket caller).callers ticket = some caller := Function.update_self ..

theorem callers_setCaller_of_ne {ticket other : Ticket} (h : other ≠ ticket) (caller : Caller)
    (s : CdrService) : (s.setCaller ticket caller).callers other = s.callers other :=
  Function.update_of_ne h ..

/-- A permit of a domain is dropped. -/
def releasePermit (domainId : DomainId) (s : CdrService) : CdrService :=
  { s with
    permits := { s.permits with
      domains := s.permits.domains.insert domainId
        ((s.permits.domains.get domainId).getD 0 + 1) } }

/-- A new call of `enqueue_durable` finds the semaphore of its domain. -/
def enqueueDurable (ticket : Ticket) (command : CdrWriteCommand) (s : CdrService) :
    Option CdrService :=
  match s.callers ticket with
  | some _ => none
  | none =>
    if s.permits.closed then some (s.setCaller ticket { command, phase := .told false })
    else
      let domainId := command.callCdr.domainId
      let available := (s.permits.domains.get domainId).getD cdrWriterQueueCapacity
      some (setCaller ticket { command, phase := .acquiring }
        { s with
          permits := { s.permits with
            domains := s.permits.domains.insert domainId available } })

/-- The next step of a call of `enqueue_durable`. -/
def callerStep (ticket : Ticket) (s : CdrService) : Option CdrService :=
  match s.callers ticket with
  | none => none
  | some caller =>
    let domainId := caller.command.callCdr.domainId
    let goTo (phase : CallerPhase) (s : CdrService) : Option CdrService :=
      some (s.setCaller ticket { caller with phase })
    match caller.phase with
    | .acquiring =>
      let available := (s.permits.domains.get domainId).getD 0
      if s.permits.closed then goTo (.told false) s
      else if available = 0 then none
      else
        goTo .sending { s with
          permits := { s.permits with
            domains := s.permits.domains.insert domainId (available - 1) } }
    | .sending =>
      if s.closed then goTo (.told false) (s.releasePermit domainId)
      else if cdrWriterQueueCapacity ≤ s.channel.length then none
      else
        goTo .waiting
          { s with channel := s.channel ++ [.write { command := caller.command, ticket }] }
    | .waiting =>
      if ticket ∈ s.replies then goTo (.told true) s
      else
        match s.writer with
        -- The sender of the acknowledgement is dropped with the writer.
        | .stopped => goTo (.told false) s
        | _ => none
    | .told _ => none

/-- `shutdown` closes the semaphores before it sends its message. -/
def closePermits (s : CdrService) : CdrService :=
  { s with permits := { s.permits with closed := true } }

def sendShutdown (s : CdrService) : Option CdrService :=
  if s.closed || decide (cdrWriterQueueCapacity ≤ s.channel.length) then none
  else some { s with channel := s.channel ++ [.shutdown] }

end Callers

section Writer

variable (codec : Codec CdrWriteCommand)

/-- One branch of the writer's `select`: the next message. -/
def receive (s : CdrService) : Option CdrService :=
  match s.writer, s.channel with
  | .selecting, .write item :: rest =>
    some { s with
      channel := rest
      received := s.received ++ [item]
      pending := s.pending.insert item.domainId (s.queue item.domainId ++ [item])
      writer := .flushing [item.domainId] }
  | .selecting, .shutdown :: rest =>
    some { s with channel := rest, closed := true, writer := .checking }
  | _, _ => none

/-- The other branch: the retry interval. The domains come in the order of a hash map. -/
def tick (order : List DomainId) (s : CdrService) : Option CdrService :=
  match s.writer with
  | .selecting =>
    if order.Perm s.pending.entries.keys then some { s with writer := .flushing order } else none
  | _ => none

/-- The domains whose spools are found at the start; an error finds none. -/
def listDomains (domains : List DomainId) (s : CdrService) : Option CdrService :=
  match s.writer with
  | .listing => some { s with writer := .starting domains }
  | _ => none

/-- `refresh_backlog` of a domain that is started. -/
def measureStart (measured : Bool) (s : CdrService) : Option CdrService :=
  match s.writer with
  | .starting (domainId :: rest) =>
    let s := s.ensureDomainWorker domainId
    if measured then
      let backlogBytes := (s.spools domainId).backlogBytes
      some { s with
        writer := .startPublishing { domainId, backlogBytes, limits := none } rest }
    else some { s with writer := .startWaking domainId rest }
  | _ => none

/-- The task of `append_and_wake` for the command in front of its queue. -/
def append (outcome : AppendOutcome) (s : CdrService) : Option CdrService :=
  match s.writer with
  | .flushing (domainId :: rest) =>
    match s.queue domainId with
    | [] => none
    | item :: _ =>
      let s := s.ensureDomainWorker domainId
      match outcome with
      | .refused => some { s with writer := .refusing domainId rest }
      | .written outcome measured =>
        match CdrSpool.append codec item.command outcome (s.spools domainId) with
        | (.error _, spool) =>
          some { s.setSpool domainId spool with writer := .refusing domainId rest }
        | (.ok _, spool) =>
          let s := s.setSpool domainId spool
          let s := { s with appended := s.appended ++ [item] }
          if measured then
            let backlogBytes := spool.backlogBytes
            some { s with
              writer := .publishing { domainId, backlogBytes, limits := none } rest }
          else some { s with writer := .refusing domainId rest }
  | _ => none

/-- The end of a turn of the loop. -/
def checkFinished (s : CdrService) : CdrService :=
  if s.closed && s.channel.isEmpty && s.pending.entries.isEmpty then
    { s with
      writer := .finishing
      workers := fun domainId => (s.workers domainId).map fun worker =>
        { worker with wake := true, connected := false } }
  else { s with writer := .selecting }

/-- The command in front of the queue is acknowledged. -/
def acknowledgeFront (domainId : DomainId) (rest : List DomainId) (s : CdrService) : CdrService :=
  let s := { s with
    admission := s.admission.appendFailure domainId false
    writer := .flushing (domainId :: rest) }
  match s.queue domainId with
  | [] => s
  | item :: queue =>
    releasePermit domainId { s with
      pending := s.pending.insert domainId queue
      replies := s.replies ++ [item.ticket] }

/-- The steps of the writer whose outcome nothing else decides. -/
def writerStep (s : CdrService) : Option CdrService :=
  match s.writer with
  | .starting [] => some { s with writer := .selecting }
  | .startPublishing publication rest =>
    match s.publish publication with
    | (some publication, s) => some { s with writer := .startPublishing publication rest }
    | (none, s) => some { s with writer := .startWaking publication.domainId rest }
  | .startWaking domainId rest =>
    some { s.wakeDomainWorker domainId with writer := .starting rest }
  | .flushing [] => some { s with writer := .checking }
  | .flushing (domainId :: rest) =>
    match s.queue domainId with
    | [] => some { s with pending := s.pending.remove domainId, writer := .flushing rest }
    | _ :: _ => none
  | .publishing publication rest =>
    match s.publish publication with
    | (some publication, s) => some { s with writer := .publishing publication rest }
    | (none, s) => some { s with writer := .waking publication.domainId rest }
  | .waking domainId rest =>
    some { s.wakeDomainWorker domainId with writer := .acknowledging domainId rest }
  | .acknowledging domainId rest => some (s.acknowledgeFront domainId rest)
  | .refusing domainId rest =>
    some { s with
      admission := s.admission.appendFailure domainId true
      writer := .flushing rest }
  | .checking => some s.checkFinished
  | .finishing => some { s with writer := .stopped, channel := [] }
  | _ => none

end Writer

section Workers

variable (codec : Codec CdrWriteCommand)

def setWorker (domainId : DomainId) (worker : DomainWorker) (s : CdrService) : CdrService :=
  { s with workers := Function.update s.workers domainId (some worker) }

/-- The next step of a domain worker; `success` is what becomes of the file or the database that
the step needs. -/
def workerStep (domainId : DomainId) (success : Bool) (s : CdrService) : Option CdrService :=
  match s.workers domainId with
  | none => none
  | some worker =>
    let goTo (phase : WorkerPhase) (s : CdrService) : Option CdrService :=
      some (s.setWorker domainId { worker with phase })
    match worker.phase with
    | .receiving =>
      if worker.wake then
        some (s.setWorker domainId { worker with phase := .draining, wake := false })
      else if worker.connected then none
      else goTo .stopped s
    | .draining =>
      if worker.wake then some (s.setWorker domainId { worker with wake := false })
      else goTo .loading s
    | .loading =>
      if success then
        match CdrSpool.replay codec (s.spools domainId) with
        | (.error _, spool) => goTo .sleeping (s.setSpool domainId spool)
        | (.ok [], spool) => goTo .receiving (s.setSpool domainId spool)
        | (.ok entries, spool) => goTo (.handling entries) (s.setSpool domainId spool)
      else goTo .sleeping s
    | .sleeping => goTo .loading s
    | .handling [] => goTo .loading s
    | .handling (.write position _ :: rest) =>
      if success then goTo (.acknowledging position rest) s else goTo .sleeping s
    | .handling (.quarantined position _ :: rest) => goTo (.acknowledging position rest) s
    | .acknowledging position rest =>
      if success then
        match CdrSpool.acknowledge position (s.spools domainId) with
        | (.error _, spool) => goTo .sleeping (s.setSpool domainId spool)
        | (.ok _, spool) => goTo (.measuring rest) (s.setSpool domainId spool)
      else goTo .sleeping s
    | .measuring rest =>
      if success then
        let backlogBytes := (s.spools domainId).backlogBytes
        goTo (.publishing { domainId, backlogBytes, limits := none } rest) s
      else goTo (.handling rest) s
    | .publishing publication rest =>
      match s.publish publication with
      | (some publication, s) => goTo (.publishing publication rest) s
      | (none, s) => goTo (.handling rest) s
    | .stopped => none

/-- A worker that does not drain in time is aborted. -/
def abort (domainId : DomainId) (s : CdrService) : Option CdrService :=
  match s.writer, s.workers domainId with
  | .finishing, some worker => some (s.setWorker domainId { worker with phase := .stopped })
  | _, _ => none

end Workers

section Configuration

/-- `set_limits` writes the limits first. -/
def setLimits (limits : CdrSpoolLimits) (s : CdrService) : CdrService :=
  { s with
    admission := { s.admission with limits := limits }
    refreshes := s.refreshes ++ [.snapshotting] }

/-- The measurements that were recorded, to be published again. -/
def recordedBacklogs (s : CdrService) : List Publication :=
  s.admission.domains.entries.map fun (domainId, status) =>
    { domainId, backlogBytes := status.backlogBytes, limits := none }

def refreshStep (index : Nat) (s : CdrService) : Option CdrService :=
  match s.refreshes[index]? with
  | none => none
  | some .snapshotting =>
    some { s with refreshes := s.refreshes.set index (.updating s.recordedBacklogs) }
  | some (.updating []) => some { s with refreshes := s.refreshes.eraseIdx index }
  | some (.updating (publication :: rest)) =>
    match s.publish publication with
    | (some publication, s) =>
      some { s with refreshes := s.refreshes.set index (.updating (publication :: rest)) }
    | (none, s) => some { s with refreshes := s.refreshes.set index (.updating rest) }

end Configuration

end CdrService

inductive CdrAction where
  | enqueueDurable (ticket : Ticket) (command : CdrWriteCommand)
  | caller (ticket : Ticket)
  | closePermits
  | sendShutdown
  | receive
  | tick (order : List DomainId)
  | listDomains (domains : List DomainId)
  | measureStart (measured : Bool)
  | append (outcome : AppendOutcome)
  | writer
  | worker (domainId : DomainId) (success : Bool)
  | abort (domainId : DomainId)
  | setLimits (limits : CdrSpoolLimits)
  | refresh (index : Nat)

namespace CdrService

def step (codec : Codec CdrWriteCommand) (s : CdrService) : CdrAction → Option CdrService
  | .enqueueDurable ticket command => s.enqueueDurable ticket command
  | .caller ticket => s.callerStep ticket
  | .closePermits => some s.closePermits
  | .sendShutdown => s.sendShutdown
  | .receive => s.receive
  | .tick order => s.tick order
  | .listDomains domains => s.listDomains domains
  | .measureStart measured => s.measureStart measured
  | .append outcome => s.append codec outcome
  | .writer => s.writerStep
  | .worker domainId success => s.workerStep codec domainId success
  | .abort domainId => s.abort domainId
  | .setLimits limits => some (s.setLimits limits)
  | .refresh index => s.refreshStep index

/-- `CdrWriter::spawn` over the spools that an earlier process left. -/
def spawn (spools : DomainId → CdrSpool) (limits : CdrSpoolLimits) : CdrService where
  spools := spools
  admission := { domains := .empty, limits }
  refreshes := []
  writer := .listing
  channel := []
  closed := false
  workers _ := none
  pending := .empty
  permits := { closed := false, domains := .empty }
  callers _ := none
  replies := []
  received := []
  appended := []

def system (codec : Codec CdrWriteCommand) : Transition.System CdrService CdrAction where
  init s := ∃ spools limits, s = spawn spools limits
  next s action t := s.step codec action = some t

end CdrService

end VoipSwitch
