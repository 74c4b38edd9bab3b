import VoipSwitch.Cdr.Acknowledged

/-! Delivery of CDRs over the deaths and restarts of the process. Beside the tasks of the running
process stands what outlives it: the commands that earlier processes appended, and those that the
databases took. -/
namespace VoipSwitch

open Framed Keyed
open CdrSpool (SpoolRun Holds runStep spoolSystem pendingFrames pieceFor tornCodec shortCommand
  shortCommand_fits shortCommand_roundTrips)
open CdrService (sampleLimits)

section Spool

variable {codec : Codec CdrWriteCommand} {r : SpoolRun CdrWriteCommand}
  {entries : List (ReplayEntry CdrWriteCommand)}

namespace CdrSpool

theorem Holds.of_run (h : Transition.ReachableWithin (spoolSystem codec) (writesClean codec) r) :
    Holds codec r := by
  apply h.invariant
  · exact fun r hInit => .init hInit
  · rintro r step _ h hClean ⟨hAllowed, rfl⟩
    exact h.step hAllowed hClean

/-- What is written to the end of a spool comes last in its replay. -/
theorem entries_write_extends {s : CdrSpool} {segment offset : Nat}
    (hTarget : s.Target segment offset)
    (hWithin : s.CheckpointWithin) (more : Bytes) :
    s.entries codec <+: (s.write segment more).entries codec := by
  obtain ⟨added, hAdded⟩ := frames_write_prefix hTarget hWithin more
  rw [entries_eq, entries_eq, hAdded, List.map_append]
  exact List.prefix_append _ _

/-- Entries that a replay has returned and that come next in the spool. -/
structure Ahead (codec : Codec CdrWriteCommand) (r : SpoolRun CdrWriteCommand)
    (entries : List (ReplayEntry CdrWriteCommand)) : Prop where
  seen : ∀ entry ∈ entries, entry.position ∈ r.seen
  next : entries <+: r.spool.entries codec

theorem Ahead.append {command : CdrWriteCommand} {outcome : WriteOutcome}
    (h : Ahead codec r entries) (hHolds : Holds codec r)
    (hRoom : r.spool.saturates (frameOf codec command).length = false) :
    Ahead codec (runStep codec r (.append command outcome)) entries := by
  have hTarget := target_of_append hHolds.reached hRoom
  have hWritten := fun more => h.next.trans (entries_write_extends hTarget hHolds.within more)
  by_cases hFits : maxFrameSize < (codec.encode spoolSchemaVersion command).length
  · obtain ⟨error, hRefused⟩ := append_oversized (s := r.spool) outcome hFits
    rw [runStep, hRefused]
    exact h
  · rw [Nat.not_lt] at hFits
    cases outcome with
    | failed written =>
        rw [runStep, append_failed hFits hTarget]
        exact ⟨h.seen, hWritten _⟩
    | synced =>
        rw [runStep, append_synced hFits]
        exact ⟨h.seen, hWritten _⟩

/-- A replay returns all that is to come. -/
theorem Ahead.replay (hHolds : Holds codec r) :
    Ahead codec (runStep codec r .replay) (r.spool.entries codec) := by
  rw [runStep, replay_eq codec hHolds.within]
  constructor
  · exact fun entry hMem => List.mem_append_left _ (List.mem_map_of_mem hMem)
  · exact ⟨[], (List.append_nil _).trans (entries_replayed codec r.spool).symm⟩

theorem seen_acknowledge (position : SpoolPosition) :
    (runStep codec r (.acknowledge position)).seen = r.seen := by
  rw [runStep]
  split
  · rfl
  · rfl

theorem spool_acknowledge (position : SpoolPosition) :
    (runStep codec r (.acknowledge position)).spool = (acknowledge position r.spool).2 := by
  rw [runStep]
  split
  · next hAcknowledged => rw [hAcknowledged]
  · next hAcknowledged => rw [hAcknowledged]

theorem Ahead.first {entry : ReplayEntry CdrWriteCommand} (h : Ahead codec r (entry :: entries)) :
    ∃ located frames, r.spool.frames = located :: frames ∧
      entry = entryOf codec located.1 located.2 := by
  obtain ⟨later, hEntries⟩ := h.next
  rw [entries_eq, List.cons_append] at hEntries
  obtain ⟨located, frames, hFrames, hEntry, _⟩ := List.map_eq_cons_iff.mp hEntries.symm
  exact ⟨located, frames, hFrames, hEntry.symm⟩

/-- What is to come can be acknowledged. -/
theorem Ahead.acknowledge {entry : ReplayEntry CdrWriteCommand}
    (h : Ahead codec r (entry :: entries)) :
    acknowledge entry.position r.spool = (.ok (), r.spool.acknowledged entry.position) := by
  obtain ⟨located, frames, hFrames, rfl⟩ := h.first
  have hMem : located ∈ r.spool.frames := by
    rw [hFrames]
    exact .head _
  rw [position_entryOf]
  exact acknowledge_eq (Boundary.of_mem hMem).ahead

/-- Acknowledging what comes first takes it from the replay, and from the queue what it was of. -/
theorem Holds.acknowledge_first (h : Holds codec r) {entry : ReplayEntry CdrWriteCommand}
    (hAhead : Ahead codec r (entry :: entries)) :
    r.spool.entries codec =
        entry :: (runStep codec r (.acknowledge entry.position)).spool.entries codec ∧
      ((runStep codec r (.acknowledge entry.position)).pending = r.pending ∨
        ∃ command, entry = .write entry.position command ∧ r.pending =
          (entry.position, command) ::
            (runStep codec r (.acknowledge entry.position)).pending) := by
  have hAcknowledge := hAhead.acknowledge
  obtain ⟨located, frames, hFrames, rfl⟩ := hAhead.first
  have hSorted := frames_sorted r.spool
  rw [hFrames, List.pairwise_cons] at hSorted
  have hPosition : (entryOf codec located.1 located.2).position = located.1 :=
    position_entryOf _ _
  have hMem : located ∈ r.spool.frames := by
    rw [hFrames]
    exact .head _
  rw [hPosition] at hAcknowledge ⊢
  rw [runStep, hAcknowledge]
  have hLater : frames.filter (fun other => located.1 < other.1) = frames :=
    List.filter_eq_self.mpr fun other hOther => decide_eq_true (hSorted.1 other hOther)
  have hSelf : ¬ decide (located.1 < located.1) = true := by
    simpa using SpoolPosition.lt_irrefl located.1
  refine ⟨?_, ?_⟩
  · show _ = _ :: (r.spool.acknowledged located.1).entries codec
    have hDropped : (located :: frames).filter (fun other => located.1 < other.1) = frames := by
      rw [List.filter_cons, if_neg hSelf, hLater]
    rw [entries_eq, entries_eq, frames_acknowledged (Boundary.of_mem hMem), hFrames, hDropped,
      List.map_cons]
  · have hPending := h.frames
    rw [hFrames, List.sublist_cons_iff] at hPending
    have hKept : ∀ pending : List (SpoolPosition × CdrWriteCommand),
        (pending.map fun command => (command.1, pieceFor codec command.2)).Sublist frames →
        pending.filter (fun command => located.1 < command.1) = pending := by
      intro pending hSub
      rw [List.filter_eq_self]
      exact fun command hCommand =>
        decide_eq_true (hSorted.1 _ (hSub.subset (List.mem_map_of_mem hCommand)))
    rcases hPending with hSub | ⟨rest, hCons, hSub⟩
    · exact .inl (hKept _ hSub)
    · right
      rw [pendingFrames, List.map_eq_cons_iff] at hCons
      obtain ⟨⟨position, command⟩, pending, hList, rfl, rfl⟩ := hCons
      have hTrip := h.readable (position, command) (by rw [hList]; exact .head _)
      refine ⟨command, ?_, ?_⟩
      · rw [entryOf, commandOf_pieceFor hTrip]
      · show r.pending = (position, command) :: r.pending.filter _
        rw [hList, List.filter_cons, if_neg hSelf, hKept _ hSub]

end CdrSpool

end Spool

/-- The running process, with what outlives it and its spools. -/
structure CdrProcess where
  service : CdrService
  /-- The commands that the processes before this one appended. -/
  earlier : List PendingAppend
  /-- The commands that the database of each domain took, in the order of its transactions. -/
  stored : DomainId → List CdrWriteCommand

inductive ProcessStep where
  | task (action : CdrAction)
  /-- The process dies, perhaps with some bytes of a frame written, and the next one starts. -/
  | restart (written : Option Nat) (limits : CdrSpoolLimits)

/-- The command that a worker is about to write to its database. -/
def WorkerPhase.writes? : WorkerPhase → Option CdrWriteCommand
  | .handling (.write _ command :: _) => some command
  | _ => none

namespace CdrService

/-- What a step stores in the database of a domain. -/
def stores (s : CdrService) (domainId : DomainId) : CdrAction → List CdrWriteCommand
  | .worker worked true =>
    if worked = domainId then ((s.workers domainId).bind (·.phase.writes?)).toList else []
  | _ => []

/-- The command whose append is the next thing that the writer does, with its domain. -/
def appending (s : CdrService) : Option (DomainId × CdrWriteCommand) :=
  match s.writer with
  | .flushing (domainId :: _) => (s.queue domainId).head?.map fun item => (domainId, item.command)
  | _ => none

end CdrService

namespace CdrProcess

variable (codec : Codec CdrWriteCommand)

/-- The commands of a domain in the order of their appends. -/
def appended (p : CdrProcess) (domainId : DomainId) : List CdrWriteCommand :=
  ((p.earlier ++ p.service.appended).filter fun item => item.domainId = domainId).map (·.command)

/-- Another process starts over the spools. -/
def restarted (spools : DomainId → CdrSpool) (limits : CdrSpoolLimits) (p : CdrProcess) :
    CdrProcess :=
  { p with
    service := CdrService.spawn spools limits
    earlier := p.earlier ++ p.service.appended }

/-- The tasks have taken a step. -/
def advanced (action : CdrAction) (service : CdrService) (p : CdrProcess) : CdrProcess :=
  { p with
    service
    stored := fun domainId => p.stored domainId ++ p.service.stores domainId action }

def step (p : CdrProcess) : ProcessStep → Option CdrProcess
  | .task action => (p.service.step codec action).map fun service => p.advanced action service
  | .restart none limits => some (p.restarted p.service.spools limits)
  | .restart (some written) limits =>
    match p.service.appending with
    | none => none
    | some (domainId, command) =>
      if (codec.encode spoolSchemaVersion command).length ≤ maxFrameSize ∧
          written < (CdrSpool.frameOf codec command).length then
        let spool := CdrSpool.crash codec command written (p.service.spools domainId)
        some (p.restarted (Function.update p.service.spools domainId spool) limits)
      else none

def system : Transition.System CdrProcess ProcessStep where
  init p := ∃ spools limits, (∀ domainId, (spools domainId).segments = []) ∧
    p = { service := .spawn spools limits, earlier := [], stored := fun _ => [] }
  next p step q := p.step codec step = some q

/-- The step of its spool that the append in progress is. -/
def writesClean (p : CdrProcess) : ProcessStep → Prop
  | .task (.append (.written outcome _)) => ∀ domainId command,
    p.service.appending = some (domainId, command) →
      CdrSpool.writesClean codec { spool := p.service.spools domainId, pending := [], seen := [] }
        (.append command outcome)
  | .restart (some written) _ => ∀ domainId command,
    p.service.appending = some (domainId, command) →
      CdrSpool.writesClean codec { spool := p.service.spools domainId, pending := [], seen := [] }
        (.crash command written)
  | _ => True

section Delivers

variable {codec : Codec CdrWriteCommand} {p q : CdrProcess} {s t : CdrService}
  {domainId other : DomainId} {r : SpoolRun CdrWriteCommand}
  {done stored : List CdrWriteCommand}

/-- The entries that a worker has still to handle come next in its spool. What it is about to
acknowledge has been stored. -/
def Aligned (codec : Codec CdrWriteCommand) (r : SpoolRun CdrWriteCommand)
    (done stored : List CdrWriteCommand) : WorkerPhase → Prop
  | .handling entries | .measuring entries | .publishing _ entries => CdrSpool.Ahead codec r entries
  | .acknowledging position rest => ∃ entry : ReplayEntry CdrWriteCommand,
    entry.position = position ∧ CdrSpool.Ahead codec r (entry :: rest) ∧
      ∀ command, entry = .write position command → (done ++ [command]).Sublist stored
  | _ => True

/-- The spool of a domain is the state of a run of the spool. What was appended is acknowledged
or pending in it, and what is acknowledged was stored. -/
structure Delivers (codec : Codec CdrWriteCommand) (p : CdrProcess) (domainId : DomainId)
    (r : SpoolRun CdrWriteCommand) (done : List CdrWriteCommand) : Prop where
  run : Transition.ReachableWithin (spoolSystem codec) (CdrSpool.writesClean codec) r
  spool : r.spool = p.service.spools domainId
  appended : p.appended domainId = done ++ r.pending.map (·.2)
  stored : done.Sublist (p.stored domainId)
  aligned : ∀ worker, p.service.workers domainId = some worker →
    Aligned codec r done (p.stored domainId) worker.phase

/-- A worker that has just started or has ended, or has kept its phase. -/
def FromPhase (s : CdrService) (domainId : DomainId) (worker : DomainWorker) : Prop :=
  worker.phase = .receiving ∨ worker.phase = .stopped ∨
    ∃ before, s.workers domainId = some before ∧ before.phase = worker.phase

theorem Aligned.of_fromPhase {worker : DomainWorker} (h : FromPhase s domainId worker)
    (hBefore : ∀ before, s.workers domainId = some before →
      Aligned codec r done stored before.phase) : Aligned codec r done stored worker.phase := by
  rcases h with hPhase | hPhase | ⟨before, hWorker, hPhase⟩
  · rw [hPhase]
    trivial
  · rw [hPhase]
    trivial
  · rw [← hPhase]
    exact hBefore before hWorker

/-- A step that concerns neither the spool of the domain nor what its worker does. -/
theorem Delivers.same (h : Delivers codec p domainId r done)
    (hSpool : q.service.spools domainId = p.service.spools domainId)
    (hAppended : q.appended domainId = p.appended domainId)
    (hStored : q.stored domainId = p.stored domainId)
    (hWorkers : ∀ worker, q.service.workers domainId = some worker →
      FromPhase p.service domainId worker) : Delivers codec q domainId r done where
  run := h.run
  spool := by rw [hSpool, h.spool]
  appended := by rw [hAppended, h.appended]
  stored := by
    rw [hStored]
    exact h.stored
  aligned worker hWorker := by
    rw [hStored]
    exact .of_fromPhase (hWorkers worker hWorker) h.aligned

theorem fromPhase_ensureDomainWorker (started : DomainId) {worker : DomainWorker}
    (h : (s.ensureDomainWorker started).workers domainId = some worker) :
    FromPhase s domainId worker := by
  by_cases hSame : domainId = started
  · subst hSame
    rw [CdrService.ensureDomainWorker_eq] at h
    simp only [Function.update_self, Option.some.injEq] at h
    cases hBefore : s.workers domainId with
    | none =>
        rw [hBefore, Option.getD_none] at h
        exact .inl (by rw [← h])
    | some before =>
        rw [hBefore, Option.getD_some] at h
        exact .inr (.inr ⟨before, hBefore, by rw [h]⟩)
  · rw [CdrService.workers_ensureDomainWorker_of_ne hSame] at h
    exact .inr (.inr ⟨worker, h, rfl⟩)

/-- The steps of neither an append nor a worker: no spool changes, and no worker goes on. -/
structure Rests (s t : CdrService) : Prop where
  spools : t.spools = s.spools
  appended : t.appended = s.appended
  workers : ∀ domainId worker, t.workers domainId = some worker → FromPhase s domainId worker

theorem Rests.of_same (h : (t.workers, t.spools, t.appended) = (s.workers, s.spools, s.appended)) :
    Rests s t := by
  simp only [Prod.mk.injEq] at h
  obtain ⟨hWorkers, hSpools, hAppended⟩ := h
  refine ⟨hSpools, hAppended, fun domainId worker hWorker => ?_⟩
  rw [hWorkers] at hWorker
  exact .inr (.inr ⟨worker, hWorker, rfl⟩)

/-- A wake, or the end of the wakes, leaves the phases of the workers. -/
theorem Rests.of_workers (change : DomainId → DomainWorker → DomainWorker)
    (hPhase : ∀ domainId worker, (change domainId worker).phase = worker.phase)
    (hWorkers : ∀ domainId, t.workers domainId = (s.workers domainId).map (change domainId))
    (h : (t.spools, t.appended) = (s.spools, s.appended)) : Rests s t := by
  simp only [Prod.mk.injEq] at h
  refine ⟨h.1, h.2, fun domainId worker hWorker => ?_⟩
  rw [hWorkers] at hWorker
  obtain ⟨before, hBefore, rfl⟩ := Option.map_eq_some_iff.mp hWorker
  exact .inr (.inr ⟨before, hBefore, (hPhase domainId before).symm⟩)

theorem Rests.wake (woken : DomainId) (writer : WriterPhase) :
    Rests s { s.wakeDomainWorker woken with writer := writer } := by
  apply Rests.of_workers fun domainId worker =>
    if domainId = woken then { worker with wake := true } else worker
  · intro domainId worker
    split
    · rfl
    · rfl
  · intro domainId
    by_cases hSame : domainId = woken
    · subst hSame
      rw [CdrService.workers_wakeDomainWorker_self]
      simp only [if_true]
    · rw [CdrService.workers_wakeDomainWorker_of_ne hSame]
      simp only [if_neg hSame, Option.map_id']
  · rfl

theorem Rests.publish (publication : Publication) (s : CdrService) :
    ((s.publish publication).2.workers, (s.publish publication).2.spools,
      (s.publish publication).2.appended) = (s.workers, s.spools, s.appended) := by
  rcases CdrService.publish_cases publication s with ⟨_, hPublish⟩ | ⟨limits, _, hPublish⟩
  · rw [hPublish]
  · rw [hPublish]

theorem Rests.writerStep (hStep : s.writerStep = some t) : Rests s t := by
  have hSame : ∀ {u : CdrService}, some u = some t →
      (u.workers, u.spools, u.appended) = (s.workers, s.spools, s.appended) → Rests s t := by
    intro u hNext h
    obtain rfl := Option.some.inj hNext
    exact .of_same h
  rw [CdrService.writerStep] at hStep
  split at hStep
  · exact hSame hStep rfl
  · next publication rest _ =>
      have hPublished := Rests.publish publication s
      split at hStep
      · next hPublish =>
          rw [hPublish] at hPublished
          exact hSame hStep hPublished
      · next hPublish =>
          rw [hPublish] at hPublished
          exact hSame hStep hPublished
  · obtain rfl := Option.some.inj hStep
    exact .wake _ _
  · exact hSame hStep rfl
  · split at hStep
    · exact hSame hStep rfl
    · cases hStep
  · next publication rest _ =>
      have hPublished := Rests.publish publication s
      split at hStep
      · next hPublish =>
          rw [hPublish] at hPublished
          exact hSame hStep hPublished
      · next hPublish =>
          rw [hPublish] at hPublished
          exact hSame hStep hPublished
  · obtain rfl := Option.some.inj hStep
    exact .wake _ _
  · next domainId rest _ =>
      apply hSame hStep
      rw [CdrService.acknowledgeFront]
      split
      · rfl
      · rfl
  · exact hSame hStep rfl
  · obtain rfl := Option.some.inj hStep
    rw [CdrService.checkFinished]
    split
    · exact .of_workers (fun _ worker => { worker with wake := true, connected := false })
        (fun _ _ => rfl) (fun _ => rfl) rfl
    · exact .of_same rfl
  · exact hSame hStep rfl
  · cases hStep

theorem Rests.enqueueDurable {ticket : Ticket} {command : CdrWriteCommand}
    (hStep : s.enqueueDurable ticket command = some t) : Rests s t := by
  rw [CdrService.enqueueDurable] at hStep
  split at hStep
  · cases hStep
  · split at hStep
    · obtain rfl := Option.some.inj hStep
      exact .of_same rfl
    · obtain rfl := Option.some.inj hStep
      exact .of_same rfl

theorem Rests.callerStep {ticket : Ticket} (hStep : s.callerStep ticket = some t) : Rests s t := by
  rw [CdrService.callerStep] at hStep
  split at hStep
  · cases hStep
  · next caller _ =>
      have hGoesOn : ∀ {u : CdrService} {phase : CallerPhase},
          some (u.setCaller ticket { caller with phase }) = some t →
          (u.workers, u.spools, u.appended) = (s.workers, s.spools, s.appended) → Rests s t := by
        intro u phase hNext h
        obtain rfl := Option.some.inj hNext
        exact .of_same h
      simp only at hStep
      split at hStep
      · split at hStep
        · exact hGoesOn hStep rfl
        · split at hStep
          · cases hStep
          · exact hGoesOn hStep rfl
      · split at hStep
        · exact hGoesOn hStep rfl
        · split at hStep
          · cases hStep
          · exact hGoesOn hStep rfl
      · split at hStep
        · exact hGoesOn hStep rfl
        · split at hStep
          · exact hGoesOn hStep rfl
          · cases hStep
      · cases hStep

theorem Rests.measureStart {measured : Bool} (hStep : s.measureStart measured = some t) :
    Rests s t := by
  rw [CdrService.measureStart] at hStep
  split at hStep
  · next started rest _ =>
      have hEnsured : ∀ writer, Rests s { s.ensureDomainWorker started with writer := writer } :=
        fun writer => ⟨CdrService.spools_ensureDomainWorker started s,
          CdrService.appended_ensureDomainWorker started s,
          fun _ _ hWorker => fromPhase_ensureDomainWorker started hWorker⟩
      cases measured with
      | false =>
          obtain rfl := Option.some.inj hStep
          exact hEnsured _
      | true =>
          obtain rfl := Option.some.inj hStep
          exact hEnsured _
  · cases hStep

theorem Rests.abort {aborted : DomainId} (hStep : s.abort aborted = some t) : Rests s t := by
  obtain ⟨stopped, rfl⟩ := CdrService.abort_cases hStep
  refine ⟨rfl, rfl, fun domainId worker hWorker => ?_⟩
  by_cases hSame : domainId = aborted
  · subst hSame
    rw [CdrService.workers_setWorker_self, Option.some.injEq] at hWorker
    exact .inr (.inl (by rw [← hWorker]))
  · rw [CdrService.workers_setWorker_of_ne hSame] at hWorker
    exact .inr (.inr ⟨worker, hWorker, rfl⟩)

theorem Rests.refreshStep {index : Nat} (hStep : s.refreshStep index = some t) : Rests s t := by
  rcases CdrService.refreshStep_cases hStep with ⟨_, rfl⟩ | ⟨_, _, _, _, _, _, rfl⟩
  · exact .of_same rfl
  · exact .of_same rfl

/-- What the tasks do beside the appends and the workers. -/
theorem Rests.step {action : CdrAction} (hStep : s.step codec action = some t)
    (hAppend : ∀ outcome, action ≠ .append outcome)
    (hWorker : ∀ domainId success, action ≠ .worker domainId success) :
    Rests s t ∧ ∀ domainId, s.stores domainId action = [] := by
  cases action with
  | enqueueDurable ticket command => exact ⟨.enqueueDurable hStep, fun _ => rfl⟩
  | caller ticket => exact ⟨.callerStep hStep, fun _ => rfl⟩
  | closePermits =>
      obtain rfl := Option.some.inj hStep
      exact ⟨.of_same rfl, fun _ => rfl⟩
  | sendShutdown =>
      obtain rfl := CdrService.sendShutdown_eq hStep
      exact ⟨.of_same rfl, fun _ => rfl⟩
  | receive =>
      rcases CdrService.receive_cases hStep with ⟨_, ⟨_, _, _, rfl⟩ | ⟨_, rfl⟩⟩
      · exact ⟨.of_same rfl, fun _ => rfl⟩
      · exact ⟨.of_same rfl, fun _ => rfl⟩
  | tick order =>
      obtain ⟨_, rfl⟩ := CdrService.tick_cases hStep
      exact ⟨.of_same rfl, fun _ => rfl⟩
  | listDomains domains =>
      obtain ⟨_, rfl⟩ := CdrService.listDomains_cases hStep
      exact ⟨.of_same rfl, fun _ => rfl⟩
  | measureStart measured => exact ⟨.measureStart hStep, fun _ => rfl⟩
  | append outcome => exact (hAppend outcome rfl).elim
  | writer => exact ⟨.writerStep hStep, fun _ => rfl⟩
  | worker domainId success => exact (hWorker domainId success rfl).elim
  | abort domainId => exact ⟨.abort hStep, fun _ => rfl⟩
  | setLimits limits =>
      obtain rfl := Option.some.inj hStep
      exact ⟨.of_same rfl, fun _ => rfl⟩
  | refresh index => exact ⟨.refreshStep hStep, fun _ => rfl⟩

theorem writesClean_congr {a b : SpoolRun CdrWriteCommand} (hSpool : a.spool = b.spool)
    {step : CdrSpool.SpoolStep CdrWriteCommand} (h : CdrSpool.writesClean codec a step) :
    CdrSpool.writesClean codec b step := by
  cases step with
  | append command outcome =>
      simp only [CdrSpool.writesClean, hSpool] at h ⊢
      exact h
  | crash command written =>
      simp only [CdrSpool.writesClean, hSpool] at h ⊢
      exact h
  | replay => trivial
  | acknowledge position => trivial

theorem Aligned.append {phase : WorkerPhase} {command : CdrWriteCommand}
    {outcome : CdrSpool.WriteOutcome} (h : Aligned codec r done stored phase)
    (hHolds : Holds codec r) (hClean : CdrSpool.writesClean codec r (.append command outcome)) :
    Aligned codec (runStep codec r (.append command outcome)) done stored phase := by
  cases phase with
  | handling entries => exact CdrSpool.Ahead.append h hHolds hClean.1
  | measuring entries => exact CdrSpool.Ahead.append h hHolds hClean.1
  | publishing publication entries => exact CdrSpool.Ahead.append h hHolds hClean.1
  | acknowledging position rest =>
      obtain ⟨entry, hPosition, hAhead, hStored⟩ := h
      exact ⟨entry, hPosition, hAhead.append hHolds hClean.1, hStored⟩
  | _ => trivial

theorem domainId_of_queue (h : s.Accounted) {item : PendingAppend}
    (hMem : item ∈ s.queue domainId) : item.domainId = domainId := by
  rw [h.queued, CdrService.owed, List.mem_filter, decide_eq_true_eq] at hMem
  exact hMem.2.1

/-- The append of a command of the domain is a step of its spool. -/
theorem Delivers.append_self {outcome : AppendOutcome} (h : Delivers codec p domainId r done)
    (hClean : writesClean codec p (.task (.append outcome))) {rest : List DomainId}
    {item : PendingAppend} {queue : List PendingAppend}
    (hWriter : p.service.writer = .flushing (domainId :: rest))
    (hQueue : p.service.queue domainId = item :: queue) (hDomain : item.domainId = domainId)
    (hStep : p.service.append codec outcome = some q.service) (hEarlier : q.earlier = p.earlier)
    (hStored : q.stored domainId = p.stored domainId) : ∃ r, Delivers codec q domainId r done := by
  obtain ⟨flushed, later, front, others, hFlushing, hFront, hOutcome⟩ :=
    CdrService.append_cases hStep
  rw [hWriter] at hFlushing
  obtain ⟨rfl, rfl⟩ := List.cons.inj (WriterPhase.flushing.inj hFlushing)
  rw [hQueue] at hFront
  obtain ⟨rfl, rfl⟩ := List.cons.inj hFront
  have hAppending : p.service.appending = some (domainId, item.command) := by
    rw [CdrService.appending, hWriter]
    simp only [hQueue, List.head?_cons, Option.map_some]
  have hHolds := Holds.of_run h.run
  rcases hOutcome with ⟨_, hNext⟩ | ⟨write, measured, rfl, hWritten⟩
  · refine ⟨r, h.same ?_ ?_ hStored ?_⟩
    · rw [hNext]
      exact congrFun (CdrService.spools_ensureDomainWorker domainId p.service) domainId
    · rw [CdrProcess.appended, CdrProcess.appended, hEarlier, hNext]
      simp only [CdrService.appended_ensureDomainWorker]
    · rw [hNext]
      exact fun worker hWorker => fromPhase_ensureDomainWorker domainId hWorker
  · have hStepClean : CdrSpool.writesClean codec r (.append item.command write) :=
      writesClean_congr h.spool.symm (hClean domainId item.command hAppending)
    have hRun := CdrSpool.reachable_step h.run _ hStepClean trivial
    have hAligned : ∀ worker,
        (p.service.ensureDomainWorker domainId).workers domainId = some worker →
        Aligned codec (runStep codec r (.append item.command write)) done (p.stored domainId)
          worker.phase := fun worker hWorker =>
      .of_fromPhase (fromPhase_ensureDomainWorker domainId hWorker) fun before hBefore =>
        (h.aligned before hBefore).append hHolds hStepClean
    refine ⟨runStep codec r (.append item.command write), ?_⟩
    rcases hWritten with ⟨error, spool, hAppend, hNext⟩ | ⟨position, spool, hAppend, hNext⟩
    · rw [← h.spool] at hAppend
      have hAfter : runStep codec r (.append item.command write) = { r with spool } := by
        rw [runStep, hAppend]
      refine ⟨hRun, ?_, ?_, ?_, ?_⟩
      · rw [hAfter, hNext]
        exact (CdrService.spools_setSpool_self spool _).symm
      · rw [CdrProcess.appended, hEarlier, hNext, hAfter]
        simp only [CdrService.setSpool, CdrService.appended_ensureDomainWorker]
        exact h.appended
      · rw [hStored]
        exact h.stored
      · rw [hStored, hNext]
        exact hAligned
    · rw [← h.spool] at hAppend
      have hAfter : runStep codec r (.append item.command write) =
          { r with spool, pending := r.pending ++ [(position, item.command)] } := by
        rw [runStep, hAppend]
      refine ⟨hRun, ?_, ?_, ?_, ?_⟩
      · rw [hAfter, hNext]
        exact (CdrService.spools_setSpool_self spool _).symm
      · rw [CdrProcess.appended, hEarlier, hNext, hAfter]
        show ((p.earlier ++ (p.service.appended ++ [item])).filter _).map _ = done ++ List.map _ _
        rw [List.map_append, ← List.append_assoc done, ← h.appended, CdrProcess.appended,
          ← List.append_assoc, List.filter_append, List.map_append]
        simp [hDomain]
      · rw [hStored]
        exact h.stored
      · rw [hStored, hNext]
        exact hAligned

theorem Delivers.append {outcome : AppendOutcome} (h : Delivers codec p domainId r done)
    (hAccounted : p.service.Accounted) (hClean : writesClean codec p (.task (.append outcome)))
    (hStep : p.service.append codec outcome = some q.service) (hEarlier : q.earlier = p.earlier)
    (hStored : q.stored domainId = p.stored domainId) : ∃ r, Delivers codec q domainId r done := by
  obtain ⟨flushed, rest, item, queue, hWriter, hQueue, hOutcome⟩ := CdrService.append_cases hStep
  have hDomain : item.domainId = flushed :=
    domainId_of_queue hAccounted (by rw [hQueue]; exact .head _)
  by_cases hSame : domainId = flushed
  · subst hSame
    exact h.append_self hClean hWriter hQueue hDomain hStep hEarlier hStored
  · obtain ⟨hWorkers, hSpools⟩ := CdrService.frame_append_of_ne hStep hWriter hSame
    refine ⟨r, h.same hSpools ?_ hStored ?_⟩
    · have hOther : ¬ item.domainId = domainId := by
        rw [hDomain]
        exact fun hEq => hSame hEq.symm
      rw [CdrProcess.appended, CdrProcess.appended, hEarlier]
      rcases hOutcome with ⟨_, hNext⟩ | ⟨write, measured, _, hWritten⟩
      · rw [hNext]
        simp only [CdrService.appended_ensureDomainWorker]
      · rcases hWritten with ⟨error, spool, _, hNext⟩ | ⟨position, spool, _, hNext⟩
        · rw [hNext]
          simp only [CdrService.setSpool, CdrService.appended_ensureDomainWorker]
        · rw [hNext]
          simp [hOther]
    · rw [hWorkers]
      exact fun worker hWorker => .inr (.inr ⟨worker, hWorker, rfl⟩)

/-- The worker goes on to a phase that agrees with the spool. -/
theorem Delivers.goesOn {next : DomainWorker} (h : Delivers codec p domainId r done)
    (hWorker : q.service.workers domainId = some next)
    (hSame : (q.service.spools domainId, q.appended domainId) =
      (p.service.spools domainId, p.appended domainId))
    (hStored : (p.stored domainId).Sublist (q.stored domainId))
    (hAligned : Aligned codec r done (q.stored domainId) next.phase) :
    Delivers codec q domainId r done := by
  simp only [Prod.mk.injEq] at hSame
  refine ⟨h.run, ?_, ?_, h.stored.trans hStored, ?_⟩
  · rw [hSame.1, h.spool]
  · rw [hSame.2, h.appended]
  · intro worker hNow
    obtain rfl := Option.some.inj (hWorker.symm.trans hNow)
    exact hAligned

/-- The worker replays its spool. -/
theorem Delivers.loads {next : DomainWorker} (h : Delivers codec p domainId r done)
    (hNext : q.service = (p.service.setSpool domainId
      (CdrSpool.replay codec (p.service.spools domainId)).2).setWorker domainId next)
    (hEarlier : q.earlier = p.earlier)
    (hStored : (p.stored domainId).Sublist (q.stored domainId))
    (hAligned : Aligned codec (runStep codec r .replay) done (q.stored domainId) next.phase) :
    Delivers codec q domainId (runStep codec r .replay) done := by
  have hReplay := CdrSpool.replay_eq codec (Holds.of_run h.run).within
  have hAfter : runStep codec r .replay = { r with
      spool := r.spool.replayed codec
      seen := (r.spool.entries codec).map (·.position) ++ r.seen } := by
    rw [runStep, hReplay]
  refine ⟨CdrSpool.reachable_step h.run .replay trivial trivial, ?_, ?_,
    h.stored.trans hStored, ?_⟩
  · rw [hNext, hAfter, ← h.spool, hReplay]
    exact (CdrService.spools_setSpool_self _ _).symm
  · rw [CdrProcess.appended, hEarlier, hNext, hAfter]
    exact h.appended
  · intro worker hNow
    rw [hNext, CdrService.workers_setWorker_self] at hNow
    obtain rfl := Option.some.inj hNow
    exact hAligned

/-- The worker acknowledges what it has stored, or what is quarantined. -/
theorem Delivers.acknowledges {worker : DomainWorker} {position : SpoolPosition}
    {rest : List (ReplayEntry CdrWriteCommand)} (h : Delivers codec p domainId r done)
    (hWorker : p.service.workers domainId = some worker)
    (hPhase : worker.phase = .acknowledging position rest)
    (hNext : q.service = (p.service.setSpool domainId
      (CdrSpool.acknowledge position (p.service.spools domainId)).2).setWorker domainId
        { worker with phase := .measuring rest })
    (hEarlier : q.earlier = p.earlier) (hStored : q.stored domainId = p.stored domainId) :
    ∃ done, Delivers codec q domainId (runStep codec r (.acknowledge position)) done := by
  have hAligned := h.aligned worker hWorker
  rw [hPhase] at hAligned
  obtain ⟨entry, rfl, hAhead, hWritten⟩ := hAligned
  obtain ⟨hEntries, hPending⟩ := (Holds.of_run h.run).acknowledge_first hAhead
  have hRest : CdrSpool.Ahead codec (runStep codec r (.acknowledge entry.position)) rest := by
    have hNext := hAhead.next
    rw [hEntries, List.cons_prefix_cons] at hNext
    refine ⟨fun later hLater => ?_, hNext.2⟩
    rw [CdrSpool.seen_acknowledge]
    exact hAhead.seen later (.tail _ hLater)
  have hRun := CdrSpool.reachable_step h.run (.acknowledge entry.position) trivial
    (hAhead.seen entry (.head _))
  have hSpool : (runStep codec r (.acknowledge entry.position)).spool =
      q.service.spools domainId := by
    rw [hNext, ← h.spool, CdrSpool.spool_acknowledge]
    exact (CdrService.spools_setSpool_self _ _).symm
  have hAppended : q.appended domainId = p.appended domainId := by
    rw [CdrProcess.appended, hEarlier, hNext]
    rfl
  have hNow : ∀ done other, q.service.workers domainId = some other →
      Aligned codec (runStep codec r (.acknowledge entry.position)) done (q.stored domainId)
        other.phase := by
    intro done other hOther
    rw [hNext, CdrService.workers_setWorker_self] at hOther
    obtain rfl := Option.some.inj hOther
    exact hRest
  rcases hPending with hKept | ⟨command, hEntry, hTaken⟩
  · refine ⟨done, hRun, hSpool, ?_, ?_, hNow _⟩
    · rw [hAppended, h.appended, hKept]
    · rw [hStored]
      exact h.stored
  · refine ⟨done ++ [command], hRun, hSpool, ?_, ?_, hNow _⟩
    · rw [hAppended, h.appended, hTaken, List.map_cons, List.append_assoc, List.singleton_append]
    · rw [hStored]
      exact hWritten command hEntry

section Working

variable {worker : DomainWorker} {success : Bool} (h : Delivers codec p domainId r done)
  (hStep : p.service.workerStep codec domainId success = some q.service)
  (hEarlier : q.earlier = p.earlier)
  (hStored : q.stored domainId =
    p.stored domainId ++ p.service.stores domainId (.worker domainId success))
  (hWorker : p.service.workers domainId = some worker)

include h hEarlier hStored

/-- The worker moves on; the spool and the appends stay as they are. -/
theorem Delivers.movesOn {u : CdrService} (next : DomainWorker)
    (hNext : some (u.setWorker domainId next) = some q.service)
    (hSame : (u.spools, u.appended) = (p.service.spools, p.service.appended))
    (hPhase : Aligned codec r done (q.stored domainId) next.phase) :
    ∃ r done, Delivers codec q domainId r done := by
  simp only [Prod.mk.injEq] at hSame
  have hService := (Option.some.inj hNext).symm
  refine ⟨r, done, h.goesOn ?_ ?_ ?_ hPhase⟩
  · rw [hService, CdrService.workers_setWorker_self]
  · rw [CdrProcess.appended, CdrProcess.appended, hEarlier, hService]
    simp only [CdrService.setWorker, hSame.1, hSame.2]
  · rw [hStored]
    exact List.sublist_append_left _ _

include hStep hWorker

/-- What is loaded is all that is to come. -/
theorem Delivers.loadingStep (hPhase : worker.phase = .loading) :
    ∃ r done, Delivers codec q domainId r done := by
  rw [CdrService.workerStep, hWorker] at hStep
  simp only [hPhase] at hStep
  split at hStep
  · have hReplay := CdrSpool.replay_eq codec (Holds.of_run h.run).within
    rw [h.spool] at hReplay
    rw [hReplay] at hStep
    have hLoads : ∀ next, some ((p.service.setSpool domainId
          ((p.service.spools domainId).replayed codec)).setWorker domainId next) =
            some q.service →
        Aligned codec (runStep codec r .replay) done (q.stored domainId) next.phase →
        ∃ r done, Delivers codec q domainId r done := by
      intro next hNext hAligned
      refine ⟨runStep codec r .replay, done, h.loads ?_ hEarlier ?_ hAligned⟩
      · rw [hReplay]
        exact (Option.some.inj hNext).symm
      · rw [hStored]
        exact List.sublist_append_left _ _
    split at hStep
    · next hError => cases hError
    · next hEmpty =>
        obtain ⟨_, rfl⟩ := Prod.mk.inj hEmpty
        exact hLoads _ hStep trivial
    · next entries spool _ hLoaded =>
        obtain ⟨hEntries, rfl⟩ := Prod.mk.inj hLoaded
        refine hLoads _ hStep ?_
        rw [← Except.ok.inj hEntries, ← h.spool]
        exact .replay (Holds.of_run h.run)
  · exact h.movesOn hEarlier hStored _ hStep rfl trivial

/-- A record is handled by storing it; what is quarantined needs no more. -/
theorem Delivers.handlingStep {entry : ReplayEntry CdrWriteCommand}
    {rest : List (ReplayEntry CdrWriteCommand)}
    (hPhase : worker.phase = .handling (entry :: rest)) :
    ∃ r done, Delivers codec q domainId r done := by
  have hAligned := h.aligned worker hWorker
  rw [hPhase] at hAligned
  rw [CdrService.workerStep, hWorker] at hStep
  cases entry with
  | write position command =>
      simp only [hPhase] at hStep
      split at hStep
      · next hSuccess =>
          refine h.movesOn hEarlier hStored _ hStep rfl
            ⟨.write position command, rfl, hAligned, ?_⟩
          intro other hOther
          obtain ⟨_, rfl⟩ := ReplayEntry.write.inj hOther
          subst hSuccess
          rw [hStored]
          apply h.stored.append
          rw [CdrService.stores]
          simp [hWorker, hPhase, WorkerPhase.writes?]
      · exact h.movesOn hEarlier hStored _ hStep rfl trivial
  | quarantined position reason =>
      simp only [hPhase] at hStep
      refine h.movesOn hEarlier hStored _ hStep rfl
        ⟨.quarantined position reason, rfl, hAligned, ?_⟩
      intro other hOther
      cases hOther

/-- The checkpoint moves over what is stored, or stays behind if it fails. -/
theorem Delivers.acknowledgingStep {position : SpoolPosition}
    {rest : List (ReplayEntry CdrWriteCommand)}
    (hPhase : worker.phase = .acknowledging position rest) :
    ∃ r done, Delivers codec q domainId r done := by
  rw [CdrService.workerStep, hWorker] at hStep
  simp only [hPhase] at hStep
  split at hStep
  · split at hStep
    · next hAcknowledge =>
        rw [CdrService.setSpool_acknowledge_error hAcknowledge] at hStep
        exact h.movesOn hEarlier hStored _ hStep rfl trivial
    · next hAcknowledge =>
        have hNothing : p.service.stores domainId (.worker domainId success) = [] := by
          cases success with
          | false => rfl
          | true =>
              rw [CdrService.stores]
              simp [hWorker, hPhase, WorkerPhase.writes?]
        rw [hNothing, List.append_nil] at hStored
        obtain ⟨done, hDone⟩ := h.acknowledges hWorker hPhase
          (by rw [hAcknowledge]; exact (Option.some.inj hStep).symm) hEarlier hStored
        exact ⟨_, done, hDone⟩
  · exact h.movesOn hEarlier hStored _ hStep rfl trivial

end Working

theorem Delivers.workerStep {success : Bool} (h : Delivers codec p domainId r done)
    (hStep : p.service.workerStep codec domainId success = some q.service)
    (hEarlier : q.earlier = p.earlier)
    (hStored : q.stored domainId =
      p.stored domainId ++ p.service.stores domainId (.worker domainId success)) :
    ∃ r done, Delivers codec q domainId r done := by
  cases hWorker : p.service.workers domainId with
  | none =>
      rw [CdrService.workerStep, hWorker] at hStep
      cases hStep
  | some worker =>
      have hAligned := h.aligned worker hWorker
      have hNext := hStep
      rw [CdrService.workerStep, hWorker] at hNext
      cases hPhase : worker.phase with
      | receiving =>
          simp only [hPhase] at hNext
          split at hNext
          · exact h.movesOn hEarlier hStored _ hNext rfl trivial
          · split at hNext
            · cases hNext
            · exact h.movesOn hEarlier hStored _ hNext rfl trivial
      | draining =>
          simp only [hPhase] at hNext
          split at hNext
          · exact h.movesOn hEarlier hStored _ hNext rfl trivial
          · exact h.movesOn hEarlier hStored _ hNext rfl trivial
      | loading => exact h.loadingStep hStep hEarlier hStored hWorker hPhase
      | sleeping =>
          simp only [hPhase] at hNext
          exact h.movesOn hEarlier hStored _ hNext rfl trivial
      | handling entries =>
          cases entries with
          | nil =>
              simp only [hPhase] at hNext
              exact h.movesOn hEarlier hStored _ hNext rfl trivial
          | cons entry rest => exact h.handlingStep hStep hEarlier hStored hWorker hPhase
      | acknowledging position rest =>
          exact h.acknowledgingStep hStep hEarlier hStored hWorker hPhase
      | measuring rest =>
          rw [hPhase] at hAligned
          simp only [hPhase] at hNext
          split at hNext
          · exact h.movesOn hEarlier hStored _ hNext rfl hAligned
          · exact h.movesOn hEarlier hStored _ hNext rfl hAligned
      | publishing publication rest =>
          rw [hPhase] at hAligned
          simp only [hPhase] at hNext
          rcases CdrService.publish_cases publication p.service with
            ⟨_, hPublish⟩ | ⟨limits, _, hPublish⟩
          · rw [hPublish] at hNext
            exact h.movesOn hEarlier hStored _ hNext rfl hAligned
          · rw [hPublish] at hNext
            exact h.movesOn hEarlier hStored _ hNext rfl hAligned
      | stopped =>
          simp only [hPhase] at hNext
          cases hNext

theorem appended_restarted (spools : DomainId → CdrSpool) (limits : CdrSpoolLimits)
    (p : CdrProcess) (domainId : DomainId) :
    (p.restarted spools limits).appended domainId = p.appended domainId := by
  rw [CdrProcess.appended, restarted]
  simp only [CdrService.spawn, List.append_nil]
  rfl

/-- A process that dies between two writes leaves the spools as they are. -/
theorem Delivers.restart (h : Delivers codec p domainId r done) {spools : DomainId → CdrSpool}
    (hSpool : spools domainId = p.service.spools domainId) (limits : CdrSpoolLimits) :
    Delivers codec (p.restarted spools limits) domainId r done := by
  apply h.same hSpool
  · exact appended_restarted ..
  · rfl
  · intro worker hWorker
    cases hWorker

/-- The process dies in an append of the domain. -/
theorem Delivers.crash (h : Delivers codec p domainId r done) {command : CdrWriteCommand}
    {written : Nat} (hAllowed : CdrSpool.allowed codec r (.crash command written))
    (hClean : CdrSpool.writesClean codec r (.crash command written)) (limits : CdrSpoolLimits) :
    Delivers codec (p.restarted (Function.update p.service.spools domainId
      (CdrSpool.crash codec command written (p.service.spools domainId))) limits) domainId
      (runStep codec r (.crash command written)) done where
  run := CdrSpool.reachable_step h.run _ hClean hAllowed
  spool := by
    rw [runStep, h.spool]
    exact (Function.update_self domainId _ p.service.spools).symm
  appended := by
    rw [appended_restarted, h.appended]
    rfl
  stored := h.stored
  aligned worker hWorker := by cases hWorker

/-- The accounts of the running process, and the delivery in every domain. -/
structure Sound (codec : Codec CdrWriteCommand) (p : CdrProcess) : Prop where
  accounted : p.service.Accounted
  delivers : ∀ domainId, ∃ r done, Delivers codec p domainId r done

theorem Delivers.rests {action : CdrAction} (h : Delivers codec p domainId r done)
    (hRests : Rests p.service t) (hNothing : p.service.stores domainId action = []) :
    Delivers codec (p.advanced action t) domainId r done := by
  apply h.same (congrFun hRests.spools domainId)
  · rw [CdrProcess.appended, CdrProcess.appended]
    simp only [advanced, hRests.appended]
  · simp only [advanced, hNothing, List.append_nil]
  · exact hRests.workers domainId

theorem Sound.task {action : CdrAction} (h : Sound codec p)
    (hClean : writesClean codec p (.task action)) (hStep : p.service.step codec action = some t) :
    Sound codec (p.advanced action t) := by
  refine ⟨h.accounted.step hStep, fun domainId => ?_⟩
  obtain ⟨r, done, hDelivers⟩ := h.delivers domainId
  cases action with
  | append outcome =>
      have hNext : p.service.append codec outcome =
          some (p.advanced (.append outcome) t).service := hStep
      obtain ⟨r, hAppended⟩ := hDelivers.append h.accounted hClean hNext rfl (List.append_nil _)
      exact ⟨r, done, hAppended⟩
  | worker worked success =>
      by_cases hSame : worked = domainId
      · subst hSame
        have hNext : p.service.workerStep codec worked success =
            some (p.advanced (.worker worked success) t).service := hStep
        exact hDelivers.workerStep hNext rfl rfl
      · obtain ⟨worker, _, _, hMove⟩ := CdrService.workerStep_cases hStep
        obtain ⟨_, _, hFrame⟩ := hMove.frame
        obtain ⟨hWorkers, hSpools⟩ := hFrame domainId fun hEq => hSame hEq.symm
        have hAppended : t.appended = p.service.appended := by
          cases hMove with
          | _ => rfl
        have hNothing : p.service.stores domainId (.worker worked success) = [] := by
          cases success with
          | false => rfl
          | true => exact if_neg hSame
        refine ⟨r, done, hDelivers.same hSpools ?_ ?_ ?_⟩
        · rw [CdrProcess.appended, CdrProcess.appended]
          simp only [advanced, hAppended]
        · simp only [advanced, hNothing, List.append_nil]
        · exact fun other hOther => .inr (.inr ⟨other, hWorkers.symm.trans hOther, rfl⟩)
  | _ =>
      obtain ⟨hSame, hNothing⟩ := Rests.step hStep (fun _ h => by cases h) (fun _ _ h => by cases h)
      exact ⟨r, done, hDelivers.rests hSame (hNothing domainId)⟩

theorem Sound.step {step : ProcessStep} (h : Sound codec p) (hClean : writesClean codec p step)
    (hStep : p.step codec step = some q) : Sound codec q := by
  cases step with
  | task action =>
      obtain ⟨t, hTask, rfl⟩ := Option.map_eq_some_iff.mp hStep
      exact h.task hClean hTask
  | restart written limits =>
      cases written with
      | none =>
          obtain rfl := Option.some.inj hStep
          refine ⟨CdrService.accounted_spawn _ _, fun domainId => ?_⟩
          obtain ⟨r, done, hDelivers⟩ := h.delivers domainId
          exact ⟨r, done, hDelivers.restart rfl limits⟩
      | some written =>
          rw [CdrProcess.step] at hStep
          split at hStep
          · cases hStep
          · next crashed command hAppending =>
              split at hStep
              · next hTorn =>
                  obtain rfl := Option.some.inj hStep
                  refine ⟨CdrService.accounted_spawn _ _, fun domainId => ?_⟩
                  obtain ⟨r, done, hDelivers⟩ := h.delivers domainId
                  by_cases hSame : domainId = crashed
                  · subst hSame
                    exact ⟨_, done, hDelivers.crash hTorn
                      (writesClean_congr hDelivers.spool.symm (hClean _ _ hAppending)) limits⟩
                  · exact ⟨r, done, hDelivers.restart (Function.update_of_ne hSame ..) limits⟩
              · cases hStep

theorem sound_of_run (h : Transition.ReachableWithin (system codec) (writesClean codec) p) :
    Sound codec p := by
  apply h.invariant
  · rintro p ⟨spools, limits, hEmpty, rfl⟩
    refine ⟨CdrService.accounted_spawn _ _, fun domainId => ?_⟩
    have hStart : (spoolSystem codec).init
        { spool := spools domainId, pending := [], seen := [] } := ⟨hEmpty domainId, rfl, rfl⟩
    refine ⟨_, [], ⟨_, hStart, .refl⟩, rfl, rfl, .refl _, ?_⟩
    intro worker hWorker
    cases hWorker
  · intro p step q hp hClean hNext
    exact hp.step hClean hNext

/-- A replay shows what is pending, in its order. -/
theorem Delivers.replayed (h : Delivers codec p domainId r done) :
    ∃ entries, (CdrSpool.replay codec (p.service.spools domainId)).1 = .ok entries ∧
      (r.pending.map fun command => .write command.1 command.2).Sublist entries := by
  have hHolds := Holds.of_run h.run
  rw [← h.spool, CdrSpool.replay_eq codec hHolds.within]
  refine ⟨_, rfl, ?_⟩
  have hFrames := hHolds.frames.map fun located => CdrSpool.entryOf codec located.1 located.2
  rw [← CdrSpool.entries_eq, pendingFrames, List.map_map] at hFrames
  rw [List.map_congr_left fun command hMem => ?_] at hFrames
  · exact hFrames
  · rw [Function.comp_apply, CdrSpool.entryOf,
      CdrSpool.commandOf_pieceFor (hHolds.readable command hMem)]

/-- Over all deaths and restarts of the process, the appended commands of a domain are those that
its database took, in their order and each at least once, and behind them those that the next
replay of the spool returns. So no caller is told of a command that is neither stored nor
replayed. -/
theorem delivered_at_least_once
    (h : Transition.ReachableWithin (system codec) (writesClean codec) p) (domainId : DomainId) :
    ∃ (done : List CdrWriteCommand) (waiting : List (SpoolPosition × CdrWriteCommand))
        (entries : List (ReplayEntry CdrWriteCommand)),
      p.appended domainId = done ++ waiting.map (·.2) ∧
      done.Sublist (p.stored domainId) ∧
      (CdrSpool.replay codec (p.service.spools domainId)).1 = .ok entries ∧
      (waiting.map fun command => .write command.1 command.2).Sublist entries ∧
      ∀ ticket command, p.service.callers ticket = some { command, phase := .told true } →
        command.callCdr.domainId = domainId →
        command ∈ p.stored domainId ∨ ∃ position, .write position command ∈ entries := by
  have hSound := sound_of_run h
  obtain ⟨r, done, hDelivers⟩ := hSound.delivers domainId
  obtain ⟨entries, hReplay, hWaiting⟩ := hDelivers.replayed
  refine ⟨done, r.pending, entries, hDelivers.appended, hDelivers.stored, hReplay, hWaiting, ?_⟩
  intro ticket command hTold hDomain
  have hMem : command ∈ p.appended domainId := by
    rw [CdrProcess.appended, List.mem_map]
    refine ⟨{ command, ticket }, List.mem_filter.mpr ⟨?_, decide_eq_true hDomain⟩, rfl⟩
    exact List.mem_append_right _ (hSound.accounted.appended_of_told hTold)
  rw [hDelivers.appended, List.mem_append] at hMem
  rcases hMem with hDone | hPending
  · exact .inl (hDelivers.stored.subset hDone)
  · obtain ⟨⟨position, _⟩, hCommand, rfl⟩ := List.mem_map.mp hPending
    exact .inr ⟨position, hWaiting.subset (List.mem_map_of_mem hCommand)⟩

end Delivers

section Restarted

variable {codec : Codec CdrWriteCommand} {p q : CdrProcess} {s : CdrService} {domainId : DomainId}

/-- A process over empty spools. -/
def fresh : CdrProcess where
  service := .spawn (fun _ => .empty) sampleLimits
  earlier := []
  stored _ := []

/-- Steps of the tasks other than appends. -/
theorem runs_of_tasks {schedule : List CdrAction}
    (hQuiet : ∀ action ∈ schedule, ∀ outcome, action ≠ .append outcome)
    (h : schedule.foldlM (fun p action => p.step codec (.task action)) p = some q) :
    Transition.RunsWithin (system codec) (writesClean codec) p q := by
  induction schedule generalizing p with
  | nil =>
      obtain rfl := Option.some.inj h
      exact .refl
  | cons action rest ih =>
      rw [List.foldlM_cons] at h
      obtain ⟨next, hStep, hRest⟩ := Option.bind_eq_some_iff.mp h
      have hClean : writesClean codec p (.task action) := by
        cases action with
        | append outcome => exact (hQuiet _ (.head _) outcome rfl).elim
        | _ => trivial
      have hLater := ih (fun other hMem => hQuiet other (.tail _ hMem)) hRest
      exact (Transition.RunsWithin.step .refl hClean hStep).trans hLater

/-- A command gets to the writer. -/
def handedOver : List CdrAction :=
  [.enqueueDurable 0 shortCommand, .caller 0, .caller 0, .listDomains [], .writer, .receive]

/-- The append in progress succeeds. -/
theorem append_of_appending {command : CdrWriteCommand}
    (h : s.appending = some (domainId, command))
    (hFits : (codec.encode spoolSchemaVersion command).length ≤ maxFrameSize) :
    ∃ item t, s.append codec (.written .synced false) = some t ∧ item.command = command ∧
      t.appended = s.appended ++ [item] := by
  rw [CdrService.appending] at h
  split at h
  · next flushed rest hWriter =>
      obtain ⟨item, hItem, hSame⟩ := Option.map_eq_some_iff.mp h
      obtain ⟨queue, hQueue⟩ := List.head?_eq_some_iff.mp hItem
      obtain ⟨rfl, rfl⟩ := Prod.mk.inj hSame
      rw [CdrService.append, hWriter]
      simp only [hQueue, CdrSpool.append_synced hFits]
      refine ⟨item, _, rfl, rfl, ?_⟩
      simp only [CdrService.setSpool, CdrService.appended_ensureDomainWorker]
  · cases h

/-- The process dies once it has appended the command. -/
theorem restarted_pending :
    ∃ p, Transition.ReachableWithin (system tornCodec) (writesClean tornCodec) p ∧
      p.appended "domain-a" = [shortCommand] ∧ p.stored "domain-a" = [] ∧
      ∃ spools, p.service = .spawn spools sampleLimits := by
  have hParts : (handedOver.foldlM (fun p action => step tornCodec p (.task action)) fresh).map
      (fun p => (p.service.appending, p.service.spools, p.service.appended, p.earlier, p.stored)) =
      some (some ("domain-a", shortCommand), fun _ => .empty, [], [], fun _ => []) := rfl
  obtain ⟨p, hTasks, hParts⟩ := Option.map_eq_some_iff.mp hParts
  simp only [Prod.mk.injEq] at hParts
  obtain ⟨hAppending, hSpools, hAppended, hEarlier, hStored⟩ := hParts
  have hQuiet : ∀ action ∈ handedOver, ∀ outcome, action ≠ .append outcome := by
    simp [handedOver]
  have hHanded : Transition.ReachableWithin (system tornCodec) (writesClean tornCodec) p :=
    ⟨fresh, ⟨_, _, fun _ => rfl, rfl⟩, runs_of_tasks hQuiet hTasks⟩
  obtain ⟨item, t, hAppend, hItem, hNow⟩ := append_of_appending hAppending shortCommand_fits
  have hClean : writesClean tornCodec p (.task (.append (.written .synced false))) := by
    intro domainId command hSame
    obtain ⟨rfl, rfl⟩ := Prod.mk.inj (Option.some.inj (hAppending.symm.trans hSame))
    rw [hSpools]
    exact ⟨rfl, fun _ => ⟨shortCommand_roundTrips, rfl⟩⟩
  have hStep : p.step tornCodec (.task (.append (.written .synced false))) =
      some (p.advanced (.append (.written .synced false)) t) :=
    congrArg (Option.map fun service => p.advanced (.append (.written .synced false)) service)
      hAppend
  have hAfter := hHanded.step hClean hStep
  have hDies : writesClean tornCodec (p.advanced (.append (.written .synced false)) t)
    (.restart none sampleLimits) := trivial
  refine ⟨_, hAfter.step hDies rfl, ?_, ?_, _, rfl⟩
  · rw [appended_restarted, appended]
    simp only [advanced, hEarlier, hNow, hAppended, List.nil_append]
    rw [List.filter_cons_of_pos (by simp [PendingAppend.domainId, hItem]; rfl),
      List.map_cons, hItem]
    rfl
  · show p.stored "domain-a" ++ _ = []
    rw [hStored]
    rfl

/-- What the process had not stored when it died is replayed by the next one. -/
theorem delivered_at_least_once_restarted :
    ∃ p, Transition.ReachableWithin (system tornCodec) (writesClean tornCodec) p ∧
      p.service.appended = [] ∧ ∃ entries,
        (CdrSpool.replay tornCodec (p.service.spools "domain-a")).1 = .ok entries ∧
        ∃ position, .write position shortCommand ∈ entries := by
  obtain ⟨p, hReachable, hAppended, hStored, spools, hService⟩ := restarted_pending
  obtain ⟨done, waiting, entries, hSplit, hDone, hReplay, hWaiting, _⟩ :=
    delivered_at_least_once hReachable "domain-a"
  refine ⟨p, hReachable, by rw [hService]; rfl, entries, hReplay, ?_⟩
  rw [hStored, List.sublist_nil] at hDone
  rw [hAppended, hDone, List.nil_append] at hSplit
  obtain ⟨⟨position, _⟩, _, rfl, rfl, _⟩ := List.map_eq_cons_iff.mp hSplit.symm
  exact ⟨position, hWaiting.subset (.head _)⟩

end Restarted

end CdrProcess

end VoipSwitch
