import VoipSwitch.Cdr.Delivery

/-! A domain worker whose files and database do not fail stores all that was appended for its
domain. Its steps have a rank, by the entries that its spool still shows. -/
namespace VoipSwitch

open CdrSpool (Holds runStep tornCodec shortCommand)

/-- How far a worker is from the acknowledgement of an entry. -/
def WorkerPhase.distance (wake : Bool) : WorkerPhase → Nat
  | .receiving => 4
  | .draining => if wake then 4 else 3
  | .loading => 2
  | .sleeping => 3
  | .handling [] => 3
  | .handling (_ :: _) => 1
  | .acknowledging _ _ => 0
  | .measuring _ => 6
  | .publishing publication _ => if publication.limits.isSome then 4 else 5
  | .stopped => 0

/-- Whether a worker has nothing to do in a phase, unless it is woken. -/
def WorkerPhase.waits : WorkerPhase → Bool
  | .receiving | .stopped => true
  | _ => false

namespace CdrProcess

variable {codec : Codec CdrWriteCommand} {p q : CdrProcess} {s t : CdrService}
  {domainId : DomainId} {worker : DomainWorker}

/-- The worker has steps to take: it runs, and if it waits for a wake there is one. -/
structure Awake (s : CdrService) (domainId : DomainId) (worker : DomainWorker) : Prop where
  there : s.workers domainId = some worker
  runs : worker.phase ≠ .stopped
  woken : worker.phase = .receiving → worker.wake = true

/-- An acknowledgement is worth more than all that a worker does between two of them. -/
def rank (codec : Codec CdrWriteCommand) (s : CdrService) (domainId : DomainId)
    (worker : DomainWorker) : Nat :=
  10 * ((s.spools domainId).entries codec).length + worker.phase.distance worker.wake

/-- The worker has found nothing to replay, or is closer to that. -/
def Closer (codec : Codec CdrWriteCommand) (s t : CdrService) (domainId : DomainId)
    (worker : DomainWorker) : Prop :=
  (CdrSpool.replay codec (t.spools domainId)).1 = .ok [] ∨
    ∃ next, Awake t domainId next ∧ rank codec t domainId next < rank codec s domainId worker

theorem Awake.setWorker {next : DomainWorker} (h : next.phase.waits = false) :
    Awake (s.setWorker domainId next) domainId next where
  there := CdrService.workers_setWorker_self _ _
  runs hStopped := by
    rw [hStopped] at h
    cases h
  woken hReceiving := by
    rw [hReceiving] at h
    cases h

/-- A step that leaves the spool alone. -/
theorem Closer.of_distance {next : DomainWorker} (hSpools : t.spools = s.spools)
    (hWaits : next.phase.waits = false)
    (hDistance : next.phase.distance next.wake < worker.phase.distance worker.wake) :
    Closer codec s (t.setWorker domainId next) domainId worker := by
  refine .inr ⟨next, .setWorker hWaits, ?_⟩
  rw [rank, rank]
  simp only [CdrService.setWorker, hSpools]
  omega

/-- A replay that finds nothing is the end, one that finds something is followed by its handling. -/
theorem Closer.of_replay {next : DomainWorker} (hWithin : (s.spools domainId).CheckpointWithin)
    (hNext : (s.spools domainId).entries codec ≠ [] → next.phase.waits = false ∧
      next.phase.distance next.wake < worker.phase.distance worker.wake) :
    Closer codec s ((s.setSpool domainId ((s.spools domainId).replayed codec)).setWorker domainId
      next) domainId worker := by
  have hSpool : ((s.setSpool domainId ((s.spools domainId).replayed codec)).setWorker
      domainId next).spools domainId = (s.spools domainId).replayed codec :=
    CdrService.spools_setSpool_self _ _
  by_cases hEntries : (s.spools domainId).entries codec = []
  · left
    rw [hSpool, CdrSpool.replay_eq codec (hWithin.replayed codec), CdrSpool.entries_replayed,
      hEntries]
  · obtain ⟨hWaits, hDistance⟩ := hNext hEntries
    refine .inr ⟨next, .setWorker hWaits, ?_⟩
    rw [rank, rank, hSpool, CdrSpool.entries_replayed]
    omega

/-- Each step that succeeds brings a worker closer to an empty spool. -/
theorem worker_closer (h : Sound codec p) (hAwake : Awake p.service domainId worker) :
    ∃ t, p.service.workerStep codec domainId true = some t ∧
      Closer codec p.service t domainId worker := by
  obtain ⟨r, done, hDelivers⟩ := h.delivers domainId
  have hHolds := Holds.of_run hDelivers.run
  have hAligned := hDelivers.aligned worker hAwake.there
  obtain ⟨phase, wake, connected⟩ := worker
  rw [CdrService.workerStep, hAwake.there]
  cases phase with
  | receiving =>
      have hWake : wake = true := hAwake.woken rfl
      subst hWake
      exact ⟨_, rfl, .of_distance rfl rfl (by simp [WorkerPhase.distance])⟩
  | draining =>
      cases wake with
      | true => exact ⟨_, rfl, .of_distance rfl rfl (by simp [WorkerPhase.distance])⟩
      | false => exact ⟨_, rfl, .of_distance rfl rfl (by simp [WorkerPhase.distance])⟩
  | loading =>
      have hWithin := hHolds.within
      rw [hDelivers.spool] at hWithin
      simp only [if_true, CdrSpool.replay_eq codec hWithin]
      cases hEntries : (p.service.spools domainId).entries codec with
      | nil => exact ⟨_, rfl, .of_replay hWithin fun h => (h hEntries).elim⟩
      | cons entry entries =>
          exact ⟨_, rfl, .of_replay hWithin fun _ => ⟨rfl, by simp [WorkerPhase.distance]⟩⟩
  | sleeping => exact ⟨_, rfl, .of_distance rfl rfl (by simp [WorkerPhase.distance])⟩
  | handling entries =>
      cases entries with
      | nil => exact ⟨_, rfl, .of_distance rfl rfl (by simp [WorkerPhase.distance])⟩
      | cons entry rest =>
          cases entry with
          | write position command =>
              exact ⟨_, rfl, .of_distance rfl rfl (by simp [WorkerPhase.distance])⟩
          | quarantined position reason =>
              exact ⟨_, rfl, .of_distance rfl rfl (by simp [WorkerPhase.distance])⟩
  | acknowledging position rest =>
      obtain ⟨entry, rfl, hAhead, _⟩ := hAligned
      obtain ⟨hEntries, _⟩ := hHolds.acknowledge_first hAhead
      have hAcknowledge := hAhead.acknowledge
      rw [CdrSpool.spool_acknowledge, hAcknowledge] at hEntries
      rw [hDelivers.spool] at hAcknowledge hEntries
      simp only [if_true, hAcknowledge]
      refine ⟨_, rfl, .inr ⟨_, .setWorker rfl, ?_⟩⟩
      have hSpool : ∀ next, ((p.service.setSpool domainId
          ((p.service.spools domainId).acknowledged entry.position)).setWorker domainId
            next).spools domainId = (p.service.spools domainId).acknowledged entry.position :=
        fun _ => CdrService.spools_setSpool_self _ _
      rw [rank, rank, hSpool, hEntries, List.length_cons]
      simp only [WorkerPhase.distance]
      omega
  | measuring rest =>
      exact ⟨_, rfl, .of_distance rfl rfl (by simp [WorkerPhase.distance])⟩
  | publishing publication rest =>
      rcases CdrService.publish_cases publication p.service with
        ⟨hLimits, hPublish⟩ | ⟨limits, hLimits, hPublish⟩
      · simp only [hPublish]
        exact ⟨_, rfl, .of_distance rfl rfl (by simp [WorkerPhase.distance, hLimits])⟩
      · simp only [hPublish]
        refine ⟨_, rfl, .of_distance rfl rfl ?_⟩
        cases rest with
        | nil => simp [WorkerPhase.distance, hLimits]
        | cons entry rest => simp [WorkerPhase.distance, hLimits]
  | stopped => exact (hAwake.runs rfl).elim

theorem appended_worker {success : Bool}
    (h : p.service.workerStep codec domainId success = some t) (other : DomainId) :
    (p.advanced (.worker domainId success) t).appended other = p.appended other := by
  obtain ⟨worker, _, _, hMove⟩ := CdrService.workerStep_cases h
  rw [appended, appended]
  cases hMove with
  | _ => rfl

/-- The steps of a worker whose files and database do not fail. -/
def works (domainId : DomainId) (_ : CdrProcess) (step : ProcessStep) : Prop :=
  step = .task (.worker domainId true)

theorem drains_of_sound {n : Nat} (h : Sound codec p) (hAwake : Awake p.service domainId worker)
    (hRank : rank codec p.service domainId worker = n) :
    ∃ q, Transition.RunsWithin (system codec) (works domainId) p q ∧ Sound codec q ∧
      q.appended domainId = p.appended domainId ∧
      (CdrSpool.replay codec (q.service.spools domainId)).1 = .ok [] := by
  induction n using Nat.strong_induction_on generalizing p worker with
  | h n ih =>
      obtain ⟨t, hWorker, hCloser⟩ := worker_closer h hAwake
      have hStep : p.step codec (.task (.worker domainId true)) =
          some (p.advanced (.worker domainId true) t) :=
        congrArg (Option.map fun service => p.advanced (.worker domainId true) service) hWorker
      have hClean : writesClean codec p (.task (.worker domainId true)) := trivial
      have hSound := h.step hClean hStep
      have hAppended := appended_worker hWorker domainId
      have hRun : Transition.RunsWithin (system codec) (works domainId) p
          (p.advanced (.worker domainId true) t) := .step .refl rfl hStep
      rcases hCloser with hEmpty | ⟨next, hNext, hLess⟩
      · exact ⟨_, hRun, hSound, hAppended, hEmpty⟩
      · obtain ⟨q, hRest, hEnd, hSame, hEmpty⟩ :=
          ih (rank codec t domainId next) (hRank ▸ hLess) hSound hNext rfl
        exact ⟨q, hRun.trans hRest, hEnd, hSame.trans hAppended, hEmpty⟩

/-- From every state over any deaths and restarts, a worker that is awake and whose files and
database do not fail stores in finitely many steps all that was appended for its domain, and
leaves its spool empty. -/
theorem worker_stores_appended
    (h : Transition.ReachableWithin (system codec) (writesClean codec) p)
    (hAwake : Awake p.service domainId worker) :
    ∃ q, Transition.RunsWithin (system codec) (works domainId) p q ∧
      q.appended domainId = p.appended domainId ∧
      (p.appended domainId).Sublist (q.stored domainId) ∧
      (CdrSpool.replay codec (q.service.spools domainId)).1 = .ok [] := by
  obtain ⟨q, hRun, hSound, hAppended, hEmpty⟩ := drains_of_sound (sound_of_run h) hAwake rfl
  refine ⟨q, hRun, hAppended, ?_, hEmpty⟩
  obtain ⟨r, done, hDelivers⟩ := hSound.delivers domainId
  obtain ⟨entries, hReplay, hWaiting⟩ := hDelivers.replayed
  obtain rfl := Except.ok.inj (hEmpty.symm.trans hReplay)
  rw [List.sublist_nil, List.map_eq_nil_iff] at hWaiting
  rw [← hAppended, hDelivers.appended, hWaiting, List.map_nil, List.append_nil]
  exact hDelivers.stored

/-- The worker of the domain is started and woken. -/
def wokenSchedule : List CdrAction := [.listDomains ["domain-a"], .measureStart false, .writer]

/-- A command that the process before this one appended is stored. -/
theorem worker_stores_appended_restarted :
    ∃ q, Transition.ReachableWithin (system tornCodec) (writesClean tornCodec) q ∧
      [shortCommand].Sublist (q.stored "domain-a") := by
  obtain ⟨p, hReachable, hAppended, _, spools, hService⟩ := restarted_pending
  have hWoken : (wokenSchedule.foldlM (fun p action => step tornCodec p (.task action)) p).map
      (fun p => (p.service.workers "domain-a", p.appended "domain-a")) =
      some (some { phase := .receiving, wake := true, connected := true },
        p.appended "domain-a") := by
    obtain ⟨service, earlier, stored⟩ := p
    subst hService
    rfl
  obtain ⟨woken, hTasks, hParts⟩ := Option.map_eq_some_iff.mp hWoken
  obtain ⟨hWorker, hSame⟩ := Prod.mk.inj hParts
  have hQuiet : ∀ action ∈ wokenSchedule, ∀ outcome, action ≠ .append outcome := by
    simp [wokenSchedule]
  have hWokenReachable : Transition.ReachableWithin (system tornCodec) (writesClean tornCodec)
      woken := by
    obtain ⟨start, hStart, run⟩ := hReachable
    exact ⟨start, hStart, run.trans (runs_of_tasks hQuiet hTasks)⟩
  obtain ⟨q, hRun, _, hStored, _⟩ := worker_stores_appended hWokenReachable
    ⟨hWorker, (by intro hStopped; cases hStopped), fun _ => rfl⟩
  refine ⟨q, ?_, ?_⟩
  · obtain ⟨start, hStart, run⟩ := hWokenReachable
    refine ⟨start, hStart, run.trans (hRun.mono fun state step hStep => ?_)⟩
    rw [hStep]
    trivial
  · rw [hSame, hAppended] at hStored
    exact hStored

end CdrProcess

end VoipSwitch
