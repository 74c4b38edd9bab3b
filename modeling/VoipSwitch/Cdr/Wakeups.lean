import VoipSwitch.Cdr.Acknowledged
import VoipSwitch.Cdr.RoundTrip

/-! A worker that sleeps has nothing to do. A wake may be lost on a full channel, and is drained
before a replay; what counts is that the replay comes after the append. -/
namespace VoipSwitch

open Keyed
open CdrSpool (shortCommand tornCodec)

/-- A replay that finds nothing leaves a spool in which the next one finds nothing. -/
theorem CdrSpool.replay_of_drained {spool : CdrSpool} {codec : Codec CdrWriteCommand}
    (h : (replay codec spool).1 = .ok []) :
    (replay codec (replay codec spool).2).1 = .ok [] := by
  by_cases hWithin : spool.CheckpointWithin
  · rw [replay_eq codec hWithin] at h ⊢
    rw [replay_eq codec (hWithin.replayed codec), entries_replayed]
    exact h
  · obtain ⟨error, hReplay⟩ := replay_beyond codec hWithin
    rw [hReplay] at h ⊢
    cases h

/-- The domain that the writer has started and not woken yet. -/
def WriterPhase.starts? : WriterPhase → Option DomainId
  | .startPublishing publication _ => some publication.domainId
  | .startWaking domainId _ => some domainId
  | _ => none

/-- The domain whose worker was woken and whose front command is not acknowledged yet. -/
def WriterPhase.acknowledges? : WriterPhase → Option DomainId
  | .acknowledging domainId _ => some domainId
  | _ => none

/-- The writer is in its `select`, or at its end. -/
def WriterPhase.idle : WriterPhase → Bool
  | .selecting | .finishing | .stopped => true
  | _ => false

theorem WriterPhase.starts_of_idle {phase : WriterPhase} (h : phase.idle = true) :
    phase.starts? = none := by
  cases phase with
  | selecting | finishing | stopped => rfl
  | _ => cases h

namespace CdrService

/-- The worker of a domain waits for a wake, and there is none. -/
def Sleeps (s : CdrService) (domainId : DomainId) : Prop :=
  ∃ worker, s.workers domainId = some worker ∧ worker.phase = .receiving ∧ worker.wake = false

/-- The writer owes a wake: it has started the domain, or has a command of it that no append with
a wake came through for. -/
def OwesWake (s : CdrService) (domainId : DomainId) : Prop :=
  s.writer.starts? = some domainId ∨
    s.queue domainId ≠ [] ∧ s.writer.acknowledges? ≠ some domainId

/-- Who sleeps and is owed no wake has an empty spool. -/
def Heard (codec : Codec CdrWriteCommand) (s : CdrService) (domainId : DomainId) : Prop :=
  s.Sleeps domainId → ¬ s.OwesWake domainId →
    (CdrSpool.replay codec (s.spools domainId)).1 = .ok []

section Steps

variable {s t : CdrService} {codec : Codec CdrWriteCommand} {domainId other : DomainId}

theorem Heard.mono (h : s.Heard codec domainId) (hSleeps : t.Sleeps domainId → s.Sleeps domainId)
    (hSpool : t.spools domainId = s.spools domainId)
    (hOwes : s.OwesWake domainId → t.OwesWake domainId) : t.Heard codec domainId := by
  intro hAsleep hPaid
  rw [hSpool]
  exact h (hSleeps hAsleep) fun hOwed => hPaid (hOwes hOwed)

/-- The writer goes from one phase to another. -/
theorem Heard.turn (h : s.Heard codec domainId)
    (hSame : (t.workers, t.spools, t.queue) = (s.workers, s.spools, s.queue))
    (hStarts : s.writer.starts? = some domainId → t.writer.starts? = some domainId)
    (hAcknowledges : t.writer.acknowledges? = some domainId →
      s.writer.acknowledges? = some domainId) : t.Heard codec domainId := by
  simp only [Prod.mk.injEq] at hSame
  obtain ⟨hWorkers, hSpools, hQueue⟩ := hSame
  apply h.mono
  · rw [Sleeps, Sleeps, hWorkers]
    exact id
  · rw [hSpools]
  · rintro (hStarted | ⟨hWaiting, hOpen⟩)
    · exact .inl (hStarts hStarted)
    · exact .inr ⟨by rw [hQueue]; exact hWaiting, fun hNow => hOpen (hAcknowledges hNow)⟩

/-- Steps of others than the writer and the worker. -/
theorem Heard.same (h : s.Heard codec domainId)
    (hSame : (t.workers, t.spools, t.queue) = (s.workers, s.spools, s.queue))
    (hWriter : t.writer = s.writer) : t.Heard codec domainId := by
  apply h.turn hSame
  · rw [hWriter]
    exact id
  · rw [hWriter]
    exact id

/-- The domain that the writer wakes does not sleep, and the others are left alone. -/
theorem Heard.woken (h : s.Heard codec domainId) {woken : DomainId} {writer : WriterPhase}
    (hStarts : ∀ started, s.writer.starts? = some started → started = woken)
    (hAcknowledges : ∀ open', writer.acknowledges? = some open' → open' = woken) :
    Heard codec { s.wakeDomainWorker woken with writer := writer } domainId := by
  by_cases hSame : domainId = woken
  · subst hSame
    rintro ⟨worker, hWorker, _, hAsleep⟩ _
    simp only [workers_wakeDomainWorker_self, Option.map_eq_some_iff] at hWorker
    obtain ⟨before, _, rfl⟩ := hWorker
    cases hAsleep
  · apply h.mono
    · simp only [Sleeps, workers_wakeDomainWorker_of_ne hSame, imp_self]
    · rfl
    · rintro (hStarted | ⟨hWaiting, _⟩)
      · exact (hSame (hStarts domainId hStarted)).elim
      · exact .inr ⟨hWaiting, fun hNow => hSame (hAcknowledges domainId hNow)⟩

/-- The writer takes back what it owes only where it sends the wake; its other steps leave the
spools and what is owed. -/
theorem Heard.writerStep (h : s.Heard codec domainId) (hStep : s.writerStep = some t) :
    t.Heard codec domainId := by
  rw [CdrService.writerStep] at hStep
  split at hStep
  · next hWriter =>
      obtain rfl := Option.some.inj hStep
      exact h.turn rfl (by rw [hWriter]; intro h; cases h) (by intro h; cases h)
  · next publication rest hWriter =>
      have hStarts : s.writer.starts? = some publication.domainId := by rw [hWriter]; rfl
      rcases publish_cases publication s with ⟨_, hPublish⟩ | ⟨limits, _, hPublish⟩
      · rw [hPublish] at hStep
        obtain rfl := Option.some.inj hStep
        exact h.turn rfl (by rw [hStarts]; exact id) (by intro h; cases h)
      · rw [hPublish] at hStep
        obtain rfl := Option.some.inj hStep
        exact h.turn rfl (by rw [hStarts]; exact id) (by intro h; cases h)
  · next woken rest hWriter =>
      obtain rfl := Option.some.inj hStep
      apply h.woken
      · rw [hWriter]
        exact fun started hStarted => (Option.some.inj hStarted).symm
      · intro open' hOpen
        cases hOpen
  · next hWriter =>
      obtain rfl := Option.some.inj hStep
      exact h.turn rfl (by rw [hWriter]; intro h; cases h) (by intro h; cases h)
  · next flushed rest hWriter =>
      split at hStep
      · next hEmpty =>
          obtain rfl := Option.some.inj hStep
          apply h.turn
          · simp only [Prod.mk.injEq, true_and]
            exact queue_remove hEmpty
          · rw [hWriter]
            intro hStarted
            cases hStarted
          · intro hOpen
            cases hOpen
      · cases hStep
  · next publication rest hWriter =>
      rcases publish_cases publication s with ⟨_, hPublish⟩ | ⟨limits, _, hPublish⟩
      · rw [hPublish] at hStep
        obtain rfl := Option.some.inj hStep
        exact h.turn rfl (by rw [hWriter]; intro h; cases h) (by intro h; cases h)
      · rw [hPublish] at hStep
        obtain rfl := Option.some.inj hStep
        exact h.turn rfl (by rw [hWriter]; intro h; cases h) (by intro h; cases h)
  · next woken rest hWriter =>
      obtain rfl := Option.some.inj hStep
      apply h.woken
      · rw [hWriter]
        intro started hStarted
        cases hStarted
      · exact fun open' hOpen => (Option.some.inj hOpen).symm
  · next acknowledged rest hWriter =>
      obtain rfl := Option.some.inj hStep
      obtain ⟨hWorkers, hSpools, _, hPhase, hQueue⟩ := frame_acknowledgeFront acknowledged rest s
      apply h.mono
      · rw [Sleeps, Sleeps, hWorkers]
        exact id
      · rw [hSpools]
      · rintro (hStarted | ⟨hWaiting, hOpen⟩)
        · rw [hWriter] at hStarted
          cases hStarted
        · have hOther : domainId ≠ acknowledged := by
            rintro rfl
            rw [hWriter] at hOpen
            exact hOpen rfl
          rw [OwesWake, hPhase, hQueue domainId hOther]
          exact .inr ⟨hWaiting, fun hSame => by cases hSame⟩
  · next refused rest hWriter =>
      obtain rfl := Option.some.inj hStep
      exact h.turn rfl (by rw [hWriter]; intro h; cases h) (by intro h; cases h)
  · next hWriter =>
      obtain rfl := Option.some.inj hStep
      rw [checkFinished]
      split
      · rintro ⟨worker, hWorker, _, hAsleep⟩ _
        obtain ⟨before, _, rfl⟩ := Option.map_eq_some_iff.mp hWorker
        cases hAsleep
      · exact h.turn rfl (by rw [hWriter]; intro h; cases h) (by intro h; cases h)
  · next hWriter =>
      obtain rfl := Option.some.inj hStep
      exact h.turn rfl (by rw [hWriter]; intro h; cases h) (by intro h; cases h)
  · cases hStep

/-- After an append, whatever comes of it, the wake is still to be sent. -/
theorem phases_append {outcome : AppendOutcome} (hStep : s.append codec outcome = some t) :
    t.writer.starts? = none ∧ t.writer.acknowledges? = none := by
  obtain ⟨flushed, rest, item, queue, _, _, hOutcome⟩ := append_cases hStep
  rcases hOutcome with ⟨_, rfl⟩ | ⟨write, measured, _, hWritten⟩
  · exact ⟨rfl, rfl⟩
  · rcases hWritten with ⟨error, spool, _, rfl⟩ | ⟨position, spool, _, rfl⟩
    · exact ⟨rfl, rfl⟩
    · cases measured with
      | false => exact ⟨rfl, rfl⟩
      | true => exact ⟨rfl, rfl⟩

/-- The domain of a command that is appended, or is not, is owed a wake. -/
theorem Heard.append {outcome : AppendOutcome} (h : s.Heard codec domainId)
    (hStep : s.append codec outcome = some t) : t.Heard codec domainId := by
  obtain ⟨flushed, rest, item, queue, hWriter, hQueue, _⟩ := append_cases hStep
  obtain ⟨_, hOpen⟩ := phases_append hStep
  have hOwes : s.queue domainId ≠ [] → t.OwesWake domainId := by
    intro hWaiting
    rw [OwesWake, (frame_append hStep).1, hOpen]
    exact .inr ⟨hWaiting, nofun⟩
  by_cases hSame : domainId = flushed
  · subst hSame
    exact fun _ hPaid => (hPaid (hOwes (by rw [hQueue]; exact nofun))).elim
  · obtain ⟨hWorker, hSpool⟩ := frame_append_of_ne hStep hWriter hSame
    apply h.mono
    · rw [Sleeps, Sleeps, hWorker]
      exact id
    · exact hSpool
    · rintro (hStarted | ⟨hWaiting, _⟩)
      · rw [hWriter] at hStarted
        cases hStarted
      · exact hOwes hWaiting

theorem not_sleeps_setWorker {worker : DomainWorker} (h : worker.phase ≠ .receiving) :
    ¬ Sleeps (s.setWorker domainId worker) domainId := by
  rintro ⟨asleep, hAsleep, hReceiving, _⟩
  rw [workers_setWorker_self, Option.some.injEq] at hAsleep
  rw [← hAsleep] at hReceiving
  exact h hReceiving

theorem Heard.workerStep {success : Bool} (h : s.Heard codec domainId)
    (hStep : s.workerStep codec other success = some t) : t.Heard codec domainId := by
  obtain ⟨worker, _, _, hMove⟩ := workerStep_cases hStep
  obtain ⟨hWriter, hQueue, hFrame⟩ := hMove.frame
  by_cases hSame : domainId = other
  · subst hSame
    -- Only a replay that finds nothing lets the worker wait again.
    cases hMove with
    | goesOn next hPhase => exact fun hAsleep => (not_sleeps_setWorker hPhase hAsleep).elim
    | replays next _ _ hReceiving =>
        intro hAsleep _
        have hPhase : next.phase = .receiving := by
          by_contra hOther
          exact not_sleeps_setWorker hOther hAsleep
        have hDrained := CdrSpool.replay_of_drained (hReceiving hPhase)
        rw [← spools_setSpool_self (CdrSpool.replay codec (s.spools domainId)).2 s] at hDrained
        exact hDrained
    | advances position rest => exact fun hAsleep => (not_sleeps_setWorker (by simp) hAsleep).elim
    | publishes publication rest limits =>
        exact fun hAsleep => (not_sleeps_setWorker (by simp) hAsleep).elim
  · obtain ⟨hWorker, hSpool⟩ := hFrame domainId hSame
    apply h.mono
    · rw [Sleeps, Sleeps, hWorker]
      exact id
    · exact hSpool
    · rw [OwesWake, OwesWake, hWriter, hQueue]
      exact id

theorem Heard.works (h : s.Heard codec domainId) (hWorks : t.works = s.works) :
    t.Heard codec domainId := by
  simp only [CdrService.works, Prod.mk.injEq] at hWorks
  obtain ⟨hWorkers, hSpools, hQueue, _, hWriter⟩ := hWorks
  exact h.same (by rw [hWorkers, hSpools, hQueue]) hWriter

/-- A domain that is started is owed its first wake. -/
theorem Heard.started (h : s.Heard codec domainId) {started : DomainId} {writer : WriterPhase}
    (hBefore : s.writer.starts? = none) (hStarts : writer.starts? = some started)
    (hOpen : writer.acknowledges? = none) :
    Heard codec { s.ensureDomainWorker started with writer := writer } domainId := by
  by_cases hSame : domainId = started
  · subst hSame
    exact fun _ hPaid => (hPaid (.inl hStarts)).elim
  · apply h.mono
    · simp only [Sleeps, workers_ensureDomainWorker_of_ne hSame, imp_self]
    · exact congrFun (spools_ensureDomainWorker started s) domainId
    · rintro (hStarted | ⟨hWaiting, _⟩)
      · rw [hBefore] at hStarted
        cases hStarted
      · refine .inr ⟨?_, ?_⟩
        · have hQueue := congrFun (queue_ensureDomainWorker started s) domainId
          rw [← hQueue] at hWaiting
          exact hWaiting
        · rw [hOpen]
          exact nofun

theorem Heard.measureStart {measured : Bool} (h : s.Heard codec domainId)
    (hStep : s.measureStart measured = some t) : t.Heard codec domainId := by
  rw [CdrService.measureStart] at hStep
  split at hStep
  · next started rest hWriter =>
      have hBefore : s.writer.starts? = none := by rw [hWriter]; rfl
      simp only at hStep
      split at hStep
      · obtain rfl := Option.some.inj hStep
        exact h.started hBefore rfl rfl
      · obtain rfl := Option.some.inj hStep
        exact h.started hBefore rfl rfl
  · cases hStep

theorem Heard.receive (h : s.Heard codec domainId) (hStep : s.receive = some t) :
    t.Heard codec domainId := by
  obtain ⟨hWriter, ⟨item, rest, _, rfl⟩ | ⟨_, rfl⟩⟩ := receive_cases hStep
  · apply h.mono
    · exact id
    · rfl
    rintro (hStarted | ⟨hWaiting, _⟩)
    · rw [hWriter] at hStarted
      cases hStarted
    · refine .inr ⟨?_, fun hSame => by cases hSame⟩
      have hQueue := congrFun
        (queue_insert item.domainId (s.queue item.domainId ++ [item]) s) domainId
      rw [queue] at hQueue ⊢
      rw [hQueue]
      by_cases hSame : domainId = item.domainId
      · rw [hSame, Function.update_self]
        exact List.append_ne_nil_of_right_ne_nil _ (List.cons_ne_nil item [])
      · rw [Function.update_of_ne hSame]
        exact hWaiting
  · exact h.turn rfl (by rw [hWriter]; intro h; cases h) (by intro h; cases h)

theorem Heard.refreshStep {index : Nat} (h : s.Heard codec domainId)
    (hStep : s.refreshStep index = some t) : t.Heard codec domainId := by
  rcases refreshStep_cases hStep with ⟨_, rfl⟩ | ⟨_, _, _, _, _, _, rfl⟩
  · exact h.same rfl rfl
  · exact h.same rfl rfl

theorem Heard.step {action : CdrAction} (h : s.Heard codec domainId)
    (hStep : s.step codec action = some t) : t.Heard codec domainId := by
  cases action with
  | enqueueDurable ticket command => exact h.works (works_enqueueDurable hStep)
  | caller ticket => exact h.works (works_callerStep hStep)
  | closePermits =>
      obtain rfl := Option.some.inj hStep
      exact h.same rfl rfl
  | sendShutdown =>
      obtain rfl := sendShutdown_eq hStep
      exact h.same rfl rfl
  | receive => exact h.receive hStep
  | tick order =>
      obtain ⟨hWriter, rfl⟩ := tick_cases hStep
      exact h.turn rfl (by rw [hWriter]; intro h; cases h) (by intro h; cases h)
  | listDomains domains =>
      obtain ⟨hWriter, rfl⟩ := listDomains_cases hStep
      exact h.turn rfl (by rw [hWriter]; intro h; cases h) (by intro h; cases h)
  | measureStart measured => exact h.measureStart hStep
  | append outcome => exact h.append hStep
  | writer => exact h.writerStep hStep
  | worker domainId success => exact h.workerStep hStep
  | abort aborted =>
      obtain ⟨worker, rfl⟩ := abort_cases hStep
      by_cases hSame : domainId = aborted
      · subst hSame
        exact fun hAsleep => (not_sleeps_setWorker (by simp) hAsleep).elim
      · apply h.mono
        · rw [Sleeps, Sleeps, workers_setWorker_of_ne hSame]
          exact id
        · rfl
        · exact id
  | setLimits limits =>
      obtain rfl := Option.some.inj hStep
      exact h.same rfl rfl
  | refresh index => exact h.refreshStep hStep

theorem heard_of_reachable (h : Transition.Reachable (system codec) s) (domainId : DomainId) :
    s.Heard codec domainId := by
  apply h.invariant (P := fun s => s.Heard codec domainId)
  · rintro s ⟨spools, limits, rfl⟩ ⟨worker, hWorker, _⟩
    cases hWorker
  · intro s action t hs hNext
    exact hs.step hNext

end Steps

section Results

variable {s : CdrService} {codec : Codec CdrWriteCommand} {domainId : DomainId}

/-- Whoever waits for a wake that nobody has sent has an empty spool, as soon as the writer has no
step in progress. -/
def Drained (codec : Codec CdrWriteCommand) (s : CdrService) : Prop :=
  ∀ domainId, s.writer.idle = true → s.Sleeps domainId →
    (CdrSpool.replay codec (s.spools domainId)).1 = .ok []

/-- While the writer has no step in progress and no command of a domain waits to be appended
again, a worker that waits for a wake, with none in its channel, has nothing to replay. -/
theorem sleeping_worker_drained (h : Transition.Reachable (system codec) s)
    (hIdle : s.writer.idle = true) (hQueue : s.queue domainId = [])
    (hSleeps : s.Sleeps domainId) :
    (CdrSpool.replay codec (s.spools domainId)).1 = .ok [] := by
  apply heard_of_reachable h domainId hSleeps
  rintro (hStarted | ⟨hWaiting, _⟩)
  · rw [WriterPhase.starts_of_idle hIdle] at hStarted
    cases hStarted
  · exact hWaiting hQueue

/-- A command is appended and acknowledged; the worker that was woken for it replays and stores
it, finds nothing more, and waits. -/
def drainedSchedule : List CdrAction :=
  [.enqueueDurable 0 shortCommand, .caller 0, .caller 0, .listDomains [], .writer, .receive,
    .append (.written .synced true), .writer, .writer, .writer, .writer, .caller 0, .writer,
    .writer, .writer] ++ List.replicate 10 (.worker "domain-a" true)

/-- The writer is idle, and the worker of a domain sleeps. -/
def rests (s : CdrService) (domainId : DomainId) : Bool :=
  s.writer.idle && (s.workers domainId).any fun worker =>
    (worker.phase matches .receiving) && !worker.wake

theorem sleeps_of_rests (h : s.rests domainId = true) :
    s.writer.idle = true ∧ s.Sleeps domainId := by
  rw [rests, Bool.and_eq_true, Option.any_eq_true] at h
  obtain ⟨hIdle, worker, hWorker, hWaits⟩ := h
  rw [Bool.and_eq_true, Bool.not_eq_true'] at hWaits
  refine ⟨hIdle, worker, hWorker, ?_, hWaits.2⟩
  have hPhase := hWaits.1
  split at hPhase
  · next hReceiving => exact hReceiving
  · cases hPhase

set_option maxRecDepth 20000 in
/-- The worker has stored the command that was appended, and sleeps again. -/
theorem sleeping_worker_drained_appended :
    ∃ s, Transition.Reachable (system tornCodec) s ∧ s.appended.map (·.ticket) = [0] ∧
      s.Sleeps "domain-a" ∧ (CdrSpool.replay tornCodec (s.spools "domain-a")).1 = .ok [] := by
  have hRests : (drainedSchedule.foldlM (step tornCodec) (spawn (fun _ => .empty) sampleLimits)).any
      (fun s => s.rests "domain-a" && (s.queue "domain-a").isEmpty &&
        decide (s.appended.map (·.ticket) = [0])) = true := by
    decide +kernel
  obtain ⟨s, hRun, hEnd⟩ := (Option.any_eq_true ..).mp hRests
  rw [Bool.and_eq_true, Bool.and_eq_true, List.isEmpty_iff, decide_eq_true_eq] at hEnd
  obtain ⟨⟨hRest, hQueue⟩, hAppended⟩ := hEnd
  obtain ⟨hIdle, hSleeps⟩ := sleeps_of_rests hRest
  have hReachable := reachable_of_schedule hRun
  exact ⟨s, hReachable, hAppended, hSleeps,
    sleeping_worker_drained hReachable hIdle hQueue hSleeps⟩

/-- A command is appended, its backlog cannot be read, and it waits to be appended again. -/
def unmeasuredSchedule : List CdrAction :=
  [.enqueueDurable 0 shortCommand, .caller 0, .caller 0, .listDomains [], .writer, .receive,
    .append (.written .synced false), .writer, .writer, .writer]

set_option maxRecDepth 20000 in
theorem spools_unmeasured :
    (unmeasuredSchedule.foldlM (step tornCodec) (spawn (fun _ => .empty) sampleLimits)).map
        (fun s => s.spools "domain-a") =
      some (CdrSpool.append tornCodec shortCommand .synced .empty).2 := rfl

/-- Until the command is appended again, no wake is sent for it. -/
theorem unmeasured_append_sends_no_wake :
    ∃ s, Transition.Reachable (system tornCodec) s ∧ ¬ s.Drained tornCodec := by
  have hRests : (unmeasuredSchedule.foldlM (step tornCodec)
      (spawn (fun _ => .empty) sampleLimits)).any (·.rests "domain-a") = true := by
    decide +kernel
  obtain ⟨s, hRun, hEnd⟩ := (Option.any_eq_true ..).mp hRests
  obtain ⟨hIdle, hSleeps⟩ := sleeps_of_rests hEnd
  refine ⟨s, reachable_of_schedule hRun, fun hDrained => ?_⟩
  have hReplay := hDrained "domain-a" hIdle hSleeps
  have hSpool := spools_unmeasured
  rw [hRun, Option.map_some, Option.some.injEq] at hSpool
  obtain ⟨position, spool, entries, hAppend, hEntries, _⟩ :=
    CdrSpool.WellFormed.empty.replay_append CdrSpool.shortCommand_fits
  rw [hSpool, hAppend, hEntries] at hReplay
  simp at hReplay

end Results

end CdrService

end VoipSwitch
