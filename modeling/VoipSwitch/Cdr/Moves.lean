import VoipSwitch.Cdr.Writer

/-! What the steps of the writer and of the domain workers can do. -/
namespace VoipSwitch

open Keyed

/-- Whether a measurement of the backlog is ahead of a worker, or still to be published. -/
def WorkerPhase.measures : WorkerPhase → Bool
  | .measuring _ | .publishing _ _ => true
  | _ => false

def WorkerPhase.publication? : WorkerPhase → Option Publication
  | .publishing publication _ => some publication
  | _ => none

namespace CdrService

variable {s t : CdrService} {codec : Codec CdrWriteCommand} {domainId other : DomainId}

/-- A domain without a worker gets one that waits for its first wake; nothing else changes. -/
theorem ensureDomainWorker_eq (domainId : DomainId) (s : CdrService) :
    s.ensureDomainWorker domainId = { s with
      workers := Function.update s.workers domainId (some ((s.workers domainId).getD
        { phase := .receiving, wake := false, connected := true })) } := by
  rw [ensureDomainWorker]
  split
  · next worker hWorker =>
      rw [hWorker, Option.getD_some, ← hWorker, Function.update_eq_self]
  · next hNone => rw [hNone, Option.getD_none]

@[simp] theorem spools_ensureDomainWorker (domainId : DomainId) (s : CdrService) :
    (s.ensureDomainWorker domainId).spools = s.spools := by rw [ensureDomainWorker_eq]

@[simp] theorem appended_ensureDomainWorker (domainId : DomainId) (s : CdrService) :
    (s.ensureDomainWorker domainId).appended = s.appended := by rw [ensureDomainWorker_eq]

@[simp] theorem admission_ensureDomainWorker (domainId : DomainId) (s : CdrService) :
    (s.ensureDomainWorker domainId).admission = s.admission := by rw [ensureDomainWorker_eq]

@[simp] theorem writer_ensureDomainWorker (domainId : DomainId) (s : CdrService) :
    (s.ensureDomainWorker domainId).writer = s.writer := by rw [ensureDomainWorker_eq]

@[simp] theorem queue_ensureDomainWorker (domainId : DomainId) (s : CdrService) :
    (s.ensureDomainWorker domainId).queue = s.queue := by
  rw [ensureDomainWorker_eq]
  rfl

theorem workers_ensureDomainWorker_of_ne (h : other ≠ domainId) (s : CdrService) :
    (s.ensureDomainWorker domainId).workers other = s.workers other := by
  rw [ensureDomainWorker_eq]
  exact Function.update_of_ne h ..

@[simp] theorem workers_setWorker_self (worker : DomainWorker) (s : CdrService) :
    (s.setWorker domainId worker).workers domainId = some worker := Function.update_self ..

theorem workers_setWorker_of_ne (h : other ≠ domainId) (worker : DomainWorker) (s : CdrService) :
    (s.setWorker domainId worker).workers other = s.workers other := Function.update_of_ne h ..

@[simp] theorem workers_wakeDomainWorker_self (domainId : DomainId) (s : CdrService) :
    (s.wakeDomainWorker domainId).workers domainId =
      (s.workers domainId).map fun worker => { worker with wake := true } :=
  Function.update_self ..

theorem workers_wakeDomainWorker_of_ne (h : other ≠ domainId) (s : CdrService) :
    (s.wakeDomainWorker domainId).workers other = s.workers other := Function.update_of_ne h ..

@[simp] theorem spools_setSpool_self (spool : CdrSpool) (s : CdrService) :
    (s.setSpool domainId spool).spools domainId = spool := Function.update_self ..

theorem spools_setSpool_of_ne (h : other ≠ domainId) (spool : CdrSpool) (s : CdrService) :
    (s.setSpool domainId spool).spools other = s.spools other := Function.update_of_ne h ..

/-- A publication concerns the admission alone. -/
theorem publish_cases (publication : Publication) (s : CdrService) :
    (publication.limits = none ∧
      s.publish publication = (some { publication with limits := some s.admission.limits }, s)) ∨
    ∃ limits, publication.limits = some limits ∧ s.publish publication = (none, { s with
      admission := s.admission.update limits publication.domainId publication.backlogBytes }) := by
  rw [publish]
  cases publication.limits with
  | none => exact .inl ⟨rfl, rfl⟩
  | some limits => exact .inr ⟨limits, rfl, rfl⟩

section Inversions

/-- The channel has room for the message that ends the writer. -/
theorem sendShutdown_eq (h : s.sendShutdown = some t) :
    t = { s with channel := s.channel ++ [.shutdown] } := by
  rw [sendShutdown] at h
  split at h
  · cases h
  · exact (Option.some.inj h).symm

/-- The writer takes a command off the channel, or hears that it ends. -/
theorem receive_cases (h : s.receive = some t) : s.writer = .selecting ∧
    ((∃ item rest, s.channel = .write item :: rest ∧ t = { s with
        channel := rest
        received := s.received ++ [item]
        pending := s.pending.insert item.domainId (s.queue item.domainId ++ [item])
        writer := .flushing [item.domainId] }) ∨
      ∃ rest, t = { s with channel := rest, closed := true, writer := .checking }) := by
  rw [receive] at h
  split at h
  · next item rest hWriter hChannel =>
      exact ⟨hWriter, .inl ⟨item, rest, hChannel, (Option.some.inj h).symm⟩⟩
  · next rest hWriter _ => exact ⟨hWriter, .inr ⟨rest, (Option.some.inj h).symm⟩⟩
  · cases h

theorem tick_cases {order : List DomainId} (h : s.tick order = some t) :
    s.writer = .selecting ∧ t = { s with writer := .flushing order } := by
  rw [tick] at h
  split at h
  · next hWriter =>
      split at h
      · exact ⟨hWriter, (Option.some.inj h).symm⟩
      · cases h
  · cases h

theorem listDomains_cases {domains : List DomainId} (h : s.listDomains domains = some t) :
    s.writer = .listing ∧ t = { s with writer := .starting domains } := by
  rw [listDomains] at h
  split at h
  · next hWriter => exact ⟨hWriter, (Option.some.inj h).symm⟩
  · cases h

theorem abort_cases (h : s.abort domainId = some t) :
    ∃ worker : DomainWorker, t = s.setWorker domainId { worker with phase := .stopped } := by
  rw [abort] at h
  split at h
  · next worker _ _ => exact ⟨worker, (Option.some.inj h).symm⟩
  · cases h

/-- A refresh only moves on, or it publishes a backlog under limits that it has read before. -/
theorem refreshStep_cases {index : Nat} (h : s.refreshStep index = some t) :
    (∃ refreshes, t = { s with refreshes := refreshes }) ∨
    ∃ publication rest limits refreshes,
      s.refreshes[index]? = some (.updating (publication :: rest)) ∧
      publication.limits = some limits ∧ t = { s with
        admission := s.admission.update limits publication.domainId publication.backlogBytes
        refreshes := refreshes } := by
  rw [refreshStep] at h
  split at h
  · cases h
  · exact .inl ⟨_, (Option.some.inj h).symm⟩
  · exact .inl ⟨_, (Option.some.inj h).symm⟩
  · next publication rest hRefresh =>
      rcases publish_cases publication s with ⟨_, hPublish⟩ | ⟨limits, hLimits, hPublish⟩
      · rw [hPublish] at h
        exact .inl ⟨_, (Option.some.inj h).symm⟩
      · rw [hPublish] at h
        exact .inr ⟨publication, rest, limits, _, hRefresh, hLimits, (Option.some.inj h).symm⟩

end Inversions

/-- The task of an append: nothing was written, the write failed, or the command is in the spool,
and its backlog was measured or not. -/
theorem append_cases {outcome : AppendOutcome} (h : s.append codec outcome = some t) :
    ∃ domainId rest item queue, s.writer = .flushing (domainId :: rest) ∧
      s.queue domainId = item :: queue ∧
      ((outcome = .refused ∧
          t = { s.ensureDomainWorker domainId with writer := .refusing domainId rest }) ∨
        ∃ write measured, outcome = .written write measured ∧
          ((∃ error spool,
              CdrSpool.append codec item.command write (s.spools domainId) = (.error error, spool) ∧
              t = { (s.ensureDomainWorker domainId).setSpool domainId spool with
                writer := .refusing domainId rest }) ∨
            ∃ position spool,
              CdrSpool.append codec item.command write (s.spools domainId) = (.ok position, spool) ∧
              t = { (s.ensureDomainWorker domainId).setSpool domainId spool with
                appended := s.appended ++ [item]
                writer := if measured then
                    .publishing { domainId, backlogBytes := spool.backlogBytes, limits := none }
                      rest
                  else .refusing domainId rest })) := by
  rw [append] at h
  split at h
  · next domainId rest hWriter =>
      split at h
      · cases h
      · next item queue hQueue =>
          refine ⟨domainId, rest, item, queue, hWriter, hQueue, ?_⟩
          cases outcome with
          | refused => exact .inl ⟨rfl, (Option.some.inj h).symm⟩
          | written write measured =>
              refine .inr ⟨write, measured, rfl, ?_⟩
              simp only [spools_ensureDomainWorker] at h
              split at h
              · next error spool hAppend =>
                  exact .inl ⟨error, spool, hAppend, (Option.some.inj h).symm⟩
              · next position spool hAppend =>
                  refine .inr ⟨position, spool, hAppend, ?_⟩
                  cases measured with
                  | false =>
                      obtain rfl := Option.some.inj h
                      simp only [setSpool, appended_ensureDomainWorker,
                        Bool.false_eq_true, if_false]
                  | true =>
                      obtain rfl := Option.some.inj h
                      simp only [setSpool, appended_ensureDomainWorker, if_true]
  · cases h

theorem queue_insert (domainId : DomainId) (items : List PendingAppend) (s : CdrService) :
    queue { s with pending := s.pending.insert domainId items } =
      Function.update s.queue domainId items := by
  funext other
  by_cases hSame : other = domainId
  · subst hSame
    rw [Function.update_self, queue, Table.get_insert_self, Option.getD_some]
  · rw [Function.update_of_ne hSame, queue, Table.get_insert_of_ne (Ne.symm hSame), queue]

/-- An empty queue is forgotten. -/
theorem queue_remove {domainId : DomainId} (hEmpty : s.queue domainId = []) :
    queue { s with pending := s.pending.remove domainId } = s.queue := by
  funext other
  by_cases hSame : other = domainId
  · subst hSame
    rw [hEmpty, queue, Table.get_remove_self, Option.getD_none]
  · rw [queue, Table.get_remove_of_ne (Ne.symm hSame), queue]

/-- The front of the queue is answered and leaves, and its permit is given back; the writer then
flushes the rest of the same domain. -/
theorem acknowledgeFront_eq {domainId : DomainId} {item : PendingAppend}
    {queue : List PendingAppend} (hQueue : s.queue domainId = item :: queue)
    (rest : List DomainId) :
    s.acknowledgeFront domainId rest = releasePermit domainId { s with
      admission := s.admission.appendFailure domainId false
      pending := s.pending.insert domainId queue
      replies := s.replies ++ [item.ticket]
      writer := .flushing (domainId :: rest) } := by
  rw [CdrService.acknowledgeFront]
  split
  · next hEmpty =>
      rw [CdrService.queue] at hQueue hEmpty
      rw [hQueue] at hEmpty
      cases hEmpty
  · next front others hCons =>
      rw [CdrService.queue] at hQueue hCons
      rw [hQueue, List.cons.injEq] at hCons
      rw [hCons.1, hCons.2]

/-- What the writer and the workers work with. -/
def works (s : CdrService) := (s.workers, s.spools, s.queue, s.admission, s.writer)

theorem works_enqueueDurable {ticket : Ticket} {command : CdrWriteCommand}
    (h : s.enqueueDurable ticket command = some t) : t.works = s.works := by
  rw [enqueueDurable] at h
  split at h
  · cases h
  · split at h
    · obtain rfl := Option.some.inj h
      rfl
    · obtain rfl := Option.some.inj h
      rfl

/-- A caller moves no work: what it sends on the channel is what it was given. -/
theorem works_callerStep {ticket : Ticket} (h : s.callerStep ticket = some t) :
    t.works = s.works := by
  rw [callerStep] at h
  split at h
  · cases h
  · next caller _ =>
      have hGoesOn : ∀ {u : CdrService} {phase : CallerPhase},
          some (u.setCaller ticket { caller with phase }) = some t → u.works = s.works →
          t.works = s.works := by
        intro u phase hNext hWorks
        obtain rfl := Option.some.inj hNext
        exact hWorks
      simp only at h
      split at h
      · split at h
        · exact hGoesOn h rfl
        · split at h
          · cases h
          · exact hGoesOn h rfl
      · split at h
        · exact hGoesOn h rfl
        · split at h
          · cases h
          · exact hGoesOn h rfl
      · split at h
        · exact hGoesOn h rfl
        · split at h
          · exact hGoesOn h rfl
          · cases h
      · cases h

/-- An append concerns the worker and the spool of its domain. -/
theorem frame_append_of_ne {outcome : AppendOutcome} {flushed : DomainId} {rest : List DomainId}
    (hStep : s.append codec outcome = some t) (hWriter : s.writer = .flushing (flushed :: rest))
    (hOther : other ≠ flushed) :
    t.workers other = s.workers other ∧ t.spools other = s.spools other := by
  obtain ⟨domainId, later, item, queue, hFlushing, _, hOutcome⟩ := append_cases hStep
  rw [hWriter] at hFlushing
  obtain ⟨rfl, rfl⟩ := List.cons.inj (WriterPhase.flushing.inj hFlushing)
  have hWorker := workers_ensureDomainWorker_of_ne hOther s
  rcases hOutcome with ⟨_, rfl⟩ | ⟨write, measured, _, hWritten⟩
  · exact ⟨hWorker, congrFun (spools_ensureDomainWorker flushed s) other⟩
  · have hSpool : ∀ spool, ((s.ensureDomainWorker flushed).setSpool flushed spool).spools other =
        s.spools other := by
      intro spool
      rw [spools_setSpool_of_ne hOther, spools_ensureDomainWorker]
    rcases hWritten with ⟨error, spool, _, rfl⟩ | ⟨position, spool, _, rfl⟩
    · exact ⟨hWorker, hSpool spool⟩
    · exact ⟨hWorker, hSpool spool⟩

/-- An acknowledgement concerns the queue of its domain. -/
theorem frame_acknowledgeFront (domainId : DomainId) (rest : List DomainId) (s : CdrService) :
    (s.acknowledgeFront domainId rest).workers = s.workers ∧
      (s.acknowledgeFront domainId rest).spools = s.spools ∧
      (s.acknowledgeFront domainId rest).admission = s.admission.appendFailure domainId false ∧
      (s.acknowledgeFront domainId rest).writer = .flushing (domainId :: rest) ∧
      ∀ other, other ≠ domainId →
        (s.acknowledgeFront domainId rest).queue other = s.queue other := by
  cases hQueue : s.queue domainId with
  | nil =>
      rw [acknowledgeFront]
      split
      · exact ⟨rfl, rfl, rfl, rfl, fun _ _ => rfl⟩
      · next hCons =>
          rw [queue] at hQueue hCons
          rw [hQueue] at hCons
          cases hCons
  | cons item items =>
      rw [acknowledgeFront_eq hQueue]
      refine ⟨rfl, rfl, rfl, rfl, fun other hOther => ?_⟩
      have hNow := congrFun (queue_insert domainId items s) other
      rw [Function.update_of_ne hOther] at hNow
      exact hNow

/-- What a worker of a domain can do, with the file or the database that it needs or without. -/
inductive WorkerMove (codec : Codec CdrWriteCommand) (domainId : DomainId) (success : Bool)
    (s : CdrService) (worker : DomainWorker) : CdrService → Prop where
  | goesOn (next : DomainWorker) (hPhase : next.phase ≠ .receiving)
      (hMeasures : worker.phase.measures = true → next.phase.measures = true ∨
        success = false ∧ ∃ rest, worker.phase = .measuring rest)
      (hPublishes : ∀ publication, next.phase.publication? = some publication →
        publication.domainId = domainId ∨ ∃ earlier, worker.phase.publication? = some earlier ∧
          publication.domainId = earlier.domainId) :
      WorkerMove codec domainId success s worker (s.setWorker domainId next)
  | replays (next : DomainWorker) (hLoading : worker.phase = .loading)
      (hSuccess : success = true)
      (hReceiving : next.phase = .receiving →
        (CdrSpool.replay codec (s.spools domainId)).1 = .ok [])
      (hPublishes : next.phase.publication? = none) :
      WorkerMove codec domainId success s worker
        ((s.setSpool domainId (CdrSpool.replay codec (s.spools domainId)).2).setWorker
          domainId next)
  | advances (position : SpoolPosition) (rest : List (ReplayEntry CdrWriteCommand))
      (hPhase : worker.phase = .acknowledging position rest) :
      WorkerMove codec domainId success s worker
        ((s.setSpool domainId (CdrSpool.acknowledge position (s.spools domainId)).2).setWorker
          domainId { worker with phase := .measuring rest })
  | publishes (publication : Publication) (rest : List (ReplayEntry CdrWriteCommand))
      (limits : CdrSpoolLimits) (hPhase : worker.phase = .publishing publication rest)
      (hLimits : publication.limits = some limits) :
      WorkerMove codec domainId success s worker
        (setWorker domainId { worker with phase := .handling rest } { s with
          admission := s.admission.update limits publication.domainId publication.backlogBytes })

/-- A worker leaves the writer and the other domains alone. -/
theorem WorkerMove.frame {success : Bool} {worker : DomainWorker}
    (h : WorkerMove codec domainId success s worker t) :
    t.writer = s.writer ∧ t.queue = s.queue ∧
      ∀ other, other ≠ domainId → t.workers other = s.workers other ∧
        t.spools other = s.spools other := by
  cases h with
  | goesOn next =>
      exact ⟨rfl, rfl, fun other hOther => ⟨workers_setWorker_of_ne hOther _ _, rfl⟩⟩
  | replays next =>
      exact ⟨rfl, rfl, fun other hOther =>
        ⟨workers_setWorker_of_ne hOther _ _, spools_setSpool_of_ne hOther _ s⟩⟩
  | advances position rest =>
      exact ⟨rfl, rfl, fun other hOther =>
        ⟨workers_setWorker_of_ne hOther _ _, spools_setSpool_of_ne hOther _ s⟩⟩
  | publishes publication rest limits =>
      exact ⟨rfl, rfl, fun other hOther => ⟨workers_setWorker_of_ne hOther _ _, rfl⟩⟩

/-- A checkpoint does not move backwards; the spool stays as it is then. -/
theorem setSpool_acknowledge_error {position : SpoolPosition} {error : String} {spool : CdrSpool}
    (h : CdrSpool.acknowledge position (s.spools domainId) = (.error error, spool)) :
    s.setSpool domainId spool = s := by
  have hSpool : spool = s.spools domainId := by
    rw [CdrSpool.acknowledge] at h
    split at h
    · exact (congrArg Prod.snd h).symm
    · simp only [Prod.mk.injEq, reduceCtorEq, false_and] at h
  rw [hSpool, setSpool, Function.update_eq_self]

section Phases

variable {success : Bool} {worker : DomainWorker}

/-- A step with no measurement before it and no publication after it. -/
theorem WorkerMove.quiet {wake : Bool} (phase : WorkerPhase) (hPhase : phase ≠ .receiving)
    (hMeasures : worker.phase.measures = false) (hPublication : phase.publication? = none)
    (hNext : some (s.setWorker domainId { worker with phase, wake }) = some t) :
    WorkerMove codec domainId success s worker t := by
  obtain rfl := Option.some.inj hNext
  refine .goesOn _ hPhase ?_ ?_
  · intro hBefore
    rw [hMeasures] at hBefore
    cases hBefore
  · intro publication hAfter
    rw [hPublication] at hAfter
    cases hAfter

variable (hWorker : s.workers domainId = some worker)
  (h : s.workerStep codec domainId success = some t)

include hWorker h

/-- A worker that loads the spool replays it, and sleeps, receives or handles what it returns. -/
theorem workerMove_of_loading (hPhase : worker.phase = .loading) :
    WorkerMove codec domainId success s worker t := by
  rw [workerStep, hWorker] at h
  simp only [hPhase] at h
  split at h
  · next hSuccess =>
      have hReplays : ∀ {result : Except String (List (ReplayEntry CdrWriteCommand))}
          {spool : CdrSpool} (phase : WorkerPhase),
          CdrSpool.replay codec (s.spools domainId) = (result, spool) →
          (phase = .receiving → result = .ok []) → phase.publication? = none →
          some ((s.setSpool domainId spool).setWorker domainId { worker with phase }) = some t →
          WorkerMove codec domainId success s worker t := by
        intro result spool phase hReplay hReceiving hPublication hNext
        obtain rfl := Option.some.inj hNext
        have hMove : WorkerMove codec domainId success s worker _ :=
          .replays { worker with phase } hPhase hSuccess
            (by rw [hReplay]; exact hReceiving) hPublication
        rw [hReplay] at hMove
        exact hMove
      split at h
      · next hReplay => exact hReplays .sleeping hReplay nofun rfl h
      · next hReplay => exact hReplays .receiving hReplay (fun _ => rfl) rfl h
      · next entries spool hReplay => exact hReplays (.handling _) hReplay nofun rfl h
  · exact .quiet .sleeping nofun (by rw [hPhase]; rfl) rfl h

/-- The checkpoint moves, and is measured next; or the worker sleeps over a failure. -/
theorem workerMove_of_acknowledging {position : SpoolPosition}
    {rest : List (ReplayEntry CdrWriteCommand)}
    (hPhase : worker.phase = .acknowledging position rest) :
    WorkerMove codec domainId success s worker t := by
  have hMeasures : worker.phase.measures = false := by rw [hPhase]; rfl
  rw [workerStep, hWorker] at h
  simp only [hPhase] at h
  split at h
  · split at h
    · next hAcknowledge =>
        rw [setSpool_acknowledge_error hAcknowledge] at h
        exact .quiet .sleeping nofun hMeasures rfl h
    · next hAcknowledge =>
        obtain rfl := Option.some.inj h
        have hMove : WorkerMove codec domainId success s worker _ := .advances position rest hPhase
        rw [hAcknowledge] at hMove
        exact hMove
  · exact .quiet .sleeping nofun hMeasures rfl h

theorem workerMove_of_measuring {rest : List (ReplayEntry CdrWriteCommand)}
    (hPhase : worker.phase = .measuring rest) : WorkerMove codec domainId success s worker t := by
  rw [workerStep, hWorker] at h
  simp only [hPhase] at h
  split at h
  · obtain rfl := Option.some.inj h
    refine .goesOn _ nofun (fun _ => .inl rfl) fun publication hPublication => .inl ?_
    obtain rfl := Option.some.inj hPublication
    rfl
  · next hFailed =>
      obtain rfl := Option.some.inj h
      refine .goesOn _ nofun (fun _ => .inr ⟨?_, rest, hPhase⟩) nofun
      simpa using hFailed

/-- What was measured is published under the limits that the worker has read before. -/
theorem workerMove_of_publishing {publication : Publication}
    {rest : List (ReplayEntry CdrWriteCommand)}
    (hPhase : worker.phase = .publishing publication rest) :
    WorkerMove codec domainId success s worker t := by
  rw [workerStep, hWorker] at h
  simp only [hPhase] at h
  rcases publish_cases publication s with ⟨_, hPublish⟩ | ⟨limits, hLimits, hPublish⟩
  · rw [hPublish] at h
    obtain rfl := Option.some.inj h
    refine .goesOn _ nofun (fun _ => .inl rfl) fun later hLater => .inr ⟨publication, ?_⟩
    obtain rfl := Option.some.inj hLater
    exact ⟨by rw [hPhase]; rfl, rfl⟩
  · rw [hPublish] at h
    obtain rfl := Option.some.inj h
    exact .publishes publication rest limits hPhase hLimits

end Phases

/-- Every step of a worker is one of its moves. The cases are its phases; those that read the spool
or publish have a lemma of their own. -/
theorem workerStep_cases {success : Bool} (h : s.workerStep codec domainId success = some t) :
    ∃ worker, s.workers domainId = some worker ∧ worker.phase ≠ .stopped ∧
      WorkerMove codec domainId success s worker t := by
  cases hWorker : s.workers domainId with
  | none =>
      rw [workerStep, hWorker] at h
      cases h
  | some worker =>
      have hStep := h
      rw [workerStep, hWorker] at h
      have hRuns : worker.phase ≠ .stopped := by
        intro hStopped
        simp only [hStopped, reduceCtorEq] at h
      refine ⟨worker, rfl, hRuns, ?_⟩
      cases hPhase : worker.phase with
      | receiving =>
          have hMeasures : worker.phase.measures = false := by rw [hPhase]; rfl
          simp only [hPhase] at h
          split at h
          · exact .quiet .draining nofun hMeasures rfl h
          · split at h
            · cases h
            · exact .quiet .stopped nofun hMeasures rfl h
      | draining =>
          have hMeasures : worker.phase.measures = false := by rw [hPhase]; rfl
          simp only [hPhase] at h
          split at h
          · exact .quiet .draining nofun hMeasures rfl h
          · exact .quiet .loading nofun hMeasures rfl h
      | loading => exact workerMove_of_loading hWorker hStep hPhase
      | sleeping =>
          simp only [hPhase] at h
          exact .quiet .loading nofun (by rw [hPhase]; rfl) rfl h
      | handling entries =>
          have hMeasures : worker.phase.measures = false := by rw [hPhase]; rfl
          cases entries with
          | nil =>
              simp only [hPhase] at h
              exact .quiet .loading nofun hMeasures rfl h
          | cons entry rest =>
              cases entry with
              | write position command =>
                  simp only [hPhase] at h
                  split at h
                  · exact .quiet (.acknowledging _ _) nofun hMeasures rfl h
                  · exact .quiet .sleeping nofun hMeasures rfl h
              | quarantined position reason =>
                  simp only [hPhase] at h
                  exact .quiet (.acknowledging _ _) nofun hMeasures rfl h
      | acknowledging position rest => exact workerMove_of_acknowledging hWorker hStep hPhase
      | measuring rest => exact workerMove_of_measuring hWorker hStep hPhase
      | publishing publication rest => exact workerMove_of_publishing hWorker hStep hPhase
      | stopped => exact (hRuns hPhase).elim

end CdrService

end VoipSwitch
