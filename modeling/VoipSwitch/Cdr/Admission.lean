import VoipSwitch.Cdr.Wakeups

/-! The backlog that is recorded for a domain, and the calls that are refused because of it. A
backlog is measured under the lock of the spool and published after it, so that an older
measurement may be published last. -/
namespace VoipSwitch

open Keyed
open CdrSpool (tornCodec)

/-- The measurement that the writer still has to publish. -/
def WriterPhase.publication? : WriterPhase → Option Publication
  | .startPublishing publication _ | .publishing publication _ => some publication
  | _ => none

theorem WriterPhase.publication_of_idle {phase : WriterPhase} (h : phase.idle = true) :
    phase.publication? = none := by
  cases phase with
  | selecting | finishing | stopped => rfl
  | _ => cases h

namespace SpoolAdmission

variable {a : SpoolAdmission} {limits : CdrSpoolLimits} {domainId other : DomainId} {bytes : Nat}

theorem status_update_self (a : SpoolAdmission) (limits : CdrSpoolLimits) (domainId : DomainId)
    (bytes : Nat) : (a.update limits domainId bytes).status domainId =
    (a.status domainId).updated limits bytes := by
  rw [status, update, Table.get_insert_self, Option.getD_some]

theorem status_update_of_ne (h : other ≠ domainId) :
    (a.update limits domainId bytes).status other = a.status other := by
  rw [status, update, Table.get_insert_of_ne (Ne.symm h), status]

/-- A failed append is recorded apart from the backlog. -/
theorem status_appendFailure (a : SpoolAdmission) (domainId other : DomainId) (failed : Bool) :
    ((a.appendFailure domainId failed).status other).backlogBytes = (a.status other).backlogBytes ∧
      ((a.appendFailure domainId failed).status other).rejectingNewCalls =
        (a.status other).rejectingNewCalls := by
  by_cases hSame : domainId = other
  · rw [status, appendFailure, hSame, Table.get_insert_self]
    exact ⟨rfl, rfl⟩
  · rw [status, appendFailure, Table.get_insert_of_ne hSame, status]
    exact ⟨rfl, rfl⟩

theorem satMul64_mib_pos {mb : Nat} (h : 0 < mb) : 0 < satMul64 mb mib := by
  rw [satMul64, mib, u64Max]
  omega

/-- Calls are rejected while something is recorded in the backlog only. -/
def Sensible (a : SpoolAdmission) : Prop :=
  ∀ domainId, (a.status domainId).rejectingNewCalls = true → 0 < (a.status domainId).backlogBytes

theorem Sensible.update (h : a.Sensible) : (a.update limits domainId bytes).Sensible := by
  intro other hRejects
  by_cases hSame : other = domainId
  · subst hSame
    rw [status_update_self] at hRejects ⊢
    have hReject := satMul64_mib_pos limits.rejectMb_pos
    have hResume := satMul64_mib_pos limits.resumeMb_pos
    simp only [DomainSpoolStatus.updated] at hRejects ⊢
    cases hBefore : (a.status other).rejectingNewCalls with
    | false =>
        simp only [hBefore, Bool.not_false, Bool.true_and, Bool.false_and, Bool.false_eq_true,
          if_false, decide_eq_true_eq, Bool.if_false_right, Bool.and_true] at hRejects
        exact Nat.lt_of_lt_of_le hReject hRejects
    | true =>
        simp only [hBefore, Bool.not_true, Bool.false_and, Bool.false_eq_true, if_false,
          Bool.true_and, decide_eq_true_eq, Bool.if_false_left, Bool.and_true,
          Bool.not_eq_true', decide_eq_false_iff_not] at hRejects
        exact Nat.lt_of_lt_of_le hResume (Nat.not_lt.mp hRejects)
  · rw [status_update_of_ne hSame] at hRejects ⊢
    exact h other hRejects

theorem Sensible.appendFailure (h : a.Sensible) {failed : Bool} :
    (a.appendFailure domainId failed).Sensible := by
  intro other hRejects
  obtain ⟨hBytes, hSame⟩ := status_appendFailure a domainId other failed
  rw [hSame] at hRejects
  rw [hBytes]
  exact h other hRejects

end SpoolAdmission

namespace CdrService

def backlog (s : CdrService) (domainId : DomainId) : Nat := (s.spools domainId).backlogBytes

/-- What is recorded for a domain is the backlog of its spool. -/
def Recorded (s : CdrService) (domainId : DomainId) : Prop :=
  (s.admission.status domainId).backlogBytes = s.backlog domainId

/-- A measurement that is still right. -/
def Current (s : CdrService) (publication : Publication) : Prop :=
  publication.backlogBytes = s.backlog publication.domainId

def phaseOf (s : CdrService) (domainId : DomainId) : Option WorkerPhase :=
  (s.workers domainId).map (·.phase)

/-- The writer has a measurement of the domain to publish. -/
def WriterAhead (s : CdrService) (domainId : DomainId) : Prop :=
  s.writer.publication?.map (·.domainId) = some domainId

/-- The worker of the domain has one to take or to publish. -/
def WorkerAhead (s : CdrService) (domainId : DomainId) : Prop :=
  (s.phaseOf domainId).any (·.measures) = true

/-- The record of a domain is right, or a measurement is ahead. -/
def Measured (s : CdrService) (domainId : DomainId) : Prop :=
  s.Recorded domainId ∨ s.WriterAhead domainId ∨ s.WorkerAhead domainId

instance (s : CdrService) (domainId : DomainId) : Decidable (s.Recorded domainId) :=
  inferInstanceAs (Decidable (_ = _))

instance (s : CdrService) (publication : Publication) : Decidable (s.Current publication) :=
  inferInstanceAs (Decidable (_ = _))

instance (s : CdrService) (domainId : DomainId) : Decidable (s.WriterAhead domainId) :=
  inferInstanceAs (Decidable (_ = _))

instance (s : CdrService) (domainId : DomainId) : Decidable (s.WorkerAhead domainId) :=
  inferInstanceAs (Decidable (_ = _))

/-- A publication whose limits are read is right, or is left to a measurement that is ahead. -/
def publishesCurrent (s : CdrService) (publication : Publication) (ahead : Bool) : Bool :=
  publication.limits.isNone || decide (s.Current publication) || ahead

/-- Steps that publish what is still right, and change no backlog without measuring it. -/
def keepsRecords (codec : Codec CdrWriteCommand) (s : CdrService) : CdrAction → Bool
  | .measureStart measured =>
    match s.writer with
    | .starting (domainId :: _) => measured || decide (s.Recorded domainId)
    | _ => true
  | .append outcome =>
    match s.writer with
    | .flushing (domainId :: _) =>
      match s.queue domainId with
      | [] => true
      | item :: _ =>
        let known := (s.workers domainId).isSome || decide (s.Recorded domainId)
        match outcome with
        | .refused => known
        | .written write measured =>
          match CdrSpool.append codec item.command write (s.spools domainId) with
          | (.error _, spool) => decide (spool.backlogBytes = s.backlog domainId) && known
          | (.ok _, _) => measured || decide (s.WorkerAhead domainId)
    | _ => true
  | .writer =>
    s.writer.publication?.all fun publication =>
      s.publishesCurrent publication (decide (s.WorkerAhead publication.domainId))
  | .worker domainId success =>
    match s.phaseOf domainId with
    | some .loading =>
      let spool := (CdrSpool.replay codec (s.spools domainId)).2
      !success || decide (spool.backlogBytes = s.backlog domainId) ||
        decide (s.WriterAhead domainId)
    | some (.measuring _) =>
      success || decide (s.Recorded domainId) || decide (s.WriterAhead domainId)
    | some (.publishing publication _) =>
      s.publishesCurrent publication (decide (s.WriterAhead domainId))
    | _ => true
  | .refresh index =>
    match s.refreshes[index]? with
    | some (.updating (publication :: _)) =>
      s.publishesCurrent publication
        (decide (s.WriterAhead publication.domainId) || decide (s.WorkerAhead publication.domainId))
    | _ => true
  | _ => true

structure Kept (s : CdrService) : Prop where
  own : ∀ domainId phase publication, s.phaseOf domainId = some phase →
    phase.publication? = some publication → publication.domainId = domainId
  measured : ∀ domainId phase, s.phaseOf domainId = some phase → phase ≠ .stopped →
    s.Measured domainId

section Records

variable {s t : CdrService} {codec : Codec CdrWriteCommand} {domainId : DomainId}

theorem Recorded.congr (h : s.Recorded domainId) (hAdmission : t.admission = s.admission)
    (hBacklog : (t.spools domainId).backlogBytes = (s.spools domainId).backlogBytes) :
    t.Recorded domainId := by
  rw [Recorded, backlog, hAdmission, hBacklog]
  exact h

/-- Steps that leave the workers, the spools and the records as they are. -/
theorem Kept.quiet (h : s.Kept) (hPhases : t.phaseOf = s.phaseOf) (hSpools : t.spools = s.spools)
    (hRecords : ∀ domainId, (t.admission.status domainId).backlogBytes =
      (s.admission.status domainId).backlogBytes)
    (hWriter : ∀ domainId, s.WriterAhead domainId → t.WriterAhead domainId) : t.Kept := by
  constructor
  · rw [hPhases]
    exact h.own
  · intro domainId phase hPhase hRuns
    rw [hPhases] at hPhase
    rcases h.measured domainId phase hPhase hRuns with hRecorded | hAhead | hAhead
    · left
      rw [Recorded, backlog, hSpools, hRecords]
      exact hRecorded
    · exact .inr (.inl (hWriter domainId hAhead))
    · right
      right
      rw [WorkerAhead, hPhases]
      exact hAhead

theorem Kept.works (h : s.Kept) (hWorks : t.works = s.works) : t.Kept := by
  simp only [CdrService.works, Prod.mk.injEq] at hWorks
  obtain ⟨hWorkers, hSpools, _, hAdmission, hWriter⟩ := hWorks
  apply h.quiet
  · funext domainId
    rw [phaseOf, phaseOf, hWorkers]
  · exact hSpools
  · rw [hAdmission]
    exact fun _ => rfl
  · intro domainId hAhead
    rw [WriterAhead, hWriter]
    exact hAhead

/-- A publication is applied: it is right, or a measurement of its domain is ahead. -/
theorem Kept.publish (h : s.Kept) {publication : Publication} {limits : CdrSpoolLimits}
    (hPhases : t.phaseOf = s.phaseOf) (hSpools : t.spools = s.spools)
    (hAdmission : t.admission =
      s.admission.update limits publication.domainId publication.backlogBytes)
    (hWriter : ∀ domainId, domainId ≠ publication.domainId → s.WriterAhead domainId →
      t.WriterAhead domainId)
    (hCurrent : s.Current publication ∨ t.WriterAhead publication.domainId ∨
      t.WorkerAhead publication.domainId) : t.Kept := by
  constructor
  · rw [hPhases]
    exact h.own
  · intro domainId phase hPhase hRuns
    rw [hPhases] at hPhase
    by_cases hSame : domainId = publication.domainId
    · subst hSame
      rcases hCurrent with hNow | hAhead
      · left
        rw [Recorded, backlog, hSpools, hAdmission, SpoolAdmission.status_update_self]
        exact hNow
      · exact .inr hAhead
    · rcases h.measured domainId phase hPhase hRuns with hRecorded | hAhead | hAhead
      · left
        rw [Recorded, backlog, hSpools, hAdmission, SpoolAdmission.status_update_of_ne hSame]
        exact hRecorded
      · exact .inr (.inl (hWriter domainId hSame hAhead))
      · right
        right
        rw [WorkerAhead, hPhases]
        exact hAhead

/-- A turn of the writer that publishes nothing. -/
theorem Kept.turn (h : s.Kept) (hSame : (t.workers, t.spools) = (s.workers, s.spools))
    (hRecords : ∀ domainId, (t.admission.status domainId).backlogBytes =
      (s.admission.status domainId).backlogBytes)
    (hWriter : s.writer.publication? = none) : t.Kept := by
  simp only [Prod.mk.injEq] at hSame
  apply h.quiet
  · funext domainId
    rw [phaseOf, phaseOf, hSame.1]
  · exact hSame.2
  · exact hRecords
  · intro domainId hAhead
    rw [WriterAhead, hWriter] at hAhead
    cases hAhead

theorem phaseOf_wakeDomainWorker (woken : DomainId) (s : CdrService) :
    (s.wakeDomainWorker woken).phaseOf = s.phaseOf := by
  funext domainId
  by_cases hSame : domainId = woken
  · subst hSame
    rw [phaseOf, workers_wakeDomainWorker_self, Option.map_map, phaseOf]
    rfl
  · rw [phaseOf, workers_wakeDomainWorker_of_ne hSame, phaseOf]

theorem current_or_ahead {publication : Publication} {limits : CdrSpoolLimits} {ahead : Bool}
    (hLimits : publication.limits = some limits)
    (h : s.publishesCurrent publication ahead = true) :
    s.Current publication ∨ ahead = true := by
  rw [publishesCurrent, hLimits, Option.isNone_some, Bool.false_or, Bool.or_eq_true,
    decide_eq_true_eq] at h
  exact h

/-- The two steps of a publication by the writer. -/
theorem Kept.publishes (h : s.Kept) {publication : Publication} {writer : WriterPhase}
    {next : Publication → WriterPhase} (hWriter : s.writer.publication? = some publication)
    (hNext : ∀ publication, (next publication).publication? = some publication)
    (hCondition : s.publishesCurrent publication
      (decide (s.WorkerAhead publication.domainId)) = true)
    (hStep : (match s.publish publication with
      | (some publication, s) => some { s with writer := next publication }
      | (none, s) => some { s with writer := writer }) = some t) : t.Kept := by
  rcases publish_cases publication s with ⟨_, hPublish⟩ | ⟨limits, hLimits, hPublish⟩
  · rw [hPublish] at hStep
    obtain rfl := Option.some.inj hStep
    apply h.quiet
    · rfl
    · rfl
    · exact fun _ => rfl
    · intro domainId hAhead
      rw [WriterAhead, hWriter] at hAhead
      rw [WriterAhead, hNext]
      exact hAhead
  · rw [hPublish] at hStep
    obtain rfl := Option.some.inj hStep
    apply h.publish
    · rfl
    · rfl
    · rfl
    · intro domainId hOther hAhead
      rw [WriterAhead, hWriter] at hAhead
      exact (hOther (Option.some.inj hAhead).symm).elim
    · rcases current_or_ahead hLimits hCondition with hNow | hAhead
      · exact .inl hNow
      · exact .inr (.inr (of_decide_eq_true hAhead))

/-- A writer that has published before wakes the worker. -/
theorem Kept.wakes {woken : DomainId} {next : WriterPhase} (h : s.Kept)
    (hWriter : ∀ domainId, ¬ s.WriterAhead domainId) :
    Kept { s.wakeDomainWorker woken with writer := next } := by
  apply h.quiet
  · exact phaseOf_wakeDomainWorker woken s
  · rfl
  · exact fun _ => rfl
  · exact fun domainId hAhead => (hWriter domainId hAhead).elim

theorem Kept.writerStep (h : s.Kept) (hKeeps : s.keepsRecords codec .writer = true)
    (hStep : s.writerStep = some t) : t.Kept := by
  have hCondition : ∀ publication, s.writer.publication? = some publication →
      s.publishesCurrent publication (decide (s.WorkerAhead publication.domainId)) = true := by
    intro publication hPublication
    rw [keepsRecords, hPublication, Option.all_some] at hKeeps
    exact hKeeps
  rw [CdrService.writerStep] at hStep
  split at hStep
  · next hWriter =>
      obtain rfl := Option.some.inj hStep
      exact h.turn rfl (fun _ => rfl) (by rw [hWriter]; rfl)
  · next publication rest hWriter =>
      have hPublication : s.writer.publication? = some publication := by rw [hWriter]; rfl
      exact h.publishes hPublication (fun _ => rfl) (hCondition publication hPublication) hStep
  · next woken rest hWriter =>
      obtain rfl := Option.some.inj hStep
      apply h.wakes
      intro domainId hAhead
      rw [WriterAhead, hWriter] at hAhead
      cases hAhead
  · next hWriter =>
      obtain rfl := Option.some.inj hStep
      exact h.turn rfl (fun _ => rfl) (by rw [hWriter]; rfl)
  · next flushed rest hWriter =>
      split at hStep
      · obtain rfl := Option.some.inj hStep
        exact h.turn rfl (fun _ => rfl) (by rw [hWriter]; rfl)
      · cases hStep
  · next publication rest hWriter =>
      have hPublication : s.writer.publication? = some publication := by rw [hWriter]; rfl
      exact h.publishes hPublication (fun _ => rfl) (hCondition publication hPublication) hStep
  · next woken rest hWriter =>
      obtain rfl := Option.some.inj hStep
      apply h.wakes
      intro domainId hAhead
      rw [WriterAhead, hWriter] at hAhead
      cases hAhead
  · next acknowledged rest hWriter =>
      obtain rfl := Option.some.inj hStep
      obtain ⟨hWorkers, hSpools, hAdmission, _, _⟩ := frame_acknowledgeFront acknowledged rest s
      apply h.turn
      · rw [hWorkers, hSpools]
      · rw [hAdmission]
        exact fun _ => (SpoolAdmission.status_appendFailure ..).1
      · rw [hWriter]
        rfl
  · next refused rest hWriter =>
      obtain rfl := Option.some.inj hStep
      apply h.turn
      · rfl
      · exact fun _ => (SpoolAdmission.status_appendFailure ..).1
      · rw [hWriter]
        rfl
  · next hWriter =>
      obtain rfl := Option.some.inj hStep
      rw [checkFinished]
      split
      · apply h.quiet
        · funext domainId
          rw [phaseOf, phaseOf, Option.map_map]
          rfl
        · rfl
        · exact fun _ => rfl
        · intro domainId hAhead
          rw [WriterAhead, hWriter] at hAhead
          cases hAhead
      · exact h.turn rfl (fun _ => rfl) (by rw [hWriter]; rfl)
  · next hWriter =>
      obtain rfl := Option.some.inj hStep
      exact h.turn rfl (fun _ => rfl) (by rw [hWriter]; rfl)
  · cases hStep

theorem phaseOf_ensureDomainWorker_of_ne {started : DomainId} (hOther : domainId ≠ started) :
    (s.ensureDomainWorker started).phaseOf domainId = s.phaseOf domainId := by
  rw [phaseOf, workers_ensureDomainWorker_of_ne hOther, phaseOf]

theorem phaseOf_ensureDomainWorker_self (domainId : DomainId) (s : CdrService) :
    (s.ensureDomainWorker domainId).phaseOf domainId =
      some ((s.phaseOf domainId).getD .receiving) := by
  rw [phaseOf, ensureDomainWorker_eq, phaseOf]
  simp only [Function.update_self, Option.map_some]
  cases s.workers domainId <;> rfl

/-- The writer makes sure that a domain has its worker, and has a measurement of it or not. -/
theorem Kept.ensured (h : s.Kept) {started : DomainId}
    (hWorkers : t.workers = (s.ensureDomainWorker started).workers)
    (hSpools : ∀ domainId, domainId ≠ started → t.spools domainId = s.spools domainId)
    (hAdmission : t.admission = s.admission) (hWriter : s.writer.publication? = none)
    (hMeasured : ∀ phase, t.phaseOf started = some phase → phase ≠ .stopped →
      t.Measured started) : t.Kept := by
  have hPhases : t.phaseOf = (s.ensureDomainWorker started).phaseOf := by
    funext domainId
    rw [phaseOf, phaseOf, hWorkers]
  constructor
  · intro domainId phase publication hPhase hPublication
    rw [hPhases] at hPhase
    by_cases hSame : domainId = started
    · subst hSame
      rw [phaseOf_ensureDomainWorker_self, Option.some.injEq] at hPhase
      cases hBefore : s.phaseOf domainId with
      | none =>
          rw [hBefore, Option.getD_none] at hPhase
          subst hPhase
          cases hPublication
      | some before =>
          rw [hBefore, Option.getD_some] at hPhase
          subst hPhase
          exact h.own domainId before publication hBefore hPublication
    · rw [phaseOf_ensureDomainWorker_of_ne hSame] at hPhase
      exact h.own domainId phase publication hPhase hPublication
  · intro domainId phase hPhase hRuns
    by_cases hSame : domainId = started
    · subst hSame
      exact hMeasured phase hPhase hRuns
    · have hBefore : t.phaseOf domainId = s.phaseOf domainId := by
        rw [hPhases, phaseOf_ensureDomainWorker_of_ne hSame]
      rw [hBefore] at hPhase
      rcases h.measured domainId phase hPhase hRuns with hRecorded | hAhead | hAhead
      · left
        rw [Recorded, backlog, hAdmission, hSpools domainId hSame]
        exact hRecorded
      · rw [WriterAhead, hWriter] at hAhead
        cases hAhead
      · right
        right
        rw [WorkerAhead, hBefore]
        exact hAhead

/-- The backlog of a domain stays as it is, and the domain has a worker or is recorded. -/
theorem Kept.unchanged (h : s.Kept) {started : DomainId}
    (hWorkers : t.workers = (s.ensureDomainWorker started).workers)
    (hBacklog : (t.spools started).backlogBytes = (s.spools started).backlogBytes)
    (hAdmission : t.admission = s.admission) (hWriter : s.writer.publication? = none)
    (hKnown : ((s.workers started).isSome || decide (s.Recorded started)) = true) :
    ∀ phase, t.phaseOf started = some phase → phase ≠ .stopped → t.Measured started := by
  intro phase hPhase hRuns
  have hPhases : t.phaseOf started = some ((s.phaseOf started).getD .receiving) := by
    rw [← phaseOf_ensureDomainWorker_self, phaseOf, phaseOf, hWorkers]
  rw [Bool.or_eq_true, decide_eq_true_eq] at hKnown
  rcases hKnown with hWorker | hRecorded
  · obtain ⟨worker, hSome⟩ := Option.isSome_iff_exists.mp hWorker
    have hBefore : s.phaseOf started = some worker.phase := by
      rw [phaseOf, hSome, Option.map_some]
    have hSame : t.phaseOf started = s.phaseOf started := by
      rw [hPhases, hBefore, Option.getD_some]
    rw [hSame] at hPhase
    rcases h.measured started phase hPhase hRuns with hRecorded | hAhead | hAhead
    · exact .inl (hRecorded.congr hAdmission hBacklog)
    · rw [WriterAhead, hWriter] at hAhead
      cases hAhead
    · right
      right
      rw [WorkerAhead, hSame]
      exact hAhead
  · exact .inl (hRecorded.congr hAdmission hBacklog)

theorem Kept.measureStart {measured : Bool} (h : s.Kept)
    (hKeeps : s.keepsRecords codec (.measureStart measured) = true)
    (hStep : s.measureStart measured = some t) : t.Kept := by
  rw [CdrService.measureStart] at hStep
  split at hStep
  · next started rest hWriter =>
      have hNone : s.writer.publication? = none := by rw [hWriter]; rfl
      have hSpools := spools_ensureDomainWorker started s
      have hAdmission := admission_ensureDomainWorker started s
      simp only at hStep
      split at hStep
      · obtain rfl := Option.some.inj hStep
        apply h.ensured
        · rfl
        · exact fun domainId _ => congrFun hSpools domainId
        · exact hAdmission
        · exact hNone
        · exact fun _ _ _ => .inr (.inl rfl)
      · next hUnmeasured =>
          obtain rfl := Option.some.inj hStep
          apply h.ensured
          · rfl
          · exact fun domainId _ => congrFun hSpools domainId
          · exact hAdmission
          · exact hNone
          · rw [keepsRecords, hWriter] at hKeeps
            simp only [Bool.or_eq_true, decide_eq_true_eq] at hKeeps
            have hRecorded := hKeeps.resolve_left hUnmeasured
            exact fun _ _ _ => .inl (hRecorded.congr hAdmission (by rw [hSpools]))
  · cases hStep

theorem Kept.append {outcome : AppendOutcome} (h : s.Kept)
    (hKeeps : s.keepsRecords codec (.append outcome) = true)
    (hStep : s.append codec outcome = some t) : t.Kept := by
  obtain ⟨flushed, rest, item, queue, hWriter, hQueue, hOutcome⟩ := append_cases hStep
  rw [keepsRecords, hWriter] at hKeeps
  simp only [hQueue] at hKeeps
  have hNone : s.writer.publication? = none := by rw [hWriter]; rfl
  have hSpools : ∀ domainId, domainId ≠ flushed → t.spools domainId = s.spools domainId :=
    fun domainId hOther => (frame_append_of_ne hStep hWriter hOther).2
  have hAdmission := admission_ensureDomainWorker flushed s
  rcases hOutcome with ⟨rfl, rfl⟩ | ⟨write, measured, rfl, hWritten⟩
  · apply h.ensured
    · rfl
    · exact hSpools
    · exact hAdmission
    · exact hNone
    · apply h.unchanged
      · rfl
      · simp only [spools_ensureDomainWorker]
      · exact hAdmission
      · exact hNone
      · exact hKeeps
  · rcases hWritten with ⟨error, spool, hAppend, rfl⟩ | ⟨position, spool, hAppend, rfl⟩
    · simp only [hAppend] at hKeeps
      rw [Bool.and_eq_true, decide_eq_true_eq] at hKeeps
      apply h.ensured
      · rfl
      · exact hSpools
      · exact hAdmission
      · exact hNone
      · apply h.unchanged
        · rfl
        · simp only [spools_setSpool_self]
          exact hKeeps.1
        · exact hAdmission
        · exact hNone
        · exact hKeeps.2
    · simp only [hAppend] at hKeeps
      rw [Bool.or_eq_true, decide_eq_true_eq] at hKeeps
      apply h.ensured
      · rfl
      · exact hSpools
      · exact hAdmission
      · exact hNone
      · intro phase hPhase _
        rcases hKeeps with rfl | hAhead
        · exact .inr (.inl rfl)
        · right
          right
          -- The worker was there before, and has not moved.
          rw [WorkerAhead, Option.any_eq_true] at hAhead
          obtain ⟨before, hBefore, hMeasures⟩ := hAhead
          have hPhases := phaseOf_ensureDomainWorker_self flushed s
          rw [hBefore, Option.getD_some] at hPhases
          rw [WorkerAhead, Option.any_eq_true]
          exact ⟨before, hPhases, hMeasures⟩

theorem phaseOf_setWorker_self {worker : DomainWorker} :
    (s.setWorker domainId worker).phaseOf domainId = some worker.phase := by
  rw [phaseOf, workers_setWorker_self, Option.map_some]

/-- A worker of one domain moves: the others keep what they have. -/
theorem Kept.moved (h : s.Kept) {moved : DomainId} {next : WorkerPhase}
    (hPhase : t.phaseOf moved = some next)
    (hOthers : ∀ domainId, domainId ≠ moved → t.phaseOf domainId = s.phaseOf domainId ∧
      t.spools domainId = s.spools domainId ∧
        t.admission.status domainId = s.admission.status domainId)
    (hWriter : t.writer = s.writer)
    (hOwn : ∀ publication, next.publication? = some publication → publication.domainId = moved)
    (hMeasured : next ≠ .stopped → t.Measured moved) : t.Kept := by
  constructor
  · intro domainId phase publication hSome hPublication
    by_cases hSame : domainId = moved
    · subst hSame
      rw [hPhase, Option.some.injEq] at hSome
      subst hSome
      exact hOwn publication hPublication
    · rw [(hOthers domainId hSame).1] at hSome
      exact h.own domainId phase publication hSome hPublication
  · intro domainId phase hSome hRuns
    by_cases hSame : domainId = moved
    · subst hSame
      rw [hPhase, Option.some.injEq] at hSome
      subst hSome
      exact hMeasured hRuns
    · obtain ⟨hPhases, hSpool, hStatus⟩ := hOthers domainId hSame
      rw [hPhases] at hSome
      rcases h.measured domainId phase hSome hRuns with hRecorded | hAhead | hAhead
      · left
        rw [Recorded, backlog, hStatus, hSpool]
        exact hRecorded
      · right
        left
        rw [WriterAhead, hWriter]
        exact hAhead
      · right
        right
        rw [WorkerAhead, hPhases]
        exact hAhead

theorem workerAhead_iff {phase : WorkerPhase} (hPhase : s.phaseOf domainId = some phase) :
    s.WorkerAhead domainId ↔ phase.measures = true := by
  rw [WorkerAhead, hPhase, Option.any_some]

/-- When a worker has moved its checkpoint, its own measurement is ahead until it is published. -/
theorem Kept.workerStep {success : Bool} (h : s.Kept)
    (hKeeps : s.keepsRecords codec (.worker domainId success) = true)
    (hStep : s.workerStep codec domainId success = some t) : t.Kept := by
  obtain ⟨worker, hWorker, hRuns, hMove⟩ := workerStep_cases hStep
  have hPhase : s.phaseOf domainId = some worker.phase := by
    rw [phaseOf, hWorker, Option.map_some]
  rw [keepsRecords, hPhase] at hKeeps
  have hBefore := h.measured domainId worker.phase hPhase hRuns
  have hAhead := workerAhead_iff hPhase
  have hPhases : ∀ (u : CdrService) (next : DomainWorker) (other : DomainId), other ≠ domainId →
      (u.setWorker domainId next).phaseOf other = u.phaseOf other := by
    intro u next other hOther
    rw [phaseOf, workers_setWorker_of_ne hOther, phaseOf]
  cases hMove with
  | goesOn next hNext hMeasures hPublishes =>
      apply h.moved phaseOf_setWorker_self
      · exact fun other hOther => ⟨hPhases s next other hOther, rfl, rfl⟩
      · rfl
      · intro publication hPublication
        rcases hPublishes publication hPublication with hOwn | ⟨earlier, hEarlier, hSame⟩
        · exact hOwn
        · rw [hSame]
          exact h.own domainId worker.phase earlier hPhase hEarlier
      · intro _
        rcases hBefore with hRecorded | hWriter | hWaiting
        · exact .inl (hRecorded.congr rfl rfl)
        · exact .inr (.inl hWriter)
        · rcases hMeasures (hAhead.mp hWaiting) with hStill | ⟨rfl, rest, hMeasuring⟩
          · exact .inr (.inr ((workerAhead_iff phaseOf_setWorker_self).mpr hStill))
          · rw [hMeasuring] at hKeeps
            simp only [Bool.false_or, Bool.or_eq_true, decide_eq_true_eq] at hKeeps
            rcases hKeeps with hRecorded | hWriter
            · exact .inl (hRecorded.congr rfl rfl)
            · exact .inr (.inl hWriter)
  | replays next hLoading hSuccess hReceiving hPublishes =>
      apply h.moved phaseOf_setWorker_self
      · exact fun other hOther => ⟨hPhases (s.setSpool domainId _) next other hOther,
          spools_setSpool_of_ne hOther _ s, rfl⟩
      · rfl
      · rw [hPublishes]
        exact nofun
      · intro _
        rw [hLoading, hSuccess] at hKeeps
        simp only [Bool.not_true, Bool.false_or, Bool.or_eq_true, decide_eq_true_eq] at hKeeps
        rcases hKeeps with hBacklog | hWriter
        · rcases hBefore with hRecorded | hWriter | hWaiting
          · refine .inl (hRecorded.congr rfl ?_)
            exact (congrArg CdrSpool.backlogBytes (spools_setSpool_self _ s)).trans hBacklog
          · exact .inr (.inl hWriter)
          · rw [hAhead, hLoading] at hWaiting
            cases hWaiting
        · exact .inr (.inl hWriter)
  | advances position rest hAcknowledging =>
      apply h.moved phaseOf_setWorker_self
      · exact fun other hOther => ⟨hPhases (s.setSpool domainId _) _ other hOther,
          spools_setSpool_of_ne hOther _ s, rfl⟩
      · rfl
      · exact nofun
      · exact fun _ => .inr (.inr ((workerAhead_iff phaseOf_setWorker_self).mpr rfl))
  | publishes publication rest limits hPublishing hLimits =>
      have hOwn : publication.domainId = domainId :=
        h.own domainId worker.phase publication hPhase (by rw [hPublishing]; rfl)
      apply h.moved phaseOf_setWorker_self
      · intro other hOther
        refine ⟨hPhases { s with admission := _ } _ other hOther, rfl, ?_⟩
        exact SpoolAdmission.status_update_of_ne (by rw [hOwn]; exact hOther)
      · rfl
      · exact nofun
      · intro _
        rw [hPublishing] at hKeeps
        rcases current_or_ahead hLimits hKeeps with hNow | hWriter
        · left
          rw [Current, hOwn] at hNow
          rw [Recorded, setWorker]
          simp only [hOwn, SpoolAdmission.status_update_self]
          exact hNow
        · exact .inr (.inl (of_decide_eq_true hWriter))

theorem Kept.refreshStep {index : Nat} (h : s.Kept)
    (hKeeps : s.keepsRecords codec (.refresh index) = true)
    (hStep : s.refreshStep index = some t) : t.Kept := by
  rcases refreshStep_cases hStep with
    ⟨_, rfl⟩ | ⟨publication, rest, limits, _, hRefresh, hLimits, rfl⟩
  · exact h.works rfl
  · apply h.publish
    · rfl
    · rfl
    · rfl
    · exact fun _ _ hAhead => hAhead
    · rw [keepsRecords, hRefresh] at hKeeps
      rcases current_or_ahead hLimits hKeeps with hNow | hAhead
      · exact .inl hNow
      · rw [Bool.or_eq_true, decide_eq_true_eq, decide_eq_true_eq] at hAhead
        exact .inr hAhead

theorem Kept.abort (h : s.Kept) (hStep : s.abort domainId = some t) : t.Kept := by
  obtain ⟨worker, rfl⟩ := abort_cases hStep
  apply h.moved phaseOf_setWorker_self
  · intro other hOther
    refine ⟨?_, rfl, rfl⟩
    rw [phaseOf, workers_setWorker_of_ne hOther, phaseOf]
  · rfl
  · intro publication hPublication
    cases hPublication
  · exact fun hRuns => (hRuns rfl).elim

theorem Kept.receive (h : s.Kept) (hStep : s.receive = some t) : t.Kept := by
  obtain ⟨hWriter, ⟨_, _, _, rfl⟩ | ⟨_, rfl⟩⟩ := receive_cases hStep
  · exact h.turn rfl (fun _ => rfl) (by rw [hWriter]; rfl)
  · exact h.turn rfl (fun _ => rfl) (by rw [hWriter]; rfl)

theorem Kept.step {action : CdrAction} (h : s.Kept) (hKeeps : s.keepsRecords codec action = true)
    (hStep : s.step codec action = some t) : t.Kept := by
  cases action with
  | enqueueDurable ticket command => exact h.works (works_enqueueDurable hStep)
  | caller ticket => exact h.works (works_callerStep hStep)
  | closePermits =>
      obtain rfl := Option.some.inj hStep
      exact h.works rfl
  | sendShutdown =>
      obtain rfl := sendShutdown_eq hStep
      exact h.works rfl
  | receive => exact h.receive hStep
  | tick order =>
      obtain ⟨hWriter, rfl⟩ := tick_cases hStep
      exact h.turn rfl (fun _ => rfl) (by rw [hWriter]; rfl)
  | listDomains domains =>
      obtain ⟨hWriter, rfl⟩ := listDomains_cases hStep
      exact h.turn rfl (fun _ => rfl) (by rw [hWriter]; rfl)
  | measureStart measured => exact h.measureStart hKeeps hStep
  | append outcome => exact h.append hKeeps hStep
  | writer => exact h.writerStep hKeeps hStep
  | worker domainId success => exact h.workerStep hKeeps hStep
  | abort domainId => exact h.abort hStep
  | setLimits limits =>
      obtain rfl := Option.some.inj hStep
      apply h.quiet
      · rfl
      · rfl
      · exact fun _ => rfl
      · exact fun _ hAhead => hAhead
  | refresh index => exact h.refreshStep hKeeps hStep

theorem kept_of_run (h : Transition.ReachableWithin (system codec)
    (fun s action => s.keepsRecords codec action = true) s) :
    s.Kept := by
  apply h.invariant
  · rintro s ⟨spools, limits, rfl⟩
    exact ⟨nofun, nofun⟩
  · intro s action t hs hKeeps hNext
    exact hs.step hKeeps hNext

end Records

section Rejections

variable {s t : CdrService} {codec : Codec CdrWriteCommand} {domainId : DomainId}

theorem sensible_publish (h : s.admission.Sensible) (publication : Publication) :
    (s.publish publication).2.admission.Sensible := by
  rcases publish_cases publication s with ⟨_, hPublish⟩ | ⟨limits, _, hPublish⟩
  · rw [hPublish]
    exact h
  · rw [hPublish]
    exact h.update

theorem sensible_works (h : s.admission.Sensible) (hWorks : t.works = s.works) :
    t.admission.Sensible := by
  simp only [works, Prod.mk.injEq] at hWorks
  rw [hWorks.2.2.2.1]
  exact h

theorem sensible_writerStep (h : s.admission.Sensible) (hStep : s.writerStep = some t) :
    t.admission.Sensible := by
  have hPublishes : ∀ {publication published}, s.publish publication = published →
      published.2.admission.Sensible := by
    rintro publication _ rfl
    exact sensible_publish h publication
  rw [writerStep] at hStep
  split at hStep
  · obtain rfl := Option.some.inj hStep
    exact h
  · split at hStep
    · next hPublish =>
        obtain rfl := Option.some.inj hStep
        exact hPublishes hPublish
    · next hPublish =>
        obtain rfl := Option.some.inj hStep
        exact hPublishes hPublish
  · obtain rfl := Option.some.inj hStep
    exact h
  · obtain rfl := Option.some.inj hStep
    exact h
  · split at hStep
    · obtain rfl := Option.some.inj hStep
      exact h
    · cases hStep
  · split at hStep
    · next hPublish =>
        obtain rfl := Option.some.inj hStep
        exact hPublishes hPublish
    · next hPublish =>
        obtain rfl := Option.some.inj hStep
        exact hPublishes hPublish
  · obtain rfl := Option.some.inj hStep
    exact h
  · next acknowledged rest _ =>
      obtain rfl := Option.some.inj hStep
      rw [(frame_acknowledgeFront acknowledged rest s).2.2.1]
      exact h.appendFailure
  · obtain rfl := Option.some.inj hStep
    exact h.appendFailure
  · obtain rfl := Option.some.inj hStep
    rw [checkFinished]
    split
    · exact h
    · exact h
  · obtain rfl := Option.some.inj hStep
    exact h
  · cases hStep

theorem sensible_workerStep {success : Bool} (h : s.admission.Sensible)
    (hStep : s.workerStep codec domainId success = some t) : t.admission.Sensible := by
  obtain ⟨worker, _, _, hMove⟩ := workerStep_cases hStep
  cases hMove with
  | goesOn next => exact h
  | replays next => exact h
  | advances position rest => exact h
  | publishes publication rest limits => exact h.update

theorem sensible_append {outcome : AppendOutcome} (h : s.admission.Sensible)
    (hStep : s.append codec outcome = some t) : t.admission.Sensible := by
  obtain ⟨flushed, rest, item, queue, _, _, hOutcome⟩ := append_cases hStep
  have hSame : (s.ensureDomainWorker flushed).admission.Sensible := by
    rw [admission_ensureDomainWorker]
    exact h
  rcases hOutcome with ⟨_, rfl⟩ | ⟨write, measured, _, hWritten⟩
  · exact hSame
  · rcases hWritten with ⟨error, spool, _, rfl⟩ | ⟨position, spool, _, rfl⟩
    · exact hSame
    · exact hSame

theorem sensible_refreshStep {index : Nat} (h : s.admission.Sensible)
    (hStep : s.refreshStep index = some t) : t.admission.Sensible := by
  rcases refreshStep_cases hStep with ⟨_, rfl⟩ | ⟨_, _, _, _, _, _, rfl⟩
  · exact h
  · exact h.update

theorem sensible_step {action : CdrAction} (h : s.admission.Sensible)
    (hStep : s.step codec action = some t) : t.admission.Sensible := by
  cases action with
  | enqueueDurable ticket command => exact sensible_works h (works_enqueueDurable hStep)
  | caller ticket => exact sensible_works h (works_callerStep hStep)
  | closePermits =>
      obtain rfl := Option.some.inj hStep
      exact h
  | sendShutdown =>
      obtain rfl := sendShutdown_eq hStep
      exact h
  | receive =>
      rcases receive_cases hStep with ⟨_, ⟨_, _, _, rfl⟩ | ⟨_, rfl⟩⟩
      · exact h
      · exact h
  | tick order =>
      obtain ⟨_, rfl⟩ := tick_cases hStep
      exact h
  | listDomains domains =>
      obtain ⟨_, rfl⟩ := listDomains_cases hStep
      exact h
  | measureStart measured =>
      rw [step, measureStart] at hStep
      split at hStep
      · next started rest _ =>
          have hSame : (s.ensureDomainWorker started).admission.Sensible := by
            rw [admission_ensureDomainWorker]
            exact h
          simp only at hStep
          split at hStep
          · obtain rfl := Option.some.inj hStep
            exact hSame
          · obtain rfl := Option.some.inj hStep
            exact hSame
      · cases hStep
  | append outcome => exact sensible_append h hStep
  | writer => exact sensible_writerStep h hStep
  | worker domainId success => exact sensible_workerStep h hStep
  | abort domainId =>
      obtain ⟨worker, rfl⟩ := abort_cases hStep
      exact h
  | setLimits limits =>
      obtain rfl := Option.some.inj hStep
      exact h
  | refresh index => exact sensible_refreshStep h hStep

theorem sensible_of_reachable (h : Transition.Reachable (system codec) s) :
    s.admission.Sensible := by
  apply h.invariant (P := fun s => s.admission.Sensible)
  · rintro s ⟨spools, limits, rfl⟩ domainId hRejects
    cases hRejects
  · intro s action t hs hNext
    exact sensible_step hs hNext

end Rejections

section Results

variable {s : CdrService} {codec : Codec CdrWriteCommand} {domainId : DomainId}

/-- With the writer and the worker at rest, the record of a domain is the backlog of its spool, and
a spool without a backlog rejects no calls. -/
def Consistent (s : CdrService) : Prop :=
  ∀ domainId, s.writer.idle = true → s.Sleeps domainId →
    s.Recorded domainId ∧
      (s.backlog domainId = 0 → (s.admission.status domainId).rejectingNewCalls = false)

/-- While every measurement is published as the latest one, what admission has recorded of an idle
domain is its backlog, and a domain with nothing left does not reject new calls. -/
theorem consistent_of_current
    (h : Transition.ReachableWithin (system codec)
      (fun s action => s.keepsRecords codec action = true) s) : s.Consistent := by
  rintro domainId hIdle ⟨worker, hWorker, hReceiving, _⟩
  have hPhase : s.phaseOf domainId = some .receiving := by
    rw [phaseOf, hWorker, Option.map_some, hReceiving]
  have hRecorded : s.Recorded domainId := by
    rcases (kept_of_run h).measured domainId .receiving hPhase nofun with hDone | hAhead | hAhead
    · exact hDone
    · rw [WriterAhead, WriterPhase.publication_of_idle hIdle] at hAhead
      cases hAhead
    · rw [workerAhead_iff hPhase] at hAhead
      cases hAhead
  refine ⟨hRecorded, fun hDrained => ?_⟩
  have hSensible := sensible_of_reachable h.reachable domainId
  rw [Recorded, hDrained] at hRecorded
  rw [hRecorded] at hSensible
  exact Bool.eq_false_iff.mpr fun hRejects => Nat.lt_irrefl 0 (hSensible hRejects)

/-- A step, if it keeps the records. -/
def keepingStep (codec : Codec CdrWriteCommand) (s : CdrService) (action : CdrAction) :
    Option CdrService :=
  if s.keepsRecords codec action then s.step codec action else none

theorem runs_of_keepingStep {schedule : List CdrAction} {spools : DomainId → CdrSpool}
    {limits : CdrSpoolLimits}
    (h : schedule.foldlM (keepingStep codec) (spawn spools limits) = some s) :
    Transition.ReachableWithin (system codec) (fun s action => s.keepsRecords codec action = true)
      s := by
  refine ⟨_, ⟨spools, limits, rfl⟩, Transition.runsWithin_of_foldlM ?_ h⟩
  intro s action t hStep
  rw [keepingStep] at hStep
  split at hStep
  · next hKeeps => exact ⟨hKeeps, hStep⟩
  · cases hStep

set_option maxRecDepth 20000 in
/-- The same run keeps the records: when it rests, nothing is recorded as waiting. -/
theorem consistent_of_current_drained :
    ∃ s, Transition.ReachableWithin (system tornCodec)
        (fun s action => s.keepsRecords tornCodec action = true) s ∧
      s.appended.map (·.ticket) = [0] ∧ s.Sleeps "domain-a" ∧ s.Consistent := by
  have hRests : (drainedSchedule.foldlM (keepingStep tornCodec)
      (spawn (fun _ => .empty) sampleLimits)).any
      (fun s => s.rests "domain-a" && decide (s.appended.map (·.ticket) = [0])) = true := by
    decide +kernel
  obtain ⟨s, hRun, hEnd⟩ := (Option.any_eq_true ..).mp hRests
  rw [Bool.and_eq_true, decide_eq_true_eq] at hEnd
  have hReachable := runs_of_keepingStep hRun
  exact ⟨s, hReachable, hEnd.2, (sleeps_of_rests hEnd.1).2, consistent_of_current hReachable⟩

/-- The spool that an earlier process left: one frame without a payload. -/
def oldSpool : CdrSpool where
  segments := [(1, [0, 0, 0, 0, 0, 0, 0, 0])]
  ascending := by simp [OrdMap.Ascending, OrdMap.keys]
  checkpoint := none
  quarantine _ _ := none

/-- The recorded backlogs are read, the worker drains the spool, and they are published again. -/
def staleSchedule : List CdrAction :=
  [.listDomains ["domain-a"], .measureStart true, .writer, .writer, .writer, .writer,
    .setLimits sampleLimits, .refresh 0] ++ List.replicate 10 (.worker "domain-a" true) ++
    [.refresh 0, .refresh 0, .refresh 0]

/-- A backlog that was copied before the spool was drained is published after it. -/
theorem stale_backlog_stays :
    ∃ s, Transition.Reachable (system tornCodec) s ∧ ¬ s.Consistent := by
  have hStale : (staleSchedule.foldlM (step tornCodec)
      (spawn (fun _ => oldSpool) sampleLimits)).any
      (fun s => s.rests "domain-a" && !decide (s.Recorded "domain-a")) = true := by
    decide
  obtain ⟨s, hRun, hEnd⟩ := (Option.any_eq_true ..).mp hStale
  rw [Bool.and_eq_true, Bool.not_eq_true', decide_eq_false_iff_not] at hEnd
  obtain ⟨hIdle, hSleeps⟩ := sleeps_of_rests hEnd.1
  refine ⟨s, reachable_of_schedule hRun, fun hConsistent => ?_⟩
  exact hEnd.2 (hConsistent "domain-a" hIdle hSleeps).1

end Results

end CdrService

end VoipSwitch
