import VoipSwitch.Cdr.Durability
import VoipSwitch.Cdr.Moves
import Mathlib.Data.List.Nodup

/-! What the callers of the CDR writer are told. The queue of a domain is what the writer has
received for it and not acknowledged, in the order of receipt, whatever fails meanwhile. -/
namespace VoipSwitch

open Keyed
open CdrSpool (shortCommand tornCodec)

def CdrWriterMessage.item? : CdrWriterMessage → Option PendingAppend
  | .write item => some item
  | .shutdown => none

/-- The domain whose front command was appended and is not acknowledged yet. -/
def WriterPhase.appendedFor? : WriterPhase → Option DomainId
  | .publishing publication _ => some publication.domainId
  | .waking domainId _ | .acknowledging domainId _ => some domainId
  | _ => none

namespace CdrService

/-- The commands that were handed to the writer. -/
def sent (s : CdrService) : List PendingAppend := s.received ++ s.channel.filterMap (·.item?)

/-- The commands of a domain that were received and not acknowledged. -/
def owed (s : CdrService) (domainId : DomainId) : List PendingAppend :=
  s.received.filter fun item => item.domainId = domainId ∧ item.ticket ∉ s.replies

/-- `x` was received before `y`, for the same domain. -/
def Precedes (s : CdrService) (x y : PendingAppend) : Prop :=
  [x, y].Sublist s.received ∧ x.domainId = y.domainId

structure Accounted (s : CdrService) : Prop where
  unique : (s.sent.map (·.ticket)).Nodup
  known : ∀ item ∈ s.sent, ∃ caller, s.callers item.ticket = some caller ∧
    caller.command = item.command ∧ caller.phase ≠ .acquiring ∧ caller.phase ≠ .sending
  queued : ∀ domainId, s.queue domainId = s.owed domainId
  appended : ∀ item ∈ s.appended, item ∈ s.received
  replied : ∀ ticket ∈ s.replies, ∃ item ∈ s.appended, item.ticket = ticket
  told : ∀ ticket caller, s.callers ticket = some caller → caller.phase = .told true →
    ticket ∈ s.replies
  ordered : ∀ x y, s.Precedes x y → ∀ earlier later, s.appended = earlier ++ y :: later →
    x ∈ earlier
  front : ∀ domainId, s.writer.appendedFor? = some domainId →
    ∃ item rest, s.queue domainId = item :: rest ∧ item ∈ s.appended

/-- What the accounts are kept of, but for the channel and the phase of the writer. -/
def ledger (s : CdrService) := (s.callers, s.queue, s.replies, s.received, s.appended)

section Steps

variable {s t : CdrService} {codec : Codec CdrWriteCommand}

theorem Accounted.congr (h : s.Accounted) (hSame : t.ledger = s.ledger)
    (hSent : t.sent.Sublist s.sent)
    (hFront : ∀ domainId, t.writer.appendedFor? = some domainId →
      ∃ item rest, s.queue domainId = item :: rest ∧ item ∈ s.appended) : t.Accounted := by
  simp only [ledger, Prod.mk.injEq] at hSame
  obtain ⟨hCallers, hQueue, hReplies, hReceived, hAppended⟩ := hSame
  constructor
  · exact h.unique.sublist (hSent.map _)
  · rw [hCallers]
    exact fun item hMem => h.known item (hSent.subset hMem)
  · intro domainId
    rw [hQueue, owed, hReceived, hReplies]
    exact h.queued domainId
  · rw [hAppended, hReceived]
    exact h.appended
  · rw [hReplies, hAppended]
    exact h.replied
  · rw [hCallers, hReplies]
    exact h.told
  · simp only [Precedes, hReceived, hAppended]
    exact h.ordered
  · rw [hQueue, hAppended]
    exact hFront

/-- Steps that leave the writer where it stands, too. -/
theorem Accounted.same (h : s.Accounted) (hSame : t.ledger = s.ledger)
    (hSent : t.sent.Sublist s.sent) (hWriter : t.writer = s.writer) : t.Accounted :=
  h.congr hSame hSent (by rw [hWriter]; exact h.front)

/-- Steps after which nothing is appended and not acknowledged. -/
theorem Accounted.turn (h : s.Accounted) (hSame : t.ledger = s.ledger)
    (hSent : t.sent.Sublist s.sent) (hWriter : t.writer.appendedFor? = none) : t.Accounted :=
  h.congr hSame hSent fun domainId hSome => by rw [hWriter] at hSome; cases hSome

/-- Steps between an append and its acknowledgement. -/
theorem Accounted.goesOn (h : s.Accounted) {domainId : DomainId}
    (hPhase : s.writer.appendedFor? = some domainId) (hSame : t.ledger = s.ledger)
    (hSent : t.sent.Sublist s.sent) (hNext : t.writer.appendedFor? = some domainId) :
    t.Accounted := by
  apply h.congr hSame hSent
  intro other hSome
  rw [hNext, ← hPhase] at hSome
  exact h.front other hSome

theorem ledger_ensureDomainWorker (domainId : DomainId) (s : CdrService) :
    (s.ensureDomainWorker domainId).ledger = s.ledger := by
  rw [ensureDomainWorker_eq]
  rfl

end Steps

section Callers

variable {s t : CdrService} {ticket : Ticket}

theorem Accounted.caller_of_sent (h : s.Accounted) {item : PendingAppend} (hMem : item ∈ s.sent)
    {caller : Caller} (hCaller : s.callers item.ticket = some caller) :
    caller.command = item.command ∧ caller.phase ≠ .acquiring ∧ caller.phase ≠ .sending := by
  obtain ⟨known, hKnown, hRest⟩ := h.known item hMem
  rw [hCaller, Option.some.injEq] at hKnown
  subst hKnown
  exact hRest

/-- A caller goes on by itself. -/
theorem Accounted.setCaller (h : s.Accounted) {next : Caller}
    (hKnown : ∀ item ∈ s.sent, item.ticket = ticket →
      next.command = item.command ∧ next.phase ≠ .acquiring ∧ next.phase ≠ .sending)
    (hTold : next.phase = .told true → ticket ∈ s.replies) :
    (s.setCaller ticket next).Accounted := by
  refine { h with known := fun item hMem => ?_, told := fun other caller hCaller hPhase => ?_ }
  · by_cases hSame : item.ticket = ticket
    · rw [hSame, callers_setCaller_self]
      exact ⟨next, rfl, hKnown item hMem hSame⟩
    · rw [callers_setCaller_of_ne hSame]
      exact h.known item hMem
  · by_cases hSame : other = ticket
    · subst hSame
      rw [callers_setCaller_self, Option.some.injEq] at hCaller
      subst hCaller
      exact hTold hPhase
    · rw [callers_setCaller_of_ne hSame] at hCaller
      exact h.told other caller hCaller hPhase

theorem Accounted.enqueueDurable (h : s.Accounted) {command : CdrWriteCommand}
    (hStep : s.enqueueDurable ticket command = some t) : t.Accounted := by
  rw [CdrService.enqueueDurable] at hStep
  split at hStep
  · cases hStep
  · next hNew =>
      have hUnknown : ∀ item ∈ s.sent, item.ticket = ticket → False := by
        intro item hMem hSame
        obtain ⟨caller, hCaller, _⟩ := h.known item hMem
        rw [hSame, hNew] at hCaller
        cases hCaller
      split at hStep
      · obtain rfl := Option.some.inj hStep
        apply h.setCaller
        · exact fun item hMem hSame => (hUnknown item hMem hSame).elim
        · intro hTold
          cases hTold
      · obtain rfl := Option.some.inj hStep
        have hPermits : ∀ permits, ({ s with permits := permits } : CdrService).Accounted :=
          fun permits => h.same rfl (.refl _) rfl
        apply (hPermits _).setCaller
        · exact fun item hMem hSame => (hUnknown item hMem hSame).elim
        · intro hTold
          cases hTold

/-- A command is handed to the writer. -/
theorem Accounted.handOver (h : s.Accounted) {caller : Caller}
    (hCaller : s.callers ticket = some caller) (hPhase : caller.phase = .sending) :
    (CdrService.setCaller ticket { caller with phase := .waiting } { s with
      channel := s.channel ++ [.write { command := caller.command, ticket }] }).Accounted := by
  have hUnsent : ∀ item ∈ s.sent, item.ticket ≠ ticket := by
    rintro item hMem rfl
    exact (h.caller_of_sent hMem hCaller).2.2 hPhase
  have hSent : ∀ callers, sent { s with
      callers := callers
      channel := s.channel ++ [.write { command := caller.command, ticket }] } =
      s.sent ++ [{ command := caller.command, ticket }] := by
    intro callers
    simp [sent, CdrWriterMessage.item?]
  refine { h with
    unique := ?_
    known := fun item hMem => ?_
    told := fun other next hNext hTold => ?_ }
  · rw [CdrService.setCaller, hSent, List.map_append, List.nodup_append]
    refine ⟨h.unique, by simp, ?_⟩
    intro other hOther new hNew
    obtain ⟨item, hItem, rfl⟩ := List.mem_map.mp hOther
    rw [List.map_singleton, List.mem_singleton] at hNew
    rw [hNew]
    exact hUnsent item hItem
  · rw [CdrService.setCaller, hSent] at hMem
    rcases List.mem_append.mp hMem with hBefore | hNew
    · obtain ⟨known, hKnown, hRest⟩ := h.known item hBefore
      rw [callers_setCaller_of_ne (hUnsent item hBefore)]
      exact ⟨known, hKnown, hRest⟩
    · rw [List.mem_singleton.mp hNew, callers_setCaller_self]
      exact ⟨_, rfl, rfl, nofun, nofun⟩
  · by_cases hSame : other = ticket
    · subst hSame
      rw [callers_setCaller_self, Option.some.injEq] at hNext
      subst hNext
      cases hTold
    · rw [callers_setCaller_of_ne hSame] at hNext
      exact h.told other next hNext hTold

theorem Accounted.callerStep (h : s.Accounted) (hStep : s.callerStep ticket = some t) :
    t.Accounted := by
  rw [CdrService.callerStep] at hStep
  split at hStep
  · cases hStep
  · next caller hCaller =>
      -- A caller that is not known to the writer yet, or stays a caller that is.
      have hGoesOn : ∀ {u : CdrService} {phase : CallerPhase}, u.Accounted →
          u.callers = s.callers → u.replies = s.replies →
          (caller.phase = .acquiring ∨ caller.phase = .sending ∨
            phase ≠ .acquiring ∧ phase ≠ .sending) →
          (phase = .told true → ticket ∈ s.replies) →
          (u.setCaller ticket { caller with phase }).Accounted := by
        intro u phase hu hCallers hReplies hKnown hTold
        apply hu.setCaller
        · rintro item hMem rfl
          obtain ⟨hCommand, hAcquired, hSent⟩ := hu.caller_of_sent hMem (by rw [hCallers, hCaller])
          rcases hKnown with hEarly | hEarly | hLate
          · exact (hAcquired hEarly).elim
          · exact (hSent hEarly).elim
          · exact ⟨hCommand, hLate⟩
        · rw [hReplies]
          exact hTold
      simp only at hStep
      split at hStep
      · next hPhase =>
          split at hStep
          · obtain rfl := Option.some.inj hStep
            exact hGoesOn h rfl rfl (.inl hPhase) fun hTold => by cases hTold
          · split at hStep
            · cases hStep
            · obtain rfl := Option.some.inj hStep
              exact hGoesOn (h.same rfl (.refl _) rfl) rfl rfl (.inl hPhase) fun hTold => by
                cases hTold
      · next hPhase =>
          split at hStep
          · obtain rfl := Option.some.inj hStep
            exact hGoesOn (h.same rfl (.refl _) rfl) rfl rfl (.inr (.inl hPhase)) fun hTold => by
              cases hTold
          · split at hStep
            · cases hStep
            · obtain rfl := Option.some.inj hStep
              exact h.handOver hCaller hPhase
      · split at hStep
        · next hReplied =>
            obtain rfl := Option.some.inj hStep
            exact hGoesOn h rfl rfl (.inr (.inr ⟨CallerPhase.noConfusion, CallerPhase.noConfusion⟩))
              fun _ => hReplied
        · split at hStep
          · obtain rfl := Option.some.inj hStep
            exact hGoesOn h rfl rfl (.inr (.inr ⟨CallerPhase.noConfusion, CallerPhase.noConfusion⟩))
              fun hTold => by cases hTold
          · cases hStep
      · cases hStep

end Callers

section Writer

variable {s t : CdrService} {codec : Codec CdrWriteCommand}

theorem sublist_of_append_singleton {x y item : PendingAppend} {items : List PendingAppend}
    (hNew : y ≠ item) (h : [x, y].Sublist (items ++ [item])) : [x, y].Sublist items := by
  rw [← List.reverse_sublist] at h ⊢
  simp only [List.reverse_append, List.reverse_cons, List.reverse_nil, List.nil_append,
    List.cons_append] at h ⊢
  cases h with
  | cons _ h => exact h
  | cons_cons _ _ => exact (hNew rfl).elim

/-- The writer takes the next command. -/
theorem Accounted.receive (h : s.Accounted) (hStep : s.receive = some t) : t.Accounted := by
  rw [CdrService.receive] at hStep
  split at hStep
  · next item rest _ hChannel =>
      obtain rfl := Option.some.inj hStep
      have hSent : s.received ++ [item] ++ rest.filterMap (·.item?) = s.sent := by
        simp [sent, hChannel, CdrWriterMessage.item?]
      have hUnseen : ∀ old ∈ s.received, old.ticket ≠ item.ticket := by
        intro old hOld
        have hUnique := h.unique
        rw [← hSent, List.append_assoc, List.map_append, List.nodup_append] at hUnique
        exact hUnique.2.2 _ (List.mem_map_of_mem hOld) _
          (List.mem_map_of_mem (List.mem_append_left _ (List.mem_singleton_self item)))
      have hFresh : item.ticket ∉ s.replies := by
        intro hReplied
        obtain ⟨old, hOld, hSame⟩ := h.replied _ hReplied
        exact hUnseen old (h.appended old hOld) hSame
      constructor
      · rw [sent, hSent]
        exact h.unique
      · rw [sent, hSent]
        exact h.known
      · intro domainId
        have hQueue :=
          congrFun (queue_insert item.domainId (s.queue item.domainId ++ [item]) s) domainId
        rw [queue] at hQueue ⊢
        rw [hQueue, owed, List.filter_append]
        by_cases hSame : domainId = item.domainId
        · subst hSame
          rw [Function.update_self, h.queued, owed, List.filter_singleton]
          simp [hFresh]
        · rw [Function.update_of_ne hSame, h.queued, owed, List.filter_singleton]
          simp [Ne.symm hSame]
      · exact fun old hOld => List.mem_append_left _ (h.appended old hOld)
      · exact h.replied
      · exact h.told
      · rintro x y ⟨hOrder, hDomain⟩ earlier later hAppended
        -- What was appended was received before, so the new command is neither of the two.
        have hOld : y ∈ s.received := h.appended y (by rw [hAppended]; simp)
        have hNew : y ≠ item := by
          rintro rfl
          exact hUnseen y hOld rfl
        exact h.ordered x y ⟨sublist_of_append_singleton hNew hOrder, hDomain⟩
          earlier later hAppended
      · intro domainId hSome
        cases hSome
  · next rest _ hChannel =>
      obtain rfl := Option.some.inj hStep
      have hSent : sent { s with channel := rest, closed := true, writer := .checking } =
        s.sent := by
        simp [sent, hChannel, CdrWriterMessage.item?]
      exact h.turn rfl (by rw [hSent]) rfl
  · cases hStep

theorem Accounted.tick {order : List DomainId} (h : s.Accounted)
    (hStep : s.tick order = some t) : t.Accounted := by
  obtain ⟨_, rfl⟩ := tick_cases hStep
  exact h.turn rfl (.refl _) rfl

theorem Accounted.listDomains {domains : List DomainId} (h : s.Accounted)
    (hStep : s.listDomains domains = some t) : t.Accounted := by
  obtain ⟨_, rfl⟩ := listDomains_cases hStep
  exact h.turn rfl (.refl _) rfl

theorem sent_ensureDomainWorker (domainId : DomainId) (s : CdrService) :
    (s.ensureDomainWorker domainId).sent = s.sent := by
  rw [ensureDomainWorker_eq]
  rfl

/-- The writer makes sure that a domain has its worker, and goes on. -/
theorem Accounted.ensured (h : s.Accounted) {domainId : DomainId} {writer : WriterPhase}
    (hWriter : writer.appendedFor? = none) :
    ({ s.ensureDomainWorker domainId with writer := writer } : CdrService).Accounted := by
  apply h.turn
  · exact ledger_ensureDomainWorker domainId s
  · have hSent := sent_ensureDomainWorker domainId s
    rw [sent] at hSent ⊢
    rw [hSent]
  · exact hWriter

theorem Accounted.measureStart {measured : Bool} (h : s.Accounted)
    (hStep : s.measureStart measured = some t) : t.Accounted := by
  rw [CdrService.measureStart] at hStep
  split at hStep
  · simp only at hStep
    split at hStep
    · obtain rfl := Option.some.inj hStep
      exact h.ensured rfl
    · obtain rfl := Option.some.inj hStep
      exact h.ensured rfl
  · cases hStep

theorem Accounted.nodup_received (h : s.Accounted) : (s.received.map (·.ticket)).Nodup :=
  h.unique.sublist ((List.sublist_append_left _ _).map _)

theorem Accounted.nodup_queue (h : s.Accounted) (domainId : DomainId) :
    ((s.queue domainId).map (·.ticket)).Nodup := by
  rw [h.queued]
  exact h.nodup_received.sublist (List.filter_sublist.map _)

/-- What comes before the front command of its domain was acknowledged, hence appended. -/
theorem Accounted.appended_before_front (h : s.Accounted) {domainId : DomainId}
    {item x : PendingAppend} {queue : List PendingAppend}
    (hQueue : s.queue domainId = item :: queue) (hBefore : s.Precedes x item) :
    x ∈ s.appended := by
  obtain ⟨hOrder, hDomain⟩ := hBefore
  have hMem : ∀ y ∈ [x, item], y ∈ s.received := fun y hy => hOrder.subset hy
  have hItem : item ∈ s.owed domainId := by
    rw [← h.queued, hQueue]
    exact List.mem_cons_self
  rw [owed, List.mem_filter, decide_eq_true_eq] at hItem
  obtain ⟨_, hItemDomain, hItemOwed⟩ := hItem
  by_cases hReplied : x.ticket ∈ s.replies
  · obtain ⟨old, hOld, hSame⟩ := h.replied _ hReplied
    have hEq : old = x := List.inj_on_of_nodup_map h.nodup_received (h.appended old hOld)
      (hMem x List.mem_cons_self) hSame
    rw [← hEq]
    exact hOld
  · -- Otherwise the front command would be in the queue a second time.
    have hQueued : [x, item].Sublist (item :: queue) := by
      rw [← hQueue, h.queued, owed]
      have hFilter := hOrder.filter fun y => decide (y.domainId = domainId ∧ y.ticket ∉ s.replies)
      simpa [hDomain, hItemDomain, hReplied, hItemOwed] using hFilter
    have hTwice : item ∈ queue := by
      cases hQueued with
      | cons _ hRest => exact hRest.subset (by simp)
      | cons_cons _ hRest => exact hRest.subset (by simp)
    have hNodup := h.nodup_queue domainId
    rw [hQueue, List.map_cons, List.nodup_cons] at hNodup
    exact (hNodup.1 (List.mem_map_of_mem hTwice)).elim

/-- The front command of a queue is in the spool. -/
theorem Accounted.appendFront (h : s.Accounted) {domainId : DomainId} {item : PendingAppend}
    {queue : List PendingAppend} {writer : WriterPhase}
    (hQueue : s.queue domainId = item :: queue)
    (hWriter : ∀ other, writer.appendedFor? = some other → other = domainId) :
    ({ s with appended := s.appended ++ [item], writer := writer } : CdrService).Accounted := by
  refine { h with appended := ?_, replied := ?_, ordered := ?_, front := ?_ }
  · intro old hOld
    rcases List.mem_append.mp hOld with hOld | hNew
    · exact h.appended old hOld
    · rw [List.mem_singleton.mp hNew]
      have hItem : item ∈ s.owed domainId := by
        rw [← h.queued, hQueue]
        exact List.mem_cons_self
      exact (List.mem_filter.mp hItem).1
  · intro ticket hReplied
    obtain ⟨old, hOld, hSame⟩ := h.replied ticket hReplied
    exact ⟨old, List.mem_append_left _ hOld, hSame⟩
  · intro x y hBefore earlier later hAppended
    rcases List.eq_nil_or_concat later with rfl | ⟨later, last, rfl⟩
    · obtain ⟨hEarlier, hLast⟩ := List.append_inj' hAppended rfl
      rw [List.cons.injEq] at hLast
      rw [← hEarlier]
      apply h.appended_before_front hQueue
      rw [hLast.1]
      exact hBefore
    · apply h.ordered x y hBefore earlier later
      rw [List.concat_eq_append, ← List.cons_append, ← List.append_assoc] at hAppended
      exact (List.append_inj' hAppended rfl).1
  · intro other hSome
    rw [hWriter other hSome]
    exact ⟨item, queue, hQueue, by simp⟩

/-- The task of the front command: whatever becomes of it, no queue changes. -/
theorem Accounted.append {outcome : AppendOutcome} (h : s.Accounted)
    (hStep : s.append codec outcome = some t) : t.Accounted := by
  obtain ⟨domainId, rest, item, queue, hWriter, hQueue, hOutcome⟩ := append_cases hStep
  have hEnsured : ({ s.ensureDomainWorker domainId with
      writer := .refusing domainId rest } : CdrService).Accounted := h.ensured rfl
  rcases hOutcome with ⟨_, rfl⟩ | ⟨write, measured, _, hWritten⟩
  · exact hEnsured
  · rcases hWritten with ⟨error, spool, _, rfl⟩ | ⟨position, spool, _, rfl⟩
    · exact hEnsured.same rfl (.refl _) rfl
    · have hBase : ((s.ensureDomainWorker domainId).setSpool domainId spool).Accounted := by
        apply h.same
        · exact ledger_ensureDomainWorker domainId s
        · have hSent := sent_ensureDomainWorker domainId s
          rw [← hSent]
          exact .refl _
        · exact writer_ensureDomainWorker domainId s
      have hFront : (s.ensureDomainWorker domainId).queue domainId = item :: queue := by
        rw [← hQueue]
        exact congrFun (congrArg (·.2.1) (ledger_ensureDomainWorker domainId s)) domainId
      have hAppended : (s.ensureDomainWorker domainId).appended = s.appended :=
        congrArg (·.2.2.2.2) (ledger_ensureDomainWorker domainId s)
      rw [← hAppended]
      apply hBase.appendFront hFront
      intro other hSome
      cases measured with
      | false => cases hSome
      | true => exact (Option.some.inj hSome).symm

/-- The queues without the command that is acknowledged. -/
theorem Accounted.owed_acknowledged (h : s.Accounted) {domainId : DomainId} {item : PendingAppend}
    {queue : List PendingAppend} (hQueue : s.queue domainId = item :: queue) :
    owed { s with replies := s.replies ++ [item.ticket] } =
      Function.update s.owed domainId queue := by
  have hItem : item ∈ s.owed domainId := by
    rw [← h.queued, hQueue]
    exact List.mem_cons_self
  rw [owed, List.mem_filter, decide_eq_true_eq] at hItem
  have hFilter : ∀ other, owed { s with replies := s.replies ++ [item.ticket] } other =
      (s.owed other).filter fun y => y.ticket ≠ item.ticket := by
    intro other
    rw [owed, owed, List.filter_filter]
    apply List.filter_congr
    intro y _
    simp only [List.mem_append, List.mem_singleton, not_or]
    by_cases hDomain : y.domainId = other <;> by_cases hOwed : y.ticket ∈ s.replies <;>
      simp [hDomain, hOwed]
  funext other
  rw [hFilter]
  by_cases hSame : other = domainId
  · subst hSame
    have hNodup := h.nodup_queue other
    rw [hQueue, List.map_cons, List.nodup_cons] at hNodup
    rw [Function.update_self, ← h.queued, hQueue, List.filter_cons_of_neg (by simp),
      List.filter_eq_self]
    intro y hy
    rw [decide_eq_true_eq]
    intro hTicket
    exact hNodup.1 (hTicket ▸ List.mem_map_of_mem hy)
  · rw [Function.update_of_ne hSame, List.filter_eq_self]
    intro y hy
    rw [owed, List.mem_filter, decide_eq_true_eq] at hy
    rw [decide_eq_true_eq]
    intro hTicket
    have hEq := List.inj_on_of_nodup_map h.nodup_received hy.1 hItem.1 hTicket
    apply hSame
    rw [← hy.2.1, hEq, hItem.2.1]

/-- The front command was appended, so its caller may be told. -/
theorem Accounted.acknowledgeFront (h : s.Accounted) {domainId : DomainId} {rest : List DomainId}
    (hWriter : s.writer = .acknowledging domainId rest) :
    (s.acknowledgeFront domainId rest).Accounted := by
  obtain ⟨item, queue, hQueue, hAppended⟩ := h.front domainId (by rw [hWriter]; rfl)
  have hTold : ({ s with
      pending := s.pending.insert domainId queue
      replies := s.replies ++ [item.ticket]
      writer := .flushing (domainId :: rest) } : CdrService).Accounted := by
    refine { h with queued := ?_, replied := ?_, told := ?_, front := nofun }
    · intro other
      have hNow := congrFun (queue_insert domainId queue s) other
      have hOwed := congrFun (h.owed_acknowledged hQueue) other
      rw [CdrService.queue] at hNow ⊢
      rw [owed] at hOwed ⊢
      rw [hNow, hOwed, funext h.queued]
    · intro ticket hReplied
      rcases List.mem_append.mp hReplied with hOld | hNew
      · exact h.replied ticket hOld
      · exact ⟨item, hAppended, (List.mem_singleton.mp hNew).symm⟩
    · intro ticket caller hCaller hPhase
      exact List.mem_append_left _ (h.told ticket caller hCaller hPhase)
  rw [acknowledgeFront_eq hQueue]
  exact hTold.same rfl (.refl _) rfl

theorem Accounted.writerStep (h : s.Accounted) (hStep : s.writerStep = some t) :
    t.Accounted := by
  rw [CdrService.writerStep] at hStep
  split at hStep
  · obtain rfl := Option.some.inj hStep
    exact h.turn rfl (.refl _) rfl
  · next publication rest hWriter =>
      rcases publish_cases publication s with ⟨_, hPublish⟩ | ⟨limits, _, hPublish⟩
      · rw [hPublish] at hStep
        obtain rfl := Option.some.inj hStep
        exact h.turn rfl (.refl _) rfl
      · rw [hPublish] at hStep
        obtain rfl := Option.some.inj hStep
        exact h.turn rfl (.refl _) rfl
  · obtain rfl := Option.some.inj hStep
    exact h.turn rfl (.refl _) rfl
  · obtain rfl := Option.some.inj hStep
    exact h.turn rfl (.refl _) rfl
  · split at hStep
    · next hEmpty =>
        obtain rfl := Option.some.inj hStep
        apply h.turn
        · simp only [ledger, Prod.mk.injEq, true_and, and_true]
          exact queue_remove hEmpty
        · exact .refl _
        · rfl
    · cases hStep
  · next publication rest hWriter =>
      have hPhase : s.writer.appendedFor? = some publication.domainId := by
        rw [hWriter]
        rfl
      rcases publish_cases publication s with ⟨_, hPublish⟩ | ⟨limits, _, hPublish⟩
      · rw [hPublish] at hStep
        obtain rfl := Option.some.inj hStep
        exact h.goesOn hPhase rfl (.refl _) rfl
      · rw [hPublish] at hStep
        obtain rfl := Option.some.inj hStep
        exact h.goesOn hPhase rfl (.refl _) rfl
  · next domainId rest hWriter =>
      have hPhase : s.writer.appendedFor? = some domainId := by
        rw [hWriter]
        rfl
      obtain rfl := Option.some.inj hStep
      exact h.goesOn hPhase rfl (.refl _) rfl
  · next domainId rest hWriter =>
      obtain rfl := Option.some.inj hStep
      exact h.acknowledgeFront hWriter
  · obtain rfl := Option.some.inj hStep
    exact h.turn rfl (.refl _) rfl
  · obtain rfl := Option.some.inj hStep
    rw [checkFinished]
    split
    · exact h.turn rfl (.refl _) rfl
    · exact h.turn rfl (.refl _) rfl
  · obtain rfl := Option.some.inj hStep
    apply h.turn
    · rfl
    · simp [sent]
    · rfl
  · cases hStep

end Writer

section Others

variable {s t : CdrService} {codec : Codec CdrWriteCommand} {domainId : DomainId}

theorem Accounted.setWorker (h : s.Accounted) (worker : DomainWorker) :
    (s.setWorker domainId worker).Accounted := h.same rfl (.refl _) rfl

/-- The workers and the configuration have no part in the accounts. -/
theorem Accounted.workerStep {success : Bool} (h : s.Accounted)
    (hStep : s.workerStep codec domainId success = some t) : t.Accounted := by
  obtain ⟨worker, _, _, hMove⟩ := workerStep_cases hStep
  cases hMove with
  | goesOn next => exact h.setWorker next
  | replays next => exact h.same rfl (.refl _) rfl
  | advances position rest => exact h.same rfl (.refl _) rfl
  | publishes publication rest limits => exact h.same rfl (.refl _) rfl

theorem Accounted.publish (h : s.Accounted) (publication : Publication) :
    (s.publish publication).2.Accounted := by
  rcases publish_cases publication s with ⟨_, hPublish⟩ | ⟨limits, _, hPublish⟩
  · rw [hPublish]
    exact h
  · rw [hPublish]
    exact h.same rfl (.refl _) rfl

theorem Accounted.refreshStep {index : Nat} (h : s.Accounted)
    (hStep : s.refreshStep index = some t) : t.Accounted := by
  rcases refreshStep_cases hStep with ⟨_, rfl⟩ | ⟨_, _, _, _, _, _, rfl⟩
  · exact h.same rfl (.refl _) rfl
  · exact h.same rfl (.refl _) rfl

theorem Accounted.step {action : CdrAction} (h : s.Accounted)
    (hStep : s.step codec action = some t) : t.Accounted := by
  cases action with
  | enqueueDurable ticket command => exact h.enqueueDurable hStep
  | caller ticket => exact h.callerStep hStep
  | closePermits =>
      obtain rfl := Option.some.inj hStep
      exact h.same rfl (.refl _) rfl
  | sendShutdown =>
      obtain rfl := sendShutdown_eq hStep
      apply h.same
      · rfl
      · simp [sent, CdrWriterMessage.item?]
      · rfl
  | receive => exact h.receive hStep
  | tick order => exact h.tick hStep
  | listDomains domains => exact h.listDomains hStep
  | measureStart measured => exact h.measureStart hStep
  | append outcome => exact h.append hStep
  | writer => exact h.writerStep hStep
  | worker domainId success => exact h.workerStep hStep
  | abort domainId =>
      obtain ⟨worker, rfl⟩ := abort_cases hStep
      exact h.setWorker _
  | setLimits limits =>
      obtain rfl := Option.some.inj hStep
      exact h.same rfl (.refl _) rfl
  | refresh index => exact h.refreshStep hStep

theorem accounted_spawn (spools : DomainId → CdrSpool) (limits : CdrSpoolLimits) :
    (spawn spools limits).Accounted where
  unique := .nil
  known _ hMem := nomatch hMem
  queued _ := rfl
  appended _ hMem := nomatch hMem
  replied _ hMem := nomatch hMem
  told _ _ hCaller := nomatch hCaller
  ordered _ _ hBefore := nomatch hBefore.1
  front _ hSome := nomatch hSome

theorem accounted_of_reachable (h : Transition.Reachable (system codec) s) : s.Accounted := by
  apply h.invariant
  · rintro s ⟨spools, limits, rfl⟩
    exact accounted_spawn spools limits
  · intro s action t hs hNext
    exact hs.step hNext

theorem runs_of_schedule {schedule : List CdrAction}
    (h : schedule.foldlM (step codec) s = some t) : Transition.Runs (system codec) s t :=
  Transition.runsWithin_of_foldlM (fun _ _ _ hStep => ⟨trivial, hStep⟩) h

theorem reachable_of_schedule {schedule : List CdrAction} {spools : DomainId → CdrSpool}
    {limits : CdrSpoolLimits} (h : schedule.foldlM (step codec) (spawn spools limits) = some s) :
    Transition.Reachable (system codec) s :=
  ⟨_, ⟨spools, limits, rfl⟩, runs_of_schedule h⟩

/-- Whatever comes of an append, nothing is acknowledged and every queue stays as it is. -/
theorem frame_append {outcome : AppendOutcome} (hStep : s.append codec outcome = some t) :
    t.queue = s.queue ∧ t.replies = s.replies ∧ t.callers = s.callers := by
  obtain ⟨domainId, rest, item, queue, _, _, hOutcome⟩ := append_cases hStep
  have hLedger := ledger_ensureDomainWorker domainId s
  simp only [ledger, Prod.mk.injEq] at hLedger
  obtain ⟨hCallers, hQueue, hReplies, _, _⟩ := hLedger
  rcases hOutcome with ⟨_, rfl⟩ | ⟨write, measured, _, hWritten⟩
  · exact ⟨hQueue, hReplies, hCallers⟩
  · rcases hWritten with ⟨error, spool, _, rfl⟩ | ⟨position, spool, _, rfl⟩
    · exact ⟨hQueue, hReplies, hCallers⟩
    · exact ⟨hQueue, hReplies, hCallers⟩

theorem Accounted.appended_of_replied (h : s.Accounted) {item : PendingAppend}
    (hReceived : item ∈ s.received) (hReplied : item.ticket ∈ s.replies) : item ∈ s.appended := by
  obtain ⟨old, hOld, hSame⟩ := h.replied _ hReplied
  have hEq := List.inj_on_of_nodup_map h.nodup_received (h.appended old hOld) hReceived hSame
  rw [← hEq]
  exact hOld

theorem Accounted.appended_of_told (h : s.Accounted) {ticket : Ticket} {command : CdrWriteCommand}
    (hTold : s.callers ticket = some { command, phase := .told true }) :
    { command, ticket } ∈ s.appended := by
  obtain ⟨item, hItem, rfl⟩ := h.replied ticket (h.told ticket _ hTold rfl)
  have hSent : item ∈ s.sent := List.mem_append_left _ (h.appended item hItem)
  have hCommand : command = item.command := (h.caller_of_sent hSent hTold).1
  subst hCommand
  exact hItem

/-- Who is told that a command is durable, its command was appended. The appends of a domain go
by the order of receipt. Nothing leaves the queue of a domain but what is acknowledged, and the
append of a command, whatever comes of it, leaves every queue and acknowledges nothing. -/
theorem acknowledged_means_appended (h : Transition.Reachable (system codec) s) :
    (∀ ticket command, s.callers ticket = some { command, phase := .told true } →
      { command, ticket } ∈ s.appended) ∧
    (∀ x y, s.Precedes x y → ∀ earlier later, s.appended = earlier ++ y :: later →
      x ∈ earlier) ∧
    (∀ domainId, s.queue domainId = s.owed domainId) ∧
    (∀ item ∈ s.received, item.ticket ∈ s.replies → item ∈ s.appended) ∧
    ∀ outcome t, s.append codec outcome = some t →
      t.queue = s.queue ∧ t.replies = s.replies ∧ t.callers = s.callers := by
  have hAccounted := accounted_of_reachable h
  refine ⟨?_, hAccounted.ordered, hAccounted.queued, ?_, ?_⟩
  · exact fun ticket command hTold => hAccounted.appended_of_told hTold
  · exact fun item hReceived hReplied => hAccounted.appended_of_replied hReceived hReplied
  · exact fun outcome t hStep => frame_append hStep

def sampleLimits : CdrSpoolLimits where
  warningMb := 1
  resumeMb := 2
  rejectMb := 4
  resumeMb_pos := by decide
  rejectMb_pos := by decide

def elsewhereCommand : CdrWriteCommand :=
  { shortCommand with callCdr := { shortCommand.callCdr with domainId := "domain-b" } }

/-- Two commands of a domain, the first of which has to be appended a second time, and one of
another domain that is not held up by them. -/
def acknowledgedSchedule : List CdrAction :=
  [.enqueueDurable 0 shortCommand, .caller 0, .caller 0, .enqueueDurable 1 shortCommand, .caller 1,
    .caller 1, .enqueueDurable 2 elsewhereCommand, .caller 2, .caller 2, .listDomains [], .writer,
    .receive, .append (.written (.failed 3) true), .writer, .writer, .writer,
    .receive, .append .refused, .writer, .writer, .writer,
    .receive, .append (.written .synced true), .writer, .writer, .writer, .writer, .caller 2,
    .writer, .writer, .writer,
    .tick ["domain-a"], .append (.written .synced true), .writer, .writer, .writer, .writer,
    .caller 0]

/-- The one that is left in its queue is told nothing yet. -/
theorem acknowledged_means_appended_once :
    ∃ s, Transition.Reachable (system tornCodec) s ∧
      (s.appended.map (·.ticket) = [2, 0] ∧ (s.queue "domain-a").map (·.ticket) = [1] ∧
        [0, 1, 2].map (fun ticket => (s.callers ticket).map (·.phase)) =
          [some (.told true), some .waiting, some (.told true)]) ∧
      (∀ ticket command, s.callers ticket = some { command, phase := .told true } →
        { command, ticket } ∈ s.appended) ∧
      (∀ x y, s.Precedes x y → ∀ earlier later, s.appended = earlier ++ y :: later →
        x ∈ earlier) ∧
      (∀ domainId, s.queue domainId = s.owed domainId) ∧
      (∀ item ∈ s.received, item.ticket ∈ s.replies → item ∈ s.appended) ∧
      ∀ outcome t, s.append tornCodec outcome = some t →
        t.queue = s.queue ∧ t.replies = s.replies ∧ t.callers = s.callers := by
  have hRun : (acknowledgedSchedule.foldlM (step tornCodec)
      (spawn (fun _ => .empty) sampleLimits)).any (fun s => decide
        (s.appended.map (·.ticket) = [2, 0] ∧ (s.queue "domain-a").map (·.ticket) = [1] ∧
          [0, 1, 2].map (fun ticket => (s.callers ticket).map (·.phase)) =
            [some (.told true), some .waiting, some (.told true)])) = true := by
    decide +kernel
  obtain ⟨s, hSchedule, hAfter⟩ := (Option.any_eq_true ..).mp hRun
  have hReachable := reachable_of_schedule hSchedule
  exact ⟨s, hReachable, of_decide_eq_true hAfter, acknowledged_means_appended hReachable⟩

end Others

end CdrService

end VoipSwitch
