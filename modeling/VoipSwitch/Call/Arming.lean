import VoipSwitch.Call.Step

/-! The handlers of the digits. They submit nothing and answer no action, and leave the timer of
the collectors armed for the first of their deadlines. -/
namespace VoipSwitch

open Stateful Keyed Proc

/-- The timer is armed for the first deadline, with the generation that counts. -/
def DtmfRuntime.Armed (dtmf : DtmfRuntime) : Prop :=
  dtmf.collectorTimer = (nextDigitCollectorDeadline dtmf.collectors).map
    fun (sleepUntil, collectorId, deadline) =>
      { generation := dtmf.collectorTimerGeneration, collectorId, deadline, sleepUntil }

namespace Coordinator

/-- `t` has the same call and generation of actions as `s`, and nothing was submitted or answered
since. -/
structure Still (s t : Coordinator) : Prop where
  call : t.call = s.call
  generation : t.actionGeneration = s.actionGeneration
  started : t.actorStarted = s.actorStarted
  completed : t.completedActions = s.completedActions
  journal : t.journal = s.journal

/-- A handler that submits nothing and does not stop early. -/
abbrev IsStill {α : Type} (m : Handler α) : Prop := Within Still (fun _ _ _ => False) m

namespace IsStill

variable {α β : Type} {s t u : Coordinator}

theorem refl (s : Coordinator) : Still s s := ⟨rfl, rfl, rfl, rfl, rfl⟩

theorem trans (s t u : Coordinator) (first : Still s t) (second : Still t u) : Still s u :=
  ⟨second.call.trans first.call, second.generation.trans first.generation,
    second.started.trans first.started, second.completed.trans first.completed,
    second.journal.trans first.journal⟩

theorem pure (a : α) : IsStill (Pure.pure a : Handler α) := Within.pure refl a

theorem bind {m : Handler β} {f : β → Handler α} (hm : IsStill m) (hf : ∀ b, IsStill (f b)) :
    IsStill (m >>= f) := Within.bind trans (fun _ _ _ _ _ h => h) hm hf

theorem withState {f : Coordinator → Handler α} (hf : ∀ s, IsStill (f s)) :
    IsStill (Proc.get >>= f) := bind (Within.get refl) hf

theorem withEnv {f : Env → Handler α} (hf : ∀ env, IsStill (f env)) : IsStill (Proc.read >>= f) :=
  bind (Within.read refl) hf

theorem ite {c : Prop} [Decidable c] {m n : Handler α} (hm : IsStill m) (hn : IsStill n) :
    IsStill (if c then m else n) := Within.ite hm hn

theorem when {c : Prop} [Decidable c] {m : Handler Unit} (hm : IsStill m) :
    IsStill (Proc.when c m) := Within.when refl hm

theorem whenSome {value : Option β} {f : β → Handler Unit} (hf : ∀ b, IsStill (f b)) :
    IsStill (Proc.whenSome value f) := Within.whenSome refl hf

theorem forM {f : β → Handler PUnit} (hf : ∀ b, IsStill (f b)) (xs : List β) :
    IsStill (xs.forM f) := Within.forM refl trans (fun _ _ _ _ _ h => h) hf xs

/-- What follows a handler that submits nothing. -/
theorem post_bind {m : Handler β} {f : β → Handler α} (hm : IsStill m) {env : Env}
    {Q : α → Coordinator → Prop} {E : Coordinator → Prop}
    (h : ∀ b t, Still s t → Post (f b) env t Q E) : Post (m >>= f) env s Q E := by
  rw [Proc.post_bind]
  apply (hm env s).mono
  · exact h
  · exact fun _ hStopped => hStopped.elim

end IsStill

section StillHandlers

theorem updateDtmf_still (f : DtmfRuntime → DtmfRuntime) : IsStill (updateDtmf f) :=
  Within.modify fun _ => ⟨rfl, rfl, rfl, rfl, rfl⟩

theorem updateCollectors_still (f : Collectors → Collectors) : IsStill (updateCollectors f) :=
  updateDtmf_still _

theorem sendReply_still (reply : CollectorReply) : IsStill (sendReply reply) := updateDtmf_still _

theorem scheduleDigitCollectorTimer_still : IsStill scheduleDigitCollectorTimer :=
    updateDtmf_still _

theorem offerMedia_still (action : MediaAction) : IsStill (offerMedia action) := by
  intro env s
  apply post_offerMedia
  · exact ⟨rfl, rfl, rfl, rfl, rfl⟩
  · exact fun _ => IsStill.refl s

theorem handleDtmfCapabilityReleased_still (actionId : String) (result : Except String Nat) :
    IsStill (handleDtmfCapabilityReleased actionId result) := by
  apply IsStill.withState
  intro s
  split
  · exact .pure _
  · apply IsStill.bind (updateCollectors_still _)
    intro _
    apply IsStill.bind (.when (sendReply_still _))
    exact fun _ => scheduleDigitCollectorTimer_still

theorem finishDigitCollection_still (collectorId : CollectorId) (code : DigitCollectionResultCode)
    (reason : Option String) : IsStill (finishDigitCollection collectorId code reason) := by
  apply IsStill.withState
  intro s
  split
  · exact .pure _
  · apply IsStill.ite (.pure _)
    apply IsStill.bind (updateCollectors_still _)
    intro _
    apply IsStill.bind (offerMedia_still _)
    intro refusal
    apply IsStill.bind (.whenSome fun _ => handleDtmfCapabilityReleased_still _ _)
    exact fun _ => scheduleDigitCollectorTimer_still

theorem collectDigit_still (event : DigitEvent) : IsStill (collectDigit event) := by
  apply IsStill.withEnv
  intro env
  apply IsStill.withState
  intro s
  apply IsStill.bind (updateCollectors_still _)
  intro _
  apply IsStill.bind (.forM (fun _ => finishDigitCollection_still _ _ _) _)
  intro _
  apply IsStill.bind scheduleDigitCollectorTimer_still
  exact fun _ => .pure _

theorem abortDigitCollection_still (reason : String) : IsStill (abortDigitCollection reason) := by
  apply IsStill.bind (updateDtmf_still _)
  intro _
  apply IsStill.withState
  intro s
  apply IsStill.bind (updateCollectors_still _)
  intro _
  apply IsStill.forM
  intro collector
  apply IsStill.bind (.when (sendReply_still _))
  intro _
  apply IsStill.withState
  intro s
  exact .bind (offerMedia_still _) fun _ => .when (sendReply_still _)

theorem failDigitCollectionStart_still (collectorId : CollectorId) (error : String) :
    IsStill (failDigitCollectionStart collectorId error) := by
  apply IsStill.withState
  intro s
  split
  · exact .pure _
  · apply IsStill.bind (updateCollectors_still _)
    intro _
    apply IsStill.bind (.when (sendReply_still _))
    intro _
    apply IsStill.bind (.when (sendReply_still _))
    exact fun _ => scheduleDigitCollectorTimer_still

theorem startDigitCollection_still (spec : DigitCollectionSpec) :
    IsStill (startDigitCollection spec) := by
  apply IsStill.withState
  intro s
  split
  · exact .bind (sendReply_still _) fun _ => sendReply_still _
  · apply IsStill.bind (updateCollectors_still _)
    intro _
    apply IsStill.bind (offerMedia_still _)
    exact fun _ => .whenSome fun _ => failDigitCollectionStart_still _ _

theorem cancelDigitCollection_still (collectorId : CollectorId) :
    IsStill (cancelDigitCollection collectorId) := by
  apply IsStill.withState
  intro s
  split
  · exact .pure _
  · split
    · apply IsStill.bind (updateCollectors_still _)
      exact fun _ => .bind (.when (sendReply_still _)) fun _ => .pure _
    · exact .bind (finishDigitCollection_still _ _ _) fun _ => .pure _
    · exact .pure _

theorem handleDtmfCapabilityAcquired_still (actionId : String)
    (result : Except String DtmfCapabilityReady) :
    IsStill (handleDtmfCapabilityAcquired actionId result) := by
  apply IsStill.withEnv
  intro env
  apply IsStill.withState
  intro s
  split
  · exact .pure _
  · split
    · exact failDigitCollectionStart_still _ _
    · apply IsStill.ite (failDigitCollectionStart_still _ _)
      apply IsStill.bind (.when (sendReply_still _))
      intro _
      apply IsStill.ite
      · exact .bind (updateCollectors_still _) fun _ => finishDigitCollection_still _ _ _
      · exact .bind (updateCollectors_still _) fun _ => scheduleDigitCollectorTimer_still

theorem handleDigitCollectorTimeout_still (generation : Nat) (collectorId : CollectorId)
    (deadline : DigitCollectorDeadline) :
    IsStill (handleDigitCollectorTimeout generation collectorId deadline) := by
  apply IsStill.withState
  intro s
  apply IsStill.ite (.pure _)
  apply IsStill.bind (updateDtmf_still _)
  intro _
  exact .bind (finishDigitCollection_still _ _ _) fun _ => scheduleDigitCollectorTimer_still

theorem handleEventMessage_still (message : EventMessage) :
    IsStill (handleEventMessage message) := by
  cases message with
  | querySessionSummary => exact .pure _
  | startDigitCollection spec => exact startDigitCollection_still spec
  | cancelDigitCollection collectorId =>
      exact .bind (cancelDigitCollection_still collectorId) fun _ => .pure _

end StillHandlers

def Armed (s : Coordinator) : Prop :=
  s.dtmf.Armed

/-- Where the timer is armed before `m`, it is armed after it, and where `m` stops early. -/
abbrev KeepsArmed {α : Type} (m : Handler α) : Prop := ∀ env, Keeps env Armed Armed m

/-- `m` never stops early, and arms the timer whatever was the case before. -/
abbrev Rearms {α : Type} (m : Handler α) : Prop :=
  ∀ env s, Post m env s (fun _ => Armed) fun _ => False

namespace Rearms

variable {α β : Type}

theorem keeps {m : Handler α} (hm : Rearms m) : KeepsArmed m := fun env s _ =>
  (hm env s).mono (fun _ _ h => h) fun _ h => h.elim

theorem schedule : Rearms scheduleDigitCollectorTimer := by
  intro env s
  show DtmfRuntime.Armed _
  rw [DtmfRuntime.Armed]

theorem after {m : Handler β} {f : β → Handler α} (hm : IsStill m) (hf : ∀ b, Rearms (f b)) :
    Rearms (m >>= f) := by
  intro env s
  apply hm.post_bind
  exact fun b t _ => hf b env t

theorem thenPure {m : Handler β} (hm : Rearms m) (a : α) :
    Rearms (m >>= fun _ => (pure a : Handler α)) := by
  intro env s
  rw [post_bind]
  exact hm env s

end Rearms

namespace KeepsArmed

variable {α β : Type}

theorem pure (a : α) : KeepsArmed (pure a : Handler α) := fun _ => Keeps.pure a

theorem fail (e : Error) : KeepsArmed (fail e : Handler α) := fun _ => Keeps.fail (fun _ h => h) e

/-- The digits of the call are left alone. -/
theorem modify {f : Coordinator → Coordinator} (h : ∀ s, (f s).dtmf = s.dtmf) :
    KeepsArmed (modify f : Handler Unit) := fun _ => Keeps.modify fun s hArmed => by
  rw [Armed, h s]
  exact hArmed

theorem bind {m : Handler β} {f : β → Handler α} (hm : KeepsArmed m) (hf : ∀ b, KeepsArmed (f b)) :
    KeepsArmed (m >>= f) := fun env => Keeps.bind (hm env) fun b => hf b env

theorem withState {f : Coordinator → Handler α} (hf : ∀ s, KeepsArmed (f s)) :
    KeepsArmed (get >>= f) := fun env => Keeps.withState fun s => hf s env

theorem withEnv {f : Env → Handler α} (hf : ∀ env, KeepsArmed (f env)) :
    KeepsArmed (read >>= f) := fun env => Keeps.withEnv (hf env env)

theorem ite {c : Prop} [Decidable c] {m n : Handler α} (hm : KeepsArmed m) (hn : KeepsArmed n) :
    KeepsArmed (if c then m else n) := fun env => Keeps.ite (hm env) (hn env)

theorem when {c : Prop} [Decidable c] {m : Handler Unit} (hm : KeepsArmed m) :
    KeepsArmed (when c m) := fun env => Keeps.when (hm env)

theorem whenSome {value : Option β} {f : β → Handler Unit} (hf : ∀ b, KeepsArmed (f b)) :
    KeepsArmed (whenSome value f) := fun env => Keeps.whenSome fun b => hf b env

theorem attempt {m : Handler α} (hm : KeepsArmed m) : KeepsArmed (attempt m) :=
  fun env => Keeps.attempt (hm env)

theorem forM {f : β → Handler PUnit} (hf : ∀ b, KeepsArmed (f b)) (items : List β) :
    KeepsArmed (items.forM f) := by
  induction items with
  | nil => exact pure _
  | cons item rest ih => exact bind (hf item) fun _ => ih

end KeepsArmed

section Digits

theorem updateDtmf_keepsArmed {f : DtmfRuntime → DtmfRuntime}
    (h : ∀ dtmf, dtmf.Armed → (f dtmf).Armed) : KeepsArmed (updateDtmf f) :=
  fun _ => Keeps.modify fun s hArmed => h s.dtmf hArmed

theorem sendReply_keepsArmed (reply : CollectorReply) : KeepsArmed (sendReply reply) :=
  updateDtmf_keepsArmed fun _ hArmed => hArmed

theorem offerMedia_keepsArmed (action : MediaAction) : KeepsArmed (offerMedia action) := by
  apply KeepsArmed.withEnv
  intro env
  split
  · exact .bind (.modify fun _ => rfl) fun _ => .pure _
  · exact .pure _

theorem abortDigitCollection_keepsArmed (reason : String) :
    KeepsArmed (abortDigitCollection reason) := by
  intro env s _
  have hAborts : ∀ collectors : List DigitCollectorState,
      KeepsArmed (collectors.forM (abortCollector reason)) := by
    intro collectors
    apply KeepsArmed.forM
    intro collector
    apply KeepsArmed.bind (.when (sendReply_keepsArmed _))
    intro _
    apply KeepsArmed.withState
    intro s
    apply KeepsArmed.bind (offerMedia_keepsArmed _)
    exact fun _ => .when (sendReply_keepsArmed _)
  rw [abortDigitCollection, updateDtmf, post_bind, post_modify, post_bind, post_get,
    updateCollectors, updateDtmf, post_bind, post_modify]
  exact hAborts _ env _ rfl

theorem failDigitCollectionStart_keepsArmed (collectorId : CollectorId) (error : String) :
    KeepsArmed (failDigitCollectionStart collectorId error) := by
  apply KeepsArmed.withState
  intro s
  split
  · exact .pure _
  · apply Rearms.keeps
    apply Rearms.after (updateCollectors_still _)
    intro _
    apply Rearms.after (.when (sendReply_still _))
    intro _
    apply Rearms.after (.when (sendReply_still _))
    exact fun _ => .schedule

theorem handleDtmfCapabilityReleased_keepsArmed (actionId : String) (result : Except String Nat) :
    KeepsArmed (handleDtmfCapabilityReleased actionId result) := by
  apply KeepsArmed.withState
  intro s
  split
  · exact .pure _
  · apply Rearms.keeps
    apply Rearms.after (updateCollectors_still _)
    intro _
    apply Rearms.after (.when (sendReply_still _))
    exact fun _ => .schedule

theorem finishDigitCollection_keepsArmed (collectorId : CollectorId)
    (code : DigitCollectionResultCode) (reason : Option String) :
    KeepsArmed (finishDigitCollection collectorId code reason) := by
  apply KeepsArmed.withState
  intro s
  split
  · exact .pure _
  · apply KeepsArmed.ite (.pure _)
    apply Rearms.keeps
    apply Rearms.after (updateCollectors_still _)
    intro _
    apply Rearms.after (offerMedia_still _)
    intro refusal
    apply Rearms.after (.whenSome fun _ => handleDtmfCapabilityReleased_still _ _)
    exact fun _ => .schedule

theorem post_updateCollectors {f : Collectors → Collectors} {env : Env} {s : Coordinator}
    {Q : Unit → Coordinator → Prop} {E : Coordinator → Prop} :
    Post (updateCollectors f) env s Q E ↔
      Q () { s with dtmf := { s.dtmf with collectors := f s.dtmf.collectors } } :=
  Iff.rfl

/-- The deadlines of the collectors are left alone. -/
theorem Armed.same {s : Coordinator} {collectors : Collectors} (hArmed : s.Armed)
    (hSame : nextDigitCollectorDeadline collectors = nextDigitCollectorDeadline s.dtmf.collectors) :
    Armed { s with dtmf := { s.dtmf with collectors } } := by
  rw [Armed, DtmfRuntime.Armed, hSame]
  exact hArmed

theorem startDigitCollection_keepsArmed (spec : DigitCollectionSpec) :
    KeepsArmed (startDigitCollection spec) := by
  intro env s hArmed
  rw [startDigitCollection, post_bind, post_get]
  split
  · exact (KeepsArmed.bind (sendReply_keepsArmed _) fun _ => sendReply_keepsArmed _) env s hArmed
  · next hValid =>
      have hNew : s.dtmf.collectors.lookup spec.collectorId = none := by
        rw [validateDigitCollection] at hValid
        split at hValid
        · exact absurd hValid (by simp)
        · split at hValid
          · exact absurd hValid (by simp)
          · split at hValid
            · exact absurd hValid (by simp)
            · next hRegistered =>
                rw [validateDigitCollectorRegistration] at hRegistered
                split at hRegistered
                · exact absurd hRegistered (by simp)
                · next hFree => exact OrdMap.lookup_eq_none_of_not_contains hFree
      rw [post_bind, post_updateCollectors]
      refine (KeepsArmed.bind (offerMedia_keepsArmed _) fun refusal => ?_) env _ ?_
      · exact .whenSome fun _ => failDigitCollectionStart_keepsArmed _ _
      · apply hArmed.same
        apply congrArg (minByKey Prod.fst)
        exact OrdMap.filterMap_insert hNew rfl

theorem cancelDigitCollection_keepsArmed (collectorId : CollectorId) :
    KeepsArmed (cancelDigitCollection collectorId) := by
  intro env s hArmed
  rw [cancelDigitCollection, post_bind, post_get]
  split
  · exact hArmed
  · next collector hFound =>
      split
      · next asked hAsked =>
          have hSame : asked.nextDeadline = collector.nextDeadline := by
            rw [DigitCollectorState.requestCancel] at hAsked
            split at hAsked
            · rw [← (Prod.mk.inj hAsked).2]
              rfl
            · exact absurd (Prod.mk.inj hAsked).1 (by simp)
            · exact absurd (Prod.mk.inj hAsked).1 (by simp)
          rw [post_bind, post_updateCollectors]
          refine (KeepsArmed.bind (.when (sendReply_keepsArmed _)) fun _ => .pure _) env _ ?_
          apply hArmed.same
          apply congrArg (minByKey Prod.fst)
          apply OrdMap.filterMap_adjust
          intro other hOther
          obtain rfl := Option.some.inj (hFound.symm.trans hOther)
          exact congrArg (Option.map _) hSame
      · exact (KeepsArmed.bind (finishDigitCollection_keepsArmed _ _ _) fun _ => .pure _) env
          s hArmed
      · exact hArmed

theorem handleDtmfCapabilityAcquired_keepsArmed (actionId : String)
    (result : Except String DtmfCapabilityReady) :
    KeepsArmed (handleDtmfCapabilityAcquired actionId result) := by
  apply KeepsArmed.withEnv
  intro env
  apply KeepsArmed.withState
  intro s
  split
  · exact .pure _
  · split
    · exact failDigitCollectionStart_keepsArmed _ _
    · apply KeepsArmed.ite (failDigitCollectionStart_keepsArmed _ _)
      apply KeepsArmed.bind (.when (sendReply_keepsArmed _))
      intro _
      apply KeepsArmed.ite
      · apply KeepsArmed.bind
        · intro env s hArmed
          apply hArmed.same
          apply congrArg (minByKey Prod.fst)
          apply OrdMap.filterMap_adjust
          exact fun _ _ => rfl
        · exact fun _ => finishDigitCollection_keepsArmed _ _ _
      · apply Rearms.keeps
        apply Rearms.after (updateCollectors_still _)
        exact fun _ => .schedule

theorem collectDigit_keepsArmed (event : DigitEvent) : KeepsArmed (collectDigit event) := by
  apply KeepsArmed.withEnv
  intro env
  apply KeepsArmed.withState
  intro s
  apply Rearms.keeps
  apply Rearms.after (updateCollectors_still _)
  intro _
  apply Rearms.after (.forM (fun _ => finishDigitCollection_still _ _ _) _)
  intro _
  exact Rearms.schedule.thenPure _

theorem handleDigitCollectorTimeout_keepsArmed (generation : Nat) (collectorId : CollectorId)
    (deadline : DigitCollectorDeadline) :
    KeepsArmed (handleDigitCollectorTimeout generation collectorId deadline) := by
  apply KeepsArmed.withState
  intro s
  apply KeepsArmed.ite (.pure _)
  apply Rearms.keeps
  apply Rearms.after (updateDtmf_still _)
  intro _
  apply Rearms.after (finishDigitCollection_still _ _ _)
  exact fun _ => .schedule

theorem handleEventMessage_keepsArmed (message : EventMessage) :
    KeepsArmed (handleEventMessage message) := by
  cases message with
  | querySessionSummary => exact .pure _
  | startDigitCollection spec => exact startDigitCollection_keepsArmed spec
  | cancelDigitCollection collectorId =>
      exact .bind (cancelDigitCollection_keepsArmed collectorId) fun _ => .pure _

end Digits

end Coordinator

end VoipSwitch
