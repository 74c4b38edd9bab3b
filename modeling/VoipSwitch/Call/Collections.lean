import VoipSwitch.Call.Collect

/-! The digit collections of a coordinator, counted: a collection is running or its result has
been sent, and no step of the coordinator makes two of one. -/
namespace VoipSwitch

open Stateful Keyed Proc

/-- The result of the collection `id`. -/
def CollectorReply.isResultOf (id : CollectorId) : CollectorReply → Bool
  | .ready _ _ => false
  | .result outcome => outcome.collectorId = id

theorem countP_result (id : CollectorId) (outcome : DigitCollectionOutcome)
    (replies : List CollectorReply) :
    (CollectorReply.result outcome :: replies).countP (·.isResultOf id) =
      replies.countP (·.isResultOf id) + if outcome.collectorId = id then 1 else 0 := by
  rw [List.countP_cons]
  simp only [CollectorReply.isResultOf, decide_eq_true_eq]

/-- What there is of the collection `id`: a collector, or results that were sent. -/
def DtmfRuntime.held (dtmf : DtmfRuntime) (id : CollectorId) : Nat :=
  (if dtmf.collectors.contains id then 1 else 0) + dtmf.replies.countP (·.isResultOf id)

/-- Every collector stands under its own id, and so does the outcome it waits to send. -/
structure Filed (collectors : Collectors) : Prop where
  ascending : collectors.Ascending
  own : ∀ id collector, collectors.lookup id = some collector → collector.spec.collectorId = id
  outcome : ∀ id collector outcome, collectors.lookup id = some collector →
    collector.pendingOutcome = some outcome → outcome.collectorId = id

namespace Coordinator

/-- At most `cap id` of every collection `id`; the replies `sent` have been sent. -/
structure Budgeted (cap : CollectorId → Nat) (sent : List CollectorReply) (s : Coordinator) :
    Prop where
  filed : Filed s.dtmf.collectors
  held : ∀ id, s.dtmf.held id ≤ cap id
  sent : sent <:+ s.dtmf.replies

/-- The procedure makes no more of any collection. -/
def Contains {α : Type} (m : Handler α) : Prop :=
  ∀ env cap sent s, Budgeted cap sent s →
    Post m env s (fun _ => Budgeted cap sent) (Budgeted cap sent)

/-- One collection less of `id`. -/
def spend (cap : CollectorId → Nat) (id : CollectorId) : CollectorId → Nat :=
  fun other => if other = id then cap other - 1 else cap other

variable {α β : Type} {env : Env} {cap : CollectorId → Nat} {sent : List CollectorReply}
  {s t : Coordinator} {id : CollectorId} {collector : DigitCollectorState}

namespace Budgeted

/-- A step that leaves the collectors and the replies as they are. -/
theorem same (h : Budgeted cap sent s) (hCollectors : t.dtmf.collectors = s.dtmf.collectors)
    (hReplies : t.dtmf.replies = s.dtmf.replies) : Budgeted cap sent t where
  filed := hCollectors ▸ h.filed
  held id := by
    rw [DtmfRuntime.held, hCollectors, hReplies]
    exact h.held id
  sent := hReplies ▸ h.sent

theorem mono {cap' : CollectorId → Nat} (h : Budgeted cap sent s) (hCap : ∀ id, cap id ≤ cap' id) :
    Budgeted cap' sent s :=
  { h with held := fun id => le_trans (h.held id) (hCap id) }

theorem of_spend (h : Budgeted (spend cap id) sent s) : Budgeted cap sent s := by
  apply h.mono
  intro other
  rw [spend]
  split
  · exact Nat.sub_le _ _
  · exact le_rfl

/-- The collectors are still there, under their ids. -/
theorem refile {collectors : Collectors} (h : Budgeted cap sent s) (hFiled : Filed collectors)
    (hSame : ∀ id, collectors.contains id = true → s.dtmf.collectors.contains id = true)
    (hCollectors : t.dtmf.collectors = collectors) (hReplies : t.dtmf.replies = s.dtmf.replies) :
    Budgeted cap sent t where
  filed := hCollectors ▸ hFiled
  held id := by
    have hHeld := h.held id
    rw [DtmfRuntime.held] at hHeld ⊢
    rw [hCollectors, hReplies]
    by_cases hThere : collectors.contains id = true
    · rw [hSame id hThere] at hHeld
      rw [hThere]
      exact hHeld
    · rw [if_neg hThere]
      exact le_trans (by omega) hHeld
  sent := hReplies ▸ h.sent

/-- A collector is taken out. -/
theorem taken (h : Budgeted cap sent s) (hLookup : s.dtmf.collectors.lookup id = some collector)
    (hCollectors : t.dtmf.collectors = s.dtmf.collectors.erase id)
    (hReplies : t.dtmf.replies = s.dtmf.replies) : Budgeted (spend cap id) sent t where
  filed :=
    { ascending := hCollectors ▸ h.filed.ascending.erase id
      own := by
        intro other kept hKept
        rw [hCollectors, OrdMap.lookup_erase h.filed.ascending] at hKept
        split at hKept
        · cases hKept
        · exact h.filed.own other kept hKept
      outcome := by
        intro other kept outcome hKept
        rw [hCollectors, OrdMap.lookup_erase h.filed.ascending] at hKept
        split at hKept
        · cases hKept
        · exact h.filed.outcome other kept outcome hKept }
  held other := by
    have hHeld := h.held other
    rw [DtmfRuntime.held] at hHeld ⊢
    rw [hCollectors, hReplies, OrdMap.contains, OrdMap.lookup_erase h.filed.ascending, spend]
    by_cases hSame : other = id
    · subst hSame
      rw [OrdMap.contains_of_lookup hLookup] at hHeld
      rw [if_pos rfl, if_pos rfl]
      simp only [Option.isSome_none, Bool.false_eq_true, if_false, if_true] at hHeld ⊢
      omega
    · rw [if_neg (Ne.symm hSame), if_neg hSame]
      exact hHeld
  sent := hReplies ▸ h.sent

theorem cap_pos (h : Budgeted cap sent s)
    (hLookup : s.dtmf.collectors.lookup id = some collector) : 0 < cap id := by
  have hHeld := h.held id
  rw [DtmfRuntime.held, OrdMap.contains_of_lookup hLookup, if_pos rfl] at hHeld
  omega

/-- A result is sent for what was taken out. -/
theorem replied {outcome : DigitCollectionOutcome} (h : Budgeted (spend cap id) sent s)
    (hOwn : outcome.collectorId = id) (hCap : 0 < cap id)
    (hCollectors : t.dtmf.collectors = s.dtmf.collectors)
    (hReplies : t.dtmf.replies = .result outcome :: s.dtmf.replies) : Budgeted cap sent t where
  filed := hCollectors ▸ h.filed
  held other := by
    have hHeld := h.held other
    rw [DtmfRuntime.held] at hHeld ⊢
    rw [hCollectors, hReplies, countP_result, hOwn]
    rw [spend] at hHeld
    by_cases hSame : other = id
    · subst hSame
      rw [if_pos rfl] at hHeld ⊢
      omega
    · rw [if_neg hSame] at hHeld
      rw [if_neg (Ne.symm hSame)]
      omega
  sent := by
    rw [hReplies]
    exact h.sent.trans (List.suffix_cons _ _)

/-- An answer about the readiness does not count. -/
theorem answered {other : CollectorId} {ready : Except String DigitCollectionReady}
    (h : Budgeted cap sent s) (hCollectors : t.dtmf.collectors = s.dtmf.collectors)
    (hReplies : t.dtmf.replies = .ready other ready :: s.dtmf.replies) : Budgeted cap sent t where
  filed := hCollectors ▸ h.filed
  held id := by
    have hHeld := h.held id
    rw [DtmfRuntime.held] at hHeld ⊢
    rw [hCollectors, hReplies, List.countP_cons]
    simpa [CollectorReply.isResultOf] using hHeld
  sent := by
    rw [hReplies]
    exact h.sent.trans (List.suffix_cons _ _)

end Budgeted

namespace Contains

theorem bind {m : Handler β} {f : β → Handler α} (hm : Contains m) (hf : ∀ b, Contains (f b)) :
    Contains (m >>= f) := by
  intro env cap sent s h
  rw [post_bind]
  exact (hm env cap sent s h).mono (fun b t ht => hf b env cap sent t ht) fun _ ht => ht

theorem pure (a : α) : Contains (pure a : Handler α) := fun _ _ _ _ h => h

theorem whenSome {value : Option β} {f : β → Handler Unit} (hf : ∀ b, Contains (f b)) :
    Contains (whenSome value f) := by
  cases value with
  | none => exact .pure ()
  | some b => exact hf b

theorem forM {xs : List β} {f : β → Handler Unit} (hf : ∀ b, Contains (f b)) :
    Contains (xs.forM f) := by
  induction xs with
  | nil => exact .pure ()
  | cons b xs ih => exact (hf b).bind fun _ => ih

/-- An update that leaves the collectors and the replies as they are. -/
theorem updateDtmf {f : DtmfRuntime → DtmfRuntime}
    (hf : ∀ dtmf, (f dtmf).collectors = dtmf.collectors ∧ (f dtmf).replies = dtmf.replies) :
    Contains (updateDtmf f) :=
  fun _ _ _ s h => h.same (hf s.dtmf).1 (hf s.dtmf).2

end Contains

theorem offerMedia_contains (action : MediaAction) : Contains (offerMedia action) := by
  intro env cap sent s h
  unfold offerMedia
  rw [post_bind, post_read]
  split
  · exact h.same rfl rfl
  · exact h

theorem scheduleDigitCollectorTimer_contains : Contains scheduleDigitCollectorTimer :=
  .updateDtmf fun _ => ⟨rfl, rfl⟩

/-- An update of one collector that keeps its id. -/
theorem updateCollector_within {f : DigitCollectorState → DigitCollectorState}
    (h : Budgeted cap sent s) (hLookup : s.dtmf.collectors.lookup id = some collector)
    (hOwn : (f collector).spec.collectorId = id)
    (hOutcome : ∀ outcome, (f collector).pendingOutcome = some outcome → outcome.collectorId = id)
    (hCollectors : t.dtmf.collectors = s.dtmf.collectors.adjust id f)
    (hReplies : t.dtmf.replies = s.dtmf.replies) : Budgeted cap sent t := by
  have hFiled : Filed (s.dtmf.collectors.adjust id f) := by
    constructor
    · exact h.filed.ascending.adjust _ _
    · intro other kept hKept
      rw [OrdMap.lookup_adjust] at hKept
      split at hKept
      · next hSame =>
          rw [hLookup, Option.map_some, Option.some.injEq] at hKept
          rw [← hKept, ← hSame, hOwn]
      · exact h.filed.own other kept hKept
    · intro other kept outcome hKept hPending
      rw [OrdMap.lookup_adjust] at hKept
      split at hKept
      · next hSame =>
          rw [hLookup, Option.map_some, Option.some.injEq] at hKept
          rw [← hSame]
          exact hOutcome outcome (hKept ▸ hPending)
      · exact h.filed.outcome other kept outcome hKept hPending
  refine h.refile hFiled ?_ hCollectors hReplies
  intro other hThere
  rw [OrdMap.contains, OrdMap.lookup_adjust] at hThere
  split at hThere
  · next hSame =>
      rw [← hSame]
      exact OrdMap.contains_of_lookup hLookup
  · exact hThere

/-- A collector that was taken out has its result sent, if anybody waits for it. -/
theorem sendResult_contains {outcome : DigitCollectionOutcome} {waited : Bool}
    (h : Budgeted (spend cap id) sent s) (hOwn : outcome.collectorId = id) (hCap : 0 < cap id) :
    Post (do
      Proc.when waited (sendReply (.result outcome))
      scheduleDigitCollectorTimer) env s (fun _ => Budgeted cap sent) (Budgeted cap sent) := by
  rw [post_bind, post_when]
  constructor
  · intro _
    exact scheduleDigitCollectorTimer_contains env cap sent _ (h.replied hOwn hCap rfl rfl)
  · intro _
    exact scheduleDigitCollectorTimer_contains env cap sent _ h.of_spend

theorem failDigitCollectionStart_contains (id : CollectorId) (error : String) :
    Contains (failDigitCollectionStart id error) := by
  intro env cap sent s h
  unfold failDigitCollectionStart
  rw [post_bind, post_get]
  split
  · exact h
  · next collector hLookup =>
      have hTaken := h.taken hLookup (t := { s with
        dtmf := { s.dtmf with collectors := s.dtmf.collectors.erase id } }) rfl rfl
      have hOwn := h.filed.own id collector hLookup
      rw [post_bind]
      show Post _ env
        { s with dtmf := { s.dtmf with collectors := s.dtmf.collectors.erase id } } _ _
      rw [post_bind, post_when]
      constructor
      · intro _
        exact sendResult_contains (hTaken.answered rfl rfl) hOwn (h.cap_pos hLookup)
      · intro _
        exact sendResult_contains hTaken hOwn (h.cap_pos hLookup)

theorem handleDtmfCapabilityReleased_contains (actionId : String) (result : Except String Nat) :
    Contains (handleDtmfCapabilityReleased actionId result) := by
  intro env cap sent s h
  unfold handleDtmfCapabilityReleased
  rw [post_bind, post_get]
  split
  · exact h
  · next id collector hFound =>
      have hLookup := OrdMap.lookup_of_mem h.filed.ascending (List.mem_of_find?_eq_some hFound)
      have hTaken := h.taken hLookup (t := { s with
        dtmf := { s.dtmf with collectors := s.dtmf.collectors.erase id } }) rfl rfl
      have hOwn : (collector.pendingOutcome.getD
          { collectorId := collector.spec.collectorId, code := .failed,
            digits := collector.digits,
            reason := some "missing_collection_outcome" }).collectorId = id := by
        cases hPending : collector.pendingOutcome with
        | none => exact h.filed.own id collector hLookup
        | some outcome => exact h.filed.outcome id collector outcome hLookup hPending
      rw [post_bind]
      show Post _ env
        { s with dtmf := { s.dtmf with collectors := s.dtmf.collectors.erase id } } _ _
      apply sendResult_contains hTaken _ (h.cap_pos hLookup)
      cases result with
      | ok _ => exact hOwn
      | error _ => exact hOwn

theorem finishDigitCollection_contains (id : CollectorId) (code : DigitCollectionResultCode)
    (reason : Option String) : Contains (finishDigitCollection id code reason) := by
  intro env cap sent s h
  unfold finishDigitCollection
  rw [post_bind, post_get]
  split
  · exact h
  · next collector hLookup =>
      rw [post_ite]
      split
      · exact h
      · rw [post_bind]
        have hOwn := h.filed.own id collector hLookup
        have hReleasing := updateCollector_within h hLookup
          (f := fun collector => { collector with
            phase := .releasing
            firstDeadline := none
            interDeadline := none
            overallDeadline := none
            pendingOutcome := some
              { collectorId := collector.spec.collectorId, code, digits := collector.digits,
                reason } })
          (t := { s with dtmf := { s.dtmf with collectors := s.dtmf.collectors.adjust id _ } })
          hOwn (fun outcome hOutcome => Option.some.inj hOutcome ▸ hOwn) rfl rfl
        have hRest : Contains (do
            let refusal ← offerMedia (.releaseDtmfCapability collector.releaseActionId
              s.mediaGeneration collector.leaseId)
            Proc.whenSome refusal fun error =>
              handleDtmfCapabilityReleased collector.releaseActionId (.error error)
            scheduleDigitCollectorTimer) := by
          refine (offerMedia_contains _).bind fun refusal => ?_
          exact (Contains.whenSome fun _ => handleDtmfCapabilityReleased_contains _ _).bind
            fun _ => scheduleDigitCollectorTimer_contains
        exact hRest env cap sent _ hReleasing

/-- The collectors that are given up one by one, and what has been sent so far. -/
structure Owing (cap : CollectorId → Nat) (sent : List CollectorReply)
    (rest : List DigitCollectorState) (s : Coordinator) : Prop where
  none : s.dtmf.collectors = []
  owed : ∀ id, rest.countP (fun collector => collector.spec.collectorId = id) +
    s.dtmf.replies.countP (·.isResultOf id) ≤ cap id
  sent : sent <:+ s.dtmf.replies

theorem Owing.budgeted (h : Owing cap sent [] s) : Budgeted cap sent s where
  filed := by
    rw [h.none]
    exact ⟨.nil, by intro id collector hLookup; simp at hLookup,
      by intro id collector outcome hLookup; simp at hLookup⟩
  held id := by
    rw [DtmfRuntime.held, h.none]
    exact h.owed id
  sent := h.sent

theorem owing_of_budgeted (h : Budgeted cap sent s) (hNone : t.dtmf.collectors = [])
    (hReplies : t.dtmf.replies = s.dtmf.replies) :
    Owing cap sent s.dtmf.collectors.values t where
  none := hNone
  owed id := by
    have hHeld := h.held id
    rw [DtmfRuntime.held] at hHeld
    rw [hReplies]
    have hKeys : s.dtmf.collectors.values.map (·.spec.collectorId) = s.dtmf.collectors.keys := by
      rw [OrdMap.values, OrdMap.keys, List.map_map]
      apply List.map_congr_left
      intro entry hMem
      exact h.filed.own entry.1 entry.2 (OrdMap.lookup_of_mem h.filed.ascending hMem)
    have hNodup : s.dtmf.collectors.keys.Nodup := h.filed.ascending.imp ne_of_lt
    have hCount : s.dtmf.collectors.values.countP
        (fun collector => collector.spec.collectorId = id) = s.dtmf.collectors.keys.count id := by
      rw [← hKeys, List.count, List.countP_map]
      apply List.countP_congr
      intro collector _
      simp
    rw [hCount]
    by_cases hThere : id ∈ s.dtmf.collectors.keys
    · rw [List.count_eq_one_of_mem hNodup hThere]
      have hContains : s.dtmf.collectors.contains id = true := by
        by_contra hGone
        obtain ⟨entry, hMem, hKey⟩ := List.mem_map.mp hThere
        have hLookup := OrdMap.lookup_of_mem h.filed.ascending hMem
        rw [hKey, OrdMap.lookup_eq_none_of_not_contains hGone] at hLookup
        cases hLookup
      rwa [hContains, if_pos rfl] at hHeld
    · rw [List.count_eq_zero_of_not_mem hThere]
      omega
  sent := hReplies ▸ h.sent

theorem Owing.same {rest : List DigitCollectorState} (h : Owing cap sent rest s)
    (hCollectors : t.dtmf.collectors = s.dtmf.collectors)
    (hReplies : t.dtmf.replies = s.dtmf.replies ∨
      ∃ other ready, t.dtmf.replies = .ready other ready :: s.dtmf.replies) :
    Owing cap sent rest t := by
  rcases hReplies with hSame | ⟨other, ready, hReady⟩
  · exact ⟨hCollectors ▸ h.none, hSame ▸ h.owed, hSame ▸ h.sent⟩
  · refine ⟨hCollectors ▸ h.none, ?_, hReady ▸ h.sent.trans (List.suffix_cons _ _)⟩
    intro id
    rw [hReady, List.countP_cons_of_neg (by simp [CollectorReply.isResultOf])]
    exact h.owed id

/-- One collector less is owed, and its result has been sent or nobody waits for it. -/
theorem Owing.paid {rest : List DigitCollectorState} (h : Owing cap sent (collector :: rest) s)
    (hCollectors : t.dtmf.collectors = s.dtmf.collectors)
    (hReplies : t.dtmf.replies = s.dtmf.replies ∨ ∃ outcome : DigitCollectionOutcome,
      outcome.collectorId = collector.spec.collectorId ∧
        t.dtmf.replies = .result outcome :: s.dtmf.replies) :
    Owing cap sent rest t := by
  have hOwed (id : CollectorId) : rest.countP (fun collector => collector.spec.collectorId = id) +
      (if collector.spec.collectorId = id then 1 else 0) +
        s.dtmf.replies.countP (·.isResultOf id) ≤ cap id := by
    have hAll := h.owed id
    rw [List.countP_cons] at hAll
    simpa using hAll
  rcases hReplies with hSame | ⟨outcome, hOwn, hResult⟩
  · refine ⟨hCollectors ▸ h.none, ?_, hSame ▸ h.sent⟩
    intro id
    rw [hSame]
    exact le_trans (by omega) (hOwed id)
  · refine ⟨hCollectors ▸ h.none, ?_, hResult ▸ h.sent.trans (List.suffix_cons _ _)⟩
    intro id
    rw [hResult, countP_result, hOwn]
    exact le_trans (by omega) (hOwed id)

theorem abortCollector_owing (reason : String) {rest : List DigitCollectorState}
    (h : Owing cap sent (collector :: rest) s) :
    Post (abortCollector reason collector) env s (fun _ => Owing cap sent rest)
      fun _ => False := by
  have hOffer (action : MediaAction) (t : Coordinator) (ht : Owing cap sent (collector :: rest) t) :
      Post (offerMedia action) env t (fun _ => Owing cap sent (collector :: rest))
        fun _ => False := by
    unfold offerMedia
    rw [post_bind, post_read]
    split
    · exact ht.same rfl (.inl rfl)
    · exact ht
  have hRest (t : Coordinator) (ht : Owing cap sent (collector :: rest) t) : Post (do
      let s ← Proc.get
      let _ ← offerMedia
        (.releaseDtmfCapability collector.releaseActionId s.mediaGeneration collector.leaseId)
      Proc.when collector.resultReply (sendReply (.result
        { collectorId := collector.spec.collectorId, code := .failed, digits := collector.digits,
          reason := some reason }))) env t (fun _ => Owing cap sent rest) fun _ => False := by
    rw [post_bind, post_get, post_bind]
    refine (hOffer _ t ht).mono (fun _ u hu => ?_) fun _ hFalse => hFalse
    rw [post_when]
    exact ⟨fun _ => hu.paid rfl (.inr ⟨_, rfl, rfl⟩), fun _ => hu.paid rfl (.inl rfl)⟩
  unfold abortCollector
  rw [post_bind, post_when]
  constructor
  · intro _
    exact hRest _ (h.same rfl (.inr ⟨_, _, rfl⟩))
  · intro _
    exact hRest s h

theorem abortDigitCollection_contains (reason : String) :
    Contains (abortDigitCollection reason) := by
  intro env cap sent s h
  unfold abortDigitCollection
  simp only [post_bind, post_get]
  have hAll (rest : List DigitCollectorState) (t : Coordinator) (ht : Owing cap sent rest t) :
      Post (rest.forM (abortCollector reason)) env t (fun _ => Budgeted cap sent)
        (Budgeted cap sent) := by
    induction rest generalizing t with
    | nil => exact ht.budgeted
    | cons collector rest ih =>
        show Post (abortCollector reason collector >>= fun _ => rest.forM _) env t _ _
        rw [post_bind]
        exact (abortCollector_owing reason ht).mono (fun _ u hu => ih u hu)
          fun _ hFalse => hFalse.elim
  refine hAll _ _ (owing_of_budgeted ?_ rfl rfl)
  exact h.same rfl rfl

/-- A collector that the validated registration lets in. -/
theorem not_contains_of_validated {collectors : Collectors} {spec : DigitCollectionSpec}
    (h : validateDigitCollectorRegistration collectors spec = .ok ()) :
    collectors.contains spec.collectorId = false := by
  rw [validateDigitCollectorRegistration] at h
  split at h
  · cases h
  · next hFree => exact Bool.not_eq_true _ ▸ hFree

theorem validated_of_validateDigitCollection {spec : DigitCollectionSpec}
    (h : s.validateDigitCollection spec = .ok ()) :
    validateDigitCollectorRegistration s.dtmf.collectors spec = .ok () := by
  unfold validateDigitCollection at h
  split at h
  · cases h
  · split at h
    · cases h
    · split at h
      · cases h
      · next hValid => exact hValid

/-- One collection more of `id`. -/
def grant (cap : CollectorId → Nat) (id : CollectorId) : CollectorId → Nat :=
  fun other => if other = id then cap other + 1 else cap other

theorem spend_grant : spend (grant cap id) id = cap := by
  funext other
  rw [spend, grant]
  split
  · exact Nat.add_sub_cancel _ _
  · rfl

/-- A new collector. -/
theorem Budgeted.registered {spec : DigitCollectionSpec} (h : Budgeted cap sent s)
    (hOwn : collector.spec.collectorId = spec.collectorId)
    (hPending : collector.pendingOutcome = none)
    (hCollectors : t.dtmf.collectors = s.dtmf.collectors.insert spec.collectorId collector)
    (hReplies : t.dtmf.replies = s.dtmf.replies)
    (hFree : s.dtmf.collectors.contains spec.collectorId = false) :
    Budgeted (grant cap spec.collectorId) sent t where
  filed :=
    { ascending := hCollectors ▸ h.filed.ascending.insert _ _
      own := by
        intro other kept hKept
        rw [hCollectors, OrdMap.lookup_insert] at hKept
        split at hKept
        · next hSame =>
            rw [← Option.some.inj hKept, ← hSame, hOwn]
        · exact h.filed.own other kept hKept
      outcome := by
        intro other kept outcome hKept hOutcome
        rw [hCollectors, OrdMap.lookup_insert] at hKept
        split at hKept
        · rw [← Option.some.inj hKept, hPending] at hOutcome
          cases hOutcome
        · exact h.filed.outcome other kept outcome hKept hOutcome }
  held other := by
    have hHeld := h.held other
    rw [DtmfRuntime.held] at hHeld ⊢
    rw [hCollectors, hReplies, OrdMap.contains, OrdMap.lookup_insert, grant]
    by_cases hSame : other = spec.collectorId
    · subst hSame
      rw [hFree] at hHeld
      rw [if_pos rfl, if_pos rfl]
      simp only [Option.isSome_some, if_true, Bool.false_eq_true, if_false] at hHeld ⊢
      omega
    · rw [if_neg (Ne.symm hSame), if_neg hSame]
      exact hHeld
  sent := hReplies ▸ h.sent

/-- A start makes one collection of its id: a collector, or a result that refuses it. -/
theorem startDigitCollection_post (spec : DigitCollectionSpec) (h : Budgeted cap sent s) :
    Post (startDigitCollection spec) env s (fun _ => Budgeted (grant cap spec.collectorId) sent)
      (Budgeted (grant cap spec.collectorId) sent) := by
  have hSpent : Budgeted (spend (grant cap spec.collectorId) spec.collectorId) sent s :=
    spend_grant ▸ h
  have hCap : 0 < grant cap spec.collectorId spec.collectorId := by
    rw [grant, if_pos rfl]
    exact Nat.succ_pos _
  unfold startDigitCollection
  rw [post_bind, post_get]
  split
  · next error _ =>
      have hAnswered : Budgeted (spend (grant cap spec.collectorId) spec.collectorId) sent
          { s with dtmf := { s.dtmf with
            replies := .ready spec.collectorId (.error error) :: s.dtmf.replies } } :=
        hSpent.answered rfl rfl
      exact hAnswered.replied rfl hCap rfl rfl
  · next hValid =>
      have hFree := not_contains_of_validated (validated_of_validateDigitCollection hValid)
      have hRest (action : MediaAction) : Contains (do
          let refusal ← offerMedia action
          Proc.whenSome refusal fun error => failDigitCollectionStart spec.collectorId error) :=
        (offerMedia_contains action).bind fun _ =>
          .whenSome fun error => failDigitCollectionStart_contains spec.collectorId error
      rw [post_bind]
      exact hRest _ env _ sent _ (h.registered rfl rfl rfl rfl hFree)

theorem cancelDigitCollection_contains (id : CollectorId) :
    Contains (cancelDigitCollection id) := by
  intro env cap sent s h
  unfold cancelDigitCollection
  rw [post_bind, post_get]
  split
  · exact h
  · next collector hLookup =>
      have hOwn := h.filed.own id collector hLookup
      have hOutcome := h.filed.outcome id collector
      split
      · next cancelled hCancel =>
          have hCancelled : cancelled = { collector with cancelRequested := true } := by
            unfold DigitCollectorState.requestCancel at hCancel
            split at hCancel
            · exact (Prod.mk.inj hCancel).2.symm
            · simp only [Prod.mk.injEq, reduceCtorEq, false_and] at hCancel
            · simp only [Prod.mk.injEq, reduceCtorEq, false_and] at hCancel
          subst hCancelled
          rw [post_bind]
          have hKept := updateCollector_within h hLookup
            (f := fun _ => { collector with cancelRequested := true, readyReply := false })
            (t := { s with dtmf := { s.dtmf with collectors := s.dtmf.collectors.adjust id _ } })
            hOwn (fun outcome hPending => hOutcome outcome hLookup hPending) rfl rfl
          show Post _ env { s with dtmf := { s.dtmf with
            collectors := s.dtmf.collectors.adjust id _ } } _ _
          rw [post_bind, post_when]
          constructor
          · intro _
            exact hKept.answered rfl rfl
          · intro _
            exact hKept
      · exact ((finishDigitCollection_contains _ _ _).bind fun _ => .pure true) env cap sent s h
      · exact h

theorem handleDtmfCapabilityAcquired_contains (actionId : String)
    (result : Except String DtmfCapabilityReady) :
    Contains (handleDtmfCapabilityAcquired actionId result) := by
  intro env cap sent s h
  unfold handleDtmfCapabilityAcquired
  simp only [post_bind, post_read, post_get]
  split
  · exact h
  · next id collector hFound =>
      have hLookup := OrdMap.lookup_of_mem h.filed.ascending (List.mem_of_find?_eq_some hFound)
      have hOwn := h.filed.own id collector hLookup
      have hOutcome := h.filed.outcome id collector
      split
      · exact failDigitCollectionStart_contains _ _ env cap sent s h
      · next ready =>
          rw [post_ite]
          split
          · exact failDigitCollectionStart_contains _ _ env cap sent s h
          · have hRest (t : Coordinator) (ht : Budgeted cap sent t)
                (hThere : t.dtmf.collectors.lookup id = some collector) : Post (
                  if collector.cancelRequested then do
                    updateCollectors (·.adjust id fun collector =>
                      { collector with readyReply := false, phase := .active })
                    finishDigitCollection id .cancelled (some "dtmf_collection_cancelled")
                  else do
                    updateCollectors (·.adjust id fun collector =>
                      ({ collector with readyReply := false } : DigitCollectorState).activate
                        (env.instant .collector))
                    scheduleDigitCollectorTimer) env t (fun _ => Budgeted cap sent)
                  (Budgeted cap sent) := by
              rw [post_ite]
              split
              · rw [post_bind]
                exact finishDigitCollection_contains _ _ _ env cap sent _
                  (updateCollector_within ht hThere hOwn
                    (fun outcome hPending => hOutcome outcome hLookup hPending) rfl rfl)
              · rw [post_bind]
                exact scheduleDigitCollectorTimer_contains env cap sent _
                  (updateCollector_within ht hThere hOwn
                    (fun outcome hPending => hOutcome outcome hLookup hPending) rfl rfl)
            rw [post_bind, post_when]
            constructor
            · intro _
              exact hRest _ (h.answered rfl rfl) hLookup
            · intro _
              exact hRest s h hLookup

theorem applyDigit_keeps (collector : DigitCollectorState) (event : DigitEvent) (now : Nat) :
    (collector.applyDigit event now).2.spec = collector.spec ∧
      (collector.applyDigit event now).2.pendingOutcome = collector.pendingOutcome := by
  simp only [DigitCollectorState.applyDigit]
  split
  · exact ⟨rfl, rfl⟩
  · split
    · split <;> exact ⟨rfl, rfl⟩
    · split
      · exact ⟨rfl, rfl⟩
      · split <;> exact ⟨rfl, rfl⟩

/-- A digit is offered to every collector in place. -/
theorem applyDigitToCollectors_snd (event : DigitEvent) (now : Nat) (collectors : Collectors) :
    (applyDigitToCollectors event now collectors).2 =
      collectors.mapValues fun _ collector => (collector.applyDigit event now).2 := by
  induction collectors with
  | nil => rfl
  | cons entry rest ih =>
      rw [applyDigitToCollectors]
      simp only [OrdMap.mapValues, List.map_cons] at ih ⊢
      rw [← ih]
      split <;> rfl

theorem collectDigit_contains (event : DigitEvent) : Contains (collectDigit event) := by
  intro env cap sent s h
  unfold collectDigit
  simp only [post_bind, post_read, post_get]
  have hKept : Budgeted cap sent { s with dtmf := { s.dtmf with collectors :=
      (applyDigitToCollectors event (env.instant .collector) s.dtmf.collectors).2 } } := by
    have hLookup (id : CollectorId) :
        (applyDigitToCollectors event (env.instant .collector) s.dtmf.collectors).2.lookup id =
          (s.dtmf.collectors.lookup id).map fun collector =>
            (collector.applyDigit event (env.instant .collector)).2 := by
      rw [applyDigitToCollectors_snd, OrdMap.lookup_mapValues]
    have hFiled : Filed
        (applyDigitToCollectors event (env.instant .collector) s.dtmf.collectors).2 := by
      constructor
      · rw [applyDigitToCollectors_snd]
        exact h.filed.ascending.mapValues _
      · intro id collector hCollector
        rw [hLookup id] at hCollector
        obtain ⟨before, hBefore, rfl⟩ := Option.map_eq_some_iff.mp hCollector
        rw [(applyDigit_keeps before event _).1]
        exact h.filed.own id before hBefore
      · intro id collector outcome hCollector hOutcome
        rw [hLookup id] at hCollector
        obtain ⟨before, hBefore, rfl⟩ := Option.map_eq_some_iff.mp hCollector
        rw [(applyDigit_keeps before event _).2] at hOutcome
        exact h.filed.outcome id before outcome hBefore hOutcome
    refine h.refile hFiled ?_ rfl rfl
    intro id hThere
    rw [OrdMap.contains, hLookup id, Option.isSome_map] at hThere
    exact hThere
  have hFinish (finished : CollectorId × DigitCollectionResultCode × Option String) :
      Contains (finishDigitCollection finished.1 finished.2.1 finished.2.2) :=
    finishDigitCollection_contains finished.1 finished.2.1 finished.2.2
  show Post (List.forM _ _) env _ _ _
  refine (Contains.forM hFinish env cap sent _ hKept).mono (fun _ t ht => ?_) fun _ ht => ht
  exact scheduleDigitCollectorTimer_contains env cap sent t ht

theorem handleDigitCollectorTimeout_contains (generation : Nat) (id : CollectorId)
    (deadline : DigitCollectorDeadline) :
    Contains (handleDigitCollectorTimeout generation id deadline) := by
  intro env cap sent s h
  unfold handleDigitCollectorTimeout
  rw [post_bind, post_get, post_ite]
  split
  · exact h
  · have hTimer : Contains (updateDtmf fun dtmf => { dtmf with collectorTimer := none }) :=
      .updateDtmf fun _ => ⟨rfl, rfl⟩
    exact (hTimer.bind fun _ => (finishDigitCollection_contains id deadline.resultCode none).bind
      fun _ => scheduleDigitCollectorTimer_contains) env cap sent s h

end Coordinator

end VoipSwitch
