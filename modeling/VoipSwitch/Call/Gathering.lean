import VoipSwitch.Call.Outcomes
import VoipSwitch.Lib.Transition
import Mathlib.Data.List.TakeWhile

/-! What the collectors of a call gather. A collection is described by the digits of its source
alone; the coordinator starts collections, is told of their leases and hears digits in any order. -/
namespace VoipSwitch

open Stateful Keyed Proc

namespace DigitCollectionSpec

variable {spec : DigitCollectionSpec} {digits more : List DtmfDigit} {digit : DtmfDigit}

/-- The digits of the collection's source. -/
def own (spec : DigitCollectionSpec) (events : List DigitEvent) : List DtmfDigit :=
  (events.filter (·.sourceSessionId = spec.sourceSessionId)).map (·.digit)

/-- The allowed digits before the first terminator. -/
def admitted (spec : DigitCollectionSpec) (digits : List DtmfDigit) : List DtmfDigit :=
  (digits.takeWhile (· ∉ spec.terminators)).filter (· ∈ spec.allowed)

/-- The digits that the collection reports. -/
def gathered (spec : DigitCollectionSpec) (digits : List DtmfDigit) : List DtmfDigit :=
  (spec.admitted digits).take spec.maxDigits

/-- The collection has as many digits as it may have. -/
def Full (spec : DigitCollectionSpec) (digits : List DtmfDigit) : Prop :=
  spec.maxDigits ≤ (spec.gathered digits).length

/-- A terminator was seen. -/
def Terminated (spec : DigitCollectionSpec) (digits : List DtmfDigit) : Prop :=
  ∃ digit ∈ digits, digit ∈ spec.terminators

instance decidableFull : Decidable (spec.Full digits) := inferInstanceAs (Decidable (_ ≤ _))

instance decidableTerminated : Decidable (spec.Terminated digits) :=
  inferInstanceAs (Decidable (∃ _ ∈ _, _))

/-- How the collection ends, once it ends. -/
def verdict (spec : DigitCollectionSpec) (digits : List DtmfDigit) :
    Option DigitCollectionResultCode :=
  if spec.Full digits then some .completed
  else if spec.Terminated digits then
    if spec.minDigits ≤ (spec.gathered digits).length then some .completed else some .failed
  else none

theorem own_append (events : List DigitEvent) (event : DigitEvent) :
    spec.own (events ++ [event]) =
      if event.sourceSessionId = spec.sourceSessionId then spec.own events ++ [event.digit]
      else spec.own events := by
  rw [own, List.filter_append, List.map_append, ← own]
  split
  · next hOwn => simp [hOwn]
  · next hOther => simp [hOther]

theorem terminated_append :
    spec.Terminated (digits ++ more) ↔ spec.Terminated digits ∨ spec.Terminated more := by
  simp only [Terminated, List.mem_append, or_and_right, exists_or]

theorem terminated_singleton : spec.Terminated [digit] ↔ digit ∈ spec.terminators := by
  simp [Terminated]

/-- Nothing is admitted after a terminator. -/
theorem admitted_append_of_terminated (h : spec.Terminated digits) :
    spec.admitted (digits ++ more) = spec.admitted digits := by
  have hStops : (digits.takeWhile (· ∉ spec.terminators)).length ≠ digits.length := by
    intro hLength
    have hAll := (List.takeWhile_prefix (p := fun digit => decide (digit ∉ spec.terminators))
      ).eq_of_length hLength
    obtain ⟨digit, hMem, hTerminator⟩ := h
    have hKept := List.takeWhile_eq_self_iff.mp hAll digit hMem
    exact of_decide_eq_true hKept hTerminator
  rw [admitted, List.takeWhile_append, if_neg hStops, ← admitted]

theorem admitted_append_of_open (h : ¬ spec.Terminated digits) :
    spec.admitted (digits ++ more) = spec.admitted digits ++ spec.admitted more := by
  have hAll : digits.takeWhile (· ∉ spec.terminators) = digits := by
    rw [List.takeWhile_eq_self_iff]
    intro digit hMem
    apply decide_eq_true
    intro hTerminator
    exact h ⟨digit, hMem, hTerminator⟩
  rw [admitted, List.takeWhile_append, if_pos (by rw [hAll]), List.filter_append, admitted,
    admitted, hAll]

theorem isPrefix_admitted : spec.admitted digits <+: spec.admitted (digits ++ more) := by
  by_cases h : spec.Terminated digits
  · have hSame : spec.admitted (digits ++ more) = spec.admitted digits :=
      admitted_append_of_terminated h
    exact hSame ▸ List.prefix_rfl
  · rw [admitted_append_of_open h]
    exact List.prefix_append _ _

theorem full_iff : spec.Full digits ↔ spec.maxDigits ≤ (spec.admitted digits).length := by
  rw [Full, gathered, List.length_take]
  omega

/-- What was gathered stays once the collection has ended. -/
theorem gathered_append (h : spec.Full digits ∨ spec.Terminated digits) :
    spec.gathered (digits ++ more) = spec.gathered digits := by
  rcases h with hFull | hTerminated
  · obtain ⟨later, hLater⟩ := @isPrefix_admitted spec digits more
    rw [gathered, gathered, ← hLater, List.take_append_of_le_length (full_iff.mp hFull)]
  · rw [gathered, gathered, admitted_append_of_terminated hTerminated]

theorem ended_of_verdict {code : DigitCollectionResultCode} (h : spec.verdict digits = some code) :
    spec.Full digits ∨ spec.Terminated digits := by
  rw [verdict] at h
  split at h
  · next hFull => exact .inl hFull
  · split at h
    · next hTerminated => exact .inr hTerminated
    · cases h

/-- A verdict stands whatever comes after it. -/
theorem verdict_append {code : DigitCollectionResultCode} (h : spec.verdict digits = some code) :
    spec.verdict (digits ++ more) = some code := by
  have hSame := @gathered_append spec digits more (ended_of_verdict h)
  have hFull : spec.Full (digits ++ more) ↔ spec.Full digits := by rw [Full, Full, hSame]
  rw [verdict] at h ⊢
  rw [hSame]
  simp only [hFull]
  split at h
  · next hReached => rw [if_pos hReached, h]
  · next hOpen =>
      rw [if_neg hOpen]
      split at h
      · next hTerminated => rw [if_pos (terminated_append.mpr (.inl hTerminated)), h]
      · cases h

theorem verdict_none : spec.verdict digits = none ↔ ¬ spec.Full digits ∧
    ¬ spec.Terminated digits := by
  rw [verdict]
  by_cases hFull : spec.Full digits
  · simp [hFull]
  · by_cases hTerminated : spec.Terminated digits
    · simp only [hFull, hTerminated, if_false, if_true]
      split <;> simp
    · simp [hFull, hTerminated]

/-- A collection completes when it is full or ended by a terminator with enough digits. -/
theorem verdict_completed :
    spec.verdict digits = some .completed ↔
      spec.Full digits ∨
        (spec.Terminated digits ∧ spec.minDigits ≤ (spec.gathered digits).length) := by
  rw [verdict]
  by_cases hFull : spec.Full digits
  · simp [hFull]
  · by_cases hTerminated : spec.Terminated digits
    · simp only [hFull, hTerminated, if_false, if_true, false_or, true_and]
      split
      · next hEnough => simp [hEnough]
      · next hShort => simp [hShort]
    · simp [hFull, hTerminated]

/-- It fails when a terminator comes before enough digits. -/
theorem verdict_failed (hSpec : spec.validate = .ok ()) :
    spec.verdict digits = some .failed ↔
      spec.Terminated digits ∧ (spec.gathered digits).length < spec.minDigits := by
  have hRange : spec.minDigits ≤ spec.maxDigits := by
    rw [validate] at hSpec
    split at hSpec
    · cases hSpec
    · next hRange => omega
  rw [verdict]
  by_cases hFull : spec.Full digits
  · have hEnough := hRange.trans hFull
    simp [hFull, hEnough]
  · by_cases hTerminated : spec.Terminated digits
    · simp only [hFull, hTerminated, if_false, if_true, true_and]
      split
      · next hEnough => simp [hEnough]
      · next hShort => simp [Nat.lt_of_not_le hShort]
    · simp [hFull, hTerminated]

end DigitCollectionSpec

namespace DigitCollectorState

variable {collector : DigitCollectorState} {digits : List DtmfDigit}
  {event : DigitEvent} {now : Nat}

/-- What the collector says of its reason when it ends. -/
def endReason : DigitCollectionResultCode → Option String
  | .failed => some "digit_collection_too_short"
  | _ => none

/-- The input that a collector makes of a digit of its source. -/
def inputFor (spec : DigitCollectionSpec) (digits : List DtmfDigit) : DigitCollectorInput :=
  match spec.verdict digits with
  | none => .continue (spec.mode = .collect)
  | some code => .finish (spec.mode = .collect) code (endReason code)

/-- The collector has what its source sent, and has not ended. -/
structure Gathers (collector : DigitCollectorState) (digits : List DtmfDigit) : Prop where
  kept : collector.digits = collector.spec.gathered digits
  goesOn : collector.spec.verdict digits = none

/-- A digit that nobody waits for. -/
theorem applyDigit_ignored
    (h : collector.phase ≠ .active ∨ collector.spec.sourceSessionId ≠ event.sourceSessionId) :
    collector.applyDigit event now = (.ignored, collector) := by
  rw [applyDigit, if_pos h]

/-- A digit of the source is weighed with all that came before it. -/
theorem applyDigit_own (hActive : collector.phase = .active)
    (hSource : collector.spec.sourceSessionId = event.sourceSessionId)
    (h : collector.Gathers digits) :
    (collector.applyDigit event now).1 = inputFor collector.spec (digits ++ [event.digit]) ∧
      (collector.applyDigit event now).2.phase = .active ∧
      (collector.applyDigit event now).2.digits =
        collector.spec.gathered (digits ++ [event.digit]) := by
  obtain ⟨hOpen, hGoesOn⟩ := DigitCollectionSpec.verdict_none.mp h.goesOn
  have hShort : (collector.spec.admitted digits).length < collector.spec.maxDigits := by
    rw [DigitCollectionSpec.full_iff] at hOpen
    exact Nat.lt_of_not_le hOpen
  have hAll : collector.digits = collector.spec.admitted digits := by
    rw [h.kept, DigitCollectionSpec.gathered, List.take_of_length_le hShort.le]
  have hStays : ¬ (collector.phase ≠ .active ∨
      collector.spec.sourceSessionId ≠ event.sourceSessionId) := by
    rw [not_or, not_not, not_not]
    exact ⟨hActive, hSource⟩
  have hAdmitted := @DigitCollectionSpec.admitted_append_of_open _ _ [event.digit] hGoesOn
  have hTerminated : collector.spec.Terminated (digits ++ [event.digit]) ↔
      event.digit ∈ collector.spec.terminators := by
    rw [DigitCollectionSpec.terminated_append, DigitCollectionSpec.terminated_singleton]
    exact or_iff_right hGoesOn
  rw [applyDigit, if_neg hStays]
  by_cases hTerminator : event.digit ∈ collector.spec.terminators
  · -- A terminator ends the collection, even where it is an allowed digit.
    have hSame : collector.spec.gathered (digits ++ [event.digit]) = collector.digits := by
      rw [DigitCollectionSpec.gathered, hAdmitted, h.kept, DigitCollectionSpec.gathered]
      simp [DigitCollectionSpec.admitted, hTerminator]
    have hNotFull : ¬ collector.spec.Full (digits ++ [event.digit]) := by
      rw [DigitCollectionSpec.Full, hSame, hAll]
      exact Nat.not_le.mpr hShort
    rw [if_pos hTerminator, inputFor, DigitCollectionSpec.verdict, if_neg hNotFull,
      if_pos (hTerminated.mpr hTerminator), hSame]
    split <;> exact ⟨rfl, hActive, rfl⟩
  · have hOn : ¬ collector.spec.Terminated (digits ++ [event.digit]) := hTerminator ∘ hTerminated.mp
    rw [if_neg hTerminator]
    by_cases hAllowed : event.digit ∈ collector.spec.allowed
    · -- The digit is taken; it may be the last one.
      have hMore : collector.spec.admitted (digits ++ [event.digit]) =
          collector.digits ++ [event.digit] := by
        rw [hAdmitted, hAll]
        simp [DigitCollectionSpec.admitted, hTerminator, hAllowed]
      have hGathered : collector.spec.gathered (digits ++ [event.digit]) =
          collector.digits ++ [event.digit] := by
        rw [DigitCollectionSpec.gathered, hMore, List.take_of_length_le]
        rw [List.length_append, hAll]
        exact hShort
      have hFull : collector.spec.Full (digits ++ [event.digit]) ↔
          collector.spec.maxDigits ≤ (collector.digits ++ [event.digit]).length := by
        rw [DigitCollectionSpec.Full, hGathered]
      rw [if_neg (not_not.mpr hAllowed), inputFor, DigitCollectionSpec.verdict,
        if_neg hOn, hGathered]
      simp only [hFull]
      split
      · exact ⟨rfl, hActive, rfl⟩
      · exact ⟨rfl, hActive, rfl⟩
    · -- The digit is neither, and nothing changes.
      have hSame : collector.spec.gathered (digits ++ [event.digit]) = collector.digits := by
        rw [DigitCollectionSpec.gathered, hAdmitted, h.kept, DigitCollectionSpec.gathered]
        simp [DigitCollectionSpec.admitted, hTerminator, hAllowed]
      have hNotFull : ¬ collector.spec.Full (digits ++ [event.digit]) := by
        rw [DigitCollectionSpec.Full, hSame, hAll]
        exact Nat.not_le.mpr hShort
      rw [if_pos hAllowed, inputFor, DigitCollectionSpec.verdict, if_neg hNotFull, if_neg hOn]
      exact ⟨rfl, hActive, hSame.symm⟩

end DigitCollectorState

/-- Whether the digit goes to a collector that keeps it from the other party. -/
def DigitCollectorInput.consumes : DigitCollectorInput → Bool
  | .ignored => false
  | .continue consume | .finish consume _ _ => consume

/-- How the collector ends with the digit. -/
def DigitCollectorInput.ending : DigitCollectorInput →
    Option (DigitCollectionResultCode × Option String)
  | .finish _ code reason => some (code, reason)
  | _ => none

/-- The collector takes the digits of this source, and keeps them from the other party. -/
def DigitCollectorState.collects (collector : DigitCollectorState) (source : SessionId) : Bool :=
  collector.phase = .active && collector.spec.mode = .collect
    && collector.spec.sourceSessionId = source

theorem applyDigit_consumes (collector : DigitCollectorState) (event : DigitEvent) (now : Nat) :
    (collector.applyDigit event now).1.consumes = collector.collects event.sourceSessionId := by
  rw [DigitCollectorState.collects]
  by_cases hIgnored : collector.phase ≠ .active ∨
      collector.spec.sourceSessionId ≠ event.sourceSessionId
  · rw [DigitCollectorState.applyDigit_ignored hIgnored]
    rcases hIgnored with hPhase | hSource
    · simp [DigitCollectorInput.consumes, hPhase]
    · simp [DigitCollectorInput.consumes, hSource]
  · rw [DigitCollectorState.applyDigit, if_neg hIgnored]
    rw [not_or, not_not, not_not] at hIgnored
    simp only [hIgnored.1, hIgnored.2, decide_true, Bool.true_and, Bool.and_true]
    split
    · split <;> rfl
    · split
      · rfl
      · split <;> rfl

/-- A digit changes what a collector has and its deadlines. -/
theorem applyDigit_frame (collector : DigitCollectorState) (event : DigitEvent) (now : Nat) :
    ∃ digits first inter, (collector.applyDigit event now).2 =
      { collector with digits := digits, firstDeadline := first, interDeadline := inter } := by
  have hSame : ∃ digits first inter, collector =
      { collector with digits := digits, firstDeadline := first, interDeadline := inter } :=
    ⟨collector.digits, collector.firstDeadline, collector.interDeadline, rfl⟩
  rw [DigitCollectorState.applyDigit]
  split
  · exact hSame
  · split
    · split <;> exact hSame
    · split
      · exact hSame
      · dsimp only
        split <;> exact ⟨_, _, _, rfl⟩

/-- The collectors that end with a digit, in the order of their ids. -/
theorem applyDigitToCollectors_completed (event : DigitEvent) (now : Nat)
    (collectors : Collectors) :
    (applyDigitToCollectors event now collectors).1.completed =
      collectors.filterMap fun entry =>
        (entry.2.applyDigit event now).1.ending.map fun ending => (entry.1, ending) := by
  induction collectors with
  | nil => rfl
  | cons entry rest ih =>
      rcases hInput : entry.2.applyDigit event now with ⟨input, collector⟩
      rw [applyDigitToCollectors, List.filterMap_cons, ← ih, hInput]
      cases input <;> rfl

/-- A digit is consumed if one of the collectors takes it for itself. -/
theorem applyDigitToCollectors_consume (event : DigitEvent) (now : Nat) (collectors : Collectors) :
    (applyDigitToCollectors event now collectors).1.consume =
      collectors.any fun entry => entry.2.collects event.sourceSessionId := by
  induction collectors with
  | nil => rfl
  | cons entry rest ih =>
      rw [List.any_cons, ← ih, ← applyDigit_consumes entry.2 event now]
      rcases hInput : entry.2.applyDigit event now with ⟨input, collector⟩
      rw [applyDigitToCollectors, hInput]
      cases input <;> simp [DigitCollectorInput.consumes]

namespace DigitCollectorState

/-- The collector after it has ended. -/
def ended (collector : DigitCollectorState) (code : DigitCollectionResultCode)
    (reason : Option String) : DigitCollectorState :=
  { collector with
    phase := .releasing
    firstDeadline := none
    interDeadline := none
    overallDeadline := none
    pendingOutcome := some
      { collectorId := collector.spec.collectorId, code, digits := collector.digits, reason } }

/-- What the collector reports once the release of its lease has this result. -/
def outcome (collector : DigitCollectorState) (released : Except String Nat) :
    DigitCollectionOutcome :=
  let outcome := collector.pendingOutcome.getD
    { collectorId := collector.spec.collectorId, code := .failed, digits := collector.digits,
      reason := some "missing_collection_outcome" }
  match released with
  | .ok _ => outcome
  | .error error =>
    { outcome with code := .failed, reason := some s!"capability_release_failed:{error}" }

end DigitCollectorState

namespace Coordinator

def leaseIdOf (callId : CallId) (id : CollectorId) : MediaCapabilityLeaseId :=
  s!"dtmf-collector-{callId}-{id}"

def releaseActionIdOf (callId : CallId) (id : CollectorId) : String :=
  s!"release-{leaseIdOf callId id}"

/-- The release of a collector's lease names the collector. -/
theorem releaseActionIdOf_inj {callId : CallId} {a b : CollectorId}
    (h : releaseActionIdOf callId a = releaseActionIdOf callId b) : a = b := by
  have hLease : leaseIdOf callId a = leaseIdOf callId b := (String.append_right_inj "release-").mp h
  exact (String.append_right_inj ("dtmf-collector-" ++ callId ++ "-")).mp hLease

/-- Why the media worker does not take the release of a collector's lease. -/
def releaseRefusal (env : Env) (s : Coordinator) (collector : DigitCollectorState) :
    Option String :=
  (env.media (.releaseDtmfCapability collector.releaseActionId s.mediaGeneration
    collector.leaseId)).refusal "media action queue full" "media action executor stopped"

section Handlers

variable {env : Env} {s t : Coordinator} {id : CollectorId} {collector : DigitCollectorState}

/-- `t` has these collectors and replies; its call and its media are those of `s`. -/
structure Holding (s : Coordinator) (collectors : Collectors) (replies : List CollectorReply)
    (t : Coordinator) : Prop where
  call : t.call = s.call
  generation : t.mediaGeneration = s.mediaGeneration
  collectors : t.dtmf.collectors = collectors
  replies : t.dtmf.replies = replies

theorem Holding.refl (s : Coordinator) : Holding s s.dtmf.collectors s.dtmf.replies s :=
  ⟨rfl, rfl, rfl, rfl⟩

theorem post_offer {action : MediaAction} {Q : Option String → Coordinator → Prop}
    {E : Coordinator → Prop}
    (hSent : (env.media action).refusal "media action queue full" "media action executor stopped" =
      none → Q none { s with mediaQueue := s.mediaQueue ++ [action] })
    (hRefused : ∀ reason, (env.media action).refusal "media action queue full"
      "media action executor stopped" = some reason → Q (some reason) s) :
    Post (offerMedia action) env s Q E := by
  simp only [offerMedia, post_bind, post_read]
  split
  · next hRefusal => exact hSent hRefusal
  · next reason hRefusal => exact hRefused reason hRefusal

/-- The collector whose lease is released is taken out and reports. -/
theorem released_post {actionId : String} {result : Except String Nat}
    (hFound : s.dtmf.collectors.find? (fun entry =>
      entry.2.phase = .releasing && entry.2.releaseActionId = actionId) = some (id, collector))
    (hWaited : collector.resultReply = true) :
    Post (handleDtmfCapabilityReleased actionId result) env s
      (fun _ => Holding s (s.dtmf.collectors.erase id)
        (.result (collector.outcome result) :: s.dtmf.replies)) fun _ => False := by
  rw [handleDtmfCapabilityReleased, post_bind, post_get]
  split
  · next hNone =>
      rw [hFound] at hNone
      cases hNone
  · next id' collector' hFound' =>
      rw [hFound] at hFound'
      obtain ⟨rfl, rfl⟩ := Prod.mk.inj (Option.some.inj hFound')
      rw [post_bind]
      show Post (do
        Proc.when collector.resultReply (sendReply (.result (collector.outcome result)))
        scheduleDigitCollectorTimer) env _ _ _
      rw [post_bind, post_when]
      constructor
      · intro _
        exact ⟨rfl, rfl, rfl, rfl⟩
      · intro hUnwaited
        exact (hUnwaited hWaited).elim

/-- A release that no collector waits for. -/
theorem released_unknown {actionId : String} {result : Except String Nat}
    (hNone : s.dtmf.collectors.find? (fun entry =>
      entry.2.phase = .releasing && entry.2.releaseActionId = actionId) = none) :
    Post (handleDtmfCapabilityReleased actionId result) env s
      (fun _ => Holding s s.dtmf.collectors s.dtmf.replies) fun _ => False := by
  rw [handleDtmfCapabilityReleased, post_bind, post_get]
  split
  · exact .refl s
  · next hFound =>
      rw [hNone] at hFound
      cases hFound

/-- An active collector that ends waits for its release; where that is refused it reports at
once. -/
theorem finish_post {code : DigitCollectionResultCode} {reason : Option String}
    (hAscending : s.dtmf.collectors.Ascending)
    (hLookup : s.dtmf.collectors.lookup id = some collector) (hActive : collector.phase = .active)
    (hWaited : collector.resultReply = true)
    (hOnly : ∀ other c, s.dtmf.collectors.lookup other = some c →
      c.releaseActionId = collector.releaseActionId → other = id) :
    Post (finishDigitCollection id code reason) env s (fun _ t =>
      (releaseRefusal env s collector = none ∧ Holding s
        (s.dtmf.collectors.adjust id (·.ended code reason)) s.dtmf.replies t) ∨
      ∃ error, releaseRefusal env s collector = some error ∧ Holding s
        ((s.dtmf.collectors.adjust id (·.ended code reason)).erase id)
        (.result ((collector.ended code reason).outcome (.error error)) :: s.dtmf.replies) t)
      fun _ => False := by
  rw [finishDigitCollection, post_bind, post_get, hLookup]
  simp only [hActive, ne_eq, not_true_eq_false, if_false]
  rw [post_bind]
  show Post (do
    let refusal ← offerMedia (.releaseDtmfCapability collector.releaseActionId s.mediaGeneration
      collector.leaseId)
    Proc.whenSome refusal fun error =>
      handleDtmfCapabilityReleased collector.releaseActionId (.error error)
    scheduleDigitCollectorTimer) env { s with dtmf := { s.dtmf with
      collectors := s.dtmf.collectors.adjust id (·.ended code reason) } } _ _
  rw [post_bind]
  apply post_offer
  · intro hSent
    exact .inl ⟨hSent, rfl, rfl, rfl, rfl⟩
  · intro error hRefused
    have hEnded : (s.dtmf.collectors.adjust id (·.ended code reason)).lookup id =
        some (collector.ended code reason) := OrdMap.lookup_adjust_self hLookup
    have hFound : (s.dtmf.collectors.adjust id (·.ended code reason)).find? (fun entry =>
        entry.2.phase = .releasing && entry.2.releaseActionId = collector.releaseActionId) =
          some (id, collector.ended code reason) := by
      have hThere : ((s.dtmf.collectors.adjust id (·.ended code reason)).find? fun entry =>
          entry.2.phase = .releasing && entry.2.releaseActionId = collector.releaseActionId
          ).isSome = true := by
        rw [List.find?_isSome]
        exact ⟨_, OrdMap.mem_of_lookup hEnded, by simp [DigitCollectorState.ended]⟩
      obtain ⟨entry, hEntry⟩ := Option.isSome_iff_exists.mp hThere
      have hMatches := List.find?_some hEntry
      simp only [Bool.and_eq_true, decide_eq_true_eq] at hMatches
      have hAt := OrdMap.lookup_of_mem (hAscending.adjust id _) (List.mem_of_find?_eq_some hEntry)
      have hId : entry.1 = id := by
        by_contra hOther
        rw [OrdMap.lookup_adjust, if_neg (Ne.symm hOther)] at hAt
        exact hOther (hOnly entry.1 entry.2 hAt hMatches.2)
      rw [hEntry]
      rw [hId, hEnded] at hAt
      rw [Option.some.inj hAt, ← hId]
    have hReleased : Post (handleDtmfCapabilityReleased collector.releaseActionId (.error error))
        env { s with dtmf := { s.dtmf with
          collectors := s.dtmf.collectors.adjust id (·.ended code reason) } } _ _ :=
      released_post hFound hWaited
    rw [post_bind]
    show Post (handleDtmfCapabilityReleased collector.releaseActionId (.error error)) env _ _ _
    apply hReleased.mono
    · intro _ t hHolding
      exact .inr ⟨error, hRefused, hHolding.call, hHolding.generation, hHolding.collectors,
        hHolding.replies⟩
    · exact fun _ h => h

/-- A collection that does not start is taken out. -/
theorem failStart_post {error : String} :
    Post (failDigitCollectionStart id error) env s (fun _ t => t.call = s.call ∧
      (t.dtmf.collectors = s.dtmf.collectors ∧ s.dtmf.collectors.lookup id = none ∨
        t.dtmf.collectors = s.dtmf.collectors.erase id)) fun _ => False := by
  rw [failDigitCollectionStart, post_bind, post_get]
  split
  · next hNone => exact ⟨rfl, .inl ⟨rfl, hNone⟩⟩
  · rw [post_bind]
    show Post (do
      Proc.when _ (sendReply _)
      Proc.when _ (sendReply _)
      scheduleDigitCollectorTimer) env _ _ _
    simp only [post_bind, post_when]
    constructor
    · intro _
      exact ⟨fun _ => ⟨rfl, .inr rfl⟩, fun _ => ⟨rfl, .inr rfl⟩⟩
    · intro _
      exact ⟨fun _ => ⟨rfl, .inr rfl⟩, fun _ => ⟨rfl, .inr rfl⟩⟩

end Handlers

end Coordinator

/-- The last result that was sent for the collection `id`. -/
def DtmfRuntime.latestResult (dtmf : DtmfRuntime) (id : CollectorId) :
    Option DigitCollectionOutcome :=
  dtmf.replies.findSome? fun
    | .ready _ _ => none
    | .result outcome => if outcome.collectorId = id then some outcome else none

/-- The collector stands under its id, and its requester still waits for its result. -/
structure DigitCollectorState.Registered (callId : CallId) (id : CollectorId)
    (collector : DigitCollectorState) : Prop where
  own : collector.spec.collectorId = id
  valid : collector.spec.validate = .ok ()
  release : collector.releaseActionId = Coordinator.releaseActionIdOf callId id
  waited : collector.resultReply = true
  wanted : collector.cancelRequested = false

namespace DigitCollectorState

variable {collector : DigitCollectorState} {events : List DigitEvent} {event : DigitEvent}
  {now : Nat} {code : DigitCollectionResultCode}

/-- What the collector was told decides what it has. -/
def Follows (events : List DigitEvent) (collector : DigitCollectorState) : Prop :=
  match collector.phase with
  | .acquiring => collector.digits = []
  | .active => collector.Gathers (collector.spec.own events)
  | .releasing => ∃ code, collector.spec.verdict (collector.spec.own events) = some code ∧
      collector.pendingOutcome = some
        { collectorId := collector.spec.collectorId, code
          digits := collector.spec.gathered (collector.spec.own events)
          reason := endReason code }

/-- The collector has just heard the digit that ends it. -/
structure Due (events : List DigitEvent) (code : DigitCollectionResultCode)
    (collector : DigitCollectorState) : Prop where
  active : collector.phase = .active
  verdict : collector.spec.verdict (collector.spec.own events) = some code
  kept : collector.digits = collector.spec.gathered (collector.spec.own events)

theorem Due.ended (h : collector.Due events code) :
    (collector.ended code (endReason code)).Follows events := by
  show ∃ code', _ ∧ _
  exact ⟨code, h.verdict, by rw [DigitCollectorState.ended, h.kept]⟩

/-- A new collector has heard nothing. -/
theorem gathers_nil (hValid : collector.spec.validate = .ok ()) (hEmpty : collector.digits = []) :
    collector.Gathers (collector.spec.own []) := by
  have hRange : collector.spec.maxDigits ≠ 0 := by
    rw [DigitCollectionSpec.validate] at hValid
    split at hValid
    · cases hValid
    · next hRange => exact fun hZero => hRange (.inr hZero)
  have hNone : collector.spec.gathered (collector.spec.own []) = [] := List.take_nil
  constructor
  · rw [hEmpty, hNone]
  · rw [DigitCollectionSpec.verdict_none]
    constructor
    · rw [DigitCollectionSpec.Full, hNone]
      exact fun hFull => hRange (Nat.le_zero.mp hFull)
    · rintro ⟨digit, hMem, _⟩
      cases hMem

/-- A digit that a collector does not wait for changes nothing. -/
theorem Follows.ignores (h : collector.Follows events)
    (hIgnored : collector.phase ≠ .active ∨
      collector.spec.sourceSessionId ≠ event.sourceSessionId) :
    collector.Follows (events ++ [event]) := by
  rw [Follows] at h ⊢
  rw [DigitCollectionSpec.own_append]
  split at h
  · exact h
  · next hActive =>
      have hOther := hIgnored.resolve_left (not_not.mpr hActive)
      rw [if_neg (Ne.symm hOther)]
      exact h
  · split
    · obtain ⟨code, hVerdict, hPending⟩ := h
      refine ⟨code, DigitCollectionSpec.verdict_append hVerdict, ?_⟩
      rw [DigitCollectionSpec.gathered_append (DigitCollectionSpec.ended_of_verdict hVerdict)]
      exact hPending
    · exact h

/-- With one digit more a collector goes on, or it ends as its digits say. -/
theorem Follows.hears (h : collector.Follows events) (event : DigitEvent) (now : Nat) :
    ((collector.applyDigit event now).1.ending = none ∧
      (collector.applyDigit event now).2.Follows (events ++ [event])) ∨
    ∃ code, (collector.applyDigit event now).1.ending = some (code, endReason code) ∧
      (collector.applyDigit event now).2.Due (events ++ [event]) code := by
  by_cases hIgnored : collector.phase ≠ .active ∨
      collector.spec.sourceSessionId ≠ event.sourceSessionId
  · left
    rw [applyDigit_ignored hIgnored]
    exact ⟨rfl, h.ignores hIgnored⟩
  · rw [not_or, not_not, not_not] at hIgnored
    obtain ⟨hActive, hSource⟩ := hIgnored
    have hGathers : collector.Gathers (collector.spec.own events) := by
      rw [Follows, hActive] at h
      exact h
    obtain ⟨hInput, hPhase, hDigits⟩ :=
      @applyDigit_own collector _ event now hActive hSource hGathers
    have hSpec : (collector.applyDigit event now).2.spec = collector.spec :=
      (Coordinator.applyDigit_keeps collector event now).1
    have hOwn : collector.spec.own (events ++ [event]) =
        collector.spec.own events ++ [event.digit] := by
      rw [DigitCollectionSpec.own_append, if_pos hSource.symm]
    rw [← hOwn] at hInput hDigits
    cases hVerdict : collector.spec.verdict (collector.spec.own (events ++ [event])) with
    | none =>
        left
        rw [hInput, inputFor, hVerdict, Follows, hPhase]
        refine ⟨rfl, ?_, ?_⟩
        · rw [hSpec, hDigits]
        · rw [hSpec, hVerdict]
    | some code =>
        right
        refine ⟨code, ?_, hPhase, ?_, ?_⟩
        · rw [hInput, inputFor, hVerdict]
          rfl
        · rw [hSpec, hVerdict]
        · rw [hSpec, hDigits]

end DigitCollectorState

namespace Coordinator

section Batch

variable {env : Env} {s t u : Coordinator} {heard : CollectorId → List DigitEvent}
  {id : CollectorId} {collector : DigitCollectorState}

/-- What a collection reports whose release failed. -/
def failedOutcome (spec : DigitCollectionSpec) (events : List DigitEvent) (error : String) :
    DigitCollectionOutcome where
  collectorId := spec.collectorId
  code := .failed
  digits := spec.gathered (spec.own events)
  reason := some s!"capability_release_failed:{error}"

/-- The collectors while those that a digit has ended, `rest`, are finished one by one. What a
collector has heard is in `heard`; the digit came in state `s`. -/
structure Batch (env : Env) (s : Coordinator) (heard : CollectorId → List DigitEvent)
    (rest : List (CollectorId × DigitCollectionResultCode × Option String)) (t : Coordinator) :
    Prop where
  call : t.call = s.call
  generation : t.mediaGeneration = s.mediaGeneration
  ascending : t.dtmf.collectors.Ascending
  nodup : (rest.map Prod.fst).Nodup
  from_ : ∀ id c, t.dtmf.collectors.lookup id = some c → c.Registered s.call.callId id ∧
    ∃ before, s.dtmf.collectors.lookup id = some before ∧ c.spec = before.spec ∧
      releaseRefusal env s c = releaseRefusal env s before ∧
      (c.phase = .active → before.phase = .active)
  follows : ∀ id c, t.dtmf.collectors.lookup id = some c → id ∉ rest.map Prod.fst →
    c.Follows (heard id)
  due : ∀ entry ∈ rest, entry.2.2 = DigitCollectorState.endReason entry.2.1 ∧
    ∃ c, t.dtmf.collectors.lookup entry.1 = some c ∧ c.Due (heard entry.1) entry.2.1
  lost : ∀ id before, s.dtmf.collectors.lookup id = some before →
    t.dtmf.collectors.lookup id = none →
    before.spec.validate = .ok () ∧
      (∃ code, before.spec.verdict (before.spec.own (heard id)) = some code) ∧
      ∃ error, releaseRefusal env s before = some error ∧
        t.dtmf.latestResult id = some (failedOutcome before.spec (heard id) error)

namespace Batch

variable {rest : List (CollectorId × DigitCollectionResultCode × Option String)}
  {code : DigitCollectionResultCode} {reason : Option String}

/-- Only the timer of the collectors changes. -/
theorem same (h : Batch env s heard rest t) (hCall : u.call = t.call)
    (hGeneration : u.mediaGeneration = t.mediaGeneration)
    (hCollectors : u.dtmf.collectors = t.dtmf.collectors)
    (hReplies : u.dtmf.replies = t.dtmf.replies) : Batch env s heard rest u where
  call := hCall.trans h.call
  generation := hGeneration.trans h.generation
  ascending := hCollectors ▸ h.ascending
  nodup := h.nodup
  from_ := hCollectors ▸ h.from_
  follows := hCollectors ▸ h.follows
  due := hCollectors ▸ h.due
  lost := by
    intro id before hBefore hNone
    rw [hCollectors] at hNone
    rw [DtmfRuntime.latestResult, hReplies]
    exact h.lost id before hBefore hNone

/-- The first of the collectors has ended and waits for its release. -/
theorem ended (h : Batch env s heard ((id, code, reason) :: rest) t)
    (hHolding : Holding t (t.dtmf.collectors.adjust id (·.ended code reason)) t.dtmf.replies u) :
    Batch env s heard rest u := by
  obtain ⟨hReason, c, hLookup, hDue⟩ := h.due _ (.head _)
  have hNodup := List.nodup_cons.mp h.nodup
  have hAt (other : CollectorId) : u.dtmf.collectors.lookup other =
      if id = other then some (c.ended code reason) else t.dtmf.collectors.lookup other := by
    rw [hHolding.collectors, OrdMap.lookup_adjust]
    split
    · rw [hLookup]
      rfl
    · rfl
  constructor
  · exact hHolding.call.trans h.call
  · exact hHolding.generation.trans h.generation
  · rw [hHolding.collectors]
    exact h.ascending.adjust _ _
  · exact hNodup.2
  · intro other c' hOther
    rw [hAt] at hOther
    split at hOther
    · next hSame =>
        subst hSame
        obtain ⟨hRegistered, before, hBefore, hSpec, hRefusal, hActive⟩ := h.from_ id c hLookup
        rw [← Option.some.inj hOther]
        exact ⟨⟨hRegistered.own, hRegistered.valid, hRegistered.release, hRegistered.waited,
          hRegistered.wanted⟩, before, hBefore, hSpec, hRefusal, fun hPhase => by cases hPhase⟩
    · exact h.from_ other c' hOther
  · intro other c' hOther hRest
    rw [hAt] at hOther
    split at hOther
    · next hSame =>
        subst hSame
        obtain rfl : reason = DigitCollectorState.endReason code := hReason
        rw [← Option.some.inj hOther]
        exact hDue.ended
    · next hDiffers =>
        apply h.follows other c' hOther
        intro hMem
        rcases List.mem_cons.mp hMem with hHead | hTail
        · exact hDiffers hHead.symm
        · exact hRest hTail
  · intro entry hMem
    obtain ⟨hReason', c', hLookup', hDue'⟩ := h.due entry (.tail _ hMem)
    have hDiffers : id ≠ entry.1 := by
      intro hSame
      have hThere : entry.1 ∈ rest.map Prod.fst := List.mem_map_of_mem hMem
      rw [← hSame] at hThere
      exact hNodup.1 hThere
    refine ⟨hReason', c', ?_, hDue'⟩
    rw [hAt, if_neg hDiffers]
    exact hLookup'
  · intro other before hBefore hNone
    rw [hAt] at hNone
    split at hNone
    · cases hNone
    · rw [DtmfRuntime.latestResult, hHolding.replies]
      exact h.lost other before hBefore hNone

/-- The first of the collectors has ended, and as its release was refused it has reported. -/
theorem refused (h : Batch env s heard ((id, code, reason) :: rest) t) {error : String}
    (hLookup : t.dtmf.collectors.lookup id = some collector)
    (hRefusal : releaseRefusal env t collector = some error)
    (hHolding : Holding t ((t.dtmf.collectors.adjust id (·.ended code reason)).erase id)
      (.result ((collector.ended code reason).outcome (.error error)) :: t.dtmf.replies) u) :
    Batch env s heard rest u := by
  obtain ⟨hReason, c, hLookup', hDue⟩ := h.due _ (.head _)
  obtain rfl : collector = c := Option.some.inj (hLookup.symm.trans hLookup')
  obtain ⟨hRegistered, old, hOld, hSpec, hSame, _⟩ := h.from_ id collector hLookup
  have hNodup := List.nodup_cons.mp h.nodup
  have hAt (other : CollectorId) : u.dtmf.collectors.lookup other =
      if id = other then none else t.dtmf.collectors.lookup other := by
    rw [hHolding.collectors, OrdMap.lookup_erase (h.ascending.adjust _ _), OrdMap.lookup_adjust]
    split <;> rfl
  have hOutcome : (collector.ended code reason).outcome (.error error) =
      failedOutcome collector.spec (heard id) error := by
    rw [DigitCollectorState.outcome, DigitCollectorState.ended, Option.getD_some, failedOutcome,
      ← hDue.kept]
  constructor
  · exact hHolding.call.trans h.call
  · exact hHolding.generation.trans h.generation
  · rw [hHolding.collectors]
    exact (h.ascending.adjust _ _).erase _
  · exact hNodup.2
  · intro other c' hOther
    rw [hAt] at hOther
    split at hOther
    · cases hOther
    · exact h.from_ other c' hOther
  · intro other c' hOther hRest
    rw [hAt] at hOther
    split at hOther
    · cases hOther
    · next hDiffers =>
        apply h.follows other c' hOther
        intro hMem
        rcases List.mem_cons.mp hMem with hHead | hTail
        · exact hDiffers hHead.symm
        · exact hRest hTail
  · intro entry hMem
    obtain ⟨hReason', c', hLookup'', hDue'⟩ := h.due entry (.tail _ hMem)
    have hDiffers : id ≠ entry.1 := by
      intro hSame
      have hThere : entry.1 ∈ rest.map Prod.fst := List.mem_map_of_mem hMem
      rw [← hSame] at hThere
      exact hNodup.1 hThere
    refine ⟨hReason', c', ?_, hDue'⟩
    rw [hAt, if_neg hDiffers]
    exact hLookup''
  · intro other before hBefore hNone
    rw [hAt] at hNone
    rw [DtmfRuntime.latestResult, hHolding.replies, hOutcome, List.findSome?_cons]
    split at hNone
    · next hHere =>
        subst hHere
        obtain rfl : old = before := Option.some.inj (hOld.symm.trans hBefore)
        have hRefused : releaseRefusal env s old = some error := by
          rw [← hSame, ← hRefusal, releaseRefusal, releaseRefusal, h.generation]
        refine ⟨hSpec ▸ hRegistered.valid, ⟨code, hSpec ▸ hDue.verdict⟩, error, hRefused, ?_⟩
        simp only [failedOutcome, hSpec ▸ hRegistered.own, if_true, hSpec]
    · next hDiffers =>
        have hForeign : (failedOutcome collector.spec (heard id) error).collectorId ≠ other := by
          rw [failedOutcome, hRegistered.own]
          exact hDiffers
        simp only [if_neg hForeign]
        exact h.lost other before hBefore hNone

/-- One collector is finished. -/
theorem finish (h : Batch env s heard ((id, code, reason) :: rest) t) :
    Post (finishDigitCollection id code reason) env t (fun _ => Batch env s heard rest)
      fun _ => False := by
  obtain ⟨_, c, hLookup, hDue⟩ := h.due _ (.head _)
  obtain ⟨hRegistered, _⟩ := h.from_ id c hLookup
  have hOnly : ∀ other c', t.dtmf.collectors.lookup other = some c' →
      c'.releaseActionId = c.releaseActionId → other = id := by
    intro other c' hOther hAction
    rw [(h.from_ other c' hOther).1.release, hRegistered.release] at hAction
    exact releaseActionIdOf_inj hAction
  apply (finish_post h.ascending hLookup hDue.active hRegistered.waited hOnly).mono
  · rintro _ u (⟨_, hHolding⟩ | ⟨error, hRefusal, hHolding⟩)
    · exact h.ended hHolding
    · exact h.refused hLookup hRefusal hHolding
  · exact fun _ hFalse => hFalse

/-- All of them are finished in turn. -/
theorem finishAll (h : Batch env s heard rest t) :
    Post (rest.forM fun entry => finishDigitCollection entry.1 entry.2.1 entry.2.2) env t
      (fun _ => Batch env s heard []) fun _ => False := by
  induction rest generalizing t with
  | nil => exact h
  | cons entry rest ih =>
      show Post (finishDigitCollection entry.1 entry.2.1 entry.2.2 >>= fun _ => rest.forM _) env
        t _ _
      rw [post_bind]
      apply h.finish.mono
      · exact fun _ u hu => ih hu
      · exact fun _ hFalse => hFalse.elim

end Batch

end Batch

end Coordinator

/-- The entries of a map that something is made of stand under different keys. -/
theorem nodup_filterMap_keys {κ υ β : Type} [LinearOrder κ] {m : OrdMap κ υ} (h : m.Ascending)
    (f : υ → Option β) :
    ((m.filterMap fun entry => (f entry.2).map fun b => (entry.1, b)).map Prod.fst).Nodup := by
  have hSublist : ((m.filterMap fun entry => (f entry.2).map fun b => (entry.1, b)).map
      Prod.fst).Sublist m.keys := by
    clear h
    induction m with
    | nil => exact .slnil
    | cons entry rest ih =>
        rw [List.filterMap_cons]
        cases f entry.2 with
        | none => exact .cons _ ih
        | some b => exact ih.cons_cons _
  exact (List.Pairwise.imp ne_of_lt h : m.keys.Nodup).sublist hSublist

namespace Coordinator

section Collect

variable {env : Env} {s : Coordinator} {heard : CollectorId → List DigitEvent} {event : DigitEvent}

/-- All collectors have heard the digit; the ones that it ends are not finished yet. -/
theorem batch_of_follows (hAscending : s.dtmf.collectors.Ascending)
    (hRegistered : ∀ id c, s.dtmf.collectors.lookup id = some c → c.Registered s.call.callId id)
    (hFollows : ∀ id c, s.dtmf.collectors.lookup id = some c → c.Follows (heard id)) :
    Batch env s (fun id => heard id ++ [event])
      (applyDigitToCollectors event (env.instant .collector) s.dtmf.collectors).1.completed
      { s with dtmf := { s.dtmf with collectors :=
        (applyDigitToCollectors event (env.instant .collector) s.dtmf.collectors).2 } } := by
  have hAt (id : CollectorId) :
      (applyDigitToCollectors event (env.instant .collector) s.dtmf.collectors).2.lookup id =
        (s.dtmf.collectors.lookup id).map fun c =>
          (c.applyDigit event (env.instant .collector)).2 := by
    rw [applyDigitToCollectors_snd, OrdMap.lookup_mapValues]
  rw [applyDigitToCollectors_completed]
  constructor
  · rfl
  · rfl
  · show Keyed.OrdMap.Ascending (applyDigitToCollectors _ _ _).2
    rw [applyDigitToCollectors_snd]
    exact hAscending.mapValues _
  · exact nodup_filterMap_keys hAscending fun c =>
      (c.applyDigit event (env.instant .collector)).1.ending
  · intro id c hLookup
    rw [hAt] at hLookup
    obtain ⟨before, hBefore, rfl⟩ := Option.map_eq_some_iff.mp hLookup
    obtain ⟨digits, first, inter, hFrame⟩ :=
      applyDigit_frame before event (env.instant .collector)
    have hOld := hRegistered id before hBefore
    rw [hFrame]
    exact ⟨⟨hOld.own, hOld.valid, hOld.release, hOld.waited, hOld.wanted⟩, before, hBefore, rfl,
      rfl, fun hActive => hActive⟩
  · intro id c hLookup hGoesOn
    rw [hAt] at hLookup
    obtain ⟨before, hBefore, rfl⟩ := Option.map_eq_some_iff.mp hLookup
    rcases (hFollows id before hBefore).hears event (env.instant .collector) with
      ⟨_, hNext⟩ | ⟨code, hEnding, _⟩
    · exact hNext
    · apply absurd _ hGoesOn
      rw [List.mem_map]
      refine ⟨(id, code, DigitCollectorState.endReason code), ?_, rfl⟩
      rw [List.mem_filterMap]
      exact ⟨(id, before), OrdMap.mem_of_lookup hBefore, by simp [hEnding]⟩
  · rintro ⟨id, code, reason⟩ hMem
    rw [List.mem_filterMap] at hMem
    obtain ⟨⟨id', before⟩, hEntry, hEnding⟩ := hMem
    have hBefore := OrdMap.lookup_of_mem hAscending hEntry
    rcases (hFollows id' before hBefore).hears event (env.instant .collector) with
      ⟨hNone, _⟩ | ⟨code', hCode, hDue⟩
    · rw [hNone] at hEnding
      cases hEnding
    · rw [hCode, Option.map_some, Option.some.injEq, Prod.mk.injEq, Prod.mk.injEq] at hEnding
      obtain ⟨rfl, rfl, rfl⟩ := hEnding
      refine ⟨rfl, (before.applyDigit event (env.instant .collector)).2, ?_, hDue⟩
      show OrdMap.lookup (applyDigitToCollectors _ _ _).2 _ = _
      rw [hAt, hBefore, Option.map_some]
  · intro id before hBefore hNone
    rw [hAt, hBefore] at hNone
    cases hNone

/-- A digit is offered to all collectors; the ones that it ends are finished. -/
theorem collectDigit_post (hAscending : s.dtmf.collectors.Ascending)
    (hRegistered : ∀ id c, s.dtmf.collectors.lookup id = some c → c.Registered s.call.callId id)
    (hFollows : ∀ id c, s.dtmf.collectors.lookup id = some c → c.Follows (heard id)) :
    Post (collectDigit event) env s (fun consumed t =>
      consumed = (s.dtmf.collectors.any fun entry => entry.2.collects event.sourceSessionId) ∧
        Batch env s (fun id => heard id ++ [event]) [] t) fun _ => False := by
  have hBatch := @batch_of_follows env s heard event hAscending hRegistered hFollows
  rw [collectDigit]
  simp only [post_bind, post_read, post_get]
  show Post (List.forM _ fun entry : CollectorId × DigitCollectionResultCode × Option String =>
    finishDigitCollection entry.1 entry.2.1 entry.2.2) env _ _ _
  apply hBatch.finishAll.mono
  · intro _ t ht
    exact ⟨applyDigitToCollectors_consume event _ _, ht.same rfl rfl rfl rfl⟩
  · exact fun _ hFalse => hFalse

end Collect

end Coordinator

namespace Coordinator

section Lifecycle

variable {env : Env} {s : Coordinator}

/-- A collection that starts is new under its id, or the collectors stay as they were. -/
def Begun (spec : DigitCollectionSpec) (s t : Coordinator) : Prop :=
  t.call = s.call ∧ (t.dtmf.collectors = s.dtmf.collectors ∨
    (spec.validate = .ok () ∧ s.dtmf.collectors.lookup spec.collectorId = none ∧
      ∃ collector : DigitCollectorState, collector.spec = spec ∧ collector.phase = .acquiring ∧
        collector.digits = [] ∧ collector.Registered s.call.callId spec.collectorId ∧
        (t.dtmf.collectors = s.dtmf.collectors.insert spec.collectorId collector ∨
          t.dtmf.collectors =
            (s.dtmf.collectors.insert spec.collectorId collector).erase spec.collectorId)))

theorem start_post (spec : DigitCollectionSpec) :
    Post (startDigitCollection spec) env s (fun _ => Begun spec s) fun _ => False := by
  rw [startDigitCollection, post_bind, post_get]
  split
  · exact ⟨rfl, .inl rfl⟩
  · next hValid =>
      have hSpec : spec.validate = .ok () := by
        rw [validateDigitCollection] at hValid
        split at hValid
        · cases hValid
        · next hOk => exact hOk
      have hFree := not_contains_of_validated (validated_of_validateDigitCollection hValid)
      have hNone := OrdMap.lookup_eq_none_of_not_contains (ne_true_of_eq_false hFree)
      have hNew : (DigitCollectorState.new spec (leaseIdOf s.call.callId spec.collectorId)
          s!"acquire-{leaseIdOf s.call.callId spec.collectorId}"
          (releaseActionIdOf s.call.callId spec.collectorId)).Registered s.call.callId
            spec.collectorId := ⟨rfl, hSpec, rfl, rfl, rfl⟩
      rw [post_bind]
      show Post (do
        let refusal ← offerMedia _
        Proc.whenSome refusal fun error => failDigitCollectionStart spec.collectorId error) env
          { s with dtmf := { s.dtmf with
            collectors := s.dtmf.collectors.insert spec.collectorId (DigitCollectorState.new spec
              (leaseIdOf s.call.callId spec.collectorId)
              s!"acquire-{leaseIdOf s.call.callId spec.collectorId}"
              (releaseActionIdOf s.call.callId spec.collectorId)) } } _ _
      rw [post_bind]
      apply post_offer
      · intro _
        exact ⟨rfl, .inr ⟨hSpec, hNone, _, rfl, rfl, rfl, hNew, .inl rfl⟩⟩
      · intro error _
        show Post (failDigitCollectionStart spec.collectorId error) env _ _ _
        apply failStart_post.mono
        · rintro _ t ⟨hCall, ⟨_, hMissing⟩ | hErased⟩
          · rw [OrdMap.lookup_insert_self] at hMissing
            cases hMissing
          · exact ⟨hCall, .inr ⟨hSpec, hNone, _, rfl, rfl, rfl, hNew, .inr hErased⟩⟩
        · exact fun _ hFalse => hFalse

/-- A collector whose lease has come is active, one whose lease does not come is taken out. -/
def Acquired (env : Env) (s t : Coordinator) : Prop :=
  t.call = s.call ∧ (t.dtmf.collectors = s.dtmf.collectors ∨
    ∃ id collector, s.dtmf.collectors.lookup id = some collector ∧ collector.phase = .acquiring ∧
      (t.dtmf.collectors = s.dtmf.collectors.erase id ∨
        t.dtmf.collectors = s.dtmf.collectors.adjust id fun collector =>
          ({ collector with readyReply := false } : DigitCollectorState).activate
            (env.instant .collector)))

theorem acquired_post (actionId : String) (result : Except String DtmfCapabilityReady)
    (hAscending : s.dtmf.collectors.Ascending)
    (hWanted : ∀ id c, s.dtmf.collectors.lookup id = some c → c.cancelRequested = false) :
    Post (handleDtmfCapabilityAcquired actionId result) env s (fun _ => Acquired env s)
      fun _ => False := by
  rw [handleDtmfCapabilityAcquired, post_bind, post_read, post_bind, post_get]
  split
  · exact ⟨rfl, .inl rfl⟩
  · next id collector hFound =>
      have hLookup := OrdMap.lookup_of_mem hAscending (List.mem_of_find?_eq_some hFound)
      have hPhase := List.find?_some hFound
      simp only [Bool.and_eq_true, decide_eq_true_eq] at hPhase
      have hFail (error : String) : Post (failDigitCollectionStart id error) env s
          (fun _ => Acquired env s) fun _ => False := by
        apply failStart_post.mono
        · rintro _ t ⟨hCall, ⟨hSame, _⟩ | hErased⟩
          · exact ⟨hCall, .inl hSame⟩
          · exact ⟨hCall, .inr ⟨id, collector, hLookup, hPhase.1, .inl hErased⟩⟩
        · exact fun _ hFalse => hFalse
      split
      · exact hFail _
      · rw [post_ite]
        split
        · exact hFail _
        · simp only [post_bind, post_when, hWanted id collector hLookup, Bool.false_eq_true,
            if_false]
          constructor
          · intro _
            exact ⟨rfl, .inr ⟨id, collector, hLookup, hPhase.1, .inr rfl⟩⟩
          · intro _
            exact ⟨rfl, .inr ⟨id, collector, hLookup, hPhase.1, .inr rfl⟩⟩

end Lifecycle

end Coordinator

/-- A collection whose collector is gone. -/
structure Report where
  spec : DigitCollectionSpec
  /-- What came since the collector became active, from any source. -/
  heard : List DigitEvent
  releaseFailed : Bool
  outcome : Option DigitCollectionOutcome

/-- A coordinator as its collectors see it. -/
structure Gathering where
  coordinator : Coordinator
  /-- What came since the collector of this id became active, from any source. -/
  heard : CollectorId → List DigitEvent
  reports : List Report

namespace Gathering

/-- What happens while nothing times out and no collection is given up. -/
inductive Act where
  | start (env : Env) (spec : DigitCollectionSpec)
  | acquired (env : Env) (actionId : String) (result : Except String DtmfCapabilityReady)
  | released (env : Env) (actionId : String) (result : Except String Nat)
  | digit (env : Env) (event : DigitEvent)
  /-- Anything that does not touch the collectors. -/
  | elsewhere (next : Coordinator)

def Act.next (s : Coordinator) : Act → Coordinator
  | .start env spec => (Coordinator.startDigitCollection spec).final env s
  | .acquired env actionId result =>
    (Coordinator.handleDtmfCapabilityAcquired actionId result).final env s
  | .released env actionId result =>
    (Coordinator.handleDtmfCapabilityReleased actionId result).final env s
  | .digit env event => (Coordinator.collectDigit event).final env s
  | .elsewhere next => next

def Act.events : Act → List DigitEvent
  | .digit _ event => [event]
  | _ => []

/-- The media worker does not release the collector's lease. -/
def Act.releaseFails (s : Coordinator) (collector : DigitCollectorState) : Act → Bool
  | .released _ _ (.error _) => true
  | .digit env _ => (Coordinator.releaseRefusal env s collector).isSome
  | _ => false

def isActive (s : Coordinator) (id : CollectorId) : Bool :=
  (s.dtmf.collectors.lookup id).any (·.phase = .active)

/-- What a collector has heard starts anew when it becomes active. -/
def heardAfter (g : Gathering) (act : Act) (id : CollectorId) : List DigitEvent :=
  if isActive (act.next g.coordinator) id ∧ ¬ isActive g.coordinator id then []
  else g.heard id ++ act.events

/-- The collections that were active before the act and are gone after it. -/
def reported (g : Gathering) (act : Act) : List Report :=
  (g.coordinator.dtmf.collectors.filter fun entry =>
    entry.2.phase ≠ .acquiring && !(act.next g.coordinator).dtmf.collectors.contains entry.1).map
    fun entry =>
      { spec := entry.2.spec
        heard := g.heardAfter act entry.1
        releaseFailed := act.releaseFails g.coordinator entry.2
        outcome := (act.next g.coordinator).dtmf.latestResult entry.1 }

def step (g : Gathering) (act : Act) : Gathering where
  coordinator := act.next g.coordinator
  heard := g.heardAfter act
  reports := g.reports ++ g.reported act

def admissible (g : Gathering) : Act → Prop
  | .elsewhere next => next.dtmf.collectors = g.coordinator.dtmf.collectors ∧
      next.call.callId = g.coordinator.call.callId
  | _ => True

/-- At first there is no collector. -/
def system : Transition.System Gathering Act where
  init g := g.coordinator.dtmf.collectors = [] ∧ g.reports = []
  next g act g' := g.admissible act ∧ g' = g.step act

end Gathering

/-- The report says what the collection heard: its digits are those that count, and it completed or
failed as they say, unless its lease was not released. -/
structure Report.Faithful (r : Report) : Prop where
  ended : r.spec.Full (r.spec.own r.heard) ∨ r.spec.Terminated (r.spec.own r.heard)
  result : ∃ outcome, r.outcome = some outcome ∧
    outcome.digits = r.spec.gathered (r.spec.own r.heard) ∧
    (r.releaseFailed = false →
      (outcome.code = .completed ↔ r.spec.Full (r.spec.own r.heard) ∨
        (r.spec.Terminated (r.spec.own r.heard) ∧
          r.spec.minDigits ≤ (r.spec.gathered (r.spec.own r.heard)).length)) ∧
      (outcome.code = .failed ↔ r.spec.Terminated (r.spec.own r.heard) ∧
        (r.spec.gathered (r.spec.own r.heard)).length < r.spec.minDigits)) ∧
    (r.releaseFailed = true → outcome.code = .failed ∧
      ∃ error : String, outcome.reason = some s!"capability_release_failed:{error}")

theorem Report.faithful_of_verdict {r : Report} {code : DigitCollectionResultCode}
    {outcome : DigitCollectionOutcome} (hValid : r.spec.validate = .ok ())
    (hVerdict : r.spec.verdict (r.spec.own r.heard) = some code)
    (hOutcome : r.outcome = some outcome)
    (hDigits : outcome.digits = r.spec.gathered (r.spec.own r.heard))
    (hReleased : r.releaseFailed = false → outcome.code = code)
    (hFailed : r.releaseFailed = true → outcome.code = .failed ∧
      ∃ error : String, outcome.reason = some s!"capability_release_failed:{error}") :
        r.Faithful := by
  refine ⟨DigitCollectionSpec.ended_of_verdict hVerdict, outcome, hOutcome, hDigits, ?_, hFailed⟩
  intro hDone
  rw [hReleased hDone, ← DigitCollectionSpec.verdict_completed,
    ← DigitCollectionSpec.verdict_failed hValid, hVerdict, Option.some.injEq, Option.some.injEq]
  exact ⟨Iff.rfl, Iff.rfl⟩

namespace Gathering

open DigitCollectorState (Registered Follows)

/-- Every collector follows the digits of its source, and all reports are faithful. -/
structure Kept (g : Gathering) : Prop where
  ascending : g.coordinator.dtmf.collectors.Ascending
  registered : ∀ id c, g.coordinator.dtmf.collectors.lookup id = some c →
    c.Registered g.coordinator.call.callId id
  follows : ∀ id c, g.coordinator.dtmf.collectors.lookup id = some c → c.Follows (g.heard id)
  reports : ∀ r ∈ g.reports, r.Faithful

variable {g : Gathering} {act : Act} {id : CollectorId} {c : DigitCollectorState}

/-- A collector that was not activated just now has heard what came before, and the digit. -/
theorem heardAfter_of_active
    (h : isActive (act.next g.coordinator) id → isActive g.coordinator id) :
    g.heardAfter act id = g.heard id ++ act.events := by
  rw [heardAfter, if_neg]
  rintro ⟨hNow, hBefore⟩
  exact hBefore (h hNow)

/-- Without a digit a collector that stays as it is hears nothing. -/
theorem heardAfter_quiet (hEvents : act.events = [])
    (h : (act.next g.coordinator).dtmf.collectors.lookup id =
      g.coordinator.dtmf.collectors.lookup id) : g.heardAfter act id = g.heard id := by
  have hKept : isActive (act.next g.coordinator) id → isActive g.coordinator id := by
    rw [isActive, isActive, h]
    exact fun hActive => hActive
  rw [heardAfter_of_active hKept, hEvents, List.append_nil]

namespace Kept

theorem init (h : system.init g) : g.Kept := by
  obtain ⟨hNone, hReports⟩ := h
  constructor
  · rw [hNone]
    exact .nil
  · intro id c hLookup
    rw [hNone] at hLookup
    cases hLookup
  · intro id c hLookup
    rw [hNone] at hLookup
    cases hLookup
  · rw [hReports]
    intro r hMem
    cases hMem

/-- What is left to show of an act. -/
theorem step_of (h : g.Kept) (hAscending : (act.next g.coordinator).dtmf.collectors.Ascending)
    (hCallId : (act.next g.coordinator).call.callId = g.coordinator.call.callId)
    (hThere : ∀ id c, (act.next g.coordinator).dtmf.collectors.lookup id = some c →
      c.Registered g.coordinator.call.callId id ∧ c.Follows (g.heardAfter act id))
    (hGone : ∀ id c, g.coordinator.dtmf.collectors.lookup id = some c → c.phase ≠ .acquiring →
      (act.next g.coordinator).dtmf.collectors.lookup id = none →
      Report.Faithful
        { spec := c.spec, heard := g.heardAfter act id
          releaseFailed := act.releaseFails g.coordinator c
          outcome := (act.next g.coordinator).dtmf.latestResult id }) : (g.step act).Kept := by
  constructor
  · exact hAscending
  · intro id c hLookup
    show c.Registered (act.next g.coordinator).call.callId id
    rw [hCallId]
    exact (hThere id c hLookup).1
  · exact fun id c hLookup => (hThere id c hLookup).2
  · intro r hMem
    rcases List.mem_append.mp hMem with hOld | hNew
    · exact h.reports r hOld
    · obtain ⟨⟨id, c⟩, hEntry, rfl⟩ := List.mem_map.mp hNew
      obtain ⟨hBefore, hEnded⟩ := List.mem_filter.mp hEntry
      simp only [Bool.and_eq_true, decide_eq_true_eq, Bool.not_eq_true'] at hEnded
      have hNone := OrdMap.lookup_eq_none_of_not_contains (ne_true_of_eq_false hEnded.2)
      exact hGone id c (OrdMap.lookup_of_mem h.ascending hBefore) hEnded.1 hNone

/-- An act that leaves the collectors as they are. -/
theorem step_same (h : g.Kept) (hCallId : (act.next g.coordinator).call.callId =
      g.coordinator.call.callId) (hEvents : act.events = [])
    (hSame : ∀ id, (act.next g.coordinator).dtmf.collectors.lookup id =
      g.coordinator.dtmf.collectors.lookup id)
    (hAscending : (act.next g.coordinator).dtmf.collectors.Ascending) : (g.step act).Kept := by
  apply h.step_of hAscending hCallId
  · intro id c hLookup
    rw [heardAfter_quiet hEvents (hSame id)]
    rw [hSame] at hLookup
    exact ⟨h.registered id c hLookup, h.follows id c hLookup⟩
  · intro id c hLookup _ hNone
    rw [hSame, hLookup] at hNone
    cases hNone

/-- An act after which a collector that was not active is gone, and reports nothing. -/
theorem step_erased (h : g.Kept) {gone : CollectorId} {old : DigitCollectorState}
    (hOld : g.coordinator.dtmf.collectors.lookup gone = some old) (hPhase : old.phase = .acquiring)
    (hCallId : (act.next g.coordinator).call.callId = g.coordinator.call.callId)
    (hEvents : act.events = []) (hErased : (act.next g.coordinator).dtmf.collectors =
      g.coordinator.dtmf.collectors.erase gone) : (g.step act).Kept := by
  have hAt (id : CollectorId) : (act.next g.coordinator).dtmf.collectors.lookup id =
      if gone = id then none else g.coordinator.dtmf.collectors.lookup id := by
    rw [hErased, OrdMap.lookup_erase h.ascending]
  apply h.step_of
  · rw [hErased]
    exact h.ascending.erase _
  · exact hCallId
  · intro id c hLookup
    have hSame : (act.next g.coordinator).dtmf.collectors.lookup id =
        g.coordinator.dtmf.collectors.lookup id := by
      rw [hAt] at hLookup ⊢
      split at hLookup
      · cases hLookup
      · next hDiffers => rw [if_neg hDiffers]
    rw [heardAfter_quiet hEvents hSame]
    rw [hSame] at hLookup
    exact ⟨h.registered id c hLookup, h.follows id c hLookup⟩
  · intro id c hLookup hReported hNone
    rw [hAt] at hNone
    split at hNone
    · next hHere =>
        rw [hHere, hLookup] at hOld
        rw [Option.some.inj hOld] at hReported
        exact (hReported hPhase).elim
    · rw [hLookup] at hNone
      cases hNone

/-- A collection starts. -/
theorem start (h : g.Kept) (env : Env) (spec : DigitCollectionSpec) :
    (g.step (.start env spec)).Kept := by
  obtain ⟨hCall, hCollectors⟩ : Coordinator.Begun spec g.coordinator
      (Act.next g.coordinator (.start env spec)) := (Coordinator.start_post spec).final_of_total
  have hCallId : (Act.next g.coordinator (.start env spec)).call.callId =
      g.coordinator.call.callId := by rw [hCall]
  rcases hCollectors with hSame | ⟨_, hNone, c, hSpec, hPhase, hDigits, hRegistered, hNew⟩
  · apply h.step_same hCallId rfl
    · rw [hSame]
      exact fun _ => rfl
    · rw [hSame]
      exact h.ascending
  · rcases hNew with hInserted | hErased
    · -- The new collector waits for its lease; the others are as before.
      have hAt (id : CollectorId) :
          (Act.next g.coordinator (.start env spec)).dtmf.collectors.lookup id =
            if spec.collectorId = id then some c
            else g.coordinator.dtmf.collectors.lookup id := by
        rw [hInserted, OrdMap.lookup_insert]
      apply h.step_of
      · rw [show (Act.next g.coordinator (.start env spec)).dtmf.collectors = _ from hInserted]
        exact h.ascending.insert _ _
      · exact hCallId
      · intro id c' hLookup
        rw [hAt] at hLookup
        split at hLookup
        · next hHere =>
            rw [← Option.some.inj hLookup, ← hHere]
            refine ⟨hRegistered, ?_⟩
            rw [Follows, hPhase]
            exact hDigits
        · next hDiffers =>
            have hSame := hAt id
            rw [if_neg hDiffers] at hSame
            rw [heardAfter_quiet rfl hSame]
            exact ⟨h.registered id c' hLookup, h.follows id c' hLookup⟩
      · intro id old hOld _ hGone
        rw [hAt] at hGone
        split at hGone
        · cases hGone
        · rw [hOld] at hGone
          cases hGone
    · apply h.step_same hCallId rfl
      · intro id
        rw [hErased, OrdMap.lookup_erase (h.ascending.insert _ _), OrdMap.lookup_insert]
        split
        · next hHere => rw [← hHere, hNone]
        · rfl
      · rw [hErased]
        exact (h.ascending.insert _ _).erase _

/-- The lease of a collector comes. -/
theorem acquired (h : g.Kept) (env : Env) (actionId : String)
    (result : Except String DtmfCapabilityReady) :
    (g.step (.acquired env actionId result)).Kept := by
  obtain ⟨hCall, hCollectors⟩ : Coordinator.Acquired env g.coordinator
      (Act.next g.coordinator (.acquired env actionId result)) :=
    (Coordinator.acquired_post actionId result h.ascending fun id c hLookup =>
      (h.registered id c hLookup).wanted).final_of_total
  have hCallId : (Act.next g.coordinator (.acquired env actionId result)).call.callId =
      g.coordinator.call.callId := by rw [hCall]
  rcases hCollectors with hSame | ⟨old, before, hOld, hPhase, hErased | hActive⟩
  · apply h.step_same hCallId rfl
    · rw [hSame]
      exact fun _ => rfl
    · rw [hSame]
      exact h.ascending
  · exact h.step_erased hOld hPhase hCallId rfl hErased
  · -- The collector starts to listen; it has heard nothing so far.
    have hAt (id : CollectorId) :
        (Act.next g.coordinator (.acquired env actionId result)).dtmf.collectors.lookup id =
          if old = id then some (({ before with readyReply := false } :
            DigitCollectorState).activate (env.instant .collector))
          else g.coordinator.dtmf.collectors.lookup id := by
      rw [hActive, OrdMap.lookup_adjust]
      split
      · rw [hOld]
        rfl
      · rfl
    have hEmpty : before.digits = [] := by
      have hFollows := h.follows old before hOld
      rw [Follows, hPhase] at hFollows
      exact hFollows
    have hRegistered := h.registered old before hOld
    apply h.step_of
    · rw [show (Act.next g.coordinator (.acquired env actionId result)).dtmf.collectors = _ from
        hActive]
      exact h.ascending.adjust _ _
    · exact hCallId
    · intro id c' hLookup
      rw [hAt] at hLookup
      split at hLookup
      · next hHere =>
          subst hHere
          have hHeard : g.heardAfter (.acquired env actionId result) old = [] := by
            rw [heardAfter, if_pos]
            rw [isActive, isActive, hAt, if_pos rfl, hOld]
            simp [DigitCollectorState.activate, hPhase]
          rw [hHeard, ← Option.some.inj hLookup]
          refine ⟨⟨hRegistered.own, hRegistered.valid, hRegistered.release, hRegistered.waited,
            hRegistered.wanted⟩, ?_⟩
          show DigitCollectorState.Gathers _ _
          exact DigitCollectorState.gathers_nil hRegistered.valid hEmpty
      · next hDiffers =>
          have hSame := hAt id
          rw [if_neg hDiffers] at hSame
          rw [heardAfter_quiet rfl hSame]
          exact ⟨h.registered id c' hLookup, h.follows id c' hLookup⟩
    · intro id c' hThere _ hGone
      rw [hAt] at hGone
      split at hGone
      · cases hGone
      · rw [hThere] at hGone
        cases hGone

/-- A collector that is gone has heard the digit too. -/
theorem heardAfter_of_gone (hGone : (act.next g.coordinator).dtmf.collectors.lookup id = none) :
    g.heardAfter act id = g.heard id ++ act.events := by
  apply heardAfter_of_active
  rw [isActive, hGone]
  exact fun hActive => by cases hActive

/-- A collector that waited for its release reports what it has kept. -/
theorem reported_released (h : g.Kept) {env : Env} {actionId : String}
    {result : Except String Nat} (hLookup : g.coordinator.dtmf.collectors.lookup id = some c)
    (hPhase : c.phase = .releasing)
    (hGone : (Act.next g.coordinator (.released env actionId result)).dtmf.collectors.lookup id =
      none)
    (hReplies : (Act.next g.coordinator (.released env actionId result)).dtmf.replies =
      .result (c.outcome result) :: g.coordinator.dtmf.replies) :
    Report.Faithful
      { spec := c.spec, heard := g.heardAfter (.released env actionId result) id
        releaseFailed := Act.releaseFails g.coordinator c (.released env actionId result)
        outcome := (Act.next g.coordinator (.released env actionId result)).dtmf.latestResult
          id } := by
  have hRegistered := h.registered id c hLookup
  obtain ⟨code, hVerdict, hPending⟩ : ∃ code, _ ∧ _ := by
    have hFollows := h.follows id c hLookup
    rw [Follows, hPhase] at hFollows
    exact hFollows
  have hHeard : g.heardAfter (.released env actionId result) id = g.heard id := by
    rw [heardAfter_of_gone hGone]
    exact List.append_nil _
  have hOutcome : (c.outcome result).collectorId = id ∧
      (c.outcome result).digits = c.spec.gathered (c.spec.own (g.heard id)) := by
    cases result <;> simp [DigitCollectorState.outcome, hPending, hRegistered.own]
  have hLatest : (Act.next g.coordinator (.released env actionId result)).dtmf.latestResult id =
      some (c.outcome result) := by
    rw [DtmfRuntime.latestResult, hReplies, List.findSome?_cons]
    simp only [hOutcome.1, if_true]
  apply Report.faithful_of_verdict hRegistered.valid
  · show c.spec.verdict (c.spec.own (g.heardAfter _ id)) = some code
    rw [hHeard]
    exact hVerdict
  · exact hLatest
  · rw [hHeard]
    exact hOutcome.2
  · cases result with
    | ok generation =>
        intro _
        simp [DigitCollectorState.outcome, hPending]
    | error error => exact fun hReleased => by cases hReleased
  · cases result with
    | ok generation => exact fun hFailed => by cases hFailed
    | error error =>
        intro _
        exact ⟨rfl, error, rfl⟩

/-- The lease of a collector is released. -/
theorem released (h : g.Kept) (env : Env) (actionId : String) (result : Except String Nat) :
    (g.step (.released env actionId result)).Kept := by
  cases hFound : g.coordinator.dtmf.collectors.find? fun entry =>
      entry.2.phase = .releasing && entry.2.releaseActionId = actionId with
  | none =>
      have hHolding : Coordinator.Holding g.coordinator _ _
          (Act.next g.coordinator (.released env actionId result)) :=
        (Coordinator.released_unknown hFound).final_of_total
      apply h.step_same _ rfl
      · intro id
        exact congrArg (OrdMap.lookup · id) hHolding.collectors
      · rw [show (Act.next g.coordinator (.released env actionId result)).dtmf.collectors = _ from
          hHolding.collectors]
        exact h.ascending
      · exact congrArg CallRuntime.callId hHolding.call
  | some entry =>
      obtain ⟨id, c⟩ := entry
      have hLookup := OrdMap.lookup_of_mem h.ascending (List.mem_of_find?_eq_some hFound)
      have hPhase := List.find?_some hFound
      simp only [Bool.and_eq_true, decide_eq_true_eq] at hPhase
      have hRegistered := h.registered id c hLookup
      have hHolding : Coordinator.Holding g.coordinator _ _
          (Act.next g.coordinator (.released env actionId result)) :=
        (Coordinator.released_post hFound hRegistered.waited).final_of_total
      have hAt (other : CollectorId) :
          (Act.next g.coordinator (.released env actionId result)).dtmf.collectors.lookup other =
            if id = other then none else g.coordinator.dtmf.collectors.lookup other := by
        rw [hHolding.collectors, OrdMap.lookup_erase h.ascending]
      apply h.step_of
      · rw [hHolding.collectors]
        exact h.ascending.erase _
      · rw [hHolding.call]
      · intro other c' hOther
        have hSame := hAt other
        rw [hAt] at hOther
        split at hOther
        · cases hOther
        · next hDiffers =>
            rw [if_neg hDiffers] at hSame
            rw [heardAfter_quiet rfl hSame]
            exact ⟨h.registered other c' hOther, h.follows other c' hOther⟩
      · intro other c' hThere _ hGone
        rw [hAt] at hGone
        split at hGone
        · next hHere =>
            subst hHere
            have hGoneHere := (hAt id).trans (if_pos rfl)
            obtain rfl : c = c' := Option.some.inj (hLookup.symm.trans hThere)
            exact h.reported_released hLookup hPhase.1 hGoneHere hHolding.replies
        · rw [hThere] at hGone
          cases hGone

/-- All collectors hear a digit. -/
theorem digit (h : g.Kept) (env : Env) (event : DigitEvent) : (g.step (.digit env event)).Kept := by
  have hBatch : Coordinator.Batch env g.coordinator (fun id => g.heard id ++ [event]) []
      (Act.next g.coordinator (.digit env event)) := by
    apply Post.final_of_total
    apply (Coordinator.collectDigit_post h.ascending h.registered h.follows).mono
    · exact fun _ _ ht => ht.2
    · exact fun _ hFalse => hFalse
  have hHeard (id : CollectorId) : g.heardAfter (.digit env event) id = g.heard id ++ [event] := by
    apply heardAfter_of_active
    rw [isActive, isActive]
    cases hNow : (Act.next g.coordinator (.digit env event)).dtmf.collectors.lookup id with
    | none => exact fun hActive => by cases hActive
    | some c =>
        obtain ⟨_, before, hBefore, _, _, hActive⟩ := hBatch.from_ id c hNow
        rw [hBefore]
        simpa using hActive
  apply h.step_of
  · exact hBatch.ascending
  · rw [hBatch.call]
  · intro id c hLookup
    rw [hHeard]
    exact ⟨(hBatch.from_ id c hLookup).1, hBatch.follows id c hLookup List.not_mem_nil⟩
  · intro id c hLookup _ hGone
    obtain ⟨hValid, ⟨code, hVerdict⟩, error, hRefusal, hLatest⟩ := hBatch.lost id c hLookup hGone
    apply Report.faithful_of_verdict hValid
    · show c.spec.verdict (c.spec.own (g.heardAfter _ id)) = some code
      rw [hHeard]
      exact hVerdict
    · exact hLatest
    · rw [hHeard]
      rfl
    · intro hReleased
      rw [Act.releaseFails, hRefusal] at hReleased
      cases hReleased
    · exact fun _ => ⟨rfl, error, rfl⟩

theorem step (h : g.Kept) (hAdmissible : g.admissible act) : (g.step act).Kept := by
  cases act with
  | start env spec => exact h.start env spec
  | acquired env actionId result => exact h.acquired env actionId result
  | released env actionId result => exact h.released env actionId result
  | digit env event => exact h.digit env event
  | elsewhere next =>
      have hCallId : (Act.next g.coordinator (.elsewhere next)).call.callId =
          g.coordinator.call.callId := hAdmissible.2
      apply h.step_same hCallId rfl
      · intro id
        exact congrArg (OrdMap.lookup · id) hAdmissible.1
      · exact (congrArg OrdMap.Ascending hAdmissible.1).mpr h.ascending

theorem of_reachable (h : Transition.Reachable system g) : g.Kept := by
  apply h.invariant
  · exact fun _ hInit => init hInit
  · rintro g act _ hKept ⟨hAdmissible, rfl⟩
    exact hKept.step hAdmissible

end Kept

/-- In every run without timeouts and without collections that are given up: a digit is consumed if
and only if an active collector of its source collects; an active collector has the digits that
count and has not ended; one that has ended waits with what its digits say, and reports that when
its lease is released. Where the release fails it reports a failure instead. -/
theorem collections_as_heard {g : Gathering} (h : Transition.Reachable system g) :
    (∀ env event, (Coordinator.collectDigit event env g.coordinator).1 = .ok true ↔
      ∃ id c, g.coordinator.dtmf.collectors.lookup id = some c ∧ c.phase = .active ∧
        c.spec.mode = .collect ∧ c.spec.sourceSessionId = event.sourceSessionId) ∧
    (∀ id c, g.coordinator.dtmf.collectors.lookup id = some c →
      (c.phase = .active → c.digits = c.spec.gathered (c.spec.own (g.heard id)) ∧
        ¬ c.spec.Full (c.spec.own (g.heard id)) ∧ ¬ c.spec.Terminated (c.spec.own (g.heard id))) ∧
      (c.phase = .releasing → Report.Faithful
        { spec := c.spec, heard := g.heard id, releaseFailed := false
          outcome := c.pendingOutcome })) ∧
    ∀ r ∈ g.reports, r.Faithful := by
  have hKept := Kept.of_reachable h
  refine ⟨?_, ?_, hKept.reports⟩
  · intro env event
    have hPost := @Coordinator.collectDigit_post env g.coordinator g.heard event hKept.ascending
      hKept.registered hKept.follows
    obtain ⟨consumed, t, hReturned, hConsumed, _⟩ := hPost.returns
    rw [show (Coordinator.collectDigit event env g.coordinator).1 = .ok consumed from
      congrArg Prod.fst hReturned, Except.ok.injEq, hConsumed, List.any_eq_true]
    simp only [DigitCollectorState.collects, Bool.and_eq_true, decide_eq_true_eq]
    constructor
    · rintro ⟨⟨id, c⟩, hMem, ⟨hActive, hMode⟩, hSource⟩
      exact ⟨id, c, OrdMap.lookup_of_mem hKept.ascending hMem, hActive, hMode, hSource⟩
    · rintro ⟨id, c, hLookup, hActive, hMode, hSource⟩
      exact ⟨(id, c), OrdMap.mem_of_lookup hLookup, ⟨hActive, hMode⟩, hSource⟩
  · intro id c hLookup
    have hFollows := hKept.follows id c hLookup
    constructor
    · intro hActive
      rw [Follows, hActive] at hFollows
      exact ⟨hFollows.kept, DigitCollectionSpec.verdict_none.mp hFollows.goesOn⟩
    · intro hReleasing
      rw [Follows, hReleasing] at hFollows
      obtain ⟨code, hVerdict, hPending⟩ := hFollows
      apply Report.faithful_of_verdict (hKept.registered id c hLookup).valid hVerdict hPending rfl
      · exact fun _ => rfl
      · exact fun hFailed => by cases hFailed

section Runs

open Coordinator (takingEnv)

/-- The state that a list of acts leads a call to that has no collectors yet. -/
def run (coordinator : Coordinator) (acts : List Act) : Gathering :=
  acts.foldl step { coordinator, heard := fun _ => [], reports := [] }

/-- Acts of the handlers take place in any state. -/
theorem reachable_run {coordinator : Coordinator} {acts : List Act}
    (hNone : coordinator.dtmf.collectors = [])
    (hActs : ∀ act ∈ acts, ∀ next, act ≠ .elsewhere next) :
    Transition.Reachable system (run coordinator acts) := by
  have hRuns (acts : List Act) (hActs : ∀ act ∈ acts, ∀ next, act ≠ .elsewhere next)
      (g : Gathering) : Transition.Runs system g (acts.foldl step g) := by
    induction acts generalizing g with
    | nil => exact .refl
    | cons act acts ih =>
        have hAllowed : g.admissible act := by
          cases act with
          | elsewhere next => exact (hActs _ (.head _) next rfl).elim
          | _ => trivial
        have hFirst : Transition.Runs system g (g.step act) := .step .refl trivial ⟨hAllowed, rfl⟩
        exact hFirst.trans (ih (fun act hMem => hActs act (.tail _ hMem)) (g.step act))
  exact ⟨_, ⟨hNone, rfl⟩, hRuns acts hActs _⟩

/-- Up to two digits of the caller, ended by the pound sign. -/
def twoDigits : DigitCollectionSpec where
  collectorId := "pin"
  owner := "menu"
  sourceSessionId := "session-c-caller"
  mode := .collect
  allowed := [.d1, .d2, .pound]
  minDigits := 1
  maxDigits := 2
  terminators := [.pound]
  firstDigitTimeoutMs := 5000
  interDigitTimeoutMs := 3000
  overallTimeoutMs := 30000

def pressed (digit : DtmfDigit) (timestamp : Nat) : DigitEvent where
  eventId := .rfc4733 1 "session-c-caller" 7 timestamp 1
  domainId := "d"
  callId := "c"
  sourceSessionId := "session-c-caller"
  sourceMediaLegId := none
  digit := digit
  transport := .rfc4733
  durationMs := 100
  observedAtMs := 1000
  sourceGeneration := .media 1
  incompleteEnd := false

/-- A digit and the terminator are collected, and the release of the lease has this result. -/
def oneDigitCollected (result : Except String Nat) : List Act :=
  [.start takingEnv twoDigits,
    .acquired takingEnv "acquire-dtmf-collector-c-pin" (.ok
      { leaseId := "dtmf-collector-c-pin", sourceSessionId := "session-c-caller"
        mediaGeneration := 1 }),
    .digit takingEnv (pressed .d1 160), .digit takingEnv (pressed .pound 320),
    .released takingEnv "release-dtmf-collector-c-pin" result]

theorem oneDigitCollected_handled (result : Except String Nat) :
    ∀ act ∈ oneDigitCollected result, ∀ next, act ≠ .elsewhere next := by
  intro act hMem next hElsewhere
  subst hElsewhere
  simp [oneDigitCollected] at hMem

/-- A collection that was reported after a run of an answered call. -/
theorem reported_of_run {result : Except String Nat} (P : Report → Bool)
    (h : (DigitWorld.answeredCoordinator.any fun s => s.dtmf.collectors.isEmpty &&
      (run s (oneDigitCollected result)).reports.any P) = true) :
    ∃ g, Transition.Reachable system g ∧ ∃ r ∈ g.reports, P r = true := by
  obtain ⟨s, _, hRun⟩ := (Option.any_eq_true ..).mp h
  obtain ⟨hNone, hReports⟩ := (Bool.and_eq_true ..).mp hRun
  exact ⟨_, reachable_run (List.isEmpty_iff.mp hNone) (oneDigitCollected_handled result),
    List.any_eq_true.mp hReports⟩

theorem collections_as_heard_completed :
    ∃ g : Gathering, ∃ r ∈ g.reports, r.outcome = some
        { collectorId := "pin", code := .completed, digits := [.d1], reason := none } ∧
      r.Faithful := by
  obtain ⟨g, hReached, r, hMem, hOutcome⟩ := @reported_of_run (.ok 1) (fun r => r.outcome = some
    { collectorId := "pin", code := .completed, digits := [.d1], reason := none })
    (by decide)
  exact ⟨g, r, hMem, of_decide_eq_true hOutcome, (collections_as_heard hReached).2.2 r hMem⟩

/-- A collection with enough digits reports a failure when its lease cannot be released. -/
theorem completed_collection_fails :
    ¬ ∀ g, Transition.Reachable system g → ∀ r ∈ g.reports, ∃ outcome, r.outcome = some outcome ∧
      (outcome.code = .completed ↔ r.spec.Full (r.spec.own r.heard) ∨
        (r.spec.Terminated (r.spec.own r.heard) ∧
          r.spec.minDigits ≤ (r.spec.gathered (r.spec.own r.heard)).length)) := by
  intro hAll
  obtain ⟨g, hReached, r, hMem, hFails⟩ := @reported_of_run (.error "no bridge")
    (fun r => r.outcome.all (·.code = .failed) && decide (r.spec.Terminated (r.spec.own r.heard) ∧
      r.spec.minDigits ≤ (r.spec.gathered (r.spec.own r.heard)).length)) (by decide)
  obtain ⟨outcome, hOutcome, hCode⟩ := hAll g hReached r hMem
  simp only [hOutcome, Option.all_some, Bool.and_eq_true, decide_eq_true_eq] at hFails
  have hCompleted := hCode.mpr (.inr hFails.2)
  rw [hFails.1] at hCompleted
  cases hCompleted

end Runs

end Gathering

end VoipSwitch
