import VoipSwitch.Core.Types
import VoipSwitch.Lib.OrdMap

/-! Digits on a call: which of two transports a leg's digits are taken from, where an
accepted digit is routed, and the state of the collectors that gather digits. -/
namespace VoipSwitch

open Keyed

inductive DtmfDigit where
  | d0 | d1 | d2 | d3 | d4 | d5 | d6 | d7 | d8 | d9
  | star | pound | a | b | c | d | flash
deriving DecidableEq

/-- The digit's name in a frame. -/
def DtmfDigit.asStr : DtmfDigit → String
  | .d0 => "d0" | .d1 => "d1" | .d2 => "d2" | .d3 => "d3" | .d4 => "d4"
  | .d5 => "d5" | .d6 => "d6" | .d7 => "d7" | .d8 => "d8" | .d9 => "d9"
  | .star => "star" | .pound => "pound"
  | .a => "a" | .b => "b" | .c => "c" | .d => "d" | .flash => "flash"

inductive DtmfTransport where
  | rfc4733
  | sipInfoRelay
  | sipInfoDtmf
  | inBand
deriving DecidableEq

/-- The transport's name in a frame. -/
def DtmfTransport.asStr : DtmfTransport → String
  | .rfc4733 => "rfc4733"
  | .sipInfoRelay => "sip_info_relay"
  | .sipInfoDtmf => "sip_info_dtmf"
  | .inBand => "in_band"

inductive DtmfSourceGeneration where
  | media (generation : Nat)
  | dialog (generation : Nat)
deriving DecidableEq

inductive DtmfEventId where
  | rfc4733 (mediaGeneration : Nat) (sourceSessionId : SessionId) (ssrc timestamp eventCode : Nat)
  | sipInfo (dialogGeneration : Nat) (sourceSessionId : SessionId) (cseq : Nat)
deriving DecidableEq

structure DigitEvent where
  eventId : DtmfEventId
  domainId : DomainId
  callId : CallId
  sourceSessionId : SessionId
  sourceMediaLegId : Option MediaLegId
  digit : DtmfDigit
  transport : DtmfTransport
  durationMs : Nat
  observedAtMs : Nat
  sourceGeneration : DtmfSourceGeneration
  incompleteEnd : Bool
deriving DecidableEq

def DigitEvent.identityIsConsistent (event : DigitEvent) : Bool :=
  match event.eventId, event.transport, event.sourceGeneration with
  | .rfc4733 mediaGeneration source _ _ _, .rfc4733, .media generation =>
    mediaGeneration = generation && source = event.sourceSessionId
  | .sipInfo dialogGeneration source _, .sipInfoRelay, .dialog generation
  | .sipInfo dialogGeneration source _, .sipInfoDtmf, .dialog generation =>
    dialogGeneration = generation && source = event.sourceSessionId
  | _, _, _ => false

/-- `valid_source_event`. -/
def validSourceEvent (event : DigitEvent) (domainId : DomainId) (callId : CallId)
    (sessionId : SessionId) : Bool :=
  event.identityIsConsistent && event.domainId = domainId && event.callId = callId
    && event.sourceSessionId = sessionId

inductive DtmfSourcePolicy where
  | auto
  | rfc4733Only
  | sipInfoOnly
deriving DecidableEq

inductive DtmfSourceLock where
  | unset
  | rfc4733 (mediaGeneration : Nat)
  | sipInfo (dialogGeneration : Nat)
deriving DecidableEq

inductive DtmfSourceDecision where
  | accepted
  | duplicate
  | conflict
  | staleGeneration
deriving DecidableEq

structure DtmfSourceStats where
  accepted : Nat := 0
  duplicate : Nat := 0
  conflict : Nat := 0
  staleGeneration : Nat := 0
deriving DecidableEq

def sourceEventDedupCapacity : Nat := 128

/-- Source arbitration of one leg. -/
structure DtmfSourceState where
  policy : DtmfSourcePolicy := .auto
  sourceLock : DtmfSourceLock := .unset
  recent : List DtmfEventId := []
  order : List DtmfEventId := []
  stats : DtmfSourceStats := {}
deriving DecidableEq

inductive GenerationOrder where
  | initial
  | current
  | newer
  | older
  | otherTransport
deriving DecidableEq

def eventSourceLock (event : DigitEvent) : Option DtmfSourceLock :=
  match event.transport, event.sourceGeneration with
  | .rfc4733, .media generation => some (.rfc4733 generation)
  | .sipInfoRelay, .dialog generation | .sipInfoDtmf, .dialog generation =>
    some (.sipInfo generation)
  | _, _ => none

def compareGeneration (current candidate : Nat) : GenerationOrder :=
  if candidate < current then .older else if candidate = current then .current else .newer

def generationOrder : DtmfSourceLock → DtmfSourceLock → GenerationOrder
  | .unset, _ => .initial
  | .rfc4733 current, .rfc4733 candidate => compareGeneration current candidate
  | .sipInfo current, .sipInfo candidate => compareGeneration current candidate
  | _, _ => .otherTransport

namespace DtmfSourceState

def policyAllows (state : DtmfSourceState) (transport : DtmfTransport) : Bool :=
  match state.policy with
  | .auto => true
  | .rfc4733Only => transport = .rfc4733
  | .sipInfoOnly => transport = .sipInfoRelay || transport = .sipInfoDtmf

def record (state : DtmfSourceState) (decision : DtmfSourceDecision) :
    DtmfSourceDecision × DtmfSourceState :=
  let stats := match decision with
    | .accepted => { state.stats with accepted := satSucc64 state.stats.accepted }
    | .duplicate => { state.stats with duplicate := satSucc64 state.stats.duplicate }
    | .conflict => { state.stats with conflict := satSucc64 state.stats.conflict }
    | .staleGeneration =>
      { state.stats with staleGeneration := satSucc64 state.stats.staleGeneration }
  (decision, { state with stats })

@[simp] theorem record_fst (state : DtmfSourceState) (decision : DtmfSourceDecision) :
    (state.record decision).1 = decision := rfl

@[simp] theorem record_sourceLock (state : DtmfSourceState) (decision : DtmfSourceDecision) :
    (state.record decision).2.sourceLock = state.sourceLock := rfl

/-- Drop the oldest remembered events until the capacity is met again. -/
def expire : List DtmfEventId → List DtmfEventId → List DtmfEventId × List DtmfEventId
  | [], recent => ([], recent)
  | oldest :: rest, recent =>
    if sourceEventDedupCapacity < rest.length + 1 then expire rest (recent.erase oldest)
    else (oldest :: rest, recent)

/-- Remember an event that the arbitration lets through, unless it is remembered already. -/
def admitDigit (state : DtmfSourceState) (event : DigitEvent) :
    DtmfSourceDecision × DtmfSourceState :=
  if event.eventId ∈ state.recent then state.record .duplicate
  else
    let kept := expire (state.order ++ [event.eventId]) (event.eventId :: state.recent)
    ({ state with order := kept.1, recent := kept.2 } : DtmfSourceState).record .accepted

def accept (state : DtmfSourceState) (event : DigitEvent) :
    DtmfSourceDecision × DtmfSourceState :=
  if ¬ event.identityIsConsistent then state.record .conflict
  else
    match eventSourceLock event with
    | none => state.record .conflict
    | some candidateLock =>
      if ¬ state.policyAllows event.transport then state.record .conflict
      else
        match generationOrder state.sourceLock candidateLock with
        | .initial | .newer =>
          ({ state with sourceLock := candidateLock, recent := [], order := [] } :
            DtmfSourceState).admitDigit event
        | .current => state.admitDigit event
        | .otherTransport => state.record .conflict
        | .older => state.record .staleGeneration

end DtmfSourceState

inductive DtmfIgnoreReason where
  | staleSourceSession
  | missingPeer
  | callTerminating
deriving DecidableEq

inductive DtmfDisposition where
  | forward (peerSessionId : SessionId)
  | ignore (reason : DtmfIgnoreReason)
deriving DecidableEq

/-- The router's counters; it has no other state. -/
structure DtmfRouter where
  forwarded : Nat := 0
  consumed : Nat := 0
  ignored : Nat := 0
  infoSendSucceeded : Nat := 0
  infoSendFailed : Nat := 0
deriving DecidableEq

namespace DtmfRouter

def disposition (event : DigitEvent) (callerSessionId : SessionId)
    (calleeSessionId : Option SessionId) (routable : Bool) : DtmfDisposition :=
  if ¬ routable then .ignore .callTerminating
  else if event.sourceSessionId = callerSessionId then
    match calleeSessionId with
    | some peer => .forward peer
    | none => .ignore .missingPeer
  else if calleeSessionId = some event.sourceSessionId then .forward callerSessionId
  else .ignore .staleSourceSession

def route (router : DtmfRouter) (event : DigitEvent) (callerSessionId : SessionId)
    (calleeSessionId : Option SessionId) (routable : Bool) : DtmfDisposition × DtmfRouter :=
  let chosen := disposition event callerSessionId calleeSessionId routable
  match chosen with
  | .forward _ => (chosen, { router with forwarded := satSucc64 router.forwarded })
  | .ignore _ => (chosen, { router with ignored := satSucc64 router.ignored })

def recordInfoSendResult (router : DtmfRouter) (succeeded : Bool) : DtmfRouter :=
  if succeeded then { router with infoSendSucceeded := satSucc64 router.infoSendSucceeded }
  else { router with infoSendFailed := satSucc64 router.infoSendFailed }

def recordConsumed (router : DtmfRouter) : DtmfRouter :=
  { router with consumed := satSucc64 router.consumed }

end DtmfRouter

inductive DigitCollectionMode where
  | observe
  | collect
deriving DecidableEq

structure DigitCollectionSpec where
  collectorId : CollectorId
  owner : BusinessOperationId
  sourceSessionId : SessionId
  mode : DigitCollectionMode
  allowed : List DtmfDigit
  minDigits : Nat
  maxDigits : Nat
  terminators : List DtmfDigit
  firstDigitTimeoutMs : Nat
  interDigitTimeoutMs : Nat
  overallTimeoutMs : Nat
deriving DecidableEq

def DigitCollectionSpec.validate (spec : DigitCollectionSpec) : Except String Unit :=
  if spec.maxDigits < spec.minDigits ∨ spec.maxDigits = 0 then .error "invalid_digit_count_range"
  else if spec.allowed.isEmpty then .error "empty_allowed_digit_set"
  else if spec.firstDigitTimeoutMs = 0 ∨ spec.interDigitTimeoutMs = 0
      ∨ spec.overallTimeoutMs = 0 then
    .error "invalid_digit_collection_timeout"
  else .ok ()

inductive DigitCollectionResultCode where
  | completed
  | firstDigitTimeout
  | interDigitTimeout
  | overallTimeout
  | cancelled
  | failed
deriving DecidableEq

structure DigitCollectionReady where
  collectorId : CollectorId
  mediaGeneration : Nat
deriving DecidableEq

structure DigitCollectionOutcome where
  collectorId : CollectorId
  code : DigitCollectionResultCode
  digits : List DtmfDigit
  reason : Option String
deriving DecidableEq

inductive DigitCollectorDeadline where
  | firstDigit
  | interDigit
  | overall
deriving DecidableEq

def DigitCollectorDeadline.resultCode : DigitCollectorDeadline → DigitCollectionResultCode
  | .firstDigit => .firstDigitTimeout
  | .interDigit => .interDigitTimeout
  | .overall => .overallTimeout

structure DigitCollectorTimerSlot where
  generation : Nat
  collectorId : CollectorId
  deadline : DigitCollectorDeadline
  sleepUntil : Nat
deriving DecidableEq

inductive DigitCollectorPhase where
  | acquiring
  | active
  | releasing
deriving DecidableEq

/-- One collector. The two reply fields say whether the requester is still owed the
readiness and the result. -/
structure DigitCollectorState where
  spec : DigitCollectionSpec
  leaseId : MediaCapabilityLeaseId
  acquireActionId : String
  releaseActionId : String
  phase : DigitCollectorPhase
  readyReply : Bool
  resultReply : Bool
  digits : List DtmfDigit
  cancelRequested : Bool
  firstDeadline : Option Nat
  interDeadline : Option Nat
  overallDeadline : Option Nat
  pendingOutcome : Option DigitCollectionOutcome
deriving DecidableEq

inductive DigitCollectorInput where
  | ignored
  | continue (consume : Bool)
  | finish (consume : Bool) (code : DigitCollectionResultCode) (reason : Option String)
deriving DecidableEq

inductive DigitCollectorCancel where
  | awaitAcquire
  | finish
  | alreadyReleasing
deriving DecidableEq

structure DigitCollectorBatch where
  consume : Bool := false
  completed : List (CollectorId × DigitCollectionResultCode × Option String) := []
deriving DecidableEq

def dtmfCollectorCapacity : Nat := 16

abbrev Collectors : Type := OrdMap CollectorId DigitCollectorState

def validateDigitCollectorRegistration (collectors : Collectors) (spec : DigitCollectionSpec) :
    Except String Unit :=
  if collectors.contains spec.collectorId then .error "dtmf_collector_id_conflict"
  else if dtmfCollectorCapacity ≤ collectors.length then .error "dtmf_collector_overloaded"
  else if spec.mode = .collect ∧ collectors.values.any fun collector =>
      collector.spec.mode = .collect && collector.spec.sourceSessionId = spec.sourceSessionId then
    .error "dtmf_collector_conflict"
  else .ok ()

/-- `Iterator::min_by_key`: the first of the smallest elements. -/
def minByKey {α : Type} (key : α → Nat) : List α → Option α
  | [] => none
  | x :: rest =>
    match minByKey key rest with
    | none => some x
    | some y => if key y < key x then some y else some x

namespace DigitCollectorState

def new (spec : DigitCollectionSpec) (leaseId : MediaCapabilityLeaseId)
    (acquireActionId releaseActionId : String) : DigitCollectorState where
  spec := spec
  leaseId := leaseId
  acquireActionId := acquireActionId
  releaseActionId := releaseActionId
  phase := .acquiring
  readyReply := true
  resultReply := true
  digits := []
  cancelRequested := false
  firstDeadline := none
  interDeadline := none
  overallDeadline := none
  pendingOutcome := none

def activate (collector : DigitCollectorState) (now : Nat) : DigitCollectorState :=
  { collector with
    phase := .active
    firstDeadline := some (now + collector.spec.firstDigitTimeoutMs)
    overallDeadline := some (now + collector.spec.overallTimeoutMs) }

def applyDigit (collector : DigitCollectorState) (event : DigitEvent) (now : Nat) :
    DigitCollectorInput × DigitCollectorState :=
  let consume := collector.spec.mode = .collect
  if collector.phase ≠ .active ∨ collector.spec.sourceSessionId ≠ event.sourceSessionId then
    (.ignored, collector)
  else if event.digit ∈ collector.spec.terminators then
    if collector.spec.minDigits ≤ collector.digits.length then
      (.finish consume .completed none, collector)
    else (.finish consume .failed (some "digit_collection_too_short"), collector)
  else if event.digit ∉ collector.spec.allowed then (.continue consume, collector)
  else
    let collector := { collector with
      digits := collector.digits ++ [event.digit]
      firstDeadline := none
      interDeadline := some (now + collector.spec.interDigitTimeoutMs) }
    if collector.spec.maxDigits ≤ collector.digits.length then
      (.finish consume .completed none, collector)
    else (.continue consume, collector)

def nextDeadline (collector : DigitCollectorState) : Option (Nat × DigitCollectorDeadline) :=
  minByKey Prod.fst
    ([collector.firstDeadline.map (·, .firstDigit), collector.interDeadline.map (·, .interDigit),
      collector.overallDeadline.map (·, .overall)].filterMap id)

def requestCancel (collector : DigitCollectorState) :
    DigitCollectorCancel × DigitCollectorState :=
  match collector.phase with
  | .acquiring => (.awaitAcquire, { collector with cancelRequested := true })
  | .active => (.finish, collector)
  | .releasing => (.alreadyReleasing, collector)

end DigitCollectorState

/-- Offer a digit to every collector, in id order. -/
def applyDigitToCollectors (event : DigitEvent) (now : Nat) :
    Collectors → DigitCollectorBatch × Collectors
  | [] => ({}, [])
  | (id, collector) :: rest =>
    let (input, collector) := collector.applyDigit event now
    let (batch, rest) := applyDigitToCollectors event now rest
    match input with
    | .ignored => (batch, (id, collector) :: rest)
    | .continue consume =>
      ({ batch with consume := consume || batch.consume }, (id, collector) :: rest)
    | .finish consume code reason =>
      ({ consume := consume || batch.consume, completed := (id, code, reason) :: batch.completed },
        (id, collector) :: rest)

def nextDigitCollectorDeadline (collectors : Collectors) :
    Option (Nat × CollectorId × DigitCollectorDeadline) :=
  minByKey Prod.fst (collectors.filterMap fun (id, collector) =>
    collector.nextDeadline.map fun (at_, deadline) => (at_, id, deadline))

end VoipSwitch
