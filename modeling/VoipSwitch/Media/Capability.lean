import VoipSwitch.Lib.Transition
import VoipSwitch.Media.Parser

/-! The leases on digit detection of one call's media bridge, its preparations of session
descriptions, and the digits on their way from the relays to the session actors. -/
namespace VoipSwitch.Media

open Keyed Transition Framed

structure DtmfCapabilityLeaseRequest where
  leaseId : MediaCapabilityLeaseId
  owner : BusinessOperationId
  sourceSessionId : SessionId
  mode : DtmfMediaMode
  requestedGeneration : Nat
deriving DecidableEq

structure DtmfCapabilityReady where
  leaseId : MediaCapabilityLeaseId
  sourceSessionId : SessionId
  mode : DtmfMediaMode
  mediaGeneration : Nat
deriving DecidableEq

inductive DtmfRelayDirection where
  | callerToCallee
  | calleeToCaller
deriving DecidableEq

structure DtmfCapabilityLease where
  request : DtmfCapabilityLeaseRequest
  direction : DtmfRelayDirection
  readyGeneration : Nat
  active : Bool
  releasedGeneration : Option Nat
deriving DecidableEq

structure DtmfDispatchBindings where
  domainId : DomainId
  callId : CallId
  callerSessionId : SessionId
  calleeSessionId : SessionId
deriving DecidableEq

def DtmfDispatchBindings.sessionId (bindings : DtmfDispatchBindings) :
    DtmfRelayDirection → SessionId
  | .callerToCallee => bindings.callerSessionId
  | .calleeToCaller => bindings.calleeSessionId

/-- One direction: the configuration last written, the parser of its relay, and the
generation that the relay has applied. -/
structure DtmfRelay where
  config : ParserConfig
  parser : Rfc4733Parser
  applied : Nat
deriving DecidableEq

structure MediaBridge where
  caller : DtmfRelay
  callee : DtmfRelay
  dispatch : Option DtmfDispatchBindings
  leases : Table MediaCapabilityLeaseId DtmfCapabilityLease
  stopped : Bool
deriving DecidableEq

def dtmfModePriority : DtmfMediaMode → Nat
  | .transparent => 0
  | .observe => 1
  | .collect => 2

def updateDtmfNegotiation (current : ParserConfig) (capability : Option DtmfCapability)
    (generation : Nat) : ParserConfig :=
  .withMode generation capability current.mode

def setDtmfMode (current : ParserConfig) (mode : DtmfMediaMode) : ParserConfig :=
  if current.mode = mode then current
  else .withMode (satSucc64 current.generation) current.capability mode

/-- What a lease operation has come to: it has returned, or it waits for the drain of
retransmissions or for the relay to apply a generation. -/
inductive Progress (α : Type) where
  | returned (result : Except String α)
  | drains (direction : DtmfRelayDirection)
  | applies (direction : DtmfRelayDirection) (generation : Nat)

namespace MediaBridge

/-- A new bridge with what the caller has offered. -/
def new (offered : Option DtmfCapability) : MediaBridge :=
  let caller := ParserConfig.transparent 0 offered
  let callee := ParserConfig.disabled 0
  { caller := ⟨caller, { config := caller }, 0⟩
    callee := ⟨callee, { config := callee }, 0⟩
    dispatch := none
    leases := .empty
    stopped := false }

def relay (bridge : MediaBridge) : DtmfRelayDirection → DtmfRelay
  | .callerToCallee => bridge.caller
  | .calleeToCaller => bridge.callee

def modifyRelay (bridge : MediaBridge) (direction : DtmfRelayDirection)
    (f : DtmfRelay → DtmfRelay) : MediaBridge :=
  match direction with
  | .callerToCallee => { bridge with caller := f bridge.caller }
  | .calleeToCaller => { bridge with callee := f bridge.callee }

/-- Write the configuration that `f` makes of a direction's current one. -/
def configure (bridge : MediaBridge) (direction : DtmfRelayDirection)
    (f : ParserConfig → ParserConfig) : MediaBridge :=
  bridge.modifyRelay direction fun relay => { relay with config := f relay.config }

def dtmfDirection (bridge : MediaBridge) (sourceSessionId : SessionId) :
    Except String DtmfRelayDirection :=
  match bridge.dispatch with
  | none => .error "dtmf_session_bindings_unavailable"
  | some bindings =>
    if bindings.callerSessionId = sourceSessionId then .ok .callerToCallee
    else if bindings.calleeSessionId = sourceSessionId then .ok .calleeToCaller
    else .error "stale_source_session"

/-- The modes that active leases ask for in a direction. -/
def activeModes (bridge : MediaBridge) (direction : DtmfRelayDirection) : List DtmfMediaMode :=
  (bridge.leases.entries.filter fun entry =>
    entry.2.active && entry.2.direction = direction).map fun entry => entry.2.request.mode

/-- The mode of the highest priority, transparent if there is none. -/
def dominantMode (modes : List DtmfMediaMode) : DtmfMediaMode :=
  modes.foldl (fun a b => if dtmfModePriority a ≤ dtmfModePriority b then b else a) .transparent

/-- `acquire_dtmf_capability` as far as the wait for the relay; `block` is what blocking the
fast path comes to. -/
def acquireDtmfCapability (bridge : MediaBridge) (request : DtmfCapabilityLeaseRequest)
    (block : Except (String × String) Unit) : Progress DtmfCapabilityReady × MediaBridge :=
  if bridge.stopped then (.returned (.error "call_or_leg_terminating"), bridge)
  else if request.mode = .transparent then
    (.returned (.error "invalid_dtmf_capability_mode"), bridge)
  else
    match bridge.dtmfDirection request.sourceSessionId with
    | .error error => (.returned (.error error), bridge)
    | .ok direction =>
      match bridge.leases.get request.leaseId with
      | some existing =>
        if existing.request ≠ request then
          (.returned (.error "media_capability_lease_id_collision"), bridge)
        else if ¬ existing.active then
          (.returned (.error "media_capability_lease_released"), bridge)
        else
          (.returned (.ok ⟨request.leaseId, request.sourceSessionId, request.mode,
            existing.readyGeneration⟩), bridge)
      | none =>
        let current := (bridge.relay direction).config
        if current.generation < request.requestedGeneration then
          (.returned (.error "stale_media_generation"), bridge)
        else if current.capability.isNone then
          (.returned (.error "dtmf_not_negotiated"), bridge)
        else if request.mode = .collect ∧ .collect ∈ bridge.activeModes direction then
          (.returned (.error "dtmf_collector_conflict"), bridge)
        else
          match block with
          | .error (code, message) =>
            (.returned (.error s!"capability_demotion_failed:{code}:{message}"), bridge)
          | .ok () =>
            let next := setDtmfMode current
              (dominantMode (bridge.activeModes direction ++ [request.mode]))
            let bridge := bridge.configure direction fun _ => next
            (.applies direction next.generation,
             { bridge with
               leases := bridge.leases.insert request.leaseId
                 { request, direction, readyGeneration := next.generation, active := true
                   releasedGeneration := none } })

/-- The relay has not applied the acquired mode in time. -/
def acquireTimedOut (bridge : MediaBridge) (request : DtmfCapabilityLeaseRequest)
    (direction : DtmfRelayDirection) : MediaBridge :=
  let bridge := { bridge with leases := bridge.leases.remove request.leaseId }
  bridge.configure direction fun current =>
    setDtmfMode current (dominantMode (bridge.activeModes direction))

/-- What follows the drain of a release. -/
def releaseDrained (bridge : MediaBridge) (leaseId : MediaCapabilityLeaseId)
    (direction : DtmfRelayDirection) : Progress Nat × MediaBridge :=
  let next := setDtmfMode (bridge.relay direction).config
    (dominantMode (bridge.activeModes direction))
  let bridge := bridge.configure direction fun _ => next
  (.applies direction next.generation,
   match bridge.leases.get leaseId with
   | some lease =>
     { bridge with
       leases := bridge.leases.insert leaseId
         { lease with releasedGeneration := some next.generation } }
   | none => bridge)

/-- `release_dtmf_capability` as far as its first wait. -/
def releaseDtmfCapability (bridge : MediaBridge) (leaseId : MediaCapabilityLeaseId) :
    Progress Nat × MediaBridge :=
  match bridge.leases.get leaseId with
  | none => (.returned (.error "media_capability_lease_not_found"), bridge)
  | some existing =>
    if ¬ existing.active then
      (.returned (.ok (existing.releasedGeneration.getD existing.readyGeneration)), bridge)
    else
      let direction := existing.direction
      let bridge := { bridge with
        leases := bridge.leases.insert leaseId { existing with active := false } }
      if (bridge.relay direction).config.mode = .collect ∧
          dominantMode (bridge.activeModes direction) ≠ .collect then
        (.drains direction, bridge)
      else bridge.releaseDrained leaseId direction

/-- `prepare_callee_sdp`; `parsed` is what the caller's offer and the route come to. -/
def prepareCalleeSdp (bridge : MediaBridge) (parsed : Except String (Option DtmfCapability))
    (generation : Nat) : MediaBridge :=
  match parsed with
  | .error _ => bridge
  | .ok telephoneEvent =>
    (bridge.configure .callerToCallee (updateDtmfNegotiation · telephoneEvent generation)).configure
      .calleeToCaller (updateDtmfNegotiation · none generation)

def prepareCallerSdpInternal (bridge : MediaBridge)
    (parsed : Except String (Option DtmfCapability)) (generation : Nat)
    (updateCalleeRemote : Bool) : MediaBridge :=
  match parsed with
  | .error _ => bridge
  | .ok telephoneEvent =>
    (bridge.configure .callerToCallee (updateDtmfNegotiation · telephoneEvent generation)).configure
      .calleeToCaller
      (updateDtmfNegotiation · (if updateCalleeRemote then telephoneEvent else none) generation)

def prepareCallerSdp (bridge : MediaBridge) (parsed : Except String (Option DtmfCapability))
    (generation : Nat) : MediaBridge :=
  bridge.prepareCallerSdpInternal parsed generation true

def prepareAiAgentSdp (bridge : MediaBridge) (parsed : Except String (Option DtmfCapability))
    (generation : Nat) : MediaBridge :=
  bridge.prepareCallerSdpInternal parsed generation false

/-- The relay takes over the configuration last written. -/
def applyConfig (bridge : MediaBridge) (direction : DtmfRelayDirection) : MediaBridge :=
  bridge.modifyRelay direction fun relay =>
    { relay with
      parser := relay.parser.updateConfig relay.config
      applied := relay.config.generation }

end MediaBridge

/-- The event that the monitor makes of a completed digit. -/
def digitEvent (bindings : DtmfDispatchBindings) (direction : DtmfRelayDirection)
    (completed : Rfc4733DigitCompleted) (now : Nat) : DigitEvent :=
  let session := bindings.sessionId direction
  { eventId := .rfc4733 completed.generation session completed.ssrc completed.timestamp
      completed.eventCode
    domainId := bindings.domainId
    callId := bindings.callId
    sourceSessionId := session
    sourceMediaLegId := none
    digit := completed.digit
    transport := .rfc4733
    durationMs := completed.durationMs
    observedAtMs := now
    sourceGeneration := .media completed.generation
    incompleteEnd := completed.incompleteEnd }

/-- A lease operation that waits. -/
inductive Operation where
  | acquiring (request : DtmfCapabilityLeaseRequest) (direction : DtmfRelayDirection)
      (generation : Nat)
  | draining (leaseId : MediaCapabilityLeaseId) (direction : DtmfRelayDirection)
  | releasing (direction : DtmfRelayDirection) (generation : Nat)
deriving DecidableEq

/-- The digits of a direction on their way to the session they come from, and what that
session has accepted. -/
structure DigitPath where
  inFlight : List Rfc4733DigitCompleted := []
  source : DtmfSourceState := {}
deriving DecidableEq

/-- The media of a call. The media worker serves one action after another, each prepared
with the media generation that the coordinator had then. -/
structure CallMedia where
  bridge : MediaBridge
  operation : Option Operation := none
  lastGeneration : Nat := 0
  caller : DigitPath := {}
  callee : DigitPath := {}
deriving DecidableEq

inductive MediaStep where
  | prepareCallee (generation : Nat) (parsed : Except String (Option DtmfCapability))
  | prepareCaller (generation : Nat) (parsed : Except String (Option DtmfCapability))
  | prepareAiAgent (generation : Nat) (parsed : Except String (Option DtmfCapability))
  | acquire (request : DtmfCapabilityLeaseRequest) (block : Except (String × String) Unit)
  | release (leaseId : MediaCapabilityLeaseId)
  /-- The drain is over, or the relay has applied what the operation waits for. -/
  | proceed
  /-- The relay has not applied it within the second. -/
  | timeOut
  | applyConfig (direction : DtmfRelayDirection)
  | packet (direction : DtmfRelayDirection) (packet : Bytes) (now : Nat)
      (visit : List (EventKey × ActivePress) → List (EventKey × ActivePress))
  | expire (direction : DtmfRelayDirection) (now : Nat)
      (visit : List (EventKey × ActivePress) → List (EventKey × ActivePress))
  /-- A digit finds a queue full. -/
  | lose (direction : DtmfRelayDirection) (i : Nat)
  | deliver (direction : DtmfRelayDirection) (now : Nat)
  | sipInfo (direction : DtmfRelayDirection) (event : DigitEvent)
  | bind (bindings : DtmfDispatchBindings)
  /-- Another callee session, which has accepted no digit yet. -/
  | bindCallee (sessionId : SessionId)
  | stop

namespace CallMedia

def path (s : CallMedia) : DtmfRelayDirection → DigitPath
  | .callerToCallee => s.caller
  | .calleeToCaller => s.callee

def modifyPath (s : CallMedia) (direction : DtmfRelayDirection) (f : DigitPath → DigitPath) :
    CallMedia :=
  match direction with
  | .callerToCallee => { s with caller := f s.caller }
  | .calleeToCaller => { s with callee := f s.callee }

/-- The digits among what a parser has observed. -/
def completions (observations : List ParserObservation) : List Rfc4733DigitCompleted :=
  observations.filterMap fun
    | .completed digit => some digit
    | .invalid => none

/-- A relay reports what its parser has observed. -/
def observed (s : CallMedia) (direction : DtmfRelayDirection)
    (out : List ParserObservation × Rfc4733Parser) : CallMedia :=
  { s with bridge := s.bridge.modifyRelay direction fun relay => { relay with parser := out.2 }
    }.modifyPath direction fun path =>
      { path with inFlight := path.inFlight ++ completions out.1 }

/-- The source arbitration's decision on the next digit of a direction. -/
def decision (s : CallMedia) (direction : DtmfRelayDirection) (completed : Rfc4733DigitCompleted)
    (now : Nat) : Option (DtmfSourceDecision × DtmfSourceState) :=
  s.bridge.dispatch.map fun bindings =>
    (s.path direction).source.accept (digitEvent bindings direction completed now)

def deliver (s : CallMedia) (direction : DtmfRelayDirection) (now : Nat) : CallMedia :=
  match (s.path direction).inFlight with
  | [] => s
  | completed :: rest =>
    match s.decision direction completed now with
    | none => s.modifyPath direction fun path => { path with inFlight := rest }
    | some (_, source) => s.modifyPath direction fun _ => ⟨rest, source⟩

/-- The steps that can be taken in a state. -/
def enabled (s : CallMedia) : MediaStep → Bool
  | .prepareCallee generation _ | .prepareCaller generation _ | .prepareAiAgent generation _ =>
    s.operation.isNone && s.lastGeneration ≤ generation && generation ≤ u64Max
  | .acquire _ _ | .release _ => s.operation.isNone
  | .proceed =>
    match s.operation with
    | none => false
    | some (.draining _ _) => true
    | some (.acquiring _ direction generation) | some (.releasing direction generation) =>
      generation ≤ (s.bridge.relay direction).applied
  | .timeOut => s.operation.isSome
  | .sipInfo _ event => event.transport ≠ .rfc4733
  | .bind _ => s.bridge.dispatch.isNone
  | _ => true

def step (s : CallMedia) : MediaStep → CallMedia
  | .prepareCallee generation parsed =>
    { s with bridge := s.bridge.prepareCalleeSdp parsed generation, lastGeneration := generation }
  | .prepareCaller generation parsed =>
    { s with bridge := s.bridge.prepareCallerSdp parsed generation, lastGeneration := generation }
  | .prepareAiAgent generation parsed =>
    { s with bridge := s.bridge.prepareAiAgentSdp parsed generation, lastGeneration := generation }
  | .acquire request block =>
    match s.bridge.acquireDtmfCapability request block with
    | (.applies direction generation, bridge) =>
      { s with bridge, operation := some (.acquiring request direction generation) }
    | (_, bridge) => { s with bridge }
  | .release leaseId =>
    match s.bridge.releaseDtmfCapability leaseId with
    | (.drains direction, bridge) =>
      { s with bridge, operation := some (.draining leaseId direction) }
    | (.applies direction generation, bridge) =>
      { s with bridge, operation := some (.releasing direction generation) }
    | (.returned _, bridge) => { s with bridge }
  | .proceed =>
    match s.operation with
    | some (.draining leaseId direction) =>
      match s.bridge.releaseDrained leaseId direction with
      | (.applies direction generation, bridge) =>
        { s with bridge, operation := some (.releasing direction generation) }
      | (_, bridge) => { s with bridge, operation := none }
    | _ => { s with operation := none }
  | .timeOut =>
    match s.operation with
    | some (.acquiring request direction _) =>
      { s with bridge := s.bridge.acquireTimedOut request direction, operation := none }
    | some (.draining _ _) => s
    | _ => { s with operation := none }
  | .applyConfig direction => { s with bridge := s.bridge.applyConfig direction }
  | .packet direction packet now visit =>
    s.observed direction ((s.bridge.relay direction).parser.observePacket visit packet now)
  | .expire direction now visit =>
    s.observed direction ((s.bridge.relay direction).parser.expire visit now)
  | .lose direction i =>
    s.modifyPath direction fun path => { path with inFlight := path.inFlight.eraseIdx i }
  | .deliver direction now => s.deliver direction now
  | .sipInfo direction event =>
    s.modifyPath direction fun path => { path with source := (path.source.accept event).2 }
  | .bind bindings => { s with bridge := { s.bridge with dispatch := some bindings } }
  | .bindCallee sessionId =>
    { s with
      bridge := { s.bridge with
        dispatch := s.bridge.dispatch.map ({ · with calleeSessionId := sessionId }) }
      callee := { s.callee with source := {} } }
  | .stop => { s with bridge := { s.bridge with stopped := true } }

end CallMedia

/-- The media of a call with its relays, its monitor and its sessions. -/
def callMedia : System CallMedia MediaStep where
  init s := ∃ offered, s = { bridge := .new offered }
  next s step t := s.enabled step = true ∧ t = s.step step

end VoipSwitch.Media
