import VoipSwitch.Config.RouteAnalysis

/-! What becomes of an INVITE that the adapter offers: the registered analyzers find its route, and
it is rejected with a status or becomes a call with candidates. The configuration and the mirrors
may change meanwhile, so each read of them finds a state of its own. -/
namespace VoipSwitch

open Keyed Ranking Mirror

/-- What routing reads of an AI agent. -/
structure AiAgentConfig where
  agentId : String
  serviceNumber : String
  enabled : Bool
  revision : Nat
  fallbackTarget : Option String

inductive RecordingTargetType where
  | extension
  | peerTrunk
  | regTrunk

structure RecordingTargetRef where
  targetType : RecordingTargetType
  targetId : UInt64

inductive RecordingDirection where
  | inbound
  | outbound
  | both
deriving DecidableEq

def RecordingDirection.covers (self direction : RecordingDirection) : Bool :=
  self = both || self = direction

structure RecordingPolicyConfig where
  id : Nat
  enabled : Bool
  targets : List RecordingTargetRef
  direction : RecordingDirection

inductive AiPolicyDirection where
  | any
  | internal
  | inbound
  | outbound

def AiPolicyDirection.covers (inbound outbound : Bool) : AiPolicyDirection → Bool
  | .any => true
  | .internal => !inbound && !outbound
  | .inbound => inbound
  | .outbound => outbound

structure AiPolicyConfig where
  id : Nat
  enabled : Bool
  targets : List RecordingTargetRef
  direction : AiPolicyDirection
  aiProfileId : String

/-- The tables of a domain beside those of its numbers, and what is shown of its trunks. -/
structure BusinessTables where
  aiAgents : List AiAgentConfig
  recordingPolicies : List RecordingPolicyConfig
  aiPolicies : List AiPolicyConfig
  trunkDisplayName : String → Option String
  trunkRouteTarget : String → Option String

/-- What a call can find at a moment. -/
structure CallWorld where
  config : RuntimeConfig DomainTables
  trunks : TrunkRuntimeMirror
  business : DomainId → BusinessTables
  registrations : RegistrationMirror
  /-- `admits_new_call` of the CDR writer, if there is one. -/
  admitsNewCall : DomainId → Bool

/-- The worlds that the reads of a call find, one after the other. -/
abbrev Readings : Type := Nat → CallWorld

/-- What is read after so many reads. -/
def Readings.drop (readings : Readings) (n : Nat) : Readings := fun k => readings (k + n)

def Readings.later (readings : Readings) : Readings := readings.drop 1

/-- The state that outbound routing finds: one read of the configuration, and one of the trunks for
each reference that it looks up. -/
def Readings.routing (readings : Readings) : RoutingState where
  config := (readings 0).config
  trunks i := (readings (i + 1)).trunks

def CallWorld.domain (world : CallWorld) (domainId : DomainId) :
    Option (DomainRuntimeConfig DomainTables) :=
  world.config.domains.lookup domainId

def RouteReject.disabled (reason : RouteRejectReason) : RouteReject where
  cause := .callRejected
  sipStatus := 480
  reason

section Analyzers

/-- An analyzer that reads the world once. -/
def readingAnalyzer (name : String) (phase : AnalysisPhase)
    (analyze : NumberAnalysisRequest → CallWorld → RouteDecision) : NumberAnalyzer Readings where
  name
  phase
  priority := 100
  analyze request readings := (analyze request (readings 0), readings.later)

def analyzeExtensionCaller (request : NumberAnalysisRequest) (world : CallWorld) : RouteDecision :=
  match world.domain request.domainId with
  | none => .reject (.notFound .noSuchExtension)
  | some domain =>
    match domain.tables.extensions.find? fun extension => extension.number = request.caller with
    | none => .continue
    | some extension =>
      if extension.enabled then .continue else .reject (.disabled .businessTargetDisabled)

def analyzeExtensionCallee (request : NumberAnalysisRequest) (world : CallWorld) : RouteDecision :=
  match world.domain request.domainId with
  | none => .reject (.notFound .noSuchExtension)
  | some domain =>
    match domain.tables.extensions.find? fun extension => extension.number = request.callee with
    | none => .continue
    | some extension =>
      if extension.enabled then
        match ExtensionNumber.parse extension.number with
        | .error _ =>
          .reject {
            cause := .invalidNumberFormat, sipStatus := 484, reason := .invalidNumberFormat }
        | .ok number =>
          .matched (.extension {
            domainId := request.domainId
            extension := number
            endpoint := { endpointId := toString extension.id, number }
            transformedCaller := request.caller
            transformedCallee := request.callee
            calleeSessionPlan := none })
      else .reject (.disabled .businessTargetDisabled)

def analyzeAiAgentNumber (request : NumberAnalysisRequest) (world : CallWorld) : RouteDecision :=
  match world.domain request.domainId with
  | none => .continue
  | some _ =>
    match (world.business request.domainId).aiAgents.find? fun agent =>
        agent.enabled && agent.serviceNumber = request.callee with
    | none => .continue
    | some agent =>
      .matched (.businessModule {
        domainId := request.domainId
        module := "ai_agent"
        targetId := agent.agentId
        originalCaller := request.caller
        originalCallee := request.callee
        transformedCaller := request.caller
        transformedCallee := request.callee
        calleeSessionPlan := none })

def extensionCallerAnalyzer : NumberAnalyzer Readings :=
  readingAnalyzer "extension-caller" .callerAnalysis analyzeExtensionCaller

def extensionCalleeAnalyzer : NumberAnalyzer Readings :=
  readingAnalyzer "extension-callee" .calleeAnalysis analyzeExtensionCallee

def aiAgentNumberAnalyzer : NumberAnalyzer Readings :=
  readingAnalyzer "ai-agent-number" .calleeBusinessAnalysis analyzeAiAgentNumber

/-- How often outbound routing reads the trunks: once for each reference of the route that it takes
or rejects. -/
def trunkReads (regex : Regex) (request : NumberAnalysisRequest) (readings : Readings) : Nat :=
  match (readings 0).domain request.domainId with
  | none => 0
  | some domain =>
    (((domain.tables.outboundRoutes.filter (·.enabled)).find? fun route =>
      (tryOutboundRoute regex readings.routing domain request route).isSome).map fun route =>
        route.trunkRefs.length).getD 0

def outboundAnalyzer (regex : Regex) : NumberAnalyzer Readings where
  name := (outboundRouteAnalyzer regex).name
  phase := (outboundRouteAnalyzer regex).phase
  priority := (outboundRouteAnalyzer regex).priority
  analyze request readings :=
    (((outboundRouteAnalyzer regex).analyze request readings.routing).1,
      readings.drop (trunkReads regex request readings + 1))

/-- The analyzers in the order in which `init_modules` registers them. -/
def registeredAnalyzers (regex : Regex) : List (NumberAnalyzer Readings) :=
  [extensionCallerAnalyzer, extensionCalleeAnalyzer, outboundAnalyzer regex, aiAgentNumberAnalyzer]

end Analyzers

section Policies

def OutboundTarget.endpointId? : OutboundTarget → Option String
  | .endpoint endpointId _ => some endpointId
  | _ => none

def OutboundTarget.trunkRef? : OutboundTarget → Option String
  | .trunk trunkRef => some trunkRef
  | _ => none

def regTrunkId (trunkRef : String) : Option UInt64 :=
  ((stripStart "reg:" trunkRef).bind (splitOnce '/')).bind fun parts => parseU64 parts.1

/-- Whether a target of a recording policy is one of the sides of the call. -/
def RecordingPolicyConfig.targetMatches (policy : RecordingPolicyConfig)
    (callerExtensionId : Option UInt64) (inboundTrunkRef : Option String) (target : OutboundTarget)
    (ref : RecordingTargetRef) : Bool :=
  match ref.targetType with
  | .extension =>
    (callerExtensionId = some ref.targetId && policy.direction.covers .outbound) ||
      (target.endpointId?.bind parseU64 = some ref.targetId && policy.direction.covers .inbound)
  | .peerTrunk =>
    let targetRef := s!"peer:{ref.targetId}"
    (inboundTrunkRef = some targetRef && policy.direction.covers .inbound) ||
      (target.trunkRef? = some targetRef && policy.direction.covers .outbound)
  | .regTrunk =>
    (inboundTrunkRef.bind regTrunkId = some ref.targetId && policy.direction.covers .inbound) ||
      (target.trunkRef?.bind regTrunkId = some ref.targetId && policy.direction.covers .outbound)

def recordingPolicyIdsForCandidate (business : BusinessTables) (callerExtensionId : Option UInt64)
    (inboundTrunkRef : Option String) (target : OutboundTarget) : List Nat :=
  (business.recordingPolicies.filter fun policy => policy.enabled &&
    policy.targets.any (policy.targetMatches callerExtensionId inboundTrunkRef target)).map (·.id)

def AiPolicyConfig.targetMatches (callerExtensionId : Option UInt64)
    (inboundTrunkRef : Option String) (target : OutboundTarget) (ref : RecordingTargetRef) : Bool :=
  match ref.targetType with
  | .extension =>
    callerExtensionId = some ref.targetId || target.endpointId?.bind parseU64 = some ref.targetId
  | .peerTrunk =>
    let targetRef := s!"peer:{ref.targetId}"
    inboundTrunkRef = some targetRef || target.trunkRef? = some targetRef
  | .regTrunk =>
    inboundTrunkRef.bind regTrunkId = some ref.targetId ||
      target.trunkRef?.bind regTrunkId = some ref.targetId

def aiPolicyForCandidate (business : BusinessTables) (callerExtensionId : Option UInt64)
    (inboundTrunkRef : Option String) : OutboundTarget → Option AiPolicyDecisionSnapshot
  | .aiAgent _ => none
  | target =>
    (business.aiPolicies.find? fun policy => policy.enabled &&
      policy.direction.covers inboundTrunkRef.isSome target.trunkRef?.isSome &&
      policy.targets.any (AiPolicyConfig.targetMatches callerExtensionId inboundTrunkRef
        target)).map fun policy => { policyId := policy.id, profileId := policy.aiProfileId }

end Policies

section Setup

inductive InboundInviteSource where
  | endpoint
  | trunk (trunkRef : String)

structure InboundInviteOffered where
  domainId : String
  callerNumber : String
  calleeNumber : String
  origin : Option InboundInviteSource

def InboundInviteOffered.trunkRef (event : InboundInviteOffered) : Option String :=
  match event.origin with
  | some (.trunk trunkRef) => some trunkRef
  | _ => none

/-- How the task of the analysis ended. -/
inductive AnalysisRun where
  | finished
  | timedOut
  | panicked

/-- Where an inbound route leads without analysis. -/
inductive DirectTarget where
  | none
  | extension (number signalingCaller : String)
  | aiAgent (agent : AiAgentConfig)

structure InboundChoice where
  routeId : Option String
  routeName : Option String
  direct : DirectTarget
  request : NumberAnalysisRequest

/-- Why there is no call: it is rejected with a status, or `create_call` fails. -/
inductive CallRefusal where
  | rejected (sipStatus : Nat)
  | failed (error : String)
deriving DecidableEq

def enabledAgent (business : BusinessTables) (agentId : String) : Option AiAgentConfig :=
  business.aiAgents.find? fun agent => agent.enabled && agent.agentId = agentId

/-- The numbers to analyze, after the inbound route if the call comes from a trunk. -/
def inboundChoice (regex : Regex) (event : InboundInviteOffered)
    (domain : DomainRuntimeConfig DomainTables) (business : BusinessTables) :
    Except CallRefusal InboundChoice :=
  match event.trunkRef with
  | none =>
    .ok {
      routeId := none, routeName := none, direct := .none
      request := {
        domainId := event.domainId, caller := event.callerNumber, callee := event.calleeNumber } }
  | some trunkRef =>
    match analyzeInboundRoute regex domain trunkRef event.callerNumber event.calleeNumber with
    | none => .error (.rejected 404)
    | some found =>
      let goOn (direct : DirectTarget) : Except CallRefusal InboundChoice := .ok {
        routeId := some found.routeId, routeName := some found.routeName, direct
        request := {
          domainId := event.domainId
          caller := found.transformedCaller, callee := found.transformedCallee } }
      match found.target with
      | .reject => .error (.rejected 403)
      | .extension number => goOn (.extension number found.transformedCaller)
      | .aiAgent agentId =>
        match enabledAgent business agentId with
        | none => .error (.rejected 404)
        | some agent => goOn (.aiAgent agent)
      | .auto => goOn .none

def agentRoute (signalingCallerNumber : String) (agent : AiAgentConfig) : ResolvedRoute where
  signalingCallerNumber
  signalingCalleeNumber := agent.serviceNumber
  candidates := [{
    outboundTarget := .aiAgent agent.agentId
    aiAgentRevision := some agent.revision
    aiFallbackTarget := agent.fallbackTarget }]
  outboundRouteId := none
  outboundRouteName := none

def trunkCandidate (business : BusinessTables) (trunk : TrunkCandidate) : OutboundCandidate where
  outboundTarget := .trunk trunk.trunkId
  calleeRouteTarget := business.trunkRouteTarget trunk.trunkId
  outboundTrunkRef := some trunk.trunkId
  outboundTrunkName := business.trunkDisplayName trunk.trunkId

/-- The route of what the analysis has matched. -/
def resolveMatched (domainId : String) (business : BusinessTables) (world : CallWorld) :
    RouteResult → Except CallRefusal ResolvedRoute
  | .extension route =>
    match Mirror.endpointResolvedRoute world.registrations domainId route.endpoint.endpointId
        route.endpoint.number.text route.transformedCaller route.transformedCallee with
    | none => .error (.rejected 480)
    | some resolved => .ok resolved
  | .trunk route =>
    if route.trunks.isEmpty then .error (.rejected 503)
    else .ok {
      signalingCallerNumber := route.transformedCaller
      signalingCalleeNumber := route.transformedCallee
      candidates := route.trunks.map (trunkCandidate business)
      outboundRouteId := some route.routeId
      outboundRouteName := some route.routeName }
  | .businessModule route =>
    if route.module = "ai_agent" then
      match enabledAgent business route.targetId with
      | none => .error (.rejected 404)
      | some agent => .ok (agentRoute route.transformedCaller agent)
    else .error (.rejected 501)
  | .calleeSet _ => .error (.rejected 501)

def resolveDecision (domainId : String) (business : BusinessTables) (world : CallWorld) :
    RouteDecision → Except CallRefusal ResolvedRoute
  | .matched result => resolveMatched domainId business world result
  | .reject reject => .error (.rejected reject.sipStatus)
  | .continue => .error (.rejected 404)

/-- An extension that an inbound route names. -/
def directExtension (domainId : String) (domain : DomainRuntimeConfig DomainTables)
    (world : CallWorld) (number signalingCaller : String) : Except CallRefusal ResolvedRoute :=
  match domain.tables.extensions.find? fun extension =>
      extension.enabled && extension.number = number with
  | none => .error (.rejected 404)
  | some extension =>
    match Mirror.endpointResolvedRoute world.registrations domainId (toString extension.id)
        extension.number signalingCaller extension.number with
    | none => .error (.rejected 480)
    | some resolved => .ok resolved

def resolveRoute (analysis : AnalysisRegistry Readings) (run : AnalysisRun)
    (event : InboundInviteOffered) (domain : DomainRuntimeConfig DomainTables)
    (business : BusinessTables) (choice : InboundChoice) (readings : Readings) :
    Except CallRefusal ResolvedRoute :=
  match choice.direct with
  | .aiAgent agent => .ok (agentRoute event.callerNumber agent)
  | .extension number signalingCaller =>
    directExtension event.domainId domain (readings 0) number signalingCaller
  | .none =>
    match run with
    | .timedOut => .error (.rejected 408)
    | .panicked => .error (.rejected 500)
    | .finished =>
      let analyzed := analysis.analyze choice.request readings
      resolveDecision event.domainId business (analyzed.2 0) analyzed.1

/-- A candidate with the policies that apply to it. -/
def withPolicies (business : BusinessTables) (callerExtensionId : Option UInt64)
    (inboundTrunkRef : Option String) (candidate : OutboundCandidate) : OutboundCandidate :=
  let ids := recordingPolicyIdsForCandidate business callerExtensionId inboundTrunkRef
    candidate.outboundTarget
  { candidate with
    recordingPolicyIds := ids
    recordingRequested := !ids.isEmpty
    aiPolicy := aiPolicyForCandidate business callerExtensionId inboundTrunkRef
      candidate.outboundTarget }

def callerExtensionId (domain : DomainRuntimeConfig DomainTables) (callerNumber : String) :
    Option UInt64 :=
  (domain.tables.extensions.find? fun extension =>
    extension.enabled && extension.number = callerNumber).map (·.id)

/-- `create_call` up to the allocation of the media: it decides what the call is to be. -/
def createCall (regex : Regex) (analysis : AnalysisRegistry Readings) (run : AnalysisRun)
    (event : InboundInviteOffered) (timeouts : CallTimeouts) (recordingDir : String)
    (readings : Readings) : Except CallRefusal CallConfigSnapshot :=
  match ((readings 0).domain event.domainId).filter (·.enabled) with
  | none => .error (.rejected 404)
  | some domain =>
    let business := (readings 0).business event.domainId
    if (readings 0).admitsNewCall event.domainId then
      match inboundChoice regex event domain business with
      | .error refusal => .error refusal
      | .ok choice =>
        match resolveRoute analysis run event domain business choice readings.later with
        | .error refusal => .error refusal
        | .ok route =>
          if route.candidates.isEmpty then .error (.rejected 503)
          else
            let candidates := route.candidates.map (withPolicies business
              (callerExtensionId domain event.callerNumber) event.trunkRef)
            let first := candidates.head?
            let numbers : CallNumberSnapshot := {
              originalCaller := event.callerNumber
              originalCallee := event.calleeNumber
              signalingCaller := route.signalingCallerNumber
              signalingCallee := route.signalingCalleeNumber }
            let inbound : RouteSnapshot := {
              routeId := choice.routeId
              routeName := choice.routeName
              trunkRef := event.trunkRef
              trunkName := event.trunkRef.bind business.trunkDisplayName }
            let outbound : RouteSnapshot := {
              routeId := route.outboundRouteId
              routeName := route.outboundRouteName
              trunkRef := first.bind (·.outboundTrunkRef)
              trunkName := first.bind (·.outboundTrunkName) }
            match CallConfigSnapshot.new event.domainId numbers inbound outbound candidates timeouts
                recordingDir with
            | .error error => .error (.failed error)
            | .ok snapshot => .ok snapshot
    else .error (.rejected 503)

end Setup

section Analyzed

variable {regex : Regex} {request : NumberAnalysisRequest} {readings : Readings}
  {world : CallWorld} {domainId : DomainId}

/-- The extension is there, under this id and this number, and it is enabled. -/
def CallWorld.HasExtension (world : CallWorld) (domainId : DomainId)
    (endpointId number : String) : Prop :=
  ∃ domain, world.domain domainId = some domain ∧ ∃ extension ∈ domain.tables.extensions,
    extension.enabled = true ∧ extension.number = number ∧ toString extension.id = endpointId

def CallWorld.Registers (world : CallWorld) (domainId : DomainId) (endpointId : String) : Prop :=
  world.registrations.ready = true ∧ ∃ view,
    world.registrations.items.lookup (endpointKey domainId endpointId) = some view ∧
      view.state = .registered

/-- The trunk of the configuration that was read was available when it was looked up. -/
def Readings.HasTrunk (readings : Readings) (domainId : DomainId) (trunkRef : String) : Prop :=
  ∃ n domain, (readings n).domain domainId = some domain ∧
    ∃ m, trunkAvailable (readings m).trunks domain trunkRef = true

def CallWorld.HasAgent (world : CallWorld) (domainId : DomainId) (agentId : String) : Prop :=
  ∃ agent ∈ (world.business domainId).aiAgents, agent.enabled = true ∧ agent.agentId = agentId

/-- The caller is no extension that is disabled. -/
def CallWorld.Permits (world : CallWorld) (domainId : DomainId) (caller : String) : Prop :=
  ∃ domain, world.domain domainId = some domain ∧ ∀ extension,
    domain.tables.extensions.find? (fun extension => extension.number = caller) = some extension →
      extension.enabled = true

/-- The statuses with which an analyzer rejects a call. -/
def analysisStatuses : List Nat := [404, 480, 484, 503]

/-- What an analyzer may decide on with what it reads. -/
inductive Decides (readings : Readings) (request : NumberAnalysisRequest) :
    RouteDecision → Prop where
  | continue : Decides readings request .continue
  | reject {reject : RouteReject} (hStatus : reject.sipStatus ∈ analysisStatuses) :
    Decides readings request (.reject reject)
  | extension {route : ExtensionRoute} (hExtension : (readings 0).HasExtension request.domainId
      route.endpoint.endpointId route.endpoint.number.text) :
    Decides readings request (.matched (.extension route))
  | agent {route : BusinessModuleRoute} (hModule : route.module = "ai_agent") :
    Decides readings request (.matched (.businessModule route))
  | trunks {route : TrunkRoute} (hSome : route.trunks ≠ [])
      (hTrunks : ∀ trunk ∈ route.trunks, readings.HasTrunk request.domainId trunk.trunkId) :
    Decides readings request (.matched (.trunk route))

theorem extensionCaller_decides (request : NumberAnalysisRequest) (readings : Readings) :
    Decides readings request (analyzeExtensionCaller request (readings 0)) ∧
      (analyzeExtensionCaller request (readings 0) = .continue →
        (readings 0).Permits request.domainId request.caller) ∧
      ∀ result, analyzeExtensionCaller request (readings 0) ≠ .matched result := by
  rw [analyzeExtensionCaller]
  split
  · refine ⟨.reject ?_, ?_, ?_⟩
    · simp [analysisStatuses, RouteReject.notFound]
    · intro h
      cases h
    · intro result h
      cases h
  · next domain hDomain =>
      split
      · next hNone =>
          refine ⟨.continue, fun _ => ⟨domain, hDomain, fun extension hFound => ?_⟩, ?_⟩
          · rw [hNone] at hFound
            cases hFound
          · intro result h
            cases h
      · next extension hExtension =>
          split
          · next hEnabled =>
              refine ⟨.continue, fun _ => ⟨domain, hDomain, fun other hFound => ?_⟩, ?_⟩
              · rw [← Option.some.inj (hExtension.symm.trans hFound)]
                exact hEnabled
              · intro result h
                cases h
          · refine ⟨.reject ?_, ?_, ?_⟩
            · simp [analysisStatuses, RouteReject.disabled]
            · intro h
              cases h
            · intro result h
              cases h

theorem parse_text {input : String} {number : ExtensionNumber}
    (h : ExtensionNumber.parse input = .ok number) : number.text = input := by
  rw [ExtensionNumber.parse] at h
  split at h
  · cases h
  · next hText =>
      obtain rfl := Except.ok.inj h
      exact parseExtensionNumber_ok hText

theorem extensionCallee_decides (request : NumberAnalysisRequest) (readings : Readings) :
    Decides readings request (analyzeExtensionCallee request (readings 0)) := by
  rw [analyzeExtensionCallee]
  split
  · exact .reject (by simp [analysisStatuses, RouteReject.notFound])
  · next domain hDomain =>
      split
      · exact .continue
      · next extension hExtension =>
          split
          · next hEnabled =>
              split
              · exact .reject (by simp [analysisStatuses])
              · next number hNumber =>
                  exact .extension ⟨domain, hDomain, extension,
                    List.mem_of_find?_eq_some hExtension, hEnabled, (parse_text hNumber).symm, rfl⟩
          · exact .reject (by simp [analysisStatuses, RouteReject.disabled])

theorem aiAgentNumber_decides (request : NumberAnalysisRequest) (readings : Readings) :
    Decides readings request (analyzeAiAgentNumber request (readings 0)) := by
  rw [analyzeAiAgentNumber]
  split
  · exact .continue
  · split
    · exact .continue
    · exact .agent rfl

theorem outbound_decides (regex : Regex) (request : NumberAnalysisRequest) (readings : Readings) :
    Decides readings request (analyzeOutboundRoute regex request readings.routing) := by
  rw [analyzeOutboundRoute]
  split
  · exact .continue
  · next domain hDomain =>
      cases hFound : (domain.tables.outboundRoutes.filter (·.enabled)).findSome?
          (tryOutboundRoute regex readings.routing domain request) with
      | none => exact .continue
      | some decision =>
          obtain ⟨route, hMem, hTry⟩ := List.exists_of_findSome?_eq_some hFound
          rcases tryOutboundRoute_cases regex domain readings.routing request
            (List.mem_filter.mp hMem).2 with ⟨-, hNone⟩ |
              ⟨-, ⟨-, hSome⟩ | ⟨hTrunks, answer, hLeads, hSome⟩⟩
          · rw [hNone] at hTry
            cases hTry
          · obtain rfl := Option.some.inj (hSome.symm.trans hTry)
            exact .reject (by simp [analysisStatuses, noAvailableTrunk])
          · obtain rfl := Option.some.inj (hSome.symm.trans hTry)
            refine .trunks (hLeads.trunks ▸ hTrunks) fun trunk hTrunk => ⟨0, domain, hDomain, ?_⟩
            rw [hLeads.trunks, availableTrunks, List.mem_map] at hTrunk
            obtain ⟨ref, hAvailable, rfl⟩ := hTrunk
            exact ⟨ref.2 + 1, (List.mem_filter.mp hAvailable).2⟩

/-- The order in which the registered analyzers are asked. -/
def askedAnalyzers (regex : Regex) : List (NumberAnalyzer Readings) :=
  [extensionCallerAnalyzer, extensionCalleeAnalyzer, aiAgentNumberAnalyzer, outboundAnalyzer regex]

theorem asked_ranked (regex : Regex) : Ranked NumberAnalyzer.slot (askedAnalyzers regex) := by
  simp [Ranked, askedAnalyzers, NumberAnalyzer.slot, Prod.Lex.toLex_le_toLex,
    extensionCallerAnalyzer, extensionCalleeAnalyzer, aiAgentNumberAnalyzer, outboundAnalyzer,
    outboundRouteAnalyzer, readingAnalyzer, AnalysisPhase.rank]

theorem asked_distinct (regex : Regex) : Distinct NumberAnalyzer.slot (askedAnalyzers regex) := by
  simp [Distinct, askedAnalyzers, NumberAnalyzer.slot, extensionCallerAnalyzer,
    extensionCalleeAnalyzer, aiAgentNumberAnalyzer, outboundAnalyzer, outboundRouteAnalyzer,
    readingAnalyzer, AnalysisPhase.rank]

/-- What the registry answers when the analyzers have answered. -/
def orNotFound (answer : RouteDecision × Readings) : RouteDecision × Readings :=
  match answer.1 with
  | .continue => (.reject (.notFound .noBusinessModuleMatch), answer.2)
  | _ => answer

/-- The analyzers can be registered in any order. -/
theorem analyze_asked {analyzers : List (NumberAnalyzer Readings)}
    (h : (registeredAnalyzers regex).Perm analyzers) (request : NumberAnalysisRequest)
    (readings : Readings) :
    (AnalysisRegistry.registerAll analyzers).analyze request readings =
      orNotFound (consult request (askedAnalyzers regex) readings) := by
  have hPerm : (askedAnalyzers regex).Perm analyzers :=
    (((List.Perm.swap _ _ []).cons _).cons _).trans h
  have hOrder : ranked NumberAnalyzer.slot analyzers = askedAnalyzers regex := by
    rw [← ranked_eq_of_perm (asked_distinct regex) hPerm, (asked_ranked regex).eq]
  rw [AnalysisRegistry.analyze_registerAll,
    analyzers_of_distinct ((asked_distinct regex).perm hPerm), hOrder]
  rcases hAnswer : consult request (askedAnalyzers regex) readings with ⟨decision, later⟩
  cases decision <;> rfl

/-- The analyzer decides on what it reads, and leaves what comes later to be read. -/
def Analyzes (analyzer : NumberAnalyzer Readings) : Prop :=
  ∀ request readings, Decides readings request (analyzer.analyze request readings).1 ∧
    ∃ n, (analyzer.analyze request readings).2 = readings.drop n

theorem analyzes_asked (regex : Regex) : ∀ analyzer ∈ askedAnalyzers regex, Analyzes analyzer := by
  intro analyzer hMem
  simp only [askedAnalyzers, List.mem_cons, List.not_mem_nil, or_false] at hMem
  rcases hMem with rfl | rfl | rfl | rfl
  · intro request readings
    exact ⟨(extensionCaller_decides request readings).1, 1, rfl⟩
  · intro request readings
    exact ⟨extensionCallee_decides request readings, 1, rfl⟩
  · intro request readings
    exact ⟨aiAgentNumber_decides request readings, 1, rfl⟩
  · intro request readings
    exact ⟨outbound_decides regex request readings, _, rfl⟩

theorem drop_drop (readings : Readings) (n m : Nat) :
    (readings.drop n).drop m = readings.drop (m + n) := by
  funext k
  exact congrArg readings (Nat.add_assoc k m n)

/-- The answer is what one of the analyzers decides with what it reads, and what comes later is left
to be read. -/
theorem consult_decides (request : NumberAnalysisRequest)
    {analyzers : List (NumberAnalyzer Readings)}
    (hAnalyzes : ∀ analyzer ∈ analyzers, Analyzes analyzer) (readings : Readings) :
    (∃ n, Decides (readings.drop n) request (consult request analyzers readings).1) ∧
      ∃ n, (consult request analyzers readings).2 = readings.drop n := by
  induction analyzers generalizing readings with
  | nil => exact ⟨⟨0, .continue⟩, 0, rfl⟩
  | cons analyzer rest ih =>
      obtain ⟨hDecides, n, hLater⟩ := hAnalyzes analyzer List.mem_cons_self request readings
      rw [consult]
      split
      · next later hContinue =>
          rw [hContinue] at hLater
          obtain rfl : later = readings.drop n := hLater
          obtain ⟨⟨m, hDecided⟩, k, hNext⟩ :=
            ih (fun other hOther => hAnalyzes other (List.mem_cons_of_mem _ hOther))
              (readings.drop n)
          rw [drop_drop] at hDecided hNext
          exact ⟨⟨m + n, hDecided⟩, k + n, hNext⟩
      · exact ⟨⟨0, hDecides⟩, n, hLater⟩

/-- Unless the caller is rejected, it was no disabled extension when it was looked up. -/
theorem consult_permits (request : NumberAnalysisRequest) (readings : Readings) :
    (readings 0).Permits request.domainId request.caller ∨
      ∃ reject, (consult request (askedAnalyzers regex) readings).1 = .reject reject := by
  obtain ⟨-, hPermits, hUnmatched⟩ := extensionCaller_decides request readings
  rw [askedAnalyzers, consult]
  split
  · next later hContinue =>
      exact .inl (hPermits (congrArg Prod.fst hContinue))
  · next hDecided =>
      right
      cases hCase : analyzeExtensionCaller request (readings 0) with
      | «continue» => exact (hDecided readings.later (Prod.ext hCase rfl)).elim
      | matched result => exact absurd hCase (hUnmatched result)
      | reject reject => exact ⟨reject, hCase⟩

end Analyzed

section Settled

variable {regex : Regex} {event : InboundInviteOffered} {readings : Readings}
  {domain : DomainRuntimeConfig DomainTables} {business : BusinessTables} {domainId : DomainId}

/-- Each thing that the target needs was there at a moment when it was looked up. -/
def Reaches (readings : Readings) (domainId : DomainId) : OutboundTarget → Prop
  | .endpoint endpointId endpointNumber =>
    (∃ n, (readings n).HasExtension domainId endpointId endpointNumber) ∧
      ∃ n, (readings n).Registers domainId endpointId
  | .trunk trunkRef => readings.HasTrunk domainId trunkRef
  | .aiAgent agentId => (readings 0).HasAgent domainId agentId

/-- The statuses with which `create_call` rejects an offer. -/
def rejectionStatuses : List Nat := [403, 404, 408, 480, 484, 500, 503]

theorem mem_rejectionStatuses {status : Nat} (h : status ∈ analysisStatuses) :
    status ∈ rejectionStatuses := by
  simp only [analysisStatuses, rejectionStatuses, List.mem_cons, List.not_mem_nil, or_false] at h ⊢
  omega

/-- A route whose targets can be reached, or a rejection. -/
def Settled (readings : Readings) (domainId : DomainId) : Except CallRefusal ResolvedRoute → Prop
  | .ok route => route.candidates ≠ [] ∧
      ∀ candidate ∈ route.candidates, Reaches readings domainId candidate.outboundTarget
  | .error refusal => ∃ status ∈ rejectionStatuses, refusal = .rejected status

theorem settled_rejected {status : Nat} (h : status ∈ rejectionStatuses) :
    Settled readings domainId (.error (.rejected status)) :=
  ⟨status, h, rfl⟩

theorem endpoint_settled {world : CallWorld} {endpointId number caller callee : String}
    {route : ResolvedRoute} {n m : Nat}
    (hExtension : (readings n).HasExtension domainId endpointId number)
    (hWorld : world = readings m)
    (h : Mirror.endpointResolvedRoute world.registrations domainId endpointId number caller callee =
      some route) :
    Settled readings domainId (.ok route) := by
  subst hWorld
  rw [Mirror.endpointResolvedRoute] at h
  split at h
  · cases h
  · next view hView =>
      split at h
      · next hRegistered =>
          obtain rfl := Option.some.inj h
          refine ⟨List.cons_ne_nil _ _, fun candidate hMem => ?_⟩
          obtain rfl := List.mem_singleton.mp hMem
          exact ⟨⟨n, hExtension⟩, m, hRegistered.2, view, hView, hRegistered.1⟩
      · cases h

theorem enabledAgent_hasAgent {world : CallWorld} {agentId : String} {agent : AiAgentConfig}
    (h : enabledAgent (world.business domainId) agentId = some agent) :
    world.HasAgent domainId agent.agentId := by
  have hEnabled := List.find?_some h
  rw [Bool.and_eq_true] at hEnabled
  exact ⟨agent, List.mem_of_find?_eq_some h, hEnabled.1, rfl⟩

theorem agent_settled {agent : AiAgentConfig} {caller : String}
    (h : (readings 0).HasAgent domainId agent.agentId) :
    Settled readings domainId (.ok (agentRoute caller agent)) := by
  refine ⟨List.cons_ne_nil _ _, fun candidate hMem => ?_⟩
  obtain rfl := List.mem_singleton.mp hMem
  exact h

theorem hasTrunk_of_drop {trunkRef : String} {n : Nat}
    (h : (readings.drop n).HasTrunk domainId trunkRef) : readings.HasTrunk domainId trunkRef := by
  obtain ⟨k, domain, hDomain, m, hAvailable⟩ := h
  exact ⟨k + n, domain, hDomain, m + n, hAvailable⟩

theorem resolveDecision_settled {world : CallWorld} {request : NumberAnalysisRequest} {n m : Nat}
    {decision : RouteDecision} (hDecides : Decides (readings.drop n) request decision)
    (hWorld : world = readings m) :
    Settled readings request.domainId (resolveDecision request.domainId
      ((readings 0).business request.domainId) world decision) := by
  cases hDecides with
  | «continue» => exact settled_rejected (by simp [rejectionStatuses])
  | reject hStatus => exact settled_rejected (mem_rejectionStatuses hStatus)
  | @extension route hExtension =>
      rw [resolveDecision, resolveMatched]
      split
      · exact settled_rejected (by simp [rejectionStatuses])
      · next hRoute => exact endpoint_settled hExtension hWorld hRoute
  | @agent route hModule =>
      rw [resolveDecision, resolveMatched, if_pos hModule]
      split
      · exact settled_rejected (by simp [rejectionStatuses])
      · next agent hAgent => exact agent_settled (enabledAgent_hasAgent hAgent)
  | @trunks route hSome hTrunks =>
      rw [resolveDecision, resolveMatched, if_neg (mt List.isEmpty_iff.mp hSome)]
      refine ⟨mt List.map_eq_nil_iff.mp hSome, fun candidate hMem => ?_⟩
      obtain ⟨trunk, hTrunk, rfl⟩ := List.mem_map.mp hMem
      exact hasTrunk_of_drop (hTrunks trunk hTrunk)

theorem directExtension_settled {number signalingCaller : String}
    (hDomain : (readings 0).domain domainId = some domain) :
    Settled readings domainId
      (directExtension domainId domain (readings 1) number signalingCaller) := by
  rw [directExtension]
  split
  · exact settled_rejected (by simp [rejectionStatuses])
  · next extension hExtension =>
      have hEnabled := List.find?_some hExtension
      rw [Bool.and_eq_true] at hEnabled
      split
      · exact settled_rejected (by simp [rejectionStatuses])
      · next hRoute =>
          exact endpoint_settled (n := 0) ⟨domain, hDomain, extension,
            List.mem_of_find?_eq_some hExtension, hEnabled.1, rfl, rfl⟩ rfl hRoute

/-- What the inbound route leaves to be done. -/
structure ChoiceMade (readings : Readings) (event : InboundInviteOffered)
    (choice : InboundChoice) : Prop where
  domainId : choice.request.domainId = event.domainId
  agent : ∀ {agent}, choice.direct = .aiAgent agent →
    (readings 0).HasAgent event.domainId agent.agentId
  offered : event.trunkRef = none → choice.direct = .none ∧
    choice.request.caller = event.callerNumber

theorem inboundChoice_made (regex : Regex) (event : InboundInviteOffered)
    (domain : DomainRuntimeConfig DomainTables) (readings : Readings) :
    (∃ status ∈ rejectionStatuses,
      inboundChoice regex event domain ((readings 0).business event.domainId) =
        .error (.rejected status)) ∨
    ∃ choice, inboundChoice regex event domain ((readings 0).business event.domainId) =
      .ok choice ∧ ChoiceMade readings event choice := by
  rw [inboundChoice]
  split
  · refine .inr ⟨_, rfl, rfl, ?_, fun _ => ⟨rfl, rfl⟩⟩
    intro agent hAgent
    cases hAgent
  · next trunkRef hTrunk =>
      split
      · exact .inl ⟨404, by simp [rejectionStatuses], rfl⟩
      · next found hFound =>
          dsimp only
          split
          · exact .inl ⟨403, by simp [rejectionStatuses], rfl⟩
          · refine .inr ⟨_, rfl, rfl, ?_, ?_⟩
            · intro agent hAgent
              cases hAgent
            · intro hNone
              cases hTrunk.symm.trans hNone
          · split
            · exact .inl ⟨404, by simp [rejectionStatuses], rfl⟩
            · next agent hAgent =>
                refine .inr ⟨_, rfl, rfl, ?_, ?_⟩
                · intro other hOther
                  cases hOther
                  exact enabledAgent_hasAgent hAgent
                · intro hNone
                  cases hTrunk.symm.trans hNone
          · refine .inr ⟨_, rfl, rfl, ?_, ?_⟩
            · intro agent hAgent
              cases hAgent
            · intro hNone
              cases hTrunk.symm.trans hNone

theorem resolveRoute_settled {analyzers : List (NumberAnalyzer Readings)}
    (hRegistered : (registeredAnalyzers regex).Perm analyzers) (run : AnalysisRun)
    {choice : InboundChoice} (hChoice : ChoiceMade readings event choice)
    (hDomain : (readings 0).domain event.domainId = some domain) :
    Settled readings event.domainId (resolveRoute (AnalysisRegistry.registerAll analyzers) run event
      domain ((readings 0).business event.domainId) choice readings.later) := by
  unfold resolveRoute
  split
  · next agent hAgent => exact agent_settled (hChoice.agent hAgent)
  · exact directExtension_settled hDomain
  · split
    · exact settled_rejected (by simp [rejectionStatuses])
    · exact settled_rejected (by simp [rejectionStatuses])
    · obtain ⟨⟨n, hDecides⟩, m, hNext⟩ :=
        consult_decides choice.request (analyzes_asked regex) readings.later
      rw [show readings.later.drop n = _ from drop_drop readings 1 n] at hDecides
      have hWorld := congrFun hNext 0
      rw [analyze_asked hRegistered, ← hChoice.domainId]
      rcases hAnswer : consult choice.request (askedAnalyzers regex) readings.later with
        ⟨decision, later⟩
      rw [hAnswer] at hDecides hWorld
      cases decision with
      | «continue» => exact settled_rejected (by simp [rejectionStatuses, RouteReject.notFound])
      | matched result => exact resolveDecision_settled hDecides hWorld
      | reject reject => exact resolveDecision_settled hDecides hWorld

theorem resolveRoute_permits {analyzers : List (NumberAnalyzer Readings)}
    (hRegistered : (registeredAnalyzers regex).Perm analyzers) {run : AnalysisRun}
    {choice : InboundChoice} {route : ResolvedRoute} (hDirect : choice.direct = .none)
    (h : resolveRoute (AnalysisRegistry.registerAll analyzers) run event domain business choice
      readings.later = .ok route) :
    (readings 1).Permits choice.request.domainId choice.request.caller := by
  unfold resolveRoute at h
  rw [hDirect] at h
  rcases consult_permits choice.request readings.later with hPermits | ⟨reject, hReject⟩
  · exact hPermits
  · cases run with
    | timedOut => cases h
    | panicked => cases h
    | finished =>
        dsimp only at h
        rw [analyze_asked hRegistered, orNotFound, hReject] at h
        dsimp only at h
        rw [hReject, resolveDecision] at h
        cases h

/-- A recording policy that applies to the target: it is enabled, and one of its targets is a side
of the call in the direction that it records. -/
def Recorded (world : CallWorld) (event : InboundInviteOffered)
    (domain : DomainRuntimeConfig DomainTables) (candidate : OutboundCandidate) : Prop :=
  ∃ policy ∈ (world.business event.domainId).recordingPolicies, policy.enabled = true ∧
    ∃ ref ∈ policy.targets, policy.targetMatches (callerExtensionId domain event.callerNumber)
      event.trunkRef candidate.outboundTarget ref = true

/-- What holds of a call that is set up. -/
structure SetUp (readings : Readings) (event : InboundInviteOffered)
    (snapshot : CallConfigSnapshot) : Prop where
  numbers : snapshot.numbers.originalCaller = event.callerNumber ∧
    snapshot.numbers.originalCallee = event.calleeNumber
  admitted : (readings 0).admitsNewCall event.domainId = true
  permits : event.trunkRef = none →
    (readings 1).Permits event.domainId event.callerNumber
  reaches : ∀ candidate ∈ snapshot.candidates,
    Reaches readings event.domainId candidate.outboundTarget
  recorded : ∃ domain, (readings 0).domain event.domainId = some domain ∧ domain.enabled = true ∧
    ∀ candidate ∈ snapshot.candidates,
      candidate.recordingRequested = true ↔ Recorded (readings 0) event domain candidate

theorem recordingPolicyIds_ne_nil {callerId : Option UInt64} {trunkRef : Option String}
    {target : OutboundTarget} :
    (!(recordingPolicyIdsForCandidate business callerId trunkRef target).isEmpty) = true ↔
      ∃ policy ∈ business.recordingPolicies, policy.enabled = true ∧
        ∃ ref ∈ policy.targets, policy.targetMatches callerId trunkRef target ref = true := by
  simp [recordingPolicyIdsForCandidate, List.filter_eq_nil_iff]

/-- A call is set up as the readings allow, or refused with one of the listed statuses. -/
theorem createCall_decided (regex : Regex) {analyzers : List (NumberAnalyzer Readings)}
    (hRegistered : (registeredAnalyzers regex).Perm analyzers) (run : AnalysisRun)
    (event : InboundInviteOffered) (timeouts : CallTimeouts) (recordingDir : String)
    (readings : Readings) :
    (∃ snapshot, createCall regex (AnalysisRegistry.registerAll analyzers) run event timeouts
      recordingDir readings = .ok snapshot ∧ SetUp readings event snapshot) ∨
    ∃ status ∈ rejectionStatuses, createCall regex (AnalysisRegistry.registerAll analyzers) run
      event timeouts recordingDir readings = .error (.rejected status) := by
  rw [createCall]
  split
  · exact .inr ⟨404, by simp [rejectionStatuses], rfl⟩
  · next domain hDomain =>
      obtain ⟨hDomain, hEnabled⟩ := Option.filter_eq_some_iff.mp hDomain
      dsimp only
      split
      · next hAdmitted =>
          rcases inboundChoice_made regex event domain readings with
            ⟨status, hStatus, hChoice⟩ | ⟨choice, hChoice, hMade⟩
          · rw [hChoice]
            exact .inr ⟨status, hStatus, rfl⟩
          · rw [hChoice]
            have hSettled := resolveRoute_settled hRegistered run hMade hDomain
            dsimp only
            split
            · next refusal hRefusal =>
                rw [hRefusal] at hSettled
                obtain ⟨status, hStatus, rfl⟩ := hSettled
                exact .inr ⟨status, hStatus, rfl⟩
            · next route hRoute =>
                rw [hRoute] at hSettled
                obtain ⟨hCandidates, hReaches⟩ := hSettled
                rw [if_neg (by simpa using hCandidates), CallConfigSnapshot.new,
                  dif_neg (by simpa using hCandidates)]
                refine .inl ⟨_, rfl, ⟨rfl, rfl⟩, hAdmitted, fun hOffered => ?_,
                  fun candidate hMem => ?_, domain, hDomain, hEnabled, fun candidate hMem => ?_⟩
                · obtain ⟨hDirect, hCaller⟩ := hMade.offered hOffered
                  rw [← hMade.domainId, ← hCaller]
                  exact resolveRoute_permits hRegistered hDirect hRoute
                · obtain ⟨target, hTarget, rfl⟩ := List.mem_map.mp hMem
                  exact hReaches target hTarget
                · obtain ⟨target, hTarget, rfl⟩ := List.mem_map.mp hMem
                  exact recordingPolicyIds_ne_nil
      · exact .inr ⟨503, by simp [rejectionStatuses], rfl⟩

/-- The analysis matches no route without a trunk. -/
theorem analyzed_trunks {analyzers : List (NumberAnalyzer Readings)}
    (hRegistered : (registeredAnalyzers regex).Perm analyzers) {request : NumberAnalysisRequest}
    {route : TrunkRoute}
    (h : ((AnalysisRegistry.registerAll analyzers).analyze request readings).1 =
      .matched (.trunk route)) : route.trunks ≠ [] := by
  obtain ⟨⟨n, hDecides⟩, -⟩ := consult_decides request (analyzes_asked regex) readings
  rw [analyze_asked hRegistered] at h
  rcases hAnswer : consult request (askedAnalyzers regex) readings with ⟨decision, later⟩
  rw [hAnswer] at h hDecides
  cases decision with
  | «continue» => cases h
  | reject reject => cases h
  | matched result =>
      obtain rfl : result = .trunk route := RouteDecision.matched.inj h
      cases hDecides with
      | trunks hSome => exact hSome

/-- Every offer is settled: the call that is set up leads only to targets that its domain has and
that could be reached when they were looked up, and is recorded just when a policy says so, or the
offer is rejected with one of seven statuses. No route is left without candidates. The configuration
and the mirrors may change between any two reads, and the analyzers may have been registered in any
order. -/
theorem createCall_settled (regex : Regex) {analyzers : List (NumberAnalyzer Readings)}
    (hRegistered : (registeredAnalyzers regex).Perm analyzers) (run : AnalysisRun)
    (event : InboundInviteOffered) (timeouts : CallTimeouts) (recordingDir : String)
    (readings : Readings) :
    ((∃ snapshot, createCall regex (AnalysisRegistry.registerAll analyzers) run event timeouts
      recordingDir readings = .ok snapshot ∧ SetUp readings event snapshot) ∨
    ∃ status ∈ rejectionStatuses, createCall regex (AnalysisRegistry.registerAll analyzers) run
      event timeouts recordingDir readings = .error (.rejected status)) ∧
    (∀ request route, ((AnalysisRegistry.registerAll analyzers).analyze request readings.later).1 =
      .matched (.trunk route) → route.trunks ≠ []) ∧
    ∀ domain choice route, (readings 0).domain event.domainId = some domain →
      inboundChoice regex event domain ((readings 0).business event.domainId) = .ok choice →
      resolveRoute (AnalysisRegistry.registerAll analyzers) run event domain
        ((readings 0).business event.domainId) choice readings.later = .ok route →
      route.candidates ≠ [] := by
  refine ⟨createCall_decided regex hRegistered run event timeouts recordingDir readings,
    fun _ _ hMatched => analyzed_trunks hRegistered hMatched, ?_⟩
  intro domain choice route hDomain hChoice hRoute
  have hMade : ChoiceMade readings event choice := by
    rcases inboundChoice_made regex event domain readings with
      ⟨status, -, hRejected⟩ | ⟨made, hMade, hChoiceMade⟩
    · cases hChoice.symm.trans hRejected
    · obtain rfl := Except.ok.inj (hChoice.symm.trans hMade)
      exact hChoiceMade
  have hSettled := resolveRoute_settled hRegistered run hMade hDomain
  rw [hRoute] at hSettled
  exact hSettled.1

/-- An extension that is enabled and registered is reached, unless something changes between the
moments at which it is looked up. -/
theorem createCall_extension (regex : Regex) {analyzers : List (NumberAnalyzer Readings)}
    (hRegistered : (registeredAnalyzers regex).Perm analyzers) (timeouts : CallTimeouts)
    (recordingDir : String) {called : DomainRuntimeConfig DomainTables}
    {extension : ExtensionConfig}
    {number : ExtensionNumber} (hOffered : event.trunkRef = none)
    (hDomain : (readings 0).domain event.domainId = some domain) (hEnabled : domain.enabled = true)
    (hAdmitted : (readings 0).admitsNewCall event.domainId = true)
    (hPermits : (readings 1).Permits event.domainId event.callerNumber)
    (hCalled : (readings 2).domain event.domainId = some called)
    (hExtension : called.tables.extensions.find?
      (fun extension => extension.number = event.calleeNumber) = some extension)
    (hExtensionEnabled : extension.enabled = true)
    (hNumber : ExtensionNumber.parse extension.number = .ok number)
    (hRegisters : (readings 3).Registers event.domainId (toString extension.id)) :
    ∃ snapshot, createCall regex (AnalysisRegistry.registerAll analyzers) .finished event timeouts
      recordingDir readings = .ok snapshot ∧ snapshot.candidates.map (·.outboundTarget) =
        [.endpoint (toString extension.id) extension.number] := by
  obtain ⟨hReady, view, hView, hState⟩ := hRegisters
  let request : NumberAnalysisRequest :=
    ⟨event.domainId, event.callerNumber, event.calleeNumber⟩
  have hChoice : inboundChoice regex event domain ((readings 0).business event.domainId) =
      .ok ⟨none, none, .none, request⟩ := by
    rw [inboundChoice, hOffered]
  have hCaller : analyzeExtensionCaller request (readings 1) = .continue := by
    obtain ⟨asked, hAsked, hAll⟩ := hPermits
    rw [analyzeExtensionCaller, hAsked]
    dsimp only
    split
    · rfl
    · next caller hFound => rw [if_pos (hAll caller hFound)]
  have hCallee : analyzeExtensionCallee request (readings 2) = .matched (.extension {
      domainId := event.domainId
      extension := number
      endpoint := { endpointId := toString extension.id, number }
      transformedCaller := event.callerNumber
      transformedCallee := event.calleeNumber
      calleeSessionPlan := none }) := by
    rw [analyzeExtensionCallee, hCalled]
    dsimp only
    rw [hExtension]
    dsimp only
    rw [if_pos hExtensionEnabled, hNumber]
  have hConsult : consult request (askedAnalyzers regex) readings.later =
      (analyzeExtensionCallee request (readings 2), readings.later.later.later) := by
    have hFirst : extensionCallerAnalyzer.analyze request readings.later =
        (.continue, readings.later.later) := Prod.ext hCaller rfl
    have hSecond : extensionCalleeAnalyzer.analyze request readings.later.later =
        (analyzeExtensionCallee request (readings 2), readings.later.later.later) := rfl
    rw [askedAnalyzers, consult, hFirst]
    dsimp only
    rw [consult, hSecond, hCallee]
  have hRoute : Mirror.endpointResolvedRoute (readings 3).registrations event.domainId
      (toString extension.id) number.text event.callerNumber event.calleeNumber = some {
        signalingCallerNumber := event.callerNumber
        signalingCalleeNumber := event.calleeNumber
        candidates := [{
          outboundTarget := .endpoint (toString extension.id) number.text
          calleeRouteTarget := view.routeTarget }]
        outboundRouteId := none
        outboundRouteName := none } := by
    rw [Mirror.endpointResolvedRoute, hView]
    exact if_pos ⟨hState, hReady⟩
  rw [createCall, hDomain, Option.filter_some, if_pos hEnabled]
  dsimp only
  rw [if_pos hAdmitted, hChoice]
  unfold resolveRoute
  dsimp only
  rw [analyze_asked hRegistered, hConsult, hCallee]
  dsimp only [orNotFound, Readings.later, Readings.drop]
  rw [resolveDecision, resolveMatched, hRoute]
  refine ⟨_, rfl, ?_⟩
  rw [parse_text hNumber]
  rfl

/-- The domain has one extension, which is registered. -/
def officeDomain : DomainRuntimeConfig DomainTables :=
  { keptAlive with tables := { noContent.tables with
      extensions := [{ id := 7, number := "1001", enabled := true }] } }

def officeView : Mirror.RegistrationView where
  domainId := "domain-a"
  endpointId := "7"
  state := .registered
  contact := none
  routeTarget := some "192.0.2.7:5060"
  expiresAtMs := none
  userAgent := none
  version := some 1

def officeWorld : CallWorld where
  config := {
    system := { instanceId := "switch", dataDir := "data" }
    globals := []
    domains := [("domain-a", officeDomain)]
    version := 1 }
  trunks := noTrunks
  business := fun _ => {
    aiAgents := [], recordingPolicies := [], aiPolicies := []
    trunkDisplayName := fun _ => none, trunkRouteTarget := fun _ => none }
  registrations := {
    ready := true, snapshotInProgress := false
    items := [(endpointKey "domain-a" "7", officeView)] }
  admitsNewCall := fun _ => true

def officeOffer : InboundInviteOffered where
  domainId := "domain-a"
  callerNumber := "1000"
  calleeNumber := "1001"
  origin := some .endpoint

def officeNumber : ExtensionNumber where
  text := "1001"
  valid := by decide

/-- A registered extension of an office is called. -/
theorem createCall_settled_office :
    ∃ snapshot, createCall anyNumber (AnalysisRegistry.registerAll (registeredAnalyzers anyNumber))
      .finished officeOffer {} "recordings" (fun _ => officeWorld) = .ok snapshot ∧
        SetUp (fun _ => officeWorld) officeOffer snapshot ∧ snapshot.candidates ≠ [] := by
  have hDomain : officeWorld.domain "domain-a" = some officeDomain := rfl
  obtain ⟨made, hMade, hTarget⟩ :=
    @createCall_extension officeOffer (fun _ => officeWorld) officeDomain
    anyNumber _ (List.Perm.refl _) {} "recordings" officeDomain
    { id := 7, number := "1001", enabled := true } officeNumber rfl hDomain rfl rfl
    ⟨officeDomain, hDomain, fun extension hFound => by cases hFound⟩ hDomain rfl rfl rfl
    ⟨rfl, officeView, rfl, rfl⟩
  rcases (createCall_settled anyNumber (List.Perm.refl _) .finished officeOffer {} "recordings"
    (fun _ => officeWorld)).1 with ⟨snapshot, hSnapshot, hSetUp⟩ | ⟨status, -, hRejected⟩
  · refine ⟨snapshot, hSnapshot, hSetUp, fun hNone => ?_⟩
    obtain rfl := Except.ok.inj (hMade.symm.trans hSnapshot)
    rw [hNone] at hTarget
    cases hTarget
  · rw [hMade] at hRejected
    cases hRejected

end Settled

end VoipSwitch
