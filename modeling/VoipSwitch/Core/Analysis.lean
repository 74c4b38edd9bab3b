import VoipSwitch.Core.Types
import VoipSwitch.Lib.Json
import VoipSwitch.Lib.Ranking
import Mathlib.Data.List.Induction
import Mathlib.Data.List.Nodup

/-! The analysis of a called number. Analyzers are registered with a phase and a priority, and
they are asked in that order until one of them decides. -/
namespace VoipSwitch

open Document Ranking

inductive AnalysisPhase where
  | callerAnalysis
  | callerBusinessAnalysis
  | calleePreAnalysis
  | inboundRoute
  | calleeAnalysis
  | calleeBusinessAnalysis
  | outboundRoute
  | resultHook
deriving DecidableEq

namespace AnalysisPhase

/-- The derived order, which is that of the declaration. -/
def rank : AnalysisPhase → Nat
  | callerAnalysis => 0
  | callerBusinessAnalysis => 1
  | calleePreAnalysis => 2
  | inboundRoute => 3
  | calleeAnalysis => 4
  | calleeBusinessAnalysis => 5
  | outboundRoute => 6
  | resultHook => 7

/-- The order in which the phases are run. -/
def ordered : List AnalysisPhase :=
  [callerAnalysis, callerBusinessAnalysis, calleePreAnalysis, inboundRoute, calleeAnalysis,
    calleeBusinessAnalysis, outboundRoute, resultHook]

/-- The phases are declared in the order in which they are run. -/
theorem rank_eq_idxOf (phase : AnalysisPhase) : phase.rank = ordered.idxOf phase := by
  cases phase <;> rfl

theorem mem_ordered (phase : AnalysisPhase) : phase ∈ ordered := by
  cases phase <;> decide

theorem ordered_ascends : ordered.Pairwise fun a b => a.rank < b.rank := by decide

theorem ordered_nodup : ordered.Nodup := by decide

end AnalysisPhase

structure NumberAnalysisRequest where
  domainId : DomainId
  caller : String
  callee : String
deriving DecidableEq

inductive RouteRejectReason where
  | invalidNumberFormat
  | noSuchExtension
  | noBusinessModuleMatch
  | unsupportedBusinessTarget
  | businessTargetNotFound
  | businessTargetDisabled
  | businessTargetUnavailable
  | businessTargetBusy
  | noAvailableTrunk
  | domainDisabled
  | forbidden
  | internalError
deriving DecidableEq

structure RouteReject where
  cause : HangupCause
  sipStatus : Nat
  reason : RouteRejectReason
deriving DecidableEq

def RouteReject.notFound (reason : RouteRejectReason) : RouteReject where
  cause := .noRoute
  sipStatus := 404
  reason

structure CalleeHook where
  module : String
  name : String
  arguments : Json

structure CalleeSessionPlan where
  businessModule : Option String
  initialState : Json
  hooks : List CalleeHook
  routeVariables : List (String × Json)

structure ExtensionRoute where
  domainId : DomainId
  extension : ExtensionNumber
  endpoint : EndpointRef
  transformedCaller : String
  transformedCallee : String
  calleeSessionPlan : Option CalleeSessionPlan

inductive CalleeSetPolicy where
  | single
  | parallelFirstAnswer
  | sequentialHunt
deriving DecidableEq

structure CalleeAttemptPlan where
  target : CalleeTarget
  calleeSessionPlan : Option CalleeSessionPlan

structure CalleeSetRoute where
  domainId : DomainId
  members : List CalleeAttemptPlan
  policy : CalleeSetPolicy
  originalCaller : String
  originalCallee : String
  transformedCaller : String
  transformedCallee : String

structure BusinessModuleRoute where
  domainId : DomainId
  module : String
  targetId : String
  originalCaller : String
  originalCallee : String
  transformedCaller : String
  transformedCallee : String
  calleeSessionPlan : Option CalleeSessionPlan

structure TrunkCandidate where
  trunkId : TrunkId
deriving DecidableEq

structure TrunkRoute where
  domainId : DomainId
  routeId : String
  routeName : String
  trunks : List TrunkCandidate
  originalCaller : String
  originalCallee : String
  transformedCaller : String
  transformedCallee : String
deriving DecidableEq

inductive RouteResult where
  | extension (route : ExtensionRoute)
  | calleeSet (route : CalleeSetRoute)
  | businessModule (route : BusinessModuleRoute)
  | trunk (route : TrunkRoute)

inductive RouteDecision where
  | continue
  | matched (result : RouteResult)
  | reject (reject : RouteReject)

/-- An analyzer may read, and change, what it finds in the world around it. -/
structure NumberAnalyzer (σ : Type) where
  name : String
  phase : AnalysisPhase
  priority : Int
  analyze : NumberAnalysisRequest → σ → RouteDecision × σ

structure AnalyzerEntry (σ : Type) where
  analyzer : NumberAnalyzer σ
  registeredOrder : Nat

/-- How `register` compares entries. -/
def AnalyzerEntry.key {σ : Type} (entry : AnalyzerEntry σ) : ℕ ×ₗ (ℤ ×ₗ ℕ) :=
  toLex (entry.analyzer.phase.rank, toLex (entry.analyzer.priority, entry.registeredOrder))

structure AnalysisRegistry (σ : Type) where
  analyzers : List (AnalyzerEntry σ)
  nextRegisteredOrder : Nat

/-- The analyzers are asked one after the other, until one decides. -/
def consult {σ : Type} (request : NumberAnalysisRequest) :
    List (NumberAnalyzer σ) → σ → RouteDecision × σ
  | [], world => (.continue, world)
  | analyzer :: rest, world =>
    match analyzer.analyze request world with
    | (.continue, world) => consult request rest world
    | decided => decided

namespace AnalysisRegistry

variable {σ : Type}

def empty : AnalysisRegistry σ where
  analyzers := []
  nextRegisteredOrder := 0

/-- The analyzers are sorted again with every registration. -/
def register (analyzer : NumberAnalyzer σ) (registry : AnalysisRegistry σ) :
    Nat × AnalysisRegistry σ :=
  let registeredOrder := registry.nextRegisteredOrder
  (registeredOrder, {
    analyzers := ranked AnalyzerEntry.key (registry.analyzers ++ [{ analyzer, registeredOrder }])
    nextRegisteredOrder := registeredOrder + 1 })

def analyzePhase (phase : AnalysisPhase) (request : NumberAnalysisRequest)
    (registry : AnalysisRegistry σ) (world : σ) : RouteDecision × σ :=
  consult request
    ((registry.analyzers.filter fun entry => entry.analyzer.phase = phase).map (·.analyzer)) world

/-- The phases in turn, and what is answered when none of them decides. -/
def analyzePhases (request : NumberAnalysisRequest) (registry : AnalysisRegistry σ) :
    List AnalysisPhase → σ → RouteDecision × σ
  | [], world => (.reject (.notFound .noBusinessModuleMatch), world)
  | phase :: phases, world =>
    match registry.analyzePhase phase request world with
    | (.continue, world) => registry.analyzePhases request phases world
    | decided => decided

def analyze (request : NumberAnalysisRequest) (registry : AnalysisRegistry σ) (world : σ) :
    RouteDecision × σ :=
  registry.analyzePhases request AnalysisPhase.ordered world

/-- The registry after registrations, from an empty one. -/
def registerAll (analyzers : List (NumberAnalyzer σ)) : AnalysisRegistry σ :=
  analyzers.foldl (fun registry analyzer => (registry.register analyzer).2) .empty

end AnalysisRegistry

section Order

variable {σ : Type} {analyzers others : List (NumberAnalyzer σ)} {registry : AnalysisRegistry σ}
  {request : NumberAnalysisRequest} {world : σ}

/-- Analyzers with the order in which they are registered. -/
def entriesOf (analyzers : List (NumberAnalyzer σ)) : List (AnalyzerEntry σ) :=
  analyzers.zipIdx.map fun entry => { analyzer := entry.1, registeredOrder := entry.2 }

theorem entriesOf_append (analyzers : List (NumberAnalyzer σ)) (analyzer : NumberAnalyzer σ) :
    entriesOf (analyzers ++ [analyzer]) =
      entriesOf analyzers ++ [{ analyzer, registeredOrder := analyzers.length }] := by
  simp [entriesOf, List.zipIdx_append]

theorem analyzers_entriesOf (analyzers : List (NumberAnalyzer σ)) :
    (entriesOf analyzers).map (·.analyzer) = analyzers := by
  rw [entriesOf, List.map_map]
  exact List.zipIdx_map_fst 0 analyzers

theorem registeredOrder_entriesOf (analyzers : List (NumberAnalyzer σ)) :
    (entriesOf analyzers).map (·.registeredOrder) = List.range' 0 analyzers.length := by
  rw [entriesOf, List.map_map]
  exact List.zipIdx_map_snd 0 analyzers

/-- No two entries are registered as one. -/
theorem entriesOf_distinct (analyzers : List (NumberAnalyzer σ)) :
    Distinct AnalyzerEntry.key (entriesOf analyzers) := by
  have hNodup : ((entriesOf analyzers).map (·.registeredOrder)).Nodup := by
    rw [registeredOrder_entriesOf]
    exact List.nodup_range'
  apply (List.pairwise_map.mp hNodup).imp
  intro a b hNe hKey
  apply hNe
  have hParts := toLex_inj.mp hKey
  have hRest := toLex_inj.mp (Prod.mk.inj hParts).2
  exact (Prod.mk.inj hRest).2

/-- What the registrations leave behind: all entries, in order. -/
theorem AnalysisRegistry.registerAll_eq (analyzers : List (NumberAnalyzer σ)) :
    registerAll analyzers = {
      analyzers := ranked AnalyzerEntry.key (entriesOf analyzers)
      nextRegisteredOrder := analyzers.length } := by
  induction analyzers using List.reverseRecOn with
  | nil => rfl
  | append_singleton analyzers analyzer ih =>
      have hDistinct := entriesOf_distinct (analyzers ++ [analyzer])
      rw [entriesOf_append] at hDistinct ⊢
      rw [registerAll, List.foldl_append, ← registerAll, ih]
      simp only [List.foldl_cons, List.foldl_nil, register, List.length_append, List.length_cons,
        List.length_nil, ranked_ranked_append hDistinct]

theorem consult_append (request : NumberAnalysisRequest) (first second : List (NumberAnalyzer σ))
    (world : σ) : consult request (first ++ second) world =
      match consult request first world with
      | (.continue, world) => consult request second world
      | decided => decided := by
  induction first generalizing world with
  | nil => rfl
  | cons analyzer first ih =>
      rw [List.cons_append, consult, consult]
      split
      · exact ih _
      · next hDecided =>
          split
          · next hEq => exact (hDecided _ hEq).elim
          · rfl

/-- The phases, one after the other, are one walk through the analyzers. -/
theorem AnalysisRegistry.analyzePhases_eq (request : NumberAnalysisRequest)
    (registry : AnalysisRegistry σ) (phases : List AnalysisPhase) (world : σ) :
    registry.analyzePhases request phases world =
      match consult request ((phases.flatMap fun phase =>
        registry.analyzers.filter fun entry => entry.analyzer.phase = phase).map (·.analyzer))
          world with
      | (.continue, world) => (.reject (.notFound .noBusinessModuleMatch), world)
      | decided => decided := by
  induction phases generalizing world with
  | nil => rfl
  | cons phase phases ih =>
      rw [analyzePhases, List.flatMap_cons, List.map_append, consult_append, analyzePhase]
      split
      · exact ih _
      · next hDecided =>
          split
          · next hEq => exact (hDecided _ hEq).elim
          · rfl

/-- In a list in the order of registrations the phases come one after the other. -/
theorem phases_of_ranked {entries : List (AnalyzerEntry σ)}
    (h : Ranked AnalyzerEntry.key entries) (hDistinct : Distinct AnalyzerEntry.key entries) :
    (AnalysisPhase.ordered.flatMap fun phase =>
      entries.filter fun entry => entry.analyzer.phase = phase) = entries := by
  have hPerm : (AnalysisPhase.ordered.flatMap fun phase =>
      entries.filter fun entry => entry.analyzer.phase = phase).Perm entries :=
    flatMap_filter_perm (fun entry : AnalyzerEntry σ => entry.analyzer.phase)
      AnalysisPhase.ordered_nodup fun entry _ => entry.analyzer.phase.mem_ordered
  apply Ranked.eq_of_perm _ h (hDistinct.perm hPerm.symm) hPerm
  rw [Ranked, List.pairwise_flatMap]
  constructor
  · intro phase _
    exact h.sublist List.filter_sublist
  · -- An entry of an earlier phase comes first, whatever its priority.
    apply AnalysisPhase.ordered_ascends.imp
    intro first second hRank a hA b hB
    rw [List.mem_filter, decide_eq_true_eq] at hA hB
    rw [AnalyzerEntry.key, AnalyzerEntry.key, Prod.Lex.toLex_le_toLex, hA.2, hB.2]
    exact .inl hRank

/-- A request walks through all analyzers in the order of their entries. -/
theorem AnalysisRegistry.analyze_registerAll (analyzers : List (NumberAnalyzer σ))
    (request : NumberAnalysisRequest) (world : σ) :
    (registerAll analyzers).analyze request world =
      match consult request
        ((ranked AnalyzerEntry.key (entriesOf analyzers)).map (·.analyzer)) world with
      | (.continue, world) => (.reject (.notFound .noBusinessModuleMatch), world)
      | decided => decided := by
  rw [analyze, analyzePhases_eq, registerAll_eq, phases_of_ranked (ranked_ranked _ _)]
  exact (entriesOf_distinct analyzers).perm (ranked_perm _ _).symm

/-- Analyzers that were asked and did not decide, and the world before and after that. -/
inductive Passes (request : NumberAnalysisRequest) : List (NumberAnalyzer σ) → σ → σ → Prop
  | nil (world : σ) : Passes request [] world world
  | cons {analyzer : NumberAnalyzer σ} {rest : List (NumberAnalyzer σ)} {world next last : σ}
      (hContinue : analyzer.analyze request world = (.continue, next))
      (hRest : Passes request rest next last) : Passes request (analyzer :: rest) world last

/-- Who decides: the first analyzer that does not pass, and none after it is asked. -/
theorem consult_cases (request : NumberAnalysisRequest) (analyzers : List (NumberAnalyzer σ))
    (world : σ) :
    (∃ before analyzer after reached, analyzers = before ++ analyzer :: after ∧
      Passes request before world reached ∧
      (analyzer.analyze request reached).1 ≠ .continue ∧
      consult request analyzers world = analyzer.analyze request reached) ∨
    ∃ last, Passes request analyzers world last ∧
      consult request analyzers world = (.continue, last) := by
  induction analyzers generalizing world with
  | nil => exact .inr ⟨world, .nil world, rfl⟩
  | cons analyzer rest ih =>
      rw [consult]
      split
      · next next hContinue =>
          rcases ih next with ⟨before, decider, after, reached, rfl, hPasses, hDecides, hEq⟩ |
            ⟨last, hPasses, hEq⟩
          · exact .inl ⟨analyzer :: before, decider, after, reached, rfl,
              .cons hContinue hPasses, hDecides, hEq⟩
          · exact .inr ⟨last, .cons hContinue hPasses, hEq⟩
      · next hDecided =>
          refine .inl ⟨[], analyzer, rest, world, rfl, .nil world, ?_, rfl⟩
          intro hContinue
          exact hDecided (analyzer.analyze request world).2 (Prod.ext hContinue rfl)

/-- Where a registration stands: the phases in the order in which they are run, then the priority,
then the order of the registrations. -/
def AnalyzerEntry.place (entry : AnalyzerEntry σ) : ℕ ×ₗ (ℤ ×ₗ ℕ) :=
  toLex (AnalysisPhase.ordered.idxOf entry.analyzer.phase,
    toLex (entry.analyzer.priority, entry.registeredOrder))

theorem AnalyzerEntry.key_eq_place : (AnalyzerEntry.key : AnalyzerEntry σ → _) = place := by
  funext entry
  rw [key, place, AnalysisPhase.rank_eq_idxOf]

/-- The phase of an analyzer and its priority in it. -/
def NumberAnalyzer.slot (analyzer : NumberAnalyzer σ) : ℕ ×ₗ ℤ :=
  toLex (analyzer.phase.rank, analyzer.priority)

/-- In slots of their own, the analyzers are asked in the order of the slots. -/
theorem analyzers_of_distinct (h : Distinct NumberAnalyzer.slot analyzers) :
    (ranked AnalyzerEntry.key (entriesOf analyzers)).map (·.analyzer) =
      ranked NumberAnalyzer.slot analyzers := by
  have hPerm : ((ranked AnalyzerEntry.key (entriesOf analyzers)).map (·.analyzer)).Perm
      analyzers := by
    have hEntries := (ranked_perm AnalyzerEntry.key (entriesOf analyzers)).map (·.analyzer)
    rwa [analyzers_entriesOf] at hEntries
  apply Ranked.eq_of_perm _ (ranked_ranked _ _) (h.perm hPerm.symm)
    (hPerm.trans (ranked_perm _ _).symm)
  apply List.pairwise_map.mpr
  apply (ranked_ranked AnalyzerEntry.key (entriesOf analyzers)).imp
  intro a b hLe
  rw [NumberAnalyzer.slot, NumberAnalyzer.slot, Prod.Lex.toLex_le_toLex]
  rw [AnalyzerEntry.key, AnalyzerEntry.key, Prod.Lex.toLex_le_toLex] at hLe
  rcases hLe with hRank | ⟨hRank, hRest⟩
  · exact .inl hRank
  · refine .inr ⟨hRank, ?_⟩
    rcases Prod.Lex.toLex_le_toLex.mp hRest with hPriority | ⟨hPriority, -⟩
    · exact hPriority.le
    · exact hPriority.le

/-- A request is decided by the first analyzer that does not pass, in the order of phase, priority
and registration, and none after it is asked; if all pass, it is rejected as not found. Analyzers
in slots of their own can be registered in any order. -/
theorem AnalysisRegistry.analyze_in_order (analyzers : List (NumberAnalyzer σ)) :
    (∃ order : List (AnalyzerEntry σ), order.Perm (entriesOf analyzers) ∧
      Ranked AnalyzerEntry.place order ∧ ∀ request world,
        (∃ before analyzer after reached,
          order.map (·.analyzer) = before ++ analyzer :: after ∧
          Passes request before world reached ∧
          (analyzer.analyze request reached).1 ≠ .continue ∧
          (registerAll analyzers).analyze request world = analyzer.analyze request reached) ∨
        ∃ last, Passes request (order.map (·.analyzer)) world last ∧
          (registerAll analyzers).analyze request world =
            (.reject (.notFound .noBusinessModuleMatch), last)) ∧
    ∀ others, analyzers.Perm others → Distinct NumberAnalyzer.slot analyzers →
      ∀ request world, (registerAll others).analyze request world =
        (registerAll analyzers).analyze request world := by
  constructor
  · refine ⟨ranked AnalyzerEntry.key (entriesOf analyzers), ranked_perm _ _, ?_, ?_⟩
    · rw [← AnalyzerEntry.key_eq_place]
      exact ranked_ranked _ _
    · intro request world
      rw [analyze_registerAll]
      rcases consult_cases request ((ranked AnalyzerEntry.key (entriesOf analyzers)).map
        (·.analyzer))
          world with ⟨before, analyzer, after, reached, hOrder, hPasses, hDecides, hEq⟩ |
          ⟨last, hPasses, hEq⟩
      · refine .inl ⟨before, analyzer, after, reached, hOrder, hPasses, hDecides, ?_⟩
        rw [hEq]
        split
        · next hContinue => rw [hContinue] at hDecides; exact (hDecides rfl).elim
        · rfl
      · refine .inr ⟨last, hPasses, ?_⟩
        rw [hEq]
  · intro others hPerm hDistinct request world
    rw [analyze_registerAll, analyze_registerAll, analyzers_of_distinct hDistinct,
      analyzers_of_distinct (hDistinct.perm hPerm), ranked_eq_of_perm hDistinct hPerm]

end Order

/-- An analyzer that notes that it was asked. -/
def probeAnalyzer (name : String) (phase : AnalysisPhase) (decision : RouteDecision) :
    NumberAnalyzer (List String) where
  name
  phase
  priority := 100
  analyze _ calls := (decision, calls ++ [name])

def probes : List (NumberAnalyzer (List String)) :=
  [probeAnalyzer "hook" .resultHook .continue,
    probeAnalyzer "callee" .calleeAnalysis (.reject (.notFound .noSuchExtension)),
    probeAnalyzer "caller" .callerAnalysis .continue]

/-- The callee's analyzer decides in either order of registration, and the hook is not asked. -/
theorem AnalysisRegistry.analyze_in_order_probes :
    (registerAll probes.reverse).analyze
        { domainId := "default", caller := "1000", callee := "1001" } [] =
      (.reject (.notFound .noSuchExtension), ["caller", "callee"]) := by
  rw [(analyze_in_order probes).2 probes.reverse (List.reverse_perm _).symm (by
    rw [Distinct, probes]
    decide)]
  rfl

end VoipSwitch
