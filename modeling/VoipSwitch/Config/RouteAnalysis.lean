import VoipSwitch.Core.Analysis
import VoipSwitch.Session.Mirrors
import VoipSwitch.Store.Pagination

/-! The route of a call: the first of the loaded routes whose patterns match its numbers, and whose
transformations are defined for them. -/
namespace VoipSwitch

open Keyed Ranking Mirror

/-- What a compiled pattern says of a text; nothing if it does not compile. -/
abbrev Regex : Type := String → Option (String → Bool)

inductive InboundRouteTarget where
  | reject
  | auto
  | extension (number : String)
  | aiAgent (agentId : String)
deriving DecidableEq

structure InboundRouteMatch where
  routeId : String
  routeName : String
  transformedCaller : String
  transformedCallee : String
  target : InboundRouteTarget
deriving DecidableEq

section Load

/-- `load_inbound_routes`. -/
def loadInboundRoutes (db : DomainConfigDb) : Except String (List InboundRouteConfig) :=
  (db.inboundRoute.insertionSort fun a b =>
    priorityOrder (a.priority, a.id) (b.priority, b.id)).mapM inboundFromRow

/-- The references of a route, in the order of their positions. -/
def DomainConfigDb.trunkRefsOf (db : DomainConfigDb) (id : Int) : List String :=
  ((db.outboundRouteTrunks.insertionSort fun a b =>
    priorityOrder (a.routeId, a.position) (b.routeId, b.position)).filter
      (·.routeId = id)).map (·.trunkRef)

/-- `load_outbound_routes`. The references are queried after the routes. -/
def loadOutboundRoutes (db later : DomainConfigDb) : Except String (List OutboundRouteConfig) :=
  (db.outboundRoute.insertionSort fun a b =>
    priorityOrder (a.priority, a.id) (b.priority, b.id)).mapM fun row =>
      outboundFromRow row (later.trunkRefsOf row.id)

end Load

section Analysis

variable (regex : Regex)

/-- The pattern has to match all of the number. -/
def patternMatches (pattern number : String) : Bool :=
  (regex ("\\A(?:" ++ pattern ++ ")\\z")).any fun isMatch => isMatch number

def inboundRouteMatches (route : InboundRouteConfig) (caller callee : String) : Bool :=
  patternMatches regex route.dstPattern callee &&
    route.srcPattern.all fun pattern => patternMatches regex pattern caller

def routeMatches (route : OutboundRouteConfig) (caller callee : String) : Bool :=
  patternMatches regex route.dstPattern callee &&
    route.srcPattern.all fun pattern => patternMatches regex pattern caller

/-- So many characters are stripped; a number that is shorter has no transformation. -/
def transformNumber (number : String) (strip : UInt8) (start ending : String) : Option String :=
  let chars := number.toList
  let suffix :=
    if strip.toNat < chars.length then some (chars.drop strip.toNat)
    else if chars.length = strip.toNat then some []
    else none
  suffix.map fun rest => start ++ String.ofList rest ++ ending

def inboundRouteTarget (target : String) : Option InboundRouteTarget :=
  if target = "rej" then some .reject
  else if target = "auto" then some .auto
  else
    match stripStart "ai_agent:" target with
    | some agentId => some (.aiAgent agentId)
    | none => (stripStart "ext-" target).map .extension

/-- One turn of the loop over the routes: it returns something, or the next route is tried. -/
def tryInboundRoute (caller callee : String) (route : InboundRouteConfig) :
    Option (Option InboundRouteMatch) :=
  if inboundRouteMatches regex route caller callee then
    match transformNumber caller route.srcStrip route.srcPrefix route.srcSuffix,
      transformNumber callee route.dstStrip route.dstPrefix route.dstSuffix with
    | some transformedCaller, some transformedCallee =>
        some ((inboundRouteTarget route.target).map fun target => {
          routeId := toString route.id
          routeName := route.name
          transformedCaller
          transformedCallee
          target })
    | _, _ => none
  else none

/-- The routes of the trunk come before those of any trunk. -/
def analyzeInboundRoute (domain : DomainRuntimeConfig DomainTables)
    (trunkRef caller callee : String) : Option InboundRouteMatch :=
  ([trunkRef, ""].findSome? fun trunkMatch =>
    (domain.tables.inboundRoutes.filter fun route =>
      route.enabled && route.trunkMatch = trunkMatch).findSome?
        (tryInboundRoute regex caller callee)).join

/-- The part of the state that outbound routing reads: the configuration once, and the trunks anew
for each reference of the route that it takes. -/
structure RoutingState where
  config : RuntimeConfig DomainTables
  trunks : Nat → TrunkRuntimeMirror

def noAvailableTrunk : RouteReject where
  cause := .temporaryFailure
  sipStatus := 503
  reason := .noAvailableTrunk

/-- The trunks of a route that can take a call, in the order of its references. -/
def availableTrunks (state : RoutingState) (domain : DomainRuntimeConfig DomainTables)
    (route : OutboundRouteConfig) : List TrunkCandidate :=
  (route.trunkRefs.zipIdx.filter fun ref => trunkAvailable (state.trunks ref.2) domain ref.1).map
    fun ref => { trunkId := ref.1 }

def tryOutboundRoute (state : RoutingState) (domain : DomainRuntimeConfig DomainTables)
    (request : NumberAnalysisRequest) (route : OutboundRouteConfig) : Option RouteDecision :=
  if routeMatches regex route request.caller request.callee then
    match transformNumber request.caller route.srcStrip route.srcPrefix route.srcSuffix,
      transformNumber request.callee route.dstStrip route.dstPrefix route.dstSuffix with
    | some transformedCaller, some transformedCallee =>
        let trunks := availableTrunks state domain route
        if trunks.isEmpty then some (.reject noAvailableTrunk)
        else
          some (.matched (.trunk {
            domainId := request.domainId
            routeId := toString route.id
            routeName := route.name
            trunks
            originalCaller := request.caller
            originalCallee := request.callee
            transformedCaller
            transformedCallee }))
    | _, _ => none
  else none

def analyzeOutboundRoute (request : NumberAnalysisRequest) (state : RoutingState) :
    RouteDecision :=
  match state.config.domains.lookup request.domainId with
  | none => .continue
  | some domain =>
      ((domain.tables.outboundRoutes.filter (·.enabled)).findSome?
        (tryOutboundRoute regex state domain request)).getD .continue

def outboundRouteAnalyzer : NumberAnalyzer RoutingState where
  name := "outbound-route"
  phase := .outboundRoute
  priority := 100
  analyze request state := (analyzeOutboundRoute regex request state, state)

end Analysis

section Order

variable {db later : DomainConfigDb}

def InboundRouteConfig.order (route : InboundRouteConfig) : ℕ ×ₗ ℕ :=
  toLex (route.priority.toNat, route.id.toNat)

def OutboundRouteConfig.order (route : OutboundRouteConfig) : ℕ ×ₗ ℕ :=
  toLex (route.priority.toNat, route.id.toNat)

theorem priorityOrder_iff (first second : Int × Int) :
    priorityOrder first second = true ↔ toLex first ≤ toLex second := by
  rw [priorityOrder, Prod.Lex.toLex_le_toLex]
  simp

theorem positiveId_toNat {value : Int} {id : UInt64} (hColumn : value ≤ i64Max)
    (h : positiveId value = .ok id) : (id.toNat : ℤ) = value := by
  rw [positiveId] at h
  split_ifs at h with hNegative hZero
  rw [← Except.ok.inj h, UInt64.toNat_ofNat', Nat.mod_eq_of_lt (by
    rw [i64Max] at hColumn
    omega)]
  exact Int.toNat_of_nonneg (not_lt.mp hNegative)

theorem u16FromRow_toNat {field : String} {value : Int} {number : UInt16}
    (h : u16FromRow field value = .ok number) : (number.toNat : ℤ) = value := by
  rw [u16FromRow] at h
  split_ifs at h with hRange
  rw [← Except.ok.inj h, UInt16.toNat_ofNat', Nat.mod_eq_of_lt (by omega)]
  exact Int.toNat_of_nonneg hRange.1

theorem inboundFromRow_order {row : InboundRouteRow} {route : InboundRouteConfig}
    (hColumn : row.id ≤ i64Max) (h : inboundFromRow row = .ok route) :
    (route.priority.toNat : ℤ) = row.priority ∧ (route.id.toNat : ℤ) = row.id := by
  rw [inboundFromRow] at h
  obtain ⟨id, hId, h⟩ := ok_of_bind h
  obtain ⟨_, _, h⟩ := ok_of_bind h
  obtain ⟨_, _, h⟩ := ok_of_bind h
  obtain ⟨priority, hPriority, h⟩ := ok_of_bind h
  rw [← Except.ok.inj h]
  exact ⟨u16FromRow_toNat hPriority, positiveId_toNat hColumn hId⟩

theorem outboundFromRow_order {row : OutboundRouteRow} {route : OutboundRouteConfig}
    {trunkRefs : List String} (hColumn : row.id ≤ i64Max)
    (h : outboundFromRow row trunkRefs = .ok route) :
    (route.priority.toNat : ℤ) = row.priority ∧ (route.id.toNat : ℤ) = row.id ∧
      route.trunkRefs = trunkRefs := by
  rw [outboundFromRow] at h
  obtain ⟨id, hId, h⟩ := ok_of_bind h
  obtain ⟨_, _, h⟩ := ok_of_bind h
  obtain ⟨_, _, h⟩ := ok_of_bind h
  obtain ⟨priority, hPriority, h⟩ := ok_of_bind h
  rw [← Except.ok.inj h]
  exact ⟨u16FromRow_toNat hPriority, positiveId_toNat hColumn hId, rfl⟩

/-- Rows and routes are in one order. -/
theorem order_of_rows {priority id : ℤ} {otherPriority otherId : ℤ}
    {first second : ℕ × ℕ} (hPriority : (first.1 : ℤ) = priority) (hId : (first.2 : ℤ) = id)
    (hOtherPriority : (second.1 : ℤ) = otherPriority) (hOtherId : (second.2 : ℤ) = otherId)
    (h : priorityOrder (priority, id) (otherPriority, otherId) = true) :
    toLex first ≤ toLex second := by
  rw [priorityOrder_iff, Prod.Lex.toLex_le_toLex] at h
  rw [Prod.Lex.toLex_le_toLex]
  subst hPriority hId hOtherPriority hOtherId
  simp only at h
  rcases h with hLess | ⟨hSame, hLe⟩
  · exact .inl (by exact_mod_cast hLess)
  · exact .inr ⟨by exact_mod_cast hSame, by exact_mod_cast hLe⟩

theorem sorted_rows {α : Type} (place : α → Int × Int) (rows : List α) :
    (rows.insertionSort fun a b => priorityOrder (place a) (place b)).Pairwise fun a b =>
      priorityOrder (place a) (place b) = true := by
  have : Std.Total fun a b => priorityOrder (place a) (place b) = true := ⟨fun a b => by
    rw [priorityOrder_iff, priorityOrder_iff]
    exact le_total _ _⟩
  have : IsTrans α fun a b => priorityOrder (place a) (place b) = true := ⟨fun a b c => by
    rw [priorityOrder_iff, priorityOrder_iff, priorityOrder_iff]
    exact le_trans⟩
  exact List.pairwise_insertionSort _ rows

/-- The loaded routes are ranked by priority and id. -/
theorem loadInboundRoutes_ranked (hColumns : ∀ row ∈ db.inboundRoute, row.id ≤ i64Max)
    {routes : List InboundRouteConfig} (h : loadInboundRoutes db = .ok routes) :
    Ranked InboundRouteConfig.order routes := by
  apply pairwise_of_forall₂ _ (forall₂_mem (forall₂_of_mapM h))
    (sorted_rows (fun row => (row.priority, row.id)) db.inboundRoute)
  intro row other route otherRoute hRow hOther hOrder
  have hRoute := inboundFromRow_order (hColumns row ((List.mem_insertionSort _).mp hRow.1)) hRow.2
  have hOtherRoute :=
    inboundFromRow_order (hColumns other ((List.mem_insertionSort _).mp hOther.1)) hOther.2
  exact order_of_rows hRoute.1 hRoute.2 hOtherRoute.1 hOtherRoute.2 hOrder

theorem loadOutboundRoutes_ranked (hColumns : ∀ row ∈ db.outboundRoute, row.id ≤ i64Max)
    {routes : List OutboundRouteConfig} (h : loadOutboundRoutes db later = .ok routes) :
    Ranked OutboundRouteConfig.order routes ∧
      ∀ route ∈ routes, route.trunkRefs = later.trunkRefsOf route.id.toNat := by
  have hRows := forall₂_mem (forall₂_of_mapM h)
  have hRead : ∀ row ∈ db.outboundRoute.insertionSort fun a b =>
      priorityOrder (a.priority, a.id) (b.priority, b.id), row.id ≤ i64Max :=
    fun row hMem => hColumns row ((List.mem_insertionSort _).mp hMem)
  constructor
  · apply pairwise_of_forall₂ _ hRows
      (sorted_rows (fun row => (row.priority, row.id)) db.outboundRoute)
    intro row other route otherRoute hRow hOther hOrder
    have hRoute := outboundFromRow_order (hRead row hRow.1) hRow.2
    have hOtherRoute := outboundFromRow_order (hRead other hOther.1) hOther.2
    exact order_of_rows hRoute.1 hRoute.2.1 hOtherRoute.1 hOtherRoute.2.1 hOrder
  · intro route hMem
    obtain ⟨index, hIndex, rfl⟩ := List.getElem_of_mem hMem
    have hLength := hRows.length_eq
    have hRow := (List.forall₂_iff_get.mp hRows).2 index (by omega) hIndex
    simp only [List.get_eq_getElem] at hRow
    have hRoute := outboundFromRow_order (hRead _ hRow.1) hRow.2
    rw [hRoute.2.2, hRoute.2.1]

end Order

section Choice

variable {regex : Regex} {caller callee : String}

/-- An inbound route that can take the call. -/
structure InboundRouteConfig.Fits (regex : Regex) (caller callee : String)
    (route : InboundRouteConfig) : Prop where
  enabled : route.enabled = true
  matched : inboundRouteMatches regex route caller callee = true
  caller : (transformNumber caller route.srcStrip route.srcPrefix route.srcSuffix).isSome = true
  callee : (transformNumber callee route.dstStrip route.dstPrefix route.dstSuffix).isSome = true

structure OutboundRouteConfig.Fits (regex : Regex) (caller callee : String)
    (route : OutboundRouteConfig) : Prop where
  enabled : route.enabled = true
  matched : routeMatches regex route caller callee = true
  caller : (transformNumber caller route.srcStrip route.srcPrefix route.srcSuffix).isSome = true
  callee : (transformNumber callee route.dstStrip route.dstPrefix route.dstSuffix).isSome = true

/-- The answer of a route: its transformations of the numbers and its target. -/
structure InboundRouteConfig.Answers (caller callee : String) (route : InboundRouteConfig)
    (answer : InboundRouteMatch) : Prop where
  routeId : answer.routeId = toString route.id
  routeName : answer.routeName = route.name
  caller : transformNumber caller route.srcStrip route.srcPrefix route.srcSuffix =
    some answer.transformedCaller
  callee : transformNumber callee route.dstStrip route.dstPrefix route.dstSuffix =
    some answer.transformedCallee
  target : inboundRouteTarget route.target = some answer.target

/-- An inbound route that can take a call from the trunk. -/
def InboundRouteConfig.Serves (regex : Regex) (trunkRef caller callee : String)
    (route : InboundRouteConfig) : Prop :=
  (route.trunkMatch = trunkRef ∨ route.trunkMatch = "") ∧ route.Fits regex caller callee

/-- Routes of the trunk come first, then the priority and the id. -/
def InboundRouteConfig.trunkOrder (trunkRef : String) (route : InboundRouteConfig) :
    ℕ ×ₗ (ℕ ×ₗ ℕ) :=
  toLex (if route.trunkMatch = trunkRef then 0 else 1, route.order)

theorem tryInboundRoute_isSome {route : InboundRouteConfig} (hEnabled : route.enabled = true) :
    (tryInboundRoute regex caller callee route).isSome = true ↔ route.Fits regex caller callee := by
  rw [tryInboundRoute]
  constructor
  · intro hSome
    split at hSome
    · next hMatched =>
        split at hSome
        · next hCaller hCallee =>
            exact ⟨hEnabled, hMatched, by rw [hCaller]; rfl, by rw [hCallee]; rfl⟩
        · simp only [Option.isSome_none, Bool.false_eq_true] at hSome
    · simp only [Option.isSome_none, Bool.false_eq_true] at hSome
  · intro hFits
    obtain ⟨newCaller, hCaller⟩ := Option.isSome_iff_exists.mp hFits.caller
    obtain ⟨newCallee, hCallee⟩ := Option.isSome_iff_exists.mp hFits.callee
    rw [if_pos hFits.matched, hCaller, hCallee]
    rfl

/-- The validator admits targets that are understood. -/
theorem inboundRouteTarget_isSome {target : String} (h : isTarget target = true) :
    (inboundRouteTarget target).isSome = true := by
  rw [isTarget, Bool.or_eq_true, Bool.or_eq_true, decide_eq_true_eq, decide_eq_true_eq] at h
  rw [inboundRouteTarget]
  split_ifs with hReject hAuto
  · rfl
  · rfl
  · split
    · rfl
    · rcases h with (hTarget | hTarget) | hExtension
      · exact (hReject hTarget).elim
      · exact (hAuto hTarget).elim
      · obtain ⟨number, hNumber, -⟩ := (Option.any_eq_true ..).mp hExtension
        rw [hNumber]
        rfl

theorem tryInboundRoute_answers {route : InboundRouteConfig}
    (hTarget : isTarget route.target = true) {result : Option InboundRouteMatch}
    (h : tryInboundRoute regex caller callee route = some result) :
    ∃ answer, result = some answer ∧ route.Answers caller callee answer := by
  obtain ⟨target, hSome⟩ := Option.isSome_iff_exists.mp (inboundRouteTarget_isSome hTarget)
  rw [tryInboundRoute] at h
  split at h
  · split at h
    · next newCaller newCallee hCaller hCallee =>
        rw [hSome, Option.map_some, Option.some.injEq] at h
        exact ⟨_, h.symm, ⟨rfl, rfl, hCaller, hCallee, hSome⟩⟩
    · cases h
  · cases h

variable {domain : DomainRuntimeConfig DomainTables}

/-- One of the two walks through the routes. -/
theorem findInbound_cases (regex : Regex) (caller callee : String)
    (hRanked : Ranked InboundRouteConfig.order domain.tables.inboundRoutes)
    (hTargets : ∀ route ∈ domain.tables.inboundRoutes, isTarget route.target = true)
    (trunkMatch : String) :
    ((domain.tables.inboundRoutes.filter fun route =>
        route.enabled && route.trunkMatch = trunkMatch).findSome?
          (tryInboundRoute regex caller callee) = none ∧
      ∀ route ∈ domain.tables.inboundRoutes, route.trunkMatch = trunkMatch →
        ¬ route.Fits regex caller callee) ∨
    ∃ route ∈ domain.tables.inboundRoutes, route.trunkMatch = trunkMatch ∧
      route.Fits regex caller callee ∧
      (∀ other ∈ domain.tables.inboundRoutes, other.trunkMatch = trunkMatch →
        other.Fits regex caller callee → route.order ≤ other.order) ∧
      ∃ answer, route.Answers caller callee answer ∧
        (domain.tables.inboundRoutes.filter fun route =>
          route.enabled && route.trunkMatch = trunkMatch).findSome?
            (tryInboundRoute regex caller callee) = some (some answer) := by
  have hOffered : ∀ route ∈ domain.tables.inboundRoutes, route.trunkMatch = trunkMatch →
      route.Fits regex caller callee → (route ∈ domain.tables.inboundRoutes.filter fun route =>
        route.enabled && route.trunkMatch = trunkMatch) ∧
        (tryInboundRoute regex caller callee route).isSome = true := by
    intro route hMem hMatch hFits
    refine ⟨List.mem_filter.mpr ⟨hMem, ?_⟩, (tryInboundRoute_isSome hFits.enabled).mpr hFits⟩
    rw [hFits.enabled, hMatch, Bool.true_and, decide_eq_true rfl]
  rcases Ranked.findSome?_cases (hRanked.sublist List.filter_sublist)
    (tryInboundRoute regex caller callee) with
      ⟨hNone, hAll⟩ | ⟨route, hMem, result, hTry, hFound, hLeast⟩
  · left
    refine ⟨hNone, fun route hMem hMatch hFits => ?_⟩
    obtain ⟨hFiltered, hSome⟩ := hOffered route hMem hMatch hFits
    rw [hAll route hFiltered] at hSome
    simp only [Option.isSome_none, Bool.false_eq_true] at hSome
  · right
    obtain ⟨hRoute, hChosen⟩ := List.mem_filter.mp hMem
    rw [Bool.and_eq_true, decide_eq_true_eq] at hChosen
    obtain ⟨answer, rfl, hAnswers⟩ := tryInboundRoute_answers (hTargets route hRoute) hTry
    refine ⟨route, hRoute, hChosen.2, ?_, ?_, answer, hAnswers, hFound⟩
    · exact (tryInboundRoute_isSome hChosen.1).mp (by rw [hTry]; rfl)
    · intro other hOther hMatch hFits
      obtain ⟨hFiltered, hSome⟩ := hOffered other hOther hMatch hFits
      exact hLeast other hFiltered hSome

/-- The inbound route of a call is the least that serves it. -/
theorem analyzeInboundRoute_least
    (hRanked : Ranked InboundRouteConfig.order domain.tables.inboundRoutes)
    (hTargets : ∀ route ∈ domain.tables.inboundRoutes, isTarget route.target = true)
    (trunkRef : String) :
    (analyzeInboundRoute regex domain trunkRef caller callee = none ∧
      ∀ route ∈ domain.tables.inboundRoutes, ¬ route.Serves regex trunkRef caller callee) ∨
    ∃ route ∈ domain.tables.inboundRoutes, route.Serves regex trunkRef caller callee ∧
      (∀ other ∈ domain.tables.inboundRoutes, other.Serves regex trunkRef caller callee →
        route.trunkOrder trunkRef ≤ other.trunkOrder trunkRef) ∧
      ∃ answer, route.Answers caller callee answer ∧
        analyzeInboundRoute regex domain trunkRef caller callee = some answer := by
  rw [analyzeInboundRoute, List.findSome?_cons]
  rcases findInbound_cases regex caller callee hRanked hTargets trunkRef with
    ⟨hNone, hNoExact⟩ | ⟨route, hRoute, hMatch, hFits, hLeast, answer, hAnswers, hFound⟩
  · rw [hNone]
    rcases findInbound_cases regex caller callee hRanked hTargets "" with
      ⟨hAnyNone, hNoAny⟩ | ⟨route, hRoute, hMatch, hFits, hLeast, answer, hAnswers, hFound⟩
    · left
      simp only [List.findSome?_cons, hAnyNone, List.findSome?_nil, Option.join_none, true_and]
      rintro route hRoute ⟨hMatch | hMatch, hFits⟩
      · exact hNoExact route hRoute hMatch hFits
      · exact hNoAny route hRoute hMatch hFits
    · right
      refine ⟨route, hRoute, ⟨.inr hMatch, hFits⟩, ?_, answer, hAnswers, ?_⟩
      · rintro other hOther ⟨hOtherMatch | hOtherMatch, hOtherFits⟩
        · exact (hNoExact other hOther hOtherMatch hOtherFits).elim
        · rw [InboundRouteConfig.trunkOrder, InboundRouteConfig.trunkOrder,
            Prod.Lex.toLex_le_toLex, hMatch, hOtherMatch]
          exact .inr ⟨rfl, hLeast other hOther hOtherMatch hOtherFits⟩
      · simp only [List.findSome?_cons, hFound, Option.join_some]
  · right
    refine ⟨route, hRoute, ⟨.inl hMatch, hFits⟩, ?_, answer, hAnswers, ?_⟩
    · rintro other hOther ⟨-, hOtherFits⟩
      rw [InboundRouteConfig.trunkOrder, InboundRouteConfig.trunkOrder, Prod.Lex.toLex_le_toLex,
        if_pos hMatch]
      by_cases hOtherMatch : other.trunkMatch = trunkRef
      · rw [if_pos hOtherMatch]
        exact .inr ⟨rfl, hLeast other hOther hOtherMatch hOtherFits⟩
      · rw [if_neg hOtherMatch]
        exact .inl Nat.zero_lt_one
    · simp only [hFound, Option.join_some]

/-- While the trunks stay as they are, the trunks of a route are its references that are available,
in their order. -/
theorem availableTrunks_const (config : RuntimeConfig DomainTables) (mirror : TrunkRuntimeMirror)
    (domain : DomainRuntimeConfig DomainTables) (route : OutboundRouteConfig) :
    (availableTrunks ⟨config, fun _ => mirror⟩ domain route).map (·.trunkId) =
      route.trunkRefs.filter (trunkAvailable mirror domain) := by
  have hRefs : route.trunkRefs.zipIdx.map Prod.fst = route.trunkRefs := List.zipIdx_map_fst ..
  have hFilter := List.filter_map (f := Prod.fst) (p := trunkAvailable mirror domain)
    (l := route.trunkRefs.zipIdx)
  rw [hRefs] at hFilter
  rw [availableTrunks, List.map_map, hFilter]
  rfl

/-- The trunk route that an outbound route stands for. -/
structure OutboundRouteConfig.Leads (state : RoutingState)
    (domain : DomainRuntimeConfig DomainTables) (request : NumberAnalysisRequest)
    (route : OutboundRouteConfig) (answer : TrunkRoute) : Prop where
  domainId : answer.domainId = request.domainId
  routeId : answer.routeId = toString route.id
  routeName : answer.routeName = route.name
  trunks : answer.trunks = availableTrunks state domain route
  originals : answer.originalCaller = request.caller ∧ answer.originalCallee = request.callee
  caller : transformNumber request.caller route.srcStrip route.srcPrefix route.srcSuffix =
    some answer.transformedCaller
  callee : transformNumber request.callee route.dstStrip route.dstPrefix route.dstSuffix =
    some answer.transformedCallee

/-- A route is tried: it decides exactly if it fits, and for want of a trunk it rejects. -/
theorem tryOutboundRoute_cases (regex : Regex) (domain : DomainRuntimeConfig DomainTables)
    (state : RoutingState) (request : NumberAnalysisRequest)
    {route : OutboundRouteConfig} (hEnabled : route.enabled = true) :
    (¬ route.Fits regex request.caller request.callee ∧
      tryOutboundRoute regex state domain request route = none) ∨
    route.Fits regex request.caller request.callee ∧
      ((availableTrunks state domain route = [] ∧
        tryOutboundRoute regex state domain request route = some (.reject noAvailableTrunk)) ∨
      availableTrunks state domain route ≠ [] ∧ ∃ answer,
        route.Leads state domain request answer ∧
        tryOutboundRoute regex state domain request route = some (.matched (.trunk answer))) := by
  rw [tryOutboundRoute]
  by_cases hMatched : routeMatches regex route request.caller request.callee = true
  · rw [if_pos hMatched]
    split
    · next newCaller newCallee hCaller hCallee =>
        right
        refine ⟨⟨hEnabled, hMatched, by rw [hCaller]; rfl, by rw [hCallee]; rfl⟩, ?_⟩
        by_cases hTrunks : availableTrunks state domain route = []
        · exact .inl ⟨hTrunks, by simp only [hTrunks, List.isEmpty_nil, if_true]⟩
        · let answer : TrunkRoute := {
            domainId := request.domainId
            routeId := toString route.id
            routeName := route.name
            trunks := availableTrunks state domain route
            originalCaller := request.caller
            originalCallee := request.callee
            transformedCaller := newCaller
            transformedCallee := newCallee }
          refine .inr ⟨hTrunks, answer, ⟨rfl, rfl, rfl, rfl, ⟨rfl, rfl⟩, hCaller, hCallee⟩, ?_⟩
          simp only [List.isEmpty_iff, hTrunks, if_false]
          rfl
    · next hUndefined =>
        left
        refine ⟨fun hFits => ?_, rfl⟩
        obtain ⟨newCaller, hCaller⟩ := Option.isSome_iff_exists.mp hFits.caller
        obtain ⟨newCallee, hCallee⟩ := Option.isSome_iff_exists.mp hFits.callee
        exact hUndefined newCaller newCallee hCaller hCallee
  · rw [if_neg hMatched]
    exact .inl ⟨fun hFits => hMatched hFits.matched, rfl⟩

/-- The outbound route of a call is the least that fits. -/
theorem analyzeOutboundRoute_least (regex : Regex)
    (hRanked : Ranked OutboundRouteConfig.order domain.tables.outboundRoutes)
    {state : RoutingState} {request : NumberAnalysisRequest}
    (hDomain : state.config.domains.lookup request.domainId = some domain) :
    (analyzeOutboundRoute regex request state = .continue ∧
      ∀ route ∈ domain.tables.outboundRoutes, ¬ route.Fits regex request.caller request.callee) ∨
    ∃ route ∈ domain.tables.outboundRoutes, route.Fits regex request.caller request.callee ∧
      (∀ other ∈ domain.tables.outboundRoutes, other.Fits regex request.caller request.callee →
        route.order ≤ other.order) ∧
      ((availableTrunks state domain route = [] ∧
        analyzeOutboundRoute regex request state = .reject noAvailableTrunk) ∨
      availableTrunks state domain route ≠ [] ∧ ∃ answer,
        route.Leads state domain request answer ∧
        analyzeOutboundRoute regex request state = .matched (.trunk answer)) := by
  simp only [analyzeOutboundRoute, hDomain]
  rcases Ranked.findSome?_cases (hRanked.sublist List.filter_sublist)
    (tryOutboundRoute regex state domain request) with ⟨hNone, hAll⟩ |
      ⟨route, hMem, result, hTry, hFound, hLeast⟩
  · left
    refine ⟨by rw [hNone]; rfl, fun route hRoute hFits => ?_⟩
    have hNot := hAll route (List.mem_filter.mpr ⟨hRoute, hFits.enabled⟩)
    rcases tryOutboundRoute_cases regex domain state request hFits.enabled with
      ⟨hUnfit, -⟩ | ⟨-, ⟨-, hSome⟩ | ⟨-, answer, -, hSome⟩⟩
    · exact hUnfit hFits
    · rw [hNot] at hSome
      cases hSome
    · rw [hNot] at hSome
      cases hSome
  · right
    obtain ⟨hRoute, hEnabled⟩ := List.mem_filter.mp hMem
    rw [hFound, Option.getD_some]
    have hOthers : ∀ other ∈ domain.tables.outboundRoutes,
        other.Fits regex request.caller request.callee → route.order ≤ other.order := by
      intro other hOther hFits
      apply hLeast other (List.mem_filter.mpr ⟨hOther, hFits.enabled⟩)
      rcases tryOutboundRoute_cases regex domain state request hFits.enabled with
        ⟨hUnfit, -⟩ | ⟨-, ⟨-, hSome⟩ | ⟨-, answer, -, hSome⟩⟩
      · exact (hUnfit hFits).elim
      · rw [hSome]; rfl
      · rw [hSome]; rfl
    rcases tryOutboundRoute_cases regex domain state request hEnabled with ⟨-, hNone⟩ |
        ⟨hFits, ⟨hTrunks, hSome⟩ | ⟨hTrunks, answer, hLeads, hSome⟩⟩
    · rw [hNone] at hTry
      cases hTry
    · rw [hSome] at hTry
      exact ⟨route, hRoute, hFits, hOthers, .inl ⟨hTrunks, (Option.some.inj hTry).symm⟩⟩
    · rw [hSome] at hTry
      exact ⟨route, hRoute, hFits, hOthers,
        .inr ⟨hTrunks, answer, hLeads, (Option.some.inj hTry).symm⟩⟩

/-- With routes as they are loaded, a call takes the first of those that serve it, in the order of
the trunk match, the priority and the id; an outbound call gets its available trunks in the order
of their positions, and is rejected exactly if there is none. -/
theorem routes_selected (regex : Regex) {inboundDb outboundDb later : DomainConfigDb}
    (hInboundIds : ∀ row ∈ inboundDb.inboundRoute, row.id ≤ i64Max)
    (hOutboundIds : ∀ row ∈ outboundDb.outboundRoute, row.id ≤ i64Max)
    (hInbound : loadInboundRoutes inboundDb = .ok domain.tables.inboundRoutes)
    (hOutbound : loadOutboundRoutes outboundDb later = .ok domain.tables.outboundRoutes)
    (hTargets : ∀ route ∈ domain.tables.inboundRoutes, isTarget route.target = true) :
    (∀ trunkRef caller callee,
      (analyzeInboundRoute regex domain trunkRef caller callee = none ∧
        ∀ route ∈ domain.tables.inboundRoutes, ¬ route.Serves regex trunkRef caller callee) ∨
      ∃ route ∈ domain.tables.inboundRoutes, route.Serves regex trunkRef caller callee ∧
        (∀ other ∈ domain.tables.inboundRoutes, other.Serves regex trunkRef caller callee →
          route.trunkOrder trunkRef ≤ other.trunkOrder trunkRef) ∧
        ∃ answer, route.Answers caller callee answer ∧
          analyzeInboundRoute regex domain trunkRef caller callee = some answer) ∧
    ∀ config mirror request, config.domains.lookup request.domainId = some domain →
      (((outboundRouteAnalyzer regex).analyze request ⟨config, fun _ => mirror⟩).1 = .continue ∧
        ∀ route ∈ domain.tables.outboundRoutes,
          ¬ route.Fits regex request.caller request.callee) ∨
      ∃ route ∈ domain.tables.outboundRoutes, route.Fits regex request.caller request.callee ∧
        (∀ other ∈ domain.tables.outboundRoutes, other.Fits regex request.caller request.callee →
          route.order ≤ other.order) ∧
        route.trunkRefs = later.trunkRefsOf route.id.toNat ∧
        ((route.trunkRefs.filter (trunkAvailable mirror domain) = [] ∧
          ((outboundRouteAnalyzer regex).analyze request ⟨config, fun _ => mirror⟩).1 =
            .reject noAvailableTrunk) ∨
        route.trunkRefs.filter (trunkAvailable mirror domain) ≠ [] ∧ ∃ answer,
          route.Leads ⟨config, fun _ => mirror⟩ domain request answer ∧
          answer.trunks.map (·.trunkId) = route.trunkRefs.filter (trunkAvailable mirror domain) ∧
          ((outboundRouteAnalyzer regex).analyze request ⟨config, fun _ => mirror⟩).1 =
            .matched (.trunk answer)) := by
  obtain ⟨hRanked, hRefs⟩ := loadOutboundRoutes_ranked hOutboundIds hOutbound
  constructor
  · intro trunkRef caller callee
    exact analyzeInboundRoute_least (loadInboundRoutes_ranked hInboundIds hInbound)
      hTargets trunkRef
  · intro config mirror request hDomain
    rcases @analyzeOutboundRoute_least domain regex hRanked ⟨config, fun _ => mirror⟩ request
      hDomain with ⟨hContinue, hNone⟩ | ⟨route, hRoute, hFits, hLeast, hDecision⟩
    · exact .inl ⟨hContinue, hNone⟩
    · have hTrunks := availableTrunks_const config mirror domain route
      refine .inr ⟨route, hRoute, hFits, hLeast, hRefs route hRoute, ?_⟩
      rw [← hTrunks, ne_eq, List.map_eq_nil_iff]
      rcases hDecision with hRejected | ⟨hSome, answer, hLeads, hMatched⟩
      · exact .inl hRejected
      · exact .inr ⟨hSome, answer, hLeads, congrArg _ hLeads.trunks, hMatched⟩

/-- A pattern of any characters, which matches all of a line. -/
def anyNumber : Regex := fun text =>
  if text = "\\A(?:.*)\\z" then some fun number => !number.toList.contains '\n' else none

def inboundRow (id : Int) (trunkMatch : String) (priority : Int) : InboundRouteRow where
  id
  name := "inbound"
  enabled := true
  trunkMatch
  dstPattern := ".*"
  srcPattern := none
  dstStrip := 0
  dstPrefix := ""
  dstSuffix := ""
  srcStrip := 0
  srcPrefix := ""
  srcSuffix := ""
  target := "auto"
  priority

/-- An outbound route over a trunk that is kept alive and one that is not. -/
def sampleRoutes : DomainConfigDb where
  extensions := []
  peerTrunk := []
  regTrunk := []
  regAccount := []
  inboundRoute := [inboundRow 1 "" 1, inboundRow 2 "peer:1" 5]
  outboundRoute := [{
    id := 3, name := "outbound", enabled := true, dstPattern := ".*", srcPattern := none
    dstStrip := 1, dstPrefix := "", dstSuffix := "", srcStrip := 0, srcPrefix := "", srcSuffix := ""
    priority := 1 }]
  outboundRouteTrunks := [⟨3, "peer:2", 1⟩, ⟨3, "peer:1", 0⟩]
  version := none

def sampleDomain : DomainRuntimeConfig DomainTables :=
  { keptAlive with tables := { noContent.tables with
      peerTrunks := [{ id := 1, keepAliveSeconds := 30, enabled := true },
        { id := 2, keepAliveSeconds := 0, enabled := true }]
      inboundRoutes := (loadInboundRoutes sampleRoutes).toOption.getD []
      outboundRoutes := (loadOutboundRoutes sampleRoutes sampleRoutes).toOption.getD [] } }

def sampleConfig : RuntimeConfig DomainTables where
  system := { instanceId := "switch", dataDir := "data" }
  globals := []
  domains := [("domain-a", sampleDomain)]
  version := 1

/-- Nothing is known of the trunks. -/
def noTrunks : TrunkRuntimeMirror where
  ready := false
  registrations := []
  health := []

def sampleCall : NumberAnalysisRequest where
  domainId := "domain-a"
  caller := "1000"
  callee := "2000"

/-- The inbound route of the trunk comes first, although its priority is the later one. The
outbound route has two references, and the one that is kept alive is not available. -/
theorem routes_selected_sample :
    (∃ route ∈ sampleDomain.tables.inboundRoutes, toString route.id = "2" ∧
      ∀ other ∈ sampleDomain.tables.inboundRoutes,
        other.Serves anyNumber "peer:1" "1000" "2000" →
          route.trunkOrder "peer:1" ≤ other.trunkOrder "peer:1") ∧
    ∃ route ∈ sampleDomain.tables.outboundRoutes, route.trunkRefs = ["peer:1", "peer:2"] ∧
      ∃ answer, answer.trunks.map (·.trunkId) = ["peer:2"] ∧
        ((outboundRouteAnalyzer anyNumber).analyze sampleCall ⟨sampleConfig, fun _ => noTrunks⟩).1 =
          .matched (.trunk answer) := by
  obtain ⟨hInbound, hOutbound⟩ := @routes_selected sampleDomain anyNumber sampleRoutes sampleRoutes
    sampleRoutes (by decide) (by decide) rfl rfl (by decide)
  constructor
  · have hAnswer : (analyzeInboundRoute anyNumber sampleDomain "peer:1" "1000" "2000").map
        (·.routeId) = some "2" := by decide
    rcases hInbound "peer:1" "1000" "2000" with
      ⟨hNone, -⟩ | ⟨route, hRoute, -, hLeast, answer, hAnswers, hSome⟩
    · rw [hNone] at hAnswer
      cases hAnswer
    · rw [hSome, Option.map_some, hAnswers.routeId] at hAnswer
      exact ⟨route, hRoute, Option.some.inj hAnswer, hLeast⟩
  · have hOffered : ∀ route ∈ sampleDomain.tables.outboundRoutes,
        route.trunkRefs = ["peer:1", "peer:2"] ∧
          route.trunkRefs.filter (trunkAvailable noTrunks sampleDomain) = ["peer:2"] := by decide
    rcases hOutbound sampleConfig noTrunks sampleCall rfl with
      ⟨-, hUnfit⟩ | ⟨route, hRoute, -, -, -, ⟨hNone, -⟩ | ⟨-, answer, -, hTrunks, hMatched⟩⟩
    · have hFits : ∃ route ∈ sampleDomain.tables.outboundRoutes, route.enabled = true ∧
          routeMatches anyNumber route "1000" "2000" = true ∧
          (transformNumber "1000" route.srcStrip route.srcPrefix route.srcSuffix).isSome = true ∧
          (transformNumber "2000" route.dstStrip route.dstPrefix
            route.dstSuffix).isSome = true := by
        decide
      obtain ⟨route, hRoute, hEnabled, hMatches, hCaller, hCallee⟩ := hFits
      exact (hUnfit route hRoute ⟨hEnabled, hMatches, hCaller, hCallee⟩).elim
    · rw [(hOffered route hRoute).2] at hNone
      cases hNone
    · exact ⟨route, hRoute, (hOffered route hRoute).1, answer,
        hTrunks.trans (hOffered route hRoute).2, hMatched⟩

end Choice

end VoipSwitch
