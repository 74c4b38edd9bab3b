import VoipSwitch.Call.Model
import VoipSwitch.Config.RouteUpdate
import VoipSwitch.Lib.Origin
import VoipSwitch.Lib.Transition
import Mathlib.Data.Prod.Lex

/-! What the core knows of registrations and trunks, as the connections of adapters report it. -/
namespace VoipSwitch

open Keyed Transition

namespace Mirror

inductive RegistrationState where
  | unknown
  | unregistered
  | tentativeRegistered
  | registered
  | expired
  | removed
deriving DecidableEq

inductive TrunkRegistrationState where
  | registering
  | registered
  | failed
  | stopped
deriving DecidableEq

inductive TrunkHealthState where
  | up
  | down
deriving DecidableEq

structure RegistrationChanged where
  domainId : String
  endpointId : String
  state : RegistrationState
  contact : Option String := none
  routeTarget : Option String := none
  expiresAtMs : Option Nat := none
  userAgent : Option String := none
  version : Nat
deriving DecidableEq

structure RegistrationView where
  domainId : String
  endpointId : String
  state : RegistrationState
  contact : Option String
  routeTarget : Option String
  expiresAtMs : Option Nat
  userAgent : Option String
  version : Option Nat
deriving DecidableEq

/-- A `TrunkRegistrationChanged`, and the view that is kept of it. -/
structure TrunkRegistration where
  domainId : String
  regTrunkId : Nat
  regAccountId : Nat
  state : TrunkRegistrationState
  expiresAtMs : Option Nat := none
  responseCode : Option Nat := none
  reason : Option String := none
  version : Nat
deriving DecidableEq

/-- A `TrunkHealthChanged`, and the view that is kept of it. -/
structure TrunkHealth where
  domainId : String
  trunkType : String
  trunkId : Nat
  state : TrunkHealthState
  responseCode : Option Nat := none
  reason : Option String := none
  checkedAtMs : Nat
  version : Nat
deriving DecidableEq

abbrev EndpointKey : Type := String ×ₗ String
abbrev AccountKey : Type := String ×ₗ (Nat ×ₗ Nat)
abbrev TrunkKey : Type := String ×ₗ (String ×ₗ Nat)

def endpointKey (domainId endpointId : String) : EndpointKey := toLex (domainId, endpointId)

def accountKey (domainId : String) (trunkId accountId : Nat) : AccountKey :=
  toLex (domainId, toLex (trunkId, accountId))

def trunkKey (domainId trunkType : String) (trunkId : Nat) : TrunkKey :=
  toLex (domainId, toLex (trunkType, trunkId))

structure RegistrationMirror where
  ready : Bool
  snapshotInProgress : Bool
  items : OrdMap EndpointKey RegistrationView
deriving DecidableEq

structure TrunkRuntimeMirror where
  ready : Bool
  registrations : OrdMap AccountKey TrunkRegistration
  health : OrdMap TrunkKey TrunkHealth
deriving DecidableEq

structure AdapterReady where
  sipPort : Option Nat := none
  bindSource : Option String := none
deriving DecidableEq

structure AdapterRuntimeSummary where
  ready : Bool
  sipPort : Option Nat
  bindSource : Option String
deriving DecidableEq

/-- The part of `AppState` that the connections of adapters write. -/
structure AppState where
  adapterClients : Nat
  adapterRuntime : AdapterRuntimeSummary
  registrations : RegistrationMirror
  trunks : TrunkRuntimeMirror
deriving DecidableEq

namespace AppState

def new : AppState where
  adapterClients := 0
  adapterRuntime := { ready := false, sipPort := none, bindSource := none }
  registrations := { ready := false, snapshotInProgress := false, items := [] }
  trunks := { ready := false, registrations := [], health := [] }

def setAdapterReady (ready : AdapterReady) (s : AppState) : AppState :=
  { s with adapterRuntime :=
      { ready := true, sipPort := ready.sipPort, bindSource := ready.bindSource } }

def clearAdapterRuntime (s : AppState) : AppState :=
  { s with adapterRuntime := new.adapterRuntime }

def markRegistrationMirrorReady (ready : Bool) (s : AppState) : AppState :=
  { s with registrations := { s.registrations with ready, snapshotInProgress := false } }

def beginRegistrationSnapshot (s : AppState) : AppState :=
  { s with registrations := { ready := false, snapshotInProgress := true, items := [] } }

def markTrunkRuntimeMirrorReady (ready : Bool) (s : AppState) : AppState :=
  { s with trunks := { s.trunks with ready } }

def applyRegistrationChanged (event : RegistrationChanged) (s : AppState) : AppState :=
  let view : RegistrationView := {
    domainId := event.domainId
    endpointId := event.endpointId
    state := event.state
    contact := event.contact
    routeTarget := event.routeTarget
    expiresAtMs := event.expiresAtMs
    userAgent := event.userAgent
    version := some event.version }
  { s with registrations := { s.registrations with
      ready := if s.registrations.snapshotInProgress then s.registrations.ready else true
      items := s.registrations.items.insert (endpointKey event.domainId event.endpointId) view } }

def applyTrunkRegistrationChanged (event : TrunkRegistration) (s : AppState) : AppState :=
  let key := accountKey event.domainId event.regTrunkId event.regAccountId
  { s with trunks := { s.trunks with
      ready := true, registrations := s.trunks.registrations.insert key event } }

def applyTrunkHealthChanged (event : TrunkHealth) (s : AppState) : AppState :=
  let key := trunkKey event.domainId event.trunkType event.trunkId
  { s with trunks := { s.trunks with
      ready := true, health := s.trunks.health.insert key event } }

def incrementAdapterClients (s : AppState) : AppState :=
  { s with adapterClients := s.adapterClients + 1 }

def decrementAdapterClients (s : AppState) : AppState :=
  { s with adapterClients := s.adapterClients - 1 }

end AppState

section Routing

structure ResolvedRoute where
  signalingCallerNumber : String
  signalingCalleeNumber : String
  candidates : List OutboundCandidate
  outboundRouteId : Option String
  outboundRouteName : Option String
deriving DecidableEq

def endpointResolvedRoute (registrations : RegistrationMirror)
    (domainId endpointId endpointNumber signalingCallerNumber signalingCalleeNumber : String) :
    Option ResolvedRoute :=
  match registrations.items.lookup (endpointKey domainId endpointId) with
  | none => none
  | some registration =>
      if registration.state = .registered ∧ registrations.ready = true then
        some {
          signalingCallerNumber
          signalingCalleeNumber
          candidates := [{
            outboundTarget := .endpoint endpointId endpointNumber
            calleeRouteTarget := registration.routeTarget }]
          outboundRouteId := none
          outboundRouteName := none }
      else none

/-- The trunk's health, which is asked only if the trunk is kept alive. -/
def trunkHealthy (runtime : TrunkRuntimeMirror) (keepAliveSeconds : UInt32) (key : TrunkKey) :
    Bool :=
  keepAliveSeconds = 0 ||
    (runtime.ready && (runtime.health.lookup key).any fun health => health.state = .up)

def trunkAvailable (runtime : TrunkRuntimeMirror) (domain : DomainRuntimeConfig DomainTables)
    (trunkRef : String) : Bool :=
  match stripStart "peer:" trunkRef with
  | some id =>
      match parseU64 id with
      | none => false
      | some id =>
          match domain.tables.peerTrunks.find? fun trunk => trunk.id = id && trunk.enabled with
          | none => false
          | some trunk =>
              trunkHealthy runtime trunk.keepAliveSeconds
                (trunkKey domain.domainId "peer" id.toNat)
  | none =>
      match (stripStart "reg:" trunkRef).bind (splitOnce '/') with
      | none => false
      | some (trunkId, accountId) =>
          match parseU64 trunkId, parseU64 accountId with
          | some trunkId, some accountId =>
              match domain.tables.regTrunks.find? fun trunk =>
                trunk.id = trunkId && trunk.enabled with
              | none => false
              | some trunk =>
                  let account := domain.tables.regAccounts.any fun account =>
                    account.id = accountId && account.regTrunkId = trunkId && account.enabled
                  let registered := runtime.ready &&
                    (runtime.registrations.lookup
                      (accountKey domain.domainId trunkId.toNat accountId.toNat)).any
                        fun registration => registration.state = .registered
                  account && (registered && trunkHealthy runtime trunk.keepAliveSeconds
                    (trunkKey domain.domainId "register" trunkId.toNat))
          | _, _ => false

end Routing

/-- The frames of an adapter that concern the mirrors. -/
inductive AdapterFrame where
  | adapterReady (ready : AdapterReady)
  | registrationSnapshotBegin
  | registrationChanged (event : RegistrationChanged)
  | registrationSnapshotEnd
  | trunkRegistrationChanged (event : TrunkRegistration)
  | trunkHealthChanged (event : TrunkHealth)
deriving DecidableEq

/-- What a connection is about to do. An `AdapterReady` and the end of a connection take several
steps. -/
inductive Phase where
  | absent
  | serving
  | markingRegistrations
  | markingTrunks
  | left
  | decremented
  | resettingRegistrations
  | resettingTrunks
  | clearing
  | gone
deriving DecidableEq

/-- The state that all connections share, the connections, numbered as they are accepted, and who
has reported the entries of the mirrors last. -/
structure World where
  app : AppState
  accepted : Nat
  phases : Nat → Phase
  endpoints : EndpointKey → Nat
  accounts : AccountKey → Nat
  trunks : TrunkKey → Nat

inductive Action where
  | accept
  | frame (connection : Nat) (frame : AdapterFrame)
  | goOn (connection : Nat)
  /-- The connection is closed, or its handler ends with an error. -/
  | leave (connection : Nat)

namespace World

variable {w v : World} {action : Action}

def enter (w : World) (connection : Nat) (phase : Phase) : World :=
  { w with phases := Function.update w.phases connection phase }

def receive (w : World) (connection : Nat) : AdapterFrame → World
  | .adapterReady ready =>
      { w.enter connection .markingRegistrations with app := w.app.setAdapterReady ready }
  | .registrationSnapshotBegin => { w with app := w.app.beginRegistrationSnapshot }
  | .registrationChanged event =>
      { w with
        app := w.app.applyRegistrationChanged event
        endpoints := Function.update w.endpoints
          (endpointKey event.domainId event.endpointId) connection }
  | .registrationSnapshotEnd => { w with app := w.app.markRegistrationMirrorReady true }
  | .trunkRegistrationChanged event =>
      { w with
        app := w.app.applyTrunkRegistrationChanged event
        accounts := Function.update w.accounts
          (accountKey event.domainId event.regTrunkId event.regAccountId) connection }
  | .trunkHealthChanged event =>
      { w with
        app := w.app.applyTrunkHealthChanged event
        trunks := Function.update w.trunks
          (trunkKey event.domainId event.trunkType event.trunkId) connection }

def goOn (w : World) (connection : Nat) : Option World :=
  match w.phases connection with
  | .markingRegistrations =>
      some { w.enter connection .markingTrunks with app := w.app.markRegistrationMirrorReady false }
  | .markingTrunks =>
      some { w.enter connection .serving with app := w.app.markTrunkRuntimeMirrorReady true }
  | .left => some { w.enter connection .decremented with app := w.app.decrementAdapterClients }
  | .decremented =>
      some (w.enter connection
        (if w.app.adapterClients = 0 then .resettingRegistrations else .gone))
  | .resettingRegistrations =>
      some { w.enter connection .resettingTrunks with
        app := w.app.markRegistrationMirrorReady false }
  | .resettingTrunks =>
      some { w.enter connection .clearing with app := w.app.markTrunkRuntimeMirrorReady false }
  | .clearing => some { w.enter connection .gone with app := w.app.clearAdapterRuntime }
  | .absent | .serving | .gone => none

def step (w : World) : Action → Option World
  | .accept =>
      some { w.enter (w.accepted + 1) .serving with
        app := w.app.incrementAdapterClients, accepted := w.accepted + 1 }
  | .frame connection frame =>
      if w.phases connection = .serving then some (w.receive connection frame) else none
  | .goOn connection => w.goOn connection
  | .leave connection =>
      if w.phases connection = .serving then some (w.enter connection .left) else none

def system : System World Action where
  init w := w.app = .new ∧ w.accepted = 0 ∧ w.phases = fun _ => .absent
  next w action v := w.step action = some v

/-- A mirror that is ready has only entries that were reported on the connection that was accepted
last. -/
structure Fresh (w : World) : Prop where
  registrations : w.app.registrations.ready = true →
    w.app.registrations.items.ReportedBy w.endpoints w.accepted
  trunks : w.app.trunks.ready = true →
    w.app.trunks.registrations.ReportedBy w.accounts w.accepted ∧
      w.app.trunks.health.ReportedBy w.trunks w.accepted

/-- A step that leaves a mirror ready finds in it, but for the entry that it reports itself, only
entries of the connection that is then the last. -/
def Careful (w : World) : Action → Prop
  | .accept =>
      (w.app.registrations.ready = true → w.app.registrations.items = []) ∧
        (w.app.trunks.ready = true →
          w.app.trunks.registrations = [] ∧ w.app.trunks.health = [])
  | .frame connection (.registrationChanged event) =>
      w.app.registrations.snapshotInProgress = false →
        connection = w.accepted ∧ w.app.registrations.items.ReportedApart w.endpoints w.accepted
          (endpointKey event.domainId event.endpointId)
  | .frame _ .registrationSnapshotEnd =>
      w.app.registrations.items.ReportedBy w.endpoints w.accepted
  | .frame connection (.trunkRegistrationChanged event) =>
      (connection = w.accepted ∧ w.app.trunks.registrations.ReportedApart w.accounts w.accepted
        (accountKey event.domainId event.regTrunkId event.regAccountId)) ∧
        w.app.trunks.health.ReportedBy w.trunks w.accepted
  | .frame connection (.trunkHealthChanged event) =>
      w.app.trunks.registrations.ReportedBy w.accounts w.accepted ∧
        (connection = w.accepted ∧ w.app.trunks.health.ReportedApart w.trunks w.accepted
          (trunkKey event.domainId event.trunkType event.trunkId))
  | .goOn connection =>
      w.phases connection = .markingTrunks →
        w.app.trunks.registrations.ReportedBy w.accounts w.accepted ∧
          w.app.trunks.health.ReportedBy w.trunks w.accepted
  | .frame _ (.adapterReady _) | .frame _ .registrationSnapshotBegin | .leave _ => True

/-- What is known of the connections and of the entries. -/
structure Sound (w : World) : Prop where
  absent : ∀ connection, w.accepted < connection → w.phases connection = .absent
  snapshot : w.app.registrations.ready = true → w.app.registrations.snapshotInProgress = false
  endpoints : w.app.registrations.items.KnownUpTo w.endpoints w.accepted
  accounts : w.app.trunks.registrations.KnownUpTo w.accounts w.accepted
  trunks : w.app.trunks.health.KnownUpTo w.trunks w.accepted

theorem Sound.le_accepted (h : Sound w) {connection : Nat}
    (hPhase : w.phases connection ≠ .absent) : connection ≤ w.accepted :=
  Nat.not_lt.mp fun hLess => hPhase (h.absent connection hLess)

theorem absent_enter {connection : Nat} {phase : Phase}
    (h : ∀ c, w.accepted < c → w.phases c = .absent) (hConnection : connection ≤ w.accepted) :
    ∀ c, w.accepted < c → (w.enter connection phase).phases c = .absent := by
  intro c hLess
  have hOther : c ≠ connection := by
    rintro rfl
    exact Nat.not_le_of_lt hLess hConnection
  exact (Function.update_of_ne hOther ..).trans (h c hLess)

/-- A frame changes the mirrors. -/
theorem Sound.receive (h : Sound w) {connection : Nat} (hPhase : w.phases connection = .serving)
    (frame : AdapterFrame) : Sound (w.receive connection frame) := by
  have hConnection : connection ≤ w.accepted := h.le_accepted (by rw [hPhase]; decide)
  cases frame with
  | adapterReady ready =>
      exact { h with absent := absent_enter h.absent hConnection }
  | registrationSnapshotBegin =>
      exact { h with snapshot := nofun, endpoints := OrdMap.knownUpTo_nil }
  | registrationChanged event =>
      refine { h with snapshot := fun hReady => ?_, endpoints := h.endpoints.insert hConnection }
      simp only [World.receive, AppState.applyRegistrationChanged] at hReady ⊢
      split at hReady
      · exact h.snapshot hReady
      · next hNot => exact eq_false_of_ne_true hNot
  | registrationSnapshotEnd => exact { h with snapshot := fun _ => rfl }
  | trunkRegistrationChanged event => exact { h with accounts := h.accounts.insert hConnection }
  | trunkHealthChanged event => exact { h with trunks := h.trunks.insert hConnection }

theorem Sound.goOn (h : Sound w) {connection : Nat} (hStep : w.goOn connection = some v) :
    Sound v := by
  have hAbsent : ∀ phase, w.phases connection ≠ .absent → ∀ c, w.accepted < c →
      (w.enter connection phase).phases c = .absent :=
    fun phase hPhase => absent_enter h.absent (h.le_accepted hPhase)
  rw [World.goOn] at hStep
  split at hStep
  case h_1 hPhase =>
    rw [← Option.some.inj hStep]
    exact { h with absent := hAbsent _ (by rw [hPhase]; decide), snapshot := nofun }
  case h_2 hPhase =>
    rw [← Option.some.inj hStep]
    exact { h with absent := hAbsent _ (by rw [hPhase]; decide) }
  case h_3 hPhase =>
    rw [← Option.some.inj hStep]
    exact { h with absent := hAbsent _ (by rw [hPhase]; decide) }
  case h_4 hPhase =>
    rw [← Option.some.inj hStep]
    exact { h with absent := hAbsent _ (by rw [hPhase]; decide) }
  case h_5 hPhase =>
    rw [← Option.some.inj hStep]
    exact { h with absent := hAbsent _ (by rw [hPhase]; decide), snapshot := nofun }
  case h_6 hPhase =>
    rw [← Option.some.inj hStep]
    exact { h with absent := hAbsent _ (by rw [hPhase]; decide) }
  case h_7 hPhase =>
    rw [← Option.some.inj hStep]
    exact { h with absent := hAbsent _ (by rw [hPhase]; decide) }
  all_goals cases hStep

theorem Sound.step (h : Sound w) (hStep : w.step action = some v) : Sound v := by
  cases action with
  | accept =>
      rw [← Option.some.inj hStep]
      constructor
      · intro c hLess
        have hOther : c ≠ w.accepted + 1 := Nat.ne_of_gt hLess
        exact (Function.update_of_ne hOther ..).trans (h.absent c (Nat.lt_of_succ_lt hLess))
      · exact h.snapshot
      · exact h.endpoints.mono (Nat.le_succ _)
      · exact h.accounts.mono (Nat.le_succ _)
      · exact h.trunks.mono (Nat.le_succ _)
  | frame connection frame =>
      rw [World.step] at hStep
      split at hStep
      · next hPhase =>
          rw [← Option.some.inj hStep]
          exact h.receive hPhase frame
      · cases hStep
  | goOn connection => exact h.goOn hStep
  | leave connection =>
      rw [World.step] at hStep
      split at hStep
      · next hPhase =>
          have hConnection : connection ≤ w.accepted := h.le_accepted (by rw [hPhase]; decide)
          rw [← Option.some.inj hStep]
          exact { h with absent := absent_enter h.absent hConnection }
      · cases hStep

/-- After a frame the mirrors are fresh exactly if it was a careful one. -/
theorem Fresh.receive_iff (hFresh : Fresh w) (h : Sound w) (connection : Nat)
    (frame : AdapterFrame) :
    Fresh (w.receive connection frame) ↔ w.Careful (.frame connection frame) := by
  cases frame with
  | adapterReady ready => exact iff_of_true ⟨hFresh.registrations, hFresh.trunks⟩ trivial
  | registrationSnapshotBegin => exact iff_of_true ⟨nofun, hFresh.trunks⟩ trivial
  | registrationChanged event =>
      constructor
      · intro hAfter hSnapshot
        have hReported := hAfter.registrations
          (by simp only [receive, AppState.applyRegistrationChanged, hSnapshot]; rfl)
        exact OrdMap.reportedBy_insert.mp hReported
      · intro hCareful
        refine ⟨fun hReady => OrdMap.reportedBy_insert.mpr (hCareful ?_), hFresh.trunks⟩
        simp only [receive, AppState.applyRegistrationChanged] at hReady
        split at hReady
        · exact h.snapshot hReady
        · next hNot => exact eq_false_of_ne_true hNot
  | registrationSnapshotEnd =>
      constructor
      · exact fun hAfter => hAfter.registrations rfl
      · exact fun hCareful => ⟨fun _ => hCareful, hFresh.trunks⟩
  | trunkRegistrationChanged event =>
      constructor
      · intro hAfter
        obtain ⟨hAccounts, hTrunks⟩ := hAfter.trunks rfl
        exact ⟨OrdMap.reportedBy_insert.mp hAccounts, hTrunks⟩
      · rintro ⟨hAccounts, hTrunks⟩
        exact ⟨hFresh.registrations, fun _ => ⟨OrdMap.reportedBy_insert.mpr hAccounts, hTrunks⟩⟩
  | trunkHealthChanged event =>
      constructor
      · intro hAfter
        obtain ⟨hAccounts, hTrunks⟩ := hAfter.trunks rfl
        exact ⟨hAccounts, OrdMap.reportedBy_insert.mp hTrunks⟩
      · rintro ⟨hAccounts, hTrunks⟩
        exact ⟨hFresh.registrations, fun _ => ⟨hAccounts, OrdMap.reportedBy_insert.mpr hTrunks⟩⟩

theorem Fresh.goOn_iff (hFresh : Fresh w) {connection : Nat}
    (hStep : w.goOn connection = some v) : Fresh v ↔ w.Careful (.goOn connection) := by
  have hOther : w.phases connection ≠ .markingTrunks → w.Careful (.goOn connection) :=
    fun hPhase hMarking => (hPhase hMarking).elim
  rw [World.goOn] at hStep
  split at hStep
  case h_2 hPhase =>
    rw [← Option.some.inj hStep]
    constructor
    · exact fun hAfter _ => hAfter.trunks rfl
    · exact fun hCareful => ⟨hFresh.registrations, fun _ => hCareful hPhase⟩
  case h_1 hPhase =>
    rw [← Option.some.inj hStep]
    exact iff_of_true ⟨nofun, hFresh.trunks⟩ (hOther (by rw [hPhase]; decide))
  case h_3 hPhase =>
    rw [← Option.some.inj hStep]
    exact iff_of_true ⟨hFresh.registrations, hFresh.trunks⟩ (hOther (by rw [hPhase]; decide))
  case h_4 hPhase =>
    rw [← Option.some.inj hStep]
    exact iff_of_true ⟨hFresh.registrations, hFresh.trunks⟩ (hOther (by rw [hPhase]; decide))
  case h_5 hPhase =>
    rw [← Option.some.inj hStep]
    exact iff_of_true ⟨nofun, hFresh.trunks⟩ (hOther (by rw [hPhase]; decide))
  case h_6 hPhase =>
    rw [← Option.some.inj hStep]
    exact iff_of_true ⟨hFresh.registrations, nofun⟩ (hOther (by rw [hPhase]; decide))
  case h_7 hPhase =>
    rw [← Option.some.inj hStep]
    exact iff_of_true ⟨hFresh.registrations, hFresh.trunks⟩ (hOther (by rw [hPhase]; decide))
  all_goals cases hStep

theorem Fresh.step_iff (hFresh : Fresh w) (h : Sound w) (hStep : w.step action = some v) :
    Fresh v ↔ w.Careful action := by
  cases action with
  | accept =>
      rw [← Option.some.inj hStep]
      constructor
      · intro hAfter
        refine ⟨fun hReady => ?_, fun hReady => ?_⟩
        · exact h.endpoints.reportedBy_succ.mp (hAfter.registrations hReady)
        · obtain ⟨hAccounts, hTrunks⟩ := hAfter.trunks hReady
          exact ⟨h.accounts.reportedBy_succ.mp hAccounts, h.trunks.reportedBy_succ.mp hTrunks⟩
      · rintro ⟨hRegistrations, hBoth⟩
        refine ⟨fun hReady => ?_, fun hReady => ⟨?_, ?_⟩⟩
        · exact h.endpoints.reportedBy_succ.mpr (hRegistrations hReady)
        · exact h.accounts.reportedBy_succ.mpr (hBoth hReady).1
        · exact h.trunks.reportedBy_succ.mpr (hBoth hReady).2
  | frame connection frame =>
      rw [World.step] at hStep
      split at hStep
      · rw [← Option.some.inj hStep]
        exact hFresh.receive_iff h connection frame
      · cases hStep
  | goOn connection => exact hFresh.goOn_iff hStep
  | leave connection =>
      rw [World.step] at hStep
      split at hStep
      · rw [← Option.some.inj hStep]
        exact iff_of_true ⟨hFresh.registrations, hFresh.trunks⟩ trivial
      · cases hStep

/-- The mirrors without what was reported on earlier connections. -/
def currentRegistrations (w : World) : RegistrationMirror :=
  { w.app.registrations with
    items := w.app.registrations.items.reportedOn w.endpoints w.accepted }

def currentTrunks (w : World) : TrunkRuntimeMirror :=
  { w.app.trunks with
    registrations := w.app.trunks.registrations.reportedOn w.accounts w.accepted
    health := w.app.trunks.health.reportedOn w.trunks w.accepted }

/-- Nothing is read from a mirror that is not ready. -/
theorem trunkAvailable_of_not_ready {runtime runtime' : TrunkRuntimeMirror}
    (h : runtime.ready = false) (h' : runtime'.ready = false)
    (domain : DomainRuntimeConfig DomainTables) (trunkRef : String) :
    trunkAvailable runtime domain trunkRef = trunkAvailable runtime' domain trunkRef := by
  simp only [trunkAvailable, trunkHealthy, h, h', Bool.false_and]

theorem endpointResolvedRoute_of_not_ready {registrations : RegistrationMirror}
    (h : registrations.ready = false) (domainId endpointId number caller callee : String) :
    endpointResolvedRoute registrations domainId endpointId number caller callee = none := by
  rw [endpointResolvedRoute]
  split
  · rfl
  · exact if_neg fun hBoth => Bool.false_ne_true (h.symm.trans hBoth.2)

theorem Fresh.trunkAvailable_eq (h : Fresh w) (domain : DomainRuntimeConfig DomainTables)
    (trunkRef : String) :
    trunkAvailable w.app.trunks domain trunkRef = trunkAvailable w.currentTrunks
      domain trunkRef := by
  cases hReady : w.app.trunks.ready with
  | false =>
      have hCurrent : w.currentTrunks.ready = false := hReady
      exact trunkAvailable_of_not_ready hReady hCurrent domain trunkRef
  | true =>
      obtain ⟨hAccounts, hTrunks⟩ := h.trunks hReady
      rw [currentTrunks, hAccounts.reportedOn_eq, hTrunks.reportedOn_eq]

theorem Fresh.endpointResolvedRoute_eq (h : Fresh w)
    (domainId endpointId number caller callee : String) :
    endpointResolvedRoute w.app.registrations domainId endpointId number caller callee =
      endpointResolvedRoute w.currentRegistrations domainId endpointId number caller callee := by
  cases hReady : w.app.registrations.ready with
  | false =>
      rw [endpointResolvedRoute_of_not_ready hReady, endpointResolvedRoute_of_not_ready]
      exact hReady
  | true => rw [currentRegistrations, (h.registrations hReady).reportedOn_eq]

/-- While all steps are careful, a mirror that is ready says only what the last connection has
reported, and so do the trunks and the endpoints that are found in it. -/
theorem fresh_of_careful (h : ReachableWithin system Careful w) :
    Fresh w ∧
      (∀ domain trunkRef, trunkAvailable w.app.trunks domain trunkRef =
        trunkAvailable w.currentTrunks domain trunkRef) ∧
      (∀ domainId endpointId number caller callee,
        endpointResolvedRoute w.app.registrations domainId endpointId number caller callee =
          endpointResolvedRoute w.currentRegistrations domainId endpointId number caller callee) ∧
      ∀ action v, w.step action = some v → (Fresh v ↔ w.Careful action) := by
  have hBoth : Fresh w ∧ Sound w := by
    apply h.invariant
    · rintro w ⟨hApp, hAccepted, hPhases⟩
      constructor
      · constructor
        · rw [hApp]
          exact nofun
        · rw [hApp]
          exact nofun
      · constructor
        · rw [hPhases]
          exact fun _ _ => rfl
        · rw [hApp]
          exact nofun
        · rw [hApp]
          exact OrdMap.knownUpTo_nil
        · rw [hApp]
          exact OrdMap.knownUpTo_nil
        · rw [hApp]
          exact OrdMap.knownUpTo_nil
    · intro w action v ⟨hFresh, hSound⟩ hCareful hStep
      exact ⟨(hFresh.step_iff hSound hStep).mpr hCareful, hSound.step hStep⟩
  obtain ⟨hFresh, hSound⟩ := hBoth
  exact ⟨hFresh, hFresh.trunkAvailable_eq, hFresh.endpointResolvedRoute_eq,
    fun action v hStep => hFresh.step_iff hSound hStep⟩

end World

section Samples

def keptAlive : DomainRuntimeConfig DomainTables where
  domainId := "domain-a"
  name := "a"
  realm := "a.example"
  password := ""
  remark := ""
  enabled := true
  tables := { noContent.tables with
    peerTrunks := [{ id := 1, keepAliveSeconds := 30, enabled := true }] }
  version := 1

def peerUp : AdapterFrame := .trunkHealthChanged {
  domainId := "domain-a", trunkType := "peer", trunkId := 1, state := .up, checkedAtMs := 1
  version := 1 }

def freshWorld : World where
  app := .new
  accepted := 0
  phases _ := .absent
  endpoints _ := 0
  accounts _ := 0
  trunks _ := 0

/-- A connection that becomes ready. -/
def readied (connection : Nat) : List Action :=
  [.accept, .frame connection (.adapterReady {}), .goOn connection, .goOn connection]

/-- A connection up to its last step. -/
def ended (connection : Nat) : List Action :=
  .leave connection :: List.replicate 5 (.goOn connection)

def followed (schedule : List Action) : Option World := schedule.foldlM World.step freshWorld

/-- Nothing is known yet, and the action is of the last connection. -/
def startsFresh (w : World) (action : Action) : Bool :=
  w.app.registrations.items = [] && w.app.trunks.registrations = [] && w.app.trunks.health = [] &&
    match action with
    | .frame connection _ => connection = w.accepted
    | _ => true

theorem careful_of_startsFresh {w : World} {action : Action} (h : startsFresh w action = true) :
    w.Careful action := by
  simp only [startsFresh, Bool.and_eq_true, decide_eq_true_eq] at h
  obtain ⟨⟨⟨hItems, hAccounts⟩, hTrunks⟩, hConnection⟩ := h
  cases action with
  | accept => exact ⟨fun _ => hItems, fun _ => ⟨hAccounts, hTrunks⟩⟩
  | frame connection frame =>
      have hLast : connection = w.accepted := of_decide_eq_true hConnection
      cases frame <;> simp only [World.Careful, OrdMap.ReportedBy, OrdMap.ReportedApart, hItems,
        hAccounts, hTrunks, hLast, OrdMap.contains, OrdMap.lookup_nil, Option.isSome_none,
        Bool.false_eq_true, false_implies, implies_true, and_self]
  | goOn connection =>
      intro _
      rw [hAccounts, hTrunks]
      exact ⟨OrdMap.reportedBy_nil, OrdMap.reportedBy_nil⟩
  | leave connection => trivial

def carefulStep (w : World) (action : Action) : Option World :=
  if startsFresh w action then w.step action else none

/-- A trunk that is up on the first connection. -/
theorem fresh_of_careful_sample :
    ∃ w : World, trunkAvailable w.app.trunks keptAlive "peer:1" = true ∧
      trunkAvailable w.currentTrunks keptAlive "peer:1" = true := by
  have hRun : ((readied 1 ++ [Action.frame 1 peerUp]).foldlM carefulStep freshWorld).any
      (fun w => trunkAvailable w.app.trunks keptAlive "peer:1") = true := by
    decide
  obtain ⟨w, hEnd, hAvailable⟩ := (Option.any_eq_true ..).mp hRun
  have hReached : ReachableWithin World.system World.Careful w := by
    refine ⟨freshWorld, ⟨rfl, rfl, rfl⟩, runsWithin_of_foldlM ?_ hEnd⟩
    intro w action v hStep
    rw [carefulStep] at hStep
    split at hStep
    · next hStarts => exact ⟨careful_of_startsFresh hStarts, hStep⟩
    · cases hStep
  obtain ⟨_, hTrunks, _, _⟩ := World.fresh_of_careful hReached
  exact ⟨w, hAvailable, (hTrunks keptAlive "peer:1").symm.trans hAvailable⟩

/-- The first connection has ended, and nothing was reported on the second one. -/
theorem stale_trunk_available :
    ∃ w, Reachable World.system w ∧ ¬ World.Fresh w ∧
      (∃ domain trunkRef, trunkAvailable w.app.trunks domain trunkRef = true ∧
        trunkAvailable w.currentTrunks domain trunkRef = false) := by
  have hRun : (followed (readied 1 ++ [.frame 1 peerUp] ++ ended 1 ++ readied 2)).any (fun w =>
      trunkAvailable w.app.trunks keptAlive "peer:1" &&
        !trunkAvailable w.currentTrunks keptAlive "peer:1") = true := by
    decide
  obtain ⟨w, hEnd, hStale⟩ := (Option.any_eq_true ..).mp hRun
  rw [Bool.and_eq_true, Bool.not_eq_true'] at hStale
  refine ⟨w, ⟨freshWorld, ⟨rfl, rfl, rfl⟩,
    runsWithin_of_foldlM (fun _ _ _ hStep => ⟨trivial, hStep⟩) hEnd⟩, fun hFresh => ?_,
    keptAlive, "peer:1", hStale⟩
  have hSame := hFresh.trunkAvailable_eq keptAlive "peer:1"
  rw [hStale.1, hStale.2] at hSame
  cases hSame

end Samples

end Mirror

end VoipSwitch
