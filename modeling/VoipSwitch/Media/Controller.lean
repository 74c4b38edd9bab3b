import Mathlib.Algebra.GroupWithZero.Nat
import Mathlib.Data.List.Nodup
import Mathlib.Logic.Function.Basic
import VoipSwitch.Lib.Table
import VoipSwitch.Media.FastPath

/-! The controller of the eBPF fast path: the kernel's map of flows, the table of bridges that
have flows in it, and the packets that the flows have counted. The controller changes the map one
flow after the other, and the kernel goes on counting in between. -/
namespace VoipSwitch.Media

open Keyed Transition

/-- A flow's key in the kernel's map, addresses and ports as a little-endian host reads them
in network byte order. -/
structure FlowKey where
  ingressIfindex : Nat
  localIp : Nat
  remoteIp : Nat
  localPort : Nat
  remotePort : Nat
  protocol : Nat
deriving DecidableEq

structure FlowAction where
  egressIfindex : Nat
  rewrittenSrcIp : Nat
  rewrittenDstIp : Nat
  rewrittenSrcPort : Nat
  rewrittenDstPort : Nat
  direction : Nat
  generation : Nat
  packets : Nat := 0
  bytes : Nat := 0
  redirectErrors : Nat := 0
deriving DecidableEq

structure InstalledFlow where
  key : FlowKey
  mediaKind : FastPathMediaKind
  direction : MediaFlowDirection
deriving DecidableEq

def ipv4Native (ip : Ipv4Addr) : Nat :=
  ip.a.toNat + 2 ^ 8 * ip.b.toNat + 2 ^ 16 * ip.c.toNat + 2 ^ 24 * ip.d.toNat

def portNative (port : UInt16) : Nat := port.toNat / 2 ^ 8 + 2 ^ 8 * (port.toNat % 2 ^ 8)

def ipprotoUdp : Nat := 17

def flowKey (ifindex : Nat) (localAddr remote : SocketAddrV4) : FlowKey where
  ingressIfindex := ifindex
  localIp := ipv4Native localAddr.ip
  remoteIp := ipv4Native remote.ip
  localPort := portNative localAddr.port
  remotePort := portNative remote.port
  protocol := ipprotoUdp

def flowAction (ifindex generation : Nat) (flow : FastPathFlowSpec) : FlowAction where
  egressIfindex := ifindex
  rewrittenSrcIp := ipv4Native flow.rewrittenSource.ip
  rewrittenDstIp := ipv4Native flow.rewrittenDestination.ip
  rewrittenSrcPort := portNative flow.rewrittenSource.port
  rewrittenDstPort := portNative flow.rewrittenDestination.port
  direction :=
    match flow.direction with
    | .callerToCallee => 1
    | .calleeToCaller => 2
  generation := generation

def installedFlow (ifindex : Nat) (flow : FastPathFlowSpec) : InstalledFlow :=
  ⟨flowKey ifindex flow.localAddr flow.remote, flow.mediaKind, flow.direction⟩

def addFlowStats (stats : FastPathStats) (flow : InstalledFlow) (action : FlowAction) :
    FastPathStats :=
  match flow.mediaKind, flow.direction with
  | .rtp, .callerToCallee =>
    { stats with
      callerToCalleePackets := satAdd64 stats.callerToCalleePackets action.packets
      callerToCalleeBytes := satAdd64 stats.callerToCalleeBytes action.bytes
      callerToCalleeRedirectErrors :=
        satAdd64 stats.callerToCalleeRedirectErrors action.redirectErrors }
  | .rtp, .calleeToCaller =>
    { stats with
      calleeToCallerPackets := satAdd64 stats.calleeToCallerPackets action.packets
      calleeToCallerBytes := satAdd64 stats.calleeToCallerBytes action.bytes
      calleeToCallerRedirectErrors :=
        satAdd64 stats.calleeToCallerRedirectErrors action.redirectErrors }
  | .rtcp, .callerToCallee =>
    { stats with
      callerToCalleeRtcpPackets := satAdd64 stats.callerToCalleeRtcpPackets action.packets
      callerToCalleeRtcpBytes := satAdd64 stats.callerToCalleeRtcpBytes action.bytes
      callerToCalleeRtcpRedirectErrors :=
        satAdd64 stats.callerToCalleeRtcpRedirectErrors action.redirectErrors }
  | .rtcp, .calleeToCaller =>
    { stats with
      calleeToCallerRtcpPackets := satAdd64 stats.calleeToCallerRtcpPackets action.packets
      calleeToCallerRtcpBytes := satAdd64 stats.calleeToCallerRtcpBytes action.bytes
      calleeToCallerRtcpRedirectErrors :=
        satAdd64 stats.calleeToCallerRtcpRedirectErrors action.redirectErrors }

/-- `RTP_FLOWS`. -/
abbrev RtpFlows := FlowKey → Option FlowAction

/-- The kernel's answer to one change of the map: whether it refuses it, and the error if the
change fails. -/
structure MapAnswer where
  refused : Bool := false
  error : String := ""
deriving DecidableEq

def mapInsert (flows : RtpFlows) (key : FlowKey) (action : FlowAction) (answer : MapAnswer) :
    Except String RtpFlows :=
  if answer.refused then .error answer.error
  else .ok (Function.update flows key (some action))

/-- The removal of a key that is not there fails too. -/
def mapRemove (flows : RtpFlows) (key : FlowKey) (answer : MapAnswer) : Except String RtpFlows :=
  if answer.refused ∨ (flows key).isNone then .error answer.error
  else .ok (Function.update flows key none)

structure ControllerState where
  ifindex : Nat
  flows : RtpFlows := fun _ => none
  bridges : Table String (Nat × List InstalledFlow) := .empty

/-- A call that holds the controller's lock, between two of its requests to the kernel. -/
inductive ControllerCall where
  | inserting (spec : FastPathBridgeSpec) (installed : List InstalledFlow)
    (rest : List FastPathFlowSpec)
  /-- An insertion has failed, and what was inserted before it is removed again. -/
  | rollingBack (spec : FastPathBridgeSpec) (error : String) (rest : List InstalledFlow)
  | reading (bridgeId : String) (rest : List InstalledFlow) (stats : FastPathStats)
    (removeError : Option String)
  /-- The flow's counters have been added up, and it is still in the map. -/
  | removing (bridgeId : String) (flow : InstalledFlow) (rest : List InstalledFlow)
    (stats : FastPathStats) (removeError : Option String)

inductive ControllerResult where
  | promoted (spec : FastPathBridgeSpec) (result : Except FastPathError Unit)
  | removed (bridgeId : String) (result : Except FastPathError FastPathStats)

namespace ControllerState

def promote (state : ControllerState) (spec : FastPathBridgeSpec) :
    (ControllerCall ⊕ ControllerResult) × ControllerState :=
  if state.bridges.contains spec.bridgeId then
    (.inr (.promoted spec (.error
      ⟨"bridge_exists", s!"bridge {spec.bridgeId} already has fast path rules"⟩)), state)
  else (.inl (.inserting spec [] spec.flows), state)

def removeLocked (state : ControllerState) (bridgeId : String) (generation : Nat) :
    (ControllerCall ⊕ ControllerResult) × ControllerState :=
  match state.bridges.get bridgeId with
  | none => (.inr (.removed bridgeId (.ok {})), state)
  | some (installedGeneration, installed) =>
    if installedGeneration ≠ generation then
      (.inr (.removed bridgeId (.error ⟨"stale_generation",
        s!"bridge {bridgeId} generation {generation} does not match {installedGeneration}"⟩)),
          state)
    else
      (.inl (.reading bridgeId installed {} none),
       { state with bridges := state.bridges.remove bridgeId })

def demote := removeLocked

def remove := removeLocked

/-- The call goes on to its next request to the kernel, or returns. -/
def proceed (state : ControllerState) (answer : MapAnswer) :
    ControllerCall → (ControllerCall ⊕ ControllerResult) × ControllerState
  | .inserting spec installed [] =>
    (.inr (.promoted spec (.ok ())),
     { state with bridges := state.bridges.insert spec.bridgeId (spec.generation, installed) })
  | .inserting spec installed (flow :: rest) =>
    match mapInsert state.flows (installedFlow state.ifindex flow).key
        (flowAction state.ifindex spec.generation flow) answer with
    | .error error => (.inl (.rollingBack spec error installed), state)
    | .ok flows =>
      (.inl (.inserting spec (installed ++ [installedFlow state.ifindex flow]) rest),
       { state with flows })
  | .rollingBack spec error [] =>
    (.inr (.promoted spec (.error ⟨"map_insert_failed", error⟩)), state)
  | .rollingBack spec error (flow :: rest) =>
    (.inl (.rollingBack spec error rest),
     { state with
       flows :=
         match mapRemove state.flows flow.key answer with
         | .error _ => state.flows
         | .ok flows => flows })
  | .reading bridgeId [] stats removeError =>
    (.inr (.removed bridgeId
      (match removeError with
        | some error => .error ⟨"map_remove_failed", error⟩
        | none => .ok stats)), state)
  | .reading bridgeId (flow :: rest) stats removeError =>
    (.inl (.removing bridgeId flow rest
      (match state.flows flow.key with
        | none => stats
        | some action => addFlowStats stats flow action) removeError), state)
  | .removing bridgeId flow rest stats removeError =>
    match mapRemove state.flows flow.key answer with
    | .error error => (.inl (.reading bridgeId rest stats (removeError.or (some error))), state)
    | .ok flows => (.inl (.reading bridgeId rest stats removeError), { state with flows })

/-- The kernel forwards a packet of a flow and counts it, or counts that it could not. -/
def forward (state : ControllerState) (key : FlowKey) (bytes : Nat) (redirected : Bool) :
    ControllerState :=
  match state.flows key with
  | none => state
  | some action =>
    let action :=
      if redirected then
        { action with
          packets := (action.packets + 1) % 2 ^ 64, bytes := (action.bytes + bytes) % 2 ^ 64 }
      else { action with redirectErrors := (action.redirectErrors + 1) % 2 ^ 64 }
    { state with flows := Function.update state.flows key (some action) }

end ControllerState

def keysOf (installed : List InstalledFlow) : List FlowKey := installed.map InstalledFlow.key

def specKeys (ifindex : Nat) (specs : List FastPathFlowSpec) : List FlowKey :=
  keysOf (specs.map (installedFlow ifindex))

/-- The packets that the flows with these keys have counted. -/
def packetsOf (flows : RtpFlows) (installed : List InstalledFlow) : Nat :=
  (installed.map fun flow => (flows flow.key).elim 0 FlowAction.packets).sum

/-- The packets of all four kinds. -/
def FastPathStats.packets (stats : FastPathStats) : Nat :=
  stats.callerToCalleePackets + stats.calleeToCallerPackets + stats.callerToCalleeRtcpPackets +
    stats.calleeToCallerRtcpPackets

/-- The packets that a result returns for a bridge. -/
def ControllerResult.packetsFor (bridgeId : String) : ControllerResult → Nat
  | .removed removedId (.ok stats) => if removedId = bridgeId then stats.packets else 0
  | _ => 0

/-- What a bridge has in the map: its flows, those of them whose counters will still be read, and
the packets that have been read for a result that is still to come. -/
structure Holding where
  flows : List InstalledFlow := []
  unread : List InstalledFlow := []
  read : Nat := 0

def ControllerState.entry (state : ControllerState) (bridgeId : String) : Holding :=
  match state.bridges.get bridgeId with
  | some (_, installed) => { flows := installed, unread := installed }
  | none => {}

namespace ControllerCall

def bridgeId : ControllerCall → String
  | .inserting spec _ _ | .rollingBack spec _ _ => spec.bridgeId
  | .reading bridgeId _ _ _ | .removing bridgeId _ _ _ _ => bridgeId

/-- Nobody reads the counters of flows that are rolled back. -/
def holding : ControllerCall → Holding
  | .inserting _ installed _ => { flows := installed, unread := installed }
  | .rollingBack _ _ rest => { flows := rest }
  | .reading _ rest stats _ => { flows := rest, unread := rest, read := stats.packets }
  | .removing _ flow rest stats _ =>
      { flows := flow :: rest, unread := rest, read := stats.packets }

end ControllerCall

/-- The controller with the call that has its lock, the results that were returned, the newest
first, and a record of the past: which bridge inserted a key last, and how many packets the flows
of each bridge have counted. -/
structure FastPathLedger where
  controller : ControllerState
  call : Option ControllerCall := none
  results : List ControllerResult := []
  installer : FlowKey → Option String := fun _ => none
  counted : String → Nat := fun _ => 0

inductive ControllerStep where
  | promote (spec : FastPathBridgeSpec)
  | demote (bridgeId : String) (generation : Nat)
  | remove (bridgeId : String) (generation : Nat)
  | proceed (answer : MapAnswer)
  | packet (key : FlowKey) (bytes : Nat) (redirected : Bool)

namespace FastPathLedger

/-- The call goes on, or returns its result and the lock. -/
def conclude (s : FastPathLedger) (out : (ControllerCall ⊕ ControllerResult) × ControllerState) :
    FastPathLedger :=
  match out.1 with
  | .inl call => { s with controller := out.2, call := some call }
  | .inr result => { s with controller := out.2, call := none, results := result :: s.results }

/-- Who has inserted which key once the call has gone on. -/
def installerAfter (s : FastPathLedger) (answer : MapAnswer) :
    ControllerCall → FlowKey → Option String
  | .inserting spec _ (flow :: _) =>
    if answer.refused then s.installer
    else
      Function.update s.installer (installedFlow s.controller.ifindex flow).key (some spec.bridgeId)
  | _ => s.installer

/-- The steps. A call waits while another one has the lock. -/
def step (s : FastPathLedger) : ControllerStep → Option FastPathLedger
  | .promote spec => if s.call.isSome then none else some (s.conclude (s.controller.promote spec))
  | .demote bridgeId generation =>
    if s.call.isSome then none else some (s.conclude (s.controller.demote bridgeId generation))
  | .remove bridgeId generation =>
    if s.call.isSome then none else some (s.conclude (s.controller.remove bridgeId generation))
  | .proceed answer =>
    s.call.map fun call =>
      { s.conclude (s.controller.proceed answer call) with
        installer := s.installerAfter answer call }
  | .packet key bytes redirected =>
    some { s with
      controller := s.controller.forward key bytes redirected
      counted :=
        match s.installer key with
        | none => s.counted
        | some bridgeId =>
          if (s.controller.flows key).isSome ∧ redirected then
            Function.update s.counted bridgeId (s.counted bridgeId + 1)
          else s.counted }

def holding (s : FastPathLedger) : String → Holding :=
  match s.call with
  | some call => Function.update s.controller.entry call.bridgeId call.holding
  | none => s.controller.entry

def returned (s : FastPathLedger) (bridgeId : String) : Nat :=
  (s.results.map (·.packetsFor bridgeId)).sum

/-- The packets of a bridge that a result can still return. -/
def pending (s : FastPathLedger) (bridgeId : String) : Nat :=
  (s.holding bridgeId).read + packetsOf s.controller.flows (s.holding bridgeId).unread

end FastPathLedger

/-- The controller and the kernel. -/
def fastPathLedger : System FastPathLedger ControllerStep where
  init s := ∃ ifindex, s = { controller := { ifindex } }
  next s step t := s.step step = some t

section Counters

variable {flows flows' : RtpFlows} {installed : List InstalledFlow} {key : FlowKey}
  {action : FlowAction}

theorem packetsOf_cons (flow : InstalledFlow) :
    packetsOf flows (flow :: installed) =
      (flows flow.key).elim 0 FlowAction.packets + packetsOf flows installed := rfl

theorem packetsOf_append (later : List InstalledFlow) :
    packetsOf flows (installed ++ later) = packetsOf flows installed + packetsOf flows later := by
  rw [packetsOf, List.map_append, List.sum_append]
  rfl

theorem packetsOf_congr (h : ∀ flow ∈ installed, flows flow.key = flows' flow.key) :
    packetsOf flows installed = packetsOf flows' installed := by
  rw [packetsOf, packetsOf]
  congr 1
  apply List.map_congr_left
  intro flow hFlow
  rw [h flow hFlow]

theorem packetsOf_update_of_not_mem (h : key ∉ keysOf installed) (action : Option FlowAction) :
    packetsOf (Function.update flows key action) installed = packetsOf flows installed := by
  apply packetsOf_congr
  intro flow hFlow
  apply Function.update_of_ne
  rintro rfl
  exact h (List.mem_map_of_mem hFlow)

/-- A counter that goes up by one makes the sum go up by one. -/
theorem packetsOf_count {counted : FlowAction} (hNodup : (keysOf installed).Nodup)
    (hKey : key ∈ keysOf installed) (hAction : flows key = some action)
    (hCounted : counted.packets = action.packets + 1) :
    packetsOf (Function.update flows key (some counted)) installed =
      packetsOf flows installed + 1 := by
  induction installed with
  | nil => cases hKey
  | cons flow rest ih =>
      rw [keysOf, List.map_cons, List.nodup_cons] at hNodup
      by_cases hFirst : key = flow.key
      · subst hFirst
        have hRest := @packetsOf_update_of_not_mem flows rest flow.key hNodup.1 (some counted)
        rw [packetsOf_cons, packetsOf_cons, hRest, Function.update_self, hAction,
          Option.elim_some, Option.elim_some, hCounted]
        omega
      · have hTail := List.mem_of_ne_of_mem hFirst hKey
        rw [packetsOf_cons, packetsOf_cons, ih hNodup.2 hTail,
          Function.update_of_ne (Ne.symm hFirst)]
        omega

theorem packetsOf_update_same {counted : FlowAction} (hAction : flows key = some action)
    (hSame : counted.packets = action.packets) :
    packetsOf (Function.update flows key (some counted)) installed = packetsOf flows installed := by
  rw [packetsOf, packetsOf]
  congr 1
  apply List.map_congr_left
  intro flow hFlow
  by_cases hKey : flow.key = key
  · rw [hKey, Function.update_self, hAction, Option.elim_some, Option.elim_some, hSame]
  · rw [Function.update_of_ne hKey]

theorem packets_le (hKey : key ∈ keysOf installed) (hAction : flows key = some action) :
    action.packets ≤ packetsOf flows installed := by
  induction installed with
  | nil => cases hKey
  | cons flow rest ih =>
      rw [packetsOf_cons]
      rw [keysOf, List.map_cons, List.mem_cons] at hKey
      rcases hKey with rfl | hTail
      · rw [hAction, Option.elim_some]
        exact Nat.le_add_right _ _
      · exact (ih hTail).trans (Nat.le_add_left _ _)

theorem addFlowStats_packets {stats : FastPathStats} {flow : InstalledFlow}
    (h : stats.packets + action.packets ≤ u64Max) :
    (addFlowStats stats flow action).packets = stats.packets + action.packets := by
  rw [FastPathStats.packets] at h
  unfold addFlowStats
  split <;> simp only [FastPathStats.packets, satAdd64] <;> omega

end Counters

/-- What a bridge holds: keys of its own in the map, and every packet that its flows have counted
has been returned or can still be. -/
structure FlowAccount (flows : RtpFlows) (installer : FlowKey → Option String) (b : String)
    (held : Holding) (counted returned : Nat) : Prop where
  distinct : (keysOf held.flows).Nodup
  unread : held.unread.Sublist held.flows
  present : ∀ flow ∈ held.flows, (flows flow.key).isSome ∧ installer flow.key = some b
  fits : held.read + packetsOf flows held.unread ≤ u64Max
  accounted : counted = returned + (held.read + packetsOf flows held.unread)

/-- The bridges' holdings agree with the map, and with what has been counted and returned; and each
flow in the map belongs to a bridge. -/
structure Balanced (flows : RtpFlows) (installer : FlowKey → Option String)
    (counted returned : String → Nat) (holding : String → Holding) : Prop where
  accounts : ∀ b, FlowAccount flows installer b (holding b) (counted b) (returned b)
  owned : ∀ key, (flows key).isSome →
    ∃ b, installer key = some b ∧ key ∈ keysOf (holding b).flows

namespace Balanced

variable {flows flows' : RtpFlows} {installer installer' : FlowKey → Option String}
  {counted returned : String → Nat} {holding : String → Holding} {b other : String} {key : FlowKey}
  {action changed : FlowAction}

/-- What happens to the keys of other bridges does not change an account. -/
theorem account_congr {held : Holding} {counted returned : Nat}
    (h : FlowAccount flows installer b held counted returned)
    (hSame : ∀ key ∈ keysOf held.flows, flows' key = flows key ∧ installer' key = installer key) :
    FlowAccount flows' installer' b held counted returned := by
  have hPackets : packetsOf flows' held.unread = packetsOf flows held.unread := by
    rw [packetsOf, packetsOf]
    congr 1
    apply List.map_congr_left
    intro flow hFlow
    rw [(hSame flow.key (List.mem_map_of_mem (h.unread.subset hFlow))).1]
  refine ⟨h.distinct, h.unread, fun flow hFlow => ?_, hPackets ▸ h.fits, hPackets ▸ h.accounted⟩
  obtain ⟨hNow, hOwner⟩ := hSame flow.key (List.mem_map_of_mem hFlow)
  rw [hNow, hOwner]
  exact h.present flow hFlow

/-- One holding changes. -/
theorem accounts_update {now : Holding}
    (hNow : FlowAccount flows installer b now (counted b) (returned b))
    (hOthers : ∀ other, other ≠ b →
      FlowAccount flows installer other (holding other) (counted other) (returned other))
    (other : String) :
    FlowAccount flows installer other (Function.update holding b now other) (counted other)
      (returned other) :=
  (Function.forall_update_iff holding fun other held =>
    FlowAccount flows installer other held (counted other) (returned other)).mpr
      ⟨hNow, hOthers⟩ other

theorem mem_keysOf_update {now : Holding} (hKeeps : other = b → key ∈ keysOf now.flows)
    (hKey : key ∈ keysOf (holding other).flows) :
    key ∈ keysOf (Function.update holding b now other).flows := by
  by_cases hOther : other = b
  · rw [hOther, Function.update_self]
    exact hKeeps hOther
  · rwa [Function.update_of_ne hOther]

/-- A key belongs to the bridge that has inserted it, and to no other. -/
theorem notMem (h : Balanced flows installer counted returned holding)
    (hInstaller : installer key = some b) (hNe : other ≠ b) :
    key ∉ keysOf (holding other).flows := by
  intro hKey
  obtain ⟨flow, hFlow, rfl⟩ := List.mem_map.mp hKey
  rw [((h.accounts other).present flow hFlow).2] at hInstaller
  exact hNe (Option.some.inj hInstaller)

theorem notMem_of_none (h : Balanced flows installer counted returned holding)
    (hAbsent : flows key = none) : key ∉ keysOf (holding b).flows := by
  intro hKey
  obtain ⟨flow, hFlow, rfl⟩ := List.mem_map.mp hKey
  have hSome := ((h.accounts b).present flow hFlow).1
  rw [hAbsent] at hSome
  cases hSome

/-- The holding of one bridge changes, and nothing in the map or in the counts does. -/
theorem reassign (h : Balanced flows installer counted returned holding) (b : String)
    (now : Holding) (hFlows : now.flows = (holding b).flows)
    (hUnread : now.unread.Sublist now.flows)
    (hPending : now.read + packetsOf flows now.unread =
      (holding b).read + packetsOf flows (holding b).unread) :
    Balanced flows installer counted returned (Function.update holding b now) := by
  have hAccount := h.accounts b
  refine ⟨accounts_update ⟨hFlows ▸ hAccount.distinct, hUnread, hFlows ▸ hAccount.present,
    hPending ▸ hAccount.fits, hPending ▸ hAccount.accounted⟩ fun other _ => h.accounts other, ?_⟩
  intro key hSome
  obtain ⟨owner, hInstaller, hKey⟩ := h.owned key hSome
  refine ⟨owner, hInstaller, mem_keysOf_update ?_ hKey⟩
  rintro rfl
  rwa [hFlows]

/-- A flow is put in under a key that was free, with its counters at zero. -/
theorem insert (h : Balanced flows installer counted returned holding) (b : String)
    (flow : InstalledFlow) (action : FlowAction) (hAbsent : flows flow.key = none)
    (hZero : action.packets = 0) :
    Balanced (Function.update flows flow.key (some action))
      (Function.update installer flow.key (some b)) counted returned
      (Function.update holding b
        { holding b with
          flows := (holding b).flows ++ [flow], unread := (holding b).unread ++ [flow] }) := by
  have hFree : ∀ other, flow.key ∉ keysOf (holding other).flows := fun _ => h.notMem_of_none hAbsent
  have hStill : ∀ other, FlowAccount (Function.update flows flow.key (some action))
      (Function.update installer flow.key (some b)) other (holding other) (counted other)
      (returned other) := by
    intro other
    apply account_congr (h.accounts other)
    intro key hKey
    have hNe := ne_of_mem_of_not_mem hKey (hFree other)
    exact ⟨Function.update_of_ne hNe .., Function.update_of_ne hNe ..⟩
  have hPackets : packetsOf (Function.update flows flow.key (some action))
      ((holding b).unread ++ [flow]) =
        packetsOf (Function.update flows flow.key (some action)) (holding b).unread := by
    rw [packetsOf_append, packetsOf_cons, Function.update_self, Option.elim_some, hZero]
    rfl
  have hOwn := hStill b
  refine ⟨accounts_update ⟨?_, hOwn.unread.append (.refl _), ?_, ?_, ?_⟩ fun other _ =>
    hStill other,
    ?_⟩
  · show (keysOf ((holding b).flows ++ [flow])).Nodup
    rw [keysOf, List.map_append, List.map_singleton, List.nodup_append_comm]
    exact List.nodup_cons.mpr ⟨hFree b, hOwn.distinct⟩
  · intro old hOld
    rcases List.mem_append.mp hOld with hBefore | hLast
    · exact hOwn.present old hBefore
    · rw [List.mem_singleton.mp hLast, Function.update_self, Function.update_self]
      exact ⟨rfl, rfl⟩
  · rw [hPackets]
    exact hOwn.fits
  · rw [hPackets]
    exact hOwn.accounted
  · intro key hSome
    by_cases hKey : key = flow.key
    · refine ⟨b, by rw [hKey, Function.update_self], ?_⟩
      rw [Function.update_self, hKey]
      exact List.mem_map_of_mem (List.mem_append_right _ List.mem_cons_self)
    · rw [Function.update_of_ne hKey] at hSome ⊢
      obtain ⟨owner, hInstaller, hMem⟩ := h.owned key hSome
      refine ⟨owner, hInstaller, mem_keysOf_update ?_ hMem⟩
      rintro rfl
      rw [keysOf, List.map_append]
      exact List.mem_append_left _ hMem

/-- A flow whose counters nobody will read any more is taken out. -/
theorem take (h : Balanced flows installer counted returned holding) (b : String)
    (flow : InstalledFlow) (rest : List InstalledFlow) (hFlows : (holding b).flows = flow :: rest)
    (hUnread : (holding b).unread.Sublist rest) :
    Balanced (Function.update flows flow.key none) installer counted returned
      (Function.update holding b { holding b with flows := rest }) := by
  have hOwn := h.accounts b
  have hNodup := hOwn.distinct
  rw [hFlows, keysOf, List.map_cons, List.nodup_cons] at hNodup
  have hInstaller := (hOwn.present flow (hFlows ▸ List.mem_cons_self)).2
  have hPackets := @packetsOf_update_of_not_mem flows (holding b).unread flow.key
    (fun hKey => hNodup.1 ((hUnread.map _).subset hKey)) none
  refine ⟨accounts_update ⟨hNodup.2, hUnread, ?_, ?_, ?_⟩ ?_, ?_⟩
  · intro old hOld
    have hNe : old.key ≠ flow.key := ne_of_mem_of_not_mem (List.mem_map_of_mem hOld) hNodup.1
    rw [Function.update_of_ne hNe]
    exact hOwn.present old (hFlows ▸ List.mem_cons_of_mem _ hOld)
  · rw [hPackets]
    exact hOwn.fits
  · rw [hPackets]
    exact hOwn.accounted
  · intro other hOther
    apply account_congr (h.accounts other)
    intro key hKey
    have hNe := ne_of_mem_of_not_mem hKey (h.notMem hInstaller hOther)
    exact ⟨Function.update_of_ne hNe .., rfl⟩
  · intro key hSome
    have hNe : key ≠ flow.key := by
      rintro rfl
      rw [Function.update_self] at hSome
      cases hSome
    rw [Function.update_of_ne hNe] at hSome
    obtain ⟨owner, hOwner, hMem⟩ := h.owned key hSome
    refine ⟨owner, hOwner, mem_keysOf_update ?_ hMem⟩
    rintro rfl
    rw [hFlows, keysOf, List.map_cons, List.mem_cons] at hMem
    exact hMem.resolve_left hNe

/-- What has been read is returned, once nothing is left in the map. -/
theorem settle (h : Balanced flows installer counted returned holding) (b : String)
    (hFlows : (holding b).flows = []) (returned' : String → Nat)
    (hReturned : ∀ other, returned' other =
      returned other + if other = b then (holding b).read else 0) :
    Balanced flows installer counted returned' (Function.update holding b {}) := by
  have hUnread : (holding b).unread = [] := List.sublist_nil.mp (hFlows ▸ (h.accounts b).unread)
  refine ⟨accounts_update ⟨List.nodup_nil, .refl _, nofun, Nat.zero_le _, ?_⟩ ?_, ?_⟩
  · have hAccounted := (h.accounts b).accounted
    rw [hUnread] at hAccounted
    rw [hReturned, if_pos rfl, hAccounted]
    rfl
  · intro other hOther
    rw [hReturned, if_neg hOther]
    exact h.accounts other
  · intro key hSome
    obtain ⟨owner, hInstaller, hKey⟩ := h.owned key hSome
    refine ⟨owner, hInstaller, mem_keysOf_update ?_ hKey⟩
    rintro rfl
    rwa [hFlows] at hKey

/-- A counter that is still to be read goes up, or another field of a flow's entry changes. -/
theorem count (h : Balanced flows installer counted returned holding)
    (hAction : flows key = some action) {counted' : String → Nat}
    (hPending : ∀ other, packetsOf (Function.update flows key (some changed))
        (holding other).unread + counted other =
      packetsOf flows (holding other).unread + counted' other)
    (hFits : ∀ other, counted' other ≤ returned other + u64Max) :
    Balanced (Function.update flows key (some changed)) installer counted' returned holding := by
  have hSome : ∀ other, (Function.update flows key (some changed) other).isSome =
      (flows other).isSome := by
    intro other
    by_cases hOther : other = key
    · rw [hOther, Function.update_self, hAction]
      rfl
    · rw [Function.update_of_ne hOther]
  constructor
  · intro other
    have hAccount := h.accounts other
    have hAccounted := hAccount.accounted
    have hNow := hPending other
    have hBound := hFits other
    refine ⟨hAccount.distinct, hAccount.unread, fun flow hFlow => ?_, by omega, by omega⟩
    rw [hSome]
    exact hAccount.present flow hFlow
  · intro other hOther
    rw [hSome] at hOther
    exact h.owned other hOther

end Balanced

/-- What a result promises. After a promotion that has failed none of its keys is in the map; and
after stats were returned none of the bridge's keys is, and each packet that the bridge's flows
have counted was returned once. -/
def ControllerResult.Faithful (t : FastPathLedger) : ControllerResult → Prop
  | .promoted spec (.error _) =>
    ∀ key ∈ specKeys t.controller.ifindex spec.flows, t.controller.flows key = none
  | .removed bridgeId (.ok _) =>
    (∀ key, (t.controller.flows key).isSome → t.installer key ≠ some bridgeId) ∧
      t.counted bridgeId = t.returned bridgeId
  | _ => True

namespace FastPathLedger

variable {s t : FastPathLedger} {step : ControllerStep} {bridgeId : String} {generation : Nat}
  {answer : MapAnswer} {call call' : ControllerCall} {state : ControllerState}

/-- The steps after which a promise may be broken: a promotion whose flows share a key with each
other or with the map; an insertion that the kernel refuses after the flows before it have counted
packets; a removal that it refuses; and a packet that is counted by a flow whose counters have been
read or are rolled back, or that a 64-bit counter cannot hold any more. -/
def disturbs (s : FastPathLedger) : ControllerStep → Bool
  | .promote spec =>
    let keys := specKeys s.controller.ifindex spec.flows
    keys.any (fun key => (s.controller.flows key).isSome) ||
      !s.controller.bridges.contains spec.bridgeId && !decide keys.Nodup
  | .demote _ _ | .remove _ _ => false
  | .proceed answer =>
    answer.refused &&
      match s.call with
      | some (.inserting _ installed (_ :: _)) => 0 < packetsOf s.controller.flows installed
      | some (.rollingBack _ _ (_ :: _)) | some (.removing ..) => true
      | _ => false
  | .packet key _ redirected =>
    match s.installer key with
    | none => false
    | some bridgeId =>
      (s.controller.flows key).isSome && redirected &&
        (u64Max ≤ s.pending bridgeId || key ∉ keysOf (s.holding bridgeId).unread)

/-- Every packet counted has been returned once or can still be. -/
def Accounted (s : FastPathLedger) : Prop :=
  ∀ bridgeId, s.counted bridgeId = s.returned bridgeId + s.pending bridgeId

/-- How far the call has come: the keys that a promotion still has to insert are free, those that
it has given up are free again, and no removal was refused. -/
def CallSound (s : FastPathLedger) : ControllerCall → Prop
  | .inserting spec installed rest =>
    (∀ key ∈ specKeys s.controller.ifindex spec.flows,
      key ∈ keysOf installed ∨ key ∈ specKeys s.controller.ifindex rest) ∧
    (∀ key ∈ specKeys s.controller.ifindex rest, s.controller.flows key = none) ∧
    (specKeys s.controller.ifindex rest).Nodup
  | .rollingBack spec _ rest =>
    ∀ key ∈ specKeys s.controller.ifindex spec.flows,
      key ∈ keysOf rest ∨ s.controller.flows key = none
  | .reading _ _ _ removeError | .removing _ _ _ _ removeError => removeError = none

structure Sound (s : FastPathLedger) : Prop where
  balanced : Balanced s.controller.flows s.installer s.counted s.returned s.holding
  free : ∀ call, s.call = some call → s.controller.bridges.get call.bridgeId = none
  call : ∀ call, s.call = some call → s.CallSound call

theorem holding_of_call (hCall : s.call = some call) :
    s.holding = Function.update s.controller.entry call.bridgeId call.holding := by
  rw [holding, hCall]

theorem holding_of_idle (hCall : s.call = none) : s.holding = s.controller.entry := by
  rw [holding, hCall]

theorem entry_of_none (hNone : state.bridges.get bridgeId = none) : state.entry bridgeId = {} := by
  rw [ControllerState.entry, hNone]

theorem update_entry (hNone : state.bridges.get bridgeId = none) :
    Function.update state.entry bridgeId {} = state.entry := by
  rw [← entry_of_none hNone, Function.update_eq_self]

/-- The call goes on for the same bridge. -/
theorem holding_next (state : ControllerState) (hCall : s.call = some call)
    (hBridge : call'.bridgeId = call.bridgeId)
    (hBridges : state.bridges = s.controller.bridges) :
    Function.update state.entry call'.bridgeId call'.holding =
      Function.update s.holding call.bridgeId call'.holding := by
  have hEntry : state.entry = s.controller.entry := by
    funext b
    rw [ControllerState.entry, ControllerState.entry, hBridges]
  rw [holding_of_call hCall, Function.update_idem, hBridge, hEntry]

theorem holding_self (hCall : s.call = some call) :
    s.holding call.bridgeId = call.holding := by
  rw [holding_of_call hCall, Function.update_self]

/-- A bridge that has nothing in the map has got back all that its flows have counted. -/
theorem Sound.settled (h : t.Sound) (hEmpty : t.holding bridgeId = {}) :
    (∀ key, (t.controller.flows key).isSome → t.installer key ≠ some bridgeId) ∧
      t.counted bridgeId = t.returned bridgeId := by
  constructor
  · intro key hSome hInstaller
    obtain ⟨owner, hOwner, hKey⟩ := h.balanced.owned key hSome
    obtain rfl := Option.some.inj (hOwner.symm.trans hInstaller)
    rw [hEmpty] at hKey
    cases hKey
  · have hAccounted := (h.balanced.accounts bridgeId).accounted
    rw [hEmpty] at hAccounted
    exact hAccounted

/-- The call returns while the bridges and the map stay as they are. -/
theorem Sound.returns {result : ControllerResult} (h : s.Sound) (hCall : s.call = none)
    (hNothing : ∀ b, result.packetsFor b = 0) :
    Sound { s with call := none, results := result :: s.results } where
  balanced := by
    have hReturned : FastPathLedger.returned
        { s with call := none, results := result :: s.results } = s.returned := by
      funext b
      show result.packetsFor b + s.returned b = s.returned b
      rw [hNothing, Nat.zero_add]
    rw [hReturned]
    have hBalanced := h.balanced
    rwa [holding_of_idle hCall] at hBalanced
  free call hSome := by cases hSome
  call call hSome := by cases hSome

section Calls

variable {spec : FastPathBridgeSpec}

theorem Sound.promoted (h : s.Sound) (hCall : s.call = none)
    (hDisturbs : s.disturbs (.promote spec) = false) :
    (s.conclude (s.controller.promote spec)).Sound ∧
      ∀ result, (s.conclude (s.controller.promote spec)).results = result :: s.results →
        result.Faithful (s.conclude (s.controller.promote spec)) := by
  simp only [disturbs, Bool.or_eq_false_iff, Bool.and_eq_false_iff, Bool.not_eq_false',
    decide_eq_true_eq] at hDisturbs
  obtain ⟨hKeys, hDistinct⟩ := hDisturbs
  have hAbsent : ∀ key ∈ specKeys s.controller.ifindex spec.flows,
      s.controller.flows key = none := by
    intro key hKey
    have hNot := List.any_eq_false.mp hKeys key hKey
    rwa [Bool.not_eq_true, Option.isSome_eq_false_iff, Option.isNone_iff_eq_none] at hNot
  rw [ControllerState.promote]
  split
  · refine ⟨h.returns hCall fun _ => rfl, ?_⟩
    intro result hResult
    obtain ⟨rfl, -⟩ := List.cons.inj hResult
    exact hAbsent
  · next hNew =>
      rw [Bool.not_eq_true] at hNew
      have hNone := Table.not_contains_iff.mp hNew
      refine ⟨⟨?_, ?_, ?_⟩, fun result hResult => (List.cons_ne_self _ _ hResult.symm).elim⟩
      · have hBalanced := h.balanced
        rw [holding_of_idle hCall, ← update_entry hNone] at hBalanced
        exact hBalanced
      · intro call hSome
        obtain rfl := Option.some.inj hSome
        exact hNone
      · intro call hSome
        obtain rfl := Option.some.inj hSome
        exact ⟨fun key hKey => .inr hKey, hAbsent,
          hDistinct.resolve_left (by rw [hNew]; exact Bool.false_ne_true)⟩

theorem Sound.removes (h : s.Sound) (hCall : s.call = none) :
    (s.conclude (s.controller.removeLocked bridgeId generation)).Sound ∧
      ∀ result, (s.conclude (s.controller.removeLocked bridgeId generation)).results =
          result :: s.results →
        result.Faithful (s.conclude (s.controller.removeLocked bridgeId generation)) := by
  rw [ControllerState.removeLocked]
  split
  · next hNone =>
      have hNothing : ∀ b, (ControllerResult.removed bridgeId (.ok {})).packetsFor b = 0 := by
        intro b
        rw [ControllerResult.packetsFor]
        split <;> rfl
      have hSound := h.returns hCall hNothing
      refine ⟨hSound, fun result hResult => ?_⟩
      obtain ⟨rfl, -⟩ := List.cons.inj hResult
      exact hSound.settled (entry_of_none hNone)
  · next installedGeneration installed hEntry =>
      split
      · refine ⟨h.returns hCall fun _ => rfl, fun result hResult => ?_⟩
        obtain ⟨rfl, -⟩ := List.cons.inj hResult
        trivial
      · refine ⟨⟨?_, ?_, ?_⟩, fun result hResult => (List.cons_ne_self _ _ hResult.symm).elim⟩
        · have hHolding : Function.update
              (ControllerState.entry
                { s.controller with bridges := s.controller.bridges.remove bridgeId }) bridgeId
              (ControllerCall.reading bridgeId installed {} none).holding = s.holding := by
            rw [holding_of_idle hCall]
            funext b
            by_cases hSame : b = bridgeId
            · rw [hSame, Function.update_self, ControllerState.entry, hEntry]
              rfl
            · rw [Function.update_of_ne hSame, ControllerState.entry, ControllerState.entry,
                Table.get_remove_of_ne (Ne.symm hSame)]
          have hBalanced := h.balanced
          rw [← hHolding] at hBalanced
          exact hBalanced
        · intro call hSome
          obtain rfl := Option.some.inj hSome
          exact Table.get_remove_self
        · intro call hSome
          obtain rfl := Option.some.inj hSome
          rfl

end Calls

section Proceeding

variable {spec : FastPathBridgeSpec} {installed rest : List InstalledFlow} {flow : InstalledFlow}
  {specs : List FastPathFlowSpec} {first : FastPathFlowSpec} {error : String}
  {stats : FastPathStats} {removeError : Option String}

/-- The ledger after the call has gone on or returned. -/
def proceeded (s : FastPathLedger) (answer : MapAnswer) (call : ControllerCall) : FastPathLedger :=
  { s.conclude (s.controller.proceed answer call) with installer := s.installerAfter answer call }

/-- What has to be shown of a call that goes on to its next request. -/
theorem Sound.goesOn (h : s.Sound) (hCall : s.call = some call) {flows : RtpFlows}
    (hProceed : s.controller.proceed answer call = (.inl call', { s.controller with flows }))
    (hBridge : call'.bridgeId = call.bridgeId)
    (hBalanced : Balanced flows (s.installerAfter answer call) s.counted s.returned
      (Function.update s.holding call.bridgeId call'.holding))
    (hSound : CallSound { s with controller := { s.controller with flows } } call') :
    (s.proceeded answer call).Sound := by
  rw [proceeded, hProceed]
  constructor
  · rw [← holding_next { s.controller with flows } hCall hBridge rfl] at hBalanced
    exact hBalanced
  · intro other hSome
    obtain rfl := Option.some.inj hSome
    rw [hBridge]
    exact h.free call hCall
  · intro other hSome
    obtain rfl := Option.some.inj hSome
    cases call' <;> exact hSound

/-- A flow of the bridge's is in the map, and the kernel gives it up when it is asked to. -/
theorem Sound.mapRemove_eq (h : s.Sound) (bridgeId : String)
    (hFlow : flow ∈ (s.holding bridgeId).flows) (hRefused : answer.refused = false) :
    mapRemove s.controller.flows flow.key answer =
      .ok (Function.update s.controller.flows flow.key none) := by
  obtain ⟨action, hAction⟩ :=
    Option.isSome_iff_exists.mp ((h.balanced.accounts bridgeId).present flow hFlow).1
  rw [mapRemove, if_neg (by simp [hRefused, hAction])]

/-- The next flow of a promotion is put into the map, or its refusal starts the rollback. -/
theorem Sound.inserts (h : s.Sound)
    (hCall : s.call = some (.inserting spec installed (first :: specs)))
    (hDisturbs : s.disturbs (.proceed answer) = false) :
    (s.proceeded answer (.inserting spec installed (first :: specs))).Sound := by
  obtain ⟨hSpec, hAbsent, hNodup⟩ := h.call _ hCall
  have hHolding : s.holding spec.bridgeId = { flows := installed, unread := installed } :=
    holding_self hCall
  simp only [disturbs, hCall] at hDisturbs
  cases hRefused : answer.refused with
  | true =>
      rw [hRefused, Bool.true_and, decide_eq_false_iff_not, Nat.not_lt, Nat.le_zero] at hDisturbs
      have hProceed : s.controller.proceed answer (.inserting spec installed (first :: specs)) =
          (.inl (.rollingBack spec answer.error installed), s.controller) := by
        rw [ControllerState.proceed, mapInsert, hRefused]
        rfl
      apply h.goesOn hCall hProceed rfl
      · rw [installerAfter, hRefused]
        apply h.balanced.reassign spec.bridgeId { flows := installed }
        · rw [hHolding]
        · exact List.nil_sublist _
        · rw [hHolding, hDisturbs]
          rfl
      · intro key hKey
        exact (hSpec key hKey).imp_right (hAbsent key)
  | false =>
      have hOthers := (List.nodup_cons.mp hNodup).1
      have hProceed : s.controller.proceed answer (.inserting spec installed (first :: specs)) =
          (.inl (.inserting spec (installed ++ [installedFlow s.controller.ifindex first]) specs),
            { s.controller with
              flows := Function.update s.controller.flows
                (installedFlow s.controller.ifindex first).key
                (some (flowAction s.controller.ifindex spec.generation first)) }) := by
        rw [ControllerState.proceed, mapInsert, hRefused]
        rfl
      apply h.goesOn hCall hProceed rfl
      · have hInserted := h.balanced.insert spec.bridgeId (installedFlow s.controller.ifindex first)
          (flowAction s.controller.ifindex spec.generation first)
          (hAbsent _ List.mem_cons_self) rfl
        rw [hHolding] at hInserted
        rw [installerAfter, hRefused]
        exact hInserted
      · refine ⟨fun key hKey => ?_, fun key hKey => ?_, (List.nodup_cons.mp hNodup).2⟩
        · rw [keysOf, List.map_append, List.mem_append]
          rcases hSpec key hKey with hBefore | hNow
          · exact .inl (.inl hBefore)
          · rcases List.mem_cons.mp hNow with rfl | hLater
            · exact .inl (.inr List.mem_cons_self)
            · exact .inr hLater
        · have hNe : key ≠ (installedFlow s.controller.ifindex first).key := by
            rintro rfl
            exact hOthers hKey
          exact (Function.update_of_ne hNe _ _).trans (hAbsent key (List.mem_cons_of_mem _ hKey))

theorem Sound.rollsBack (h : s.Sound)
    (hCall : s.call = some (.rollingBack spec error (flow :: rest)))
    (hDisturbs : s.disturbs (.proceed answer) = false) :
    (s.proceeded answer (.rollingBack spec error (flow :: rest))).Sound := by
  have hSpec : ∀ key ∈ specKeys s.controller.ifindex spec.flows,
    key ∈ keysOf (flow :: rest) ∨ s.controller.flows key = none := h.call _ hCall
  have hHolding : s.holding spec.bridgeId = { flows := flow :: rest } := holding_self hCall
  simp only [disturbs, hCall, Bool.and_true] at hDisturbs
  have hRemoved := h.mapRemove_eq spec.bridgeId
    (by rw [hHolding]; exact List.mem_cons_self) hDisturbs
  have hProceed : s.controller.proceed answer (.rollingBack spec error (flow :: rest)) =
      (.inl (.rollingBack spec error rest),
        { s.controller with flows := Function.update s.controller.flows flow.key none }) := by
    rw [ControllerState.proceed, hRemoved]
  apply h.goesOn hCall hProceed rfl
  · have hTaken := h.balanced.take spec.bridgeId flow rest
      (by rw [hHolding]) (by rw [hHolding]; exact List.nil_sublist _)
    rw [hHolding] at hTaken
    exact hTaken
  · intro key hKey
    by_cases hNe : key = flow.key
    · right
      rw [hNe]
      exact Function.update_self _ _ _
    · rcases hSpec key hKey with hMem | hNone
      · exact .inl ((List.mem_cons.mp hMem).resolve_left hNe)
      · exact .inr ((Function.update_of_ne hNe _ _).trans hNone)

theorem Sound.reads (h : s.Sound)
    (hCall : s.call = some (.reading bridgeId (flow :: rest) stats removeError)) :
    (s.proceeded answer (.reading bridgeId (flow :: rest) stats removeError)).Sound := by
  have hHolding : s.holding bridgeId =
    { flows := flow :: rest, unread := flow :: rest, read := stats.packets } :=
    holding_self hCall
  have hHere : (s.controller.flows flow.key).isSome := by
    apply ((h.balanced.accounts bridgeId).present flow _).1
    rw [hHolding]
    exact List.mem_cons_self
  obtain ⟨action, hAction⟩ := Option.isSome_iff_exists.mp hHere
  have hTotal : stats.packets + packetsOf s.controller.flows (flow :: rest) =
      stats.packets + action.packets + packetsOf s.controller.flows rest := by
    rw [packetsOf_cons, hAction, Option.elim_some, Nat.add_assoc]
  have hFits := (h.balanced.accounts bridgeId).fits
  simp only [hHolding, hTotal] at hFits
  have hAdded : (addFlowStats stats flow action).packets = stats.packets + action.packets :=
    addFlowStats_packets (by omega)
  have hProceed : s.controller.proceed answer (.reading bridgeId (flow :: rest) stats removeError) =
      (.inl (.removing bridgeId flow rest (addFlowStats stats flow action) removeError),
        s.controller) := by
    rw [ControllerState.proceed, hAction]
  apply h.goesOn hCall hProceed rfl
  · apply h.balanced.reassign
    · exact (congrArg Holding.flows hHolding).symm
    · exact List.sublist_cons_self _ _
    · have hRead : (addFlowStats stats flow action).packets +
          packetsOf s.controller.flows rest = (s.holding bridgeId).read +
            packetsOf s.controller.flows (s.holding bridgeId).unread := by
        rw [hHolding, hAdded, hTotal]
      exact hRead
  · have hSound : removeError = none := h.call _ hCall
    exact hSound

theorem Sound.takesOut (h : s.Sound)
    (hCall : s.call = some (.removing bridgeId flow rest stats removeError))
    (hDisturbs : s.disturbs (.proceed answer) = false) :
    (s.proceeded answer (.removing bridgeId flow rest stats removeError)).Sound := by
  have hHolding : s.holding bridgeId =
    { flows := flow :: rest, unread := rest, read := stats.packets } := holding_self hCall
  simp only [disturbs, hCall, Bool.and_true] at hDisturbs
  have hRemoved := h.mapRemove_eq bridgeId
    (by rw [hHolding]; exact List.mem_cons_self) hDisturbs
  have hProceed : s.controller.proceed answer (.removing bridgeId flow rest stats removeError) =
      (.inl (.reading bridgeId rest stats removeError),
        { s.controller with flows := Function.update s.controller.flows flow.key none }) := by
    rw [ControllerState.proceed, hRemoved]
  apply h.goesOn hCall hProceed rfl
  · have hTaken := h.balanced.take bridgeId flow rest
      (by rw [hHolding]) (by rw [hHolding])
    rw [hHolding] at hTaken
    exact hTaken
  · have hSound : removeError = none := h.call _ hCall
    exact hSound

/-- All flows of the promotion are in the map, and the bridge gets its entry. -/
theorem Sound.enters (h : s.Sound) (hCall : s.call = some (.inserting spec installed [])) :
    (s.proceeded answer (.inserting spec installed [])).Sound where
  balanced := by
    have hEntry : ControllerState.entry
        { s.controller with
          bridges := s.controller.bridges.insert spec.bridgeId (spec.generation, installed) } =
        s.holding := by
      funext b
      by_cases hSame : b = spec.bridgeId
      · have hHolding : s.holding spec.bridgeId = _ := holding_self hCall
        rw [hSame, ControllerState.entry, Table.get_insert_self, hHolding]
        rfl
      · have hOther : s.holding b = s.controller.entry b := by
          rw [holding_of_call hCall]
          exact Function.update_of_ne hSame _ _
        rw [ControllerState.entry, Table.get_insert_of_ne (Ne.symm hSame), hOther]
        rfl
    have hReturned : (s.proceeded answer (.inserting spec installed [])).returned = s.returned :=
      funext fun b => Nat.zero_add _
    have hBalanced := h.balanced
    rw [← hEntry, ← hReturned] at hBalanced
    exact hBalanced
  free call hSome := by cases hSome
  call call hSome := by cases hSome

theorem Sound.gaveUp (h : s.Sound) (hCall : s.call = some (.rollingBack spec error [])) :
    (s.proceeded answer (.rollingBack spec error [])).Sound where
  balanced := by
    have hHolding : s.holding = s.controller.entry :=
      (holding_of_call hCall).trans (update_entry (h.free _ hCall))
    have hReturned : (s.proceeded answer (.rollingBack spec error [])).returned = s.returned :=
      funext fun b => Nat.zero_add _
    have hBalanced := h.balanced
    rw [hHolding, ← hReturned] at hBalanced
    exact hBalanced
  free call hSome := by cases hSome
  call call hSome := by cases hSome

/-- The last flow has been taken out, and the stats are returned. -/
theorem Sound.ends (h : s.Sound) (hCall : s.call = some (.reading bridgeId [] stats none)) :
    (s.proceeded answer (.reading bridgeId [] stats none)).Sound where
  balanced := by
    have hHolding : s.holding bridgeId = { read := stats.packets } := holding_self hCall
    have hNow : Function.update s.holding bridgeId {} = s.controller.entry := by
      rw [holding_of_call hCall]
      exact (Function.update_idem _ _ _).trans (update_entry (h.free _ hCall))
    have hSettled := h.balanced.settle bridgeId (by rw [hHolding])
      (s.proceeded answer (.reading bridgeId [] stats none)).returned fun other => by
        rw [hHolding, Nat.add_comm]
        simp only [@eq_comm _ other]
        rfl
    rw [hNow] at hSettled
    exact hSettled
  free call hSome := by cases hSome
  call call hSome := by cases hSome

theorem Sound.proceeds (h : s.Sound) (hCall : s.call = some call)
    (hDisturbs : s.disturbs (.proceed answer) = false) :
    (s.proceeded answer call).Sound ∧
      ∀ result, (s.proceeded answer call).results = result :: s.results →
        result.Faithful (s.proceeded answer call) := by
  cases call with
  | inserting spec installed rest =>
      cases rest with
      | nil =>
          refine ⟨h.enters hCall, fun result hResult => ?_⟩
          obtain ⟨rfl, -⟩ := List.cons.inj hResult
          trivial
      | cons first specs =>
          refine ⟨h.inserts hCall hDisturbs, fun result hResult => ?_⟩
          rw [proceeded, ControllerState.proceed, mapInsert] at hResult
          split at hResult
          · exact (List.cons_ne_self _ _ hResult.symm).elim
          · exact (List.cons_ne_self _ _ hResult.symm).elim
  | rollingBack spec error rest =>
      cases rest with
      | nil =>
          refine ⟨h.gaveUp hCall, fun result hResult => ?_⟩
          obtain ⟨rfl, -⟩ := List.cons.inj hResult
          intro key hKey
          exact (h.call _ hCall key hKey).resolve_left List.not_mem_nil
      | cons flow rest =>
          exact ⟨h.rollsBack hCall hDisturbs, fun result hResult =>
            (List.cons_ne_self _ _ hResult.symm).elim⟩
  | reading bridgeId rest stats removeError =>
      cases rest with
      | nil =>
          obtain rfl : removeError = none := h.call _ hCall
          refine ⟨h.ends hCall, fun result hResult => ?_⟩
          obtain ⟨rfl, -⟩ := List.cons.inj hResult
          exact (h.ends hCall).settled (entry_of_none (h.free _ hCall))
      | cons flow rest =>
          exact ⟨h.reads hCall, fun result hResult => (List.cons_ne_self _ _ hResult.symm).elim⟩
  | removing bridgeId flow rest stats removeError =>
      refine ⟨h.takesOut hCall hDisturbs, fun result hResult => ?_⟩
      rw [proceeded, ControllerState.proceed] at hResult
      split at hResult
      · exact (List.cons_ne_self _ _ hResult.symm).elim
      · exact (List.cons_ne_self _ _ hResult.symm).elim

end Proceeding

section Packets

variable {key : FlowKey} {bytes : Nat} {redirected : Bool} {action : FlowAction}

/-- Counters that agree with what has been counted leave the ledger sound. -/
theorem Sound.counts (h : s.Sound) (hAction : s.controller.flows key = some action)
    {changed : FlowAction} {total : String → Nat}
    (hBalanced : Balanced (Function.update s.controller.flows key (some changed)) s.installer total
      s.returned s.holding) :
    Sound
      { s with
        controller :=
          { s.controller with flows := Function.update s.controller.flows key (some changed) }
        counted := total } where
  balanced := hBalanced
  free := h.free
  call other hSome := by
    have hNone : ∀ free, s.controller.flows free = none →
        Function.update s.controller.flows key (some changed) free = none := by
      intro free hFree
      rw [Function.update_of_ne, hFree]
      rintro rfl
      rw [hFree] at hAction
      cases hAction
    have hCall := h.call other hSome
    cases other with
    | inserting spec installed rest =>
        exact ⟨hCall.1, fun free hFree => hNone free (hCall.2.1 free hFree), hCall.2.2⟩
    | rollingBack spec error rest =>
        exact fun free hFree => (hCall free hFree).imp_right (hNone free)
    | reading bridgeId rest stats removeError => exact hCall
    | removing bridgeId flow rest stats removeError => exact hCall

theorem Sound.counted_le (h : s.Sound) (b : String) : s.counted b ≤ s.returned b + u64Max := by
  have hFits := (h.balanced.accounts b).fits
  have hAccounted := (h.balanced.accounts b).accounted
  omega

/-- A packet is counted in a flow that can still be returned. -/
theorem Sound.packet (h : s.Sound) (hDisturbs : s.disturbs (.packet key bytes redirected) = false)
    (hStep : s.step (.packet key bytes redirected) = some t) : t.Sound := by
  cases hAction : s.controller.flows key with
  | none =>
      have hSame : s.step (.packet key bytes redirected) = some s := by
        simp only [FastPathLedger.step, ControllerState.forward, hAction, Option.isSome_none,
          Bool.false_eq_true, false_and, if_false]
        cases s.installer key <;> rfl
      obtain rfl := Option.some.inj (hSame.symm.trans hStep)
      exact h
  | some action =>
      obtain ⟨bridgeId, hInstaller, hKey⟩ := h.balanced.owned key (by rw [hAction]; rfl)
      cases redirected with
      | false =>
          simp only [FastPathLedger.step, ControllerState.forward, hAction, hInstaller,
            Bool.false_eq_true, and_false, if_false, Option.some.injEq] at hStep
          obtain rfl := hStep
          apply h.counts hAction
          apply h.balanced.count hAction
          · intro other
            rw [packetsOf_update_same hAction]
            rfl
          · exact h.counted_le
      | true =>
          simp only [disturbs, hInstaller, hAction, Option.isSome_some, Bool.true_and,
            Bool.or_eq_false_iff, decide_eq_false_iff_not, not_le, not_not] at hDisturbs
          obtain ⟨hRoom, hUnread⟩ := hDisturbs
          have hBelow := packets_le hUnread hAction
          have hWrap : (action.packets + 1) % 2 ^ 64 = action.packets + 1 := by
            apply Nat.mod_eq_of_lt
            rw [pending, u64Max] at hRoom
            omega
          simp only [FastPathLedger.step, ControllerState.forward, hAction, hInstaller, if_true,
            hWrap, Option.isSome_some, and_self, Option.some.injEq] at hStep
          obtain rfl := hStep
          have hAccount := h.balanced.accounts bridgeId
          have hNodup := hAccount.distinct.sublist (hAccount.unread.map InstalledFlow.key)
          apply h.counts hAction
          apply h.balanced.count hAction
          · intro other
            by_cases hNe : other = bridgeId
            · subst hNe
              rw [packetsOf_count hNodup hUnread hAction rfl, Function.update_self]
              omega
            · rw [Function.update_of_ne hNe, packetsOf_update_of_not_mem fun hUnread =>
                h.balanced.notMem hInstaller hNe
                  (((h.balanced.accounts other).unread.map _).subset hUnread)]
          · intro other
            by_cases hNe : other = bridgeId
            · subst hNe
              have hAccounted := (h.balanced.accounts other).accounted
              rw [pending] at hRoom
              rw [Function.update_self]
              omega
            · rw [Function.update_of_ne hNe]
              exact h.counted_le other

end Packets

/-- A step that does not disturb keeps the ledger sound, and a result that it returns keeps its
promise. -/
theorem Sound.next (h : s.Sound) (hDisturbs : s.disturbs step = false)
    (hStep : s.step step = some t) :
    t.Sound ∧ ∀ result, t.results = result :: s.results → result.Faithful t := by
  cases step with
  | promote spec =>
      obtain ⟨hBusy, hStep⟩ := Option.ite_none_left_eq_some.mp hStep
      obtain rfl := Option.some.inj hStep
      exact h.promoted (Option.not_isSome_iff_eq_none.mp hBusy) hDisturbs
  | demote bridgeId generation | remove bridgeId generation =>
      obtain ⟨hBusy, hStep⟩ := Option.ite_none_left_eq_some.mp hStep
      obtain rfl := Option.some.inj hStep
      exact h.removes (Option.not_isSome_iff_eq_none.mp hBusy)
  | proceed answer =>
      obtain ⟨call, hCall, rfl⟩ := Option.map_eq_some_iff.mp hStep
      exact h.proceeds hCall hDisturbs
  | packet key bytes redirected =>
      refine ⟨h.packet hDisturbs hStep, fun result hResult => ?_⟩
      obtain rfl := Option.some.inj hStep
      exact (List.cons_ne_self _ _ hResult.symm).elim

theorem Sound.of_init (h : fastPathLedger.init s) : s.Sound := by
  obtain ⟨ifindex, rfl⟩ := h
  exact
    { balanced :=
        { accounts := fun _ =>
            ⟨.nil, .slnil, fun _ hFlow => (List.not_mem_nil hFlow).elim, Nat.zero_le _, rfl⟩
          owned := fun _ hSome => by cases hSome }
      free := fun _ hCall => by cases hCall
      call := fun _ hCall => by cases hCall }

end FastPathLedger

/-- In a run without disturbance every packet that a bridge's flows have counted has been returned
once or can still be, and every result keeps its promise. -/
theorem controller_faithful {s t : FastPathLedger} {step : ControllerStep}
    (h : ReachableWithin fastPathLedger (fun s step => s.disturbs step = false) s)
    (hDisturbs : s.disturbs step = false) (hStep : s.step step = some t) :
    s.Accounted ∧ ∀ result, t.results = result :: s.results → result.Faithful t := by
  have hSound : s.Sound := by
    apply h.invariant fun _ => .of_init
    exact fun t i u hInvariant hQuiet hNext => (hInvariant.next hQuiet hNext).1
  exact ⟨fun bridgeId => (hSound.balanced.accounts bridgeId).accounted,
    (hSound.next hDisturbs hStep).2⟩

section Removals

variable {s t start : FastPathLedger} {bridgeId : String} {installed rest : List InstalledFlow}
  {flows : RtpFlows} {call : ControllerCall} {answer : MapAnswer}

theorem ipv4Native_inj {ip other : Ipv4Addr} (h : ipv4Native ip = ipv4Native other) :
    ip = other := by
  obtain ⟨a, b, c, d⟩ := ip
  obtain ⟨a', b', c', d'⟩ := other
  simp only [ipv4Native] at h
  have hA := a.toNat_lt
  have hA' := a'.toNat_lt
  have hB := b.toNat_lt
  have hB' := b'.toNat_lt
  have hC := c.toNat_lt
  have hC' := c'.toNat_lt
  rw [Ipv4Addr.mk.injEq, ← UInt8.toNat_inj, ← UInt8.toNat_inj, ← UInt8.toNat_inj,
    ← UInt8.toNat_inj]
  omega

theorem portNative_inj {port other : UInt16} (h : portNative port = portNative other) :
    port = other := by
  simp only [portNative] at h
  have hPort := port.toNat_lt
  have hOther := other.toNat_lt
  rw [← UInt16.toNat_inj]
  omega

/-- Flows have one key in the kernel's map where the runtime's model says so. -/
theorem sameKey_iff {ifindex : Nat} {flow other : FastPathFlowSpec} :
    flow.sameKey other = true ↔
      (installedFlow ifindex flow).key = (installedFlow ifindex other).key := by
  rw [FastPathFlowSpec.sameKey, decide_eq_true_eq]
  constructor
  · rintro ⟨hLocal, hRemote⟩
    rw [installedFlow, installedFlow, hLocal, hRemote]
  · intro hKey
    simp only [installedFlow, flowKey, FlowKey.mk.injEq, true_and, and_true] at hKey
    obtain ⟨hLocalIp, hRemoteIp, hLocalPort, hRemotePort⟩ := hKey
    constructor
    · exact SocketAddrV4.ext (ipv4Native_inj hLocalIp) (portNative_inj hLocalPort)
    · exact SocketAddrV4.ext (ipv4Native_inj hRemoteIp) (portNative_inj hRemotePort)

theorem ruled_iff {runtime : FastPathRuntime} {spec : FastPathBridgeSpec} {ifindex : Nat}
    (hRules : runtime.rules = some spec) {flow : FastPathFlowSpec} :
    runtime.ruled flow = true ↔
      (installedFlow ifindex flow).key ∈ specKeys ifindex spec.flows := by
  rw [FastPathRuntime.ruled, hRules, Option.any_some, List.any_eq_true, specKeys, keysOf,
    List.map_map, List.mem_map]
  constructor
  · rintro ⟨other, hOther, hSame⟩
    exact ⟨other, hOther, (sameKey_iff.mp hSame).symm⟩
  · rintro ⟨other, hOther, hSame⟩
    exact ⟨other, hOther, sameKey_iff.mpr hSame.symm⟩

/-- The installed flows' keys are out of the map, except for those that are still to be removed. -/
def Gone (flows : RtpFlows) (installed rest : List InstalledFlow) : Prop :=
  ∀ key ∈ keysOf installed, key ∉ keysOf rest → flows key = none

/-- A removal of the installed flows on its way, or what it has returned. While no request was
refused, the flows that it has dealt with are gone. -/
inductive Removal (bridgeId : String) (installed : List InstalledFlow) (flows : RtpFlows) :
    ControllerCall ⊕ ControllerResult → Prop where
  | reading {rest : List InstalledFlow} {stats : FastPathStats} {error : Option String}
      (subset : rest ⊆ installed) (gone : error = none → Gone flows installed rest) :
      Removal bridgeId installed flows (.inl (.reading bridgeId rest stats error))
  | removing {flow : InstalledFlow} {rest : List InstalledFlow} {stats : FastPathStats}
      {error : Option String} (subset : flow :: rest ⊆ installed)
      (gone : error = none → Gone flows installed (flow :: rest)) :
      Removal bridgeId installed flows (.inl (.removing bridgeId flow rest stats error))
  | removed {result : Except FastPathError FastPathStats}
      (gone : result.isOk = true → Gone flows installed []) :
      Removal bridgeId installed flows (.inr (.removed bridgeId result))

/-- The map holds nothing that it did not hold before, and everything that the removal does not
ask for. -/
structure Spares (installed : List InstalledFlow) (flows flows' : RtpFlows) : Prop where
  fewer : ∀ key, flows key = none → flows' key = none
  others : ∀ key, key ∉ keysOf installed → (flows' key).isSome = (flows key).isSome

theorem Spares.refl : Spares installed flows flows := ⟨fun _ => id, fun _ _ => rfl⟩

theorem Spares.trans {flows' flows'' : RtpFlows} (h : Spares installed flows flows')
    (h' : Spares installed flows' flows'') : Spares installed flows flows'' :=
  ⟨fun key hNone => h'.fewer key (h.fewer key hNone),
   fun key hKey => (h'.others key hKey).trans (h.others key hKey)⟩

theorem Removal.spares {flows' : RtpFlows} {out : ControllerCall ⊕ ControllerResult}
    (h : Removal bridgeId installed flows out) (hSpares : Spares installed flows flows') :
    Removal bridgeId installed flows' out := by
  have hGone {rest : List InstalledFlow} (hRest : Gone flows installed rest) :
      Gone flows' installed rest := fun key hKey hNot => hSpares.fewer key (hRest key hKey hNot)
  cases h with
  | reading subset gone => exact .reading subset fun hError => hGone (gone hError)
  | removing subset gone => exact .removing subset fun hError => hGone (gone hError)
  | removed gone => exact .removed fun hOk => hGone (gone hOk)

/-- A removal goes on, and takes out at most its own flows. -/
theorem Removal.proceed (answer : MapAnswer) {state : ControllerState}
    (h : Removal bridgeId installed state.flows (.inl call)) :
    let out := state.proceed answer call
    Removal bridgeId installed out.2.flows out.1 ∧ Spares installed state.flows out.2.flows ∧
      out.2.bridges = state.bridges := by
  cases h with
  | @reading rest stats error subset gone =>
      cases rest with
      | nil =>
          refine ⟨.removed fun hOk => ?_, .refl, rfl⟩
          cases error with
          | none => exact gone rfl
          | some error => cases hOk
      | cons flow rest => exact ⟨.removing subset gone, .refl, rfl⟩
  | @removing flow rest stats error subset gone =>
      obtain ⟨hFlow, hRest⟩ := List.cons_subset.mp subset
      simp only [ControllerState.proceed]
      split
      · refine ⟨.reading hRest fun hError => ?_, .refl, rfl⟩
        rw [Option.or_eq_none_iff] at hError
        cases hError.2
      · next flows hRemoved =>
          rw [mapRemove] at hRemoved
          split at hRemoved
          · cases hRemoved
          · obtain rfl := Except.ok.inj hRemoved
            have hSpares : Spares installed state.flows
                (Function.update state.flows flow.key none) := by
              constructor
              · intro key hNone
                rw [Function.update_apply]
                split
                · rfl
                · exact hNone
              · intro key hKey
                rw [Function.update_of_ne]
                rintro rfl
                exact hKey (List.mem_map_of_mem hFlow)
            refine ⟨.reading hRest fun hError key hKey hNot => ?_, hSpares, rfl⟩
            by_cases hSame : key = flow.key
            · rw [hSame]
              exact Function.update_self _ _ _
            · refine hSpares.fewer key (gone hError key hKey fun hMem => ?_)
              exact (List.mem_cons.mp hMem).elim hSame hNot

/-- A packet changes no key. -/
theorem spares_forward (state : ControllerState) (key : FlowKey) (bytes : Nat)
    (redirected : Bool) :
    Spares installed state.flows (state.forward key bytes redirected).flows ∧
      (state.forward key bytes redirected).bridges = state.bridges := by
  rw [ControllerState.forward]
  split
  · exact ⟨.refl, rfl⟩
  · next action hAction =>
      refine ⟨⟨fun other hNone => ?_, fun other _ => ?_⟩, rfl⟩
      · simp only
        rw [Function.update_of_ne, hNone]
        rintro rfl
        rw [hNone] at hAction
        cases hAction
      · simp only [Function.update_apply]
        split
        · next hSame => rw [hSame, hAction]; rfl
        · rfl

/-- The ledger while a removal that began at `start` has the lock, and when it has returned. -/
structure Removing (bridgeId : String) (installed : List InstalledFlow) (start s : FastPathLedger)
    (out : ControllerCall ⊕ ControllerResult) : Prop where
  removal : Removal bridgeId installed s.controller.flows out
  status : (s.call, s.results) = out.elim (fun call => (some call, start.results))
    fun result => (none, result :: start.results)
  spares : Spares installed start.controller.flows s.controller.flows
  bridges : s.controller.bridges = start.controller.bridges

theorem Removing.next {step : ControllerStep} {out : ControllerCall ⊕ ControllerResult}
    (h : Removing bridgeId installed start s out) (hCall : s.call.isSome)
    (hStep : s.step step = some t) : ∃ out, Removing bridgeId installed start t out := by
  cases step with
  | promote spec | demote id generation | remove id generation =>
      cases (if_pos hCall).symm.trans hStep
  | proceed answer =>
      obtain ⟨call, hSome, rfl⟩ := Option.map_eq_some_iff.mp hStep
      have hStatus := h.status
      cases out with
      | inr result =>
          rw [hSome] at hStatus
          cases hStatus
      | inl running =>
          rw [hSome] at hStatus
          obtain ⟨rfl, hResults⟩ : call = running ∧ s.results = start.results := by
            simpa using hStatus
          obtain ⟨hRemoval, hSpares, hBridges⟩ := h.removal.proceed answer
          rw [FastPathLedger.conclude]
          cases hOut : (s.controller.proceed answer call).1 with
          | inl next =>
              rw [hOut] at hRemoval
              exact ⟨.inl next, hRemoval, congrArg _ hResults, h.spares.trans hSpares,
                hBridges.trans h.bridges⟩
          | inr result =>
              rw [hOut] at hRemoval
              exact ⟨.inr result, hRemoval, by rw [hResults]; rfl, h.spares.trans hSpares,
                hBridges.trans h.bridges⟩
  | packet key bytes redirected =>
      obtain rfl := Option.some.inj hStep
      obtain ⟨hSpares, hBridges⟩ := @spares_forward installed s.controller key bytes redirected
      exact ⟨out, h.removal.spares hSpares, h.status, h.spares.trans hSpares,
        hBridges.trans h.bridges⟩

/-- A removal of the controller is one that the runtime's model knows: whatever is counted and
refused meanwhile, when it has returned the bridge has no entry, and the model's answer leaves
exactly those of the runtime's flows that are still in the map. -/
theorem removal_answers {runtime : FastPathRuntime} {spec : FastPathBridgeSpec} {u : FastPathLedger}
    (hRules : runtime.rules = some spec)
    (hEntry : s.controller.bridges.get spec.bridgeId =
      some (spec.generation, spec.flows.map (installedFlow s.controller.ifindex)))
    (hFlows : ∀ flow ∈ runtime.flows,
      (s.controller.flows (installedFlow s.controller.ifindex flow).key).isSome)
    (hStep : s.step (.demote spec.bridgeId spec.generation) = some t)
    (run : RunsWithin fastPathLedger (fun s _ => s.call.isSome) t u) (hReturned : u.call = none) :
    u.controller.bridges.get spec.bridgeId = none ∧
      ∃ answer : Except FastPathFailure FastPathStats,
        u.results = .removed spec.bridgeId (answer.mapError (·.error)) :: s.results ∧
        ∀ flow, flow ∈ (runtime.removed answer).flows ↔ flow ∈ runtime.flows ∧
          (u.controller.flows (installedFlow s.controller.ifindex flow).key).isSome := by
  obtain ⟨-, hStep⟩ := Option.ite_none_left_eq_some.mp hStep
  have hDemote : s.controller.demote spec.bridgeId spec.generation =
      (.inl (.reading spec.bridgeId (spec.flows.map (installedFlow s.controller.ifindex)) {} none),
       { s.controller with bridges := s.controller.bridges.remove spec.bridgeId }) := by
    rw [ControllerState.demote, ControllerState.removeLocked, hEntry]
    exact if_neg (not_not.mpr rfl)
  rw [hDemote] at hStep
  obtain rfl := Option.some.inj hStep
  have hStart := run.invariant (P := fun t => ∃ out, Removing spec.bridgeId
    (spec.flows.map (installedFlow s.controller.ifindex)) _ t out)
    ⟨_, .reading (List.Subset.refl _) fun _ key hKey hNot => (hNot hKey).elim, rfl, .refl, rfl⟩
    fun _ _ _ ⟨_, hInvariant⟩ hCall hNext => hInvariant.next hCall hNext
  obtain ⟨out, hRemoval, hStatus, hSpares, hBridges⟩ := hStart
  rw [hReturned] at hStatus
  have hEntries : u.controller.bridges.get spec.bridgeId = none := by
    rw [hBridges]
    exact Table.get_remove_self
  cases hRemoval with
  | reading subset gone => cases hStatus
  | removing subset gone => cases hStatus
  | @removed result gone =>
      cases result with
      | ok stats =>
          refine ⟨hEntries, .ok stats, congrArg Prod.snd hStatus, fun flow => ?_⟩
          rw [FastPathRuntime.removed, List.mem_filter]
          apply and_congr_right
          intro hFlow
          rw [Bool.or_false, Bool.not_eq_true', ← Bool.not_eq_true, ruled_iff hRules]
          constructor
          · intro hOther
            exact (hSpares.others _ hOther).trans (hFlows flow hFlow)
          · intro hSome hRuled
            rw [gone rfl _ hRuled List.not_mem_nil] at hSome
            cases hSome
      | error error =>
          refine ⟨hEntries, .error ⟨error, runtime.flows.filter fun flow =>
            (u.controller.flows (installedFlow s.controller.ifindex flow).key).isSome⟩,
            congrArg Prod.snd hStatus, fun flow => ?_⟩
          rw [FastPathRuntime.removed, List.mem_filter]
          apply and_congr_right
          intro hFlow
          rw [Bool.or_eq_true, Bool.not_eq_true', ← Bool.not_eq_true, ruled_iff hRules,
            decide_eq_true_eq, List.mem_filter]
          constructor
          · rintro (hOther | ⟨-, hSome⟩)
            · exact (hSpares.others _ hOther).trans (hFlows flow hFlow)
            · exact hSome
          · exact fun hSome => .inr ⟨hFlow, hSome⟩

end Removals

section Sample

def sampleSpec : FastPathBridgeSpec where
  bridgeId := "b"
  generation := 1
  flows := fastPathFlows
    ⟨⟨⟨10, 0, 0, 1⟩, 4000⟩, ⟨⟨10, 0, 0, 2⟩, 5000⟩, ⟨⟨10, 0, 0, 1⟩, 4001⟩, ⟨⟨10, 0, 0, 2⟩, 5001⟩⟩
    ⟨⟨⟨10, 0, 0, 1⟩, 4002⟩, ⟨⟨10, 0, 0, 3⟩, 6000⟩, ⟨⟨10, 0, 0, 1⟩, 4003⟩, ⟨⟨10, 0, 0, 3⟩, 6001⟩⟩

/-- The key of the caller's RTP. -/
def sampleKey : FlowKey := flowKey 2 ⟨⟨10, 0, 0, 1⟩, 4000⟩ ⟨⟨10, 0, 0, 2⟩, 5000⟩

/-- The key of the callee's RTP. -/
def calleeKey : FlowKey := flowKey 2 ⟨⟨10, 0, 0, 1⟩, 4002⟩ ⟨⟨10, 0, 0, 3⟩, 6000⟩

def emptyLedger : FastPathLedger := { controller := { ifindex := 2 } }

/-- A step that does not disturb. -/
def FastPathLedger.quietly (s : FastPathLedger) (step : ControllerStep) : Option FastPathLedger :=
  if s.disturbs step then none else s.step step

/-- The fast path is promoted and counts a packet before its last flow is in. -/
def promotion : List ControllerStep :=
  .promote sampleSpec :: List.replicate 3 (.proceed {}) ++ .packet sampleKey 172 true ::
    List.replicate 2 (.proceed {})

/-- It is demoted up to the result, and the callee's flow counts a packet before it is read. -/
def demotion : List ControllerStep :=
  .demote "b" 1 :: List.replicate 2 (.proceed {}) ++ .packet calleeKey 172 true ::
    List.replicate 6 (.proceed {})

def removedLedger : FastPathLedger :=
  ((promotion ++ demotion).foldlM FastPathLedger.quietly emptyLedger).getD emptyLedger

def returnedLedger : FastPathLedger := (removedLedger.step (.proceed {})).getD emptyLedger

/-- The kernel refuses to give the caller's RTP up. -/
def refusedDemotion : List ControllerStep :=
  [.demote "b" 1, .proceed {}, .proceed ⟨true, "bpf_map_delete_elem failed"⟩] ++
    List.replicate 7 (.proceed {})

def refusedLedger : FastPathLedger :=
  ((promotion ++ refusedDemotion).foldlM FastPathLedger.step emptyLedger).getD emptyLedger

def retriedLedger : FastPathLedger := (refusedLedger.step (.demote "b" 1)).getD emptyLedger

theorem eq_getD_of_isSome {α : Type} {o : Option α} {a : α} (h : o.isSome = true) :
    o = some (o.getD a) := by
  obtain ⟨b, rfl⟩ := Option.isSome_iff_exists.mp h
  rfl

theorem controller_faithful_counted :
    removedLedger.Accounted ∧ returnedLedger.counted "b" = 2 ∧
      ∃ stats, stats.packets = 2 ∧
        returnedLedger.results = .removed "b" (.ok stats) :: removedLedger.results ∧
        (ControllerResult.removed "b" (.ok stats)).Faithful returnedLedger :=
  have hRun : (promotion ++ demotion).foldlM FastPathLedger.quietly emptyLedger =
      some removedLedger := eq_getD_of_isSome (by decide)
  have hReached := runsWithin_of_foldlM
    (S := fastPathLedger) (C := fun s step => s.disturbs step = false) (fun s step u hStep => by
      rw [FastPathLedger.quietly] at hStep
      split at hStep
      · cases hStep
      · next hQuiet => exact ⟨Bool.eq_false_iff.mpr hQuiet, hStep⟩) hRun
  have hStep : removedLedger.step (.proceed {}) = some returnedLedger :=
    eq_getD_of_isSome (by decide)
  have hAll := controller_faithful ⟨emptyLedger, ⟨2, rfl⟩, hReached⟩ (by decide) hStep
  ⟨hAll.1, by decide, _, by decide, rfl, hAll.2 _ rfl⟩

/-- The retried demotion succeeds, returns nothing, and leaves the flow in the map. -/
theorem demotion_retried :
    Reachable fastPathLedger refusedLedger ∧
      refusedLedger.step (.demote "b" 1) = some retriedLedger ∧
      retriedLedger.results = .removed "b" (.ok {}) :: refusedLedger.results ∧
      (retriedLedger.controller.flows sampleKey).isSome ∧
      retriedLedger.counted "b" = 1 ∧ retriedLedger.returned "b" = 0 ∧
      ¬ (ControllerResult.removed "b" (.ok {})).Faithful retriedLedger := by
  refine ⟨⟨emptyLedger, ⟨2, rfl⟩, ?_⟩, eq_getD_of_isSome (by decide), rfl, by decide, by decide,
    by decide, fun hFaithful => ?_⟩
  · apply runsWithin_of_foldlM (fun _ _ _ hStep => ⟨trivial, hStep⟩)
    exact eq_getD_of_isSome (by decide)
  · exact absurd hFaithful.2 (by decide)

end Sample

end VoipSwitch.Media
