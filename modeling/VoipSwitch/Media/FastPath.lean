import VoipSwitch.Core.Types
import VoipSwitch.Lib.Transition

/-! The fast path of one media bridge: what it knows of the kernel's rules, the endpoints its
sockets have learned, and the calls that install rules for them. -/
namespace VoipSwitch.Media

open Transition

inductive MediaFlowDirection where
  | callerToCallee
  | calleeToCaller
deriving DecidableEq

inductive FastPathMediaKind where
  | rtp
  | rtcp
deriving DecidableEq

structure Ipv4Addr where
  a : UInt8
  b : UInt8
  c : UInt8
  d : UInt8
deriving DecidableEq

inductive IpAddr where
  | v4 (ip : Ipv4Addr)
  | v6 (ip : BitVec 128)
deriving DecidableEq

@[ext]
structure SocketAddrV4 where
  ip : Ipv4Addr
  port : UInt16
deriving DecidableEq

inductive SocketAddr where
  | v4 (addr : SocketAddrV4)
  | v6 (ip : BitVec 128) (port : UInt16)
deriving DecidableEq

structure FastPathFlowSpec where
  mediaKind : FastPathMediaKind
  direction : MediaFlowDirection
  localAddr : SocketAddrV4
  remote : SocketAddrV4
  rewrittenSource : SocketAddrV4
  rewrittenDestination : SocketAddrV4
deriving DecidableEq

/-- The flows have one key in the kernel's map. -/
def FastPathFlowSpec.sameKey (flow other : FastPathFlowSpec) : Bool :=
  flow.localAddr = other.localAddr ∧ flow.remote = other.remote

structure FastPathBridgeSpec where
  bridgeId : String
  generation : Nat
  flows : List FastPathFlowSpec
deriving DecidableEq

structure FastPathError where
  code : String
  message : String
deriving DecidableEq

/-- A call that the controller fails, and the flows that it leaves in the kernel's map: the
controller goes on with the other flows when the kernel refuses one. -/
structure FastPathFailure where
  error : FastPathError
  left : List FastPathFlowSpec := []
deriving DecidableEq

structure FastPathStats where
  callerToCalleePackets : Nat := 0
  callerToCalleeBytes : Nat := 0
  callerToCalleeRedirectErrors : Nat := 0
  calleeToCallerPackets : Nat := 0
  calleeToCallerBytes : Nat := 0
  calleeToCallerRedirectErrors : Nat := 0
  callerToCalleeRtcpPackets : Nat := 0
  callerToCalleeRtcpBytes : Nat := 0
  callerToCalleeRtcpRedirectErrors : Nat := 0
  calleeToCallerRtcpPackets : Nat := 0
  calleeToCallerRtcpBytes : Nat := 0
  calleeToCallerRtcpRedirectErrors : Nat := 0
deriving DecidableEq

namespace FastPathStats

def mergeFrom (stats later : FastPathStats) : FastPathStats where
  callerToCalleePackets := satAdd64 stats.callerToCalleePackets later.callerToCalleePackets
  callerToCalleeBytes := satAdd64 stats.callerToCalleeBytes later.callerToCalleeBytes
  callerToCalleeRedirectErrors :=
    satAdd64 stats.callerToCalleeRedirectErrors later.callerToCalleeRedirectErrors
  calleeToCallerPackets := satAdd64 stats.calleeToCallerPackets later.calleeToCallerPackets
  calleeToCallerBytes := satAdd64 stats.calleeToCallerBytes later.calleeToCallerBytes
  calleeToCallerRedirectErrors :=
    satAdd64 stats.calleeToCallerRedirectErrors later.calleeToCallerRedirectErrors
  callerToCalleeRtcpPackets :=
    satAdd64 stats.callerToCalleeRtcpPackets later.callerToCalleeRtcpPackets
  callerToCalleeRtcpBytes := satAdd64 stats.callerToCalleeRtcpBytes later.callerToCalleeRtcpBytes
  callerToCalleeRtcpRedirectErrors :=
    satAdd64 stats.callerToCalleeRtcpRedirectErrors later.callerToCalleeRtcpRedirectErrors
  calleeToCallerRtcpPackets :=
    satAdd64 stats.calleeToCallerRtcpPackets later.calleeToCallerRtcpPackets
  calleeToCallerRtcpBytes := satAdd64 stats.calleeToCallerRtcpBytes later.calleeToCallerRtcpBytes
  calleeToCallerRtcpRedirectErrors :=
    satAdd64 stats.calleeToCallerRtcpRedirectErrors later.calleeToCallerRtcpRedirectErrors

def maxRedirectErrors (stats : FastPathStats) : Nat :=
  max (max stats.callerToCalleeRedirectErrors stats.calleeToCallerRedirectErrors)
    (max stats.callerToCalleeRtcpRedirectErrors stats.calleeToCallerRtcpRedirectErrors)

end FastPathStats

structure DirectionForwardingHistory where
  promoted : Bool := false
  demoted : Bool := false
deriving DecidableEq

structure MediaForwardingHistory where
  callerToCallee : DirectionForwardingHistory := {}
  calleeToCaller : DirectionForwardingHistory := {}
deriving DecidableEq

namespace MediaForwardingHistory

def modifyDirection (history : MediaForwardingHistory)
    (f : DirectionForwardingHistory → DirectionForwardingHistory) :
    MediaFlowDirection → MediaForwardingHistory
  | .callerToCallee => { history with callerToCallee := f history.callerToCallee }
  | .calleeToCaller => { history with calleeToCaller := f history.calleeToCaller }

def markPromoted (history : MediaForwardingHistory) (direction : MediaFlowDirection) :
    MediaForwardingHistory :=
  history.modifyDirection ({ · with promoted := true }) direction

def markDemoted (history : MediaForwardingHistory) (direction : MediaFlowDirection) :
    MediaForwardingHistory :=
  history.modifyDirection (fun d => if d.promoted then { d with demoted := true } else d) direction

end MediaForwardingHistory

inductive RemoteEndpointSlot where
  | callerRtp
  | callerRtcp
  | calleeRtp
  | calleeRtcp
deriving DecidableEq

def RemoteEndpointSlot.direction : RemoteEndpointSlot → MediaFlowDirection
  | .callerRtp | .callerRtcp => .callerToCallee
  | .calleeRtp | .calleeRtcp => .calleeToCaller

/-- What stays the same while the bridge lives: the address that the caller is told and the
ports of the four sockets, as far as they can be read. The sockets are open at the same time, so
that the ports differ and the flows of one specification have different keys. -/
structure MediaSockets where
  callerAdvertiseIp : IpAddr
  callerRtp : Option UInt16
  callerRtcp : Option UInt16
  calleeRtp : Option UInt16
  calleeRtcp : Option UInt16
deriving DecidableEq

/-- The endpoint values, each behind a lock of its own. -/
structure MediaEndpoints where
  calleeAdvertiseIp : IpAddr
  callerRtp : Option SocketAddr
  callerRtcp : Option SocketAddr
  calleeRtp : Option SocketAddr
  calleeRtcp : Option SocketAddr
deriving DecidableEq

namespace MediaEndpoints

def remoteEndpoint (endpoints : MediaEndpoints) : RemoteEndpointSlot → Option SocketAddr
  | .callerRtp => endpoints.callerRtp
  | .callerRtcp => endpoints.callerRtcp
  | .calleeRtp => endpoints.calleeRtp
  | .calleeRtcp => endpoints.calleeRtcp

def write (endpoints : MediaEndpoints) (source : SocketAddr) : RemoteEndpointSlot → MediaEndpoints
  | .callerRtp => { endpoints with callerRtp := some source }
  | .callerRtcp => { endpoints with callerRtcp := some source }
  | .calleeRtp => { endpoints with calleeRtp := some source }
  | .calleeRtcp => { endpoints with calleeRtcp := some source }

end MediaEndpoints

structure FastPathLegEndpoints where
  localRtp : SocketAddrV4
  remoteRtp : SocketAddrV4
  localRtcp : SocketAddrV4
  remoteRtcp : SocketAddrV4
deriving DecidableEq

def fastPathFlows (caller callee : FastPathLegEndpoints) : List FastPathFlowSpec :=
  [⟨.rtp, .callerToCallee, caller.localRtp, caller.remoteRtp, callee.localRtp, callee.remoteRtp⟩,
   ⟨.rtp, .calleeToCaller, callee.localRtp, callee.remoteRtp, caller.localRtp, caller.remoteRtp⟩,
   ⟨.rtcp, .callerToCallee, caller.localRtcp, caller.remoteRtcp, callee.localRtcp,
    callee.remoteRtcp⟩,
   ⟨.rtcp, .calleeToCaller, callee.localRtcp, callee.remoteRtcp, caller.localRtcp,
    caller.remoteRtcp⟩]

/-- The flows between endpoints, if all of them are known and of IPv4. -/
def MediaSockets.flows (sockets : MediaSockets) (endpoints : MediaEndpoints) :
    Option (List FastPathFlowSpec) :=
  match sockets.callerAdvertiseIp, endpoints with
  | .v4 callerIp, ⟨.v4 calleeIp, some (.v4 callerRtp), some (.v4 callerRtcp),
      some (.v4 calleeRtp), some (.v4 calleeRtcp)⟩ => do
    let callerRtpPort ← sockets.callerRtp
    let callerRtcpPort ← sockets.callerRtcp
    let calleeRtpPort ← sockets.calleeRtp
    let calleeRtcpPort ← sockets.calleeRtcp
    pure (fastPathFlows
      ⟨⟨callerIp, callerRtpPort⟩, callerRtp, ⟨callerIp, callerRtcpPort⟩, callerRtcp⟩
      ⟨⟨calleeIp, calleeRtpPort⟩, calleeRtp, ⟨calleeIp, calleeRtcpPort⟩, calleeRtcp⟩)
  | _, _ => none

/-- The values that `current_flows` has read so far, one lock after the other. -/
inductive FlowReads where
  | nothing
  | calleeIp (ip : IpAddr)
  | callerRtp (ip : IpAddr) (callerRtp : Option SocketAddr)
  | callerRtcp (ip : IpAddr) (callerRtp callerRtcp : Option SocketAddr)
  | calleeRtp (ip : IpAddr) (callerRtp callerRtcp calleeRtp : Option SocketAddr)
  | all (endpoints : MediaEndpoints)
deriving DecidableEq

namespace FlowReads

/-- Read the next value, if there is one left. -/
def read (endpoints : MediaEndpoints) : FlowReads → FlowReads
  | .nothing => .calleeIp endpoints.calleeAdvertiseIp
  | .calleeIp ip => .callerRtp ip endpoints.callerRtp
  | .callerRtp ip first => .callerRtcp ip first endpoints.callerRtcp
  | .callerRtcp ip first second => .calleeRtp ip first second endpoints.calleeRtp
  | .calleeRtp ip first second third => .all ⟨ip, first, second, third, endpoints.calleeRtcp⟩
  | .all values => .all values

end FlowReads

structure FastPathRuntimeState where
  bridgeId : Option String := none
  generation : Nat := 0
  activeGeneration : Option Nat := none
  accumulatedStats : FastPathStats := {}
  forwardingHistory : MediaForwardingHistory := {}
  promotionBlocked : Bool := false
  stopped : Bool := false
deriving DecidableEq

/-- The runtime with the rules that the controller holds for the bridge, the flows in the
kernel's map that were inserted for it, and the specifications that the controller has been
given. -/
structure FastPathRuntime where
  sockets : MediaSockets
  available : Bool
  endpoints : MediaEndpoints
  state : FastPathRuntimeState := {}
  rules : Option FastPathBridgeSpec := none
  flows : List FastPathFlowSpec := []
  promotions : List FastPathBridgeSpec := []
deriving DecidableEq

def fastPathRedirectErrorThreshold : Nat := 3

namespace FastPathRuntime

/-- The flows between the endpoints as they are now. -/
def currentFlows (runtime : FastPathRuntime) : Option (List FastPathFlowSpec) :=
  runtime.sockets.flows runtime.endpoints

/-- The flow is one of those that the controller holds for the bridge. -/
def ruled (runtime : FastPathRuntime) (flow : FastPathFlowSpec) : Bool :=
  runtime.rules.any fun spec => spec.flows.any flow.sameKey

/-- The controller has dropped the rules, and has taken their flows out of the map, except for
those that a failure leaves there. -/
def removed (runtime : FastPathRuntime) (answer : Except FastPathFailure FastPathStats) :
    FastPathRuntime :=
  { runtime with
    rules := none
    flows := runtime.flows.filter fun flow =>
      !runtime.ruled flow ||
        match answer with
        | .error failure => flow ∈ failure.left
        | .ok _ => false }

/-- The runtime is told what the rules have counted. -/
def demoted (runtime : FastPathRuntime) (stats : FastPathStats) : FastPathRuntime :=
  { runtime with
    state := { runtime.state with
      activeGeneration := none
      accumulatedStats := runtime.state.accumulatedStats.mergeFrom stats } }

/-- The map once the flows are inserted. -/
def insertFlows (old flows : List FastPathFlowSpec) : List FastPathFlowSpec :=
  flows ++ old.filter fun flow => !flows.any flow.sameKey

def markDemoted (runtime : FastPathRuntime) (direction : MediaFlowDirection) : FastPathRuntime :=
  { runtime with
    state := { runtime.state with
      forwardingHistory := runtime.state.forwardingHistory.markDemoted direction } }

def blockPromotion (runtime : FastPathRuntime) : FastPathRuntime :=
  { runtime with state := { runtime.state with promotionBlocked := true } }

def blockForUserspaceCapability (runtime : FastPathRuntime)
    (demote : Except FastPathFailure FastPathStats) : Except FastPathError Unit × FastPathRuntime :=
  if runtime.state.stopped then
    (.error ⟨"media_bridge_stopped", "media bridge is already stopped"⟩, runtime)
  else
    let runtime := runtime.blockPromotion
    match runtime.state.bridgeId, runtime.state.activeGeneration with
    | some _, some _ =>
      let runtime := runtime.removed demote
      match demote with
      | .error failure => (.error failure.error, runtime)
      | .ok stats =>
        (.ok (), ((runtime.demoted stats).markDemoted .callerToCallee).markDemoted .calleeToCaller)
    | _, _ => (.ok (), runtime)

def promoteLocked (runtime : FastPathRuntime) (flows : List FastPathFlowSpec)
    (promote : Except FastPathFailure Unit) : FastPathRuntime :=
  if runtime.state.promotionBlocked then runtime
  else
    match runtime.state.bridgeId with
    | none => runtime
    | some bridgeId =>
      let generation := satSucc64 runtime.state.generation
      let spec : FastPathBridgeSpec := ⟨bridgeId, generation, flows⟩
      let runtime := { runtime with promotions := spec :: runtime.promotions }
      match promote with
      | .error failure =>
        { runtime with flows := (flows ++ runtime.flows).filter (· ∈ failure.left) }
      | .ok () =>
        { runtime with
          state := { runtime.state with
            generation
            activeGeneration := some generation
            forwardingHistory := (runtime.state.forwardingHistory.markPromoted
              .callerToCallee).markPromoted .calleeToCaller }
          rules := some spec
          flows := insertFlows runtime.flows flows }

/-- Promote if the flows are known. -/
def promoteKnown (runtime : FastPathRuntime) (flows : Option (List FastPathFlowSpec))
    (promote : Except FastPathFailure Unit) : FastPathRuntime :=
  match flows with
  | none => runtime
  | some flows => runtime.promoteLocked flows promote

/-- What `promote` does under the lock with the flows it has read. -/
def promoteWith (runtime : FastPathRuntime) (bridgeId : String)
    (flows : Option (List FastPathFlowSpec)) (promote : Except FastPathFailure Unit) :
    FastPathRuntime :=
  match flows with
  | none => runtime
  | some flows =>
    if runtime.state.stopped ∨ runtime.state.promotionBlocked ∨
        runtime.state.activeGeneration.isSome then runtime
    else
      match runtime.state.bridgeId with
      | some current =>
        if current ≠ bridgeId then runtime else runtime.promoteLocked flows promote
      | none =>
        { runtime with state := { runtime.state with bridgeId := some bridgeId } }.promoteLocked
          flows promote

/-- What `confirm_rebind` does under the lock with the flows it has read. -/
def confirmRebindWith (runtime : FastPathRuntime) (slot : RemoteEndpointSlot)
    (flows : Option (List FastPathFlowSpec)) (demote : Except FastPathFailure FastPathStats)
    (promote : Except FastPathFailure Unit) : FastPathRuntime :=
  if runtime.state.stopped then runtime
  else
    match runtime.state.bridgeId, runtime.state.activeGeneration with
    | none, _ => runtime
    | some _, none => runtime.promoteKnown flows promote
    | some _, some _ =>
      let runtime := runtime.removed demote
      match demote with
      | .error _ => runtime.markDemoted slot.direction
      | .ok stats => ((runtime.demoted stats).markDemoted slot.direction).promoteKnown flows promote

def demoteAndBlockLocked (runtime : FastPathRuntime) (generation : Nat)
    (demote : Except FastPathFailure FastPathStats) : FastPathRuntime :=
  if runtime.state.activeGeneration ≠ some generation then runtime
  else
    let runtime := runtime.removed demote
    let runtime :=
      match demote with
      | .error _ => runtime
      | .ok stats => runtime.demoted stats
    ((runtime.markDemoted .callerToCallee).markDemoted .calleeToCaller).blockPromotion

def checkRedirectHealth (runtime : FastPathRuntime)
    (snapshot : Except FastPathError FastPathStats)
    (demote : Except FastPathFailure FastPathStats) : FastPathRuntime :=
  if runtime.state.stopped ∨
      runtime.state.promotionBlocked ∧ runtime.state.activeGeneration.isNone then runtime
  else
    match runtime.state.bridgeId, runtime.state.activeGeneration with
    | some _, some generation =>
      match snapshot with
      | .ok stats =>
        if fastPathRedirectErrorThreshold ≤ stats.maxRedirectErrors then
          runtime.demoteAndBlockLocked generation demote
        else runtime
      | .error _ => runtime.demoteAndBlockLocked generation demote
    | _, _ => runtime

/-- Stop the runtime. A failed removal is only logged. -/
def stop (runtime : FastPathRuntime) (remove : Except FastPathFailure FastPathStats) :
    FastPathRuntime :=
  let stopped : FastPathRuntime :=
    { runtime with state := { runtime.state with stopped := true, activeGeneration := none } }
  match runtime.state.bridgeId, runtime.state.activeGeneration with
  | some _, some _ =>
    let stopped := stopped.removed remove
    match remove with
    | .error _ => stopped
    | .ok stats => stopped.demoted stats
  | _, _ => stopped

end FastPathRuntime

/-- Who computes flows before it takes the lock. -/
inductive FlowCaller where
  | promote (bridgeId : String)
  | confirmRebind (slot : RemoteEndpointSlot)
deriving DecidableEq

def FlowCaller.isRebind : FlowCaller → Bool
  | .promote _ => false
  | .confirmRebind _ => true

/-- A `promote` or a `confirm_rebind` between its first step and its last. -/
structure FlowCall where
  caller : FlowCaller
  reads : FlowReads := .nothing
deriving DecidableEq

def FlowCall.isRebind (call : FlowCall) : Bool := call.caller.isRebind

/-- The runtime with the calls in progress. -/
structure FastPath where
  runtime : FastPathRuntime
  calls : List FlowCall := []
deriving DecidableEq

inductive FastPathStep where
  | promote (bridgeId : String)
  /-- A rebind begins: its endpoint is written. -/
  | confirmRebind (slot : RemoteEndpointSlot) (source : SocketAddr)
  /-- A call in progress reads its next value. -/
  | read (call : Nat)
  /-- A call that has read all values takes the lock, and ends. -/
  | finish (call : Nat) (demote : Except FastPathFailure FastPathStats)
    (promote : Except FastPathFailure Unit)
  | checkRedirectHealth (snapshot : Except FastPathError FastPathStats)
    (demote : Except FastPathFailure FastPathStats)
  | block (demote : Except FastPathFailure FastPathStats)
  | stop (remove : Except FastPathFailure FastPathStats)

namespace FastPath

/-- What a call that has read `endpoints` does under the lock. -/
def locked (s : FastPath) (caller : FlowCaller) (endpoints : MediaEndpoints)
    (demote : Except FastPathFailure FastPathStats) (promote : Except FastPathFailure Unit) :
    FastPathRuntime :=
  let flows := s.runtime.sockets.flows endpoints
  match caller with
  | .promote bridgeId => s.runtime.promoteWith bridgeId flows promote
  | .confirmRebind slot => s.runtime.confirmRebindWith slot flows demote promote

/-- The steps; there is none for a call that is not in progress or has not read everything. -/
def step (s : FastPath) : FastPathStep → Option FastPath
  | .promote bridgeId =>
    some
      (if s.runtime.available then { s with calls := s.calls ++ [{ caller := .promote bridgeId }] }
        else s)
  | .confirmRebind slot source =>
    some
      (if s.runtime.endpoints.remoteEndpoint slot = some source then s
        else
          { s with
            runtime := { s.runtime with endpoints := s.runtime.endpoints.write source slot }
            calls := s.calls ++ [{ caller := .confirmRebind slot }] })
  | .read i =>
    s.calls[i]?.map fun call =>
      { s with
        calls := s.calls.set i { call with reads := call.reads.read s.runtime.endpoints } }
  | .finish i demote promote =>
    match s.calls[i]? with
    | some ⟨caller, .all endpoints⟩ =>
      some { s with
        runtime := s.locked caller endpoints demote promote
        calls := s.calls.eraseIdx i }
    | _ => none
  | .checkRedirectHealth snapshot demote =>
    some { s with runtime := s.runtime.checkRedirectHealth snapshot demote }
  | .block demote => some { s with runtime := (s.runtime.blockForUserspaceCapability demote).2 }
  | .stop remove => some { s with runtime := s.runtime.stop remove }

end FastPath

/-- The fast path of a bridge that knows any endpoints. -/
def fastPath : System FastPath FastPathStep where
  init s := ∃ sockets available endpoints, s = { runtime := { sockets, available, endpoints } }
  next s step t := s.step step = some t

end VoipSwitch.Media
