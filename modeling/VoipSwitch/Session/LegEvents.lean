import VoipSwitch.Lib.Sequenced
import VoipSwitch.Session.Agreement

/-! The leg events of one call. The actor of a callee's session passes on what its table has
not seen; the coordinator judges the events of the caller's leg itself, and takes those of a
leg that it was installed on as they come. -/
namespace VoipSwitch

open Keyed Sequenced
open Coordinator (CalleeActorView Input)

/-- What identifies a leg event. -/
def CallLegEvent.mark (event : CallLegEvent) : AdapterCallLegId × Nat :=
  (event.adapterCallLegId, event.legEventSeq)

namespace LegEventDeduper

/-- `accept_leg_event` of both kinds of actors: events of other calls are not looked at. -/
def judge (callId : CallId) (event : CallLegEvent) (deduper : LegEventDeduper) :
    Bool × LegEventDeduper :=
  if event.callId.any (· ≠ callId) then (false, deduper)
  else deduper.accept event.adapterCallLegId event.legEventSeq

/-- The table with the event's leg entered is not too large. -/
def roomFor (deduper : LegEventDeduper) (event : CallLegEvent) : Bool :=
  (deduper.highestSequences.insert event.adapterCallLegId event.legEventSeq).length
    ≤ deduper.capacity

/-- The table would refuse the event. -/
def Covers (deduper : LegEventDeduper) (entry : AdapterCallLegId × Nat) : Prop :=
  ∃ highest, deduper.highestSequences.lookup entry.1 = some highest ∧ entry.2 ≤ highest

variable {deduper : LegEventDeduper} {callId : CallId} {event : CallLegEvent}
  {entry : AdapterCallLegId × Nat}

theorem expire_of_le {capacity : Nat} {highest : OrdMap AdapterCallLegId Nat}
    (h : highest.length ≤ capacity) (order : List AdapterCallLegId) :
    expire capacity order highest = (order, highest) := by
  cases order with
  | nil => rfl
  | cons oldest rest => rw [expire, if_neg (Nat.not_lt_of_le h)]

/-- A table with room for the event forgets no leg. -/
theorem accept_eq (hRoom : deduper.roomFor event = true) :
    ∃ order, deduper.accept event.adapterCallLegId event.legEventSeq
      = if (deduper.highestSequences.lookup event.adapterCallLegId).any (event.legEventSeq ≤ ·) then
          (false, deduper)
        else (true, { deduper with
          order := order
          highestSequences :=
            deduper.highestSequences.insert event.adapterCallLegId event.legEventSeq }) := by
  refine ⟨if deduper.highestSequences.contains event.adapterCallLegId then deduper.order
    else deduper.order ++ [event.adapterCallLegId], ?_⟩
  simp only [accept, expire_of_le (of_decide_eq_true hRoom)]

/-- What is accepted is newer than what the table covers, and is covered from then on. -/
theorem judge_accepted (hRoom : deduper.roomFor event = true)
    (h : (deduper.judge callId event).1 = true) :
    (∀ entry, deduper.Covers entry → entry.1 = event.mark.1 → entry.2 < event.mark.2) ∧
      (deduper.judge callId event).2.Covers event.mark := by
  obtain ⟨order, hAccept⟩ := accept_eq hRoom
  rw [judge, hAccept] at h ⊢
  split at h
  · simp only [Bool.false_eq_true] at h
  · next hOwn =>
      rw [if_neg hOwn]
      split at h
      · simp only [Bool.false_eq_true] at h
      · next hNew =>
          rw [if_neg hNew]
          constructor
          · rintro ⟨leg, sequence⟩ ⟨highest, hLookup, hLe⟩ rfl
            simp only [CallLegEvent.mark] at hLookup hLe ⊢
            simp only [hLookup, Option.any_some, decide_eq_true_eq, Nat.not_le] at hNew
            exact Nat.lt_of_le_of_lt hLe hNew
          · exact ⟨event.legEventSeq, OrdMap.lookup_insert_self, Nat.le_refl _⟩

/-- What the table covers stays covered. -/
theorem judge_covers (hRoom : deduper.roomFor event = true) (h : deduper.Covers entry) :
    (deduper.judge callId event).2.Covers entry := by
  obtain ⟨highest, hLookup, hLe⟩ := h
  obtain ⟨order, hAccept⟩ := accept_eq hRoom
  rw [judge, hAccept]
  split
  · exact ⟨highest, hLookup, hLe⟩
  · split
    · exact ⟨highest, hLookup, hLe⟩
    · next hNew =>
        rw [Covers, OrdMap.lookup_insert]
        split
        · next hSame =>
            rw [hSame, hLookup, Option.any_some, decide_eq_true_eq, Nat.not_le] at hNew
            exact ⟨event.legEventSeq, rfl, Nat.le_of_lt (Nat.lt_of_le_of_lt hLe hNew)⟩
        · exact ⟨highest, hLookup, hLe⟩

end LegEventDeduper

namespace Coordinator

/-- The leg events that a message hands to the bodies of the event handlers. The table is only
asked about the events of the caller's leg. -/
def handedBy (s : Coordinator) : ControlMessage → List (AdapterCallLegId × Nat)
  | .legEvent _ event =>
    if s.finalizationStarted then []
    else if s.ownedSessionId = s.call.callerSessionId then
      if (s.judged event).1 then [event.mark] else []
    else [event.mark]
  | .peerLegEvent _ event => if s.finalizationStarted then [] else [event.mark]
  | _ => []

/-- Leg events come through the mailboxes. -/
def Input.isLegEvent : Input → Bool
  | .control _ (.legEvent _ _) | .control _ (.peerLegEvent _ _) => true
  | _ => false

/-- `apply_leg_state`: the state of a callee's leg after a frame. -/
def legStateAfter (state : LegState) : LegFrame → LegState
  | .outboundProvisional => .waitForAnswer
  | .outboundAnswered => .bridged
  | .outboundFailed | .dialogDisconnected => .destroyed
  | _ => state

namespace CalleeActorView

def judged (callee : CalleeActorView) (event : CallLegEvent) : Bool × LegEventDeduper :=
  callee.legEventDeduper.judge callee.session.callId event

/-- The actor of a callee's session after a leg event. -/
def takeLegEvent (frame : LegFrame) (event : CallLegEvent) (callee : CalleeActorView) :
    CalleeActorView :=
  { callee with
    legEventDeduper := (callee.judged event).2
    session :=
      if (callee.judged event).1 then
        { callee.session with state := legStateAfter callee.session.state frame }
      else callee.session }

end CalleeActorView

end Coordinator

/-- The actors of one call, and the leg events on their way between them. -/
structure LegWire where
  coordinator : Coordinator
  /-- The token that the coordinator has given itself up for. -/
  package : Option CoordinatorHandoffToken
  callees : List CalleeActorView
  /-- The sessions that have had an actor. -/
  sessions : List SessionId
  /-- What the actors of callees have sent to the coordinator's mailbox. -/
  forwarded : List (LegFrame × CallLegEvent)
  /-- The leg frames that actors have taken from the mailboxes of their sessions. -/
  taken : List (AdapterCallLegId × Nat)
  /-- The leg events that the coordinator has handed to its handlers. -/
  handed : List (AdapterCallLegId × Nat)

namespace LegWire

def start (s : Coordinator) : LegWire where
  coordinator := s
  package := none
  callees := []
  sessions := [s.call.callerSessionId]
  forwarded := []
  taken := []
  handed := []

/-- What can happen next. The adapter repeats and reorders frames as it likes, so any frame
may be the next one in the mailbox of a session. -/
inductive Act where
  /-- The coordinator takes a leg event from the mailbox of its own session. -/
  | coordinatorTakes (env : Env) (frame : LegFrame) (event : CallLegEvent)
  /-- The coordinator takes what a callee's actor has sent it. -/
  | coordinatorHears (env : Env)
  | coordinatorActs (env : Env) (input : Input)
  | calleeStarts (session : Session) (actionGeneration : Nat)
  | calleeTakes (session : SessionId) (frame : LegFrame) (event : CallLegEvent)
  /-- A callee's actor handles something else; its session and its table stay. -/
  | calleeActs (session : SessionId) (after : CalleeActorView)
  | calleeStops (session : SessionId)
  | prepare (env : Env) (token : CoordinatorHandoffToken)
  | install (env : Env) (session : SessionId) (committed : CoordinatorIdentity)
  | rollback (env : Env)

def callee (w : LegWire) (session : SessionId) : Option CalleeActorView :=
  w.callees.find? fun callee => callee.session.id = session

def others (w : LegWire) (session : SessionId) : List CalleeActorView :=
  w.callees.filter fun callee => callee.session.id ≠ session

/-- New actors have sessions of their own; a coordinator that gave itself up waits. -/
def allowed (w : LegWire) : Act → Bool
  | .coordinatorTakes _ frame event =>
    w.package.isNone && w.coordinator.admissible (.control .ownedLeg (.legEvent frame event))
  | .coordinatorHears _ => w.package.isNone && w.coordinator.running && !w.forwarded.isEmpty
  | .coordinatorActs _ input =>
    w.package.isNone && w.coordinator.admissible input && input.isOwn && !input.isLegEvent
  | .calleeStarts session _ => !w.sessions.contains session.id
  | .calleeTakes session _ _ | .calleeActs session _ | .calleeStops session =>
    (w.callee session).isSome
  | .prepare env token =>
    w.package.isNone && w.coordinator.running && w.coordinator.handoffPrepared token
      && env.handoffAwaited
  | .install _ session committed =>
    match w.package, w.callee session with
    | some token, some target => w.coordinator.installFailure token target committed = none
    | _, _ => false
  | .rollback _ => w.package.isSome

def perform (w : LegWire) : Act → LegWire
  | .coordinatorTakes env frame event =>
    { w with
      coordinator := w.coordinator.step env (.control .ownedLeg (.legEvent frame event))
      taken := w.taken ++ [event.mark]
      handed := w.handed ++ w.coordinator.handedBy (.legEvent frame event) }
  | .coordinatorHears env =>
    match w.forwarded with
    | [] => w
    | (frame, event) :: rest =>
      { w with
        coordinator := w.coordinator.step env (.control .coordinator (.peerLegEvent frame event))
        forwarded := rest
        handed := w.handed ++ w.coordinator.handedBy (.peerLegEvent frame event) }
  | .coordinatorActs env input => { w with coordinator := w.coordinator.step env input }
  | .calleeStarts session actionGeneration =>
    { w with
      callees := w.callees ++ [.new session w.coordinator.call.callId actionGeneration]
      sessions := session.id :: w.sessions }
  | .calleeTakes session frame event =>
    match w.callee session with
    | none => w
    | some callee =>
      let after := callee.takeLegEvent frame event
      { w with
        callees :=
          if (callee.judged event).1 ∧ after.session.state.isTerminal then w.others session
          else w.others session ++ [after]
        forwarded := w.forwarded ++ if (callee.judged event).1 then [(frame, event)] else []
        taken := w.taken ++ [event.mark] }
  | .calleeActs session after =>
    match w.callee session with
    | none => w
    | some callee =>
      { w with
        callees := w.others session ++
          [{ after with
              session := { after.session with id := session }
              legEventDeduper := callee.legEventDeduper }] }
  | .calleeStops session => { w with callees := w.others session }
  | .prepare env token =>
    { w with
      coordinator :=
        w.coordinator.step env (.control .coordinator (.prepareCoordinatorHandoff token))
      package := some token }
  | .install env session committed =>
    match w.callee session with
    | none => w
    | some target =>
      { w with
        coordinator := w.coordinator.step env (.installHandoff target committed)
        package := none
        callees := w.others session }
  | .rollback env =>
    { w with coordinator := w.coordinator.step env .rollbackHandoff, package := none }

/-- The actors of one call as a transition system. -/
def system : Transition.System LegWire Act where
  init w := ∃ invitation s, Coordinator.create invitation = .ok s ∧ w = start s
  next w act w' := w.allowed act = true ∧ w' = w.perform act

/-- The events that the coordinator was handed or will be handed next, in their order. -/
def pipeline (w : LegWire) : List (AdapterCallLegId × Nat) :=
  w.handed ++ w.forwarded.map fun entry => entry.2.mark

/-- The steps that keep leg events apart. Every leg has one session that its frames are sent
to, no table is asked about more legs than it can hold, and a coordinator that was installed
on a callee's leg finds frames in that leg's mailbox that are neither late nor repeated nor
ahead of what it still has to hear about the leg. -/
def careful (home : AdapterCallLegId → SessionId) (w : LegWire) : Act → Bool
  | .calleeTakes session _ event =>
    home event.adapterCallLegId = session
      && (w.callee session).all fun callee => callee.legEventDeduper.roomFor event
  | .coordinatorTakes _ _ event =>
    home event.adapterCallLegId = w.coordinator.ownedSessionId &&
      if w.coordinator.ownedSessionId = w.coordinator.call.callerSessionId then
        w.coordinator.legEventDeduper.roomFor event
      else
        (w.taken.all fun entry => entry.1 = event.mark.1 → entry.2 < event.mark.2)
          && w.forwarded.all fun entry => entry.2.mark.1 ≠ event.mark.1
  | _ => true

/-- What holds as long as all steps are careful: the pipeline ascends, and whoever may add to
it knows what is in it of the legs that he reads. -/
structure Sequential (home : AdapterCallLegId → SessionId) (w : LegWire) : Prop where
  ascends : Ascends w.pipeline
  taken : ∀ entry ∈ w.pipeline, entry ∈ w.taken
  known : ∀ entry ∈ w.taken, home entry.1 ∈ w.sessions
  caller : w.coordinator.call.callerSessionId ∈ w.sessions
  owned : w.coordinator.ownedSessionId ∈ w.sessions
  callees : ∀ callee ∈ w.callees, callee.session.id ∈ w.sessions ∧
    callee.session.id ≠ w.coordinator.call.callerSessionId ∧
    callee.session.id ≠ w.coordinator.ownedSessionId
  distinct : (w.callees.map fun callee => callee.session.id).Nodup
  covered : ∀ callee ∈ w.callees, ∀ entry ∈ w.pipeline, home entry.1 = callee.session.id →
    callee.legEventDeduper.Covers entry
  ownCovered : w.coordinator.ownedSessionId = w.coordinator.call.callerSessionId →
    ∀ entry ∈ w.pipeline, home entry.1 = w.coordinator.call.callerSessionId →
      w.coordinator.legEventDeduper.Covers entry
  fromCallees : ∀ entry ∈ w.forwarded,
    home entry.2.mark.1 ≠ w.coordinator.call.callerSessionId
  packed : ∀ token, w.package = some token → w.coordinator.Packed token
  legs : w.coordinator.call.aggregate.LegsFiled

variable {home : AdapterCallLegId → SessionId} {w : LegWire}

/-- A coordinator that stays in its place changes nothing. -/
theorem Sequential.withCoordinator (h : w.Sequential home) {t : Coordinator}
    (hDesk : t.desk = w.coordinator.desk) (hLegs : t.call.aggregate.LegsFiled)
    {package : Option CoordinatorHandoffToken}
    (hPacked : ∀ token, package = some token → t.Packed token) :
    Sequential home { w with coordinator := t, package := package } := by
  have hCaller : t.call.callerSessionId = w.coordinator.call.callerSessionId :=
    congrArg Desk.callerSessionId hDesk
  have hOwned : t.ownedSessionId = w.coordinator.ownedSessionId :=
    congrArg Desk.ownedSessionId hDesk
  have hTable : t.legEventDeduper = w.coordinator.legEventDeduper :=
    congrArg Desk.legEventDeduper hDesk
  constructor
  · exact h.ascends
  · exact h.taken
  · exact h.known
  · rw [hCaller]
    exact h.caller
  · rw [hOwned]
    exact h.owned
  · rw [hCaller, hOwned]
    exact h.callees
  · exact h.distinct
  · exact h.covered
  · rw [hCaller, hOwned, hTable]
    exact h.ownCovered
  · rw [hCaller]
    exact h.fromCallees
  · exact hPacked
  · exact hLegs

/-- What is heard or dropped leaves the queue from its head. -/
theorem Sequential.drain (h : w.Sequential home) {handed : List (AdapterCallLegId × Nat)}
    {forwarded : List (LegFrame × CallLegEvent)}
    (hPipeline : (handed ++ forwarded.map fun entry => entry.2.mark).Sublist w.pipeline)
    (hForwarded : ∀ entry ∈ forwarded, entry ∈ w.forwarded) :
    Sequential home { w with handed := handed, forwarded := forwarded } where
  ascends := h.ascends.sublist hPipeline
  taken entry hMem := h.taken entry (hPipeline.subset hMem)
  known := h.known
  caller := h.caller
  owned := h.owned
  callees := h.callees
  distinct := h.distinct
  covered callee hCallee entry hMem := h.covered callee hCallee entry (hPipeline.subset hMem)
  ownCovered hOwned entry hMem := h.ownCovered hOwned entry (hPipeline.subset hMem)
  fromCallees entry hMem := h.fromCallees entry (hForwarded entry hMem)
  packed := h.packed
  legs := h.legs

/-- The actors of callees that are left have the sessions and the tables that they had. -/
theorem Sequential.withCallees (h : w.Sequential home) {callees : List CalleeActorView}
    (hDistinct : (callees.map fun callee => callee.session.id).Nodup)
    (hOld : ∀ callee ∈ callees, ∃ old ∈ w.callees, callee.session.id = old.session.id ∧
      callee.legEventDeduper = old.legEventDeduper) :
    Sequential home { w with callees := callees } := by
  refine { h with distinct := hDistinct, callees := ?_, covered := ?_ }
  · intro callee hMem
    obtain ⟨old, hBefore, hId, _⟩ := hOld callee hMem
    rw [hId]
    exact h.callees old hBefore
  · intro callee hMem entry hEntry hHome
    obtain ⟨old, hBefore, hId, hTable⟩ := hOld callee hMem
    rw [hTable]
    exact h.covered old hBefore entry hEntry (hHome.trans hId)

theorem mem_others {session : SessionId} {callee : CalleeActorView} :
    callee ∈ w.others session ↔ callee ∈ w.callees ∧ callee.session.id ≠ session := by
  rw [others, List.mem_filter, decide_eq_true_eq]

theorem others_nodup (h : (w.callees.map fun callee => callee.session.id).Nodup)
    (session : SessionId) : ((w.others session).map fun callee => callee.session.id).Nodup :=
  h.sublist (List.filter_sublist.map _)

theorem replaced_nodup (h : (w.callees.map fun callee => callee.session.id).Nodup)
    {session : SessionId} {after : CalleeActorView} (hId : after.session.id = session) :
    ((w.others session ++ [after]).map fun callee => callee.session.id).Nodup := by
  rw [List.map_append, List.map_singleton, List.nodup_append]
  refine ⟨others_nodup h session, List.nodup_singleton _, ?_⟩
  intro id hOther id' hAfter
  obtain ⟨other, hMem, rfl⟩ := List.mem_map.mp hOther
  rw [List.mem_singleton.mp hAfter, hId]
  exact (mem_others.mp hMem).2

theorem callee_spec {session : SessionId} {found : CalleeActorView}
    (h : w.callee session = some found) : found ∈ w.callees ∧ found.session.id = session :=
  ⟨List.mem_of_find?_eq_some h, of_decide_eq_true (List.find?_some h :)⟩

/-- An accepted event is newer than all events of its leg that the table's reader knows of. -/
theorem judged_above {deduper : LegEventDeduper} {callId : CallId} {event : CallLegEvent}
    {pipeline : List (AdapterCallLegId × Nat)} {session : SessionId}
    (hRoom : deduper.roomFor event = true) (hHome : home event.mark.1 = session)
    (hCovered : ∀ entry ∈ pipeline, home entry.1 = session → deduper.Covers entry)
    (hAccepted : (deduper.judge callId event).1 = true) :
    ∀ entry ∈ pipeline, entry.1 = event.mark.1 → entry.2 < event.mark.2 := by
  intro entry hMem hLeg
  have hOld := hCovered entry hMem ((congrArg home hLeg).trans hHome)
  exact (LegEventDeduper.judge_accepted hRoom hAccepted).1 entry hOld hLeg

/-- After an event was judged the table still covers the pipeline, the event included. -/
theorem judge_covers_pipeline {deduper : LegEventDeduper} {callId : CallId} {event : CallLegEvent}
    {pipeline : List (AdapterCallLegId × Nat)} {session : SessionId}
    (hRoom : deduper.roomFor event = true)
    (hCovered : ∀ entry ∈ pipeline, home entry.1 = session → deduper.Covers entry)
    {entry : AdapterCallLegId × Nat} (hHome : home entry.1 = session)
    (hMem : entry ∈ pipeline ∨ (deduper.judge callId event).1 = true ∧ entry = event.mark) :
    (deduper.judge callId event).2.Covers entry := by
  rcases hMem with hOld | ⟨hAccepted, rfl⟩
  · exact LegEventDeduper.judge_covers hRoom (hCovered entry hOld hHome)
  · exact (LegEventDeduper.judge_accepted hRoom hAccepted).2

/-- A callee takes an event behind all that is in the pipeline of the leg, or its deduper drops it.
-/
theorem Sequential.calleeTakes (h : w.Sequential home) {session : SessionId} {frame : LegFrame}
    {event : CallLegEvent} (hHome : home event.adapterCallLegId = session)
    (hRoom : (w.callee session).all (fun callee => callee.legEventDeduper.roomFor event) = true) :
    Sequential home (w.perform (.calleeTakes session frame event)) := by
  rw [perform]
  split
  · exact h
  · next callee hFound =>
      obtain ⟨hCallee, hId⟩ := callee_spec hFound
      rw [hFound, Option.all_some] at hRoom
      have hCovered := h.covered callee hCallee
      rw [hId] at hCovered
      have hAfterId : (callee.takeLegEvent frame event).session.id = session := by
        rw [CalleeActorView.takeLegEvent]
        split <;> exact hId
      have hPipeline : ∀ entry, entry ∈ w.handed ++ (w.forwarded
          ++ if (callee.judged event).1 then [(frame, event)] else []).map
            (fun entry => entry.2.mark) ↔
          entry ∈ w.pipeline ∨ (callee.judged event).1 = true ∧ entry = event.mark := by
        intro entry
        cases (callee.judged event).1 <;> simp [pipeline, or_assoc]
      have hRemaining : ∀ other ∈ (if (callee.judged event).1
          ∧ (callee.takeLegEvent frame event).session.state.isTerminal then w.others session
          else w.others session ++ [callee.takeLegEvent frame event]),
          other ∈ w.others session ∨ other = callee.takeLegEvent frame event := by
        intro other hMem
        split at hMem
        · exact .inl hMem
        · rcases List.mem_append.mp hMem with hOther | hAfter
          · exact .inl hOther
          · exact .inr (List.mem_singleton.mp hAfter)
      constructor
      · show Ascends (w.handed ++ _)
        cases hAccepted : (callee.judged event).1 with
        | false => simpa [pipeline] using h.ascends
        | true =>
            have hNew := judged_above hRoom hHome hCovered hAccepted
            simpa [pipeline] using h.ascends.snoc hNew
      · intro entry hMem
        rcases (hPipeline entry).mp hMem with hOld | ⟨_, rfl⟩
        · exact List.mem_append_left _ (h.taken entry hOld)
        · exact List.mem_append_right _ (List.mem_singleton_self _)
      · intro entry hMem
        rcases List.mem_append.mp hMem with hOld | hNew
        · exact h.known entry hOld
        · rw [List.mem_singleton.mp hNew, CallLegEvent.mark, hHome, ← hId]
          exact (h.callees callee hCallee).1
      · exact h.caller
      · exact h.owned
      · intro other hMem
        rcases hRemaining other hMem with hOther | rfl
        · exact h.callees other (mem_others.mp hOther).1
        · rw [hAfterId, ← hId]
          exact h.callees callee hCallee
      · show (List.map _ (if _ then _ else _)).Nodup
        split
        · exact others_nodup h.distinct session
        · exact replaced_nodup h.distinct hAfterId
      · intro other hMem entry hEntry hEntryHome
        have hEntry' := (hPipeline entry).mp hEntry
        rcases hRemaining other hMem with hOther | rfl
        · obtain ⟨hBefore, hElse⟩ := mem_others.mp hOther
          rcases hEntry' with hOld | ⟨_, rfl⟩
          · exact h.covered other hBefore entry hOld hEntryHome
          · exact (hElse (hEntryHome.symm.trans hHome)).elim
        · exact judge_covers_pipeline hRoom hCovered (hEntryHome.trans hAfterId) hEntry'
      · intro hOwned entry hMem hEntryHome
        rcases (hPipeline entry).mp hMem with hOld | ⟨_, rfl⟩
        · exact h.ownCovered hOwned entry hOld hEntryHome
        · have hSame : callee.session.id = w.coordinator.call.callerSessionId :=
            hId.trans (hHome.symm.trans hEntryHome)
          exact ((h.callees callee hCallee).2.1 hSame).elim
      · intro entry hMem
        rcases List.mem_append.mp hMem with hOld | hNew
        · exact h.fromCallees entry hOld
        · split at hNew
          · rw [List.mem_singleton.mp hNew]
            intro hSame
            exact (h.callees callee hCallee).2.1 (hId.trans (hHome.symm.trans hSame))
          · exact (List.not_mem_nil hNew).elim
      · exact h.packed
      · exact h.legs

/-- The coordinator takes an event from its own mailbox and hands it on or drops it. -/
theorem Sequential.takes (h : w.Sequential home) {t : Coordinator} {event : CallLegEvent}
    {new : List (AdapterCallLegId × Nat)}
    (hNew : new = [] ∨ new = [event.mark] ∧
      (∀ entry ∈ w.pipeline, entry.1 = event.mark.1 → entry.2 < event.mark.2) ∧
      ∀ entry ∈ w.forwarded, entry.2.mark.1 ≠ event.mark.1)
    (hHome : home event.mark.1 = w.coordinator.ownedSessionId)
    (hCaller : t.call.callerSessionId = w.coordinator.call.callerSessionId)
    (hOwned : t.ownedSessionId = w.coordinator.ownedSessionId)
    (hCovers : w.coordinator.ownedSessionId = w.coordinator.call.callerSessionId →
      ∀ entry, home entry.1 = w.coordinator.call.callerSessionId →
        entry ∈ w.pipeline ∨ entry ∈ new → t.legEventDeduper.Covers entry)
    (hPackage : w.package = none) (hLegs : t.call.aggregate.LegsFiled) :
    Sequential home { w with
      coordinator := t, taken := w.taken ++ [event.mark], handed := w.handed ++ new } := by
  have hPipeline : ∀ entry ∈ (w.handed ++ new) ++ w.forwarded.map (fun entry => entry.2.mark),
      entry ∈ w.pipeline ∨ entry ∈ new := by
    intro entry hMem
    rw [pipeline]
    rcases List.mem_append.mp hMem with hFirst | hWaiting
    · rcases List.mem_append.mp hFirst with hHanded | hNow
      · exact .inl (List.mem_append_left _ hHanded)
      · exact .inr hNow
    · exact .inl (List.mem_append_right _ hWaiting)
  have hOnly : ∀ entry ∈ new, entry = event.mark := by
    intro entry hMem
    rcases hNew with rfl | ⟨rfl, _⟩
    · exact (List.not_mem_nil hMem).elim
    · exact List.mem_singleton.mp hMem
  constructor
  · show Ascends ((w.handed ++ new) ++ _)
    rcases hNew with rfl | ⟨rfl, hAbove, hApart⟩
    · simpa [pipeline] using h.ascends
    · rw [List.append_assoc]
      apply Ascends.insert h.ascends
      · intro other hMem
        exact hAbove other (List.mem_append_left _ hMem)
      · intro other hMem
        obtain ⟨waiting, hWaiting, rfl⟩ := List.mem_map.mp hMem
        exact hApart waiting hWaiting
  · intro entry hMem
    rcases hPipeline entry hMem with hOld | hNow
    · exact List.mem_append_left _ (h.taken entry hOld)
    · exact List.mem_append_right _ (List.mem_singleton.mpr (hOnly entry hNow))
  · intro entry hMem
    rcases List.mem_append.mp hMem with hOld | hNow
    · exact h.known entry hOld
    · rw [List.mem_singleton.mp hNow, hHome]
      exact h.owned
  · rw [hCaller]
    exact h.caller
  · rw [hOwned]
    exact h.owned
  · rw [hCaller, hOwned]
    exact h.callees
  · exact h.distinct
  · intro callee hCallee entry hMem hEntryHome
    rcases hPipeline entry hMem with hOld | hNow
    · exact h.covered callee hCallee entry hOld hEntryHome
    · rw [hOnly entry hNow, hHome] at hEntryHome
      exact ((h.callees callee hCallee).2.2 hEntryHome.symm).elim
  · intro hStill entry hMem hEntryHome
    rw [hCaller] at hStill hEntryHome
    rw [hOwned] at hStill
    exact hCovers hStill entry hEntryHome (hPipeline entry hMem)
  · rw [hCaller]
    exact h.fromCallees
  · intro token hToken
    rw [hPackage] at hToken
    cases hToken
  · exact hLegs

/-- Whatever a coordinator handles but an event of the caller's leg leaves it in its place. -/
theorem desk_of_step {s : Coordinator} {env : Env} {input : Input}
    (hLegs : s.call.aggregate.LegsFiled)
    (hInput : ∀ target committed, input ≠ .installHandoff target committed)
    (hOther : ∀ frame event, s.stimulus env input ≠ some (.callerEvent frame event)) :
    (s.step env input).desk = s.desk ∧ (s.step env input).call.aggregate.LegsFiled := by
  have hSeated : (s.step env input).Seated (s.deskAfter (s.stimulus env input)) :=
    Coordinator.step_seated hInput hLegs
  cases hStimulus : s.stimulus env input with
  | none =>
      rw [hStimulus] at hSeated
      exact hSeated
  | some stimulus =>
      rw [hStimulus] at hSeated
      cases stimulus with
      | callerEvent frame event => exact (hOther frame event hStimulus).elim
      | _ => exact hSeated

theorem Sequential.coordinatorActs (h : w.Sequential home) {env : Env} {input : Input}
    (hPackage : w.package = none) (hOwn : input.isOwn = true) (hOther : input.isLegEvent = false) :
    Sequential home (w.perform (.coordinatorActs env input)) := by
  have hStays : (w.coordinator.step env input).desk = w.coordinator.desk ∧
      (w.coordinator.step env input).call.aggregate.LegsFiled := by
    apply desk_of_step h.legs
    · rintro target committed rfl
      cases hOwn
    · intro frame event hStimulus
      obtain ⟨_, _, source, rfl⟩ := Coordinator.callerEvent_of_stimulus hStimulus
      cases hOther
  apply h.withCoordinator hStays.1 hStays.2
  intro token hToken
  rw [hPackage] at hToken
  cases hToken

theorem Sequential.coordinatorHears (h : w.Sequential home) {env : Env}
    (hPackage : w.package = none) : Sequential home (w.perform (.coordinatorHears env)) := by
  rw [perform]
  split
  · exact h
  · next frame event rest hForwarded =>
      have hStays : (w.coordinator.step env
            (.control .coordinator (.peerLegEvent frame event))).desk = w.coordinator.desk ∧
          (w.coordinator.step env
            (.control .coordinator (.peerLegEvent frame event))).call.aggregate.LegsFiled := by
        apply desk_of_step h.legs
        · exact fun _ _ => Input.noConfusion
        · intro frame' event' hStimulus
          obtain ⟨_, _, source, hInput⟩ := Coordinator.callerEvent_of_stimulus hStimulus
          cases hInput
      have hHanded : Sequential home { w with
          handed := w.handed ++ w.coordinator.handedBy (.peerLegEvent frame event)
          forwarded := rest } := by
        apply h.drain
        · rw [pipeline, hForwarded, Coordinator.handedBy]
          split
          · rw [List.append_nil]
            exact (List.sublist_cons_self _ _).append_left w.handed
          · rw [List.append_assoc]
            exact List.Sublist.refl _
        · intro entry hMem
          rw [hForwarded]
          exact .tail _ hMem
      apply hHanded.withCoordinator hStays.1 hStays.2
      intro token hToken
      rw [hPackage] at hToken
      cases hToken

/-- A leg event from the coordinator's own mailbox only changes its table, and that only as
long as it serves the caller's leg. -/
theorem step_legEvent {s : Coordinator} {env : Env} {frame : LegFrame} {event : CallLegEvent}
    (hLegs : s.call.aggregate.LegsFiled) :
    (s.step env (.control .ownedLeg (.legEvent frame event))).Seated
      (if s.finalizationStarted = false ∧ s.ownedSessionId = s.call.callerSessionId then
        { s.desk with legEventDeduper := (s.judged event).2 } else s.desk) := by
  have hSeated : (s.step env (.control .ownedLeg (.legEvent frame event))).Seated
      (s.deskAfter (s.stimulus env (.control .ownedLeg (.legEvent frame event)))) :=
    Coordinator.step_seated (fun _ _ => Input.noConfusion) hLegs
  rw [Coordinator.stimulus, Coordinator.controlStimulus] at hSeated
  cases hFinal : s.finalizationStarted with
  | true =>
      simp only [hFinal, if_true, Bool.true_eq_false, false_and, if_false] at hSeated ⊢
      exact hSeated
  | false =>
      by_cases hOwned : s.ownedSessionId = s.call.callerSessionId
      · simp only [hFinal, hOwned, if_true, Bool.false_eq_true, if_false, and_self] at hSeated ⊢
        exact hSeated
      · simp only [hFinal, hOwned, Bool.false_eq_true, if_false, and_false] at hSeated ⊢
        exact hSeated

/-- An event of the caller's leg is judged before it is handed on. -/
theorem Sequential.takesCallerEvent (h : w.Sequential home) {t : Coordinator}
    {event : CallLegEvent} (hPackage : w.package = none)
    (hOwned : w.coordinator.ownedSessionId = w.coordinator.call.callerSessionId)
    (hHome : home event.mark.1 = w.coordinator.ownedSessionId)
    (hRoom : w.coordinator.legEventDeduper.roomFor event = true)
    (h' : t.Seated { w.coordinator.desk with
      legEventDeduper := (w.coordinator.judged event).2 }) :
    Sequential home { w with
      coordinator := t
      taken := w.taken ++ [event.mark]
      handed := w.handed ++ if (w.coordinator.judged event).1 then [event.mark] else [] } := by
  have hCallerHome : home event.mark.1 = w.coordinator.call.callerSessionId := hHome.trans hOwned
  have hNew : (if (w.coordinator.judged event).1 then [event.mark] else []) = [] ∨
      (if (w.coordinator.judged event).1 then [event.mark] else []) = [event.mark] ∧
        (∀ entry ∈ w.pipeline, entry.1 = event.mark.1 → entry.2 < event.mark.2) ∧
        ∀ entry ∈ w.forwarded, entry.2.mark.1 ≠ event.mark.1 := by
    split
    · next hAccepted =>
        refine .inr ⟨rfl, judged_above hRoom hCallerHome (h.ownCovered hOwned) hAccepted, ?_⟩
        intro entry hMem hSame
        exact h.fromCallees entry hMem ((congrArg home hSame).trans hCallerHome)
    · exact .inl rfl
  apply h.takes hNew hHome (congrArg Desk.callerSessionId h'.1) (congrArg Desk.ownedSessionId h'.1)
    _ hPackage h'.2
  intro _ entry hEntryHome hMem
  have hTable : t.legEventDeduper = (w.coordinator.judged event).2 :=
    congrArg Desk.legEventDeduper h'.1
  rw [hTable]
  apply judge_covers_pipeline hRoom (h.ownCovered hOwned) hEntryHome
  rcases hMem with hOld | hNow
  · exact .inl hOld
  · split at hNow
    · next hAccepted => exact .inr ⟨hAccepted, List.mem_singleton.mp hNow⟩
    · exact (List.not_mem_nil hNow).elim

theorem Sequential.coordinatorTakes (h : w.Sequential home) {env : Env} {frame : LegFrame}
    {event : CallLegEvent} (hPackage : w.package = none)
    (hCareful : w.careful home (.coordinatorTakes env frame event) = true) :
    Sequential home (w.perform (.coordinatorTakes env frame event)) := by
  simp only [careful, Bool.and_eq_true, decide_eq_true_eq] at hCareful
  obtain ⟨hHome, hCareful⟩ := hCareful
  have hSeated : (w.coordinator.step env (.control .ownedLeg (.legEvent frame event))).Seated _ :=
    step_legEvent h.legs
  rw [perform, Coordinator.handedBy]
  cases hFinal : w.coordinator.finalizationStarted with
  | true =>
      simp only [hFinal, Bool.true_eq_false, false_and, if_false] at hSeated
      apply h.takes (.inl rfl) hHome (congrArg Desk.callerSessionId hSeated.1)
        (congrArg Desk.ownedSessionId hSeated.1) _ hPackage hSeated.2
      intro hStill entry hEntryHome hMem
      show LegEventDeduper.Covers (Coordinator.desk _).legEventDeduper entry
      rw [hSeated.1]
      rcases hMem with hOld | hNow
      · exact h.ownCovered hStill entry hOld hEntryHome
      · exact (List.not_mem_nil hNow).elim
  | false =>
      by_cases hOwned : w.coordinator.ownedSessionId = w.coordinator.call.callerSessionId
      · simp only [hFinal, hOwned, and_self, if_true] at hSeated
        rw [if_pos hOwned] at hCareful
        simp only [hOwned, if_true, Bool.false_eq_true, if_false]
        exact h.takesCallerEvent hPackage hOwned hHome hCareful hSeated
      · simp only [hOwned, and_false, if_false] at hSeated
        simp only [hOwned, if_false, Bool.and_eq_true, List.all_eq_true, decide_eq_true_eq]
          at hCareful
        simp only [hOwned, if_false, Bool.false_eq_true]
        apply h.takes (.inr ⟨rfl, ?_, hCareful.2⟩) hHome (congrArg Desk.callerSessionId hSeated.1)
          (congrArg Desk.ownedSessionId hSeated.1) _ hPackage hSeated.2
        · intro entry hMem
          exact hCareful.1 entry (h.taken entry hMem)
        · intro hStill
          exact (hOwned hStill).elim

/-- A new callee has a session that no event has been taken for. -/
theorem Sequential.calleeStarts (h : w.Sequential home) {session : Session}
    {actionGeneration : Nat} (hNew : session.id ∉ w.sessions) :
    Sequential home (w.perform (.calleeStarts session actionGeneration)) := by
  have hKnown : ∀ {id}, id ∈ w.sessions → session.id ≠ id :=
    fun hMem hSame => hNew (hSame ▸ hMem)
  refine { h with
    known := ?_, caller := ?_, owned := ?_, callees := ?_, distinct := ?_, covered := ?_ }
  · exact fun entry hMem => .tail _ (h.known entry hMem)
  · exact .tail _ h.caller
  · exact .tail _ h.owned
  · intro callee hMem
    rcases List.mem_append.mp hMem with hOld | hFresh
    · exact ⟨.tail _ (h.callees callee hOld).1, (h.callees callee hOld).2⟩
    · rw [List.mem_singleton.mp hFresh]
      exact ⟨.head _, hKnown h.caller, hKnown h.owned⟩
  · show (List.map _ (w.callees ++ [_])).Nodup
    rw [List.map_append, List.map_singleton, List.nodup_append]
    refine ⟨h.distinct, List.nodup_singleton _, ?_⟩
    intro id hOld id' hFresh
    obtain ⟨callee, hMem, rfl⟩ := List.mem_map.mp hOld
    rw [List.mem_singleton.mp hFresh]
    exact (hKnown (h.callees callee hMem).1).symm
  · intro callee hMem entry hEntry hHome
    rcases List.mem_append.mp hMem with hOld | hFresh
    · exact h.covered callee hOld entry hEntry hHome
    · have hListed := h.known entry (h.taken entry hEntry)
      rw [hHome, List.mem_singleton.mp hFresh] at hListed
      exact (hNew hListed).elim

theorem Sequential.calleeActs (h : w.Sequential home) {session : SessionId}
    {after : CalleeActorView} : Sequential home (w.perform (.calleeActs session after)) := by
  rw [perform]
  split
  · exact h
  · next callee hFound =>
      obtain ⟨hCallee, hId⟩ := callee_spec hFound
      have hStays : ({ after with
          session := { after.session with id := session }
          legEventDeduper := callee.legEventDeduper } : CalleeActorView).session.id = session := rfl
      apply h.withCallees (replaced_nodup h.distinct hStays)
      intro other hMem
      rcases List.mem_append.mp hMem with hOther | hAfter
      · exact ⟨other, (mem_others.mp hOther).1, rfl, rfl⟩
      · rw [List.mem_singleton.mp hAfter]
        exact ⟨callee, hCallee, hId.symm, rfl⟩

/-- The actors of the other callees. -/
theorem Sequential.withOthers (h : w.Sequential home) (session : SessionId) :
    Sequential home { w with callees := w.others session } := by
  apply h.withCallees (others_nodup h.distinct session)
  intro other hMem
  exact ⟨other, (mem_others.mp hMem).1, rfl, rfl⟩

theorem of_installFailure {s : Coordinator} {token : CoordinatorHandoffToken}
    {target : CalleeActorView} {committed : CoordinatorIdentity}
    (h : s.installFailure token target committed = none) :
    s.targetReady token target = none ∧
      committed = { sessionId := token.targetSessionId, generation := token.targetGeneration } := by
  rw [Coordinator.installFailure] at h
  split at h
  · cases h
  · next hCommitted =>
      rw [not_or, not_not, not_not] at hCommitted
      split at h
      · cases h
      · next hReady => exact ⟨hReady, by rw [← hCommitted.1, ← hCommitted.2]⟩

/-- The coordinator on a callee's leg: nothing of that leg is judged any more. -/
theorem Sequential.install (h : w.Sequential home) {env : Env} {session : SessionId}
    {committed : CoordinatorIdentity}
    (hAllowed : w.allowed (.install env session committed) = true) :
    Sequential home (w.perform (.install env session committed)) := by
  rw [allowed] at hAllowed
  split at hAllowed
  · next token target hToken hFound =>
      obtain ⟨hReady, hCommitted⟩ := of_installFailure (of_decide_eq_true hAllowed)
      obtain ⟨hTarget, hId⟩ := callee_spec hFound
      obtain ⟨hKnown, hCaller, _⟩ := h.callees target hTarget
      simp only [perform, hFound]
      rw [Coordinator.step_installHandoff (h.packed token hToken) h.legs hReady hCommitted]
      refine { h.withOthers session with
        owned := hKnown, callees := ?_, ownCovered := ?_, packed := ?_, legs := ?_ }
      · intro other hMem
        obtain ⟨hBefore, hElse⟩ := mem_others.mp hMem
        obtain ⟨hListed, hOther, _⟩ := h.callees other hBefore
        exact ⟨hListed, hOther, fun hSame => hElse (hSame.trans hId)⟩
      · exact fun hSame => (hCaller hSame).elim
      · exact fun _ hNone => nomatch hNone
      · exact h.legs.of_legs rfl
  · simp only [Bool.false_eq_true] at hAllowed

theorem Sequential.prepare (h : w.Sequential home) {env : Env} {token : CoordinatorHandoffToken}
    (hPrepared : w.coordinator.handoffPrepared token = true)
    (hAwaited : env.handoffAwaited = true) :
    Sequential home (w.perform (.prepare env token)) := by
  rw [perform, Coordinator.step_prepareCoordinatorHandoff hPrepared hAwaited]
  have hDesk : Coordinator.desk { w.coordinator with running := false, handedOver := some token }
      = w.coordinator.desk := rfl
  apply h.withCoordinator hDesk h.legs
  intro named hToken
  obtain rfl := Option.some.inj hToken
  exact ⟨rfl, hPrepared⟩

theorem Sequential.rollback (h : w.Sequential home) {env : Env} :
    Sequential home (w.perform (.rollback env)) := by
  have hDesk : (w.coordinator.step env .rollbackHandoff).desk = w.coordinator.desk := rfl
  apply h.withCoordinator hDesk h.legs
  intro token hNone
  cases hNone

/-- One careful step keeps leg events apart. -/
theorem Sequential.perform (h : w.Sequential home) {act : Act} (hAllowed : w.allowed act = true)
    (hCareful : w.careful home act = true) : Sequential home (w.perform act) := by
  cases act with
  | coordinatorTakes env frame event =>
      simp only [allowed, Bool.and_eq_true, Option.isNone_iff_eq_none] at hAllowed
      exact h.coordinatorTakes hAllowed.1 hCareful
  | coordinatorHears env =>
      simp only [allowed, Bool.and_eq_true, Option.isNone_iff_eq_none] at hAllowed
      exact h.coordinatorHears hAllowed.1.1
  | coordinatorActs env input =>
      simp only [allowed, Bool.and_eq_true, Option.isNone_iff_eq_none, Bool.not_eq_true']
        at hAllowed
      exact h.coordinatorActs hAllowed.1.1.1 hAllowed.1.2 hAllowed.2
  | calleeStarts session actionGeneration =>
      simp only [allowed, Bool.not_eq_true', ← Bool.not_eq_true, List.contains_iff_mem] at hAllowed
      exact h.calleeStarts hAllowed
  | calleeTakes session frame event =>
      simp only [careful, Bool.and_eq_true, decide_eq_true_eq] at hCareful
      exact h.calleeTakes hCareful.1 hCareful.2
  | calleeActs session after => exact h.calleeActs
  | calleeStops session => exact h.withOthers session
  | prepare env token =>
      simp only [allowed, Bool.and_eq_true] at hAllowed
      exact h.prepare hAllowed.1.2 hAllowed.2
  | install env session committed => exact h.install hAllowed
  | rollback env => exact h.rollback

theorem Sequential.start {invitation : Coordinator.Invitation} {s : Coordinator}
    (hCreate : Coordinator.create invitation = .ok s) : Sequential home (start s) := by
  have hSeated := Coordinator.create_seated hCreate
  have hOwned : s.ownedSessionId = s.call.callerSessionId :=
    (congrArg Desk.ownedSessionId hSeated.1).trans (congrArg Desk.callerSessionId hSeated.1).symm
  constructor
  · exact .nil
  · exact fun _ hMem => nomatch hMem
  · exact fun _ hMem => nomatch hMem
  · exact .head _
  · rw [LegWire.start, hOwned]
    exact .head _
  · exact fun _ hMem => nomatch hMem
  · exact .nil
  · exact fun _ hMem => nomatch hMem
  · exact fun _ _ hMem => nomatch hMem
  · exact fun _ hMem => nomatch hMem
  · exact fun _ hNone => nomatch hNone
  · exact hSeated.2

/-- As long as all steps are careful, every leg event is handed on at most once, and those of
a leg in the order of their numbers. -/
theorem leg_events_ascend
    (h : Transition.ReachableWithin system (fun w act => w.careful home act = true) w) :
    w.handed.Nodup ∧
      ∀ leg, ((w.handed.filter fun entry => entry.1 = leg).map Prod.snd).Pairwise (· < ·) := by
  have hSequential : w.Sequential home := by
    apply h.invariant
    · rintro _ ⟨invitation, s, hCreate, rfl⟩
      exact .start hCreate
    · rintro w act _ hSequential hCareful ⟨hAllowed, rfl⟩
      exact hSequential.perform hAllowed hCareful
  have hHanded : Ascends w.handed := hSequential.ascends.sublist (List.sublist_append_left _ _)
  exact ⟨hHanded.nodup, hHanded.ofKey⟩

section Runs

open Coordinator (Invitation callTo takingEnv)

/-- The state that a list of acts leads a new call to, if every one of them meets `C`. -/
def schedule (C : LegWire → Act → Bool) (invitation : Invitation) (acts : List Act) :
    Option LegWire :=
  match Coordinator.create invitation with
  | .error _ => none
  | .ok s => Transition.follow (fun w act => w.allowed act && C w act) perform acts (start s)

theorem reachable_of_schedule (C : LegWire → Act → Bool) (P : LegWire → Bool)
    (invitation : Invitation) (acts : List Act)
    (h : (schedule C invitation acts).any P = true) :
    ∃ w, Transition.ReachableWithin system (fun w act => C w act = true) w ∧ P w = true := by
  rw [Option.any_eq_true] at h
  obtain ⟨w, hRun, hP⟩ := h
  rw [schedule] at hRun
  split at hRun
  · cases hRun
  · next s hCreate =>
      refine ⟨w, ⟨start s, ⟨invitation, s, hCreate, rfl⟩, ?_⟩, hP⟩
      refine Transition.follow_runsWithin (fun w act hAllowed => ?_) hRun
      rw [Bool.and_eq_true] at hAllowed
      exact ⟨hAllowed.2, hAllowed.1, rfl⟩

/-- The session of the callee of the first attempt. -/
def firstSession : Session where
  id := "session-c-callee-attempt-1"
  domainId := "d"
  callId := "c"
  role := .callee (attemptIdOf 1)
  direction := .outbound
  endpoint := .trunk "peer:1"
  state := .dialing
  sip := none
  peer := some "session-c-caller"
  createdAtMs := 1000
  answeredAtMs := none
  hangupCause := none

/-- The first callee rings. -/
def ringing (legEventSeq : Nat) : CallLegEvent where
  callId := some "c"
  sessionId := some "session-c-callee-attempt-1"
  adapterCallLegId := "leg-1"
  legEventSeq := legEventSeq
  statusCode := some 180
  sdp := none
  reason := none

/-- The first callee rings, then the coordinator is installed on its leg and is told of
another ringing. -/
def handedOverWhileRinging (second : Nat) : List Act :=
  [.calleeStarts firstSession 1, .coordinatorActs takingEnv .enter,
    .calleeTakes "session-c-callee-attempt-1" .outboundProvisional (ringing 1),
    .coordinatorHears takingEnv,
    .prepare { takingEnv with handoffAwaited := true } Runtime.firstToken,
    .install takingEnv "session-c-callee-attempt-1"
      { sessionId := "session-c-callee-attempt-1", generation := 2 },
    .coordinatorActs takingEnv .enter,
    .coordinatorTakes takingEnv .outboundProvisional (ringing second)]

theorem leg_events_ascend_handedOver :
    ∃ w : LegWire, w.handed = [("leg-1", 1), ("leg-1", 2)] ∧ w.handed.Nodup ∧
      ∀ leg, ((w.handed.filter fun entry => entry.1 = leg).map Prod.snd).Pairwise (· < ·) := by
  obtain ⟨w, hReached, hHanded⟩ := reachable_of_schedule
    (careful fun leg => if leg = "leg" then "session-c-caller" else "session-c-callee-attempt-1")
    (fun w => w.handed = [("leg-1", 1), ("leg-1", 2)]) (callTo (.trunk "peer:1") [])
    (handedOverWhileRinging 2) (by decide)
  exact ⟨w, of_decide_eq_true hHanded, leg_events_ascend hReached⟩

/-- A repeated frame is handed on twice once the coordinator reads the callee's mailbox. -/
theorem repeated_event_handed_twice :
    ¬ ∀ w : LegWire, Transition.Reachable system w →
      w.handed.Nodup ∧
        ∀ leg, ((w.handed.filter fun entry => entry.1 = leg).map Prod.snd).Pairwise (· < ·) := by
  intro hOnce
  obtain ⟨w, hReached, hHanded⟩ := reachable_of_schedule (fun _ _ => true)
    (fun w => w.handed = [("leg-1", 1), ("leg-1", 1)]) (callTo (.trunk "peer:1") [])
    (handedOverWhileRinging 1) (by decide)
  have hNodup := (hOnce w hReached.reachable).1
  rw [of_decide_eq_true hHanded] at hNodup
  exact absurd hNodup (by decide)

end Runs

end LegWire

end VoipSwitch
