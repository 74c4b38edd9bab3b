import VoipSwitch.Ai.Playback
import VoipSwitch.Ai.Protocol

/-! The task that plays the speech of an agent. It takes up one media frame after the other, sends
the packets of a frame at their times, and looks at the control messages between two packets as
well as between two frames. -/
namespace VoipSwitch.Playout

open AiProtocol (TtsState TtsStateChanged)
open Connector (MediaFrame)
open G711 (PlaybackCodec)

/-- What the media bridge does with a packet. -/
structure Bridge where
  stopped : Bool
  sends : Bool

/-- What `record_ai_agent_trace` is told, and the microphone that is opened again. -/
inductive Note where
  | ttsStarted (generation : UInt64)
  | ttsInterrupted (generation : UInt64)
  | ttsStopped (generation : UInt64)
  | callerInputEnabled
deriving DecidableEq

inductive Phase where
  /-- Waiting for a frame. -/
  | waiting
  /-- A packet has been sent, and these packets of its frame are left. -/
  | sending (pending : List PlaybackFrame)
  | ended
deriving DecidableEq

structure Player where
  conversation : JobRef
  playback : TtsPlayback
  playbackGeneration : UInt64
  tracedTtsGeneration : Option UInt64 := none
  rtpSequence : UInt16 := 1
  phase : Phase := .waiting
  sent : List (PlaybackFrame × UInt16) := []
  notes : List Note := []

/-- What the task wakes up for. -/
inductive Input where
  | media (frame : MediaFrame)
  | control (message : AiProtocol.ControlMessage)
  | mediaLagged
  | controlsLagged
  | closed
  /-- The timer of the place where it waits. -/
  | timer

namespace Player

def start (conversation : JobRef) : Except String Player := do
  let playback ← TtsPlayback.new (UInt64.ofNat conversation.generation)
  return { conversation, playback
           playbackGeneration := UInt64.ofNat conversation.generation }

/-- The message is about the speech of this conversation, and not about an earlier one. -/
def concerns (player : Player) (change : TtsStateChanged) : Bool :=
  change.conversation.conversationId = player.conversation.conversationId &&
    change.conversation.jobId = player.conversation.jobId &&
    change.conversation.tenantId = player.conversation.tenantId &&
    player.playbackGeneration ≤ UInt64.ofNat change.generation

/-- What both places do with a message that concerns the speech. -/
def handle (player : Player) (change : TtsStateChanged) : Player :=
  let generation := UInt64.ofNat change.generation
  match change.state with
  | .interrupted =>
    let player := { player with notes := player.notes ++ [Note.ttsInterrupted generation] }
    match player.playback.interrupt generation with
    | .error _ => player
    | .ok playback => { player with playback, playbackGeneration := generation }
  | .stopped =>
    { player with notes := player.notes ++ [Note.callerInputEnabled, Note.ttsStopped generation] }
  | _ => player

/-- The loop over the packets goes on to the next one. -/
def sendNext (bridge : Bridge) (player : Player) : List PlaybackFrame → Player
  | [] => { player with phase := .waiting }
  | packet :: rest =>
    if bridge.stopped = true ∨ packet.generation ≠ player.playbackGeneration then
      { player with phase := .waiting }
    else if bridge.sends = true then
      { player with
        sent := player.sent ++ [(packet, player.rtpSequence)]
        rtpSequence := player.rtpSequence + 1
        phase := .sending rest }
    else { player with phase := .ended }

/-- The frame is for this conversation and in the format that is played. -/
def accepts (player : Player) (frame : MediaFrame) : Bool :=
  frame.metadata.conversationId = player.conversation.conversationId &&
    frame.metadata.jobId = player.conversation.jobId &&
    frame.metadata.tenantId = player.conversation.tenantId &&
    frame.metadata.direction = .toParticipant && frame.metadata.codec = .pcm16Le &&
    frame.metadata.sampleRate = 16000 && frame.metadata.channels = 1

/-- The generation of the frame, if it is not an old one. -/
def enterGeneration (player : Player) (generation : UInt64) : Except String Player :=
  if player.playbackGeneration < generation then
    (player.playback.interrupt generation).map fun playback =>
      { player with playback, playbackGeneration := generation }
  else .ok player

/-- The packets of a frame, where it is taken up. -/
def takeUp (player : Player) (frame : MediaFrame) : Option (List PlaybackFrame) × Player :=
  if player.accepts frame = false ∨ frame.metadata.generation < player.playbackGeneration then
    (none, player)
  else
    match player.enterGeneration frame.metadata.generation with
    | .error _ => (none, player)
    | .ok player =>
      match player.playback.packetize frame.payload .pcma with
      | .error _ => (none, player)
      | .ok (packets, playback) => (some packets, { player with playback })

def noteStart (player : Player) (generation : UInt64) : Player :=
  if player.tracedTtsGeneration = some generation then player
  else { player with
    notes := player.notes ++ [.ttsStarted generation], tracedTtsGeneration := some generation }

/-- A round of the loops. A frame is only received where one is waited for. -/
def step (bridge : Bridge) (player : Player) (input : Input) : Option Player :=
  match player.phase, input with
  | .ended, _ => none
  | .waiting, .media frame =>
    match player.takeUp frame with
    | (none, player) => some player
    | (some packets, player) =>
      some ((player.noteStart frame.metadata.generation).sendNext bridge packets)
  | .sending _, .media _ => none
  | .sending _, .mediaLagged => none
  | .waiting, .control (.ttsStateChanged change) =>
    some (if player.concerns change then player.handle change else player)
  | .sending pending, .control (.ttsStateChanged change) =>
    if player.concerns change then some { player.handle change with phase := .waiting }
    else some (player.sendNext bridge pending)
  | .waiting, .timer =>
    some (if bridge.stopped = true then { player with phase := .ended } else player)
  | _, .closed => some { player with phase := .ended }
  | .waiting, _ => some player
  | .sending pending, _ => some (player.sendNext bridge pending)

/-- What is left of the frame that is being sent. -/
def pending (player : Player) : List PlaybackFrame :=
  match player.phase with
  | .sending pending => pending
  | _ => []

/-- The packets that have been sent. -/
def played (player : Player) : List PlaybackFrame :=
  player.sent.map (·.1)

/-- The packets of a frame of this conversation that is not older than the speech. A newer speech
begins a count of its own. -/
def owed (player : Player) (frame : MediaFrame) : List PlaybackFrame :=
  if player.accepts frame = true ∧ player.playbackGeneration ≤ frame.metadata.generation then
    let playback : TtsPlayback :=
      if player.playbackGeneration < frame.metadata.generation then
        { generation := frame.metadata.generation, timestamp := 0 }
      else player.playback
    match playback.packetize frame.payload .pcma with
    | .ok (packets, _) => packets
    | .error _ => []
  else []

/-- The message breaks off the speech for a newer one. -/
def supersedes (player : Player) (change : TtsStateChanged) : Bool :=
  player.concerns change && change.state = .interrupted &&
    player.playbackGeneration < UInt64.ofNat change.generation

/-- The packets that are to be played in all, `due` being those before the input. -/
def dueAfter (player : Player) (due : List PlaybackFrame) : Input → List PlaybackFrame
  | .media frame => due ++ player.owed frame
  | .control (.ttsStateChanged change) => if player.supersedes change then player.played else due
  | _ => due

/-- The bridge runs, and what is sent over it arrives. -/
def running : Bridge :=
  { stopped := false, sends := true }

/-- The timers of the packets that are left. -/
def finish (player : Player) : List PlaybackFrame → Player
  | [] => player
  | _ :: rest =>
    match player.step running .timer with
    | some next => next.finish rest
    | none => player

/-- At each time the packets that are due have been sent in order, or the timers alone send
them. -/
def PlaysAll (player : Player) (due : List PlaybackFrame) : List Input → Prop
  | [] => (player.finish player.pending).played = due
  | input :: rest =>
    (player.finish player.pending).played = due ∧
      ∀ next, player.step running input = some next →
        PlaysAll next (player.dueAfter due input) rest

/-- A message that concerns the speech and does not break it off for a newer one is received while
packets are left. -/
def CutShort (player : Player) : Input → Prop
  | .control (.ttsStateChanged change) =>
    player.pending ≠ [] ∧ player.concerns change = true ∧ player.supersedes change = false
  | _ => False

def NeverCutShort (player : Player) : List Input → Prop
  | [] => True
  | input :: rest =>
    ¬ player.CutShort input ∧
      ∀ next, player.step running input = some next → NeverCutShort next rest

/-- The packets that are left belong to the speech that is played. -/
structure Steady (player : Player) : Prop where
  generation : player.playback.generation = player.playbackGeneration
  pending : ∀ packet ∈ player.pending, packet.generation = player.playbackGeneration
  active : player.phase ≠ .ended

section Steps

variable {player next : Player} {due : List PlaybackFrame} {input : Input}

theorem steady_start {conversation : JobRef} (hStart : start conversation = .ok player) :
    player.Steady ∧ player.played ++ player.pending = [] := by
  rw [start, TtsPlayback.new] at hStart
  split at hStart
  · exact absurd hStart (by simp [Bind.bind, Except.bind])
  · obtain rfl := Except.ok.inj hStart
    constructor
    · exact ⟨rfl, fun _ hMem => absurd hMem (by simp [Player.pending]), by simp⟩
    · rfl

theorem sendNext_cons {packet : PlaybackFrame} {rest : List PlaybackFrame}
    (hPacket : packet.generation = player.playbackGeneration) :
    player.sendNext running (packet :: rest) =
      { player with
        sent := player.sent ++ [(packet, player.rtpSequence)]
        rtpSequence := player.rtpSequence + 1
        phase := .sending rest } := by
  rw [sendNext, if_neg (by simp [running, hPacket]), if_pos (show running.sends = true from rfl)]

/-- A packet of the speech is sent, and the others of its frame are left. -/
theorem sendNext_spec {packets : List PlaybackFrame}
    (hGeneration : player.playback.generation = player.playbackGeneration)
    (hPackets : ∀ packet ∈ packets, packet.generation = player.playbackGeneration) :
    (player.sendNext running packets).Steady ∧
      (player.sendNext running packets).played ++ (player.sendNext running packets).pending =
        player.played ++ packets := by
  cases packets with
  | nil =>
      constructor
      · exact ⟨hGeneration, fun _ hMem => absurd hMem (by simp [sendNext, Player.pending]),
          by simp [sendNext]⟩
      · rfl
  | cons packet rest =>
      rw [sendNext_cons (hPackets packet List.mem_cons_self)]
      constructor
      · exact ⟨hGeneration, fun other hMem => hPackets other (List.mem_cons_of_mem _ hMem), by simp⟩
      · simp [played, Player.pending]

theorem generation_frames (codec : PlaybackCodec) (parts : List (List UInt8))
    (playback : TtsPlayback) :
    (∀ packet ∈ (TtsPlayback.frames codec parts playback).1,
        packet.generation = playback.generation) ∧
      (TtsPlayback.frames codec parts playback).2.generation = playback.generation := by
  induction parts generalizing playback with
  | nil => exact ⟨fun _ hMem => absurd hMem List.not_mem_nil, rfl⟩
  | cons part rest ih =>
      rw [TtsPlayback.frames]
      constructor
      · intro packet hMem
        cases List.mem_cons.mp hMem with
        | inl hHead => rw [hHead]
        | inr hRest =>
            exact (ih { playback with timestamp := playback.timestamp + 160 }).1 packet hRest
      · exact (ih _).2

theorem generation_packetize {playback after : TtsPlayback} {pcm : List UInt8}
    {codec : PlaybackCodec} {packets : List PlaybackFrame}
    (hPackets : playback.packetize pcm codec = .ok (packets, after)) :
    (∀ packet ∈ packets, packet.generation = playback.generation) ∧
      after.generation = playback.generation := by
  rw [TtsPlayback.packetize] at hPackets
  split at hPackets
  · exact absurd hPackets (by simp)
  · have hFrames := generation_frames codec (chunks (320 * 2) pcm) playback
    rw [Except.ok.inj hPackets] at hFrames
    exact hFrames

/-- No frame of a newer generation is rejected, as the speech and the packets count the same
generations. -/
theorem enterGeneration_eq (hGeneration : player.playback.generation = player.playbackGeneration)
    (generation : UInt64) :
    player.enterGeneration generation =
      .ok (if player.playbackGeneration < generation then
        { player with
          playback := { generation, timestamp := 0 }, playbackGeneration := generation }
      else player) := by
  rw [enterGeneration]
  split
  · next hNewer =>
      rw [TtsPlayback.interrupt, hGeneration, if_neg (UInt64.not_le.mpr hNewer)]
      rfl
  · rfl

/-- What is taken up are the packets that are owed, and they belong to the speech that is played
from then on. -/
theorem takeUp_spec (hGeneration : player.playback.generation = player.playbackGeneration)
    (frame : MediaFrame) :
    (player.takeUp frame).1.getD [] = player.owed frame ∧
      (player.takeUp frame).2.playback.generation = (player.takeUp frame).2.playbackGeneration ∧
      (∀ packet ∈ player.owed frame,
        packet.generation = (player.takeUp frame).2.playbackGeneration) ∧
      (player.takeUp frame).2.sent = player.sent ∧
      (player.takeUp frame).2.phase = player.phase := by
  rw [takeUp, owed]
  by_cases hOut : player.accepts frame = false ∨
    frame.metadata.generation < player.playbackGeneration
  · have hIn : ¬ (player.accepts frame = true ∧
        player.playbackGeneration ≤ frame.metadata.generation) := by
      intro hIn
      cases hOut with
      | inl hOther => exact Bool.false_ne_true (hOther.symm.trans hIn.1)
      | inr hOld => exact UInt64.not_le.mpr hOld hIn.2
    rw [if_pos hOut, if_neg hIn]
    exact ⟨rfl, hGeneration, fun _ hMem => absurd hMem List.not_mem_nil, rfl, rfl⟩
  · have hIn : player.accepts frame = true ∧
        player.playbackGeneration ≤ frame.metadata.generation := by
      constructor
      · exact Bool.eq_true_of_not_eq_false fun hOther => hOut (.inl hOther)
      · exact UInt64.not_lt.mp fun hOld => hOut (.inr hOld)
    rw [if_neg hOut, if_pos hIn, enterGeneration_eq hGeneration]
    by_cases hNewer : player.playbackGeneration < frame.metadata.generation
    · simp only [if_pos hNewer]
      cases hPackets : TtsPlayback.packetize
          { generation := frame.metadata.generation, timestamp := 0 } frame.payload .pcma with
      | error error => exact ⟨rfl, rfl, fun _ hMem => absurd hMem List.not_mem_nil, rfl, rfl⟩
      | ok result =>
          obtain ⟨hAll, hAfter⟩ := generation_packetize hPackets
          exact ⟨rfl, hAfter, hAll, rfl, rfl⟩
    · simp only [if_neg hNewer]
      cases hPackets : player.playback.packetize frame.payload .pcma with
      | error error =>
          exact ⟨rfl, hGeneration, fun _ hMem => absurd hMem List.not_mem_nil, rfl, rfl⟩
      | ok result =>
          obtain ⟨hAll, hAfter⟩ := generation_packetize hPackets
          exact ⟨rfl, hAfter.trans hGeneration,
            fun packet hMem => (hAll packet hMem).trans hGeneration, rfl, rfl⟩

/-- The packets and the speech keep one count of the generations, and nothing is sent. -/
theorem handle_spec (hGeneration : player.playback.generation = player.playbackGeneration)
    (change : TtsStateChanged) :
    (player.handle change).playback.generation = (player.handle change).playbackGeneration ∧
      (player.handle change).sent = player.sent ∧
      (player.handle change).phase = player.phase := by
  rw [handle]
  dsimp only
  split
  · rw [TtsPlayback.interrupt]
    split
    · exact ⟨hGeneration, rfl, rfl⟩
    · next hInterrupt =>
        split at hInterrupt
        · exact absurd hInterrupt (by simp)
        · obtain rfl := Except.ok.inj hInterrupt
          exact ⟨rfl, rfl, rfl⟩
  · exact ⟨hGeneration, rfl, rfl⟩
  · exact ⟨hGeneration, rfl, rfl⟩

theorem pending_waiting (hPhase : player.phase = .waiting) : player.pending = [] := by
  rw [Player.pending, hPhase]

theorem pending_sending {packets : List PlaybackFrame} (hPhase : player.phase = .sending packets) :
    player.pending = packets := by
  rw [Player.pending, hPhase]

theorem played_finish (hSteady : player.Steady) :
    (player.finish player.pending).played = player.played ++ player.pending := by
  generalize hPackets : player.pending = packets
  induction packets generalizing player with
  | nil => rw [finish, List.append_nil]
  | cons packet rest ih =>
      have hPhase : player.phase = .sending (packet :: rest) := by
        rw [Player.pending] at hPackets
        split at hPackets
        · next hPhase => rw [hPhase, hPackets]
        · exact absurd hPackets (List.cons_ne_nil _ _).symm
      have hStep : player.step running .timer = some
        (player.sendNext running (packet :: rest)) := by
        unfold step
        rw [hPhase]
      obtain ⟨hNext, hPlayed⟩ := sendNext_spec hSteady.generation (hPackets ▸ hSteady.pending)
      have hRest : (player.sendNext running (packet :: rest)).pending = rest := by
        rw [sendNext_cons (hSteady.pending packet (hPackets ▸ List.mem_cons_self))]
        rfl
      rw [finish, hStep]
      dsimp only
      rw [ih hNext hRest, ← hPlayed, hRest]

/-- Only a message that breaks off the speech changes what is due. -/
theorem dueAfter_kept {change : TtsStateChanged} (hConcerns : player.concerns change = false) :
    player.dueAfter due (.control (.ttsStateChanged change)) = due := by
  rw [dueAfter, supersedes, hConcerns]
  rfl

/-- Between two frames. -/
theorem step_waiting (hSteady : player.Steady) (hPhase : player.phase = .waiting)
    (hOpen : input ≠ .closed) (hNext : player.step running input = some next) :
    next.Steady ∧ next.played ++ next.pending = player.dueAfter player.played input := by
  have hStay : player.Steady ∧ player.played ++ player.pending = player.played := by
    refine ⟨hSteady, ?_⟩
    rw [pending_waiting hPhase, List.append_nil]
  unfold step at hNext
  rw [hPhase] at hNext
  cases input with
  | media frame =>
      obtain ⟨hPackets, hGeneration, hAll, hSent, hWaits⟩ := takeUp_spec hSteady.generation frame
      rw [dueAfter]
      cases hTaken : player.takeUp frame with
      | mk packets after =>
          rw [hTaken] at hPackets hGeneration hAll hSent hWaits
          simp only [hTaken] at hNext
          have hPlayed : after.played = player.played := congrArg (List.map Prod.fst) hSent
          cases packets with
          | none =>
              obtain rfl := Option.some.inj hNext
              rw [← hPackets, ← hPlayed, pending_waiting (hWaits.trans hPhase)]
              exact ⟨⟨hGeneration, fun _ hMem => absurd hMem
                (by rw [pending_waiting (hWaits.trans hPhase)]; exact List.not_mem_nil),
                by rw [hWaits, hPhase]; exact Phase.noConfusion⟩, rfl⟩
          | some packets =>
              obtain rfl := Option.some.inj hNext
              have hPackets : packets = player.owed frame := hPackets
              have hNote : ∀ generation, (after.noteStart generation).playback = after.playback ∧
                  (after.noteStart generation).playbackGeneration = after.playbackGeneration ∧
                  (after.noteStart generation).played = after.played := by
                intro generation
                rw [noteStart]
                split
                · exact ⟨rfl, rfl, rfl⟩
                · exact ⟨rfl, rfl, rfl⟩
              obtain ⟨hPlayback, hCount, hNotePlayed⟩ := hNote frame.metadata.generation
              rw [← hPlayed, ← hNotePlayed, ← hPackets]
              apply sendNext_spec
              · rw [hPlayback, hCount]
                exact hGeneration
              · intro packet hMem
                rw [hCount]
                exact hAll packet (hPackets ▸ hMem)
  | control message =>
      cases message with
      | ttsStateChanged change =>
          obtain rfl := Option.some.inj hNext
          split
          · obtain ⟨hGeneration, hSent, hWaits⟩ := handle_spec hSteady.generation change
            have hPlayed : (player.handle change).played = player.played :=
              congrArg (List.map Prod.fst) hSent
            have hNone := pending_waiting (hWaits.trans hPhase)
            rw [hNone, List.append_nil, hPlayed, dueAfter, ite_self]
            exact ⟨⟨hGeneration, fun _ hMem => absurd hMem (by rw [hNone]; exact List.not_mem_nil),
              by rw [hWaits, hPhase]; exact Phase.noConfusion⟩, rfl⟩
          · next hOther =>
              rw [dueAfter_kept (Bool.eq_false_of_not_eq_true hOther)]
              exact hStay
      | _ => exact Option.some.inj hNext ▸ hStay
  | mediaLagged => exact Option.some.inj hNext ▸ hStay
  | controlsLagged => exact Option.some.inj hNext ▸ hStay
  | closed => exact absurd rfl hOpen
  | timer => exact Option.some.inj hNext ▸ hStay

/-- Between two packets of a frame. -/
theorem step_sending {packets : List PlaybackFrame} (hSteady : player.Steady)
    (hPhase : player.phase = .sending packets) (hOpen : input ≠ .closed)
    (hNext : player.step running input = some next) (hCut : ¬ player.CutShort input) :
    next.Steady ∧
      next.played ++ next.pending = player.dueAfter (player.played ++ packets) input := by
  have hPending := pending_sending hPhase
  have hSends := sendNext_spec hSteady.generation (hPending ▸ hSteady.pending)
  unfold step at hNext
  rw [hPhase] at hNext
  cases input with
  | media frame => exact absurd hNext (by simp)
  | control message =>
      cases message with
      | ttsStateChanged change =>
          dsimp only at hNext
          split at hNext
          · next hConcerns =>
              obtain rfl := Option.some.inj hNext
              obtain ⟨hGeneration, hSent, -⟩ := handle_spec hSteady.generation change
              constructor
              · exact ⟨hGeneration, fun _ hMem => absurd hMem List.not_mem_nil, by simp⟩
              · have hPlayed : (player.handle change).played = player.played :=
                  congrArg (List.map Prod.fst) hSent
                refine ((List.append_nil _).trans hPlayed).trans ?_
                rw [dueAfter]
                by_cases hNewer : player.supersedes change = true
                · rw [if_pos hNewer]
                · rw [if_neg hNewer]
                  have hLast : player.pending = [] := by
                    by_contra hLeft
                    exact hCut ⟨hLeft, hConcerns, Bool.eq_false_of_not_eq_true hNewer⟩
                  rw [← hPending, hLast, List.append_nil]
          · next hOther =>
              obtain rfl := Option.some.inj hNext
              rw [dueAfter_kept (Bool.eq_false_of_not_eq_true hOther)]
              exact hSends
      | _ => exact Option.some.inj hNext ▸ hSends
  | mediaLagged => exact absurd hNext (by simp)
  | controlsLagged => exact Option.some.inj hNext ▸ hSends
  | closed => exact absurd rfl hOpen
  | timer => exact Option.some.inj hNext ▸ hSends

/-- What a round does, where it does not cut a frame short. -/
theorem step_spec (hSteady : player.Steady) (hDue : player.played ++ player.pending = due)
    (hOpen : input ≠ .closed) (hNext : player.step running input = some next)
    (hCut : ¬ player.CutShort input) :
    next.Steady ∧ next.played ++ next.pending = player.dueAfter due input := by
  cases hPhase : player.phase with
  | waiting =>
      rw [pending_waiting hPhase, List.append_nil] at hDue
      exact hDue ▸ step_waiting hSteady hPhase hOpen hNext
  | sending packets =>
      rw [pending_sending hPhase] at hDue
      exact hDue ▸ step_sending hSteady hPhase hOpen hNext hCut
  | ended => exact absurd hPhase hSteady.active

/-- A frame that is cut short leaves packets that are due. -/
theorem not_due_of_cutShort (hDue : player.played ++ player.pending = due)
    (hCut : player.CutShort input) :
    ∃ next, player.step running input = some next ∧
      (next.finish next.pending).played ≠ player.dueAfter due input := by
  cases input with
  | control message =>
      cases message with
      | ttsStateChanged change =>
          obtain ⟨hLeft, hConcerns, hSame⟩ := hCut
          cases hPhase : player.phase with
          | sending packets =>
              refine ⟨{ player.handle change with phase := .waiting }, ?_, ?_⟩
              · unfold step
                rw [hPhase]
                exact if_pos hConcerns
              · intro hKept
                have hPlayed : (player.handle change).played = player.played := by
                  rw [handle]
                  dsimp only
                  split
                  · split
                    · rfl
                    · rfl
                  · rfl
                  · rfl
                have hKept : (player.handle change).played = due := by
                  rw [dueAfter, if_neg (by rw [hSame]; exact Bool.false_ne_true)] at hKept
                  exact hKept
                rw [hPlayed, ← hDue] at hKept
                exact hLeft (List.self_eq_append_right.mp hKept)
          | waiting => exact absurd (pending_waiting hPhase) hLeft
          | ended => exact absurd (by rw [Player.pending, hPhase]) hLeft
      | _ => exact hCut.elim
  | media frame => exact hCut.elim
  | mediaLagged => exact hCut.elim
  | controlsLagged => exact hCut.elim
  | closed => exact hCut.elim
  | timer => exact hCut.elim

theorem playsAll_iff {inputs : List Input} (hSteady : player.Steady)
    (hDue : player.played ++ player.pending = due) (hOpen : ∀ input ∈ inputs, input ≠ .closed) :
    player.PlaysAll due inputs ↔ player.NeverCutShort inputs := by
  induction inputs generalizing player due with
  | nil => exact ⟨fun _ => trivial, fun _ => (played_finish hSteady).trans hDue⟩
  | cons input rest ih =>
      have hHead := hOpen input List.mem_cons_self
      have hTail : ∀ other ∈ rest, other ≠ .closed := fun other hMem =>
        hOpen other (List.mem_cons_of_mem _ hMem)
      constructor
      · intro hPlays
        have hCut : ¬ player.CutShort input := by
          intro hCut
          obtain ⟨next, hNext, hLost⟩ := not_due_of_cutShort hDue hCut
          have hLater := hPlays.2 next hNext
          cases rest with
          | nil => exact hLost hLater
          | cons _ _ => exact hLost hLater.1
        refine ⟨hCut, fun next hNext => ?_⟩
        obtain ⟨hNextSteady, hNextDue⟩ := step_spec hSteady hDue hHead hNext hCut
        exact (ih hNextSteady hNextDue hTail).mp (hPlays.2 next hNext)
      · intro hNever
        refine ⟨(played_finish hSteady).trans hDue, fun next hNext => ?_⟩
        obtain ⟨hNextSteady, hNextDue⟩ := step_spec hSteady hDue hHead hNext hNever.1
        exact (ih hNextSteady hNextDue hTail).mpr (hNever.2 next hNext)

end Steps

/-- Over a whole run, the packets that are due are played exactly where no message that concerns the
speech is received between two packets of a frame, other than one that breaks it off for a newer
speech. -/
theorem playsAll_iff_neverCutShort (conversation : JobRef) (player : Player) (inputs : List Input)
    (hStart : start conversation = .ok player) (hOpen : ∀ input ∈ inputs, input ≠ .closed) :
    player.PlaysAll [] inputs ↔ player.NeverCutShort inputs := by
  obtain ⟨hSteady, hDue⟩ := steady_start hStart
  exact playsAll_iff hSteady hDue hOpen

def welcomeConversation : JobRef :=
  { jobId := "job-1", tenantId := "tenant-1", conversationId := "conversation-1"
    operationId := "operation-1", generation := 1 }

/-- Silence that fills one packet and begins another. -/
def twoPackets : MediaFrame where
  metadata :=
    { jobId := "job-1", tenantId := "tenant-1", conversationId := "conversation-1"
      participantId := "agent", streamId := "tts", sequence := 1, generation := 1
      direction := .toParticipant, codec := .pcm16Le, sampleRate := 16000, channels := 1
      mediaTimestamp := 0, durationMs := 20, endOfStream := false }
  payload := List.replicate 644 0

def startedEvent : TtsStateChanged :=
  { conversation := welcomeConversation, generation := 1, state := .started
    sampleRate := some 16000 }

def waitingPlayer : Player :=
  { conversation := welcomeConversation, playback := { generation := 1, timestamp := 0 }
    playbackGeneration := 1 }

theorem playsAll_iff_neverCutShort_welcome :
    start welcomeConversation = .ok waitingPlayer ∧
      (waitingPlayer.PlaysAll [] [.control (.ttsStateChanged startedEvent), .media twoPackets] ↔
        waitingPlayer.NeverCutShort
          [.control (.ttsStateChanged startedEvent), .media twoPackets]) :=
  ⟨rfl, playsAll_iff_neverCutShort welcomeConversation waitingPlayer _ rfl (by simp)⟩

/-- The second packet is not sent where the connector reports the start of the speech while the
first is played. -/
theorem started_cuts_short :
    ∃ player, start welcomeConversation = .ok player ∧
      ¬ player.PlaysAll [] [.media twoPackets, .control (.ttsStateChanged startedEvent)] := by
  refine ⟨waitingPlayer, rfl, fun hPlays => ?_⟩
  have hRun : ((waitingPlayer.step running (.media twoPackets)).bind fun first =>
      (first.step running (.control (.ttsStateChanged startedEvent))).map fun last =>
        decide ((last.finish last.pending).played = [] ++ waitingPlayer.owed twoPackets)) =
      some false := by
    decide +kernel
  obtain ⟨first, hFirst, hRun⟩ := Option.bind_eq_some_iff.mp hRun
  obtain ⟨last, hLast, hLost⟩ := Option.map_eq_some_iff.mp hRun
  have hKept : first.supersedes startedEvent = false := by
    rw [supersedes]
    simp [startedEvent]
  have hPlayed : (last.finish last.pending).played =
      first.dueAfter ([] ++ waitingPlayer.owed twoPackets)
        (.control (.ttsStateChanged startedEvent)) :=
    (hPlays.2 first hFirst).2 last hLast
  rw [dueAfter, hKept] at hPlayed
  exact of_decide_eq_false hLost hPlayed

end Player

end VoipSwitch.Playout
