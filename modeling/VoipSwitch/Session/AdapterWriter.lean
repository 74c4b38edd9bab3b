import VoipSwitch.Lib.Framing
import VoipSwitch.Lib.Transition
import VoipSwitch.Core.Types

/-! The writer of the adapter connection. Requests are written one after the other; after the first
one that fails the writer writes nothing more, tells those that are waiting, and ends. -/
namespace VoipSwitch.AdapterWriter

open Framed (Bytes)
open Framing (be32)
open Transition

def maxFrameLen : Nat := 4 * 1024 * 1024
def adapterActionQueueCapacity : Nat := 50000

/-- What becomes of a request; the sender of the completion may be dropped. -/
inductive Completion where
  | ok
  | err (message : String)
  | dropped
deriving DecidableEq

inductive Status where
  | running
  /-- A write has failed, and the queue is emptied. -/
  | draining (message : String)
  /-- The queue was found empty after a failure; the receiver is still there. -/
  | left
  | closed
deriving DecidableEq

/-- The task of `run_writer` with its queue and its connection. A frame that is being written
stands with the bytes that the connection has not taken. -/
structure Writer (μ : Type) where
  enqueued : List μ := []
  queue : List μ := []
  current : Option (μ × Bytes) := none
  answered : List (μ × Completion) := []
  wire : Bytes := []
  status : Status := .running
  /-- The last sender is gone. -/
  released : Bool := false

inductive Action (μ : Type) where
  | enqueue (frame : μ)
  | release
  | take
  /-- The connection takes some bytes. Flushing a socket does nothing, so a frame is complete with
  its last byte. -/
  | accept (count : Nat)
  | fail
  | timeOut
  | drain
  | leave
  | dropReceiver
  | finish
  /-- The task is aborted by the end of the connection. -/
  | abort

variable {μ : Type}

/-- The steps of the task itself. -/
def Action.isWriters : Action μ → Bool
  | .enqueue _ | .release | .abort => false
  | _ => true

section Model

/-- What `write_json_frame` writes; frames have the texts that `encode` gives them. -/
def frameBytes (encode : μ → Except String Bytes) (frame : μ) : Except String Bytes := do
  let body ← encode frame
  if maxFrameLen < body.length then .error s!"frame too large: {body.length} bytes"
  else .ok (be32 body.length ++ body)

def writeError : String := "write adapter runtime frame"

/-- The time is written as in `{:?}`. -/
def timeOutError (writeTimeout : String) : String :=
  s!"adapter runtime write timed out after {writeTimeout}"

namespace Writer

variable (encode : μ → Except String Bytes) (capacity : Nat) (writeTimeout : String)

/-- The frame that is being written fails. -/
def failWith (message : String) (writer : Writer μ) : Option (Writer μ) :=
  match writer.current with
  | none => none
  | some (frame, _) =>
    some { writer with
      current := none
      answered := writer.answered ++ [(frame, .err message)]
      status := .draining message }

/-- What is left is dropped with the receiver. -/
def dropAll (writer : Writer μ) : Writer μ :=
  { writer with
    queue := []
    current := none
    answered := writer.answered ++ ((writer.current.map Prod.fst).toList ++ writer.queue).map
      fun frame => (frame, .dropped)
    status := .closed }

def step (writer : Writer μ) : Action μ → Option (Writer μ)
  | .enqueue frame =>
    if writer.status ≠ .closed ∧ writer.released = false ∧ writer.queue.length < capacity then
      some { writer with
        enqueued := writer.enqueued ++ [frame], queue := writer.queue ++ [frame] }
    else none
  | .release => some { writer with released := true }
  | .take =>
    match writer.status, writer.current, writer.queue with
    | .running, none, frame :: queue =>
      match frameBytes encode frame with
      | .ok bytes => some { writer with queue, current := some (frame, bytes) }
      | .error _ =>
        some { writer with
          queue
          answered := writer.answered ++ [(frame, .err writeError)]
          status := .draining writeError }
    | _, _, _ => none
  | .accept count =>
    match writer.current with
    | none => none
    | some (frame, bytes) =>
      if count = 0 ∨ bytes.length < count then none
      else if count = bytes.length then
        some { writer with
          wire := writer.wire ++ bytes
          current := none
          answered := writer.answered ++ [(frame, .ok)] }
      else
        some { writer with
          wire := writer.wire ++ bytes.take count
          current := some (frame, bytes.drop count) }
  | .fail => writer.failWith writeError
  | .timeOut => writer.failWith (timeOutError writeTimeout)
  | .drain =>
    match writer.status, writer.queue with
    | .draining message, frame :: queue =>
      some { writer with queue, answered := writer.answered ++ [(frame, .err message)] }
    | _, _ => none
  | .leave =>
    match writer.status, writer.queue with
    | .draining _, [] => some { writer with status := .left }
    | _, _ => none
  | .dropReceiver => if writer.status = .left then some writer.dropAll else none
  | .finish =>
    if writer.status = .running ∧ writer.current.isNone ∧ writer.queue.isEmpty ∧
        writer.released = true then
      some { writer with status := .closed }
    else none
  | .abort => if writer.status = .closed then none else some writer.dropAll

end Writer

def system (encode : μ → Except String Bytes) (capacity : Nat) (writeTimeout : String) :
    System (Writer μ) (Action μ) where
  init writer := writer = {}
  next writer action next := writer.step encode capacity writeTimeout action = some next

end Model

/-- The bytes that were cut off are the beginning of the next frame. -/
def Cut (encode : μ → Except String Bytes) (unsent : List μ) (cut : Bytes) : Prop :=
  cut = [] ∨ ∃ next later rest, unsent = next :: later ∧
    frameBytes encode next = .ok (cut ++ rest) ∧ rest ≠ []

/-- The frames that were sent are on the connection, and what was answered otherwise comes behind
them. -/
structure Account (encode : μ → Except String Bytes) (writer : Writer μ) (sent unsent : List μ)
    (refused : List (μ × Completion)) (cut : Bytes) : Prop where
  enqueued_eq : writer.enqueued = sent ++ unsent
  wire_eq : ∃ parts, sent.mapM (frameBytes encode) = .ok parts ∧
    writer.wire = parts.flatten ++ cut
  answered_eq : writer.answered = sent.map (fun frame => (frame, .ok)) ++ refused
  refused_ne : ∀ entry ∈ refused, entry.2 ≠ .ok
  unsent_eq : unsent =
    refused.map Prod.fst ++ ((writer.current.map Prod.fst).toList ++ writer.queue)
  running : writer.status = .running → refused = [] ∧ (writer.current = none → cut = [])
  current : ∀ frame rest, writer.current = some (frame, rest) →
    writer.status = .running ∧ frameBytes encode frame = .ok (cut ++ rest) ∧ rest ≠ []
  cut : Cut encode unsent cut
  closed : writer.status = .closed → writer.current = none ∧ writer.queue = []

/-- The writer is sound. -/
def Sound (encode : μ → Except String Bytes) (writer : Writer μ) : Prop :=
  ∃ sent unsent refused cut, Account encode writer sent unsent refused cut

variable {encode : μ → Except String Bytes} {capacity : Nat} {writeTimeout : String}
  {writer next : Writer μ} {action : Action μ} {frame : μ} {sent unsent : List μ}
  {refused : List (μ × Completion)} {cut bytes : Bytes}

section Accounts

theorem frameBytes_ne_nil (h : frameBytes encode frame = .ok bytes) : bytes ≠ [] := by
  obtain ⟨body, -, h⟩ := ok_of_bind h
  split at h
  · cases h
  · rw [← Except.ok.inj h]
    intro hNone
    have hLength := congrArg List.length hNone
    rw [List.length_append, Framing.length_be32, List.length_nil] at hLength
    omega

theorem mapM_append_singleton {parts : List Bytes}
    (hParts : sent.mapM (frameBytes encode) = .ok parts)
    (hFrame : frameBytes encode frame = .ok bytes) :
    (sent ++ [frame]).mapM (frameBytes encode) = .ok (parts ++ [bytes]) := by
  rw [List.mapM_append, hParts]
  simp only [List.mapM_cons, List.mapM_nil, hFrame]
  rfl

theorem Cut.append (h : Cut encode unsent cut) (frame : μ) :
    Cut encode (unsent ++ [frame]) cut := by
  rcases h with hNone | ⟨next, later, rest, rfl, hFrame, hRest⟩
  · exact .inl hNone
  · exact .inr ⟨next, later ++ [frame], rest, rfl, hFrame, hRest⟩

theorem sound_start : Sound encode ({} : Writer μ) :=
  ⟨[], [], [], [], rfl, ⟨[], rfl, rfl⟩, rfl, nofun, rfl, fun _ => ⟨rfl, fun _ => rfl⟩, nofun,
    .inl rfl, nofun⟩

theorem Account.enqueue (h : Account encode writer sent unsent refused cut) (frame : μ)
    (hOpen : writer.status ≠ .closed) :
    Account encode { writer with
      enqueued := writer.enqueued ++ [frame], queue := writer.queue ++ [frame] }
      sent (unsent ++ [frame]) refused cut where
  enqueued_eq := by rw [h.enqueued_eq, List.append_assoc]
  wire_eq := h.wire_eq
  answered_eq := h.answered_eq
  refused_ne := h.refused_ne
  unsent_eq := by rw [h.unsent_eq, List.append_assoc, List.append_assoc]
  running := h.running
  current := h.current
  cut := h.cut.append frame
  closed hClosed := absurd hClosed hOpen

/-- The writer begins with a frame. -/
theorem Account.take (h : Account encode writer sent unsent refused cut) {queue : List μ}
    (hRunning : writer.status = .running) (hIdle : writer.current = none)
    (hQueue : writer.queue = frame :: queue) (hFrame : frameBytes encode frame = .ok bytes) :
    Account encode { writer with queue, current := some (frame, bytes) } sent unsent refused
      cut where
  enqueued_eq := h.enqueued_eq
  wire_eq := h.wire_eq
  answered_eq := h.answered_eq
  refused_ne := h.refused_ne
  unsent_eq := by
    rw [h.unsent_eq, hIdle, hQueue]
    rfl
  running _ := ⟨(h.running hRunning).1, nofun⟩
  current other rest hCurrent := by
    obtain ⟨rfl, rfl⟩ := Prod.mk.inj (Option.some.inj hCurrent)
    rw [(h.running hRunning).2 hIdle]
    exact ⟨hRunning, hFrame, frameBytes_ne_nil hFrame⟩
  cut := h.cut
  closed hClosed := by
    rw [hRunning] at hClosed
    cases hClosed

/-- A frame is complete. -/
theorem Account.complete (h : Account encode writer sent unsent refused cut)
    (hCurrent : writer.current = some (frame, bytes)) :
    Account encode { writer with
      wire := writer.wire ++ bytes
      current := none
      answered := writer.answered ++ [(frame, .ok)] } (sent ++ [frame]) writer.queue [] [] where
  enqueued_eq := by
    have hRefused := (h.running (h.current _ _ hCurrent).1).1
    rw [h.enqueued_eq, h.unsent_eq, hRefused, hCurrent, List.append_assoc]
    rfl
  wire_eq := by
    obtain ⟨-, hFrame, -⟩ := h.current _ _ hCurrent
    obtain ⟨parts, hParts, hWire⟩ := h.wire_eq
    refine ⟨parts ++ [cut ++ bytes], mapM_append_singleton hParts hFrame, ?_⟩
    rw [hWire, List.flatten_append, List.flatten_singleton, List.append_nil, List.append_assoc]
  answered_eq := by
    have hRefused := (h.running (h.current _ _ hCurrent).1).1
    rw [h.answered_eq, hRefused, List.map_append, List.append_nil, List.append_nil]
    rfl
  refused_ne := nofun
  unsent_eq := rfl
  running _ := ⟨rfl, fun _ => rfl⟩
  current := nofun
  cut := .inl rfl
  closed hClosed := by
    rw [(h.current _ _ hCurrent).1] at hClosed
    cases hClosed

/-- A part of a frame has been taken. -/
theorem Account.accept (h : Account encode writer sent unsent refused cut) {count : Nat}
    (hCurrent : writer.current = some (frame, bytes)) (hCount : count < bytes.length) :
    Account encode { writer with
      wire := writer.wire ++ bytes.take count
      current := some (frame, bytes.drop count) } sent unsent refused
      (cut ++ bytes.take count) := by
  obtain ⟨hRunning, hFrame, -⟩ := h.current _ _ hCurrent
  have hRest : bytes.drop count ≠ [] := by
    intro hNone
    rw [List.drop_eq_nil_iff] at hNone
    omega
  have hWhole : frameBytes encode frame = .ok (cut ++ bytes.take count ++ bytes.drop count) := by
    rw [List.append_assoc, List.take_append_drop]
    exact hFrame
  have hUnsent := h.unsent_eq
  rw [(h.running hRunning).1, hCurrent] at hUnsent
  exact {
    enqueued_eq := h.enqueued_eq
    wire_eq := by
      obtain ⟨parts, hParts, hWire⟩ := h.wire_eq
      exact ⟨parts, hParts, by rw [hWire, List.append_assoc]⟩
    answered_eq := h.answered_eq
    refused_ne := h.refused_ne
    unsent_eq := by
      rw [(h.running hRunning).1]
      exact hUnsent
    running := fun _ => ⟨(h.running hRunning).1, nofun⟩
    current := fun other rest hOther => by
      obtain ⟨rfl, rfl⟩ := Prod.mk.inj (Option.some.inj hOther)
      exact ⟨hRunning, hWhole, hRest⟩
    cut := .inr ⟨frame, writer.queue, bytes.drop count, hUnsent, hWhole, hRest⟩
    closed := fun hClosed => by
      rw [hRunning] at hClosed
      cases hClosed }

/-- Requests are answered without being written. -/
theorem Account.refuse (h : Account encode writer sent unsent refused cut)
    (answers : List (μ × Completion)) (queue : List μ) (status : Status)
    (hAnswers : ∀ entry ∈ answers, entry.2 ≠ .ok)
    (hOrder : answers.map Prod.fst ++ queue =
      (writer.current.map Prod.fst).toList ++ writer.queue)
    (hStatus : status ≠ .running) (hClosed : status = .closed → queue = []) :
    Account encode { writer with
      queue, current := none, answered := writer.answered ++ answers, status }
      sent unsent (refused ++ answers) cut where
  enqueued_eq := h.enqueued_eq
  wire_eq := h.wire_eq
  answered_eq := by rw [h.answered_eq, List.append_assoc]
  refused_ne entry hMem := by
    rcases List.mem_append.mp hMem with hOld | hNew
    · exact h.refused_ne entry hOld
    · exact hAnswers entry hNew
  unsent_eq := by
    rw [h.unsent_eq, ← hOrder, List.map_append, List.append_assoc]
    rfl
  running hRunning := absurd hRunning hStatus
  current := nofun
  cut := h.cut
  closed hOver := ⟨rfl, hClosed hOver⟩

/-- How far the task is from its end. -/
def Status.rank : Status → Nat
  | .running => 3
  | .draining _ => 2
  | .left => 1
  | .closed => 0

/-- What a step does: it adds a request, goes on with a frame, completes it, or answers requests
that are not written. -/
inductive Moved (encode : μ → Except String Bytes) (writer : Writer μ) : Action μ → Writer μ → Prop
  | enqueue (frame : μ) (hOpen : writer.status ≠ .closed) :
      Moved encode writer (.enqueue frame) { writer with
        enqueued := writer.enqueued ++ [frame], queue := writer.queue ++ [frame] }
  | release : Moved encode writer .release { writer with released := true }
  | take {frame : μ} {queue : List μ} {bytes : Bytes} (hRunning : writer.status = .running)
      (hIdle : writer.current = none) (hQueue : writer.queue = frame :: queue)
      (hFrame : frameBytes encode frame = .ok bytes) :
      Moved encode writer .take { writer with queue, current := some (frame, bytes) }
  | accept {frame : μ} {bytes : Bytes} {count : Nat}
      (hCurrent : writer.current = some (frame, bytes)) (hSome : 0 < count)
      (hCount : count < bytes.length) :
      Moved encode writer (.accept count) { writer with
        wire := writer.wire ++ bytes.take count, current := some (frame, bytes.drop count) }
  | complete {frame : μ} {bytes : Bytes} {count : Nat}
      (hCurrent : writer.current = some (frame, bytes)) :
      Moved encode writer (.accept count) { writer with
        wire := writer.wire ++ bytes
        current := none
        answered := writer.answered ++ [(frame, .ok)] }
  | refuse {action : Action μ} (answers : List (μ × Completion)) (queue : List μ)
      (status : Status) (hAnswers : ∀ entry ∈ answers, entry.2 ≠ .ok)
      (hOrder : answers.map Prod.fst ++ queue =
        (writer.current.map Prod.fst).toList ++ writer.queue)
      (hStatus : status ≠ .running) (hClosed : status = .closed → queue = [])
      (hQueue : queue <:+ writer.queue) (hRank : status.rank ≤ writer.status.rank)
      (hLess : status.rank < writer.status.rank ∨ queue.length < writer.queue.length) :
      Moved encode writer action { writer with
        queue, current := none, answered := writer.answered ++ answers, status }

theorem Account.idle (h : Account encode writer sent unsent refused cut)
    (hStopped : writer.status ≠ .running) : writer.current = none := by
  cases hCurrent : writer.current with
  | none => rfl
  | some entry => exact absurd (h.current _ _ hCurrent).1 hStopped

theorem Account.failWith (h : Account encode writer sent unsent refused cut) {message : String}
    (hStep : writer.failWith message = some next) : Moved encode writer action next := by
  rw [Writer.failWith] at hStep
  split at hStep
  · cases hStep
  · next frame rest hCurrent =>
      rw [← Option.some.inj hStep]
      have hRunning := (h.current _ _ hCurrent).1
      apply Moved.refuse [(frame, .err message)] writer.queue (.draining message)
      · simp
      · rw [hCurrent]
        rfl
      · nofun
      · nofun
      · exact List.suffix_rfl
      · rw [hRunning]
        exact Nat.le_succ 2
      · left
        rw [hRunning]
        exact Nat.lt_succ_self 2

theorem moved_dropAll (hOpen : writer.status ≠ .closed) :
    Moved encode writer action writer.dropAll := by
  apply Moved.refuse _ [] .closed
  · intro entry hMem
    obtain ⟨frame, -, rfl⟩ := List.mem_map.mp hMem
    nofun
  · simp [Function.comp_def]
  · nofun
  · exact fun _ => rfl
  · exact List.nil_suffix
  · exact Nat.zero_le _
  · left
    cases hStatus : writer.status with
    | closed => exact absurd hStatus hOpen
    | running => decide
    | draining message => exact Nat.zero_lt_succ _
    | left => decide

/-- A step that leaves the requests as they are and comes nearer to the end. -/
theorem moved_settle {status : Status} (hIdle : writer.current = none) (hStatus : status ≠ .running)
    (hClosed : status = .closed → writer.queue = [])
    (hRank : status.rank < writer.status.rank) :
    Moved encode writer action { writer with status } := by
  have hSettle := @Moved.refuse _ encode writer action [] writer.queue status nofun
    (by rw [hIdle]; rfl) hStatus hClosed List.suffix_rfl (Nat.le_of_lt hRank) (.inl hRank)
  rw [List.append_nil, ← hIdle] at hSettle
  exact hSettle

/-- The writer takes up a frame, or refuses one that is too long. -/
theorem moved_take (hStep : writer.step encode capacity writeTimeout .take = some next) :
    Moved encode writer .take next := by
  rw [Writer.step] at hStep
  split at hStep
  · next frame queue hRunning hIdle hQueue =>
      split at hStep
      · next bytes hFrame =>
          rw [← Option.some.inj hStep]
          exact .take hRunning hIdle hQueue hFrame
      · rw [← Option.some.inj hStep]
        have hRefuse := @Moved.refuse _ encode writer .take [(frame, .err writeError)] queue
          (.draining writeError) (by simp) (by rw [hIdle, hQueue]; rfl) nofun nofun
          (by rw [hQueue]; exact List.suffix_cons _ _) (by rw [hRunning]; decide)
          (.inr (by rw [hQueue, List.length_cons]; omega))
        rw [← hIdle] at hRefuse
        exact hRefuse
  · cases hStep

theorem moved_accept {count : Nat}
    (hStep : writer.step encode capacity writeTimeout (.accept count) = some next) :
    Moved encode writer (.accept count) next := by
  rw [Writer.step] at hStep
  split at hStep
  · cases hStep
  · next frame bytes hCurrent =>
      split at hStep
      · cases hStep
      · next hCount =>
          rw [not_or, Nat.not_lt] at hCount
          split at hStep
          · rw [← Option.some.inj hStep]
            exact .complete hCurrent
          · rw [← Option.some.inj hStep]
            exact .accept hCurrent (by omega) (by omega)

/-- A writer that failed refuses what is left in its queue, one frame after the other. -/
theorem Account.moved_drain (h : Account encode writer sent unsent refused cut)
    (hStep : writer.step encode capacity writeTimeout .drain = some next) :
    Moved encode writer .drain next := by
  rw [Writer.step] at hStep
  split at hStep
  · next message frame queue hStatus hQueue =>
      rw [← Option.some.inj hStep]
      have hIdle := h.idle (by rw [hStatus]; nofun)
      have hRefuse := @Moved.refuse _ encode writer .drain [(frame, .err message)] queue
        writer.status (by simp) (by rw [hIdle, hQueue]; rfl) (by rw [hStatus]; nofun)
        (by rw [hStatus]; nofun) (by rw [hQueue]; exact List.suffix_cons _ _) (Nat.le_refl _)
        (.inr (by rw [hQueue, List.length_cons]; omega))
      rw [← hIdle] at hRefuse
      exact hRefuse
  · cases hStep

/-- What the steps of a sound writer do. -/
theorem Account.moved (h : Account encode writer sent unsent refused cut)
    (hStep : writer.step encode capacity writeTimeout action = some next) :
    Moved encode writer action next := by
  cases action with
  | enqueue frame =>
      rw [Writer.step] at hStep
      split at hStep
      · next hOpen =>
          rw [← Option.some.inj hStep]
          exact .enqueue frame hOpen.1
      · cases hStep
  | release =>
      rw [Writer.step] at hStep
      rw [← Option.some.inj hStep]
      exact .release
  | take => exact moved_take hStep
  | accept count => exact moved_accept hStep
  | fail => exact h.failWith hStep
  | timeOut => exact h.failWith hStep
  | drain => exact h.moved_drain hStep
  | leave =>
      rw [Writer.step] at hStep
      split at hStep
      · next message hStatus hQueue =>
          rw [← Option.some.inj hStep]
          exact moved_settle (h.idle (by rw [hStatus]; nofun)) nofun nofun
            (by rw [hStatus]; exact Nat.lt_succ_self 1)
      · cases hStep
  | dropReceiver =>
      rw [Writer.step] at hStep
      split at hStep
      · next hLeft =>
          rw [← Option.some.inj hStep]
          exact moved_dropAll (by rw [hLeft]; nofun)
      · cases hStep
  | finish =>
      rw [Writer.step] at hStep
      split at hStep
      · next hDone =>
          rw [← Option.some.inj hStep]
          obtain ⟨hRunning, hIdle, hQueue, -⟩ := hDone
          exact moved_settle (Option.isNone_iff_eq_none.mp hIdle) nofun
            (fun _ => List.isEmpty_iff.mp hQueue) (by rw [hRunning]; decide)
      · cases hStep
  | abort =>
      rw [Writer.step] at hStep
      split at hStep
      · cases hStep
      · next hOpen =>
          rw [← Option.some.inj hStep]
          exact moved_dropAll hOpen

theorem Sound.moved (h : Sound encode writer)
    (hStep : writer.step encode capacity writeTimeout action = some next) :
    Moved encode writer action next := by
  obtain ⟨sent, unsent, refused, cut, h⟩ := h
  exact h.moved hStep

/-- Every step of the writer keeps its account. -/
theorem Sound.step (h : Sound encode writer) (hMoved : Moved encode writer action next) :
    Sound encode next := by
  obtain ⟨sent, unsent, refused, cut, h⟩ := h
  cases hMoved with
  | enqueue frame hOpen => exact ⟨_, _, _, _, h.enqueue frame hOpen⟩
  | release => exact ⟨_, _, _, _, h.1, h.2, h.3, h.4, h.5, h.6, h.7, h.8, h.9⟩
  | take hRunning hIdle hQueue hFrame =>
      exact ⟨_, _, _, _, h.take hRunning hIdle hQueue hFrame⟩
  | accept hCurrent _ hCount => exact ⟨_, _, _, _, h.accept hCurrent hCount⟩
  | complete hCurrent => exact ⟨_, _, _, _, h.complete hCurrent⟩
  | refuse answers queue status hAnswers hOrder hStatus hClosed =>
      exact ⟨_, _, _, _, h.refuse answers queue status hAnswers hOrder hStatus hClosed⟩

theorem sound_of_reachable (h : Reachable (system encode capacity writeTimeout) writer) :
    Sound encode writer := by
  apply h.invariant
  · rintro start rfl
    exact sound_start
  · intro start action next hSound hNext
    exact hSound.step (hSound.moved hNext)

end Accounts

section Completions

theorem mapM_append_ok {left right : List μ} {parts : List Bytes}
    (h : (left ++ right).mapM (frameBytes encode) = .ok parts) :
    ∃ first second, left.mapM (frameBytes encode) = .ok first ∧
      right.mapM (frameBytes encode) = .ok second ∧ parts = first ++ second := by
  rw [List.mapM_append] at h
  obtain ⟨first, hFirst, h⟩ := ok_of_bind h
  obtain ⟨second, hSecond, h⟩ := ok_of_bind h
  exact ⟨first, second, hFirst, hSecond, (Except.ok.inj h).symm⟩

/-- The first frames are on the connection, whole. -/
def Complete (encode : μ → Except String Bytes) (writer : Writer μ) (count : Nat) : Prop :=
  ∃ parts, (writer.enqueued.take count).mapM (frameBytes encode) = .ok parts ∧
    parts.flatten <+: writer.wire

theorem Account.complete_of_le (h : Account encode writer sent unsent refused cut) {count : Nat}
    (hCount : count ≤ sent.length) : Complete encode writer count := by
  obtain ⟨parts, hParts, hWire⟩ := h.wire_eq
  have hSplit : sent = sent.take count ++ sent.drop count := (List.take_append_drop _ _).symm
  rw [hSplit] at hParts
  obtain ⟨first, second, hFirst, -, rfl⟩ := mapM_append_ok hParts
  refine ⟨first, ?_, ?_⟩
  · rw [h.enqueued_eq, List.take_append_of_le_length hCount]
    exact hFirst
  · rw [hWire, List.flatten_append, List.append_assoc]
    exact List.prefix_append _ _

/-- The frame behind the sent ones is not whole on the connection. -/
theorem Account.le_of_complete (h : Account encode writer sent unsent refused cut) {count : Nat}
    (hEnqueued : count ≤ writer.enqueued.length) (hComplete : Complete encode writer count) :
    count ≤ sent.length := by
  by_contra hMore
  obtain ⟨parts, hParts, hWire⟩ := h.wire_eq
  obtain ⟨all, hAll, hOn⟩ := hComplete
  rw [h.enqueued_eq, List.length_append] at hEnqueued
  cases hUnsent : unsent with
  | nil =>
      rw [hUnsent, List.length_nil] at hEnqueued
      omega
  | cons next later =>
      have hTake : writer.enqueued.take count =
          sent ++ (next :: later.take (count - sent.length - 1)) := by
        rw [h.enqueued_eq, List.take_append, List.take_of_length_le (by omega), hUnsent,
          List.take_cons (by omega)]
      rw [hTake] at hAll
      obtain ⟨first, second, hFirst, hSecond, rfl⟩ := mapM_append_ok hAll
      obtain rfl := Except.ok.inj (hFirst.symm.trans hParts)
      rw [List.mapM_cons] at hSecond
      obtain ⟨bytes, hBytes, hSecond⟩ := ok_of_bind hSecond
      obtain ⟨others, -, hSecond⟩ := ok_of_bind hSecond
      obtain rfl := Except.ok.inj hSecond
      have hLength := hOn.length_le
      rw [hWire, List.flatten_append, List.flatten_cons, List.length_append, List.length_append,
        List.length_append] at hLength
      have hLonger : cut.length < bytes.length := by
        rcases h.cut with rfl | ⟨other, rest', rest, hSame, hFrame, hRest⟩
        · exact List.length_pos_iff.mpr (frameBytes_ne_nil hBytes)
        · rw [hUnsent] at hSame
          obtain ⟨rfl, rfl⟩ := List.cons.inj hSame
          obtain rfl := Except.ok.inj (hBytes.symm.trans hFrame)
          rw [List.length_append]
          have hPositive := List.length_pos_iff.mpr hRest
          omega
      omega

/-- A completion is a success exactly if the frames up to this one are whole on the connection. -/
theorem Account.ok_iff (h : Account encode writer sent unsent refused cut) {i : Nat}
    (hFrame : writer.enqueued[i]? = some frame) :
    writer.answered[i]? = some (frame, .ok) ↔ Complete encode writer (i + 1) := by
  obtain ⟨hBound, hGet⟩ := List.getElem?_eq_some_iff.mp hFrame
  constructor
  · intro hAnswered
    apply h.complete_of_le
    by_contra hBehind
    rw [h.answered_eq, List.getElem?_append_right (by rw [List.length_map]; omega)] at hAnswered
    exact h.refused_ne _ (List.mem_of_getElem? hAnswered) rfl
  · intro hComplete
    have hSent := h.le_of_complete hBound hComplete
    rw [h.enqueued_eq, List.getElem?_append_left (by omega)] at hFrame
    rw [h.answered_eq, List.getElem?_append_left (by rw [List.length_map]; omega),
      List.getElem?_map, hFrame]
    rfl

/-- Without running the writer writes nothing, and it does not run again. -/
theorem Sound.frozen (h : Sound encode writer) (hStopped : writer.status ≠ .running)
    (hMoved : Moved encode writer action next) :
    next.wire = writer.wire ∧ next.status ≠ .running := by
  obtain ⟨sent, unsent, refused, cut, h⟩ := h
  cases hMoved with
  | enqueue => exact ⟨rfl, hStopped⟩
  | release => exact ⟨rfl, hStopped⟩
  | take hRunning => exact absurd hRunning hStopped
  | accept hCurrent => exact absurd (h.current _ _ hCurrent).1 hStopped
  | complete hCurrent => exact absurd (h.current _ _ hCurrent).1 hStopped
  | refuse answers queue status hAnswers hOrder hStatus => exact ⟨rfl, hStatus⟩

theorem Sound.frozen_run (h : Sound encode writer) (hStopped : writer.status ≠ .running)
    (hRun : Runs (system encode capacity writeTimeout) writer next) :
    next.wire = writer.wire := by
  have hAll : Sound encode next ∧ next.status ≠ .running ∧ next.wire = writer.wire := by
    apply hRun.invariant ⟨h, hStopped, rfl⟩
    intro start action after hBefore _ hNext
    obtain ⟨hSound, hStatus, hWire⟩ := hBefore
    have hMoved := hSound.moved hNext
    obtain ⟨hSame, hStill⟩ := hSound.frozen hStatus hMoved
    exact ⟨hSound.step hMoved, hStill, hSame.trans hWire⟩
  exact hAll.2.2

/-- Answers are final. -/
theorem answered_prefix_of_moved (hMoved : Moved encode writer action next) :
    writer.answered <+: next.answered := by
  cases hMoved with
  | enqueue => exact List.prefix_rfl
  | release => exact List.prefix_rfl
  | take => exact List.prefix_rfl
  | accept => exact List.prefix_rfl
  | complete => exact List.prefix_append _ _
  | refuse => exact List.prefix_append _ _

theorem Sound.answered_prefix (h : Sound encode writer)
    (hRun : Runs (system encode capacity writeTimeout) writer next) :
    writer.answered <+: next.answered := by
  have hAll : Sound encode next ∧ writer.answered <+: next.answered := by
    apply hRun.invariant ⟨h, List.prefix_rfl⟩
    intro start action after hBefore _ hNext
    have hMoved := hBefore.1.moved hNext
    exact ⟨hBefore.1.step hMoved, hBefore.2.trans (answered_prefix_of_moved hMoved)⟩
  exact hAll.2

end Completions

section Progress

/-- A request has no answer yet. -/
def Writer.Pending (writer : Writer μ) : Prop := writer.current ≠ none ∨ writer.queue ≠ []

def frameSize (encode : μ → Except String Bytes) (frame : μ) : Nat :=
  match frameBytes encode frame with
  | .ok bytes => bytes.length
  | .error _ => 0

/-- What the task has to do before it ends, if nothing more is enqueued. -/
def Writer.work (encode : μ → Except String Bytes) (writer : Writer μ) : Nat :=
  (writer.queue.map fun frame => frameSize encode frame + 2).sum +
    (match writer.current with
    | none => 0
    | some (_, rest) => rest.length + 1) + writer.status.rank

theorem sum_le_of_suffix {left right : List μ} (weight : μ → Nat) (h : left <:+ right) :
    (left.map weight).sum ≤ (right.map weight).sum := by
  obtain ⟨before, rfl⟩ := h
  rw [List.map_append, List.sum_append]
  exact Nat.le_add_left _ _

theorem sum_lt_of_suffix {left right : List μ} (weight : μ → Nat) (hWeight : ∀ x, 0 < weight x)
    (h : left <:+ right) (hLess : left.length < right.length) :
    (left.map weight).sum < (right.map weight).sum := by
  obtain ⟨before, rfl⟩ := h
  cases before with
  | nil => exact absurd hLess (Nat.lt_irrefl _)
  | cons first before =>
      have hFirst := hWeight first
      rw [List.map_append, List.sum_append, List.map_cons, List.sum_cons]
      omega

/-- The task's own steps lead to its end. -/
theorem work_lt_of_moved (hOwn : action.isWriters = true)
    (hMoved : Moved encode writer action next) : next.work encode < writer.work encode := by
  cases hMoved with
  | enqueue => cases hOwn
  | release => cases hOwn
  | take hRunning hIdle hQueue hFrame =>
      simp only [Writer.work, hIdle, hQueue, List.map_cons, List.sum_cons, frameSize, hFrame]
      omega
  | accept hCurrent hSome hCount =>
      simp only [Writer.work, hCurrent, List.length_drop]
      omega
  | complete hCurrent =>
      simp only [Writer.work, hCurrent]
      omega
  | refuse answers queue status hAnswers hOrder hStatus hClosed hQueue hRank hLess =>
      have hSum := sum_le_of_suffix (fun frame => frameSize encode frame + 2) hQueue
      simp only [Writer.work]
      rcases hLess with hLess | hLess
      · omega
      · have hShorter := sum_lt_of_suffix (fun frame => frameSize encode frame + 2)
          (fun _ => Nat.succ_pos _) hQueue hLess
        omega

/-- While a request is pending, the task has a step to take. -/
theorem Account.progress (h : Account encode writer sent unsent refused cut)
    (hPending : writer.Pending) :
    ∃ action, action.isWriters = true ∧
      (writer.step encode capacity writeTimeout action).isSome = true := by
  cases hCurrent : writer.current with
  | some entry =>
      refine ⟨.fail, rfl, ?_⟩
      rw [Writer.step, Writer.failWith, hCurrent]
      rfl
  | none =>
      have hQueue : writer.queue ≠ [] := hPending.resolve_left (not_not.mpr hCurrent)
      obtain ⟨frame, queue, hFirst⟩ := List.exists_cons_of_ne_nil hQueue
      cases hStatus : writer.status with
      | running =>
          refine ⟨.take, rfl, ?_⟩
          rw [Writer.step, hStatus, hCurrent, hFirst]
          simp only
          split
          · rfl
          · rfl
      | draining message =>
          refine ⟨.drain, rfl, ?_⟩
          rw [Writer.step, hStatus, hFirst]
          rfl
      | left =>
          refine ⟨.dropReceiver, rfl, ?_⟩
          rw [Writer.step, if_pos hStatus]
          rfl
      | closed => exact absurd (h.closed hStatus).2 hQueue

end Progress

/-- What holds in a state of a writer. -/
structure Settles (encode : μ → Except String Bytes) (capacity : Nat) (writeTimeout : String)
    (writer : Writer μ) : Prop where
  /-- A completion is a success exactly if the frames up to this one are on the connection. -/
  ok_iff : ∀ i frame, writer.enqueued[i]? = some frame →
    (writer.answered[i]? = some (frame, .ok) ↔ Complete encode writer (i + 1))
  /-- The connection has the first frames and at most the beginning of the next one. -/
  wire_eq : ∃ count parts cut, (writer.enqueued.take count).mapM (frameBytes encode) = .ok parts ∧
    writer.wire = parts.flatten ++ cut ∧ Cut encode (writer.enqueued.drop count) cut
  /-- After a failure nothing is written. -/
  frozen : (∃ entry ∈ writer.answered, entry.2 ≠ .ok) → ∀ next,
    Runs (system encode capacity writeTimeout) writer next → next.wire = writer.wire
  /-- Requests are answered in their order and once, and none is pending when the task has
  ended. -/
  in_order : writer.answered.map Prod.fst <+: writer.enqueued
  final : ∀ next, Runs (system encode capacity writeTimeout) writer next →
    writer.answered <+: next.answered
  all_answered : ¬ writer.Pending → writer.answered.map Prod.fst = writer.enqueued
  ended : writer.status = .closed → ¬ writer.Pending
  /-- The answers come: there is always a step towards them, and there are not many. -/
  progress : writer.Pending → ∃ action, action.isWriters = true ∧
    (writer.step encode capacity writeTimeout action).isSome = true
  work_lt : ∀ action next, action.isWriters = true →
    writer.step encode capacity writeTimeout action = some next →
      next.work encode < writer.work encode

/-- Whatever is enqueued and whatever becomes of the writes, the completions tell what is on the
connection. -/
theorem settles_of_reachable (encode : μ → Except String Bytes) (capacity : Nat)
    (writeTimeout : String) (writer : Writer μ)
    (h : Reachable (system encode capacity writeTimeout) writer) :
    Settles encode capacity writeTimeout writer := by
  have hSound := sound_of_reachable h
  have ⟨sent, unsent, refused, cut, hAccount⟩ := hSound
  have hAnswered : writer.answered.map Prod.fst = sent ++ refused.map Prod.fst := by
    rw [hAccount.answered_eq, List.map_append, List.map_map]
    simp [Function.comp_def]
  constructor
  · exact fun i frame hFrame => hAccount.ok_iff hFrame
  · obtain ⟨parts, hParts, hWire⟩ := hAccount.wire_eq
    refine ⟨sent.length, parts, cut, ?_, hWire, ?_⟩
    · rw [hAccount.enqueued_eq, List.take_left' rfl]
      exact hParts
    · rw [hAccount.enqueued_eq, List.drop_left' rfl]
      exact hAccount.cut
  · intro hFailed next hRun
    apply hSound.frozen_run _ hRun
    intro hRunning
    obtain ⟨entry, hMem, hNot⟩ := hFailed
    rw [hAccount.answered_eq, (hAccount.running hRunning).1, List.append_nil] at hMem
    obtain ⟨frame, -, rfl⟩ := List.mem_map.mp hMem
    exact hNot rfl
  · rw [hAnswered, hAccount.enqueued_eq, hAccount.unsent_eq, ← List.append_assoc]
    exact List.prefix_append _ _
  · exact fun next hRun => hSound.answered_prefix hRun
  · intro hIdle
    rw [Writer.Pending, not_or, not_not, not_not] at hIdle
    rw [hAnswered, hAccount.enqueued_eq, hAccount.unsent_eq, hIdle.1, hIdle.2]
    simp
  · intro hClosed hPending
    obtain ⟨hCurrent, hQueue⟩ := hAccount.closed hClosed
    exact hPending.elim (· hCurrent) (· hQueue)
  · exact fun hPending => hAccount.progress hPending
  · exact fun action next hOwn hStep => work_lt_of_moved hOwn (hSound.moved hStep)

/-- Three requests: one is written, one is cut off by the time limit, one is drained. -/
def cutOff : List (Action Bytes) :=
  [.enqueue [1], .enqueue [2], .enqueue [3], .take, .accept 2, .accept 3, .take, .accept 4,
    .timeOut, .drain, .leave, .dropReceiver]

/-- The connection stands still in the middle of the second frame. -/
theorem settles_of_reachable_cutOff :
    ∃ writer : Writer Bytes, writer.enqueued = [[1], [2], [3]] ∧
      writer.wire = [0, 0, 0, 1, 1, 0, 0, 0, 1] ∧
      writer.answered = [([1], .ok), ([2], .err (timeOutError "5s")),
        ([3], .err (timeOutError "5s"))] ∧
      Settles .ok adapterActionQueueCapacity "5s" writer := by
  have hRun : (cutOff.foldlM (Writer.step .ok adapterActionQueueCapacity "5s") {}).any
      (fun writer => writer.enqueued = [[1], [2], [3]] &&
        writer.wire = [0, 0, 0, 1, 1, 0, 0, 0, 1] &&
        writer.answered = [([1], .ok), ([2], .err (timeOutError "5s")),
          ([3], .err (timeOutError "5s"))]) = true := by
    decide
  obtain ⟨writer, hEnd, hState⟩ := (Option.any_eq_true ..).mp hRun
  simp only [Bool.and_eq_true, decide_eq_true_eq] at hState
  obtain ⟨⟨hEnqueued, hWire⟩, hAnswered⟩ := hState
  have hReached : Reachable (system .ok adapterActionQueueCapacity "5s") writer :=
    ⟨{}, rfl, runsWithin_of_foldlM (fun _ _ _ hStep => ⟨trivial, hStep⟩) hEnd⟩
  exact ⟨writer, hEnqueued, hWire, hAnswered,
    settles_of_reachable .ok adapterActionQueueCapacity "5s" writer hReached⟩

end VoipSwitch.AdapterWriter
