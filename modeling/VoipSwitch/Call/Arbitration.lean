import VoipSwitch.Call.Dtmf
import VoipSwitch.Lib.Recall

/-! Arbitration over whole sequences of digits. The lock settles on one transport and moves
on to newer generations only; within a generation an event is taken again only after the
window of remembered events has passed over it. -/
namespace VoipSwitch

open Recall (Memory)

/-- The transport that a lock is for. -/
inductive DtmfSourceFamily where
  | rfc4733
  | sipInfo
deriving DecidableEq

namespace DtmfSourceLock

def family : DtmfSourceLock → Option DtmfSourceFamily
  | .unset => none
  | .rfc4733 _ => some .rfc4733
  | .sipInfo _ => some .sipInfo

def generation : DtmfSourceLock → Nat
  | .unset => 0
  | .rfc4733 mediaGeneration => mediaGeneration
  | .sipInfo dialogGeneration => dialogGeneration

/-- Once set, a lock keeps its transport and does not go back to an older generation. -/
def Advances (before after : DtmfSourceLock) : Prop :=
  before.family = none ∨
    (after.family = before.family ∧ before.generation ≤ after.generation)

variable {a b c : DtmfSourceLock}

theorem Advances.refl (a : DtmfSourceLock) : a.Advances a := by
  right
  exact ⟨rfl, Nat.le_refl _⟩

theorem Advances.trans (first : a.Advances b) (second : b.Advances c) : a.Advances c := by
  rcases first with hUnset | ⟨hFamily, hLe⟩
  · exact .inl hUnset
  · rcases second with hUnset | ⟨hFamily', hLe'⟩
    · left
      rw [← hFamily, hUnset]
    · right
      exact ⟨hFamily'.trans hFamily, hLe.trans hLe'⟩

end DtmfSourceLock

theorem generationOrder_current {lock candidate : DtmfSourceLock}
    (h : generationOrder lock candidate = .current) : candidate = lock := by
  cases lock <;> cases candidate <;>
    simp only [generationOrder, compareGeneration, reduceCtorEq] at h
  all_goals
    split at h
    · cases h
    · split at h
      · next hSame => rw [hSame]
      · cases h

theorem generationOrder_newer {lock candidate : DtmfSourceLock}
    (h : generationOrder lock candidate = .newer) :
    candidate.family = lock.family ∧ lock.generation < candidate.generation := by
  cases lock <;> cases candidate <;>
    simp only [generationOrder, compareGeneration, reduceCtorEq] at h
  all_goals
    split at h
    · cases h
    · split at h
      · cases h
      · next hOlder hSame =>
          constructor
          · rfl
          · simp only [DtmfSourceLock.generation]
            omega

theorem generationOrder_initial {lock candidate : DtmfSourceLock}
    (h : generationOrder lock candidate = .initial) : lock = .unset := by
  cases lock <;> cases candidate <;>
    simp only [generationOrder, compareGeneration, reduceCtorEq] at h
  all_goals first
    | rfl
    | (split at h
       · cases h
       · split at h <;> cases h)

theorem DtmfSourceLock.Advances.generation_le {before after : DtmfSourceLock}
    (h : before.Advances after) : before.generation ≤ after.generation := by
  rcases h with hUnset | ⟨-, hLe⟩
  · cases before with
    | unset => exact Nat.zero_le _
    | rfc4733 => cases hUnset
    | sipInfo => cases hUnset
  · exact hLe

/-- How often the decision has been counted. -/
def DtmfSourceStats.counter (stats : DtmfSourceStats) : DtmfSourceDecision → Nat
  | .accepted => stats.accepted
  | .duplicate => stats.duplicate
  | .conflict => stats.conflict
  | .staleGeneration => stats.staleGeneration

namespace DtmfSourceState

/-- The decisions on a sequence of digits. -/
def decisions (state : DtmfSourceState) : List DigitEvent → List DtmfSourceDecision
  | [] => []
  | event :: events => (state.accept event).1 :: decisions (state.accept event).2 events

/-- The state after a sequence of digits. -/
def afterAll (state : DtmfSourceState) (events : List DigitEvent) : DtmfSourceState :=
  events.foldl (fun state event => (state.accept event).2) state

/-- The ids of the digits that are taken from a sequence. -/
def acceptedIds (state : DtmfSourceState) : List DigitEvent → List DtmfEventId
  | [] => []
  | event :: events =>
    if (state.accept event).1 = .accepted then
      event.eventId :: acceptedIds (state.accept event).2 events
    else acceptedIds (state.accept event).2 events

/-- The remembered events are those in the queue, each once, and not too many. -/
structure Remembers (state : DtmfSourceState) : Prop where
  mem_iff : ∀ id, id ∈ state.recent ↔ id ∈ state.order
  recent_nodup : state.recent.Nodup
  nodup : state.order.Nodup
  bounded : state.order.length ≤ sourceEventDedupCapacity

/-- The queue as a bounded memory. -/
def Remembers.memory {state : DtmfSourceState} (h : state.Remembers) :
    Memory DtmfEventId sourceEventDedupCapacity :=
  ⟨state.order, h.nodup, h.bounded⟩

variable {state after : DtmfSourceState} {event : DigitEvent} {id : DtmfEventId}
variable {order recent ids : List DtmfEventId}

/-- What one digit can do: nothing but be counted, be taken under the lock as it is, or move
the lock on and be the first event of the new window. -/
inductive Taken (state : DtmfSourceState) (event : DigitEvent) :
    DtmfSourceDecision × DtmfSourceState → Prop where
  | refused {decision : DtmfSourceDecision} {after : DtmfSourceState}
      (hRefused : decision ≠ .accepted) (hLock : after.sourceLock = state.sourceLock)
      (hOrder : after.order = state.order) (hRecent : after.recent = state.recent) :
      Taken state event (decision, after)
  | admitted {after : DtmfSourceState} (hEvent : eventSourceLock event = some state.sourceLock)
      (hNew : event.eventId ∉ state.recent) (hLock : after.sourceLock = state.sourceLock)
      (hKept : (after.order, after.recent) =
        expire (state.order ++ [event.eventId]) (event.eventId :: state.recent)) :
      Taken state event (.accepted, after)
  | reopened {after : DtmfSourceState} {lock : DtmfSourceLock}
      (hEvent : eventSourceLock event = some lock) (hAdvances : state.sourceLock.Advances lock)
      (hMoved : state.sourceLock = .unset ∨ state.sourceLock.generation < lock.generation)
      (hLock : after.sourceLock = lock)
      (hOrder : after.order = [event.eventId]) (hRecent : after.recent = [event.eventId]) :
      Taken state event (.accepted, after)

theorem taken_record {decision : DtmfSourceDecision} (h : decision ≠ .accepted) :
    Taken state event (state.record decision) :=
  .refused h rfl rfl rfl

theorem accept_taken (state : DtmfSourceState) (event : DigitEvent) :
    Taken state event (state.accept event) := by
  rw [accept]
  split
  · exact taken_record (by decide)
  · split
    · exact taken_record (by decide)
    · next lock hEvent =>
        split
        · exact taken_record (by decide)
        · split
          · next hInitial =>
              have hUnset := generationOrder_initial hInitial
              apply Taken.reopened hEvent _ (.inl hUnset) rfl rfl rfl
              left
              rw [hUnset]
              rfl
          · next hNewer =>
              obtain ⟨hFamily, hLt⟩ := generationOrder_newer hNewer
              exact .reopened hEvent (.inr ⟨hFamily, Nat.le_of_lt hLt⟩) (.inr hLt) rfl rfl rfl
          · next hCurrent =>
              have hSame := generationOrder_current hCurrent
              subst hSame
              rw [admitDigit]
              split
              · exact taken_record (by decide)
              · next hNew => exact .admitted hEvent hNew rfl rfl
          · exact taken_record (by decide)
          · exact taken_record (by decide)

/-- Making room drops the oldest from the queue and from the set alike. -/
theorem expire_eq (hMem : ∀ id, id ∈ recent ↔ id ∈ order) (hRecent : recent.Nodup)
    (hOrder : order.Nodup) :
    (expire order recent).1 = order.drop (order.length - sourceEventDedupCapacity) ∧
      (expire order recent).2.Nodup ∧
      ∀ id, id ∈ (expire order recent).2 ↔ id ∈ (expire order recent).1 := by
  induction order generalizing recent with
  | nil => exact ⟨rfl, hRecent, hMem⟩
  | cons oldest rest ih =>
      obtain ⟨hNot, hRest⟩ := List.nodup_cons.mp hOrder
      rw [expire]
      split
      · next hOver =>
          have hErased : ∀ id, id ∈ recent.erase oldest ↔ id ∈ rest := by
            intro id
            rw [hRecent.mem_erase_iff, hMem, List.mem_cons]
            constructor
            · intro h
              exact h.2.resolve_left h.1
            · intro h
              refine ⟨?_, .inr h⟩
              intro hSame
              subst hSame
              exact hNot h
          obtain ⟨hDrop, hOthers⟩ := ih hErased (hRecent.erase oldest) hRest
          refine ⟨?_, hOthers⟩
          have hOne : (oldest :: rest).length - sourceEventDedupCapacity =
              rest.length - sourceEventDedupCapacity + 1 := by
            rw [List.length_cons]
            omega
          rw [hDrop, hOne, List.drop_succ_cons]
      · next hRoom =>
          have hNone : (oldest :: rest).length - sourceEventDedupCapacity = 0 := by
            rw [List.length_cons]
            omega
          refine ⟨?_, hRecent, hMem⟩
          rw [hNone, List.drop_zero]

@[simp] theorem Remembers.memory_order (h : state.Remembers) : h.memory.order = state.order := rfl

theorem Remembers.new_of_not_mem (h : state.Remembers) (hNew : id ∉ state.recent) :
    id ∉ h.memory.order := by
  rw [memory_order, ← h.mem_iff]
  exact hNew

/-- Taking an event under the lock is admitting it to the memory. -/
theorem Remembers.admitted (h : state.Remembers) (hNew : id ∉ state.recent)
    (hKept : (after.order, after.recent) = expire (state.order ++ [id]) (id :: state.recent)) :
    ∃ hAfter : after.Remembers,
      hAfter.memory = h.memory.learn id (h.new_of_not_mem hNew) := by
  have hNotMemory := h.new_of_not_mem hNew
  have hMem : ∀ other, other ∈ id :: state.recent ↔ other ∈ state.order ++ [id] := by
    intro other
    rw [List.mem_cons, List.mem_append, List.mem_singleton, h.mem_iff]
    exact or_comm
  have hRecent : (id :: state.recent).Nodup := List.nodup_cons.mpr ⟨hNew, h.recent_nodup⟩
  have hOrder : (state.order ++ [id]).Nodup :=
    List.Nodup.append h.nodup (List.nodup_singleton id) (List.disjoint_singleton.mpr hNotMemory)
  obtain ⟨hDrop, hNodup, hIff⟩ := expire_eq hMem hRecent hOrder
  rw [← hKept] at hDrop hNodup hIff
  rw [List.length_append, List.length_singleton] at hDrop
  have hShift : after.order = (h.memory.learn id hNotMemory).order := by
    rw [Memory.learn_order, Memory.shift]
    exact hDrop
  have hAfter : after.Remembers := by
    constructor
    · exact hIff
    · exact hNodup
    · rw [hShift]
      exact Memory.nodup _
    · rw [hShift]
      exact Memory.bounded _
  refine ⟨hAfter, ?_⟩
  simp only [memory, hShift]

theorem Remembers.of_single (hOrder : after.order = [id]) (hRecent : after.recent = [id]) :
    after.Remembers := by
  constructor
  · intro other
    rw [hOrder, hRecent]
  · rw [hRecent]
    exact List.nodup_singleton id
  · rw [hOrder]
    exact List.nodup_singleton id
  · rw [hOrder, List.length_singleton]
    decide

theorem Remembers.of_same (h : state.Remembers) (hOrder : after.order = state.order)
    (hRecent : after.recent = state.recent) : after.Remembers := by
  constructor
  · rw [hOrder, hRecent]
    exact h.mem_iff
  · rw [hRecent]
    exact h.recent_nodup
  · rw [hOrder]
    exact h.nodup
  · rw [hOrder]
    exact h.bounded

theorem Remembers.accept (h : state.Remembers) (event : DigitEvent) :
    (state.accept event).2.Remembers := by
  have hTaken := accept_taken state event
  generalize state.accept event = out at hTaken
  cases hTaken with
  | refused _ _ hOrder hRecent => exact h.of_same hOrder hRecent
  | admitted _ hNew _ hKept =>
      obtain ⟨hAfter, -⟩ := h.admitted hNew hKept
      exact hAfter
  | reopened _ _ _ _ hOrder hRecent => exact .of_single hOrder hRecent

theorem accept_advances (state : DtmfSourceState) (event : DigitEvent) :
    state.sourceLock.Advances (state.accept event).2.sourceLock := by
  have hTaken := accept_taken state event
  generalize state.accept event = out at hTaken
  cases hTaken with
  | refused _ hLock => rw [hLock]; exact .refl _
  | admitted _ _ hLock => rw [hLock]; exact .refl _
  | reopened _ hAdvances _ hLock => rw [hLock]; exact hAdvances

/-- What is taken is of the transport and the generation that the lock then has. -/
theorem accept_lock (h : (state.accept event).1 = .accepted) :
    eventSourceLock event = some (state.accept event).2.sourceLock := by
  have hTaken := accept_taken state event
  generalize state.accept event = out at hTaken h
  cases hTaken with
  | refused hRefused => exact absurd h hRefused
  | admitted hEvent _ hLock => rw [hLock]; exact hEvent
  | reopened hEvent _ _ hLock => rw [hLock]; exact hEvent

theorem remembers_fresh (policy : DtmfSourcePolicy) :
    ({ policy } : DtmfSourceState).Remembers := by
  constructor
  · intro id
    rfl
  · exact List.nodup_nil
  · exact List.nodup_nil
  · exact Nat.zero_le _

theorem Remembers.afterAll (h : state.Remembers) (events : List DigitEvent) :
    (state.afterAll events).Remembers := by
  induction events generalizing state with
  | nil => exact h
  | cons event events ih => exact ih (h.accept event)

theorem afterAll_advances (state : DtmfSourceState) (events : List DigitEvent) :
    state.sourceLock.Advances (state.afterAll events).sourceLock := by
  induction events generalizing state with
  | nil => exact .refl _
  | cons event events ih => exact (accept_advances state event).trans (ih _)

/-- Since `id` was taken under the lock `lock`, the events `ids` have been taken; or the lock
has moved on. -/
def Since (lock : DtmfSourceLock) (id : DtmfEventId) (ids : List DtmfEventId)
    (state : DtmfSourceState) : Prop :=
  (state.sourceLock = lock ∧ ∃ h : state.Remembers, Memory.Since id ids h.memory) ∨
    lock.generation < state.sourceLock.generation

theorem since_accept_self (h : state.Remembers) (hAccepted : (state.accept event).1 = .accepted) :
    Since (state.accept event).2.sourceLock event.eventId [] (state.accept event).2 := by
  left
  refine ⟨rfl, ?_⟩
  have hTaken := accept_taken state event
  generalize state.accept event = out at hTaken hAccepted
  cases hTaken with
  | refused hRefused => exact absurd hAccepted hRefused
  | admitted _ hNew _ hKept =>
      obtain ⟨hAfter, hMemory⟩ := h.admitted hNew hKept
      refine ⟨hAfter, ?_⟩
      rw [hMemory]
      exact Memory.since_learn_self (by decide) _
  | reopened _ _ _ _ hOrder hRecent =>
      refine ⟨.of_single hOrder hRecent, ?_⟩
      left
      exact ⟨[], hOrder⟩

theorem Since.of_accept {lock : DtmfSourceLock} (hSet : lock ≠ .unset)
    (h : Since lock id ids state) (event : DigitEvent) :
    Since lock id
      (ids ++ if (state.accept event).1 = .accepted then [event.eventId] else [])
      (state.accept event).2 := by
  rcases h with ⟨hLock, hRemembers, hSince⟩ | hMoved
  · have hTaken := accept_taken state event
    generalize state.accept event = out at hTaken
    cases hTaken with
    | refused hRefused hSame hOrder hRecent =>
        left
        refine ⟨hSame.trans hLock, hRemembers.of_same hOrder hRecent, ?_⟩
        rw [if_neg hRefused, List.append_nil]
        simpa only [Memory.Since, Remembers.memory, hOrder] using hSince
    | admitted _ hNew hSame hKept =>
        left
        obtain ⟨hAfter, hMemory⟩ := hRemembers.admitted hNew hKept
        refine ⟨hSame.trans hLock, hAfter, ?_⟩
        rw [if_pos rfl, hMemory]
        exact hSince.learn _
    | reopened _ _ hMoved hAfter hOrder =>
        rcases hMoved with hUnset | hLt
        · exact absurd (hLock.symm.trans hUnset) hSet
        · right
          rw [hAfter, ← hLock]
          exact hLt
  · right
    exact Nat.lt_of_lt_of_le hMoved (accept_advances state event).generation_le

theorem acceptedIds_cons (state : DtmfSourceState) (event : DigitEvent)
    (events : List DigitEvent) :
    state.acceptedIds (event :: events) =
      (if (state.accept event).1 = .accepted then [event.eventId] else []) ++
        (state.accept event).2.acceptedIds events := by
  rw [acceptedIds]
  split
  · rfl
  · rfl

theorem Since.afterAll {lock : DtmfSourceLock} (hSet : lock ≠ .unset)
    (h : Since lock id ids state) (events : List DigitEvent) :
    Since lock id (ids ++ state.acceptedIds events) (state.afterAll events) := by
  induction events generalizing state ids with
  | nil =>
      rw [acceptedIds, List.append_nil]
      exact h
  | cons event events ih =>
      rw [acceptedIds_cons, ← List.append_assoc]
      exact ih (h.of_accept hSet event)

theorem eventSourceLock_ne_unset {lock : DtmfSourceLock} (h : eventSourceLock event = some lock) :
    lock ≠ .unset := by
  rw [eventSourceLock] at h
  split at h
  all_goals cases h <;> simp

/-- An event is taken a second time after the lock has moved on or enough others have been
taken. -/
theorem accepted_again {first second : DigitEvent} (hState : state.Remembers)
    (hFirst : (state.accept first).1 = .accepted) (between : List DigitEvent)
    (hSecond : (((state.accept first).2.afterAll between).accept second).1 = .accepted)
    (hSame : second.eventId = first.eventId) :
    (state.accept first).2.sourceLock.generation <
        (((state.accept first).2.afterAll between).accept second).2.sourceLock.generation ∨
      sourceEventDedupCapacity ≤
        (((state.accept first).2.acceptedIds between).toFinset.erase first.eventId).card := by
  have hSet := eventSourceLock_ne_unset (accept_lock hFirst)
  have hSince := (since_accept_self hState hFirst).afterAll hSet between
  generalize (state.accept first).2.afterAll between = later at hSince hSecond
  rw [List.nil_append] at hSince
  rcases hSince with ⟨hLock, hRemembers, hSince⟩ | hMoved
  · have hTaken := accept_taken later second
    generalize later.accept second = out at hTaken hSecond
    cases hTaken with
    | refused hRefused => exact absurd hSecond hRefused
    | admitted _ hNew =>
        right
        apply hSince.of_forgotten
        rw [← hSame]
        exact hRemembers.new_of_not_mem hNew
    | reopened _ _ hMoved hAfter =>
        rcases hMoved with hUnset | hLt
        · exact absurd (hLock.symm.trans hUnset) hSet
        · left
          rw [hAfter, ← hLock]
          exact hLt
  · left
    exact Nat.lt_of_lt_of_le hMoved (accept_advances later second).generation_le

theorem record_counter (decision decision' : DtmfSourceDecision) :
    (state.record decision).2.stats.counter decision' =
      if decision' = decision then satSucc64 (state.stats.counter decision')
      else state.stats.counter decision' := by
  cases decision <;> cases decision' <;> rfl

theorem admitDigit_record {base : DtmfSourceState} (h : base.stats = state.stats)
    (event : DigitEvent) :
    ∃ counted : DtmfSourceState, counted.stats = state.stats ∧
      base.admitDigit event = counted.record (base.admitDigit event).1 := by
  rw [admitDigit]
  split
  · exact ⟨base, h, rfl⟩
  · refine ⟨_, ?_, rfl⟩
    exact h

theorem accept_record (state : DtmfSourceState) (event : DigitEvent) :
    ∃ base : DtmfSourceState, base.stats = state.stats ∧
      state.accept event = base.record (state.accept event).1 := by
  rw [accept]
  split
  · exact ⟨state, rfl, rfl⟩
  · split
    · exact ⟨state, rfl, rfl⟩
    · split
      · exact ⟨state, rfl, rfl⟩
      · split
        · apply admitDigit_record
          rfl
        · apply admitDigit_record
          rfl
        · apply admitDigit_record
          rfl
        · exact ⟨state, rfl, rfl⟩
        · exact ⟨state, rfl, rfl⟩

/-- Each decision is counted once, in the counter of its own. -/
theorem accept_counter (state : DtmfSourceState) (event : DigitEvent)
    (decision : DtmfSourceDecision) :
    (state.accept event).2.stats.counter decision =
      if decision = (state.accept event).1 then satSucc64 (state.stats.counter decision)
      else state.stats.counter decision := by
  obtain ⟨base, hStats, hRecord⟩ := accept_record state event
  rw [hRecord, record_counter, record_fst, hStats]

theorem afterAll_counter (state : DtmfSourceState) (events : List DigitEvent)
    (decision : DtmfSourceDecision) :
    (state.afterAll events).stats.counter decision =
      satSucc64^[(state.decisions events).count decision] (state.stats.counter decision) := by
  induction events generalizing state with
  | nil => rfl
  | cons event events ih =>
      have hRest : (state.afterAll (event :: events)).stats.counter decision =
          ((state.accept event).2.afterAll events).stats.counter decision := rfl
      rw [hRest, ih, accept_counter, decisions, List.count_cons]
      by_cases hSame : decision = (state.accept event).1
      · rw [if_pos hSame, if_pos (beq_iff_eq.mpr hSame.symm), Function.iterate_succ_apply]
      · have hOther : ¬ ((state.accept event).1 == decision) = true := by
          rw [beq_iff_eq]
          exact Ne.symm hSame
        rw [if_neg hSame, if_neg hOther, Nat.add_zero]

theorem length_decisions (state : DtmfSourceState) (events : List DigitEvent) :
    (state.decisions events).length = events.length := by
  induction events generalizing state with
  | nil => rfl
  | cons event events ih => rw [decisions, List.length_cons, ih, List.length_cons]

theorem count_decisions (ds : List DtmfSourceDecision) :
    ds.count .accepted + ds.count .duplicate + ds.count .conflict + ds.count .staleGeneration =
      ds.length := by
  induction ds with
  | nil => rfl
  | cons d ds ih =>
      simp only [List.count_cons, List.length_cons]
      cases d <;> simp <;> omega

theorem satSucc64_iterate_zero (n : Nat) : satSucc64^[n] 0 = min n u64Max := by
  induction n with
  | zero => rfl
  | succ n ih =>
      rw [Function.iterate_succ_apply', ih, satSucc64]
      omega

theorem counter_fresh (policy : DtmfSourcePolicy) (decision : DtmfSourceDecision) :
    ({ policy } : DtmfSourceState).stats.counter decision = 0 := by
  cases decision <;> rfl

/-- A counter that is not saturated says how often its decision was taken. -/
theorem counter_eq_count {policy : DtmfSourcePolicy} {events : List DigitEvent}
    {decision : DtmfSourceDecision}
    (h : (({ policy } : DtmfSourceState).afterAll events).stats.counter decision < u64Max) :
    (({ policy } : DtmfSourceState).afterAll events).stats.counter decision =
      (({ policy } : DtmfSourceState).decisions events).count decision := by
  rw [afterAll_counter, counter_fresh, satSucc64_iterate_zero] at h ⊢
  omega

theorem stats_sum {policy : DtmfSourcePolicy} {events : List DigitEvent}
    (h : ∀ decision,
      (({ policy } : DtmfSourceState).afterAll events).stats.counter decision < u64Max) :
    let stats := (({ policy } : DtmfSourceState).afterAll events).stats
    stats.accepted + stats.duplicate + stats.conflict + stats.staleGeneration = events.length := by
  have hAccepted := counter_eq_count (h .accepted)
  have hDuplicate := counter_eq_count (h .duplicate)
  have hConflict := counter_eq_count (h .conflict)
  have hStale := counter_eq_count (h .staleGeneration)
  have hSum := count_decisions (({ policy } : DtmfSourceState).decisions events)
  rw [length_decisions, ← hAccepted, ← hDuplicate, ← hConflict, ← hStale] at hSum
  exact hSum

/-- After any sequence of digits: the set is the queue and within its capacity; the lock keeps
its transport and never goes back; what is taken is of the lock; an event is taken again only
after the lock has moved on or the window has passed over it; and every digit is counted. -/
theorem arbitration (policy : DtmfSourcePolicy) (past : List DigitEvent) :
    let state := ({ policy } : DtmfSourceState).afterAll past
    ((∀ id, id ∈ state.recent ↔ id ∈ state.order) ∧ state.recent.Nodup ∧ state.order.Nodup ∧
      state.order.length ≤ sourceEventDedupCapacity) ∧
    (∀ later, state.sourceLock.Advances (state.afterAll later).sourceLock) ∧
    (∀ event, (state.accept event).1 = .accepted →
      eventSourceLock event = some (state.accept event).2.sourceLock) ∧
    (∀ first between second,
      let held := (state.accept first).2
      let again := (held.afterAll between).accept second
      (state.accept first).1 = .accepted → again.1 = .accepted →
        second.eventId = first.eventId →
        held.sourceLock.generation < again.2.sourceLock.generation ∨
          sourceEventDedupCapacity ≤
            ((held.acceptedIds between).toFinset.erase first.eventId).card) ∧
    ((∀ decision, state.stats.counter decision < u64Max) →
      state.stats.accepted + state.stats.duplicate + state.stats.conflict +
        state.stats.staleGeneration = past.length) := by
  intro state
  have hState : state.Remembers := (remembers_fresh policy).afterAll past
  refine ⟨⟨hState.mem_iff, hState.recent_nodup, hState.nodup, hState.bounded⟩, ?_, ?_, ?_, ?_⟩
  · intro later
    exact afterAll_advances state later
  · intro event hAccepted
    exact accept_lock hAccepted
  · intro first between second held again hFirst hSecond hSame
    exact accepted_again hState hFirst between hSecond hSame
  · intro hBelow
    exact stats_sum hBelow

end DtmfSourceState

end VoipSwitch
