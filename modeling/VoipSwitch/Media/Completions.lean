import Mathlib.Data.List.Nodup
import VoipSwitch.Media.Presses

/-! Each press is completed once. Over all sequences of packets, expiries and changes of
configuration the table of presses keeps its shape, and a press that has been reported is not
reported again before it is forgotten. -/
namespace VoipSwitch.Media

open Keyed
open Framed (Bytes)

inductive ParserCall where
  | observePacket (visit : Rfc4733Parser.Visit) (packet : Bytes)
  | expire (visit : Rfc4733Parser.Visit)
  | updateConfig (config : ParserConfig)

structure TimedCall where
  time : Nat
  call : ParserCall

namespace TimedCall

/-- The call does not ask for another configuration. -/
def Keeps (config : ParserConfig) (c : TimedCall) : Prop :=
  ∀ config', c.call = .updateConfig config' → config' = config

/-- Calls at times that do not decrease. -/
def Ordered (calls : List TimedCall) : Prop := calls.Pairwise fun c c' => c.time ≤ c'.time

end TimedCall

/-- `suppresses_packet`. -/
def Rfc4733Parser.suppressesPacket (parser : Rfc4733Parser) (packet : Bytes) : Bool :=
  parser.config.mode = .collect &&
    parser.config.capability.any fun capability =>
      match packet with
      | first :: second :: _ => first >>> 6 = 2 && second &&& 0x7f = capability.payloadType
      | _ => false

def Rfc4733DigitCompleted.key (digit : Rfc4733DigitCompleted) : EventKey :=
  ⟨digit.ssrc, digit.timestamp, digit.eventCode⟩

/-- The presses that are reported as completed. -/
def completedKeys (observations : List ParserObservation) : List EventKey :=
  observations.filterMap fun
    | .completed digit => some digit.key
    | .invalid => none

namespace Rfc4733Parser

def answer (parser : Rfc4733Parser) (c : TimedCall) : List ParserObservation × Rfc4733Parser :=
  match c.call with
  | .observePacket visit packet => parser.observePacket visit.order packet c.time
  | .expire visit => parser.expire visit.order c.time
  | .updateConfig config => ([], parser.updateConfig config)

def afterCalls (parser : Rfc4733Parser) (calls : List TimedCall) : Rfc4733Parser :=
  calls.foldl (fun parser c => (parser.answer c).2) parser

/-- The presses that are open and those that are remembered are told apart by their keys and
are within the capacity. -/
structure Kept (parser : Rfc4733Parser) : Prop where
  recent_nodup : (parser.recent.map Prod.fst).Nodup
  disjoint : ∀ key ∈ parser.recent.map Prod.fst, parser.active.get key = none
  bounded : parser.active.entries.length + parser.recent.length ≤ stateCapacity

/-- No press can be added without forgetting another one. -/
def Full (parser : Rfc4733Parser) : Prop :=
  stateCapacity ≤ parser.active.entries.length + parser.recent.length

/-- The table is full when the packet that the call brings is looked at. -/
def FullDuring (parser : Rfc4733Parser) (c : TimedCall) : Prop :=
  match c.call with
  | .observePacket visit _ => (parser.expire visit.order c.time).2.Full
  | .expire _ | .updateConfig _ => False

variable {parser after : Rfc4733Parser} {key : EventKey} {press : ActivePress}
variable {now time : Nat} {visit : Visit} {found : PressPacket} {config : ParserConfig}

theorem pruneRecent_suffix : (parser.pruneRecent now).recent <:+ parser.recent :=
  List.dropWhile_suffix _

theorem makeRoom_suffix (n : Nat) (recent : List (EventKey × Nat)) :
    makeRoom n recent <:+ recent := by
  induction recent with
  | nil => exact List.suffix_refl _
  | cons oldest rest ih =>
      rw [makeRoom]
      split
      · exact ih.trans (List.suffix_cons oldest rest)
      · exact List.suffix_refl _

theorem withRoom_suffix : (parser.withRoom key).recent <:+ parser.recent := by
  rw [withRoom]
  split
  · exact List.suffix_refl _
  · exact makeRoom_suffix _ _

/-- With room to spare nothing is forgotten. -/
theorem withRoom_of_not_full (h : ¬ parser.Full) :
    (parser.withRoom key).recent = parser.recent := by
  rw [withRoom]
  split
  · rfl
  · cases hRecent : parser.recent with
    | nil => rfl
    | cons oldest rest =>
        rw [Full, hRecent, List.length_cons] at h
        simp only [makeRoom, if_neg h]

theorem dueEntries_length :
    (dueEntries visit now parser).length +
      (parser.active.retain fun _ press => !due now press).entries.length =
        parser.active.entries.length := by
  have hLength := Table.length_retain parser.active fun _ press => !due now press
  have hDue : (dueEntries visit now parser).length =
      (parser.active.entries.filter fun entry => !!due now entry.2).length := by
    simp only [Bool.not_not]
    exact ((visit.perm _).filter _).length_eq
  omega

/-- Expiry does not add to the table. -/
theorem expire_length_le :
    (parser.expire visit.order now).2.active.entries.length +
        (parser.expire visit.order now).2.recent.length ≤
      parser.active.entries.length + parser.recent.length := by
  have hDue := @dueEntries_length parser now visit
  have hPruned := (@pruneRecent_suffix parser now).length_le
  rw [expire_eq]
  simp only [List.length_append, List.length_map]
  omega

theorem keys_expire :
    (parser.expire visit.order now).2.recent.map Prod.fst =
      (parser.pruneRecent now).recent.map Prod.fst ++
        (dueEntries visit now parser).map Prod.fst := by
  rw [expire_eq]
  simp only [List.map_append, List.map_map]
  rfl

theorem mem_keys_dueEntries :
    key ∈ (dueEntries visit now parser).map Prod.fst ↔
      ∃ press, parser.active.get key = some press ∧ due now press = true := by
  rw [List.mem_map]
  constructor
  · rintro ⟨entry, hMem, rfl⟩
    exact ⟨entry.2, mem_dueEntries.mp hMem⟩
  · rintro ⟨press, hPress⟩
    exact ⟨(key, press), mem_dueEntries.mpr hPress, rfl⟩

theorem Kept.expire (h : parser.Kept) : (parser.expire visit.order now).2.Kept := by
  have hPruned := (@pruneRecent_suffix parser now).sublist.map Prod.fst
  constructor
  · rw [keys_expire]
    apply List.Nodup.append (hPruned.nodup h.recent_nodup) dueEntries_nodup
    intro key hRecent hDue
    obtain ⟨press, hGet, -⟩ := mem_keys_dueEntries.mp hDue
    rw [h.disjoint key (hPruned.subset hRecent)] at hGet
    cases hGet
  · intro key hMem
    rw [keys_expire, List.mem_append] at hMem
    rw [expire_eq, Table.get_retain]
    rcases hMem with hRecent | hDue
    · rw [h.disjoint key (hPruned.subset hRecent)]
      rfl
    · obtain ⟨press, hGet, hOver⟩ := mem_keys_dueEntries.mp hDue
      rw [hGet]
      simp [Option.filter, hOver]
  · exact expire_length_le.trans h.bounded

/-- A packet of a press keeps the tables apart and within the capacity: a full one forgets first. -/
theorem Kept.pressPacket (h : parser.Kept) : (parser.pressPacket found now).2.Kept := by
  have hRoom := (@withRoom_suffix parser found.key).sublist.map Prod.fst
  have hLength := (@withRoom_suffix parser found.key).length_le
  have hPressed := pressPacket_pressed parser found now
  generalize parser.pressPacket found now = out at hPressed
  cases hPressed with
  | known => exact h
  | shorter => exact h
  | full =>
      constructor
      · exact hRoom.nodup h.recent_nodup
      · intro key hMem
        rw [withRoom_active]
        exact h.disjoint key (hRoom.subset hMem)
      · rw [withRoom_active]
        exact (Nat.add_le_add_left hLength _).trans h.bounded
  | held hNew _ hFree =>
      constructor
      · exact hRoom.nodup h.recent_nodup
      · intro key hMem
        have hOld := hRoom.subset hMem
        simp only
        rw [Table.get_insert_of_ne]
        · exact h.disjoint key hOld
        · intro hSame
          rw [hSame] at hNew
          exact hNew hOld
      · simp only
        cases hGet : parser.active.get found.key with
        | none =>
            rw [Table.length_insert_of_none hGet]
            have hLess := hFree hGet
            omega
        | some press =>
            rw [Table.length_insert_of_some hGet]
            exact (Nat.add_le_add_left hLength _).trans h.bounded
  | ended hNew _ hFree =>
      constructor
      · simp only [List.map_append, List.map_cons, List.map_nil]
        apply List.Nodup.append (hRoom.nodup h.recent_nodup) (List.nodup_singleton _)
        rw [List.disjoint_singleton]
        intro hMem
        exact hNew (hRoom.subset hMem)
      · intro key hMem
        simp only [List.map_append, List.map_cons, List.map_nil, List.mem_append,
          List.mem_singleton] at hMem
        simp only [Table.remove_insert]
        rw [Table.get_remove]
        split
        · rfl
        · next hOther =>
            rcases hMem with hRecent | hSame
            · exact h.disjoint key (hRoom.subset hRecent)
            · exact absurd hSame.symm hOther
      · simp only [Table.remove_insert, List.length_append, List.length_singleton]
        cases hGet : parser.active.get found.key with
        | none =>
            rw [Table.remove_of_none hGet]
            have hLess := hFree hGet
            omega
        | some press =>
            have hOne := Table.length_remove hGet
            have hBounded := h.bounded
            omega

theorem Kept.answer (h : parser.Kept) (c : TimedCall) : (parser.answer c).2.Kept := by
  rw [Rfc4733Parser.answer]
  cases c.call with
  | observePacket visit packet =>
      simp only
      rcases observePacket_cases visit packet c.time parser with
        ⟨-, noise, -, hOut⟩ | ⟨capability, found, -, -, hOut⟩
      · rw [hOut]
        exact h.expire
      · rw [hOut]
        exact h.expire.pressPacket
  | expire visit => exact h.expire
  | updateConfig config =>
      simp only
      rw [updateConfig]
      split
      · constructor
        · exact List.nodup_nil
        · intro key hMem
          cases hMem
        · exact Nat.zero_le _
      · exact h

theorem kept_fresh (config : ParserConfig) : ({ config } : Rfc4733Parser).Kept := by
  constructor
  · exact List.nodup_nil
  · intro key hMem
    cases hMem
  · exact Nat.zero_le _

theorem Kept.afterCalls (h : parser.Kept) (calls : List TimedCall) :
    (parser.afterCalls calls).Kept := by
  induction calls generalizing parser with
  | nil => exact h
  | cons c calls ih => exact ih (h.answer c)

/-- How a call comes to complete a press: the press is due, or the call brings the last
packet of a press that is not remembered. -/
inductive Completes (parser : Rfc4733Parser) (c : TimedCall) :
    Rfc4733DigitCompleted → Prop where
  | due {visit : Visit} {entry : Entry} (hMem : entry ∈ dueEntries visit c.time parser) :
      Completes parser c (report parser.config entry.1 entry.2 true)
  | ended {visit : Visit} {packet : Bytes} {capability : DtmfCapability} {found : PressPacket}
      (hCall : c.call = .observePacket visit packet)
      (hCapability : parser.config.activeCapability = some capability)
      (hFound : pressOf capability packet = some found) (hEnded : found.ended = true)
      (hNew : found.key ∉ (parser.expire visit.order c.time).2.recent.map Prod.fst)
      (hLonger : ∀ press, (parser.expire visit.order c.time).2.active.get found.key = some press →
        press.maxDuration ≤ found.duration)
      (hRecent : (found.key, c.time) ∈ (parser.answer c).2.recent) :
      Completes parser c (report parser.config found.key
        ((parser.expire visit.order c.time).2.pressAfter found c.time) false)

@[simp] theorem expire_config : (parser.expire visit.order now).2.config = parser.config :=
  expire_faithful.config_eq

theorem mem_expire {digit : Rfc4733DigitCompleted}
    (h : .completed digit ∈ (parser.expire visit.order now).1) :
    ∃ entry ∈ dueEntries visit now parser, digit = report parser.config entry.1 entry.2 true := by
  rw [expire_eq, List.mem_map] at h
  obtain ⟨entry, hMem, hSame⟩ := h
  cases hSame
  exact ⟨entry, hMem, rfl⟩

/-- What a packet of a press reports is its own press. -/
theorem mem_pressPacket {digit : Rfc4733DigitCompleted}
    (h : .completed digit ∈ (parser.pressPacket found now).1) :
    digit = report parser.config found.key (parser.pressAfter found now) false ∧
      found.ended = true ∧ found.key ∉ parser.recent.map Prod.fst ∧
      (∀ press, parser.active.get found.key = some press →
        press.maxDuration ≤ found.duration) ∧
      (found.key, now) ∈ (parser.pressPacket found now).2.recent := by
  have hPressed := pressPacket_pressed parser found now
  generalize parser.pressPacket found now = out at hPressed h
  cases hPressed with
  | known => cases h
  | shorter => simp at h
  | full => simp at h
  | held => cases h
  | ended hNew hLonger _ hEnded =>
      rw [List.mem_singleton] at h
      cases h
      exact ⟨rfl, hEnded, hNew, hLonger, List.mem_append_right _ (List.mem_singleton_self _)⟩

theorem answer_completes {c : TimedCall} {digit : Rfc4733DigitCompleted}
    (h : .completed digit ∈ (parser.answer c).1) : parser.Completes c digit := by
  rw [answer] at h
  cases hCall : c.call with
  | observePacket visit packet =>
      rw [hCall] at h
      simp only at h
      rcases observePacket_cases visit packet c.time parser with
        ⟨-, noise, hNoise, hOut⟩ | ⟨capability, found, hCapability, hFound, hOut⟩
      · rw [hOut, List.mem_append] at h
        rcases h with hDue | hNone
        · obtain ⟨entry, hMem, rfl⟩ := mem_expire hDue
          exact .due hMem
        · rcases hNoise with rfl | rfl
          · cases hNone
          · simp at hNone
      · rw [hOut, List.mem_append] at h
        rcases h with hDue | hPress
        · obtain ⟨entry, hMem, rfl⟩ := mem_expire hDue
          exact .due hMem
        · obtain ⟨rfl, hEnded, hNew, hLonger, hRecent⟩ := mem_pressPacket hPress
          rw [expire_config]
          apply Completes.ended hCall hCapability hFound hEnded hNew hLonger
          rw [answer, hCall]
          simp only
          rw [hOut]
          exact hRecent
  | expire visit =>
      rw [hCall] at h
      obtain ⟨entry, hMem, rfl⟩ := mem_expire h
      exact .due hMem
  | updateConfig config =>
      rw [hCall] at h
      cases h

theorem mem_completedKeys {observations : List ParserObservation} :
    key ∈ completedKeys observations ↔
      ∃ digit, .completed digit ∈ observations ∧ digit.key = key := by
  rw [completedKeys, List.mem_filterMap]
  constructor
  · rintro ⟨observation, hMem, hKey⟩
    cases observation with
    | completed digit =>
        cases hKey
        exact ⟨digit, hMem, rfl⟩
    | invalid => cases hKey
  · rintro ⟨digit, hMem, rfl⟩
    exact ⟨.completed digit, hMem, rfl⟩

@[simp] theorem report_key (config : ParserConfig) (key : EventKey) (press : ActivePress)
    (incompleteEnd : Bool) : (report config key press incompleteEnd).key = key := rfl

/-- A press that is not due, or is remembered for less than its time, is still remembered after
pruning. -/
theorem mem_pruneRecent {entry : EventKey × Nat} (h : entry ∈ parser.recent)
    (hYoung : now < entry.2 + recentTtl) : entry ∈ (parser.pruneRecent now).recent := by
  rw [pruneRecent]
  simp only
  generalize parser.recent = recent at h
  induction recent with
  | nil => cases h
  | cons first rest ih =>
      rw [List.dropWhile_cons]
      split
      · next hOld =>
          rcases List.mem_cons.mp h with hSame | hRest
          · rw [decide_eq_true_eq, ← hSame] at hOld
            rw [recentTtl, millis] at hOld hYoung
            omega
          · exact ih hRest
      · exact h

theorem mem_expire_recent {entry : EventKey × Nat} (h : entry ∈ parser.recent)
    (hYoung : now < entry.2 + recentTtl) :
    entry ∈ (parser.expire visit.order now).2.recent := by
  rw [expire_eq]
  exact List.mem_append_left _ (mem_pruneRecent h hYoung)

theorem mem_pressPacket_recent {entry : EventKey × Nat} (h : entry ∈ parser.recent)
    (hRoom : ¬ parser.Full) : entry ∈ (parser.pressPacket found now).2.recent := by
  have hSame := @withRoom_of_not_full _ found.key hRoom
  have hPressed := pressPacket_pressed parser found now
  generalize parser.pressPacket found now = out at hPressed
  cases hPressed with
  | known => exact h
  | shorter => exact h
  | full => rw [hSame]; exact h
  | held => rw [hSame]; exact h
  | ended =>
      apply List.mem_append_left
      rw [hSame]
      exact h

/-- What is remembered stays so until its time is over or the table is full. -/
theorem mem_answer_recent {entry : EventKey × Nat} {c : TimedCall} (h : entry ∈ parser.recent)
    (hKeeps : c.Keeps parser.config) (hYoung : c.time < entry.2 + recentTtl)
    (hRoom : ¬ parser.FullDuring c) : entry ∈ (parser.answer c).2.recent := by
  have hExpired : ∀ visit : Visit, entry ∈ (parser.expire visit.order c.time).2.recent :=
    fun visit => mem_expire_recent h hYoung
  rw [answer]
  cases hCall : c.call with
  | observePacket visit packet =>
      simp only
      rcases observePacket_cases visit packet c.time parser with
        ⟨-, noise, -, hOut⟩ | ⟨capability, found, -, -, hOut⟩
      · rw [hOut]
        exact hExpired visit
      · rw [hOut]
        apply mem_pressPacket_recent (hExpired visit)
        intro hFull
        rw [FullDuring, hCall] at hRoom
        exact hRoom hFull
  | expire visit => exact hExpired visit
  | updateConfig config =>
      have hSame := hKeeps config hCall
      subst hSame
      simp only [updateConfig, ne_eq, not_true_eq_false, if_false]
      exact h

/-- A press that is remembered is completed again only when its time is over. -/
theorem Kept.ttl_of_completes (h : parser.Kept) {c : TimedCall}
    {digit : Rfc4733DigitCompleted} (hMem : (digit.key, time) ∈ parser.recent)
    (hCompletes : parser.Completes c digit) : time + recentTtl ≤ c.time := by
  have hKey : digit.key ∈ parser.recent.map Prod.fst := List.mem_map_of_mem hMem
  cases hCompletes with
  | @due visit entry hDue =>
      have hNone := h.disjoint _ hKey
      rw [report_key, (mem_dueEntries.mp hDue).1] at hNone
      cases hNone
  | @ended visit packet capability found _ _ _ _ hNew =>
      apply Nat.le_of_not_lt
      intro hYoung
      exact hNew (List.mem_map_of_mem (mem_expire_recent hMem hYoung))

theorem mem_expire_recent_of_due {entry : Entry} (h : entry ∈ dueEntries visit now parser) :
    (entry.1, now) ∈ (parser.expire visit.order now).2.recent := by
  rw [expire_eq]
  apply List.mem_append_right
  rw [List.mem_map]
  exact ⟨entry, h, rfl⟩

/-- A press that has been completed is remembered, unless it had to make room at once. -/
theorem mem_recent_of_completes {c : TimedCall} {digit : Rfc4733DigitCompleted}
    (h : .completed digit ∈ (parser.answer c).1) (hRoom : ¬ parser.FullDuring c) :
    (digit.key, c.time) ∈ (parser.answer c).2.recent := by
  rw [answer] at h ⊢
  cases hCall : c.call with
  | observePacket visit packet =>
      rw [hCall] at h
      simp only at h ⊢
      rcases observePacket_cases visit packet c.time parser with
        ⟨-, noise, hNoise, hOut⟩ | ⟨capability, found, hCapability, hFound, hOut⟩
      · rw [hOut, List.mem_append] at h
        rw [hOut]
        rcases h with hDue | hNone
        · obtain ⟨entry, hMem, rfl⟩ := mem_expire hDue
          exact mem_expire_recent_of_due hMem
        · rcases hNoise with rfl | rfl
          · cases hNone
          · simp at hNone
      · rw [hOut, List.mem_append] at h
        rw [hOut]
        rcases h with hDue | hPress
        · obtain ⟨entry, hMem, rfl⟩ := mem_expire hDue
          apply mem_pressPacket_recent (mem_expire_recent_of_due hMem)
          rw [FullDuring, hCall] at hRoom
          exact hRoom
        · obtain ⟨rfl, -, -, -, hRecent⟩ := mem_pressPacket hPress
          exact hRecent
  | expire visit =>
      rw [hCall] at h
      obtain ⟨entry, hMem, rfl⟩ := mem_expire h
      exact mem_expire_recent_of_due hMem
  | updateConfig config =>
      rw [hCall] at h
      cases h

@[simp] theorem answer_config {c : TimedCall} (h : c.Keeps parser.config) :
    (parser.answer c).2.config = parser.config := by
  rw [answer]
  cases hCall : c.call with
  | observePacket visit packet => exact observePacket_faithful.config_eq
  | expire visit => exact expire_config
  | updateConfig config =>
      have hSame := h config hCall
      subst hSame
      simp only [updateConfig, ne_eq, not_true_eq_false, if_false]

/-- After some calls that keep the configuration a press is still remembered, or its time is
over, or the table was full. -/
theorem remembered_afterCalls {entry : EventKey × Nat} {calls : List TimedCall}
    (h : entry ∈ parser.recent) (hKeeps : ∀ c ∈ calls, c.Keeps parser.config) :
    entry ∈ (parser.afterCalls calls).recent ∨ (∃ c ∈ calls, entry.2 + recentTtl ≤ c.time) ∨
      ∃ before c rest, calls = before ++ c :: rest ∧ (parser.afterCalls before).FullDuring c := by
  induction calls generalizing parser with
  | nil =>
      left
      exact h
  | cons c calls ih =>
      have hKeep := hKeeps c List.mem_cons_self
      by_cases hFull : parser.FullDuring c
      · right; right
        exact ⟨[], c, calls, rfl, hFull⟩
      · by_cases hOld : entry.2 + recentTtl ≤ c.time
        · right; left
          exact ⟨c, List.mem_cons_self, hOld⟩
        · have hNext := mem_answer_recent h hKeep (Nat.lt_of_not_le hOld) hFull
          have hRest : ∀ d ∈ calls, d.Keeps (parser.answer c).2.config := by
            intro d hMem
            rw [answer_config hKeep]
            exact hKeeps d (List.mem_cons_of_mem c hMem)
          rcases ih hNext hRest with hKept | ⟨d, hMem, hOver⟩ | ⟨before, d, rest, hSplit, hFull'⟩
          · exact .inl hKept
          · right; left
            exact ⟨d, List.mem_cons_of_mem c hMem, hOver⟩
          · right; right
            refine ⟨c :: before, d, rest, ?_, hFull'⟩
            rw [hSplit, List.cons_append]

/-- Under one configuration a press is completed a second time only when the time for which it
is remembered is over or after the table was full. -/
theorem Kept.completed_again (h : parser.Kept) {first second : TimedCall}
    {between : List TimedCall} (hOrdered : TimedCall.Ordered (first :: between ++ [second]))
    (hKeeps : ∀ c ∈ first :: between, c.Keeps parser.config)
    (hFirst : key ∈ completedKeys (parser.answer first).1)
    (hSecond : key ∈
      completedKeys ((parser.afterCalls (first :: between)).answer second).1) :
    first.time + recentTtl ≤ second.time ∨
      ∃ before c rest, first :: between = before ++ c :: rest ∧
        (parser.afterCalls before).FullDuring c := by
  by_cases hFull : parser.FullDuring first
  · right
    exact ⟨[], first, between, rfl, hFull⟩
  · obtain ⟨digit, hDigit, hKey⟩ := mem_completedKeys.mp hFirst
    obtain ⟨digit', hDigit', hKey'⟩ := mem_completedKeys.mp hSecond
    have hRecent := mem_recent_of_completes hDigit hFull
    rw [hKey, ← hKey'] at hRecent
    have hConfig := answer_config (hKeeps first List.mem_cons_self)
    have hRest : ∀ c ∈ between, c.Keeps (parser.answer first).2.config := by
      intro c hMem
      rw [hConfig]
      exact hKeeps c (List.mem_cons_of_mem first hMem)
    have hLater : ∀ c ∈ between, c.time ≤ second.time := by
      intro c hMem
      apply (List.pairwise_append.mp hOrdered).2.2 c (List.mem_cons_of_mem first hMem)
      exact List.mem_singleton_self second
    rcases remembered_afterCalls hRecent hRest with hKept | ⟨c, hMem, hOver⟩ |
      ⟨before, c, rest, hSplit, hFull'⟩
    · left
      have hAfter := h.afterCalls (first :: between)
      exact hAfter.ttl_of_completes hKept (answer_completes hDigit')
    · left
      exact hOver.trans (hLater c hMem)
    · right
      refine ⟨first :: before, c, rest, ?_, hFull'⟩
      rw [hSplit, List.cons_append]

end Rfc4733Parser

end VoipSwitch.Media
