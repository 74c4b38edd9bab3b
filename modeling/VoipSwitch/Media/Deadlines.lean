import VoipSwitch.Lib.Transition
import VoipSwitch.Media.Presses

/-! When a press whose last packet is lost is given up. The relay sleeps until the deadline
that the parser announces; no press is open past its deadline by more than the relay oversleeps. -/
namespace VoipSwitch.Media

open Keyed Transition
open Framed (Bytes)

namespace Rfc4733Parser

/-- When a press is due. -/
def deadline (press : ActivePress) : Nat :=
  min (press.lastSeen + idleTimeout) (press.firstSeen + millis maxPressDurationMs)

def nextDeadline (parser : Rfc4733Parser) : Option Nat :=
  (parser.active.entries.map fun entry => deadline entry.2).min?

/-- The press is open, and due at the given time. -/
def DueAt (parser : Rfc4733Parser) (time : Nat) : Prop :=
  ∃ key press, parser.active.get key = some press ∧ deadline press = time

variable {parser : Rfc4733Parser} {key : EventKey} {press : ActivePress} {now time : Nat}
variable {visit : Visit} {found : PressPacket}

theorem due_iff : due now press = true ↔ deadline press ≤ now := by
  rw [due, deadline, Bool.or_eq_true, decide_eq_true_eq, decide_eq_true_eq]
  omega

theorem mem_deadlines :
    (time ∈ parser.active.entries.map fun entry => deadline entry.2) ↔ parser.DueAt time := by
  rw [List.mem_map]
  constructor
  · rintro ⟨entry, hMem, hDue⟩
    exact ⟨entry.1, entry.2, Table.mem_entries.mp hMem, hDue⟩
  · rintro ⟨key, press, hGet, hDue⟩
    exact ⟨(key, press), Table.mem_entries.mpr hGet, hDue⟩

theorem nextDeadline_eq_some :
    parser.nextDeadline = some time ↔
      parser.DueAt time ∧ ∀ other, parser.DueAt other → time ≤ other := by
  rw [nextDeadline, List.min?_eq_some_iff]
  simp only [mem_deadlines]

theorem nextDeadline_eq_none :
    parser.nextDeadline = none ↔ ∀ key, parser.active.get key = none := by
  rw [nextDeadline, List.min?_eq_none_iff, List.map_eq_nil_iff, List.eq_nil_iff_forall_not_mem]
  constructor
  · intro hNone key
    rw [Option.eq_none_iff_forall_ne_some]
    intro press hGet
    exact hNone _ (Table.mem_entries.mpr hGet)
  · intro hNone entry hMem
    have hGet := Table.mem_entries.mp hMem
    rw [hNone] at hGet
    cases hGet

/-- No press is open that is due already. -/
def Punctual (parser : Rfc4733Parser) (now : Nat) : Prop :=
  ∀ key press, parser.active.get key = some press → now < deadline press

theorem Punctual.nextDeadline_gt (h : parser.Punctual now)
    (hNext : parser.nextDeadline = some time) :
    now < time := by
  obtain ⟨⟨key, press, hGet, hDue⟩, -⟩ := nextDeadline_eq_some.mp hNext
  rw [← hDue]
  exact h key press hGet

theorem expire_get :
    (parser.expire visit.order now).2.active.get key = some press ↔
      parser.active.get key = some press ∧ now < deadline press := by
  rw [expire_eq, Table.get_retain_eq_some, Bool.not_eq_true', ← Bool.not_eq_true, due_iff,
    Nat.not_le]

theorem expire_punctual :
    (parser.expire visit.order now).2.Punctual now := by
  intro key press hGet
  exact (expire_get.mp hGet).2

/-- A packet gives its press a new deadline, later than now. -/
theorem Punctual.pressAfter (h : parser.Punctual now) :
    now < deadline (parser.pressAfter found now) := by
  rw [Rfc4733Parser.pressAfter]
  split
  · next press hGet =>
      have hLater := h found.key press hGet
      simp only [deadline, idleTimeout, millis] at hLater ⊢
      omega
  · simp only [deadline, idleTimeout, millis, maxPressDurationMs]
    omega

theorem Punctual.pressPacket (h : parser.Punctual now) :
    (parser.pressPacket found now).2.Punctual now := by
  have hPressed := pressPacket_pressed parser found now
  generalize parser.pressPacket found now = out at hPressed
  intro key press hGet
  cases hPressed with
  | known => exact h key press hGet
  | shorter => exact h key press hGet
  | full =>
      rw [withRoom_active] at hGet
      exact h key press hGet
  | held =>
      rw [Table.get_insert] at hGet
      split at hGet
      · cases hGet
        exact h.pressAfter
      · exact h key press hGet
  | ended =>
      rw [Table.get_remove] at hGet
      split at hGet
      · cases hGet
      · next hOther =>
          rw [Table.get_insert_of_ne hOther] at hGet
          exact h key press hGet

theorem observePacket_punctual (packet : Bytes) :
    (parser.observePacket visit.order packet now).2.Punctual now := by
  rcases observePacket_cases visit packet now parser with
    ⟨-, noise, -, hOut⟩ | ⟨capability, found, -, -, hOut⟩
  · rw [hOut]
    exact expire_punctual
  · rw [hOut]
    exact expire_punctual.pressPacket

end Rfc4733Parser

open Rfc4733Parser

/-- The task that relays one direction, with its clock. -/
structure Relay where
  now : Nat
  parser : Rfc4733Parser

/-- What the relay's loop waits for: time passes, or one of its branches is taken. -/
inductive RelayStep where
  | elapse (to_ : Nat)
  | deadline (visit : Visit)
  | configChanged (config : ParserConfig)
  | packet (visit : Visit) (packet : Bytes)

namespace Relay

/-- The deadline's branch is taken once the announced deadline has come, and time does not
run past that deadline by more than `late`. -/
def enabled (late : Nat) (s : Relay) : RelayStep → Prop
  | .elapse to_ => s.now ≤ to_ ∧ ∀ time, s.parser.nextDeadline = some time → to_ ≤ time + late
  | .deadline _ => ∃ time, s.parser.nextDeadline = some time ∧ time ≤ s.now
  | .configChanged _ | .packet _ _ => True

def after (s : Relay) : RelayStep → Relay
  | .elapse to_ => { s with now := to_ }
  | .deadline visit => { s with parser := (s.parser.expire visit.order s.now).2 }
  | .configChanged config => { s with parser := s.parser.updateConfig config }
  | .packet visit packet => { s with parser := (s.parser.observePacket visit.order packet s.now).2 }

def system (late : Nat) : System Relay RelayStep where
  init s := s.parser = { config := s.parser.config }
  next s step t := s.enabled late step ∧ t = s.after step

/-- No press is open past its deadline by more than `late`. -/
def OnTime (late : Nat) (s : Relay) : Prop :=
  ∀ key press, s.parser.active.get key = some press →
    s.now ≤ Rfc4733Parser.deadline press + late

variable {late : Nat} {s : Relay}

theorem onTime_of_punctual (h : s.parser.Punctual s.now) : s.OnTime late := by
  intro key press hGet
  have hLater := h key press hGet
  omega

theorem OnTime.after (h : s.OnTime late) {step : RelayStep} (hEnabled : s.enabled late step) :
    (s.after step).OnTime late := by
  cases step with
  | elapse to_ =>
      intro key press hGet
      cases hNext : s.parser.nextDeadline with
      | none =>
          have hNone := nextDeadline_eq_none.mp hNext key
          rw [Relay.after] at hGet
          rw [hNone] at hGet
          cases hGet
      | some time =>
          have hTo := hEnabled.2 time hNext
          have hLeast := (nextDeadline_eq_some.mp hNext).2 _ ⟨key, press, hGet, rfl⟩
          rw [Relay.after]
          simp only
          omega
  | deadline visit => exact onTime_of_punctual expire_punctual
  | configChanged config =>
      rw [Relay.after, updateConfig]
      split
      · intro key press hGet
        cases hGet
      · exact h
  | packet visit packet => exact onTime_of_punctual (observePacket_punctual packet)

theorem onTime_of_reachable (h : Reachable (system late) s) : s.OnTime late := by
  apply h.invariant
  · intro s hInit key press hGet
    rw [hInit] at hGet
    cases hGet
  · intro s step t hOnTime hNext
    obtain ⟨hEnabled, rfl⟩ := hNext
    exact hOnTime.after hEnabled

end Relay

namespace Rfc4733Parser

/-- Expiry completes what is due, each press once, and leaves the rest; the announced deadline
is the least of the open presses, and later than now after an expiry; and a relay that sleeps
until it, and oversleeps by at most `late`, has no press open for longer past its deadline. -/
theorem expiry_meets_deadlines (parser : Rfc4733Parser) (visit : Visit) (now late : Nat) :
    (∃ completed : List Entry,
      (parser.expire visit.order now).1 =
        completed.map (fun entry => .completed (report parser.config entry.1 entry.2 true)) ∧
      (completed.map Prod.fst).Nodup ∧
      ∀ key press, (key, press) ∈ completed ↔ parser.active.get key = some press ∧
        (press.lastSeen + idleTimeout ≤ now ∨ press.firstSeen + millis maxPressDurationMs ≤ now)) ∧
    (∀ key press, (parser.expire visit.order now).2.active.get key = some press ↔
      parser.active.get key = some press ∧
        ¬ (press.lastSeen + idleTimeout ≤ now ∨
          press.firstSeen + millis maxPressDurationMs ≤ now)) ∧
    (∀ time, parser.nextDeadline = some time ↔
      parser.DueAt time ∧ ∀ other, parser.DueAt other → time ≤ other) ∧
    (parser.nextDeadline = none ↔ ∀ key, parser.active.get key = none) ∧
    (∀ time, (parser.expire visit.order now).2.nextDeadline = some time → now < time) ∧
    ∀ s, Reachable (Relay.system late) s → ∀ key press,
      s.parser.active.get key = some press → s.now ≤ deadline press + late := by
  refine ⟨⟨dueEntries visit now parser, ?_, dueEntries_nodup, ?_⟩, ?_, ?_, ?_, ?_, ?_⟩
  · rw [expire_eq]
  · intro key press
    rw [mem_dueEntries, due, Bool.or_eq_true, decide_eq_true_eq, decide_eq_true_eq]
  · intro key press
    rw [expire_get, deadline]
    apply and_congr_right
    intro _
    omega
  · intro time
    exact nextDeadline_eq_some
  · exact nextDeadline_eq_none
  · intro time hNext
    exact expire_punctual.nextDeadline_gt hNext
  · intro s hReachable
    exact Relay.onTime_of_reachable hReachable

end Rfc4733Parser

end VoipSwitch.Media
