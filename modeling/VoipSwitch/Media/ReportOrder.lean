import VoipSwitch.Lib.Arrivals
import VoipSwitch.Media.Durations

/-! The order in which presses are reported. Several presses that are due in one call are
reported as the hash map lists them, so their order is that of the presses exactly when not
more than one is due. -/
namespace VoipSwitch.Media

open Keyed Arrivals
open Framed (Bytes)

namespace TimedCall

/-- The press that the call brings a packet of. -/
def pressKey (config : ParserConfig) (c : TimedCall) : Option EventKey :=
  match c.call with
  | .observePacket _ packet =>
    (config.activeCapability.bind (Rfc4733Parser.pressOf · packet)).map (·.key)
  | .expire _ | .updateConfig _ => none

/-- The call with another order of the hash map. -/
def visitedIn (visit : Rfc4733Parser.Visit) (c : TimedCall) : TimedCall :=
  match c.call with
  | .observePacket _ packet => { c with call := .observePacket visit packet }
  | .expire _ => { c with call := .expire visit }
  | .updateConfig _ => c

end TimedCall

/-- The presses of a sequence of packets, packet by packet. -/
def pressKeys (config : ParserConfig) (calls : List TimedCall) : List EventKey :=
  calls.filterMap (TimedCall.pressKey config)

/-- The packets of one source as it sends them, under one configuration: the packets of a press
come together, and time does not run back. -/
structure InSendingOrder (config : ParserConfig) (calls : List TimedCall) : Prop where
  steady : ∀ c ∈ calls, ∀ config', c.call ≠ .updateConfig config'
  ordered : TimedCall.Ordered calls
  oneSource : ∀ key ∈ pressKeys config calls, ∀ key' ∈ pressKeys config calls,
    key.ssrc = key'.ssrc
  together : Contiguous (pressKeys config calls)

namespace Rfc4733Parser

variable {config : ParserConfig} {past : List TimedCall} {c : TimedCall} {key : EventKey}
variable {visit : Visit} {parser : Rfc4733Parser}

/-- The presses that are due at a time. -/
def duePresses (parser : Rfc4733Parser) (now : Nat) : List Entry :=
  parser.active.entries.filter fun entry => due now entry.2

theorem afterCalls_config (hKeeps : ∀ d ∈ past, d.Keeps parser.config) :
    (parser.afterCalls past).config = parser.config := by
  induction past generalizing parser with
  | nil => rfl
  | cons d past ih =>
      have hConfig := answer_config (hKeeps d List.mem_cons_self)
      have hRest : ∀ e ∈ past, e.Keeps (parser.answer d).2.config := by
        intro e hMem
        rw [hConfig]
        exact hKeeps e (List.mem_cons_of_mem d hMem)
      exact (ih hRest).trans hConfig

/-- An open press has been named by a packet. -/
theorem mem_pressKeys_of_open (hKeeps : ∀ d ∈ past, d.Keeps config) {press : ActivePress}
    (hGet : (({ config } : Rfc4733Parser).afterCalls past).active.get key = some press) :
    key ∈ pressKeys config past := by
  have hConfig := @afterCalls_config _ { config } hKeeps
  obtain ⟨capability, earlier, since, hTracked, hMax⟩ := tracked_afterCalls config past hGet
  have hCapable := hTracked.capable
  rw [hConfig] at hCapable
  have hField := List.max?_mem hMax
  rw [fieldsOf, List.mem_flatMap] at hField
  obtain ⟨d, hMem, hField⟩ := hField
  rw [pressKeys, List.mem_filterMap]
  refine ⟨d, ?_, ?_⟩
  · rw [hTracked.split]
    exact List.mem_append_right _ hMem
  · rw [TimedCall.field] at hField
    split at hField
    · next visit packet hCall =>
        split at hField
        · next found hFound =>
            split at hField
            · next hSame =>
                simp only at hCapable
                rw [TimedCall.pressKey, hCall]
                simp only [hCapable, Option.bind_some, hFound, Option.map_some, hSame]
            · cases hField
        · cases hField
    · cases hField
    · cases hField

theorem dueEntries_perm :
    (dueEntries visit c.time parser).Perm (parser.duePresses c.time) :=
  (visit.perm _).filter _

/-- A call reports what is due as the hash map lists it, and then at most the press of its own
packet. -/
theorem completedKeys_visitedIn (hSteady : ∀ config', c.call ≠ .updateConfig config') :
    completedKeys (parser.answer (c.visitedIn visit)).1 =
        (dueEntries visit c.time parser).map Prod.fst ∨
      ∃ last, c.pressKey parser.config = some last ∧
        last ∉ (dueEntries visit c.time parser).map Prod.fst ∧
        completedKeys (parser.answer (c.visitedIn visit)).1 =
          (dueEntries visit c.time parser).map Prod.fst ++ [last] := by
  rw [answer, TimedCall.visitedIn]
  cases hCall : c.call with
  | observePacket order packet =>
      rcases @completedKeys_observePacket parser c.time visit packet with hKeys |
        ⟨capability, found, hCapability, hFound, hNew, hKeys⟩
      · exact .inl hKeys
      · right
        refine ⟨found.key, ?_, hNew, hKeys⟩
        rw [TimedCall.pressKey, hCall]
        simp only [hCapability, Option.bind_some, hFound, Option.map_some]
  | expire order => exact .inl completedKeys_expire
  | updateConfig config => exact absurd hCall (hSteady config)

end Rfc4733Parser

open Rfc4733Parser

variable {config : ParserConfig} {past : List TimedCall} {c : TimedCall} {key : EventKey}
variable {visit : Visit}

theorem pressKeys_append (past : List TimedCall) (c : TimedCall) :
    pressKeys config (past ++ [c]) = pressKeys config past ++ (c.pressKey config).toList := by
  rw [pressKeys, List.filterMap_append, List.filterMap_cons, List.filterMap_nil]
  cases c.pressKey config <;> rfl

namespace InSendingOrder

theorem keeps (h : InSendingOrder config (past ++ [c])) (config' : ParserConfig) :
    ∀ d ∈ past, d.Keeps config' := by
  intro d hMem config'' hCall
  exact absurd hCall (h.steady d (List.mem_append_left _ hMem) config'')

/-- The press of the last packet is the last that has arrived. -/
theorem arrivals_last (h : InSendingOrder config (past ++ [c]))
    (hKey : c.pressKey config = some key) :
    ∃ earlier, arrivals (pressKeys config (past ++ [c])) = earlier ++ [key] := by
  apply h.together.arrivals_last
  rw [pressKeys_append, hKey]
  exact List.getLast?_concat

theorem due_mem (h : InSendingOrder config (past ++ [c]))
    (hKey : key ∈ (dueEntries visit c.time (({ config } : Rfc4733Parser).afterCalls past)).map
      Prod.fst) : key ∈ arrivals (pressKeys config (past ++ [c])) := by
  obtain ⟨press, hGet, -⟩ := mem_keys_dueEntries.mp hKey
  have hMem := mem_pressKeys_of_open (h.keeps config) hGet
  rw [mem_arrivals, pressKeys_append]
  exact List.mem_append_left _ hMem

/-- With one press due at most, the reports are in the order in which the presses have
arrived. -/
theorem sublist_of_due (h : InSendingOrder config (past ++ [c]))
    (hDue : ((({ config } : Rfc4733Parser).afterCalls past).duePresses c.time).length ≤ 1)
    (visit : Visit) :
    (completedKeys ((({ config } : Rfc4733Parser).afterCalls past).answer
      (c.visitedIn visit)).1).Sublist (arrivals (pressKeys config (past ++ [c]))) := by
  have hSteady := h.steady c (List.mem_append_right _ (List.mem_singleton_self c))
  have hConfig := @afterCalls_config _ { config } (h.keeps config)
  have hDueMem := fun key => @InSendingOrder.due_mem _ _ _ key visit h
  have hKeys := @completedKeys_visitedIn _ visit
    (({ config } : Rfc4733Parser).afterCalls past) hSteady
  rw [← (@dueEntries_perm _ visit _).length_eq] at hDue
  generalize dueEntries visit c.time (({ config } : Rfc4733Parser).afterCalls past) = due
    at hDue hDueMem hKeys
  rcases hKeys with hKeys | ⟨last, hLast, hNew, hKeys⟩
  · rw [hKeys]
    match due, hDue, hDueMem with
    | [], _, _ => exact List.nil_sublist _
    | [entry], _, hDueMem =>
        exact List.singleton_sublist.mpr (hDueMem entry.1 List.mem_cons_self)
  · rw [hConfig] at hLast
    obtain ⟨earlier, hArrivals⟩ := h.arrivals_last hLast
    rw [hKeys, hArrivals]
    apply List.Sublist.append_right
    match due, hDue, hDueMem, hNew with
    | [], _, _, _ => exact List.nil_sublist _
    | [entry], _, hDueMem, hNew =>
        apply List.singleton_sublist.mpr
        have hMem := hDueMem entry.1 List.mem_cons_self
        rw [hArrivals, List.mem_append, List.mem_singleton] at hMem
        apply hMem.resolve_right
        intro hSame
        apply hNew
        rw [← hSame]
        exact List.mem_cons_self

/-- The other order in which a hash map may yield its entries. -/
def backwards : Visit := ⟨List.reverse, List.reverse_perm⟩

def forwards : Visit := ⟨id, fun _ => List.Perm.refl _⟩

theorem due_sublist (hSteady : ∀ config', c.call ≠ .updateConfig config')
    {parser : Rfc4733Parser} {keys : List EventKey}
    (h : (completedKeys (parser.answer (c.visitedIn visit)).1).Sublist keys) :
    ((dueEntries visit c.time parser).map Prod.fst).Sublist keys := by
  rcases @completedKeys_visitedIn _ visit parser hSteady with
    hKeys | ⟨last, -, -, hKeys⟩
  · rw [hKeys] at h
    exact h
  · rw [hKeys] at h
    exact (List.sublist_append_left _ _).trans h

theorem due_of_sublist (h : InSendingOrder config (past ++ [c]))
    (hOrder : ∀ visit,
      (completedKeys ((({ config } : Rfc4733Parser).afterCalls past).answer
        (c.visitedIn visit)).1).Sublist (arrivals (pressKeys config (past ++ [c])))) :
    ((({ config } : Rfc4733Parser).afterCalls past).duePresses c.time).length ≤ 1 := by
  have hSteady := h.steady c (List.mem_append_right _ (List.mem_singleton_self c))
  have hForwards := due_sublist hSteady (hOrder forwards)
  have hBackwards := due_sublist hSteady (hOrder backwards)
  have hReverse : (dueEntries backwards c.time
      (({ config } : Rfc4733Parser).afterCalls past)).map Prod.fst =
      ((dueEntries forwards c.time
        (({ config } : Rfc4733Parser).afterCalls past)).map Prod.fst).reverse := by
    rw [← List.map_reverse]
    exact congrArg (List.map Prod.fst) List.filter_reverse
  rw [hReverse] at hBackwards
  have hLength := length_le_one_of_sublist (arrivals_nodup _) hForwards hBackwards
  rw [List.length_map] at hLength
  exact hLength

end InSendingOrder

/-- The presses that a call reports are, for every order of the hash map, in the order in which
they were first seen exactly when no more than one open press is due. -/
theorem reported_in_order_iff (h : InSendingOrder config (past ++ [c])) :
    (∀ visit, (completedKeys ((({ config } : Rfc4733Parser).afterCalls past).answer
      (c.visitedIn visit)).1).Sublist (arrivals (pressKeys config (past ++ [c])))) ↔
    ((({ config } : Rfc4733Parser).afterCalls past).duePresses c.time).length ≤ 1 := by
  constructor
  · intro hOrder
    exact h.due_of_sublist hOrder
  · intro hDue visit
    exact h.sublist_of_due hDue visit

/-- Digits on payload type 101, as peers usually agree on them. -/
def observedDigits : ParserConfig where
  generation := 1
  capability := some
    { payloadType := 101, clockRate := 8000, events := List.range 16 |>.map UInt8.ofNat,
      detectable := true }
  mode := .observe

/-- The first packet of a press of the source 7. -/
def firstPacket (timestamp : UInt8) (event : UInt8) : Bytes :=
  [0x80, 101, 0, 1, 0, 0, 0, timestamp, 0, 0, 0, 7, event, 0, 0, 80]

/-- A press of 5 and a press of 6 that lose all their other packets. -/
def twoAbandoned : List TimedCall :=
  [⟨0, .observePacket InSendingOrder.forwards (firstPacket 42 5)⟩,
    ⟨millis 100, .observePacket InSendingOrder.forwards (firstPacket 142 6)⟩]

def lateExpiry (visit : Visit) : TimedCall := ⟨millis 1000, .expire visit⟩

theorem twoAbandoned_keys (visit : Visit) :
    pressKeys observedDigits (twoAbandoned ++ [lateExpiry visit]) = [⟨7, 42, 5⟩, ⟨7, 142, 6⟩] := by
  rfl

theorem twoAbandoned_inSendingOrder (visit : Visit) :
    InSendingOrder observedDigits (twoAbandoned ++ [lateExpiry visit]) := by
  constructor
  · intro c hMem config'
    simp only [twoAbandoned, lateExpiry, List.cons_append, List.nil_append, List.mem_cons,
      List.not_mem_nil, or_false] at hMem
    rcases hMem with rfl | rfl | rfl <;> simp
  · simp [TimedCall.Ordered, twoAbandoned, lateExpiry, millis]
  · rw [twoAbandoned_keys]
    decide
  · rw [twoAbandoned_keys]
    decide

/-- The two presses are reported in the order in which they were not pressed. -/
theorem reports_swapped :
    InSendingOrder observedDigits (twoAbandoned ++ [lateExpiry InSendingOrder.backwards]) ∧
    ¬ (completedKeys ((({ config := observedDigits } : Rfc4733Parser).afterCalls
        twoAbandoned).answer (lateExpiry InSendingOrder.backwards)).1).Sublist
      (arrivals (pressKeys observedDigits
        (twoAbandoned ++ [lateExpiry InSendingOrder.backwards]))) := by
  refine ⟨twoAbandoned_inSendingOrder _, ?_⟩
  rw [twoAbandoned_keys]
  decide

theorem reported_in_order_iff_twoAbandoned :
    ¬ ∀ visit, (completedKeys ((({ config := observedDigits } : Rfc4733Parser).afterCalls
        twoAbandoned).answer ((lateExpiry InSendingOrder.forwards).visitedIn visit)).1).Sublist
      (arrivals (pressKeys observedDigits
        (twoAbandoned ++ [lateExpiry InSendingOrder.forwards]))) := by
  rw [reported_in_order_iff (twoAbandoned_inSendingOrder _)]
  decide

end VoipSwitch.Media
