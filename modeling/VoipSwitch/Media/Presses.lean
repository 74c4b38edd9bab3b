import VoipSwitch.Media.Parser

/-! What the parser's operations do to the presses: expiry completes all that is due in one
go, whatever the order in which the hash map is visited, and a packet concerns one press at
most. -/
namespace VoipSwitch.Media.Rfc4733Parser

open Keyed
open Framed (Bytes)

abbrev Entry : Type := EventKey × ActivePress

/-- An order in which a hash map may yield its entries, each of them once. -/
structure Visit where
  order : List Entry → List Entry
  perm : ∀ entries, (order entries).Perm entries

/-- What is reported of a press. -/
def report (config : ParserConfig) (key : EventKey) (press : ActivePress) (incompleteEnd : Bool) :
    Rfc4733DigitCompleted where
  generation := config.generation
  ssrc := key.ssrc
  timestamp := key.timestamp
  eventCode := key.event
  digit := press.digit
  durationMs :=
    min (press.maxDuration * 1000 /
      (match config.activeCapability with
        | some capability => capability.clockRate
        | none => 8000)) maxPressDurationMs
  incompleteEnd := incompleteEnd

/-- The presses that are due, in the order in which they are visited. -/
def dueEntries (visit : Visit) (now : Nat) (parser : Rfc4733Parser) :
    List Entry :=
  (visit.order parser.active.entries).filter fun entry => due now entry.2

variable {parser after : Rfc4733Parser} {key : EventKey} {press : ActivePress} {now : Nat}
variable {visit : Visit} {entry : Entry} {entries : List Entry}

theorem complete_of_get (incompleteEnd : Bool) (h : parser.active.get key = some press) :
    parser.complete key incompleteEnd now =
      some (report parser.config key press incompleteEnd,
        { parser with
          active := parser.active.remove key
          recent := parser.recent ++ [(key, now)] }) := by
  rw [complete, h]
  rfl

theorem remove_retain (t : Table EventKey ActivePress) (key : EventKey) (keys : List EventKey) :
    (t.remove key).retain (fun other _ => other ∉ keys) =
      t.retain fun other _ => other ∉ key :: keys := by
  ext other press
  rw [Table.remove, Table.get_retain_eq_some, Table.get_retain_eq_some, Table.get_retain_eq_some]
  simp only [decide_eq_true_eq, List.mem_cons, not_or]
  exact and_assoc

theorem retain_all (t : Table EventKey ActivePress) :
    t.retain (fun other _ => other ∉ ([] : List EventKey)) = t := by
  ext other press
  rw [Table.get_retain_eq_some]
  simp

/-- All the keys of a list of presses are completed, one after the other. -/
theorem completeAll_eq (hKeys : (entries.map Prod.fst).Nodup)
    (hActive : ∀ entry ∈ entries, parser.active.get entry.1 = some entry.2) :
    completeAll now (entries.map Prod.fst) parser =
      (entries.map fun entry => .completed (report parser.config entry.1 entry.2 true),
        { parser with
          active := parser.active.retain fun key _ => key ∉ entries.map Prod.fst
          recent := parser.recent ++ entries.map fun entry => (entry.1, now) }) := by
  induction entries generalizing parser with
  | nil =>
      rw [List.map_nil, completeAll, retain_all, List.map_nil, List.map_nil, List.append_nil]
  | cons entry entries ih =>
      obtain ⟨hNot, hRest⟩ := List.nodup_cons.mp hKeys
      have hSelf := hActive entry List.mem_cons_self
      have hOthers : ∀ other ∈ entries,
          (parser.active.remove entry.1).get other.1 = some other.2 := by
        intro other hMem
        rw [Table.get_remove_of_ne]
        · exact hActive other (List.mem_cons_of_mem _ hMem)
        · intro hSame
          rw [hSame] at hNot
          exact hNot (List.mem_map_of_mem hMem)
      rw [List.map_cons, completeAll, complete_of_get true hSelf]
      simp only
      rw [ih hRest hOthers]
      simp only [remove_retain, List.map_cons, List.append_assoc, List.singleton_append]

theorem mem_dueEntries :
    entry ∈ dueEntries visit now parser ↔
      parser.active.get entry.1 = some entry.2 ∧ due now entry.2 = true := by
  rw [dueEntries, List.mem_filter, (visit.perm _).mem_iff]
  rw [Table.mem_entries (k := entry.1) (v := entry.2)]

theorem dueEntries_nodup :
    ((dueEntries visit now parser).map Prod.fst).Nodup := by
  apply ((List.filter_sublist).map Prod.fst).nodup
  rw [((visit.perm _).map Prod.fst).nodup_iff]
  exact Table.keys_nodup _

/-- Keeping what is not in the list of due presses is keeping what is not due. -/
theorem retain_dueEntries :
    parser.active.retain (fun key _ => key ∉ (dueEntries visit now parser).map Prod.fst) =
      parser.active.retain fun _ press => !due now press := by
  ext key press
  rw [Table.get_retain_eq_some, Table.get_retain_eq_some]
  apply and_congr_right
  intro hGet
  rw [decide_eq_true_eq, Bool.not_eq_true', ← Bool.not_eq_true, not_iff_not, List.mem_map]
  constructor
  · rintro ⟨entry, hDue, rfl⟩
    obtain ⟨hEntry, hOver⟩ := mem_dueEntries.mp hDue
    rw [hGet] at hEntry
    cases hEntry
    exact hOver
  · intro hOver
    exact ⟨(key, press), mem_dueEntries.mpr ⟨hGet, hOver⟩, rfl⟩

/-- Expiry completes all presses that are due and keeps all others as they are. -/
theorem expire_eq :
    parser.expire visit.order now =
      ((dueEntries visit now parser).map fun entry =>
          .completed (report parser.config entry.1 entry.2 true),
        { parser with
          active := parser.active.retain fun _ press => !due now press
          recent := (parser.pruneRecent now).recent ++
            (dueEntries visit now parser).map fun entry => (entry.1, now) }) := by
  have hAll := @completeAll_eq (parser.pruneRecent now) now
    (dueEntries visit now parser) dueEntries_nodup
    (fun entry hMem => (mem_dueEntries.mp hMem).1)
  rw [← @retain_dueEntries _ _ visit]
  exact hAll

/-- What a packet says about a press. -/
structure PressPacket where
  key : EventKey
  digit : DtmfDigit
  duration : Nat
  ended : Bool
deriving DecidableEq

/-- The packet of a press that the capability lets through. -/
def pressOf (capability : DtmfCapability) (packet : Bytes) : Option PressPacket :=
  match parseRtp packet with
  | .error _ => none
  | .ok rtp =>
    if rtp.payloadType ≠ capability.payloadType then none
    else
      match rtp.payload with
      | event :: flags :: high :: low :: _ =>
        (mapEvent event capability).map fun digit =>
          ⟨⟨rtp.ssrc, rtp.timestamp, event.toNat⟩, digit, high.toNat * 256 + low.toNat,
            flags &&& 0x80 ≠ 0⟩
      | _ => none

/-- What a packet of a press does after expiry. -/
def pressPacket (parser : Rfc4733Parser) (found : PressPacket) (now : Nat) :
    List ParserObservation × Rfc4733Parser :=
  parser.press found.key found.digit found.duration found.ended now

/-- A packet that names no press is at most invalid; any other one is expiry and then what it
does to its press. -/
theorem observePacket_cases (visit : Visit) (packet : Bytes) (now : Nat)
    (parser : Rfc4733Parser) :
    (parser.config.activeCapability.bind (pressOf · packet) = none ∧
      ∃ noise, (noise = [] ∨ noise = [.invalid]) ∧
        parser.observePacket visit.order packet now =
          ((parser.expire visit.order now).1 ++ noise, (parser.expire visit.order now).2)) ∨
    (∃ capability found, parser.config.activeCapability = some capability ∧
      pressOf capability packet = some found ∧
      parser.observePacket visit.order packet now =
        ((parser.expire visit.order now).1 ++
          ((parser.expire visit.order now).2.pressPacket found now).1,
          ((parser.expire visit.order now).2.pressPacket found now).2)) := by
  have hConfig : (parser.expire visit.order now).2.config = parser.config :=
    expire_faithful.config_eq
  rw [observePacket, ← hConfig]
  generalize parser.expire visit.order now = expired
  obtain ⟨expired, parser⟩ := expired
  simp only
  cases hCapability : parser.config.activeCapability with
  | none =>
      left
      exact ⟨rfl, [], .inl rfl, by rw [List.append_nil]⟩
  | some capability =>
      simp only [Option.bind_some, Option.some.injEq]
      cases hRtp : parseRtp packet with
      | error fault =>
          left
          refine ⟨?_, [.invalid], .inr rfl, rfl⟩
          rw [pressOf, hRtp]
      | ok rtp =>
          simp only
          by_cases hType : rtp.payloadType ≠ capability.payloadType
          · left
            refine ⟨?_, [], .inl rfl, ?_⟩
            · rw [pressOf, hRtp]
              exact if_pos hType
            · rw [if_pos hType, List.append_nil]
          · rw [if_neg hType, observeEvent]
            have hPress : pressOf capability packet = (match rtp.payload with
                | event :: flags :: high :: low :: _ =>
                  (mapEvent event capability).map fun digit =>
                    ⟨⟨rtp.ssrc, rtp.timestamp, event.toNat⟩, digit,
                      high.toNat * 256 + low.toNat, flags &&& 0x80 ≠ 0⟩
                | _ => none) := by
              rw [pressOf, hRtp]
              exact if_neg hType
            -- four bytes make an event; every shorter payload is invalid
            rcases hPayload : rtp.payload with _ | ⟨event, _ | ⟨flags, _ | ⟨high, _ | ⟨low, rest⟩⟩⟩⟩
            case cons.cons.cons.cons =>
              simp only [hPayload] at hPress
              cases hDigit : mapEvent event capability with
              | none =>
                  left
                  rw [hDigit] at hPress
                  exact ⟨hPress, [], .inl rfl, by simp only [hDigit]⟩
              | some digit =>
                  right
                  rw [hDigit] at hPress
                  exact ⟨capability, _, rfl, hPress, by simp only [hDigit]; rfl⟩
            all_goals
              left
              rw [hPayload] at hPress
              exact ⟨hPress, [.invalid], .inr rfl, rfl⟩

/-- The press as the packet leaves it. -/
def pressAfter (parser : Rfc4733Parser) (found : PressPacket) (now : Nat) : ActivePress :=
  match parser.active.get found.key with
  | some press => { press with maxDuration := found.duration, lastSeen := now }
  | none =>
    { digit := found.digit, maxDuration := found.duration, firstSeen := now, lastSeen := now }

/-- Room for one more press is there, or is made by forgetting completed ones. -/
def withRoom (parser : Rfc4733Parser) (key : EventKey) : Rfc4733Parser :=
  match parser.active.get key with
  | some _ => parser
  | none => { parser with recent := makeRoom parser.active.entries.length parser.recent }

@[simp] theorem withRoom_config : (parser.withRoom key).config = parser.config := by
  rw [withRoom]
  split <;> rfl

@[simp] theorem withRoom_active : (parser.withRoom key).active = parser.active := by
  rw [withRoom]
  split <;> rfl

/-- What a packet of a press can do: nothing, or start or extend its press, or complete it. -/
inductive Pressed (parser : Rfc4733Parser) (found : PressPacket) (now : Nat) :
    List ParserObservation × Rfc4733Parser → Prop where
  | known (h : found.key ∈ parser.recent.map Prod.fst) : Pressed parser found now ([], parser)
  | shorter (hNew : found.key ∉ parser.recent.map Prod.fst) {press : ActivePress}
      (hGet : parser.active.get found.key = some press)
      (hShorter : found.duration < press.maxDuration) :
      Pressed parser found now ([.invalid], parser)
  | full (hNew : found.key ∉ parser.recent.map Prod.fst)
      (hGet : parser.active.get found.key = none)
      (hFull : stateCapacity ≤
        parser.active.entries.length + (parser.withRoom found.key).recent.length) :
      Pressed parser found now ([.invalid], parser.withRoom found.key)
  | held (hNew : found.key ∉ parser.recent.map Prod.fst)
      (hLonger : ∀ press, parser.active.get found.key = some press →
        press.maxDuration ≤ found.duration)
      (hRoom : parser.active.get found.key = none →
        parser.active.entries.length + (parser.withRoom found.key).recent.length <
          stateCapacity)
      (hOpen : found.ended = false) :
      Pressed parser found now
        ([], { parser.withRoom found.key with
          active := parser.active.insert found.key (parser.pressAfter found now) })
  | ended (hNew : found.key ∉ parser.recent.map Prod.fst)
      (hLonger : ∀ press, parser.active.get found.key = some press →
        press.maxDuration ≤ found.duration)
      (hRoom : parser.active.get found.key = none →
        parser.active.entries.length + (parser.withRoom found.key).recent.length <
          stateCapacity)
      (hEnded : found.ended = true) :
      Pressed parser found now
        ([.completed (report parser.config found.key (parser.pressAfter found now) false)],
          { parser.withRoom found.key with
            active := (parser.active.insert found.key (parser.pressAfter found now)).remove
              found.key
            recent := (parser.withRoom found.key).recent ++ [(found.key, now)] })

theorem hold_eq (key : EventKey) (press : ActivePress) (ended : Bool) :
    parser.hold key press ended now =
      if ended then
        ([.completed (report parser.config key press false)],
          { parser with
            active := (parser.active.insert key press).remove key
            recent := parser.recent ++ [(key, now)] })
      else ([], { parser with active := parser.active.insert key press }) := by
  rw [hold]
  have hGet : ({ parser with active := parser.active.insert key press } :
      Rfc4733Parser).active.get key = some press := Table.get_insert_self
  rw [complete_of_get false hGet]

theorem any_recent_iff :
    (parser.recent.any fun entry => entry.1 = key) = true ↔
      key ∈ parser.recent.map Prod.fst := by
  rw [List.any_eq_true, List.mem_map]
  simp only [decide_eq_true_eq]

/-- The press is noted, and completed with its last packet. -/
theorem pressed_of_hold {found : PressPacket} (hNew : found.key ∉ parser.recent.map Prod.fst)
    (hLonger : ∀ press, parser.active.get found.key = some press →
      press.maxDuration ≤ found.duration)
    (hRoom : parser.active.get found.key = none →
      parser.active.entries.length + (parser.withRoom found.key).recent.length < stateCapacity) :
    Pressed parser found now
      ((parser.withRoom found.key).hold found.key (parser.pressAfter found now)
        found.ended now) := by
  rw [hold_eq, withRoom_config, withRoom_active]
  split
  · next hEnded =>
      have hCase := @Pressed.ended _ _ now hNew hLonger hRoom hEnded
      simpa only [withRoom_config] using hCase
  · next hOpen =>
      have hCase := @Pressed.held _ _ now hNew hLonger hRoom (Bool.not_eq_true _ ▸ hOpen)
      simpa only [withRoom_config] using hCase

theorem pressPacket_pressed (parser : Rfc4733Parser) (found : PressPacket) (now : Nat) :
    Pressed parser found now (parser.pressPacket found now) := by
  rw [pressPacket, press]
  split
  · next hKnown => exact .known (any_recent_iff.mp hKnown)
  · next hNew =>
      have hFresh : found.key ∉ parser.recent.map Prod.fst := by
        intro hMem
        exact hNew (any_recent_iff.mpr hMem)
      split
      · next press hGet =>
          split
          · next hShorter => exact .shorter hFresh hGet hShorter
          · next hLonger =>
              have hHold := @pressed_of_hold _ now found hFresh
                (fun other hOther => by
                  rw [hGet] at hOther
                  cases hOther
                  exact Nat.le_of_not_lt hLonger)
                (fun hNone => by
                  rw [hGet] at hNone
                  cases hNone)
              simpa only [withRoom, pressAfter, hGet] using hHold
      · next hGet =>
          have hRoomOf : (parser.withRoom found.key) =
              { parser with recent := makeRoom parser.active.entries.length parser.recent } := by
            rw [withRoom, hGet]
          simp only
          split
          · next hFull =>
              rw [← hRoomOf]
              apply Pressed.full hFresh hGet
              rw [hRoomOf]
              exact hFull
          · next hRoom =>
              have hHold := @pressed_of_hold _ now found hFresh
                (fun other hOther => by
                  rw [hGet] at hOther
                  cases hOther)
                (fun _ => by
                  rw [hRoomOf]
                  exact Nat.lt_of_not_le hRoom)
              simpa only [withRoom, pressAfter, hGet] using hHold

end VoipSwitch.Media.Rfc4733Parser
