import Mathlib.Data.List.Induction
import VoipSwitch.Media.Completions

/-! How long a reported press lasted. The table holds the longest duration that the packets of
an open press have named, and the report is that duration on the clock of the stream. -/
namespace VoipSwitch.Media

open Keyed
open Framed (Bytes)

/-- The duration that the call's packet names for the press. -/
def TimedCall.field (capability : DtmfCapability) (key : EventKey) (c : TimedCall) : List Nat :=
  match c.call with
  | .observePacket _ packet =>
    match Rfc4733Parser.pressOf capability packet with
    | some found => if found.key = key then [found.duration] else []
    | none => []
  | .expire _ | .updateConfig _ => []

/-- All durations that the packets of some calls name for the press. -/
def fieldsOf (capability : DtmfCapability) (key : EventKey) (calls : List TimedCall) : List Nat :=
  calls.flatMap (TimedCall.field capability key)

namespace Rfc4733Parser

/-- The calls `since` are those from the one that opened the press. -/
structure OpenSince (start : Rfc4733Parser) (key : EventKey) (earlier since : List TimedCall) :
    Prop where
  closed : (start.afterCalls earlier).active.get key = none
  opened : ∀ seen, seen ≠ [] → seen <+: since →
    ((start.afterCalls (earlier ++ seen)).active.get key).isSome

variable {start parser : Rfc4733Parser} {key : EventKey} {press : ActivePress} {now : Nat}
variable {visit : Visit} {found : PressPacket} {capability : DtmfCapability} {c : TimedCall}

theorem max?_append {l r : List Nat} {m : Nat} (h : l.max? = some m) :
    (l ++ r).max? = (m :: r).max? := by
  cases l with
  | nil => cases h
  | cons a l =>
      rw [List.max?_cons', Option.some.injEq] at h
      rw [List.cons_append, List.max?_cons', List.max?_cons', List.foldl_append, h]

theorem get_of_expire (h : (parser.expire visit.order now).2.active.get key = some press) :
    parser.active.get key = some press := by
  rw [expire_eq, Table.get_retain_eq_some] at h
  exact h.1

/-- A press that expiry takes away is remembered. -/
theorem get_eq_none_of_expire (h : (parser.expire visit.order now).2.active.get key = none)
    (hNew : key ∉ (parser.expire visit.order now).2.recent.map Prod.fst) :
    parser.active.get key = none := by
  cases hGet : parser.active.get key with
  | none => rfl
  | some press =>
      rw [keys_expire, List.mem_append, not_or, mem_keys_dueEntries] at hNew
      rw [expire_eq, Table.get_retain, hGet, Option.filter_eq_none_iff] at h
      have hDue := h press rfl
      rw [Bool.not_eq_true', Bool.not_eq_false] at hDue
      exact absurd ⟨press, hGet, hDue⟩ hNew.2

/-- The duration that a packet names for the press. -/
def PressPacket.field (found : PressPacket) (key : EventKey) : List Nat :=
  if found.key = key then [found.duration] else []

/-- A packet leaves in an open press the longest duration that it has seen, or opens it. -/
theorem Kept.pressPacket_get (h : parser.Kept)
    (hGet : (parser.pressPacket found now).2.active.get key = some press) :
    (∃ old, parser.active.get key = some old ∧
      (old.maxDuration :: found.field key).max? = some press.maxDuration) ∨
    (parser.active.get key = none ∧ found.field key = [press.maxDuration] ∧
      key ∉ parser.recent.map Prod.fst) := by
  have hPressed := pressPacket_pressed parser found now
  generalize parser.pressPacket found now = out at hPressed hGet
  rw [PressPacket.field]
  cases hPressed with
  | known hKnown =>
      left
      refine ⟨press, hGet, ?_⟩
      rw [if_neg]
      · rfl
      · intro hSame
        rw [hSame] at hKnown
        rw [h.disjoint key hKnown] at hGet
        cases hGet
  | shorter _ hOld hShorter =>
      left
      refine ⟨press, hGet, ?_⟩
      split
      · next hSame =>
          rw [hSame, hGet] at hOld
          cases hOld
          simp only [List.max?_cons', List.foldl_cons, List.foldl_nil, Option.some.injEq]
          omega
      · rfl
  | full _ hNone =>
      left
      rw [withRoom_active] at hGet
      refine ⟨press, hGet, ?_⟩
      rw [if_neg]
      · rfl
      · intro hSame
        rw [hSame, hGet] at hNone
        cases hNone
  | held hNew hLonger =>
      simp only at hGet
      rw [Table.get_insert] at hGet
      split at hGet
      · next hSame =>
          subst hSame
          rw [if_pos rfl]
          cases hGet
          rw [pressAfter]
          cases hOld : parser.active.get found.key with
          | none =>
              right
              exact ⟨rfl, rfl, hNew⟩
          | some old =>
              left
              refine ⟨old, rfl, ?_⟩
              have hLe := hLonger old hOld
              simp only [List.max?_cons', List.foldl_cons, List.foldl_nil, Option.some.injEq]
              omega
      · next hOther =>
          left
          refine ⟨press, hGet, ?_⟩
          rw [if_neg hOther]
          rfl
  | ended =>
      left
      simp only [Table.remove_insert] at hGet
      rw [Table.get_remove] at hGet
      split at hGet
      · cases hGet
      · next hOther =>
          refine ⟨press, hGet, ?_⟩
          rw [if_neg hOther]
          rfl

theorem field_observePacket {packet : Bytes} (hCall : c.call = .observePacket visit packet) :
    c.field capability key =
      match pressOf capability packet with
      | some found => found.field key
      | none => [] := by
  rw [TimedCall.field, hCall]
  rfl

/-- The same over any call: an open press stays and has the longest duration seen, or this
call has opened it. -/
theorem Kept.answer_get (h : parser.Kept)
    (hGet : (parser.answer c).2.active.get key = some press) :
    (parser.answer c).2.config = parser.config ∧
    ((∃ old, parser.active.get key = some old ∧
      ∀ capability, parser.config.activeCapability = some capability →
        (old.maxDuration :: c.field capability key).max? = some press.maxDuration) ∨
    (parser.active.get key = none ∧
      ∃ capability, parser.config.activeCapability = some capability ∧
        c.field capability key = [press.maxDuration])) := by
  rw [Rfc4733Parser.answer] at hGet ⊢
  cases hCall : c.call with
  | observePacket visit packet =>
      rw [hCall] at hGet
      simp only at hGet ⊢
      refine ⟨observePacket_faithful.config_eq, ?_⟩
      rcases observePacket_cases visit packet c.time parser with
        ⟨hNone, noise, -, hOut⟩ | ⟨capability, found, hCapability, hFound, hOut⟩
      · rw [hOut] at hGet
        left
        refine ⟨press, get_of_expire hGet, ?_⟩
        intro capability hCapability
        rw [hCapability, Option.bind_some] at hNone
        rw [field_observePacket hCall, hNone]
        rfl
      · rw [hOut] at hGet
        rcases h.expire.pressPacket_get hGet with ⟨old, hOld, hMax⟩ | ⟨hNone, hField, hNew⟩
        · left
          refine ⟨old, get_of_expire hOld, ?_⟩
          intro capability' hCapability'
          rw [hCapability] at hCapability'
          cases hCapability'
          rw [field_observePacket hCall, hFound]
          exact hMax
        · right
          refine ⟨get_eq_none_of_expire hNone hNew, capability, hCapability, ?_⟩
          rw [field_observePacket hCall, hFound]
          exact hField
  | expire visit =>
      rw [hCall] at hGet
      refine ⟨expire_config, .inl ⟨press, get_of_expire hGet, ?_⟩⟩
      intro capability _
      rw [TimedCall.field, hCall]
      rfl
  | updateConfig config =>
      rw [hCall] at hGet
      simp only [updateConfig] at hGet ⊢
      split at hGet
      · cases hGet
      · next hSame =>
          rw [if_neg hSame]
          refine ⟨rfl, .inl ⟨press, hGet, ?_⟩⟩
          intro capability _
          rw [TimedCall.field, hCall]
          rfl

theorem afterCalls_append (calls : List TimedCall) (c : TimedCall) :
    start.afterCalls (calls ++ [c]) = ((start.afterCalls calls).answer c).2 := by
  rw [afterCalls, List.foldl_append]
  rfl

theorem OpenSince.append {earlier since : List TimedCall} (h : OpenSince start key earlier since)
    (hOpen : (((start.afterCalls (earlier ++ since)).answer c).2.active.get key).isSome) :
    OpenSince start key earlier (since ++ [c]) := by
  constructor
  · exact h.closed
  · intro seen hSeen hPrefix
    rcases List.prefix_concat_iff.mp hPrefix with hAll | hBefore
    · rw [hAll, ← List.append_assoc, afterCalls_append]
      exact hOpen
    · exact h.opened seen hSeen hBefore

/-- The press that the table holds after some calls is one whose longest duration is known. -/
structure Tracked (start : Rfc4733Parser) (calls : List TimedCall) (key : EventKey)
    (capability : DtmfCapability) (earlier since : List TimedCall) : Prop where
  split : calls = earlier ++ since
  capable : (start.afterCalls calls).config.activeCapability = some capability
  since : OpenSince start key earlier since

theorem tracked_afterCalls (config : ParserConfig) (calls : List TimedCall)
    (hGet : (({ config } : Rfc4733Parser).afterCalls calls).active.get key = some press) :
    ∃ capability earlier since,
      Tracked { config } calls key capability earlier since ∧
      (fieldsOf capability key since).max? = some press.maxDuration := by
  induction calls using List.reverseRecOn generalizing press with
  | nil => cases hGet
  | append_singleton calls c ih =>
      have hKept := (kept_fresh config).afterCalls calls
      rw [afterCalls_append] at hGet
      have hOpen := Option.isSome_of_eq_some hGet
      obtain ⟨hConfig, ⟨old, hOld, hMax⟩ | ⟨hNone, capability, hCapability, hField⟩⟩ :=
        hKept.answer_get hGet
      · obtain ⟨capability, earlier, since, hTracked, hFields⟩ := ih hOld
        refine ⟨capability, earlier, since ++ [c], ⟨?_, ?_, ?_⟩, ?_⟩
        · rw [hTracked.split, List.append_assoc]
        · rw [afterCalls_append, hConfig]
          exact hTracked.capable
        · apply hTracked.since.append
          rw [← hTracked.split]
          exact hOpen
        · rw [fieldsOf, List.flatMap_append, List.flatMap_singleton]
          rw [← hMax capability hTracked.capable]
          exact max?_append hFields
      · refine ⟨capability, calls, [c], ⟨rfl, ?_, ?_⟩, ?_⟩
        · rw [afterCalls_append, hConfig]
          exact hCapability
        · apply @OpenSince.append _ _ _ _ []
          · constructor
            · exact hNone
            · intro seen hSeen hPrefix
              exact absurd (List.prefix_nil.mp hPrefix) hSeen
          · rw [List.append_nil]
            exact hOpen
        · rw [fieldsOf, List.flatMap_singleton, hField]
          rfl

/-- What a call reports of a press, from the packets that the press has sent since it was
opened. Where the last packet has completed it, that packet counts too. -/
theorem completed_duration (config : ParserConfig) (calls : List TimedCall) (c : TimedCall)
    {digit : Rfc4733DigitCompleted}
    (h : .completed digit ∈ ((({ config } : Rfc4733Parser).afterCalls calls).answer c).1) :
    ∃ capability earlier since m,
      Tracked { config } calls digit.key capability earlier since ∧
      (fieldsOf capability digit.key (if digit.incompleteEnd then since else since ++ [c])).max? =
        some m ∧
      digit.durationMs = min (m * 1000 / capability.clockRate) maxPressDurationMs := by
  have hTracked := fun key press => @tracked_afterCalls key press config calls
  generalize hParser : ({ config } : Rfc4733Parser).afterCalls calls = parser at h hTracked
  cases answer_completes h with
  | @due visit entry hMem =>
      obtain ⟨capability, earlier, since, hSince, hMax⟩ :=
        hTracked entry.1 entry.2 (mem_dueEntries.mp hMem).1
      refine ⟨capability, earlier, since, entry.2.maxDuration, hSince, hMax, ?_⟩
      have hCapable := hSince.capable
      rw [hParser] at hCapable
      simp only [report, hCapable]
  | @ended visit packet capability found hCall hCapability hFound hEnded hNew hLonger hRecent =>
      have hField : c.field capability found.key = [found.duration] := by
        rw [field_observePacket hCall, hFound]
        exact if_pos rfl
      have hReport : ∀ press : ActivePress, press.maxDuration = found.duration →
          (report parser.config found.key press false).durationMs =
            min (found.duration * 1000 / capability.clockRate) maxPressDurationMs := by
        intro press hSame
        simp only [report, hCapability, hSame]
      cases hGet : (parser.expire visit.order c.time).2.active.get found.key with
      | none =>
          refine ⟨capability, calls, [], found.duration, ⟨?_, ?_, ?_, ?_⟩, ?_, ?_⟩
          · rw [List.append_nil]
          · rw [hParser]
            exact hCapability
          · rw [hParser]
            exact get_eq_none_of_expire hGet hNew
          · intro seen hSeen hPrefix
            exact absurd (List.prefix_nil.mp hPrefix) hSeen
          · have hOne : fieldsOf capability found.key ([] ++ [c]) = [found.duration] := by
              rw [List.nil_append, fieldsOf, List.flatMap_singleton, hField]
            exact congrArg List.max? hOne
          · apply hReport
            rw [pressAfter, hGet]
      | some old =>
          obtain ⟨capability', earlier, since, hSince, hMax⟩ :=
            hTracked found.key old (get_of_expire hGet)
          have hCapable := hSince.capable
          rw [hParser, hCapability] at hCapable
          cases hCapable
          refine ⟨capability, earlier, since, found.duration, hSince, ?_, ?_⟩
          · have hAll : (fieldsOf capability found.key (since ++ [c])).max? =
                (old.maxDuration :: [found.duration]).max? := by
              rw [fieldsOf, List.flatMap_append, List.flatMap_singleton, hField]
              exact max?_append hMax
            have hLe := hLonger old hGet
            have hLast : (old.maxDuration :: [found.duration]).max? = some found.duration := by
              simp only [List.max?_cons', List.foldl_cons, List.foldl_nil, Option.some.injEq]
              omega
            exact hAll.trans hLast
          · apply hReport
            rw [pressAfter, hGet]

/-- A duration field has two bytes. -/
theorem pressOf_duration_lt {packet : Bytes} (h : pressOf capability packet = some found) :
    found.duration < 65536 := by
  rw [pressOf] at h
  split at h
  · cases h
  · split at h
    · cases h
    · split at h
      · next event flags high low rest hPayload =>
          obtain ⟨digit, -, rfl⟩ := Option.map_eq_some_iff.mp h
          have hHigh := high.toNat_lt
          have hLow := low.toNat_lt
          simp only
          omega
      · cases h

theorem field_lt {d : Nat} (h : d ∈ c.field capability key) : d < 65536 := by
  rw [TimedCall.field] at h
  split at h
  · split at h
    · next found hFound =>
        split at h
        · rw [List.mem_singleton] at h
          rw [h]
          exact pressOf_duration_lt hFound
        · cases h
    · cases h
  · cases h
  · cases h

theorem fieldsOf_max_lt {calls : List TimedCall} {m : Nat}
    (h : (fieldsOf capability key calls).max? = some m) : m < 65536 := by
  have hMem := List.max?_mem h
  rw [fieldsOf, List.mem_flatMap] at hMem
  obtain ⟨c, -, hField⟩ := hMem
  exact field_lt hField

theorem parseRtp_two {packet : Bytes} {rtp : ParsedRtp} (h : parseRtp packet = .ok rtp) :
    ∃ first second rest, packet = first :: second :: rest ∧ first >>> 6 = 2 ∧
      rtp.payloadType = second &&& 0x7f := by
  rw [parseRtp] at h
  split at h
  · cases h
  · next hLength =>
      match packet, hLength with
      | [], hLength => exact absurd (by decide : 0 < 12) hLength
      | [_], hLength => exact absurd (by decide : 1 < 12) hLength
      | first :: second :: rest, _ =>
          obtain ⟨first', hFirst, h⟩ := ok_of_bind h
          cases hFirst
          split at h
          · cases h
          · next hVersion =>
              obtain ⟨header, -, h⟩ := ok_of_bind h
              obtain ⟨stop, -, h⟩ := ok_of_bind h
              obtain ⟨second', hSecond, h⟩ := ok_of_bind h
              cases hSecond
              obtain ⟨timestamp, -, h⟩ := ok_of_bind h
              obtain ⟨ssrc, -, h⟩ := ok_of_bind h
              obtain ⟨payload, -, h⟩ := ok_of_bind h
              cases h
              exact ⟨first, second, rest, rfl, Decidable.not_not.mp hVersion, rfl⟩

/-- Where digits are collected, what belongs to a press is not passed on. -/
theorem suppresses_of_pressOf {packet : Bytes} (hMode : parser.config.mode = .collect)
    (hCapability : parser.config.activeCapability = some capability)
    (hFound : pressOf capability packet = some found) :
    parser.suppressesPacket packet = true := by
  have hHas : parser.config.capability = some capability := by
    rw [ParserConfig.activeCapability, hMode] at hCapability
    exact hCapability
  rw [pressOf] at hFound
  split at hFound
  · cases hFound
  · next rtp hRtp =>
      split at hFound
      · cases hFound
      · next hType =>
          obtain ⟨first, second, rest, rfl, hVersion, hSecond⟩ := parseRtp_two hRtp
          rw [Decidable.not_not, hSecond] at hType
          rw [suppressesPacket, hMode, hHas]
          simp [hVersion, hType]

/-- A packet that is no press of the capability does nothing but what expiry does. -/
theorem observePacket_of_pressOf_none {packet : Bytes}
    (h : parser.config.activeCapability.bind (pressOf · packet) = none) :
    completedKeys (parser.observePacket visit.order packet now).1 =
        completedKeys (parser.expire visit.order now).1 ∧
      (parser.observePacket visit.order packet now).2 = (parser.expire visit.order now).2 := by
  rcases observePacket_cases visit packet now parser with
    ⟨-, noise, hNoise, hOut⟩ | ⟨capability, found, hCapability, hFound, -⟩
  · rw [hOut]
    refine ⟨?_, rfl⟩
    rw [completedKeys, List.filterMap_append]
    rcases hNoise with rfl | rfl
    · exact List.append_nil _
    · exact List.append_nil _
  · rw [hCapability, Option.bind_some, hFound] at h
    cases h

/-- When expiry comes to a press that is due, the press is there. -/
theorem complete_in_turn {before rest : List Entry} {entry : Entry}
    (h : dueEntries visit now parser = before ++ entry :: rest) :
    ((completeAll now (before.map Prod.fst) (parser.pruneRecent now)).2.complete entry.1 true
      now).isSome := by
  have hKeys := @dueEntries_nodup parser now visit
  have hDue : ∀ other ∈ before ++ entry :: rest,
      (parser.pruneRecent now).active.get other.1 = some other.2 := by
    intro other hMem
    rw [← h] at hMem
    exact (mem_dueEntries.mp hMem).1
  rw [h, List.map_append, List.map_cons] at hKeys
  obtain ⟨hBefore, -, hApart⟩ := List.nodup_append.mp hKeys
  have hAll := @completeAll_eq _ now _ hBefore
    fun other hMem => hDue other (List.mem_append_left _ hMem)
  have hGet : (completeAll now (before.map Prod.fst) (parser.pruneRecent now)).2.active.get
      entry.1 = some entry.2 := by
    rw [hAll, Table.get_retain_eq_some]
    refine ⟨hDue entry (List.mem_append_right _ List.mem_cons_self), ?_⟩
    rw [decide_eq_true_eq]
    intro hMem
    exact hApart _ hMem _ List.mem_cons_self rfl
  rw [complete_of_get true hGet]
  rfl

theorem completedKeys_expire :
    completedKeys (parser.expire visit.order now).1 =
      (dueEntries visit now parser).map Prod.fst := by
  rw [expire_eq, completedKeys, List.filterMap_map, ← List.filterMap_eq_map]
  rfl

/-- What a packet completes after expiry is at most one press, which expiry has not
completed. -/
theorem completedKeys_observePacket (packet : Bytes) :
    completedKeys (parser.observePacket visit.order packet now).1 =
        (dueEntries visit now parser).map Prod.fst ∨
      ∃ capability found, parser.config.activeCapability = some capability ∧
        pressOf capability packet = some found ∧
        found.key ∉ (dueEntries visit now parser).map Prod.fst ∧
        completedKeys (parser.observePacket visit.order packet now).1 =
          (dueEntries visit now parser).map Prod.fst ++ [found.key] := by
  rcases observePacket_cases visit packet now parser with
    ⟨hNone, -⟩ | ⟨capability, found, hCapability, hFound, hOut⟩
  · left
    rw [(observePacket_of_pressOf_none hNone).1, completedKeys_expire]
  · rw [hOut]
    have hAppend : ∀ others, completedKeys ((parser.expire visit.order now).1 ++ others) =
        (dueEntries visit now parser).map Prod.fst ++ completedKeys others := by
      intro others
      rw [← completedKeys_expire]
      exact List.filterMap_append
    have hPressed := pressPacket_pressed (parser.expire visit.order now).2 found now
    generalize (parser.expire visit.order now).2.pressPacket found now = out at hPressed
    simp only [hAppend]
    cases hPressed with
    | known => exact .inl (List.append_nil _)
    | shorter => exact .inl (List.append_nil _)
    | full => exact .inl (List.append_nil _)
    | held => exact .inl (List.append_nil _)
    | ended hNew =>
        right
        refine ⟨capability, found, hCapability, hFound, ?_, rfl⟩
        intro hDue
        apply hNew
        rw [keys_expire]
        exact List.mem_append_right _ hDue

theorem completedKeys_nodup (parser : Rfc4733Parser) (c : TimedCall) :
    (completedKeys (parser.answer c).1).Nodup := by
  rw [answer]
  cases c.call with
  | observePacket visit packet =>
      rcases @completedKeys_observePacket parser c.time visit packet with hKeys |
        ⟨-, found, -, -, hNew, hKeys⟩
      · simp only
        rw [hKeys]
        exact dueEntries_nodup
      · simp only
        rw [hKeys]
        exact List.Nodup.append dueEntries_nodup (List.nodup_singleton _)
          (List.disjoint_singleton.mpr hNew)
  | expire visit =>
      simp only
      rw [completedKeys_expire]
      exact dueEntries_nodup
  | updateConfig config => exact List.nodup_nil

/-- Over all calls on a parser: open and remembered presses are apart, each listed once, and
within the capacity; what expiry completes is there to be completed, and so is a press that a last
packet has just entered; a call reports a press once, and under one configuration a later call
reports it again only when it need no longer be remembered or after the table was full; what is
reported is the longest duration that the packets of the press have named, and not above 10 s; and
where digits are collected, the packets of a press are not passed on. -/
theorem digits_completed_once (config : ParserConfig) (past : List TimedCall) :
    let parser := ({ config } : Rfc4733Parser).afterCalls past
    ((parser.active.entries.map Prod.fst).Nodup ∧ (parser.recent.map Prod.fst).Nodup ∧
      (∀ key ∈ parser.recent.map Prod.fst, parser.active.get key = none) ∧
      parser.active.entries.length + parser.recent.length ≤ stateCapacity) ∧
    (∀ (visit : Visit) now before entry rest,
      dueEntries visit now parser = before ++ entry :: rest →
      ((completeAll now (before.map Prod.fst) (parser.pruneRecent now)).2.complete entry.1 true
        now).isSome) ∧
    (∀ (parser : Rfc4733Parser) key press now,
      (complete { parser with active := parser.active.insert key press } key false now).isSome) ∧
    (∀ first, (completedKeys (parser.answer first).1).Nodup ∧
      ∀ between second key, TimedCall.Ordered (first :: between ++ [second]) →
        (∀ c ∈ first :: between, c.Keeps parser.config) →
        key ∈ completedKeys (parser.answer first).1 →
        key ∈ completedKeys ((parser.afterCalls (first :: between)).answer second).1 →
          first.time + recentTtl ≤ second.time ∨
          ∃ before c rest, first :: between = before ++ c :: rest ∧
            (parser.afterCalls before).FullDuring c) ∧
    (∀ c digit, .completed digit ∈ (parser.answer c).1 →
      digit.durationMs ≤ 10000 ∧
      ∃ capability earlier since m,
        Tracked { config } past digit.key capability earlier since ∧
        (fieldsOf capability digit.key
          (if digit.incompleteEnd then since else since ++ [c])).max? = some m ∧
        digit.durationMs = min (m * 1000 / capability.clockRate) 10000 ∧
        (capability.clockRate = 8000 → digit.durationMs = m * 1000 / capability.clockRate)) ∧
    (∀ (visit : Visit) packet now, parser.config.mode = .collect →
      parser.suppressesPacket packet = false →
        (∀ capability, parser.config.activeCapability = some capability →
          pressOf capability packet = none) ∧
        completedKeys (parser.observePacket visit.order packet now).1 =
          completedKeys (parser.expire visit.order now).1 ∧
        (parser.observePacket visit.order packet now).2 = (parser.expire visit.order now).2) := by
  intro parser
  have hKept : parser.Kept := (kept_fresh config).afterCalls past
  refine ⟨⟨parser.active.keys_nodup, hKept.recent_nodup, hKept.disjoint, hKept.bounded⟩,
    ?_, ?_, ?_, ?_, ?_⟩
  · intro visit now before entry rest hSplit
    exact complete_in_turn hSplit
  · intro parser key press now
    rw [complete, Option.isSome_map, Table.get_insert_self]
    rfl
  · intro first
    refine ⟨completedKeys_nodup parser first, ?_⟩
    intro between second key hOrdered hKeeps hFirst hSecond
    exact hKept.completed_again hOrdered hKeeps hFirst hSecond
  · intro c digit hMem
    obtain ⟨capability, earlier, since, m, hTracked, hMax, hDuration⟩ :=
      completed_duration config past c hMem
    have hField := fieldsOf_max_lt hMax
    rw [maxPressDurationMs] at hDuration
    refine ⟨?_, capability, earlier, since, m, hTracked, hMax, hDuration, ?_⟩
    · rw [hDuration]
      exact Nat.min_le_right _ _
    · intro hRate
      rw [hDuration, hRate]
      omega
  · intro visit packet now hMode hPassed
    have hNone : ∀ capability, parser.config.activeCapability = some capability →
        pressOf capability packet = none := by
      intro capability hCapability
      cases hFound : pressOf capability packet with
      | none => rfl
      | some found =>
          rw [suppresses_of_pressOf hMode hCapability hFound] at hPassed
          cases hPassed
    refine ⟨hNone, observePacket_of_pressOf_none ?_⟩
    cases hCapability : parser.config.activeCapability with
    | none => rfl
    | some capability => exact hNone capability hCapability

end Rfc4733Parser

end VoipSwitch.Media
