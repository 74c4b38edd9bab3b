import Mathlib.Data.List.Induction
import VoipSwitch.Media.Generations

/-! The leases on digit detection of a bridge and the mode of each direction: what acquiring and
releasing a lease does to the leases, and that the mode is then the strongest that an active
lease asks for. -/
namespace VoipSwitch.Media

open Keyed

variable {bridge : MediaBridge} {direction direction' : DtmfRelayDirection}
variable {leaseId : MediaCapabilityLeaseId} {lease : DtmfCapabilityLease}
variable {request : DtmfCapabilityLeaseRequest} {mode : DtmfMediaMode} {modes : List DtmfMediaMode}

theorem dominantMode_append (modes : List DtmfMediaMode) (mode : DtmfMediaMode) :
    MediaBridge.dominantMode (modes ++ [mode]) =
      if dtmfModePriority (MediaBridge.dominantMode modes) ≤ dtmfModePriority mode then mode
      else MediaBridge.dominantMode modes := by
  rw [MediaBridge.dominantMode, List.foldl_append]
  rfl

/-- The strongest of the modes. -/
theorem dominantMode_eq (modes : List DtmfMediaMode) :
    MediaBridge.dominantMode modes =
      if .collect ∈ modes then .collect
      else if .observe ∈ modes then .observe else .transparent := by
  induction modes using List.reverseRecOn with
  | nil => rfl
  | append_singleton modes mode ih =>
      rw [dominantMode_append, ih]
      simp only [List.mem_append, List.mem_singleton]
      by_cases hCollect : .collect ∈ modes <;> by_cases hObserve : .observe ∈ modes <;>
        cases mode <;> simp [hCollect, hObserve, dtmfModePriority]

/-- Only which modes there are matters. -/
theorem dominantMode_congr {modes' : List DtmfMediaMode}
    (h : ∀ mode, mode ∈ modes ↔ mode ∈ modes') :
    MediaBridge.dominantMode modes = MediaBridge.dominantMode modes' := by
  rw [dominantMode_eq, dominantMode_eq]
  simp only [h]

theorem priority_le_dominantMode (h : mode ∈ modes) :
    dtmfModePriority mode ≤ dtmfModePriority (MediaBridge.dominantMode modes) := by
  rw [dominantMode_eq]
  by_cases hCollect : .collect ∈ modes
  · rw [if_pos hCollect]
    cases mode <;> decide
  · rw [if_neg hCollect]
    by_cases hObserve : .observe ∈ modes
    · rw [if_pos hObserve]
      cases mode with
      | collect => exact absurd h hCollect
      | observe => decide
      | transparent => decide
    · cases mode with
      | collect => exact absurd h hCollect
      | observe => exact absurd h hObserve
      | transparent => exact Nat.zero_le _

theorem dominantMode_mem :
    MediaBridge.dominantMode modes = .transparent ∨ MediaBridge.dominantMode modes ∈ modes := by
  rw [dominantMode_eq]
  split
  · next h => exact .inr h
  · split
    · next h => exact .inr h
    · exact .inl rfl

theorem mem_activeModes :
    mode ∈ bridge.activeModes direction ↔
      ∃ leaseId lease, bridge.leases.get leaseId = some lease ∧ lease.active = true ∧
        lease.direction = direction ∧ lease.request.mode = mode := by
  rw [MediaBridge.activeModes, List.mem_map]
  constructor
  · rintro ⟨⟨leaseId, lease⟩, hMem, rfl⟩
    rw [List.mem_filter, Bool.and_eq_true, decide_eq_true_eq] at hMem
    exact ⟨leaseId, lease, Table.mem_entries.mp hMem.1, hMem.2.1, hMem.2.2, rfl⟩
  · rintro ⟨leaseId, lease, hGet, hActive, hDirection, hMode⟩
    refine ⟨(leaseId, lease), ?_, hMode⟩
    rw [List.mem_filter, Bool.and_eq_true, decide_eq_true_eq]
    exact ⟨Table.mem_entries.mpr hGet, hActive, hDirection⟩

theorem setDtmfMode_mode (current : ParserConfig) (mode : DtmfMediaMode) :
    (setDtmfMode current mode).mode = mode := by
  rw [setDtmfMode]
  split
  · next hSame => exact hSame
  · rfl
namespace MediaBridge

def dtmfMode (bridge : MediaBridge) (direction : DtmfRelayDirection) : DtmfMediaMode :=
  (bridge.relay direction).config.mode

/-- The mode is the strongest that an active lease asks for. -/
def Settled (bridge : MediaBridge) (direction : DtmfRelayDirection) : Prop :=
  bridge.dtmfMode direction = dominantMode (bridge.activeModes direction)

/-- Two active leases to collect the digits of one direction are the same. -/
def OneCollector (bridge : MediaBridge) : Prop :=
  ∀ leaseId leaseId' lease lease', bridge.leases.get leaseId = some lease →
    bridge.leases.get leaseId' = some lease' → lease.active = true → lease'.active = true →
    lease.direction = lease'.direction → lease.request.mode = .collect →
    lease'.request.mode = .collect → leaseId = leaseId'

@[simp] theorem configure_leases (f : ParserConfig → ParserConfig) :
    (bridge.configure direction f).leases = bridge.leases := by
  cases direction <;> rfl

theorem mode_configure_self (f : ParserConfig → ParserConfig) :
    (bridge.configure direction f).dtmfMode direction =
    (f (bridge.relay direction).config).mode := by
  rw [dtmfMode, relay_configure_self]

theorem mode_configure_of_ne (f : ParserConfig → ParserConfig) (h : direction' ≠ direction) :
    (bridge.configure direction f).dtmfMode direction' = bridge.dtmfMode direction' := by
  rw [dtmfMode, relay_configure_of_ne f h, dtmfMode]

theorem mode_negotiate (capability : Option DtmfCapability) (generation : Nat) :
    (bridge.configure direction (updateDtmfNegotiation · capability generation)).dtmfMode
    direction' =
      bridge.dtmfMode direction' := by
  by_cases hSame : direction' = direction
  · subst hSame
    rw [mode_configure_self]
    rfl
  · rw [mode_configure_of_ne _ hSame]

/-- Leases that are the same but for what is said of inactive ones ask for the same modes. -/
theorem settled_congr {bridge' : MediaBridge} (h : bridge.Settled direction)
    (hMode : bridge'.dtmfMode direction = bridge.dtmfMode direction)
    (hActive : ∀ mode, mode ∈ bridge'.activeModes direction ↔
      mode ∈ bridge.activeModes direction) : bridge'.Settled direction := by
  rw [Settled, hMode, dominantMode_congr hActive]
  exact h

variable {generation : Nat} {bridge' : MediaBridge}

/-- What an acquisition that goes on to wait has done. -/
structure Acquires (bridge : MediaBridge) (request : DtmfCapabilityLeaseRequest)
    (direction : DtmfRelayDirection) (generation : Nat) (bridge' : MediaBridge) : Prop where
  fresh : bridge.leases.get request.leaseId = none
  noConflict : request.mode = .collect → .collect ∉ bridge.activeModes direction
  leases : bridge'.leases = bridge.leases.insert request.leaseId
    { request, direction, readyGeneration := generation, active := true
      releasedGeneration := none }
  modeSelf : bridge'.dtmfMode direction =
    dominantMode (bridge.activeModes direction ++ [request.mode])
  modeOther : ∀ direction', direction' ≠ direction →
    bridge'.dtmfMode direction' = bridge.dtmfMode direction'

/-- An acquisition returns at once and changes nothing, or takes a new lease. -/
theorem acquire_cases (bridge : MediaBridge) (request : DtmfCapabilityLeaseRequest)
    (block : Except (String × String) Unit) :
    (∃ result, bridge.acquireDtmfCapability request block = (.returned result, bridge)) ∨
      ∃ direction generation bridge',
        bridge.acquireDtmfCapability request block = (.applies direction generation, bridge') ∧
          Acquires bridge request direction generation bridge' := by
  rw [acquireDtmfCapability]
  split
  · exact .inl ⟨_, rfl⟩
  split
  · exact .inl ⟨_, rfl⟩
  split
  · exact .inl ⟨_, rfl⟩
  next direction hDirection =>
    split
    · split
      · exact .inl ⟨_, rfl⟩
      split
      · exact .inl ⟨_, rfl⟩
      · exact .inl ⟨_, rfl⟩
    · next hFresh =>
        simp only
        split
        · exact .inl ⟨_, rfl⟩
        split
        · exact .inl ⟨_, rfl⟩
        split
        · exact .inl ⟨_, rfl⟩
        next hConflict =>
          split
          · exact .inl ⟨_, rfl⟩
          · right
            refine ⟨_, _, _, rfl, hFresh, ?_, ?_, ?_, ?_⟩
            · intro hCollect hMem
              exact hConflict ⟨hCollect, hMem⟩
            · simp only [configure_leases]
            · have hMode := @mode_configure_self bridge direction
                fun _ => setDtmfMode (bridge.relay direction).config
                  (dominantMode (bridge.activeModes direction ++ [request.mode]))
              rw [setDtmfMode_mode] at hMode
              exact hMode
            · intro direction' hOther
              exact mode_configure_of_ne _ hOther

theorem Acquires.get_self (h : Acquires bridge request direction generation bridge') :
    bridge'.leases.get request.leaseId = some
      { request, direction, readyGeneration := generation, active := true
        releasedGeneration := none } := by
  rw [h.leases, Table.get_insert_self]

theorem Acquires.mem_activeModes (h : Acquires bridge request direction generation bridge')
    {mode : DtmfMediaMode} :
    mode ∈ bridge'.activeModes direction' ↔
      mode ∈ bridge.activeModes direction' ∨ (direction' = direction ∧ mode = request.mode) := by
  rw [Media.mem_activeModes, Media.mem_activeModes, h.leases]
  constructor
  · rintro ⟨leaseId, lease, hGet, hActive, hDirection, hMode⟩
    rw [Table.get_insert] at hGet
    split at hGet
    · cases hGet
      exact .inr ⟨hDirection.symm, hMode.symm⟩
    · exact .inl ⟨leaseId, lease, hGet, hActive, hDirection, hMode⟩
  · rintro (⟨leaseId, lease, hGet, hActive, hDirection, hMode⟩ | ⟨rfl, rfl⟩)
    · refine ⟨leaseId, lease, ?_, hActive, hDirection, hMode⟩
      rw [Table.get_insert_of_ne]
      · exact hGet
      · intro hSame
        have hFresh := h.fresh
        rw [hSame, hGet] at hFresh
        cases hFresh
    · have hSelf := h.get_self
      rw [h.leases] at hSelf
      exact ⟨request.leaseId, _, hSelf, rfl, rfl, rfl⟩

theorem Acquires.settled (h : Acquires bridge request direction generation bridge')
    (hSettled : direction' ≠ direction → bridge.Settled direction') :
    bridge'.Settled direction' := by
  by_cases hSame : direction' = direction
  · subst hSame
    rw [Settled, h.modeSelf]
    apply dominantMode_congr
    intro mode
    rw [h.mem_activeModes, List.mem_append, List.mem_singleton]
    simp
  · apply settled_congr (hSettled hSame) (h.modeOther direction' hSame)
    intro mode
    rw [h.mem_activeModes]
    simp [hSame]

theorem Acquires.oneCollector (h : Acquires bridge request direction generation bridge')
    (hOne : bridge.OneCollector) : bridge'.OneCollector := by
  have hNone : ∀ leaseId lease, bridge.leases.get leaseId = some lease → lease.active = true →
      lease.direction = direction → lease.request.mode = .collect → request.mode ≠ .collect := by
    intro leaseId lease hGet hActive hDirection hMode hCollect
    apply h.noConflict hCollect
    exact Media.mem_activeModes.mpr ⟨leaseId, lease, hGet, hActive, hDirection, hMode⟩
  intro leaseId leaseId' lease lease' hGet hGet' hActive hActive' hDirection hMode hMode'
  rw [h.leases, Table.get_insert] at hGet hGet'
  split at hGet
  · next hSame =>
      split at hGet'
      · next hSame' => rw [← hSame, ← hSame']
      · cases hGet
        exact absurd hMode (hNone leaseId' lease' hGet' hActive' hDirection.symm hMode')
  · split at hGet'
    · cases hGet'
      exact absurd hMode' (hNone leaseId lease hGet hActive hDirection hMode)
    · exact hOne leaseId leaseId' lease lease' hGet hGet' hActive hActive' hDirection hMode hMode'

/-- Of a lease, what is said of its release; all others stay. -/
structure Rewrites (bridge : MediaBridge) (leaseId : MediaCapabilityLeaseId)
    (lease : Option DtmfCapabilityLease) (bridge' : MediaBridge) : Prop where
  self : bridge'.leases.get leaseId = lease
  others : ∀ leaseId', leaseId' ≠ leaseId →
    bridge'.leases.get leaseId' = bridge.leases.get leaseId'

theorem Rewrites.active_of_inactive (h : Rewrites bridge leaseId (some lease) bridge')
    (hInactive : lease.active = false) {other : MediaCapabilityLeaseId}
    {existing : DtmfCapabilityLease} (hGet : bridge'.leases.get other = some existing)
    (hActive : existing.active = true) :
    other ≠ leaseId ∧ bridge.leases.get other = some existing := by
  by_cases hSame : other = leaseId
  · rw [hSame, h.self, Option.some.injEq] at hGet
    rw [← hGet, hInactive] at hActive
    cases hActive
  · rw [h.others other hSame] at hGet
    exact ⟨hSame, hGet⟩

/-- Once a lease is inactive, an active lease is another one. -/
theorem Rewrites.mem_activeModes (h : Rewrites bridge leaseId (some lease) bridge')
    (hInactive : lease.active = false) {existing : DtmfCapabilityLease}
    (hExisting : bridge.leases.get leaseId = some existing)
    (hApart : existing.active = true → existing.direction ≠ direction) {mode : DtmfMediaMode} :
    mode ∈ bridge'.activeModes direction ↔ mode ∈ bridge.activeModes direction := by
  rw [Media.mem_activeModes, Media.mem_activeModes]
  constructor
  · rintro ⟨other, found, hGet, hActive, hDirection, hMode⟩
    obtain ⟨-, hOld⟩ := h.active_of_inactive hInactive hGet hActive
    exact ⟨other, found, hOld, hActive, hDirection, hMode⟩
  · rintro ⟨other, found, hGet, hActive, hDirection, hMode⟩
    refine ⟨other, found, ?_, hActive, hDirection, hMode⟩
    rw [h.others]
    · exact hGet
    · intro hSame
      rw [hSame, hExisting] at hGet
      cases hGet
      exact hApart hActive hDirection

theorem Rewrites.oneCollector (h : Rewrites bridge leaseId (some lease) bridge')
    (hInactive : lease.active = false) (hOne : bridge.OneCollector) : bridge'.OneCollector := by
  intro leaseId leaseId' lease lease' hGet hGet' hActive hActive'
  obtain ⟨-, hOld⟩ := h.active_of_inactive hInactive hGet hActive
  obtain ⟨-, hOld'⟩ := h.active_of_inactive hInactive hGet' hActive'
  exact hOne leaseId leaseId' lease lease' hOld hOld' hActive hActive'

/-- What follows the drain: the mode is settled, and the lease remembers the generation. -/
theorem releaseDrained_eq (hGet : bridge.leases.get leaseId = some lease)
    (hInactive : lease.active = false) :
    ∃ generation bridge',
      bridge.releaseDrained leaseId direction = (.applies direction generation, bridge') ∧
      Rewrites bridge leaseId (some { lease with releasedGeneration := some generation }) bridge' ∧
      bridge'.Settled direction ∧
      ∀ direction', direction' ≠ direction →
        bridge'.dtmfMode direction' = bridge.dtmfMode direction' := by
  rw [releaseDrained]
  simp only [configure_leases, hGet]
  refine ⟨_, _, rfl, ⟨?_, ?_⟩, ?_, ?_⟩
  · exact Table.get_insert_self
  · intro leaseId' hOther
    exact Table.get_insert_of_ne (Ne.symm hOther)
  · have hMode := @mode_configure_self bridge direction
      fun _ => setDtmfMode (bridge.relay direction).config
        (dominantMode (bridge.activeModes direction))
    rw [setDtmfMode_mode] at hMode
    apply Eq.trans hMode
    apply dominantMode_congr
    intro mode
    rw [Media.mem_activeModes, Media.mem_activeModes]
    constructor
    · rintro ⟨other, found, hFound, hActive, hRest⟩
      refine ⟨other, found, ?_, hActive, hRest⟩
      simp only
      rw [Table.get_insert_of_ne]
      · exact hFound
      · intro hSame
        rw [← hSame, hGet] at hFound
        cases hFound
        rw [hInactive] at hActive
        cases hActive
    · rintro ⟨other, found, hFound, hActive, hRest⟩
      refine ⟨other, found, ?_, hActive, hRest⟩
      simp only at hFound
      rw [Table.get_insert] at hFound
      split at hFound
      · cases hFound
        rw [hInactive] at hActive
        cases hActive
      · exact hFound
  · intro direction' hOther
    exact mode_configure_of_ne _ hOther

/-- A release of a lease that is active makes it inactive, and then drains or settles the
mode. -/
theorem release_of_active (hGet : bridge.leases.get leaseId = some lease)
    (hActive : lease.active = true) :
    let inactive : MediaBridge := { bridge with
      leases := bridge.leases.insert leaseId { lease with active := false } }
    bridge.releaseDtmfCapability leaseId = (.drains lease.direction, inactive) ∨
      bridge.releaseDtmfCapability leaseId = inactive.releaseDrained leaseId lease.direction := by
  rw [releaseDtmfCapability, hGet]
  simp only [hActive, not_true_eq_false, if_false]
  split
  · exact .inl rfl
  · exact .inr rfl

theorem release_of_inactive (hGet : bridge.leases.get leaseId = some lease)
    (hInactive : lease.active = false) :
    bridge.releaseDtmfCapability leaseId =
      (.returned (.ok (lease.releasedGeneration.getD lease.readyGeneration)), bridge) := by
  rw [releaseDtmfCapability, hGet]
  simp only [hInactive]
  rfl

theorem release_of_none (hGet : bridge.leases.get leaseId = none) :
    bridge.releaseDtmfCapability leaseId =
      (.returned (.error "media_capability_lease_not_found"), bridge) := by
  rw [releaseDtmfCapability, hGet]

/-- What the operations on the leases leave of a bridge: who its sides are, and that it runs. -/
def SameSides (bridge bridge' : MediaBridge) : Prop :=
  bridge'.dispatch = bridge.dispatch ∧ bridge'.stopped = bridge.stopped

theorem sameSides_configure (f : ParserConfig → ParserConfig) :
    SameSides bridge (bridge.configure direction f) := by
  cases direction <;> exact ⟨rfl, rfl⟩

theorem sameSides_modifyRelay (f : DtmfRelay → DtmfRelay) :
    SameSides bridge (bridge.modifyRelay direction f) := by
  cases direction <;> exact ⟨rfl, rfl⟩

theorem sameSides_acquire (bridge : MediaBridge) (request : DtmfCapabilityLeaseRequest)
    (block : Except (String × String) Unit) :
    SameSides bridge (bridge.acquireDtmfCapability request block).2 := by
  rw [acquireDtmfCapability]
  split
  · exact ⟨rfl, rfl⟩
  split
  · exact ⟨rfl, rfl⟩
  split
  · exact ⟨rfl, rfl⟩
  split
  · split
    · exact ⟨rfl, rfl⟩
    split
    · exact ⟨rfl, rfl⟩
    · exact ⟨rfl, rfl⟩
  simp only
  split
  · exact ⟨rfl, rfl⟩
  split
  · exact ⟨rfl, rfl⟩
  split
  · exact ⟨rfl, rfl⟩
  split
  · exact ⟨rfl, rfl⟩
  · exact sameSides_configure _

theorem sameSides_releaseDrained (bridge : MediaBridge) (leaseId : MediaCapabilityLeaseId)
    (direction : DtmfRelayDirection) :
    SameSides bridge (bridge.releaseDrained leaseId direction).2 := by
  rw [releaseDrained]
  simp only
  split
  · exact sameSides_configure _
  · exact sameSides_configure _

theorem sameSides_release (bridge : MediaBridge) (leaseId : MediaCapabilityLeaseId) :
    SameSides bridge (bridge.releaseDtmfCapability leaseId).2 := by
  rw [releaseDtmfCapability]
  split
  · exact ⟨rfl, rfl⟩
  · split
    · exact ⟨rfl, rfl⟩
    · simp only
      split
      · exact ⟨rfl, rfl⟩
      · exact sameSides_releaseDrained _ _ _

end MediaBridge

end VoipSwitch.Media
