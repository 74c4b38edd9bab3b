import Mathlib.Algebra.Ring.Int.Defs
import VoipSwitch.Core.Types
import VoipSwitch.Lib.OrdMap
import VoipSwitch.Lib.Publication

/-! The configuration in the databases, the runtime snapshot that is loaded from it, and the
commands of control clients that change the one and reload the other. -/
namespace VoipSwitch

open Keyed Publishing

inductive GlobalValue where
  | string (value : String)
  | integer (value : Int)
  | bool (value : Bool)
deriving DecidableEq

structure GlobalSetting where
  key : String
  value : String
  valueType : String
deriving DecidableEq

/-- `str::parse` for an `i64`. -/
def parseI64 (text : String) : Option Int :=
  let number (digits : List Char) : Option Nat :=
    if digits.isEmpty || !digits.all Char.isDigit then none
    else some (digits.foldl (fun n digit => 10 * n + (digit.toNat - '0'.toNat)) 0)
  let inRange (value : Int) : Option Int :=
    if -2 ^ 63 ≤ value && value < 2 ^ 63 then some value else none
  match text.toList with
  | '-' :: digits => (number digits).bind fun n => inRange (-n)
  | '+' :: digits => (number digits).bind fun n => inRange n
  | digits => (number digits).bind fun n => inRange n

def parseGlobalValue (value valueType : String) : GlobalValue :=
  if valueType = "integer" then .integer ((parseI64 value).getD 0)
  else if valueType = "bool" then
    .bool (value = "1" || value = "true" || value = "yes" || value = "on")
  else .string value

structure SystemConfig where
  instanceId : String
  dataDir : String
deriving DecidableEq

/-- A row of the `domains` table. -/
structure DomainRecord where
  id : DomainId
  name : String
  realm : String
  password : String
  remark : String
  status : String
  dbPath : String
  version : Int
deriving DecidableEq

/-- What a domain's own database holds: its tables and the version of its configuration. -/
structure DomainContent (δ : Type) where
  tables : δ
  version : UInt64
deriving DecidableEq

structure DomainRuntimeConfig (δ : Type) where
  domainId : DomainId
  name : String
  realm : String
  password : String
  remark : String
  enabled : Bool
  tables : δ
  version : UInt64
deriving DecidableEq

structure RuntimeConfig (δ : Type) where
  system : SystemConfig
  globals : OrdMap String GlobalValue
  domains : OrdMap DomainId (DomainRuntimeConfig δ)
  version : UInt64
deriving DecidableEq

/-- The system database, and the databases of the domains by their paths. -/
structure ConfigDatabase (τ : Type) where
  system : SystemConfig
  globalSetting : List GlobalSetting
  domains : List DomainRecord
  contents : String → τ

def resolveDomainDbPath (dataDir dbPath : String) : String :=
  if startsWith dbPath "/" then dbPath else dataDir ++ "/" ++ dbPath

section Load

variable {τ ρ κ δ : Type}

/-- A domain's configuration, from its row and what its database holds. -/
def DomainRecord.config (row : DomainRecord) (content : DomainContent δ) :
    DomainRuntimeConfig δ where
  domainId := row.id
  name := row.name
  realm := row.realm
  password := row.password
  remark := row.remark
  enabled := row.status = "enabled"
  tables := content.tables
  version := max content.version (UInt64.ofNat (max row.version 1).toNat)

def ConfigDatabase.loadGlobals (db : ConfigDatabase τ) : OrdMap String GlobalValue :=
  db.globalSetting.foldl
    (fun globals row => globals.insert row.key (parseGlobalValue row.value row.valueType)) []

def ConfigDatabase.content (db : ConfigDatabase τ) (row : DomainRecord) : τ :=
  db.contents (resolveDomainDbPath db.system.dataDir row.dbPath)

/-- The domains that are loaded already, and the largest version of theirs. -/
structure LoadedDomains (δ : Type) where
  domains : OrdMap DomainId (DomainRuntimeConfig δ)
  maxVersion : UInt64
deriving DecidableEq

/-- A domain that cannot be loaded is left out. -/
def LoadedDomains.add (row : DomainRecord) (result : Except String (DomainContent δ))
    (loaded : LoadedDomains δ) : LoadedDomains δ :=
  match result with
  | .error _ => loaded
  | .ok content =>
      let domain := row.config content
      { domains := loaded.domains.insert domain.domainId domain
        maxVersion := max loaded.maxVersion domain.version }

/-- How far `load_runtime_config` has come. -/
inductive LoadProgress (ρ δ : Type) where
  | opening
  | globals (globals : OrdMap String GlobalValue)
  | domains (globals : OrdMap String GlobalValue) (rows : List DomainRecord)
      (loaded : LoadedDomains δ)
  | domain (globals : OrdMap String GlobalValue) (row : DomainRecord) (rows : List DomainRecord)
      (loaded : LoadedDomains δ) (p : ρ)

/-- The tables of a domain are read by `R`, one after the other. -/
abbrev TableReader (τ ρ κ δ : Type) := Reader τ ρ κ (Except String (DomainContent δ))

variable (R : TableReader τ ρ κ δ)

def LoadedDomains.none : LoadedDomains δ := { domains := [], maxVersion := 1 }

def ConfigDatabase.loadDomains (db : ConfigDatabase τ) (rows : List DomainRecord) :
    LoadedDomains δ :=
  rows.foldl (fun loaded row => loaded.add row (R.view (db.content row))) .none

def ConfigDatabase.assemble (db : ConfigDatabase τ) (globals : OrdMap String GlobalValue)
    (loaded : LoadedDomains δ) : RuntimeConfig δ where
  system := db.system
  globals
  domains := loaded.domains
  version := loaded.maxVersion

/-- `load_runtime_config`, if nothing happens meanwhile. -/
def ConfigDatabase.loadRuntimeConfig (db : ConfigDatabase τ) : RuntimeConfig δ :=
  db.assemble db.loadGlobals (db.loadDomains R db.domains)

/-- One query of `load_runtime_config`. -/
def ConfigDatabase.readOn (db : ConfigDatabase τ) :
    LoadProgress ρ δ → LoadProgress ρ δ ⊕ RuntimeConfig δ
  | .opening => .inl (.globals db.loadGlobals)
  | .globals globals => .inl (.domains globals db.domains .none)
  | .domains globals [] loaded => .inr (db.assemble globals loaded)
  | .domains globals (row :: rows) loaded => .inl (.domain globals row rows loaded R.start)
  | .domain globals row rows loaded p =>
      match R.read (db.content row) p with
      | .inl q => .inl (.domain globals row rows loaded q)
      | .inr k => .inl (.domains globals rows (loaded.add row (R.observe k)))

/-- What was read so far is what the databases have. -/
def ConfigDatabase.Holds (db : ConfigDatabase τ) : LoadProgress ρ δ → Prop
  | .opening => True
  | .globals globals => globals = db.loadGlobals
  | .domains globals rows loaded =>
      globals = db.loadGlobals ∧
        ∃ earlier, db.domains = earlier ++ rows ∧ loaded = db.loadDomains R earlier
  | .domain globals row rows loaded p =>
      globals = db.loadGlobals ∧ R.Holds (db.content row) p ∧
        ∃ earlier, db.domains = earlier ++ row :: rows ∧ loaded = db.loadDomains R earlier

end Load

/-- The configuration without its version number. -/
def RuntimeConfig.unversioned {δ : Type} (config : RuntimeConfig δ) : RuntimeConfig δ :=
  { config with version := 0 }

/-- `u64::saturating_add(1)`. -/
def satSuccU64 (n : UInt64) : UInt64 := if n = -1 then n else n + 1

/-- The snapshot, and the versions that were assigned to it so far. -/
structure RuntimeConfigStore (δ : Type) where
  current : RuntimeConfig δ
  assigned : List UInt64
deriving DecidableEq

namespace RuntimeConfigStore

variable {δ : Type} {s : RuntimeConfigStore δ}

def new (initial : RuntimeConfig δ) : RuntimeConfigStore δ :=
  { current := initial, assigned := [initial.version] }

def replace (next : RuntimeConfig δ) (s : RuntimeConfigStore δ) : RuntimeConfigStore δ :=
  let version := max next.version (satSuccU64 s.current.version)
  { current := { next with version }, assigned := version :: s.assigned }

theorem le_satSuccU64 (n : UInt64) : n ≤ satSuccU64 n := by
  rw [satSuccU64]
  split
  · exact UInt64.le_refl n
  · next hNot =>
      have hSmall : n.toNat + 1 < 2 ^ 64 := by
        by_contra hLarge
        apply hNot
        apply UInt64.toNat.inj
        have hBound := n.toNat_lt
        have hMax : (-1 : UInt64).toNat = 2 ^ 64 - 1 := by decide
        omega
      rw [UInt64.le_iff_toNat_le, UInt64.toNat_add]
      have hOne : (1 : UInt64).toNat = 1 := by decide
      rw [hOne, Nat.mod_eq_of_lt hSmall]
      omega

theorem le_max_satSuccU64 (next n : UInt64) : n ≤ max next (satSuccU64 n) := by
  rw [UInt64.max_def]
  split
  · exact le_satSuccU64 n
  · next hNot =>
      have hLess := UInt64.le_of_lt (UInt64.not_le.mp hNot)
      exact UInt64.le_trans (le_satSuccU64 n) hLess

/-- The snapshot has the largest of the versions. -/
structure Newest (s : RuntimeConfigStore δ) : Prop where
  mem : s.current.version ∈ s.assigned
  largest : ∀ version ∈ s.assigned, version ≤ s.current.version

theorem newest_new (initial : RuntimeConfig δ) : (new initial).Newest := by
  refine ⟨List.mem_singleton_self _, fun version hMem => ?_⟩
  rw [List.mem_singleton.mp hMem]
  exact UInt64.le_refl _

theorem Newest.replace (h : s.Newest) (next : RuntimeConfig δ) : (s.replace next).Newest := by
  refine ⟨List.mem_cons_self, fun version hMem => ?_⟩
  rcases List.mem_cons.mp hMem with rfl | hEarlier
  · exact UInt64.le_refl _
  · exact UInt64.le_trans (h.largest version hEarlier) (le_max_satSuccU64 _ _)

end RuntimeConfigStore

section Commands

variable {τ ρ κ δ : Type} (R : TableReader τ ρ κ δ)

theorem ConfigDatabase.holds_readOn {db : ConfigDatabase τ} {p q : LoadProgress ρ δ}
    (h : db.Holds R p) (hRead : db.readOn R p = .inl q) : db.Holds R q := by
  cases p with
  | opening =>
      obtain rfl := Sum.inl.inj hRead
      exact rfl
  | globals globals =>
      obtain rfl := Sum.inl.inj hRead
      exact ⟨h, [], rfl, rfl⟩
  | domains globals rows loaded =>
      cases rows with
      | nil => cases hRead
      | cons row rows =>
          obtain rfl := Sum.inl.inj hRead
          obtain ⟨hGlobals, earlier, hRows, hLoaded⟩ := h
          exact ⟨hGlobals, R.holds_start _, earlier, hRows, hLoaded⟩
  | domain globals row rows loaded p =>
      obtain ⟨hGlobals, hHolds, earlier, hRows, hLoaded⟩ := h
      rw [readOn] at hRead
      split at hRead
      · next q hOn =>
          obtain rfl := Sum.inl.inj hRead
          exact ⟨hGlobals, R.holds_read hHolds hOn, earlier, hRows, hLoaded⟩
      · next k hDone =>
          obtain rfl := Sum.inl.inj hRead
          refine ⟨hGlobals, earlier ++ [row], ?_, ?_⟩
          · rw [hRows, List.append_assoc, List.singleton_append]
          · rw [loadDomains, List.foldl_append, List.foldl_cons, List.foldl_nil, ← loadDomains,
              ← hLoaded, R.observe_read hHolds hDone]

theorem ConfigDatabase.readOn_done {db : ConfigDatabase τ} {p : LoadProgress ρ δ}
    {config : RuntimeConfig δ} (h : db.Holds R p) (hRead : db.readOn R p = .inr config) :
    config = db.loadRuntimeConfig R := by
  cases p with
  | opening => cases hRead
  | globals globals => cases hRead
  | domains globals rows loaded =>
      cases rows with
      | cons row rows => cases hRead
      | nil =>
          obtain ⟨hGlobals, earlier, hRows, hLoaded⟩ := h
          rw [List.append_nil] at hRows
          rw [← Sum.inr.inj hRead, loadRuntimeConfig, hRows, ← hLoaded, hGlobals]
  | domain globals row rows loaded p =>
      rw [readOn] at hRead
      split at hRead
      · cases hRead
      · cases hRead

/-- The commands write to the databases, load what they find there and replace the snapshot. -/
def configCommands : Protocol (ConfigDatabase τ) (LoadProgress ρ δ) (RuntimeConfig δ)
    (RuntimeConfigStore δ) (RuntimeConfig δ) where
  view db := (db.loadRuntimeConfig R).unversioned
  start := .opening
  read db := db.readOn R
  observe config := config.unversioned
  Holds db := db.Holds R
  holds_start _ := trivial
  holds_read h hRead := ConfigDatabase.holds_readOn R h hRead
  observe_read h hRead := congrArg RuntimeConfig.unversioned (ConfigDatabase.readOn_done R h hRead)
  publish := RuntimeConfigStore.replace
  shows s := s.current.unversioned
  shows_publish _ _ := rfl

/-- The process starts with the snapshot that it loads. -/
def startedFrom (w : World (ConfigDatabase τ) (LoadProgress ρ δ) (RuntimeConfig δ)
    (RuntimeConfigStore δ)) : Prop :=
  w.published = .new (w.store.loadRuntimeConfig R)

variable {R} {w : World (ConfigDatabase τ) (LoadProgress ρ δ) (RuntimeConfig δ)
  (RuntimeConfigStore δ)}

/-- Whatever the clients do, the snapshot has the largest version. -/
theorem newest_of_reachable
    (h : Transition.Reachable ((configCommands R).system (startedFrom R)) w) :
    w.published.Newest := by
  apply h.invariant
  · rintro w ⟨hStarted, _⟩
    rw [hStarted]
    exact RuntimeConfigStore.newest_new _
  · intro w action v hNewest hStep
    rcases (configCommands R).published_step hStep with hSame | ⟨config, hReplaced⟩
    · rw [hSame]
      exact hNewest
    · rw [hReplaced]
      exact hNewest.replace config

/-- When all commands have ended, the snapshot is what the databases hold, if no command has
published an old reading, or none after it has written, when nobody else was going to. -/
theorem reloaded_of_careful
    (h : Transition.ReachableWithin ((configCommands R).system (startedFrom R))
      (configCommands R).Careful w) :
    ((∀ client, w.clients client = .idle) →
        w.published.current.unversioned = (w.store.loadRuntimeConfig R).unversioned ∧
          w.published.Newest) ∧
      ∀ action v, (configCommands R).step w action = some v →
        ((configCommands R).Attended v ↔ (configCommands R).Careful w action) := by
  have hAttended := Protocol.attended_of_careful h
  refine ⟨fun hIdle => ⟨hAttended.upToDate hIdle, newest_of_reachable h.reachable⟩, ?_⟩
  exact fun action v hStep => hAttended.step_iff hStep

end Commands

section Samples

/-- A domain's tables that are read by one query. -/
def oneTable : TableReader String (List String × List (String → Except String String))
    (Except String (DomainContent (List String))) (List String) :=
  .sequence [.ok] fun tables => { tables, version := 1 }

abbrev SampleWorld := World (ConfigDatabase String)
  (LoadProgress (List String × List (String → Except String String)) (List String))
  (RuntimeConfig (List String)) (RuntimeConfigStore (List String))

def freshDatabase : ConfigDatabase String where
  system := { instanceId := "node-1", dataDir := "/var/lib/voipswitch" }
  globalSetting := []
  domains := [{
    id := "domain-a", name := "a", realm := "a.example", password := "", remark := "",
    status := "enabled", dbPath := "domains/domain-a/config.db", version := 1 }]
  contents _ := "no routes"

def freshWorld : SampleWorld where
  store := freshDatabase
  published := .new (freshDatabase.loadRuntimeConfig oneTable)
  clients _ := .idle

def writeContents (text : String) (db : ConfigDatabase String) : ConfigDatabase String :=
  { db with contents := fun _ => text }

/-- A command up to its publication. -/
def commandUpToPublish (client : Nat) (text : String) : List (Action (ConfigDatabase String)) :=
  [.start client, .write client (writeContents text), .reload client] ++
    List.replicate 6 (.read client)

def followed (schedule : List (Action (ConfigDatabase String))) :=
  schedule.foldlM (configCommands oneTable).step freshWorld

theorem runs_of_followed {schedule : List (Action (ConfigDatabase String))} {w : SampleWorld}
    (h : followed schedule = some w) :
    Transition.Reachable ((configCommands oneTable).system (startedFrom oneTable)) w :=
  ⟨freshWorld, ⟨rfl, rfl, fun _ => rfl⟩,
    Transition.runsWithin_of_foldlM (fun _ _ _ hStep => ⟨trivial, hStep⟩) h⟩

/-- A publication of what the databases have is a careful step, and so is any step that is not the
end of a command. -/
def publishesFresh (w : SampleWorld) : Action (ConfigDatabase String) → Bool
  | .publish client =>
      match w.clients client with
      | .publishing config =>
          config.unversioned = (w.store.loadRuntimeConfig oneTable).unversioned
      | _ => false
  | .fail _ => false
  | _ => true

theorem careful_of_publishesFresh {w : SampleWorld} {action : Action (ConfigDatabase String)}
    (h : publishesFresh w action = true) : (configCommands oneTable).Careful w action := by
  cases action with
  | publish client =>
      left
      rw [publishesFresh] at h
      rw [Protocol.Informed]
      split at h
      · next config hPublishing =>
          rw [hPublishing]
          exact of_decide_eq_true h
      · cases h
  | fail client => cases h
  | start client => trivial
  | write client change => trivial
  | reload client => trivial
  | read client => trivial

def carefulStep (w : SampleWorld) (action : Action (ConfigDatabase String)) :
    Option SampleWorld :=
  if publishesFresh w action then (configCommands oneTable).step w action else none

/-- One command after the other. -/
def orderedSchedule : List (Action (ConfigDatabase String)) :=
  commandUpToPublish 0 "one route" ++ [.publish 0] ++
    (commandUpToPublish 1 "two routes" ++ [.publish 1])

theorem reloaded_of_careful_sample :
    ∃ w : SampleWorld, w.published.assigned = [3, 2, 1] ∧
      w.published.current.unversioned = (w.store.loadRuntimeConfig oneTable).unversioned := by
  have hRun : (orderedSchedule.foldlM carefulStep freshWorld).any
      (·.published.assigned = [3, 2, 1]) = true := by
    decide
  obtain ⟨w, hEnd, hAssigned⟩ := (Option.any_eq_true ..).mp hRun
  have hReached : Transition.ReachableWithin
      ((configCommands oneTable).system (startedFrom oneTable))
      (configCommands oneTable).Careful w := by
    refine ⟨freshWorld, ⟨rfl, rfl, fun _ => rfl⟩, Transition.runsWithin_of_foldlM ?_ hEnd⟩
    intro w action v hStep
    rw [carefulStep] at hStep
    split at hStep
    · next hFresh => exact ⟨careful_of_publishesFresh hFresh, hStep⟩
    · cases hStep
  refine ⟨w, of_decide_eq_true hAssigned, ((reloaded_of_careful hReached).1 fun client => ?_).1⟩
  have hIdle : (orderedSchedule.foldlM carefulStep freshWorld).map (·.clients client) =
      some .idle := by
    match client with
    | 0 => rfl
    | 1 => rfl
    | n + 2 => rfl
  rw [hEnd, Option.map_some] at hIdle
  exact Option.some.inj hIdle

/-- The first command publishes last, and with what it read before the second one wrote. -/
def racedSchedule : List (Action (ConfigDatabase String)) :=
  commandUpToPublish 0 "one route" ++ commandUpToPublish 1 "two routes" ++
    [.publish 1, .publish 0]

/-- The older of two reloads publishes last, and nothing follows it. -/
theorem racing_reload_stale :
    ∃ w, Transition.Reachable ((configCommands oneTable).system (startedFrom oneTable)) w ∧
      (∀ client, w.clients client = .idle) ∧
      w.published.current.unversioned ≠ (w.store.loadRuntimeConfig oneTable).unversioned := by
  have hRun : (followed racedSchedule).any (fun w =>
      w.published.current.unversioned ≠ (w.store.loadRuntimeConfig oneTable).unversioned) =
      true := by
    decide
  obtain ⟨w, hEnd, hStale⟩ := (Option.any_eq_true ..).mp hRun
  refine ⟨w, runs_of_followed hEnd, fun client => ?_, of_decide_eq_true hStale⟩
  have hIdle : (followed racedSchedule).map (·.clients client) = some .idle := by
    match client with
    | 0 => rfl
    | 1 => rfl
    | n + 2 => rfl
  rw [hEnd, Option.map_some] at hIdle
  exact Option.some.inj hIdle

end Samples

end VoipSwitch
