import Mathlib.Algebra.Ring.Int.Defs
import VoipSwitch.Config.Route
import VoipSwitch.Lib.Editing
import Mathlib.Data.List.Sort

/-! Updates of routes. The copy of a route comes from the snapshot; the changed route is checked
against the snapshot and against the database, and written as a whole. -/
namespace VoipSwitch

open Keyed Publishing Editing Transition

structure ExtensionRow where
  id : Int
  number : String
  enabled : Bool
deriving DecidableEq

structure PeerTrunkRow where
  id : Int
  keepAliveSeconds : Int
  enabled : Bool
deriving DecidableEq

structure RegTrunkRow where
  id : Int
  keepAliveSeconds : Int
  enabled : Bool
deriving DecidableEq

structure RegAccountRow where
  id : Int
  regTrunkId : Int
  enabled : Bool
deriving DecidableEq

structure InboundRouteRow where
  id : Int
  name : String
  enabled : Bool
  trunkMatch : String
  dstPattern : String
  srcPattern : Option String
  dstStrip : Int
  dstPrefix : String
  dstSuffix : String
  srcStrip : Int
  srcPrefix : String
  srcSuffix : String
  target : String
  priority : Int
deriving DecidableEq

structure OutboundRouteRow where
  id : Int
  name : String
  enabled : Bool
  dstPattern : String
  srcPattern : Option String
  dstStrip : Int
  dstPrefix : String
  dstSuffix : String
  srcStrip : Int
  srcPrefix : String
  srcSuffix : String
  priority : Int
deriving DecidableEq

structure OutboundRouteTrunkRow where
  routeId : Int
  trunkRef : String
  position : Int
deriving DecidableEq

/-- The database of a domain: its rows, and the version in `config_meta`. -/
structure DomainConfigDb where
  extensions : List ExtensionRow
  peerTrunk : List PeerTrunkRow
  regTrunk : List RegTrunkRow
  regAccount : List RegAccountRow
  inboundRoute : List InboundRouteRow
  outboundRoute : List OutboundRouteRow
  outboundRouteTrunks : List OutboundRouteTrunkRow
  version : Option Nat
deriving DecidableEq

structure ExtensionConfig where
  id : UInt64
  number : String
  enabled : Bool
deriving DecidableEq

structure PeerTrunkConfig where
  id : UInt64
  keepAliveSeconds : UInt32
  enabled : Bool
deriving DecidableEq

structure RegisterTrunkConfig where
  id : UInt64
  keepAliveSeconds : UInt32
  enabled : Bool
deriving DecidableEq

structure RegisterAccountConfig where
  id : UInt64
  regTrunkId : UInt64
  enabled : Bool
deriving DecidableEq

/-- What is loaded of a domain's tables. -/
structure DomainTables where
  extensions : List ExtensionConfig
  peerTrunks : List PeerTrunkConfig
  regTrunks : List RegisterTrunkConfig
  regAccounts : List RegisterAccountConfig
  inboundRoutes : List InboundRouteConfig
  outboundRoutes : List OutboundRouteConfig
deriving DecidableEq

section Load

def positiveId (value : Int) : Except String UInt64 :=
  if value < 0 then .error "id is negative"
  else if value = 0 then .error "id must be positive"
  else .ok (UInt64.ofNat value.toNat)

def u8FromRow (field : String) (value : Int) : Except String UInt8 :=
  if 0 ≤ value ∧ value < 2 ^ 8 then .ok (UInt8.ofNat value.toNat)
  else .error s!"{field} out of range"

def u16FromRow (field : String) (value : Int) : Except String UInt16 :=
  if 0 ≤ value ∧ value < 2 ^ 16 then .ok (UInt16.ofNat value.toNat)
  else .error s!"{field} out of range"

def extensionFromRow (row : ExtensionRow) : Except String ExtensionConfig :=
  if row.id < 0 then .error "extension id is negative"
  else .ok { id := UInt64.ofNat row.id.toNat, number := row.number, enabled := row.enabled }

def keepAliveFromRow (value : Int) : Except String UInt32 :=
  if 0 ≤ value ∧ value < 2 ^ 32 then .ok (UInt32.ofNat value.toNat)
  else .error "keep_alive_seconds is negative"

def peerFromRow (row : PeerTrunkRow) : Except String PeerTrunkConfig := do
  return {
    id := ← positiveId row.id
    keepAliveSeconds := ← keepAliveFromRow row.keepAliveSeconds
    enabled := row.enabled }

def regTrunkFromRow (row : RegTrunkRow) : Except String RegisterTrunkConfig := do
  return {
    id := ← positiveId row.id
    keepAliveSeconds := ← keepAliveFromRow row.keepAliveSeconds
    enabled := row.enabled }

def regAccountFromRow (row : RegAccountRow) : Except String RegisterAccountConfig := do
  return {
    id := ← positiveId row.id
    regTrunkId := ← positiveId row.regTrunkId
    enabled := row.enabled }

def inboundFromRow (row : InboundRouteRow) : Except String InboundRouteConfig := do
  return {
    id := ← positiveId row.id
    name := row.name
    enabled := row.enabled
    trunkMatch := row.trunkMatch
    dstPattern := row.dstPattern
    srcPattern := row.srcPattern
    dstStrip := ← u8FromRow "dst_strip" row.dstStrip
    dstPrefix := row.dstPrefix
    dstSuffix := row.dstSuffix
    srcStrip := ← u8FromRow "src_strip" row.srcStrip
    srcPrefix := row.srcPrefix
    srcSuffix := row.srcSuffix
    target := row.target
    priority := ← u16FromRow "priority" row.priority }

def outboundFromRow (row : OutboundRouteRow) (trunkRefs : List String) :
    Except String OutboundRouteConfig := do
  return {
    id := ← positiveId row.id
    name := row.name
    enabled := row.enabled
    dstPattern := row.dstPattern
    srcPattern := row.srcPattern
    dstStrip := ← u8FromRow "dst_strip" row.dstStrip
    dstPrefix := row.dstPrefix
    dstSuffix := row.dstSuffix
    srcStrip := ← u8FromRow "src_strip" row.srcStrip
    srcPrefix := row.srcPrefix
    srcSuffix := row.srcSuffix
    priority := ← u16FromRow "priority" row.priority
    trunkRefs }

/-- What a query of `load_domain_config` answers. -/
inductive TableAnswer where
  | extensions (rows : List ExtensionConfig)
  | peerTrunks (rows : List PeerTrunkConfig)
  | regTrunks (rows : List RegisterTrunkConfig)
  | regAccounts (rows : List RegisterAccountConfig)
  | inboundRoutes (rows : List InboundRouteConfig)
  | outboundRoutes (rows : List OutboundRouteConfig)
  | outboundRouteTrunks (rows : List OutboundRouteTrunkRow)
  | version (value : UInt64)
deriving DecidableEq

/-- The order of `ORDER BY priority,id`. -/
def priorityOrder (first second : Int × Int) : Bool :=
  first.1 < second.1 || (first.1 = second.1 && first.2 ≤ second.2)

/-- The queries of `load_domain_config`. The references of the outbound routes come after the
routes. -/
def domainQueries : List (DomainConfigDb → Except String TableAnswer) := [
  fun db => ((db.extensions.insertionSort fun a b => a.number ≤ b.number).mapM
    extensionFromRow).map .extensions,
  fun db => ((db.peerTrunk.insertionSort fun a b => a.id ≤ b.id).mapM peerFromRow).map .peerTrunks,
  fun db => ((db.regTrunk.insertionSort fun a b => a.id ≤ b.id).mapM
    regTrunkFromRow).map .regTrunks,
  fun db => ((db.regAccount.insertionSort fun a b => a.id ≤ b.id).mapM
    regAccountFromRow).map .regAccounts,
  fun db => ((db.inboundRoute.insertionSort fun a b =>
    priorityOrder (a.priority, a.id) (b.priority, b.id)).mapM inboundFromRow).map .inboundRoutes,
  fun db => ((db.outboundRoute.insertionSort fun a b =>
    priorityOrder (a.priority, a.id) (b.priority, b.id)).mapM
      fun row => outboundFromRow row []).map .outboundRoutes,
  fun db => .ok (.outboundRouteTrunks (db.outboundRouteTrunks.insertionSort fun a b =>
    priorityOrder (a.routeId, a.position) (b.routeId, b.position))),
  fun db => .ok (.version (match db.version with
    | some value => if value < 2 ^ 64 then max (UInt64.ofNat value) 1 else 1
    | none => 1))]

def TableAnswer.onto (content : DomainContent DomainTables) :
    TableAnswer → DomainContent DomainTables
  | .extensions rows => { content with tables := { content.tables with extensions := rows } }
  | .peerTrunks rows => { content with tables := { content.tables with peerTrunks := rows } }
  | .regTrunks rows => { content with tables := { content.tables with regTrunks := rows } }
  | .regAccounts rows => { content with tables := { content.tables with regAccounts := rows } }
  | .inboundRoutes rows => { content with tables := { content.tables with inboundRoutes := rows } }
  | .outboundRoutes rows =>
      { content with tables := { content.tables with outboundRoutes := rows } }
  | .outboundRouteTrunks rows =>
      let refs (id : Int) : List String := (rows.filter (·.routeId = id)).map (·.trunkRef)
      let withRefs (route : OutboundRouteConfig) : OutboundRouteConfig :=
        { route with trunkRefs := refs route.id.toNat }
      { content with tables := { content.tables with
          outboundRoutes := content.tables.outboundRoutes.map withRefs } }
  | .version value => { content with version := value }

def noContent : DomainContent DomainTables where
  tables := {
    extensions := [], peerTrunks := [], regTrunks := [], regAccounts := [], inboundRoutes := []
    outboundRoutes := [] }
  version := 1

/-- `load_domain_config`, query by query. -/
def domainReader : TableReader DomainConfigDb
    (List TableAnswer × List (DomainConfigDb → Except String TableAnswer))
    (Except String (DomainContent DomainTables)) DomainTables :=
  .sequence domainQueries fun answers => answers.foldl TableAnswer.onto noContent

end Load

section References

/-- The references of a route, one after the other: `peer:<id>` and `reg:<trunk_id>/<account_id>`,
their numbers parsed by `parse`. -/
def checkTrunkRef {ν : Type} (parse : String → Option ν) (peer : ν → Except String Unit)
    (reg : ν → ν → Except String Unit) (trunkRef : String) : Except String Unit :=
  match stripStart "peer:" trunkRef with
  | some id =>
      match parse id with
      | none => .error "invalid peer trunk reference"
      | some id => peer id
  | none =>
      match stripStart "reg:" trunkRef with
      | none => .error "trunk reference must be peer:<id> or reg:<trunk_id>/<account_id>"
      | some value =>
          match splitOnce '/' value with
          | none => .error "invalid reg trunk reference"
          | some (trunkId, accountId) =>
              match parse trunkId with
              | none => .error "invalid reg_trunk id"
              | some trunkId =>
                  match parse accountId with
                  | none => .error "invalid reg_account id"
                  | some accountId => reg trunkId accountId

/-- `parse::<u64>()`. -/
def parseU64 (text : String) : Option UInt64 := (parseUnsigned 64 text).map UInt64.ofNat

def validateTrunkRefs (config : RuntimeConfig DomainTables) (domainId : DomainId)
    (refs : List String) : Except String Unit :=
  match config.domains.lookup domainId with
  | none => .error s!"RESOURCE_NOT_FOUND: domain {domainId}"
  | some domain =>
      let peer (id : UInt64) : Except String Unit :=
        match domain.tables.peerTrunks.find? (·.id = id) with
        | none => .error s!"RESOURCE_NOT_FOUND: peer_trunk id {id}"
        | some trunk => ensure trunk.enabled "peer_trunk reference must be enabled"
      let reg (trunkId accountId : UInt64) : Except String Unit :=
        match domain.tables.regTrunks.find? (·.id = trunkId) with
        | none => .error s!"RESOURCE_NOT_FOUND: reg_trunk id {trunkId}"
        | some trunk =>
            match domain.tables.regAccounts.find?
              (fun account => account.id = accountId ∧ account.regTrunkId = trunkId) with
            | none => .error s!"RESOURCE_NOT_FOUND: reg_account id {accountId}"
            | some account =>
                ensure (trunk.enabled && account.enabled)
                  "registered trunk reference must be enabled"
      refs.forM (checkTrunkRef parseU64 peer reg)

/-- The part of `validate_inbound_references` about the trunk. -/
def validateTrunkMatch (config : RuntimeConfig DomainTables) (domainId : DomainId)
    (route : InboundRouteConfig) : Except String Unit :=
  if route.trunkMatch.isEmpty then .ok ()
  else validateTrunkRefs config domainId [route.trunkMatch]

/-- The part of `validate_inbound_references` about the target, with a snapshot of its own. -/
def validateTarget (config : RuntimeConfig DomainTables) (domainId : DomainId)
    (route : InboundRouteConfig) : Except String Unit :=
  match stripStart "ext-" route.target with
  | none => .ok ()
  | some number =>
      let extensions := ((config.domains.lookup domainId).map (·.tables.extensions)).getD []
      match extensions.find? (·.number = number) with
      | none => .error s!"RESOURCE_NOT_FOUND: extension number {number}"
      | some extension => ensure extension.enabled "extension target must be enabled"

def validateTrunkRefsInDb (db : DomainConfigDb) (refs : List String) : Except String Unit :=
  let peer (id : Int) : Except String Unit :=
    match db.peerTrunk.find? (·.id = id) with
    | none => .error s!"RESOURCE_NOT_FOUND: peer_trunk id {id}"
    | some trunk => ensure trunk.enabled "peer_trunk reference must be enabled"
  let reg (trunkId accountId : Int) : Except String Unit :=
    match db.regTrunk.find? (·.id = trunkId), db.regAccount.find?
      (fun account => account.id = accountId ∧ account.regTrunkId = trunkId) with
    | some trunk, some account =>
        ensure (trunk.enabled && account.enabled) "registered trunk reference must be enabled"
    | _, _ => .error s!"RESOURCE_NOT_FOUND: reg_account id {accountId}"
  refs.forM (checkTrunkRef parseI64 peer reg)

def validateInboundReferencesInDb (db : DomainConfigDb) (route : InboundRouteConfig) :
    Except String Unit := do
  if ¬ route.trunkMatch.isEmpty then validateTrunkRefsInDb db [route.trunkMatch]
  match stripStart "ext-" route.target with
  | none => pure ()
  | some number =>
      match db.extensions.find? (·.number = number) with
      | none => .error s!"RESOURCE_NOT_FOUND: extension number {number}"
      | some extension => ensure extension.enabled "extension target must be enabled"

end References

section Write

/-- `id as i64`. -/
def asColumn (id : UInt64) : Int :=
  if id.toNat < 2 ^ 63 then id.toNat else (id.toNat : Int) - 2 ^ 64

/-- `bump_domain_config_version`. -/
def DomainConfigDb.bumped (db : DomainConfigDb) : DomainConfigDb :=
  { db with version := some (db.version.getD 1 + 1) }

/-- `inbound_values`. -/
def InboundRouteConfig.row (route : InboundRouteConfig) (id : Int) : InboundRouteRow where
  id
  name := route.name
  enabled := route.enabled
  trunkMatch := route.trunkMatch
  dstPattern := route.dstPattern
  srcPattern := route.srcPattern
  dstStrip := route.dstStrip.toNat
  dstPrefix := route.dstPrefix
  dstSuffix := route.dstSuffix
  srcStrip := route.srcStrip.toNat
  srcPrefix := route.srcPrefix
  srcSuffix := route.srcSuffix
  target := route.target
  priority := route.priority.toNat

/-- `outbound_values`. -/
def OutboundRouteConfig.row (route : OutboundRouteConfig) (id : Int) : OutboundRouteRow where
  id
  name := route.name
  enabled := route.enabled
  dstPattern := route.dstPattern
  srcPattern := route.srcPattern
  dstStrip := route.dstStrip.toNat
  dstPrefix := route.dstPrefix
  dstSuffix := route.dstSuffix
  srcStrip := route.srcStrip.toNat
  srcPrefix := route.srcPrefix
  srcSuffix := route.srcSuffix
  priority := route.priority.toNat

/-- The rows of a route's references, with their positions. -/
def trunkRows (id : Int) (trunkRefs : List String) : List OutboundRouteTrunkRow :=
  trunkRefs.mapIdx fun position trunkRef => { routeId := id, trunkRef, position }

/-- `write_inbound` of a route that is there. The names of a domain's routes are unique. -/
def writeInbound (route : InboundRouteConfig) (id : Int) (db : DomainConfigDb) :
    Except String DomainConfigDb :=
  if db.inboundRoute.countP (·.id = id) ≠ 1 then
    .error s!"RESOURCE_NOT_FOUND: inbound_route id {route.id}"
  else if db.inboundRoute.any fun row => row.id ≠ id && row.name = route.name then
    .error "UNIQUE constraint failed: inbound_route.domain_id, inbound_route.name"
  else
    .ok { db with
      inboundRoute := db.inboundRoute.map fun row => if row.id = id then route.row id else row }

/-- `write_outbound` of a route that is there. Its references are unique as well. -/
def writeOutbound (route : OutboundRouteConfig) (id : Int) (db : DomainConfigDb) :
    Except String DomainConfigDb :=
  if db.outboundRoute.countP (·.id = id) ≠ 1 then
    .error s!"RESOURCE_NOT_FOUND: outbound_route id {route.id}"
  else if db.outboundRoute.any fun row => row.id ≠ id && row.name = route.name then
    .error "UNIQUE constraint failed: outbound_route.domain_id, outbound_route.name"
  else if ¬ route.trunkRefs.Nodup then
    .error ("UNIQUE constraint failed: outbound_route_trunks.domain_id, " ++
      "outbound_route_trunks.route_id, outbound_route_trunks.trunk_ref")
  else
    .ok { db with
      outboundRoute := db.outboundRoute.map fun row => if row.id = id then route.row id else row
      outboundRouteTrunks :=
        db.outboundRouteTrunks.filter (·.routeId ≠ id) ++ trunkRows id route.trunkRefs }

/-- `open_domain_db`, and one transaction in it. -/
def ConfigDatabase.inDomainDb (domainId : DomainId)
    (change : DomainConfigDb → Except String DomainConfigDb) (db : ConfigDatabase DomainConfigDb) :
    Except String (ConfigDatabase DomainConfigDb) :=
  match db.domains.find? (·.id = domainId) with
  | none => .error s!"domain not found: {domainId}"
  | some row =>
      (change (db.content row)).map fun content =>
        let path := resolveDomainDbPath db.system.dataDir row.dbPath
        { db with contents := Function.update db.contents path content }

def updateInbound (domainId : DomainId) (route : InboundRouteConfig) :
    ConfigDatabase DomainConfigDb → Except String (ConfigDatabase DomainConfigDb) :=
  ConfigDatabase.inDomainDb domainId fun content => do
    validateInboundReferencesInDb content route
    let content ← writeInbound route (asColumn route.id) content
    return content.bumped

def updateOutbound (domainId : DomainId) (route : OutboundRouteConfig) :
    ConfigDatabase DomainConfigDb → Except String (ConfigDatabase DomainConfigDb) :=
  ConfigDatabase.inDomainDb domainId fun content => do
    validateTrunkRefsInDb content route.trunkRefs
    let content ← writeOutbound route (asColumn route.id) content
    return content.bumped

end Write

section Stored

def InboundRouteRow.value (row : InboundRouteRow) : RouteField → RouteValue
  | .name => .text row.name
  | .enabled => .flag row.enabled
  | .trunkMatch => .text row.trunkMatch
  | .dstPattern => .text row.dstPattern
  | .srcPattern => .optional row.srcPattern
  | .dstStrip => .number row.dstStrip
  | .dstPrefix => .text row.dstPrefix
  | .dstSuffix => .text row.dstSuffix
  | .srcStrip => .number row.srcStrip
  | .srcPrefix => .text row.srcPrefix
  | .srcSuffix => .text row.srcSuffix
  | .target => .text row.target
  | .priority => .number row.priority
  | .trunkRefs => .absent

def OutboundRouteRow.value (row : OutboundRouteRow) (trunkRefs : List String) :
    RouteField → RouteValue
  | .name => .text row.name
  | .enabled => .flag row.enabled
  | .trunkMatch => .absent
  | .dstPattern => .text row.dstPattern
  | .srcPattern => .optional row.srcPattern
  | .dstStrip => .number row.dstStrip
  | .dstPrefix => .text row.dstPrefix
  | .dstSuffix => .text row.dstSuffix
  | .srcStrip => .number row.srcStrip
  | .srcPrefix => .text row.srcPrefix
  | .srcSuffix => .text row.srcSuffix
  | .target => .absent
  | .priority => .number row.priority
  | .trunkRefs => .refs trunkRefs

def DomainConfigDb.inboundValue (db : DomainConfigDb) (id : Int) (field : RouteField) :
    Option RouteValue :=
  (db.inboundRoute.find? (·.id = id)).map fun row => row.value field

/-- The references of an outbound route, by their positions. -/
def DomainConfigDb.trunkRefs (db : DomainConfigDb) (id : Int) : List String :=
  ((db.outboundRouteTrunks.filter (·.routeId = id)).insertionSort
    fun a b => a.position ≤ b.position).map (·.trunkRef)

def DomainConfigDb.outboundValue (db : DomainConfigDb) (id : Int) (field : RouteField) :
    Option RouteValue :=
  (db.outboundRoute.find? (·.id = id)).map fun row => row.value (db.trunkRefs id) field

def ConfigDatabase.domainDb (db : ConfigDatabase DomainConfigDb) (domainId : DomainId) :
    Option DomainConfigDb :=
  (db.domains.find? (·.id = domainId)).map db.content

theorem InboundRouteConfig.value_row (route : InboundRouteConfig) (id : Int)
    (field : RouteField) : (route.row id).value field = route.value field := by
  cases field <;> rfl

theorem OutboundRouteConfig.value_row (route : OutboundRouteConfig) (id : Int)
    (field : RouteField) : (route.row id).value route.trunkRefs field = route.value field := by
  cases field <;> rfl

theorem ConfigDatabase.domainDb_inDomainDb {domainId : DomainId}
    {change : DomainConfigDb → Except String DomainConfigDb}
    {db db' : ConfigDatabase DomainConfigDb} (h : db.inDomainDb domainId change = .ok db') :
    ∃ content content', change content = .ok content' ∧ db'.domainDb domainId = some content' := by
  rw [inDomainDb] at h
  split at h
  · cases h
  · next row hRow =>
      cases hChange : change (db.content row) with
      | error error =>
          rw [hChange] at h
          cases h
      | ok content =>
          rw [hChange] at h
          obtain rfl := Except.ok.inj h
          refine ⟨db.content row, content, hChange, ?_⟩
          simp only [domainDb, hRow, Option.map_some, ConfigDatabase.content, Function.update_self]

/-- A row that is overwritten has what was written. -/
theorem find_overwritten {ρ : Type} {id : Int} {rows : List ρ} (new : ρ) (key : ρ → Int)
    (hNew : key new = id) (h : rows.countP (key · = id) = 1) :
    (rows.map fun row => if key row = id then new else row).find? (key · = id) = some new := by
  induction rows with
  | nil => cases h
  | cons row rows ih =>
      rw [List.map_cons]
      by_cases hKey : key row = id
      · rw [if_pos hKey, List.find?_cons_of_pos]
        exact decide_eq_true hNew
      · rw [if_neg hKey, List.find?_cons_of_neg]
        · rw [List.countP_cons_of_neg] at h
          · exact ih h
          · rw [decide_eq_true_eq]
            exact hKey
        · rw [decide_eq_true_eq]
          exact hKey

theorem inboundValue_writeInbound {route : InboundRouteConfig} {id : Int} {db db' : DomainConfigDb}
    (h : writeInbound route id db = .ok db') (field : RouteField) :
    db'.inboundValue id field = some (route.value field) := by
  rw [writeInbound] at h
  split at h
  · cases h
  · next hCount =>
      split at h
      · cases h
      · have hId : (route.row id).id = id := rfl
        have hFound := find_overwritten (route.row id) InboundRouteRow.id hId (not_not.mp hCount)
        rw [← Except.ok.inj h, DomainConfigDb.inboundValue, hFound, Option.map_some,
          route.value_row]

theorem positions_trunkRows (id : Int) (refs : List String) :
    (trunkRows id refs).Pairwise fun a b => a.position ≤ b.position := by
  rw [trunkRows, List.pairwise_iff_getElem]
  intro i j hi hj hLess
  simp only [List.getElem_mapIdx]
  exact_mod_cast hLess.le

/-- The references that were written are read in their order. -/
theorem trunkRefs_trunkRows (id : Int) (refs : List String) (others : List OutboundRouteTrunkRow) :
    (((others.filter (·.routeId ≠ id) ++ trunkRows id refs).filter
      (·.routeId = id)).insertionSort fun a b => a.position ≤ b.position).map (·.trunkRef) =
      refs := by
  have hOthers : (others.filter (·.routeId ≠ id)).filter (·.routeId = id) = [] := by
    rw [List.filter_filter, List.filter_eq_nil_iff]
    intro row _ hBoth
    simp only [Bool.and_eq_true, decide_eq_true_eq] at hBoth
    exact hBoth.2 hBoth.1
  have hOwn : (trunkRows id refs).filter (·.routeId = id) = trunkRows id refs := by
    rw [List.filter_eq_self]
    intro row hMem
    obtain ⟨_, _, rfl⟩ := List.mem_mapIdx.mp hMem
    exact decide_eq_true rfl
  rw [List.filter_append, hOthers, List.nil_append, hOwn,
    (positions_trunkRows id refs).insertionSort_eq]
  apply List.ext_getElem?
  intro i
  rw [trunkRows, List.getElem?_map, List.getElem?_mapIdx, Option.map_map]
  exact Option.map_id_apply

theorem outboundValue_writeOutbound {route : OutboundRouteConfig} {id : Int}
    {db db' : DomainConfigDb} (h : writeOutbound route id db = .ok db') (field : RouteField) :
    db'.outboundValue id field = some (route.value field) := by
  rw [writeOutbound] at h
  split at h
  · cases h
  · next hCount =>
      split at h
      · cases h
      · split at h
        · cases h
        · have hId : (route.row id).id = id := rfl
          have hFound := find_overwritten (route.row id) OutboundRouteRow.id hId
            (not_not.mp hCount)
          rw [← Except.ok.inj h, DomainConfigDb.outboundValue, hFound, Option.map_some,
            DomainConfigDb.trunkRefs, trunkRefs_trunkRows, route.value_row]

theorem stored_updateInbound {domainId : DomainId} {route : InboundRouteConfig}
    {db db' : ConfigDatabase DomainConfigDb} (h : updateInbound domainId route db = .ok db')
    (field : RouteField) :
    ((db'.domainDb domainId).bind fun content =>
      content.inboundValue (asColumn route.id) field) = some (route.value field) := by
  obtain ⟨content, content', hChange, hDb⟩ := ConfigDatabase.domainDb_inDomainDb h
  obtain ⟨_, _, hChange⟩ := ok_of_bind hChange
  obtain ⟨written, hWritten, hBumped⟩ := ok_of_bind hChange
  rw [hDb, Option.bind_some, ← Except.ok.inj hBumped]
  exact inboundValue_writeInbound hWritten field

theorem stored_updateOutbound {domainId : DomainId} {route : OutboundRouteConfig}
    {db db' : ConfigDatabase DomainConfigDb} (h : updateOutbound domainId route db = .ok db')
    (field : RouteField) :
    ((db'.domainDb domainId).bind fun content =>
      content.outboundValue (asColumn route.id) field) = some (route.value field) := by
  obtain ⟨content, content', hChange, hDb⟩ := ConfigDatabase.domainDb_inDomainDb h
  obtain ⟨_, _, hChange⟩ := ok_of_bind hChange
  obtain ⟨written, hWritten, hBumped⟩ := ok_of_bind hChange
  rw [hDb, Option.bind_some, ← Except.ok.inj hBumped]
  exact outboundValue_writeOutbound hWritten field

end Stored

section Updates

variable (compiles : String → Bool) (domainId : DomainId) (id : UInt64)

def copyInbound (store : RuntimeConfigStore DomainTables) : Except String InboundRouteConfig :=
  let rows := ((store.current.domains.lookup domainId).map (·.tables.inboundRoutes)).getD []
  match rows.find? (·.id = id) with
  | some existing => .ok existing
  | none => .error s!"RESOURCE_NOT_FOUND: inbound_route id {id}"

def copyOutbound (store : RuntimeConfigStore DomainTables) : Except String OutboundRouteConfig :=
  let rows := ((store.current.domains.lookup domainId).map (·.tables.outboundRoutes)).getD []
  match rows.find? (·.id = id) with
  | some existing => .ok existing
  | none => .error s!"RESOURCE_NOT_FOUND: outbound_route id {id}"

variable {domainId id} in
theorem id_copyInbound {store : RuntimeConfigStore DomainTables} {base : InboundRouteConfig}
    (h : copyInbound domainId id store = .ok base) : base.id = id := by
  rw [copyInbound] at h
  split at h
  · next existing hFound =>
      rw [← Except.ok.inj h]
      have hId := List.find?_some hFound
      exact of_decide_eq_true hId
  · cases h

variable {domainId id} in
theorem id_copyOutbound {store : RuntimeConfigStore DomainTables} {base : OutboundRouteConfig}
    (h : copyOutbound domainId id store = .ok base) : base.id = id := by
  rw [copyOutbound] at h
  split at h
  · next existing hFound =>
      rw [← Except.ok.inj h]
      have hId := List.find?_some hFound
      exact of_decide_eq_true hId
  · cases h

/-- The `update` of an inbound route: its copy, what is set in it, the two checks against the
snapshot, and the transaction. -/
def inboundUpdate : Record (ConfigDatabase DomainConfigDb) (RuntimeConfigStore DomainTables)
    InboundRouteConfig RouteSet RouteField RouteValue String where
  copy := copyInbound domainId id
  merge set base := inboundFromSet compiles set (some base)
  checks := [fun store => validateTrunkMatch store.current domainId,
    fun store => validateTarget store.current domainId]
  write := updateInbound domainId
  stored db field :=
    (db.domainDb domainId).bind fun content => content.inboundValue (asColumn id) field
  value := InboundRouteConfig.value
  kept base := base.trimmed.value
  Sets set field := (set.lookup field.key).isSome
  Own route := route.id = id
  own_copy := id_copyInbound
  own_merge hOwn hMerge := (inboundFromSet_kept hMerge).1.trans hOwn
  value_merge hMerge hUnset :=
    (inboundFromSet_kept hMerge).2 _ (Option.not_isSome_iff_eq_none.mp hUnset)
  stored_write hOwn hWrite field := by
    rw [← hOwn]
    exact stored_updateInbound hWrite field

/-- The `update` of an outbound route. -/
def outboundUpdate : Record (ConfigDatabase DomainConfigDb) (RuntimeConfigStore DomainTables)
    OutboundRouteConfig RouteSet RouteField RouteValue String where
  copy := copyOutbound domainId id
  merge set base := outboundFromSet compiles set (some base)
  checks := [fun store route => validateTrunkRefs store.current domainId route.trunkRefs]
  write := updateOutbound domainId
  stored db field :=
    (db.domainDb domainId).bind fun content => content.outboundValue (asColumn id) field
  value := OutboundRouteConfig.value
  kept base := base.trimmed.value
  Sets set field := (set.lookup field.key).isSome
  Own route := route.id = id
  own_copy := id_copyOutbound
  own_merge hOwn hMerge := (outboundFromSet_kept hMerge).1.trans hOwn
  value_merge hMerge hUnset :=
    (outboundFromSet_kept hMerge).2 _ (Option.not_isSome_iff_eq_none.mp hUnset)
  stored_write hOwn hWrite field := by
    rw [← hOwn]
    exact stored_updateOutbound hWrite field

variable {compiles domainId id} {changes : Bool → RouteSet}

/-- Two updates of a route that set different fields: while the one that writes second has a copy
with what the first has set, nothing is lost; the first that has not loses something. -/
theorem updates_kept_of_informed
    (hDisjoint : ∀ field : RouteField,
      ¬ (((changes false).lookup field.key).isSome ∧ ((changes true).lookup field.key).isSome)) :
    (∀ d, ReachableWithin
        ((inboundUpdate compiles domainId id).system (configCommands domainReader) changes)
        ((inboundUpdate compiles domainId id).Informed changes) d →
      (inboundUpdate compiles domainId id).NothingLost changes d ∧
        ∀ turn d', (inboundUpdate compiles domainId id).step (configCommands domainReader) changes
            d turn = some d' →
          ((inboundUpdate compiles domainId id).NothingLost changes d' ↔
            (inboundUpdate compiles domainId id).Informed changes d turn)) ∧
      ∀ d, ReachableWithin
          ((outboundUpdate compiles domainId id).system (configCommands domainReader) changes)
          ((outboundUpdate compiles domainId id).Informed changes) d →
        (outboundUpdate compiles domainId id).NothingLost changes d ∧
          ∀ turn d', (outboundUpdate compiles domainId id).step (configCommands domainReader)
              changes d turn = some d' →
            ((outboundUpdate compiles domainId id).NothingLost changes d' ↔
              (outboundUpdate compiles domainId id).Informed changes d turn) := by
  constructor
  · intro d hReached
    obtain ⟨hSound, hNothing⟩ := Record.nothingLost_of_informed hDisjoint hReached
    exact ⟨hNothing, fun turn d' hStep => hSound.step_iff hNothing hDisjoint hStep⟩
  · intro d hReached
    obtain ⟨hSound, hNothing⟩ := Record.nothingLost_of_informed hDisjoint hReached
    exact ⟨hNothing, fun turn d' hStep => hSound.step_iff hNothing hDisjoint hStep⟩

end Updates

section Samples

def routedDatabase : ConfigDatabase DomainConfigDb where
  system := { instanceId := "node-1", dataDir := "/var/lib/voipswitch" }
  globalSetting := []
  domains := [{
    id := "domain-a", name := "a", realm := "a.example", password := "", remark := "",
    status := "enabled", dbPath := "domains/domain-a/config.db", version := 1 }]
  contents _ := {
    extensions := [], peerTrunk := [], regTrunk := [], regAccount := []
    inboundRoute := [{
      id := 1, name := "old", enabled := true, trunkMatch := "", dstPattern := "9"
      srcPattern := none, dstStrip := 0, dstPrefix := "", dstSuffix := "", srcStrip := 0
      srcPrefix := "", srcSuffix := "", target := "rej", priority := 100 }]
    outboundRoute := [], outboundRouteTrunks := [], version := some 1 }

/-- One of the updates sets the name, the other one the target. -/
def nameAndTarget : Bool → RouteSet
  | false => [("name", "new")]
  | true => [("target", "auto")]

theorem nameAndTarget_disjoint (field : RouteField) :
    ¬ (((nameAndTarget false).lookup field.key).isSome ∧
      ((nameAndTarget true).lookup field.key).isSome) := by
  cases field <;> decide

abbrev RouteDesk := Editing.Desk (ConfigDatabase DomainConfigDb) (RuntimeConfigStore DomainTables)
  InboundRouteConfig
  (LoadProgress (List TableAnswer × List (DomainConfigDb → Except String TableAnswer)) DomainTables)
  (RuntimeConfig DomainTables) String

def routedDesk : RouteDesk where
  store := routedDatabase
  published := .new (routedDatabase.loadRuntimeConfig domainReader)
  editors _ := { taken := none, wrote := false, stage := .received }
  last := none

abbrev sampleUpdate := inboundUpdate (fun _ => true) "domain-a" 1

def sampleStep : RouteDesk → Turn → Option RouteDesk :=
  sampleUpdate.step (configCommands domainReader) nameAndTarget

def turns (editor : Bool) (count : Nat) : List Turn :=
  List.replicate count { editor, fails := false }

/-- If an editor writes after the other one, it changes what the other one has written. -/
def seesOther (d : RouteDesk) (editor : Bool) : Bool :=
  match (d.editors editor).stage, (d.editors editor).taken, (d.editors !editor).taken with
  | .checking [], some (base, _), some (_, record) =>
      !(d.editors !editor).wrote || base.trimmed = record
  | _, _, _ => true

theorem informed_of_seesOther {d : RouteDesk} {turn : Turn}
    (h : seesOther d turn.editor = true) : sampleUpdate.Informed nameAndTarget d turn := by
  intro base record store hWrites hWrote base' record' hTaken field _
  simp only [seesOther, hWrites.stage, hWrites.taken, hTaken, hWrote, Bool.not_true,
    Bool.false_or, decide_eq_true_eq] at h
  exact congrArg (·.value field) h

def informedStep (d : RouteDesk) (turn : Turn) : Option RouteDesk :=
  if seesOther d turn.editor then sampleStep d turn else none

/-- One update after the other. -/
theorem updates_kept_of_informed_sample :
    ∃ d : RouteDesk, (∀ editor, (d.editors editor).wrote = true) ∧
      sampleUpdate.NothingLost nameAndTarget d := by
  have hRun : ((turns false 19 ++ turns true 19).foldlM informedStep routedDesk).any
      (fun d => (d.editors false).wrote && (d.editors true).wrote) = true := by
    decide
  obtain ⟨d, hEnd, hWrote⟩ := (Option.any_eq_true ..).mp hRun
  have hReached : ReachableWithin (sampleUpdate.system (configCommands domainReader) nameAndTarget)
      (sampleUpdate.Informed nameAndTarget) d := by
    refine ⟨routedDesk, ⟨rfl, fun _ => rfl⟩, runsWithin_of_foldlM ?_ hEnd⟩
    intro d turn d' hStep
    rw [informedStep] at hStep
    split at hStep
    · next hSees => exact ⟨informed_of_seesOther hSees, hStep⟩
    · cases hStep
  rw [Bool.and_eq_true] at hWrote
  refine ⟨d, fun editor => ?_, ((updates_kept_of_informed nameAndTarget_disjoint).1 d hReached).1⟩
  cases editor with
  | false => exact hWrote.1
  | true => exact hWrote.2

/-- Both take their copies from the same snapshot. -/
theorem racing_updates_lost :
    ∃ d : RouteDesk,
      Reachable (sampleUpdate.system (configCommands domainReader) nameAndTarget) d ∧
      (∀ editor, (d.editors editor).stage = .succeeded) ∧
      (∀ field : RouteField, ¬ (((nameAndTarget false).lookup field.key).isSome ∧
        ((nameAndTarget true).lookup field.key).isSome)) ∧
      ¬ sampleUpdate.NothingLost nameAndTarget d := by
  have hRun : ((turns false 1 ++ turns true 1 ++ turns false 18 ++ turns true 18).foldlM
      sampleStep routedDesk).any (fun d => (d.editors false).wrote && (d.editors true).wrote &&
        (d.editors false).taken.all fun taken =>
          sampleUpdate.stored d.store .name ≠ some (taken.2.value .name)) = true := by
    decide
  obtain ⟨d, hEnd, hLost⟩ := (Option.any_eq_true ..).mp hRun
  simp only [Bool.and_eq_true] at hLost
  obtain ⟨⟨hFirst, hSecond⟩, hName⟩ := hLost
  refine ⟨d, ⟨routedDesk, ⟨rfl, fun _ => rfl⟩,
    runsWithin_of_foldlM (fun _ _ _ hStep => ⟨trivial, hStep⟩) hEnd⟩, fun editor => ?_,
    nameAndTarget_disjoint, ?_⟩
  · have hStage : ((turns false 1 ++ turns true 1 ++ turns false 18 ++ turns true 18).foldlM
        sampleStep routedDesk).map (fun d => (d.editors editor).stage) = some .succeeded := by
      cases editor with
      | false => rfl
      | true => rfl
    rw [hEnd, Option.map_some] at hStage
    exact Option.some.inj hStage
  · intro hNothing
    have hBoth : ∀ editor, (d.editors editor).wrote = true := by
      intro editor
      cases editor with
      | false => exact hFirst
      | true => exact hSecond
    obtain ⟨base, record, hTaken, hCarried⟩ := hNothing hBoth false
    rw [hTaken] at hName
    exact of_decide_eq_true hName (hCarried .name rfl)

end Samples

end VoipSwitch
