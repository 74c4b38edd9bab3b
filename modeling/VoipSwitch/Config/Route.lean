import VoipSwitch.Call.Event
import VoipSwitch.Config.Store

/-! Routes, and what an update makes of the copy of a route. -/
namespace VoipSwitch

open Keyed

structure InboundRouteConfig where
  id : UInt64
  name : String
  enabled : Bool
  trunkMatch : String
  dstPattern : String
  srcPattern : Option String
  dstStrip : UInt8
  dstPrefix : String
  dstSuffix : String
  srcStrip : UInt8
  srcPrefix : String
  srcSuffix : String
  target : String
  priority : UInt16
deriving DecidableEq

structure OutboundRouteConfig where
  id : UInt64
  name : String
  enabled : Bool
  dstPattern : String
  srcPattern : Option String
  dstStrip : UInt8
  dstPrefix : String
  dstSuffix : String
  srcStrip : UInt8
  srcPrefix : String
  srcSuffix : String
  priority : UInt16
  trunkRefs : List String
deriving DecidableEq

/-- The fields of a route that an update can set. -/
inductive RouteField where
  | name | enabled | trunkMatch | dstPattern | srcPattern | dstStrip | dstPrefix | dstSuffix
  | srcStrip | srcPrefix | srcSuffix | target | priority | trunkRefs
deriving DecidableEq

def RouteField.key : RouteField → String
  | .name => "name"
  | .enabled => "enabled"
  | .trunkMatch => "trunk_match"
  | .dstPattern => "dst_pattern"
  | .srcPattern => "src_pattern"
  | .dstStrip => "dst_strip"
  | .dstPrefix => "dst_prefix"
  | .dstSuffix => "dst_suffix"
  | .srcStrip => "src_strip"
  | .srcPrefix => "src_prefix"
  | .srcSuffix => "src_suffix"
  | .target => "target"
  | .priority => "priority"
  | .trunkRefs => "trunk_refs"

/-- The value of a field; inbound routes have no references, outbound ones no match and no
target. -/
inductive RouteValue where
  | text (value : String)
  | optional (value : Option String)
  | flag (value : Bool)
  | number (value : Int)
  | refs (value : List String)
  | absent
deriving DecidableEq

def InboundRouteConfig.value (route : InboundRouteConfig) : RouteField → RouteValue
  | .name => .text route.name
  | .enabled => .flag route.enabled
  | .trunkMatch => .text route.trunkMatch
  | .dstPattern => .text route.dstPattern
  | .srcPattern => .optional route.srcPattern
  | .dstStrip => .number route.dstStrip.toNat
  | .dstPrefix => .text route.dstPrefix
  | .dstSuffix => .text route.dstSuffix
  | .srcStrip => .number route.srcStrip.toNat
  | .srcPrefix => .text route.srcPrefix
  | .srcSuffix => .text route.srcSuffix
  | .target => .text route.target
  | .priority => .number route.priority.toNat
  | .trunkRefs => .absent

def OutboundRouteConfig.value (route : OutboundRouteConfig) : RouteField → RouteValue
  | .name => .text route.name
  | .enabled => .flag route.enabled
  | .trunkMatch => .absent
  | .dstPattern => .text route.dstPattern
  | .srcPattern => .optional route.srcPattern
  | .dstStrip => .number route.dstStrip.toNat
  | .dstPrefix => .text route.dstPrefix
  | .dstSuffix => .text route.dstSuffix
  | .srcStrip => .number route.srcStrip.toNat
  | .srcPrefix => .text route.srcPrefix
  | .srcSuffix => .text route.srcSuffix
  | .target => .absent
  | .priority => .number route.priority.toNat
  | .trunkRefs => .refs route.trunkRefs

section Texts

def parseBool (value : String) (default : Bool) : Bool :=
  if value = "1" || value = "true" || value = "yes" || value = "on" then true
  else if value = "0" || value = "false" || value = "no" || value = "off" then false
  else default

def splitRefs (value : String) : List String :=
  ((value.toList.splitOn ',').map fun part => trim (String.ofList part)).filter fun part =>
    !part.isEmpty

end Texts

/-- The assignments of an update, by their keys. -/
abbrev RouteSet : Type := OrdMap String String

section Fields

variable (set : RouteSet) (key : String)

def requiredOr (existing : Option String) : Except String String :=
  match (set.lookup key).or existing with
  | none => .error s!"{key} is required"
  | some value =>
      if (trim value).isEmpty then .error s!"{key} is required" else .ok (trim value)

def optionalOr (existing : Option String) : String :=
  trim (((set.lookup key).or existing).getD "")

def optionalPattern (existing : Option String) : Option String :=
  let value := optionalOr set key existing
  if value.isEmpty then none else some value

def boolOr (default : Bool) : Bool :=
  match set.lookup key with
  | some value => parseBool value default
  | none => default

def u8Or (existing : Option UInt8) (default : UInt8) : Except String UInt8 :=
  match set.lookup key with
  | some value =>
      match parseUnsigned 8 value with
      | some number => .ok (UInt8.ofNat number)
      | none => .error s!"invalid {key}"
  | none => .ok (existing.getD default)

def priorityOr (existing : Option UInt16) : Except String UInt16 :=
  match set.lookup "priority" with
  | some value =>
      match parseUnsigned 16 value with
      | some number => .ok (UInt16.ofNat number)
      | none => .error "invalid priority"
  | none => .ok (existing.getD 100)

def trunkRefsOr (existing : Option (List String)) : List String :=
  (((set.lookup "trunk_refs").map splitRefs).or existing).getD []

variable {set key}

theorem requiredOr_kept {old value : String} (hUnset : set.lookup key = none)
    (h : requiredOr set key (some old) = .ok value) : value = trim old := by
  simp only [requiredOr, hUnset, Option.none_or] at h
  split at h
  · cases h
  · exact (Except.ok.inj h).symm

theorem optionalOr_kept (hUnset : set.lookup key = none) (old : String) :
    optionalOr set key (some old) = trim old := by
  rw [optionalOr, hUnset, Option.none_or, Option.getD_some]

theorem optionalPattern_kept (hUnset : set.lookup key = none) (old : Option String) :
    optionalPattern set key old = optionalPattern [] key old := by
  rw [optionalPattern, optionalPattern, optionalOr, optionalOr, hUnset, OrdMap.lookup_nil]

theorem boolOr_kept (hUnset : set.lookup key = none) (old : Bool) :
    boolOr set key old = old := by
  simp only [boolOr, hUnset]

theorem u8Or_kept {old value default : UInt8} (hUnset : set.lookup key = none)
    (h : u8Or set key (some old) default = .ok value) : value = old := by
  simp only [u8Or, hUnset] at h
  exact (Except.ok.inj h).symm

theorem priorityOr_kept {old value : UInt16} (hUnset : set.lookup "priority" = none)
    (h : priorityOr set (some old) = .ok value) : value = old := by
  simp only [priorityOr, hUnset] at h
  exact (Except.ok.inj h).symm

theorem trunkRefsOr_kept (hUnset : set.lookup "trunk_refs" = none) (old : List String) :
    trunkRefsOr set (some old) = old := by
  rw [trunkRefsOr, hUnset]
  rfl

end Fields

section Validation

/-- `anyhow::ensure!`. -/
def ensure (condition : Bool) (error : String) : Except String Unit :=
  if condition then .ok () else .error error

/-- The pattern is compiled between `\A(?:` and `)\z`. -/
def compilePattern (compiles : String → Bool) (pattern field : String) : Except String Unit := do
  ensure (!pattern.isEmpty) s!"{field} is required"
  ensure (pattern.utf8ByteSize ≤ 512) s!"{field} is too long"
  ensure (compiles ("\\A(?:" ++ pattern ++ ")\\z")) s!"invalid {field} regex"

def isDialCharacter (c : Char) : Bool :=
  isAsciiDigit c || c = '*' || c = '#' || c = 'F' || c = 'f'

def checkAffix (field value : String) : Except String Unit := do
  ensure (value.utf8ByteSize ≤ 32) s!"{field} is too long"
  ensure (value.toList.all isDialCharacter) s!"{field} contains invalid dial characters"

def validateRouteCommon (compiles : String → Bool) (name dstPattern : String)
    (srcPattern : Option String) (dstStrip : UInt8) (dstPrefix dstSuffix : String)
    (srcStrip : UInt8) (srcPrefix srcSuffix : String) (priority : UInt16) :
    Except String Unit := do
  ensure (!name.isEmpty && name.utf8ByteSize ≤ 64) "invalid route name"
  compilePattern compiles dstPattern "dst_pattern"
  match srcPattern with
  | some pattern => compilePattern compiles pattern "src_pattern"
  | none => pure ()
  ensure (dstStrip ≤ 32 && srcStrip ≤ 32) "strip must be 0..32"
  ensure (priority ≤ 10000) "priority must be 0..10000"
  checkAffix "dst_prefix" dstPrefix
  checkAffix "dst_suffix" dstSuffix
  checkAffix "src_prefix" srcPrefix
  checkAffix "src_suffix" srcSuffix

def isTarget (target : String) : Bool :=
  target = "rej" || target = "auto" ||
    (stripStart "ext-" target).any fun number => !number.isEmpty

end Validation

section FromSet

variable (compiles : String → Bool) (set : RouteSet)

def inboundFromSet (existing : Option InboundRouteConfig) : Except String InboundRouteConfig := do
  let name ← requiredOr set "name" (existing.map (·.name))
  let dstPattern ← requiredOr set "dst_pattern" (existing.map (·.dstPattern))
  let dstStrip ← u8Or set "dst_strip" (existing.map (·.dstStrip)) 0
  let srcStrip ← u8Or set "src_strip" (existing.map (·.srcStrip)) 0
  let target ← requiredOr set "target" (existing.map (·.target))
  let priority ← priorityOr set (existing.map (·.priority))
  let route : InboundRouteConfig := {
    id := (existing.map (·.id)).getD 0
    name
    enabled := boolOr set "enabled" ((existing.map (·.enabled)).getD true)
    trunkMatch := optionalOr set "trunk_match" (existing.map (·.trunkMatch))
    dstPattern
    srcPattern := optionalPattern set "src_pattern" (existing.bind (·.srcPattern))
    dstStrip
    dstPrefix := optionalOr set "dst_prefix" (existing.map (·.dstPrefix))
    dstSuffix := optionalOr set "dst_suffix" (existing.map (·.dstSuffix))
    srcStrip
    srcPrefix := optionalOr set "src_prefix" (existing.map (·.srcPrefix))
    srcSuffix := optionalOr set "src_suffix" (existing.map (·.srcSuffix))
    target
    priority }
  validateRouteCommon compiles route.name route.dstPattern route.srcPattern route.dstStrip
    route.dstPrefix route.dstSuffix route.srcStrip route.srcPrefix route.srcSuffix route.priority
  ensure (isTarget route.target) "target must be rej, auto, or ext-<number>"
  return route

def outboundFromSet (existing : Option OutboundRouteConfig) :
    Except String OutboundRouteConfig := do
  let name ← requiredOr set "name" (existing.map (·.name))
  let dstPattern ← requiredOr set "dst_pattern" (existing.map (·.dstPattern))
  let dstStrip ← u8Or set "dst_strip" (existing.map (·.dstStrip)) 0
  let srcStrip ← u8Or set "src_strip" (existing.map (·.srcStrip)) 0
  let priority ← priorityOr set (existing.map (·.priority))
  let route : OutboundRouteConfig := {
    id := (existing.map (·.id)).getD 0
    name
    enabled := boolOr set "enabled" ((existing.map (·.enabled)).getD true)
    dstPattern
    srcPattern := optionalPattern set "src_pattern" (existing.bind (·.srcPattern))
    dstStrip
    dstPrefix := optionalOr set "dst_prefix" (existing.map (·.dstPrefix))
    dstSuffix := optionalOr set "dst_suffix" (existing.map (·.dstSuffix))
    srcStrip
    srcPrefix := optionalOr set "src_prefix" (existing.map (·.srcPrefix))
    srcSuffix := optionalOr set "src_suffix" (existing.map (·.srcSuffix))
    priority
    trunkRefs := trunkRefsOr set (existing.map (·.trunkRefs)) }
  validateRouteCommon compiles route.name route.dstPattern route.srcPattern route.dstStrip
    route.dstPrefix route.dstSuffix route.srcStrip route.srcPrefix route.srcSuffix route.priority
  ensure (!route.trunkRefs.isEmpty) "outbound route requires trunk_refs"
  return route

/-- A copy as an update that sets nothing would write it: without the blanks around its texts. -/
def InboundRouteConfig.trimmed (route : InboundRouteConfig) : InboundRouteConfig :=
  { route with
    name := trim route.name
    trunkMatch := trim route.trunkMatch
    dstPattern := trim route.dstPattern
    srcPattern := optionalPattern [] "src_pattern" route.srcPattern
    dstPrefix := trim route.dstPrefix
    dstSuffix := trim route.dstSuffix
    srcPrefix := trim route.srcPrefix
    srcSuffix := trim route.srcSuffix
    target := trim route.target }

def OutboundRouteConfig.trimmed (route : OutboundRouteConfig) : OutboundRouteConfig :=
  { route with
    name := trim route.name
    dstPattern := trim route.dstPattern
    srcPattern := optionalPattern [] "src_pattern" route.srcPattern
    dstPrefix := trim route.dstPrefix
    dstSuffix := trim route.dstSuffix
    srcPrefix := trim route.srcPrefix
    srcSuffix := trim route.srcSuffix }

variable {compiles set}

/-- The id is the copy's, and what is not set is the copy's without blanks around it. -/
theorem inboundFromSet_kept {base route : InboundRouteConfig}
    (h : inboundFromSet compiles set (some base) = .ok route) :
    route.id = base.id ∧ ∀ field : RouteField, set.lookup field.key = none →
      route.value field = base.trimmed.value field := by
  simp only [inboundFromSet, Option.map_some, Option.bind_some, Option.getD_some] at h
  obtain ⟨name, hName, h⟩ := ok_of_bind h
  obtain ⟨dstPattern, hDstPattern, h⟩ := ok_of_bind h
  obtain ⟨dstStrip, hDstStrip, h⟩ := ok_of_bind h
  obtain ⟨srcStrip, hSrcStrip, h⟩ := ok_of_bind h
  obtain ⟨target, hTarget, h⟩ := ok_of_bind h
  obtain ⟨priority, hPriority, h⟩ := ok_of_bind h
  obtain ⟨_, _, h⟩ := ok_of_bind h
  obtain ⟨_, _, h⟩ := ok_of_bind h
  rw [← Except.ok.inj h]
  refine ⟨rfl, fun field hUnset => ?_⟩
  cases field with
  | name => exact congrArg RouteValue.text (requiredOr_kept hUnset hName)
  | enabled => exact congrArg RouteValue.flag (boolOr_kept hUnset base.enabled)
  | trunkMatch => exact congrArg RouteValue.text (optionalOr_kept hUnset base.trunkMatch)
  | dstPattern => exact congrArg RouteValue.text (requiredOr_kept hUnset hDstPattern)
  | srcPattern =>
      rw [RouteField.key] at hUnset
      simp only [InboundRouteConfig.value, InboundRouteConfig.trimmed,
        optionalPattern_kept hUnset]
  | dstStrip =>
      obtain rfl := u8Or_kept hUnset hDstStrip
      rfl
  | dstPrefix => exact congrArg RouteValue.text (optionalOr_kept hUnset base.dstPrefix)
  | dstSuffix => exact congrArg RouteValue.text (optionalOr_kept hUnset base.dstSuffix)
  | srcStrip =>
      obtain rfl := u8Or_kept hUnset hSrcStrip
      rfl
  | srcPrefix => exact congrArg RouteValue.text (optionalOr_kept hUnset base.srcPrefix)
  | srcSuffix => exact congrArg RouteValue.text (optionalOr_kept hUnset base.srcSuffix)
  | target => exact congrArg RouteValue.text (requiredOr_kept hUnset hTarget)
  | priority =>
      obtain rfl := priorityOr_kept hUnset hPriority
      rfl
  | trunkRefs => rfl

theorem outboundFromSet_kept {base route : OutboundRouteConfig}
    (h : outboundFromSet compiles set (some base) = .ok route) :
    route.id = base.id ∧ ∀ field : RouteField, set.lookup field.key = none →
      route.value field = base.trimmed.value field := by
  simp only [outboundFromSet, Option.map_some, Option.bind_some, Option.getD_some] at h
  obtain ⟨name, hName, h⟩ := ok_of_bind h
  obtain ⟨dstPattern, hDstPattern, h⟩ := ok_of_bind h
  obtain ⟨dstStrip, hDstStrip, h⟩ := ok_of_bind h
  obtain ⟨srcStrip, hSrcStrip, h⟩ := ok_of_bind h
  obtain ⟨priority, hPriority, h⟩ := ok_of_bind h
  obtain ⟨_, _, h⟩ := ok_of_bind h
  obtain ⟨_, _, h⟩ := ok_of_bind h
  rw [← Except.ok.inj h]
  refine ⟨rfl, fun field hUnset => ?_⟩
  cases field with
  | name => exact congrArg RouteValue.text (requiredOr_kept hUnset hName)
  | enabled => exact congrArg RouteValue.flag (boolOr_kept hUnset base.enabled)
  | trunkMatch => rfl
  | dstPattern => exact congrArg RouteValue.text (requiredOr_kept hUnset hDstPattern)
  | srcPattern =>
      rw [RouteField.key] at hUnset
      simp only [OutboundRouteConfig.value, OutboundRouteConfig.trimmed,
        optionalPattern_kept hUnset]
  | dstStrip =>
      obtain rfl := u8Or_kept hUnset hDstStrip
      rfl
  | dstPrefix => exact congrArg RouteValue.text (optionalOr_kept hUnset base.dstPrefix)
  | dstSuffix => exact congrArg RouteValue.text (optionalOr_kept hUnset base.dstSuffix)
  | srcStrip =>
      obtain rfl := u8Or_kept hUnset hSrcStrip
      rfl
  | srcPrefix => exact congrArg RouteValue.text (optionalOr_kept hUnset base.srcPrefix)
  | srcSuffix => exact congrArg RouteValue.text (optionalOr_kept hUnset base.srcSuffix)
  | target => rfl
  | priority =>
      obtain rfl := priorityOr_kept hUnset hPriority
      rfl
  | trunkRefs => exact congrArg RouteValue.refs (trunkRefsOr_kept hUnset base.trunkRefs)

end FromSet

end VoipSwitch
