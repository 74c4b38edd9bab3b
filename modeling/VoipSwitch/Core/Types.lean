import Mathlib.Data.String.Basic

/-! The value types of the switch core: identifiers, call and leg states, sessions
and dial targets. -/
namespace VoipSwitch

abbrev DomainId := String
abbrev EndpointId := String
abbrev TrunkId := String
abbrev CallId := String
abbrev SessionId := String
abbrev AdapterCallLegId := String
abbrev CalleeAttemptId := String
abbrev BridgeId := String
abbrev CollectorId := String
abbrev BusinessOperationId := String
abbrev MediaCapabilityLeaseId := String
abbrev MediaLegId := String
abbrev SdpBody := String

/-- `str::starts_with`. -/
def startsWith (text start : String) : Bool := start.toList.isPrefixOf text.toList

/-- A bind that succeeds succeeds twice. -/
theorem ok_of_bind {ε α β : Type} {x : Except ε α} {f : α → Except ε β} {b : β}
    (h : (x >>= f) = .ok b) : ∃ a, x = .ok a ∧ f a = .ok b := by
  cases x with
  | error error => cases h
  | ok a => exact ⟨a, rfl, h⟩

theorem bind_of_ok {ε α β : Type} {x : Except ε α} {f : α → Except ε β} {a : α} {b : β}
    (hFirst : x = .ok a) (hSecond : f a = .ok b) : (x >>= f) = .ok b := by
  rw [hFirst]
  exact hSecond

theorem forall₂_of_mapM {ε α β : Type} {f : α → Except ε β} {items : List α} {values : List β}
    (h : items.mapM f = .ok values) :
    List.Forall₂ (fun item value => f item = .ok value) items values := by
  induction items generalizing values with
  | nil =>
      obtain rfl := Except.ok.inj h
      exact .nil
  | cons item items ih =>
      rw [List.mapM_cons] at h
      obtain ⟨value, hValue, h⟩ := ok_of_bind h
      obtain ⟨others, hOthers, h⟩ := ok_of_bind h
      obtain rfl := Except.ok.inj h
      exact .cons hValue (ih hOthers)

theorem mapM_of_forall₂ {ε α β : Type} {f : α → Except ε β} {items : List α} {values : List β}
    (h : List.Forall₂ (fun item value => f item = .ok value) items values) :
    items.mapM f = .ok values := by
  induction h with
  | nil => rfl
  | cons hHead _ ih =>
      rw [List.mapM_cons, hHead, ih]
      rfl

/-- Largest value of a 64-bit counter. -/
def u64Max : Nat := 2 ^ 64 - 1

/-- Largest value of a 16-bit counter. -/
def u16Max : Nat := 2 ^ 16 - 1

/-- `u64::saturating_add(1)`. -/
def satSucc64 (n : Nat) : Nat := min (n + 1) u64Max

/-- `u64::saturating_add`. -/
def satAdd64 (m n : Nat) : Nat := min (m + n) u64Max

/-- `u16::saturating_add(1)`. -/
def satSucc16 (n : Nat) : Nat := min (n + 1) u16Max

inductive LegDirection where
  | inbound
  | outbound
deriving DecidableEq

inductive CallState where
  | establishing
  | answering
  | connected
  | terminating
  | completed
deriving DecidableEq

namespace CallState

def isTerminatingOrCompleted : CallState → Bool
  | .terminating | .completed => true
  | _ => false

def asStr : CallState → String
  | .establishing => "establishing"
  | .answering => "answering"
  | .connected => "connected"
  | .terminating => "terminating"
  | .completed => "completed"

end CallState

def validCallStateTransition : CallState → CallState → Bool
  | .establishing, .answering | .establishing, .terminating => true
  | .answering, .connected | .answering, .terminating => true
  | .connected, .terminating => true
  | .terminating, .completed => true
  | _, _ => false

inductive LegState where
  | idle
  | routing
  | dialing
  | waitForAnswer
  | bridged
  | hangingUp
  | destroyed
deriving DecidableEq

def LegState.isTerminal : LegState → Bool
  | .destroyed => true
  | _ => false

inductive HangupCause where
  | normalClearing
  | originatorCancel
  | noRoute
  | unallocatedNumber
  | noAnswer
  | noUserResponse
  | userBusy
  | userNotRegistered
  | callRejected
  | invalidNumberFormat
  | resourceLimit
  | lineBusy
  | incompatibleDestination
  | networkFailure
  | temporaryFailure
  | recoveryOnTimerExpire
  | domainDisabled
  | systemShutdown
  | internalError
deriving DecidableEq

def HangupCause.asCdrString : HangupCause → String
  | .normalClearing => "normal_clearing"
  | .originatorCancel => "originator_cancel"
  | .noRoute => "no_route"
  | .unallocatedNumber => "unallocated_number"
  | .noAnswer => "no_answer"
  | .noUserResponse => "no_user_response"
  | .userBusy => "user_busy"
  | .userNotRegistered => "user_not_registered"
  | .callRejected => "call_rejected"
  | .invalidNumberFormat => "invalid_number_format"
  | .resourceLimit => "resource_limit"
  | .lineBusy => "line_busy"
  | .incompatibleDestination => "incompatible_destination"
  | .networkFailure => "network_failure"
  | .temporaryFailure => "temporary_failure"
  | .recoveryOnTimerExpire => "recovery_on_timer_expire"
  | .domainDisabled => "domain_disabled"
  | .systemShutdown => "system_shutdown"
  | .internalError => "internal_error"

inductive NumberError where
  | empty
  | tooLong (max : Nat)
  | invalidCharacter (index : Nat) (character : Char)
deriving Repr, DecidableEq

def maxExtensionNumberLen : Nat := 32

/-- Byte offset and value of the first character that is not an ASCII digit. -/
def firstNonDigit : List Char → Nat → Option (Nat × Char)
  | [], _ => none
  | c :: rest, index =>
    if '0' ≤ c ∧ c ≤ '9' then firstNonDigit rest (index + c.utf8Size) else some (index, c)

/-- `ExtensionNumber::parse`. -/
def parseExtensionNumber (input : String) : Except NumberError String :=
  if input.isEmpty then .error .empty
  else if maxExtensionNumberLen < input.utf8ByteSize then .error (.tooLong maxExtensionNumberLen)
  else
    match firstNonDigit input.toList 0 with
    | some (index, character) => .error (.invalidCharacter index character)
    | none => .ok input

/-- An extension number that its parser accepts. -/
structure ExtensionNumber where
  text : String
  valid : parseExtensionNumber text = .ok text
deriving DecidableEq

theorem parseExtensionNumber_ok {input text : String}
    (h : parseExtensionNumber input = .ok text) : text = input := by
  unfold parseExtensionNumber at h
  split_ifs at h
  split at h
  · cases h
  · cases h
    rfl

def ExtensionNumber.parse (input : String) : Except NumberError ExtensionNumber :=
  match h : parseExtensionNumber input with
  | .error e => .error e
  | .ok text => .ok ⟨text, (parseExtensionNumber_ok h).symm ▸ h⟩

structure EndpointRef where
  endpointId : EndpointId
  number : ExtensionNumber
deriving DecidableEq

/-- Whom an attempt dials. -/
inductive CalleeTarget where
  | extension (endpointId : EndpointId) (number : ExtensionNumber)
  | trunk (trunkId : TrunkId)
  | aiAgent (agentId : String)
deriving DecidableEq

inductive LegRole where
  | caller
  | callee (attemptId : CalleeAttemptId)
deriving DecidableEq

inductive SessionEndpoint where
  | endpoint (endpoint : EndpointRef)
  | trunk (trunkId : TrunkId)
  | external (number : String)
  | aiAgent (agentId : String)
deriving DecidableEq

structure SipBinding where
  adapterCallLegId : AdapterCallLegId
  generation : Nat
deriving DecidableEq

/-- One signalling leg. -/
structure Session where
  id : SessionId
  domainId : DomainId
  callId : CallId
  role : LegRole
  direction : LegDirection
  endpoint : SessionEndpoint
  state : LegState
  sip : Option SipBinding
  peer : Option SessionId
  createdAtMs : Nat
  answeredAtMs : Option Nat
  hangupCause : Option HangupCause
deriving DecidableEq

/-- `Option::get_or_insert`. -/
def getOrInsert {α : Type} (slot : Option α) (value : α) : Option α :=
  match slot with
  | some held => some held
  | none => some value

def Session.markAnswered (session : Session) (answeredAtMs : Nat) : Session :=
  { session with answeredAtMs := getOrInsert session.answeredAtMs answeredAtMs }

@[simp] theorem getOrInsert_some {α : Type} (held value : α) :
    getOrInsert (some held) value = some held := rfl

@[simp] theorem getOrInsert_none {α : Type} (value : α) :
    getOrInsert none value = some value := rfl

/-- A slot that holds something keeps it. -/
theorem getOrInsert_of_isSome {α : Type} {slot : Option α} {value : α}
    (h : slot.isSome = true) : getOrInsert slot value = slot := by
  obtain ⟨held, rfl⟩ := Option.isSome_iff_exists.mp h
  rfl

@[simp] theorem getOrInsert_isSome {α : Type} (slot : Option α) (value : α) :
    (getOrInsert slot value).isSome = true := by
  cases slot <;> rfl

end VoipSwitch
