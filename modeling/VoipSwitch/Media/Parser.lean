import Mathlib.Data.Prod.Lex
import VoipSwitch.Call.Dtmf
import VoipSwitch.Lib.FramedLog
import VoipSwitch.Lib.Table

/-! Detection of RFC 4733 digits in the packets of one direction of a call. Instants and
durations are in nanoseconds. -/
namespace VoipSwitch.Media

open Keyed Framed

/-- Telephone events as a peer has negotiated them. -/
structure DtmfCapability where
  payloadType : UInt8
  clockRate : Nat
  events : List UInt8
  detectable : Bool
deriving DecidableEq

inductive DtmfMediaMode where
  | transparent
  | observe
  | collect
deriving DecidableEq

structure ParserConfig where
  generation : Nat
  capability : Option DtmfCapability
  mode : DtmfMediaMode
deriving DecidableEq

namespace ParserConfig

def withMode (generation : Nat) (capability : Option DtmfCapability) (mode : DtmfMediaMode) :
    ParserConfig where
  generation := generation
  capability := capability.filter (·.detectable)
  mode := mode

def transparent (generation : Nat) (capability : Option DtmfCapability) : ParserConfig :=
  withMode generation capability .transparent

def disabled (generation : Nat) : ParserConfig where
  generation := generation
  capability := none
  mode := .transparent

def activeCapability (config : ParserConfig) : Option DtmfCapability :=
  if config.mode ≠ .transparent then config.capability else none

@[simp] theorem withMode_generation (generation : Nat) (capability : Option DtmfCapability)
    (mode : DtmfMediaMode) : (withMode generation capability mode).generation = generation := rfl

end ParserConfig

def stateCapacity : Nat := 32

def millis (n : Nat) : Nat := n * 1000000

def recentTtl : Nat := millis 2000

def idleTimeout : Nat := millis 250

def maxPressDurationMs : Nat := 10000

/-- A key press as the packets of one event name it. -/
structure EventKey where
  ssrc : Nat
  timestamp : Nat
  event : Nat
deriving DecidableEq

namespace EventKey

def toTriple (key : EventKey) : Nat ×ₗ Nat ×ₗ Nat :=
  toLex (key.ssrc, toLex (key.timestamp, key.event))

theorem toTriple_injective : Function.Injective toTriple := by
  intro key key' hSame
  cases key
  cases key'
  simpa [toTriple] using hSame

instance : LinearOrder EventKey := LinearOrder.lift' toTriple toTriple_injective

end EventKey

structure ActivePress where
  digit : DtmfDigit
  maxDuration : Nat
  firstSeen : Nat
  lastSeen : Nat
deriving DecidableEq

structure Rfc4733DigitCompleted where
  generation : Nat
  ssrc : Nat
  timestamp : Nat
  eventCode : Nat
  digit : DtmfDigit
  durationMs : Nat
  incompleteEnd : Bool
deriving DecidableEq

inductive ParserObservation where
  | completed (digit : Rfc4733DigitCompleted)
  | invalid
deriving DecidableEq

/-- A packet is refused, or read outside its bounds. -/
inductive RtpFault where
  | malformed
  | outOfBounds
deriving DecidableEq

structure ParsedRtp where
  payloadType : UInt8
  timestamp : Nat
  ssrc : Nat
  payload : Bytes
deriving DecidableEq

def byteAt (packet : Bytes) (i : Nat) : Except RtpFault UInt8 :=
  match packet[i]? with
  | some byte => .ok byte
  | none => .error .outOfBounds

def be16At (packet : Bytes) (i : Nat) : Except RtpFault Nat := do
  let high ← byteAt packet i
  let low ← byteAt packet (i + 1)
  pure (high.toNat * 256 + low.toNat)

def be32At (packet : Bytes) (i : Nat) : Except RtpFault Nat := do
  let high ← be16At packet i
  let low ← be16At packet (i + 2)
  pure (high * 65536 + low)

/-- Length of the header with its contributing sources and its extension. -/
def headerLength (packet : Bytes) (first : UInt8) : Except RtpFault Nat :=
  let fixed := 12 + (first &&& 0x0f).toNat * 4
  if packet.length < fixed then .error .malformed
  else if first &&& 0x10 = 0 then .ok fixed
  else if packet.length < fixed + 4 then .error .malformed
  else do
    let words ← be16At packet (fixed + 2)
    if packet.length < fixed + 4 + words * 4 then .error .malformed
    else pure (fixed + 4 + words * 4)

/-- Where the payload ends before the padding. -/
def payloadEnd (packet : Bytes) (first : UInt8) (header : Nat) : Except RtpFault Nat :=
  if first &&& 0x20 = 0 then .ok packet.length
  else
    match packet.getLast? with
    | none => .error .malformed
    | some padding =>
      if padding = 0 || packet.length - header < padding.toNat then .error .malformed
      else .ok (packet.length - padding.toNat)

/-- The bytes of a packet from one place up to another. -/
def slice (packet : Bytes) (start stop : Nat) : Except RtpFault Bytes :=
  if start ≤ stop ∧ stop ≤ packet.length then .ok ((packet.take stop).drop start)
  else .error .outOfBounds

def parseRtp (packet : Bytes) : Except RtpFault ParsedRtp :=
  if packet.length < 12 then .error .malformed
  else do
    let first ← byteAt packet 0
    if first >>> 6 ≠ 2 then .error .malformed
    else do
      let header ← headerLength packet first
      let stop ← payloadEnd packet first header
      let second ← byteAt packet 1
      let timestamp ← be32At packet 4
      let ssrc ← be32At packet 8
      let payload ← slice packet header stop
      pure ⟨second &&& 0x7f, timestamp, ssrc, payload⟩

def digitOf (event : UInt8) : Option DtmfDigit :=
  match event.toNat with
  | 0 => some .d0
  | 1 => some .d1
  | 2 => some .d2
  | 3 => some .d3
  | 4 => some .d4
  | 5 => some .d5
  | 6 => some .d6
  | 7 => some .d7
  | 8 => some .d8
  | 9 => some .d9
  | 10 => some .star
  | 11 => some .pound
  | 12 => some .a
  | 13 => some .b
  | 14 => some .c
  | 15 => some .d
  | 16 => some .flash
  | _ => none

def mapEvent (event : UInt8) (capability : DtmfCapability) : Option DtmfDigit :=
  if event ∈ capability.events then digitOf event else none

structure Rfc4733Parser where
  config : ParserConfig
  active : Table EventKey ActivePress := .empty
  recent : List (EventKey × Nat) := []
deriving DecidableEq

namespace Rfc4733Parser

def updateConfig (parser : Rfc4733Parser) (config : ParserConfig) : Rfc4733Parser :=
  if parser.config ≠ config then { config } else parser

def pruneRecent (parser : Rfc4733Parser) (now : Nat) : Rfc4733Parser :=
  { parser with recent := parser.recent.dropWhile fun entry => recentTtl ≤ now - entry.2 }

/-- Report a press and remember its key; none where the key is not pressed. -/
def complete (parser : Rfc4733Parser) (key : EventKey) (incompleteEnd : Bool) (now : Nat) :
    Option (Rfc4733DigitCompleted × Rfc4733Parser) :=
  (parser.active.get key).map fun press =>
    let clockRate := match parser.config.activeCapability with
      | some capability => capability.clockRate
      | none => 8000
    ({ generation := parser.config.generation
       ssrc := key.ssrc
       timestamp := key.timestamp
       eventCode := key.event
       digit := press.digit
       durationMs := min (press.maxDuration * 1000 / clockRate) maxPressDurationMs
       incompleteEnd },
     { parser with
       active := parser.active.remove key
       recent := parser.recent ++ [(key, now)] })

def completeAll (now : Nat) :
    List EventKey → Rfc4733Parser → List ParserObservation × Rfc4733Parser
  | [], parser => ([], parser)
  | key :: rest, parser =>
    match parser.complete key true now with
    | some (digit, parser) =>
      let (others, parser) := completeAll now rest parser
      (.completed digit :: others, parser)
    | none => completeAll now rest parser

/-- The press has been idle or has lasted for too long. -/
def due (now : Nat) (press : ActivePress) : Bool :=
  press.lastSeen + idleTimeout ≤ now || press.firstSeen + millis maxPressDurationMs ≤ now

/-- Complete what is due. `visit` is the order in which the hash map yields its entries. -/
def expire (visit : List (EventKey × ActivePress) → List (EventKey × ActivePress)) (now : Nat)
    (parser : Rfc4733Parser) : List ParserObservation × Rfc4733Parser :=
  let parser := parser.pruneRecent now
  completeAll now (((visit parser.active.entries).filter fun entry => due now entry.2).map
    Prod.fst) parser

/-- Forget the oldest completed presses while the capacity is used up. -/
def makeRoom (active : Nat) : List (EventKey × Nat) → List (EventKey × Nat)
  | [] => []
  | oldest :: rest =>
    if stateCapacity ≤ active + (rest.length + 1) then makeRoom active rest else oldest :: rest

/-- Note the press, and complete it if this is its last packet. -/
def hold (parser : Rfc4733Parser) (key : EventKey) (press : ActivePress) (ended : Bool)
    (now : Nat) : List ParserObservation × Rfc4733Parser :=
  let parser := { parser with active := parser.active.insert key press }
  if ended then
    match parser.complete key false now with
    | some (digit, parser) => ([.completed digit], parser)
    | none => ([], parser)
  else ([], parser)

/-- One packet of a press. -/
def press (parser : Rfc4733Parser) (key : EventKey) (digit : DtmfDigit) (duration : Nat)
    (ended : Bool) (now : Nat) : List ParserObservation × Rfc4733Parser :=
  if parser.recent.any fun entry => entry.1 = key then ([], parser)
  else
    match parser.active.get key with
    | some active =>
      if duration < active.maxDuration then ([.invalid], parser)
      else parser.hold key { active with maxDuration := duration, lastSeen := now } ended now
    | none =>
      let active := parser.active.entries.length
      let parser := { parser with recent := makeRoom active parser.recent }
      if stateCapacity ≤ active + parser.recent.length then ([.invalid], parser)
      else
        parser.hold key { digit, maxDuration := duration, firstSeen := now, lastSeen := now }
          ended now

def observeEvent (parser : Rfc4733Parser) (capability : DtmfCapability) (rtp : ParsedRtp)
    (now : Nat) : List ParserObservation × Rfc4733Parser :=
  match rtp.payload with
  | event :: flags :: high :: low :: _ =>
    match mapEvent event capability with
    | none => ([], parser)
    | some digit =>
      parser.press ⟨rtp.ssrc, rtp.timestamp, event.toNat⟩ digit
        (high.toNat * 256 + low.toNat) (flags &&& 0x80 ≠ 0) now
  | _ => ([.invalid], parser)

def observePacket (visit : List (EventKey × ActivePress) → List (EventKey × ActivePress))
    (packet : Bytes) (now : Nat) (parser : Rfc4733Parser) :
    List ParserObservation × Rfc4733Parser :=
  let (expired, parser) := parser.expire visit now
  match parser.config.activeCapability with
  | none => (expired, parser)
  | some capability =>
    match parseRtp packet with
    | .error _ => (expired ++ [.invalid], parser)
    | .ok rtp =>
      if rtp.payloadType ≠ capability.payloadType then (expired, parser)
      else
        let (observed, parser) := parser.observeEvent capability rtp now
        (expired ++ observed, parser)

/-- What an operation of a parser with the configuration `config` returns: the
configuration stays, and the digits reported are of its generation. -/
structure Faithful (config : ParserConfig) (out : List ParserObservation × Rfc4733Parser) :
    Prop where
  config_eq : out.2.config = config
  generation_eq : ∀ digit, .completed digit ∈ out.1 → digit.generation = config.generation

variable {parser parser' : Rfc4733Parser} {key : EventKey} {config : ParserConfig}
variable {visit : List (EventKey × ActivePress) → List (EventKey × ActivePress)} {now : Nat}
variable {digit : Rfc4733DigitCompleted} {out : List ParserObservation × Rfc4733Parser}

theorem Faithful.silent (h : parser.config = config) : Faithful config ([], parser) where
  config_eq := h
  generation_eq := by simp

theorem Faithful.invalid (h : parser.config = config) : Faithful config ([.invalid], parser) where
  config_eq := h
  generation_eq := by simp

theorem Faithful.append (h : Faithful config out) (others : List ParserObservation)
    (hOthers : ∀ digit, .completed digit ∈ others → digit.generation = config.generation) :
    Faithful config (others ++ out.1, out.2) where
  config_eq := h.config_eq
  generation_eq := by
    intro digit hMem
    rcases List.mem_append.mp hMem with hOther | hOwn
    · exact hOthers digit hOther
    · exact h.generation_eq digit hOwn

theorem complete_eq {incompleteEnd : Bool}
    (h : parser.complete key incompleteEnd now = some (digit, parser')) :
    digit.generation = parser.config.generation ∧ parser'.config = parser.config := by
  rw [complete] at h
  obtain ⟨press, -, hPair⟩ := Option.map_eq_some_iff.mp h
  cases hPair
  simp

theorem completeAll_faithful (keys : List EventKey) (h : parser.config = config) :
    Faithful config (completeAll now keys parser) := by
  induction keys generalizing parser with
  | nil => exact .silent h
  | cons key rest ih =>
      rw [completeAll]
      split
      · next digit parser' hDone =>
          obtain ⟨hGeneration, hConfig⟩ := complete_eq hDone
          have hRest := ih (hConfig.trans h)
          apply hRest.append [.completed digit]
          intro digit' hMem
          simp only [List.mem_singleton, ParserObservation.completed.injEq] at hMem
          rw [hMem, hGeneration, h]
      · exact ih h

theorem expire_faithful : Faithful parser.config (parser.expire visit now) := by
  apply completeAll_faithful
  rfl

theorem hold_faithful {press : ActivePress} {ended : Bool} (h : parser.config = config) :
    Faithful config (parser.hold key press ended now) := by
  subst h
  rw [hold]
  split
  · split
    · next digit parser' hDone =>
        obtain ⟨hGeneration, hConfig⟩ := complete_eq hDone
        constructor
        · exact hConfig
        · simp [hGeneration]
    · exact .silent rfl
  · exact .silent rfl

theorem press_faithful {digit : DtmfDigit} {duration : Nat} {ended : Bool} :
    Faithful parser.config (parser.press key digit duration ended now) := by
  rw [press]
  split
  · exact .silent rfl
  · split
    · split
      · exact .invalid rfl
      · exact hold_faithful rfl
    · simp only
      split
      · exact .invalid rfl
      · exact hold_faithful rfl

theorem observeEvent_faithful (capability : DtmfCapability) (rtp : ParsedRtp)
    (h : parser.config = config) :
    Faithful config (parser.observeEvent capability rtp now) := by
  subst h
  rw [observeEvent]
  split
  · split
    · exact .silent rfl
    · exact press_faithful
  · exact .invalid rfl

theorem observePacket_faithful {packet : Bytes} :
    Faithful parser.config (parser.observePacket visit packet now) := by
  have hExpired : Faithful parser.config (parser.expire visit now) := expire_faithful
  generalize hOut : parser.expire visit now = out at hExpired
  obtain ⟨expired, parser'⟩ := out
  obtain ⟨hConfig, hDigits⟩ := hExpired
  simp only at hConfig
  rw [observePacket, hOut]
  simp only
  split
  · exact ⟨hConfig, hDigits⟩
  · split
    · exact (Faithful.invalid hConfig).append expired hDigits
    · split
      · exact ⟨hConfig, hDigits⟩
      · exact (observeEvent_faithful _ _ hConfig).append expired hDigits

end Rfc4733Parser

end VoipSwitch.Media
