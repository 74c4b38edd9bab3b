import Mathlib.Data.List.Basic
import VoipSwitch.Lib.Numeral

/-! Internet addresses and their texts. An address is read from the front of a text. -/
namespace Internet

open Numeral

structure Ipv4Addr where
  one : UInt8
  two : UInt8
  three : UInt8
  four : UInt8
deriving DecidableEq

structure Ipv6Addr where
  segments : List UInt16
  length_segments : segments.length = 8
deriving DecidableEq

inductive IpAddr where
  | v4 (address : Ipv4Addr)
  | v6 (address : Ipv6Addr)
deriving DecidableEq

/-- An address and a port. The second kind also has a flow and a scope. -/
inductive SocketAddr where
  | v4 (ip : Ipv4Addr) (port : UInt16)
  | v6 (ip : Ipv6Addr) (port : UInt16) (flowinfo scopeId : UInt32)
deriving DecidableEq

namespace SocketAddr

/-- The socket address without a flow and a scope. -/
def new (ip : IpAddr) (port : UInt16) : SocketAddr :=
  match ip with
  | .v4 ip => .v4 ip port
  | .v6 ip => .v6 ip port 0 0

def ip : SocketAddr → IpAddr
  | .v4 ip _ => .v4 ip
  | .v6 ip _ _ _ => .v6 ip

def port : SocketAddr → UInt16
  | .v4 _ port => port
  | .v6 _ port _ _ => port

end SocketAddr

section Reading

/-- Reads what is asked for after a separator, which the first of a row does not have. -/
def readSeparated {α : Type} (separator : Char) (first : Bool)
    (read : List Char → Option (α × List Char)) (text : List Char) : Option (α × List Char) :=
  if first then read text
  else
    match text with
    | [] => none
    | c :: text => if c = separator then read text else none

def readOctet (text : List Char) : Option (UInt8 × List Char) :=
  (readNumber 10 3 256 false text).map fun (n, rest) => (UInt8.ofNat n, rest)

def readIpv4 (text : List Char) : Option (Ipv4Addr × List Char) := do
  let (one, text) ← readSeparated '.' true readOctet text
  let (two, text) ← readSeparated '.' false readOctet text
  let (three, text) ← readSeparated '.' false readOctet text
  let (four, text) ← readSeparated '.' false readOctet text
  pure ({ one, two, three, four }, text)

def readHextet (text : List Char) : Option (UInt16 × List Char) :=
  (readNumber 16 4 65536 true text).map fun (n, rest) => (UInt16.ofNat n, rest)

/-- The two segments that the octets make. -/
def Ipv4Addr.high (address : Ipv4Addr) : UInt16 :=
  UInt16.ofNat (256 * address.one.toNat + address.two.toNat)

def Ipv4Addr.low (address : Ipv4Addr) : UInt16 :=
  UInt16.ofNat (256 * address.three.toNat + address.four.toNat)

/-- A row of segments at the front of a text, whether dotted octets ended it, and the rest. -/
structure Groups where
  groups : List UInt16
  dotted : Bool
  rest : List Char

/-- Reads at most so many segments. The last two may be written as dotted octets. -/
def readGroups : Nat → Bool → List Char → Groups
  | 0, _, text => ⟨[], false, text⟩
  | limit + 1, first, text =>
    match if 0 < limit then readSeparated ':' first readIpv4 text else none with
    | some (address, rest) => ⟨[address.high, address.low], true, rest⟩
    | none =>
      match readSeparated ':' first readHextet text with
      | some (group, rest) =>
        let others := readGroups limit false rest
        ⟨group :: others.groups, others.dotted, others.rest⟩
      | none => ⟨[], false, text⟩

theorem length_readGroups (limit : Nat) (first : Bool) (text : List Char) :
    (readGroups limit first text).groups.length ≤ limit := by
  induction limit generalizing first text with
  | zero => exact Nat.le_refl 0
  | succ limit ih =>
      rw [readGroups]
      split
      · rename_i hDotted
        split at hDotted
        · rename_i hLimit
          exact Nat.succ_le_succ hLimit
        · exact absurd hDotted (by simp)
      · split
        · exact Nat.succ_le_succ (ih ..)
        · exact Nat.zero_le _

/-- The address with a run of zeros between two rows of segments. -/
def Ipv6Addr.filled (head tail : List UInt16) (hLength : head.length + tail.length ≤ 8) :
    Ipv6Addr where
  segments := head ++ List.replicate (8 - head.length - tail.length) 0 ++ tail
  length_segments := by
    simp only [List.length_append, List.length_replicate]
    omega

theorem Ipv6Addr.filled_fits {head tail : Nat} (hHead : head ≤ 8) (hTail : tail ≤ 8 - (head + 1)) :
    head + tail ≤ 8 := by
  omega

def readIpv6 (text : List Char) : Option (Ipv6Addr × List Char) :=
  let head := readGroups 8 true text
  if hFull : head.groups.length = 8 then some (⟨head.groups, hFull⟩, head.rest)
  else if head.dotted then none
  else
    match head.rest with
    | ':' :: ':' :: rest =>
      let tail := readGroups (8 - (head.groups.length + 1)) true rest
      have hHead : head.groups.length ≤ 8 := length_readGroups 8 true text
      have hTail : tail.groups.length ≤ 8 - (head.groups.length + 1) := length_readGroups ..
      some (.filled head.groups tail.groups (Ipv6Addr.filled_fits hHead hTail), tail.rest)
    | _ => none

/-- Reads either kind of address. -/
def readIp (text : List Char) : Option (IpAddr × List Char) :=
  match readIpv4 text with
  | some (address, rest) => some (.v4 address, rest)
  | none => (readIpv6 text).map fun (address, rest) => (.v6 address, rest)

/-- The address that a whole text is. -/
def IpAddr.parse (text : List Char) : Option IpAddr :=
  match readIp text with
  | some (address, []) => some address
  | _ => none

end Reading

section Writing

def octetText (octet : UInt8) : List Char := Nat.toDigits 10 octet.toNat

def Ipv4Addr.text (address : Ipv4Addr) : List Char :=
  octetText address.one ++ '.' :: octetText address.two ++ '.' :: octetText address.three ++
    '.' :: octetText address.four

def hextetText (segment : UInt16) : List Char := Nat.toDigits 16 segment.toNat

/-- Segments with colons between them. -/
def groupsText (segments : List UInt16) : List Char := [':'].intercalate (segments.map hextetText)

/-- The octets that two segments are made of. -/
def Ipv4Addr.ofSegments (high low : UInt16) : Ipv4Addr where
  one := UInt8.ofNat (high.toNat / 256)
  two := UInt8.ofNat (high.toNat % 256)
  three := UInt8.ofNat (low.toNat / 256)
  four := UInt8.ofNat (low.toNat % 256)

/-- The address that is mapped into the last two segments, if one is. -/
def Ipv6Addr.toIpv4Mapped (address : Ipv6Addr) : Option Ipv4Addr :=
  match address.segments with
  | [a, b, c, d, e, f, high, low] =>
    if [a, b, c, d, e, f] = [0, 0, 0, 0, 0, 0xffff] then some (.ofSegments high low) else none
  | _ => none

structure Span where
  start : Nat
  length : Nat
deriving DecidableEq

/-- The longest run of zeros, which is the first of its length, from a place on. -/
def longestZeros : List UInt16 → Nat → Span → Span → Span
  | [], _, longest, _ => longest
  | segment :: segments, i, longest, current =>
    if segment = 0 then
      let current : Span :=
        ⟨if current.length = 0 then i else current.start, current.length + 1⟩
      longestZeros segments (i + 1)
        (if longest.length < current.length then current else longest) current
    else longestZeros segments (i + 1) longest ⟨0, 0⟩

def Ipv6Addr.text (address : Ipv6Addr) : List Char :=
  match address.toIpv4Mapped with
  | some mapped => [':', ':', 'f', 'f', 'f', 'f', ':'] ++ mapped.text
  | none =>
    let zeros := longestZeros address.segments 0 ⟨0, 0⟩ ⟨0, 0⟩
    if 1 < zeros.length then
      groupsText (address.segments.take zeros.start) ++ ':' :: ':' ::
        groupsText (address.segments.drop (zeros.start + zeros.length))
    else groupsText address.segments

def IpAddr.text : IpAddr → List Char
  | .v4 address => address.text
  | .v6 address => address.text

end Writing

section RoundTrip

variable {text rest : List Char} {limit : Nat} {first : Bool} {segments head tail : List UInt16}

theorem readOctet_octetText (octet : UInt8) (hEnded : Ended 10 text) :
    readOctet (octetText octet ++ text) = some (octet, text) := by
  have hSmall : octet.toNat < 256 := octet.toNat_lt
  rw [readOctet, octetText, readNumber_toDigits (by decide) (by decide) (by decide)
    (by omega) hSmall false hEnded]
  simp

theorem readHextet_hextetText (segment : UInt16) (hEnded : Ended 16 text) :
    readHextet (hextetText segment ++ text) = some (segment, text) := by
  have hSmall : segment.toNat < 65536 := segment.toNat_lt
  rw [readHextet, hextetText, readNumber_toDigits (by decide) (by decide) (by decide)
    (by omega) hSmall true hEnded]
  simp

theorem ended_cons {radix : Nat} {c : Char} (hNone : toDigit radix c = none) :
    Ended radix (c :: text) := by
  intro first hFirst
  obtain rfl := Option.some.inj hFirst
  exact hNone

theorem readIpv4_text (address : Ipv4Addr) (hEnded : Ended 10 text) :
    readIpv4 (address.text ++ text) = some (address, text) := by
  have hDot : ∀ after : List Char, Ended 10 ('.' :: after) := fun _ => ended_cons (by decide)
  simp only [readIpv4, Ipv4Addr.text, readSeparated, List.append_assoc, List.cons_append,
    readOctet_octetText _ (hDot _), readOctet_octetText _ hEnded, if_true, Option.bind_eq_bind,
    Option.bind_some, Bool.false_eq_true, if_false]
  rfl

/-- A text that does not go on with a dot after its digits is no dotted address. -/
theorem readIpv4_none (hDot : ∀ c ∈ (readDigits 10 text).2.head?, c ≠ '.') :
    readIpv4 text = none := by
  have hSecond : ∀ octet after, readOctet text = some (octet, after) →
      readSeparated '.' false readOctet after = none := by
    intro octet after hRead
    obtain ⟨⟨n, left⟩, hNumber, hEq⟩ := Option.map_eq_some_iff.mp hRead
    rw [← (Prod.mk.inj hEq).2, rest_of_readNumber hNumber]
    cases hRest : (readDigits 10 text).2 with
    | nil => rfl
    | cons c others =>
        have hOther : c ≠ '.' := hDot c (by rw [hRest]; rfl)
        simp only [readSeparated, Bool.false_eq_true, if_false, if_neg hOther]
  unfold readIpv4
  change (readOctet text).bind _ = none
  rw [Option.bind_eq_none_iff]
  intro (octet, after) hRead
  change (readSeparated '.' false readOctet after).bind _ = none
  rw [hSecond octet after hRead]
  rfl

/-- A row of segments can end before such a text: nothing, or the mark of a run of zeros. -/
def Stops (rest : List Char) : Prop :=
  rest = [] ∨ ∃ after, rest = ':' :: ':' :: after

/-- A segment can end before such a text. -/
def Closes (rest : List Char) : Prop :=
  rest = [] ∨ ∃ after, rest = ':' :: after

theorem Stops.closes (hStops : Stops rest) : Closes rest := by
  rcases hStops with rfl | ⟨after, rfl⟩
  · exact .inl rfl
  · exact .inr ⟨_, rfl⟩

theorem Closes.ended (hCloses : Closes rest) (radix : Nat) : Ended radix rest := by
  rcases hCloses with rfl | ⟨after, rfl⟩
  · intro c hHead
    exact (Option.not_mem_none c hHead).elim
  · apply ended_cons
    rfl

theorem hextetText_ne_dot (segment : UInt16) : ∀ c ∈ hextetText segment, c ≠ '.' := by
  intro c hMem hDot
  obtain ⟨digit, hDigit⟩ := digit_of_mem_toDigits (by decide) (by decide) hMem
  rw [hDot] at hDigit
  exact absurd hDigit (by decide +revert)

/-- A segment is not taken for a dotted address. -/
theorem readIpv4_append_none (hText : ∀ c ∈ text, c ≠ '.') (hCloses : Closes rest) :
    readIpv4 (text ++ rest) = none := by
  apply readIpv4_none
  induction text with
  | nil =>
      rw [List.nil_append, readDigits_ended (hCloses.ended 10)]
      rcases hCloses with rfl | ⟨after, rfl⟩
      · intro c hHead
        exact (Option.not_mem_none c hHead).elim
      · intro c hHead
        obtain rfl := Option.some.inj hHead
        decide
  | cons c text ih =>
      rw [List.cons_append, readDigits]
      split
      · exact ih fun x hMem => hText x (List.mem_cons_of_mem _ hMem)
      · intro x hHead
        obtain rfl := Option.some.inj hHead
        exact hText c List.mem_cons_self

/-- What stands before a segment. -/
def lead (first : Bool) : List Char := if first then [] else [':']

theorem readSeparated_lead {α : Type} (read : List Char → Option (α × List Char)) :
    readSeparated ':' first read (lead first ++ text) = read text := by
  cases first with
  | false => rfl
  | true => rfl

theorem readGroups_hextet (limit : Nat) (first : Bool) (segment : UInt16) (hCloses : Closes rest) :
    readGroups (limit + 1) first (lead first ++ (hextetText segment ++ rest)) =
      ⟨segment :: (readGroups limit false rest).groups, (readGroups limit false rest).dotted,
        (readGroups limit false rest).rest⟩ := by
  have hDotted : readIpv4 (hextetText segment ++ rest) = none :=
    readIpv4_append_none (hextetText_ne_dot segment) hCloses
  rw [readGroups, readSeparated_lead, readSeparated_lead, hDotted, ite_self,
    readHextet_hextetText segment (hCloses.ended 16)]

theorem readHextet_none (hCloses : Closes rest) : readHextet rest = none := by
  rw [readHextet, readNumber, readDigits_ended (hCloses.ended 16)]
  rfl

/-- A row of segments ends where no other one can be read. -/
theorem readGroups_closed (hCloses : Closes rest) :
    readGroups limit first (lead first ++ rest) = ⟨[], false, lead first ++ rest⟩ := by
  cases limit with
  | zero => rfl
  | succ limit =>
      have hDotted : readIpv4 rest = none :=
        readIpv4_append_none (fun _ hMem => absurd hMem List.not_mem_nil) hCloses
      rw [readGroups, readSeparated_lead, readSeparated_lead, hDotted, ite_self,
        readHextet_none hCloses]

theorem readGroups_stops (hStops : Stops rest) :
    readGroups limit false rest = ⟨[], false, rest⟩ := by
  rcases hStops with rfl | ⟨after, rfl⟩
  · cases limit with
    | zero => rfl
    | succ limit => rw [readGroups, readSeparated, readSeparated]; simp
  · exact @readGroups_closed _ limit false (.inr ⟨after, rfl⟩)

/-- The segments after the first of a row, each with its colon. -/
def othersText (segments : List UInt16) : List Char :=
  segments.flatMap fun segment => ':' :: hextetText segment

theorem othersText_closes (segments : List UInt16) (hCloses : Closes rest) :
    Closes (othersText segments ++ rest) := by
  cases segments with
  | nil => exact hCloses
  | cons segment segments => exact .inr ⟨_, rfl⟩

theorem groupsText_cons (segment : UInt16) (segments : List UInt16) :
    groupsText (segment :: segments) = hextetText segment ++ othersText segments := by
  induction segments generalizing segment with
  | nil => simp [groupsText, othersText]
  | cons next segments ih =>
      rw [groupsText, List.map_cons, List.map_cons, List.intercalate_cons_cons, ← List.map_cons]
      change hextetText segment ++ [':'] ++ groupsText (next :: segments) = _
      rw [ih, List.append_assoc]
      rfl

theorem readGroups_othersText (hLimit : segments.length ≤ limit) (hStops : Stops rest) :
    readGroups limit false (othersText segments ++ rest) = ⟨segments, false, rest⟩ := by
  induction segments generalizing limit with
  | nil => exact readGroups_stops hStops
  | cons segment segments ih =>
      cases limit with
      | zero => exact absurd hLimit (by simp)
      | succ limit =>
          have hNext := ih (Nat.le_of_succ_le_succ hLimit)
          have hRead := readGroups_hextet limit false segment
            (othersText_closes segments hStops.closes)
          rw [hNext] at hRead
          rw [← hRead]
          simp [othersText, lead]

/-- A row of segments is read back. -/
theorem readGroups_groupsText (hLimit : segments.length ≤ limit) (hStops : Stops rest) :
    readGroups limit true (groupsText segments ++ rest) = ⟨segments, false, rest⟩ := by
  cases segments with
  | nil => exact @readGroups_closed _ limit true hStops.closes
  | cons segment segments =>
      cases limit with
      | zero => exact absurd hLimit (by simp)
      | succ limit =>
          have hRead := readGroups_hextet limit true segment
            (othersText_closes segments hStops.closes)
          rw [readGroups_othersText (Nat.le_of_succ_le_succ hLimit) hStops] at hRead
          rw [groupsText_cons, List.append_assoc]
          exact hRead

theorem readIpv6_full (address : Ipv6Addr) :
    readIpv6 (groupsText address.segments) = some (address, []) := by
  have hRead := readGroups_groupsText (Nat.le_of_eq address.length_segments) (.inl rfl)
  rw [List.append_nil] at hRead
  unfold readIpv6
  simp only [hRead, address.length_segments, dif_pos]

theorem readIpv6_filled {dotted : Bool} (hLength : head.length + tail.length ≤ 7)
    (hTail : readGroups (8 - (head.length + 1)) true text = ⟨tail, dotted, rest⟩) :
    readIpv6 (groupsText head ++ ':' :: ':' :: text) =
      some (.filled head tail (by omega), rest) := by
  have hRead : readGroups 8 true (groupsText head ++ ':' :: ':' :: text) =
      ⟨head, false, ':' :: ':' :: text⟩ :=
    readGroups_groupsText (by omega) (.inr ⟨text, rfl⟩)
  have hShort : ¬ head.length = 8 := by omega
  unfold readIpv6
  simp only [hRead, dif_neg hShort, hTail]
  rfl

/-- The dotted octets stand for the last two segments. -/
theorem readGroups_mapped (address : Ipv4Addr) :
    readGroups 7 true ('f' :: 'f' :: 'f' :: 'f' :: ':' :: address.text) =
      ⟨[0xffff, address.high, address.low], true, []⟩ := by
  have hText : hextetText 0xffff = ['f', 'f', 'f', 'f'] := by decide
  have hNext : readGroups 6 false (':' :: address.text) =
      ⟨[address.high, address.low], true, []⟩ := by
    have hRead := @readIpv4_text [] address fun c hHead => (Option.not_mem_none c hHead).elim
    rw [List.append_nil] at hRead
    rw [readGroups, if_pos (by decide)]
    change (match readIpv4 address.text with
      | some (address, rest) => _
      | none => _) = _
    rw [hRead]
  have hRead := @readGroups_hextet (':' :: address.text) 6 true 0xffff (.inr ⟨_, rfl⟩)
  rw [hNext, hText] at hRead
  exact hRead

theorem high_ofSegments (high low : UInt16) : (Ipv4Addr.ofSegments high low).high = high := by
  have hSmall := high.toNat_lt
  apply UInt16.toNat_inj.mp
  simp only [Ipv4Addr.high, Ipv4Addr.ofSegments, UInt16.toNat_ofNat', UInt8.toNat_ofNat']
  omega

theorem low_ofSegments (high low : UInt16) : (Ipv4Addr.ofSegments high low).low = low := by
  have hSmall := low.toNat_lt
  apply UInt16.toNat_inj.mp
  simp only [Ipv4Addr.low, Ipv4Addr.ofSegments, UInt16.toNat_ofNat', UInt8.toNat_ofNat']
  omega

theorem segments_of_mapped {address : Ipv6Addr} {mapped : Ipv4Addr}
    (hMapped : address.toIpv4Mapped = some mapped) :
    address.segments = [0, 0, 0, 0, 0, 0xffff, mapped.high, mapped.low] := by
  unfold Ipv6Addr.toIpv4Mapped at hMapped
  split at hMapped
  · rename_i a b c d e f high low hSegments
    split at hMapped
    · rename_i hPrefix
      obtain rfl := Option.some.inj hMapped
      rw [hSegments, high_ofSegments, low_ofSegments]
      exact congrArg (· ++ [high, low]) hPrefix
    · exact absurd hMapped (by simp)
  · exact absurd hMapped (by simp)

/-- The segments have so many zeros from such a place on. -/
def RunOfZeros (segments : List UInt16) (span : Span) : Prop :=
  ∃ before after, segments = before ++ List.replicate span.length 0 ++ after ∧
    before.length = span.start

/-- The run that the segments end with. -/
def EndsWith (segments : List UInt16) (span : Span) : Prop :=
  ∃ before, segments = before ++ List.replicate span.length 0 ∧
    (span.length ≠ 0 → before.length = span.start)

theorem RunOfZeros.append {span : Span} (hRun : RunOfZeros segments span)
    (more : List UInt16) : RunOfZeros (segments ++ more) span := by
  obtain ⟨before, after, rfl, hStart⟩ := hRun
  exact ⟨before, after ++ more, by simp, hStart⟩

theorem RunOfZeros.either {longer : Prop} [Decidable longer] {span span' : Span}
    (hRun : RunOfZeros segments span) (hRun' : RunOfZeros segments span') :
    RunOfZeros segments (if longer then span else span') := by
  split
  · exact hRun
  · exact hRun'

theorem EndsWith.run {span : Span} (hEnds : EndsWith segments span) (hSome : span.length ≠ 0) :
    RunOfZeros segments span := by
  obtain ⟨before, hEq, hStart⟩ := hEnds
  exact ⟨before, [], by simp [hEq], hStart hSome⟩

theorem EndsWith.snoc {span : Span} (hEnds : EndsWith segments span) :
    EndsWith (segments ++ [0])
      ⟨if span.length = 0 then segments.length else span.start, span.length + 1⟩ := by
  obtain ⟨before, hEq, hStart⟩ := hEnds
  refine ⟨before, ?_, ?_⟩
  · rw [hEq, List.append_assoc, ← List.replicate_succ']
  · intro _
    split
    · rename_i hZero
      rw [hEq, hZero, List.replicate_zero, List.append_nil]
    · rename_i hSome
      exact hStart hSome

theorem endsWith_zero (segments : List UInt16) : EndsWith segments ⟨0, 0⟩ :=
  ⟨segments, by simp, fun h => absurd rfl h⟩

theorem longestZeros_run (done rest : List UInt16) {longest current : Span}
    (hLongest : RunOfZeros done longest) (hCurrent : EndsWith done current) :
    RunOfZeros (done ++ rest) (longestZeros rest done.length longest current) := by
  induction rest generalizing done longest current with
  | nil =>
      rw [List.append_nil]
      exact hLongest
  | cons segment rest ih =>
      rw [longestZeros, List.append_cons]
      have hLength : done.length + 1 = (done ++ [segment]).length := by simp
      rw [hLength]
      split
      · rename_i hZero
        subst hZero
        have hNext := hCurrent.snoc
        exact ih _ ((hNext.run (Nat.succ_ne_zero _)).either (hLongest.append [0])) hNext
      · apply ih
        · exact hLongest.append [segment]
        · exact endsWith_zero _

theorem filled_eq {address : Ipv6Addr} (hLength : head.length + tail.length ≤ 8)
    (hEq : address.segments =
      head ++ List.replicate (8 - head.length - tail.length) 0 ++ tail) :
    Ipv6Addr.filled head tail hLength = address := by
  cases address
  simp only [Ipv6Addr.filled, Ipv6Addr.mk.injEq]
  exact hEq.symm

/-- Any run of at least two zeros can be left out of the text. -/
theorem readIpv6_run {address : Ipv6Addr} {zeros : Span}
    (hRun : RunOfZeros address.segments zeros) (hLong : 1 < zeros.length) :
    readIpv6 (groupsText (address.segments.take zeros.start) ++ ':' :: ':' ::
      groupsText (address.segments.drop (zeros.start + zeros.length))) = some (address, []) := by
  obtain ⟨before, after, hEq, hStart⟩ := hRun
  have hLength : before.length + zeros.length + after.length = 8 := by
    rw [← address.length_segments, hEq, List.length_append, List.length_append,
      List.length_replicate]
  have hBefore : address.segments.take zeros.start = before := by
    rw [hEq, ← hStart, List.append_assoc, List.take_left]
  have hAfter : address.segments.drop (zeros.start + zeros.length) = after := by
    rw [hEq, ← hStart, List.drop_left' (by simp)]
  have hTail := @readGroups_groupsText [] (8 - (before.length + 1)) after (by omega) (.inl rfl)
  rw [List.append_nil] at hTail
  have hZeros : zeros.length = 8 - before.length - after.length := by omega
  rw [hZeros] at hEq
  rw [hBefore, hAfter, readIpv6_filled (by omega) hTail, filled_eq (by omega) hEq]

/-- The text of an address is read back. -/
theorem readIpv6_text (address : Ipv6Addr) : readIpv6 address.text = some (address, []) := by
  unfold Ipv6Addr.text
  split
  · rename_i mapped hMapped
    have hRead := @readIpv6_filled _ _ [] _ _ (by simp) (readGroups_mapped mapped)
    rw [filled_eq _ (segments_of_mapped hMapped)] at hRead
    exact hRead
  · simp only
    split
    · rename_i hLong
      have hRun := @longestZeros_run [] address.segments ⟨0, 0⟩ ⟨0, 0⟩
        ⟨[], [], rfl, rfl⟩ (endsWith_zero [])
      exact readIpv6_run hRun hLong
    · exact readIpv6_full address

/-- An address of the second kind is not taken for one of the first. -/
theorem readIpv4_ipv6 (address : Ipv6Addr) : readIpv4 address.text = none := by
  have hGroups : ∀ (segments : List UInt16) (rest : List Char), Closes rest →
      readIpv4 (groupsText segments ++ rest) = none := by
    intro segments rest hCloses
    cases segments with
    | nil => exact readIpv4_append_none (fun _ hMem => absurd hMem List.not_mem_nil) hCloses
    | cons segment segments =>
        rw [groupsText_cons, List.append_assoc]
        exact readIpv4_append_none (hextetText_ne_dot segment)
          (othersText_closes segments hCloses)
  unfold Ipv6Addr.text
  split
  · exact hGroups [] _ (.inr ⟨_, rfl⟩)
  · simp only
    split
    · exact hGroups _ _ (.inr ⟨_, rfl⟩)
    · have hNone := hGroups address.segments [] (.inl rfl)
      rwa [List.append_nil] at hNone

theorem IpAddr.parse_text (address : IpAddr) : IpAddr.parse address.text = some address := by
  cases address with
  | v4 address =>
      have hRead := @readIpv4_text [] address fun c hHead => (Option.not_mem_none c hHead).elim
      rw [List.append_nil] at hRead
      rw [IpAddr.parse, readIp, IpAddr.text, hRead]
  | v6 address =>
      rw [IpAddr.parse, readIp, IpAddr.text, readIpv4_ipv6, readIpv6_text]
      rfl

end RoundTrip

section Characters

/-- The characters of addresses. -/
def IsAddressChar (c : Char) : Prop :=
  c = '.' ∨ c = ':' ∨ ∃ digit, toDigit 16 c = some digit

theorem isAddressChar_toDigits {radix n : Nat} (hRadix : 1 < radix) (hSixteen : radix ≤ 16) :
    ∀ c ∈ Nat.toDigits radix n, IsAddressChar c := by
  intro c hMem
  obtain ⟨digits, hEq, hBelow, -⟩ := toDigits_eq_map hRadix n
  rw [hEq] at hMem
  obtain ⟨digit, hDigit, rfl⟩ := List.mem_map.mp hMem
  have hSmall := hBelow digit hDigit
  exact .inr (.inr ⟨digit, toDigit_digitChar (Nat.le_refl 16) (by omega)⟩)

theorem isAddressChar_ipv4 (address : Ipv4Addr) : ∀ c ∈ address.text, IsAddressChar c := by
  intro c hMem
  have hOctet : ∀ octet : UInt8, c ∈ octetText octet → IsAddressChar c := fun _ hChar =>
    isAddressChar_toDigits (by decide) (by decide) c hChar
  simp only [Ipv4Addr.text, List.append_assoc, List.cons_append, List.mem_append,
    List.mem_cons] at hMem
  rcases hMem with hChar | rfl | hChar | rfl | hChar | rfl | hChar
  · exact hOctet _ hChar
  · exact .inl rfl
  · exact hOctet _ hChar
  · exact .inl rfl
  · exact hOctet _ hChar
  · exact .inl rfl
  · exact hOctet _ hChar

theorem isAddressChar_groups (segments : List UInt16) :
    ∀ c ∈ groupsText segments, IsAddressChar c := by
  intro c hMem
  have hHextet : ∀ segment : UInt16, c ∈ hextetText segment → IsAddressChar c := fun _ hChar =>
    isAddressChar_toDigits (by decide) (by decide) c hChar
  cases segments with
  | nil => exact absurd hMem List.not_mem_nil
  | cons segment segments =>
      rw [groupsText_cons] at hMem
      rcases List.mem_append.mp hMem with hChar | hChar
      · exact hHextet segment hChar
      · obtain ⟨next, -, hNext⟩ := List.mem_flatMap.mp hChar
        rcases List.mem_cons.mp hNext with rfl | hLetter
        · exact .inr (.inl rfl)
        · exact hHextet next hLetter

theorem IpAddr.isAddressChar (address : IpAddr) : ∀ c ∈ address.text, IsAddressChar c := by
  intro c hMem
  cases address with
  | v4 address => exact isAddressChar_ipv4 address c hMem
  | v6 address =>
      unfold IpAddr.text Ipv6Addr.text at hMem
      simp only at hMem
      split at hMem
      · rename_i mapped _
        rcases List.mem_append.mp hMem with hLead | hText
        · simp only [List.mem_cons, List.not_mem_nil, or_false] at hLead
          rcases hLead with rfl | rfl | rfl | rfl | rfl | rfl | rfl
          all_goals first | exact .inr (.inl rfl) | exact .inr (.inr ⟨15, by decide⟩)
        · exact isAddressChar_ipv4 mapped c hText
      · split at hMem
        · rcases List.mem_append.mp hMem with hHead | hTail
          · exact isAddressChar_groups _ c hHead
          · simp only [List.mem_cons] at hTail
            rcases hTail with rfl | rfl | hTail
            · exact .inr (.inl rfl)
            · exact .inr (.inl rfl)
            · exact isAddressChar_groups _ c hTail
        · exact isAddressChar_groups _ c hMem

theorem IpAddr.text_ne_nil (address : IpAddr) : address.text ≠ [] := by
  intro hNil
  have hParse := IpAddr.parse_text address
  rw [hNil] at hParse
  have hNone : IpAddr.parse [] = none := by decide
  rw [hNone] at hParse
  exact absurd hParse (by simp)

end Characters

end Internet
