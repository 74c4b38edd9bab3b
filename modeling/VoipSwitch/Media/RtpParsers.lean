import VoipSwitch.Media.Parser

/-! The three parsers of RTP packets: the one of the digit detector, the one of the recorder and
the one of the AI tap. They differ on packets whose padding is announced and then has length
zero, and the tap wants a payload. -/
namespace VoipSwitch.Media

open Framed (Bytes)

/-- A packet as the recorder and the AI tap read it. -/
structure RtpPayload where
  payloadType : UInt8
  timestamp : Nat
  payload : Bytes
deriving DecidableEq

/-- How much of the packet's end is padding; none is as good as a padding of length zero. -/
def paddingLength (packet : Bytes) (first : UInt8) (header : Nat) : Except RtpFault Nat := do
  let padding ←
    if first &&& 0x20 = 0 then pure 0
    else
      match packet.getLast? with
      | none => .error .malformed
      | some padding => pure padding.toNat
  if packet.length - header < padding then .error .malformed else pure padding

namespace Recording

def parseRtp (packet : Bytes) : Except RtpFault RtpPayload :=
  if packet.length < 12 then .error .malformed
  else do
    let first ← byteAt packet 0
    if first >>> 6 ≠ 2 then .error .malformed
    else do
      let offset ← headerLength packet first
      let padding ← paddingLength packet first offset
      let second ← byteAt packet 1
      let timestamp ← be32At packet 4
      let payload ← slice packet offset (packet.length - padding)
      pure ⟨second &&& 0x7f, timestamp, payload⟩

end Recording

namespace MediaTap

def parseRtpAudioPayload (packet : Bytes) : Except RtpFault RtpPayload :=
  if packet.length < 12 then .error .malformed
  else do
    let first ← byteAt packet 0
    if first >>> 6 ≠ 2 then .error .malformed
    else do
      let offset ← headerLength packet first
      let padding ← paddingLength packet first offset
      if offset = packet.length - padding then .error .malformed
      else do
        let second ← byteAt packet 1
        let timestamp ← be32At packet 4
        let payload ← slice packet offset (packet.length - padding)
        pure ⟨second &&& 0x7f, timestamp, payload⟩

end MediaTap

/-- What the detector's parser says without the source. -/
def ParsedRtp.toPayload (rtp : ParsedRtp) : RtpPayload :=
  ⟨rtp.payloadType, rtp.timestamp, rtp.payload⟩

/-- The detector and the recorder read the packet alike, and so does the tap unless the payload
is empty. -/
def ParsersAgree (packet : Bytes) : Prop :=
  (parseRtp packet).toOption.map ParsedRtp.toPayload = (Recording.parseRtp packet).toOption ∧
    (MediaTap.parseRtpAudioPayload packet).toOption =
      ((parseRtp packet).toOption.map ParsedRtp.toPayload).filter fun rtp => rtp.payload ≠ []

/-- The fixed header with its contributing sources and its extension is there. -/
structure Headed (packet : Bytes) (first : UInt8) (header : Nat) : Prop where
  long : 12 ≤ packet.length
  firstByte : byteAt packet 0 = .ok first
  version : first >>> 6 = 2
  header : headerLength packet first = .ok header

/-- A packet that announces padding, with a padding of length zero. -/
def HasZeroPadding (packet : Bytes) : Prop :=
  ∃ first header, Headed packet first header ∧ first &&& 0x20 ≠ 0 ∧ packet.getLast? = some 0

variable {packet : Bytes} {first : UInt8} {header i : Nat}

theorem byteAt_of_lt (h : i < packet.length) : ∃ byte, byteAt packet i = .ok byte := by
  refine ⟨packet[i], ?_⟩
  rw [byteAt, List.getElem?_eq_getElem h]

theorem be16At_of_lt (h : i + 1 < packet.length) : ∃ n, be16At packet i = .ok n := by
  obtain ⟨high, hHigh⟩ := byteAt_of_lt (Nat.lt_of_succ_lt h)
  obtain ⟨low, hLow⟩ := byteAt_of_lt h
  exact ⟨_, bind_of_ok hHigh (bind_of_ok hLow rfl)⟩

theorem be32At_of_lt (h : i + 3 < packet.length) : ∃ n, be32At packet i = .ok n := by
  obtain ⟨high, hHigh⟩ := @be16At_of_lt packet i (by omega)
  obtain ⟨low, hLow⟩ := @be16At_of_lt packet (i + 2) h
  exact ⟨_, bind_of_ok hHigh (bind_of_ok hLow rfl)⟩

/-- The length of the header is found within the packet, or the packet is refused. -/
theorem headerLength_cases (packet : Bytes) (first : UInt8) :
    headerLength packet first = .error .malformed ∨
      ∃ header, headerLength packet first = .ok header ∧ header ≤ packet.length := by
  rw [headerLength]
  split
  · exact .inl rfl
  · next hFixed =>
      split
      · exact .inr ⟨_, rfl, Nat.le_of_not_lt hFixed⟩
      · split
        · exact .inl rfl
        · next hExtension =>
            obtain ⟨words, hWords⟩ := @be16At_of_lt packet
              (12 + (first &&& 0x0f).toNat * 4 + 2) (by omega)
            rw [hWords]
            by_cases hFits : packet.length < 12 + (first &&& 0x0f).toNat * 4 + 4 + words * 4
            · left
              exact if_pos hFits
            · right
              exact ⟨_, if_neg hFits, Nat.le_of_not_lt hFits⟩

theorem slice_of_le {start stop : Nat} (h : start ≤ stop) (hStop : stop ≤ packet.length) :
    slice packet start stop = .ok ((packet.take stop).drop start) := by
  rw [slice, if_pos ⟨h, hStop⟩]

theorem slice_eq_nil_iff {start stop : Nat} (hStop : stop ≤ packet.length) (h : start ≤ stop) :
    (packet.take stop).drop start = [] ↔ start = stop := by
  rw [List.drop_eq_nil_iff, List.length_take, Nat.min_eq_left hStop]
  omega

/-- Where the padding starts for the detector, and how long it is for the other two. -/
inductive Padded (packet : Bytes) (first : UInt8) (header : Nat) : Prop where
  | fits (padding : Nat) (hLe : header ≤ packet.length - padding)
      (hStop : payloadEnd packet first header = .ok (packet.length - padding))
      (hLength : paddingLength packet first header = .ok padding)
      (hNotZero : ¬ (first &&& 0x20 ≠ 0 ∧ packet.getLast? = some 0))
  | tooLong (hStop : payloadEnd packet first header = .error .malformed)
      (hLength : paddingLength packet first header = .error .malformed)
      (hNotZero : ¬ (first &&& 0x20 ≠ 0 ∧ packet.getLast? = some 0))
  | zero (hStop : payloadEnd packet first header = .error .malformed)
      (hLength : paddingLength packet first header = .ok 0)
      (hZero : first &&& 0x20 ≠ 0 ∧ packet.getLast? = some 0)

theorem Headed.padded (h : Headed packet first header) (hLe : header ≤ packet.length) :
    Padded packet first header := by
  by_cases hFlag : first &&& 0x20 = 0
  · apply Padded.fits 0 hLe
    · rw [payloadEnd, if_pos hFlag, Nat.sub_zero]
    · simp only [paddingLength, if_pos hFlag, pure, Except.pure, bind, Except.bind,
        if_neg (Nat.not_lt_zero (packet.length - header))]
    · intro hZero
      exact hZero.1 hFlag
  · cases hLast : packet.getLast? with
    | none =>
        have hLong := h.long
        rw [List.getLast?_eq_none_iff] at hLast
        rw [hLast] at hLong
        simp at hLong
    | some last =>
        have hLength : paddingLength packet first header =
            if packet.length - header < last.toNat then .error .malformed
            else .ok last.toNat := by
          rw [paddingLength, if_neg hFlag, hLast]
          rfl
        have hStop : payloadEnd packet first header =
            if (last = 0 || packet.length - header < last.toNat) = true then .error .malformed
            else .ok (packet.length - last.toNat) := by
          rw [payloadEnd, if_neg hFlag, hLast]
        by_cases hZero : last = 0
        · subst hZero
          exact .zero hStop hLength ⟨hFlag, hLast⟩
        · have hNotZero : ¬ (first &&& 0x20 ≠ 0 ∧ packet.getLast? = some 0) := by
            rintro ⟨-, hSame⟩
            rw [hLast, Option.some.injEq] at hSame
            exact hZero hSame
          rw [← hLast] at *
          by_cases hLong : packet.length - header < last.toNat
          · rw [if_pos hLong] at hLength
            rw [if_pos (by simp [hLong])] at hStop
            exact .tooLong hStop hLength hNotZero
          · rw [if_neg hLong] at hLength
            rw [if_neg (by simp [hZero, hLong])] at hStop
            exact .fits last.toNat (by omega) hStop hLength hNotZero

/-- What is common to the three parsers has succeeded: the rest is the padding. -/
theorem Headed.parsers (h : Headed packet first header) :
    ∃ second timestamp ssrc,
      parseRtp packet = (do
        let stop ← payloadEnd packet first header
        let payload ← slice packet header stop
        pure ⟨second &&& 0x7f, timestamp, ssrc, payload⟩) ∧
      Recording.parseRtp packet = (do
        let padding ← paddingLength packet first header
        let payload ← slice packet header (packet.length - padding)
        pure ⟨second &&& 0x7f, timestamp, payload⟩) ∧
      MediaTap.parseRtpAudioPayload packet = (do
        let padding ← paddingLength packet first header
        if header = packet.length - padding then .error .malformed
        else do
          let payload ← slice packet header (packet.length - padding)
          pure ⟨second &&& 0x7f, timestamp, payload⟩) := by
  have hLong := h.long
  have hShort : ¬ packet.length < 12 := Nat.not_lt.mpr hLong
  have hVersion : ¬ first >>> 6 ≠ 2 := Decidable.not_not.mpr h.version
  obtain ⟨second, hSecond⟩ := @byteAt_of_lt packet 1 (by omega)
  obtain ⟨timestamp, hTimestamp⟩ := @be32At_of_lt packet 4 (by omega)
  obtain ⟨ssrc, hSsrc⟩ := @be32At_of_lt packet 8 (by omega)
  refine ⟨second, timestamp, ssrc, ?_, ?_, ?_⟩
  · rw [parseRtp, if_neg hShort, h.firstByte]
    simp only [bind, Except.bind, if_neg hVersion, h.header, hSecond, hTimestamp, hSsrc]
  · rw [Recording.parseRtp, if_neg hShort, h.firstByte]
    simp only [bind, Except.bind, if_neg hVersion, h.header, hSecond, hTimestamp]
  · rw [MediaTap.parseRtpAudioPayload, if_neg hShort, h.firstByte]
    simp only [bind, Except.bind, if_neg hVersion, h.header, hSecond, hTimestamp]

/-- Without a header that fits all three refuse the packet. -/
theorem headed_or_malformed (packet : Bytes) :
    (∃ first header, Headed packet first header ∧ header ≤ packet.length) ∨
      ((¬ ∃ first header, Headed packet first header) ∧
        parseRtp packet = .error .malformed ∧ Recording.parseRtp packet = .error .malformed ∧
        MediaTap.parseRtpAudioPayload packet = .error .malformed) := by
  by_cases hShort : packet.length < 12
  · right
    refine ⟨?_, ?_, ?_, ?_⟩
    · rintro ⟨first, header, hHeaded⟩
      exact absurd hHeaded.long (Nat.not_le.mpr hShort)
    · rw [parseRtp, if_pos hShort]
    · rw [Recording.parseRtp, if_pos hShort]
    · rw [MediaTap.parseRtpAudioPayload, if_pos hShort]
  · obtain ⟨first, hFirst⟩ := @byteAt_of_lt packet 0 (by omega)
    by_cases hVersion : first >>> 6 ≠ 2
    · right
      refine ⟨?_, ?_, ?_, ?_⟩
      · rintro ⟨first', header, hHeaded⟩
        have hSame := hHeaded.firstByte
        rw [hFirst] at hSame
        cases hSame
        exact hVersion hHeaded.version
      · rw [parseRtp, if_neg hShort, hFirst]
        exact if_pos hVersion
      · rw [Recording.parseRtp, if_neg hShort, hFirst]
        exact if_pos hVersion
      · rw [MediaTap.parseRtpAudioPayload, if_neg hShort, hFirst]
        exact if_pos hVersion
    · rcases headerLength_cases packet first with hNone | ⟨header, hHeader, hLe⟩
      · right
        refine ⟨?_, ?_, ?_, ?_⟩
        · rintro ⟨first', header, hHeaded⟩
          have hSame := hHeaded.firstByte
          rw [hFirst] at hSame
          cases hSame
          have hHeader := hHeaded.header
          rw [hNone] at hHeader
          cases hHeader
        · rw [parseRtp, if_neg hShort, hFirst]
          simp only [bind, Except.bind, if_neg hVersion, hNone]
        · rw [Recording.parseRtp, if_neg hShort, hFirst]
          simp only [bind, Except.bind, if_neg hVersion, hNone]
        · rw [MediaTap.parseRtpAudioPayload, if_neg hShort, hFirst]
          simp only [bind, Except.bind, if_neg hVersion, hNone]
      · left
        exact ⟨first, header,
          ⟨Nat.le_of_not_lt hShort, hFirst, Decidable.not_not.mp hVersion, hHeader⟩, hLe⟩

/-- A packet of 13 bytes whose padding has length zero. -/
def zeroPadded : Bytes := [0xa0, 8, 0, 1, 0, 0, 0, 42, 0, 0, 0, 7, 0]

/-- The recorder and the tap accept the packet, the detector does not. -/
theorem zeroPadded_disagree :
    parseRtp zeroPadded = .error .malformed ∧
      Recording.parseRtp zeroPadded = .ok ⟨8, 42, [0]⟩ ∧
      MediaTap.parseRtpAudioPayload zeroPadded = .ok ⟨8, 42, [0]⟩ ∧
      ¬ ParsersAgree zeroPadded := by
  refine ⟨rfl, rfl, rfl, ?_⟩
  intro hAgree
  cases hAgree.1

/-- No parser reads outside the packet; and they agree on it exactly when it has no padding of
length zero. -/
theorem parsers_agree_iff (packet : Bytes) :
    (parseRtp packet ≠ .error .outOfBounds ∧
      Recording.parseRtp packet ≠ .error .outOfBounds ∧
      MediaTap.parseRtpAudioPayload packet ≠ .error .outOfBounds) ∧
    (ParsersAgree packet ↔ ¬ HasZeroPadding packet) := by
  rcases headed_or_malformed packet with ⟨first, header, hHeaded, hLe⟩ |
    ⟨hNone, hDetector, hRecorder, hTap⟩
  · obtain ⟨second, timestamp, ssrc, hDetector, hRecorder, hTap⟩ := hHeaded.parsers
    have hZeroIff : HasZeroPadding packet ↔ first &&& 0x20 ≠ 0 ∧ packet.getLast? = some 0 := by
      constructor
      · rintro ⟨first', header', hHeaded', hZero⟩
        have hSame := hHeaded.firstByte.symm.trans hHeaded'.firstByte
        cases hSame
        exact hZero
      · intro hZero
        exact ⟨first, header, hHeaded, hZero⟩
    rw [hZeroIff, ParsersAgree]
    cases hHeaded.padded hLe with
    | fits padding hFits hStop hLength hNotZero =>
        have hSlice := slice_of_le hFits (Nat.sub_le _ _)
        simp only [hStop, hLength, hSlice, bind, Except.bind, pure, Except.pure]
          at hDetector hRecorder hTap
        have hNil := slice_eq_nil_iff (Nat.sub_le _ padding) hFits
        rw [hDetector, hRecorder, hTap]
        by_cases hEmpty : header = packet.length - padding
        · simp [Except.toOption, ParsedRtp.toPayload, if_pos hEmpty, hNil.mpr hEmpty, hNotZero,
            Option.filter]
        · have hSome := mt hNil.mp hEmpty
          simp [Except.toOption, ParsedRtp.toPayload, if_neg hEmpty, hSome, hNotZero, Option.filter]
    | tooLong hStop hLength hNotZero =>
        simp only [hStop, hLength, bind, Except.bind] at hDetector hRecorder hTap
        rw [hDetector, hRecorder, hTap]
        simp [Except.toOption, hNotZero]
    | zero hStop hLength hZero =>
        have hSlice := @slice_of_le packet header (packet.length - 0) hLe
          (Nat.sub_le _ _)
        simp only [hStop, hLength, hSlice, bind, Except.bind, pure, Except.pure]
          at hDetector hRecorder hTap
        rw [hDetector, hRecorder, hTap]
        split <;> simp [Except.toOption, hZero]
  · rw [hDetector, hRecorder, hTap, ParsersAgree, hDetector, hRecorder, hTap]
    have hNotZero : ¬ HasZeroPadding packet := by
      rintro ⟨first, header, hHeaded, -⟩
      exact hNone ⟨first, header, hHeaded⟩
    simp [Except.toOption, hNotZero]

end VoipSwitch.Media
