import Mathlib.Tactic.IntervalCases
import VoipSwitch.Lib.Segments

/-! The G.711 encoders and decoders of the switch: those of the speech playback, that of the
built-in prompts, and the decoders of the recorder. -/
namespace VoipSwitch.G711

open Segments

inductive PlaybackCodec where
  | pcma
  | pcmu
deriving DecidableEq

section Encoders

/-- `sign | (exponent << 4) | mantissa`. -/
def pack (sign exponent mantissa : Nat) : UInt8 :=
  UInt8.ofNat (sign ||| (exponent <<< 4) ||| mantissa)

/-- The first shift, from seven down, under which the mask meets the value. -/
def ulawExponent (value : Nat) : Nat :=
  ((List.range 8).reverse.find? fun shift => value &&& (0x7f80 >>> shift) ≠ 0).getD 0

def ulawEncode (sample : Int16) : UInt8 :=
  let sign := if sample.toInt < 0 then 0x80 else 0
  let value := min (sample.toInt.natAbs + 0x84) 0x7fff
  let exponent := ulawExponent value
  let mantissa := (value >>> (exponent + 3)) &&& 0x0f
  ~~~pack sign exponent mantissa

def alawEncode (sample : Int16) : UInt8 :=
  let sign := if sample.toInt < 0 then 0x80 else 0
  let value := min sample.toInt.natAbs 0x7fff
  let exponent := if value < 256 then 0 else min (value.log2 - 7) 7
  let mantissa := if exponent = 0 then (value >>> 4) &&& 0x0f
    else (value >>> (exponent + 3)) &&& 0x0f
  pack sign exponent mantissa ^^^ 0x55

/-- The encoder of the built-in prompts. -/
def pcm16ToAlaw (sample : Int16) : UInt8 :=
  let value := min sample.toInt.natAbs 32635
  let sign := if 0 ≤ sample.toInt then 0x80 else 0
  let exponent := if value < 256 then 0 else min (value.log2 - 7) 7
  let mantissa := if exponent = 0 then (value >>> 4) &&& 0x0f
    else (value >>> (exponent + 3)) &&& 0x0f
  pack sign exponent mantissa ^^^ 0x55

def PlaybackCodec.encode : PlaybackCodec → Int16 → UInt8
  | .pcma => alawEncode
  | .pcmu => ulawEncode

end Encoders

section Decoders

def decodeMulaw (value : UInt8) : Int16 :=
  let value := ~~~value
  let sign := value &&& 0x80
  let exponent := ((value >>> 4) &&& 0x07).toNat
  let mantissa := (value &&& 0x0f).toNat
  let sample : ℤ := ((((mantissa <<< 3) + 0x84) <<< exponent : Nat) : ℤ) - 0x84
  if sign ≠ 0 then Int16.ofInt (-sample) else Int16.ofInt sample

def decodeAlaw (value : UInt8) : Int16 :=
  let value := value ^^^ 0x55
  let sign := value &&& 0x80
  let exponent := ((value >>> 4) &&& 0x07).toNat
  let mantissa := (value &&& 0x0f).toNat
  let sample : Nat := (mantissa <<< 4) + 8
  let sample : Nat := if exponent ≠ 0 then (sample + 0x100) <<< (exponent - 1) else sample
  if sign ≠ 0 then Int16.ofInt sample else Int16.ofInt (-sample)

def PlaybackCodec.decode : PlaybackCodec → UInt8 → Int16
  | .pcma => decodeAlaw
  | .pcmu => decodeMulaw

end Decoders

section Fidelity

/-- The sample between the two levels that are not encoded any further. -/
def clipped (sample : Int16) : ℤ := max (-32635) (min 32635 sample.toInt)

/-- The step of the segment that the sample lies in. -/
def segmentStep : PlaybackCodec → Int16 → Nat
  | .pcmu, sample => 8 * 2 ^ (((clipped sample).natAbs + 132).log2 - 7)
  | .pcma, sample =>
    if (clipped sample).natAbs < 256 then 16 else 8 * 2 ^ ((clipped sample).natAbs.log2 - 7)

/-- A decoded value that does not lie beyond zero, and at most one step away. -/
def Faithful (codec : PlaybackCodec) (sample decoded : Int16) : Prop :=
  0 ≤ sample.toInt * decoded.toInt ∧
    |decoded.toInt - clipped sample| ≤ segmentStep codec sample

instance (codec : PlaybackCodec) (sample decoded : Int16) :
    Decidable (Faithful codec sample decoded) :=
  inferInstanceAs (Decidable (_ ∧ _))

/-- The biased values for which the first mask that meets them is that of their highest bit. -/
def HighestFirst (value : Nat) : Prop :=
  (16384 ≤ value ∧ value % 256 ≠ 0) ∨ (8192 ≤ value ∧ value < 16384 ∧ value % 512 = 256) ∨
    (4096 ≤ value ∧ value < 8192 ∧ value % 1024 = 512) ∨ value = 3072

/-- The samples that the recorder gives back. -/
def Exact : PlaybackCodec → Int16 → Prop
  | .pcmu, sample => HighestFirst (min (sample.toInt.natAbs + 132) 32767)
  | .pcma, sample => sample = 0

end Fidelity

section Fields

variable {e m v : Nat} {negative : Bool}

theorem unpack (negative : Bool) : ∀ e < 8, ∀ m < 16,
    pack (if negative then 0x80 else 0) e m &&& 0x80 = (if negative then 0x80 else 0) ∧
      ((pack (if negative then 0x80 else 0) e m >>> 4) &&& 0x07).toNat = e ∧
      (pack (if negative then 0x80 else 0) e m &&& 0x0f).toNat = m := by
  decide +revert

theorem restore_le {half : Nat} (hExponent : e < 8) (hMantissa : m < 16) :
    restore 16 half e m ≤ 31 * step half 7 + half * 2 ^ 7 := by
  have hPow : 2 ^ e ≤ 2 ^ 7 := Nat.pow_le_pow_right (by decide) (by omega)
  have hStep : step half e ≤ step half 7 := Nat.mul_le_mul_left _ hPow
  have hHalf : half * 2 ^ e ≤ half * 2 ^ 7 := Nat.mul_le_mul_left _ hPow
  have hLevel : (16 + m) * step half e ≤ 31 * step half 7 := Nat.mul_le_mul (by omega) hStep
  rw [restore]
  omega

theorem bias_le_restore : 132 ≤ restore 16 4 e m := by
  have hPow : 1 ≤ 2 ^ e := Nat.one_le_two_pow
  have hStep : 8 ≤ step 4 e := by
    rw [step]
    omega
  have hLevel : 16 * 8 ≤ (16 + m) * step 4 e := Nat.mul_le_mul (by omega) hStep
  rw [restore]
  omega

/-- The recorder gives back the middle of a step, less the bias. -/
theorem toInt_decodeMulaw (negative : Bool) (hExponent : e < 8) (hMantissa : m < 16) :
    (decodeMulaw (~~~pack (if negative then 0x80 else 0) e m)).toInt =
      if negative then -((restore 16 4 e m : ℤ) - 132) else (restore 16 4 e m : ℤ) - 132 := by
  obtain ⟨hSign, hField, hLevel⟩ := unpack negative e hExponent m hMantissa
  have hSample : ((m <<< 3) + 0x84) <<< e = restore 16 4 e m := by
    rw [Nat.shiftLeft_eq, Nat.shiftLeft_eq, restore, step]
    ring
  have hBound : restore 16 4 e m ≤ 32256 := restore_le hExponent hMantissa
  rw [decodeMulaw]
  simp only [UInt8.not_not, hSign, hField, hLevel, hSample]
  cases negative with
  | false =>
      rw [if_neg (by decide), if_neg (by decide), Int16.toInt_ofInt_of_le (by omega) (by omega)]
  | true =>
      rw [if_pos (by decide), if_pos rfl, Int16.toInt_ofInt_of_le (by omega) (by omega)]

/-- What the recorder makes of the fields of an A-law byte. -/
def alawMagnitude (exponent mantissa : Nat) : Nat :=
  if exponent = 0 then mantissa * 16 + 8 else restore 16 8 (exponent - 1) mantissa

theorem alawMagnitude_le (hExponent : e < 8) (hMantissa : m < 16) :
    alawMagnitude e m ≤ 32256 := by
  rw [alawMagnitude]
  split
  · omega
  · have hPow : 2 ^ (e - 1) ≤ 2 ^ 6 := Nat.pow_le_pow_right (by decide) (by omega)
    have hStep : step 8 (e - 1) ≤ step 8 6 := Nat.mul_le_mul_left _ hPow
    have hLevel : (16 + m) * step 8 (e - 1) ≤ 31 * step 8 6 := Nat.mul_le_mul (by omega) hStep
    have hSixth : step 8 6 = 1024 := rfl
    rw [restore]
    omega

/-- The recorder takes the sign bit of an A-law byte for a plus. -/
theorem toInt_decodeAlaw (negative : Bool) (hExponent : e < 8) (hMantissa : m < 16) :
    (decodeAlaw (pack (if negative then 0x80 else 0) e m ^^^ 0x55)).toInt =
      if negative then (alawMagnitude e m : ℤ) else -(alawMagnitude e m : ℤ) := by
  obtain ⟨hSign, hField, hLevel⟩ := unpack negative e hExponent m hMantissa
  have hTwice : pack (if negative then 0x80 else 0) e m ^^^ 0x55 ^^^ 0x55 =
      pack (if negative then 0x80 else 0) e m := by
    rw [UInt8.xor_assoc, UInt8.xor_self, UInt8.xor_zero]
  have hSample : (if e ≠ 0 then ((m <<< 4) + 8 + 0x100) <<< (e - 1) else (m <<< 4) + 8) =
      alawMagnitude e m := by
    rw [alawMagnitude]
    by_cases hZero : e = 0
    · rw [if_pos hZero, if_neg (not_not.mpr hZero), Nat.shiftLeft_eq]
    · rw [if_neg hZero, if_pos hZero, Nat.shiftLeft_eq, Nat.shiftLeft_eq, restore, step]
      ring
  have hBound := alawMagnitude_le hExponent hMantissa
  rw [decodeAlaw]
  simp only [hTwice, hSign, hField, hLevel, hSample]
  cases negative with
  | false =>
      rw [if_neg (by decide), if_neg (by decide), Int16.toInt_ofInt_of_le (by omega) (by omega)]
  | true =>
      rw [if_pos (by decide), if_pos rfl, Int16.toInt_ofInt_of_le (by omega) (by omega)]

end Fields

section Segment

variable {v shift : Nat}

/-- A number under a mask of eight bits. -/
theorem and_mask_ne_zero (hShift : shift ≤ 7) :
    v &&& (0x7f80 >>> shift) ≠ 0 ↔ v / 2 ^ (7 - shift) % 256 ≠ 0 := by
  have hMask : 0x7f80 >>> shift = 255 <<< (7 - shift) := by
    interval_cases shift <;> rfl
  have hBits : v &&& (255 <<< (7 - shift)) = ((v >>> (7 - shift)) &&& 255) <<< (7 - shift) := by
    apply Nat.eq_of_testBit_eq
    intro i
    rw [Nat.testBit_and, Nat.testBit_shiftLeft, Nat.testBit_shiftLeft, Nat.testBit_and,
      Nat.testBit_shiftRight]
    by_cases hLow : 7 - shift ≤ i
    · rw [Nat.add_sub_cancel' hLow]
      simp [hLow]
    · simp [hLow]
  have hByte : (v >>> (7 - shift)) &&& 255 = v / 2 ^ (7 - shift) % 256 := by
    rw [Nat.shiftRight_eq_div_pow]
    exact Nat.and_two_pow_sub_one_eq_mod _ 8
  rw [hMask, hBits, Ne, Nat.shiftLeft_eq_zero_iff, hByte]

theorem byte_ne_zero {u : Nat} (hUnit : v % u = 0) (hPos : 0 < u) :
    v / u % 256 ≠ 0 ↔ v % (u * 256) ≠ 0 := by
  rw [Nat.mod_mul, hUnit, Nat.zero_add, Ne, Ne, Nat.mul_eq_zero]
  omega

/-- Looks under the mask of a shift, and under the later ones if there is nothing. -/
theorem find_mask (shifts : List Nat) (hShift : shift ≤ 7) (hUnit : v % 2 ^ (7 - shift) = 0) :
    ((shift :: shifts).find? fun shift => v &&& (0x7f80 >>> shift) ≠ 0).getD 0 =
      if v % (2 ^ (7 - shift) * 256) ≠ 0 then shift
      else (shifts.find? fun shift => v &&& (0x7f80 >>> shift) ≠ 0).getD 0 := by
  have hMask : v &&& (0x7f80 >>> shift) ≠ 0 ↔ v % (2 ^ (7 - shift) * 256) ≠ 0 :=
    (and_mask_ne_zero hShift).trans (byte_ne_zero hUnit (Nat.two_pow_pos _))
  rw [List.find?_cons]
  by_cases hFound : v % (2 ^ (7 - shift) * 256) ≠ 0
  · rw [if_pos hFound, decide_eq_true (hMask.mpr hFound)]
    rfl
  · rw [if_neg hFound, decide_eq_false fun h => hFound (hMask.mp h)]

/-- The exponent goes by the lowest one bit above the first seven. -/
def IsExponent (v exponent : Nat) : Prop :=
  exponent ≤ 7 ∧ v % 2 ^ (15 - exponent) ≠ 0 ∧ (exponent < 7 → v % 2 ^ (14 - exponent) = 0)

theorem isExponent_find (hSome : v % 2 ^ 15 ≠ 0) :
    ∀ last ≤ 7, (last < 7 → v % 2 ^ (14 - last) = 0) →
    IsExponent v (((List.range (last + 1)).reverse.find? fun shift =>
      v &&& (0x7f80 >>> shift) ≠ 0).getD 0) := by
  intro last
  induction last with
  | zero =>
      intro _ hZero
      have hUnit : v % 2 ^ 7 = 0 := by
        have hLow := hZero (by decide)
        omega
      rw [List.range_succ, List.reverse_append, List.reverse_singleton, List.singleton_append,
        find_mask _ (by decide) hUnit,
        if_pos (show v % (2 ^ (7 - 0) * 256) ≠ 0 from hSome)]
      exact ⟨by decide, hSome, hZero⟩
  | succ last ih =>
      intro hLast hZero
      have hSplit : 2 ^ (14 - last) = 2 ^ (7 - (last + 1)) * 256 := by
        have hPlaces : 14 - last = 7 - (last + 1) + 8 := by omega
        rw [hPlaces, pow_add]
        rfl
      have hUnit : v % 2 ^ (7 - (last + 1)) = 0 := by
        by_cases hTop : last + 1 < 7
        · have hDvd : 2 ^ (7 - (last + 1)) ∣ 2 ^ (14 - (last + 1)) :=
            Nat.pow_dvd_pow 2 (by omega)
          exact Nat.mod_eq_zero_of_dvd (hDvd.trans (Nat.dvd_of_mod_eq_zero (hZero hTop)))
        · rw [Nat.sub_eq_zero_of_le (by omega), pow_zero, Nat.mod_one]
      rw [List.range_succ, List.reverse_append, List.reverse_singleton, List.singleton_append,
        find_mask _ hLast hUnit, ← hSplit]
      split
      · rename_i hFound
        have hPlaces : 15 - (last + 1) = 14 - last := by omega
        exact ⟨hLast, hPlaces ▸ hFound, hZero⟩
      · rename_i hNot
        exact ih (by omega) fun _ => not_not.mp hNot

theorem isExponent_ulawExponent (hPos : 0 < v) (hSmall : v < 32768) :
    IsExponent v (ulawExponent v) := by
  apply isExponent_find _ 7 (Nat.le_refl 7) fun h => absurd h (Nat.lt_irrefl 7)
  have hWhole : v % 2 ^ 15 = v := Nat.mod_eq_of_lt hSmall
  rw [hWhole]
  exact Nat.ne_of_gt hPos

variable {exponent segment : Nat}

/-- The exponent is that of the highest bit exactly for the values named. -/
theorem isExponent_iff (hExponent : IsExponent v exponent) (hSegment : segment ≤ 7)
    (hLow : 2 ^ (segment + 7) ≤ v) (hHigh : v < 2 ^ (segment + 8)) :
    exponent = segment ↔ HighestFirst v := by
  obtain ⟨hSeven, hFound, hPassed⟩ := hExponent
  constructor
  · rintro rfl
    rw [HighestFirst]
    interval_cases exponent <;> omega
  · rintro (⟨hTop, hByte⟩ | ⟨hFrom, hTo, hBits⟩ | ⟨hFrom, hTo, hBits⟩ | rfl)
    · have hHighest : segment = 7 := by interval_cases segment <;> omega
      interval_cases exponent <;> omega
    · have hHighest : segment = 6 := by interval_cases segment <;> omega
      interval_cases exponent <;> omega
    · have hHighest : segment = 5 := by interval_cases segment <;> omega
      interval_cases exponent <;> omega
    · have hHighest : segment = 4 := by interval_cases segment <;> omega
      interval_cases exponent <;> omega

end Segment

section Samples

variable {v : Nat}

/-- The segment of a number by its highest bit. -/
theorem log2_bounds {first : Nat} (hLow : 2 ^ first ≤ v) :
    2 ^ (v.log2 - first + first) ≤ v ∧ v < 2 ^ (v.log2 - first + (first + 1)) := by
  have hPos : v ≠ 0 := Nat.ne_of_gt (Nat.lt_of_lt_of_le (Nat.two_pow_pos first) hLow)
  have hFirst : first ≤ v.log2 := (Nat.le_log2 hPos).mpr hLow
  rw [← Nat.add_assoc, Nat.sub_add_cancel hFirst]
  exact ⟨Nat.log2_self_le hPos, Nat.lt_log2_self⟩

theorem inSegment_ulaw {segment : Nat} (hLow : 2 ^ (segment + 7) ≤ v)
    (hHigh : v < 2 ^ (segment + 8)) : InSegment 16 4 segment v := by
  rw [pow_add] at hLow hHigh
  constructor
  · rw [step]
    linarith
  · rw [step]
    linarith

theorem inSegment_alaw {segment : Nat} (hLow : 2 ^ (segment + 8) ≤ v)
    (hHigh : v < 2 ^ (segment + 9)) : InSegment 16 8 segment v := by
  rw [pow_add] at hLow hHigh
  constructor
  · rw [step]
    linarith
  · rw [step]
    linarith

/-- A sample and its clipped magnitude. -/
theorem clipped_eq (sample : Int16) :
    clipped sample = if sample.toInt < 0 then -((min sample.toInt.natAbs 32635 : Nat) : ℤ)
      else (min sample.toInt.natAbs 32635 : Nat) := by
  rw [clipped]
  split <;> omega

theorem ulawEncode_eq (sample : Int16) : ulawEncode sample =
    ~~~pack (if decide (sample.toInt < 0) then 0x80 else 0)
      (ulawExponent (min sample.toInt.natAbs 32635 + 132))
      (level 16 4 (ulawExponent (min sample.toInt.natAbs 32635 + 132))
        (min sample.toInt.natAbs 32635 + 132)) := by
  have hValue : min (sample.toInt.natAbs + 0x84) 0x7fff = min sample.toInt.natAbs 32635 + 132 := by
    omega
  have hLevel : ∀ v e, (v >>> (e + 3)) &&& 0x0f = level 16 4 e v := by
    intro v e
    have hStep : 2 ^ (e + 3) = step 4 e := by
      rw [step, pow_add, Nat.mul_comm]
      rfl
    rw [Nat.shiftRight_eq_div_pow, hStep]
    exact Nat.and_two_pow_sub_one_eq_mod _ 4
  rw [ulawEncode]
  simp only [hValue, hLevel, decide_eq_true_eq]

theorem natAbs_clipped (sample : Int16) :
    (clipped sample).natAbs = min sample.toInt.natAbs 32635 := by
  rw [clipped]
  omega

/-- A value with the sign of the sample is as near to it as their magnitudes are to each other. -/
theorem faithful_iff {codec : PlaybackCodec} {sample decoded : Int16} {magnitude : Nat}
    (hDecoded : decoded.toInt = if sample.toInt < 0 then -(magnitude : ℤ) else magnitude) :
    Faithful codec sample decoded ↔
      |(magnitude : ℤ) - (min sample.toInt.natAbs 32635 : Nat)| ≤ segmentStep codec sample := by
  have hClipped := clipped_eq sample
  rw [Faithful, hDecoded, hClipped]
  by_cases hNegative : sample.toInt < 0
  · rw [if_pos hNegative, if_pos hNegative]
    have hSign : 0 ≤ sample.toInt * -(magnitude : ℤ) :=
      mul_nonneg_of_nonpos_of_nonpos (by omega) (by omega)
    rw [and_iff_right hSign, ← abs_neg]
    have hDistance : ∀ a b : ℤ, -(-a - -b) = a - b := fun a b => by ring
    rw [hDistance]
  · rw [if_neg hNegative, if_neg hNegative]
    have hSign : 0 ≤ sample.toInt * (magnitude : ℤ) := mul_nonneg (by omega) (by omega)
    rw [and_iff_right hSign]

theorem ulaw_faithful_iff (sample : Int16) :
    Faithful .pcmu sample (decodeMulaw (ulawEncode sample)) ↔ Exact .pcmu sample := by
  have hStep : segmentStep .pcmu sample = 8 * 2 ^
    ((min sample.toInt.natAbs 32635 + 132).log2 - 7) := by
    rw [segmentStep, natAbs_clipped]
  have hExact : Exact .pcmu sample ↔ HighestFirst (min sample.toInt.natAbs 32635 + 132) := by
    have hValue : min (sample.toInt.natAbs + 132) 32767 = min sample.toInt.natAbs 32635 + 132 := by
      omega
    rw [Exact, hValue]
  have hLow : 132 ≤ min sample.toInt.natAbs 32635 + 132 := Nat.le_add_left _ _
  have hHigh : min sample.toInt.natAbs 32635 + 132 < 32768 := by omega
  have hEncode := ulawEncode_eq sample
  have hMagnitude : ((min sample.toInt.natAbs 32635 : Nat) : ℤ) =
      ((min sample.toInt.natAbs 32635 + 132 : Nat) : ℤ) - 132 := by omega
  rw [hExact]
  generalize min sample.toInt.natAbs 32635 + 132 = v at hStep hLow hHigh hEncode hMagnitude ⊢
  have hExponent := isExponent_ulawExponent (by omega) hHigh
  have hLevel : level 16 4 (ulawExponent v) v < 16 := Nat.mod_lt _ (by decide)
  have hSegment : 2 ^ (v.log2 - 7 + 7) ≤ v ∧ v < 2 ^ (v.log2 - 7 + 8) :=
    log2_bounds (by omega)
  have hSeven : v.log2 - 7 ≤ 7 := by
    have hLog : v.log2 < 15 := (Nat.log2_lt (by omega)).mpr hHigh
    omega
  obtain ⟨magnitude, hSum⟩ := Nat.exists_eq_add_of_le'
    (bias_le_restore : 132 ≤ restore 16 4 (ulawExponent v) (level 16 4 (ulawExponent v) v))
  have hDecoded : (decodeMulaw (ulawEncode sample)).toInt =
      if sample.toInt < 0 then -(magnitude : ℤ) else magnitude := by
    have hLess : ((magnitude + 132 : Nat) : ℤ) - 132 = magnitude := by omega
    rw [hEncode, toInt_decodeMulaw _ (Nat.lt_succ_of_le hExponent.1) hLevel, hSum, hLess]
    simp only [decide_eq_true_eq]
  have hDistance : (magnitude : ℤ) - ((v : ℤ) - 132) = ((magnitude + 132 : Nat) : ℤ) - v := by
    omega
  rw [faithful_iff hDecoded, hStep, hMagnitude, hDistance, ← hSum,
    ← isExponent_iff hExponent hSeven hSegment.1 hSegment.2]
  exact near_iff (by decide) (by decide) (inSegment_ulaw hSegment.1 hSegment.2)

/-- The fields of the byte of a clipped magnitude. -/
def alawExponent (value : Nat) : Nat := if value < 256 then 0 else min (value.log2 - 7) 7

def alawMantissa (value : Nat) : Nat :=
  if alawExponent value = 0 then (value >>> 4) &&& 0x0f
  else (value >>> (alawExponent value + 3)) &&& 0x0f

theorem alawExponent_lt (v : Nat) : alawExponent v < 8 := by
  rw [alawExponent]
  split <;> omega

theorem alawMantissa_lt (v : Nat) : alawMantissa v < 16 := by
  rw [alawMantissa]
  split
  · exact Nat.lt_succ_of_le Nat.and_le_right
  · exact Nat.lt_succ_of_le Nat.and_le_right

theorem alawEncode_eq (sample : Int16) : alawEncode sample =
    pack (if decide (sample.toInt < 0) then 0x80 else 0)
      (alawExponent (min sample.toInt.natAbs 0x7fff))
      (alawMantissa (min sample.toInt.natAbs 0x7fff)) ^^^ 0x55 := by
  rw [alawEncode]
  simp only [decide_eq_true_eq]
  rfl

theorem pcm16ToAlaw_eq (sample : Int16) : pcm16ToAlaw sample =
    pack (if decide (0 ≤ sample.toInt) then 0x80 else 0)
      (alawExponent (min sample.toInt.natAbs 32635))
      (alawMantissa (min sample.toInt.natAbs 32635)) ^^^ 0x55 := by
  rw [pcm16ToAlaw]
  simp only [decide_eq_true_eq]
  rfl

theorem alawMagnitude_pos {e m : Nat} : 0 < alawMagnitude e m := by
  rw [alawMagnitude]
  split
  · exact Nat.succ_pos _
  · have hMiddle : 0 < 8 * 2 ^ (e - 1) := Nat.mul_pos (by decide) (Nat.two_pow_pos _)
    rw [restore]
    omega

/-- A speech sample comes back with the other sign. -/
theorem toInt_decodeAlaw_alawEncode (sample : Int16) :
    ∃ magnitude : Nat, 0 < magnitude ∧ (decodeAlaw (alawEncode sample)).toInt =
      if sample.toInt < 0 then (magnitude : ℤ) else -(magnitude : ℤ) := by
  refine ⟨alawMagnitude (alawExponent (min sample.toInt.natAbs 0x7fff))
    (alawMantissa (min sample.toInt.natAbs 0x7fff)), alawMagnitude_pos, ?_⟩
  rw [alawEncode_eq, toInt_decodeAlaw _ (alawExponent_lt _) (alawMantissa_lt _)]
  simp only [decide_eq_true_eq]

/-- A sample of a prompt comes back with its own sign. -/
theorem toInt_decodeAlaw_pcm16ToAlaw (sample : Int16) :
    (decodeAlaw (pcm16ToAlaw sample)).toInt =
      if sample.toInt < 0 then
        -(alawMagnitude (alawExponent (min sample.toInt.natAbs 32635))
          (alawMantissa (min sample.toInt.natAbs 32635)) : ℤ)
      else
        alawMagnitude (alawExponent (min sample.toInt.natAbs 32635))
          (alawMantissa (min sample.toInt.natAbs 32635)) := by
  rw [pcm16ToAlaw_eq, toInt_decodeAlaw _ (alawExponent_lt _) (alawMantissa_lt _)]
  by_cases hNegative : sample.toInt < 0
  · rw [if_pos hNegative, decide_eq_false (by omega), if_neg Bool.false_ne_true]
  · rw [if_neg hNegative, decide_eq_true (by omega), if_pos rfl]

theorem alaw_faithful_iff (sample : Int16) :
    Faithful .pcma sample (decodeAlaw (alawEncode sample)) ↔ Exact .pcma sample := by
  constructor
  · intro hFaithful
    obtain ⟨magnitude, hPos, hDecoded⟩ := toInt_decodeAlaw_alawEncode sample
    have hSign := hFaithful.1
    have hZero : sample.toInt = 0 := by
      rw [hDecoded] at hSign
      by_cases hNegative : sample.toInt < 0
      · rw [if_pos hNegative] at hSign
        have hLess : sample.toInt * (magnitude : ℤ) < 0 :=
          mul_neg_of_neg_of_pos hNegative (by omega)
        omega
      · rw [if_neg hNegative] at hSign
        by_contra hNot
        have hLess : sample.toInt * -(magnitude : ℤ) < 0 :=
          mul_neg_of_pos_of_neg (by omega) (by omega)
        omega
    exact Int16.toInt_inj.mp hZero
  · rintro rfl
    decide

/-- The two A-law encoders of the switch set the sign bit the other way round. -/
theorem alawEncode_ne_pcm16ToAlaw (sample : Int16) : alawEncode sample ≠ pcm16ToAlaw sample := by
  intro hSame
  obtain ⟨magnitude, hPos, hDecoded⟩ := toInt_decodeAlaw_alawEncode sample
  have hPrompt := toInt_decodeAlaw_pcm16ToAlaw sample
  rw [← hSame, hDecoded] at hPrompt
  split at hPrompt
  · omega
  · omega

/-- The magnitude of a prompt's byte is at most one step away from that of the sample. -/
theorem alawMagnitude_near (hHigh : v < 32768) :
    |(alawMagnitude (alawExponent v) (alawMantissa v) : ℤ) - v| ≤
      (if v < 256 then 16 else 8 * 2 ^ (v.log2 - 7) : Nat) := by
  by_cases hFirst : v < 256
  · have hExponent : alawExponent v = 0 := by rw [alawExponent, if_pos hFirst]
    have hLevel : (v >>> 4) &&& 0x0f = v / 16 := by
      have hMod : (v >>> 4) &&& 0x0f = v / 2 ^ 4 % 16 := by
        rw [Nat.shiftRight_eq_div_pow]
        exact Nat.and_two_pow_sub_one_eq_mod _ 4
      rw [hMod]
      omega
    rw [if_pos hFirst, alawMantissa, hExponent, if_pos rfl, hLevel, alawMagnitude, if_pos rfl,
      abs_le]
    omega
  · have hLow : 2 ^ 8 ≤ v := Nat.not_lt.mp hFirst
    obtain ⟨hFrom, hTo⟩ := log2_bounds hLow
    have hLog : v.log2 < 15 := (Nat.log2_lt (by omega)).mpr hHigh
    have hEight : 8 ≤ v.log2 := (Nat.le_log2 (by omega)).mpr hLow
    have hExponent : alawExponent v = v.log2 - 8 + 1 := by
      rw [alawExponent, if_neg hFirst]
      omega
    have hLevel : (v >>> (v.log2 - 8 + 1 + 3)) &&& 0x0f = level 16 8 (v.log2 - 8) v := by
      have hStep : 2 ^ (v.log2 - 8 + 1 + 3) = step 8 (v.log2 - 8) := by
        rw [step, Nat.add_assoc, pow_add, Nat.mul_comm]
        rfl
      rw [Nat.shiftRight_eq_div_pow, hStep]
      exact Nat.and_two_pow_sub_one_eq_mod _ 4
    have hWidth : 8 * 2 ^ (v.log2 - 7) = step 8 (v.log2 - 8) := by
      have hNext : v.log2 - 7 = v.log2 - 8 + 1 := by omega
      rw [hNext, step, pow_succ]
      ring
    rw [if_neg hFirst, hWidth, alawMantissa, hExponent, if_neg (Nat.succ_ne_zero _), hLevel,
      alawMagnitude, if_neg (Nat.succ_ne_zero _), Nat.add_sub_cancel]
    exact near_self (by decide) (inSegment_alaw hFrom hTo)

/-- What the built-in prompts encode, the recorder gives back up to one step. -/
theorem pcm16ToAlaw_faithful (sample : Int16) :
    Faithful .pcma sample (decodeAlaw (pcm16ToAlaw sample)) := by
  have hHigh : min sample.toInt.natAbs 32635 < 32768 := by omega
  rw [faithful_iff (toInt_decodeAlaw_pcm16ToAlaw sample), segmentStep, natAbs_clipped]
  exact alawMagnitude_near hHigh

/-- The recorder gives a speech sample back, up to one step, exactly in the cases named. -/
theorem faithful_iff_exact (codec : PlaybackCodec) (sample : Int16) :
    Faithful codec sample (codec.decode (codec.encode sample)) ↔ Exact codec sample := by
  cases codec with
  | pcma => exact alaw_faithful_iff sample
  | pcmu => exact ulaw_faithful_iff sample

end Samples

end VoipSwitch.G711
