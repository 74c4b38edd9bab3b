import Mathlib.Algebra.GroupWithZero.Nat
import Mathlib.Data.List.Basic

/-! Logs of frames that carry their length and a checksum. A scan reads frames from the front
for as long as they are complete; what it leaves unread starts with a frame that is not. -/
namespace Framed

abbrev Bytes := List UInt8

/-- `u32::to_le_bytes`. -/
def le32 (n : Nat) : Bytes :=
  [UInt8.ofNat n, UInt8.ofNat (n / 256), UInt8.ofNat (n / 65536), UInt8.ofNat (n / 16777216)]

/-- `u32::from_le_bytes` of the first four bytes. -/
def readLe32 (bytes : Bytes) : Nat :=
  (bytes.take 4).foldr (fun byte rest => byte.toNat + 256 * rest) 0

@[simp] theorem length_le32 (n : Nat) : (le32 n).length = 4 := rfl

theorem readLe32_le32 {n : Nat} (h : n < 2 ^ 32) (rest : Bytes) :
    readLe32 (le32 n ++ rest) = n := by
  simp only [readLe32, le32, List.cons_append, List.nil_append, List.take_succ_cons, List.take_zero,
    List.foldr_cons, List.foldr_nil, UInt8.toNat_ofNat']
  omega

/-- Length and checksum of a payload stand before it. -/
def headerSize : Nat := 8

/-- A complete frame as it was read. -/
structure Piece where
  raw : Bytes
  payload : Bytes
  /-- The checksum in the frame's header. -/
  expected : Nat
deriving DecidableEq

/-- What stands at the front of some bytes. -/
inductive Reading where
  | incomplete
  /-- The length in the header exceeds the limit. -/
  | oversized
  | frame (piece : Piece)
deriving DecidableEq

def read (limit : Nat) (bytes : Bytes) : Reading :=
  if bytes.length < headerSize then .incomplete
  else if limit < readLe32 bytes then .oversized
  else if bytes.length - headerSize < readLe32 bytes then .incomplete
  else .frame
    { raw := bytes.take (headerSize + readLe32 bytes)
      payload := (bytes.drop headerSize).take (readLe32 bytes)
      expected := readLe32 (bytes.drop 4) }

/-- The frame of a payload. -/
def frame (check : Bytes → UInt32) (payload : Bytes) : Bytes :=
  le32 payload.length ++ le32 (check payload).toNat ++ payload

/-- Why a scan ended. -/
inductive Stop where
  | clean
  | incomplete
  | oversized
deriving DecidableEq

/-- The frames at the front of some bytes, and what is left of these. -/
structure Scan where
  pieces : List Piece
  rest : Bytes
  stop : Stop
deriving DecidableEq

/-- Scan with as many steps as there are bytes; a frame takes more than one. -/
def scanFor (limit : Nat) : Nat → Bytes → Scan
  | 0, bytes => { pieces := [], rest := bytes, stop := .clean }
  | fuel + 1, bytes =>
    if bytes = [] then { pieces := [], rest := [], stop := .clean }
    else
      match read limit bytes with
      | .incomplete => { pieces := [], rest := bytes, stop := .incomplete }
      | .oversized => { pieces := [], rest := bytes, stop := .oversized }
      | .frame piece =>
        let later := scanFor limit fuel (bytes.drop piece.raw.length)
        { later with pieces := piece :: later.pieces }

def scan (limit : Nat) (bytes : Bytes) : Scan := scanFor limit bytes.length bytes

variable {limit : Nat} {check : Bytes → UInt32} {bytes payload : Bytes} {piece : Piece}

theorem length_frame : (frame check payload).length = headerSize + payload.length := by
  simp [frame, headerSize]
  omega

/-- The parts of a frame: its length, its checksum and its payload. -/
structure Piece.Parts (limit : Nat) (piece : Piece) (size sum : Bytes) : Prop where
  raw : piece.raw = size ++ sum ++ piece.payload
  size_length : size.length = 4
  sum_length : sum.length = 4
  size_eq : readLe32 size = piece.payload.length
  sum_eq : readLe32 sum = piece.expected
  fits : piece.payload.length ≤ limit

theorem readLe32_append {bytes : Bytes} (h : bytes.length = 4) (rest : Bytes) :
    readLe32 (bytes ++ rest) = readLe32 bytes := by
  rw [readLe32, readLe32, List.take_left' h, List.take_of_length_le (Nat.le_of_eq h)]

/-- A frame is recognized whatever follows it. -/
theorem read_of_parts {size sum : Bytes} (h : piece.Parts limit size sum) (rest : Bytes) :
    read limit (piece.raw ++ rest) = .frame piece := by
  have hBytes : piece.raw ++ rest = size ++ (sum ++ (piece.payload ++ rest)) := by
    rw [h.raw, List.append_assoc, List.append_assoc]
  have hHeader : (size ++ sum).length = headerSize := by
    rw [List.length_append, h.size_length, h.sum_length, headerSize]
  have hSize : readLe32 (piece.raw ++ rest) = piece.payload.length := by
    rw [hBytes, readLe32_append h.size_length, h.size_eq]
  have hSum : readLe32 ((piece.raw ++ rest).drop 4) = piece.expected := by
    rw [hBytes, List.drop_left' h.size_length, readLe32_append h.sum_length, h.sum_eq]
  have hRaw : piece.raw.length = headerSize + piece.payload.length := by
    rw [h.raw, List.length_append, hHeader]
  have hPayload : ((piece.raw ++ rest).drop headerSize).take piece.payload.length =
      piece.payload := by
    rw [h.raw, List.append_assoc, List.drop_left' hHeader, List.take_left' rfl]
  have hLength : (piece.raw ++ rest).length = headerSize + piece.payload.length + rest.length := by
    rw [List.length_append, hRaw]
  rw [read, hSize, hSum, hPayload, if_neg (by omega), if_neg (Nat.not_lt.mpr h.fits),
    if_neg (by omega), List.take_left' hRaw]

/-- A frame is taken from the front. -/
theorem read_frame (h : read limit bytes = .frame piece) :
    bytes = piece.raw ++ bytes.drop piece.raw.length ∧ ∃ size sum, piece.Parts limit size sum := by
  rw [read] at h
  split at h
  · exact Reading.noConfusion h
  · split at h
    · exact Reading.noConfusion h
    · split at h
      · exact Reading.noConfusion h
      · next hHeader hLimit hPayload =>
          have hPiece := Reading.frame.inj h
          have hFits : headerSize + readLe32 bytes ≤ bytes.length := by omega
          have hEight : bytes.length ≥ 8 := Nat.not_lt.mp hHeader
          constructor
          · rw [← hPiece]
            simp only [List.length_take, Nat.min_eq_left hFits, List.take_append_drop]
          · refine ⟨bytes.take 4, (bytes.drop 4).take 4, ?_⟩
            rw [← hPiece]
            constructor
            · simp only [headerSize]
              rw [show 8 + readLe32 bytes = 4 + (4 + readLe32 bytes) by omega, List.take_add,
                List.take_add, List.drop_drop, List.append_assoc]
            · simp only [List.length_take]
              omega
            · simp only [List.length_take, List.length_drop]
              omega
            · simp only [List.length_take, List.length_drop, readLe32, List.take_take, Nat.min_self]
              rw [readLe32] at hPayload
              omega
            · simp only [readLe32, List.take_take, Nat.min_self]
            · simp only [List.length_take, List.length_drop]
              omega

/-- What was a frame stays one, whatever follows it. -/
theorem read_append (h : read limit bytes = .frame piece) (rest : Bytes) :
    read limit (piece.raw ++ rest) = .frame piece := by
  obtain ⟨_, size, sum, hParts⟩ := read_frame h
  exact read_of_parts hParts rest

theorem length_of_read (h : read limit bytes = .frame piece) :
    piece.raw.length = headerSize + piece.payload.length := by
  obtain ⟨_, size, sum, hParts⟩ := read_frame h
  have hLengths := congrArg List.length hParts.raw
  rw [List.length_append, List.length_append, hParts.size_length, hParts.sum_length] at hLengths
  exact hLengths

theorem lt_length_of_read (h : read limit bytes = .frame piece) :
    0 < piece.raw.length ∧ piece.raw.length ≤ bytes.length := by
  have hTotal := congrArg List.length (read_frame h).1
  have hLength := length_of_read h
  rw [List.length_append] at hTotal
  rw [headerSize] at hLength
  omega

/-- More steps than bytes change nothing. -/
theorem scanFor_eq (fuel more : Nat) (bytes : Bytes) (hFuel : bytes.length ≤ fuel)
    (hMore : bytes.length ≤ more) : scanFor limit fuel bytes = scanFor limit more bytes := by
  induction fuel generalizing more bytes with
  | zero =>
      have hNil : bytes = [] := List.length_eq_zero_iff.mp (Nat.le_zero.mp hFuel)
      cases more with
      | zero => rfl
      | succ more => simp [scanFor, hNil]
  | succ fuel ih =>
      cases more with
      | zero =>
          have hNil : bytes = [] := List.length_eq_zero_iff.mp (Nat.le_zero.mp hMore)
          simp [scanFor, hNil]
      | succ more =>
          simp only [scanFor]
          cases hRead : read limit bytes with
          | incomplete => rfl
          | oversized => rfl
          | frame piece =>
              have hShorter := lt_length_of_read hRead
              have hLater : (bytes.drop piece.raw.length).length + 1 ≤ bytes.length := by
                rw [List.length_drop]
                omega
              simp only
              rw [ih more _ (by omega) (by omega)]

@[simp] theorem scan_nil : scan limit [] = { pieces := [], rest := [], stop := .clean } := rfl

/-- One step of a scan. -/
theorem scan_eq (h : bytes ≠ []) : scan limit bytes =
    match read limit bytes with
    | .incomplete => { pieces := [], rest := bytes, stop := .incomplete }
    | .oversized => { pieces := [], rest := bytes, stop := .oversized }
    | .frame piece =>
      let later := scan limit (bytes.drop piece.raw.length)
      { later with pieces := piece :: later.pieces } := by
  have hPositive := List.length_pos_iff.mpr h
  rw [scan, scanFor_eq _ (bytes.length - 1 + 1) bytes (Nat.le_refl _) (by omega), scanFor, if_neg h]
  cases hRead : read limit bytes with
  | incomplete => rfl
  | oversized => rfl
  | frame piece =>
      have hShorter := lt_length_of_read hRead
      simp only [scan]
      rw [scanFor_eq _ (bytes.drop piece.raw.length).length _ _ (Nat.le_refl _)]
      rw [List.length_drop]
      omega

/-- Induction along a scan. -/
theorem scan_induction (limit : Nat) {P : Bytes → Prop} (nil : P [])
    (incomplete : ∀ bytes, bytes ≠ [] → read limit bytes = .incomplete → P bytes)
    (oversized : ∀ bytes, bytes ≠ [] → read limit bytes = .oversized → P bytes)
    (frame : ∀ (piece : Piece) (rest : Bytes), read limit (piece.raw ++ rest) = .frame piece →
      piece.raw ≠ [] → P rest → P (piece.raw ++ rest)) (bytes : Bytes) : P bytes := by
  induction hLength : bytes.length using Nat.strongRecOn generalizing bytes with
  | ind length ih =>
      by_cases hNil : bytes = []
      · rw [hNil]
        exact nil
      · cases hRead : read limit bytes with
        | incomplete => exact incomplete bytes hNil hRead
        | oversized => exact oversized bytes hNil hRead
        | frame piece =>
            have hBytes := (read_frame hRead).1
            have hShorter := lt_length_of_read hRead
            rw [hBytes] at hRead ⊢
            apply frame piece _ hRead (List.ne_nil_of_length_pos hShorter.1)
            apply ih _ _ _ rfl
            rw [List.length_drop]
            omega

/-- A scan takes the frame at the front and goes on behind it. -/
theorem scan_cons {rest : Bytes} (h : read limit (piece.raw ++ rest) = .frame piece)
    (hRaw : piece.raw ≠ []) : scan limit (piece.raw ++ rest) =
      { scan limit rest with pieces := piece :: (scan limit rest).pieces } := by
  rw [scan_eq (fun hNil => hRaw (List.append_eq_nil_iff.mp hNil).1), h]
  simp only [List.drop_left]

/-- The bytes of some frames. -/
def joined (pieces : List Piece) : Bytes := pieces.flatMap Piece.raw

@[simp] theorem joined_nil : joined [] = [] := rfl

@[simp] theorem joined_cons (pieces : List Piece) :
    joined (piece :: pieces) = piece.raw ++ joined pieces := rfl

theorem joined_append (first later : List Piece) :
    joined (first ++ later) = joined first ++ joined later := List.flatMap_append

/-- A scan loses nothing. -/
theorem scan_partition (limit : Nat) (bytes : Bytes) :
    joined (scan limit bytes).pieces ++ (scan limit bytes).rest = bytes := by
  induction bytes using scan_induction limit with
  | nil => rfl
  | incomplete bytes hNil hRead => rw [scan_eq hNil, hRead, joined_nil, List.nil_append]
  | oversized bytes hNil hRead => rw [scan_eq hNil, hRead, joined_nil, List.nil_append]
  | frame piece rest hRead hRaw ih => rw [scan_cons hRead hRaw, joined_cons, List.append_assoc, ih]

theorem rest_eq_nil_iff (limit : Nat) (bytes : Bytes) :
    (scan limit bytes).rest = [] ↔ (scan limit bytes).stop = .clean := by
  induction bytes using scan_induction limit with
  | nil => simp
  | incomplete bytes hNil hRead => simp [scan_eq hNil, hRead, hNil]
  | oversized bytes hNil hRead => simp [scan_eq hNil, hRead, hNil]
  | frame piece rest hRead hRaw ih =>
      rw [scan_cons hRead hRaw]
      exact ih

/-- Behind a clean end a scan goes on as if it started there. -/
theorem scan_append {first : Bytes} (h : (scan limit first).stop = .clean) (later : Bytes) :
    scan limit (first ++ later) =
      { scan limit later with
        pieces := (scan limit first).pieces ++ (scan limit later).pieces } := by
  induction first using scan_induction limit with
  | nil => rfl
  | incomplete bytes hNil hRead =>
      rw [scan_eq hNil, hRead] at h
      exact Stop.noConfusion h
  | oversized bytes hNil hRead =>
      rw [scan_eq hNil, hRead] at h
      exact Stop.noConfusion h
  | frame piece rest hRead hRaw ih =>
      rw [scan_cons hRead hRaw] at h ⊢
      rw [List.append_assoc, scan_cons (read_append hRead _) hRaw, ih h, List.cons_append]

/-- What follows never takes back a frame. -/
theorem scan_prefix (limit : Nat) (first later : Bytes) :
    ∃ more, (scan limit (first ++ later)).pieces = (scan limit first).pieces ++ more := by
  induction first using scan_induction limit with
  | nil => exact ⟨_, rfl⟩
  | incomplete bytes hNil hRead =>
      rw [scan_eq hNil, hRead]
      exact ⟨_, rfl⟩
  | oversized bytes hNil hRead =>
      rw [scan_eq hNil, hRead]
      exact ⟨_, rfl⟩
  | frame piece rest hRead hRaw ih =>
      obtain ⟨more, hMore⟩ := ih
      rw [scan_cons hRead hRaw, List.append_assoc, scan_cons (read_append hRead _) hRaw]
      exact ⟨more, congrArg (piece :: ·) hMore⟩

/-- The frames that a scan took are all there is once the rest is cut off. -/
theorem scan_joined (limit : Nat) (bytes : Bytes) : scan limit (joined (scan limit bytes).pieces) =
    { pieces := (scan limit bytes).pieces, rest := [], stop := .clean } := by
  induction bytes using scan_induction limit with
  | nil => rfl
  | incomplete bytes hNil hRead =>
      rw [scan_eq hNil, hRead]
      rfl
  | oversized bytes hNil hRead =>
      rw [scan_eq hNil, hRead]
      rfl
  | frame piece rest hRead hRaw ih =>
      rw [scan_cons hRead hRaw, joined_cons, scan_cons (read_append hRead _) hRaw, ih]

/-- A scan may start behind any of the frames that it takes. -/
theorem scan_drop {first later : List Piece} (h : (scan limit bytes).pieces = first ++ later) :
    scan limit (bytes.drop (joined first).length) =
      { scan limit bytes with pieces := later } := by
  induction first generalizing bytes with
  | nil =>
      rw [List.nil_append] at h
      rw [← h]
      rfl
  | cons piece first ih =>
      by_cases hNil : bytes = []
      · rw [hNil, scan_nil] at h
        simp at h
      · cases hRead : read limit bytes with
        | incomplete =>
            rw [scan_eq hNil, hRead] at h
            simp at h
        | oversized =>
            rw [scan_eq hNil, hRead] at h
            simp at h
        | frame front =>
            have hBytes := (read_frame hRead).1
            have hRaw := List.ne_nil_of_length_pos (lt_length_of_read hRead).1
            generalize bytes.drop front.raw.length = rest at hBytes
            subst hBytes
            rw [scan_cons hRead hRaw] at h ⊢
            obtain ⟨rfl, hLater⟩ := List.cons.inj h
            rw [joined_cons, List.length_append, List.drop_append, Nat.add_sub_cancel_left,
              List.drop_of_length_le (Nat.le_add_right _ _), List.nil_append, ih hLater]

/-- The frame that is written for a payload, as it is read back. -/
def pieceOf (check : Bytes → UInt32) (payload : Bytes) : Piece where
  raw := frame check payload
  payload := payload
  expected := (check payload).toNat

theorem parts_pieceOf (check : Bytes → UInt32) (hFits : payload.length ≤ limit)
    (hLimit : limit < 2 ^ 32) :
    (pieceOf check payload).Parts limit (le32 payload.length) (le32 (check payload).toNat) where
  raw := rfl
  size_length := rfl
  sum_length := rfl
  size_eq := by
    have h := readLe32_le32 (Nat.lt_of_le_of_lt hFits hLimit) []
    rwa [List.append_nil] at h
  sum_eq := by
    have h := readLe32_le32 (check payload).toNat_lt []
    rwa [List.append_nil] at h
  fits := hFits

theorem frame_ne_nil : frame check payload ≠ [] := by
  intro hNil
  have hLength := congrArg List.length hNil
  rw [length_frame, headerSize, List.length_nil] at hLength
  omega

/-- What was written as a frame is read as one. -/
theorem scan_frame (hFits : payload.length ≤ limit) (hLimit : limit < 2 ^ 32) :
    scan limit (frame check payload) =
      { pieces := [pieceOf check payload], rest := [], stop := .clean } := by
  have hRead := read_of_parts (parts_pieceOf check hFits hLimit) []
  have hScan := scan_cons hRead frame_ne_nil
  rwa [List.append_nil, scan_nil] at hScan

/-- Behind the header of a frame, bytes that are fewer than its payload are taken for a part of
that. -/
theorem scan_swallowed {later : Bytes} (hFits : payload.length ≤ limit) (hLimit : limit < 2 ^ 32)
    (hShort : later.length < payload.length) :
    scan limit ((frame check payload).take headerSize ++ later) =
      { pieces := [], rest := (frame check payload).take headerSize ++ later
        stop := .incomplete } := by
  have hHeader : ((frame check payload).take headerSize).length = headerSize := by
    rw [List.length_take, length_frame]
    omega
  have hSize : readLe32 ((frame check payload).take headerSize ++ later) = payload.length := by
    rw [readLe32, List.take_append_of_le_length (by rw [hHeader, headerSize]; decide),
      List.take_take, headerSize, Nat.min_eq_left (by decide), frame, List.append_assoc]
    exact readLe32_le32 (Nat.lt_of_le_of_lt hFits hLimit) _
  have hRead : read limit ((frame check payload).take headerSize ++ later) = .incomplete := by
    rw [read, hSize, List.length_append, hHeader, if_neg (by omega), if_neg (by omega),
      if_pos (by omega)]
  rw [scan_eq _, hRead]
  intro hNil
  have hLength := congrArg List.length hNil
  rw [List.length_append, hHeader, headerSize, List.length_nil] at hLength
  omega

end Framed
