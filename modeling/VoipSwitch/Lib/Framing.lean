import VoipSwitch.Lib.FramedLog

/-! Messages on a stream of bytes, each of them behind its length. A reader takes the bytes as they
come, in whatever portions. -/
namespace Framing

open Framed

/-- `u32::to_be_bytes`. -/
def be32 (n : Nat) : Bytes := (le32 n).reverse

/-- `u32::from_be_bytes` of the first four bytes. -/
def readBe32 (bytes : Bytes) : Nat := readLe32 (bytes.take 4).reverse

@[simp] theorem length_be32 (n : Nat) : (be32 n).length = 4 := rfl

theorem readBe32_be32 {n : Nat} (h : n < 2 ^ 32) (rest : Bytes) :
    readBe32 (be32 n ++ rest) = n := by
  have hOwn := readLe32_le32 h []
  rw [List.append_nil] at hOwn
  rw [readBe32, List.take_left' (length_be32 n), be32, List.reverse_reverse, hOwn]

/-- How messages are written and read. The length of what is written is accepted. -/
structure Format (α : Type) where
  checkLen : Nat → Except String Unit
  encode : α → Except String Bytes
  decode : Bytes → Except String α
  checkLen_encode : ∀ {message body}, encode message = .ok body →
    checkLen body.length = .ok () ∧ 0 < body.length ∧ body.length < 2 ^ 32

/-- How far the reading of a message has come: in its length, or in its body. -/
inductive Progress where
  | length (got : Bytes)
  | body (len : Nat) (got : Bytes)
deriving DecidableEq

namespace Progress

def start : Progress := .length []

/-- The bytes that were taken from the stream. -/
def consumed : Progress → Bytes
  | .length got => got
  | .body len got => be32 len ++ got

theorem consumed_eq_nil {p : Progress} : p.consumed = [] ↔ p = .start := by
  constructor
  · intro h
    cases p with
    | length got => exact congrArg Progress.length h
    | body len got =>
        have hLength := congrArg List.length h
        rw [consumed, List.length_append, length_be32, List.length_nil] at hLength
        omega
  · rintro rfl
    rfl

/-- A message with this body is being read. -/
def Reads (body : Bytes) : Progress → Prop
  | .length got => got <+: be32 body.length ∧ got.length < 4
  | .body len got => len = body.length ∧ got <+: body ∧ got.length < body.length

theorem reads_start (body : Bytes) : start.Reads body := ⟨List.nil_prefix, by decide⟩

/-- What is read of a message that is not complete is shorter than the message. -/
theorem Reads.length_lt {p : Progress} {body : Bytes} (h : p.Reads body) :
    p.consumed.length < 4 + body.length := by
  cases p with
  | length got => exact Nat.lt_of_lt_of_le h.2 (Nat.le_add_right _ _)
  | body len got =>
      rw [consumed, List.length_append, length_be32]
      exact Nat.add_lt_add_left h.2.2 4

end Progress

namespace Format

variable {α : Type} (F : Format α)

/-- The next byte: the reading goes on, or it ends. -/
def take (byte : UInt8) : Progress → Progress ⊕ Except String α
  | .length got =>
      let got := got ++ [byte]
      if got.length < 4 then .inl (.length got)
      else
        match F.checkLen (readBe32 got) with
        | .ok () => .inl (.body (readBe32 got) [])
        | .error error => .inr (.error error)
  | .body len got =>
      let got := got ++ [byte]
      if got.length < len then .inl (.body len got) else .inr (F.decode got)

/-- The reading goes on with the bytes that have arrived, to the end of the message at most. -/
def poll : Progress → Bytes → Progress ⊕ (Except String α × Bytes)
  | p, [] => .inl p
  | p, byte :: rest =>
      match F.take byte p with
      | .inl q => poll q rest
      | .inr result => .inr (result, rest)

/-- One message is read after the other, as far as the bytes go. -/
def drain : Progress → Bytes → Except String (List α × Progress)
  | p, [] => .ok ([], p)
  | p, byte :: rest =>
      match F.take byte p with
      | .inl q => drain q rest
      | .inr (.error error) => .error error
      | .inr (.ok message) => (drain .start rest).map fun (messages, q) => (message :: messages, q)

/-- The same with bytes that come in portions. -/
def drainAll : Progress → List Bytes → Except String (List α × Progress)
  | p, [] => .ok ([], p)
  | p, chunk :: chunks => do
      let (messages, q) ← F.drain p chunk
      let (later, last) ← drainAll q chunks
      return (messages ++ later, last)

/-- What is written for a message. -/
def frame (message : α) : Except String Bytes :=
  (F.encode message).map fun body => be32 body.length ++ body

/-- What is written for a message is read as this message. -/
def ReadsBack (message : α) : Prop :=
  ∀ body, F.encode message = .ok body → F.decode body = .ok message

variable {F} {message : α} {body rest tail pipe : Bytes} {p : Progress}

/-- A byte of the message, which is the last one or not. -/
theorem take_reads (hBody : F.encode message = .ok body) (hReads : p.Reads body) {byte : UInt8}
    (hStream : p.consumed ++ byte :: rest = be32 body.length ++ body ++ tail) :
    (∃ q, F.take byte p = .inl q ∧ q.Reads body ∧ q.consumed = p.consumed ++ [byte]) ∨
      (F.take byte p = .inr (F.decode body) ∧ rest = tail) := by
  obtain ⟨hCheck, hPositive, hSmall⟩ := F.checkLen_encode hBody
  cases p with
  | length got =>
      obtain ⟨_, hLess⟩ := hReads
      left
      have hPrefix : got ++ [byte] <+: be32 body.length := by
        refine List.prefix_of_prefix_length_le (?_ : _ <+: be32 body.length ++ body ++ tail) ?_ ?_
        · rw [← hStream]
          exact ⟨rest, by rw [List.append_assoc]; rfl⟩
        · rw [List.append_assoc]
          exact List.prefix_append _ _
        · rw [List.length_append, List.length_singleton, length_be32]
          exact hLess
      rw [take]
      by_cases hMore : (got ++ [byte]).length < 4
      · exact ⟨.length (got ++ [byte]), if_pos hMore, ⟨hPrefix, hMore⟩, rfl⟩
      · have hAll : got ++ [byte] = be32 body.length :=
          hPrefix.eq_of_length_le (Nat.not_lt.mp hMore)
        have hLen : readBe32 (be32 body.length) = body.length := by
          have hRead := readBe32_be32 hSmall []
          rw [List.append_nil] at hRead
          exact hRead
        refine ⟨.body body.length [], ?_, ⟨rfl, List.nil_prefix, hPositive⟩, ?_⟩
        · rw [hAll] at hMore
          simp only [hAll, if_neg hMore, hLen, hCheck]
        · rw [Progress.consumed, Progress.consumed, hAll, List.append_nil]
  | body len got =>
      obtain ⟨rfl, _, hLess⟩ := hReads
      have hRest : got ++ byte :: rest = body ++ tail := by
        rw [Progress.consumed, List.append_assoc, List.append_assoc] at hStream
        exact List.append_cancel_left hStream
      have hPrefix : got ++ [byte] <+: body := by
        refine List.prefix_of_prefix_length_le (?_ : _ <+: body ++ tail) ?_ ?_
        · rw [← hRest]
          exact ⟨rest, by rw [List.append_assoc]; rfl⟩
        · exact List.prefix_append _ _
        · rw [List.length_append, List.length_singleton]
          exact hLess
      rw [take]
      by_cases hMore : (got ++ [byte]).length < body.length
      · left
        refine ⟨.body body.length (got ++ [byte]), if_pos hMore, ⟨rfl, hPrefix, hMore⟩, ?_⟩
        rw [Progress.consumed, Progress.consumed, List.append_assoc]
      · right
        have hAll : got ++ [byte] = body := hPrefix.eq_of_length_le (Nat.not_lt.mp hMore)
        constructor
        · rw [hAll] at hMore
          simp only [hAll, if_neg hMore]
        · rw [← List.singleton_append, ← List.append_assoc, hAll] at hRest
          exact List.append_cancel_left hRest

/-- However much has arrived, the reading goes on in the message or ends with it. -/
theorem poll_reads (hBody : F.encode message = .ok body) (buffer : Bytes) (hReads : p.Reads body)
    (hStream : p.consumed ++ buffer ++ pipe = be32 body.length ++ body ++ tail) :
    (∃ q, F.poll p buffer = .inl q ∧ q.Reads body ∧ q.consumed = p.consumed ++ buffer) ∨
      ∃ rest, F.poll p buffer = .inr (F.decode body, rest) ∧ rest ++ pipe = tail := by
  induction buffer generalizing p with
  | nil => exact .inl ⟨p, rfl, hReads, (List.append_nil _).symm⟩
  | cons byte buffer ih =>
      rw [List.append_assoc, List.cons_append] at hStream
      rw [poll]
      rcases take_reads hBody hReads hStream with ⟨q, hTake, hOn, hConsumed⟩ | ⟨hTake, hTail⟩
      · rw [hTake]
        have hNext : q.consumed ++ buffer ++ pipe = be32 body.length ++ body ++ tail := by
          rw [hConsumed, ← hStream]
          simp only [List.append_assoc, List.cons_append, List.nil_append]
        rcases ih hOn hNext with ⟨q', hPoll, hReads', hConsumed'⟩ | hEnds
        · refine .inl ⟨q', hPoll, hReads', ?_⟩
          rw [hConsumed', hConsumed, List.append_assoc, List.singleton_append]
        · exact .inr hEnds
      · rw [hTake]
        exact .inr ⟨buffer, rfl, hTail⟩

/-- Messages are read as long as the reading of one of them ends within the bytes. -/
theorem drain_eq (p : Progress) (bytes : Bytes) :
    F.drain p bytes =
      match F.poll p bytes with
      | .inl q => .ok ([], q)
      | .inr (.error error, _) => .error error
      | .inr (.ok message, rest) =>
          (F.drain .start rest).map fun (messages, q) => (message :: messages, q) := by
  induction bytes generalizing p with
  | nil => rfl
  | cons byte rest ih =>
      rw [drain, poll]
      cases hTake : F.take byte p with
      | inl q => exact ih q
      | inr result =>
          cases result with
          | error error => rfl
          | ok message => rfl

/-- A body that has been read to its end has the length that was announced. -/
theorem poll_body {len : Nat} {got bytes : Bytes} {result : Except String α}
    (hLess : got.length < len) (h : F.poll (.body len got) bytes = .inr (result, rest)) :
    ∃ more, bytes = more ++ rest ∧ (got ++ more).length = len ∧
      result = F.decode (got ++ more) := by
  induction bytes generalizing got with
  | nil => cases h
  | cons byte bytes ih =>
      rw [poll, take] at h
      have hStep : (got ++ [byte]).length = got.length + 1 := by
        rw [List.length_append, List.length_singleton]
      by_cases hMore : (got ++ [byte]).length < len
      · simp only [if_pos hMore] at h
        obtain ⟨more, rfl, hLen, hResult⟩ := ih hMore h
        rw [List.append_assoc] at hLen hResult
        exact ⟨byte :: more, rfl, hLen, hResult⟩
      · simp only [if_neg hMore, Sum.inr.injEq, Prod.mk.injEq] at h
        obtain ⟨rfl, rfl⟩ := h
        exact ⟨[byte], rfl, by omega, rfl⟩

/-- A message that is read lies behind its length, which was accepted. -/
theorem poll_ok (hPositive : ∀ len, F.checkLen len = .ok () → 0 < len) {got bytes : Bytes}
    (hLess : got.length < 4) (h : F.poll (.length got) bytes = .inr (.ok message, rest)) :
    ∃ more body, bytes = more ++ body ++ rest ∧ (got ++ more).length = 4 ∧
      F.checkLen (readBe32 (got ++ more)) = .ok () ∧ body.length = readBe32 (got ++ more) ∧
      F.decode body = .ok message := by
  induction bytes generalizing got with
  | nil => cases h
  | cons byte bytes ih =>
      rw [poll, take] at h
      have hStep : (got ++ [byte]).length = got.length + 1 := by
        rw [List.length_append, List.length_singleton]
      by_cases hMore : (got ++ [byte]).length < 4
      · simp only [if_pos hMore] at h
        obtain ⟨more, body, rfl, hFour, hCheck, hLen, hDecode⟩ := ih hMore h
        rw [List.append_assoc] at hFour hCheck hLen
        exact ⟨byte :: more, body, rfl, hFour, hCheck, hLen, hDecode⟩
      · simp only [if_neg hMore] at h
        cases hCheck : F.checkLen (readBe32 (got ++ [byte])) with
        | error error =>
            rw [hCheck] at h
            cases h
        | ok accepted =>
            rw [hCheck] at h
            obtain ⟨body, rfl, hLen, hDecode⟩ := poll_body (hPositive _ hCheck) h
            exact ⟨[byte], body, rfl, by omega, hCheck, hLen, hDecode.symm⟩

end Format

end Framing
