import Mathlib.Data.List.Forall2
import Mathlib.Data.List.TakeDrop
import VoipSwitch.Media.Rewrite

/-! The written form of a set of telephone events, and what the switch reads in it. -/
namespace VoipSwitch.Sdp

open Words

section Number

/-- A number in decimal figures, with or without a plus sign before them. -/
def Decimal (text : Line) (n : Nat) : Prop :=
  ∃ digits : Line, (text = digits ∨ text = '+' :: digits) ∧ digits ≠ [] ∧
    (∀ c ∈ digits, isAsciiDigit c = true) ∧ Nat.ofDigitChars 10 digits 0 = n

/-- A number with blanks around it. -/
def Spaced (text : Line) (n : Nat) : Prop :=
  ∃ before number after, (∀ c ∈ before, isWhitespace c = true) ∧
    (∀ c ∈ after, isWhitespace c = true) ∧ text = before ++ number ++ after ∧ Decimal number n

/-- What follows the plus sign, if there is one. -/
def unsigned : Line → Line
  | '+' :: digits => digits
  | digits => digits

variable {text digits : Line} {n bits : Nat}

theorem unsigned_of_digits (hDigits : ∀ c ∈ digits, isAsciiDigit c = true) :
    unsigned digits = digits := by
  unfold unsigned
  split
  · exact absurd (hDigits '+' List.mem_cons_self) (by decide)
  · rfl

theorem eq_unsigned (text : Line) : text = unsigned text ∨ text = '+' :: unsigned text := by
  unfold unsigned
  split
  · exact .inr rfl
  · exact .inl rfl

theorem parseNumber_eq (bits : Nat) (text : Line) :
    parseNumber bits text =
      if (unsigned text).isEmpty || !(unsigned text).all isAsciiDigit then none
      else if Nat.ofDigitChars 10 (unsigned text) 0 < 2 ^ bits then
        some (Nat.ofDigitChars 10 (unsigned text) 0)
      else none := by
  rw [parseNumber, parseUnsigned]
  simp only [String.toList_ofList]
  rfl

/-- Exactly the numbers that fit are read. -/
theorem parseNumber_eq_some :
    parseNumber bits text = some n ↔ Decimal text n ∧ n < 2 ^ bits := by
  constructor
  · intro hParse
    rw [parseNumber_eq] at hParse
    split at hParse
    · exact absurd hParse (by simp)
    · rename_i hDigits
      rw [Bool.not_eq_true, Bool.or_eq_false_iff, Bool.not_eq_false'] at hDigits
      split at hParse
      · rename_i hSmall
        obtain rfl := Option.some.inj hParse
        have hSome : unsigned text ≠ [] := List.isEmpty_eq_false_iff.mp hDigits.1
        have hAll : ∀ c ∈ unsigned text, isAsciiDigit c = true := List.all_eq_true.mp hDigits.2
        exact ⟨⟨unsigned text, eq_unsigned text, hSome, hAll, rfl⟩, hSmall⟩
      · exact absurd hParse (by simp)
  · rintro ⟨⟨digits, hSign, hSome, hAll, hValue⟩, hSmall⟩
    have hUnsigned : unsigned text = digits := by
      rcases hSign with rfl | rfl
      · exact unsigned_of_digits hAll
      · rfl
    have hEmpty : digits.isEmpty = false := List.isEmpty_eq_false_iff.mpr hSome
    have hDigits : digits.all isAsciiDigit = true := List.all_eq_true.mpr hAll
    rw [parseNumber_eq, hUnsigned, hEmpty, hDigits, hValue, if_neg (by decide), if_pos hSmall]

theorem Decimal.ne_nil (hText : Decimal text n) : text ≠ [] := by
  obtain ⟨digits, hSign, hSome, -⟩ := hText
  rcases hSign with rfl | rfl
  · exact hSome
  · exact List.cons_ne_nil _ _

theorem Decimal.sign_or_digit (hText : Decimal text n) :
    ∀ c ∈ text, c = '+' ∨ isAsciiDigit c = true := by
  obtain ⟨digits, hSign, -, hAll, -⟩ := hText
  intro c hMem
  rcases hSign with rfl | rfl
  · exact .inr (hAll c hMem)
  · rcases List.mem_cons.mp hMem with rfl | hDigit
    · exact .inl rfl
    · exact .inr (hAll c hDigit)

/-- No blank, no comma and no dash stands in a number. -/
theorem Decimal.letter (hText : Decimal text n) :
    ∀ c ∈ text, isWhitespace c = false ∧ c ≠ ',' ∧ c ≠ '-' := by
  intro c hMem
  rcases hText.sign_or_digit c hMem with rfl | hDigit
  · decide
  · have hBetween : 48 ≤ c.toNat ∧ c.toNat ≤ 57 := by
      simpa [isAsciiDigit, Char.le_def, UInt32.le_iff_toNat_le] using hDigit
    refine ⟨isWhitespace_eq_false (by omega) (by omega), ?_, ?_⟩
    · rintro rfl
      exact absurd hBetween.1 (by decide)
    · rintro rfl
      exact absurd hBetween.1 (by decide)

theorem Decimal.bare (hText : Decimal text n) : Bare isWhitespace text :=
  ⟨fun c hFirst => (hText.letter c (List.mem_of_head? hFirst)).1,
    fun c hLast => (hText.letter c (List.mem_of_getLast? hLast)).1⟩

/-- What the switch trims and reads is a number with blanks around it. -/
theorem parseNumber_trimLine :
    parseNumber bits (trimLine text) = some n ↔ Spaced text n ∧ n < 2 ^ bits := by
  rw [parseNumber_eq_some]
  constructor
  · rintro ⟨hNumber, hSmall⟩
    obtain ⟨before, after, hBefore, hAfter, hText⟩ := exists_trim isWhitespace text
    exact ⟨⟨before, trimLine text, after, hBefore, hAfter, hText, hNumber⟩, hSmall⟩
  · rintro ⟨⟨before, number, after, hBefore, hAfter, rfl, hNumber⟩, hSmall⟩
    have hTrim : trimLine (before ++ number ++ after) = number :=
      trim_append hBefore hAfter hNumber.bare
    rw [hTrim]
    exact ⟨hNumber, hSmall⟩

end Number

section Item

/-- A part of a set: one event, or the events from one to another. -/
inductive Item (text : Line) : UInt8 → UInt8 → Prop where
  | event {n : UInt8} (number : Spaced text n.toNat) : Item text n n
  | range {a b : UInt8} {first last : Line} (dash : text = first ++ '-' :: last)
      (start : Spaced first a.toNat) (stop : Spaced last b.toNat) (order : a ≤ b) : Item text a b

variable {text before after first last : Line} {n : Nat} {a b e event : UInt8} {attr : String}
  {events : List UInt8}

theorem Spaced.surround (hBefore : ∀ c ∈ before, isWhitespace c = true)
    (hAfter : ∀ c ∈ after, isWhitespace c = true) (hText : Spaced text n) :
    Spaced (before ++ text ++ after) n := by
  obtain ⟨left, number, right, hLeft, hRight, rfl, hNumber⟩ := hText
  refine ⟨before ++ left, number, right ++ after, ?_, ?_, by simp, hNumber⟩
  · intro c hMem
    rcases List.mem_append.mp hMem with hOuter | hInner
    · exact hBefore c hOuter
    · exact hLeft c hInner
  · intro c hMem
    rcases List.mem_append.mp hMem with hInner | hOuter
    · exact hRight c hInner
    · exact hAfter c hOuter

theorem Spaced.letter (hText : Spaced text n) : ∀ c ∈ text, c ≠ ',' ∧ c ≠ '-' := by
  obtain ⟨before, number, after, hBefore, hAfter, rfl, hNumber⟩ := hText
  have hBlank : ∀ c, isWhitespace c = true → c ≠ ',' ∧ c ≠ '-' := by
    intro c hBlank
    constructor
    · rintro rfl
      exact absurd hBlank (by decide)
    · rintro rfl
      exact absurd hBlank (by decide)
  intro c hMem
  rcases List.mem_append.mp hMem with hMem | hRight
  · rcases List.mem_append.mp hMem with hLeft | hMiddle
    · exact hBlank c (hBefore c hLeft)
    · exact (hNumber.letter c hMiddle).2
  · exact hBlank c (hAfter c hRight)

theorem Item.comma_notMem (hItem : Item text a b) : ',' ∉ text := by
  intro hComma
  cases hItem with
  | event hNumber => exact (hNumber.letter ',' hComma).1 rfl
  | range hDash hStart hStop _ =>
      rw [hDash] at hComma
      rcases List.mem_append.mp hComma with hLeft | hRight
      · exact (hStart.letter ',' hLeft).1 rfl
      · rcases List.mem_cons.mp hRight with hEq | hRest
        · exact absurd hEq (by decide)
        · exact (hStop.letter ',' hRest).1 rfl

theorem Item.le (hItem : Item text a b) : a ≤ b := by
  cases hItem with
  | event _ => exact UInt8.le_refl _
  | range _ _ _ hOrder => exact hOrder

theorem parseDtmfEvent_eq_ok : parseDtmfEvent text attr = .ok event ↔ Spaced text event.toNat := by
  rw [parseDtmfEvent]
  constructor
  · intro hParse
    split at hParse
    · rename_i n hNumber
      obtain rfl := Except.ok.inj hParse
      obtain ⟨hText, hSmall⟩ := parseNumber_trimLine.mp hNumber
      rwa [UInt8.toNat_ofNat_of_lt' hSmall]
    · exact absurd hParse (by simp)
  · intro hText
    rw [parseNumber_trimLine.mpr ⟨hText, event.toNat_lt⟩]
    simp

theorem mem_eventRange : e ∈ eventRange a b ↔ a ≤ e ∧ e ≤ b := by
  rw [eventRange, List.mem_map]
  constructor
  · rintro ⟨n, hMem, rfl⟩
    rw [List.mem_range'_1] at hMem
    have hLast := b.toNat_lt
    rw [UInt8.le_iff_toNat_le, UInt8.le_iff_toNat_le,
      UInt8.toNat_ofNat_of_lt' (by change n < 256; omega)]
    omega
  · rintro ⟨hFirst, hLast⟩
    rw [UInt8.le_iff_toNat_le] at hFirst hLast
    refine ⟨e.toNat, ?_, by simp⟩
    rw [List.mem_range'_1]
    omega

theorem eventRange_self : eventRange a a = [a] := by
  rw [eventRange, Nat.add_sub_cancel_left, List.range'_one, List.map_singleton, UInt8.ofNat_toNat]

/-- The text up to the first letter that ends it, and what follows from there on. -/
theorem span_append {p : Char → Bool} (hFirst : ∀ c ∈ first, p c = true)
    (hLast : ∀ c ∈ last.head?, p c = false) : (first ++ last).span p = (first, last) := by
  rw [List.span_eq_takeWhile_dropWhile, List.takeWhile_append_of_pos hFirst,
    List.dropWhile_append_of_pos hFirst]
  cases last with
  | nil => rw [List.takeWhile_nil, List.append_nil, List.dropWhile_nil]
  | cons c last =>
      have hStop : ¬ p c = true := Bool.eq_false_iff.mp (hLast c rfl)
      rw [List.takeWhile_cons, List.dropWhile_cons, if_neg hStop, if_neg hStop, List.append_nil]

theorem of_span {p : Char → Bool} (h : text.span p = (first, last)) :
    text = first ++ last ∧ (∀ c ∈ first, p c = true) ∧ ∀ c ∈ last.head?, p c = false := by
  rw [List.span_eq_takeWhile_dropWhile] at h
  obtain ⟨rfl, rfl⟩ := Prod.mk.inj h
  refine ⟨List.takeWhile_append_dropWhile.symm, fun c hMem => List.mem_takeWhile_imp hMem, ?_⟩
  intro c hHead
  have hStop := List.head?_dropWhile_not p text
  rw [Option.mem_def.mp hHead] at hStop
  simpa using hStop

theorem Spaced.bare_front (hText : Spaced text n) :
    ∃ before core, (∀ c ∈ before, isWhitespace c = true) ∧ text = before ++ core ∧
      Spaced core n ∧ core ≠ [] ∧ ∀ c ∈ core.head?, isWhitespace c = false := by
  obtain ⟨before, number, after, hBefore, hAfter, rfl, hNumber⟩ := hText
  refine ⟨before, number ++ after, hBefore, List.append_assoc _ _ _, ?_, ?_, ?_⟩
  · exact ⟨[], number, after, by simp, hAfter, by simp, hNumber⟩
  · exact fun h => hNumber.ne_nil (List.append_eq_nil_iff.mp h).1
  · intro c hFirst
    rw [List.head?_append_of_ne_nil _ hNumber.ne_nil] at hFirst
    exact hNumber.bare.first c hFirst

theorem Spaced.bare_back (hText : Spaced text n) :
    ∃ core after, (∀ c ∈ after, isWhitespace c = true) ∧ text = core ++ after ∧
      Spaced core n ∧ core ≠ [] ∧ ∀ c ∈ core.getLast?, isWhitespace c = false := by
  obtain ⟨before, number, after, hBefore, hAfter, rfl, hNumber⟩ := hText
  refine ⟨before ++ number, after, hAfter, rfl, ?_, ?_, ?_⟩
  · exact ⟨before, number, [], hBefore, by simp, by simp, hNumber⟩
  · exact fun h => hNumber.ne_nil (List.append_eq_nil_iff.mp h).2
  · intro c hLast
    rw [List.getLast?_append_of_ne_nil _ hNumber.ne_nil] at hLast
    exact hNumber.bare.last c hLast

/-- A part is read if it names events, and the events it names are taken. -/
theorem parseDtmfEvents_eq_ok :
    parseDtmfEvents attr text = .ok events ↔ ∃ a b, Item text a b ∧ events = eventRange a b := by
  constructor
  · intro hParse
    obtain ⟨before, after, hBefore, hAfter, hText⟩ := exists_trim isWhitespace text
    have hCore : text = before ++ trimLine text ++ after := hText
    rw [parseDtmfEvents] at hParse
    split at hParse
    · exact absurd hParse (by simp)
    · split at hParse
      · rename_i hSpan
        obtain ⟨n, hNumber, hParse⟩ := ok_of_bind hParse
        obtain rfl := Except.ok.inj hParse
        refine ⟨n, n, .event ?_, eventRange_self.symm⟩
        rw [hCore]
        exact (parseDtmfEvent_eq_ok.mp hNumber).surround hBefore hAfter
      · rename_i first dash last hSpan
        obtain ⟨a, hStart, hParse⟩ := ok_of_bind hParse
        obtain ⟨b, hStop, hParse⟩ := ok_of_bind hParse
        split at hParse
        · exact absurd hParse (by simp)
        · rename_i hOrder
          obtain rfl := Except.ok.inj hParse
          obtain ⟨hJoined, -, hDash⟩ := of_span hSpan
          have hDashed : text = (before ++ first) ++ '-' :: (last ++ after) := by
            rw [hCore, hJoined, show dash = '-' by simpa using hDash dash rfl]
            simp
          have hFirst : Spaced (before ++ first ++ []) a.toNat :=
            (parseDtmfEvent_eq_ok.mp hStart).surround hBefore (by simp)
          have hLast : Spaced ([] ++ last ++ after) b.toNat :=
            (parseDtmfEvent_eq_ok.mp hStop).surround (by simp) hAfter
          rw [List.append_nil] at hFirst
          exact ⟨a, b, .range hDashed hFirst hLast (UInt8.not_lt.mp hOrder), rfl⟩
  · rintro ⟨a, b, hItem, rfl⟩
    cases hItem with
    | event hText =>
        obtain ⟨before, number, after, hBefore, hAfter, rfl, hNumber⟩ := hText
        have hTrim : trimLine (before ++ number ++ after) = number :=
          trim_append hBefore hAfter hNumber.bare
        have hSpan : (number ++ []).span (· ≠ '-') = (number, []) :=
          span_append (fun c hMem => by simpa using (hNumber.letter c hMem).2.2) (by simp)
        have hRead : parseDtmfEvent number attr = .ok a :=
          parseDtmfEvent_eq_ok.mpr ⟨[], number, [], by simp, by simp, by simp, hNumber⟩
        rw [List.append_nil] at hSpan
        rw [parseDtmfEvents, hTrim, if_neg (by simpa using hNumber.ne_nil), hSpan, eventRange_self]
        exact bind_of_ok hRead rfl
    | range hDash hStart hStop hOrder =>
        rename_i first last
        obtain ⟨before, start, hBefore, rfl, hStart, hSome, hFront⟩ := hStart.bare_front
        obtain ⟨stop, after, hAfter, rfl, hStop, hSomeStop, hBack⟩ := hStop.bare_back
        have hBare : Bare isWhitespace (start ++ '-' :: stop) := by
          constructor
          · intro c hFirst
            rw [List.head?_append_of_ne_nil _ hSome] at hFirst
            exact hFront c hFirst
          · intro c hLast
            rw [List.getLast?_append_of_ne_nil _ (List.cons_ne_nil _ _),
              List.getLast?_cons_of_ne_nil hSomeStop] at hLast
            exact hBack c hLast
        have hTrim : trimLine text = start ++ '-' :: stop := by
          have hJoined : text = before ++ (start ++ '-' :: stop) ++ after := by
            rw [hDash]
            simp
          rw [hJoined]
          exact trim_append hBefore hAfter hBare
        have hSpan : (start ++ '-' :: stop).span (· ≠ '-') = (start, '-' :: stop) :=
          span_append (fun c hMem => by simpa using (hStart.letter c hMem).2) (by simp)
        rw [parseDtmfEvents, hTrim, if_neg (by simp), hSpan]
        apply bind_of_ok (parseDtmfEvent_eq_ok.mpr hStart)
        apply bind_of_ok (parseDtmfEvent_eq_ok.mpr hStop)
        rw [if_neg (UInt8.not_lt.mpr hOrder)]
        rfl

end Item

section Set

/-- A list of parts with commas between them. -/
def EventList (value : String) (items : List (UInt8 × UInt8)) : Prop :=
  items ≠ [] ∧ ∃ texts : List Line, value.toList = [','].intercalate texts ∧
    List.Forall₂ (fun text item => Item text item.1 item.2) texts items

/-- The events are those that the parts name, each once and in their order. -/
structure Denotes (items : List (UInt8 × UInt8)) (events : List UInt8) : Prop where
  ascending : events.Pairwise (· < ·)
  mem : ∀ e, e ∈ events ↔ ∃ item ∈ items, item.1 ≤ e ∧ e ≤ item.2

variable {value : String} {items : List (UInt8 × UInt8)} {events events' : List UInt8}
  {e : UInt8}

theorem mem_eventSet : e ∈ eventSet events ↔ e ∈ events := by
  rw [eventSet, List.mem_filter, List.mem_map, List.contains_iff_mem]
  constructor
  · exact fun h => h.2
  · intro hMem
    exact ⟨⟨e.toNat, List.mem_range.mpr e.toNat_lt, by simp⟩, hMem⟩

theorem pairwise_eventSet : (eventSet events).Pairwise (· < ·) := by
  apply List.Pairwise.filter
  rw [List.pairwise_map]
  apply List.Pairwise.imp_of_mem _ List.pairwise_lt_range
  intro m n hLeft hRight hLess
  have hSmall : m < 2 ^ 8 := List.mem_range.mp hLeft
  have hSmall' : n < 2 ^ 8 := List.mem_range.mp hRight
  rw [UInt8.lt_iff_toNat_lt, UInt8.toNat_ofNat_of_lt' hSmall, UInt8.toNat_ofNat_of_lt' hSmall']
  exact hLess

theorem Denotes.unique (h : Denotes items events) (h' : Denotes items events') :
    events = events' := by
  have hMem : ∀ e, e ∈ events ↔ e ∈ events' := fun e => (h.mem e).trans (h'.mem e).symm
  have hOnce : events.Nodup := h.ascending.imp fun hLess => UInt8.ne_of_lt hLess
  have hOnce' : events'.Nodup := h'.ascending.imp fun hLess => UInt8.ne_of_lt hLess
  apply List.Perm.eq_of_pairwise _ h.ascending h'.ascending
    ((List.perm_ext_iff_of_nodup hOnce hOnce').mpr hMem)
  intro a b _ _ hLess hMore
  exact absurd hMore (UInt8.lt_asymm hLess)

theorem denotes_eventSet (items : List (UInt8 × UInt8)) :
    Denotes items (eventSet (items.map fun item => eventRange item.1 item.2).flatten) := by
  refine ⟨pairwise_eventSet, ?_⟩
  intro e
  rw [mem_eventSet, List.mem_flatten]
  constructor
  · rintro ⟨range, hRange, hMem⟩
    obtain ⟨item, hItem, rfl⟩ := List.mem_map.mp hRange
    exact ⟨item, hItem, mem_eventRange.mp hMem⟩
  · rintro ⟨item, hItem, hMem⟩
    exact ⟨_, List.mem_map_of_mem hItem, mem_eventRange.mpr hMem⟩

theorem denotes_eventRange (a b : UInt8) : Denotes [(a, b)] (eventRange a b) := by
  constructor
  · rw [eventRange, List.pairwise_map]
    apply List.Pairwise.imp_of_mem _ List.pairwise_lt_range'
    intro m n hLeft hRight hLess
    rw [List.mem_range'_1] at hLeft hRight
    have hLast := b.toNat_lt
    rw [UInt8.lt_iff_toNat_lt, UInt8.toNat_ofNat_of_lt' (by change m < 256; omega),
      UInt8.toNat_ofNat_of_lt' (by change n < 256; omega)]
    exact hLess
  · intro e
    rw [mem_eventRange]
    simp

theorem items_of_events {attr : String} {texts : List Line} {ranges : List (List UInt8)}
    (h : List.Forall₂ (fun text events => parseDtmfEvents attr text = .ok events) texts ranges) :
    ∃ items : List (UInt8 × UInt8),
      List.Forall₂ (fun text item => Item text item.1 item.2) texts items ∧
        ranges = items.map fun item => eventRange item.1 item.2 := by
  induction h with
  | nil => exact ⟨[], .nil, rfl⟩
  | cons hHead _ ih =>
      obtain ⟨a, b, hItem, rfl⟩ := parseDtmfEvents_eq_ok.mp hHead
      obtain ⟨items, hItems, rfl⟩ := ih
      exact ⟨(a, b) :: items, .cons hItem hItems, rfl⟩

theorem comma_notMem_of_items {texts : List Line}
    (hItems : List.Forall₂ (fun text item => Item text item.1 item.2) texts items) :
    ∀ text ∈ texts, ',' ∉ text := by
  induction hItems with
  | nil => exact fun text hMem => absurd hMem List.not_mem_nil
  | cons hItem _ ih =>
      intro text hMem
      rcases List.mem_cons.mp hMem with rfl | hLater
      · exact hItem.comma_notMem
      · exact ih text hLater

theorem le_of_items {texts : List Line}
    (hItems : List.Forall₂ (fun text item => Item text item.1 item.2) texts items) :
    ∀ item ∈ items, item.1 ≤ item.2 := by
  induction hItems with
  | nil => exact fun item hMem => absurd hMem List.not_mem_nil
  | cons hItem _ ih =>
      intro item hMem
      rcases List.mem_cons.mp hMem with rfl | hLater
      · exact hItem.le
      · exact ih item hLater

/-- Exactly the lists of numbers and of ranges are read, and the events they name are taken. -/
theorem parseDtmfEventSet_eq_ok :
    parseDtmfEventSet value = .ok events ↔ ∃ items, EventList value items ∧
      Denotes items events := by
  constructor
  · intro hParse
    obtain ⟨ranges, hRanges, hParse⟩ := ok_of_bind hParse
    split at hParse
    · exact absurd hParse (by simp)
    · rename_i hSome
      obtain rfl := Except.ok.inj hParse
      obtain ⟨items, hItems, rfl⟩ := items_of_events (forall₂_of_mapM hRanges)
      refine ⟨items, ⟨?_, _, (List.intercalate_splitOn ',').symm, hItems⟩, denotes_eventSet items⟩
      rintro rfl
      exact hSome rfl
  · rintro ⟨items, ⟨hSome, texts, hText, hItems⟩, hDenotes⟩
    have hTexts : texts ≠ [] := by
      rintro rfl
      exact hSome (List.forall₂_nil_left_iff.mp hItems)
    have hRead : List.Forall₂ (fun text events => parseDtmfEvents value text = .ok events) texts
        (items.map fun item => eventRange item.1 item.2) := by
      rw [List.forall₂_map_right_iff]
      exact hItems.imp fun text item hItem => parseDtmfEvents_eq_ok.mpr ⟨_, _, hItem, rfl⟩
    have hEvents : ((items.map fun item => eventRange item.1 item.2).flatten).isEmpty = false := by
      obtain ⟨item, hMem⟩ := List.exists_mem_of_ne_nil items hSome
      rw [List.isEmpty_eq_false_iff]
      apply List.ne_nil_of_mem
      exact List.mem_flatten.mpr ⟨_, List.mem_map_of_mem hMem,
        mem_eventRange.mpr ⟨UInt8.le_refl _, le_of_items hItems item hMem⟩⟩
    rw [parseDtmfEventSet, hText,
      List.splitOn_intercalate ',' (comma_notMem_of_items hItems) hTexts]
    apply bind_of_ok (mapM_of_forall₂ hRead)
    rw [if_neg (by rw [hEvents]; exact Bool.false_ne_true),
      (denotes_eventSet items).unique hDenotes]
    rfl

end Set

end VoipSwitch.Sdp
