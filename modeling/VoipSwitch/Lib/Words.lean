import Mathlib.Data.List.Basic
import Mathlib.Data.List.DropRight

/-! The words and the lines of a text, over any alphabet. -/
namespace Words

variable {α : Type}

section Word

/-- The parts of a text between blanks. -/
def words (blank : α → Bool) (text : List α) : List (List α) :=
  (text.splitOnP blank).filter fun word => !word.isEmpty

/-- A word has letters, and no blank among them. -/
def IsWord (blank : α → Bool) (word : List α) : Prop :=
  word ≠ [] ∧ ∀ c ∈ word, blank c = false

variable {blank : α → Bool} {space : α} {word text : List α} {tokens : List (List α)}

theorem words_append_cons (hWord : IsWord blank word) (hSpace : blank space = true) :
    words blank (word ++ space :: text) = word :: words blank text := by
  have hKept : (!word.isEmpty) = true := by
    rw [Bool.not_eq_true', List.isEmpty_eq_false_iff]
    exact hWord.1
  rw [words, List.splitOnP_append_cons_of_forall_mem hWord.2 space hSpace, List.filter_cons,
    if_pos hKept]
  rfl

theorem words_eq_singleton (hWord : IsWord blank word) : words blank word = [word] := by
  have hKept : (!word.isEmpty) = true := by
    rw [Bool.not_eq_true', List.isEmpty_eq_false_iff]
    exact hWord.1
  rw [words, List.splitOnP_eq_singleton hWord.2, List.filter_cons, if_pos hKept, List.filter_nil]

/-- Words that are set with single spaces are found again. -/
theorem words_intercalate (hSpace : blank space = true) (hTokens : ∀ w ∈ tokens, IsWord blank w) :
    words blank ([space].intercalate tokens) = tokens := by
  induction tokens with
  | nil => simp [words]
  | cons word tokens ih =>
      have hWord := hTokens word List.mem_cons_self
      cases tokens with
      | nil => simpa using words_eq_singleton hWord
      | cons next tokens =>
          rw [List.intercalate_cons_cons, List.append_assoc, List.singleton_append,
            words_append_cons hWord hSpace, ih fun w hMem =>
              hTokens w (List.mem_cons_of_mem _ hMem)]

/-- The parts that a text is split into have no separator in them. -/
theorem letter_of_mem_splitOnP (hPart : word ∈ text.splitOnP blank) :
    ∀ c ∈ word, blank c = false := by
  induction text generalizing word with
  | nil =>
      rw [List.splitOnP_nil, List.mem_singleton] at hPart
      rw [hPart]
      exact fun c hChar => absurd hChar List.not_mem_nil
  | cons c text ih =>
      rw [List.splitOnP_cons_eq_if_modifyHead] at hPart
      split at hPart
      · rcases List.mem_cons.mp hPart with rfl | hLater
        · exact fun c hChar => absurd hChar List.not_mem_nil
        · exact ih hLater
      · rename_i hLetter
        cases hSplit : List.splitOnP blank text with
        | nil => exact absurd hSplit (List.splitOnP_ne_nil blank text)
        | cons first others =>
            rw [hSplit, List.modifyHead_cons] at hPart
            rw [hSplit] at ih
            rcases List.mem_cons.mp hPart with rfl | hLater
            · intro x hChar
              rcases List.mem_cons.mp hChar with rfl | hRest
              · exact Bool.eq_false_iff.mpr hLetter
              · exact ih List.mem_cons_self x hRest
            · exact ih (List.mem_cons_of_mem _ hLater)

theorem isWord_of_mem_words (hMem : word ∈ words blank text) : IsWord blank word := by
  obtain ⟨hPart, hKept⟩ := List.mem_filter.mp hMem
  rw [Bool.not_eq_true', List.isEmpty_eq_false_iff] at hKept
  exact ⟨hKept, letter_of_mem_splitOnP hPart⟩

end Word

section Trimming

variable {blank : α → Bool} {before core after text : List α}

/-- No blank stands at either end of a text. -/
structure Bare (blank : α → Bool) (text : List α) : Prop where
  first : ∀ c ∈ text.head?, blank c = false
  last : ∀ c ∈ text.getLast?, blank c = false

theorem dropWhile_of_head (hFirst : ∀ c ∈ text.head?, blank c = false) :
    text.dropWhile blank = text := by
  cases text with
  | nil => rfl
  | cons c text => rw [List.dropWhile_cons, hFirst c rfl, if_neg Bool.false_ne_true]

theorem rdropWhile_append (hAfter : ∀ c ∈ after, blank c = true) :
    (text ++ after).rdropWhile blank = text.rdropWhile blank := by
  have hReverse : ∀ c ∈ after.reverse, blank c = true := fun c hMem =>
    hAfter c (List.mem_reverse.mp hMem)
  rw [List.rdropWhile, List.reverse_append, List.dropWhile_append_of_pos hReverse, List.rdropWhile]

theorem rdropWhile_of_getLast (hLast : ∀ c ∈ text.getLast?, blank c = false) :
    text.rdropWhile blank = text := by
  rw [List.rdropWhile, dropWhile_of_head, List.reverse_reverse]
  intro c hMem
  rw [List.head?_reverse] at hMem
  exact hLast c hMem

/-- The blanks around a bare text are taken off. -/
theorem trim_append (hBefore : ∀ c ∈ before, blank c = true)
    (hAfter : ∀ c ∈ after, blank c = true) (hBare : Bare blank core) :
    ((before ++ core ++ after).dropWhile blank).rdropWhile blank = core := by
  rw [List.append_assoc, List.dropWhile_append_of_pos hBefore]
  cases core with
  | nil =>
      have hNothing : after.dropWhile blank = [] := List.dropWhile_eq_nil_iff.mpr hAfter
      rw [List.nil_append, hNothing]
      rfl
  | cons c core =>
      have hFront : (c :: core ++ after).dropWhile blank = c :: core ++ after :=
        dropWhile_of_head hBare.first
      rw [hFront, rdropWhile_append hAfter, rdropWhile_of_getLast hBare.last]

/-- Nothing is left to take off. -/
theorem bare_trim (blank : α → Bool) (text : List α) :
    Bare blank ((text.dropWhile blank).rdropWhile blank) := by
  constructor
  · intro c hFirst
    have hHead := List.head?_dropWhile_not blank text
    obtain ⟨rest, hRest⟩ := List.rdropWhile_prefix blank (text.dropWhile blank)
    rw [← hRest, List.head?_append, Option.mem_def.mp hFirst] at hHead
    simpa using hHead
  · intro c hLast
    obtain ⟨hSome, rfl⟩ := List.mem_getLast?_eq_getLast hLast
    exact Bool.eq_false_iff.mpr (List.rdropWhile_last_not blank _ hSome)

/-- A text is what is left of it with blanks around. -/
theorem exists_trim (blank : α → Bool) (text : List α) :
    ∃ before after, (∀ c ∈ before, blank c = true) ∧ (∀ c ∈ after, blank c = true) ∧
      text = before ++ (text.dropWhile blank).rdropWhile blank ++ after := by
  have hSplit : text = text.takeWhile blank ++ ((text.dropWhile blank).rdropWhile blank ++
      (text.dropWhile blank).rtakeWhile blank) := by
    rw [List.rdropWhile_append_rtakeWhile, List.takeWhile_append_dropWhile]
  refine ⟨text.takeWhile blank, (text.dropWhile blank).rtakeWhile blank, ?_, ?_, ?_⟩
  · exact fun c hMem => List.mem_takeWhile_imp hMem
  · exact fun c hMem => List.mem_rtakeWhile_imp hMem
  · rw [List.append_assoc]
    exact hSplit

end Trimming

section Line

variable [DecidableEq α] {feed ret : α} {line text : List α} {lines : List (List α)}

/-- The parts of a text that end with a line feed, and what is left at its end. -/
def splitInclusive (feed : α) : List α → List (List α)
  | [] => []
  | c :: text =>
    if c = feed then [c] :: splitInclusive feed text
    else
      match splitInclusive feed text with
      | [] => [[c]]
      | line :: lines => (c :: line) :: lines

/-- What stands before the last letter, if that is the one given. -/
def stripEnd (last : α) (line : List α) : Option (List α) :=
  if line.getLast? = some last then some line.dropLast else none

/-- A line without its line feed, and without one return before that. -/
def chomp (feed ret : α) (line : List α) : List α :=
  match stripEnd feed line with
  | none => line
  | some line => (stripEnd ret line).getD line

def textLines (feed ret : α) (text : List α) : List (List α) :=
  (splitInclusive feed text).map (chomp feed ret)

theorem splitInclusive_append (hLine : feed ∉ line) :
    splitInclusive feed (line ++ feed :: text) = (line ++ [feed]) :: splitInclusive feed text := by
  induction line with
  | nil => rw [List.nil_append, splitInclusive, if_pos rfl, List.nil_append]
  | cons c line ih =>
      have hOther : c ≠ feed := fun h => hLine (h ▸ List.mem_cons_self)
      rw [List.cons_append, splitInclusive, if_neg hOther,
        ih fun hMem => hLine (List.mem_cons_of_mem _ hMem)]
      rfl

/-- Lines that are ended with a return and a line feed are found again. -/
theorem textLines_flatMap (hRet : ret ≠ feed) (hLines : ∀ line ∈ lines, feed ∉ line) :
    textLines feed ret (lines.flatMap fun line => line ++ [ret, feed]) = lines := by
  induction lines with
  | nil => rfl
  | cons line lines ih =>
      have hFeed : feed ∉ line ++ [ret] := by
        intro hMem
        rcases List.mem_append.mp hMem with hIn | hLast
        · exact hLines line List.mem_cons_self hIn
        · exact hRet (List.mem_singleton.mp hLast).symm
      have hLater := ih fun l hMem => hLines l (List.mem_cons_of_mem _ hMem)
      have hText : line ++ [ret, feed] ++ (lines.flatMap fun line => line ++ [ret, feed]) =
          (line ++ [ret]) ++ feed :: lines.flatMap fun line => line ++ [ret, feed] := by
        simp
      rw [textLines] at hLater ⊢
      rw [List.flatMap_cons, hText, splitInclusive_append hFeed, List.map_cons, hLater]
      simp [chomp, stripEnd]

theorem mem_splitInclusive {part : List α} (hMem : part ∈ splitInclusive feed text) :
    ∃ line, feed ∉ line ∧ (part = line ∨ part = line ++ [feed]) := by
  induction text generalizing part with
  | nil => exact absurd hMem List.not_mem_nil
  | cons c text ih =>
      rw [splitInclusive] at hMem
      split at hMem
      · rename_i hFeed
        rcases List.mem_cons.mp hMem with rfl | hLater
        · exact ⟨[], List.not_mem_nil, .inr (by rw [hFeed]; rfl)⟩
        · exact ih hLater
      · rename_i hOther
        have hAdd : ∀ {line : List α}, feed ∉ line → feed ∉ c :: line := by
          intro line hLine hIn
          rcases List.mem_cons.mp hIn with rfl | hRest
          · exact hOther rfl
          · exact hLine hRest
        split at hMem
        · obtain rfl := List.mem_singleton.mp hMem
          exact ⟨[c], hAdd List.not_mem_nil, .inl rfl⟩
        · rename_i first others hSplit
          rw [hSplit] at ih
          rcases List.mem_cons.mp hMem with rfl | hLater
          · obtain ⟨line, hLine, hEq⟩ := ih List.mem_cons_self
            refine ⟨c :: line, hAdd hLine, ?_⟩
            rcases hEq with rfl | rfl
            · exact .inl rfl
            · exact .inr rfl
          · exact ih (List.mem_cons_of_mem _ hLater)

theorem notMem_chomp {part : List α} (hLine : feed ∉ line)
    (hPart : part = line ∨ part = line ++ [feed]) : feed ∉ chomp feed ret part := by
  intro hMem
  rw [chomp, stripEnd] at hMem
  rcases hPart with rfl | rfl
  · have hLast : part.getLast? ≠ some feed := fun h => hLine (List.mem_of_getLast? h)
    rw [if_neg hLast] at hMem
    exact hLine hMem
  · rw [if_pos List.getLast?_concat, List.dropLast_concat] at hMem
    simp only [stripEnd] at hMem
    split at hMem
    · exact hLine (List.dropLast_subset line hMem)
    · exact hLine hMem

/-- No line holds a line feed. -/
theorem feed_notMem_textLines (hMem : line ∈ textLines feed ret text) : feed ∉ line := by
  obtain ⟨part, hPart, rfl⟩ := List.mem_map.mp hMem
  obtain ⟨line, hLine, hEq⟩ := mem_splitInclusive hPart
  exact notMem_chomp hLine hEq

end Line

end Words
