import VoipSwitch.Media.EventSets
import VoipSwitch.Media.Relaying

/-! The payloads of a description that the switch accepts, against the attributes of its stream. -/
namespace VoipSwitch.Sdp

open Media (DtmfCapability)
open Words

section Grammar

/-- A line that gives a text for a payload type: the name of the attribute, the number of the type,
and after blanks the text, which neither begins nor ends with one. -/
def Attribute (name : String) (payloadType : UInt8) (line text : Line) : Prop :=
  payloadType ≤ 127 ∧ Bare isWhitespace text ∧ ∃ number gap after,
    Decimal number payloadType.toNat ∧ gap ≠ [] ∧ (∀ c ∈ gap, isWhitespace c = true) ∧
      (∀ c ∈ after, isWhitespace c = true) ∧ line = name.toList ++ number ++ gap ++ text ++ after

/-- A number other than zero, of so many bits. -/
def Positive (bits : Nat) (text : Line) (n : Nat) : Prop := Decimal text n ∧ 0 < n ∧ n < 2 ^ bits

/-- The encoding and its clock rate, with or without a number of channels: `opus/48000/2`. -/
inductive Mapping : Line → Rtpmap → Prop where
  | plain {encoding clock : Line} {clockRate : Nat} (named : encoding ≠ [])
      (whole : '/' ∉ encoding) (rate : Positive 32 clock clockRate) :
      Mapping (encoding ++ '/' :: clock) ⟨String.ofList encoding, clockRate, none⟩
  | counted {encoding clock number : Line} {clockRate channels : Nat} (named : encoding ≠ [])
      (whole : '/' ∉ encoding) (rate : Positive 32 clock clockRate)
      (count : Positive 8 number channels) :
      Mapping (encoding ++ '/' :: (clock ++ '/' :: number))
        ⟨String.ofList encoding, clockRate, some channels⟩

def MapsTo (payloadType : UInt8) (line : Line) (rtpmap : Rtpmap) : Prop :=
  ∃ text, Attribute "a=rtpmap:" payloadType line text ∧ Mapping text rtpmap

def Parameterizes (payloadType : UInt8) (line : Line) (fmtp : String) : Prop :=
  fmtp ≠ "" ∧ Attribute "a=fmtp:" payloadType line fmtp.toList

/-- What the one line that gives anything gives, if there is such a line. -/
inductive Given {α : Type} (Gives : Line → α → Prop) (lines : List Line) : Option α → Prop where
  | absent (nowhere : ∀ line ∈ lines, ∀ a, ¬ Gives line a) : Given Gives lines none
  | present {before after : List Line} {line : Line} {a : α}
      (place : lines = before ++ line :: after) (gives : Gives line a)
      (nowhere : ∀ other ∈ before ++ after, ∀ b, ¬ Gives other b) : Given Gives lines (some a)

/-- The attributes that map payload types, and those that give them parameters, are well formed. -/
structure WellFormed (lines : List Line) : Prop where
  rtpmap : ∀ line ∈ lines, startsWith "a=rtpmap:" line = true →
    ∃ payloadType rtpmap, MapsTo payloadType line rtpmap
  fmtp : ∀ line ∈ lines, startsWith "a=fmtp:" line = true →
    ∃ payloadType fmtp, Parameterizes payloadType line fmtp

/-- A payload as the attributes describe its type: there is at most one mapping of the type and at
most one line with its parameters. -/
def Carries (lines : List Line) (payloadType : UInt8) (payload : AudioPayload) : Prop :=
  ∃ (rtpmap : Option Rtpmap) (fmtp : Option String),
    Given (MapsTo payloadType) lines rtpmap ∧ Given (Parameterizes payloadType) lines fmtp ∧
      payload =
        { payloadType
          encoding := rtpmap.map (·.encoding)
          clockRate := rtpmap.map (·.clockRate)
          channels := rtpmap.bind (·.channels)
          fmtp }

variable {name : String} {line value number rest text : Line} {payloadType named : UInt8}
  {error : SdpError} {bits n : Nat} {rtpmap : Rtpmap} {fmtp : String}

theorem stripPrefix_eq_some : stripPrefix name line = some value ↔ line = name.toList ++ value := by
  rw [stripPrefix, List.isPrefixOf?_eq_some_iff_append_eq, eq_comm]

theorem parseAttributePayloadType_eq_ok :
    parseAttributePayloadType number error = .ok payloadType ↔
      Decimal number payloadType.toNat ∧ payloadType ≤ 127 := by
  rw [parseAttributePayloadType, UInt8.le_iff_toNat_le]
  constructor
  · intro hParse
    split at hParse
    · rename_i n hNumber
      obtain rfl := Except.ok.inj hParse
      obtain ⟨hNumber, hSmall⟩ := Option.filter_eq_some_iff.mp hNumber
      obtain ⟨hText, hByte⟩ := parseNumber_eq_some.mp hNumber
      rw [UInt8.toNat_ofNat_of_lt' hByte]
      exact ⟨hText, of_decide_eq_true hSmall⟩
    · cases hParse
  · rintro ⟨hText, hSmall⟩
    have hNumber := parseNumber_eq_some.mpr ⟨hText, payloadType.toNat_lt⟩
    rw [hNumber, Option.filter_some, if_pos (by simpa using hSmall)]
    exact congrArg Except.ok UInt8.ofNat_toNat

theorem parsePositive_eq_ok : parsePositive bits text error = .ok n ↔ Positive bits text n := by
  rw [parsePositive, Positive]
  constructor
  · intro hParse
    split at hParse
    · rename_i hNumber
      obtain rfl := Except.ok.inj hParse
      obtain ⟨hNumber, hPositive⟩ := Option.filter_eq_some_iff.mp hNumber
      obtain ⟨hText, hSmall⟩ := parseNumber_eq_some.mp hNumber
      exact ⟨hText, of_decide_eq_true hPositive, hSmall⟩
    · cases hParse
  · rintro ⟨hText, hPositive, hSmall⟩
    rw [parseNumber_eq_some.mpr ⟨hText, hSmall⟩, Option.filter_some,
      if_pos (decide_eq_true hPositive)]

theorem Positive.slash_notMem (h : Positive bits text n) : '/' ∉ text := by
  intro hSlash
  rcases h.1.sign_or_digit '/' hSlash with hSign | hDigit
  · exact absurd hSign (by decide)
  · exact absurd hDigit (by decide)

/-- What stands before the first blank of a value, and what follows it once trimmed, are the type
and the text of the attribute. -/
theorem attribute_iff (hStrip : stripPrefix name line = some value) :
    Attribute name payloadType line text ↔ ∃ number rest,
      splitOnceBlank value = some (number, rest) ∧ Decimal number payloadType.toNat ∧
        payloadType ≤ 127 ∧ trimLine rest = text := by
  rw [stripPrefix_eq_some] at hStrip
  constructor
  · rintro ⟨hType, hBare, number, gap, after, hNumber, hGap, hBlank, hAfter, hLine⟩
    obtain ⟨c, gap, rfl⟩ := List.exists_cons_of_ne_nil hGap
    have hValue : value = number ++ c :: (gap ++ text ++ after) := by
      rw [hStrip] at hLine
      simpa using hLine
    have hSpan : value.span (fun c => !isWhitespace c) = (number, c :: (gap ++ text ++ after)) := by
      rw [hValue]
      apply span_append
      · intro d hMem
        rw [(hNumber.letter d hMem).1]
        rfl
      · intro d hHead
        rw [← Option.some.inj hHead, hBlank c List.mem_cons_self]
        rfl
    refine ⟨number, gap ++ text ++ after, ?_, hNumber, hType, ?_⟩
    · rw [splitOnceBlank, hSpan]
    · exact trim_append (fun d hMem => hBlank d (List.mem_cons_of_mem _ hMem)) hAfter hBare
  · rintro ⟨number, rest, hSplit, hNumber, hType, rfl⟩
    refine ⟨hType, bare_trim isWhitespace rest, number, ?_⟩
    rw [splitOnceBlank] at hSplit
    split at hSplit
    · cases hSplit
    · rename_i first c second hSpan
      obtain ⟨rfl, rfl⟩ := Prod.mk.inj (Option.some.inj hSplit)
      obtain ⟨hValue, -, hStop⟩ := of_span hSpan
      obtain ⟨before, after, hBefore, hAfter, hRest⟩ := exists_trim isWhitespace second
      refine ⟨c :: before, after, hNumber, List.cons_ne_nil _ _, ?_, hAfter, ?_⟩
      · intro d hMem
        rcases List.mem_cons.mp hMem with rfl | hLater
        · simpa using hStop d rfl
        · exact hBefore d hLater
      · have hJoined : c :: second = c :: before ++ trimLine second ++ after :=
          congrArg (c :: ·) hRest
        rw [hStrip, hValue, hJoined]
        simp only [List.append_assoc]

theorem slash_notMem_of_splitOn {part : Line} (hMem : part ∈ text.splitOn '/') : '/' ∉ part := by
  rw [List.splitOn_eq_splitOnP] at hMem
  intro hSlash
  exact absurd (letter_of_mem_splitOnP hMem '/' hSlash) (by decide)

/-- Exactly the lines that map a payload type are read. -/
theorem parseRtpmap_eq_ok (hStrip : stripPrefix "a=rtpmap:" line = some value) :
    parseRtpmap value line = .ok (payloadType, rtpmap) ↔ MapsTo payloadType line rtpmap := by
  constructor
  · intro hParse
    rw [parseRtpmap] at hParse
    split at hParse
    · cases hParse
    · rename_i number rest hSplit
      obtain ⟨named, hType, hParse⟩ := ok_of_bind hParse
      obtain ⟨hNumber, hSmall⟩ := parseAttributePayloadType_eq_ok.mp hType
      have hParts : ['/'].intercalate ((trimLine rest).splitOn '/') = trimLine rest :=
        List.intercalate_splitOn '/'
      split at hParse
      · rename_i encoding clock hTwo
        split at hParse
        · cases hParse
        · rename_i hNamed
          obtain ⟨clockRate, hRate, hParse⟩ := ok_of_bind hParse
          obtain ⟨rfl, rfl⟩ := Prod.mk.inj (Except.ok.inj hParse)
          refine ⟨_, (attribute_iff hStrip).mpr ⟨number, rest, hSplit, hNumber, hSmall, rfl⟩, ?_⟩
          have hJoined : ['/'].intercalate [encoding, clock] = encoding ++ '/' :: clock := by simp
          rw [← hParts, hTwo, hJoined]
          exact .plain (by simpa using hNamed)
            (slash_notMem_of_splitOn (hTwo ▸ List.mem_cons_self)) (parsePositive_eq_ok.mp hRate)
      · rename_i encoding clock count hThree
        split at hParse
        · cases hParse
        · rename_i hNamed
          obtain ⟨clockRate, hRate, hParse⟩ := ok_of_bind hParse
          obtain ⟨channels, hCount, hParse⟩ := ok_of_bind hParse
          obtain ⟨rfl, rfl⟩ := Prod.mk.inj (Except.ok.inj hParse)
          refine ⟨_, (attribute_iff hStrip).mpr ⟨number, rest, hSplit, hNumber, hSmall, rfl⟩, ?_⟩
          have hJoined : ['/'].intercalate [encoding, clock, count] =
              encoding ++ '/' :: (clock ++ '/' :: count) := by simp
          rw [← hParts, hThree, hJoined]
          exact .counted (by simpa using hNamed)
            (slash_notMem_of_splitOn (hThree ▸ List.mem_cons_self)) (parsePositive_eq_ok.mp hRate)
            (parsePositive_eq_ok.mp hCount)
      · cases hParse
  · rintro ⟨text, hAttribute, hMapping⟩
    obtain ⟨number, rest, hSplit, hNumber, hSmall, rfl⟩ := (attribute_iff hStrip).mp hAttribute
    generalize hText : trimLine rest = text at hMapping
    simp only [parseRtpmap, hSplit, hText]
    apply bind_of_ok (parseAttributePayloadType_eq_ok.mpr ⟨hNumber, hSmall⟩)
    cases hMapping with
    | plain hNamed hWhole hRate =>
        rw [List.splitOn_append_cons_self_of_not_mem hWhole,
          List.splitOn_eq_singleton hRate.slash_notMem]
        simp only
        rw [if_neg (by simpa using hNamed)]
        exact bind_of_ok (parsePositive_eq_ok.mpr hRate) rfl
    | counted hNamed hWhole hRate hCount =>
        rw [List.splitOn_append_cons_self_of_not_mem hWhole,
          List.splitOn_append_cons_self_of_not_mem hRate.slash_notMem,
          List.splitOn_eq_singleton hCount.slash_notMem]
        simp only
        rw [if_neg (by simpa using hNamed)]
        apply bind_of_ok (parsePositive_eq_ok.mpr hRate)
        exact bind_of_ok (parsePositive_eq_ok.mpr hCount) rfl

/-- Exactly the lines that give a payload type parameters are read. -/
theorem parseFmtp_eq_ok (hStrip : stripPrefix "a=fmtp:" line = some value) :
    parseFmtp value line = .ok (payloadType, fmtp) ↔ Parameterizes payloadType line fmtp := by
  constructor
  · intro hParse
    rw [parseFmtp] at hParse
    split at hParse
    · cases hParse
    · rename_i number rest hSplit
      obtain ⟨named, hType, hParse⟩ := ok_of_bind hParse
      obtain ⟨hNumber, hSmall⟩ := parseAttributePayloadType_eq_ok.mp hType
      simp only at hParse
      split at hParse
      · cases hParse
      · rename_i hSome
        obtain ⟨rfl, rfl⟩ := Prod.mk.inj (Except.ok.inj hParse)
        refine ⟨fun hEmpty => hSome ?_, (attribute_iff hStrip).mpr
          ⟨number, rest, hSplit, hNumber, hSmall, String.toList_ofList.symm⟩⟩
        rw [String.ofList_eq_empty_iff.mp hEmpty]
        rfl
  · rintro ⟨hSome, hAttribute⟩
    obtain ⟨number, rest, hSplit, hNumber, hSmall, hText⟩ := (attribute_iff hStrip).mp hAttribute
    simp only [parseFmtp, hSplit, hText]
    apply bind_of_ok (parseAttributePayloadType_eq_ok.mpr ⟨hNumber, hSmall⟩)
    rw [if_neg (by simpa using hSome), String.ofList_toList]
    rfl

end Grammar

section Attributes

/-- The entries hold what the lines give for the payload types on offer. -/
def Held {α : Type} (offered : List UInt8) (lines : List Line)
    (Gives : UInt8 → Line → α → Prop) (entries : List (UInt8 × α)) : Prop :=
  ∀ payloadType ∈ offered, Given (Gives payloadType) lines (entries.lookup payloadType)

/-- The maps hold what the lines say about the payload types on offer. -/
structure Gathered (offered : List UInt8) (lines : List Line) (maps : PayloadMaps) : Prop where
  wellFormed : WellFormed lines
  rtpmaps : Held offered lines MapsTo maps.rtpmaps
  fmtps : Held offered lines Parameterizes maps.fmtps

variable {α : Type} {offered : List UInt8} {lines : List Line} {line value : Line}
  {maps maps' : PayloadMaps} {payloadType named : UInt8} {name : String} {text : Line} {x : α}
  {Gives : UInt8 → Line → α → Prop} {entries : List (UInt8 × α)}

theorem startsWith_iff :
    startsWith name line = true ↔ ∃ value, stripPrefix name line = some value := by
  rw [startsWith, List.isPrefixOf_iff_prefix]
  constructor
  · rintro ⟨value, hValue⟩
    exact ⟨value, stripPrefix_eq_some.mpr hValue.symm⟩
  · rintro ⟨value, hStrip⟩
    exact ⟨value, (stripPrefix_eq_some.mp hStrip).symm⟩

theorem Attribute.startsWith (h : Attribute name payloadType line text) :
    startsWith name line = true := by
  obtain ⟨-, -, number, gap, after, -, -, -, -, rfl⟩ := h
  rw [Sdp.startsWith, List.isPrefixOf_iff_prefix]
  simp only [List.append_assoc]
  exact List.prefix_append _ _

theorem not_mapsTo {rtpmap : Rtpmap} (hOther : Sdp.startsWith "a=rtpmap:" line = false) :
    ¬ MapsTo payloadType line rtpmap := by
  rintro ⟨text, hAttribute, -⟩
  exact absurd hAttribute.startsWith (Bool.eq_false_iff.mp hOther)

theorem not_parameterizes {fmtp : String} (hOther : Sdp.startsWith "a=fmtp:" line = false) :
    ¬ Parameterizes payloadType line fmtp := fun h =>
  absurd h.2.startsWith (Bool.eq_false_iff.mp hOther)

theorem Given.skip {G : Line → α → Prop} {given : Option α} (h : Given G lines given)
    (hNot : ∀ a, ¬ G line a) : Given G (lines ++ [line]) given := by
  have hAll : ∀ past : List Line, (∀ l ∈ past, ∀ a, ¬ G l a) →
      ∀ l ∈ past ++ [line], ∀ a, ¬ G l a := by
    intro past hPast l hMem
    rcases List.mem_append.mp hMem with hOld | hNew
    · exact hPast l hOld
    · rwa [List.mem_singleton.mp hNew]
  cases h with
  | absent hNowhere => exact .absent (hAll lines hNowhere)
  | present hPlace hGives hNowhere =>
      refine .present (by rw [hPlace, List.append_assoc, List.cons_append]) hGives ?_
      rw [← List.append_assoc]
      exact hAll _ hNowhere

/-- A line that gives nothing for the payload types on offer is passed over. -/
theorem Held.skip (h : Held offered lines Gives entries) (line : Line)
    (hNot : ∀ payloadType ∈ offered, ∀ a, ¬ Gives payloadType line a) :
    Held offered (lines ++ [line]) Gives entries := fun payloadType hOffered =>
  (h payloadType hOffered).skip (hNot payloadType hOffered)

/-- The first line that gives something for a payload type is taken up. -/
theorem Held.add (h : Held offered lines Gives entries) (hNew : entries.lookup named = none)
    (hGives : Gives named line x) (hOnly : ∀ payloadType a, Gives payloadType line a →
      payloadType = named) : Held offered (lines ++ [line]) Gives ((named, x) :: entries) := by
  intro payloadType hOffered
  have hOld := h payloadType hOffered
  rw [List.lookup_cons]
  by_cases hSame : payloadType = named
  · subst hSame
    rw [hNew] at hOld
    cases hOld with
    | absent hNowhere =>
        rw [beq_self_eq_true]
        exact .present rfl hGives (by rwa [List.append_nil])
  · rw [beq_eq_false_iff_ne.mpr hSame]
    exact hOld.skip fun a hOther => hSame (hOnly payloadType a hOther)

theorem WellFormed.concat (h : WellFormed lines) (line : Line)
    (hRtpmap : startsWith "a=rtpmap:" line = true →
      ∃ payloadType rtpmap, MapsTo payloadType line rtpmap)
    (hFmtp : startsWith "a=fmtp:" line = true →
      ∃ payloadType fmtp, Parameterizes payloadType line fmtp) :
    WellFormed (lines ++ [line]) := by
  constructor
  · intro l hMem
    rcases List.mem_append.mp hMem with hOld | hNew
    · exact h.rtpmap l hOld
    · rwa [List.mem_singleton.mp hNew]
  · intro l hMem
    rcases List.mem_append.mp hMem with hOld | hNew
    · exact h.fmtp l hOld
    · rwa [List.mem_singleton.mp hNew]

/-- A line adds to the maps what it says about a payload type on offer. -/
theorem Gathered.step (h : Gathered offered lines maps)
    (hRead : readPayloadLine offered maps line = .ok maps') :
    Gathered offered (lines ++ [line]) maps' := by
  rw [readPayloadLine] at hRead
  split at hRead
  · rename_i value hStrip
    obtain ⟨⟨named, rtpmap⟩, hParse, hRead⟩ := ok_of_bind hRead
    simp only at hRead
    have hMaps := (parseRtpmap_eq_ok hStrip).mp hParse
    have hOnly : ∀ payloadType rtpmap, MapsTo payloadType line rtpmap → payloadType = named := by
      intro payloadType rtpmap hOther
      have hSame := (parseRtpmap_eq_ok hStrip).mpr hOther
      rw [hParse] at hSame
      exact (Prod.mk.inj (Except.ok.inj hSame)).1.symm
    have hNoFmtp : startsWith "a=fmtp:" line = false :=
      startsWith_disjoint (by decide) (by decide) (startsWith_iff.mpr ⟨value, hStrip⟩)
    have hWell : WellFormed (lines ++ [line]) := h.wellFormed.concat line (fun _ => ⟨_, _, hMaps⟩)
      fun hStart => absurd hStart (Bool.eq_false_iff.mp hNoFmtp)
    have hFmtps := h.fmtps.skip line fun _ _ _ => not_parameterizes hNoFmtp
    split at hRead
    · rename_i hNot
      obtain rfl := Except.ok.inj hRead
      exact ⟨hWell, h.rtpmaps.skip line fun other hOffered a hOther =>
        hNot (hOnly other a hOther ▸ hOffered), hFmtps⟩
    · split at hRead
      · cases hRead
      · rename_i hNew
        obtain rfl := Except.ok.inj hRead
        exact ⟨hWell, h.rtpmaps.add (Option.not_isSome_iff_eq_none.mp hNew) hMaps hOnly, hFmtps⟩
  · rename_i hNone
    have hNoRtpmap : startsWith "a=rtpmap:" line = false := by
      apply Bool.eq_false_iff.mpr
      intro hStart
      obtain ⟨value, hStrip⟩ := startsWith_iff.mp hStart
      rw [hNone] at hStrip
      cases hStrip
    have hRtpmaps := h.rtpmaps.skip line fun _ _ _ => not_mapsTo hNoRtpmap
    have hWell := h.wellFormed.concat line fun hStart =>
      absurd hStart (Bool.eq_false_iff.mp hNoRtpmap)
    split at hRead
    · rename_i value hStrip
      obtain ⟨⟨named, fmtp⟩, hParse, hRead⟩ := ok_of_bind hRead
      simp only at hRead
      have hGives := (parseFmtp_eq_ok hStrip).mp hParse
      have hOnly : ∀ payloadType fmtp, Parameterizes payloadType line fmtp →
          payloadType = named := by
        intro payloadType fmtp hOther
        have hSame := (parseFmtp_eq_ok hStrip).mpr hOther
        rw [hParse] at hSame
        exact (Prod.mk.inj (Except.ok.inj hSame)).1.symm
      split at hRead
      · rename_i hNot
        obtain rfl := Except.ok.inj hRead
        refine ⟨hWell fun _ => ⟨_, _, hGives⟩, hRtpmaps, h.fmtps.skip line ?_⟩
        exact fun other hOffered a hOther => hNot (hOnly other a hOther ▸ hOffered)
      · split at hRead
        · cases hRead
        · rename_i hNew
          obtain rfl := Except.ok.inj hRead
          exact ⟨hWell fun _ => ⟨_, _, hGives⟩, hRtpmaps,
            h.fmtps.add (Option.not_isSome_iff_eq_none.mp hNew) hGives hOnly⟩
    · rename_i hNone
      obtain rfl := Except.ok.inj hRead
      have hNoFmtp : startsWith "a=fmtp:" line = false := by
        apply Bool.eq_false_iff.mpr
        intro hStart
        obtain ⟨value, hStrip⟩ := startsWith_iff.mp hStart
        rw [hNone] at hStrip
        cases hStrip
      exact ⟨hWell fun hStart => absurd hStart (Bool.eq_false_iff.mp hNoFmtp), hRtpmaps,
        h.fmtps.skip line fun _ _ _ => not_parameterizes hNoFmtp⟩

/-- What each step keeps for what has been read so far is true of all in the end. -/
theorem of_foldlM {ε σ β : Type} {f : σ → β → Except ε σ} {Inv : List β → σ → Prop}
    (hStep : ∀ past x s t, Inv past s → f s x = .ok t → Inv (past ++ [x]) t) {xs past : List β}
    {s t : σ} (hFirst : Inv past s) (hFold : xs.foldlM f s = .ok t) : Inv (past ++ xs) t := by
  induction xs generalizing past s with
  | nil =>
      obtain rfl := Except.ok.inj hFold
      rwa [List.append_nil]
  | cons x xs ih =>
      rw [List.foldlM_cons] at hFold
      obtain ⟨next, hNext, hRest⟩ := ok_of_bind hFold
      have hAll := ih (hStep past x s next hFirst hNext) hRest
      rwa [List.append_assoc] at hAll

theorem gathered_of_foldlM (hFold : lines.foldlM (readPayloadLine offered) ⟨[], []⟩ = .ok maps) :
    Gathered offered lines maps := by
  have hNothing : Gathered offered [] ⟨[], []⟩ :=
    ⟨⟨by simp, by simp⟩, fun _ _ => .absent (by simp), fun _ _ => .absent (by simp)⟩
  exact of_foldlM (fun past line maps maps' h hRead => h.step hRead) hNothing hFold

theorem Gathered.carries (h : Gathered offered lines maps) :
    List.Forall₂ (Carries lines) offered (offered.map maps.payload) := by
  rw [List.forall₂_map_right_iff, List.forall₂_same]
  intro payloadType hOffered
  exact ⟨_, _, h.rtpmaps payloadType hOffered, h.fmtps payloadType hOffered, rfl⟩

end Attributes

section TelephoneEvents

/-- The payload is mapped to telephone events. -/
def isTelephoneEvent (payload : AudioPayload) : Bool :=
  payload.encoding.any (eqIgnoreAsciiCase · "telephone-event")

/-- The capability is that of the payload: its parameters name the events, and without parameters
these are the first sixteen. -/
structure Describes (payload : AudioPayload) (capability : DtmfCapability) : Prop where
  payloadType : capability.payloadType = payload.payloadType
  clockRate : payload.clockRate = some capability.clockRate
  listed : ∀ value ∈ payload.fmtp, ∃ items, EventList value items ∧
    Denotes items capability.events
  unlisted : payload.fmtp = none → Denotes [(0, 15)] capability.events
  detectable : capability.detectable =
    (capability.clockRate = 8000 && capability.events.any (· ≤ 15))

/-- What the switch makes of the payloads that carry telephone events. -/
inductive TelephoneEvents (payloads : List AudioPayload) : Option DtmfCapability → Prop where
  | absent (nowhere : payloads.filter isTelephoneEvent = []) : TelephoneEvents payloads none
  | present {payload : AudioPayload} {capability : DtmfCapability}
      (once : payloads.filter isTelephoneEvent = [payload])
      (describes : Describes payload capability) : TelephoneEvents payloads (some capability)

variable {payloads : List AudioPayload} {payload : AudioPayload}
  {found found' : Option DtmfCapability}

theorem describes_of_events {clockRate : Nat} {events : List UInt8}
    (hClock : payload.clockRate = some clockRate)
    (hEvents : (match payload.fmtp with
      | some value => parseDtmfEventSet value
      | none => pure (eventRange 0 15)) = .ok events) :
    Describes payload
      { payloadType := payload.payloadType, clockRate, events,
        detectable := clockRate = 8000 && events.any (· ≤ 15) } := by
  refine ⟨rfl, hClock, ?_, ?_, rfl⟩
  · intro value hValue
    rw [Option.mem_def.mp hValue] at hEvents
    exact parseDtmfEventSet_eq_ok.mp hEvents
  · intro hNone
    rw [hNone] at hEvents
    obtain rfl := Except.ok.inj hEvents
    exact denotes_eventRange 0 15

theorem TelephoneEvents.step (h : TelephoneEvents payloads found)
    (hRead : readTelephoneEvent found payload = .ok found') :
    TelephoneEvents (payloads ++ [payload]) found' := by
  have hFilter : (payloads ++ [payload]).filter isTelephoneEvent =
      payloads.filter isTelephoneEvent ++ if isTelephoneEvent payload then [payload] else [] := by
    rw [List.filter_append, List.filter_singleton]
    cases isTelephoneEvent payload <;> rfl
  rw [readTelephoneEvent] at hRead
  split at hRead
  · rename_i hOther
    have hNot : isTelephoneEvent payload = false := by
      simpa [isTelephoneEvent] using hOther
    obtain rfl := Except.ok.inj hRead
    rw [hNot, if_neg Bool.false_ne_true, List.append_nil] at hFilter
    cases h with
    | absent hNowhere => exact .absent (hFilter.trans hNowhere)
    | present hOnce hDescribes => exact .present (hFilter.trans hOnce) hDescribes
  · rename_i hTelephone
    have hIs : isTelephoneEvent payload = true := by
      simpa [isTelephoneEvent] using hTelephone
    rw [hIs, if_pos rfl] at hFilter
    split at hRead
    · exact absurd hRead (by simp)
    · rename_i hFirst
      split at hRead
      · exact absurd hRead (by simp)
      · rename_i clockRate hClock
        have hJoined : ((match payload.fmtp with
            | some value => parseDtmfEventSet value
            | none => pure (eventRange 0 15)) >>= fun events => pure (some
              { payloadType := payload.payloadType, clockRate, events,
                detectable := clockRate = 8000 && events.any (· ≤ 15) })) = .ok found' := by
          rw [← hRead]
          cases payload.fmtp <;> rfl
        obtain ⟨events, hEvents, hFound⟩ := ok_of_bind hJoined
        obtain rfl := Except.ok.inj hFound
        cases h with
        | absent hNowhere =>
            rw [hNowhere, List.nil_append] at hFilter
            exact .present hFilter (describes_of_events hClock hEvents)
        | present _ _ => exact absurd rfl hFirst

theorem telephoneEvents_of_foldlM (hFold : payloads.foldlM readTelephoneEvent none = .ok found) :
    TelephoneEvents payloads found := by
  have hNothing : TelephoneEvents [] none := .absent rfl
  exact of_foldlM (fun past payload found found' h hRead => h.step hRead) hNothing hFold

end TelephoneEvents

section Accepted

variable {body : SdpBody} {parsed : ParsedAudioSdp}

/-- The parts of a description, its payloads and its telephone events, as the switch reads them. -/
structure Accepted (body : SdpBody) (parsed : ParsedAudioSdp) (s : Sections) : Prop where
  lines : sdpLines body = .ok s.lines
  media : s.OneMedia
  wellFormed : WellFormed s.attributes
  payloads : List.Forall₂ (Carries s.attributes) parsed.payloadTypes parsed.payloads
  telephoneEvent : TelephoneEvents parsed.payloads parsed.telephoneEvent

theorem accepted_of_parse (hParse : parseAudioSdp body = .ok parsed) :
    ∃ s : Sections, Accepted body parsed s := by
  obtain ⟨s, hOne, hLines, ip, port, hReads⟩ := parseAudioSdp_eq_ok.mp hParse
  have hPayloads := hReads.payloads
  rw [parseAudioPayloads, Sections.drop_lines] at hPayloads
  obtain ⟨maps, hMaps, hPayloads⟩ := ok_of_bind hPayloads
  obtain ⟨found, hFound, hPayloads⟩ := ok_of_bind hPayloads
  obtain ⟨hAll, hTelephone⟩ := Prod.mk.inj (Except.ok.inj hPayloads)
  have hGathered := gathered_of_foldlM hMaps
  refine ⟨s, hLines, hOne, hGathered.wellFormed, ?_, ?_⟩
  · rw [← hAll]
    exact hGathered.carries
  · rw [← hAll, ← hTelephone]
    exact telephoneEvents_of_foldlM hFound

/-- The payloads of a description that the switch accepts carry the attributes of their types, its
telephone events are those of the one payload that is mapped to them, and the sets of events that
are read at all are the lists of numbers and of ranges. -/
theorem payloads_as_described (hParse : parseAudioSdp body = .ok parsed) :
    (∃ s : Sections, Accepted body parsed s) ∧
      ∀ value events, parseDtmfEventSet value = .ok events ↔
        ∃ items, EventList value items ∧ Denotes items events := by
  constructor
  · exact accepted_of_parse hParse
  · intro value events
    exact parseDtmfEventSet_eq_ok

/-- An offer with telephone events. -/
def sampleDigits : SdpBody where
  contentType := "application/sdp"
  text := "c=IN IP4 10.0.0.1\nm=audio 9 RTP/AVP 0 101\n" ++
    "a=rtpmap:101 Telephone-Event/8000\na=fmtp:101 0 - 2, 5\n"

def sampleDigitsParsed : ParsedAudioSdp where
  remoteRtp := .v4 ⟨10, 0, 0, 1⟩ 9
  remoteRtcp := some (.v4 ⟨10, 0, 0, 1⟩ 10)
  payloadTypes := [0, 101]
  payloads :=
    [⟨0, none, none, none, none⟩,
      ⟨101, some "Telephone-Event", some 8000, none, some "0 - 2, 5"⟩]
  telephoneEvent := some ⟨101, 8000, [0, 1, 2, 5], true⟩
  direction := .sendRecv

theorem payloads_as_described_digits :
    (∃ s : Sections, Accepted sampleDigits sampleDigitsParsed s) ∧
      ∀ value events, parseDtmfEventSet value = .ok events ↔
        ∃ items, EventList value items ∧ Denotes items events :=
  @payloads_as_described sampleDigits sampleDigitsParsed (by decide +kernel)

end Accepted

end VoipSwitch.Sdp
