import VoipSwitch.Media.Sdp

/-! A description in three parts: the lines of the session, the media line, and the attributes of
the stream. What the switch does to the lines by their places, it does to the first line of a kind
in one of the parts. -/
namespace VoipSwitch.Sdp

open Internet Words FirstMatch

section Kinds

theorem startsWith_disjoint {start start' : String} (h : ¬ start.toList <+: start'.toList)
    (h' : ¬ start'.toList <+: start.toList) {line : Line} (hLine : startsWith start line = true) :
    startsWith start' line = false := by
  rw [startsWith, List.isPrefixOf_iff_prefix] at hLine
  apply Bool.eq_false_iff.mpr
  rw [startsWith, Ne, List.isPrefixOf_iff_prefix]
  intro hLine'
  rcases List.prefix_or_prefix_of_prefix hLine hLine' with hPrefix | hPrefix
  · exact h hPrefix
  · exact h' hPrefix

theorem isConnection_of_isOrigin {line : Line} (hLine : isOrigin line = true) :
    isConnection line = false :=
  startsWith_disjoint (by decide) (by decide) hLine

theorem isOrigin_relayOrigin {ip : IpAddr} {line : Line} (hLine : isOrigin line = true) :
    isOrigin (relayOrigin ip line) = true := by
  unfold relayOrigin
  simp only
  split
  · exact hLine
  · rfl

end Kinds

structure Sections where
  session : List Line
  media : Line
  attributes : List Line

namespace Sections

def lines (s : Sections) : List Line := s.session ++ s.media :: s.attributes

/-- The media line is the only one. -/
structure OneMedia (s : Sections) : Prop where
  media : startsWith "m=" s.media = true
  session : ∀ line ∈ s.session, startsWith "m=" line = false
  attributes : ∀ line ∈ s.attributes, startsWith "m=" line = false

variable {s : Sections} {lines : List Line} {p : Line → Bool} {f : Line → Line}

@[simp] theorem drop_lines : s.lines.drop (s.session.length + 1) = s.attributes := by
  rw [Sections.lines, ← List.drop_drop, List.drop_left]
  rfl

@[simp] theorem take_lines : s.lines.take s.session.length = s.session :=
  List.take_left

@[simp] theorem getD_lines : s.lines.getD s.session.length [] = s.media := by
  simp [Sections.lines]

theorem mediaIndex_lines (hOne : s.OneMedia) : mediaIndex s.lines = .ok s.session.length := by
  have hSession : s.session.findIdxs (startsWith "m=") = [] :=
    List.findIdxs_eq_nil_iff.mpr hOne.session
  have hAttributes : ∀ start, s.attributes.findIdxs (startsWith "m=") start = [] := fun _ =>
    List.findIdxs_eq_nil_iff.mpr hOne.attributes
  have hIndexes : s.lines.findIdxs (startsWith "m=") = [s.session.length] := by
    rw [Sections.lines, List.findIdxs_append, hSession, List.nil_append, List.findIdxs_cons,
      if_pos hOne.media, hAttributes, Nat.zero_add]
  rw [mediaIndex, hIndexes]

/-- A description whose media line can be told is made of the three parts. -/
theorem exists_of_mediaIndex {index : Nat} (hIndex : mediaIndex lines = .ok index) :
    ∃ s : Sections, s.OneMedia ∧ s.lines = lines ∧ s.session.length = index := by
  rw [mediaIndex] at hIndex
  split at hIndex
  · exact absurd hIndex (by simp)
  · rename_i place hPlaces
    obtain rfl := Except.ok.inj hIndex
    obtain ⟨before, media, after, rfl, hMedia, hBefore, hAfter, hPlace⟩ :=
      exists_of_findIdxs hPlaces
    exact ⟨⟨before, media, after⟩, ⟨hMedia, hBefore, hAfter⟩, rfl, by rw [hPlace, Nat.zero_add]⟩
  · exact absurd hIndex (by simp)

theorem findFrom_lines :
    findFrom (s.session.length + 1) p s.lines =
      (s.attributes.findIdx? p).map (· + (s.session.length + 1)) := by
  rw [findFrom, drop_lines]

theorem set_session {i : Nat} {line : Line} (hPlace : s.session.findIdx? p = some i) :
    s.lines.set i line = Sections.lines
      { s with session := modifyFirst p (fun _ => line) s.session } := by
  obtain ⟨hShort, -⟩ := List.findIdx?_eq_some_iff_getElem.mp hPlace
  rw [Sections.lines, List.set_append_left _ _ hShort, set_of_findIdx? hPlace]
  rfl

theorem set_attributes {i : Nat} {line : Line} (hPlace : s.attributes.findIdx? p = some i) :
    s.lines.set (i + (s.session.length + 1)) line =
      Sections.lines { s with attributes := modifyFirst p (fun _ => line) s.attributes } := by
  rw [Sections.lines, List.set_append_right _ _ (by omega)]
  have hIndex : i + (s.session.length + 1) - s.session.length = i + 1 := by omega
  rw [hIndex, List.set_cons_succ, set_of_findIdx? hPlace]
  rfl

theorem set_media {line : Line} :
    s.lines.set s.session.length line = Sections.lines { s with media := line } := by
  rw [Sections.lines, List.set_append_right _ _ (Nat.le_refl _), Nat.sub_self, List.set_cons_zero]
  rfl

/-- The first line of a kind, in the session or else in the attributes. -/
def modifyAny (p : Line → Bool) (f : Line → Line) (s : Sections) : Sections :=
  if s.session.any p then { s with session := modifyFirst p f s.session }
  else { s with attributes := modifyFirst p f s.attributes }

/-- The first line of a kind, in the attributes or else in the session. -/
def modifyEffective (p : Line → Bool) (f : Line → Line) (s : Sections) : Sections :=
  if s.attributes.any p then { s with attributes := modifyFirst p f s.attributes }
  else { s with session := modifyFirst p f s.session }

def relayRtcp (rtcp : Option SocketAddr) (s : Sections) : Sections :=
  match rtcp with
  | some address =>
    if s.attributes.any isRtcp then
      { s with attributes := modifyFirst isRtcp (fun _ => rtcpLine address) s.attributes }
    else { s with attributes := rtcpLine address :: s.attributes }
  | none => { s with attributes := s.attributes.eraseP isRtcp }

/-- The description with the addresses of the relay. -/
def relayed (relay : RelayEndpoint) (s : Sections) : Sections :=
  let s := { s with media := relayMediaLine relay.rtp.port s.media }
  let s := s.modifyAny isOrigin (relayOrigin relay.rtp.ip)
  let s := s.modifyEffective isConnection fun _ => connectionLine relay.rtp.ip
  s.relayRtcp relay.rtcp

@[simp] theorem length_session_modifyAny :
    (s.modifyAny p f).session.length = s.session.length := by
  unfold modifyAny
  split
  · exact length_modifyFirst
  · rfl

@[simp] theorem length_session_modifyEffective :
    (s.modifyEffective p f).session.length = s.session.length := by
  unfold modifyEffective
  split
  · rfl
  · exact length_modifyFirst

@[simp] theorem session_relayRtcp (rtcp : Option SocketAddr) :
    (s.relayRtcp rtcp).session = s.session := by
  unfold relayRtcp
  split
  · split <;> rfl
  · rfl

@[simp] theorem media_modifyAny : (s.modifyAny p f).media = s.media := by
  unfold modifyAny
  split <;> rfl

@[simp] theorem media_modifyEffective : (s.modifyEffective p f).media = s.media := by
  unfold modifyEffective
  split <;> rfl

@[simp] theorem media_relayRtcp (rtcp : Option SocketAddr) :
    (s.relayRtcp rtcp).media = s.media := by
  unfold relayRtcp
  split
  · split <;> rfl
  · rfl

theorem lines_modifyAny (hMedia : p s.media = false) :
    modifyFirst p f s.lines = (s.modifyAny p f).lines := by
  unfold modifyAny
  rw [Sections.lines]
  split
  · rename_i hSession
    exact modifyFirst_append_of_any hSession
  · rename_i hSession
    rw [modifyFirst_append_of_none (Bool.eq_false_iff.mpr hSession), modifyFirst,
      if_neg (Bool.eq_false_iff.mp hMedia)]
    rfl

theorem findIdx?_eq_none {l : List Line} : l.findIdx? p = none ↔ l.any p = false := by
  rw [List.findIdx?_eq_none_iff, List.any_eq_false]
  exact forall₂_congr fun _ _ => Bool.eq_false_iff

theorem any_of_findIdx? {l : List Line} {i : Nat} (hPlace : l.findIdx? p = some i) :
    l.any p = true := by
  by_contra hNone
  rw [findIdx?_eq_none.mpr (Bool.eq_false_iff.mpr hNone)] at hPlace
  exact absurd hPlace (by simp)

theorem rewriteOriginAddress_lines (ip : IpAddr) (hMedia : isOrigin s.media = false) :
    rewriteOriginAddress s.lines ip = (s.modifyAny isOrigin (relayOrigin ip)).lines := by
  rw [← lines_modifyAny hMedia]
  unfold rewriteOriginAddress
  split
  · rename_i hNone
    rw [modifyFirst_of_none (findIdx?_eq_none.mp hNone)]
  · rename_i hPlace
    exact modify_of_findIdx? hPlace

/-- The connection that counts is looked for in the attributes first. -/
theorem set_connectionIndex {i : Nat} {line : Line}
    (hPlace : connectionIndex s.lines s.session.length = some i) :
    s.lines.set i line = (s.modifyEffective isConnection fun _ => line).lines := by
  rw [connectionIndex, findFrom_lines, take_lines] at hPlace
  unfold modifyEffective
  cases hAttributes : s.attributes.findIdx? isConnection with
  | some j =>
      rw [hAttributes, Option.map_some] at hPlace
      have hIndex : j + (s.session.length + 1) = i := Option.some.inj hPlace
      rw [if_pos (any_of_findIdx? hAttributes), ← hIndex]
      exact set_attributes hAttributes
  | none =>
      rw [hAttributes, Option.map_none] at hPlace
      rw [if_neg (Bool.eq_false_iff.mp (findIdx?_eq_none.mp hAttributes))]
      exact set_session hPlace

theorem rewriteRtcp_lines (rtcp : Option SocketAddr) :
    rewriteRtcp s.lines s.session.length rtcp = (s.relayRtcp rtcp).lines := by
  unfold rewriteRtcp relayRtcp
  rw [findFrom_lines]
  cases hAttributes : s.attributes.findIdx? isRtcp with
  | some i =>
      cases rtcp with
      | some address =>
          simp only [Option.map_some]
          rw [if_pos (any_of_findIdx? hAttributes)]
          exact set_attributes hAttributes
      | none =>
          have hErase : s.attributes.eraseP isRtcp = s.attributes.eraseIdx i := by
            rw [List.eraseP_eq_eraseIdx, hAttributes]
          have hIndex : i + (s.session.length + 1) - s.session.length = i + 1 := by omega
          simp only [Option.map_some]
          rw [Sections.lines, List.eraseIdx_append_of_length_le (by omega), hIndex,
            List.eraseIdx_cons_succ, ← hErase]
          rfl
  | none =>
      cases rtcp with
      | some address =>
          simp only [Option.map_none]
          rw [if_neg (Bool.eq_false_iff.mp (findIdx?_eq_none.mp hAttributes)), Sections.lines,
            insertIdx_append_cons]
          rfl
      | none =>
          have hErase : s.attributes.eraseP isRtcp = s.attributes := by
            rw [List.eraseP_eq_eraseIdx, hAttributes]
          simp only [Option.map_none, hErase]

/-- What it takes to read the parts. -/
structure Reads (s : Sections) (parsed : ParsedAudioSdp) (ip : IpAddr) (port : UInt16) :
    Prop where
  supported : s.lines.find? isUnsupported = none
  media : parseMediaLine s.media = .ok (port, parsed.payloadTypes)
  payloads : parseAudioPayloads s.lines s.session.length parsed.payloadTypes =
    .ok (parsed.payloads, parsed.telephoneEvent)
  connection : ∃ line, (s.attributes.find? isConnection <|> s.session.find? isConnection) =
    some line ∧ parseConnection line = .ok ip
  remoteRtp : parsed.remoteRtp = .new ip port
  remoteRtcp : remoteRtcp s.attributes ip port = .ok parsed.remoteRtcp
  direction : parsed.direction = (s.attributes.findSome? parseDirection <|>
    s.session.findSome? parseDirection).getD .sendRecv

theorem Reads.any_connection {parsed : ParsedAudioSdp} {ip : IpAddr} {port : UInt16}
    (hReads : s.Reads parsed ip port) :
    s.attributes.any isConnection = true ∨ s.session.any isConnection = true := by
  obtain ⟨line, hLine, -⟩ := hReads.connection
  cases hAttributes : s.attributes.find? isConnection with
  | some first =>
      left
      exact List.any_eq_true.mpr
        ⟨first, List.mem_of_find?_eq_some hAttributes, List.find?_some hAttributes⟩
  | none =>
      rw [hAttributes] at hLine
      have hSession : s.session.find? isConnection = some line := hLine
      right
      exact List.any_eq_true.mpr
        ⟨line, List.mem_of_find?_eq_some hSession, List.find?_some hSession⟩

theorem parseAudioLines_lines {parsed : ParsedAudioSdp} :
    parseAudioLines s.lines s.session.length = .ok parsed ↔ ∃ ip port, s.Reads parsed ip port := by
  unfold parseAudioLines
  simp only [drop_lines, take_lines, getD_lines]
  constructor
  · intro hRead
    split at hRead
    · exact absurd hRead (by simp)
    · rename_i hSupported
      obtain ⟨⟨port, payloadTypes⟩, hMedia, hRead⟩ := ok_of_bind hRead
      obtain ⟨⟨payloads, telephoneEvent⟩, hPayloads, hRead⟩ := ok_of_bind hRead
      split at hRead
      · exact absurd hRead (by simp)
      · rename_i line hLine
        obtain ⟨ip, hIp, hRead⟩ := ok_of_bind hRead
        obtain ⟨rtcp, hRtcp, hRead⟩ := ok_of_bind hRead
        obtain rfl := Except.ok.inj hRead
        exact ⟨ip, port, hSupported, hMedia, hPayloads, ⟨line, hLine, hIp⟩, rfl, hRtcp, rfl⟩
  · rintro ⟨ip, port, hReads⟩
    obtain ⟨line, hLine, hIp⟩ := hReads.connection
    rw [hReads.supported]
    apply bind_of_ok hReads.media
    apply bind_of_ok hReads.payloads
    rw [hLine]
    apply bind_of_ok hIp
    apply bind_of_ok hReads.remoteRtcp
    rw [← hReads.direction, ← hReads.remoteRtp]
    rfl

/-- The parts have the same lines of a kind. -/
def Agree (q : Line → Bool) (s s' : Sections) : Prop :=
  s.session.filter q = s'.session.filter q ∧ s.attributes.filter q = s'.attributes.filter q

section Agree

variable {q : Line → Bool} {s' s'' : Sections}

theorem Agree.trans (h : Agree q s s') (h' : Agree q s' s'') : Agree q s s'' :=
  ⟨h.1.trans h'.1, h.2.trans h'.2⟩

theorem Agree.narrow (h : Agree p s s') (hNarrow : ∀ x, q x = true → p x = true) :
    Agree q s s' :=
  ⟨filter_eq_of_imp h.1 hNarrow, filter_eq_of_imp h.2 hNarrow⟩

theorem agree_modifyAny (hOld : ∀ x, p x = true → q x = false)
    (hNew : ∀ x, p x = true → q (f x) = false) : Agree q (s.modifyAny p f) s := by
  unfold modifyAny
  split
  · exact ⟨filter_modifyFirst hOld hNew, rfl⟩
  · exact ⟨rfl, filter_modifyFirst hOld hNew⟩

theorem agree_modifyEffective (hOld : ∀ x, p x = true → q x = false)
    (hNew : ∀ x, p x = true → q (f x) = false) : Agree q (s.modifyEffective p f) s := by
  unfold modifyEffective
  split
  · exact ⟨rfl, filter_modifyFirst hOld hNew⟩
  · exact ⟨filter_modifyFirst hOld hNew, rfl⟩

theorem agree_relayRtcp (rtcp : Option SocketAddr) (hOld : ∀ x, isRtcp x = true → q x = false) :
    Agree q (s.relayRtcp rtcp) s := by
  unfold relayRtcp
  split
  · rename_i address
    have hNew : q (rtcpLine address) = false := hOld _ rfl
    split
    · exact ⟨rfl, filter_modifyFirst hOld fun _ _ => hNew⟩
    · refine ⟨rfl, ?_⟩
      rw [List.filter_cons, hNew, if_neg Bool.false_ne_true]
  · exact ⟨rfl, filter_eraseP hOld⟩

end Agree

theorem any_of_connectionIndex (hNone : connectionIndex s.lines s.session.length = none) :
    s.attributes.any isConnection = false ∧ s.session.any isConnection = false := by
  rw [connectionIndex, findFrom_lines, take_lines] at hNone
  cases hAttributes : s.attributes.findIdx? isConnection with
  | some i =>
      rw [hAttributes, Option.map_some] at hNone
      exact absurd hNone (by simp)
  | none =>
      rw [hAttributes, Option.map_none] at hNone
      exact ⟨findIdx?_eq_none.mp hAttributes, findIdx?_eq_none.mp hNone⟩

/-- Where the connection is told, the lines that the switch writes are those of the parts. -/
theorem relayLines_lines {relay : RelayEndpoint}
    (hConnection : s.attributes.any isConnection = true ∨ s.session.any isConnection = true) :
    relayLines s.lines s.session.length relay = .ok (s.relayed relay).lines := by
  have hMedia : isOrigin (relayMediaLine relay.rtp.port s.media) = false := rfl
  have hLength : (modifyAny isOrigin (relayOrigin relay.rtp.ip)
      { s with media := relayMediaLine relay.rtp.port s.media }).session.length =
        s.session.length := length_session_modifyAny
  unfold relayLines
  simp only [getD_lines]
  rw [set_media, rewriteOriginAddress_lines relay.rtp.ip hMedia, ← hLength]
  split
  · rename_i hNone
    obtain ⟨hAttributes, hSession⟩ := any_of_connectionIndex hNone
    have hAgree : Agree isConnection (modifyAny isOrigin (relayOrigin relay.rtp.ip)
        { s with media := relayMediaLine relay.rtp.port s.media }) s :=
      agree_modifyAny (fun _ hOld => isConnection_of_isOrigin hOld) fun _ hOld =>
        isConnection_of_isOrigin (isOrigin_relayOrigin hOld)
    rw [any_eq_of_filter hAgree.2] at hAttributes
    rw [any_eq_of_filter hAgree.1] at hSession
    rw [hAttributes, hSession] at hConnection
    exact absurd hConnection (by simp)
  · rename_i place hPlace
    have hTwice : (modifyEffective isConnection (fun _ => connectionLine relay.rtp.ip)
        (modifyAny isOrigin (relayOrigin relay.rtp.ip)
          { s with media := relayMediaLine relay.rtp.port s.media })).session.length =
        (modifyAny isOrigin (relayOrigin relay.rtp.ip)
          { s with media := relayMediaLine relay.rtp.port s.media }).session.length :=
      length_session_modifyEffective
    rw [set_connectionIndex hPlace, ← hTwice, rewriteRtcp_lines]
    rfl

/-- The switch rewrites the parts of a description that it can read. -/
theorem rewriteAudioSdp_eq_ok {body : SdpBody} {relay : RelayEndpoint} {prepared : PreparedSdp} :
    rewriteAudioSdp body relay = .ok prepared ↔
      ∃ s : Sections, s.OneMedia ∧ sdpLines body = .ok s.lines ∧
        (∃ ip port, s.Reads prepared.parsed ip port) ∧
        prepared.body = ⟨"application/sdp", sdpText (s.relayed relay).lines⟩ := by
  unfold rewriteAudioSdp
  constructor
  · intro hRewrite
    obtain ⟨lines, hLines, hRewrite⟩ := ok_of_bind hRewrite
    obtain ⟨index, hIndex, hRewrite⟩ := ok_of_bind hRewrite
    obtain ⟨parsed, hParsed, hRewrite⟩ := ok_of_bind hRewrite
    obtain ⟨written, hWritten, hRewrite⟩ := ok_of_bind hRewrite
    obtain rfl := Except.ok.inj hRewrite
    obtain ⟨s, hOne, rfl, rfl⟩ := exists_of_mediaIndex hIndex
    obtain ⟨ip, port, hReads⟩ := parseAudioLines_lines.mp hParsed
    rw [relayLines_lines hReads.any_connection] at hWritten
    obtain rfl := Except.ok.inj hWritten
    exact ⟨s, hOne, hLines, ⟨ip, port, hReads⟩, rfl⟩
  · rintro ⟨s, hOne, hLines, ⟨ip, port, hReads⟩, hBody⟩
    apply bind_of_ok hLines
    apply bind_of_ok (mediaIndex_lines hOne)
    apply bind_of_ok (parseAudioLines_lines.mpr ⟨ip, port, hReads⟩)
    apply bind_of_ok (relayLines_lines hReads.any_connection)
    rw [← hBody]
    rfl

end Sections

end VoipSwitch.Sdp
