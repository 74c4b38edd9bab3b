import VoipSwitch.Media.Rewrite

/-! Descriptions that the switch has written the relay into: they are read back, only the lines
with addresses differ, and a second rewriting changes nothing more. -/
namespace VoipSwitch.Sdp

open Internet Words FirstMatch

section Kinds

/-- The lines with addresses, apart from the media line. -/
def isAddress (line : Line) : Bool := isOrigin line || isConnection line || isRtcp line

variable {line : Line}

theorem isAddress_of_isOrigin (hLine : isOrigin line = true) : isAddress line = true := by
  rw [isAddress, hLine, Bool.true_or, Bool.true_or]

theorem isAddress_of_isConnection (hLine : isConnection line = true) : isAddress line = true := by
  rw [isAddress, hLine, Bool.or_true, Bool.true_or]

theorem isAddress_of_isRtcp (hLine : isRtcp line = true) : isAddress line = true := by
  rw [isAddress, hLine, Bool.or_true]

/-- The start of a line tells its kind. -/
theorem isAddress_eq_false {start : String}
    (hApart : ∀ address ∈ ["o=", "c=", "a=rtcp:"],
      ¬ start.toList <+: address.toList ∧ ¬ address.toList <+: start.toList)
    (hLine : startsWith start line = true) : isAddress line = false := by
  have hOther : ∀ address ∈ ["o=", "c=", "a=rtcp:"], startsWith address line = false :=
    fun address hMem => startsWith_disjoint (hApart address hMem).1 (hApart address hMem).2 hLine
  rw [isAddress, isOrigin, isConnection, isRtcp, hOther "o=" (by decide), hOther "c=" (by decide),
    hOther "a=rtcp:" (by decide)]
  rfl

theorem isAddress_of_isUnsupported (hLine : isUnsupported line = true) :
    isAddress line = false := by
  simp only [isUnsupported, Bool.or_eq_true] at hLine
  rcases hLine with ((((h | h) | h) | h) | h) | h
  all_goals exact isAddress_eq_false (by decide) h

theorem isAddress_of_direction (hLine : (parseDirection line).isSome = true) :
    isAddress line = false := by
  unfold parseDirection at hLine
  split at hLine
  · rename_i hIs
    rw [hIs]
    rfl
  · split at hLine
    · rename_i hIs
      rw [hIs]
      rfl
    · split at hLine
      · rename_i hIs
        rw [hIs]
        rfl
      · split at hLine
        · rename_i hIs
          rw [hIs]
          rfl
        · exact absurd hLine (by simp)

theorem stripPrefix_eq_none {start : String} (hLine : startsWith start line = false) :
    stripPrefix start line = none := by
  rw [stripPrefix, Option.eq_none_iff_forall_ne_some]
  intro rest hStrip
  rw [List.isPrefixOf?_eq_some_iff_append_eq] at hStrip
  rw [startsWith, ← hStrip] at hLine
  exact absurd (List.isPrefixOf_iff_prefix.mpr (List.prefix_append ..)) (Bool.eq_false_iff.mp hLine)

/-- The lines with addresses say nothing about the payloads. -/
theorem readPayloadLine_address (offered : List UInt8) (maps : PayloadMaps)
    (hLine : isAddress line = true) : readPayloadLine offered maps line = .ok maps := by
  have hOther : ∀ start : String, (∀ address ∈ ["o=", "c=", "a=rtcp:"],
      ¬ start.toList <+: address.toList ∧ ¬ address.toList <+: start.toList) →
      startsWith start line = false := by
    intro start hApart
    apply Bool.eq_false_iff.mpr
    intro hStart
    rw [isAddress_eq_false hApart hStart] at hLine
    exact absurd hLine (by simp)
  rw [readPayloadLine, stripPrefix_eq_none (hOther "a=rtpmap:" (by decide)),
    stripPrefix_eq_none (hOther "a=fmtp:" (by decide))]
  rfl

end Kinds

namespace Sections

variable {s s' : Sections} {relay : RelayEndpoint} {parsed : ParsedAudioSdp} {ip : IpAddr}
  {port : UInt16}

/-- The lines without addresses stay. -/
theorem agree_relayed : Agree (fun line => !isAddress line) (s.relayed relay) s := by
  have hOrigin : ∀ line, isOrigin line = true → (!isAddress line) = false := fun line hLine => by
    rw [isAddress_of_isOrigin hLine, Bool.not_true]
  have hConnection : ∀ line, isConnection line = true → (!isAddress line) = false :=
    fun line hLine => by rw [isAddress_of_isConnection hLine, Bool.not_true]
  have hRtcp : ∀ line, isRtcp line = true → (!isAddress line) = false := fun line hLine => by
    rw [isAddress_of_isRtcp hLine, Bool.not_true]
  apply (agree_relayRtcp relay.rtcp hRtcp).trans
  apply (agree_modifyEffective hConnection fun _ _ => hConnection _ rfl).trans
  exact agree_modifyAny hOrigin fun line hLine => hOrigin _ (isOrigin_relayOrigin hLine)

theorem media_relayed : (s.relayed relay).media = relayMediaLine relay.rtp.port s.media := by
  rw [relayed]
  simp

theorem length_session_relayed (relay : RelayEndpoint) :
    (s.relayed relay).session.length = s.session.length := by
  rw [relayed]
  simp

section Congruence

variable {q : Line → Bool}

/-- A kind without addresses has the same lines before and after. -/
theorem agree_relayed_of (hKind : ∀ line, q line = true → isAddress line = false) :
    Agree q (s.relayed relay) s :=
  agree_relayed.narrow fun line hLine => by rw [hKind line hLine, Bool.not_false]

theorem oneMedia_relayed (relay : RelayEndpoint) (hOne : s.OneMedia) :
    (s.relayed relay).OneMedia := by
  have hAgree : Agree (startsWith "m=") (s.relayed relay) s :=
    agree_relayed_of fun line hLine => isAddress_eq_false (by decide) hLine
  have hEmpty : ∀ {l l' : List Line}, l.filter (startsWith "m=") = l'.filter (startsWith "m=") →
      (∀ line ∈ l', startsWith "m=" line = false) → ∀ line ∈ l, startsWith "m=" line = false := by
    intro l l' hSame hNone line hMem
    apply Bool.eq_false_iff.mpr
    intro hIs
    have hKept : line ∈ l'.filter (startsWith "m=") := by
      rw [← hSame]
      exact List.mem_filter.mpr ⟨hMem, hIs⟩
    obtain ⟨hIn, -⟩ := List.mem_filter.mp hKept
    rw [hNone line hIn] at hIs
    exact absurd hIs (by simp)
  refine ⟨?_, hEmpty hAgree.1 hOne.session, hEmpty hAgree.2 hOne.attributes⟩
  rw [media_relayed]
  rfl

theorem isUnsupported_media (hOne : s.OneMedia) : isUnsupported s.media = false := by
  apply Bool.eq_false_iff.mpr
  intro hLine
  simp only [isUnsupported, Bool.or_eq_true] at hLine
  have hMedia := hOne.media
  rcases hLine with ((((h | h) | h) | h) | h) | h
  all_goals
    rw [startsWith_disjoint (by decide) (by decide) h] at hMedia
    exact absurd hMedia (by simp)

theorem find?_isUnsupported (hOne : s.OneMedia) :
    s.lines.find? isUnsupported =
      (s.session.find? isUnsupported).or (s.attributes.find? isUnsupported) := by
  rw [Sections.lines, List.find?_append,
    List.find?_cons_of_neg (Bool.eq_false_iff.mp (isUnsupported_media hOne))]

theorem find?_isUnsupported_relayed (hOne : s.OneMedia) :
    (s.relayed relay).lines.find? isUnsupported = s.lines.find? isUnsupported := by
  have hAgree : Agree isUnsupported (s.relayed relay) s :=
    agree_relayed_of fun _ hLine => isAddress_of_isUnsupported hLine
  rw [find?_isUnsupported (oneMedia_relayed relay hOne), find?_isUnsupported hOne,
    find?_eq_of_filter hAgree.1, find?_eq_of_filter hAgree.2]

theorem parseAudioPayloads_lines (payloadTypes : List UInt8) :
    parseAudioPayloads s.lines s.session.length payloadTypes = (do
      let maps ← (s.attributes.filter fun line => !isAddress line).foldlM
        (readPayloadLine payloadTypes) ⟨[], []⟩
      let telephoneEvent ← (payloadTypes.map maps.payload).foldlM readTelephoneEvent none
      pure (payloadTypes.map maps.payload, telephoneEvent)) := by
  have hRead : readPayloadLine payloadTypes = fun maps line =>
      if (!isAddress line) = true then readPayloadLine payloadTypes maps line else pure maps := by
    funext maps line
    cases hIs : isAddress line with
    | false => rfl
    | true => exact readPayloadLine_address payloadTypes maps hIs
  rw [List.foldlM_filter, ← hRead, parseAudioPayloads, drop_lines]

theorem parseAudioPayloads_relayed (payloadTypes : List UInt8) :
    parseAudioPayloads (s.relayed relay).lines (s.relayed relay).session.length payloadTypes =
      parseAudioPayloads s.lines s.session.length payloadTypes := by
  rw [parseAudioPayloads_lines, parseAudioPayloads_lines, agree_relayed.2]

end Congruence

section Found

variable {p : Line → Bool} {f : Line → Line}

/-- The line that counts is the one that was written. -/
theorem find?_modifyEffective {line : Line} (hLine : p line = true)
    (hAny : s.attributes.any p = true ∨ s.session.any p = true) :
    ((s.modifyEffective p fun _ => line).attributes.find? p <|>
      (s.modifyEffective p fun _ => line).session.find? p) = some line := by
  have hFind : ∀ {l : List Line}, l.any p = true →
      (modifyFirst p (fun _ => line) l).find? p = some line := by
    intro l hIn
    rw [find?_modifyFirst fun _ _ => hLine]
    cases hFirst : l.find? p with
    | some first => rfl
    | none =>
        obtain ⟨x, hMem, hIs⟩ := List.any_eq_true.mp hIn
        exact absurd hIs (List.find?_eq_none.mp hFirst x hMem)
  unfold modifyEffective
  split
  · rename_i hAttributes
    rw [hFind hAttributes]
    rfl
  · rename_i hAttributes
    have hSession := hAny.resolve_left hAttributes
    have hNone : s.attributes.find? p = none := by
      rw [List.find?_eq_none]
      intro x hMem hIs
      exact hAttributes (List.any_eq_true.mpr ⟨x, hMem, hIs⟩)
    change (s.attributes.find? p <|> (modifyFirst p (fun _ => line) s.session).find? p) = some line
    rw [hNone, hFind hSession]
    rfl

theorem find?_isRtcp_relayRtcp (address : SocketAddr) :
    (s.relayRtcp (some address)).attributes.find? isRtcp = some (rtcpLine address) := by
  unfold relayRtcp
  simp only
  split
  · rename_i hAny
    obtain ⟨line, hMem, hIs⟩ := List.any_eq_true.mp hAny
    change (modifyFirst isRtcp (fun _ => rtcpLine address) s.attributes).find? isRtcp = _
    rw [find?_modifyFirst fun _ _ => rfl]
    cases hFirst : s.attributes.find? isRtcp with
    | some first => rfl
    | none => exact absurd hIs (List.find?_eq_none.mp hFirst line hMem)
  · rfl

theorem connections_modifyAny (relay : RelayEndpoint) (t : Sections) :
    Agree isConnection (t.modifyAny isOrigin (relayOrigin relay.rtp.ip)) t :=
  agree_modifyAny (fun _ hOld => isConnection_of_isOrigin hOld) fun _ hOld =>
    isConnection_of_isOrigin (isOrigin_relayOrigin hOld)

theorem connections_relayRtcp (relay : RelayEndpoint) (t : Sections) :
    Agree isConnection (t.relayRtcp relay.rtcp) t :=
  agree_relayRtcp relay.rtcp fun _ hOld => startsWith_disjoint (by decide) (by decide) hOld

theorem find?_isConnection_relayed (relay : RelayEndpoint)
    (hAny : s.attributes.any isConnection = true ∨ s.session.any isConnection = true) :
    ((s.relayed relay).attributes.find? isConnection <|>
      (s.relayed relay).session.find? isConnection) = some (connectionLine relay.rtp.ip) := by
  have hOrigin : Agree isConnection (modifyAny isOrigin (relayOrigin relay.rtp.ip)
      { s with media := relayMediaLine relay.rtp.port s.media }) s := connections_modifyAny relay _
  have hRtcp := connections_relayRtcp relay
  rw [relayed, find?_eq_of_filter (hRtcp _).1, find?_eq_of_filter (hRtcp _).2]
  apply find?_modifyEffective rfl
  rwa [any_eq_of_filter hOrigin.1, any_eq_of_filter hOrigin.2]

end Found

/-- What the switch has written is read as the relay's, and the rest as it was. -/
theorem reads_relayed {rtcp : Option SocketAddr} (hOne : s.OneMedia)
    (hReads : s.Reads parsed ip port) (hPort : relay.rtp.port ≠ 0)
    (hRtcp : remoteRtcp (s.relayed relay).attributes relay.rtp.ip relay.rtp.port = .ok rtcp) :
    (s.relayed relay).Reads
      { parsed with remoteRtp := .new relay.rtp.ip relay.rtp.port, remoteRtcp := rtcp }
      relay.rtp.ip relay.rtp.port where
  supported := (find?_isUnsupported_relayed hOne).trans hReads.supported
  media := by
    rw [media_relayed, parseMediaLine_relayMediaLine hReads.media, if_neg hPort]
  payloads := (parseAudioPayloads_relayed parsed.payloadTypes).trans hReads.payloads
  connection :=
    ⟨_, find?_isConnection_relayed relay hReads.any_connection, parseConnection_connectionLine _⟩
  remoteRtp := rfl
  remoteRtcp := hRtcp
  direction := by
    have hAgree : Agree (fun line => (parseDirection line).isSome) (s.relayed relay) s :=
      agree_relayed_of fun _ hLine => isAddress_of_direction hLine
    rw [findSome?_eq_of_filter hAgree.1, findSome?_eq_of_filter hAgree.2]
    exact hReads.direction

theorem remoteRtcp_relayed {address : SocketAddr} (hRtcp : relay.rtcp = some address) :
    remoteRtcp (s.relayed relay).attributes relay.rtp.ip relay.rtp.port =
      .ok (some (.new address.ip address.port)) := by
  rw [remoteRtcp, relayed, hRtcp, find?_isRtcp_relayRtcp]
  simp only [parseRtcp_rtcpLine]
  rfl

section Clean

variable {l : List Line}

theorem clean_modifyFirst {p : Line → Bool} {f : Line → Line} (hClean : ∀ line ∈ l, Clean line)
    (hNew : ∀ line, Clean line → Clean (f line)) : ∀ line ∈ modifyFirst p f l, Clean line := by
  intro line hMem
  rcases mem_modifyFirst hMem with hOld | ⟨old, hOld, -, rfl⟩
  · exact hClean line hOld
  · exact hNew old (hClean old hOld)

/-- Every line of the parts is given back by the text. -/
def AllClean (s : Sections) : Prop :=
  (∀ line ∈ s.session, Clean line) ∧ Clean s.media ∧ ∀ line ∈ s.attributes, Clean line

theorem allClean_iff : s.AllClean ↔ ∀ line ∈ s.lines, Clean line := by
  simp only [AllClean, Sections.lines, List.mem_append, List.mem_cons, or_imp, forall_and,
    forall_eq]

theorem AllClean.modifyAny {p : Line → Bool} {f : Line → Line} (hClean : s.AllClean)
    (hNew : ∀ line, Clean line → Clean (f line)) : (s.modifyAny p f).AllClean := by
  unfold Sections.modifyAny
  split
  · exact ⟨clean_modifyFirst hClean.1 hNew, hClean.2⟩
  · exact ⟨hClean.1, hClean.2.1, clean_modifyFirst hClean.2.2 hNew⟩

theorem AllClean.modifyEffective {p : Line → Bool} {f : Line → Line} (hClean : s.AllClean)
    (hNew : ∀ line, Clean line → Clean (f line)) : (s.modifyEffective p f).AllClean := by
  unfold Sections.modifyEffective
  split
  · exact ⟨hClean.1, hClean.2.1, clean_modifyFirst hClean.2.2 hNew⟩
  · exact ⟨clean_modifyFirst hClean.1 hNew, hClean.2⟩

theorem AllClean.relayRtcp (rtcp : Option SocketAddr) (hClean : s.AllClean) :
    (s.relayRtcp rtcp).AllClean := by
  unfold Sections.relayRtcp
  split
  · rename_i address
    have hNew : Clean (rtcpLine address) := (plain_rtcpLine address).clean
    split
    · exact ⟨hClean.1, hClean.2.1, clean_modifyFirst hClean.2.2 fun _ _ => hNew⟩
    · refine ⟨hClean.1, hClean.2.1, ?_⟩
      intro line hMem
      rcases List.mem_cons.mp hMem with rfl | hOld
      · exact hNew
      · exact hClean.2.2 line hOld
  · exact ⟨hClean.1, hClean.2.1, fun line hMem => hClean.2.2 line (List.eraseP_subset hMem)⟩

theorem allClean_relayed (hClean : s.AllClean) (hReads : s.Reads parsed ip port) :
    (s.relayed relay).AllClean := by
  obtain ⟨oldPort, payload, payloads, hTokens, -⟩ := tokens_of_parseMediaLine hReads.media
  have hMedia : AllClean { s with media := relayMediaLine relay.rtp.port s.media } :=
    ⟨hClean.1, (plain_relayMediaLine relay.rtp.port hTokens).clean, hClean.2.2⟩
  exact ((hMedia.modifyAny fun _ => clean_relayOrigin).modifyEffective fun _ _ =>
    (plain_connectionLine relay.rtp.ip).clean).relayRtcp relay.rtcp

end Clean

theorem lines_ne_nil : s.lines ≠ [] :=
  List.append_ne_nil_of_right_ne_nil _ (List.cons_ne_nil _ _)

/-- The lines tell the parts. -/
theorem eq_of_lines (hOne : s.OneMedia) (hOne' : s'.OneMedia) (hLines : s.lines = s'.lines) :
    s = s' := by
  have hLength : s.session.length = s'.session.length := by
    have hIndex := mediaIndex_lines hOne
    rw [hLines, mediaIndex_lines hOne'] at hIndex
    exact (Except.ok.inj hIndex).symm
  have hParts := List.append_inj hLines hLength
  obtain ⟨hMedia, hAttributes⟩ := List.cons.inj hParts.2
  cases s
  cases s'
  cases hParts.1
  cases hMedia
  cases hAttributes
  rfl

/-- The body that the switch writes is read in the parts that it wrote. -/
theorem sdpLines_relayed {body : SdpBody} (relay : RelayEndpoint)
    (hLines : sdpLines body = .ok s.lines)
    (hReads : s.Reads parsed ip port) :
    sdpLines ⟨"application/sdp", sdpText (s.relayed relay).lines⟩ =
      .ok (s.relayed relay).lines := by
  have hClean : s.AllClean := allClean_iff.mpr (clean_of_sdpLines hLines)
  exact sdpLines_sdpText lines_ne_nil (allClean_iff.mp (allClean_relayed hClean hReads))

end Sections

section Rewritten

variable {body : SdpBody} {relay : RelayEndpoint} {prepared : PreparedSdp}
  {parsed : ParsedAudioSdp}

theorem parseAudioSdp_eq_ok :
    parseAudioSdp body = .ok parsed ↔ ∃ s : Sections, s.OneMedia ∧ sdpLines body = .ok s.lines ∧
      ∃ ip port, s.Reads parsed ip port := by
  constructor
  · intro hParse
    obtain ⟨lines, hLines, hParse⟩ := ok_of_bind hParse
    obtain ⟨index, hIndex, hParse⟩ := ok_of_bind hParse
    obtain ⟨s, hOne, rfl, rfl⟩ := Sections.exists_of_mediaIndex hIndex
    exact ⟨s, hOne, hLines, Sections.parseAudioLines_lines.mp hParse⟩
  · rintro ⟨s, hOne, hLines, hReads⟩
    apply bind_of_ok hLines
    apply bind_of_ok (Sections.mediaIndex_lines hOne)
    exact Sections.parseAudioLines_lines.mpr hReads

/-- A short offer. -/
def sampleOffer : SdpBody where
  contentType := "application/sdp"
  text := "c=IN IP4 10.0.0.1\nm=audio 9 RTP/AVP 0\n"

def sampleRelay : RelayEndpoint where
  rtp := .v4 ⟨10, 0, 0, 2⟩ 30
  rtcp := some (.v4 ⟨10, 0, 0, 2⟩ 31)

def samplePrepared : PreparedSdp where
  body :=
    { contentType := "application/sdp"
      text := "c=IN IP4 10.0.0.2\r\nm=audio 30 RTP/AVP 0\r\na=rtcp:31 IN IP4 10.0.0.2\r\n" }
  parsed :=
    { remoteRtp := .v4 ⟨10, 0, 0, 1⟩ 9
      remoteRtcp := some (.v4 ⟨10, 0, 0, 1⟩ 10)
      payloadTypes := [0]
      payloads := [⟨0, none, none, none, none⟩]
      telephoneEvent := none
      direction := .sendRecv }

theorem rewriteAudioSdp_sample :
    rewriteAudioSdp sampleOffer sampleRelay = .ok samplePrepared := by
  decide

/-- A rewritten description is read with the relay's addresses, and otherwise as the one that it
was made of. -/
theorem parseAudioSdp_rewritten {rtcp : SocketAddr} (hRtcp : relay.rtcp = some rtcp)
    (hPort : relay.rtp.port ≠ 0) (hRewrite : rewriteAudioSdp body relay = .ok prepared) :
    parseAudioSdp body = .ok prepared.parsed ∧
      parseAudioSdp prepared.body = .ok { prepared.parsed with
        remoteRtp := .new relay.rtp.ip relay.rtp.port
        remoteRtcp := some (.new rtcp.ip rtcp.port) } := by
  obtain ⟨s, hOne, hLines, ⟨ip, port, hReads⟩, hBody⟩ :=
    Sections.rewriteAudioSdp_eq_ok.mp hRewrite
  constructor
  · exact parseAudioSdp_eq_ok.mpr ⟨s, hOne, hLines, ip, port, hReads⟩
  · rw [hBody]
    exact parseAudioSdp_eq_ok.mpr ⟨s.relayed relay, Sections.oneMedia_relayed relay hOne,
      Sections.sdpLines_relayed relay hLines hReads, _, _,
      Sections.reads_relayed hOne hReads hPort (Sections.remoteRtcp_relayed hRtcp)⟩

theorem parseAudioSdp_rewritten_sample :
    parseAudioSdp sampleOffer = .ok samplePrepared.parsed ∧
      parseAudioSdp samplePrepared.body = .ok { samplePrepared.parsed with
        remoteRtp := .new sampleRelay.rtp.ip sampleRelay.rtp.port
        remoteRtcp := some (.new (.v4 ⟨10, 0, 0, 2⟩) 31) } :=
  @parseAudioSdp_rewritten _ _ _ (.v4 ⟨10, 0, 0, 2⟩ 31) rfl (by decide) rewriteAudioSdp_sample

/-- A relay whose address belongs to a link. -/
def scopedRelay : RelayEndpoint where
  rtp := .v6 ⟨[0xfe80, 0, 0, 0, 0, 0, 0, 1], rfl⟩ 30 0 2
  rtcp := some (.v6 ⟨[0xfe80, 0, 0, 0, 0, 0, 0, 1], rfl⟩ 31 0 2)

/-- The text has no place for the scope of an address. -/
theorem scope_not_written :
    scopedRelay.rtp.port ≠ 0 ∧ scopedRelay.rtcp.isSome ∧
      (do
        let prepared ← rewriteAudioSdp sampleOffer scopedRelay
        let parsed ← parseAudioSdp prepared.body
        pure (decide (parsed.remoteRtp = scopedRelay.rtp))) = .ok false := by
  decide

end Rewritten

end VoipSwitch.Sdp
