import VoipSwitch.Media.Relaying

/-! Which lines a rewriting changes, what it leaves of the other party's addresses, and what a
second rewriting finds. -/
namespace VoipSwitch.Sdp

open Internet Words FirstMatch

section Places

variable {p : Line → Bool} {l l' : List Line} {f : Line → Line} {i start index : Nat} {x : Line}

/-- The kinds of the lines tell the places of the first ones. -/
theorem findFrom_congr (hKinds : l.map p = l'.map p) :
    findFrom start p l = findFrom start p l' := by
  have hKind : ∀ l : List Line, (l.drop start).findIdx? p = ((l.map p).drop start).findIdx? id := by
    intro l
    rw [← List.map_drop, List.findIdx?_map]
    rfl
  rw [findFrom, findFrom, hKind l, hKind l', hKinds]

theorem findIdx?_congr (hKinds : l.map p = l'.map p) : l.findIdx? p = l'.findIdx? p := by
  have hKind : ∀ l : List Line, l.findIdx? p = (l.map p).findIdx? id := by
    intro l
    rw [List.findIdx?_map]
    rfl
  rw [hKind l, hKind l', hKinds]

theorem connectionIndex_congr (hKinds : l.map isConnection = l'.map isConnection) :
    connectionIndex l index = connectionIndex l' index := by
  have hTake : (l.take index).map isConnection = (l'.take index).map isConnection := by
    rw [List.map_take, List.map_take, hKinds]
  rw [connectionIndex, connectionIndex, findFrom_congr hKinds, findIdx?_congr hTake]

/-- A line of the same kind may stand for another. -/
theorem map_modify_of_same (hSame : ∀ old ∈ l[i]?, p (f old) = p old) :
    (l.modify i f).map p = l.map p := by
  apply List.ext_getElem?
  intro j
  rw [List.getElem?_map, List.getElem?_map, List.getElem?_modify]
  cases hOld : l[j]? with
  | none => rfl
  | some old =>
      simp only [Option.map_some]
      split
      · rename_i hHere
        subst hHere
        exact congrArg some (hSame old hOld)
      · rfl

theorem map_set_of_same (hSame : ∀ old ∈ l[i]?, p x = p old) : (l.set i x).map p = l.map p := by
  rw [List.set_eq_modify]
  exact map_modify_of_same hSame

theorem getElem?_of_findIdx? (hPlace : l.findIdx? p = some i) : ∃ line ∈ l[i]?, p line = true := by
  obtain ⟨hShort, hIs, -⟩ := List.findIdx?_eq_some_iff_getElem.mp hPlace
  exact ⟨l[i], List.getElem?_eq_getElem hShort, hIs⟩

theorem getElem?_of_findFrom (hPlace : findFrom start p l = some i) :
    ∃ line ∈ l[i]?, p line = true := by
  obtain ⟨j, hLater, rfl⟩ := Option.map_eq_some_iff.mp hPlace
  obtain ⟨line, hLine, hIs⟩ := getElem?_of_findIdx? hLater
  refine ⟨line, ?_, hIs⟩
  rwa [List.getElem?_drop, Nat.add_comm] at hLine

theorem getElem?_of_connectionIndex (hPlace : connectionIndex l index = some i) :
    ∃ line ∈ l[i]?, isConnection line = true := by
  unfold connectionIndex at hPlace
  cases hFrom : findFrom (index + 1) isConnection l with
  | some j =>
      rw [hFrom] at hPlace
      obtain rfl : j = i := Option.some.inj hPlace
      exact getElem?_of_findFrom hFrom
  | none =>
      rw [hFrom] at hPlace
      have hTake : (l.take index).findIdx? isConnection = some i := hPlace
      obtain ⟨line, hLine, hIs⟩ := getElem?_of_findIdx? hTake
      refine ⟨line, ?_, hIs⟩
      rw [List.getElem?_take] at hLine
      split at hLine
      · exact hLine
      · exact absurd hLine (by simp)

end Places

section Local

variable {relay : RelayEndpoint} {index : Nat} {lines written : List Line}

/-- The lines differ in the media line, the first origin, the connection that counts, and the first
RTCP attribute of the stream, which is replaced, inserted behind the media line, or removed. -/
def OnlyAddresses (relay : RelayEndpoint) (index : Nat) (lines written : List Line) : Prop :=
  ∃ same : List Line, same.length = lines.length ∧
    (∀ i, i ≠ index → lines.findIdx? isOrigin ≠ some i → connectionIndex lines index ≠ some i →
      same[i]? = lines[i]?) ∧
    match relay.rtcp, findFrom (index + 1) isRtcp lines with
    | some address, some i => written = same.set i (rtcpLine address)
    | some address, none => written = same.insertIdx (index + 1) (rtcpLine address)
    | none, some i => written = same.eraseIdx i
    | none, none => written = same

theorem map_rewriteOriginAddress {p : Line → Bool} (ip : IpAddr)
    (hOrigin : ∀ line, isOrigin line = true → p line = p (relayOrigin ip line)) :
    (rewriteOriginAddress lines ip).map p = lines.map p := by
  unfold rewriteOriginAddress
  split
  · rfl
  · rename_i place hPlace
    apply map_modify_of_same
    intro old hOld
    obtain ⟨line, hLine, hIs⟩ := getElem?_of_findIdx? hPlace
    obtain rfl := Option.some.inj (hOld.symm.trans hLine)
    exact (hOrigin old hIs).symm

@[simp] theorem length_rewriteOriginAddress (ip : IpAddr) :
    (rewriteOriginAddress lines ip).length = lines.length := by
  unfold rewriteOriginAddress
  split
  · rfl
  · exact List.length_modify ..

theorem getElem?_rewriteOriginAddress {i : Nat} (ip : IpAddr)
    (hOther : lines.findIdx? isOrigin ≠ some i) :
    (rewriteOriginAddress lines ip)[i]? = lines[i]? := by
  unfold rewriteOriginAddress
  split
  · rfl
  · rename_i place hPlace
    apply List.getElem?_modify_ne
    intro hHere
    exact hOther (by rw [hPlace, hHere])

theorem isRtcp_of_isOrigin {line : Line} (hLine : isOrigin line = true) : isRtcp line = false :=
  startsWith_disjoint (by decide) (by decide) hLine

theorem isRtcp_of_isConnection {line : Line} (hLine : isConnection line = true) :
    isRtcp line = false :=
  startsWith_disjoint (by decide) (by decide) hLine

theorem onlyAddresses_of_relayLines (hIndex : mediaIndex lines = .ok index)
    (hWritten : relayLines lines index relay = .ok written) :
    OnlyAddresses relay index lines written := by
  obtain ⟨s, hOne, rfl, rfl⟩ := Sections.exists_of_mediaIndex hIndex
  have hMedia : s.lines[s.session.length]? = some s.media := by simp [Sections.lines]
  have hKind : ∀ p : Line → Bool, p (relayMediaLine relay.rtp.port s.media) = p s.media →
      (s.lines.set s.session.length (relayMediaLine relay.rtp.port s.media)).map p =
        s.lines.map p := by
    intro p hKind
    apply map_set_of_same
    intro old hOld
    obtain rfl := Option.some.inj (hMedia.symm.trans hOld)
    exact hKind
  have hOrigins := hKind isOrigin (startsWith_disjoint (by decide) (by decide) hOne.media).symm
  have hConnections := (map_rewriteOriginAddress relay.rtp.ip fun line hLine =>
    (isConnection_of_isOrigin hLine).trans
      (isConnection_of_isOrigin (isOrigin_relayOrigin hLine)).symm).trans
    (hKind isConnection (startsWith_disjoint (by decide) (by decide) hOne.media).symm)
  have hRtcps := (map_rewriteOriginAddress relay.rtp.ip fun line hLine =>
    (isRtcp_of_isOrigin hLine).trans (isRtcp_of_isOrigin (isOrigin_relayOrigin hLine)).symm).trans
    (hKind isRtcp (startsWith_disjoint (by decide) (by decide) hOne.media).symm)
  unfold relayLines at hWritten
  simp only [Sections.getD_lines, connectionIndex_congr hConnections] at hWritten
  split at hWritten
  · exact absurd hWritten (by simp)
  · rename_i place hPlace
    obtain rfl := Except.ok.inj hWritten
    have hAll := (map_set_of_same (x := connectionLine relay.rtp.ip) (i := place) fun old hOld => by
      obtain ⟨line, hLine, hIs⟩ := getElem?_of_connectionIndex
        ((connectionIndex_congr hConnections).trans hPlace)
      obtain rfl := Option.some.inj (hLine.symm.trans hOld)
      exact (isRtcp_of_isConnection hIs).symm).trans hRtcps
    refine ⟨(rewriteOriginAddress (s.lines.set s.session.length
      (relayMediaLine relay.rtp.port s.media)) relay.rtp.ip).set place
        (connectionLine relay.rtp.ip), ?_, ?_, ?_⟩
    · simp
    · intro i hNotMedia hNotOrigin hNotConnection
      have hNotPlace : place ≠ i := fun hHere => hNotConnection (by rw [hPlace, hHere])
      rw [List.getElem?_set_ne hNotPlace, getElem?_rewriteOriginAddress,
        List.getElem?_set_ne hNotMedia.symm]
      rwa [findIdx?_congr hOrigins]
    · rw [rewriteRtcp.eq_def, findFrom_congr hAll]
      cases relay.rtcp with
      | some address => cases findFrom (s.session.length + 1) isRtcp s.lines <;> rfl
      | none => cases findFrom (s.session.length + 1) isRtcp s.lines <;> rfl

end Local

section Repeated

namespace Sections

variable {s : Sections} {relay : RelayEndpoint} {p : Line → Bool} {f : Line → Line}
  {parsed : ParsedAudioSdp} {ip : IpAddr} {port : UInt16}

theorem find?_eq_none_of_any {l : List Line} (hNone : l.any p = false) : l.find? p = none :=
  List.find?_eq_none.mpr fun line hMem hIs => List.any_eq_false.mp hNone line hMem hIs

theorem modifyAny_eq_self
    (hFirst : ∀ line, (s.session.find? p <|> s.attributes.find? p) = some line → f line = line) :
    s.modifyAny p f = s := by
  unfold modifyAny
  split
  · rw [modifyFirst_eq_self fun line hLine => hFirst line (by rw [hLine]; rfl)]
  · rename_i hSession
    rw [modifyFirst_eq_self fun line hLine => hFirst line ?_]
    rw [find?_eq_none_of_any (Bool.eq_false_iff.mpr hSession)]
    exact hLine

theorem modifyEffective_eq_self
    (hFirst : ∀ line, (s.attributes.find? p <|> s.session.find? p) = some line → f line = line) :
    s.modifyEffective p f = s := by
  unfold modifyEffective
  split
  · rw [modifyFirst_eq_self fun line hLine => hFirst line (by rw [hLine]; rfl)]
  · rename_i hAttributes
    rw [modifyFirst_eq_self fun line hLine => hFirst line ?_]
    rw [find?_eq_none_of_any (Bool.eq_false_iff.mpr hAttributes)]
    exact hLine

theorem relayRtcp_some_eq_self {address : SocketAddr}
    (hFirst : s.attributes.find? isRtcp = some (rtcpLine address)) :
    s.relayRtcp (some address) = s := by
  have hAny : s.attributes.any isRtcp = true :=
    List.any_eq_true.mpr ⟨_, List.mem_of_find?_eq_some hFirst, rfl⟩
  unfold relayRtcp
  simp only
  rw [if_pos hAny, modifyFirst_eq_self]
  intro line hLine
  exact Option.some.inj (hFirst.symm.trans hLine)

theorem relayRtcp_none_eq_self : s.relayRtcp none = s ↔ s.attributes.any isRtcp = false := by
  rw [List.any_eq_false, ← List.eraseP_eq_self_iff]
  constructor
  · intro hSame
    exact congrArg Sections.attributes hSame
  · intro hSame
    unfold relayRtcp
    simp only [hSame]

theorem any_eraseP {l : List Line} : (l.eraseP p).any p = false ↔ l.countP p ≤ 1 := by
  induction l with
  | nil => simp
  | cons line l ih =>
      cases hIs : p line with
      | true =>
          rw [List.eraseP_cons_of_pos hIs, List.countP_cons_of_pos hIs, List.any_eq_false,
            ← List.countP_eq_zero]
          omega
      | false =>
          rw [List.eraseP_cons_of_neg (Bool.eq_false_iff.mp hIs), List.any_cons, hIs,
            Bool.false_or, ih, List.countP_cons_of_neg (Bool.eq_false_iff.mp hIs)]

/-- The first line of a kind is the one that was changed. -/
theorem find?_modifyAny (hKeeps : ∀ line, p line = true → p (f line) = true) :
    ((s.modifyAny p f).session.find? p <|> (s.modifyAny p f).attributes.find? p) =
      (s.session.find? p <|> s.attributes.find? p).map f := by
  unfold modifyAny
  split
  · rename_i hSession
    obtain ⟨line, hMem, hIs⟩ := List.any_eq_true.mp hSession
    change ((modifyFirst p f s.session).find? p <|> s.attributes.find? p) = _
    rw [find?_modifyFirst hKeeps]
    cases hFirst : s.session.find? p with
    | some first => rfl
    | none => exact absurd hIs (List.find?_eq_none.mp hFirst line hMem)
  · rename_i hSession
    change (s.session.find? p <|> (modifyFirst p f s.attributes).find? p) = _
    rw [find?_modifyFirst hKeeps, find?_eq_none_of_any (Bool.eq_false_iff.mpr hSession)]
    rfl

theorem origins_relayRtcp (relay : RelayEndpoint) (t : Sections) :
    Agree isOrigin (t.relayRtcp relay.rtcp) t :=
  agree_relayRtcp relay.rtcp fun _ hOld => startsWith_disjoint (by decide) (by decide) hOld

theorem origins_modifyEffective (relay : RelayEndpoint) (t : Sections) :
    Agree isOrigin (t.modifyEffective isConnection fun _ => connectionLine relay.rtp.ip) t :=
  agree_modifyEffective (fun _ hOld => startsWith_disjoint (by decide) (by decide) hOld)
    fun _ _ => rfl

theorem rtcps_modifyAny (relay : RelayEndpoint) (t : Sections) :
    Agree isRtcp (t.modifyAny isOrigin (relayOrigin relay.rtp.ip)) t :=
  agree_modifyAny (fun _ hOld => isRtcp_of_isOrigin hOld) fun _ hOld =>
    isRtcp_of_isOrigin (isOrigin_relayOrigin hOld)

theorem rtcps_modifyEffective (relay : RelayEndpoint) (t : Sections) :
    Agree isRtcp (t.modifyEffective isConnection fun _ => connectionLine relay.rtp.ip) t :=
  agree_modifyEffective (fun _ hOld => isRtcp_of_isConnection hOld) fun _ _ => rfl

/-- The first origin of what was written is left as it is. -/
theorem relayOrigin_of_relayed {line : Line}
    (hLine : ((s.relayed relay).session.find? isOrigin <|>
      (s.relayed relay).attributes.find? isOrigin) = some line) :
    relayOrigin relay.rtp.ip line = line := by
  have hRtcp := origins_relayRtcp relay
  have hConnection := origins_modifyEffective relay
  rw [relayed, find?_eq_of_filter (hRtcp _).1, find?_eq_of_filter (hRtcp _).2,
    find?_eq_of_filter (hConnection _).1, find?_eq_of_filter (hConnection _).2,
    find?_modifyAny (p := isOrigin) fun _ => isOrigin_relayOrigin] at hLine
  obtain ⟨old, -, rfl⟩ := Option.map_eq_some_iff.mp hLine
  exact relayOrigin_relayOrigin relay.rtp.ip old

/-- Of what was written, only an RTCP attribute that is left can be rewritten once more. -/
theorem relayed_relayed (hReads : s.Reads parsed ip port) :
    (s.relayed relay).relayed relay = (s.relayed relay).relayRtcp relay.rtcp := by
  obtain ⟨oldPort, payload, payloads, hTokens, -⟩ := tokens_of_parseMediaLine hReads.media
  have hMedia : { s.relayed relay with
      media := relayMediaLine relay.rtp.port (s.relayed relay).media } = s.relayed relay := by
    rw [media_relayed, relayMediaLine_eq relay.rtp.port (splitWhitespace_relayMediaLine _ hTokens),
      ← relayMediaLine_eq relay.rtp.port hTokens, ← media_relayed]
  have hConnection := find?_isConnection_relayed relay hReads.any_connection
  rw [relayed, hMedia, modifyAny_eq_self fun line hLine => relayOrigin_of_relayed hLine,
    modifyEffective_eq_self fun line hLine => Option.some.inj (hConnection.symm.trans hLine)]

theorem relayed_relayed_eq_self (relay : RelayEndpoint) (hReads : s.Reads parsed ip port) :
    (s.relayed relay).relayed relay = s.relayed relay ↔
      (relay.rtcp = none → s.attributes.countP isRtcp ≤ 1) := by
  rw [relayed_relayed hReads]
  cases hRtcp : relay.rtcp with
  | some address =>
      have hFirst : (s.relayed relay).attributes.find? isRtcp = some (rtcpLine address) := by
        rw [relayed, hRtcp]
        exact find?_isRtcp_relayRtcp address
      rw [relayRtcp_some_eq_self hFirst]
      exact ⟨fun _ hNone => absurd hNone (by simp), fun _ => rfl⟩
  | none =>
      have hOrigin := rtcps_modifyAny relay
      have hConnection := rtcps_modifyEffective relay
      have hLeft : (s.relayed relay).attributes = List.eraseP isRtcp
          (modifyEffective isConnection (fun _ => connectionLine relay.rtp.ip)
            (modifyAny isOrigin (relayOrigin relay.rtp.ip)
              { s with media := relayMediaLine relay.rtp.port s.media })).attributes := by
        rw [relayed, hRtcp]
        rfl
      rw [relayRtcp_none_eq_self, hLeft, any_eraseP, List.countP_eq_length_filter,
        (hConnection _).2, (hOrigin _).2, ← List.countP_eq_length_filter]
      exact ⟨fun hCount _ => hCount, fun hCount => hCount rfl⟩

end Sections

variable {body : SdpBody} {relay : RelayEndpoint} {prepared : PreparedSdp} {lines : List Line}
  {index : Nat}

/-- What it takes for a second rewriting to find nothing to change: the relay has a port, and an
RTCP address or at most one RTCP attribute to remove. -/
def Settles (relay : RelayEndpoint) (index : Nat) (lines : List Line) : Prop :=
  relay.rtp.port ≠ 0 ∧ (relay.rtcp = none → (lines.drop (index + 1)).countP isRtcp ≤ 1)

/-- A rewriting changes only the lines with addresses, and a second one changes nothing more, where
the relay leaves it nothing to change. -/
theorem rewriteAudioSdp_local (hLines : sdpLines body = .ok lines)
    (hIndex : mediaIndex lines = .ok index)
    (hRewrite : rewriteAudioSdp body relay = .ok prepared) :
    (∃ written, sdpLines prepared.body = .ok written ∧
      OnlyAddresses relay index lines written) ∧
    ((∃ again, rewriteAudioSdp prepared.body relay = .ok again ∧ again.body = prepared.body) ↔
      Settles relay index lines) := by
  obtain ⟨s, hOne, hWhole, ⟨ip, port, hReads⟩, hBody⟩ :=
    Sections.rewriteAudioSdp_eq_ok.mp hRewrite
  obtain rfl := Except.ok.inj (hLines.symm.trans hWhole)
  obtain rfl := Except.ok.inj (hIndex.symm.trans (Sections.mediaIndex_lines hOne))
  have hRead := Sections.sdpLines_relayed relay hLines hReads
  rw [← hBody] at hRead
  have hStill := Sections.relayed_relayed_eq_self relay hReads
  refine ⟨⟨_, hRead, onlyAddresses_of_relayLines hIndex
    (Sections.relayLines_lines hReads.any_connection)⟩, ?_⟩
  rw [Settles, Sections.drop_lines, ← hStill]
  constructor
  · rintro ⟨again, hAgain, hSame⟩
    obtain ⟨s', hOne', hWhole', ⟨ip', port', hReads'⟩, hBody'⟩ :=
      Sections.rewriteAudioSdp_eq_ok.mp hAgain
    obtain rfl := Sections.eq_of_lines (Sections.oneMedia_relayed relay hOne) hOne'
      (Except.ok.inj (hRead.symm.trans hWhole'))
    constructor
    · intro hPort
      have hMedia := hReads'.media
      rw [Sections.media_relayed, parseMediaLine_relayMediaLine hReads.media, if_pos hPort]
        at hMedia
      exact absurd hMedia (by simp)
    · rw [hBody', hBody] at hSame
      have hReadAgain := Sections.sdpLines_relayed relay hWhole' hReads'
      rw [hSame, ← hBody, hRead] at hReadAgain
      exact Sections.eq_of_lines
        (Sections.oneMedia_relayed relay (Sections.oneMedia_relayed relay hOne))
        (Sections.oneMedia_relayed relay hOne) (Except.ok.inj hReadAgain).symm
  · rintro ⟨hPort, hSame⟩
    obtain ⟨rtcp, hRtcp⟩ : ∃ rtcp, remoteRtcp (s.relayed relay).attributes relay.rtp.ip
        relay.rtp.port = .ok rtcp := by
      cases hRelay : relay.rtcp with
      | some address => exact ⟨_, Sections.remoteRtcp_relayed hRelay⟩
      | none =>
          rw [Sections.relayed_relayed hReads, hRelay, Sections.relayRtcp_none_eq_self] at hSame
          exact ⟨_, by rw [remoteRtcp, Sections.find?_eq_none_of_any hSame]⟩
    have hReads' := Sections.reads_relayed hOne hReads hPort hRtcp
    refine ⟨⟨prepared.body, _⟩, Sections.rewriteAudioSdp_eq_ok.mpr ⟨s.relayed relay,
      Sections.oneMedia_relayed relay hOne, hRead, ⟨_, _, hReads'⟩, ?_⟩, rfl⟩
    rw [hSame]
    exact hBody

def sampleLines : List Line := ["c=IN IP4 10.0.0.1".toList, "m=audio 9 RTP/AVP 0".toList]

theorem sdpLines_sample : sdpLines sampleOffer = .ok sampleLines := by
  decide

theorem rewriteAudioSdp_local_sample :
    (∃ written, sdpLines samplePrepared.body = .ok written ∧
      OnlyAddresses sampleRelay 1 sampleLines written) ∧
    ((∃ again, rewriteAudioSdp samplePrepared.body sampleRelay = .ok again ∧
      again.body = samplePrepared.body) ↔ Settles sampleRelay 1 sampleLines) :=
  @rewriteAudioSdp_local sampleOffer sampleRelay samplePrepared sampleLines 1 sdpLines_sample rfl
    rewriteAudioSdp_sample

/-- Without an RTCP address of the relay, each rewriting removes one more attribute. -/
theorem second_attribute_removed :
    (do
      let first ← rewriteAudioSdp
        ⟨"application/sdp", "c=IN IP4 10.0.0.1\nm=audio 9 RTP/AVP 0\na=rtcp:7\na=rtcp:8\n"⟩
        ⟨.v4 ⟨10, 0, 0, 2⟩ 30, none⟩
      let second ← rewriteAudioSdp first.body ⟨.v4 ⟨10, 0, 0, 2⟩ 30, none⟩
      pure (first.body.text, second.body.text)) =
    .ok ("c=IN IP4 10.0.0.2\r\nm=audio 30 RTP/AVP 0\r\na=rtcp:8\r\n",
      "c=IN IP4 10.0.0.2\r\nm=audio 30 RTP/AVP 0\r\n") := by
  decide

end Repeated

section Hidden

variable {body : SdpBody} {relay : RelayEndpoint} {prepared : PreparedSdp} {rtcp : SocketAddr}
  {lines : List Line} {index : Nat}

/-- An origin with six fields has the address in the last of them. -/
def originNames (ip : IpAddr) (line : Line) : Bool :=
  (splitWhitespace (line.drop 2))[5]?.all fun address => IpAddr.parse address = some ip

/-- Every line with an address has one of the relay's. -/
def HidesRemote (relay : RelayEndpoint) (rtcp : SocketAddr) (index : Nat) (lines : List Line) :
    Prop :=
  (∀ line ∈ lines, isConnection line = true → parseConnection line = .ok relay.rtp.ip) ∧
  (∀ line ∈ lines.drop (index + 1), isRtcp line = true →
    parseRtcp line relay.rtp.ip = .ok (.new rtcp.ip rtcp.port)) ∧
  ∀ line ∈ lines, isOrigin line = true → originNames relay.rtp.ip line = true

/-- The connections that do not count. -/
def otherConnections (index : Nat) (lines : List Line) : List Line :=
  if (lines.drop (index + 1)).any isConnection then
    (lines.take index).filter isConnection ++
      ((lines.drop (index + 1)).filter isConnection).tail
  else ((lines.take index).filter isConnection).tail

/-- The connections that do not count, and the RTCP attributes and the origins after the first, have
the relay's addresses already. -/
def OthersHidden (relay : RelayEndpoint) (rtcp : SocketAddr) (index : Nat) (lines : List Line) :
    Prop :=
  (∀ line ∈ otherConnections index lines, parseConnection line = .ok relay.rtp.ip) ∧
  (∀ line ∈ ((lines.drop (index + 1)).filter isRtcp).tail,
    parseRtcp line relay.rtp.ip = .ok (.new rtcp.ip rtcp.port)) ∧
  ∀ line ∈ (lines.filter isOrigin).tail, originNames relay.rtp.ip line = true

theorem originNames_relayOrigin (ip : IpAddr) (line : Line) :
    originNames ip (relayOrigin ip line) = true := by
  by_cases hShort : (splitWhitespace (line.drop 2)).length < 6
  · have hSame : relayOrigin ip line = line := by
      unfold relayOrigin
      simp only [hShort, if_true]
    rw [hSame, originNames, List.getElem?_eq_none (by omega)]
    rfl
  · obtain ⟨a, b, c, d, e, f, rest, hTokens⟩ := exists_six hShort
    have hSplit : splitWhitespace ((relayOrigin ip line).drop 2) =
        a :: b :: c :: "IN".toList :: familyText ip :: ip.text :: rest := by
      rw [relayOrigin_eq hTokens]
      exact splitWhitespace_joinTokens (isWord_origin hTokens)
    rw [originNames, hSplit]
    exact decide_eq_true ip.parse_text

namespace Sections

variable {s s' : Sections} {p : Line → Bool} {P : Line → Prop} {relay : RelayEndpoint}
  {rtcp : SocketAddr}

/-- What is asked of the lines of a kind is asked of those of the session and of the attributes. -/
theorem forall_lines (hMedia : p s.media = false) :
    (∀ line ∈ s.lines, p line = true → P line) ↔
      (∀ line ∈ s.session, p line = true → P line) ∧
        ∀ line ∈ s.attributes, p line = true → P line := by
  simp only [Sections.lines, List.mem_append, List.mem_cons, or_imp, forall_and, forall_eq, hMedia,
    Bool.false_eq_true, false_implies, true_and]

theorem forall_of_filter {l l' : List Line} (hSame : l.filter p = l'.filter p) :
    (∀ line ∈ l, p line = true → P line) ↔ ∀ line ∈ l', p line = true → P line := by
  simp only [← and_imp, ← List.mem_filter, hSame]

theorem Agree.forall_lines (hAgree : Agree p s s') (hMedia : p s.media = false)
    (hMedia' : p s'.media = false) :
    (∀ line ∈ s.lines, p line = true → P line) ↔ ∀ line ∈ s'.lines, p line = true → P line := by
  rw [Sections.forall_lines hMedia, Sections.forall_lines hMedia', forall_of_filter hAgree.1,
    forall_of_filter hAgree.2]

theorem forall_connections_relayed :
    (∀ line ∈ (s.relayed relay).lines, isConnection line = true →
      parseConnection line = .ok relay.rtp.ip) ↔
    ∀ line ∈ otherConnections s.session.length s.lines,
      parseConnection line = .ok relay.rtp.ip := by
  have hOrigin : Agree isConnection (modifyAny isOrigin (relayOrigin relay.rtp.ip)
      { s with media := relayMediaLine relay.rtp.port s.media }) s := connections_modifyAny relay _
  have hRtcp := connections_relayRtcp relay
  have hWritten : ∀ line, isConnection line = true →
      parseConnection (connectionLine relay.rtp.ip) = .ok relay.rtp.ip := fun _ _ =>
    parseConnection_connectionLine _
  have hMedia : isConnection (relayMediaLine relay.rtp.port s.media) = false := rfl
  rw [relayed, (hRtcp _).forall_lines (by simpa using hMedia) (by simpa using hMedia),
    forall_lines (by simpa using hMedia), otherConnections, drop_lines, take_lines]
  unfold modifyEffective
  rw [any_eq_of_filter hOrigin.2]
  split
  · rw [forall_modifyFirst hWritten, forall_of_filter hOrigin.1, hOrigin.2]
    simp only [List.mem_append, or_imp, forall_and, List.mem_filter, and_imp]
  · rename_i hNone
    rw [forall_modifyFirst hWritten, forall_of_filter hOrigin.2, hOrigin.1]
    exact ⟨fun h => h.1, fun h => ⟨h, fun line hMem hIs =>
      absurd (List.any_eq_true.mpr ⟨line, hMem, hIs⟩) hNone⟩⟩

theorem forall_rtcps_relayed (hRelay : relay.rtcp = some rtcp) :
    (∀ line ∈ (s.relayed relay).attributes, isRtcp line = true →
      parseRtcp line relay.rtp.ip = .ok (.new rtcp.ip rtcp.port)) ↔
    ∀ line ∈ (s.attributes.filter isRtcp).tail,
      parseRtcp line relay.rtp.ip = .ok (.new rtcp.ip rtcp.port) := by
  have hOrigin := rtcps_modifyAny relay
  have hConnection := rtcps_modifyEffective relay
  have hSame := ((hConnection _).trans (hOrigin { s with
    media := relayMediaLine relay.rtp.port s.media })).2
  rw [relayed, hRelay]
  unfold relayRtcp
  simp only
  split
  · have hAfter := @forall_modifyFirst _ isRtcp (fun _ => rtcpLine rtcp)
      (modifyEffective isConnection (fun _ => connectionLine relay.rtp.ip)
        (modifyAny isOrigin (relayOrigin relay.rtp.ip)
          { s with media := relayMediaLine relay.rtp.port s.media })).attributes
      (fun line => parseRtcp line relay.rtp.ip = .ok (.new rtcp.ip rtcp.port))
      fun _ _ => parseRtcp_rtcpLine rtcp relay.rtp.ip
    rw [hAfter, hSame]
  · rename_i hNone
    have hEmpty : s.attributes.filter isRtcp = [] := by
      rw [← hSame, List.filter_eq_nil_iff]
      exact fun line hMem hIs => hNone (List.any_eq_true.mpr ⟨line, hMem, hIs⟩)
    rw [hEmpty]
    constructor
    · exact fun _ line hMem => absurd hMem List.not_mem_nil
    · intro _ line hMem hIs
      rcases List.mem_cons.mp hMem with rfl | hOld
      · exact parseRtcp_rtcpLine rtcp relay.rtp.ip
      · exact absurd (List.any_eq_true.mpr ⟨line, hOld, hIs⟩) hNone

theorem forall_origins_relayed (hOne : s.OneMedia) :
    (∀ line ∈ (s.relayed relay).lines, isOrigin line = true →
      originNames relay.rtp.ip line = true) ↔
    ∀ line ∈ (s.lines.filter isOrigin).tail, originNames relay.rtp.ip line = true := by
  have hRtcp := origins_relayRtcp relay
  have hConnection := origins_modifyEffective relay
  have hNew : isOrigin (relayMediaLine relay.rtp.port s.media) = false := rfl
  have hOld : isOrigin s.media = false :=
    startsWith_disjoint (by decide) (by decide) hOne.media
  have hLines : (Sections.lines { s with
      media := relayMediaLine relay.rtp.port s.media }).filter isOrigin =
        s.lines.filter isOrigin := by
    rw [Sections.lines, Sections.lines, List.filter_append, List.filter_append, List.filter_cons,
      List.filter_cons, hNew, hOld]
    rfl
  rw [relayed, (hRtcp _).forall_lines (by simpa using hNew) (by simpa using hNew),
    (hConnection _).forall_lines (by simpa using hNew) (by simpa using hNew),
    ← lines_modifyAny hNew, forall_modifyFirst fun line _ => originNames_relayOrigin _ line, hLines]

end Sections

/-- The other party stays hidden exactly if the lines that are not rewritten do not name it: the
connections that do not count, and the RTCP attributes and the origins behind the first. -/
theorem rewriteAudioSdp_hides (hRtcp : relay.rtcp = some rtcp) (hLines : sdpLines body = .ok lines)
    (hIndex : mediaIndex lines = .ok index)
    (hRewrite : rewriteAudioSdp body relay = .ok prepared) :
    (∃ written, sdpLines prepared.body = .ok written ∧ mediaIndex written = .ok index ∧
      HidesRemote relay rtcp index written) ↔ OthersHidden relay rtcp index lines := by
  obtain ⟨s, hOne, hWhole, ⟨ip, port, hReads⟩, hBody⟩ :=
    Sections.rewriteAudioSdp_eq_ok.mp hRewrite
  obtain rfl := Except.ok.inj (hLines.symm.trans hWhole)
  obtain rfl := Except.ok.inj (hIndex.symm.trans (Sections.mediaIndex_lines hOne))
  have hRead := Sections.sdpLines_relayed relay hLines hReads
  have hPlace := Sections.mediaIndex_lines (Sections.oneMedia_relayed relay hOne)
  have hDrop : (s.relayed relay).lines.drop (s.session.length + 1) =
      (s.relayed relay).attributes := by
    rw [← Sections.length_session_relayed relay, Sections.drop_lines]
  rw [← hBody] at hRead
  rw [Sections.length_session_relayed relay] at hPlace
  have hHides : HidesRemote relay rtcp s.session.length (s.relayed relay).lines ↔
      OthersHidden relay rtcp s.session.length s.lines := by
    rw [HidesRemote, OthersHidden, hDrop, Sections.drop_lines,
      Sections.forall_connections_relayed, Sections.forall_rtcps_relayed hRtcp,
      Sections.forall_origins_relayed hOne]
  rw [← hHides]
  constructor
  · rintro ⟨written, hWritten, -, hHidden⟩
    obtain rfl := Except.ok.inj (hRead.symm.trans hWritten)
    exact hHidden
  · intro hHidden
    exact ⟨_, hRead, hPlace, hHidden⟩

theorem rewriteAudioSdp_hides_sample :
    (∃ written, sdpLines samplePrepared.body = .ok written ∧ mediaIndex written = .ok 1 ∧
      HidesRemote sampleRelay (.v4 ⟨10, 0, 0, 2⟩ 31) 1 written) ↔
    OthersHidden sampleRelay (.v4 ⟨10, 0, 0, 2⟩ 31) 1 sampleLines :=
  @rewriteAudioSdp_hides sampleOffer sampleRelay samplePrepared _ sampleLines 1 rfl
    sdpLines_sample rfl rewriteAudioSdp_sample

/-- The connection of the session still names the other party. -/
theorem session_connection_left :
    (do
      let prepared ← rewriteAudioSdp ⟨"application/sdp",
        "c=IN IP4 10.0.0.1\nm=audio 9 RTP/AVP 0\nc=IN IP4 10.0.0.1\n"⟩ sampleRelay
      let lines ← sdpLines prepared.body
      (lines.filter isConnection).mapM parseConnection) =
    .ok [.v4 ⟨10, 0, 0, 1⟩, .v4 ⟨10, 0, 0, 2⟩] := by
  decide

end Hidden

end VoipSwitch.Sdp
