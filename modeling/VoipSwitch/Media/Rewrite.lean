import VoipSwitch.Media.Sections

/-! What the switch has written into a description is read back as it was written. -/
namespace VoipSwitch.Sdp

open Internet Words FirstMatch Numeral

section Text

/-- A line that its text gives back. -/
def Clean (line : Line) : Prop := line ≠ [] ∧ '\n' ∉ line ∧ line.getLast? ≠ some '\r'

variable {lines : List Line} {line : Line} {body : SdpBody}

theorem clean_of_sdpLines (hLines : sdpLines body = .ok lines) : ∀ line ∈ lines, Clean line := by
  unfold sdpLines at hLines
  simp only at hLines
  split at hLines
  · obtain rfl := Except.ok.inj hLines
    intro line hMem
    obtain ⟨hTrimmed, hSome⟩ := List.mem_filter.mp hMem
    obtain ⟨whole, hWhole, rfl⟩ := List.mem_map.mp hTrimmed
    rw [Bool.not_eq_true', List.isEmpty_eq_false_iff] at hSome
    refine ⟨hSome, ?_, ?_⟩
    · intro hFeed
      exact feed_notMem_textLines hWhole ((List.rdropWhile_prefix _ whole).subset hFeed)
    · intro hLast
      apply List.rdropWhile_last_not _ _ hSome
      rw [List.getLast?_eq_some_getLast hSome] at hLast
      exact decide_eq_true (Option.some.inj hLast)
  · exact absurd hLines (by simp)

/-- The text of clean lines gives the lines back. -/
theorem sdpLines_sdpText (hSome : lines ≠ []) (hClean : ∀ line ∈ lines, Clean line) :
    sdpLines ⟨"application/sdp", sdpText lines⟩ = .ok lines := by
  have hText : ['\r', '\n'].intercalate lines ++ ['\r', '\n'] =
      lines.flatMap fun line => line ++ ['\r', '\n'] := by
    induction lines with
    | nil => exact absurd rfl hSome
    | cons line lines ih =>
        cases lines with
        | nil => simp
        | cons next lines =>
            rw [List.intercalate_cons_cons, List.append_assoc, ih (by simp) fun l hMem =>
              hClean l (List.mem_cons_of_mem _ hMem)]
            rfl
  have hTrim : ∀ line ∈ lines, line.rdropWhile (· = '\r') = line := by
    intro line hMem
    rw [List.rdropWhile_eq_self_iff]
    intro hNotNil hLast
    apply (hClean line hMem).2.2
    rw [List.getLast?_eq_some_getLast hNotNil, of_decide_eq_true hLast]
  have hKept : ∀ line ∈ lines, (!line.isEmpty) = true := by
    intro line hMem
    rw [Bool.not_eq_true', List.isEmpty_eq_false_iff]
    exact (hClean line hMem).1
  have hType : eqIgnoreAsciiCase (trim (String.ofList
      ("application/sdp".toList.takeWhile (· ≠ ';')))) "application/sdp" = true := by decide
  unfold sdpLines
  simp only [sdpText, hType, if_true, String.toList_ofList, hText]
  rw [textLines_flatMap (by decide) fun line hMem => (hClean line hMem).2.1,
    List.map_congr_left hTrim, List.map_id', List.filter_eq_self.mpr hKept]

end Text

section Tokens

/-- A line of letters and single spaces. -/
def Plain (line : Line) : Prop := line ≠ [] ∧ ∀ c ∈ line, c = ' ' ∨ isWhitespace c = false

variable {line : Line} {tokens : List Line}

theorem Plain.clean (hPlain : Plain line) : Clean line := by
  refine ⟨hPlain.1, ?_, ?_⟩
  · intro hFeed
    exact absurd (hPlain.2 '\n' hFeed) (by decide)
  · intro hLast
    exact absurd (hPlain.2 '\r' (List.mem_of_getLast? hLast)) (by decide)

theorem isWhitespace_eq_false {c : Char} (hLow : 33 ≤ c.toNat) (hHigh : c.toNat ≤ 132) :
    isWhitespace c = false := by
  simp only [isWhitespace, Bool.or_eq_false_iff, Bool.and_eq_false_iff, decide_eq_false_iff_not]
  omega

theorem isWord_of_isAddressChar {text : Line} (hSome : text ≠ [])
    (hText : ∀ c ∈ text, IsAddressChar c) : IsWord isWhitespace text := by
  refine ⟨hSome, ?_⟩
  intro c hMem
  rcases hText c hMem with rfl | rfl | ⟨digit, hDigit⟩
  · rfl
  · rfl
  · obtain ⟨hLow, hHigh⟩ := toNat_of_toDigit hDigit
    exact isWhitespace_eq_false (by omega) (by omega)

theorem isWord_ip (ip : IpAddr) : IsWord isWhitespace ip.text :=
  isWord_of_isAddressChar ip.text_ne_nil ip.isAddressChar

theorem isWord_port (port : UInt16) : IsWord isWhitespace (portText port) :=
  isWord_of_isAddressChar Nat.toDigits_ne_nil
    (isAddressChar_toDigits (by decide) (by decide))

theorem isWord_of_all {word : Line}
    (hWord : (!word.isEmpty && word.all fun c => !isWhitespace c) = true) :
    IsWord isWhitespace word := by
  rw [Bool.and_eq_true, Bool.not_eq_true', List.isEmpty_eq_false_iff, List.all_eq_true] at hWord
  exact ⟨hWord.1, fun c hMem => Bool.not_eq_true' _ |>.mp (hWord.2 c hMem)⟩

theorem isWord_family (ip : IpAddr) : IsWord isWhitespace (familyText ip) := by
  cases ip <;> exact isWord_of_all rfl

theorem joinTokens_singleton (token : Line) : joinTokens [token] = token :=
  List.intercalate_singleton

theorem joinTokens_cons_cons (token next : Line) (tokens : List Line) :
    joinTokens (token :: next :: tokens) = token ++ ' ' :: joinTokens (next :: tokens) := by
  rw [joinTokens, List.intercalate_cons_cons, List.append_assoc]
  rfl

/-- Words with single spaces are split again. -/
theorem splitWhitespace_joinTokens (hTokens : ∀ token ∈ tokens, IsWord isWhitespace token) :
    splitWhitespace (joinTokens tokens) = tokens :=
  words_intercalate rfl hTokens

theorem plain_joinTokens (hTokens : ∀ token ∈ tokens, IsWord isWhitespace token) :
    ∀ c ∈ joinTokens tokens, c = ' ' ∨ isWhitespace c = false := by
  induction tokens with
  | nil => exact fun c hMem => absurd hMem List.not_mem_nil
  | cons token tokens ih =>
      have hFirst := (hTokens token List.mem_cons_self).2
      have hOthers := ih fun t hMem => hTokens t (List.mem_cons_of_mem _ hMem)
      cases tokens with
      | nil =>
          intro c hMem
          rw [joinTokens_singleton] at hMem
          exact .inr (hFirst c hMem)
      | cons next tokens =>
          intro c hMem
          rw [joinTokens_cons_cons] at hMem
          rcases List.mem_append.mp hMem with hIn | hLater
          · exact .inr (hFirst c hIn)
          · rcases List.mem_cons.mp hLater with rfl | hIn
            · exact .inl rfl
            · exact hOthers c hIn

theorem plain_append {start : Line} (hStart : start.isEmpty = false)
    (hPlain : (start.all fun c => c = ' ' || !isWhitespace c) = true)
    (hTokens : ∀ token ∈ tokens, IsWord isWhitespace token) :
    Plain (start ++ joinTokens tokens) := by
  refine ⟨by simp [List.isEmpty_eq_false_iff.mp hStart], ?_⟩
  intro c hMem
  rcases List.mem_append.mp hMem with hIn | hIn
  · have hHere := List.all_eq_true.mp hPlain c hIn
    simpa using hHere
  · exact plain_joinTokens hTokens c hIn

end Tokens

section Written

variable {ip : IpAddr} {line : Line}

theorem isWord_connection (ip : IpAddr) :
    ∀ token ∈ ["IN".toList, familyText ip, ip.text], IsWord isWhitespace token := by
  intro token hMem
  simp only [List.mem_cons, List.not_mem_nil, or_false] at hMem
  rcases hMem with rfl | rfl | rfl
  · exact isWord_of_all rfl
  · exact isWord_family ip
  · exact isWord_ip ip

theorem connectionText_eq (family ip : Line) :
    "c=IN ".toList ++ family ++ ' ' :: ip = "c=".toList ++ joinTokens
      ["IN".toList, family, ip] := by
  rw [joinTokens_cons_cons, joinTokens_cons_cons, joinTokens_singleton]
  simp only [List.append_assoc]
  rfl

theorem connectionLine_eq (ip : IpAddr) :
    connectionLine ip = "c=".toList ++ joinTokens ["IN".toList, familyText ip, ip.text] :=
  connectionText_eq _ _

theorem plain_connectionLine (ip : IpAddr) : Plain (connectionLine ip) := by
  rw [connectionLine_eq]
  exact plain_append rfl rfl (isWord_connection ip)

theorem isFamily_familyText (ip : IpAddr) : isFamily (familyText ip) = true := by
  cases ip <;> rfl

/-- The connection that the switch writes is read as the relay's. -/
theorem parseConnection_connectionLine (ip : IpAddr) :
    parseConnection (connectionLine ip) = .ok ip := by
  have hDrop : (connectionLine ip).drop 2 = joinTokens ["IN".toList, familyText ip, ip.text] := by
    rw [connectionLine_eq]
    rfl
  rw [parseConnection, hDrop, splitWhitespace_joinTokens (isWord_connection ip)]
  simp only [isFamily_familyText, IpAddr.parse_text]
  rfl

theorem parseNumber_portText (port : UInt16) :
    parseNumber 16 (portText port) = some port.toNat :=
  parseUnsigned_toDigits port.toNat_lt

theorem isWord_rtcp (address : SocketAddr) :
    ∀ token ∈ [portText address.port, "IN".toList, familyText address.ip, address.ip.text],
      IsWord isWhitespace token := by
  intro token hMem
  rcases List.mem_cons.mp hMem with rfl | hLater
  · exact isWord_port address.port
  · exact isWord_connection address.ip token hLater

theorem rtcpText_eq (port family ip : Line) :
    "a=rtcp:".toList ++ port ++ " IN ".toList ++ family ++ ' ' :: ip =
      "a=rtcp:".toList ++ joinTokens [port, "IN".toList, family, ip] := by
  rw [joinTokens_cons_cons, joinTokens_cons_cons, joinTokens_cons_cons, joinTokens_singleton]
  simp only [List.append_assoc]
  rfl

theorem rtcpLine_eq (address : SocketAddr) :
    rtcpLine address = "a=rtcp:".toList ++
      joinTokens [portText address.port, "IN".toList, familyText address.ip, address.ip.text] :=
  rtcpText_eq _ _ _

theorem plain_rtcpLine (address : SocketAddr) : Plain (rtcpLine address) := by
  rw [rtcpLine_eq]
  exact plain_append rfl rfl (isWord_rtcp address)

/-- The RTCP attribute that the switch writes is read as the relay's, whatever the default. -/
theorem parseRtcp_rtcpLine (address : SocketAddr) (defaultIp : IpAddr) :
    parseRtcp (rtcpLine address) defaultIp = .ok (.new address.ip address.port) := by
  have hDrop : (rtcpLine address).drop "a=rtcp:".length =
      joinTokens [portText address.port, "IN".toList, familyText address.ip, address.ip.text] := by
    rw [rtcpLine_eq]
    rfl
  rw [parseRtcp, hDrop, splitWhitespace_joinTokens (isWord_rtcp address)]
  simp only [parseNumber_portText, isFamily_familyText, IpAddr.parse_text, UInt16.ofNat_toNat]
  rfl

/-- The tokens of a media line that could be read. -/
theorem tokens_of_parseMediaLine {port : UInt16} {payloadTypes : List UInt8}
    (hMedia : parseMediaLine line = .ok (port, payloadTypes)) :
    ∃ oldPort payload payloads, splitWhitespace (line.drop 2) =
        "audio".toList :: oldPort :: "RTP/AVP".toList :: payload :: payloads ∧
      (payload :: payloads).mapM parsePayloadType = .ok payloadTypes := by
  unfold parseMediaLine at hMedia
  simp only at hMedia
  split at hMedia
  · rename_i media oldPort transport payload payloads hTokens
    split at hMedia
    · exact absurd hMedia (by simp)
    · rename_i hAudio
      split at hMedia
      · exact absurd hMedia (by simp)
      · split at hMedia
        · exact absurd hMedia (by simp)
        · rename_i n hPort
          split at hMedia
          · exact absurd hMedia (by simp)
          · rename_i hPositive
            split at hMedia
            · exact absurd hMedia (by simp)
            · rename_i hTransport
              obtain ⟨types, hTypes, hOk⟩ := ok_of_bind hMedia
              obtain ⟨rfl, rfl⟩ := Prod.mk.inj (Except.ok.inj hOk)
              rw [Decidable.not_not.mp hAudio, Decidable.not_not.mp hTransport] at hTokens
              exact ⟨oldPort, payload, payloads, hTokens, hTypes⟩
  · exact absurd hMedia (by simp)

theorem isWord_media {oldPort payload : Line} {payloads : List Line} (port : UInt16)
    (hTokens : splitWhitespace (line.drop 2) =
      "audio".toList :: oldPort :: "RTP/AVP".toList :: payload :: payloads) :
    ∀ token ∈ "audio".toList :: portText port :: "RTP/AVP".toList :: payload :: payloads,
      IsWord isWhitespace token := by
  intro token hMem
  rcases List.mem_cons.mp hMem with rfl | hMem
  · exact isWord_of_all rfl
  · rcases List.mem_cons.mp hMem with rfl | hMem
    · exact isWord_port port
    · apply @isWord_of_mem_words _ _ _ (line.drop 2)
      change token ∈ splitWhitespace (line.drop 2)
      rw [hTokens]
      exact List.mem_cons_of_mem _ (List.mem_cons_of_mem _ hMem)

theorem mediaText_eq (port payload : Line) (payloads : List Line) :
    "m=audio ".toList ++ port ++ " RTP/AVP ".toList ++ joinTokens (payload :: payloads) =
      "m=".toList ++
        joinTokens ("audio".toList :: port :: "RTP/AVP".toList :: payload :: payloads) := by
  rw [joinTokens_cons_cons, joinTokens_cons_cons, joinTokens_cons_cons]
  simp only [List.append_assoc]
  rfl

theorem relayMediaLine_eq {oldPort payload : Line} {payloads : List Line} (port : UInt16)
    (hTokens : splitWhitespace (line.drop 2) =
      "audio".toList :: oldPort :: "RTP/AVP".toList :: payload :: payloads) :
    relayMediaLine port line = "m=".toList ++
      joinTokens ("audio".toList :: portText port :: "RTP/AVP".toList :: payload :: payloads) := by
  have hPayloads : (splitWhitespace (line.drop 2)).drop 3 = payload :: payloads := by
    rw [hTokens]
    rfl
  exact (congrArg (fun tokens => "m=audio ".toList ++ portText port ++ " RTP/AVP ".toList ++
    joinTokens tokens) hPayloads).trans (mediaText_eq _ _ _)

theorem plain_relayMediaLine {oldPort payload : Line} {payloads : List Line} (port : UInt16)
    (hTokens : splitWhitespace (line.drop 2) =
      "audio".toList :: oldPort :: "RTP/AVP".toList :: payload :: payloads) :
    Plain (relayMediaLine port line) := by
  rw [relayMediaLine_eq port hTokens]
  exact plain_append rfl rfl (isWord_media port hTokens)

theorem splitWhitespace_relayMediaLine {oldPort payload : Line} {payloads : List Line}
    (port : UInt16) (hTokens : splitWhitespace (line.drop 2) =
      "audio".toList :: oldPort :: "RTP/AVP".toList :: payload :: payloads) :
    splitWhitespace ((relayMediaLine port line).drop 2) =
      "audio".toList :: portText port :: "RTP/AVP".toList :: payload :: payloads := by
  rw [relayMediaLine_eq port hTokens]
  exact splitWhitespace_joinTokens (isWord_media port hTokens)

theorem slash_notMem_portText (port : UInt16) : '/' ∉ portText port := by
  intro hMem
  exact absurd (Nat.isDigit_of_mem_toDigits (by decide) (by decide) hMem) (by decide)

/-- The media line that the switch writes is read with the relay's port and the old payloads. -/
theorem parseMediaLine_relayMediaLine {oldPort port : UInt16} {payloadTypes : List UInt8}
    (hMedia : parseMediaLine line = .ok (oldPort, payloadTypes)) :
    parseMediaLine (relayMediaLine port line) =
      if port = 0 then .error (.invalidMediaLine (String.ofList (relayMediaLine port line)))
      else .ok (port, payloadTypes) := by
  obtain ⟨oldText, payload, payloads, hTokens, hTypes⟩ := tokens_of_parseMediaLine hMedia
  have hZero : port.toNat = 0 ↔ port = 0 := by
    rw [← UInt16.toNat_inj]
    rfl
  unfold parseMediaLine
  rw [splitWhitespace_relayMediaLine port hTokens]
  simp only [parseNumber_portText, slash_notMem_portText, hZero, hTypes, UInt16.ofNat_toNat,
    if_false, ne_eq, not_true]
  rfl

section Origin

variable {a b c d e f : Line} {rest : List Line}

theorem exists_six {tokens : List Line} (hLength : ¬ tokens.length < 6) :
    ∃ a b c d e f rest, tokens = a :: b :: c :: d :: e :: f :: rest := by
  match tokens with
  | a :: b :: c :: d :: e :: f :: rest => exact ⟨a, b, c, d, e, f, rest, rfl⟩
  | [] | [_] | [_, _] | [_, _, _] | [_, _, _, _] | [_, _, _, _, _] =>
    exact absurd (by simp) hLength

theorem relayOrigin_eq
    (hTokens : splitWhitespace (line.drop 2) = a :: b :: c :: d :: e :: f :: rest) :
    relayOrigin ip line = "o=".toList ++
      joinTokens (a :: b :: c :: "IN".toList :: familyText ip :: ip.text :: rest) := by
  unfold relayOrigin
  simp only [hTokens]
  rw [if_neg (by simp)]
  rfl

theorem isWord_origin
    (hTokens : splitWhitespace (line.drop 2) = a :: b :: c :: d :: e :: f :: rest) :
    ∀ token ∈ a :: b :: c :: "IN".toList :: familyText ip :: ip.text :: rest,
      IsWord isWhitespace token := by
  have hOld : ∀ token ∈ a :: b :: c :: d :: e :: f :: rest, IsWord isWhitespace token := by
    intro token hMem
    apply @isWord_of_mem_words _ _ _ (line.drop 2)
    change token ∈ splitWhitespace (line.drop 2)
    rwa [hTokens]
  intro token hMem
  simp only [List.mem_cons] at hMem hOld
  rcases hMem with h | h | h | rfl | rfl | rfl | h
  · exact hOld token (.inl h)
  · exact hOld token (.inr (.inl h))
  · exact hOld token (.inr (.inr (.inl h)))
  · exact isWord_of_all rfl
  · exact isWord_family ip
  · exact isWord_ip ip
  · exact hOld token (.inr (.inr (.inr (.inr (.inr (.inr h))))))

theorem clean_relayOrigin (hClean : Clean line) : Clean (relayOrigin ip line) := by
  by_cases hShort : (splitWhitespace (line.drop 2)).length < 6
  · unfold relayOrigin
    simp only [hShort, if_true]
    exact hClean
  · obtain ⟨a, b, c, d, e, f, rest, hTokens⟩ := exists_six hShort
    rw [relayOrigin_eq hTokens]
    exact (plain_append rfl rfl (isWord_origin hTokens)).clean

/-- An origin with the relay's address is left as it is. -/
theorem relayOrigin_relayOrigin (ip : IpAddr) (line : Line) :
    relayOrigin ip (relayOrigin ip line) = relayOrigin ip line := by
  by_cases hShort : (splitWhitespace (line.drop 2)).length < 6
  · have hSame : relayOrigin ip line = line := by
      unfold relayOrigin
      simp only [hShort, if_true]
    rw [hSame, hSame]
  · obtain ⟨a, b, c, d, e, f, rest, hTokens⟩ := exists_six hShort
    rw [relayOrigin_eq hTokens]
    exact relayOrigin_eq (splitWhitespace_joinTokens (isWord_origin hTokens))

end Origin

end Written

end VoipSwitch.Sdp
