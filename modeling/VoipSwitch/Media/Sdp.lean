import VoipSwitch.Core.Text
import VoipSwitch.Lib.FirstMatch
import VoipSwitch.Lib.IpAddr
import VoipSwitch.Lib.Words
import VoipSwitch.Media.Parser

/-! Session descriptions with one audio stream: how they are read, and how a relay is written
into them. A line is the list of its characters. -/
namespace VoipSwitch.Sdp

open Internet Words
open Media (DtmfCapability)

structure SdpBody where
  contentType : String
  text : String
deriving DecidableEq

inductive MediaDirection where
  | sendRecv
  | sendOnly
  | recvOnly
  | inactive
deriving DecidableEq

structure AudioPayload where
  payloadType : UInt8
  encoding : Option String
  clockRate : Option Nat
  channels : Option Nat
  fmtp : Option String
deriving DecidableEq

structure ParsedAudioSdp where
  remoteRtp : SocketAddr
  remoteRtcp : Option SocketAddr
  payloadTypes : List UInt8
  payloads : List AudioPayload
  telephoneEvent : Option DtmfCapability
  direction : MediaDirection
deriving DecidableEq

structure RelayEndpoint where
  rtp : SocketAddr
  rtcp : Option SocketAddr
deriving DecidableEq

structure PreparedSdp where
  body : SdpBody
  parsed : ParsedAudioSdp
deriving DecidableEq

inductive SdpError where
  | unsupportedContentType (value : String)
  | missingMedia
  | multipleMediaLines
  | unsupportedMedia (value : String)
  | unsupportedTransport (value : String)
  | missingConnection
  | invalidConnection (value : String)
  | invalidMediaLine (value : String)
  | invalidRtcpAttribute (value : String)
  | invalidPayloadType (value : String)
  | invalidRtpmapAttribute (value : String)
  | duplicateRtpmapAttribute (payloadType : UInt8)
  | invalidFmtpAttribute (value : String)
  | duplicateFmtpAttribute (payloadType : UInt8)
  | unsupportedAttribute (value : String)
deriving DecidableEq

abbrev Line : Type := List Char

section Lines

/-- `str::starts_with`. -/
def startsWith (start : String) (line : Line) : Bool := start.toList.isPrefixOf line

/-- `str::strip_prefix`. -/
def stripPrefix (start : String) (line : Line) : Option Line := start.toList.isPrefixOf? line

/-- `str::split_whitespace`. -/
def splitWhitespace (text : Line) : List Line := words isWhitespace text

/-- `str::split_once` at the first blank. -/
def splitOnceBlank (text : Line) : Option (Line × Line) :=
  match text.span fun c => !isWhitespace c with
  | (_, []) => none
  | (first, _ :: second) => some (first, second)

/-- `str::parse` for an unsigned number of so many bits. -/
def parseNumber (bits : Nat) (text : Line) : Option Nat := parseUnsigned bits (String.ofList text)

def eqIgnoreAsciiCase (text text' : String) : Bool :=
  text.toList.map Char.toLower = text'.toList.map Char.toLower

/-- The lines of a body, without returns at their ends and without the empty ones. -/
def sdpLines (body : SdpBody) : Except SdpError (List Line) :=
  let mediaType := trim (String.ofList (body.contentType.toList.takeWhile (· ≠ ';')))
  if eqIgnoreAsciiCase mediaType "application/sdp" then
    .ok (((textLines '\n' '\r' body.text.toList).map fun line =>
      line.rdropWhile (· = '\r')).filter fun line => !line.isEmpty)
  else .error (.unsupportedContentType body.contentType)

/-- The place of the first line from a place on that satisfies the predicate. -/
def findFrom (start : Nat) (p : Line → Bool) (lines : List Line) : Option Nat :=
  ((lines.drop start).findIdx? p).map (· + start)

def mediaIndex (lines : List Line) : Except SdpError Nat :=
  match lines.findIdxs (startsWith "m=") with
  | [] => .error .missingMedia
  | [index] => .ok index
  | _ => .error .multipleMediaLines

end Lines

section Payloads

structure Rtpmap where
  encoding : String
  clockRate : Nat
  channels : Option Nat
deriving DecidableEq

def parseAttributePayloadType (value : Line) (error : SdpError) : Except SdpError UInt8 :=
  match (parseNumber 8 value).filter (· ≤ 127) with
  | some payloadType => .ok (UInt8.ofNat payloadType)
  | none => .error error

/-- A number of so many bits that is not zero. -/
def parsePositive (bits : Nat) (value : Line) (error : SdpError) : Except SdpError Nat :=
  match (parseNumber bits value).filter (0 < ·) with
  | some value => .ok value
  | none => .error error

def trimLine (text : Line) : Line := (text.dropWhile isWhitespace).rdropWhile isWhitespace

def parseRtpmap (value line : Line) : Except SdpError (UInt8 × Rtpmap) :=
  let error := SdpError.invalidRtpmapAttribute (String.ofList line)
  match splitOnceBlank value with
  | none => .error error
  | some (payloadType, mapping) => do
    let payloadType ← parseAttributePayloadType payloadType error
    match (trimLine mapping).splitOn '/' with
    | [encoding, clockRate] =>
      if encoding.isEmpty then .error error
      else
        let clockRate ← parsePositive 32 clockRate error
        pure (payloadType, { encoding := String.ofList encoding, clockRate, channels := none })
    | [encoding, clockRate, channels] =>
      if encoding.isEmpty then .error error
      else
        let clockRate ← parsePositive 32 clockRate error
        let channels ← parsePositive 8 channels error
        pure (payloadType,
          { encoding := String.ofList encoding, clockRate, channels := some channels })
    | _ => .error error

def parseFmtp (value line : Line) : Except SdpError (UInt8 × String) :=
  let error := SdpError.invalidFmtpAttribute (String.ofList line)
  match splitOnceBlank value with
  | none => .error error
  | some (payloadType, parameters) => do
    let payloadType ← parseAttributePayloadType payloadType error
    let parameters := trimLine parameters
    if parameters.isEmpty then .error error else pure (payloadType, String.ofList parameters)

def parseDtmfEvent (value : Line) (attr : String) : Except SdpError UInt8 :=
  match parseNumber 8 (trimLine value) with
  | some event => .ok (UInt8.ofNat event)
  | none => .error (.invalidFmtpAttribute attr)

/-- The events from one to another. -/
def eventRange (first last : UInt8) : List UInt8 :=
  (List.range' first.toNat (last.toNat + 1 - first.toNat)).map UInt8.ofNat

/-- The events that one part of a set names. -/
def parseDtmfEvents (attr : String) (item : Line) : Except SdpError (List UInt8) :=
  let item := trimLine item
  if item.isEmpty then .error (.invalidFmtpAttribute attr)
  else
    match item.span (· ≠ '-') with
    | (_, []) => do
      let event ← parseDtmfEvent item attr
      pure [event]
    | (first, _ :: last) => do
      let first ← parseDtmfEvent first attr
      let last ← parseDtmfEvent last attr
      if last < first then .error (.invalidFmtpAttribute attr) else pure (eventRange first last)

/-- A set of events, in their order. -/
def eventSet (events : List UInt8) : List UInt8 :=
  ((List.range 256).map UInt8.ofNat).filter events.contains

def parseDtmfEventSet (value : String) : Except SdpError (List UInt8) := do
  let events ← (value.toList.splitOn ',').mapM (parseDtmfEvents value)
  if events.flatten.isEmpty then .error (.invalidFmtpAttribute value)
  else pure (eventSet events.flatten)

/-- The mappings and the parameters that were read so far. -/
structure PayloadMaps where
  rtpmaps : List (UInt8 × Rtpmap)
  fmtps : List (UInt8 × String)

def readPayloadLine (offered : List UInt8) (maps : PayloadMaps) (line : Line) :
    Except SdpError PayloadMaps :=
  match stripPrefix "a=rtpmap:" line with
  | some value => do
    let (payloadType, rtpmap) ← parseRtpmap value line
    if payloadType ∉ offered then pure maps
    else if (maps.rtpmaps.lookup payloadType).isSome then
      .error (.duplicateRtpmapAttribute payloadType)
    else pure { maps with rtpmaps := (payloadType, rtpmap) :: maps.rtpmaps }
  | none =>
    match stripPrefix "a=fmtp:" line with
    | some value => do
      let (payloadType, fmtp) ← parseFmtp value line
      if payloadType ∉ offered then pure maps
      else if (maps.fmtps.lookup payloadType).isSome then
        .error (.duplicateFmtpAttribute payloadType)
      else pure { maps with fmtps := (payloadType, fmtp) :: maps.fmtps }
    | none => pure maps

def PayloadMaps.payload (maps : PayloadMaps) (payloadType : UInt8) : AudioPayload :=
  let rtpmap := maps.rtpmaps.lookup payloadType
  { payloadType
    encoding := rtpmap.map (·.encoding)
    clockRate := rtpmap.map (·.clockRate)
    channels := rtpmap.bind (·.channels)
    fmtp := maps.fmtps.lookup payloadType }

/-- Takes up the capability of a payload that carries telephone events. -/
def readTelephoneEvent (found : Option DtmfCapability) (payload : AudioPayload) :
    Except SdpError (Option DtmfCapability) :=
  if !payload.encoding.any (eqIgnoreAsciiCase · "telephone-event") then pure found
  else if found.isSome then
    .error (.invalidRtpmapAttribute "multiple telephone-event payloads are not supported")
  else
    match payload.clockRate with
    | none =>
      .error (.invalidRtpmapAttribute
        s!"telephone-event payload {payload.payloadType} is missing a clock rate")
    | some clockRate => do
      let events ←
        match payload.fmtp with
        | some value => parseDtmfEventSet value
        | none => pure (eventRange 0 15)
      pure (some { payloadType := payload.payloadType, clockRate, events,
                   detectable := clockRate = 8000 && events.any (· ≤ 15) })

def parseAudioPayloads (lines : List Line) (mediaIndex : Nat) (payloadTypes : List UInt8) :
    Except SdpError (List AudioPayload × Option DtmfCapability) := do
  let maps ← (lines.drop (mediaIndex + 1)).foldlM (readPayloadLine payloadTypes) ⟨[], []⟩
  let payloads := payloadTypes.map maps.payload
  let telephoneEvent ← payloads.foldlM readTelephoneEvent none
  pure (payloads, telephoneEvent)

end Payloads

section Parsing

/-- The attributes of streams that the switch does not relay. -/
def isUnsupported (line : Line) : Bool :=
  startsWith "a=ice-" line || startsWith "a=candidate:" line ||
    startsWith "a=fingerprint:" line || startsWith "a=setup:" line ||
    startsWith "a=group:BUNDLE" line || startsWith "a=mid:" line

def isConnection (line : Line) : Bool := startsWith "c=" line

def isRtcp (line : Line) : Bool := startsWith "a=rtcp:" line

def parsePayloadType (value : Line) : Except SdpError UInt8 :=
  match (parseNumber 8 value).filter (· ≤ 127) with
  | some payloadType => .ok (UInt8.ofNat payloadType)
  | none => .error (.invalidPayloadType (String.ofList value))

/-- The port and the payload types of the media line. -/
def parseMediaLine (mediaLine : Line) : Except SdpError (UInt16 × List UInt8) :=
  let invalid := SdpError.invalidMediaLine (String.ofList mediaLine)
  match splitWhitespace (mediaLine.drop 2) with
  | media :: port :: transport :: payload :: payloads =>
    if media ≠ "audio".toList then .error (.unsupportedMedia (String.ofList media))
    else if '/' ∈ port then .error invalid
    else
      match parseNumber 16 port with
      | none => .error invalid
      | some port =>
        if port = 0 then .error invalid
        else if transport ≠ "RTP/AVP".toList then
          .error (.unsupportedTransport (String.ofList transport))
        else do
          let payloadTypes ← (payload :: payloads).mapM parsePayloadType
          pure (UInt16.ofNat port, payloadTypes)
  | _ => .error invalid

def parseDirection (line : Line) : Option MediaDirection :=
  if line = "a=sendonly".toList then some .sendOnly
  else if line = "a=recvonly".toList then some .recvOnly
  else if line = "a=inactive".toList then some .inactive
  else if line = "a=sendrecv".toList then some .sendRecv
  else none

/-- The words for the two kinds of addresses. -/
def isFamily (token : Line) : Bool := token = "IP4".toList || token = "IP6".toList

def parseConnection (line : Line) : Except SdpError IpAddr :=
  let invalid := SdpError.invalidConnection (String.ofList line)
  match splitWhitespace (line.drop 2) with
  | [net, family, address] =>
    if net ≠ "IN".toList || !isFamily family then .error invalid
    else
      match IpAddr.parse address with
      | some ip => .ok ip
      | none => .error invalid
  | _ => .error invalid

def parseRtcp (line : Line) (defaultIp : IpAddr) : Except SdpError SocketAddr :=
  let invalid := SdpError.invalidRtcpAttribute (String.ofList line)
  match splitWhitespace (line.drop "a=rtcp:".length) with
  | [] => .error invalid
  | port :: others =>
    match parseNumber 16 port with
    | none => .error invalid
    | some port =>
      match others with
      | [] => .ok (.new defaultIp (UInt16.ofNat port))
      | [net, family, address] =>
        if net ≠ "IN".toList || !isFamily family then .error invalid
        else
          match IpAddr.parse address with
          | some ip => .ok (.new ip (UInt16.ofNat port))
          | none => .error invalid
      | _ => .error invalid

/-- The address of the other party's RTCP packets. -/
def remoteRtcp (attributes : List Line) (remoteIp : IpAddr) (rtpPort : UInt16) :
    Except SdpError (Option SocketAddr) :=
  match attributes.find? isRtcp with
  | some line => (parseRtcp line remoteIp).map some
  | none => .ok (if rtpPort.toNat + 1 < 65536 then some (.new remoteIp (rtpPort + 1)) else none)

def parseAudioLines (lines : List Line) (mediaIndex : Nat) : Except SdpError ParsedAudioSdp :=
  match lines.find? isUnsupported with
  | some attr => .error (.unsupportedAttribute (String.ofList attr))
  | none => do
    let (rtpPort, payloadTypes) ← parseMediaLine (lines.getD mediaIndex [])
    let (payloads, telephoneEvent) ← parseAudioPayloads lines mediaIndex payloadTypes
    match (lines.drop (mediaIndex + 1)).find? isConnection <|>
        (lines.take mediaIndex).find? isConnection with
    | none => .error .missingConnection
    | some connection => do
      let remoteIp ← parseConnection connection
      let remoteRtcp ← remoteRtcp (lines.drop (mediaIndex + 1)) remoteIp rtpPort
      let direction := ((lines.drop (mediaIndex + 1)).findSome? parseDirection <|>
        (lines.take mediaIndex).findSome? parseDirection).getD .sendRecv
      pure { remoteRtp := .new remoteIp rtpPort, remoteRtcp, payloadTypes, payloads,
             telephoneEvent, direction }

def parseAudioSdp (body : SdpBody) : Except SdpError ParsedAudioSdp := do
  let lines ← sdpLines body
  let index ← mediaIndex lines
  parseAudioLines lines index

end Parsing

section Rewriting

def portText (port : UInt16) : Line := Nat.toDigits 10 port.toNat

def familyText : IpAddr → Line
  | .v4 _ => "IP4".toList
  | .v6 _ => "IP6".toList

/-- Tokens with single spaces between them. -/
def joinTokens (tokens : List Line) : Line := [' '].intercalate tokens

def connectionLine (ip : IpAddr) : Line :=
  "c=IN ".toList ++ familyText ip ++ ' ' :: ip.text

def rtcpLine (address : SocketAddr) : Line :=
  "a=rtcp:".toList ++ portText address.port ++ " IN ".toList ++ familyText address.ip ++
    ' ' :: address.ip.text

/-- The media line with another port, and with the payloads it had. -/
def relayMediaLine (port : UInt16) (mediaLine : Line) : Line :=
  "m=audio ".toList ++ portText port ++ " RTP/AVP ".toList ++
    joinTokens ((splitWhitespace (mediaLine.drop 2)).drop 3)

/-- The origin with another address, if it has all its fields. -/
def relayOrigin (ip : IpAddr) (origin : Line) : Line :=
  let tokens := splitWhitespace (origin.drop 2)
  if tokens.length < 6 then origin
  else
    "o=".toList ++
      joinTokens (((tokens.set 3 "IN".toList).set 4 (familyText ip)).set 5 ip.text)

def isOrigin (line : Line) : Bool := startsWith "o=" line

def rewriteOriginAddress (lines : List Line) (ip : IpAddr) : List Line :=
  match lines.findIdx? isOrigin with
  | none => lines
  | some index => lines.modify index (relayOrigin ip)

/-- Puts the relay's RTCP address into the attributes, or takes the other party's out. -/
def rewriteRtcp (lines : List Line) (mediaIndex : Nat) (rtcp : Option SocketAddr) : List Line :=
  match rtcp, findFrom (mediaIndex + 1) isRtcp lines with
  | some rtcp, some index => lines.set index (rtcpLine rtcp)
  | some rtcp, none => lines.insertIdx (mediaIndex + 1) (rtcpLine rtcp)
  | none, some index => lines.eraseIdx index
  | none, none => lines

/-- `lines.join("\r\n")` with one more line end. -/
def sdpText (lines : List Line) : String :=
  String.ofList (['\r', '\n'].intercalate lines ++ ['\r', '\n'])

/-- The place of the connection that counts: the first of the stream, or else of the session. -/
def connectionIndex (lines : List Line) (index : Nat) : Option Nat :=
  findFrom (index + 1) isConnection lines <|> (lines.take index).findIdx? isConnection

/-- The lines with the relay's addresses in the media line, the first origin, the connection that
counts and the first RTCP attribute. -/
def relayLines (lines : List Line) (index : Nat) (relay : RelayEndpoint) :
    Except SdpError (List Line) :=
  let lines := lines.set index (relayMediaLine relay.rtp.port (lines.getD index []))
  let lines := rewriteOriginAddress lines relay.rtp.ip
  match connectionIndex lines index with
  | none => .error .missingConnection
  | some place =>
    .ok (rewriteRtcp (lines.set place (connectionLine relay.rtp.ip)) index relay.rtcp)

def rewriteAudioSdp (body : SdpBody) (relay : RelayEndpoint) : Except SdpError PreparedSdp := do
  let lines ← sdpLines body
  let index ← mediaIndex lines
  let parsed ← parseAudioLines lines index
  let lines ← relayLines lines index relay
  pure { body := { contentType := "application/sdp", text := sdpText lines }, parsed }

end Rewriting

end VoipSwitch.Sdp
