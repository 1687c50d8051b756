/-
PyWebTransport.Protocol.H3.Messages — the HTTP/3 messages that need no
connection state (the free functions of `protocol/h3.rs`): frame headers,
capsules, datagrams and GOAWAY on the way out; push ids, SETTINGS and the
rules for request and response headers on the way in.
-/
import PyWebTransport.Protocol.Connection
import PyWebTransport.Protocol.Qpack

namespace PyWebTransport

open PyWebTransport.Lib

namespace H3

def controlFrameSizeLimit : Nat := 4096
def settingsEntriesLimit : Nat := 64

/-! ## Encoding -/

/-- An integer of a message; one that has no encoding is an internal error. -/
def encodeVarint (value : Nat) : Except WebTransportError Bytes :=
  match writeVarint value with
  | .ok bytes => .ok bytes
  | .error _ => .error (.protocol (some errLibInternalError) "varint encode failed")

def encodeFrameHeader (frameType payloadLength : Nat) : Except WebTransportError Bytes :=
  (encodeVarint frameType).bind fun frameType =>
    (encodeVarint payloadLength).map fun payloadLength => frameType ++ payloadLength

/-- A capsule in one DATA frame: frame header, capsule header, value. -/
def encodeCapsule (streamId : StreamId) (capsuleType : Nat) (capsuleValue : Bytes) :
    Except WebTransportError (List Bytes) :=
  if !isValidSessionId streamId then
    .error (.protocol (some errH3StreamCreationError) "h3_stream validate invalid")
  else
    (encodeVarint capsuleType).bind fun capsuleType =>
      (encodeVarint capsuleValue.length).bind fun capsuleLength =>
        let capsuleHeader := capsuleType ++ capsuleLength
        (encodeFrameHeader h3FrameTypeData (capsuleHeader.length + capsuleValue.length)).map
          fun frameHeader => [frameHeader, capsuleHeader, capsuleValue]

def encodeDatagram (sessionId : SessionId) (data : Bytes) :
    Except WebTransportError (List Bytes) :=
  if !isValidSessionId sessionId then
    .error (.protocol (some errH3StreamCreationError) "wt_session validate invalid")
  else (encodeVarint (sessionId / 4)).map fun header => [header, data]

def encodeGoaway (identifier : Nat) : Except WebTransportError Bytes :=
  (encodeVarint identifier).bind fun payload =>
    (encodeFrameHeader h3FrameTypeGoaway payload.length).map fun header => header ++ payload

def encodeStreamHeader (streamId : StreamId) (sessionId : SessionId) ( isUnidirectional : Bool) :
    List Effect :=
  let streamType := if isUnidirectional then h3StreamTypeWebtransport else h3FrameTypeWtStream
  match writeVarint streamType, writeVarint sessionId with
  | .ok streamType, .ok sessionId => [.sendQuicData streamId (streamType ++ sessionId) false]
  | _, _ => []

/-- The identifiers and values of the settings that are present, in wire order. -/
def settingsEntries (settings : H3Settings) : List (Nat × Nat) :=
  ([(settingsQpackMaxTableCapacity, settings.qpackMaxTableCapacity),
    (settingsMaxFieldSectionSize, settings.maxFieldSectionSize),
    (settingsQpackBlockedStreams, settings.qpackBlockedStreams),
    (settingsEnableConnectProtocol, settings.enableConnectProtocol),
    (settingsH3Datagram, settings.h3Datagram),
    (settingsWtInitialMaxData, settings.wtInitialMaxData),
    (settingsWtInitialMaxStreamsUni, settings.wtInitialMaxStreamsUni),
    (settingsWtInitialMaxStreamsBidi, settings.wtInitialMaxStreamsBidi),
    (settingsWtEnabled, settings.wtEnabled)].filterMap
      (fun entry => entry.2.map (fun value => (entry.1, value)))) ++ settings.unknown

def encodeSettingsEntries : List (Nat × Nat) → Except WebTransportError Bytes
  | [] => .ok []
  | (identifier, value) :: rest =>
    (encodeVarint identifier).bind fun identifier =>
      (encodeVarint value).bind fun value =>
        (encodeSettingsEntries rest).map fun tail => identifier ++ (value ++ tail)

def encodeSettings (settings : H3Settings) : Except WebTransportError Bytes :=
  encodeSettingsEntries (settingsEntries settings)

/-! ## Parsing -/

/-- An integer of a message; one that is cut short is a frame error. -/
def decodeVarint (buffer : Bytes) : Except WebTransportError (Nat × Bytes) :=
  match readVarint buffer with
  | .ok result => .ok result
  | .error _ => .error (.protocol (some errH3FrameError) "varint decode invalid")

def parsePushId (data : Bytes) : Except WebTransportError Nat :=
  (decodeVarint data).bind fun (pushId, rest) =>
    if rest.isEmpty then .ok pushId
    else .error (.protocol (some errH3FrameError) "h3_frame validate invalid")

def invalidSettings : WebTransportError :=
  .protocol (some errH3SettingsError) "h3_settings validate invalid"

/-- Store a setting that may be given once. -/
def fillSlot (slot : Option Nat) (value : Nat) : Except WebTransportError (Option Nat) :=
  if slot.isSome then .error invalidSettings else .ok (some value)

def addSetting (settings : H3Settings) (identifier value : Nat) :
    Except WebTransportError H3Settings :=
  if identifier = settingsReservedEnablePush ∨ identifier = settingsReservedInitialWindowSize ∨
      identifier = settingsReservedMaxConcurrentStreams ∨
      identifier = settingsReservedMaxFrameSize then
    .error invalidSettings
  else if identifier = settingsEnableConnectProtocol then
    (fillSlot settings.enableConnectProtocol value).map
      fun slot => { settings with enableConnectProtocol := slot }
  else if identifier = settingsH3Datagram then
    (fillSlot settings.h3Datagram value).map fun slot => { settings with h3Datagram := slot }
  else if identifier = settingsMaxFieldSectionSize then
    (fillSlot settings.maxFieldSectionSize value).map
      fun slot => { settings with maxFieldSectionSize := slot }
  else if identifier = settingsQpackBlockedStreams then
    (fillSlot settings.qpackBlockedStreams value).map
      fun slot => { settings with qpackBlockedStreams := slot }
  else if identifier = settingsQpackMaxTableCapacity then
    (fillSlot settings.qpackMaxTableCapacity value).map
      fun slot => { settings with qpackMaxTableCapacity := slot }
  else if identifier = settingsWtEnabled then
    (fillSlot settings.wtEnabled value).map fun slot => { settings with wtEnabled := slot }
  else if identifier = settingsWtInitialMaxData then
    (fillSlot settings.wtInitialMaxData value).map
      fun slot => { settings with wtInitialMaxData := slot }
  else if identifier = settingsWtInitialMaxStreamsBidi then
    (fillSlot settings.wtInitialMaxStreamsBidi value).map
      fun slot => { settings with wtInitialMaxStreamsBidi := slot }
  else if identifier = settingsWtInitialMaxStreamsUni then
    (fillSlot settings.wtInitialMaxStreamsUni value).map
      fun slot => { settings with wtInitialMaxStreamsUni := slot }
  else if settings.unknown.any (fun entry => entry.1 = identifier) then .error invalidSettings
  else .ok { settings with unknown := settings.unknown ++ [(identifier, value)] }

/-- The loop of `parse_settings`; `limit` is the number of entries still
allowed, which is also what bounds the loop. -/
def parseSettingsLoop : Nat → H3Settings → Bytes → Except WebTransportError H3Settings
  | _, settings, [] => .ok settings
  | 0, _, _ :: _ =>
    .error (.protocol (some errH3SettingsError) "h3_settings validate exceeded")
  | limit + 1, settings, cursor =>
    (decodeVarint cursor).bind fun (identifier, cursor) =>
      (decodeVarint cursor).bind fun (value, cursor) =>
        (addSetting settings identifier value).bind fun settings =>
          parseSettingsLoop limit settings cursor

def parseSettings (data : Bytes) : Except WebTransportError H3Settings :=
  parseSettingsLoop settingsEntriesLimit {} data

def validateSettings (settings : H3Settings) (connection : Connection) :
    Except WebTransportError Unit :=
  if settings.enableConnectProtocol.any (· ≠ 1) then .error invalidSettings
  else if connection.peerMaxDatagramFrameSize.getD 0 = 0 ∧ settings.h3Datagram = some 1 then
    .error invalidSettings
  else if connection.isClient ∧ settings.wtEnabled.any (· > 1) then .error invalidSettings
  else if settings.wtEnabled.getD 0 = 0 then
    .error (.protocol (some errWtRequirementsNotMet) "h3_settings validate invalid")
  else .ok ()

/-! ## Request and response headers -/

def invalidHeaders (streamId : StreamId) : WebTransportError :=
  .stream streamId (some errH3MessageError) "h3_headers validate invalid"

/-- The pseudo-header fields of a request seen so far. -/
structure RequestPseudo where
  afterPseudo : Bool := false
  method : Option Bytes := none
  scheme : Option Bytes := none
  authority : Option Bytes := none
  path : Option Bytes := none
  protocol : Option Bytes := none
  hosts : List Bytes := []

def addRequestPseudo (pseudo : RequestPseudo) (key value : Bytes) : Option RequestPseudo :=
  if pseudo.afterPseudo then none
  else if key = asciiBytes [':', 'm', 'e', 't', 'h', 'o', 'd'] then
    if pseudo.method.isSome then none else some { pseudo with method := some value }
  else if key = asciiBytes [':', 's', 'c', 'h', 'e', 'm', 'e'] then
    if pseudo.scheme.isSome then none else some { pseudo with scheme := some value }
  else if key = asciiBytes [':', 'a', 'u', 't', 'h', 'o', 'r', 'i', 't', 'y'] then
    if pseudo.authority.isSome then none else some { pseudo with authority := some value }
  else if key = asciiBytes [':', 'p', 'a', 't', 'h'] then
    if pseudo.path.isSome then none else some { pseudo with path := some value }
  else if key = asciiBytes [':', 'p', 'r', 'o', 't', 'o', 'c', 'o', 'l'] then
    if pseudo.protocol.isSome then none else some { pseudo with protocol := some value }
  else none

def collectRequestPseudo : RequestPseudo → Headers → Option RequestPseudo
  | pseudo, [] => some pseudo
  | pseudo, (key, value) :: rest =>
    if !isValidHeader key value || isConnectionSpecificHeader key value true then none
    else if key.head? = some 0x3A then
      (addRequestPseudo pseudo key value).bind fun pseudo => collectRequestPseudo pseudo rest
    else
      collectRequestPseudo
        { pseudo with
          afterPseudo := true
          hosts := if key = asciiBytes ['h', 'o', 's', 't'] then pseudo.hosts ++ [value]
            else pseudo.hosts } rest

def connectMethod : Bytes := asciiBytes ['C', 'O', 'N', 'N', 'E', 'C', 'T']

def isAsciiGraphic (byte : UInt8) : Bool := 0x21 ≤ byte && byte ≤ 0x7E

/-- A plain CONNECT names an authority only; every other request, and an
extended CONNECT, has a scheme and a path. -/
def isValidPseudo (pseudo : RequestPseudo) : Bool :=
  match pseudo.method, pseudo.protocol with
  | some method, none =>
    if method = connectMethod then
      pseudo.authority.any (fun authority => !authority.isEmpty) && pseudo.scheme.isNone &&
        pseudo.path.isNone
    else pseudo.scheme.isSome && pseudo.path.isSome
  | some method, some _ => method = connectMethod && pseudo.scheme.isSome && pseudo.path.isSome
  | none, _ => false

def isValidAuthority (pseudo : RequestPseudo) : Bool :=
  match pseudo.authority, pseudo.hosts with
  | some authority, [] => !authority.isEmpty
  | some authority, [host] => !authority.isEmpty && host = authority
  | none, host :: hosts => (host :: hosts).all (fun host => !host.isEmpty)
  | _, _ => false

def isValidHttpPath (pseudo : RequestPseudo) : Bool :=
  pseudo.path.any fun path =>
    path.head? = some 0x2F ||
      (path = [0x2A] && pseudo.method = some (asciiBytes ['O', 'P', 'T', 'I', 'O', 'N', 'S']))

def isHttpScheme (scheme : Option Bytes) : Bool :=
  scheme = some (asciiBytes ['h', 't', 't', 'p']) ||
    scheme = some (asciiBytes ['h', 't', 't', 'p', 's'])

def validateRequestHeaders (streamId : StreamId) (headers : Headers) :
    Except WebTransportError Unit :=
  match collectRequestPseudo {} headers with
  | none => .error (invalidHeaders streamId)
  | some pseudo =>
    if !isValidPseudo pseudo || !pseudo.path.all (fun path => path.all isAsciiGraphic) then
      .error (invalidHeaders streamId)
    else if isHttpScheme pseudo.scheme &&
        (!isValidAuthority pseudo || !isValidHttpPath pseudo) then
      .error (invalidHeaders streamId)
    else .ok ()

/-- The loop of `validate_response_headers`: the status seen so far. -/
def collectStatus : Bool → Option Bytes → Headers → Option (Option Bytes)
  | _, status, [] => some status
  | afterPseudo, status, (key, value) :: rest =>
    if !isValidHeader key value || isConnectionSpecificHeader key value false then none
    else if key.head? = some 0x3A then
      if afterPseudo || key ≠ asciiBytes [':', 's', 't', 'a', 't', 'u', 's'] || status.isSome then
        none
      else collectStatus afterPseudo (some value) rest
    else collectStatus true status rest

def validateResponseHeaders (streamId : StreamId) (headers : Headers) :
    Except WebTransportError Unit :=
  match collectStatus false none headers with
  | some (some _) => .ok ()
  | _ => .error (invalidHeaders streamId)

end H3

end PyWebTransport
