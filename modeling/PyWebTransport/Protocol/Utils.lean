/-
PyWebTransport.Protocol.Utils — the protocol utilities (`protocol/utils.rs`).

A `Cursor` over a byte slice is the list of bytes that remain: reading
returns the value and the rest, `advance` drops bytes, and `?` on an
`Option` is the option monad. Loops of the source that consume input are
either structural on the remaining bytes or take their length as fuel.
-/
import PyWebTransport.Common.Constants
import PyWebTransport.Lib.BigEndian

namespace PyWebTransport

open PyWebTransport.Lib

/-! ## Byte classes -/

def isAsciiLowercase (byte : UInt8) : Bool := 0x61 ≤ byte && byte ≤ 0x7A
def isAsciiUppercase (byte : UInt8) : Bool := 0x41 ≤ byte && byte ≤ 0x5A
def isAsciiDigit (byte : UInt8) : Bool := 0x30 ≤ byte && byte ≤ 0x39
def isAsciiAlphanumeric (byte : UInt8) : Bool :=
  isAsciiLowercase byte || isAsciiUppercase byte || isAsciiDigit byte
def isPrintableAscii (byte : UInt8) : Bool := 0x20 ≤ byte && byte ≤ 0x7E
def toAsciiLowercase (byte : UInt8) : UInt8 := if isAsciiUppercase byte then byte + 0x20 else byte

/-- `eq_ignore_ascii_case`. -/
def eqIgnoreAsciiCase (a b : Bytes) : Bool := a.map toAsciiLowercase == b.map toAsciiLowercase

/-! ## Text -/

/-- `str::as_bytes`. -/
def utf8Bytes (text : String) : Bytes := text.toUTF8.data.toList

/-- `str::from_utf8`. -/
def utf8String? (bytes : Bytes) : Option String := String.fromUTF8? ⟨bytes.toArray⟩

/-- `str::floor_char_boundary`: the last position up to `index` where a character starts. -/
def floorCharBoundary (bytes : Bytes) : Nat → Nat
  | 0 => 0
  | index + 1 =>
    if bytes.length ≤ index + 1 then bytes.length
    else if (bytes[index + 1]?).any (fun byte => byte < 0x80 || 0xC0 ≤ byte) then index + 1
    else floorCharBoundary bytes index

/-! ## Header fields -/

def findHeader (headers : Headers) (key : Bytes) : Option Bytes :=
  (headers.find? (fun header => header.1 == key)).map Prod.snd

def combineHeader (headers : Headers) (key : Bytes) : Option Bytes :=
  match (headers.filter (fun header => header.1 == key)).map Prod.snd with
  | [] => none
  | [value] => some value
  | values => some (List.intercalate (asciiBytes [',', ' ']) values)

def isConnectionSpecificHeader (key value : Bytes) ( isRequest : Bool) : Bool :=
  if key == asciiBytes ['t', 'e'] then
    !(isRequest && eqIgnoreAsciiCase value
      (asciiBytes ['t', 'r', 'a', 'i', 'l', 'e', 'r', 's']))
  else
    key == asciiBytes ['c', 'o', 'n', 'n', 'e', 'c', 't', 'i', 'o', 'n'] ||
    key == asciiBytes ['k', 'e', 'e', 'p', '-', 'a', 'l', 'i', 'v', 'e'] ||
    key == asciiBytes ['p', 'r', 'o', 'x', 'y', '-', 'c', 'o', 'n', 'n', 'e', 'c', 't',
      'i', 'o', 'n'] ||
    key == asciiBytes ['t', 'r', 'a', 'n', 's', 'f', 'e', 'r', '-', 'e', 'n', 'c', 'o',
      'd', 'i', 'n', 'g'] ||
    key == asciiBytes ['u', 'p', 'g', 'r', 'a', 'd', 'e']

/-- The bytes `! # $ % & ' * + - . ^ _ ` | ~` of a field name. -/
def fieldNameSymbols : Bytes :=
  [0x21, 0x23, 0x24, 0x25, 0x26, 0x27, 0x2A, 0x2B, 0x2D, 0x2E, 0x5E, 0x5F, 0x60, 0x7C, 0x7E]

def isFieldNameByte (byte : UInt8) : Bool :=
  isAsciiLowercase byte || isAsciiDigit byte || fieldNameSymbols.contains byte

def isBlankByte (byte : UInt8) : Bool := byte == 0x20 || byte == 0x09

def isFieldValueByte (byte : UInt8) : Bool :=
  byte == 0x09 || isPrintableAscii byte || 0x80 ≤ byte

def isValidHeader (key value : Bytes) : Bool :=
  let name := match key with
    | byte :: rest => if byte = 0x3A then rest else key
    | [] => key
  !name.isEmpty && name.all isFieldNameByte &&
    !(value.head?.any isBlankByte || value.getLast?.any isBlankByte) &&
    value.all isFieldValueByte

def isValidUserHeaders (headers : Headers) ( isRequest : Bool) : Bool :=
  headers.all fun header =>
    isValidHeader header.1 header.2 &&
      !(header.1.head? == some 0x3A ||
        isConnectionSpecificHeader header.1 header.2 isRequest ||
        (isRequest && header.1 == asciiBytes ['h', 'o', 's', 't']) ||
        header.1 == asciiBytes ['c', 'o', 'n', 't', 'e', 'n', 't', '-', 'l', 'e', 'n', 'g',
          't', 'h'] ||
        header.1 == wtAvailableProtocols || header.1 == wtProtocol)

/-! ## Stream identifiers -/

def isPeerInitiatedStream (streamId : StreamId) ( isClient : Bool) : Bool :=
  let isClientInitiated := streamId &&& quicStreamInitiatorMask == 0
  isClientInitiated != isClient

def isUnidirectionalStream (streamId : StreamId) : Bool :=
  streamId &&& quicStreamDirectionMask != 0

def isValidSessionId (sessionId : SessionId) : Bool :=
  sessionId &&& (quicStreamDirectionMask ||| quicStreamInitiatorMask) == 0

def streamDirectionFromId (streamId : StreamId) ( isClient : Bool) : StreamDirection :=
  match isUnidirectionalStream streamId, isPeerInitiatedStream streamId isClient with
  | false, _ => .bidirectional
  | true, false => .sendOnly
  | true, true => .receiveOnly

/-! ## Error code mapping -/

def h3ErrorReservedModulo : Nat := 0x1F
def h3ErrorReservedOffset : Nat := 0x21
def wtErrorMapDivisor : Nat := 0x1E

def httpCodeToWebtransportCode (httpErrorCode : ErrorCode) : Option Nat :=
  if ¬(errWtApplicationErrorFirst ≤ httpErrorCode ∧ httpErrorCode ≤ errWtApplicationErrorLast) then
    none
  else if (httpErrorCode - h3ErrorReservedOffset) % h3ErrorReservedModulo = 0 then
    none
  else
    let shifted := httpErrorCode - errWtApplicationErrorFirst
    let result := shifted - shifted / h3ErrorReservedModulo
    if result < 2 ^ 32 then some result else none

def webtransportCodeToHttpCode (applicationErrorCode : Nat) : ErrorCode :=
  let shifted := errWtApplicationErrorFirst + applicationErrorCode
  let offset := applicationErrorCode / wtErrorMapDivisor
  shifted + offset

/-! ## Variable-length integers -/

def varintSize (value : Nat) : Nat :=
  if value ≤ 63 then 1
  else if value ≤ 16383 then 2
  else if value ≤ 1073741823 then 4
  else 8

/-- The value at the front of the buffer and what is left of it. The first
two bits give the width; a buffer shorter than that is an error. -/
def readVarint (buffer : Bytes) : Except ErrorCode (Nat × Bytes) :=
  match buffer with
  | [] => .error errH3FrameError
  | first :: _ =>
    let len := 2 ^ (first.toNat >>> 6)
    if buffer.length < len then .error errH3FrameError
    else .ok (beValue (buffer.take len) &&& (2 ^ (8 * len - 2) - 1), buffer.drop len)

/-- The bytes `write_varint` appends. -/
def writeVarint (value : Nat) : Except ErrorCode Bytes :=
  if value ≤ 63 then .ok (beBytes 1 value)
  else if value ≤ 16383 then .ok (beBytes 2 (value ||| 0x4000))
  else if value ≤ 1073741823 then .ok (beBytes 4 (value ||| 0x80000000))
  else if value ≤ 4611686018427387903 then .ok (beBytes 8 (value ||| 0xC000000000000000))
  else .error errLibInternalError

/-! ## Structured-field protocol lists -/

/-- The loop of `parse_string`, after the opening quote. A backslash that
is the last byte fails its guard in the source, is taken as a printable
byte, and the loop then runs out of input. -/
def parseStringLoop (value : List Char) : Bytes → Option (String × Bytes)
  | [] => none
  | byte :: rest =>
    if byte = 0x5C then
      match rest with
      | [] => none
      | next :: rest' =>
        if next = 0x22 ∨ next = 0x5C then
          parseStringLoop (value ++ [Char.ofNat next.toNat]) rest'
        else none
    else if byte = 0x22 then some (String.ofList value, rest)
    else if isPrintableAscii byte then
      parseStringLoop (value ++ [Char.ofNat byte.toNat]) rest
    else none

def parseString : Bytes → Option (String × Bytes)
  | byte :: rest => if byte = 0x22 then parseStringLoop [] rest else none
  | [] => none

/-- Skips an integer or a decimal; the flag says which. -/
def discardNumber (cursor : Bytes) : Option (Bool × Bytes) :=
  let unsigned := match cursor with
    | byte :: rest => if byte = 0x2D then rest else cursor
    | [] => cursor
  let integerLen := (unsigned.takeWhile isAsciiDigit).length
  if integerLen = 0 then none
  else
    match unsigned.drop integerLen with
    | byte :: rest =>
      if byte = 0x2E then
        let fractionLen := (rest.takeWhile isAsciiDigit).length
        if integerLen ≤ 12 ∧ 1 ≤ fractionLen ∧ fractionLen ≤ 3 then
          some (true, rest.drop fractionLen)
        else none
      else if integerLen ≤ 15 then some (false, byte :: rest) else none
    | [] => if integerLen ≤ 15 then some (false, []) else none

def hexDigitValue (byte : UInt8) : Option UInt8 :=
  if isAsciiDigit byte then some (byte - 0x30)
  else if 0x61 ≤ byte ∧ byte ≤ 0x66 then some (byte - 0x61 + 10)
  else none

/-- The loop of a display string, after its opening quote. -/
def discardDisplayString (value : Bytes) : Bytes → Option Bytes
  | [] => none
  | byte :: rest =>
    if byte = 0x25 then
      match rest with
      | high :: low :: rest' =>
        match hexDigitValue high, hexDigitValue low with
        | some h, some l => discardDisplayString (value ++ [h * 16 + l]) rest'
        | _, _ => none
      | _ => none
    else if byte = 0x22 then
      if (utf8String? value).isSome then some rest else none
    else if isPrintableAscii byte then discardDisplayString (value ++ [byte]) rest
    else none

/-- The bytes `! # $ % & ' * + - . ^ _ ` | ~ : /` a token may hold besides letters and digits. -/
def tokenSymbols : Bytes := fieldNameSymbols ++ [0x3A, 0x2F]

/-- The base64 content of a byte sequence up to its closing colon. -/
def discardByteSequence (cursor : Bytes) : Option Bytes :=
  let content := cursor.takeWhile (· != 0x3A)
  let contentLen := content.length
  if contentLen = cursor.length then none
  else
    let dataLen := (content.reverse.dropWhile (· == 0x3D)).length
    let paddingLen := contentLen - dataLen
    let isValid := (content.take dataLen).all
        (fun byte => isAsciiAlphanumeric byte || byte == 0x2B || byte == 0x2F) &&
      paddingLen ≤ 2 && dataLen % 4 != 1 && (paddingLen == 0 || contentLen % 4 == 0)
    if isValid then some (cursor.drop (contentLen + 1)) else none

/-- The value of one parameter: the `match` of `discard_parameters`. -/
def discardParameterValue : Bytes → Option Bytes
  | [] => none
  | byte :: rest =>
    if byte = 0x2D || isAsciiDigit byte then (discardNumber (byte :: rest)).map Prod.snd
    else if byte = 0x22 then (parseString (byte :: rest)).map Prod.snd
    else if byte = 0x2A || isAsciiUppercase byte || isAsciiLowercase byte then
      some ((byte :: rest).dropWhile
        (fun b => isAsciiAlphanumeric b || tokenSymbols.contains b))
    else if byte = 0x3A then discardByteSequence rest
    else if byte = 0x3F then
      match rest with
      | flag :: rest' => if flag = 0x30 ∨ flag = 0x31 then some rest' else none
      | [] => none
    else if byte = 0x40 then
      match discardNumber rest with
      | some (false, rest') => some rest'
      | _ => none
    else if byte = 0x25 then
      match rest with
      | quote :: rest' => if quote = 0x22 then discardDisplayString [] rest' else none
      | [] => none
    else none

def isParameterKeyByte (byte : UInt8) : Bool :=
  isAsciiLowercase byte || isAsciiDigit byte || byte == 0x5F || byte == 0x2D || byte == 0x2E ||
    byte == 0x2A

/-- `discard_parameters`; every round consumes its semicolon, so the length of
the input bounds the rounds. -/
def discardParametersLoop : Nat → Bytes → Option Bytes
  | 0, cursor => if cursor.head? = some 0x3B then none else some cursor
  | fuel + 1, cursor =>
    match cursor with
    | byte :: rest =>
      if byte = 0x3B then
        let key := rest.dropWhile (· == 0x20)
        if key.head?.any (fun b => isAsciiLowercase b || b == 0x2A) then
          match key.dropWhile isParameterKeyByte with
          | next :: value =>
            if next = 0x3D then
              (discardParameterValue value).bind (discardParametersLoop fuel)
            else discardParametersLoop fuel (next :: value)
          | [] => discardParametersLoop fuel []
        else none
      else some cursor
    | [] => some []

def discardParameters (cursor : Bytes) : Option Bytes :=
  discardParametersLoop cursor.length cursor

/-- The `while` loop of `parse_wt_protocol_list`, at the start of a member. -/
def parseWtProtocolListLoop : Nat → List String → Bytes → Option (List String)
  | 0, _, _ => none
  | fuel + 1, protocols, cursor =>
    (parseString cursor).bind fun (protocol, rest) =>
      (discardParameters rest).bind fun rest =>
        match rest.dropWhile isBlankByte with
        | [] => some (protocols ++ [protocol])
        | byte :: rest =>
          if byte ≠ 0x2C then none
          else
            match rest.dropWhile isBlankByte with
            | [] => none
            | next => parseWtProtocolListLoop fuel (protocols ++ [protocol]) next

def parseWtProtocolList (header : Bytes) : Option (List String) :=
  match header.dropWhile (· == 0x20) with
  | [] => none
  | cursor => parseWtProtocolListLoop cursor.length [] cursor

def parseWtProtocolString (header : Bytes) : Option String :=
  (parseString (header.dropWhile (· == 0x20))).bind fun (protocol, rest) =>
    (discardParameters rest).bind fun rest =>
      if rest.dropWhile (· == 0x20) = [] then some protocol else none

/-- The bytes of one protocol, quotes and backslashes escaped. -/
def encodeWtProtocolBytes : Bytes → Except String Bytes
  | [] => .ok []
  | byte :: rest =>
    if isPrintableAscii byte then
      (encodeWtProtocolBytes rest).map fun tail =>
        if byte = 0x5C ∨ byte = 0x22 then 0x5C :: byte :: tail else byte :: tail
    else .error "wt_protocol validate invalid"

def encodeWtProtocolMembers : List String → Except String (List Bytes)
  | [] => .ok []
  | protocol :: rest =>
    (encodeWtProtocolBytes (utf8Bytes protocol)).bind fun encoded =>
      (encodeWtProtocolMembers rest).map fun members =>
        ((0x22 :: encoded) ++ [0x22]) :: members

def encodeWtProtocolList (protocols : List String) : Except String Bytes :=
  (encodeWtProtocolMembers protocols).map (List.intercalate (asciiBytes [',', ' ']))

end PyWebTransport
