/-
PyWebTransport.Common.Constants — the constants the protocol core reads
(`common/constants.rs`).

Only the constants that a modelled function uses are here; the values are
the source's. Field names are byte strings in the source, so they are
lists of ASCII bytes.
-/
import PyWebTransport.Common.Types

namespace PyWebTransport

/-- The bytes of an ASCII byte-string literal. -/
def asciiBytes (chars : List Char) : Bytes := chars.map (fun c => UInt8.ofNat c.toNat)

/-! ## Error codes -/

def errAppNoError : ErrorCode := 0x0000
def errH3ClosedCriticalStream : ErrorCode := 0x0104
def errH3ConnectError : ErrorCode := 0x010F
def errH3DatagramError : ErrorCode := 0x0033
def errH3ExcessiveLoad : ErrorCode := 0x0107
def errH3FrameError : ErrorCode := 0x0106
def errH3FrameUnexpected : ErrorCode := 0x0105
def errH3GeneralProtocolError : ErrorCode := 0x0101
def errH3IdError : ErrorCode := 0x0108
def errH3InternalError : ErrorCode := 0x0102
def errH3MessageError : ErrorCode := 0x010E
def errH3MissingSettings : ErrorCode := 0x010A
def errH3NoError : ErrorCode := 0x0100
def errH3RequestCancelled : ErrorCode := 0x010C
def errH3RequestIncomplete : ErrorCode := 0x010D
def errH3RequestRejected : ErrorCode := 0x010B
def errH3SettingsError : ErrorCode := 0x0109
def errH3StreamCreationError : ErrorCode := 0x0103
def errLibConnectionLimitExceeded : ErrorCode := 0x11000002
def errLibConnectionStateError : ErrorCode := 0x11000001
def errLibInternalError : ErrorCode := 0x10000001
def errLibSessionStateError : ErrorCode := 0x12000001
def errLibStreamStateError : ErrorCode := 0x13000001
def errQpackDecoderStreamError : ErrorCode := 0x0202
def errQpackDecompressionFailed : ErrorCode := 0x0200
def errQpackEncoderStreamError : ErrorCode := 0x0201
def errWtAlpnError : ErrorCode := 0x0817B3DD
def errWtApplicationErrorFirst : ErrorCode := 0x52E4A40FA8DB
def errWtApplicationErrorLast : ErrorCode := 0x52E5AC983162
def errWtBufferedStreamRejected : ErrorCode := 0x3994BD84
def errWtFlowControlError : ErrorCode := 0x045D4487
def errWtRequirementsNotMet : ErrorCode := 0x212C0D48
def errWtSessionGone : ErrorCode := 0x170D7B68

/-! ## HTTP/3 frames, streams and settings -/

def h3FrameTypeCancelPush : Nat := 0x03
def h3FrameTypeData : Nat := 0x00
def h3FrameTypeGoaway : Nat := 0x07
def h3FrameTypeHeaders : Nat := 0x01
def h3FrameTypeMaxPushId : Nat := 0x0D
def h3FrameTypePushPromise : Nat := 0x05
def h3FrameTypeReservedContinuation : Nat := 0x09
def h3FrameTypeReservedPing : Nat := 0x06
def h3FrameTypeReservedPriority : Nat := 0x02
def h3FrameTypeReservedWindowUpdate : Nat := 0x08
def h3FrameTypeSettings : Nat := 0x04
def h3FrameTypeWtStream : Nat := 0x41
def h3StreamTypeControl : Nat := 0x00
def h3StreamTypePush : Nat := 0x01
def h3StreamTypeQpackDecoder : Nat := 0x03
def h3StreamTypeQpackEncoder : Nat := 0x02
def h3StreamTypeWebtransport : Nat := 0x54
def quicStreamDirectionMask : Nat := 0x02
def quicStreamInitiatorMask : Nat := 0x01
def quicStreamTypeCount : Nat := 4
def quicVarintLimit : Nat := 2 ^ 62 - 1
def settingsEnableConnectProtocol : Nat := 0x08
def settingsH3Datagram : Nat := 0x33
def settingsMaxFieldSectionSize : Nat := 0x06
def settingsQpackBlockedStreams : Nat := 0x07
def settingsQpackMaxTableCapacity : Nat := 0x01
def settingsReservedEnablePush : Nat := 0x02
def settingsReservedInitialWindowSize : Nat := 0x04
def settingsReservedMaxConcurrentStreams : Nat := 0x03
def settingsReservedMaxFrameSize : Nat := 0x05
def settingsWtEnabled : Nat := 0x2C7CF000
def settingsWtInitialMaxData : Nat := 0x2B61
def settingsWtInitialMaxStreamsBidi : Nat := 0x2B65
def settingsWtInitialMaxStreamsUni : Nat := 0x2B64

/-! ## WebTransport -/

def wtAvailableProtocols : Bytes :=
  asciiBytes ['w', 't', '-', 'a', 'v', 'a', 'i', 'l', 'a', 'b', 'l', 'e', '-',
    'p', 'r', 'o', 't', 'o', 'c', 'o', 'l', 's']
def wtCapsuleTypeCloseSession : Nat := 0x2843
def wtCapsuleTypeDataBlocked : Nat := 0x190B4D41
def wtCapsuleTypeDrainSession : Nat := 0x78AE
def wtCapsuleTypeMaxData : Nat := 0x190B4D3D
def wtCapsuleTypeMaxStreamsBidi : Nat := 0x190B4D3F
def wtCapsuleTypeMaxStreamsUni : Nat := 0x190B4D40
def wtCapsuleTypeMaxStreamData : Nat := 0x190B4D3E
def wtCapsuleTypeStreamsBlockedBidi : Nat := 0x190B4D43
def wtCapsuleTypeStreamsBlockedUni : Nat := 0x190B4D44
def wtCapsuleTypeStreamDataBlocked : Nat := 0x190B4D42
def wtCloseReasonSizeLimit : Nat := 1024
def wtExporterLabel : String := "EXPORTER-WebTransport"
def wtProtocol : Bytes :=
  asciiBytes ['w', 't', '-', 'p', 'r', 'o', 't', 'o', 'c', 'o', 'l']
def wtStreamsLimit : Nat := 2 ^ 60
def wtUpgradeToken : Bytes :=
  asciiBytes ['w', 'e', 'b', 't', 'r', 'a', 'n', 's', 'p', 'o', 'r', 't', '-', 'h', '3']

end PyWebTransport
