import MeetingSystem.Impl.Sfu.Rtp

/-!
# RPC frames of the SFU

`meeting-server/sfu/server/RpcProtocol.cpp`. A method is its number, and a kind
the byte that it is stored in: both are enumerations of C++ with a fixed
underlying type, which can hold any number of that type.
-/

namespace MeetingSystem.Impl.Sfu

structure RpcFrame where
  method : UInt16
  kind : UInt8
  status : UInt16
  payload : Bytes
  deriving DecidableEq

/-- `RpcFrameKind::kRequest`. -/
def kRequest : UInt8 := 1

/-- `RpcFrameKind::kResponse`. -/
def kResponse : UInt8 := 2

def kRpcMagic : UInt32 := 0x53465552
def kRpcVersion : UInt8 := 1
def kRpcHeaderSize : Nat := 14
def kRpcMaxPayloadSize : Nat := 1024 * 1024

def appendU16 (value : UInt16) : Bytes :=
  [(value >>> 8 &&& 0xFF).toUInt8, (value &&& 0xFF).toUInt8]

def appendU32 (value : UInt32) : Bytes :=
  [(value >>> 24 &&& 0xFF).toUInt8, (value >>> 16 &&& 0xFF).toUInt8,
    (value >>> 8 &&& 0xFF).toUInt8, (value &&& 0xFF).toUInt8]

def isValidKind (kind : UInt8) : Bool := kind == kRequest || kind == kResponse

def encodeRpcFrame (frame : RpcFrame) : Option Bytes :=
  if frame.payload.length > kRpcMaxPayloadSize ∨ ¬ isValidKind frame.kind then none
  else
    some (appendU32 kRpcMagic ++ [kRpcVersion, frame.kind] ++ appendU16 frame.method ++
      appendU16 frame.status ++ appendU32 (.ofNat frame.payload.length) ++ frame.payload)

def decodeRpcFrame (data : Bytes) : Option RpcFrame :=
  if data.length < kRpcHeaderSize then none
  else
    let magic := readU32 data 0
    let version := data.getD 4 0
    let kind := data.getD 5 0
    let method := readU16 data 6
    let status := readU16 data 8
    let payloadSize := readU32 data 10
    if magic ≠ kRpcMagic ∨ version ≠ kRpcVersion ∨ ¬ isValidKind kind ∨
        payloadSize.toNat > kRpcMaxPayloadSize then none
    else if data.length ≠ kRpcHeaderSize + payloadSize.toNat then none
    else some { method, kind, status, payload := data.drop kRpcHeaderSize }

end MeetingSystem.Impl.Sfu
