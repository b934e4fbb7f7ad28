import PilotingMavsdk.TextFields

/-! The X.25 checksum of MAVLink frames, one byte at a time. -/

namespace PilotingMavsdk

def x25InitCrc : UInt16 := 0xffff

def crcAccumulate (data : UInt8) (crcAccum : UInt16) : UInt16 :=
  let first : UInt8 := data ^^^ (crcAccum &&& 0xff).toUInt8
  let tmp : UInt8 := first ^^^ (first <<< 4)
  (crcAccum >>> 8) ^^^ (tmp.toUInt16 <<< 8) ^^^ (tmp.toUInt16 <<< 3) ^^^ (tmp.toUInt16 >>> 4)

def crcAccumulateBuffer (crcAccum : UInt16) (buffer : Bytes) : UInt16 :=
  buffer.foldl (fun crc data => crcAccumulate data crc) crcAccum

def crcCalculate (buffer : Bytes) : UInt16 := crcAccumulateBuffer x25InitCrc buffer

end PilotingMavsdk
