/-
The frame header and the frames `main` writes.

iq_header.h is not among the sources, so the record below takes its field list
from what `main` writes into `struct iq_header_struct` and its field widths from
the spec's description of the header.  The frame type constants are the three the
program uses.  The memory layout `fwrite` copies is a parameter, `HeaderLayout`:
all that is assumed of it is a fixed size and that a reader can get back the two
fields a decoder needs to find the next frame.
-/
import HeimdallDaq.Daq.Config

namespace RtlDaq

/-- Modelled from the spec: `FRAME_TYPE_DATA`, `FRAME_TYPE_DUMMY` and
`FRAME_TYPE_CAL`, the frame types this program writes. -/
inductive FrameType
  | data
  | dummy
  | cal
  deriving DecidableEq, Repr

/-- Modelled from the spec: `struct iq_header_struct`, with the fields `main`
writes. -/
structure IqHeader where
  syncWord : UInt32
  frameType : FrameType
  hardwareId : String
  unitId : UInt32
  activeAntChs : UInt32
  iooType : UInt32
  rfCenterFreq : UInt64
  adcSamplingFreq : UInt64
  samplingFreq : UInt64
  cpiLength : UInt32
  timeStamp : UInt64
  daqBlockIndex : UInt32
  cpiIndex : UInt32
  extIntegrationCntr : UInt32
  dataType : UInt32
  sampleBitDepth : UInt32
  adcOverdriveFlags : UInt32
  ifGains : Nat → UInt32
  delaySyncFlag : UInt32
  iqSyncFlag : UInt32
  syncState : UInt32
  noiseSourceState : UInt32
  headerVersion : UInt32

/-- One frame on stdout: the header `fwrite` copies, then the payload bytes. -/
structure Frame where
  header : IqHeader
  payload : List UInt8

/-- `(uint32_t) x` for a C `int`. -/
def u32OfInt (x : Int) : UInt32 := UInt32.ofNat (toU32 x)

/-- `(uint64_t) x` for a C `int`: a negative `x` becomes `x + 2^64`. -/
def u64OfInt (x : Int) : UInt64 := UInt64.ofNat (x % 2 ^ 64).toNat

@[simp] theorem uint8_ofNat_toNat (n : Nat) : (UInt8.ofNat n).toNat = n % 2 ^ 8 := by
  simp [UInt8.toNat, UInt8.ofNat]

@[simp] theorem uint32_ofNat_toNat (n : Nat) : (UInt32.ofNat n).toNat = n % 2 ^ 32 := by
  simp [UInt32.toNat, UInt32.ofNat]

@[simp] theorem uint64_ofNat_toNat (n : Nat) : (UInt64.ofNat n).toNat = n % 2 ^ 64 := by
  simp [UInt64.toNat, UInt64.ofNat]

@[simp] theorem u32OfInt_toNat (x : Int) : (u32OfInt x).toNat = toU32 x := by
  rw [u32OfInt, uint32_ofNat_toNat, Nat.mod_eq_of_lt (toU32_lt x)]

/-- Modelled from the spec: the memory layout of `struct iq_header_struct`, which
`fwrite(iq_header, sizeof(struct iq_header_struct), 1, stdout)` copies to the
stream.  A header is a fixed number of bytes, and a reader of those bytes recovers
`active_ant_chs` and `cpi_length`. -/
structure HeaderLayout where
  size : Nat
  size_pos : 0 < size
  encode : IqHeader → List UInt8
  length_encode : ∀ h, (encode h).length = size
  activeAntChsOf : List UInt8 → UInt32
  cpiLengthOf : List UInt8 → UInt32
  activeAntChsOf_encode : ∀ h, activeAntChsOf (encode h) = h.activeAntChs
  cpiLengthOf_encode : ∀ h, cpiLengthOf (encode h) = h.cpiLength

/-- The bytes `main` has written to stdout once it has emitted `frames`. -/
def HeaderLayout.stream (L : HeaderLayout) (frames : List Frame) : List UInt8 :=
  (frames.map fun f => L.encode f.header ++ f.payload).flatten

end RtlDaq
