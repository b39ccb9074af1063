/-
What `main` fixes before any thread starts.

`handler` fills a `configuration` record from `daq_chain_config.ini`, every value
through `atoi`, so every numeric field is a C `int`.  From it `main` derives the
two statics all threads read, `ch_no` and `buffer_size`, by conversions to
`uint32_t`, and asks the USB driver for the device index of each channel's serial
number.  The conversions are written out as the C code performs them:
`buffer_size` is `daq_buffer_size*2` taken modulo `2^32`, which is where the
ring's arithmetic can wrap (`Proofs/Bounds.lean`).
-/
import Mathlib.Algebra.Group.Int
import Mathlib.Algebra.Group.Nat.Basic
import Mathlib.Data.List.Basic

namespace RtlDaq

/-- `NUM_BUFF`: slots in each channel's circular buffer. -/
def numBuff : Nat := 8

/-- `NO_DUMMY_FRAMES`: how many dummy frames follow a control command. -/
def noDummyFrames : Nat := 8

/-- The values a C `int` can hold. -/
def IsCInt (x : Int) : Prop := -2 ^ 31 ≤ x ∧ x < 2 ^ 31

instance : DecidablePred IsCInt := fun x => inferInstanceAs (Decidable (-2 ^ 31 ≤ x ∧ x < 2 ^ 31))

/-- `(uint32_t) x` for a C `int` `x`. -/
def toU32 (x : Int) : Nat := (x % 2 ^ 32).toNat

theorem toU32_lt (x : Int) : toU32 x < 2 ^ 32 := by
  unfold toU32; omega

theorem toU32_of_nonneg {x : Int} (h0 : 0 ≤ x) (h : x < 2 ^ 32) : (toU32 x : Int) = x := by
  unfold toU32; omega

/-- `configuration`, as `handler` fills it.  `log_level` only sets the logger and is
left out. -/
structure Configuration where
  numCh : Int
  daqBufferSize : Int
  sampleRate : Int
  centerFreq : Int
  gain : Int
  enNoiseSourceCtr : Int
  ctrChannelSerialNo : Int
  hwName : String
  hwUnitId : Int
  iooType : Int
  /-- Every numeric field went through `atoi`. -/
  cInt : ∀ x ∈ [numCh, daqBufferSize, sampleRate, centerFreq, gain, enNoiseSourceCtr,
    ctrChannelSerialNo, hwUnitId, iooType], IsCInt x

theorem Configuration.daqBufferSize_cInt (c : Configuration) : IsCInt c.daqBufferSize :=
  c.cInt _ (by simp)

/-- The configuration together with the USB driver's answers to
`rtlsdr_get_index_by_serial`, serial number by serial number: everything the
threads read but never write.  `syncWord` is `SYNC_WORD` from iq_header.h, which is
not among the sources. -/
structure Setup where
  config : Configuration
  indexBySerial : Int → Int
  syncWord : UInt32

namespace Setup

variable (σ : Setup)

/-- `ch_no = config.num_ch`. -/
def chNo : Nat := toU32 σ.config.numCh

/-- `buffer_size = config.daq_buffer_size*2`: bytes per slot, two per IQ sample. -/
def bufferSize : Nat := toU32 (σ.config.daqBufferSize * 2)

/-- `rtl_rec->dev_ind`: channel `i` is the tuner whose serial is `1000+i`. -/
def devInd (i : Nat) : Int := σ.indexBySerial (1000 + i)

/-- `ctr_channel_dev_index`: the driver's index for the control channel's serial,
or 0 when the driver answers `-3` (no device has it). -/
def ctrChannelDevIndex : Int :=
  if σ.indexBySerial σ.config.ctrChannelSerialNo = -3 then 0
  else σ.indexBySerial σ.config.ctrChannelSerialNo

/-- `config.en_noise_source_ctr==1`. -/
def noiseCtrEnabled : Bool := σ.config.enNoiseSourceCtr = 1

theorem chNo_lt : σ.chNo < 2 ^ 32 := toU32_lt _

theorem bufferSize_lt : σ.bufferSize < 2 ^ 32 := toU32_lt _

/-- For a non-negative `daq_buffer_size` the doubling never wraps: a C `int` is
below `2^31`. -/
theorem bufferSize_eq {σ : Setup} (h : 0 ≤ σ.config.daqBufferSize) :
    (σ.bufferSize : Int) = 2 * σ.config.daqBufferSize := by
  have := σ.config.daqBufferSize_cInt
  unfold bufferSize IsCInt at *
  rw [toU32_of_nonneg (by omega) (by omega)]
  omega

end Setup

/-! ### Setups the examples run -/

/-- One tuner, one IQ sample (two bytes) per block, noise source control on, the
tuner with serial 1000 as control channel; the driver numbers the tuner with serial
`1000+i` as device `i`. -/
def Setup.single : Setup where
  config :=
    { numCh := 1, daqBufferSize := 1, sampleRate := 0, centerFreq := 0, gain := 0,
      enNoiseSourceCtr := 1, ctrChannelSerialNo := 1000, hwName := "", hwUnitId := 0,
      iooType := 0, cInt := by decide }
  indexBySerial := fun n => n - 1000
  syncWord := 0

/-- The same tuner with `daq_buffer_size = 2^29`: slots of `2^30` bytes. -/
def Setup.wide : Setup :=
  { Setup.single with
    config := { Setup.single.config with daqBufferSize := 2 ^ 29, cInt := by decide } }

/-- The same tuner with noise source control off. -/
def Setup.noCtr : Setup :=
  { Setup.single with
    config := { Setup.single.config with enNoiseSourceCtr := 0, cInt := by decide } }

/-- Two tuners, serials 1000 and 1001, otherwise as `Setup.single`. -/
def Setup.pair : Setup :=
  { Setup.single with config := { Setup.single.config with numCh := 2, cInt := by decide } }

end RtlDaq
