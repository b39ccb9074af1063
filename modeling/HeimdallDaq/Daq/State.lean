/-
The state of the running program, and what `main` leaves it in once startup is done.

The program is `ch_no + 2` threads over shared globals: the coordinator (`main`'s
loop), the control thread `fifo_read_tf`, and one `read_thread_entry` per channel,
whose USB driver worker runs `rtlsdrCallback`.  `Sys` holds every global they share,
each thread's position in its loop, the tuners as the driver keeps them, and what
has been written to stdout.  Threads interact only through these fields; one
event of `Daq/Step.lean` is one thread running from one of its blocking points to
the next.

The C flags `reconfig_trigger`, `exit_flag`, `noise_source_state`,
`gain_change_flag`, `center_freq_change_flag` and `en_dummy_frame` are `int`s that
are only ever assigned 0 or 1, so they are `Bool`s here.
-/
import HeimdallDaq.Daq.Ring

namespace RtlDaq

/-- A tuner as the driver keeps it, after the calls that succeeded. -/
structure Device where
  centerFreq : UInt32
  gain : Int
  sampleRate : UInt32
  /-- The last level written by `rtlsdr_set_gpio(dev, level, 0)`: the noise source. -/
  gpio : Bool

/-- `struct rtl_rec_struct`, less what `Setup` fixes (`dev_ind`) and the thread
handle. -/
structure RtlRec where
  /-- `buff_ind`, an unsigned 64-bit counter of the callbacks so far. -/
  buffInd : Nat
  /-- The ring, `NUM_BUFF * buffer_size` bytes from `rtl_rec->buffer`. -/
  buffer : Nat → UInt8
  gain : Int
  centerFreq : UInt32
  sampleRate : UInt32

/-- Where a `read_thread_entry` thread is. -/
inductive ReaderPc
  /-- At `while(!exit_flag)`, about to configure the tuner. -/
  | loopHead
  /-- In `pthread_barrier_wait(&rtl_init_barrier)`. -/
  | atBarrier
  /-- Released by the barrier, not yet inside `rtlsdr_read_async`. -/
  | released
  /-- Inside `rtlsdr_read_async`: the driver is delivering transfers. -/
  | reading
  /-- `rtlsdr_cancel_async` has been called; the read has not returned yet, and
  transfers already in flight may still be delivered. -/
  | canceling
  | exited
  deriving DecidableEq, Repr

/-- Where `main`'s acquisition loop is. -/
inductive CoordPc
  /-- At `while( !exit_flag )`. -/
  | loopHead
  /-- In `pthread_cond_wait(&buff_ind_cond, &buff_ind_mutex)`. -/
  | waiting
  | exited
  deriving DecidableEq, Repr

/-- Where `fifo_read_tf` is. -/
inductive FifoPc
  /-- Before `fopen(CFN, "r")`. -/
  | opening
  /-- In its command loop. -/
  | running
  /-- Returned: the FIFO could not be opened, or the halt command was read. -/
  | exited
  deriving DecidableEq, Repr

/-- One command as `fifo_read_tf` reads it from the control FIFO: the command byte
and the payload it reads after it. -/
inductive Command
  /-- `'r'`: `center_freq_read`, `sample_rate_read`, `gain_read`. -/
  | reconfigure (centerFreq sampleRate : UInt32) (gain : Int)
  /-- `'c'`: the new center frequency. -/
  | centerFreq (freq : UInt32)
  /-- `'g'`: the gains `fread` stored into `new_gains`, channel by channel. -/
  | gains (g : List Int)
  /-- `'n'`. -/
  | noiseOn
  /-- `'f'`. -/
  | noiseOff
  /-- The byte 2. -/
  | halt
  /-- Any other byte. -/
  | other (b : UInt8)

/-- The whole program state. -/
structure Sys where
  /-- `rtl_receivers`; the records below `ch_no` exist. -/
  rtlReceivers : Nat → RtlRec
  reader : Nat → ReaderPc
  /-- The tuners, by USB device index. -/
  devices : Int → Device
  /-- How many times `rtl_init_barrier` has released its parties. -/
  barrierGen : Nat
  fifo : FifoPc
  coord : CoordPc
  reconfigTrigger : Bool
  exitFlag : Bool
  noiseSourceState : Bool
  lastNoiseSourceState : Bool
  gainChangeFlag : Bool
  newGains : List Int
  newCenterFreq : UInt32
  centerFreqChangeFlag : Bool
  enDummyFrame : Bool
  dummyFrameCntr : Nat
  /-- `main`'s `read_buff_ind`, unsigned 64-bit. -/
  readBuffInd : Nat
  /-- `main`'s `rd_buff_ind`. -/
  rdBuffInd : Nat
  /-- `main`'s `overdrive_flags`. -/
  overdriveFlags : UInt8
  /-- `*iq_header`, reused from frame to frame. -/
  iqHeader : IqHeader
  /-- The frames written to stdout, oldest first. -/
  out : List Frame

namespace Setup

variable (σ : Setup)

/-- The header fields `main` fills before spawning any thread. -/
def initialHeader : IqHeader where
  syncWord := σ.syncWord
  headerVersion := 7
  hardwareId := σ.config.hwName
  unitId := u32OfInt σ.config.hwUnitId
  activeAntChs := UInt32.ofNat σ.chNo
  iooType := u32OfInt σ.config.iooType
  rfCenterFreq := u64OfInt σ.config.centerFreq
  adcSamplingFreq := u64OfInt σ.config.sampleRate
  samplingFreq := u64OfInt σ.config.sampleRate
  cpiLength := u32OfInt σ.config.daqBufferSize
  timeStamp := 0
  daqBlockIndex := 0
  cpiIndex := 0
  extIntegrationCntr := 0
  frameType := .data
  dataType := 2
  sampleBitDepth := 8
  adcOverdriveFlags := 0
  ifGains := fun m => if m < σ.chNo then u32OfInt σ.config.gain else 0
  delaySyncFlag := 0
  iqSyncFlag := 0
  syncState := 0
  noiseSourceState := 0

/-- The state in which `main` enters its acquisition loop, with `rings` the memory
`malloc` handed each channel and `dev0` the tuners as they were found.  The control
thread and the reader threads have been spawned and have not run yet. -/
def loopEntry (rings : Nat → Nat → UInt8) (dev0 : Int → Device) : Sys where
  rtlReceivers := fun i =>
    { buffInd := 0, buffer := rings i, gain := σ.config.gain,
      centerFreq := UInt32.ofNat (toU32 σ.config.centerFreq),
      sampleRate := UInt32.ofNat (toU32 σ.config.sampleRate) }
  reader := fun _ => .loopHead
  devices := dev0
  barrierGen := 0
  fifo := .opening
  coord := .loopHead
  reconfigTrigger := false
  exitFlag := false
  noiseSourceState := false
  lastNoiseSourceState := false
  gainChangeFlag := false
  newGains := List.replicate σ.chNo 0
  newCenterFreq := 0
  centerFreqChangeFlag := false
  enDummyFrame := false
  dummyFrameCntr := 0
  readBuffInd := 0
  rdBuffInd := 1
  overdriveFlags := 0
  iqHeader := σ.initialHeader
  out := []

/-- `NUM_BUFF * buffer_size * sizeof(uint8_t)`, the bytes `malloc` is asked for
each ring: `NUM_BUFF * buffer_size` is a `uint32_t` product, widened to `size_t`
only for the multiplication by `sizeof(uint8_t)`. -/
def ringAllocSize : Nat := numBuff * σ.bufferSize % 2 ^ 32

/-- `main` up to its acquisition loop, given the driver's answers to `rtlsdr_open`
(`openOk`), what `malloc` returned for each ring of `ringAllocSize` bytes
(`ring0`, `none` for NULL) and the tuners as they were found (`dev0`).  Startup
fails, and the program returns -1, when a channel's serial is unknown to the
driver, a ring cannot be allocated, or a tuner cannot be opened. -/
def startup (openOk : Int → Bool) (ring0 : Nat → Option (Nat → UInt8))
    (dev0 : Int → Device) : Option Sys :=
  if (List.range σ.chNo).any (fun i => σ.devInd i = -3) then none
  else if (List.range σ.chNo).any (fun i => (ring0 i).isNone) then none
  else if (List.range σ.chNo).any (fun i => !openOk (σ.devInd i)) then none
  else some (σ.loopEntry (fun i => (ring0 i).getD fun _ => 0) dev0)

theorem startup_eq_some {openOk : Int → Bool} {ring0 : Nat → Option (Nat → UInt8)}
    {dev0 : Int → Device} {s0 : Sys} (h : σ.startup openOk ring0 dev0 = some s0) :
    s0 = σ.loopEntry (fun i => (ring0 i).getD fun _ => 0) dev0 := by
  unfold startup at h
  split_ifs at h
  exact (Option.some.inj h).symm

end Setup

/-- A tuner at 0 Hz, gain 0, noise source off. -/
def Device.idle : Device := ⟨0, 0, 0, false⟩

end RtlDaq
