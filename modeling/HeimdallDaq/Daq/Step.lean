/-
One thread moving from one blocking point to the next.

`step` is the program as a transition system.  An event names the thread that
runs and the answers of the calls it makes on the way (the tuner calls' results,
the USB transfer delivered, the time); its guard is the condition under which the
thread can be at that point, so a run — a list of events every one of which is
enabled — is one interleaving the program can take.

Three of the threads hold `buff_ind_mutex` while they run: `fifo_read_tf` while it
latches a command, and `main` from the moment `pthread_cond_wait` returns until it
waits again.  So a latch and a pass of the coordinator's loop never overlap, and
each is one event.  `rtlsdrCallback` takes no lock; treating its copy and counter
bump as one event is the atomicity the spec asks of the counter's release store.
In the program a callback can also run while a pass reads the rings, and the model
puts it wholly before or after the pass.  A copy lands in a slot the pass reads
(slot `read_buff_ind % NUM_BUFF`, or for the overdrive scan `rd_buff_ind`, the
slot before it) only from a channel at least `NUM_BUFF - 1` transfers past the
block being sent.
-/
import HeimdallDaq.Daq.State
import Mathlib.Logic.Function.Basic

namespace RtlDaq

/-- What the three tuner calls of one configuration pass of `read_thread_entry`
returned: `rtlsdr_set_center_freq`, `rtlsdr_set_tuner_gain`,
`rtlsdr_set_sample_rate`.  A failed call leaves the tuner as it was. -/
structure TunerResults where
  freqOk : Bool
  gainOk : Bool
  rateOk : Bool

/-- Every tuner call succeeds. -/
def TunerResults.allOk : TunerResults := ⟨true, true, true⟩

/-- What the coordinator's `rtlsdr_set_center_freq` and `rtlsdr_set_tuner_gain`
calls returned, channel by channel. -/
structure ControlResults where
  freqOk : Nat → Bool
  gainOk : Nat → Bool

/-- Every tuner call succeeds. -/
def ControlResults.allOk : ControlResults := ⟨fun _ => true, fun _ => true⟩

/-- One step of one thread. -/
inductive Event
  /-- `fifo_read_tf` opens the control FIFO. -/
  | fifoOpen (ok : Bool)
  /-- `fifo_read_tf` reads one command and latches it. -/
  | latch (cmd : Command)
  /-- Reader thread `i` configures its tuner and reaches the barrier, or ends. -/
  | readerStep (i : Nat) (res : TunerResults)
  /-- `rtl_init_barrier` releases every reader thread. -/
  | barrierRelease
  /-- Reader thread `i`, released by the barrier, calls `rtlsdr_read_async`. -/
  | readStart (i : Nat)
  /-- The driver hands channel `i` one transfer. -/
  | callback (i : Nat) (buf : List UInt8)
  /-- Reader thread `i`'s canceled `rtlsdr_read_async` returns. -/
  | asyncReturn (i : Nat)
  /-- `main` tests `exit_flag` at the head of its loop. -/
  | coordCheck
  /-- `main` wakes and finds some channel not ready. -/
  | coordIdle
  /-- `main` wakes, finds every channel ready, emits a frame at time `now` and
  carries out the pending requests. -/
  | coordEmit (now : Nat) (res : ControlResults)

namespace Setup

variable (σ : Setup)

/-- The if-chain of `fifo_read_tf` on one command. -/
def latchCommand (s : Sys) : Command → Sys
  | .reconfigure f r g =>
    { s with
      rtlReceivers := fun i => if i < σ.chNo then
          { s.rtlReceivers i with gain := g, centerFreq := f, sampleRate := r }
        else s.rtlReceivers i
      reconfigTrigger := true }
  | .centerFreq f => { s with newCenterFreq := f, centerFreqChangeFlag := true }
  | .gains g => { s with newGains := g ++ s.newGains.drop g.length, gainChangeFlag := true }
  | .noiseOn => { s with noiseSourceState := true }
  | .noiseOff => { s with noiseSourceState := false }
  | .halt => { s with exitFlag := true, fifo := .exited }
  | .other _ => s

/-- One pass of `fifo_read_tf`'s loop: the command's own effect, then the dummy
window restarts, whatever the command was. -/
def fifoReadTf (s : Sys) (cmd : Command) : Sys :=
  { σ.latchCommand s cmd with enDummyFrame := true, dummyFrameCntr := 0 }

/-- One pass of `read_thread_entry`'s loop up to `pthread_barrier_wait`: tune to
the record's frequency and read back what the tuner took, set its gain and sample
rate, switch the noise source off.  When `exit_flag` is set the thread ends
instead. -/
def readThreadEntry (s : Sys) (i : Nat) (res : TunerResults) : Sys :=
  if s.exitFlag then { s with reader := Function.update s.reader i .exited }
  else
    let r := s.rtlReceivers i
    let dev := s.devices (σ.devInd i)
    let freq := if res.freqOk then r.centerFreq else dev.centerFreq
    { s with
      devices := Function.update s.devices (σ.devInd i)
        { centerFreq := freq
          gain := if res.gainOk then r.gain else dev.gain
          sampleRate := if res.rateOk then r.sampleRate else dev.sampleRate
          gpio := false }
      rtlReceivers := Function.update s.rtlReceivers i { r with centerFreq := freq }
      reader := Function.update s.reader i .atBarrier }

/-- Every reader thread waits at `rtl_init_barrier`. -/
def allAtBarrier (s : Sys) : Bool := (List.range σ.chNo).all fun i => s.reader i = .atBarrier

/-- `rtl_init_barrier` releases its `ch_no` parties; each then calls
`rtlsdr_read_async` on its own (`readStart`). -/
def barrierRelease (s : Sys) : Sys :=
  { s with
    reader := fun i => if i < σ.chNo then .released else s.reader i
    barrierGen := s.barrierGen + 1 }

/-- `rtlsdrCallback`: copy the transfer into slot `buff_ind % NUM_BUFF` and count
it. -/
def rtlsdrCallback (s : Sys) (i : Nat) (buf : List UInt8) : Sys :=
  let r := s.rtlReceivers i
  { s with
    rtlReceivers := Function.update s.rtlReceivers i
      { r with
        buffer := ringWrite σ.bufferSize r.buffer (r.buffInd % numBuff) buf
        buffInd := (r.buffInd + 1) % 2 ^ 64 } }

/-- The callback's `memcpy` of `len` bytes to slot `buff_ind % NUM_BUFF` stays inside
the `ringAllocSize` bytes `malloc` gave the ring. -/
def writeInRing (s : Sys) (i : Nat) (buf : List UInt8) : Prop :=
  slotOffset σ.bufferSize ((s.rtlReceivers i).buffInd % numBuff) + buf.length ≤ σ.ringAllocSize

instance (s : Sys) (i : Nat) (buf : List UInt8) : Decidable (σ.writeInRing s i buf) :=
  inferInstanceAs (Decidable (_ ≤ _))

/-- `data_ready`: every channel has written past `read_buff_ind`. -/
def dataReady (s : Sys) : Bool :=
  (List.range σ.chNo).all fun i => s.readBuffInd < (s.rtlReceivers i).buffInd

/-- "Complete IQ header": the header of the frame for block `read_buff_ind`, with
the overdrive flags the scan produced. -/
def frameHeader (s : Sys) (now : Nat) (flags : UInt8) : IqHeader :=
  { s.iqHeader with
    timeStamp := UInt64.ofNat now
    daqBlockIndex := UInt32.ofNat s.readBuffInd
    rfCenterFreq := if σ.chNo = 0 then s.iqHeader.rfCenterFreq
      else UInt64.ofNat (s.rtlReceivers (σ.chNo - 1)).centerFreq.toNat
    ifGains := fun m => if m < σ.chNo then u32OfInt (s.rtlReceivers m).gain
      else s.iqHeader.ifGains m
    adcOverdriveFlags := UInt32.ofNat flags.toNat
    noiseSourceState := if s.noiseSourceState then 1 else 0
    frameType := if s.enDummyFrame then .dummy else if s.noiseSourceState then .cal else .data
    dataType := if s.enDummyFrame then 0 else 1
    cpiLength := if s.enDummyFrame then 0 else u32OfInt σ.config.daqBufferSize }

/-- "Complete IQ data": nothing for a dummy frame, else slot
`read_buff_ind % NUM_BUFF` of every channel in channel order. -/
def framePayload (s : Sys) : List UInt8 :=
  if s.enDummyFrame then []
  else ((List.range σ.chNo).map fun i =>
    slotBytes σ.bufferSize (s.rtlReceivers i).buffer (s.readBuffInd % numBuff)).flatten

/-- The frame the coordinator writes from `s` at time `now`: the header, with the
flags of the overdrive scan of slot `rd_buff_ind`, and the payload. -/
def emitted (s : Sys) (now : Nat) : Frame :=
  ⟨σ.frameHeader s now (overdriveScan σ.bufferSize σ.chNo (fun i => (s.rtlReceivers i).buffer)
    s.rdBuffInd s.overdriveFlags), σ.framePayload s⟩

/-- The body of `if (data_ready == 1)` up to the tuner control: write the frame,
advance `read_buff_ind` and the dummy window. -/
def emitFrame (s : Sys) (now : Nat) : Sys :=
  { s with
    out := s.out ++ [σ.emitted s now]
    iqHeader := (σ.emitted s now).header
    rdBuffInd := if s.enDummyFrame || σ.chNo = 0 then s.rdBuffInd else s.readBuffInd % numBuff
    overdriveFlags := 0
    readBuffInd := (s.readBuffInd + 1) % 2 ^ 64
    dummyFrameCntr := if s.enDummyFrame then s.dummyFrameCntr + 1 else s.dummyFrameCntr
    enDummyFrame := s.enDummyFrame && s.dummyFrameCntr + 1 != noDummyFrames }

/-- `if(reconfig_trigger==1)`: `rtlsdr_cancel_async` on every channel.  The call
only stops a read that is running. -/
def cancelAsync (s : Sys) : Sys :=
  if s.reconfigTrigger then
    { s with
      reader := fun i => if i < σ.chNo ∧ s.reader i = .reading then .canceling else s.reader i
      reconfigTrigger := false }
  else s

/-- A successful `rtlsdr_set_center_freq` on channel `i`, and the frequency read
back into its record. -/
def setCenterFreq (s : Sys) (i : Nat) (f : UInt32) : Sys :=
  { s with
    devices := Function.update s.devices (σ.devInd i) { s.devices (σ.devInd i) with centerFreq := f }
    rtlReceivers := Function.update s.rtlReceivers i { s.rtlReceivers i with centerFreq := f } }

/-- A successful `rtlsdr_set_tuner_gain` on channel `i`, recorded in its record. -/
def setTunerGain (s : Sys) (i : Nat) (g : Int) : Sys :=
  { s with
    devices := Function.update s.devices (σ.devInd i) { s.devices (σ.devInd i) with gain := g }
    rtlReceivers := Function.update s.rtlReceivers i { s.rtlReceivers i with gain := g } }

/-- `if(center_freq_change_flag == 1)`: retune every channel to `new_center_freq`. -/
def centerFreqChange (s : Sys) (res : ControlResults) : Sys :=
  if s.centerFreqChangeFlag then
    { (List.range σ.chNo).foldl
        (fun t i => if res.freqOk i then σ.setCenterFreq t i s.newCenterFreq else t) s with
      centerFreqChangeFlag := false }
  else s

/-- `if(gain_change_flag==1)`: channel `i` to `new_gains[i]`. -/
def gainChange (s : Sys) (res : ControlResults) : Sys :=
  if s.gainChangeFlag then
    { (List.range σ.chNo).foldl
        (fun t i => if res.gainOk i then σ.setTunerGain t i (s.newGains.getD i 0) else t) s with
      gainChangeFlag := false }
  else s

/-- `rtlsdr_set_gpio(rtl_receivers[j].dev, level, 0)`, for a `j` that indexes a
record of `rtl_receivers`: `step` runs the switch only then (`switchInRange`). -/
def setGpioAt (s : Sys) (j : Int) (level : Bool) : Sys :=
  let d := σ.devInd j.toNat
  { s with devices := Function.update s.devices d { s.devices d with gpio := level } }

/-- The indices into `rtl_receivers` that the noise source switch uses:
`ctr_channel_dev_index`, and 7 when `ch_no > 4`. -/
def switchReceivers : List Int := σ.ctrChannelDevIndex :: if 4 < σ.chNo then [7] else []

/-- The noise source switch: on a change, and when noise source control is
enabled, the control channel's GPIO, and receiver 7's as well when `ch_no > 4`;
then `last_noise_source_state = noise_source_state`. -/
def noiseSwitch (s : Sys) : Sys :=
  let t := if s.lastNoiseSourceState ≠ s.noiseSourceState ∧ σ.noiseCtrEnabled then
      let t := σ.setGpioAt s σ.ctrChannelDevIndex s.noiseSourceState
      if 4 < σ.chNo then σ.setGpioAt t 7 s.noiseSourceState else t
    else s
  { t with lastNoiseSourceState := s.noiseSourceState }

/-- The "Tuner control" block of `main`'s loop, in the code's order. -/
def tunerControl (s : Sys) (res : ControlResults) : Sys :=
  σ.noiseSwitch (σ.gainChange (σ.centerFreqChange (σ.cancelAsync s) res) res)

/-- Every byte a pass reads lies inside the rings: with any channel at all, the
overdrive scan reads the `buffer_size` bytes of slot `rd_buff_ind` of every ring,
and the payload of a data or calibration frame those of slot
`read_buff_ind % NUM_BUFF`. -/
def readsInRing (s : Sys) : Prop :=
  0 < σ.chNo → slotOffset σ.bufferSize s.rdBuffInd + σ.bufferSize ≤ σ.ringAllocSize ∧
    (s.enDummyFrame = false →
      slotOffset σ.bufferSize (s.readBuffInd % numBuff) + σ.bufferSize ≤ σ.ringAllocSize)

/-- The noise source switch, if the pass runs it, indexes only records of
`rtl_receivers`.  The blocks before it leave both noise source states alone, so
the condition is read in the state the pass starts from. -/
def switchInRange (s : Sys) : Prop :=
  s.lastNoiseSourceState ≠ s.noiseSourceState ∧ σ.noiseCtrEnabled = true →
    ∀ j ∈ σ.switchReceivers, 0 ≤ j ∧ j < σ.chNo

instance (s : Sys) : Decidable (σ.readsInRing s) := inferInstanceAs (Decidable (_ → _))

instance (s : Sys) : Decidable (σ.switchInRange s) := inferInstanceAs (Decidable (_ → _))

/-- `main` leaving its loop: `rtlsdr_cancel_async` on every channel. -/
def shutdown (s : Sys) : Sys :=
  { s with
    coord := .exited
    reader := fun i => if i < σ.chNo ∧ s.reader i = .reading then .canceling else s.reader i }

/-- The program as a transition system: `none` when the event's thread cannot be
where the event needs it, and when the step would touch memory outside what the
program owns, a `memcpy` or a read past a ring or an index past `rtl_receivers`,
whose effect C leaves undefined. -/
def step (s : Sys) : Event → Option Sys
  | .fifoOpen ok =>
    if s.fifo = .opening then
      some { s with fifo := if ok then .running else .exited, exitFlag := s.exitFlag || !ok }
    else none
  | .latch cmd => if s.fifo = .running then some (σ.fifoReadTf s cmd) else none
  | .readerStep i res =>
    if i < σ.chNo ∧ s.reader i = .loopHead then some (σ.readThreadEntry s i res) else none
  | .barrierRelease => if σ.allAtBarrier s then some (σ.barrierRelease s) else none
  | .readStart i =>
    if i < σ.chNo ∧ s.reader i = .released then
      some { s with reader := Function.update s.reader i .reading }
    else none
  | .callback i buf =>
    if i < σ.chNo ∧ (s.reader i = .reading ∨ s.reader i = .canceling) ∧ σ.writeInRing s i buf then
      some (σ.rtlsdrCallback s i buf)
    else none
  | .asyncReturn i =>
    if s.reader i = .canceling then some { s with reader := Function.update s.reader i .loopHead }
    else none
  | .coordCheck =>
    if s.coord = .loopHead then
      some (if s.exitFlag then σ.shutdown s else { s with coord := .waiting })
    else none
  | .coordIdle =>
    if s.coord = .waiting ∧ σ.dataReady s = false then some { s with coord := .loopHead }
    else none
  | .coordEmit now res =>
    if s.coord = .waiting ∧ σ.dataReady s = true ∧ σ.readsInRing s ∧ σ.switchInRange s then
      some { σ.tunerControl (σ.emitFrame s now) res with coord := .loopHead }
    else none

/-- Run a list of events from `s`; `none` if one of them is not enabled. -/
def run (s : Sys) : List Event → Option Sys
  | [] => some s
  | e :: es => (σ.step s e).bind fun s' => run s' es

end Setup

/-- `main` after its loop, channel by channel in `is`: `rtlsdr_cancel_async`, then
`pthread_join` on the reader thread and `free` of its ring.  The driver stops only
a read that is running and fails on any other, and the first failure makes `main`
return -1.  The channels joined, in order, and what `main` returns. -/
def joinReaders (s : Sys) : List Nat → List Nat × Int
  | [] => ([], 0)
  | i :: is =>
    if s.reader i = .reading then
      match joinReaders s is with
      | (joined, ret) => (i :: joined, ret)
    else ([], -1)

/-- `main`'s exit sequence, from the state in which its loop ends. -/
def Setup.mainExit (σ : Setup) (s : Sys) : List Nat × Int := joinReaders s (List.range σ.chNo)

end RtlDaq
