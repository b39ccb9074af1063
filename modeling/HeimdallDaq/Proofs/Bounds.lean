/-
Where the coordinator's indices and the ring's offsets land.

Nothing checks `daq_buffer_size` or the driver's answer for the control serial,
so both bounds below are properties of the configuration alone, and where they
fail a run reaches a step with no outcome: an access C leaves undefined.

Every access to a ring, the callback's `memcpy`, the overdrive scan and the
payload `fwrite`, addresses byte `j < buffer_size` of slot `k < NUM_BUFF` at
`slotOffset buffer_size k + j`, and the ring has `ringAllocSize` bytes.  Both
products are `uint32_t`.  While `NUM_BUFF * buffer_size` stays below `2^32` the
slots tile the allocation; once it does not, the last slot that starts below
`2^32` runs past the wrapped allocation (`slots_in_alloc_iff`).  Through
`buffer_size = daq_buffer_size*2` that is a condition on the configured
`daq_buffer_size`.  For sizes from `2^30` on the C doubling overflows an `int`,
which is undefined; like `Setup.bufferSize` the model takes the wrapped value.

The noise source switch reads `rtl_receivers[ctr_channel_dev_index]` and, with
more than four channels, `rtl_receivers[7]` (`switchReceivers`).  The first is the
driver's device index for a serial, or 0 when the driver answers `-3`; the second
is fixed.
-/
import HeimdallDaq.Proofs.Frame

namespace RtlDaq

/-! ### The ring -/

theorem slotOffset_of_mul_lt {B k : Nat} (h : numBuff * B < 2 ^ 32) (hk : k ≤ numBuff) :
    slotOffset B k = B * k := by
  have : B * k ≤ B * numBuff := Nat.mul_le_mul_left B hk
  unfold slotOffset numBuff at *
  omega

/-- The slots of a ring of `buffer_size` bytes lie inside its allocation exactly
when `NUM_BUFF * buffer_size` does not wrap.  If it wraps, the last slot `k` that
starts below `2^32` ends at or past `2^32`, beyond the wrapped size. -/
theorem slots_in_alloc_iff {B : Nat} (hB : B < 2 ^ 32) :
    (∀ k < numBuff, ∀ j < B, slotOffset B k + j < numBuff * B % 2 ^ 32) ↔
      numBuff * B < 2 ^ 32 := by
  show (∀ k < 8, ∀ j < B, slotOffset B k + j < 8 * B % 2 ^ 32) ↔ 8 * B < 2 ^ 32
  constructor
  · intro h
    by_contra hw
    have hB0 : 0 < B := by omega
    have hk : (2 ^ 32 - 1) / B < 8 := (Nat.div_lt_iff_lt_mul hB0).2 (by omega)
    have hlo : B * ((2 ^ 32 - 1) / B) ≤ 2 ^ 32 - 1 := Nat.mul_div_le _ _
    have hhi : 2 ^ 32 - 1 < B * ((2 ^ 32 - 1) / B + 1) := Nat.lt_mul_div_succ _ hB0
    have hj := h _ hk (B - 1) (by omega)
    rw [Nat.mul_succ] at hhi
    unfold slotOffset at hj
    omega
  · intro h k hk j hj
    have : B * (k + 1) ≤ B * 8 := Nat.mul_le_mul_left B hk
    rw [slotOffset_of_mul_lt h hk.le, Nat.mod_eq_of_lt h]
    rw [Nat.mul_succ] at this
    omega

namespace Setup

variable (σ : Setup)

/-- `NUM_BUFF * buffer_size` does not wrap exactly for the `daq_buffer_size`s in
`[0, 2^28)` and in `[-2^31, -2^31 + 2^28)`, whose doubling wraps to a small
`buffer_size`. -/
theorem ringAllocSize_noWrap_iff :
    numBuff * σ.bufferSize < 2 ^ 32 ↔
      0 ≤ σ.config.daqBufferSize ∧ σ.config.daqBufferSize < 2 ^ 28 ∨
        σ.config.daqBufferSize < -2 ^ 31 + 2 ^ 28 := by
  have := σ.config.daqBufferSize_cInt
  unfold bufferSize toU32 numBuff IsCInt at *
  omega

/-- **Ring offsets stay in the ring for small buffers only.**  Every byte offset
`slot * buffer_size + j` (`slot < NUM_BUFF`, `j < buffer_size`) that the callback
writes and the coordinator reads lies inside the `malloc`ed ring exactly when
`daq_buffer_size` is in `[0, 2^28)` or in `[-2^31, -2^31 + 2^28)`. -/
theorem ring_offsets_in_alloc_iff :
    (∀ k < numBuff, ∀ j < σ.bufferSize, slotOffset σ.bufferSize k + j < σ.ringAllocSize) ↔
      0 ≤ σ.config.daqBufferSize ∧ σ.config.daqBufferSize < 2 ^ 28 ∨
        σ.config.daqBufferSize < -2 ^ 31 + 2 ^ 28 :=
  (slots_in_alloc_iff σ.bufferSize_lt).trans σ.ringAllocSize_noWrap_iff

variable {σ} {s : Sys}

/-- A ring of no bytes takes no transfer: a callback with data is a step with no
outcome. -/
theorem step_callback_of_empty_ring {i : Nat} {buf : List UInt8} (h0 : σ.ringAllocSize = 0)
    (hb : buf ≠ []) : σ.step s (.callback i buf) = none := by
  cases h : σ.step s (.callback i buf) with
  | none => rfl
  | some s' =>
    have hw := (step_callback.mp h).1.2.2
    have := List.length_pos.mpr hb
    unfold writeInRing at hw; omega

end Setup

/-- The reader of a one-channel setup configured, released and reading. -/
def oneReaderStart : List Event := [.readerStep 0 .allOk, .barrierRelease, .readStart 0]

/-- With `daq_buffer_size = 2^29` startup completes, `malloc` is asked for no
bytes at all, and the reader's first transfer, whatever its length, lands outside
the ring. -/
theorem wide_ring_alloc_empty :
    ∃ s0 s, Setup.wide.startup (fun _ => true) (fun _ => some fun _ => 0) (fun _ => .idle) =
        some s0 ∧ Setup.wide.run s0 oneReaderStart = some s ∧ s.reader 0 = .reading ∧
      Setup.wide.ringAllocSize = 0 ∧
      ∀ buf : List UInt8, buf ≠ [] → Setup.wide.step s (.callback 0 buf) = none :=
  have h0 : Setup.wide.ringAllocSize = 0 := by decide
  ⟨_, _, rfl, rfl, rfl, h0, fun _ hb => Setup.step_callback_of_empty_ring h0 hb⟩

/-! ### The noise source switch -/

namespace Setup

variable (σ : Setup)

/-- The noise source switch is `rtlsdr_set_gpio` on the receivers of
`switchReceivers`, in order. -/
theorem noiseSwitch_eq_foldl (s : Sys) :
    σ.noiseSwitch s =
      { (if s.lastNoiseSourceState ≠ s.noiseSourceState ∧ σ.noiseCtrEnabled then
          σ.switchReceivers.foldl (fun t j => σ.setGpioAt t j s.noiseSourceState) s else s) with
        lastNoiseSourceState := s.noiseSourceState } := by
  unfold noiseSwitch switchReceivers
  split_ifs <;> rfl

/-- **The noise source indices.**  Every index the noise source switch reads lies
in `[0, ch_no)` exactly when the driver's answer for the control serial is `-3`
(so the index is 0) with at least one channel, or an index in `[0, ch_no)`; and
`ch_no` is at most 4 or at least 8. -/
theorem noise_indices_in_range_iff :
    (∀ j ∈ σ.switchReceivers, 0 ≤ j ∧ j < σ.chNo) ↔
      (σ.indexBySerial σ.config.ctrChannelSerialNo = -3 ∧ 0 < σ.chNo ∨
        0 ≤ σ.indexBySerial σ.config.ctrChannelSerialNo ∧
          σ.indexBySerial σ.config.ctrChannelSerialNo < σ.chNo) ∧
      (σ.chNo ≤ 4 ∨ 8 ≤ σ.chNo) := by
  unfold switchReceivers ctrChannelDevIndex
  split_ifs <;> simp <;> omega

variable {σ} {s : Sys}

/-- A pass whose noise source switch would index past `rtl_receivers` has no
outcome. -/
theorem step_coordEmit_of_switch {now : Nat} {res : ControlResults}
    (h : ¬ σ.switchInRange s) : σ.step s (.coordEmit now res) = none := by
  cases he : σ.step s (.coordEmit now res) with
  | none => rfl
  | some s' => exact absurd (step_coordEmit.mp he).1.2.2.2 h

end Setup

/-- `Setup.single` with five channels. -/
def Setup.five : Setup :=
  { Setup.single with config := { Setup.single.config with numCh := 5, cInt := by decide } }

/-- `'n'`, then each of the five tuners configured, released, reading and handing
over one transfer, and the coordinator at the head of its loop. -/
def fiveNoiseRun : List Event :=
  [.fifoOpen true, .latch .noiseOn] ++ (List.range 5).map (.readerStep · .allOk) ++
    [.barrierRelease] ++ (List.range 5).map .readStart ++ (List.range 5).map (.callback · [1, 1]) ++
    [.coordCheck]

/-- With five channels, startup completes and the first pass finds every channel
ready and an `'n'` to carry out; its switch would read `rtl_receivers[7]`, past the
five records, and the pass has no outcome. -/
theorem five_channels_read_receiver_seven :
    ∃ s0 s, Setup.five.startup (fun _ => true) (fun _ => some fun _ => 0) (fun _ => .idle) =
        some s0 ∧ Setup.five.run s0 fiveNoiseRun = some s ∧
      (s.coord = .waiting ∧ Setup.five.dataReady s = true ∧ Setup.five.readsInRing s) ∧
      (7 : Int) ∈ Setup.five.switchReceivers ∧ ¬ (7 : Int) < Setup.five.chNo ∧
      ∀ now res, Setup.five.step s (.coordEmit now res) = none :=
  ⟨_, _, rfl, rfl, by decide, by decide, by decide,
    fun _ _ => Setup.step_coordEmit_of_switch (by decide)⟩

/-! ### A valid configuration -/

namespace Setup

variable {σ : Setup}

end Setup

end RtlDaq
