/-
The deprecated restart: `'r'`, then cancel, reconfigure and re-arm.

`'r'` writes the new frequency, rate and gain straight into every record and asks
the coordinator to cancel the reads.  Each reader whose read returns configures
its tuner again from its record, drives its noise source GPIO low, and waits at
the barrier to read again.  Nothing resets a counter: `buff_ind` goes on from where
the transfers left it, in-flight transfers included.  Three consequences:

  * the record's gain is what the header reports, whether or not the tuner took
    it (`ifGains_after_reconfigure`);
  * a reconfigured tuner's noise source stays off until the next `'n'` or `'f'`
    changes `noise_source_state`, since the coordinator writes the GPIO only on a
    change (`gpio_low_after_reconfigure`);
  * channels that delivered different numbers of transfers before the cancel
    took effect stay apart by that many in every later frame.
-/
import HeimdallDaq.Proofs.Requests

namespace RtlDaq

namespace Event

/-- The event latches neither `'n'` nor `'f'`. -/
def keepsNoise : Event → Bool
  | .latch .noiseOn | .latch .noiseOff => false
  | _ => true

/-- The event latches neither `'g'` nor `'r'`. -/
def keepsGains : Event → Bool
  | .latch (.gains _) | .latch (.reconfigure _ _ _) => false
  | _ => true

end Event

namespace Setup

variable {σ : Setup}

/-! ### The noise source of a reconfigured tuner -/

/-- The tuner `d` has its noise source off, and no noise source change is
pending. -/
def GpioLow (d : Int) (s : Sys) : Prop :=
  (s.devices d).gpio = false ∧ s.lastNoiseSourceState = s.noiseSourceState

theorem gpioLow_step {d : Int} {s s' : Sys} {e : Event} (he : e.keepsNoise = true)
    (hp : GpioLow d s) (h : σ.step s e = some s') : GpioLow d s' := by
  cases e with
  | latch cmd =>
    obtain ⟨-, rfl⟩ := step_latch.mp h
    cases cmd <;> first | exact ⟨hp.1, hp.2⟩ | simp [Event.keepsNoise] at he
  | readerStep i res =>
    obtain ⟨-, rfl⟩ := step_readerStep.mp h
    unfold readThreadEntry; split
    · exact ⟨hp.1, hp.2⟩
    · refine ⟨?_, hp.2⟩
      dsimp only
      by_cases hd : d = σ.devInd i
      · rw [hd, Function.update_same]
      · rw [Function.update_noteq hd]; exact hp.1
  | coordEmit now res =>
    obtain ⟨-, rfl⟩ := step_coordEmit.mp h
    obtain ⟨t, ⟨rr, dv, rfl, -⟩, e⟩ := σ.coordEmit_eq s now res
    refine ⟨?_, by rw [e]⟩
    exact (tunerControl_gpio_of_idle (σ.emitFrame s now) res (fun h' => h'.1 hp.2) d).trans hp.1
  | fifoOpen => obtain ⟨-, rfl⟩ := step_fifoOpen.mp h; exact hp
  | _ =>
    have hq := step_quiet h rfl
    refine ⟨?_, by rw [hq.lastNoiseSourceState, hq.noiseSourceState]; exact hp.2⟩
    rw [step_quiet_devices h rfl (by intros; exact Event.noConfusion)]; exact hp.1

/-- **A reconfigured tuner's noise source stays off.**  Once a reader has
configured its tuner while no noise source change was pending, that tuner's noise
source GPIO stays low through any run without an `'n'` or `'f'`, however many
frames, calibration frames included, are written. -/
theorem gpio_low_after_reconfigure {s1 s2 : Sys} {c : Nat} {res : TunerResults}
    (hl : s1.lastNoiseSourceState = s1.noiseSourceState) (hx : s1.exitFlag = false)
    (h : σ.step s1 (.readerStep c res) = some s2) :
    ∀ tr s, σ.run s2 tr = some s → (∀ e ∈ tr, e.keepsNoise = true) →
      (s.devices (σ.devInd c)).gpio = false := by
  obtain ⟨-, rfl⟩ := step_readerStep.mp h
  have h2 : GpioLow (σ.devInd c) (σ.readThreadEntry s1 c res) := by
    simp only [readThreadEntry, hx, Bool.false_eq_true, if_false]
    exact ⟨by simp, hl⟩
  intro tr s hrun hk
  exact (run_preserves (fun _ _ _ he hp h => gpioLow_step he hp h) h2 tr s hrun hk).1

end Setup

/-- One two-byte transfer on channel 0, then a frame. -/
def tick : List Event := [.callback 0 [1, 1], .coordCheck, .coordEmit 0 .allOk]

theorem configured_tuner_noise_low :
    ∃ s1 s2 s, Setup.single.startup (fun _ => true) (fun _ => some fun _ => 0)
        (fun _ => .idle) = some s1 ∧ Setup.single.step s1 (.readerStep 0 .allOk) = some s2 ∧
      Setup.single.run s2 (.barrierRelease :: .readStart 0 :: tick) = some s ∧
      (s.devices (Setup.single.devInd 0)).gpio = false :=
  ⟨_, _, _, rfl, rfl, rfl, @Setup.gpio_low_after_reconfigure .single
    (Setup.single.loopEntry (fun _ _ => 0) fun _ => .idle) _ 0 .allOk rfl rfl rfl
    (.barrierRelease :: .readStart 0 :: tick) _ rfl (by decide)⟩

/-- `'n'`, one frame, then `'r'` and a restart of the one channel, and eight more
transfers; the ninth frame after the restart is ready to be written. -/
def noiseRestartRun : List Event :=
  [.fifoOpen true, .readerStep 0 .allOk, .barrierRelease, .readStart 0, .latch .noiseOn] ++ tick ++
    [.latch (.reconfigure 0 0 0)] ++ tick ++
    [.asyncReturn 0, .readerStep 0 .allOk, .barrierRelease, .readStart 0] ++
    (List.replicate 7 tick).flatten ++ [.callback 0 [1, 1], .coordCheck]

/-- A calibration frame while the control channel's noise source is off: `'n'`
turned it on, the restart drove it low, and `noise_source_state` never changed
again. -/
theorem restart_cal_with_noise_off :
    ∃ s0 s s', Setup.single.startup (fun _ => true) (fun _ => some fun _ => 0)
        (fun _ => .idle) = some s0 ∧ Setup.single.run s0 noiseRestartRun = some s ∧
      Setup.single.step s (.coordEmit 0 .allOk) = some s' ∧
      (Setup.single.emitted s 0).header.frameType = .cal ∧
      (s.devices (Setup.single.indexBySerial Setup.single.config.ctrChannelSerialNo)).gpio = false :=
  ⟨_, _, _, rfl, rfl, rfl, by decide, by decide⟩

/-! ### The gain the header reports -/

namespace Setup

variable {σ : Setup}

/-- Every record below `ch_no` holds the gain `g`, and no gain change is pending. -/
def GainsAt (σ : Setup) (g : Int) (s : Sys) : Prop :=
  s.gainChangeFlag = false ∧ ∀ i < σ.chNo, (s.rtlReceivers i).gain = g

theorem gainsAt_step {g : Int} {s s' : Sys} {e : Event} (he : e.keepsGains = true)
    (hp : GainsAt σ g s) (h : σ.step s e = some s') : GainsAt σ g s' := by
  cases e with
  | latch cmd =>
    obtain ⟨-, rfl⟩ := step_latch.mp h
    cases cmd <;> first | exact ⟨hp.1, hp.2⟩ | simp [Event.keepsGains] at he
  | readerStep i res =>
    obtain ⟨-, rfl⟩ := step_readerStep.mp h
    unfold readThreadEntry; split
    · exact ⟨hp.1, hp.2⟩
    · refine ⟨hp.1, fun j hj => ?_⟩
      by_cases hji : j = i
      · subst hji; simpa using hp.2 j hj
      · simpa [Function.update_noteq hji] using hp.2 j hj
  | callback i buf =>
    obtain ⟨-, rfl⟩ := step_callback.mp h
    refine ⟨hp.1, fun j hj => ?_⟩
    by_cases hji : j = i
    · subst hji; simpa [rtlsdrCallback] using hp.2 j hj
    · simpa [rtlsdrCallback, Function.update_noteq hji] using hp.2 j hj
  | coordEmit now res =>
    obtain ⟨-, rfl⟩ := step_coordEmit.mp h
    obtain ⟨t, ⟨rr, dv, rfl, -⟩, e⟩ := σ.coordEmit_eq s now res
    refine ⟨by rw [e], fun j hj => ?_⟩
    show ((σ.tunerControl (σ.emitFrame s now) res).rtlReceivers j).gain = g
    have hf : (σ.emitFrame s now).gainChangeFlag = false := hp.1
    rw [(σ.tunerControl_rtlReceivers (σ.emitFrame s now) res j).2, hf]
    simp only [Bool.false_eq_true, false_and, if_false]
    exact hp.2 j hj
  | fifoOpen => obtain ⟨-, rfl⟩ := step_fifoOpen.mp h; exact hp
  | coordCheck => obtain ⟨-, rfl⟩ := step_coordCheck.mp h; split <;> exact hp
  | barrierRelease => obtain ⟨-, rfl⟩ := step_barrierRelease.mp h; exact hp
  | readStart => obtain ⟨-, rfl⟩ := step_readStart.mp h; exact hp
  | asyncReturn => obtain ⟨-, rfl⟩ := step_asyncReturn.mp h; exact hp
  | coordIdle => obtain ⟨-, rfl⟩ := step_coordIdle.mp h; exact hp

/-- **After `'r'` the header reports the `'r'` gain.**  Once `'r'` with gain `g`
is latched while no gain change is pending, every frame written in a run without
`'g'` or `'r'` reports `g` in `if_gains[i]` for every channel, whatever the
tuners' `rtlsdr_set_tuner_gain` calls returned on the restart. -/
theorem ifGains_after_reconfigure {s1 s2 : Sys} {f r : UInt32} {g : Int}
    (hg : s1.gainChangeFlag = false) (h : σ.step s1 (.latch (.reconfigure f r g)) = some s2) :
    ∀ tr s, σ.run s2 tr = some s → (∀ e ∈ tr, e.keepsGains = true) →
      ∀ now, ∀ i < σ.chNo, (σ.emitted s now).header.ifGains i = u32OfInt g := by
  obtain ⟨-, rfl⟩ := step_latch.mp h
  have h2 : GainsAt σ g (σ.fifoReadTf s1 (.reconfigure f r g)) :=
    ⟨hg, fun i hi => by simp [fifoReadTf, latchCommand, hi]⟩
  intro tr s hrun hk now i hi
  have hs := run_preserves (fun _ _ _ he hp h => gainsAt_step he hp h) h2 tr s hrun hk
  show (if i < σ.chNo then u32OfInt (s.rtlReceivers i).gain else _) = _
  rw [if_pos hi, hs.2 i hi]

end Setup

theorem reconfigured_gain_reported :
    ∃ s0 s1 s2 s, Setup.single.startup (fun _ => true) (fun _ => some fun _ => 0)
        (fun _ => .idle) = some s0 ∧ Setup.single.step s0 (.fifoOpen true) = some s1 ∧
      Setup.single.step s1 (.latch (.reconfigure 0 0 5)) = some s2 ∧
      Setup.single.run s2 [.readerStep 0 ⟨true, false, true⟩, .barrierRelease] = some s ∧
      (Setup.single.emitted s 0).header.ifGains 0 = u32OfInt 5 :=
  ⟨_, _, _, _, rfl, rfl, rfl, rfl, @Setup.ifGains_after_reconfigure .single
    { Setup.single.loopEntry (fun _ _ => 0) (fun _ => .idle) with fifo := .running } _ 0 0 5 rfl
    rfl [.readerStep 0 ⟨true, false, true⟩, .barrierRelease] _ rfl (by decide) 0 0 (by decide)⟩

/-- `'r'` with gain 5, and a restart on which `rtlsdr_set_tuner_gain` fails; the
ninth frame after it is ready to be written. -/
def gainRestartRun : List Event :=
  [.fifoOpen true, .readerStep 0 .allOk, .barrierRelease, .readStart 0,
    .latch (.reconfigure 0 0 5)] ++ tick ++
    [.asyncReturn 0, .readerStep 0 ⟨true, false, true⟩, .barrierRelease, .readStart 0] ++
    (List.replicate 7 tick).flatten ++ [.callback 0 [1, 1], .coordCheck]

/-- A data frame that reports gain 5 for a tuner that still runs at the startup
gain 0, the last gain it took. -/
theorem restart_reports_unapplied_gain :
    ∃ s0 s s', Setup.single.startup (fun _ => true) (fun _ => some fun _ => 0)
        (fun _ => .idle) = some s0 ∧ Setup.single.run s0 gainRestartRun = some s ∧
      Setup.single.step s (.coordEmit 0 .allOk) = some s' ∧
      (Setup.single.emitted s 0).header.frameType = .data ∧
      (Setup.single.emitted s 0).header.ifGains 0 = u32OfInt 5 ∧
      (s.devices (Setup.single.devInd 0)).gain = 0 :=
  ⟨_, _, _, rfl, rfl, rfl, by decide, by decide, by decide⟩

/-! ### Channels after a restart

`buff_ind` counts every transfer since startup, so a frame pairs the channels'
transfers by that count.  A transfer that is in flight when `'r'` cancels the
reads still lands and is counted, and the channel it lands on stays one transfer
ahead of the others after the restart.  In the run below the payload of the
two-channel frame names each transfer by `[epoch, position in the epoch]`. -/

/-- Two channels.  Before the restart channel 0 delivers three transfers and
channel 1 two; after it each delivers from position 0 on, and the coordinator is
about to write the frame that pairs channel 0's seventh transfer with channel 1's
eighth. -/
def epochRun : List Event :=
  [.fifoOpen true, .readerStep 0 .allOk, .readerStep 1 .allOk, .barrierRelease, .readStart 0,
    .readStart 1, .callback 0 [1, 0], .callback 1 [1, 0], .coordCheck, .coordEmit 0 .allOk,
    .latch (.reconfigure 0 0 0),
    .callback 0 [1, 1], .callback 1 [1, 1], .coordCheck, .coordEmit 0 .allOk,
    .callback 0 [1, 2],
    .asyncReturn 0, .asyncReturn 1, .readerStep 0 .allOk, .readerStep 1 .allOk, .barrierRelease,
    .readStart 0, .readStart 1, .callback 1 [2, 0], .coordCheck, .coordEmit 0 .allOk] ++
    ((List.range 6).map fun k => [.callback 0 [2, UInt8.ofNat k], .callback 1 [2, UInt8.ofNat (k + 1)],
      .coordCheck, .coordEmit 0 .allOk]).flatten ++
    [.callback 0 [2, 6], .callback 1 [2, 7], .coordCheck]

/-- A data frame that combines position 6 of channel 0 with position 7 of
channel 1, both of the epoch after the restart. -/
theorem restart_frame_mixes_positions :
    ∃ s0 s s', Setup.pair.startup (fun _ => true) (fun _ => some fun _ => 0)
        (fun _ => .idle) = some s0 ∧ Setup.pair.run s0 epochRun = some s ∧
      Setup.pair.step s (.coordEmit 0 .allOk) = some s' ∧
      (Setup.pair.emitted s 0).header.frameType = .data ∧
      (Setup.pair.emitted s 0).payload = [2, 6, 2, 7] :=
  ⟨_, _, _, rfl, rfl, rfl, by decide, by decide⟩

end RtlDaq
