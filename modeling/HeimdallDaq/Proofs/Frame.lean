/-
What each step leaves alone.

Most invariants talk about a few fields, and most events do not touch them.  Two
facts carry almost all of that: only a callback changes a channel's counter and
ring, and the tuner control block changes nothing but the tuners, the records'
tuning fields, the reader threads it cancels and the request flags it clears.
`TunerOnly` says the first half of the latter once, for every tuner call the
block makes.
-/
import HeimdallDaq.Proofs.Run

namespace RtlDaq

/-- A channel's counter and ring: the fields only `rtlsdrCallback` writes. -/
def ringState (s : Sys) (i : Nat) : Nat × (Nat → UInt8) :=
  ((s.rtlReceivers i).buffInd, (s.rtlReceivers i).buffer)

/-- `t` is `s` with only tuners and the records' tuning fields changed. -/
def TunerOnly (s t : Sys) : Prop :=
  ∃ rr dv, t = { s with rtlReceivers := rr, devices := dv } ∧
    ∀ i, ringState t i = ringState s i

theorem TunerOnly.refl (s : Sys) : TunerOnly s s := ⟨s.rtlReceivers, s.devices, rfl, fun _ => rfl⟩

theorem TunerOnly.trans {s t u : Sys} (h1 : TunerOnly s t) (h2 : TunerOnly t u) :
    TunerOnly s u := by
  obtain ⟨rr, dv, rfl, h1⟩ := h1
  obtain ⟨rr', dv', rfl, h2⟩ := h2
  exact ⟨rr', dv', rfl, fun i => (h2 i).trans (h1 i)⟩

theorem TunerOnly.foldl {s : Sys} {f : Sys → Nat → Sys} (hf : ∀ t i, TunerOnly t (f t i)) :
    ∀ l : List Nat, TunerOnly s (l.foldl f s) := by
  intro l
  induction l generalizing s with
  | nil => exact TunerOnly.refl s
  | cons i l ih => exact (hf s i).trans ih

/-- `t` agrees with `s` on everything `fifo_read_tf` and the coordinator write. -/
structure SameControl (s t : Sys) : Prop where
  reconfigTrigger : t.reconfigTrigger = s.reconfigTrigger
  exitFlag : t.exitFlag = s.exitFlag
  noiseSourceState : t.noiseSourceState = s.noiseSourceState
  lastNoiseSourceState : t.lastNoiseSourceState = s.lastNoiseSourceState
  gainChangeFlag : t.gainChangeFlag = s.gainChangeFlag
  newGains : t.newGains = s.newGains
  newCenterFreq : t.newCenterFreq = s.newCenterFreq
  centerFreqChangeFlag : t.centerFreqChangeFlag = s.centerFreqChangeFlag
  enDummyFrame : t.enDummyFrame = s.enDummyFrame
  dummyFrameCntr : t.dummyFrameCntr = s.dummyFrameCntr
  readBuffInd : t.readBuffInd = s.readBuffInd
  rdBuffInd : t.rdBuffInd = s.rdBuffInd
  overdriveFlags : t.overdriveFlags = s.overdriveFlags
  iqHeader : t.iqHeader = s.iqHeader
  out : t.out = s.out

namespace Setup

variable {σ : Setup}

theorem tunerOnly_setCenterFreq (s : Sys) (i : Nat) (f : UInt32) :
    TunerOnly s (σ.setCenterFreq s i f) := by
  refine ⟨_, _, rfl, fun j => ?_⟩
  by_cases h : j = i <;> simp [ringState, setCenterFreq, Function.update_apply, h]

theorem tunerOnly_setTunerGain (s : Sys) (i : Nat) (g : Int) :
    TunerOnly s (σ.setTunerGain s i g) := by
  refine ⟨_, _, rfl, fun j => ?_⟩
  by_cases h : j = i <;> simp [ringState, setTunerGain, Function.update_apply, h]

theorem tunerOnly_setGpioAt (s : Sys) (j : Int) (level : Bool) :
    TunerOnly s (σ.setGpioAt s j level) :=
  ⟨_, _, rfl, fun _ => rfl⟩

theorem TunerOnly.ite {s t : Sys} (c : Bool) (h : TunerOnly s t) :
    TunerOnly s (if c then t else s) := by
  cases c
  · exact TunerOnly.refl s
  · exact h

theorem cancelAsync_eq (s : Sys) :
    σ.cancelAsync s = { s with reader := (σ.cancelAsync s).reader, reconfigTrigger := false } := by
  unfold cancelAsync
  cases h : s.reconfigTrigger
  · cases s; subst h; rfl
  · rfl

theorem centerFreqChange_eq (s : Sys) (res : ControlResults) :
    ∃ t, TunerOnly s t ∧ σ.centerFreqChange s res = { t with centerFreqChangeFlag := false } := by
  unfold centerFreqChange
  cases h : s.centerFreqChangeFlag
  · refine ⟨s, TunerOnly.refl s, ?_⟩
    cases s; subst h; rfl
  · exact ⟨_, TunerOnly.foldl (fun t i => TunerOnly.ite _ (tunerOnly_setCenterFreq t i _)) _, rfl⟩

theorem gainChange_eq (s : Sys) (res : ControlResults) :
    ∃ t, TunerOnly s t ∧ σ.gainChange s res = { t with gainChangeFlag := false } := by
  unfold gainChange
  cases h : s.gainChangeFlag
  · refine ⟨s, TunerOnly.refl s, ?_⟩
    cases s; subst h; rfl
  · exact ⟨_, TunerOnly.foldl (fun t i => TunerOnly.ite _ (tunerOnly_setTunerGain t i _)) _, rfl⟩

theorem noiseSwitch_eq (s : Sys) :
    ∃ t, TunerOnly s t ∧ σ.noiseSwitch s = { t with lastNoiseSourceState := s.noiseSourceState } := by
  unfold noiseSwitch
  refine ⟨_, ?_, rfl⟩
  split
  · split
    · exact (tunerOnly_setGpioAt _ _ _).trans (tunerOnly_setGpioAt _ _ _)
    · exact tunerOnly_setGpioAt _ _ _
  · exact TunerOnly.refl s

/-- **What the tuner control block can do.**  Besides tuner calls, it cancels reads
and clears every request: `reconfig_trigger`, both change flags, and the noise
source change (`last_noise_source_state` catches up). -/
theorem tunerControl_eq (s : Sys) (res : ControlResults) :
    ∃ t, TunerOnly s t ∧ σ.tunerControl s res =
      { t with
        reader := (σ.cancelAsync s).reader
        reconfigTrigger := false
        centerFreqChangeFlag := false
        gainChangeFlag := false
        lastNoiseSourceState := s.noiseSourceState } := by
  obtain ⟨t2, ⟨rr2, dv2, rfl, h2⟩, e2⟩ := σ.centerFreqChange_eq (σ.cancelAsync s) res
  obtain ⟨t3, ⟨rr3, dv3, rfl, h3⟩, e3⟩ := σ.gainChange_eq
    { { σ.cancelAsync s with rtlReceivers := rr2, devices := dv2 } with centerFreqChangeFlag := false } res
  obtain ⟨t4, ⟨rr4, dv4, rfl, h4⟩, e4⟩ := σ.noiseSwitch_eq
    { { { { σ.cancelAsync s with rtlReceivers := rr2, devices := dv2 } with
      centerFreqChangeFlag := false } with rtlReceivers := rr3, devices := dv3 } with gainChangeFlag := false }
  refine ⟨{ s with rtlReceivers := rr4, devices := dv4 }, ⟨rr4, dv4, rfl, fun i => ?_⟩, ?_⟩
  · exact (h4 i).trans ((h3 i).trans ((h2 i).trans (by unfold cancelAsync; split <;> rfl)))
  · rw [tunerControl, e2, e3, e4, cancelAsync_eq s]

/-- **What a coordinator pass does.**  It writes one frame, advances `read_buff_ind`
and the dummy window, and clears the requests; the rest of its effect is on tuners
and tuning fields. -/
theorem coordEmit_eq (s : Sys) (now : Nat) (res : ControlResults) :
    ∃ t, TunerOnly s t ∧ { σ.tunerControl (σ.emitFrame s now) res with coord := .loopHead } =
      { t with
        reader := (σ.cancelAsync s).reader
        reconfigTrigger := false
        centerFreqChangeFlag := false
        gainChangeFlag := false
        lastNoiseSourceState := s.noiseSourceState
        coord := .loopHead
        out := s.out ++ [σ.emitted s now]
        iqHeader := (σ.emitted s now).header
        rdBuffInd := if s.enDummyFrame || σ.chNo = 0 then s.rdBuffInd else s.readBuffInd % numBuff
        overdriveFlags := 0
        readBuffInd := (s.readBuffInd + 1) % 2 ^ 64
        dummyFrameCntr := if s.enDummyFrame then s.dummyFrameCntr + 1 else s.dummyFrameCntr
        enDummyFrame := s.enDummyFrame && s.dummyFrameCntr + 1 != noDummyFrames } := by
  obtain ⟨t, ⟨rr, dv, rfl, ht⟩, e⟩ := σ.tunerControl_eq (σ.emitFrame s now) res
  have hr : (σ.cancelAsync (σ.emitFrame s now)).reader = (σ.cancelAsync s).reader := by
    unfold cancelAsync
    cases h : s.reconfigTrigger <;> simp [h, emitFrame]
  exact ⟨{ s with rtlReceivers := rr, devices := dv }, ⟨rr, dv, rfl, ht⟩, by rw [e, hr]; rfl⟩

/-! ### The header of a frame -/

theorem emitted_daqBlockIndex (s : Sys) (now : Nat) :
    (σ.emitted s now).header.daqBlockIndex = UInt32.ofNat s.readBuffInd := rfl

theorem emitted_frameType (s : Sys) (now : Nat) :
    (σ.emitted s now).header.frameType =
      if s.enDummyFrame then .dummy else if s.noiseSourceState then .cal else .data := rfl

theorem emitted_frameType_eq_dummy (s : Sys) (now : Nat) :
    (σ.emitted s now).header.frameType = .dummy ↔ s.enDummyFrame = true := by
  rw [emitted_frameType]; cases s.enDummyFrame <;> cases s.noiseSourceState <;> decide

theorem emitted_dataType (s : Sys) (now : Nat) :
    (σ.emitted s now).header.dataType = if s.enDummyFrame then 0 else 1 := rfl

theorem emitted_cpiLength (s : Sys) (now : Nat) :
    (σ.emitted s now).header.cpiLength =
      if s.enDummyFrame then 0 else u32OfInt σ.config.daqBufferSize := rfl

theorem emitted_noiseSourceState (s : Sys) (now : Nat) :
    (σ.emitted s now).header.noiseSourceState = if s.noiseSourceState then 1 else 0 := rfl

/-- The frame event `e` writes from `s`, if it writes one. -/
def frameOf (σ : Setup) (s : Sys) : Event → Option Frame
  | .coordEmit now _ => some (σ.emitted s now)
  | _ => none

/-! ### Events that leave the control state alone -/

variable {s s' : Sys} {e : Event}

theorem step_quiet (h : σ.step s e = some s') (hq : e.quiet = true) : SameControl s s' := by
  cases e with
  | readerStep =>
    obtain ⟨-, rfl⟩ := step_readerStep.mp h
    unfold readThreadEntry; split <;> constructor <;> rfl
  | coordCheck => obtain ⟨-, rfl⟩ := step_coordCheck.mp h; split <;> constructor <;> rfl
  | barrierRelease => obtain ⟨-, rfl⟩ := step_barrierRelease.mp h; constructor <;> rfl
  | readStart => obtain ⟨-, rfl⟩ := step_readStart.mp h; constructor <;> rfl
  | callback => obtain ⟨-, rfl⟩ := step_callback.mp h; constructor <;> rfl
  | asyncReturn => obtain ⟨-, rfl⟩ := step_asyncReturn.mp h; constructor <;> rfl
  | coordIdle => obtain ⟨-, rfl⟩ := step_coordIdle.mp h; constructor <;> rfl
  | fifoOpen | latch | coordEmit => simp [Event.quiet] at hq

/-- **Only a reader's configuration, and the tuner control block, touch the tuners.** -/
theorem step_quiet_devices (h : σ.step s e = some s') (hq : e.quiet = true)
    (hr : ∀ i res, e ≠ .readerStep i res) : s'.devices = s.devices := by
  cases e with
  | readerStep i res => exact absurd rfl (hr i res)
  | coordCheck => obtain ⟨-, rfl⟩ := step_coordCheck.mp h; split <;> rfl
  | barrierRelease => obtain ⟨-, rfl⟩ := step_barrierRelease.mp h; rfl
  | readStart => obtain ⟨-, rfl⟩ := step_readStart.mp h; rfl
  | callback => obtain ⟨-, rfl⟩ := step_callback.mp h; rfl
  | asyncReturn => obtain ⟨-, rfl⟩ := step_asyncReturn.mp h; rfl
  | coordIdle => obtain ⟨-, rfl⟩ := step_coordIdle.mp h; rfl
  | fifoOpen | latch | coordEmit => simp [Event.quiet] at hq

theorem fifoReadTf_out (s : Sys) (cmd : Command) :
    (σ.fifoReadTf s cmd).out = s.out ∧ (σ.fifoReadTf s cmd).readBuffInd = s.readBuffInd := by
  cases cmd <;> exact ⟨rfl, rfl⟩

/-- **Only the coordinator writes frames.** -/
theorem step_out (h : σ.step s e = some s') :
    s'.out = s.out ++ (σ.frameOf s e).toList ∧
      s'.readBuffInd = if e.emits then (s.readBuffInd + 1) % 2 ^ 64 else s.readBuffInd := by
  cases e with
  | coordEmit now res =>
    obtain ⟨-, rfl⟩ := step_coordEmit.mp h
    obtain ⟨t, -, e⟩ := σ.coordEmit_eq s now res
    rw [e]; exact ⟨rfl, rfl⟩
  | latch cmd =>
    obtain ⟨-, rfl⟩ := step_latch.mp h
    simpa [frameOf, Event.emits] using σ.fifoReadTf_out s cmd
  | fifoOpen => obtain ⟨-, rfl⟩ := step_fifoOpen.mp h; exact ⟨by simp [frameOf], rfl⟩
  | _ =>
    have hq := step_quiet h rfl
    exact ⟨by simp [hq.out, frameOf], by simp [hq.readBuffInd, Event.emits]⟩

/-- **Only a frame moves `rd_buff_ind` and `overdrive_flags`.** -/
theorem step_scanState (h : σ.step s e = some s') :
    (s'.rdBuffInd, s'.overdriveFlags) = if e.emits then
      (if s.enDummyFrame || σ.chNo = 0 then s.rdBuffInd else s.readBuffInd % numBuff, 0)
    else (s.rdBuffInd, s.overdriveFlags) := by
  cases e with
  | coordEmit now res =>
    obtain ⟨-, rfl⟩ := step_coordEmit.mp h
    obtain ⟨t, -, e⟩ := σ.coordEmit_eq s now res
    rw [e]; rfl
  | latch cmd => obtain ⟨-, rfl⟩ := step_latch.mp h; cases cmd <;> rfl
  | fifoOpen => obtain ⟨-, rfl⟩ := step_fifoOpen.mp h; rfl
  | _ =>
    have hq := step_quiet h rfl
    simp [hq.rdBuffInd, hq.overdriveFlags, Event.emits]

/-- **Only a callback moves a channel's counter and ring.** -/
theorem step_ringState (h : σ.step s e = some s') (i : Nat) :
    ringState s' i = match e.deliveredTo i with
      | some buf => (((s.rtlReceivers i).buffInd + 1) % 2 ^ 64,
          ringWrite σ.bufferSize (s.rtlReceivers i).buffer ((s.rtlReceivers i).buffInd % numBuff) buf)
      | none => ringState s i := by
  cases e with
  | callback j buf =>
    obtain ⟨-, rfl⟩ := step_callback.mp h
    by_cases hj : j = i
    · subst hj; simp [ringState, rtlsdrCallback, Event.deliveredTo]
    · simp [ringState, rtlsdrCallback, Event.deliveredTo, hj, Function.update_noteq (Ne.symm hj)]
  | latch cmd =>
    obtain ⟨-, rfl⟩ := step_latch.mp h
    cases cmd <;> simp only [Event.deliveredTo, ringState, fifoReadTf, latchCommand]
    split <;> rfl
  | readerStep j res =>
    obtain ⟨-, rfl⟩ := step_readerStep.mp h
    simp only [Event.deliveredTo, ringState, readThreadEntry]
    split
    · rfl
    · by_cases hj : i = j
      · subst hj; simp
      · simp [Function.update_noteq hj]
  | coordEmit now res =>
    obtain ⟨-, rfl⟩ := step_coordEmit.mp h
    obtain ⟨t, ⟨rr, dv, rfl, ht⟩, e⟩ := σ.coordEmit_eq s now res
    rw [e]; exact ht i
  | coordCheck =>
    obtain ⟨-, rfl⟩ := step_coordCheck.mp h
    split <;> rfl
  | fifoOpen => obtain ⟨-, rfl⟩ := step_fifoOpen.mp h; rfl
  | barrierRelease => obtain ⟨-, rfl⟩ := step_barrierRelease.mp h; rfl
  | readStart => obtain ⟨-, rfl⟩ := step_readStart.mp h; rfl
  | asyncReturn => obtain ⟨-, rfl⟩ := step_asyncReturn.mp h; rfl
  | coordIdle => obtain ⟨-, rfl⟩ := step_coordIdle.mp h; rfl

end Setup

end RtlDaq
