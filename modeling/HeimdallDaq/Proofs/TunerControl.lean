/-
What the tuner control block does to the records and the tuners.

The block runs at the end of every pass that wrote a frame.  Its two loops call
the driver once per channel, and a call that succeeds writes the tuner and the
channel's record; a call that fails leaves both.  Each loop is a fold over
`0..ch_no-1`, so its effect on one record has a closed form: the last write to it,
which is the write of its own iteration.  A tuner is another matter: the tuner of
channel `i` is device `dev_ind(i)`, and two channels naming one device both write
it.  For the center frequency that is harmless, every channel writes the same
value; a gain survives only where no later channel names the same device.
-/
import HeimdallDaq.Proofs.Frame

namespace RtlDaq

namespace Setup

variable {σ : Setup}

/-! ### One tuner call -/

@[simp] theorem setCenterFreq_rtlReceivers (t : Sys) (i : Nat) (f : UInt32) (j : Nat) :
    (σ.setCenterFreq t i f).rtlReceivers j =
      if j = i then { t.rtlReceivers j with centerFreq := f } else t.rtlReceivers j := by
  by_cases h : j = i <;> simp [setCenterFreq, h]

@[simp] theorem setCenterFreq_devices (t : Sys) (i : Nat) (f : UInt32) (d : Int) :
    (σ.setCenterFreq t i f).devices d =
      if d = σ.devInd i then { t.devices d with centerFreq := f } else t.devices d := by
  by_cases h : d = σ.devInd i <;> simp [setCenterFreq, h]

@[simp] theorem setTunerGain_rtlReceivers (t : Sys) (i : Nat) (g : Int) (j : Nat) :
    (σ.setTunerGain t i g).rtlReceivers j =
      if j = i then { t.rtlReceivers j with gain := g } else t.rtlReceivers j := by
  by_cases h : j = i <;> simp [setTunerGain, h]

@[simp] theorem setTunerGain_devices (t : Sys) (i : Nat) (g : Int) (d : Int) :
    (σ.setTunerGain t i g).devices d =
      if d = σ.devInd i then { t.devices d with gain := g } else t.devices d := by
  by_cases h : d = σ.devInd i <;> simp [setTunerGain, h]

@[simp] theorem setGpioAt_rtlReceivers (t : Sys) (j : Int) (level : Bool) :
    (σ.setGpioAt t j level).rtlReceivers = t.rtlReceivers := rfl

theorem setGpioAt_devices (t : Sys) (j : Int) (level : Bool) (d : Int) :
    (σ.setGpioAt t j level).devices d =
      if d = σ.devInd j.toNat then { t.devices d with gpio := level } else t.devices d := by
  by_cases hd : d = σ.devInd j.toNat <;> simp [setGpioAt, hd]

/-- The receiver `j` names takes the level. -/
theorem setGpioAt_gpio_self (t : Sys) (j : Int) (level : Bool) :
    ((σ.setGpioAt t j level).devices (σ.devInd j.toNat)).gpio = level := by
  simp [setGpioAt_devices]

/-- A tuner already at the level stays there. -/
theorem setGpioAt_gpio_keep {t : Sys} {d : Int} {level : Bool} (h : (t.devices d).gpio = level)
    (j : Int) : ((σ.setGpioAt t j level).devices d).gpio = level := by
  rw [setGpioAt_devices]; split
  · rfl
  · exact h

/-! ### The two loops -/

/-- The center frequency loop, before it clears its flag. -/
def freqLoop (σ : Setup) (res : ControlResults) (f : UInt32) (s : Sys) (n : Nat) : Sys :=
  (List.range n).foldl (fun t i => if res.freqOk i then σ.setCenterFreq t i f else t) s

/-- The gain loop, before it clears its flag. -/
def gainLoop (σ : Setup) (res : ControlResults) (g : List Int) (s : Sys) (n : Nat) : Sys :=
  (List.range n).foldl (fun t i => if res.gainOk i then σ.setTunerGain t i (g.getD i 0) else t) s

theorem freqLoop_succ (res : ControlResults) (f : UInt32) (s : Sys) (n : Nat) :
    σ.freqLoop res f s (n + 1) =
      if res.freqOk n then σ.setCenterFreq (σ.freqLoop res f s n) n f else σ.freqLoop res f s n := by
  simp [freqLoop, List.range_succ, List.foldl_append]

theorem gainLoop_succ (res : ControlResults) (g : List Int) (s : Sys) (n : Nat) :
    σ.gainLoop res g s (n + 1) =
      if res.gainOk n then σ.setTunerGain (σ.gainLoop res g s n) n (g.getD n 0)
      else σ.gainLoop res g s n := by
  simp [gainLoop, List.range_succ, List.foldl_append]

/-- Record `j` after the frequency loop: retuned iff its call succeeded. -/
theorem freqLoop_rtlReceivers (res : ControlResults) (f : UInt32) (s : Sys) (n j : Nat) :
    (σ.freqLoop res f s n).rtlReceivers j =
      if j < n ∧ res.freqOk j = true then { s.rtlReceivers j with centerFreq := f }
      else s.rtlReceivers j := by
  induction n with
  | zero => simp [freqLoop]
  | succ n ih =>
    rw [freqLoop_succ]
    by_cases hj : j = n
    · subst hj; cases res.freqOk j <;> simp [ih]
    · have : j < n + 1 ↔ j < n := by omega
      split <;> simp [ih, hj, this]

theorem gainLoop_rtlReceivers (res : ControlResults) (g : List Int) (s : Sys) (n j : Nat) :
    (σ.gainLoop res g s n).rtlReceivers j =
      if j < n ∧ res.gainOk j = true then { s.rtlReceivers j with gain := g.getD j 0 }
      else s.rtlReceivers j := by
  induction n with
  | zero => simp [gainLoop]
  | succ n ih =>
    rw [gainLoop_succ]
    by_cases hj : j = n
    · subst hj; cases res.gainOk j <;> simp [ih]
    · have : j < n + 1 ↔ j < n := by omega
      split <;> simp [ih, hj, this]

/-- Every channel whose call succeeded has its tuner at `f`, whichever channels
share a device. -/
theorem freqLoop_devices (res : ControlResults) (f : UInt32) (s : Sys) :
    ∀ n, ∀ i < n, res.freqOk i = true → ((σ.freqLoop res f s n).devices (σ.devInd i)).centerFreq = f := by
  intro n
  induction n with
  | zero => intro i hi; omega
  | succ n ih =>
    intro i hi hok
    rw [freqLoop_succ]
    by_cases hin : i = n
    · subst hin; simp [hok]
    · have := ih i (by omega) hok
      split <;> simp [apply_ite Device.centerFreq, this]

/-- Where no two channels share a device, every channel whose call succeeded has
its tuner at its own gain. -/
theorem gainLoop_devices (res : ControlResults) (g : List Int) (s : Sys) (n : Nat)
    (hinj : ∀ i < n, ∀ j < n, σ.devInd i = σ.devInd j → i = j) :
    ∀ i < n, res.gainOk i = true → ((σ.gainLoop res g s n).devices (σ.devInd i)).gain = g.getD i 0 := by
  induction n with
  | zero => intro i hi; omega
  | succ n ih =>
    intro i hi hok
    have hinj' : ∀ i < n, ∀ j < n, σ.devInd i = σ.devInd j → i = j :=
      fun i hi j hj => hinj i (by omega) j (by omega)
    rw [gainLoop_succ]
    by_cases hin : i = n
    · subst hin; simp [hok]
    · have hd : σ.devInd i ≠ σ.devInd n := fun h => hin (hinj i hi n (by omega) h)
      split <;> simp [hd, ih hinj' i (by omega) hok]

/-- The tuners after either loop, outside the fields it writes. -/
theorem freqLoop_devices_gain_gpio (res : ControlResults) (f : UInt32) (s : Sys) (n : Nat) (d : Int) :
    ((σ.freqLoop res f s n).devices d).gain = (s.devices d).gain ∧
      ((σ.freqLoop res f s n).devices d).gpio = (s.devices d).gpio := by
  induction n with
  | zero => exact ⟨rfl, rfl⟩
  | succ n ih =>
    rw [freqLoop_succ]; split
    · rw [setCenterFreq_devices]; split <;> exact ih
    · exact ih

theorem gainLoop_devices_centerFreq_gpio (res : ControlResults) (g : List Int) (s : Sys) (n : Nat)
    (d : Int) :
    ((σ.gainLoop res g s n).devices d).centerFreq = (s.devices d).centerFreq ∧
      ((σ.gainLoop res g s n).devices d).gpio = (s.devices d).gpio := by
  induction n with
  | zero => exact ⟨rfl, rfl⟩
  | succ n ih =>
    rw [gainLoop_succ]; split
    · rw [setTunerGain_devices]; split <;> exact ih
    · exact ih

/-! ### The block -/

theorem centerFreqChange_eq_loop (s : Sys) (res : ControlResults) :
    σ.centerFreqChange s res = if s.centerFreqChangeFlag then
      { σ.freqLoop res s.newCenterFreq s σ.chNo with centerFreqChangeFlag := false } else s := rfl

theorem gainChange_eq_loop (s : Sys) (res : ControlResults) :
    σ.gainChange s res = if s.gainChangeFlag then
      { σ.gainLoop res s.newGains s σ.chNo with gainChangeFlag := false } else s := rfl

theorem noiseSwitch_rtlReceivers (s : Sys) : (σ.noiseSwitch s).rtlReceivers = s.rtlReceivers := by
  unfold noiseSwitch; split
  · split <;> simp
  · rfl

/-- The noise switch moves GPIO levels only. -/
theorem noiseSwitch_devices (s : Sys) (d : Int) :
    ((σ.noiseSwitch s).devices d).centerFreq = (s.devices d).centerFreq ∧
      ((σ.noiseSwitch s).devices d).gain = (s.devices d).gain := by
  unfold noiseSwitch; split
  · split <;> simp only [setGpioAt_devices] <;> split <;> (try split) <;> exact ⟨rfl, rfl⟩
  · exact ⟨rfl, rfl⟩

/-- On a change of the noise source state with noise source control on, the
control receiver's tuner takes the new level. -/
theorem noiseSwitch_gpio (s : Sys) (hch : s.lastNoiseSourceState ≠ s.noiseSourceState)
    (hen : σ.noiseCtrEnabled = true) :
    ((σ.noiseSwitch s).devices (σ.devInd σ.ctrChannelDevIndex.toNat)).gpio = s.noiseSourceState := by
  have h1 := σ.setGpioAt_gpio_self s σ.ctrChannelDevIndex s.noiseSourceState
  simp only [noiseSwitch, hch, hen, ne_eq, not_false_eq_true, and_self, if_true]
  split
  · exact setGpioAt_gpio_keep h1 7
  · exact h1

theorem freqLoop_sameControl (res : ControlResults) (f : UInt32) (s : Sys) (n : Nat) :
    SameControl s (σ.freqLoop res f s n) := by
  obtain ⟨rr, dv, e, -⟩ :=
    TunerOnly.foldl (s := s) (fun t i => TunerOnly.ite _ (tunerOnly_setCenterFreq t i f)) (List.range n)
  rw [freqLoop, e]; constructor <;> rfl

theorem gainLoop_sameControl (res : ControlResults) (g : List Int) (s : Sys) (n : Nat) :
    SameControl s (σ.gainLoop res g s n) := by
  obtain ⟨rr, dv, e, -⟩ := TunerOnly.foldl (s := s)
    (fun t i => TunerOnly.ite _ (tunerOnly_setTunerGain t i (g.getD i 0))) (List.range n)
  rw [gainLoop, e]; constructor <;> rfl

/-- Record `i` after the frequency step. -/
theorem centerFreqChange_rtlReceivers (t : Sys) (res : ControlResults) (i : Nat) :
    (σ.centerFreqChange t res).rtlReceivers i =
      if t.centerFreqChangeFlag ∧ i < σ.chNo ∧ res.freqOk i = true then
        { t.rtlReceivers i with centerFreq := t.newCenterFreq } else t.rtlReceivers i := by
  rw [centerFreqChange_eq_loop]; cases t.centerFreqChangeFlag <;> simp [freqLoop_rtlReceivers]

/-- Record `i` after the gain step. -/
theorem gainChange_rtlReceivers (t : Sys) (res : ControlResults) (i : Nat) :
    (σ.gainChange t res).rtlReceivers i =
      if t.gainChangeFlag ∧ i < σ.chNo ∧ res.gainOk i = true then
        { t.rtlReceivers i with gain := t.newGains.getD i 0 } else t.rtlReceivers i := by
  rw [gainChange_eq_loop]; cases t.gainChangeFlag <;> simp [gainLoop_rtlReceivers]

/-- The gain loop sees the gain request and the noise source state as they were. -/
theorem centerFreqChange_cancelAsync_fields (t : Sys) (res : ControlResults) :
    let u := σ.centerFreqChange (σ.cancelAsync t) res
    u.gainChangeFlag = t.gainChangeFlag ∧ u.newGains = t.newGains ∧
      u.noiseSourceState = t.noiseSourceState ∧ u.lastNoiseSourceState = t.lastNoiseSourceState := by
  rw [centerFreqChange_eq_loop, cancelAsync_eq t]
  split
  · have h := freqLoop_sameControl (σ := σ) res t.newCenterFreq
      { t with reader := (σ.cancelAsync t).reader, reconfigTrigger := false } σ.chNo
    exact ⟨h.gainChangeFlag, h.newGains, h.noiseSourceState, h.lastNoiseSourceState⟩
  · exact ⟨rfl, rfl, rfl, rfl⟩

/-- **Records after the block.**  Channel `i`'s record holds `new_center_freq` if a
retune was pending and its call succeeded, and `new_gains[i]` if a gain change was
pending and its call succeeded. -/
theorem tunerControl_rtlReceivers (t : Sys) (res : ControlResults) (i : Nat) :
    ((σ.tunerControl t res).rtlReceivers i).centerFreq =
        (if t.centerFreqChangeFlag ∧ i < σ.chNo ∧ res.freqOk i = true then t.newCenterFreq
        else (t.rtlReceivers i).centerFreq) ∧
      ((σ.tunerControl t res).rtlReceivers i).gain =
        (if t.gainChangeFlag ∧ i < σ.chNo ∧ res.gainOk i = true then t.newGains.getD i 0
        else (t.rtlReceivers i).gain) := by
  obtain ⟨hg, hn, -⟩ := centerFreqChange_cancelAsync_fields (σ := σ) t res
  rw [tunerControl, noiseSwitch_rtlReceivers, gainChange_rtlReceivers, hg, hn,
    centerFreqChange_rtlReceivers, cancelAsync_eq t]
  dsimp only
  constructor <;> split_ifs <;> rfl

/-- The noise switch sees the noise source state as it was. -/
theorem gainChange_fields (u : Sys) (res : ControlResults) :
    (σ.gainChange u res).noiseSourceState = u.noiseSourceState ∧
      (σ.gainChange u res).lastNoiseSourceState = u.lastNoiseSourceState := by
  rw [gainChange_eq_loop]
  split
  · exact ⟨(gainLoop_sameControl _ _ _ _).noiseSourceState,
      (gainLoop_sameControl _ _ _ _).lastNoiseSourceState⟩
  · exact ⟨rfl, rfl⟩

/-- **Tuners after the block: the frequency.**  With a retune pending, every
channel whose call succeeded has its tuner at `new_center_freq`. -/
theorem tunerControl_devices_centerFreq (t : Sys) (res : ControlResults) {i : Nat}
    (hc : t.centerFreqChangeFlag = true) (hi : i < σ.chNo) (hok : res.freqOk i = true) :
    ((σ.tunerControl t res).devices (σ.devInd i)).centerFreq = t.newCenterFreq := by
  have h1 : ((σ.centerFreqChange (σ.cancelAsync t) res).devices (σ.devInd i)).centerFreq =
      t.newCenterFreq := by
    rw [centerFreqChange_eq_loop, cancelAsync_eq t]
    simp only [hc, if_true]
    exact freqLoop_devices _ _ _ _ i hi hok
  rw [tunerControl, (noiseSwitch_devices _ _).1, gainChange_eq_loop]
  split
  · exact (gainLoop_devices_centerFreq_gpio _ _ _ _ _).1.trans h1
  · exact h1

/-- **Tuners after the block: the gain.**  With a gain change pending and no two
channels on one device, every channel whose call succeeded has its tuner at
`new_gains[i]`. -/
theorem tunerControl_devices_gain (t : Sys) (res : ControlResults)
    (hinj : ∀ i < σ.chNo, ∀ j < σ.chNo, σ.devInd i = σ.devInd j → i = j) {i : Nat}
    (hg : t.gainChangeFlag = true) (hi : i < σ.chNo) (hok : res.gainOk i = true) :
    ((σ.tunerControl t res).devices (σ.devInd i)).gain = t.newGains.getD i 0 := by
  obtain ⟨hg', hn, -⟩ := centerFreqChange_cancelAsync_fields (σ := σ) t res
  rw [tunerControl, (noiseSwitch_devices _ _).2, gainChange_eq_loop, if_pos (hg'.trans hg), hn]
  exact gainLoop_devices _ _ _ _ hinj i hi hok

/-- **Tuners after the block: the noise source.**  On a change of the noise source
state with noise source control on, the tuner of receiver `ctr_channel_dev_index`
takes the new level. -/
theorem tunerControl_gpio (t : Sys) (res : ControlResults)
    (hch : t.lastNoiseSourceState ≠ t.noiseSourceState) (hen : σ.noiseCtrEnabled = true) :
    ((σ.tunerControl t res).devices (σ.devInd σ.ctrChannelDevIndex.toNat)).gpio =
      t.noiseSourceState := by
  obtain ⟨-, -, hn, hl⟩ := centerFreqChange_cancelAsync_fields (σ := σ) t res
  obtain ⟨hn', hl'⟩ := gainChange_fields (σ := σ) (σ.centerFreqChange (σ.cancelAsync t) res) res
  rw [tunerControl, noiseSwitch_gpio _ (by rw [hn', hl', hn, hl]; exact hch) hen, hn', hn]

/-- A switch that does not fire only catches `last_noise_source_state` up. -/
theorem noiseSwitch_devices_of_idle (s : Sys)
    (h : ¬(s.lastNoiseSourceState ≠ s.noiseSourceState ∧ σ.noiseCtrEnabled = true)) :
    (σ.noiseSwitch s).devices = s.devices := by
  unfold noiseSwitch; rw [if_neg h]

/-- **A pass that does not switch the noise source leaves every GPIO level as it
was**: with no change of the noise source state, or with noise source control
off. -/
theorem tunerControl_gpio_of_idle (t : Sys) (res : ControlResults)
    (h : ¬(t.lastNoiseSourceState ≠ t.noiseSourceState ∧ σ.noiseCtrEnabled = true)) (d : Int) :
    ((σ.tunerControl t res).devices d).gpio = (t.devices d).gpio := by
  obtain ⟨-, -, hn, hl⟩ := centerFreqChange_cancelAsync_fields (σ := σ) t res
  obtain ⟨hn', hl'⟩ := gainChange_fields (σ := σ) (σ.centerFreqChange (σ.cancelAsync t) res) res
  have h1 : ((σ.centerFreqChange (σ.cancelAsync t) res).devices d).gpio = (t.devices d).gpio := by
    rw [centerFreqChange_eq_loop, cancelAsync_eq t]; split
    · exact (freqLoop_devices_gain_gpio _ _ _ _ _).2
    · rfl
  rw [tunerControl, noiseSwitch_devices_of_idle _ (by rw [hn', hl', hn, hl]; exact h),
    gainChange_eq_loop]
  split
  · exact (gainLoop_devices_centerFreq_gpio _ _ _ _ _).2.trans h1
  · exact h1

end Setup

end RtlDaq
