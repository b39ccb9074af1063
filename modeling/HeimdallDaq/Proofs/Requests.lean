/-
Control requests, from the latch to the frame that carries them out.

`fifo_read_tf` latches a command under `buff_ind_mutex`: it sets a flag (for `'n'`
and `'f'`, the noise source state), stores the command's payload, and, whatever
the command, opens the dummy window afresh.  The coordinator carries out every
pending request in the pass that writes the next frame, after writing it, and
clears the flag.  So at each frame the pending requests are the commands latched
since the frame before (`sinceFrame`), each with the payload of the latest command
of its kind; and since a latch also restarts the window, a frame written while a
request is pending is the first of a window, a dummy followed by
`NO_DUMMY_FRAMES - 1` more.
-/
import HeimdallDaq.Proofs.TunerControl
import HeimdallDaq.Proofs.Window

namespace RtlDaq

namespace Command

def isReconfigure : Command → Bool
  | .reconfigure _ _ _ => true
  | _ => false

def isCenterFreq : Command → Bool
  | .centerFreq _ => true
  | _ => false

def isGains : Command → Bool
  | .gains _ => true
  | _ => false

end Command

/-! ### Reading the requests off a run -/

/-- The commands latched since the latest frame, oldest first. -/
def sinceFrame (tr : List Event) : List Command :=
  tr.foldl (fun acc e => match e with
    | .latch cmd => acc ++ [cmd]
    | .coordEmit _ _ => []
    | _ => acc) []

/-- The frequency of the latest `'c'` command. -/
def latestFreq (tr : List Event) : Option UInt32 :=
  tr.foldl (fun acc e => match e with
    | .latch (.centerFreq f) => some f
    | _ => acc) none

/-- The gains of the latest `'g'` command. -/
def latestGains (tr : List Event) : Option (List Int) :=
  tr.foldl (fun acc e => match e with
    | .latch (.gains g) => some g
    | _ => acc) none

/-- The latest of `'n'` and `'f'`, paired with what it was at the latest frame. -/
def noiseFold (tr : List Event) : Bool × Bool :=
  tr.foldl (fun p e => match e with
    | .latch .noiseOn => (true, p.2)
    | .latch .noiseOff => (false, p.2)
    | .coordEmit _ _ => (p.1, p.1)
    | _ => p) (false, false)

/-- Whether the latest of `'n'` and `'f'` latched before the latest frame is `'n'`. -/
def noiseAtFrame (tr : List Event) : Bool := (noiseFold tr).2

@[simp] theorem sinceFrame_snoc (tr : List Event) (e : Event) :
    sinceFrame (tr ++ [e]) = match e with
      | .latch cmd => sinceFrame tr ++ [cmd]
      | .coordEmit _ _ => []
      | _ => sinceFrame tr := by
  simp only [sinceFrame, List.foldl_append, List.foldl_cons, List.foldl_nil]

@[simp] theorem latestFreq_snoc (tr : List Event) (e : Event) :
    latestFreq (tr ++ [e]) = match e with
      | .latch (.centerFreq f) => some f
      | _ => latestFreq tr := by
  simp only [latestFreq, List.foldl_append, List.foldl_cons, List.foldl_nil]

@[simp] theorem latestGains_snoc (tr : List Event) (e : Event) :
    latestGains (tr ++ [e]) = match e with
      | .latch (.gains g) => some g
      | _ => latestGains tr := by
  simp only [latestGains, List.foldl_append, List.foldl_cons, List.foldl_nil]

theorem noiseFold_fst (tr : List Event) : (noiseFold tr).1 = noiseRequested tr := by
  induction tr using List.reverseRecOn with
  | nil => rfl
  | append_singleton tr e ih =>
    simp only [noiseFold, List.foldl_append, List.foldl_cons, List.foldl_nil] at ih ⊢
    rw [noiseRequested_snoc]
    rcases e with _ | (_ | _ | _ | _ | _ | _ | _) | _ | _ | _ | _ | _ | _ | _ <;> simp [ih]

@[simp] theorem noiseAtFrame_snoc (tr : List Event) (e : Event) :
    noiseAtFrame (tr ++ [e]) = match e with
      | .coordEmit _ _ => noiseRequested tr
      | _ => noiseAtFrame tr := by
  rw [← noiseFold_fst]
  simp only [noiseAtFrame, noiseFold, List.foldl_append, List.foldl_cons, List.foldl_nil]
  rcases e with _ | (_ | _ | _ | _ | _ | _ | _) | _ | _ | _ | _ | _ | _ | _ <;> rfl

/-- A command latched since the latest frame is also the latest latch. -/
theorem sinceLatch_of_sinceFrame {tr : List Event} (h : sinceFrame tr ≠ []) :
    sinceLatch tr = some 0 := by
  induction tr using List.reverseRecOn with
  | nil => exact absurd rfl h
  | append_singleton tr e ih =>
    rw [sinceFrame_snoc] at h
    rw [sinceLatch_snoc]
    cases e with
    | latch => rfl
    | coordEmit => exact absurd rfl h
    | _ => exact ih h

/-- The noise source state changes only by a latch. -/
theorem sinceFrame_of_noise {tr : List Event} (h : noiseRequested tr ≠ noiseAtFrame tr) :
    sinceFrame tr ≠ [] := by
  induction tr using List.reverseRecOn with
  | nil => exact absurd rfl h
  | append_singleton tr e ih =>
    rw [noiseRequested_snoc, noiseAtFrame_snoc] at h
    rw [sinceFrame_snoc]
    cases e with
    | latch => simp
    | coordEmit => exact absurd rfl h
    | _ => exact ih h

/-- A `'c'` since the latest frame is a `'c'` at all. -/
theorem latestFreq_of_sinceFrame {tr : List Event}
    (h : (sinceFrame tr).any Command.isCenterFreq = true) : ∃ f, latestFreq tr = some f := by
  induction tr using List.reverseRecOn with
  | nil => simp [sinceFrame] at h
  | append_singleton tr e ih =>
    rw [sinceFrame_snoc] at h
    rw [latestFreq_snoc]
    cases e with
    | latch cmd =>
      cases cmd with
      | centerFreq f => exact ⟨f, rfl⟩
      | _ =>
        simp only [List.any_append, List.any_cons, List.any_nil, Command.isCenterFreq,
          Bool.or_false] at h
        exact ih h
    | coordEmit => simp at h
    | _ => exact ih h

theorem latestGains_of_sinceFrame {tr : List Event}
    (h : (sinceFrame tr).any Command.isGains = true) : ∃ g, latestGains tr = some g := by
  induction tr using List.reverseRecOn with
  | nil => simp [sinceFrame] at h
  | append_singleton tr e ih =>
    rw [sinceFrame_snoc] at h
    rw [latestGains_snoc]
    cases e with
    | latch cmd =>
      cases cmd with
      | gains g => exact ⟨g, rfl⟩
      | _ =>
        simp only [List.any_append, List.any_cons, List.any_nil, Command.isGains,
          Bool.or_false] at h
        exact ih h
    | coordEmit => simp at h
    | _ => exact ih h

/-- Frames after a latch move the window on by at most one each. -/
theorem sinceLatch_append {a : List Event} {n : Nat} (h : sinceLatch a = some n) (b : List Event) :
    ∃ m, sinceLatch (a ++ b) = some m ∧ m ≤ n + frames b := by
  induction b using List.reverseRecOn with
  | nil => exact ⟨n, by simpa using h, by simp⟩
  | append_singleton b e ih =>
    obtain ⟨m, hm, hle⟩ := ih
    rw [← List.append_assoc, sinceLatch_snoc, frames_snoc]
    cases e with
    | latch => exact ⟨0, rfl, Nat.zero_le _⟩
    | coordEmit => exact ⟨m + 1, by rw [hm]; rfl, by simp [Event.emits]; omega⟩
    | _ => exact ⟨m, hm, by simp [Event.emits]; omega⟩

/-! ### The requests in every reachable state -/

/-- The requests of the state, read off the run. -/
structure ReqInv (tr : List Event) (s : Sys) : Prop where
  reconfig : s.reconfigTrigger = (sinceFrame tr).any Command.isReconfigure
  freqFlag : s.centerFreqChangeFlag = (sinceFrame tr).any Command.isCenterFreq
  gainFlag : s.gainChangeFlag = (sinceFrame tr).any Command.isGains
  freq : ∀ f, latestFreq tr = some f → s.newCenterFreq = f
  gains : ∀ g, latestGains tr = some g → ∀ i < g.length, s.newGains.getD i 0 = g.getD i 0
  last : s.lastNoiseSourceState = noiseAtFrame tr

/-- A request is pending: a flag is set, or the noise source state is not the one
last carried out. -/
def Pending (s : Sys) : Prop :=
  s.reconfigTrigger = true ∨ s.centerFreqChangeFlag = true ∨ s.gainChangeFlag = true ∨
    s.noiseSourceState ≠ s.lastNoiseSourceState

namespace Setup

variable {σ : Setup}

/-- An event that neither latches nor writes a frame leaves the requests alone. -/
theorem reqInv_of_same {tr : List Event} {s s' : Sys} {e : Event} (hq : ReqInv tr s)
    (h1 : s'.reconfigTrigger = s.reconfigTrigger)
    (h2 : s'.centerFreqChangeFlag = s.centerFreqChangeFlag)
    (h3 : s'.gainChangeFlag = s.gainChangeFlag) (h4 : s'.newCenterFreq = s.newCenterFreq)
    (h5 : s'.newGains = s.newGains) (h6 : s'.lastNoiseSourceState = s.lastNoiseSourceState)
    (he : e.quiet = true ∨ ∃ ok, e = .fifoOpen ok) : ReqInv (tr ++ [e]) s' := by
  have ht : sinceFrame (tr ++ [e]) = sinceFrame tr ∧ latestFreq (tr ++ [e]) = latestFreq tr ∧
      latestGains (tr ++ [e]) = latestGains tr ∧ noiseAtFrame (tr ++ [e]) = noiseAtFrame tr := by
    rcases he with he | ⟨ok, rfl⟩
    · cases e <;> simp [Event.quiet] at he ⊢
    · simp
  obtain ⟨t1, t2, t3, t4⟩ := ht
  obtain ⟨q1, q2, q3, q4, q5, q6⟩ := hq
  exact ⟨by rw [h1, t1, q1], by rw [h2, t1, q2], by rw [h3, t1, q3], by rw [h4, t2]; exact q4,
    by rw [h5, t3]; exact q5, by rw [h6, t4, q6]⟩

/-- What `fifo_read_tf` does to the request flags. -/
theorem fifoReadTf_flags (s : Sys) (cmd : Command) :
    (σ.fifoReadTf s cmd).reconfigTrigger = (s.reconfigTrigger || cmd.isReconfigure) ∧
      (σ.fifoReadTf s cmd).centerFreqChangeFlag = (s.centerFreqChangeFlag || cmd.isCenterFreq) ∧
      (σ.fifoReadTf s cmd).gainChangeFlag = (s.gainChangeFlag || cmd.isGains) ∧
      (σ.fifoReadTf s cmd).lastNoiseSourceState = s.lastNoiseSourceState := by
  cases cmd <;> simp [fifoReadTf, latchCommand, Command.isReconfigure, Command.isCenterFreq,
    Command.isGains]

theorem reqInv_latch {tr : List Event} {s : Sys} (cmd : Command) (hq : ReqInv tr s) :
    ReqInv (tr ++ [.latch cmd]) (σ.fifoReadTf s cmd) := by
  obtain ⟨f1, f2, f3, f4⟩ := σ.fifoReadTf_flags s cmd
  have hany : ∀ p : Command → Bool, (sinceFrame (tr ++ [.latch cmd])).any p =
      ((sinceFrame tr).any p || p cmd) := fun p => by
    simp only [sinceFrame_snoc, List.any_append, List.any_cons, List.any_nil, Bool.or_false]
  refine ⟨by rw [f1, hq.reconfig, hany], by rw [f2, hq.freqFlag, hany],
    by rw [f3, hq.gainFlag, hany], fun f hf => ?_, fun g hg i hi => ?_,
    by rw [f4, hq.last, noiseAtFrame_snoc]⟩
  · cases cmd with
    | centerFreq f' => simpa using hf
    | _ => exact hq.freq f (by simpa using hf)
  · cases cmd with
    | gains g' =>
      simp only [latestGains_snoc, Option.some.injEq] at hg; subst hg
      simp only [fifoReadTf, latchCommand, List.getD_eq_getElem?_getD, List.getElem?_append_left hi]
    | _ => exact hq.gains g (by simpa using hg) i hi

theorem reqInv_emit {tr : List Event} {s : Sys} (now : Nat) (res : ControlResults)
    (hq : ReqInv tr s) (hw : WindowInv tr s) :
    ReqInv (tr ++ [.coordEmit now res])
      { σ.tunerControl (σ.emitFrame s now) res with coord := .loopHead } := by
  obtain ⟨t, ⟨rr, dv, rfl, -⟩, e⟩ := σ.coordEmit_eq s now res
  rw [e]
  exact ⟨by simp, by simp, by simp, fun f hf => hq.freq f (by simpa using hf),
    fun g hg => hq.gains g (by simpa using hg), by simp [hw.noise]⟩

theorem reqInv_step {tr : List Event} {s s' : Sys} {e : Event} (hq : ReqInv tr s)
    (hw : WindowInv tr s) (h : σ.step s e = some s') : ReqInv (tr ++ [e]) s' := by
  cases e with
  | latch cmd => obtain ⟨-, rfl⟩ := step_latch.mp h; exact reqInv_latch cmd hq
  | coordEmit now res => obtain ⟨-, rfl⟩ := step_coordEmit.mp h; exact reqInv_emit now res hq hw
  | fifoOpen ok =>
    obtain ⟨-, rfl⟩ := step_fifoOpen.mp h
    exact reqInv_of_same hq rfl rfl rfl rfl rfl rfl (.inr ⟨ok, rfl⟩)
  | _ =>
    have hs := step_quiet h rfl
    exact reqInv_of_same hq hs.reconfigTrigger hs.centerFreqChangeFlag hs.gainChangeFlag
      hs.newCenterFreq hs.newGains hs.lastNoiseSourceState (.inl rfl)

theorem reqInv_run {rings : Nat → Nat → UInt8} {dev0 : Int → Device} :
    ∀ tr s, σ.run (σ.loopEntry rings dev0) tr = some s → ReqInv tr s :=
  run_induction _
    ⟨rfl, rfl, rfl, fun _ h => Option.noConfusion h, fun _ h => Option.noConfusion h, rfl⟩
    fun tr s _ _ hrun hq h => reqInv_step hq (windowInv_run tr s hrun) h

/-- A pending request means a command was latched since the latest frame. -/
theorem sinceLatch_of_pending {tr : List Event} {s : Sys} (hq : ReqInv tr s) (hw : WindowInv tr s)
    (hp : Pending s) : sinceLatch tr = some 0 := by
  apply sinceLatch_of_sinceFrame
  have hany : ∀ {p : Command → Bool}, (sinceFrame tr).any p = true → sinceFrame tr ≠ [] :=
    fun h hn => by simp [hn] at h
  rcases hp with h | h | h | h
  · exact hany (hq.reconfig ▸ h)
  · exact hany (hq.freqFlag ▸ h)
  · exact hany (hq.gainFlag ▸ h)
  · rw [hw.noise, hq.last] at h; exact sinceFrame_of_noise h

/-- **Every request is carried out by the pass that writes the next frame.**  At
each frame the pending requests are the commands latched since the frame before.
The pass that writes the frame cancels the reads for `'r'`, retunes every channel
whose call succeeds to the latest `'c'` frequency, sets every such channel to its
gain of the latest `'g'` (on its tuner too, where no two channels share one), and,
with noise source control on, sets the GPIO of receiver `ctr_channel_dev_index` to
the latest of `'n'` and `'f'`; with it off, the pass writes no GPIO at all.  Then
every request is cleared.  A frame written
while a request is pending is a dummy, and so are the `NO_DUMMY_FRAMES - 1` frames
after it. -/
theorem requests_carried_out {openOk : Int → Bool} {ring0 : Nat → Option (Nat → UInt8)}
    {dev0 : Int → Device} {s0 : Sys} {tr : List Event} {s s' : Sys} {now : Nat}
    {res : ControlResults} (h0 : σ.startup openOk ring0 dev0 = some s0)
    (hrun : σ.run s0 tr = some s) (hemit : σ.step s (.coordEmit now res) = some s') :
    (s.reconfigTrigger = (sinceFrame tr).any Command.isReconfigure ∧
      s.centerFreqChangeFlag = (sinceFrame tr).any Command.isCenterFreq ∧
      s.gainChangeFlag = (sinceFrame tr).any Command.isGains ∧
      s.noiseSourceState = noiseRequested tr ∧ s.lastNoiseSourceState = noiseAtFrame tr) ∧
    (s.reconfigTrigger = true → ∀ i < σ.chNo, s.reader i = .reading → s'.reader i = .canceling) ∧
    (s.centerFreqChangeFlag = true → ∃ f, latestFreq tr = some f ∧ ∀ i < σ.chNo,
      res.freqOk i = true → (s'.rtlReceivers i).centerFreq = f ∧
        (s'.devices (σ.devInd i)).centerFreq = f) ∧
    (s.gainChangeFlag = true → ∃ g, latestGains tr = some g ∧ ∀ i < σ.chNo, i < g.length →
      res.gainOk i = true → (s'.rtlReceivers i).gain = g.getD i 0 ∧
        ((∀ i < σ.chNo, ∀ j < σ.chNo, σ.devInd i = σ.devInd j → i = j) →
          (s'.devices (σ.devInd i)).gain = g.getD i 0)) ∧
    (s.noiseSourceState ≠ s.lastNoiseSourceState → σ.noiseCtrEnabled = true →
      (s'.devices (σ.devInd σ.ctrChannelDevIndex.toNat)).gpio = s.noiseSourceState) ∧
    (σ.noiseCtrEnabled = false → ∀ d, (s'.devices d).gpio = (s.devices d).gpio) ∧
    (s'.reconfigTrigger = false ∧ s'.centerFreqChangeFlag = false ∧ s'.gainChangeFlag = false ∧
      s'.lastNoiseSourceState = s'.noiseSourceState) ∧
    (Pending s → (σ.emitted s now).header.frameType = .dummy ∧
      ∀ tr2 s2 s3 now2 res2, σ.run s' tr2 = some s2 →
        σ.step s2 (.coordEmit now2 res2) = some s3 → frames tr2 < noDummyFrames - 1 →
        (σ.emitted s2 now2).header.frameType = .dummy) := by
  have hrun0 := σ.startup_eq_some h0 ▸ hrun
  have hw := windowInv_run tr s hrun0
  have hq := reqInv_run tr s hrun0
  have hs' := (step_coordEmit.mp hemit).2
  obtain ⟨t, ⟨rr, dv, rfl, -⟩, e⟩ := σ.coordEmit_eq s now res
  have hrec := fun i => σ.tunerControl_rtlReceivers (σ.emitFrame s now) res i
  refine ⟨⟨hq.reconfig, hq.freqFlag, hq.gainFlag, hw.noise, hq.last⟩, fun hr i hi hread => ?_,
    fun hc => ?_, fun hg => ?_, fun hch hen => ?_, fun hen d => ?_,
    by rw [hs', e]; exact ⟨rfl, rfl, rfl, rfl⟩,
    fun hp => ⟨?_, fun tr2 s2 s3 now2 res2 hrun2 hemit2 hlt => ?_⟩⟩
  · rw [hs', e]; simp [cancelAsync, hr, hi, hread]
  · obtain ⟨f, hf⟩ := latestFreq_of_sinceFrame (hq.freqFlag ▸ hc)
    refine ⟨f, hf, fun i hi hok => ⟨?_, ?_⟩⟩ <;> rw [hs', ← hq.freq f hf]
    · simpa [emitFrame, hc, hi, hok] using (hrec i).1
    · exact tunerControl_devices_centerFreq (σ.emitFrame s now) res hc hi hok
  · obtain ⟨g, hgs⟩ := latestGains_of_sinceFrame (hq.gainFlag ▸ hg)
    refine ⟨g, hgs, fun i hi hig hok => ⟨?_, fun hinj => ?_⟩⟩ <;> rw [hs', ← hq.gains g hgs i hig]
    · simpa [emitFrame, hg, hi, hok] using (hrec i).2
    · exact tunerControl_devices_gain (σ.emitFrame s now) res hinj hg hi hok
  · rw [hs']; exact tunerControl_gpio (σ.emitFrame s now) res (Ne.symm hch) hen
  · rw [hs']; exact tunerControl_gpio_of_idle (σ.emitFrame s now) res (by simp [hen]) d
  · have h0' := sinceLatch_of_pending hq hw hp
    rw [emitted_frameType_eq_dummy, hw.active]
    exact ⟨0, h0', by decide⟩
  · have hrun3 : σ.run (σ.loopEntry (fun i => (ring0 i).getD fun _ => 0) dev0)
        ((tr ++ [.coordEmit now res]) ++ tr2) = some s2 := by
      rw [run_append, run_snoc, hrun0]; simpa [hemit] using hrun2
    have h1 : sinceLatch (tr ++ [.coordEmit now res]) = some 1 := by
      rw [sinceLatch_snoc, sinceLatch_of_pending hq hw hp]; rfl
    obtain ⟨m, hm, hle⟩ := sinceLatch_append h1 tr2
    rw [emitted_frameType_eq_dummy, (windowInv_run _ s2 hrun3).active]
    exact ⟨m, hm, by simp only [noDummyFrames] at hlt ⊢; omega⟩

end Setup

/-- A retune to 5 Hz latched before the first transfer. -/
def retuneRun : List Event :=
  [.fifoOpen true, .latch (.centerFreq 5), .readerStep 0 .allOk, .barrierRelease, .readStart 0,
    .callback 0 [7, 255], .coordCheck]

theorem first_frame_retunes :
    ∃ s0 s s', Setup.single.startup (fun _ => true) (fun _ => some fun _ => 0)
        (fun _ => .idle) = some s0 ∧ Setup.single.run s0 retuneRun = some s ∧
      Setup.single.step s (.coordEmit 0 .allOk) = some s' ∧
      (Setup.single.emitted s 0).header.frameType = .dummy ∧ (s'.rtlReceivers 0).centerFreq = 5 := by
  obtain ⟨s0, s, h0, hrun, hemit⟩ := @Setup.startup_run_snoc .single (fun _ => true)
    (fun _ => some fun _ => 0) (fun _ => .idle) retuneRun (.coordEmit 0 .allOk) _ rfl
  have h := Setup.requests_carried_out h0 hrun hemit
  have hc : s.centerFreqChangeFlag = true := h.1.2.1.trans (by decide)
  obtain ⟨f, hf, hset⟩ := h.2.2.1 hc
  obtain rfl : f = 5 := Option.some.inj (hf.symm.trans (by decide))
  exact ⟨s0, s, _, h0, hrun, hemit, (h.2.2.2.2.2.2.2 (.inr (.inl hc))).1,
    (hset 0 (by decide) rfl).1⟩

/-- With noise source control off, an `'n'` is pending at the first frame and the
pass leaves the control receiver's GPIO low. -/
theorem noise_request_without_gpio :
    ∃ s0 s s', Setup.noCtr.startup (fun _ => true) (fun _ => some fun _ => 0)
        (fun _ => .idle) = some s0 ∧ Setup.noCtr.run s0 noiseFirstRun = some s ∧
      Setup.noCtr.step s (.coordEmit 0 .allOk) = some s' ∧
      s.noiseSourceState = true ∧ s.lastNoiseSourceState = false ∧
      (s'.devices (Setup.noCtr.devInd Setup.noCtr.ctrChannelDevIndex.toNat)).gpio = false :=
  ⟨_, _, _, rfl, rfl, rfl, by decide, by decide, by decide⟩

end RtlDaq
