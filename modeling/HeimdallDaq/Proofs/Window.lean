/-
The dummy window, over every order of commands and frames.

`fifo_read_tf` restarts the window on every command it reads, whatever the byte:
`en_dummy_frame = 1; dummy_frame_cntr = 0`.  The coordinator counts the frames it
writes while the window is open and closes it at the eighth.  So the window is a
function of the run alone — open exactly while fewer than `NO_DUMMY_FRAMES` frames
have been written since the latest command — and `dummy_frame_cntr` is that number
of frames.  `WindowInv` says so, together with the noise source state being the
latest of `'n'` and `'f'`; the frame type follows from both.
-/
import HeimdallDaq.Proofs.Frame

namespace RtlDaq

/-- Frames written since the latest latched command; `none` before any command. -/
def sinceLatch (tr : List Event) : Option Nat :=
  tr.foldl (fun acc e => match e with
    | .latch _ => some 0
    | .coordEmit _ _ => acc.map (· + 1)
    | _ => acc) none

/-- Whether the latest of the `'n'` and `'f'` commands latched is `'n'`. -/
def noiseRequested (tr : List Event) : Bool :=
  tr.foldl (fun b e => match e with
    | .latch .noiseOn => true
    | .latch .noiseOff => false
    | _ => b) false

/-- The window is open: a command was latched fewer than `NO_DUMMY_FRAMES` frames ago. -/
def InWindow (tr : List Event) : Prop := ∃ n, sinceLatch tr = some n ∧ n < noDummyFrames

instance : DecidablePred InWindow := fun tr =>
  match h : sinceLatch tr with
  | some n => decidable_of_iff (n < noDummyFrames) (by simp [InWindow, h])
  | none => isFalse (by simp [InWindow, h])

@[simp] theorem sinceLatch_snoc (tr : List Event) (e : Event) :
    sinceLatch (tr ++ [e]) = match e with
      | .latch _ => some 0
      | .coordEmit _ _ => (sinceLatch tr).map (· + 1)
      | _ => sinceLatch tr := by
  simp only [sinceLatch, List.foldl_append, List.foldl_cons, List.foldl_nil]

@[simp] theorem noiseRequested_snoc (tr : List Event) (e : Event) :
    noiseRequested (tr ++ [e]) = match e with
      | .latch .noiseOn => true
      | .latch .noiseOff => false
      | _ => noiseRequested tr := by
  simp only [noiseRequested, List.foldl_append, List.foldl_cons, List.foldl_nil]

/-- The dummy window and the noise source state, read off the run. -/
structure WindowInv (tr : List Event) (s : Sys) : Prop where
  active : s.enDummyFrame = true ↔ InWindow tr
  cntr : s.enDummyFrame = true → sinceLatch tr = some s.dummyFrameCntr
  noise : s.noiseSourceState = noiseRequested tr

namespace Setup

variable {σ : Setup}

theorem windowInv_loopEntry (rings : Nat → Nat → UInt8) (dev0 : Int → Device) :
    WindowInv [] (σ.loopEntry rings dev0) :=
  ⟨by simp [InWindow, sinceLatch, loopEntry], by simp [loopEntry], rfl⟩

/-- An event that neither latches nor writes a frame moves nothing the window reads. -/
theorem windowInv_of_same {tr : List Event} {s s' : Sys} {e : Event} (hw : WindowInv tr s)
    (hen : s'.enDummyFrame = s.enDummyFrame) (hc : s'.dummyFrameCntr = s.dummyFrameCntr)
    (hns : s'.noiseSourceState = s.noiseSourceState) (he : sinceLatch (tr ++ [e]) = sinceLatch tr)
    (hn : noiseRequested (tr ++ [e]) = noiseRequested tr) : WindowInv (tr ++ [e]) s' := by
  refine ⟨?_, ?_, ?_⟩ <;> simp only [InWindow, hen, hc, hns, he, hn]
  exacts [hw.active, hw.cntr, hw.noise]

/-- A command opens the window afresh. -/
theorem windowInv_latch {tr : List Event} {s : Sys} (cmd : Command) (hw : WindowInv tr s) :
    WindowInv (tr ++ [.latch cmd]) (σ.fifoReadTf s cmd) := by
  refine ⟨by simp [fifoReadTf, InWindow, noDummyFrames], by simp [fifoReadTf], ?_⟩
  cases cmd <;> simp [fifoReadTf, latchCommand, hw.noise]

/-- A frame moves the window on by one. -/
theorem windowInv_emit {tr : List Event} {s : Sys} (now : Nat) (res : ControlResults)
    (hw : WindowInv tr s) :
    WindowInv (tr ++ [.coordEmit now res]) { σ.tunerControl (σ.emitFrame s now) res with coord := .loopHead } := by
  obtain ⟨t, ⟨rr, dv, rfl, -⟩, e⟩ := σ.coordEmit_eq s now res
  rw [e]
  refine ⟨?_, ?_, by simpa using hw.noise⟩ <;> simp only [sinceLatch_snoc, InWindow]
  · cases hen : s.enDummyFrame
    · have : ¬ InWindow tr := fun h => by simp [hw.active.mpr h] at hen
      simp only [InWindow, not_exists, not_and] at this
      cases hs : sinceLatch tr <;> simp_all [noDummyFrames]
      omega
    · have hc := hw.cntr hen
      have hlt : s.dummyFrameCntr < noDummyFrames := by
        obtain ⟨n, hn, hlt⟩ := hw.active.mp hen; rw [hc] at hn; cases hn; exact hlt
      simp [hc, noDummyFrames] at hlt ⊢; omega
  · cases hen : s.enDummyFrame
    · simp
    · simp [hw.cntr hen]

theorem windowInv_step {tr : List Event} {s s' : Sys} {e : Event} (hw : WindowInv tr s)
    (h : σ.step s e = some s') : WindowInv (tr ++ [e]) s' := by
  cases e with
  | latch cmd => obtain ⟨-, rfl⟩ := step_latch.mp h; exact windowInv_latch cmd hw
  | coordEmit now res => obtain ⟨-, rfl⟩ := step_coordEmit.mp h; exact windowInv_emit now res hw
  | fifoOpen => obtain ⟨-, rfl⟩ := step_fifoOpen.mp h; exact windowInv_of_same hw rfl rfl rfl (by simp) (by simp)
  | _ =>
    have hq := step_quiet h rfl
    exact windowInv_of_same hw hq.enDummyFrame hq.dummyFrameCntr hq.noiseSourceState (by simp) (by simp)

/-- **The window over every run.** -/
theorem windowInv_run {rings : Nat → Nat → UInt8} {dev0 : Int → Device} :
    ∀ tr s, σ.run (σ.loopEntry rings dev0) tr = some s → WindowInv tr s :=
  run_induction _ (windowInv_loopEntry rings dev0) fun _ _ _ _ _ hw h => windowInv_step hw h

/-- **Dummy frames are exactly the frames inside a window.**  A frame is a dummy
(type, data type and length all zero) exactly when some command was latched fewer
than `NO_DUMMY_FRAMES` frames before it; any other frame is a data frame of
`daq_buffer_size` samples, a calibration frame when the latest noise command was
`'n'`; and every frame reports that noise command. -/
theorem dummy_window {openOk : Int → Bool} {ring0 : Nat → Option (Nat → UInt8)}
    {dev0 : Int → Device} {s0 : Sys} {tr : List Event} {s s' : Sys} {now : Nat}
    {res : ControlResults} (h0 : σ.startup openOk ring0 dev0 = some s0)
    (hrun : σ.run s0 tr = some s) (hemit : σ.step s (.coordEmit now res) = some s') :
    s'.out = s.out ++ [σ.emitted s now] ∧
      (((σ.emitted s now).header.frameType = .dummy ∧ (σ.emitted s now).header.dataType = 0 ∧
        (σ.emitted s now).header.cpiLength = 0) ↔ InWindow tr) ∧
      (¬ InWindow tr → (σ.emitted s now).header.dataType = 1 ∧
        (σ.emitted s now).header.cpiLength = u32OfInt σ.config.daqBufferSize ∧
        (σ.emitted s now).header.frameType = if noiseRequested tr then .cal else .data) ∧
      (σ.emitted s now).header.noiseSourceState = if noiseRequested tr then 1 else 0 := by
  rw [σ.startup_eq_some h0] at hrun
  have hw := windowInv_run tr s hrun
  refine ⟨by simpa [frameOf] using (σ.step_out hemit).1, ?_, fun hn => ?_, ?_⟩ <;>
    simp only [emitted_frameType, emitted_dataType, emitted_cpiLength, emitted_noiseSourceState,
      ← hw.active, hw.noise]
  · cases s.enDummyFrame <;> cases noiseRequested tr <;> simp
  · simp [hw.active, hn]

end Setup

/-- The noise source switched on before the tuner delivers its first transfer. -/
def noiseFirstRun : List Event :=
  [.fifoOpen true, .latch .noiseOn, .readerStep 0 .allOk, .barrierRelease, .readStart 0,
    .callback 0 [7, 255], .coordCheck]

theorem noise_first_frame_dummy :
    ∃ s0 s s', Setup.single.startup (fun _ => true) (fun _ => some fun _ => 0)
        (fun _ => .idle) = some s0 ∧ Setup.single.run s0 noiseFirstRun = some s ∧
      Setup.single.step s (.coordEmit 0 .allOk) = some s' ∧
      (Setup.single.emitted s 0).header.frameType = .dummy ∧
      (Setup.single.emitted s 0).header.noiseSourceState = 1 := by
  obtain ⟨s0, s, h0, hrun, hemit⟩ := @Setup.startup_run_snoc .single (fun _ => true)
    (fun _ => some fun _ => 0) (fun _ => .idle) noiseFirstRun (.coordEmit 0 .allOk) _ rfl
  have h := Setup.dummy_window h0 hrun hemit
  exact ⟨s0, s, _, h0, hrun, hemit, (h.2.1.mpr (by decide)).1, h.2.2.2.trans rfl⟩

end RtlDaq
