/-
Leaving the acquisition loop.

`exit_flag` is set by the halt command (the byte 2), or by `fifo_read_tf` when the
control FIFO cannot be opened, and nothing clears it.  `main` tests it only at the
head of its loop, so a coordinator that is waiting for data may still write the
frame of the pass it is in; at the next head it cancels every read and leaves the
loop, and after that no event writes to stdout.  `framesLeft` counts that one
possible frame: the frames written plus `framesLeft` never grow once the flag is
set.
-/
import HeimdallDaq.Proofs.Frame

namespace RtlDaq

namespace Setup

variable {σ : Setup} {s s' : Sys} {e : Event}

/-- The frames the coordinator can still write once `exit_flag` is set: the one of
the pass it is in, if it is waiting for data. -/
def framesLeft (s : Sys) : Nat := if s.coord = .waiting then 1 else 0

theorem step_exitFlag (h : σ.step s e = some s') (hx : s.exitFlag = true) :
    s'.exitFlag = true := by
  cases e with
  | fifoOpen => obtain ⟨-, rfl⟩ := step_fifoOpen.mp h; simp [hx]
  | latch cmd => obtain ⟨-, rfl⟩ := step_latch.mp h; cases cmd <;> first | exact hx | rfl
  | coordEmit now res =>
    obtain ⟨-, rfl⟩ := step_coordEmit.mp h
    obtain ⟨t, ⟨rr, dv, rfl, -⟩, e⟩ := σ.coordEmit_eq s now res
    rw [e]; exact hx
  | _ => exact (step_quiet h rfl).exitFlag.trans hx

/-- A step that moves neither the coordinator nor stdout. -/
theorem exit_bound_of_same (hc : s'.coord = s.coord) (ho : s'.out = s.out) :
    s'.out.length + framesLeft s' ≤ s.out.length + framesLeft s ∧
      (s.coord = .exited → s'.coord = .exited ∧ s'.out = s.out) :=
  ⟨by rw [framesLeft, framesLeft, hc, ho], fun he => ⟨hc.trans he, ho⟩⟩

/-- Only the coordinator's own events move it, and only a frame it writes adds
to stdout. -/
theorem step_exit (h : σ.step s e = some s') (hx : s.exitFlag = true) :
    s'.out.length + framesLeft s' ≤ s.out.length + framesLeft s ∧
      (s.coord = .exited → s'.coord = .exited ∧ s'.out = s.out) := by
  cases e with
  | coordCheck =>
    obtain ⟨hc, rfl⟩ := step_coordCheck.mp h
    rw [if_pos hx]
    exact ⟨by simp [framesLeft, shutdown, hc], fun he => absurd (hc.symm.trans he) (by decide)⟩
  | coordIdle =>
    obtain ⟨⟨hc, -⟩, rfl⟩ := step_coordIdle.mp h
    exact ⟨by simp [framesLeft, hc], fun he => absurd (hc.symm.trans he) (by decide)⟩
  | coordEmit now res =>
    obtain ⟨⟨hc, -⟩, rfl⟩ := step_coordEmit.mp h
    obtain ⟨t, ⟨rr, dv, rfl, -⟩, e⟩ := σ.coordEmit_eq s now res
    rw [e]
    exact ⟨by simp [framesLeft, hc], fun he => absurd (hc.symm.trans he) (by decide)⟩
  | fifoOpen => obtain ⟨-, rfl⟩ := step_fifoOpen.mp h; exact exit_bound_of_same rfl rfl
  | latch cmd => obtain ⟨-, rfl⟩ := step_latch.mp h; cases cmd <;> exact exit_bound_of_same rfl rfl
  | readerStep =>
    obtain ⟨-, rfl⟩ := step_readerStep.mp h
    unfold readThreadEntry; split <;> exact exit_bound_of_same rfl rfl
  | barrierRelease => obtain ⟨-, rfl⟩ := step_barrierRelease.mp h; exact exit_bound_of_same rfl rfl
  | readStart => obtain ⟨-, rfl⟩ := step_readStart.mp h; exact exit_bound_of_same rfl rfl
  | callback => obtain ⟨-, rfl⟩ := step_callback.mp h; exact exit_bound_of_same rfl rfl
  | asyncReturn => obtain ⟨-, rfl⟩ := step_asyncReturn.mp h; exact exit_bound_of_same rfl rfl

/-- What a run from `s` keeps once `exit_flag` is set. -/
structure ExitInv (s t : Sys) : Prop where
  exitFlag : t.exitFlag = true
  frames : t.out.length + framesLeft t ≤ s.out.length + framesLeft s
  exited : s.coord = .exited → t.coord = .exited ∧ t.out = s.out

theorem exitInv_step {t t' : Sys} (hi : ExitInv s t) (h : σ.step t e = some t') :
    ExitInv s t' := by
  obtain ⟨hle, hex⟩ := step_exit h hi.exitFlag
  exact ⟨step_exitFlag h hi.exitFlag, hle.trans hi.frames, fun he =>
    ⟨(hex (hi.exited he).1).1, (hex (hi.exited he).1).2.trans (hi.exited he).2⟩⟩

/-- **Exit is final.**  Once `exit_flag` is set it stays set, the coordinator
writes at most one more frame, the one of the pass it is in if it is waiting for
data, and once it has left its loop it writes none. -/
theorem exit_final (hx : s.exitFlag = true) {tr : List Event} {s2 : Sys}
    (hrun : σ.run s tr = some s2) :
    s2.exitFlag = true ∧ s2.out.length ≤ s.out.length + (if s.coord = .waiting then 1 else 0) ∧
      (s.coord = .exited → s2.coord = .exited ∧ s2.out = s.out) := by
  have hi := run_induction (σ := σ) (fun _ t => ExitInv s t) ⟨hx, le_refl _, fun he => ⟨he, rfl⟩⟩
    (fun _ _ _ _ _ hi h => exitInv_step hi h) tr s2 hrun
  exact ⟨hi.exitFlag, Nat.le_of_add_right_le hi.frames, hi.exited⟩

end Setup

/-- The control FIFO fails to open: the coordinator's next loop test ends the loop,
and a reader thread that then starts ends at once. -/
theorem fifo_failure_writes_nothing :
    ∃ s s2, Setup.single.step (Setup.single.loopEntry (fun _ _ => 0) fun _ => .idle)
        (.fifoOpen false) = some s ∧
      Setup.single.run s [.coordCheck, .readerStep 0 .allOk] = some s2 ∧
      s2.coord = .exited ∧ s2.out.length ≤ s.out.length + (if s.coord = .waiting then 1 else 0) :=
  ⟨_, _, rfl, rfl, rfl, (@Setup.exit_final .single
    { Setup.single.loopEntry (fun _ _ => 0) (fun _ => .idle) with fifo := .exited, exitFlag := true }
    rfl [.coordCheck, .readerStep 0 .allOk] _ rfl).2.1⟩

end RtlDaq
