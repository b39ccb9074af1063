/-
A restart whose cancel misses a reader.

The barrier lets the readers go together, but each enters `rtlsdr_read_async` on its
own, and `rtlsdr_cancel_async` stops only a read that is running.  A pass that
carries out `'r'` while a reader is between the two cancels the others' reads and
not that one's.  The others return, configure their tuners again and wait at the
barrier, which waits for all `ch_no` parties; the reader that was missed goes on
reading, and nothing cancels it before the next `'r'` or the halt.  From then on
the barrier is never released, a channel that returned is handed no transfer, and
once the coordinator has written the frames that channel had delivered it writes no
more: the acquisition stops (`missed_cancel_stalls`).
-/
import HeimdallDaq.Proofs.Alignment
import HeimdallDaq.Proofs.Readers

namespace RtlDaq

/-- The event latches neither `'r'` nor the halt, and is not a failed `fopen`: it
neither asks for a cancel nor sets `exit_flag`. -/
def Event.keepsReads : Event → Bool
  | .latch (.reconfigure _ _ _) | .latch .halt | .fifoOpen false => false
  | _ => true

namespace Setup

variable {σ : Setup}

/-- After a cancel that missed reader `j`: no cancel is pending, `exit_flag` is
clear, `j` is past the barrier, and reader `i` is back before it. -/
structure Stalled (σ : Setup) (i j : Nat) (s : Sys) : Prop where
  trigger : s.reconfigTrigger = false
  exitFlag : s.exitFlag = false
  hi : i < σ.chNo
  hj : j < σ.chNo
  holder : s.reader j = .released ∨ s.reader j = .reading
  returned : s.reader i = .loopHead ∨ s.reader i = .atBarrier

/-- **One step of a stalled restart.**  An event that asks for no cancel and sets no
`exit_flag` keeps the restart stalled: it is not a release of the barrier, and it
hands channel `i` nothing. -/
theorem stalled_step {i j : Nat} {s s' : Sys} {e : Event} (hst : σ.Stalled i j s)
    (he : e.keepsReads = true) (h : σ.step s e = some s') :
    σ.Stalled i j s' ∧ e.isRelease = false ∧ e.deliveredTo i = none := by
  have keep : ∀ {t : Sys}, t.reconfigTrigger = false → t.exitFlag = false →
      t.reader j = s.reader j → t.reader i = s.reader i → σ.Stalled i j t :=
    fun ht hx hj hi => ⟨ht, hx, hst.hi, hst.hj, hj ▸ hst.holder, hi ▸ hst.returned⟩
  -- the reader a guard names is neither `i` nor `j` when its place is neither of theirs
  have ne_i : ∀ {k : Nat} {p : ReaderPc}, s.reader k = p → p ≠ .loopHead → p ≠ .atBarrier →
      k ≠ i := fun hk h1 h2 hki => by
    subst hki; rcases hst.returned with h' | h' <;> rw [h'] at hk <;> simp_all
  have ne_j : ∀ {k : Nat} {p : ReaderPc}, s.reader k = p → p ≠ .released → p ≠ .reading →
      k ≠ j := fun hk h1 h2 hkj => by
    subst hkj; rcases hst.holder with h' | h' <;> rw [h'] at hk <;> simp_all
  cases e with
  | fifoOpen ok =>
    obtain ⟨-, rfl⟩ := step_fifoOpen.mp h
    cases ok
    · simp [Event.keepsReads] at he
    · exact ⟨keep hst.trigger (by simp [hst.exitFlag]) rfl rfl, rfl, rfl⟩
  | latch cmd =>
    obtain ⟨-, rfl⟩ := step_latch.mp h
    refine ⟨?_, rfl, rfl⟩
    cases cmd <;> first
      | exact keep hst.trigger hst.exitFlag rfl rfl
      | simp [Event.keepsReads] at he
  | readerStep k res =>
    obtain ⟨⟨-, hk⟩, rfl⟩ := step_readerStep.mp h
    obtain ⟨hr, hx, ht⟩ := σ.readThreadEntry_readers s k res
    have hkj := ne_j hk (by decide) (by decide)
    refine ⟨⟨ht.trans hst.trigger, hx.trans hst.exitFlag, hst.hi, hst.hj, ?_, ?_⟩, rfl, rfl⟩
    · rw [hr, Function.update_noteq hkj.symm]; exact hst.holder
    · by_cases hki : i = k
      · subst hki; rw [hr, Function.update_same]; simp [hst.exitFlag]
      · rw [hr, Function.update_noteq hki]; exact hst.returned
  | barrierRelease =>
    obtain ⟨hb, -⟩ := step_barrierRelease.mp h
    have := List.all_eq_true.mp hb j (List.mem_range.mpr hst.hj)
    rcases hst.holder with h' | h' <;> simp [h'] at this
  | readStart k =>
    obtain ⟨⟨-, hk⟩, rfl⟩ := step_readStart.mp h
    have hki := ne_i hk (by decide) (by decide)
    refine ⟨⟨hst.trigger, hst.exitFlag, hst.hi, hst.hj, ?_, ?_⟩, rfl, rfl⟩
    · by_cases hjk : j = k
      · subst hjk; exact .inr (Function.update_same _ _ _)
      · dsimp only; rw [Function.update_noteq hjk]; exact hst.holder
    · dsimp only; rw [Function.update_noteq hki.symm]; exact hst.returned
  | callback k buf =>
    obtain ⟨⟨-, hk, -⟩, rfl⟩ := step_callback.mp h
    have hki : k ≠ i := hk.elim (ne_i · (by decide) (by decide)) (ne_i · (by decide) (by decide))
    exact ⟨keep hst.trigger hst.exitFlag rfl rfl, rfl, by simp [Event.deliveredTo, hki]⟩
  | asyncReturn k =>
    obtain ⟨hk, rfl⟩ := step_asyncReturn.mp h
    exact ⟨keep hst.trigger hst.exitFlag
      (Function.update_noteq (ne_j hk (by decide) (by decide)).symm _ _)
      (Function.update_noteq (ne_i hk (by decide) (by decide)).symm _ _), rfl, rfl⟩
  | coordCheck =>
    obtain ⟨-, rfl⟩ := step_coordCheck.mp h
    rw [if_neg (by simp [hst.exitFlag])]
    exact ⟨keep hst.trigger hst.exitFlag rfl rfl, rfl, rfl⟩
  | coordIdle =>
    obtain ⟨-, rfl⟩ := step_coordIdle.mp h
    exact ⟨keep hst.trigger hst.exitFlag rfl rfl, rfl, rfl⟩
  | coordEmit now res =>
    obtain ⟨-, rfl⟩ := step_coordEmit.mp h
    obtain ⟨hr, hx, ht⟩ := σ.tunerControl_readers s now res
    rw [cancelAsync_reader, if_neg (by simp [hst.trigger])] at hr
    exact ⟨keep ht (hx.trans hst.exitFlag) (congrFun hr j) (congrFun hr i), rfl, rfl⟩

/-- What a continuation `tr2` of such events from `s` keeps: the restart stays
stalled, channel `i`'s counter stands still, and every frame written moved
`read_buff_ind` one step closer to it. -/
structure StallInv (σ : Setup) (i j : Nat) (s : Sys) (tr2 : List Event) (s2 : Sys) : Prop where
  stalled : σ.Stalled i j s2
  releases : releases tr2 = 0
  delivered : delivered i tr2 = []
  buffInd : (s2.rtlReceivers i).buffInd = (s.rtlReceivers i).buffInd
  readBuffInd : s2.readBuffInd = s.readBuffInd + frames tr2
  bound : frames tr2 = 0 ∨ s.readBuffInd + frames tr2 ≤ (s.rtlReceivers i).buffInd

theorem stallInv_step {i j : Nat} {s s2 s3 : Sys} {tr2 : List Event} {e : Event}
    (hb : (s.rtlReceivers i).buffInd < 2 ^ 64) (hinv : σ.StallInv i j s tr2 s2)
    (he : e.keepsReads = true) (h : σ.step s2 e = some s3) :
    σ.StallInv i j s (tr2 ++ [e]) s3 := by
  obtain ⟨hst, hrel, hdel⟩ := stalled_step hinv.stalled he h
  have hring := σ.step_ringState h i
  rw [hdel] at hring
  -- a frame needs channel `i` past `read_buff_ind`
  have hready : e.emits = true → s2.readBuffInd < (s2.rtlReceivers i).buffInd := fun hem => by
    cases e with
    | coordEmit => exact dataReady_iff.mp (step_coordEmit.mp h).1.2.1 i hinv.stalled.hi
    | _ => simp [Event.emits] at hem
  have hrd := (σ.step_out h).2
  have hr := hinv.readBuffInd
  have hbd := hinv.bound
  refine ⟨hst, by simp [hrel, hinv.releases], by simp [hdel, hinv.delivered],
    (congrArg Prod.fst hring).trans hinv.buffInd, ?_, ?_⟩ <;> rw [frames_snoc] <;>
    cases hem : e.emits
  · simp only [hrd, hem, hr, Bool.false_eq_true, if_false, Nat.add_zero]
  · have := hready hem
    rw [hinv.buffInd] at this
    rw [hrd, if_pos hem, hr, Nat.mod_eq_of_lt (by omega)]; rfl
  · simpa using hbd
  · have := hready hem
    rw [hinv.buffInd] at this
    right; simp only [if_true]; omega

/-- **A cancel that misses a released reader stalls the acquisition.**  In a state a
run from `main`'s startup reaches, let no cancel be pending, `exit_flag` clear,
reader `j` released by the barrier or reading, and reader `i` back at the head of
its loop or at the barrier.  Then in every continuation that latches neither `'r'`
nor the halt and in which `fopen` does not fail, the barrier is never released
again, channel `i` is handed no transfer, and the coordinator writes at most
`buff_ind_i - read_buff_ind` more frames. -/
theorem missed_cancel_stalls {openOk : Int → Bool} {ring0 : Nat → Option (Nat → UInt8)}
    {dev0 : Int → Device} {s0 : Sys} {tr : List Event} {s : Sys} {i j : Nat}
    (h0 : σ.startup openOk ring0 dev0 = some s0) (hrun : σ.run s0 tr = some s)
    (hst : σ.Stalled i j s) :
    ∀ tr2 s2, σ.run s tr2 = some s2 → (∀ e ∈ tr2, e.keepsReads = true) →
      releases tr2 = 0 ∧ delivered i tr2 = [] ∧
        frames tr2 ≤ (s.rtlReceivers i).buffInd - s.readBuffInd := by
  rw [σ.startup_eq_some h0] at hrun
  have hb : (s.rtlReceivers i).buffInd < 2 ^ 64 := by
    rw [(aligned_run tr s hrun).buffInd i]; exact Nat.mod_lt _ (by decide)
  intro tr2 s2 hrun2 hk
  have hinv := run_induction
    (fun tr2 s2 => (∀ e ∈ tr2, e.keepsReads = true) → σ.StallInv i j s tr2 s2)
    (fun _ => ⟨hst, rfl, rfl, rfl, rfl, .inl rfl⟩)
    (fun _ _ e _ _ ih h he => stallInv_step hb (ih fun e' h' => he e' (by simp [h']))
      (he e (by simp)) h) tr2 s2 hrun2 hk
  refine ⟨hinv.releases, hinv.delivered, ?_⟩
  rcases hinv.bound with h | h <;> omega

end Setup

/-- Two channels.  In the first epoch channel 1 runs two transfers ahead of channel
0, and an `'r'` restarts both reads; after the release only reader 0 enters its read
before a second `'r'` is carried out, so its read is canceled and reader 1's start
is missed. -/
def missedCancelRun : List Event :=
  [.fifoOpen true, .readerStep 0 .allOk, .readerStep 1 .allOk, .barrierRelease, .readStart 0,
    .readStart 1, .callback 1 [1, 1], .callback 1 [1, 1], .callback 1 [1, 1],
    .callback 1 [1, 1], .callback 0 [1, 1], .callback 0 [1, 1], .coordCheck,
    .coordEmit 0 .allOk, .latch (.reconfigure 0 0 0), .coordCheck, .coordEmit 0 .allOk,
    .asyncReturn 0, .asyncReturn 1, .readerStep 0 .allOk, .readerStep 1 .allOk,
    .barrierRelease, .readStart 0, .callback 0 [1, 1], .latch (.reconfigure 0 0 0),
    .coordCheck, .coordEmit 0 .allOk, .asyncReturn 0]

theorem missed_cancel_writes_nothing_more :
    ∃ s, Setup.pair.run (Setup.pair.loopEntry (fun _ _ => 0) fun _ => .idle) missedCancelRun =
        some s ∧ (s.rtlReceivers 0).buffInd - s.readBuffInd = 0 ∧
      ∀ tr2 s2, Setup.pair.run s tr2 = some s2 → (∀ e ∈ tr2, e.keepsReads = true) →
        releases tr2 = 0 ∧ delivered 0 tr2 = [] ∧
          frames tr2 ≤ (s.rtlReceivers 0).buffInd - s.readBuffInd :=
  ⟨_, rfl, rfl, Setup.missed_cancel_stalls (j := 1) pair_startup
    (show Setup.pair.run _ missedCancelRun = some _ from rfl)
    ⟨rfl, rfl, by decide, by decide, .inl rfl, .inl rfl⟩⟩

end RtlDaq
