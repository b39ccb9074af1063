/-
The reader threads' protocol.

Each `read_thread_entry` thread goes round one loop: configure its tuner, wait at
`rtl_init_barrier`, call `rtlsdr_read_async` and read until the read is canceled,
and start again.  The barrier has `ch_no` parties, so it lets the readers go only
once every one of them waits; each then enters its read on its own.  The
coordinator cancels, on a reconfiguration request or when it leaves its loop, the
reads running at that moment: `rtlsdr_cancel_async` stops only a running read, so
a reader the barrier has let go that has not yet entered its read is not
canceled.  Over every interleaving:

* the readers go round in lockstep: between two releases each configures its tuner
  exactly once (`ReaderInv.lockstep`);
* the reads are restarted only on request: after the first release, every release
  is paid for by a latched `'r'` command (`ReaderInv.budget`).
-/
import HeimdallDaq.Proofs.Frame

namespace RtlDaq

/-! ### What a run counts -/

namespace Event

/-- The event is a pass of reader thread `i`'s loop. -/
def configures (i : Nat) : Event → Bool
  | .readerStep j _ => j == i
  | _ => false

/-- The event is a release of `rtl_init_barrier`. -/
def isRelease : Event → Bool
  | .barrierRelease => true
  | _ => false

/-- The event latches a reconfiguration command (`'r'`). -/
def isRestartRequest : Event → Bool
  | .latch (.reconfigure _ _ _) => true
  | _ => false

/-- None of the three counts moves. -/
def uncounted (e : Event) : Prop :=
  (∀ i, e.configures i = false) ∧ e.isRelease = false ∧ e.isRestartRequest = false

end Event

/-- How many passes reader thread `i` made in the run. -/
def configs (i : Nat) (tr : List Event) : Nat := tr.countP (Event.configures i)

/-- How many times the run released the barrier. -/
def releases (tr : List Event) : Nat := tr.countP Event.isRelease

/-- How many reconfiguration commands the run latched. -/
def restartRequests (tr : List Event) : Nat := tr.countP Event.isRestartRequest

@[simp] theorem configs_snoc (i : Nat) (tr : List Event) (e : Event) :
    configs i (tr ++ [e]) = configs i tr + if e.configures i then 1 else 0 := by
  simp [configs, List.countP_append, List.countP_cons]

@[simp] theorem releases_snoc (tr : List Event) (e : Event) :
    releases (tr ++ [e]) = releases tr + if e.isRelease then 1 else 0 := by
  simp [releases, List.countP_append, List.countP_cons]

@[simp] theorem restartRequests_snoc (tr : List Event) (e : Event) :
    restartRequests (tr ++ [e]) = restartRequests tr + if e.isRestartRequest then 1 else 0 := by
  simp [restartRequests, List.countP_append, List.countP_cons]

/-- How far reader `p` is into the current epoch: one pass made once it waits at the
barrier or has ended, none once released, while it reads, or with its pass still
to make. -/
def ReaderPc.ahead (p : ReaderPc) : Nat := if p = .atBarrier ∨ p = .exited then 1 else 0

/-! ### The readers' states -/

namespace Setup

variable (σ : Setup)

/-- The readers after `rtlsdr_cancel_async` on every channel: a running read is
being canceled, every other reader is where it was. -/
def cancelReads (r : Nat → ReaderPc) : Nat → ReaderPc :=
  fun i => if i < σ.chNo ∧ r i = .reading then .canceling else r i

/-- A release of the barrier can still come without a new request: some reader is
neither released nor reading, and once `exit_flag` is set every reader already
waits at the barrier (any other ends its thread at its next loop test). -/
def ReleasePending (r : Nat → ReaderPc) (exitFlag : Bool) : Prop :=
  (∃ i < σ.chNo, r i ≠ .reading ∧ r i ≠ .released) ∧
    (exitFlag = true → ∀ i < σ.chNo, r i = .atBarrier)

instance (r : Nat → ReaderPc) (x : Bool) : Decidable (σ.ReleasePending r x) :=
  inferInstanceAs (Decidable (_ ∧ _))

/-- What every run from the loop entry keeps of the readers, with `tr` the run. -/
structure ReaderInv (tr : List Event) (s : Sys) : Prop where
  lockstep : ∀ i < σ.chNo, configs i tr = releases tr + (s.reader i).ahead
  budget : 0 < σ.chNo → releases tr + (if σ.ReleasePending s.reader s.exitFlag then 1 else 0) +
    (if s.reconfigTrigger then 1 else 0) ≤ 1 + restartRequests tr

variable {σ} {s s' : Sys} {e : Event} {tr : List Event}

theorem shutdown_reader : (σ.shutdown s).reader = σ.cancelReads s.reader := rfl

theorem cancelAsync_reader :
    (σ.cancelAsync s).reader = if s.reconfigTrigger then σ.cancelReads s.reader else s.reader := by
  unfold cancelAsync; split <;> rfl

theorem ahead_cancelReads (r : Nat → ReaderPc) (i : Nat) :
    (σ.cancelReads r i).ahead = (r i).ahead := by
  unfold cancelReads; split_ifs with h
  · rw [h.2]; rfl
  · rfl

/-- Canceling reads and setting `exit_flag` make no release pending that was not. -/
theorem releasePending_of_cancelReads {r : Nat → ReaderPc} (hn : 0 < σ.chNo)
    (h : σ.ReleasePending (σ.cancelReads r) true) : σ.ReleasePending r true := by
  have hb : ∀ i < σ.chNo, r i = .atBarrier := fun i hi => by
    have := h.2 rfl i hi
    unfold cancelReads at this; split_ifs at this with hc
    · exact this
  exact ⟨⟨0, hn, by simp [hb 0 hn]⟩, fun _ => hb⟩

theorem releasePending_mono {r : Nat → ReaderPc} {x x' : Bool} (hx : x = true → x' = true)
    (h : σ.ReleasePending r x') : σ.ReleasePending r x :=
  ⟨h.1, fun h1 => h.2 (hx h1)⟩

private theorem ind_le {p q : Prop} [Decidable p] [Decidable q] (h : p → q) :
    (if p then 1 else 0 : Nat) ≤ if q then 1 else 0 := by
  by_cases hp : p
  · simp [hp, h hp]
  · simp [hp]

/-- An event that neither releases the barrier nor latches `'r'` keeps the budget when
it adds no pending release or trigger that it does not take away. -/
theorem budget_snoc (he : e.isRelease = false) (hq : e.isRestartRequest = false) {p t p' t' : Nat}
    (h1 : releases tr + p + t ≤ 1 + restartRequests tr) (h2 : p' + t' ≤ p + t) :
    releases (tr ++ [e]) + p' + t' ≤ 1 + restartRequests (tr ++ [e]) := by
  simp only [releases_snoc, restartRequests_snoc, he, hq, Bool.false_eq_true, ↓reduceIte]
  omega

theorem readerInv_loopEntry (rings : Nat → Nat → UInt8) (dev0 : Int → Device) :
    σ.ReaderInv [] (σ.loopEntry rings dev0) where
  lockstep := fun _ _ => rfl
  budget := fun _ => by
    show 0 + _ + 0 ≤ 1 + 0
    split <;> omega

/-- What a reader's pass changes of what the protocol looks at. -/
theorem readThreadEntry_readers (s : Sys) (i : Nat) (res : TunerResults) :
    (σ.readThreadEntry s i res).reader =
        Function.update s.reader i (if s.exitFlag then .exited else .atBarrier) ∧
      (σ.readThreadEntry s i res).exitFlag = s.exitFlag ∧
      (σ.readThreadEntry s i res).reconfigTrigger = s.reconfigTrigger := by
  unfold readThreadEntry; split <;> simp [*]

/-- What a coordinator pass changes of what the protocol looks at. -/
theorem tunerControl_readers (s : Sys) (now : Nat) (res : ControlResults) :
    (σ.tunerControl (σ.emitFrame s now) res).reader = (σ.cancelAsync s).reader ∧
      (σ.tunerControl (σ.emitFrame s now) res).exitFlag = s.exitFlag ∧
      (σ.tunerControl (σ.emitFrame s now) res).reconfigTrigger = false := by
  obtain ⟨t, ⟨rr, dv, rfl, -⟩, e⟩ := σ.coordEmit_eq s now res
  have hr := congrArg Sys.reader e
  have hx := congrArg Sys.exitFlag e
  have ht := congrArg Sys.reconfigTrigger e
  exact ⟨hr, hx, ht⟩

/-- An event that none of the counts sees, leaves the readers where they were and
the reconfiguration trigger as it was, and can only set `exit_flag`. -/
theorem ReaderInv.keep (hi : σ.ReaderInv tr s) (he : e.uncounted) (hr : s'.reader = s.reader)
    (hx : s.exitFlag = true → s'.exitFlag = true) (ht : s'.reconfigTrigger = s.reconfigTrigger) :
    σ.ReaderInv (tr ++ [e]) s' where
  lockstep := fun i hi' => by simp [he.1 i, he.2.1, hr, hi.lockstep i hi']
  budget := fun hn => budget_snoc he.2.1 he.2.2 (hi.budget hn) <| by
    rw [hr, ht]
    have := ind_le (p := σ.ReleasePending s.reader s'.exitFlag) (releasePending_mono hx)
    omega

/-- A pass of reader `i`: it waits at the barrier, or ends its thread. -/
theorem ReaderInv.readerStep (hi : σ.ReaderInv tr s) {i : Nat} {res : TunerResults}
    (hc : i < σ.chNo ∧ s.reader i = .loopHead) :
    σ.ReaderInv (tr ++ [.readerStep i res]) (σ.readThreadEntry s i res) := by
  obtain ⟨hr, hx, ht⟩ := σ.readThreadEntry_readers s i res
  refine ⟨fun j hj => ?_, fun hn => ?_⟩
  · rw [hr]
    by_cases hji : j = i
    · subst hji
      simp only [configs_snoc, releases_snoc, Event.configures, Event.isRelease, beq_self_eq_true,
        Bool.false_eq_true, ↓reduceIte, Nat.add_zero, Function.update_same, hi.lockstep j hj, hc.2]
      split <;> rfl
    · simp [Event.configures, Event.isRelease, Function.update_noteq hji, hi.lockstep j hj,
        Ne.symm hji]
  · refine budget_snoc (by rfl) (by rfl) (hi.budget hn) ?_
    -- with `exit_flag` set the reader ends, and no release is pending before or after
    have hp : σ.ReleasePending (Function.update s.reader i (if s.exitFlag then .exited else .atBarrier))
        s.exitFlag → σ.ReleasePending s.reader s.exitFlag := fun hp =>
      ⟨⟨i, hc.1, by simp [hc.2]⟩, fun hx' => by
        have := hp.2 hx' i hc.1
        simp [hx'] at this⟩
    rw [hr, hx, ht]
    have := ind_le hp
    omega

/-- The barrier lets every reader go. -/
theorem ReaderInv.barrierRelease (hi : σ.ReaderInv tr s) (hb : σ.allAtBarrier s = true) :
    σ.ReaderInv (tr ++ [.barrierRelease]) (σ.barrierRelease s) := by
  have hb : ∀ i < σ.chNo, s.reader i = .atBarrier := by simpa [allAtBarrier] using hb
  refine ⟨fun i hi' => ?_, fun hn => ?_⟩
  · simp [Setup.barrierRelease, hi', Event.configures, Event.isRelease, hi.lockstep i hi', hb i hi',
      ReaderPc.ahead]
  · have h1 := hi.budget hn
    have hp : σ.ReleasePending s.reader s.exitFlag :=
      ⟨⟨0, hn, by simp [hb 0 hn]⟩, fun _ => hb⟩
    have hq : ¬σ.ReleasePending (σ.barrierRelease s).reader s.exitFlag := fun ⟨⟨i, hi, _, h⟩, _⟩ =>
      h (by simp [Setup.barrierRelease, hi])
    have hx : (σ.barrierRelease s).exitFlag = s.exitFlag := rfl
    have ht : (σ.barrierRelease s).reconfigTrigger = s.reconfigTrigger := rfl
    simp only [releases_snoc, restartRequests_snoc, Event.isRelease, Event.isRestartRequest, hx, ht,
      hp, hq, Bool.false_eq_true, ↓reduceIte, Nat.add_zero] at h1 ⊢
    omega

/-- Reader `i` moves on its own to `q`, by an event none of the counts sees, from
where it neither waits at the barrier nor has ended, to where it does neither
either.  If `q` is neither released nor reading, nor was where it came from. -/
theorem ReaderInv.move (hi : σ.ReaderInv tr s) (he : e.uncounted) {i : Nat} {q : ReaderPc}
    (hp : (s.reader i).ahead = 0) (hq : q.ahead = 0)
    (hstart : q ≠ .reading ∧ q ≠ .released → s.reader i ≠ .reading ∧ s.reader i ≠ .released) :
    σ.ReaderInv (tr ++ [e]) { s with reader := Function.update s.reader i q } := by
  have keep : ∀ j, j ≠ i → Function.update s.reader i q j = s.reader j :=
    fun j hj => Function.update_noteq hj _ _
  have hqb : q ≠ .atBarrier := fun h => by simp [h, ReaderPc.ahead] at hq
  refine ⟨fun j hj => ?_, fun hn => ?_⟩
  · by_cases hji : j = i
    · subst hji; simp [he.1 j, he.2.1, hi.lockstep j hj, hp, hq]
    · simp [he.1 j, he.2.1, hi.lockstep j hj, keep j hji]
  · refine budget_snoc he.2.1 he.2.2 (hi.budget hn) ?_
    -- the reader that moves is not at the barrier after, so no release is pending
    -- after that was not before
    have hp : σ.ReleasePending (Function.update s.reader i q) s.exitFlag →
        σ.ReleasePending s.reader s.exitFlag := fun ⟨⟨a, ha, h⟩, hx⟩ => by
      refine ⟨?_, fun h1 b hb => ?_⟩
      · by_cases hai : a = i
        · subst hai; exact ⟨a, ha, hstart (by simpa using h)⟩
        · exact ⟨a, ha, by rwa [keep a hai] at h⟩
      · have := hx h1 b hb
        by_cases hbi : b = i
        · subst hbi; simp [hqb] at this
        · rwa [keep b hbi] at this
    have := ind_le hp
    dsimp only
    omega

/-- A released reader enters its read. -/
theorem ReaderInv.readStart (hi : σ.ReaderInv tr s) {i : Nat} (hc : s.reader i = .released) :
    σ.ReaderInv (tr ++ [.readStart i]) { s with reader := Function.update s.reader i .reading } := by
  refine hi.move ?_ (by rw [hc]; rfl) rfl fun h => absurd rfl h.1
  exact ⟨fun _ => rfl, rfl, rfl⟩

/-- A canceled read returns, and its reader goes back to the head of its loop. -/
theorem ReaderInv.asyncReturn (hi : σ.ReaderInv tr s) {i : Nat} (hc : s.reader i = .canceling) :
    σ.ReaderInv (tr ++ [.asyncReturn i]) { s with reader := Function.update s.reader i .loopHead } := by
  refine hi.move ?_ (by rw [hc]; rfl) rfl fun _ => by simp [hc]
  exact ⟨fun _ => rfl, rfl, rfl⟩

/-- The coordinator leaves its loop and cancels every running read. -/
theorem ReaderInv.shutdown (hi : σ.ReaderInv tr s) (hx : s.exitFlag = true) :
    σ.ReaderInv (tr ++ [.coordCheck]) (σ.shutdown s) := by
  refine ⟨fun i hi' => ?_, fun hn => ?_⟩
  · simp [Event.configures, Event.isRelease, shutdown_reader, ahead_cancelReads, hi.lockstep i hi']
  · refine budget_snoc (by rfl) (by rfl) (hi.budget hn) ?_
    have := ind_le (releasePending_of_cancelReads (r := s.reader) hn)
    rw [show (σ.shutdown s).exitFlag = true from hx, hx, shutdown_reader]
    exact Nat.add_le_add_right this _

/-- A coordinator pass: on a reconfiguration request it cancels every running read,
and the request it consumes pays for the release to come. -/
theorem ReaderInv.coordEmit (hi : σ.ReaderInv tr s) {now : Nat} {res : ControlResults} :
    σ.ReaderInv (tr ++ [.coordEmit now res])
      { σ.tunerControl (σ.emitFrame s now) res with coord := .loopHead } := by
  obtain ⟨hr, hx, ht⟩ := σ.tunerControl_readers s now res
  rw [cancelAsync_reader] at hr
  refine ⟨fun i hi' => ?_, fun hn => ?_⟩
  · dsimp only; rw [hr]
    split <;> simp [Event.configures, Event.isRelease, ahead_cancelReads, hi.lockstep i hi']
  · refine budget_snoc (by rfl) (by rfl) (hi.budget hn) ?_
    dsimp only
    rw [hr, hx, ht]
    split <;> split <;> simp_all

/-- **One step keeps the readers' protocol.** -/
theorem readerInv_step (hi : σ.ReaderInv tr s) (h : σ.step s e = some s') :
    σ.ReaderInv (tr ++ [e]) s' := by
  cases e with
  | fifoOpen ok =>
    obtain ⟨-, rfl⟩ := step_fifoOpen.mp h
    exact hi.keep ⟨fun _ => rfl, rfl, rfl⟩ rfl (fun hx => by simp [hx]) rfl
  | latch cmd =>
    obtain ⟨-, rfl⟩ := step_latch.mp h
    cases cmd with
    | reconfigure f r g =>
      refine ⟨fun i hi' => ?_, fun hn => ?_⟩
      · simp only [configs_snoc, releases_snoc, Event.configures, Event.isRelease,
          Bool.false_eq_true, ↓reduceIte, Nat.add_zero]
        exact hi.lockstep i hi'
      · have := hi.budget hn
        simp only [releases_snoc, restartRequests_snoc, Event.isRelease, Event.isRestartRequest,
          Bool.false_eq_true, ↓reduceIte, Nat.add_zero]
        show _ + (if σ.ReleasePending s.reader s.exitFlag then 1 else 0) + 1 ≤ _
        omega
    | _ => exact hi.keep ⟨fun _ => rfl, rfl, rfl⟩ rfl (fun hx => by first | exact hx | rfl) rfl
  | readerStep i res =>
    obtain ⟨hc, rfl⟩ := step_readerStep.mp h
    exact hi.readerStep hc
  | barrierRelease =>
    obtain ⟨hb, rfl⟩ := step_barrierRelease.mp h
    exact hi.barrierRelease hb
  | readStart i =>
    obtain ⟨⟨-, hc⟩, rfl⟩ := step_readStart.mp h
    exact hi.readStart hc
  | callback i buf =>
    obtain ⟨-, rfl⟩ := step_callback.mp h
    exact hi.keep ⟨fun _ => rfl, rfl, rfl⟩ rfl id rfl
  | asyncReturn i =>
    obtain ⟨hc, rfl⟩ := step_asyncReturn.mp h
    exact hi.asyncReturn hc
  | coordCheck =>
    obtain ⟨-, rfl⟩ := step_coordCheck.mp h
    split
    · exact hi.shutdown ‹_›
    · exact hi.keep ⟨fun _ => rfl, rfl, rfl⟩ rfl id rfl
  | coordIdle =>
    obtain ⟨-, rfl⟩ := step_coordIdle.mp h
    exact hi.keep ⟨fun _ => rfl, rfl, rfl⟩ rfl id rfl
  | coordEmit now res =>
    obtain ⟨-, rfl⟩ := step_coordEmit.mp h
    exact hi.coordEmit

theorem readerInv_run {openOk : Int → Bool} {ring0 : Nat → Option (Nat → UInt8)}
    {dev0 : Int → Device} {s0 : Sys} (h0 : σ.startup openOk ring0 dev0 = some s0) :
    ∀ tr s, σ.run s0 tr = some s → σ.ReaderInv tr s := by
  rw [σ.startup_eq_some h0]
  exact run_induction _ (readerInv_loopEntry _ dev0) fun _ _ _ _ _ hi h => readerInv_step hi h

/-! ### Every run -/

variable {openOk : Int → Bool} {ring0 : Nat → Option (Nat → UInt8)} {dev0 : Int → Device}
  {s0 : Sys}

/-- **The readers go round in lockstep.**  After every run from `main`'s startup,
each reader thread has configured its tuner once per release of the barrier, and
once more if it now waits at the barrier or has ended. -/
theorem readers_in_lockstep (h0 : σ.startup openOk ring0 dev0 = some s0) :
    ∀ tr s, σ.run s0 tr = some s → ∀ i < σ.chNo,
      configs i tr = releases tr + if s.reader i = .atBarrier ∨ s.reader i = .exited then 1 else 0 :=
  fun tr s hrun => (readerInv_run h0 tr s hrun).lockstep

/-- **The reads restart only on request.**  With at least one channel, every run
from `main`'s startup releases the barrier at most once more than it latches
reconfiguration commands. -/
theorem restarts_only_on_request (hn : 0 < σ.chNo) (h0 : σ.startup openOk ring0 dev0 = some s0) :
    ∀ tr s, σ.run s0 tr = some s → releases tr ≤ 1 + restartRequests tr := by
  intro tr s hrun
  have := (readerInv_run h0 tr s hrun).budget hn
  omega

end Setup

/-- Two channels; a reconfiguration command cancels both reads, and channel 0 is
back at the barrier while channel 1's read is still returning. -/
def restartRun : List Event :=
  [.readerStep 0 .allOk, .readerStep 1 .allOk, .barrierRelease, .readStart 0, .readStart 1,
    .fifoOpen true,
    .latch (.reconfigure 0 0 0), .coordCheck, .callback 0 [0, 0], .callback 1 [0, 0],
    .coordEmit 0 .allOk, .asyncReturn 0, .readerStep 0 .allOk]

theorem pair_startup : Setup.pair.startup (fun _ => true) (fun _ => some fun _ => 0)
    (fun _ => .idle) = some (Setup.pair.loopEntry (fun _ _ => 0) fun _ => .idle) := rfl

theorem restart_configures_twice :
    ∃ s, Setup.pair.run (Setup.pair.loopEntry (fun _ _ => 0) fun _ => .idle) restartRun = some s ∧
      configs 0 restartRun = 2 ∧ ∀ i < Setup.pair.chNo, configs i restartRun =
        releases restartRun + if s.reader i = .atBarrier ∨ s.reader i = .exited then 1 else 0 :=
  ⟨_, rfl, rfl, Setup.readers_in_lockstep pair_startup _ _ rfl⟩

theorem restart_paid_by_request :
    ∃ s, Setup.pair.run (Setup.pair.loopEntry (fun _ _ => 0) fun _ => .idle) restartRun = some s ∧
      releases restartRun ≤ 1 + restartRequests restartRun :=
  ⟨_, rfl, Setup.restarts_only_on_request (by decide) pair_startup _ _ rfl⟩

end RtlDaq
