/-
Runs, and what a run has done so far.

Every property in this development is about all interleavings at once, so each is
stated over a run `tr` from a state `main` can start the loop in, and proved as an
invariant: true of the empty run, kept by one more enabled event (`run_induction`).
What a property compares the state with is read off the run itself: how many frames
the coordinator has emitted (`frames`), which transfers each channel was handed
(`delivered`), which commands were latched.  Those readings are syntactic because
the coordinator's two ways of waking are two events, so a run says by itself which
of its events wrote a frame.

One inversion lemma per event says everything that event can do; the invariant
proofs never unfold `step`.
-/
import HeimdallDaq.Daq.Step

namespace RtlDaq

/-! ### Reading a run -/

namespace Event

/-- The event writes a frame. -/
def emits : Event → Bool
  | .coordEmit _ _ => true
  | _ => false

/-- The event neither latches a command nor writes a frame. -/
def quiet : Event → Bool
  | .latch _ | .coordEmit _ _ | .fifoOpen _ => false
  | _ => true

/-- The transfer the event hands channel `i`, if it does. -/
def deliveredTo (i : Nat) : Event → Option (List UInt8)
  | .callback j buf => if j = i then some buf else none
  | _ => none

end Event

/-- How many frames the run emitted. -/
def frames (tr : List Event) : Nat := tr.countP Event.emits

/-- The transfers the run handed channel `i`, in order. -/
def delivered (i : Nat) (tr : List Event) : List (List UInt8) := tr.filterMap (Event.deliveredTo i)

@[simp] theorem frames_nil : frames [] = 0 := rfl

@[simp] theorem frames_snoc (tr : List Event) (e : Event) :
    frames (tr ++ [e]) = frames tr + if e.emits then 1 else 0 := by
  unfold frames; rw [List.countP_append]; cases e <;> rfl

@[simp] theorem delivered_nil (i : Nat) : delivered i [] = [] := rfl

@[simp] theorem delivered_snoc (i : Nat) (tr : List Event) (e : Event) :
    delivered i (tr ++ [e]) = delivered i tr ++ (e.deliveredTo i).toList := by
  cases h : e.deliveredTo i <;> simp [delivered, List.filterMap_append, h]

/-! ### Runs -/

namespace Setup

variable (σ : Setup)

@[simp] theorem run_nil (s : Sys) : σ.run s [] = some s := rfl

theorem run_snoc (s : Sys) (tr : List Event) (e : Event) :
    σ.run s (tr ++ [e]) = (σ.run s tr).bind (σ.step · e) := by
  induction tr generalizing s with
  | nil => simp [run, Option.bind_some]
  | cons e' tr ih =>
    simp only [List.cons_append, run]
    cases σ.step s e' <;> simp [ih]

theorem run_append (s : Sys) (tr tr' : List Event) :
    σ.run s (tr ++ tr') = (σ.run s tr).bind (σ.run · tr') := by
  induction tr generalizing s with
  | nil => simp [run]
  | cons e tr ih =>
    simp only [List.cons_append, run]
    cases σ.step s e <;> simp [ih]

variable {σ}

/-- **Invariants of runs.**  A relation between a run and the state it reaches that
holds of the empty run and survives one more enabled event holds of every run. -/
theorem run_induction {s0 : Sys} (I : List Event → Sys → Prop) (h0 : I [] s0)
    (hstep : ∀ tr s e s', σ.run s0 tr = some s → I tr s → σ.step s e = some s' →
      I (tr ++ [e]) s') :
    ∀ tr s, σ.run s0 tr = some s → I tr s := by
  intro tr
  induction tr using List.reverseRecOn with
  | nil => intro s h; cases h; exact h0
  | append_singleton tr e ih =>
    intro s' h
    rw [run_snoc] at h
    obtain ⟨s, hs, he⟩ := Option.bind_eq_some.mp h
    exact hstep tr s e s' hs (ih s hs) he

/-- A property that one step keeps, under a side condition on the event, holds
after every run of such events. -/
theorem run_preserves {P : Sys → Prop} {ok : Event → Bool}
    (hstep : ∀ s s' e, ok e = true → P s → σ.step s e = some s' → P s') {s : Sys} (hs : P s) :
    ∀ tr s', σ.run s tr = some s' → (∀ e ∈ tr, ok e = true) → P s' :=
  run_induction (fun tr s' => (∀ e ∈ tr, ok e = true) → P s') (fun _ => hs)
    fun tr _ e _ _ ih h he => hstep _ _ e (he e (by simp)) (ih fun e' h' => he e' (by simp [h'])) h

/-- A run from `main`'s startup that ends with the event `e`, split at that event. -/
theorem startup_run_snoc {openOk : Int → Bool} {ring0 : Nat → Option (Nat → UInt8)}
    {dev0 : Int → Device} {tr : List Event} {e : Event} {s' : Sys}
    (h : (σ.startup openOk ring0 dev0).bind (σ.run · (tr ++ [e])) = some s') :
    ∃ s0 s, σ.startup openOk ring0 dev0 = some s0 ∧ σ.run s0 tr = some s ∧
      σ.step s e = some s' := by
  obtain ⟨s0, h0, h⟩ := Option.bind_eq_some.mp h
  rw [run_snoc] at h
  obtain ⟨s, hs, he⟩ := Option.bind_eq_some.mp h
  exact ⟨s0, s, h0, hs, he⟩

/-! ### What each event can do -/

variable {s s' : Sys}

private theorem ite_some_eq_some {p : Prop} [Decidable p] {a b : Sys} :
    (if p then some a else none) = some b ↔ p ∧ b = a := by
  by_cases hp : p
  · simp only [hp, if_true, Option.some.injEq, true_and]; exact eq_comm
  · simp [hp]

@[simp] theorem step_fifoOpen {ok : Bool} :
    σ.step s (.fifoOpen ok) = some s' ↔ s.fifo = .opening ∧
      s' = { s with fifo := if ok then .running else .exited, exitFlag := s.exitFlag || !ok } := by
  simp only [step]; exact ite_some_eq_some

@[simp] theorem step_latch {cmd : Command} :
    σ.step s (.latch cmd) = some s' ↔ s.fifo = .running ∧ s' = σ.fifoReadTf s cmd := by
  simp only [step]; exact ite_some_eq_some

@[simp] theorem step_readerStep {i : Nat} {res : TunerResults} :
    σ.step s (.readerStep i res) = some s' ↔
      (i < σ.chNo ∧ s.reader i = .loopHead) ∧ s' = σ.readThreadEntry s i res := by
  simp only [step]; exact ite_some_eq_some

@[simp] theorem step_barrierRelease :
    σ.step s .barrierRelease = some s' ↔ σ.allAtBarrier s ∧ s' = σ.barrierRelease s := by
  simp only [step]; exact ite_some_eq_some

@[simp] theorem step_readStart {i : Nat} :
    σ.step s (.readStart i) = some s' ↔
      (i < σ.chNo ∧ s.reader i = .released) ∧
        s' = { s with reader := Function.update s.reader i .reading } := by
  simp only [step]; exact ite_some_eq_some

@[simp] theorem step_callback {i : Nat} {buf : List UInt8} :
    σ.step s (.callback i buf) = some s' ↔
      (i < σ.chNo ∧ (s.reader i = .reading ∨ s.reader i = .canceling) ∧ σ.writeInRing s i buf) ∧
        s' = σ.rtlsdrCallback s i buf := by
  simp only [step]; exact ite_some_eq_some

@[simp] theorem step_asyncReturn {i : Nat} :
    σ.step s (.asyncReturn i) = some s' ↔
      s.reader i = .canceling ∧ s' = { s with reader := Function.update s.reader i .loopHead } := by
  simp only [step]; exact ite_some_eq_some

@[simp] theorem step_coordCheck :
    σ.step s .coordCheck = some s' ↔ s.coord = .loopHead ∧
      s' = if s.exitFlag then σ.shutdown s else { s with coord := .waiting } := by
  simp only [step]; exact ite_some_eq_some

@[simp] theorem step_coordIdle :
    σ.step s .coordIdle = some s' ↔
      (s.coord = .waiting ∧ σ.dataReady s = false) ∧ s' = { s with coord := .loopHead } := by
  simp only [step]; exact ite_some_eq_some

@[simp] theorem step_coordEmit {now : Nat} {res : ControlResults} :
    σ.step s (.coordEmit now res) = some s' ↔
      (s.coord = .waiting ∧ σ.dataReady s = true ∧ σ.readsInRing s ∧ σ.switchInRange s) ∧
      s' = { σ.tunerControl (σ.emitFrame s now) res with coord := .loopHead } := by
  simp only [step]; exact ite_some_eq_some

end Setup

end RtlDaq
