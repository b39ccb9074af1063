/-
Every frame is one block, and the same block from every channel.

The coordinator never looks at which transfers arrived; it compares counters.
`Aligned` says what those counters and rings are, read off the run: each channel's
`buff_ind` is the number of transfers it was handed, its ring is the replay of
those transfers, `read_buff_ind` is the number of frames written, and no channel is
behind it.  All four are 64-bit counters; since `NUM_BUFF` divides `2^64`, the slot
a counter names is the slot the true count names, and the wrap costs nothing.

Every copy the run made stayed inside its ring, or the step would have had no
outcome; so the slots written so far do not wrap, and are disjoint.  From
`Aligned` and `slotBytes_ringFill`, frame `k` is then transfer `k` of every
channel, provided no channel has lapped the ring.
-/
import HeimdallDaq.Proofs.Slots
import HeimdallDaq.Proofs.Window

namespace RtlDaq

/-- What the coordinator can rely on about the channels after the run `tr` from the
loop entry with rings `rings`. -/
structure Aligned (σ : Setup) (rings : Nat → Nat → UInt8) (tr : List Event) (s : Sys) :
    Prop where
  /-- Each `buff_ind` counts the transfers its channel was handed. -/
  buffInd : ∀ i, (s.rtlReceivers i).buffInd = (delivered i tr).length % 2 ^ 64
  /-- Each ring is the replay of those transfers over what `malloc` returned. -/
  buffer : ∀ i, (s.rtlReceivers i).buffer = ringFill σ.bufferSize (rings i) 0 (delivered i tr)
  /-- `read_buff_ind` counts the frames written. -/
  readBuffInd : s.readBuffInd = frames tr % 2 ^ 64
  out : s.out.length = frames tr
  /-- No channel is behind the coordinator. -/
  behind : ∀ i < σ.chNo, frames tr ≤ (delivered i tr).length
  /-- Transfer `n` of each channel was copied inside its ring. -/
  inRing : ∀ i n b, (delivered i tr)[n]? = some b →
    slotOffset σ.bufferSize (n % numBuff) + b.length ≤ σ.ringAllocSize

namespace Setup

variable {σ : Setup}

theorem dataReady_iff {s : Sys} :
    σ.dataReady s = true ↔ ∀ i < σ.chNo, s.readBuffInd < (s.rtlReceivers i).buffInd := by
  simp [dataReady]

theorem aligned_loopEntry (rings : Nat → Nat → UInt8) (dev0 : Int → Device) :
    Aligned σ rings [] (σ.loopEntry rings dev0) :=
  ⟨fun _ => rfl, fun _ => rfl, rfl, rfl, fun _ _ => Nat.le_refl 0, fun _ _ _ h => by simp at h⟩

/-- A ready channel has delivered past the frame about to be written. -/
theorem ready_of_aligned {rings : Nat → Nat → UInt8} {tr : List Event} {s : Sys}
    (ha : Aligned σ rings tr s) (hr : σ.dataReady s = true) :
    ∀ i < σ.chNo, frames tr + 1 ≤ (delivered i tr).length := by
  intro i hi
  have h1 := dataReady_iff.mp hr i hi
  have h2 := ha.behind i hi
  rw [ha.readBuffInd, ha.buffInd] at h1
  by_contra hc
  have : (delivered i tr).length = frames tr := by omega
  rw [this] at h1
  exact Nat.lt_irrefl _ h1

/-- The transfer a step hands a channel was copied inside its ring. -/
theorem step_writeInRing {s s' : Sys} {e : Event} (h : σ.step s e = some s') {i : Nat}
    {b : List UInt8} (hd : e.deliveredTo i = some b) : σ.writeInRing s i b := by
  cases e with
  | callback j buf =>
    obtain ⟨⟨-, -, hw⟩, -⟩ := step_callback.mp h
    by_cases hji : j = i
    · subst hji; simp only [Event.deliveredTo, if_true, Option.some.injEq] at hd; exact hd ▸ hw
    · simp [Event.deliveredTo, hji] at hd
  | _ => simp [Event.deliveredTo] at hd

theorem aligned_step {rings : Nat → Nat → UInt8} {tr : List Event} {s s' : Sys} {e : Event}
    (ha : Aligned σ rings tr s) (h : σ.step s e = some s') : Aligned σ rings (tr ++ [e]) s' := by
  obtain ⟨hout, hrd⟩ := σ.step_out h
  have hring : ∀ i, (s'.rtlReceivers i).buffInd = (delivered i (tr ++ [e])).length % 2 ^ 64 ∧
      (s'.rtlReceivers i).buffer =
        ringFill σ.bufferSize (rings i) 0 (delivered i (tr ++ [e])) := by
    intro i
    have hr := σ.step_ringState h i
    simp only [delivered_snoc]
    cases hd : e.deliveredTo i with
    | none =>
      simp only [hd, ringState, Prod.mk.injEq] at hr
      simpa [hr.1, hr.2] using ⟨ha.buffInd i, ha.buffer i⟩
    | some b =>
      simp only [hd, ringState, Prod.mk.injEq] at hr
      have hi := ha.buffInd i
      rw [hr.1, hr.2, ha.buffer i, hi, Option.toList_some, ringFill_snoc, List.length_append,
        List.length_singleton]
      refine ⟨by omega, ?_⟩
      rw [show (delivered i tr).length % 2 ^ 64 % numBuff = (0 + (delivered i tr).length) % numBuff by
        simp only [numBuff]; omega]
  have hemit : e.emits = true → ∀ i < σ.chNo, frames tr + 1 ≤ (delivered i tr).length := by
    intro he
    cases e with
    | coordEmit => exact ready_of_aligned ha (step_coordEmit.mp h).1.2.1
    | _ => simp [Event.emits] at he
  have hin : ∀ i n b, (delivered i (tr ++ [e]))[n]? = some b →
      slotOffset σ.bufferSize (n % numBuff) + b.length ≤ σ.ringAllocSize := by
    intro i
    rw [delivered_snoc]
    cases hd : e.deliveredTo i with
    | none => simpa using ha.inRing i
    | some b =>
      refine forall_getElem?_snoc (ha.inRing i) ?_
      have hw := step_writeInRing h hd
      unfold writeInRing at hw
      rwa [ha.buffInd i, show (delivered i tr).length % 2 ^ 64 % numBuff =
        (delivered i tr).length % numBuff by simp only [numBuff]; omega] at hw
  refine ⟨fun i => (hring i).1, fun i => (hring i).2, ?_, ?_, fun i hi => ?_, hin⟩
  · rw [hrd, ha.readBuffInd, frames_snoc]
    cases e.emits <;> simp
  · rw [hout, List.length_append, ha.out, frames_snoc]
    cases e <;> rfl
  · simp only [frames_snoc, delivered_snoc, List.length_append]
    cases he : e.emits
    · simpa using Nat.le_add_right_of_le (ha.behind i hi)
    · simpa using Nat.le_add_right_of_le (hemit he i hi)

/-- **The counters and rings of every run.** -/
theorem aligned_run {rings : Nat → Nat → UInt8} {dev0 : Int → Device} :
    ∀ tr s, σ.run (σ.loopEntry rings dev0) tr = some s → Aligned σ rings tr s :=
  run_induction _ (aligned_loopEntry rings dev0) fun _ _ _ _ _ ha h => aligned_step ha h

/-- The payload of a data frame, slot by slot, once the rings are known. -/
theorem emitted_payload {rings : Nat → Nat → UInt8} {tr : List Event} {s : Sys} (now : Nat)
    (ha : Aligned σ rings tr s) (hd : s.enDummyFrame = false) :
    (σ.emitted s now).payload = ((List.range σ.chNo).map fun i =>
      slotBytes σ.bufferSize (ringFill σ.bufferSize (rings i) 0 (delivered i tr))
        (frames tr % numBuff)).flatten := by
  simp only [emitted, framePayload, hd, ha.readBuffInd, ha.buffer, Bool.false_eq_true, if_false]
  congr 2; funext i; congr 1; simp only [numBuff]; omega

/-- **Frame `k` is block `k` of every channel.**  The frame the coordinator writes
after `k` frames carries block index `k` modulo `2^32`, comes only once every channel
has delivered transfer `k`, and, if it is a data or calibration frame whose
transfers all filled a slot, none of which the channel has since lapped, holds
exactly transfer `k` of each channel in channel order. -/
theorem frame_carries_block {openOk : Int → Bool} {ring0 : Nat → Option (Nat → UInt8)}
    {dev0 : Int → Device} {s0 : Sys} {tr : List Event} {s s' : Sys} {now : Nat}
    {res : ControlResults} (h0 : σ.startup openOk ring0 dev0 = some s0)
    (hrun : σ.run s0 tr = some s) (hemit : σ.step s (.coordEmit now res) = some s') :
    s'.out = s.out ++ [σ.emitted s now] ∧ s.out.length = frames tr ∧
      (σ.emitted s now).header.daqBlockIndex.toNat = frames tr % 2 ^ 32 ∧
      (∀ i < σ.chNo, frames tr + 1 ≤ (delivered i tr).length) ∧
      ((σ.emitted s now).header.frameType ≠ .dummy →
        (∀ i < σ.chNo, ∀ b ∈ delivered i tr, b.length = σ.bufferSize) →
        (∀ i < σ.chNo, (delivered i tr).length ≤ frames tr + numBuff) →
        (σ.emitted s now).payload =
          ((List.range σ.chNo).map fun i => (delivered i tr).getD (frames tr) []).flatten) := by
  rw [σ.startup_eq_some h0] at hrun
  have ha := aligned_run tr s hrun
  refine ⟨by simpa [frameOf] using (σ.step_out hemit).1, ha.out, ?_,
    ready_of_aligned ha (step_coordEmit.mp hemit).1.2.1, fun hdata hlen hlead => ?_⟩
  · rw [emitted_daqBlockIndex, uint32_ofNat_toNat, ha.readBuffInd]; omega
  · rw [Ne, emitted_frameType_eq_dummy, Bool.not_eq_true] at hdata
    rw [emitted_payload now ha hdata]
    congr 1
    refine List.map_congr_left fun i hi => ?_
    have hi : i < σ.chNo := List.mem_range.mp hi
    have hk := (ready_of_aligned ha (step_coordEmit.mp hemit).1.2.1) i hi
    have hB := slots_unwrapped (Nat.mod_lt _ (by decide)) (ha.inRing i) (hlen i hi)
    rw [slotBytes_ringFill hB (hlen i hi) hk (hlead i hi), List.getD_eq_getElem?_getD,
      List.getElem?_eq_getElem hk, Option.getD_some]

end Setup

/-- One tuner configured, released and reading, one transfer `[7, 255]`, then the
coordinator at the head of its loop. -/
def firstBlock : List Event :=
  [.readerStep 0 .allOk, .barrierRelease, .readStart 0, .callback 0 [7, 255], .coordCheck]

/-- Two tuners configured, released and reading; tuner 0 delivers two transfers
and tuner 1 one, then the coordinator comes to the head of its loop. -/
def pairBlock : List Event :=
  [.readerStep 0 .allOk, .readerStep 1 .allOk, .barrierRelease, .readStart 0, .readStart 1,
    .callback 0 [7, 255], .callback 0 [1, 2], .callback 1 [3, 4], .coordCheck]

theorem first_frame_carries_block :
    ∃ s0 s s', Setup.pair.startup (fun _ => true) (fun _ => some fun _ => 0)
        (fun _ => .idle) = some s0 ∧ Setup.pair.run s0 pairBlock = some s ∧
      Setup.pair.step s (.coordEmit 0 .allOk) = some s' ∧
      (Setup.pair.emitted s 0).payload = [7, 255, 3, 4] := by
  obtain ⟨s0, s, h0, hrun, hemit⟩ := @Setup.startup_run_snoc .pair (fun _ => true)
    (fun _ => some fun _ => 0) (fun _ => .idle) pairBlock (.coordEmit 0 .allOk) _ rfl
  have hw := Setup.windowInv_run pairBlock s (Setup.startup_eq_some _ h0 ▸ hrun)
  refine ⟨s0, s, _, h0, hrun, hemit, (Setup.frame_carries_block h0 hrun hemit).2.2.2.2 ?_
    (by decide) (by decide)⟩
  rw [Ne, Setup.emitted_frameType_eq_dummy, hw.active]; decide

end RtlDaq
