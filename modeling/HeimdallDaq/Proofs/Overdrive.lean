/-
The overdrive flags of a frame, and which slot they describe.

`main` ORs bit `i` into `overdrive_flags` for every byte 255 it finds in channel
`i`'s slot `rd_buff_ind`, and copies the flags into the header before any byte of
the payload is written.  The payload loop sets `rd_buff_ind = read_buff_ind %
NUM_BUFF` only afterwards, and only for a DATA or CAL frame.  So the flags of a
frame describe the slot the previous DATA or CAL frame was read from (slot 1, where
`rd_buff_ind` starts, before the first), not the slot the frame itself carries.
Bits from 8 up fall off the `uint8_t`, so no channel past the eighth is ever
flagged.
-/
import HeimdallDaq.Proofs.Alignment

namespace RtlDaq

/-! ### The scan, bit by bit -/

theorem uint8_toNat_or (a b : UInt8) : (a ||| b).toNat = a.toNat ||| b.toNat := by
  show (a.toBitVec ||| b.toBitVec).toNat = _
  simp [UInt8.toNat]

/-- `(uint32_t) overdrive_flags` keeps the value. -/
theorem uint32_ofNat_uint8_toNat (x : UInt8) : (UInt32.ofNat x.toNat).toNat = x.toNat := by
  rw [uint32_ofNat_toNat]; exact Nat.mod_eq_of_lt (Nat.lt_trans x.toNat_lt_size (by decide))

theorem testBit_or_overdriveBit (f : UInt8) (i j : Nat) :
    (f ||| overdriveBit i).toNat.testBit j = true ↔ f.toNat.testBit j = true ∨ (j = i ∧ i < 8) := by
  have hb : (overdriveBit i).toNat = 2 ^ i % 2 ^ 8 := uint8_ofNat_toNat _
  rw [uint8_toNat_or, Nat.testBit_or, hb, Nat.testBit_mod_two_pow, Nat.testBit_two_pow]
  simp only [Bool.or_eq_true, Bool.and_eq_true, decide_eq_true_eq]
  exact or_congr_right (by omega)

private theorem testBit_foldl_scan (p : Nat → Prop) [DecidablePred p] (i j : Nat) :
    ∀ (l : List Nat) (f : UInt8),
      (l.foldl (fun f n => if p n then f ||| overdriveBit i else f) f).toNat.testBit j = true ↔
        f.toNat.testBit j = true ∨ (j = i ∧ i < 8 ∧ ∃ n ∈ l, p n) := by
  intro l
  induction l with
  | nil => simp
  | cons n l ih =>
    intro f
    rw [List.foldl_cons, ih]
    by_cases hp : p n
    · rw [if_pos hp, testBit_or_overdriveBit]
      constructor
      · rintro ((h | ⟨rfl, h8⟩) | ⟨rfl, h8, m, hm, hpm⟩)
        exacts [.inl h, .inr ⟨rfl, h8, n, List.mem_cons_self _ _, hp⟩,
          .inr ⟨rfl, h8, m, List.mem_cons_of_mem _ hm, hpm⟩]
      · rintro (h | ⟨rfl, h8, -⟩)
        exacts [.inl (.inl h), .inl (.inr ⟨rfl, h8⟩)]
    · rw [if_neg hp]
      simp only [List.mem_cons, exists_eq_or_imp, hp, false_or]

/-- Channel `i`'s part of the scan sets bit `i`, if it fits in a byte, exactly when
slot `rd` holds a 255, and touches no other bit. -/
theorem testBit_scanChannel (B : Nat) (ring : Nat → UInt8) (rd i : Nat) (f : UInt8) (j : Nat) :
    (scanChannel B ring rd i f).toNat.testBit j = true ↔
      f.toNat.testBit j = true ∨ (j = i ∧ i < 8 ∧ (255 : UInt8) ∈ slotBytes B ring rd) := by
  rw [scanChannel, testBit_foldl_scan]
  simp only [slotBytes, List.mem_map, List.mem_range, eq_comm (a := (255 : UInt8))]

private theorem testBit_foldl_channels (B : Nat) (rings : Nat → Nat → UInt8) (rd j : Nat) :
    ∀ (l : List Nat) (f : UInt8),
      (l.foldl (fun f i => scanChannel B (rings i) rd i f) f).toNat.testBit j = true ↔
        f.toNat.testBit j = true ∨ (j ∈ l ∧ j < 8 ∧ (255 : UInt8) ∈ slotBytes B (rings j) rd) := by
  intro l
  induction l with
  | nil => simp
  | cons i l ih =>
    intro f
    rw [List.foldl_cons, ih, testBit_scanChannel, List.mem_cons]
    constructor
    · rintro ((h | ⟨rfl, h⟩) | ⟨hl, h⟩)
      exacts [.inl h, .inr ⟨.inl rfl, h⟩, .inr ⟨.inr hl, h⟩]
    · rintro (h | ⟨rfl | hl, h⟩)
      exacts [.inl (.inl h), .inl (.inr ⟨rfl, h⟩), .inr ⟨hl, h⟩]

/-- **The overdrive scan.**  Starting from the flags `f`, bit `j` ends up set
exactly when it was set, or `j` is a channel below 8 whose slot `rd` holds a 255. -/
theorem testBit_overdriveScan (B chNo : Nat) (rings : Nat → Nat → UInt8) (rd : Nat)
    (f : UInt8) (j : Nat) :
    (overdriveScan B chNo rings rd f).toNat.testBit j = true ↔
      f.toNat.testBit j = true ∨ (j < chNo ∧ j < 8 ∧ (255 : UInt8) ∈ slotBytes B (rings j) rd) := by
  rw [overdriveScan, testBit_foldl_channels, List.mem_range]

/-! ### Where `rd_buff_ind` points -/

/-- The slot `rd_buff_ind` names once the frames `out` are written: the slot the
latest DATA or CAL frame among them was read from, or slot 1 if there is none. -/
def lastDataSlot (out : List Frame) : Nat :=
  out.foldl (fun rd f =>
    if f.header.frameType = .dummy then rd else f.header.daqBlockIndex.toNat % numBuff) 1

@[simp] theorem lastDataSlot_nil : lastDataSlot [] = 1 := rfl

@[simp] theorem lastDataSlot_snoc (out : List Frame) (f : Frame) :
    lastDataSlot (out ++ [f]) = if f.header.frameType = .dummy then lastDataSlot out
      else f.header.daqBlockIndex.toNat % numBuff := by
  simp [lastDataSlot, List.foldl_append]

/-- What the scan starts from in every reachable state: no flag carried over from
the last frame, and `rd_buff_ind` at the slot of the latest DATA or CAL frame. -/
structure ScanInv (σ : Setup) (s : Sys) : Prop where
  flags : s.overdriveFlags = 0
  rd : 0 < σ.chNo → s.rdBuffInd = lastDataSlot s.out

namespace Setup

variable {σ : Setup}

theorem scanInv_step {s s' : Sys} {e : Event} (hi : ScanInv σ s) (h : σ.step s e = some s') :
    ScanInv σ s' := by
  have hsc := σ.step_scanState h
  have hout := (σ.step_out h).1
  cases e with
  | coordEmit now res =>
    simp only [Event.emits, if_true, Prod.mk.injEq] at hsc
    refine ⟨hsc.2, fun hc => ?_⟩
    simp only [hout, frameOf, Option.toList_some, lastDataSlot_snoc, emitted_frameType_eq_dummy,
      emitted_daqBlockIndex, uint32_ofNat_toNat, hsc.1, Nat.pos_iff_ne_zero.mp hc, decide_False,
      Bool.or_false]
    cases s.enDummyFrame
    · simp only [Bool.false_eq_true, if_false, numBuff]; omega
    · exact hi.rd hc
  | _ =>
    simp only [Event.emits, Bool.false_eq_true, if_false, Prod.mk.injEq] at hsc
    have ho : s'.out = s.out := by simpa [frameOf] using hout
    exact ⟨hsc.2.trans hi.flags, fun hc => by rw [ho, hsc.1]; exact hi.rd hc⟩

theorem scanInv_run {rings : Nat → Nat → UInt8} {dev0 : Int → Device} :
    ∀ tr s, σ.run (σ.loopEntry rings dev0) tr = some s → ScanInv σ s :=
  run_induction _ ⟨rfl, fun _ => rfl⟩ fun _ _ _ _ _ hi h => scanInv_step hi h

/-- **The flags of a frame describe the previous DATA or CAL frame's slot.**  In
every frame the coordinator writes, bit `j` of `adc_overdrive_flags` is set exactly
when `j` is a channel below 8 and the slot the latest DATA or CAL frame before it
was read from (slot 1 if none) holds a 255 in channel `j`'s ring. -/
theorem overdrive_flags_previous_slot {openOk : Int → Bool}
    {ring0 : Nat → Option (Nat → UInt8)} {dev0 : Int → Device} {s0 : Sys} {tr : List Event}
    {s s' : Sys} {now : Nat} {res : ControlResults} (h0 : σ.startup openOk ring0 dev0 = some s0)
    (hrun : σ.run s0 tr = some s) (hemit : σ.step s (.coordEmit now res) = some s') :
    s'.out = s.out ++ [σ.emitted s now] ∧ ∀ j,
      ((σ.emitted s now).header.adcOverdriveFlags.toNat.testBit j = true ↔
        j < σ.chNo ∧ j < 8 ∧
          (255 : UInt8) ∈ slotBytes σ.bufferSize (s.rtlReceivers j).buffer (lastDataSlot s.out)) := by
  rw [σ.startup_eq_some h0] at hrun
  have hi := scanInv_run tr s hrun
  refine ⟨by simpa [frameOf] using (σ.step_out hemit).1, fun j => ?_⟩
  show (UInt32.ofNat (overdriveScan _ _ _ _ _).toNat).toNat.testBit j = true ↔ _
  rw [uint32_ofNat_uint8_toNat, testBit_overdriveScan, hi.flags]
  simp only [UInt8.toNat_zero, Nat.zero_testBit, Bool.false_eq_true, false_or]
  constructor
  · rintro ⟨hj, h8, h⟩; exact ⟨hj, h8, hi.rd (by omega) ▸ h⟩
  · rintro ⟨hj, h8, h⟩; exact ⟨hj, h8, (hi.rd (by omega)).symm ▸ h⟩

end Setup

theorem first_frame_flags_read_slot_one :
    ∃ s0 s s', Setup.single.startup (fun _ => true) (fun _ => some fun _ => 0)
        (fun _ => .idle) = some s0 ∧ Setup.single.run s0 firstBlock = some s ∧
      Setup.single.step s (.coordEmit 0 .allOk) = some s' ∧
      (Setup.single.emitted s 0).header.adcOverdriveFlags.toNat.testBit 0 = false := by
  obtain ⟨s0, s, h0, hrun, hemit⟩ := @Setup.startup_run_snoc .single (fun _ => true)
    (fun _ => some fun _ => 0) (fun _ => .idle) firstBlock (.coordEmit 0 .allOk) _ rfl
  have ha := Setup.aligned_run firstBlock s (Setup.startup_eq_some _ h0 ▸ hrun)
  refine ⟨s0, s, _, h0, hrun, hemit, Bool.eq_false_iff.mpr fun h => ?_⟩
  have h1 := ((Setup.overdrive_flags_previous_slot h0 hrun hemit).2 0).mp h
  rw [List.length_eq_zero.mp ha.out, ha.buffer] at h1
  exact absurd h1.2.2 (by decide)

/-- The first frame after one transfer `[7, 255]`: a DATA frame whose payload holds
a 255, with no overdrive flag, because the scan read slot 1. -/
theorem first_frame_overdrive_unflagged :
    ∃ s0 s s', Setup.single.startup (fun _ => true) (fun _ => some fun _ => 0)
        (fun _ => .idle) = some s0 ∧ Setup.single.run s0 firstBlock = some s ∧
      Setup.single.step s (.coordEmit 0 .allOk) = some s' ∧
      (Setup.single.emitted s 0).header.frameType = .data ∧
      (255 : UInt8) ∈ (Setup.single.emitted s 0).payload ∧
      (Setup.single.emitted s 0).header.adcOverdriveFlags = 0 :=
  ⟨_, _, _, rfl, rfl, rfl, by decide, by decide, by decide⟩

end RtlDaq
