/-
The byte stream on stdout, and a reader that splits it back into frames.

Each pass that writes a frame `fwrite`s the header, then, for a DATA or CAL frame,
`buffer_size` bytes of every channel.  The header's `active_ant_chs` and
`cpi_length` are what a reader has to go on: it reads one header and then
`active_ant_chs * 2 * cpi_length` bytes.  That count is the payload's length
because `cpi_length` is 0 exactly when no payload is written, and otherwise
`daq_buffer_size`, half of `buffer_size` when `daq_buffer_size` is not negative.
The constant fields keep their startup values because every header is the
previous one with only the per-frame fields rewritten.
-/
import HeimdallDaq.Proofs.Alignment

namespace RtlDaq

/-! ### Reading the stream back -/

namespace HeaderLayout

variable (L : HeaderLayout)

/-- Modelled from the spec: a reader of the stream.  It reads one header, then
`active_ant_chs * 2 * cpi_length` payload bytes, and starts over until the bytes
run out; it fails if they run out inside a frame, and reads at most `fuel`
frames. -/
def decode : Nat → List UInt8 → Option (List (List UInt8 × List UInt8))
  | 0, bytes => if bytes.isEmpty then some [] else none
  | fuel + 1, bytes =>
    if bytes.isEmpty then some []
    else
      let hdr := bytes.take L.size
      let n := (L.activeAntChsOf hdr).toNat * 2 * (L.cpiLengthOf hdr).toNat
      let rest := bytes.drop L.size
      if hdr.length = L.size ∧ n ≤ rest.length then
        (decode fuel (rest.drop n)).map ((hdr, rest.take n) :: ·)
      else none

/-- The payload length a header announces. -/
def announced (h : IqHeader) : Nat := h.activeAntChs.toNat * 2 * h.cpiLength.toNat

/-- **The reader recovers the frames.**  If every payload is as long as its header
announces, reading the stream gives back each header's bytes and each payload. -/
theorem decode_stream : ∀ (frames : List Frame),
    (∀ f ∈ frames, f.payload.length = announced f.header) →
    ∀ fuel, frames.length ≤ fuel →
      L.decode fuel (L.stream frames) = some (frames.map fun f => (L.encode f.header, f.payload))
  | [], _, fuel, _ => by cases fuel <;> rfl
  | f :: fs, hlen, fuel + 1, hfuel => by
    have hf := hlen f (List.mem_cons_self _ _)
    have hs : L.stream (f :: fs) = L.encode f.header ++ (f.payload ++ L.stream fs) := by
      simp [stream]
    have hne : (L.stream (f :: fs)).isEmpty = false := by
      have := L.size_pos
      rw [hs, List.isEmpty_eq_false, ← List.length_pos, List.length_append, L.length_encode]
      omega
    have hhdr : (L.stream (f :: fs)).take L.size = L.encode f.header := by
      rw [hs, List.take_append_of_le_length (by rw [L.length_encode]), ← L.length_encode f.header,
        List.take_length]
    have hrest : (L.stream (f :: fs)).drop L.size = f.payload ++ L.stream fs := by
      rw [hs, ← L.length_encode f.header, List.drop_left]
    have hn : (L.activeAntChsOf (L.encode f.header)).toNat * 2 *
        (L.cpiLengthOf (L.encode f.header)).toNat = f.payload.length := by
      rw [L.activeAntChsOf_encode, L.cpiLengthOf_encode, hf, announced]
    simp only [decode, hne, hhdr, hrest, hn, L.length_encode, true_and, List.length_append,
      Nat.le_add_right, if_true, List.drop_left, List.take_left, Bool.false_eq_true, if_false]
    rw [decode_stream fs (fun g hg => hlen g (List.mem_cons_of_mem _ hg)) fuel
      (Nat.le_of_succ_le_succ hfuel)]
    rfl

end HeaderLayout

/-! ### The frames of every run -/

/-- The header fields `main` fills once, at their startup values. -/
structure Constants (σ : Setup) (h : IqHeader) : Prop where
  syncWord : h.syncWord = σ.initialHeader.syncWord
  headerVersion : h.headerVersion = σ.initialHeader.headerVersion
  activeAntChs : h.activeAntChs = σ.initialHeader.activeAntChs

/-- What the frames written so far, and the header about to be reused, satisfy. -/
structure StreamInv (σ : Setup) (s : Sys) : Prop where
  header : Constants σ s.iqHeader
  frames : ∀ f ∈ s.out, Constants σ f.header ∧
    f.header.cpiLength = (if f.header.frameType = .dummy then 0 else u32OfInt σ.config.daqBufferSize) ∧
    f.payload.length = if f.header.frameType = .dummy then 0 else σ.chNo * σ.bufferSize

namespace Setup

variable {σ : Setup}

private theorem length_flatten_range {B : Nat} (f : Nat → List UInt8)
    (hf : ∀ i, (f i).length = B) : ∀ n, ((List.range n).map f).flatten.length = n * B
  | 0 => by simp
  | n + 1 => by
    rw [List.range_succ, List.map_append, List.flatten_append, List.length_append,
      length_flatten_range f hf n]
    simp [hf, Nat.succ_mul]

theorem emitted_payload_length (s : Sys) (now : Nat) :
    (σ.emitted s now).payload.length = if s.enDummyFrame then 0 else σ.chNo * σ.bufferSize := by
  simp only [emitted, framePayload]
  split
  · rfl
  · exact length_flatten_range _ (fun _ => length_slotBytes _ _ _) _

theorem streamInv_step {s s' : Sys} {e : Event} (hi : StreamInv σ s) (h : σ.step s e = some s') :
    StreamInv σ s' := by
  have hout := (σ.step_out h).1
  cases e with
  | coordEmit now res =>
    obtain ⟨-, rfl⟩ := step_coordEmit.mp h
    obtain ⟨t, ⟨rr, dv, rfl, -⟩, e⟩ := σ.coordEmit_eq s now res
    have hc : Constants σ (σ.emitted s now).header :=
      ⟨hi.header.syncWord, hi.header.headerVersion, hi.header.activeAntChs⟩
    refine ⟨by rw [e]; exact hc, fun f hf => ?_⟩
    rw [hout] at hf
    rcases List.mem_append.mp hf with hf | hf
    · exact hi.frames f hf
    · obtain rfl : f = σ.emitted s now := by simpa [frameOf] using hf
      refine ⟨hc, ?_, ?_⟩ <;>
        simp only [emitted_cpiLength, emitted_payload_length, emitted_frameType_eq_dummy]
  | latch cmd =>
    obtain ⟨-, rfl⟩ := step_latch.mp h
    have hh : (σ.fifoReadTf s cmd).iqHeader = s.iqHeader := by cases cmd <;> rfl
    exact ⟨hh ▸ hi.header, fun f hf => hi.frames f ((σ.fifoReadTf_out s cmd).1 ▸ hf)⟩
  | fifoOpen => obtain ⟨-, rfl⟩ := step_fifoOpen.mp h; exact ⟨hi.header, hi.frames⟩
  | _ =>
    have hq := step_quiet h rfl
    exact ⟨hq.iqHeader ▸ hi.header, fun f hf => hi.frames f (hq.out ▸ hf)⟩

theorem streamInv_run {rings : Nat → Nat → UInt8} {dev0 : Int → Device} :
    ∀ tr s, σ.run (σ.loopEntry rings dev0) tr = some s → StreamInv σ s :=
  run_induction _ ⟨⟨rfl, rfl, rfl⟩, fun _ h => nomatch h⟩ fun _ _ _ _ _ hi h => streamInv_step hi h

/-- **The stream is the frames, and a reader gets them back.**  For a
non-negative `daq_buffer_size`, every frame written carries the startup
`sync_word`, `header_version` and `active_ant_chs`, and a payload of
`active_ant_chs * 2 * cpi_length` bytes: none for a dummy, `ch_no * buffer_size`
otherwise; so whatever the header's layout, reading the stream header by header
gives back every frame's header bytes and payload, in order. -/
theorem stream_decodes (L : HeaderLayout) (hd : 0 ≤ σ.config.daqBufferSize)
    {openOk : Int → Bool} {ring0 : Nat → Option (Nat → UInt8)} {dev0 : Int → Device}
    {s0 : Sys} {tr : List Event} {s : Sys} (h0 : σ.startup openOk ring0 dev0 = some s0)
    (hrun : σ.run s0 tr = some s) :
    (∀ f ∈ s.out, Constants σ f.header ∧
      f.payload.length = HeaderLayout.announced f.header ∧
      f.payload.length = if f.header.frameType = .dummy then 0 else σ.chNo * σ.bufferSize) ∧
    ∀ fuel, s.out.length ≤ fuel →
      L.decode fuel (L.stream s.out) = some (s.out.map fun f => (L.encode f.header, f.payload)) := by
  rw [σ.startup_eq_some h0] at hrun
  have hi := streamInv_run tr s hrun
  have hann : ∀ f ∈ s.out, f.payload.length = HeaderLayout.announced f.header := by
    intro f hf
    obtain ⟨hc, hcpi, hlen⟩ := hi.frames f hf
    have hb := bufferSize_eq hd
    have hcin := σ.config.daqBufferSize_cInt
    have hch := σ.chNo_lt
    unfold IsCInt at hcin
    rw [HeaderLayout.announced, hlen, hcpi, hc.activeAntChs]
    split
    · simp
    · simp only [initialHeader, uint32_ofNat_toNat, u32OfInt_toNat, Nat.mod_eq_of_lt hch]
      have : (toU32 σ.config.daqBufferSize : Int) = σ.config.daqBufferSize :=
        toU32_of_nonneg hd (by omega)
      rw [Nat.mul_assoc]; congr 1; omega
  exact ⟨fun f hf => ⟨(hi.frames f hf).1, hann f hf, (hi.frames f hf).2.2⟩,
    L.decode_stream s.out hann⟩

end Setup

/-! ### A layout to run the reader on -/

/-- `x` as four bytes, least significant first. -/
def le32 (x : UInt32) : List UInt8 :=
  [UInt8.ofNat x.toNat, UInt8.ofNat (x.toNat / 2 ^ 8), UInt8.ofNat (x.toNat / 2 ^ 16),
    UInt8.ofNat (x.toNat / 2 ^ 24)]

/-- The number the first four bytes stand for, least significant first. -/
def ofLe32 : List UInt8 → UInt32
  | b0 :: b1 :: b2 :: b3 :: _ =>
    UInt32.ofNat (b0.toNat + b1.toNat * 2 ^ 8 + b2.toNat * 2 ^ 16 + b3.toNat * 2 ^ 24)
  | _ => 0

theorem ofLe32_le32 (x : UInt32) (rest : List UInt8) : ofLe32 (le32 x ++ rest) = x := by
  apply UInt32.toNat.inj
  have hx := x.toNat_lt_size
  simp only [le32, List.cons_append, List.nil_append, ofLe32, uint8_ofNat_toNat,
    uint32_ofNat_toNat]
  simp only [UInt32.size] at hx
  omega

/-- An example layout: eight bytes, `active_ant_chs` then `cpi_length`. -/
def HeaderLayout.counts : HeaderLayout where
  size := 8
  size_pos := by decide
  encode h := le32 h.activeAntChs ++ le32 h.cpiLength
  length_encode _ := rfl
  activeAntChsOf := ofLe32
  cpiLengthOf bs := ofLe32 (bs.drop 4)
  activeAntChsOf_encode h := ofLe32_le32 _ _
  cpiLengthOf_encode h := by simpa using ofLe32_le32 h.cpiLength []

theorem first_frame_read_back :
    ∃ s0 s, Setup.single.startup (fun _ => true) (fun _ => some fun _ => 0) (fun _ => .idle) =
        some s0 ∧ Setup.single.run s0 (firstBlock ++ [.coordEmit 0 .allOk]) = some s ∧
      (HeaderLayout.counts.decode 1 (HeaderLayout.counts.stream s.out)).map (·.map Prod.snd) =
        some [[7, 255]] := by
  have h0 : Setup.single.startup (fun _ => true) (fun _ => some fun _ => 0) (fun _ => .idle) =
      some _ := rfl
  have hrun : Setup.single.run (Setup.single.loopEntry (fun _ _ => 0) fun _ => .idle)
      (firstBlock ++ [.coordEmit 0 .allOk]) = some _ := rfl
  refine ⟨_, _, h0, hrun, ?_⟩
  rw [(Setup.stream_decodes HeaderLayout.counts (by decide) h0 hrun).2 1 (by decide)]
  decide

end RtlDaq
