/-
What a ring holds after a sequence of transfers.

Callback number `n` of a channel writes slot `n % NUM_BUFF`, so the ring after the
transfers `bufs` is a replay of them in order, `ringFill`.  The one fact the
coordinator needs is that slot `k % NUM_BUFF` still holds transfer `k` when the
channel is no more than `NUM_BUFF` transfers past it: the later transfers went to
the other seven slots.  That needs the slots written to be disjoint.  A slot
`slotOffset` does not wrap starts at `buffer_size * k`, and two such slots are
disjoint; and slots written in order, each inside an allocation of fewer than
`2^32` bytes, never wrap (`slots_unwrapped`).
-/
import HeimdallDaq.Proofs.Run

namespace RtlDaq

/-- The ring after the transfers `bufs`, the first of them callback number `n`. -/
def ringFill (B : Nat) (ring : Nat → UInt8) (n : Nat) : List (List UInt8) → Nat → UInt8
  | [] => ring
  | b :: bs => ringFill B (ringWrite B ring (n % numBuff) b) (n + 1) bs

theorem ringFill_append (B : Nat) (ring : Nat → UInt8) (n : Nat) (xs ys : List (List UInt8)) :
    ringFill B ring n (xs ++ ys) = ringFill B (ringFill B ring n xs) (n + xs.length) ys := by
  induction xs generalizing ring n with
  | nil => rfl
  | cons x xs ih =>
    show ringFill B (ringWrite B ring (n % numBuff) x) (n + 1) (xs ++ ys) = _
    rw [ih, List.length_cons, Nat.add_right_comm, Nat.add_assoc]; rfl

theorem ringFill_snoc (B : Nat) (ring : Nat → UInt8) (n : Nat) (bs : List (List UInt8))
    (b : List UInt8) :
    ringFill B ring n (bs ++ [b]) = ringWrite B (ringFill B ring n bs) ((n + bs.length) % numBuff) b := by
  rw [ringFill_append]; rfl

theorem ringWrite_of_not_mem {B w o : Nat} {ring : Nat → UInt8} {buf : List UInt8}
    (h : ¬ (slotOffset B w ≤ o ∧ o < slotOffset B w + buf.length)) :
    ringWrite B ring w buf o = ring o := by
  simp [ringWrite, h]

theorem ringWrite_of_mem {B w n : Nat} {ring : Nat → UInt8} {buf : List UInt8}
    (h : n < buf.length) : ringWrite B ring w buf (slotOffset B w + n) = buf[n] := by
  simp [ringWrite, h]

/-- Bytes no transfer of `bufs` covers keep their value. -/
theorem ringFill_of_avoid {B o : Nat} {ring : Nat → UInt8} :
    ∀ {n : Nat} {bufs : List (List UInt8)},
      (∀ j (hj : j < bufs.length), ¬ (slotOffset B ((n + j) % numBuff) ≤ o ∧
        o < slotOffset B ((n + j) % numBuff) + bufs[j].length)) →
      ringFill B ring n bufs o = ring o := by
  intro n bufs
  induction bufs generalizing ring n with
  | nil => intro _; rfl
  | cons b bs ih =>
    intro h
    simp only [ringFill]
    rw [ih (fun j hj => by simpa [Nat.add_assoc, Nat.add_comm 1 j] using h (j + 1) (by simpa using hj)),
      ringWrite_of_not_mem (by simpa using h 0 (by simp))]

/-- A fact about every transfer and its ordinal holds for one transfer more when it
holds for that one. -/
theorem forall_getElem?_snoc {P : Nat → List UInt8 → Prop} {bufs : List (List UInt8)}
    {b : List UInt8} (h : ∀ n c, bufs[n]? = some c → P n c) (hb : P bufs.length b) :
    ∀ n c, (bufs ++ [b])[n]? = some c → P n c := by
  intro n c hc
  rcases Nat.lt_or_ge n bufs.length with hn | hn
  · rw [List.getElem?_append_left hn] at hc; exact h n c hc
  · rw [List.getElem?_append_right hn] at hc
    obtain ⟨hn0, rfl⟩ : n - bufs.length = 0 ∧ b = c := by
      cases hm : n - bufs.length <;> simp_all
    rwa [show n = bufs.length by omega]

/-! ### Disjoint slots -/

theorem slotOffset_eq {B k : Nat} (hk : B * k < 2 ^ 32) : slotOffset B k = B * k :=
  Nat.mod_eq_of_lt hk

/-- A full-slot write to slot `w` misses every byte of another slot `v`, when
neither offset wraps. -/
theorem not_mem_slot {B v w n : Nat} (hv : B * v < 2 ^ 32) (hw : B * w < 2 ^ 32) (hvw : v ≠ w)
    (hn : n < B) {len : Nat} (hlen : len = B) :
    ¬ (slotOffset B w ≤ slotOffset B v + n ∧ slotOffset B v + n < slotOffset B w + len) := by
  rw [slotOffset_eq hv, slotOffset_eq hw, hlen]
  rcases Nat.lt_or_gt_of_ne hvw with h | h
  · have : B * (v + 1) ≤ B * w := Nat.mul_le_mul_left B h
    rw [Nat.mul_succ] at this; omega
  · have : B * (w + 1) ≤ B * v := Nat.mul_le_mul_left B h
    rw [Nat.mul_succ] at this; omega

/-- **Slots written in order inside the allocation do not wrap.**  If transfer `n`
of `bufs`, every one `B` bytes, went to slot `n % NUM_BUFF` and ended inside an
allocation of `alloc < 2^32` bytes, then every slot written so far starts at
`B * u`: slot `u` does, so it ends at `B * (u + 1) ≤ alloc`, where slot `u + 1`
starts. -/
theorem slots_unwrapped {B alloc : Nat} {bufs : List (List UInt8)} (halloc : alloc < 2 ^ 32)
    (hin : ∀ n b, bufs[n]? = some b → slotOffset B (n % numBuff) + b.length ≤ alloc)
    (hlen : ∀ b ∈ bufs, b.length = B) : ∀ u, u < bufs.length → u < numBuff → B * u < 2 ^ 32 := by
  intro u
  induction u with
  | zero => intro _ _; simp
  | succ u ih =>
    intro hu h8
    have h1 := hin u bufs[u] (List.getElem?_eq_getElem (by omega))
    rw [hlen _ (List.getElem_mem _), Nat.mod_eq_of_lt (by omega),
      slotOffset_eq (ih (by omega) (by omega))] at h1
    rw [Nat.mul_succ]; omega

private theorem map_range_getElem (l : List UInt8) :
    (List.range l.length).map (fun n => l.getD n 0) = l := by
  apply List.ext_getElem (by simp)
  intro n h1 h2
  simp [List.getD_eq_getElem?_getD, List.getElem?_eq_getElem h2]

/-- **The slot read holds the transfer of that ordinal.**  If every transfer filled
a whole slot, no slot written wraps, and the channel is at most `NUM_BUFF`
transfers past `k`, then slot `k % NUM_BUFF` holds transfer `k`. -/
theorem slotBytes_ringFill {B k : Nat} {ring : Nat → UInt8} {bufs : List (List UInt8)}
    (hB : ∀ u, u < bufs.length → u < numBuff → B * u < 2 ^ 32)
    (hlen : ∀ b ∈ bufs, b.length = B) (hk : k < bufs.length)
    (hlead : bufs.length ≤ k + numBuff) :
    slotBytes B (ringFill B ring 0 bufs) (k % numBuff) = bufs[k] := by
  have hsplit : ringFill B ring 0 bufs = ringFill B ring 0 (bufs.take k ++ bufs[k] :: bufs.drop (k + 1)) :=
    congrArg _ (by simp)
  have hkB : bufs[k].length = B := hlen _ (List.getElem_mem hk)
  rw [hsplit, ringFill_append]
  simp only [ringFill, List.length_take, Nat.zero_add, Nat.min_eq_left hk.le]
  conv_rhs => rw [← map_range_getElem bufs[k], hkB]
  unfold slotBytes
  refine List.map_congr_left fun n hn => ?_
  have hn : n < B := List.mem_range.mp hn
  rw [ringFill_of_avoid, ringWrite_of_mem (by omega), List.getD_eq_getElem?_getD,
    List.getElem?_eq_getElem (by omega), Option.getD_some]
  intro j hj
  have hj' : j < bufs.length - (k + 1) := by simpa using hj
  have hslot : ∀ m < bufs.length, B * (m % numBuff) < 2 ^ 32 := fun m hm =>
    hB _ (lt_of_le_of_lt (Nat.mod_le _ _) hm) (Nat.mod_lt _ (by decide))
  refine not_mem_slot (hslot k hk) (hslot _ (by omega)) ?_ hn
    (hlen _ (List.mem_of_mem_drop (List.getElem_mem hj)))
  simp only [numBuff] at hlead ⊢
  omega

end RtlDaq
