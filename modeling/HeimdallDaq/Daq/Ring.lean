/-
The per-channel circular buffer, as the three places that address it compute.

Each channel owns one allocation of `NUM_BUFF * buffer_size` bytes.  The reader
callback copies a USB transfer to `buffer + buffer_size * wr_buff_ind`, the
coordinator scans `buffer + buffer_size*rd_buff_ind + n` for clipping, and sends
`buffer + buffer_size * rd_buff_ind` to stdout.  In all three the product is taken
in `uint32_t`, so `slotOffset` reduces it modulo `2^32`.  The ring is a map from
byte offsets to bytes; the allocation is its first `Setup.ringAllocSize` bytes, and
`step` admits a copy or a read only inside them (`Setup.writeInRing`,
`Setup.readsInRing`): past them C leaves the effect undefined.
-/
import HeimdallDaq.Daq.Header

namespace RtlDaq

/-- `buffer_size * k` in `uint32_t`: where slot `k` starts. -/
def slotOffset (bufferSize k : Nat) : Nat := bufferSize * k % 2 ^ 32

/-- `memcpy(rtl_rec->buffer + buffer_size * wr_buff_ind, buf, len)`. -/
def ringWrite (bufferSize : Nat) (ring : Nat → UInt8) (wr : Nat) (buf : List UInt8) :
    Nat → UInt8 := fun o =>
  if slotOffset bufferSize wr ≤ o ∧ o < slotOffset bufferSize wr + buf.length then
    buf.getD (o - slotOffset bufferSize wr) 0
  else ring o

/-- The `buffer_size` bytes from the start of slot `k`: what
`fwrite(rtl_rec->buffer + buffer_size * rd_buff_ind, 1, buffer_size, stdout)`
writes. -/
def slotBytes (bufferSize : Nat) (ring : Nat → UInt8) (k : Nat) : List UInt8 :=
  (List.range bufferSize).map fun n => ring (slotOffset bufferSize k + n)

/-- `(uint8_t)(overdrive_flags | 1<<i)`: bits from 8 up fall off the mask. -/
def overdriveBit (i : Nat) : UInt8 := UInt8.ofNat (2 ^ i)

/-- The inner loop of the overdrive check for channel `i`: every byte of slot `rd`
equal to 255 ORs bit `i` into the flags. -/
def scanChannel (bufferSize : Nat) (ring : Nat → UInt8) (rd i : Nat) (flags : UInt8) :
    UInt8 :=
  (List.range bufferSize).foldl
    (fun f n => if ring (slotOffset bufferSize rd + n) = 255 then f ||| overdriveBit i else f)
    flags

/-- The overdrive check of `main`, over channels `0..ch_no-1`, all reading slot
`rd_buff_ind`. -/
def overdriveScan (bufferSize chNo : Nat) (rings : Nat → Nat → UInt8) (rd : Nat)
    (flags : UInt8) : UInt8 :=
  (List.range chNo).foldl (fun f i => scanChannel bufferSize (rings i) rd i f) flags

@[simp] theorem length_slotBytes (bufferSize : Nat) (ring : Nat → UInt8) (k : Nat) :
    (slotBytes bufferSize ring k).length = bufferSize := by
  simp [slotBytes]

theorem slotBytes_getElem? (bufferSize : Nat) (ring : Nat → UInt8) (k n : Nat) :
    (slotBytes bufferSize ring k)[n]? =
      if n < bufferSize then some (ring (slotOffset bufferSize k + n)) else none := by
  unfold slotBytes
  split <;> simp [*, List.getElem?_range]; omega

end RtlDaq
