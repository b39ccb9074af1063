/-
The control FIFO as `fifo_read_tf` reads it.

`fifo_read_tf` blocks in `fread` for one command byte, then `fread`s the payload
that byte calls for straight into its variables: three four-byte words for `'r'`
(`uint32_t`, `uint32_t`, `int`), one `uint32_t` for `'c'`, `ch_no` `int`s for
`'g'`, and nothing for the others.  `fread` copies bytes into memory, so a word is
read in the host's byte order; `ByteOrder` is that order, given by how it writes
and reads a `uint32_t`.  An `int` is the same four bytes read as two's complement.
The loop runs `while(!exit_flag)`, and in the loop only the halt command sets
`exit_flag`, so the thread reads nothing after it.

`Daq/Step.lean` takes the commands as read (`Event.latch`); this module is the
reading itself, for a FIFO whose writer keeps it open.  `fread` then blocks until
its bytes come, so a read that the bytes at hand cannot complete is a read still
waiting, and the loop latches nothing more.  End of file is not modelled: there
`fread` returns short and leaves its variable as it was, the payload reads' counts
are never looked at, and `CHK_CTR_READ`, which checks the command byte's read,
comes from a header that is not among the sources.
-/
import HeimdallDaq.Daq.State

namespace RtlDaq

/-- The host byte order, as `fread` into a `uint32_t` sees it: the four bytes that
stand for a word, and the word that four bytes stand for. -/
structure ByteOrder where
  encode : UInt32 → List UInt8
  decode : List UInt8 → UInt32
  length_encode : ∀ x, (encode x).length = 4
  decode_encode : ∀ x, decode (encode x) = x

/-- The `int` whose two's complement bits are `u`. -/
def intOfU32 (u : UInt32) : Int := if u.toNat < 2 ^ 31 then u.toNat else u.toNat - 2 ^ 32

namespace ByteOrder

variable (ord : ByteOrder)

/-- `fread(&x, sizeof(uint32_t), 1, fd)`: the next four bytes as a word, and the
bytes after them. -/
def readU32 (bytes : List UInt8) : Option (UInt32 × List UInt8) :=
  if 4 ≤ bytes.length then some (ord.decode (bytes.take 4), bytes.drop 4) else none

/-- `fread(xs, sizeof(int), n, fd)`: the next `n` `int`s. -/
def readInts : Nat → List UInt8 → Option (List Int × List UInt8)
  | 0, bytes => some ([], bytes)
  | n + 1, bytes => do
    let (x, rest) ← ord.readU32 bytes
    let (xs, rest) ← readInts n rest
    pure (intOfU32 x :: xs, rest)

end ByteOrder

/-- The command sets `exit_flag`. -/
def Command.isHalt : Command → Bool
  | .halt => true
  | _ => false

namespace Setup

variable (σ : Setup) (ord : ByteOrder)

/-- One pass of `fifo_read_tf`'s loop up to the mutex: the command byte `signal`
and the payload it calls for, and the bytes after them; `none` while the bytes
run out. -/
def readCommand : List UInt8 → Option (Command × List UInt8)
  | [] => none
  | signal :: rest =>
    if signal = 'r'.toUInt8 then do
      let (centerFreqRead, rest) ← ord.readU32 rest
      let (sampleRateRead, rest) ← ord.readU32 rest
      let (gainRead, rest) ← ord.readU32 rest
      pure (.reconfigure centerFreqRead sampleRateRead (intOfU32 gainRead), rest)
    else if signal = 'c'.toUInt8 then do
      let (centerFreqRead, rest) ← ord.readU32 rest
      pure (.centerFreq centerFreqRead, rest)
    else if signal = 'g'.toUInt8 then do
      let (newGains, rest) ← ord.readInts σ.chNo rest
      pure (.gains newGains, rest)
    else if signal = 'n'.toUInt8 then some (.noiseOn, rest)
    else if signal = 'f'.toUInt8 then some (.noiseOff, rest)
    else if signal = 2 then some (.halt, rest)
    else some (.other signal, rest)

/-- `fifo_read_tf`'s loop, for at most `fuel` commands: the commands it latches, in
order, and the bytes it leaves unread.  It stops after the halt command, or when
the bytes run out. -/
def fifoLoop : Nat → List UInt8 → List Command × List UInt8
  | 0, bytes => ([], bytes)
  | fuel + 1, bytes =>
    match σ.readCommand ord bytes with
    | none => ([], bytes)
    | some (cmd, rest) =>
      if cmd.isHalt then ([cmd], rest)
      else match fifoLoop fuel rest with
        | (cmds, unread) => (cmd :: cmds, unread)

/-- `fifo_read_tf` on the bytes written to the FIFO.  Every command reads at least
its command byte, so a pass per byte is fuel enough. -/
def fifoRead (bytes : List UInt8) : List Command × List UInt8 :=
  σ.fifoLoop ord bytes.length bytes

end Setup

end RtlDaq
