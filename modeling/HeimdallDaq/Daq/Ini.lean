/-
`daq_chain_config.ini` as `handler` reads it.

`ini_parse` (inih, not among the sources) calls `handler` once for each
`name = value` line of the file, in order, with the section the line is in.
`handler` stores the value in the field of `configuration` that the section and
name pick, through `atoi` for every numeric field, and ignores any other pair.  It
returns 0 in every case; `main` treats only a negative result of `ini_parse` as
fatal.

`atoi` is the C library's: white space, an optional sign, then decimal digits up
to the first other character.  glibc computes it as `(int) strtol(s, NULL, 10)`:
a value past a 64-bit `long` saturates there, and the conversion to `int` keeps
the low 32 bits.
-/
import HeimdallDaq.Daq.Config

namespace RtlDaq

/-! ### `atoi` -/

/-- `isspace` in the C locale. -/
def isCSpace (c : Char) : Bool :=
  c = ' ' || c = '\t' || c = '\n' || c = '\x0B' || c = '\x0C' || c = '\r'

/-- The sign `strtol` reads, and the characters after it. -/
def splitSign : List Char → Bool × List Char
  | [] => (false, [])
  | c :: t => if c = '-' then (true, t) else if c = '+' then (false, t) else (false, c :: t)

/-- The value of the decimal digits `ds`, most significant first. -/
def digitsValue (ds : List Char) : Nat :=
  ds.foldl (fun acc d => 10 * acc + (d.toNat - '0'.toNat)) 0

/-- `strtol(s, NULL, 10)` with a 64-bit `long`: out of range it saturates to
`LONG_MIN` or `LONG_MAX`. -/
def strtol (s : List Char) : Int :=
  match splitSign (s.dropWhile isCSpace) with
  | (neg, rest) =>
    let v : Int := digitsValue (rest.takeWhile Char.isDigit)
    if neg then max (-v) (-2 ^ 63) else min v (2 ^ 63 - 1)

/-- `(int) x`: the `int` with the low 32 bits of `x`. -/
def toCInt (x : Int) : Int := (x + 2 ^ 31) % 2 ^ 32 - 2 ^ 31

/-- `atoi(s)`, as glibc computes it. -/
def atoi (s : String) : Int := toCInt (strtol s.toList)

theorem atoi_cInt (s : String) : IsCInt (atoi s) := by
  unfold atoi toCInt IsCInt; omega

example : atoi " \t-42 dB" = -42 := by decide

example : atoi "4294967297" = 1 := by decide

/-! ### `handler` -/

/-- The numeric fields of `configuration` that `handler` fills. -/
inductive ConfigKey
  | numCh | hwUnitId | iooType | daqBufferSize | sampleRate | centerFreq | gain
  | enNoiseSourceCtr | ctrChannelSerialNo
  deriving DecidableEq, Repr

/-- The field `k` of `c`. -/
def ConfigKey.get : ConfigKey → Configuration → Int
  | .numCh, c => c.numCh
  | .hwUnitId, c => c.hwUnitId
  | .iooType, c => c.iooType
  | .daqBufferSize, c => c.daqBufferSize
  | .sampleRate, c => c.sampleRate
  | .centerFreq, c => c.centerFreq
  | .gain, c => c.gain
  | .enNoiseSourceCtr, c => c.enNoiseSourceCtr
  | .ctrChannelSerialNo, c => c.ctrChannelSerialNo

theorem ConfigKey.get_cInt (k : ConfigKey) (c : Configuration) : IsCInt (k.get c) := by
  cases k <;> exact c.cInt _ (by simp [ConfigKey.get])

/-- `pconfig->field = v` for the field `k`. -/
def Configuration.set (c : Configuration) (k : ConfigKey) (v : Int) (hv : IsCInt v) :
    Configuration :=
  let f := fun k' => if k = k' then v else k'.get c
  have hf : ∀ k', IsCInt (f k') := fun k' => by dsimp only [f]; split; exacts [hv, k'.get_cInt c]
  { c with
    numCh := f .numCh, hwUnitId := f .hwUnitId, iooType := f .iooType,
    daqBufferSize := f .daqBufferSize, sampleRate := f .sampleRate, centerFreq := f .centerFreq,
    gain := f .gain, enNoiseSourceCtr := f .enNoiseSourceCtr,
    ctrChannelSerialNo := f .ctrChannelSerialNo
    cInt := by
      intro x hx
      simp only [List.mem_cons, List.mem_singleton, List.not_mem_nil, or_false] at hx
      rcases hx with rfl | rfl | rfl | rfl | rfl | rfl | rfl | rfl | rfl <;> exact hf _ }

/-- `handler(pconfig, section, name, value)`: the configuration after the line, and
what `handler` returns.  `log_level` only sets the logger and is left out of
`Configuration`, so its line leaves the record as it is. -/
def handler (c : Configuration) (sect name value : String) : Configuration × Int :=
  if sect = "hw" ∧ name = "num_ch" then (c.set .numCh (atoi value) (atoi_cInt value), 0)
  else if sect = "hw" ∧ name = "name" then ({ c with hwName := value }, 0)
  else if sect = "hw" ∧ name = "unit_id" then (c.set .hwUnitId (atoi value) (atoi_cInt value), 0)
  else if sect = "hw" ∧ name = "ioo_type" then (c.set .iooType (atoi value) (atoi_cInt value), 0)
  else if sect = "daq" ∧ name = "daq_buffer_size" then
    (c.set .daqBufferSize (atoi value) (atoi_cInt value), 0)
  else if sect = "daq" ∧ name = "sample_rate" then
    (c.set .sampleRate (atoi value) (atoi_cInt value), 0)
  else if sect = "daq" ∧ name = "center_freq" then
    (c.set .centerFreq (atoi value) (atoi_cInt value), 0)
  else if sect = "daq" ∧ name = "gain" then (c.set .gain (atoi value) (atoi_cInt value), 0)
  else if sect = "daq" ∧ name = "en_noise_source_ctr" then
    (c.set .enNoiseSourceCtr (atoi value) (atoi_cInt value), 0)
  else if sect = "daq" ∧ name = "ctr_channel_serial_no" then
    (c.set .ctrChannelSerialNo (atoi value) (atoi_cInt value), 0)
  else if sect = "daq" ∧ name = "log_level" then (c, 0)
  else (c, 0)

/-- `ini_parse` on a file whose `name = value` lines, with their sections, are
`lines`: `handler` on each line in turn, starting from `c`. -/
def iniLoad (c : Configuration) (lines : List (String × String × String)) : Configuration :=
  lines.foldl (fun c line => (handler c line.1 line.2.1 line.2.2).1) c

end RtlDaq
