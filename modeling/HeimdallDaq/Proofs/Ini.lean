/-
Loading `daq_chain_config.ini`.

`handler` is a table: each numeric field of `configuration` has its own section and
name, `hw`/`name` is the hardware name, and any other pair is ignored
(`handler_spec`).  So `ini_parse` loads every field from the last line that names
it, and a field no line names keeps the value it had.  `atoi` reads back the
decimal text of every C `int` (`atoi_decimalText`), so a file with one line per
field loads exactly the configuration it was written from, whatever record the
parse starts from.
-/
import HeimdallDaq.Daq.Ini
import Mathlib.Data.Nat.Digits

namespace RtlDaq

/-! ### The table -/

/-- The section and name of the line that fills the field `k`. -/
def ConfigKey.iniKey : ConfigKey → String × String
  | .numCh => ("hw", "num_ch")
  | .hwUnitId => ("hw", "unit_id")
  | .iooType => ("hw", "ioo_type")
  | .daqBufferSize => ("daq", "daq_buffer_size")
  | .sampleRate => ("daq", "sample_rate")
  | .centerFreq => ("daq", "center_freq")
  | .gain => ("daq", "gain")
  | .enNoiseSourceCtr => ("daq", "en_noise_source_ctr")
  | .ctrChannelSerialNo => ("daq", "ctr_channel_serial_no")

/-- Every numeric field, in the order `handler` tests them. -/
def ConfigKey.all : List ConfigKey :=
  [.numCh, .hwUnitId, .iooType, .daqBufferSize, .sampleRate, .centerFreq, .gain,
    .enNoiseSourceCtr, .ctrChannelSerialNo]

@[simp] theorem ConfigKey.get_set (c : Configuration) (k k' : ConfigKey) (v : Int) (hv : IsCInt v) :
    k'.get (c.set k v hv) = if k = k' then v else k'.get c := by
  cases k' <;> rfl

theorem ConfigKey.iniKey_inj {k k' : ConfigKey} : k.iniKey = k'.iniKey ↔ k = k' := by
  cases k <;> cases k' <;> decide

theorem ConfigKey.iniKey_ne_name (k : ConfigKey) : k.iniKey ≠ ("hw", "name") := by
  cases k <;> decide

/-- Two configurations with the same fields are the same. -/
theorem Configuration.ext_get {c c' : Configuration} (h : ∀ k : ConfigKey, k.get c = k.get c')
    (hn : c.hwName = c'.hwName) : c = c' := by
  cases c; cases c'
  simp only [Configuration.mk.injEq]
  exact ⟨h .numCh, h .daqBufferSize, h .sampleRate, h .centerFreq, h .gain, h .enNoiseSourceCtr,
    h .ctrChannelSerialNo, hn, h .hwUnitId, h .iooType⟩

theorem handler_iniKey (c : Configuration) (k : ConfigKey) (value : String) :
    handler c k.iniKey.1 k.iniKey.2 value = (c.set k (atoi value) (atoi_cInt value), 0) := by
  cases k <;> rfl

theorem handler_hwName (c : Configuration) (value : String) :
    handler c "hw" "name" value = ({ c with hwName := value }, 0) := rfl

theorem handler_other {c : Configuration} {sect name value : String}
    (hk : ∀ k : ConfigKey, (sect, name) ≠ k.iniKey) (hn : (sect, name) ≠ ("hw", "name")) :
    handler c sect name value = (c, 0) := by
  have ne : ∀ k : ConfigKey, ¬(sect = k.iniKey.1 ∧ name = k.iniKey.2) :=
    fun k ⟨h1, h2⟩ => hk k (by rw [h1, h2])
  unfold handler
  rw [if_neg (show ¬(sect = "hw" ∧ name = "num_ch") from ne .numCh),
    if_neg (show ¬(sect = "hw" ∧ name = "name") from fun h => hn (by rw [h.1, h.2])),
    if_neg (show ¬(sect = "hw" ∧ name = "unit_id") from ne .hwUnitId),
    if_neg (show ¬(sect = "hw" ∧ name = "ioo_type") from ne .iooType),
    if_neg (show ¬(sect = "daq" ∧ name = "daq_buffer_size") from ne .daqBufferSize),
    if_neg (show ¬(sect = "daq" ∧ name = "sample_rate") from ne .sampleRate),
    if_neg (show ¬(sect = "daq" ∧ name = "center_freq") from ne .centerFreq),
    if_neg (show ¬(sect = "daq" ∧ name = "gain") from ne .gain),
    if_neg (show ¬(sect = "daq" ∧ name = "en_noise_source_ctr") from ne .enNoiseSourceCtr),
    if_neg (show ¬(sect = "daq" ∧ name = "ctr_channel_serial_no") from ne .ctrChannelSerialNo), ite_self]

/-- **What one line does.**  `handler` returns 0; it sets the numeric field that the
section and name pick to `atoi(value)`, or the hardware name to `value`, and leaves
every other field as it was. -/
theorem handler_spec (c : Configuration) (sect name value : String) :
    (handler c sect name value).2 = 0 ∧
      (∀ k : ConfigKey, k.get (handler c sect name value).1 =
        if (sect, name) = k.iniKey then atoi value else k.get c) ∧
      (handler c sect name value).1.hwName =
        if (sect, name) = ("hw", "name") then value else c.hwName := by
  by_cases hk : ∃ k0 : ConfigKey, (sect, name) = k0.iniKey
  · obtain ⟨k0, hk0⟩ := hk
    obtain rfl : sect = k0.iniKey.1 := congrArg Prod.fst hk0
    obtain rfl : name = k0.iniKey.2 := congrArg Prod.snd hk0
    rw [handler_iniKey, Prod.mk.eta, if_neg (ConfigKey.iniKey_ne_name k0)]
    exact ⟨rfl, fun k => by simp only [ConfigKey.get_set, ConfigKey.iniKey_inj], rfl⟩
  · have hk' : ∀ k : ConfigKey, (sect, name) ≠ k.iniKey := fun k h => hk ⟨k, h⟩
    by_cases hn : (sect, name) = ("hw", "name")
    · obtain rfl : sect = "hw" := congrArg Prod.fst hn
      obtain rfl : name = "name" := congrArg Prod.snd hn
      rw [handler_hwName]
      exact ⟨rfl, fun k => by rw [if_neg (hk' k)]; cases k <;> rfl, by simp⟩
    · rw [handler_other hk' hn]
      exact ⟨rfl, fun k => by rw [if_neg (hk' k)], by rw [if_neg hn]⟩

/-! ### A whole file -/

/-- The value on the last of `lines` with section and name `key`. -/
def lastValue (lines : List (String × String × String)) (key : String × String) : Option String :=
  (lines.reverse.find? fun l => (l.1, l.2.1) = key).map fun l => l.2.2

theorem lastValue_snoc (lines : List (String × String × String)) (l : String × String × String)
    (key : String × String) :
    lastValue (lines ++ [l]) key = if (l.1, l.2.1) = key then some l.2.2 else lastValue lines key := by
  unfold lastValue
  rw [List.reverse_append, List.reverse_singleton, List.singleton_append, List.find?_cons]
  split <;> simp_all

theorem iniLoad_snoc (c0 : Configuration) (lines : List (String × String × String))
    (l : String × String × String) :
    iniLoad c0 (lines ++ [l]) = (handler (iniLoad c0 lines) l.1 l.2.1 l.2.2).1 := by
  simp [iniLoad, List.foldl_append]

/-- **`ini_parse` keeps the last line for each key.**  After loading any file from any
record, each numeric field is `atoi` of the value on the last line with its section
and name, the hardware name is the value on the last `hw`/`name` line, and a field
no line names keeps the value it had. -/
theorem iniLoad_fields (c0 : Configuration) (lines : List (String × String × String)) :
    (∀ k : ConfigKey, k.get (iniLoad c0 lines) = ((lastValue lines k.iniKey).map atoi).getD (k.get c0)) ∧
      (iniLoad c0 lines).hwName = (lastValue lines ("hw", "name")).getD c0.hwName := by
  induction lines using List.reverseRecOn with
  | nil => exact ⟨fun _ => rfl, rfl⟩
  | append_singleton lines l ih =>
    obtain ⟨-, hk, hn⟩ := handler_spec (iniLoad c0 lines) l.1 l.2.1 l.2.2
    rw [iniLoad_snoc]
    refine ⟨fun k => ?_, ?_⟩
    · rw [hk, lastValue_snoc]; split
      · rfl
      · exact ih.1 k
    · rw [hn, lastValue_snoc]; split
      · rfl
      · exact ih.2

/-! ### Decimal text -/

/-- The decimal digits of `n`, most significant first; `0` for zero. -/
def natText (n : Nat) : List Char :=
  if n = 0 then ['0'] else (Nat.digits 10 n).reverse.map Nat.digitChar

/-- The decimal text of `x`, with a minus sign when it is negative. -/
def decimalText (x : Int) : String := ⟨(if x < 0 then ['-'] else []) ++ natText x.natAbs⟩

theorem digitChar_spec : ∀ d < 10, (Nat.digitChar d).isDigit = true ∧
    (Nat.digitChar d).toNat - '0'.toNat = d ∧ isCSpace (Nat.digitChar d) = false ∧
    Nat.digitChar d ≠ '-' ∧ Nat.digitChar d ≠ '+' := by
  decide

theorem foldr_digits (L : List Nat) : L.foldr (fun d a => 10 * a + d) 0 = Nat.ofDigits 10 L := by
  induction L with
  | nil => rfl
  | cons d L ih => rw [List.foldr_cons, ih, Nat.ofDigits_cons, Nat.add_comm]

/-- `natText n` is the digits of `n`, most significant first. -/
theorem natText_digits (n : Nat) : ∃ d ds, natText n = (d :: ds).map Nat.digitChar ∧
    (∀ d' ∈ d :: ds, d' < 10) ∧ (d :: ds).foldl (fun a d => 10 * a + d) 0 = n := by
  unfold natText; split
  · exact ⟨0, [], rfl, by simp, by simp [*]⟩
  · obtain ⟨d, ds, h⟩ := List.exists_cons_of_ne_nil
      (List.reverse_ne_nil_iff.mpr (Nat.digits_ne_nil_iff_ne_zero.mpr ‹_›))
    refine ⟨d, ds, by rw [h], fun d' hd' => ?_, ?_⟩
    · rw [← h] at hd'
      exact Nat.digits_lt_base (by norm_num) (List.mem_reverse.mp hd')
    · rw [← h, List.foldl_reverse, foldr_digits, Nat.ofDigits_digits]

theorem digitsValue_map (ds : List Nat) (hds : ∀ d ∈ ds, d < 10) (acc : Nat) :
    (ds.map Nat.digitChar).foldl (fun acc d => 10 * acc + (d.toNat - '0'.toNat)) acc =
      ds.foldl (fun a d => 10 * a + d) acc := by
  induction ds generalizing acc with
  | nil => rfl
  | cons d ds ih =>
    rw [List.map_cons, List.foldl_cons, List.foldl_cons,
      (digitChar_spec d (hds d (List.mem_cons_self d ds))).2.1]
    exact ih (fun d' h => hds d' (List.mem_cons_of_mem d h)) _

/-- What `strtol` reads after the sign: all of `natText n`, worth `n`. -/
theorem digitsValue_natText (n : Nat) :
    digitsValue ((natText n).takeWhile Char.isDigit) = n := by
  obtain ⟨d, ds, h, hlt, hv⟩ := natText_digits n
  rw [List.takeWhile_eq_self_iff.mpr, digitsValue, h, digitsValue_map _ hlt, hv]
  rw [h]; intro c hc
  obtain ⟨d', hd', rfl⟩ := List.mem_map.mp hc
  exact (digitChar_spec d' (hlt d' hd')).1

/-- `natText n` starts with a digit: no white space, no sign. -/
theorem natText_head (n : Nat) :
    (natText n).dropWhile isCSpace = natText n ∧ splitSign (natText n) = (false, natText n) := by
  obtain ⟨d, ds, h, hlt, -⟩ := natText_digits n
  obtain ⟨-, -, hs, hm, hp⟩ := digitChar_spec d (hlt d (List.mem_cons_self d ds))
  rw [h, List.map_cons, List.dropWhile_cons_of_neg (by simp [hs])]
  exact ⟨rfl, by simp only [splitSign, if_neg hm, if_neg hp]⟩

theorem strtol_minus (l : List Char) :
    strtol ('-' :: l) = max (-(digitsValue (l.takeWhile Char.isDigit) : Int)) (-2 ^ 63) := by
  simp only [strtol, List.dropWhile_cons_of_neg (show ¬isCSpace '-' = true by decide)]
  rfl

theorem strtol_natText (n : Nat) : strtol (natText n) = min (n : Int) (2 ^ 63 - 1) := by
  obtain ⟨hd, hs⟩ := natText_head n
  simp only [strtol, hd, hs, digitsValue_natText]
  rfl

/-- `atoi` reads back the decimal text of every C `int`. -/
theorem atoi_decimalText (x : Int) (hx : IsCInt x) : atoi (decimalText x) = x := by
  unfold atoi decimalText toCInt IsCInt at *
  split
  · show (strtol ('-' :: natText x.natAbs) + 2 ^ 31) % 2 ^ 32 - 2 ^ 31 = x
    rw [strtol_minus, digitsValue_natText]
    omega
  · show (strtol (natText x.natAbs) + 2 ^ 31) % 2 ^ 32 - 2 ^ 31 = x
    rw [strtol_natText]
    omega

/-! ### Round trip -/

/-- A `daq_chain_config.ini` for `c`: the hardware name, then one line per numeric
field with its value in decimal. -/
def Configuration.iniLines (c : Configuration) : List (String × String × String) :=
  ("hw", "name", c.hwName) :: ConfigKey.all.map fun k => (k.iniKey.1, k.iniKey.2, decimalText (k.get c))

theorem lastValue_iniLines (c : Configuration) (k : ConfigKey) :
    lastValue c.iniLines k.iniKey = some (decimalText (k.get c)) := by
  cases k <;> rfl

/-- **A configuration reads back from its file.**  Loading the file written from any
configuration, starting from any record, gives that configuration. -/
theorem ini_round_trip (c c0 : Configuration) : iniLoad c0 c.iniLines = c := by
  obtain ⟨hk, hn⟩ := iniLoad_fields c0 c.iniLines
  refine Configuration.ext_get (fun k => ?_) (by rw [hn]; rfl)
  rw [hk, lastValue_iniLines, Option.map_some', Option.getD_some,
    atoi_decimalText _ (k.get_cInt c)]

end RtlDaq
