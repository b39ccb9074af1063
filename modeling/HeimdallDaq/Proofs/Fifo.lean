/-
What `fifo_read_tf` makes of the bytes written to the control FIFO.

A writer puts each command in the FIFO as its command byte followed by its payload
in host byte order.  Read back, every command is exactly its own bytes: each branch
of `fifo_read_tf` reads the payload words its command byte calls for, no more and
no fewer, and a word read is the word written (`readCommand_encode`).  So a stream
of commands is read back command by command, in order, up to and including the
first halt, and the bytes after that halt are never read (`fifoRead_encodeStream`).
-/
import HeimdallDaq.Daq.Fifo
import HeimdallDaq.Proofs.Stream

namespace RtlDaq

/-! ### Writing the FIFO -/

/-- Modelled from the spec: the bytes a writer puts in the FIFO for one command,
the command byte and then the payload words in host byte order. -/
def Command.encode (ord : ByteOrder) : Command → List UInt8
  | .reconfigure f r g => 'r'.toUInt8 :: (ord.encode f ++ ord.encode r ++ ord.encode (u32OfInt g))
  | .centerFreq f => 'c'.toUInt8 :: ord.encode f
  | .gains g => 'g'.toUInt8 :: (g.map fun x => ord.encode (u32OfInt x)).flatten
  | .noiseOn => ['n'.toUInt8]
  | .noiseOff => ['f'.toUInt8]
  | .halt => [2]
  | .other b => [b]

/-- Modelled from the spec: a command a writer can send.  Its gains are C `int`s,
`'g'` carries `ch_no` of them, and any other byte is none of the six command
bytes. -/
def Command.WellFormed (σ : Setup) : Command → Prop
  | .reconfigure _ _ g => IsCInt g
  | .gains g => g.length = σ.chNo ∧ ∀ x ∈ g, IsCInt x
  | .other b => b ∉ ['r'.toUInt8, 'c'.toUInt8, 'g'.toUInt8, 'n'.toUInt8, 'f'.toUInt8, 2]
  | _ => True

instance (σ : Setup) : DecidablePred (Command.WellFormed σ) := fun c =>
  match c with
  | .reconfigure _ _ g => inferInstanceAs (Decidable (IsCInt g))
  | .gains g => inferInstanceAs (Decidable (g.length = σ.chNo ∧ ∀ x ∈ g, IsCInt x))
  | .other b => inferInstanceAs
      (Decidable (b ∉ ['r'.toUInt8, 'c'.toUInt8, 'g'.toUInt8, 'n'.toUInt8, 'f'.toUInt8, 2]))
  | .centerFreq _ | .noiseOn | .noiseOff | .halt => isTrue trivial

/-- The bytes of a sequence of commands. -/
def encodeStream (ord : ByteOrder) (cmds : List Command) : List UInt8 :=
  (cmds.map (Command.encode ord)).flatten

/-- Modelled from the spec: the commands up to and including the first halt, and
the commands after it. -/
def untilHalt : List Command → List Command × List Command
  | [] => ([], [])
  | c :: cs => if c.isHalt then ([c], cs) else ((c :: (untilHalt cs).1), (untilHalt cs).2)

@[simp] theorem encodeStream_cons (ord : ByteOrder) (c : Command) (cs : List Command) :
    encodeStream ord (c :: cs) = c.encode ord ++ encodeStream ord cs := rfl

theorem length_le_encodeStream (ord : ByteOrder) (cmds : List Command) :
    cmds.length ≤ (encodeStream ord cmds).length := by
  induction cmds with
  | nil => exact le_refl _
  | cons c cs ih =>
    have : 1 ≤ (c.encode ord).length := by cases c <;> simp [Command.encode]
    rw [encodeStream_cons, List.length_append, List.length_cons]
    omega

/-! ### Reading it back -/

theorem intOfU32_u32OfInt {g : Int} (h : IsCInt g) : intOfU32 (u32OfInt g) = g := by
  unfold intOfU32 IsCInt at *
  rw [u32OfInt_toNat]
  unfold toU32
  split <;> omega

namespace ByteOrder

variable (ord : ByteOrder)

theorem readU32_encode (x : UInt32) (rest : List UInt8) :
    ord.readU32 (ord.encode x ++ rest) = some (x, rest) := by
  have h := ord.length_encode x
  rw [readU32, if_pos (by simp [h]), List.take_left' h, List.drop_left' h, ord.decode_encode]

theorem readInts_encode {g : List Int} (hg : ∀ x ∈ g, IsCInt x) (rest : List UInt8) :
    ord.readInts g.length ((g.map fun x => ord.encode (u32OfInt x)).flatten ++ rest) =
      some (g, rest) := by
  induction g with
  | nil => rfl
  | cons x g ih =>
    have hx := intOfU32_u32OfInt (hg x (List.mem_cons_self _ _))
    have hrest := ih fun y hy => hg y (List.mem_cons_of_mem _ hy)
    simp only [List.map_cons, List.flatten_cons, List.length_cons, List.append_assoc, readInts,
      readU32_encode, hrest, hx, Option.pure_def, Option.bind_eq_bind, Option.some_bind]

end ByteOrder

namespace Setup

variable (σ : Setup) (ord : ByteOrder)

/-- A command's bytes are read back as that command, and the bytes after them are
left as they were. -/
theorem readCommand_encode {c : Command} (hc : c.WellFormed σ) (rest : List UInt8) :
    σ.readCommand ord (c.encode ord ++ rest) = some (c, rest) := by
  cases c with
  | reconfigure f r g =>
    simp only [Command.encode, List.cons_append, List.append_assoc, readCommand, if_true,
      ByteOrder.readU32_encode, intOfU32_u32OfInt hc, Option.pure_def, Option.bind_eq_bind,
      Option.some_bind]
  | centerFreq f =>
    simp only [Command.encode, List.cons_append, readCommand]
    rw [if_neg (by decide), if_true]
    simp only [ByteOrder.readU32_encode, Option.pure_def, Option.bind_eq_bind, Option.some_bind]
  | gains g =>
    simp only [Command.encode, List.cons_append, readCommand]
    rw [if_neg (by decide), if_neg (by decide), if_true, ← hc.1]
    simp only [ByteOrder.readInts_encode ord hc.2, Option.pure_def, Option.bind_eq_bind,
      Option.some_bind]
  | noiseOn => rfl
  | noiseOff => rfl
  | halt => rfl
  | other b =>
    simp only [Command.WellFormed, List.mem_cons, List.not_mem_nil, or_false, not_or] at hc
    simp only [Command.encode, List.cons_append, List.nil_append, readCommand]
    rw [if_neg hc.1, if_neg hc.2.1, if_neg hc.2.2.1, if_neg hc.2.2.2.1, if_neg hc.2.2.2.2.1,
      if_neg hc.2.2.2.2.2]

theorem fifoLoop_encodeStream {cmds : List Command} (hw : ∀ c ∈ cmds, c.WellFormed σ) :
    ∀ n, cmds.length ≤ n →
      σ.fifoLoop ord n (encodeStream ord cmds) =
        ((untilHalt cmds).1, encodeStream ord (untilHalt cmds).2) := by
  induction cmds with
  | nil => intro n _; cases n <;> rfl
  | cons c cs ih =>
    intro n hn
    obtain ⟨m, rfl⟩ : ∃ m, n = m + 1 := ⟨n - 1, by simp only [List.length_cons] at hn; omega⟩
    rw [encodeStream_cons, fifoLoop, readCommand_encode σ ord (hw c (List.mem_cons_self _ _))]
    simp only [untilHalt]
    split
    · rfl
    · rw [ih (fun c' h => hw c' (List.mem_cons_of_mem _ h)) m (by simpa using hn)]

/-- **The control FIFO is read command by command.**  For any host byte order:
each command a writer sends is read back as itself, consuming exactly its own
bytes; and a sequence of commands written to the FIFO is latched command by
command, in order and with the values written, up to and including the first
halt, while the bytes after that halt are left unread. -/
theorem fifoRead_encodeStream :
    (∀ c, c.WellFormed σ → ∀ rest, σ.readCommand ord (c.encode ord ++ rest) = some (c, rest)) ∧
      ∀ cmds, (∀ c ∈ cmds, c.WellFormed σ) →
        σ.fifoRead ord (encodeStream ord cmds) =
          ((untilHalt cmds).1, encodeStream ord (untilHalt cmds).2) :=
  ⟨fun _ hc rest => σ.readCommand_encode ord hc rest, fun cmds hw =>
    σ.fifoLoop_encodeStream ord hw _ (length_le_encodeStream ord cmds)⟩

end Setup

/-- Least significant byte first. -/
def ByteOrder.little : ByteOrder where
  encode := le32
  decode := ofLe32
  length_encode _ := rfl
  decode_encode x := by simpa using ofLe32_le32 x []

theorem fifo_reads_retune_then_halt :
    (∀ c ∈ [Command.centerFreq 5, .noiseOn, .halt, .noiseOff], c.WellFormed Setup.single) ∧
      Setup.single.fifoRead ByteOrder.little
          (encodeStream ByteOrder.little [.centerFreq 5, .noiseOn, .halt, .noiseOff]) =
        ([.centerFreq 5, .noiseOn, .halt], encodeStream ByteOrder.little [.noiseOff]) :=
  ⟨by decide, (Setup.fifoRead_encodeStream Setup.single ByteOrder.little).2 _ (by decide)⟩

end RtlDaq
