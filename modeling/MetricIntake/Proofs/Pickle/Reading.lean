import MetricIntake.Pickle.Encoding
import MetricIntake.Pickle.Instruction
import MetricIntake.Proofs.Bytes
import MetricIntake.Proofs.Text.Utf8

/-!
Contract: instructions are read from the bytes that are written for them.

Owns:
- readers that accept some bytes: they take exactly these, whatever follows, and run out on fewer;
- readers that follow one another, which accept the bytes of both;
- the instructions of the encoder, each accepted from its bytes.

Does not own: what an instruction does.
-/

set_option autoImplicit false

namespace MetricIntake

/-- A byte string that lacks at least one byte at the end of another. -/
def Truncates (short bytes : Bytes) : Prop :=
  ∃ missing, missing ≠ [] ∧ short ++ missing = bytes

namespace Truncates

variable {short front back : Bytes}

theorem length_lt (truncates : Truncates short back) : short.length < back.length := by
  obtain ⟨missing, some, rfl⟩ := truncates
  have positive := List.length_pos_iff.mpr some
  rw [List.length_append]
  omega

theorem not_nil : ¬ Truncates short [] :=
  fun truncates => Nat.not_lt_zero _ truncates.length_lt

/-- What lacks bytes at the end of two strings ends within the first or within the second. -/
theorem append_cases (truncates : Truncates short (front ++ back)) :
    Truncates short front ∨ ∃ more, short = front ++ more ∧ Truncates more back := by
  obtain ⟨missing, some, joined⟩ := truncates
  rcases List.append_eq_append_iff.mp joined with ⟨gap, frontEq, missingEq⟩ | ⟨more, shortEq, backEq⟩
  · by_cases whole : gap = []
    · subst whole
      refine .inr ⟨[], ?_, missing, some, ?_⟩
      · rw [frontEq, List.append_nil, List.append_nil]
      · rw [missingEq, List.nil_append, List.nil_append]
    · exact .inl ⟨gap, whole, frontEq.symm⟩
  · exact .inr ⟨more, shortEq, missing, some, backEq.symm⟩

end Truncates

namespace Pickle

/-- A reader accepts some bytes as a value: it takes exactly these, and on fewer it runs out. -/
structure Accepts {α : Type} (reader : Cursor → Except Fault (α × Cursor)) (bytes : Bytes)
    (value : α) : Prop where
  complete : ∀ offset rest,
    reader ⟨offset, bytes ++ rest⟩ = .ok (value, ⟨offset + bytes.length, rest⟩)
  truncated : ∀ offset short, Truncates short bytes → reader ⟨offset, short⟩ = .error .endOfInput

namespace Accepts

variable {α β : Type} {first : Cursor → Except Fault (α × Cursor)}
  {second : α → Cursor → Except Fault (β × Cursor)} {front back : Bytes} {value : α} {result : β}

theorem bind (accepted : Accepts first front value) (next : Accepts (second value) back result) :
    Accepts (fun cursor => first cursor >>= fun outcome => second outcome.1 outcome.2)
      (front ++ back) result where
  complete offset rest := by
    show (first ⟨offset, front ++ back ++ rest⟩ >>= fun outcome => second outcome.1 outcome.2) = _
    rw [List.append_assoc, accepted.complete, List.length_append, ← Nat.add_assoc]
    exact next.complete (offset + front.length) rest
  truncated offset short truncates := by
    show (first ⟨offset, short⟩ >>= fun outcome => second outcome.1 outcome.2) = _
    rcases truncates.append_cases with within | ⟨more, rfl, beyond⟩
    · rw [accepted.truncated offset short within]
      rfl
    · rw [accepted.complete]
      exact next.truncated (offset + front.length) more beyond

theorem map (accepted : Accepts first front value) (change : α → β) :
    Accepts (fun cursor => first cursor >>= fun outcome => pure (change outcome.1, outcome.2))
      front (change value) where
  complete offset rest := by
    show (first ⟨offset, front ++ rest⟩ >>= fun outcome => pure (change outcome.1, outcome.2)) = _
    rw [accepted.complete]
    rfl
  truncated offset short truncates := by
    show (first ⟨offset, short⟩ >>= fun outcome => pure (change outcome.1, outcome.2)) = _
    rw [accepted.truncated offset short truncates]
    rfl

end Accepts

/-! ### Arguments -/

namespace Cursor

theorem take_accepts (bytes : Bytes) : Accepts (take bytes.length) bytes bytes where
  complete offset rest := by
    rw [take, Bytes.split?_append]
  truncated offset short truncates := by
    rw [take, Bytes.split?_short truncates.length_lt]

theorem take_accepts_of_length {width : Nat} {bytes : Bytes} (exact : bytes.length = width) :
    Accepts (take width) bytes bytes :=
  exact ▸ take_accepts bytes

theorem number_accepts {width number : Nat} (fits : number < Bytes.capacity width) :
    Accepts (Cursor.number width) (Bytes.littleEndian width number) number := by
  have taken := (take_accepts_of_length (Bytes.littleEndian_length width number)).map
    Bytes.ofLittleEndian
  rw [Bytes.ofLittleEndian_littleEndian fits] at taken
  exact taken

theorem signedNumber_accepts {width : Nat} {number : Int} (fits : Bytes.Fits width number) :
    Accepts (signedNumber width) (Bytes.twosComplement width number) number := by
  have taken := (take_accepts_of_length (Bytes.twosComplement_length width number)).map
    Bytes.ofTwosComplement
  rw [Bytes.ofTwosComplement_twosComplement fits] at taken
  exact taken

theorem counted_accepts {width : Nat} {content : Bytes}
    (fits : content.length < Bytes.capacity width) :
    Accepts (counted width) (Bytes.littleEndian width content.length ++ content) content :=
  (number_accepts fits).bind (take_accepts content)

end Cursor

/-! ### Instructions -/

namespace Instruction

theorem read_accepts (opcode : UInt8) {arguments : Bytes} {instruction : Instruction}
    (accepted : Accepts (readArguments opcode) arguments instruction) :
    Accepts read (opcode :: arguments) instruction where
  complete offset rest := by
    rw [List.length_cons, Nat.add_comm arguments.length, ← Nat.add_assoc]
    exact accepted.complete (offset + 1) rest
  truncated offset short truncates := by
    cases short with
    | nil => rfl
    | cons head tail =>
        obtain ⟨missing, some, joined⟩ := truncates
        obtain ⟨rfl, tailJoined⟩ := List.cons.inj joined
        exact accepted.truncated (offset + 1) tail ⟨missing, some, tailJoined⟩

/-- An instruction without arguments is read from its opcode alone. -/
theorem read_accepts_opcode {opcode : UInt8} {instruction : Instruction}
    (plain : ∀ cursor, readArguments opcode cursor = .ok (instruction, cursor)) :
    Accepts read [opcode] instruction :=
  read_accepts opcode
    ⟨fun _ _ => plain _, fun _ _ truncates => absurd truncates Truncates.not_nil⟩

theorem protocol_accepts : Accepts read [0x80, 0x02] ignore :=
  read_accepts 0x80 ((Cursor.take_accepts [0x02]).map fun _ => ignore)

theorem pushed_accepts {reader : Cursor → Except Fault (Object × Cursor)} {bytes : Bytes}
    {object : Object} (accepted : Accepts reader bytes object) :
    Accepts (fun cursor => pushed (reader cursor)) bytes (push object) :=
  accepted.map push

theorem textObject_accepts {content : Bytes} {decoded : String}
    (spelled : Utf8.decode? content = some decoded) :
    Accepts (textObject content) [] (.text decoded) where
  complete offset rest := by
    rw [textObject, spelled]
    rfl
  truncated offset short truncates := absurd truncates Truncates.not_nil

theorem countedText_accepts {width : Nat} {content : Bytes} {decoded : String}
    (fits : content.length < Bytes.capacity width)
    (spelled : Utf8.decode? content = some decoded) :
    Accepts (countedText width) (Bytes.littleEndian width content.length ++ content)
      (.text decoded) := by
  have followed : Accepts (countedText width)
      (Bytes.littleEndian width content.length ++ content ++ []) (.text decoded) :=
    (Cursor.counted_accepts fits).bind (textObject_accepts spelled)
  rwa [List.append_nil] at followed

theorem text_accepts {content : String} {bytes : Bytes}
    (written : Encoding.text content = .ok bytes) : Accepts read bytes (push (.text content)) := by
  simp only [Encoding.text] at written
  split at written
  · rename_i held
    obtain rfl := Except.ok.inj written
    have fits : (Utf8.encode content).length < Bytes.capacity 4 :=
      Nat.lt_succ_of_le held
    exact read_accepts 0x58
      (pushed_accepts (countedText_accepts fits (Utf8.decode?_encode content)))
  · simp at written

theorem shortBytes_accepts {content bytes : Bytes} {decoded : String}
    (written : Encoding.shortBytes content = .ok bytes)
    (spelled : Utf8.decode? content = some decoded) :
    Accepts read bytes (push (.text decoded)) := by
  unfold Encoding.shortBytes at written
  split at written
  · rename_i held
    obtain rfl := Except.ok.inj written
    have fits : content.length < Bytes.capacity 1 := Nat.lt_succ_of_le held
    exact read_accepts 0x55 (pushed_accepts (countedText_accepts fits spelled))
  · simp at written

/-- The object of a written integer: of 64 bits where four bytes hold it, else of any size. -/
def integerObject (number : Int) : Object :=
  if -2147483648 ≤ number ∧ number ≤ 2147483647 then .int (Int64.ofInt number) else .long number

theorem integer_accepts {number : Int} {bytes : Bytes}
    (written : Encoding.integer number = .ok bytes) :
    Accepts read bytes (push (integerObject number)) := by
  simp only [Encoding.integer] at written
  unfold integerObject
  by_cases small : -2147483648 ≤ number ∧ number ≤ 2147483647
  · rw [if_pos small] at written ⊢
    obtain rfl := Except.ok.inj written
    have fits : Bytes.Fits 4 number := by
      have size : Bytes.capacity 4 = 4294967296 := rfl
      unfold Bytes.Fits
      omega
    exact read_accepts 0x4A (pushed_accepts ((Cursor.signedNumber_accepts fits).map
      fun number => Object.int (Int64.ofInt number)))
  · rw [if_neg small] at written ⊢
    split at written
    · rename_i held
      obtain rfl := Except.ok.inj written
      have fits : Bytes.twosComplementWidth number < Bytes.capacity 1 := Nat.lt_succ_of_le held
      have width := Bytes.twosComplement_length (Bytes.twosComplementWidth number) number
      have sayable : (Bytes.twosComplement (Bytes.twosComplementWidth number) number).length <
          Bytes.capacity 1 := by rwa [width]
      have taken := (Cursor.counted_accepts sayable).map
        fun bytes => Object.long (Bytes.ofTwosComplement bytes)
      rw [Bytes.ofTwosComplement_twosComplement (Bytes.fits_twosComplementWidth number), width]
        at taken
      exact read_accepts 0x8A (pushed_accepts taken)
    · simp at written

theorem float_accepts (number : Binary64) :
    Accepts read (0x47 :: Bytes.bigEndian 8 number.bits.toNat) (push (.float number)) := by
  have fits : number.bits.toNat < Bytes.capacity 8 := number.bits.toNat_lt
  have taken := (Cursor.take_accepts_of_length
    (Bytes.bigEndian_length 8 number.bits.toNat)).map
    fun bytes => Object.float ⟨UInt64.ofNat (Bytes.ofBigEndian bytes)⟩
  rw [Bytes.ofBigEndian_bigEndian fits, UInt64.ofNat_toNat] at taken
  exact read_accepts 0x47 (pushed_accepts taken)

end Instruction

end Pickle

end MetricIntake
