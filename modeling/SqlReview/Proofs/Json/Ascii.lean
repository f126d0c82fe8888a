import SqlReview.Proofs.Json.RoundTrip
import SqlReview.Text.Utf8

/-!
# The characters of documents

A document consists of ASCII characters only, whatever its strings hold: what lies beyond is
escaped, and the digits of an escape are plain. So a document takes one byte for each character.
-/

namespace SqlReview
namespace Json

/-- Whether all characters of a text are ASCII. -/
def IsAscii (text : Text) : Prop :=
  ∀ c ∈ text, c.toNat < 0x80

instance (text : Text) : Decidable (IsAscii text) :=
  inferInstanceAs (Decidable (∀ c ∈ text, c.toNat < 0x80))

section Texts

variable {text : Text} {c : Char}

@[simp] theorem isAscii_nil : IsAscii [] := by simp [IsAscii]

@[simp] theorem isAscii_cons :
    IsAscii (c :: text) ↔ c.toNat < 0x80 ∧ IsAscii text :=
  List.forall_mem_cons

@[simp] theorem isAscii_append
    {other : Text} :
    IsAscii (text ++ other) ↔ IsAscii text ∧ IsAscii other :=
  List.forall_mem_append

end Texts

/-! ## Strings -/

theorem isAscii_unitEscape
    {unit : Nat}
    (small : unit < 0x10000) :
    IsAscii (unitEscape unit) := by
  have digit : ∀ value < 0x10, value.digitChar.toNat < 0x80 := by decide
  have isDigit : ∀ n, n % 0x10 < 0x10 := fun n => Nat.mod_lt n (by decide)
  rw [unitEscape, hexadecimal_four small]
  simp only [isAscii_cons, isAscii_nil, and_true]
  exact ⟨by decide, by decide, digit _ (by omega), digit _ (isDigit _), digit _ (isDigit _),
    digit _ (isDigit _)⟩

theorem isAscii_writeChar
    (c : Char) :
    IsAscii (writeChar c) := by
  have range : c.toNat < 0x110000 := toNat_lt c
  have escape : ∀ letter : Char, letter.toNat < 0x80 → IsAscii ['\\', letter] := by
    intro letter plain
    simp [plain]
  unfold writeChar
  iterate 7
    split
    · exact escape _ (by decide)
  split
  next plain =>
      simp only [Bool.and_eq_true, decide_eq_true_eq] at plain
      simp only [isAscii_cons, isAscii_nil, and_true]
      omega
  split
  next basic => exact isAscii_unitEscape basic
  next astral =>
      exact isAscii_append.mpr ⟨isAscii_unitEscape (by omega), isAscii_unitEscape (by omega)⟩

theorem isAscii_writeString
    (text : Text) :
    IsAscii (writeString text) := by
  have inside : IsAscii (text.flatMap writeChar) := by
    intro c present
    obtain ⟨written, -, holds⟩ := List.mem_flatMap.mp present
    exact isAscii_writeChar written c holds
  simp [writeString, inside]

/-! ## Values -/

theorem isAscii_ofInt
    (n : Int) :
    IsAscii (Text.ofInt n) := by
  have digits : ∀ n, IsAscii (Text.ofNat n) := by
    intro n c present
    have isDigit := isDigit_of_mem_ofNat present
    simp only [Char.isDigit, Bool.and_eq_true, decide_eq_true_eq] at isDigit
    exact Nat.lt_of_le_of_lt (UInt32.le_iff_toNat_le.mp isDigit.2) (by decide)
  cases n with
  | ofNat n => exact digits n
  | negSucc n => exact isAscii_cons.mpr ⟨by decide, digits (n + 1)⟩

theorem isAscii_lineStart
    (depth : Nat) :
    IsAscii (lineStart depth) := by
  refine isAscii_cons.mpr ⟨by decide, fun c present => ?_⟩
  rw [List.eq_of_mem_replicate present]
  decide

theorem isAscii_writeItems
    {depth : Nat}
    {items : List Json}
    (each : ∀ item ∈ items, IsAscii (write depth item)) :
    IsAscii (writeItems depth items) := by
  induction items with
  | nil => exact isAscii_nil
  | cons item items inductionHypothesis =>
      obtain ⟨first, others⟩ := List.forall_mem_cons.mp each
      simp [writeItems, isAscii_lineStart, first, inductionHypothesis others]

theorem isAscii_writeFields
    {depth : Nat}
    {fields : Fields}
    (each : ∀ field ∈ fields, IsAscii (write depth field.2)) :
    IsAscii (writeFields depth fields) := by
  induction fields with
  | nil => exact isAscii_nil
  | cons field fields inductionHypothesis =>
      obtain ⟨first, others⟩ := List.forall_mem_cons.mp each
      simp [writeFields, isAscii_lineStart, isAscii_writeString, first, inductionHypothesis others]

/-- A value that can be read back is written in ASCII characters. -/
theorem isAscii_write
    {tolerance : Tolerance}
    {depth : Nat}
    {value : Json}
    (readable : IsReadable tolerance depth value)
    (level : Nat) :
    IsAscii (write level value) := by
  induction readable generalizing level with
  | null => simp [write]
  | @bool depth value => cases value <;> simp [write]
  | int => exact isAscii_ofInt _
  | string => exact isAscii_writeString _
  | @array depth items allowed readable inductionHypothesis =>
      cases items with
      | nil => simp [write]
      | cons item items =>
          have each := List.forall_mem_cons.mp fun item present =>
            inductionHypothesis item present (level + 1)
          simp [write, isAscii_lineStart, each.1, isAscii_writeItems each.2]
  | @object depth fields allowed distinct readable inductionHypothesis =>
      cases fields with
      | nil => simp [write]
      | cons field fields =>
          have each := List.forall_mem_cons.mp fun field present =>
            inductionHypothesis field present (level + 1)
          simp [write, isAscii_lineStart, isAscii_writeString, each.1, isAscii_writeFields each.2]

/-! ## Bytes -/

/-- The bytes of a text in ASCII. -/
def bytes (text : Text) : List UInt8 :=
  text.map fun c => UInt8.ofNat c.toNat

section Bytes

variable {text : Text}

theorem decodeFrom_bytes
    (ascii : IsAscii text) :
    Text.decodeFrom none (bytes text) = text.map some := by
  induction text with
  | nil => rfl
  | cons c text inductionHypothesis =>
      obtain ⟨small, rest⟩ := isAscii_cons.mp ascii
      have byte : (UInt8.ofNat c.toNat).toNat = c.toNat := by
        rw [UInt8.toNat_ofNat']
        omega
      have lead : Text.stepByte none (UInt8.ofNat c.toNat).toNat = ([some c], none) := by
        rw [byte, Text.stepByte, Text.leadByte, if_pos small, Char.ofNat_toNat]
      rw [bytes, List.map_cons, Text.decodeFrom, lead, List.map_cons]
      exact congrArg (some c :: ·) (inductionHypothesis rest)

/-- The bytes of a text in ASCII are read as the text. -/
theorem decode?_bytes
    (ascii : IsAscii text) :
    Text.decode? (bytes text) = some text := by
  rw [Text.decode?, decodeFrom_bytes ascii, List.mapM_map]
  exact (List.mapM_pure (m := Option) (f := id)).trans (congrArg some (List.map_id text))

end Bytes
end Json
end SqlReview
