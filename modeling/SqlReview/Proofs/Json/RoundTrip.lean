import SqlReview.Json.Reader
import SqlReview.Proofs.Json.Names
import SqlReview.Proofs.Json.Scalars
import SqlReview.Proofs.Json.Strings

/-!
# Documents written and read

A document is written token by token, with line breaks and blanks between the tokens, and read one
token after the other. Main statement: a value without floats is read back as it was, provided that
its arrays and objects are not nested more deeply than the reader allows, that its numbers are not
longer than a reader takes them, and that no object names a field twice.
-/

namespace SqlReview
namespace Json

/-! ## Values that are read back -/

/-- A value without floats that a reader takes as it is, inside a number of arrays and objects. -/
inductive IsReadable (tolerance : Tolerance) : Nat → Json → Prop where
  /-- The absent value. -/
  | null {depth : Nat} : IsReadable tolerance depth .null
  /-- A truth value. -/
  | bool {depth : Nat} {value : Bool} : IsReadable tolerance depth (.bool value)
  /-- A whole number that is not too long. -/
  | int {depth : Nat} {value : Int}
      (short : (Text.ofNat value.natAbs).length ≤ Decimal.digitLimit) :
      IsReadable tolerance depth (.int value)
  /-- A text. -/
  | string {depth : Nat} {value : Text} : IsReadable tolerance depth (.string value)
  /-- A list of values. -/
  | array {depth : Nat} {items : List Json} (allowed : tolerance.allows depth = true)
      (readable : ∀ item ∈ items, IsReadable tolerance (depth + 1) item) :
      IsReadable tolerance depth (.array items)
  /-- Values under distinct names. -/
  | object {depth : Nat} {fields : Fields} (allowed : tolerance.allows depth = true)
      (distinct : fields.names.Nodup)
      (readable : ∀ field ∈ fields, IsReadable tolerance (depth + 1) field.2) :
      IsReadable tolerance depth (.object fields)

/-! ## Tokens of values -/

mutual

/-- The tokens of a value. -/
def toTokens : Json → List Token
  | .null => [.scalar .null]
  | .bool value => [.scalar (.bool value)]
  | .int value => [.scalar (.int value)]
  | .float value => [.scalar (.float value)]
  | .string value => [.string value]
  | .array [] => [.openArray, .closeArray]
  | .array (item :: items) => .openArray :: toTokens item ++ itemTokens items ++ [.closeArray]
  | .object [] => [.openObject, .closeObject]
  | .object ((name, value) :: fields) =>
    .openObject :: .string name :: .colon :: toTokens value ++ fieldTokens fields ++ [.closeObject]

/-- The tokens of the items behind the first. -/
def itemTokens : List Json → List Token
  | [] => []
  | item :: items => .comma :: toTokens item ++ itemTokens items

/-- The tokens of the fields behind the first. -/
def fieldTokens : List (Text × Json) → List Token
  | [] => []
  | (name, value) :: fields =>
    .comma :: .string name :: .colon :: toTokens value ++ fieldTokens fields

end

/-! ## Tokens in texts -/

namespace Reading

variable {tolerance : Tolerance}

theorem run_cons
    (reading : Reading)
    (token : Token)
    (tokens : List Token) :
    run tolerance reading (token :: tokens) =
      step tolerance reading token >>= fun next => run tolerance next tokens :=
  List.foldlM_cons ..

theorem run_append
    (reading : Reading)
    (front back : List Token) :
    run tolerance reading (front ++ back) =
      run tolerance reading front >>= fun next => run tolerance next back :=
  List.foldlM_append ..

end Reading

/-- A text begins with tokens in front of a rest: reading goes through them and then on to the
rest. -/
def Begins (tolerance : Tolerance) (text : Text) (tokens : List Token) (rest : Text) : Prop :=
  ∀ steps, text.length ≤ steps → ∃ stepsLeft, rest.length ≤ stepsLeft ∧
    ∀ reading, readWithin tolerance steps reading text =
      reading.run tolerance tokens >>= fun next => readWithin tolerance stepsLeft next rest

section Texts

variable {tolerance : Tolerance}

theorem Begins.trans
    {text middle rest : Text}
    {front back : List Token}
    (first : Begins tolerance text front middle)
    (second : Begins tolerance middle back rest) :
    Begins tolerance text (front ++ back) rest := by
  intro steps enough
  obtain ⟨stepsMiddle, enoughMiddle, same⟩ := first steps enough
  obtain ⟨stepsLeft, enoughLeft, sameMiddle⟩ := second stepsMiddle enoughMiddle
  refine ⟨stepsLeft, enoughLeft, fun reading => ?_⟩
  simp only [same, sameMiddle, Reading.run_append, bind_assoc]

theorem Begins.refl
    (text : Text) :
    Begins tolerance text [] text := by
  intro steps enough
  exact ⟨steps, enough, fun _ => rfl⟩

/-- One character that may stand between tokens. -/
theorem Begins.space
    {c : Char}
    {text rest : Text}
    {tokens : List Token}
    (isBlank : isSpace c = true)
    (begins : Begins tolerance text tokens rest) :
    Begins tolerance (c :: text) tokens rest := by
  intro steps enough
  cases steps with
  | zero => simp at enough
  | succ steps =>
      obtain ⟨stepsLeft, enoughLeft, same⟩ := begins steps (by simpa using enough)
      refine ⟨stepsLeft, enoughLeft, fun reading => ?_⟩
      rw [readWithin, if_pos isBlank, same]

/-- One token. -/
theorem Begins.token
    {c : Char}
    {text rest : Text}
    {token : Token}
    (noBlank : isSpace c = false)
    (read : readToken tolerance.standIn c text = .ok (token, rest))
    (shorter : rest.length ≤ text.length) :
    Begins tolerance (c :: text) [token] rest := by
  intro steps enough
  cases steps with
  | zero => simp at enough
  | succ steps =>
      simp only [List.length_cons, Nat.add_le_add_iff_right] at enough
      refine ⟨steps, by omega, fun reading => ?_⟩
      rw [readWithin, noBlank, if_neg Bool.false_ne_true, read, Reading.run_cons]
      dsimp only
      cases reading.step tolerance token with
      | error fault => rfl
      | ok next => rfl

/-! ## Writing -/

theorem begins_lineStart
    (depth : Nat)
    (rest : Text) :
    Begins tolerance (lineStart depth ++ rest) [] rest := by
  have blanks : ∀ count, Begins tolerance (List.replicate count ' ' ++ rest) [] rest := by
    intro count
    induction count with
    | zero => exact .refl rest
    | succ count inductionHypothesis => exact .space rfl inductionHypothesis
  exact .space rfl (blanks (2 * depth))

theorem begins_writeString
    (text rest : Text) :
    Begins tolerance (writeString text ++ rest) [.string text] rest := by
  have read := @readString_writeString tolerance.standIn text rest
  simp only [writeString, List.cons_append, List.append_assoc, List.nil_append]
  refine .token rfl ?_ ?_
  · simp [readToken, read]
  · simp
    omega

/-- The characters with which no scalar starts: the marks, the quote and the blanks. -/
def marks : List Char :=
  ['[', ']', '\x7b', '\x7d', ',', ':', '"', ' ', '\t', '\n', '\r']

/-- A scalar that a word or a numeral stands for. -/
theorem begins_scalar
    {c : Char}
    {text rest : Text}
    {value : Json}
    (noMark : c ∉ marks)
    (read : readWord? (c :: text ++ rest) = some (value, rest) ∨
      readWord? (c :: text ++ rest) = none ∧ readNumber (c :: text ++ rest) = .ok (value, rest)) :
    Begins tolerance (c :: text ++ rest) [.scalar value] rest := by
  simp only [marks, List.mem_cons, List.not_mem_nil, or_false, not_or] at noMark
  obtain ⟨noArray, noArrayEnd, noObject, noObjectEnd, noComma, noColon, noQuote, noSpace⟩ := noMark
  rw [List.cons_append] at read ⊢
  refine .token (by simp [isSpace, noSpace]) ?_ (by simp)
  rw [readToken, if_neg noArray, if_neg noArrayEnd, if_neg noObject, if_neg noObjectEnd,
    if_neg noComma, if_neg noColon, if_neg noQuote]
  rcases read with word | ⟨noWord, number⟩
  · rw [word]
  · rw [noWord, number]
    rfl

theorem begins_bool
    (value : Bool)
    (depth : Nat)
    (rest : Text) :
    Begins tolerance (write depth (.bool value) ++ rest) [.scalar (.bool value)] rest := by
  have read := readWord?_bool value rest
  rw [write]
  cases value
  · exact begins_scalar (by decide) (.inl read)
  · exact begins_scalar (by decide) (.inl read)

theorem begins_ofInt
    {n : Int}
    {rest : Text}
    (short : (Text.ofNat n.natAbs).length ≤ Decimal.digitLimit)
    (ends : EndsValue rest) :
    Begins tolerance (Text.ofInt n ++ rest) [.scalar (.int n)] rest := by
  have read := And.intro (readWord?_ofInt n rest) (readNumber_ofInt short ends)
  cases n with
  | ofNat n =>
      obtain ⟨c, later, starts, isDigit⟩ := ofNat_eq_cons n
      rw [Text.ofInt, starts] at read ⊢
      refine begins_scalar ?_ (.inr read)
      intro isMark
      have noDigit : marks.any Char.isDigit = false := by decide
      exact List.any_eq_false.mp noDigit c isMark isDigit
  | negSucc n => exact begins_scalar (by decide) (.inr read)

/-- A mark of one character. -/
theorem begins_mark
    {c : Char}
    {token : Token}
    {text rest : Text}
    {tokens : List Token}
    (noBlank : isSpace c = false)
    (read : ∀ rest, readToken tolerance.standIn c rest = .ok (token, rest))
    (begins : Begins tolerance text tokens rest) :
    Begins tolerance (c :: text) (token :: tokens) rest :=
  (Begins.token noBlank (read text) (Nat.le_refl _)).trans begins

theorem begins_writeItems
    {depth : Nat}
    {items : List Json}
    {rest : Text}
    (each : ∀ item ∈ items, ∀ rest, EndsValue rest →
      Begins tolerance (write depth item ++ rest) (toTokens item) rest)
    (ends : EndsValue rest) :
    Begins tolerance (writeItems depth items ++ rest) (itemTokens items) rest := by
  induction items with
  | nil => exact .refl rest
  | cons item items inductionHypothesis =>
      obtain ⟨first, others⟩ := List.forall_mem_cons.mp each
      have endsFirst : EndsValue (writeItems depth items ++ rest) := by
        cases items with
        | nil => exact ends
        | cons => simp [writeItems]
      simp only [writeItems, itemTokens, List.cons_append, List.append_assoc]
      refine begins_mark rfl (fun _ => rfl) ((begins_lineStart depth _).trans ?_)
      exact (first _ endsFirst).trans (inductionHypothesis others)

theorem begins_writeFields
    {depth : Nat}
    {fields : Fields}
    {rest : Text}
    (each : ∀ field ∈ fields, ∀ rest, EndsValue rest →
      Begins tolerance (write depth field.2 ++ rest) (toTokens field.2) rest)
    (ends : EndsValue rest) :
    Begins tolerance (writeFields depth fields ++ rest) (fieldTokens fields) rest := by
  induction fields with
  | nil => exact .refl rest
  | cons field fields inductionHypothesis =>
      obtain ⟨name, value⟩ := field
      obtain ⟨first, others⟩ := List.forall_mem_cons.mp each
      have endsFirst : EndsValue (writeFields depth fields ++ rest) := by
        cases fields with
        | nil => exact ends
        | cons => simp [writeFields]
      simp only [writeFields, fieldTokens, List.cons_append, List.append_assoc]
      refine begins_mark rfl (fun _ => rfl) ((begins_lineStart depth _).trans ?_)
      refine (begins_writeString name _).trans ?_
      refine begins_mark rfl (fun _ => rfl) (.space rfl ?_)
      exact (first _ endsFirst).trans (inductionHypothesis others)

/-- A value is written as its tokens. -/
theorem begins_write
    {depth : Nat}
    {value : Json}
    (readable : IsReadable tolerance depth value)
    (level : Nat)
    {rest : Text}
    (ends : EndsValue rest) :
    Begins tolerance (write level value ++ rest) (toTokens value) rest := by
  induction readable generalizing level rest with
  | null => exact begins_scalar (by decide) (.inl (readWord?_null rest))
  | bool => exact begins_bool _ level rest
  | int short => exact begins_ofInt short ends
  | string => exact begins_writeString _ rest
  | @array depth items allowed readable inductionHypothesis =>
      cases items with
      | nil => exact begins_mark rfl (fun _ => rfl) (begins_mark rfl (fun _ => rfl) (.refl rest))
      | cons item items =>
          have each := List.forall_mem_cons.mp fun item present rest ends =>
            @inductionHypothesis item present (level + 1) rest ends
          have close : Begins tolerance (lineStart level ++ ']' :: rest) [.closeArray] rest :=
            (begins_lineStart level _).trans (begins_mark rfl (fun _ => rfl) (.refl rest))
          simp only [write, toTokens, List.cons_append, List.append_assoc, List.nil_append]
          refine begins_mark rfl (fun _ => rfl) ((begins_lineStart (level + 1) _).trans ?_)
          refine (each.1 _ ?_).trans ((begins_writeItems each.2 ?_).trans close)
          · cases items <;> simp [writeItems, lineStart]
          · simp [lineStart]
  | @object depth fields allowed distinct readable inductionHypothesis =>
      cases fields with
      | nil => exact begins_mark rfl (fun _ => rfl) (begins_mark rfl (fun _ => rfl) (.refl rest))
      | cons field fields =>
          obtain ⟨name, value⟩ := field
          have each := List.forall_mem_cons.mp fun field present rest ends =>
            @inductionHypothesis field present (level + 1) rest ends
          have close : Begins tolerance (lineStart level ++ '\x7d' :: rest) [.closeObject] rest :=
            (begins_lineStart level _).trans (begins_mark rfl (fun _ => rfl) (.refl rest))
          simp only [write, toTokens, List.cons_append, List.append_assoc, List.nil_append]
          refine begins_mark rfl (fun _ => rfl) ((begins_lineStart (level + 1) _).trans ?_)
          refine (begins_writeString name _).trans ?_
          refine begins_mark rfl (fun _ => rfl) (.space rfl ?_)
          refine (each.1 _ ?_).trans ((begins_writeFields each.2 ?_).trans close)
          · cases fields <;> simp [writeFields, lineStart]
          · simp [lineStart]

end Texts

/-! ## Reading -/

namespace Reading

variable {tolerance : Tolerance}

/-- Whether reading the tokens of a value completes it, inside a number of frames. -/
def Completes (tolerance : Tolerance) (depth : Nat) (value : Json) : Prop :=
  ∀ stack : List Frame, stack.length = depth →
    run tolerance (.awaiting stack) (toTokens value) = .ok (.complete value stack)

/-- The first item of an array is read like any other. -/
theorem run_firstItem
    (stack : List Frame)
    (value : Json)
    (tokens : List Token) :
    run tolerance (.firstItem stack) (toTokens value ++ tokens) =
      run tolerance (.awaiting (.items [] :: stack)) (toTokens value ++ tokens) := by
  have starts : ∃ first others, toTokens value = first :: others ∧ first ≠ .closeArray := by
    unfold toTokens
    split <;> exact ⟨_, _, rfl, by simp⟩
  obtain ⟨first, others, same, noEnd⟩ := starts
  rw [same, List.cons_append, run_cons, run_cons]
  cases first with
  | closeArray => contradiction
  | _ => rfl

theorem run_of_completes
    {stack : List Frame}
    {value : Json}
    (completes : Completes tolerance stack.length value)
    (tokens : List Token) :
    run tolerance (.awaiting stack) (toTokens value ++ tokens) =
      run tolerance (.complete value stack) tokens := by
  rw [run_append, completes stack rfl]
  rfl

/-- The items behind a complete one and the end of the array. -/
theorem run_itemTokens
    {items : List Json}
    {stack : List Frame}
    (each : ∀ item ∈ items, Completes tolerance (stack.length + 1) item)
    (before : List Json)
    (value : Json) :
    run tolerance (.complete value (.items before :: stack)) (itemTokens items ++ [.closeArray]) =
      .ok (.complete (.array (before.reverse ++ value :: items)) stack) := by
  induction items generalizing before value with
  | nil =>
      rw [itemTokens, List.nil_append, run_cons, step, continueFrom, List.reverse_cons]
      rfl
  | cons item items inductionHypothesis =>
      obtain ⟨first, others⟩ := List.forall_mem_cons.mp each
      have later := inductionHypothesis others (value :: before) item
      rw [List.reverse_cons, List.append_assoc] at later
      rw [itemTokens, List.cons_append, List.cons_append, List.append_assoc, run_cons]
      exact (run_of_completes first _).trans later

/-- The fields behind a complete one and the end of the object. -/
theorem run_fieldTokens
    {fields before : Fields}
    {stack : List Frame}
    {name : Text}
    {value : Json}
    (each : ∀ field ∈ fields, Completes tolerance (stack.length + 1) field.2) :
    run tolerance (.complete value (.field before name :: stack))
        (fieldTokens fields ++ [.closeObject]) =
      .ok (.complete (.object (before.reverse ++ (name, value) :: fields)) stack) := by
  induction fields generalizing before name value with
  | nil =>
      rw [fieldTokens, List.nil_append, run_cons, step, continueFrom, List.reverse_cons]
      rfl
  | cons field fields inductionHypothesis =>
      obtain ⟨next, nextValue⟩ := field
      obtain ⟨first, others⟩ := List.forall_mem_cons.mp each
      have later := @inductionHypothesis ((name, value) :: before) next nextValue others
      rw [List.reverse_cons, List.append_assoc] at later
      have tokens : fieldTokens ((next, nextValue) :: fields) ++ [.closeObject] =
          .comma :: .string next :: .colon ::
            (toTokens nextValue ++ (fieldTokens fields ++ [.closeObject])) := by
        simp [fieldTokens]
      rw [tokens, run_cons]
      exact (run_of_completes first _).trans later

/-- The tokens of a value make it complete. -/
theorem completes_of_isReadable
    {depth : Nat}
    {value : Json}
    (readable : IsReadable tolerance depth value) :
    Completes tolerance depth value := by
  induction readable with
  | null => rintro stack rfl; rfl
  | bool => rintro stack rfl; rfl
  | int => rintro stack rfl; rfl
  | string => rintro stack rfl; rfl
  | @array depth items allowed readable inductionHypothesis =>
      rintro stack rfl
      have opens : step tolerance (.awaiting stack) .openArray = .ok (.firstItem stack) :=
        if_pos allowed
      cases items with
      | nil => rw [toTokens, run_cons, opens]; rfl
      | cons item items =>
          obtain ⟨first, others⟩ := List.forall_mem_cons.mp inductionHypothesis
          have tokens : toTokens (.array (item :: items)) =
              .openArray :: (toTokens item ++ (itemTokens items ++ [.closeArray])) := by
            simp [toTokens]
          rw [tokens, run_cons, opens]
          refine (run_firstItem stack item _).trans ?_
          exact (run_of_completes first _).trans (run_itemTokens others [] item)
  | @object depth fields allowed distinct readable inductionHypothesis =>
      rintro stack rfl
      have opens : step tolerance (.awaiting stack) .openObject =
          .ok (.fieldName true [] stack) := if_pos allowed
      cases fields with
      | nil => rw [toTokens, run_cons, opens]; rfl
      | cons field fields =>
          obtain ⟨name, value⟩ := field
          obtain ⟨first, others⟩ := List.forall_mem_cons.mp inductionHypothesis
          have tokens : toTokens (.object ((name, value) :: fields)) =
              .openObject :: .string name :: .colon ::
                (toTokens value ++ (fieldTokens fields ++ [.closeObject])) := by
            simp [toTokens]
          rw [tokens, run_cons, opens]
          exact (run_of_completes first _).trans (run_fieldTokens others)

end Reading

/-! ## Settled values -/

theorem settledItems_of_forall
    {items : List Json}
    (each : ∀ item ∈ items, settled item = item) :
    settledItems items = items := by
  induction items with
  | nil => rfl
  | cons item items inductionHypothesis =>
      obtain ⟨first, others⟩ := List.forall_mem_cons.mp each
      rw [settledItems, first, inductionHypothesis others]

/-- Fields with new names come last one after the other. -/
theorem settledFields_of_forall
    {fields before : Fields}
    (distinct : (Fields.names (before ++ fields)).Nodup)
    (each : ∀ field ∈ fields, settled field.2 = field.2) :
    settledFields before fields = before ++ fields := by
  induction fields generalizing before with
  | nil => rw [settledFields, List.append_nil]
  | cons field fields inductionHypothesis =>
      obtain ⟨name, value⟩ := field
      obtain ⟨first, others⟩ := List.forall_mem_cons.mp each
      dsimp only at first
      have isNew : name ∉ Fields.names before := by
        rw [Fields.names, List.map_append, List.nodup_append] at distinct
        intro present
        exact distinct.2.2 name present name (List.mem_cons_self ..) rfl
      rw [settledFields, first, Fields.put_of_not_mem isNew, inductionHypothesis _ others,
        List.append_assoc, List.singleton_append]
      rwa [List.append_assoc, List.singleton_append]

/-- In a value that can be read back each name comes once, so that it is settled. -/
theorem settled_of_isReadable
    {tolerance : Tolerance}
    {depth : Nat}
    {value : Json}
    (readable : IsReadable tolerance depth value) :
    settled value = value := by
  induction readable with
  | null => rfl
  | bool => rfl
  | int => rfl
  | string => rfl
  | array allowed readable inductionHypothesis =>
      rw [settled, settledItems_of_forall inductionHypothesis]
  | @object depth fields allowed distinct readable inductionHypothesis =>
      have distinctBehind : (Fields.names ([] ++ fields)).Nodup := distinct
      rw [settled, settledFields_of_forall distinctBehind inductionHypothesis, List.nil_append]

/-! ## Both directions -/

/-- A value that was written is spelled by the text. -/
theorem read_render
    {tolerance : Tolerance}
    {value : Json}
    (readable : IsReadable tolerance 0 value) :
    read tolerance (render value) = .ok value := by
  have written : Begins tolerance (render value) (toTokens value) [] := by
    have begins : Begins tolerance (write 0 value ++ []) (toTokens value) [] :=
      begins_write readable 0 endsValue_nil
    rwa [List.append_nil] at begins
  obtain ⟨stepsLeft, -, same⟩ := written (render value).length (Nat.le_refl _)
  rw [read, same, Reading.completes_of_isReadable readable [] rfl]
  cases stepsLeft <;> rfl

/-- A value that was written is read back as it was. -/
theorem parse_render
    {tolerance : Tolerance}
    {value : Json}
    (readable : IsReadable tolerance 0 value) :
    parse tolerance (render value) = .ok value := by
  rw [parse, read_render readable, Except.map, settled_of_isReadable readable]

end Json
end SqlReview
