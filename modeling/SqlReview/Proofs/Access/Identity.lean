import SqlReview.Access.Caller
import SqlReview.Proofs.Text.Cutting

/-!
# Who passes as a user

An authorization of the bearer scheme presents a token, and the caller is the last user whose
configured value is compared as that token. Main statement: a caller passes as a user if and only
if some configured value is the presented token, which is never empty, or is no text at all and
shown by a diagnostic in the same way. The second case is a gap: a user whose value is null can be
impersonated by anybody who presents the word for it.
-/

namespace SqlReview

/-! ## Presented tokens -/

namespace Access

/-- Whether an authorization presents a token: but for white space at its ends, it is the name of
the bearer scheme in any case, a blank, and the token between white space. -/
def Presents (authorization token : Text) : Prop :=
  ∃ scheme rest, Text.trim authorization = scheme ++ ' ' :: rest ∧ ' ' ∉ scheme ∧
    Text.lower scheme = "bearer".toList ∧ Text.trim rest = token ∧ token ≠ []

theorem bearerToken_eq_some_iff
    {authorization token : Text} :
    bearerToken authorization = some token ↔ Presents authorization token := by
  constructor
  · intro found
    rw [bearerToken] at found
    split at found
    next scheme rest parts =>
        obtain ⟨whole, absent⟩ := Text.cut_eq_iff.mp parts
        obtain ⟨accepted, same⟩ := Option.ite_none_right_eq_some.mp found
        simp only [Bool.and_eq_true, decide_eq_true_eq, Bool.not_eq_true'] at accepted
        refine ⟨scheme, rest, whole, absent, accepted.1, Option.some.inj same, ?_⟩
        rw [← Option.some.inj same, ne_eq, Text.trim_eq_nil_iff, accepted.2]
        exact Bool.false_ne_true
    next => contradiction
  · rintro ⟨scheme, rest, whole, absent, named, rfl, nonempty⟩
    have solid : Text.isAllBlank rest = false := by
      rwa [ne_eq, Text.trim_eq_nil_iff, Bool.not_eq_true] at nonempty
    rw [bearerToken, Text.cut_eq_iff.mpr ⟨whole, absent⟩]
    simp [named, solid]

/-- Whether header fields present a token. -/
def HeadersPresent
    (headers : Web.Headers)
    (token : Text) : Prop :=
  ∃ authorization, headers.get? "authorization" = some authorization ∧ Presents authorization token

theorem HeadersPresent.ne_nil
    {headers : Web.Headers}
    {token : Text}
    (presented : HeadersPresent headers token) :
    token ≠ [] := by
  obtain ⟨authorization, -, scheme, rest, -, -, -, -, nonempty⟩ := presented
  exact nonempty

/-- Who presents a token sends an authorization. -/
theorem HeadersPresent.isEmpty_valueOf
    {headers : Web.Headers}
    {token : Text}
    (presented : HeadersPresent headers token) :
    (headers.valueOf "authorization").isEmpty = false := by
  obtain ⟨authorization, given, scheme, rest, whole, -⟩ := presented
  rw [Web.Headers.valueOf, given, Option.getD_some, List.isEmpty_eq_false_iff]
  rintro rfl
  have nothing : Text.trim [] = [] := Text.trim_eq_nil_iff.mpr rfl
  rw [nothing] at whole
  simp at whole

/-! ## Configured values -/

/-- Whether a configured value is compared as a token: it is that text, or it is no text and shown
by a diagnostic in the same way. -/
def ComparesAs
    (value : Json)
    (token : Text) : Prop :=
  value = .string token ∨ value.text? = none ∧ value.display = token

theorem plainText_eq_iff
    {value : Json}
    {token : Text} :
    value.plainText = token ↔ ComparesAs value token := by
  cases value with
  | string text => simp [Json.plainText, ComparesAs, Json.text?]
  | null => simp [Json.plainText, ComparesAs, Json.text?]
  | bool value => simp [Json.plainText, ComparesAs, Json.text?]
  | int value => simp [Json.plainText, ComparesAs, Json.text?]
  | float value => simp [Json.plainText, ComparesAs, Json.text?]
  | array items => simp [Json.plainText, ComparesAs, Json.text?]
  | object fields => simp [Json.plainText, ComparesAs, Json.text?]

theorem comparesAs_string_iff
    {text token : Text} :
    ComparesAs (.string text) token ↔ text = token := by
  rw [← plainText_eq_iff, Json.plainText]

/-- Whether the last of the configured values that are compared as a token is that of a user. -/
def LastOwner
    (tokens : Fields)
    (token user : Text) : Prop :=
  ∃ before value after, tokens = before ++ (user, value) :: after ∧ ComparesAs value token ∧
    ∀ entry ∈ after, ¬ComparesAs entry.2 token

variable {tokens : Fields} {token user : Text}

theorem owner?_eq_some_iff
    (nonempty : token ≠ []) :
    owner? tokens token = some user ↔ LastOwner tokens token user := by
  have isEmpty : token.isEmpty = false := by simpa using nonempty
  rw [owner?, isEmpty, if_neg Bool.false_ne_true, List.getLast?_filter, Option.map_eq_some_iff]
  simp only [List.find?_eq_some_iff_append, decide_eq_true_eq, plainText_eq_iff, Bool.not_eq_true',
    decide_eq_false_iff_not]
  constructor
  · rintro ⟨⟨user, value⟩, ⟨compares, after, before, split, apart⟩, rfl⟩
    refine ⟨before.reverse, value, after.reverse, ?_, compares, ?_⟩
    · rw [List.reverse_eq_iff] at split
      rw [split]
      simp
    · intro entry present
      exact apart entry (List.mem_reverse.mp present)
  · rintro ⟨before, value, after, rfl, compares, apart⟩
    refine ⟨(user, value), ⟨compares, after.reverse, before.reverse, by simp, ?_⟩, rfl⟩
    intro entry present
    exact apart entry (List.mem_reverse.mp present)

/-- There is a last owner of a token as soon as one value is compared as the token. -/
theorem exists_lastOwner_iff :
    (∃ user, LastOwner tokens token user) ↔ ∃ entry ∈ tokens, ComparesAs entry.2 token := by
  constructor
  · rintro ⟨user, before, value, after, rfl, compares, -⟩
    exact ⟨(user, value), by simp, compares⟩
  · intro someone
    induction tokens with
    | nil => simp at someone
    | cons first rest inductionHypothesis =>
        by_cases later : ∃ entry ∈ rest, ComparesAs entry.2 token
        · obtain ⟨user, before, value, after, rfl, compares, apart⟩ := inductionHypothesis later
          exact ⟨user, first :: before, value, after, rfl, compares, apart⟩
        · obtain ⟨entry, present, compares⟩ := someone
          rcases List.mem_cons.mp present with rfl | inRest
          · exact ⟨entry.1, [], entry.2, rest, rfl, compares, by simpa using later⟩
          · exact absurd ⟨entry, inRest, compares⟩ later

/-! ## Callers -/

theorem presentedUser_eq_some_iff
    {headers : Web.Headers} :
    presentedUser headers tokens = some user ↔
      ∃ token, HeadersPresent headers token ∧ LastOwner tokens token user := by
  simp only [presentedUser, Option.bind_eq_some_iff, bearerToken_eq_some_iff]
  constructor
  · rintro ⟨authorization, given, token, presents, owned⟩
    have presented : HeadersPresent headers token := ⟨authorization, given, presents⟩
    exact ⟨token, presented, (owner?_eq_some_iff presented.ne_nil).mp owned⟩
  · rintro ⟨token, presented, owned⟩
    have nonempty := presented.ne_nil
    obtain ⟨authorization, given, presents⟩ := presented
    exact ⟨authorization, given, token, presents, (owner?_eq_some_iff nonempty).mpr owned⟩

theorem isAuthenticated_callerOf_iff
    {headers : Web.Headers}
    {peer : Option Text} :
    (callerOf headers peer tokens).isAuthenticated = true ↔
      ∃ token, HeadersPresent headers token ∧ ∃ entry ∈ tokens, ComparesAs entry.2 token := by
  rw [callerOf, Option.isSome_iff_exists]
  simp only [presentedUser_eq_some_iff, ← exists_lastOwner_iff]
  exact ⟨fun ⟨user, token, presented, owned⟩ => ⟨token, presented, user, owned⟩,
    fun ⟨token, presented, user, owned⟩ => ⟨user, token, presented, owned⟩⟩

/-- An authorization that presents the word that null is shown as. -/
def nullHeaders : Web.Headers :=
  [("Authorization", "Bearer None")]

theorem nullHeaders_present : HeadersPresent nullHeaders "None".toList :=
  ⟨"Bearer None".toList, rfl, "Bearer".toList, "None".toList, rfl, by decide, rfl, rfl, by decide⟩

/-- A caller passes as a user if and only if a configured value is the presented token, or is no
text and shown like it, and then as the last such user. So whoever presents the word for null
passes as soon as the value of any user is null. -/
theorem authenticates_iff
    (headers : Web.Headers)
    (peer : Option Text)
    (tokens : Fields) :
    ((callerOf headers peer tokens).isAuthenticated = true ↔
      ∃ token, HeadersPresent headers token ∧
        ((∃ user, (user, .string token) ∈ tokens) ∨
          ∃ user value, (user, value) ∈ tokens ∧ value.text? = none ∧ value.display = token)) ∧
    (∀ user, (callerOf headers peer tokens).user = some user ↔
      ∃ token, HeadersPresent headers token ∧ LastOwner tokens token user) ∧
    ((∃ user, (user, .null) ∈ tokens) →
      (callerOf nullHeaders peer tokens).isAuthenticated = true) := by
  refine ⟨?_, fun user => presentedUser_eq_some_iff, ?_⟩
  · rw [isAuthenticated_callerOf_iff]
    apply exists_congr
    intro token
    apply and_congr_right
    intro presented
    constructor
    · rintro ⟨⟨user, value⟩, present, rfl | shown⟩
      · exact Or.inl ⟨user, present⟩
      · exact Or.inr ⟨user, value, present, shown⟩
    · rintro (⟨user, present⟩ | ⟨user, value, present, shown⟩)
      · exact ⟨(user, .string token), present, Or.inl rfl⟩
      · exact ⟨(user, value), present, Or.inr shown⟩
  · rintro ⟨user, present⟩
    rw [isAuthenticated_callerOf_iff]
    exact ⟨"None".toList, nullHeaders_present, (user, .null), present, Or.inr ⟨rfl, rfl⟩⟩

/-- A caller who passes as a user although no configured value is a text. -/
theorem null_authenticates :
    (callerOf nullHeaders (some "203.0.113.7") [("alice", .null)]).isAuthenticated = true ∧
      ¬∃ entry ∈ ([("alice", .null)] : Fields), ∃ token, token ≠ [] ∧ entry.2 = .string token := by
  refine ⟨rfl, ?_⟩
  simp

end Access
end SqlReview
