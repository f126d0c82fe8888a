import SqlReview.Proofs.Access.Identity
import SqlReview.Proofs.Json.Names
import SqlReview.Proofs.Text.Layout
import SqlReview.Proofs.Text.Small
import SqlReview.Settings.Basic

/-!
# Credentials in the environment

The environment may list users with their tokens: entries with commas between them, each with a
colon between the user and the token. Main statements: a list that is written entry by entry is read
back as it was written, and then a header that presents one of the tokens stands for its user, and
any other header for nobody; and whatever the list is, a token that was accepted from it passes if
and only if it is configured without the white space at its ends too. An entry is trimmed as a
whole, so that white space behind the colon belongs to the token, and no header can present that.
-/

namespace SqlReview
namespace Access

/-! ## Lists of credentials -/

/-- A user with a token, such that both can be told apart in a list. -/
structure Credential where
  /-- The user. -/
  user : Text
  /-- The token of the user, which may hold colons. -/
  token : Text
  /-- The user has a name. -/
  user_ne_nil : user ≠ []
  /-- The token is not empty. -/
  token_ne_nil : token ≠ []
  /-- The name of the user holds none of the marks of a list. -/
  user_marks : ',' ∉ user ∧ ':' ∉ user
  /-- The token does not hold the mark between entries. -/
  token_mark : ',' ∉ token
  /-- There is no white space around the name of the user. -/
  user_ends : user.head?.any Text.isBlank = false ∧ user.getLast?.any Text.isBlank = false
  /-- There is no white space around the token. -/
  token_ends : token.head?.any Text.isBlank = false ∧ token.getLast?.any Text.isBlank = false

namespace Credential

/-- The credential in writing. -/
def text (credential : Credential) : Text :=
  credential.user ++ ':' :: credential.token

/-- The credential in a table of tokens. -/
def field (credential : Credential) : Text × Json :=
  (credential.user, .string credential.token)

theorem ends_text (credential : Credential) :
    credential.text.head?.any Text.isBlank = false ∧
      credential.text.getLast?.any Text.isBlank = false := by
  obtain ⟨user, token, user_ne_nil, token_ne_nil, -, -, user_ends, token_ends⟩ := credential
  obtain ⟨c, rest, rfl⟩ := List.exists_cons_of_ne_nil user_ne_nil
  refine ⟨user_ends.1, ?_⟩
  rw [text, List.getLast?_append_of_ne_nil _ (List.cons_ne_nil _ _),
    List.getLast?_cons_of_ne_nil token_ne_nil]
  exact token_ends.2

end Credential

/-- An entry of a list: nothing but white space, or a credential between white space. -/
inductive Entry where
  /-- White space. -/
  | blank (space : Text) (isBlank : space.isAllBlank = true)
  /-- A credential. -/
  | named (front : Text) (credential : Credential) (back : Text)
      (frontBlank : front.isAllBlank = true) (backBlank : back.isAllBlank = true)

namespace Entry

/-- The entry in writing. -/
def text : Entry → Text
  | blank space _ => space
  | named front credential back _ _ => front ++ (credential.text ++ back)

/-- The credential of an entry, if there is one. -/
def credential? : Entry → Option Credential
  | blank _ _ => none
  | named _ credential _ _ _ => some credential

theorem noComma_of_isAllBlank
    {space : Text}
    (isBlank : space.isAllBlank = true) :
    ',' ∉ space := by
  intro present
  rw [Text.isAllBlank, List.all_eq_true] at isBlank
  exact absurd (isBlank ',' present) (by decide)

theorem noComma_text (entry : Entry) : ',' ∉ entry.text := by
  cases entry with
  | blank space isBlank => exact noComma_of_isAllBlank isBlank
  | named front credential back frontBlank backBlank =>
      simp [text, Credential.text, noComma_of_isAllBlank frontBlank,
        noComma_of_isAllBlank backBlank, credential.user_marks.1, credential.token_mark]

theorem tokenEntry?_text (entry : Entry) :
    Settings.tokenEntry? entry.text = entry.credential?.map fun credential =>
      (credential.user, credential.token) := by
  cases entry with
  | blank space isBlank =>
      rw [Settings.tokenEntry?, text, Text.trim_eq_nil_iff.mpr isBlank]
      rfl
  | named front credential back frontBlank backBlank =>
      have parts : Text.cut ':' credential.text = (credential.user, some credential.token) :=
        Text.cut_eq_iff.mpr ⟨rfl, credential.user_marks.2⟩
      rw [Settings.tokenEntry?, text, Text.trim_enclosed frontBlank backBlank credential.ends_text,
        parts]
      simp [credential?, credential.user_ne_nil, credential.token_ne_nil]

end Entry

/-- A list in writing. -/
def listText (entries : List Entry) : Text :=
  Text.join [','] (entries.map Entry.text)

/-- The credentials in a list. -/
def credentials (entries : List Entry) : List Credential :=
  entries.filterMap Entry.credential?

/-! ## Reading lists -/

/-- Values for new users are put into a table in order. -/
theorem foldl_put_eq
    {listed : List (Text × Text)}
    {table : Fields}
    (distinct : (table.names ++ listed.map Prod.fst).Nodup) :
    listed.foldl (fun table entry => Fields.put entry.1 (.string entry.2) table) table =
      table ++ listed.map fun entry => (entry.1, .string entry.2) := by
  induction listed generalizing table with
  | nil => simp
  | cons entry listed inductionHypothesis =>
      have absent : entry.1 ∉ table.names := by
        intro present
        exact (List.disjoint_of_nodup_append distinct) present (.head _)
      rw [List.foldl_cons, Fields.put_of_not_mem absent, inductionHypothesis, List.map_cons,
        List.append_assoc, List.singleton_append]
      simpa [Fields.names] using distinct

theorem readTokens_listText
    {entries : List Entry}
    (distinct : ((credentials entries).map Credential.user).Nodup) :
    Settings.readTokens (listText entries) = (credentials entries).map Credential.field := by
  have pieces : (Text.splitAt ',' (listText entries)).filterMap Settings.tokenEntry? =
      (credentials entries).map fun credential => (credential.user, credential.token) := by
    have read : (entries.map Entry.text).filterMap Settings.tokenEntry? =
        (credentials entries).map fun credential => (credential.user, credential.token) := by
      rw [List.filterMap_map, credentials, List.map_filterMap]
      exact congrArg entries.filterMap (funext Entry.tokenEntry?_text)
    cases entries with
    | nil => rfl
    | cons entry entries =>
        have absent : ∀ piece ∈ (entry :: entries).map Entry.text, ',' ∉ piece := by
          intro piece present
          obtain ⟨entry, -, rfl⟩ := List.mem_map.mp present
          exact entry.noComma_text
        have nonempty : (entry :: entries).map Entry.text ≠ [] := List.cons_ne_nil _ _
        rw [listText, Text.splitAt_join nonempty absent, read]
  rw [Settings.readTokens, pieces, foldl_put_eq, List.nil_append, List.map_map]
  · rfl
  · rw [Fields.names_nil, List.nil_append, List.map_map]
    exact distinct

/-- The environment takes the place of the table in the file. -/
theorem tokens_eq
    {settings : Settings}
    {listed : Text}
    (configured : settings.environment.get? "QUERY_ADVISOR_API_TOKENS" = some listed) :
    settings.tokens = .ok (Settings.readTokens listed) := by
  rw [Settings.tokens, configured]

/-! ## Owners -/

section Owners

variable {users : List Credential}

theorem owner?_of_mem
    (distinct : (users.map Credential.token).Nodup)
    {credential : Credential}
    (present : credential ∈ users) :
    owner? (users.map Credential.field) credential.token = some credential.user := by
  obtain ⟨before, after, rfl⟩ := List.append_of_mem present
  rw [owner?_eq_some_iff credential.token_ne_nil]
  refine ⟨before.map Credential.field, .string credential.token, after.map Credential.field,
    by simp [Credential.field], Or.inl rfl, ?_⟩
  intro entry later
  obtain ⟨other, isLater, rfl⟩ := List.mem_map.mp later
  rw [Credential.field, comparesAs_string_iff]
  intro same
  rw [List.map_append, List.map_cons, List.nodup_append, List.nodup_cons] at distinct
  exact distinct.2.1.1 (List.mem_map.mpr ⟨other, isLater, same⟩)

theorem owner?_eq_none
    {token : Text}
    (nonempty : token ≠ [])
    (absent : ∀ credential ∈ users, credential.token ≠ token) :
    owner? (users.map Credential.field) token = none := by
  rw [Option.eq_none_iff_forall_ne_some]
  intro user owned
  rw [owner?_eq_some_iff nonempty] at owned
  obtain ⟨entry, present, compares⟩ := exists_lastOwner_iff.mp ⟨user, owned⟩
  obtain ⟨credential, isUser, rfl⟩ := List.mem_map.mp present
  exact absent credential isUser (comparesAs_string_iff.mp compares)

end Owners

/-! ## Headers -/

/-- Whether a text is the name of the bearer scheme in any case. -/
def NamesBearer (scheme : Text) : Prop :=
  Text.small scheme = "bearer".toList

theorem NamesBearer.lower_eq
    {scheme : Text}
    (named : NamesBearer scheme) :
    Text.lower scheme = "bearer".toList := by
  rw [← Text.lower_small, named]
  rfl

theorem NamesBearer.noBlank
    {scheme : Text}
    (named : NamesBearer scheme) :
    ∀ c ∈ scheme, Text.isBlank c = false := by
  intro c present
  have small : Text.smallLetter c ∈ "bearer".toList := named ▸ List.mem_map_of_mem present
  have letters : ∀ d ∈ "bearer".toList, Text.isBlank d = false := by decide
  rw [← Text.isBlank_smallLetter]
  exact letters _ small

/-- A header with the name of the scheme presents what stands behind it, but for white space. -/
theorem bearerToken_append
    {scheme rest : Text}
    (named : NamesBearer scheme)
    (solid : Text.trim rest ≠ []) :
    bearerToken (scheme ++ ' ' :: rest) = some (Text.trim rest) := by
  obtain ⟨front, back, whole, frontBlank, backBlank⟩ := Text.exists_trim rest
  have ends := Text.ends_trimWhere Text.isBlank rest
  generalize tokenEq : Text.trim rest = token at whole solid
  rw [← Text.trim, tokenEq] at ends
  subst whole
  have trimmed : Text.trim (scheme ++ ' ' :: (front ++ (token ++ back))) =
      scheme ++ ' ' :: (front ++ token) := by
    have shape : scheme ++ ' ' :: (front ++ (token ++ back)) =
        [] ++ ((scheme ++ ' ' :: (front ++ token)) ++ back) := by simp
    rw [shape]
    refine Text.trim_enclosed rfl (List.all_eq_true.mpr backBlank) ⟨?_, ?_⟩
    · cases scheme with
      | nil => contradiction
      | cons c scheme => simpa using named.noBlank c (.head _)
    · simpa [List.getLast?_append, List.getLast?_cons, List.getLast?_eq_getLast_of_ne_nil solid]
        using ends.2
  rw [bearerToken_eq_some_iff]
  refine ⟨scheme, front ++ token, trimmed, ?_, named.lower_eq, ?_, solid⟩
  · intro present
    exact absurd (named.noBlank ' ' present) (by decide)
  · have enclosed : Text.trim (front ++ (token ++ [])) = token :=
      Text.trim_enclosed (List.all_eq_true.mpr frontBlank) rfl ends
    rwa [List.append_nil] at enclosed

/-- What an authorization presents is not empty. -/
theorem ne_nil_of_bearerToken
    {authorization token : Text}
    (presented : bearerToken authorization = some token) :
    token ≠ [] := by
  obtain ⟨scheme, rest, -, -, -, -, nonempty⟩ := bearerToken_eq_some_iff.mp presented
  exact nonempty

/-! ## Lists that are written entry by entry -/

/-- The table for a list. -/
def table (entries : List Entry) : Fields :=
  (credentials entries).map Credential.field

/-- A list of distinct users with distinct tokens is read back as it was written. A header that
presents one of the tokens, the scheme in any case and more white space around the token, stands for
its user, and a header that presents none of them for nobody. The list is a Unicode text: users and
tokens hold no lone half of a code point, as bytes in the environment that are no UTF-8 would leave
them. Such a token cannot be encoded, so that comparing it with that of a header raises an error. -/
theorem credentials_read_back
    {settings : Settings}
    {entries : List Entry}
    (configured : settings.environment.get? "QUERY_ADVISOR_API_TOKENS" = some (listText entries))
    (distinctUsers : ((credentials entries).map Credential.user).Nodup)
    (distinctTokens : ((credentials entries).map Credential.token).Nodup) :
    settings.tokens = .ok (table entries) ∧
      (∀ credential ∈ credentials entries, ∀ scheme gap back : Text,
        NamesBearer scheme → gap.isAllBlank = true → back.isAllBlank = true →
          (bearerToken (scheme ++ ' ' :: (gap ++ (credential.token ++ back)))).bind
            (owner? (table entries)) = some credential.user) ∧
      ∀ authorization : Text,
        (∀ credential ∈ credentials entries, bearerToken authorization ≠ some credential.token) →
          (bearerToken authorization).bind (owner? (table entries)) = none := by
  refine ⟨?_, ?_, ?_⟩
  · rw [tokens_eq configured, readTokens_listText distinctUsers]
    rfl
  · intro credential present scheme gap back named gapBlank backBlank
    have trimmed : Text.trim (gap ++ (credential.token ++ back)) = credential.token :=
      Text.trim_enclosed gapBlank backBlank credential.token_ends
    have solid : Text.trim (gap ++ (credential.token ++ back)) ≠ [] := by
      rw [trimmed]
      exact credential.token_ne_nil
    rw [bearerToken_append named solid, trimmed, Option.bind_some]
    exact owner?_of_mem distinctTokens present
  · intro authorization absent
    rw [Option.bind_eq_none_iff]
    intro token presented
    apply owner?_eq_none (ne_nil_of_bearerToken presented)
    rintro credential present rfl
    exact absent credential present presented

/-- Two credentials, one with a colon in the token and one with blanks in both parts. -/
def twoEntries : List Entry :=
  [.named [' '] ⟨"alice", "tok:1", by decide, by decide, by decide, by decide, by decide, by decide⟩
      "\t " (by decide) (by decide),
    .blank [] (by decide),
    .blank "\n" (by decide),
    .named [] ⟨"bob b", "x y", by decide, by decide, by decide, by decide, by decide, by decide⟩
      [] (by decide) (by decide)]

theorem credentials_read_back_two :
    let settings : Settings :=
      { environment := [("QUERY_ADVISOR_API_TOKENS", " alice:tok:1\t ,,\n,bob b:x y")] }
    settings.tokens = .ok [("alice", .string "tok:1"), ("bob b", .string "x y")] ∧
      (bearerToken "bEARER  tok:1\n").bind (owner? (table twoEntries)) = some "alice".toList ∧
      (bearerToken "Bearer tok").bind (owner? (table twoEntries)) = none := by
  intro settings
  have configured : settings.environment.get? "QUERY_ADVISOR_API_TOKENS" =
      some (listText twoEntries) := rfl
  obtain ⟨read, known, unknown⟩ := credentials_read_back configured (by decide) (by decide)
  refine ⟨read, ?_, ?_⟩
  · exact known _ (.head _) "bEARER" [' '] ['\n'] rfl (by decide) (by decide)
  · exact unknown "Bearer tok" (by decide)

/-! ## Any list -/

theorem listed_or_mem_of_mem_foldl_put
    {listed : List (Text × Text)}
    {table : Fields}
    {user : Text}
    {value : Json}
    (present : (user, value) ∈ listed.foldl
      (fun table entry => Fields.put entry.1 (.string entry.2) table) table) :
    (∃ token, (user, token) ∈ listed ∧ value = .string token) ∨ (user, value) ∈ table := by
  induction listed generalizing table with
  | nil => exact Or.inr present
  | cons entry listed inductionHypothesis =>
      rcases inductionHypothesis present with ⟨token, later, same⟩ | before
      · exact Or.inl ⟨token, .tail _ later, same⟩
      · rcases Fields.eq_or_mem_of_mem_put before with here | earlier
        · obtain ⟨rfl, rfl⟩ := Prod.mk.inj here
          exact Or.inl ⟨entry.2, .head _, rfl⟩
        · exact Or.inr earlier

/-- A value that was accepted from a list is a text that is not empty and does not end in white
space. -/
theorem of_mem_readTokens
    {listed user : Text}
    {value : Json}
    (accepted : (user, value) ∈ Settings.readTokens listed) :
    ∃ token : Text, value = .string token ∧ token ≠ [] ∧
      token.getLast?.any Text.isBlank = false := by
  rcases listed_or_mem_of_mem_foldl_put accepted with ⟨token, present, rfl⟩ | nowhere
  · obtain ⟨entry, -, read⟩ := List.mem_filterMap.mp present
    rw [Settings.tokenEntry?] at read
    split at read
    next front rest parts =>
        obtain ⟨whole, -⟩ := Text.cut_eq_iff.mp parts
        obtain ⟨given, same⟩ := Option.ite_none_left_eq_some.mp read
        obtain ⟨rfl, rfl⟩ := Prod.mk.inj (Option.some.inj same)
        simp only [Bool.or_eq_true, List.isEmpty_iff, not_or] at given
        have ends := (Text.ends_trimWhere Text.isBlank entry).2
        rw [← Text.trim, whole, List.getLast?_append_of_ne_nil _ (List.cons_ne_nil _ _),
          List.getLast?_cons_of_ne_nil given.2] at ends
        exact ⟨rest, rfl, given.2, ends⟩
    next => contradiction
  · exact absurd nowhere List.not_mem_nil

/-- Behind the name of the scheme and a blank, a header presents a token without the white space at
its ends. -/
theorem headersPresent_iff
    {headers : Web.Headers}
    {token presented : Text}
    (sent : headers.get? "authorization" = some ("Bearer ".toList ++ token))
    (solid : Text.trim token ≠ []) :
    HeadersPresent headers presented ↔ presented = Text.trim token := by
  have named : NamesBearer "Bearer" := rfl
  have shown : bearerToken ("Bearer ".toList ++ token) = some (Text.trim token) :=
    bearerToken_append named solid
  constructor
  · rintro ⟨authorization, given, presents⟩
    obtain rfl := Option.some.inj (sent.symm.trans given)
    exact Option.some.inj ((bearerToken_eq_some_iff.mpr presents).symm.trans shown)
  · rintro rfl
    exact ⟨_, sent, bearerToken_eq_some_iff.mp shown⟩

/-- Whatever a list is, a user whose token was accepted from it and who sends that token passes if
and only if the token is configured without the white space at its ends too, be it for another
user. So every accepted token works that does not begin with white space. Here too the list is a
Unicode text without lone halves of code points. -/
theorem accepted_passes_iff
    {settings : Settings}
    {listed user token : Text}
    {accepted : Fields}
    {headers : Web.Headers}
    (configured : settings.environment.get? "QUERY_ADVISOR_API_TOKENS" = some listed)
    (read : settings.tokens = .ok accepted)
    (present : (user, .string token) ∈ accepted)
    (sent : headers.get? "authorization" = some ("Bearer ".toList ++ token))
    (peer : Option Text) :
    ((callerOf headers peer accepted).isAuthenticated = true ↔
      ∃ other, (other, .string (Text.trim token)) ∈ accepted) ∧
    (token.head?.any Text.isBlank = false →
      (callerOf headers peer accepted).isAuthenticated = true) := by
  rw [tokens_eq configured] at read
  obtain rfl := Except.ok.inj read
  obtain ⟨_, same, nonempty, last⟩ := of_mem_readTokens present
  obtain rfl := Json.string.inj same
  have solid : Text.trim token ≠ [] := by
    intro nothing
    rw [Text.trim_eq_nil_iff, Text.isAllBlank, List.all_eq_true] at nothing
    rw [List.getLast?_eq_some_getLast nonempty, Option.any_some,
      nothing _ (List.getLast_mem nonempty)] at last
    contradiction
  have passes : (callerOf headers peer (Settings.readTokens listed)).isAuthenticated = true ↔
      ∃ other, (other, .string (Text.trim token)) ∈ Settings.readTokens listed := by
    simp only [isAuthenticated_callerOf_iff, headersPresent_iff sent solid, exists_eq_left]
    constructor
    · rintro ⟨⟨other, value⟩, isUser, compares⟩
      obtain ⟨text, rfl, -, -⟩ := of_mem_readTokens isUser
      rw [comparesAs_string_iff] at compares
      exact ⟨other, compares ▸ isUser⟩
    · rintro ⟨other, isUser⟩
      exact ⟨_, isUser, Or.inl rfl⟩
  refine ⟨passes, fun first => passes.mpr ⟨user, ?_⟩⟩
  rwa [Text.trim_of_ends first last]

/-- A token that begins with a blank passes as that of another user. -/
theorem accepted_passes_iff_shared :
    let settings : Settings :=
      { environment := [("QUERY_ADVISOR_API_TOKENS", "alice: tok,bob:tok")] }
    let accepted : Fields := [("alice", .string " tok"), ("bob", .string "tok")]
    settings.tokens = .ok accepted ∧
      (callerOf [("Authorization", "Bearer  tok")] none accepted).isAuthenticated = true ∧
      (callerOf [("Authorization", "Bearer tok")] none accepted).isAuthenticated = true := by
  intro settings accepted
  have configured : settings.environment.get? "QUERY_ADVISOR_API_TOKENS" =
      some "alice: tok,bob:tok".toList := rfl
  have alice : ("alice".toList, Json.string " tok") ∈ accepted := .head _
  have bob : ("bob".toList, Json.string "tok") ∈ accepted := .tail _ (.head _)
  refine ⟨rfl, ?_, ?_⟩
  · exact (accepted_passes_iff configured rfl alice rfl none).1.mpr ⟨"bob", bob⟩
  · exact (accepted_passes_iff configured rfl bob rfl none).2 rfl

/-- A token that was accepted and does not work. -/
theorem accepted_locks_out :
    ({ environment := [("QUERY_ADVISOR_API_TOKENS", "alice: tok")] } : Settings).tokens =
        .ok [("alice", .string " tok")] ∧
      (callerOf [("Authorization", "Bearer  tok")] none
        [("alice", .string " tok")]).isAuthenticated = false :=
  ⟨rfl, rfl⟩

end Access
end SqlReview
