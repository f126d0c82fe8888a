import SqlReview.Proofs.ItemLists.Directions
import SqlReview.Query.Comment

/-!
# Lists read back

No keyword of a clause starts inside a list, since none stands on the top level of an item and none reaches
out of one. So the clause of a list goes on to the end of its query, and its items are those between the
commas of the top level. Main statement: GROUP BY items are read back as they stand, and ORDER BY items
without their directions.
-/

namespace SqlReview
namespace ItemLists

open Query Plain

variable {before : Option Char} {text rest : Text}

/-! ## Keywords of clauses -/

/-- The keyword of a clause is one word, or the second of its words is BY. -/
theorem of_isClauseKeyword
    {run : Text}
    (isKeyword : IsClauseKeyword run) :
    (∀ c ∈ run, Text.isWord c = true) ∨ ∃ first blanks second, run = first ++ (blanks ++ second) ∧
      (∀ c ∈ first, Text.isWord c = true) ∧ (∀ c ∈ blanks, Text.isBlank c = true) ∧
      second.map Text.foldLetter = "by" := by
  have each : ∀ phrase ∈ clausePhrases, phrase.tail = [] ∨ phrase.tail = ["by".toList] := by decide
  obtain ⟨phrase, isPhrase, spells⟩ := isKeyword
  obtain ⟨short, smallWords⟩ := clausePhrases_forall phrase isPhrase
  match phrase, spells, each phrase isPhrase with
  | [word], spells, _ => exact .inl fun c => (smallWords word (.head _)).isWord_of_mem spells
  | [word, _], ⟨first, blanks, second, split, folds, ⟨_, blank⟩, folded⟩, .inr rfl =>
      exact .inr ⟨first, blanks, second, split,
        fun c => (smallWords word (.head _)).isWord_of_mem folds, blank, folded⟩

/-- A keyword that reaches over a character which is no part of a word has BY behind it. -/
theorem exists_by_of_isClauseKeyword
    {front more : Text}
    {d : Char}
    (isKeyword : IsClauseKeyword (front ++ d :: more))
    (noWord : Text.isWord d = false) :
    ∃ gap second, d :: more = gap ++ second ∧ (∀ c ∈ gap, Text.isBlank c = true) ∧
      second.map Text.foldLetter = "by" := by
  have absent {run : Text} (areWords : ∀ c ∈ run, Text.isWord c = true) : d ∉ run := fun present =>
    absurd (noWord.symm.trans (areWords d present)) (by decide)
  rcases of_isClauseKeyword isKeyword with areWords |
    ⟨first, blanks, second, split, firstWord, blank, folds⟩
  · exact absurd (by simp) (absent areWords)
  · have secondWord : ∀ c ∈ second, Text.isWord c = true := fun c =>
      (show Text.IsSmallWord "by" by decide).isWord_of_mem folds
    rcases List.append_eq_append_iff.mp split with ⟨left, firstEq, moreEq⟩ | ⟨left, -, blanksEq⟩
    · cases left with
      | nil => exact ⟨blanks, second, moreEq, blank, folds⟩
      | cons c left =>
          obtain ⟨rfl, -⟩ := List.cons.inj moreEq
          exact absurd (by simp [firstEq]) (absent firstWord)
    · rcases List.append_eq_append_iff.mp blanksEq with ⟨gap, -, secondEq⟩ |
        ⟨gap, blanksSplit, moreEq⟩
      · exact absurd (by simp [secondEq]) (absent secondWord)
      · exact ⟨gap, second, moreEq, fun c present => blank c (by simp [blanksSplit, present]), folds⟩

/-- If a text holds no keyword, none starts in it, unless BY follows the text. -/
theorem isQuiet_of_not_occursIn
    (noKeyword : clauseKeyword.occursIn text = false)
    (outside : rest.head?.any Text.isWord = false)
    (noBy : ∀ c, rest.find? (!Text.isBlank ·) = some c → Text.foldLetter c ≠ 'b') :
    clauseKeyword.IsQuiet before text rest := by
  rintro lead c tail rfl run others equal covered
  obtain ⟨isKeyword, outsideHere, outsideThere⟩ := covers_clauseKeyword.mp covered
  have alone : (Text.lastOr none lead).any Text.isWord = false := by
    cases last : lead.getLast? with
    | none => simp [Text.lastOr, last]
    | some d =>
        rw [Text.lastOr, last] at outsideHere
        rwa [Text.lastOr, last]
  have absent {back : Text} (split : c :: tail = run ++ back)
      (closed : back.head?.any Text.isWord = false) : False := by
    have found : clauseKeyword.occursIn (lead ++ c :: tail) = true :=
      Pattern.occursIn_iff.mpr ⟨lead, run, back, by rw [split],
        covers_clauseKeyword.mpr ⟨isKeyword, alone, closed⟩⟩
    exact absurd (noKeyword.symm.trans found) (by decide)
  rcases List.append_eq_append_iff.mp equal with ⟨more, rfl, restEq⟩ | ⟨back, split, othersEq⟩
  · cases more with
    | nil =>
        have closed : ([] : Text).head?.any Text.isWord = false := rfl
        exact absent (by simp) closed
    | cons d more =>
        have noWord : Text.isWord d = false := by rwa [restEq] at outside
        obtain ⟨gap, second, moreEq, blank, folds⟩ := exists_by_of_isClauseKeyword isKeyword noWord
        obtain ⟨e, second, rfl⟩ : ∃ e more, second = e :: more :=
          List.exists_cons_of_ne_nil (by rintro rfl; exact absurd folds (by decide))
        have noBlank : Text.isBlank e = false := by
          have isWord : Text.isWord e = true :=
            (show Text.IsSmallWord "by" by decide).isWord_of_mem folds (.head _)
          exact Bool.eq_false_iff.mpr fun isBlank =>
            absurd ((Text.isWord_of_isBlank isBlank).symm.trans isWord) (by decide)
        have next : rest.find? (!Text.isBlank ·) = some e := by
          have nothing : gap.find? (!Text.isBlank ·) = none := by
            simpa [List.find?_eq_none] using blank
          rw [restEq, moreEq, List.append_assoc, List.find?_append, nothing, Option.none_or,
            List.cons_append, List.find?_cons_of_pos (by simp [noBlank])]
        exact noBy e next (List.cons.inj folds).1
  · refine absent split ?_
    cases back with
    | nil => rfl
    | cons d back =>
        rw [othersEq] at outsideThere
        exact outsideThere

/-- No keyword starts in a sort key that ends with its list or in front of a comma. -/
theorem SortKey.isQuiet
    (key : SortKey)
    (ends : rest = [] ∨ rest.head? = some ',') :
    clauseKeyword.IsQuiet before (mask key.text) rest := by
  have outside : rest.head?.any Text.isWord = false := by
    rcases ends with rfl | comma
    · rfl
    · rw [comma]
      decide
  have behind : (key.direction ++ rest).head?.any Text.isWord = false := by
    have noWord := key.isDirection.head_noWord
    cases direction : key.direction with
    | nil => exact outside
    | cons c more => rwa [direction] at noWord
  have noBy : ∀ c, (key.direction ++ rest).find? (!Text.isBlank ·) = some c →
      Text.foldLetter c ≠ 'b' := by
    intro c found
    obtain ⟨words, direction, listed⟩ := key.isDirection
    rw [direction] at found
    cases words with
    | nil =>
        rcases ends with rfl | comma
        · exact absurd found (by simp [spacedWords])
        · obtain ⟨more, rfl⟩ := List.head?_eq_some_iff.mp comma
          obtain rfl : ',' = c := Option.some.inj found
          decide
    | cons word words =>
        obtain ⟨isSmallWord, -, noB⟩ := directionPhrases_forall _ listed _ (.head _)
        obtain ⟨d, word, rfl⟩ := List.exists_cons_of_ne_nil (isSmallWord.ne_nil rfl)
        have isWord : Text.isWord d = true := isSmallWord.isWord_of_mem rfl (.head _)
        have noBlank : Text.isBlank d = false := Bool.eq_false_iff.mpr fun isBlank =>
          absurd ((Text.isWord_of_isBlank isBlank).symm.trans isWord) (by decide)
        rw [spacedWords_cons, List.cons_append, List.find?_cons_of_neg (by decide), List.cons_append,
          List.cons_append, List.find?_cons_of_pos (by simp [noBlank])] at found
        obtain rfl := Option.some.inj found
        exact fun isB => noB (congrArg some isB)
  rw [key.mask_text]
  refine (isQuiet_of_not_occursIn key.item.noKeyword behind noBy).append
    (startsWithWord_clauseKeyword.isQuiet ?_ (.inr outside))
  exact fun word present => (directionPhrases_forall _ key.isDirection.words_mem word present).2.1

/-- The sort keys of a list behind its first one, on the top level. -/
def shownOthers (keys : List SortKey) : Text :=
  listedText (keys.map fun key => (true, mask key.text))

theorem shownOthers_cons (key : SortKey) (keys : List SortKey) :
    shownOthers (key :: keys) = ", ".toList ++ (mask key.text ++ shownOthers keys) := by
  simp [shownOthers, listedText, comma]

theorem ends_shownOthers (keys : List SortKey) :
    shownOthers keys = [] ∨ (shownOthers keys).head? = some ',' := by
  cases keys with
  | nil => exact .inl rfl
  | cons key keys => exact .inr rfl

theorem isQuiet_shownOthers (keys : List SortKey) :
    clauseKeyword.IsQuiet before (shownOthers keys) [] := by
  induction keys generalizing before with
  | nil => exact fun lead c tail empty => absurd empty (by simp [shownOthers, listedText])
  | cons key keys inductionHypothesis =>
      rw [shownOthers_cons]
      refine (startsWithWord_clauseKeyword.isQuiet (by decide) (.inl (by decide))).append
        (Pattern.IsQuiet.append ?_ inductionHypothesis)
      rw [List.append_nil]
      exact key.isQuiet (ends_shownOthers keys)

/-! ## The clause of a list -/

/-- The keywords of a query in front of its list. -/
theorem occurrences_lead
    (kind : ListKind)
    (list : Text) :
    clauseKeyword.occurrences (kind.lead ++ ' ' :: list) =
      [⟨0, 6, "SELECT", [⟨1, 0, "SELECT"⟩]⟩, ⟨9, 13, "FROM", [⟨1, 9, "FROM"⟩]⟩,
        ⟨16, 24, kind.lead.drop 16, [⟨1, 16, kind.lead.drop 16⟩]⟩] ++
        clauseKeyword.occurrencesFrom 0 (some 'Y') 24 (' ' :: list) := by
  cases kind <;> rfl

/-- The clause of a list goes on to the end of its query. -/
theorem clause?_list
    (kind : ListKind)
    {list : Text}
    (isQuiet : clauseKeyword.IsQuiet (some 'Y') (' ' :: list) []) :
    clause? (clauses (kind.lead ++ ' ' :: list)) kind.name =
      some ⟨kind.name, kind.lead.length, (kind.lead ++ ' ' :: list).length⟩ := by
  have none : clauseKeyword.occurrencesFrom 0 (some 'Y') 24 (' ' :: list ++ []) = [] :=
    Pattern.occurrencesFrom_quiet isQuiet
  rw [List.append_nil] at none
  rw [clauses, occurrences_lead, none]
  cases kind <;> rfl

/-! ## Queries with lists -/

/-- The texts of sort keys behind the first one. -/
def othersText (keys : List SortKey) : Text :=
  listedText (keys.map fun key => (true, key.text))

theorem othersText_cons (key : SortKey) (keys : List SortKey) :
    othersText (key :: keys) = ',' :: ' ' :: (key.text ++ othersText keys) := by
  simp [othersText, listedText, comma]

section

variable (kind : ListKind) (first : SortKey) (others : List SortKey)

theorem queryText_eq :
    queryText kind ((first :: others).map SortKey.text) =
      kind.lead ++ ' ' :: (first.text ++ othersText others) := by
  have joined : Text.join ", " ((first :: others).map SortKey.text) =
      first.text ++ othersText others := by
    induction others generalizing first with
    | nil => simp [Text.join, othersText, listedText]
    | cons next others inductionHypothesis =>
        have behind := inductionHypothesis next
        rw [Text.join, List.map_cons] at behind
        rw [Text.join, List.map_cons, List.map_cons, List.intercalate_cons_cons, behind, othersText_cons]
        simp
  rw [queryText, joined]

theorem mask_queryText :
    mask (queryText kind ((first :: others).map SortKey.text)) =
      kind.lead ++ ' ' :: (mask first.text ++ shownOthers others) := by
  have lead : mask (kind.lead ++ [' ']) = kind.lead ++ [' '] ∧ Plain.IsClosed (kind.lead ++ [' ']) := by
    cases kind <;> decide
  have behind : mask (othersText others) = shownOthers others := by
    rw [othersText, (mask_listedText ?_).1, shownOthers, List.map_map]
    · rfl
    · intro other present
      obtain ⟨key, -, rfl⟩ := List.mem_map.mp present
      exact key.isClosed
  rw [queryText_eq, List.append_cons, mask_append lead.2, mask_append first.isClosed, lead.1, behind,
    ← List.append_cons]

theorem isQuiet_list :
    clauseKeyword.IsQuiet before (' ' :: (mask first.text ++ shownOthers others)) [] := by
  rw [← List.singleton_append]
  refine (startsWithWord_clauseKeyword.isQuiet (by decide) (.inl (by decide))).append
    (Pattern.IsQuiet.append ?_ (isQuiet_shownOthers others))
  rw [List.append_nil]
  exact first.isQuiet (ends_shownOthers others)

/-- The items of a list are those between the commas of its top level. -/
theorem items_list :
    items (' ' :: (first.text ++ othersText others)) (' ' :: (mask first.text ++ shownOthers others)) =
      (first :: others).map SortKey.text := by
  have areShown : ∀ other ∈ others.map (fun key => (true, key.text, mask key.text)),
      IsShown other.2.1 other.2.2 := by
    intro other present
    obtain ⟨key, -, rfl⟩ := List.mem_map.mp present
    exact key.isShown
  have blank : IsGap [' '] := .inr rfl
  have nothing : IsGap [] := .inl rfl
  have found := items_shown first.isShown areShown blank nothing
  simpa [List.map_map, Function.comp_def, othersText, shownOthers] using found

/-- The items of a list are found in its clause. -/
theorem clauseItems_list :
    clauseItems (queryText kind ((first :: others).map SortKey.text))
        (mask (queryText kind ((first :: others).map SortKey.text)))
        (clauses (mask (queryText kind ((first :: others).map SortKey.text)))) kind.name =
      (first :: others).map SortKey.text := by
  have sameLength := length_mask (queryText kind ((first :: others).map SortKey.text))
  have body {list : Text} {stop : Nat} (toEnd : stop = (kind.lead ++ ' ' :: list).length) :
      Clause.body ⟨kind.name, kind.lead.length, stop⟩ (kind.lead ++ ' ' :: list) = ' ' :: list := by
    rw [Clause.body, Text.slice, List.drop_left, List.take_of_length_le (by simp [toEnd])]
  rw [mask_queryText, queryText_eq] at sameLength ⊢
  rw [clauseItems, clause?_list kind (isQuiet_list first others)]
  change items (Clause.body _ _) (Clause.body _ _) = _
  rw [body sameLength, body rfl, items_list]

/-! ## Normal form -/

theorem tight_list : IsTight (first.text ++ othersText others) := by
  induction others generalizing first with
  | nil =>
      rw [othersText, List.map_nil, listedText, List.flatMap_nil, List.append_nil]
      exact first.tight
  | cons next others inductionHypothesis =>
      have separator : IsTight [','] :=
        isTight_of_noBlank (List.cons_ne_nil _ _) fun c present => by
          obtain rfl := List.mem_singleton.mp present
          decide
      have further := (first.tight.append separator).blank (inductionHypothesis next)
      rw [othersText_cons]
      simpa using further

theorem noComment_list : hasCommentMark (first.text ++ othersText others) = false := by
  induction others generalizing first with
  | nil =>
      rw [othersText, List.map_nil, listedText, List.flatMap_nil, List.append_nil]
      exact first.noComment
  | cons next others inductionHypothesis =>
      rw [othersText_cons, hasCommentMark_append_cons (.inl rfl), first.noComment, Bool.false_or,
        ← List.nil_append (' ' :: _), hasCommentMark_append_cons (.inr rfl), inductionHypothesis]
      rfl

theorem noTerminator_list : (first.text ++ othersText others).getLast? ≠ some ';' := by
  induction others generalizing first with
  | nil =>
      rw [othersText, List.map_nil, listedText, List.flatMap_nil, List.append_nil]
      exact first.noTerminator
  | cons next others inductionHypothesis =>
      have further := inductionHypothesis next
      have nonempty := (tight_list next others).nonempty
      rw [othersText_cons, List.append_cons, List.append_cons,
        List.getLast?_append_of_ne_nil _ nonempty]
      exact further

/-- A query with a list is in normal form. -/
theorem normalize_queryText [CommentRemover] :
    normalize (queryText kind ((first :: others).map SortKey.text)) =
      queryText kind ((first :: others).map SortKey.text) := by
  have lead : IsTight kind.lead ∧ hasCommentMark kind.lead = false := by
    cases kind <;> exact ⟨isTight_of_collapse (by decide) (by decide) (by decide) (by decide), by decide⟩
  have tight := lead.1.blank (tight_list first others)
  have plain : hasCommentMark (kind.lead ++ ' ' :: (first.text ++ othersText others)) = false := by
    rw [hasCommentMark_append_cons (.inr rfl), lead.2, noComment_list]
    rfl
  have noTerminator : (kind.lead ++ ' ' :: (first.text ++ othersText others)).getLast? ≠ some ';' := by
    rw [List.append_cons, List.getLast?_append_of_ne_nil _ (tight_list first others).nonempty]
    exact noTerminator_list first others
  rw [queryText_eq]
  exact normalize_of_noComment plain tight noTerminator

end

/-! ## Lists read back -/

theorem extract_queryText
    [CommentRemover]
    (kind : ListKind)
    {keys : List SortKey}
    (nonempty : keys ≠ []) :
    Structure.extract (queryText kind (keys.map SortKey.text)) =
      Structure.ofNormal (indexHint.occursIn (queryText kind (keys.map SortKey.text)))
        (queryText kind (keys.map SortKey.text)) := by
  obtain ⟨first, others, rfl⟩ := List.exists_cons_of_ne_nil nonempty
  exact extract_of_normal (normalize_queryText kind first others) (by simp [queryText])

theorem groupByColumns_queryText
    [CommentRemover]
    {items : List ListItem}
    (nonempty : items ≠ []) :
    (Structure.extract (queryText .group (items.map (·.text)))).groupByColumns =
      items.map (·.text) := by
  have texts : (items.map ListItem.key).map SortKey.text = items.map (·.text) := by
    simp [ListItem.key, SortKey.text]
  obtain ⟨first, others, rfl⟩ := List.exists_cons_of_ne_nil nonempty
  rw [← texts, extract_queryText .group (by simp)]
  exact clauseItems_list .group first.key (others.map ListItem.key)

theorem orderByColumns_queryText
    [CommentRemover]
    {keys : List SortKey}
    (nonempty : keys ≠ [])
    (plain : ∀ key ∈ keys, ¬EndsInDirection key.item.text) :
    (Structure.extract (queryText .order (keys.map SortKey.text))).orderByColumns =
      keys.map (·.item.text) := by
  have undirected : (keys.map SortKey.text).map orderDirection.beforeFirst =
      keys.map (·.item.text) := by
    rw [List.map_map]
    exact List.map_congr_left fun key present => key.beforeFirst_text (plain key present)
  have nonemptyItems : ∀ item ∈ keys.map (·.item.text), decide (item ≠ []) = true := by
    intro item present
    obtain ⟨key, -, rfl⟩ := List.mem_map.mp present
    exact decide_eq_true key.item.nonempty
  have items : clauseItems (queryText .order (keys.map SortKey.text))
      (mask (queryText .order (keys.map SortKey.text)))
      (clauses (mask (queryText .order (keys.map SortKey.text)))) "order by" =
        keys.map SortKey.text := by
    obtain ⟨first, others, rfl⟩ := List.exists_cons_of_ne_nil nonempty
    exact clauseItems_list .order first others
  rw [extract_queryText .order nonempty]
  change ((clauseItems _ _ _ _).map _).filter _ = _
  rw [items, undirected, List.filter_eq_self.mpr nonemptyItems]

/-- GROUP BY items are read back as they stand, and ORDER BY items without their directions. -/
theorem lists_read_back [CommentRemover] :
    (∀ items : List ListItem, items ≠ [] →
      (Structure.extract (queryText .group (items.map (·.text)))).groupByColumns =
        items.map (·.text)) ∧
    ∀ keys : List SortKey, keys ≠ [] → (∀ key ∈ keys, ¬EndsInDirection key.item.text) →
      (Structure.extract (queryText .order (keys.map SortKey.text))).orderByColumns =
        keys.map (·.item.text) :=
  ⟨fun _ => groupByColumns_queryText, fun _ => orderByColumns_queryText⟩

/-- A text that does not end with a word ends in no direction. -/
theorem not_endsInDirection
    (last : text.getLast?.any (fun c => Text.isWord c || c = ' ') = false) :
    ¬EndsInDirection text := by
  rintro ⟨front, direction, rfl, nonempty, isDirection⟩
  rw [List.getLast?_append_of_ne_nil _ nonempty, List.getLast?_eq_some_getLast nonempty,
    Option.any_some, Bool.or_eq_false_iff] at last
  rcases isDirection.eq_or_isWord_of_mem (List.getLast_mem nonempty) with isBlank | isWord
  · exact absurd isBlank (of_decide_eq_false last.2)
  · exact absurd (last.1.symm.trans isWord) (by decide)

/-- A call with two arguments. -/
def callItem : ListItem :=
  ⟨"f(a, b)", by decide, by decide, by decide, by decide, by decide, by decide, by decide, by decide,
    by decide +kernel⟩

/-- A literal with a comma and a keyword. -/
def literalItem : ListItem :=
  ⟨"'x, limit'", by decide, by decide, by decide, by decide, by decide, by decide, by decide, by decide,
    by decide +kernel⟩

/-- A subquery with a list of its own. -/
def subqueryItem : ListItem :=
  ⟨"(SELECT c FROM u ORDER BY d, e DESC)", by decide, by decide, by decide, by decide, by decide,
    by decide, by decide, by decide, by decide +kernel⟩

/-- Commas, keywords and directions inside items do not matter. -/
theorem lists_read_back_nested :
    (Structure.extract
      "SELECT a FROM t GROUP BY f(a, b), 'x, limit', (SELECT c FROM u ORDER BY d, e DESC)".toList
      ).groupByColumns = ["f(a, b)", "'x, limit'", "(SELECT c FROM u ORDER BY d, e DESC)"] ∧
    (Structure.extract
      "SELECT a FROM t ORDER BY f(a, b) desc, 'x, limit' ASC NULLS LAST".toList).orderByColumns =
        ["f(a, b)", "'x, limit'"] := by
  have descending : IsDirection " desc" := ⟨["desc"], rfl, by decide⟩
  have ascending : IsDirection " ASC NULLS LAST" := ⟨["ASC", "NULLS", "LAST"], rfl, by decide⟩
  have plainCall : ¬EndsInDirection callItem.text := not_endsInDirection (by decide)
  have plainLiteral : ¬EndsInDirection literalItem.text := not_endsInDirection (by decide)
  have grouped := lists_read_back.1 [callItem, literalItem, subqueryItem] (List.cons_ne_nil _ _)
  have ordered := lists_read_back.2 [⟨callItem, _, descending⟩, ⟨literalItem, _, ascending⟩]
    (List.cons_ne_nil _ _) (by
      intro key present
      rcases List.mem_pair.mp present with rfl | rfl
      · exact plainCall
      · exact plainLiteral)
  exact ⟨grouped, ordered⟩

end ItemLists
end SqlReview
