import CatalogLint.Proofs.Markup.Splicing

/-! # Opening tags of a written value

    A value is written from plain text and tags, and a sweep for tags reads back what was
    written.

    * A match begins where a tag was written and ends where the tag ends, so none reaches from
      one token into another, and none is missed: the matches are the tags that tell the
      scanner something (`ReadsTags.mem_matchesOf_written_iff`).
    * The scanner of opening tags also finds the tags that close themselves, unless the slash
      stands right behind the name.  What is kept of both is the name of an opening tag
      (`Tag.openingName?_eq`).
    * So the names that are read are those of the opening tags, in the order in which they
      were written (`written_opening_tags_are_read_back`). -/

namespace CatalogLint.Markup

open Text

variable {α : Type} {scan : Scanner α} {found? : Tag → Option α} {found : Match α}

/-! ## Matches are tags -/

/-- The match of a tag that stands between two texts: it begins where the tag does, ends where
    the tag ends, and holds what the tag tells. -/
def Tag.match? (found? : Tag → Option α) (tag : Tag) (front rest : List Char) :
    Option (Match α) :=
  (found? tag).map fun value =>
    ⟨front, { value, more := tag.inner.length + 1 }, tag.chars ++ rest⟩

/-- A tag of a value is the first token, or it stands behind it. -/
theorem exists_tag_cons_iff {token : Token} {rest : List Token}
    {p : List Token → Tag → List Token → Prop} :
    (∃ before tag after, token :: rest = before ++ .tag tag :: after ∧ p before tag after)
      ↔ (∃ tag, token = .tag tag ∧ p [] tag rest)
        ∨ ∃ before tag after, rest = before ++ .tag tag :: after
          ∧ p (token :: before) tag after := by
  constructor
  · rintro ⟨before, tag, after, htokens, hp⟩
    rcases List.cons_eq_append_iff.mp htokens with ⟨rfl, hfirst⟩ | ⟨before, rfl, rfl⟩
    · cases hfirst
      exact Or.inl ⟨tag, rfl, hp⟩
    · exact Or.inr ⟨before, tag, after, rfl, hp⟩
  · rintro (⟨tag, rfl, hp⟩ | ⟨before, tag, after, rfl, hp⟩)
    · exact ⟨[], tag, rest, rfl, hp⟩
    · exact ⟨token :: before, tag, after, rfl, hp⟩

namespace ReadsTags

/-- All matches of a scanner of tags begin with an opening bracket. -/
theorem beginsWith (h : ReadsTags scan found?) : BeginsWith scan '<' :=
  h.off_bracket

/-- The first match is that of the tag, if it tells something, and the others stand behind the
    tag. -/
theorem matchesFrom_tag (h : ReadsTags scan found?) (front : List Char) (tag : Tag)
    (rest : List Char) :
    matchesFrom scan front 0 (tag.chars ++ rest)
      = (tag.match? found? front rest).toList
        ++ matchesFrom scan (front ++ tag.chars) 0 rest := by
  have hscan := h.at_tag front.getLast? tag rest
  rw [Tag.match?]
  rw [Tag.chars, List.cons_append] at hscan ⊢
  cases hfound : found? tag with
  | none =>
      rw [hfound] at hscan
      rw [matchesFrom_of_eq_none hscan, h.beginsWith.matchesFrom_append tag.opener_notMem_tail,
        List.append_assoc, List.singleton_append]
      rfl
  | some value =>
      rw [hfound] at hscan
      have hmore : tag.inner.length + 1 = (tag.inner ++ ['>']).length := by
        rw [List.length_append, List.length_singleton]
      exact matchesFrom_of_eq_some hscan hmore

/-- The matches behind a text are those of the tags of the value that is written there. -/
theorem mem_matchesFrom_written_iff (h : ReadsTags scan found?) (front : List Char)
    (tokens : List Token) :
    found ∈ matchesFrom scan front 0 (written tokens) ↔
      ∃ before tag after, tokens = before ++ .tag tag :: after
        ∧ tag.match? found? (front ++ written before) (written after) = some found := by
  induction tokens generalizing front with
  | nil =>
      refine iff_of_false List.not_mem_nil ?_
      rintro ⟨before, tag, after, hnil, -⟩
      exact List.append_ne_nil_of_right_ne_nil before (List.cons_ne_nil _ after) hnil.symm
  | cons token rest ih =>
      have hhead : front ++ written [] = front := List.append_nil front
      have hlater := ih (front ++ token.chars)
      simp only [List.append_assoc, ← written_cons] at hlater
      rw [exists_tag_cons_iff, hhead, ← hlater, written_cons]
      cases token with
      | text plain =>
          rw [Token.chars, h.beginsWith.matchesFrom_append plain.opener_notMem]
          refine (or_iff_right ?_).symm
          rintro ⟨tag, htext, -⟩
          cases htext
      | tag first =>
          rw [Token.chars, h.matchesFrom_tag, List.mem_append, Option.mem_toList]
          refine or_congr_left ⟨fun hfirst => ⟨first, rfl, hfirst⟩, ?_⟩
          rintro ⟨tag, heq, hfirst⟩
          cases heq
          exact hfirst

/-- **A match is a tag as it was written**, and every tag that tells something has its match. -/
theorem mem_matchesOf_written_iff (h : ReadsTags scan found?) (tokens : List Token) :
    found ∈ matchesOf scan (written tokens) ↔
      ∃ before tag after, tokens = before ++ .tag tag :: after
        ∧ tag.match? found? (written before) (written after) = some found :=
  h.mem_matchesFrom_written_iff [] tokens

end ReadsTags

/-! ## Names of opening tags -/

/-- The name of an opening tag is what is found at the tag, if it does not close itself. -/
theorem Tag.openingName?_eq (tag : Tag) :
    tag.openingName? = (tag.opening?.filter (!·.selfClosing)).map Opening.name := by
  cases tag with
  | opening name attributes hlast => rfl
  | selfClosing name attributes =>
      -- a slash right behind the name hides the tag, and any other one is filtered out
      rw [opening?]
      split <;> rfl
  | closing name => rfl

/-- The names of the opening tags of a written value are those that were written. -/
theorem openingNames_written (tokens : List Token) :
    openingNames (written tokens) = (tagsOf tokens).filterMap Tag.openingName? := by
  rw [openingNames_eq, valuesOf, readsTags_scanOpening.map_value_sweep_written,
    List.filter_filterMap, List.map_filterMap]
  exact List.filterMap_congr fun tag _ => tag.openingName?_eq.symm

/-- **Opening tags are read back as they were written.**  In a value that is written from plain
    text and tags the names that are read are those of the opening tags, in their order;
    tags that close themselves and closing tags have no part in them.  A match of the scanner is
    one of the tags as a whole, and no tag that it knows is missed. -/
theorem written_opening_tags_are_read_back (tokens : List Token) :
    openingTags (String.ofList (written tokens))
        = ((tagsOf tokens).filterMap Tag.openingName?).map String.ofList
      ∧ ∀ found, found ∈ matchesOf scanOpening (written tokens) ↔
          ∃ before tag after, tokens = before ++ .tag tag :: after
            ∧ tag.match? Tag.opening? (written before) (written after) = some found := by
  constructor
  · rw [openingTags, String.toList_ofList, openingNames_written]
  · exact fun _ => readsTags_scanOpening.mem_matchesOf_written_iff tokens

end CatalogLint.Markup
