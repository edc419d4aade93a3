import CatalogLint.Proofs.Text.Places
import CatalogLint.Template.Literal

/-! # Candidates for literal text

    Four sweeps look for literal text, and each makes candidates of one kind: values of
    attributes, texts between tags, or quoted texts.  What such a candidate is compared by and
    what is reported about it are told by its source in the template (`Source.candidate`).

    * Every candidate of a template has a source (`exists_source_of_mem_candidates`).
    * The messages tell the kinds apart, so the findings about texts between tags are those of
      one sweep (`filter_isBetweenMarkups`). -/

namespace CatalogLint.Template

open Text Unicode

variable {name : String} {text : List Char} {found : Located Candidate}

/-! ## Sources -/

/-- The candidate for literal text that a text between two tags is. -/
def textCandidate (name : String) (text : List Char) : Candidate :=
  ⟨clean text,
    "Non-translated text between mark-ups in " ++ name ++ ": \"" ++ String.ofList (clean text)
      ++ "\""⟩

/-- The attributes whose values may be literal text. -/
def literalAttributes : List (List Char) :=
  [['a', 'l', 't'], ['t', 'i', 't', 'l', 'e']]

/-- What a candidate for literal text is in a template. -/
inductive Source where
  | inAttribute (written value : List Char) (hword : written.map Char.toLower ∈ literalAttributes)
  | betweenTags (text : List Char)
  | inQuotes (literal : List Char)

namespace Source

/-- The text of a source as it is written: the value of an attribute, the text between two
    tags, or the text between two quotes. -/
def raw : Source → List Char
  | inAttribute _ value _ => value
  | betweenTags text => text
  | inQuotes literal => literal

/-- The candidate that a source is. -/
def candidate (name : String) : Source → Candidate
  | inAttribute written value _ =>
      ⟨clean value, "Non-translated text in " ++ name ++ ": " ++ String.ofList written
        ++ "=\"" ++ String.ofList value ++ "\""⟩
  | betweenTags text => textCandidate name text
  | inQuotes literal =>
      ⟨clean literal, "Non-translated text might have been forgotten in " ++ name ++ ": \""
        ++ String.ofList (trim literal) ++ "\""⟩

/-- A candidate is compared with the exclusions by the cleaned text of its source. -/
theorem cleaned_candidate (name : String) (source : Source) :
    (source.candidate name).cleaned = clean source.raw := by
  cases source <;> rfl

end Source

/-! ## The sweeps -/

/-- A word is found as it is written, with letters of either case. -/
theorem map_toLower_of_afterWord? {word written rest : List Char}
    (h : afterWord? word text = some (written, rest)) : written.map Char.toLower = word := by
  fun_induction afterWord? word text generalizing written with
  | case1 text =>
      obtain ⟨rfl, -⟩ := Prod.mk.inj (Option.some.inj h)
      rfl
  | case2 => exact nomatch h
  | case3 word c text ih =>
      obtain ⟨⟨written', rest'⟩, hfound, heq⟩ := Option.map_eq_some_iff.mp h
      obtain ⟨rfl, rfl⟩ := Prod.mk.inj heq
      rw [List.map_cons, ih hfound]
  | case4 => exact nomatch h

/-- The sweep for an attribute finds its values. -/
theorem exists_inAttribute_of_mem_sweep {word : List Char} (hword : word ∈ literalAttributes)
    (h : found ∈ sweep (scanValue name word) text) :
    ∃ written value hwritten,
      found.value = (Source.inAttribute written value hwritten).candidate name := by
  obtain ⟨_, _, hit, hscan, heq⟩ := exists_hit_of_mem_sweep h
  have hsome : none ≠ some hit := (Option.some_ne_none hit).symm
  rw [heq]
  simp only [scanValue] at hscan
  split at hscan
  · exact absurd hscan hsome
  · split at hscan
    · exact absurd hscan hsome
    · rename_i written rest hwritten
      have hlower : written.map Char.toLower ∈ literalAttributes := by
        rw [map_toLower_of_afterWord? hwritten]
        exact hword
      repeat' split at hscan
      all_goals cases hscan
      exact ⟨written, _, hlower, rfl⟩

/-- The sweep for texts between tags finds such texts. -/
theorem exists_betweenTags_of_mem_sweep (h : found ∈ sweep (scanTextNode name) text) :
    ∃ node, found.value = (Source.betweenTags node).candidate name := by
  obtain ⟨_, _, hit, hscan, heq⟩ := exists_hit_of_mem_sweep h
  rw [heq]
  unfold scanTextNode at hscan
  split at hscan
  · dsimp only at hscan
    split at hscan
    · obtain rfl := Option.some.inj hscan
      exact ⟨_, rfl⟩
    · exact nomatch hscan
  · exact nomatch hscan

/-- The sweep for quoted texts finds such texts. -/
theorem exists_inQuotes_of_mem_sweep (h : found ∈ sweep (scanQuoted name) text) :
    ∃ literal, found.value = (Source.inQuotes literal).candidate name := by
  obtain ⟨_, _, hit, hscan, heq⟩ := exists_hit_of_mem_sweep h
  rw [heq]
  unfold scanQuoted at hscan
  split at hscan
  · split at hscan
    · dsimp only at hscan
      repeat' split at hscan
      all_goals cases hscan
      exact ⟨_, rfl⟩
    · exact nomatch hscan
  · exact nomatch hscan

/-- **Every candidate of a template has a source.** -/
theorem exists_source_of_mem_candidates (h : found ∈ candidates name text) :
    ∃ source : Source, found.value = source.candidate name := by
  rcases List.mem_append.mp h with hmarkup | hquoted
  · rcases List.mem_append.mp hmarkup with hattribute | hnode
    · rcases List.mem_append.mp hattribute with halt | htitle
      · obtain ⟨written, value, hwritten, hfound⟩ :=
          exists_inAttribute_of_mem_sweep (by decide) halt
        exact ⟨_, hfound⟩
      · obtain ⟨written, value, hwritten, hfound⟩ :=
          exists_inAttribute_of_mem_sweep (by decide) htitle
        exact ⟨_, hfound⟩
    · obtain ⟨node, hfound⟩ := exists_betweenTags_of_mem_sweep hnode
      exact ⟨_, hfound⟩
  · obtain ⟨literal, hfound⟩ := exists_inQuotes_of_mem_sweep hquoted
    exact ⟨_, hfound⟩

/-! ## Findings about texts between tags -/

/-- A finding about a candidate. -/
def candidateFinding (name : String) (found : Located Candidate) : Finding :=
  ((Finding.warning .untranslatedText found.value.message).atLine found.line).inFile name

/-- A finding about text between tags, as its message tells. -/
def IsBetweenMarkups (finding : Finding) : Prop :=
  "Non-translated text between mark-ups in ".toList <+: finding.message.toList

instance (finding : Finding) : Decidable (IsBetweenMarkups finding) :=
  inferInstanceAs (Decidable (_ <+: _))

/-- **A message tells whether its candidate is a text between tags.** -/
theorem isBetweenMarkups_iff {source : Source} (h : found.value = source.candidate name) :
    IsBetweenMarkups (candidateFinding name found) ↔ ∃ node, source = .betweenTags node := by
  show "Non-translated text between mark-ups in ".toList <+: found.value.message.toList ↔ _
  rw [h]
  cases source with
  | inAttribute written value hwritten => simp [Source.candidate]
  | betweenTags node => simp [Source.candidate, textCandidate]
  | inQuotes literal => simp [Source.candidate]

/-- The candidates that are texts between tags are those of the sweep for such texts. -/
theorem filter_candidates_isBetweenMarkups (name : String) (text : List Char) :
    (candidates name text).filter (IsBetweenMarkups <| candidateFinding name ·)
      = sweep (scanTextNode name) text := by
  have hvalue : ∀ {word : List Char}, word ∈ literalAttributes →
      (sweep (scanValue name word) text).filter (IsBetweenMarkups <| candidateFinding name ·)
        = [] := by
    intro word hword
    refine List.filter_eq_nil_iff.mpr fun found hfound => ?_
    obtain ⟨written, value, hwritten, hsource⟩ := exists_inAttribute_of_mem_sweep hword hfound
    rw [decide_eq_true_iff, isBetweenMarkups_iff hsource]
    rintro ⟨node, ⟨⟩⟩
  have hquoted : (sweep (scanQuoted name) text).filter
      (IsBetweenMarkups <| candidateFinding name ·) = [] := by
    refine List.filter_eq_nil_iff.mpr fun found hfound => ?_
    obtain ⟨literal, hsource⟩ := exists_inQuotes_of_mem_sweep hfound
    rw [decide_eq_true_iff, isBetweenMarkups_iff hsource]
    rintro ⟨node, ⟨⟩⟩
  have hnode : (sweep (scanTextNode name) text).filter
      (IsBetweenMarkups <| candidateFinding name ·) = sweep (scanTextNode name) text := by
    refine List.filter_eq_self.mpr fun found hfound => ?_
    obtain ⟨node, hsource⟩ := exists_betweenTags_of_mem_sweep hfound
    rw [decide_eq_true_iff, isBetweenMarkups_iff hsource]
    exact ⟨node, rfl⟩
  rw [candidates, List.filter_append, List.filter_append, List.filter_append, hvalue (by decide),
    hvalue (by decide), hquoted, hnode, List.append_nil, List.nil_append, List.nil_append]

/-- **The findings about texts between tags are those of the sweep for such texts.** -/
theorem filter_isBetweenMarkups (exclusions : SortedSet) (name : String) (text : List Char) :
    (literalFindings exclusions name text).filter IsBetweenMarkups
      = ((sweep (scanTextNode name) text).filter (isLiteral exclusions ·.value.cleaned)).map
          (candidateFinding name) := by
  rw [← filter_candidates_isBetweenMarkups, List.filter_comm]
  exact List.filter_map

end CatalogLint.Template
