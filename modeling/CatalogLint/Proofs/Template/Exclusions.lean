import CatalogLint.Proofs.Template.Candidates
import CatalogLint.Proofs.Template.Spacing

/-! # Exclusions

    A text that is excluded silences the candidates for literal text that come to it when
    they are cleaned.

    The findings do not say what was compared with the exclusions: a finding about an
    attribute quotes its value as it is written, one about a quoted text quotes it trimmed,
    and only one about a text between tags quotes it cleaned.

    * But what a finding quotes determines the cleaned text (`Source.clean_raw_eq`): a quoted
      text is cleaned to the same before and after it is trimmed (`clean_trim`).  So a finding
      is about one text (`isAbout_candidateFinding_iff`).
    * So one more excluded text takes away the findings about it (`literalFindings_insert`),
      and what the union of two sets leaves is what both leave (`literalFindings_union`). -/

namespace CatalogLint

/-! ## Sets of strings -/

namespace SortedSet

/-- The members of two sets. -/
def union (first second : SortedSet) : SortedSet :=
  second.toList.foldl insert first

/-- A union has the members of both sets. -/
theorem contains_union (first second : SortedSet) (other : String) :
    (first.union second).contains other = (first.contains other || second.contains other) := by
  suffices hfold : ∀ (members : List String) (set : SortedSet),
      (members.foldl insert set).contains other
        = (set.contains other || members.contains other) from hfold second.toList first
  intro members
  induction members with
  | nil =>
      intro set
      rw [List.foldl_nil, List.contains_nil, Bool.or_false]
  | cons member members ih =>
      intro set
      rw [List.foldl_cons, ih, contains_insert, List.contains_cons, Bool.or_assoc,
        Bool.or_left_comm]

end SortedSet

namespace Template

open Text Unicode

variable {name : String} {text : List Char}

/-! ## What is quoted -/

namespace Source

/-- The name of an attribute holds no equals sign. -/
theorem sign_notMem {written : List Char} (h : written.map Char.toLower ∈ literalAttributes) :
    '=' ∉ written := by
  intro hmem
  have hlower : '=' ∈ written.map Char.toLower := List.mem_map.mpr ⟨'=', hmem, by decide⟩
  have hnone : ∀ word ∈ literalAttributes, '=' ∉ word := by decide
  exact hnone _ h hlower

/-- **What is quoted determines the cleaned text.**  Sources of candidates with one message
    come to the same text when they are cleaned. -/
theorem clean_raw_eq {first second : Source}
    (h : (first.candidate name).message = (second.candidate name).message) :
    clean first.raw = clean second.raw := by
  have hchars := congrArg String.toList h
  cases first with
  | inAttribute written value hword =>
      cases second with
      | inAttribute written' value' hword' =>
          have hquoted : written ++ '=' :: '"' :: (value ++ ['"'])
              = written' ++ '=' :: '"' :: (value' ++ ['"']) := by
            simpa [candidate] using hchars
          have hwritten : written = written' := by
            rw [← takeWhile_append_stop (sign_notMem hword) ('"' :: (value ++ ['"'])), hquoted]
            exact takeWhile_append_stop (sign_notMem hword') _
          rw [hwritten] at hquoted
          have hvalue : value = value' := by simpa using hquoted
          exact congrArg clean hvalue
      | betweenTags text => simp [candidate, textCandidate] at hchars
      | inQuotes literal => simp [candidate] at hchars
  | betweenTags text =>
      cases second with
      | inAttribute written' value' hword' => simp [candidate, textCandidate] at hchars
      | betweenTags text' =>
          show clean text = clean text'
          simpa [candidate, textCandidate] using hchars
      | inQuotes literal => simp [candidate, textCandidate] at hchars
  | inQuotes literal =>
      cases second with
      | inAttribute written' value' hword' => simp [candidate] at hchars
      | betweenTags text' => simp [candidate, textCandidate] at hchars
      | inQuotes literal' =>
          have htrimmed : trim literal = trim literal' := by simpa [candidate] using hchars
          show clean literal = clean literal'
          rw [← clean_trim literal, htrimmed, clean_trim]

end Source

/-! ## Findings about a text -/

/-- A finding is about literal text that comes to the given text when it is cleaned. -/
def IsAbout (finding : Finding) (cleaned : String) : Prop :=
  finding.category = .untranslatedText
    ∧ ∃ (name : String) (source : Source), finding.file = some name
      ∧ finding.message = (source.candidate name).message
      ∧ String.ofList (clean source.raw) = cleaned

/-- Candidates that are reported alike are compared alike with the exclusions. -/
theorem cleaned_eq_of_message_eq {found other : Located Candidate}
    (hfound : found ∈ candidates name text) (hother : other ∈ candidates name text)
    (h : found.value.message = other.value.message) :
    found.value.cleaned = other.value.cleaned := by
  obtain ⟨source, hsource⟩ := exists_source_of_mem_candidates hfound
  obtain ⟨source', hsource'⟩ := exists_source_of_mem_candidates hother
  rw [hsource, hsource'] at h
  rw [hsource, hsource', Source.cleaned_candidate, Source.cleaned_candidate]
  exact Source.clean_raw_eq h

/-- **A finding is about the text that its candidate is compared by**, and about no other. -/
theorem isAbout_candidateFinding_iff {found : Located Candidate} {cleaned : String}
    (h : found ∈ candidates name text) :
    IsAbout (candidateFinding name found) cleaned
      ↔ String.ofList found.value.cleaned = cleaned := by
  obtain ⟨source, hsource⟩ := exists_source_of_mem_candidates h
  rw [hsource, Source.cleaned_candidate]
  constructor
  · rintro ⟨-, other, source', hfile, hmessage, hcleaned⟩
    obtain rfl : name = other := Option.some.inj hfile
    have hsame : (source.candidate name).message = (source'.candidate name).message := by
      rw [← hsource]
      exact hmessage
    rw [Source.clean_raw_eq hsame]
    exact hcleaned
  · intro hcleaned
    exact ⟨rfl, name, source, rfl, congrArg Candidate.message hsource, hcleaned⟩

/-- The findings under other exclusions are some of those that there are, if just those
    candidates are literal that were so and are not taken away. -/
theorem literalFindings_eq_filter {exclusions exclusions' : SortedSet} {keep : Finding → Bool}
    (h : ∀ found ∈ candidates name text, isLiteral exclusions' found.value.cleaned
      = (keep (candidateFinding name found) && isLiteral exclusions found.value.cleaned)) :
    literalFindings exclusions' name text
      = (literalFindings exclusions name text).filter keep := by
  show ((candidates name text).filter _).map (candidateFinding name)
    = (((candidates name text).filter _).map (candidateFinding name)).filter keep
  rw [List.filter_map, List.filter_filter]
  exact congrArg (List.map (candidateFinding name)) (List.filter_congr h)

/-- A candidate is reported if it counts as literal. -/
theorem candidateFinding_mem_iff {exclusions : SortedSet} {found : Located Candidate}
    (h : found ∈ candidates name text) :
    candidateFinding name found ∈ literalFindings exclusions name text
      ↔ isLiteral exclusions found.value.cleaned = true := by
  constructor
  · intro hmem
    obtain ⟨other, hother, heq⟩ := List.mem_map.mp hmem
    obtain ⟨hcandidate, hliteral⟩ := List.mem_filter.mp hother
    rwa [← cleaned_eq_of_message_eq hcandidate h (congrArg Finding.message heq)]
  · intro hliteral
    exact List.mem_map_of_mem (List.mem_filter.mpr ⟨h, hliteral⟩)

open Classical in
/-- **One more excluded text takes away the findings about it.** -/
theorem literalFindings_insert (exclusions : SortedSet) (member name : String) (text : List Char) :
    literalFindings (exclusions.insert member) name text
      = (literalFindings exclusions name text).filter (¬ IsAbout · member) := by
  refine literalFindings_eq_filter fun found hfound => ?_
  rw [isLiteral, isLiteral, SortedSet.contains_insert, Bool.not_or, Bool.and_left_comm]
  refine congrArg (· && _) ?_
  rw [Bool.eq_iff_iff, decide_eq_true_iff, isAbout_candidateFinding_iff hfound, Bool.not_eq_true',
    beq_eq_false_iff_ne]

/-- **Under the union of two sets is reported what is reported under both.** -/
theorem literalFindings_union (first second : SortedSet) (name : String) (text : List Char) :
    literalFindings (first.union second) name text
      = (literalFindings first name text).filter
          (· ∈ literalFindings second name text) := by
  refine literalFindings_eq_filter fun found hfound => ?_
  have hsecond : decide (candidateFinding name found ∈ literalFindings second name text)
      = isLiteral second found.value.cleaned :=
    Bool.eq_iff_iff.mpr (decide_eq_true_iff.trans (candidateFinding_mem_iff hfound))
  rw [hsecond, isLiteral, isLiteral, isLiteral, SortedSet.contains_union, Bool.not_or]
  cases hasText found.value.cleaned with
  | false => rfl
  | true =>
      rw [Bool.true_and, Bool.true_and, Bool.true_and]
      exact Bool.and_comm ..

/-- The more texts are excluded, the less is reported. -/
theorem literalFindings_sublist {exclusions exclusions' : SortedSet}
    (h : ∀ member, exclusions.contains member = true → exclusions'.contains member = true)
    (name : String) (text : List Char) :
    (literalFindings exclusions' name text).Sublist (literalFindings exclusions name text) := by
  refine List.Sublist.map _ (List.monotone_filter_right _ fun found hliteral => ?_)
  rw [isLiteral, Bool.and_eq_true, Bool.not_eq_true'] at hliteral ⊢
  refine ⟨hliteral.1, Bool.eq_false_iff.mpr fun hcontains => ?_⟩
  rw [h _ hcontains] at hliteral
  exact Bool.false_ne_true hliteral.2.symm

end Template

end CatalogLint
