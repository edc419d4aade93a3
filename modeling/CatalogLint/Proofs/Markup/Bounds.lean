import CatalogLint.Proofs.Markup.Balance
import CatalogLint.Proofs.Text.Places

/-! # How often a value is rewritten

    The check of balance rewrites a value until no opening tag is left in it.  What is spliced
    together may make new tags, so the number of tags says nothing about the number of rounds;
    but no splice makes a bracket.

    * The tag that a round takes out begins with an opening bracket, so every round leaves
      fewer of them than there were (`nextRound?_count`).
    * Hence a run of rounds, however far it goes, has at most as many rounds as it has used up
      opening brackets (`RoundsFrom.length_le`), and the rounds of the check are such a run, which
      goes on until there is no further round (`roundsFrom_rounds`, `nextRound?_leftover`).
    * A round reports one tag at most, and the closing tags that are reported at the end take
      one of the brackets that are left (`length_checkBalance_le`). -/

namespace CatalogLint.Markup

open Text

variable {text last : List Char} {run : List Round}

/-! ## One round -/

/-- The first opening tag stands where it is found, and it begins with a bracket. -/
theorem exists_of_firstOpening {passing : Nat} {before name after : List Char}
    (h : firstOpening passing text = some (before, name, after)) :
    ∃ tag, text = before ++ '<' :: (tag ++ after) := by
  induction text generalizing passing before with
  | nil => cases h
  | cons c rest ih =>
      have hfurther : ∀ passing,
          (firstOpening passing rest).map (behind [c]) = some (before, name, after) →
            ∃ tag, c :: rest = before ++ '<' :: (tag ++ after) := by
        intro passing hbehind
        obtain ⟨⟨found, name', after'⟩, hfound, heq⟩ := Option.map_eq_some_iff.mp hbehind
        cases heq
        obtain ⟨tag, htag⟩ := ih hfound
        exact ⟨tag, congrArg (c :: ·) htag⟩
      cases passing with
      | succ passing => exact hfurther passing h
      | zero =>
          cases hscan : scanOpening none (c :: rest) with
          | none => exact hfurther 0 ((firstOpening_of_eq_none hscan).symm.trans h)
          | some hit =>
              rw [firstOpening, hscan] at h
              dsimp only at h
              split at h
              · exact hfurther hit.more h
              · cases h
                have hc : c = '<' := by
                  by_contra hne
                  cases hscan.symm.trans (readsTags_scanOpening.off_bracket none c rest hne)
                exact ⟨rest.take hit.more, by rw [hc, List.take_append_drop, List.nil_append]⟩

/-- **Every round leaves fewer opening brackets than there were**, whatever is spliced
    together: the tag that it takes out begins with one. -/
theorem nextRound?_count {round : Round} (h : nextRound? text = some round) :
    round.left.count '<' < text.count '<' := by
  rw [nextRound?] at h
  split at h
  · cases h
  · rename_i before name after hfirst
    obtain ⟨tag, rfl⟩ := exists_of_firstOpening hfirst
    split at h
    · rename_i inner outer hpartner
      cases h
      have hafter := (of_splitOnce_eq_some (List.cons_ne_nil _ _) hpartner).1
      rw [hafter]
      simp only [List.count_append, List.count_cons_self]
      omega
    · cases h
      simp only [List.count_append, List.count_cons_self]
      omega

/-! ## Runs of rounds -/

/-- A run of rounds from a text to the text that is left after them: every round is the one
    for what the round before it left. -/
inductive RoundsFrom : List Char → List Round → List Char → Prop where
  | nil {text : List Char} : RoundsFrom text [] text
  | cons {text last : List Char} {round : Round} {more : List Round}
      (hround : nextRound? text = some round) (hmore : RoundsFrom round.left more last) :
      RoundsFrom text (round :: more) last

/-- **A run has at most as many rounds as it uses up opening brackets.** -/
theorem RoundsFrom.length_le (h : RoundsFrom text run last) :
    run.length + last.count '<' ≤ text.count '<' := by
  induction h with
  | nil => exact (Nat.zero_add _).le
  | cons hround _ ih =>
      have hstep := nextRound?_count hround
      rw [List.length_cons]
      omega

/-- A run is the beginning of the rounds of a text, which go on with those of what it leaves. -/
theorem RoundsFrom.rounds_eq (h : RoundsFrom text run last) :
    rounds text = run ++ rounds last := by
  induction h with
  | nil => rw [List.nil_append]
  | cons hround _ ih => rw [(rounds_of_eq_some hround).1, ih, List.cons_append]

/-- The rounds of a text are a run from the text to what is left in the end, and no round is
    left for that. -/
theorem roundsFrom_rounds (text : List Char) :
    RoundsFrom text (rounds text) (leftover text) ∧ nextRound? (leftover text) = none := by
  induction text using rounds.induct with
  | case1 text hnone =>
      obtain ⟨hrounds, hleft⟩ := rounds_of_eq_none hnone
      rw [hrounds, hleft]
      exact ⟨.nil, hnone⟩
  | case2 text round hround _ ih =>
      obtain ⟨hrounds, hleft⟩ := rounds_of_eq_some hround
      rw [hrounds, hleft]
      exact ⟨.cons hround ih.1, ih.2⟩

/-! ## The check of balance -/

/-- What is reported takes a bracket each: the rounds use one up for every tag they report,
    and the closing tags at the end stand at those that are left. -/
theorem length_checkBalance_le (value : String) :
    (checkBalance value).length ≤ value.toList.count '<' := by
  have hrounds := (roundsFrom_rounds value.toList).1.length_le
  have hunclosed : ((rounds value.toList).filterMap (·.unclosed)).length
      ≤ (rounds value.toList).length := List.length_filterMap_le _ _
  have hbegins : BeginsWith scanClosing '<' := readsTags_scanClosing.off_bracket
  have hunopened := hbegins.length_sweep_le (leftover value.toList)
  rw [checkBalance, List.length_append, List.length_map, List.length_map]
  omega

/-- **The rounds come to an end on every value**, however malformed: they are a run from the
    value to a text without a further round, any other run is a beginning of them, and a run
    has at most as many rounds as the value has opening brackets.  No more tags than that are
    reported either, the closing ones included. -/
theorem rounds_and_reports_are_bounded_by_brackets (value : String) :
    (RoundsFrom value.toList (rounds value.toList) (leftover value.toList)
        ∧ nextRound? (leftover value.toList) = none)
      ∧ (∀ run last, RoundsFrom value.toList run last →
          run <+: rounds value.toList ∧ run.length ≤ value.toList.count '<')
      ∧ (rounds value.toList).length ≤ value.toList.count '<'
      ∧ (checkBalance value).length ≤ value.toList.count '<' := by
  have hbound : ∀ run last, RoundsFrom value.toList run last →
      run <+: rounds value.toList ∧ run.length ≤ value.toList.count '<' := fun run last hrun =>
    ⟨⟨rounds last, hrun.rounds_eq.symm⟩, (Nat.le_add_right _ _).trans hrun.length_le⟩
  have hrounds := roundsFrom_rounds value.toList
  exact ⟨hrounds, hbound, (hbound _ _ hrounds.1).2, length_checkBalance_le value⟩

/-- A value in which the first round makes the opening tag of the second one. -/
theorem rounds_and_reports_of_a_tag_in_a_tag :
    RoundsFrom "<a><x</a>y>".toList [⟨none, "<xy>".toList⟩, ⟨some "xy".toList, []⟩] []
      ∧ ([⟨none, "<xy>".toList⟩, ⟨some "xy".toList, []⟩] <+: rounds "<a><x</a>y>".toList
        ∧ [(⟨none, "<xy>".toList⟩ : Round), ⟨some "xy".toList, []⟩].length
          ≤ "<a><x</a>y>".toList.count '<')
      ∧ (checkBalance "<a><x</a>y>").length ≤ "<a><x</a>y>".toList.count '<' := by
  have hrun : RoundsFrom "<a><x</a>y>".toList
      [⟨none, "<xy>".toList⟩, ⟨some "xy".toList, []⟩] [] := .cons rfl (.cons rfl .nil)
  obtain ⟨-, hbound, -, hreports⟩ := rounds_and_reports_are_bounded_by_brackets "<a><x</a>y>"
  exact ⟨hrun, hbound _ _ hrun, hreports⟩

end CatalogLint.Markup
