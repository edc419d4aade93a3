import CatalogLint.Proofs.Template.Cleaning
import CatalogLint.Proofs.Template.Scanners
import Mathlib.Logic.Relation

/-! # Words and spacing

    The layout of a text is its white space.  It is changed run by run, and at both ends
    (`Respaced`); what no change touches is the words of the text (`sameLayout_iff`).

    * White space is a border for whatever is read from a text, word by word or entity by
      entity (`PartsAtBlanks`).  So a change of the layout leaves the words as they are, and it
      is a change of the layout of the text without its entities too
      (`Respaced.removeEntities`).  The white space on both sides of an entity becomes one run,
      or an end of the text, but it did so before the change.
    * A text whose runs of white space are made single spaces, and that is trimmed, is its
      words with single spaces between them (`trim_collapseBlanks`).  So a cleaned text is
      single-spaced (`singleSpaced_clean`).

    Hence cleaning does not depend on the layout (`cleaning_is_independent_of_layout`). -/

namespace CatalogLint.Template

open Text Unicode

variable {c : Char} {text rest blanks : List Char}

/-! ## White space as a border -/

/-- What is read from a text begins anew behind white space: it is what is read on both sides,
    with something in between that is left of the white space itself. -/
structure PartsAtBlanks {α : Type} (read : List Char → List α) (left : Char → List α) : Prop where
  nil : read [] = []
  append_cons : ∀ {c : Char}, isBlank c = true → ∀ text rest,
    read (text ++ c :: rest) = read text ++ (left c ++ read rest)

namespace PartsAtBlanks

variable {α : Type} {read : List Char → List α} {left : Char → List α}

/-- Reading begins anew behind white space at the start. -/
theorem blanks_append (h : PartsAtBlanks read left) (hblanks : ∀ c ∈ blanks, isBlank c = true)
    (rest : List Char) : read (blanks ++ rest) = blanks.flatMap left ++ read rest := by
  induction blanks with
  | nil => rfl
  | cons c blanks ih =>
      obtain ⟨hc, hmore⟩ := List.forall_mem_cons.mp hblanks
      have hhere := h.append_cons hc [] (blanks ++ rest)
      rw [h.nil, ih hmore] at hhere
      rw [List.flatMap_cons, List.append_assoc]
      exact hhere

/-- Reading begins anew behind a run of white space. -/
theorem append_blanks (h : PartsAtBlanks read left) (hne : blanks ≠ [])
    (hblanks : ∀ c ∈ blanks, isBlank c = true) (text rest : List Char) :
    read (text ++ (blanks ++ rest)) = read text ++ (blanks.flatMap left ++ read rest) := by
  obtain ⟨c, more, rfl⟩ := List.exists_cons_of_ne_nil hne
  obtain ⟨hc, hmore⟩ := List.forall_mem_cons.mp hblanks
  rw [List.cons_append, h.append_cons hc, h.blanks_append hmore, List.flatMap_cons,
    List.append_assoc]

/-- White space at the end adds what is left of it. -/
theorem append_of_blanks (h : PartsAtBlanks read left) (hblanks : ∀ c ∈ blanks, isBlank c = true)
    (text : List Char) : read (text ++ blanks) = read text ++ blanks.flatMap left := by
  by_cases hne : blanks = []
  · rw [hne, List.append_nil, List.flatMap_nil, List.append_nil]
  · have hbehind := h.append_blanks hne hblanks text []
    rw [List.append_nil, h.nil, List.append_nil] at hbehind
    exact hbehind

end PartsAtBlanks

/-! ## Words -/

/-- The words of a text: what stands between its white space. -/
def words (text : List Char) : List (List Char) :=
  (text.splitOnP isBlank).filter (· ≠ [])

/-- Words end at white space. -/
theorem words_append_cons (hc : isBlank c = true) (text rest : List Char) :
    words (text ++ c :: rest) = words text ++ words rest := by
  rw [words, List.splitOnP_append_cons _ _ hc, List.filter_append, words, words]

/-- Words are read so, and nothing is left of the white space. -/
theorem partsAtBlanks_words : PartsAtBlanks words fun _ => [] where
  nil := rfl
  append_cons := words_append_cons

/-- A text without white space is one word. -/
theorem words_of_no_blank (hne : text ≠ []) (h : ∀ c ∈ text, isBlank c = false) :
    words text = [text] := by
  rw [words, List.splitOnP_eq_singleton h, List.filter_cons, if_pos (decide_eq_true hne),
    List.filter_nil]

/-- A word has characters, and none of them is white space. -/
theorem of_mem_words {text word : List Char} (h : word ∈ words text) :
    word ≠ [] ∧ ∀ c ∈ word, isBlank c = false := by
  by_cases hblank : ∃ c ∈ text, isBlank c = true
  · -- the word lies on one side of the white space
    obtain ⟨c, hmem, hc⟩ := hblank
    obtain ⟨front, back, htext⟩ := List.append_of_mem hmem
    have hshorter : front.length < text.length ∧ back.length < text.length := by
      rw [htext, List.length_append, List.length_cons]
      omega
    rw [htext, words_append_cons hc] at h
    rcases List.mem_append.mp h with hfront | hback
    · exact of_mem_words hfront
    · exact of_mem_words hback
  · have hnone : ∀ c ∈ text, isBlank c = false :=
      fun c hmem => Bool.eq_false_iff.mpr fun hc => hblank ⟨c, hmem, hc⟩
    by_cases hempty : text = []
    · rw [hempty] at h
      exact nomatch h
    · rw [words_of_no_blank hempty hnone, List.mem_singleton] at h
      rw [h]
      exact ⟨hempty, hnone⟩
termination_by text.length

/-- Words with spaces between them are empty if there are none. -/
theorem intercalate_words_eq_nil_iff :
    [' '].intercalate (words text) = [] ↔ words text = [] := by
  constructor
  · intro h
    cases hwords : words text with
    | nil => rfl
    | cons word more =>
        have hne : word ≠ [] := (of_mem_words (hwords ▸ List.mem_cons_self)).1
        rw [hwords] at h
        cases more with
        | nil => exact absurd (List.intercalate_singleton.symm.trans h) hne
        | cons next more =>
            rw [List.intercalate_cons_cons, List.append_assoc, List.append_eq_nil_iff] at h
            exact absurd h.1 hne
  · intro h
    rw [h, List.intercalate_nil]

/-! ## Single spaces -/

/-- Every white space of a text is a single space between two characters that are none, and so
    the text neither begins nor ends with white space. -/
structure SingleSpaced (text : List Char) : Prop where
  head : ∀ c ∈ text.head?, isBlank c = false
  last : ∀ c ∈ text.getLast?, isBlank c = false
  inner : ∀ front c back, text = front ++ c :: back → isBlank c = true →
    c = ' ' ∧ (∃ previous ∈ front.getLast?, isBlank previous = false)
      ∧ ∃ next ∈ back.head?, isBlank next = false

/-- Between words there are single spaces, and nothing else is white space. -/
theorem inner_intercalate {items : List (List Char)}
    (hitems : ∀ word ∈ items, word ≠ [] ∧ ∀ c ∈ word, isBlank c = false)
    {front back : List Char} (h : [' '].intercalate items = front ++ c :: back)
    (hc : isBlank c = true) :
    c = ' ' ∧ (∃ previous ∈ front.getLast?, isBlank previous = false)
      ∧ ∃ next ∈ back.head?, isBlank next = false := by
  have hnotMem : ∀ word ∈ items, c ∉ word :=
    fun word hword hmem => Bool.false_ne_true (((hitems word hword).2 c hmem).symm.trans hc)
  induction items generalizing front with
  | nil =>
      rw [List.intercalate_nil] at h
      exact absurd h.symm (by simp)
  | cons word items ih =>
      obtain ⟨hword, hrest⟩ := List.forall_mem_cons.mp hitems
      cases items with
      | nil =>
          rw [List.intercalate_singleton] at h
          exact absurd (by rw [h]; simp) (hnotMem word List.mem_cons_self)
      | cons next items =>
          rw [List.intercalate_cons_cons, List.append_assoc] at h
          obtain ⟨inside, hfront, hbehind⟩ :=
            exists_of_append_cons_eq (hnotMem word List.mem_cons_self) h.symm
          cases inside with
          | nil =>
              -- this is the space behind the first word
              obtain ⟨hspace, hback⟩ := List.cons.inj hbehind
              have hlast : front.getLast? = some (word.getLast hword.1) := by
                rw [hfront, List.append_nil, List.getLast?_eq_some_getLast hword.1]
              obtain ⟨d, more, hnext⟩ := List.exists_cons_of_ne_nil (hrest next List.mem_cons_self).1
              have hhead : back.head? = some d := by
                rw [← hback, hnext]
                cases items <;> rfl
              refine ⟨hspace.symm, ⟨_, hlast, hword.2 _ (List.getLast_mem hword.1)⟩, d, hhead, ?_⟩
              exact (hrest next List.mem_cons_self).2 d (hnext ▸ List.mem_cons_self)
          | cons d inside =>
              -- it lies behind that space, where the other words are
              obtain ⟨-, hlater⟩ := List.cons.inj hbehind
              obtain ⟨hspace, ⟨previous, hprevious, hnone⟩, hnext⟩ :=
                ih hrest hlater fun word hmem => hnotMem word (List.mem_cons_of_mem _ hmem)
              refine ⟨hspace, ⟨previous, ?_, hnone⟩, hnext⟩
              have hne : inside ≠ [] := by
                rintro rfl
                exact nomatch hprevious
              rw [hfront, List.getLast?_append_of_ne_nil _ (List.cons_ne_nil d inside),
                List.getLast?_cons_of_ne_nil hne]
              exact hprevious

/-- Words with single spaces between them are single-spaced. -/
theorem singleSpaced_intercalate_words (text : List Char) :
    SingleSpaced ([' '].intercalate (words text)) := by
  have hinner : ∀ front c back, [' '].intercalate (words text) = front ++ c :: back →
      isBlank c = true → _ := fun front c back h => inner_intercalate (fun _ => of_mem_words) h
  refine ⟨fun c hhead => ?_, fun c hlast => ?_, hinner⟩
  · obtain ⟨back, hback⟩ := List.head?_eq_some_iff.mp hhead
    refine Bool.eq_false_iff.mpr fun hc => ?_
    obtain ⟨-, ⟨previous, hnone, -⟩, -⟩ := hinner [] c back hback hc
    exact nomatch hnone
  · obtain ⟨front, hfront⟩ := List.getLast?_eq_some_iff.mp hlast
    refine Bool.eq_false_iff.mpr fun hc => ?_
    obtain ⟨-, -, next, hnone, -⟩ := hinner front c [] hfront hc
    exact nomatch hnone

/-! ## Collapsed and trimmed texts -/

/-- What is trimmed from the start of a text whose runs are single spaces is its first run. -/
theorem trimStart_collapseFrom (inRun : Bool) (text : List Char) :
    trimStart (collapseFrom inRun text) = collapseFrom true text := by
  induction text generalizing inRun with
  | nil => rfl
  | cons c text ih =>
      by_cases hc : isBlank c = true
      · rw [collapseFrom, collapseFrom, if_pos hc, if_pos hc]
        cases inRun with
        | true => exact ih true
        | false => exact ih true
      · rw [collapseFrom, collapseFrom, if_neg hc, if_neg hc, trimStart, List.dropWhile_cons,
          if_neg hc]

/-- An end of a text that is white space alone goes, and what stands before it is trimmed. -/
theorem trimEnd_append_of_eq_nil (h : trimEnd rest = []) (text : List Char) :
    trimEnd (text ++ rest) = trimEnd text := by
  have hrest : rest.reverse.dropWhile isBlank = [] := List.reverse_eq_nil_iff.mp h
  rw [trimEnd, trimEnd, List.reverse_append, List.dropWhile_append, hrest, List.isEmpty_nil,
    if_pos rfl]

/-- What stands before an end that is not white space alone stays. -/
theorem trimEnd_append_of_ne_nil (h : trimEnd rest ≠ []) (text : List Char) :
    trimEnd (text ++ rest) = text ++ trimEnd rest := by
  have hrest : rest.reverse.dropWhile isBlank ≠ [] := fun heq => h (List.reverse_eq_nil_iff.mpr heq)
  rw [trimEnd, trimEnd, List.reverse_append, List.dropWhile_append,
    if_neg (fun hempty => hrest (List.isEmpty_iff.mp hempty)), List.reverse_append,
    List.reverse_reverse]

/-- A text without white space is trimmed to itself. -/
theorem trimEnd_of_no_blank (h : ∀ c ∈ text, isBlank c = false) : trimEnd text = text :=
  List.rdropWhile_eq_self_iff.mpr fun hne =>
    Bool.eq_false_iff.mp (h _ (List.getLast_mem hne))

/-- What is left of a text are its words with single spaces between them, from inside a run of
    white space or from inside a word. -/
theorem trimEnd_collapseFrom (text : List Char) :
    trimEnd (collapseFrom true text) = [' '].intercalate (words text)
    ∧ ∀ word, word ≠ [] → (∀ c ∈ word, isBlank c = false) →
        trimEnd (word ++ collapseFrom false text) = [' '].intercalate (words (word ++ text)) := by
  -- a run ends at a word and a word at a run, so one induction carries both
  induction text with
  | nil =>
      refine ⟨rfl, fun word hne hword => ?_⟩
      rw [collapseFrom, List.append_nil, trimEnd_of_no_blank hword, words_of_no_blank hne hword,
        List.intercalate_singleton]
  | cons c text ih =>
      obtain ⟨hrun, hinside⟩ := ih
      by_cases hc : isBlank c = true
      · rw [collapseFrom, collapseFrom, if_pos hc, if_pos hc]
        refine ⟨?_, fun word hne hword => ?_⟩
        · rw [if_pos rfl, hrun]
          exact congrArg _ (words_append_cons hc [] text).symm
        · rw [if_neg Bool.false_ne_true, words_append_cons hc, words_of_no_blank hne hword,
            List.singleton_append, List.append_cons]
          -- the space behind the word is trimmed if no word follows
          by_cases hnone : words text = []
          · have hrest : trimEnd (collapseFrom true text) = [] := by
              rw [hrun, hnone, List.intercalate_nil]
            have hspace : trimEnd [' '] = [] := by decide
            rw [trimEnd_append_of_eq_nil hrest, trimEnd_append_of_eq_nil hspace,
              trimEnd_of_no_blank hword, hnone, List.intercalate_singleton]
          · have hrest : trimEnd (collapseFrom true text) ≠ [] := by
              rw [hrun]
              exact fun hempty => hnone (intercalate_words_eq_nil_iff.mp hempty)
            rw [trimEnd_append_of_ne_nil hrest, hrun, List.intercalate_cons_of_ne_nil hnone]
      · have hblank : isBlank c = false := Bool.eq_false_iff.mpr hc
        rw [collapseFrom, collapseFrom, if_neg hc, if_neg hc]
        refine ⟨?_, fun word hne hword => ?_⟩
        · exact hinside [c] (List.cons_ne_nil c []) fun d hd => List.mem_singleton.mp hd ▸ hblank
        · rw [List.append_cons, List.append_cons word c text]
          refine hinside (word ++ [c]) (List.concat_ne_nil c word) fun d hd => ?_
          rcases List.mem_append.mp hd with hmem | hlast
          · exact hword d hmem
          · exact List.mem_singleton.mp hlast ▸ hblank

/-- **A text with single spaces, and trimmed, is its words with single spaces between them.** -/
theorem trim_collapseBlanks (text : List Char) :
    trim (collapseBlanks text) = [' '].intercalate (words text) := by
  rw [trim, collapseBlanks, trimStart_collapseFrom]
  exact (trimEnd_collapseFrom text).1

/-- A cleaned text is the words that are left without its entities. -/
theorem clean_eq (text : List Char) :
    clean text = [' '].intercalate (words (removeEntities text)) :=
  trim_collapseBlanks (removeEntities text)

/-- **A cleaned text is single-spaced.** -/
theorem singleSpaced_clean (text : List Char) : SingleSpaced (clean text) := by
  rw [clean_eq]
  exact singleSpaced_intercalate_words (removeEntities text)

/-! ## Layouts -/

/-- One change to the layout of a text: another run of white space in place of one, or more
    white space at one of the ends. -/
inductive Respaced : List Char → List Char → Prop where
  | run (front back : List Char) {blanks blanks' : List Char}
      (hne : blanks ≠ []) (hne' : blanks' ≠ [])
      (h : ∀ c ∈ blanks, isBlank c = true) (h' : ∀ c ∈ blanks', isBlank c = true) :
      Respaced (front ++ (blanks ++ back)) (front ++ (blanks' ++ back))
  | start (text : List Char) {blanks : List Char} (h : ∀ c ∈ blanks, isBlank c = true) :
      Respaced text (blanks ++ text)
  | finish (text : List Char) {blanks : List Char} (h : ∀ c ∈ blanks, isBlank c = true) :
      Respaced text (text ++ blanks)

/-- Two texts differ in their layout only: changes, made or taken back, lead from one to the
    other. -/
def SameLayout (text other : List Char) : Prop :=
  Relation.EqvGen Respaced text other

/-- A change of the layout leaves the words as they are. -/
theorem Respaced.words_eq {other : List Char} (h : Respaced text other) :
    words text = words other := by
  have hnothing : ∀ blanks : List Char, blanks.flatMap (fun _ => ([] : List (List Char))) = [] :=
    fun blanks => List.flatMap_eq_nil_iff.mpr fun _ _ => rfl
  cases h with
  | run front back hne hne' h h' =>
      rw [partsAtBlanks_words.append_blanks hne h, partsAtBlanks_words.append_blanks hne' h',
        hnothing, hnothing]
  | start _ h => rw [partsAtBlanks_words.blanks_append h, hnothing, List.nil_append]
  | finish _ h => rw [partsAtBlanks_words.append_of_blanks h, hnothing, List.append_nil]

/-- Texts that differ in their layout only have the same words. -/
theorem SameLayout.words_eq {other : List Char} (h : SameLayout text other) :
    words text = words other := by
  induction h with
  | rel _ _ hchange => exact hchange.words_eq
  | refl => rfl
  | symm _ _ _ ih => exact ih.symm
  | trans _ _ _ _ _ ih ih' => exact ih.trans ih'

/-- A text differs from what is trimmed in its layout only. -/
theorem sameLayout_trim (text : List Char) : SameLayout (trim text) text := by
  have hstart : SameLayout (trimStart text) text := by
    have hchange := Respaced.start (trimStart text) fun _ => List.mem_takeWhile_imp (l := text)
    rw [trimStart, List.takeWhile_append_dropWhile] at hchange
    exact .rel _ _ hchange
  obtain ⟨blanks, hblanks, htrimmed⟩ := exists_trimEnd_append (trimStart text)
  have hend : SameLayout (trim text) (trimStart text) := by
    have hchange := Respaced.finish (trim text) hblanks
    rw [trim, htrimmed] at hchange
    exact .rel _ _ hchange
  exact .trans _ _ _ hend hstart

/-- Runs of white space are made single spaces by changes of the layout: a run begins with a
    space, and behind its first character the others go. -/
theorem sameLayout_collapseFrom (text : List Char) :
    (∀ front, SameLayout (front ++ text) (front ++ collapseFrom false text))
    ∧ ∀ front c, isBlank c = true →
        SameLayout (front ++ c :: text) (front ++ c :: collapseFrom true text) := by
  induction text with
  | nil => exact ⟨fun _ => .refl _, fun _ _ _ => .refl _⟩
  | cons d text ih =>
      obtain ⟨hword, hrun⟩ := ih
      rw [collapseFrom, collapseFrom]
      by_cases hd : isBlank d = true
      · rw [if_pos hd, if_pos hd, if_neg Bool.false_ne_true, if_pos rfl]
        -- one change makes the character a space, or takes it into the run that has begun
        refine ⟨fun front => ?_, fun front c hc => ?_⟩
        · have hchange : Respaced (front ++ d :: text) (front ++ ' ' :: text) :=
            .run front text (List.cons_ne_nil d []) (List.cons_ne_nil ' ' [])
              (List.forall_mem_singleton.mpr hd) (List.forall_mem_singleton.mpr (by decide))
          exact .trans _ _ _ (.rel _ _ hchange) (hrun front ' ' (by decide))
        · have hchange : Respaced (front ++ c :: d :: text) (front ++ c :: text) :=
            .run front text (List.cons_ne_nil c [d]) (List.cons_ne_nil c [])
              (List.forall_mem_cons.mpr ⟨hc, List.forall_mem_singleton.mpr hd⟩)
              (List.forall_mem_singleton.mpr hc)
          exact .trans _ _ _ (.rel _ _ hchange) (hrun front c hc)
      · rw [if_neg hd, if_neg hd]
        refine ⟨fun front => ?_, fun front c _ => ?_⟩
        · rw [List.append_cons, List.append_cons front d (collapseFrom false text)]
          exact hword (front ++ [d])
        · have hlater := hword (front ++ [c, d])
          rw [List.append_assoc, List.append_assoc] at hlater
          exact hlater

/-- **Texts differ in their layout only** exactly if they have the same words. -/
theorem sameLayout_iff {other : List Char} : SameLayout text other ↔ words text = words other := by
  refine ⟨SameLayout.words_eq, fun h => ?_⟩
  have hwords : ∀ text, SameLayout text ([' '].intercalate (words text)) := by
    intro text
    rw [← trim_collapseBlanks]
    exact .trans _ _ _ ((sameLayout_collapseFrom text).1 [])
      (.symm _ _ (sameLayout_trim (collapseBlanks text)))
  have hother := hwords other
  rw [← h] at hother
  exact .trans _ _ _ (hwords text) (.symm _ _ hother)

instance (text other : List Char) : Decidable (SameLayout text other) :=
  decidable_of_iff _ sameLayout_iff.symm

/-! ## Entities -/

/-- White space is in no entity. -/
theorem stops_of_isBlank (h : isBlank c = true) : Entity.Stops c := by
  have hne : ∀ {d : Char}, isBlank d = false → c ≠ d := by
    rintro d hd rfl
    exact Bool.false_ne_true (hd.symm.trans h)
  exact ⟨hne (by decide), hne (by decide), hne (by decide), isWord_of_isBlank h⟩

/-- A text is freed of its entities on both sides of white space, which stays. -/
theorem partsAtBlanks_removeEntities : PartsAtBlanks removeEntities fun c => [c] where
  nil := rfl
  append_cons hc := removeEntities_append_stop (stops_of_isBlank hc)

/-- **A change of the layout is one of the text without its entities.** -/
theorem Respaced.removeEntities {other : List Char} (h : Respaced text other) :
    Respaced (removeEntities text) (removeEntities other) := by
  cases h with
  | run front back hne hne' h h' =>
      rw [partsAtBlanks_removeEntities.append_blanks hne h,
        partsAtBlanks_removeEntities.append_blanks hne' h', List.flatMap_singleton',
        List.flatMap_singleton']
      exact .run _ _ hne hne' h h'
  | start _ h =>
      rw [partsAtBlanks_removeEntities.blanks_append h, List.flatMap_singleton']
      exact .start _ h
  | finish _ h =>
      rw [partsAtBlanks_removeEntities.append_of_blanks h, List.flatMap_singleton']
      exact .finish _ h

/-- Texts that differ in their layout only do so without their entities. -/
theorem SameLayout.removeEntities {other : List Char} (h : SameLayout text other) :
    SameLayout (removeEntities text) (removeEntities other) := by
  induction h with
  | rel _ _ hchange => exact .rel _ _ hchange.removeEntities
  | refl => exact .refl _
  | symm _ _ _ ih => exact .symm _ _ ih
  | trans _ _ _ _ _ ih ih' => exact .trans _ _ _ ih ih'

/-- Texts that differ in their layout only are cleaned to the same. -/
theorem SameLayout.clean_eq {other : List Char} (h : SameLayout text other) :
    clean text = clean other := by
  rw [Template.clean_eq, Template.clean_eq, h.removeEntities.words_eq]

/-- **A text is cleaned to the same before and after it is trimmed.** -/
theorem clean_trim (text : List Char) : clean (trim text) = clean text :=
  (sameLayout_trim text).clean_eq

/-- **Cleaning does not depend on the layout.**  A cleaned text neither begins nor ends with
    white space, and every white space in it is a single space between two characters that are
    none.  Texts that differ only in runs of white space, none of them empty, and in white
    space at their ends are cleaned to the same; so both are literal or none, and the
    exclusions have both or none. -/
theorem cleaning_is_independent_of_layout (text : List Char) :
    SingleSpaced (clean text)
    ∧ ∀ other, SameLayout text other →
        clean other = clean text
        ∧ ∀ exclusions : SortedSet,
            isLiteral exclusions (clean other) = isLiteral exclusions (clean text)
            ∧ exclusions.contains (String.ofList (clean other))
              = exclusions.contains (String.ofList (clean text)) := by
  refine ⟨singleSpaced_clean text, fun other h => ?_⟩
  have hclean : clean other = clean text := h.clean_eq.symm
  refine ⟨hclean, fun exclusions => ?_⟩
  rw [hclean]
  exact ⟨rfl, rfl⟩

/-- An entity between two runs of white space, in a text that is wrapped and indented and in
    one that is not: both are cleaned to the same words with single spaces. -/
theorem cleaning_of_a_wrapped_text :
    let wrapped := "\n\t&#160; Not &nbsp;\r\n done\u2003yet \n".toList
    let flat := "&#160; Not &nbsp; done yet".toList
    let exclusions := SortedSet.ofList ["Not done yet"]
    SameLayout wrapped flat
    ∧ clean flat = clean wrapped ∧ clean wrapped = "Not done yet".toList
    ∧ isLiteral exclusions (clean flat) = isLiteral exclusions (clean wrapped)
    ∧ exclusions.contains (String.ofList (clean flat)) = true := by
  intro wrapped flat exclusions
  obtain ⟨-, hlayout⟩ := cleaning_is_independent_of_layout wrapped
  have hsame : SameLayout wrapped flat := by decide +kernel
  obtain ⟨hclean, halike⟩ := hlayout flat hsame
  obtain ⟨hliteral, hexcluded⟩ := halike exclusions
  refine ⟨hsame, hclean, by decide +kernel, hliteral, ?_⟩
  rw [hexcluded]
  decide +kernel

end CatalogLint.Template
