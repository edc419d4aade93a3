import CatalogLint.Proofs.Text.Marks
import CatalogLint.Proofs.Text.Sweep
import CatalogLint.Template.Literal
import Mathlib.Data.List.DropRight

/-! # Cleaning of texts

    A candidate for literal text is cleaned before it is looked at: entities go, every run of
    white space becomes a single space, and the ends are trimmed.  An entity lies on one side
    of a character that no entity holds (`removeEntities_append_stop`), a run of white space
    on one side of a character that is no white space (`collapseFrom_append`), and trimming
    takes away white space only (`exists_trimEnd_append`). -/

namespace CatalogLint.Template

open Text Unicode

variable {text rest : List Char}

/-! ## Entities -/

/-- An entity by name, or by number if it is marked. -/
structure Entity where
  marked : Bool
  word : List Char
  word_ne_nil : word ≠ []
  word_isWord : ∀ c ∈ word, isWord c = true

namespace Entity

/-- What stands between the ampersand of an entity and its semicolon. -/
def inner (entity : Entity) : List Char :=
  (if entity.marked then ['#'] else []) ++ entity.word

/-- An entity as it is written. -/
def chars (entity : Entity) : List Char :=
  '&' :: (entity.inner ++ [';'])

/-- A character that no entity holds. -/
structure Stops (c : Char) : Prop where
  ne_ampersand : c ≠ '&'
  ne_mark : c ≠ '#'
  ne_semicolon : c ≠ ';'
  not_isWord : isWord c = false

/-- Such a character is not in an entity. -/
theorem notMem_chars {c : Char} (h : Stops c) (entity : Entity) : c ∉ entity.chars := by
  intro hmem
  rw [chars, inner] at hmem
  simp only [List.mem_cons, List.mem_append, List.not_mem_nil, or_false] at hmem
  rcases hmem with hampersand | (hmark | hword) | hsemicolon
  · exact h.ne_ampersand hampersand
  · split at hmark
    · exact h.ne_mark (List.mem_singleton.mp hmark)
    · exact nomatch hmark
  · exact notMem_of_forall_eq entity.word_isWord h.not_isWord hword
  · exact h.ne_semicolon hsemicolon

end Entity

/-- Entities are found whatever stands before them. -/
theorem looksAhead_scanEntity : LooksAhead scanEntity := by
  intro before text
  unfold scanEntity
  split <;> rfl

/-- What stands behind an ampersand and its mark is an entity if it is a word and a
    semicolon. -/
theorem scanEntity_of_body {before : Option Char} {body : List Char}
    (h : rest = '#' :: body ∨ rest = body ∧ body.head? ≠ some '#') :
    scanEntity before ('&' :: rest)
      = match body.takeWhile isWord, body.drop (body.takeWhile isWord).length with
        | _ :: _, ';' :: tail => some { value := [], more := rest.length - tail.length }
        | _, _ => none := by
  rcases h with rfl | ⟨rfl, hhead⟩
  · rfl
  · cases rest with
    | nil => rfl
    | cons c rest =>
        have hc : c ≠ '#' := fun heq => hhead (congrArg some heq)
        unfold scanEntity
        split
        · rename_i heq
          cases heq
          split
          · rename_i heq
            exact absurd (List.cons.inj heq).1 hc
          · rfl
        · rename_i hno
          exact absurd rfl (hno _)

/-- An entity is found where it is written, and nothing is put in its place. -/
theorem scanEntity_entity (before : Option Char) (entity : Entity) (rest : List Char) :
    scanEntity before (entity.chars ++ rest)
      = some { value := [], more := entity.inner.length + 1 } := by
  obtain ⟨w, more, hword⟩ := List.exists_cons_of_ne_nil entity.word_ne_nil
  have hbody : entity.inner ++ [';'] ++ rest = '#' :: (entity.word ++ ';' :: rest)
      ∨ entity.inner ++ [';'] ++ rest = entity.word ++ ';' :: rest
        ∧ (entity.word ++ ';' :: rest).head? ≠ some '#' := by
    rw [Entity.inner]
    cases entity.marked with
    | true => exact Or.inl (by simp)
    | false =>
        refine Or.inr ⟨by simp, fun heq => ?_⟩
        have hmark : isWord '#' = true := by
          rw [hword] at heq
          exact Option.some.inj heq ▸ entity.word_isWord w (hword ▸ List.mem_cons_self)
        exact absurd hmark (by decide)
  rw [Entity.chars, List.cons_append, scanEntity_of_body hbody,
    takeWhile_append_cons entity.word_isWord (by decide), List.drop_left, hword]
  simp only [List.length_append, List.length_cons, List.length_nil, Nat.add_sub_cancel,
    Nat.zero_add]

/-- What is found is an entity. -/
theorem of_scanEntity_eq_some {before : Option Char} {hit : Hit (List Char)}
    (h : scanEntity before text = some hit) :
    ∃ (entity : Entity) (rest : List Char), text = entity.chars ++ rest := by
  obtain ⟨behind, rfl⟩ : ∃ behind, text = '&' :: behind := by
    unfold scanEntity at h
    split at h
    · exact ⟨_, rfl⟩
    · exact nomatch h
  obtain ⟨marked, body, hbehind, hbody⟩ : ∃ (marked : Bool) (body : List Char),
      behind = (if marked then ['#'] else []) ++ body
        ∧ (behind = '#' :: body ∨ behind = body ∧ body.head? ≠ some '#') := by
    by_cases hmark : behind.head? = some '#'
    · obtain ⟨body, rfl⟩ := List.head?_eq_some_iff.mp hmark
      exact ⟨true, body, rfl, Or.inl rfl⟩
    · exact ⟨false, behind, rfl, Or.inr ⟨rfl, hmark⟩⟩
  rw [scanEntity_of_body hbody] at h
  split at h
  · rename_i w more tail hword htail
    have hsplit : body = body.takeWhile isWord ++ ';' :: tail := by
      rw [← htail]
      exact (List.prefix_iff_eq_append.mp (List.takeWhile_prefix isWord)).symm
    have hne : body.takeWhile isWord ≠ [] := hword ▸ List.cons_ne_nil w more
    refine ⟨⟨marked, body.takeWhile isWord, hne, fun c hc => List.mem_takeWhile_imp hc⟩, tail, ?_⟩
    rw [hbehind, Entity.chars, Entity.inner]
    conv_lhs => rw [hsplit]
    simp only [List.cons_append, List.append_assoc, List.nil_append]
  · exact nomatch h

/-! ## Texts without their entities -/

/-- An entity goes. -/
theorem removeEntities_entity (entity : Entity) (rest : List Char) :
    removeEntities (entity.chars ++ rest) = removeEntities rest := by
  have hlength : entity.chars.length = entity.inner.length + 1 + 1 := by
    rw [Entity.chars, List.length_cons, List.length_append, List.length_singleton]
  exact looksAhead_scanEntity.substitute_of_eq_some (scanEntity_entity none entity rest) hlength

/-- A character that no entity begins with stays. -/
theorem removeEntities_cons {c : Char}
    (h : ∀ (entity : Entity) (tail : List Char), c :: rest ≠ entity.chars ++ tail) :
    removeEntities (c :: rest) = c :: removeEntities rest := by
  refine looksAhead_scanEntity.substitute_of_eq_none ?_
  refine Option.eq_none_iff_forall_ne_some.mpr fun hit hhit => ?_
  obtain ⟨entity, tail, heq⟩ := of_scanEntity_eq_some hhit
  exact h entity tail heq

/-- A character that no entity holds stays. -/
theorem removeEntities_stop {c : Char} (h : Entity.Stops c) (rest : List Char) :
    removeEntities (c :: rest) = c :: removeEntities rest :=
  removeEntities_cons fun _ _ heq => h.ne_ampersand (List.cons.inj heq).1

/-- **An entity does not reach over a character that no entity holds.** -/
theorem removeEntities_append_stop {c : Char} (h : Entity.Stops c) (text rest : List Char) :
    removeEntities (text ++ c :: rest) = removeEntities text ++ c :: removeEntities rest := by
  by_cases hentity : ∃ (entity : Entity) (tail : List Char), text = entity.chars ++ tail
  · obtain ⟨entity, tail, htext⟩ := hentity
    have hshorter : tail.length < text.length := by
      rw [htext, Entity.chars, List.length_append, List.length_cons]
      omega
    rw [htext, List.append_assoc, removeEntities_entity, removeEntities_entity,
      removeEntities_append_stop h tail rest]
  · cases text with
    | nil => exact removeEntities_stop h rest
    | cons d text =>
        have hhere : ∀ (entity : Entity) (tail : List Char), d :: text ≠ entity.chars ++ tail :=
          fun entity tail heq => hentity ⟨entity, tail, heq⟩
        have hthere : ∀ (entity : Entity) (tail : List Char),
            d :: (text ++ c :: rest) ≠ entity.chars ++ tail := by
          intro entity tail heq
          -- an entity at the head of the longer text ends before the character
          obtain ⟨inside, htext, -⟩ :=
            exists_of_append_cons_eq (Entity.notMem_chars h entity) (List.cons_append.trans heq)
          exact hhere entity inside htext
        rw [List.cons_append, removeEntities_cons hthere, removeEntities_cons hhere,
          removeEntities_append_stop h text rest, List.cons_append]
termination_by text.length

/-! ## Runs of white space -/

/-- A run of white space does not reach over a character that is no white space. -/
theorem collapseFrom_append {c : Char} (hc : isBlank c = false) (inRun : Bool)
    (text rest : List Char) :
    collapseFrom inRun (text ++ c :: rest)
      = collapseFrom inRun text ++ c :: collapseFrom false rest := by
  induction text generalizing inRun with
  | nil => simp [collapseFrom, hc]
  | cons d text ih =>
      rw [List.cons_append, collapseFrom, collapseFrom, ih, ih]
      by_cases hd : isBlank d = true
      · cases inRun <;> simp [hd]
      · simp [hd]

/-- What starts with a character that is no white space after its runs have been made
    single spaces has started with it before. -/
theorem head?_of_head?_collapseFrom {c : Char} (hc : isBlank c = false)
    (h : (collapseFrom false text).head? = some c) : text.head? = some c := by
  cases text with
  | nil => exact nomatch h
  | cons d text =>
      rw [collapseFrom] at h
      by_cases hd : isBlank d = true
      · simp only [hd, if_true, Bool.false_eq_true, if_false] at h
        obtain rfl : ' ' = c := Option.some.inj h
        exact absurd hc (by decide)
      · simpa [hd] using h

/-- A pair of characters that are no white space stands together if it does so after the runs
    of white space have been made single spaces. -/
theorem pair_infix_of_collapseFrom {c d : Char} (hc : isBlank c = false) (hd : isBlank d = false)
    {inRun : Bool} (h : [c, d] <:+: collapseFrom inRun text) : [c, d] <:+: text := by
  induction text generalizing inRun with
  | nil => exact h
  | cons e text ih =>
      rw [collapseFrom] at h
      by_cases he : isBlank e = true
      · have hrest : [c, d] <:+: collapseFrom true text := by
          cases inRun with
          | true => simpa [he] using h
          | false =>
              simp only [he, if_true, Bool.false_eq_true, if_false] at h
              rcases List.infix_cons_iff.mp h with hprefix | hinside
              · obtain rfl : c = ' ' := (List.cons_prefix_cons.mp hprefix).1
                exact absurd hc (by decide)
              · exact hinside
        exact List.infix_cons (ih hrest)
      · simp only [he, Bool.false_eq_true, if_false] at h
        rcases List.infix_cons_iff.mp h with hprefix | hinside
        · obtain ⟨rfl, hnext⟩ := List.cons_prefix_cons.mp hprefix
          have hhead : text.head? = some d := by
            refine head?_of_head?_collapseFrom hd ?_
            obtain ⟨tail, htail⟩ := hnext
            rw [← htail]
            rfl
          obtain ⟨tail, rfl⟩ := List.head?_eq_some_iff.mp hhead
          exact ⟨[], tail, rfl⟩
        · exact List.infix_cons (ih hinside)

/-! ## Ends -/

/-- White space alone is taken from the end of a text. -/
theorem exists_trimEnd_append (text : List Char) :
    ∃ blanks, (∀ c ∈ blanks, isBlank c = true) ∧ trimEnd text ++ blanks = text :=
  ⟨text.rtakeWhile isBlank, fun _ hc => List.mem_rtakeWhile_imp hc,
    List.rdropWhile_append_rtakeWhile⟩

end CatalogLint.Template
