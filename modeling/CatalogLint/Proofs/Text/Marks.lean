import CatalogLint.Text.Sweep

/-! # Marks in a text

    A mark is looked for from left to right.  If no proper end of it is a beginning of it,
    then a mark that is written into a text is found where it was written, unless there is
    one before it: the text around it cannot complete a mark across its ends
    (`splitOnce_append`). -/

namespace CatalogLint.Text

variable {mark start text rest left right : List Char}

/-! ## Characters of one kind -/

/-- A character of another kind than all that a text holds does not stand in it. -/
theorem notMem_of_forall_eq {kind : Char → Bool} {value : Bool}
    (h : ∀ d ∈ text, kind d = value) {c : Char} (hc : kind c = !value) : c ∉ text := by
  intro hmem
  rw [h c hmem] at hc
  exact (Bool.eq_not_self value).mp hc

/-! ## Beginnings -/

/-- What follows a beginning is what the text continues with. -/
theorem after?_eq_some_iff : after? start text = some rest ↔ text = start ++ rest := by
  fun_induction after? start text with
  | case1 text =>
      rw [Option.some.injEq, List.nil_append]
  | case2 p start =>
      rw [List.cons_append]
      exact iff_of_false (Option.some_ne_none rest).symm (List.cons_ne_nil p _).symm
  | case3 p start text ih =>
      rw [ih, List.cons_append, List.cons.injEq]
      exact (and_iff_right rfl).symm
  | case4 p start c text hne =>
      refine iff_of_false (Option.some_ne_none rest).symm ?_
      rw [List.cons_append]
      exact fun h => hne (List.cons.inj h).1.symm

/-- A beginning that has been written is recognized. -/
theorem after?_append (start rest : List Char) : after? start (start ++ rest) = some rest :=
  after?_eq_some_iff.mpr rfl

/-- A text does not begin with the mark. -/
theorem after?_eq_none_iff : after? start text = none ↔ ¬ start <+: text := by
  rw [Option.eq_none_iff_forall_ne_some]
  constructor
  · rintro h ⟨rest, rfl⟩
    exact h rest (after?_append start rest)
  · intro h rest hrest
    exact h ⟨rest, (after?_eq_some_iff.mp hrest).symm⟩

/-- What passes a test ends at the first character that does not. -/
theorem takeWhile_append_cons {passes : Char → Bool} {stop : Char}
    (h : ∀ c ∈ text, passes c = true) (hstop : passes stop = false) (rest : List Char) :
    (text ++ stop :: rest).takeWhile passes = text := by
  rw [List.takeWhile_append_of_pos h, List.takeWhile_cons, hstop]
  exact List.append_nil text

/-- What is left of a text starts with the first character that does not pass a test. -/
theorem dropWhile_append_cons {passes : Char → Bool} {stop : Char}
    (h : ∀ c ∈ text, passes c = true) (hstop : passes stop = false) (rest : List Char) :
    (text ++ stop :: rest).dropWhile passes = stop :: rest := by
  rw [List.dropWhile_append_of_pos h, List.dropWhile_cons, hstop]
  rfl

/-- A text that does not hold a character ends where the character first stands. -/
theorem takeWhile_append_stop {stop : Char} (h : stop ∉ text) (rest : List Char) :
    (text ++ stop :: rest).takeWhile (· != stop) = text := by
  have hpass : ∀ c ∈ text, (c != stop) = true := by
    intro c hc
    rw [bne_iff_ne]
    rintro rfl
    exact h hc
  exact @takeWhile_append_cons text (· != stop) stop hpass (bne_self_eq_false stop) rest

/-- A beginning that does not hold a character ends before that character. -/
theorem exists_of_append_cons_eq {stop : Char} (h : stop ∉ left)
    (heq : text ++ stop :: rest = left ++ right) :
    ∃ inside, text = left ++ inside ∧ right = inside ++ stop :: rest := by
  rcases List.append_eq_append_iff.mp heq with ⟨inside, hleft, hright⟩ | ⟨inside, htext, hright⟩
  · cases inside with
    | nil =>
        rw [List.append_nil] at hleft
        exact ⟨[], by rw [List.append_nil, hleft], hright.symm⟩
    | cons c inside =>
        obtain rfl : stop = c := (List.cons.inj hright).1
        exact absurd (hleft ▸ List.mem_append_right text List.mem_cons_self) h
  · exact ⟨inside, htext, hright⟩

/-- A mark does not lie in a text that does not hold its first character, nor partly so. -/
theorem infix_append_iff {c : Char} {tail : List Char} (h : c ∉ left) :
    c :: tail <:+: left ++ right ↔ c :: tail <:+: right := by
  induction left with
  | nil => rw [List.nil_append]
  | cons d left ih =>
      rw [List.cons_append, List.infix_cons_iff, ih (fun hmem => h (List.mem_cons_of_mem d hmem))]
      refine or_iff_right (fun hprefix => h ?_)
      rw [(List.cons_prefix_cons.mp hprefix).1]
      exact List.mem_cons_self

/-! ## Marks that do not overlap themselves -/

/-- A mark that cannot overlap itself: none of its proper ends is a beginning of it. -/
structure Unbordered (mark : List Char) : Prop where
  ne_nil : mark ≠ []
  not_prefix : ∀ n < mark.length, 0 < n → ¬ mark.drop n <+: mark

/-- A mark cannot overlap itself if its first character does not come again. -/
theorem unbordered_cons {c : Char} {tail : List Char} (h : c ∉ tail) : Unbordered (c :: tail) where
  ne_nil := List.cons_ne_nil c tail
  not_prefix := by
    intro n hn hpositive hprefix
    obtain ⟨n, rfl⟩ := Nat.exists_eq_succ_of_ne_zero (Nat.ne_of_gt hpositive)
    rw [List.drop_succ_cons] at hprefix
    rw [List.length_cons] at hn
    have hne : tail.drop n ≠ [] := by
      rw [Ne, List.drop_eq_nil_iff]
      omega
    obtain ⟨d, rest, hdrop⟩ := List.exists_cons_of_ne_nil hne
    rw [hdrop] at hprefix
    have hmem : d ∈ tail.drop n := hdrop ▸ List.mem_cons_self
    rw [(List.cons_prefix_cons.mp hprefix).1] at hmem
    exact h (List.mem_of_mem_drop hmem)

/-- A mark that a text does not begin with cannot begin there once a mark is written behind
    the text. -/
theorem Unbordered.not_prefix_append (hmark : Unbordered mark) {c : Char}
    (h : ¬ mark <+: c :: left) (right : List Char) :
    ¬ mark <+: c :: left ++ (mark ++ right) := by
  rintro ⟨tail, htail⟩
  rcases List.append_eq_append_iff.mp htail with ⟨inside, hinside, -⟩ | ⟨second, hsplit, hrest⟩
  · exact h ⟨inside, hinside.symm⟩
  · have hlength : mark.length = left.length + 1 + second.length := by
      rw [hsplit, List.length_append, List.length_cons]
    have hsecond : second ≠ [] := by
      rintro rfl
      exact h ⟨[], by rw [List.append_nil, hsplit, List.append_nil]⟩
    have hpositive : 0 < second.length := List.length_pos_iff.mpr hsecond
    have hdrop : mark.drop (left.length + 1) = second := by
      rw [hsplit]
      exact List.drop_left' rfl
    refine hmark.not_prefix (left.length + 1) (by omega) (by omega) ?_
    rw [hdrop]
    refine List.prefix_of_prefix_length_le ⟨tail, hrest.symm⟩ (List.prefix_append mark right) ?_
    omega

/-- A text that does not hold the mark is passed over as far as the next one. -/
theorem Unbordered.after?_eq_none (hmark : Unbordered mark) {c : Char}
    (h : ¬ mark <:+: c :: left) (right : List Char) :
    after? mark (c :: left ++ (mark ++ right)) = none :=
  after?_eq_none_iff.mpr (hmark.not_prefix_append (fun hprefix => h hprefix.isInfix) right)

/-- A mark is found where it was written if none begins before it. -/
theorem splitOnce_append_of_not_prefix (hne : mark ≠ [])
    (h : ∀ c back, c :: back <:+ left → ¬ mark <+: c :: back ++ (mark ++ right)) :
    splitOnce mark (left ++ (mark ++ right)) = some (left, right) := by
  induction left with
  | nil =>
      obtain ⟨c, rest, rfl⟩ := List.exists_cons_of_ne_nil hne
      rw [List.nil_append, List.cons_append, splitOnce, ← List.cons_append, after?_append]
  | cons c left ih =>
      have hnone : after? mark (c :: left ++ (mark ++ right)) = none :=
        after?_eq_none_iff.mpr (h c left (List.suffix_refl _))
      have hrest : splitOnce mark (left ++ (mark ++ right)) = some (left, right) :=
        ih fun d back hback => h d back (hback.trans (List.suffix_cons c left))
      rw [List.cons_append] at hnone ⊢
      rw [splitOnce, hnone, hrest]
      rfl

/-- The first mark of a text is found where it was written. -/
theorem Unbordered.splitOnce_append (hmark : Unbordered mark) (h : ¬ mark <:+: left)
    (right : List Char) :
    splitOnce mark (left ++ (mark ++ right)) = some (left, right) := by
  refine splitOnce_append_of_not_prefix hmark.ne_nil ?_
  intro c back hback
  refine hmark.not_prefix_append ?_ right
  intro hprefix
  refine h ?_
  exact hprefix.isInfix.trans hback.isInfix

/-- A mark is found where it was written if none is complete before its last character. -/
theorem splitOnce_append_of_dropLast (hne : mark ≠ []) (h : ¬ mark <:+: left ++ mark.dropLast)
    (right : List Char) : splitOnce mark (left ++ (mark ++ right)) = some (left, right) := by
  refine splitOnce_append_of_not_prefix hne ?_
  rintro c back ⟨front, rfl⟩ hprefix
  -- a mark that begins here would be complete before the last character of the written one
  have hwhole : c :: back ++ mark.dropLast <+: c :: back ++ (mark ++ right) := by
    rw [List.prefix_append_right_inj]
    exact (List.dropLast_prefix mark).trans (List.prefix_append mark right)
  have hinside : mark <+: c :: back ++ mark.dropLast := by
    refine List.prefix_of_prefix_length_le hprefix hwhole ?_
    simp only [List.length_append, List.length_cons, List.length_dropLast]
    omega
  have hsuffix : c :: back ++ mark.dropLast <:+ front ++ c :: back ++ mark.dropLast :=
    ⟨front, (List.append_assoc ..).symm⟩
  refine h ?_
  exact hinside.isInfix.trans hsuffix.isInfix

/-- What is found is the mark, and there is none before it. -/
theorem of_splitOnce_eq_some (hne : mark ≠ []) (h : splitOnce mark text = some (left, right)) :
    text = left ++ (mark ++ right) ∧ ¬ mark <:+: left := by
  induction text generalizing left with
  | nil =>
      rw [splitOnce, if_neg (fun hempty => hne (List.isEmpty_iff.mp hempty))] at h
      exact nomatch h
  | cons c rest ih =>
      rw [splitOnce] at h
      split at h
      · rename_i tail htail
        cases h
        refine ⟨?_, fun hinfix => hne (List.infix_nil.mp hinfix)⟩
        rw [List.nil_append]
        exact after?_eq_some_iff.mp htail
      · rename_i hnone
        obtain ⟨⟨left', right'⟩, hfound, heq⟩ := Option.map_eq_some_iff.mp h
        cases heq
        obtain ⟨hrest, hbefore⟩ := ih hfound
        refine ⟨by rw [hrest, List.cons_append], ?_⟩
        intro hinfix
        rcases List.infix_cons_iff.mp hinfix with hprefix | hinside
        · refine after?_eq_none_iff.mp hnone ?_
          rw [hrest, ← List.cons_append]
          exact hprefix.trans (List.prefix_append _ _)
        · exact hbefore hinside

/-- The first mark of a text is at one place. -/
theorem Unbordered.append_inj (hmark : Unbordered mark) {left' right' : List Char}
    (h : ¬ mark <:+: left) (h' : ¬ mark <:+: left')
    (heq : left ++ (mark ++ right) = left' ++ (mark ++ right')) :
    left = left' ∧ right = right' := by
  have hfound := hmark.splitOnce_append h right
  rw [heq, hmark.splitOnce_append h' right', Option.some.injEq, Prod.mk.injEq] at hfound
  exact ⟨hfound.1.symm, hfound.2.symm⟩

/-- A mark that is found stays the first one if the text goes on. -/
theorem splitOnce_append_right (hne : mark ≠ []) (h : splitOnce mark text = some (left, right))
    (rest : List Char) : splitOnce mark (text ++ rest) = some (left, right ++ rest) := by
  induction text generalizing left with
  | nil =>
      rw [splitOnce, if_neg (fun hempty => hne (List.isEmpty_iff.mp hempty))] at h
      exact nomatch h
  | cons c text ih =>
      have hwhole := (of_splitOnce_eq_some hne h).1
      rw [splitOnce] at h
      rw [List.cons_append, splitOnce]
      split at h
      · cases h
        rw [← List.cons_append, hwhole, List.nil_append, List.append_assoc, after?_append]
      · rename_i hnone
        obtain ⟨⟨left', right'⟩, hfound, heq⟩ := Option.map_eq_some_iff.mp h
        cases heq
        -- a mark that begins here would be no longer than the text, which holds one
        have hlonger : after? mark (c :: (text ++ rest)) = none := by
          rw [after?_eq_none_iff] at hnone ⊢
          intro hprefix
          refine hnone (List.prefix_of_prefix_length_le hprefix (List.prefix_append _ rest) ?_)
          rw [hwhole, List.length_append, List.length_append]
          omega
        rw [hlonger, ih hfound]
        rfl

/-- Nothing is found in a text that does not hold the mark. -/
theorem splitOnce_eq_none_iff (hne : mark ≠ []) :
    splitOnce mark text = none ↔ ¬ mark <:+: text := by
  induction text with
  | nil =>
      rw [splitOnce, if_neg (fun hempty => hne (List.isEmpty_iff.mp hempty)), List.infix_nil]
      exact iff_of_true rfl hne
  | cons c rest ih =>
      rw [splitOnce, List.infix_cons_iff, not_or, ← after?_eq_none_iff, ← ih]
      cases after? mark (c :: rest) with
      | none => exact Option.map_eq_none_iff.trans (and_iff_right rfl).symm
      | some tail => exact iff_of_false nofun (fun h => nomatch h.1)

end CatalogLint.Text
