import CatalogLint.Proofs.Text.Sweep
import Mathlib.Data.String.Basic

/-! # Places in a text

    A place in a text is a number of bytes, and the line of a place is given by the line
    feeds before it.  So a place keeps its line if what stands before it is exchanged for a
    text with as many line feeds (`lineOf_append`).

    A sweep does not look at places: it counts the line feeds that it passes.  `matchesOf`
    lists its matches with the texts on both sides of them, and the lines of a sweep are those
    of the places of its matches (`sweep_eq_map_lineOf`).  A match is among them if no other
    one reaches over its start (`mem_matchesOf`). -/

namespace CatalogLint.Text

open String (utf8Len utf8Len_cons)

variable {α : Type} {scan : Scanner α} {before text rest : List Char}

/-! ## Bytes and lines -/

/-- The line feeds before a place are those at its head and those of the rest. -/
theorem feedsBefore_cons {offset : Nat} (h : 0 < offset) (c : Char) (text : List Char) :
    lineOf.feedsBefore offset (c :: text)
      = lineFeeds [c] + lineOf.feedsBefore (offset - c.utf8Size) text := by
  obtain ⟨offset, rfl⟩ := Nat.exists_eq_succ_of_ne_zero (Nat.ne_of_gt h)
  rfl

/-- Before a place behind a text are the line feeds of the text. -/
theorem feedsBefore_append (before text : List Char) (offset : Nat) :
    lineOf.feedsBefore (utf8Len before + offset) (before ++ text)
      = lineFeeds before + lineOf.feedsBefore offset text := by
  induction before with
  | nil =>
      rw [String.utf8Len_nil, show lineFeeds [] = 0 from rfl, Nat.zero_add, Nat.zero_add,
        List.nil_append]
  | cons c before ih =>
      have hsize : 0 < c.utf8Size := Char.utf8Size_pos c
      rw [utf8Len_cons, List.cons_append, feedsBefore_cons (by omega),
        show utf8Len before + c.utf8Size + offset - c.utf8Size = utf8Len before + offset by
          omega, ih, lineFeeds_cons c before, Nat.add_assoc]

/-- **Behind a text a place is as many lines further down as the text has line feeds.** -/
theorem lineOf_append (before text : List Char) (offset : Nat) :
    lineOf (before ++ text) (utf8Len before + offset)
      = lineFeeds before + lineOf text offset := by
  rw [lineOf, lineOf, feedsBefore_append, Nat.add_assoc]

/-- The line of the end of a text is told by its line feeds. -/
theorem lineOf_utf8Len (before text : List Char) :
    lineOf (before ++ text) (utf8Len before) = lineFeeds before + 1 := by
  have hline := lineOf_append before text 0
  rw [Nat.add_zero] at hline
  rw [hline]
  cases text <;> rfl

/-- What follows a text does not move the places in it. -/
theorem lineOf_append_of_le {offset : Nat} (h : offset ≤ utf8Len text) (rest : List Char) :
    lineOf (text ++ rest) offset = lineOf text offset := by
  suffices hfeeds : lineOf.feedsBefore offset (text ++ rest) = lineOf.feedsBefore offset text by
    rw [lineOf, lineOf, hfeeds]
  induction text generalizing offset with
  | nil =>
      obtain rfl : offset = 0 := Nat.le_zero.mp h
      cases rest <;> rfl
  | cons c text ih =>
      rcases Nat.eq_zero_or_pos offset with rfl | hpositive
      · rfl
      · rw [utf8Len_cons] at h
        rw [List.cons_append, feedsBefore_cons hpositive, feedsBefore_cons hpositive,
          ih (by omega)]

/-! ## The matches of a sweep -/

/-- A match of a scanner in a text. -/
structure Match (α : Type) where
  /-- The text before the match. -/
  before : List Char
  hit : Hit α
  /-- The text from the start of the match on. -/
  rest : List Char

namespace Match

/-- The text that is matched. -/
def matched (found : Match α) : List Char :=
  found.rest.take (found.hit.more + 1)

/-- The text before the place that is reported for a match. -/
def ahead (found : Match α) : List Char :=
  found.before ++ found.rest.take found.hit.offset

/-- The place that is reported for a match. -/
def place (found : Match α) : Nat :=
  utf8Len found.ahead

end Match

/-- The matches of a scanner behind a text, once the given number of characters has been
    passed over. -/
def matchesFrom (scan : Scanner α) (before : List Char) (passing : Nat) :
    List Char → List (Match α)
  | [] => []
  | c :: rest =>
      match passing with
      | passing + 1 => matchesFrom scan (before ++ [c]) passing rest
      | 0 =>
          match scan before.getLast? (c :: rest) with
          | none => matchesFrom scan (before ++ [c]) 0 rest
          | some hit => ⟨before, hit, c :: rest⟩ :: matchesFrom scan (before ++ [c]) hit.more rest

/-- The matches of a scanner in a whole text. -/
def matchesOf (scan : Scanner α) (text : List Char) : List (Match α) :=
  matchesFrom scan [] 0 text

/-- No match begins where the scanner finds nothing. -/
theorem matchesFrom_of_eq_none {c : Char} (h : scan before.getLast? (c :: rest) = none) :
    matchesFrom scan before 0 (c :: rest) = matchesFrom scan (before ++ [c]) 0 rest := by
  rw [matchesFrom, h]

/-- The characters that are passed over are behind the sweep. -/
theorem matchesFrom_pass (scan : Scanner α) (before stretch rest : List Char) :
    matchesFrom scan before stretch.length (stretch ++ rest)
      = matchesFrom scan (before ++ stretch) 0 rest := by
  induction stretch generalizing before with
  | nil => rw [List.append_nil]; rfl
  | cons c stretch ih =>
      show matchesFrom scan (before ++ [c]) stretch.length (stretch ++ rest) = _
      rw [ih, List.append_assoc, List.singleton_append]

/-- A match begins where the scanner finds something, and the sweep goes on behind it. -/
theorem matchesFrom_of_eq_some {c : Char} {more : List Char} {hit : Hit α}
    (h : scan before.getLast? (c :: (more ++ rest)) = some hit) (hmore : hit.more = more.length) :
    matchesFrom scan before 0 (c :: (more ++ rest))
      = ⟨before, hit, c :: (more ++ rest)⟩ :: matchesFrom scan (before ++ c :: more) 0 rest := by
  rw [matchesFrom, h]
  show _ :: matchesFrom scan (before ++ [c]) hit.more (more ++ rest) = _
  rw [hmore, matchesFrom_pass, List.append_assoc, List.singleton_append]

/-- A text that is matched as a whole is the only match in it. -/
theorem matchesOf_whole {hit : Hit α} (h : scan none text = some hit)
    (hlength : text.length = hit.more + 1) : matchesOf scan text = [⟨[], hit, text⟩] := by
  obtain ⟨c, more, rfl⟩ := List.exists_cons_of_length_eq_add_one hlength
  have hmore : hit.more = more.length := (Nat.succ_injective hlength).symm
  have hscan : scan ([] : List Char).getLast? (c :: (more ++ [])) = some hit := by
    rwa [List.append_nil]
  have hmatch := matchesFrom_of_eq_some hscan hmore
  rwa [List.append_nil] at hmatch

/-- No match begins in a stretch of text where the scanner finds nothing. -/
theorem matchesFrom_stretch {stretch : List Char}
    (h : ∀ front c back, stretch = front ++ c :: back →
      scan (before ++ front).getLast? (c :: (back ++ rest)) = none) :
    matchesFrom scan before 0 (stretch ++ rest)
      = matchesFrom scan (before ++ stretch) 0 rest := by
  induction stretch generalizing before with
  | nil => rw [List.append_nil, List.nil_append]
  | cons c stretch ih =>
      have hhead := h [] c stretch rfl
      rw [List.append_nil] at hhead
      rw [List.cons_append, matchesFrom_of_eq_none hhead, ih, List.append_assoc,
        List.singleton_append]
      rintro front d back rfl
      rw [List.append_assoc, List.singleton_append]
      exact h (c :: front) d back rfl

/-- A scanner whose matches all begin with one character. -/
def BeginsWith (scan : Scanner α) (c : Char) : Prop :=
  ∀ previous d rest, d ≠ c → scan previous (d :: rest) = none

/-- A stretch of text without the character is passed over. -/
theorem BeginsWith.matchesFrom_append {c : Char} (h : BeginsWith scan c) {stretch : List Char}
    (hstretch : c ∉ stretch) (before rest : List Char) :
    matchesFrom scan before 0 (stretch ++ rest) = matchesFrom scan (before ++ stretch) 0 rest := by
  refine matchesFrom_stretch ?_
  rintro front d back rfl
  refine h _ d _ ?_
  rintro rfl
  exact hstretch (List.mem_append_right front List.mem_cons_self)

/-- A match behind a text without the character is found. -/
theorem BeginsWith.mem_matchesOf {c : Char} (h : BeginsWith scan c) (hbefore : c ∉ before)
    {hit : Hit α} (hscan : scan before.getLast? rest = some hit) (hrest : rest ≠ []) :
    ⟨before, hit, rest⟩ ∈ matchesOf scan (before ++ rest) := by
  obtain ⟨d, more, rfl⟩ := List.exists_cons_of_ne_nil hrest
  rw [matchesOf, h.matchesFrom_append hbefore, List.nil_append, matchesFrom, hscan]
  exact List.mem_cons_self

/-- There are no more matches than places where one may begin. -/
theorem BeginsWith.length_matchesFrom_le {c : Char} (h : BeginsWith scan c) (before : List Char)
    (passing : Nat) (text : List Char) :
    (matchesFrom scan before passing text).length ≤ text.count c := by
  induction text generalizing before passing with
  | nil => exact Nat.zero_le _
  | cons d rest ih =>
      have hlater : ∀ passing,
          (matchesFrom scan (before ++ [d]) passing rest).length ≤ (d :: rest).count c :=
        fun passing => (ih (before ++ [d]) passing).trans List.count_le_count_cons
      cases passing with
      | succ passing => exact hlater passing
      | zero =>
          rw [matchesFrom]
          split
          · exact hlater 0
          · rename_i hit hhit
            have hd : d = c := by
              by_contra hne
              exact nomatch hhit.symm.trans (h _ d rest hne)
            rw [hd, List.count_cons_self]
            exact Nat.succ_le_succ (ih (before ++ [c]) hit.more)

/-- A match lies in the text, and it is what the scanner finds there. -/
theorem of_mem_matchesFrom {passing : Nat} {found : Match α}
    (h : found ∈ matchesFrom scan before passing text) :
    before ++ text = found.before ++ found.rest
      ∧ scan found.before.getLast? found.rest = some found.hit := by
  induction text generalizing before passing with
  | nil => exact nomatch h
  | cons c rest ih =>
      have hlater : ∀ {passing : Nat}, found ∈ matchesFrom scan (before ++ [c]) passing rest →
          before ++ c :: rest = found.before ++ found.rest
            ∧ scan found.before.getLast? found.rest = some found.hit := by
        intro passing hmem
        have hrest := ih hmem
        rwa [List.append_assoc, List.singleton_append] at hrest
      cases passing with
      | succ passing => exact hlater h
      | zero =>
          rw [matchesFrom] at h
          split at h
          · exact hlater h
          · rename_i hit hhit
            rcases List.mem_cons.mp h with rfl | hmem
            · exact ⟨rfl, hhit⟩
            · exact hlater hmem

/-- A match lies in the text, and it is what the scanner finds there. -/
theorem of_mem_matchesOf {found : Match α} (h : found ∈ matchesOf scan text) :
    text = found.before ++ found.rest
      ∧ scan found.before.getLast? found.rest = some found.hit :=
  of_mem_matchesFrom h

/-- The place of a match lies on the line that its line feeds tell. -/
theorem lineOf_place {found : Match α} (h : text = found.before ++ found.rest) :
    lineOf text found.place = lineFeeds found.ahead + 1 := by
  have htext : text = found.ahead ++ found.rest.drop found.hit.offset := by
    rw [h, Match.ahead, List.append_assoc, List.take_append_drop]
  rw [htext, Match.place, lineOf_utf8Len]

/-- A sweep behind a text finds its matches, on the lines that their line feeds tell. -/
theorem sweepFrom_eq_map (scan : Scanner α) (before : List Char) (passing : Nat)
    (text : List Char) :
    sweepFrom scan before.getLast? passing (lineFeeds before + 1) text
      = (matchesFrom scan before passing text).map fun found =>
          ⟨found.hit.value, lineFeeds found.ahead + 1⟩ := by
  induction text generalizing before passing with
  | nil => rfl
  | cons c rest ih =>
      have hnext : lineFeeds before + 1 + lineFeeds [c] = lineFeeds (before ++ [c]) + 1 := by
        rw [lineFeeds_append]
        omega
      have hlast : some c = (before ++ [c]).getLast? := (List.getLast?_concat ..).symm
      cases passing with
      | succ passing =>
          rw [sweepFrom, matchesFrom]
          show sweepFrom scan (some c) passing (lineFeeds before + 1 + lineFeeds [c]) rest = _
          rw [hnext, hlast, ih]
      | zero =>
          rw [sweepFrom, matchesFrom]
          cases hscan : scan before.getLast? (c :: rest) with
          | none =>
              show sweepFrom scan (some c) 0 (lineFeeds before + 1 + lineFeeds [c]) rest = _
              rw [hnext, hlast, ih]
          | some hit =>
              have hline : lineFeeds before + 1 + lineFeeds ((c :: rest).take hit.offset)
                  = lineFeeds (before ++ (c :: rest).take hit.offset) + 1 := by
                rw [lineFeeds_append]
                omega
              show (⟨hit.value, lineFeeds before + 1 + lineFeeds ((c :: rest).take hit.offset)⟩
                  : Located α) :: sweepFrom scan (some c) hit.more
                    (lineFeeds before + 1 + lineFeeds [c]) rest = _
              rw [hline, hnext, hlast, ih]
              rfl

/-- **A sweep reports its matches on the lines of their places.** -/
theorem sweep_eq_map_lineOf (scan : Scanner α) (text : List Char) :
    sweep scan text
      = (matchesOf scan text).map fun found => ⟨found.hit.value, lineOf text found.place⟩ := by
  refine (sweepFrom_eq_map scan [] 0 text).trans (List.map_congr_left ?_)
  intro found hfound
  rw [lineOf_place (of_mem_matchesOf hfound).1]

/-- A sweep finds no more than there are places where a match may begin. -/
theorem BeginsWith.length_sweep_le {c : Char} (h : BeginsWith scan c) (text : List Char) :
    (sweep scan text).length ≤ text.count c := by
  rw [sweep_eq_map_lineOf, List.length_map]
  exact h.length_matchesFrom_le [] 0 text

/-- What a sweep finds is what the scanner finds somewhere in the text. -/
theorem exists_hit_of_mem_sweep {found : Located α} (h : found ∈ sweep scan text) :
    ∃ previous rest hit, scan previous rest = some hit ∧ found.value = hit.value := by
  rw [sweep_eq_map_lineOf] at h
  obtain ⟨source, hsource, rfl⟩ := List.mem_map.mp h
  exact ⟨_, _, source.hit, (of_mem_matchesOf hsource).2, rfl⟩

/-- A match is found if it begins behind the characters that are passed over, and no match
    that begins before it reaches over its start. -/
theorem mem_matchesFrom {front : List Char} {passing : Nat} {hit : Hit α}
    (hscan : scan (before ++ front).getLast? rest = some hit) (hrest : rest ≠ [])
    (hpassing : passing ≤ front.length)
    (hfree : ∀ first second other, front = first ++ second → second ≠ [] →
      scan (before ++ first).getLast? (second ++ rest) = some other →
        other.more < second.length) :
    (⟨before ++ front, hit, rest⟩ : Match α) ∈ matchesFrom scan before passing (front ++ rest) := by
  induction front generalizing before passing with
  | nil =>
      obtain ⟨c, rest, rfl⟩ := List.exists_cons_of_ne_nil hrest
      obtain rfl : passing = 0 := Nat.le_zero.mp hpassing
      rw [List.append_nil] at hscan ⊢
      rw [List.nil_append, matchesFrom, hscan]
      exact List.mem_cons_self
  | cons c front ih =>
      have hlater : ∀ {passing : Nat}, passing ≤ front.length →
          (⟨before ++ c :: front, hit, rest⟩ : Match α)
            ∈ matchesFrom scan (before ++ [c]) passing (front ++ rest) := by
        intro passing hle
        have hassoc : before ++ c :: front = before ++ [c] ++ front := by
          rw [List.append_assoc, List.singleton_append]
        rw [hassoc] at hscan ⊢
        refine ih hscan hle ?_
        rintro first second other rfl hne hother
        rw [List.append_assoc, List.singleton_append] at hother
        exact hfree (c :: first) second other rfl hne hother
      cases passing with
      | succ passing => exact hlater (Nat.le_of_succ_le_succ hpassing)
      | zero =>
          rw [List.cons_append, matchesFrom]
          cases hhead : scan before.getLast? (c :: (front ++ rest)) with
          | none => exact hlater (Nat.zero_le _)
          | some other =>
              have hmore : other.more < (c :: front).length := by
                refine hfree [] (c :: front) other rfl (List.cons_ne_nil c front) ?_
                rw [List.append_nil]
                exact hhead
              exact List.mem_cons_of_mem _ (hlater (Nat.le_of_lt_succ hmore))

/-- **A match is found if no match that begins before it reaches over its start.** -/
theorem mem_matchesOf {hit : Hit α} (hscan : scan before.getLast? rest = some hit)
    (hrest : rest ≠ [])
    (hfree : ∀ first second other, before = first ++ second → second ≠ [] →
      scan first.getLast? (second ++ rest) = some other → other.more < second.length) :
    (⟨before, hit, rest⟩ : Match α) ∈ matchesOf scan (before ++ rest) :=
  @mem_matchesFrom α scan [] rest before 0 hit hscan hrest (Nat.zero_le _) hfree

end CatalogLint.Text
