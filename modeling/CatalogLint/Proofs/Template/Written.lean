import CatalogLint.Proofs.Template.Scanners
import Mathlib.Data.List.DropRight

/-! # Templates written from references

    A template is written piece by piece: plain text, directives, filters with a quoted key,
    and filters with an operand that is not quoted.  Each sweep finds what its scanner finds at
    the pieces of one kind, in their order (`ReadsPieces.sweep_written`), for no match reaches
    over the end of a piece:

    * a directive is found at a quote, and the quotes of a template are those of its
      directives, behind their openings (`readsPieces_scanDirective`); the value of each one
      ends before a bar could come, so none of them is mixed (`readsPieces_scanMixed`);
    * a quoted key is found at its first quote (`readsPieces_scanFilter`), and an operand at the
      braces before it (`readsPieces_scanOperand`).

    So the references of a template and the mistakes in it are the ones that were written
    (`written_references_are_mined`). -/

namespace CatalogLint.Template

open Text Unicode
open String (utf8Len)

/-! ## Pieces -/

/-- A character that begins or ends a piece of a template, or a part of one. -/
def isMark (c : Char) : Bool :=
  c == '\'' || c == '"' || c == '<' || c == '|' || c == '\x7b' || c == '\x7d'

/-- A text without marks. -/
structure Plain where
  chars : List Char
  isMark_chars : ∀ c ∈ chars, isMark c = false

/-- A key, which holds neither marks nor white space. -/
structure Key extends Plain where
  ne_nil : chars ≠ []
  isBlank_chars : ∀ c ∈ chars, isBlank c = false

/-- The operand of a filter that is not quoted: not only white space. -/
structure Operand extends Plain where
  exists_visible : ∃ c ∈ chars, isBlank c = false

/-- A piece of a template.  White space may stand between the parts of a filter. -/
inductive Piece where
  | plain (text : Plain)
  | directive (element : Plain) (key : Key)
  | quoted (first : Gap) (key : Key) (second third fourth : Gap)
  | bare (operand : Operand) (third fourth : Gap)

/-- A piece as it is written. -/
def Piece.chars : Piece → List Char
  | plain text => text.chars
  | directive element key =>
      '<' :: (element.chars ++ (" translate=\"".toList ++ (key.chars ++ "\">".toList)))
  | quoted first key second third fourth =>
      '\x7b' :: '\x7b' :: (first.chars ++ (quotedChars key.chars second third
        ++ (fourth.chars ++ ['\x7d', '\x7d'])))
  | bare operand third fourth =>
      '\x7b' :: '\x7b' :: (operand.chars ++ (filterChars third
        ++ (fourth.chars ++ ['\x7d', '\x7d'])))

/-- A template as it is written. -/
def written (pieces : List Piece) : List Char :=
  pieces.flatMap Piece.chars

/-- The pieces of a template, each with the text before it. -/
def placed : List Char → List Piece → List (List Char × Piece)
  | _, [] => []
  | before, piece :: pieces => (before, piece) :: placed (before ++ piece.chars) pieces

/-- The key of a directive, with the text before it. -/
def directiveKey? : List Char × Piece → Option (List Char × List Char)
  | (before, .directive element key) =>
      some (before ++ '<' :: (element.chars ++ " translate=\"".toList), key.chars)
  | _ => none

/-- The key of a filter, with the text before it. -/
def quotedKey? : List Char × Piece → Option (List Char × List Char)
  | (before, .quoted first key _ _ _) =>
      some (before ++ '\x7b' :: '\x7b' :: (first.chars ++ ['\'']), key.chars)
  | _ => none

/-- The operand of a filter that is not quoted, with the text before its first character that
    is not white space. -/
def bareOperand? : List Char × Piece → Option (List Char × List Char)
  | (before, .bare operand _ _) =>
      some (before ++ '\x7b' :: '\x7b' :: operand.chars.takeWhile isBlank, operand.chars)
  | _ => none

/-- White space is no mark. -/
theorem isMark_of_isBlank {c : Char} (h : isBlank c = true) : isMark c = false := by
  rw [Bool.eq_false_iff]
  intro hmark
  simp only [isMark, Bool.or_eq_true, beq_iff_eq, or_assoc] at hmark
  rcases hmark with rfl | rfl | rfl | rfl | rfl | rfl <;> exact absurd h (by decide)

/-- A mark does not stand in plain text. -/
theorem Plain.notMem {c : Char} (hc : isMark c = true) (text : Plain) : c ∉ text.chars :=
  notMem_of_forall_eq text.isMark_chars hc

/-- The opening of a directive without white space. -/
def tightOpening : Opening :=
  ⟨⟨[], nofun⟩, ⟨[], nofun⟩⟩

/-- A directive behind its element, as it is written. -/
def attributeChars (key : Key) : List Char :=
  tightOpening.chars ++ (key.chars ++ ['"', '>'])

/-- A directive is written around the white space behind its element. -/
theorem Piece.directive_eq (element : Plain) (key : Key) :
    (directive element key).chars = ('<' :: element.chars) ++ ' ' :: attributeChars key := by
  have hopening : " translate=\"".toList = ' ' :: tightOpening.chars := by decide
  rw [chars, hopening]
  rfl

/-- The key of a directive ends with a quote. -/
theorem attributeChars_append (key : Key) (rest : List Char) :
    attributeChars key ++ rest = tightOpening.chars ++ (key.chars ++ '"' :: '>' :: rest) := by
  simp only [attributeChars, List.append_assoc, List.cons_append, List.nil_append]

/-- A filter is written around its quoted key. -/
theorem Piece.quoted_eq (first : Gap) (key : Key) (second third fourth : Gap) :
    (quoted first key second third fourth).chars
      = ('\x7b' :: '\x7b' :: first.chars) ++ (quotedChars key.chars second third
        ++ (fourth.chars ++ ['\x7d', '\x7d'])) :=
  rfl

/-- Only directives hold double quotes. -/
theorem Piece.doubleQuote_notMem {piece : Piece}
    (h : ∀ element key, piece ≠ directive element key) : '"' ∉ piece.chars := by
  have hplain := @Plain.notMem '"' (by decide)
  have hgap := @Gap.notMem '"' (by decide)
  cases piece with
  | plain text => exact hplain text
  | directive element key => exact absurd rfl (h element key)
  | quoted first key second third fourth =>
      simp [chars, quotedChars, filterChars, translateWord, hplain, hgap]
  | bare operand third fourth => simp [chars, filterChars, translateWord, hplain, hgap]

/-- A key may be put in quotes. -/
theorem Key.isKey {quote : Char} (hquote : isMark quote = true) (key : Key) :
    IsKey quote key.chars := by
  refine ⟨key.ne_nil, fun c hc => ?_⟩
  have hne : c ≠ quote := by
    rintro rfl
    exact key.toPlain.notMem hquote hc
  simp [isKeyChar, hne, key.isBlank_chars c hc]

/-- No attribute may stand behind a character of a directive behind its element. -/
theorem isBoundary_attributeChars (key : Key) : ∀ c ∈ attributeChars key, isBoundary c = false := by
  have hopening : tightOpening.chars.all (!isBoundary ·) = true := by decide
  intro c hc
  simp only [attributeChars, List.mem_append, List.mem_cons, List.not_mem_nil, or_false] at hc
  rcases hc with hstart | hkey | rfl | rfl
  · simpa using List.all_eq_true.mp hopening c hstart
  · have hne : c ≠ '<' := by
      rintro rfl
      exact key.toPlain.notMem (by decide) hkey
    simp [isBoundary, hne, key.isBlank_chars c hkey]
  · decide
  · decide

/-- A template is written from its first piece on. -/
theorem written_cons (piece : Piece) (pieces : List Piece) :
    written (piece :: pieces) = piece.chars ++ written pieces :=
  List.flatMap_cons

/-! ## Reading a template piece by piece -/

section Reading

variable {α : Type} {scan : Scanner α} {found? : List Char × Piece → Option (List Char × α)}
  {before : List Char} {piece : Piece} {pieces : List Piece}

/-- What a match reports: the text before the place, and the value. -/
def report (found : Match α) : List Char × α :=
  (found.ahead, found.hit.value)

/-- A scanner finds at most one value in a piece, and it begins anew behind the piece. -/
def ReadsPiece (scan : Scanner α) (found? : List Char × Piece → Option (List Char × α))
    (before : List Char) (piece : Piece) (pieces : List Piece) : Prop :=
  (matchesFrom scan before 0 (piece.chars ++ written pieces)).map report
    = (found? (before, piece)).toList
      ++ (matchesFrom scan (before ++ piece.chars) 0 (written pieces)).map report

/-- A scanner reads every piece of a template. -/
def ReadsPieces (scan : Scanner α) (found? : List Char × Piece → Option (List Char × α)) : Prop :=
  ∀ before piece pieces, ReadsPiece scan found? before piece pieces

/-- A piece is read if the scanner passes it over, and nothing was to be found. -/
theorem ReadsPiece.of_pass (hfound : found? (before, piece) = none)
    (hpass : matchesFrom scan before 0 (piece.chars ++ written pieces)
      = matchesFrom scan (before ++ piece.chars) 0 (written pieces)) :
    ReadsPiece scan found? before piece pieces := by
  rw [ReadsPiece, hpass, hfound]
  rfl

/-- A piece is read if the scanner finds what was to be found and passes over the rest. -/
theorem ReadsPiece.of_hit {lead matched tail : List Char} {hit : Hit α}
    (hchars : piece.chars = lead ++ (matched ++ tail))
    (hlead : matchesFrom scan before 0 (lead ++ (matched ++ (tail ++ written pieces)))
      = matchesFrom scan (before ++ lead) 0 (matched ++ (tail ++ written pieces)))
    (hscan : scan (before ++ lead).getLast? (matched ++ (tail ++ written pieces)) = some hit)
    (hmatched : matched.length = hit.more + 1)
    (hfound : found? (before, piece)
      = some (before ++ (lead ++ matched.take hit.offset), hit.value))
    (hoffset : hit.offset ≤ matched.length)
    (htail : matchesFrom scan (before ++ (lead ++ matched)) 0 (tail ++ written pieces)
      = matchesFrom scan (before ++ (lead ++ (matched ++ tail))) 0 (written pieces)) :
    ReadsPiece scan found? before piece pieces := by
  obtain ⟨c, more, rfl⟩ := List.exists_cons_of_length_eq_add_one hmatched
  have hmore : hit.more = more.length := (Nat.succ_injective hmatched).symm
  rw [List.cons_append] at hscan hlead
  rw [ReadsPiece, hchars, List.append_assoc, List.append_assoc, List.cons_append, hlead,
    matchesFrom_of_eq_some hscan hmore, hfound, List.append_assoc, htail, List.map_cons, report,
    Match.ahead, ← List.cons_append, List.take_append_of_le_length hoffset, List.append_assoc]
  rfl

/-- A sweep behind a text finds what its scanner finds in the pieces, in their order. -/
theorem ReadsPieces.map_report_matchesFrom (h : ReadsPieces scan found?) (before : List Char)
    (pieces : List Piece) :
    (matchesFrom scan before 0 (written pieces)).map report
      = (placed before pieces).filterMap found? := by
  induction pieces generalizing before with
  | nil => rfl
  | cons piece pieces ih =>
      rw [written_cons, h, ih, placed, List.filterMap_cons]
      cases found? (before, piece) <;> rfl

/-- **A sweep finds what its scanner finds in the pieces of a template**, in their order, on
    the lines of the places where they were written. -/
theorem ReadsPieces.sweep_written (h : ReadsPieces scan found?) (pieces : List Piece) :
    sweep scan (written pieces)
      = ((placed [] pieces).filterMap found?).map fun found =>
          ⟨found.2, lineOf (written pieces) (utf8Len found.1)⟩ := by
  rw [← h.map_report_matchesFrom, sweep_eq_map_lineOf, List.map_map]
  rfl

end Reading

/-! ## Filters -/

/-- The word of a filter does not go on behind it. -/
theorem startsInWord_gap_append (gap : Gap) (rest : List Char) :
    startsInWord (gap.chars ++ '\x7d' :: rest) = false := by
  obtain ⟨chars, hblank⟩ := gap
  cases chars with
  | nil => exact (by decide : startsInWord ['\x7d'] = false)
  | cons c chars => exact isWord_of_isBlank (hblank c List.mem_cons_self)

/-- The sweep for filters finds the keys that are quoted, at their first characters. -/
theorem readsPieces_scanFilter : ReadsPieces scanFilter quotedKey? := by
  have hplain := @Plain.notMem '\'' (by decide)
  have hgap := @Gap.notMem '\'' (by decide)
  intro before piece pieces
  cases piece with
  | plain text =>
      refine .of_pass rfl (beginsWith_scanFilter.matchesFrom_append ?_ _ _)
      exact hplain text
  | directive element key =>
      refine .of_pass rfl (beginsWith_scanFilter.matchesFrom_append ?_ _ _)
      simp [Piece.chars, hplain]
  | bare operand third fourth =>
      refine .of_pass rfl (beginsWith_scanFilter.matchesFrom_append ?_ _ _)
      simp [Piece.chars, filterChars, translateWord, hplain, hgap]
  | quoted first key second third fourth =>
      have hword : startsInWord (fourth.chars ++ ['\x7d', '\x7d'] ++ written pieces) = false := by
        rw [List.append_assoc]
        exact startsInWord_gap_append fourth _
      have hscan := fun previous => (@scanFilter_eq_some_iff _ previous _).mpr
        ⟨key.chars, second, third, _, key.isKey (by decide), rfl, hword, rfl⟩
      have hlead : '\'' ∉ '\x7b' :: '\x7b' :: first.chars := by simp [hgap]
      refine .of_hit (Piece.quoted_eq first key second third fourth) ?_ (hscan _) ?_ ?_ ?_ ?_
      · exact beginsWith_scanFilter.matchesFrom_append hlead _ _
      · simp [quotedChars]
      · simp [quotedKey?, quotedChars]
      · simp [quotedChars]
      · rw [beginsWith_scanFilter.matchesFrom_append (by simp [hgap])]
        simp only [List.append_assoc]

/-- The run of characters that may be an operand ends at a mark. -/
theorem takeWhile_operand {stop : Char} (hstop : (stop != '\'' && stop != '|' && stop != '\x7b'
    && stop != '\x7d') = false) {run : List Char} (hrun : ∀ c ∈ run, isMark c = false)
    (rest : List Char) :
    (run ++ stop :: rest).takeWhile
      (fun c => c != '\'' && c != '|' && c != '\x7b' && c != '\x7d') = run := by
  refine takeWhile_append_cons ?_ hstop rest
  intro c hc
  have hmark := hrun c hc
  simp only [isMark, Bool.or_eq_false_iff] at hmark
  simp [bne, hmark]

/-- What is found of an operand is all but the white space before it. -/
theorem Operand.operandOf_eq (operand : Operand) :
    operandOf operand.chars = skipBlanks operand.chars := by
  rw [operandOf]
  split
  · rename_i hnil
    exact absurd hnil (skipBlanks_ne_nil operand.exists_visible)
  · rfl

/-- An operand is found where it is written, from its first character on that is not white
    space. -/
theorem scanOperand_bare (previous : Option Char) (operand : Operand) (third fourth : Gap)
    (rest : List Char) :
    scanOperand previous ((Piece.bare operand third fourth).chars ++ rest)
      = some {
          value := skipBlanks operand.chars
          more := (Piece.bare operand third fourth).chars.length - 1
          offset := (operand.chars.takeWhile isBlank).length + 2 } := by
  have hrun : ∀ tail, (operand.chars ++ (filterChars third ++ tail)).takeWhile
      (fun c => c != '\'' && c != '|' && c != '\x7b' && c != '\x7d') = operand.chars :=
    fun tail => takeWhile_operand (by decide) operand.isMark_chars _
  have hclose : ∀ tail, skipBlanks (fourth.chars ++ '\x7d' :: tail) = '\x7d' :: tail :=
    fourth.skipBlanks_append (by decide)
  have hne : operand.chars.isEmpty = false := by
    obtain ⟨c, hc, -⟩ := operand.exists_visible
    exact List.isEmpty_eq_false_iff.mpr (List.ne_nil_of_mem hc)
  have hlength : (operand.chars.takeWhile isBlank).length + (skipBlanks operand.chars).length
      = operand.chars.length := by
    rw [← List.length_append, skipBlanks, List.takeWhile_append_dropWhile]
  simp only [Piece.chars, List.cons_append, List.append_assoc, scanOperand, hrun, hne,
    List.drop_left, afterFilter?_filterChars, hclose, operand.operandOf_eq, Bool.false_eq_true,
    if_false, distance, List.length_append, List.length_cons, List.length_nil, List.nil_append,
    Option.some.injEq, Hit.mk.injEq, true_and]
  omega

/-- No operand begins at the braces before a quoted key. -/
theorem scanOperand_quoted (previous : Option Char) (gap : Gap) (rest : List Char) :
    scanOperand previous ('\x7b' :: '\x7b' :: (gap.chars ++ '\'' :: rest)) = none := by
  have hmarks : ∀ c ∈ gap.chars, isMark c = false :=
    fun c hc => isMark_of_isBlank (gap.isBlank_chars c hc)
  have hrun := @takeWhile_operand '\'' (by decide) _ hmarks rest
  rw [scanOperand, hrun]
  simp only [List.drop_left]
  split
  · rfl
  · rfl

/-- Two braces and a stretch of text without braces are passed over if no operand begins at
    the braces. -/
theorem matchesFrom_scanOperand_braces {before stretch rest : List Char} (hne : stretch ≠ [])
    (hstretch : '\x7b' ∉ stretch)
    (h : scanOperand before.getLast? ('\x7b' :: '\x7b' :: (stretch ++ rest)) = none) :
    matchesFrom scanOperand before 0 ('\x7b' :: '\x7b' :: (stretch ++ rest))
      = matchesFrom scanOperand (before ++ '\x7b' :: '\x7b' :: stretch) 0 rest := by
  have hsecond : ∀ previous, scanOperand previous ('\x7b' :: (stretch ++ rest)) = none := by
    intro previous
    obtain ⟨c, more, rfl⟩ := List.exists_cons_of_ne_nil hne
    unfold scanOperand
    split
    · rename_i heq
      obtain rfl : c = '\x7b' := (List.cons.inj (List.cons.inj heq).2).1
      exact absurd List.mem_cons_self hstretch
    · rfl
  rw [matchesFrom_of_eq_none h, matchesFrom_of_eq_none (hsecond _),
    beginsWith_scanOperand.matchesFrom_append hstretch]
  simp only [List.append_assoc, List.cons_append, List.nil_append]

/-- The sweep for operands that are not quoted finds them, at their first characters that are
    not white space. -/
theorem readsPieces_scanOperand :
    ReadsPieces scanOperand fun piece =>
      (bareOperand? piece).map fun (ahead, operand) => (ahead, skipBlanks operand) := by
  have hplain := @Plain.notMem '\x7b' (by decide)
  have hgap := @Gap.notMem '\x7b' (by decide)
  intro before piece pieces
  cases piece with
  | plain text =>
      refine .of_pass rfl (beginsWith_scanOperand.matchesFrom_append ?_ _ _)
      exact hplain text
  | directive element key =>
      refine .of_pass rfl (beginsWith_scanOperand.matchesFrom_append ?_ _ _)
      simp [Piece.chars, hplain]
  | quoted first key second third fourth =>
      refine .of_pass rfl (matchesFrom_scanOperand_braces ?_ ?_ ?_)
      · simp [quotedChars]
      · simp [quotedChars, filterChars, translateWord, hplain, hgap]
      · rw [List.append_assoc]
        exact scanOperand_quoted _ first _
  | bare operand third fourth =>
      have hscan := scanOperand_bare before.getLast? operand third fourth (written pieces)
      have hahead : '\x7b' :: '\x7b' :: operand.chars.takeWhile isBlank
          <+: (Piece.bare operand third fourth).chars := by
        rw [Piece.chars, List.cons_prefix_cons, List.cons_prefix_cons]
        exact ⟨rfl, rfl, (List.takeWhile_prefix _).trans (List.prefix_append _ _)⟩
      have htake : (Piece.bare operand third fourth).chars.take
          ((operand.chars.takeWhile isBlank).length + 2)
            = '\x7b' :: '\x7b' :: operand.chars.takeWhile isBlank :=
        (List.prefix_iff_eq_take.mp hahead).symm
      refine @ReadsPiece.of_hit _ _ _ _ _ _ [] (Piece.bare operand third fourth).chars []
        { value := skipBlanks operand.chars
          more := (Piece.bare operand third fourth).chars.length - 1
          offset := (operand.chars.takeWhile isBlank).length + 2 } ?_ ?_ ?_ ?_ ?_ ?_ ?_
      · rw [List.append_nil, List.nil_append]
      · rw [List.append_nil, List.nil_append]
      · rw [List.append_nil, List.nil_append]
        exact hscan
      · rw [Piece.chars]
        simp only [List.length_cons, Nat.add_sub_cancel]
      · rw [htake]
        rfl
      · exact hahead.length_le
      · rw [List.append_nil]
        rfl

/-! ## Quotes of directives -/

/-- A text without marks has no first mark. -/
theorem find?_isMark_eq_none {text : List Char} (h : ∀ c ∈ text, isMark c = false) :
    text.find? isMark = none := by
  rw [List.find?_eq_none]
  intro c hc
  rw [Bool.not_eq_true]
  exact h c hc

/-- The first mark of an opening is its quote. -/
theorem Opens.find?_isMark {text : List Char} (h : Opens text) : text.find? isMark = some '"' := by
  obtain ⟨opening, rest, rfl⟩ := h
  have hletters : translateWord.all (!isMark ·) = true := by decide
  have hmarks : ∀ c ∈ opening.unquoted, isMark c = false := by
    intro c hc
    simp only [Opening.unquoted, List.mem_append, List.mem_cons] at hc
    rcases hc with hword | hbefore | rfl | hafter
    · simpa using List.all_eq_true.mp hletters c hword
    · exact isMark_of_isBlank (opening.beforeSign.isBlank_chars c hbefore)
    · decide
    · exact isMark_of_isBlank (opening.afterSign.isBlank_chars c hafter)
  rw [Opening.chars, List.append_assoc, List.find?_append, find?_isMark_eq_none hmarks]
  rfl

/-- The first mark of a template is no double quote. -/
theorem find?_isMark_written (pieces : List Piece) : (written pieces).find? isMark ≠ some '"' := by
  induction pieces with
  | nil => exact Option.some_ne_none '"' |>.symm
  | cons piece pieces ih =>
      rw [written_cons]
      cases piece with
      | plain text =>
          rw [Piece.chars, List.find?_append, find?_isMark_eq_none text.isMark_chars]
          exact ih
      | directive element key => exact (by decide : some '<' ≠ some '"')
      | quoted first key second third fourth => exact (by decide : some '\x7b' ≠ some '"')
      | bare operand third fourth => exact (by decide : some '\x7b' ≠ some '"')

/-- No opening begins in a stretch of a template without double quotes. -/
theorem not_opens_append {stretch back : List Char} (hstretch : '"' ∉ stretch)
    (hback : back <:+ stretch) (pieces : List Piece) : ¬ Opens (back ++ written pieces) := by
  intro hopens
  have hfound := hopens.find?_isMark
  rw [List.find?_append] at hfound
  cases hmark : back.find? isMark with
  | none =>
      rw [hmark] at hfound
      exact find?_isMark_written pieces hfound
  | some c =>
      rw [hmark] at hfound
      obtain rfl : c = '"' := Option.some.inj hfound
      exact hstretch (hback.subset (List.mem_of_find?_eq_some hmark))

/-- No opening begins in the element of a directive. -/
theorem not_opens_element {element back : List Char} (helement : '"' ∉ element)
    (hback : back <:+ element) (rest : List Char) :
    ¬ Opens (back ++ ' ' :: (tightOpening.chars ++ rest)) := by
  rintro ⟨opening, behind, heq⟩
  have hquote : '"' ∉ back ++ [' '] := by
    rw [List.mem_append, not_or]
    exact ⟨fun hmem => helement (hback.subset hmem), by decide⟩
  have hfront : opening.chars ++ behind = (back ++ [' ']) ++ (tightOpening.chars ++ rest) := by
    rw [← heq, List.append_assoc, List.singleton_append]
  exact List.append_ne_nil_of_right_ne_nil back (List.cons_ne_nil ' ' [])
    (Opening.eq_nil_of_append_eq hquote hfront)

/-! ## Directives -/

section Directives

variable {α : Type} {read : List Char → Option (α × List Char)} {offset : List Char → Nat}
  {found? : List Char × Piece → Option (List Char × α)}
  {before : List Char} {piece : Piece} {pieces : List Piece}

/-- The scanners of attributes pass over a piece without double quotes. -/
theorem ReadsPiece.of_doubleQuote_notMem (hread : ReadsOpenings read)
    (hfound : found? (before, piece) = none) (hpiece : '"' ∉ piece.chars) :
    ReadsPiece (scanAttribute read offset) found? before piece pieces := by
  refine .of_pass hfound (matchesFrom_scanAttribute_of_opens hread ?_ before)
  intro back hback
  exact not_opens_append hpiece hback pieces

/-- The scanners of attributes pass over the element of a directive. -/
theorem matchesFrom_scanAttribute_element (hread : ReadsOpenings read) (before : List Char)
    (element : Plain) (rest : List Char) :
    matchesFrom (scanAttribute read offset) before 0
        (('<' :: element.chars) ++ ' ' :: (tightOpening.chars ++ rest))
      = matchesFrom (scanAttribute read offset) (before ++ '<' :: element.chars) 0
        (' ' :: (tightOpening.chars ++ rest)) := by
  have helement : '"' ∉ '<' :: element.chars := by
    rw [List.mem_cons, not_or]
    exact ⟨by decide, element.notMem (by decide)⟩
  refine matchesFrom_scanAttribute_of_opens hread ?_ before
  intro back hback
  exact not_opens_element helement hback rest

end Directives

/-- The key of a directive is found where it is written. -/
theorem scanDirective_attribute (previous : Option Char) (key : Key) (rest : List Char) :
    scanDirective previous (' ' :: (attributeChars key ++ rest))
      = some {
          value := key.chars
          more := (attributeChars key).length - 1
          offset := tightOpening.chars.length + 1 } := by
  have hread : readDirective (tightOpening.chars ++ (key.chars ++ '"' :: '>' :: rest))
      = some (key.chars, '>' :: rest) :=
    readDirective_eq_some_iff.mpr ⟨tightOpening, key.isKey (by decide), rfl⟩
  rw [attributeChars_append, scanDirective,
    scanAttribute_boundary readsOpenings_readDirective (by decide) hread]
  simp only [afterAssignment?_opening, distance, attributeChars, List.length_append,
    List.length_cons, List.length_nil, Option.some.injEq, Hit.mk.injEq, true_and]
  omega

/-- The sweep for directives finds their keys, at their first characters. -/
theorem readsPieces_scanDirective : ReadsPieces scanDirective directiveKey? := by
  intro before piece pieces
  cases piece with
  | plain text =>
      exact .of_doubleQuote_notMem readsOpenings_readDirective rfl
        (Piece.doubleQuote_notMem nofun)
  | quoted first key second third fourth =>
      exact .of_doubleQuote_notMem readsOpenings_readDirective rfl
        (Piece.doubleQuote_notMem nofun)
  | bare operand third fourth =>
      exact .of_doubleQuote_notMem readsOpenings_readDirective rfl
        (Piece.doubleQuote_notMem nofun)
  | directive element key =>
      -- the match ends with the quote behind the key
      let matched := ' ' :: (tightOpening.chars ++ (key.chars ++ ['"']))
      have hmatched : ∀ rest, matched ++ (['>'] ++ rest) = ' ' :: (attributeChars key ++ rest) := by
        intro rest
        simp only [matched, attributeChars, List.cons_append, List.append_assoc, List.nil_append]
      have hchars : (Piece.directive element key).chars
          = ('<' :: element.chars) ++ (matched ++ ['>']) := by
        rw [Piece.directive_eq, ← List.append_nil ['>'], hmatched, List.append_nil]
      have hscan := scanDirective_attribute (before ++ '<' :: element.chars).getLast? key
        (written pieces)
      rw [← hmatched] at hscan
      refine .of_hit hchars ?_ hscan ?_ ?_ ?_ ?_
      · rw [hmatched, attributeChars_append]
        exact matchesFrom_scanAttribute_element readsOpenings_readDirective before element _
      · simp [matched, attributeChars]
      · have htake : matched.take (tightOpening.chars.length + 1) = " translate=\"".toList := by
          rw [List.take_succ_cons, List.take_left]
          decide
        rw [htake]
        rfl
      · simp [matched]
      · refine (matchesFrom_scanAttribute_of_boundary (by simp) ?_).trans ?_
        · intro c hc
          obtain rfl := List.mem_singleton.mp hc
          decide
        · simp only [List.append_assoc]
          rfl

/-- The value of a directive with a key ends before a filter could begin in it. -/
theorem readMixed_directive (key : Key) (rest : List Char) :
    readMixed (tightOpening.chars ++ (key.chars ++ '"' :: rest)) = none := by
  rw [readMixed_opening, Option.map_eq_none_iff, Option.eq_none_iff_forall_ne_some]
  intro tail htail
  obtain ⟨gap, hgap⟩ := afterFilter?_eq_some_iff.mp htail
  generalize hinner : (key.chars ++ '"' :: rest).takeWhile isInner = inner at hgap
  have hquote : '"' ∉ inner := by
    intro hmem
    rw [← hinner] at hmem
    exact absurd (List.mem_takeWhile_imp hmem) (by decide)
  have hsplit : key.chars ++ '"' :: rest = inner ++ (filterChars gap ++ tail) := by
    have hprefix : inner <+: key.chars ++ '"' :: rest := hinner ▸ List.takeWhile_prefix _
    rw [← hgap]
    exact (List.prefix_iff_eq_append.mp hprefix).symm
  obtain ⟨inside, hkey, hbar⟩ := exists_of_append_cons_eq hquote hsplit
  -- the bar would be a character of the key
  cases inside with
  | nil => exact absurd (List.cons.inj hbar).1 (by decide)
  | cons c inside =>
      obtain rfl : '|' = c := (List.cons.inj hbar).1
      have hmem : '|' ∈ key.chars := hkey ▸ List.mem_append_right inner List.mem_cons_self
      exact absurd hmem (key.notMem (by decide))

/-- A directive with a key is not mixed. -/
theorem scanMixed_attribute (previous : Option Char) (key : Key) (rest : List Char) :
    scanMixed previous (' ' :: (attributeChars key ++ rest)) = none := by
  refine scanAttribute_eq_none (fun _ => ?_) (fun _ => ?_)
  · exact readsOpenings_readMixed.eq_none (not_opens_cons (by decide) _)
  · rw [attributeChars_append, readMixed_directive]

/-- The sweep for mixed directives finds none. -/
theorem readsPieces_scanMixed : ReadsPieces scanMixed fun _ => none := by
  intro before piece pieces
  cases piece with
  | plain text =>
      exact .of_doubleQuote_notMem readsOpenings_readMixed rfl (Piece.doubleQuote_notMem nofun)
  | quoted first key second third fourth =>
      exact .of_doubleQuote_notMem readsOpenings_readMixed rfl (Piece.doubleQuote_notMem nofun)
  | bare operand third fourth =>
      exact .of_doubleQuote_notMem readsOpenings_readMixed rfl (Piece.doubleQuote_notMem nofun)
  | directive element key =>
      refine .of_pass rfl ?_
      rw [Piece.directive_eq]
      calc matchesFrom scanMixed before 0
            (('<' :: element.chars) ++ ' ' :: attributeChars key ++ written pieces)
          = matchesFrom scanMixed (before ++ '<' :: element.chars) 0
              (' ' :: (attributeChars key ++ written pieces)) := by
            have hwritten : ('<' :: element.chars) ++ ' ' :: attributeChars key ++ written pieces
                = ('<' :: element.chars) ++ ' ' :: (attributeChars key ++ written pieces) :=
              List.append_assoc ..
            rw [hwritten, attributeChars_append]
            exact matchesFrom_scanAttribute_element readsOpenings_readMixed before element _
        _ = matchesFrom scanMixed (before ++ '<' :: element.chars ++ [' ']) 0
              (attributeChars key ++ written pieces) :=
            matchesFrom_of_eq_none (scanMixed_attribute _ key _)
        _ = matchesFrom scanMixed (before ++ '<' :: element.chars ++ [' '] ++ attributeChars key) 0
              (written pieces) :=
            matchesFrom_scanAttribute_of_boundary (by simp) (isBoundary_attributeChars key)
        _ = matchesFrom scanMixed
              (before ++ (('<' :: element.chars) ++ ' ' :: attributeChars key)) 0
              (written pieces) := by
            simp only [List.append_assoc, List.cons_append, List.nil_append]

/-! ## What is mined from a template -/

/-- The white space before an operand does not matter to the operand that is reported. -/
theorem trim_skipBlanks (operand : List Char) : trim (skipBlanks operand) = trim operand := by
  rw [trim, trim, trimStart, trimStart, skipBlanks, List.dropWhile_idempotent]

/-- The white space before an operand does not make it a call. -/
theorem contains_skipBlanks (operand : List Char) :
    (skipBlanks operand).contains '(' = operand.contains '(' := by
  obtain ⟨gap, hgap⟩ := Gap.exists_append operand
  have hfree : gap.chars.contains '(' = false := by
    rw [List.contains_eq_mem, decide_eq_false_iff_not]
    exact gap.notMem (by decide)
  conv_rhs => rw [hgap, List.contains_append, hfree, Bool.false_or]

/-- **What is mined from a written template is what was written into it.**  The references
    are the keys of the directives in their order, and then the keys of the filters in theirs,
    each on the line of its first character.  Every operand that is not quoted is reported unless
    it is a call, in the order of the operands and on the lines of their first characters that are
    not white space.  Nothing is reported as mixed. -/
theorem written_references_are_mined (name : String) (pieces : List Piece) :
    let content := written pieces
    let line := fun ahead : List Char => lineOf content (utf8Len ahead)
    references content
        = ((placed [] pieces).filterMap directiveKey?
            ++ (placed [] pieces).filterMap quotedKey?).map (fun found =>
          ⟨String.ofList found.2, line found.1⟩)
    ∧ malformedFindings name content
        = (((placed [] pieces).filterMap bareOperand?).filter ('(' ∉ ·.2)).map (fun found =>
          { category := .malformedFilter
            severity := .error
            message := "Malformed declaration with the translate filter in " ++ name
              ++ ". The key must be surrounded with quotes. Key name: "
              ++ String.ofList (trim found.2)
            line := some (line found.1)
            file := some name })
    ∧ mixedFindings name content = [] := by
  intro content line
  refine ⟨?_, ?_, ?_⟩
  · rw [references, readsPieces_scanDirective.sweep_written, readsPieces_scanFilter.sweep_written,
      List.map_append, List.map_map, List.map_map]
    rfl
  · rw [malformedFindings, readsPieces_scanOperand.sweep_written, ← List.map_filterMap,
      List.filter_map, List.filter_map, List.map_map, List.map_map]
    have hcall : ∀ found : List Char × List Char,
        (!(skipBlanks found.2).contains '(') = decide ('(' ∉ found.2) := by
      intro found
      rw [contains_skipBlanks, List.contains_eq_mem, decide_not]
    have hfilter := fun found (_ : found ∈ (placed [] pieces).filterMap bareOperand?) => hcall found
    refine congrArg₂ List.map (funext fun found => ?_) (List.filter_congr hfilter)
    show ((Finding.error _ (_ ++ String.ofList (trim (skipBlanks found.2)))).atLine _).inFile _ = _
    rw [trim_skipBlanks]
    rfl
  · have hnone : (placed [] pieces).filterMap (fun _ => (none : Option (List Char × Unit))) = [] :=
      List.filterMap_eq_nil_iff.mpr fun _ _ => rfl
    rw [mixedFindings, readsPieces_scanMixed.sweep_written, hnone]
    rfl

end CatalogLint.Template
