import CatalogLint.Proofs.Catalog.Keys
import CatalogLint.Proofs.Catalog.Line
import CatalogLint.Proofs.Catalog.Lines

/-! # Written catalogs

    A catalog may be laid out in many ways: pairs may be indented and followed by a comma,
    braces may stand around them on lines of their own, and lines may end in either
    manner.  Whatever the layout, what is read back from a catalog is what was written
    (`written_catalog_reads_back`).

    * `map_dropCarriageReturn_splitOn`: splitting the text gives its lines back;
    * `verdict_content`: the verdict on the line of a pair is the pair;
    * `foldl_afterLine_pieces`: what is known once all lines have been read is what the
      pairs bring. -/

namespace CatalogLint.Catalog

open Unicode

/-! ## Layouts -/

/-- What a line ends with. -/
inductive LineEnd where
  | lf
  | crlf
  deriving DecidableEq, Repr

namespace LineEnd

/-- The characters of a line end. -/
def text : LineEnd → List Char
  | lf => ['\n']
  | crlf => ['\r', '\n']

end LineEnd

/-- A line, and what ends it if another one follows. -/
structure WrittenLine where
  content : List Char
  lineEnd : LineEnd
  deriving DecidableEq, Repr

/-- A key and a value with the layout of their line. -/
structure WrittenPair where
  key : String
  value : String
  /-- The line begins with an indent unit. -/
  indented : Bool
  /-- A comma stands behind the value. -/
  comma : Bool
  lineEnd : LineEnd
  deriving DecidableEq, Repr

namespace WrittenPair

/-- The characters of the line, without its end. -/
def content (indent : List Char) (pair : WrittenPair) : List Char :=
  (if pair.indented then indent else [])
    ++ (pairText pair.key.toList pair.value.toList ++ if pair.comma then [','] else [])

end WrittenPair

/-- A catalog as it is laid out. -/
structure WrittenCatalog where
  /-- The end of the line of the opening brace, if there is one. -/
  opening : Option LineEnd
  pairs : List WrittenPair
  /-- The end of the line of the closing brace, if there is one. -/
  closing : Option LineEnd
  /-- What stands behind the last line, if anything does. -/
  final : Option LineEnd
  deriving DecidableEq, Repr

/-- Lines one after the other, with nothing behind the last one. -/
def joinLines : List WrittenLine → List Char
  | [] => []
  | [line] => line.content
  | line :: second :: rest => line.content ++ (line.lineEnd.text ++ joinLines (second :: rest))

namespace WrittenCatalog

/-- The lines of a catalog. -/
def lines (indent : List Char) (written : WrittenCatalog) : List WrittenLine :=
  written.opening.toList.map (⟨['\x7b'], ·⟩)
    ++ written.pairs.map (fun pair => ⟨pair.content indent, pair.lineEnd⟩)
    ++ written.closing.toList.map (⟨['\x7d'], ·⟩)

/-- The text of a catalog. -/
def text (indent : String) (written : WrittenCatalog) : String :=
  String.ofList (joinLines (written.lines indent.toList)
    ++ (written.final.map LineEnd.text).getD [])

end WrittenCatalog

/-! ## Splitting -/

variable {indent line : List Char} {lines : List WrittenLine}

/-- A line that does not end with white space does not end with a carriage return. -/
theorem dropCarriageReturn_eq_self (h : endsBlank line = false) :
    dropCarriageReturn line = line := by
  rw [dropCarriageReturn, if_neg]
  intro hlast
  rw [endsBlank, hlast] at h
  exact absurd h (by decide)

/-- One carriage return goes. -/
theorem dropCarriageReturn_append (line : List Char) :
    dropCarriageReturn (line ++ ['\r']) = line := by
  rw [dropCarriageReturn, List.getLast?_concat, if_pos rfl, List.dropLast_concat]

/-- Splitting takes off one line with its end. -/
theorem map_splitOn_line (hfeed : '\n' ∉ line) (hend : dropCarriageReturn line = line)
    (lineEnd : LineEnd) (rest : List Char) :
    ((line ++ (lineEnd.text ++ rest)).splitOn '\n').map dropCarriageReturn
      = line :: (rest.splitOn '\n').map dropCarriageReturn := by
  cases lineEnd with
  | lf =>
      rw [LineEnd.text, List.singleton_append,
        List.splitOn_append_cons_self_of_not_mem hfeed, List.map_cons, hend]
  | crlf =>
      have hline : line ++ (LineEnd.crlf.text ++ rest) = (line ++ ['\r']) ++ '\n' :: rest := by
        simp only [LineEnd.text, List.cons_append, List.nil_append, List.append_assoc]
      have hfeed' : '\n' ∉ line ++ ['\r'] := by
        rw [List.mem_append, not_or]
        exact ⟨hfeed, by decide⟩
      rw [hline, List.splitOn_append_cons_self_of_not_mem hfeed', List.map_cons,
        dropCarriageReturn_append]

/-- Splitting takes off the last line, whatever ends it. -/
theorem map_splitOn_last (hfeed : '\n' ∉ line) (hend : endsBlank line = false)
    (final : Option LineEnd) :
    ∃ rest, ((line ++ (final.map LineEnd.text).getD []).splitOn '\n').map dropCarriageReturn
        = line :: rest
      ∧ ∀ line ∈ rest, line = [] := by
  cases final with
  | none =>
      refine ⟨[], ?_, nofun⟩
      rw [Option.map_none, Option.getD_none, List.append_nil, List.splitOn_eq_singleton hfeed]
      exact congrArg ([·]) (dropCarriageReturn_eq_self hend)
  | some lineEnd =>
      refine ⟨[[]], ?_, fun line hline => List.mem_singleton.mp hline⟩
      have hsplit := map_splitOn_line hfeed (dropCarriageReturn_eq_self hend) lineEnd []
      rw [List.append_nil] at hsplit
      exact hsplit

/-- **Splitting a text gives its lines back**, and nothing but empty ones after them. -/
theorem map_dropCarriageReturn_splitOn (final : Option LineEnd)
    (h : ∀ line ∈ lines, '\n' ∉ line.content ∧ endsBlank line.content = false) :
    ∃ rest, ((joinLines lines ++ (final.map LineEnd.text).getD []).splitOn '\n').map
          dropCarriageReturn
        = lines.map (·.content) ++ rest
      ∧ ∀ line ∈ rest, line = [] := by
  fun_induction joinLines lines with
  | case1 =>
      obtain ⟨rest, hsplit, hrest⟩ := @map_splitOn_last [] List.not_mem_nil rfl final
      exact ⟨[] :: rest, hsplit, List.forall_mem_cons.mpr ⟨rfl, hrest⟩⟩
  | case2 line =>
      obtain ⟨hfeed, hend⟩ := h line List.mem_cons_self
      exact map_splitOn_last hfeed hend final
  | case3 line second rest ih =>
      obtain ⟨hfeed, hend⟩ := h line List.mem_cons_self
      obtain ⟨blank, hsplit, hblank⟩ := ih fun line hline => h line (List.mem_cons_of_mem _ hline)
      refine ⟨blank, ?_, hblank⟩
      rw [List.append_assoc, List.append_assoc,
        map_splitOn_line hfeed (dropCarriageReturn_eq_self hend), hsplit]
      rfl

/-! ## Reading the lines -/

/-- A text can stand in quotes on a line of its own. -/
def Quotable (text : String) : Prop :=
  '"' ∉ text.toList ∧ '\n' ∉ text.toList

instance (text : String) : Decidable (Quotable text) :=
  inferInstanceAs (Decidable (_ ∧ _))

/-- A pair can be written: its key is not empty, and key and value can stand in quotes. -/
structure WrittenPair.WellFormed (pair : WrittenPair) : Prop where
  key_ne : pair.key ≠ ""
  key : Quotable pair.key
  value : Quotable pair.value

instance (pair : WrittenPair) : Decidable pair.WellFormed :=
  decidable_of_iff (pair.key ≠ "" ∧ Quotable pair.key ∧ Quotable pair.value)
    ⟨fun h => ⟨h.1, h.2.1, h.2.2⟩, fun h => ⟨h.key_ne, h.key, h.value⟩⟩

/-- Lines that are passed over bring nothing, however many there are. -/
theorem foldl_afterLine_skip {α : Type} (items : List α) (progress : Progress) :
    (items.map fun _ => LineVerdict.skip).foldl Progress.afterLine progress = progress := by
  induction items generalizing progress with
  | nil => rfl
  | cons item rest ih => exact ih progress

/-- Lines of pairs bring the pairs. -/
theorem foldl_afterLine_pairs (entries : List (String × String)) (progress : Progress) :
    (entries.map fun entry => LineVerdict.pair entry.1 entry.2).foldl Progress.afterLine progress
      = progress.recordAll entries :=
  List.foldl_map

/-- A line is one line, and there is nothing to report about its shape. -/
structure Clean (indent line : List Char) : Prop where
  feed_notMem : '\n' ∉ line
  endsBlank : endsBlank line = false
  verdict_ne : verdict indent line ≠ .malformed

namespace WrittenPair

variable {pair : WrittenPair}

/-- The verdict on the line of a pair is the pair. -/
theorem verdict_content (h : pair.WellFormed) (indent : List Char) :
    verdict indent (pair.content indent) = .pair pair.key pair.value := by
  have hkey : pair.key.toList ≠ [] := fun hempty => h.key_ne (String.toList_eq_nil_iff.mp hempty)
  have htail : endsPair (if pair.comma then [','] else []) = true := by
    split <;> rfl
  have hquotes : '"' ∉ (if pair.comma then [','] else []) := by
    split <;> decide
  have hread : readIndentedPair indent (pair.content indent)
      = some (pair.key.toList, pair.value.toList) := by
    rw [content]
    split
    · exact readIndentedPair_indented
        (readPair_pairText hkey h.key.1 h.value.1 htail)
    · exact readIndentedPair_flush hkey h.key.1 h.value.1 htail hquotes
  have hquote : '"' ∈ pair.content indent :=
    List.mem_append_right _ (List.mem_append_left _ List.mem_cons_self)
  rw [verdict_eq_pair hquote hread, String.ofList_toList, String.ofList_toList]

/-- The line of a pair does not end with white space. -/
theorem endsBlank_content (pair : WrittenPair) (indent : List Char) :
    endsBlank (pair.content indent) = false := by
  have hlast : (pairText pair.key.toList pair.value.toList).getLast? = some '"' := by
    have hpair : pairText pair.key.toList pair.value.toList
        = ('"' :: (pair.key.toList ++ '"' :: ':' :: ' ' :: '"' :: pair.value.toList)) ++ ['"'] := by
      simp only [pairText, List.cons_append, List.append_assoc]
    rw [hpair, List.getLast?_concat]
  rw [endsBlank, content]
  cases pair.comma with
  | true =>
      rw [if_pos rfl, ← List.append_assoc, List.getLast?_concat]
      rfl
  | false =>
      rw [if_neg Bool.false_ne_true, List.append_nil, List.getLast?_append, hlast]
      rfl

/-- The line of a pair is one line. -/
theorem feed_notMem_content (h : pair.WellFormed) (hindent : '\n' ∉ indent) :
    '\n' ∉ pair.content indent := by
  have hpair : '\n' ∉ pairText pair.key.toList pair.value.toList := by
    simp [pairText, h.key.2, h.value.2]
  have hcomma : '\n' ∉ (if pair.comma then [','] else []) := by
    split <;> decide
  rw [content, List.mem_append, List.mem_append]
  rintro (hmem | hmem | hmem)
  · split at hmem
    · exact hindent hmem
    · exact List.not_mem_nil hmem
  · exact hpair hmem
  · exact hcomma hmem

end WrittenPair

namespace WrittenCatalog

variable {written : WrittenCatalog}

/-- The keys and values of a catalog, in order. -/
def entries (written : WrittenCatalog) : List (String × String) :=
  written.pairs.map fun pair => (pair.key, pair.value)

/-- A line of a catalog is that of a brace or of a pair. -/
theorem of_mem_lines {line : WrittenLine} (h : line ∈ written.lines indent) :
    line.content = ['\x7b'] ∨ line.content = ['\x7d']
      ∨ ∃ pair ∈ written.pairs, line.content = pair.content indent := by
  rcases List.mem_append.mp h with hfirst | hclosing
  · rcases List.mem_append.mp hfirst with hopening | hpair
    · obtain ⟨lineEnd, -, rfl⟩ := List.mem_map.mp hopening
      exact Or.inl rfl
    · obtain ⟨pair, hmem, rfl⟩ := List.mem_map.mp hpair
      exact Or.inr (Or.inr ⟨pair, hmem, rfl⟩)
  · obtain ⟨lineEnd, -, rfl⟩ := List.mem_map.mp hclosing
    exact Or.inr (Or.inl rfl)

/-- There is nothing to report about the shape of the lines of a catalog. -/
theorem clean_of_mem_lines (hindent : '\n' ∉ indent)
    (hpairs : ∀ pair ∈ written.pairs, pair.WellFormed) {line : WrittenLine}
    (h : line ∈ written.lines indent) : Clean indent line.content := by
  rcases of_mem_lines h with hopening | hclosing | ⟨pair, hmem, hpair⟩
  · rw [hopening]
    exact ⟨by decide, rfl, nofun⟩
  · rw [hclosing]
    exact ⟨by decide, rfl, nofun⟩
  · rw [hpair]
    refine ⟨WrittenPair.feed_notMem_content (hpairs pair hmem) hindent,
      pair.endsBlank_content indent, ?_⟩
    rw [WrittenPair.verdict_content (hpairs pair hmem)]
    exact nofun

/-- The verdicts on the lines of a catalog are its pairs, between braces that are passed
    over. -/
theorem map_verdict_lines (hpairs : ∀ pair ∈ written.pairs, pair.WellFormed) :
    (written.lines indent).map (fun line => verdict indent line.content)
      = (written.opening.toList.map fun _ => .skip)
        ++ (written.entries.map fun entry => .pair entry.1 entry.2)
        ++ (written.closing.toList.map fun _ => .skip) := by
  have hmiddle : written.pairs.map (fun pair => verdict indent (pair.content indent))
      = written.pairs.map fun pair => .pair pair.key pair.value :=
    List.map_congr_left fun pair hpair => WrittenPair.verdict_content (hpairs pair hpair) indent
  simp only [lines, entries, List.map_append, List.map_map, Function.comp_def, hmiddle]
  rfl

/-! ### Its text -/

/-- The text of a catalog, split at the line feeds. -/
def pieces (indent : String) (written : WrittenCatalog) : List (List Char) :=
  (written.text indent).toList.splitOn '\n'

variable {unit : String}

/-- The pieces of the text are the lines of the catalog, and nothing but empty ones after
    them. -/
theorem map_dropCarriageReturn_pieces (hindent : '\n' ∉ unit.toList)
    (hpairs : ∀ pair ∈ written.pairs, pair.WellFormed) :
    ∃ rest, (written.pieces unit).map dropCarriageReturn
        = (written.lines unit.toList).map (·.content) ++ rest
      ∧ ∀ line ∈ rest, line = [] := by
  rw [pieces, text, String.toList_ofList]
  refine map_dropCarriageReturn_splitOn written.final fun line hline => ?_
  have hclean := clean_of_mem_lines hindent hpairs hline
  exact ⟨hclean.feed_notMem, hclean.endsBlank⟩

/-- There is nothing to report about the shape of the pieces. -/
theorem lineFindings_of_mem_pieces (hindent : '\n' ∉ unit.toList)
    (hpairs : ∀ pair ∈ written.pairs, pair.WellFormed) {piece : List Char}
    (h : piece ∈ written.pieces unit) : lineFindings unit.toList piece = [] := by
  obtain ⟨rest, hpieces, hrest⟩ := map_dropCarriageReturn_pieces hindent hpairs
  have hmem : dropCarriageReturn piece ∈ (written.pieces unit).map dropCarriageReturn :=
    List.mem_map_of_mem h
  rw [hpieces] at hmem
  rcases List.mem_append.mp hmem with hline | hblank
  · obtain ⟨line, hline, heq⟩ := List.mem_map.mp hline
    have hclean := clean_of_mem_lines hindent hpairs hline
    rw [heq] at hclean
    exact lineFindings_eq_nil hclean.endsBlank hclean.verdict_ne
  · have hempty := hrest _ hblank
    refine lineFindings_eq_nil ?_ ?_ <;> rw [hempty]
    · rfl
    · exact nofun

/-- What is known after the pieces is what the pairs of the catalog bring. -/
theorem foldl_afterLine_pieces (hindent : '\n' ∉ unit.toList)
    (hpairs : ∀ pair ∈ written.pairs, pair.WellFormed) :
    ((written.pieces unit).map (lineVerdict unit.toList)).foldl Progress.afterLine {}
      = ({} : Progress).recordAll written.entries := by
  obtain ⟨rest, hpieces, hrest⟩ := map_dropCarriageReturn_pieces hindent hpairs
  have hverdicts : (written.pieces unit).map (lineVerdict unit.toList)
      = (written.lines unit.toList).map (fun line => verdict unit.toList line.content)
        ++ rest.map (verdict unit.toList) := by
    have hmap := congrArg (List.map (verdict unit.toList)) hpieces
    rw [List.map_map, List.map_append, List.map_map] at hmap
    exact hmap
  have hblank : rest.map (verdict unit.toList) = rest.map fun _ => .skip :=
    List.map_congr_left fun line hline => by rw [hrest line hline]; rfl
  rw [hverdicts, map_verdict_lines hpairs, hblank]
  simp only [List.foldl_append, foldl_afterLine_skip, foldl_afterLine_pairs]

end WrittenCatalog

/-! ## Reading a catalog -/

/-- **What is read from a catalog is what was written**, in every layout.  For all options
    with an indent unit without a line feed, and for all pairs whose keys are not empty and
    whose keys and values hold neither a quote nor a line feed, the check of the text says
    nothing about malformed lines or white space at the end of a line.  The keys are those
    of the pairs, each once and in the order of their first pairs, and the value of each key
    is the one of its last pair. -/
theorem written_catalog_reads_back {options : Options} {written : WrittenCatalog}
    (hindent : '\n' ∉ options.indentUnit.toList)
    (hpairs : ∀ pair ∈ written.pairs, pair.WellFormed)
    (compiled : List (String × List CompiledPattern)) (language : String) :
    let checked := check options compiled (written.text options.indentUnit) language
    (∀ finding ∈ checked.findings,
      finding.category ≠ .malformedLine ∧ finding.category ≠ .trailingWhitespace)
    ∧ checked.orderedKeys = (written.entries.map Prod.fst).eraseDups
    ∧ ∀ key, checked.value? key
        = ((written.entries.filter (·.1 = key)).getLast?).map Prod.snd := by
  intro checked
  let rules : Rules := ⟨options, forbiddenFor compiled language⟩
  have hprogress : (checkLines rules {} 1 (written.pieces options.indentUnit)).2
      = ({} : Progress).recordAll written.entries :=
    (checkLines_snd rules {} 1 _).trans (WrittenCatalog.foldl_afterLine_pieces hindent hpairs)
  have hchecked : checked
      = ⟨(checkLines rules {} 1 (written.pieces options.indentUnit)).1,
          (({} : Progress).recordAll written.entries).keys.ordered,
          (({} : Progress).recordAll written.entries).values⟩ := by
    rw [← hprogress, WrittenCatalog.pieces, ← checkText_eq]
    rfl
  rw [hchecked]
  refine ⟨?_, Progress.ordered_recordAll written.entries, lookup_values_recordAll written.entries⟩
  intro finding hmem
  dsimp only at hmem
  obtain ⟨before, place, piece, hpiece, hfinding⟩ := of_mem_checkLines hmem
  obtain ⟨reported, rfl, hshape | ⟨key, value, -, hpair⟩⟩ := of_mem_findingsAt hfinding
  · have hnothing : lineFindings rules.options.indentUnit.toList piece = [] :=
      WrittenCatalog.lineFindings_of_mem_pieces hindent hpairs hpiece
    rw [hnothing] at hshape
    exact nomatch hshape
  · obtain ⟨-, hblank, hmalformed⟩ := of_mem_pairFindings hpair
    exact ⟨hmalformed, hblank⟩

/-- A catalog with an opening brace and line ends of both kinds.  The indent unit begins with
    a quote, one of the values ends with a carriage return, and one key comes twice. -/
theorem written_catalog_with_repeated_key_reads_back :
    let options : Options := { indentUnit := "\".*" }
    let written : WrittenCatalog :=
      { opening := some .crlf
        pairs :=
          [⟨"A", "one\r", true, true, .lf⟩, ⟨"B", "", false, true, .crlf⟩,
            ⟨"A", "<b>\\", false, false, .lf⟩]
        closing := none
        final := some .crlf }
    let checked := check options [] (written.text options.indentUnit) "en"
    written.text options.indentUnit
      = "\x7b\r\n\".*\"A\": \"one\r\",\n\"B\": \"\",\r\n\"A\": \"<b>\\\"\r\n"
    ∧ checked.orderedKeys = ["A", "B"]
    ∧ checked.value? "A" = some "<b>\\" ∧ checked.value? "B" = some "" := by
  intro options written checked
  obtain ⟨-, hkeys, hvalue⟩ := @written_catalog_reads_back options written (by decide +kernel)
    (by decide +kernel) [] "en"
  refine ⟨by decide +kernel, hkeys.trans ?_, (hvalue "A").trans ?_, (hvalue "B").trans ?_⟩ <;>
    decide +kernel

end CatalogLint.Catalog
