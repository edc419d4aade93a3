import CatalogLint.Proofs.Catalog.Written

/-! # Line ends

    A line is looked at without one carriage return at its end, by every check and in every
    message (`findingsAt_congr`).  So what the check of a text comes to can be told from its
    lines without the carriage returns (`checkLines_congr`), and these are the same in whichever
    manner the lines of a text are ended (`map_splitOn_withLineEnds`).  It makes no difference
    to a catalog what its lines end with (`line_ends_make_no_difference`). -/

namespace CatalogLint.Catalog

variable {indent line other : List Char} {rules : Rules}

/-! ## Lines that differ in a carriage return -/

/-- The verdict is on the line without a carriage return. -/
theorem lineVerdict_congr (h : dropCarriageReturn line = dropCarriageReturn other) :
    lineVerdict indent line = lineVerdict indent other := by
  rw [lineVerdict, lineVerdict, h]

/-- The shape that is reported on is that of the line without a carriage return. -/
theorem lineFindings_congr (h : dropCarriageReturn line = dropCarriageReturn other) :
    lineFindings indent line = lineFindings indent other := by
  rw [lineFindings, lineFindings, h]

/-- What is reported about a line is reported about the line without a carriage return. -/
theorem findingsAt_congr (h : dropCarriageReturn line = dropCarriageReturn other)
    (progress : Progress) (number : Nat) :
    findingsAt rules progress number line = findingsAt rules progress number other := by
  rw [findingsAt, findingsAt, lineFindings_congr h, lineVerdict_congr h]

/-- Lines that are the same without their carriage returns are checked alike. -/
theorem checkLines_congr {lines others : List (List Char)}
    (h : lines.map dropCarriageReturn = others.map dropCarriageReturn) (rules : Rules)
    (progress : Progress) (number : Nat) :
    checkLines rules progress number lines = checkLines rules progress number others := by
  induction lines generalizing others progress number with
  | nil => rw [List.map_eq_nil_iff.mp h.symm]
  | cons line rest ih =>
      obtain ⟨other, others, rfl, hline, hrest⟩ := List.map_eq_cons_iff.mp h.symm
      rw [checkLines, checkLines, findingsAt_congr hline.symm, lineVerdict_congr hline.symm,
        ih hrest.symm]

/-! ## Texts with other line ends -/

/-- The text with all its lines but the last ended in the given manner. -/
def withLineEnds (lineEnd : LineEnd) (text : String) : String :=
  String.ofList (text.toList.flatMap fun c => if c = '\n' then lineEnd.text else [c])

/-- A line without a carriage return stays as it is. -/
theorem dropCarriageReturn_of_notMem (h : '\r' ∉ line) : dropCarriageReturn line = line := by
  rw [dropCarriageReturn, if_neg]
  exact fun hlast => h (List.mem_of_getLast? hlast)

/-- The lines of a text are the same in whichever manner they are ended, and whatever stands
    before the text on its first line. -/
theorem map_splitOn_flatMap (lineEnd : LineEnd) {start text : List Char} (hfeed : '\n' ∉ start)
    (hstart : '\r' ∉ start) (htext : '\r' ∉ text) :
    ((start ++ text.flatMap fun c => if c = '\n' then lineEnd.text else [c]).splitOn '\n').map
        dropCarriageReturn
      = ((start ++ text).splitOn '\n').map dropCarriageReturn := by
  induction text generalizing start with
  | nil => rfl
  | cons c text ih =>
      rw [List.mem_cons, not_or] at htext
      obtain ⟨hc, htext⟩ := htext
      rw [List.flatMap_cons]
      by_cases hend : c = '\n'
      · -- the first line ends here, and the next one starts with nothing
        have hline := dropCarriageReturn_of_notMem hstart
        have hrest := ih List.not_mem_nil List.not_mem_nil htext
        rw [List.nil_append, List.nil_append] at hrest
        have hplain := map_splitOn_line hfeed hline .lf text
        rw [if_pos hend, map_splitOn_line hfeed hline, hrest, ← hplain, hend]
        rfl
      · have hfeed' : '\n' ∉ start ++ [c] := by
          rw [List.mem_append, List.mem_singleton]
          exact not_or.mpr ⟨hfeed, fun heq => hend heq.symm⟩
        have hstart' : '\r' ∉ start ++ [c] := by
          rw [List.mem_append, List.mem_singleton]
          exact not_or.mpr ⟨hstart, hc⟩
        rw [if_neg hend, ← List.append_assoc, ih hfeed' hstart' htext, List.append_assoc]
        rfl

/-- The lines of a text without carriage returns are the same in whichever manner they are
    ended. -/
theorem map_splitOn_withLineEnds (lineEnd : LineEnd) {text : String} (h : '\r' ∉ text.toList) :
    ((withLineEnds lineEnd text).toList.splitOn '\n').map dropCarriageReturn
      = (text.toList.splitOn '\n').map dropCarriageReturn := by
  rw [withLineEnds, String.toList_ofList]
  exact map_splitOn_flatMap lineEnd List.not_mem_nil List.not_mem_nil h

/-- The check of a text gives the same in whichever manner the lines are ended. -/
theorem check_withLineEnds (lineEnd : LineEnd) {content : String} (h : '\r' ∉ content.toList)
    (options : Options) (compiled : List (String × List CompiledPattern)) (language : String) :
    check options compiled (withLineEnds lineEnd content) language
      = check options compiled content language := by
  rw [check, check, checkText_eq, checkText_eq,
    checkLines_congr (map_splitOn_withLineEnds lineEnd h)]

/-- **Line ends make no difference.**  A text without carriage returns, and the same text with
    a carriage return before each of its line feeds: for all options, patterns and languages,
    and whatever is on record, the check gives the same keys, values and findings, which have
    the same messages and lines, and so the same flags; and it puts the same behind the
    record. -/
theorem line_ends_make_no_difference {content : String} (h : '\r' ∉ content.toList)
    (options : Options) (compiled : List (String × List CompiledPattern)) (language : String)
    (record : Array Finding) :
    recordCheck options compiled (withLineEnds .crlf content) language record
      = recordCheck options compiled content language record := by
  rw [recordCheck_eq, recordCheck_eq, check_withLineEnds .crlf h]

/-- A catalog with a blank line, white space at the end of a line, a line that is malformed and
    a last line that nothing ends. -/
theorem malformed_line_with_other_line_ends :
    let content := "\x7b\n\t\"B\": \"b\", \n\n\"A\" : \"a\" \n\"A\": \"\""
    let other := "\x7b\r\n\t\"B\": \"b\", \r\n\r\n\"A\" : \"a\" \r\n\"A\": \"\""
    let checked := (recordCheck {} [] other "en" #[]).1
    '\r' ∉ content.toList
    ∧ withLineEnds .crlf content = other
    ∧ checked = (recordCheck {} [] content "en" #[]).1
    ∧ checked.findings.map (fun finding => (finding.line, finding.category))
      = [(some 2, .trailingWhitespace), (some 4, .trailingWhitespace), (some 4, .malformedLine),
        (some 5, .emptyValue), (some 5, .keyOrder)] := by
  intro content other checked
  have hcontent : '\r' ∉ content.toList := by decide +kernel
  have hother : withLineEnds .crlf content = other := by decide +kernel
  have hsame := line_ends_make_no_difference hcontent {} [] "en" #[]
  rw [hother] at hsame
  exact ⟨hcontent, hother, congrArg Prod.fst hsame, by decide +kernel⟩

end CatalogLint.Catalog
