import CatalogLint.Proofs.FirstOccurrences
import CatalogLint.Proofs.Json.ReadBack
import CatalogLint.Proofs.Rules
import CatalogLint.Report.Format

/-! # JSON reports read back

    A report that is written as JSON can be read back, and it is the same report.  The text
    gives back the document (`Json.read?_pretty`), so what is left is that the document of a
    report is a report: each record writes known fields, none of them twice
    (`Document.fields?_object`), and each field is read as it was written.  A line or a
    file that a finding lacks is left out, and what is left out is read as missing.

    Counts and lines are numbers of 64 bits; no others are read (`Report.Bounded`). -/

namespace CatalogLint

open Document

/-! ## Documents -/

namespace Document

variable {names : List String} {members : List (String × Json)}

/-- An object gives its members as fields if they are known and none is there twice. -/
theorem fields?_object (least : Nat) (hnodup : (members.map Prod.fst).Nodup)
    (hknown : ∀ name ∈ members.map Prod.fst, name ∈ names) :
    fields? names least (Json.object members) = some members := by
  have hfilter : members.filter (fun member => names.contains member.1) = members := by
    refine List.filter_eq_self.mpr fun member hmem => ?_
    exact List.contains_iff_mem.mpr (hknown member.1 (List.mem_map_of_mem hmem))
  have hmembers : Document.members? (Json.object members) = some members := rfl
  have hpositions : Document.positions? (Json.object members) = none := rfl
  simp only [fields?, hpositions, hmembers, hfilter, eraseDups_eq_self hnodup, List.length_map,
    if_true]

section Fields

variable {α : Type} (read : Json → Option α) (standard : α) (name other : String) (value : Json)
variable (fields : List (String × Json))

/-- A field that has to be there is read where it stands. -/
theorem required?_cons_self : required? read name ((name, value) :: fields) = read value := by
  rw [required?, List.lookup_cons_self, Option.bind_some]

/-- A field that has to be there is not another one. -/
theorem required?_cons_of_ne (h : name ≠ other) :
    required? read name ((other, value) :: fields) = required? read name fields := by
  rw [required?, List.lookup_cons, beq_false_of_ne h]
  rfl

/-- A field that may be missing is read where it stands. -/
theorem optional?_cons_self :
    optional? standard read name ((name, value) :: fields) = read value := by
  rw [optional?, List.lookup_cons_self]

/-- A field that may be missing is not another one. -/
theorem optional?_cons_of_ne (h : name ≠ other) :
    optional? standard read name ((other, value) :: fields)
      = optional? standard read name fields := by
  rw [optional?, List.lookup_cons, beq_false_of_ne h]
  rfl

/-- A field that is missing has its standard value. -/
theorem optional?_nil : optional? standard read name [] = some standard :=
  rfl

end Fields

/-- A number of 64 bits is read. -/
theorem natural?_natural {value : Nat} (h : value < naturalBound) :
    natural? (Json.natural value) = some value :=
  if_pos h

/-- A list is read back if each of its items is. -/
theorem listOf?_array {α : Type} {read : Json → Option α} {write : α → Json} {values : List α}
    (h : ∀ value ∈ values, read (write value) = some value) :
    listOf? read (Json.array (values.map write)) = some values := by
  show (values.map write).mapM read = some values
  induction values with
  | nil => rfl
  | cons value values ih =>
      obtain ⟨hvalue, hvalues⟩ := List.forall_mem_cons.mp h
      rw [List.map_cons, List.mapM_cons, hvalue, ih hvalues]
      rfl

end Document

/-! ## Counts -/

namespace Statistics

variable {statistics : Statistics}

/-- The counts are numbers of 64 bits. -/
structure Bounded (statistics : Statistics) : Prop where
  catalogs : statistics.catalogs < naturalBound
  groups : statistics.groups < naturalBound
  templates : statistics.templates < naturalBound
  keys : statistics.keys < naturalBound
  errors : statistics.errors < naturalBound
  warnings : statistics.warnings < naturalBound

/-- The document of counts is made of natural numbers. -/
theorem plain_toJson (statistics : Statistics) : statistics.toJson.Plain := by
  refine .object fun member hmem => ?_
  simp only [List.mem_cons, List.not_mem_nil, or_false] at hmem
  rcases hmem with rfl | rfl | rfl | rfl | rfl | rfl <;> exact .natural _

/-- Counts are read back from their document. -/
theorem ofDocument?_toJson (h : statistics.Bounded) :
    ofDocument? statistics.toJson = some statistics := by
  rw [ofDocument?, toJson, fields?_object]
  · simp [required?_cons_self, required?_cons_of_ne, natural?_natural h.catalogs,
      natural?_natural h.groups, natural?_natural h.templates, natural?_natural h.keys,
      natural?_natural h.errors, natural?_natural h.warnings]
  · simp
  · simp

end Statistics

/-! ## Findings -/

/-- The severity of a written name is the one that was written. -/
theorem Severity.ofName?_name (severity : Severity) : ofName? severity.name = some severity := by
  cases severity <;> rfl

namespace Finding

variable {finding : Finding}

/-- The document of a finding is made of texts and at most one natural number. -/
theorem plain_toJson (finding : Finding) : finding.toJson.Plain := by
  refine .object fun member hmem => ?_
  rcases List.mem_append.mp hmem with hmem | hfile
  · rcases List.mem_append.mp hmem with hbase | hline
    · simp only [List.mem_cons, List.not_mem_nil, or_false] at hbase
      rcases hbase with rfl | rfl | rfl <;> exact .string _
    · split at hline
      · rw [List.mem_singleton.mp hline]
        exact .natural _
      · exact nomatch hline
  · split at hfile
    · rw [List.mem_singleton.mp hfile]
      exact .string _
    · exact nomatch hfile

/-- A finding is read back from its document; a line or a file that it lacks is
    missing there as well. -/
theorem ofDocument?_toJson (h : ∀ line ∈ finding.line, line < naturalBound) :
    ofDocument? finding.toJson = some finding := by
  obtain ⟨category, severity, message, line, file⟩ := finding
  have hword : ∀ text, word? (Json.string text) = some text := fun _ => rfl
  have htext : ∀ text, Document.text? (Json.string text) = some text := fun _ => rfl
  have hnullable : ∀ text, nullable? Document.text? (Json.string text) = some (some text) :=
    fun _ => rfl
  have hline : ∀ value ∈ line, nullable? natural? (Json.natural value) = some (some value) := by
    intro value hvalue
    have hnull : Document.isNull (Json.natural value) = false := rfl
    rw [nullable?, hnull, natural?_natural (h value hvalue)]
    rfl
  rw [ofDocument?, toJson, fields?_object]
  · cases line <;> cases file <;>
      simp [required?_cons_self, required?_cons_of_ne, optional?_cons_self, optional?_cons_of_ne,
        optional?_nil, hword, htext, hnullable, hline, Category.ofRuleName?_ruleName,
        Severity.ofName?_name]
  · cases line <;> cases file <;> simp
  · cases line <;> cases file <;> simp

end Finding

/-! ## Reports -/

namespace Report

variable {report : Report}

/-- The counts and the lines of a report are numbers of 64 bits. -/
structure Bounded (report : Report) : Prop where
  statistics : report.statistics.Bounded
  lines : ∀ finding ∈ report.findings, ∀ line ∈ finding.line, line < naturalBound

/-- The document of a report is made of texts, natural numbers and a truth value. -/
theorem plain_toJson (report : Report) : report.toJson.Plain := by
  refine .object fun member hmem => ?_
  simp only [List.mem_cons, List.not_mem_nil, or_false] at hmem
  rcases hmem with rfl | rfl | rfl | rfl
  · exact .string _
  · exact .bool _
  · exact report.statistics.plain_toJson
  · refine .array fun item hitem => ?_
    obtain ⟨finding, -, rfl⟩ := List.mem_map.mp hitem
    exact finding.plain_toJson

/-- A report is read back from its document. -/
theorem ofDocument?_toJson (h : report.Bounded) : ofDocument? report.toJson = some report := by
  have htext : ∀ text, Document.text? (Json.string text) = some text := fun _ => rfl
  have hflag : ∀ value, Document.flag? (Json.bool value) = some value := fun _ => rfl
  have hfindings : listOf? Finding.ofDocument? (Json.array (report.findings.map Finding.toJson))
      = some report.findings :=
    listOf?_array fun finding hmem => Finding.ofDocument?_toJson (h.lines finding hmem)
  rw [ofDocument?, toJson, fields?_object]
  · simp [required?_cons_self, required?_cons_of_ne, htext, hflag, hfindings,
      Statistics.ofDocument?_toJson h.statistics]
  · simp
  · simp

/-- **A JSON report reads back.**  Whatever its texts are, with any findings, each with or
    without a line and with or without a file: the text that a report is written as is
    JSON, and read as a report it is the same report. -/
theorem json_report_reads_back (h : report.Bounded) :
    (Json.read? (ReportFormat.json.serialize report)).bind Report.ofDocument? = some report := by
  rw [ReportFormat.serialize, Json.read?_pretty report.plain_toJson, Option.bind_some,
    ofDocument?_toJson h]

/-- A report with quotes, a line feed, a null character and letters beyond ASCII in its
    texts, the greatest count there is, and findings with and without a line and a file. -/
theorem json_report_with_control_characters_reads_back :
    let report : Report :=
      { createdAt := "2024-05-01 \"now\"\n\x00"
        valid := false
        statistics := ⟨naturalBound - 1, 0, 10, 2, 1, 1⟩
        findings :=
          [{ category := .emptyValue, severity := .error, message := "caf\u00e9 \\ \x1f\t"
             line := some 30, file := some "i18n/\u00fc.json" },
            { category := .unusedKey, severity := .warning, message := "" },
            { category := .markupMismatch, severity := .error, message := "<b>"
              file := some "fr.json" }] }
    report.Bounded
    ∧ (Json.read? (ReportFormat.json.serialize report)).bind Report.ofDocument?
      = some report := by
  intro report
  have hbounded : report.Bounded := by
    refine ⟨⟨?_, ?_, ?_, ?_, ?_, ?_⟩, ?_⟩
    all_goals decide
  exact ⟨hbounded, json_report_reads_back hbounded⟩

end Report

end CatalogLint
