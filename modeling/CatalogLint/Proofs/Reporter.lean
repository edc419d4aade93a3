import CatalogLint.Reporter

/-! # The accounts of a reporter

    A reporter keeps accounts of what it was told: the record of the findings, their
    tallies, and what can be seen of it, which are the messages that were handed on and the
    questions to the policy.  `Reporter.Consistent` says that they agree, up to what was seen
    before and to raw messages at the end.

    * reporting findings keeps the accounts consistent (`Consistent.emitAll`);
    * a policy about unused keys is the only source of raw messages, and it is asked one
      question by one call (`consistent_apply`, `findings_apply`). -/

namespace CatalogLint

namespace Reporter

variable {reporter : Reporter} {before : Trace}

/-- The tallies count the record.  What has been handed on is what was before, then the
    messages of the record and the given raw messages; the policy has been asked the given
    questions. -/
structure Consistent (before : Trace) (questions : List (List String)) (raw : List Message)
    (reporter : Reporter) : Prop where
  errors : reporter.errors = reporter.findings.toList.countP Finding.isError
  warnings : reporter.warnings = reporter.findings.toList.countP Finding.isWarning
  sent : reporter.sent.toList
    = before.messages.toList ++ reporter.findings.toList.map Finding.toMessage ++ raw
  asked : reporter.asked.toList = before.questions.toList ++ questions

/-- Nothing has been reported yet. -/
theorem consistent_new (before : Trace) : Consistent before [] [] (.new before) :=
  ⟨rfl, rfl, by simp [Reporter.sent, new], by simp [Reporter.asked, new]⟩

/-- Reporting findings keeps the accounts consistent, as long as nothing was sent raw. -/
theorem Consistent.emitAll {questions : List (List String)}
    (h : reporter.Consistent before questions []) (findings : List Finding) :
    (reporter.emitAll findings).Consistent before questions [] := by
  refine ⟨?_, ?_, ?_, ?_⟩
  · rw [errors_emitAll, findings_emitAll, List.countP_append, h.errors]
  · rw [warnings_emitAll, findings_emitAll, List.countP_append, h.warnings]
  · rw [sent_emitAll, findings_emitAll, h.sent, List.map_append]
    simp only [List.append_nil, List.append_assoc]
  · rw [asked_emitAll, h.asked]

/-- Reporting in two steps is reporting everything at once. -/
theorem emitAll_append (reporter : Reporter) (first second : List Finding) :
    reporter.emitAll (first ++ second) = (reporter.emitAll first).emitAll second :=
  List.foldl_append

/-- Reporting file by file is reporting everything at once. -/
theorem foldl_emitAll {α : Type} (findingsOf : α → List Finding) (files : List α)
    (reporter : Reporter) :
    files.foldl (fun reporter file => reporter.emitAll (findingsOf file)) reporter
      = reporter.emitAll (files.flatMap findingsOf) := by
  induction files generalizing reporter with
  | nil => rfl
  | cons file rest ih =>
      rw [List.foldl_cons, List.flatMap_cons, emitAll_append]
      exact ih (reporter.emitAll (findingsOf file))

/-- Raw messages change nothing but what has been handed on. -/
theorem sendAllRaw_eq (reporter : Reporter) (messages : List Message) :
    reporter.sendAllRaw messages
      = { reporter with
          trace := { reporter.trace with
            messages := reporter.trace.messages ++ messages } } := by
  induction messages generalizing reporter with
  | nil => simp [sendAllRaw]
  | cons message rest ih =>
      have h := ih (reporter.sendRaw message)
      rw [sendAllRaw] at h ⊢
      rw [List.foldl_cons, h]
      simp [sendRaw]

/-- Messages that are sent raw are no part of the other accounts. -/
theorem Consistent.sendAllRaw {questions : List (List String)}
    (h : reporter.Consistent before questions []) (messages : List Message) :
    (reporter.sendAllRaw messages).Consistent before questions messages := by
  rw [sendAllRaw_eq]
  refine ⟨h.errors, h.warnings, ?_, h.asked⟩
  rw [Reporter.sent, Array.toList_appendList]
  exact congrArg (· ++ messages) (h.sent.trans (List.append_nil _))

/-- A question is noted, and nothing else is. -/
theorem Consistent.ask (h : reporter.Consistent before [] []) (unused : List String) :
    (reporter.ask unused).Consistent before [unused] [] := by
  refine ⟨h.errors, h.warnings, h.sent, ?_⟩
  rw [Reporter.asked, Reporter.ask, Array.toList_push]
  exact congrArg (· ++ [unused]) (h.asked.trans (List.append_nil _))

end Reporter

/-! ## Policies about unused keys -/

namespace UnusedKeyPolicy

variable (policy : UnusedKeyPolicy) (reporter : Reporter) (unused : List String)

/-- The record grows by the findings of the policy, and by nothing else. -/
theorem findings_apply :
    (policy.apply reporter unused).1.findings.toList
      = reporter.findings.toList ++ policy.findings unused := by
  rw [apply, Reporter.sendAllRaw_eq]
  exact Reporter.findings_emitAll _ _

/-- The findings of the policy are handed on, and what it sends on its own after them. -/
theorem sent_apply :
    (policy.apply reporter unused).1.sent.toList
      = reporter.sent.toList ++ (policy.findings unused).map Finding.toMessage
        ++ policy.rawMessages unused := by
  rw [apply, Reporter.sendAllRaw_eq, Reporter.sent, Array.toList_appendList]
  exact congrArg (· ++ policy.rawMessages unused) (Reporter.sent_emitAll _ _)

/-- The policy has been asked once more. -/
theorem asked_apply :
    (policy.apply reporter unused).1.asked.toList = reporter.asked.toList ++ [unused] := by
  rw [apply, Reporter.sendAllRaw_eq]
  show ((reporter.ask unused).emitAll (policy.findings unused)).asked.toList = _
  rw [Reporter.asked_emitAll, Reporter.asked, Reporter.ask, Array.toList_push]
  rfl

/-- What the policy sends on its own stands behind the record and is not tallied. -/
theorem consistent_apply {reporter : Reporter} {before : Trace}
    (h : reporter.Consistent before [] []) :
    (policy.apply reporter unused).1.Consistent before [unused] (policy.rawMessages unused) :=
  ((h.ask unused).emitAll (policy.findings unused)).sendAllRaw (policy.rawMessages unused)

end UnusedKeyPolicy

end CatalogLint
