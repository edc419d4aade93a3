import CatalogLint.Finding

/-! # Reporting

    Findings are handed on one by one as messages to a sink.  The reporter borrows the sink
    and keeps a record of the findings and their tallies beside it.  A raw message is handed
    on without being recorded or tallied. -/

namespace CatalogLint

/-- What can be seen of a run from outside: the messages that its sink has received, and the
    lists of unused keys that its policy has been asked about. -/
structure Trace where
  messages : Array Message := #[]
  questions : Array (List String) := #[]
  deriving DecidableEq, Repr

/-- What has been reported so far: what is to be seen of it, the record of the findings, and
    their tallies. -/
structure Reporter where
  trace : Trace := {}
  findings : Array Finding := #[]
  errors : Nat := 0
  warnings : Nat := 0

namespace Reporter

/-- A reporter that has reported nothing, on a sink that may have received messages. -/
def new (trace : Trace) : Reporter := { trace }

/-- The messages that have been handed on. -/
def sent (reporter : Reporter) : Array Message :=
  reporter.trace.messages

/-- The lists of unused keys that the policy has been asked about. -/
def asked (reporter : Reporter) : Array (List String) :=
  reporter.trace.questions

/-- Hands on a message that is no finding. -/
def sendRaw (reporter : Reporter) (message : Message) : Reporter :=
  { reporter with
    trace := { reporter.trace with messages := reporter.trace.messages.push message } }

/-- Hands on messages that are no findings, in order. -/
def sendAllRaw (reporter : Reporter) (messages : List Message) : Reporter :=
  messages.foldl sendRaw reporter

/-- Reports a finding. -/
def emit (reporter : Reporter) (finding : Finding) : Reporter :=
  { reporter.sendRaw finding.toMessage with
    findings := reporter.findings.push finding
    errors := match finding.severity with
      | .error => reporter.errors + 1
      | .warning => reporter.errors
    warnings := match finding.severity with
      | .error => reporter.warnings
      | .warning => reporter.warnings + 1 }

/-- Notes that the policy is asked about unused keys. -/
def ask (reporter : Reporter) (unused : List String) : Reporter :=
  { reporter with
    trace := { reporter.trace with questions := reporter.trace.questions.push unused } }

/-- Reports findings in order. -/
def emitAll (reporter : Reporter) (findings : List Finding) : Reporter :=
  findings.foldl emit reporter

/-- Every finding is handed on as one message, in order, and that is all that is seen. -/
theorem trace_emitAll (reporter : Reporter) (findings : List Finding) :
    (reporter.emitAll findings).trace
      = { reporter.trace with
          messages := reporter.trace.messages ++ findings.map Finding.toMessage } := by
  induction findings generalizing reporter with
  | nil => simp [emitAll]
  | cons finding rest ih =>
      have h := ih (reporter.emit finding)
      simpa [emitAll, emit, sendRaw] using h

/-- The messages of the findings come behind those that have been handed on. -/
theorem sent_emitAll (reporter : Reporter) (findings : List Finding) :
    (reporter.emitAll findings).sent.toList
      = reporter.sent.toList ++ findings.map Finding.toMessage := by
  rw [sent, trace_emitAll]
  exact Array.toList_appendList

/-- The policy is not asked about findings. -/
theorem asked_emitAll (reporter : Reporter) (findings : List Finding) :
    (reporter.emitAll findings).asked = reporter.asked := by
  rw [asked, trace_emitAll, asked]

/-- Every finding is recorded, in order. -/
theorem findings_emitAll (reporter : Reporter) (findings : List Finding) :
    (reporter.emitAll findings).findings.toList = reporter.findings.toList ++ findings := by
  induction findings generalizing reporter with
  | nil => simp [emitAll]
  | cons finding rest ih =>
      have h := ih (reporter.emit finding)
      simpa [emitAll, emit] using h

/-- What every finding of a kind adds one to grows by the number of findings of the kind. -/
theorem tally_emitAll {tally : Reporter → Nat} {kind : Finding → Bool}
    (hemit : ∀ reporter finding,
      tally (reporter.emit finding) = tally reporter + if kind finding then 1 else 0)
    (reporter : Reporter) (findings : List Finding) :
    tally (reporter.emitAll findings) = tally reporter + findings.countP kind := by
  induction findings generalizing reporter with
  | nil => rfl
  | cons finding rest ih =>
      have h := ih (reporter.emit finding)
      rw [hemit] at h
      rw [List.countP_cons, Nat.add_comm (rest.countP kind), ← Nat.add_assoc]
      exact h

/-- The tally of errors grows by the number of errors. -/
theorem errors_emitAll (reporter : Reporter) (findings : List Finding) :
    (reporter.emitAll findings).errors = reporter.errors + findings.countP Finding.isError := by
  refine tally_emitAll (fun reporter finding => ?_) reporter findings
  cases hseverity : finding.severity <;> simp [emit, Finding.isError, hseverity]

/-- The tally of warnings grows by the number of warnings. -/
theorem warnings_emitAll (reporter : Reporter) (findings : List Finding) :
    (reporter.emitAll findings).warnings
      = reporter.warnings + findings.countP Finding.isWarning := by
  refine tally_emitAll (fun reporter finding => ?_) reporter findings
  cases hseverity : finding.severity <;> simp [emit, Finding.isWarning, hseverity]

end Reporter

/-! ## Keys that no template uses -/

/-- A finding is a warning about unused keys, without a place. -/
structure Finding.IsUnusedKeyWarning (finding : Finding) : Prop where
  category : finding.category = .unusedKey
  severity : finding.severity = .warning
  line : finding.line = none
  file : finding.file = none

/-- What is done about keys that no template uses.  A policy is told the keys; it reports
    findings, which are warnings about unused keys, then it sends messages of its own, and it
    says whether the run must fail.  It does not look at what has been reported before. -/
structure UnusedKeyPolicy where
  findings : List String → List Finding
  rawMessages : List String → List Message
  fails : List String → Bool
  warns : ∀ unused, ∀ finding ∈ findings unused, finding.IsUnusedKeyWarning

/-- The warning about a key that no template uses. -/
def unusedFinding (key : String) : Finding :=
  .warning .unusedKey ("Key " ++ key ++ " is not used in any template.")

namespace UnusedKeyPolicy

/-- A warning for each key; the run need not fail. -/
def warn : UnusedKeyPolicy where
  findings unused := unused.map unusedFinding
  rawMessages _ := []
  fails _ := false
  warns _ := List.forall_mem_map.mpr fun _ _ => ⟨rfl, rfl, rfl, rfl⟩

/-- A decision from outside, which may send messages and make the run fail. -/
def external (decide : List String → List Message × Bool) : UnusedKeyPolicy where
  findings _ := []
  rawMessages unused := (decide unused).1
  fails unused := (decide unused).2
  warns _ := nofun

/-- Asks the policy about unused keys; the flag says that the run must fail. -/
def apply (policy : UnusedKeyPolicy) (reporter : Reporter) (unused : List String) :
    Reporter × Bool :=
  (((reporter.ask unused).emitAll (policy.findings unused)).sendAllRaw (policy.rawMessages unused),
    policy.fails unused)

end UnusedKeyPolicy

end CatalogLint
