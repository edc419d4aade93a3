import CatalogLint.Proofs.Reporter
import CatalogLint.Proofs.Rules

/-! # Unknown and unused keys

    Templates are checked one after the other, and each takes the keys that it
    mentions out of those that are still unreferenced.  What is left at the end does
    not depend on how the templates are ordered: it is the known keys that no template
    mentions (`unusedKeys_eq`).  The other way round, a template is reported for every
    reference to a key that is not known (`filter_unknownKey_fileFindings`).

    * `findings_checkAll`, `sent_checkAll`: what the check of all templates
      reports, and what it sends;
    * `keys_exact_over_all_templates`: both sides of the comparison of keys at once. -/

namespace CatalogLint.Template

variable {options : Options} {known : KnownKeys} {templates : List SourceFile}

/-! ## Keys that are left over -/

/-- A template mentions a key: the key is referred to outside its comments. -/
def Mentions (file : SourceFile) (key : String) : Prop :=
  ∃ reference ∈ references (stripComments file.content.toList), reference.key = key

instance (file : SourceFile) (key : String) : Decidable (Mentions file key) :=
  inferInstanceAs (Decidable (∃ reference ∈ _, _))

/-- One template takes out the keys that it mentions. -/
theorem stillUnreferenced_eq (unreferenced : List String) (file : SourceFile) :
    stillUnreferenced unreferenced file = unreferenced.filter (¬ Mentions file ·) := by
  refine List.filter_congr ?_
  intro key _
  rw [Bool.eq_iff_iff, Bool.not_eq_true', decide_eq_true_iff, ← Bool.not_eq_true,
    List.contains_iff_mem, List.mem_map]
  exact Iff.rfl

/-- All templates together take out the keys that some template mentions. -/
theorem foldl_stillUnreferenced (unreferenced : List String) (templates : List SourceFile) :
    templates.foldl stillUnreferenced unreferenced
      = unreferenced.filter fun key => ∀ file ∈ templates, ¬ Mentions file key := by
  induction templates generalizing unreferenced with
  | nil => exact (List.filter_eq_self.mpr (by simp)).symm
  | cons file rest ih =>
      -- the rest starts with what the first template has left over
      rw [List.foldl_cons, ih, stillUnreferenced_eq, List.filter_filter]
      refine List.filter_congr ?_
      intro key _
      simp only [List.forall_mem_cons, Bool.decide_and, Bool.and_comm]

/-- The unused keys are the known keys that no template mentions. -/
theorem unusedKeys_eq (known : KnownKeys) (templates : List SourceFile) :
    unusedKeys known templates
      = known.keys.filter fun key => ∀ file ∈ templates, ¬ Mentions file key :=
  foldl_stillUnreferenced known.keys templates

/-- A key is unused if it is known and no template mentions it. -/
theorem mem_unusedKeys {key : String} :
    key ∈ unusedKeys known templates
      ↔ key ∈ known.keys ∧ ∀ file ∈ templates, ¬ Mentions file key := by
  rw [unusedKeys_eq, List.mem_filter, decide_eq_true_iff]

/-- The order of the templates does not matter for the unused keys. -/
theorem unusedKeys_of_perm {others : List SourceFile} (h : templates.Perm others) :
    unusedKeys known others = unusedKeys known templates := by
  rw [unusedKeys_eq, unusedKeys_eq]
  refine List.filter_congr ?_
  intro key _
  simp only [h.mem_iff]

/-- With more templates there are no other unused keys than before. -/
theorem unusedKeys_append_sublist (known : KnownKeys) (templates more : List SourceFile) :
    (unusedKeys known (templates ++ more)).Sublist (unusedKeys known templates) := by
  rw [unusedKeys, List.foldl_append, foldl_stillUnreferenced]
  exact List.filter_sublist

/-! ## The check of all templates -/

/-- The findings about all templates, file by file. -/
def templateFindings (options : Options) (known : KnownKeys) (templates : List SourceFile) :
    List Finding :=
  templates.flatMap (fileFindings options known)

/-- What the policy about unused keys is asked: about all of them at once if there are
    any, and nothing otherwise. -/
def policyCalls (known : KnownKeys) (templates : List SourceFile) : List (List String) :=
  if unusedKeys known templates = [] then [] else [unusedKeys known templates]

/-- The reporter after the findings about all templates. -/
theorem foldl_emitAll_fileFindings (options : Options) (known : KnownKeys)
    (templates : List SourceFile) (reporter : Reporter) :
    (templates.map (fileFindings options known)).foldl Reporter.emitAll reporter
      = reporter.emitAll (templateFindings options known templates) := by
  rw [List.foldl_map]
  exact Reporter.foldl_emitAll (fileFindings options known) templates reporter

/-- The check reports the findings file by file and asks the policy about the keys that
    are left over, if there are any. -/
theorem checkAll_eq (options : Options) (known : KnownKeys) (policy : UnusedKeyPolicy)
    (templates : List SourceFile) (reporter : Reporter) :
    checkAll options known policy templates reporter
      = let asked := (policyCalls known templates).foldl
          (fun asked unused => policy.apply asked.1 unused)
          (reporter.emitAll (templateFindings options known templates), false)
        (asked.1,
          { anyIssue := (templates.map (fileFindings options known)).any (!·.isEmpty)
              || !(unusedKeys known templates).isEmpty
            unusedKeys := unusedKeys known templates
            unusedFailure := asked.2 }) := by
  rw [checkAll, foldl_emitAll_fileFindings]
  by_cases h : unusedKeys known templates = []
  · simp only [policyCalls, h, List.isEmpty_nil, if_true, List.foldl_nil]
  · have hne : (unusedKeys known templates).isEmpty = false :=
      List.isEmpty_eq_false_iff.mpr h
    simp only [policyCalls, h, hne, if_false, Bool.false_eq_true, List.foldl_cons, List.foldl_nil]

/-- The record grows by the findings about the templates and those of the policy. -/
theorem findings_checkAll (policy : UnusedKeyPolicy) (reporter : Reporter) :
    (checkAll options known policy templates reporter).1.findings.toList
      = reporter.findings.toList ++ templateFindings options known templates
        ++ (policyCalls known templates).flatMap policy.findings := by
  rw [checkAll_eq, policyCalls]
  split
  · rw [List.flatMap_nil, List.append_nil]
    exact Reporter.findings_emitAll _ _
  · rw [List.flatMap_singleton, ← Reporter.findings_emitAll]
    exact UnusedKeyPolicy.findings_apply _ _ _

/-- The messages of the findings about the templates are handed on, then what the policy
    reports. -/
theorem sent_checkAll (policy : UnusedKeyPolicy) (reporter : Reporter) :
    (checkAll options known policy templates reporter).1.sent.toList
      = reporter.sent.toList ++ (templateFindings options known templates).map Finding.toMessage
        ++ (policyCalls known templates).flatMap fun unused =>
          (policy.findings unused).map Finding.toMessage ++ policy.rawMessages unused := by
  rw [checkAll_eq, policyCalls]
  split
  · rw [List.flatMap_nil, List.append_nil]
    exact Reporter.sent_emitAll _ _
  · rw [List.flatMap_singleton, ← Reporter.sent_emitAll, ← List.append_assoc]
    exact UnusedKeyPolicy.sent_apply _ _ _

/-- The policy has been asked about the unused keys, and about nothing else. -/
theorem asked_checkAll (policy : UnusedKeyPolicy) (reporter : Reporter) :
    (checkAll options known policy templates reporter).1.asked.toList
      = reporter.asked.toList ++ policyCalls known templates := by
  have hscanned := Reporter.asked_emitAll reporter (templateFindings options known templates)
  rw [checkAll_eq, policyCalls, ← hscanned]
  split
  · exact (List.append_nil _).symm
  · exact UnusedKeyPolicy.asked_apply _ _ _

/-- The check keeps the accounts of the reporter consistent; raw messages come from the
    policy alone. -/
theorem consistent_checkAll (options : Options) (policy : UnusedKeyPolicy)
    {reporter : Reporter} {before : Trace} (h : reporter.Consistent before [] []) :
    (checkAll options known policy templates reporter).1.Consistent before
      (policyCalls known templates) ((policyCalls known templates).flatMap policy.rawMessages) := by
  have hscanned := h.emitAll (templateFindings options known templates)
  rw [checkAll_eq, policyCalls]
  split
  · exact hscanned
  · rw [List.flatMap_singleton]
    exact UnusedKeyPolicy.consistent_apply _ _ hscanned

/-- The run has to fail on account of the unused keys if the policy was asked and says
    so. -/
theorem unusedFailure_checkAll (policy : UnusedKeyPolicy) (reporter : Reporter) :
    (checkAll options known policy templates reporter).2.unusedFailure
      = (policyCalls known templates).any policy.fails := by
  rw [checkAll_eq, policyCalls]
  split
  · rfl
  · rw [List.any_cons, List.any_nil, Bool.or_false]
    rfl

/-- There is an issue if some template has a finding or some key is unused. -/
theorem anyIssue_checkAll (policy : UnusedKeyPolicy) (reporter : Reporter) :
    (checkAll options known policy templates reporter).2.anyIssue = true
      ↔ (∃ file ∈ templates, fileFindings options known file ≠ [])
        ∨ unusedKeys known templates ≠ [] := by
  rw [checkAll_eq]
  simp only [Bool.or_eq_true, List.any_map, List.any_eq_true, Function.comp_apply,
    Bool.not_eq_true', List.isEmpty_eq_false_iff]

/-! ## Both sides of the comparison -/

/-- **Unknown and unused keys are exact over all templates.**  The unused keys are the
    known keys that no template mentions outside its comments, in the order in which they
    became known.  Every template is reported once for every reference to a key that is
    not known, in the order of the references and on their lines.  So no key is both.
    The order of the templates does not matter, and one more template can only take unused
    keys away.  The policy is asked about the unused keys once, or not at all if there are
    none, and there is an issue exactly if a template has a finding or a key is unused. -/
theorem keys_exact_over_all_templates (options : Options) (known : KnownKeys)
    (policy : UnusedKeyPolicy) (templates : List SourceFile) (reporter : Reporter) :
    let check := fun templates => checkAll options known policy templates reporter
    let unused := (check templates).2.unusedKeys
    let calls := if unused = [] then [] else [unused]
    let referencesOf := fun file : SourceFile => references (stripComments file.content.toList)
    -- the unused keys
    unused = known.keys.filter (fun key =>
        ∀ file ∈ templates, ∀ reference ∈ referencesOf file, reference.key ≠ key)
    -- the unknown keys, template by template
    ∧ (∀ file ∈ templates,
        (fileFindings options known file).filter (·.category = .unknownKey)
          = ((referencesOf file).filter (·.key ∉ known.keys)).map fun reference =>
            { category := .unknownKey
              severity := .error
              message := "An unknown i18n key is referenced in " ++ file.name
                ++ ". Key name: " ++ reference.key
              line := some reference.line
              file := some file.name })
    ∧ (∀ key ∈ unused, ∀ file ∈ templates, ∀ reference ∈ referencesOf file,
        reference.key ∉ known.keys → reference.key ≠ key)
    -- other templates
    ∧ (∀ others, templates.Perm others → (check others).2.unusedKeys = unused)
    ∧ (∀ file, (check (templates ++ [file])).2.unusedKeys.Sublist unused)
    -- what is reported, and the calls of the policy
    ∧ (check templates).1.findings.toList
        = reporter.findings.toList ++ templates.flatMap (fileFindings options known)
          ++ calls.flatMap policy.findings
    ∧ (check templates).1.sent.toList
        = reporter.sent.toList
          ++ (templates.flatMap (fileFindings options known)).map Finding.toMessage
          ++ calls.flatMap (fun unused =>
            (policy.findings unused).map Finding.toMessage ++ policy.rawMessages unused)
    ∧ (check templates).1.asked.toList = reporter.asked.toList ++ calls
    ∧ (check templates).2.unusedFailure = calls.any policy.fails
    ∧ ((check templates).2.anyIssue = true
        ↔ (∃ file ∈ templates, fileFindings options known file ≠ []) ∨ unused ≠ []) := by
  intro check unused calls referencesOf
  have hunused : ∀ files, (check files).2.unusedKeys = unusedKeys known files := by
    intro files
    show (checkAll options known policy files reporter).2.unusedKeys = _
    rw [checkAll_eq]
  have hcalls : calls = policyCalls known templates := by
    show (if (check templates).2.unusedKeys = [] then [] else [(check templates).2.unusedKeys]) = _
    rw [hunused templates, policyCalls]
  refine ⟨?_, ?_, ?_, ?_, ?_, ?_, ?_, ?_, ?_, ?_⟩
  · rw [show unused = unusedKeys known templates from hunused templates, unusedKeys_eq]
    refine List.filter_congr ?_
    intro key _
    simp only [Mentions, not_exists, not_and, referencesOf]
  · intro file _
    rw [filter_unknownKey_fileFindings, unknownFindings]
    simp only [KnownKeys.contains_eq_decide_mem, decide_not]
    rfl
  · -- an unused key is known, so a reference that is not known refers to another one
    intro key hkey file _ reference _ hunknown heq
    rw [show unused = unusedKeys known templates from hunused templates, mem_unusedKeys] at hkey
    exact hunknown (heq ▸ hkey.1)
  · intro others hperm
    rw [hunused others, show unused = unusedKeys known templates from hunused templates]
    exact unusedKeys_of_perm hperm
  · intro file
    rw [hunused (templates ++ [file]),
      show unused = unusedKeys known templates from hunused templates]
    exact unusedKeys_append_sublist known templates [file]
  · rw [hcalls]
    exact findings_checkAll policy reporter
  · rw [hcalls]
    exact sent_checkAll policy reporter
  · rw [hcalls]
    exact asked_checkAll policy reporter
  · rw [hcalls]
    exact unusedFailure_checkAll policy reporter
  · rw [show unused = unusedKeys known templates from hunused templates]
    exact anyIssue_checkAll policy reporter

/-- Two templates, of which the first mentions a key in a comment only and the second one
    a key that is not known: the check finds the same in either order. -/
theorem keys_exact_swapped :
    let known := KnownKeys.ofList ["A", "B", "C"]
    let first : SourceFile :=
      ⟨"a.html", "a.html", "<p translate=\"A\"></p><!-- \x7b\x7b 'B' | translate \x7d\x7d -->"⟩
    let second : SourceFile :=
      ⟨"b.html", "b.html", "\x7b\x7b 'C' | translate \x7d\x7d\n\x7b\x7b 'D' | translate \x7d\x7d"⟩
    [first, second].Perm [second, first]
    ∧ (checkAll {} known .warn [second, first] {}).2.unusedKeys = ["B"]
    ∧ (fileFindings {} known second).filter (·.category = .unknownKey)
      = [{  category := .unknownKey
            severity := .error
            message := "An unknown i18n key is referenced in b.html. Key name: D"
            line := some 2
            file := some "b.html" }] := by
  intro known first second
  obtain ⟨hunused, hunknown, -, hperm, -⟩ :=
    keys_exact_over_all_templates {} known .warn [first, second] {}
  have hswap : [first, second].Perm [second, first] := List.Perm.swap _ _ _
  refine ⟨hswap, ?_, ?_⟩
  · rw [hperm _ hswap, hunused]
    decide +kernel
  · rw [hunknown second (by simp)]
    decide +kernel

end CatalogLint.Template
