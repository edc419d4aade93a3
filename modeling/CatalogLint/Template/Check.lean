import CatalogLint.Discovery
import CatalogLint.KnownKeys
import CatalogLint.Options
import CatalogLint.Reporter
import CatalogLint.Template.Comment
import CatalogLint.Template.Literal
import CatalogLint.Template.Reference

/-! # The checks of templates

    A template is checked once its comments are gone: mixed syntax, references to keys
    that are not known, operands that are not quoted, and, if asked for, literal text.
    The keys that no template refers to are left over at the end. -/

namespace CatalogLint.Template

/-- The text of a template that the checks look at. -/
def visibleText (file : SourceFile) : List Char :=
  stripComments file.content.toList

/-- The keys that a template refers to outside its comments. -/
def referencesOf (file : SourceFile) : List Reference :=
  references (visibleText file)

/-- The finding about a reference to a key that is not known. -/
def unknownFinding (name : String) (reference : Reference) : Finding :=
  ((Finding.error .unknownKey
    ("An unknown i18n key is referenced in " ++ name ++ ". Key name: "
      ++ reference.key)).atLine reference.line).inFile name

/-- The findings about references to keys that are not known. -/
def unknownFindings (known : KnownKeys) (file : SourceFile) : List Finding :=
  ((referencesOf file).filter (!known.contains ·.key)).map (unknownFinding file.name)

/-- The findings about one template. -/
def fileFindings (options : Options) (known : KnownKeys) (file : SourceFile) : List Finding :=
  let text := visibleText file
  mixedFindings file.name text
    ++ unknownFindings known file
    ++ malformedFindings file.name text
    ++ (if options.checkTemplates then literalFindings options.exclusions file.name text else [])

/-- The keys that a template does not refer to, of those that no earlier one did. -/
def stillUnreferenced (unreferenced : List String) (file : SourceFile) : List String :=
  let used := (referencesOf file).map (·.key)
  unreferenced.filter (!used.contains ·)

/-- The known keys that no template refers to, in their order. -/
def unusedKeys (known : KnownKeys) (templates : List SourceFile) : List String :=
  templates.foldl stillUnreferenced known.keys

/-- What the check of all templates comes to. -/
structure Outcome where
  /-- There was a finding in some template, or some key is not used. -/
  anyIssue : Bool
  unusedKeys : List String
  /-- The policy about unused keys makes the run fail. -/
  unusedFailure : Bool
  deriving DecidableEq, Repr

/-- Checks all templates, reporting file by file, and then applies the policy to the
    keys that are not used, if there are any. -/
def checkAll (options : Options) (known : KnownKeys) (policy : UnusedKeyPolicy)
    (templates : List SourceFile) (reporter : Reporter) : Reporter × Outcome :=
  let found := templates.map (fileFindings options known)
  let reporter := found.foldl Reporter.emitAll reporter
  let unused := unusedKeys known templates
  let (reporter, failed) :=
    if unused.isEmpty then (reporter, false) else policy.apply reporter unused
  (reporter, ⟨found.any (!·.isEmpty) || !unused.isEmpty, unused, failed⟩)

end CatalogLint.Template
