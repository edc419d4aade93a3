import CatalogLint.Proofs.Discovery.Patterns
import CatalogLint.Run
import Mathlib.Data.List.Infix

/-! # The normal form of options

    Options pass through their normal form more than once on the way to a run: when they are
    read, when a run begins, and when it looks at the files it has found.  `Normal` says what
    the form is.  The normal form of any options has it (`normal_normalized`), and options
    that have it are their own normal form (`normalized_eq_self_iff`), so it does not matter
    how often the options pass through it.

    What is searched stays the same: a slash that is put behind a pattern is taken off again
    when the pattern is read, and it cannot make two stars out of one
    (`parse_append_slash`). -/

namespace CatalogLint

open Text

/-! ## Patterns of directories -/

namespace DirPattern

/-- A slash at the end of a text goes with the others. -/
theorem trimSlashes_append_slash (text : List Char) :
    trimSlashes (text ++ ['/']) = trimSlashes text := by
  show (text ++ ['/']).rdropWhile (· == '/') = text.rdropWhile (· == '/')
  exact List.rdropWhile_concat_pos _ _ _ rfl

/-- A slash at the end makes no stars. -/
theorem stars_infix_append_slash_iff {text : List Char} :
    ['*', '*'] <:+: text ++ ['/'] ↔ ['*', '*'] <:+: text := by
  rw [List.infix_concat_iff]
  refine or_iff_right fun hsuffix => ?_
  obtain ⟨front, hfront⟩ := hsuffix
  have hlast : '*' = '/' := by
    have hends := congrArg List.getLast? hfront
    rw [List.getLast?_append, List.getLast?_append] at hends
    exact Option.some.inj hends
  exact absurd hlast (by decide)

/-- **A slash behind a pattern does not change what it stands for**, unless it is all of the
    pattern. -/
theorem parse_append_slash (pattern : String) : parse (pattern ++ "/") = parse pattern := by
  have hwritten : (pattern ++ "/").toList = pattern.toList ++ ['/'] := String.toList_append
  cases hsplit : splitOnce ['*', '*'] pattern.toList with
  | some sides =>
      have hlonger := splitOnce_append_right (List.cons_ne_nil _ _) hsplit ['/']
      rw [← hwritten] at hlonger
      rw [parse_of_stars hsplit, parse_of_stars hlonger]
  | none =>
      have hlonger : splitOnce ['*', '*'] (pattern ++ "/").toList = none := by
        rw [hwritten]
        rw [splitOnce_eq_none_iff (List.cons_ne_nil _ _)] at hsplit ⊢
        rwa [stars_infix_append_slash_iff]
      rw [parse_of_no_stars hsplit, parse_of_no_stars hlonger, hwritten,
        trimSlashes_append_slash]

end DirPattern

namespace Options

/-! ## Directories and extensions -/

variable {standard dir extension : String}

/-- A directory pattern in normal form ends with a slash. -/
theorem getLast?_normalDir (standard dir : String) :
    (normalDir standard dir).toList.getLast? = some '/' := by
  rw [normalDir]
  generalize (if dir.isEmpty then standard else dir) = filled
  split
  · assumption
  · rw [String.toList_append, List.getLast?_append]
    rfl

/-- A directory pattern that ends with a slash is in normal form. -/
theorem normalDir_of_slash (h : dir.toList.getLast? = some '/') : normalDir standard dir = dir := by
  have hne : dir.isEmpty = false := by
    rw [Bool.eq_false_iff]
    intro hempty
    rw [String.isEmpty_iff.mp hempty] at h
    exact nomatch h
  rw [normalDir, hne]
  exact if_pos h

/-- The normal form of a pattern that is not empty stands for the same directory. -/
theorem parse_normalDir (hne : dir ≠ "") (standard : String) :
    DirPattern.parse (normalDir standard dir) = DirPattern.parse dir := by
  have hfilled : (if dir.isEmpty then standard else dir) = dir :=
    if_neg fun hempty => hne (String.isEmpty_iff.mp hempty)
  rw [normalDir, hfilled]
  split
  · rfl
  · exact DirPattern.parse_append_slash dir

/-- An extension in normal form does not begin with a dot. -/
theorem head?_normalExtension (extension : String) :
    (normalExtension extension).toList.head? ≠ some '.' := by
  rw [normalExtension, String.toList_ofList]
  intro hdot
  have hnot := List.head?_dropWhile_not (· == '.') extension.toList
  rw [hdot] at hnot
  exact Bool.noConfusion hnot

/-- An extension that does not begin with a dot is in normal form. -/
theorem normalExtension_of_no_dot (h : extension.toList.head? ≠ some '.') :
    normalExtension extension = extension := by
  have hkept : extension.toList.dropWhile (· == '.') = extension.toList := by
    cases hchars : extension.toList with
    | nil => rfl
    | cons c rest =>
        rw [hchars] at h
        exact List.dropWhile_cons_of_neg fun hc => h (congrArg some (beq_iff_eq.mp hc))
  rw [normalExtension, hkept, String.ofList_toList]

/-! ## Normal options -/

/-- The form that a run uses: directory patterns end with a slash, the indent is not empty, and
    no extension begins with a dot. -/
structure Normal (options : Options) : Prop where
  catalogDir : options.catalogDir.toList.getLast? = some '/'
  templateDir : options.templateDir.toList.getLast? = some '/'
  indentUnit : options.indentUnit ≠ ""
  catalogExtension : options.catalogExtension.toList.head? ≠ some '.'
  templateExtensions : ∀ extension ∈ options.templateExtensions,
    extension.toList.head? ≠ some '.'

variable {options : Options}

/-- The normal form of options is normal. -/
theorem normal_normalized (options : Options) : options.normalized.Normal where
  catalogDir := getLast?_normalDir _ _
  templateDir := getLast?_normalDir _ _
  indentUnit := by
    show (if options.indentUnit.isEmpty then "\t" else options.indentUnit) ≠ ""
    split
    · decide
    · rename_i hne
      exact fun hempty => hne (String.isEmpty_iff.mpr hempty)
  catalogExtension := head?_normalExtension _
  templateExtensions := by
    intro extension hmem
    obtain ⟨given, -, rfl⟩ := List.mem_map.mp hmem
    exact head?_normalExtension given

/-- Normal options are as a run uses them. -/
theorem Normal.normalized_eq (h : options.Normal) : options.normalized = options := by
  have hindent : (if options.indentUnit.isEmpty then "\t" else options.indentUnit)
      = options.indentUnit := if_neg fun hempty => h.indentUnit (String.isEmpty_iff.mp hempty)
  have hextensions : options.templateExtensions.map normalExtension
      = options.templateExtensions := by
    refine (List.map_congr_left fun extension hmem => ?_).trans (List.map_id _)
    exact normalExtension_of_no_dot (h.templateExtensions extension hmem)
  rw [normalized, normalDir_of_slash h.catalogDir, normalDir_of_slash h.templateDir, hindent,
    normalExtension_of_no_dot h.catalogExtension, hextensions]

/-- **Options are their own normal form exactly if they are normal.** -/
theorem normalized_eq_self_iff : options.normalized = options ↔ options.Normal := by
  constructor
  · intro h
    rw [← h]
    exact normal_normalized options
  · exact Normal.normalized_eq

/-- Bringing options into their normal form twice is doing it once. -/
theorem normalized_normalized (options : Options) :
    options.normalized.normalized = options.normalized :=
  (normal_normalized options).normalized_eq

/-- A run does not tell options from their normal form. -/
theorem run_normalized (options : Options) (read? : PatternReader) (policy : UnusedKeyPolicy)
    (files : FileSystem) :
    run read? options.normalized policy files = run read? options policy files := by
  unfold run execute
  rw [normalized_normalized]

/-- **The normal form is stable and does not change what is searched.**  Options in normal form
    stay as they are, and only the directories, the indent and the extensions are touched at
    all.  A directory that is given stands for what it stood for before, whatever slashes and
    stars it has.  So a run on options comes to the same as a run on their normal form. -/
theorem normal_form_is_stable_and_searches_the_same (options : Options) :
    options.normalized.normalized = options.normalized
    ∧ { options.normalized with
        catalogDir := options.catalogDir
        templateDir := options.templateDir
        indentUnit := options.indentUnit
        catalogExtension := options.catalogExtension
        templateExtensions := options.templateExtensions } = options
    ∧ (options.catalogDir ≠ "" →
        DirPattern.parse options.normalized.catalogDir = DirPattern.parse options.catalogDir)
    ∧ (options.templateDir ≠ "" →
        DirPattern.parse options.normalized.templateDir = DirPattern.parse options.templateDir)
    ∧ ∀ read? policy files,
        run read? options.normalized policy files = run read? options policy files :=
  ⟨normalized_normalized options, rfl, fun hne => parse_normalDir hne _,
    fun hne => parse_normalDir hne _, run_normalized options⟩

/-- Catalogs in the root, templates behind a star too many, and an extension with two dots: the
    directories stand for what they stood for, and the extension is the same the second time. -/
theorem normal_form_of_slashes_and_stars :
    let options : Options :=
      { catalogDir := "//", templateDir := "src//***.d", catalogExtension := "..json" }
    options.catalogDir ≠ "" ∧ options.templateDir ≠ ""
      ∧ options.normalized.templateDir = "src//***.d/"
      ∧ options.normalized.normalized.catalogExtension = "json"
      ∧ DirPattern.parse options.normalized.catalogDir = ⟨"/", false⟩
      ∧ DirPattern.parse options.normalized.templateDir = ⟨"src", true⟩ := by
  intro options
  have hcatalog : options.catalogDir ≠ "" := by decide
  have htemplate : options.templateDir ≠ "" := by decide
  obtain ⟨hagain, -, hcatalogs, htemplates, -⟩ :=
    normal_form_is_stable_and_searches_the_same options
  refine ⟨hcatalog, htemplate, by decide +kernel, ?_, ?_, ?_⟩
  · rw [hagain]
    decide +kernel
  · rw [hcatalogs hcatalog]
    decide +kernel
  · rw [htemplates htemplate]
    decide +kernel

end Options

end CatalogLint
