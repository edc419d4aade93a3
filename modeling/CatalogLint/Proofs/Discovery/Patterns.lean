import CatalogLint.Discovery
import CatalogLint.Proofs.Text.Marks
import Mathlib.Data.List.DropRight

/-! # The directory of a pattern

    What is searched is the part of a pattern before its first two stars, or all of it if it
    has none, without the slashes at its end.  A part that is not empty begins like the pattern
    (`isAbsolute_of_trimSlashes_ne_nil`), so the directory is absolute exactly if the pattern
    is.  A part of slashes alone is the root of the file system if there are no stars behind
    it, but the working directory if there are (`parse_of_starsAtRoot`): these are the patterns
    that lose their root, and there are no others
    (`patterns_keep_their_root_unless_stars_follow`). -/

namespace CatalogLint.DirPattern

open Text

variable {pattern : String} {text start rest : List Char}

/-! ## Slashes at the end -/

/-- Nothing is left of slashes, and of nothing else. -/
theorem trimSlashes_eq_nil_iff : trimSlashes text = [] ↔ ∀ c ∈ text, c = '/' := by
  show text.rdropWhile (· == '/') = [] ↔ _
  rw [List.rdropWhile_eq_nil_iff]
  simp only [beq_iff_eq]

/-- What is left of the beginning of a pattern begins like the pattern, if anything is. -/
theorem isAbsolute_of_trimSlashes_ne_nil (hpattern : pattern.toList = start ++ rest)
    (h : trimSlashes start ≠ []) :
    Path.isAbsolute (String.ofList (trimSlashes start)) = Path.isAbsolute pattern := by
  have hprefix : trimSlashes start <+: pattern.toList := by
    rw [hpattern]
    exact (List.rdropWhile_prefix (· == '/') start).trans (List.prefix_append start rest)
  obtain ⟨c, kept, hkept⟩ := List.exists_cons_of_ne_nil h
  obtain ⟨others, hothers⟩ := hprefix
  rw [Path.isAbsolute, Path.isAbsolute, String.toList_ofList, ← hothers, hkept]
  rfl

/-- The directory of a pattern with stars is what stands before them. -/
theorem parse_of_stars (h : splitOnce ['*', '*'] pattern.toList = some (start, rest)) :
    parse pattern
      = ⟨if trimSlashes start = [] then "." else String.ofList (trimSlashes start), true⟩ := by
  rw [parse, h]
  simp only [List.isEmpty_iff]

/-- The directory of a pattern without stars is all of it. -/
theorem parse_of_no_stars (h : splitOnce ['*', '*'] pattern.toList = none) :
    parse pattern
      = ⟨if trimSlashes pattern.toList = [] then "/"
          else String.ofList (trimSlashes pattern.toList), false⟩ := by
  rw [parse, h]
  simp only [List.isEmpty_iff]

/-! ## Stars behind the root -/

/-- The pattern is absolute, and its first two stars stand right behind the slashes that it
    begins with. -/
def StarsAtRoot (pattern : String) : Prop :=
  Path.isAbsolute pattern = true ∧ ['*', '*'] <+: pattern.toList.dropWhile (· == '/')

instance (pattern : String) : Decidable (StarsAtRoot pattern) :=
  inferInstanceAs (Decidable (_ ∧ _))

/-- Stars that stand right behind slashes are the first of the pattern. -/
theorem splitOnce_stars (h : ∀ c ∈ start, c = '/') (rest : List Char) :
    splitOnce ['*', '*'] (start ++ (['*', '*'] ++ rest)) = some (start, rest) := by
  refine splitOnce_append_of_dropLast (List.cons_ne_nil _ _) ?_ rest
  have hstar : '*' ∉ start := fun hmem => absurd (h '*' hmem) (by decide)
  rw [infix_append_iff hstar]
  decide

/-- A pattern with stars behind the root stands for the working directory. -/
theorem parse_of_starsAtRoot (h : StarsAtRoot pattern) : parse pattern = ⟨".", true⟩ := by
  obtain ⟨-, rest, hrest⟩ := h
  have hslashes : ∀ c ∈ pattern.toList.takeWhile (· == '/'), c = '/' := by
    intro c hc
    exact beq_iff_eq.mp (@List.mem_takeWhile_imp Char (· == '/') _ _ hc)
  have hsplit := splitOnce_stars hslashes rest
  rw [hrest, List.takeWhile_append_dropWhile] at hsplit
  rw [parse_of_stars hsplit, if_pos (trimSlashes_eq_nil_iff.mpr hslashes)]

/-! ## Roots -/

/-- A pattern with stars that are not right behind its root keeps it. -/
theorem isAbsolute_parse_of_stars
    (hsplit : splitOnce ['*', '*'] pattern.toList = some (start, rest))
    (hstars : ¬ StarsAtRoot pattern) :
    Path.isAbsolute (parse pattern).base = Path.isAbsolute pattern := by
  obtain ⟨hpattern, -⟩ := of_splitOnce_eq_some (List.cons_ne_nil _ _) hsplit
  rw [parse_of_stars hsplit]
  by_cases hnil : trimSlashes start = []
  · -- only slashes before the stars: none at all, since the root would be lost
    have hslashes := trimSlashes_eq_nil_iff.mp hnil
    have hrest : pattern.toList.dropWhile (· == '/') = ['*', '*'] ++ rest := by
      rw [hpattern, List.dropWhile_append_of_pos fun c hc => beq_iff_eq.mpr (hslashes c hc)]
      rfl
    have hrelative : Path.isAbsolute pattern = false := by
      rw [← Bool.not_eq_true]
      exact fun hroot => hstars ⟨hroot, rest, hrest.symm⟩
    rw [if_pos hnil, hrelative]
    rfl
  · rw [if_neg hnil]
    exact isAbsolute_of_trimSlashes_ne_nil hpattern hnil

/-- A pattern without stars keeps its root. -/
theorem isAbsolute_parse_of_no_stars (hsplit : splitOnce ['*', '*'] pattern.toList = none)
    (hne : pattern ≠ "") : Path.isAbsolute (parse pattern).base = Path.isAbsolute pattern := by
  rw [parse_of_no_stars hsplit]
  by_cases hnil : trimSlashes pattern.toList = []
  · -- nothing but slashes, and at least one of them
    obtain ⟨c, others, hcons⟩ := List.exists_cons_of_ne_nil
      (fun hempty => hne (String.toList_eq_nil_iff.mp hempty))
    have hc : c = '/' := trimSlashes_eq_nil_iff.mp hnil c (hcons ▸ List.mem_cons_self)
    have hroot : Path.isAbsolute pattern = true := by
      rw [Path.isAbsolute, hcons, hc]
      rfl
    rw [if_pos hnil, hroot]
    rfl
  · rw [if_neg hnil]
    exact isAbsolute_of_trimSlashes_ne_nil (List.append_nil _).symm hnil

/-- **The directory of a pattern is absolute exactly if the pattern is**, in both forms,
    whatever slashes and stars there are, unless the stars stand right behind the root.  A
    pattern with stars behind the root loses it: it stands for the working directory and the
    directories below that. -/
theorem patterns_keep_their_root_unless_stars_follow (hne : pattern ≠ "") :
    (¬ StarsAtRoot pattern →
      (Path.isAbsolute (parse pattern).base = true ↔ pattern.toList.head? = some '/'))
    ∧ (StarsAtRoot pattern → parse pattern = ⟨".", true⟩) := by
  refine ⟨fun hstars => ?_, parse_of_starsAtRoot⟩
  have hsame : Path.isAbsolute (parse pattern).base = Path.isAbsolute pattern := by
    cases hsplit : splitOnce ['*', '*'] pattern.toList with
    | some sides => exact isAbsolute_parse_of_stars hsplit hstars
    | none => exact isAbsolute_parse_of_no_stars hsplit hne
  rw [hsame]
  exact decide_eq_true_iff

/-- Two slashes, a directory and stars: the root stays. -/
theorem stars_behind_a_directory_keep_the_root :
    "//srv/**/i18n/" ≠ "" ∧ ¬ StarsAtRoot "//srv/**/i18n/"
    ∧ parse "//srv/**/i18n/" = ⟨"//srv", true⟩
    ∧ Path.isAbsolute (parse "//srv/**/i18n/").base = true := by
  have hstars : ¬ StarsAtRoot "//srv/**/i18n/" := by decide +kernel
  have hne : "//srv/**/i18n/" ≠ "" := by decide
  have hroot := (patterns_keep_their_root_unless_stars_follow hne).1 hstars
  exact ⟨hne, hstars, by decide +kernel, hroot.mpr (by decide)⟩

/-- Stars behind the root itself: the pattern begins with a slash, and what is searched is the
    working directory. -/
theorem stars_at_the_root_lose_it :
    "/**".toList.head? = some '/' ∧ parse "/**" = ⟨".", true⟩
    ∧ Path.isAbsolute (parse "/**").base = false := by
  decide +kernel

end CatalogLint.DirPattern
