import CatalogLint.Proofs.FileTree
import CatalogLint.Proofs.Text.ByteOrder
import CatalogLint.Proofs.Text.Marks
import Mathlib.Data.List.TakeWhile

/-! # Paths below a directory

    A path below a directory is the directory, and the names that lead from it, between
    slashes.  Whatever the spelling of the directory, its components come first in those of the
    path, and the names follow them (`components_below`); a path that is followed leads through
    the directory to what the names lead to from there (`find?_below`).  So paths below one
    directory are in the order of the names (`sortKey_below_lt`).

    The extension of a name is what stands behind its last dot (`cutName_snd_eq_some_iff`). -/

namespace CatalogLint.Path

open Text

variable {base name extension : String} {names : List String}

/-! ## Segments -/

/-- The part of a path that holds its names: all but the slash of the root. -/
def body (path : List Char) : List Char :=
  if path.head? = some '/' then path.tail else path

/-- A path is split where its names are. -/
theorem segments_ofList (path : List Char) :
    segments (String.ofList path) = ((body path).splitOn '/').map String.ofList := by
  rw [segments, isAbsolute, String.toList_ofList, body]
  simp only [decide_eq_true_eq]

/-- What a path is continued with belongs to the part that holds the names. -/
theorem body_append {path : List Char} (h : path ≠ []) (rest : List Char) :
    body (path ++ rest) = body path ++ rest := by
  obtain ⟨c, others, rfl⟩ := List.exists_cons_of_ne_nil h
  rw [body, body, List.cons_append, List.head?_cons, List.head?_cons]
  split <;> rfl

/-- The segments on both sides of a slash. -/
theorem segments_append_slash {path : List Char} (h : path ≠ []) (rest : List Char) :
    segments (String.ofList (path ++ '/' :: rest))
      = segments (String.ofList path) ++ (rest.splitOn '/').map String.ofList := by
  rw [segments_ofList, segments_ofList, body_append h, List.splitOn_append_cons_self,
    List.map_append]

/-- Names with slashes between them. -/
theorem toList_intercalate_slash (names : List String) :
    ("/".intercalate names).toList = ['/'].intercalate (names.map String.toList) :=
  String.toList_intercalate

/-- Names with slashes between them are split into the names. -/
theorem map_splitOn_intercalate (hne : names ≠ []) (h : ∀ name ∈ names, IsEntryName name) :
    (("/".intercalate names).toList.splitOn '/').map String.ofList = names := by
  rw [toList_intercalate_slash, List.splitOn_intercalate, List.map_map]
  · exact (List.map_congr_left fun name _ => String.ofList_toList).trans (List.map_id names)
  · intro chars hmem
    obtain ⟨name, hname, rfl⟩ := List.mem_map.mp hmem
    exact (h name hname).slash_notMem
  · exact fun hnil => hne (List.map_eq_nil_iff.mp hnil)

/-! ## Below a directory -/

/-- The path that names lead to from a directory. -/
def below (base : String) (names : List String) : String :=
  join base ("/".intercalate names)

/-- A path that is continued keeps its root. -/
theorem isAbsolute_append {path : List Char} (h : path ≠ []) (rest : List Char) :
    isAbsolute (String.ofList (path ++ rest)) = isAbsolute (String.ofList path) := by
  obtain ⟨c, others, rfl⟩ := List.exists_cons_of_ne_nil h
  rw [isAbsolute, isAbsolute, String.toList_ofList, String.toList_ofList]
  rfl

/-- Names of entries with slashes between them are a relative path. -/
theorem isAbsolute_intercalate (hne : names ≠ []) (h : ∀ name ∈ names, IsEntryName name) :
    isAbsolute ("/".intercalate names) = false := by
  obtain ⟨name, rest, rfl⟩ := List.exists_cons_of_ne_nil hne
  have hname := h name List.mem_cons_self
  obtain ⟨c, chars, hchars⟩ := List.exists_cons_of_ne_nil
    (fun hnil => hname.ne_empty (String.toList_eq_nil_iff.mp hnil))
  have hslash : c ≠ '/' := by
    rintro rfl
    exact hname.slash_notMem (hchars ▸ List.mem_cons_self)
  have hhead : ("/".intercalate (name :: rest)).toList.head? = some c := by
    rw [toList_intercalate_slash, List.map_cons, hchars]
    cases rest with
    | nil => rfl
    | cons second rest => rfl
  rw [isAbsolute, hhead, decide_eq_false_iff_not, Option.some.injEq]
  exact hslash

/-- The path below a directory, with one slash between them. -/
theorem below_eq (hne : names ≠ []) (h : ∀ name ∈ names, IsEntryName name) :
    below base names
      = String.ofList
        ((if base.isEmpty || base.toList.getLast? = some '/' then base.toList
          else base.toList ++ ['/']) ++ ("/".intercalate names).toList) := by
  rw [below, join, isAbsolute_intercalate hne h, if_neg Bool.false_ne_true]
  split
  · rw [String.ofList_append, String.ofList_toList, String.ofList_toList]
  · rw [String.ofList_append, String.ofList_append, String.ofList_toList, String.ofList_toList]

/-- A path below a directory is not empty. -/
theorem below_ne_empty (hne : names ≠ []) (h : ∀ name ∈ names, IsEntryName name) :
    below base names ≠ "" := by
  intro hempty
  have hnil := congrArg String.toList hempty
  rw [below_eq hne h, String.toList_ofList, String.toList_empty, List.append_eq_nil_iff] at hnil
  have hnames := map_splitOn_intercalate hne h
  rw [hnil.2] at hnames
  exact (h "" (hnames ▸ List.mem_cons_self)).ne_empty rfl

/-- The names below a directory follow the segments of the directory, but for an empty one that
    a slash at its end leaves behind. -/
theorem exists_segments_below (hbase : base ≠ "") (hne : names ≠ [])
    (h : ∀ name ∈ names, IsEntryName name) :
    ∃ before, (segments base = before ∨ segments base = before ++ [""])
      ∧ segments (below base names) = before ++ names
      ∧ isAbsolute (below base names) = isAbsolute base := by
  have hnil : base.toList ≠ [] := fun hnil => hbase (String.toList_eq_nil_iff.mp hnil)
  have hself : String.ofList base.toList = base := String.ofList_toList
  have hsplit := map_splitOn_intercalate hne h
  rw [below_eq hne h]
  by_cases hslash : base.toList.getLast? = some '/'
  · -- no slash is added: the one at the end has left an empty segment, which goes
    obtain ⟨start, hstart⟩ := List.getLast?_eq_some_iff.mp hslash
    rw [if_pos (by rw [hslash, decide_eq_true rfl, Bool.or_true]), ← hself, String.toList_ofList,
      hstart, List.append_assoc, List.singleton_append]
    by_cases hroot : start = []
    · -- that slash is the root itself, which stands before the segments
      refine ⟨[], Or.inr ?_, ?_, ?_⟩ <;> rw [hroot]
      · rfl
      · rw [List.nil_append, segments_ofList]
        exact hsplit
      · exact isAbsolute_append (List.cons_ne_nil '/' []) _
    · refine ⟨segments (String.ofList start), Or.inr ?_, ?_, ?_⟩
      · exact segments_append_slash hroot []
      · rw [segments_append_slash hroot, hsplit]
      · rw [isAbsolute_append hroot, isAbsolute_append hroot]
  · have hempty : base.isEmpty = false := by
      rw [← Bool.not_eq_true, String.isEmpty_iff]
      exact hbase
    rw [hempty, if_neg (by rw [Bool.false_or, decide_eq_true_iff]; exact hslash),
      List.append_assoc, List.singleton_append]
    refine ⟨segments base, Or.inl rfl, ?_, ?_⟩
    · rw [segments_append_slash hnil, hself, hsplit]
    · rw [isAbsolute_append hnil, hself]

/-! ### Components -/

/-- The components of a relative path that does not begin with a dot. -/
theorem componentsOf_relative {segments : List String} (h : segments.head? ≠ some ".") :
    componentsOf false segments = (segments.filter counts).map componentOf := by
  rw [componentsOf, if_neg Bool.false_ne_true]
  rintro rest rfl
  exact h rfl

/-- The components of more segments behind others follow theirs. -/
theorem componentsOf_append (absolute : Bool) (before : List String) {more : List String}
    (h : "." ∉ more) :
    componentsOf absolute (before ++ more)
      = componentsOf absolute before ++ (more.filter counts).map componentOf := by
  cases absolute with
  | true =>
      simp only [componentsOf, if_true, List.filter_append, List.map_append, List.cons_append]
  | false =>
      cases before with
      | nil =>
          refine componentsOf_relative fun hhead => h ?_
          exact List.mem_of_mem_head? hhead
      | cons first rest =>
          by_cases hfirst : first = "."
          · rw [hfirst]
            show Component.current :: ((rest ++ more).filter counts).map componentOf = _
            rw [List.filter_append, List.map_append]
            rfl
          · have hhead : ∀ others, (first :: others).head? ≠ some "." :=
              fun others heq => hfirst (Option.some.inj heq)
            rw [List.cons_append, componentsOf_relative (hhead _), componentsOf_relative (hhead _),
              ← List.cons_append, List.filter_append, List.map_append]

/-- The names of entries are components as they stand. -/
theorem map_componentOf_names (h : ∀ name ∈ names, IsEntryName name) :
    (names.filter counts).map componentOf = names.map Component.name := by
  rw [List.filter_eq_self.mpr fun name hname => (h name hname).counts]
  refine List.map_congr_left fun name hname => ?_
  rw [componentOf, if_neg (h name hname).ne_dots]

/-- **The components below a directory** are those of the directory and then the names. -/
theorem components_below (hbase : base ≠ "") (hne : names ≠ [])
    (h : ∀ name ∈ names, IsEntryName name) :
    components (below base names) = components base ++ names.map Component.name := by
  obtain ⟨before, hbefore, hsegments, habsolute⟩ := exists_segments_below hbase hne h
  have hdot : "." ∉ names := fun hmem => (h "." hmem).ne_dot rfl
  have hsame : componentsOf (isAbsolute base) (segments base)
      = componentsOf (isAbsolute base) before := by
    rcases hbefore with hbefore | hbefore
    · rw [hbefore]
    · rw [hbefore, componentsOf_append _ _ (by decide)]
      exact List.append_nil _
  rw [components, components, hsegments, habsolute, hsame, componentsOf_append _ _ hdot,
    map_componentOf_names h]

/-! ### The order of paths -/

/-- What components are ordered by: the root comes before the directory itself, that before
    the one above, and names come last, in the order of their bytes. -/
def Component.sortKey : Component → List UInt8
  | .root => [0]
  | .current => [1]
  | .parent => [2]
  | .name text => 3 :: utf8Bytes text

/-- What paths are ordered by: component after component. -/
def sortKey (path : String) : List (List UInt8) :=
  (components path).map Component.sortKey

/-- Paths below a directory are in the order of the names that lead to them. -/
theorem sortKey_below_lt (hbase : base ≠ "") {first second : List String}
    (hfirst : first ≠ [] ∧ ∀ name ∈ first, IsEntryName name)
    (hsecond : second ≠ [] ∧ ∀ name ∈ second, IsEntryName name) (h : first < second) :
    sortKey (below base first) < sortKey (below base second) := by
  rw [sortKey, sortKey, components_below hbase hfirst.1 hfirst.2,
    components_below hbase hsecond.1 hsecond.2, List.map_append, List.map_append, List.map_map,
    List.map_map]
  refine List.append_left_lt (List.map_lt (fun name other hlt => ?_) h)
  exact List.cons_lt_cons_iff.mpr (Or.inr ⟨rfl, utf8Bytes_lt hlt⟩)

/-! ### What paths below a directory lead to -/

variable {files : FileSystem} {tree found : FileTree}

/-- A step that stays where it is goes from a place to itself. -/
theorem eq_of_step_empty {place next : FileSystem.Place} (h : files.step place "" = .ok next) :
    next = place := by
  rw [FileSystem.step] at h
  split at h
  · cases h
  · cases h
  · cases h
  · exact (Except.ok.inj h).symm

/-- An empty segment at the end of a path does not lead on. -/
theorem foldlM_step_of_append_empty {before : List String} {start place : FileSystem.Place}
    (h : (before ++ [""]).foldlM files.step start = .ok place) :
    before.foldlM files.step start = .ok place := by
  rw [List.foldlM_append] at h
  cases hbefore : before.foldlM files.step start with
  | error error =>
      rw [hbefore] at h
      exact nomatch h
  | ok last =>
      rw [hbefore] at h
      have hstep : files.step last "" = .ok place := by
        have hlast : [""].foldlM files.step last = .ok place := h
        simpa only [List.foldlM_cons, List.foldlM_nil, bind_pure] using hlast
      rw [eq_of_step_empty hstep]

/-- A path that leads somewhere is followed to a place. -/
theorem find?_eq_some_iff :
    files.find? base = some tree
      ↔ base ≠ "" ∧ ∃ place,
        (segments base).foldlM files.step (files.start (isAbsolute base)) = .ok place
          ∧ files.at? place = some tree := by
  rw [FileSystem.find?, FileSystem.locate]
  by_cases hbase : base = ""
  · rw [hbase]
    exact iff_of_false nofun fun h => h.1 rfl
  · rw [if_neg (by rw [String.isEmpty_iff]; exact hbase)]
    split
    · rename_i place hplace
      rw [hplace]
      simp [hbase]
    · rename_i error herror
      rw [herror]
      simp

/-- **A path below a directory leads to what the names lead to** in the tree of the
    directory. -/
theorem find?_below (hbase : files.find? base = some tree) (hne : names ≠ [])
    (h : ∀ name ∈ names, IsEntryName name) (hfound : tree.descend? names = some found) :
    files.find? (below base names) = some found := by
  obtain ⟨hdir, place, hplace, hat⟩ := find?_eq_some_iff.mp hbase
  obtain ⟨before, hbefore, hsegments, habsolute⟩ := exists_segments_below hdir hne h
  have hstart : before.foldlM files.step (files.start (isAbsolute base)) = .ok place := by
    rcases hbefore with hbefore | hbefore
    · rw [← hbefore]
      exact hplace
    · rw [hbefore] at hplace
      exact foldlM_step_of_append_empty hplace
  refine find?_eq_some_iff.mpr ⟨?_, names.reverse ++ place, ?_, ?_⟩
  · exact below_ne_empty hne h
  · rw [hsegments, habsolute, List.foldlM_append, hstart]
    exact FileSystem.foldlM_step_of_descend? hat h hfound
  · rw [FileSystem.at?_append hat, hfound]

/-! ## Extensions -/

/-- The extension stands behind the last dot of the name, and there is something before that
    dot. -/
def IsExtension (name extension : String) : Prop :=
  '.' ∉ extension.toList
    ∧ ∃ start, start ≠ [] ∧ name.toList = start ++ '.' :: extension.toList

/-- What a name with a dot is cut into, by its last one. -/
theorem cutName_snd_of_dot {start text : List Char} (hdot : '.' ∉ text)
    (h : name.toList = start ++ '.' :: text) :
    (cutName name).2 = if start = [] then none else some (String.ofList text) := by
  have hchars : name.toList.reverse = text.reverse ++ '.' :: start.reverse := by
    rw [h, List.reverse_append, List.reverse_cons, List.append_assoc, List.singleton_append]
  have htail : name.toList.reverse.takeWhile (· != '.') = text.reverse := by
    rw [hchars]
    exact takeWhile_append_stop (fun hmem => hdot (List.mem_reverse.mp hmem)) _
  rw [cutName, htail, hchars, List.drop_left]
  by_cases hstart : start = []
  · rw [if_pos hstart, hstart]
    rfl
  · simp only [List.isEmpty_reverse, List.isEmpty_iff, hstart, if_false, List.reverse_reverse]

/-- A name without a dot is not cut. -/
theorem cutName_snd_of_notMem (hdot : '.' ∉ name.toList) : (cutName name).2 = none := by
  have hall : name.toList.reverse.takeWhile (· != '.') = name.toList.reverse := by
    rw [List.takeWhile_eq_self_iff]
    intro c hc
    rw [bne_iff_ne]
    rintro rfl
    exact hdot (List.mem_reverse.mp hc)
  rw [cutName, hall, List.drop_length]

/-- A name is cut at its last dot: what stands behind it is the extension. -/
theorem cutName_snd_eq_some_iff :
    (cutName name).2 = some extension ↔ IsExtension name extension := by
  constructor
  · intro h
    by_cases hdot : '.' ∈ name.toList.reverse
    · obtain ⟨text, start, hchars, htext⟩ := List.eq_append_cons_of_mem hdot
      have hname : name.toList = start.reverse ++ '.' :: text.reverse := by
        rw [← List.reverse_reverse name.toList, hchars, List.reverse_append, List.reverse_cons,
          List.append_assoc, List.singleton_append]
      have hlast : '.' ∉ text.reverse := fun hmem => htext (List.mem_reverse.mp hmem)
      rw [cutName_snd_of_dot hlast hname] at h
      split at h
      · exact nomatch h
      · rename_i hstart
        rw [← Option.some.inj h, IsExtension, String.toList_ofList]
        exact ⟨hlast, start.reverse, hstart, hname⟩
    · rw [cutName_snd_of_notMem fun hmem => hdot (List.mem_reverse.mpr hmem)] at h
      exact nomatch h
  · rintro ⟨hdot, start, hstart, hname⟩
    rw [cutName_snd_of_dot hdot hname, if_neg hstart, String.ofList_toList]

end CatalogLint.Path
