import CatalogLint.Proofs.Markup.Written
import Mathlib.Data.List.Induction

/-! # The balance of tags

    The check of balance takes out the first opening tag of a value and its partner, and
    looks at what is left of the value again.  What it comes to is told by one pass over the
    tags from left to right: every closing tag takes the earliest opening tag of its name that
    has no partner yet (`pairTags`).

    * One round takes two tags out of a written value, or one (`nextRound?_of_paired`,
      `nextRound?_of_unclosed`), and the pass without them comes to the same, up to the one
      that is reported (`pairTags_of_paired`, `pairTags_of_unclosed`).
    * So by induction the rounds report what the pass leaves unclosed, and the closing tags
      that are left at the end are those that the pass leaves unopened
      (`rounds_written`).
    * The pass leaves nothing exactly if the tags are balanced (`pairTags_eq_nil_iff`). -/

namespace CatalogLint.Markup

open Text

/-! ## One pass over the tags -/

/-- The names of the tags without a partner, in the order of the tags. -/
structure Unpaired where
  openings : List (List Char) := []
  closings : List (List Char) := []
  deriving DecidableEq, Repr

namespace Unpaired

/-- What is unpaired after one more tag: a closing tag takes the earliest opening tag of its
    name that has no partner yet. -/
def afterTag (unpaired : Unpaired) : Tag → Unpaired
  | .opening name _ _ => { unpaired with openings := unpaired.openings ++ [name.chars] }
  | .selfClosing _ _ => unpaired
  | .closing name =>
      if name.chars ∈ unpaired.openings then
        { unpaired with openings := unpaired.openings.erase name.chars }
      else { unpaired with closings := unpaired.closings ++ [name.chars] }

/-- What is reported about tags without a partner: the opening ones, and then the closing
    ones. -/
def issues (unpaired : Unpaired) : List TagIssue :=
  unpaired.openings.map (.unclosed <| String.ofList ·)
    ++ unpaired.closings.map (.unopened <| String.ofList ·)

/-- The same with one more opening tag before all the others. -/
def withFirst (name : List Char) (unpaired : Unpaired) : Unpaired :=
  { unpaired with openings := name :: unpaired.openings }

end Unpaired

/-- The tags that one pass from left to right leaves without a partner. -/
def pairTags (tags : List Tag) : Unpaired :=
  tags.foldl Unpaired.afterTag {}

variable {tags inside outer : List Tag} {name : List Char} {unpaired : Unpaired}

/-- A tag that does not close a name leaves an opening tag of that name at the front. -/
theorem Unpaired.afterTag_withFirst {tag : Tag} (h : tag.closingName? ≠ some name)
    (unpaired : Unpaired) :
    (unpaired.withFirst name).afterTag tag = (unpaired.afterTag tag).withFirst name := by
  cases tag with
  | opening other attributes hlast => rfl
  | selfClosing other attributes => rfl
  | closing other =>
      have hne : other.chars ≠ name := fun heq => h (congrArg some heq)
      rw [afterTag, afterTag, withFirst]
      by_cases hmem : other.chars ∈ unpaired.openings
      · rw [if_pos hmem, if_pos (List.mem_cons_of_mem name hmem),
          List.erase_cons_tail (by rwa [beq_iff_eq, eq_comm])]
        rfl
      · rw [if_neg hmem, if_neg (List.not_mem_cons_of_ne_of_not_mem hne hmem)]
        rfl

/-- Tags that do not close a name leave an opening tag of that name at the front. -/
theorem foldl_afterTag_withFirst (h : ∀ tag ∈ inside, tag.closingName? ≠ some name)
    (unpaired : Unpaired) :
    inside.foldl Unpaired.afterTag (unpaired.withFirst name)
      = (inside.foldl Unpaired.afterTag unpaired).withFirst name := by
  induction inside generalizing unpaired with
  | nil => rfl
  | cons tag inside ih =>
      rw [List.foldl_cons, List.foldl_cons, Unpaired.afterTag_withFirst (h tag List.mem_cons_self)]
      exact ih (fun other hother => h other (List.mem_cons_of_mem tag hother)) _

/-- The closing tag of a name takes the opening tag at the front. -/
theorem Unpaired.afterTag_closing (name : ClosingName) (unpaired : Unpaired) :
    (unpaired.withFirst name.chars).afterTag (.closing name) = unpaired := by
  rw [afterTag, withFirst, if_pos List.mem_cons_self, List.erase_cons_head]

/-- Without opening tags every closing tag is left without a partner. -/
theorem foldl_afterTag_of_no_opening (h : ∀ tag ∈ tags, tag.openingName? = none)
    (closings : List (List Char)) :
    tags.foldl Unpaired.afterTag ⟨[], closings⟩
      = ⟨[], closings ++ tags.filterMap Tag.closingName?⟩ := by
  induction tags generalizing closings with
  | nil => rw [List.filterMap_nil, List.append_nil, List.foldl_nil]
  | cons tag tags ih =>
      have htail := ih (fun other hother => h other (List.mem_cons_of_mem tag hother))
      rw [List.foldl_cons]
      cases tag with
      | opening name attributes hlast => exact nomatch h _ List.mem_cons_self
      | selfClosing name attributes => exact htail closings
      | closing name =>
          rw [Unpaired.afterTag, if_neg List.not_mem_nil, htail, List.append_assoc]
          rfl

section Rounds

variable {first : TagName} {attributes : Attributes}
variable {hlast : attributes.chars.getLast? ≠ some '/'} {before : List Tag}

/-- Taking out the first opening tag, if its name is not closed behind it, takes away the
    first report: the tag stands at the front of what is unpaired to the end. -/
theorem pairTags_of_unclosed (hbefore : ∀ tag ∈ before, tag.openingName? = none)
    (hinside : ∀ tag ∈ inside, tag.closingName? ≠ some first.chars) :
    pairTags (before ++ .opening first attributes hlast :: inside)
      = (pairTags (before ++ inside)).withFirst first.chars := by
  rw [pairTags, pairTags, List.foldl_append, List.foldl_append, List.foldl_cons,
    foldl_afterTag_of_no_opening hbefore, ← foldl_afterTag_withFirst hinside]
  rfl

/-- Taking out the first opening tag and the first closing tag of its name behind it does not
    change what is left without a partner. -/
theorem pairTags_of_paired (hbefore : ∀ tag ∈ before, tag.openingName? = none)
    (hinside : ∀ tag ∈ inside, tag.closingName? ≠ some first.chars) (outer : List Tag) :
    pairTags (before ++ .opening first attributes hlast
        :: (inside ++ .closing first.toClosingName :: outer))
      = pairTags (before ++ (inside ++ outer)) :=
  calc pairTags (before ++ .opening first attributes hlast
          :: (inside ++ .closing first.toClosingName :: outer))
      = pairTags ((before ++ .opening first attributes hlast :: inside)
          ++ .closing first.toClosingName :: outer) := by rw [List.append_assoc, List.cons_append]
    _ = outer.foldl Unpaired.afterTag ((pairTags (before ++ .opening first attributes hlast
          :: inside)).afterTag (.closing first.toClosingName)) := List.foldl_append
    _ = outer.foldl Unpaired.afterTag (pairTags (before ++ inside)) := by
        rw [pairTags_of_unclosed hbefore hinside]
        exact congrArg (outer.foldl _) (Unpaired.afterTag_closing first.toClosingName _)
    _ = pairTags (before ++ (inside ++ outer)) := by
        simp only [pairTags, List.foldl_append]

end Rounds

/-! ## Rounds over a written value -/

section Written

variable {tokens before inside after : List Token} {first : TagName} {attributes : Attributes}
variable (hlast : attributes.chars.getLast? ≠ some '/')

/-- There is no round without an opening tag. -/
theorem nextRound?_of_no_opening (h : ∀ tag ∈ tagsOf tokens, tag.openingName? = none) :
    nextRound? (written tokens) = none := by
  have hnone := firstOpening_written_append h []
  rw [List.append_nil] at hnone
  rw [nextRound?, hnone]
  rfl

/-- A round finds the first opening tag that was written, and what stands around it. -/
theorem firstOpening_written (hbefore : ∀ tag ∈ tagsOf before, tag.openingName? = none)
    (after : List Token) :
    firstOpening 0 (written (before ++ .tag (.opening first attributes hlast) :: after))
      = some (written before, first.chars, written after) := by
  rw [written_append, written_cons, firstOpening_written_append hbefore, Token.chars,
    firstOpening_opening, Option.map_some, behind, List.append_nil]

/-- A round takes out the first opening tag and the first closing tag of its name behind
    it. -/
theorem nextRound?_of_paired (hbefore : ∀ tag ∈ tagsOf before, tag.openingName? = none)
    (hinside : ∀ tag ∈ tagsOf inside, tag.closingName? ≠ some first.chars)
    (after : List Token) :
    nextRound? (written (before ++ .tag (.opening first attributes hlast)
        :: (inside ++ .tag (.closing first.toClosingName) :: after)))
      = some ⟨none, written (before ++ (inside ++ after))⟩ := by
  rw [nextRound?, firstOpening_written hlast hbefore]
  dsimp only
  rw [splitOnce_closingTag_written first.toClosingName hinside,
    written_append before (inside ++ after), written_append inside after, ← List.append_assoc]

/-- A round reports the first opening tag if its name is not closed behind it. -/
theorem nextRound?_of_unclosed (hbefore : ∀ tag ∈ tagsOf before, tag.openingName? = none)
    (hafter : ∀ tag ∈ tagsOf after, tag.closingName? ≠ some first.chars) :
    nextRound? (written (before ++ .tag (.opening first attributes hlast) :: after))
      = some ⟨some first.chars, written (before ++ after)⟩ := by
  rw [nextRound?, firstOpening_written hlast hbefore]
  dsimp only
  rw [splitOnce_closingTag_eq_none first.toClosingName hafter, written_append]

end Written

/-- Without a round there is nothing to report and nothing is taken out. -/
theorem rounds_of_eq_none {text : List Char} (h : nextRound? text = none) :
    rounds text = [] ∧ leftover text = text := by
  have hrounds : rounds text = [] := by
    rw [rounds]
    split
    · rfl
    · rename_i round hround
      cases h.symm.trans hround
  exact ⟨hrounds, by rw [leftover, hrounds]; rfl⟩

/-- After a round come the rounds of what it leaves. -/
theorem rounds_of_eq_some {text : List Char} {round : Round} (h : nextRound? text = some round) :
    rounds text = round :: rounds round.left ∧ leftover text = leftover round.left := by
  have hrounds : rounds text = round :: rounds round.left := by
    rw [rounds]
    split
    · rename_i hround
      cases h.symm.trans hround
    · rename_i other hround
      cases h.symm.trans hround
      rfl
  refine ⟨hrounds, ?_⟩
  rw [leftover, leftover, hrounds, List.getLast?_cons]
  cases (rounds round.left).getLast? with
  | none => rfl
  | some last => rfl

/-- Either no tag of a value has a property, or the value splits at the first one that
    has it. -/
theorem split_at_first (p : Tag → Prop) [DecidablePred p] (tokens : List Token) :
    (∀ tag ∈ tagsOf tokens, ¬ p tag)
      ∨ ∃ before tag after, tokens = before ++ .tag tag :: after ∧ p tag
        ∧ ∀ other ∈ tagsOf before, ¬ p other := by
  induction tokens with
  | nil => exact Or.inl (fun _ h => nomatch h)
  | cons token tokens ih =>
      cases token with
      | text plain =>
          rcases ih with hnone | ⟨before, tag, after, rfl, htag, hbefore⟩
          · exact Or.inl hnone
          · exact Or.inr ⟨.text plain :: before, tag, after, rfl, htag, hbefore⟩
      | tag first =>
          by_cases hfirst : p first
          · exact Or.inr ⟨[], first, tokens, rfl, hfirst, fun _ h => nomatch h⟩
          · rcases ih with hnone | ⟨before, tag, after, rfl, htag, hbefore⟩
            · exact Or.inl (List.forall_mem_cons.mpr ⟨hfirst, hnone⟩)
            · exact Or.inr ⟨.tag first :: before, tag, after, rfl, htag,
                List.forall_mem_cons.mpr ⟨hfirst, hbefore⟩⟩

/-- A name is closed by one tag only. -/
theorem Tag.eq_closing {tag : Tag} {name : ClosingName}
    (h : tag.closingName? = some name.chars) : tag = .closing name := by
  cases tag with
  | opening other attributes hlast => exact nomatch h
  | selfClosing other attributes => exact nomatch h
  | closing other =>
      obtain ⟨⟨chars, hopener, hcloser⟩, hne⟩ := other
      obtain ⟨⟨chars', hopener', hcloser'⟩, hne'⟩ := name
      cases h
      rfl

/-- **Induction along the rounds**: a property holds of every value if it holds without opening
    tags, and if it holds of a value whenever it holds of what a round leaves of it. -/
theorem round_induction {motive : List Token → Prop}
    (no_opening : ∀ tokens, (∀ tag ∈ tagsOf tokens, tag.openingName? = none) → motive tokens)
    (unclosed : ∀ before (first : TagName) attributes hlast after,
      (∀ tag ∈ tagsOf before, tag.openingName? = none) →
      (∀ tag ∈ tagsOf after, tag.closingName? ≠ some first.chars) →
      motive (before ++ after) →
      motive (before ++ .tag (.opening first attributes hlast) :: after))
    (paired : ∀ before (first : TagName) attributes hlast inside after,
      (∀ tag ∈ tagsOf before, tag.openingName? = none) →
      (∀ tag ∈ tagsOf inside, tag.closingName? ≠ some first.chars) →
      motive (before ++ (inside ++ after)) →
      motive (before ++ .tag (.opening first attributes hlast)
        :: (inside ++ .tag (.closing first.toClosingName) :: after)))
    (tokens : List Token) : motive tokens := by
  induction hlength : tokens.length using Nat.strongRecOn generalizing tokens with
  | ind length ih =>
      rcases split_at_first (·.openingName? ≠ none) tokens with
        hnone | ⟨before, tag, rest, rfl, htag, hbefore⟩
      · exact no_opening tokens (fun tag hmem => Decidable.not_not.mp (hnone tag hmem))
      · have hbefore' : ∀ tag ∈ tagsOf before, tag.openingName? = none :=
          fun tag hmem => Decidable.not_not.mp (hbefore tag hmem)
        cases tag with
        | selfClosing name attributes => exact absurd rfl htag
        | closing name => exact absurd rfl htag
        | opening first attributes hlast =>
            rcases split_at_first (·.closingName? = some first.chars) rest with
              hunclosed | ⟨inside, closer, after, rfl, hcloser, hinside⟩
            · refine unclosed before first attributes hlast rest hbefore' hunclosed ?_
              refine ih _ ?_ (before ++ rest) rfl
              rw [← hlength]
              simp only [List.length_append, List.length_cons]
              omega
            · obtain rfl : closer = .closing first.toClosingName := Tag.eq_closing hcloser
              refine paired before first attributes hlast inside after hbefore' hinside ?_
              refine ih _ ?_ (before ++ (inside ++ after)) rfl
              rw [← hlength]
              simp only [List.length_append, List.length_cons]
              omega

/-- The tags of a value with a tag inside it. -/
theorem tagsOf_append_cons (before : List Token) (tag : Tag) (after : List Token) :
    tagsOf (before ++ .tag tag :: after) = tagsOf before ++ tag :: tagsOf after :=
  tagsOf_append before (.tag tag :: after)

/-- **The rounds report what one pass leaves without a partner**: the opening tags on the way,
    and the closing tags in what is left at the end. -/
theorem rounds_written (tokens : List Token) :
    (rounds (written tokens)).filterMap (·.unclosed) = (pairTags (tagsOf tokens)).openings
      ∧ (sweep scanClosing (leftover (written tokens))).map Located.value
        = (pairTags (tagsOf tokens)).closings := by
  induction tokens using round_induction with
  | no_opening tokens hnone =>
      obtain ⟨hrounds, hleft⟩ := rounds_of_eq_none (nextRound?_of_no_opening hnone)
      rw [hrounds, hleft, readsTags_scanClosing.map_value_sweep_written, pairTags,
        foldl_afterTag_of_no_opening hnone]
      exact ⟨rfl, rfl⟩
  | unclosed before first attributes hlast after hbefore hafter ih =>
      obtain ⟨hrounds, hleft⟩ :=
        rounds_of_eq_some (nextRound?_of_unclosed hlast hbefore hafter)
      rw [hrounds, hleft, tagsOf_append_cons, pairTags_of_unclosed hbefore hafter,
        ← tagsOf_append]
      exact ⟨congrArg (first.chars :: ·) ih.1, ih.2⟩
  | paired before first attributes hlast inside after hbefore hinside ih =>
      obtain ⟨hrounds, hleft⟩ :=
        rounds_of_eq_some (nextRound?_of_paired hlast hbefore hinside after)
      rw [hrounds, hleft, tagsOf_append_cons, tagsOf_append_cons,
        pairTags_of_paired hbefore hinside, ← tagsOf_append, ← tagsOf_append]
      exact ih

/-! ## Balanced tags -/

/-- The tags are balanced: for every name no beginning of them closes it more often than it
    opens it, and all of them close it as often. -/
structure Balanced (tags : List Tag) : Prop where
  never_ahead : ∀ name start, start <+: tags →
    (start.filterMap Tag.closingName?).count name ≤ (start.filterMap Tag.openingName?).count name
  settled : ∀ name,
    (tags.filterMap Tag.closingName?).count name = (tags.filterMap Tag.openingName?).count name

/-- One more tag at the end of a pass. -/
theorem pairTags_concat (tags : List Tag) (tag : Tag) :
    pairTags (tags ++ [tag]) = (pairTags tags).afterTag tag := by
  rw [pairTags, List.foldl_append]
  rfl

/-- One more tag adds to the tags without a partner on its own side, or it takes a partner
    of its name from the other side. -/
theorem Unpaired.count_afterTag (unpaired : Unpaired) (tag : Tag) (name : List Char) :
    (unpaired.afterTag tag).openings.count name + ([tag].filterMap Tag.closingName?).count name
        + unpaired.closings.count name
      = (unpaired.afterTag tag).closings.count name
        + ([tag].filterMap Tag.openingName?).count name + unpaired.openings.count name := by
  cases tag with
  | opening other attributes hlast =>
      show (unpaired.openings ++ [other.chars]).count name + 0 + unpaired.closings.count name
        = unpaired.closings.count name + [other.chars].count name + unpaired.openings.count name
      rw [List.count_append]
      omega
  | selfClosing other attributes => exact Nat.add_comm _ _
  | closing other =>
      show _ + [other.chars].count name + _ = _ + 0 + _
      rw [afterTag]
      split
      · rename_i hmem
        have htaken := (List.perm_cons_erase hmem).count_eq name
        rw [← List.singleton_append, List.count_append] at htaken
        dsimp only
        omega
      · dsimp only
        rw [List.count_append]
        omega

/-- A pass pairs one closing tag with one opening tag: what is left of a name on one side makes
    up for the tags of the name on the other side. -/
theorem count_pairTags (tags : List Tag) (name : List Char) :
    (pairTags tags).openings.count name + (tags.filterMap Tag.closingName?).count name
      = (pairTags tags).closings.count name
        + (tags.filterMap Tag.openingName?).count name := by
  induction tags using List.reverseRecOn with
  | nil => rfl
  | append_singleton tags tag ih =>
      rw [pairTags_concat, List.filterMap_append, List.filterMap_append, List.count_append,
        List.count_append]
      have hstep := Unpaired.count_afterTag (pairTags tags) tag name
      omega

/-- A closing tag that has no partner keeps having none. -/
theorem closings_pairTags_append (start rest : List Tag) :
    (pairTags start).closings <+: (pairTags (start ++ rest)).closings := by
  induction rest using List.reverseRecOn with
  | nil => simp only [List.append_nil, List.prefix_rfl]
  | append_singleton rest tag ih =>
      refine ih.trans ?_
      rw [← List.append_assoc, pairTags_concat]
      cases tag with
      | opening other attributes hlast => exact List.prefix_rfl
      | selfClosing other attributes => exact List.prefix_rfl
      | closing other =>
          rw [Unpaired.afterTag]
          split
          · exact List.prefix_rfl
          · exact List.prefix_append _ _

/-- If no beginning of the tags closes a name more often than it opens it, every closing tag
    has a partner. -/
theorem closings_pairTags_eq_nil
    (h : ∀ name start, start <+: tags → (start.filterMap Tag.closingName?).count name
      ≤ (start.filterMap Tag.openingName?).count name) :
    (pairTags tags).closings = [] := by
  induction tags using List.reverseRecOn with
  | nil => rfl
  | append_singleton tags tag ih =>
      have hclosings := ih (fun name start hstart =>
        h name start (hstart.trans (List.prefix_append tags [tag])))
      rw [pairTags_concat]
      cases tag with
      | opening other attributes hlast => exact hclosings
      | selfClosing other attributes => exact hclosings
      | closing other =>
          rw [Unpaired.afterTag]
          split
          · exact hclosings
          · -- nothing is open under the name, so this tag closes it once too often
            rename_i hmem
            have hpaired := count_pairTags tags other.chars
            have hahead := h other.chars (tags ++ [.closing other]) List.prefix_rfl
            have hlast : ([Tag.closing other].filterMap Tag.closingName?).count other.chars = 1 :=
              List.count_singleton_self
            have hnone : ([Tag.closing other].filterMap Tag.openingName?).count other.chars = 0 :=
              List.count_nil
            rw [List.filterMap_append, List.filterMap_append, List.count_append,
              List.count_append, hlast, hnone] at hahead
            rw [hclosings, List.count_nil, List.count_eq_zero.mpr hmem] at hpaired
            omega

/-- **A pass leaves no tag without a partner exactly if the tags are balanced.** -/
theorem pairTags_eq_nil_iff :
    (pairTags tags).openings = [] ∧ (pairTags tags).closings = [] ↔ Balanced tags := by
  constructor
  · rintro ⟨hopenings, hclosings⟩
    constructor
    · rintro name start ⟨rest, rfl⟩
      have hprefix := closings_pairTags_append start rest
      rw [hclosings] at hprefix
      have hpaired := count_pairTags start name
      rw [List.prefix_nil.mp hprefix, List.count_nil] at hpaired
      omega
    · intro name
      have hpaired := count_pairTags tags name
      rw [hopenings, hclosings, List.count_nil] at hpaired
      omega
  · intro hbalanced
    have hclosings := closings_pairTags_eq_nil hbalanced.never_ahead
    refine ⟨List.eq_nil_iff_forall_not_mem.mpr fun name hmem => ?_, hclosings⟩
    have hpaired := count_pairTags tags name
    have hsettled := hbalanced.settled name
    have hpositive := List.count_pos_iff.mpr hmem
    rw [hclosings, List.count_nil] at hpaired
    omega

/-! ## Tags that close themselves -/

/-- A pass does not look at tags that close themselves. -/
theorem pairTags_filter_selfClosing (tags : List Tag) :
    pairTags (tags.filter (!·.isSelfClosing)) = pairTags tags := by
  induction tags using List.reverseRecOn with
  | nil => rfl
  | append_singleton tags tag ih =>
      rw [List.filter_append, pairTags_concat]
      cases tag with
      | opening name attributes hlast => exact (pairTags_concat _ _).trans (by rw [ih])
      | selfClosing name attributes => exact (congrArg pairTags (List.append_nil _)).trans ih
      | closing name => exact (pairTags_concat _ _).trans (by rw [ih])

/-- The tags of a value without the tags that close themselves. -/
theorem tagsOf_filter_selfClosing (tokens : List Token) :
    tagsOf (tokens.filter (!·.isSelfClosing)) = (tagsOf tokens).filter (!·.isSelfClosing) := by
  induction tokens with
  | nil => rfl
  | cons token tokens ih =>
      cases token with
      | text plain => exact ih
      | tag tag =>
          cases tag with
          | opening name attributes hlast => exact congrArg (_ :: ·) ih
          | selfClosing name attributes => exact ih
          | closing name => exact congrArg (_ :: ·) ih

/-! ## The check of balance -/

/-- What the check of balance reports about a written value is what one pass over its tags
    leaves without a partner. -/
theorem checkBalance_written (tokens : List Token) :
    checkBalance (String.ofList (written tokens)) = (pairTags (tagsOf tokens)).issues := by
  obtain ⟨hopenings, hclosings⟩ := rounds_written tokens
  rw [checkBalance, String.toList_ofList, hopenings, Unpaired.issues, ← hclosings, List.map_map]
  rfl

/-- **Tags are paired first in, first out under each name.**  In a value that is written from
    plain text and tags every closing tag takes the earliest opening tag of its name that has
    no partner yet; the opening tags that are left are reported in order, and then the closing
    ones.  So nothing is reported exactly if the tags are balanced, and tags that close
    themselves do not matter. -/
theorem checkBalance_pairs_first_in_first_out (tokens : List Token) :
    checkBalance (String.ofList (written tokens)) = (pairTags (tagsOf tokens)).issues
      ∧ (checkBalance (String.ofList (written tokens)) = [] ↔ Balanced (tagsOf tokens))
      ∧ checkBalance (String.ofList (written (tokens.filter (!·.isSelfClosing))))
        = checkBalance (String.ofList (written tokens)) := by
  refine ⟨checkBalance_written tokens, ?_, ?_⟩
  · rw [checkBalance_written, Unpaired.issues, List.append_eq_nil_iff, List.map_eq_nil_iff,
      List.map_eq_nil_iff]
    exact pairTags_eq_nil_iff
  · rw [checkBalance_written, checkBalance_written, tagsOf_filter_selfClosing,
      pairTags_filter_selfClosing]

end CatalogLint.Markup
