import CatalogLint.Proofs.Text.Marks
import CatalogLint.Proofs.Text.Sweep
import CatalogLint.Template.Check

/-! # Comments are not looked at

    Comments are matched from left to right, each up to the first `-->` after its
    beginning.  Behind a text whose comments are all closed a comment begins where it is
    written, whatever it holds, and it ends where it is written as well: a mark cannot be
    completed by what stands on either side of it.  So nothing but the line feeds of a
    comment reaches the checks of a template (`checks_ignore_what_comments_hold`).

    * `CommentsClosed` says that no `<!--` of a text is left without its `-->`, and
      `commentsClosed_iff` that texts without this property end within a comment;
    * `stripComments_comment_between`: what stands before a comment, its line feeds, and
      what stands after it are all that is left. -/

namespace CatalogLint.Template

open Text

variable {text before body rest after : List Char}

/-! ## The marks of a comment -/

/-- The mark that a comment begins with. -/
def commentOpen : List Char :=
  ['<', '!', '-', '-']

/-- The mark that a comment ends with. -/
def commentClose : List Char :=
  ['-', '-', '>']

/-- The mark at the beginning cannot be completed by what stands before it. -/
theorem unbordered_commentOpen : Unbordered commentOpen :=
  ⟨by decide, by decide⟩

/-- The mark at the end cannot be completed by what stands before it. -/
theorem unbordered_commentClose : Unbordered commentClose :=
  ⟨by decide, by decide⟩

/-- All comments of a text are closed: matched from left to right, each of them has an
    end, and after the last one no other begins. -/
inductive CommentsClosed : List Char → Prop where
  | plain {text : List Char} (h : ¬ commentOpen <:+: text) : CommentsClosed text
  | comment {before body rest : List Char} (hbefore : ¬ commentOpen <:+: before)
      (hbody : ¬ commentClose <:+: body) (hrest : CommentsClosed rest) :
      CommentsClosed (before ++ (commentOpen ++ (body ++ (commentClose ++ rest))))

/-! ## Texts that end within a comment -/

/-- A text ends within a comment that begins where all comments before it are closed. -/
def Unclosed (text : List Char) : Prop :=
  ∃ before rest, text = before ++ (commentOpen ++ rest) ∧ CommentsClosed before
    ∧ ¬ commentClose <:+: rest

/-- A text whose comments are all closed does not end within one. -/
theorem CommentsClosed.not_unclosed (h : CommentsClosed text) : ¬ Unclosed text := by
  induction h with
  | plain h =>
      rintro ⟨before, rest, rfl, -, -⟩
      exact h ⟨before, rest, List.append_assoc ..⟩
  | @comment before body rest hbefore hbody hrest ih =>
      rintro ⟨closed, tail, heq, hclosed, htail⟩
      cases hclosed with
      | plain hplain =>
          -- both decompositions begin with the same text, so the comment is the one with
          -- no end
          obtain ⟨-, rfl⟩ := unbordered_commentOpen.append_inj hbefore hplain heq
          exact htail ⟨body, rest, List.append_assoc ..⟩
      | @comment before' body' rest' hbefore' hbody' hrest' =>
          simp only [List.append_assoc] at heq
          obtain ⟨-, hinside⟩ := unbordered_commentOpen.append_inj hbefore hbefore' heq
          obtain ⟨-, rfl⟩ := unbordered_commentClose.append_inj hbody hbody' hinside
          exact ih ⟨rest', tail, rfl, hrest', htail⟩

/-- The comments of a text are all closed, or it ends within one. -/
theorem commentsClosed_or_unclosed (text : List Char) : CommentsClosed text ∨ Unclosed text := by
  cases hopen : splitOnce commentOpen text with
  | none => exact Or.inl (.plain ((splitOnce_eq_none_iff unbordered_commentOpen.ne_nil).mp hopen))
  | some sides =>
      obtain ⟨before, inside⟩ := sides
      obtain ⟨htext, hbefore⟩ := of_splitOnce_eq_some unbordered_commentOpen.ne_nil hopen
      cases hclose : splitOnce commentClose inside with
      | none =>
          have hinside := (splitOnce_eq_none_iff unbordered_commentClose.ne_nil).mp hclose
          exact Or.inr ⟨before, inside, htext, .plain hbefore, hinside⟩
      | some sides =>
          obtain ⟨body, rest⟩ := sides
          obtain ⟨hinside, hbody⟩ := of_splitOnce_eq_some unbordered_commentClose.ne_nil hclose
          have hshorter : rest.length < text.length := by
            rw [htext, hinside]
            simp only [List.length_append, commentOpen, List.length_cons]
            omega
          rw [htext, hinside]
          rcases commentsClosed_or_unclosed rest with hrest | ⟨closed, tail, rfl, hclosed, htail⟩
          · exact Or.inl (.comment hbefore hbody hrest)
          · refine Or.inr ⟨_, tail, ?_, .comment hbefore hbody hclosed, htail⟩
            simp only [List.append_assoc]
termination_by text.length

/-- **Comments are all closed unless the text ends within one.** -/
theorem commentsClosed_iff : CommentsClosed text ↔ ¬ Unclosed text :=
  ⟨CommentsClosed.not_unclosed, (commentsClosed_or_unclosed text).resolve_right⟩

/-! ## What is left of a text -/

/-- A text that does not begin with a comment mark holds no comment at its head. -/
theorem scanComment_eq_none {previous : Option Char} (h : after? commentOpen text = none) :
    scanComment previous text = none := by
  rw [commentOpen] at h
  rw [scanComment, h]

/-- A comment is found where it is written, up to the first mark at an end. -/
theorem scanComment_comment (previous : Option Char) (h : ¬ commentClose <:+: body)
    (rest : List Char) :
    scanComment previous (commentOpen ++ (body ++ (commentClose ++ rest)))
      = some { value := body.filter (· == '\n'), more := body.length + 6 } := by
  have hopen : after? ['<', '!', '-', '-'] (commentOpen ++ (body ++ (commentClose ++ rest)))
      = some (body ++ (commentClose ++ rest)) := after?_append _ _
  have hclose : splitOnce ['-', '-', '>'] (body ++ (commentClose ++ rest)) = some (body, rest) :=
    unbordered_commentClose.splitOnce_append h rest
  rw [scanComment, hopen]
  simp only [hclose]

/-- What is found is a comment up to the first mark at an end. -/
theorem of_scanComment_eq_some {previous : Option Char} {hit : Hit (List Char)}
    (h : scanComment previous text = some hit) :
    ∃ body rest, text = commentOpen ++ (body ++ (commentClose ++ rest))
      ∧ hit = { value := body.filter (· == '\n'), more := body.length + 6 } := by
  rw [scanComment] at h
  split at h
  · exact nomatch h
  · rename_i inside hopen
    split at h
    · exact nomatch h
    · rename_i body rest hclose
      have htext : text = commentOpen ++ inside := after?_eq_some_iff.mp hopen
      have hinside := (of_splitOnce_eq_some unbordered_commentClose.ne_nil hclose).1
      exact ⟨body, rest, htext.trans (congrArg _ hinside), (Option.some.inj h).symm⟩

/-- Comments are found whatever stands before them. -/
theorem looksAhead_scanComment : LooksAhead scanComment :=
  fun _ _ => rfl

/-- A character that no mark of a comment begins with stays. -/
theorem stripComments_cons {c : Char} (h : after? commentOpen (c :: rest) = none) :
    stripComments (c :: rest) = c :: stripComments rest :=
  looksAhead_scanComment.substitute_of_eq_none (scanComment_eq_none h)

/-- Of a comment its line feeds are left. -/
theorem stripComments_comment (h : ¬ commentClose <:+: body) (rest : List Char) :
    stripComments (commentOpen ++ (body ++ (commentClose ++ rest)))
      = List.replicate (lineFeeds body) '\n' ++ stripComments rest := by
  have hmatch : commentOpen ++ (body ++ (commentClose ++ rest))
      = (commentOpen ++ (body ++ commentClose)) ++ rest := by
    simp only [List.append_assoc]
  have hlength : (commentOpen ++ (body ++ commentClose)).length = body.length + 6 + 1 := by
    simp only [List.length_append, commentOpen, commentClose, List.length_cons, List.length_nil]
    omega
  have hscan := scanComment_comment none h rest
  rw [hmatch] at hscan ⊢
  rw [stripComments, looksAhead_scanComment.substitute_of_eq_some hscan hlength,
    List.filter_beq, lineFeeds]
  rfl

/-- A text without the mark of a comment stays as it is. -/
theorem stripComments_plain (h : ¬ commentOpen <:+: text) : stripComments text = text := by
  induction text with
  | nil => rfl
  | cons c rest ih =>
      have hnone : after? commentOpen (c :: rest) = none :=
        after?_eq_none_iff.mpr fun hprefix => h hprefix.isInfix
      rw [stripComments_cons hnone, ih fun hinfix => h (List.infix_cons hinfix)]

/-- A text without the mark of a comment stays as it is before a comment. -/
theorem stripComments_plain_append (h : ¬ commentOpen <:+: before) (rest : List Char) :
    stripComments (before ++ (commentOpen ++ rest))
      = before ++ stripComments (commentOpen ++ rest) := by
  induction before with
  | nil => rfl
  | cons c before ih =>
      have hnone := unbordered_commentOpen.after?_eq_none h rest
      rw [List.cons_append] at hnone ⊢
      rw [stripComments_cons hnone, ih fun hinfix => h (List.infix_cons hinfix), List.cons_append]

/-- A text whose comments are all closed is stripped on its own, whatever comment follows
    it. -/
theorem CommentsClosed.stripComments_append (h : CommentsClosed text) (rest : List Char) :
    stripComments (text ++ (commentOpen ++ rest))
      = stripComments text ++ stripComments (commentOpen ++ rest) := by
  induction h with
  | plain h => rw [stripComments_plain_append h, stripComments_plain h]
  | comment hbefore hbody hrest ih =>
      simp only [List.append_assoc]
      rw [stripComments_plain_append hbefore, stripComments_plain_append hbefore,
        stripComments_comment hbody, stripComments_comment hbody, ih]
      simp only [List.append_assoc]

/-- **Of a text with a comment in it, what is left is what stands before the comment, its
    line feeds, and what stands after it.** -/
theorem stripComments_comment_between (hbefore : CommentsClosed before)
    (hbody : ¬ commentClose <:+: body) (after : List Char) :
    stripComments (before ++ (commentOpen ++ (body ++ (commentClose ++ after))))
      = stripComments before ++ (List.replicate (lineFeeds body) '\n' ++ stripComments after) := by
  rw [hbefore.stripComments_append, stripComments_comment hbody]

/-- **Comments go without their line feeds**: what is left of a text has as many lines as
    the text. -/
theorem lineFeeds_stripComments (text : List Char) :
    lineFeeds (stripComments text) = lineFeeds text := by
  refine lineFeeds_substitute ?_ text
  intro previous text hit hhit
  obtain ⟨body, rest, rfl, rfl⟩ := of_scanComment_eq_some hhit
  have hmatch : commentOpen ++ (body ++ (commentClose ++ rest))
      = (commentOpen ++ (body ++ commentClose)) ++ rest := by
    simp only [List.append_assoc]
  have hlength : (commentOpen ++ (body ++ commentClose)).length = body.length + 6 + 1 := by
    simp only [List.length_append, commentOpen, commentClose, List.length_cons, List.length_nil]
    omega
  have hfeeds : lineFeeds (commentOpen ++ (body ++ commentClose)) = lineFeeds body := by
    rw [lineFeeds_append, lineFeeds_append, show lineFeeds commentOpen = 0 from rfl,
      show lineFeeds commentClose = 0 from rfl, Nat.zero_add]
    rfl
  rw [hmatch, List.take_left' hlength, hfeeds, List.filter_beq, lineFeeds,
    List.count_replicate_self, lineFeeds]

/-! ## The checks of a template -/

/-- **What a comment holds does not matter to the checks of a template.**  For all options,
    known keys and keys that are still unreferenced, a template with a comment behind a text
    whose comments are all closed gives the same findings, on the same lines, and leaves the
    same keys unreferenced if the comment holds something else with as many line feeds. -/
theorem checks_ignore_what_comments_hold {before body body' : String}
    (hbefore : CommentsClosed before.toList) (hbody : ¬ commentClose <:+: body.toList)
    (hbody' : ¬ commentClose <:+: body'.toList)
    (hfeeds : lineFeeds body.toList = lineFeeds body'.toList)
    (options : Options) (known : KnownKeys) (unreferenced : List String)
    (path name after : String) :
    let file : String → SourceFile := fun body =>
      ⟨path, name, before ++ "<!--" ++ body ++ "-->" ++ after⟩
    fileFindings options known (file body) = fileFindings options known (file body')
    ∧ stillUnreferenced unreferenced (file body) = stillUnreferenced unreferenced (file body') := by
  intro file
  have hvisible : ∀ body : String, ¬ commentClose <:+: body.toList →
      visibleText (file body) = stripComments before.toList
        ++ (List.replicate (lineFeeds body.toList) '\n' ++ stripComments after.toList) := by
    intro body hbody
    rw [← stripComments_comment_between hbefore hbody]
    simp only [visibleText, file, String.toList_append, List.append_assoc]
    rfl
  have hsame : visibleText (file body) = visibleText (file body') := by
    rw [hvisible body hbody, hvisible body' hbody', hfeeds]
  have hreferences : referencesOf (file body) = referencesOf (file body') :=
    congrArg references hsame
  constructor
  · simp only [fileFindings, unknownFindings, hreferences, hsame]
    rfl
  · simp only [stillUnreferenced, hreferences]

/-- Two comments behind a closed one and half a mark.  One holds a mark of its own, a
    reference, and half a mark at its end, the other a line feed and nothing else; only the
    reference behind them counts. -/
theorem checks_ignore_a_commented_reference :
    let file : String → SourceFile := fun body =>
      ⟨"t.html", "t.html", "<!-- one --><p><!" ++ "<!--" ++ body ++ "-->" ++ "<p translate=\"B\">"⟩
    fileFindings {} .empty (file "<!--\n<p translate=\"A\">--") = fileFindings {} .empty (file "\n")
    ∧ stillUnreferenced ["A", "B"] (file "<!--\n<p translate=\"A\">--") = ["A"] := by
  intro file
  have hbefore : CommentsClosed "<!-- one --><p><!".toList :=
    @CommentsClosed.comment [] [' ', 'o', 'n', 'e', ' '] ['<', 'p', '>', '<', '!'] (by decide)
      (by decide) (.plain (by decide))
  have hbody : ¬ commentClose <:+: "<!--\n<p translate=\"A\">--".toList := by
    decide +kernel
  have hbody' : ¬ commentClose <:+: "\n".toList := by decide +kernel
  have hfeeds : lineFeeds "<!--\n<p translate=\"A\">--".toList = lineFeeds "\n".toList := by
    decide +kernel
  obtain ⟨hfindings, hkeys⟩ := checks_ignore_what_comments_hold hbefore hbody hbody' hfeeds
    {} .empty ["A", "B"] "t.html" "t.html" "<p translate=\"B\">"
  refine ⟨hfindings, hkeys.trans ?_⟩
  decide +kernel

end CatalogLint.Template
