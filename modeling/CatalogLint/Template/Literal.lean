import CatalogLint.Finding
import CatalogLint.Sorted
import CatalogLint.Text.Sweep
import CatalogLint.Unicode.Blank
import CatalogLint.Unicode.Word

/-! # Literal text

    Text of a template that is not translated: the values of some attributes, the text
    between two tags, and quoted texts in braces.  A candidate is cleaned of entities
    and superfluous white space; it is reported if something is left of it outside
    braces and it is not excluded. -/

namespace CatalogLint.Template

open Text Unicode

/-! ## Cleaning -/

/-- An entity such as `&nbsp;` or `&#160;`, which is taken out. -/
def scanEntity : Scanner (List Char)
  | _, '&' :: rest =>
      let body :=
        match rest with
        | '#' :: body => body
        | _ => rest
      let word := body.takeWhile isWord
      match word, body.drop word.length with
      | _ :: _, ';' :: tail => some { value := [], more := rest.length - tail.length }
      | _, _ => none
  | _, _ => none

/-- The text without entities. -/
def removeEntities (text : List Char) : List Char :=
  substitute scanEntity text

/-- The text with every run of white space made a single space; the flag says that a
    run has begun. -/
def collapseFrom (inRun : Bool) : List Char → List Char
  | [] => []
  | c :: rest =>
      if isBlank c then if inRun then collapseFrom true rest else ' ' :: collapseFrom true rest
      else c :: collapseFrom false rest

/-- The text with every run of white space made a single space. -/
def collapseBlanks (text : List Char) : List Char :=
  collapseFrom false text

/-- The text without entities, with single spaces, and trimmed. -/
def clean (text : List Char) : List Char :=
  trim (collapseBlanks (removeEntities text))

/-- An expression in double braces, up to the first closing ones, which is taken out. -/
def scanInterpolation : Scanner (List Char)
  | _, '\x7b' :: '\x7b' :: rest =>
      match splitOnce ['\x7d', '\x7d'] rest with
      | some (body, _) => some { value := [], more := body.length + 3 }
      | none => none
  | _, _ => none

/-- Something other than white space is left outside double braces. -/
def hasText (text : List Char) : Bool :=
  (substitute scanInterpolation text).any (!isBlank ·)

/-- A cleaned text counts as literal: it has text of its own and is not excluded. -/
def isLiteral (exclusions : SortedSet) (text : List Char) : Bool :=
  hasText text && !exclusions.contains (String.ofList text)

/-! ## Candidates -/

/-- A text that may be literal: what is compared with the exclusions, and what is
    reported. -/
structure Candidate where
  cleaned : List Char
  message : String

/-- The text after a word, without regard to the case of its letters, and the word as
    it is written. -/
def afterWord? : List Char → List Char → Option (List Char × List Char)
  | [], text => some ([], text)
  | _ :: _, [] => none
  | p :: word, c :: text =>
      if p = c.toLower then (afterWord? word text).map fun (written, rest) => (c :: written, rest)
      else none

/-- Values of an attribute whose name does not go on a word before it. -/
def scanValue (name : String) (word : List Char) : Scanner Candidate
  | before, text =>
      if before.any isWord then none
      else
        match afterWord? word text with
        | none => none
        | some (written, rest) =>
            match rest.dropWhile isBlank with
            | '=' :: rest =>
                match rest.dropWhile isBlank with
                | '"' :: rest =>
                    let value := rest.takeWhile (· != '"')
                    match rest.drop value.length with
                    | _ :: tail =>
                        some {
                          value :=
                            ⟨clean value,
                              "Non-translated text in " ++ name ++ ": " ++ String.ofList written
                                ++ "=\"" ++ String.ofList value ++ "\""⟩
                          more := text.length - tail.length - 1 }
                    | [] => none
                | _ => none
            | _ => none

/-- Texts between the end of a tag and the start of the next one, at their first
    character that is not white space. -/
def scanTextNode (name : String) : Scanner Candidate
  | _, '>' :: rest =>
      let text := rest.takeWhile fun c => c != '<' && c != '>'
      match rest.drop text.length with
      | '<' :: _ =>
          let cleaned := clean text
          some {
            value :=
              ⟨cleaned,
                "Non-translated text between mark-ups in " ++ name ++ ": \""
                  ++ String.ofList cleaned ++ "\""⟩
            more := text.length + 1
            offset := (text.takeWhile isBlank).length + 1 }
      | _ => none
  | _, _ => none

/-- Quoted texts that stand alone in double braces. -/
def scanQuoted (name : String) : Scanner Candidate
  | _, '\x7b' :: '\x7b' :: rest =>
      match rest.dropWhile isBlank with
      | '\'' :: tail =>
          let literal := tail.takeWhile (· != '\'')
          match tail.drop literal.length with
          | _ :: closing =>
              match closing.dropWhile isBlank with
              | '\x7d' :: '\x7d' :: behind =>
                  some {
                    value :=
                      ⟨clean literal,
                        "Non-translated text might have been forgotten in " ++ name ++ ": \""
                          ++ String.ofList (trim literal) ++ "\""⟩
                    more := rest.length - behind.length + 1
                    offset := rest.length - tail.length + 2 }
              | _ => none
          | [] => none
      | _ => none
  | _, _ => none

/-- All candidates of a template: attribute values, text between tags, quoted texts. -/
def candidates (name : String) (text : List Char) : List (Located Candidate) :=
  sweep (scanValue name ['a', 'l', 't']) text
    ++ sweep (scanValue name ['t', 'i', 't', 'l', 'e']) text
    ++ sweep (scanTextNode name) text
    ++ sweep (scanQuoted name) text

/-- The findings about literal text. -/
def literalFindings (exclusions : SortedSet) (name : String) (text : List Char) :
    List Finding :=
  ((candidates name text).filter (isLiteral exclusions ·.value.cleaned)).map fun found =>
    ((Finding.warning .untranslatedText found.value.message).atLine found.line).inFile name

end CatalogLint.Template
