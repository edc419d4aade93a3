import CatalogLint.Finding
import CatalogLint.Text.Sweep
import CatalogLint.Unicode.Blank
import CatalogLint.Unicode.Word

/-! # References to keys

    A template refers to a key by the directive `translate="KEY"` or by the filter
    `'KEY' | translate`.  Two mistakes are looked for as well: a directive whose value
    goes through the filter, and a filter whose operand is not quoted. -/

namespace CatalogLint.Template

open Text Unicode

/-! ## Small readers -/

/-- The word of both syntaxes. -/
def translateWord : List Char :=
  ['t', 'r', 'a', 'n', 's', 'l', 'a', 't', 'e']

/-- The text after the white space at its start. -/
def skipBlanks (text : List Char) : List Char :=
  text.dropWhile isBlank

/-- The text after a word and the opening quote of its value, as in `word = "`. -/
def afterAssignment? (word text : List Char) : Option (List Char) :=
  match after? word text with
  | none => none
  | some rest =>
      match skipBlanks rest with
      | '=' :: rest =>
          match skipBlanks rest with
          | '"' :: rest => some rest
          | _ => none
      | _ => none

/-- The text after a bar and the word of the filter. -/
def afterFilter? : List Char → Option (List Char)
  | '|' :: rest => after? translateWord (skipBlanks rest)
  | _ => none

/-- How many characters lie between the start of a text and a later rest of it. -/
def distance (text rest : List Char) : Nat :=
  text.length - rest.length

/-- A scanner for an attribute: it stands at the start of the text, or after white
    space or `<`, which then belongs to the match. -/
def scanAttribute {α : Type} (read : List Char → Option (α × List Char))
    (offset : List Char → Nat) : Scanner α
  | before, text =>
      let atStart :=
        if before.isNone then
          (read text).map fun (value, rest) =>
            { value, more := distance text rest - 1, offset := offset text }
        else none
      match atStart, text with
      | some hit, _ => some hit
      | none, c :: tail =>
          if isBlank c || c == '<' then
            (read tail).map fun (value, rest) =>
              { value, more := distance tail rest, offset := offset tail + 1 }
          else none
      | none, [] => none

/-! ## Mixed syntax -/

/-- A directive whose value holds a filter, from its name to the word of the filter. -/
def readMixed (text : List Char) : Option (Unit × List Char) :=
  match afterAssignment? translateWord text with
  | none => none
  | some rest =>
      let inner := rest.takeWhile fun c => c != '<' && c != '>' && c != '|' && c != '"'
      (afterFilter? (rest.drop inner.length)).map ((), ·)

/-- Attributes that mix the directive and the filter. -/
def scanMixed : Scanner Unit :=
  scanAttribute readMixed fun _ => 0

/-- The findings about attributes that mix the directive and the filter. -/
def mixedFindings (name : String) (text : List Char) : List Finding :=
  (sweep scanMixed text).map fun found =>
    ((Finding.error .mixedTranslateSyntax
      ("Do NOT mix the translate directive and the translate filter. File in error: "
        ++ name)).atLine found.line).inFile name

/-! ## References -/

/-- A directive and its key. -/
def readDirective (text : List Char) : Option (List Char × List Char) :=
  match afterAssignment? translateWord text with
  | none => none
  | some rest =>
      let key := rest.takeWhile fun c => c != '"' && !isBlank c
      match key, rest.drop key.length with
      | _ :: _, '"' :: rest => some (key, rest)
      | _, _ => none

/-- Keys of directives, at the place of the key. -/
def scanDirective : Scanner (List Char) :=
  scanAttribute readDirective fun text =>
    match afterAssignment? translateWord text with
    | some rest => distance text rest
    | none => 0

/-- The word goes on at the start of the text. -/
def startsInWord (text : List Char) : Bool :=
  text.head?.any isWord

/-- Keys of filters: a quoted key, a bar, and the word of the filter. -/
def scanFilter : Scanner (List Char)
  | _, '\'' :: rest =>
      let key := rest.takeWhile fun c => c != '\'' && !isBlank c
      match key, rest.drop key.length with
      | _ :: _, '\'' :: tail =>
          match afterFilter? (skipBlanks tail) with
          | some tail =>
              if startsInWord tail then none
              else some { value := key, more := distance rest tail, offset := 1 }
          | none => none
      | _, _ => none
  | _, _ => none

/-- A key that a template refers to, and the line it stands on. -/
structure Reference where
  key : String
  line : Nat
  deriving DecidableEq, Repr

/-- A key found by a scanner as a reference. -/
def toReference (found : Located (List Char)) : Reference :=
  ⟨String.ofList found.value, found.line⟩

/-- The keys that a template refers to: those of directives, then those of filters. -/
def references (text : List Char) : List Reference :=
  (sweep scanDirective text).map toReference ++ (sweep scanFilter text).map toReference

/-! ## Unquoted operands -/

/-- The operand of a filter in braces that is not quoted: all of it but the white space
    before it.  An operand of white space alone is its last character. -/
def operandOf (run : List Char) : List Char :=
  match skipBlanks run with
  | [] => run.drop (run.length - 1)
  | operand => operand

/-- Operands of filters in braces that hold no quote, bar or brace. -/
def scanOperand : Scanner (List Char)
  | _, '\x7b' :: '\x7b' :: rest =>
      let run := rest.takeWhile fun c => c != '\'' && c != '|' && c != '\x7b' && c != '\x7d'
      if run.isEmpty then none
      else
        match afterFilter? (rest.drop run.length) with
        | some tail =>
            match skipBlanks tail with
            | '\x7d' :: '\x7d' :: tail =>
                let operand := operandOf run
                some {
                  value := operand
                  more := distance rest tail + 1
                  offset := run.length - operand.length + 2 }
            | _ => none
        | none => none
  | _, _ => none

/-- The findings about filters whose operand is neither quoted nor a call. -/
def malformedFindings (name : String) (text : List Char) : List Finding :=
  ((sweep scanOperand text).filter (!·.value.contains '(')).map fun found =>
    ((Finding.error .malformedFilter
      ("Malformed declaration with the translate filter in " ++ name
        ++ ". The key must be surrounded with quotes. Key name: "
        ++ String.ofList (trim found.value))).atLine found.line).inFile name

end CatalogLint.Template
