import CatalogLint.Text.Sweep

/-! # Comments of a template

    Comments are taken out of a template before anything is looked for in it.  Their
    line feeds stay, so that every other character keeps its line. -/

namespace CatalogLint.Template

open Text

/-- A comment: `<!--` and everything up to the first `-->` after it. -/
def scanComment : Scanner (List Char)
  | _, text =>
      match after? ['<', '!', '-', '-'] text with
      | none => none
      | some rest =>
          match splitOnce ['-', '-', '>'] rest with
          | none => none
          | some (body, _) =>
              some {
                value := body.filter (· == '\n')
                more := body.length + 6 }

/-- The template without its comments, but with their line feeds. -/
def stripComments (text : List Char) : List Char :=
  substitute scanComment text

end CatalogLint.Template
