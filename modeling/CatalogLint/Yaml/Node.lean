import CatalogLint.Document
import CatalogLint.Yaml.Scalar
import CatalogLint.Yaml.Token

/-! # Nodes

    The nodes of a YAML document are its scalars, lists and maps.  A node with an anchor
    is kept under a number, and an alias is that number; so a node may well hold an
    alias of itself, and nothing goes wrong as long as nobody has to know all of it.
    `Yaml.read?` gives the document of a text that holds one at most. -/

namespace CatalogLint.Yaml

/-- A node of a document. -/
inductive Node where
  /-- A scalar with its tag in full. -/
  | scalar (text : String) (style : ScalarStyle) (tag : Option String)
  | items (nodes : List Node)
  | members (pairs : List (Node × Node))
  /-- The node that is kept under a number. -/
  | alias (number : Nat)

namespace Node

/-- The node that is not written down. -/
def missing : Node := .scalar "" .plain none

end Node

/-! ## Anchors -/

/-- The anchors of a document: their names with their numbers, the latest first, and
    the nodes that are complete. -/
structure Anchors where
  names : List (String × Nat) := []
  nodes : List (Nat × Node) := []

namespace Anchors

/-- A number for the node with the given anchor, which has just begun. -/
def start (anchors : Anchors) (name : Option String) : Option Nat × Anchors :=
  match name with
  | some name =>
      let number := anchors.names.length
      (some number, { anchors with names := (name, number) :: anchors.names })
  | none => (none, anchors)

/-- The anchors with a complete node kept under its number. -/
def complete (anchors : Anchors) (number : Option Nat) (node : Node) : Anchors :=
  match number with
  | some number => { anchors with nodes := (number, node) :: anchors.nodes }
  | none => anchors

end Anchors

/-- What was read of a document, with the anchors so far and the tokens after it. -/
structure Partial (α : Type) where
  value : α
  anchors : Anchors
  rest : List Token

namespace Partial

/-- The same place in the text with another value. -/
def map {α β : Type} (f : α → β) (part : Partial α) : Partial β :=
  { part with value := f part.value }

end Partial

/-! ## Nodes from tokens -/

/-- The anchor and the tag that a node starts with, in either order, and what
    follows. -/
def readProperties (tokens : List Token) : Option String × Option Tag × List Token :=
  match tokens with
  | .anchor name :: .tag tag :: rest => (some name, some tag, rest)
  | .tag tag :: .anchor name :: rest => (some name, some tag, rest)
  | .anchor name :: rest => (some name, none, rest)
  | .tag tag :: rest => (none, some tag, rest)
  | _ => (none, none, tokens)

/-- A tag in full; its handle has to be known. -/
def resolveTag (handles : List (String × String)) (tag : Tag) : Option String :=
  if tag.handle.isEmpty then some tag.suffix
  else (handles.lookup tag.handle).map (· ++ tag.suffix)

/-- The next token ends an item or a part of a member of a block, so that there is no
    node. -/
def endsBlockPart (inMembers : Bool) : List Token → Bool
  | .name :: _ | .value :: _ => inMembers
  | .dash :: _ => !inMembers
  | .closeBlock :: _ => true
  | _ => false

/-- The next token ends an item of a list that is as deep as the member it belongs to. -/
def endsLooseItem : List Token → Bool
  | .name :: _ | .value :: _ | .dash :: _ | .closeBlock :: _ => true
  | _ => false

/-- The next token ends the value of a member in brackets of a kind. -/
def endsFlowValue (close : Token) : List Token → Bool
  | token :: _ => token == .comma || token == close
  | [] => false

/-- The next token ends the name of a member in brackets of a kind. -/
def endsFlowName (close : Token) : List Token → Bool
  | token :: _ => token == .value || token == .comma || token == close
  | [] => false

/-- What follows a comma between the parts of what stands in brackets; the first part
    has none before it. -/
def skipComma (atFirst : Bool) (tokens : List Token) : Option (List Token) :=
  if atFirst then some tokens
  else
    match tokens with
    | .comma :: rest => some rest
    | _ => none

mutual

/-- The node at the start of tokens.  Outside brackets it may be a block, and as a part
    of a member a list that is no deeper than the member. -/
def readNode (handles : List (String × String)) (fuel : Nat) (inBlock loose : Bool)
    (anchors : Anchors) (tokens : List Token) : Option (Partial Node) :=
  match fuel with
  | 0 => none
  | fuel + 1 =>
      match tokens with
      | .alias name :: rest =>
          (anchors.names.lookup name).map fun number => ⟨.alias number, anchors, rest⟩
      | _ => do
          let (anchor, tag, rest) := readProperties tokens
          let fullTag ←
            match tag with
            | some tag => (resolveTag handles tag).map some
            | none => some none
          let (number, anchors) := anchors.start anchor
          let empty : Option (Partial Node) :=
            if anchor.isSome || tag.isSome then some ⟨.scalar "" .plain fullTag, anchors, rest⟩
            else none
          let part ←
            match rest with
            | .scalar text style :: rest => some ⟨.scalar text style fullTag, anchors, rest⟩
            | .openBracket :: rest =>
                (readFlowItems handles fuel true anchors rest).map (·.map Node.items)
            | .openBrace :: rest =>
                (readFlowMembers handles fuel true anchors rest).map (·.map Node.members)
            | .openItems :: inner =>
                if inBlock then (readItems handles fuel anchors inner).map (·.map Node.items)
                else empty
            | .openMembers :: inner =>
                if inBlock then (readMembers handles fuel anchors inner).map (·.map Node.members)
                else empty
            | .dash :: _ =>
                if loose then (readLooseItems handles fuel anchors rest).map (·.map Node.items)
                else empty
            | _ => empty
          return { part with anchors := part.anchors.complete number part.value }

/-- The node at the start of tokens, unless there is none. -/
def readPart (handles : List (String × String)) (fuel : Nat) (isMissing inBlock loose : Bool)
    (anchors : Anchors) (tokens : List Token) : Option (Partial Node) :=
  match fuel with
  | 0 => none
  | fuel + 1 =>
      if isMissing then some ⟨.missing, anchors, tokens⟩
      else readNode handles fuel inBlock loose anchors tokens

/-- The items of a block, and its end. -/
def readItems (handles : List (String × String)) (fuel : Nat) (anchors : Anchors)
    (tokens : List Token) : Option (Partial (List Node)) :=
  match fuel with
  | 0 => none
  | fuel + 1 =>
      match tokens with
      | .closeBlock :: rest => some ⟨[], anchors, rest⟩
      | .dash :: rest => do
          let item ←
            readPart handles fuel (endsBlockPart false rest) true false anchors rest
          let others ← readItems handles fuel item.anchors item.rest
          return others.map (item.value :: ·)
      | _ => none

/-- The items of a list that is as deep as the member it belongs to. -/
def readLooseItems (handles : List (String × String)) (fuel : Nat) (anchors : Anchors)
    (tokens : List Token) : Option (Partial (List Node)) :=
  match fuel with
  | 0 => none
  | fuel + 1 =>
      match tokens with
      | .dash :: rest => do
          let item ← readPart handles fuel (endsLooseItem rest) true false anchors rest
          let others ← readLooseItems handles fuel item.anchors item.rest
          return others.map (item.value :: ·)
      | _ => some ⟨[], anchors, tokens⟩

/-- The members of a block, and its end. -/
def readMembers (handles : List (String × String)) (fuel : Nat) (anchors : Anchors)
    (tokens : List Token) : Option (Partial (List (Node × Node))) :=
  match fuel with
  | 0 => none
  | fuel + 1 =>
      match tokens with
      | .closeBlock :: rest => some ⟨[], anchors, rest⟩
      | .name :: rest => do
          let name ← readPart handles fuel (endsBlockPart true rest) true true anchors rest
          let value ←
            match name.rest with
            | .value :: rest =>
                readPart handles fuel (endsBlockPart true rest) true true name.anchors rest
            | rest => some ⟨.missing, name.anchors, rest⟩
          let others ← readMembers handles fuel value.anchors value.rest
          return others.map ((name.value, value.value) :: ·)
      | _ => none

/-- The value of a member in brackets of a kind, which may be missing. -/
def readFlowValue (handles : List (String × String)) (fuel : Nat) (close : Token)
    (anchors : Anchors) (tokens : List Token) : Option (Partial Node) :=
  match fuel with
  | 0 => none
  | fuel + 1 =>
      match tokens with
      | .value :: rest =>
          readPart handles fuel (endsFlowValue close rest) false false anchors rest
      | _ => some ⟨.missing, anchors, tokens⟩

/-- The items in square brackets, and their end.  An item may be a single member; if it
    has no name, the token that shows this is lost. -/
def readFlowItems (handles : List (String × String)) (fuel : Nat) (atFirst : Bool)
    (anchors : Anchors) (tokens : List Token) : Option (Partial (List Node)) :=
  match fuel with
  | 0 => none
  | fuel + 1 =>
      match tokens with
      | .closeBracket :: rest => some ⟨[], anchors, rest⟩
      | _ => do
          let tokens ← skipComma atFirst tokens
          match tokens with
          | .closeBracket :: rest => return ⟨[], anchors, rest⟩
          | .name :: rest =>
              let isMissing := endsFlowName .closeBracket rest
              let name ←
                readPart handles fuel isMissing false false anchors
                  (if isMissing then rest.tail else rest)
              let value ← readFlowValue handles fuel .closeBracket name.anchors name.rest
              let others ← readFlowItems handles fuel false value.anchors value.rest
              return others.map (.members [(name.value, value.value)] :: ·)
          | _ =>
              let item ← readNode handles fuel false false anchors tokens
              let others ← readFlowItems handles fuel false item.anchors item.rest
              return others.map (item.value :: ·)

/-- The members in curly brackets, and their end. -/
def readFlowMembers (handles : List (String × String)) (fuel : Nat) (atFirst : Bool)
    (anchors : Anchors) (tokens : List Token) : Option (Partial (List (Node × Node))) :=
  match fuel with
  | 0 => none
  | fuel + 1 =>
      match tokens with
      | .closeBrace :: rest => some ⟨[], anchors, rest⟩
      | _ => do
          let tokens ← skipComma atFirst tokens
          match tokens with
          | .closeBrace :: rest => return ⟨[], anchors, rest⟩
          | .name :: rest =>
              let name ←
                readPart handles fuel (endsFlowName .closeBrace rest) false false anchors rest
              let value ← readFlowValue handles fuel .closeBrace name.anchors name.rest
              let others ← readFlowMembers handles fuel false value.anchors value.rest
              return others.map ((name.value, value.value) :: ·)
          | _ =>
              let name ← readNode handles fuel false false anchors tokens
              let others ← readFlowMembers handles fuel false name.anchors name.rest
              return others.map ((name.value, .missing) :: ·)

end

/-! ## Documents -/

/-- The handles that a document may use: those that its directives explain, each of
    them once, and the two standard ones where they are not explained.  The version may
    be given once. -/
def readDirectives (seenVersion : Bool) (handles : List (String × String)) :
    List Token → Option (List (String × String) × List Token)
  | .directive .version :: rest =>
      if seenVersion then none else readDirectives true handles rest
  | .directive (.handle handle start) :: rest =>
      if (handles.lookup handle).isSome then none
      else readDirectives seenVersion ((handle, start) :: handles) rest
  | tokens => some (handles ++ [("!", "!"), ("!!", "tag:yaml.org,2002:")], tokens)

/-- A document: its node, and the nodes that its aliases stand for. -/
structure Tree where
  node : Node
  anchored : List (Nat × Node)

namespace Tree

/-- The node of a document as it is written, behind its alias. -/
def shown (tree : Tree) : Node :=
  match tree.node with
  | .alias number => (tree.anchored.lookup number).getD (.alias number)
  | node => node

/-- Another node of the same document. -/
def withNode (tree : Tree) (node : Node) : Tree :=
  { tree with node }

/-- The text of a scalar. -/
def text? (tree : Tree) : Option String :=
  match tree.shown with
  | .scalar text _ _ => some text
  | _ => none

/-- The node is not written down. -/
def isMissing (tree : Tree) : Bool :=
  match tree.shown with
  | .scalar "" .plain _ => true
  | _ => false

end Tree

/-- The document of a text that holds one at most, and perhaps marks of the end after
    it.  A text without a document stands for a missing node. -/
def read? (text : String) : Option Tree := do
  let tokens ← tokens? text
  match tokens with
  | [] => return ⟨.missing, []⟩
  | token :: _ =>
      let isExplicit :=
        match token with
        | .directive _ | .documentStart => true
        | _ => false
      let (handles, tokens) ← readDirectives false [] tokens
      let tokens ←
        match isExplicit, tokens with
        | true, .documentStart :: rest => some rest
        | true, _ => none
        | false, tokens => some tokens
      let isMissing :=
        isExplicit &&
          match tokens with
          | [] | .directive _ :: _ | .documentStart :: _ | .documentEnd :: _ => true
          | _ => false
      let part ← readPart handles (4 * tokens.length + 4) isMissing true false {} tokens
      if part.rest.all (· == .documentEnd) then return ⟨part.value, part.anchors.nodes⟩ else none

instance : Document Tree where
  text? := Tree.text?
  flag? tree :=
    match tree.shown with
    | .scalar text .plain _ => flagWord? text
    | .scalar text .literal (some "tag:yaml.org,2002:bool") => flagWord? text
    | _ => none
  natural? _ := none
  isNull tree := tree.isMissing
  items? tree :=
    match tree.shown with
    | .items nodes => some (nodes.map tree.withNode)
    | _ => if tree.isMissing then some [] else none
  members? tree :=
    match tree.shown with
    | .members pairs =>
        pairs.mapM fun (name, value) => ((tree.withNode name).text?).map (·, tree.withNode value)
    | _ => if tree.isMissing then some [] else none
  positions? _ := none

end CatalogLint.Yaml
