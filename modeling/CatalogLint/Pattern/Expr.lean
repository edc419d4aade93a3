import CatalogLint.Unicode.CharClass
import CatalogLint.Unicode.Word

/-! # Pattern expressions

    A pattern is a regular expression over characters, with conditions on the two
    neighbours of a position.  Only one question is asked of it, whether it occurs
    in a text, so its meaning is a map on sets of positions: `Expr.reach` takes the
    positions where a match may start to those where it may end.  A set of
    positions is kept as the bits of a number. -/

namespace CatalogLint.Pattern

open Unicode

/-! ## Conditions on a position -/

/-- A condition on the characters around a position.  Where words matter, the flag
    says whether words are made of all word characters or of the ASCII ones. -/
inductive Look where
  | textStart
  | textEnd
  | lineStart
  | lineEnd
  | anyLineStart
  | anyLineEnd
  | wordEdge (wide : Bool)
  | notWordEdge (wide : Bool)
  | wordStart (wide : Bool)
  | wordEnd (wide : Bool)
  | wordStartHalf (wide : Bool)
  | wordEndHalf (wide : Bool)
  deriving Repr, DecidableEq

namespace Look

/-- The neighbour exists and is part of a word. -/
def inWord (wide : Bool) (neighbour : Option Char) : Bool :=
  neighbour.any fun c => if wide then isWord c else isAsciiWord c

/-- The condition holds between two neighbours; a missing one is an end of the text.
    Lines end at a line feed, or (`anyLine…`) at a carriage return, a line feed, or
    the two together. -/
def holds : Look → Option Char → Option Char → Bool
  | .textStart, before, _ => before.isNone
  | .textEnd, _, after => after.isNone
  | .lineStart, before, _ => before.all (· == '\n')
  | .lineEnd, _, after => after.all (· == '\n')
  | .anyLineStart, before, after =>
      before.all fun c => c == '\n' || (c == '\r' && after != some '\n')
  | .anyLineEnd, before, after =>
      after.all fun c => c == '\r' || (c == '\n' && before != some '\r')
  | .wordEdge wide, before, after => inWord wide before != inWord wide after
  | .notWordEdge wide, before, after => inWord wide before == inWord wide after
  | .wordStart wide, before, after => !inWord wide before && inWord wide after
  | .wordEnd wide, before, after => inWord wide before && !inWord wide after
  | .wordStartHalf wide, before, _ => !inWord wide before
  | .wordEndHalf wide, _, after => !inWord wide after

end Look

/-! ## Expressions -/

/-- A regular expression.  `count inner least most` is `inner` repeated from `least`
    up to `most` times, or without bound. -/
inductive Expr where
  | empty
  | one (set : CharClass)
  | look (condition : Look)
  | seq (first second : Expr)
  | alt (first second : Expr)
  | count (inner : Expr) (least : Nat) (most : Option Nat)
  deriving Repr

/-! ## Sets of positions -/

/-- The positions of a text of this size at which a condition holds. -/
def positions (size : Nat) (holds : Nat → Bool) : Nat :=
  (List.range (size + 1)).foldl (fun bits i => if holds i then bits ||| 1 <<< i else bits) 0

/-- A step taken so often, stopping early once it changes nothing. -/
def stepTimes (step : Nat → Nat) : Nat → Nat → Nat
  | 0, bits => bits
  | n + 1, bits =>
      let next := step bits
      if next == bits then bits else stepTimes step n next

/-- All positions reached by up to so many steps, those already seen included. -/
def stepUpTo (step : Nat → Nat) : Nat → Nat → Nat
  | 0, seen => seen
  | n + 1, seen =>
      let next := seen ||| step seen
      if next == seen then seen else stepUpTo step n next

namespace Expr

/-- The positions where a match that starts in the given set can end. -/
def reach (text : Array Char) : Expr → Nat → Nat
  | .empty, bits => bits
  | .one set, bits =>
      (bits &&& positions text.size fun i => text[i]?.any fun c => set.contains c.toNat) <<< 1
  | .look condition, bits =>
      bits &&& positions text.size fun i =>
        condition.holds (if i = 0 then none else text[i - 1]?) text[i]?
  | .seq first second, bits => second.reach text (first.reach text bits)
  | .alt first second, bits => first.reach text bits ||| second.reach text bits
  | .count inner least most, bits =>
      let started := stepTimes (inner.reach text) least bits
      match most with
      | some most => stepUpTo (inner.reach text) (most - least) started
      | none => stepUpTo (inner.reach text) (text.size + 1) started

/-- The expression matches somewhere in the text. -/
def occursIn (expr : Expr) (text : String) : Bool :=
  let chars := text.toList.toArray
  expr.reach chars (positions chars.size fun _ => true) != 0

/-- The memory, in bytes, that a matcher needs for the expression: a state for each
    byte of a character, and a transition for each range of a class. -/
def weight : Expr → Nat
  | .empty => 32
  | .one set => if set.rangeCount ≤ 1 then 32 else 32 + 60 * set.rangeCount
  | .look _ => 32
  | .seq first second => first.weight + second.weight
  | .alt first second => first.weight + second.weight + 48
  | .count inner least most =>
      match most with
      | some most => inner.weight * most + 40 * (most - least)
      | none => inner.weight * (if least = 0 then 1 else least) + 40

end Expr

end CatalogLint.Pattern
