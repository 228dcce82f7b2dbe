import FaultInjection.Text.Ranges

namespace FaultInjection

namespace Regex

inductive Flag
  | ignoreCase
  | multiLine
  | dotNewline
  | swapGreed
  | unicode
  | crlf
  | ignoreSpace
  deriving DecidableEq, Repr

abbrev FlagChange := Flag × Bool

/-- A character; `byte` marks one that was written as two hexadecimal digits. -/
structure Literal where
  char : Char
  byte : Bool := false
  deriving DecidableEq, Repr

inductive Posix
  | alnum | alpha | ascii | blank | cntrl | digit | graph | lower | print | punct | space | upper
  | word | xdigit
  deriving DecidableEq, Repr

inductive Named
  | digit
  | space
  | word
  | posix (k : Posix)
  | property (set : Text.Ranges)
  deriving DecidableEq, Repr

inductive SetOp
  | meet
  | minus
  | differ
  deriving DecidableEq, Repr

inductive ClassSet
  | nothing
  | literal (l : Literal)
  | range (lo hi : Literal)
  | named (n : Named) (negated : Bool)
  | bracket (negated : Bool) (inner : ClassSet)
  | union (items : List ClassSet)
  | op (o : SetOp) (lhs rhs : ClassSet)

inductive Mark
  | caret
  | dollar
  | textStart
  | textEnd
  | boundary
  | notBoundary
  | wordStart
  | wordEnd
  | wordStartHalf
  | wordEndHalf
  deriving DecidableEq, Repr

end Regex

open Regex in
inductive Regex
  | empty
  | flags (changes : List FlagChange)
  | literal (l : Literal)
  | dot
  | mark (m : Mark)
  | named (n : Named) (negated : Bool)
  | bracket (negated : Bool) (set : ClassSet)
  | rep (r : Regex) (least : Nat) (most : Option Nat)
  | group (captures : Bool) (name : Option String) (changes : List FlagChange) (r : Regex)
  | alt (rs : List Regex)
  | seq (rs : List Regex)

namespace Regex

mutual

def ClassSet.height : ClassSet → Nat
  | .nothing | .literal _ | .range .. | .named .. => 0
  | .bracket _ s => s.height + 1
  | .union items => heights items + 1
  | .op _ s t => max s.height t.height + 1

def ClassSet.heights : List ClassSet → Nat
  | [] => 0
  | s :: ss => max s.height (heights ss)

end

mutual

def height : Regex → Nat
  | .empty | .flags _ | .literal _ | .dot | .mark _ | .named .. => 0
  | .bracket _ s => s.height + 1
  | .rep r .. => r.height + 1
  | .group _ _ _ r => r.height + 1
  | .alt rs => heights rs + 1
  | .seq rs => heights rs + 1

def heights : List Regex → Nat
  | [] => 0
  | r :: rs => max r.height (heights rs)

end

mutual

def groupNames : Regex → List String
  | .group _ name _ r => name.toList ++ r.groupNames
  | .rep r .. => r.groupNames
  | .alt rs => groupNamesAll rs
  | .seq rs => groupNamesAll rs
  | _ => []

def groupNamesAll : List Regex → List String
  | [] => []
  | r :: rs => r.groupNames ++ groupNamesAll rs

end

end Regex
end FaultInjection
