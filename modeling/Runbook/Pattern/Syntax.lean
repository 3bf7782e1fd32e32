import Runbook.Pattern.Place
/-! The written form of patterns as trees. Alternatives and sequences hang to the right: a first
part and the rest of them. -/
namespace Runbook.Pattern

/-- A character as it is written. -/
structure Letter where
  char : Char
  /-- Whether it is written as one byte, by two hexadecimal digits. -/
  byte : Bool
  deriving DecidableEq, Repr

/-- The sets with a letter of their own. -/
inductive Shorthand where
  | digit
  | space
  | word
  deriving DecidableEq, Repr

/-- A question for characters with a property. -/
inductive Query where
  | named (name : String)
  | valued (property value : String)
  deriving DecidableEq, Repr

inductive SetOperation where
  | intersection
  | difference
  | symmetricDifference
  deriving DecidableEq, Repr

inductive SetSyntax where
  | nothing
  | letter (l : Letter)
  | range (first last : Letter)
  /-- A set of ASCII characters by its name. -/
  | ascii (name : String) (negated : Bool)
  | query (q : Query) (negated : Bool)
  | shorthand (s : Shorthand) (negated : Bool)
  | bracket (negated : Bool) (body : SetSyntax)
  | joined (first rest : SetSyntax)
  | combined (op : SetOperation) (left right : SetSyntax)
  deriving DecidableEq, Repr

/-- Places, before it is settled what lines and words are. -/
inductive PlaceSyntax where
  | lineStart
  | lineEnd
  | textStart
  | textEnd
  | word (place : WordPlace)
  deriving DecidableEq, Repr

inductive Flag where
  | ignoreCase
  | multiLine
  | dotAll
  /-- Repetitions that prefer long matches prefer short ones, and the other way round. -/
  | swapGreed
  | unicode
  | crlf
  /-- Blanks and remarks between the parts do not count. -/
  | verbose
  deriving DecidableEq, Repr

/-- Flags that are set or taken away. -/
abbrev FlagChange := List (Flag × Bool)

inductive Syntax where
  | empty
  | letter (l : Letter)
  | dot
  | place (p : PlaceSyntax)
  | set (s : SetSyntax)
  /-- Flags for what follows in the same group. -/
  | flags (change : FlagChange)
  | capture (body : Syntax)
  | group (change : FlagChange) (body : Syntax)
  | repeated (body : Syntax) (least : Nat) (most : Option Nat) (prefersShort : Bool)
  | sequence (first rest : Syntax)
  | either (first rest : Syntax)
  deriving DecidableEq, Repr

namespace SetSyntax

def isJoined : SetSyntax → Bool
  | joined _ _ => true
  | _ => false

/-- Members of a bracket as one. -/
def ofMembers : List SetSyntax → SetSyntax
  | [] => nothing
  | [s] => s
  | s :: rest => joined s (ofMembers rest)

/-- How deep the brackets, rows and operations of a set are nested. -/
def depth : SetSyntax → Nat
  | bracket _ body => body.depth + 1
  | joined first rest =>
    max (first.depth + 1) (if rest.isJoined then rest.depth else rest.depth + 1)
  | combined _ left right => max left.depth right.depth + 1
  | _ => 0

end SetSyntax

namespace Syntax

def isSequence : Syntax → Bool
  | sequence _ _ => true
  | _ => false

def isEither : Syntax → Bool
  | either _ _ => true
  | _ => false

def ofSequence : List Syntax → Syntax
  | [] => empty
  | [s] => s
  | s :: rest => sequence s (ofSequence rest)

def ofAlternatives : List Syntax → Syntax
  | [] => empty
  | [s] => s
  | s :: rest => either s (ofAlternatives rest)

/-- How deep groups, repetitions, sequences, alternatives and brackets are nested. -/
def depth : Syntax → Nat
  | set s => s.depth
  | capture body | group _ body | repeated body _ _ _ => body.depth + 1
  | sequence first rest =>
    max (first.depth + 1) (if rest.isSequence then rest.depth else rest.depth + 1)
  | either first rest =>
    max (first.depth + 1) (if rest.isEither then rest.depth else rest.depth + 1)
  | _ => 0

/-- How deep a pattern may be nested. -/
def depthLimit : Nat := 250

end Syntax

end Runbook.Pattern
