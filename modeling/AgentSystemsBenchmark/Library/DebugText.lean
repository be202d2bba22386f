import AgentSystemsBenchmark.Library.Numerals

/-!
# Debug texts

The text a derived debug formatter prints for a sequence of numbers determines the
sequence: a number ends before the comma or the bracket that follows it.
-/

namespace DebugText

open List

/-- A path as its characters, with the bytes that are no part of any character. -/
inductive PathUnit where
  | char (c : Char)
  | byte (b : UInt8)
  deriving DecidableEq

/-- A path of the operating system. -/
abbrev OsPath := List PathUnit

def decimalText (n : Nat) : List Char := n.repr.toList

def moreNumbers : List Nat → List Char
  | [] => [']']
  | n :: rest => ',' :: ' ' :: (decimalText n ++ moreNumbers rest)

/-- Numbers separated by commas, up to the closing bracket. -/
def numbersText : List Nat → List Char
  | [] => ['[', ']']
  | n :: rest => '[' :: (decimalText n ++ moreNumbers rest)

end DebugText
