import CallGateway.Text.Cut

/-! Flags of a pattern. The letters in `(?i-u)` set the flags in front of the hyphen and unset those
behind it, for the rest of the group; those in `(?i-u:a)` do so for the group that they open. -/

namespace CallGateway.Text

inductive Flag
  | caseless
  | crlf
  | dotAll
  | lazy
  | multiLine
  | spaced
  | unicode
  deriving DecidableEq

def Flag.letters : List (Char × Flag) :=
  [('i', .caseless), ('R', .crlf), ('s', .dotAll), ('U', .lazy), ('m', .multiLine), ('x', .spaced),
    ('u', .unicode)]

def Flag.ofLetter? (c : Char) : Option Flag := letters.lookup c

structure Flags where
  set : List Flag := []
  unset : List Flag := []
  deriving DecidableEq

namespace Flags

/-- Letters around at most one hyphen, which is not the last sign. No letter comes twice. -/
def read? (cs : List Char) : Option Flags :=
  match (split '-' cs).mapM (·.mapM Flag.ofLetter?) with
  | some [set] => if set.Nodup then some { set } else none
  | some [set, unset] =>
    if !unset.isEmpty && (set ++ unset).Nodup then some { set, unset } else none
  | _ => none

/-- A flag of which nothing is said stays as it is. -/
def value (fs : Flags) (f : Flag) (before : Bool) : Bool :=
  fs.set.contains f || before && !fs.unset.contains f

end Flags

/-- What the flags say about characters. -/
structure Mode where
  caseless : Bool := false
  /-- Patterns speak of characters, not of bytes. -/
  unicode : Bool := true

def Mode.under (m : Mode) (fs : Flags) : Mode :=
  ⟨fs.value .caseless m.caseless, fs.value .unicode m.unicode⟩

end CallGateway.Text
