import CommandGrammar.Input.Cursor

/-!
# The longest alternative

Of the alternatives that stand at a cursor, ignoring case, the longest is chosen, and the
earliest of equally long ones. One choice looks through all of them in the order of their
declaration. The other has them sorted beforehand, so that the first hit decides.
-/

set_option autoImplicit false

namespace CommandGrammar

/-- Keeps a later alternative only if it is longer. -/
def preferLonger (c : Cursor) (best : Option String) (value : String) : Option String :=
  if c.shows value && best.all (·.length < value.length) then some value else best

def longestAt (c : Cursor) (values : List String) : Option String :=
  values.foldl (preferLonger c) none

def joinAlternatives (values : List String) : String :=
  " or ".intercalate values

structure Candidate where
  value : String
  length : Nat
  lowered : List Char
  deriving DecidableEq, Repr

def Candidate.ofValue (value : String) : Candidate :=
  ⟨value, value.length, Text.lower value.toList⟩

structure Ranking where
  candidates : List Candidate
  listing : String
  deriving DecidableEq, Repr

namespace Ranking

def ofValues (values : List String) : Ranking where
  candidates := (values.map Candidate.ofValue).mergeSort fun a b => b.length ≤ a.length
  listing := joinAlternatives values

def pick (a : Ranking) (c : Cursor) : Option Candidate :=
  a.candidates.find? fun candidate => c.windowIs candidate.length candidate.lowered

end Ranking

end CommandGrammar
