import CommandGrammar.Text.Blank
import CommandGrammar.Text.Pieces

/-!
# Tokens of a grammar text

Words, quoted values and punctuation. A word with slashes stands for all of its parts.
-/

set_option autoImplicit false

namespace CommandGrammar

/-- Angle brackets hold a required parameter, square brackets one that may be left out. -/
inductive Bracket where
  | angle
  | square
  deriving DecidableEq, Repr

def Bracket.isOptional : Bracket → Bool
  | angle => false
  | square => true

inductive Token where
  | literal (word : String)
  | alternation (words : List String)
  | quoted (value : String)
  | opening (bracket : Bracket)
  | closing (bracket : Bracket)
  | colon
  | pipe
  deriving DecidableEq, Repr

structure Positioned where
  pos : Nat
  token : Token
  deriving DecidableEq, Repr

namespace Token

def display : Token → String
  | literal word => "'" ++ word ++ "'"
  | alternation words => "'" ++ "/".intercalate words ++ "'"
  | quoted value => "\"" ++ value ++ "\""
  | opening .angle => "'<'"
  | closing .angle => "'>'"
  | opening .square => "'['"
  | closing .square => "']'"
  | colon => "':'"
  | pipe => "'|'"

def ofMark? : Char → Option Token
  | '<' => some (opening .angle)
  | '>' => some (closing .angle)
  | '[' => some (opening .square)
  | ']' => some (closing .square)
  | ':' => some colon
  | '|' => some pipe
  | _ => none

def isWordChar (c : Char) : Bool :=
  !Text.isBlank c && (ofMark? c).isNone && c != '"'

/-- A word without a slash is a literal. With slashes it is an alternation, if no part is
empty. -/
def ofWord? (word : List Char) : Option Token :=
  if !word.contains '/' then some (literal (String.ofList word))
  else if (Text.pieces '/' word).contains [] then none
  else some (alternation ((Text.pieces '/' word).map String.ofList))

end Token

end CommandGrammar
