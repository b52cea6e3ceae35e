/-!
# YAML values

A scalar keeps how it was written, because only plain text can mean null. A mapping keeps its
entries as they are written. Two keys are the same when they say the same, however they are
written.
-/

set_option autoImplicit false

namespace CommandGrammar

inductive ScalarStyle where
  | plain
  | quoted
  | block
  deriving DecidableEq, Repr

inductive Yaml where
  | scalar (style : ScalarStyle) (text : String)
  | seq (items : List Yaml)
  | map (entries : List (Yaml × Yaml))
  deriving Repr, Inhabited

namespace Yaml

inductive Fault where
  | unclosed
  | indentation
  | tab
  | escape
  | header
  | comment
  | keyWithoutValue
  | unexpected
  | duplicateKey
  | merge
  | severalDocuments
  | shape
  | missingField (name : String)
  | depth
  deriving DecidableEq, Repr

def Fault.message : Fault → String
  | unclosed => "a quote or bracket is not closed"
  | indentation => "wrong indentation"
  | tab => "a tab in the indentation"
  | escape => "unknown escape"
  | header => "bad block header"
  | comment => "a comment needs a blank before it"
  | keyWithoutValue => "a key without a value"
  | unexpected => "unexpected token"
  | duplicateKey => "duplicate key"
  | merge => "merge keys are not read"
  | severalDocuments => "more than one document"
  | shape => "unexpected kind of value"
  | missingField name => "missing field " ++ name
  | depth => "nested too deeply"

def null : Yaml := scalar .plain "~"

def isNullWord (text : String) : Bool :=
  text = "~" || text.toList.map Char.toLower = ['n', 'u', 'l', 'l']

def isNull : Yaml → Bool
  | scalar .plain text => isNullWord text
  | _ => false

mutual

def same : Yaml → Yaml → Bool
  | scalar _ s, scalar _ t => s == t
  | seq xs, seq ys => sameItems xs ys
  | map xs, map ys => sameEntries xs ys
  | _, _ => false

def sameItems : List Yaml → List Yaml → Bool
  | [], [] => true
  | x :: xs, y :: ys => same x y && sameItems xs ys
  | _, _ => false

def sameEntries : List (Yaml × Yaml) → List (Yaml × Yaml) → Bool
  | [], [] => true
  | (key, x) :: xs, (other, y) :: ys => same key other && same x y && sameEntries xs ys
  | _, _ => false

end

mutual

def depth : Yaml → Nat
  | scalar _ _ => 0
  | seq items => itemsDepth items + 1
  | map entries => entriesDepth entries + 1

def itemsDepth : List Yaml → Nat
  | [] => 0
  | x :: rest => max (depth x) (itemsDepth rest)

def entriesDepth : List (Yaml × Yaml) → Nat
  | [] => 0
  | (key, x) :: rest => max (max (depth key) (depth x)) (entriesDepth rest)

end

end Yaml

end CommandGrammar
