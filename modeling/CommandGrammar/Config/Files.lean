import CommandGrammar.Config.Fault

/-!
# Files

What is found under a path, as far as reading a configuration asks: whether anything is there, and
its text. What is there may still refuse to be read.
-/

set_option autoImplicit false

namespace CommandGrammar

inductive Lookup where
  | missing (error : FileFault)
  | unreadable (error : FileFault)
  | file (bytes : List UInt8)
  deriving DecidableEq, Repr

def Lookup.isPresent : Lookup → Bool
  | missing _ => false
  | _ => true

def Lookup.text : Lookup → Except FileFault String
  | missing error | unreadable error => .error error
  | file bytes =>
    match String.fromUTF8? bytes.toByteArray with
    | some text => .ok text
    | none => .error .invalidUtf8

abbrev Files := String → Lookup

/-- A path that starts at the root stands for itself, any other is taken from `base`. -/
def joinPath (base path : String) : String :=
  if path.toList.head? == some '/' then path
  else if base.toList.getLast? == some '/' then base ++ path
  else base ++ "/" ++ path

end CommandGrammar
