import CommandGrammar.Grammar.Definition
import CommandGrammar.Grammar.Lexeme

/-!
# Reading a definition

A definition is read from its tokens one at a time. Between two tokens the reader holds the
nodes that are complete and what it expects next, so every fault is that of the first token
that cannot be continued, or of an opening bracket when the tokens run out.
-/

set_option autoImplicit false

namespace CommandGrammar

structure Opening where
  bracket : Bracket
  pos : Nat
  deriving DecidableEq, Repr

def Opening.unclosed (o : Opening) : GrammarFault :=
  match o.bracket with
  | .angle => .unclosedAngleBracket o.pos
  | .square => .unclosedSquareBracket o.pos

/-- The place the reader has reached. Inside a parameter it remembers the opening bracket and
what has been read behind it. -/
inductive Expecting where
  | item
  | name (opening : Opening)
  | colon (opening : Opening) (name : String)
  | type (opening : Opening) (name : String)
  | closing (opening : Opening) (name : String) (type : ParamType)
  | pipeOrClosing (opening : Opening) (name : String) (values : List String)
  | value (opening : Opening) (name : String) (values : List String) (pipe : Nat)
  deriving DecidableEq, Repr

structure Reader where
  nodes : List Node
  expecting : Expecting
  deriving DecidableEq, Repr

def Positioned.unexpected (t : Positioned) : GrammarFault :=
  .unexpectedToken t.pos t.token.display

namespace Reader

def start : Reader := ⟨[], .item⟩

def expect (r : Reader) (e : Expecting) : Reader := { r with expecting := e }

def push (r : Reader) (node : Node) : Reader := ⟨r.nodes ++ [node], .item⟩

def close (r : Reader) (o : Opening) (name : String) (type : ParamType) :
    Except GrammarFault Reader :=
  if name ∈ Definition.paramNames r.nodes then .error (.duplicateParam name)
  else .ok (r.push (.param ⟨name, o.bracket.isOptional, type⟩))

def choose (r : Reader) (o : Opening) (name : String) (values : List String) (pos : Nat)
    (value : String) : Except GrammarFault Reader :=
  if value = "" then .error (.emptyAlternative pos)
  else .ok (r.expect (.pipeOrClosing o name (values ++ [value])))

def step (r : Reader) (t : Positioned) : Except GrammarFault Reader :=
  match r.expecting with
  | .item =>
    match t.token with
    | .literal word => .ok (r.push (.literal [word]))
    | .alternation words => .ok (r.push (.literal words))
    | .opening b => .ok (r.expect (.name ⟨b, t.pos⟩))
    | _ => .error t.unexpected
  | .name o =>
    match t.token with
    | .literal name => .ok (r.expect (.colon o name))
    | token =>
      if token = .colon ∨ token = .closing o.bracket then .error (.missingParamName t.pos)
      else .error t.unexpected
  | .colon o name =>
    if t.token = .colon then .ok (r.expect (.type o name))
    else if t.token = .closing o.bracket then .error (.missingParamType name)
    else .error t.unexpected
  | .type o name =>
    match t.token with
    | .literal type => .ok (r.expect (.closing o name (.typename type)))
    | .quoted value => r.choose o name [] t.pos value
    | token =>
      if token = .closing o.bracket then .error (.missingParamType name)
      else .error t.unexpected
  | .closing o name type =>
    if t.token = .closing o.bracket then r.close o name type
    else .error t.unexpected
  | .pipeOrClosing o name values =>
    if t.token = .pipe then .ok (r.expect (.value o name values t.pos))
    else if t.token = .closing o.bracket then r.close o name (.choice values)
    else .error t.unexpected
  | .value o name values pipe =>
    match t.token with
    | .quoted value => r.choose o name values t.pos value
    | token =>
      if token = .closing o.bracket then .error (.emptyAlternative pipe)
      else .error t.unexpected

def finish (r : Reader) : Except GrammarFault Definition :=
  match r.expecting with
  | .item => .ok r.nodes
  | .name o | .colon o _ | .type o _ | .closing o _ _ | .pipeOrClosing o _ _ | .value o _ _ _ =>
    .error o.unclosed

end Reader

namespace Definition

def ofTokens (tokens : List Positioned) : Except GrammarFault Definition :=
  if tokens.isEmpty then .error .empty
  else do
    let r ← tokens.foldlM Reader.step Reader.start
    r.finish

def parse (grammar : String) : Except GrammarFault Definition := do
  let tokens ← tokenize grammar
  ofTokens tokens

end Definition

end CommandGrammar
