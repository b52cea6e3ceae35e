import CommandGrammar.Shell.Yaml.Gap

/-!
# Quoted scalars

Between single quotes only a quote is special, and is written twice. Between double quotes a
backslash begins an escape or hides a line end.
-/

set_option autoImplicit false

namespace CommandGrammar.Yaml

structure Body where
  text : String
  gap : Gap
  place : Place
  deriving DecidableEq, Repr

namespace Body

def pass (least : Int) (b : Body) (c : Char) (rest : List Char) : Except Fault Body :=
  let next := b.place.pass c rest
  if c = '\n' then .ok { b with gap := b.gap.addBreak, place := next }
  else if c = '\t' ∧ b.gap.crosses ∧ b.place.column < least then .error .tab
  else .ok { b with gap := b.gap.addBlank c, place := next }

def settle (least : Int) (b : Body) : Except Fault Body :=
  let p := b.place
  if b.gap.crosses ∧ (p.column < least ∨ (p.column = 0 ∧ startsMarker p.rest)) then
    .error .indentation
  else .ok { b with text := b.text ++ b.gap.text, gap := .none }

def skip (b : Body) (c : Char) (rest : List Char) : Body :=
  { b with place := b.place.pass c rest }

def push (b : Body) (e c : Char) (rest : List Char) : Body :=
  { b with text := b.text.push e, place := b.place.pass c rest }

def hideBreak (b : Body) (rest : List Char) : Body :=
  { b with gap := .hidden 0, place := b.place.pass '\n' rest }

def atHiddenBreak (b : Body) : Bool :=
  b.gap = .hidden 0 && b.place.column = 0

def close (b : Body) (c : Char) (rest : List Char) : Scalar :=
  ⟨b.text, b.place.pass c rest⟩

end Body

def singleQuoted (least : Int) (b : Body) : List Char → Except Fault Scalar
  | [] => .error .unclosed
  | '\'' :: '\'' :: rest => do
    let b ← b.settle least
    singleQuoted least ((b.skip '\'' ('\'' :: rest)).push '\'' '\'' rest) rest
  | '\'' :: rest => (b.settle least).map (·.close '\'' rest)
  | c :: rest => do
    if isInlineBlank c ∨ c = '\n' then singleQuoted least (← b.pass least c rest) rest
    else
      let b ← b.settle least
      singleQuoted least (b.push c c rest) rest

def simpleEscape? : Char → Option Char
  | '0' => some '\x00'
  | 'a' => some '\x07'
  | 'b' => some '\x08'
  | 't' => some '\t'
  | '\t' => some '\t'
  | 'n' => some '\n'
  | 'v' => some '\x0b'
  | 'f' => some '\x0c'
  | 'r' => some '\r'
  | 'e' => some '\x1b'
  | ' ' => some ' '
  | '"' => some '"'
  | '/' => some '/'
  | '\\' => some '\\'
  | 'N' => some '\u0085'
  | '_' => some '\u00a0'
  | 'L' => some '\u2028'
  | 'P' => some '\u2029'
  | _ => none

def codeLength? : Char → Option Nat
  | 'x' => some 2
  | 'u' => some 4
  | 'U' => some 8
  | _ => none

def hexValue? (c : Char) : Option Nat :=
  if '0' ≤ c ∧ c ≤ '9' then some (c.toNat - 0x30)
  else if 'a' ≤ c ∧ c ≤ 'f' then some (c.toNat - 0x57)
  else if 'A' ≤ c ∧ c ≤ 'F' then some (c.toNat - 0x37)
  else none

inductive EscapeState where
  | outside
  | opened
  | code (left value : Nat)
  deriving DecidableEq, Repr

def doubleQuoted (least : Int) (b : Body) : EscapeState → List Char → Except Fault Scalar
  | _, [] => .error .unclosed
  | .opened, c :: rest =>
    if c = '\n' then doubleQuoted least (b.hideBreak rest) .outside rest
    else match simpleEscape? c, codeLength? c with
      | some e, _ => doubleQuoted least (b.push e c rest) .outside rest
      | none, some n => doubleQuoted least (b.skip c rest) (.code n 0) rest
      | none, none => .error .escape
  | .code left value, c :: rest =>
    match hexValue? c with
    | none => .error .escape
    | some digit =>
      let value := value * 16 + digit
      if 1 < left then doubleQuoted least (b.skip c rest) (.code (left - 1) value) rest
      else if value.isValidChar then
        doubleQuoted least (b.push (Char.ofNat value) c rest) .outside rest
      else .error .escape
  | .outside, c :: rest => do
    if isInlineBlank c ∨ c = '\n' then
      doubleQuoted least (← b.pass least c rest) .outside rest
    else if c = '"' ∧ b.atHiddenBreak then return b.close c rest
    else
      let b ← b.settle least
      if c = '"' then return b.close c rest
      else if c = '\\' then doubleQuoted least (b.skip c rest) .opened rest
      else doubleQuoted least (b.push c c rest) .outside rest

def quotedScalar (least : Int) (p : Place) : Except Fault Scalar :=
  match p.rest with
  | '"' :: rest => doubleQuoted least ⟨"", .none, p.pass '"' rest⟩ .outside rest
  | '\'' :: rest => singleQuoted least ⟨"", .none, p.pass '\'' rest⟩ rest
  | _ => .error .unexpected

end CommandGrammar.Yaml
