import CommandGrammar.Json.Value

/-!
# JSON text

The compact form has no blanks. The indented form puts every item and entry on a line of its
own, two spaces deeper than what holds it. Characters outside ASCII are written as themselves.
-/

set_option autoImplicit false

namespace CommandGrammar.Json

def hexDigit (n : Nat) : Char :=
  if n < 10 then Char.ofNat (0x30 + n) else Char.ofNat (0x57 + n)

def escapeChar (c : Char) : List Char :=
  match c with
  | '"' => ['\\', '"']
  | '\\' => ['\\', '\\']
  | '\x08' => ['\\', 'b']
  | '\x0c' => ['\\', 'f']
  | '\n' => ['\\', 'n']
  | '\r' => ['\\', 'r']
  | '\t' => ['\\', 't']
  | c =>
    if c.toNat < 0x20 then
      ['\\', 'u', '0', '0', hexDigit (c.toNat / 16), hexDigit (c.toNat % 16)]
    else [c]

def quoted (s : String) : String :=
  String.ofList ('"' :: s.toList.flatMap escapeChar ++ ['"'])

def atom : Json → String
  | .null => "null"
  | .bool b => if b then "true" else "false"
  | .int n => toString n
  | .str s => quoted s
  | .arr _ => "[]"
  | .obj _ => "\x7b\x7d"

mutual

def compact : Json → String
  | .arr items => "[" ++ ",".intercalate (compactItems items) ++ "]"
  | .obj entries => "\x7b" ++ ",".intercalate (compactEntries entries) ++ "\x7d"
  | value => atom value

def compactItems : List Json → List String
  | [] => []
  | value :: rest => compact value :: compactItems rest

def compactEntries : List (String × Json) → List String
  | [] => []
  | (key, value) :: rest => (quoted key ++ ":" ++ compact value) :: compactEntries rest

end

def block (opening closing margin : String) (parts : List String) : String :=
  opening ++ "\n" ++ ",\n".intercalate (parts.map (margin ++ "  " ++ ·)) ++ "\n" ++ margin ++ closing

mutual

def indentedAt (margin : String) : Json → String
  | .arr (value :: rest) => block "[" "]" margin (indentedItems (margin ++ "  ") (value :: rest))
  | .obj (entry :: rest) =>
    block "\x7b" "\x7d" margin (indentedEntries (margin ++ "  ") (entry :: rest))
  | value => atom value

def indentedItems (margin : String) : List Json → List String
  | [] => []
  | value :: rest => indentedAt margin value :: indentedItems margin rest

def indentedEntries (margin : String) : List (String × Json) → List String
  | [] => []
  | (key, value) :: rest =>
    (quoted key ++ ": " ++ indentedAt margin value) :: indentedEntries margin rest

end

def indented (value : Json) : String :=
  indentedAt "" value

end CommandGrammar.Json
