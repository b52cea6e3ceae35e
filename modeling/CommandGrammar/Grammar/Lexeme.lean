import CommandGrammar.Grammar.Fault
import CommandGrammar.Grammar.Token

/-!
# Cutting a grammar text into tokens

White space separates words and is otherwise skipped. Punctuation stands alone. A quoted value
runs to the next double quote that no backslash protects, and a word to the next character that
is no part of one. Brackets need not balance here.
-/

set_option autoImplicit false

namespace CommandGrammar

/-- The body of a quote: its value, the number of characters up to and including the closing
quote, and what follows. -/
structure QuoteBody where
  value : List Char
  width : Nat
  rest : List Char
  deriving DecidableEq, Repr

def QuoteBody.cons (c : Char) (width : Nat) (body : QuoteBody) : QuoteBody :=
  { body with value := c :: body.value, width := body.width + width }

def quoteBody? : List Char → Option QuoteBody
  | [] => none
  | '"' :: rest => some ⟨[], 1, rest⟩
  | '\\' :: c :: rest => (quoteBody? rest).map (QuoteBody.cons c 2)
  | '\\' :: [] => none
  | c :: rest => (quoteBody? rest).map (QuoteBody.cons c 1)

theorem quoteBody?_width {cs : List Char} {body : QuoteBody} (h : quoteBody? cs = some body) :
    body.width + body.rest.length = cs.length := by
  fun_induction quoteBody? cs generalizing body with
  | case1 => cases h
  | case2 rest => cases h; simp; omega
  | case3 c rest ih =>
    obtain ⟨inner, hi, rfl⟩ := Option.map_eq_some_iff.1 h
    have := ih hi
    simp [QuoteBody.cons]; omega
  | case4 => cases h
  | case5 c rest _ _ _ ih =>
    obtain ⟨inner, hi, rfl⟩ := Option.map_eq_some_iff.1 h
    have := ih hi
    simp [QuoteBody.cons]; omega

theorem length_dropWhile_le {α : Type} (p : α → Bool) (l : List α) :
    (l.dropWhile p).length ≤ l.length :=
  (List.dropWhile_sublist p).length_le

namespace Token

def scan (pos : Nat) (cs : List Char) : Except GrammarFault (List Positioned) :=
  match cs with
  | [] => .ok []
  | c :: rest =>
    if Text.isBlank c then scan (pos + 1) rest
    else match ofMark? c with
      | some token => (scan (pos + 1) rest).map (⟨pos, token⟩ :: ·)
      | none =>
        if c = '"' then
          match _h : quoteBody? rest with
          | none => .error (.unclosedQuote pos)
          | some body =>
            (scan (pos + 1 + body.width) body.rest).map
              (⟨pos, quoted (String.ofList body.value)⟩ :: ·)
        else
          match ofWord? (c :: rest.takeWhile isWordChar) with
          | none => .error (.emptyAlternative pos)
          | some token =>
            (scan (pos + 1 + (rest.takeWhile isWordChar).length) (rest.dropWhile isWordChar)).map
              (⟨pos, token⟩ :: ·)
termination_by cs.length
decreasing_by
  all_goals simp only [List.length_cons]
  · omega
  · omega
  · have := quoteBody?_width _h; omega
  · have := length_dropWhile_le isWordChar rest; omega

end Token

def tokenize (grammar : String) : Except GrammarFault (List Positioned) :=
  Token.scan 0 grammar.toList

end CommandGrammar
