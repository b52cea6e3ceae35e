import CommandGrammar.Proofs.Grammar.Spelling

/-!
# The written form of a definition

A well-formed definition has a text that reads back as the definition itself: the alternatives
of a literal with slashes between them, a parameter in its brackets, its choices in quotes, and
one space between two items. With the well-formedness of all that is read, the definitions that
some text stands for are exactly the well-formed ones.
-/

set_option autoImplicit false

namespace CommandGrammar

/-- A character of a quoted value. Quotes and backslashes are protected. -/
def guardChar (c : Char) : List Char :=
  if c = '"' ∨ c = '\\' then ['\\', c] else [c]

def quoteText (value : String) : String :=
  "\"" ++ String.ofList (value.toList.flatMap guardChar) ++ "\""

def Bracket.around (b : Bracket) (text : String) : String :=
  match b with
  | angle => "<" ++ text ++ ">"
  | square => "[" ++ text ++ "]"

def ParamType.written : ParamType → String
  | typename value => value
  | choice values => " | ".intercalate (values.map quoteText)

def Node.written : Node → String
  | literal values => "/".intercalate values
  | param p =>
    (if p.optional then Bracket.square else Bracket.angle).around (p.name ++ ": " ++ p.type.written)

def Definition.written (d : Definition) : String :=
  " ".intercalate (d.map Node.written)

theorem Bracket.around_eq (b : Bracket) (text : String) :
    ∃ first last, Token.ofMark? first = some (.opening b) ∧
      Token.ofMark? last = some (.closing b) ∧
      (b.around text).toList = first :: (text.toList ++ [last]) := by
  cases b with
  | angle => exact ⟨'<', '>', rfl, rfl, by simp [around]⟩
  | square => exact ⟨'[', ']', rfl, rfl, by simp [around]⟩

theorem escaped_guardChar (cs : List Char) : Escaped (cs.flatMap guardChar) cs := by
  induction cs with
  | nil => exact .nil
  | cons c cs ih =>
    rw [List.flatMap_cons]
    by_cases hc : c = '"' ∨ c = '\\'
    · rw [guardChar, if_pos hc]
      exact .guarded c ih
    · rw [guardChar, if_neg hc]
      rw [not_or] at hc
      exact .plain hc.1 hc.2 ih

/-- The tokens that stand in a text, wherever it begins. -/
def Carries (cs : List Char) (tokens : List Token) : Prop :=
  ∀ pos, ∃ ts, Layout pos cs ts ∧ ts.map (·.token) = tokens

namespace Carries

variable {rest : List Char} {tokens : List Token}

theorem nil : Carries [] [] := fun pos => ⟨[], .nil pos, rfl⟩

theorem space (h : Carries rest tokens) : Carries (' ' :: rest) tokens := by
  intro pos
  obtain ⟨ts, hl, ht⟩ := h (pos + 1)
  exact ⟨ts, .blank Text.isBlank_space hl, ht⟩

theorem token {token : Token} {cs : List Char} (hs : token.Spells cs)
    (hr : token.isWord = true → Token.EndsWord rest) (h : Carries rest tokens) :
    Carries (cs ++ rest) (token :: tokens) := by
  intro pos
  obtain ⟨ts, hl, rfl⟩ := h (pos + cs.length)
  exact ⟨⟨pos, token⟩ :: ts, .token hs hr hl, rfl⟩

theorem mark {c : Char} {token : Token} (hc : Token.ofMark? c = some token)
    (h : Carries rest tokens) : Carries (c :: rest) (token :: tokens) := by
  apply h.token (.mark hc)
  simp [Token.isWord_mark hc]

theorem word {word : String} (hw : IsWord word) (hr : Token.EndsWord rest)
    (h : Carries rest tokens) : Carries (word.toList ++ rest) (.literal word :: tokens) :=
  h.token (.literal hw) fun _ => hr

theorem quoted (value : String) (h : Carries rest tokens) :
    Carries ((quoteText value).toList ++ rest) (.quoted value :: tokens) := by
  have hs := Token.Spells.quoted (escaped_guardChar value.toList)
  rw [String.ofList_toList] at hs
  have ht := h.token hs fun h => nomatch h
  simpa [quoteText] using ht

theorem choices {values : List String} (hne : values ≠ []) (hv : ∀ v ∈ values, v ≠ "")
    (h : Carries rest tokens) :
    ∃ read, ChoicePhrase read values ∧
      Carries ((" | ".intercalate (values.map quoteText)).toList ++ rest) (read ++ tokens) := by
  induction values with
  | nil => exact absurd rfl hne
  | cons value more ih =>
    rw [List.forall_mem_cons] at hv
    cases more with
    | nil => exact ⟨[.quoted value], .last value hv.1, by simpa using h.quoted value⟩
    | cons next more =>
      obtain ⟨read, hread, hmore⟩ := ih (List.cons_ne_nil _ _) hv.2
      refine ⟨.quoted value :: .pipe :: read, .more value hv.1 hread, ?_⟩
      have hbar := (hmore.space.mark (c := '|') rfl).space
      simpa [String.toList_intercalate, List.intercalate_cons_cons] using hbar.quoted value

theorem type {type : ParamType} (ht : type.WellFormed) (hr : Token.EndsWord rest)
    (h : Carries rest tokens) :
    ∃ read, TypePhrase read type ∧ Carries (type.written.toList ++ rest) (read ++ tokens) := by
  cases type with
  | typename value => exact ⟨[.literal value], .typename value, h.word ht hr⟩
  | choice values =>
    obtain ⟨read, hread, hcarry⟩ := h.choices ht.1 ht.2
    exact ⟨read, .choice hread, hcarry⟩

theorem around {b : Bracket} {p : Param} (hb : b.isOptional = p.optional)
    (hp : (Node.param p).WellFormed) (h : Carries rest tokens) :
    ∃ read, ItemPhrase read (.param p) ∧
      Carries ((b.around (p.name ++ ": " ++ p.type.written)).toList ++ rest) (read ++ tokens) := by
  obtain ⟨first, last, hopen, hclose, htext⟩ := b.around_eq (p.name ++ ": " ++ p.type.written)
  -- The text is put together from its end, as a word must know what follows it.
  have hlast : Token.isWordChar last = false := by simp [Token.isWordChar, hclose]
  obtain ⟨read, hread, htype⟩ := (h.mark hclose).type hp.2 (Token.endsWord_cons rest hlast)
  have hcolon := htype.space.mark (c := ':') rfl
  have hname := hcolon.word hp.1 (Token.endsWord_cons _ (by decide))
  refine ⟨.opening b :: .literal p.name :: .colon :: (read ++ [.closing b]), ?_, ?_⟩
  · have hitem := ItemPhrase.param b p.name hread
    rwa [hb] at hitem
  · rw [htext]
    simpa using hname.mark hopen

theorem alternatives {values : List String} (hv : (Node.literal values).WellFormed)
    (hr : Token.EndsWord rest) (h : Carries rest tokens) :
    ∃ read, ItemPhrase read (.literal values) ∧
      Carries (("/".intercalate values).toList ++ rest) (read ++ tokens) := by
  match values, hv with
  | [], hv => exact absurd rfl hv.1
  | [word], hv =>
    exact ⟨[.literal word], .literal word, by simpa using h.word (hv.2 word (by simp)) hr⟩
  | first :: second :: more, hv =>
    have hs : (Token.alternation (first :: second :: more)).Spells _ := .alternation (by simp) hv.2
    refine ⟨[.alternation (first :: second :: more)], .alternation _, ?_⟩
    rw [String.toList_intercalate]
    exact h.token hs fun _ => hr

theorem node {node : Node} (hn : node.WellFormed) (hr : Token.EndsWord rest)
    (h : Carries rest tokens) :
    ∃ read, ItemPhrase read node ∧ Carries (node.written.toList ++ rest) (read ++ tokens) := by
  cases node with
  | literal values => exact h.alternatives hn hr
  | param p =>
    rw [Node.written]
    exact h.around (by cases p.optional <;> rfl) hn

theorem definition {d : Definition} (hd : ∀ node ∈ d, node.WellFormed) :
    ∃ tokens, Phrase tokens d ∧ Carries d.written.toList tokens := by
  induction d with
  | nil => exact ⟨[], .nil, nil⟩
  | cons first more ih =>
    rw [List.forall_mem_cons] at hd
    cases more with
    | nil =>
      obtain ⟨read, hread, hcarry⟩ := nil.node hd.1 (by simp [Token.EndsWord])
      exact ⟨read ++ [], .cons hread .nil, by simpa [Definition.written] using hcarry⟩
    | cons next more =>
      obtain ⟨tokens, hp, hmore⟩ := ih hd.2
      obtain ⟨read, hread, hcarry⟩ := hmore.space.node hd.1 (Token.endsWord_cons _ (by decide))
      refine ⟨read ++ tokens, .cons hread hp, ?_⟩
      simpa [Definition.written, String.toList_intercalate, List.intercalate_cons_cons] using hcarry

end Carries

theorem parse_written {d : Definition} (h : d.WellFormed) : Definition.parse d.written = .ok d := by
  obtain ⟨tokens, hp, hcarry⟩ := Carries.definition h.nodes
  obtain ⟨ts, hlayout, rfl⟩ := hcarry 0
  exact parse_eq_ok.2 ⟨ts, hlayout.scan_eq, (ofTokens_ok ts d).2 ⟨hp, h.nonempty, h.names⟩⟩

/-- The definitions that some text stands for are exactly the well-formed ones, and the written
form of each of these stands for it. -/
theorem wellFormed_iff_parse (d : Definition) :
    (d.WellFormed ↔ ∃ grammar, Definition.parse grammar = .ok d) ∧
      (d.WellFormed ↔ Definition.parse d.written = .ok d) :=
  ⟨⟨fun h => ⟨d.written, parse_written h⟩, fun ⟨_, h⟩ => wellFormed_of_parse h⟩,
    ⟨parse_written, wellFormed_of_parse⟩⟩

example :
    Definition.written
        [.literal ["reminder", "rm"], .param ⟨"emote", true, .choice ["u\"w", " \\"]⟩,
          .param ⟨"duration", false, .typename "word"⟩] =
      "reminder/rm [emote: \"u\\\"w\" | \" \\\\\"] <duration: word>" := by
  decide

end CommandGrammar
