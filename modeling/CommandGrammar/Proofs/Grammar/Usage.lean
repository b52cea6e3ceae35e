import CommandGrammar.Grammar.Usage
import CommandGrammar.Proofs.Grammar.Designation
import CommandGrammar.Proofs.Text.Separators

/-!
# Usage texts as grammar texts

The usage text of a definition without parameters is its written form and reads back. Any other
usage text shows the brackets of parameters and leaves out the colons behind their names, so it is
no grammar: in a grammar there is a colon wherever there is more than words. Upper case makes no
colon, and only a choice that holds one itself could bring it back.
-/

set_option autoImplicit false

namespace CommandGrammar

variable {pos : Nat} {cs : List Char} {ts : List Positioned} {tokens : List Token} {d : Definition}

theorem ItemPhrase.isWord_of_colon {node : Node} (h : ItemPhrase tokens node)
    (hc : Token.colon ∉ tokens) : ∀ token ∈ tokens, token.isWord = true := by
  cases h with
  | literal | alternation => simp [Token.isWord]
  | param => exact absurd (by simp) hc

theorem Phrase.isWord_of_colon (h : Phrase tokens d) (hc : Token.colon ∉ tokens) :
    ∀ token ∈ tokens, token.isWord = true := by
  induction h with
  | nil => simp
  | cons hi _ ih =>
    rw [List.mem_append, not_or] at hc
    rw [List.forall_mem_append]
    exact ⟨hi.isWord_of_colon hc.1, ih hc.2⟩

theorem Layout.chars_of_words (h : Layout pos cs ts) (hw : ∀ t ∈ ts, t.token.isWord = true) :
    ∀ c ∈ cs, Text.isBlank c = true ∨ Token.isWordChar c = true := by
  induction h with
  | nil => simp
  | blank hc _ ih => exact List.forall_mem_cons.2 ⟨.inl hc, ih hw⟩
  | token hs _ _ ih =>
    rw [List.forall_mem_cons] at hw
    rw [List.forall_mem_append]
    exact ⟨fun c hc => .inr (hs.isWordChar_mem hw.1 c hc), ih hw.2⟩

theorem Layout.colon_mem (h : Layout 0 cs ts) (hc : Token.colon ∈ ts.map (·.token)) :
    ':' ∈ cs := by
  obtain ⟨t, ht, htoken⟩ := List.mem_map.1 hc
  have hspelled := h.spelledAt t ht
  rw [htoken] at hspelled
  exact List.mem_of_getElem? (hspelled.mark rfl)

theorem colon_mem_of_parse {grammar : String} {c : Char}
    (h : Definition.parse grammar = .ok d) (hc : c ∈ grammar.toList)
    (hb : Text.isBlank c = false) (hw : Token.isWordChar c = false) : ':' ∈ grammar.toList := by
  obtain ⟨ts, hscan, hread⟩ := parse_eq_ok.1 h
  obtain ⟨hphrase, -, -⟩ := (ofTokens_ok ts d).1 hread
  have hlayout : Layout 0 grammar.toList ts := layout_of_scan hscan
  by_contra hcolon
  have hwords := hphrase.isWord_of_colon (mt hlayout.colon_mem hcolon)
  have hchar := hlayout.chars_of_words (fun t ht => hwords _ (List.mem_map_of_mem ht)) c hc
  simp [hb, hw] at hchar

theorem mem_alternatives_iff {c : Char} (hc : c ≠ '/') (values : List String) :
    c ∈ (alternatives values).toList ↔ ∃ v ∈ values, c ∈ v.toList := by
  have hjoin : (alternatives values).toList = Text.join '/' (values.map String.toList) :=
    String.toList_intercalate
  simp [hjoin, Text.mem_join_iff hc]

theorem Definition.mem_usage_iff {c : Char} (hc : c ≠ ' ') (d : Definition) :
    c ∈ d.usage.toList ↔ ∃ node ∈ d, c ∈ node.usage.toList := by
  have hjoin : d.usage.toList = Text.join ' ' ((d.map Node.usage).map String.toList) :=
    String.toList_intercalate
  simp [hjoin, Text.mem_join_iff hc]

theorem Node.usage_param (p : Param) :
    ∃ b : Bracket, (Node.param p).usage = b.around p.label := by
  by_cases h : p.optional
  · refine ⟨.square, ?_⟩
    rw [Node.usage, if_pos h]
    rfl
  · refine ⟨.angle, ?_⟩
    rw [Node.usage, if_neg h]
    rfl

theorem Param.colon_of_label {p : Param} (hn : IsWord p.name) (h : ':' ∈ p.label.toList) :
    ∃ values, p.type = .choice values ∧ ∃ v ∈ values, ':' ∈ v.toList := by
  rw [Param.label] at h
  cases htype : p.type with
  | typename type =>
    rw [htype] at h
    simp only [String.toList_ofList, Text.colon_mem_upper] at h
    exact absurd h (hn.notMem (by decide))
  | choice values =>
    rw [htype] at h
    exact ⟨values, rfl, (mem_alternatives_iff (by decide) values).1 h⟩

theorem Node.colon_of_usage {node : Node} (hn : node.WellFormed) (h : ':' ∈ node.usage.toList) :
    ∃ p values, node = .param p ∧ p.type = .choice values ∧ ∃ v ∈ values, ':' ∈ v.toList := by
  cases node with
  | literal values =>
    obtain ⟨v, hv, hcolon⟩ := (mem_alternatives_iff (by decide) values).1 h
    exact absurd hcolon ((hn.2 v hv).notMem (by decide))
  | param p =>
    obtain ⟨b, husage⟩ := Node.usage_param p
    obtain ⟨first, last, hopen, hclose, htext⟩ := b.around_eq p.label
    have hmark : Token.ofMark? ':' = some .colon := rfl
    rw [husage, htext, List.mem_cons, List.mem_append, List.mem_singleton] at h
    rcases h with rfl | hlabel | rfl
    · simp [hmark] at hopen
    · obtain ⟨values, htype, hv⟩ := Param.colon_of_label hn.1 hlabel
      exact ⟨p, values, rfl, htype, hv⟩
    · simp [hmark] at hclose

theorem Definition.bracket_mem_usage {p : Param} (hp : .param p ∈ d) :
    ∃ c ∈ d.usage.toList, Text.isBlank c = false ∧ Token.isWordChar c = false := by
  obtain ⟨b, husage⟩ := Node.usage_param p
  obtain ⟨first, last, hopen, -, htext⟩ := b.around_eq p.label
  have hblank : Text.isBlank first = false := Token.isBlank_mark hopen
  have hspace : first ≠ ' ' := by
    rintro rfl
    cases hblank
  have hfirst : first ∈ (Node.param p).usage.toList := by simp [husage, htext]
  exact ⟨first, (Definition.mem_usage_iff hspace d).2 ⟨_, hp, hfirst⟩, hblank,
    Token.isWordChar_mark hopen⟩

theorem Definition.usage_eq_written (h : ∀ node ∈ d, ∃ values, node = .literal values) :
    d.usage = d.written := by
  have hmap : d.map Node.usage = d.map Node.written := by
    apply List.map_congr_left
    intro node hnode
    obtain ⟨values, rfl⟩ := h node hnode
    rfl
  rw [Definition.usage, Definition.written, hmap]

/-- The usage text of a definition without parameters reads back as the definition. That of a
definition with parameters is refused, unless a choice holds a colon: white space, quotes and
brackets in a choice, and what upper case makes of a name, cannot turn it into a grammar. -/
theorem usage_read_as_grammar (grammar : String) (d : Definition)
    (h : Definition.parse grammar = .ok d) :
    ((∀ node ∈ d, ∃ values, node = .literal values) → Definition.parse d.usage = .ok d) ∧
      ((∃ p, .param p ∈ d) →
        (∀ p values, .param p ∈ d → p.type = .choice values → ∀ v ∈ values, ':' ∉ v.toList) →
          ∃ e, Definition.parse d.usage = .error e) := by
  have hd : d.WellFormed := wellFormed_of_parse h
  constructor
  · intro hliteral
    rw [Definition.usage_eq_written hliteral]
    exact parse_written hd
  · rintro ⟨p, hp⟩ hplain
    cases hparse : Definition.parse d.usage with
    | error e => exact ⟨e, rfl⟩
    | ok other =>
      exfalso
      obtain ⟨c, hc, hblank, hword⟩ := Definition.bracket_mem_usage hp
      have hcolon := colon_mem_of_parse hparse hc hblank hword
      obtain ⟨node, hnode, husage⟩ := (Definition.mem_usage_iff (by decide) d).1 hcolon
      obtain ⟨q, values, rfl, htype, v, hv, hin⟩ := Node.colon_of_usage (hd.nodes node hnode) husage
      exact hplain q values hnode htype v hv hin

theorem usage_read_as_grammar_reminder :
    (∃ d, Definition.parse "reminder/rm  add" = .ok d ∧
      (∀ node ∈ d, ∃ values, node = .literal values) ∧ Definition.parse d.usage = .ok d) ∧
    ∃ d, Definition.parse
        "reminder/rm [emote: \"uwu\" | \"o/wo\"] <action: \"add\" | \"remove\"> <text: string>" =
          .ok d ∧
      (∃ p, .param p ∈ d) ∧
      (∀ p values, .param p ∈ d → p.type = .choice values → ∀ v ∈ values, ':' ∉ v.toList) ∧
      ∃ e, Definition.parse d.usage = .error e := by
  have hfixed : Definition.parse "reminder/rm  add" =
      .ok [.literal ["reminder", "rm"], .literal ["add"]] := by decide +kernel
  have hliteral : ∀ node ∈ [Node.literal ["reminder", "rm"], .literal ["add"]],
      ∃ values, node = .literal values := by simp
  have hread : Definition.parse
      "reminder/rm [emote: \"uwu\" | \"o/wo\"] <action: \"add\" | \"remove\"> <text: string>" =
        .ok [.literal ["reminder", "rm"], .param ⟨"emote", true, .choice ["uwu", "o/wo"]⟩,
          .param ⟨"action", false, .choice ["add", "remove"]⟩,
          .param ⟨"text", false, .typename "string"⟩] := by decide +kernel
  have hplain : ∀ p values, Node.param p ∈ [.literal ["reminder", "rm"],
      .param ⟨"emote", true, .choice ["uwu", "o/wo"]⟩,
      .param ⟨"action", false, .choice ["add", "remove"]⟩,
      .param ⟨"text", false, .typename "string"⟩] →
        p.type = .choice values → ∀ v ∈ values, ':' ∉ v.toList := by
    intro p values hp htype
    simp only [List.mem_cons, List.not_mem_nil, or_false, reduceCtorEq, false_or,
      Node.param.injEq] at hp
    rcases hp with rfl | rfl | rfl
    · cases htype
      decide
    · cases htype
      decide
    · cases htype
  exact ⟨⟨_, hfixed, hliteral, (usage_read_as_grammar _ _ hfixed).1 hliteral⟩,
    _, hread, ⟨⟨"text", false, .typename "string"⟩, by simp⟩, hplain,
    (usage_read_as_grammar _ _ hread).2 ⟨⟨"text", false, .typename "string"⟩, by simp⟩ hplain⟩

example :
    (Definition.parse "say [how: \"x: word\"]").map Definition.usage = .ok "say [x: word]" ∧
      Definition.parse "say [x: word]" =
        .ok [.literal ["say"], .param ⟨"x", true, .typename "word"⟩] := by
  decide +kernel

end CommandGrammar
