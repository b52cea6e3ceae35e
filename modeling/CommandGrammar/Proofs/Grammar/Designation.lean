import CommandGrammar.Proofs.Grammar.Blame
import Mathlib.Data.List.Nodup

/-!
# What a fault points at

A fault with a place names a character of the text. Where the text cannot be cut, a token would have
to begin there and cannot be spelled. Otherwise the place is that of a token which the scan has
found, and the tokens around it are what the fault says of them. A fault that names a parameter names
one that was opened, and a name that comes twice was read twice.
-/

set_option autoImplicit false

namespace CommandGrammar

/-- Up to this place the text is whole tokens, and no word goes on behind it. -/
def Fresh (text : List Char) (pos : Nat) : Prop :=
  (∃ ts, LaidOut 0 (text.take pos) ts) ∧ Separate (text.take pos) (text.drop pos)

def Reads (grammar : String) (run : List Positioned) : Prop :=
  ∃ before after, tokenize grammar = .ok (before ++ (run ++ after))

def SpelledAt (text : List Char) (pos : Nat) (token : Token) : Prop :=
  ∃ spelling rest, text.drop pos = spelling ++ rest ∧ token.Spells spelling

/-- A word that has an empty part begins here. -/
def GapInWord (text : List Char) (pos : Nat) : Prop :=
  Fresh text pos ∧ ∃ word rest, text.drop pos = word ++ rest ∧ word ≠ [] ∧
    (∀ c ∈ word, Token.isWordChar c = true) ∧ Token.EndsWord rest ∧ HasEmptyPart word

/-- Two double quotes next to each other stand for a choice, behind a colon or a bar. -/
def EmptyChoice (grammar : String) (pos : Nat) : Prop :=
  (∃ rest, grammar.toList.drop pos = '"' :: '"' :: rest) ∧
    ∃ t, (t.token = .colon ∨ t.token = .pipe) ∧ Reads grammar [t, ⟨pos, .quoted ""⟩]

/-- A bar comes right before the bracket that closes the parameter it stands in. -/
def LooseBar (grammar : String) (pos : Nat) : Prop :=
  grammar.toList[pos]? = some '|' ∧
    ∃ before t after o, tokenize grammar = .ok (before ++ ⟨pos, .pipe⟩ :: t :: after) ∧
      LastOpening (before ++ [⟨pos, .pipe⟩]) o ∧ t.token = .closing o.bracket

def OpensParam (grammar name : String) : Prop :=
  ∃ b t u, Reads grammar [t, u] ∧ t.token = .opening b ∧ u.token = .literal name

def Bracket.closingChar : Bracket → Char
  | angle => '>'
  | square => ']'

/-- What the fault says of the text. -/
def GrammarFault.Designates (grammar : String) : GrammarFault → Prop
  | empty => tokenize grammar = .ok []
  | unclosedQuote pos => Fresh grammar.toList pos ∧
      ∃ body, grammar.toList.drop pos = '"' :: body ∧ Endless body
  | unclosedAngleBracket pos =>
      grammar.toList[pos]? = some '<' ∧ Reads grammar [⟨pos, .opening .angle⟩]
  | unclosedSquareBracket pos =>
      grammar.toList[pos]? = some '[' ∧ Reads grammar [⟨pos, .opening .square⟩]
  | emptyAlternative pos =>
      GapInWord grammar.toList pos ∨ EmptyChoice grammar pos ∨ LooseBar grammar pos
  | missingParamName pos => ∃ b t u, Reads grammar [t, u] ∧ t.token = .opening b ∧ u.pos = pos ∧
      (grammar.toList[pos]? = some ':' ∨ grammar.toList[pos]? = some b.closingChar)
  | missingParamType name => OpensParam grammar name
  | duplicateParam name => OpensParam grammar name ∧
      ∃ ts read more d, tokenize grammar = .ok ts ∧ ts.map (·.token) = read ++ more ∧
        Phrase read d ∧ d.paramNames.count name = 2
  | unexpectedToken pos found => ∃ token, token.display = found ∧
      Reads grammar [⟨pos, token⟩] ∧ SpelledAt grammar.toList pos token

theorem firstFault_of_scan {pos : Nat} {cs : List Char} {e : GrammarFault}
    (h : Token.scan pos cs = .error e) : FirstFault pos cs e := by
  rcases settled pos cs with ⟨ts, hts⟩ | ⟨fault, hfault⟩
  · cases h.symm.trans hts.scan_eq
  · cases h.symm.trans hfault.scan_eq
    exact hfault

theorem FirstFault.designates {grammar : String} {e : GrammarFault}
    (h : FirstFault 0 grammar.toList e) : e.Designates grammar := by
  obtain ⟨before, after, ts, htext, hlaid, hsep, hbroken⟩ := h
  have htake : grammar.toList.take before.length = before := by rw [htext, List.take_left]
  have hdrop : grammar.toList.drop before.length = after := by rw [htext, List.drop_left]
  have hfresh : Fresh grammar.toList before.length := by
    rw [Fresh, htake, hdrop]
    exact ⟨⟨ts, hlaid⟩, hsep⟩
  rw [Nat.zero_add] at hbroken
  cases hbroken with
  | @quote body hend => exact ⟨hfresh, body, hdrop, hend⟩
  | word hne hw hr hp => exact .inl ⟨hfresh, _, _, hdrop, hne, hw, hr, hp⟩

namespace Token

variable {c c' : Char} {token : Token} {cs : List Char}

theorem ofMark?_inj (h : ofMark? c = some token) (h' : ofMark? c' = some token) : c = c' := by
  unfold ofMark? at h h'
  split at h <;> cases h <;> split at h' <;> cases h' <;> rfl

theorem Spells.eq_mark (hs : token.Spells cs) (h : ofMark? c = some token) : cs = [c] := by
  have hword := isWord_mark h
  cases hs with
  | mark hmark => rw [ofMark?_inj hmark h]
  | literal | alternation => cases hword
  | quoted =>
    unfold ofMark? at h
    split at h <;> cases h

theorem Spells.eq_quotes (hs : (Token.quoted "").Spells cs) : cs = ['"', '"'] := by
  generalize hq : Token.quoted "" = token at hs
  cases hs with
  | mark hmark =>
    unfold ofMark? at hmark
    split at hmark <;> cases hmark <;> cases hq
  | literal | alternation => cases hq
  | @quoted body value hbody =>
    injection hq with hvalue
    obtain rfl : value = [] := by simpa using hvalue.symm
    cases hbody
    rfl

end Token

theorem Layout.spelledAt {cs : List Char} {ts : List Positioned} (h : Layout 0 cs ts) :
    ∀ t ∈ ts, SpelledAt cs t.pos t.token := by
  intro t ht
  obtain ⟨before, after, rfl⟩ := List.append_of_mem ht
  obtain ⟨head, spelling, rest, rfl, hpos, hs, -⟩ := h.split
  refine ⟨spelling, rest, ?_, hs⟩
  rw [hpos, Nat.zero_add, List.drop_left]

namespace SpelledAt

variable {text : List Char} {pos : Nat} {token : Token}

theorem mark {c : Char} (h : SpelledAt text pos token) (hc : Token.ofMark? c = some token) :
    text[pos]? = some c := by
  obtain ⟨spelling, rest, hdrop, hs⟩ := h
  rw [← List.head?_drop, hdrop, hs.eq_mark hc]
  rfl

theorem quotes (h : SpelledAt text pos (.quoted "")) :
    ∃ rest, text.drop pos = '"' :: '"' :: rest := by
  obtain ⟨spelling, rest, hdrop, hs⟩ := h
  rw [hs.eq_quotes] at hdrop
  exact ⟨rest, hdrop⟩

end SpelledAt

namespace Reader

variable {r r' : Reader} {t : Positioned} {ts : List Positioned}

theorem pipe_of_read {o : Opening} {name : String} {values : List String} {pipe : Nat}
    (h : ts.foldlM Reader.step start = .ok r) (hx : r.expecting = .value o name values pipe) :
    ∃ before, ts = before ++ [⟨pipe, .pipe⟩] := by
  refine read_invariant (fun ts r => ∀ o name values pipe, r.expecting = .value o name values pipe →
    ∃ before, ts = before ++ [⟨pipe, .pipe⟩]) nofun ?_ h o name values pipe hx
  intro ts r t next _ ht o name values pipe hnext
  cases ht with
  | pipe _ hpipe =>
    cases hnext
    exact ⟨ts, by rw [← hpipe]⟩
  | literal | alternation | opening | name | colon | type | value | closing => cases hnext

theorem Holds.pending {e : Expecting} (h : r.Holds (ts.map (·.token))) (hx : r.expecting = e) :
    ∃ before begun, ts = before ++ begun ∧ e.Pending (begun.map (·.token)) := by
  subst hx
  obtain ⟨done, pending, -, hp, htokens⟩ := h.items
  obtain ⟨before, begun, rfl, -, hbegun⟩ := List.map_eq_append_iff.1 htokens
  rw [← hbegun] at hp
  exact ⟨before, begun, rfl, hp⟩

theorem Typed.pending {o : Opening} {name : String} {type : ParamType} {tokens : List Token}
    (h : r.Typed o name type) (hp : r.expecting.Pending tokens) :
    ∃ read, TypePhrase read type ∧ tokens = o.head name ++ read := by
  rcases h with hx | ⟨values, hx, rfl⟩
  · rw [hx] at hp
    exact hp
  · rw [hx] at hp
    obtain ⟨read, hread, rfl⟩ := hp
    exact ⟨read, .choice hread, rfl⟩

theorem Holds.twice {o : Opening} {name : String} {type : ParamType} {tokens : List Token}
    (h : r.Holds tokens) (hc : r.Typed o name type)
    (hn : name ∈ Definition.paramNames r.nodes) :
    ∃ d, Phrase (tokens ++ [.closing o.bracket]) d ∧ d.paramNames.count name = 2 := by
  obtain ⟨done, pending, hd, hp, rfl⟩ := h.items
  obtain ⟨read, hread, rfl⟩ := hc.pending hp
  have hitem := ItemPhrase.param o.bracket name hread
  refine ⟨r.nodes ++ [.param ⟨name, o.bracket.isOptional, type⟩], ?_, ?_⟩
  · simpa [Opening.head] using hd.snoc hitem
  · have hone : (Definition.paramNames r.nodes).count name = 1 :=
      List.count_eq_one_of_mem h.names hn
    simp [Definition.paramNames_concat, Node.paramName?, List.count_append, hone]

end Reader

theorem opensParam_of_begun {grammar name : String} {b : Bracket} {before begun : List Positioned}
    {more : List Positioned} {tokens : List Token}
    (hts : tokenize grammar = .ok ((before ++ begun) ++ more))
    (h : begun.map (·.token) = .opening b :: .literal name :: tokens) :
    OpensParam grammar name := by
  obtain ⟨t, us, rfl, ht, hus⟩ := List.map_eq_cons_iff.1 h
  obtain ⟨u, us, rfl, hu, -⟩ := List.map_eq_cons_iff.1 hus
  exact ⟨b, t, u, ⟨before, us ++ more, by simpa using hts⟩, ht, hu⟩

section Refused

variable {grammar : String} {before after : List Positioned} {t : Positioned} {r : Reader}

theorem missingParamName_designates {o : Opening}
    (hts : tokenize grammar = .ok (before ++ t :: after))
    (hread : before.foldlM Reader.step Reader.start = .ok r) (hx : r.expecting = .name o)
    (ht : t.token = .colon ∨ t.token = .closing o.bracket) :
    (GrammarFault.missingParamName t.pos).Designates grammar := by
  have hspelled := (layout_of_scan hts).spelledAt t (by simp)
  obtain ⟨first, begun, rfl, hbegun⟩ := (Reader.holds_of_read hread).pending hx
  obtain ⟨u, rfl, hu⟩ := List.map_eq_singleton_iff.1 hbegun
  refine ⟨o.bracket, u, t, ⟨first, after, by simpa using hts⟩, hu, rfl, ?_⟩
  rcases ht with ht | ht
  · rw [ht] at hspelled
    exact .inl (hspelled.mark rfl)
  · rw [ht] at hspelled
    right
    cases hb : o.bracket <;> rw [hb] at hspelled <;> exact hspelled.mark rfl

theorem missingParamType_designates {o : Opening} {name : String}
    (hts : tokenize grammar = .ok (before ++ t :: after))
    (hread : before.foldlM Reader.step Reader.start = .ok r)
    (hx : r.expecting = .colon o name ∨ r.expecting = .type o name) :
    OpensParam grammar name := by
  have hholds := Reader.holds_of_read hread
  rcases hx with hx | hx
  · obtain ⟨first, begun, rfl, hbegun⟩ := hholds.pending hx
    exact opensParam_of_begun hts hbegun
  · obtain ⟨first, begun, rfl, hbegun⟩ := hholds.pending hx
    exact opensParam_of_begun hts hbegun

theorem emptyChoice_of_wants {o : Opening} {name : String} {values : List String}
    (hts : tokenize grammar = .ok (before ++ t :: after))
    (hread : before.foldlM Reader.step Reader.start = .ok r) (hw : r.Wants o name values)
    (ht : t.token = .quoted "") : EmptyChoice grammar t.pos := by
  have hspelled := (layout_of_scan hts).spelledAt t (by simp)
  rw [ht] at hspelled
  have hquoted : t = ⟨t.pos, .quoted ""⟩ := by rw [← ht]
  refine ⟨hspelled.quotes, ?_⟩
  rcases hw with ⟨hx, -⟩ | ⟨pipe, hx⟩
  · obtain ⟨first, begun, rfl, hbegun⟩ := (Reader.holds_of_read hread).pending hx
    obtain ⟨opening, us, rfl, -, hus⟩ := List.map_eq_cons_iff.1 hbegun
    obtain ⟨word, us, rfl, -, hus⟩ := List.map_eq_cons_iff.1 hus
    obtain ⟨colon, rfl, hcolon⟩ := List.map_eq_singleton_iff.1 hus
    refine ⟨colon, .inl hcolon, first ++ [opening, word], after, ?_⟩
    rw [← hquoted]
    simpa using hts
  · obtain ⟨first, rfl⟩ := Reader.pipe_of_read hread hx
    refine ⟨⟨pipe, .pipe⟩, .inr rfl, first, after, ?_⟩
    rw [← hquoted]
    simpa using hts

theorem looseBar_of_value {o : Opening} {name : String} {values : List String} {pipe : Nat}
    (hts : tokenize grammar = .ok (before ++ t :: after))
    (hread : before.foldlM Reader.step Reader.start = .ok r)
    (hx : r.expecting = .value o name values pipe) (ht : t.token = .closing o.bracket) :
    LooseBar grammar pipe := by
  have hlast : LastOpening before o := Reader.lastOpening_of_read hread (by rw [hx]; rfl)
  obtain ⟨first, rfl⟩ := Reader.pipe_of_read hread hx
  have hspelled := (layout_of_scan hts).spelledAt ⟨pipe, .pipe⟩ (by simp)
  exact ⟨hspelled.mark rfl, first, t, after, o, by simpa using hts, hlast, ht⟩

theorem duplicateParam_designates {o : Opening} {name : String} {type : ParamType}
    (hts : tokenize grammar = .ok (before ++ t :: after))
    (hread : before.foldlM Reader.step Reader.start = .ok r) (hc : r.Typed o name type)
    (ht : t.token = .closing o.bracket) (hn : name ∈ Definition.paramNames r.nodes) :
    (GrammarFault.duplicateParam name).Designates grammar := by
  have hholds := Reader.holds_of_read hread
  obtain ⟨d, hphrase, hcount⟩ := hholds.twice hc hn
  refine ⟨?_, _, _, after.map (·.token), d, hts, ?_, hphrase, hcount⟩
  · obtain ⟨first, begun, rfl, hbegun⟩ := hholds.pending rfl
    obtain ⟨read, -, hhead⟩ := hc.pending hbegun
    exact opensParam_of_begun hts hhead
  · simp [ht]

theorem Reader.Refuses.designates {e : GrammarFault} (h : r.Refuses t e)
    (hts : tokenize grammar = .ok (before ++ t :: after))
    (hread : before.foldlM Reader.step Reader.start = .ok r) : e.Designates grammar := by
  cases h with
  | unexpected =>
    exact ⟨t.token, rfl, ⟨before, after, hts⟩, (layout_of_scan hts).spelledAt t (by simp)⟩
  | name hx ht => exact missingParamName_designates hts hread hx ht
  | type hx _ => exact missingParamType_designates hts hread hx
  | value hw ht => exact .inr (.inl (emptyChoice_of_wants hts hread hw ht))
  | pipe hx ht => exact .inr (.inr (looseBar_of_value hts hread hx ht))
  | closing hc ht hn => exact duplicateParam_designates hts hread hc ht hn

end Refused

theorem unclosed_designates {grammar : String} {ts : List Positioned} {o : Opening}
    (hts : tokenize grammar = .ok ts) (h : LastOpening ts o) :
    o.unclosed.Designates grammar := by
  obtain ⟨before, after, rfl, -⟩ := h
  have hspelled := (layout_of_scan hts).spelledAt ⟨o.pos, .opening o.bracket⟩ (by simp)
  obtain ⟨b, pos⟩ := o
  cases b <;> exact ⟨hspelled.mark rfl, before, after, hts⟩

theorem designates_of_parse {grammar : String} {e : GrammarFault}
    (h : Definition.parse grammar = .error e) : e.Designates grammar := by
  rw [Definition.parse] at h
  cases hts : tokenize grammar with
  | error fault =>
    rw [hts] at h
    cases h
    exact (firstFault_of_scan hts).designates
  | ok ts =>
    rw [hts] at h
    rcases ofTokens_error h with ⟨rfl, rfl⟩ | ⟨before, t, after, r, rfl, hread, hstep⟩ |
      ⟨r, o, hread, ho, rfl⟩
    · exact hts
    · exact (Reader.refuses_of_step hstep).designates hts hread
    · exact unclosed_designates hts (Reader.lastOpening_of_read hread ho)

theorem lt_of_drop_ne_nil {text : List Char} {pos : Nat} (h : text.drop pos ≠ []) :
    pos < text.length :=
  Nat.lt_of_not_le fun hle => h (List.drop_eq_nil_of_le hle)

theorem GrammarFault.Designates.within {grammar : String} {e : GrammarFault} {pos : Nat}
    (h : e.Designates grammar) (hpos : e.pos? = some pos) : pos < grammar.length := by
  rw [← String.length_toList]
  cases e with
  | empty | missingParamType | duplicateParam => cases hpos
  | unclosedQuote =>
    cases hpos
    obtain ⟨-, body, hbody, -⟩ := h
    exact lt_of_drop_ne_nil (by simp [hbody])
  | unclosedAngleBracket | unclosedSquareBracket =>
    cases hpos
    exact (List.getElem?_eq_some_iff.1 h.1).1
  | emptyAlternative =>
    cases hpos
    rcases h with ⟨-, word, rest, hword, hne, -⟩ | ⟨⟨rest, hquotes⟩, -⟩ | ⟨hbar, -⟩
    · exact lt_of_drop_ne_nil (by simp [hword, hne])
    · exact lt_of_drop_ne_nil (by simp [hquotes])
    · exact (List.getElem?_eq_some_iff.1 hbar).1
  | missingParamName =>
    cases hpos
    obtain ⟨b, t, u, -, -, -, hc | hc⟩ := h <;> exact (List.getElem?_eq_some_iff.1 hc).1
  | unexpectedToken =>
    cases hpos
    obtain ⟨token, -, -, spelling, rest, hdrop, hs⟩ := h
    exact lt_of_drop_ne_nil (by simp [hdrop, hs.ne_nil])

/-- What a fault says of the text is so, and the place that it gives lies within the text. -/
theorem fault_designates (grammar : String) (e : GrammarFault)
    (h : Definition.parse grammar = .error e) :
    e.Designates grammar ∧ ∀ pos, e.pos? = some pos → pos < grammar.length :=
  ⟨designates_of_parse h, fun _ => (designates_of_parse h).within⟩

theorem fault_designates_bar :
    Definition.parse "ñu <x: \"\\a\" |>" = .error (.emptyAlternative 12) ∧
      (GrammarFault.emptyAlternative 12).Designates "ñu <x: \"\\a\" |>" ∧
      ∀ pos, (GrammarFault.emptyAlternative 12).pos? = some pos →
        pos < "ñu <x: \"\\a\" |>".length := by
  have hparse : Definition.parse "ñu <x: \"\\a\" |>" = .error (.emptyAlternative 12) := by
    decide +kernel
  exact ⟨hparse, fault_designates _ _ hparse⟩

end CommandGrammar
