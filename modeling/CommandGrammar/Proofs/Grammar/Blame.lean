import CommandGrammar.Proofs.Grammar.Phrase
import CommandGrammar.Proofs.Grammar.Places

/-!
# Which token a fault blames

Wherever the reader stands there are tokens that complete what it has begun, so all that it has read
can still become a definition. A refused token is therefore the first one that cannot be continued,
and a text whose tokens all pass but do not suffice was cut short, inside the parameter that was
opened last.
-/

set_option autoImplicit false

namespace CommandGrammar

/-- A definition, but for parameters that may share a name. -/
def AcceptedButNames (result : Except GrammarFault Definition) : Prop :=
  (∃ d, result = .ok d) ∨ ∃ name, result = .error (.duplicateParam name)

/-- A longer text has these tokens and more behind them, and it is accepted but for the names. -/
def Continues (text : List Char) (ts : List Positioned) : Prop :=
  ∃ tail more, tokenize (String.ofList (text ++ tail)) = .ok (ts ++ more) ∧
    AcceptedButNames (Definition.ofTokens (ts ++ more))

/-- No bracket is opened behind this one. -/
def LastOpening (ts : List Positioned) (o : Opening) : Prop :=
  ∃ before after, ts = before ++ ⟨o.pos, .opening o.bracket⟩ :: after ∧
    ∀ t ∈ after, ∀ b, t.token ≠ .opening b

/-- The faults that name a token by its place. -/
inductive GrammarFault.Blames (pos : Nat) : GrammarFault → Prop
  | name : Blames pos (.missingParamName pos)
  | token (found : String) : Blames pos (.unexpectedToken pos found)

theorem Opening.unclosed_inj {o o' : Opening} (h : o.unclosed = o'.unclosed) : o = o' := by
  cases o with
  | mk b pos =>
    cases o' with
    | mk b' pos' => cases b <;> cases b' <;> cases h <;> rfl

theorem Opening.unclosed_ne_empty (o : Opening) : o.unclosed ≠ .empty := by
  cases o with
  | mk b pos => cases b <;> exact nofun

theorem Opening.not_blames (o : Opening) (pos : Nat) : ¬ o.unclosed.Blames pos := by
  cases o with
  | mk b pos' => cases b <;> exact nofun

namespace Expecting

def opening? : Expecting → Option Opening
  | item => none
  | name o | colon o _ | type o _ | closing o _ _ | pipeOrClosing o _ _ | value o _ _ _ => some o

/-- Tokens that complete the item that has been begun. Where none has, a word is one. -/
def missing : Expecting → List Token
  | item => [.literal "word"]
  | name o => [.literal "name", .colon, .literal "word", .closing o.bracket]
  | colon o _ => [.colon, .literal "word", .closing o.bracket]
  | type o _ => [.literal "word", .closing o.bracket]
  | closing o _ _ | pipeOrClosing o _ _ => [.closing o.bracket]
  | value o _ _ _ => [.quoted "word", .closing o.bracket]

end Expecting

def Positioned.openBehind (before : Option Opening) (t : Positioned) : Option Opening :=
  match t.token with
  | .opening b => some ⟨b, t.pos⟩
  | .closing _ => none
  | _ => before

theorem Expecting.missing_spelled (e : Expecting) :
    ∀ token ∈ e.missing, ∃ cs, token.Spells cs := by
  have hname : IsWord "name" := by decide
  have hword : IsWord "word" := by decide
  have hcolon : ∃ cs, Token.colon.Spells cs := ⟨[':'], .mark rfl⟩
  cases e <;> simp [Expecting.missing, hcolon, Token.exists_spells_literal hname,
    Token.exists_spells_literal hword, Token.exists_spells_quoted, Token.exists_spells_closing]

namespace Reader

variable {r r' : Reader} {t : Positioned}

theorem Refuses.not_unclosed {o : Opening} : ¬ r.Refuses t o.unclosed := by
  intro h
  cases o with
  | mk b pos => cases b <;> cases h

theorem Refuses.pos_eq {pos : Nat} {e : GrammarFault} (h : r.Refuses t e) (he : e.Blames pos) :
    t.pos = pos := by
  cases he <;> cases h <;> rfl

theorem Takes.opening?_eq (h : r.Takes t r') :
    r'.expecting.opening? = t.openBehind r.expecting.opening? := by
  cases h with
  | literal hx ht | alternation hx ht | name hx ht | colon hx ht | type hx ht | pipe hx ht =>
    simp [Positioned.openBehind, Reader.push, Reader.expect, Expecting.opening?, hx, ht]
  | opening _ ht | closing _ ht =>
    simp [Positioned.openBehind, Reader.push, Reader.expect, Expecting.opening?, ht]
  | value hw ht hv =>
    rcases hw with ⟨hx, -⟩ | ⟨pipe, hx⟩ <;>
      simp [Positioned.openBehind, Reader.expect, Expecting.opening?, hx, ht]

theorem lastOpening_of_read {ts : List Positioned} {o : Opening}
    (h : ts.foldlM Reader.step Reader.start = .ok r) (ho : r.expecting.opening? = some o) :
    LastOpening ts o := by
  refine read_invariant (fun ts r => ∀ o ∈ r.expecting.opening?, LastOpening ts o) nofun ?_ h o ho
  intro ts r t next hlast ht o ho
  rw [ht.opening?_eq, Positioned.openBehind] at ho
  cases hb : t.token with
  | opening b =>
    rw [hb] at ho
    cases ho
    exact ⟨ts, [], by rw [← hb], nofun⟩
  | closing b =>
    rw [hb] at ho
    cases ho
  | literal | alternation | quoted | colon | pipe =>
    rw [hb] at ho
    obtain ⟨before, after, rfl, hafter⟩ := hlast o ho
    refine ⟨before, after ++ [t], by simp, fun u hu => ?_⟩
    rcases List.mem_append.1 hu with hu | hu
    · exact hafter u hu
    · rw [List.mem_singleton.1 hu, hb]
      exact nofun

theorem finish_error {e : GrammarFault} (h : r.finish = .error e) :
    ∃ o, r.expecting.opening? = some o ∧ e = o.unclosed := by
  rw [Reader.finish] at h
  cases hx : r.expecting <;> rw [hx] at h <;> cases h <;> exact ⟨_, rfl, rfl⟩

def Completes (r : Reader) (tokens : List Token) : Prop :=
  ∀ ts : List Positioned, ts.map (·.token) = tokens →
    AcceptedButNames (ts.foldlM Reader.step r >>= Reader.finish)

namespace Completes

variable {next : Reader} {token : Token} {tokens : List Token}

theorem cons (hs : ∀ t : Positioned, t.token = token → r.Takes t next)
    (h : next.Completes tokens) : r.Completes (token :: tokens) := by
  intro ts hts
  obtain ⟨t, rest, rfl, ht, hrest⟩ := List.map_eq_cons_iff.1 hts
  rw [read_cons rest (hs t ht)]
  exact h rest hrest

theorem item (hx : r.expecting = .item) : r.Completes [] := by
  intro ts hts
  rw [List.map_eq_nil_iff.1 hts]
  exact .inl ⟨r.nodes, by simp [pure, Except.pure, bind, Except.bind, Reader.finish, hx]⟩

theorem literal (hx : r.expecting = .item) (word : String) : r.Completes [.literal word] :=
  cons (fun _ ht => .literal hx ht) (item rfl)

theorem closing {o : Opening} {name : String} {type : ParamType} (hc : r.Typed o name type) :
    r.Completes [.closing o.bracket] := by
  by_cases hn : name ∈ Definition.paramNames r.nodes
  · intro ts hts
    obtain ⟨t, rfl, ht⟩ := List.map_eq_singleton_iff.1 hts
    right
    refine ⟨name, ?_⟩
    rw [List.foldlM_cons, step_closing hc ht, Reader.close, if_pos hn]
    rfl
  · exact cons (fun _ ht => .closing hc ht hn) (item rfl)

theorem type {o : Opening} {name : String} (hx : r.expecting = .type o name) (word : String) :
    r.Completes [.literal word, .closing o.bracket] :=
  cons (fun _ ht => .type hx ht) (closing (.inl rfl))

theorem colon {o : Opening} {name : String} (hx : r.expecting = .colon o name) (word : String) :
    r.Completes [.colon, .literal word, .closing o.bracket] :=
  cons (fun _ ht => .colon hx ht) (type rfl word)

theorem name {o : Opening} (hx : r.expecting = .name o) (key word : String) :
    r.Completes [.literal key, .colon, .literal word, .closing o.bracket] :=
  cons (fun _ ht => .name hx ht) (colon rfl word)

theorem value {o : Opening} {key word : String} {values : List String}
    (h : r.Wants o key values) (hw : word ≠ "") :
    r.Completes [.quoted word, .closing o.bracket] :=
  cons (fun _ ht => .value h ht hw) (closing (.inr ⟨_, rfl, rfl⟩))

end Completes

theorem completes_missing (r : Reader) : r.Completes r.expecting.missing := by
  cases hx : r.expecting with
  | item => exact .literal hx "word"
  | name o => exact .name hx "name" "word"
  | colon o key => exact .colon hx "word"
  | type o key => exact .type hx "word"
  | closing o key type => exact .closing (.inl hx)
  | pipeOrClosing o key values => exact .closing (.inr ⟨values, hx, rfl⟩)
  | value o key values pipe => exact .value (.inr ⟨pipe, hx⟩) (by decide)

end Reader

theorem ofTokens_of_ne_nil {ts : List Positioned} (h : ts ≠ []) :
    Definition.ofTokens ts = ts.foldlM Reader.step Reader.start >>= Reader.finish := by
  rw [Definition.ofTokens, if_neg (by simpa using h)]

theorem ofTokens_error {ts : List Positioned} {e : GrammarFault}
    (h : Definition.ofTokens ts = .error e) :
    (ts = [] ∧ e = .empty) ∨
      (∃ before t after, ∃ r : Reader, ts = before ++ t :: after ∧
        before.foldlM Reader.step Reader.start = .ok r ∧ r.step t = .error e) ∨
      ∃ (r : Reader) (o : Opening), ts.foldlM Reader.step Reader.start = .ok r ∧
        r.expecting.opening? = some o ∧ e = o.unclosed := by
  by_cases hts : ts = []
  · subst hts
    cases h
    exact .inl ⟨rfl, rfl⟩
  · right
    rw [ofTokens_of_ne_nil hts] at h
    cases hread : ts.foldlM Reader.step Reader.start with
    | error fault =>
      rw [hread] at h
      cases h
      exact .inl (Reader.refused_of_read hread)
    | ok r =>
      rw [hread] at h
      obtain ⟨o, ho, he⟩ := Reader.finish_error h
      exact .inr ⟨r, o, rfl, ho, he⟩

theorem ofTokens_refused {before : List Positioned} {r : Reader} {t : Positioned}
    {e : GrammarFault} (hread : before.foldlM Reader.step Reader.start = .ok r)
    (h : r.step t = .error e) (after : List Positioned) :
    Definition.ofTokens (before ++ t :: after) = .error e := by
  rw [ofTokens_of_ne_nil (by simp), Reader.read_append _ hread, List.foldlM_cons, h]
  rfl

theorem Layout.continues {text : List Char} {ts : List Positioned} {r : Reader}
    (h : Layout 0 text ts) (hread : ts.foldlM Reader.step Reader.start = .ok r) :
    Continues text ts := by
  obtain ⟨tail, more, hscan, htokens⟩ := h.write_behind r.expecting.missing_spelled
  refine ⟨tail, more, by simpa [tokenize] using hscan, ?_⟩
  have hmore : more ≠ [] := by
    rintro rfl
    cases hx : r.expecting <;> simp [hx, Expecting.missing] at htokens
  rw [ofTokens_of_ne_nil (by simp [hmore]), Reader.read_append _ hread]
  exact r.completes_missing more htokens

/-- A fault blames the first token that cannot be continued. An open bracket is reported for a text
that was cut short, and it is the last bracket that was opened. A token that is reported makes
every text that begins like this one up to it fail, and the text before the token can be
continued. -/
theorem fault_blames_first_token (grammar : String) (ts : List Positioned)
    (ht : tokenize grammar = .ok ts) :
    (∀ o : Opening, Definition.parse grammar = .error o.unclosed →
      Continues grammar.toList ts ∧ LastOpening ts o) ∧
    ∀ (pos : Nat) (e : GrammarFault), e.Blames pos → Definition.parse grammar = .error e →
      ∃ before t after, ts = before ++ t :: after ∧ t.pos = pos ∧
        (∀ other ∈ before, other.pos < pos) ∧ (∀ other ∈ after, pos < other.pos) ∧
        Continues (grammar.toList.take pos) before ∧
        ∀ more, Definition.ofTokens (before ++ t :: more) = .error e := by
  have hlayout : Layout 0 grammar.toList ts := layout_of_scan ht
  have hparse : Definition.parse grammar = Definition.ofTokens ts := by
    rw [Definition.parse, ht]
    rfl
  constructor
  · intro o ho
    rw [hparse] at ho
    rcases ofTokens_error ho with ⟨-, hempty⟩ | ⟨_, t, _, r, -, -, hstep⟩ | ⟨r, o', hread, hx, he⟩
    · exact absurd hempty o.unclosed_ne_empty
    · exact absurd (Reader.refuses_of_step hstep) Reader.Refuses.not_unclosed
    · rw [Opening.unclosed_inj he]
      exact ⟨hlayout.continues hread, Reader.lastOpening_of_read hread hx⟩
  · intro pos e hb he
    rw [hparse] at he
    rcases ofTokens_error he with ⟨-, rfl⟩ | ⟨before, t, after, r, rfl, hread, hstep⟩ |
      ⟨_, o, -, -, rfl⟩
    · cases hb
    · have hpos : t.pos = pos := (Reader.refuses_of_step hstep).pos_eq hb
      obtain ⟨hbefore, hafter⟩ := hlayout.places
      obtain ⟨head, spelling, rest, htext, hhead, -, hlead, -⟩ := hlayout.split
      rw [hpos] at hbefore hafter hhead
      have htake : grammar.toList.take pos = head := by
        rw [htext, hhead, Nat.zero_add, List.take_left]
      refine ⟨before, t, after, rfl, hpos, hbefore, hafter, ?_, ofTokens_refused hread hstep⟩
      rw [htake]
      exact hlead.continues hread
    · exact absurd hb (o.not_blames pos)

theorem fault_blames_first_token_kick :
    (∃ ts, tokenize "kick <user: \"a\" |" = .ok ts ∧
      Definition.parse "kick <user: \"a\" |" = .error (.unclosedAngleBracket 5) ∧
        Continues "kick <user: \"a\" |".toList ts ∧ LastOpening ts ⟨.angle, 5⟩) ∧
    ∃ ts, tokenize "kick <user: word] x" = .ok ts ∧
      Definition.parse "kick <user: word] x" = .error (.unexpectedToken 16 "']'") ∧
      ∃ before t after, ts = before ++ t :: after ∧ t.pos = 16 ∧
        (∀ other ∈ before, other.pos < 16) ∧ (∀ other ∈ after, 16 < other.pos) ∧
        Continues ("kick <user: word] x".toList.take 16) before ∧
        ∀ more, Definition.ofTokens (before ++ t :: more) =
          .error (.unexpectedToken 16 "']'") := by
  have hshort : tokenize "kick <user: \"a\" |" = .ok [⟨0, .literal "kick"⟩,
      ⟨5, .opening .angle⟩, ⟨6, .literal "user"⟩, ⟨10, .colon⟩, ⟨12, .quoted "a"⟩,
      ⟨16, .pipe⟩] := by decide +kernel
  have hopen : Definition.parse "kick <user: \"a\" |" = .error (.unclosedAngleBracket 5) := by
    decide +kernel
  have hmixed : tokenize "kick <user: word] x" = .ok [⟨0, .literal "kick"⟩,
      ⟨5, .opening .angle⟩, ⟨6, .literal "user"⟩, ⟨10, .colon⟩, ⟨12, .literal "word"⟩,
      ⟨16, .closing .square⟩, ⟨18, .literal "x"⟩] := by decide +kernel
  have hwrong : Definition.parse "kick <user: word] x" = .error (.unexpectedToken 16 "']'") := by
    decide +kernel
  exact ⟨⟨_, hshort, hopen, (fault_blames_first_token _ _ hshort).1 ⟨.angle, 5⟩ hopen⟩,
    _, hmixed, hwrong, (fault_blames_first_token _ _ hmixed).2 16 _ (.token "']'") hwrong⟩

end CommandGrammar
