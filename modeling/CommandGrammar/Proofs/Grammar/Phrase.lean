import CommandGrammar.Proofs.Grammar.Steps

/-!
# The grammar of grammar texts

The token sequences that stand for a definition, said without the reader, and the proof that the
reader accepts exactly these. What it has read so far is always a sequence of whole items and
the beginning of one more, which its expectation describes.
-/

set_option autoImplicit false

namespace CommandGrammar

/-- Quoted values with bars between them, none of them empty. -/
inductive ChoicePhrase : List Token → List String → Prop
  | last (value : String) (hv : value ≠ "") : ChoicePhrase [.quoted value] [value]
  | more (value : String) (hv : value ≠ "") {tokens : List Token} {values : List String}
      (h : ChoicePhrase tokens values) :
      ChoicePhrase (.quoted value :: .pipe :: tokens) (value :: values)

inductive TypePhrase : List Token → ParamType → Prop
  | typename (word : String) : TypePhrase [.literal word] (.typename word)
  | choice {tokens : List Token} {values : List String} (h : ChoicePhrase tokens values) :
      TypePhrase tokens (.choice values)

/-- The two brackets of a parameter are of one kind, and square ones make it optional. -/
inductive ItemPhrase : List Token → Node → Prop
  | literal (word : String) : ItemPhrase [.literal word] (.literal [word])
  | alternation (words : List String) : ItemPhrase [.alternation words] (.literal words)
  | param (b : Bracket) (name : String) {tokens : List Token} {type : ParamType}
      (h : TypePhrase tokens type) :
      ItemPhrase (.opening b :: .literal name :: .colon :: (tokens ++ [.closing b]))
        (.param ⟨name, b.isOptional, type⟩)

inductive Phrase : List Token → Definition → Prop
  | nil : Phrase [] []
  | cons {tokens more : List Token} {node : Node} {d : Definition} (h : ItemPhrase tokens node)
      (hd : Phrase more d) : Phrase (tokens ++ more) (node :: d)

theorem ItemPhrase.ne_nil {tokens : List Token} {node : Node} (h : ItemPhrase tokens node) :
    tokens ≠ [] := by
  cases h <;> simp

theorem Phrase.eq_nil_iff {tokens : List Token} {d : Definition} (h : Phrase tokens d) :
    tokens = [] ↔ d = [] := by
  cases h with
  | nil => simp
  | cons hi _ => simp [hi.ne_nil]

theorem Phrase.snoc {tokens more : List Token} {node : Node} {d : Definition}
    (hd : Phrase tokens d) (h : ItemPhrase more node) : Phrase (tokens ++ more) (d ++ [node]) := by
  induction hd with
  | nil => simpa using Phrase.cons h .nil
  | cons hi _ ih => simpa [List.append_assoc] using Phrase.cons hi ih

theorem ChoicePhrase.snoc {tokens : List Token} {values : List String} {value : String}
    (h : ChoicePhrase tokens values) (hv : value ≠ "") :
    ChoicePhrase (tokens ++ [.pipe, .quoted value]) (values ++ [value]) := by
  induction h with
  | last first hf => exact .more first hf (.last value hv)
  | more first hf _ ih => exact .more first hf ih

def Opening.head (o : Opening) (name : String) : List Token :=
  [.opening o.bracket, .literal name, .colon]

/-- The beginning of an item that has been read when the reader expects what it expects. -/
def Expecting.Pending : Expecting → List Token → Prop
  | .item, tokens => tokens = []
  | .name o, tokens => tokens = [.opening o.bracket]
  | .colon o key, tokens => tokens = [.opening o.bracket, .literal key]
  | .type o key, tokens => tokens = o.head key
  | .closing o key t, tokens => ∃ read, TypePhrase read t ∧ tokens = o.head key ++ read
  | .pipeOrClosing o key values, tokens =>
    ∃ read, ChoicePhrase read values ∧ tokens = o.head key ++ read
  | .value o key values _, tokens =>
    ∃ read, ChoicePhrase read values ∧ tokens = o.head key ++ (read ++ [.pipe])

namespace Reader

structure Holds (r : Reader) (tokens : List Token) : Prop where
  items : ∃ done pending, Phrase done r.nodes ∧ r.expecting.Pending pending ∧
    tokens = done ++ pending
  names : (Definition.paramNames r.nodes).Nodup

theorem start_holds : start.Holds [] :=
  ⟨⟨[], [], .nil, rfl, rfl⟩, .nil⟩

variable {r r' : Reader} {tokens : List Token} {token : Token}

theorem Holds.expect {now next : Expecting} (h : r.Holds tokens) (hx : r.expecting = now)
    (he : ∀ pending, now.Pending pending → next.Pending (pending ++ [token])) :
    (r.expect next).Holds (tokens ++ [token]) := by
  obtain ⟨done, pending, hd, hp, rfl⟩ := h.items
  rw [hx] at hp
  exact ⟨⟨done, pending ++ [token], hd, he pending hp, List.append_assoc ..⟩, h.names⟩

theorem Holds.push {now : Expecting} {node : Node} (h : r.Holds tokens) (hx : r.expecting = now)
    (hi : ∀ pending, now.Pending pending → ItemPhrase (pending ++ [token]) node)
    (hn : (Definition.paramNames (r.nodes ++ [node])).Nodup) :
    (r.push node).Holds (tokens ++ [token]) := by
  obtain ⟨done, pending, hd, hp, rfl⟩ := h.items
  rw [hx] at hp
  refine ⟨⟨done ++ (pending ++ [token]), [], hd.snoc (hi pending hp), rfl, ?_⟩, hn⟩
  simp [List.append_assoc]

theorem Holds.fixed {values : List String} (h : r.Holds tokens) (hx : r.expecting = .item)
    (hi : ItemPhrase [token] (.literal values)) :
    (r.push (.literal values)).Holds (tokens ++ [token]) := by
  apply h.push hx
  · rintro _ rfl
    exact hi
  · simpa [Definition.paramNames_concat, Node.paramName?] using h.names

theorem Holds.close {now : Expecting} {o : Opening} {name : String} {type : ParamType}
    (h : r.Holds tokens) (hx : r.expecting = now)
    (hp : ∀ pending, now.Pending pending →
      ∃ read, TypePhrase read type ∧ pending = o.head name ++ read)
    (hn : name ∉ Definition.paramNames r.nodes) :
    (r.push (.param ⟨name, o.bracket.isOptional, type⟩)).Holds
      (tokens ++ [.closing o.bracket]) := by
  apply h.push hx
  · intro pending hpend
    obtain ⟨read, hread, rfl⟩ := hp pending hpend
    simpa [Opening.head] using ItemPhrase.param o.bracket name hread
  · rw [Definition.paramNames_concat, List.nodup_append]
    refine ⟨h.names, List.pairwise_singleton _ name, ?_⟩
    intro other hother last hlast
    obtain rfl : last = name := List.mem_singleton.1 hlast
    rintro rfl
    exact hn hother

theorem Holds.takes {t : Positioned} (h : r.Holds tokens) (hr : r.Takes t r') :
    r'.Holds (tokens ++ [t.token]) := by
  cases hr with
  | literal hx ht =>
    rw [ht]
    exact h.fixed hx (.literal _)
  | alternation hx ht =>
    rw [ht]
    exact h.fixed hx (.alternation _)
  | opening hx ht | name hx ht | colon hx ht =>
    rw [ht]
    apply h.expect hx
    rintro _ rfl
    rfl
  | @type _ _ word hx ht =>
    rw [ht]
    apply h.expect hx
    rintro _ rfl
    exact ⟨_, .typename word, rfl⟩
  | @value _ _ value _ hw ht hv =>
    rw [ht]
    rcases hw with ⟨hx, rfl⟩ | ⟨pipe, hx⟩
    · apply h.expect hx
      rintro _ rfl
      exact ⟨_, .last value hv, rfl⟩
    · apply h.expect hx
      rintro _ ⟨read, hread, rfl⟩
      exact ⟨_, hread.snoc hv, by simp⟩
  | pipe hx ht =>
    rw [ht]
    apply h.expect hx
    rintro _ ⟨read, hread, rfl⟩
    exact ⟨read, hread, List.append_assoc ..⟩
  | closing hc ht hn =>
    rw [ht]
    rcases hc with hx | ⟨values, hx, rfl⟩
    · exact h.close hx (fun _ hp => hp) hn
    · apply h.close hx _ hn
      rintro _ ⟨read, hread, rfl⟩
      exact ⟨read, .choice hread, rfl⟩

theorem holds_of_read {ts : List Positioned} (h : ts.foldlM Reader.step start = .ok r) :
    r.Holds (ts.map (·.token)) := by
  apply read_invariant (fun ts r => r.Holds (ts.map (·.token))) start_holds _ h
  intro ts r t next hr ht
  rw [List.map_append]
  exact hr.takes ht

theorem read_choice {o : Opening} {name : String} {values more : List String}
    {ts : List Positioned} (h : r.Wants o name values) (hp : ChoicePhrase tokens more)
    (ht : ts.map (·.token) = tokens) :
    ts.foldlM Reader.step r = .ok (r.expect (.pipeOrClosing o name (values ++ more))) := by
  induction hp generalizing r values ts with
  | last value hv =>
    obtain ⟨t, rfl, hq⟩ := List.map_eq_singleton_iff.1 ht
    rw [read_cons [] (.value h hq hv)]
    rfl
  | more value hv _ ih =>
    obtain ⟨t, us, rfl, hq, hus⟩ := List.map_eq_cons_iff.1 ht
    obtain ⟨bar, rest, rfl, hb, hrest⟩ := List.map_eq_cons_iff.1 hus
    rw [read_cons _ (.value h hq hv), read_cons _ (.pipe rfl hb), ih (.inr ⟨_, rfl⟩) hrest]
    simp [Reader.expect]

theorem read_type {o : Opening} {name : String} {type : ParamType} {ts : List Positioned}
    (h : r.expecting = .type o name) (hp : TypePhrase tokens type)
    (ht : ts.map (·.token) = tokens) :
    ∃ e, ts.foldlM Reader.step r = .ok (r.expect e) ∧ (r.expect e).Typed o name type := by
  cases hp with
  | typename word =>
    obtain ⟨t, rfl, hw⟩ := List.map_eq_singleton_iff.1 ht
    exact ⟨_, read_cons [] (.type h hw), .inl rfl⟩
  | choice hc => exact ⟨_, read_choice (.inl ⟨h, rfl⟩) hc ht, .inr ⟨_, rfl, rfl⟩⟩

theorem read_item {node : Node} {ts : List Positioned} (h : r.expecting = .item)
    (hp : ItemPhrase tokens node) (ht : ts.map (·.token) = tokens)
    (hn : (Definition.paramNames (r.nodes ++ [node])).Nodup) :
    ts.foldlM Reader.step r = .ok (r.push node) := by
  cases hp with
  | literal word =>
    obtain ⟨t, rfl, hw⟩ := List.map_eq_singleton_iff.1 ht
    exact read_cons [] (.literal h hw)
  | alternation words =>
    obtain ⟨t, rfl, hw⟩ := List.map_eq_singleton_iff.1 ht
    exact read_cons [] (.alternation h hw)
  | param b name htype =>
    obtain ⟨opening, us, rfl, ho, hus⟩ := List.map_eq_cons_iff.1 ht
    obtain ⟨word, us, rfl, hw, hus⟩ := List.map_eq_cons_iff.1 hus
    obtain ⟨colon, us, rfl, hcolon, hus⟩ := List.map_eq_cons_iff.1 hus
    obtain ⟨inner, us, rfl, hinner, hus⟩ := List.map_eq_append_iff.1 hus
    obtain ⟨closing, rfl, hclose⟩ := List.map_eq_singleton_iff.1 hus
    obtain ⟨e, hread, hc⟩ :=
      read_type (r := r.expect (.type ⟨b, opening.pos⟩ name)) rfl htype hinner
    have hnew : name ∉ Definition.paramNames r.nodes := by
      rw [Definition.paramNames_concat, List.nodup_append] at hn
      exact fun hmem => hn.2.2 name hmem name (List.mem_singleton_self name) rfl
    rw [read_cons _ (.opening h ho), read_cons _ (.name rfl hw), read_cons _ (.colon rfl hcolon),
      expect_expect, expect_expect, read_append _ hread, read_cons [] (.closing hc hclose hnew)]
    rfl

theorem read_phrase {d : Definition} {ts : List Positioned} (h : r.expecting = .item)
    (hp : Phrase tokens d) (ht : ts.map (·.token) = tokens)
    (hn : (Definition.paramNames r.nodes ++ Definition.paramNames d).Nodup) :
    ts.foldlM Reader.step r = .ok ⟨r.nodes ++ d, .item⟩ := by
  induction hp generalizing r ts with
  | nil =>
    obtain rfl := List.map_eq_nil_iff.1 ht
    rw [List.append_nil, ← h]
    rfl
  | @cons tokens more node d hi _ ih =>
    obtain ⟨us, vs, rfl, hus, hvs⟩ := List.map_eq_append_iff.1 ht
    rw [Definition.paramNames_cons, ← List.append_assoc, ← Definition.paramNames_concat] at hn
    have hitem := read_item h hi hus (List.nodup_append.1 hn).1
    rw [read_append _ hitem, ih rfl hvs hn]
    simp [Reader.push]

end Reader

theorem phrase_of_finish {r : Reader} {tokens : List Token} {d : Definition}
    (h : r.Holds tokens) (hf : r.finish = .ok d) : Phrase tokens d ∧ d.paramNames.Nodup := by
  rw [Reader.finish] at hf
  split at hf
  · rename_i hx
    cases hf
    obtain ⟨done, pending, hd, hp, rfl⟩ := h.items
    rw [hx] at hp
    obtain rfl : pending = [] := hp
    exact ⟨by simpa using hd, h.names⟩
  all_goals cases hf

theorem ofTokens_ok (ts : List Positioned) (d : Definition) :
    Definition.ofTokens ts = .ok d ↔
      Phrase (ts.map (·.token)) d ∧ d ≠ [] ∧ d.paramNames.Nodup := by
  rw [Definition.ofTokens]
  constructor
  · intro h
    split at h
    · cases h
    · rename_i hne
      cases hr : ts.foldlM Reader.step Reader.start with
      | error e =>
        rw [hr] at h
        cases h
      | ok r =>
        rw [hr] at h
        obtain ⟨hp, hn⟩ := phrase_of_finish (Reader.holds_of_read hr) h
        exact ⟨hp, fun hd => hne (by simpa using hp.eq_nil_iff.2 hd), hn⟩
  · rintro ⟨hp, hne, hn⟩
    have hts : ts ≠ [] := by
      rintro rfl
      exact hne (hp.eq_nil_iff.1 rfl)
    have hread := Reader.read_phrase (r := Reader.start) rfl hp rfl hn
    rw [if_neg (by simpa using hts), hread]
    rfl

theorem parse_eq_ok {grammar : String} {d : Definition} :
    Definition.parse grammar = .ok d ↔
      ∃ tokens, tokenize grammar = .ok tokens ∧ Definition.ofTokens tokens = .ok d := by
  rw [Definition.parse]
  cases tokenize grammar with
  | error e => simp [bind, Except.bind]
  | ok tokens => simp [bind, Except.bind]

/-- The reader accepts exactly the texts whose tokens are one item or more with distinct parameter
names, and the definition is then the nodes of these items in their order. -/
theorem parse_ok_iff_phrase (grammar : String) (d : Definition) :
    Definition.parse grammar = .ok d ↔
      ∃ tokens, tokenize grammar = .ok tokens ∧
        Phrase (tokens.map (·.token)) d ∧ d ≠ [] ∧ d.paramNames.Nodup := by
  simp only [parse_eq_ok, ofTokens_ok]

end CommandGrammar
