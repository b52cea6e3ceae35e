import CommandGrammar.Proofs.Grammar.Phrase

/-!
# Well-formed definitions

What every definition that was read from a text satisfies. Its words are free of white space,
slashes and punctuation, nothing in it is empty, and no two parameters share a name. The words
owe this to the way the text was cut, all else to the reader.
-/

set_option autoImplicit false

namespace CommandGrammar

/-- A text that stands for itself in a grammar. -/
structure IsWord (s : String) : Prop where
  nonempty : s ≠ ""
  chars : ∀ c ∈ s.toList, Token.isWordChar c = true ∧ c ≠ '/'

instance (s : String) : Decidable (IsWord s) :=
  decidable_of_iff (s ≠ "" ∧ s.toList.all (fun c => Token.isWordChar c && c != '/') = true)
    ⟨fun h => ⟨h.1, by simpa using h.2⟩, fun h => ⟨h.nonempty, by simpa using h.chars⟩⟩

theorem IsWord.notMem {s : String} {c : Char} (h : IsWord s) (hc : Token.isWordChar c = false) :
    c ∉ s.toList := by
  intro hmem
  rw [(h.chars c hmem).1] at hc
  cases hc

namespace Token

/-- What the tokens of a text satisfy beyond their shape. -/
def Proper : Token → Prop
  | literal word => IsWord word
  | alternation words => words ≠ [] ∧ ∀ word ∈ words, IsWord word
  | _ => True

theorem isWord_ofList {cs : List Char} (hne : cs ≠ [])
    (h : ∀ c ∈ cs, isWordChar c = true ∧ c ≠ '/') : IsWord (String.ofList cs) :=
  ⟨by simpa using hne, by simpa using h⟩

theorem proper_of_ofWord? {word : List Char} {token : Token} (hne : word ≠ [])
    (hw : ∀ c ∈ word, isWordChar c = true) (h : ofWord? word = some token) : token.Proper := by
  unfold ofWord? at h
  split at h
  · rename_i hslash
    cases h
    refine isWord_ofList hne fun c hc => ⟨hw c hc, ?_⟩
    rintro rfl
    simp_all
  · split at h
    · cases h
    · rename_i hempty
      cases h
      refine ⟨by simpa using Text.pieces_ne_nil '/' word, ?_⟩
      intro part hpart
      obtain ⟨piece, hpiece, rfl⟩ := List.mem_map.1 hpart
      refine isWord_ofList ?_ fun c hc => ?_
      · rintro rfl
        exact hempty (by simpa using hpiece)
      · obtain ⟨hmem, hne⟩ := Text.mem_of_mem_pieces hpiece hc
        exact ⟨hw c hmem, hne⟩

theorem map_cons_ok {α ε : Type} {x : α} {scanned : Except ε (List α)} {ts : List α}
    (h : scanned.map (x :: ·) = .ok ts) : ∃ more, scanned = .ok more ∧ ts = x :: more := by
  cases scanned with
  | error e => cases h
  | ok more =>
    cases h
    exact ⟨more, rfl, rfl⟩

theorem proper_of_scan {pos : Nat} {cs : List Char} {ts : List Positioned}
    (h : scan pos cs = .ok ts) : ∀ t ∈ ts, t.token.Proper := by
  fun_induction scan pos cs generalizing ts with
  | case1 => cases h; simp
  | case2 pos c rest hb ih => exact ih h
  | case3 pos c rest hb token hmark ih =>
    obtain ⟨more, hm, rfl⟩ := map_cons_ok h
    rw [List.forall_mem_cons]
    refine ⟨?_, ih hm⟩
    unfold ofMark? at hmark
    split at hmark <;> cases hmark <;> trivial
  | case4 => cases h
  | case5 pos rest body hbody hb hmark ih =>
    obtain ⟨more, hm, rfl⟩ := map_cons_ok h
    rw [List.forall_mem_cons]
    exact ⟨trivial, ih hm⟩
  | case6 => cases h
  | case7 pos c rest hb hmark hq token hword ih =>
    obtain ⟨more, hm, rfl⟩ := map_cons_ok h
    rw [List.forall_mem_cons]
    refine ⟨proper_of_ofWord? (List.cons_ne_nil _ _) ?_ hword, ih hm⟩
    intro d hd
    rcases List.mem_cons.1 hd with rfl | hd
    · simp [isWordChar, hb, hmark, hq]
    · exact List.all_eq_true.1 List.all_takeWhile d hd

end Token

def ParamType.WellFormed : ParamType → Prop
  | typename value => IsWord value
  | choice values => values ≠ [] ∧ ∀ v ∈ values, v ≠ ""

def Node.WellFormed : Node → Prop
  | literal values => values ≠ [] ∧ ∀ v ∈ values, IsWord v
  | param p => IsWord p.name ∧ p.type.WellFormed

structure Definition.WellFormed (d : Definition) : Prop where
  nonempty : d ≠ []
  nodes : ∀ node ∈ d, node.WellFormed
  names : d.paramNames.Nodup

theorem ChoicePhrase.wellFormed {tokens : List Token} {values : List String}
    (h : ChoicePhrase tokens values) : (ParamType.choice values).WellFormed := by
  refine ⟨?_, ?_⟩
  · cases h <;> simp
  · induction h with
    | last value hv => simpa using hv
    | more value hv _ ih => exact List.forall_mem_cons.2 ⟨hv, ih⟩

theorem TypePhrase.wellFormed {tokens : List Token} {type : ParamType} (h : TypePhrase tokens type)
    (ht : ∀ token ∈ tokens, token.Proper) : type.WellFormed := by
  cases h with
  | typename word => exact ht _ (List.mem_singleton_self _)
  | choice hc => exact hc.wellFormed

theorem ItemPhrase.wellFormed {tokens : List Token} {node : Node} (h : ItemPhrase tokens node)
    (ht : ∀ token ∈ tokens, token.Proper) : node.WellFormed := by
  cases h with
  | literal word =>
    have hw : IsWord word := ht _ (List.mem_singleton_self _)
    exact ⟨List.cons_ne_nil _ _, by simpa using hw⟩
  | alternation words => exact ht _ (List.mem_singleton_self _)
  | param b name htype =>
    have hname : IsWord name := ht (.literal name) (by simp)
    exact ⟨hname, htype.wellFormed fun token hmem => ht token (by simp [hmem])⟩

theorem Phrase.wellFormed {tokens : List Token} {d : Definition} (h : Phrase tokens d)
    (ht : ∀ token ∈ tokens, token.Proper) : ∀ node ∈ d, node.WellFormed := by
  induction h with
  | nil => simp
  | cons hi _ ih =>
    rw [List.forall_mem_append] at ht
    exact List.forall_mem_cons.2 ⟨hi.wellFormed ht.1, ih ht.2⟩

theorem wellFormed_of_parse {grammar : String} {d : Definition}
    (h : Definition.parse grammar = .ok d) : d.WellFormed := by
  obtain ⟨tokens, htokens, hread⟩ := parse_eq_ok.1 h
  obtain ⟨hp, hne, hn⟩ := (ofTokens_ok tokens d).1 hread
  have hproper : ∀ token ∈ tokens.map (·.token), token.Proper := by
    intro token hmem
    obtain ⟨t, ht, rfl⟩ := List.mem_map.1 hmem
    exact Token.proper_of_scan htokens t ht
  exact ⟨hne, hp.wellFormed hproper, hn⟩

end CommandGrammar
