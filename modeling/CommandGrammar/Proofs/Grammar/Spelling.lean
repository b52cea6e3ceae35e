import CommandGrammar.Proofs.Grammar.WellFormed

/-!
# How tokens are spelled

A grammar text seen as spelled tokens with white space between them, said without the scanner.
White space may stand anywhere between tokens; it must stand only where two words would grow
together. The scanner finds the tokens of every such text at their places.
-/

set_option autoImplicit false

namespace CommandGrammar

/-- The body of a quote and its value. A backslash protects the character behind it, whatever it
is, and no quote stands unprotected. -/
inductive Escaped : List Char → List Char → Prop
  | nil : Escaped [] []
  | plain {c : Char} {body value : List Char} (hq : c ≠ '"') (hb : c ≠ '\\')
      (h : Escaped body value) : Escaped (c :: body) (c :: value)
  | guarded (c : Char) {body value : List Char} (h : Escaped body value) :
      Escaped ('\\' :: c :: body) (c :: value)

theorem Escaped.quoteBody?_eq {body value : List Char} (h : Escaped body value)
    (rest : List Char) :
    quoteBody? (body ++ '"' :: rest) = some ⟨value, body.length + 1, rest⟩ := by
  induction h with
  | nil => rfl
  | @plain c body value hq hb _ ih =>
    rw [List.cons_append, quoteBody?.eq_5 c _ hq (fun _ _ h => absurd h hb) (fun h => absurd h hb),
      ih]
    simp [QuoteBody.cons]
  | guarded c _ ih =>
    rw [List.cons_append, List.cons_append, quoteBody?.eq_3, ih]
    simp [QuoteBody.cons]

namespace Token

def isWord : Token → Bool
  | literal _ | alternation _ => true
  | _ => false

/-- The texts that stand for a token. A literal is a word without a slash, an alternation two
words or more with slashes between them. -/
inductive Spells : Token → List Char → Prop
  | mark {c : Char} {token : Token} (h : ofMark? c = some token) : Spells token [c]
  | literal {word : String} (h : IsWord word) : Spells (literal word) word.toList
  | alternation {words : List String} (hl : 2 ≤ words.length) (h : ∀ word ∈ words, IsWord word) :
      Spells (alternation words) (Text.join '/' (words.map String.toList))
  | quoted {body value : List Char} (h : Escaped body value) :
      Spells (quoted (String.ofList value)) ('"' :: (body ++ ['"']))

/-- The texts before which a word can end. -/
def EndsWord (rest : List Char) : Prop :=
  ∀ c ∈ rest.head?, isWordChar c = false

theorem endsWord_cons {c : Char} (rest : List Char) (hc : isWordChar c = false) :
    EndsWord (c :: rest) := by
  simpa [EndsWord] using hc

theorem takeWhile_word {word rest : List Char} (hw : ∀ c ∈ word, isWordChar c = true)
    (hr : EndsWord rest) :
    (word ++ rest).takeWhile isWordChar = word ∧ (word ++ rest).dropWhile isWordChar = rest := by
  rw [List.takeWhile_append_of_pos hw, List.dropWhile_append_of_pos hw]
  cases rest with
  | nil => simp
  | cons c rest =>
    have hc : isWordChar c = false := hr c rfl
    simp [hc]

theorem ofWord?_literal {word : String} (h : IsWord word) :
    ofWord? word.toList = some (literal word) := by
  have hslash : '/' ∉ word.toList := fun hmem => (h.chars _ hmem).2 rfl
  simp [ofWord?, hslash]

theorem slash_mem_join (parts : List (List Char)) (hl : 2 ≤ parts.length) :
    '/' ∈ Text.join '/' parts := by
  match parts, hl with
  | first :: second :: more, _ => simp [Text.join_cons_cons]

theorem ofWord?_alternation {words : List String} (hl : 2 ≤ words.length)
    (h : ∀ word ∈ words, IsWord word) :
    ofWord? (Text.join '/' (words.map String.toList)) = some (alternation words) := by
  have hslash := slash_mem_join (words.map String.toList) (by simpa using hl)
  have hpieces : Text.pieces '/' (Text.join '/' (words.map String.toList)) =
      words.map String.toList := by
    apply Text.pieces_join
    · rintro hnil
      simp_all
    · intro part hpart
      obtain ⟨word, hword, rfl⟩ := List.mem_map.1 hpart
      exact fun hmem => ((h word hword).chars _ hmem).2 rfl
  have hempty : [] ∉ words.map String.toList := by
    intro hmem
    obtain ⟨word, hword, hnil⟩ := List.mem_map.1 hmem
    exact (h word hword).nonempty (by simpa using hnil)
  simp [ofWord?, hslash, hpieces, hempty, Function.comp_def]

theorem isBlank_mark {c : Char} {token : Token} (h : ofMark? c = some token) :
    Text.isBlank c = false := by
  unfold ofMark? at h
  split at h <;> first | decide | cases h

theorem isWord_mark {c : Char} {token : Token} (h : ofMark? c = some token) :
    token.isWord = false := by
  unfold ofMark? at h
  split at h <;> cases h <;> rfl

theorem scan_mark (pos : Nat) {c : Char} {token : Token} (h : ofMark? c = some token)
    (rest : List Char) :
    scan pos (c :: rest) = (scan (pos + 1) rest).map (⟨pos, token⟩ :: ·) := by
  rw [scan, if_neg (by simp [isBlank_mark h]), h]

theorem scan_quoted (pos : Nat) {body value : List Char} (h : Escaped body value)
    (rest : List Char) :
    scan pos ('"' :: (body ++ '"' :: rest)) =
      (scan (pos + (body.length + 2)) rest).map (⟨pos, quoted (String.ofList value)⟩ :: ·) := by
  have hread := h.quoteBody?_eq rest
  have hmark : ofMark? '"' = none := by decide
  have hpos : pos + 1 + (body.length + 1) = pos + (body.length + 2) := by omega
  rw [scan, if_neg (by decide), hmark]
  simp only [if_true]
  split
  · simp_all
  · rename_i found hfound
    obtain rfl : found = _ := Option.some.inj (hfound.symm.trans hread)
    rw [hpos]

theorem scan_word (pos : Nat) {word rest : List Char} {token : Token} (hne : word ≠ [])
    (hw : ∀ c ∈ word, isWordChar c = true) (hr : EndsWord rest) (h : ofWord? word = some token) :
    scan pos (word ++ rest) = (scan (pos + word.length) rest).map (⟨pos, token⟩ :: ·) := by
  obtain ⟨c, more, rfl⟩ := List.exists_cons_of_ne_nil hne
  rw [List.forall_mem_cons] at hw
  have hc : Text.isBlank c = false ∧ ofMark? c = none ∧ c ≠ '"' := by
    simpa [isWordChar, and_assoc] using hw.1
  obtain ⟨htake, hdrop⟩ := takeWhile_word hw.2 hr
  have hpos : pos + 1 + more.length = pos + (c :: more).length := by
    simp only [List.length_cons]
    omega
  rw [List.cons_append, scan, if_neg (by simp [hc.1]), hc.2.1]
  simp only [if_neg hc.2.2, htake, hdrop, h, hpos]

theorem scan_spells (pos : Nat) {token : Token} {cs rest : List Char} (h : token.Spells cs)
    (hr : token.isWord = true → EndsWord rest) :
    scan pos (cs ++ rest) = (scan (pos + cs.length) rest).map (⟨pos, token⟩ :: ·) := by
  cases h with
  | mark hmark => exact scan_mark pos hmark rest
  | @literal word hword =>
    have hne : word.toList ≠ [] := by simpa using hword.nonempty
    exact scan_word pos hne (fun c hc => (hword.chars c hc).1) (hr rfl) (ofWord?_literal hword)
  | @alternation words hl hwords =>
    have hslash := slash_mem_join (words.map String.toList) (by simpa using hl)
    refine scan_word pos (List.ne_nil_of_mem hslash) ?_ (hr rfl) (ofWord?_alternation hl hwords)
    intro c hc
    rcases Text.mem_join hc with rfl | ⟨part, hpart, hmem⟩
    · decide
    · obtain ⟨word, hword, rfl⟩ := List.mem_map.1 hpart
      exact ((hwords word hword).chars c hmem).1
  | quoted hbody => simpa using scan_quoted pos hbody rest

end Token

/-- A text from a place on, as the tokens that stand in it with their places. -/
inductive Layout : Nat → List Char → List Positioned → Prop
  | nil (pos : Nat) : Layout pos [] []
  | blank {pos : Nat} {c : Char} {rest : List Char} {ts : List Positioned}
      (hc : Text.isBlank c = true) (h : Layout (pos + 1) rest ts) : Layout pos (c :: rest) ts
  | token {pos : Nat} {token : Token} {cs rest : List Char} {ts : List Positioned}
      (hs : token.Spells cs) (hr : token.isWord = true → Token.EndsWord rest)
      (h : Layout (pos + cs.length) rest ts) : Layout pos (cs ++ rest) (⟨pos, token⟩ :: ts)

theorem Layout.scan_eq {pos : Nat} {cs : List Char} {ts : List Positioned}
    (h : Layout pos cs ts) : Token.scan pos cs = .ok ts := by
  induction h with
  | nil pos => exact Token.scan.eq_1 pos
  | blank hc _ ih => rw [Token.scan, if_pos hc, ih]
  | token hs hr _ ih =>
    rw [Token.scan_spells _ hs hr, ih]
    rfl

end CommandGrammar
