import CommandGrammar.Proofs.Grammar.Spelling
import Mathlib.Data.List.Chain

/-!
# Which texts can be cut into tokens

A text is cut into tokens exactly if it is spelled tokens one behind the other, each with any white
space before it and some between two words. Every other text has a first place at which no token
can be spelled: a quote that never ends, or a word with an empty part. The scan finds the one
or the other.
-/

set_option autoImplicit false

namespace CommandGrammar

/-- A token in one of its spellings, and the white space before it. -/
structure Piece where
  blanks : List Char
  token : Token
  text : List Char

namespace Piece

def written (p : Piece) : List Char :=
  p.blanks ++ p.text

structure Sound (p : Piece) : Prop where
  blanks : ∀ c ∈ p.blanks, Text.isBlank c = true
  spells : p.token.Spells p.text

/-- There is white space between two words. -/
def Parts (p q : Piece) : Prop :=
  p.token.isWord = true → q.token.isWord = true → q.blanks ≠ []

/-- The tokens of pieces that follow `pos` characters. The place of a token is the number of
characters before its spelling. -/
def positioned : Nat → List Piece → List Positioned
  | _, [] => []
  | pos, p :: rest => ⟨pos + p.blanks.length, p.token⟩ :: positioned (pos + p.written.length) rest

end Piece

/-- The text, which follows `pos` characters, is made of pieces and of white space at its end, and
these are their tokens. -/
def LaidOut (pos : Nat) (cs : List Char) (ts : List Positioned) : Prop :=
  ∃ (pieces : List Piece) (tail : List Char), cs = pieces.flatMap Piece.written ++ tail ∧
    (∀ p ∈ pieces, p.Sound) ∧ pieces.IsChain Piece.Parts ∧
      (∀ c ∈ tail, Text.isBlank c = true) ∧ ts = Piece.positioned pos pieces

/-- No quote ends the body that begins here. -/
def Endless (cs : List Char) : Prop :=
  ∀ body value rest, Escaped body value → cs ≠ body ++ '"' :: rest

/-- With slashes between them the parts make up the word, and one of them is empty. -/
def HasEmptyPart (word : List Char) : Prop :=
  ∃ parts, word = Text.join '/' parts ∧ (∀ part ∈ parts, '/' ∉ part) ∧ [] ∈ parts

/-- A word at the end of the first text does not go on in the second. -/
def Separate (before after : List Char) : Prop :=
  ∀ c ∈ before.getLast?, Token.isWordChar c = true → Token.EndsWord after

inductive Broken (pos : Nat) : List Char → GrammarFault → Prop
  | quote {body : List Char} (h : Endless body) : Broken pos ('"' :: body) (.unclosedQuote pos)
  | word {word rest : List Char} (hne : word ≠ []) (hw : ∀ c ∈ word, Token.isWordChar c = true)
      (hr : Token.EndsWord rest) (h : HasEmptyPart word) :
      Broken pos (word ++ rest) (.emptyAlternative pos)

/-- Up to the place of the fault the text can be cut into tokens. -/
def FirstFault (pos : Nat) (cs : List Char) (e : GrammarFault) : Prop :=
  ∃ before after ts, cs = before ++ after ∧ LaidOut pos before ts ∧ Separate before after ∧
    Broken (pos + before.length) after e

theorem escaped_of_quoteBody? {cs : List Char} {found : QuoteBody}
    (h : quoteBody? cs = some found) :
    ∃ body, Escaped body found.value ∧ cs = body ++ '"' :: found.rest ∧
      found.width = body.length + 1 := by
  fun_induction quoteBody? cs generalizing found with
  | case1 => cases h
  | case2 rest =>
    cases h
    exact ⟨[], .nil, rfl, rfl⟩
  | case3 c rest ih =>
    obtain ⟨inner, hi, rfl⟩ := Option.map_eq_some_iff.1 h
    obtain ⟨body, hbody, rfl, hwidth⟩ := ih hi
    exact ⟨'\\' :: c :: body, hbody.guarded c, rfl, by simp [QuoteBody.cons, hwidth]⟩
  | case4 => cases h
  | case5 c rest hq hpair hlast ih =>
    obtain ⟨inner, hi, rfl⟩ := Option.map_eq_some_iff.1 h
    obtain ⟨body, hbody, rfl, hwidth⟩ := ih hi
    have hb : c ≠ '\\' := by
      rintro rfl
      cases body with
      | nil => exact hpair _ _ rfl rfl
      | cons d body => exact hpair _ _ rfl rfl
    exact ⟨c :: body, hbody.plain (fun hc => hq hc) hb, rfl, by simp [QuoteBody.cons, hwidth]⟩

theorem quoteBody?_eq_none {cs : List Char} : quoteBody? cs = none ↔ Endless cs := by
  constructor
  · rintro h body value rest hbody rfl
    rw [hbody.quoteBody?_eq] at h
    cases h
  · intro h
    cases hread : quoteBody? cs with
    | none => rfl
    | some found =>
      obtain ⟨body, hbody, hcs, -⟩ := escaped_of_quoteBody? hread
      exact absurd hcs (h _ _ _ hbody)

namespace Token

variable {word cs : List Char} {token : Token}

theorem two_le_length_pieces (h : '/' ∈ word) : 2 ≤ (Text.pieces '/' word).length := by
  match hp : Text.pieces '/' word with
  | [] => exact absurd hp (Text.pieces_ne_nil '/' word)
  | [part] =>
    have hjoin := Text.join_pieces '/' word
    rw [hp] at hjoin
    obtain rfl : part = word := by simpa [Text.join] using hjoin
    exact absurd rfl (Text.mem_of_mem_pieces (hp ▸ List.mem_singleton_self _) h).2
  | _ :: _ :: _ => simp

theorem spells_of_ofWord? (hne : word ≠ []) (hw : ∀ c ∈ word, isWordChar c = true)
    (h : ofWord? word = some token) : token.Spells word ∧ token.isWord = true := by
  have hproper := proper_of_ofWord? hne hw h
  unfold ofWord? at h
  split at h
  · cases h
    exact ⟨by simpa using Spells.literal hproper, rfl⟩
  · rename_i hslash
    split at h
    · cases h
    · cases h
      have hmem : '/' ∈ word := by simpa using hslash
      have hl : 2 ≤ ((Text.pieces '/' word).map String.ofList).length := by
        simpa using two_le_length_pieces hmem
      have hs := Spells.alternation hl hproper.2
      rw [List.map_map] at hs
      have hparts : (Text.pieces '/' word).map (String.toList ∘ String.ofList) =
          Text.pieces '/' word := by simp [Function.comp_def]
      rw [hparts, Text.join_pieces] at hs
      exact ⟨hs, rfl⟩

theorem ofWord?_eq_none (hne : word ≠ []) : ofWord? word = none ↔ HasEmptyPart word := by
  constructor
  · intro h
    unfold ofWord? at h
    split at h
    · cases h
    · split at h
      · rename_i hempty
        refine ⟨Text.pieces '/' word, (Text.join_pieces '/' word).symm, fun part hp hs => ?_,
          by simpa using hempty⟩
        exact (Text.mem_of_mem_pieces hp hs).2 rfl
      · cases h
  · rintro ⟨parts, rfl, hparts, hempty⟩
    have hl : 2 ≤ parts.length := by
      match parts, hempty with
      | [part], hempty =>
        obtain rfl := List.mem_singleton.1 hempty
        exact absurd rfl hne
      | _ :: _ :: _, _ => simp
    have hslash := slash_mem_join parts hl
    have hpieces := Text.pieces_join (List.ne_nil_of_mem hempty) hparts
    simp [ofWord?, hslash, hpieces, hempty]

theorem isWordChar_quote : isWordChar '"' = false := by decide

theorem isWordChar_blank {c : Char} (h : Text.isBlank c = true) : isWordChar c = false := by
  simp [isWordChar, h]

theorem isWordChar_mark {c : Char} (h : ofMark? c = some token) : isWordChar c = false := by
  simp [isWordChar, h]

theorem Spells.ne_nil (h : token.Spells cs) : cs ≠ [] := by
  cases h with
  | mark | quoted => simp
  | literal h => simpa using h.nonempty
  | alternation hl _ => exact List.ne_nil_of_mem (slash_mem_join _ (by simpa using hl))

theorem Spells.isWordChar_mem (h : token.Spells cs) (hw : token.isWord = true) :
    ∀ c ∈ cs, isWordChar c = true := by
  cases h with
  | mark hmark => simp [isWord_mark hmark] at hw
  | literal h => exact fun c hc => (h.chars c hc).1
  | alternation _ h =>
    intro c hc
    rcases Text.mem_join hc with rfl | ⟨part, hpart, hc⟩
    · decide
    · obtain ⟨word, hword, rfl⟩ := List.mem_map.1 hpart
      exact ((h word hword).chars c hc).1
  | quoted => cases hw

theorem Spells.endsWord (h : token.Spells cs) (hw : token.isWord = false) :
    EndsWord cs ∧ ∀ c ∈ cs.getLast?, isWordChar c = false := by
  cases h with
  | mark hmark => simp [EndsWord, isWordChar_mark hmark]
  | literal | alternation => cases hw
  | quoted =>
    refine ⟨endsWord_cons _ isWordChar_quote, ?_⟩
    rw [← List.cons_append, List.getLast?_concat]
    simp [isWordChar_quote]

theorem EndsWord.append {rest : List Char} (h : EndsWord cs) (hne : cs ≠ []) :
    EndsWord (cs ++ rest) := by
  obtain ⟨c, more, rfl⟩ := List.exists_cons_of_ne_nil hne
  exact h

theorem EndsWord.left {rest : List Char} (h : EndsWord (cs ++ rest)) : EndsWord cs := by
  cases cs with
  | nil => simp [EndsWord]
  | cons c more => exact h

theorem endsWord_of_blanks (h : ∀ c ∈ cs, Text.isBlank c = true) : EndsWord cs := by
  intro c hc
  exact isWordChar_blank (h c (List.mem_of_mem_head? hc))

theorem not_endsWord {rest : List Char} (hne : word ≠ [])
    (hw : ∀ c ∈ word, isWordChar c = true) : ¬ EndsWord (word ++ rest) := by
  obtain ⟨c, more, rfl⟩ := List.exists_cons_of_ne_nil hne
  intro h
  have hc : isWordChar c = false := h c rfl
  simp [hw c (List.mem_cons_self ..)] at hc

theorem word_at {c : Char} {rest : List Char} (hb : ¬ Text.isBlank c = true)
    (hmark : ofMark? c = none) (hq : ¬ c = '"') :
    (∀ d ∈ c :: rest.takeWhile isWordChar, isWordChar d = true) ∧
      EndsWord (rest.dropWhile isWordChar) ∧
      c :: rest = (c :: rest.takeWhile isWordChar) ++ rest.dropWhile isWordChar := by
  refine ⟨List.forall_mem_cons.2 ⟨by simp [isWordChar, hb, hmark, hq], ?_⟩, ?_, ?_⟩
  · exact fun d hd => List.all_eq_true.1 List.all_takeWhile d hd
  · intro d hd
    have hstop := List.head?_dropWhile_not isWordChar rest
    rw [Option.mem_def.1 hd] at hstop
    simpa using hstop
  · rw [List.cons_append, List.takeWhile_append_dropWhile]

end Token

theorem Separate.right {before more after : List Char} (h : Separate (before ++ more) after) :
    Separate more after := by
  intro c hc
  apply h c
  rw [List.getLast?_append, Option.mem_def.1 hc]
  rfl

theorem separate_nil (after : List Char) : Separate [] after := nofun

theorem Layout.scan_append {pos : Nat} {before after : List Char} {ts : List Positioned}
    (h : Layout pos before ts) (hs : Separate before after) :
    Token.scan pos (before ++ after) =
      (Token.scan (pos + before.length) after).map (ts ++ ·) := by
  induction h with
  | nil pos =>
    rw [List.nil_append]
    cases Token.scan pos after <;> rfl
  | @blank pos c rest ts hc _ ih =>
    have hrest : Separate ([c] ++ rest) after := hs
    rw [List.cons_append, Token.scan, if_pos hc, ih hrest.right, List.length_cons, Nat.add_assoc,
      Nat.add_comm 1]
  | @token pos token cs rest ts hspell hr _ ih =>
    have hends : token.isWord = true → Token.EndsWord (rest ++ after) := by
      intro hw
      -- With nothing behind it, what ends the word is the start of the other text.
      by_cases hrest : rest = []
      · subst hrest
        obtain ⟨c, hc⟩ := Option.ne_none_iff_exists'.1
          (mt List.getLast?_eq_none_iff.1 hspell.ne_nil)
        rw [List.append_nil] at hs
        exact hs c hc (hspell.isWordChar_mem hw c (List.mem_of_getLast? hc))
      · exact (hr hw).append hrest
    rw [List.append_assoc, Token.scan_spells pos hspell hends, ih hs.right, List.length_append,
      Nat.add_assoc]
    cases Token.scan _ after <;> rfl

theorem Broken.scan_eq {pos : Nat} {cs : List Char} {e : GrammarFault} (h : Broken pos cs e) :
    Token.scan pos cs = .error e := by
  cases h with
  | quote h =>
    have hmark : Token.ofMark? '"' = none := by decide
    rw [Token.scan, if_neg (by decide), hmark]
    simp only [if_true]
    split
    · rfl
    · rename_i found hfound
      cases hfound.symm.trans (quoteBody?_eq_none.2 h)
  | word hne hw hr h =>
    have hnone := (Token.ofWord?_eq_none hne).2 h
    obtain ⟨c, more, rfl⟩ := List.exists_cons_of_ne_nil hne
    rw [List.forall_mem_cons] at hw
    have hc : Text.isBlank c = false ∧ Token.ofMark? c = none ∧ c ≠ '"' := by
      simpa [Token.isWordChar, and_assoc] using hw.1
    obtain ⟨htake, -⟩ := Token.takeWhile_word hw.2 hr
    rw [List.cons_append, Token.scan, if_neg (by simp [hc.1]), hc.2.1]
    simp only [if_neg hc.2.2, htake, hnone]

theorem Layout.blanks {pos : Nat} {blanks rest : List Char} {ts : List Positioned}
    (hb : ∀ c ∈ blanks, Text.isBlank c = true) (h : Layout (pos + blanks.length) rest ts) :
    Layout pos (blanks ++ rest) ts := by
  induction blanks generalizing pos with
  | nil => exact h
  | cons c blanks ih =>
    rw [List.forall_mem_cons] at hb
    refine .blank hb.1 (ih hb.2 ?_)
    rwa [List.length_cons, Nat.add_comm _ 1, ← Nat.add_assoc] at h

theorem laidOut_blank {pos : Nat} {c : Char} {rest : List Char} {ts : List Positioned}
    (hc : Text.isBlank c = true) (h : LaidOut (pos + 1) rest ts) : LaidOut pos (c :: rest) ts := by
  obtain ⟨pieces, tail, rfl, hp, hchain, htail, rfl⟩ := h
  cases pieces with
  | nil => exact ⟨[], c :: tail, rfl, hp, hchain, List.forall_mem_cons.2 ⟨hc, htail⟩, rfl⟩
  | cons p more =>
    rw [List.forall_mem_cons] at hp
    have hsound : (⟨c :: p.blanks, p.token, p.text⟩ : Piece).Sound :=
      ⟨List.forall_mem_cons.2 ⟨hc, hp.1.blanks⟩, hp.1.spells⟩
    refine ⟨⟨c :: p.blanks, p.token, p.text⟩ :: more, tail, by simp [Piece.written],
      List.forall_mem_cons.2 ⟨hsound, hp.2⟩, ?_, htail, ?_⟩
    · cases hchain with
      | singleton => exact .singleton _
      | cons_cons hparts hrest => exact .cons_cons hparts hrest
    · have hlength : pos + 1 + p.written.length = pos + (c :: p.blanks ++ p.text).length := by
        simp only [Piece.written, List.length_append, List.length_cons]
        omega
      have hplace : pos + 1 + p.blanks.length = pos + (c :: p.blanks).length := by
        simp only [List.length_cons]
        omega
      rw [Piece.positioned, Piece.positioned, hlength, hplace]
      rfl

theorem laidOut_token {pos : Nat} {token : Token} {cs rest : List Char} {ts : List Positioned}
    (hs : token.Spells cs) (hr : token.isWord = true → Token.EndsWord rest)
    (h : LaidOut (pos + cs.length) rest ts) : LaidOut pos (cs ++ rest) (⟨pos, token⟩ :: ts) := by
  obtain ⟨pieces, tail, rfl, hp, hchain, htail, rfl⟩ := h
  refine ⟨⟨[], token, cs⟩ :: pieces, tail, by simp [Piece.written],
    List.forall_mem_cons.2 ⟨⟨nofun, hs⟩, hp⟩, ?_, htail, by simp [Piece.positioned, Piece.written]⟩
  cases pieces with
  | nil => exact .singleton _
  | cons q more =>
    refine .cons_cons (fun hw hq hnil => ?_) hchain
    have hq' := (hp q (List.mem_cons_self ..)).spells
    have hends := hr hw
    rw [List.flatMap_cons, Piece.written, hnil, List.nil_append, List.append_assoc] at hends
    exact Token.not_endsWord hq'.ne_nil (hq'.isWordChar_mem hq) hends

theorem endsWord_pieces {p : Piece} {pieces : List Piece} {tail : List Char}
    (hw : p.token.isWord = true) (hp : ∀ q ∈ pieces, q.Sound)
    (hchain : (p :: pieces).IsChain Piece.Parts) (htail : ∀ c ∈ tail, Text.isBlank c = true) :
    Token.EndsWord (pieces.flatMap Piece.written ++ tail) := by
  cases pieces with
  | nil => exact Token.endsWord_of_blanks htail
  | cons q more =>
    cases hchain with
    | cons_cons hparts _ =>
      have hq := hp q (List.mem_cons_self ..)
      rw [List.flatMap_cons, Piece.written, List.append_assoc, List.append_assoc]
      by_cases hb : q.blanks = []
      · have hword : q.token.isWord = false := by
          rw [← Bool.not_eq_true]
          exact fun hq => hparts hw hq hb
        rw [hb, List.nil_append]
        exact (hq.spells.endsWord hword).1.append hq.spells.ne_nil
      · exact (Token.endsWord_of_blanks hq.blanks).append hb

theorem layout_iff_laidOut {pos : Nat} {cs : List Char} {ts : List Positioned} :
    Layout pos cs ts ↔ LaidOut pos cs ts := by
  constructor
  · intro h
    induction h with
    | nil => exact ⟨[], [], rfl, nofun, .nil, nofun, rfl⟩
    | blank hc _ ih => exact laidOut_blank hc ih
    | token hs hr _ ih => exact laidOut_token hs hr ih
  · rintro ⟨pieces, tail, rfl, hp, hchain, htail, rfl⟩
    induction pieces generalizing pos with
    | nil =>
      have hend : Layout pos (tail ++ []) [] := Layout.blanks htail (.nil _)
      rwa [List.append_nil] at hend
    | cons p more ih =>
      rw [List.forall_mem_cons] at hp
      have hlength : pos + p.blanks.length + p.text.length = pos + p.written.length := by
        rw [Piece.written, List.length_append, Nat.add_assoc]
      rw [List.flatMap_cons, List.append_assoc, Piece.written, List.append_assoc]
      refine Layout.blanks hp.1.blanks (.token hp.1.spells ?_ ?_)
      · exact fun hw => endsWord_pieces hw hp.2 hchain htail
      · rw [hlength]
        exact ih hp.2 hchain.tail

theorem FirstFault.scan_eq {pos : Nat} {cs : List Char} {e : GrammarFault}
    (h : FirstFault pos cs e) : Token.scan pos cs = .error e := by
  obtain ⟨before, after, ts, rfl, hb, hs, hbroken⟩ := h
  rw [(layout_iff_laidOut.2 hb).scan_append hs, hbroken.scan_eq]
  rfl

def Settled (pos : Nat) (cs : List Char) : Prop :=
  (∃ ts, Layout pos cs ts) ∨ ∃ e, FirstFault pos cs e

theorem Broken.settled {pos : Nat} {cs : List Char} {e : GrammarFault} (h : Broken pos cs e) :
    Settled pos cs :=
  .inr ⟨e, [], cs, [], rfl, layout_iff_laidOut.1 (.nil pos), separate_nil cs, h⟩

theorem Settled.blank {pos : Nat} {c : Char} {rest : List Char} (hc : Text.isBlank c = true)
    (h : Settled (pos + 1) rest) : Settled pos (c :: rest) := by
  rcases h with ⟨ts, h⟩ | ⟨e, before, after, ts, rfl, hb, hs, h⟩
  · exact .inl ⟨ts, .blank hc h⟩
  · refine .inr ⟨e, c :: before, after, ts, rfl, laidOut_blank hc hb, ?_, ?_⟩
    · intro d hd hword
      cases before with
      | nil =>
        obtain rfl : c = d := by simpa using hd
        simp [Token.isWordChar_blank hc] at hword
      | cons first more => exact hs d (by simpa [List.getLast?_cons_cons] using hd) hword
    · rwa [List.length_cons, Nat.add_comm _ 1, ← Nat.add_assoc]

theorem Settled.token {pos : Nat} {token : Token} {cs rest : List Char} (hspell : token.Spells cs)
    (hr : token.isWord = true → Token.EndsWord rest) (h : Settled (pos + cs.length) rest) :
    Settled pos (cs ++ rest) := by
  rcases h with ⟨ts, h⟩ | ⟨e, before, after, ts, rfl, hb, hs, h⟩
  · exact .inl ⟨_, .token hspell hr h⟩
  · refine .inr ⟨e, cs ++ before, after, _, (List.append_assoc ..).symm,
      laidOut_token hspell (fun hw => (hr hw).left) hb, ?_, ?_⟩
    · intro d hd hword
      cases before with
      | nil =>
        rw [List.append_nil] at hd
        cases hw : token.isWord with
        | true => exact hr hw
        | false => simp [(hspell.endsWord hw).2 d hd] at hword
      | cons first more =>
        rw [List.getLast?_append_of_ne_nil _ (List.cons_ne_nil _ _)] at hd
        exact hs d hd hword
    · rwa [List.length_append, ← Nat.add_assoc]

theorem settled (pos : Nat) (cs : List Char) : Settled pos cs := by
  -- By the recursion of the scan.
  fun_induction Token.scan pos cs with
  | case1 pos => exact .inl ⟨[], .nil pos⟩
  | case2 pos c rest hb ih => exact ih.blank hb
  | case3 pos c rest hb token hmark ih =>
    change Settled pos ([c] ++ rest)
    refine Settled.token (.mark hmark) (fun hw => ?_) ih
    simp [Token.isWord_mark hmark] at hw
  | case4 pos rest hbody hb hmark => exact (Broken.quote (quoteBody?_eq_none.1 hbody)).settled
  | case5 pos rest found hfound hb hmark ih =>
    obtain ⟨body, hbody, rfl, hwidth⟩ := escaped_of_quoteBody? hfound
    have hlength : pos + ('"' :: (body ++ ['"'])).length = pos + 1 + found.width := by
      simp only [hwidth, List.length_cons, List.length_append, List.length_nil]
      omega
    rw [← hlength] at ih
    simpa using ih.token (.quoted hbody) (fun hw => absurd hw Bool.false_ne_true)
  | case6 pos c rest hb hmark hq hnone =>
    obtain ⟨hw, hends, hsplit⟩ := Token.word_at hb hmark hq
    rw [hsplit]
    have hpart := (Token.ofWord?_eq_none (List.cons_ne_nil _ _)).1 hnone
    exact (Broken.word (List.cons_ne_nil _ _) hw hends hpart).settled
  | case7 pos c rest hb hmark hq token hword ih =>
    obtain ⟨hw, hends, hsplit⟩ := Token.word_at hb hmark hq
    rw [hsplit]
    have hspell := (Token.spells_of_ofWord? (List.cons_ne_nil _ _) hw hword).1
    refine Settled.token hspell (fun _ => hends) ?_
    rwa [List.length_cons, Nat.add_comm _ 1, ← Nat.add_assoc]

/-- The texts that are cut into tokens are exactly those that are spelled tokens with white space
between them, and nothing of them is lost. For any other text the fault is that of the first place
at which no token can be spelled. -/
theorem tokenize_iff_laidOut (grammar : String) :
    (∀ ts, tokenize grammar = .ok ts ↔ LaidOut 0 grammar.toList ts) ∧
      ∀ e, tokenize grammar = .error e ↔ FirstFault 0 grammar.toList e := by
  have hok {ts} (h : LaidOut 0 grammar.toList ts) : tokenize grammar = .ok ts :=
    (layout_iff_laidOut.2 h).scan_eq
  have herror {e} (h : FirstFault 0 grammar.toList e) : tokenize grammar = .error e := h.scan_eq
  refine ⟨fun ts => ⟨fun h => ?_, hok⟩, fun e => ⟨fun h => ?_, herror⟩⟩
  · rcases settled 0 grammar.toList with ⟨found, hfound⟩ | ⟨e, he⟩
    · have hlaid := layout_iff_laidOut.1 hfound
      cases h.symm.trans (hok hlaid)
      exact hlaid
    · cases h.symm.trans (herror he)
  · rcases settled 0 grammar.toList with ⟨found, hfound⟩ | ⟨other, hother⟩
    · cases h.symm.trans (hok (layout_iff_laidOut.1 hfound))
    · cases h.symm.trans (herror hother)
      exact hother

example : tokenize "say /w \"hi" = .error (.emptyAlternative 4) := by
  decide +kernel

end CommandGrammar
