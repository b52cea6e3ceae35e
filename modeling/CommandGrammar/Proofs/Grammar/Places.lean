import CommandGrammar.Proofs.Grammar.Cutting
import CommandGrammar.Proofs.Grammar.Written

/-!
# Where tokens stand in a text

The places of the tokens of a text increase, so that each place has one token at most. A text can be
cut in front of any of its tokens, and the text before that has the tokens before it. Behind a text
any tokens that have a spelling can be written.
-/

set_option autoImplicit false

namespace CommandGrammar

variable {pos : Nat} {cs : List Char} {ts : List Positioned}

theorem layout_of_scan (h : Token.scan pos cs = .ok ts) : Layout pos cs ts := by
  rcases settled pos cs with ⟨found, hfound⟩ | ⟨e, he⟩
  · cases h.symm.trans hfound.scan_eq
    exact hfound
  · cases h.symm.trans he.scan_eq

theorem Layout.within (h : Layout pos cs ts) :
    ∀ t ∈ ts, pos ≤ t.pos ∧ t.pos < pos + cs.length := by
  induction h with
  | nil => simp
  | blank _ _ ih =>
    intro t ht
    have hplace := ih t ht
    rw [List.length_cons]
    omega
  | @token pos token cs rest ts hs _ _ ih =>
    have hlength : 0 < cs.length := List.length_pos_iff.2 hs.ne_nil
    rw [List.length_append]
    intro t ht
    rcases List.mem_cons.1 ht with rfl | ht
    · dsimp only
      omega
    · have hplace := ih t ht
      omega

theorem Layout.split {before after : List Positioned} {t : Positioned}
    (h : Layout pos cs (before ++ t :: after)) :
    ∃ head spelling rest, cs = head ++ (spelling ++ rest) ∧ t.pos = pos + head.length ∧
      t.token.Spells spelling ∧ Layout pos head before ∧
        Layout (t.pos + spelling.length) rest after := by
  generalize hts : before ++ t :: after = ts at h
  induction h generalizing before with
  | nil => simp at hts
  | @blank pos c rest ts hc _ ih =>
    obtain ⟨head, spelling, rest, rfl, hpos, hs, hb, ha⟩ := ih hts
    refine ⟨c :: head, spelling, rest, rfl, ?_, hs, .blank hc hb, ha⟩
    rw [hpos, List.length_cons]
    omega
  | @token pos token cs rest ts hs hr h ih =>
    cases before with
    | nil =>
      cases hts
      exact ⟨[], cs, rest, rfl, rfl, hs, .nil pos, h⟩
    | cons first before =>
      cases hts
      obtain ⟨head, spelling, rest, rfl, hpos, hs', hb, ha⟩ := ih rfl
      refine ⟨cs ++ head, spelling, rest, (List.append_assoc ..).symm, ?_, hs',
        .token hs (fun hw => (hr hw).left) hb, ha⟩
      rw [hpos, List.length_append]
      omega

theorem Layout.places {before after : List Positioned} {t : Positioned}
    (h : Layout pos cs (before ++ t :: after)) :
    (∀ other ∈ before, other.pos < t.pos) ∧ ∀ other ∈ after, t.pos < other.pos := by
  obtain ⟨head, spelling, rest, -, hpos, hs, hb, ha⟩ := h.split
  have hlength : 0 < spelling.length := List.length_pos_iff.2 hs.ne_nil
  constructor
  · intro other hother
    have hplace := hb.within other hother
    omega
  · intro other hother
    have hplace := ha.within other hother
    omega

theorem Token.exists_spells_literal {word : String} (h : IsWord word) :
    ∃ cs, (Token.literal word).Spells cs :=
  ⟨word.toList, .literal h⟩

theorem Token.exists_spells_quoted (value : String) : ∃ cs, (Token.quoted value).Spells cs := by
  have hs := Token.Spells.quoted (escaped_guardChar value.toList)
  rw [String.ofList_toList] at hs
  exact ⟨_, hs⟩

theorem Token.exists_spells_closing (b : Bracket) : ∃ cs, (Token.closing b).Spells cs := by
  cases b with
  | angle => exact ⟨['>'], .mark rfl⟩
  | square => exact ⟨[']'], .mark rfl⟩

theorem Carries.spread {tokens : List Token} (h : ∀ token ∈ tokens, ∃ cs, token.Spells cs) :
    ∃ cs, Carries cs tokens ∧ Token.EndsWord cs := by
  induction tokens with
  | nil => exact ⟨[], .nil, by simp [Token.EndsWord]⟩
  | cons token more ih =>
    rw [List.forall_mem_cons] at h
    obtain ⟨spelling, hs⟩ := h.1
    obtain ⟨cs, hcarry, hends⟩ := ih h.2
    exact ⟨' ' :: (spelling ++ cs), (hcarry.token hs fun _ => hends).space,
      Token.endsWord_cons _ (Token.isWordChar_blank Text.isBlank_space)⟩

theorem Layout.write_behind {tokens : List Token} (h : Layout pos cs ts)
    (hs : ∀ token ∈ tokens, ∃ cs, token.Spells cs) :
    ∃ tail more, Token.scan pos (cs ++ tail) = .ok (ts ++ more) ∧
      more.map (·.token) = tokens := by
  obtain ⟨tail, hcarry, hends⟩ := Carries.spread hs
  obtain ⟨more, hmore, htokens⟩ := hcarry (pos + cs.length)
  refine ⟨tail, more, ?_, htokens⟩
  rw [h.scan_append (fun _ _ _ => hends), hmore.scan_eq]
  rfl

end CommandGrammar
