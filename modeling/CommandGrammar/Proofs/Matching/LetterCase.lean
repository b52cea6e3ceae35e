import CommandGrammar.Proofs.Capture.Builtins
import CommandGrammar.Proofs.Matching.Extension
import CommandGrammar.Proofs.Text.Letters

/-!
# Letter case of a command

The fixed words and values of a command may be written in any case. A walk over the command in
other letter case goes through the same nodes to the same places, as long as the texts that typed
parameters took are still what they were. The captured values are then the same, because a choice
keeps its declared spelling.
-/

set_option autoImplicit false

namespace CommandGrammar

variable {C : Type}

/-- On its way from a cursor the walk lets a typed parameter take `text`, which follows `before` in
the command. -/
inductive TakesTyped (table : Resolvers C) (context : C) (input : String) :
    Nat → Definition → Cursor → List Char → List Char → Prop
  | here {level : Nat} {node : Node} {rest : Definition} {c next : Cursor} {type : String}
      {captured : Option (String × Json)} {before text : List Char} (hr : c.remaining ≠ [])
      (hc : c.Opens level) (ht : node.typeName? = some type)
      (ha : node.attempt table context level (c.entry level) = .ok (.advanced next captured))
      (hb : input.toList = before ++ (c.entry level).remaining)
      (htext : (c.entry level).remaining = text ++ next.remaining) :
      TakesTyped table context input level (node :: rest) c before text
  | later {level : Nat} {node : Node} {rest : Definition} {c : Cursor} {attempt : Attempt}
      {before text : List Char} (hr : c.remaining ≠ []) (hc : c.Opens level)
      (ha : node.attempt table context level (c.entry level) = .ok attempt)
      (h : TakesTyped table context input (level + 1) rest (attempt.resume c) before text) :
      TakesTyped table context input level (node :: rest) c before text

/-- The same command, but for the case of ASCII letters outside of the texts that typed parameters
take. These stand unchanged at their places. -/
structure Definition.Recased (d : Definition) (table : Resolvers C) (context : C)
    (input recased : String) : Prop where
  letters : Text.SameLetters input.toList recased.toList
  typed : ∀ before text, TakesTyped table context input 0 d (Cursor.ofString input) before text →
    text <+: recased.toList.drop before.length

/-- The two cursors stand at the same place of their commands. -/
structure Abreast (input recased : String) (c c' : Cursor) : Prop where
  left : c.remaining <:+ input.toList
  right : c'.remaining <:+ recased.toList
  length : c.remaining.length = c'.remaining.length

namespace Abreast

variable {input recased : String} {c c' : Cursor}

theorem ofString (h : Text.SameLetters input.toList recased.toList) :
    Abreast input recased (Cursor.ofString input) (Cursor.ofString recased) := by
  constructor
  · simp
  · simp
  · simpa using h.length_eq

theorem drop_eq (h : Abreast input recased c c')
    (hs : Text.SameLetters input.toList recased.toList) {before : List Char}
    (hb : input.toList = before ++ c.remaining) :
    recased.toList.drop before.length = c'.remaining := by
  obtain ⟨before', hb'⟩ := h.right
  have hlength : before.length = before'.length := by
    have htotal := hs.length_eq
    have hrest := h.length
    rw [hb, ← hb', List.length_append, List.length_append] at htotal
    omega
  rw [hlength, ← hb', List.drop_left]

theorem sameLetters (h : Abreast input recased c c')
    (hs : Text.SameLetters input.toList recased.toList) :
    Text.SameLetters c.remaining c'.remaining := by
  obtain ⟨before, hb⟩ := h.left
  have hdrop := hs.drop before.length
  rwa [h.drop_eq hs hb.symm, ← hb, List.drop_left] at hdrop

theorem advance (h : Abreast input recased c c') (n : Nat) :
    Abreast input recased (c.advance n) (c'.advance n) := by
  constructor
  · rw [Cursor.remaining_advance]
    exact (List.drop_suffix n _).trans h.left
  · rw [Cursor.remaining_advance]
    exact (List.drop_suffix n _).trans h.right
  · simp [h.length]

theorem take (h : Abreast input recased c c') (n : Nat) :
    Abreast input recased (c.take n).2 (c'.take n).2 := by
  rw [Cursor.take, Cursor.take, h.length]
  exact h.advance _

theorem entry (h : Abreast input recased c c') (level : Nat) :
    Abreast input recased (c.entry level) (c'.entry level) := by
  unfold Cursor.entry
  split
  · exact h
  · exact h.advance 1

theorem remaining_eq_nil (h : Abreast input recased c c') :
    c.remaining = [] ↔ c'.remaining = [] := by
  rw [← List.length_eq_zero_iff, ← List.length_eq_zero_iff, h.length]

theorem opens (h : Abreast input recased c c')
    (hs : Text.SameLetters input.toList recased.toList) {level : Nat} (hc : c.Opens level) :
    c'.Opens level := by
  by_cases hl : level = 0
  · subst hl
    exact opens_zero c'
  · have hspace : c.remaining.head? = some ' ' := by
      rw [hc]
      simp [gap, hl]
    obtain ⟨behind, hbehind⟩ :=
      List.head?_eq_some_iff.1 ((h.sameLetters hs).head?_eq_space hspace)
    have hgap : c'.remaining = gap level ++ behind := by simp [hbehind, gap, hl]
    exact (opens_of_remaining hgap).1

end Abreast

theorem longestAt_sameLetters {c c' : Cursor} (h : Text.SameLetters c.remaining c'.remaining)
    (values : List String) : longestAt c values = longestAt c' values := by
  have hshows (v : String) : c.shows v = c'.shows v := by
    rw [Bool.eq_iff_iff, Cursor.shows_iff, Cursor.shows_iff, (h.take v.length).lower_eq]
  have hprefer : preferLonger c = preferLonger c' := by
    funext best v
    rw [preferLonger, preferLonger, hshows]
  rw [longestAt, longestAt, hprefer]

theorem builtins_stop {type : String} {resolver : Resolver C}
    (h : Resolvers.builtins.get? type = some resolver) :
    ∃ p message, resolver = .takingWhile p message ∧ ∀ ch, p (Char.toLower ch) = p ch := by
  rw [builtins_get?] at h
  split at h
  · cases h
    exact ⟨_, _, rfl, fun _ => rfl⟩
  · split at h
    · cases h
      exact ⟨_, _, rfl, Text.apply_toLower (· != ' ') (by decide)⟩
    · cases h

inductive Attempt.Abreast (input recased : String) : Attempt → Attempt → Prop
  | advanced {next next' : Cursor} (captured : Option (String × Json))
      (h : CommandGrammar.Abreast input recased next next') :
      Abreast input recased (.advanced next captured) (.advanced next' captured)
  | skipped : Abreast input recased .skipped .skipped

variable {context : C} {input recased : String} {level : Nat} {node : Node}

theorem takingWhile_refuses {p : Char → Bool} (hp : ∀ ch, p (Char.toLower ch) = p ch)
    {message : String} {c c' : Cursor} (hs : Text.SameLetters c.remaining c'.remaining)
    {e : Mismatch} (he : Resolver.takingWhile p message c context = .error e) :
    ∃ e', Resolver.takingWhile p message c' context = .error e' := by
  rw [takingWhile_eq] at he
  split at he
  · rename_i hnone
    have hnone' : c'.remaining.takeWhile p = [] := by
      rw [← List.length_eq_zero_iff, ← (hs.takeWhile hp).length_eq, hnone, List.length_nil]
    exact ⟨_, (takingWhile_eq p message c' context).trans (if_pos hnone')⟩
  · cases he

theorem takingWhile_abreast {p : Char → Bool} (hp : ∀ ch, p (Char.toLower ch) = p ch)
    (message : String) {c c' : Cursor} (h : Abreast input recased c c')
    (hs : Text.SameLetters c.remaining c'.remaining) {reading : Reading}
    (hread : Resolver.takingWhile p message c context = .ok reading)
    (hkept : ∀ text, c.remaining = text ++ reading.cursor.remaining → text <+: c'.remaining) :
    ∃ next', Resolver.takingWhile p message c' context = .ok ⟨next', reading.value⟩ ∧
      Abreast input recased reading.cursor next' := by
  rw [takingWhile_eq] at hread
  split at hread
  · cases hread
  · rename_i hne
    cases hread
    have hlength := (hs.takeWhile hp).length_eq
    have htext : c.remaining.takeWhile p <+: c'.remaining := by
      apply hkept
      rw [Cursor.remaining_takeWhile, List.takeWhile_append_dropWhile]
    have hsame : c'.remaining.takeWhile p = c.remaining.takeWhile p := by
      have hprefix := List.prefix_of_prefix_length_le (List.takeWhile_prefix p) htext
        (Nat.le_of_eq hlength.symm)
      exact hprefix.eq_of_length hlength.symm
    refine ⟨(c'.takeWhile p).2, ?_, ?_⟩
    · rw [takingWhile_eq, hsame, if_neg hne]
    · rw [Cursor.takeWhile, Cursor.takeWhile, hsame]
      exact h.take _

theorem attempt_abreast {c c' : Cursor} (h : Abreast input recased c c')
    (hs : Text.SameLetters c.remaining c'.remaining) {attempt : Attempt}
    (ha : node.attempt Resolvers.builtins context level c = .ok attempt)
    (hkept : ∀ type next captured text, node.typeName? = some type →
      attempt = .advanced next captured → c.remaining = text ++ next.remaining →
        text <+: c'.remaining) :
    ∃ attempt', node.attempt Resolvers.builtins context level c' = .ok attempt' ∧
      attempt.Abreast input recased attempt' := by
  match node with
  | .literal values =>
    simp only [Node.attempt, ← longestAt_sameLetters hs] at ha ⊢
    cases hv : longestAt c values with
    | none =>
      rw [hv] at ha
      cases ha
    | some v =>
      rw [hv] at ha
      cases ha
      exact ⟨_, rfl, .advanced none (h.take v.length)⟩
  | .param ⟨name, optional, .choice values⟩ =>
    simp only [Node.attempt, ← longestAt_sameLetters hs] at ha ⊢
    cases hv : longestAt c values with
    | none =>
      rw [hv] at ha
      cases optional with
      | true =>
        cases ha
        exact ⟨_, rfl, .skipped⟩
      | false => cases ha
    | some v =>
      rw [hv] at ha
      cases ha
      exact ⟨_, rfl, .advanced _ (h.take v.length)⟩
  | .param ⟨name, optional, .typename type⟩ =>
    cases hres : (Resolvers.builtins : Resolvers C).get? type with
    | none =>
      simp only [Node.attempt, hres] at ha
      cases ha
    | some resolver =>
      obtain ⟨p, message, rfl, hp⟩ := builtins_stop hres
      have htagged : Abreast input recased (c.tagged level) (c'.tagged level) := ⟨h.1, h.2, h.3⟩
      have htaggedSame :
          Text.SameLetters (c.tagged level).remaining (c'.tagged level).remaining := hs
      simp only [Node.attempt, hres] at ha ⊢
      cases hread : Resolver.takingWhile p message (c.tagged level) context with
      | error e =>
        rw [hread] at ha
        obtain ⟨e', he'⟩ := takingWhile_refuses hp htaggedSame hread
        rw [he']
        cases optional with
        | true =>
          cases ha
          exact ⟨_, rfl, .skipped⟩
        | false => cases ha
      | ok reading =>
        rw [hread] at ha
        cases ha
        obtain ⟨next', hread', hnext⟩ := takingWhile_abreast hp message htagged htaggedSame hread
          fun text htext => hkept type _ _ text rfl rfl htext
        rw [hread']
        exact ⟨_, rfl, .advanced _ hnext⟩

theorem Attempt.Abreast.resume {attempt attempt' : Attempt} {c c' : Cursor}
    (h : attempt.Abreast input recased attempt') (hc : CommandGrammar.Abreast input recased c c') :
    CommandGrammar.Abreast input recased (attempt.resume c) (attempt'.resume c') := by
  cases h with
  | advanced captured h => exact h
  | skipped => exact hc

theorem Attempt.Abreast.capture_eq {attempt attempt' : Attempt}
    (h : attempt.Abreast input recased attempt') (params : Params Json) :
    attempt'.capture params = attempt.capture params := by
  cases h <;> rfl

theorem Passes.abreast {d : Definition} {c c' stop : Cursor} {params captured : Params Json}
    (hs : Text.SameLetters input.toList recased.toList)
    (h : Passes Resolvers.builtins context level d c params stop captured)
    (hc : Abreast input recased c c')
    (hkept : ∀ before text, TakesTyped Resolvers.builtins context input level d c before text →
      text <+: recased.toList.drop before.length) :
    ∃ stop', Passes Resolvers.builtins context level d c' params stop' captured ∧
      Abreast input recased stop stop' := by
  -- By induction on the nodes that were gone through. The cursors stay abreast.
  induction h generalizing c' with
  | done => exact ⟨c', .done, hc⟩
  | @through level node rest c stop params captured attempt hr ho ha _ ih =>
    have hentry := hc.entry level
    obtain ⟨attempt', ha', hattempt⟩ := attempt_abreast hentry (hentry.sameLetters hs) ha (by
      rintro type next taken text htype rfl htext
      obtain ⟨before, hb⟩ := hentry.left
      rw [← hentry.drop_eq hs hb.symm]
      exact hkept before text (.here hr ho htype ha hb.symm htext))
    obtain ⟨stop', hpass, hstop⟩ := ih (hattempt.resume hc) fun before text ht =>
      hkept before text (.later hr ho ha ht)
    rw [← hattempt.capture_eq] at hpass
    exact ⟨stop', .through (mt hc.remaining_eq_nil.2 hr) (hc.opens hs ho) ha' hpass, hstop⟩

theorem TakesTyped.append {table : Resolvers C} {pre : Definition} {c : Cursor}
    {before text : List Char} (h : TakesTyped table context input level pre c before text)
    (post : Definition) : TakesTyped table context input level (pre ++ post) c before text := by
  induction h with
  | here hr hc ht ha hb htext => exact .here hr hc ht ha hb htext
  | later hr hc ha _ ih => exact .later hr hc ha ih

theorem TakesTyped.cons {table : Resolvers C} {rest : Definition} {c : Cursor} {attempt : Attempt}
    {before text : List Char}
    (ha : node.attempt table context level (c.entry level) = .ok attempt)
    (h : TakesTyped table context input level (node :: rest) c before text) :
    (∃ type next captured, node.typeName? = some type ∧ attempt = .advanced next captured ∧
      input.toList = before ++ (c.entry level).remaining ∧
      (c.entry level).remaining = text ++ next.remaining) ∨
    TakesTyped table context input (level + 1) rest (attempt.resume c) before text := by
  cases h with
  | here _ _ ht ha' hb htext =>
    cases ha.symm.trans ha'
    exact .inl ⟨_, _, _, ht, rfl, hb, htext⟩
  | later _ _ ha' h =>
    cases ha.symm.trans ha'
    exact .inr h

theorem walk_recased {d : Definition} {params : Params Json}
    (hrecased : d.Recased Resolvers.builtins context input recased)
    (h : d.walk Resolvers.builtins context 0 (Cursor.ofString input) Params.empty = .ok params) :
    d.walk Resolvers.builtins context 0 (Cursor.ofString recased) Params.empty = .ok params := by
  obtain ⟨k, c, hreach, hend, hoptional⟩ := ended_of_walk_ok h
  have hkept (before text : List Char)
      (ht : TakesTyped Resolvers.builtins context input 0 (d.take k) (Cursor.ofString input)
        before text) : text <+: recased.toList.drop before.length := by
    have hwhole := ht.append (d.drop k)
    rw [List.take_append_drop] at hwhole
    exact hrecased.typed before text hwhole
  obtain ⟨stop, hpass, hstop⟩ :=
    hreach.2.abreast hrecased.letters (.ofString hrecased.letters) hkept
  have hreach' : d.Reaches Resolvers.builtins context recased k stop params := ⟨hreach.1, hpass⟩
  rw [hreach'.walk_eq, walk_ended _ (hstop.remaining_eq_nil.1 hend), hoptional]
  rfl

theorem TakesTyped.typeNames_ne_nil {table : Resolvers C} {d : Definition} {c : Cursor}
    {before text : List Char} (h : TakesTyped table context input level d c before text) :
    d.typeNames ≠ [] := by
  induction h with
  | here _ _ ht => simp [Definition.typeNames, ht]
  | @later _ node _ _ _ _ _ _ _ _ _ ih =>
    cases ht : node.typeName? with
    | none => simpa [Definition.typeNames, ht] using ih
    | some type => simp [Definition.typeNames, ht]

/-- Letter case matters only in the texts that typed parameters take. A command that matches also
does in any other case of its other letters, with the same parameters. If no parameter is typed,
two commands that differ only in the case of ASCII letters match alike. -/
theorem case_of_fixed_parts (m : Matcher) (d : Definition) (context : C) (input recased : String) :
    (∀ params, m.run d Resolvers.builtins context input = .ok params →
      d.Recased Resolvers.builtins context input recased →
        m.run d Resolvers.builtins context recased = .ok params) ∧
    (d.typeNames = [] → Text.SameLetters input.toList recased.toList →
      ∀ params, m.run d Resolvers.builtins context input = .ok params ↔
        m.run d Resolvers.builtins context recased = .ok params) := by
  simp only [Matcher.run_eq_walk]
  constructor
  · intro params h hrecased
    exact walk_recased hrecased h
  · intro hd hs params
    have untyped {input recased : String} (h : Text.SameLetters input.toList recased.toList) :
        d.Recased Resolvers.builtins context input recased :=
      ⟨h, fun before text ht => absurd hd ht.typeNames_ne_nil⟩
    constructor
    · intro h
      exact walk_recased (untyped hs) h
    · intro h
      exact walk_recased (untyped hs.symm) h

theorem case_of_fixed_parts_tell :
    let d : Definition :=
      [.literal ["say", "tell"], .param ⟨"to", false, .typename "word"⟩,
        .param ⟨"tone", true, .choice ["Loud", "Quiet"]⟩]
    let plain : Definition := [.literal ["say"], .param ⟨"tone", true, .choice ["Loud", "Quiet"]⟩]
    Matcher.direct.run d Resolvers.builtins () "Tell Bob quiet" =
        .ok ⟨[("to", .str "Bob"), ("tone", .str "Quiet")]⟩ ∧
      d.Recased Resolvers.builtins () "Tell Bob quiet" "tELL Bob QUIET" ∧
      Matcher.direct.run d Resolvers.builtins () "tELL Bob QUIET" =
        .ok ⟨[("to", .str "Bob"), ("tone", .str "Quiet")]⟩ ∧
      plain.typeNames = [] ∧ Text.SameLetters "say loud".toList "SAY lOUD".toList ∧
      (Matcher.direct.run plain Resolvers.builtins () "say loud" =
          .ok ⟨[("tone", .str "Loud")]⟩ ↔
        Matcher.direct.run plain Resolvers.builtins () "SAY lOUD" =
          .ok ⟨[("tone", .str "Loud")]⟩) := by
  intro d plain
  have hrun : Matcher.direct.run d Resolvers.builtins () "Tell Bob quiet" =
      .ok ⟨[("to", .str "Bob"), ("tone", .str "Quiet")]⟩ := rfl
  have hrecased : d.Recased Resolvers.builtins () "Tell Bob quiet" "tELL Bob QUIET" := by
    apply Definition.Recased.mk (by decide)
    intro before text h
    rcases h.cons rfl with ⟨_, _, _, htype, -⟩ | h
    · cases htype
    rcases h.cons rfl with ⟨_, _, _, -, hnext, hbefore, htext⟩ | h
    · cases hnext
      obtain rfl : "Tell ".toList = before := List.append_cancel_right hbefore
      obtain rfl : "Bob".toList = text := List.append_cancel_right htext
      decide
    rcases h.cons rfl with ⟨_, _, _, htype, -⟩ | h
    · cases htype
    · cases h
  have hsame : Text.SameLetters "say loud".toList "SAY lOUD".toList := by decide
  have htell := case_of_fixed_parts .direct d () "Tell Bob quiet" "tELL Bob QUIET"
  have hsay := case_of_fixed_parts .direct plain () "say loud" "SAY lOUD"
  exact ⟨hrun, hrecased, htell.1 _ hrun hrecased, rfl, hsame, hsay.2 rfl hsame _⟩

end CommandGrammar
