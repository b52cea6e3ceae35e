import CommandGrammar.Grammar.Reader

/-!
# What one token does

The reader takes a token or refuses it. Each way to do the one or the other is said once here, with
what it needs of the token and of the place that the reader has reached.
-/

set_option autoImplicit false

namespace CommandGrammar.Reader

@[simp] theorem expect_expect (r : Reader) (e e' : Expecting) :
    (r.expect e).expect e' = r.expect e' :=
  rfl

def Wants (r : Reader) (o : Opening) (name : String) (values : List String) : Prop :=
  r.expecting = .type o name ∧ values = [] ∨ ∃ pipe, r.expecting = .value o name values pipe

def Typed (r : Reader) (o : Opening) (name : String) (type : ParamType) : Prop :=
  r.expecting = .closing o name type ∨
    ∃ values, r.expecting = .pipeOrClosing o name values ∧ type = .choice values

/-- Where a token leads that the reader takes. -/
inductive Takes (r : Reader) (t : Positioned) : Reader → Prop
  | literal {word : String} (hx : r.expecting = .item) (ht : t.token = .literal word) :
      Takes r t (r.push (.literal [word]))
  | alternation {words : List String} (hx : r.expecting = .item)
      (ht : t.token = .alternation words) : Takes r t (r.push (.literal words))
  | opening {b : Bracket} (hx : r.expecting = .item) (ht : t.token = .opening b) :
      Takes r t (r.expect (.name ⟨b, t.pos⟩))
  | name {o : Opening} {word : String} (hx : r.expecting = .name o)
      (ht : t.token = .literal word) : Takes r t (r.expect (.colon o word))
  | colon {o : Opening} {name : String} (hx : r.expecting = .colon o name)
      (ht : t.token = .colon) : Takes r t (r.expect (.type o name))
  | type {o : Opening} {name word : String} (hx : r.expecting = .type o name)
      (ht : t.token = .literal word) : Takes r t (r.expect (.closing o name (.typename word)))
  | value {o : Opening} {name value : String} {values : List String} (hw : r.Wants o name values)
      (ht : t.token = .quoted value) (hv : value ≠ "") :
      Takes r t (r.expect (.pipeOrClosing o name (values ++ [value])))
  | pipe {o : Opening} {name : String} {values : List String}
      (hx : r.expecting = .pipeOrClosing o name values) (ht : t.token = .pipe) :
      Takes r t (r.expect (.value o name values t.pos))
  | closing {o : Opening} {name : String} {type : ParamType} (hc : r.Typed o name type)
      (ht : t.token = .closing o.bracket) (hn : name ∉ Definition.paramNames r.nodes) :
      Takes r t (r.push (.param ⟨name, o.bracket.isOptional, type⟩))

/-- What is wrong with a token that the reader refuses. -/
inductive Refuses (r : Reader) (t : Positioned) : GrammarFault → Prop
  | unexpected : Refuses r t t.unexpected
  | name {o : Opening} (hx : r.expecting = .name o)
      (ht : t.token = .colon ∨ t.token = .closing o.bracket) :
      Refuses r t (.missingParamName t.pos)
  | type {o : Opening} {name : String}
      (hx : r.expecting = .colon o name ∨ r.expecting = .type o name)
      (ht : t.token = .closing o.bracket) : Refuses r t (.missingParamType name)
  | value {o : Opening} {name : String} {values : List String} (hw : r.Wants o name values)
      (ht : t.token = .quoted "") : Refuses r t (.emptyAlternative t.pos)
  | pipe {o : Opening} {name : String} {values : List String} {pipe : Nat}
      (hx : r.expecting = .value o name values pipe) (ht : t.token = .closing o.bracket) :
      Refuses r t (.emptyAlternative pipe)
  | closing {o : Opening} {name : String} {type : ParamType} (hc : r.Typed o name type)
      (ht : t.token = .closing o.bracket) (hn : name ∈ Definition.paramNames r.nodes) :
      Refuses r t (.duplicateParam name)

def Does (r : Reader) (t : Positioned) : Except GrammarFault Reader → Prop
  | .ok next => r.Takes t next
  | .error e => r.Refuses t e

variable {r r' : Reader} {t : Positioned}

theorem choose_does {o : Opening} {name value : String} {values : List String}
    (hw : r.Wants o name values) (ht : t.token = .quoted value) :
    r.Does t (r.choose o name values t.pos value) := by
  rw [Reader.choose]
  split
  · subst value
    exact Refuses.value hw ht
  · exact Takes.value hw ht ‹_›

theorem close_does {o : Opening} {name : String} {type : ParamType} (hc : r.Typed o name type)
    (ht : t.token = .closing o.bracket) : r.Does t (r.close o name type) := by
  rw [Reader.close]
  split
  · exact Refuses.closing hc ht ‹_›
  · exact Takes.closing hc ht ‹_›

theorem step_does (r : Reader) (t : Positioned) : r.Does t (r.step t) := by
  cases hx : r.expecting with
  | item =>
    simp only [Reader.step, hx]
    split
    · exact Takes.literal hx ‹_›
    · exact Takes.alternation hx ‹_›
    · exact Takes.opening hx ‹_›
    · exact Refuses.unexpected
  | name o =>
    simp only [Reader.step, hx]
    split
    · exact Takes.name hx ‹_›
    · split
      · exact Refuses.name hx ‹_›
      · exact Refuses.unexpected
  | colon o name =>
    simp only [Reader.step, hx]
    split
    · exact Takes.colon hx ‹_›
    · split
      · exact Refuses.type (.inl hx) ‹_›
      · exact Refuses.unexpected
  | type o name =>
    simp only [Reader.step, hx]
    split
    · exact Takes.type hx ‹_›
    · exact choose_does (.inl ⟨hx, rfl⟩) ‹_›
    · split
      · exact Refuses.type (.inr hx) ‹_›
      · exact Refuses.unexpected
  | closing o name type =>
    simp only [Reader.step, hx]
    split
    · exact close_does (.inl hx) ‹_›
    · exact Refuses.unexpected
  | pipeOrClosing o name values =>
    simp only [Reader.step, hx]
    split
    · exact Takes.pipe hx ‹_›
    · split
      · exact close_does (.inr ⟨values, hx, rfl⟩) ‹_›
      · exact Refuses.unexpected
  | value o name values pipe =>
    simp only [Reader.step, hx]
    split
    · exact choose_does (.inr ⟨pipe, hx⟩) ‹_›
    · split
      · exact Refuses.pipe hx ‹_›
      · exact Refuses.unexpected

theorem refuses_of_step {e : GrammarFault} (h : r.step t = .error e) : r.Refuses t e := by
  have hdoes := r.step_does t
  rwa [h] at hdoes

theorem step_closing {o : Opening} {name : String} {type : ParamType} (hc : r.Typed o name type)
    (ht : t.token = .closing o.bracket) : r.step t = r.close o name type := by
  rcases hc with hx | ⟨values, hx, rfl⟩ <;> simp [Reader.step, hx, ht]

theorem Takes.step_eq (h : r.Takes t r') : r.step t = .ok r' := by
  cases h with
  | literal hx ht | alternation hx ht | opening hx ht | name hx ht | colon hx ht | type hx ht
  | pipe hx ht => simp [Reader.step, hx, ht]
  | value hw ht hv =>
    rcases hw with ⟨hx, rfl⟩ | ⟨pipe, hx⟩ <;> simp [Reader.step, hx, ht, Reader.choose, hv]
  | closing hc ht hn => rw [step_closing hc ht, Reader.close, if_neg hn]

theorem step_ok_iff : r.step t = .ok r' ↔ r.Takes t r' := by
  constructor
  · intro h
    have hdoes := r.step_does t
    rwa [h] at hdoes
  · exact Takes.step_eq

theorem read_cons {next : Reader} (rest : List Positioned) (h : r.Takes t next) :
    (t :: rest).foldlM Reader.step r = rest.foldlM Reader.step next := by
  rw [List.foldlM_cons, h.step_eq]
  rfl

theorem read_append {next : Reader} {ts : List Positioned} (rest : List Positioned)
    (h : ts.foldlM Reader.step r = .ok next) :
    (ts ++ rest).foldlM Reader.step r = rest.foldlM Reader.step next := by
  rw [List.foldlM_append, h]
  rfl

theorem takes_of_read {ts : List Positioned} (h : (t :: ts).foldlM Reader.step r = .ok r') :
    ∃ next, r.Takes t next ∧ ts.foldlM Reader.step next = .ok r' := by
  rw [List.foldlM_cons] at h
  cases hs : r.step t with
  | error e =>
    rw [hs] at h
    cases h
  | ok next =>
    rw [hs] at h
    exact ⟨next, step_ok_iff.1 hs, h⟩

/-- What holds before the first token and is kept by each token that is taken holds of all that
is read. -/
theorem read_invariant (P : List Positioned → Reader → Prop) (hstart : P [] start)
    (hstep : ∀ ts r t next, P ts r → r.Takes t next → P (ts ++ [t]) next) {ts : List Positioned}
    (h : ts.foldlM Reader.step start = .ok r) : P ts r := by
  have hrun : ∀ read now, P read now → ts.foldlM Reader.step now = .ok r → P (read ++ ts) r := by
    clear h
    induction ts with
    | nil =>
      intro read now hnow h
      cases h
      rwa [List.append_nil]
    | cons t rest ih =>
      intro read now hnow h
      obtain ⟨next, ht, hrest⟩ := takes_of_read h
      rw [List.append_cons]
      exact ih (read ++ [t]) next (hstep read now t next hnow ht) hrest
  exact hrun [] start hstart h

theorem refused_of_read {ts : List Positioned} {e : GrammarFault}
    (h : ts.foldlM Reader.step r = .error e) :
    ∃ before t after, ∃ last : Reader, ts = before ++ t :: after ∧
      before.foldlM Reader.step r = .ok last ∧ last.step t = .error e := by
  induction ts generalizing r with
  | nil => cases h
  | cons t rest ih =>
    cases hs : r.step t with
    | error fault =>
      rw [List.foldlM_cons, hs] at h
      cases h
      exact ⟨[], t, rest, r, rfl, rfl, hs⟩
    | ok next =>
      have htakes : r.Takes t next := step_ok_iff.1 hs
      rw [read_cons rest htakes] at h
      obtain ⟨before, u, after, last, rfl, hread, hu⟩ := ih h
      exact ⟨t :: before, u, after, last, rfl, (read_cons before htakes).trans hread, hu⟩

end CommandGrammar.Reader
