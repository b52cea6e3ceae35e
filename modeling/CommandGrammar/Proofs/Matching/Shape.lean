import CommandGrammar.Proofs.Grammar.WellFormed
import CommandGrammar.Proofs.Matching.Extension
import CommandGrammar.Proofs.Matching.Shares
import Mathlib.Control.Monad.Basic

/-!
# The shape of the parameters

What a match captures follows the definition, node by node. A literal adds nothing, a parameter
adds one value or, if it is optional, may be left out. Resolvers are not restricted: whatever they
return, and wherever they go on, the parameters have this shape.
-/

set_option autoImplicit false

namespace CommandGrammar

/-- The values that a parameter can have. A choice has one of its alternatives as it was declared,
and a resolver may give any value. -/
def ParamType.Admits : ParamType → Json → Prop
  | typename _, _ => True
  | choice values, value => ∃ v ∈ values, value = .str v

/-- The entries are values of parameters of the definition, in their order, and only optional
parameters are without one. -/
inductive Follows : Definition → List (String × Json) → Prop
  | nil : Follows [] []
  | literal {values : List String} {d : Definition} {entries : List (String × Json)}
      (h : Follows d entries) : Follows (.literal values :: d) entries
  | absent {p : Param} {d : Definition} {entries : List (String × Json)}
      (hp : p.optional = true) (h : Follows d entries) : Follows (.param p :: d) entries
  | present {p : Param} {value : Json} {d : Definition} {entries : List (String × Json)}
      (hv : p.type.Admits value) (h : Follows d entries) :
      Follows (.param p :: d) ((p.name, value) :: entries)

namespace Follows

variable {d more : Definition} {entries others : List (String × Json)}

theorem append (h : Follows d entries) (hm : Follows more others) :
    Follows (d ++ more) (entries ++ others) := by
  induction h with
  | nil => exact hm
  | literal _ ih => exact ih.literal
  | absent hp _ ih => exact ih.absent hp
  | present hv _ ih => exact ih.present hv

theorem of_optional (hd : d.any Node.isRequired = false) : Follows d [] := by
  induction d with
  | nil => exact .nil
  | cons node rest ih =>
    simp only [List.any_cons, Bool.or_eq_false_iff] at hd
    match node, hd.1 with
    | .param p, hp => exact .absent (by simpa [Node.isRequired] using hp) (ih hd.2)

theorem names (h : Follows d entries) : (Entries.keys entries).Sublist d.paramNames := by
  induction h with
  | nil => exact .slnil
  | literal _ ih => exact ih
  | absent _ _ ih => exact ih.cons _
  | present _ _ ih => exact ih.cons_cons _

theorem mem_paramNames (h : Follows d entries) {name : String} {value : Json}
    (hm : (name, value) ∈ entries) : name ∈ d.paramNames :=
  h.names.subset (List.mem_map.2 ⟨_, hm, rfl⟩)

theorem optional_or_mem (h : Follows d entries) {p : Param} (hp : .param p ∈ d) :
    p.optional = true ∨ ∃ value, (p.name, value) ∈ entries := by
  induction h with
  | nil => cases hp
  | literal _ ih =>
    rcases List.mem_cons.1 hp with heq | hp
    · cases heq
    · exact ih hp
  | absent ho _ ih =>
    rcases List.mem_cons.1 hp with heq | hp
    · cases heq
      exact .inl ho
    · exact ih hp
  | @present _ value _ _ _ _ ih =>
    rcases List.mem_cons.1 hp with heq | hp
    · cases heq
      exact .inr ⟨value, List.mem_cons_self ..⟩
    · exact (ih hp).imp_right fun ⟨value, hm⟩ => ⟨value, List.mem_cons_of_mem _ hm⟩

end Follows

theorem mem_paramNames_of_param {d : Definition} {p : Param} (h : .param p ∈ d) :
    p.name ∈ d.paramNames :=
  List.mem_filterMap.2 ⟨_, h, rfl⟩

theorem Follows.admits {d : Definition} {entries : List (String × Json)} (h : Follows d entries)
    (hn : d.paramNames.Nodup) {p : Param} (hp : .param p ∈ d) {value : Json}
    (hm : (p.name, value) ∈ entries) : p.type.Admits value := by
  induction h with
  | nil => cases hp
  | literal _ ih =>
    rcases List.mem_cons.1 hp with heq | hp
    · cases heq
    · exact ih hn hp hm
  | @absent q d entries _ hrest ih =>
    obtain ⟨hq, hn⟩ := List.nodup_cons.1 hn
    rcases List.mem_cons.1 hp with heq | hp
    · cases heq
      exact absurd (hrest.mem_paramNames hm) hq
    · exact ih hn hp hm
  | @present q first d entries hv hrest ih =>
    obtain ⟨hq, hn⟩ := List.nodup_cons.1 hn
    -- A parameter and an entry from different places would share a name.
    rcases List.mem_cons.1 hp with heq | hlater <;> rcases List.mem_cons.1 hm with hfirst | hkept
    · cases heq
      cases hfirst
      exact hv
    · cases heq
      exact absurd (hrest.mem_paramNames hkept) hq
    · rw [← (Prod.mk.inj hfirst).1] at hq
      exact absurd (mem_paramNames_of_param hlater) hq
    · exact ih hn hlater hkept

variable {C : Type} {table : Resolvers C} {context : C} {level : Nat} {d : Definition}
  {node : Node} {params captured : Params Json}

theorem attempt_captures {start stop : Cursor} {taken : Option (String × Json)}
    (h : node.attempt table context level start = .ok (.advanced stop taken)) :
    (∃ values, node = .literal values ∧ taken = none) ∨
      ∃ p value, node = .param p ∧ taken = some (p.name, value) ∧ p.type.Admits value := by
  rcases attempt_advanced h with ⟨values, v, rfl, -, -, rfl⟩ |
    ⟨name, optional, values, v, rfl, hv, -, rfl⟩ |
    ⟨name, optional, type, resolver, reading, rfl, -, -, -, rfl⟩
  · exact .inl ⟨values, rfl, rfl⟩
  · exact .inr ⟨_, .str v, rfl, rfl, v, (longestAt_spec hv).1, rfl⟩
  · exact .inr ⟨_, reading.value, rfl, rfl, trivial⟩

theorem attempt_follows {start : Cursor} {attempt : Attempt} {ahead : List String}
    (h : node.attempt table context level start = .ok attempt)
    (hn : (params.names ++ node.paramName?.toList ++ ahead).Nodup) :
    ∃ added, (attempt.capture params).entries = params.entries ++ added ∧
      ((attempt.capture params).names ++ ahead).Nodup ∧
      ∀ d entries, Follows d entries → Follows (node :: d) (added ++ entries) := by
  match attempt with
  | .skipped =>
    obtain ⟨p, rfl, hp⟩ := optional_of_skipped h
    refine ⟨[], (List.append_nil _).symm, ?_, fun d entries hf => hf.absent hp⟩
    exact hn.sublist ((List.sublist_append_left _ _).append_right _)
  | .advanced stop taken =>
    rcases attempt_captures h with ⟨values, rfl, rfl⟩ | ⟨p, value, rfl, rfl, hv⟩
    · obtain ⟨hentries, hnames⟩ := capture_new params none hn
      exact ⟨[], hentries, hnames, fun d entries hf => hf.literal⟩
    · obtain ⟨hentries, hnames⟩ := capture_new params (some (p.name, value)) hn
      exact ⟨[(p.name, value)], hentries, hnames, fun d entries hf => hf.present hv⟩

theorem Passes.follows {c stop : Cursor}
    (h : Passes table context level d c params stop captured)
    (hn : (params.names ++ d.paramNames).Nodup) :
    ∃ entries, Follows d entries ∧ captured.entries = params.entries ++ entries := by
  induction h with
  | done => exact ⟨[], .nil, (List.append_nil _).symm⟩
  | through _ _ ha _ ih =>
    rw [Definition.paramNames_cons, ← List.append_assoc] at hn
    obtain ⟨added, hadded, hnames, hstep⟩ := attempt_follows ha hn
    obtain ⟨entries, hf, he⟩ := ih hnames
    exact ⟨added ++ entries, hstep _ _ hf, by rw [he, hadded, List.append_assoc]⟩

theorem walk_follows {input : String} (hn : d.paramNames.Nodup)
    (h : d.walk table context 0 (Cursor.ofString input) Params.empty = .ok params) :
    Follows d params.entries := by
  obtain ⟨k, c, hreach, -, hrest⟩ := ended_of_walk_ok h
  have hnames : ((Params.empty : Params Json).names ++ Definition.paramNames (d.take k)).Nodup :=
    hn.sublist ((List.take_sublist k d).filterMap _)
  obtain ⟨entries, hf, he⟩ := hreach.2.follows hnames
  obtain rfl : params.entries = entries := he
  have hall := hf.append (Follows.of_optional hrest)
  rwa [List.take_append_drop, List.append_nil] at hall

/-- The parameters are those of the definition, in its order and without the optional ones that are
absent, and every choice has one of its alternatives. -/
structure Params.Fits (params : Params Json) (d : Definition) : Prop where
  distinct : params.names.Nodup
  ordered : params.names.Sublist d.paramNames
  required : ∀ p, .param p ∈ d → p.optional = false → params.contains p.name = true
  absent : ∀ p, .param p ∈ d → params.contains p.name = false → p.optional = true
  choices : ∀ p values, .param p ∈ d → p.type = .choice values →
    ∀ value, params.get? p.name = some value → ∃ v ∈ values, value = .str v

theorem Follows.fits (h : Follows d params.entries) (hn : d.paramNames.Nodup) :
    params.Fits d := by
  have hdistinct : params.names.Nodup := hn.sublist h.names
  have hpresent : ∀ p, .param p ∈ d → p.optional = true ∨ params.contains p.name = true := by
    intro p hp
    refine (h.optional_or_mem hp).imp_right fun ⟨value, hm⟩ => ?_
    rw [Params.contains, Params.get?, Entries.find?_of_mem hdistinct hm]
    rfl
  refine ⟨hdistinct, h.names, fun p hp ho => ?_, fun p hp hc => ?_, ?_⟩
  · simpa [ho] using hpresent p hp
  · simpa [hc] using hpresent p hp
  · intro p values hp htype value hget
    have hadmits := h.admits hn hp (Entries.mem_of_find? hget)
    rwa [htype] at hadmits

/-- What either matcher captures for a grammar that was read has the shape of its definition,
whatever the resolvers do. -/
theorem parsed_match_fits (m : Matcher) (grammar : String) (d : Definition)
    (hd : Definition.parse grammar = .ok d) (table : Resolvers C) (context : C) (input : String)
    (params : Params Json) (h : m.run d table context input = .ok params) : params.Fits d := by
  rw [Matcher.run_eq_walk] at h
  have hn := (wellFormed_of_parse hd).names
  exact (walk_follows hn h).fits hn

theorem parsed_match_fits_replaced :
    let grammar := "set <key: any> [mode: \"On\" | \"Off\"] [note: string]"
    let d : Definition :=
      [.literal ["set"], .param ⟨"key", false, .typename "any"⟩,
        .param ⟨"mode", true, .choice ["On", "Off"]⟩, .param ⟨"note", true, .typename "string"⟩]
    let table : Resolvers Unit :=
      Resolvers.builtins.register "any" fun _ _ => .ok ⟨Cursor.ofString " off", .null⟩
    let params : Params Json := ⟨[("key", .null), ("mode", .str "Off")]⟩
    Definition.parse grammar = .ok d ∧
      Matcher.compiled.run d table () "SET x" = .ok params ∧ params.Fits d := by
  intro grammar d table params
  have hparse : Definition.parse grammar = .ok d := by decide +kernel
  have hrun : Matcher.compiled.run d table () "SET x" = .ok params := by
    rw [Matcher.run_eq_walk]
    rfl
  exact ⟨hparse, hrun, parsed_match_fits .compiled grammar d hparse table () "SET x" params hrun⟩

end CommandGrammar
