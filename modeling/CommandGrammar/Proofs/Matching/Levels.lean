import CommandGrammar.Proofs.Capture.Builtins
import CommandGrammar.Proofs.Matching.Passage

/-!
# The level of a failure

A walk fails in one of six ways, and in each of them the level is the place that it came to: the
node that was missed, that had no space before it or no command left for it, or the number of
all nodes where text was left over. An optional parameter is never missed itself.
-/

set_option autoImplicit false

namespace CommandGrammar

variable {C : Type}

/-- The resolver of a node that must be there was asked on the way and raised this mismatch. -/
def Definition.Refuses (d : Definition) (table : Resolvers C) (context : C) (input : String)
    (e : Mismatch) : Prop :=
  ∃ n node type resolver c params, d[n]? = some node ∧ node.isRequired = true ∧
    node.typeName? = some type ∧ table.get? type = some resolver ∧
    d.Reaches table context input n c params ∧ c.remaining ≠ [] ∧ c.Opens n ∧
    resolver ((c.entry n).tagged n) context = .error e

/-- The ways in which a walk fails, at the node `n` or, with text left over, behind all nodes. -/
inductive Exit (table : Resolvers C) (context : C) (d : Definition) (input : String) :
    Nat → Failure → Prop
  | ended {n : Nat} (hn : n < d.length) (h : d.UsesUp table context input n)
      (hd : (d.drop n).any Node.isRequired = true) :
      Exit table context d input n (.mismatch (.endAt n))
  | closed {n : Nat} {c : Cursor} {params : Params Json} {found : Char} (hn : n < d.length)
      (h : d.Reaches table context input n c params) (hc : c.remaining.head? = some found)
      (hf : found ≠ ' ') : Exit table context d input n (.mismatch ⟨n, .delimiter found⟩)
  | unmatched {n : Nat} {node : Node} {values : List String} {c : Cursor} {params : Params Json}
      (hn : d[n]? = some node) (hr : node.isRequired = true)
      (h : d.Reaches table context input n c params) :
      Exit table context d input n (.mismatch (.noneAt n (joinAlternatives values) (c.entry n)))
  | refused {n : Nat} {node : Node} {type : String} {resolver : Resolver C} {c : Cursor}
      {params : Params Json} {e : Mismatch} (hn : d[n]? = some node) (hr : node.isRequired = true)
      (ht : node.typeName? = some type) (hres : table.get? type = some resolver)
      (h : d.Reaches table context input n c params) (hl : c.remaining ≠ []) (hc : c.Opens n)
      (he : resolver ((c.entry n).tagged n) context = .error e) :
      Exit table context d input n (.mismatch e)
  | unregistered {n : Nat} {node : Node} {type : String} {c : Cursor} {params : Params Json}
      (hn : d[n]? = some node) (ht : node.typeName? = some type)
      (hres : table.get? type = none) (h : d.Reaches table context input n c params) :
      Exit table context d input n (.unknownType n type)
  | leftover {text : List Char} (h : d.Leaves table context input text) :
      Exit table context d input d.length
        (.mismatch ⟨d.length, .leftover (String.ofList text)⟩)

variable {table : Resolvers C} {context : C} {d : Definition} {input : String}

theorem exit_of_walk_error {failure : Failure}
    (h : d.walk table context 0 (Cursor.ofString input) Params.empty = .error failure) :
    ∃ n, Exit table context d input n failure := by
  rcases d.reaches_stop table context input with
    ⟨c, params, hreach⟩ | ⟨n, node, rest, c, params, hdrop, hreach, hstop⟩
  · by_cases hr : c.remaining = []
    · rw [hreach.walk_eq, List.drop_length, walk_nil, if_pos hr] at h
      cases h
    · have hleaves : d.Leaves table context input c.remaining := ⟨hr, c, params, hreach, rfl⟩
      cases hleaves.walk_eq.symm.trans h
      exact ⟨d.length, .leftover hleaves⟩
  · have hnode : d[n]? = some node := by
      rw [← List.head?_drop, hdrop, List.head?_cons]
    have hn : n < d.length := (List.getElem?_eq_some_iff.1 hnode).1
    rw [hreach.walk_eq] at h
    refine ⟨n, ?_⟩
    cases hstop with
    | ended hr =>
      rw [walk_ended _ hr] at h
      split at h
      · cases h
        exact .ended hn ⟨c, params, hreach, hr⟩ ‹_›
      · cases h
    | closed hr hc =>
      obtain ⟨found, hhead, hf, hwalk⟩ := walk_cons_closed table context hr hc
      rw [hdrop, hwalk] at h
      cases h
      exact .closed hn hreach hhead hf
    | failed hr hc ha =>
      rw [hdrop, walk_cons_opens hr hc, ha] at h
      cases h
      rcases attempt_error ha with
        ⟨type, htype, hnone, rfl⟩ |
          ⟨hreq, ⟨values, rfl⟩ | ⟨type, resolver, e, htype, hres, he, rfl⟩⟩
      · exact .unregistered hnode htype hnone hreach
      · exact .unmatched hnode hreq hreach
      · exact .refused hnode hreq htype hres hreach hr hc he

theorem Exit.lt_or_leaves {n : Nat} {failure : Failure}
    (h : Exit table context d input n failure) :
    n < d.length ∨ n = d.length ∧ ∃ text, d.Leaves table context input text := by
  cases h with
  | ended hn | closed hn => exact .inl hn
  | unmatched hn | refused hn | unregistered hn =>
    exact .inl (List.getElem?_eq_some_iff.1 hn).1
  | leftover h => exact .inr ⟨rfl, _, h⟩

theorem Exit.level_eq {n : Nat} {failure : Failure} (ht : table.Reporting context)
    (h : Exit table context d input n failure) : failure.level = n := by
  cases h with
  | ended | closed | unmatched | unregistered | leftover => rfl
  | refused _ _ _ hres _ _ _ he => exact ht _ _ hres _ _ he

theorem ne_endOfCommand (head tail : String) (hh : head.toList.head? = some 'E') :
    head ++ tail ≠ "Unexpected end of command" := by
  intro he
  have hfirst := congrArg (fun text => text.toList.head?) he
  simp [hh] at hfirst

theorem Reason.eq_endOfCommand {reason : Reason}
    (h : reason.message = "Unexpected end of command") :
    reason = .endOfCommand ∨ ∃ message, reason = .resolver message := by
  cases reason with
  | endOfCommand => exact .inl rfl
  | resolver message => exact .inr ⟨message, rfl⟩
  | delimiter found =>
    exact absurd h (ne_endOfCommand "Expected \" \", found " _ (by decide))
  | alternatives expected found =>
    have hmessage : "Expected one of " ++ expected ++ ", found " ++ found = _ := h
    rw [String.append_assoc, String.append_assoc] at hmessage
    exact absurd hmessage (ne_endOfCommand _ _ (by decide))
  | leftover found =>
    exact absurd h (ne_endOfCommand "Expected end of command, found " _ (by decide))

structure Failure.Located (failure : Failure) (d : Definition) (table : Resolvers C)
    (context : C) (input : String) : Prop where
  within : failure.level ≤ d.length
  behind : failure.level = d.length ↔ ∃ text, d.Leaves table context input text
  quoted : ∀ text, d.Leaves table context input text →
    failure = .mismatch ⟨d.length, .leftover (String.ofList text)⟩ ∧
      failure.message = "Expected end of command, found " ++ String.ofList text
  unregistered : ∀ n type, failure = .unknownType n type → table.get? type = none ∧
    ∃ name optional, d[n]? = some (.param ⟨name, optional, .typename type⟩)
  /-- An optional parameter is met without a space, or at the end of the command while a node
  behind it must be there. It is never missed itself. -/
  optional : ∀ e p, failure = .mismatch e → d[e.level]? = some (.param p) →
    p.optional = true →
      (∃ c params found, d.Reaches table context input e.level c params ∧
        c.remaining.head? = some found ∧ found ≠ ' ' ∧ e.reason = .delimiter found ∧
        e.message = "Expected \" \", found " ++ found.toString) ∨
      d.UsesUp table context input e.level ∧ e.reason = .endOfCommand ∧
        e.message = "Unexpected end of command" ∧
        ∃ j node, e.level < j ∧ d[j]? = some node ∧ node.isRequired = true
  ended : ∀ e, failure = .mismatch e → e.message = "Unexpected end of command" →
    ¬ d.Refuses table context input e →
      d.UsesUp table context input e.level ∧ e.reason = .endOfCommand ∧
        ∃ j node, e.level ≤ j ∧ d[j]? = some node ∧ node.isRequired = true
  usedUp : ∀ n, d.UsesUp table context input n →
    (∃ j node, n ≤ j ∧ d[j]? = some node ∧ node.isRequired = true) →
      failure = .mismatch (.endAt n) ∧ failure.message = "Unexpected end of command"

theorem param_of_typeName? {node : Node} {type : String} (h : node.typeName? = some type) :
    ∃ name optional, node = .param ⟨name, optional, .typename type⟩ := by
  match node with
  | .literal _ | .param ⟨_, _, .choice _⟩ => cases h
  | .param ⟨name, optional, .typename _⟩ =>
    cases h
    exact ⟨name, optional, rfl⟩

theorem Exit.unregistered_param {n m : Nat} {type : String}
    (h : Exit table context d input n (.unknownType m type)) :
    table.get? type = none ∧
      ∃ name optional, d[m]? = some (.param ⟨name, optional, .typename type⟩) := by
  cases h with
  | unregistered hn ht hres =>
    obtain ⟨name, optional, rfl⟩ := param_of_typeName? ht
    exact ⟨hres, name, optional, hn⟩

theorem Exit.at_optional {n : Nat} {e : Mismatch} {p : Param}
    (h : Exit table context d input n (.mismatch e)) (hp : d[n]? = some (.param p))
    (ho : p.optional = true) :
    (∃ c params found, d.Reaches table context input n c params ∧
      c.remaining.head? = some found ∧ found ≠ ' ' ∧ e.reason = .delimiter found ∧
      e.message = "Expected \" \", found " ++ found.toString) ∨
    d.UsesUp table context input n ∧ e.reason = .endOfCommand ∧
      e.message = "Unexpected end of command" ∧
      ∃ j node, n < j ∧ d[j]? = some node ∧ node.isRequired = true := by
  have spared {node : Node} (hn : d[n]? = some node) : node.isRequired = false := by
    cases hn.symm.trans hp
    simp [Node.isRequired, ho]
  cases h with
  | closed _ h hc hf => exact .inl ⟨_, _, _, h, hc, hf, rfl, rfl⟩
  | ended _ h hd =>
    obtain ⟨j, node, hj, hn, hreq⟩ := required_ahead_iff.1 hd
    refine .inr ⟨h, rfl, rfl, j, node, Nat.lt_of_le_of_ne hj ?_, hn, hreq⟩
    rintro rfl
    exact absurd hreq (by simp [spared hn])
  | unmatched hn hr | refused hn hr => exact absurd hr (by simp [spared hn])
  | leftover => exact absurd (List.getElem?_eq_some_iff.1 hp).1 (Nat.lt_irrefl _)

theorem Exit.at_end {n : Nat} {e : Mismatch} (h : Exit table context d input n (.mismatch e))
    (hm : e.message = "Unexpected end of command")
    (hr : ¬ d.Refuses table context input e) :
    d.UsesUp table context input n ∧ e.reason = .endOfCommand ∧
      ∃ j node, n ≤ j ∧ d[j]? = some node ∧ node.isRequired = true := by
  have hreason := Reason.eq_endOfCommand hm
  cases h with
  | ended _ h hd => exact ⟨h, rfl, required_ahead_iff.1 hd⟩
  | refused hn hreq ht hres h hl hc he =>
    exact absurd ⟨_, _, _, _, _, _, hn, hreq, ht, hres, h, hl, hc, he⟩ hr
  | closed | unmatched | leftover =>
    rcases hreason with he | ⟨message, he⟩ <;> cases he

/-- A failure of either matcher tells by its level what became of the command, as long as the
resolvers report their own mismatches at the node for which they read. -/
theorem failure_located (m : Matcher) (d : Definition) (table : Resolvers C) (context : C)
    (ht : table.Reporting context) (input : String) (failure : Failure)
    (h : m.run d table context input = .error failure) :
    failure.Located d table context input := by
  rw [Matcher.run_eq_walk] at h
  obtain ⟨n, hexit⟩ := exit_of_walk_error h
  obtain rfl := hexit.level_eq ht
  constructor
  case within =>
    rcases hexit.lt_or_leaves with hlt | ⟨heq, -⟩
    · exact Nat.le_of_lt hlt
    · exact Nat.le_of_eq heq
  case behind =>
    constructor
    · intro heq
      rcases hexit.lt_or_leaves with hlt | ⟨-, hleaves⟩
      · exact absurd heq (Nat.ne_of_lt hlt)
      · exact hleaves
    · rintro ⟨text, hleaves⟩
      cases hleaves.walk_eq.symm.trans h
      rfl
  case quoted =>
    intro text hleaves
    cases hleaves.walk_eq.symm.trans h
    exact ⟨rfl, rfl⟩
  case unregistered =>
    rintro n type rfl
    exact hexit.unregistered_param
  case optional =>
    rintro e p rfl hp ho
    exact hexit.at_optional hp ho
  case ended =>
    rintro e rfl hm hr
    exact hexit.at_end hm hr
  case usedUp =>
    intro n hused hahead
    cases (hused.walk_eq (required_ahead_iff.2 hahead)).symm.trans h
    exact ⟨rfl, rfl⟩

theorem failure_located_set :
    let d : Definition :=
      [.literal ["set"], .param ⟨"mode", true, .choice ["on", "off"]⟩,
        .param ⟨"value", false, .typename "word"⟩]
    let failure : Failure := .mismatch ⟨1, .delimiter '-'⟩
    Resolvers.builtins.Reporting () ∧
      Matcher.direct.run d Resolvers.builtins () "Set-on x" = .error failure ∧
      failure.Located d Resolvers.builtins () "Set-on x" :=
  ⟨(builtins_indexFree ()).reporting, rfl,
    failure_located .direct _ _ _ (builtins_indexFree ()).reporting _ _ rfl⟩

end CommandGrammar
