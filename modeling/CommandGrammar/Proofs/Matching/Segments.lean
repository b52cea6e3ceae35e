import CommandGrammar.Proofs.Capture.Builtins
import CommandGrammar.Proofs.Grammar.WellFormed
import CommandGrammar.Proofs.Matching.Compiled
import CommandGrammar.Proofs.Matching.Walk
import CommandGrammar.Proofs.Text.Separators
import Mathlib.Data.List.Forall2

/-!
# Commands that are built from segments

A command that is made of one segment for each node, with single spaces between them, matches,
and the segments come back as the parameters. Optional parameters at the end may be left out.
A longer alternative never reaches over the end of a segment, for it would have to hold the
space that stands there.
-/

set_option autoImplicit false

namespace CommandGrammar

/-- The text of the segments from `level` on, each one but the first behind a space. -/
def lineFrom : Nat → List (List Char) → List Char
  | _, [] => []
  | level, segment :: rest => gap level ++ (segment ++ lineFrom (level + 1) rest)

theorem intercalate_cons (level : Nat) (first : List Char) (rest : List (List Char)) :
    [' '].intercalate (first :: rest) = first ++ lineFrom (level + 1) rest := by
  induction rest generalizing level first with
  | nil => simp [lineFrom]
  | cons next rest ih =>
    rw [List.intercalate_cons_cons, ih (level + 1) next]
    simp [lineFrom, gap]

theorem toList_intercalate (segments : List String) :
    (" ".intercalate segments).toList = lineFrom 0 (segments.map String.toList) := by
  rw [String.toList_intercalate]
  cases segments with
  | nil => rfl
  | cons first rest => exact intercalate_cons 0 first.toList (rest.map String.toList)

def EndsSegment (after : List Char) : Prop :=
  ∀ ch ∈ after.head?, ch = ' '

theorem endsSegment_lineFrom (level : Nat) (rest : List (List Char)) :
    EndsSegment (lineFrom (level + 1) rest) := by
  cases rest <;> simp [EndsSegment, lineFrom, gap]

theorem longestAt_segment {start : Cursor} {values : List String} {s : String}
    {after : List Char} (hs : s ∈ values) (hspace : ∀ v ∈ values, ' ' ∉ v.toList)
    (hr : start.remaining = s.toList ++ after) (ha : EndsSegment after) :
    ∃ v ∈ values, longestAt start values = some v ∧
      (start.take v.length).2.remaining = after ∧ Text.lower v.toList = Text.lower s.toList := by
  have hshow : start.shows s = true := by
    rw [Cursor.shows_iff, hr, ← String.length_toList, List.take_left]
  cases hlongest : longestAt start values with
  | none =>
    rw [longestAt_eq_none.1 hlongest s hs] at hshow
    cases hshow
  | some v =>
    obtain ⟨hv, hv', hmax⟩ := longestAt_spec hlongest
    have hwindow := (Cursor.shows_iff start v).1 hv'
    have hsplit : v.length = s.toList.length + (v.length - s.toList.length) := by
      have := hmax s hs hshow
      rw [String.length_toList]
      omega
    rw [hr, hsplit, List.take_length_add_append] at hwindow
    have hnone : after.take (v.length - s.toList.length) = [] := by
      cases after with
      | nil => exact List.take_nil
      | cons ch more =>
        obtain rfl : ch = ' ' := ha ch rfl
        cases hm : v.length - s.toList.length with
        | zero => rfl
        | succ m =>
          exfalso
          apply hspace v hv
          rw [← Text.space_mem_lower, ← hwindow, Text.space_mem_lower, hm]
          simp
    rw [hnone, List.append_nil] at hwindow
    refine ⟨v, hv, rfl, ?_, hwindow.symm⟩
    rw [Cursor.remaining_take, hr, hsplit, List.drop_length_add_append]
    simpa [hnone] using List.take_append_drop (v.length - s.toList.length) after

def Node.Takes : Node → String → Prop
  | .literal values, s => s ∈ values
  | .param ⟨_, _, .choice values⟩, s => s ∈ values
  | .param ⟨_, _, .typename type⟩, s => s ≠ "" ∧ (type = "word" → ' ' ∉ s.toList)

/-- The values that a parameter may keep from a segment. A choice keeps a declared spelling. -/
def ParamType.Keeps (segment value : String) : ParamType → Prop
  | typename _ => value = segment
  | choice values => value ∈ values ∧ Text.lower value.toList = Text.lower segment.toList

def Node.Yields (segment : String) (captured : Option (String × Json)) : Node → Prop
  | .literal _ => captured = none
  | .param p => ∃ value, captured = some (p.name, .str value) ∧ p.type.Keeps segment value

/-- No choice holds a space, and a parameter is a word, or a string where nothing follows. -/
def ParamType.Plain (last : Prop) : ParamType → Prop
  | choice values => ∀ v ∈ values, ' ' ∉ v.toList
  | typename type => type = "word" ∨ type = "string" ∧ last

def Definition.Plain (d : Definition) : Prop :=
  ∀ (i : Nat) (p : Param), d[i]? = some (.param p) → p.type.Plain (i + 1 = d.length)

theorem ParamType.Plain.imp {type : ParamType} {a b : Prop} (h : type.Plain a) (hab : a → b) :
    type.Plain b := by
  match type with
  | .choice values => exact h
  | .typename name => exact h.imp_right fun hs => ⟨hs.1, hab hs.2⟩

theorem Definition.Plain.head {p : Param} {rest : Definition}
    (h : Definition.Plain (.param p :: rest)) : p.type.Plain (rest = []) := by
  have := h 0 p rfl
  simpa [ParamType.Plain] using this

theorem Definition.Plain.tail {node : Node} {rest : Definition}
    (h : Definition.Plain (node :: rest)) : Definition.Plain rest := by
  intro i p hp
  simpa using h (i + 1) p hp

theorem Node.Yields.names {node : Node} {s : String} {captured : Option (String × Json)}
    (h : node.Yields s captured) : captured.toList.map (·.1) = node.paramName?.toList := by
  cases node with
  | literal values =>
    obtain rfl : captured = none := h
    rfl
  | param p =>
    obtain ⟨value, rfl, -⟩ := h
    rfl

theorem Node.Takes.ne_empty {node : Node} {s : String} (h : node.Takes s)
    (hw : node.WellFormed) : s ≠ "" := by
  match node with
  | .literal values => exact (hw.2 s h).nonempty
  | .param ⟨_, _, .choice values⟩ => exact hw.2.2 s h
  | .param ⟨_, _, .typename type⟩ => exact h.1

variable {C : Type}

theorem attempt_segment (context : C) (level : Nat) {node : Node} {s : String} {start : Cursor}
    {after : List Char} (hs : node.Takes s) (hw : node.WellFormed)
    (hp : ∀ p, node = .param p → p.type.Plain (after = []))
    (hr : start.remaining = s.toList ++ after) (ha : EndsSegment after) :
    ∃ stop captured, node.attempt Resolvers.builtins context level start =
      .ok (.advanced stop captured) ∧ stop.remaining = after ∧ node.Yields s captured := by
  match node with
  | .literal values =>
    obtain ⟨v, -, hv, hstop, -⟩ :=
      longestAt_segment hs (fun v hv => (hw.2 v hv).notMem (by decide)) hr ha
    exact ⟨_, none, by simp [Node.attempt, hv], hstop, rfl⟩
  | .param ⟨name, optional, .choice values⟩ =>
    obtain ⟨v, hmem, hv, hstop, hlower⟩ := longestAt_segment hs (hp _ rfl) hr ha
    exact ⟨_, some (name, .str v), by simp [Node.attempt, hv], hstop, v, rfl, hmem, hlower⟩
  | .param ⟨name, optional, .typename type⟩ =>
    have hr' : (start.tagged level).remaining = s.toList ++ after := hr
    rcases hp _ rfl with rfl | ⟨rfl, rfl⟩
    · obtain ⟨stop, hread, hstop⟩ := word_reads context hs.1 (hs.2 rfl) hr' ha
      exact ⟨stop, some (name, .str s), by simp [Node.attempt, builtins_get?, hread], hstop, s,
        rfl, rfl⟩
    · obtain ⟨stop, hread, hstop⟩ := remainder_reads context hs.1
        (hr'.trans (List.append_nil _))
      exact ⟨stop, some (name, .str s), by simp [Node.attempt, builtins_get?, hread], hstop, s,
        rfl, rfl⟩

theorem walk_segments (context : C) {level : Nat} {present absent : Definition}
    {segments : List String} {c : Cursor} (params : Params Json)
    (hs : List.Forall₂ Node.Takes present segments) (hw : ∀ node ∈ present, node.WellFormed)
    (hp : Definition.Plain (present ++ absent))
    (ha : absent.any Node.isRequired = false)
    (hn : (params.names ++ Definition.paramNames present).Nodup)
    (hc : c.remaining = lineFrom level (segments.map String.toList)) :
    ∃ entries, Definition.walk Resolvers.builtins context level (present ++ absent) c params =
        .ok ⟨params.entries ++ entries⟩ ∧
      entries.map (·.1) = Definition.paramNames present ∧
      ∀ (i : Nat) (p : Param) (s : String), present[i]? = some (.param p) →
        segments[i]? = some s →
        ∃ value, (p.name, Json.str value) ∈ entries ∧ p.type.Keeps s value := by
  -- By induction on the nodes that have a segment. The command that is left is always the line
  -- of the segments that are left, and each capture adds a new name.
  induction hs generalizing level c params with
  | nil =>
    refine ⟨[], ?_, rfl, by simp⟩
    rw [List.append_nil]
    cases absent with
    | nil => exact (walk_nil).trans (if_pos hc)
    | cons node rest => exact (walk_cons_end hc).trans (by rw [ha]; rfl)
  | @cons node s present segments hnode hsegs ih =>
    rw [List.forall_mem_cons] at hw
    obtain ⟨hopen, hentry⟩ := opens_of_remaining hc
    have hne : c.remaining ≠ [] := by
      have := hnode.ne_empty hw.1
      simp [hc, lineFrom, this]
    have hlast : ∀ p, node = .param p → p.type.Plain
        (lineFrom (level + 1) (segments.map String.toList) = []) := by
      rintro p rfl
      refine hp.head.imp fun hrest => ?_
      obtain ⟨rfl, -⟩ := List.append_eq_nil_iff.1 hrest
      cases hsegs
      rfl
    obtain ⟨stop, captured, hattempt, hstop, hyields⟩ :=
      attempt_segment context level hnode hw.1 hlast hentry
        (endsSegment_lineFrom level _)
    rw [Definition.paramNames_cons, ← hyields.names, ← List.append_assoc] at hn
    obtain ⟨hentries, hn'⟩ := capture_new params captured hn
    obtain ⟨entries, hwalk, hnames, hkeeps⟩ := ih _ hw.2 hp.tail hn' hstop
    refine ⟨captured.toList ++ entries, ?_, ?_, ?_⟩
    · rw [List.cons_append, walk_cons_opens hne hopen, hattempt]
      simp only [hwalk, hentries, List.append_assoc]
    · rw [List.map_append, hyields.names, hnames, Definition.paramNames_cons]
    · intro i p t hi ht
      cases i with
      | zero =>
        obtain rfl : node = .param p := by simpa using hi
        obtain rfl : s = t := by simpa using ht
        obtain ⟨value, rfl, hkeep⟩ := hyields
        exact ⟨value, by simp, hkeep⟩
      | succ i =>
        obtain ⟨value, hmem, hkeep⟩ := hkeeps i p t (by simpa using hi) (by simpa using ht)
        exact ⟨value, List.mem_append_right _ hmem, hkeep⟩

/-- Completeness. A command is joined from one segment for each of the first `k` nodes, behind
which only optional parameters follow. Both matchers accept it, and exactly the parameters among
these nodes are captured: words and strings as their segments, choices in a declared spelling
that is the segment up to letter case. -/
theorem joined_segments_match (grammar : String) (d : Definition)
    (hd : Definition.parse grammar = .ok d) (hp : d.Plain) (k : Nat)
    (hk : ∀ node ∈ d.drop k, node.isRequired = false) (segments : List String)
    (hs : List.Forall₂ Node.Takes (d.take k) segments) (context : C) :
    ∃ params,
      d.interpret (" ".intercalate segments) Resolvers.builtins context = .ok params ∧
      (d.compile Resolvers.builtins).run (" ".intercalate segments) context = .ok params ∧
      params.names = Definition.paramNames (d.take k) ∧
      ∀ (i : Nat) (p : Param) (s : String), d[i]? = some (.param p) → segments[i]? = some s →
        ∃ value, params.get? p.name = some (.str value) ∧ p.type.Keeps s value := by
  have hwell := wellFormed_of_parse hd
  have hnames : (Definition.paramNames (d.take k)).Nodup :=
    hwell.names.sublist ((List.take_sublist k d).filterMap _)
  have hline : (Cursor.ofString (" ".intercalate segments)).remaining =
      lineFrom 0 (segments.map String.toList) := by
    rw [Cursor.remaining_ofString, toList_intercalate]
  obtain ⟨entries, hwalk, hkeys, hkeeps⟩ :=
    walk_segments context Params.empty hs
      (fun node hnode => hwell.nodes node (List.mem_of_mem_take hnode))
      (by rwa [List.take_append_drop]) (by simpa using hk)
      (by simpa [Params.names, Params.empty, Entries.keys] using hnames) hline
  rw [List.take_append_drop] at hwalk
  have hnodup : (Entries.keys entries).Nodup := by rwa [Entries.keys, hkeys]
  refine ⟨⟨entries⟩, hwalk, (run_compile_eq_walk ..).trans hwalk, hkeys, ?_⟩
  intro i p s hi ht
  have hlt : i < k := by
    have hlength := hs.length_eq
    have := (List.getElem?_eq_some_iff.1 ht).1
    simp only [List.length_take] at hlength
    omega
  obtain ⟨value, hmem, hkeep⟩ := hkeeps i p s (by rwa [List.getElem?_take_of_lt hlt]) ht
  exact ⟨value, Entries.find?_of_mem hnodup hmem, hkeep⟩

theorem joined_segments_match_reminder :
    let grammar := "reminder/rm [emote: \"uwu\" | \"uwuu\"] <duration: word> [note: string]"
    let d : Definition :=
      [.literal ["reminder", "rm"], .param ⟨"emote", true, .choice ["uwu", "uwuu"]⟩,
        .param ⟨"duration", false, .typename "word"⟩, .param ⟨"note", true, .typename "string"⟩]
    let segments := ["rm", "uwu", "10min"]
    Definition.parse grammar = .ok d ∧ d.Plain ∧ (∀ node ∈ d.drop 3, node.isRequired = false) ∧
      List.Forall₂ Node.Takes (d.take 3) segments ∧
      ∃ params,
        d.interpret (" ".intercalate segments) Resolvers.builtins () = .ok params ∧
        (d.compile Resolvers.builtins).run (" ".intercalate segments) () = .ok params ∧
        params.names = Definition.paramNames (d.take 3) ∧
        ∀ (i : Nat) (p : Param) (s : String), d[i]? = some (.param p) → segments[i]? = some s →
          ∃ value, params.get? p.name = some (.str value) ∧ p.type.Keeps s value := by
  intro grammar d segments
  have hparse : Definition.parse grammar = .ok d := by decide +kernel
  have hplain : d.Plain := by
    intro i p hp
    rcases i with _ | _ | _ | _ | i <;> simp [d] at hp <;> subst hp <;> simp [ParamType.Plain, d]
  have hrest : ∀ node ∈ d.drop 3, node.isRequired = false := by decide
  have hsegments : List.Forall₂ Node.Takes (d.take 3) segments := by
    simp [d, segments, Node.Takes]
  exact ⟨hparse, hplain, hrest, hsegments,
    joined_segments_match grammar d hparse hplain 3 hrest segments hsegments ()⟩

end CommandGrammar
