import CommandGrammar.Proofs.Capture.Builtins
import CommandGrammar.Proofs.Matching.Compiled
import CommandGrammar.Proofs.Matching.Walk

/-!
# Shares of a command

A match divides the command among the nodes: each one takes a text or, if it is an optional
parameter, nothing. No character is lost or read twice, and the parameters are what the nodes
captured from their texts, in their order.
-/

set_option autoImplicit false

namespace CommandGrammar

/-- What a node took of a command. A literal takes a text without a value. -/
inductive Share where
  | absent
  | taken (text : List Char) (value : Option Json)

namespace Share

def command : Nat → List Share → List Char
  | _, [] => []
  | level, .absent :: rest => command (level + 1) rest
  | level, .taken text _ :: rest => gap level ++ text ++ command (level + 1) rest

def capture : Node → Share → Option (String × Json)
  | .param p, .taken _ (some value) => some (p.name, value)
  | _, _ => none

end Share

def captures (d : Definition) (shares : List Share) : List (String × Json) :=
  (d.zip shares).filterMap fun pair => pair.2.capture pair.1

theorem captures_cons (node : Node) (d : Definition) (share : Share) (shares : List Share) :
    captures (node :: d) (share :: shares) =
      (share.capture node).toList ++ captures d shares := by
  cases h : share.capture node <;> simp [captures, h]

variable {C : Type}

/-- How a node reads the text between two cursors. Fixed words are read up to letter case. A
typed parameter is read by its resolver, at the node's own index; the built-in ones capture the
text as it stands. -/
def Node.Reads (table : Resolvers C) (context : C) (level : Nat) (start stop : Cursor)
    (text : List Char) (value : Option Json) : Node → Prop
  | .literal values =>
    stop = start.advance text.length ∧ value = none ∧
      ∃ v ∈ values, Text.lower text = Text.lower v.toList
  | .param ⟨_, _, .choice values⟩ =>
    stop = start.advance text.length ∧
      ∃ v ∈ values, value = some (.str v) ∧ Text.lower text = Text.lower v.toList
  | .param ⟨_, _, .typename type⟩ =>
    ∃ resolver captured, table.get? type = some resolver ∧ value = some captured ∧
      resolver (start.tagged level) context = .ok ⟨stop, captured⟩ ∧
      (resolver = Resolver.word →
        text ≠ [] ∧ ' ' ∉ text ∧ captured = .str (String.ofList text)) ∧
      (resolver = Resolver.remainder →
        text ≠ [] ∧ captured = .str (String.ofList text))

/-- From a cursor on the nodes take their shares one behind the other, up to the end of the
command. Each one reads where the one before it stopped, behind the space. -/
inductive Divides (table : Resolvers C) (context : C) :
    Nat → Definition → Cursor → List Share → Prop
  | done {level : Nat} {c : Cursor} (h : c.remaining = []) : Divides table context level [] c []
  | absent {level : Nat} {p : Param} {rest : Definition} {c : Cursor} {shares : List Share}
      (hp : p.optional = true) (h : Divides table context (level + 1) rest c shares) :
      Divides table context level (.param p :: rest) c (.absent :: shares)
  | taken {level : Nat} {node : Node} {rest : Definition} {c stop : Cursor} {text : List Char}
      {value : Option Json} {shares : List Share}
      (hc : c.remaining = gap level ++ text ++ stop.remaining)
      (hr : node.Reads table context level (c.entry level) stop text value)
      (h : Divides table context (level + 1) rest stop shares) :
      Divides table context level (node :: rest) c (.taken text value :: shares)

theorem Divides.command_eq {table : Resolvers C} {context : C} {level : Nat} {d : Definition}
    {c : Cursor} {shares : List Share} (h : Divides table context level d c shares) :
    Share.command level shares = c.remaining := by
  induction h with
  | done h => exact h.symm
  | absent _ _ ih => exact ih
  | taken hc _ _ ih => rw [Share.command, ih, hc]

variable {table : Resolvers C} {context : C} {level : Nat} {node : Node}

theorem longestAt_reads {start : Cursor} {values : List String} {v : String}
    (h : longestAt start values = some v) :
    ∃ text, start.remaining = text ++ (start.take v.length).2.remaining ∧
      (start.take v.length).2 = start.advance text.length ∧ v ∈ values ∧
      Text.lower text = Text.lower v.toList := by
  obtain ⟨hv, hs, -⟩ := longestAt_spec h
  refine ⟨start.remaining.take v.length, ?_, ?_, hv, (Cursor.shows_iff start v).1 hs⟩
  · rw [Cursor.remaining_take, List.take_append_drop]
  · rw [Cursor.take, List.length_take]

theorem reads_of_advanced {start stop : Cursor} {captured : Option (String × Json)}
    (ht : table.Advancing context)
    (h : node.attempt table context level start = .ok (.advanced stop captured)) :
    ∃ text value, start.remaining = text ++ stop.remaining ∧
      node.Reads table context level start stop text value ∧
      captured = (Share.taken text value).capture node := by
  rcases attempt_advanced h with ⟨values, v, rfl, hv, rfl, rfl⟩ |
    ⟨name, optional, values, v, rfl, hv, rfl, rfl⟩ |
    ⟨name, optional, type, resolver, reading, rfl, hres, hread, rfl, rfl⟩
  · obtain ⟨text, htext, hstop, hmem, hlower⟩ := longestAt_reads hv
    exact ⟨text, none, htext, ⟨hstop, rfl, _, hmem, hlower⟩, rfl⟩
  · obtain ⟨text, htext, hstop, hmem, hlower⟩ := longestAt_reads hv
    exact ⟨text, some (.str _), htext, ⟨hstop, _, hmem, rfl, hlower⟩, rfl⟩
  · obtain ⟨text, htext⟩ := ht type resolver hres _ _ hread
    have hsplit : (start.tagged level).remaining = text ++ reading.cursor.remaining :=
      htext.symm
    refine ⟨text, some reading.value, hsplit, ⟨resolver, _, hres, rfl, hread, ?_, ?_⟩, rfl⟩
    · rintro rfl
      obtain ⟨hne, hspace, hvalue⟩ := takingWhile_verbatim hread hsplit
      exact ⟨hne, fun hmem => by simpa using hspace _ hmem, hvalue⟩
    · rintro rfl
      obtain ⟨hne, -, hvalue⟩ := takingWhile_verbatim hread hsplit
      exact ⟨hne, hvalue⟩

theorem capture_names (node : Node) (share : Share) :
    ((share.capture node).toList.map (·.1)).Sublist node.paramName?.toList := by
  cases node with
  | literal values => cases share <;> exact List.Sublist.refl _
  | param p =>
    match share with
    | .absent | .taken _ none => exact List.nil_sublist _
    | .taken _ (some _) => exact List.Sublist.refl _

theorem divides_end (level : Nat) {d : Definition} {c : Cursor} (hc : c.remaining = [])
    (hd : d.any Node.isRequired = false) :
    ∃ shares, Divides table context level d c shares ∧ captures d shares = [] := by
  induction d generalizing level with
  | nil => exact ⟨[], .done hc, rfl⟩
  | cons node rest ih =>
    simp only [List.any_cons, Bool.or_eq_false_iff] at hd
    obtain ⟨shares, hs, he⟩ := ih (level + 1) hd.2
    match node, hd.1 with
    | .param p, hp =>
      have hp : p.optional = true := by simpa [Node.isRequired] using hp
      exact ⟨.absent :: shares, .absent hp hs, by rw [captures_cons, he]; rfl⟩

theorem walk_divides {d : Definition} {c : Cursor} {params result : Params Json}
    (ht : table.Advancing context) (hn : (params.names ++ d.paramNames).Nodup)
    (h : d.walk table context level c params = .ok result) :
    ∃ shares, Divides table context level d c shares ∧
      result.entries = params.entries ++ captures d shares := by
  induction d generalizing level c params with
  | nil =>
    rw [walk_nil] at h
    split at h
    · cases h
      exact ⟨[], .done ‹_›, by simp [captures]⟩
    · cases h
  | cons node rest ih =>
    rw [Definition.paramNames_cons, ← List.append_assoc] at hn
    rcases walk_cons_ok h with
      ⟨hc, hd, rfl⟩ | ⟨-, hopen, ⟨hskip, hrest⟩ | ⟨stop, captured, hadv, hrest⟩⟩
    · obtain ⟨shares, hs, he⟩ := divides_end level hc hd
      exact ⟨shares, hs, by simp [he]⟩
    · obtain ⟨p, rfl, hp⟩ := optional_of_skipped hskip
      have hn' : (params.names ++ Definition.paramNames rest).Nodup :=
        hn.sublist ((List.sublist_append_left _ _).append_right _)
      obtain ⟨shares, hs, he⟩ := ih hn' hrest
      exact ⟨.absent :: shares, .absent hp hs, by rw [he, captures_cons]; rfl⟩
    · obtain ⟨text, value, htext, hread, rfl⟩ := reads_of_advanced ht hadv
      have hnames := capture_names node (.taken text value)
      obtain ⟨hentries, hn'⟩ := capture_new params ((Share.taken text value).capture node)
        (hn.sublist ((hnames.append_left _).append_right _))
      obtain ⟨shares, hs, he⟩ := ih hn' hrest
      refine ⟨.taken text value :: shares, .taken ?_ hread hs, ?_⟩
      · rw [hopen, htext, List.append_assoc]
      · rw [he, hentries, captures_cons, List.append_assoc]

/-- Soundness of a match, by either matcher. The shares make up the whole command, only optional
parameters are without one, each text is read by its node as the definition says, and the
parameters are the values captured from the texts in the order of the nodes. -/
theorem match_divides_command (d : Definition) (hd : d.paramNames.Nodup) (table : Resolvers C)
    (context : C) (ht : table.Advancing context) (input : String) (params : Params Json)
    (h : d.interpret input table context = .ok params ∨
      (d.compile table).run input context = .ok params) :
    ∃ shares, Divides table context 0 d (Cursor.ofString input) shares ∧
      Share.command 0 shares = input.toList ∧ params.entries = captures d shares := by
  rw [run_compile_eq_walk] at h
  have hwalk : d.walk table context 0 (Cursor.ofString input) Params.empty = .ok params :=
    h.elim id id
  have hnames : ((Params.empty : Params Json).names ++ d.paramNames).Nodup := by
    simpa [Params.empty, Params.names, Entries.keys] using hd
  obtain ⟨shares, hs, he⟩ := walk_divides ht hnames hwalk
  exact ⟨shares, hs, by simpa using hs.command_eq, he⟩

theorem match_divides_command_reminder :
    let d : Definition :=
      [.literal ["reminder", "rm"], .param ⟨"emote", true, .choice ["uwu", "owo"]⟩,
        .param ⟨"duration", false, .typename "word"⟩, .param ⟨"note", true, .typename "string"⟩]
    let params : Params Json := ⟨[("duration", .str "10min"), ("note", .str "Buy  milk")]⟩
    d.paramNames.Nodup ∧ Resolvers.builtins.Advancing () ∧
      d.interpret "RM 10min Buy  milk" Resolvers.builtins () = .ok params ∧
      ∃ shares, Divides Resolvers.builtins () 0 d (Cursor.ofString "RM 10min Buy  milk") shares ∧
        Share.command 0 shares = "RM 10min Buy  milk".toList ∧
        params.entries = captures d shares :=
  ⟨by decide, builtins_advancing (), rfl,
    match_divides_command _ (by decide) _ _ (builtins_advancing ()) _ _ (.inl rfl)⟩

end CommandGrammar
