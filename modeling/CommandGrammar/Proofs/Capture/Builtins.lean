import CommandGrammar.Capture.Resolver

/-!
# The built-in resolvers

Both take the longest run of characters of their class and capture it as it stands. What they
return is a rest of what they were given.
-/

set_option autoImplicit false

namespace CommandGrammar

variable {C : Type} {context : C}

/-- Every successful resolver of the table goes on to a rest of what it was given. -/
def Resolvers.Advancing (table : Resolvers C) (context : C) : Prop :=
  ∀ type resolver, table.get? type = some resolver → ∀ start reading,
    resolver start context = .ok reading → reading.cursor.remaining <:+ start.remaining

/-- The resolvers of the table report their mismatches at the node for which they read. -/
def Resolvers.Reporting (table : Resolvers C) (context : C) : Prop :=
  ∀ type resolver, table.get? type = some resolver → ∀ start e,
    resolver start context = .error e → e.level = start.nodeIndex

/-- The resolver looks at the node for which it reads only to say where it failed. It reads the
same value up to the same place for every node, or fails for one reason at each of them. -/
def Resolver.IndexFree (resolver : Resolver C) (context : C) : Prop :=
  ∀ start : Cursor,
    (∃ (stop : Cursor) (value : Json), ∀ index, ∃ kept,
      resolver (start.tagged index) context = .ok ⟨stop.tagged kept, value⟩) ∨
    ∃ reason, ∀ index, resolver (start.tagged index) context = .error ⟨index, reason⟩

def Resolvers.IndexFree (table : Resolvers C) (context : C) : Prop :=
  ∀ type resolver, table.get? type = some resolver → resolver.IndexFree context

theorem Resolvers.IndexFree.reporting {table : Resolvers C} (h : table.IndexFree context) :
    table.Reporting context := by
  intro type resolver ht start e he
  rcases h type resolver ht start with ⟨stop, value, hread⟩ | ⟨reason, hfail⟩
  · obtain ⟨kept, hread⟩ := hread start.nodeIndex
    cases he.symm.trans hread
  · cases he.symm.trans (hfail start.nodeIndex)
    rfl

theorem takingWhile_eq (p : Char → Bool) (message : String) (start : Cursor) (context : C) :
    Resolver.takingWhile p message start context =
      if start.remaining.takeWhile p = [] then .error ⟨start.nodeIndex, .resolver message⟩
      else .ok ⟨(start.takeWhile p).2, .str (String.ofList (start.remaining.takeWhile p))⟩ := by
  simp only [Resolver.takingWhile, Cursor.takeWhile_fst, List.isEmpty_iff]

theorem takingWhile_ok {p : Char → Bool} {message : String} {start stop : Cursor} {value : Json}
    (h : Resolver.takingWhile p message start context = .ok ⟨stop, value⟩) :
    start.remaining.takeWhile p ≠ [] ∧ stop.remaining = start.remaining.dropWhile p ∧
      value = .str (String.ofList (start.remaining.takeWhile p)) := by
  rw [takingWhile_eq] at h
  split at h
  · cases h
  · cases h
    exact ⟨‹_›, Cursor.remaining_takeWhile start p, rfl⟩

theorem takingWhile_verbatim {p : Char → Bool} {message : String} {start stop : Cursor}
    {value : Json} {text : List Char}
    (h : Resolver.takingWhile p message start context = .ok ⟨stop, value⟩)
    (ht : start.remaining = text ++ stop.remaining) :
    text ≠ [] ∧ (∀ ch ∈ text, p ch = true) ∧ value = .str (String.ofList text) := by
  obtain ⟨hne, hstop, hvalue⟩ := takingWhile_ok h
  have hsame : text ++ stop.remaining = start.remaining.takeWhile p ++ stop.remaining := by
    rw [← ht, hstop, List.takeWhile_append_dropWhile]
  rw [List.append_cancel_right hsame]
  exact ⟨hne, fun ch hch => List.all_eq_true.1 List.all_takeWhile ch hch, hvalue⟩

theorem takingWhile_reads {p : Char → Bool} {message : String} {start : Cursor} {s : String}
    {after : List Char} (hs : s ≠ "") (hp : ∀ ch ∈ s.toList, p ch = true)
    (hr : start.remaining = s.toList ++ after) (ha : ∀ ch ∈ after.head?, p ch = false) :
    ∃ stop, Resolver.takingWhile p message start context = .ok ⟨stop, .str s⟩ ∧
      stop.remaining = after := by
  have hafter : after.takeWhile p = [] ∧ after.dropWhile p = after := by
    cases after with
    | nil => simp
    | cons ch more => simp [ha ch rfl]
  have htake : start.remaining.takeWhile p = s.toList := by
    rw [hr, List.takeWhile_append_of_pos hp, hafter.1, List.append_nil]
  refine ⟨(start.takeWhile p).2, ?_, ?_⟩
  · rw [takingWhile_eq, htake, if_neg (by simpa using hs), String.ofList_toList]
  · rw [Cursor.remaining_takeWhile, hr, List.dropWhile_append_of_pos hp, hafter.2]

theorem word_reads (context : C) {start : Cursor} {s : String} {after : List Char}
    (hs : s ≠ "") (hp : ' ' ∉ s.toList) (hr : start.remaining = s.toList ++ after)
    (ha : ∀ ch ∈ after.head?, ch = ' ') :
    ∃ stop, Resolver.word start context = .ok ⟨stop, .str s⟩ ∧ stop.remaining = after := by
  refine takingWhile_reads hs ?_ hr (by simpa using ha)
  intro ch hch
  simp only [bne_iff_ne]
  rintro rfl
  exact hp hch

theorem remainder_reads (context : C) {start : Cursor} {s : String} (hs : s ≠ "")
    (hr : start.remaining = s.toList) :
    ∃ stop, Resolver.remainder start context = .ok ⟨stop, .str s⟩ ∧ stop.remaining = [] :=
  takingWhile_reads hs (fun _ _ => rfl) (by simpa using hr) (by simp)

theorem builtins_get? (type : String) :
    (Resolvers.builtins : Resolvers C).get? type =
      if "string" = type then some .remainder else if "word" = type then some .word else none := by
  rw [Resolvers.builtins, Resolvers.get?_register, Resolvers.get?_register]
  rfl

theorem builtins_takingWhile {type : String} {resolver : Resolver C}
    (h : Resolvers.builtins.get? type = some resolver) :
    ∃ p message, resolver = .takingWhile p message := by
  rw [builtins_get?] at h
  split at h
  · cases h
    exact ⟨_, _, rfl⟩
  · split at h
    · cases h
      exact ⟨_, _, rfl⟩
    · cases h

theorem builtins_advancing (context : C) : Resolvers.builtins.Advancing context := by
  intro type resolver ht start reading hr
  obtain ⟨p, message, rfl⟩ := builtins_takingWhile ht
  rw [(takingWhile_ok hr).2.1]
  exact List.dropWhile_suffix p

theorem builtins_indexFree (context : C) : Resolvers.builtins.IndexFree context := by
  intro type resolver ht start
  obtain ⟨p, message, rfl⟩ := builtins_takingWhile ht
  simp only [takingWhile_eq, Cursor.remaining_tagged]
  by_cases hnone : start.remaining.takeWhile p = []
  · right
    exact ⟨.resolver message, fun index => if_pos hnone⟩
  · left
    exact ⟨(start.takeWhile p).2, _, fun index => ⟨index, if_neg hnone⟩⟩

end CommandGrammar
