import CommandGrammar.Config.Source
import CommandGrammar.Entries
import Mathlib.Data.List.Forall2

/-!
# Names that are listed twice

Laying one list of commands over another folds the repeated names of the upper one away, so what
is reported of the layers together are the repetitions of the lowest layer that lists commands.
A layer that repeats a name is reported on its own, and passes as soon as a list lies below it.
-/

set_option autoImplicit false

namespace CommandGrammar

def Declaration.Repeats (name : String) (ds : List Declaration) : Prop :=
  2 ≤ (ds.map (·.name)).count name

instance (name : String) (ds : List Declaration) : Decidable (Declaration.Repeats name ds) :=
  inferInstanceAs (Decidable (2 ≤ _))

theorem repeats_cons (name : String) (d : Declaration) (ds : List Declaration) :
    Declaration.Repeats name (d :: ds) ↔
      if d.name = name then name ∈ ds.map (·.name) else Declaration.Repeats name ds := by
  rw [Declaration.Repeats, List.map_cons, List.count_cons]
  by_cases hd : d.name = name
  · simp only [hd, beq_self_eq_true, if_true]
    rw [← List.count_pos_iff]
    omega
  · simp [hd, Declaration.Repeats]

theorem Declaration.Repeats.mem {name : String} {ds : List Declaration}
    (h : Declaration.Repeats name ds) : name ∈ ds.map (·.name) :=
  List.count_pos_iff.1 (Nat.lt_of_lt_of_le Nat.zero_lt_two h)

def Declaration.keyed (ds : List Declaration) : Entries Declaration :=
  ds.map fun d => (d.name, d)

theorem keys_keyed (ds : List Declaration) :
    (Declaration.keyed ds).keys = ds.map (·.name) := by
  simp [Declaration.keyed, Entries.keys]

theorem keyed_putInto (d : Declaration) (ds : List Declaration) :
    Declaration.keyed (d.putInto ds) = Entries.put d.name d (Declaration.keyed ds) := by
  induction ds with
  | nil => rfl
  | cons e rest ih =>
    by_cases he : e.name = d.name
    · simp [Declaration.putInto, Declaration.keyed, Entries.put, he]
    · simpa [Declaration.putInto, Declaration.keyed, Entries.put, he] using ih

theorem names_putInto (d : Declaration) (ds : List Declaration) :
    (d.putInto ds).map (·.name) =
      if d.name ∈ ds.map (·.name) then ds.map (·.name) else ds.map (·.name) ++ [d.name] := by
  rw [← keys_keyed, keyed_putInto, Entries.keys_put, keys_keyed]

theorem repeats_putInto (name : String) (d : Declaration) (ds : List Declaration) :
    Declaration.Repeats name (d.putInto ds) ↔ Declaration.Repeats name ds := by
  rw [Declaration.Repeats, Declaration.Repeats, names_putInto]
  by_cases hm : d.name ∈ ds.map (·.name)
  · rw [if_pos hm]
  · rw [if_neg hm, List.count_append]
    by_cases hn : d.name = name
    · subst hn
      simp [List.count_eq_zero.2 hm]
    · simp [hn]

theorem repeats_overlay (name : String) (base upper : List Declaration) :
    Declaration.Repeats name (Config.overlay base upper) ↔ Declaration.Repeats name base := by
  rw [Config.overlay]
  induction upper generalizing base with
  | nil => rfl
  | cons d rest ih => rw [List.foldl_cons, ih, repeats_putInto]

namespace Config

def mergeAll (layers : List Config) : Config :=
  layers.foldl merge empty

/-- The commands of the lowest layer that lists any, or lists none on purpose. -/
def lowest (layers : List Config) : List Declaration :=
  (layers.findSome? (·.commands)).getD []

theorem empty_merge (upper : Config) : empty.merge upper = upper := by
  obtain ⟨_ | ds⟩ := upper <;> rfl

theorem repeats_merge (name : String) (ds : List Declaration) (upper : Config) :
    ∃ merged, merge ⟨some ds⟩ upper = ⟨some merged⟩ ∧
      (Declaration.Repeats name merged ↔ Declaration.Repeats name ds) := by
  obtain ⟨_ | us⟩ := upper
  · exact ⟨ds, rfl, Iff.rfl⟩
  · exact ⟨overlay ds us, rfl, repeats_overlay name ds us⟩

theorem repeats_foldl_merge (name : String) (ds : List Declaration) (layers : List Config) :
    Declaration.Repeats name (layers.foldl merge ⟨some ds⟩).declarations ↔
      Declaration.Repeats name ds := by
  induction layers generalizing ds with
  | nil => rfl
  | cons layer rest ih =>
    obtain ⟨merged, hmerge, hrepeats⟩ := repeats_merge name ds layer
    rw [List.foldl_cons, hmerge, ih, hrepeats]

theorem repeats_mergeAll (name : String) (layers : List Config) :
    Declaration.Repeats name (mergeAll layers).declarations ↔
      Declaration.Repeats name (lowest layers) := by
  rw [mergeAll]
  induction layers with
  | nil => rfl
  | cons layer rest ih =>
    rw [List.foldl_cons, empty_merge]
    obtain ⟨_ | ds⟩ := layer
    · exact ih
    · exact repeats_foldl_merge name ds rest

end Config

theorem duplicateName_notMem_grammarProblems (d : Declaration) (name : String) :
    .duplicateName name ∉ d.grammarProblems := by
  rw [Declaration.grammarProblems]
  cases Definition.parse d.grammar <;> simp

theorem duplicateName_mem_problemsFrom (name : String) (index : Nat) (seen : List String)
    (ds : List Declaration) :
    .duplicateName name ∈ Config.problemsFrom index seen ds ↔
      Text.allBlank name.toList = false ∧
        (Declaration.Repeats name ds ∨ name ∈ seen ∧ name ∈ ds.map (·.name)) := by
  induction ds generalizing index seen with
  | nil => simp [Config.problemsFrom, Declaration.Repeats]
  | cons d rest ih =>
    have hgrammar := duplicateName_notMem_grammarProblems d name
    rw [Config.problemsFrom, repeats_cons]
    by_cases hd : d.name = name
    · subst hd
      cases hb : d.isBlank with
      | true =>
        have hname : Text.allBlank d.name.toList = true := hb
        simp [ih, hname]
      | false =>
        have hname : Text.allBlank d.name.toList = false := hb
        -- The name is now a seen one, so any further use of it is a repetition.
        have hagain : .duplicateName d.name ∈ Config.problemsFrom (index + 1) (d.name :: seen) rest ↔
            d.name ∈ rest.map (·.name) := by
          rw [ih]
          exact ⟨fun h => h.2.elim Declaration.Repeats.mem And.right,
            fun h => ⟨hname, .inr ⟨List.mem_cons_self .., h⟩⟩⟩
        by_cases hs : d.name ∈ seen <;> simp [hagain, hgrammar, hname, hs]
    · have hne : name ≠ d.name := Ne.symm hd
      cases d.isBlank with
      | true => simp [ih, hd, hne]
      | false => by_cases hs : d.name ∈ seen <;> simp [ih, hgrammar, hd, hne, hs]

/-- The result is a failure that lists the name among its duplicates. -/
def Reports {α : Type} (result : Except ConfigFault α) (name : String) : Prop :=
  ∃ problems, result = .error (.validation problems) ∧ .duplicateName name ∈ problems

theorem validate_reports (c : Config) (name : String) :
    Reports c.validate name ↔
      Text.allBlank name.toList = false ∧ Declaration.Repeats name c.declarations := by
  have hmem := duplicateName_mem_problemsFrom name 0 [] c.declarations
  rw [← Config.problems] at hmem
  rw [Config.validate]
  constructor
  · rintro ⟨problems, hresult, hproblem⟩
    split at hresult
    · cases hresult
    · cases hresult
      simpa using hmem.1 hproblem
  · intro h
    have hproblem := hmem.2 ⟨h.1, .inl h.2⟩
    have hne : c.problems.isEmpty = false := by
      rw [List.isEmpty_eq_false_iff]
      exact List.ne_nil_of_mem hproblem
    exact ⟨c.problems, by simp [hne], hproblem⟩

/-- The files at some paths are read as these layers. -/
def HoldLayers (parse : ConfigReader) (files : Files) (paths : List String)
    (layers : List Config) : Prop :=
  List.Forall₂ (fun path layer => Config.readLayer parse files path = .ok layer) paths layers

variable {parse : ConfigReader} {files : Files} {layers : List Config}

theorem foldlM_readLayer {paths : List String} (h : HoldLayers parse files paths layers)
    (base : Config) :
    paths.foldlM (fun config path => return config.merge (← Config.readLayer parse files path))
        base =
      Except.ok (layers.foldl Config.merge base) := by
  induction h generalizing base with
  | nil => rfl
  | cons hread _ ih =>
    rw [List.foldlM_cons, hread]
    exact ih _

theorem load_eq {source : Source} {directory : String}
    (h : HoldLayers parse files (source.paths files directory) layers) :
    Config.load parse files directory source =
      (Config.mergeAll layers).validate.map fun _ => Config.mergeAll layers := by
  rw [Config.load, foldlM_readLayer h]
  change (Config.mergeAll layers).validate.bind (fun _ => .ok (Config.mergeAll layers)) = _
  cases (Config.mergeAll layers).validate <;> rfl

theorem reports_map {α β : Type} (result : Except ConfigFault α) (f : α → β) (name : String) :
    Reports (result.map f) name ↔ Reports result name := by
  cases result <;> simp [Reports, Except.map]

/-- A name that a layer repeats is reported exactly if the lowest layer with a list repeats it,
by the check of the merged layers and by the loading of their files alike. -/
theorem duplicate_reported_iff (layers : List Config) (name : String) :
    (Reports (Config.mergeAll layers).validate name ↔
      Text.allBlank name.toList = false ∧ Declaration.Repeats name (Config.lowest layers)) ∧
    ∀ (parse : ConfigReader) (source : Source) (files : Files) (directory : String),
      HoldLayers parse files (source.paths files directory) layers →
        (Reports (Config.load parse files directory source) name ↔
          Text.allBlank name.toList = false ∧
            Declaration.Repeats name (Config.lowest layers)) := by
  have hmerged : Reports (Config.mergeAll layers).validate name ↔
      Text.allBlank name.toList = false ∧ Declaration.Repeats name (Config.lowest layers) := by
    rw [validate_reports, Config.repeats_mergeAll]
  refine ⟨hmerged, fun parse source files directory h => ?_⟩
  rw [load_eq h, reports_map, hmerged]

def listedTwice : Config :=
  ⟨some [⟨"a", "a", none⟩, ⟨"a", "b", none⟩]⟩

def emptyUnderTwice : Files := fun path =>
  if path = "/g.yml" then .file "commands: []".toUTF8.toList
  else if path = "/p/cmdmatch.yml" then
    .file "commands:\n- name: a\n  grammar: a\n- name: a\n  grammar: b\n".toUTF8.toList
  else .missing .notFound

def readEmptyOrTwice : ConfigReader := fun text =>
  if text = "commands: []" then .ok ⟨some []⟩
  else if text = "commands:\n- name: a\n  grammar: a\n- name: a\n  grammar: b\n" then
    .ok listedTwice
  else .error "no such text"

theorem duplicate_reported_iff_two_layers :
    let source : Source := .layered (some "/g.yml")
    HoldLayers readEmptyOrTwice emptyUnderTwice (source.paths emptyUnderTwice "/p")
        [⟨some []⟩, listedTwice] ∧
      (Reports (Config.load readEmptyOrTwice emptyUnderTwice "/p" source) "a" ↔
        Text.allBlank "a".toList = false ∧
          Declaration.Repeats "a" (Config.lowest [⟨some []⟩, listedTwice])) := by
  intro source
  have hpaths : source.paths emptyUnderTwice "/p" = ["/g.yml", "/p/cmdmatch.yml"] := by
    decide +kernel
  have hholds : HoldLayers readEmptyOrTwice emptyUnderTwice (source.paths emptyUnderTwice "/p")
      [⟨some []⟩, listedTwice] := by
    rw [hpaths]
    exact .cons (by decide +kernel) (.cons (by decide +kernel) .nil)
  exact ⟨hholds, (duplicate_reported_iff _ "a").2 readEmptyOrTwice source _ _ hholds⟩

/-- The same file is refused alone, and passes over one without commands. -/
theorem duplicate_passes_over_empty_list :
    Text.allBlank "a".toList = false ∧ Declaration.Repeats "a" listedTwice.declarations ∧
      (Config.mergeAll [listedTwice]).validate = .error (.validation [.duplicateName "a"]) ∧
      (Config.mergeAll [⟨some []⟩, listedTwice]).validate = .ok () ∧
      Config.load readEmptyOrTwice emptyUnderTwice "/p" (.layered (some "/g.yml")) =
        .ok ⟨some [⟨"a", "b", none⟩]⟩ := by
  decide +kernel

end CommandGrammar
