import CommandGrammar.Proofs.Config.Duplicates
import CommandGrammar.Proofs.Entries.Mapping

/-!
# Layers laid over one another

What comes out of merging is determined by three things: whether a layer lists commands, in which
order the names first come up, and which layer declares a name last. Where no layer repeats a
name, a configuration with these three is the only one, and any grouping of the layers gives it.
-/

set_option autoImplicit false

namespace CommandGrammar

namespace Declaration

def find? (ds : List Declaration) (name : String) : Option Declaration :=
  ds.find? (·.name = name)

theorem find?_cons (d : Declaration) (ds : List Declaration) (name : String) :
    find? (d :: ds) name = if d.name = name then some d else find? ds name := by
  by_cases h : d.name = name <;> simp [find?, h]

theorem find?_eq (ds : List Declaration) (name : String) :
    find? ds name = Entries.find? name (keyed ds) := by
  induction ds with
  | nil => rfl
  | cons d rest ih =>
    rw [find?_cons, ih]
    rfl

theorem find?_eq_none {ds : List Declaration} {name : String} (h : name ∉ ds.map (·.name)) :
    find? ds name = none := by
  rw [find?_eq, Entries.find?_eq_none_iff, keys_keyed]
  exact h

theorem find?_of_mem {ds : List Declaration} (h : (ds.map (·.name)).Nodup) {d : Declaration}
    (hd : d ∈ ds) : find? ds d.name = some d := by
  rw [← keys_keyed] at h
  rw [find?_eq]
  exact Entries.find?_of_mem h (List.mem_map.2 ⟨d, hd, rfl⟩)

theorem filterMap_find? {ds : List Declaration} (h : (ds.map (·.name)).Nodup) :
    (ds.map (·.name)).filterMap (find? ds) = ds := by
  rw [List.filterMap_map]
  exact (List.filterMap_congr fun d hd => find?_of_mem h hd).trans List.filterMap_some

theorem find?_putInto (d : Declaration) (ds : List Declaration) (name : String) :
    find? (d.putInto ds) name = if d.name = name then some d else find? ds name := by
  rw [find?_eq, keyed_putInto, Entries.find?_put, ← find?_eq]

end Declaration

namespace Config

theorem overlay_cons (base : List Declaration) (d : Declaration) (rest : List Declaration) :
    overlay base (d :: rest) = overlay (d.putInto base) rest := rfl

theorem find?_overlay (base : List Declaration) {upper : List Declaration}
    (h : (upper.map (·.name)).Nodup) (name : String) :
    Declaration.find? (overlay base upper) name =
      (Declaration.find? upper name).or (Declaration.find? base name) := by
  induction upper generalizing base with
  | nil => rfl
  | cons d rest ih =>
    obtain ⟨hd, hrest⟩ := List.nodup_cons.1 h
    rw [overlay_cons, ih _ hrest, Declaration.find?_putInto]
    by_cases hn : d.name = name
    · -- No later declaration takes the place of this one.
      have hnone : Declaration.find? rest name = none :=
        Declaration.find?_eq_none (hn ▸ hd)
      rw [if_pos hn, Declaration.find?_cons, if_pos hn, hnone]
      rfl
    · rw [if_neg hn, Declaration.find?_cons, if_neg hn]

theorem names_overlay {base : List Declaration} {names : List String}
    (h : base.map (·.name) = names.eraseDups) (upper : List Declaration) :
    (overlay base upper).map (·.name) = (names ++ upper.map (·.name)).eraseDups := by
  -- By induction on the upper list. `names` is all that was put down so far.
  induction upper generalizing base names with
  | nil => simpa [overlay] using h
  | cons d rest ih =>
    have hput : (d.putInto base).map (·.name) = (names ++ [d.name]).eraseDups := by
      rw [names_putInto, eraseDups_concat, h]
      simp only [List.mem_eraseDups]
    rw [overlay_cons, ih hput, List.append_assoc]
    rfl

def names (c : Config) : List String :=
  c.declarations.map (·.name)

def find? (c : Config) (name : String) : Option Declaration :=
  Declaration.find? c.declarations name

def Distinct (c : Config) : Prop :=
  c.names.Nodup

instance (c : Config) : Decidable c.Distinct :=
  inferInstanceAs (Decidable c.names.Nodup)

theorem eq_of_find? {c d : Config} (hlisted : c.commands = none ↔ d.commands = none)
    (hnames : c.names = d.names) (hc : c.Distinct) (hfind : ∀ name, c.find? name = d.find? name) :
    c = d := by
  have hd : d.Distinct := by rwa [Distinct, ← hnames]
  have hdeclarations : c.declarations = d.declarations := by
    calc c.declarations = c.names.filterMap c.find? := (Declaration.filterMap_find? hc).symm
      _ = d.names.filterMap d.find? := by rw [hnames, funext hfind]
      _ = d.declarations := Declaration.filterMap_find? hd
  obtain ⟨_ | ds⟩ := c <;> obtain ⟨_ | es⟩ := d <;> simp_all [declarations]

theorem merge_unlisted (base upper : Config) :
    (base.merge upper).commands = none ↔ base.commands = none ∧ upper.commands = none := by
  obtain ⟨_ | b⟩ := base <;> obtain ⟨_ | u⟩ := upper <;> simp [merge]

theorem names_merge {base upper : Config} (hb : base.Distinct) (hu : upper.Distinct) :
    (base.merge upper).names = (base.names ++ upper.names).eraseDups := by
  obtain ⟨_ | b⟩ := base
  · rw [← empty, empty_merge]
    exact (eraseDups_of_nodup hu).symm
  · obtain ⟨_ | u⟩ := upper
    · have hnone : (⟨some b⟩ : Config).names ++ (⟨none⟩ : Config).names = b.map (·.name) :=
        List.append_nil _
      rw [hnone]
      exact (eraseDups_of_nodup hb).symm
    · exact names_overlay (eraseDups_of_nodup hb).symm u

theorem find?_merge (base : Config) {upper : Config} (hu : upper.Distinct) (name : String) :
    (base.merge upper).find? name = (upper.find? name).or (base.find? name) := by
  obtain ⟨_ | b⟩ := base <;> obtain ⟨_ | u⟩ := upper
  · rfl
  · exact Option.or_none.symm
  · rfl
  · exact find?_overlay b hu name

theorem Distinct.merge {base upper : Config} (hb : base.Distinct) (hu : upper.Distinct) :
    (base.merge upper).Distinct := by
  rw [Distinct, names_merge hb hu]
  exact nodup_eraseDups _

/-- What the layers come to, the lowest one first. A configuration lists commands if one of them
does, has every name once in the order in which they first come up, and declares by a name what
the last layer with this name declares by it. -/
structure Merged (layers : List Config) (c : Config) : Prop where
  unlisted : c.commands = none ↔ ∀ layer ∈ layers, layer.commands = none
  names : c.names = (layers.flatMap Config.names).eraseDups
  find : ∀ name, c.find? name = layers.reverse.findSome? (·.find? name)

theorem Merged.distinct {layers : List Config} {c : Config} (h : Merged layers c) :
    c.Distinct := by
  rw [Distinct, h.names]
  exact nodup_eraseDups _

theorem Merged.unique {layers : List Config} {c d : Config} (hc : Merged layers c)
    (hd : Merged layers d) : c = d :=
  eq_of_find? (hc.unlisted.trans hd.unlisted.symm) (hc.names.trans hd.names.symm) hc.distinct
    fun name => (hc.find name).trans (hd.find name).symm

theorem merged_nil : Merged [] empty :=
  ⟨by simp [empty], rfl, fun _ => rfl⟩

theorem merged_single {c : Config} (h : c.Distinct) : Merged [c] c where
  unlisted := by simp
  names := by simpa using (eraseDups_of_nodup h).symm
  find name := by simp

theorem Merged.merge {lower upper : List Config} {c d : Config} (hc : Merged lower c)
    (hd : Merged upper d) : Merged (lower ++ upper) (c.merge d) where
  unlisted := by
    rw [merge_unlisted, hc.unlisted, hd.unlisted, List.forall_mem_append]
  names := by
    rw [names_merge hc.distinct hd.distinct, hc.names, hd.names, eraseDups_parts,
      List.flatMap_append]
  find name := by
    rw [find?_merge c hd.distinct, hc.find, hd.find, List.reverse_append, List.findSome?_append]

theorem merged_mergeAll {layers : List Config} (h : ∀ layer ∈ layers, layer.Distinct) :
    Merged layers (mergeAll layers) := by
  induction layers using List.reverseRecOn with
  | nil => exact merged_nil
  | append_singleton lower layer ih =>
    obtain ⟨hlower, hlayer⟩ := List.forall_mem_append.1 h
    rw [mergeAll, List.foldl_concat]
    exact (ih hlower).merge (merged_single (hlayer layer (List.mem_singleton.2 rfl)))

theorem merge_empty (c : Config) : c.merge empty = c := by
  obtain ⟨_ | ds⟩ := c <;> rfl

theorem merge_assoc {a b c : Config} (ha : a.Distinct) (hb : b.Distinct) (hc : c.Distinct) :
    (a.merge b).merge c = a.merge (b.merge c) :=
  (((merged_single ha).merge (merged_single hb)).merge (merged_single hc)).unique
    ((merged_single ha).merge ((merged_single hb).merge (merged_single hc)))

theorem merge_self {c : Config} (h : c.Distinct) : c.merge c = c := by
  have hnames : (c.merge c).names = c.names := by
    have hnone : c.names.removeAll c.names = [] := by
      rw [List.removeAll, List.filter_eq_nil_iff]
      simp
    rw [names_merge h h, List.eraseDups_append, eraseDups_of_nodup h, hnone]
    exact List.append_nil _
  refine eq_of_find? ?_ hnames (h.merge h) fun name => ?_
  · rw [merge_unlisted, and_self]
  · rw [find?_merge c h, Option.or_self]

end Config

/-- Layers without repeated names come together to what is expected of them. On such
configurations merging is associative and idempotent, keeps names apart, and changes nothing where
one side is the empty configuration. -/
theorem layered_merge :
    (∀ layers : List Config, (∀ layer ∈ layers, layer.Distinct) →
      Config.Merged layers (Config.mergeAll layers) ∧ (Config.mergeAll layers).Distinct) ∧
    (∀ a b c : Config, a.Distinct → b.Distinct → c.Distinct →
      (a.merge b).merge c = a.merge (b.merge c)) ∧
    (∀ c : Config, Config.empty.merge c = c ∧ c.merge Config.empty = c) ∧
    (∀ c : Config, c.Distinct → c.merge c = c) ∧
    ∀ a b : Config, a.Distinct → b.Distinct → (a.merge b).Distinct :=
  ⟨fun _ h => ⟨Config.merged_mergeAll h, (Config.merged_mergeAll h).distinct⟩,
    fun _ _ _ => Config.merge_assoc,
    fun c => ⟨Config.empty_merge c, Config.merge_empty c⟩, fun _ => Config.merge_self,
    fun _ _ => Config.Distinct.merge⟩

theorem layered_merge_three :
    let a : Config := ⟨some [⟨"ping", "ping", none⟩, ⟨"say", "say <text:string>", none⟩]⟩
    let b : Config := ⟨none⟩
    let c : Config := ⟨some [⟨"quit", "quit", none⟩, ⟨"say", "say <text:word>", some "short"⟩]⟩
    (a.Distinct ∧ b.Distinct ∧ c.Distinct) ∧
      Config.mergeAll [a, b, c] =
        ⟨some [⟨"ping", "ping", none⟩, ⟨"say", "say <text:word>", some "short"⟩,
          ⟨"quit", "quit", none⟩]⟩ ∧
      Config.Merged [a, b, c] (Config.mergeAll [a, b, c]) ∧
      (a.merge b).merge c = a.merge (b.merge c) ∧ c.merge c = c ∧ (a.merge c).Distinct := by
  intro a b c
  have ha : a.Distinct := by decide
  have hb : b.Distinct := by decide
  have hc : c.Distinct := by decide
  have hlayers : ∀ layer ∈ [a, b, c], layer.Distinct := by decide
  exact ⟨⟨ha, hb, hc⟩, by decide, (layered_merge.1 _ hlayers).1, layered_merge.2.1 a b c ha hb hc,
    layered_merge.2.2.2.1 c hc, layered_merge.2.2.2.2 a c ha hc⟩

end CommandGrammar
