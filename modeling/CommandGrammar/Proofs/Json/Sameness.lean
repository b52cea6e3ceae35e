import CommandGrammar.Json.Value
import Mathlib.Data.List.Forall2

/-!
# Sameness of JSON values

Two objects are the same if every key has the same values on both sides, in their order under this
key. With this sameness is an equivalence, whatever objects the values hold, those with repeated keys
among them.
-/

set_option autoImplicit false

namespace CommandGrammar.Json

theorem forall₂_swap {α : Type} {R : α → α → Prop} {xs ys : List α} (h : List.Forall₂ R xs ys)
    (hR : ∀ x ∈ xs, ∀ y, R x y → R y x) : List.Forall₂ R ys xs := by
  have hboth := (List.forall₂_and_left xs ys).2 ⟨hR, h⟩
  exact (hboth.imp fun x y hxy => hxy.1 y hxy.2).flip

theorem forall₂_trans {α : Type} {R : α → α → Prop} {xs ys zs : List α}
    (h : List.Forall₂ R xs ys) (h' : List.Forall₂ R ys zs)
    (hR : ∀ x ∈ xs, ∀ y z, R x y → R y z → R x z) : List.Forall₂ R xs zs := by
  induction h generalizing zs with
  | nil => exact h'
  | cons hxy _ ih =>
    cases h' with
    | cons hyz hrest =>
      rw [List.forall_mem_cons] at hR
      exact .cons (hR.1 _ _ hxy hyz) (ih hrest hR.2)

/-- A property holds of all values if it goes over from the parts of a value to the value. -/
theorem forall_of_parts {P : Json → Prop} (null : P .null) (bool : ∀ b, P (.bool b))
    (int : ∀ n, P (.int n)) (str : ∀ s, P (.str s))
    (arr : ∀ items, (∀ v ∈ items, P v) → P (.arr items))
    (obj : ∀ entries, (∀ e ∈ entries, P e.2) → P (.obj entries)) (v : Json) : P v :=
  @Json.rec P (fun items => ∀ v ∈ items, P v) (fun entries => ∀ e ∈ entries, P e.2)
    (fun e => P e.2) null bool int str arr obj
    nofun (fun _ _ hv hrest => List.forall_mem_cons.2 ⟨hv, hrest⟩)
    nofun (fun _ _ he hrest => List.forall_mem_cons.2 ⟨he, hrest⟩) (fun _ _ hv => hv) v

theorem sameItems_iff {xs ys : List Json} :
    sameItems xs ys = true ↔ List.Forall₂ (fun x y => same x y = true) xs ys := by
  induction xs generalizing ys with
  | nil => cases ys <;> simp [sameItems]
  | cons x xs ih => cases ys <;> simp [sameItems, ih]

def under (key : String) (entries : List (String × Json)) : List Json :=
  (entries.filter (·.1 = key)).map (·.2)

theorem under_cons (key k : String) (v : Json) (entries : List (String × Json)) :
    under key ((k, v) :: entries) = if k = key then v :: under key entries else under key entries := by
  by_cases h : k = key <;> simp [under, h]

theorem exists_of_mem_under {key : String} {v : Json} {entries : List (String × Json)}
    (h : v ∈ under key entries) : ∃ e ∈ entries, e.2 = v := by
  obtain ⟨e, he, rfl⟩ := List.mem_map.1 h
  exact ⟨e, (List.mem_filter.1 he).1, rfl⟩

theorem under_of_pluck_none {key : String} {entries : List (String × Json)}
    (h : pluck key entries = none) : under key entries = [] := by
  induction entries with
  | nil => rfl
  | cons e rest ih =>
    obtain ⟨k, v⟩ := e
    rw [pluck] at h
    split at h
    · cases h
    · rw [under_cons, if_neg ‹_›]
      exact ih (Option.map_eq_none_iff.1 h)

theorem under_of_pluck_some {key : String} {v : Json} {entries rest : List (String × Json)}
    (h : pluck key entries = some (v, rest)) (other : String) :
    under other entries = if key = other then v :: under other rest else under other rest := by
  induction entries generalizing rest with
  | nil => cases h
  | cons e entries ih =>
    obtain ⟨k, w⟩ := e
    rw [pluck] at h
    split at h
    · rename_i hk
      cases h
      rw [under_cons, hk]
    · rename_i hk
      obtain ⟨⟨found, left⟩, hfound, heq⟩ := Option.map_eq_some_iff.1 h
      cases heq
      rw [under_cons, under_cons, ih hfound]
      by_cases ho : k = other
      · subst ho
        simp [Ne.symm hk]
      · simp [ho]

theorem sameEntries_iff {xs ys : List (String × Json)} :
    sameEntries xs ys = true ↔
      ∀ key, List.Forall₂ (fun x y => same x y = true) (under key xs) (under key ys) := by
  simp only [← sameItems_iff]
  induction xs generalizing ys with
  | nil =>
    cases ys with
    | nil => simp [sameEntries, under, sameItems]
    | cons e rest =>
      obtain ⟨k, v⟩ := e
      have hsome : under k ((k, v) :: rest) = v :: under k rest := by rw [under_cons, if_pos rfl]
      refine iff_of_false (by simp [sameEntries]) fun h => ?_
      have hk := h k
      rw [hsome] at hk
      simp [under, sameItems] at hk
  | cons e xs ih =>
    obtain ⟨k, x⟩ := e
    rw [sameEntries]
    cases hp : pluck k ys with
    | none =>
      refine iff_of_false (by simp) fun h => ?_
      have hk := h k
      rw [under_of_pluck_none hp, under_cons, if_pos rfl] at hk
      simp [sameItems] at hk
    | some found =>
      obtain ⟨y, rest⟩ := found
      have hunder := under_of_pluck_some hp
      rw [Bool.and_eq_true, ih]
      constructor
      · rintro ⟨hxy, hrest⟩ key
        rw [under_cons, hunder]
        by_cases hk : k = key
        · simp only [if_pos hk, sameItems, hxy, hrest key, Bool.and_self]
        · simp only [if_neg hk, hrest key]
      · intro h
        have hk := h k
        rw [under_cons, hunder, if_pos rfl, if_pos rfl, sameItems, Bool.and_eq_true] at hk
        refine ⟨hk.1, fun key => ?_⟩
        have hkey := h key
        rw [under_cons, hunder] at hkey
        by_cases he : k = key
        · subst he
          exact hk.2
        · rwa [if_neg he, if_neg he] at hkey

theorem same_refl (v : Json) : same v v = true := by
  induction v using forall_of_parts with
  | null => rfl
  | bool | int | str => simp [same]
  | arr items ih =>
    rw [same, sameItems_iff, List.forall₂_same]
    exact ih
  | obj entries ih =>
    rw [same, sameEntries_iff]
    intro key
    rw [List.forall₂_same]
    intro v hv
    obtain ⟨e, he, rfl⟩ := exists_of_mem_under hv
    exact ih e he

theorem same_symm {x y : Json} (h : same x y = true) : same y x = true := by
  induction x using forall_of_parts generalizing y with
  | null | bool | int | str => cases y <;> simp_all [same]
  | arr items ih =>
    cases y with
    | arr others =>
      rw [same, sameItems_iff] at h ⊢
      exact forall₂_swap h fun v hv _ => ih v hv
    | null | bool | int | str | obj => simp [same] at h
  | obj entries ih =>
    cases y with
    | obj others =>
      rw [same, sameEntries_iff] at h ⊢
      intro key
      refine forall₂_swap (h key) fun v hv _ => ?_
      obtain ⟨e, he, rfl⟩ := exists_of_mem_under hv
      exact ih e he
    | null | bool | int | str | arr => simp [same] at h

theorem same_trans {x y z : Json} (h : same x y = true) (h' : same y z = true) :
    same x z = true := by
  induction x using forall_of_parts generalizing y z with
  | null | bool | int | str => cases y <;> cases z <;> simp_all [same]
  | arr items ih =>
    cases y with
    | arr others =>
      cases z with
      | arr lasts =>
        rw [same, sameItems_iff] at h h' ⊢
        exact forall₂_trans h h' fun v hv _ _ => ih v hv
      | null | bool | int | str | obj => simp [same] at h'
    | null | bool | int | str | obj => simp [same] at h
  | obj entries ih =>
    cases y with
    | obj others =>
      cases z with
      | obj lasts =>
        rw [same, sameEntries_iff] at h h' ⊢
        intro key
        refine forall₂_trans (h key) (h' key) fun v hv _ _ => ?_
        obtain ⟨e, he, rfl⟩ := exists_of_mem_under hv
        exact ih e he
      | null | bool | int | str | arr => simp [same] at h'
    | null | bool | int | str | arr => simp [same] at h

instance : EquivBEq Json where
  rfl := same_refl _
  symm := same_symm
  trans := same_trans

end CommandGrammar.Json
