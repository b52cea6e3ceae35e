import CommandGrammar.Entries
import CommandGrammar.Proofs.Entries.Names
import Mathlib.Data.List.Forall2
import Mathlib.Data.List.Perm.Subperm

/-!
# Entries as a finite map

Entries that were put down one after the other have every key once, in the order in which the keys
first came, with the value that came last. Such entries are compared by what is found under each
key. This is the same as comparing them one by one in some order, and as counting them and looking
up those of one side on the other.
-/

set_option autoImplicit false

namespace CommandGrammar.Entries

variable {α β : Type}

theorem find?_eq_none_iff (key : String) (entries : Entries α) :
    find? key entries = none ↔ key ∉ keys entries := by
  induction entries with
  | nil => simp [find?, keys]
  | cons entry rest ih =>
    obtain ⟨k, v⟩ := entry
    by_cases hk : k = key
    · simp [find?, keys, hk]
    · simpa [find?, keys, hk, Ne.symm hk] using ih

theorem filterMap_find? {entries : Entries α} (h : (keys entries).Nodup) :
    (keys entries).filterMap (fun key => (find? key entries).map (key, ·)) = entries := by
  rw [keys, List.filterMap_map]
  refine (List.filterMap_congr fun entry he => ?_).trans List.filterMap_some
  rw [Function.comp_apply, find?_of_mem h he]
  rfl

theorem find?_perm {xs ys : Entries α} (h : xs.Perm ys) (hx : (keys xs).Nodup) (key : String) :
    find? key xs = find? key ys := by
  have hkeys : (keys xs).Perm (keys ys) := h.map fun entry : String × α => entry.1
  cases hfind : find? key xs with
  | some v => exact (find?_of_mem (hkeys.nodup_iff.1 hx) (h.mem_iff.1 (mem_of_find? hfind))).symm
  | none =>
    rw [find?_eq_none_iff, hkeys.mem_iff] at hfind
    exact ((find?_eq_none_iff key ys).2 hfind).symm

/-- Under every key nothing stands on either side, or related values on both. -/
def Agree (R : α → β → Prop) (xs : Entries α) (ys : Entries β) : Prop :=
  ∀ key, Option.Rel R (find? key xs) (find? key ys)

/-- In another order the left entries have the keys of the right ones, and related values. -/
def Rearranged (R : α → β → Prop) (xs : Entries α) (ys : Entries β) : Prop :=
  ∃ zs, xs.Perm zs ∧ List.Forall₂ (fun z y => z.1 = y.1 ∧ R z.2 y.2) zs ys

section Rel

variable {R : α → β → Prop} {a : Option α} {b : Option β}

theorem rel_none_iff (h : Option.Rel R a b) : a = none ↔ b = none := by
  cases h <;> simp

theorem rel_some {v : α} (h : Option.Rel R (some v) b) : ∃ w, b = some w ∧ R v w := by
  cases h with
  | some hvw => exact ⟨_, rfl, hvw⟩

theorem rel_keyed (h : Option.Rel R a b) (key : String) :
    Option.Rel (fun x y => x.1 = y.1 ∧ R x.2 y.2) (a.map (key, ·)) (b.map (key, ·)) := by
  cases h with
  | some hvw => exact .some ⟨rfl, hvw⟩
  | none => exact .none

variable {R : α → α → Prop}

theorem rel_symm (hR : ∀ v w, R v w → R w v) {a b : Option α} (h : Option.Rel R a b) :
    Option.Rel R b a := by
  cases h with
  | some hvw => exact .some (hR _ _ hvw)
  | none => exact .none

theorem rel_trans (hR : ∀ u v w, R u v → R v w → R u w) {a b c : Option α}
    (h : Option.Rel R a b) (h' : Option.Rel R b c) : Option.Rel R a c := by
  cases h with
  | some huv =>
    obtain ⟨w, rfl, hvw⟩ := rel_some h'
    exact .some (hR _ _ _ huv hvw)
  | none => exact h'

end Rel

namespace Agree

variable {R : α → α → Prop}

theorem refl (hR : ∀ v, R v v) (xs : Entries α) : Agree R xs xs := by
  intro key
  cases find? key xs with
  | some v => exact .some (hR v)
  | none => exact .none

theorem symm (hR : ∀ v w, R v w → R w v) {xs ys : Entries α} (h : Agree R xs ys) :
    Agree R ys xs :=
  fun key => rel_symm hR (h key)

theorem trans (hR : ∀ u v w, R u v → R v w → R u w) {xs ys zs : Entries α}
    (h : Agree R xs ys) (h' : Agree R ys zs) : Agree R xs zs :=
  fun key => rel_trans hR (h key) (h' key)

end Agree

variable {R : α → β → Prop} {xs : Entries α} {ys : Entries β}

theorem Agree.mem_keys_iff (h : Agree R xs ys) (key : String) :
    key ∈ keys xs ↔ key ∈ keys ys := by
  rw [← not_iff_not, ← find?_eq_none_iff, ← find?_eq_none_iff]
  exact rel_none_iff (h key)

theorem Agree.keys_perm (h : Agree R xs ys) (hx : (keys xs).Nodup) (hy : (keys ys).Nodup) :
    (keys xs).Perm (keys ys) :=
  (List.perm_ext_iff_of_nodup hx hy).2 h.mem_keys_iff

theorem agree_of_forall₂ (h : List.Forall₂ (fun x y => x.1 = y.1 ∧ R x.2 y.2) xs ys) :
    Agree R xs ys := by
  intro key
  induction h with
  | nil => exact .none
  | @cons x y _ _ hxy _ ih =>
    obtain ⟨k, v⟩ := x
    obtain ⟨k', w⟩ := y
    obtain ⟨rfl, hvw⟩ : k = k' ∧ R v w := hxy
    simp only [find?]
    split
    · exact .some hvw
    · exact ih

theorem Agree.forall₂_filterMap (h : Agree R xs ys) (names : List String) :
    List.Forall₂ (fun x y => x.1 = y.1 ∧ R x.2 y.2)
      (names.filterMap fun key => (find? key xs).map (key, ·))
      (names.filterMap fun key => (find? key ys).map (key, ·)) := by
  have hsame : List.Forall₂ Eq names names := List.forall₂_same.2 fun _ _ => rfl
  refine List.rel_filterMap ?_ hsame
  rintro key _ rfl
  exact rel_keyed (h key) key

theorem agree_iff_rearranged (hx : (keys xs).Nodup) (hy : (keys ys).Nodup) :
    Agree R xs ys ↔ Rearranged R xs ys := by
  constructor
  · intro h
    have hperm := (h.keys_perm hx hy).filterMap fun key => (find? key xs).map (key, ·)
    have hlists := h.forall₂_filterMap (keys ys)
    rw [filterMap_find? hx] at hperm
    rw [filterMap_find? hy] at hlists
    exact ⟨_, hperm, hlists⟩
  · rintro ⟨zs, hperm, hzs⟩ key
    rw [find?_perm hperm hx]
    exact agree_of_forall₂ hzs key

theorem agree_iff_found (hx : (keys xs).Nodup) (hy : (keys ys).Nodup) :
    Agree R xs ys ↔
      xs.length = ys.length ∧ ∀ x ∈ xs, ∃ v, find? x.1 ys = some v ∧ R x.2 v := by
  constructor
  · intro h
    refine ⟨by simpa [keys] using (h.keys_perm hx hy).length_eq, fun x hmem => ?_⟩
    have hkey := h x.1
    rw [find?_of_mem hx hmem] at hkey
    exact rel_some hkey
  · rintro ⟨hlength, hfound⟩ key
    cases hfind : find? key xs with
    | some v =>
      obtain ⟨w, hw, hvw⟩ := hfound _ (mem_of_find? hfind)
      rw [hw]
      exact .some hvw
    | none =>
      -- The left keys are all among the right ones, and as many.
      have hsubset : keys xs ⊆ keys ys := by
        intro k hk
        obtain ⟨x, hmem, rfl⟩ := List.mem_map.1 hk
        obtain ⟨v, hv, -⟩ := hfound x hmem
        exact List.mem_map.2 ⟨_, mem_of_find? hv, rfl⟩
      have hperm : (keys xs).Perm (keys ys) :=
        (List.subperm_of_subset hx hsubset).perm_of_length_le (by simp [keys, hlength])
      rw [find?_eq_none_iff, hperm.mem_iff, ← find?_eq_none_iff] at hfind
      rw [hfind]
      exact .none

end CommandGrammar.Entries
