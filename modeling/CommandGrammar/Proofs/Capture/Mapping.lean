import CommandGrammar.Capture.Params
import CommandGrammar.Proofs.Entries.Mapping
import CommandGrammar.Proofs.Json.Sameness

/-!
# Captured parameters as a finite map

Parameters that were inserted one after the other hold the last value of every name, and list and
serialize the names in the order in which they first came. Two of them are the same exactly if no
name tells them apart, though sameness only counts the entries and looks up those of one side. Of
the values nothing is asked but that their comparison is an equivalence.
-/

set_option autoImplicit false

namespace CommandGrammar

namespace Params

variable {V : Type}

theorem names_insert (p : Params V) (name : String) (value : V) :
    (p.insert name value).names = if name ∈ p.names then p.names else p.names ++ [name] :=
  Entries.keys_put name value p.entries

theorem ofPairs_concat (pairs : List (String × V)) (pair : String × V) :
    ofPairs (pairs ++ [pair]) = (ofPairs pairs).insert pair.1 pair.2 :=
  List.foldl_concat ..

theorem names_ofPairs (pairs : List (String × V)) :
    (ofPairs pairs).names = (pairs.map (·.1)).eraseDups := by
  induction pairs using List.reverseRecOn with
  | nil => rfl
  | append_singleton pairs pair ih =>
    have hnames : (pairs ++ [pair]).map (·.1) = pairs.map (·.1) ++ [pair.1] := List.map_append
    rw [ofPairs_concat, names_insert, ih, hnames, eraseDups_concat]
    simp only [List.mem_eraseDups]

theorem get?_ofPairs (pairs : List (String × V)) (name : String) :
    (ofPairs pairs).get? name = Entries.find? name pairs.reverse := by
  induction pairs using List.reverseRecOn with
  | nil => rfl
  | append_singleton pairs pair ih =>
    obtain ⟨key, value⟩ := pair
    rw [ofPairs_concat, get?_insert, ih, List.reverse_concat, Entries.find?]

theorem nodup_names_ofPairs (pairs : List (String × V)) : (ofPairs pairs).names.Nodup := by
  rw [names_ofPairs]
  exact nodup_eraseDups _

theorem size_eq (p : Params V) : p.size = p.names.length :=
  (List.length_map _).symm

variable [BEq V] [EquivBEq V]

theorem same_iff_agree {p q : Params V} (hp : p.names.Nodup) (hq : q.names.Nodup) :
    p.same q = true ↔ Entries.Agree (fun x y => (x == y) = true) p.entries q.entries := by
  have hfound (entry : String × V) : (q.get? entry.1 == some entry.2) = true ↔
      ∃ value, q.get? entry.1 = some value ∧ (entry.2 == value) = true := by
    cases hvalue : q.get? entry.1 with
    | none => simp
    | some value => simp [BEq.comm (a := value)]
  rw [Entries.agree_iff_found hp hq, same, Bool.and_eq_true, beq_iff_eq, List.all_eq_true]
  exact and_congr_right fun _ => forall₂_congr fun entry _ => hfound entry

theorem same_equivalence :
    Equivalence fun a b : List (String × V) => (ofPairs a).same (ofPairs b) = true := by
  have hagree (a b : List (String × V)) : (ofPairs a).same (ofPairs b) = true ↔
      Entries.Agree (fun x y => (x == y) = true) (ofPairs a).entries (ofPairs b).entries :=
    same_iff_agree (nodup_names_ofPairs a) (nodup_names_ofPairs b)
  constructor
  · intro a
    rw [hagree]
    exact Entries.Agree.refl (fun _ => BEq.refl _) _
  · intro a b
    rw [hagree, hagree]
    have hsymm (x y : V) (h : (x == y) = true) : (y == x) = true := BEq.symm h
    exact Entries.Agree.symm hsymm
  · intro a b c
    rw [hagree, hagree, hagree]
    have htrans (x y z : V) (h : (x == y) = true) (h' : (y == z) = true) : (x == z) = true :=
      BEq.trans h h'
    exact Entries.Agree.trans htrans

end Params

/-- Parameters that were inserted one after the other, or collected from pairs, are a finite map.
Every name stands once, where it first came, and holds the value that came last. A serializer is
handed these names with their values, in this order and no others. Sameness of such parameters is
an equivalence. Two of them are the same exactly if under every name they hold the same or nothing,
and exactly if the entries of one are those of the other in some order. -/
theorem params_finite_map {V : Type} [BEq V] [EquivBEq V] :
    (∀ pairs : List (String × V),
      let p := pairs.foldl (fun p pair => p.insert pair.1 pair.2) Params.empty
      let names := (pairs.map (·.1)).eraseDups
      Params.ofPairs pairs = p ∧ p.names.Nodup ∧ p.names = names ∧
        (∀ name, p.get? name = Entries.find? name pairs.reverse) ∧
        ∃ entries : Entries V, entries.keys = names ∧
          (∀ entry ∈ entries, Entries.find? entry.1 pairs.reverse = some entry.2) ∧
          ∀ {m : Type → Type} [Monad m] {M R : Type} (s : MapSerializer m V M R),
            p.serialize s = do
              let map ← s.start (some names.length)
              let map ← entries.foldlM (fun map entry => s.entry map entry.1 entry.2) map
              s.finish map) ∧
    (Equivalence fun a b : List (String × V) =>
      (Params.ofPairs a).same (Params.ofPairs b) = true) ∧
    ∀ a b : List (String × V),
      let p := Params.ofPairs a
      let q := Params.ofPairs b
      (p.same q = true ↔
        ∀ name, Option.Rel (fun x y => (x == y) = true) (p.get? name) (q.get? name)) ∧
      (p.same q = true ↔
        Entries.Rearranged (fun x y => (x == y) = true) p.entries q.entries) := by
  refine ⟨fun pairs => ?_, Params.same_equivalence, fun a b => ?_⟩
  · have hnodup := Params.nodup_names_ofPairs pairs
    have hnames := Params.names_ofPairs pairs
    have hget := Params.get?_ofPairs pairs
    refine ⟨rfl, hnodup, hnames, hget, (Params.ofPairs pairs).entries, hnames, ?_, ?_⟩
    · intro entry hentry
      rw [← hget]
      exact Entries.find?_of_mem hnodup hentry
    · intro m _ M R s
      rw [← hnames, ← Params.size_eq]
      rfl
  · have hp := Params.nodup_names_ofPairs a
    have hq := Params.nodup_names_ofPairs b
    refine ⟨Params.same_iff_agree hp hq, ?_⟩
    rw [Params.same_iff_agree hp hq]
    exact Entries.agree_iff_rearranged hp hq

theorem params_finite_map_json :
    let first : List (String × Json) :=
      [("n", .int 1), ("o", .obj [("x", .null), ("y", .bool true)]), ("n", .int 2)]
    let second : List (String × Json) :=
      [("o", .obj [("y", .bool true), ("x", .null)]), ("n", .int 2)]
    let p := Params.ofPairs first
    let q := Params.ofPairs second
    EquivBEq Json ∧ p.names = ["n", "o"] ∧ q.names = ["o", "n"] ∧ p.same q = true ∧
      q.same p = true ∧ p.get? "n" = some (.int 2) ∧
      (∀ name, Option.Rel (fun x y => (x == y) = true) (p.get? name) (q.get? name)) ∧
      Entries.Rearranged (fun x y => (x == y) = true) p.entries q.entries := by
  intro first second p q
  have hsame : p.same q = true := by decide +kernel
  have hmap := (params_finite_map (V := Json)).2
  have hpq := hmap.2 first second
  exact ⟨inferInstance, rfl, rfl, hsame, hmap.1.symm hsame, rfl, hpq.1.1 hsame, hpq.2.1 hsame⟩

end CommandGrammar
