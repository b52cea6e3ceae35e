import Mathlib.Data.List.Induction

/-!
# Names in the order in which they first come

Dropping every repetition leaves each name once, where it came up first. A name that is added at the
end changes this list only if it is new.
-/

set_option autoImplicit false

namespace CommandGrammar

theorem eraseDups_concat (names : List String) (name : String) :
    (names ++ [name]).eraseDups =
      if name ∈ names then names.eraseDups else names.eraseDups ++ [name] := by
  rw [List.eraseDups_append]
  by_cases h : name ∈ names
  · simp [List.removeAll, h]
  · have hkept : [name].removeAll names = [name] := by simp [List.removeAll, h]
    rw [hkept, if_neg h]
    rfl

theorem nodup_eraseDups (names : List String) : names.eraseDups.Nodup := by
  induction names using List.reverseRecOn with
  | nil => exact List.nodup_nil
  | append_singleton names name ih =>
    rw [eraseDups_concat]
    split
    case isTrue => exact ih
    case isFalse h =>
      have hne : ∀ other ∈ names.eraseDups, other ≠ name := by
        rintro other hm rfl
        exact h (List.mem_eraseDups.1 hm)
      simpa [List.nodup_append, ih] using hne

theorem eraseDups_of_nodup {names : List String} (h : names.Nodup) : names.eraseDups = names := by
  induction names using List.reverseRecOn with
  | nil => rfl
  | append_singleton names name ih =>
    obtain ⟨hnames, -, hne⟩ := List.nodup_append.1 h
    have hm : name ∉ names := fun hm => hne name hm name (List.mem_singleton.2 rfl) rfl
    rw [eraseDups_concat, if_neg hm, ih hnames]

theorem eraseDups_parts (first second : List String) :
    (first.eraseDups ++ second.eraseDups).eraseDups = (first ++ second).eraseDups := by
  induction second using List.reverseRecOn with
  | nil => simpa using eraseDups_of_nodup (nodup_eraseDups first)
  | append_singleton second name ih =>
    rw [← List.append_assoc, eraseDups_concat, eraseDups_concat, ← ih]
    by_cases hs : name ∈ second
    · simp [hs]
    · rw [if_neg hs, ← List.append_assoc, eraseDups_concat]
      simp

end CommandGrammar
