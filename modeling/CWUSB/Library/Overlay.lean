import Mathlib.Data.List.Induction
import Mathlib.Logic.Function.Basic

/-!
# Stores which are written to

A store gives each key a value, and an entry written to it replaces the value
of its key.  After many entries a key has the value of its last entry, or the
one it had before.
-/

namespace Overlay

variable {κ : Type u} {ν : Type v} [DecidableEq κ]
  {entries first second : List (κ × ν)} {entry : κ × ν} {key : κ}

def write (store : κ → ν) (entry : κ × ν) : κ → ν :=
  Function.update store entry.1 entry.2

/-- What the last entry for the key says. -/
def last (entries : List (κ × ν)) (key : κ) : Option ν :=
  entries.reverse.lookup key

theorem last_append :
    last (first ++ second) key = (last second key).or (last first key) := by
  rw [last, List.reverse_append, List.lookup_append]
  rfl

theorem last_concat :
    last (entries ++ [entry]) key =
      if key = entry.1 then some entry.2 else last entries key := by
  obtain ⟨name, value⟩ := entry
  rw [last_append]
  by_cases same : key = name
  · simp [last, same]
  · have apart : (key == name) = false := by simpa using same
    simp [last, List.lookup_cons, apart, same]

/-- A key holds what the last entry for it says. -/
theorem foldl_write (entries : List (κ × ν)) (store : κ → ν) (key : κ) :
    entries.foldl write store key = (last entries key).getD (store key) := by
  induction entries using List.reverseRecOn with
  | nil => rfl
  | append_singleton entries entry induction =>
      rw [List.foldl_append, List.foldl_cons, List.foldl_nil, last_concat]
      by_cases same : key = entry.1
      · rw [if_pos same, same, write, Function.update_self]
        rfl
      · rw [if_neg same, ← induction, write, Function.update_of_ne same]

/-- Entries do not matter when later ones are about the same keys. -/
theorem foldl_write_absorbs (store : κ → ν)
    (covered : ∀ key, (last first key).isSome → (last second key).isSome) :
    second.foldl write (first.foldl write store) =
      second.foldl write store := by
  funext key
  rw [foldl_write, foldl_write, foldl_write]
  cases later : last second key with
  | some value => rfl
  | none =>
      cases earlier : last first key with
      | none => rfl
      | some value =>
          have found := covered key (by simp [earlier])
          simp [later] at found

/-- Every value comes from the store or from an entry. -/
theorem foldl_write_mem {property : ν → Prop} {store : κ → ν}
    (kept : ∀ key, property (store key))
    (written : ∀ entry ∈ entries, property entry.2) (key : κ) :
    property (entries.foldl write store key) := by
  rw [foldl_write]
  cases found : last entries key with
  | none => exact kept key
  | some value =>
      obtain ⟨before, after, split, _⟩ := List.lookup_eq_some_iff.mp found
      apply written (key, value)
      rw [← List.mem_reverse, split]
      simp

end Overlay
