import Mathlib.Data.List.Nodup

/-!
# Looking up by key

Options, fields and the like are looked up by a key that no two of them share. What is found does
not depend on their order then.
-/

namespace SoakRig

variable {α κ : Type} [DecidableEq κ] {xs ys : List α}

/-- Where no key occurs twice, an element is found under its key, and under no other one. -/
lemma find?_key_eq_some_iff (key : α → κ) (unique : (xs.map key).Nodup) {k : κ} {x : α} :
    xs.find? (key · = k) = some x ↔ x ∈ xs ∧ key x = k := by
  constructor
  · intro found
    exact ⟨List.mem_of_find?_eq_some found, by simpa using List.find?_some found⟩
  · rintro ⟨mem, rfl⟩
    have some_found : (xs.find? (key · = key x)).isSome :=
      List.find?_isSome.2 ⟨x, mem, decide_eq_true rfl⟩
    obtain ⟨y, found⟩ := Option.isSome_iff_exists.1 some_found
    have same : key y = key x := by simpa using List.find?_some found
    rw [found, List.inj_on_of_nodup_map unique (List.mem_of_find?_eq_some found) mem same]

/-- Where no key occurs twice, the order makes no difference. -/
lemma find?_key_of_perm (key : α → κ) (unique : (xs.map key).Nodup) (perm : xs.Perm ys) (k : κ) :
    xs.find? (key · = k) = ys.find? (key · = k) := by
  have too : (ys.map key).Nodup := (perm.map key).nodup_iff.1 unique
  apply Option.ext
  intro x
  rw [find?_key_eq_some_iff key unique, find?_key_eq_some_iff key too, perm.mem_iff]

end SoakRig
