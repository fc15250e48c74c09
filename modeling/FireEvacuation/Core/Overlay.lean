import Mathlib.Data.Finset.Insert

/-!
# One finite map written over another

The finite maps are those of the standard library which are determined by their
entries (`Std.ExtTreeMap`), so two of them are equal as soon as they look up
alike.  `overlay base top` is the map after every entry of `top` was written
into `base`.  It is the merging write of a key-value store.
-/

namespace FireEvacuation
namespace Core

open Std

section Overlay

variable {κ ν : Type} {cmp : κ → κ → Ordering} [TransCmp cmp]

/-- `base` after every entry of `top` was written into it. -/
def overlay (base top : ExtTreeMap κ ν cmp) : ExtTreeMap κ ν cmp :=
  base.insertMany top.toList

variable [LawfulEqCmp cmp]

/-- The defining property: the value of a key is the one in `top`, or the old one. -/
theorem getElem?_overlay [BEq κ] [LawfulBEq κ] (base top : ExtTreeMap κ ν cmp) (k : κ) :
    (overlay base top)[k]? = top[k]?.or base[k]? := by
  change (base.insertMany top.toList)[k]? = _
  cases htop : top[k]? with
  | none =>
      have hnot : (top.toList.map Prod.fst).contains k = false := by
        rw [List.contains_eq_mem, decide_eq_false_iff_not, List.mem_map]
        rintro ⟨⟨k', v⟩, hmem, heq⟩
        have hsome := ExtTreeMap.mem_toList_iff_getElem?_eq_some.mp hmem
        dsimp only at heq
        rw [heq, htop] at hsome
        cases hsome
      rw [ExtTreeMap.getElem?_insertMany_list_of_contains_eq_false hnot, Option.none_or]
  | some v =>
      have hmem : (k, v) ∈ top.toList :=
        ExtTreeMap.mem_toList_iff_getElem?_eq_some.mpr htop
      rw [ExtTreeMap.getElem?_insertMany_list_of_mem (ReflCmp.compare_self)
        ExtTreeMap.distinct_keys_toList hmem, Option.some_or]

/-- Nothing is left of `base` when `top` has all its keys. -/
theorem overlay_eq_top [BEq κ] [LawfulBEq κ] {base top : ExtTreeMap κ ν cmp}
    (h : ∀ k : κ, top[k]? = none → base[k]? = none) : overlay base top = top := by
  apply ExtTreeMap.ext_getElem?
  intro k
  rw [getElem?_overlay]
  cases htop : top[k]? with
  | none => rw [h k htop, Option.none_or]
  | some v => rw [Option.some_or]

theorem overlay_empty_left [BEq κ] [LawfulBEq κ] (top : ExtTreeMap κ ν cmp) :
    overlay ∅ top = top :=
  overlay_eq_top fun _ _ => ExtTreeMap.getElem?_empty

end Overlay

end Core
end FireEvacuation
