import Mathlib.Data.List.Basic
import Mathlib.Logic.Function.Basic

/-!
# KeyNetra.Lib.Grouping — rows grouped under keys

A dict of lists starts with an empty list for each key, and every row is appended to the list of
its key.

* `group` — the lists, by key;
* `group_apply` — the list of a key is the rows of the key, in their order.
-/

namespace Lib

variable {κ ν : Type} [DecidableEq κ]

/-- `grouped.setdefault(key, []).append(value)`. -/
def appendUnder (groups : κ → Option (List ν)) (row : κ × ν) : κ → Option (List ν) :=
  Function.update groups row.1 (some ((groups row.1).getD [] ++ [row.2]))

/-- The rows, each behind those of its key. -/
def group (keys : List κ) (rows : List (κ × ν)) : κ → Option (List ν) :=
  rows.foldl appendUnder fun key => if key ∈ keys then some [] else none

theorem foldl_appendUnder (rows : List (κ × ν)) (groups : κ → Option (List ν)) {key : κ}
    {values : List ν} (h : groups key = some values) :
    rows.foldl appendUnder groups key =
      some (values ++ (rows.filter fun row => row.1 = key).map Prod.snd) := by
  induction rows generalizing groups values with
  | nil => rw [List.foldl_nil, h, List.filter_nil, List.map_nil, List.append_nil]
  | cons row rows ih =>
      rw [List.foldl_cons]
      by_cases hkey : row.1 = key
      · have hnext : appendUnder groups row key = some (values ++ [row.2]) := by
          unfold appendUnder
          rw [hkey, Function.update_self, h, Option.getD_some]
        rw [ih _ hnext, List.filter_cons_of_pos (by simpa using hkey), List.map_cons,
          List.append_assoc, List.singleton_append]
      · have hnext : appendUnder groups row key = some values := by
          unfold appendUnder
          rw [Function.update_of_ne (Ne.symm hkey), h]
        rw [ih _ hnext, List.filter_cons_of_neg (by simpa using hkey)]

theorem foldl_appendUnder_ne (rows : List (κ × ν)) (groups : κ → Option (List ν)) {key : κ}
    (h : ∀ row ∈ rows, row.1 ≠ key) : rows.foldl appendUnder groups key = groups key := by
  induction rows generalizing groups with
  | nil => rfl
  | cons row rows ih =>
      rw [List.foldl_cons, ih _ fun r hr => h r (List.mem_cons_of_mem row hr)]
      exact Function.update_of_ne (h row List.mem_cons_self).symm ..

/-- Each key has its rows, and no other key has any. -/
theorem group_apply {keys : List κ} {rows : List (κ × ν)} (h : ∀ row ∈ rows, row.1 ∈ keys)
    (key : κ) : group keys rows key =
      if key ∈ keys then some ((rows.filter fun row => row.1 = key).map Prod.snd) else none := by
  unfold group
  split
  · rename_i hkey
    rw [foldl_appendUnder rows _ (if_pos hkey), List.nil_append]
  · rename_i hkey
    have hother : ∀ row ∈ rows, row.1 ≠ key := by
      intro row hrow heq
      exact hkey (heq ▸ h row hrow)
    rw [foldl_appendUnder_ne rows _ hother]
    exact if_neg hkey

end Lib
