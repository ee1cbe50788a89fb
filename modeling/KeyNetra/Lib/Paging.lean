import Mathlib.Data.List.Basic
import Mathlib.Order.Lattice

/-!
# KeyNetra.Lib.Paging — pages behind a key

A listing of rows in strictly increasing order of a key: a page begins behind the row that its
cursor tells of, one row more than the limit is fetched to see whether there is a next page, and the
cursor of the next page tells of the last row.

* `page` — one page;
* `follow` — what a client collects that follows the cursors;
* `Serves` — a listing that answers with the pages, for cursors in a code;
* `follow_serves` — the client collects every row once, in order, and comes to an end.
-/

namespace Lib.Paging

variable {α ι γ κ ε : Type}

/-! ## The client -/

/-- What a client collects that follows the cursors, asking for pages of the given limits: `none`
while a cursor is left, or when a page fails. -/
def follow (list : Nat → Option γ → Except ε (List ι × Option γ)) :
    List Nat → Option γ → Option (List ι)
  | [], _ => none
  | limit :: limits, cursor =>
      match list limit cursor with
      | .ok (items, none) => some items
      | .ok (items, some next) => (follow list limits (some next)).map (items ++ ·)
      | .error _ => none

/-! ## The pages -/

section Pages

variable [LinearOrder κ] (key : α → κ)

/-- The rows behind the one of a cursor. -/
def behind (rows : List α) : Option α → List α
  | none => rows
  | some last => rows.filter fun a => key last < key a

/-- The rows of a page, and the one for the next cursor. -/
def page (rows : List α) (limit : Nat) (cursor : Option α) : List α × Option α :=
  let fetched := (behind key rows cursor).take (limit + 1)
  let items := fetched.take limit
  (items, if limit < fetched.length then items.getLast? else none)

/-- The listing answers with the pages of the rows, for the limits it admits and the cursors of
rows. -/
def Serves (list : Nat → Option γ → Except ε (List ι × Option γ)) (rows : List α) (item : α → ι)
    (encode : α → γ) (admits : Nat → Prop) : Prop :=
  ∀ limit cursor, admits limit → (∀ last ∈ cursor, last ∈ rows) →
    list limit (cursor.map encode) =
      .ok ((page key rows limit cursor).1.map item, (page key rows limit cursor).2.map encode)

variable {key}

/-- The rows behind the last one seen are the others. -/
theorem behind_last {seen rest : List α} {last : α}
    (hsorted : (seen ++ last :: rest).Pairwise fun a b => key a < key b) :
    behind key (seen ++ last :: rest) (some last) = rest := by
  obtain ⟨_, hrest, hseen⟩ := List.pairwise_append.mp hsorted
  have hlast : ∀ a ∈ rest, key last < key a := (List.pairwise_cons.mp hrest).1
  unfold behind
  dsimp only
  rw [List.filter_append, List.filter_cons]
  have hbefore : seen.filter (fun a => decide (key last < key a)) = [] := by
    rw [List.filter_eq_nil_iff]
    intro a ha hlt
    exact lt_asymm (hseen a ha last List.mem_cons_self) (of_decide_eq_true hlt)
  have hafter : rest.filter (fun a => decide (key last < key a)) = rest := by
    rw [List.filter_eq_self]
    intro a ha
    exact decide_eq_true (hlast a ha)
  rw [hbefore, hafter, if_neg (by simp)]
  rfl

/-- The last page. -/
theorem page_last {rows : List α} {limit : Nat} {cursor : Option α}
    (h : (behind key rows cursor).length ≤ limit) :
    page key rows limit cursor = (behind key rows cursor, none) := by
  unfold page
  dsimp only
  rw [List.take_of_length_le (Nat.le_succ_of_le h), List.take_of_length_le h,
    if_neg (Nat.not_lt.mpr h)]

/-- A page with a next one: the rows up to the limit, and the last of them. -/
theorem page_next {rows seen : List α} {last : α} {rest : List α} {limit : Nat} {cursor : Option α}
    (hlimit : limit = seen.length + 1) (hrest : rest ≠ [])
    (h : behind key rows cursor = seen ++ last :: rest) :
    page key rows limit cursor = (seen ++ [last], some last) := by
  have hpos := List.length_pos_of_ne_nil hrest
  have hlength : limit < ((seen ++ last :: rest).take (limit + 1)).length := by
    rw [List.length_take, List.length_append, List.length_cons]
    omega
  have hitems : ((seen ++ last :: rest).take (limit + 1)).take limit = seen ++ [last] := by
    rw [List.take_take, Nat.min_eq_left (Nat.le_succ limit), hlimit, List.take_append,
      List.take_of_length_le (Nat.le_succ _), Nat.add_sub_cancel_left]
    rfl
  unfold page
  dsimp only
  rw [h, hitems, if_pos hlength, List.getLast?_concat]

/-- A list with more than so many elements, split at the last of them. -/
theorem split_at {l : List α} {n : Nat} (hpos : 0 < n) (h : n < l.length) :
    ∃ seen last rest, l = seen ++ last :: rest ∧ n = seen.length + 1 ∧ rest ≠ [] := by
  have htake := List.take_append_drop (n - 1) l
  cases hdrop : l.drop (n - 1) with
  | nil =>
      have hlength := congrArg List.length hdrop
      rw [List.length_drop, List.length_nil] at hlength
      omega
  | cons last rest =>
      have hlength := congrArg List.length hdrop
      rw [List.length_drop, List.length_cons] at hlength
      rw [hdrop] at htake
      refine ⟨_, last, rest, htake.symm, ?_, ?_⟩
      · rw [List.length_take]
        omega
      · intro hnil
        rw [hnil, List.length_nil] at hlength
        omega

/-! ## Following the cursors -/

/-- A client that has come to a cursor collects the rows behind it. -/
theorem follow_behind {list : Nat → Option γ → Except ε (List ι × Option γ)} {rows : List α}
    {item : α → ι} {encode : α → γ} {admits : Nat → Prop}
    (hserves : Serves key list rows item encode admits)
    (hsorted : rows.Pairwise fun a b => key a < key b) (hpos : ∀ limit, admits limit → 0 < limit)
    (limits : Nat → Nat) (hlimits : ∀ i, admits (limits i)) (cursor : Option α)
    (hcursor : ∀ last ∈ cursor, last ∈ rows) (todo : Nat)
    (htodo : (behind key rows cursor).length ≤ todo) (hsuffix : behind key rows cursor <:+ rows) :
    ∃ pages, follow list ((List.range pages).map limits) (cursor.map encode) =
      some ((behind key rows cursor).map item) := by
  induction todo using Nat.strongRecOn generalizing limits cursor with
  | ind todo ih =>
      have hpage := hserves (limits 0) cursor (hlimits 0) hcursor
      by_cases hlast : (behind key rows cursor).length ≤ limits 0
      · refine ⟨1, ?_⟩
        rw [page_last hlast] at hpage
        show follow list [limits 0] _ = _
        rw [follow, hpage]
        rfl
      · -- the page ends before the rows do: its last row is the cursor of the rest
        have hlimit := hpos _ (hlimits 0)
        obtain ⟨seen, last, rest, hsplit, hseen, hrest⟩ :
            ∃ seen last rest, behind key rows cursor = seen ++ last :: rest ∧
              limits 0 = seen.length + 1 ∧ rest ≠ [] :=
          split_at hlimit (Nat.lt_of_not_le hlast)
        obtain ⟨before, hbefore⟩ := hsuffix
        have hrows : rows = (before ++ seen) ++ last :: rest := by
          rw [← hbefore, hsplit, List.append_assoc]
        have hbehind : behind key rows (some last) = rest := by
          rw [hrows]
          rw [hrows] at hsorted
          exact behind_last hsorted
        have hfewer : rest.length < todo := by
          rw [hsplit, List.length_append, List.length_cons] at htodo
          omega
        obtain ⟨pages, hpages⟩ := ih rest.length hfewer (fun i => limits (i + 1))
          (fun i => hlimits (i + 1)) (some last)
          (by
            intro _ hk
            cases hk
            rw [hrows]
            simp)
          (Nat.le_of_eq (congrArg List.length hbehind))
          (by rw [hbehind, hrows]; exact ⟨before ++ seen ++ [last], by simp⟩)
        refine ⟨pages + 1, ?_⟩
        rw [page_next hseen hrest hsplit] at hpage
        rw [List.range_succ_eq_map, List.map_cons, List.map_map, follow, hpage]
        show (follow list ((List.range pages).map fun i => limits (i + 1))
          ((some last).map encode)).map _ = _
        rw [hpages, hbehind, hsplit]
        simp

/-- A client that follows the cursors from the first page collects every row once, in order, and
comes to an end. -/
theorem follow_serves {list : Nat → Option γ → Except ε (List ι × Option γ)} {rows : List α}
    {item : α → ι} {encode : α → γ} {admits : Nat → Prop}
    (hserves : Serves key list rows item encode admits)
    (hsorted : rows.Pairwise fun a b => key a < key b) (hpos : ∀ limit, admits limit → 0 < limit)
    {limits : Nat → Nat} (hlimits : ∀ i, admits (limits i)) :
    ∃ pages, follow list ((List.range pages).map limits) none = some (rows.map item) :=
  follow_behind hserves hsorted hpos limits hlimits none (fun _ hlast => by cases hlast) rows.length
    (Nat.le_refl _) (List.suffix_refl rows)

end Pages

end Lib.Paging
