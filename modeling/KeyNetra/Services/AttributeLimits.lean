import KeyNetra.Services.Authorization

/-!
# KeyNetra.Services.AttributeLimits — limits of a user or a resource

`validate_user` and `validate_resource` bound the objects of a value: how many keys each has, how
many elements a list has, and how deep objects are nested. They go down into the members of objects
and not into the elements of lists.

* `Inside` — the values inside a value, through objects and lists; `Reached`, through objects only;
* `validateDict_limits` — what is reached is within the limits;
* `limits_hold_iff` — so an accepted value is within them everywhere iff what its lists hold is.
-/

namespace KeyNetra

/-! ## Positions in a value -/

/-- A value inside another one, below so many objects. -/
inductive Inside : Value → Nat → Value → Prop
  | here (v : Value) : Inside v 0 v
  | member {items : Dict} {key : String} {w v : Value} {depth : Nat} (hmem : (key, w) ∈ items)
      (h : Inside w depth v) : Inside (.dict items) (depth + 1) v
  | element {xs : List Value} {x v : Value} {depth : Nat} (hmem : x ∈ xs) (h : Inside x depth v) :
      Inside (.list xs) depth v

/-- The same, through objects only. -/
inductive Reached : Value → Nat → Value → Prop
  | here (v : Value) : Reached v 0 v
  | member {items : Dict} {key : String} {w v : Value} {depth : Nat} (hmem : (key, w) ∈ items)
      (h : Reached w depth v) : Reached (.dict items) (depth + 1) v

/-- What is inside a value is reached through objects, or is inside an element of a list that is. -/
theorem inside_iff {root v : Value} {depth : Nat} :
    Inside root depth v ↔
      Reached root depth v ∨
        ∃ above below xs x, depth = above + below ∧ Reached root above (.list xs) ∧ x ∈ xs ∧
          Inside x below v := by
  constructor
  · intro hinside
    induction hinside with
    | here v => exact .inl (.here v)
    | member hmem _ ih =>
        rcases ih with hreached | ⟨above, below, xs, x, rfl, hreached, hx, hv⟩
        · exact .inl (.member hmem hreached)
        · exact .inr ⟨above + 1, below, xs, x, by omega, .member hmem hreached, hx, hv⟩
    | element hmem hv _ => exact .inr ⟨0, _, _, _, (Nat.zero_add _).symm, .here _, hmem, hv⟩
  · rintro (hreached | ⟨above, below, xs, x, rfl, hreached, hx, hv⟩)
    · induction hreached with
      | here v => exact .here v
      | member hmem _ ih => exact .member hmem ih
    · -- down to the list, and then into its element
      generalize hlist : Value.list xs = list at hreached
      induction hreached with
      | here _ =>
          subst hlist
          rw [Nat.zero_add]
          exact .element hx hv
      | member hmem _ ih =>
          rw [Nat.add_right_comm]
          exact .member hmem (ih hlist)

/-! ## Limits -/

/-- What the validator asks of a value below so many objects. -/
def WithinLimits (maxKeys maxDepth depth : Nat) : Value → Prop
  | .dict items => items.length ≤ maxKeys ∧ depth ≤ maxDepth
  | .list xs => xs.length ≤ maxKeys
  | _ => True

/-- Every value inside is within the limits. -/
def LimitsHold (maxKeys maxDepth : Nat) (root : Value) : Prop :=
  ∀ depth v, Inside root depth v → WithinLimits maxKeys maxDepth depth v

/-- Every value inside an element of a list that objects lead to is within the limits. -/
def ListsWithinLimits (maxKeys maxDepth : Nat) (root : Value) : Prop :=
  ∀ above xs, Reached root above (.list xs) → ∀ x ∈ xs, ∀ below v, Inside x below v →
    WithinLimits maxKeys maxDepth (above + below) v

/-- The checks of `_validate_dict` on one object. -/
theorem validateDict_ok {name : String} {maxKeys levels : Nat} {obj : Dict}
    (h : validateDict name maxKeys (levels + 1) obj = .ok ()) :
    obj.length ≤ maxKeys ∧ ∀ key v, (key, v) ∈ obj →
      (∀ inner, v = .dict inner → validateDict name maxKeys levels inner = .ok ()) ∧
      (∀ xs, v = .list xs → xs.length ≤ maxKeys) := by
  rw [validateDict] at h
  by_cases hlarge : maxKeys < obj.length
  · -- too many keys
    rw [if_pos hlarge] at h
    cases h
  · rw [if_neg hlarge] at h
    refine ⟨not_lt.mp hlarge, ?_⟩
    intro key v hmem
    have hcheck := Lib.forM_eq_ok_iff.mp h (key, v) hmem
    constructor
    · -- an object inside is checked in turn, a list inside by its length
      intro inner hinner
      rw [hinner] at hcheck
      exact hcheck
    · intro xs hxs
      rw [hxs] at hcheck
      dsimp only at hcheck
      by_cases hlong : maxKeys < xs.length
      · rw [if_pos hlong] at hcheck
        cases hcheck
      · exact not_lt.mp hlong

theorem validateDict_zero (name : String) (maxKeys : Nat) (obj : Dict) :
    validateDict name maxKeys 0 obj ≠ .ok () := by
  intro h
  rw [validateDict] at h
  split at h
  · cases h
  · cases h

/-- What objects lead to in an accepted object is within the limits; by induction on the levels
allowed. -/
theorem validateDict_limits {name : String} {maxKeys levels : Nat} {obj : Dict}
    (h : validateDict name maxKeys (levels + 1) obj = .ok ()) {depth : Nat} {v : Value}
    (hreached : Reached (.dict obj) depth v) : WithinLimits maxKeys levels depth v := by
  induction levels generalizing obj depth with
  | zero =>
      have ⟨hkeys, hmembers⟩ := validateDict_ok h
      cases hreached with
      | here _ => exact ⟨hkeys, le_refl _⟩
      | member hmem hbelow =>
          have ⟨hdict, hlist⟩ := hmembers _ _ hmem
          cases hbelow with
          | here _ =>
              cases v with
              | dict inner => exact absurd (hdict inner rfl) (validateDict_zero name maxKeys inner)
              -- no levels are left for an inner object
              | list xs => exact hlist xs rfl
              | _ => trivial
          | member hinner _ => exact absurd (hdict _ rfl) (validateDict_zero name maxKeys _)
  | succ levels ih =>
      have ⟨hkeys, hmembers⟩ := validateDict_ok h
      cases hreached with
      | here _ => exact ⟨hkeys, Nat.zero_le _⟩
      | @member _ _ w _ depth hmem hbelow =>
          have ⟨hdict, hlist⟩ := hmembers _ _ hmem
          cases w with
          | dict inner =>
              have hinner := ih (hdict inner rfl) hbelow
              cases v with
              | dict items => exact ⟨hinner.1, Nat.succ_le_succ hinner.2⟩
              | list xs => exact hinner
              | _ => trivial
          | list xs =>
              -- the walk does not look inside a list, and nothing below one is reached
              cases hbelow with
              | here _ => exact hlist xs rfl
          | _ =>
              cases hbelow with
              | here _ => trivial

/-- A user or a resource that is accepted is within the limits everywhere iff what its lists hold
is. -/
theorem limits_hold_iff (obj : Dict)
    (h : validateUser obj = .ok () ∨ validateResource obj = .ok ()) :
    LimitsHold 200 5 (.dict obj) ↔ ListsWithinLimits 200 5 (.dict obj) := by
  have hreached : ∀ {depth v}, Reached (.dict obj) depth v → WithinLimits 200 5 depth v := by
    intro depth v hreached
    rcases h with huser | hresource
    · exact validateDict_limits huser hreached
    · exact validateDict_limits hresource hreached
  constructor
  · intro hold above xs hlist x hx below v hv
    exact hold _ v (inside_iff.mpr (.inr ⟨above, below, xs, x, rfl, hlist, hx, hv⟩))
  · intro hlists depth v hv
    rcases inside_iff.mp hv with hobjects | ⟨above, below, xs, x, rfl, hlist, hx, hbelow⟩
    · exact hreached hobjects
    · exact hlists above xs hlist x hx below v hbelow

theorem team_user_limits :
    LimitsHold 200 5 (.dict [("teams", .list [.str "ops"])]) ↔
      ListsWithinLimits 200 5 (.dict [("teams", .list [.str "ops"])]) :=
  limits_hold_iff [("teams", .list [.str "ops"])] (.inl rfl)

/-- A user whose list of teams holds a list of 201 elements is accepted. -/
theorem inner_list_too_large :
    validateUser [("teams", .list [.list (List.replicate 201 .null)])] = .ok () ∧
      ¬ LimitsHold 200 5 (.dict [("teams", .list [.list (List.replicate 201 .null)])]) := by
  constructor
  · rfl
  · intro hold
    have hinside : Inside (.dict [("teams", .list [.list (List.replicate 201 .null)])]) 1
        (.list (List.replicate 201 .null)) :=
      .member (List.mem_singleton_self _) (.element (List.mem_singleton_self _) (.here _))
    have hlength : (List.replicate 201 Value.null).length ≤ 200 := hold 1 _ hinside
    rw [List.length_replicate] at hlength
    omega

end KeyNetra
