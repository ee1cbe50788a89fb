import Mathlib.Data.Rel
import Mathlib.Data.Set.Function

/-!
# KeyNetra.Lib.Rbac — role-based access

Users hold roles and roles carry permissions. A user may do what some role it holds carries.

* `Rbac` — who holds which role and what each role carries, among the roles and permissions that
  exist;
* `Rbac.Edit` / `Rbac.apply` — the edits of roles, permissions and what roles carry;
* `may_grant`, `may_revoke`, `may_map`, `may_restrict` — what users may do afterwards;
* `May.step` — a user gains a permission only by a grant to a role that it holds, or by the renaming
  of a permission that it has.
-/

namespace Lib

variable {υ ρ π : Type}

/-- Who holds which role and what each role carries. -/
@[ext]
structure Rbac (υ ρ π : Type) where
  roles : Set ρ
  permissions : Set π
  holds : SetRel υ ρ
  carries : SetRel ρ π
  holds_roles : ∀ {u r}, (u, r) ∈ holds → r ∈ roles
  carries_roles : ∀ {r p}, (r, p) ∈ carries → r ∈ roles
  carries_permissions : ∀ {r p}, (r, p) ∈ carries → p ∈ permissions

namespace Rbac

/-- The user holds a role that carries the permission. -/
def May (m : Rbac υ ρ π) (u : υ) (p : π) : Prop := (u, p) ∈ m.holds.comp m.carries

theorem may_iff {m : Rbac υ ρ π} {u : υ} {p : π} :
    m.May u p ↔ ∃ r, (u, r) ∈ m.holds ∧ (r, p) ∈ m.carries := Iff.rfl

/-- What a user may do exists. -/
theorem May.mem {m : Rbac υ ρ π} {u : υ} {p : π} (h : m.May u p) : p ∈ m.permissions := by
  obtain ⟨r, -, hcarries⟩ := may_iff.mp h
  exact m.carries_permissions hcarries

/-! ## Edits -/

/-- The roles of `S` are added, with nobody holding them and nothing in them. -/
def addRoles (m : Rbac υ ρ π) (S : Set ρ) : Rbac υ ρ π where
  roles := m.roles ∪ S
  permissions := m.permissions
  holds := m.holds
  carries := m.carries
  holds_roles h := Or.inl (m.holds_roles h)
  carries_roles h := Or.inl (m.carries_roles h)
  carries_permissions := m.carries_permissions

/-- The permissions of `S` are added, in no role. -/
def addPermissions (m : Rbac υ ρ π) (S : Set π) : Rbac υ ρ π where
  roles := m.roles
  permissions := m.permissions ∪ S
  holds := m.holds
  carries := m.carries
  holds_roles := m.holds_roles
  carries_roles := m.carries_roles
  carries_permissions h := Or.inl (m.carries_permissions h)

/-- Only the roles of `R` and the permissions of `P` are left, with what is between them. -/
def restrict (m : Rbac υ ρ π) (R : Set ρ) (P : Set π) : Rbac υ ρ π where
  roles := m.roles ∩ R
  permissions := m.permissions ∩ P
  holds := {x | x ∈ m.holds ∧ x.2 ∈ R}
  carries := {x | x ∈ m.carries ∧ x.1 ∈ R ∧ x.2 ∈ P}
  holds_roles h := ⟨m.holds_roles h.1, h.2⟩
  carries_roles h := ⟨m.carries_roles h.1, h.2.1⟩
  carries_permissions h := ⟨m.carries_permissions h.1, h.2.2⟩

/-- Roles and permissions under other names. -/
def map {ρ' π' : Type} (f : ρ → ρ') (g : π → π') (m : Rbac υ ρ π) : Rbac υ ρ' π' where
  roles := f '' m.roles
  permissions := g '' m.permissions
  holds := {x | ∃ r, (x.1, r) ∈ m.holds ∧ f r = x.2}
  carries := {x | ∃ r p, (r, p) ∈ m.carries ∧ f r = x.1 ∧ g p = x.2}
  holds_roles := by
    rintro u _ ⟨r, hholds, rfl⟩
    exact ⟨r, m.holds_roles hholds, rfl⟩
  carries_roles := by
    rintro _ _ ⟨r, p, hcarries, rfl, -⟩
    exact ⟨r, m.carries_roles hcarries, rfl⟩
  carries_permissions := by
    rintro _ _ ⟨r, p, hcarries, -, rfl⟩
    exact ⟨p, m.carries_permissions hcarries, rfl⟩

/-- A role that exists gets a permission that exists. -/
def grant (m : Rbac υ ρ π) (r : ρ) (p : π) : Rbac υ ρ π where
  roles := m.roles
  permissions := m.permissions
  holds := m.holds
  carries := {x | x ∈ m.carries ∨ x = (r, p) ∧ r ∈ m.roles ∧ p ∈ m.permissions}
  holds_roles := m.holds_roles
  carries_roles := by
    rintro r' p' (hcarries | ⟨heq, hr, -⟩)
    · exact m.carries_roles hcarries
    · cases heq
      exact hr
  carries_permissions := by
    rintro r' p' (hcarries | ⟨heq, -, hp⟩)
    · exact m.carries_permissions hcarries
    · cases heq
      exact hp

/-- A role loses a permission. -/
def revoke (m : Rbac υ ρ π) (r : ρ) (p : π) : Rbac υ ρ π where
  roles := m.roles
  permissions := m.permissions
  holds := m.holds
  carries := {x | x ∈ m.carries ∧ x ≠ (r, p)}
  holds_roles := m.holds_roles
  carries_roles h := m.carries_roles h.1
  carries_permissions h := m.carries_permissions h.1

/-! ## What users may do afterwards -/

variable {m : Rbac υ ρ π} {u : υ} {r r' : ρ} {p p' q : π}

@[simp] theorem may_addRoles {S : Set ρ} : (m.addRoles S).May u q ↔ m.May u q := Iff.rfl

@[simp] theorem may_addPermissions {S : Set π} : (m.addPermissions S).May u q ↔ m.May u q := Iff.rfl

theorem may_restrict {R : Set ρ} {P : Set π} :
    (m.restrict R P).May u q ↔ q ∈ P ∧ ∃ r ∈ R, (u, r) ∈ m.holds ∧ (r, q) ∈ m.carries := by
  constructor
  · rintro ⟨r, ⟨hholds, hr⟩, hcarries, -, hq⟩
    exact ⟨hq, r, hr, hholds, hcarries⟩
  · rintro ⟨hq, r, hr, hholds, hcarries⟩
    exact ⟨r, ⟨hholds, hr⟩, hcarries, hr, hq⟩

/-- Names that tell the roles apart leave every user its permissions. -/
theorem may_map {ρ' π' : Type} {f : ρ → ρ'} {g : π → π'} (hf : Set.InjOn f m.roles) {q : π'} :
    (m.map f g).May u q ↔ ∃ p, m.May u p ∧ g p = q := by
  constructor
  · rintro ⟨_, ⟨r, hholds, rfl⟩, ⟨r', p, hcarries, hrole, rfl⟩⟩
    have hr : r' = r := hf (m.carries_roles hcarries) (m.holds_roles hholds) hrole
    subst hr
    exact ⟨p, ⟨r', hholds, hcarries⟩, rfl⟩
  · rintro ⟨p, ⟨r, hholds, hcarries⟩, rfl⟩
    exact ⟨f r, ⟨r, hholds, rfl⟩, ⟨r, p, hcarries, rfl, rfl⟩⟩

/-- A grant reaches the users that hold the role, and only them. -/
theorem may_grant :
    (m.grant r p).May u q ↔ m.May u q ∨ (q = p ∧ (u, r) ∈ m.holds ∧ p ∈ m.permissions) := by
  constructor
  · rintro ⟨r', hholds, hcarries | ⟨heq, -, hp⟩⟩
    · exact Or.inl ⟨r', hholds, hcarries⟩
    · cases heq
      exact Or.inr ⟨rfl, hholds, hp⟩
  · rintro (⟨r', hholds, hcarries⟩ | ⟨rfl, hholds, hp⟩)
    · exact ⟨r', hholds, Or.inl hcarries⟩
    · exact ⟨r, hholds, Or.inr ⟨rfl, m.holds_roles hholds, hp⟩⟩

/-- A user keeps a revoked permission exactly through another role that carries it. -/
theorem may_revoke :
    (m.revoke r p).May u q ↔
      ∃ r', (u, r') ∈ m.holds ∧ (r', q) ∈ m.carries ∧ (r' = r → q ≠ p) := by
  constructor
  · rintro ⟨r', hholds, hcarries, hne⟩
    refine ⟨r', hholds, hcarries, ?_⟩
    rintro rfl rfl
    exact hne rfl
  · rintro ⟨r', hholds, hcarries, hne⟩
    refine ⟨r', hholds, hcarries, ?_⟩
    intro heq
    cases heq
    exact hne rfl rfl

/-! ## A directory that is edited -/

/-- The edits of a directory of roles. -/
inductive Edit (ρ π : Type) where
  | addRole (r : ρ)
  | renameRole (r r' : ρ)
  | removeRole (r : ρ)
  | addPermission (p : π)
  | renamePermission (p p' : π)
  | removePermission (p : π)
  | grant (r : ρ) (p : π)
  | revoke (r : ρ) (p : π)

section Edits

variable [DecidableEq ρ] [DecidableEq π]

/-- One edit. -/
def apply (m : Rbac υ ρ π) : Edit ρ π → Rbac υ ρ π
  | .addRole r => m.addRoles {r}
  | .renameRole r r' => m.map (Function.update id r r') id
  | .removeRole r => m.restrict {x | x ≠ r} Set.univ
  | .addPermission p => m.addPermissions {p}
  | .renamePermission p p' => m.map id (Function.update id p p')
  | .removePermission p => m.restrict Set.univ {x | x ≠ p}
  | .grant r p => m.grant r p
  | .revoke r p => m.revoke r p

/-- The edit introduces no name that is taken. -/
def Edit.Fresh (m : Rbac υ ρ π) : Edit ρ π → Prop
  | .addRole r => r ∉ m.roles
  | .renameRole r r' => r' = r ∨ r' ∉ m.roles
  | .addPermission p => p ∉ m.permissions
  | .renamePermission p p' => p' = p ∨ p' ∉ m.permissions
  | _ => True

/-! ## Where permissions come from -/

omit [DecidableEq π] in
/-- A fresh name tells the renamed role from the others. -/
theorem injOn_rename (h : r' = r ∨ r' ∉ m.roles) :
    Set.InjOn (Function.update id r r') m.roles := by
  intro x hx y hy hxy
  rcases h with rfl | hfresh
  · have hid : Function.update id r' r' = id := Function.update_eq_self (f := id) r'
    simpa only [hid, id_eq] using hxy
  · by_cases hxr : x = r
    · by_cases hyr : y = r
      · rw [hxr, hyr]
      · rw [hxr, Function.update_self, Function.update_of_ne hyr] at hxy
        exact absurd (hxy ▸ hy) hfresh
    · by_cases hyr : y = r
      · rw [hyr, Function.update_self, Function.update_of_ne hxr] at hxy
        exact absurd (hxy ▸ hx) hfresh
      · rwa [Function.update_of_ne hxr, Function.update_of_ne hyr] at hxy

/-- The edit by which a user comes to have a permission: a grant to a role that it holds, or the
renaming of a permission that it has. -/
def Edit.Gives (m : Rbac υ ρ π) (u : υ) (q : π) : Edit ρ π → Prop
  | .grant r p => p = q ∧ (u, r) ∈ m.holds
  | .renamePermission p p' => p' = q ∧ m.May u p
  | _ => False

/-- No other edit gives a permission. -/
theorem May.step {e : Edit ρ π} (hfresh : e.Fresh m) (h : (m.apply e).May u q)
    (hbefore : ¬ m.May u q) : e.Gives m u q := by
  cases e with
  -- what is added is not linked yet
  | addRole r => exact hbefore h
  | addPermission p => exact hbefore h
  | removeRole r =>
      -- what is removed takes permissions away
      obtain ⟨-, r', -, hholds, hcarries⟩ := may_restrict.mp h
      exact hbefore ⟨r', hholds, hcarries⟩
  | removePermission p =>
      obtain ⟨-, r', -, hholds, hcarries⟩ := may_restrict.mp h
      exact hbefore ⟨r', hholds, hcarries⟩
  | renameRole r r' =>
      -- a renamed role carries what it did
      obtain ⟨p, hmay, rfl⟩ := (may_map (injOn_rename hfresh)).mp h
      exact hbefore hmay
  | renamePermission p p' =>
      obtain ⟨p₀, hmay, hname⟩ := (may_map (Set.injOn_id _)).mp h
      by_cases hp : p₀ = p
      · -- the new name of the permission is the one gained
        rw [hp, Function.update_self] at hname
        exact ⟨hname, hp ▸ hmay⟩
      · rw [Function.update_of_ne hp] at hname
        exact absurd (hname ▸ hmay) hbefore
  | grant r p =>
      -- a grant gives to those who hold the role
      rcases may_grant.mp h with hmay | ⟨rfl, hholds, -⟩
      · exact absurd hmay hbefore
      · exact ⟨rfl, hholds⟩
  | revoke r p =>
      obtain ⟨r', hholds, hcarries, -⟩ := may_revoke.mp h
      exact hbefore ⟨r', hholds, hcarries⟩

end Edits

end Rbac

end Lib
