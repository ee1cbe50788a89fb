import KeyNetra.Api.Listings
import KeyNetra.Lib.NamedTable
import KeyNetra.Lib.Rbac

/-!
# KeyNetra.Repo.Rbac — roles, permissions and their links

The `/roles` and `/permissions` routes edit the tables `roles`, `permissions`, `user_roles` and
`role_permissions`.

* `RbacTables` — the tables under their unique constraints and primary keys;
* `createRole`, `updateRole`, `deleteRole`, `addPermissionToRole`, `removePermissionFromRole`,
  `createPermission`, `updatePermission`, `deletePermission` — what each handler answers, and the
  tables it commits;
* `Linked` — every link joins rows that exist, which no constraint of SQLite enforces;
* `RbacTables.directory` — who holds which role and what each role carries, by name;
* `getUserContext_directory` — a user's context is what the directory says;
* `RbacCall.handle_edits` — each handler is one edit of the directory.
-/

namespace KeyNetra

/-! ## Tables -/

/-- A row of `users`. -/
structure User where
  id : Int
  externalId : Option String
deriving DecidableEq, Repr

instance : Lib.NamedRow Role String where
  id := Role.id
  name := Role.name
  row := Role.mk
  id_row _ _ := rfl
  name_row _ _ := rfl

instance : Lib.NamedRow Permission String where
  id := Permission.id
  name := Permission.action
  row := Permission.mk
  id_row _ _ := rfl
  name_row _ _ := rfl

/-- The tables of `keynetra.domain.models.rbac`. -/
structure RbacTables where
  users : List User
  roles : Lib.NamedTable Role
  permissions : Lib.NamedTable Permission
  userRoles : List (Int × Int)
  rolePermissions : List (Int × Int)
  userIds : (users.map User.id).Nodup
  userRolesKey : userRoles.Nodup
  rolePermissionsKey : rolePermissions.Nodup

namespace RbacTables

/-- `user.roles`. -/
def rolesOf (t : RbacTables) (userId : Int) : List Role :=
  t.roles.rows.filter fun role => t.userRoles.contains (userId, role.id)

/-- `role.permissions`. -/
def permissionsOf (t : RbacTables) (roleId : Int) : List Permission :=
  t.permissions.rows.filter fun permission => t.rolePermissions.contains (roleId, permission.id)

/-- The users with the roles joined to them. -/
def userRows (t : RbacTables) : List UserRow :=
  t.users.map fun user =>
    { id := user.id
      roles := (t.rolesOf user.id).map fun role =>
        { name := role.name
          permissions := (t.permissionsOf role.id).map Permission.action } }

theorem mem_rolesOf {t : RbacTables} {userId : Int} {role : Role} :
    role ∈ t.rolesOf userId ↔ role ∈ t.roles.rows ∧ (userId, role.id) ∈ t.userRoles := by
  simp [rolesOf]

theorem mem_permissionsOf {t : RbacTables} {roleId : Int} {permission : Permission} :
    permission ∈ t.permissionsOf roleId ↔
      permission ∈ t.permissions.rows ∧ (roleId, permission.id) ∈ t.rolePermissions := by
  simp [permissionsOf]

end RbacTables

/-! ## The handlers -/

def roleNotFound : ApiError := ⟨404, "NOT_FOUND", "role not found", []⟩

def permissionNotFound : ApiError := ⟨404, "NOT_FOUND", "permission not found", []⟩

def roleExists : ApiError := ⟨409, "CONFLICT", "role already exists", []⟩

def permissionExists : ApiError := ⟨409, "CONFLICT", "permission already exists", []⟩

variable (t : RbacTables)

/-- `create_role`, up to its commit. -/
def createRole (name : String) : Except ApiError (Role × RbacTables) :=
  match t.roles.create name with
  | none => .error roleExists
  | some (role, roles) => .ok (role, { t with roles := roles })

/-- `update_role`, up to its commit. -/
def updateRole (roleId : Int) (name : String) : Except ApiError (Role × RbacTables) :=
  match t.roles.find? roleId with
  | none => .error roleNotFound
  | some _ =>
      match t.roles.rename roleId name with
      | none => .error roleExists
      | some roles => .ok (⟨roleId, name⟩, { t with roles := roles })

/-- `delete_role`, up to its commit: the links go before the role. -/
def deleteRole (roleId : Int) : Except ApiError RbacTables :=
  match t.roles.find? roleId with
  | none => .error roleNotFound
  | some role => .ok
      { t with
        roles := t.roles.delete role.id
        userRoles := t.userRoles.filter fun link => link.2 ≠ role.id
        rolePermissions := t.rolePermissions.filter fun link => link.1 ≠ role.id
        userRolesKey := t.userRolesKey.filter _
        rolePermissionsKey := t.rolePermissionsKey.filter _ }

/-- `list_role_permissions`. -/
def listRolePermissions (roleId : Int) : Except ApiError (List Permission) :=
  match t.roles.find? roleId with
  | none => .error roleNotFound
  | some role => .ok (t.permissionsOf role.id)

theorem link_notMem {t : RbacTables} {roleId : Int} {permission : Permission}
    (hpermission : permission ∈ t.permissions.rows)
    (h : permission ∉ t.permissionsOf roleId) : (roleId, permission.id) ∉ t.rolePermissions := by
  intro hlink
  exact h (RbacTables.mem_permissionsOf.mpr ⟨hpermission, hlink⟩)

theorem nodup_addLink {t : RbacTables} {role : Role} {permissionId : Int} {permission : Permission}
    (h : t.permissions.find? permissionId = some permission)
    (hmem : permission ∉ t.permissionsOf role.id) :
    (t.rolePermissions ++ [(role.id, permission.id)]).Nodup := by
  refine List.nodup_append.mpr ⟨t.rolePermissionsKey, List.nodup_singleton _, ?_⟩
  intro link hlink new hnew heq
  apply link_notMem (Lib.NamedTable.find?_eq_some.mp h).1 hmem
  rw [← List.mem_singleton.mp hnew, ← heq]
  exact hlink

/-- `add_permission_to_role`, up to its commit; nothing is written when the role has the
permission. -/
def addPermissionToRole (roleId permissionId : Int) :
    Except ApiError (Permission × Option RbacTables) :=
  match t.roles.find? roleId, h : t.permissions.find? permissionId with
  | none, _ => .error roleNotFound
  | some _, none => .error permissionNotFound
  | some role, some permission =>
      if hmem : permission ∈ t.permissionsOf role.id then .ok (permission, none)
      else .ok (permission, some
        { t with
          rolePermissions := t.rolePermissions ++ [(role.id, permission.id)]
          rolePermissionsKey := nodup_addLink h hmem })

/-- `remove_permission_from_role`, up to its commit. -/
def removePermissionFromRole (roleId permissionId : Int) : Except ApiError (Option RbacTables) :=
  match t.roles.find? roleId, t.permissions.find? permissionId with
  | none, _ => .error roleNotFound
  | some _, none => .error permissionNotFound
  | some role, some permission =>
      if permission ∈ t.permissionsOf role.id then .ok (some
        { t with
          rolePermissions := t.rolePermissions.filter fun link => link ≠ (role.id, permission.id)
          rolePermissionsKey := t.rolePermissionsKey.filter _ })
      else .ok none

/-- `create_permission`, up to its commit. -/
def createPermission (action : String) : Except ApiError (Permission × RbacTables) :=
  match t.permissions.create action with
  | none => .error permissionExists
  | some (permission, permissions) => .ok (permission, { t with permissions := permissions })

/-- `update_permission`, up to its commit. -/
def updatePermission (permissionId : Int) (action : String) :
    Except ApiError (Permission × RbacTables) :=
  match t.permissions.find? permissionId with
  | none => .error permissionNotFound
  | some _ =>
      match t.permissions.rename permissionId action with
      | none => .error permissionExists
      | some permissions => .ok (⟨permissionId, action⟩, { t with permissions := permissions })

/-- `delete_permission`, up to its commit. -/
def deletePermission (permissionId : Int) : Except ApiError RbacTables :=
  match t.permissions.find? permissionId with
  | none => .error permissionNotFound
  | some permission => .ok
      { t with
        permissions := t.permissions.delete permission.id
        rolePermissions := t.rolePermissions.filter fun link => link.2 ≠ permission.id
        rolePermissionsKey := t.rolePermissionsKey.filter _ }

/-- `list_permission_roles`. -/
def listPermissionRoles (permissionId : Int) : Except ApiError (List Role) :=
  match t.permissions.find? permissionId with
  | none => .error permissionNotFound
  | some permission => .ok
      (t.roles.rows.filter fun role => permission ∈ t.permissionsOf role.id)

/-- A request that writes. -/
inductive RbacCall where
  | createRole (name : String)
  | updateRole (roleId : Int) (name : String)
  | deleteRole (roleId : Int)
  | addPermissionToRole (roleId permissionId : Int)
  | removePermissionFromRole (roleId permissionId : Int)
  | createPermission (action : String)
  | updatePermission (permissionId : Int) (action : String)
  | deletePermission (permissionId : Int)
deriving DecidableEq, Repr

/-- What a request that writes is answered. -/
inductive RbacAnswer where
  | role (role : Role)
  | permission (permission : Permission)
  | roleId (roleId : Int)
  | permissionId (permissionId : Int)
  | link (roleId permissionId : Int)
deriving DecidableEq, Repr

/-- The answer of a handler, and the tables it commits. -/
def RbacCall.handle : RbacCall → Except ApiError (RbacAnswer × Option RbacTables)
  | .createRole name => do
      let (role, t') ← KeyNetra.createRole t name
      .ok (.role role, some t')
  | .updateRole roleId name => do
      let (role, t') ← KeyNetra.updateRole t roleId name
      .ok (.role role, some t')
  | .deleteRole roleId => do
      let t' ← KeyNetra.deleteRole t roleId
      .ok (.roleId roleId, some t')
  | .addPermissionToRole roleId permissionId => do
      let (permission, t') ← KeyNetra.addPermissionToRole t roleId permissionId
      .ok (.permission permission, t')
  | .removePermissionFromRole roleId permissionId => do
      let t' ← KeyNetra.removePermissionFromRole t roleId permissionId
      .ok (.link roleId permissionId, t')
  | .createPermission action => do
      let (permission, t') ← KeyNetra.createPermission t action
      .ok (.permission permission, some t')
  | .updatePermission permissionId action => do
      let (permission, t') ← KeyNetra.updatePermission t permissionId action
      .ok (.permission permission, some t')
  | .deletePermission permissionId => do
      let t' ← KeyNetra.deletePermission t permissionId
      .ok (.permissionId permissionId, some t')

/-! ## Links -/

/-- Every link joins rows that exist. -/
structure RbacTables.Linked (t : RbacTables) : Prop where
  users : ∀ link ∈ t.userRoles, ∃ user ∈ t.users, user.id = link.1
  roles : ∀ link ∈ t.userRoles, ∃ role ∈ t.roles.rows, role.id = link.2
  permissionRoles : ∀ link ∈ t.rolePermissions, ∃ role ∈ t.roles.rows, role.id = link.1
  permissions : ∀ link ∈ t.rolePermissions, ∃ permission ∈ t.permissions.rows,
    permission.id = link.2

/-! ## The directory -/

/-- Who holds which role and what each role carries, by name. -/
def RbacTables.directory (t : RbacTables) : Lib.Rbac Int String String where
  roles := {name | ∃ role ∈ t.roles.rows, role.name = name}
  permissions := {action | ∃ permission ∈ t.permissions.rows, permission.action = action}
  holds := {x | (∃ user ∈ t.users, user.id = x.1) ∧
    ∃ role ∈ t.roles.rows, (x.1, role.id) ∈ t.userRoles ∧ role.name = x.2}
  carries := {x | ∃ role ∈ t.roles.rows, ∃ permission ∈ t.permissions.rows,
    (role.id, permission.id) ∈ t.rolePermissions ∧ role.name = x.1 ∧ permission.action = x.2}
  holds_roles := by
    rintro _ _ ⟨-, role, hrole, -, hname⟩
    exact ⟨role, hrole, hname⟩
  carries_roles := by
    rintro _ _ ⟨role, hrole, _, _, -, hname, -⟩
    exact ⟨role, hrole, hname⟩
  carries_permissions := by
    rintro _ _ ⟨_, _, permission, hpermission, -, -, haction⟩
    exact ⟨permission, hpermission, haction⟩

/-- The edit of the directory a request asks for, when its rows exist. -/
def RbacCall.edit (t : RbacTables) : RbacCall → Option (Lib.Rbac.Edit String String)
  | .createRole name => some (.addRole name)
  | .updateRole roleId name => (t.roles.find? roleId).map fun role => .renameRole role.name name
  | .deleteRole roleId => (t.roles.find? roleId).map fun role => .removeRole role.name
  | .addPermissionToRole roleId permissionId => do
      let role ← t.roles.find? roleId
      let permission ← t.permissions.find? permissionId
      some (.grant role.name permission.action)
  | .removePermissionFromRole roleId permissionId => do
      let role ← t.roles.find? roleId
      let permission ← t.permissions.find? permissionId
      some (.revoke role.name permission.action)
  | .createPermission action => some (.addPermission action)
  | .updatePermission permissionId action =>
      (t.permissions.find? permissionId).map fun permission =>
        .renamePermission permission.action action
  | .deletePermission permissionId =>
      (t.permissions.find? permissionId).map fun permission => .removePermission permission.action

/-! ## A user's context -/

variable {t : RbacTables} {t' : RbacTables}

/-- Two sets of texts sort to the same list exactly when they have the same members. -/
theorem sortedSet_eq_iff {texts texts' : List String} :
    sortedSet texts = sortedSet texts' ↔ ∀ text, text ∈ texts ↔ text ∈ texts' := by
  constructor
  · intro h text
    rw [← mem_sortedSet, h, mem_sortedSet]
  · intro h
    have hperm : texts.dedup.Perm texts'.dedup := by
      apply (List.perm_ext_iff_of_nodup texts.nodup_dedup texts'.nodup_dedup).mpr
      intro text
      rw [List.mem_dedup, List.mem_dedup]
      exact h text
    have hsorted : ∀ l : List String, (sortedSet l).Pairwise fun a b => a ≤ b :=
      fun l => Lib.pairwise_sortOn id l.dedup
    exact List.Perm.eq_of_pairwise (fun _ _ _ _ => le_antisymm) (hsorted texts) (hsorted texts')
      ((Lib.perm_sortOn id _).trans (hperm.trans (Lib.perm_sortOn id _).symm))

/-- A user has a context exactly when it exists. -/
theorem getUserContext_isSome {userId : Int} :
    (getUserContext t.userRows userId).isSome ↔ ∃ user ∈ t.users, user.id = userId := by
  unfold getUserContext RbacTables.userRows
  rw [Option.isSome_map, List.find?_isSome]
  simp

/-- The roles and permissions of a user's context are what the directory says. -/
theorem getUserContext_directory {userId : Int} {context : UserContext}
    (h : getUserContext t.userRows userId = some context) :
    context.id = userId ∧ context.role = context.roles.head? ∧
      (∀ name, name ∈ context.roles ↔ (userId, name) ∈ t.directory.holds) ∧
      (∀ action, action ∈ context.permissions ↔ t.directory.May userId action) := by
  obtain ⟨row, hfind, rfl⟩ := Option.map_eq_some_iff.mp h
  have hid : row.id = userId := by simpa using List.find?_some hfind
  obtain ⟨user, huser, rfl⟩ := List.mem_map.mp (List.mem_of_find?_eq_some hfind)
  have hexists : ∃ user ∈ t.users, user.id = userId := ⟨user, huser, hid⟩
  dsimp only at hid ⊢
  refine ⟨hid, rfl, ?_, ?_⟩
  · intro name
    rw [mem_sortedSet, List.map_map, List.mem_map]
    constructor
    · rintro ⟨role, hrole, rfl⟩
      obtain ⟨hrow, hlink⟩ := RbacTables.mem_rolesOf.mp hrole
      exact ⟨hexists, role, hrow, hid ▸ hlink, rfl⟩
    · rintro ⟨-, role, hrow, hlink, rfl⟩
      refine ⟨role, RbacTables.mem_rolesOf.mpr ⟨hrow, ?_⟩, rfl⟩
      rw [hid]
      exact hlink
  · intro action
    rw [mem_sortedSet, List.flatMap_map, List.mem_flatMap]
    constructor
    · rintro ⟨role, hrole, haction⟩
      obtain ⟨permission, hpermission, rfl⟩ := List.mem_map.mp haction
      obtain ⟨hrow, hlink⟩ := RbacTables.mem_rolesOf.mp hrole
      obtain ⟨hprow, hplink⟩ := RbacTables.mem_permissionsOf.mp hpermission
      exact ⟨role.name, ⟨hexists, role, hrow, hid ▸ hlink, rfl⟩,
        ⟨role, hrow, permission, hprow, hplink, rfl, rfl⟩⟩
    · rintro ⟨_, ⟨-, role, hrow, hlink, rfl⟩, ⟨role', hrow', permission, hprow, hplink, hname, rfl⟩⟩
      -- names tell the roles apart
      have hrole : role' = role := Lib.eq_of_key_eq t.roles.names hrow' hrow hname
      subst hrole
      refine ⟨role', RbacTables.mem_rolesOf.mpr ⟨hrow, ?_⟩, List.mem_map.mpr
        ⟨permission, RbacTables.mem_permissionsOf.mpr ⟨hprow, hplink⟩, rfl⟩⟩
      rw [hid]
      exact hlink

/-- The context is made of any two lists that name what the directory says. -/
theorem getUserContext_eq {userId : Int} {roles permissions : List String}
    (huser : ∃ user ∈ t.users, user.id = userId)
    (hroles : ∀ name, name ∈ roles ↔ (userId, name) ∈ t.directory.holds)
    (hpermissions : ∀ action, action ∈ permissions ↔ t.directory.May userId action) :
    getUserContext t.userRows userId =
      some ⟨userId, (sortedSet roles).head?, sortedSet roles, sortedSet permissions⟩ := by
  obtain ⟨context, hcontext⟩ := Option.isSome_iff_exists.mp (getUserContext_isSome.mpr huser)
  obtain ⟨hid, -, hholds, hmay⟩ := getUserContext_directory hcontext
  obtain ⟨row, -, hmade⟩ := Option.map_eq_some_iff.mp hcontext
  rw [hcontext]
  subst hmade
  dsimp only at hid hholds hmay
  have hnames : sortedSet (row.roles.map RoleRow.name) = sortedSet roles := by
    rw [sortedSet_eq_iff]
    intro name
    rw [← mem_sortedSet, hholds, hroles]
  have hactions : sortedSet (row.roles.flatMap RoleRow.permissions) = sortedSet permissions := by
    rw [sortedSet_eq_iff]
    intro action
    rw [← mem_sortedSet, hmay, hpermissions]
  dsimp only
  rw [hid, hnames, hactions]

/-! ## Each handler edits the directory -/

/-- What a handler that commits does: no user gets a role, the links stay sound, and the directory
is edited once. -/
structure RbacCall.Edits (call : RbacCall) (t t' : RbacTables) : Prop where
  users : t'.users = t.users
  userRoles : t'.userRoles ⊆ t.userRoles
  linked : t.Linked → t'.Linked
  edits : t.Linked → ∃ e, call.edit t = some e ∧ e.Fresh t.directory ∧
    t'.directory = t.directory.apply e

/-- An id no role has is in no link. -/
theorem RbacTables.Linked.role_unlinked (h : t.Linked) {roleId : Int}
    (hid : roleId ∉ t.roles.rows.map Role.id) :
    (∀ userId, (userId, roleId) ∉ t.userRoles) ∧
      ∀ permissionId, (roleId, permissionId) ∉ t.rolePermissions := by
  constructor
  · intro userId hlink
    obtain ⟨role, hrole, hrid⟩ := h.roles _ hlink
    exact hid (List.mem_map.mpr ⟨role, hrole, hrid⟩)
  · intro permissionId hlink
    obtain ⟨role, hrole, hrid⟩ := h.permissionRoles _ hlink
    exact hid (List.mem_map.mpr ⟨role, hrole, hrid⟩)

/-- An id no permission has is in no link. -/
theorem RbacTables.Linked.permission_unlinked (h : t.Linked) {permissionId : Int}
    (hid : permissionId ∉ t.permissions.rows.map Permission.id) (roleId : Int) :
    (roleId, permissionId) ∉ t.rolePermissions := by
  intro hlink
  obtain ⟨permission, hpermission, hpid⟩ := h.permissions _ hlink
  exact hid (List.mem_map.mpr ⟨permission, hpermission, hpid⟩)

theorem createRole_edits {name : String} {role : Role}
    (h : createRole t name = .ok (role, t')) : (RbacCall.createRole name).Edits t t' := by
  unfold createRole at h
  split at h
  · cases h
  · rename_i role' roles hcreate
    cases h
    obtain ⟨hfresh, hrow, hrows⟩ := Lib.NamedTable.create_eq_some hcreate
    have hold : ∀ r ∈ t.roles.rows, r ∈ roles.rows := by
      intro r hr
      rw [hrows]
      exact List.mem_append_left _ hr
    refine ⟨rfl, List.Subset.refl _, ?_, ?_⟩
    · -- links still lead to the rows they led to
      intro hlinked
      refine ⟨hlinked.users, ?_, ?_, hlinked.permissions⟩
      · intro link hlink
        obtain ⟨r, hr, hid⟩ := hlinked.roles link hlink
        exact ⟨r, hold r hr, hid⟩
      · intro link hlink
        obtain ⟨r, hr, hid⟩ := hlinked.permissionRoles link hlink
        exact ⟨r, hold r hr, hid⟩
    · intro hlinked
      -- the id may have belonged to a role before, but no link is left of it
      have hunlinked := hlinked.role_unlinked
        (Lib.NamedTable.newRow_id_notMem t.roles name)
      rw [← hrow] at hunlinked
      refine ⟨_, rfl, ?_, ?_⟩
      · rintro ⟨r, hr, hname⟩
        exact hfresh r hr hname
      · apply Lib.Rbac.ext
        · -- the roles: one more name
          ext x
          exact (Lib.NamedTable.exists_mem_create (P := fun _ n => n = x) hcreate).trans
            (or_congr_right eq_comm)
        · rfl
        · -- who holds what: as before
          ext ⟨u, x⟩
          apply and_congr_right
          intro _
          refine (Lib.NamedTable.exists_mem_create
            (P := fun i n => (u, i) ∈ t.userRoles ∧ n = x) hcreate).trans ?_
          exact or_iff_left fun hlink => hunlinked.1 u hlink.1
        · -- what the roles carry: as before
          ext ⟨n, a⟩
          refine (Lib.NamedTable.exists_mem_create (P := fun i n' =>
            ∃ permission ∈ t.permissions.rows, (i, permission.id) ∈ t.rolePermissions ∧
              n' = n ∧ permission.action = a) hcreate).trans ?_
          apply or_iff_left
          rintro ⟨permission, _, hlink, _⟩
          exact hunlinked.2 permission.id hlink

theorem updateRole_edits {roleId : Int} {name : String} {role : Role}
    (h : updateRole t roleId name = .ok (role, t')) :
    (RbacCall.updateRole roleId name).Edits t t' := by
  unfold updateRole at h
  split at h
  · cases h
  · rename_i old hfind
    split at h
    · cases h
    · rename_i roles hrename
      cases h
      obtain ⟨hold, hid⟩ := Lib.NamedTable.find?_eq_some.mp hfind
      obtain ⟨hother, hrows⟩ := Lib.NamedTable.rename_eq_some hrename
      have hids : ∀ i, (∃ r ∈ t.roles.rows, r.id = i) → ∃ r ∈ roles.rows, r.id = i := by
        intro i hi
        rw [hrows]
        exact (Lib.NamedTable.exists_mem_renamed (P := fun j _ => j = i) hold hid).mpr hi
      refine ⟨rfl, List.Subset.refl _, ?_, ?_⟩
      · -- ids stay, so links do
        intro hlinked
        exact ⟨hlinked.users, fun link hlink => hids _ (hlinked.roles link hlink),
          fun link hlink => hids _ (hlinked.permissionRoles link hlink), hlinked.permissions⟩
      · intro _
        refine ⟨.renameRole old.name name, by simp [RbacCall.edit, hfind], ?_, ?_⟩
        · -- a role that has the new name is the one that is renamed
          by_cases htaken : ∃ r ∈ t.roles.rows, r.name = name
          · obtain ⟨r, hr, hname⟩ := htaken
            have hrold : r = old :=
              Lib.NamedTable.row_unique hr hold ((hother r hr hname).trans hid.symm)
            exact Or.inl (by rw [← hrold, hname])
          · exact Or.inr htaken
        · apply Lib.Rbac.ext
          · -- the roles: their image under the renaming
            ext x
            show (∃ r ∈ roles.rows, r.name = x) ↔ _
            rw [hrows]
            refine (Lib.NamedTable.exists_mem_renamed (P := fun _ n => n = x) hold hid).trans ?_
            constructor
            · rintro ⟨r, hr, hname⟩
              exact ⟨r.name, ⟨r, hr, rfl⟩, hname⟩
            · rintro ⟨_, ⟨r, hr, rfl⟩, hname⟩
              exact ⟨r, hr, hname⟩
          · exact (Set.image_id _).symm
          · -- who holds what
            ext ⟨u, x⟩
            show (_ ∧ ∃ r ∈ roles.rows, (u, r.id) ∈ t.userRoles ∧ r.name = x) ↔ _
            rw [hrows]
            refine (and_congr_right fun _ => Lib.NamedTable.exists_mem_renamed
              (P := fun i n => (u, i) ∈ t.userRoles ∧ n = x) hold hid).trans ?_
            constructor
            · rintro ⟨huser, r, hr, hlink, hname⟩
              exact ⟨r.name, ⟨huser, r, hr, hlink, rfl⟩, hname⟩
            · rintro ⟨_, ⟨huser, r, hr, hlink, rfl⟩, hname⟩
              exact ⟨huser, r, hr, hlink, hname⟩
          · -- what the roles carry
            ext ⟨n, a⟩
            show (∃ r ∈ roles.rows, ∃ p ∈ t.permissions.rows, (r.id, p.id) ∈ t.rolePermissions ∧
              r.name = n ∧ p.action = a) ↔ _
            rw [hrows]
            refine (Lib.NamedTable.exists_mem_renamed (P := fun i n' =>
              ∃ p ∈ t.permissions.rows, (i, p.id) ∈ t.rolePermissions ∧ n' = n ∧ p.action = a)
              hold hid).trans ?_
            constructor
            · rintro ⟨r, hr, p, hp, hlink, hname, rfl⟩
              exact ⟨r.name, p.action, ⟨r, hr, p, hp, hlink, rfl, rfl⟩, hname, rfl⟩
            · rintro ⟨_, _, ⟨r, hr, p, hp, hlink, rfl, rfl⟩, hname, haction⟩
              exact ⟨r, hr, p, hp, hlink, hname, haction⟩

theorem deleteRole_edits {roleId : Int} (h : deleteRole t roleId = .ok t') :
    (RbacCall.deleteRole roleId).Edits t t' := by
  unfold deleteRole at h
  split at h
  · cases h
  · rename_i role hfind
    cases h
    have hrole := (Lib.NamedTable.find?_eq_some.mp hfind).1
    refine ⟨rfl, List.filter_subset_self _, ?_, ?_⟩
    · -- the links of the role are gone, those of others lead where they led
      intro hlinked
      constructor
      · intro link hlink
        exact hlinked.users link (List.mem_filter.mp hlink).1
      · intro link hlink
        obtain ⟨hlink, hne⟩ := List.mem_filter.mp hlink
        obtain ⟨r, hr, hid⟩ := hlinked.roles link hlink
        refine ⟨r, Lib.NamedTable.mem_delete.mpr ⟨hr, ?_⟩, hid⟩
        exact fun heq => of_decide_eq_true hne (hid.symm.trans heq)
      · intro link hlink
        obtain ⟨hlink, hne⟩ := List.mem_filter.mp hlink
        obtain ⟨r, hr, hid⟩ := hlinked.permissionRoles link hlink
        refine ⟨r, Lib.NamedTable.mem_delete.mpr ⟨hr, ?_⟩, hid⟩
        exact fun heq => of_decide_eq_true hne (hid.symm.trans heq)
      · intro link hlink
        exact hlinked.permissions link (List.mem_filter.mp hlink).1
    · intro _
      -- a link of another role is none of the deleted ones
      have hne : ∀ r ∈ t.roles.rows, r.name ≠ role.name → r.id ≠ role.id := by
        intro r hr hname hid
        exact hname (congrArg Role.name (Lib.NamedTable.row_unique hr hrole hid))
      refine ⟨.removeRole role.name, by simp [RbacCall.edit, hfind], trivial, ?_⟩
      apply Lib.Rbac.ext
      · -- the roles: one name less
        ext x
        refine (Lib.NamedTable.exists_mem_delete (P := fun _ n => n = x) hrole rfl).trans ?_
        constructor
        · rintro ⟨r, hr, hname, rfl⟩
          exact ⟨⟨r, hr, rfl⟩, hname⟩
        · rintro ⟨⟨r, hr, rfl⟩, hname⟩
          exact ⟨r, hr, hname, rfl⟩
      · exact (Set.inter_univ _).symm
      · -- who holds what: all but that role
        ext ⟨u, x⟩
        refine (and_congr_right fun _ => Lib.NamedTable.exists_mem_delete (P := fun i n =>
          (u, i) ∈ t.userRoles.filter (fun link => link.2 ≠ role.id) ∧ n = x) hrole rfl).trans ?_
        constructor
        · rintro ⟨huser, r, hr, hname, hlink, rfl⟩
          exact ⟨⟨huser, r, hr, (List.mem_filter.mp hlink).1, rfl⟩, hname⟩
        · rintro ⟨⟨huser, r, hr, hlink, rfl⟩, hname⟩
          refine ⟨huser, r, hr, hname, List.mem_filter.mpr ⟨hlink, ?_⟩, rfl⟩
          exact decide_eq_true (hne r hr hname)
      · -- what the roles carry: all but that role
        ext ⟨n, a⟩
        refine (Lib.NamedTable.exists_mem_delete (P := fun i n' => ∃ p ∈ t.permissions.rows,
          (i, p.id) ∈ t.rolePermissions.filter (fun link => link.1 ≠ role.id) ∧ n' = n ∧
            p.action = a) hrole rfl).trans ?_
        constructor
        · rintro ⟨r, hr, hname, p, hp, hlink, rfl, rfl⟩
          exact ⟨⟨r, hr, p, hp, (List.mem_filter.mp hlink).1, rfl, rfl⟩, hname, trivial⟩
        · rintro ⟨⟨r, hr, p, hp, hlink, rfl, rfl⟩, hname, -⟩
          refine ⟨r, hr, hname, p, hp, List.mem_filter.mpr ⟨hlink, ?_⟩, rfl, rfl⟩
          exact decide_eq_true (hne r hr hname)

/-- What a role carries, with the permission first. -/
theorem RbacTables.mem_carries {name action : String} :
    (name, action) ∈ t.directory.carries ↔ ∃ permission ∈ t.permissions.rows,
      (∃ role ∈ t.roles.rows, (role.id, permission.id) ∈ t.rolePermissions ∧ role.name = name) ∧
        permission.action = action := by
  constructor
  · rintro ⟨role, hrole, permission, hpermission, hlink, hname, haction⟩
    exact ⟨permission, hpermission, ⟨role, hrole, hlink, hname⟩, haction⟩
  · rintro ⟨permission, hpermission, ⟨role, hrole, hlink, hname⟩, haction⟩
    exact ⟨role, hrole, permission, hpermission, hlink, hname, haction⟩

theorem createPermission_edits {action : String} {permission : Permission}
    (h : createPermission t action = .ok (permission, t')) :
    (RbacCall.createPermission action).Edits t t' := by
  unfold createPermission at h
  split at h
  · cases h
  · rename_i permission' permissions hcreate
    cases h
    obtain ⟨hfresh, hrow, hrows⟩ := Lib.NamedTable.create_eq_some hcreate
    refine ⟨rfl, List.Subset.refl _, ?_, ?_⟩
    · -- links still lead to the rows they led to
      intro hlinked
      refine ⟨hlinked.users, hlinked.roles, hlinked.permissionRoles, ?_⟩
      intro link hlink
      obtain ⟨p, hp, hid⟩ := hlinked.permissions link hlink
      refine ⟨p, ?_, hid⟩
      show p ∈ permissions.rows
      rw [hrows]
      exact List.mem_append_left _ hp
    · intro hlinked
      -- no link is left of a permission that had the id before
      have hunlinked := hlinked.permission_unlinked
        (Lib.NamedTable.newRow_id_notMem t.permissions action)
      rw [← hrow] at hunlinked
      refine ⟨_, rfl, ?_, ?_⟩
      · rintro ⟨p, hp, haction⟩
        exact hfresh p hp haction
      · apply Lib.Rbac.ext
        · rfl
        · -- the permissions: one more action
          ext x
          exact (Lib.NamedTable.exists_mem_create (P := fun _ n => n = x) hcreate).trans
            (or_congr_right eq_comm)
        · rfl
        · -- what the roles carry: as before
          ext ⟨n, a⟩
          rw [RbacTables.mem_carries]
          refine (Lib.NamedTable.exists_mem_create (P := fun i a' =>
            (∃ role ∈ t.roles.rows, (role.id, i) ∈ t.rolePermissions ∧ role.name = n) ∧ a' = a)
            hcreate).trans ?_
          refine Iff.trans ?_ RbacTables.mem_carries.symm
          apply or_iff_left
          rintro ⟨⟨role, _, hlink, _⟩, _⟩
          exact hunlinked role.id hlink

theorem updatePermission_edits {permissionId : Int} {action : String} {permission : Permission}
    (h : updatePermission t permissionId action = .ok (permission, t')) :
    (RbacCall.updatePermission permissionId action).Edits t t' := by
  unfold updatePermission at h
  split at h
  · cases h
  · rename_i old hfind
    split at h
    · cases h
    · rename_i permissions hrename
      cases h
      obtain ⟨hold, hid⟩ := Lib.NamedTable.find?_eq_some.mp hfind
      obtain ⟨hother, hrows⟩ := Lib.NamedTable.rename_eq_some hrename
      refine ⟨rfl, List.Subset.refl _, ?_, ?_⟩
      · -- ids stay, so links do
        intro hlinked
        refine ⟨hlinked.users, hlinked.roles, hlinked.permissionRoles, ?_⟩
        intro link hlink
        show ∃ p ∈ permissions.rows, p.id = link.2
        rw [hrows]
        exact (Lib.NamedTable.exists_mem_renamed (P := fun j _ => j = link.2) hold hid).mpr
          (hlinked.permissions link hlink)
      · intro _
        refine ⟨.renamePermission old.action action, by simp [RbacCall.edit, hfind], ?_, ?_⟩
        · -- a permission that has the new name is the one that is renamed
          by_cases htaken : ∃ p ∈ t.permissions.rows, p.action = action
          · obtain ⟨p, hp, haction⟩ := htaken
            have hpold : p = old :=
              Lib.NamedTable.row_unique hp hold ((hother p hp haction).trans hid.symm)
            exact Or.inl (by rw [← hpold, haction])
          · exact Or.inr htaken
        · apply Lib.Rbac.ext
          · exact (Set.image_id _).symm
          · -- the permissions: their image under the renaming
            ext x
            show (∃ p ∈ permissions.rows, p.action = x) ↔ _
            rw [hrows]
            refine (Lib.NamedTable.exists_mem_renamed (P := fun _ n => n = x) hold hid).trans ?_
            constructor
            · rintro ⟨p, hp, haction⟩
              exact ⟨p.action, ⟨p, hp, rfl⟩, haction⟩
            · rintro ⟨_, ⟨p, hp, rfl⟩, haction⟩
              exact ⟨p, hp, haction⟩
          · -- who holds what: no role is renamed
            ext ⟨u, x⟩
            constructor
            · intro hholds
              exact ⟨x, hholds, rfl⟩
            · rintro ⟨_, hholds, rfl⟩
              exact hholds
          · -- what the roles carry: the new action for the old
            ext ⟨n, a⟩
            rw [RbacTables.mem_carries]
            show (∃ p ∈ permissions.rows, (∃ r ∈ t.roles.rows,
              (r.id, p.id) ∈ t.rolePermissions ∧ r.name = n) ∧ p.action = a) ↔ _
            rw [hrows]
            refine (Lib.NamedTable.exists_mem_renamed (P := fun i a' =>
              (∃ r ∈ t.roles.rows, (r.id, i) ∈ t.rolePermissions ∧ r.name = n) ∧ a' = a)
              hold hid).trans ?_
            constructor
            · rintro ⟨p, hp, hrole, haction⟩
              exact ⟨n, p.action, RbacTables.mem_carries.mpr ⟨p, hp, hrole, rfl⟩, rfl, haction⟩
            · rintro ⟨_, _, hcarries, rfl, haction⟩
              obtain ⟨p, hp, hrole, rfl⟩ := RbacTables.mem_carries.mp hcarries
              exact ⟨p, hp, hrole, haction⟩

theorem deletePermission_edits {permissionId : Int}
    (h : deletePermission t permissionId = .ok t') :
    (RbacCall.deletePermission permissionId).Edits t t' := by
  unfold deletePermission at h
  split at h
  · cases h
  · rename_i permission hfind
    cases h
    have hpermission := (Lib.NamedTable.find?_eq_some.mp hfind).1
    refine ⟨rfl, List.Subset.refl _, ?_, ?_⟩
    · -- links that remain lead to rows that remain
      intro hlinked
      refine ⟨hlinked.users, hlinked.roles, ?_, ?_⟩
      · intro link hlink
        exact hlinked.permissionRoles link (List.mem_filter.mp hlink).1
      · intro link hlink
        obtain ⟨hlink, hne⟩ := List.mem_filter.mp hlink
        obtain ⟨p, hp, hid⟩ := hlinked.permissions link hlink
        refine ⟨p, Lib.NamedTable.mem_delete.mpr ⟨hp, ?_⟩, hid⟩
        exact fun heq => of_decide_eq_true hne (hid.symm.trans heq)
    · intro _
      -- another action is of another row
      have hne : ∀ p ∈ t.permissions.rows, p.action ≠ permission.action → p.id ≠ permission.id := by
        intro p hp haction hid
        exact haction (congrArg Permission.action
          (Lib.NamedTable.row_unique hp hpermission hid))
      refine ⟨.removePermission permission.action, by simp [RbacCall.edit, hfind], trivial, ?_⟩
      apply Lib.Rbac.ext
      · exact (Set.inter_univ _).symm
      · ext x
        refine (Lib.NamedTable.exists_mem_delete (P := fun _ n => n = x) hpermission rfl).trans ?_
        constructor
        · rintro ⟨p, hp, haction, rfl⟩
          exact ⟨⟨p, hp, rfl⟩, haction⟩
        · rintro ⟨⟨p, hp, rfl⟩, haction⟩
          exact ⟨p, hp, haction, rfl⟩
      · ext x
        exact (and_iff_left trivial).symm
      · ext ⟨n, a⟩
        rw [RbacTables.mem_carries]
        -- the links to the permission go with it, so what a role carries is cut by its action
        refine (Lib.NamedTable.exists_mem_delete (P := fun i a' => (∃ r ∈ t.roles.rows,
          (r.id, i) ∈ t.rolePermissions.filter (fun link => link.2 ≠ permission.id) ∧
            r.name = n) ∧ a' = a) hpermission rfl).trans ?_
        constructor
        · rintro ⟨p, hp, haction, ⟨r, hr, hlink, hname⟩, rfl⟩
          exact ⟨RbacTables.mem_carries.mpr
            ⟨p, hp, ⟨r, hr, (List.mem_filter.mp hlink).1, hname⟩, rfl⟩, trivial, haction⟩
        · rintro ⟨hcarries, -, haction⟩
          obtain ⟨p, hp, ⟨r, hr, hlink, hname⟩, rfl⟩ := RbacTables.mem_carries.mp hcarries
          refine ⟨p, hp, haction, ⟨r, hr, List.mem_filter.mpr ⟨hlink, ?_⟩, hname⟩, rfl⟩
          exact decide_eq_true (hne p hp haction)

/-- Links are told apart by the names of their ends. -/
theorem RbacTables.link_eq {role role' : Role} {permission permission' : Permission}
    (hrole : role ∈ t.roles.rows) (hrole' : role' ∈ t.roles.rows)
    (hpermission : permission ∈ t.permissions.rows)
    (hpermission' : permission' ∈ t.permissions.rows) :
    (role'.id, permission'.id) = (role.id, permission.id) ↔
      (role'.name, permission'.action) = (role.name, permission.action) := by
  rw [Prod.mk.injEq, Prod.mk.injEq]
  constructor
  · rintro ⟨hid, hpid⟩
    have heq := Lib.NamedTable.row_unique hrole' hrole hid
    have hpeq := Lib.NamedTable.row_unique hpermission' hpermission hpid
    exact ⟨congrArg Role.name heq, congrArg Permission.action hpeq⟩
  · rintro ⟨hname, haction⟩
    have heq := Lib.eq_of_key_eq t.roles.names hrole' hrole hname
    have hpeq := Lib.eq_of_key_eq t.permissions.names hpermission' hpermission haction
    exact ⟨congrArg Role.id heq, congrArg Permission.id hpeq⟩

theorem addPermissionToRole_edits {roleId permissionId : Int} {permission : Permission}
    (h : addPermissionToRole t roleId permissionId = .ok (permission, some t')) :
    (RbacCall.addPermissionToRole roleId permissionId).Edits t t' := by
  unfold addPermissionToRole at h
  split at h
  · cases h
  · cases h
  · rename_i role permission' hfind hpfind
    split at h
    · cases h
    · cases h
      have hrole := (Lib.NamedTable.find?_eq_some.mp hfind).1
      have hpermission := (Lib.NamedTable.find?_eq_some.mp hpfind).1
      refine ⟨rfl, List.Subset.refl _, ?_, ?_⟩
      · -- the new link leads to rows that were just found
        intro hlinked
        refine ⟨hlinked.users, hlinked.roles, ?_, ?_⟩
        · intro link hlink
          rcases List.mem_append.mp hlink with hlink | hlink
          · exact hlinked.permissionRoles link hlink
          · exact ⟨role, hrole, by rw [List.mem_singleton.mp hlink]⟩
        · intro link hlink
          rcases List.mem_append.mp hlink with hlink | hlink
          · exact hlinked.permissions link hlink
          · exact ⟨permission, hpermission, by rw [List.mem_singleton.mp hlink]⟩
      · intro _
        refine ⟨.grant role.name permission.action, by simp [RbacCall.edit, hfind, hpfind],
          trivial, ?_⟩
        apply Lib.Rbac.ext
        · rfl
        · rfl
        · rfl
        · -- what the roles carry grows by the one pair
          ext ⟨n, a⟩
          constructor
          · rintro ⟨r, hr, p, hp, hlink, rfl, rfl⟩
            rcases List.mem_append.mp hlink with hlink | hlink
            · exact Or.inl ⟨r, hr, p, hp, hlink, rfl, rfl⟩
            · refine Or.inr ⟨?_, ⟨role, hrole, rfl⟩, ⟨permission, hpermission, rfl⟩⟩
              exact (RbacTables.link_eq hrole hr hpermission hp).mp (List.mem_singleton.mp hlink)
          · rintro (⟨r, hr, p, hp, hlink, rfl, rfl⟩ | ⟨heq, -, -⟩)
            · exact ⟨r, hr, p, hp, List.mem_append_left _ hlink, rfl, rfl⟩
            · cases heq
              exact ⟨role, hrole, permission, hpermission,
                List.mem_append_right _ (List.mem_singleton.mpr rfl), rfl, rfl⟩

theorem removePermissionFromRole_edits {roleId permissionId : Int}
    (h : removePermissionFromRole t roleId permissionId = .ok (some t')) :
    (RbacCall.removePermissionFromRole roleId permissionId).Edits t t' := by
  unfold removePermissionFromRole at h
  split at h
  · cases h
  · cases h
  · rename_i role permission hfind hpfind
    split at h
    · cases h
      have hrole := (Lib.NamedTable.find?_eq_some.mp hfind).1
      have hpermission := (Lib.NamedTable.find?_eq_some.mp hpfind).1
      refine ⟨rfl, List.Subset.refl _, ?_, ?_⟩
      · -- fewer links lead to the same rows
        intro hlinked
        exact ⟨hlinked.users, hlinked.roles,
          fun link hlink => hlinked.permissionRoles link (List.mem_filter.mp hlink).1,
          fun link hlink => hlinked.permissions link (List.mem_filter.mp hlink).1⟩
      · intro _
        refine ⟨.revoke role.name permission.action, by simp [RbacCall.edit, hfind, hpfind],
          trivial, ?_⟩
        apply Lib.Rbac.ext
        · rfl
        · rfl
        · rfl
        · ext ⟨n, a⟩
          -- what the roles carry loses the one pair, for a pair has one link only
          constructor
          · rintro ⟨r, hr, p, hp, hlink, rfl, rfl⟩
            obtain ⟨hlink, hne⟩ := List.mem_filter.mp hlink
            refine ⟨⟨r, hr, p, hp, hlink, rfl, rfl⟩, ?_⟩
            intro heq
            exact of_decide_eq_true hne ((RbacTables.link_eq hrole hr hpermission hp).mpr heq)
          · rintro ⟨⟨r, hr, p, hp, hlink, rfl, rfl⟩, hne⟩
            refine ⟨r, hr, p, hp, List.mem_filter.mpr ⟨hlink, decide_eq_true ?_⟩, rfl, rfl⟩
            intro heq
            exact hne ((RbacTables.link_eq hrole hr hpermission hp).mp heq)
    · cases h

/-- A handler that commits edits the directory once. -/
theorem RbacCall.handle_edits {call : RbacCall} {answer : RbacAnswer}
    (h : call.handle t = .ok (answer, some t')) : call.Edits t t' := by
  cases call with
  | createRole name =>
      obtain ⟨⟨role, t''⟩, hcall, heq⟩ := Lib.bind_eq_ok.mp h
      cases heq
      exact createRole_edits hcall
  | updateRole roleId name =>
      obtain ⟨⟨role, t''⟩, hcall, heq⟩ := Lib.bind_eq_ok.mp h
      cases heq
      exact updateRole_edits hcall
  | deleteRole roleId =>
      obtain ⟨t'', hcall, heq⟩ := Lib.bind_eq_ok.mp h
      cases heq
      exact deleteRole_edits hcall
  | addPermissionToRole roleId permissionId =>
      obtain ⟨⟨permission, t''⟩, hcall, heq⟩ := Lib.bind_eq_ok.mp h
      cases heq
      exact addPermissionToRole_edits hcall
  | removePermissionFromRole roleId permissionId =>
      obtain ⟨t'', hcall, heq⟩ := Lib.bind_eq_ok.mp h
      cases heq
      exact removePermissionFromRole_edits hcall
  | createPermission action =>
      obtain ⟨⟨permission, t''⟩, hcall, heq⟩ := Lib.bind_eq_ok.mp h
      cases heq
      exact createPermission_edits hcall
  | updatePermission permissionId action =>
      obtain ⟨⟨permission, t''⟩, hcall, heq⟩ := Lib.bind_eq_ok.mp h
      cases heq
      exact updatePermission_edits hcall
  | deletePermission permissionId =>
      obtain ⟨t'', hcall, heq⟩ := Lib.bind_eq_ok.mp h
      cases heq
      exact deletePermission_edits hcall

/-! ## The same request again -/

/-- The tables a request leaves when its writes complete. -/
def RbacCall.after (call : RbacCall) (t : RbacTables) : RbacTables :=
  match call.handle t with
  | .ok (_, some t') => t'
  | _ => t

theorem RbacCall.after_of_handle {call : RbacCall} (answer : RbacAnswer)
    (h : call.handle t = .ok (answer, some t')) : call.after t = t' := by
  unfold RbacCall.after
  rw [h]

theorem RbacCall.after_of_error {call : RbacCall} {e : ApiError}
    (h : call.handle t = .error e) : call.after t = t := by
  unfold RbacCall.after
  rw [h]

theorem RbacCall.after_of_none {call : RbacCall} (answer : RbacAnswer)
    (h : call.handle t = .ok (answer, none)) : call.after t = t := by
  unfold RbacCall.after
  rw [h]

/-- A create is refused the second time. -/
theorem createRole_again {name : String} {role : Role} (h : createRole t name = .ok (role, t')) :
    createRole t' name = .error roleExists := by
  unfold createRole at h
  split at h
  · cases h
  · rename_i _ _ hcreate
    cases h
    unfold createRole
    rw [Lib.NamedTable.create_again hcreate]

theorem createPermission_again {action : String} {permission : Permission}
    (h : createPermission t action = .ok (permission, t')) :
    createPermission t' action = .error permissionExists := by
  unfold createPermission at h
  split at h
  · cases h
  · rename_i _ _ hcreate
    cases h
    unfold createPermission
    rw [Lib.NamedTable.create_again hcreate]

/-- An update writes the same tables the second time. -/
theorem updateRole_again {roleId : Int} {name : String} {role : Role}
    (h : updateRole t roleId name = .ok (role, t')) :
    updateRole t' roleId name = .ok (role, t') := by
  unfold updateRole at h
  split at h
  · cases h
  · rename_i old hfind
    split at h
    · cases h
    · rename_i roles hrename
      cases h
      obtain ⟨hold, hid⟩ := Lib.NamedTable.find?_eq_some.mp hfind
      have hrow : roles.find? roleId = some ⟨roleId, name⟩ := by
        apply Lib.NamedTable.find?_eq_some.mpr
        refine ⟨?_, rfl⟩
        rw [(Lib.NamedTable.rename_eq_some hrename).2]
        exact Lib.NamedTable.mem_renamed.mpr (Or.inr ⟨rfl, old, hold, hid⟩)
      unfold updateRole
      simp only [hrow, Lib.NamedTable.rename_again hrename]

theorem updatePermission_again {permissionId : Int} {action : String} {permission : Permission}
    (h : updatePermission t permissionId action = .ok (permission, t')) :
    updatePermission t' permissionId action = .ok (permission, t') := by
  unfold updatePermission at h
  split at h
  · cases h
  · rename_i old hfind
    split at h
    · cases h
    · rename_i permissions hrename
      cases h
      obtain ⟨hold, hid⟩ := Lib.NamedTable.find?_eq_some.mp hfind
      have hrow : permissions.find? permissionId = some ⟨permissionId, action⟩ := by
        apply Lib.NamedTable.find?_eq_some.mpr
        refine ⟨?_, rfl⟩
        rw [(Lib.NamedTable.rename_eq_some hrename).2]
        exact Lib.NamedTable.mem_renamed.mpr (Or.inr ⟨rfl, old, hold, hid⟩)
      unfold updatePermission
      simp only [hrow, Lib.NamedTable.rename_again hrename]

theorem deleteRole_of_none {roleId : Int} (h : t.roles.find? roleId = none) :
    deleteRole t roleId = .error roleNotFound := by
  unfold deleteRole
  rw [h]

theorem deletePermission_of_none {permissionId : Int} (h : t.permissions.find? permissionId = none) :
    deletePermission t permissionId = .error permissionNotFound := by
  unfold deletePermission
  rw [h]

/-- A delete finds nothing the second time. -/
theorem deleteRole_again {roleId : Int} (h : deleteRole t roleId = .ok t') :
    deleteRole t' roleId = .error roleNotFound := by
  unfold deleteRole at h
  split at h
  · cases h
  · rename_i role hfind
    obtain ⟨-, rfl⟩ := Lib.NamedTable.find?_eq_some.mp hfind
    cases h
    exact deleteRole_of_none (Lib.NamedTable.find?_delete t.roles role.id)

theorem deletePermission_again {permissionId : Int} (h : deletePermission t permissionId = .ok t') :
    deletePermission t' permissionId = .error permissionNotFound := by
  unfold deletePermission at h
  split at h
  · cases h
  · rename_i permission hfind
    obtain ⟨-, rfl⟩ := Lib.NamedTable.find?_eq_some.mp hfind
    cases h
    exact deletePermission_of_none (Lib.NamedTable.find?_delete t.permissions permission.id)

/-- A link that is there is not added again. -/
theorem addPermissionToRole_again {roleId permissionId : Int} {permission : Permission}
    (h : addPermissionToRole t roleId permissionId = .ok (permission, some t')) :
    addPermissionToRole t' roleId permissionId = .ok (permission, none) := by
  unfold addPermissionToRole at h
  split at h
  · cases h
  · cases h
  · rename_i role permission' hfind hpfind
    split at h
    · cases h
    · cases h
      -- the permission is now one of the role's
      have hlinked : permission ∈ RbacTables.permissionsOf
          { t with
            rolePermissions := t.rolePermissions ++ [(role.id, permission.id)]
            rolePermissionsKey := nodup_addLink hpfind ‹_› } role.id :=
        RbacTables.mem_permissionsOf.mpr ⟨(Lib.NamedTable.find?_eq_some.mp hpfind).1,
          List.mem_append_right _ (List.mem_singleton.mpr rfl)⟩
      unfold addPermissionToRole
      -- the rows are found as before, so the second call stops at the link
      split
      · rename_i hnone
        rw [hfind] at hnone
        cases hnone
      · rename_i hnone
        rw [hpfind] at hnone
        cases hnone
      · rename_i hfind' hpfind'
        rw [hfind] at hfind'
        rw [hpfind] at hpfind'
        cases hfind'
        cases hpfind'
        rw [dif_pos hlinked]

/-- A link that is gone is not removed again. -/
theorem removePermissionFromRole_again {roleId permissionId : Int}
    (h : removePermissionFromRole t roleId permissionId = .ok (some t')) :
    removePermissionFromRole t' roleId permissionId = .ok none := by
  unfold removePermissionFromRole at h
  split at h
  · cases h
  · cases h
  · rename_i role permission hfind hpfind
    split at h
    · cases h
      unfold removePermissionFromRole
      dsimp only
      rw [hfind, hpfind]
      dsimp only
      rw [if_neg]
      intro hmem
      have hlink := (RbacTables.mem_permissionsOf.mp hmem).2
      exact of_decide_eq_true (List.mem_filter.mp hlink).2 rfl
    · cases h

/-- A request that is sent again after it has been committed changes nothing. -/
theorem RbacCall.after_committed {call : RbacCall} {answer : RbacAnswer}
    (h : call.handle t = .ok (answer, some t')) : call.after t' = t' := by
  cases call with
  | createRole name =>
      obtain ⟨⟨role, t''⟩, hcall, heq⟩ := Lib.bind_eq_ok.mp h
      cases heq
      apply RbacCall.after_of_error (e := roleExists)
      simp only [RbacCall.handle, createRole_again hcall, Lib.error_bind]
  | updateRole roleId name =>
      obtain ⟨⟨role, t''⟩, hcall, heq⟩ := Lib.bind_eq_ok.mp h
      cases heq
      apply RbacCall.after_of_handle (.role role)
      simp only [RbacCall.handle, updateRole_again hcall, Lib.ok_bind]
  | deleteRole roleId =>
      obtain ⟨t'', hcall, heq⟩ := Lib.bind_eq_ok.mp h
      cases heq
      apply RbacCall.after_of_error (e := roleNotFound)
      simp only [RbacCall.handle, deleteRole_again hcall, Lib.error_bind]
  | addPermissionToRole roleId permissionId =>
      obtain ⟨⟨permission, t''⟩, hcall, heq⟩ := Lib.bind_eq_ok.mp h
      cases heq
      apply RbacCall.after_of_none (.permission permission)
      simp only [RbacCall.handle, addPermissionToRole_again hcall, Lib.ok_bind]
  | removePermissionFromRole roleId permissionId =>
      obtain ⟨t'', hcall, heq⟩ := Lib.bind_eq_ok.mp h
      cases heq
      apply RbacCall.after_of_none (.link roleId permissionId)
      simp only [RbacCall.handle, removePermissionFromRole_again hcall, Lib.ok_bind]
  | createPermission action =>
      obtain ⟨⟨permission, t''⟩, hcall, heq⟩ := Lib.bind_eq_ok.mp h
      cases heq
      apply RbacCall.after_of_error (e := permissionExists)
      simp only [RbacCall.handle, createPermission_again hcall, Lib.error_bind]
  | updatePermission permissionId action =>
      obtain ⟨⟨permission, t''⟩, hcall, heq⟩ := Lib.bind_eq_ok.mp h
      cases heq
      apply RbacCall.after_of_handle (.permission permission)
      simp only [RbacCall.handle, updatePermission_again hcall, Lib.ok_bind]
  | deletePermission permissionId =>
      obtain ⟨t'', hcall, heq⟩ := Lib.bind_eq_ok.mp h
      cases heq
      apply RbacCall.after_of_error (e := permissionNotFound)
      simp only [RbacCall.handle, deletePermission_again hcall, Lib.error_bind]

end KeyNetra
