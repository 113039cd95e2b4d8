import Orbetra.Framework.Async

/-!
# The scope and the tier of users

`POST`, `PATCH` and `DELETE` of `/v1/users` and `DELETE /v1/accounts/:id`, with the repositories
under them.  A caller's role and account come from its token.  Each route decides from a row that it
has read, and writes by the id alone; deleting an account sets the `accountId` of its users to null.

A request gives no role from below, makes nobody tenant-wide unasked and leaves the caller's equals
alone, as long as nobody is promoted between its tier guard and its write, and no user joins an
account between the count of its users and its deletion (`scope_and_tier_kept`,
`scope_and_tier_slip`).
-/

namespace Orbetra.Users

open Async List Function Option

/-! ## Roles -/

inductive Role
  | platformAdmin
  | tspAdmin
  | accountManager
  | viewer
  deriving DecidableEq

def Role.tier : Role → ℕ
  | .viewer => 0
  | .accountManager => 1
  | .tspAdmin => 2
  | .platformAdmin => 3

/-- `canGrantRole` -/
def canGrantRole (actor target : Role) : Bool :=
  if target = .platformAdmin then actor = .platformAdmin else target.tier ≤ actor.tier

/-- `canManageUser` -/
def canManageUser (actor targetCurrent : Role) : Bool :=
  actor = .platformAdmin || targetCurrent.tier < actor.tier

lemma tier_le_of_canGrantRole {actor target : Role} (h : canGrantRole actor target = true) :
    target.tier ≤ actor.tier := by
  unfold canGrantRole at h
  split at h
  · rename_i htarget
    rw [htarget, of_decide_eq_true h]
  · exact of_decide_eq_true h

/-- `TENANT_ADMINS`, the write policy of `user` and of `account`. -/
def tenantAdmins : List Role := [.platformAdmin, .tspAdmin]

/-! ## The store -/

abbrev UserId := ℕ

abbrev AccountId := ℕ

abbrev TenantId := ℕ

/-- The claims of a token. -/
structure AuthContext where
  userId : UserId
  role : Role
  tenantId : TenantId
  /-- `none` is tenant-wide. -/
  accountId : Option AccountId
  deriving DecidableEq

structure Scope where
  tenantId : TenantId
  accountId : Option AccountId
  deriving DecidableEq

def scopeOf (auth : AuthContext) : Scope := ⟨auth.tenantId, auth.accountId⟩

structure Account where
  id : AccountId
  tenantId : TenantId
  deriving DecidableEq

/-- What the repository returns of a user. -/
structure UserView where
  id : UserId
  tenantId : TenantId
  accountId : Option AccountId
  email : String
  role : Role
  locale : String
  deriving DecidableEq

structure User extends UserView where
  passwordHash : String
  deriving DecidableEq

/-- What `users.create` inserts. -/
structure NewUser where
  tenantId : TenantId
  accountId : Option AccountId
  email : String
  role : Role
  passwordHash : String
  deriving DecidableEq

structure UserUpdate where
  role : Option Role
  /-- `some none` is an explicit null. -/
  accountId : Option (Option AccountId)
  locale : Option String
  passwordHash : Option String
  deriving DecidableEq

def UserUpdate.apply (data : UserUpdate) (u : User) : User :=
  { u with
    role := data.role.getD u.role
    accountId := data.accountId.getD u.accountId
    locale := data.locale.getD u.locale
    passwordHash := data.passwordHash.getD u.passwordHash }

/-- The rows, and what the tier guard of each request has read. -/
structure UserStore (ι : Type) where
  users : List User
  accounts : List Account
  nextId : UserId
  guard : ι → Option Role

def UserView.inScope (u : UserView) (scope : Scope) : Bool :=
  u.tenantId = scope.tenantId && scope.accountId.all (u.accountId = some ·)

variable {ι : Type}

def UserStore.scopedById (s : UserStore ι) (scope : Scope) (id : UserId) : Option UserView :=
  (s.users.find? fun u => u.toUserView.inScope scope && u.id = id).map User.toUserView

def UserStore.findScoped (s : UserStore ι) (scope : Scope) (id : AccountId) : Option Account :=
  if scope.accountId.any (id ≠ ·) then none
  else s.accounts.find? fun account => account.tenantId = scope.tenantId && account.id = id

def UserStore.hasAccount (s : UserStore ι) (accountId : Option AccountId) : Bool :=
  accountId.all fun id => s.accounts.any (·.id = id)

/-- One command to Postgres or to Redis. -/
inductive UserCommand (ι : Type)
  | readinessOf (me : ι)
  | getAccount (scope : Scope) (id : AccountId)
  /-- `users.get`, by which a route decides. -/
  | getUser (me : ι) (scope : Scope) (id : UserId)
  /-- The `before` of the repository. -/
  | findUser (scope : Scope) (id : UserId)
  | insertUser (data : NewUser)
  | updateUser (id : UserId) (data : UserUpdate)
  | deleteUser (id : UserId)
  | countUsers (accountId : AccountId)
  | deleteAccount (id : AccountId)
  | audit
  | revokeAllForUser (id : UserId)
  | markSessionsRevoked (id : UserId)
  deriving DecidableEq

/-- What a command is answered with; a write of a row that is not there, or that a constraint
refuses, with `none`. -/
def UserCommand.Answer : UserCommand ι → Type
  | .readinessOf _ => List String
  | .getAccount .. => Option Account
  | .getUser .. => Option UserView
  | .findUser .. => Option UserView
  | .insertUser _ => Option UserView
  | .updateUser .. => Option UserView
  | .deleteUser _ => Option Unit
  | .countUsers _ => ℕ
  | .deleteAccount _ => Option Unit
  | _ => Unit

/-- What the routes run against: the hard blockers that each request finds, and the hash. -/
structure Setting (ι : Type) where
  hardBlockers : ι → List String
  hashPassword : String → String

variable [DecidableEq ι]

def UserCommand.run (setting : Setting ι) :
    (c : UserCommand ι) → UserStore ι → UserStore ι × c.Answer
  | .readinessOf me, s => (s, setting.hardBlockers me)
  | .getAccount scope id, s => (s, s.findScoped scope id)
  | .getUser me scope id, s =>
    ({ s with guard := update s.guard me ((s.scopedById scope id).map (·.role)) },
      s.scopedById scope id)
  | .findUser scope id, s => (s, s.scopedById scope id)
  | .insertUser data, s =>
    if s.users.any (fun u => u.tenantId = data.tenantId && u.email = data.email) ||
        !s.hasAccount data.accountId then
      (s, none)
    else
      let row : User := ⟨⟨s.nextId, data.tenantId, data.accountId, data.email, data.role, "en"⟩,
        data.passwordHash⟩
      ({ s with users := s.users ++ [row], nextId := s.nextId + 1 }, some row.toUserView)
  | .updateUser id data, s =>
    match s.users.find? (·.id = id) with
    | none => (s, none)
    | some u =>
      if s.hasAccount (data.accountId.getD none) then
        ({ s with users := s.users.map fun u => if u.id = id then data.apply u else u },
          some (data.apply u).toUserView)
      else (s, none)
  | .deleteUser id, s =>
    if s.users.any (·.id = id) then ({ s with users := s.users.filter (·.id ≠ id) }, some ())
    else (s, none)
  | .countUsers accountId, s => (s, s.users.countP (·.accountId = some accountId))
  | .deleteAccount id, s =>
    if s.accounts.any (·.id = id) then
      ({ s with
        accounts := s.accounts.filter (·.id ≠ id)
        -- `onDelete: SetNull`
        users := s.users.map fun u => if u.accountId = some id then { u with accountId := none }
          else u }, some ())
    else (s, none)
  | .audit, s => (s, ())
  | .revokeAllForUser _, s => (s, ())
  | .markSessionsRevoked _, s => (s, ())

abbrev userService (ι : Type) [DecidableEq ι] (setting : Setting ι) : Service (UserStore ι) where
  Cmd := UserCommand ι
  Answer := UserCommand.Answer
  run := UserCommand.run setting

/-! ## The routes -/

/-- What a route throws. -/
inductive UserError
  | failed
  | accountHasUsers (userCount : ℕ)
  deriving DecidableEq

/-- What a route answers. -/
inductive Reply
  | problem (status : ℕ) (title detail : String)
  | created (row : UserView)
  | row (row : UserView)
  | ok
  deriving DecidableEq

variable {setting : Setting ι}

abbrev Request (ι : Type) [DecidableEq ι] (setting : Setting ι) :=
  Async (userService ι setting) UserError

def send (c : UserCommand ι) : Request ι setting c.Answer :=
  Async.send (V := userService ι setting) UserError.failed c

/-- A write; one that finds no row, or that a constraint refuses, throws. -/
def written {α : Type} : Option α → Request ι setting α
  | some a => pure a
  | none => .threw .failed

/-- A failure that is only logged. -/
def quietly (m : Request ι setting Unit) : Request ι setting Unit := m.attempt fun _ => pure ()

def notFound : Reply := .problem 404 "Not Found" ""

def badRequest (detail : String) : Reply := .problem 400 "Bad Request" detail

def forbidden (detail : String) : Reply := .problem 403 "Forbidden" detail

/-- `userCreateSchema` -/
structure UserCreateBody where
  email : String
  password : String
  role : Role
  accountId : Option AccountId
  deriving DecidableEq

/-- `userUpdateSchema` -/
structure UserUpdateBody where
  role : Option Role
  accountId : Option (Option AccountId)
  locale : Option String
  password : Option String
  deriving DecidableEq

/-- `email.trim().toLowerCase()`, of an address that the schema has let through. -/
def normalizedEmail (email : String) : String :=
  let trimmed := (email.toList.dropWhile Char.isWhitespace).reverse.dropWhile Char.isWhitespace
  String.ofList (trimmed.reverse.map Char.toLower)

def createUser (scope : Scope) (email passwordHash : String) (role : Role)
    (accountId : Option AccountId) : Request ι setting UserView := do
  let inserted : Option UserView ←
    send (.insertUser ⟨scope.tenantId, accountId, normalizedEmail email, role, passwordHash⟩)
  let row ← written inserted
  let _ : Unit ← send .audit
  pure row

def updateUser (scope : Scope) (id : UserId) (data : UserUpdate) :
    Request ι setting (Option UserView) := do
  let before : Option UserView ← send (.findUser scope id)
  match before with
  | none => pure none
  | some _ =>
    let updated : Option UserView ← send (.updateUser id data)
    let row ← written updated
    let _ : Unit ← send .audit
    pure (some row)

def removeUser (scope : Scope) (id : UserId) : Request ι setting Bool := do
  let before : Option UserView ← send (.findUser scope id)
  match before with
  | none => pure false
  | some _ =>
    let deleted : Option Unit ← send (.deleteUser id)
    let _ ← written deleted
    let _ : Unit ← send .audit
    pure true

def removeAccount (scope : Scope) (id : AccountId) : Request ι setting Bool := do
  let before : Option Account ← send (.getAccount scope id)
  match before with
  | none => pure false
  | some _ =>
    let userCount : ℕ ← send (.countUsers id)
    if 0 < userCount then
      .threw (.accountHasUsers userCount)
    else
      let deleted : Option Unit ← send (.deleteAccount id)
      let _ ← written deleted
      let _ : Unit ← send .audit
      pure true

/-- `requireReady`; a failing lookup counts as ready. -/
def requireReady (me : ι) (a : AuthContext) : Request ι setting (Option Reply) := do
  if a.role = .platformAdmin then
    pure none
  else
    let hardBlockers : List String ← (send (.readinessOf me)).attempt fun _ => pure []
    match hardBlockers with
    | [] => pure none
    | hardBlockers =>
      pure (some (match a.accountId with
        | none => forbidden ("not_ready: " ++ ",".intercalate hardBlockers)
        | some _ => forbidden "not_ready"))

def accountInScope (a : AuthContext) : Option AccountId → Request ι setting Bool
  | none => pure true
  | some id => do
    let account : Option Account ← send (.getAccount (scopeOf a) id)
    pure account.isSome

def postUser (me : ι) (a : AuthContext) (body : Option UserCreateBody) :
    Request ι setting Reply := do
  match body with
  | none => pure (badRequest "")
  | some data =>
    if canGrantRole a.role data.role = false then
      pure (forbidden "cannot grant that role")
    else
      let accountId := if a.accountId.isSome then a.accountId else data.accountId
      if ← accountInScope a accountId then
        match ← requireReady me a with
        | some notReady => pure notReady
        | none =>
          let created ← createUser (scopeOf a) data.email (setting.hashPassword data.password)
            data.role accountId
          pure (.created created)
      else
        pure (badRequest "accountId not in scope")

def moveRefused (a : AuthContext) : Option (Option AccountId) → Request ι setting (Option Reply)
  | none => pure none
  | some accountId => do
    if a.accountId.isSome ∧ accountId ≠ a.accountId then
      pure (some (forbidden "cannot move users across accounts"))
    else if ← accountInScope a accountId then
      pure none
    else
      pure (some (badRequest "accountId not in scope"))

def patchUser (me : ι) (a : AuthContext) (id : UserId) (body : Option UserUpdateBody) :
    Request ι setting Reply := do
  match body with
  | none => pure (badRequest "")
  | some data =>
    let target : Option UserView ← send (.getUser me (scopeOf a) id)
    match target with
    | none => pure notFound
    | some target =>
      if target.id ≠ a.userId ∧ canManageUser a.role target.role = false then
        pure (forbidden "cannot modify a user of equal or higher privilege")
      else if data.role.any (canGrantRole a.role · = false) then
        pure (forbidden "cannot grant that role")
      else
        match ← moveRefused a data.accountId with
        | some refused => pure refused
        | none =>
          let row ← updateUser (scopeOf a) id
            ⟨data.role, data.accountId, data.locale, data.password.map setting.hashPassword⟩
          match row with
          | none => pure notFound
          | some row =>
            let scopeChanged := data.role.any (· ≠ target.role) ∨
              data.accountId.any (· ≠ target.accountId)
            when (data.password.isSome ∨ scopeChanged) (do
              quietly (send (.revokeAllForUser id))
              quietly (send (.markSessionsRevoked id)))
            pure (.row row)

def deleteUser (me : ι) (a : AuthContext) (id : UserId) : Request ι setting Reply := do
  let target : Option UserView ← send (.getUser me (scopeOf a) id)
  match target with
  | none => pure notFound
  | some target =>
    if target.id ≠ a.userId ∧ canManageUser a.role target.role = false then
      pure (forbidden "cannot delete a user of equal or higher privilege")
    else if ← removeUser (scopeOf a) id then
      quietly (send (.markSessionsRevoked id))
      pure .ok
    else
      pure notFound

def deleteAccount (a : AuthContext) (id : AccountId) : Request ι setting Reply :=
  (do
    if ← removeAccount (scopeOf a) id then pure Reply.ok else pure notFound).attempt fun
      | .accountHasUsers _ => pure (.problem 409 "Conflict" "account_has_users")
      | .failed => .threw .failed

inductive UserCall
  | create (body : Option UserCreateBody)
  | patch (id : UserId) (body : Option UserUpdateBody)
  | delete (id : UserId)
  | deleteAccount (id : AccountId)
  deriving DecidableEq

/-- `requireRole`, then the route. -/
def UserCall.program (me : ι) (a : AuthContext) (call : UserCall) : Request ι setting Reply :=
  if a.role ∈ tenantAdmins then
    match call with
    | .create body => postUser me a body
    | .patch id body => patchUser me a id body
    | .delete id => Users.deleteUser me a id
    | .deleteAccount id => Users.deleteAccount a id
  else
    pure (forbidden "")

/-- The request says `accountId: null`. -/
def UserCall.AsksTenantWide : UserCall → Prop
  | .create body => ∃ data ∈ body, data.accountId = none
  | .patch _ body => ∃ data ∈ body, data.accountId = some none
  | _ => False

/-! ## What a request may do -/

/-- What one step of a request may do to the users. -/
structure Proper (a : AuthContext) (call : UserCall) (s s' : UserStore ι) : Prop where
  /-- A user becomes tenant-wide where a tenant-wide caller asks for it. -/
  scope : ∀ u' ∈ s'.users, u'.accountId = none →
    (∃ u ∈ s.users, u.id = u'.id ∧ u.accountId = none) ∨ a.accountId = none ∧ call.AsksTenantWide
  /-- A role is given from its own tier or from above, `platform_admin` only by one. -/
  role : ∀ u' ∈ s'.users,
    (∃ u ∈ s.users, u.id = u'.id ∧ u.role = u'.role) ∨ u'.role.tier ≤ a.role.tier
  /-- Others of the caller's tier and above are left as they are. -/
  others : a.role ≠ .platformAdmin → ∀ u ∈ s.users, u.id ≠ a.userId →
    a.role.tier ≤ u.role.tier → u ∈ s'.users

/-- The tier guard of the request has let the user pass. -/
def Cleared (a : AuthContext) (me : ι) (id : UserId) (s : UserStore ι) : Prop :=
  a.role = .platformAdmin ∨ id = a.userId ∨ ∃ r ∈ s.guard me, r.tier < a.role.tier

/-- Nobody whom the tier guard has let pass was promoted to the caller's tier since. -/
def Unpromoted (a : AuthContext) (me : ι) (id : UserId) (s : UserStore ι) : Prop :=
  a.role = .platformAdmin ∨ id = a.userId ∨ ∀ u ∈ s.users, u.id = id → ∀ r ∈ s.guard me,
    ¬ (r.tier < a.role.tier ∧ a.role.tier ≤ u.role.tier)

/-- No promotion, and no new user of an account, comes between what a request has read and what it
writes. -/
def Unraced (a : AuthContext) (me : ι) (s : UserStore ι) : UserCommand ι → Prop
  | .updateUser id _ => Unpromoted a me id s
  | .deleteUser id => Unpromoted a me id s
  | .deleteAccount id => ∀ u ∈ s.users, u.accountId ≠ some id
  | _ => True

/-- The commands that only read, or write elsewhere. -/
def UserCommand.Plain : UserCommand ι → Prop
  | .getUser .. => False
  | .insertUser _ => False
  | .updateUser .. => False
  | .deleteUser _ => False
  | .deleteAccount _ => False
  | _ => True

variable {a : AuthContext} {call : UserCall} {me : ι} {id : UserId} {s s' : UserStore ι}

omit [DecidableEq ι] in
lemma Proper.of_same (h : s'.users = s.users) : Proper a call s s' := by
  refine ⟨fun u' hu' hnone => ?_, fun u' hu' => ?_, fun _ u hu _ _ => h ▸ hu⟩
  · exact Or.inl ⟨u', h ▸ hu', rfl, hnone⟩
  · exact Or.inl ⟨u', h ▸ hu', rfl, rfl⟩

lemma proper_insertUser {data : NewUser} (hrole : canGrantRole a.role data.role = true)
    (haccount : data.accountId = none → a.accountId = none ∧ call.AsksTenantWide) :
    Proper a call s (UserCommand.run setting (.insertUser data) s).1 := by
  unfold UserCommand.run
  dsimp only
  split
  · exact .of_same rfl
  refine ⟨fun u' hu' hnone => ?_, fun u' hu' => ?_, fun _ u hu _ _ => mem_append_left _ hu⟩
  · rcases mem_append.mp hu' with hu' | hu'
    · exact Or.inl ⟨u', hu', rfl, hnone⟩
    · obtain rfl := mem_singleton.mp hu'
      exact Or.inr (haccount hnone)
  · rcases mem_append.mp hu' with hu' | hu'
    · exact Or.inl ⟨u', hu', rfl, rfl⟩
    · obtain rfl := mem_singleton.mp hu'
      exact Or.inr (tier_le_of_canGrantRole hrole)

omit [DecidableEq ι] in
/-- A user who was let pass, and was not promoted since, is the caller or below the caller. -/
lemma Cleared.eq_or_lt (hcleared : Cleared a me id s) (hunpromoted : Unpromoted a me id s)
    (hadmin : a.role ≠ .platformAdmin) {u : User} (hu : u ∈ s.users) (hid : u.id = id) :
    u.id = a.userId ∨ u.role.tier < a.role.tier := by
  subst hid
  rcases hunpromoted with h | h | hunpromoted
  · exact absurd h hadmin
  · exact Or.inl h
  rcases hcleared with h | h | ⟨r, hr, hlt⟩
  · exact absurd h hadmin
  · exact Or.inl h
  · exact Or.inr (not_le.mp fun hle => hunpromoted u hu rfl r hr ⟨hlt, hle⟩)

variable {data : UserUpdate}

lemma proper_updateUser (hcleared : Cleared a me id s) (hunpromoted : Unpromoted a me id s)
    (hrole : ∀ role ∈ data.role, canGrantRole a.role role = true)
    (haccount : data.accountId = some none → a.accountId = none ∧ call.AsksTenantWide) :
    Proper a call s (UserCommand.run setting (.updateUser id data) s).1 := by
  unfold UserCommand.run
  dsimp only
  split
  · exact .of_same rfl
  split
  swap
  · exact .of_same rfl
  have hold : ∀ u' ∈ s.users.map (fun u => if u.id = id then data.apply u else u),
      ∃ u ∈ s.users, u' = u ∨ u' = data.apply u := by
    intro u' hu'
    obtain ⟨u, hu, rfl⟩ := mem_map.mp hu'
    refine ⟨u, hu, ?_⟩
    split
    · exact Or.inr rfl
    · exact Or.inl rfl
  refine ⟨fun u' hu' hnone => ?_, fun u' hu' => ?_, fun hadmin u hu hother htier => ?_⟩
  · obtain ⟨u, hu, rfl | rfl⟩ := hold u' hu'
    · exact Or.inl ⟨u', hu, rfl, hnone⟩
    · cases hdata : data.accountId with
      | none =>
        have hkept : (data.apply u).accountId = u.accountId := by
          show data.accountId.getD u.accountId = _
          rw [hdata, getD_none]
        exact Or.inl ⟨u, hu, rfl, hkept.symm.trans hnone⟩
      | some accountId =>
        have hset : (data.apply u).accountId = accountId := by
          show data.accountId.getD u.accountId = _
          rw [hdata, getD_some]
        exact Or.inr (haccount (by rw [hdata, ← hset, hnone]))
  · obtain ⟨u, hu, rfl | rfl⟩ := hold u' hu'
    · exact Or.inl ⟨u', hu, rfl, rfl⟩
    · cases hdata : data.role with
      | none =>
        have hkept : (data.apply u).role = u.role := by
          show data.role.getD u.role = _
          rw [hdata, getD_none]
        exact Or.inl ⟨u, hu, rfl, hkept.symm⟩
      | some role =>
        have hset : (data.apply u).role = role := by
          show data.role.getD u.role = _
          rw [hdata, getD_some]
        exact Or.inr (tier_le_of_canGrantRole (hset ▸ hrole role hdata))
  · have hne : u.id ≠ id := by
      intro hid
      rcases hcleared.eq_or_lt hunpromoted hadmin hu hid with h | h
      · exact hother h
      · exact absurd htier (not_le.mpr h)
    exact mem_map.mpr ⟨u, hu, if_neg hne⟩

lemma proper_deleteUser (hcleared : Cleared a me id s) (hunpromoted : Unpromoted a me id s) :
    Proper a call s (UserCommand.run setting (.deleteUser id) s).1 := by
  unfold UserCommand.run
  dsimp only
  split
  swap
  · exact .of_same rfl
  refine ⟨fun u' hu' hnone => ?_, fun u' hu' => ?_, fun hadmin u hu hother htier => ?_⟩
  · exact Or.inl ⟨u', (mem_filter.mp hu').1, rfl, hnone⟩
  · exact Or.inl ⟨u', (mem_filter.mp hu').1, rfl, rfl⟩
  · refine mem_filter.mpr ⟨hu, decide_eq_true fun hid => ?_⟩
    rcases hcleared.eq_or_lt hunpromoted hadmin hu hid with h | h
    · exact hother h
    · exact absurd htier (not_le.mpr h)

lemma proper_deleteAccount {id : AccountId} (hnone : ∀ u ∈ s.users, u.accountId ≠ some id) :
    Proper a call s (UserCommand.run setting (.deleteAccount id) s).1 := by
  unfold UserCommand.run
  dsimp only
  split
  swap
  · exact .of_same rfl
  refine .of_same ?_
  show s.users.map _ = s.users
  refine (map_congr_left fun u hu => ?_).trans (map_id _)
  exact if_neg (hnone u hu)

/-! ## One request among others -/

/-- What a request relies on: its own guard is its own. -/
def Rely (me : ι) (_ : Option (UserCommand ι)) (s s' : UserStore ι) : Prop :=
  s'.guard me = s.guard me

def Promise (a : AuthContext) (call : UserCall) (me : ι) (_ : UserCommand ι)
    (s s' : UserStore ι) : Prop :=
  Proper a call s s' ∧ ∀ j, j ≠ me → s'.guard j = s.guard j

/-- Among others a request keeps its promise, as long as it is not overtaken. -/
abbrev Guarded {α : Type} (a : AuthContext) (call : UserCall) (me : ι)
    (Q : Except UserError α → UserStore ι → Prop) (m : Request ι setting α)
    (s : UserStore ι) : Prop :=
  Meets (fun s c _ => Unraced a me s c) (Rely me) (Promise a call me) Q m s

variable {α β : Type}

omit [DecidableEq ι] in
lemma stable_cleared {waiting : Option (UserCommand ι)} :
    Stable (Rely me waiting) (Cleared a me id) := by
  intro s s' henv h
  unfold Cleared at h ⊢
  rw [henv]
  exact h

omit [DecidableEq ι] in
lemma stable_true {waiting : Option (UserCommand ι)} :
    Stable (Rely me waiting) fun _ => True := fun _ _ _ _ => trivial

variable {c : UserCommand ι}

lemma UserCommand.Plain.run (hc : c.Plain) (setting : Setting ι) (s : UserStore ι) :
    (c.run setting s).1 = s := by
  cases c with
  | getUser me scope id => exact hc.elim
  | insertUser data => exact hc.elim
  | updateUser id data => exact hc.elim
  | deleteUser id => exact hc.elim
  | deleteAccount id => exact hc.elim
  | readinessOf me => rfl
  | getAccount scope id => rfl
  | findUser scope id => rfl
  | countUsers accountId => rfl
  | audit => rfl
  | revokeAllForUser id => rfl
  | markSessionsRevoked id => rfl

lemma guarded_done (r : α) (s : UserStore ι) :
    Guarded a call me (fun _ _ => True) (.done r : Request ι setting α) s :=
  .done (fun _ => True) trivial stable_true fun _ _ => trivial

variable {m : Request ι setting α} {J : UserStore ι → Prop}

/-- What only reads leaves an assertion that the others keep. -/
lemma guarded_plain (hm : m.Sends UserCommand.Plain) (hJ : ∀ waiting, Stable (Rely me waiting) J)
    (hs : J s) :
    Guarded a call me (fun _ => J) m s := by
  induction m generalizing s with
  | done r => exact .done J hs (hJ none) fun _ h => h
  | threw e => exact .threw J hs (hJ none) fun _ h => h
  | call c k ih =>
    refine ⟨J, hs, hJ _, fun s hs fate _ => ?_⟩
    have hsame : ((userService ι setting).answer c s fate).1 = s := by
      cases fate with
      | ok => exact hm.1.run setting s
      | refused => rfl
      | lost => exact hm.1.run setting s
    rw [hsame]
    exact ⟨⟨.of_same rfl, fun _ _ => rfl⟩, ih _ (hm.2 _) hs⟩

lemma guarded_write {f : c.Answer → Request ι setting α} (hs : J s)
    (hJ : ∀ waiting, Stable (Rely me waiting) J)
    (hproper : ∀ s, J s → Unraced a me s c → Proper a call s (c.run setting s).1)
    (hguard : ∀ s, (c.run setting s).1.guard = s.guard) (hf : ∀ r, (f r).Sends UserCommand.Plain) :
    Guarded a call me (fun _ _ => True) (send c >>= f) s := by
  have hrest : ∀ r s, Guarded a call me (fun _ _ => True) (f r) s := fun r s =>
    guarded_plain (hf r) (fun _ => stable_true) trivial
  have hthrow : ∀ s, Guarded a call me (fun _ _ => True) (.threw .failed : Request ι setting α) s :=
    fun s => .threw (fun _ => True) trivial stable_true fun _ _ => trivial
  have hpromise : ∀ s, J s → Unraced a me s c → Promise a call me c s (c.run setting s).1 :=
    fun s hs hunraced => ⟨hproper s hs hunraced, fun j _ => congrFun (hguard s) j⟩
  unfold send
  rw [send_bind]
  refine ⟨J, hs, hJ _, fun s hs fate hunraced => ?_⟩
  cases fate with
  | ok => exact ⟨hpromise s hs hunraced, hrest _ _⟩
  | refused => exact ⟨⟨.of_same rfl, fun _ _ => rfl⟩, hthrow s⟩
  | lost => exact ⟨hpromise s hs hunraced, hthrow _⟩

lemma sends_plain (hc : c.Plain) : (send c : Request ι setting c.Answer).Sends UserCommand.Plain :=
  Async.Sends.send (V := userService ι setting) (c := c) hc

lemma sends_written (r : Option α) : (written r : Request ι setting α).Sends UserCommand.Plain := by
  cases r <;> trivial

lemma sends_audit (r : α) :
    (send .audit >>= fun _ => pure r : Request ι setting α).Sends UserCommand.Plain :=
  .bind (sends_plain (c := .audit) trivial) fun _ => trivial

lemma sends_accountInScope (a : AuthContext) (accountId : Option AccountId) :
    (accountInScope a accountId : Request ι setting Bool).Sends UserCommand.Plain := by
  cases accountId with
  | none => trivial
  | some id => exact .bind (sends_plain (c := .getAccount _ id) trivial) fun _ => trivial

lemma sends_requireReady (me : ι) (a : AuthContext) :
    (requireReady me a : Request ι setting (Option Reply)).Sends UserCommand.Plain := by
  unfold requireReady
  split
  · trivial
  refine .bind ((sends_plain (c := .readinessOf me) trivial).attempt fun _ => trivial)
    fun blockers => ?_
  cases blockers <;> trivial

lemma sends_moveRefused (a : AuthContext) (move : Option (Option AccountId)) :
    (moveRefused a move : Request ι setting (Option Reply)).Sends UserCommand.Plain := by
  cases move with
  | none => trivial
  | some accountId =>
    unfold moveRefused
    dsimp only
    split
    · trivial
    · refine .bind (sends_accountInScope a accountId) fun inScope => ?_
      cases inScope <;> trivial

lemma sends_quietly {m : Request ι setting Unit} (hm : m.Sends UserCommand.Plain) :
    (quietly m).Sends UserCommand.Plain := hm.attempt fun _ => trivial

/-! ## The routes -/

/-- A request that keeps its promise, whatever it ends in. -/
abbrev Fair (a : AuthContext) (call : UserCall) (me : ι) (m : Request ι setting α)
    (s : UserStore ι) : Prop :=
  Guarded a call me (fun _ _ => True) m s

variable {f : α → Request ι setting β}

/-- What only reads, and then the rest. -/
lemma fair_plain_bind (hm : m.Sends UserCommand.Plain) (hf : ∀ r s, Fair a call me (f r) s)
    (s : UserStore ι) :
    Fair a call me (m >>= f) s :=
  (guarded_plain (J := fun _ => True) hm (fun _ => stable_true) trivial).bind (fun r s _ => hf r s)
    fun _ _ _ => trivial

lemma fair_bind_plain (hm : Fair a call me m s) (hf : ∀ r, (f r).Sends UserCommand.Plain) :
    Fair a call me (m >>= f) s :=
  hm.bind (fun r _ _ => guarded_plain (hf r) (fun _ => stable_true) trivial) fun _ _ _ => trivial

lemma fair_createUser {email passwordHash : String} {role : Role} {accountId : Option AccountId}
    (hrole : canGrantRole a.role role = true)
    (haccount : accountId = none → a.accountId = none ∧ call.AsksTenantWide)
    (scope : Scope) (s : UserStore ι) :
    Fair a call me (createUser scope email passwordHash role accountId :
      Request ι setting UserView) s := by
  refine guarded_write (J := fun _ => True) trivial (fun _ => stable_true)
    (fun s _ _ => proper_insertUser hrole haccount) (fun s => ?_) fun inserted => ?_
  · unfold UserCommand.run
    dsimp only
    split <;> rfl
  · exact .bind (sends_written inserted) fun row => sends_audit row

lemma fair_updateUser (hs : Cleared a me id s)
    (hrole : ∀ role ∈ data.role, canGrantRole a.role role = true)
    (haccount : data.accountId = some none → a.accountId = none ∧ call.AsksTenantWide)
    (scope : Scope) :
    Fair a call me (updateUser scope id data : Request ι setting (Option UserView)) s := by
  refine (guarded_plain (sends_plain (c := .findUser scope id) trivial) (fun _ => stable_cleared)
    hs).bind (fun before s hs => ?_) fun _ _ _ => trivial
  cases before with
  | none => exact guarded_done _ s
  | some before =>
    refine guarded_write hs (fun _ => stable_cleared)
      (fun s hs hunpromoted => proper_updateUser hs hunpromoted hrole haccount) (fun s => ?_)
      fun updated => .bind (sends_written updated) fun row => sends_audit (some row)
    unfold UserCommand.run
    dsimp only
    split
    · rfl
    · split <;> rfl

lemma fair_removeUser (hs : Cleared a me id s) (scope : Scope) :
    Fair a call me (removeUser scope id : Request ι setting Bool) s := by
  refine (guarded_plain (sends_plain (c := .findUser scope id) trivial) (fun _ => stable_cleared)
    hs).bind (fun before s hs => ?_) fun _ _ _ => trivial
  cases before with
  | none => exact guarded_done _ s
  | some before =>
    refine guarded_write hs (fun _ => stable_cleared)
      (fun s hs hunpromoted => proper_deleteUser hs hunpromoted) (fun s => ?_)
      fun deleted => .bind (sends_written deleted) fun _ => sends_audit true
    unfold UserCommand.run
    dsimp only
    split <;> rfl

lemma fair_removeAccount (scope : Scope) (id : AccountId) (s : UserStore ι) :
    Fair a call me (removeAccount scope id : Request ι setting Bool) s := by
  refine fair_plain_bind (sends_plain (c := .getAccount scope id) trivial) (fun before s => ?_) s
  cases before with
  | none => exact guarded_done _ s
  | some before =>
    refine fair_plain_bind (sends_plain (c := .countUsers id) trivial) (fun userCount s => ?_) s
    split
    · exact .threw (fun _ => True) trivial stable_true fun _ _ => trivial
    refine guarded_write (J := fun _ => True) trivial (fun _ => stable_true)
      (fun s _ hnone => proper_deleteAccount hnone) (fun s => ?_)
      fun deleted => .bind (sends_written deleted) fun _ => sends_audit true
    unfold UserCommand.run
    dsimp only
    split <;> rfl

lemma guarded_getUser (s : UserStore ι) :
    Guarded a call me (fun r s => ∀ target, r = .ok (some target) →
      ¬ (target.id ≠ a.userId ∧ canManageUser a.role target.role = false) → Cleared a me id s)
      (send (.getUser me (scopeOf a) id) : Request ι setting (Option UserView)) s := by
  refine ⟨fun _ => True, trivial, stable_true, fun s _ fate _ => ?_⟩
  have hpromise : Promise a call me (.getUser me (scopeOf a) id) s
      (UserCommand.run setting (.getUser me (scopeOf a) id) s).1 :=
    ⟨.of_same rfl, fun j hj => update_of_ne hj ..⟩
  have hthrow : ∀ s, Guarded a call me (fun r s => ∀ target, r = .ok (some target) →
      ¬ (target.id ≠ a.userId ∧ canManageUser a.role target.role = false) → Cleared a me id s)
      (.threw .failed : Request ι setting (Option UserView)) s :=
    fun s => .threw (fun _ => True) trivial stable_true fun _ _ _ h => by cases h
  cases fate with
  | refused => exact ⟨⟨.of_same rfl, fun _ _ => rfl⟩, hthrow s⟩
  | lost => exact ⟨hpromise, hthrow _⟩
  | ok =>
    refine ⟨hpromise, ?_⟩
    show Guarded a call me _ (.done (s.scopedById (scopeOf a) id)) _
    cases htarget : s.scopedById (scopeOf a) id with
    | none =>
      exact .done (fun _ => True) trivial stable_true fun _ _ _ h => by cases h
    | some target =>
      refine .done (fun s => ¬ (target.id ≠ a.userId ∧ canManageUser a.role target.role = false) →
        Cleared a me id s) (fun hpass => ?_) (fun s s' henv h hpass => ?_)
        fun s hs target' heq hpass => ?_
      · have hid : target.id = id := by
          obtain ⟨u, hu, rfl⟩ := map_eq_some_iff.mp htarget
          have hfound := find?_some hu
          exact of_decide_eq_true (Bool.and_eq_true_iff.mp hfound).2
        have hguard : (UserCommand.run setting (.getUser me (scopeOf a) id) s).1.guard me =
            some target.role := by
          show update s.guard me _ me = _
          rw [update_self, htarget, map_some]
        by_cases hself : target.id = a.userId
        · exact Or.inr (Or.inl (hid ▸ hself))
        have hmanage : canManageUser a.role target.role = true := by
          by_contra hnot
          exact hpass ⟨hself, Bool.not_eq_true _ ▸ hnot⟩
        rcases Bool.or_eq_true_iff.mp hmanage with hadmin | hlt
        · exact Or.inl (of_decide_eq_true hadmin)
        · exact Or.inr (Or.inr ⟨target.role, hguard, of_decide_eq_true hlt⟩)
      · have hstable : Stable (Rely me none) (Cleared a me id) := stable_cleared
        exact hstable s s' henv (h hpass)
      · cases heq
        exact hs hpass

lemma guarded_moveRefused (hs : Cleared a me id s) (move : Option (Option AccountId)) :
    Guarded a call me (fun r s => Cleared a me id s ∧
      (r = .ok none → move = some none → a.accountId = none))
      (moveRefused a move : Request ι setting (Option Reply)) s := by
  by_cases hmove : move = some none → a.accountId = none
  · exact (guarded_plain (sends_moveRefused a move) (fun _ => stable_cleared) hs).mono
      fun _ _ h => ⟨h, fun _ => hmove⟩
  · obtain ⟨rfl, hpinned⟩ := Classical.not_imp.mp hmove
    have hrefused : (moveRefused a (some none) : Request ι setting (Option Reply)) =
        .done (some (forbidden "cannot move users across accounts")) :=
      if_pos ⟨isSome_iff_ne_none.mpr hpinned, Ne.symm hpinned⟩
    rw [hrefused]
    exact .done (Cleared a me id) hs stable_cleared fun s h => ⟨h, fun heq => by cases heq⟩

lemma fair_postUser (body : Option UserCreateBody) (s : UserStore ι) :
    Fair a (.create body) me (postUser me a body : Request ι setting Reply) s := by
  unfold postUser
  cases body with
  | none => exact guarded_done _ s
  | some data =>
    dsimp only
    split
    · exact guarded_done _ s
    rename_i hgrant
    refine fair_plain_bind (sends_accountInScope a _) (fun inScope s => ?_) s
    cases inScope with
    | false => exact guarded_done _ s
    | true =>
      refine fair_plain_bind (sends_requireReady me a) (fun notReady s => ?_) s
      cases notReady with
      | some notReady => exact guarded_done _ s
      | none =>
        have hrole : canGrantRole a.role data.role = true := Bool.not_eq_false _ ▸ hgrant
        refine fair_bind_plain (fair_createUser hrole (fun hnone => ?_) _ s) fun _ => trivial
        split at hnone
        · rename_i hpinned
          rw [hnone] at hpinned
          cases hpinned
        · rename_i hwide
          exact ⟨not_isSome_iff_eq_none.mp hwide, data, rfl, hnone⟩

lemma fair_patchUser (body : Option UserUpdateBody) (s : UserStore ι) :
    Fair a (.patch id body) me (patchUser me a id body : Request ι setting Reply) s := by
  unfold patchUser
  cases body with
  | none => exact guarded_done _ s
  | some data =>
    refine (guarded_getUser s).bind (fun target s hs => ?_) fun _ _ _ => trivial
    cases target with
    | none => exact guarded_done _ s
    | some target =>
      dsimp only
      split
      · exact guarded_done _ s
      rename_i hpass
      have hcleared : Cleared a me id s := hs target rfl hpass
      split
      · exact guarded_done _ s
      rename_i hgrant
      have hrole : ∀ role ∈ data.role, canGrantRole a.role role = true := by
        intro role hmem
        by_contra hnot
        refine hgrant ?_
        rw [mem_def.mp hmem]
        exact decide_eq_true (Bool.not_eq_true _ ▸ hnot)
      refine (guarded_moveRefused hcleared data.accountId).bind (fun refused s hs => ?_)
        fun _ _ _ => trivial
      obtain ⟨hcleared, hwide⟩ := hs
      cases refused with
      | some refused => exact guarded_done _ s
      | none =>
        refine fair_bind_plain (fair_updateUser hcleared hrole (fun hnone => ?_) _) fun row => ?_
        · exact ⟨hwide rfl hnone, data, rfl, hnone⟩
        cases row with
        | none => trivial
        | some row =>
          refine .bind (Sends.when ?_) fun _ => trivial
          exact .bind (sends_quietly (sends_plain (c := .revokeAllForUser id) trivial))
            fun _ => sends_quietly (sends_plain (c := .markSessionsRevoked id) trivial)

lemma fair_deleteUser (s : UserStore ι) :
    Fair a call me (deleteUser me a id : Request ι setting Reply) s := by
  refine (guarded_getUser s).bind (fun target s hs => ?_) fun _ _ _ => trivial
  cases target with
  | none => exact guarded_done _ s
  | some target =>
    dsimp only
    split
    · exact guarded_done _ s
    rename_i hpass
    refine fair_bind_plain (fair_removeUser (hs target rfl hpass) _) fun removed => ?_
    cases removed with
    | false => trivial
    | true =>
      exact .bind (sends_quietly (sends_plain (c := .markSessionsRevoked id) trivial))
        fun _ => trivial

lemma fair_deleteAccount (id : AccountId) (s : UserStore ι) :
    Fair a call me (deleteAccount a id : Request ι setting Reply) s := by
  refine Meets.attempt (S := fun _ _ => True)
    (fair_bind_plain (fair_removeAccount _ id s) fun removed => ?_) (fun _ _ _ => trivial)
    fun e s _ => ?_
  · cases removed <;> trivial
  · cases e with
    | failed => exact .threw (fun _ => True) trivial stable_true fun _ _ => trivial
    | accountHasUsers userCount => exact guarded_done _ s

/-- **One request among others.** -/
lemma fair_program (s : UserStore ι) :
    Fair a call me (call.program me a : Request ι setting Reply) s := by
  unfold UserCall.program
  split
  swap
  · exact guarded_done _ s
  cases call with
  | create body => exact fair_postUser body s
  | patch id body => exact fair_patchUser body s
  | delete id => exact fair_deleteUser s
  | deleteAccount id => exact fair_deleteAccount id s

/-! ## Any requests in any order -/

section Pool

variable {callers : ι → AuthContext} {calls : ι → UserCall}
  {p p' : Pool ι (userService ι setting) UserError Reply}

/-- Requests before any of them starts. -/
def userCalls (setting : Setting ι) (callers : ι → AuthContext) (calls : ι → UserCall)
    (users : List User) (accounts : List Account) (nextId : UserId) :
    Pool ι (userService ι setting) UserError Reply :=
  ⟨⟨users, accounts, nextId, fun _ => none⟩, fun i => (calls i).program i (callers i)⟩

/-- A step whose request is not overtaken. -/
def InTime (callers : ι → AuthContext) (p : Pool ι (userService ι setting) UserError Reply) (i : ι)
    (c : UserCommand ι) (_ : Fate) : Prop := Unraced (callers i) i p.state c

/-- **Scope and tier are kept** by every step, in every run in which nobody is promoted between a
tier guard and its write, and nobody joins an account between the count and the deletion. -/
theorem scope_and_tier_kept {users : List User} {accounts : List Account} {nextId : UserId}
    (hrun : Pool.Run (InTime callers) (userCalls setting callers calls users accounts nextId) p)
    {i : ι} {c : UserCommand ι} {fate : Fate} (hstep : p.Step i c fate p')
    (hfits : InTime callers p i c fate) : Proper (callers i) (calls i) p.state p'.state := by
  have hcompatible : Pool.Compatible (@InTime ι _ setting callers)
      (fun i s c _ => Unraced (callers i) i s c) Rely fun i => Promise (callers i) (calls i) i :=
    fun _ _ _ _ _ _ hfits => ⟨hfits, fun hown j hj => hown.2 j hj⟩
  have hmeets : (userCalls setting callers calls users accounts nextId).Meets
      (fun i s c _ => Unraced (callers i) i s c) Rely (fun i => Promise (callers i) (calls i) i)
      fun _ _ _ => True := fun i => fair_program _
  exact ((hrun.meets hcompatible hmeets).step hcompatible hstep hfits).1.1

instance (a : AuthContext) (me : ι) (s : UserStore ι) (c : UserCommand ι) :
    Decidable (Unraced a me s c) := by
  cases c <;> unfold Unraced <;> (try unfold Unpromoted) <;> infer_instance

instance (callers : ι → AuthContext) (p : Pool ι (userService ι setting) UserError Reply) (i : ι)
    (c : UserCommand ι) (fate : Fate) : Decidable (InTime callers p i c fate) :=
  inferInstanceAs (Decidable (Unraced (callers i) i p.state c))

end Pool

/-! Two administrators of a tenant with one account. -/

def sampleSetting : Setting (Fin 2) := ⟨fun _ => [], fun _ => ""⟩

def administrators : Fin 2 → AuthContext
  | 0 => ⟨1, .tspAdmin, 1, none⟩
  | 1 => ⟨2, .tspAdmin, 1, none⟩

def sampleUser (id : UserId) (role : Role) (accountId : Option AccountId) (email : String) : User :=
  ⟨⟨id, 1, accountId, email, role, "en"⟩, ""⟩

/-- A viewer, who is not bound to the account. -/
def sampleViewer : User := sampleUser 3 .viewer none "viewer@example.com"

/-- The first administrator deletes the viewer, whom the second one promotes. -/
def deleteAndPromote : Fin 2 → UserCall
  | 0 => .delete 3
  | 1 => .patch 3 (some ⟨some .tspAdmin, none, none, none⟩)

/-- The first administrator deletes the account, for which the second one creates a viewer. -/
def deleteAndCreate : Fin 2 → UserCall
  | 0 => .deleteAccount 7
  | 1 => .create (some ⟨"new@example.com", "password", .viewer, some 7⟩)

abbrev SamplePool := Pool (Fin 2) (userService (Fin 2) sampleSetting) UserError Reply

def sampleCalls (calls : Fin 2 → UserCall) : SamplePool :=
  userCalls sampleSetting administrators calls [sampleViewer] [⟨7, 1⟩] 4

/-- The first administrator alone. -/
def beforeDeletion : Option SamplePool :=
  (sampleCalls deleteAndPromote).execWith (InTime administrators) [(0, .ok), (0, .ok)]

theorem scope_and_tier_kept_delete : ∃ p p' : SamplePool, p.Step 0 (.deleteUser 3) .ok p' ∧
    p'.state.users = [] ∧
    Proper (administrators 0) (deleteAndPromote 0) p.state p'.state := by
  have hpending : beforeDeletion.bind (fun p => (p.thread 0).pending) = some (.deleteUser 3) := by
    decide +kernel
  have husers : beforeDeletion.map (fun p => (p.exec [(0, .ok)]).state.users) = some [] := by
    decide +kernel
  have hintime : beforeDeletion.any fun p =>
      decide (InTime administrators p 0 (.deleteUser 3) .ok) := by
    decide +kernel
  cases h : beforeDeletion with
  | none =>
    rw [h] at hpending
    cases hpending
  | some p =>
    rw [h] at hpending husers hintime
    have hstep : p.Step 0 (.deleteUser 3) .ok (p.exec [(0, .ok)]) := Pool.step_exec hpending .ok
    exact ⟨p, _, hstep, some.inj husers,
      scope_and_tier_kept (Pool.run_execWith _ _ h) hstep (of_decide_eq_true hintime)⟩

/-- Up to the deletion of the account, and of the user. -/
def overtaken (calls : Fin 2 → UserCall) : SamplePool :=
  (sampleCalls calls).exec [(0, .ok), (0, .ok), (1, .ok), (1, .ok), (1, .ok)]

/-- A new viewer becomes tenant-wide with the end of the account, and a user who has just become an
administrator is deleted by another one. -/
theorem scope_and_tier_slip :
    (∃ p p', (sampleCalls deleteAndCreate).Reaches p ∧ p.Step 0 (.deleteAccount 7) .ok p' ∧
      ¬ Proper (administrators 0) (deleteAndCreate 0) p.state p'.state) ∧
    ∃ p p', (sampleCalls deleteAndPromote).Reaches p ∧ p.Step 0 (.deleteUser 3) .ok p' ∧
      ¬ Proper (administrators 0) (deleteAndPromote 0) p.state p'.state := by
  refine ⟨⟨_, _, Pool.reaches_exec _ _, Pool.step_exec (p := overtaken deleteAndCreate)
    (by decide +kernel) .ok, fun h => ?_⟩, ⟨_, _, Pool.reaches_exec _ _,
    Pool.step_exec (p := overtaken deleteAndPromote) (by decide +kernel) .ok, fun h => ?_⟩⟩
  · have hwide := h.scope (sampleUser 4 .viewer none "new@example.com") (by decide +kernel) rfl
    rcases hwide with hwas | ⟨-, hasked⟩
    · revert hwas
      decide +kernel
    · exact hasked
  · have hkept := h.others (by decide) (sampleUser 3 .tspAdmin none "viewer@example.com")
      (by decide +kernel) (by decide) (by decide)
    revert hkept
    decide +kernel

end Orbetra.Users
