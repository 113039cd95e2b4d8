import Orbetra.Framework.Keyset
import Orbetra.Settings.Getparam

/-!
# The data export of an account

What `runExport` of `jobs/gdprExportWorker.ts` writes.  Trips, events, commands, SMS deliveries and
positions are read in pages.  `ORDER BY` takes a bare name for the output column of that name: trips and
events select `id::text`, so their pages are in the order of the text, while the cursor is compared as a
number.  The other three are read in the order of their cursor, up to the precision of a `Date`.
-/

namespace Orbetra.Gdpr

open List Function

open Keyset (pages)

/-! ## The tables -/

/-- A row with its key and its owner; `columns` is what else a query selects of it. -/
structure Row (ι δ : Type) where
  id : ι
  tenantId : String
  accountId : String
  columns : δ

/-- A row of `positions`; `fix_time` has microseconds. -/
structure Position (δ : Type) where
  deviceId : ℤ
  fixTime : ℤ
  recHash : ℤ
  columns : δ

/-- The tables that an export reads, with the primary keys that pages rest on.  A uuid is its text. -/
structure Tables (δ : Type) where
  accounts : List (Row String δ)
  users : List (Row Text δ)
  devices : List (Row ℤ δ)
  drivers : List (Row Text δ)
  trips : List (Row ℤ δ)
  events : List (Row ℤ δ)
  commands : List (Row Text δ)
  geofences : List (Row Text δ)
  rules : List (Row Text δ)
  webhooks : List (Row Text δ)
  smsDeliveries : List (Row Text δ)
  scheduledReports : List (Row Text δ)
  pushSubscriptions : List (Row Text δ)
  positions : List (Position δ)
  devices_key : (devices.map Row.id).Nodup
  trips_key : (trips.map Row.id).Nodup
  events_key : (events.map Row.id).Nodup
  commands_key : (commands.map Row.id).Nodup
  smsDeliveries_key : (smsDeliveries.map Row.id).Nodup
  positions_key : (positions.map fun p => (p.deviceId, p.fixTime, p.recHash)).Nodup

def pageSize : ℕ := 10000

inductive Line (δ : Type)
  | header
  | whole (type : String) (columns : δ)
  | trip (row : Row ℤ δ)
  | event (row : Row ℤ δ)
  | command (row : Row Text δ)
  | smsDelivery (row : Row Text δ)
  | position (row : Position δ)

variable {ι κ α δ : Type}

namespace Line

def toTrip : Line δ → Option (Row ℤ δ)
  | .trip row => some row
  | _ => none

def toEvent : Line δ → Option (Row ℤ δ)
  | .event row => some row
  | _ => none

def toCommand : Line δ → Option (Row Text δ)
  | .command row => some row
  | _ => none

def toSmsDelivery : Line δ → Option (Row Text δ)
  | .smsDelivery row => some row
  | _ => none

def toPosition : Line δ → Option (Position δ)
  | .position row => some row
  | _ => none

end Line

/-! ## The queries -/

def owned (tenantId accountId : String) (table : List (Row ι δ)) : List (Row ι δ) :=
  table.filter fun row => row.tenantId = tenantId ∧ row.accountId = accountId

def orderBy [LinearOrder κ] (key : α → κ) (rows : List α) : List α :=
  rows.mergeSort fun a b => key a ≤ key b

def idText (row : Row ℤ δ) : Text := (toString row.id).toList

section Paged

variable [LinearOrder κ] (tenantId accountId : String)

/-- `scopedPaged`: the pages are in the order of the output column `id`, and the cursor is `idExpr`. -/
def scopedPaged (idColumn : Row ι δ → Text) (idExpr : Row ι δ → κ) (table : List (Row ι δ)) (fuel : ℕ) :
    Option (List (Row ι δ)) :=
  pages pageSize (fun after row => after < idExpr row) idExpr
    (orderBy idColumn (owned tenantId accountId table)) fuel none

end Paged

namespace Position

/-- `(fix_time, rec_hash)` -/
def key (p : Position δ) : ℤ ×ₗ ℤ := toLex (p.fixTime, p.recHash)

/-- A `Date` has milliseconds. -/
def cursor (p : Position δ) : ℤ ×ₗ ℤ := toLex (p.fixTime / 1000 * 1000, p.recHash)

end Position

def positionsOf (table : List (Position δ)) (deviceId : ℤ) : List (Position δ) :=
  table.filter fun p => p.deviceId = deviceId

def positionPages (table : List (Position δ)) (fuel : ℕ) (deviceId : ℤ) : Option (List (Position δ)) :=
  pages pageSize (fun after p => after < p.key) Position.cursor
    (orderBy Position.key (positionsOf table deviceId)) fuel none

/-- The loop over the devices. -/
def accountPages (table : List (Position δ)) (fuel : ℕ) : List ℤ → Option (List (Position δ))
  | [] => some []
  | deviceId :: deviceIds => do
    let page ← positionPages table fuel deviceId
    let pages ← accountPages table fuel deviceIds
    pure (page ++ pages)

/-- `scoped`: a query whose rows all go into the file at once. -/
def whole (type : String) (rows : List (Row ι δ)) : List (Line δ) :=
  rows.map fun row => .whole type row.columns

variable (t : Tables δ) (tenantId accountId : String)

def fileOf (trips events : List (Row ℤ δ)) (commands smsDeliveries : List (Row Text δ))
    (positions : List (Position δ)) : List (Line δ) :=
  let accounts := t.accounts.filter fun row => row.tenantId = tenantId ∧ row.id = accountId
  .header :: whole "account" accounts ++
    whole "user" (owned tenantId accountId t.users) ++
    whole "device" (owned tenantId accountId t.devices) ++
    whole "driver" (owned tenantId accountId t.drivers) ++ trips.map .trip ++ events.map .event ++
    commands.map .command ++ whole "geofence" (owned tenantId accountId t.geofences) ++
    whole "rule" (owned tenantId accountId t.rules) ++
    whole "webhook" (owned tenantId accountId t.webhooks) ++ smsDeliveries.map .smsDelivery ++
    whole "scheduled_report" (owned tenantId accountId t.scheduledReports) ++
    whole "push_subscription" (owned tenantId accountId t.pushSubscriptions) ++
    positions.map .position

/-- The lines that `runExport` writes; `none` where that takes more than `fuel` pages of a table. -/
def exportLines (fuel : ℕ) : Option (List (Line δ)) := do
  let trips ← scopedPaged tenantId accountId idText Row.id t.trips fuel
  let events ← scopedPaged tenantId accountId idText Row.id t.events fuel
  let commands ← scopedPaged tenantId accountId Row.id Row.id t.commands fuel
  let smsDeliveries ← scopedPaged tenantId accountId Row.id Row.id t.smsDeliveries fuel
  let devices := owned tenantId accountId t.devices
  let positions ← accountPages t.positions fuel (devices.map Row.id)
  pure (fileOf t tenantId accountId trips events commands smsDeliveries positions)

/-! ## What a complete export is -/

def ownedPositions : List (Position δ) :=
  t.positions.filter fun p => p.deviceId ∈ (owned tenantId accountId t.devices).map Row.id

/-- One line for each trip, event, command, SMS delivery and position of the account, and none of them
twice. -/
structure Complete (lines : List (Line δ)) : Prop where
  trips : (lines.filterMap Line.toTrip).Perm (owned tenantId accountId t.trips)
  events : (lines.filterMap Line.toEvent).Perm (owned tenantId accountId t.events)
  commands : (lines.filterMap Line.toCommand).Perm (owned tenantId accountId t.commands)
  smsDeliveries : (lines.filterMap Line.toSmsDelivery).Perm (owned tenantId accountId t.smsDeliveries)
  positions : (lines.filterMap Line.toPosition).Perm (ownedPositions t tenantId accountId)

/-- In the order of their texts, the id at the end of each full page is above those before it and below
those after it. -/
def IdsAgree (rows : List (Row ℤ δ)) : Prop :=
  ∀ before row after, orderBy idText rows = before ++ row :: after → pageSize ∣ before.length + 1 →
    (∀ row' ∈ before, row'.id < row.id) ∧ ∀ row' ∈ after, row.id < row'.id

/-- The position at the end of each full page is of a whole millisecond. -/
def WholeMs (rows : List (Position δ)) : Prop :=
  ∀ before row after, orderBy Position.key rows = before ++ row :: after →
    pageSize ∣ before.length + 1 → 1000 ∣ row.fixTime

/-! ## Pages of one table -/

section OrderBy

variable [LinearOrder κ] {key : α → κ} {rows : List α}

lemma orderBy_perm : (orderBy key rows).Perm rows := mergeSort_perm rows _

lemma pairwise_orderBy : (orderBy key rows).Pairwise fun a b => key a ≤ key b := by
  have h : (orderBy key rows).Pairwise fun a b => decide (key a ≤ key b) = true :=
    pairwise_mergeSort
      (fun a b c hab hbc => decide_eq_true ((of_decide_eq_true hab).trans (of_decide_eq_true hbc)))
      (fun a b => by simpa using le_total (key a) (key b)) rows
  exact h.imp of_decide_eq_true

lemma pairwise_orderBy_lt (hkey : (rows.map key).Nodup) :
    (orderBy key rows).Pairwise fun a b => key a < key b := by
  have hne : ((orderBy key rows).map key).Nodup := (orderBy_perm.map key).nodup_iff.mpr hkey
  have hne' := pairwise_map.mp hne
  exact pairwise_orderBy.imp₂ (fun _ _ hle hne => lt_of_le_of_ne hle hne) hne'

lemma nodup_orderBy (hkey : (rows.map key).Nodup) : (orderBy key rows).Nodup :=
  (orderBy_perm.nodup_iff).mpr (Nodup.of_map key hkey)

end OrderBy

variable {t tenantId accountId} {ι κ : Type}

lemma pageSize_pos : 0 < pageSize := by decide

variable {rows : List α}

lemma pages_perm_orderBy {beyond : κ → α → Bool} {cursor : α → κ} {κ' : Type} [LinearOrder κ']
    {key : α → κ'} (hnodup : rows.Nodup)
    (hbehind : Keyset.Behind pageSize beyond cursor (orderBy key rows)) :
    (∃ fuel out, pages pageSize beyond cursor (orderBy key rows) fuel none = some out ∧
      out.Perm rows) ↔ Keyset.Cuts pageSize beyond cursor (orderBy key rows) (orderBy key rows) := by
  rw [← Keyset.pages_perm_iff pageSize_pos (orderBy_perm.nodup_iff.mpr hnodup) hbehind]
  constructor
  · intro ⟨fuel, out, hout, hperm⟩
    exact ⟨fuel, out, hout, hperm.trans orderBy_perm.symm⟩
  · intro ⟨fuel, out, hout, hperm⟩
    exact ⟨fuel, out, hout, hperm.trans orderBy_perm⟩

/-- Trips and events. -/
lemma scopedPaged_iff {table : List (Row ℤ δ)} (hkey : (table.map Row.id).Nodup) :
    (∃ fuel out, scopedPaged tenantId accountId idText Row.id table fuel = some out ∧
      out.Perm (owned tenantId accountId table)) ↔ IdsAgree (owned tenantId accountId table) := by
  have hids : ((owned tenantId accountId table).map Row.id).Nodup :=
    hkey.sublist (filter_sublist.map Row.id)
  set rows := owned tenantId accountId table with hrows
  have hnodup : rows.Nodup := .of_map Row.id hids
  have hinjective : ∀ row ∈ orderBy idText rows, ∀ row' ∈ orderBy idText rows, row.id = row'.id →
      row = row' := fun row hrow row' hrow' =>
    inj_on_of_nodup_map hids (orderBy_perm.mem_iff.mp hrow) (orderBy_perm.mem_iff.mp hrow')
  have hbehind : Keyset.Behind pageSize (fun (after : ℤ) (row : Row ℤ δ) => decide (after < row.id))
      Row.id (orderBy idText rows) :=
    Keyset.behind_of_trans pageSize_pos fun c row row' h h' =>
      decide_eq_true ((of_decide_eq_true h).trans (of_decide_eq_true h'))
  refine (pages_perm_orderBy hnodup hbehind).trans ?_
  have hnodup' : (orderBy idText rows).Nodup := orderBy_perm.nodup_iff.mpr hnodup
  constructor
  · intro h before row after heq hdvd
    obtain ⟨hbefore, -, hafter⟩ :=
      (Keyset.selected_eq_iff heq hnodup').mp (h before row after heq hdvd)
    refine ⟨fun row' hrow' => ?_, fun row' hrow' => of_decide_eq_true (hafter row' hrow')⟩
    refine lt_of_le_of_ne (not_lt.mp (of_decide_eq_false (hbefore row' hrow'))) fun hid => ?_
    have hmem : row' ∈ orderBy idText rows := heq ▸ mem_append_left _ hrow'
    have hmem' : row ∈ orderBy idText rows := heq ▸ mem_append_right _ mem_cons_self
    obtain rfl := hinjective row' hmem row hmem' hid
    rw [heq] at hnodup'
    exact (nodup_append.mp hnodup').2.2 row' hrow' row' mem_cons_self rfl
  · intro h before row after heq hdvd
    obtain ⟨hbefore, hafter⟩ := h before row after heq hdvd
    refine (Keyset.selected_eq_iff heq hnodup').mpr ⟨fun row' hrow' => ?_, ?_, fun row' hrow' => ?_⟩
    · exact decide_eq_false (not_lt.mpr (hbefore row' hrow').le)
    · exact decide_eq_false (lt_irrefl _)
    · exact decide_eq_true (hafter row' hrow')

lemma pages_of_key [LinearOrder κ] {key : α → κ} (hkey : (rows.map key).Nodup) :
    ∃ fuel out, pages pageSize (fun after row => decide (after < key row)) key (orderBy key rows) fuel
      none = some out ∧ out.Perm rows := by
  refine (pages_perm_orderBy (.of_map key hkey) ?_).mpr ?_
  · exact Keyset.behind_of_trans pageSize_pos fun c row row' h h' =>
      decide_eq_true ((of_decide_eq_true h).trans (of_decide_eq_true h'))
  · refine Keyset.cuts_of_pairwise (nodup_orderBy hkey) ?_ fun row _ => decide_eq_false (lt_irrefl _)
    exact (pairwise_orderBy_lt hkey).imp fun hlt =>
      ⟨decide_eq_true hlt, decide_eq_false (lt_asymm hlt)⟩

/-- Commands and SMS deliveries. -/
lemma scopedPaged_text (tenantId accountId : String) {table : List (Row Text δ)} (hkey : (table.map Row.id).Nodup) :
    ∃ fuel out, scopedPaged tenantId accountId Row.id Row.id table fuel = some out ∧
      out.Perm (owned tenantId accountId table) :=
  pages_of_key (hkey.sublist (filter_sublist.map Row.id))

lemma Position.cursor_le (p : Position δ) : p.cursor ≤ p.key := by
  unfold cursor key
  rw [Prod.Lex.toLex_le_toLex]
  dsimp only
  omega

lemma Position.cursor_eq_iff (p : Position δ) : p.cursor = p.key ↔ 1000 ∣ p.fixTime := by
  unfold cursor key
  rw [toLex_inj, Prod.mk.injEq]
  constructor
  · intro h
    omega
  · intro h
    exact ⟨by omega, rfl⟩

lemma positionPages_iff {table : List (Position δ)} {deviceId : ℤ}
    (hkey : (table.map fun p => (p.deviceId, p.fixTime, p.recHash)).Nodup) :
    (∃ fuel out, positionPages table fuel deviceId = some out ∧
      out.Perm (positionsOf table deviceId)) ↔ WholeMs (positionsOf table deviceId) := by
  have hkeys : ((positionsOf table deviceId).map Position.key).Nodup := by
    have hnodup : ((positionsOf table deviceId).map
        fun p => (p.deviceId, p.fixTime, p.recHash)).Nodup := hkey.sublist (filter_sublist.map _)
    refine pairwise_map.mpr ((pairwise_map.mp hnodup).imp_of_mem fun hp hp' hne heq => ?_)
    have hdevice := of_decide_eq_true (mem_filter.mp hp).2
    have hdevice' := of_decide_eq_true (mem_filter.mp hp').2
    have hpair := Prod.mk.inj (toLex_inj.mp heq)
    exact hne (by rw [hdevice, hdevice', hpair.1, hpair.2])
  set rows := positionsOf table deviceId with hrows
  have hlt := pairwise_orderBy_lt hkeys
  have hnodup := nodup_orderBy hkeys
  refine (pages_perm_orderBy (.of_map Position.key hkeys) ?_).trans ?_
  · refine Keyset.behind_of_pairwise (hlt.imp fun {p p'} h => ?_)
    exact decide_eq_true (p.cursor_le.trans_lt h)
  constructor
  · intro h before row after heq hdvd
    obtain ⟨-, hself, -⟩ := (Keyset.selected_eq_iff heq hnodup).mp (h before row after heq hdvd)
    exact row.cursor_eq_iff.mp (le_antisymm row.cursor_le (not_lt.mp (of_decide_eq_false hself)))
  · intro h before row after heq hdvd
    have hcursor := row.cursor_eq_iff.mpr (h before row after heq hdvd)
    rw [heq, pairwise_append] at hlt
    obtain ⟨-, hafter, hbefore⟩ := hlt
    rw [hcursor]
    refine (Keyset.selected_eq_iff heq hnodup).mpr ⟨fun row' hrow' => ?_, ?_, fun row' hrow' => ?_⟩
    · exact decide_eq_false (lt_asymm (hbefore row' hrow' row mem_cons_self))
    · exact decide_eq_false (lt_irrefl _)
    · exact decide_eq_true ((pairwise_cons.mp hafter).1 row' hrow')

/-! ## The positions of an account -/

section Positions

variable {table : List (Position δ)} {deviceId : ℤ} {deviceIds : List ℤ}

variable {more fuel : ℕ} {out : List (Position δ)}

lemma positionPages_mono (hmore : fuel ≤ more) (h : positionPages table fuel deviceId = some out) :
    positionPages table more deviceId = some out :=
  Keyset.pages_mono hmore h

lemma positionPages_subset (h : positionPages table fuel deviceId = some out) :
    out ⊆ positionsOf table deviceId :=
  fun _ hp => orderBy_perm.subset (Keyset.pages_subset h hp)

lemma accountPages_cons :
    accountPages table fuel (deviceId :: deviceIds) = some out ↔
      ∃ page pages, positionPages table fuel deviceId = some page ∧
        accountPages table fuel deviceIds = some pages ∧ out = page ++ pages := by
  constructor
  · intro h
    rw [accountPages] at h
    obtain ⟨page, hpage, h⟩ := Option.bind_eq_some_iff.mp h
    obtain ⟨pages, hpages, h⟩ := Option.bind_eq_some_iff.mp h
    exact ⟨page, pages, hpage, hpages, (Option.some.inj h).symm⟩
  · rintro ⟨page, pages, hpage, hpages, rfl⟩
    rw [accountPages]
    exact Option.bind_eq_some_iff.mpr ⟨page, hpage, Option.bind_eq_some_iff.mpr ⟨pages, hpages, rfl⟩⟩

lemma accountPages_mono (hmore : fuel ≤ more) (h : accountPages table fuel deviceIds = some out) :
    accountPages table more deviceIds = some out := by
  induction deviceIds generalizing out with
  | nil => exact h
  | cons deviceId deviceIds ih =>
    obtain ⟨page, pages, hpage, hpages, rfl⟩ := accountPages_cons.mp h
    exact accountPages_cons.mpr ⟨page, pages, positionPages_mono hmore hpage, ih hpages, rfl⟩

lemma accountPages_subset (h : accountPages table fuel deviceIds = some out) :
    ∀ p ∈ out, p.deviceId ∈ deviceIds := by
  induction deviceIds generalizing out with
  | nil =>
    cases h
    exact fun _ hp => by cases hp
  | cons deviceId deviceIds ih =>
    obtain ⟨page, pages, hpage, hpages, rfl⟩ := accountPages_cons.mp h
    intro p hp
    rcases mem_append.mp hp with hp | hp
    · have hdevice := of_decide_eq_true (mem_filter.mp (positionPages_subset hpage hp)).2
      exact hdevice ▸ mem_cons_self
    · exact mem_cons_of_mem _ (ih hpages p hp)

lemma filter_cons_perm (hdevice : deviceId ∉ deviceIds) :
    (positionsOf table deviceId ++ table.filter fun p => p.deviceId ∈ deviceIds).Perm
      (table.filter fun p => p.deviceId ∈ deviceId :: deviceIds) := by
  have h := filter_append_perm (fun p : Position δ => decide (p.deviceId = deviceId))
    (table.filter fun p => p.deviceId ∈ deviceId :: deviceIds)
  rw [filter_filter, filter_filter] at h
  have hone : (table.filter fun p : Position δ => decide (p.deviceId = deviceId) &&
      decide (p.deviceId ∈ deviceId :: deviceIds)) = positionsOf table deviceId := by
    refine filter_congr fun p _ => ?_
    by_cases hp : p.deviceId = deviceId <;> simp [hp]
  have hothers : (table.filter fun p : Position δ => (!decide (p.deviceId = deviceId)) &&
      decide (p.deviceId ∈ deviceId :: deviceIds)) = table.filter fun p => p.deviceId ∈ deviceIds := by
    refine filter_congr fun p _ => ?_
    by_cases hp : p.deviceId = deviceId
    · simp [hp, hdevice]
    · simp [hp]
  rw [hone, hothers] at h
  exact h

lemma accountPages_iff (hnodup : deviceIds.Nodup) :
    (∃ fuel out, accountPages table fuel deviceIds = some out ∧
      out.Perm (table.filter fun p => p.deviceId ∈ deviceIds)) ↔
    ∀ deviceId ∈ deviceIds, ∃ fuel out, positionPages table fuel deviceId = some out ∧
      out.Perm (positionsOf table deviceId) := by
  induction deviceIds with
  | nil => simp [accountPages]
  | cons deviceId deviceIds ih =>
    obtain ⟨hdevice, hnodup⟩ := nodup_cons.mp hnodup
    rw [forall_mem_cons, ← ih hnodup]
    constructor
    · intro ⟨fuel, out, hout, hperm⟩
      obtain ⟨page, pages, hpage, hpages, rfl⟩ := accountPages_cons.mp hout
      have hperm' := hperm.trans (filter_cons_perm hdevice).symm
      have hofPage : ∀ p ∈ page, p.deviceId = deviceId := fun p hp =>
        of_decide_eq_true (mem_filter.mp (positionPages_subset hpage hp)).2
      have hofPages : ∀ p ∈ pages, p.deviceId ≠ deviceId := fun p hp heq =>
        hdevice (heq ▸ accountPages_subset hpages p hp)
      have hofOthers : ∀ p ∈ table.filter fun p => p.deviceId ∈ deviceIds, p.deviceId ≠ deviceId :=
        fun p hp heq => hdevice (heq ▸ of_decide_eq_true (mem_filter.mp hp).2)
      have hofDevice : ∀ p ∈ positionsOf table deviceId, p.deviceId = deviceId := fun p hp =>
        of_decide_eq_true (mem_filter.mp hp).2
      constructor
      · refine ⟨fuel, page, hpage, ?_⟩
        have hfilter := hperm'.filter fun p => decide (p.deviceId = deviceId)
        rwa [filter_append, filter_append,
          filter_eq_self.mpr fun p hp => decide_eq_true (hofPage p hp),
          filter_eq_nil_iff.mpr fun p hp => by simpa using hofPages p hp,
          filter_eq_self.mpr fun p hp => decide_eq_true (hofDevice p hp),
          filter_eq_nil_iff.mpr fun p hp => by simpa using hofOthers p hp,
          append_nil, append_nil] at hfilter
      · refine ⟨fuel, pages, hpages, ?_⟩
        have hfilter := hperm'.filter fun p => decide (p.deviceId ≠ deviceId)
        rwa [filter_append, filter_append,
          filter_eq_nil_iff.mpr fun p hp => by simpa using hofPage p hp,
          filter_eq_self.mpr fun p hp => decide_eq_true (hofPages p hp),
          filter_eq_nil_iff.mpr fun p hp => by simpa using hofDevice p hp,
          filter_eq_self.mpr fun p hp => decide_eq_true (hofOthers p hp),
          nil_append, nil_append] at hfilter
    · rintro ⟨⟨fuel, page, hpage, hperm⟩, fuel', pages, hpages, hperm'⟩
      refine ⟨max fuel fuel', page ++ pages, accountPages_cons.mpr ⟨page, pages, ?_, ?_, rfl⟩, ?_⟩
      · exact positionPages_mono (le_max_left _ _) hpage
      · exact accountPages_mono (le_max_right _ _) hpages
      · exact (hperm.append hperm').trans (filter_cons_perm hdevice)

end Positions

/-! ## The whole export -/

lemma filterMap_whole {β : Type} {f : Line δ → Option β}
    (hf : ∀ type columns, f (.whole type columns) = none) (type : String) (rows : List (Row ι δ)) :
    (whole type rows).filterMap f = [] := by
  unfold whole
  rw [filterMap_map]
  exact filterMap_eq_nil_iff.mpr fun row _ => hf type row.columns

section File

variable (trips events : List (Row ℤ δ)) (commands smsDeliveries : List (Row Text δ))
  (positions : List (Position δ))

lemma complete_fileOf_iff :
    Complete t tenantId accountId
      (fileOf t tenantId accountId trips events commands smsDeliveries positions) ↔
    trips.Perm (owned tenantId accountId t.trips) ∧ events.Perm (owned tenantId accountId t.events) ∧
      commands.Perm (owned tenantId accountId t.commands) ∧
      smsDeliveries.Perm (owned tenantId accountId t.smsDeliveries) ∧
      positions.Perm (ownedPositions t tenantId accountId) := by
  set file := fileOf t tenantId accountId trips events commands smsDeliveries positions with hfile
  have hfilterMap : ∀ {β : Type} (f : Line δ → Option β), f .header = none →
      (∀ type columns, f (.whole type columns) = none) → file.filterMap f =
        (trips.map .trip).filterMap f ++ (events.map .event).filterMap f ++
          (commands.map .command).filterMap f ++ (smsDeliveries.map .smsDelivery).filterMap f ++
          (positions.map .position).filterMap f := by
    intro β f hheader hwhole
    simp only [hfile, fileOf, cons_append, filterMap_append, filterMap_cons, hheader,
      filterMap_whole hwhole, append_nil, nil_append]
  have htrips : file.filterMap Line.toTrip = trips := by
    rw [hfilterMap _ rfl fun _ _ => rfl]
    simp [filterMap_map, comp_def, Line.toTrip]
  have hevents : file.filterMap Line.toEvent = events := by
    rw [hfilterMap _ rfl fun _ _ => rfl]
    simp [filterMap_map, comp_def, Line.toEvent]
  have hcommands : file.filterMap Line.toCommand = commands := by
    rw [hfilterMap _ rfl fun _ _ => rfl]
    simp [filterMap_map, comp_def, Line.toCommand]
  have hsms : file.filterMap Line.toSmsDelivery = smsDeliveries := by
    rw [hfilterMap _ rfl fun _ _ => rfl]
    simp [filterMap_map, comp_def, Line.toSmsDelivery]
  have hpositions : file.filterMap Line.toPosition = positions := by
    rw [hfilterMap _ rfl fun _ _ => rfl]
    simp [filterMap_map, comp_def, Line.toPosition]
  constructor
  · intro h
    exact ⟨htrips ▸ h.trips, hevents ▸ h.events, hcommands ▸ h.commands, hsms ▸ h.smsDeliveries,
      hpositions ▸ h.positions⟩
  · intro ⟨h₁, h₂, h₃, h₄, h₅⟩
    exact ⟨htrips.symm ▸ h₁, hevents.symm ▸ h₂, hcommands.symm ▸ h₃, hsms.symm ▸ h₄,
      hpositions.symm ▸ h₅⟩

end File

variable {fuel : ℕ}

lemma exportLines_eq_some_iff {lines : List (Line δ)} :
    exportLines t tenantId accountId fuel = some lines ↔
    ∃ trips events commands smsDeliveries positions,
      scopedPaged tenantId accountId idText Row.id t.trips fuel = some trips ∧
      scopedPaged tenantId accountId idText Row.id t.events fuel = some events ∧
      scopedPaged tenantId accountId Row.id Row.id t.commands fuel = some commands ∧
      scopedPaged tenantId accountId Row.id Row.id t.smsDeliveries fuel = some smsDeliveries ∧
      accountPages t.positions fuel ((owned tenantId accountId t.devices).map Row.id) =
        some positions ∧
      lines = fileOf t tenantId accountId trips events commands smsDeliveries positions := by
  unfold exportLines
  simp only [Option.bind_eq_bind, Option.bind_eq_some_iff, Option.pure_def, Option.some.injEq]
  constructor
  · rintro ⟨trips, htrips, events, hevents, commands, hcommands, sms, hsms, positions, hpositions, rfl⟩
    exact ⟨trips, events, commands, sms, positions, htrips, hevents, hcommands, hsms, hpositions, rfl⟩
  · rintro ⟨trips, events, commands, sms, positions, htrips, hevents, hcommands, hsms, hpositions, rfl⟩
    exact ⟨trips, htrips, events, hevents, commands, hcommands, sms, hsms, positions, hpositions, rfl⟩

lemma scopedPaged_mono [LinearOrder κ] {idColumn : Row ι δ → Text} {idExpr : Row ι δ → κ}
    {table out : List (Row ι δ)} {more : ℕ} (hmore : fuel ≤ more)
    (h : scopedPaged tenantId accountId idColumn idExpr table fuel = some out) :
    scopedPaged tenantId accountId idColumn idExpr table more = some out :=
  Keyset.pages_mono hmore h

/-- **A data export contains every row exactly once iff** the ids of its trips, and of its events, agree
with their texts at the end of each full page, and the last position of each full page is of a whole
millisecond. -/
theorem export_complete_iff (t : Tables δ) (tenantId accountId : String) :
    (∃ fuel lines, exportLines t tenantId accountId fuel = some lines ∧
      Complete t tenantId accountId lines) ↔
    IdsAgree (owned tenantId accountId t.trips) ∧ IdsAgree (owned tenantId accountId t.events) ∧
      ∀ device ∈ owned tenantId accountId t.devices, WholeMs (positionsOf t.positions device.id) := by
  have hdevices : ((owned tenantId accountId t.devices).map Row.id).Nodup :=
    t.devices_key.sublist (filter_sublist.map Row.id)
  have hpositions : (∃ fuel out, accountPages t.positions fuel
      ((owned tenantId accountId t.devices).map Row.id) = some out ∧
        out.Perm (ownedPositions t tenantId accountId)) ↔
      ∀ device ∈ owned tenantId accountId t.devices, WholeMs (positionsOf t.positions device.id) := by
    refine (accountPages_iff hdevices).trans ?_
    rw [forall_mem_map]
    exact forall₂_congr fun device _ => positionPages_iff t.positions_key
  rw [← hpositions, ← scopedPaged_iff t.trips_key, ← scopedPaged_iff t.events_key]
  constructor
  · rintro ⟨fuel, lines, hlines, hcomplete⟩
    obtain ⟨trips, events, commands, sms, positions, htrips, hevents, -, -, hpositions, rfl⟩ :=
      exportLines_eq_some_iff.mp hlines
    obtain ⟨htrips', hevents', -, -, hpositions'⟩ := (complete_fileOf_iff ..).mp hcomplete
    exact ⟨⟨fuel, trips, htrips, htrips'⟩, ⟨fuel, events, hevents, hevents'⟩,
      fuel, positions, hpositions, hpositions'⟩
  · rintro ⟨⟨f₁, trips, htrips, htrips'⟩, ⟨f₂, events, hevents, hevents'⟩, f₃, positions, hpos, hpos'⟩
    obtain ⟨f₄, commands, hcommands, hcommands'⟩ := scopedPaged_text tenantId accountId t.commands_key
    obtain ⟨f₅, sms, hsms, hsms'⟩ := scopedPaged_text tenantId accountId t.smsDeliveries_key
    refine ⟨f₁ + f₂ + f₃ + f₄ + f₅, _, exportLines_eq_some_iff.mpr ⟨trips, events, commands, sms,
      positions, scopedPaged_mono (by omega) htrips, scopedPaged_mono (by omega) hevents,
      scopedPaged_mono (by omega) hcommands, scopedPaged_mono (by omega) hsms,
      accountPages_mono (by omega) hpos, rfl⟩, ?_⟩
    exact (complete_fileOf_iff ..).mpr ⟨htrips', hevents', hcommands', hsms', hpos'⟩

/-! An account whose trips make up one page, of which the oldest has an id of one digit. -/

def tripOf (id : ℕ) : Row ℤ Unit := ⟨id, "tenant", "account", ()⟩

def pageOfTrips : List (Row ℤ Unit) := (9 :: range' 10000 9999).map tripOf

lemma pageOfTrips_key : (pageOfTrips.map Row.id).Nodup := by
  unfold pageOfTrips
  rw [map_map]
  refine Nodup.map (fun a b h => Int.ofNat.inj h) (nodup_cons.mpr ⟨?_, nodup_range'⟩)
  rw [mem_range'_1]
  omega

/-- An account with nothing else. -/
def pageOfTripsTables : Tables Unit where
  accounts := []
  users := []
  devices := []
  drivers := []
  trips := pageOfTrips
  events := []
  commands := []
  geofences := []
  rules := []
  webhooks := []
  smsDeliveries := []
  scheduledReports := []
  pushSubscriptions := []
  positions := []
  devices_key := nodup_nil
  trips_key := pageOfTrips_key
  events_key := nodup_nil
  commands_key := nodup_nil
  smsDeliveries_key := nodup_nil
  positions_key := nodup_nil

lemma idText_tripOf (id : ℕ) : idText (tripOf id) = Nat.toDigits 10 id := by
  show (Nat.repr id).toList = _
  rw [Nat.repr_eq_ofList_toDigits, String.toList_ofList]

lemma toDigits_of_page {id : ℕ} (h : 10000 ≤ id) (h' : id < 20000) :
    ∃ digits, Nat.toDigits 10 id = '1' :: digits := by
  have hdiv : id / 10 / 10 / 10 / 10 = 1 := by omega
  refine ⟨[(id / 10 / 10 / 10 % 10).digitChar, (id / 10 / 10 % 10).digitChar,
    (id / 10 % 10).digitChar, (id % 10).digitChar], ?_⟩
  rw [Nat.toDigits_of_base_le (by decide) (by omega), Nat.toDigits_of_base_le (by decide) (by omega),
    Nat.toDigits_of_base_le (by decide) (by omega), Nat.toDigits_of_base_le (by decide) (by omega), hdiv]
  rfl

/-- **An export that repeats almost a whole page.** The first page ends with the trip 9, the last in the
order of the texts; the next query asks for the trips above 9. -/
theorem export_repeats_page : ¬ ∃ fuel lines,
    exportLines pageOfTripsTables "tenant" "account" fuel = some lines ∧
      Complete pageOfTripsTables "tenant" "account" lines := by
  intro h
  have hagree := ((export_complete_iff pageOfTripsTables "tenant" "account").mp h).1
  have howned : owned "tenant" "account" pageOfTripsTables.trips = pageOfTrips := by
    refine filter_eq_self.mpr fun row hrow => ?_
    obtain ⟨id, -, rfl⟩ := mem_map.mp hrow
    rfl
  rw [howned] at hagree
  set sorted := orderBy idText pageOfTrips with hsorted
  have hperm : sorted.Perm pageOfTrips := orderBy_perm
  have hlength : sorted.length = pageSize := by
    rw [hperm.length_eq]
    unfold pageOfTrips pageSize
    rw [length_map, length_cons, length_range']
  obtain ⟨before, row, hsplit⟩ : ∃ before row, sorted = before ++ [row] := by
    rcases eq_nil_or_concat sorted with hnil | ⟨before, row, hconcat⟩
    · rw [hnil] at hlength
      cases hlength
    · exact ⟨before, row, hconcat.trans (concat_eq_append ..)⟩
  have hbefore : before.length + 1 = pageSize := by
    rw [← hlength, hsplit, length_append, length_singleton]
  have hbelow := (hagree before row [] hsplit ⟨1, by omega⟩).1
  have hmem : ∀ row' ∈ sorted, row' = tripOf 9 ∨ ∃ id, 10000 ≤ id ∧ id < 20000 ∧ row' = tripOf id := by
    intro row' hrow'
    obtain ⟨id, hid, rfl⟩ := mem_map.mp (hperm.mem_iff.mp hrow')
    rcases mem_cons.mp hid with rfl | hid
    · exact Or.inl rfl
    · have hrange := mem_range'_1.mp hid
      exact Or.inr ⟨id, hrange.1, by omega, rfl⟩
  have hnine : tripOf 9 ∈ sorted := hperm.mem_iff.mpr (mem_map_of_mem mem_cons_self)
  have hrow : row ∈ sorted := hsplit ▸ mem_append_right before (mem_singleton_self row)
  rcases hmem row hrow with rfl | ⟨id, hle, hlt, rfl⟩
  · -- every other trip is above 9
    obtain ⟨row', hrow'⟩ : ∃ row', row' ∈ before :=
      exists_mem_of_length_pos (by rw [show before.length = 9999 by unfold pageSize at hbefore; omega]; decide)
    have hlt := hbelow row' hrow'
    rcases hmem row' (hsplit ▸ mem_append_left _ hrow') with rfl | ⟨id, hle, -, rfl⟩
    · exact lt_irrefl _ hlt
    · have hid : (id : ℤ) < 9 := hlt
      omega
  · -- the text of 9 is above that of the others
    have hnine' : tripOf 9 ∈ before := by
      rw [hsplit] at hnine
      refine (mem_append.mp hnine).resolve_right fun heq => ?_
      have hid : (9 : ℤ) = id := congrArg Row.id (mem_singleton.mp heq)
      omega
    have hle' : idText (tripOf 9) ≤ idText (tripOf id) := by
      have hpairwise : sorted.Pairwise fun a b => idText a ≤ idText b := pairwise_orderBy
      rw [hsplit, pairwise_append] at hpairwise
      exact hpairwise.2.2 _ hnine' _ (mem_singleton_self _)
    obtain ⟨digits, hdigits⟩ := toDigits_of_page hle hlt
    rw [idText_tripOf, idText_tripOf, hdigits] at hle'
    have hgt : ('1' :: digits : Text) < Nat.toDigits 10 9 := Lex.rel (by decide)
    exact absurd hle' (not_le.mpr hgt)

end Orbetra.Gdpr
