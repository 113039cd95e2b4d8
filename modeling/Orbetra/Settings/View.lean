import Orbetra.Records
import Orbetra.Settings.Getparam

/-!
# What the settings page shows

`currentSettings` of `apps/api/src/routes/deviceSettingsView.ts`: from the command rows of a device,
the value of each parameter as the device stated it, and what became of the last write.  Rows are
dated by their ISO strings, which order as their instants.
-/

namespace Orbetra

/-- A parameter that is asked for, and the key it is reported under. -/
structure ReadableParam where
  param : Text
  key : Text
  deriving DecidableEq

inductive CommandStatus
  | queued
  | sent
  | acked
  | failed
  | expired
  deriving DecidableEq

structure CommandRow where
  text : Text
  status : CommandStatus
  response : Option Text
  createdAt : Ms
  sentAt : Option Ms
  deriving DecidableEq

/-- Where a requested change has got to. -/
inductive ChangeState
  | waiting
  | sent
  | confirmed
  | rejected
  | undelivered
  deriving DecidableEq

/-- What the page shows of a parameter. -/
structure CurrentSetting where
  value : Option JsNumber
  checkedAt : Option Ms
  requested : Option JsNumber
  state : Option ChangeState
  deriving DecidableEq

/-- A parameter that nothing is known of. -/
def CurrentSetting.unknown : CurrentSetting := ⟨none, none, none, none⟩

namespace SettingsView

/-- The map `wanted`: of two entries for one parameter, the later one. -/
def wantedKey (available : List ReadableParam) (param : Text) : Option Text :=
  (available.reverse.find? fun s => s.param = param).map (·.key)

def statedNumber (reported : Text → Option (Option Text)) (param : Text) : Option JsNumber :=
  match reported param with
  | some (some raw) => (integerText raw).map jsNumberOf
  | _ => none

def newestFirst (history : List CommandRow) : List CommandRow :=
  history.insertionSort fun a b => b.createdAt ≤ a.createdAt

/-- What the first pass keeps. -/
structure ReadPass where
  current : Text → Option CurrentSetting
  settled : List Text
  readAt : Text → Option Ms

def ReadPass.settle (wanted : Text → Option Text) (row : CommandRow)
    (reported : Text → Option (Option Text)) (v : ReadPass) (param : Text) : ReadPass :=
  match wanted param with
  | none => v
  | some key =>
    if param ∈ v.settled then v
    else
      { current := Function.update v.current key ((v.current key).map fun slot =>
          { slot with
            checkedAt := some (row.sentAt.getD row.createdAt)
            value := statedNumber reported param })
        settled := param :: v.settled
        readAt := Function.update v.readAt param (some row.createdAt) }

def ReadPass.row (wanted : Text → Option Text) (v : ReadPass) (row : CommandRow) : ReadPass :=
  match row.response with
  | none => v
  | some response =>
    let asked := requestedIds row.text
    if asked = [] then v
    else asked.foldl (settle wanted row (parseGetparamReply response asked)) v

def firstReadAfter (oldestFirst : List CommandRow) (param : Text) (writeAt : Ms) :
    Option (Option JsNumber) :=
  oldestFirst.findSome? fun row =>
    match row.response with
    | none => none
    | some response =>
      let asked := requestedIds row.text
      if row.createdAt ≤ writeAt then none
      else if param ∈ asked then some (statedNumber (parseGetparamReply response asked) param)
      else none

/-- Where a write has got to. -/
def changeState (oldestFirst : List CommandRow) (readAt : Text → Option Ms) (row : CommandRow)
    (param : Text) (requested : JsNumber) (shown : Option JsNumber) : ChangeState :=
  match row.status with
  | .queued => .waiting
  | .sent => .sent
  | .failed | .expired => .undelivered
  | .acked =>
    -- a reading taken before the write says nothing about it
    if shown = none ∨ (readAt param).all (· < row.createdAt) then .sent
    else
      match firstReadAfter oldestFirst param row.createdAt with
      | none | some none => .sent
      | some (some verdict) => if verdict = requested then .confirmed else .rejected

/-- What the second pass keeps. -/
structure WritePass where
  current : Text → Option CurrentSetting
  claimed : List Text

/-- A parameter that a row writes. -/
def WritePass.claim (wanted : Text → Option Text) (oldestFirst : List CommandRow)
    (readAt : Text → Option Ms) (row : CommandRow) (v : WritePass) (pair : Text × ℤ) : WritePass :=
  match wanted pair.1 with
  | none => v
  | some key =>
    if pair.1 ∈ v.claimed then v
    else
      { current := Function.update v.current key ((v.current key).map fun slot =>
          { slot with
            requested := some (jsNumberOf pair.2)
            state := some
              (changeState oldestFirst readAt row pair.1 (jsNumberOf pair.2) slot.value) })
        claimed := pair.1 :: v.claimed }

def WritePass.row (wanted : Text → Option Text) (oldestFirst : List CommandRow)
    (readAt : Text → Option Ms) (v : WritePass) (row : CommandRow) : WritePass :=
  (setparamPairs row.text).foldl (claim wanted oldestFirst readAt row) v

end SettingsView

open SettingsView in
def currentSettings (available : List ReadableParam) (history : List CommandRow) :
    Text → Option CurrentSetting :=
  let wanted := wantedKey available
  let empty := fun key => if key ∈ available.map (·.key) then some CurrentSetting.unknown else none
  let rows := newestFirst history
  let read := rows.foldl (ReadPass.row wanted) ⟨empty, [], fun _ => none⟩
  (rows.foldl (WritePass.row wanted rows.reverse read.readAt) ⟨read.current, []⟩).current

end Orbetra
