import Orbetra.Devices.Ceilings
import Orbetra.Framework.Update

/-!
# The accounts of the ceilings

A counter is the units that are still on its creation, of all requests, provided every hand-back
comes home to the creation it was charged to; what was granted of a creation stays within the
maximum (`Inv`).  So the ceilings hold in every run of such hand-backs (`ceilings_hold`), and
nothing in the code sees to it that they come home (`handBack_astray`). -/

namespace Orbetra.Ceilings

open Function List Option Machine

/-! ## The scripts -/

variable {key other : Key} {n used : ℤ} {windowS : ℕ} {redis redis' : Redis}

/-- What adding to a key does: a counter there goes on, or the key is created. -/
structure Charged (redis : Redis) (key : Key) (n : ℤ) (redis' : Redis) (used : ℤ) : Prop where
  frame : ∀ other, other ≠ key →
    redis'.keys other = redis.keys other ∧ redis'.births other = redis.births other
  counter : ∃ counter', redis'.keys key = some counter' ∧ counter'.value = used ∧
    ((∃ counter, redis.keys key = some counter ∧ used = counter.value + n ∧
        counter'.born = counter.born ∧ redis'.births key = redis.births key) ∨
      (redis.keys key = none ∧ used = n ∧ counter'.born = redis.births key + 1 ∧
        redis'.births key = redis.births key + 1))

variable {counter : Counter}

@[simp] lemma put_keys_self : (redis.put key counter).keys key = some counter := update_self ..

lemma put_keys_of_ne (h : other ≠ key) : (redis.put key counter).keys other = redis.keys other :=
  update_of_ne h ..

lemma incrby_charged : Charged redis key n (redis.incrby key n).1 (redis.incrby key n).2 := by
  unfold Redis.incrby
  cases hkey : redis.keys key with
  | some counter =>
    exact ⟨fun other hne => ⟨put_keys_of_ne hne, rfl⟩, _, put_keys_self, rfl,
      .inl ⟨counter, hkey, rfl, rfl, rfl⟩⟩
  | none =>
    exact ⟨fun other hne => ⟨put_keys_of_ne hne, update_of_ne hne ..⟩, _, put_keys_self,
      rfl, .inr ⟨hkey, rfl, rfl, update_self ..⟩⟩

lemma Charged.expire (h : Charged redis key n redis' used) :
    Charged redis key n (redis'.expire key windowS) used := by
  obtain ⟨counter', hkey, hvalue, hcases⟩ := h.counter
  have hexpire : redis'.expire key windowS =
      redis'.put key { counter' with expires := some (redis'.now + 1000 * windowS) } := by
    unfold Redis.expire
    rw [hkey]
  rw [hexpire]
  exact ⟨fun other hne => ⟨(put_keys_of_ne hne).trans (h.frame other hne).1, (h.frame other hne).2⟩,
    _, put_keys_self, hvalue, hcases⟩

lemma RL_SCRIPT_charged :
    Charged redis key 1 (RL_SCRIPT redis key windowS).1 (RL_SCRIPT redis key windowS).2 := by
  dsimp only [RL_SCRIPT]
  split
  · exact incrby_charged.expire
  · exact incrby_charged

lemma RL_ADD_SCRIPT_charged :
    Charged redis key n (RL_ADD_SCRIPT redis key windowS n).1
      (RL_ADD_SCRIPT redis key windowS n).2 := by
  dsimp only [RL_ADD_SCRIPT]
  split
  · exact incrby_charged.expire
  · exact incrby_charged

/-- What giving units back does where it does what it is there for: a counter goes down, and nothing
else changes. -/
structure HandedBack (redis : Redis) (key : Key) (n : ℤ) (redis' : Redis) : Prop where
  births : redis'.births = redis.births
  frame : ∀ other, other ≠ key → redis'.keys other = redis.keys other
  counter : redis'.keys key = (redis.keys key).map fun counter =>
    { counter with value := counter.value - n }

/-- **The refund script keeps the windows**, whatever it finds. -/
lemma RL_REFUND_SCRIPT_sameWindows : redis.SameWindows (RL_REFUND_SCRIPT redis key n) := by
  intro other
  unfold RL_REFUND_SCRIPT
  cases hkey : redis.keys key with
  | none => rfl
  | some counter =>
    by_cases hne : other = key
    · subst hne
      dsimp only
      split <;> rw [put_keys_self, hkey] <;> rfl
    · dsimp only
      split <;> rw [put_keys_of_ne hne]

lemma RL_REFUND_SCRIPT_handedBack
    (h : ∀ counter, redis.keys key = some counter → n ≤ counter.value) :
    HandedBack redis key n (RL_REFUND_SCRIPT redis key (-n)) := by
  unfold RL_REFUND_SCRIPT
  cases hkey : redis.keys key with
  | none => exact ⟨rfl, fun _ _ => rfl, by rw [hkey]; rfl⟩
  | some counter =>
    have hle := h counter hkey
    dsimp only
    rw [if_neg (by omega)]
    exact ⟨rfl, fun other hne => put_keys_of_ne hne, by rw [put_keys_self, hkey]; rfl⟩

lemma decr_handedBack (h : redis.keys key = some counter) :
    HandedBack redis key 1 (redis.decr key) := by
  unfold Redis.decr Redis.incrby
  rw [h]
  exact ⟨rfl, fun other hne => put_keys_of_ne hne, by rw [put_keys_self, h]; rfl⟩

lemma HandedBack.sameWindows (h : HandedBack redis key n redis') : redis.SameWindows redis' := by
  intro other
  by_cases hne : other = key
  · subst hne
    rw [h.counter, Option.map_map]
    rfl
  · rw [h.frame other hne]

/-! ## The counter is the units that are out -/

variable {limits : Limits} {s s' : State} {i : ℕ} {r r' : Request} {weight : Request → ℤ}
  {born : ℕ}

lemma total_set (h : s.requests[i]? = some r) :
    (s.set i redis r').total weight = s.total weight + (weight r' - weight r) := by
  obtain ⟨hlt, hr⟩ := List.getElem?_eq_some_iff.1 h
  have hlt' : i < (s.requests.map weight).length := by simpa using hlt
  have hmap : (s.requests.map weight)[i] = weight r := by
    rw [getElem_map, hr]
  unfold State.total State.set
  rw [map_set, sum_set', dif_pos hlt', hmap, neg_add_eq_sub]

lemma total_append :
    (State.mk redis (s.requests ++ [r])).total weight = s.total weight + weight r := by
  simp [State.total]

variable {weigh : Charge → ℕ}

lemma weigh_of_charge (h : r.charge key = r'.charge key) :
    r.weigh key born weigh = r'.weigh key born weigh := by
  unfold Request.weigh
  rw [h]

lemma weigh_of_none (h : r.charge key = none) : r.weigh key born weigh = 0 := by
  unfold Request.weigh
  rw [h]

lemma weigh_of_some {charge : Charge} (h : r.charge key = some charge) :
    r.weigh key born weigh = if charge.born = born then (weigh charge : ℤ) else 0 := by
  unfold Request.weigh
  rw [h]

lemma weigh_nonneg : 0 ≤ r.weigh key born weigh := by
  unfold Request.weigh
  split
  · split
    · exact Int.natCast_nonneg _
    · exact le_refl _
  · exact le_refl _

lemma granted_le_owed : r.granted key born ≤ r.owed key born := by
  unfold Request.granted Request.owed Request.weigh
  cases r.charge key with
  | none => exact le_refl _
  | some charge =>
    dsimp only
    split
    · split
      · exact le_refl _
      · exact Int.natCast_nonneg _
    · exact le_refl _

def Request.Counted : Request → Prop
  | .creation r => r.settled → r.landed ≤ r.created
  | .sms _ => True

lemma Request.Counted.consumed_le (h : r.Counted) : r.consumed key born ≤ r.granted key born := by
  have hunits : ∀ charge, r.charge key = some charge → r.work ≤ charge.units := by
    intro charge hcharge
    cases r with
    | creation r =>
      simp only [Request.charge, ite_none_right_eq_some, map_eq_some_iff] at hcharge
      obtain ⟨-, mark, -, rfl⟩ := hcharge
      have hle := r.landed_le
      change r.landed ≤ if r.settled = true then r.created else r.cost
      split
      · exact h ‹_›
      · exact hle
    | sms r =>
      simp only [Request.charge, bind_eq_some_iff, map_eq_some_iff] at hcharge
      obtain ⟨quota, -, mark, -, rfl⟩ := hcharge
      simp only [Request.work, Sms.units]
      cases r.status with
      | failed back => exact Nat.zero_le _
      | checking => exact Nat.zero_le _
      | sent => exact le_refl _
  unfold Request.consumed Request.granted Request.weigh
  cases hcharge : r.charge key with
  | none => exact le_refl _
  | some charge =>
    have hle := hunits charge hcharge
    dsimp only
    split
    · split <;> omega
    · exact le_refl _

/-- The accounts of the counters. -/
structure Inv (limits : Limits) (s : State) : Prop where
  born : ∀ key counter, s.redis.keys key = some counter → counter.born = s.redis.births key
  value : ∀ key counter, s.redis.keys key = some counter →
    counter.value = s.total (Request.owed key counter.born)
  fresh : ∀ key born, s.redis.births key < born → s.total (Request.owed key born) = 0
  granted : ∀ key born, s.total (Request.granted key born) ≤ limits.max key
  counted : ∀ r ∈ s.requests, r.Counted

lemma total_owed_nonneg : 0 ≤ s.total (Request.owed key born) := by
  refine sum_nonneg fun x hx => ?_
  obtain ⟨r, -, rfl⟩ := mem_map.1 hx
  exact weigh_nonneg

lemma total_le_total {weight' : Request → ℤ} (h : ∀ r ∈ s.requests, weight r ≤ weight' r) :
    s.total weight ≤ s.total weight' :=
  sum_le_sum h

lemma Inv.consumed_le (h : Inv limits s) : s.total (Request.consumed key born) ≤ limits.max key :=
  (total_le_total fun r hr => (h.counted r hr).consumed_le).trans (h.granted key born)

lemma Inv.nonneg (h : Inv limits s) (hkey : s.redis.keys key = some counter) : 0 ≤ counter.value :=
  h.value key counter hkey ▸ total_owed_nonneg

lemma counted_set (h : ∀ r ∈ s.requests, r.Counted) (hr' : r'.Counted) :
    ∀ r ∈ (s.set i redis r').requests, r.Counted := by
  intro r hr
  rcases mem_or_eq_of_mem_set hr with hmem | rfl
  · exact h r hmem
  · exact hr'

lemma inv_start : Inv limits start :=
  ⟨fun _ _ h => (nomatch h), fun _ _ h => (nomatch h), fun _ _ _ => rfl,
    fun _ _ => Int.natCast_nonneg _, fun _ h => (nomatch h)⟩

lemma Inv.lose (h : Inv limits s)
    (hbirths : redis.births = s.redis.births)
    (hkeys : ∀ key counter, redis.keys key = some counter → s.redis.keys key = some counter) :
    Inv limits { s with redis := redis } :=
  ⟨fun key counter hkey => hbirths ▸ h.born key counter (hkeys key counter hkey),
    fun key counter hkey => h.value key counter (hkeys key counter hkey),
    fun key born hlt => h.fresh key born (hbirths ▸ hlt), h.granted, h.counted⟩

lemma Inv.join (h : Inv limits s) (hcharge : ∀ key, r.charge key = none) (hr : r.Counted) :
    Inv limits { s with requests := s.requests ++ [r] } := by
  have htotal : ∀ weigh : Key → ℕ → Charge → ℕ, ∀ key born,
      (State.mk s.redis (s.requests ++ [r])).total (Request.weigh key born (weigh key born)) =
        s.total (Request.weigh key born (weigh key born)) := by
    intro weigh key born
    rw [total_append, weigh_of_none (hcharge key), add_zero]
  refine ⟨h.born, fun key counter hkey => ?_, fun key born hlt => ?_, fun key born => ?_,
    fun r' hr' => ?_⟩
  · exact (h.value key counter hkey).trans (htotal (fun _ _ => Charge.units) key _).symm
  · exact (htotal (fun _ _ => Charge.units) key born).trans (h.fresh key born hlt)
  · exact (htotal (fun _ _ charge => if charge.granted then charge.units else 0) key born).trans_le
      (h.granted key born)
  · rcases mem_append.1 hr' with hmem | hmem
    · exact h.counted r' hmem
    · exact mem_singleton.1 hmem ▸ hr

lemma Inv.work (h : Inv limits s) (hi : s.requests[i]? = some r)
    (hcharge : ∀ key, r'.charge key = r.charge key) (hr' : r'.Counted) :
    Inv limits (s.set i s.redis r') := by
  have howed : ∀ key born, (s.set i s.redis r').total (Request.owed key born) =
      s.total (Request.owed key born) := by
    intro key born
    rw [total_set hi, Request.owed, weigh_of_charge (hcharge key), sub_self, add_zero]
  refine ⟨h.born, fun key counter hkey => ?_, fun key born hlt => ?_, fun key born => ?_,
    counted_set h.counted hr'⟩
  · exact (h.value key counter hkey).trans (howed key _).symm
  · exact (howed key born).trans (h.fresh key born hlt)
  · rw [total_set hi, Request.granted, weigh_of_charge (hcharge key), sub_self, add_zero]
    exact h.granted key born

lemma total_set_of_charge (hi : s.requests[i]? = some r) (hcharge : r'.charge key = r.charge key) :
    (s.set i redis r').total (Request.weigh key born weigh) =
      s.total (Request.weigh key born weigh) := by
  rw [total_set hi, weigh_of_charge hcharge, sub_self, add_zero]

/-- **A request charges a key.** -/
lemma Inv.charge {units : ℕ} {granted : Bool} (h : Inv limits s) (hi : s.requests[i]? = some r)
    (hcharged : Charged s.redis key units redis used) (hnone : r.charge key = none)
    (hsome : r'.charge key = some ⟨redis.births key, units, granted⟩)
    (hle : granted = true → used ≤ limits.max key)
    (hframe : ∀ other, other ≠ key → r'.charge other = r.charge other) (hr' : r'.Counted) :
    Inv limits (s.set i redis r') := by
  obtain ⟨counter', hkey', hvalue', hcases⟩ := hcharged.counter
  have htotal : ∀ weigh : Charge → ℕ, ∀ born,
      (s.set i redis r').total (Request.weigh key born weigh) =
        s.total (Request.weigh key born weigh) +
          if redis.births key = born then (weigh ⟨redis.births key, units, granted⟩ : ℤ)
          else 0 := by
    intro weigh born
    rw [total_set hi, weigh_of_none hnone, weigh_of_some hsome, sub_zero]
  have hborn' : counter'.born = redis.births key := by
    rcases hcases with ⟨counter, hkey, -, hborn, hbirths⟩ | ⟨-, -, hborn, hbirths⟩
    · rw [hborn, hbirths, h.born key counter hkey]
    · rw [hborn, hbirths]
  -- the counter is its old units and the new ones
  have hused : used = (s.set i redis r').total (Request.owed key (redis.births key)) := by
    have hnow := htotal Charge.units (redis.births key)
    rw [if_pos rfl] at hnow
    rcases hcases with ⟨counter, hkey, hadd, -, hbirths⟩ | ⟨-, hnew, -, hbirths⟩
    · have hold := h.value key counter hkey
      rw [h.born key counter hkey, ← hbirths] at hold
      exact hadd.trans (hold ▸ hnow.symm)
    · have hold := h.fresh key (redis.births key) (by omega)
      rw [Request.owed] at hold
      rw [hold, zero_add] at hnow
      exact hnew.trans hnow.symm
  have hbirths_le : s.redis.births key ≤ redis.births key := by
    rcases hcases with ⟨-, -, -, -, hbirths⟩ | ⟨-, -, -, hbirths⟩ <;> omega
  refine ⟨fun other counter hother => ?_, fun other counter hother => ?_,
    fun other born hlt => ?_, fun other born => ?_, counted_set h.counted hr'⟩
  · by_cases hne : other = key
    · subst hne
      exact some.inj (hkey'.symm.trans hother) ▸ hborn'
    · obtain ⟨hkeys, hbirths⟩ := hcharged.frame other hne
      exact (h.born other counter (hkeys.symm.trans hother)).trans hbirths.symm
  · by_cases hne : other = key
    · subst hne
      cases hkey'.symm.trans hother
      rw [hvalue', hborn']
      exact hused
    · have hkeys := (hcharged.frame other hne).1
      exact (h.value other counter (hkeys.symm.trans hother)).trans
        (total_set_of_charge hi (hframe other hne)).symm
  · by_cases hne : other = key
    · subst hne
      change redis.births other < born at hlt
      refine (htotal Charge.units born).trans ?_
      rw [if_neg (by omega), add_zero]
      exact h.fresh other born (by omega)
    · have hbirths := (hcharged.frame other hne).2
      change redis.births other < born at hlt
      exact (total_set_of_charge hi (hframe other hne)).trans (h.fresh other born (hbirths ▸ hlt))
  · by_cases hne : other = key
    · subst hne
      by_cases hnow : redis.births other = born ∧ granted = true
      · obtain ⟨rfl, hgranted⟩ := hnow
        calc (s.set i redis r').total (Request.granted other (redis.births other))
            ≤ (s.set i redis r').total (Request.owed other (redis.births other)) :=
              total_le_total fun _ _ => granted_le_owed
          _ = used := hused.symm
          _ ≤ limits.max other := hle hgranted
      · refine le_of_eq_of_le ?_ (h.granted other born)
        refine (htotal _ born).trans ?_
        rcases not_and_or.1 hnow with hnot | hnot
        · rw [if_neg hnot, add_zero]
          rfl
        · simp only [Bool.not_eq_true] at hnot
          subst hnot
          simp [Request.granted]
    · exact (total_set_of_charge hi (hframe other hne)).trans_le (h.granted other born)

/-- **A request gives units back**, to the creation it charged. -/
lemma Inv.handBack {charge : Charge} {units : ℕ} (h : Inv limits s) (hi : s.requests[i]? = some r)
    (hcharge : r.charge key = some charge) (hcharge' : r'.charge key = some { charge with units })
    (hunits : units ≤ charge.units)
    (hback : HandedBack s.redis key (charge.units - units : ℤ) redis)
    (hborn : ∀ counter, s.redis.keys key = some counter → counter.born = charge.born)
    (hframe : ∀ other, other ≠ key → r'.charge other = r.charge other) (hr' : r'.Counted) :
    Inv limits (s.set i redis r') := by
  have htotal : ∀ weigh : Charge → ℕ, ∀ born,
      (s.set i redis r').total (Request.weigh key born weigh) =
        s.total (Request.weigh key born weigh) +
          if charge.born = born then (weigh { charge with units } - weigh charge : ℤ) else 0 := by
    intro weigh born
    rw [total_set hi, weigh_of_some hcharge, weigh_of_some hcharge']
    dsimp only
    split
    · rfl
    · rfl
  have hother : ∀ other, other ≠ key → redis.keys other = s.redis.keys other := hback.frame
  refine ⟨fun other counter' hkey' => ?_, fun other counter' hkey' => ?_,
    fun other born hlt => ?_, fun other born => ?_, counted_set h.counted hr'⟩
  · change counter'.born = redis.births other
    rw [hback.births]
    by_cases hne : other = key
    · subst hne
      obtain ⟨counter, hkey, rfl⟩ := map_eq_some_iff.1 (hback.counter.symm.trans hkey')
      exact h.born other counter hkey
    · exact h.born other counter' ((hother other hne).symm.trans hkey')
  · by_cases hne : other = key
    · subst hne
      obtain ⟨counter, hkey, rfl⟩ := map_eq_some_iff.1 (hback.counter.symm.trans hkey')
      have hnow := htotal Charge.units counter.born
      rw [if_pos (hborn counter hkey).symm] at hnow
      have hold := h.value other counter hkey
      unfold Request.owed at hold ⊢
      dsimp only at hnow ⊢
      omega
    · exact (h.value other counter' ((hother other hne).symm.trans hkey')).trans
        (total_set_of_charge hi (hframe other hne)).symm
  · by_cases hne : other = key
    · subst hne
      have hold := h.fresh other born (hback.births ▸ hlt)
      have hnow := htotal Charge.units born
      have hnonneg : 0 ≤ (s.set i redis r').total (Request.owed other born) := total_owed_nonneg
      unfold Request.owed at hold hnonneg ⊢
      rw [hold] at hnow
      dsimp only at hnow
      split at hnow <;> omega
    · exact (total_set_of_charge hi (hframe other hne)).trans
        (h.fresh other born (hback.births ▸ hlt))
  · by_cases hne : other = key
    · subst hne
      refine ((htotal _ born).trans_le ?_).trans (h.granted other born)
      refine add_le_of_nonpos_right ?_
      dsimp only
      split
      · split <;> omega
      · exact le_refl _
    · exact (total_set_of_charge hi (hframe other hne)).trans_le (h.granted other born)

/-! ## The steps keep the accounts -/

variable {move : Move} {c c' : Creation} {m m' : Sms} {quota : Quota}

lemma creation?_eq_some : s.creation? i = some c ↔ s.requests[i]? = some (.creation c) := by
  unfold State.creation?
  split
  · next hr => rw [hr, some.injEq, some.injEq, Request.creation.injEq]
  · next hne => exact ⟨fun h => (nomatch h), fun h => absurd h (hne c)⟩

lemma sms?_eq_some : s.sms? i = some m ↔ s.requests[i]? = some (.sms m) := by
  unfold State.sms?
  split
  · next hr => rw [hr, some.injEq, some.injEq, Request.sms.injEq]
  · next hne => exact ⟨fun h => (nomatch h), fun h => absurd h (hne m)⟩

lemma quota?_eq_some : m.quota? key = some quota ↔ key = m.key quota := by
  cases key <;> cases quota <;> simp [Sms.quota?, Sms.key]

lemma charge_creation :
    (Request.creation c).charge (.devcreate c.tenant) =
      c.mark.map fun mark => ⟨mark.born, c.units, mark.granted⟩ :=
  if_pos rfl

lemma charge_newCreation {tenant : TenantId} {single : Bool} {cost : ℕ} (key : Key) :
    (Request.creation (newCreation tenant single cost)).charge key = none := by
  unfold Request.charge
  dsimp only
  split <;> rfl

lemma charge_newSms {device : DeviceId} {tenant : TenantId} (key : Key) :
    (Request.sms (newSms device tenant)).charge key = none :=
  bind_fun_none _

lemma charge_creation_of_ne (h : key ≠ .devcreate c.tenant) :
    (Request.creation c).charge key = none :=
  if_neg h

lemma charge_sms : (Request.sms m).charge (m.key quota) =
    (m.marks quota).map fun mark => ⟨mark.born, m.units quota, mark.granted⟩ := by
  have hquota : m.quota? (m.key quota) = some quota := quota?_eq_some.2 rfl
  simp only [Request.charge, hquota, bind_some]

lemma charge_sms_frame (hdevice : m'.device = m.device) (htenant : m'.tenant = m.tenant)
    (hquotas : ∀ other, other ≠ quota →
      m'.marks other = m.marks other ∧ m'.units other = m.units other)
    (hne : key ≠ m.key quota) : (Request.sms m').charge key = (Request.sms m).charge key := by
  have hquota? : m'.quota? key = m.quota? key := by
    cases key <;> simp [Sms.quota?, hdevice, htenant]
  simp only [Request.charge, hquota?]
  cases hquota : m.quota? key with
  | none => rfl
  | some other =>
    have hother : other ≠ quota := fun heq => hne (heq ▸ quota?_eq_some.1 hquota)
    obtain ⟨hmarks, hunits⟩ := hquotas other hother
    simp only [bind_some, hmarks, hunits]

lemma reserve_cases (h : c.reserve limits redis = some (redis', c')) :
    c.mark = none ∧ ∃ used, Charged redis (.devcreate c.tenant) c.cost redis' used ∧
      c' = { c with
        mark := some ⟨redis'.births (.devcreate c.tenant), used ≤ limits.deviceMax⟩
        mark_of_settled := fun _ => rfl } := by
  unfold Creation.reserve at h
  split at h
  · cases h
  · next hmark =>
    cases h
    exact ⟨hmark, _, RL_ADD_SCRIPT_charged, rfl⟩

lemma Inv.reserve (h : Inv limits s) (hi : s.creation? i = some c)
    (hstep : c.reserve limits s.redis = some (redis, c')) :
    Inv limits (s.set i redis (.creation c')) := by
  have hr := creation?_eq_some.1 hi
  obtain ⟨hmark, used, hcharged, rfl⟩ := reserve_cases hstep
  have hopen : c.settled = false := by
    by_contra hsettled
    have hsome := c.mark_of_settled (by simpa using hsettled)
    rw [hmark] at hsome
    cases hsome
  refine h.charge hr hcharged ?_ ?_ (fun hle => of_decide_eq_true hle) ?_ ?_
  · rw [charge_creation, hmark]
    rfl
  · refine charge_creation.trans ?_
    simp only [map_some, Creation.units, hopen, Bool.false_eq_true, if_false]
    rfl
  · intro other hne
    rw [charge_creation_of_ne hne]
    exact charge_creation_of_ne hne
  · have hcounted : (Request.creation c).Counted := h.counted _ (mem_of_getElem? hr)
    exact hcounted

lemma land_cases (h : c.land = some c') :
    c.open = true ∧ c'.tenant = c.tenant ∧ c'.mark = c.mark ∧ c'.settled = c.settled ∧
      c'.cost = c.cost := by
  unfold Creation.land at h
  split at h
  · next hopen =>
    cases h
    exact ⟨hopen.1, rfl, rfl, rfl, rfl⟩
  · cases h

lemma activated_cases (h : c.activated = some c') :
    c.open = true ∧ c'.tenant = c.tenant ∧ c'.mark = c.mark ∧ c'.settled = c.settled ∧
      c'.cost = c.cost := by
  unfold Creation.activated at h
  split at h
  · next hopen =>
    cases h
    exact ⟨hopen.1, rfl, rfl, rfl, rfl⟩
  · cases h

lemma Inv.creation_work (h : Inv limits s) (hi : s.creation? i = some c)
    (hstep : c.open = true ∧ c'.tenant = c.tenant ∧ c'.mark = c.mark ∧ c'.settled = c.settled ∧
      c'.cost = c.cost) : Inv limits (s.set i s.redis (.creation c')) := by
  obtain ⟨hopen, htenant, hmark, hsettled, hcost⟩ := hstep
  have hnot : c.settled = false := by
    simp only [Creation.open, Bool.and_eq_true, Bool.not_eq_true'] at hopen
    exact hopen.2
  refine h.work (creation?_eq_some.1 hi) (fun key => ?_) ?_
  · simp only [Request.charge, Creation.units, htenant, hmark, hsettled, hnot, hcost,
      Bool.false_eq_true, if_false]
  · intro hsettled'
    rw [hsettled, hnot] at hsettled'
    cases hsettled'

lemma settle_cases (h : c.settle redis = some (redis', c')) :
    ∃ mark, c.mark = some mark ∧ c.settled = false ∧ c'.tenant = c.tenant ∧ c'.mark = c.mark ∧
      c'.settled = true ∧ c'.landed = c.landed ∧ c'.created = c.created ∧
      redis' = if (c.cost : ℤ) - c.created ≤ 0 then redis
        else RL_REFUND_SCRIPT redis (.devcreate c.tenant) (-(c.cost - c.created)) := by
  unfold Creation.settle at h
  split at h
  · next hopen =>
    cases h
    obtain ⟨mark, hmark⟩ := isSome_iff_exists.1 hopen.1
    exact ⟨mark, hmark, by simpa using hopen.2, rfl, rfl, rfl, rfl, rfl, rfl⟩
  · cases h

lemma settle_sameWindows (h : c.settle redis = some (redis', c')) : redis.SameWindows redis' := by
  obtain ⟨-, -, -, -, -, -, -, -, rfl⟩ := settle_cases h
  split
  · exact fun _ => rfl
  · exact RL_REFUND_SCRIPT_sameWindows

lemma Inv.settle (h : Inv limits s) (hi : s.creation? i = some c)
    (hfits : HandBackHome s (.settle i)) (hstep : c.settle s.redis = some (redis, c')) :
    Inv limits (s.set i redis (.creation c')) := by
  have hr := creation?_eq_some.1 hi
  obtain ⟨hlanded, hhome⟩ := hfits c hi
  obtain ⟨mark, hmark, hopen, htenant, hmark', hsettled', hlanded', hcreated', hredis⟩ :=
    settle_cases hstep
  have hcost : c.created ≤ c.cost := c.created_le.trans c.landed_le
  have hcounted : (Request.creation c').Counted := fun _ => by omega
  have hcharge : (Request.creation c).charge (.devcreate c.tenant) =
      some ⟨mark.born, c.cost, mark.granted⟩ := by
    rw [charge_creation, hmark]
    simp [Creation.units, hopen]
  have hcharge' : (Request.creation c').charge (.devcreate c.tenant) =
      some ⟨mark.born, c.created, mark.granted⟩ := by
    rw [← htenant, charge_creation, hmark', hmark]
    simp [Creation.units, hsettled', hcreated']
  have hframe : ∀ other, other ≠ Key.devcreate c.tenant →
      (Request.creation c').charge other = (Request.creation c).charge other := by
    intro other hne
    rw [charge_creation_of_ne hne, charge_creation_of_ne (htenant ▸ hne)]
  by_cases hall : (c.cost : ℤ) - c.created ≤ 0
  · -- everything was created, and nothing is handed back
    rw [if_pos hall] at hredis
    rw [hredis]
    refine h.work hr (fun key => ?_) hcounted
    by_cases hne : key = .devcreate c.tenant
    · rw [hne, hcharge, hcharge', show c.created = c.cost by omega]
    · exact hframe key hne
  · rw [if_neg hall] at hredis
    have hborn := hhome (by omega) mark hmark
    rw [hredis]
    refine h.handBack hr hcharge hcharge' hcost (RL_REFUND_SCRIPT_handedBack ?_) hborn hframe
      hcounted
    -- the counter still carries the reservation
    intro counter hkey
    have hvalue := h.value _ counter hkey
    have hmem : (Request.creation c).owed (.devcreate c.tenant) counter.born ∈
        s.requests.map (Request.owed (.devcreate c.tenant) counter.born) :=
      mem_map_of_mem (mem_of_getElem? hr)
    have hle := single_le_sum (fun x hx => by
      obtain ⟨r, -, rfl⟩ := mem_map.1 hx
      exact weigh_nonneg) _ hmem
    have howed : (Request.creation c).owed (.devcreate c.tenant) counter.born = c.cost := by
      rw [Request.owed, weigh_of_some hcharge, if_pos (hborn counter hkey).symm]
    calc ((c.cost : ℤ) - c.created)
        ≤ c.cost := by omega
      _ ≤ s.total (Request.owed (.devcreate c.tenant) counter.born) := howed ▸ hle
      _ = counter.value := hvalue.symm

lemma overQuota_cases (h : m.overQuota limits redis quota = some (redis', m')) :
    m.status = .checking ∧ m.marks quota = none ∧ ∃ used,
      Charged redis (m.key quota) 1 redis' used ∧ m' = { m with
        marks := update m.marks quota
          (some ⟨redis'.births (m.key quota), used ≤ limits.max (m.key quota)⟩) } := by
  unfold Sms.overQuota at h
  split at h
  · next hstatus hmark =>
    split at h
    · cases h
      exact ⟨hstatus, hmark, _, RL_SCRIPT_charged, rfl⟩
    · cases h
  · cases h

lemma Inv.overQuota (h : Inv limits s) (hi : s.sms? i = some m)
    (hstep : m.overQuota limits s.redis quota = some (redis, m')) :
    Inv limits (s.set i redis (.sms m')) := by
  have hr := sms?_eq_some.1 hi
  obtain ⟨hstatus, hmark, used, hcharged, rfl⟩ := overQuota_cases hstep
  refine h.charge hr hcharged ?_ ?_ (fun hle => of_decide_eq_true hle) ?_ trivial
  · rw [charge_sms, hmark]
    rfl
  · refine charge_sms.trans ?_
    simp [Sms.units, hstatus]
  · intro other hne
    exact charge_sms_frame rfl rfl (fun other hne => ⟨update_of_ne hne .., rfl⟩) hne

lemma Inv.enqueue {ok : Bool} (h : Inv limits s) (hi : s.sms? i = some m)
    (hstep : m.enqueue ok = some m') : Inv limits (s.set i s.redis (.sms m')) := by
  refine h.work (sms?_eq_some.1 hi) (fun key => ?_) trivial
  unfold Sms.enqueue at hstep
  split at hstep
  · next hstatus =>
    split at hstep
    · cases hstep
      have hunits : ∀ quota, Sms.units { m with
          status := if ok = true then SmsStatus.sent else .failed fun _ => false } quota =
            m.units quota := by
        intro quota
        cases ok <;> simp [Sms.units, hstatus]
      simp only [Request.charge, hunits]
      rfl
    · cases hstep
  · cases hstep

lemma decr_cases (h : m.decr redis quota = some (redis', m')) :
    m.units quota = 1 ∧ redis' = redis.decr (m.key quota) ∧ m'.device = m.device ∧
      m'.tenant = m.tenant ∧ m'.marks = m.marks ∧ m'.units quota = 0 ∧
      ∀ other, other ≠ quota → m'.units other = m.units other := by
  unfold Sms.decr at h
  split at h
  · next back hstatus =>
    split at h
    · cases h
    · next hback =>
      cases h
      refine ⟨by simp [Sms.units, hstatus, hback], rfl, rfl, rfl, rfl, by simp [Sms.units],
        fun other hne => ?_⟩
      simp only [Sms.units, hstatus, update_of_ne hne]
  · cases h

lemma Inv.decr (h : Inv limits s) (hi : s.sms? i = some m)
    (hfits : HandBackHome s (.decr i quota)) (hstep : m.decr s.redis quota = some (redis, m')) :
    Inv limits (s.set i redis (.sms m')) := by
  obtain ⟨mark, hmark, counter, hkey, hborn⟩ := hfits m hi
  obtain ⟨hunits, rfl, hdevice, htenant, hmarks, hunits', hothers⟩ := decr_cases hstep
  have hkey' : m'.key quota = m.key quota := by
    cases quota <;> simp [Sms.key, hdevice, htenant]
  have hcharge : (Request.sms m).charge (m.key quota) = some ⟨mark.born, 1, mark.granted⟩ := by
    rw [charge_sms, hmark, hunits]
    rfl
  have hcharge' : (Request.sms m').charge (m.key quota) = some ⟨mark.born, 0, mark.granted⟩ := by
    rw [← hkey', charge_sms, hmarks, hmark, hunits']
    rfl
  refine h.handBack (sms?_eq_some.1 hi) hcharge hcharge' (Nat.zero_le _) (decr_handedBack hkey)
    ?_ ?_ trivial
  · intro counter' hcounter'
    exact some.inj (hkey.symm.trans hcounter') ▸ hborn
  · intro other hne
    exact charge_sms_frame hdevice htenant
      (fun other hne => ⟨by rw [hmarks], hothers other hne⟩) hne

lemma bind_eq_some {α β : Type} {x : Option α} {f : α → Option β} {b : β} :
    (x >>= f) = some b ↔ ∃ a, x = some a ∧ f a = some b :=
  bind_eq_some_iff

/-- **One step keeps the accounts**, where a hand-back comes home. -/
lemma inv_step (h : Inv limits s) (hfits : HandBackHome s move)
    (hstep : step limits s move = some s') : Inv limits s' := by
  cases move with
  | wait ms =>
    cases hstep
    refine h.lose rfl fun key counter hkey => ?_
    exact (filter_eq_some_iff.1 hkey).1
  | del key =>
    cases hstep
    refine h.lose rfl fun other counter hkey => ?_
    change update s.redis.keys key none other = some counter at hkey
    exact (update_none_eq_some.1 hkey).2
  | create tenant =>
    cases hstep
    exact h.join charge_newCreation fun hsettled => nomatch hsettled
  | «import» tenant rows =>
    cases hstep
    exact h.join charge_newCreation fun hsettled => nomatch hsettled
  | send device tenant =>
    cases hstep
    exact h.join charge_newSms trivial
  | reserve i =>
    obtain ⟨c, hi, hstep⟩ := bind_eq_some.1 hstep
    obtain ⟨⟨redis, c'⟩, hc', hs'⟩ := bind_eq_some.1 hstep
    exact some.inj hs' ▸ h.reserve hi hc'
  | land i =>
    obtain ⟨c, hi, hstep⟩ := bind_eq_some.1 hstep
    obtain ⟨c', hc', hs'⟩ := bind_eq_some.1 hstep
    exact some.inj hs' ▸ h.creation_work hi (land_cases hc')
  | activated i =>
    obtain ⟨c, hi, hstep⟩ := bind_eq_some.1 hstep
    obtain ⟨c', hc', hs'⟩ := bind_eq_some.1 hstep
    exact some.inj hs' ▸ h.creation_work hi (activated_cases hc')
  | settle i =>
    obtain ⟨c, hi, hstep⟩ := bind_eq_some.1 hstep
    obtain ⟨⟨redis, c'⟩, hc', hs'⟩ := bind_eq_some.1 hstep
    exact some.inj hs' ▸ h.settle hi hfits hc'
  | overQuota i quota =>
    obtain ⟨m, hi, hstep⟩ := bind_eq_some.1 hstep
    obtain ⟨⟨redis, m'⟩, hm', hs'⟩ := bind_eq_some.1 hstep
    exact some.inj hs' ▸ h.overQuota hi hm'
  | enqueue i ok =>
    obtain ⟨m, hi, hstep⟩ := bind_eq_some.1 hstep
    obtain ⟨m', hm', hs'⟩ := bind_eq_some.1 hstep
    exact some.inj hs' ▸ h.enqueue hi hm'
  | decr i quota =>
    obtain ⟨m, hi, hstep⟩ := bind_eq_some.1 hstep
    obtain ⟨⟨redis, m'⟩, hm', hs'⟩ := bind_eq_some.1 hstep
    exact some.inj hs' ▸ h.decr hi hfits hm'

lemma handBack_sameWindows (hback : move.IsHandBack) (hfits : HandBackHome s move)
    (hstep : step limits s move = some s') : s.redis.SameWindows s'.redis := by
  cases move with
  | settle i =>
    obtain ⟨c, hi, hstep⟩ := bind_eq_some.1 hstep
    obtain ⟨⟨redis, c'⟩, hc', hs'⟩ := bind_eq_some.1 hstep
    exact some.inj hs' ▸ settle_sameWindows hc'
  | decr i quota =>
    obtain ⟨m, hi, hstep⟩ := bind_eq_some.1 hstep
    obtain ⟨⟨redis, m'⟩, hm', hs'⟩ := bind_eq_some.1 hstep
    obtain ⟨mark, -, counter, hkey, -⟩ := hfits m hi
    obtain ⟨-, rfl, -⟩ := decr_cases hm'
    exact some.inj hs' ▸ (decr_handedBack hkey).sameWindows
  | _ => exact hback.elim

/-- **The ceilings hold** in every run whose hand-backs come home. -/
theorem ceilings_hold {moves : List Move}
    (hfits : RunFits (step limits) HandBackHome start moves) :
    CeilingsHold limits moves := by
  have hinv : ∀ before now, before <+: moves →
      run (step limits) start before = some now → Inv limits now := by
    rintro before now ⟨after, rfl⟩ hrun
    exact run_keeps (Inv limits) (fun _ _ _ => inv_step) inv_start hfits.append.1 hrun
  refine ⟨fun before now hbefore hrun key counter hkey => ?_, ?_,
    fun before now hbefore hrun key born => (hinv before now hbefore hrun).consumed_le⟩
  · exact (hinv before now hbefore hrun).nonneg hkey
  · rintro before move now next ⟨after, rfl⟩ hrun hstep hback
    rw [append_assoc] at hfits
    have hhome := (hfits.append.2 now hrun).1
    exact handBack_sameWindows hback hhome hstep

/-- Hand-backs that come home: an import of which one row is created, and an SMS whose enqueue
fails. -/
theorem ceilings_hold_home :
    CeilingsHold ⟨5, 3600, 5, 100, 1000⟩ [.import "t" 3, .reserve 0, .land 0, .settle 0,
      .send 7 "t", .overQuota 1 .device, .overQuota 1 .tenant, .overQuota 1 .global,
      .enqueue 1 false, .decr 1 .device, .decr 1 .tenant, .decr 1 .global] :=
  ceilings_hold (by decide +kernel)

/-- **A hand-back goes astray.**  An SMS whose enqueue fails after its window has gone leaves a
counter below zero that never expires; an import that fails after its window has gone makes room in
the next one for more devices than the ceiling. -/
theorem handBack_astray :
    ¬ CeilingsHold ⟨2, 3600, 5, 100, 1000⟩ [.send 7 "t", .overQuota 0 .device, .overQuota 0 .tenant,
      .overQuota 0 .global, .enqueue 0 false, .wait 86400000, .decr 0 .device] ∧
    ¬ CeilingsHold ⟨2, 3600, 5, 100, 1000⟩ [.import "t" 2, .reserve 0, .wait 3600000,
      .import "t" 2, .reserve 1, .land 1, .land 1, .settle 1, .settle 0, .import "t" 2, .reserve 2,
      .land 2, .land 2] := by
  constructor
  · intro h
    have hkey : ∃ s, run (step ⟨2, 3600, 5, 100, 1000⟩) start [.send 7 "t",
        .overQuota 0 .device, .overQuota 0 .tenant, .overQuota 0 .global, .enqueue 0 false,
        .wait 86400000, .decr 0 .device] = some s ∧
          s.redis.keys (.smsDev 7) = some ⟨-1, none, 2⟩ := ⟨_, rfl, by decide +kernel⟩
    obtain ⟨s, hrun, hkey⟩ := hkey
    exact absurd (h.nonneg _ s (prefix_refl _) hrun _ _ hkey) (by decide)
  · intro h
    have hconsumed : ∃ s, run (step ⟨2, 3600, 5, 100, 1000⟩) start [.import "t" 2,
        .reserve 0, .wait 3600000, .import "t" 2, .reserve 1, .land 1, .land 1, .settle 1,
        .settle 0, .import "t" 2, .reserve 2, .land 2, .land 2] = some s ∧
          s.total (Request.consumed (.devcreate "t") 2) = 4 := ⟨_, rfl, by decide +kernel⟩
    obtain ⟨s, hrun, hconsumed⟩ := hconsumed
    have hle := h.consumed_le _ s (prefix_refl _) hrun (.devcreate "t") 2
    rw [hconsumed] at hle
    exact absurd hle (by decide)

end Orbetra.Ceilings
