import Orbetra.Framework.Async
import Orbetra.Records

/-!
# Shard leases

`ShardLeaser` of `apps/worker/src/shards.ts`.  A worker claims a shard by `SET NX`, renews it by a
script that compares and extends, and releases it by a read and a later deletion.

A lease ends by its holder or by time, unless another worker claims it between the read and the
deletion of a release (`lease_ended_by_holder`, `lease_deleted_by_another`).
-/

namespace Orbetra.Shards

open Function Option Async

def shardCount : ℕ := 16

/-- The value of `shards:lease:{n}`, and when it expires. -/
structure LeaseKey (ω : Type) where
  holder : ω
  expiresAt : Ms
  deriving DecidableEq

/-- The lease that a release has read as its own, and whether another worker has claimed it since.
-/
structure OwnRead (ω : Type) where
  worker : ω
  shard : ℕ
  overtaken : Bool
  deriving DecidableEq

/-- Redis and its clock, and the memory of the workers. -/
structure LeaseStore (ι ω : Type) where
  lease : ℕ → Option (LeaseKey ω)
  now : Ms
  /-- `owned`: a set is walked in the order of insertion, so each entry carries a number. -/
  owned : ω → List (ℕ × ℕ)
  nextEntry : ω → ℕ
  reads : ι → Option (OwnRead ω)

variable {ι ω : Type}

/-- `ownsShardLease` -/
def LeaseStore.ownsShardLease [DecidableEq ω] (s : LeaseStore ι ω) (shard : ℕ) (workerId : ω) :
    Bool :=
  (s.lease shard).map (·.holder) = some workerId

/-- One command to Redis, or one access of a worker to its memory. -/
inductive LeaseCommand (ι ω : Type)
  | setNX (workerId : ω) (shard : ℕ) (leaseTtlMs : Ms)
  | renew (workerId : ω) (shard : ℕ) (leaseTtlMs : Ms)
  /-- The read of a release. -/
  | get (me : ι) (workerId : ω) (shard : ℕ)
  | del (me : ι) (workerId : ω) (shard : ℕ)
  /-- `ownsShardLease` -/
  | owns (shard : ℕ) (workerId : ω)
  | has (workerId : ω) (shard : ℕ)
  | add (workerId : ω) (shard : ℕ)
  | delete (workerId : ω) (shard : ℕ)
  /-- The entry of `owned` after the one that was visited last. -/
  | next (workerId : ω) (visited : Option ℕ)
  | clear (workerId : ω)
  | expire (shard : ℕ)
  | wait (ms : ℕ)
  deriving DecidableEq

def LeaseCommand.Answer : LeaseCommand ι ω → Type
  | .setNX .. => Bool
  | .renew .. => Bool
  | .get .. => Option ω
  | .owns .. => Bool
  | .has .. => Bool
  | .next .. => Option (ℕ × ℕ)
  | _ => Unit

variable [DecidableEq ι] [DecidableEq ω]

def OwnRead.claimed (shard : ℕ) (workerId : ω) (read : OwnRead ω) : OwnRead ω :=
  { read with overtaken := read.overtaken || (read.shard = shard && read.worker ≠ workerId) }

def LeaseCommand.run : (c : LeaseCommand ι ω) → LeaseStore ι ω → LeaseStore ι ω × c.Answer
  | .setNX workerId shard leaseTtlMs, s =>
    if (s.lease shard).isSome then
      (s, false)
    else
      ({ s with
        lease := update s.lease shard (some ⟨workerId, s.now + leaseTtlMs⟩)
        reads := fun i => (s.reads i).map (OwnRead.claimed shard workerId) }, true)
  | .renew workerId shard leaseTtlMs, s =>
    if s.ownsShardLease shard workerId then
      ({ s with lease := update s.lease shard (some ⟨workerId, s.now + leaseTtlMs⟩) }, true)
    else
      (s, false)
  | .get me workerId shard, s =>
    ({ s with
      reads := update s.reads me
        (if s.ownsShardLease shard workerId then some ⟨workerId, shard, false⟩ else none) },
      (s.lease shard).map (·.holder))
  | .del _ _ shard, s => ({ s with lease := update s.lease shard none }, ())
  | .owns shard workerId, s => (s, s.ownsShardLease shard workerId)
  | .has workerId shard, s => (s, (s.owned workerId).any (·.2 = shard))
  | .add workerId shard, s =>
    if (s.owned workerId).any (·.2 = shard) then
      (s, ())
    else
      ({ s with
        owned := update s.owned workerId (s.owned workerId ++ [(s.nextEntry workerId, shard)])
        nextEntry := update s.nextEntry workerId (s.nextEntry workerId + 1) }, ())
  | .delete workerId shard, s =>
    ({ s with
      owned := update s.owned workerId ((s.owned workerId).filter (·.2 ≠ shard)) }, ())
  | .next workerId visited, s =>
    (s, (s.owned workerId).find? fun entry => visited.all (· < entry.1))
  | .clear workerId, s => ({ s with owned := update s.owned workerId [] }, ())
  | .expire shard, s => ({ s with lease := update s.lease shard none }, ())
  | .wait ms, s => ({ s with now := s.now + ms }, ())

abbrev leaseService (ι ω : Type) [DecidableEq ι] [DecidableEq ω] : Service (LeaseStore ι ω) where
  Cmd := LeaseCommand ι ω
  Answer := LeaseCommand.Answer
  run := LeaseCommand.run

/-! ## The leaser -/

abbrev Leaser (ι ω : Type) [DecidableEq ι] [DecidableEq ω] := Async (leaseService ι ω) Unit

def send (c : LeaseCommand ι ω) : Leaser ι ω c.Answer := Async.send (V := leaseService ι ω) () c

/-- `tryClaim` -/
def tryClaim (workerId : ω) (leaseTtlMs : Ms) (shard : ℕ) : Leaser ι ω Bool := do
  let got : Bool ← send (.setNX workerId shard leaseTtlMs)
  if got then
    let _ : Unit ← send (.add workerId shard)
    pure true
  else
    pure false

/-- `claimAll`, up to the start of the timer. -/
def claimAll (workerId : ω) (leaseTtlMs : Ms) : Leaser ι ω Unit :=
  (List.range shardCount).foldlM
    (fun _ shard => do
      let _ ← tryClaim workerId leaseTtlMs shard
      pure ()) ()

def tickShard (workerId : ω) (leaseTtlMs : Ms) (shard : ℕ) : Leaser ι ω Unit := do
  let owned : Bool ← send (.has workerId shard)
  if owned then
    let renewed : Bool ← send (.renew workerId shard leaseTtlMs)
    when (renewed = false) (send (.delete workerId shard))
  else
    let _ ← tryClaim workerId leaseTtlMs shard
    pure ()

def tick (workerId : ω) (leaseTtlMs : Ms) : Leaser ι ω Unit :=
  (List.range shardCount).foldlM
    (fun _ shard => (tickShard workerId leaseTtlMs shard).attempt fun _ => pure ()) ()

def releaseLease (me : ι) (workerId : ω) (shard : ℕ) : Leaser ι ω Unit := do
  let holder : Option ω ← send (.get me workerId shard)
  when (holder = some workerId) (send (.del me workerId shard))

/-- `giveUp` -/
def giveUp (me : ι) (workerId : ω) (shard : ℕ) : Leaser ι ω Unit := do
  let _ : Unit ← send (.delete workerId shard)
  releaseLease me workerId shard

/-- `releaseLeases`, which other activities of the worker may keep in its loop: it is followed for a
number of turns. -/
def releaseLeases (me : ι) (workerId : ω) (visited : Option ℕ) : ℕ → Leaser ι ω Unit
  | 0 => .threw ()
  | turns + 1 => do
    let next : Option (ℕ × ℕ) ← send (.next workerId visited)
    match next with
    | none => send (.clear workerId)
    | some (entry, shard) =>
      releaseLease me workerId shard
      releaseLeases me workerId (some entry) turns

/-- What a worker does, and what time does. -/
inductive Activity (ω : Type)
  | claimAll (workerId : ω) (leaseTtlMs : Ms)
  | tick (workerId : ω) (leaseTtlMs : Ms)
  | giveUp (workerId : ω) (shard : ℕ)
  | releaseLeases (workerId : ω) (turns : ℕ)
  | owns (workerId : ω) (shard : ℕ)
  | expire (shard : ℕ)
  | wait (ms : ℕ)
  deriving DecidableEq

def Activity.program (me : ι) : Activity ω → Leaser ι ω Unit
  | .claimAll workerId leaseTtlMs => Shards.claimAll workerId leaseTtlMs
  | .tick workerId leaseTtlMs => Shards.tick workerId leaseTtlMs
  | .giveUp workerId shard => Shards.giveUp me workerId shard
  | .releaseLeases workerId turns => Shards.releaseLeases me workerId none turns
  | .owns workerId shard => do
    let _ : Bool ← send (.owns shard workerId)
    pure ()
  | .expire shard => send (.expire shard)
  | .wait ms => send (.wait ms)

def Activity.worker : Activity ω → Option ω
  | .claimAll workerId _ => some workerId
  | .tick workerId _ => some workerId
  | .giveUp workerId _ => some workerId
  | .releaseLeases workerId _ => some workerId
  | .owns workerId _ => some workerId
  | .expire _ => none
  | .wait _ => none

/-! ## What a step does to the leases -/

section Steps

variable {me : ι} {worker : Option ω} {shard : ℕ} {w : ω} {s s' : LeaseStore ι ω}

def Free (w : ω) (shard : ℕ) (s : LeaseStore ι ω) : Prop := ∀ key ∈ s.lease shard, key.holder = w

def LeaseCommand.Ends (shard : ℕ) (w : ω) : LeaseCommand ι ω → Prop
  | .del _ workerId x => workerId = w ∧ x = shard
  | .expire x => x = shard
  | _ => False

/-- What a release relies on: as long as its read is not overtaken, nobody else holds the lease. -/
def Rely (me : ι) (s s' : LeaseStore ι ω) : Prop :=
  ∀ read ∈ s.reads me, ∃ read' ∈ s'.reads me, read'.worker = read.worker ∧
    read'.shard = read.shard ∧ (read'.overtaken = false → read.overtaken = false ∧
      (Free read.worker read.shard s → Free read.worker read.shard s'))

structure Promise (worker : Option ω) (me : ι) (c : LeaseCommand ι ω) (s s' : LeaseStore ι ω) :
    Prop where
  /-- A lease is deleted or extended by its holder, or ends by time. -/
  kept : ∀ shard, ∀ key ∈ s.lease shard,
    key ∈ s'.lease shard ∨ c = .expire shard ∨ worker = some key.holder
  held : ∀ shard, ∀ key ∈ s.lease shard,
    (∃ key' ∈ s'.lease shard, key'.holder = key.holder) ∨ c.Ends shard key.holder
  rely : ∀ j, j ≠ me → Rely j s s'

/-- A release deletes a lease that no other worker has claimed since it was read. -/
def Unovertaken (s : LeaseStore ι ω) : LeaseCommand ι ω → Prop
  | .del me _ _ => ∀ read ∈ s.reads me, read.overtaken = false
  | _ => True

def LeaseCommand.Plain (worker : Option ω) (me : ι) : LeaseCommand ι ω → Prop
  | .setNX workerId .. => worker = some workerId
  | .renew workerId .. => worker = some workerId
  | .get reader .. => reader = me
  | .del .. => False
  | _ => True

omit [DecidableEq ι] [DecidableEq ω] in
lemma Rely.of_same (hlease : s'.lease = s.lease) (hreads : s'.reads me = s.reads me) :
    Rely me s s' := by
  refine fun read hread => ⟨read, hreads ▸ hread, rfl, rfl, fun h => ⟨h, fun hfree => ?_⟩⟩
  unfold Free
  rw [hlease]
  exact hfree

omit [DecidableEq ι] [DecidableEq ω] in
lemma Promise.of_same {c : LeaseCommand ι ω} (hlease : s'.lease = s.lease)
    (hreads : ∀ j, j ≠ me → s'.reads j = s.reads j) : Promise worker me c s s' := by
  refine ⟨fun shard key hkey => Or.inl (hlease ▸ hkey), fun shard key hkey => ?_, fun j hj => ?_⟩
  · exact Or.inl ⟨key, hlease ▸ hkey, rfl⟩
  · exact .of_same hlease (hreads j hj)

omit [DecidableEq ι] [DecidableEq ω] in
lemma Promise.write {c : LeaseCommand ι ω} {key' : Option (LeaseKey ω)}
    (hlease : s'.lease = update s.lease shard key')
    (hkept : ∀ key ∈ s.lease shard, c = .expire shard ∨ worker = some key.holder)
    (hheld : ∀ key ∈ s.lease shard,
      (∃ new ∈ key', new.holder = key.holder) ∨ c.Ends shard key.holder)
    (hrely : ∀ j, j ≠ me → Rely j s s') : Promise worker me c s s' := by
  refine ⟨fun x key hkey => ?_, fun x key hkey => ?_, hrely⟩
  · by_cases hx : x = shard
    · subst hx
      exact Or.inr (hkept key hkey)
    · rw [hlease, update_of_ne hx]
      exact Or.inl hkey
  · by_cases hx : x = shard
    · subst hx
      rw [hlease, update_self]
      exact hheld key hkey
    · rw [hlease, update_of_ne hx]
      exact Or.inl ⟨key, hkey, rfl⟩

omit [DecidableEq ι] [DecidableEq ω] in
lemma Rely.write {key' : Option (LeaseKey ω)} (hreads : s'.reads me = s.reads me)
    (hlease : s'.lease = update s.lease shard key')
    (hfree : ∀ w, Free w shard s → ∀ new ∈ key', new.holder = w) : Rely me s s' := by
  refine fun read hread => ⟨read, hreads ▸ hread, rfl, rfl, fun h => ⟨h, fun hs => ?_⟩⟩
  unfold Free
  rw [hlease]
  by_cases hx : read.shard = shard
  · rw [hx] at hs ⊢
    rw [update_self]
    exact hfree _ hs
  · rw [update_of_ne hx]
    exact hs

omit [DecidableEq ι] in
lemma holder_of_owns (h : s.ownsShardLease shard w = true) :
    ∃ key ∈ s.lease shard, key.holder = w :=
  map_eq_some_iff.mp (of_decide_eq_true h)

omit [DecidableEq ι] in
/-- A claim overtakes the reads of the others. -/
lemma rely_setNX {leaseTtlMs : Ms} (me : ι) :
    Rely me s { s with
      lease := update s.lease shard (some ⟨w, s.now + leaseTtlMs⟩)
      reads := fun i => (s.reads i).map (OwnRead.claimed shard w) } := by
  intro read hread
  refine ⟨read.claimed shard w, ?_, rfl, rfl, fun hclaimed => ?_⟩
  · show (s.reads me).map _ = _
    rw [mem_def.mp hread, map_some]
  obtain ⟨hbefore, hother⟩ := Bool.or_eq_false_iff.mp hclaimed
  refine ⟨hbefore, fun hfree => ?_⟩
  show ∀ key ∈ update s.lease shard _ read.shard, _
  by_cases hx : read.shard = shard
  · rw [hx, update_self]
    rintro key ⟨⟩
    by_contra hne
    simp [hx, Ne.symm hne] at hother
  · rw [update_of_ne hx]
    exact hfree

lemma LeaseCommand.Plain.run {c : LeaseCommand ι ω} (hc : c.Plain worker me)
    (s : LeaseStore ι ω) : Promise worker me c s (c.run s).1 := by
  cases c with
  | setNX workerId shard leaseTtlMs =>
    unfold LeaseCommand.run
    dsimp only
    split
    · exact .of_same rfl fun _ _ => rfl
    rename_i hfree
    have hnone : s.lease shard = none := not_isSome_iff_eq_none.mp hfree
    refine .write rfl (fun key hkey => ?_) (fun key hkey => ?_) fun j _ => rely_setNX j
    · rw [hnone] at hkey
      cases hkey
    · rw [hnone] at hkey
      cases hkey
  | renew workerId shard leaseTtlMs =>
    unfold LeaseCommand.run
    dsimp only
    split
    swap
    · exact .of_same rfl fun _ _ => rfl
    rename_i howns
    obtain ⟨own, hown, hholder⟩ := holder_of_owns howns
    refine .write rfl (fun key hkey => ?_) (fun key hkey => ?_) fun j _ => ?_
    · cases hown.symm.trans hkey
      exact Or.inr (by rw [hholder]; exact hc)
    · cases hown.symm.trans hkey
      exact Or.inl ⟨_, rfl, hholder.symm⟩
    · refine .write rfl rfl fun w hw new hnew => ?_
      cases hnew
      exact hholder.symm.trans (hw own hown)
  | get reader workerId shard =>
    obtain rfl : reader = me := hc
    exact .of_same rfl fun j hj => update_of_ne hj ..
  | del reader workerId shard => exact hc.elim
  | expire shard =>
    refine .write rfl (fun _ _ => Or.inl rfl) (fun _ _ => Or.inr rfl) fun j _ => ?_
    exact .write rfl rfl fun _ _ _ hnew => by cases hnew
  | add workerId shard =>
    unfold LeaseCommand.run
    dsimp only
    split <;> exact .of_same rfl fun _ _ => rfl
  | owns shard workerId => exact .of_same rfl fun _ _ => rfl
  | has workerId shard => exact .of_same rfl fun _ _ => rfl
  | delete workerId shard => exact .of_same rfl fun _ _ => rfl
  | next workerId visited => exact .of_same rfl fun _ _ => rfl
  | clear workerId => exact .of_same rfl fun _ _ => rfl
  | wait ms => exact .of_same rfl fun _ _ => rfl

lemma promise_del (hworker : worker = some w) (hfree : Free w shard s) :
    Promise worker me (.del me w shard) s (LeaseCommand.run (.del me w shard) s).1 := by
  refine .write rfl (fun key hkey => ?_) (fun key hkey => Or.inr ⟨(hfree key hkey).symm, rfl⟩)
    fun j _ => .write rfl rfl fun _ _ _ hnew => by cases hnew
  rw [hfree key hkey]
  exact Or.inr hworker

end Steps

/-! ## One activity among others -/

section Guarded

variable {me : ι} {worker : Option ω} {shard : ℕ} {w : ω} {s s' : LeaseStore ι ω} {α β : Type}

/-- Among others an activity keeps its promise, as long as its reads are not overtaken. -/
abbrev Guarded (worker : Option ω) (me : ι) (m : Leaser ι ω α) (s : LeaseStore ι ω) : Prop :=
  Meets (fun s c _ => Unovertaken s c) (fun _ => Rely me) (Promise worker me) (fun _ _ => True) m s

omit [DecidableEq ι] [DecidableEq ω] in
lemma stable_true : Stable (Rely (ω := ω) me) fun _ => True := fun _ _ _ _ => trivial

lemma guarded_done (a : α) (s : LeaseStore ι ω) : Guarded worker me (.done a) s :=
  .done (fun _ => True) trivial stable_true fun _ _ => trivial

lemma guarded_threw (s : LeaseStore ι ω) : Guarded worker me (.threw () : Leaser ι ω α) s :=
  .threw (fun _ => True) trivial stable_true fun _ _ => trivial

lemma guarded_bind {m : Leaser ι ω α} {f : α → Leaser ι ω β} (hm : Guarded worker me m s)
    (hf : ∀ a s, Guarded worker me (f a) s) : Guarded worker me (m >>= f) s :=
  hm.bind (fun a s _ => hf a s) fun _ _ _ => trivial

lemma promise_answer {c : LeaseCommand ι ω} (h : Promise worker me c s (c.run s).1) (fate : Fate) :
    Promise worker me c s ((leaseService ι ω).answer c s fate).1 := by
  cases fate with
  | ok => exact h
  | refused => exact .of_same rfl fun _ _ => rfl
  | lost => exact h

lemma guarded_plain {m : Leaser ι ω α} (hm : m.Sends (LeaseCommand.Plain worker me))
    (s : LeaseStore ι ω) : Guarded worker me m s :=
  hm.meets (fun _ hc s fate => promise_answer (hc.run s) fate) s

lemma sends_plain {c : LeaseCommand ι ω} (hc : c.Plain worker me) :
    (send c : Leaser ι ω c.Answer).Sends (LeaseCommand.Plain worker me) :=
  Async.Sends.send (V := leaseService ι ω) (c := c) hc

lemma sends_tryClaim (hworker : worker = some w) (leaseTtlMs : Ms) (shard : ℕ) :
    (tryClaim w leaseTtlMs shard : Leaser ι ω Bool).Sends (LeaseCommand.Plain worker me) := by
  refine .bind (sends_plain (c := .setNX w shard leaseTtlMs) hworker) fun got => ?_
  cases got with
  | false => trivial
  | true => exact .bind (sends_plain (c := .add w shard) trivial) fun _ => trivial

lemma sends_tickShard (hworker : worker = some w) (leaseTtlMs : Ms) (shard : ℕ) :
    (tickShard w leaseTtlMs shard : Leaser ι ω Unit).Sends (LeaseCommand.Plain worker me) := by
  refine .bind (sends_plain (c := .has w shard) trivial) fun owned => ?_
  cases owned with
  | false => exact .bind (sends_tryClaim hworker leaseTtlMs shard) fun _ => trivial
  | true =>
    exact .bind (sends_plain (c := .renew w shard leaseTtlMs) hworker)
      fun _ => .when (sends_plain (c := .delete w shard) trivial)

lemma sends_shards {f : Unit → ℕ → Leaser ι ω Unit}
    (hf : ∀ u shard, (f u shard).Sends (LeaseCommand.Plain worker me)) (l : List ℕ) :
    (l.foldlM f ()).Sends (LeaseCommand.Plain worker me) := by
  induction l with
  | nil => trivial
  | cons shard l ih => exact .bind (hf () shard) fun _ => ih

omit [DecidableEq ι] [DecidableEq ω] in
/-- The read of a release, until another worker claims the lease. -/
def Mine (me : ι) (w : ω) (shard : ℕ) (s : LeaseStore ι ω) : Prop :=
  ∃ read ∈ s.reads me, read.worker = w ∧ read.shard = shard ∧
    (read.overtaken = false → Free w shard s)

omit [DecidableEq ι] [DecidableEq ω] in
lemma stable_mine : Stable (Rely me) (Mine me w shard) := by
  rintro s s' henv ⟨read, hread, rfl, rfl, hfree⟩
  obtain ⟨read', hread', hworker, hshard, hnext⟩ := henv read hread
  refine ⟨read', hread', hworker, hshard, fun hovertaken => ?_⟩
  obtain ⟨hbefore, hkept⟩ := hnext hovertaken
  exact hkept (hfree hbefore)

lemma mine_get (h : (s.lease shard).map (·.holder) = some w) :
    Mine me w shard (LeaseCommand.run (.get me w shard) s).1 := by
  refine ⟨⟨w, shard, false⟩, ?_, rfl, rfl, fun _ key hkey => ?_⟩
  · show update s.reads me _ me = _
    have howns : s.ownsShardLease shard w = true := decide_eq_true h
    rw [update_self, if_pos howns]
  · have hlease : s.lease shard = some key := hkey
    rw [hlease] at h
    exact some.inj h

lemma guarded_releaseLease (hworker : worker = some w) (shard : ℕ) (s : LeaseStore ι ω) :
    Guarded worker me (releaseLease me w shard) s := by
  refine Async.Meets.send (V := leaseService ι ω) (fun _ => True) trivial stable_true
    (fun s _ => ⟨LeaseCommand.Plain.run (c := .get me w shard) rfl s, ?_⟩)
    (fun s _ => ⟨.of_same rfl fun _ _ => rfl, guarded_threw s⟩) fun s _ => guarded_threw _
  refine Meets.when (c := (s.lease shard).map (·.holder) = some w) (fun hholder => ?_)
    fun _ => guarded_done () _
  refine ⟨Mine me w shard, mine_get hholder, stable_mine, fun s hs fate hcan => ?_⟩
  obtain ⟨read, hread, -, -, hfree⟩ := hs
  refine ⟨promise_answer (promise_del hworker (hfree (hcan read hread))) fate, ?_⟩
  cases fate with
  | ok => exact guarded_done () _
  | refused => exact guarded_threw _
  | lost => exact guarded_threw _

lemma guarded_releaseLeases (hworker : worker = some w) (turns : ℕ) (visited : Option ℕ)
    (s : LeaseStore ι ω) : Guarded worker me (releaseLeases me w visited turns) s := by
  induction turns generalizing visited s with
  | zero => exact guarded_threw s
  | succ turns ih =>
    refine guarded_bind (guarded_plain (sends_plain (c := .next w visited) trivial) s)
      fun next s => ?_
    cases next with
    | none => exact guarded_plain (sends_plain (c := .clear w) trivial) s
    | some entry => exact guarded_bind (guarded_releaseLease hworker entry.2 s) fun _ s => ih _ s

/-- **One activity among others.** -/
lemma guarded_program (activity : Activity ω) (s : LeaseStore ι ω) :
    Guarded activity.worker me (activity.program me) s := by
  cases activity with
  | claimAll workerId leaseTtlMs =>
    refine guarded_plain (sends_shards (fun _ shard => ?_) _) s
    exact .bind (sends_tryClaim rfl leaseTtlMs shard) fun _ => trivial
  | tick workerId leaseTtlMs =>
    refine guarded_plain (sends_shards (fun _ shard => ?_) _) s
    exact (sends_tickShard rfl leaseTtlMs shard).attempt fun _ => trivial
  | giveUp workerId shard =>
    exact guarded_bind (guarded_plain (sends_plain (c := .delete workerId shard) trivial) s)
      fun _ s => guarded_releaseLease rfl shard s
  | releaseLeases workerId turns => exact guarded_releaseLeases rfl turns none s
  | owns workerId shard =>
    have hsends : (Activity.program me (.owns workerId shard)).Sends
        (LeaseCommand.Plain (some workerId) me) :=
      .bind (sends_plain (c := .owns shard workerId) trivial) fun _ => trivial
    exact guarded_plain hsends s
  | expire shard => exact guarded_plain (sends_plain (c := .expire shard) trivial) s
  | wait ms => exact guarded_plain (sends_plain (c := .wait ms) trivial) s

end Guarded

/-! ## Any workers in any order -/

section Pool

variable {activities : ι → Activity ω}

abbrev LeasePool (ι ω : Type) [DecidableEq ι] [DecidableEq ω] := Pool ι (leaseService ι ω) Unit Unit

/-- Activities before any of them starts. -/
def leasers (activities : ι → Activity ω) (s : LeaseStore ι ω) : LeasePool ι ω :=
  ⟨s, fun i => (activities i).program i⟩

variable {start : LeaseStore ι ω} {p p' : LeasePool ι ω}

/-- No release is overtaken. -/
def InTime (p : LeasePool ι ω) (_ : ι) (c : LeaseCommand ι ω) (_ : Fate) : Prop :=
  Unovertaken p.state c

/-- A step that ends no lease of the worker, by time or by the worker. -/
def Keeping (shard : ℕ) (w : ω) (p : LeasePool ι ω) (i : ι) (c : LeaseCommand ι ω) (fate : Fate) :
    Prop := InTime p i c fate ∧ ¬ c.Ends shard w

lemma compatible_inTime : Pool.Compatible (InTime (ι := ι) (ω := ω))
    (fun _ s c _ => Unovertaken s c) (fun i _ => Rely i)
    fun i => Promise (activities i).worker i :=
  fun _ _ _ _ _ _ hfits => ⟨hfits, fun hown j hj => hown.rely j hj⟩

lemma meets_leasers : (leasers activities start).Meets (fun _ s c _ => Unovertaken s c)
    (fun i _ => Rely i) (fun i => Promise (activities i).worker i) fun _ _ _ => True :=
  fun i => guarded_program (activities i) start

lemma promise_step (hrun : Pool.Run InTime (leasers activities start) p) {i : ι}
    {c : LeaseCommand ι ω} {fate : Fate} (hstep : p.Step i c fate p') (hfits : InTime p i c fate) :
    Promise (activities i).worker i c p.state p'.state :=
  ((hrun.meets compatible_inTime meets_leasers).step compatible_inTime hstep hfits).1

/-- **A lease ends by its holder or by time**, in every run in which no other worker claims a lease
between the read and the deletion of a release: no step deletes or extends a lease of another
worker, a lease that neither expires nor is deleted by its holder is held, and a shard has one
holder. -/
theorem lease_ended_by_holder (hrun : Pool.Run InTime (leasers activities start) p) :
    (∀ i c fate p', p.Step i c fate p' → InTime p i c fate → ∀ shard, ∀ key ∈ p.state.lease shard,
      key ∈ p'.state.lease shard ∨ c = .expire shard ∨ (activities i).worker = some key.holder) ∧
    (∀ shard w p', p.state.ownsShardLease shard w = true → Pool.Run (Keeping shard w) p p' →
      p'.state.ownsShardLease shard w = true) ∧
    ∀ shard w w', p.state.ownsShardLease shard w = true →
      p.state.ownsShardLease shard w' = true → w = w' := by
  refine ⟨fun i c fate p' hstep hfits => (promise_step hrun hstep hfits).kept,
    fun shard w p' howns hkeeping => ?_, fun shard w w' h h' => ?_⟩
  · induction hkeeping with
    | refl => exact howns
    | @step q q' i c fate hq hstep hfits ih =>
      have hbefore : Pool.Run InTime (leasers activities start) q :=
        hrun.trans (hq.mono fun _ _ _ _ h => h.1)
      obtain ⟨key, hkey, hholder⟩ := holder_of_owns ih
      rcases (promise_step hbefore hstep hfits.1).held shard key hkey with ⟨key', hkey', hsame⟩ | h
      · refine decide_eq_true ?_
        rw [mem_def.mp hkey', map_some, hsame, hholder]
      · exact absurd (hholder ▸ h) hfits.2
  · exact some.inj ((of_decide_eq_true h).symm.trans (of_decide_eq_true h'))

instance (s : LeaseStore ι ω) (c : LeaseCommand ι ω) : Decidable (Unovertaken s c) := by
  cases c <;> unfold Unovertaken <;> infer_instance

instance (shard : ℕ) (w : ω) (c : LeaseCommand ι ω) : Decidable (c.Ends shard w) := by
  cases c <;> unfold LeaseCommand.Ends <;> infer_instance

instance (p : LeasePool ι ω) (i : ι) (c : LeaseCommand ι ω) (fate : Fate) :
    Decidable (InTime p i c fate) := inferInstanceAs (Decidable (Unovertaken p.state c))

instance (shard : ℕ) (w : ω) (p : LeasePool ι ω) (i : ι) (c : LeaseCommand ι ω) (fate : Fate) :
    Decidable (Keeping shard w p i c fate) :=
  inferInstanceAs (Decidable (InTime p i c fate ∧ ¬ c.Ends shard w))

end Pool

/-! Worker 0 gives up shard 0, which it holds; the lease may expire, and worker 1 claims shards. -/

def handOver : Fin 3 → Activity (Fin 2)
  | 0 => .giveUp 0 0
  | 1 => .expire 0
  | 2 => .claimAll 1 30000

def sampleLeases : LeasePool (Fin 3) (Fin 2) :=
  leasers handOver ⟨fun shard => if shard = 0 then some ⟨0, 30000⟩ else none, 0,
    fun w => if w = 0 then [(0, 0)] else [], fun _ => 1, fun _ => none⟩

def released : Option (LeasePool (Fin 3) (Fin 2)) :=
  sampleLeases.execWith InTime [(0, .ok), (0, .ok), (0, .ok), (2, .ok)]

/-- Worker 1 goes on to claim shard 1. -/
def claimedNext : Option (LeasePool (Fin 3) (Fin 2)) :=
  released.bind fun p => p.execWith (Keeping 0 1) [(2, .ok), (2, .ok)]

theorem lease_ended_by_holder_claimed : ∃ p' : LeasePool (Fin 3) (Fin 2), claimedNext = some p' ∧
    p'.state.ownsShardLease 1 1 = true ∧ p'.state.ownsShardLease 0 1 = true := by
  have howns : released.map (fun p => p.state.ownsShardLease 0 1) = some true := by decide +kernel
  have hnext : claimedNext.map (fun p => p.state.ownsShardLease 1 1) = some true := by
    decide +kernel
  cases hp : released with
  | none =>
    rw [hp] at howns
    cases howns
  | some p =>
    rw [hp] at howns
    cases hp' : claimedNext with
    | none =>
      rw [hp'] at hnext
      cases hnext
    | some p' =>
      rw [hp'] at hnext
      unfold claimedNext at hp'
      rw [hp, bind_some] at hp'
      exact ⟨p', rfl, some.inj hnext,
        (lease_ended_by_holder (Pool.run_execWith _ _ hp)).2.1 0 1 p' (some.inj howns)
          (Pool.run_execWith _ _ hp')⟩

/-- The lease expires after the read, and worker 1 claims the shard. -/
def overtaken : LeasePool (Fin 3) (Fin 2) :=
  sampleLeases.exec [(0, .ok), (0, .ok), (1, .ok), (2, .ok)]

/-- Worker 0 deletes the lease of worker 1, which has not expired. -/
theorem lease_deleted_by_another : ∃ p', sampleLeases.Reaches overtaken ∧
    overtaken.Step 0 (.del 0 0 0) .ok p' ∧ (handOver 0).worker = some 0 ∧
    overtaken.state.lease 0 = some ⟨1, 30000⟩ ∧ p'.state.lease 0 = none :=
  ⟨_, Pool.reaches_exec _ _, Pool.step_exec (by decide +kernel) .ok, rfl, by decide +kernel,
    by decide +kernel⟩

end Orbetra.Shards
