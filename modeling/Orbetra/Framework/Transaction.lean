import Mathlib
import Orbetra.Framework.Machine

/-!
# Transactions at read committed

A transaction reads the committed state with its own writes on top, and its writes become visible
when it commits.  It takes locks one at a time, waits for a lock that another one holds, and holds
what it has taken until it ends.  An `UPDATE` is the lock of a row, a read of its newest version and
a write; a snapshot is a read.

`TxPool` runs any number of transactions in any order of steps, each of which may be cut off.
`TxProof` is the proof rule: a *local* assertion for each transaction, about the committed state,
the locks it holds and what it has left to do, which the commits of others respect, and a *global*
one that commits keep.  `TxProof.run` carries them through a run. -/

/-- A transaction that returns a `ρ`: locks `L`, writes `P`, a database `σ`. -/
inductive Tx (L P σ ρ : Type) : Type
  | commit (r : ρ)
  | rollback
  | lock (l : L) (next : Tx L P σ ρ)
  | write (p : P) (next : Tx L P σ ρ)
  | read (next : σ → Tx L P σ ρ)

/-- A transaction that runs: the call it serves, what is left of it, and what it has written. -/
structure TxHost (C L P σ ρ : Type) where
  call : C
  program : Tx L P σ ρ
  buffer : List P

/-- Transactions over one database. -/
structure TxPool (ι C L P σ ρ : Type) where
  committed : σ
  locks : L → Option ι
  host : ι → Option (TxHost C L P σ ρ)
  /-- the calls that have begun -/
  begun : List C
  /-- the calls that have committed, with their results -/
  ended : List (C × ρ)

/-- What may happen next. -/
inductive TxMove (ι C : Type)
  | start (i : ι) (c : C)
  | step (i : ι)
  /-- A transaction is cut off, and rolls back. -/
  | abort (i : ι)
  deriving DecidableEq

namespace TxPool

variable {ι C L P σ ρ : Type} [DecidableEq ι] [DecidableEq L]

/-- No transaction runs. -/
def init (s : σ) : TxPool ι C L P σ ρ := ⟨s, fun _ => none, fun _ => none, [], []⟩

/-- The locks that a transaction holds. -/
def held (p : TxPool ι C L P σ ρ) (i : ι) : Set L := {l | p.locks l = some i}

/-- A transaction ends, and lets go of its locks. -/
def release (p : TxPool ι C L P σ ρ) (i : ι) : TxPool ι C L P σ ρ :=
  { p with
    locks := fun l => if p.locks l = some i then none else p.locks l
    host := Function.update p.host i none }

/-- A transaction goes on. -/
def goOn (p : TxPool ι C L P σ ρ) (i : ι) (h : TxHost C L P σ ρ) : TxPool ι C L P σ ρ :=
  { p with host := Function.update p.host i (some h) }

variable (apply : σ → P → σ) (program : C → Tx L P σ ρ)

/-- What a transaction sees. -/
def view (s : σ) (buffer : List P) : σ := buffer.foldl apply s

def hostStep (p : TxPool ι C L P σ ρ) (i : ι) (h : TxHost C L P σ ρ) :
    Option (TxPool ι C L P σ ρ) :=
  match h.program with
  | .commit r =>
    let p' := p.release i
    some ⟨view apply p.committed h.buffer, p'.locks, p'.host, p.begun, p.ended ++ [(h.call, r)]⟩
  | .rollback => some (p.release i)
  | .lock l next =>
    if p.locks l = none ∨ p.locks l = some i then
      let p' := p.goOn i ⟨h.call, next, h.buffer⟩
      some ⟨p.committed, Function.update p.locks l (some i), p'.host, p.begun, p.ended⟩
    else none
  | .write w next => some (p.goOn i ⟨h.call, next, h.buffer ++ [w]⟩)
  | .read next => some (p.goOn i ⟨h.call, next (view apply p.committed h.buffer), h.buffer⟩)

def step (p : TxPool ι C L P σ ρ) : TxMove ι C → Option (TxPool ι C L P σ ρ)
  | .start i c =>
    match p.host i with
    | none =>
      let p' := p.goOn i ⟨c, program c, []⟩
      some ⟨p.committed, p.locks, p'.host, p.begun ++ [c], p.ended⟩
    | some _ => none
  | .step i => (p.host i).bind (hostStep apply p i)
  | .abort i => (p.host i).map fun _ => p.release i

/-- A transaction waits for a lock that another one holds. -/
def WaitsFor (p : TxPool ι C L P σ ρ) (i j : ι) : Prop :=
  ∃ h l next, p.host i = some h ∧ h.program = .lock l next ∧ p.locks l = some j ∧ i ≠ j

/-- Some transactions wait for each other. -/
def Deadlocked (p : TxPool ι C L P σ ρ) : Prop :=
  ∃ S : Set ι, S.Nonempty ∧ ∀ i ∈ S, ∃ j ∈ S, p.WaitsFor i j

end TxPool

/-! ## The proof rule -/

section Rule

variable {ι C L P σ ρ : Type} [DecidableEq ι] [DecidableEq L]

/-- What is to be shown of each transaction alone.  `fits` may be assumed of the steps taken. -/
structure TxProof (apply : σ → P → σ) (program : C → Tx L P σ ρ)
    (fits : σ → C → Tx L P σ ρ → Prop) (Global : σ → List C → List (C × ρ) → Prop)
    (Local : σ → Set L → C → Tx L P σ ρ → List P → Prop) (keeps : σ → σ → Prop) : Prop where
  begin : ∀ s begun ended c, Global s begun ended → Global s (begun ++ [c]) ended
  start : ∀ s begun ended c, Global s begun ended → Local s ∅ c (program c) []
  read : ∀ s begun ended H c next buffer, Global s begun ended → c ∈ begun →
    Local s H c (.read next) buffer → Local s H c (next (TxPool.view apply s buffer)) buffer
  write : ∀ s H c w next buffer, Local s H c (.write w next) buffer →
    Local s H c next (buffer ++ [w])
  lock : ∀ s H c l next buffer, fits s c (.lock l next) → Local s H c (.lock l next) buffer →
    Local s (insert l H) c next buffer
  commit : ∀ s begun ended H c r buffer, Global s begun ended → c ∈ begun →
    Local s H c (.commit r) buffer →
    Global (TxPool.view apply s buffer) begun (ended ++ [(c, r)]) ∧
      keeps s (TxPool.view apply s buffer)
  /-- the others keep what they know -/
  stable : ∀ s begun ended H c r buffer H' c' m' buffer', Global s begun ended →
    Local s H c (.commit r) buffer → Disjoint H H' → Local s H' c' m' buffer' →
    Local (TxPool.view apply s buffer) H' c' m' buffer'
  keeps_refl : ∀ s, keeps s s
  keeps_trans : ∀ s s' s'', keeps s s' → keeps s' s'' → keeps s s''

/-- The assertions hold in a pool. -/
structure TxInv (Global : σ → List C → List (C × ρ) → Prop)
    (Local : σ → Set L → C → Tx L P σ ρ → List P → Prop) (p : TxPool ι C L P σ ρ) : Prop where
  globally : Global p.committed p.begun p.ended
  locally : ∀ i h, p.host i = some h → Local p.committed (p.held i) h.call h.program h.buffer
  begun : ∀ i h, p.host i = some h → h.call ∈ p.begun
  idle : ∀ l i, p.locks l = some i → (p.host i).isSome

def TxFits (fits : σ → C → Tx L P σ ρ → Prop) (p : TxPool ι C L P σ ρ) : TxMove ι C → Prop
  | .step i => ∀ h, p.host i = some h → fits p.committed h.call h.program
  | _ => True

instance [∀ s c m, Decidable (fits s c m)] (p : TxPool ι C L P σ ρ) :
    (move : TxMove ι C) → Decidable (TxFits fits p move)
  | .start _ _ => .isTrue trivial
  | .abort _ => .isTrue trivial
  | .step i =>
    match h : p.host i with
    | none => .isTrue fun _ hi => nomatch h.symm.trans hi
    | some host =>
      if hfits : fits p.committed host.call host.program then
        .isTrue fun _ hi => Option.some.inj (h.symm.trans hi) ▸ hfits
      else .isFalse fun hall => hfits (hall host h)

variable {apply : σ → P → σ} {program : C → Tx L P σ ρ} {fits : σ → C → Tx L P σ ρ → Prop}
  {Global : σ → List C → List (C × ρ) → Prop}
  {Local : σ → Set L → C → Tx L P σ ρ → List P → Prop} {keeps : σ → σ → Prop}
  {p p' : TxPool ι C L P σ ρ}

namespace TxPool

omit [DecidableEq L] in
lemma held_release_of_ne {i j : ι} (hj : j ≠ i) : (p.release i).held j = p.held j := by
  ext l
  show (if p.locks l = some i then none else p.locks l) = some j ↔ p.locks l = some j
  split
  · rename_i hi
    simp [hi, Ne.symm hj]
  · rfl

omit [DecidableEq ι] [DecidableEq L] in
lemma disjoint_held {i j : ι} (hj : j ≠ i) : Disjoint (p.held i) (p.held j) := by
  refine Set.disjoint_left.2 fun l hi hj' => hj ?_
  exact Option.some.inj (hj'.symm.trans hi)

omit [DecidableEq ι] in
lemma held_update_self {l : L} {i : ι} :
    {l' | Function.update p.locks l (some i) l' = some i} = insert l (p.held i) := by
  ext l'
  by_cases hl : l' = l
  · subst hl
    simp
  · simp [held, hl]

omit [DecidableEq ι] in
/-- A lock that is taken was nobody else's. -/
lemma held_update_of_ne {l : L} {i j : ι} (hfree : p.locks l = none ∨ p.locks l = some i)
    (hji : j ≠ i) : {l' | Function.update p.locks l (some i) l' = some j} = p.held j := by
  ext l'
  by_cases hl : l' = l
  · subst hl
    have hnot : p.locks l' ≠ some j := by
      rcases hfree with hnone | hmine
      · simp [hnone]
      · simp [hmine, Ne.symm hji]
    simp [held, Ne.symm hji, hnot]
  · simp [held, hl]

omit [DecidableEq L] in
/-- Who runs after one transaction has gone on. -/
lemma host_goOn {i j : ι} {new host : TxHost C L P σ ρ} (h : (p.goOn i new).host j = some host) :
    j = i ∧ host = new ∨ j ≠ i ∧ p.host j = some host := by
  by_cases hji : j = i
  · subst hji
    exact .inl ⟨rfl, by simpa [goOn, eq_comm] using h⟩
  · exact .inr ⟨hji, by simpa [goOn, hji] using h⟩

omit [DecidableEq L] in
/-- Who runs after one transaction has ended. -/
lemma host_release {i j : ι} {host : TxHost C L P σ ρ} (h : (p.release i).host j = some host) :
    j ≠ i ∧ p.host j = some host := by
  by_cases hji : j = i
  · subst hji
    simp [release] at h
  · exact ⟨hji, by simpa [release, hji] using h⟩

end TxPool

namespace TxInv

omit [DecidableEq ι] [DecidableEq L] in
lemma init {s : σ} (h : Global s [] []) : TxInv Global Local (.init s : TxPool ι C L P σ ρ) :=
  ⟨h, fun _ _ hi => (by cases hi), fun _ _ hi => (by cases hi), fun _ _ hl => (by cases hl)⟩

omit [DecidableEq ι] [DecidableEq L] in
/-- Who does not run holds no lock. -/
lemma held_of_idle (h : TxInv Global Local p) {i : ι} (hi : p.host i = none) : p.held i = ∅ := by
  refine Set.eq_empty_of_forall_notMem fun l hl => ?_
  have hsome := h.idle l i hl
  rw [hi] at hsome
  cases hsome

omit [DecidableEq L] in
/-- A transaction ends, and has changed the state in a way that the others know. -/
lemma release (h : TxInv Global Local p) (i : ι) {s : σ} {ended : List (C × ρ)}
    (hglobal : Global s p.begun ended)
    (hlocal : ∀ j host, j ≠ i → p.host j = some host →
      Local s (p.held j) host.call host.program host.buffer) :
    TxInv Global Local
      (⟨s, (p.release i).locks, (p.release i).host, p.begun, ended⟩ : TxPool ι C L P σ ρ) := by
  refine ⟨hglobal, fun j host hj => ?_, fun j host hj => ?_, fun l j hl => ?_⟩
  · obtain ⟨hji, hj⟩ := TxPool.host_release hj
    show Local s ((p.release i).held j) _ _ _
    rw [TxPool.held_release_of_ne hji]
    exact hlocal j host hji hj
  · exact h.begun j host (TxPool.host_release hj).2
  · have hlocks : (if p.locks l = some i then none else p.locks l) = some j := hl
    split at hlocks
    · cases hlocks
    · rename_i hi
      have hji : j ≠ i := by
        rintro rfl
        exact hi hlocks
      simpa [TxPool.release, hji] using h.idle l j hlocks

omit [DecidableEq L] in
/-- A transaction goes on, perhaps with one lock more, and nobody else notices. -/
lemma goOn (h : TxInv Global Local p) {i : ι} {new : TxHost C L P σ ρ} {locks : L → Option ι}
    {begun : List C} (hglobal : Global p.committed begun p.ended)
    (hbegun : ∀ c ∈ p.begun, c ∈ begun) (hcall : new.call ∈ begun)
    (hheld : ∀ j, j ≠ i → {l | locks l = some j} = p.held j)
    (hlocal : Local p.committed {l | locks l = some i} new.call new.program new.buffer) :
    TxInv Global Local
      (⟨p.committed, locks, (p.goOn i new).host, begun, p.ended⟩ : TxPool ι C L P σ ρ) := by
  refine ⟨hglobal, fun j host hj => ?_, fun j host hj => ?_, fun l j hl => ?_⟩
  · rcases TxPool.host_goOn hj with ⟨rfl, rfl⟩ | ⟨hji, hj⟩
    · exact hlocal
    · show Local p.committed {l | locks l = some j} _ _ _
      rw [hheld j hji]
      exact h.locally j host hj
  · rcases TxPool.host_goOn hj with ⟨rfl, rfl⟩ | ⟨hji, hj⟩
    · exact hcall
    · exact hbegun _ (h.begun j host hj)
  · by_cases hji : j = i
    · subst hji
      simp [TxPool.goOn]
    · have hlj : l ∈ p.held j := hheld j hji ▸ hl
      simpa [TxPool.goOn, hji] using h.idle l j hlj

end TxInv

namespace TxProof

lemma hostStep (hproof : TxProof apply program fits Global Local keeps) (h : TxInv Global Local p)
    {i : ι} {host : TxHost C L P σ ρ} (hi : p.host i = some host)
    (hfits : fits p.committed host.call host.program)
    (hstep : TxPool.hostStep apply p i host = some p') :
    TxInv Global Local p' ∧ keeps p.committed p'.committed := by
  have hlocal := h.locally i host hi
  have hcall := h.begun i host hi
  unfold TxPool.hostStep at hstep
  split at hstep
  · rename_i r hprogram
    cases hstep
    rw [hprogram] at hlocal
    obtain ⟨hglobal, hkeeps⟩ := hproof.commit _ _ _ _ _ _ _ h.globally hcall hlocal
    refine ⟨h.release i hglobal fun j host' hji hj => ?_, hkeeps⟩
    exact hproof.stable _ _ _ _ _ _ _ _ _ _ _ h.globally hlocal
      (TxPool.disjoint_held hji) (h.locally j host' hj)
  · cases hstep
    exact ⟨h.release i h.globally fun j host' _ hj => h.locally j host' hj, hproof.keeps_refl _⟩
  · rename_i l next hprogram
    split at hstep
    · rename_i hfree
      cases hstep
      rw [hprogram] at hlocal hfits
      refine ⟨h.goOn h.globally (fun _ hc => hc) hcall
        (fun j hji => TxPool.held_update_of_ne hfree hji) ?_, hproof.keeps_refl _⟩
      rw [TxPool.held_update_self]
      exact hproof.lock _ _ _ _ _ _ hfits hlocal
    · cases hstep
  · rename_i w next hprogram
    cases hstep
    rw [hprogram] at hlocal
    exact ⟨h.goOn h.globally (fun _ hc => hc) hcall (fun _ _ => rfl)
      (hproof.write _ _ _ _ _ _ hlocal), hproof.keeps_refl _⟩
  · rename_i next hprogram
    cases hstep
    rw [hprogram] at hlocal
    exact ⟨h.goOn h.globally (fun _ hc => hc) hcall (fun _ _ => rfl)
      (hproof.read _ _ _ _ _ _ _ h.globally hcall hlocal), hproof.keeps_refl _⟩

lemma step (hproof : TxProof apply program fits Global Local keeps) (h : TxInv Global Local p)
    {move : TxMove ι C} (hfits : TxFits fits p move)
    (hstep : p.step apply program move = some p') :
    TxInv Global Local p' ∧ keeps p.committed p'.committed := by
  cases move with
  | start i c =>
    unfold TxPool.step at hstep
    dsimp only at hstep
    split at hstep
    · rename_i hi
      cases hstep
      refine ⟨h.goOn (hproof.begin _ _ _ c h.globally) (fun _ hc => List.mem_append_left _ hc)
        (by simp) (fun _ _ => rfl) ?_, hproof.keeps_refl _⟩
      rw [show {l | p.locks l = some i} = ∅ from h.held_of_idle hi]
      exact hproof.start _ _ _ _ h.globally
    · cases hstep
  | step i =>
    obtain ⟨host, hi, hstep⟩ := Option.bind_eq_some_iff.1 hstep
    exact hproof.hostStep h hi (hfits host hi) hstep
  | abort i =>
    obtain ⟨host, hi, rfl⟩ := Option.map_eq_some_iff.1 hstep
    exact ⟨h.release i h.globally fun j host' _ hj => h.locally j host' hj, hproof.keeps_refl _⟩

/-- **What the transactions keep, every run keeps.** -/
theorem run (hproof : TxProof apply program fits Global Local keeps) (h : TxInv Global Local p)
    {moves : List (TxMove ι C)}
    (hfits : Machine.RunFits (TxPool.step apply program) (TxFits fits) p moves)
    (hrun : Machine.run (TxPool.step apply program) p moves = some p') :
    TxInv Global Local p' ∧ keeps p.committed p'.committed := by
  have hkeeps := Machine.run_keeps
    (fun q => TxInv Global Local q ∧ keeps p.committed q.committed)
    (fun q move q' hq hfits hstep => by
      obtain ⟨hinv, hkept⟩ := hproof.step hq.1 hfits hstep
      exact ⟨hinv, hproof.keeps_trans _ _ _ hq.2 hkept⟩)
    ⟨h, hproof.keeps_refl _⟩ hfits hrun
  exact hkeeps

end TxProof

end Rule
