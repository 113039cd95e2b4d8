import Orbetra.Framework.Async
import Orbetra.Framework.Mutex

/-!
# Requests that run transactions

A request is a program (`Async`) whose calls are transactions, one after another: `atomically` runs
each at once, and `RequestPool` runs the transactions of many requests in any order of their steps.
What holds in every run of a `TxPool` holds in every run of the requests (`RequestPool.run_pool`).

`Tx.Meets` is the proof rule for one transaction, step by step: between two steps the others may
commit whatever leaves alone what its own locks protect (`env`), and where it commits, its writes
meet its postcondition.
-/

variable {ι C L P σ ρ ρ' ε α : Type}

/-- The same transaction, with another result. -/
def Tx.map (f : ρ → ρ') : Tx L P σ ρ → Tx L P σ ρ'
  | .commit r => .commit (f r)
  | .rollback => .rollback
  | .lock l next => .lock l (next.map f)
  | .write w next => .write w (next.map f)
  | .read next => .read fun s => (next s).map f

lemma Tx.exec_map (apply : σ → P → σ) (f : ρ → ρ') (m : Tx L P σ ρ) (s : σ) (buffer : List P) :
    (m.map f).exec apply s buffer = (m.exec apply s buffer).map fun r => (f r.1, r.2) := by
  induction m generalizing buffer with
  | commit r => rfl
  | rollback => rfl
  | lock l next ih => exact ih buffer
  | write w next ih => exact ih _
  | read next ih => exact ih _ buffer

/-- The transaction is about to read. -/
def Tx.isRead : Tx L P σ ρ → Bool
  | .read _ => true
  | _ => false

/-- Every write of the transaction is of a kind. -/
def Tx.Writes (Q : P → Prop) : Tx L P σ ρ → Prop
  | .commit _ => True
  | .rollback => True
  | .lock _ next => next.Writes Q
  | .write w next => Q w ∧ next.Writes Q
  | .read next => ∀ s, (next s).Writes Q

lemma Tx.Writes.exec {apply : σ → P → σ} {Q : P → Prop} {m : Tx L P σ ρ} {s : σ}
    {buffer buffer' : List P} {r : ρ} (hm : m.Writes Q) (h : ∀ w ∈ buffer, Q w)
    (hexec : m.exec apply s buffer = some (r, buffer')) : ∀ w ∈ buffer', Q w := by
  induction m generalizing buffer with
  | commit r =>
    cases hexec
    exact h
  | rollback => cases hexec
  | lock l next ih => exact ih hm h hexec
  | write w next ih =>
    refine ih hm.2 (fun w' hw' => ?_) hexec
    rcases List.mem_append.1 hw' with hold | hnew
    · exact h w' hold
    · exact List.mem_singleton.1 hnew ▸ hm.1
  | read next ih => exact ih _ (hm _) h hexec

/-- Each call is a transaction that runs at once; the answer is `none` where it rolls back. -/
abbrev atomically (apply : σ → P → σ) (program : C → Tx L P σ ρ) : Service σ where
  Cmd := C
  Answer _ := Option ρ
  run c s :=
    match (program c).exec apply s [] with
    | some (r, buffer) => (TxPool.view apply s buffer, some r)
    | none => (s, none)

section Pool

variable (apply : σ → P → σ) (program : C → Tx L P σ ρ)

/-- Requests, and the transactions that they run. -/
structure RequestPool (ι : Type) (ε α : Type) where
  pool : TxPool ι C L P σ ρ
  thread : ι → Async (atomically apply program) ε α

variable {apply program} [DecidableEq ι] [DecidableEq L] [DecidableEq C]

/-- The transaction of `i` has ended, and the request goes on. -/
def RequestPool.resume (thread : ι → Async (atomically apply program) ε α) (i : ι)
    (r : Option (Option ρ)) : ι → Async (atomically apply program) ε α :=
  match thread i with
  | .call _ k => Function.update thread i (k r)
  | _ => thread

/-- How the transaction of a host ends with its next step. -/
def TxHost.ends (host : TxHost C L P σ ρ) : Option (Option ρ) :=
  match host.program with
  | .commit r => some (some r)
  | .rollback => some none
  | _ => none

def RequestPool.threads (q : RequestPool apply program ι ε α) :
    TxMove ι C → Option (ι → Async (atomically apply program) ε α)
  | .start i c =>
    match q.thread i with
    | .call c' _ => if c' = c then some q.thread else none
    | _ => none
  | .step i =>
    match (q.pool.host i).bind TxHost.ends with
    | some r => some (RequestPool.resume q.thread i (some r))
    | none => some q.thread
  | .abort i => some (RequestPool.resume q.thread i none)

/-- One move: a request begins the transaction that it has come to, or a transaction takes a step.
-/
def RequestPool.step (q : RequestPool apply program ι ε α) (move : TxMove ι C) :
    Option (RequestPool apply program ι ε α) :=
  match q.threads move, q.pool.step apply program move with
  | some thread, some pool => some ⟨pool, thread⟩
  | _, _ => none

variable {q q' : RequestPool apply program ι ε α} {move : TxMove ι C} {moves : List (TxMove ι C)}

lemma RequestPool.pool_step (h : q.step move = some q') :
    q.pool.step apply program move = some q'.pool := by
  unfold RequestPool.step at h
  split at h
  · rename_i thread pool _ hpool
    rw [hpool, ← Option.some.inj h]
  · cases h

/-- **A run of the requests is one of their transactions.** -/
theorem RequestPool.run_pool (h : Machine.run RequestPool.step q moves = some q') :
    Machine.run (TxPool.step apply program) q.pool moves = some q'.pool := by
  induction moves generalizing q with
  | nil => rw [Option.some.inj h, Machine.run_nil]
  | cons move moves ih =>
    obtain ⟨now, hnow, hrest⟩ := Machine.run_cons_eq_some.1 h
    exact Machine.run_cons_eq_some.2 ⟨now.pool, pool_step hnow, ih hrest⟩

lemma RequestPool.runFits_pool {Fits : TxPool ι C L P σ ρ → TxMove ι C → Prop}
    (hfits : Machine.RunFits RequestPool.step (fun q => Fits q.pool) q moves)
    (h : Machine.run RequestPool.step q moves = some q') :
    Machine.RunFits (TxPool.step apply program) Fits q.pool moves := by
  induction moves generalizing q with
  | nil => trivial
  | cons move moves ih =>
    obtain ⟨now, hnow, hrest⟩ := Machine.run_cons_eq_some.1 h
    refine ⟨hfits.1, fun pool hpool => ?_⟩
    cases hpool.symm.trans (pool_step hnow)
    exact ih (hfits.2 now hnow) hrest

end Pool

/-! ## One transaction among others -/

section Meets

variable (apply : σ → P → σ) (env : Set L → σ → σ → Prop) (Post : Set L → σ → List P → ρ → Prop)

/-- With the locks `H`, the committed state `s` and its own writes in `buffer`, what the transaction
commits meets `Post`, whatever the others commit within `env`. -/
def Tx.Meets : Tx L P σ ρ → Set L → σ → List P → Prop
  | .commit r, H, s, buffer => ∀ s', env H s s' → Post H s' buffer r
  | .rollback, _, _, _ => True
  | .lock l next, H, s, buffer => ∀ s', env H s s' → next.Meets (insert l H) s' buffer
  | .write w next, H, s, buffer => ∀ s', env H s s' → next.Meets H s' (buffer ++ [w])
  | .read next, H, s, buffer => ∀ s', env H s s' →
      (next (TxPool.view apply s' buffer)).Meets H s' buffer

variable {apply env Post} {H : Set L} {s s' : σ} {m : Tx L P σ ρ} {buffer : List P}

/-- What the others commit leaves the transaction where it is. -/
lemma Tx.Meets.stable (htrans : ∀ H s s' s'', env H s s' → env H s' s'' → env H s s'')
    (h : m.Meets apply env Post H s buffer) (henv : env H s s') :
    m.Meets apply env Post H s' buffer := by
  cases m with
  | commit r => exact fun s'' h' => h s'' (htrans _ _ _ _ henv h')
  | rollback => trivial
  | lock l next => exact fun s'' h' => h s'' (htrans _ _ _ _ henv h')
  | write w next => exact fun s'' h' => h s'' (htrans _ _ _ _ henv h')
  | read next => exact fun s'' h' => h s'' (htrans _ _ _ _ henv h')

/-- Another result. -/
lemma Tx.Meets.map {m : Tx L P σ ρ} {f : ρ → ρ'} {Post : Set L → σ → List P → ρ' → Prop}
    (h : m.Meets apply env (fun H s buffer r => Post H s buffer (f r)) H s buffer) :
    (m.map f).Meets apply env Post H s buffer := by
  induction m generalizing H s buffer with
  | commit r => exact h
  | rollback => trivial
  | lock l next ih => exact fun s' henv => ih (h s' henv)
  | write w next ih => exact fun s' henv => ih (h s' henv)
  | read next ih => exact fun s' henv => ih _ (h s' henv)

/-- **Transactions that meet their postconditions**, each whatever the others commit. -/
theorem Tx.Meets.proof {program : C → Tx L P σ ρ} {Post : C → Set L → σ → List P → ρ → Prop}
    (hrefl : ∀ H s, env H s s) (htrans : ∀ H s s' s'', env H s s' → env H s' s'' → env H s s'')
    (hprogram : ∀ c s, (program c).Meets apply env (Post c) ∅ s [])
    (hcommit : ∀ c H s buffer r H', Post c H s buffer r → Disjoint H H' →
      env H' s (TxPool.view apply s buffer)) :
    TxProof apply program (fun _ _ _ => True) (fun _ _ _ => True)
      (fun s H c m buffer => m.Meets apply env (Post c) H s buffer) fun _ _ => True where
  begin _ _ _ _ _ := trivial
  start s _ _ c _ := hprogram c s
  read s _ _ H _ _ _ _ _ h := h s (hrefl H s)
  write s H _ _ _ _ h := h s (hrefl H s)
  lock s H _ _ _ _ _ h := h s (hrefl H s)
  commit _ _ _ _ _ _ _ _ _ _ := ⟨trivial, trivial⟩
  stable s _ _ H c _ _ _ _ _ _ _ h hdisjoint h' :=
    h'.stable htrans (hcommit c _ _ _ _ _ (h s (hrefl H s)) hdisjoint)
  keeps_refl _ := trivial
  keeps_trans _ _ _ _ _ := trivial

end Meets
