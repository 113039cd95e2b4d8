import Orbetra.Framework.Transaction

/-!
# Transactions behind one lock

Where every transaction takes one lock before any other and before it writes, what it reads from then
on is what it commits to: it runs as if it were alone (`Tx.exec`).  So an assertion about the
committed state is kept by every run if each program, run alone, keeps it (`Guarded.proof`), and no
transactions wait for each other (`TxInv.not_deadlocked`).
-/

section Mutex

variable {ι C L P σ ρ : Type} [DecidableEq ι] [DecidableEq L]

/-- A program that runs alone from here on: its result, and what it has written by then. -/
def Tx.exec (apply : σ → P → σ) (s : σ) : List P → Tx L P σ ρ → Option (ρ × List P)
  | buffer, .commit r => some (r, buffer)
  | _, .rollback => none
  | buffer, .lock _ next => next.exec apply s buffer
  | buffer, .write w next => next.exec apply s (buffer ++ [w])
  | buffer, .read next => (next (TxPool.view apply s buffer)).exec apply s buffer

variable (apply : σ → P → σ) (k : L) (Global : σ → List C → List (C × ρ) → Prop) (c : C)

/-- Run alone from here on, the program keeps the assertion. -/
def KeepsAlone (s : σ) (m : Tx L P σ ρ) (buffer : List P) : Prop :=
  ∀ begun ended, Global s begun ended → c ∈ begun → ∀ r buffer',
    m.exec apply s buffer = some (r, buffer') →
      Global (TxPool.view apply s buffer') begun (ended ++ [(c, r)])

/-- The program takes the lock first, and keeps the assertion when it runs alone from there on. -/
def Guarded : Tx L P σ ρ → Prop
  | .commit r => ∀ s, KeepsAlone apply Global c s (.commit r : Tx L P σ ρ) []
  | .rollback => True
  | .lock l next => l = k ∧ ∀ s, KeepsAlone apply Global c s next []
  | .write _ _ => False
  | .read next => ∀ s begun ended, Global s begun ended → Guarded (next s)

/-- Either the transaction has not taken the lock, and has done nothing yet, or it holds the lock. -/
def Behind (s : σ) (H : Set L) (c : C) (m : Tx L P σ ρ) (buffer : List P) : Prop :=
  H = ∅ ∧ buffer = [] ∧ Guarded apply k Global c m ∨ k ∈ H ∧ KeepsAlone apply Global c s m buffer

variable {apply k Global c} {s : σ} {H H' : Set L} {m m' : Tx L P σ ρ} {buffer buffer' : List P}

omit [DecidableEq L] in
lemma Behind.commit {c' : C} {r : ρ} (h : Behind apply k Global s H c (.commit r) buffer)
    (hdisjoint : Disjoint H H') (h' : Behind apply k Global s H' c' m' buffer') :
    Behind apply k Global (TxPool.view apply s buffer) H' c' m' buffer' := by
  rcases h with ⟨-, rfl, -⟩ | ⟨hk, -⟩
  · exact h'
  · rcases h' with hidle | ⟨hk', -⟩
    · exact .inl hidle
    · exact absurd hk' (Set.disjoint_left.1 hdisjoint hk)

omit [DecidableEq L] in
/-- **Programs behind one lock** keep together what each keeps alone. -/
theorem Guarded.proof {program : C → Tx L P σ ρ}
    (hbegin : ∀ s begun ended c, Global s begun ended → Global s (begun ++ [c]) ended)
    (hguarded : ∀ c, Guarded apply k Global c (program c)) :
    TxProof apply program (fun _ _ _ => True) Global (Behind apply k Global) fun _ _ => True where
  begin := hbegin
  start s begun ended c h := .inl ⟨rfl, rfl, hguarded c⟩
  read s begun ended H c next buffer hglobal hc h := by
    rcases h with ⟨hH, rfl, hread⟩ | ⟨hk, halone⟩
    · exact .inl ⟨hH, rfl, hread s begun ended hglobal⟩
    · exact .inr ⟨hk, halone⟩
  write s H c w next buffer h := by
    rcases h with ⟨-, -, hwrite⟩ | ⟨hk, halone⟩
    · exact hwrite.elim
    · exact .inr ⟨hk, halone⟩
  lock s H c l next buffer _ h := by
    rcases h with ⟨-, rfl, rfl, halone⟩ | ⟨hk, halone⟩
    · exact .inr ⟨Set.mem_insert l H, halone s⟩
    · exact .inr ⟨Set.mem_insert_of_mem l hk, halone⟩
  commit s begun ended H c r buffer hglobal hc h := by
    refine ⟨?_, trivial⟩
    rcases h with ⟨-, rfl, hcommit⟩ | ⟨-, halone⟩
    · exact hcommit s begun ended hglobal hc r [] rfl
    · exact halone begun ended hglobal hc r buffer rfl
  stable s begun ended H c r buffer H' c' m' buffer' _ h hdisjoint h' := h.commit hdisjoint h'
  keeps_refl _ := trivial
  keeps_trans _ _ _ _ _ := trivial

variable {p : TxPool ι C L P σ ρ}

omit [DecidableEq ι] [DecidableEq L] in
lemma TxInv.holds_of_waitsFor (h : TxInv Global (Behind apply k Global) p) {i j : ι}
    (hwait : p.WaitsFor i j) : k ∈ p.held j := by
  obtain ⟨host, l, next, -, -, hlock, -⟩ := hwait
  obtain ⟨host', hj⟩ := Option.isSome_iff_exists.1 (h.idle l j hlock)
  rcases h.locally j host' hj with ⟨hH, -⟩ | ⟨hk, -⟩
  · have hmem : l ∈ p.held j := hlock
    rw [hH] at hmem
    exact hmem.elim
  · exact hk

omit [DecidableEq ι] [DecidableEq L] in
/-- **No deadlock**: who is waited for waits for nobody. -/
theorem TxInv.not_deadlocked (h : TxInv Global (Behind apply k Global) p) : ¬ p.Deadlocked := by
  rintro ⟨S, ⟨i, hi⟩, hall⟩
  obtain ⟨j, hj, hij⟩ := hall i hi
  obtain ⟨j', -, hjj'⟩ := hall j hj
  have hk : p.locks k = some j := h.holds_of_waitsFor hij
  have hk' : p.locks k = some j' := h.holds_of_waitsFor hjj'
  obtain ⟨-, -, -, -, -, -, hne⟩ := hjj'
  exact hne (Option.some.inj (hk.symm.trans hk'))

end Mutex
