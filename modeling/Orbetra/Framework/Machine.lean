import Orbetra.Framework.Instances

/-!
# Runs of a partial machine

A machine takes a step for a move, or cannot take it.  What a run keeps is shown step by step; each
step may be asked to fit the state it is taken in.
-/

namespace Machine

open List Option

variable {σ μ : Type} (step : σ → μ → Option σ) (Fits : σ → μ → Prop)

def run (s : σ) (moves : List μ) : Option σ := moves.foldlM step s

def RunFits : σ → List μ → Prop
  | _, [] => True
  | s, move :: moves => Fits s move ∧ ∀ s', step s move = some s' → RunFits s' moves

variable {step Fits} {s s' : σ} {moves : List μ}

@[simp] theorem run_nil : run step s [] = some s := rfl

theorem run_cons_eq_some {move : μ} :
    run step s (move :: moves) = some s' ↔
      ∃ now, step s move = some now ∧ run step now moves = some s' := by
  simp only [run, foldlM_cons]
  exact bind_eq_some_iff

theorem run_append {moves' : List μ} :
    run step s (moves ++ moves') = (run step s moves).bind fun now => run step now moves' := by
  simp only [run, foldlM_append]
  rfl

/-- A fitting run fits up to each of its points, and from there on. -/
theorem RunFits.append {moves' : List μ} (h : RunFits step Fits s (moves ++ moves')) :
    RunFits step Fits s moves ∧ ∀ now, run step s moves = some now →
      RunFits step Fits now moves' := by
  induction moves generalizing s with
  | nil => exact ⟨trivial, fun now hnow => some.inj hnow ▸ h⟩
  | cons move moves ih =>
    refine ⟨⟨h.1, fun s' hs' => (ih (h.2 s' hs')).1⟩, fun now hnow => ?_⟩
    obtain ⟨s', hs', hrest⟩ := run_cons_eq_some.1 hnow
    exact (ih (h.2 s' hs')).2 now hrest

/-- A run that fits in two ways. -/
theorem RunFits.and {Fits' : σ → μ → Prop} (h : RunFits step Fits s moves)
    (h' : RunFits step Fits' s moves) :
    RunFits step (fun s move => Fits s move ∧ Fits' s move) s moves := by
  induction moves generalizing s with
  | nil => trivial
  | cons move moves ih => exact ⟨⟨h.1, h'.1⟩, fun s' hs' => ih (h.2 s' hs') (h'.2 s' hs')⟩

/-- **What every fitting step keeps, every fitting run keeps.** -/
theorem run_keeps (Inv : σ → Prop)
    (hstep : ∀ s move s', Inv s → Fits s move → step s move = some s' → Inv s')
    (h : Inv s) (hfits : RunFits step Fits s moves) (hrun : run step s moves = some s') :
    Inv s' := by
  induction moves generalizing s with
  | nil => exact some.inj hrun ▸ h
  | cons move moves ih =>
    obtain ⟨now, hnow, hrest⟩ := run_cons_eq_some.1 hrun
    exact ih (hstep s move now h hfits.1 hnow) (hfits.2 now hnow) hrest

/-- **Where a step leads to a good state iff it fits**, every state of a run is good iff the run
fits. -/
theorem runFits_iff (Base Good : σ → Prop)
    (hbase : ∀ s move s', Base s → step s move = some s' → Base s')
    (hgood : ∀ s move s', Base s → Good s → step s move = some s' → (Good s' ↔ Fits s move))
    (h : Base s) (hs : Good s) (hrun : run step s moves = some s') :
    (∀ before now, before <+: moves → run step s before = some now → Good now) ↔
      RunFits step Fits s moves := by
  induction moves generalizing s with
  | nil =>
    refine ⟨fun _ => trivial, fun _ before now hbefore hnow => ?_⟩
    rw [prefix_nil.mp hbefore] at hnow
    exact some.inj hnow ▸ hs
  | cons move moves ih =>
    obtain ⟨next, hnext, hrest⟩ := run_cons_eq_some.1 hrun
    have hiff := hgood s move next h hs hnext
    have hstep : ∀ before now, run step next before = some now →
        run step s (move :: before) = some now := fun before now hnow =>
      run_cons_eq_some.2 ⟨next, hnext, hnow⟩
    constructor
    · intro hall
      have hfirst : Good next := hall [move] next ⟨moves, rfl⟩ (hstep [] next rfl)
      refine ⟨hiff.1 hfirst, fun s'' hs'' => ?_⟩
      cases hnext.symm.trans hs''
      refine (ih (hbase s move next h hnext) hfirst hrest).1 fun before now hbefore hnow => ?_
      exact hall (move :: before) now ((prefix_cons_inj move).2 hbefore) (hstep before now hnow)
    · intro ⟨hfits, hlater⟩ before now hbefore hnow
      have hfirst := hiff.2 hfits
      cases before with
      | nil => exact some.inj hnow ▸ hs
      | cons move' before =>
        obtain ⟨rfl, hbefore'⟩ := cons_prefix_cons.1 hbefore
        obtain ⟨next', hnext', hnow⟩ := run_cons_eq_some.1 hnow
        cases hnext.symm.trans hnext'
        exact (ih (hbase s move' next h hnext) hfirst hrest).2 (hlater next hnext) before now
          hbefore'
          hnow

instance decidableRunFits [∀ s move, Decidable (Fits s move)] (s : σ) :
    ∀ moves, Decidable (RunFits step Fits s moves)
  | [] => .isTrue trivial
  | move :: moves =>
    letI : Decidable (∀ s', step s move = some s' → RunFits step Fits s' moves) :=
      match step s move with
      | none => .isTrue fun _ hs' => nomatch hs'
      | some now =>
        match decidableRunFits now moves with
        | .isTrue hfits => .isTrue fun _ hs' => some.inj hs' ▸ hfits
        | .isFalse hnot => .isFalse fun hall => hnot (hall now rfl)
    inferInstanceAs (Decidable (_ ∧ _))

/-- Moves that fit wherever they are made. -/
theorem RunFits.of_forall (h : ∀ move ∈ moves, ∀ s, Fits s move) : RunFits step Fits s moves := by
  induction moves generalizing s with
  | nil => trivial
  | cons move moves ih =>
    exact ⟨h move mem_cons_self s,
      fun s' _ => ih fun move' hmove' => h move' (mem_cons_of_mem _ hmove')⟩

end Machine
