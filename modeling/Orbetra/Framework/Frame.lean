import Orbetra.Framework.Effect

/-!
# What a program leaves alone, and programs that return

`Keeps view m` is the frame rule of a program: however it ends, `view` of the state is as it was.
`Returns m` says that a program neither throws nor is killed.  Both go through the operations of a
program, and `attempt` turns a program that is not killed into one that returns.
-/

namespace Eff

variable {ε ε' σ τ α β γ : Type}

/-! ## Frames -/

/-- A part of the state that a program leaves as it was, however it ends. -/
def Keeps (view : σ → γ) (m : Eff ε σ α) : Prop := ∀ s, view (m s).state = view s

section Keeps

variable {view : σ → γ} {m : Eff ε σ α}

lemma keeps_pure (a : α) : Keeps view (pure a : Eff ε σ α) := fun _ => rfl

lemma keeps_get : Keeps view (get : Eff ε σ σ) := fun _ => rfl

lemma keeps_modify {f : σ → σ} (h : ∀ s, view (f s) = view s) :
    Keeps view (modify f : Eff ε σ Unit) := h

lemma Keeps.bind {f : α → Eff ε σ β} (hm : Keeps view m) (hf : ∀ a, Keeps view (f a)) :
    Keeps view (m >>= f) := by
  intro s
  have h := hm s
  rw [bind_apply]
  cases hms : m s with
  | done a s' => rw [hms] at h; exact (hf a s').trans h
  | threw e s' => rw [hms] at h; exact h
  | crashed s' => rw [hms] at h; exact h

lemma Keeps.attempt {handler : ε → Eff ε σ α} (hm : Keeps view m)
    (hh : ∀ e, Keeps view (handler e)) : Keeps view (Eff.attempt m handler) := by
  intro s
  have h := hm s
  unfold Eff.attempt
  cases hms : m s with
  | done a s' => rw [hms] at h; exact h
  | threw e s' => rw [hms] at h; exact (hh e s').trans h
  | crashed s' => rw [hms] at h; exact h

lemma Keeps.when {c : Prop} [Decidable c] {m : Eff ε σ Unit} (hm : Keeps view m) :
    Keeps view (Eff.when c m) := by
  unfold Eff.when
  split
  · exact hm
  · exact keeps_pure ()

lemma keeps_zoom {part : σ → τ} {put : τ → σ → σ} (h : ∀ t s, view (put t s) = view s)
    (m : Eff ε τ α) : Keeps view (zoom part put m) := by
  intro s
  unfold zoom
  cases m (part s) <;> exact h _ s

end Keeps

lemma state_attempt_pure (m : Eff ε σ α) (a : α) (s : σ) :
    (attempt m (fun _ => pure a) s).state = (m s).state := by
  unfold attempt
  cases m s <;> rfl

/-! ## Programs that return -/

/-- The program returns, whatever state it starts in. -/
def Returns (m : Eff ε σ α) : Prop := ∀ s, ∃ a s', m s = .done a s'

lemma returns_pure (a : α) : Returns (pure a : Eff ε σ α) := fun s => ⟨a, s, rfl⟩

lemma returns_modify (f : σ → σ) : Returns (modify f : Eff ε σ Unit) := fun s => ⟨(), f s, rfl⟩

variable {m : Eff ε σ α} {c : Prop} {κ : Type}

lemma Returns.bind {f : α → Eff ε σ β} (hm : Returns m) (hf : ∀ a, Returns (f a)) :
    Returns (m >>= f) := by
  intro s
  obtain ⟨a, s', h⟩ := hm s
  rw [bind_done h]
  exact hf a s'

lemma Returns.when [Decidable c] {m : Eff ε σ Unit} (hm : Returns m) : Returns (Eff.when c m) := by
  unfold Eff.when
  split
  · exact hm
  · exact returns_pure ()

lemma Ends.returns {handler : ε → Eff ε σ α} (hm : Ends m) (hh : ∀ e, Returns (handler e)) :
    Returns (Eff.attempt m handler) := by
  intro s
  unfold Eff.attempt
  cases hms : m s with
  | done a s' => exact ⟨a, s', rfl⟩
  | threw e s' => exact hh e s'
  | crashed s' => exact absurd hms (hm s s')

lemma Returns.ends (hm : Returns m) : Ends m := by
  intro s s' h
  obtain ⟨a, s'', h'⟩ := hm s
  exact nomatch h.symm.trans h'

lemma ends_call {r : Reply} (h : r ≠ .crash) (e : ε) (f : σ → σ) : Ends (call r e f) := by
  intro s s' hcrash
  cases r with
  | ok => cases hcrash
  | error => cases hcrash
  | crash => exact h rfl

lemma Ends.zoom {part : σ → τ} {put : τ → σ → σ} {m : Eff ε τ α} (hm : Ends m) :
    Ends (Eff.zoom part put m) := by
  intro s s' h
  unfold Eff.zoom at h
  cases hms : m (part s) with
  | done a t => rw [hms] at h; cases h
  | threw e t => rw [hms] at h; cases h
  | crashed t => exact hm _ _ hms

/-- Replies that are read are no reason to throw. -/
lemma returns_answers (run : κ → σ → σ × α) {reply : ℕ → Reply} (h : ∀ n, reply n ≠ .crash)
    (cs : List κ) :
    Returns (answers run reply cs : Eff ε σ (List (Option α))) := by
  induction cs generalizing reply with
  | nil => exact returns_pure []
  | cons c cs ih =>
    refine Returns.bind (fun s => ?_) fun a => (ih fun n => h (n + 1)).bind fun as =>
      returns_pure (a :: as)
    unfold answer
    cases hreply : reply 0 with
    | ok => exact ⟨_, _, rfl⟩
    | error => exact ⟨_, _, rfl⟩
    | crash => exact absurd hreply (h 0)

lemma returns_pipeline (reply : κ → Reply) (apply : σ → κ → σ) {cs : List κ}
    (h : ∀ c ∈ cs, reply c ≠ .crash) : Returns (pipeline reply apply cs : Eff ε σ Unit) :=
  fun s => ⟨(), _, pipeline_done h s⟩

lemma ends_throw (e : ε) : Ends (throw e : Eff ε σ α) := by
  intro s s' h
  cases h

lemma Ends.when [Decidable c] {m : Eff ε σ Unit} (hm : Ends m) : Ends (Eff.when c m) := by
  unfold Eff.when
  split
  · exact hm
  · exact ends_pure ()

/-! ## Programs on a part of the state -/

/-- Run a program on a part of the state; its errors are those of the part. -/
def within (view : τ → σ) (put : σ → τ → τ) (tag : ε → ε') (m : Eff ε σ α) : Eff ε' τ α := fun t =>
  match m (view t) with
  | .done a s => .done a (put s t)
  | .threw e s => .threw (tag e) (put s t)
  | .crashed s => .crashed (put s t)

section Within

variable {view : τ → σ} {put : σ → τ → τ} {tag : ε → ε'} {m : Eff ε σ α}

lemma within_done {t : τ} {a : α} {s : σ} (h : m (view t) = .done a s) :
    within view put tag m t = .done a (put s t) := by
  rw [within, h]

lemma within_threw {t : τ} {e : ε} {s : σ} (h : m (view t) = .threw e s) :
    within view put tag m t = .threw (tag e) (put s t) := by
  rw [within, h]

lemma Ends.within (h : Ends m) : Ends (Eff.within view put tag m) := by
  intro t t' hcrash
  unfold Eff.within at hcrash
  cases hm : m (view t) with
  | done a s => rw [hm] at hcrash; cases hcrash
  | threw e s => rw [hm] at hcrash; cases hcrash
  | crashed s => exact h _ _ hm

lemma keeps_within {frame : τ → γ} (h : ∀ s t, frame (put s t) = frame t) (m : Eff ε σ α) :
    Keeps frame (within view put tag m) := by
  intro t
  unfold within
  cases m (view t) <;> exact h _ t

end Within

end Eff
