import Mathlib

/-!
# Effectful programs that may throw, and that may be killed

A computation over a state `σ` ends in one of three ways: it returns a value, it throws, or the
process running it dies.  All three leave a state behind, and the difference between the last two
is who may look at it: an exception reaches the enclosing handler, a crash reaches nobody.  `Eff`
is the state monad with these three exits, `Eff.attempt` the handler that sees exceptions only.

The environment decides how each command ends.  It is given to a program as a `Reply` per command,
so a failure pattern is ordinary data and a statement about every pattern is a `∀`.
`Eff.call` is a command whose failure is an exception.  A *pipeline* is a list of commands sent
together, whose failures are returned and not thrown: its final state is the fold of the commands
that took effect, `effective`, and it is killed exactly when one of its commands meets a crash
(`pipeline_done`, `pipeline_crashed`).

`Triple` is partial correctness with one postcondition for each exit, with the usual rules
(`Triple.bind`, `Triple.attempt`, `Triple.mono`).
-/

/-- How the environment answers one command. -/
inductive Reply
  /-- The command takes effect. -/
  | ok
  /-- The command is refused and has no effect. -/
  | error
  /-- The process is killed before the command is sent. -/
  | crash
  deriving DecidableEq

/-- How an effectful computation ends, and the state it leaves. -/
inductive Outcome (ε σ α : Type)
  | done (a : α) (s : σ)
  | threw (e : ε) (s : σ)
  | crashed (s : σ)
  deriving DecidableEq

/-- The state a computation leaves behind, however it ended. -/
def Outcome.state {ε σ α : Type} : Outcome ε σ α → σ
  | .done _ s => s
  | .threw _ s => s
  | .crashed s => s

/-- A computation over the state `σ` returning an `α` or throwing an `ε`. -/
def Eff (ε σ α : Type) := σ → Outcome ε σ α

namespace Eff

open List

variable {ε σ α β : Type}

instance : Monad (Eff ε σ) where
  pure a := fun s => .done a s
  bind m f := fun s =>
    match m s with
    | .done a s' => f a s'
    | .threw e s' => .threw e s'
    | .crashed s' => .crashed s'

/-- Update the state. -/
def modify (f : σ → σ) : Eff ε σ Unit := fun s => .done () (f s)

/-- Read the state. -/
def get : Eff ε σ σ := fun s => .done s s

/-- Raise an exception. -/
def throw (e : ε) : Eff ε σ α := fun s => .threw e s

/-- Run `m`, and `handler` where `m` throws.  A crash passes through. -/
def attempt (m : Eff ε σ α) (handler : ε → Eff ε σ α) : Eff ε σ α := fun s =>
  match m s with
  | .done a s' => .done a s'
  | .threw e s' => handler e s'
  | .crashed s' => .crashed s'

/-- A command whose failure is thrown at the caller. -/
def call (r : Reply) (e : ε) (f : σ → σ) : Eff ε σ Unit := fun s =>
  match r with
  | .ok => .done () (f s)
  | .error => .threw e s
  | .crash => .crashed s

/-- A command whose reply the caller reads, and finds `none` in where it was refused. -/
def answer (r : Reply) (run : σ → σ × α) : Eff ε σ (Option α) := fun s =>
  match r with
  | .ok => .done (some (run s).2) (run s).1
  | .error => .done none s
  | .crash => .crashed s

/-- A pipeline whose replies are read, in the order of its commands. -/
def answers {κ : Type} (run : κ → σ → σ × α) : (ℕ → Reply) → List κ → Eff ε σ (List (Option α))
  | _, [] => pure []
  | reply, c :: cs => do
    let a ← answer (reply 0) (run c)
    let as ← answers run (fun n => reply (n + 1)) cs
    pure (a :: as)

/-- Run a program on a part of the state. -/
def zoom {τ : Type} (view : τ → σ) (put : σ → τ → τ) (m : Eff ε σ α) : Eff ε τ α := fun t =>
  match m (view t) with
  | .done a s => .done a (put s t)
  | .threw e s => .threw e (put s t)
  | .crashed s => .crashed (put s t)

def when (c : Prop) [Decidable c] (m : Eff ε σ Unit) : Eff ε σ Unit := if c then m else pure ()

/-! ## Running a program -/

@[simp] lemma pure_apply (a : α) (s : σ) : (pure a : Eff ε σ α) s = .done a s := rfl

lemma bind_apply (m : Eff ε σ α) (f : α → Eff ε σ β) (s : σ) :
    (m >>= f) s =
      match m s with
      | .done a s' => f a s'
      | .threw e s' => .threw e s'
      | .crashed s' => .crashed s' := rfl

variable {f : α → Eff ε σ β} {a : α} {m : Eff ε σ α} {s' s : σ} {e : ε} {handler : ε → Eff ε σ α}
  {κ : Type}

lemma bind_done (h : m s = .done a s') : (m >>= f) s = f a s' := by
  rw [bind_apply, h]

lemma bind_threw (h : m s = .threw e s') : (m >>= f) s = .threw e s' := by
  rw [bind_apply, h]

lemma bind_crashed (h : m s = .crashed s') : (m >>= f) s = .crashed s' := by
  rw [bind_apply, h]

variable {τ : Type} {run : κ → σ → σ × α} {reply : ℕ → Reply}

lemma zoom_done {view : τ → σ} {put : σ → τ → τ} {t : τ} (h : m (view t) = .done a s) :
    zoom view put m t = .done a (put s t) := by
  rw [zoom, h]

lemma zoom_threw {view : τ → σ} {put : σ → τ → τ} {t : τ} (h : m (view t) = .threw e s) :
    zoom view put m t = .threw e (put s t) := by
  rw [zoom, h]

lemma state_bind_pure (m : Eff ε σ α) (g : α → β) (s : σ) :
    ((m >>= fun a => pure (g a)) s).state = (m s).state := by
  rw [bind_apply]
  cases m s <;> rfl

@[simp] lemma get_apply (s : σ) : (get : Eff ε σ σ) s = .done s s := rfl

lemma attempt_done (h : m s = .done a s') : attempt m handler s = .done a s' := by
  rw [attempt, h]

lemma attempt_threw (h : m s = .threw e s') : attempt m handler s = handler e s' := by
  rw [attempt, h]

/-! ## Replies that are read -/

/-- The answers of commands that all take effect, and the state they leave. -/
def accum {κ : Type} (run : κ → σ → σ × α) : List κ → σ → σ × List α
  | [], s => (s, [])
  | c :: cs, s =>
    let now := run c s
    let rest := accum run cs now.1
    (rest.1, now.2 :: rest.2)

/-- A part of the state that no command touches. -/
lemma accum_keeps {γ : Type} (view : σ → γ) (h : ∀ c s, view (run c s).1 = view s) (cs : List κ)
    (s : σ) :
    view (accum run cs s).1 = view s := by
  induction cs generalizing s with
  | nil => rfl
  | cons c cs ih => exact (ih (run c s).1).trans (h c s)

lemma answers_ok (h : ∀ n, reply n = .ok) (cs : List κ) (s : σ) :
    (answers run reply cs : Eff ε σ (List (Option α))) s =
      .done ((accum run cs s).2.map some) (accum run cs s).1 := by
  induction cs generalizing reply s with
  | nil => rfl
  | cons c cs ih =>
    have hfirst : (answer (reply 0) (run c) : Eff ε σ (Option α)) s =
        .done (some (run c s).2) (run c s).1 := by
      simp [answer, h]
    refine (bind_done hfirst).trans ?_
    exact bind_done (ih (fun n => h (n + 1)) (run c s).1)

lemma answers_killed (run : κ → σ → σ × α) (h : ∀ n, reply n ≠ .error) (cs : List κ) (s : σ) :
    (answers run reply cs : Eff ε σ (List (Option α))) s =
        .done ((accum run cs s).2.map some) (accum run cs s).1 ∨
      ∃ n, reply n = .crash ∧ (answers run reply cs : Eff ε σ (List (Option α))) s =
        .crashed (accum run (cs.take n) s).1 := by
  induction cs generalizing reply s with
  | nil => exact .inl rfl
  | cons c cs ih =>
    cases hreply : reply 0 with
    | error => exact absurd hreply (h 0)
    | crash =>
      refine .inr ⟨0, hreply, bind_crashed ?_⟩
      simp [answer, hreply, accum]
    | ok =>
      have hfirst : (answer (reply 0) (run c) : Eff ε σ (Option α)) s =
          .done (some (run c s).2) (run c s).1 := by
        simp [answer, hreply]
      rcases ih (fun n => h (n + 1)) (run c s).1 with hrest | ⟨n, hn, hrest⟩
      · exact .inl ((bind_done hfirst).trans (bind_done hrest))
      · exact .inr ⟨n + 1, hn, (bind_done hfirst).trans (bind_crashed hrest)⟩

/-! ## Triples -/

/-- A postcondition for each way a computation may end. -/
structure Post (ε σ α : Type) where
  done : α → σ → Prop
  threw : ε → σ → Prop
  crashed : σ → Prop

/-- The outcome meets the postcondition of its own exit. -/
def Post.Holds (Q : Post ε σ α) : Outcome ε σ α → Prop
  | .done a s => Q.done a s
  | .threw e s => Q.threw e s
  | .crashed s => Q.crashed s

/-- The postcondition that asks for `I` at every exit. -/
def Post.always (I : σ → Prop) : Post ε σ α := ⟨fun _ => I, fun _ => I, I⟩

/-- The postcondition that asks for `Q` at the normal exit, and for `I` at the other two. -/
def Post.ending (I : σ → Prop) (Q : α → σ → Prop) : Post ε σ α := ⟨Q, fun _ => I, I⟩

lemma Post.always_holds {I : σ → Prop} {o : Outcome ε σ α} :
    (Post.always I).Holds o ↔ I o.state := by
  cases o <;> rfl

/-- The postcondition of a program that never throws: `Q` where it ends, `C` where it is killed. -/
def Post.orKilled (C : σ → Prop) (Q : α → σ → Prop) : Post ε σ α := ⟨Q, fun _ _ => False, C⟩

/-- From a state in `P`, every exit of `m` meets its postcondition. -/
def Triple (P : σ → Prop) (m : Eff ε σ α) (Q : Post ε σ α) : Prop := ∀ s, P s → Q.Holds (m s)

namespace Triple

variable {P P' : σ → Prop} {Q Q' : Post ε σ α} {R : Post ε σ β} {m : Eff ε σ α}

lemma pure {a : α} (h : ∀ s, P s → Q.done a s) : Triple P (pure a) Q := h

/-- Sequencing: the first program hands over at its normal exit only. -/
lemma bind {f : α → Eff ε σ β} {I : α → σ → Prop}
    (hm : Triple P m ⟨I, R.threw, R.crashed⟩) (hf : ∀ a, Triple (I a) (f a) R) :
    Triple P (m >>= f) R := by
  intro s hs
  have h := hm s hs
  rw [bind_apply]
  cases hms : m s with
  | done a s' => rw [hms] at h; exact hf a s' h
  | threw e s' => rw [hms] at h; exact h
  | crashed s' => rw [hms] at h; exact h

/-- Reading the state leaves the program with the value it had. -/
lemma get_bind {P : σ → Prop} {R : Post ε σ β} {f : σ → Eff ε σ β}
    (h : ∀ s₀, Triple (fun s => P s ∧ s = s₀) (f s₀) R) : Triple P (Eff.get >>= f) R :=
  fun s hs => h s s ⟨hs, rfl⟩

/-- A handler starts where the protected program threw. -/
lemma attempt {handler : ε → Eff ε σ α} {E : ε → σ → Prop}
    (hm : Triple P m ⟨Q.done, E, Q.crashed⟩) (hh : ∀ e, Triple (E e) (handler e) Q) :
    Triple P (Eff.attempt m handler) Q := by
  intro s hs
  have h := hm s hs
  unfold Eff.attempt
  cases hms : m s with
  | done a s' => rw [hms] at h; exact h
  | threw e s' => rw [hms] at h; exact hh e s' h
  | crashed s' => rw [hms] at h; exact h

/-- A guarded command does its work or nothing. -/
lemma when {c : Prop} [Decidable c] {m : Eff ε σ Unit} {Q : Post ε σ Unit}
    (hm : c → Triple P m Q) (hskip : ¬ c → ∀ s, P s → Q.done () s) :
    Triple P (Eff.when c m) Q := by
  unfold Eff.when
  split
  · exact hm ‹_›
  · exact pure (hskip ‹_›)

/-- Strengthen the precondition. -/
lemma pre (h : Triple P m Q) (hP : ∀ s, P' s → P s) : Triple P' m Q := fun s hs => h s (hP s hs)

/-- Strengthen the precondition and weaken each postcondition. -/
lemma mono (h : Triple P m Q) (hP : ∀ s, P' s → P s) (hd : ∀ a s, Q.done a s → Q'.done a s)
    (ht : ∀ e s, Q.threw e s → Q'.threw e s) (hc : ∀ s, Q.crashed s → Q'.crashed s) :
    Triple P' m Q' := by
  intro s hs
  have h := h s (hP s hs)
  cases hms : m s with
  | done a s' => rw [hms] at h; exact hd a s' h
  | threw e s' => rw [hms] at h; exact ht e s' h
  | crashed s' => rw [hms] at h; exact hc s' h

end Triple

/-! ## Programs that are not killed -/

/-- The program ends, whatever state it starts in. -/
def Ends (m : Eff ε σ α) : Prop := ∀ s s', m s ≠ .crashed s'

lemma ends_pure (a : α) : Ends (pure a : Eff ε σ α) := by
  intro s s' h
  cases h

lemma ends_modify (f : σ → σ) : Ends (modify f : Eff ε σ Unit) := by
  intro s s' h
  cases h

lemma ends_get : Ends (get : Eff ε σ σ) := by
  intro s s' h
  cases h

lemma Ends.bind (hm : Ends m) (hf : ∀ a, Ends (f a)) : Ends (m >>= f) := by
  intro s s' h
  rw [bind_apply] at h
  cases hms : m s with
  | done a s₁ => rw [hms] at h; exact hf a s₁ s' h
  | threw e s₁ => rw [hms] at h; cases h
  | crashed s₁ => exact hm s s₁ hms

lemma Ends.attempt (hm : Ends m) (hh : ∀ e, Ends (handler e)) : Ends (Eff.attempt m handler) := by
  intro s s' h
  unfold Eff.attempt at h
  cases hms : m s with
  | done a s₁ => rw [hms] at h; cases h
  | threw e s₁ => rw [hms] at h; exact hh e s₁ s' h
  | crashed s₁ => exact hm s s₁ hms

/-! ## Pipelines -/

section Pipeline

variable {κ : Type} (reply : κ → Reply) (apply : σ → κ → σ)

/-- Send the commands one after the other.  A refused command has no effect and stops nothing;
the caller is not told. -/
def pipeline : List κ → Eff ε σ Unit
  | [] => pure ()
  | c :: cs => fun s =>
    match reply c with
    | .ok => pipeline cs (apply s c)
    | .error => pipeline cs s
    | .crash => .crashed s

/-- The commands of a pipeline that take effect: those accepted before the process dies. -/
def effective : List κ → List κ
  | [] => []
  | c :: cs =>
    match reply c with
    | .ok => c :: effective cs
    | .error => effective cs
    | .crash => []

/-- No command of the list meets a crash. -/
def Survives (cs : List κ) : Prop := ∀ c ∈ cs, reply c ≠ .crash

instance (cs : List κ) : Decidable (Survives reply cs) :=
  inferInstanceAs (Decidable (∀ c ∈ cs, reply c ≠ .crash))

variable {reply apply}

lemma effective_sublist (cs : List κ) : (effective reply cs).Sublist cs := by
  induction cs with
  | nil => exact nil_sublist _
  | cons d ds ih =>
    unfold effective
    split
    · exact ih.cons_cons d
    · exact ih.cons d
    · exact nil_sublist _

variable {cs : List κ} {c : κ}

/-- Where every command is accepted, all of them take effect. -/
lemma effective_eq_self (h : ∀ c ∈ cs, reply c = .ok) : effective reply cs = cs := by
  induction cs with
  | nil => rfl
  | cons c cs ih =>
    rw [effective, h c mem_cons_self]
    exact congrArg (c :: ·) (ih fun d hd => h d (mem_cons_of_mem _ hd))

lemma effective_subset (h : c ∈ effective reply cs) : c ∈ cs := (effective_sublist cs).subset h

lemma reply_of_mem_effective (h : c ∈ effective reply cs) : reply c = .ok := by
  induction cs with
  | nil => simp [effective] at h
  | cons d ds ih =>
    unfold effective at h
    split at h
    · rename_i hd
      rcases mem_cons.1 h with rfl | h
      · exact hd
      · exact ih h
    · exact ih h
    · simp at h

lemma survives_cons : Survives reply (c :: cs) ↔ reply c ≠ .crash ∧ Survives reply cs := by
  simp [Survives]

/-- Where no command crashes, a command takes effect exactly when it is accepted. -/
lemma mem_effective_of_survives (hs : Survives reply cs) :
    c ∈ effective reply cs ↔ c ∈ cs ∧ reply c = .ok := by
  constructor
  · exact fun h => ⟨effective_subset h, reply_of_mem_effective h⟩
  · rintro ⟨hc, hok⟩
    induction cs with
    | nil => simp at hc
    | cons d ds ih =>
      obtain ⟨hd, hds⟩ := survives_cons.1 hs
      rcases mem_cons.1 hc with rfl | hc
      · simp [effective, hok]
      · unfold effective
        split
        · exact mem_cons_of_mem _ (ih hds hc)
        · exact ih hds hc
        · rename_i hcr
          exact absurd hcr hd

/-- **What a pipeline does.**  The effective commands are applied in order; where no command
meets a crash the pipeline returns. -/
lemma pipeline_done (h : Survives reply cs) (s : σ) :
    (pipeline reply apply cs : Eff ε σ Unit) s = .done () ((effective reply cs).foldl apply s) := by
  induction cs generalizing s with
  | nil => rfl
  | cons c cs ih =>
    obtain ⟨hc, hcs⟩ := survives_cons.1 h
    unfold pipeline effective
    split
    · exact ih hcs _
    · exact ih hcs _
    · rename_i hcr
      exact absurd hcr hc

/-- Where a command meets a crash, the commands before it have been applied. -/
lemma pipeline_crashed (h : ¬ Survives reply cs) (s : σ) :
    (pipeline reply apply cs : Eff ε σ Unit) s = .crashed ((effective reply cs).foldl apply s) := by
  induction cs generalizing s with
  | nil => exact absurd (by simp [Survives]) h
  | cons c cs ih =>
    rw [survives_cons, not_and_or, not_not] at h
    unfold pipeline effective
    split
    · rename_i hok
      exact ih (h.resolve_left (by simp [hok])) _
    · rename_i herr
      exact ih (h.resolve_left (by simp [herr])) _
    · rfl

end Pipeline

end Eff
