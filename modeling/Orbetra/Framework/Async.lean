import Orbetra.Framework.Instances

/-!
# Asynchronous programs over a shared state

An `Async` program is a tree of commands to a service: between two commands other programs may run,
so each `await` of the source is a node of the tree.  A service gives the type of the answer to each
command and what the command does to the state, in one atomic step.  A call that fails is answered
by `none`, and may have taken effect all the same.

`Pool` runs a family of programs in any order of steps.  `Meets` is the proof rule for one program
among others: at each node the program names an assertion that survives what the others may do while
it waits there (`env`), and from which its own command does what it promises (`own`).  Where the
promise of each program implies what the others expect, every program of the pool meets its
postcondition in every run (`Pool.Run.meets`).

`EndsWith` runs one program alone, to its end or to the point where its process is killed; `Alone`
is the proof rule for it (`EndsWith.alone`). -/

structure Service (σ : Type) where
  Cmd : Type
  Answer : Cmd → Type
  run : (c : Cmd) → σ → σ × Answer c

/-- How a call ends. -/
inductive Fate
  /-- It takes effect and is answered. -/
  | ok
  /-- It fails and has no effect. -/
  | refused
  /-- It takes effect, and its answer is lost. -/
  | lost
  deriving DecidableEq

/-- The state after a call, and the answer that arrives. -/
def Service.answer {σ : Type} (V : Service σ) (c : V.Cmd) (s : σ) : Fate → σ × Option (V.Answer c)
  | .ok => ((V.run c s).1, some (V.run c s).2)
  | .refused => (s, none)
  | .lost => ((V.run c s).1, none)

/-- A program that returns an `α` or throws an `ε`. -/
inductive Async {σ : Type} (V : Service σ) (ε α : Type) : Type
  | done (a : α)
  | threw (e : ε)
  | call (c : V.Cmd) (k : Option (V.Answer c) → Async V ε α)

namespace Async

open List Async

variable {σ : Type} {V : Service σ} {ε α β : Type}

/-- Run `f` on the result of a program. -/
def bind (f : α → Async V ε β) : Async V ε α → Async V ε β
  | .done a => f a
  | .threw e => .threw e
  | .call c k => .call c fun r => bind f (k r)

instance : Monad (Async V ε) where
  pure := .done
  bind m f := m.bind f

/-- Run `handler` where a program throws. -/
def attempt (handler : ε → Async V ε α) : Async V ε α → Async V ε α
  | .done a => .done a
  | .threw e => handler e
  | .call c k => .call c fun r => attempt handler (k r)

/-- Run `cleanup` where a program ends, in a result or in an error. -/
def always : Async V ε α → Async V ε Unit → Async V ε α
  | .done a, cleanup => cleanup.bind fun _ => .done a
  | .threw e, cleanup => cleanup.bind fun _ => .threw e
  | .call c k, cleanup => .call c fun r => always (k r) cleanup

/-- Send a command; where the call fails, `fault` is thrown. -/
def send (fault : ε) (c : V.Cmd) : Async V ε (V.Answer c) :=
  .call c fun
    | some a => .done a
    | none => .threw fault

/-- Send a command; where the call fails, `a` stands for its answer. -/
def sendOr (c : V.Cmd) (a : V.Answer c) : Async V ε (V.Answer c) :=
  .call c fun r => .done (r.getD a)

/-- The same program over another service: each command is one of its commands. -/
def lift {τ : Type} {W : Service τ} (f : V.Cmd → W.Cmd)
    (answer : ∀ c, W.Answer (f c) → V.Answer c) : Async V ε α → Async W ε α
  | .done a => .done a
  | .threw e => .threw e
  | .call c k => .call (f c) fun r => lift f answer (k (r.map (answer c)))

def when (c : Prop) [Decidable c] (m : Async V ε Unit) : Async V ε Unit := if c then m else pure ()

/-- The command that a program waits to send. -/
def pending : Async V ε α → Option V.Cmd
  | .call c _ => some c
  | _ => none

def returned : Async V ε α → Option α
  | .done a => some a
  | _ => none

lemma eq_done_of_returned {m : Async V ε α} {a : α} (h : m.returned = some a) : m = .done a := by
  cases m with
  | done b => rw [Option.some.inj h]
  | threw e => cases h
  | call c k => cases h

@[simp] lemma pure_eq (a : α) : (pure a : Async V ε α) = .done a := rfl

@[simp] lemma done_bind (a : α) (f : α → Async V ε β) : (.done a : Async V ε α) >>= f = f a := rfl

@[simp] lemma call_bind (c : V.Cmd) (k : Option (V.Answer c) → Async V ε α) (f : α → Async V ε β) :
    (.call c k : Async V ε α) >>= f = .call c fun r => k r >>= f := rfl

lemma send_bind (fault : ε) (c : V.Cmd) (f : V.Answer c → Async V ε β) :
    send fault c >>= f = .call c fun
      | some a => f a
      | none => .threw fault := by
  show call c _ = _
  congr 1
  funext r
  cases r <;> rfl

@[simp] lemma bind_done (m : Async V ε α) : (m >>= fun a => .done a) = m := by
  induction m with
  | done a => rfl
  | threw e => rfl
  | call c k ih =>
    rw [call_bind]
    congr 1
    funext r
    exact ih r

/-! ## One program among others -/

/-- The others keep an assertion. -/
def Stable (env : σ → σ → Prop) (J : σ → Prop) : Prop := ∀ s s', env s s' → J s → J s'

lemma Stable.and {env : σ → σ → Prop} {J K : σ → Prop} (hJ : Stable env J) (hK : Stable env K) :
    Stable env fun s => J s ∧ K s := fun s s' henv h => ⟨hJ s s' henv h.1, hK s s' henv h.2⟩

section Meets

variable (can : σ → V.Cmd → Fate → Prop) (env : Option V.Cmd → σ → σ → Prop)
  (own : V.Cmd → σ → σ → Prop)

/-- From the state `s` the program does only what `own` promises, and ends in `Q`, whatever the
others do within `env`; its calls are made, and end, as `can` allows.  `env` is told what the
program waits for, `none` where it has ended. -/
def Meets (Q : Except ε α → σ → Prop) : Async V ε α → σ → Prop
  | .done a, s => ∃ J : σ → Prop, J s ∧ Stable (env none) J ∧ ∀ s, J s → Q (.ok a) s
  | .threw e, s => ∃ J : σ → Prop, J s ∧ Stable (env none) J ∧ ∀ s, J s → Q (.error e) s
  | .call c k, s => ∃ J : σ → Prop, J s ∧ Stable (env (some c)) J ∧ ∀ s, J s →
      ∀ fate, can s c fate → own c s (V.answer c s fate).1 ∧
        Meets Q (k (V.answer c s fate).2) (V.answer c s fate).1

variable {can env own} {Q : Except ε α → σ → Prop} {R : Except ε β → σ → Prop} {s : σ}

/-- A program that has returned. -/
lemma Meets.done {a : α} (J : σ → Prop) (hs : J s) (hJ : Stable (env none) J)
    (hQ : ∀ s, J s → Q (.ok a) s) : Meets can env own Q (.done a) s := ⟨J, hs, hJ, hQ⟩

/-- A program that has thrown. -/
lemma Meets.threw {e : ε} (J : σ → Prop) (hs : J s) (hJ : Stable (env none) J)
    (hQ : ∀ s, J s → Q (.error e) s) : Meets can env own Q (.threw e) s := ⟨J, hs, hJ, hQ⟩

variable {c : V.Cmd} {m : Async V ε α} {S : Except ε α → σ → Prop}

variable {fault : ε} {f : V.Answer c → Async V ε α}

/-- A command and the rest of the program: it is answered, or fails with or without effect. -/
lemma Meets.send (J : σ → Prop) (hs : J s) (hJ : Stable (env (some c)) J)
    (hok : ∀ s, J s → own c s (V.run c s).1 ∧ Meets can env own Q (f (V.run c s).2) (V.run c s).1)
    (hrefused : ∀ s, J s → own c s s ∧ Meets can env own Q (.threw fault) s)
    (hlost : ∀ s, J s → Meets can env own Q (.threw fault) (V.run c s).1) :
    Meets can env own Q (send fault c >>= f) s := by
  rw [send_bind]
  refine ⟨J, hs, hJ, fun s hs fate _ => ?_⟩
  cases fate with
  | ok => exact hok s hs
  | refused => exact hrefused s hs
  | lost => exact ⟨(hok s hs).1, hlost s hs⟩

/-- A command whose failure is no error. -/
lemma Meets.sendOr {a : V.Answer c} (J : σ → Prop) (hs : J s) (hJ : Stable (env (some c)) J)
    (h : ∀ s, J s → ∀ fate, can s c fate → own c s (V.answer c s fate).1 ∧
      Meets can env own Q (f ((V.answer c s fate).2.getD a)) (V.answer c s fate).1) :
    Meets can env own Q (sendOr c a >>= f) s := ⟨J, hs, hJ, h⟩

/-- A command that does not fail. -/
lemma Meets.sendOk (J : σ → Prop) (hs : J s) (hJ : Stable (env (some c)) J)
    (hcan : ∀ s fate, can s c fate → fate = .ok)
    (hok : ∀ s, J s → own c s (V.run c s).1 ∧ Meets can env own Q (f (V.run c s).2) (V.run c s).1) :
    Meets can env own Q (Async.send fault c >>= f) s := by
  rw [send_bind]
  refine ⟨J, hs, hJ, fun s hs fate hfate => ?_⟩
  rw [hcan s fate hfate]
  exact hok s hs

/-- Sequencing. -/
lemma Meets.bind {f : α → Async V ε β} (hm : Meets can env own Q m s)
    (hok : ∀ a s, Q (.ok a) s → Meets can env own R (f a) s)
    (herror : ∀ e s, Q (.error e) s → R (.error e) s) : Meets can env own R (m >>= f) s := by
  induction m generalizing s with
  | done a =>
    obtain ⟨J, hs, -, hQ⟩ := hm
    exact hok a s (hQ s hs)
  | threw e =>
    obtain ⟨J, hs, hJ, hQ⟩ := hm
    exact ⟨J, hs, hJ, fun s hs => herror e s (hQ s hs)⟩
  | call c k ih =>
    obtain ⟨J, hs, hJ, h⟩ := hm
    exact ⟨J, hs, hJ, fun s hs fate hfate => ⟨(h s hs fate hfate).1, ih _ (h s hs fate hfate).2⟩⟩

lemma Meets.attempt {handler : ε → Async V ε α} (hm : Meets can env own S m s)
    (hok : ∀ a s, S (.ok a) s → Q (.ok a) s)
    (herror : ∀ e s, S (.error e) s → Meets can env own Q (handler e) s) :
    Meets can env own Q (m.attempt handler) s := by
  induction m generalizing s with
  | done a =>
    obtain ⟨J, hs, hJ, hQ⟩ := hm
    exact ⟨J, hs, hJ, fun s hs => hok a s (hQ s hs)⟩
  | threw e =>
    obtain ⟨J, hs, -, hQ⟩ := hm
    exact herror e s (hQ s hs)
  | call c k ih =>
    obtain ⟨J, hs, hJ, h⟩ := hm
    exact ⟨J, hs, hJ, fun s hs fate hfate => ⟨(h s hs fate hfate).1, ih _ (h s hs fate hfate).2⟩⟩

lemma Meets.always {cleanup : Async V ε Unit} (hm : Meets can env own S m s)
    (hok : ∀ a s, S (.ok a) s → Meets can env own Q (cleanup >>= fun _ => .done a) s)
    (herror : ∀ e s, S (.error e) s → Meets can env own Q (cleanup >>= fun _ => .threw e) s) :
    Meets can env own Q (m.always cleanup) s := by
  induction m generalizing s with
  | done a =>
    obtain ⟨J, hs, -, hQ⟩ := hm
    exact hok a s (hQ s hs)
  | threw e =>
    obtain ⟨J, hs, -, hQ⟩ := hm
    exact herror e s (hQ s hs)
  | call c k ih =>
    obtain ⟨J, hs, hJ, h⟩ := hm
    exact ⟨J, hs, hJ, fun s hs fate hfate => ⟨(h s hs fate hfate).1, ih _ (h s hs fate hfate).2⟩⟩

/-- A step that is taken on a condition. -/
lemma Meets.when {c : Prop} [Decidable c] {Q : Except ε Unit → σ → Prop} {m : Async V ε Unit}
    (hm : c → Meets can env own Q m s) (hskip : ¬ c → Meets can env own Q (.done ()) s) :
    Meets can env own Q (Async.when c m) s := by
  unfold Async.when
  split
  · rename_i h
    exact hm h
  · rename_i h
    exact hskip h

/-- A weaker postcondition. -/
lemma Meets.mono (hm : Meets can env own S m s) (h : ∀ r s, S r s → Q r s) :
    Meets can env own Q m s := by
  induction m generalizing s with
  | done a =>
    obtain ⟨J, hs, hJ, hQ⟩ := hm
    exact ⟨J, hs, hJ, fun s hs => h _ s (hQ s hs)⟩
  | threw e =>
    obtain ⟨J, hs, hJ, hQ⟩ := hm
    exact ⟨J, hs, hJ, fun s hs => h _ s (hQ s hs)⟩
  | call c k ih =>
    obtain ⟨J, hs, hJ, hk⟩ := hm
    exact ⟨J, hs, hJ, fun s hs fate hfate => ⟨(hk s hs fate hfate).1, ih _ (hk s hs fate hfate).2⟩⟩

/-- What everybody keeps is kept. -/
lemma Meets.frame {K : σ → Prop} (hm : Meets can env own Q m s)
    (henv : ∀ waiting, Stable (env waiting) K) (hown : ∀ c s s', own c s s' → K s → K s')
    (hs : K s) :
    Meets can env own (fun r s => Q r s ∧ K s) m s := by
  induction m generalizing s with
  | done a =>
    obtain ⟨J, hJs, hJ, hQ⟩ := hm
    exact ⟨fun s => J s ∧ K s, ⟨hJs, hs⟩, hJ.and (henv none), fun s hs => ⟨hQ s hs.1, hs.2⟩⟩
  | threw e =>
    obtain ⟨J, hJs, hJ, hQ⟩ := hm
    exact ⟨fun s => J s ∧ K s, ⟨hJs, hs⟩, hJ.and (henv none), fun s hs => ⟨hQ s hs.1, hs.2⟩⟩
  | call c k ih =>
    obtain ⟨J, hJs, hJ, h⟩ := hm
    refine ⟨fun s => J s ∧ K s, ⟨hJs, hs⟩, hJ.and (henv _), fun s hs fate hfate => ?_⟩
    obtain ⟨hstep, hrest⟩ := h s hs.1 fate hfate
    exact ⟨hstep, ih _ hrest (hown c _ _ hstep hs.2)⟩

/-- What the others do while the program waits leaves it where it is. -/
lemma Meets.stable {s' : σ} (hm : Meets can env own Q m s) (henv : env m.pending s s') :
    Meets can env own Q m s' := by
  cases m with
  | done a =>
    obtain ⟨J, hs, hJ, hQ⟩ := hm
    exact ⟨J, hJ s s' henv hs, hJ, hQ⟩
  | threw e =>
    obtain ⟨J, hs, hJ, hQ⟩ := hm
    exact ⟨J, hJ s s' henv hs, hJ, hQ⟩
  | call c k =>
    obtain ⟨J, hs, hJ, h⟩ := hm
    exact ⟨J, hJ s s' henv hs, hJ, h⟩

/-- A postcondition in two parts. -/
def Ending (Q : α → σ → Prop) (E : σ → Prop) : Except ε α → σ → Prop
  | .ok a, s => Q a s
  | .error _, s => E s

/-- A loop: what holds after some of the elements holds after one more. -/
lemma Meets.foldlM {f : β → α → Async V ε β} (P : List α → β → σ → Prop) {E : σ → Prop} {l : List α}
    (hP : ∀ b, Stable (env none) (P l b))
    (hstep : ∀ before a after b s, l = before ++ a :: after → P before b s →
      Meets can env own (Ending (P (before ++ [a])) E) (f b a) s) {b : β} (h : P [] b s) :
    Meets can env own (Ending (P l) E) (l.foldlM f b) s := by
  suffices hrest : ∀ after before b s, l = before ++ after → P before b s →
      Meets can env own (Ending (P l) E) (after.foldlM f b) s from hrest l [] b s rfl h
  intro after
  induction after with
  | nil =>
    intro before b s hl h
    rw [append_nil] at hl
    subst hl
    exact .done (P l b) h (hP b) fun _ h => h
  | cons a after ih =>
    intro before b s hl h
    rw [foldlM_cons]
    refine Meets.bind (hstep before a after b s hl h) (fun b s h => ?_) fun _ _ h => h
    exact ih (before ++ [a]) b s (by rw [hl, append_assoc]; rfl) h

end Meets

/-- Nothing is asked of a program that throws. -/
def Returning (Q : α → σ → Prop) : Except ε α → σ → Prop
  | .ok a, s => Q a s
  | .error _, _ => True

/-- Among others that keep `G` the program keeps it too, and where it returns it returns in `Q`. -/
abbrev Keeps (G : σ → σ → Prop) (Q : α → σ → Prop) (m : Async V ε α) (s : σ) : Prop :=
  Meets (fun _ _ _ => True) (fun _ => G) (fun _ => G) (Returning Q) m s

section Keeps

variable {G : σ → σ → Prop} {Q : α → σ → Prop} {R : β → σ → Prop} {s : σ}

lemma Keeps.pure {a : α} (J : σ → Prop) (hs : J s) (hJ : Stable G J) (h : ∀ s, J s → Q a s) :
    Keeps G Q (.done a : Async V ε α) s := .done J hs hJ h

lemma Keeps.throw (e : ε) (s : σ) : Keeps G Q (.threw e : Async V ε α) s :=
  .threw (fun _ => True) trivial (fun _ _ _ _ => trivial) fun _ _ => trivial

/-- One command of the program, from an assertion that the others keep. -/
lemma Keeps.send (hG : ∀ s, G s s) {fault : ε} {c : V.Cmd} {f : V.Answer c → Async V ε α}
    (J : σ → Prop) (hs : J s) (hJ : Stable G J)
    (h : ∀ s, J s → G s (V.run c s).1 ∧ Keeps G Q (f (V.run c s).2) (V.run c s).1) :
    Keeps G Q (send fault c >>= f) s :=
  Meets.send J hs hJ h (fun s _ => ⟨hG s, Keeps.throw fault s⟩) fun _ _ => Keeps.throw fault _

lemma Keeps.bind {m : Async V ε α} {f : α → Async V ε β} (hm : Keeps G Q m s)
    (h : ∀ a s, Q a s → Keeps G R (f a) s) : Keeps G R (m >>= f) s :=
  Meets.bind hm h fun _ _ _ => trivial

lemma Keeps.weaken {m : Async V ε α} {S : α → σ → Prop} (hm : Keeps G S m s)
    (h : ∀ a s, S a s → Q a s) : Keeps G Q m s := by
  refine Meets.mono hm fun r s hr => ?_
  cases r with
  | ok a => exact h a s hr
  | error e => trivial

lemma Keeps.returned {a : α} (h : Keeps G Q (.done a : Async V ε α) s) : Q a s := by
  obtain ⟨J, hs, -, hQ⟩ := h
  exact hQ s hs

end Keeps

/-- Every command that the program may send is of a kind. -/
def Sends (P : V.Cmd → Prop) : Async V ε α → Prop
  | .call c k => P c ∧ ∀ r, Sends P (k r)
  | _ => True

section Sends

variable {P : V.Cmd → Prop}

variable {m : Async V ε α}

lemma Sends.bind {f : α → Async V ε β} (hm : Sends P m) (hf : ∀ a, Sends P (f a)) :
    Sends P (m >>= f) := by
  induction m with
  | done a => exact hf a
  | threw e => trivial
  | call c k ih => exact ⟨hm.1, fun r => ih r (hm.2 r)⟩

lemma Sends.attempt {handler : ε → Async V ε α} (hm : Sends P m)
    (hhandler : ∀ e, Sends P (handler e)) : Sends P (m.attempt handler) := by
  induction m with
  | done a => trivial
  | threw e => exact hhandler e
  | call c k ih => exact ⟨hm.1, fun r => ih r (hm.2 r)⟩

lemma Sends.send {fault : ε} {c : V.Cmd} (hc : P c) : Sends P (send fault c : Async V ε _) := by
  refine ⟨hc, fun r => ?_⟩
  cases r <;> trivial

lemma Sends.when {c : Prop} [Decidable c] {m : Async V ε Unit} (hm : Sends P m) :
    Sends P (Async.when c m) := by
  unfold Async.when
  split
  · exact hm
  · trivial

variable {l : List α} {env : Option V.Cmd → σ → σ → Prop} {own : V.Cmd → σ → σ → Prop}
  {can : σ → V.Cmd → Fate → Prop}

lemma Sends.foldlM {f : β → α → Async V ε β} (h : ∀ b, ∀ a ∈ l, Sends P (f b a)) (b : β) :
    Sends P (l.foldlM f b) := by
  induction l generalizing b with
  | nil => trivial
  | cons a l ih =>
    rw [foldlM_cons]
    exact (h b a mem_cons_self).bind (ih fun b a' ha => h b a' (mem_cons_of_mem a ha))

lemma Sends.forM {f : α → Async V ε PUnit} (h : ∀ a ∈ l, Sends P (f a)) : Sends P (l.forM f) := by
  induction l with
  | nil => trivial
  | cons a l ih =>
    rw [forM_eq_forM, forM_cons]
    exact (h a mem_cons_self).bind fun _ => ih fun a' ha' => h a' (mem_cons_of_mem a ha')

lemma Sends.mono {P' : V.Cmd → Prop} (hm : Sends P m) (h : ∀ c, P c → P' c) : Sends P' m := by
  induction m with
  | done a => trivial
  | threw e => trivial
  | call c k ih => exact ⟨h c hm.1, fun r => ih r (hm.2 r)⟩

lemma sends_any (m : Async V ε α) : Sends (fun _ => True) m := by
  induction m with
  | done a => trivial
  | threw e => trivial
  | call c k ih => exact ⟨trivial, ih⟩

/-- What every command of a kind promises where it is made, the program promises. -/
lemma Sends.meetsWhere (hm : Sends P m)
    (hown : ∀ c, P c → ∀ s fate, can s c fate → own c s (V.answer c s fate).1) (s : σ) :
    Meets can env own (fun _ _ => True) m s := by
  induction m generalizing s with
  | done a => exact .done (fun _ => True) trivial (fun _ _ _ _ => trivial) fun _ _ => trivial
  | threw e => exact .threw (fun _ => True) trivial (fun _ _ _ _ => trivial) fun _ _ => trivial
  | call c k ih =>
    exact ⟨fun _ => True, trivial, fun _ _ _ _ => trivial, fun s _ fate hfate =>
      ⟨hown c hm.1 s fate hfate, ih _ (hm.2 _) _⟩⟩

/-- What every command of a kind promises, the program promises. -/
lemma Sends.meets (hm : Sends P m) (hown : ∀ c, P c → ∀ s fate, own c s (V.answer c s fate).1)
    (s : σ) :
    Meets can env own (fun _ _ => True) m s :=
  hm.meetsWhere (fun c hc s fate _ => hown c hc s fate) s

lemma Sends.keeps {G : σ → σ → Prop} (hm : Sends P m)
    (hG : ∀ c, P c → ∀ s fate, G s (V.answer c s fate).1) (s : σ) :
    Keeps G (fun _ _ => True) m s := by
  refine (hm.meets hG s).mono fun r s _ => ?_
  cases r <;> trivial

end Sends

/-! ## A program alone -/

/-- The program ends in `s'` with a result, or its process is killed there; a call ends only as
`can` allows. -/
inductive EndsWith (can : V.Cmd → Fate → Prop) :
    Async V ε α → σ → Option (Except ε α) → σ → Prop
  | done (a : α) (s : σ) : EndsWith can (.done a) s (some (.ok a)) s
  | threw (e : ε) (s : σ) : EndsWith can (.threw e) s (some (.error e)) s
  | killed (m : Async V ε α) (s : σ) : EndsWith can m s none s
  | call {c : V.Cmd} {k : Option (V.Answer c) → Async V ε α} {s s' : σ} {r : Option (Except ε α)}
      {fate : Fate} (hfate : can c fate)
      (h : EndsWith can (k (V.answer c s fate).2) (V.answer c s fate).1 r s') :
      EndsWith can (.call c k) s r s'

/-- Any call may fail. -/
abbrev Ends : Async V ε α → σ → Option (Except ε α) → σ → Prop := EndsWith fun _ _ => True

/-- Let the calls of a program end in a given way; its process is killed where the list ends. -/
def play : Async V ε α → σ → List Fate → Option (Except ε α) × σ
  | .done a, s, _ => (some (.ok a), s)
  | .threw e, s, _ => (some (.error e), s)
  | .call _ _, s, [] => (none, s)
  | .call c k, s, fate :: fates => play (k (V.answer c s fate).2) (V.answer c s fate).1 fates

lemma endsWith_play {can : V.Cmd → Fate → Prop} (m : Async V ε α) (s : σ) {fates : List Fate}
    (hcan : ∀ c, ∀ fate ∈ fates, can c fate) :
    EndsWith can m s (m.play s fates).1 (m.play s fates).2 := by
  induction m generalizing s fates with
  | done a => exact .done a s
  | threw e => exact .threw e s
  | call c k ih =>
    cases fates with
    | nil => exact .killed _ s
    | cons fate fates =>
      refine .call (hcan c fate mem_cons_self) (ih _ _ fun c' fate' hmem => ?_)
      exact hcan c' fate' (mem_cons_of_mem fate hmem)

lemma ends_play (m : Async V ε α) (s : σ) (fates : List Fate) :
    Ends m s (m.play s fates).1 (m.play s fates).2 := endsWith_play m s fun _ _ _ => trivial

/-- Alone, every command of the program leaves the state in `I`, and where the program returns it
returns in `Q`. -/
def Alone (can : V.Cmd → Fate → Prop) (I : σ → Prop) (Q : α → σ → Prop) : Async V ε α → σ → Prop
  | .done a, s => Q a s
  | .threw _, s => I s
  | .call c k, s => ∀ fate, can c fate →
      I (V.answer c s fate).1 ∧ Alone can I Q (k (V.answer c s fate).2) (V.answer c s fate).1

section Alone

variable {can : V.Cmd → Fate → Prop} {I : σ → Prop} {Q : α → σ → Prop} {R : β → σ → Prop} {s : σ}

lemma Alone.pure {a : α} (h : Q a s) : Alone can I Q (.done a : Async V ε α) s := h

lemma Alone.throw {e : ε} (h : I s) : Alone can I Q (.threw e : Async V ε α) s := h

/-- One command. -/
lemma Alone.send {fault : ε} {c : V.Cmd} {f : V.Answer c → Async V ε α} (hs : I s)
    (hrun : I (V.run c s).1) (h : Alone can I Q (f (V.run c s).2) (V.run c s).1) :
    Alone can I Q (send fault c >>= f) s := by
  intro fate _
  cases fate with
  | ok => exact ⟨hrun, h⟩
  | refused => exact ⟨hs, hs⟩
  | lost => exact ⟨hrun, hrun⟩

variable {m : Async V ε α}

lemma Alone.bind {f : α → Async V ε β} (hm : Alone can I Q m s)
    (h : ∀ a s, Q a s → Alone can I R (f a) s) : Alone can I R (m >>= f) s := by
  induction m generalizing s with
  | done a => exact h a s hm
  | threw e => exact hm
  | call c k ih =>
    intro fate hfate
    exact ⟨(hm fate hfate).1, ih _ (hm fate hfate).2⟩

lemma Alone.attempt {handler : ε → Async V ε α} (hm : Alone can I Q m s)
    (h : ∀ e s, I s → Alone can I Q (handler e) s) : Alone can I Q (m.attempt handler) s := by
  induction m generalizing s with
  | done a => exact hm
  | threw e => exact h e s hm
  | call c k ih =>
    intro fate hfate
    exact ⟨(hm fate hfate).1, ih _ (hm fate hfate).2⟩

lemma Alone.mono {S : α → σ → Prop} (hm : Alone can I S m s) (h : ∀ a s, S a s → Q a s) :
    Alone can I Q m s := by
  induction m generalizing s with
  | done a => exact h a s hm
  | threw e => exact hm
  | call c k ih =>
    intro fate hfate
    exact ⟨(hm fate hfate).1, ih _ (hm fate hfate).2⟩

/-- A loop: what holds after some of the elements holds after one more. -/
lemma Alone.foldlM {f : β → α → Async V ε β} (P : List α → β → σ → Prop) {l : List α}
    (hstep : ∀ before a after b s, l = before ++ a :: after → P before b s →
      Alone can I (P (before ++ [a])) (f b a) s) {b : β} (h : P [] b s) :
    Alone can I (P l) (l.foldlM f b) s := by
  suffices hrest : ∀ after before b s, l = before ++ after → P before b s →
      Alone can I (P l) (after.foldlM f b) s from hrest l [] b s rfl h
  intro after
  induction after with
  | nil =>
    intro before b s hl h
    rw [append_nil] at hl
    exact .pure (hl ▸ h)
  | cons a after ih =>
    intro before b s hl h
    rw [foldlM_cons]
    refine (hstep before a after b s hl h).bind fun b s h => ?_
    exact ih (before ++ [a]) b s (by rw [hl, append_assoc]; rfl) h

/-- **A program alone**, to its end or to where it is killed. -/
theorem EndsWith.alone {s' : σ} {r : Option (Except ε α)} (h : EndsWith can m s r s') (hs : I s)
    (hm : Alone can I Q m s) :
    I s' ∧ ∀ a, r = some (.ok a) → Q a s' := by
  induction h with
  | done a s =>
    refine ⟨hs, fun a' ha => ?_⟩
    cases ha
    exact hm
  | threw e s => exact ⟨hs, fun a ha => by cases ha⟩
  | killed m s => exact ⟨hs, fun a ha => by cases ha⟩
  | call hfate h ih => exact ih (hm _ hfate).1 (hm _ hfate).2

end Alone

end Async

/-! ## A pool of programs -/

/-- Programs that run over one state. -/
structure Pool (ι : Type) {σ : Type} (V : Service σ) (ε α : Type) where
  state : σ
  thread : ι → Async V ε α

namespace Pool

variable {ι σ : Type} {V : Service σ} {ε α : Type} [DecidableEq ι]

/-- Thread `i` sends the command that it waits to send. -/
def Step (p : Pool ι V ε α) (i : ι) (c : V.Cmd) (fate : Fate) (p' : Pool ι V ε α) : Prop :=
  ∃ k, p.thread i = .call c k ∧ p' = ⟨(V.answer c p.state fate).1,
    Function.update p.thread i (k (V.answer c p.state fate).2)⟩

/-- A run whose steps are all of a kind. -/
inductive Run (Fits : Pool ι V ε α → ι → V.Cmd → Fate → Prop) :
    Pool ι V ε α → Pool ι V ε α → Prop
  | refl (p : Pool ι V ε α) : Run Fits p p
  | step {p p' p'' : Pool ι V ε α} {i : ι} {c : V.Cmd} {fate : Fate} (h : Run Fits p p')
      (hstep : p'.Step i c fate p'') (hfits : Fits p' i c fate) : Run Fits p p''

variable {Fits : Pool ι V ε α → ι → V.Cmd → Fate → Prop} {p p' p'' : Pool ι V ε α}

lemma Run.trans (h : Run Fits p p') (h' : Run Fits p' p'') : Run Fits p p'' := by
  induction h' with
  | refl => exact h
  | step _ hstep hfits ih => exact ih.step hstep hfits

/-- A run, whatever its steps. -/
abbrev Reaches : Pool ι V ε α → Pool ι V ε α → Prop := Run fun _ _ _ _ => True

/-- Let the threads step in a given order; a thread that has ended does nothing. -/
def exec (p : Pool ι V ε α) : List (ι × Fate) → Pool ι V ε α
  | [] => p
  | (i, fate) :: schedule =>
    match p.thread i with
    | .call c k => exec ⟨(V.answer c p.state fate).1,
        Function.update p.thread i (k (V.answer c p.state fate).2)⟩ schedule
    | _ => exec p schedule

lemma run_exec {P : Fate → Prop} (schedule : List (ι × Fate)) (h : ∀ step ∈ schedule, P step.2)
    (p : Pool ι V ε α) : Run (fun _ _ _ fate => P fate) p (p.exec schedule) := by
  induction schedule generalizing p with
  | nil => exact .refl p
  | cons step schedule ih =>
    obtain ⟨hstep, hrest⟩ := List.forall_mem_cons.mp h
    obtain ⟨i, fate⟩ := step
    unfold exec
    split
    · rename_i c k hcall
      exact ((Run.refl p).step ⟨k, hcall, rfl⟩ hstep).trans (ih hrest _)
    · exact ih hrest p

lemma reaches_exec (schedule : List (ι × Fate)) (p : Pool ι V ε α) :
    p.Reaches (p.exec schedule) := run_exec schedule (fun _ _ => trivial) p

variable {i : ι} {c : V.Cmd}

lemma thread_exec (schedule : List (ι × Fate)) (h : ∀ step ∈ schedule, step.1 ≠ i)
    (p : Pool ι V ε α) : (p.exec schedule).thread i = p.thread i := by
  induction schedule generalizing p with
  | nil => rfl
  | cons step schedule ih =>
    obtain ⟨hstep, hrest⟩ := List.forall_mem_cons.mp h
    obtain ⟨j, fate⟩ := step
    unfold exec
    split
    · exact (ih hrest _).trans (Function.update_of_ne (Ne.symm hstep) ..)
    · exact ih hrest p

lemma step_exec {p : Pool ι V ε α} (h : (p.thread i).pending = some c) (fate : Fate) :
    p.Step i c fate (p.exec [(i, fate)]) := by
  cases hthread : p.thread i with
  | done a =>
    rw [hthread] at h
    cases h
  | threw e =>
    rw [hthread] at h
    cases h
  | call c' k =>
    rw [hthread] at h
    obtain rfl : c' = c := Option.some.inj h
    refine ⟨k, hthread, ?_⟩
    unfold exec
    rw [hthread]
    rfl

/-- Let the threads step in a given order, where each step is of the kind. -/
def execWith (Fits : Pool ι V ε α → ι → V.Cmd → Fate → Prop)
    [∀ p i c fate, Decidable (Fits p i c fate)] (p : Pool ι V ε α) :
    List (ι × Fate) → Option (Pool ι V ε α)
  | [] => some p
  | (i, fate) :: schedule =>
    match p.thread i with
    | .call c k =>
      if Fits p i c fate then
        execWith Fits ⟨(V.answer c p.state fate).1,
          Function.update p.thread i (k (V.answer c p.state fate).2)⟩ schedule
      else none
    | _ => execWith Fits p schedule

lemma run_execWith [∀ p i c fate, Decidable (Fits p i c fate)] (schedule : List (ι × Fate))
    (p : Pool ι V ε α) (h : p.execWith Fits schedule = some p') : Run Fits p p' := by
  induction schedule generalizing p with
  | nil =>
    obtain rfl := Option.some.inj h
    exact .refl p
  | cons step schedule ih =>
    obtain ⟨i, fate⟩ := step
    unfold execWith at h
    split at h
    · rename_i c k hcall
      split at h
      · rename_i hfits
        exact ((Run.refl p).step ⟨k, hcall, rfl⟩ hfits).trans (ih _ h)
      · cases h
    · exact ih p h

lemma run_exec_of_isSome [∀ p i c fate, Decidable (Fits p i c fate)] (schedule : List (ι × Fate))
    (p : Pool ι V ε α) (h : (p.execWith Fits schedule).isSome = true) :
    Run Fits p (p.exec schedule) := by
  induction schedule generalizing p with
  | nil => exact .refl p
  | cons step schedule ih =>
    obtain ⟨i, fate⟩ := step
    unfold execWith at h
    unfold exec
    split at h
    · rename_i c k hcall
      split at h
      · rename_i hfits
        exact ((Run.refl p).step ⟨k, hcall, rfl⟩ hfits).trans (ih _ h)
      · cases h
    · exact ih p h

lemma Run.first_step (h : Run Fits p p') (hmoved : p'.thread i ≠ p.thread i) :
    ∃ q q' c fate, Run Fits p q ∧ q.thread i = p.thread i ∧ q.Step i c fate q' ∧
      Fits q i c fate ∧ Run Fits q' p' := by
  induction h with
  | refl => exact absurd rfl hmoved
  | @step q p' j c fate h hstep hfits ih =>
    by_cases hq : q.thread i = p.thread i
    · by_cases hj : j = i
      · subst hj
        exact ⟨q, p', c, fate, h, hq, hstep, hfits, .refl p'⟩
      · obtain ⟨k, hcall, rfl⟩ := hstep
        refine absurd ?_ hmoved
        show Function.update q.thread j _ i = _
        rw [Function.update_of_ne (Ne.symm hj), hq]
    · obtain ⟨q₁, q₂, c₁, fate₁, hrun, hthread, hfirst, hfits₁, hrest⟩ := ih hq
      exact ⟨q₁, q₂, c₁, fate₁, hrun, hthread, hfirst, hfits₁, hrest.step hstep hfits⟩

lemma Run.reaches (h : Run Fits p p') : p.Reaches p' := by
  induction h with
  | refl => exact .refl _
  | step _ hstep _ ih => exact ih.step hstep trivial

lemma Run.mono {Fits' : Pool ι V ε α → ι → V.Cmd → Fate → Prop} (h : Run Fits p p')
    (hfits : ∀ q i c fate, Fits q i c fate → Fits' q i c fate) : Run Fits' p p' := by
  induction h with
  | refl => exact .refl _
  | step _ hstep hq ih => exact ih.step hstep (hfits _ _ _ _ hq)

/-- A run is of a kind where every step that can be taken on the way is. -/
lemma Run.of_reaches (h : p.Reaches p') (hfits : ∀ q i c fate, p.Reaches q → Fits q i c fate) :
    Run Fits p p' := by
  induction h with
  | refl => exact .refl _
  | step h hstep _ ih => exact ih.step hstep (hfits _ _ _ _ h)

/-- Every thread is on its way to its postcondition. -/
def Meets (can : ι → σ → V.Cmd → Fate → Prop) (env : ι → Option V.Cmd → σ → σ → Prop)
    (own : ι → V.Cmd → σ → σ → Prop) (Q : ι → Except ε α → σ → Prop) (p : Pool ι V ε α) : Prop :=
  ∀ i, (p.thread i).Meets (can i) (env i) (own i) (Q i) p.state

variable {can : ι → σ → V.Cmd → Fate → Prop} {env : ι → Option V.Cmd → σ → σ → Prop}
  {own : ι → V.Cmd → σ → σ → Prop} {Q : ι → Except ε α → σ → Prop}

/-- A step of a kind is one that `can` allows, and what it promises is what the others expect. -/
def Compatible (Fits : Pool ι V ε α → ι → V.Cmd → Fate → Prop)
    (can : ι → σ → V.Cmd → Fate → Prop) (env : ι → Option V.Cmd → σ → σ → Prop)
    (own : ι → V.Cmd → σ → σ → Prop) : Prop :=
  ∀ p i c fate p', p.Step i c fate p' → Fits p i c fate → can i p.state c fate ∧
    (own i c p.state p'.state → ∀ j, j ≠ i → env j (p.thread j).pending p.state p'.state)

lemma Meets.step {fate : Fate} (hcompatible : Compatible Fits can env own)
    (h : p.Meets can env own Q) (hstep : p.Step i c fate p') (hfits : Fits p i c fate) :
    own i c p.state p'.state ∧ p'.Meets can env own Q := by
  obtain ⟨hfate, henv⟩ := hcompatible p i c fate _ hstep hfits
  obtain ⟨k, hcall, rfl⟩ := hstep
  have hi := h i
  rw [hcall] at hi
  obtain ⟨J, hs, -, hnext⟩ := hi
  obtain ⟨hown, hk⟩ := hnext _ hs fate hfate
  refine ⟨hown, fun j => ?_⟩
  by_cases hj : j = i
  · subst hj
    show (Function.update p.thread j _ j).Meets _ _ _ _ _
    rw [Function.update_self]
    exact hk
  · show (Function.update p.thread i _ j).Meets _ _ _ _ _
    rw [Function.update_of_ne hj]
    exact (h j).stable (henv hown j hj)

/-- **Rely and guarantee.** -/
theorem Run.meets (hcompatible : Compatible Fits can env own) (h : p.Meets can env own Q)
    (hrun : Run Fits p p') : p'.Meets can env own Q := by
  induction hrun with
  | refl => exact h
  | step _ hstep hfits ih => exact (ih.step hcompatible hstep hfits).2

omit [DecidableEq ι] in
lemma Meets.returned {i : ι} {a : α} (h : p.Meets can env own Q) (hi : p.thread i = .done a) :
    Q i (.ok a) p.state := by
  have hi' := h i
  rw [hi] at hi'
  obtain ⟨J, hs, -, hQ⟩ := hi'
  exact hQ _ hs

omit [DecidableEq ι] in
lemma Meets.ended {i : ι} (h : p.Meets can env own Q) (hi : (p.thread i).pending = none) :
    ∃ r, Q i r p.state := by
  have hi' := h i
  cases hthread : p.thread i with
  | done a =>
    rw [hthread] at hi'
    obtain ⟨J, hs, -, hQ⟩ := hi'
    exact ⟨.ok a, hQ _ hs⟩
  | threw e =>
    rw [hthread] at hi'
    obtain ⟨J, hs, -, hQ⟩ := hi'
    exact ⟨.error e, hQ _ hs⟩
  | call c k =>
    rw [hthread] at hi
    cases hi

lemma Run.sends {P : V.Cmd → Prop} (hrun : Run Fits p p') (h : (p.thread i).Sends P) :
    (p'.thread i).Sends P := by
  induction hrun with
  | refl => exact h
  | @step q q' j c fate _ hstep _ ih =>
    obtain ⟨k, hcall, rfl⟩ := hstep
    by_cases hj : i = j
    · subst hj
      rw [hcall] at ih
      show (Function.update q.thread i _ i).Sends P
      rw [Function.update_self]
      exact ih.2 _
    · show (Function.update q.thread j _ i).Sends P
      rw [Function.update_of_ne hj]
      exact ih

variable {I : σ → σ → Prop}

lemma Run.keeps (hcompatible : Compatible Fits can env own) (h : p.Meets can env own Q)
    (hrun : Run Fits p p') (hrefl : ∀ s, I s s) (htrans : ∀ s s' s'', I s s' → I s' s'' → I s s'')
    (hown : ∀ i c s s', own i c s s' → I s s') : I p.state p'.state := by
  induction hrun with
  | refl => exact hrefl _
  | step hrun hstep hfits ih =>
    exact htrans _ _ _ ih (hown _ _ _ _ ((hrun.meets hcompatible h).step hcompatible hstep hfits).1)

/-- A thread that has ended takes no step: what the promises of all others keep is kept. -/
lemma Run.idle (hcompatible : Compatible Fits can env own) (h : p.Meets can env own Q)
    (hrun : Run Fits p p') (hi : (p.thread i).pending = none) (hrefl : ∀ s, I s s)
    (htrans : ∀ s s' s'', I s s' → I s' s'' → I s s'')
    (hown : ∀ j c s s', j ≠ i → own j c s s' → I s s') : I p.state p'.state := by
  suffices hboth : (p'.thread i).pending = none ∧ I p.state p'.state from hboth.2
  induction hrun with
  | refl => exact ⟨hi, hrefl _⟩
  | @step q q' j c fate hrun hstep hfits ih =>
    have hj : j ≠ i := by
      rintro rfl
      obtain ⟨k, hcall, -⟩ := hstep
      rw [hcall] at ih
      cases ih.1
    have hpromise := ((hrun.meets hcompatible h).step hcompatible hstep hfits).1
    refine ⟨?_, htrans _ _ _ ih.2 (hown j c _ _ hj hpromise)⟩
    obtain ⟨k, -, rfl⟩ := hstep
    show (Function.update q.thread j _ i).pending = none
    rw [Function.update_of_ne hj.symm]
    exact ih.1

/-- Where every thread keeps `G` among the others, so does the pool. -/
theorem Run.all_keep {G : σ → σ → Prop} {R : ι → α → σ → Prop} (hrefl : ∀ s, G s s)
    (htrans : ∀ s s' s'', G s s' → G s' s'' → G s s'')
    (h : ∀ i, (p.thread i).Keeps G (R i) p.state) (hrun : Run Fits p p') :
    G p.state p'.state ∧ ∀ i, (p'.thread i).Keeps G (R i) p'.state := by
  have hcompatible : Compatible Fits (fun _ _ _ _ => True) (fun _ _ => G) (fun _ _ => G) :=
    fun _ _ _ _ _ _ _ => ⟨trivial, fun hG _ _ => hG⟩
  exact ⟨hrun.keeps hcompatible h hrefl htrans fun _ _ _ _ hG => hG, hrun.meets hcompatible h⟩

end Pool
