import Orbetra.Ingest.Sockets

/-!
# The gauge of paused sockets

`metrics.pausedSockets` counts the sessions that are paused, and is back at zero once every socket
has closed, where no probe of `maybeBackpressure` that finds the shard behind is answered after its
socket has emitted `close` (`gauge_exact`).  One that is leaves the gauge at one
(`late_pause_counted`). -/

namespace Orbetra.Sockets

open Function Machine

open Tally (tally tally_insert tally_eq_zero)

variable {ι : Type} [DecidableEq ι] {s s' : Server ι} {config : Config}

structure GaugeExact (s : Server ι) : Prop where
  counts : s.pausedSockets = ((s.accepted.filter fun i => (s.sessions i).paused = true).card : ℤ)
  nonneg : 0 ≤ s.pausedSockets
  zero : (∀ i ∈ s.accepted, (s.sessions i).closed = true ∧ (s.sessions i).Idle) →
    s.pausedSockets = 0

/-- The invariant: what the gauge reads, and that no session is paused once its socket has closed.
-/
structure Gauged (s : Server ι) : Prop where
  sound : Sound s
  gauge : s.pausedSockets = tally s.accepted pausedWeight s.sessions
  released : ∀ i, (s.sessions i).closed = true → (s.sessions i).paused = false

lemma gauged_initial : Gauged (Server.initial : Server ι) := ⟨sound_initial, rfl, fun _ _ => rfl⟩

omit [DecidableEq ι] in
lemma Calm.gauged (h : Calm False s s') (hs : Gauged s) : Gauged s' where
  sound := h.sound hs.sound
  gauge := by
    have hgauge := h.gauge
    rw [hs.gauge, sub_self, sub_eq_zero] at hgauge
    rw [hgauge, h.accepted]
  released j hclosed := by
    rw [(h.quiet j).closed] at hclosed
    by_contra hpaused
    have hbefore :=
      (h.quiet j).paused.resolve_left not_false hclosed (Bool.not_eq_false _ ▸ hpaused)
    rw [hs.released j hclosed] at hbefore
    cases hbefore

lemma Gauged.update {i : ι} {x : Session} (h : Gauged s) (hi : i ∈ s.accepted)
    (hx : x.closed = true → x.paused = false)
    (hgauge : s'.pausedSockets = s.pausedSockets + (pausedWeight x - pausedWeight (s.sessions i)))
    (haccepted : s'.accepted = s.accepted)
    (hsessions : s'.sessions = update s.sessions i x)
    (hsound : Sound s') : Gauged s' where
  sound := hsound
  gauge := by rw [haccepted, hsessions, Tally.tally_update hi, hgauge, h.gauge]
  released j hclosed := by
    rw [hsessions] at hclosed ⊢
    by_cases hj : j = i
    · subst hj
      rw [update_self] at hclosed ⊢
      exact hx hclosed
    · rw [update_of_ne hj] at hclosed ⊢
      exact h.released j hclosed

/-- **Every turn keeps the gauge**, where no closed session is paused. -/
lemma Turn.gauged (h : Turn False True s s') (hs : Gauged s) : Gauged s' := by
  have hsound := h.sound hs.sound
  cases h with
  | calm h => exact h.gauged hs
  | accept i ip hi =>
    refine ⟨hsound, ?_, fun j hclosed => ?_⟩
    · show s.pausedSockets = tally (insert i s.accepted) pausedWeight
        (update s.sessions i (.fresh ip))
      have hfresh : pausedWeight (.fresh ip) = 0 := rfl
      rw [tally_insert hi, hs.gauge, hfresh, add_zero]
    · have hclosed' : (update s.sessions i (.fresh ip) j).closed = true := hclosed
      show (update s.sessions i (.fresh ip) j).paused = false
      by_cases hj : j = i
      · subst hj
        rw [update_self]
        rfl
      · rw [update_of_ne hj] at hclosed' ⊢
        exact hs.released j hclosed'
  | authenticate i imei hi himei hopen hprior h =>
    have harrived : Gauged (s.arrived i) := (calm_arrived hi).gauged hs
    refine h.gauged (harrived.update hi ?_ ?_ rfl rfl (hs.sound.register hi))
    · exact harrived.released i
    · show s.pausedSockets = s.pausedSockets +
        (pausedWeight ((s.arrived i).sessions i) - pausedWeight ((s.arrived i).sessions i))
      rw [sub_self, add_zero]
  | close i hi hdestroyed hopen =>
    rw [close_eq] at hsound ⊢
    refine hs.update hi (fun _ => rfl) ?_ rfl rfl hsound
    show s.pausedSockets - pausedWeight (s.sessions i) =
      s.pausedSockets + (0 - pausedWeight (s.sessions i))
    omega

omit [DecidableEq ι] in
lemma Gauged.exact (h : Gauged s) : GaugeExact s := by
  have hcount : tally s.accepted pausedWeight s.sessions =
      ((s.accepted.filter fun i => (s.sessions i).paused = true).card : ℤ) := Finset.sum_boole _ _
  have hcounts := h.gauge.trans hcount
  refine ⟨hcounts, hcounts ▸ Int.natCast_nonneg _, fun hclosed => h.gauge.trans ?_⟩
  refine tally_eq_zero fun i hi => if_neg ?_
  rw [h.released i (hclosed i hi).1]
  exact Bool.false_ne_true

/-- **The gauge is exact** in every run in which no probe that finds the shard behind is answered
after its socket has closed. -/
theorem gauge_exact {moves : List (Move ι)}
    (hintime : RunFits (step config) (ProbesInTime config) Server.initial moves)
    (hrun : run (step config) Server.initial moves = some s) : GaugeExact s := by
  refine (run_keeps Gauged (fun s move s' hs hfits hstep => ?_) gauged_initial hintime hrun).exact
  exact (step_cases hs.sound.known hs.sound.handshakes (.inr hfits) (.inl trivial) hstep).gauged hs

/-! ## A probe that is late -/

def oneSocket : Config := ⟨10, 10, 50000⟩

/-- A session streams, and its shard turns out to be behind while it asks for the depth. -/
def untilProbe : List (Move ℕ) :=
  [.connect 0 "10.0.0.1" true, .data 0 (some [.imei (some "352093081452251")]), .begin 0,
    .answer 0 (.device true), .answer 0 (.popped .empty), .data 0 (some [.avl]), .begin 0,
    .answer 0 (.mapped true), .answer 0 .stored]

/-- The probe is answered, and the peer hangs up. -/
def probedInTime : List (Move ℕ) :=
  untilProbe ++ [.answer 0 (.depth 60000), .answer 0 (.popped .empty), .gone 0, .close 0, .tick 0]

/-- The peer hangs up, and the probe is answered. -/
def probedLate : List (Move ℕ) :=
  untilProbe ++ [.gone 0, .close 0, .answer 0 (.depth 60000), .tick 0]

theorem gauge_exact_probedInTime :
    ∃ s, run (step oneSocket) Server.initial probedInTime = some s ∧ GaugeExact s := by
  have hfits : RunFits (step oneSocket) (ProbesInTime oneSocket) Server.initial probedInTime := by
    decide +kernel
  have hsome : (run (step oneSocket) Server.initial probedInTime).isSome := by
    decide +kernel
  obtain ⟨s, hs⟩ := Option.isSome_iff_exists.mp hsome
  exact ⟨s, hs, gauge_exact hfits hs⟩

/-- **A socket whose probe is answered after it has closed is counted as paused for good**: it is
closed, nothing is left to come, and the gauge reads one. -/
theorem late_pause_counted :
    ∃ s, run (step oneSocket) Server.initial probedLate = some s ∧
      (∀ i ∈ s.accepted, (s.sessions i).closed = true ∧ (s.sessions i).Idle) ∧
      s.pausedSockets = 1 ∧ ¬GaugeExact s := by
  have hrun : (run (step oneSocket) Server.initial probedLate).map
      (fun s => (decide (∀ i ∈ s.accepted, (s.sessions i).closed = true ∧ (s.sessions i).Idle),
        s.pausedSockets)) = some (true, 1) := by decide +kernel
  obtain ⟨s, hs, heq⟩ := Option.map_eq_some_iff.mp hrun
  obtain ⟨hclosed, hgauge⟩ := Prod.mk.inj heq
  have hclosed' := of_decide_eq_true hclosed
  refine ⟨s, hs, hclosed', hgauge, fun hexact => ?_⟩
  exact absurd (hgauge.symm.trans (hexact.zero hclosed')) one_ne_zero

end Orbetra.Sockets
