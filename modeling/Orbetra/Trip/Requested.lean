import Orbetra.Framework.Transducer
import Orbetra.Trip.Reconcile

/-!
# Requests for a recompute

A request is a job whose id is made of the hours of its window.  While a job waits its id is taken,
and the queue drops every other request of that id, however much wider its window may be within the
two hours.  What a request asks for is recomputed, whatever happens to the queue later, exactly if
the request is taken in or its window lies in that of a job that waits already. -/

namespace Orbetra

open List

inductive QueueEvent
  /-- `enqueueRecompute`. -/
  | request (job : RecomputeJob)
  /-- The job of an id is run, and removed. -/
  | run (id : DeviceId × ℤ × ℤ)

def RecomputeQueue.step (q : RecomputeQueue) : QueueEvent → RecomputeQueue × List RecomputeJob
  | .request job => (q.add job, [])
  | .run id => (q.finish (·.jobId = id), q.waiting.filter (·.jobId = id))

abbrev RecomputeQueue.after (q : RecomputeQueue) (events : List QueueEvent) : RecomputeQueue :=
  Transducer.stateAfter RecomputeQueue.step q events

abbrev RecomputeQueue.ran (q : RecomputeQueue) (events : List QueueEvent) : List RecomputeJob :=
  Transducer.outputs RecomputeQueue.step q events

/-- Every job that waits is run. -/
def RecomputeQueue.drain (q : RecomputeQueue) : List QueueEvent :=
  q.waiting.map fun job => .run job.jobId

/-- The window of a job contains another. -/
structure RecomputeJob.Covers (k job : RecomputeJob) : Prop where
  deviceId : k.deviceId = job.deviceId
  fromTime : k.fromTime ≤ job.fromTime
  toTime : job.toTime ≤ k.toTime

lemma RecomputeJob.Covers.refl (job : RecomputeJob) : job.Covers job := ⟨rfl, le_rfl, le_rfl⟩

namespace RecomputeQueue

variable {q : RecomputeQueue} {job k : RecomputeJob}

lemma add_of_taken (h : ∃ k ∈ q.waiting, k.jobId = job.jobId) : q.add job = q := by
  obtain ⟨k, hk, hid⟩ := h
  exact if_pos (any_eq_true.2 ⟨k, hk, decide_eq_true hid⟩)

lemma add_of_free (h : ∀ k ∈ q.waiting, k.jobId ≠ job.jobId) :
    (q.add job).waiting = q.waiting ++ [job] := by
  unfold add
  rw [if_neg]
  intro htaken
  obtain ⟨k, hk, hid⟩ := any_eq_true.1 htaken
  exact h k hk (of_decide_eq_true hid)

lemma mem_waiting_add (hk : k ∈ q.waiting) : k ∈ (q.add job).waiting := by
  by_cases h : ∃ k ∈ q.waiting, k.jobId = job.jobId
  · rw [add_of_taken h]
    exact hk
  · rw [add_of_free fun k hk hid => h ⟨k, hk, hid⟩]
    exact mem_append_left _ hk

lemma step_keeps (hk : k ∈ q.waiting) (ev : QueueEvent) :
    k ∈ (q.step ev).2 ∨ k ∈ (q.step ev).1.waiting := by
  cases ev with
  | request job => exact .inr (mem_waiting_add hk)
  | run id =>
    by_cases hid : k.jobId = id
    · exact .inl (mem_filter.2 ⟨hk, decide_eq_true hid⟩)
    · exact .inr (mem_filter.2 ⟨hk, by simp [hid]⟩)

lemma ran_of_waiting {events : List QueueEvent} (hk : k ∈ q.waiting)
    (hdrained : (q.after events).waiting = []) : k ∈ q.ran events := by
  induction events generalizing q with
  | nil =>
    rw [show q.waiting = [] from hdrained] at hk
    cases hk
  | cons ev events ih =>
    rw [ran, Transducer.outputs_cons]
    rcases step_keeps hk ev with hran | hwaits
    · exact mem_append_left _ hran
    · exact mem_append_right _ (ih hwaits hdrained)

lemma runs_waiting (ids : List (DeviceId × ℤ × ℤ)) :
    (q.after (ids.map .run)).waiting = q.waiting.filter (·.jobId ∉ ids) ∧
      ∀ k ∈ q.ran (ids.map .run), k ∈ q.waiting := by
  induction ids generalizing q with
  | nil => exact ⟨(filter_eq_self.2 fun k hk => rfl).symm, fun k hk => by cases hk⟩
  | cons id ids ih =>
    obtain ⟨hwaiting, hran⟩ := ih (q := q.finish (·.jobId = id))
    constructor
    · rw [map_cons, after, Transducer.stateAfter_cons]
      refine hwaiting.trans ?_
      rw [finish, filter_filter]
      refine filter_congr fun k hk => ?_
      simp [Bool.and_comm]
    · intro k hk
      rw [map_cons, ran, Transducer.outputs_cons] at hk
      rcases mem_append.1 hk with hnow | hlater
      · exact (mem_filter.1 hnow).1
      · exact (mem_filter.1 (hran k hlater)).1

lemma drain_spec (q : RecomputeQueue) :
    (q.after q.drain).waiting = [] ∧ ∀ k ∈ q.ran q.drain, k ∈ q.waiting := by
  have hdrain : q.drain = (q.waiting.map RecomputeJob.jobId).map .run := by
    unfold drain
    rw [map_map]
    rfl
  obtain ⟨hwaiting, hran⟩ := runs_waiting (q := q) (q.waiting.map RecomputeJob.jobId)
  rw [hdrain]
  refine ⟨hwaiting.trans (filter_eq_nil_iff.2 fun k hk => ?_), hran⟩
  simpa using ⟨k, hk, rfl⟩

end RecomputeQueue

/-- **A request is served**, however the queue goes on until it is empty, exactly if its id is free
or a job that waits covers it. -/
theorem request_served_iff (q : RecomputeQueue) (before : List QueueEvent) (job : RecomputeJob) :
    (∀ after, ((q.after (before ++ [.request job])).after after).waiting = [] →
        ∃ k ∈ (q.after (before ++ [.request job])).ran after, k.Covers job) ↔
      (∀ k ∈ (q.after before).waiting, k.jobId ≠ job.jobId) ∨
        ∃ k ∈ (q.after before).waiting, k.Covers job := by
  have hadd : q.after (before ++ [.request job]) = (q.after before).add job :=
    Transducer.stateAfter_append _ _ _
  rw [hadd]
  generalize q.after before = q
  constructor
  · intro h
    by_cases htaken : ∃ k ∈ q.waiting, k.jobId = job.jobId
    · rw [RecomputeQueue.add_of_taken htaken] at h
      obtain ⟨k, hk, hcovers⟩ := h q.drain q.drain_spec.1
      exact .inr ⟨k, q.drain_spec.2 k hk, hcovers⟩
    · exact .inl fun k hk hid => htaken ⟨k, hk, hid⟩
  · rintro (hfree | ⟨k, hk, hcovers⟩) after hdrained
    · refine ⟨job, RecomputeQueue.ran_of_waiting ?_ hdrained, .refl job⟩
      rw [RecomputeQueue.add_of_free hfree]
      exact mem_append_right _ mem_cons_self
    · exact ⟨k, RecomputeQueue.ran_of_waiting (RecomputeQueue.mem_waiting_add hk) hdrained, hcovers⟩

/-- Of two requests within the same two hours the second, which begins earlier, is dropped. -/
theorem request_dropped :
    let q : RecomputeQueue := ⟨[], []⟩
    let narrow : RecomputeJob := ⟨1, 1800000, 4200000⟩
    let wide : RecomputeJob := ⟨1, 600000, 4800000⟩
    (q.after [.request narrow, .request wide, .run narrow.jobId]).waiting = [] ∧
      q.ran [.request narrow, .request wide, .run narrow.jobId] = [narrow] ∧
      ¬narrow.Covers wide := by
  refine ⟨by decide, by decide, fun h => ?_⟩
  exact absurd h.fromTime (by decide)

end Orbetra
