import Orbetra.Trip.Persister

/-!
# The trip side of a batch

What `onBatch` does about trips: feed the batch to the engine, apply the events, and ask for a
recompute of whatever did not get through.  There are two ways to ask.  A batch whose events could
not be applied is compensated at once, by one job for each device over the span of its events; and
the times of records that came too late are drained at the end of the batch.  A job that cannot be
enqueued is parked, or its late time put back.

A job's id names its device and the hours of its two edges, and the queue drops a job whose id is
taken by one that waits.
-/

namespace Orbetra

open Eff

def recomputeGuardMs : Ms := 15 * 60000

/-! ## The queue -/

structure RecomputeJob where
  deviceId : DeviceId
  fromTime : Ms
  toTime : Ms
  deriving DecidableEq

/-- `toISOString().slice(0, 13)`: the hour of a time. -/
def hourOf (t : Ms) : ℤ := t / 3600000

/-- `jobId`. -/
def RecomputeJob.jobId (job : RecomputeJob) : DeviceId × ℤ × ℤ :=
  (job.deviceId, hourOf job.fromTime, hourOf job.toTime)

/-- The queue `trip-recompute`: the jobs that wait, and all that were ever taken in. -/
structure RecomputeQueue where
  waiting : List RecomputeJob
  accepted : List RecomputeJob
  deriving DecidableEq

def RecomputeQueue.add (q : RecomputeQueue) (job : RecomputeJob) : RecomputeQueue :=
  if q.waiting.any (·.jobId = job.jobId) then q
  else ⟨q.waiting ++ [job], q.accepted ++ [job]⟩

def RecomputeQueue.finish (q : RecomputeQueue) (finished : RecomputeJob → Bool) : RecomputeQueue :=
  { q with waiting := q.waiting.filter fun job => !finished job }

/-! ## The span of a batch -/

namespace TripEvent

def deviceId : TripEvent → DeviceId
  | .opened ev => ev.deviceId
  | .closed ev => ev.deviceId

def startTime : TripEvent → Ms
  | .opened ev => ev.startTime
  | .closed ev => ev.startTime

/-- `ev.type === 'close' ? ev.endTime : ev.startTime` -/
def endTime : TripEvent → Ms
  | .opened ev => ev.startTime
  | .closed ev => ev.endTime

end TripEvent

structure BatchSpan where
  deviceId : DeviceId
  first : Ms
  last : Ms
  deriving DecidableEq

def BatchSpan.widen (sp : BatchSpan) (ev : TripEvent) : BatchSpan :=
  { sp with
    first := if ev.startTime < sp.first then ev.startTime else sp.first
    last := if sp.last < ev.endTime then ev.endTime else sp.last }

def addToSpans (spans : List BatchSpan) (ev : TripEvent) : List BatchSpan :=
  if spans.any (·.deviceId = ev.deviceId) then
    spans.map fun sp => if sp.deviceId = ev.deviceId then sp.widen ev else sp
  else spans ++ [⟨ev.deviceId, ev.startTime, ev.endTime⟩]

def batchSpans (events : List TripEvent) : List BatchSpan := events.foldl addToSpans []

def BatchSpan.job (sp : BatchSpan) : RecomputeJob where
  deviceId := sp.deviceId
  fromTime := sp.first
  toTime := sp.last + recomputeGuardMs

/-! ## The programs -/

structure TripWorker where
  engine : TripEngine
  store : TripStore
  pendingCompensation : List RecomputeJob
  queue : RecomputeQueue

/-- What the environment decides about the calls of one batch. -/
structure TripReplies where
  /-- The calls of `apply`, in order. -/
  apply : ℕ → Reply
  /-- The jobs that compensate for the batch. -/
  compensate : RecomputeJob → Reply
  /-- The jobs parked by an earlier batch. -/
  retry : RecomputeJob → Reply
  /-- The jobs for late records. -/
  drain : RecomputeJob → Reply

def enqueueRecompute (reply : Reply) (job : RecomputeJob) : Eff CallError TripWorker Unit :=
  call reply .refused fun w => { w with queue := w.queue.add job }

/-- Park a job; the widest window of its device wins. -/
def park (pending : List RecomputeJob) (job : RecomputeJob) : List RecomputeJob :=
  if pending.any (·.deviceId = job.deviceId) then
    pending.map fun prev =>
      if prev.deviceId = job.deviceId then
        { prev with
          fromTime := if prev.fromTime < job.fromTime then prev.fromTime else job.fromTime
          toTime := if job.toTime < prev.toTime then prev.toTime else job.toTime }
      else prev
  else pending ++ [job]

/-- Ask for the recompute of a batch, device by device. -/
def compensate (f : TripReplies) : List BatchSpan → Eff CallError TripWorker Unit
  | [] => pure ()
  | sp :: spans => do
    attempt (enqueueRecompute (f.compensate sp.job) sp.job) fun _ =>
      modify fun w => { w with pendingCompensation := park w.pendingCompensation sp.job }
    compensate f spans

def feedTrips (haversineM : Haversine) (configFor : DeviceId → DeviceTripConfig)
    (records : List NormalizedRecord) : Eff CallError TripWorker (List TripEvent) := fun w =>
  let fed := w.engine.feed haversineM configFor records
  .done fed.2 { w with engine := fed.1 }

/-- What `apply` works on, with the calls of this batch still to come. -/
def TripWorker.newCalls (w : TripWorker) : TripStore := { w.store with calls := 0 }

def applyTrips (src : TripSources) (f : TripReplies) (shard : ℕ) (events : List TripEvent) :
    Eff CallError TripWorker ApplyCounts :=
  zoom TripWorker.newCalls (fun store w => { w with store := store })
    (TripPersister.apply src f.apply shard events)

/-- Apply the events of the batch; where that fails, compensate. -/
def persistTrips (src : TripSources) (f : TripReplies) (shard : ℕ) (events : List TripEvent) :
    Eff CallError TripWorker Unit :=
  when (events ≠ []) <|
    attempt
      (do
        let _ ← applyTrips src f shard events
        pure ())
      fun _ => compensate f (batchSpans events)

def retryCompensation (f : TripReplies) : List RecomputeJob → Eff CallError TripWorker Unit
  | [] => pure ()
  | job :: jobs => do
    attempt
      (do
        enqueueRecompute (f.retry job) job
        modify fun w => { w with
          pendingCompensation := w.pendingCompensation.filter (·.deviceId ≠ job.deviceId) })
      fun _ => pure ()
    retryCompensation f jobs

/-- The job for a device that sent a record too late: deferred where the record is recent. -/
def lateJob (now : Ms) (deviceId : DeviceId) (fromTime : Ms) : RecomputeJob :=
  let settledTo := now - recomputeGuardMs
  if settledTo ≤ fromTime then ⟨deviceId, fromTime, fromTime + recomputeGuardMs⟩
  else ⟨deviceId, fromTime, settledTo⟩

/-- Enqueue a job for each late device; a late time whose job is refused is put back. -/
def drainLate (f : TripReplies) (now : Ms) : List (DeviceId × Ms) → Eff CallError TripWorker Unit
  | [] => pure ()
  | (deviceId, fromTime) :: late => do
    let job := lateJob now deviceId fromTime
    attempt (enqueueRecompute (f.drain job) job) fun _ =>
      modify fun w => { w with engine := w.engine.markLate deviceId fromTime }
    drainLate f now late

/-- The end of a batch: the parked jobs, and the late times. -/
def reconcileTrips (f : TripReplies) (now : Ms) : Eff CallError TripWorker Unit := do
  let w ← get
  retryCompensation f w.pendingCompensation
  let w ← get
  let taken := w.engine.takeLate
  modify fun w => { w with engine := taken.1 }
  drainLate f now taken.2

def tripBatch (haversineM : Haversine) (src : TripSources) (f : TripReplies) (shard : ℕ) (now : Ms)
    (configFor : DeviceId → DeviceTripConfig) (records : List NormalizedRecord) :
    Eff CallError TripWorker Unit := do
  let events ← feedTrips haversineM configFor records
  persistTrips src f shard events
  reconcileTrips f now

end Orbetra
