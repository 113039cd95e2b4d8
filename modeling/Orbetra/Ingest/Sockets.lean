import Orbetra.Framework.Machine
import Orbetra.Framework.Tally
import Orbetra.Framework.Update

/-!
# The sockets of the ingest

`createIngestServer` of `server.ts` and the life of a `Session` of `session.ts`: accepting a socket,
the handshake, the frames of a chunk, the pause of a socket whose shard is behind and the poll that
ends it, the timers, `destroy` and `close`.  A move is one turn of the event loop.  Whatever a
session awaits is a `Point` in its state, and other turns may come before the answer does.

No turn looks at whether its socket has emitted `close`, which it does once: what a turn does to a
session after that is left as it is.  `maybeBackpressure` counts such a socket as paused for good,
and `handleImei` leaves it in the table of live sessions. -/

namespace Orbetra.Sockets

open Function Option

open Tally (tally tally_update tally_insert)

abbrev Imei := String

abbrev Ip := String

/-! ## Sessions -/

structure Config where
  maxConn : ℕ
  maxConnPerIp : ℕ
  pauseAboveDepth : ℕ

/-- What `parse` makes of a frame. -/
inductive Frame
  /-- The frame of the handshake; `none` is one that cannot be parsed. -/
  | imei (imei : Option Imei)
  | avl
  | cmdResponse
  | undecodable
  /-- `CrcError` or `FrameError` -/
  | corrupt
  /-- Any other error. -/
  | fault
  deriving DecidableEq

/-- What `feed` makes of a chunk; `none` is an error. -/
abbrev Chunk := Option (List Frame)

/-- Where the processing of a chunk waits. -/
inductive Point
  | lookup (imei : Imei)
  | quarantine
  | recheck
  | persist
  | park
  | respond
  | probe
  | lpop (turns : ℕ)
  | record (turns : ℕ)
  deriving DecidableEq

structure Session where
  ip : Ip
  /-- The IMEI, once the session is `STREAMING`. -/
  imei : Option Imei
  paused : Bool
  timer : Bool
  /-- The chunks that are still to be processed. -/
  queue : List Chunk
  /-- Where the chunk that is processed waits, and the frames that follow. -/
  work : Option (Point × List Frame)
  /-- The ticks of `pollForDrain` whose timers run, and those that await the depth. -/
  waiting : ℕ
  probing : ℕ
  /-- `socket.destroyed` and `socket.writableEnded` -/
  destroyed : Bool
  ended : Bool
  /-- The socket has emitted `close`. -/
  closed : Bool
  /-- The listeners of `onAuthenticated`. -/
  onClose : List Imei
  deriving DecidableEq

/-- The session of a socket that was accepted. -/
def Session.fresh (ip : Ip) : Session where
  ip := ip
  imei := none
  paused := false
  timer := true
  queue := []
  work := none
  waiting := 0
  probing := 0
  destroyed := false
  ended := false
  closed := false
  onClose := []

/-- No timer runs, nothing is to be processed, and no answer is awaited. -/
def Session.Idle (x : Session) : Prop :=
  x.timer = false ∧ x.queue = [] ∧ x.work = none ∧ x.waiting = 0 ∧ x.probing = 0

instance (x : Session) : Decidable x.Idle := by unfold Session.Idle; infer_instance

structure Server (ι : Type) where
  /-- The sockets that were accepted. -/
  accepted : Finset ι
  sessions : ι → Session
  /-- `metrics.pausedSockets` -/
  pausedSockets : ℤ
  liveByImei : Imei → Option ι
  connections : ℤ
  /-- The counts of the limiter; none is zero. -/
  perIp : Ip → ℕ

variable {ι : Type} [DecidableEq ι]

namespace Server

/-- Before the first connection. -/
def initial : Server ι where
  accepted := ∅
  sessions := fun _ => .fresh ""
  pausedSockets := 0
  liveByImei := fun _ => none
  connections := 0
  perIp := fun _ => 0

def onSession (s : Server ι) (i : ι) (f : Session → Session) : Server ι :=
  { s with sessions := update s.sessions i (f (s.sessions i)) }

def releasePaused (s : Server ι) (i : ι) : Server ι :=
  if (s.sessions i).paused then
    { s.onSession i (fun x => { x with timer := false, paused := false }) with
      pausedSockets := s.pausedSockets - 1 }
  else s.onSession i fun x => { x with timer := false }

def destroy (s : Server ι) (i : ι) : Server ι :=
  (s.releasePaused i).onSession i fun x => { x with destroyed := true }

/-- `onAuthenticated` -/
def onAuthenticated (s : Server ι) (imei : Imei) (i : ι) : Server ι :=
  let s := match s.liveByImei imei with
    | some prior => if prior ≠ i then s.destroy prior else s
    | none => s
  { s.onSession i (fun x => { x with onClose := x.onClose ++ [imei] }) with
    liveByImei := update s.liveByImei imei (some i) }

def accept (s : Server ι) (i : ι) (ip : Ip) : Server ι :=
  { s with
    accepted := insert i s.accepted
    sessions := update s.sessions i (.fresh ip)
    connections := s.connections + 1
    perIp := update s.perIp ip (s.perIp ip + 1) }

/-- The listener of `onAuthenticated`: the entry is deleted if it is still that of the session. -/
def forget (i : ι) (live : Imei → Option ι) (imei : Imei) : Imei → Option ι :=
  if live imei = some i then update live imei none else live

/-- `close`: the listeners in the order in which they were added. -/
def close (s : Server ι) (i : ι) : Server ι :=
  let ip := (s.sessions i).ip
  let released := { s with
    connections := s.connections - 1
    perIp := update s.perIp ip (s.perIp ip - 1) }.releasePaused i
  { released.onSession i (fun x => { x with closed := true }) with
    liveByImei := (s.sessions i).onClose.foldl (forget i) s.liveByImei }

/-! ## The processing of a chunk -/

def awaits (s : Server ι) (i : ι) (point : Point) (rest : List Frame) : Server ι :=
  s.onSession i fun x => { x with work := some (point, rest) }

/-- What is awaited is there. -/
def arrived (s : Server ι) (i : ι) : Server ι := s.onSession i fun x => { x with work := none }

/-- The processing of a chunk throws, or comes to `destroy` and returns. -/
def fails (s : Server ι) (i : ι) : Server ι :=
  (s.destroy i).onSession i fun x => { x with work := none }

end Server

/-- What the frames of a chunk come to. -/
inductive Outcome
  | awaits (point : Point) (rest : List Frame)
  | finished
  | fails
  deriving DecidableEq

/-- The frames of a chunk, up to the next `await`. -/
def upTo (streaming : Bool) : List Frame → Outcome
  | [] => .finished
  | frame :: rest =>
    match streaming, frame with
    | false, .imei (some imei) => .awaits (.lookup imei) rest
    | false, _ => .fails
    | true, .avl => .awaits .recheck rest
    | true, .cmdResponse => .awaits .respond rest
    | true, .undecodable => .awaits .park rest
    | true, .fault => .fails
    | true, .corrupt | true, .imei _ => upTo streaming rest

namespace Server

/-- The loop of `onData`, on the frames that are left. -/
def frames (s : Server ι) (i : ι) (rest : List Frame) : Server ι :=
  match upTo (s.sessions i).imei.isSome rest with
  | .awaits point rest => s.awaits i point rest
  | .finished => s.onSession i fun x => { x with work := none, timer := x.timer || x.imei.isSome }
  | .fails => s.fails i

/-- A frame is done: `if (this.socket.destroyed) return`. -/
def next (s : Server ι) (i : ι) (rest : List Frame) : Server ι :=
  if (s.sessions i).destroyed then s.onSession i fun x => { x with work := none }
  else s.frames i rest

def drainPending (s : Server ι) (i : ι) (turns : ℕ) (rest : List Frame) : Server ι :=
  match turns with
  | 0 => s.next i rest
  | turns + 1 =>
    if (s.sessions i).destroyed || (s.sessions i).ended then s.next i rest
    else s.awaits i (.lpop turns) rest

def maybeBackpressure (s : Server ι) (config : Config) (i : ι) (depth : ℕ) : Server ι :=
  if config.pauseAboveDepth < depth ∧ (s.sessions i).paused = false then
    { s.onSession i (fun x => { x with paused := true, waiting := x.waiting + 1 }) with
      pausedSockets := s.pausedSockets + 1 }
  else s

/-- `handleImei`, when a device was found. -/
def authenticate (s : Server ι) (i : ι) (imei : Imei) : Server ι :=
  (s.onSession i fun x => { x with imei := some imei }).onAuthenticated imei i

end Server

/-- What `lpop` brings. -/
inductive Popped
  | empty
  /-- An entry that is malformed, expired or too long. -/
  | skipped
  | command
  deriving DecidableEq

/-- What is awaited. -/
inductive Answer
  | failed
  | device (found : Bool)
  | rejects (count : ℕ)
  | mapped (same : Bool)
  | stored
  | depth (depth : ℕ)
  | popped (entry : Popped)
  deriving DecidableEq

namespace Server

/-- The processing of a chunk goes on. -/
def answer (s : Server ι) (config : Config) (i : ι) (rest : List Frame) :
    Point → Answer → Option (Server ι)
  | _, .failed => some (s.fails i)
  | .lookup imei, .device true =>
    some (((s.authenticate i imei).onSession i fun x => { x with timer := true }).drainPending
      i 16 rest)
  | .lookup _, .device false => some (s.awaits i .quarantine rest)
  | .quarantine, .rejects count =>
    if 3 ≤ count then some ((s.destroy i).next i rest)
    else some ((s.onSession i fun x => { x with ended := true }).next i rest)
  | .recheck, .mapped true => some (s.awaits i .persist rest)
  | .recheck, .mapped false =>
      some ((s.onSession i fun x => { x with destroyed := true }).next i rest)
  | .persist, .stored | .park, .stored => some (s.awaits i .probe rest)
  | .respond, .stored => some (s.next i rest)
  | .probe, .depth depth => some ((s.maybeBackpressure config i depth).drainPending i 16 rest)
  | .lpop _, .popped .empty => some (s.next i rest)
  | .lpop turns, .popped .skipped => some (s.drainPending i turns rest)
  | .lpop turns, .popped .command => some (s.awaits i (.record turns) rest)
  | .record turns, .stored => some (s.drainPending i turns rest)
  | _, _ => none

/-- `onData` begins. -/
def onData (s : Server ι) (i : ι) (chunk : Chunk) : Server ι :=
  if (s.sessions i).destroyed then s
  else match chunk with
    | none => s.fails i
    | some [] => s
    | some (frame :: rest) => s.frames i (frame :: rest)

/-- A tick of `pollForDrain` begins. -/
def tick (s : Server ι) (i : ι) : Server ι :=
  if (s.sessions i).destroyed then s.onSession i fun x => { x with waiting := x.waiting - 1 }
  else s.onSession i fun x => { x with waiting := x.waiting - 1, probing := x.probing + 1 }

/-- A tick of `pollForDrain` has the depth; `none` is a probe that failed. -/
def ticked (s : Server ι) (config : Config) (i : ι) (depth : Option ℕ) : Server ι :=
  if (s.sessions i).destroyed || !(s.sessions i).paused then
    s.onSession i fun x => { x with probing := x.probing - 1 }
  else if depth.any (· ≤ config.pauseAboveDepth) then
    { s.onSession i (fun x => { x with probing := x.probing - 1, paused := false }) with
      pausedSockets := s.pausedSockets - 1 }
  else s.onSession i fun x => { x with probing := x.probing - 1, waiting := x.waiting + 1 }

end Server

/-! ## Turns -/

/-- One turn of the event loop. -/
inductive Move (ι : Type)
  /-- A connection, and whether the handshake limiter lets it in. -/
  | connect (i : ι) (ip : Ip) (allowed : Bool)
  | data (i : ι) (chunk : Chunk)
  /-- The next chunk is processed. -/
  | begin (i : ι)
  | answer (i : ι) (answer : Answer)
  | tick (i : ι)
  | ticked (i : ι) (depth : Option ℕ)
  | timeout (i : ι)
  | error (i : ι)
  /-- Both sides have ended, and the runtime destroys the socket. -/
  | gone (i : ι)
  | close (i : ι)
  deriving DecidableEq

/-- One turn; `none` is a turn that cannot come. -/
def step (config : Config) (s : Server ι) : Move ι → Option (Server ι)
  | .connect i ip allowed =>
    if i ∈ s.accepted then none
    else if (config.maxConn : ℤ) ≤ s.connections ∨ allowed = false ∨
        config.maxConnPerIp ≤ s.perIp ip then
      some s
    else some (s.accept i ip)
  | .data i chunk =>
    if i ∈ s.accepted ∧ (s.sessions i).destroyed = false then
      some (s.onSession i fun x => { x with queue := x.queue ++ [chunk] })
    else none
  | .begin i =>
    match (s.sessions i).work, (s.sessions i).queue with
    | none, chunk :: queue =>
      if i ∈ s.accepted then
        some ((s.onSession i fun x => { x with queue := queue }).onData i chunk)
      else none
    | _, _ => none
  | .answer i answer =>
    match (s.sessions i).work with
    | some (point, rest) =>
      if i ∈ s.accepted then (s.arrived i).answer config i rest point answer else none
    | none => none
  | .tick i =>
    if i ∈ s.accepted ∧ 0 < (s.sessions i).waiting then some (s.tick i) else none
  | .ticked i depth =>
    if i ∈ s.accepted ∧ 0 < (s.sessions i).probing then some (s.ticked config i depth) else none
  | .timeout i =>
    if i ∈ s.accepted ∧ (s.sessions i).timer = true then some (s.destroy i) else none
  | .error i =>
    if i ∈ s.accepted ∧ (s.sessions i).closed = false then some (s.destroy i) else none
  | .gone i =>
    if i ∈ s.accepted then some (s.onSession i fun x => { x with destroyed := true }) else none
  | .close i =>
    if i ∈ s.accepted ∧ (s.sessions i).destroyed = true ∧ (s.sessions i).closed = false then
      some (s.close i)
    else none

/-! ## Turns that neither accept, authenticate nor close -/

def pausedWeight (x : Session) : ℤ := if x.paused then 1 else 0

def Session.Handshakes (x : Session) : Prop :=
  ∀ imei rest, x.work = some (.lookup imei, rest) → x.imei = none

/-- What such a turn does to a session; `late` is whether it may pause one that has closed. -/
structure Quiet (late : Prop) (x y : Session) : Prop where
  ip : y.ip = x.ip
  imei : y.imei = x.imei
  closed : y.closed = x.closed
  onClose : y.onClose = x.onClose
  destroyed : x.destroyed = true → y.destroyed = true
  handshakes : x.Handshakes → y.Handshakes
  paused : late ∨ (x.closed = true → y.paused = true → x.paused = true)

/-- What such a turn does to the server. -/
structure Calm (late : Prop) (s s' : Server ι) : Prop where
  accepted : s'.accepted = s.accepted
  liveByImei : s'.liveByImei = s.liveByImei
  connections : s'.connections = s.connections
  perIp : s'.perIp = s.perIp
  quiet : ∀ j, Quiet late (s.sessions j) (s'.sessions j)
  gauge : s'.pausedSockets - tally s.accepted pausedWeight s'.sessions =
    s.pausedSockets - tally s.accepted pausedWeight s.sessions

variable {late : Prop} {s s' s'' : Server ι} {i : ι}

omit [DecidableEq ι] in
lemma Quiet.refl (x : Session) : Quiet late x x := ⟨rfl, rfl, rfl, rfl, id, id, .inr fun _ => id⟩

variable {x : Session} {rest : List Frame} {imei : Imei}

lemma Quiet.trans {y z : Session} (h : Quiet late x y) (h' : Quiet late y z) : Quiet late x z where
  ip := h'.ip.trans h.ip
  imei := h'.imei.trans h.imei
  closed := h'.closed.trans h.closed
  onClose := h'.onClose.trans h.onClose
  destroyed := h'.destroyed ∘ h.destroyed
  handshakes := h'.handshakes ∘ h.handshakes
  paused := by
    rcases h.paused with hlate | hxy
    · exact .inl hlate
    · refine h'.paused.imp_right fun hyz hclosed hpaused => hxy hclosed (hyz ?_ hpaused)
      rw [h.closed]
      exact hclosed

namespace Calm

omit [DecidableEq ι] in
lemma refl (s : Server ι) : Calm late s s := ⟨rfl, rfl, rfl, rfl, fun _ => .refl _, rfl⟩

omit [DecidableEq ι] in
lemma trans (h : Calm late s s') (h' : Calm late s' s'') : Calm late s s'' where
  accepted := h'.accepted.trans h.accepted
  liveByImei := h'.liveByImei.trans h.liveByImei
  connections := h'.connections.trans h.connections
  perIp := h'.perIp.trans h.perIp
  quiet j := (h.quiet j).trans (h'.quiet j)
  gauge := by
    have hgauge := h'.gauge
    rw [h.accepted] at hgauge
    exact hgauge.trans h.gauge

lemma update {x : Session} {gauge : ℤ} (hi : i ∈ s.accepted) (hquiet : Quiet late (s.sessions i) x)
    (hgauge : gauge = s.pausedSockets + (pausedWeight x - pausedWeight (s.sessions i))) :
    Calm late s { s with sessions := update s.sessions i x, pausedSockets := gauge } where
  accepted := rfl
  liveByImei := rfl
  connections := rfl
  perIp := rfl
  quiet j := by
    by_cases hj : j = i
    · subst hj
      show Quiet late _ (update s.sessions j x j)
      rw [update_self]
      exact hquiet
    · show Quiet late _ (Function.update s.sessions i x j)
      rw [Function.update_of_ne hj]
      exact .refl _
  gauge := by
    show gauge - tally s.accepted pausedWeight (Function.update s.sessions i x) = _
    rw [tally_update hi, hgauge]
    omega

lemma onSession {f : Session → Session} (hi : i ∈ s.accepted)
    (hquiet : Quiet late (s.sessions i) (f (s.sessions i)))
    (hpaused : (f (s.sessions i)).paused = (s.sessions i).paused) :
    Calm late s (s.onSession i f) := by
  refine update hi hquiet ?_
  rw [pausedWeight, pausedWeight, hpaused]
  omega

end Calm

lemma upTo_lookup {streaming : Bool} {frames : List Frame}
    (h : upTo streaming frames = .awaits (.lookup imei) rest) : ¬streaming = true := by
  rintro rfl
  induction frames with
  | nil => cases h
  | cons frame frames ih =>
    cases frame with
    | imei _ => exact ih h
    | corrupt => exact ih h
    | avl => cases h
    | cmdResponse => cases h
    | undecodable => cases h
    | fault => cases h

section Turns

variable (hi : i ∈ s.accepted)

include hi

lemma calm_releasePaused : Calm late s (s.releasePaused i) := by
  unfold Server.releasePaused
  split
  · rename_i hpaused
    refine Calm.update hi ⟨rfl, rfl, rfl, rfl, id, id, .inr fun _ h => (nomatch h)⟩ ?_
    rw [pausedWeight, pausedWeight, if_pos hpaused]
    rfl
  · exact .onSession hi ⟨rfl, rfl, rfl, rfl, id, id, .inr fun _ => id⟩ rfl

lemma calm_destroy : Calm late s (s.destroy i) := by
  have hrelease : Calm late s (s.releasePaused i) := calm_releasePaused hi
  refine hrelease.trans (.onSession (hrelease.accepted ▸ hi) ?_ rfl)
  exact ⟨rfl, rfl, rfl, rfl, fun _ => rfl, id, .inr fun _ => id⟩

lemma calm_fails : Calm late s (s.fails i) := by
  have hdestroy : Calm late s (s.destroy i) := calm_destroy hi
  refine hdestroy.trans (.onSession (hdestroy.accepted ▸ hi) ?_ rfl)
  exact ⟨rfl, rfl, rfl, rfl, id, fun _ _ _ h => (nomatch h), .inr fun _ => id⟩

variable {rest : List Frame} {config : Config}

lemma calm_awaits {point : Point}
    (hpoint : ∀ imei, point = .lookup imei → (s.sessions i).imei = none) :
    Calm late s (s.awaits i point rest) := by
  refine .onSession hi ⟨rfl, rfl, rfl, rfl, id, fun _ imei rest' h => ?_, .inr fun _ => id⟩ rfl
  exact hpoint imei (Prod.mk.inj (some.inj h)).1

lemma calm_frames : Calm late s (s.frames i rest) := by
  unfold Server.frames
  split
  · rename_i point rest' houtcome
    refine calm_awaits hi fun imei hpoint => ?_
    rw [hpoint] at houtcome
    exact not_isSome_iff_eq_none.mp (upTo_lookup houtcome)
  · exact .onSession hi ⟨rfl, rfl, rfl, rfl, id, fun _ _ _ h => (nomatch h), .inr fun _ => id⟩ rfl
  · exact calm_fails hi

lemma calm_next : Calm late s (s.next i rest) := by
  unfold Server.next
  split
  · exact .onSession hi ⟨rfl, rfl, rfl, rfl, id, fun _ _ _ h => (nomatch h), .inr fun _ => id⟩ rfl
  · exact calm_frames hi

lemma calm_drainPending {turns : ℕ} : Calm late s (s.drainPending i turns rest) := by
  cases turns with
  | zero => exact calm_next hi
  | succ turns =>
    show Calm late s (if (s.sessions i).destroyed || (s.sessions i).ended then s.next i rest
      else s.awaits i (.lpop turns) rest)
    split
    · exact calm_next hi
    · exact calm_awaits hi fun _ hpoint => nomatch hpoint

/-- The one turn that pauses a session. -/
lemma calm_maybeBackpressure {depth : ℕ}
    (hlate : late ∨ (config.pauseAboveDepth < depth → (s.sessions i).closed = false)) :
    Calm late s (s.maybeBackpressure config i depth) := by
  unfold Server.maybeBackpressure
  split
  · rename_i hpause
    refine Calm.update hi ⟨rfl, rfl, rfl, rfl, id, id, ?_⟩ ?_
    · refine hlate.imp_right fun hopen hclosed => ?_
      rw [hopen hpause.1] at hclosed
      exact absurd hclosed Bool.false_ne_true
    · have hweight : pausedWeight (s.sessions i) = 0 :=
        if_neg (by rw [hpause.2]; exact Bool.false_ne_true)
      rw [hweight]
      rfl
  · exact .refl s

lemma calm_onData {chunk : Chunk} : Calm late s (s.onData i chunk) := by
  unfold Server.onData
  split
  · exact .refl s
  · split
    · exact calm_fails hi
    · exact .refl s
    · exact calm_frames hi

lemma calm_tick : Calm late s (s.tick i) := by
  unfold Server.tick
  split
  · exact .onSession hi ⟨rfl, rfl, rfl, rfl, id, id, .inr fun _ => id⟩ rfl
  · exact .onSession hi ⟨rfl, rfl, rfl, rfl, id, id, .inr fun _ => id⟩ rfl

lemma calm_ticked {depth : Option ℕ} : Calm late s (s.ticked config i depth) := by
  unfold Server.ticked
  split
  · exact .onSession hi ⟨rfl, rfl, rfl, rfl, id, id, .inr fun _ => id⟩ rfl
  · rename_i hlive
    split
    · have hpaused : (s.sessions i).paused = true := by
        rw [Bool.or_eq_true, not_or, Bool.not_eq_true', Bool.not_eq_false] at hlive
        exact hlive.2
      refine Calm.update hi ⟨rfl, rfl, rfl, rfl, id, id, .inr fun _ h => (nomatch h)⟩ ?_
      rw [pausedWeight, pausedWeight, if_pos hpaused]
      rfl
    · exact .onSession hi ⟨rfl, rfl, rfl, rfl, id, id, .inr fun _ => id⟩ rfl

end Turns

/-! ## Authentication -/

/-- What authentication writes of the session itself. -/
def Server.register (s : Server ι) (i : ι) (imei : Imei) : Server ι :=
  { s.onSession i (fun x => { x with imei := some imei, onClose := x.onClose ++ [imei] }) with
    liveByImei := update s.liveByImei imei (some i) }

/-- The session that `destroy` leaves. -/
def Session.dead (x : Session) : Session :=
  { x with timer := false, paused := false, destroyed := true }

lemma destroy_eq : s.destroy i =
    { s with
      sessions := update s.sessions i (s.sessions i).dead
      pausedSockets := s.pausedSockets - pausedWeight (s.sessions i) } := by
  unfold Server.destroy Server.releasePaused pausedWeight Session.dead
  cases hpaused : (s.sessions i).paused with
  | false => simp [Server.onSession, hpaused]
  | true => simp [Server.onSession]

variable {imei : Imei}

lemma authenticate_alone (h : ∀ prior, s.liveByImei imei = some prior → prior = i) :
    s.authenticate i imei = s.register i imei := by
  have hsame : (match s.liveByImei imei with
      | some prior => if prior ≠ i then
          (s.onSession i fun x => { x with imei := some imei }).destroy prior
        else s.onSession i fun x => { x with imei := some imei }
      | none => s.onSession i fun x => { x with imei := some imei }) =
      s.onSession i fun x => { x with imei := some imei } := by
    split
    · rename_i prior hprior
      rw [if_neg (not_not.mpr (h prior hprior))]
    · rfl
  unfold Server.authenticate Server.onAuthenticated
  dsimp only [Server.onSession] at hsame ⊢
  rw [hsame]
  simp [Server.register, Server.onSession]

variable {prior : ι}

lemma authenticate_after (hprior : s.liveByImei imei = some prior) (hne : prior ≠ i) :
    s.authenticate i imei = (s.register i imei).destroy prior := by
  unfold Server.authenticate Server.onAuthenticated
  simp only [Server.onSession, hprior, if_pos hne, destroy_eq, Server.register]
  simp [update_of_ne hne, update_of_ne hne.symm, update_comm hne]

lemma authenticate_prior (hprior : s.liveByImei imei = some prior) (hne : prior ≠ i) :
    ((s.authenticate i imei).sessions prior).destroyed = true := by
  rw [authenticate_after hprior hne, destroy_eq]
  show (update (s.register i imei).sessions prior _ prior).destroyed = true
  rw [update_self]
  rfl

/-- Once the session is registered, nothing else is done but to destroy the one before it. -/
lemma calm_authenticate (hknown : ∀ imei i, s.liveByImei imei = some i → i ∈ s.accepted) :
    Calm late (s.register i imei) (s.authenticate i imei) := by
  by_cases hother : ∃ prior, s.liveByImei imei = some prior ∧ prior ≠ i
  · obtain ⟨prior, hprior, hne⟩ := hother
    rw [authenticate_after hprior hne]
    exact calm_destroy (hknown imei prior hprior)
  · have halone : ∀ prior, s.liveByImei imei = some prior → prior = i := fun prior hprior =>
      not_not.mp fun hne => hother ⟨prior, hprior, hne⟩
    rw [authenticate_alone halone]
    exact .refl _

/-! ## Every turn -/

variable {stale : Prop} {config : Config}

/-- The depth that a turn brings to `maybeBackpressure`. -/
def Move.probed : Move ι → Option (ι × ℕ)
  | .answer i (.depth depth) => some (i, depth)
  | _ => none

/-- The session whose lookup of the handshake finds a device. -/
def Move.found : Move ι → Option ι
  | .answer i (.device true) => some i
  | _ => none

/-- A probe of `maybeBackpressure` that finds the shard behind is answered before its socket has
emitted `close`. -/
def ProbesInTime (config : Config) (s : Server ι) (move : Move ι) : Prop :=
  ∀ p ∈ move.probed, config.pauseAboveDepth < p.2 → (s.sessions p.1).closed = false

/-- A lookup of the handshake that finds a device is answered before its socket has emitted `close`.
-/
def LookupsInTime (s : Server ι) (move : Move ι) : Prop :=
  ∀ i ∈ move.found, (s.sessions i).closed = false

instance (s : Server ι) (move : Move ι) : Decidable (ProbesInTime config s move) := by
  unfold ProbesInTime; infer_instance

instance (s : Server ι) (move : Move ι) : Decidable (LookupsInTime s move) := by
  unfold LookupsInTime; infer_instance

/-- What a turn can do; `stale` is whether it may authenticate a session that has closed. -/
inductive Turn (late stale : Prop) (s : Server ι) : Server ι → Prop
  | calm {s' : Server ι} (h : Calm late s s') : Turn late stale s s'
  | accept (i : ι) (ip : Ip) (hi : i ∉ s.accepted) : Turn late stale s (s.accept i ip)
  | authenticate {s' : Server ι} (i : ι) (imei : Imei) (hi : i ∈ s.accepted)
      (himei : (s.sessions i).imei = none) (hopen : stale ∨ (s.sessions i).closed = false)
      (hprior : ∀ prior, s.liveByImei imei = some prior → prior ≠ i →
        (s'.sessions prior).destroyed = true)
      (h : Calm late ((s.arrived i).register i imei) s') : Turn late stale s s'
  | close (i : ι) (hi : i ∈ s.accepted) (hdestroyed : (s.sessions i).destroyed = true)
      (hopen : (s.sessions i).closed = false) : Turn late stale s (s.close i)

variable {a : Answer}

lemma answer_cases {point : Point} (hi : i ∈ s.accepted)
    (hknown : ∀ imei i, s.liveByImei imei = some i → i ∈ s.accepted)
    (hlate : late ∨ ProbesInTime config s (.answer i a))
    (h : s.answer config i rest point a = some s') :
    Calm late s s' ∨ ∃ imei, point = .lookup imei ∧ a = .device true ∧
      Calm late (s.register i imei) s' ∧
        ∀ prior, s.liveByImei imei = some prior → prior ≠ i →
          (s'.sessions prior).destroyed = true := by
  unfold Server.answer at h
  split at h
  case h_1 => exact .inl (some.inj h ▸ calm_fails hi)
  case h_2 imei =>
    have hcalm : Calm late (s.register i imei) (s.authenticate i imei) := calm_authenticate hknown
    have hi' : i ∈ (s.authenticate i imei).accepted := hcalm.accepted ▸ hi
    have hrest : Calm late (s.authenticate i imei) s' := by
      refine some.inj h ▸ Calm.trans (.onSession hi' ?_ ?_) (calm_drainPending ?_)
      · exact ⟨rfl, rfl, rfl, rfl, id, id, .inr fun _ => id⟩
      · rfl
      · exact hi'
    exact .inr ⟨imei, rfl, rfl, hcalm.trans hrest, fun prior hprior hne =>
      (hrest.quiet prior).destroyed (authenticate_prior hprior hne)⟩
  case h_3 => exact .inl (some.inj h ▸ calm_awaits hi fun _ hpoint => nomatch hpoint)
  case h_4 count =>
    split at h
    · have hdestroy : Calm late s (s.destroy i) := calm_destroy hi
      exact .inl (some.inj h ▸ hdestroy.trans (calm_next (hdestroy.accepted ▸ hi)))
    · refine .inl (some.inj h ▸ Calm.trans (.onSession hi ?_ ?_) (calm_next ?_))
      · exact ⟨rfl, rfl, rfl, rfl, id, id, .inr fun _ => id⟩
      · rfl
      · exact hi
  case h_5 => exact .inl (some.inj h ▸ calm_awaits hi fun _ hpoint => nomatch hpoint)
  case h_6 =>
    refine .inl (some.inj h ▸ Calm.trans (.onSession hi ?_ ?_) (calm_next ?_))
    · exact ⟨rfl, rfl, rfl, rfl, fun _ => rfl, id, .inr fun _ => id⟩
    · rfl
    · exact hi
  case h_7 => exact .inl (some.inj h ▸ calm_awaits hi fun _ hpoint => nomatch hpoint)
  case h_8 => exact .inl (some.inj h ▸ calm_awaits hi fun _ hpoint => nomatch hpoint)
  case h_9 => exact .inl (some.inj h ▸ calm_next hi)
  case h_10 depth =>
    have hpause : Calm late s (s.maybeBackpressure config i depth) := 
      calm_maybeBackpressure hi (hlate.imp_right fun hprobe => hprobe (i, depth) rfl)
    exact .inl (some.inj h ▸ hpause.trans (calm_drainPending (hpause.accepted ▸ hi)))
  case h_11 => exact .inl (some.inj h ▸ calm_next hi)
  case h_12 => exact .inl (some.inj h ▸ calm_drainPending hi)
  case h_13 => exact .inl (some.inj h ▸ calm_awaits hi fun _ hpoint => nomatch hpoint)
  case h_14 => exact .inl (some.inj h ▸ calm_drainPending hi)
  case h_15 => cases h

lemma arrived_self : (s.arrived i).sessions i = { s.sessions i with work := none } :=
  update_self _ _ _

lemma calm_arrived (hi : i ∈ s.accepted) : Calm late s (s.arrived i) :=
  .onSession hi ⟨rfl, rfl, rfl, rfl, id, fun _ _ _ h => (nomatch h), .inr fun _ => id⟩ rfl

lemma probesInTime_arrived (h : ProbesInTime config s (.answer i a)) :
    ProbesInTime config (s.arrived i) (.answer i a) := by
  intro p hp hdepth
  have hopen := h p hp hdepth
  by_cases hpi : p.1 = i
  · rw [hpi] at hopen ⊢
    rw [arrived_self]
    exact hopen
  · show (update s.sessions i _ p.1).closed = false
    rw [update_of_ne hpi]
    exact hopen

/-- **Every turn** is calm, or accepts a socket, authenticates a session or closes one. -/
lemma step_cases {move : Move ι} (hknown : ∀ imei i, s.liveByImei imei = some i → i ∈ s.accepted)
    (hhandshakes : ∀ i, (s.sessions i).Handshakes)
    (hlate : late ∨ ProbesInTime config s move) (hstale : stale ∨ LookupsInTime s move)
    (h : step config s move = some s') : Turn late stale s s' := by
  cases move with
  | connect i ip allowed =>
    simp only [step] at h
    split at h
    · cases h
    · rename_i hi
      split at h
      · exact some.inj h ▸ .calm (.refl s)
      · exact some.inj h ▸ .accept i ip hi
  | data i chunk =>
    simp only [step] at h
    split at h
    · rename_i hi
      refine some.inj h ▸ .calm (.onSession hi.1 ?_ rfl)
      exact ⟨rfl, rfl, rfl, rfl, id, id, .inr fun _ => id⟩
    · cases h
  | begin i =>
    simp only [step] at h
    split at h
    · split at h
      · rename_i hi
        refine some.inj h ▸ .calm (Calm.trans (.onSession hi ?_ ?_) (calm_onData ?_))
        · exact ⟨rfl, rfl, rfl, rfl, id, id, .inr fun _ => id⟩
        · rfl
        · exact hi
      · cases h
    · cases h
  | answer i a =>
    simp only [step] at h
    split at h
    · rename_i point rest hwork
      split at h
      · rename_i hi
        have hi' : i ∈ (s.arrived i).accepted := hi
        rcases answer_cases hi' hknown (hlate.imp_right probesInTime_arrived) h with
          hcalm | ⟨imei, rfl, rfl, hcalm, hprior⟩
        · exact .calm ((calm_arrived hi).trans hcalm)
        · exact .authenticate i imei hi (hhandshakes i imei rest hwork)
            (hstale.imp_right fun hfound => hfound i rfl) hprior hcalm
      · cases h
    · cases h
  | tick i =>
    simp only [step] at h
    split at h
    · rename_i hi
      exact some.inj h ▸ .calm (calm_tick hi.1)
    · cases h
  | ticked i depth =>
    simp only [step] at h
    split at h
    · rename_i hi
      exact some.inj h ▸ .calm (calm_ticked hi.1)
    · cases h
  | timeout i =>
    simp only [step] at h
    split at h
    · rename_i hi
      exact some.inj h ▸ .calm (calm_destroy hi.1)
    · cases h
  | error i =>
    simp only [step] at h
    split at h
    · rename_i hi
      exact some.inj h ▸ .calm (calm_destroy hi.1)
    · cases h
  | gone i =>
    simp only [step] at h
    split at h
    · rename_i hi
      refine some.inj h ▸ .calm (.onSession hi ?_ rfl)
      exact ⟨rfl, rfl, rfl, rfl, fun _ => rfl, id, .inr fun _ => id⟩
    · cases h
  | close i =>
    simp only [step] at h
    split at h
    · rename_i hi
      exact some.inj h ▸ .close i hi.1 hi.2.1 hi.2.2
    · cases h

/-! ## The table and the handshakes, whatever comes when -/

/-- The table knows accepted sessions only, and lookups are awaited in the handshake only. -/
structure Sound (s : Server ι) : Prop where
  known : ∀ imei i, s.liveByImei imei = some i → i ∈ s.accepted
  handshakes : ∀ i, (s.sessions i).Handshakes

omit [DecidableEq ι] in
lemma sound_initial : Sound (Server.initial : Server ι) :=
  ⟨fun _ _ h => (nomatch h), fun _ _ _ h => (nomatch h)⟩

variable {live : Imei → Option ι} {j : ι}

lemma of_forget {imei' : Imei} (h : Server.forget i live imei imei' = some j) :
    live imei' = some j := by
  unfold Server.forget at h
  split at h
  · exact (update_none_eq_some.1 h).2
  · exact h

lemma of_foldl_forget {imeis : List Imei} (h : imeis.foldl (Server.forget i) live imei = some j) :
    live imei = some j := by
  induction imeis generalizing live with
  | nil => exact h
  | cons _ _ ih => exact of_forget (ih h)

/-- The session that `close` leaves. -/
def Session.shut (x : Session) : Session :=
  { x with timer := false, paused := false, closed := true }

lemma close_eq : s.close i =
    { s with
      sessions := update s.sessions i (s.sessions i).shut
      pausedSockets := s.pausedSockets - pausedWeight (s.sessions i)
      liveByImei := (s.sessions i).onClose.foldl (Server.forget i) s.liveByImei
      connections := s.connections - 1
      perIp := update s.perIp (s.sessions i).ip (s.perIp (s.sessions i).ip - 1) } := by
  unfold Server.close Server.releasePaused pausedWeight Session.shut
  cases hpaused : (s.sessions i).paused with
  | false => simp [Server.onSession, hpaused]
  | true => simp [Server.onSession, hpaused]

lemma handshakes_update (h : ∀ j, (s.sessions j).Handshakes) (hx : x.Handshakes) (j : ι) :
    (update s.sessions i x j).Handshakes := by
  by_cases hj : j = i
  · subst hj
    rw [update_self]
    exact hx
  · rw [update_of_ne hj]
    exact h j

omit [DecidableEq ι] in
lemma Calm.sound (h : Calm late s s') (hs : Sound s) : Sound s' where
  known imei j hj := by
    rw [h.liveByImei] at hj
    rw [h.accepted]
    exact hs.known imei j hj
  handshakes j := (h.quiet j).handshakes (hs.handshakes j)

lemma Sound.register (h : Sound s) (hi : i ∈ s.accepted) :
    Sound ((s.arrived i).register i imei) where
  known imei' j hj := by
    obtain ⟨-, rfl⟩ | ⟨-, hj⟩ := update_some_eq_some.1 hj
    · exact hi
    · exact h.known imei' j hj
  handshakes := by
    refine handshakes_update (handshakes_update h.handshakes fun _ _ h => nomatch h) ?_
    rw [arrived_self]
    exact fun _ _ h => nomatch h

/-- **Every turn keeps the server sound.** -/
lemma Turn.sound (h : Turn late stale s s') (hs : Sound s) : Sound s' := by
  cases h with
  | calm h => exact h.sound hs
  | accept i ip hi =>
    refine ⟨fun imei j hj => Finset.mem_insert_of_mem (hs.known imei j hj), ?_⟩
    exact handshakes_update hs.handshakes fun _ _ h => nomatch h
  | authenticate i imei hi himei hopen hprior h => exact h.sound (hs.register hi)
  | close i hi hdestroyed hopen =>
    rw [close_eq]
    refine ⟨fun imei j hj => hs.known imei j (of_foldl_forget hj), ?_⟩
    exact handshakes_update hs.handshakes (hs.handshakes i)

end Orbetra.Sockets
