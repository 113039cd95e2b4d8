import Mathlib
import Orbetra.Framework.Machine

/-!
# The reconnecting socket

`LiveSocket` of `apps/web/src/lib/ws.ts`: a ticket is fetched, a socket is opened with it, and when
the socket closes or the ticket is refused a reconnect is scheduled.  Callers start and stop it; the
browser answers the ticket, fires the timers and reports the events of every socket there ever was,
in any order.

What the browser holds (the calls of `getTicket` under way, the timers, the sockets) is kept under
numbers that are given out one after another. -/

namespace Orbetra.LiveSocket

open Function

inductive ConnState
  | connecting
  | «open»
  | closed
  deriving DecidableEq

def SLOW_CONSUMER : ℕ := 4408

/-- Backoff exponent a slow-consumer cut starts from. -/
def SLOW_RETRY_FLOOR : ℕ := 4

structure Opts where
  baseDelayMs : ℚ
  maxDelayMs : ℚ
  stableAfterMs : ℕ

/-- The fields of a `LiveSocket`. -/
structure Self where
  ws : Option ℕ
  timer : Option ℕ
  stableTimer : Option ℕ
  attempts : ℕ
  stopped : Bool
  generation : ℕ
  deriving DecidableEq

/-- A scheduled `connect`. -/
structure Timer where
  gen : ℕ
  delay : ℚ
  deriving DecidableEq

/-- A timer that forgives the backoff of a socket. -/
structure StableTimer where
  socket : ℕ
  gen : ℕ
  due : ℕ
  deriving DecidableEq

/-- A socket with the variables its handlers have captured.  It is open from `openedAt` until its
`close` is reported. -/
structure Socket where
  gen : ℕ
  /-- The call of `getTicket` whose ticket it was opened with. -/
  ticket : ℕ
  /-- `close` has been called. -/
  closing : Bool
  openedAt : Option ℕ
  /-- Its `close` has been reported. -/
  settled : Bool
  /-- The backoff has been reset on its account. -/
  forgiven : Bool
  deriving DecidableEq

/-- A call of `onStatus`, `onMessage` or `onAuthError`. -/
inductive Report
  | status (state : ConnState)
  | message (data : String)
  | authError
  deriving DecidableEq

structure World where
  self : Self
  now : ℕ
  /-- The next number to be given out. -/
  next : ℕ
  /-- The calls of `getTicket` under way, with the generation of their `connect`. -/
  tickets : ℕ → Option ℕ
  timers : ℕ → Option Timer
  stables : ℕ → Option StableTimer
  sockets : ℕ → Option Socket
  /-- What the last move has reported. -/
  out : List Report

/-- `new LiveSocket(opts)` -/
def World.new : World :=
  ⟨⟨none, none, none, 0, true, 0⟩, 0, 0, fun _ => none, fun _ => none, fun _ => none,
    fun _ => none, []⟩

def World.report (w : World) (report : Report) : World := { w with out := w.out ++ [report] }

def World.clearTimer (w : World) : World :=
  { w with
    timers := match w.self.timer with
      | some i => update w.timers i none
      | none => w.timers
    self := { w.self with timer := none } }

def World.clearStable (w : World) : World :=
  { w with
    stables := match w.self.stableTimer with
      | some i => update w.stables i none
      | none => w.stables
    self := { w.self with stableTimer := none } }

/-- `ws.close()`: the browser reports it later. -/
def World.closeSocket (w : World) (k : ℕ) : World :=
  { w with
    sockets := update w.sockets k
      ((w.sockets k).map fun socket => { socket with closing := true }) }

/-- `connect`, up to the call of `getTicket`. -/
def World.connect (w : World) (gen : ℕ) : World :=
  if w.self.stopped ∨ gen ≠ w.self.generation then w
  else
    { w.report (.status .connecting) with
      tickets := update w.tickets w.next (some gen)
      next := w.next + 1 }

def delayMs (opts : Opts) (attempts : ℕ) (random : ℚ) : ℚ :=
  min opts.maxDelayMs (opts.baseDelayMs * 2 ^ attempts) * (8 / 10 + 4 / 10 * random)

def World.scheduleReconnect (opts : Opts) (random : ℚ) (w : World) (gen : ℕ) : World :=
  { w with
    timers := update w.timers w.next (some ⟨gen, delayMs opts w.self.attempts random⟩)
    self := { w.self with attempts := w.self.attempts + 1, timer := some w.next }
    next := w.next + 1 }

def World.start (w : World) : World :=
  if ¬ w.self.stopped then w
  else
    let gen := w.self.generation + 1
    { w with
      self := { w.self with
        stopped := false, attempts := 0, generation := gen } }.connect gen

def World.stop (w : World) : World :=
  let w := { w with self := { w.self with
    stopped := true, generation := w.self.generation + 1 } }
  let w := w.clearTimer.clearStable
  let w := match w.self.ws with
    | some k => w.closeSocket k
    | none => w
  { w with self := { w.self with ws := none } }

/-- How a call of `getTicket` ends; a refusal carries the next `random()`. -/
inductive TicketResult
  | granted
  | refused (random : ℚ)
  | authError
  deriving DecidableEq

/-- `connect`, once `getTicket` has ended. -/
def World.connected (opts : Opts) (w : World) (i : ℕ) (gen : ℕ) : TicketResult → World
  | .granted =>
    if w.self.stopped ∨ gen ≠ w.self.generation then w
    else
      { w with
        sockets := update w.sockets w.next (some ⟨gen, i, false, none, false, false⟩)
        self := { w.self with ws := some w.next }
        next := w.next + 1 }
  | .refused random =>
    if gen ≠ w.self.generation then w
    else (w.report (.status .closed)).scheduleReconnect opts random gen
  | .authError =>
    if gen ≠ w.self.generation then w
    else
      (({ w with self := { w.self with
        stopped := true, generation := w.self.generation + 1 } }.report
          (.status .closed)).report .authError)

def World.setSocket (w : World) (k : ℕ) (socket : Socket) : World :=
  { w with sockets := update w.sockets k (some socket) }

def World.onopen (opts : Opts) (w : World) (k : ℕ) (socket : Socket) : World :=
  if socket.gen ≠ w.self.generation then w
  else
    let w := w.clearStable
    { w.report (.status .open) with
      stables := update w.stables w.next (some ⟨k, socket.gen, w.now + opts.stableAfterMs⟩)
      self := { w.self with stableTimer := some w.next }
      next := w.next + 1 }

def World.forgive (w : World) (timer : StableTimer) : World :=
  if w.self.ws = some timer.socket ∧ timer.gen = w.self.generation then
    { w with
      self := { w.self with attempts := 0 }
      sockets := update w.sockets timer.socket
        ((w.sockets timer.socket).map fun socket => { socket with forgiven := true }) }
  else w

def World.onmessage (w : World) (socket : Socket) (data : Option String) : World :=
  if socket.gen ≠ w.self.generation then w else w.report (.message (data.getD ""))

/-- `onclose`, before it looks at the generation. -/
def World.release (w : World) (k : ℕ) : World :=
  let w := w.clearStable
  if w.self.ws = some k then { w with self := { w.self with ws := none } } else w

/-- `onclose`, the first time; `settled` is set. -/
def World.onclose (opts : Opts) (random : ℚ) (w : World) (k : ℕ) (socket : Socket)
    (code : Option ℕ) : World :=
  let w := w.release k
  if socket.gen ≠ w.self.generation then w
  else
    let w := w.report (.status .closed)
    let w := if code = some SLOW_CONSUMER then
      { w with self := { w.self with attempts := max w.self.attempts SLOW_RETRY_FLOOR } } else w
    if w.self.stopped then w else w.scheduleReconnect opts random socket.gen

inductive Move
  | start
  | stop
  | wait (ms : ℕ)
  /-- A call of `getTicket` ends. -/
  | ticket (i : ℕ) (result : TicketResult)
  /-- A scheduled reconnect fires. -/
  | timer (i : ℕ)
  /-- A stable timer fires, when it is due or later. -/
  | stable (i : ℕ)
  | onopen (k : ℕ)
  | onmessage (k : ℕ) (data : Option String)
  | onerror (k : ℕ)
  /-- With the close code, and the next `random()`. -/
  | onclose (k : ℕ) (code : Option ℕ) (random : ℚ)
  deriving DecidableEq

/-- A move, where the reports of the last one are off the table.  The browser reports nothing of a
socket whose `close` it has reported, other than that again. -/
def step (opts : Opts) (w : World) : Move → Option World
  | .start => some { w with out := [] }.start
  | .stop => some { w with out := [] }.stop
  | .wait ms => some { w with out := [], now := w.now + ms }
  | .ticket i result => do
    let gen ← w.tickets i
    some ({ w with
      out := []
      tickets := update w.tickets i none }.connected opts i gen result)
  | .timer i => do
    let timer ← w.timers i
    some ({ w with
      out := []
      timers := update w.timers i none }.connect timer.gen)
  | .stable i => do
    let timer ← w.stables i
    if timer.due ≤ w.now then
      some ({ w with
        out := []
        stables := update w.stables i none }.forgive timer)
    else none
  | .onopen k => do
    let socket ← w.sockets k
    if socket.openedAt = none ∧ ¬ socket.settled then
      let socket := { socket with openedAt := some w.now }
      some (({ w with out := [] }.setSocket k socket).onopen opts k socket)
    else none
  | .onmessage k data => do
    let socket ← w.sockets k
    if socket.settled then none else some ({ w with out := [] }.onmessage socket data)
  | .onerror k => do
    let socket ← w.sockets k
    if socket.settled then none else some ({ w with out := [] }.closeSocket k)
  | .onclose k code random => do
    let socket ← w.sockets k
    if socket.settled then some { w with out := [] }
    else
      let socket := { socket with settled := true }
      some (({ w with out := [] }.setSocket k socket).onclose opts random k socket code)

/-! ## What the socket promises -/

/-- What a chain waits for. -/
inductive Link
  | ticket (i : ℕ)
  | timer (i : ℕ)
  | socket (k : ℕ)
  deriving DecidableEq

/-- A call of `getTicket` of the current generation is under way, a reconnect is scheduled, a socket
of the current generation has not reported its close. -/
def World.Has (w : World) : Link → Prop
  | .ticket i => w.tickets i = some w.self.generation
  | .timer i => (w.timers i).isSome
  | .socket k => ∃ socket, w.sockets k = some socket ∧ socket.gen = w.self.generation ∧
    socket.settled = false

/-- The socket of the current generation has stayed open for `stableAfterMs`. -/
def World.Lasted (opts : Opts) (w : World) (k : ℕ) : Prop :=
  ∃ socket t, w.sockets k = some socket ∧ socket.gen = w.self.generation ∧
    socket.settled = false ∧ socket.openedAt = some t ∧ t + opts.stableAfterMs ≤ w.now

def World.Forgiven (w : World) (k : ℕ) : Prop :=
  ∃ socket, w.sockets k = some socket ∧ socket.forgiven = true

/-- The stable timer of a socket is due, and has not fired. -/
def World.Due (w : World) (k : ℕ) : Prop :=
  ∃ j timer, w.stables j = some timer ∧ timer.socket = k ∧ timer.due ≤ w.now

structure State (opts : Opts) (w : World) : Prop where
  link : w.self.stopped = false → ∃! l, w.Has l
  ticket : ∀ k k' socket socket', w.sockets k = some socket → w.sockets k' = some socket' →
    socket.ticket = socket'.ticket → k = k'
  lasted : ∀ k, w.Lasted opts k → w.Forgiven k ∨ w.Due k

structure Moves (opts : Opts) (w : World) (move : Move) (w' : World) : Prop where
  message : ∀ text, .message text ∈ w'.out → ∃ k data, move = .onmessage k data ∧ w.Has (.socket k)
  opened : .status .open ∈ w'.out → ∃ k, move = .onopen k ∧ w.Has (.socket k)
  stopped : w.self.stopped = true → move ≠ .start →
    w'.out = [] ∧ ∀ k, w.sockets k = none → w'.sockets k = none
  reset : move ≠ .start → w'.self.attempts < w.self.attempts → ∃ k, w.Lasted opts k ∧ w'.Forgiven k
  forgiven : ∀ k, ¬ w.Forgiven k → w'.Forgiven k → w'.self.attempts = 0
  fires : ∀ j timer, move = .stable j → w.stables j = some timer → w.Lasted opts timer.socket →
    w'.Forgiven timer.socket

/-- The socket is one chain, all through a run. -/
structure OneChain (opts : Opts) (moves : List Move) : Prop where
  state : ∀ before w, before <+: moves → Machine.run (step opts) .new before = some w → State opts w
  move : ∀ before move w w', before ++ [move] <+: moves →
    Machine.run (step opts) .new before = some w → step opts w move = some w' → Moves opts w move w'

/-- A socket that reports its close while a stable timer is pending is not of an earlier
generation. -/
def LateCloseMissesTimer (w : World) : Move → Prop
  | .onclose k _ _ => ∀ socket ∈ w.sockets k, socket.settled = false →
    socket.gen ≠ w.self.generation → ∀ j ∈ w.self.stableTimer, w.stables j = none
  | _ => True

instance (w : World) : ∀ move, Decidable (LateCloseMissesTimer w move)
  | .onclose _ _ _ => by dsimp only [LateCloseMissesTimer]; infer_instance
  | .start | .stop | .wait _ | .ticket _ _ | .timer _ | .stable _ | .onopen _ | .onmessage _ _
  | .onerror _ => .isTrue trivial

end Orbetra.LiveSocket
