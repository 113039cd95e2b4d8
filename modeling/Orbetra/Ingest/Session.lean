import Orbetra.Codec.Parse
import Orbetra.Framework.Async

/-!
# The ingest: TCP sessions, UDP datagrams and the registry

`Session` of `session.ts` over the streaming framer, `handle` of `udp.ts`, `persistAvlBatch` and
`parkUndecodableFrame`, and the two writers of `registry:imei`, `activateDevice` and
`deactivateDevice`, as programs over Redis and the sockets.

A thread is one TCP connection, one datagram, one call of the registry, or what goes on outside: the
peer that hangs up, the API that queues a command, the backlog of a shard. -/

namespace Orbetra.Ingest

open Codec Function List

abbrev Imei := String

abbrev TenantId := String

/-! ## Redis -/

/-- `raw:{shard}`, `rejects` and `raw:unsupported`. -/
inductive Stream
  | raw (shard : ℕ)
  | rejects
  | unsupported
  deriving DecidableEq

/-- What an entry of a stream carries. -/
inductive Payload
  | record (deviceId : DeviceId) (imei : Imei) (serverTimeMs : Ms) (record : AvlRecord)
  | reject (imei : Imei) (tsMs : ℕ) (raw : Bytes) (reason : String)
  | frame (imei : Imei) (tsMs : Ms) (raw : Bytes) (reason : String)
  deriving DecidableEq

/-- Where an entry comes from, which no code reads: the connection or the datagram, the number of
its frame, and the number of the record in the frame. -/
structure Origin (ι : Type) where
  sender : ι
  frame : ℕ
  record : ℕ
  deriving DecidableEq

structure Entry (ι : Type) where
  origin : Origin ι
  payload : Payload
  deriving DecidableEq

/-- An entry of `cmd:pending`. -/
structure PendingCommand where
  id : String
  text : String
  attempt : Option ℕ
  expiresAtMs : Option Ms
  deriving DecidableEq

/-- An entry of `cmd:inflight`. -/
structure InflightCommand where
  id : String
  text : String
  attempt : ℕ
  sentAtMs : Ms
  expiresAtMs : Option Ms
  deriving DecidableEq

/-- An entry of `cmd:resp`. -/
structure CommandResponse where
  codec : ℕ
  text : String
  nack : Bool
  deriving DecidableEq

/-- What is written to a peer. -/
inductive Reply
  | imei (accept : Bool)
  | ack (count : ℕ)
  | udpAck (packetId avlPacketId count : ℕ)
  | command (text : String)
  deriving DecidableEq

/-- The count of an acknowledgement. -/
def Reply.acked : Reply → Option ℕ
  | .ack count => some count
  | .udpAck _ _ count => some count
  | _ => none

/-- A connection, or the address that a datagram came from; each reply is kept with the number of
the frame that it answers. -/
structure Socket where
  destroyed : Bool
  ended : Bool
  paused : Bool
  written : List (ℕ × Reply)
  deriving DecidableEq

structure RegistryDevice where
  id : DeviceId
  imei : Imei
  tenantId : TenantId
  accountId : String
  config : Option String
  deriving DecidableEq

structure RegistryRef where
  id : DeviceId
  imei : Imei
  tenantId : TenantId
  deriving DecidableEq

/-- Redis, the clock and the sockets of the process. -/
structure IngestStore (ι : Type) where
  /-- `registry:imei` -/
  registry : Imei → Option DeviceId
  /-- `device:tenant`, `device:account` and `device:config` -/
  deviceTenant : DeviceId → Option TenantId
  deviceAccount : DeviceId → Option String
  deviceConfig : DeviceId → Option String
  /-- Whether `device:{id}:last` is there. -/
  lastFix : DeviceId → Bool
  /-- `tenant:{id}:devices` -/
  tenantDevices : TenantId → List DeviceId
  /-- How often an IMEI was rejected within the hour. -/
  rejections : Imei → ℕ
  /-- `quarantine:imei` -/
  quarantined : List (Imei × Ms)
  streams : Stream → List (Entry ι)
  /-- `cmd:pending:{id}`; `none` is an entry that is no JSON. -/
  pending : DeviceId → List (Option PendingCommand)
  inflight : DeviceId → List InflightCommand
  /-- `cmd:resp:{id}`, with the connection that each response came over. -/
  responses : DeviceId → List (ι × CommandResponse)
  /-- `cmd:active` -/
  active : List DeviceId
  /-- The backlog of a shard, as the cache of the process or Redis has it. -/
  depth : ℕ → ℕ
  /-- What each connection has popped of `cmd:pending`. -/
  popped : ι → List (Option PendingCommand)
  now : Ms
  /-- Whether the cap on datagrams in flight and both rate limits let one in. -/
  admits : Bool
  sockets : ι → Socket
  /-- `liveByImei` -/
  liveByImei : Imei → Option ι

/-! ## Commands -/

/-- What goes on outside the ingest. -/
inductive World (ι : Type)
  | wait (ms : ℕ)
  | hangUp (socket : ι)
  | queue (deviceId : DeviceId) (command : Option PendingCommand)
  | backlog (shard depth : ℕ)
  | limiter (admits : Bool)
  deriving DecidableEq

/-- One command to Redis, or one step of the process. -/
inductive IngestCommand (ι : Type)
  | lookup (imei : Imei)
  | quarantine (imei : Imei) (nowMs : Ms) (countRejects : Bool)
  | lpop (me : ι) (deviceId : DeviceId)
  | recordInflight (deviceId : DeviceId) (entry : InflightCommand)
  | xadd (stream : Stream) (entry : Entry ι)
  | respond (me : ι) (deviceId : DeviceId) (response : CommandResponse)
  | depth (shard : ℕ)
  | tenantOf (id : DeviceId)
  | activate (device : RegistryDevice) (prevTenant : Option TenantId)
  | hdelIfMine (imei : Imei) (id : DeviceId)
  | clearDevice (ref : RegistryRef) (keepLastFix : Bool)
  | clock
  | admits
  | isDestroyed (me : ι)
  | isWritable (me : ι)
  | write (me : ι) (frame : ℕ) (reply : Reply)
  | sendTo (me : ι) (reply : Reply)
  | destroy (me : ι)
  | close (me : ι)
  | pause (me : ι)
  | authenticated (imei : Imei) (me : ι)
  | world (event : World ι)
  deriving DecidableEq

variable {ι : Type}

/-- The step is taken within the process, so that it cannot fail. -/
def IngestCommand.isLocal : IngestCommand ι → Bool
  | .clock | .admits | .isDestroyed _ | .isWritable _ | .write .. | .sendTo .. | .destroy _
  | .close _ | .pause _ | .authenticated .. | .world _ => true
  | _ => false

def IngestCommand.Answer : IngestCommand ι → Type
  | .lookup _ => Option DeviceId
  | .quarantine .. => ℕ
  | .lpop .. => Option (Option PendingCommand)
  | .depth _ => ℕ
  | .tenantOf _ => Option TenantId
  | .clock => Ms
  | .admits => Bool
  | .isDestroyed _ => Bool
  | .isWritable _ => Bool
  | _ => Unit

variable [DecidableEq ι]

namespace IngestStore

def onSocket (s : IngestStore ι) (i : ι) (f : Socket → Socket) : IngestStore ι :=
  { s with sockets := update s.sockets i (f (s.sockets i)) }

/-- `socket.write`, which does nothing on a socket that is destroyed. -/
def write (s : IngestStore ι) (i : ι) (frame : ℕ) (reply : Reply) : IngestStore ι :=
  s.onSocket i fun socket =>
    if socket.destroyed then socket
    else { socket with written := socket.written ++ [(frame, reply)] }

/-- The answer to a datagram. -/
def sendTo (s : IngestStore ι) (i : ι) (reply : Reply) : IngestStore ι :=
  s.onSocket i fun socket => { socket with written := socket.written ++ [(0, reply)] }

def destroy (s : IngestStore ι) (i : ι) : IngestStore ι :=
  s.onSocket i fun socket => { socket with destroyed := true, paused := false }

/-- `onAuthenticated`: the connection that the IMEI had before is closed. -/
def authenticated (s : IngestStore ι) (imei : Imei) (me : ι) : IngestStore ι :=
  let closed := match s.liveByImei imei with
    | some prior => if prior = me then s else s.destroy prior
    | none => s
  { closed with liveByImei := update s.liveByImei imei (some me) }

def activate (s : IngestStore ι) (d : RegistryDevice) (prevTenant : Option TenantId) :
    IngestStore ι :=
  let joined := update s.tenantDevices d.tenantId ((s.tenantDevices d.tenantId).insert d.id)
  { s with
    registry := update s.registry d.imei (some d.id)
    deviceTenant := update s.deviceTenant d.id (some d.tenantId)
    deviceAccount := update s.deviceAccount d.id (some d.accountId)
    tenantDevices := match prevTenant with
      | some prev =>
        if prev = d.tenantId then joined
        else update joined prev ((joined prev).filter (· ≠ d.id))
      | none => joined
    deviceConfig := match d.config with
      | some config => update s.deviceConfig d.id (some config)
      | none => s.deviceConfig }

/-- The transaction of `deactivateDevice`. -/
def clearDevice (s : IngestStore ι) (d : RegistryRef) (keepLastFix : Bool) : IngestStore ι :=
  { s with
    deviceTenant := update s.deviceTenant d.id none
    deviceAccount := update s.deviceAccount d.id none
    deviceConfig := update s.deviceConfig d.id none
    lastFix := if keepLastFix then s.lastFix else update s.lastFix d.id false
    tenantDevices := update s.tenantDevices d.tenantId
      ((s.tenantDevices d.tenantId).filter (· ≠ d.id)) }

end IngestStore

def World.run (s : IngestStore ι) : World ι → IngestStore ι
  | .wait ms => { s with now := s.now + ms }
  | .hangUp socket => s.destroy socket
  | .queue deviceId command =>
    { s with pending := update s.pending deviceId (s.pending deviceId ++ [command]) }
  | .backlog shard depth => { s with depth := update s.depth shard depth }
  | .limiter admits => { s with admits }

def IngestCommand.run : (c : IngestCommand ι) → IngestStore ι → IngestStore ι × c.Answer
  | .lookup imei, s => (s, s.registry imei)
  | .quarantine imei nowMs countRejects, s =>
    let count := if countRejects then s.rejections imei + 1 else s.rejections imei
    ({ s with
      rejections := update s.rejections imei count
      quarantined := s.quarantined.filter (·.1 ≠ imei) ++ [(imei, nowMs)] },
      (if countRejects then count else 0 : ℕ))
  | .lpop me deviceId, s =>
    match s.pending deviceId with
    | [] => (s, none)
    | command :: commands =>
      ({ s with
        pending := update s.pending deviceId commands
        popped := update s.popped me (s.popped me ++ [command]) }, some command)
  | .recordInflight deviceId entry, s =>
    ({ s with
      inflight := update s.inflight deviceId (s.inflight deviceId ++ [entry])
      active := s.active.insert deviceId }, ())
  | .xadd stream entry, s =>
    ({ s with streams := update s.streams stream (s.streams stream ++ [entry]) }, ())
  | .respond me deviceId response, s =>
    ({ s with
      responses := update s.responses deviceId (s.responses deviceId ++ [(me, response)])
      active := s.active.insert deviceId }, ())
  | .depth shard, s => (s, s.depth shard)
  | .tenantOf id, s => (s, s.deviceTenant id)
  | .activate device prevTenant, s => (s.activate device prevTenant, ())
  | .hdelIfMine imei id, s =>
    (if s.registry imei = some id then
      { s with registry := update s.registry imei none } else s, ())
  | .clearDevice ref keepLastFix, s => (s.clearDevice ref keepLastFix, ())
  | .clock, s => (s, s.now)
  | .admits, s => (s, s.admits)
  | .isDestroyed me, s => (s, (s.sockets me).destroyed)
  | .isWritable me, s => (s, !(s.sockets me).destroyed && !(s.sockets me).ended)
  | .write me frame reply, s => (s.write me frame reply, ())
  | .sendTo me reply, s => (s.sendTo me reply, ())
  | .destroy me, s => (s.destroy me, ())
  | .close me, s => (s.onSocket me fun socket => { socket with ended := true }, ())
  | .pause me, s => (s.onSocket me fun socket => { socket with paused := true }, ())
  | .authenticated imei me, s => (s.authenticated imei me, ())
  | .world event, s => (event.run s, ())

abbrev ingestService (ι : Type) [DecidableEq ι] : Service (IngestStore ι) where
  Cmd := IngestCommand ι
  Answer := IngestCommand.Answer
  run := IngestCommand.run

/-! ## The programs -/

abbrev Program (ι : Type) [DecidableEq ι] := Async (ingestService ι) Unit

def send (c : IngestCommand ι) : Program ι c.Answer := Async.send (V := ingestService ι) () c

/-- `SessionConfig`; the parser is the wrapped one. -/
structure SessionConfig where
  protocolParser : ProtocolParser
  maxDataLength : ℕ
  pauseAboveDepth : ℕ
  maxFutureMs : Ms
  minTsMs : Ms

def SHARD_COUNT : ℕ := 16

/-- `Number(BigInt(imei) % BigInt(SHARD_COUNT))` -/
def shardOf (imei : Imei) : ℕ := (ofDigits 10 imei.toList).toNat % SHARD_COUNT

def sanityFailure (config : SessionConfig) (rec : AvlRecord) (nowMs : Ms) : Option String :=
  if (rec.tsMs : ℤ) < config.minTsMs ∨ (rec.tsMs : ℤ) > nowMs + config.maxFutureMs then
    some "fix_time"
  else if |rec.lat| > 90 * 10 ^ 7 ∨ |rec.lon| > 180 * 10 ^ 7 then
    some "coords"
  else
    none

structure PersistTarget where
  deviceId : DeviceId
  imei : Imei
  shard : ℕ
  deriving DecidableEq

def rejectEntry (config : SessionConfig) (nowMs : Ms) (target : PersistTarget) (me : ι)
    (frame : ℕ) (rec : AvlRecord × ℕ) : Option (Stream × Entry ι) :=
  (sanityFailure config rec.1 nowMs).map fun reason =>
    (.rejects, ⟨⟨me, frame, rec.2⟩, .reject target.imei rec.1.tsMs rec.1.raw reason⟩)

/-- The entry of a record that is in bounds; it does not carry the generation type. -/
def rawEntry (config : SessionConfig) (nowMs : Ms) (target : PersistTarget) (me : ι)
    (frame : ℕ) (rec : AvlRecord × ℕ) : Option (Stream × Entry ι) :=
  if (sanityFailure config rec.1 nowMs).isSome then none
  else some (.raw target.shard, ⟨⟨me, frame, rec.2⟩,
    .record target.deviceId target.imei nowMs { rec.1 with generationType := none }⟩)

/-- The pipeline of `persistAvlBatch`: the records out of bounds come first. -/
def batchEntries (config : SessionConfig) (nowMs : Ms) (target : PersistTarget) (me : ι)
    (frame : ℕ) (records : List AvlRecord) : List (Stream × Entry ι) :=
  records.zipIdx.filterMap (rejectEntry config nowMs target me frame) ++
    records.zipIdx.filterMap (rawEntry config nowMs target me frame)

/-- One command of a pipeline, which may fail on its own: how many have been answered. -/
def xaddCounted (persisted : ℕ) (entry : Stream × Entry ι) : Program ι ℕ :=
  .call (V := ingestService ι) (.xadd entry.1 entry.2) fun r =>
    .done (if r.isSome then persisted + 1 else persisted)

def persistAvlBatch (config : SessionConfig) (target : PersistTarget) (me : ι) (frame : ℕ)
    (records : List AvlRecord) (nowMs : Ms) : Program ι ℕ :=
  (batchEntries config nowMs target me frame records).foldlM xaddCounted 0

/-- `parkUndecodableFrame` -/
def parkUndecodableFrame (me : ι) (frame : ℕ) (imei : Imei) (raw : Bytes) (nowMs : Ms)
    (reason : String) : Program ι Unit :=
  send (.xadd .unsupported ⟨⟨me, frame, 0⟩, .frame imei nowMs raw reason⟩)

/-- One turn of the loop of `drainPending`: whether there is another. -/
def drainOne (me : ι) (frame : ℕ) (deviceId : DeviceId) : Program ι Bool := do
  let writable : Bool ← send (.isWritable me)
  if !writable then
    pure false
  else
    let raw : Option (Option PendingCommand) ← send (.lpop me deviceId)
    match raw with
    | none => pure false
    | some none => pure true
    | some (some cmd) =>
      let now : Ms ← send .clock
      if cmd.expiresAtMs.any (· ≤ now) ∨ cmd.text = "" then
        pure true
      else
        let sentAtMs : Ms ← send .clock
        let _ : Unit ← send (.recordInflight deviceId
          ⟨cmd.id, cmd.text, cmd.attempt.getD 0, sentAtMs, cmd.expiresAtMs⟩)
        let _ : Unit ← send (.write me frame (.command cmd.text))
        pure true

def drainPending (me : ι) (frame : ℕ) (deviceId : DeviceId) : ℕ → Program ι Unit
  | 0 => pure ()
  | turns + 1 => do
    if ← drainOne me frame deviceId then drainPending me frame deviceId turns else pure ()

def maybeBackpressure (config : SessionConfig) (me : ι) (shard : ℕ) : Program ι Unit := do
  let depth : ℕ ← send (.depth shard)
  Async.when (depth > config.pauseAboveDepth) (send (.pause me))

/-- `handleImei`: what the connection streams for, once it is accepted. -/
def handleImei (config : SessionConfig) (me : ι) (number : ℕ) (frame : Frame) :
    Program ι (Option PersistTarget) := do
  if frame.kind ≠ .imei then
    let _ : Unit ← send (.destroy me)
    pure none
  else
    match parseFrame config.protocolParser frame with
    | .error _ => .threw ()
    | .ok (.imei imei) =>
      let deviceId : Option DeviceId ← send (.lookup imei)
      match deviceId with
      | none =>
        let now : Ms ← send .clock
        let rejects : ℕ ← send (.quarantine imei now true)
        let _ : Unit ← send (.write me number (.imei false))
        if rejects ≥ 3 then
          let _ : Unit ← send (.destroy me)
          pure none
        else
          let _ : Unit ← send (.close me)
          pure none
      | some deviceId =>
        let _ : Unit ← send (.authenticated imei me)
        let _ : Unit ← send (.write me number (.imei true))
        drainPending me number deviceId 16
        pure (some ⟨deviceId, imei, shardOf imei⟩)
    | .ok (.avl ..) | .ok (.cmdResponse ..) => pure none

def handleStreamFrame (config : SessionConfig) (me : ι) (number : ℕ) (target : PersistTarget)
    (frame : Frame) : Program ι Unit :=
  match parseFrame config.protocolParser frame with
  | .error (.undecodable declaredCount) => do
    let now : Ms ← send .clock
    parkUndecodableFrame me number target.imei frame.bytes now "undecodable-records"
    let _ : Unit ← send (.write me number (.ack declaredCount))
    maybeBackpressure config me target.shard
    drainPending me number target.deviceId 16
  | .error .other => .threw ()
  | .error .frame | .error .crc => send (.write me number (.ack 0))
  | .ok (.cmdResponse codec text nack) => send (.respond me target.deviceId ⟨codec, text, nack⟩)
  | .ok (.imei _) => pure ()
  | .ok (.avl _ records) => do
    -- the registry is asked again for each frame of records
    let mapped : Option DeviceId ← send (.lookup target.imei)
    if mapped ≠ some target.deviceId then
      let _ : Unit ← send (.destroy me)
      pure ()
    else
      let now : Ms ← send .clock
      let persisted ← persistAvlBatch config target me number records now
      let _ : Unit ← send (.write me number (.ack persisted))
      maybeBackpressure config me target.shard
      drainPending me number target.deviceId 16

/-- The buffer of the framer, how many frames it has yielded, and what the connection streams
for. -/
structure SessionState where
  buf : Bytes
  number : ℕ
  target : Option PersistTarget
  deriving DecidableEq

/-- One frame: what the connection streams for after it. -/
def handleFrame (config : SessionConfig) (me : ι) (st : SessionState) (frame : Frame) :
    Program ι (Option PersistTarget) :=
  match st.target with
  | none => handleImei config me st.number frame
  | some target => do
    handleStreamFrame config me st.number target frame
    pure (some target)

def handleFrames (config : SessionConfig) (me : ι) : SessionState → List Frame →
    Program ι SessionState
  | st, [] => pure st
  | st, frame :: frames => do
    let target ← handleFrame config me st frame
    let destroyed : Bool ← send (.isDestroyed me)
    if destroyed then
      pure { st with number := st.number + 1, target := target }
    else
      handleFrames config me { st with number := st.number + 1, target := target } frames

/-- Where a chunk fails, the connection is closed. -/
def guarded (me : ι) (st : SessionState) (m : Program ι SessionState) : Program ι SessionState :=
  m.attempt fun _ => do
    let _ : Unit ← send (.destroy me)
    pure st

/-- `onData` -/
def onData (config : SessionConfig) (me : ι) (st : SessionState) (chunk : Bytes) :
    Program ι SessionState := do
  let destroyed : Bool ← send (.isDestroyed me)
  if destroyed then
    pure st
  else
    match feed config.maxDataLength st.buf chunk with
    | .error _ =>
      let _ : Unit ← send (.destroy me)
      pure st
    | .ok (frames, buf) => guarded me st (handleFrames config me { st with buf := buf } frames)

/-- A connection, over the chunks that arrive on it. -/
def session (config : SessionConfig) (me : ι) : SessionState → List Bytes → Program ι SessionState
  | st, [] => pure st
  | st, chunk :: chunks => do
    let st ← onData config me st chunk
    session config me st chunks

/-- A connection at the boundary of a frame: the rest of the frames of a chunk, and the chunks after
it. -/
def resume (config : SessionConfig) (me : ι) (before st : SessionState) (frames : List Frame)
    (chunks : List Bytes) : Program ι SessionState := do
  let st ← guarded me before (handleFrames config me st frames)
  session config me st chunks

/-- Why a datagram is dropped. -/
inductive Drop
  | rateLimited
  | frameViolation
  | rejectedImei
  | backpressure
  deriving DecidableEq

def handle (config : SessionConfig) (me : ι) (datagram : Bytes) : Program ι (Option Drop) := do
  let admits : Bool ← send .admits
  if !admits then
    pure (some .rateLimited)
  else
    match decodeUdpHeader datagram with
    | .error .frame => pure (some .frameViolation)
    | .error .crc | .error (.undecodable _) | .error .other => .threw ()
    | .ok head =>
      let answer (count : ℕ) : Program ι (Option Drop) := do
        let _ : Unit ← send (.sendTo me (.udpAck head.packetId head.avlPacketId (count % 256)))
        pure none
      let deviceId : Option DeviceId ← send (.lookup head.imei)
      match deviceId with
      | none =>
        let now : Ms ← send .clock
        let _ : ℕ ← send (.quarantine head.imei now false)
        pure (some .rejectedImei)
      | some deviceId =>
        match parseUdpAvl config.protocolParser head.avlData with
        | .error (.undecodable declaredCount) =>
          let now : Ms ← send .clock
          parkUndecodableFrame me 0 head.imei head.avlData now "undecodable-records"
          answer declaredCount
        | .error .other => .threw ()
        | .error .frame | .error .crc => answer 0
        | .ok (.avl _ records) =>
          let depth : ℕ ← send (.depth (shardOf head.imei))
          if depth > config.pauseAboveDepth then
            pure (some .backpressure)
          else
            let now : Ms ← send .clock
            let persisted ← persistAvlBatch config ⟨deviceId, head.imei, shardOf head.imei⟩ me 0
              records now
            answer persisted
        | .ok (.imei _) | .ok (.cmdResponse ..) => answer 0

def activateDevice (d : RegistryDevice) : Program ι Unit := do
  let prevTenant : Option TenantId ← send (.tenantOf d.id)
  send (.activate d prevTenant)

def deactivateDevice (d : RegistryRef) (keepLastFix : Bool) : Program ι Unit := do
  let _ : Unit ← send (.hdelIfMine d.imei d.id)
  send (.clearDevice d keepLastFix)

/-! ## Threads -/

inductive IngestCall (ι : Type)
  | session (chunks : List Bytes)
  | datagram (bytes : Bytes)
  | activate (device : RegistryDevice)
  | deactivate (device : RegistryRef) (keepLastFix : Bool)
  | outside (events : List (World ι))
  deriving DecidableEq

def IngestCall.program (config : SessionConfig) (me : ι) : IngestCall ι → Program ι (Option Drop)
  | .session chunks => do
    let _ ← Ingest.session config me ⟨[], 0, none⟩ chunks
    pure none
  | .datagram bytes => handle config me bytes
  | .activate device => do
    activateDevice device
    pure none
  | .deactivate device keepLastFix => do
    deactivateDevice device keepLastFix
    pure none
  | .outside events => do
    events.foldlM (fun _ event => send (.world event)) ()
    pure none

abbrev IngestPool (ι : Type) [DecidableEq ι] := Pool ι (ingestService ι) Unit (Option Drop)

def ingestCalls (config : SessionConfig) (calls : ι → IngestCall ι) (start : IngestStore ι) :
    IngestPool ι := ⟨start, fun i => (calls i).program config i⟩

/-- A Redis that holds nothing but the mapping of one IMEI. -/
def onlyDevice (imei : Imei) (id : DeviceId) : IngestStore ι where
  registry imei' := if imei' = imei then some id else none
  deviceTenant _ := none
  deviceAccount _ := none
  deviceConfig _ := none
  lastFix _ := false
  tenantDevices _ := []
  rejections _ := 0
  quarantined := []
  streams _ := []
  pending _ := []
  inflight _ := []
  responses _ := []
  active := []
  depth _ := 0
  popped _ := []
  now := 0
  admits := true
  sockets _ := ⟨false, false, false, []⟩
  liveByImei _ := none

def handshake : Bytes := [0, 8, 49, 50, 51, 52, 53, 54, 55, 56]

/-- The data of a frame of codec 8 with one record. -/
def oneRecord : Bytes := [8, 1] ++ replicate 30 0 ++ [1]

/-! ## What a thread leaves alone -/

/-- The thread in whose name a command writes. -/
def IngestCommand.sender : IngestCommand ι → Option ι
  | .lpop me _ => some me
  | .xadd _ entry => some entry.origin.sender
  | .respond me _ _ => some me
  | .write me _ _ => some me
  | .sendTo me _ => some me
  | _ => none

/-- What a thread has appended to a stream. -/
def IngestStore.posted (s : IngestStore ι) (i : ι) (stream : Stream) : List (Entry ι) :=
  (s.streams stream).filter fun entry => entry.origin.sender = i

/-- The responses that have come over a connection. -/
def IngestStore.responded (s : IngestStore ι) (i : ι) (deviceId : DeviceId) :
    List (ι × CommandResponse) := (s.responses deviceId).filter fun response => response.1 = i

/-- The connection is closed. -/
def Dead (i : ι) (s : IngestStore ι) : Prop := (s.sockets i).destroyed = true

omit [DecidableEq ι] in
lemma dead_iff {i : ι} {s : IngestStore ι} : Dead i s ↔ (s.sockets i).destroyed = true := Iff.rfl

/-- Nothing is done in the name of `i`, and its connection is not opened again. -/
structure Same (i : ι) (s s' : IngestStore ι) : Prop where
  posted : ∀ stream, s'.posted i stream = s.posted i stream
  responded : ∀ deviceId, s'.responded i deviceId = s.responded i deviceId
  popped : s'.popped i = s.popped i
  written : (s'.sockets i).written = (s.sockets i).written
  destroyed : Dead i s → Dead i s'

section Same

variable {i : ι} {s s' s'' : IngestStore ι}

lemma Same.refl (i : ι) (s : IngestStore ι) : Same i s s :=
  ⟨fun _ => rfl, fun _ => rfl, rfl, rfl, id⟩

lemma Same.onSocket (i j : ι) (s : IngestStore ι) {f : Socket → Socket}
    (hwritten : ∀ socket, (f socket).written = socket.written)
    (hdestroyed : ∀ socket, socket.destroyed = true → (f socket).destroyed = true) :
    Same i s (s.onSocket j f) := by
  have hsocket : (s.onSocket j f).sockets i = if i = j then f (s.sockets i) else s.sockets i := by
    show update s.sockets j (f (s.sockets j)) i = _
    rw [update_apply]
    split
    · rename_i h
      rw [h]
    · rfl
  refine ⟨fun _ => rfl, fun _ => rfl, rfl, ?_, ?_⟩
  · rw [hsocket]
    split
    · exact hwritten _
    · rfl
  · unfold Dead
    rw [hsocket]
    split
    · exact hdestroyed _
    · exact id

lemma Same.destroy (i j : ι) (s : IngestStore ι) : Same i s (s.destroy j) :=
  .onSocket i j s (fun _ => rfl) fun _ _ => rfl

lemma same_run (c : IngestCommand ι) (s : IngestStore ι) (h : c.sender ≠ some i) :
    Same i s (c.run s).1 := by
  have hother : ∀ {j : ι}, some j ≠ some i → i ≠ j := fun h hij => h (congrArg some hij.symm)
  cases c with
  | lpop me deviceId =>
    show Same i s (IngestCommand.run (.lpop me deviceId) s).1
    unfold IngestCommand.run
    dsimp only
    split
    · exact .refl i s
    · exact ⟨fun _ => rfl, fun _ => rfl, update_of_ne (hother h) .., rfl, id⟩
  | xadd stream entry =>
    refine ⟨fun stream' => ?_, fun _ => rfl, rfl, rfl, id⟩
    show (update s.streams stream _ stream').filter _ = (s.streams stream').filter _
    rw [update_apply]
    split
    · rename_i hstream
      subst hstream
      have hsender : ¬ entry.origin.sender = i := fun hi => h (congrArg some hi)
      rw [filter_append, filter_cons_of_neg (by rw [decide_eq_false hsender]; decide)]
      exact append_nil _
    · rfl
  | respond me deviceId response =>
    refine ⟨fun _ => rfl, fun deviceId' => ?_, rfl, rfl, id⟩
    show (update s.responses deviceId _ deviceId').filter _ = (s.responses deviceId').filter _
    rw [update_apply]
    split
    · rename_i hdevice
      subst hdevice
      have hsender : ¬ me = i := fun hi => h (congrArg some hi)
      rw [filter_append, filter_cons_of_neg (by rw [decide_eq_false hsender]; decide)]
      exact append_nil _
    · rfl
  | write me frame reply =>
    have hsocket : (s.write me frame reply).sockets i = s.sockets i := update_of_ne (hother h) ..
    exact ⟨fun _ => rfl, fun _ => rfl, rfl, congrArg Socket.written hsocket,
      fun hs => (congrArg Socket.destroyed hsocket).trans hs⟩
  | sendTo me reply =>
    have hsocket : (s.sendTo me reply).sockets i = s.sockets i := update_of_ne (hother h) ..
    exact ⟨fun _ => rfl, fun _ => rfl, rfl, congrArg Socket.written hsocket,
      fun hs => (congrArg Socket.destroyed hsocket).trans hs⟩
  | destroy me => exact .destroy i me s
  | close me =>
    show Same i s (s.onSocket me fun socket => { socket with ended := true })
    exact .onSocket i me s (fun _ => rfl) fun _ h => h
  | pause me =>
    show Same i s (s.onSocket me fun socket => { socket with paused := true })
    exact .onSocket i me s (fun _ => rfl) fun _ h => h
  | authenticated imei me =>
    show Same i s (s.authenticated imei me)
    unfold IngestStore.authenticated
    dsimp only
    split
    · split
      · exact ⟨fun _ => rfl, fun _ => rfl, rfl, rfl, id⟩
      · rename_i prior _ _
        have hsame := Same.destroy i prior s
        exact ⟨hsame.1, hsame.2, hsame.3, hsame.4, hsame.5⟩
    · exact ⟨fun _ => rfl, fun _ => rfl, rfl, rfl, id⟩
  | world event =>
    cases event with
    | hangUp socket => exact .destroy i socket s
    | _ => exact ⟨fun _ => rfl, fun _ => rfl, rfl, rfl, id⟩
  | hdelIfMine imei id =>
    show Same i s (if s.registry imei = some id then _ else s)
    split
    · exact ⟨fun _ => rfl, fun _ => rfl, rfl, rfl, fun h => h⟩
    · exact .refl i s
  | _ => exact ⟨fun _ => rfl, fun _ => rfl, rfl, rfl, id⟩

lemma same_answer (c : IngestCommand ι) (s : IngestStore ι) (fate : Fate)
    (h : c.sender ≠ some i) : Same i s ((ingestService ι).answer c s fate).1 := by
  cases fate with
  | refused => exact .refl i s
  | ok => exact same_run c s h
  | lost => exact same_run c s h

end Same

/-! ## In whose name a thread writes -/

/-- The command writes in the name of `me`, or in none. -/
def IngestCommand.Own (me : ι) (c : IngestCommand ι) : Prop := ∀ i, c.sender = some i → i = me

section Own

variable {config : SessionConfig} {me : ι}

omit [DecidableEq ι] in
lemma own_of_sender {c : IngestCommand ι} (h : c.sender = some me) : c.Own me := by
  intro i hi
  exact Option.some.inj (hi.symm.trans h)

omit [DecidableEq ι] in
lemma own_of_none {c : IngestCommand ι} (h : c.sender = none) : c.Own me := by
  intro i hi
  rw [h] at hi
  cases hi

lemma sends_own {c : IngestCommand ι} (h : c.Own me) :
    (send c).Sends (IngestCommand.Own me) := Async.Sends.send h

lemma sends_none {c : IngestCommand ι} (h : c.sender = none) :
    (send c).Sends (IngestCommand.Own me) := sends_own (own_of_none h)

lemma sends_write (number : ℕ) (reply : Reply) :
    (send (.write me number reply)).Sends (IngestCommand.Own me) := sends_own (own_of_sender rfl)

omit [DecidableEq ι] in
lemma mem_batchEntries {nowMs : Ms} {target : PersistTarget} {number : ℕ}
    {records : List AvlRecord} {entry : Stream × Entry ι} :
    entry ∈ batchEntries config nowMs target me number records ↔
      ∃ rec j, records[j]? = some rec ∧
        (rejectEntry config nowMs target me number (rec, j) = some entry ∨
          rawEntry config nowMs target me number (rec, j) = some entry) := by
  unfold batchEntries
  rw [mem_append, mem_filterMap, mem_filterMap]
  constructor
  · rintro (⟨⟨rec, j⟩, hmem, h⟩ | ⟨⟨rec, j⟩, hmem, h⟩)
    · exact ⟨rec, j, mem_zipIdx_iff_getElem?.mp hmem, .inl h⟩
    · exact ⟨rec, j, mem_zipIdx_iff_getElem?.mp hmem, .inr h⟩
  · rintro ⟨rec, j, hrec, h | h⟩
    · exact .inl ⟨(rec, j), mem_zipIdx_iff_getElem?.mpr hrec, h⟩
    · exact .inr ⟨(rec, j), mem_zipIdx_iff_getElem?.mpr hrec, h⟩

omit [DecidableEq ι] in
lemma origin_of_mem {nowMs : Ms} {target : PersistTarget} {number : ℕ}
    {records : List AvlRecord} {entry : Stream × Entry ι}
    (h : entry ∈ batchEntries config nowMs target me number records) :
    ∃ j, entry.2.origin = ⟨me, number, j⟩ := by
  obtain ⟨rec, j, -, hreject | hraw⟩ := mem_batchEntries.mp h
  · unfold rejectEntry at hreject
    obtain ⟨reason, -, rfl⟩ := Option.map_eq_some_iff.mp hreject
    exact ⟨j, rfl⟩
  · unfold rawEntry at hraw
    split at hraw
    · cases hraw
    · cases hraw
      exact ⟨j, rfl⟩

lemma sends_persistAvlBatch (target : PersistTarget) (number : ℕ) (records : List AvlRecord)
    (nowMs : Ms) :
    (persistAvlBatch config target me number records nowMs).Sends (IngestCommand.Own me) := by
  refine .foldlM (fun persisted entry hmem => ?_) 0
  obtain ⟨j, horigin⟩ := origin_of_mem hmem
  have hown : (IngestCommand.xadd entry.1 entry.2).Own me := by
    refine own_of_sender ?_
    show some entry.2.origin.sender = some me
    rw [horigin]
  exact ⟨hown, fun r => trivial⟩

lemma sends_parkUndecodableFrame (number : ℕ) (imei : Imei) (raw : Bytes) (nowMs : Ms)
    (reason : String) :
    (parkUndecodableFrame me number imei raw nowMs reason).Sends (IngestCommand.Own me) :=
  sends_own (own_of_sender rfl)

lemma sends_drainPending (number : ℕ) (deviceId : DeviceId) (turns : ℕ) :
    (drainPending me number deviceId turns).Sends (IngestCommand.Own me) := by
  have hone : (drainOne me number deviceId).Sends (IngestCommand.Own me) := by
    refine .bind (sends_none rfl) fun writable => ?_
    split
    · trivial
    refine .bind (sends_own (own_of_sender rfl)) fun raw => ?_
    cases raw with
    | none => trivial
    | some cmd =>
      cases cmd with
      | none => trivial
      | some cmd =>
        refine .bind (sends_none rfl) fun now => ?_
        split
        · trivial
        refine .bind (sends_none rfl) fun sentAtMs => ?_
        refine .bind (sends_none rfl) fun _ => ?_
        exact .bind (sends_write _ _) fun _ => trivial
  induction turns with
  | zero => trivial
  | succ turns ih =>
    refine .bind hone fun again => ?_
    split
    · exact ih
    · trivial

lemma sends_maybeBackpressure (shard : ℕ) :
    (maybeBackpressure config me shard).Sends (IngestCommand.Own me) :=
  .bind (sends_none rfl) fun _ => .when (sends_none rfl)

lemma sends_handleImei (number : ℕ) (frame : Frame) :
    (handleImei config me number frame).Sends (IngestCommand.Own me) := by
  unfold handleImei
  split
  · exact .bind (sends_none rfl) fun _ => trivial
  split
  · trivial
  · refine .bind (sends_none rfl) fun deviceId => ?_
    cases deviceId with
    | none =>
      refine .bind (sends_none rfl) fun _ => ?_
      refine .bind (sends_none rfl) fun _ => ?_
      refine .bind (sends_write _ _) fun _ => ?_
      split
      · exact .bind (sends_none rfl) fun _ => trivial
      · exact .bind (sends_none rfl) fun _ => trivial
    | some deviceId =>
      refine .bind (sends_none rfl) fun _ => ?_
      refine .bind (sends_write _ _) fun _ => ?_
      exact .bind (sends_drainPending _ _ _) fun _ => trivial
  · trivial
  · trivial

lemma sends_handleStreamFrame (number : ℕ) (target : PersistTarget) (frame : Frame) :
    (handleStreamFrame config me number target frame).Sends (IngestCommand.Own me) := by
  unfold handleStreamFrame
  split
  · refine .bind (sends_none rfl) fun now => ?_
    refine .bind (sends_parkUndecodableFrame _ _ _ _ _) fun _ => ?_
    refine .bind (sends_write _ _) fun _ => ?_
    exact .bind (sends_maybeBackpressure _) fun _ => sends_drainPending _ _ _
  · trivial
  · exact sends_write number (.ack 0)
  · exact sends_write number (.ack 0)
  · exact sends_own (own_of_sender rfl)
  · trivial
  · refine .bind (sends_none rfl) fun mapped => ?_
    split
    · exact .bind (sends_none rfl) fun _ => trivial
    refine .bind (sends_none rfl) fun now => ?_
    refine .bind (sends_persistAvlBatch _ _ _ _) fun persisted => ?_
    refine .bind (sends_write _ _) fun _ => ?_
    exact .bind (sends_maybeBackpressure _) fun _ => sends_drainPending _ _ _

lemma sends_handleFrame (st : SessionState) (frame : Frame) :
    (handleFrame config me st frame).Sends (IngestCommand.Own me) := by
  unfold handleFrame
  split
  · exact sends_handleImei _ _
  · exact .bind (sends_handleStreamFrame _ _ _) fun _ => trivial

lemma sends_handleFrames (st : SessionState) (frames : List Frame) :
    (handleFrames config me st frames).Sends (IngestCommand.Own me) := by
  induction frames generalizing st with
  | nil => trivial
  | cons frame frames ih =>
    refine .bind (sends_handleFrame st frame) fun target => ?_
    refine .bind (sends_none rfl) fun destroyed => ?_
    split
    · trivial
    · exact ih _

lemma sends_guarded {st : SessionState} {m : Program ι SessionState}
    (hm : m.Sends (IngestCommand.Own me)) : (guarded me st m).Sends (IngestCommand.Own me) :=
  .attempt hm fun _ => .bind (sends_none rfl) fun _ => trivial

lemma sends_onData (st : SessionState) (chunk : Bytes) :
    (onData config me st chunk).Sends (IngestCommand.Own me) := by
  refine .bind (sends_none rfl) fun destroyed => ?_
  split
  · trivial
  split
  · exact .bind (sends_none rfl) fun _ => trivial
  · exact sends_guarded (sends_handleFrames _ _)

lemma sends_session (st : SessionState) (chunks : List Bytes) :
    (session config me st chunks).Sends (IngestCommand.Own me) := by
  induction chunks generalizing st with
  | nil => trivial
  | cons chunk chunks ih => exact .bind (sends_onData st chunk) ih

lemma sends_handle (datagram : Bytes) :
    (handle config me datagram).Sends (IngestCommand.Own me) := by
  have hanswer : ∀ head : UdpHeader, ∀ count : ℕ, (do
      let _ : Unit ← send (.sendTo me (.udpAck head.packetId head.avlPacketId (count % 256)))
      pure none : Program ι (Option Drop)).Sends (IngestCommand.Own me) :=
    fun head count => .bind (sends_own (own_of_sender rfl)) fun _ => trivial
  refine .bind (sends_none rfl) fun admits => ?_
  split
  · trivial
  split
  · trivial
  · trivial
  · trivial
  · trivial
  refine .bind (sends_none rfl) fun deviceId => ?_
  cases deviceId with
  | none =>
    refine .bind (sends_none rfl) fun _ => ?_
    exact .bind (sends_none rfl) fun _ => trivial
  | some deviceId =>
    dsimp only
    split
    · refine .bind (sends_none rfl) fun now => ?_
      exact .bind (sends_parkUndecodableFrame _ _ _ _ _) fun _ => hanswer _ _
    · trivial
    · exact hanswer _ _
    · exact hanswer _ _
    · refine .bind (sends_none rfl) fun depth => ?_
      split
      · trivial
      refine .bind (sends_none rfl) fun now => ?_
      exact .bind (sends_persistAvlBatch _ _ _ _) fun _ => hanswer _ _
    · exact hanswer _ _
    · exact hanswer _ _

/-- **A thread writes only in its own name.** -/
lemma sends_program (call : IngestCall ι) :
    (call.program config me).Sends (IngestCommand.Own me) := by
  cases call with
  | session chunks => exact .bind (sends_session _ _) fun _ => trivial
  | datagram bytes => exact sends_handle bytes
  | activate device =>
    refine .bind (.bind (sends_none rfl) fun _ => sends_none rfl) fun _ => trivial
  | deactivate device keepLastFix =>
    refine .bind (.bind (sends_none rfl) fun _ => sends_none rfl) fun _ => trivial
  | outside events =>
    refine .bind (.foldlM (fun _ event _ => ?_) ()) fun _ => trivial
    exact Async.Sends.send (own_of_none rfl)

end Own

end Orbetra.Ingest
