import Orbetra.Ingest.Session

/-!
# The feed of a retired device

A session keeps the id of its device, and asks the registry again for the frames of records only.

Once `deactivateDevice` has returned, and until the device is activated again, the frames of a live
session of the device leave nothing behind, unless an undecodable frame or a command response is
among those that it handles before the first frame of records (`retired_feed_cut`,
`retired_feed_kept`). -/

namespace Orbetra.Ingest

open Codec Function Async List

variable {ι : Type} [DecidableEq ι] {config : SessionConfig}

/-! ## What a frame leaves behind -/

def IngestStore.ackedAboveZero (s : IngestStore ι) (i : ι) : List (ℕ × Reply) :=
  (s.sockets i).written.filter fun answer => answer.2.acked.any (0 < ·)

/-- Connection `i` appends nothing, pops nothing, and acknowledges no record. -/
structure Quiet (i : ι) (s s' : IngestStore ι) : Prop where
  posted : ∀ stream, s'.posted i stream = s.posted i stream
  responded : ∀ deviceId, s'.responded i deviceId = s.responded i deviceId
  popped : s'.popped i = s.popped i
  acked : s'.ackedAboveZero i = s.ackedAboveZero i

def Off (imei : Imei) (d : DeviceId) (s : IngestStore ι) : Prop := s.registry imei ≠ some d

def IngestCommand.activates (d : DeviceId) : IngestCommand ι → Bool
  | .activate device _ => device.id = d
  | _ => false

section Steps

variable {i : ι} {imei : Imei} {d : DeviceId} {s s' s'' : IngestStore ι}

lemma Quiet.refl (i : ι) (s : IngestStore ι) : Quiet i s s := ⟨fun _ => rfl, fun _ => rfl, rfl, rfl⟩

lemma Quiet.trans (h : Quiet i s s') (h' : Quiet i s' s'') : Quiet i s s'' where
  posted stream := (h'.posted stream).trans (h.posted stream)
  responded deviceId := (h'.responded deviceId).trans (h.responded deviceId)
  popped := h'.popped.trans h.popped
  acked := h'.acked.trans h.acked

lemma Same.quiet (h : Same i s s') : Quiet i s s' where
  posted := h.posted
  responded := h.responded
  popped := h.popped
  acked := congrArg (filter _) h.written

lemma quiet_write (number : ℕ) {reply : Reply} (h : reply.acked.any (0 < ·) = false)
    (s : IngestStore ι) (fate : Fate) :
    Quiet i s ((ingestService ι).answer (.write i number reply) s fate).1 := by
  have hrun : Quiet i s (s.write i number reply) := by
    refine ⟨fun _ => rfl, fun _ => rfl, rfl, ?_⟩
    show ((update s.sockets i _ i).written).filter _ = _
    rw [update_self]
    split
    · rfl
    · show (_ ++ [_]).filter _ = _
      rw [filter_append, filter_cons_of_neg (by rw [h]; decide)]
      exact append_nil _
  cases fate with
  | refused => exact .refl i s
  | ok => exact hrun
  | lost => exact hrun

/-- The registry takes no device up again but by an activation. -/
lemma off_answer (c : IngestCommand ι) (hc : c.activates d = false) (s : IngestStore ι)
    (fate : Fate) (hs : Off imei d s) : Off imei d ((ingestService ι).answer c s fate).1 := by
  have hrun : Off imei d (c.run s).1 := by
    cases c with
    | activate device prevTenant =>
      show update s.registry device.imei (some device.id) imei ≠ some d
      rw [update_apply]
      split
      · intro h
        exact of_decide_eq_false hc (Option.some.inj h)
      · exact hs
    | hdelIfMine imei' id =>
      show (if s.registry imei' = some id then
        { s with registry := update s.registry imei' none } else s).registry imei ≠ _
      split
      · show update s.registry imei' none imei ≠ some d
        rw [update_apply]
        split
        · exact Option.some_ne_none d |>.symm
        · exact hs
      · exact hs
    | lpop me deviceId =>
      show (IngestCommand.run (.lpop me deviceId) s).1.registry imei ≠ _
      unfold IngestCommand.run
      dsimp only
      split
      · exact hs
      · exact hs
    | authenticated imei' me =>
      show (s.authenticated imei' me).registry imei ≠ _
      unfold IngestStore.authenticated
      dsimp only
      split
      · split
        · exact hs
        · exact hs
      · exact hs
    | world event => cases event <;> exact hs
    | _ => exact hs
  cases fate with
  | refused => exact hs
  | ok => exact hrun
  | lost => exact hrun

/-- Once the registry has dropped the device, it does not map to it. -/
lemma off_hdelIfMine (imei : Imei) (d : DeviceId) (s : IngestStore ι) :
    Off imei d (IngestCommand.run (.hdelIfMine imei d) s).1 := by
  show (if s.registry imei = some d then
    { s with registry := update s.registry imei none } else s).registry imei ≠ _
  split
  · show update s.registry imei none imei ≠ some d
    rw [update_self]
    exact Option.some_ne_none d |>.symm
  · rename_i h
    exact h

end Steps

/-! ## The frames that are still to come -/

/-- The frames of the chunks that are still to come, as far as the framer reads them. -/
def upcoming (config : SessionConfig) : Bytes → List Bytes → List Frame
  | _, [] => []
  | buf, chunk :: chunks =>
    match feed config.maxDataLength buf chunk with
    | .ok (frames, rest) => frames ++ upcoming config rest chunks
    | .error _ => []

/-- A frame after which no other is handled, where its device is not registered. -/
def endsSession (config : SessionConfig) (frame : Frame) : Bool :=
  match parseFrame config.protocolParser frame with
  | .ok (.avl ..) | .error .other => true
  | _ => false

/-- A frame for which the registry is not asked. -/
def isUnchecked (config : SessionConfig) (frame : Frame) : Bool :=
  match parseFrame config.protocolParser frame with
  | .error (.undecodable _) | .ok (.cmdResponse ..) => true
  | _ => false

/-- Every frame that is handled without a question to the registry is refused, or is no packet. -/
def Checked (config : SessionConfig) (frames : List Frame) : Prop :=
  ∀ frame ∈ frames.takeWhile fun frame => !endsSession config frame,
    isUnchecked config frame = false

instance (config : SessionConfig) (frames : List Frame) : Decidable (Checked config frames) :=
  inferInstanceAs (Decidable (∀ frame ∈ frames.takeWhile _, _))

lemma Checked.head {frame : Frame} {frames : List Frame} (h : Checked config (frame :: frames)) :
    endsSession config frame = true ∨ isUnchecked config frame = false ∧ Checked config frames := by
  unfold Checked at h
  cases hends : endsSession config frame with
  | true => exact .inl rfl
  | false =>
    rw [takeWhile_cons_of_pos (by rw [hends]; rfl)] at h
    exact .inr (forall_mem_cons.mp h)

/-! ## A session of the device, while it is retired -/

section Window

variable {α β : Type} {i : ι} {imei : Imei} {d : DeviceId} {s : IngestStore ι}

/-- What the others do while the device is retired. -/
def Elsewhere (i : ι) (imei : Imei) (d : DeviceId) (s s' : IngestStore ι) : Prop :=
  Same i s s' ∧ (Off imei d s → Off imei d s')

/-- What a thread does. -/
def Hushed (i : ι) (imei : Imei) (d : DeviceId) (quiet : Bool) (c : IngestCommand ι)
    (s s' : IngestStore ι) : Prop :=
  (∀ j, j ≠ i → Same j s s') ∧ (c.activates d = false → Off imei d s → Off imei d s') ∧
    (quiet = true → Quiet i s s')

/-- The program of the session leaves nothing behind. -/
abbrev Silent (i : ι) (imei : Imei) (d : DeviceId) (Q : α → IngestStore ι → Prop)
    (m : Program ι α) (s : IngestStore ι) : Prop :=
  m.Meets (fun _ _ _ => True) (fun _ => Elsewhere i imei d) (Hushed i imei d true) (Returning Q) s

variable {c : IngestCommand ι}

lemma hushed_answer (hc : c.Own i) {quiet : Bool} {fate : Fate}
    (hquiet : quiet = true → Quiet i s ((ingestService ι).answer c s fate).1) :
    Hushed i imei d quiet c s ((ingestService ι).answer c s fate).1 :=
  ⟨fun j hj => same_answer c s fate fun hsender => hj (hc j hsender),
    fun hactivates hs => off_answer c hactivates s fate hs, hquiet⟩

lemma stable_off : Stable (Elsewhere i imei d) (Off imei d) := fun _ _ h hs => h.2 hs

lemma stable_dead : Stable (Elsewhere i imei d) (Dead i) := fun _ _ h hs => h.1.destroyed hs

variable {Q : α → IngestStore ι → Prop}

lemma silent_threw (s : IngestStore ι) : Silent i imei d Q (.threw ()) s :=
  .threw (fun _ => True) trivial (fun _ _ _ _ => trivial) fun _ _ => trivial

lemma silent_done {a : α} (J : IngestStore ι → Prop) (hs : J s)
    (hJ : Stable (Elsewhere i imei d) J) (h : ∀ s, J s → Q a s) :
    Silent i imei d Q (.done a) s := .done J hs hJ h

lemma silent_send {f : c.Answer → Program ι α} (J : IngestStore ι → Prop) (hs : J s)
    (hJ : Stable (Elsewhere i imei d) J) (hc : c.Own i)
    (hquiet : ∀ s fate, Quiet i s ((ingestService ι).answer c s fate).1)
    (h : ∀ s, J s → Silent i imei d Q (f (c.run s).2) (c.run s).1) :
    Silent i imei d Q (send c >>= f) s :=
  Meets.send (V := ingestService ι) J hs hJ
    (fun s hs => ⟨hushed_answer hc fun _ => hquiet s .ok, h s hs⟩)
    (fun s _ => ⟨hushed_answer hc fun _ => hquiet s .refused, silent_threw s⟩)
    fun _ _ => silent_threw _

lemma silent_plain {f : c.Answer → Program ι α} (J : IngestStore ι → Prop) (hs : J s)
    (hJ : Stable (Elsewhere i imei d) J) (hc : c.sender = none)
    (h : ∀ s, J s → Silent i imei d Q (f (c.run s).2) (c.run s).1) :
    Silent i imei d Q (send c >>= f) s := by
  refine silent_send J hs hJ (own_of_none hc) (fun s fate => (same_answer c s fate ?_).quiet) h
  rw [hc]
  exact (Option.some_ne_none i).symm

/-- The connection is closed. -/
lemma silent_destroy {f : Unit → Program ι α} (h : ∀ s, Dead i s → Silent i imei d Q (f ()) s) :
    Silent i imei d Q (send (.destroy i) >>= f) s := by
  refine silent_plain (fun _ => True) trivial (fun _ _ _ _ => trivial) rfl fun s _ => h _ ?_
  show (update s.sockets i _ i).destroyed = true
  rw [update_self]

lemma silent_bind {m : Program ι α} {f : α → Program ι β} {R : β → IngestStore ι → Prop}
    (hm : Silent i imei d Q m s) (h : ∀ a s, Q a s → Silent i imei d R (f a) s) :
    Silent i imei d R (m >>= f) s := Meets.bind hm h fun _ _ _ => trivial

variable {target : PersistTarget}

lemma silent_handleStreamFrame {number : ℕ} {frame : Frame}
    (htarget : target.imei = imei ∧ target.deviceId = d)
    (hframe : endsSession config frame = true ∨ isUnchecked config frame = false)
    (hs : Off imei d s) :
    Silent i imei d (fun _ s => Dead i s ∨ endsSession config frame = false ∧ Off imei d s)
      (handleStreamFrame config i number target frame) s := by
  obtain ⟨rfl, rfl⟩ := htarget
  unfold endsSession isUnchecked at hframe
  unfold handleStreamFrame endsSession
  have hnext : ∀ s, Off target.imei target.deviceId s →
      Dead i s ∨ false = false ∧ Off target.imei target.deviceId s := fun s hs => .inr ⟨rfl, hs⟩
  have hrefused : Silent i target.imei target.deviceId
      (fun _ s => Dead i s ∨ false = false ∧ Off target.imei target.deviceId s)
      (send (.write i number (.ack 0))) s := by
    rw [← bind_done (send _)]
    refine silent_send (Off _ _) hs stable_off (own_of_sender rfl) (quiet_write number rfl) ?_
    exact fun s hs => silent_done (Off _ _) hs stable_off hnext
  cases hparse : parseFrame config.protocolParser frame with
  | error e =>
    rw [hparse] at hframe
    cases e with
    | frame => exact hrefused
    | crc => exact hrefused
    | undecodable declaredCount => rcases hframe with h | h <;> cases h
    | other => exact silent_threw s
  | ok packet =>
    rw [hparse] at hframe
    cases packet with
    | imei imei => exact silent_done (Off _ _) hs stable_off hnext
    | cmdResponse codec text nack => rcases hframe with h | h <;> cases h
    | avl codec records =>
      refine silent_plain (Off _ _) hs stable_off rfl fun s hs => ?_
      have hmapped : s.registry target.imei ≠ some target.deviceId := hs
      show Silent _ _ _ _ (if s.registry target.imei ≠ some target.deviceId then _ else _) s
      rw [if_pos hmapped]
      exact silent_destroy fun s hs => silent_done (Dead i) hs stable_dead fun _ h => .inl h

/-- The connection is closed, or it streams on, with frames to come that leave nothing behind. -/
def Follows (config : SessionConfig) (i : ι) (target : PersistTarget) (buf : Bytes)
    (later : List Frame) (st : SessionState) (s : IngestStore ι) : Prop :=
  Dead i s ∨ Off target.imei target.deviceId s ∧ st.target = some target ∧ st.buf = buf ∧
    Checked config later

variable {frames later : List Frame} {buf : Bytes} {st : SessionState}

lemma silent_handleFrames (htarget : st.target = some target) (hbuf : st.buf = buf)
    (hframes : Checked config (frames ++ later)) (hs : Off target.imei target.deviceId s) :
    Silent i target.imei target.deviceId (Follows config i target buf later)
      (handleFrames config i st frames) s := by
  induction frames generalizing st s with
  | nil => exact silent_done (Off _ _) hs stable_off fun _ hs => .inr ⟨hs, htarget, hbuf, hframes⟩
  | cons frame frames ih =>
    have hhead : endsSession config frame = true ∨ isUnchecked config frame = false :=
      hframes.head.imp id And.left
    unfold handleFrames
    have hframe : Silent i target.imei target.deviceId
        (fun target' s => target' = some target ∧
          (Dead i s ∨ endsSession config frame = false ∧ Off target.imei target.deviceId s))
        (handleFrame config i st frame) s := by
      unfold handleFrame
      rw [htarget]
      refine silent_bind (silent_handleStreamFrame ⟨rfl, rfl⟩ hhead hs) fun _ s hs => ?_
      rcases hs with hdead | ⟨hends, hoff⟩
      · exact silent_done (Dead i) hdead stable_dead fun _ h => ⟨rfl, .inl h⟩
      · exact silent_done (Off _ _) hoff stable_off fun _ h => ⟨rfl, .inr ⟨hends, h⟩⟩
    refine silent_bind hframe fun target' s hs => ?_
    obtain ⟨rfl, hdead | ⟨hends, hoff⟩⟩ := hs
    · refine silent_plain (Dead i) hdead stable_dead rfl fun s hs => ?_
      show Silent _ _ _ _ (if (s.sockets i).destroyed = true then _ else _) s
      rw [if_pos (dead_iff.mp hs)]
      exact silent_done (Dead i) hs stable_dead fun _ h => .inl h
    · refine silent_plain (Off _ _) hoff stable_off rfl fun s hs => ?_
      show Silent _ _ _ _ (if (s.sockets i).destroyed = true then _ else _) s
      split
      · rename_i hdestroyed
        exact silent_done (Dead i) hdestroyed stable_dead fun _ h => .inl h
      · rcases hframes.head with h | ⟨-, hrest⟩
        · rw [hends] at h
          cases h
        · exact ih rfl hbuf hrest hs

lemma silent_guarded {before : SessionState} (htarget : st.target = some target)
    (hbuf : st.buf = buf) (hframes : Checked config (frames ++ later))
    (hs : Off target.imei target.deviceId s) :
    Silent i target.imei target.deviceId (Follows config i target buf later)
      (guarded i before (handleFrames config i st frames)) s := by
  refine Meets.attempt (silent_handleFrames htarget hbuf hframes hs) (fun _ _ h => h) ?_
  intro _ s _
  exact silent_destroy fun s hs => silent_done (Dead i) hs stable_dead fun _ h => .inl h

lemma silent_session {chunks : List Bytes}
    (h : Follows config i target st.buf (upcoming config st.buf chunks) st s) :
    Silent i target.imei target.deviceId (fun _ _ => True) (session config i st chunks) s := by
  induction chunks generalizing st s with
  | nil => exact silent_done (fun _ => True) trivial (fun _ _ _ _ => trivial) fun _ _ => trivial
  | cons chunk chunks ih =>
    unfold session
    have hchunk : Silent i target.imei target.deviceId
        (fun st' s => Follows config i target st'.buf (upcoming config st'.buf chunks) st' s)
        (onData config i st chunk) s := by
      rcases h with hs | ⟨hoff, htarget, -, hframes⟩
      · refine silent_plain (Dead i) hs stable_dead rfl fun s hs => ?_
        show Silent _ _ _ _ (if (s.sockets i).destroyed = true then _ else _) s
        rw [if_pos (dead_iff.mp hs)]
        exact silent_done (Dead i) hs stable_dead fun _ h => .inl h
      refine silent_plain (Off _ _) hoff stable_off rfl fun s hs => ?_
      show Silent _ _ _ _ (if (s.sockets i).destroyed = true then _ else _) s
      split
      · rename_i hdestroyed
        exact silent_done (Dead i) hdestroyed stable_dead fun _ h => .inl h
      unfold upcoming at hframes
      split
      · exact silent_destroy fun s hs => silent_done (Dead i) hs stable_dead fun _ h => .inl h
      · rename_i frames buf hfeed
        rw [hfeed] at hframes
        have hrest : Silent i target.imei target.deviceId
            (Follows config i target buf (upcoming config buf chunks))
            (guarded i st (handleFrames config i { st with buf := buf } frames)) s :=
          silent_guarded htarget rfl hframes hs
        refine hrest.mono fun r s hr => ?_
        cases r with
        | error e => trivial
        | ok st' =>
          rcases hr with hdead | ⟨hoff, htarget', hbuf, hchecked⟩
          · exact .inl hdead
          · refine .inr ⟨hoff, htarget', rfl, ?_⟩
            rw [hbuf]
            exact hchecked
    exact silent_bind hchunk fun st' s hs => ih hs

end Window

/-! ## Runs -/

section Runs

variable {i j : ι} {imei : Imei} {d : DeviceId} {calls : ι → IngestCall ι}
  {start : IngestStore ι} {p p' p'' : IngestPool ι}

/-- The device is not activated, once the deactivation of thread `j` has dropped it from the
registry. -/
def NotAgain (j : ι) (imei : Imei) (d : DeviceId) (p : IngestPool ι) (_ : ι)
    (c : IngestCommand ι) (_ : Fate) : Prop :=
  c.activates d = true → (p.thread j).pending = some (.hdelIfMine imei d)

def NoActivation (d : DeviceId) (_ : IngestPool ι) (_ : ι) (c : IngestCommand ι) (_ : Fate) :
    Prop := c.activates d = false

/-- A deactivation that has returned leaves the device unregistered. -/
lemma off_of_deactivated {tenantId : TenantId} {keepLastFix : Bool} {r : Option Drop}
    (hcall : calls j = .deactivate ⟨d, imei, tenantId⟩ keepLastFix)
    (hrun : Pool.Run (NotAgain j imei d) (ingestCalls config calls start) p)
    (hdone : p.thread j = .done r) : Off imei d p.state := by
  let env : ι → Option (IngestCommand ι) → IngestStore ι → IngestStore ι → Prop :=
    fun k waiting s s' => k = j → waiting ≠ some (.hdelIfMine imei d) → Off imei d s → Off imei d s'
  let own : ι → IngestCommand ι → IngestStore ι → IngestStore ι → Prop :=
    fun _ c s s' => c.activates d = false → Off imei d s → Off imei d s'
  let Q : ι → Except Unit (Option Drop) → IngestStore ι → Prop :=
    fun k r s => Returning (fun _ s => k = j → Off imei d s) r s
  have hcompatible : Pool.Compatible (V := ingestService ι) (ε := Unit) (α := Option Drop)
      (NotAgain j imei d) (fun _ _ _ _ => True) env own := by
    intro p k c fate p' _ hfits
    refine ⟨trivial, fun hown l _ hl hwaiting hs => hown ?_ hs⟩
    subst hl
    cases hactivates : c.activates d with
    | false => rfl
    | true => exact absurd (hfits hactivates) hwaiting
  have hmeets : (ingestCalls config calls start).Meets (fun _ _ _ _ => True) env own Q := by
    intro k
    by_cases hk : k = j
    swap
    · have hsends : ((calls k).program config k).Sends (IngestCommand.Own k) :=
        sends_program (calls k)
      refine (hsends.meets (fun c _ s fate hc hs => off_answer c hc s fate hs) start).mono
        fun r s _ => ?_
      cases r with
      | ok a => exact fun h => absurd h hk
      | error e => trivial
    subst hk
    show ((calls k).program config k).Meets _ _ _ _ start
    rw [hcall]
    have hthrew : ∀ s, (threw () : Program ι Unit).Meets (fun _ _ _ => True) (env k) (own k)
        (Returning fun _ => Off imei d) s :=
      fun s => .threw (fun _ => True) trivial (fun _ _ _ _ => trivial) fun _ _ => trivial
    have hstable : ∀ waiting, waiting ≠ some (.hdelIfMine imei d) →
        Stable (env k waiting) (Off imei d) := fun _ hwaiting _ _ h hs => h rfl hwaiting hs
    have hdeactivate : (deactivateDevice ⟨d, imei, tenantId⟩ keepLastFix : Program ι Unit).Meets
        (fun _ _ _ => True) (env k) (own k) (Returning fun _ => Off imei d) start := by
      unfold deactivateDevice
      refine Meets.send (V := ingestService ι) (fun _ => True) trivial
        (fun _ _ _ _ => trivial) (fun s _ => ⟨fun hc => off_answer _ hc s .ok, ?_⟩)
        (fun s _ => ⟨fun _ h => h, hthrew s⟩) fun s _ => hthrew _
      rw [← bind_done (send _)]
      refine Meets.send (V := ingestService ι) (Off imei d) (off_hdelIfMine imei d s)
        (hstable _ fun h => by cases h) (fun s hs => ⟨fun hc => off_answer _ hc s .ok, ?_⟩)
        (fun s _ => ⟨fun _ h => h, hthrew s⟩) fun s _ => hthrew _
      exact .done (Off imei d) (off_answer (.clearDevice _ _) rfl s .ok hs)
        (hstable _ fun h => by cases h) fun _ hs => hs
    refine Meets.bind hdeactivate (fun _ s hs => ?_) fun _ _ _ => trivial
    exact .done (Off imei d) hs (hstable _ fun h => by cases h) fun _ hs _ => hs
  exact (hrun.meets hcompatible hmeets).returned hdone rfl

/-- A device that is not registered stays so, until it is activated. -/
lemma off_kept (hrun : Pool.Run (NoActivation d) p p') (hs : Off imei d p.state) :
    Off imei d p'.state := by
  induction hrun with
  | refl => exact hs
  | step _ hstep hfits ih =>
    obtain ⟨k, -, rfl⟩ := hstep
    exact off_answer _ hfits _ _ ih

/-- **The frames of a retired device leave nothing behind**: once its deactivation has returned, a
session that is about to handle a frame appends nothing, pops no command and acknowledges no record,
as long as the device is not activated again, where every frame that it handles before its first
frame of records is neither undecodable nor a command response. -/
theorem retired_feed_cut {tenantId : TenantId} {keepLastFix : Bool} {before st : SessionState}
    {shard : ℕ} {frames : List Frame} {chunks : List Bytes}
    (hcall : calls j = .deactivate ⟨d, imei, tenantId⟩ keepLastFix)
    (hrun : Pool.Run (NotAgain j imei d) (ingestCalls config calls start) p)
    (hdone : p.thread j = .done none) (hsince : Pool.Run (NoActivation d) p p')
    (hsession : p'.thread i = do
      let _ ← resume config i before st frames chunks
      pure none)
    (htarget : st.target = some ⟨d, imei, shard⟩)
    (hframes : Checked config (frames ++ upcoming config st.buf chunks))
    (hlater : Pool.Run (NoActivation d) p' p'') : Quiet i p'.state p''.state := by
  let env : ι → Option (IngestCommand ι) → IngestStore ι → IngestStore ι → Prop :=
    fun k _ => if k = i then Elsewhere i imei d else fun _ _ => True
  let own : ι → IngestCommand ι → IngestStore ι → IngestStore ι → Prop :=
    fun k => Hushed k imei d (k = i)
  have hoff : Off imei d p'.state := off_kept hsince (off_of_deactivated hcall hrun hdone)
  have hcompatible : Pool.Compatible (V := ingestService ι) (ε := Unit) (α := Option Drop)
      (NoActivation d) (fun _ _ _ _ => True) env own := by
    intro p k c fate p' _ hfits
    refine ⟨trivial, fun hown l hl => ?_⟩
    show (if l = i then Elsewhere i imei d else fun _ _ => True) _ _
    split
    · rename_i hli
      subst hli
      exact ⟨hown.1 l hl, hown.2.1 hfits⟩
    · trivial
  have hmeets : p'.Meets (fun _ _ _ _ => True) env own fun _ _ _ => True := by
    intro k
    by_cases hk : k = i
    · subst hk
      have hsilent : Silent k imei d (fun _ _ => True) (p'.thread k) p'.state := by
        rw [hsession]
        refine silent_bind (Q := fun _ _ => True) ?_ fun _ s _ =>
          silent_done (fun _ => True) trivial (fun _ _ _ _ => trivial) fun _ _ => trivial
        exact silent_bind (silent_guarded htarget rfl hframes hoff) fun st' s hs => silent_session
          (hs.imp id fun h => ⟨h.1, h.2.1, rfl, h.2.2.1.symm ▸ h.2.2.2⟩)
      show (p'.thread k).Meets _ (fun _ => if k = k then _ else _) (Hushed k imei d (k = k)) _ _
      rw [if_pos rfl, decide_eq_true rfl]
      exact hsilent.mono fun _ _ _ => trivial
    · have hsends : (p'.thread k).Sends (IngestCommand.Own k) :=
        (hrun.reaches.trans (hsince.reaches)).sends (sends_program (calls k))
      refine hsends.meets (fun c hc s fate => ?_) _
      exact hushed_answer hc fun h => absurd (of_decide_eq_true h) hk
  exact hlater.keeps hcompatible hmeets (Quiet.refl i) (fun _ _ _ => Quiet.trans)
    fun k c s s' hown => by
      by_cases hk : k = i
      · subst hk
        exact hown.2.2 (decide_eq_true rfl)
      · exact (hown.1 i (Ne.symm hk)).quiet

instance (p : IngestPool ι) (k : ι) (c : IngestCommand ι) (fate : Fate) :
    Decidable (NotAgain j imei d p k c fate) :=
  inferInstanceAs (Decidable (c.activates d = true → (p.thread j).pending = some _))

instance (p : IngestPool ι) (k : ι) (c : IngestCommand ι) (fate : Fate) :
    Decidable (NoActivation d p k c fate) := inferInstanceAs (Decidable (c.activates d = false))

end Runs

/-! A device with one session, its retirement, and a command that is queued afterwards. -/

/-- A parser that reads no packet. -/
def sampleConfig : SessionConfig := ⟨fun _ => .error "repeated id", 4096, 50000, 0, 0⟩

/-- A frame with a wrong checksum. -/
def corrupt : Bytes := [0, 0, 0, 0, 0, 0, 0, 3, 8, 0, 0, 0, 0, 0, 1]

def response : Bytes := wrapAsTcpFrame [0x0c, 1, 6, 0, 0, 0, 1, 65, 1]

/-- A frame of one record. -/
def undecodable : Bytes := wrapAsTcpFrame oneRecord

def sampleStore : IngestStore (Fin 3) := onlyDevice "12345678" 7

def sampleCommand : PendingCommand := ⟨"c", "getver", none, none⟩

def retireAndQueue (chunk : Bytes) : Fin 3 → IngestCall (Fin 3)
  | 0 => .session [handshake, chunk]
  | 1 => .deactivate ⟨7, "12345678", "t"⟩ false
  | 2 => .outside [.queue 7 (some sampleCommand)]

/-- The session is accepted, and its device is retired. -/
def retired (chunk : Bytes) : IngestPool (Fin 3) :=
  (ingestCalls sampleConfig (retireAndQueue chunk) sampleStore).exec
    (replicate 7 (0, Fate.ok) ++ replicate 2 (1, Fate.ok))

/-- A command is queued, and the session goes on. -/
def afterwards (chunk : Bytes) : IngestPool (Fin 3) :=
  (retired chunk).exec ((2, .ok) :: replicate 13 (0, .ok))

/-- The session is at the boundary of a frame. -/
def accepted : SessionState := ⟨[], 1, some ⟨7, "12345678", 14⟩⟩

lemma run_retired (chunk : Bytes) : Pool.Run (NotAgain 1 "12345678" 7)
    (ingestCalls sampleConfig (retireAndQueue chunk) sampleStore) (retired chunk) :=
  Pool.run_exec_of_isSome _ _ rfl

lemma session_retired (chunk : Bytes) : (retired chunk).thread 0 = (do
    let _ ← resume sampleConfig 0 accepted accepted [] [chunk]
    pure none) := rfl

lemma run_afterwards_corrupt : Pool.Run (NoActivation 7) (retired corrupt) (afterwards corrupt) :=
  Pool.run_exec_of_isSome _ _ (by decide +kernel)

/-- A corrupt frame is answered with zero, and the command stays in the queue. -/
theorem retired_feed_cut_corrupt :
    ((afterwards corrupt).state.sockets 0).written = [(0, .imei true), (1, .ack 0)] ∧
      Quiet 0 (retired corrupt).state (afterwards corrupt).state :=
  ⟨by decide +kernel, retired_feed_cut (j := 1) rfl (run_retired corrupt) rfl (.refl _)
    (session_retired corrupt) rfl (by decide +kernel) run_afterwards_corrupt⟩

/-- A response and an undecodable frame, which are taken from a device that is retired. -/
theorem retired_feed_kept :
    Pool.Run (NotAgain 1 "12345678" 7)
      (ingestCalls sampleConfig (retireAndQueue (response ++ undecodable)) sampleStore)
      (retired (response ++ undecodable)) ∧
    (retired (response ++ undecodable)).thread 1 = .done none ∧
    Pool.Run (NoActivation 7) (retired (response ++ undecodable))
      (afterwards (response ++ undecodable)) ∧
    (retired (response ++ undecodable)).state.responded 0 7 = [] ∧
    (afterwards (response ++ undecodable)).state.responded 0 7 = [(0, ⟨12, "A", false⟩)] ∧
    (afterwards (response ++ undecodable)).state.posted 0 .unsupported =
      [⟨⟨0, 2, 0⟩, .frame "12345678" 0 undecodable "undecodable-records"⟩] ∧
    (afterwards (response ++ undecodable)).state.ackedAboveZero 0 = [(2, .ack 1)] ∧
    (afterwards (response ++ undecodable)).state.popped 0 = [some sampleCommand] := by
  refine ⟨run_retired _, rfl, Pool.run_exec_of_isSome _ _ (by decide +kernel), ?_⟩
  decide +kernel

end Orbetra.Ingest
