import Orbetra.Ingest.Session

/-!
# What is acknowledged is stored

The acknowledgements of a session and of a datagram, among any other sessions, datagrams and calls
of the registry, where every command to Redis may fail and the process may stop at any await.

Each AVL frame of a session gets one acknowledgement, in the order of the frames, unless the session
ends first; a datagram gets at most one, and none only where it is dropped or its handler fails.  A
frame that is acknowledged with the count that it declares has been stored
(`acknowledged_stored`). -/

namespace Orbetra.Ingest

open Codec Function List

variable {ι : Type} [DecidableEq ι] {config : SessionConfig}

/-! ## Acknowledgements and what is stored -/

/-- A frame, and the bytes that are parked where it cannot be decoded. -/
structure Packet where
  frame : Frame
  parked : Bytes

/-- The frames of a stream of bytes. -/
def packetsOf (config : SessionConfig) (bytes : Bytes) : List Packet :=
  (extractAll config.maxDataLength bytes).1.map fun frame => ⟨frame, frame.bytes⟩

/-- The frame of a datagram. -/
def packetOf (head : UdpHeader) : Packet := ⟨⟨.avl, wrapAsTcpFrame head.avlData⟩, head.avlData⟩

/-- The acknowledgements that are written, with the numbers of their frames. -/
def IngestStore.acks (s : IngestStore ι) (i : ι) : List (ℕ × ℕ) :=
  (s.sockets i).written.filterMap fun answer => answer.2.acked.map (answer.1, ·)

/-- The entry comes before the other in its session. -/
def Origin.before (o o' : Origin ι) : Prop :=
  o.frame < o'.frame ∨ o.frame = o'.frame ∧ o.record < o'.record

def RecordOf (config : SessionConfig) (packet : Packet) (j : ℕ) (rec : AvlRecord) : Prop :=
  ∃ codec records,
    parseFrame config.protocolParser packet.frame = .ok (.avl codec records) ∧
      records[j]? = some rec

/-- An entry of the stream that holds record `j` of the frame, or the whole frame. -/
def Holds (config : SessionConfig) (packet : Packet) (j : ℕ) : Stream → Payload → Prop
  | .raw shard, .record _ imei _ rec => shard = shardOf imei ∧
      ∃ rec', RecordOf config packet j rec' ∧ rec = { rec' with generationType := none }
  | .rejects, .reject _ tsMs raw _ => ∃ rec, RecordOf config packet j rec ∧
      tsMs = rec.tsMs ∧ raw = rec.raw
  | .unsupported, .frame _ _ raw _ => raw = packet.parked
  | _, _ => False

/-- Record `j` of frame `k` has been appended to `raw:{shard}` or to `rejects`, or the whole frame
to `raw:unsupported`. -/
def Stored (config : SessionConfig) (i : ι) (k : ℕ) (packet : Packet) (j : ℕ)
    (s : IngestStore ι) : Prop :=
  ∃ stream, ∃ entry ∈ s.posted i stream, entry.origin.frame = k ∧
    (entry.origin.record = j ∨ stream = .unsupported) ∧ Holds config packet j stream entry.payload

/-- Frame `k` is acknowledged, if it is an AVL frame. -/
def Answered (packets : List Packet) (i : ι) (k : ℕ) (s : IngestStore ι) : Prop :=
  ∀ packet, packets[k]? = some packet → packet.frame.isAvl = true → ∃ n, (k, n) ∈ s.acks i

/-- **What holds at every moment**: the acknowledgements are in the order of the frames, one for
each, and leave no AVL frame out; what is acknowledged with the count that it declares is stored;
and the records are in one stream, as they were sent and in that order. -/
structure Sound (config : SessionConfig) (packets : List Packet) (i : ι) (s : IngestStore ι) :
    Prop where
  ordered : (s.acks i).Pairwise fun a a' => a.1 < a'.1
  complete : ∀ a ∈ s.acks i, ∀ k < a.1, Answered packets i k s
  stored : ∀ a ∈ s.acks i, ∃ packet, packets[a.1]? = some packet ∧
    (packet.frame.isAvl = true → a.2 = packet.frame.declaredCount →
      ∀ j < a.2, Stored config i a.1 packet j s)
  sorted : ∀ shard, (s.posted i (.raw shard)).Pairwise fun e e' => e.origin.before e'.origin
  single : ∀ shard shard', s.posted i (.raw shard) ≠ [] → s.posted i (.raw shard') ≠ [] →
    shard = shard'
  genuine : ∀ shard, ∀ entry ∈ s.posted i (.raw shard), ∃ packet,
    packets[entry.origin.frame]? = some packet ∧
      Holds config packet entry.origin.record (.raw shard) entry.payload

/-- A session that is to handle a frame, and has posted some of a batch of that frame. -/
structure Upto (config : SessionConfig) (packets : List Packet) (i : ι) (number : ℕ)
    (target : Option PersistTarget) (batch : List (Stream × Entry ι)) (s : IngestStore ι) :
    Prop where
  sound : Sound config packets i s
  acked : ∀ a ∈ s.acks i, a.1 < number
  posted : ∀ shard, ∀ entry ∈ s.posted i (.raw shard),
    entry.origin.frame < number ∨ (.raw shard, entry) ∈ batch
  shard : ∀ shard, s.posted i (.raw shard) ≠ [] → ∃ t ∈ target, t.shard = shard
  answered : Dead i s ∨ ∀ k < number, Answered packets i k s

/-! ## Steps -/

/-- Nothing is appended or acknowledged in the name of `i`, and its connection is not opened
again. -/
structure Still (i : ι) (s s' : IngestStore ι) : Prop where
  posted : ∀ stream, s'.posted i stream = s.posted i stream
  acks : s'.acks i = s.acks i
  dead : Dead i s → Dead i s'

section Steps

variable {i : ι} {packets : List Packet} {number : ℕ} {target : Option PersistTarget}
  {batch : List (Stream × Entry ι)} {s s' : IngestStore ι}

lemma Same.still (h : Same i s s') : Still i s s' where
  posted := h.posted
  acks := congrArg (filterMap _) h.written
  dead := h.destroyed

variable {packet : Packet} {entry : Entry ι}

lemma Stored.mono {k j : ℕ} (hs : Stored config i k packet j s)
    (h : ∀ stream, ∀ entry ∈ s.posted i stream, entry ∈ s'.posted i stream) :
    Stored config i k packet j s' := by
  obtain ⟨stream, entry, hentry, hholds⟩ := hs
  exact ⟨stream, entry, h stream entry hentry, hholds⟩

lemma Still.sound (h : Still i s s') (hs : Sound config packets i s) :
    Sound config packets i s' where
  ordered := by
    rw [h.acks]
    exact hs.ordered
  complete := by
    unfold Answered
    rw [h.acks]
    exact hs.complete
  stored := by
    rw [h.acks]
    intro a ha
    obtain ⟨packet, hpacket, hstored⟩ := hs.stored a ha
    refine ⟨packet, hpacket, fun havl hcount j hj => (hstored havl hcount j hj).mono ?_⟩
    intro stream entry hentry
    rw [h.posted]
    exact hentry
  sorted := by
    intro shard
    rw [h.posted]
    exact hs.sorted shard
  single := by
    intro shard shard'
    rw [h.posted, h.posted]
    exact hs.single shard shard'
  genuine := by
    intro shard
    rw [h.posted]
    exact hs.genuine shard

lemma Still.upto (h : Still i s s') (hs : Upto config packets i number target batch s) :
    Upto config packets i number target batch s' where
  sound := h.sound hs.sound
  acked := by
    rw [h.acks]
    exact hs.acked
  posted := by
    intro shard
    rw [h.posted]
    exact hs.posted shard
  shard := by
    intro shard
    rw [h.posted]
    exact hs.shard shard
  answered := by
    unfold Answered
    rw [h.acks]
    exact hs.answered.imp h.dead id

/-- The command appends nothing, and acknowledges nothing. -/
def IngestCommand.isStill : IngestCommand ι → Bool
  | .xadd .. => false
  | .write _ _ reply => reply.acked.isNone
  | .sendTo .. => false
  | _ => true

/-- An answer is written to a connection that is open. -/
lemma acks_write (number : ℕ) (reply : Reply) (s : IngestStore ι) (hs : ¬ Dead i s) :
    (s.write i number reply).acks i = s.acks i ++ (reply.acked.map (number, ·)).toList := by
  have hwritten : ((s.write i number reply).sockets i).written =
      (s.sockets i).written ++ [(number, reply)] := by
    show (update s.sockets i _ i).written = _
    rw [update_self, if_neg (mt dead_iff.mpr hs)]
  unfold IngestStore.acks
  rw [hwritten, filterMap_append]
  cases hacked : reply.acked with
  | none =>
    rw [filterMap_cons_none (by rw [hacked]; rfl)]
    rfl
  | some n =>
    rw [filterMap_cons_some (by rw [hacked]; rfl)]
    rfl

/-- To a connection that is closed, nothing is written. -/
lemma still_write_dead (number : ℕ) (reply : Reply) (hs : Dead i s) :
    Still i s (s.write i number reply) := by
  have hsockets : (s.write i number reply).sockets i = s.sockets i := by
    show update s.sockets i _ i = _
    rw [update_self, if_pos (dead_iff.mp hs)]
  refine ⟨fun _ => rfl, ?_, fun _ => ?_⟩
  · unfold IngestStore.acks
    rw [hsockets]
  · unfold Dead
    rw [hsockets]
    exact hs

lemma dead_write (number : ℕ) (reply : Reply) (s : IngestStore ι) :
    Dead i (s.write i number reply) ↔ Dead i s := by
  unfold Dead
  have hsockets : ((s.write i number reply).sockets i).destroyed = (s.sockets i).destroyed := by
    show (update s.sockets i _ i).destroyed = _
    rw [update_self]
    split <;> rfl
  rw [hsockets]

lemma still_answer (c : IngestCommand ι) (hc : c.isStill = true) (s : IngestStore ι)
    (fate : Fate) : Still i s ((ingestService ι).answer c s fate).1 := by
  have hrun : Still i s (c.run s).1 := by
    by_cases hsender : c.sender = some i
    swap
    · exact (same_run c s hsender).still
    cases c with
    | lpop me deviceId =>
      show Still i s (IngestCommand.run (.lpop me deviceId) s).1
      unfold IngestCommand.run
      dsimp only
      split
      · exact ⟨fun _ => rfl, rfl, id⟩
      · exact ⟨fun _ => rfl, rfl, id⟩
    | respond me deviceId response => exact ⟨fun _ => rfl, rfl, id⟩
    | write me number reply =>
      obtain rfl := Option.some.inj hsender
      show Still me s (s.write me number reply)
      by_cases hdead : Dead me s
      · exact still_write_dead number reply hdead
      · refine ⟨fun _ => rfl, ?_, (dead_write number reply s).mpr⟩
        rw [acks_write number reply s hdead, Option.isNone_iff_eq_none.mp hc]
        exact append_nil _
    | xadd => cases hc
    | sendTo => cases hc
    | _ => cases hsender
  cases fate with
  | refused => exact ⟨fun _ => rfl, rfl, id⟩
  | ok => exact hrun
  | lost => exact hrun

lemma posted_xadd (stream stream' : Stream) (hentry : entry.origin.sender = i) (s : IngestStore ι) :
    (IngestCommand.run (.xadd stream entry) s).1.posted i stream' =
      if stream' = stream then s.posted i stream ++ [entry] else s.posted i stream' := by
  show (update s.streams stream _ stream').filter _ = _
  rw [update_apply]
  split
  · rename_i h
    rw [filter_append, filter_cons_of_pos (by exact decide_eq_true hentry)]
    rfl
  · rfl

lemma Upto.xadd (hs : Upto config packets i number target batch s) (stream : Stream)
    (hsender : entry.origin.sender = i) (hframe : entry.origin.frame = number)
    (hraw : ∀ shard, stream = .raw shard → (∃ t ∈ target, t.shard = shard) ∧
      (∃ packet, packets[number]? = some packet ∧
        Holds config packet entry.origin.record stream entry.payload) ∧
      ∀ entry', (stream, entry') ∈ batch → entry'.origin.before entry.origin) :
    Upto config packets i number target (batch ++ [(stream, entry)])
      (IngestCommand.run (.xadd stream entry) s).1 := by
  have hmono : ∀ stream', ∀ entry' ∈ s.posted i stream',
      entry' ∈ (IngestCommand.run (.xadd stream entry) s).1.posted i stream' := by
    intro stream' entry' hentry'
    rw [posted_xadd stream stream' hsender]
    split
    · rename_i h
      subst h
      exact mem_append_left _ hentry'
    · exact hentry'
  have hshard : ∀ shard, (IngestCommand.run (.xadd stream entry) s).1.posted i (.raw shard) ≠ [] →
      ∃ t ∈ target, t.shard = shard := by
    intro shard hne
    rw [posted_xadd stream _ hsender] at hne
    split at hne
    · rename_i h
      exact (hraw shard h.symm).1
    · exact hs.shard shard hne
  refine ⟨⟨hs.sound.ordered, hs.sound.complete, fun a ha => ?_, fun shard => ?_,
    fun shard shard' hne hne' => ?_, fun shard entry' hentry' => ?_⟩, hs.acked,
    fun shard entry' hentry' => ?_, hshard, hs.answered⟩
  · obtain ⟨packet, hpacket, hstored⟩ := hs.sound.stored a ha
    exact ⟨packet, hpacket, fun havl hcount j hj => (hstored havl hcount j hj).mono hmono⟩
  · rw [posted_xadd stream _ hsender]
    split
    · rename_i h
      subst h
      refine pairwise_append.mpr ⟨hs.sound.sorted shard, pairwise_singleton _ _, ?_⟩
      intro e he e' he'
      obtain rfl := mem_singleton.mp he'
      rcases hs.posted shard e he with hearlier | hbatch
      · exact .inl (hframe ▸ hearlier)
      · exact (hraw shard rfl).2.2 e hbatch
    · exact hs.sound.sorted shard
  · obtain ⟨t, ht, rfl⟩ := hshard shard hne
    obtain ⟨t', ht', rfl⟩ := hshard shard' hne'
    rw [Option.mem_unique ht ht']
  · rw [posted_xadd stream _ hsender] at hentry'
    split at hentry'
    · rename_i h
      subst h
      rcases mem_append.mp hentry' with hold | hnew
      · exact hs.sound.genuine shard entry' hold
      · obtain rfl := mem_singleton.mp hnew
        rw [hframe]
        exact (hraw shard rfl).2.1
    · exact hs.sound.genuine shard entry' hentry'
  · rw [posted_xadd stream _ hsender] at hentry'
    split at hentry'
    · rename_i h
      subst h
      rcases mem_append.mp hentry' with hold | hnew
      · exact (hs.posted shard entry' hold).imp id (mem_append_left _)
      · obtain rfl := mem_singleton.mp hnew
        exact .inr (mem_append_right _ mem_cons_self)
    · exact (hs.posted shard entry' hentry').imp id (mem_append_left _)

lemma Upto.acknowledged (hs : Upto config packets i number target batch s) {n : ℕ}
    (hpacket : packets[number]? = some packet) (hbatch : ∀ e ∈ batch, e.2.origin.frame = number)
    (hanswered : ∀ k < number, Answered packets i k s)
    (hstored : packet.frame.isAvl = true → n = packet.frame.declaredCount →
      ∀ j < n, Stored config i number packet j s)
    (hposted : ∀ stream, s'.posted i stream = s.posted i stream)
    (hacks : s'.acks i = s.acks i ++ [(number, n)]) :
    Upto config packets i (number + 1) target [] s' := by
  have hmono : ∀ stream, ∀ entry ∈ s.posted i stream, entry ∈ s'.posted i stream := by
    intro stream entry hentry
    rw [hposted]
    exact hentry
  have hkept : ∀ k, Answered packets i k s → Answered packets i k s' := by
    intro k hk packet hpacket havl
    obtain ⟨m, hm⟩ := hk packet hpacket havl
    exact ⟨m, hacks ▸ mem_append_left _ hm⟩
  have hupto : ∀ k < number, Answered packets i k s' := fun k hk => hkept k (hanswered k hk)
  have hnew : (number, n) ∈ s'.acks i := hacks ▸ mem_append_right _ mem_cons_self
  refine ⟨⟨?_, fun a ha k hk => ?_, fun a ha => ?_, fun shard => ?_, fun shard shard' => ?_,
    fun shard => ?_⟩,
    fun a ha => ?_, fun shard entry hentry => .inl ?_, fun shard => ?_, .inr fun k hk => ?_⟩
  · rw [hacks]
    refine pairwise_append.mpr ⟨hs.sound.ordered, pairwise_singleton _ _, ?_⟩
    intro a ha a' ha'
    obtain rfl := mem_singleton.mp ha'
    exact hs.acked a ha
  · rw [hacks] at ha
    rcases mem_append.mp ha with hold | hlast
    · exact hkept k (hs.sound.complete a hold k hk)
    · obtain rfl := mem_singleton.mp hlast
      exact hupto k hk
  · rw [hacks] at ha
    rcases mem_append.mp ha with hold | hlast
    · obtain ⟨packet', hpacket', hstored'⟩ := hs.sound.stored a hold
      exact ⟨packet', hpacket', fun havl hcount j hj => (hstored' havl hcount j hj).mono hmono⟩
    · obtain rfl := mem_singleton.mp hlast
      exact ⟨packet, hpacket, fun havl hcount j hj => (hstored havl hcount j hj).mono hmono⟩
  · rw [hposted]
    exact hs.sound.sorted shard
  · rw [hposted, hposted]
    exact hs.sound.single shard shard'
  · rw [hposted]
    exact hs.sound.genuine shard
  · rw [hacks] at ha
    rcases mem_append.mp ha with hold | hlast
    · exact Nat.lt_succ_of_lt (hs.acked a hold)
    · obtain rfl := mem_singleton.mp hlast
      exact Nat.lt_succ_self _
  · rw [hposted] at hentry
    rcases hs.posted shard entry hentry with hearlier | hin
    · exact Nat.lt_succ_of_lt hearlier
    · exact Nat.lt_succ_of_le (hbatch _ hin).le
  · rw [hposted]
    exact hs.shard shard
  · rcases Nat.lt_succ_iff_lt_or_eq.mp hk with hlt | rfl
    · exact hupto k hlt
    · exact fun _ _ _ => ⟨n, hnew⟩

/-- A frame that needs no acknowledgement, or whose session has ended. -/
lemma Upto.unacknowledged (hs : Upto config packets i number target batch s)
    (hbatch : ∀ e ∈ batch, e.2.origin.frame = number)
    (h : Dead i s ∨ ∀ packet, packets[number]? = some packet → packet.frame.isAvl = false) :
    Upto config packets i (number + 1) target [] s where
  sound := hs.sound
  acked a ha := Nat.lt_succ_of_lt (hs.acked a ha)
  posted shard entry hentry := by
    rcases hs.posted shard entry hentry with hearlier | hin
    · exact .inl (Nat.lt_succ_of_lt hearlier)
    · exact .inl (Nat.lt_succ_of_le (hbatch _ hin).le)
  shard := hs.shard
  answered := by
    rcases hs.answered with hdead | hanswered
    · exact .inl hdead
    rcases h with hdead | hplain
    · exact .inl hdead
    refine .inr fun k hk => ?_
    rcases Nat.lt_succ_iff_lt_or_eq.mp hk with hlt | rfl
    · exact hanswered k hlt
    · intro packet hpacket havl
      rw [hplain packet hpacket] at havl
      cases havl

/-- A connection that has posted nothing may stream for any device. -/
lemma Upto.accepted (hs : Upto config packets i number none batch s) (t : PersistTarget) :
    Upto config packets i number (some t) batch s where
  sound := hs.sound
  acked := hs.acked
  posted := hs.posted
  shard shard hne := by
    obtain ⟨t, ht, -⟩ := hs.shard shard hne
    cases ht
  answered := hs.answered

end Steps

/-! ## Programs -/

section Programs

variable {α β : Type} {i : ι} {packets : List Packet} {number : ℕ} {target : Option PersistTarget}
  {batch : List (Stream × Entry ι)} {s : IngestStore ι} {Q : α → IngestStore ι → Prop}

/-- The program keeps what holds at every moment, among others that leave its session alone; what
it does within the process does not fail. -/
abbrev Careful (config : SessionConfig) (packets : List Packet) (i : ι)
    (Q : α → IngestStore ι → Prop) (m : Program ι α) (s : IngestStore ι) : Prop :=
  m.Meets (fun _ (c : IngestCommand ι) fate => c.isLocal = true → fate = .ok) (fun _ => Same i)
    (fun _ s s' => (∀ j, j ≠ i → Same j s s') ∧ Sound config packets i s')
    (Async.Ending Q (Sound config packets i)) s

/-- An assertion that does not speak of more than the session. -/
def Settled (i : ι) (J : IngestStore ι → Prop) : Prop := ∀ s s', Still i s s' → J s → J s'

lemma Settled.stable {J : IngestStore ι → Prop} (hJ : Settled i J) :
    Async.Stable (Same i) J := fun s s' h => hJ s s' h.still

lemma settled_sound : Settled i (Sound config packets i) := fun _ _ h => h.sound

lemma settled_upto : Settled i (Upto config packets i number target batch) := fun _ _ h => h.upto

lemma careful_done {a : α} (J : IngestStore ι → Prop) (hs : J s) (hJ : Settled i J)
    (h : ∀ s, J s → Q a s) : Careful config packets i Q (.done a) s := .done J hs hJ.stable h

lemma careful_threw (hs : Sound config packets i s) : Careful config packets i Q (.threw ()) s :=
  .threw _ hs settled_sound.stable fun _ hs => hs

lemma own_same {c : IngestCommand ι} (hc : c.Own i) (s : IngestStore ι) (fate : Fate) (j : ι)
    (hj : j ≠ i) : Same j s ((ingestService ι).answer c s fate).1 :=
  same_answer c s fate fun hsender => hj (hc j hsender)

lemma careful_send {c : IngestCommand ι} {f : c.Answer → Program ι α} (J : IngestStore ι → Prop)
    (hs : J s) (hJ : Settled i J) (hsound : ∀ s, J s → Sound config packets i s) (hc : c.Own i)
    (hstill : c.isStill = true)
    (h : ∀ s, J s → J (c.run s).1 → Careful config packets i Q (f (c.run s).2) (c.run s).1) :
    Careful config packets i Q (send c >>= f) s := by
  have hkept : ∀ s fate, J s → J ((ingestService ι).answer c s fate).1 :=
    fun s fate hs => hJ _ _ (still_answer c hstill s fate) hs
  refine Async.Meets.send (V := ingestService ι) J hs hJ.stable (fun s hs => ?_) (fun s hs => ?_)
    fun s hs => careful_threw (hsound _ (hkept s .lost hs))
  · exact ⟨⟨own_same hc s .ok, hsound _ (hkept s .ok hs)⟩, h s hs (hkept s .ok hs)⟩
  · exact ⟨⟨own_same hc s .refused, hsound s hs⟩, careful_threw (hsound s hs)⟩

lemma careful_bind {m : Program ι α} {f : α → Program ι β} {R : β → IngestStore ι → Prop}
    (hm : Careful config packets i Q m s) (h : ∀ a s, Q a s → Careful config packets i R (f a) s) :
    Careful config packets i R (m >>= f) s := Async.Meets.bind hm h fun _ _ hs => hs

lemma careful_drainPending (J : IngestStore ι → Prop) (hs : J s) (hJ : Settled i J)
    (hsound : ∀ s, J s → Sound config packets i s) (deviceId : DeviceId) (turns : ℕ) :
    Careful config packets i (fun _ => J) (drainPending i number deviceId turns) s := by
  have hend : ∀ (b : Bool) s, J s →
      Careful config packets i (fun _ => J) (.done b : Program ι Bool) s :=
    fun b s hs => careful_done J hs hJ fun _ hs => hs
  have hone : ∀ s, J s → Careful config packets i (fun _ => J) (drainOne i number deviceId) s := by
    intro s hs
    refine careful_send J hs hJ hsound (own_of_none rfl) rfl fun s _ hs => ?_
    split
    · exact hend _ _ hs
    refine careful_send J hs hJ hsound (own_of_sender rfl) rfl fun s _ hs => ?_
    split
    · exact hend _ _ hs
    · exact hend _ _ hs
    refine careful_send J hs hJ hsound (own_of_none rfl) rfl fun s _ hs => ?_
    split
    · exact hend _ _ hs
    refine careful_send J hs hJ hsound (own_of_none rfl) rfl fun s _ hs => ?_
    refine careful_send J hs hJ hsound (own_of_none rfl) rfl fun s _ hs => ?_
    refine careful_send J hs hJ hsound (own_of_sender rfl) rfl fun s _ hs => ?_
    exact hend _ _ hs
  induction turns generalizing s with
  | zero => exact careful_done J hs hJ fun _ hs => hs
  | succ turns ih =>
    refine careful_bind (hone s hs) fun again s hs => ?_
    split
    · exact ih hs
    · exact careful_done J hs hJ fun _ hs => hs

lemma careful_maybeBackpressure (J : IngestStore ι → Prop) (hs : J s) (hJ : Settled i J)
    (hsound : ∀ s, J s → Sound config packets i s) (shard : ℕ) :
    Careful config packets i (fun _ => J) (maybeBackpressure config i shard) s := by
  refine careful_send J hs hJ hsound (own_of_none rfl) rfl fun s _ hs => ?_
  show Careful config packets i _ (Async.when (s.depth shard > config.pauseAboveDepth) _) s
  refine .when (fun _ => ?_) fun _ => careful_done J hs hJ fun _ hs => hs
  rw [← Async.bind_done (send _)]
  refine careful_send J hs hJ hsound (own_of_none rfl) rfl fun s _ hs => ?_
  exact careful_done J hs hJ fun _ hs => hs

/-- What a batch has come to: how many of its entries have been answered. -/
structure Batched (config : SessionConfig) (packets : List Packet) (i : ι) (number : ℕ)
    (target : Option PersistTarget) (batch : List (Stream × Entry ι)) (persisted : ℕ)
    (s : IngestStore ι) : Prop where
  upto : Upto config packets i number target batch s
  le : persisted ≤ batch.length
  posted : persisted = batch.length → ∀ e ∈ batch, e.2 ∈ s.posted i e.1

lemma settled_batched {persisted : ℕ} :
    Settled i (Batched config packets i number target batch persisted) := by
  intro s s' h hs
  refine ⟨h.upto hs.upto, hs.le, fun heq e he => ?_⟩
  rw [h.posted]
  exact hs.posted heq e he

/-- The entries of a batch, of which the records that are in bounds come in order. -/
def InOrder (batch : List (Stream × Entry ι)) : Prop :=
  batch.Pairwise fun e e' => ∀ shard, e.1 = .raw shard → e'.1 = .raw shard →
    e.2.origin.before e'.2.origin

lemma Upto.widen (hs : Upto config packets i number target batch s) (e : Stream × Entry ι) :
    Upto config packets i number target (batch ++ [e]) s where
  sound := hs.sound
  acked := hs.acked
  posted shard entry hentry := (hs.posted shard entry hentry).imp id (mem_append_left _)
  shard := hs.shard
  answered := hs.answered

lemma careful_pipeline {l : List (Stream × Entry ι)} {t : PersistTarget}
    (horigin : ∀ e ∈ l, e.2.origin.sender = i ∧ e.2.origin.frame = number)
    (hshard : ∀ e ∈ l, ∀ shard, e.1 = .raw shard → t.shard = shard)
    (hgenuine : ∀ e ∈ l, ∀ shard, e.1 = .raw shard → ∃ packet, packets[number]? = some packet ∧
      Holds config packet e.2.origin.record e.1 e.2.payload) (horder : InOrder l)
    (hs : Upto config packets i number (some t) [] s) :
    Careful config packets i (Batched config packets i number (some t) l)
      (l.foldlM xaddCounted 0) s := by
  refine Async.Meets.foldlM (Batched config packets i number (some t))
    (fun _ => settled_batched.stable) ?_ ⟨hs, le_rfl, fun _ e he => absurd he not_mem_nil⟩
  rintro before e after persisted s hl hbatched
  have hmem : e ∈ l := hl ▸ mem_append_right _ mem_cons_self
  obtain ⟨hsender, hframe⟩ := horigin e hmem
  have hown : (IngestCommand.xadd e.1 e.2).Own i := own_of_sender (congrArg some hsender)
  have hnext : ∀ s, Upto config packets i number (some t) before s →
      Upto config packets i number (some t) (before ++ [e])
        (IngestCommand.run (.xadd e.1 e.2) s).1 := by
    refine fun s hs => hs.xadd e.1 hsender hframe fun shard hraw => ?_
    refine ⟨⟨t, rfl, hshard e hmem shard hraw⟩, hgenuine e hmem shard hraw, ?_⟩
    intro entry' hentry'
    rw [hl] at horder
    exact (pairwise_append.mp horder).2.2 _ hentry' _ mem_cons_self shard hraw hraw
  have hlength : (before ++ [e]).length = before.length + 1 := by
    rw [length_append, length_singleton]
  refine ⟨_, hbatched, settled_batched.stable, fun s hs fate _ => ?_⟩
  cases fate with
  | ok =>
    refine ⟨⟨own_same hown s .ok, (hnext s hs.upto).sound⟩, ?_⟩
    refine careful_done _ ⟨hnext s hs.upto, ?_, fun heq e' he' => ?_⟩ settled_batched fun _ hs => hs
    · rw [hlength]
      exact Nat.succ_le_succ hs.le
    · show e'.2 ∈ (IngestCommand.run (.xadd e.1 e.2) s).1.posted i e'.1
      rw [posted_xadd e.1 e'.1 hsender]
      rw [hlength] at heq
      rcases mem_append.mp he' with hold | hlast
      · have hposted := hs.posted (Nat.succ_injective heq) e' hold
        split
        · rename_i h
          rw [h] at hposted
          exact mem_append_left _ hposted
        · exact hposted
      · obtain rfl := mem_singleton.mp hlast
        rw [if_pos rfl]
        exact mem_append_right _ mem_cons_self
  | refused =>
    refine ⟨⟨own_same hown s .refused, hs.upto.sound⟩, ?_⟩
    refine careful_done _ ⟨hs.upto.widen e, ?_, fun heq => ?_⟩ settled_batched fun _ hs => hs
    · rw [hlength]
      exact Nat.le_succ_of_le hs.le
    · have hall : persisted = before.length + 1 := heq.trans hlength
      exact absurd (hall ▸ hs.le) (Nat.not_succ_le_self _)
  | lost =>
    refine ⟨⟨own_same hown s .lost, (hnext s hs.upto).sound⟩, ?_⟩
    refine careful_done _ ⟨hnext s hs.upto, ?_, fun heq => ?_⟩ settled_batched fun _ hs => hs
    · rw [hlength]
      exact Nat.le_succ_of_le hs.le
    · have hall : persisted = before.length + 1 := heq.trans hlength
      exact absurd (hall ▸ hs.le) (Nat.not_succ_le_self _)

lemma careful_ack {n : ℕ} {packet : Packet} {f : Unit → Program ι α}
    (hpacket : packets[number]? = some packet) (hbatch : ∀ e ∈ batch, e.2.origin.frame = number)
    (hs : Upto config packets i number target batch s)
    (hstored : packet.frame.isAvl = true → n = packet.frame.declaredCount →
      ∀ j < n, Stored config i number packet j s)
    (h : ∀ s, Upto config packets i (number + 1) target [] s →
      Careful config packets i Q (f ()) s) :
    Careful config packets i Q (send (.write i number (.ack n)) >>= f) s := by
  have hown : (IngestCommand.write i number (.ack n)).Own i := own_of_sender rfl
  let J : IngestStore ι → Prop := fun s => Upto config packets i number target batch s ∧
    (packet.frame.isAvl = true → n = packet.frame.declaredCount →
      ∀ j < n, Stored config i number packet j s)
  have hJ : Settled i J := by
    refine fun s s' h hs => ⟨h.upto hs.1, fun havl hcount j hj => (hs.2 havl hcount j hj).mono ?_⟩
    intro stream entry hentry
    rw [h.posted]
    exact hentry
  have hwritten : ∀ s, J s →
      Upto config packets i (number + 1) target [] (s.write i number (.ack n)) := by
    intro s hs
    by_cases hdead : Dead i s
    · exact ((still_write_dead number (.ack n) hdead).upto hs.1).unacknowledged hbatch
        (.inl ((dead_write number (.ack n) s).mpr hdead))
    · exact hs.1.acknowledged hpacket hbatch (hs.1.answered.resolve_left hdead) hs.2
        (fun _ => rfl) (acks_write number (.ack n) s hdead)
  exact Async.Meets.sendOk (V := ingestService ι) J ⟨hs, hstored⟩ hJ.stable
    (fun s fate hfate => hfate rfl)
    fun s hs => ⟨⟨own_same hown s .ok, (hwritten s hs).sound⟩, h _ (hwritten s hs)⟩

end Programs

/-! ## Batches -/

section Batches

variable {nowMs : Ms} {target : PersistTarget} {me : ι} {number : ℕ} {records : List AvlRecord}

omit [DecidableEq ι] in
lemma length_batchEntries :
    (batchEntries config nowMs target me number records).length = records.length := by
  have hpartition : ∀ l : List (AvlRecord × ℕ),
      (l.filterMap (rejectEntry config nowMs target me number)).length +
        (l.filterMap (rawEntry config nowMs target me number)).length = l.length := by
    intro l
    induction l with
    | nil => rfl
    | cons rec l ih =>
      unfold rejectEntry rawEntry at ih ⊢
      cases hreason : sanityFailure config rec.1 nowMs with
      | none =>
        rw [filterMap_cons_none (by rw [hreason]; rfl),
          filterMap_cons_some (by rw [hreason]; rfl), length_cons, length_cons,
          ← ih]
        rfl
      | some reason =>
        rw [filterMap_cons_some (by rw [hreason]; rfl),
          filterMap_cons_none (by rw [hreason]; rfl), length_cons, length_cons,
          ← ih, Nat.add_right_comm]
  unfold batchEntries
  rw [length_append, hpartition, length_zipIdx]

omit [DecidableEq ι] in
lemma stream_of_rejectEntry {rec : AvlRecord × ℕ} {entry : Stream × Entry ι}
    (h : rejectEntry config nowMs target me number rec = some entry) : entry.1 = .rejects := by
  unfold rejectEntry at h
  obtain ⟨reason, -, rfl⟩ := Option.map_eq_some_iff.mp h
  rfl

omit [DecidableEq ι] in
lemma rawEntry_eq_some {rec : AvlRecord × ℕ} {entry : Stream × Entry ι}
    (h : rawEntry config nowMs target me number rec = some entry) :
    entry = (.raw target.shard, ⟨⟨me, number, rec.2⟩,
      .record target.deviceId target.imei nowMs { rec.1 with generationType := none }⟩) := by
  unfold rawEntry at h
  split at h
  · cases h
  · exact (Option.some.inj h).symm

omit [DecidableEq ι] in
lemma shard_of_mem {entry : Stream × Entry ι} {shard : ℕ}
    (h : entry ∈ batchEntries config nowMs target me number records) (hraw : entry.1 = .raw shard) :
    target.shard = shard := by
  obtain ⟨rec, j, -, hreject | hentry⟩ := mem_batchEntries.mp h
  · rw [stream_of_rejectEntry hreject] at hraw
    cases hraw
  · rw [rawEntry_eq_some hentry] at hraw
    exact Stream.raw.inj hraw

omit [DecidableEq ι] in
lemma inOrder_batchEntries : InOrder (batchEntries config nowMs target me number records) := by
  have hrejects : ∀ e ∈ records.zipIdx.filterMap (rejectEntry config nowMs target me number),
      e.1 = .rejects := by
    intro e he
    obtain ⟨rec, -, h⟩ := mem_filterMap.mp he
    exact stream_of_rejectEntry h
  have hindices : records.zipIdx.Pairwise fun rec rec' => rec.2 < rec'.2 := by
    rw [← pairwise_map]
    rw [zipIdx_map_snd]
    exact pairwise_lt_range'
  unfold InOrder batchEntries
  refine pairwise_append.mpr ⟨?_, ?_, ?_⟩
  · refine Pairwise.imp_of_mem (fun he _ _ shard hraw => ?_) (pairwise_of_forall
      (R := fun _ _ => True) fun _ _ => trivial)
    rw [hrejects _ he] at hraw
    cases hraw
  · refine Pairwise.filterMap _ (fun rec rec' hlt e he e' he' shard _ _ => ?_) hindices
    rw [rawEntry_eq_some he, rawEntry_eq_some he']
    exact .inr ⟨rfl, hlt⟩
  · intro e he e' _ shard hraw
    rw [hrejects e he] at hraw
    cases hraw

omit [DecidableEq ι] in
lemma holds_of_mem {packet : Packet} {codec shard : ℕ}
    (htarget : target.shard = shardOf target.imei)
    (hparse : parseFrame config.protocolParser packet.frame = .ok (.avl codec records))
    {entry : Stream × Entry ι}
    (h : entry ∈ batchEntries config nowMs target me number records)
    (hraw : entry.1 = .raw shard) :
    Holds config packet entry.2.origin.record entry.1 entry.2.payload := by
  obtain ⟨rec, j, hrec, hreject | hentry⟩ := mem_batchEntries.mp h
  · rw [stream_of_rejectEntry hreject] at hraw
    cases hraw
  · rw [rawEntry_eq_some hentry]
    exact ⟨htarget, rec, ⟨codec, records, hparse, hrec⟩, rfl⟩

lemma stored_of_batch {packet : Packet} {codec : ℕ} {s : IngestStore ι}
    (htarget : target.shard = shardOf target.imei)
    (hparse : parseFrame config.protocolParser packet.frame = .ok (.avl codec records))
    (hposted : ∀ e ∈ batchEntries config nowMs target me number records, e.2 ∈ s.posted me e.1)
    {j : ℕ} (hj : j < records.length) : Stored config me number packet j s := by
  have hrec : records[j]? = some records[j] := getElem?_eq_getElem hj
  cases hreason : sanityFailure config records[j] nowMs with
  | none =>
    have hmem : (Stream.raw target.shard, (⟨⟨me, number, j⟩, .record target.deviceId target.imei
        nowMs { records[j] with generationType := none }⟩ : Entry ι)) ∈
        batchEntries config nowMs target me number records := by
      refine mem_batchEntries.mpr ⟨_, j, hrec, .inr ?_⟩
      unfold rawEntry
      rw [if_neg (by rw [hreason]; decide)]
    exact ⟨_, _, hposted _ hmem, rfl, .inl rfl, htarget, _, ⟨codec, records, hparse, hrec⟩, rfl⟩
  | some reason =>
    have hmem : (Stream.rejects, (⟨⟨me, number, j⟩, .reject target.imei records[j].tsMs
        records[j].raw reason⟩ : Entry ι)) ∈
        batchEntries config nowMs target me number records := by
      refine mem_batchEntries.mpr ⟨_, j, hrec, .inl ?_⟩
      unfold rejectEntry
      rw [hreason]
      rfl
    exact ⟨_, _, hposted _ hmem, rfl, .inl rfl, _, ⟨codec, records, hparse, hrec⟩, rfl, rfl⟩

end Batches

/-! ## Sessions -/

section Sessions

variable {i : ι} {packets : List Packet} {number : ℕ} {s : IngestStore ι}

lemma dead_destroy (i : ι) (s : IngestStore ι) : Dead i (s.destroy i) := by
  show (update s.sockets i _ i).destroyed = true
  rw [update_self]

lemma careful_park {α : Type} {Q : α → IngestStore ι → Prop} {f : Unit → Program ι α}
    {target : Option PersistTarget} {imei : Imei} {raw : Bytes} {nowMs : Ms} {reason : String}
    (hs : Upto config packets i number target [] s)
    (h : ∀ s entry, entry.origin.frame = number → entry.payload = .frame imei nowMs raw reason →
      entry ∈ s.posted i .unsupported →
      Upto config packets i number target [(.unsupported, entry)] s →
      Careful config packets i Q (f ()) s) :
    Careful config packets i Q (parkUndecodableFrame i number imei raw nowMs reason >>= f) s := by
  let entry : Entry ι := ⟨⟨i, number, 0⟩, .frame imei nowMs raw reason⟩
  have hown : (IngestCommand.xadd .unsupported entry).Own i := own_of_sender rfl
  have hnext : ∀ s, Upto config packets i number target [] s →
      Upto config packets i number target [(.unsupported, entry)]
        (IngestCommand.run (.xadd .unsupported entry) s).1 :=
    fun s hs => hs.xadd .unsupported rfl rfl fun shard hraw => by cases hraw
  refine Async.Meets.send (V := ingestService ι) (Upto config packets i number target []) hs
    settled_upto.stable (fun s hs => ?_) (fun s hs => ?_)
    fun s hs => careful_threw (hnext s hs).sound
  · refine ⟨⟨own_same hown s .ok, (hnext s hs).sound⟩, h _ entry rfl rfl ?_ (hnext s hs)⟩
    rw [posted_xadd .unsupported .unsupported rfl, if_pos rfl]
    exact mem_append_right _ mem_cons_self
  · exact ⟨⟨own_same hown s .refused, hs.sound⟩, careful_threw hs.sound⟩

variable {target : PersistTarget} {frame : Frame} {frames : List Frame} {arrived later : Bytes}
  {st : SessionState}

/-- What follows the acknowledgement of a frame. -/
lemma careful_rest {next : ℕ} (hs : Upto config packets i next (some target) [] s) :
    Careful config packets i (fun _ => Upto config packets i next (some target) [])
      (do
        maybeBackpressure config i target.shard
        drainPending i number target.deviceId 16) s := by
  have hsound : ∀ s, Upto config packets i next (some target) [] s →
      Sound config packets i s := fun _ hs => hs.sound
  refine careful_bind (careful_maybeBackpressure _ hs settled_upto hsound _) fun _ s hs => ?_
  exact careful_drainPending _ hs settled_upto hsound _ _

lemma careful_handleStreamFrame (htarget : target.shard = shardOf target.imei)
    (hpacket : packets[number]? = some ⟨frame, frame.bytes⟩)
    (hs : Upto config packets i number (some target) [] s) :
    Careful config packets i (fun _ => Upto config packets i (number + 1) (some target) [])
      (handleStreamFrame config i number target frame) s := by
  have hsound : ∀ s, Upto config packets i number (some target) [] s →
      Sound config packets i s := fun _ hs => hs.sound
  have hrefused : Careful config packets i
      (fun _ => Upto config packets i (number + 1) (some target) [])
      (send (.write i number (.ack 0))) s := by
    rw [← Async.bind_done (send _)]
    refine careful_ack hpacket (fun _ he => absurd he not_mem_nil) hs
      (fun _ _ j hj => absurd hj (Nat.not_lt_zero j)) fun s hs => ?_
    exact careful_done _ hs settled_upto fun _ hs => hs
  have hplain : ∀ {packet}, parseFrame config.protocolParser frame = .ok packet →
      (∀ codec records, packet ≠ .avl codec records) → ∀ s,
      Upto config packets i number (some target) [] s →
      Upto config packets i (number + 1) (some target) [] s := by
    intro packet hparse hne s hs
    refine hs.unacknowledged (fun _ he => absurd he not_mem_nil) (.inr fun packet' h => ?_)
    cases hpacket.symm.trans h
    by_contra havl
    obtain ⟨codec, records, h⟩ := parseFrame_of_isAvl (Bool.not_eq_false _ ▸ havl) hparse
    exact hne codec records h
  unfold handleStreamFrame
  cases hparse : parseFrame config.protocolParser frame with
  | error e =>
    cases e with
    | frame => exact hrefused
    | crc => exact hrefused
    | other => exact careful_threw hs.sound
    | undecodable declaredCount =>
      refine careful_send _ hs settled_upto hsound (own_of_none rfl) rfl fun s _ hs => ?_
      refine careful_park hs fun s entry hframe hpayload hmem hs => ?_
      refine careful_ack hpacket (fun e he => ?_) hs (fun _ _ j _ => ?_) fun s hs => careful_rest hs
      · obtain rfl := mem_singleton.mp he
        exact hframe
      · refine ⟨.unsupported, entry, hmem, hframe, .inr rfl, ?_⟩
        rw [hpayload]
        rfl
  | ok packet =>
    cases packet with
    | imei imei =>
      exact careful_done _ (hplain hparse (fun _ _ h => by cases h) s hs) settled_upto
        fun _ hs => hs
    | cmdResponse codec text nack =>
      show Careful _ _ _ _ (send (.respond i target.deviceId ⟨codec, text, nack⟩)) s
      rw [← Async.bind_done (send _)]
      refine careful_send _ hs settled_upto hsound (own_of_sender rfl) rfl fun s _ hs => ?_
      exact careful_done _ (hplain hparse (fun _ _ h => by cases h) _ hs) settled_upto
        fun _ hs => hs
    | avl codec records =>
      refine careful_send _ hs settled_upto hsound (own_of_none rfl) rfl fun s _ hs => ?_
      split
      · refine careful_send _ hs settled_upto hsound (own_of_none rfl) rfl fun s _ hs => ?_
        exact careful_done _ (hs.unacknowledged (fun _ he => absurd he not_mem_nil)
          (.inl (dead_destroy i s))) settled_upto fun _ hs => hs
      refine careful_send _ hs settled_upto hsound (own_of_none rfl) rfl fun s _ hs => ?_
      refine careful_bind (careful_pipeline (fun e he => ?_) (fun e he shard => shard_of_mem he)
        (fun e he shard hraw => ⟨_, hpacket, holds_of_mem htarget hparse he hraw⟩)
        inOrder_batchEntries hs) fun persisted s hbatched => ?_
      · obtain ⟨j, horigin⟩ := origin_of_mem he
        rw [horigin]
        exact ⟨rfl, rfl⟩
      refine careful_ack hpacket (fun e he => ?_) hbatched.upto (fun _ hcount j hj => ?_)
        fun s hs => careful_rest hs
      · obtain ⟨j, horigin⟩ := origin_of_mem he
        rw [horigin]
      · have hlength : persisted = records.length := hcount.trans (parseFrame_avl hparse).2.symm
        exact stored_of_batch htarget hparse
          (hbatched.posted (hlength.trans length_batchEntries.symm)) (hlength ▸ hj)

/-- The handshake. -/
lemma careful_handleImei (hpacket : packets[number]? = some ⟨frame, frame.bytes⟩)
    (hs : Upto config packets i number none [] s) :
    Careful config packets i
      (fun target s => Upto config packets i (number + 1) target [] s ∧
        ∀ t ∈ target, t.shard = shardOf t.imei)
      (handleImei config i number frame) s := by
  have hsound : ∀ s, Upto config packets i number none [] s → Sound config packets i s :=
    fun _ hs => hs.sound
  have hnone : ∀ s, Upto config packets i (number + 1) none [] s → Careful config packets i
      (fun target s => Upto config packets i (number + 1) target [] s ∧
        ∀ t ∈ target, t.shard = shardOf t.imei) (.done none : Program ι _) s :=
    fun s hs => careful_done _ hs settled_upto fun _ hs => ⟨hs, fun t ht => by cases ht⟩
  have hdestroyed : ∀ s, Upto config packets i number none [] s → Careful config packets i
      (fun target s => Upto config packets i (number + 1) target [] s ∧
        ∀ t ∈ target, t.shard = shardOf t.imei)
      (do
        let _ : Unit ← send (.destroy i)
        pure none : Program ι (Option PersistTarget)) s := by
    intro s hs
    refine careful_send _ hs settled_upto hsound (own_of_none rfl) rfl fun s _ hs => ?_
    exact hnone _ (hs.unacknowledged (fun _ he => absurd he not_mem_nil) (.inl (dead_destroy i s)))
  unfold handleImei
  split
  · exact hdestroyed s hs
  rename_i hkind
  -- a handshake is no AVL frame
  have hplain : ∀ s, Upto config packets i number none [] s →
      Upto config packets i (number + 1) none [] s := by
    intro s hs
    refine hs.unacknowledged (fun _ he => absurd he not_mem_nil) (.inr fun packet h => ?_)
    cases hpacket.symm.trans h
    by_contra havl
    have hkind' := (isAvl_iff.mp (Bool.not_eq_false _ ▸ havl)).1
    rw [Decidable.not_not.mp hkind] at hkind'
    cases hkind'
  split
  · exact careful_threw hs.sound
  · rename_i imei _
    refine careful_send _ hs settled_upto hsound (own_of_none rfl) rfl fun s _ hs => ?_
    split
    · refine careful_send _ hs settled_upto hsound (own_of_none rfl) rfl fun s _ hs => ?_
      refine careful_send _ hs settled_upto hsound (own_of_none rfl) rfl fun s _ hs => ?_
      refine careful_send _ hs settled_upto hsound (own_of_sender rfl) rfl fun s _ hs => ?_
      split
      · exact hdestroyed _ hs
      · refine careful_send _ hs settled_upto hsound (own_of_none rfl) rfl fun s _ hs => ?_
        exact hnone _ (hplain _ hs)
    · rename_i deviceId _
      refine careful_send _ hs settled_upto hsound (own_of_none rfl) rfl fun s _ hs => ?_
      refine careful_send _ hs settled_upto hsound (own_of_sender rfl) rfl fun s _ hs => ?_
      refine careful_bind (careful_drainPending _ hs settled_upto hsound _ _) fun _ s hs => ?_
      refine careful_done _ (hplain s hs) settled_upto fun _ hs => ⟨hs.accepted _, fun t ht => ?_⟩
      cases ht
      rfl
  · exact hnone _ (hplain s hs)
  · exact hnone _ (hplain s hs)

/-- The connection is closed, or streams on from a frame. -/
def Streams (config : SessionConfig) (packets : List Packet) (i : ι) (number : ℕ)
    (st : SessionState) (s : IngestStore ι) : Prop :=
  Sound config packets i s ∧ (Dead i s ∨ st.number = number ∧
    Upto config packets i number st.target [] s ∧ ∀ t ∈ st.target, t.shard = shardOf t.imei)

lemma careful_handleFrames (st : SessionState) (hpackets : ∀ k frame, frames[k]? = some frame →
      packets[st.number + k]? = some ⟨frame, frame.bytes⟩)
    (htarget : ∀ t ∈ st.target, t.shard = shardOf t.imei)
    (hs : Upto config packets i st.number st.target [] s) :
    Careful config packets i
      (fun st' s => st'.buf = st.buf ∧ Streams config packets i (st.number + frames.length) st' s)
      (handleFrames config i st frames) s := by
  induction frames generalizing st s with
  | nil =>
    exact careful_done _ hs settled_upto fun _ hs => ⟨rfl, hs.sound, .inr ⟨rfl, hs, htarget⟩⟩
  | cons frame frames ih =>
    have hpacket : packets[st.number]? = some ⟨frame, frame.bytes⟩ := hpackets 0 frame rfl
    have hframe : Careful config packets i
        (fun target s => Upto config packets i (st.number + 1) target [] s ∧
          ∀ t ∈ target, t.shard = shardOf t.imei) (handleFrame config i st frame) s := by
      unfold handleFrame
      split
      · rename_i hnone
        rw [hnone] at hs
        exact careful_handleImei hpacket hs
      · rename_i t hsome
        rw [hsome] at hs htarget
        refine careful_bind (careful_handleStreamFrame (htarget t rfl) hpacket hs) fun _ s hs => ?_
        exact careful_done _ hs settled_upto fun _ hs => ⟨hs, htarget⟩
    refine careful_bind hframe fun target s hs => ?_
    obtain ⟨hs, htarget⟩ := hs
    refine careful_send _ hs settled_upto (fun _ hs => hs.sound) (own_of_none rfl) rfl
      fun s _ hs => ?_
    show Careful _ _ _ _ (if (s.sockets i).destroyed = true then _ else _) s
    split
    · rename_i hdead
      exact careful_done (fun s => Sound config packets i s ∧ Dead i s) ⟨hs.sound, hdead⟩
        (fun _ _ h hs => ⟨h.sound hs.1, h.dead hs.2⟩) fun _ hs => ⟨rfl, hs.1, .inl hs.2⟩
    · refine (ih _ (fun k frame' hk => ?_) htarget hs).mono fun r s hr => ?_
      · have hnext := hpackets (k + 1) frame' hk
        rw [Nat.add_comm k 1, ← Nat.add_assoc] at hnext
        exact hnext
      · cases r with
        | error e => exact hr
        | ok st' =>
          rw [length_cons, Nat.add_comm frames.length 1, ← Nat.add_assoc]
          exact hr

/-- The connection is closed, or waits for a chunk after the bytes that have arrived. -/
def Boundary (config : SessionConfig) (packets : List Packet) (i : ι) (arrived : Bytes)
    (st : SessionState) (s : IngestStore ι) : Prop :=
  Sound config packets i s ∧ (Dead i s ∨ ∃ frames,
    extractAll config.maxDataLength arrived = (frames, .ok st.buf) ∧ st.number = frames.length ∧
      Upto config packets i st.number st.target [] s ∧ ∀ t ∈ st.target, t.shard = shardOf t.imei)

lemma settled_boundary : Settled i (Boundary config packets i arrived st) := by
  rintro s s' h ⟨hsound, hs⟩
  refine ⟨h.sound hsound, hs.imp h.dead ?_⟩
  rintro ⟨frames, hframes, hnumber, hupto, htarget⟩
  exact ⟨frames, hframes, hnumber, h.upto hupto, htarget⟩

/-- The frames of a stream, with those of its beginning in front. -/
lemma packets_prefix {rest : Bytes}
    (h : extractAll config.maxDataLength arrived = (frames, .ok rest)) {k : ℕ}
    (hk : frames[k]? = some frame) :
    (packetsOf config (arrived ++ later))[k]? = some ⟨frame, frame.bytes⟩ := by
  obtain ⟨more, hmore⟩ : (extractAll config.maxDataLength arrived).1 <+:
      (extractAll config.maxDataLength (arrived ++ later)).1 := extractAll_prefix arrived later
  rw [h] at hmore
  unfold packetsOf
  rw [← hmore, map_append, getElem?_append_left, getElem?_map, hk]
  · rfl
  · rw [List.length_map]
    exact (List.getElem?_eq_some_iff.mp hk).1

lemma careful_onData {chunk : Bytes}
    (hpackets : packets = packetsOf config (arrived ++ chunk ++ later))
    (hs : Boundary config packets i arrived st s) :
    Careful config packets i (Boundary config packets i (arrived ++ chunk))
      (onData config i st chunk) s := by
  have hclosed : ∀ st' s, Sound config packets i s ∧ Dead i s →
      Careful config packets i (Boundary config packets i (arrived ++ chunk))
        (.done st' : Program ι SessionState) s := by
    intro st' s hs
    exact careful_done (fun s => Sound config packets i s ∧ Dead i s) hs
      (fun _ _ h hs => ⟨h.sound hs.1, h.dead hs.2⟩) fun _ hs => ⟨hs.1, .inl hs.2⟩
  have hdestroyed : ∀ s, Sound config packets i s →
      Careful config packets i (Boundary config packets i (arrived ++ chunk))
        (do
          let _ : Unit ← send (.destroy i)
          pure st : Program ι SessionState) s := by
    intro s hs
    refine careful_send _ hs settled_sound (fun _ hs => hs) (own_of_none rfl) rfl fun s _ hs => ?_
    exact hclosed st _ ⟨hs, dead_destroy i s⟩
  refine careful_send _ hs settled_boundary (fun _ hs => hs.1) (own_of_none rfl) rfl
    fun s _ hs => ?_
  show Careful _ _ _ _ (if (s.sockets i).destroyed = true then _ else _) s
  split
  · rename_i hdead
    exact hclosed st s ⟨hs.1, hdead⟩
  rename_i hopen
  split
  · exact hdestroyed s hs.1
  rename_i frames rest hfeed
  obtain ⟨hsound, hdead | ⟨before, hbefore, hnumber, hupto, htarget⟩⟩ := hs
  · exact absurd hdead hopen
  have hextract := extractAll_feed hbefore hfeed
  have hframes : Careful config packets i
      (fun st' s => st'.buf = rest ∧ Streams config packets i (st.number + frames.length) st' s)
      (handleFrames config i { st with buf := rest } frames) s := by
    refine careful_handleFrames { st with buf := rest } (fun k frame hk => ?_) htarget hupto
    rw [hpackets]
    refine packets_prefix hextract ?_
    show (before ++ frames)[st.number + k]? = some frame
    rw [hnumber, getElem?_append_right (Nat.le_add_right _ _), Nat.add_sub_cancel_left]
    exact hk
  refine Async.Meets.attempt hframes (fun st' s hs => ?_) fun _ s hs => hdestroyed s hs
  obtain ⟨hbuf, hsound, hdead | ⟨hnumber', hupto', htarget'⟩⟩ := hs
  · exact ⟨hsound, .inl hdead⟩
  · refine ⟨hsound, .inr ⟨before ++ frames, ?_, ?_, ?_, htarget'⟩⟩
    · rw [hextract, hbuf]
    · rw [hnumber', hnumber, length_append]
    · rw [hnumber']
      exact hupto'

lemma careful_session {chunks : List Bytes}
    (hpackets : packets = packetsOf config (arrived ++ chunks.flatten))
    (hs : Boundary config packets i arrived st s) :
    Careful config packets i (fun _ s => Dead i s ∨ ∀ k, Answered packets i k s)
      (session config i st chunks) s := by
  induction chunks generalizing arrived st s with
  | nil =>
    refine careful_done _ hs settled_boundary fun s hs => ?_
    obtain ⟨-, hdead | ⟨frames, hframes, hnumber, hupto, -⟩⟩ := hs
    · exact .inl hdead
    refine hupto.answered.imp id fun hanswered k packet hpacket => ?_
    refine hanswered k ?_ packet hpacket
    rw [flatten_nil, append_nil] at hpackets
    have hlength : packets.length = frames.length := by
      rw [hpackets]
      unfold packetsOf
      rw [hframes, length_map]
    rw [hnumber, ← hlength]
    exact (List.getElem?_eq_some_iff.mp hpacket).1
  | cons chunk chunks ih =>
    rw [List.flatten_cons, ← List.append_assoc] at hpackets
    exact careful_bind (careful_onData hpackets hs) fun st' s hs => ih hpackets hs

end Sessions

/-! ## Datagrams -/

section Datagrams

variable {i : ι} {s : IngestStore ι}

/-- The frame of a datagram whose header can be read. -/
def datagramPackets (bytes : Bytes) : List Packet :=
  match decodeUdpHeader bytes with
  | .ok head => [packetOf head]
  | .error _ => []

lemma acks_sendTo (reply : Reply) (s : IngestStore ι) :
    (s.sendTo i reply).acks i = s.acks i ++ (reply.acked.map (0, ·)).toList := by
  have hwritten : ((s.sendTo i reply).sockets i).written =
      (s.sockets i).written ++ [(0, reply)] := by
    show (update s.sockets i _ i).written = _
    rw [update_self]
  unfold IngestStore.acks
  rw [hwritten, filterMap_append]
  cases hacked : reply.acked with
  | none =>
    rw [filterMap_cons_none (by rw [hacked]; rfl)]
    rfl
  | some n =>
    rw [filterMap_cons_some (by rw [hacked]; rfl)]
    rfl

/-- The datagram is answered, with one acknowledgement. -/
lemma careful_answer {packet : Packet} {target : Option PersistTarget}
    {batch : List (Stream × Entry ι)} {packetId avlPacketId n : ℕ}
    (hbatch : ∀ e ∈ batch, e.2.origin.frame = 0)
    (hs : Upto config [packet] i 0 target batch s)
    (hstored : packet.frame.isAvl = true → n = packet.frame.declaredCount →
      ∀ j < n, Stored config i 0 packet j s) :
    Careful config [packet] i (fun r s => r = none → ∃ n, s.acks i = [(0, n)])
      (do
        let _ : Unit ← send (.sendTo i (.udpAck packetId avlPacketId n))
        pure none : Program ι (Option Drop)) s := by
  have hown : (IngestCommand.sendTo i (.udpAck packetId avlPacketId n)).Own i := own_of_sender rfl
  let J : IngestStore ι → Prop := fun s => Upto config [packet] i 0 target batch s ∧
    (packet.frame.isAvl = true → n = packet.frame.declaredCount →
      ∀ j < n, Stored config i 0 packet j s)
  have hJ : Settled i J := by
    refine fun s s' h hs => ⟨h.upto hs.1, fun havl hcount j hj => (hs.2 havl hcount j hj).mono ?_⟩
    intro stream entry hentry
    rw [h.posted]
    exact hentry
  refine Async.Meets.sendOk (V := ingestService ι) J ⟨hs, hstored⟩ hJ.stable
    (fun s fate hfate => hfate rfl) fun s hs => ?_
  have hacks : (s.sendTo i (.udpAck packetId avlPacketId n)).acks i = s.acks i ++ [(0, n)] :=
    acks_sendTo _ s
  have hanswered : Upto config [packet] i 1 target []
      (s.sendTo i (.udpAck packetId avlPacketId n)) :=
    hs.1.acknowledged rfl hbatch (fun k hk => absurd hk (Nat.not_lt_zero k)) hs.2
      (fun _ => rfl) hacks
  have hnone : s.acks i = [] := eq_nil_iff_forall_not_mem.mpr fun a ha =>
    absurd (hs.1.acked a ha) (Nat.not_lt_zero _)
  rw [hnone, nil_append] at hacks
  refine ⟨⟨own_same hown s .ok, hanswered.sound⟩, ?_⟩
  exact careful_done (fun s => s.acks i = [(0, n)]) hacks (fun s s' h hs => h.acks.trans hs)
    fun s hs _ => ⟨n, hs⟩

lemma declaredCount_lt (frame : Frame) : frame.declaredCount < 256 := UInt8.toNat_lt _

lemma careful_handle (bytes : Bytes)
    (hs : Upto config (datagramPackets bytes) i 0 none [] s) :
    Careful config (datagramPackets bytes) i (fun r s => r = none → ∃ n, s.acks i = [(0, n)])
      (handle config i bytes) s := by
  have hdropped : ∀ {packets : List Packet} (drop : Drop) s, Sound config packets i s →
      Careful config packets i (fun r s => r = none → ∃ n, s.acks i = [(0, n)])
        (.done (some drop) : Program ι (Option Drop)) s :=
    fun drop s hs => careful_done _ hs settled_sound fun _ _ h => by cases h
  have hsound : ∀ {packets : List Packet} s, Upto config packets i 0 none [] s →
      Sound config packets i s := fun _ hs => hs.sound
  unfold handle
  refine careful_send _ hs settled_upto hsound (own_of_none rfl) rfl fun s _ hs => ?_
  show Careful _ _ _ _ (if (!s.admits) = true then _ else _) s
  split
  · exact hdropped _ _ hs.sound
  unfold datagramPackets at hs ⊢
  cases hhead : decodeUdpHeader bytes with
  | error e =>
    rw [hhead] at hs
    cases e with
    | frame => exact hdropped _ _ hs.sound
    | crc => exact careful_threw hs.sound
    | undecodable declaredCount => exact careful_threw hs.sound
    | other => exact careful_threw hs.sound
  | ok head =>
    rw [hhead] at hs
    dsimp only
    have hempty : ∀ e ∈ ([] : List (Stream × Entry ι)), e.2.origin.frame = 0 :=
      fun e he => absurd he not_mem_nil
    have hzero : ∀ s, Upto config [packetOf head] i 0 none [] s →
        Careful config [packetOf head] i (fun r s => r = none → ∃ n, s.acks i = [(0, n)])
          (do
            let _ : Unit ← send (.sendTo i (.udpAck head.packetId head.avlPacketId (0 % 256)))
            pure none : Program ι (Option Drop)) s :=
      fun s hs => careful_answer hempty hs fun _ _ j hj => absurd hj (Nat.not_lt_zero j)
    refine careful_send _ hs settled_upto hsound (own_of_none rfl) rfl fun s _ hs => ?_
    split
    · refine careful_send _ hs settled_upto hsound (own_of_none rfl) rfl fun s _ hs => ?_
      refine careful_send _ hs settled_upto hsound (own_of_none rfl) rfl fun s _ hs => ?_
      exact hdropped _ _ hs.sound
    rename_i deviceId _
    cases hparse : parseUdpAvl config.protocolParser head.avlData with
    | error e =>
      cases e with
      | frame => exact hzero s hs
      | crc => exact hzero s hs
      | other => exact careful_threw hs.sound
      | undecodable declaredCount =>
        refine careful_send _ hs settled_upto hsound (own_of_none rfl) rfl fun s _ hs => ?_
        refine careful_park hs fun s entry hframe hpayload hmem hs => ?_
        refine careful_answer (fun e he => ?_) hs fun _ _ j _ => ?_
        · obtain rfl := mem_singleton.mp he
          exact hframe
        · refine ⟨.unsupported, entry, hmem, hframe, .inr rfl, ?_⟩
          rw [hpayload]
          rfl
    | ok packet =>
      cases packet with
      | imei imei => exact hzero s hs
      | cmdResponse codec text nack => exact hzero s hs
      | avl codec records =>
        have hframe : parseFrame config.protocolParser (packetOf head).frame =
            .ok (.avl codec records) := by
          unfold parseUdpAvl at hparse
          split at hparse
          · cases hparse
          · exact hparse
        have htarget := hs.accepted ⟨deviceId, head.imei, shardOf head.imei⟩
        refine careful_send _ htarget settled_upto (fun _ hs => hs.sound) (own_of_none rfl) rfl
          fun s _ hs => ?_
        show Careful _ _ _ _
          (if s.depth (shardOf head.imei) > config.pauseAboveDepth then _ else _) s
        split
        · exact hdropped _ _ hs.sound
        refine careful_send _ hs settled_upto (fun _ hs => hs.sound) (own_of_none rfl) rfl
          fun s _ hs => ?_
        refine careful_bind (careful_pipeline (fun e he => ?_) (fun e he shard => shard_of_mem he)
          (fun e he shard hraw => ⟨_, rfl, holds_of_mem rfl hframe he hraw⟩)
          inOrder_batchEntries hs) fun persisted s hbatched => ?_
        · obtain ⟨j, horigin⟩ := origin_of_mem he
          rw [horigin]
          exact ⟨rfl, rfl⟩
        refine careful_answer (fun e he => ?_) hbatched.upto fun _ hcount j hj => ?_
        · obtain ⟨j, horigin⟩ := origin_of_mem he
          rw [horigin]
        · have hrecords := (parseFrame_avl hframe).2
          have hsmall : persisted < 256 := by
            refine lt_of_le_of_lt (hbatched.le.trans ?_) (declaredCount_lt (packetOf head).frame)
            exact (length_batchEntries.trans hrecords).le
          rw [Nat.mod_eq_of_lt hsmall] at hcount hj
          have hlength : persisted = records.length := hcount.trans hrecords.symm
          exact stored_of_batch rfl hframe
            (hbatched.posted (hlength.trans length_batchEntries.symm)) (hlength ▸ hj)

end Datagrams

/-! ## Runs -/

section Runs

variable {i : ι} {s start : IngestStore ι} {calls : ι → IngestCall ι} {p : IngestPool ι}

/-- The frames that a call handles. -/
def IngestCall.packets (config : SessionConfig) : IngestCall ι → List Packet
  | .session chunks => packetsOf config chunks.flatten
  | .datagram bytes => datagramPackets bytes
  | _ => []

/-- How many acknowledgements a call that has returned has written: one for each AVL frame of a
session that has not ended before, and one for a datagram that is not dropped. -/
def Concluded (config : SessionConfig) (i : ι) (s : IngestStore ι) (r : Option Drop) :
    IngestCall ι → Prop
  | .session chunks => Dead i s ∨ ∀ k, Answered (packetsOf config chunks.flatten) i k s
  | .datagram _ => r = none → ∃ n, s.acks i = [(0, n)]
  | _ => True

/-- Nothing has been appended or written in the name of `i`. -/
structure Fresh (i : ι) (s : IngestStore ι) : Prop where
  posted : ∀ stream, s.posted i stream = []
  written : (s.sockets i).written = []

lemma Fresh.acks (h : Fresh i s) : s.acks i = [] := by
  unfold IngestStore.acks
  rw [h.written]
  rfl

variable {packets : List Packet}

lemma Fresh.upto (h : Fresh i s) : Upto config packets i 0 none [] s where
  sound := by
    refine ⟨?_, ?_, ?_, fun shard => ?_, fun shard shard' hne => ?_, fun shard => ?_⟩
    · rw [h.acks]
      exact .nil
    · rw [h.acks]
      exact fun a ha => absurd ha not_mem_nil
    · rw [h.acks]
      exact fun a ha => absurd ha not_mem_nil
    · rw [h.posted]
      exact .nil
    · exact absurd (h.posted _) hne
    · rw [h.posted]
      exact fun entry hentry => absurd hentry not_mem_nil
  acked := by
    rw [h.acks]
    exact fun a ha => absurd ha not_mem_nil
  posted shard := by
    rw [h.posted]
    exact fun entry hentry => absurd hentry not_mem_nil
  shard shard hne := absurd (h.posted _) hne
  answered := .inr fun k hk => absurd hk (Nat.not_lt_zero k)

lemma Fresh.boundary (h : Fresh i s) : Boundary config packets i [] ⟨[], 0, none⟩ s := by
  refine ⟨h.upto.sound, .inr ⟨[], ?_, rfl, h.upto, fun t ht => by cases ht⟩⟩
  unfold extractAll
  rfl

/-- A call of the registry, or what goes on outside. -/
lemma careful_other {α : Type} {m : Program ι α} {Q : α → IngestStore ι → Prop}
    (hm : m.Sends fun c : IngestCommand ι => c.sender = none) (hQ : ∀ a s, Q a s)
    (hs : Sound config packets i s) : Careful config packets i Q m s := by
  induction m generalizing s with
  | done a => exact careful_done _ hs settled_sound fun s _ => hQ a s
  | threw e => exact careful_threw hs
  | call c k ih =>
    refine ⟨_, hs, settled_sound.stable, fun s hs fate _ => ?_⟩
    have hsame : ∀ j, Same j s ((ingestService ι).answer c s fate).1 := fun j =>
      same_answer c s fate (hm.1.trans_ne (Option.some_ne_none j).symm)
    have hsound := settled_sound.stable _ _ (hsame i) hs
    exact ⟨⟨fun j _ => hsame j, hsound⟩, ih _ (hm.2 _) hsound⟩

lemma careful_call (call : IngestCall ι) (hs : Fresh i s) :
    Careful config (call.packets config) i (fun r s => Concluded config i s r call)
      (call.program config i) s := by
  have hnone : ∀ c : IngestCommand ι, c.sender = none →
      (send c).Sends fun c : IngestCommand ι => c.sender = none := fun c hc => Async.Sends.send hc
  cases call with
  | session chunks =>
    refine careful_bind (careful_session rfl hs.boundary) fun _ s hs => ?_
    refine careful_done _ hs (fun s s' h hs => hs.imp h.dead fun hanswered k => ?_) fun _ hs => hs
    unfold Answered
    rw [h.acks]
    exact hanswered k
  | datagram bytes => exact careful_handle bytes hs.upto
  | activate device =>
    refine careful_other ?_ (fun _ _ => trivial) hs.upto.sound
    exact .bind (.bind (hnone _ rfl) fun _ => hnone _ rfl) fun _ => trivial
  | deactivate device keepLastFix =>
    refine careful_other ?_ (fun _ _ => trivial) hs.upto.sound
    exact .bind (.bind (hnone _ rfl) fun _ => hnone _ rfl) fun _ => trivial
  | outside events =>
    refine careful_other ?_ (fun _ _ => trivial) hs.upto.sound
    refine .bind (.foldlM (fun _ event _ => ?_) ()) fun _ => trivial
    exact hnone (.world event) rfl

/-- What a step within the process does is not refused or lost. -/
def LocalOk (_ : IngestPool ι) (_ : ι) (c : IngestCommand ι) (fate : Fate) : Prop :=
  c.isLocal = true → fate = .ok

/-- **What is acknowledged is stored.** -/
theorem acknowledged_stored (hfresh : ∀ i, Fresh i start)
    (hrun : Pool.Run LocalOk (ingestCalls config calls start) p) (i : ι) :
    Sound config ((calls i).packets config) i p.state ∧
      ∀ r, p.thread i = .done r → Concluded config i p.state r (calls i) := by
  let own : ι → IngestCommand ι → IngestStore ι → IngestStore ι → Prop := fun k _ s s' =>
    (∀ j, j ≠ k → Same j s s') ∧ Sound config ((calls k).packets config) k s'
  let can : ι → IngestStore ι → IngestCommand ι → Fate → Prop := fun _ _ c fate =>
    c.isLocal = true → fate = .ok
  have hcompatible : Pool.Compatible (V := ingestService ι) (ε := Unit) (α := Option Drop) LocalOk
      can (fun k _ => Same k) own :=
    fun _ _ _ _ _ _ hfits => ⟨hfits, fun hown j hj => hown.1 j hj⟩
  have hmeets : (ingestCalls config calls start).Meets can (fun k _ => Same k) own
      fun k => Async.Ending (fun r s => Concluded config k s r (calls k))
        (Sound config ((calls k).packets config) k) :=
    fun k => careful_call (calls k) (hfresh k)
  refine ⟨?_, fun r hr => (hrun.meets hcompatible hmeets).returned hr⟩
  have hkept := hrun.keeps hcompatible hmeets
    (I := fun s s' => Sound config ((calls i).packets config) i s →
      Sound config ((calls i).packets config) i s')
    (fun _ h => h) (fun _ _ _ h h' hs => h' (h hs)) fun k _ s s' hown hs => ?_
  · exact hkept (hfresh i).upto.sound
  · by_cases hk : k = i
    · subst hk
      exact hown.2
    · exact settled_sound.stable _ _ (hown.1 i (Ne.symm hk)) hs

instance (p : IngestPool ι) (k : ι) (c : IngestCommand ι) (fate : Fate) :
    Decidable (LocalOk p k c fate) := inferInstanceAs (Decidable (c.isLocal = true → fate = .ok))

end Runs

/-! A session and a datagram of the same device, each with a frame of one record. -/

/-- A parser that reads one record without IO elements. -/
def oneRecordConfig : SessionConfig := ⟨fun _ => .ok (some [[]]), 4096, 0, 0, 0⟩

def oneRecordDatagram : Bytes := [0, 47, 0, 1, 1, 5, 0, 8] ++ handshake.drop 2 ++ oneRecord

def oneEach : Fin 2 → IngestCall (Fin 2)
  | 0 => .session [handshake, wrapAsTcpFrame oneRecord]
  | 1 => .datagram oneRecordDatagram

def backlogged (depth : ℕ) : IngestStore (Fin 2) :=
  { onlyDevice "12345678" 7 with depth := fun _ => depth }

/-- The session and then the datagram, to their ends. -/
def bothHandled (depth : ℕ) : IngestPool (Fin 2) :=
  (ingestCalls oneRecordConfig oneEach (backlogged depth)).exec
    (replicate 20 (0, Fate.ok) ++ replicate 6 (1, Fate.ok))

lemma run_bothHandled_idle : Pool.Run LocalOk
    (ingestCalls oneRecordConfig oneEach (backlogged 0)) (bothHandled 0) :=
  Pool.run_exec_of_isSome _ _ (by decide +kernel)

/-- Both records are stored and acknowledged. -/
theorem acknowledged_stored_both :
    (bothHandled 0).state.acks 0 = [(1, 1)] ∧ (bothHandled 0).state.acks 1 = [(0, 1)] ∧
      Sound oneRecordConfig ((oneEach 0).packets oneRecordConfig) 0 (bothHandled 0).state :=
  ⟨by decide +kernel, by decide +kernel,
    (acknowledged_stored (fun _ => ⟨fun _ => rfl, rfl⟩) run_bothHandled_idle 0).1⟩

/-- Above the threshold the datagram is dropped, so that its frame is not acknowledged. -/
theorem datagram_unacknowledged :
    Pool.Run LocalOk (ingestCalls oneRecordConfig oneEach (backlogged 1)) (bothHandled 1) ∧
    ((bothHandled 1).thread 1).returned = some (some .backpressure) ∧
    ((oneEach 1).packets oneRecordConfig).map (fun packet =>
      (packet.frame.isAvl, packet.frame.declaredCount)) = [(true, 1)] ∧
    (bothHandled 1).state.acks 1 = [] ∧ ((bothHandled 1).state.sockets 1).destroyed = false :=
  ⟨Pool.run_exec_of_isSome _ _ (by decide +kernel), by decide +kernel, by decide +kernel,
    by decide +kernel, by decide +kernel⟩

end Orbetra.Ingest
