import Orbetra.Framework.Update
import Orbetra.Live.Socket

/-!
# One chain of connections

A `LiveSocket` waits for one thing at a time, unless it is stopped (`Inv`): a ticket, a scheduled
reconnect, or the close of its socket.  Whatever an earlier generation left behind is known by its
generation, in every handler but one: `onclose` clears the stable timer before it looks. -/

namespace Orbetra.LiveSocket

open Function Option Nat Machine

/-! ## The chain -/

/-- What holds between any two pieces of code, while the chain waits for a link, or for none. -/
structure Chained (opts : Opts) (link : Option Link) (w : World) : Prop where
  link : ∀ l, w.Has l ↔ link = some l
  timer : ∀ i timer, w.timers i = some timer → w.self.timer = some i ∧ timer.gen = w.self.generation
  ws : ∀ k, w.self.ws = some k ↔ w.Has (.socket k)
  stable : ∀ j timer, w.stables j = some timer →
    w.self.stableTimer = some j ∧ w.self.ws = some timer.socket ∧
      timer.gen = w.self.generation ∧
      ∃ socket t, w.sockets timer.socket = some socket ∧ socket.openedAt = some t ∧
        timer.due = t + opts.stableAfterMs
  ticket_gen : ∀ i gen, w.tickets i = some gen → gen ≤ w.self.generation
  socket_gen : ∀ k socket, w.sockets k = some socket → socket.gen ≤ w.self.generation
  fresh : ∀ i, w.next ≤ i →
    w.tickets i = none ∧ w.timers i = none ∧ w.stables i = none ∧ w.sockets i = none
  ticket : ∀ k socket, w.sockets k = some socket →
    socket.ticket < w.next ∧ w.tickets socket.ticket = none
  distinct : ∀ k k' socket socket', w.sockets k = some socket → w.sockets k' = some socket' →
    socket.ticket = socket'.ticket → k = k'

/-- Between the moves the chain waits for a link unless it is stopped. -/
def Inv (opts : Opts) (w : World) : Prop :=
  ∃ link, Chained opts link w ∧ (link = none ↔ w.self.stopped)

variable {opts : Opts} {w w' : World} {move : Move} {link : Option Link} {i k gen : ℕ}

lemma inv_new : Inv opts .new := by
  refine ⟨none, ?_, by simp [World.new]⟩
  constructor <;> simp [World.new, World.Has]
  rintro (_ | _ | _) <;> simp

section Updates

variable {α : Type} {f : ℕ → Option α} {j : ℕ} {x y : α}

lemma update_eq_none {o : Option α} (hf : f j = none) (hij : j ≠ i) : update f i o j = none :=
  (update_of_ne hij ..).trans hf

end Updates

/-! ### What makes a link -/

lemma Chained.connect (h : Chained opts none w) (hrun : w.self.stopped = false) :
    Chained opts (some (.ticket w.next)) (w.connect w.self.generation) := by
  have hnone : ∀ l, ¬ w.Has l := fun l hl => nomatch (h.link l).1 hl
  unfold World.connect
  rw [if_neg (by simp [hrun])]
  refine ⟨fun l => ?_, h.timer, h.ws, h.stable, fun i gen hi => ?_, h.socket_gen,
    fun i hi => ?_, fun k socket hk => ?_, h.distinct⟩
  · cases l with
    | ticket i =>
      refine update_some_eq_some.trans ⟨?_, fun heq => ?_⟩
      · rintro (⟨rfl, -⟩ | ⟨-, hi⟩)
        · rfl
        · exact absurd hi (hnone (.ticket i))
      · exact .inl ⟨(Link.ticket.inj (some.inj heq)).symm, rfl⟩
    | timer i => exact iff_of_false (hnone (.timer i)) nofun
    | socket k => exact iff_of_false (hnone (.socket k)) nofun
  · rcases update_some_eq_some.1 hi with ⟨-, rfl⟩ | ⟨-, hi⟩
    · exact le_refl _
    · exact h.ticket_gen i gen hi
  · obtain ⟨htickets, hrest⟩ := h.fresh i (le_of_succ_le hi)
    exact ⟨update_eq_none htickets (ne_of_gt hi), hrest⟩
  · obtain ⟨hlt, hnot⟩ := h.ticket k socket hk
    exact ⟨Nat.lt_succ_of_lt hlt, update_eq_none hnot (Nat.ne_of_lt hlt)⟩

variable {random : ℚ} {socket : Socket} {timer : StableTimer} {gen : ℕ} {code : Option ℕ}

lemma Chained.scheduleReconnect (h : Chained opts none w) :
    Chained opts (some (.timer w.next)) (w.scheduleReconnect opts random w.self.generation) := by
  have hnone : ∀ l, ¬ w.Has l := fun l hl => nomatch (h.link l).1 hl
  refine ⟨fun l => ?_, fun i timer hi => ?_, h.ws, h.stable, h.ticket_gen, h.socket_gen,
    fun i hi => ?_, fun k socket hk => ?_, h.distinct⟩
  · cases l with
    | ticket i => exact iff_of_false (hnone (.ticket i)) nofun
    | timer i =>
      refine ⟨fun hi => ?_, fun heq => ?_⟩
      · obtain ⟨timer, hi⟩ := isSome_iff_exists.1 hi
        rcases update_some_eq_some.1 hi with ⟨rfl, -⟩ | ⟨-, hi⟩
        · rfl
        · exact absurd (isSome_of_eq_some hi) (hnone (.timer i))
      · cases heq
        exact isSome_of_eq_some (update_self ..)
    | socket k => exact iff_of_false (hnone (.socket k)) nofun
  · rcases update_some_eq_some.1 hi with ⟨rfl, rfl⟩ | ⟨-, hi⟩
    · exact ⟨rfl, rfl⟩
    · exact absurd (isSome_of_eq_some hi) (hnone (.timer i))
  · obtain ⟨htickets, htimers, hrest⟩ := h.fresh i (le_of_succ_le hi)
    exact ⟨htickets, update_eq_none htimers (ne_of_gt hi), hrest⟩
  · obtain ⟨hlt, hnot⟩ := h.ticket k socket hk
    exact ⟨lt_succ_of_lt hlt, hnot⟩

/-- Without a link there is no socket and no timer. -/
lemma Chained.idle (h : Chained opts none w) :
    w.self.ws = none ∧ (∀ i, w.timers i = none) ∧ ∀ j, w.stables j = none := by
  have hnone : ∀ l, ¬ w.Has l := fun l hl => nomatch (h.link l).1 hl
  have hws : w.self.ws = none := by
    cases hws : w.self.ws with
    | none => rfl
    | some k => exact absurd ((h.ws k).1 hws) (hnone _)
  refine ⟨hws, fun i => ?_, fun j => ?_⟩
  · simpa [World.Has] using hnone (.timer i)
  · cases hj : w.stables j with
    | none => rfl
    | some timer => exact nomatch hws.symm.trans (h.stable j timer hj).2.1

lemma Chained.granted (h : Chained opts none w) (hi : i < w.next) (hused : w.tickets i = none)
    (hnew : ∀ k socket, w.sockets k = some socket → socket.ticket ≠ i)
    (hrun : w.self.stopped = false) :
    Chained opts (some (.socket w.next)) (w.connected opts i w.self.generation .granted) := by
  have hnone : ∀ l, ¬ w.Has l := fun l hl => nomatch (h.link l).1 hl
  obtain ⟨-, -, hstable⟩ := h.idle
  unfold World.connected
  dsimp only
  rw [if_neg (by simp [hrun])]
  have hlink : ∀ l, World.Has { w with
      sockets := update w.sockets w.next (some ⟨w.self.generation, i, false, none, false, false⟩)
      self := { w.self with ws := some w.next }
      next := w.next + 1 } l ↔ some (Link.socket w.next) = some l := by
    intro l
    cases l with
    | ticket i => exact iff_of_false (hnone (.ticket i)) nofun
    | timer i => exact iff_of_false (hnone (.timer i)) nofun
    | socket k =>
      refine ⟨fun ⟨socket, hk, hopen⟩ => ?_, fun heq => ?_⟩
      · rcases update_some_eq_some.1 hk with ⟨rfl, -⟩ | ⟨-, hk⟩
        · rfl
        · exact absurd ⟨socket, hk, hopen⟩ (hnone (.socket k))
      · cases heq
        exact ⟨_, update_self .., rfl, rfl⟩
  refine ⟨hlink, h.timer, fun k => ?_, fun j timer hj => ?_, h.ticket_gen,
    fun k socket hk => ?_, fun j hj => ?_, fun k socket hk => ?_,
    fun k k' socket socket' hk hk' heq => ?_⟩
  · rw [hlink]
    simp
  · exact nomatch (hstable j).symm.trans hj
  · rcases update_some_eq_some.1 hk with ⟨-, rfl⟩ | ⟨-, hk⟩
    · exact le_refl _
    · exact h.socket_gen k socket hk
  · obtain ⟨htickets, htimers, hstables, hsockets⟩ := h.fresh j (le_of_succ_le hj)
    exact ⟨htickets, htimers, hstables, update_eq_none hsockets (ne_of_gt hj)⟩
  · rcases update_some_eq_some.1 hk with ⟨-, rfl⟩ | ⟨-, hk⟩
    · exact ⟨lt_succ_of_lt hi, hused⟩
    · obtain ⟨hlt, hnot⟩ := h.ticket k socket hk
      exact ⟨lt_succ_of_lt hlt, hnot⟩
  · rcases update_some_eq_some.1 hk with ⟨rfl, rfl⟩ | ⟨-, hk⟩ <;>
      rcases update_some_eq_some.1 hk' with ⟨rfl, rfl⟩ | ⟨-, hk'⟩
    · rfl
    · exact absurd heq.symm (hnew k' socket' hk')
    · exact absurd heq (hnew k socket hk)
    · exact h.distinct k k' socket socket' hk hk' heq

/-! ### What loses one -/

lemma link_of_lose {l₀ : Link} (h : ∀ l, w.Has l ↔ link = some l)
    (hlose : ∀ l, w'.Has l ↔ l ≠ l₀ ∧ w.Has l) [Decidable (w.Has l₀)] (l : Link) :
    w'.Has l ↔ (if w.Has l₀ then none else link) = some l := by
  rw [hlose, h]
  split
  · next hhas =>
    rw [(h l₀).1 hhas]
    exact iff_of_false (fun ⟨hne, heq⟩ => hne (some.inj heq).symm) nofun
  · next hnot =>
    refine ⟨And.right, fun heq => ⟨?_, heq⟩⟩
    rintro rfl
    exact hnot ((h l).2 heq)

lemma Chained.take_ticket (h : Chained opts link w) (hi : w.tickets i = some gen) :
    Chained opts (if gen = w.self.generation then none else link)
      { w with tickets := update w.tickets i none } := by
  have hhas : w.Has (.ticket i) ↔ gen = w.self.generation := by simp [World.Has, hi]
  have hlose : ∀ l, World.Has { w with tickets := update w.tickets i none } l ↔
      l ≠ .ticket i ∧ w.Has l := by
    intro l
    cases l with
    | ticket j =>
      rw [Ne, Link.ticket.injEq]
      exact update_none_eq_some
    | timer j => exact (and_iff_right nofun).symm
    | socket k => exact (and_iff_right nofun).symm
  refine ⟨fun l => ?_, h.timer, h.ws, h.stable, fun j gen hj => ?_, h.socket_gen,
    fun j hj => ?_, fun k socket hk => ?_, h.distinct⟩
  · have : Decidable (w.Has (.ticket i)) := decidable_of_iff' _ hhas
    rw [link_of_lose h.link hlose l]
    simp only [hhas]
  · exact h.ticket_gen j gen (update_none_eq_some.1 hj).2
  · obtain ⟨htickets, hrest⟩ := h.fresh j hj
    refine ⟨update_eq_none htickets ?_, hrest⟩
    rintro rfl
    exact nomatch htickets.symm.trans hi
  · obtain ⟨hlt, hnot⟩ := h.ticket k socket hk
    refine ⟨hlt, update_eq_none hnot ?_⟩
    rintro rfl
    exact nomatch hnot.symm.trans hi

lemma Chained.take_timer {timer : Timer} (h : Chained opts link w) (hi : w.timers i = some timer) :
    link = some (.timer i) ∧ Chained opts none { w with timers := update w.timers i none } := by
  have hlink : link = some (.timer i) := (h.link _).1 (isSome_of_eq_some hi)
  have hall : ∀ j, update w.timers i none j = none := by
    intro j
    by_contra hne
    obtain ⟨timer', hj⟩ := ne_none_iff_exists'.1 hne
    obtain ⟨hne, hj⟩ := update_none_eq_some.1 hj
    exact hne (some.inj ((h.timer j timer' hj).1.symm.trans (h.timer i timer hi).1))
  have hhas : ∀ l, World.Has { w with timers := update w.timers i none } l → l = .timer i := by
    intro l hl
    cases l with
    | ticket j => exact (some.inj (hlink.symm.trans ((h.link (.ticket j)).1 hl))).symm
    | timer j =>
      obtain ⟨timer', hj⟩ := isSome_iff_exists.1 hl
      exact nomatch (hall j).symm.trans hj
    | socket k => exact (some.inj (hlink.symm.trans ((h.link (.socket k)).1 hl))).symm
  refine ⟨hlink, fun l => ⟨fun hl => ?_, nofun⟩,
    fun j timer' hj => (nomatch (hall j).symm.trans hj), h.ws, h.stable, h.ticket_gen,
    h.socket_gen, fun j hj => ?_, h.ticket, h.distinct⟩
  · obtain rfl := hhas l hl
    obtain ⟨timer', hj⟩ := isSome_iff_exists.1 hl
    exact nomatch (hall i).symm.trans hj
  · obtain ⟨htickets, -, hrest⟩ := h.fresh j hj
    exact ⟨htickets, hall j, hrest⟩

lemma clearStable_stables (h : Chained opts link w) (j : ℕ) : w.clearStable.stables j = none := by
  by_contra hne
  obtain ⟨timer, hj⟩ := ne_none_iff_exists'.1 hne
  cases hhandle : w.self.stableTimer with
  | none =>
    simp only [World.clearStable, hhandle] at hj
    exact nomatch hhandle.symm.trans (h.stable j timer hj).1
  | some i =>
    simp only [World.clearStable, hhandle] at hj
    obtain ⟨hne, hj⟩ := update_none_eq_some.1 hj
    exact hne (some.inj ((h.stable j timer hj).1.symm.trans hhandle))

lemma Chained.clearStable (h : Chained opts link w) : Chained opts link w.clearStable := by
  refine ⟨h.link, h.timer, h.ws, fun j timer hj => ?_, h.ticket_gen, h.socket_gen, fun j hj => ?_,
    h.ticket, h.distinct⟩
  · exact nomatch (clearStable_stables h j).symm.trans hj
  · obtain ⟨htickets, htimers, -, hsockets⟩ := h.fresh j hj
    exact ⟨htickets, htimers, clearStable_stables h j, hsockets⟩

lemma clearTimer_timers (h : Chained opts link w) (j : ℕ) : w.clearTimer.timers j = none := by
  by_contra hne
  obtain ⟨timer, hj⟩ := ne_none_iff_exists'.1 hne
  cases hhandle : w.self.timer with
  | none =>
    simp only [World.clearTimer, hhandle] at hj
    exact nomatch hhandle.symm.trans (h.timer j timer hj).1
  | some i =>
    simp only [World.clearTimer, hhandle] at hj
    obtain ⟨hne, hj⟩ := update_none_eq_some.1 hj
    exact hne (some.inj ((h.timer j timer hj).1.symm.trans hhandle))

lemma Chained.setSocket {socket' : Socket} (h : Chained opts link w)
    (hk : w.sockets k = some socket) (hgen : socket'.gen = socket.gen)
    (hticket : socket'.ticket = socket.ticket) (hsettled : socket'.settled = socket.settled)
    (hopened : ∀ t, socket.openedAt = some t → socket'.openedAt = some t) :
    Chained opts link (w.setSocket k socket') := by
  -- every socket is one that was there, or the changed one
  have hold : ∀ k' s', (w.setSocket k socket').sockets k' = some s' →
      ∃ s, w.sockets k' = some s ∧ s'.gen = s.gen ∧ s'.ticket = s.ticket ∧
        s'.settled = s.settled := by
    intro k' s' hk'
    rcases update_some_eq_some.1 hk' with ⟨rfl, rfl⟩ | ⟨-, hk'⟩
    · exact ⟨socket, hk, hgen, hticket, hsettled⟩
    · exact ⟨s', hk', rfl, rfl, rfl⟩
  have hhas : ∀ l, (w.setSocket k socket').Has l ↔ w.Has l := by
    intro l
    cases l with
    | ticket i => exact Iff.rfl
    | timer i => exact Iff.rfl
    | socket k' =>
      constructor
      · rintro ⟨s', hk', hnow, hopen⟩
        obtain ⟨s, hs, hgen', -, hsettled'⟩ := hold k' s' hk'
        exact ⟨s, hs, hgen' ▸ hnow, hsettled' ▸ hopen⟩
      · rintro ⟨s, hs, hnow, hopen⟩
        by_cases hne : k' = k
        · subst hne
          cases hk.symm.trans hs
          exact ⟨socket', update_self .., hgen.trans hnow, hsettled.trans hopen⟩
        · exact ⟨s, (update_of_ne hne ..).trans hs, hnow, hopen⟩
  refine ⟨fun l => (hhas l).trans (h.link l), h.timer,
    fun k' => (h.ws k').trans (hhas (.socket k')).symm, fun j timer hj => ?_, h.ticket_gen,
    fun k' s' hk' => ?_, fun j hj => ?_, fun k' s' hk' => ?_,
    fun k₁ k₂ s₁ s₂ h₁ h₂ heq => ?_⟩
  · obtain ⟨hhandle, hws, hnow, s, t, hs, ht, hdue⟩ := h.stable j timer hj
    refine ⟨hhandle, hws, hnow, ?_⟩
    by_cases hne : timer.socket = k
    · rw [hne] at hs ⊢
      cases hk.symm.trans hs
      exact ⟨socket', t, update_self .., hopened t ht, hdue⟩
    · exact ⟨s, t, (update_of_ne hne ..).trans hs, ht, hdue⟩
  · obtain ⟨s, hs, hgen', -, -⟩ := hold k' s' hk'
    exact hgen' ▸ h.socket_gen k' s hs
  · obtain ⟨htickets, htimers, hstables, hsockets⟩ := h.fresh j hj
    refine ⟨htickets, htimers, hstables, update_eq_none hsockets ?_⟩
    rintro rfl
    exact nomatch hsockets.symm.trans hk
  · obtain ⟨s, hs, -, hticket', -⟩ := hold k' s' hk'
    exact hticket' ▸ h.ticket k' s hs
  · obtain ⟨s₁', h₁', -, hticket₁, -⟩ := hold k₁ s₁ h₁
    obtain ⟨s₂', h₂', -, hticket₂, -⟩ := hold k₂ s₂ h₂
    exact h.distinct k₁ k₂ s₁' s₂' h₁' h₂' (hticket₁ ▸ hticket₂ ▸ heq)

lemma closeSocket_sockets {j : ℕ} :
    (w.closeSocket k).sockets j = (w.sockets j).map fun socket =>
      if j = k then { socket with closing := true } else socket := by
  by_cases hne : j = k
  · subst hne
    simp only [World.closeSocket, update_self, if_true]
  · simp only [World.closeSocket, update_of_ne hne, hne, if_false, map_id']

lemma stop_sockets {j : ℕ} :
    w.stop.sockets j = (w.sockets j).map fun socket =>
      if w.self.ws = some j then { socket with closing := true } else socket := by
  cases hws : w.self.ws with
  | none => simp [World.stop, World.clearTimer, World.clearStable, hws]
  | some k =>
    have hclose := closeSocket_sockets (w := w) (k := k) (j := j)
    simp only [World.stop, World.clearTimer, World.clearStable, hws]
    refine hclose.trans ?_
    simp only [some.injEq, eq_comm]

lemma Chained.closeSocket (h : Chained opts link w) : Chained opts link (w.closeSocket k) := by
  cases hk : w.sockets k with
  | none =>
    have hsame : w.closeSocket k = w := by
      unfold World.closeSocket
      rw [hk, map_none, update_eq_self_iff.2 hk.symm]
    rw [hsame]
    exact h
  | some socket =>
    have hset : w.closeSocket k = w.setSocket k { socket with closing := true } := by
      unfold World.closeSocket World.setSocket
      rw [hk]
      rfl
    rw [hset]
    exact h.setSocket hk rfl rfl rfl fun _ ht => ht

lemma Chained.release (h : Chained opts link w) (hk : w.sockets k = some socket)
    (hopen : socket.settled = false) :
    Chained opts (if socket.gen = w.self.generation then none else link)
      ((w.setSocket k { socket with settled := true }).release k) := by
  have hrelease : (w.setSocket k { socket with settled := true }).release k =
      { w with
        sockets := update w.sockets k (some { socket with settled := true })
        stables := w.clearStable.stables
        self := { w.self with
          stableTimer := none, ws := if w.self.ws = some k then none else w.self.ws } } := by
    by_cases hws : w.self.ws = some k
    · simp only [World.release, World.setSocket, World.clearStable, hws, if_true]
    · simp only [World.release, World.setSocket, World.clearStable, hws, if_false]
  rw [hrelease]
  have hhas : w.Has (.socket k) ↔ socket.gen = w.self.generation := by
    simp [World.Has, hk, hopen]
  have hlose : ∀ l, World.Has { w with
      sockets := update w.sockets k (some { socket with settled := true })
      stables := w.clearStable.stables
      self := { w.self with
        stableTimer := none, ws := if w.self.ws = some k then none else w.self.ws } } l ↔
      l ≠ .socket k ∧ w.Has l := by
    intro l
    cases l with
    | ticket i => exact (and_iff_right nofun).symm
    | timer i => exact (and_iff_right nofun).symm
    | socket k' =>
      rw [Ne, Link.socket.injEq]
      constructor
      · rintro ⟨socket', hk', hnow, hopen'⟩
        rcases update_some_eq_some.1 hk' with ⟨-, rfl⟩ | ⟨hne, hk'⟩
        · cases hopen'
        · exact ⟨hne, socket', hk', hnow, hopen'⟩
      · rintro ⟨hne, socket', hk', hnow, hopen'⟩
        exact ⟨socket', (update_of_ne hne ..).trans hk', hnow, hopen'⟩
  refine ⟨fun l => ?_, h.timer, fun k' => ?_, fun j timer hj => ?_, h.ticket_gen,
    fun k' socket' hk' => ?_, fun j hj => ?_, fun k' socket' hk' => ?_,
    fun k₁ k₂ s₁ s₂ h₁ h₂ heq => ?_⟩
  · have : Decidable (w.Has (.socket k)) := decidable_of_iff' _ hhas
    rw [link_of_lose h.link hlose l]
    simp only [hhas]
  · rw [hlose, ← h.ws, Ne, Link.socket.injEq]
    dsimp only
    split
    · next hws =>
      rw [hws]
      exact iff_of_false nofun fun ⟨hne, heq⟩ => hne (some.inj heq).symm
    · next hws =>
      refine ⟨fun heq => ⟨?_, heq⟩, And.right⟩
      rintro rfl
      exact hws heq
  · exact nomatch (clearStable_stables h j).symm.trans hj
  · rcases update_some_eq_some.1 hk' with ⟨-, rfl⟩ | ⟨-, hk'⟩
    · exact h.socket_gen k socket hk
    · exact h.socket_gen k' socket' hk'
  · obtain ⟨htickets, htimers, -, hsockets⟩ := h.fresh j hj
    refine ⟨htickets, htimers, clearStable_stables h j, update_eq_none hsockets ?_⟩
    rintro rfl
    exact nomatch hsockets.symm.trans hk
  · rcases update_some_eq_some.1 hk' with ⟨-, rfl⟩ | ⟨-, hk'⟩
    · exact h.ticket k socket hk
    · exact h.ticket k' socket' hk'
  · rcases update_some_eq_some.1 h₁ with ⟨rfl, rfl⟩ | ⟨-, hold₁⟩ <;>
      rcases update_some_eq_some.1 h₂ with ⟨rfl, rfl⟩ | ⟨-, hold₂⟩
    · rfl
    · exact h.distinct _ k₂ socket s₂ hk hold₂ heq
    · exact h.distinct k₁ _ s₁ socket hold₁ hk heq
    · exact h.distinct k₁ k₂ s₁ s₂ hold₁ hold₂ heq

lemma Chained.next_generation {self : Self} {timers : ℕ → Option Timer}
    {stables : ℕ → Option StableTimer} (h : Chained opts link w)
    (hgen : self.generation = w.self.generation + 1) (hws : self.ws = none)
    (htimers : ∀ i, timers i = none) (hstables : ∀ j, stables j = none) :
    Chained opts none { w with self, timers, stables } := by
  have hnone : ∀ l, ¬ World.Has { w with self, timers, stables } l := by
    intro l hl
    cases l with
    | ticket i =>
      have hle := h.ticket_gen i _ hl
      dsimp only at hle
      omega
    | timer i =>
      obtain ⟨timer, hi⟩ := isSome_iff_exists.1 hl
      exact nomatch (htimers i).symm.trans hi
    | socket k =>
      obtain ⟨socket, hk, hnow, -⟩ := hl
      have hle := h.socket_gen k socket hk
      dsimp only at hnow
      omega
  refine ⟨fun l => iff_of_false (hnone l) nofun, fun i timer hi => ?_, fun k => ?_,
    fun j timer hj => ?_, fun i gen hi => ?_, fun k socket hk => ?_, fun i hi => ?_, h.ticket,
    h.distinct⟩
  · exact nomatch (htimers i).symm.trans hi
  · exact iff_of_false (fun hk => nomatch hws.symm.trans hk) (hnone _)
  · exact nomatch (hstables j).symm.trans hj
  · have hle := h.ticket_gen i gen hi
    dsimp only
    omega
  · have hle := h.socket_gen k socket hk
    dsimp only
    omega
  · obtain ⟨htickets, -, -, hsockets⟩ := h.fresh i hi
    exact ⟨htickets, htimers i, hstables i, hsockets⟩

lemma Chained.stop (h : Chained opts link w) : Chained opts none w.stop := by
  cases hws : w.self.ws with
  | none =>
    have hstop : w.stop = { w with
        timers := w.clearTimer.timers
        stables := w.clearStable.stables
        self := ⟨none, none, none, w.self.attempts, true, w.self.generation + 1⟩ } := by
      simp only [World.stop, World.clearTimer, World.clearStable, hws]
    rw [hstop]
    exact h.next_generation rfl rfl (clearTimer_timers h) (clearStable_stables h)
  | some k =>
    have hstop : w.stop = { w.closeSocket k with
        timers := w.clearTimer.timers
        stables := w.clearStable.stables
        self := ⟨none, none, none, w.self.attempts, true, w.self.generation + 1⟩ } := by
      simp only [World.stop, World.clearTimer, World.clearStable, World.closeSocket, hws]
    rw [hstop]
    exact h.closeSocket.next_generation rfl rfl (clearTimer_timers h) (clearStable_stables h)

lemma Chained.onopen (h : Chained opts link w) (hk : w.sockets k = some socket)
    (hopen : socket.settled = false) (ht : socket.openedAt = none) :
    Chained opts link ((w.setSocket k { socket with openedAt := some w.now }).onopen opts k
      { socket with openedAt := some w.now }) := by
  have hset : Chained opts link (w.setSocket k { socket with openedAt := some w.now }) :=
    h.setSocket hk rfl rfl rfl fun t heq => nomatch ht.symm.trans heq
  unfold World.onopen
  split
  · exact hset
  · next hnow =>
    have hclear := hset.clearStable
    refine ⟨hclear.link, hclear.timer, hclear.ws, fun j timer hj => ?_, hclear.ticket_gen,
      hclear.socket_gen, fun j hj => ?_, fun k' socket' hk' => ?_, hclear.distinct⟩
    · rcases update_some_eq_some.1 hj with ⟨rfl, rfl⟩ | ⟨-, hj⟩
      · refine ⟨rfl, ?_, not_not.1 hnow, _, w.now, update_self .., rfl, rfl⟩
        exact (h.ws k).2 ⟨socket, hk, not_not.1 hnow, hopen⟩
      · exact nomatch (clearStable_stables hset j).symm.trans hj
    · obtain ⟨htickets, htimers, hstables, hsockets⟩ := hclear.fresh j (le_of_succ_le hj)
      exact ⟨htickets, htimers, update_eq_none hstables (ne_of_gt hj), hsockets⟩
    · obtain ⟨hlt, hnot⟩ := hclear.ticket k' socket' hk'
      exact ⟨lt_succ_of_lt hlt, hnot⟩

lemma Chained.take_stable (h : Chained opts link w) (hi : w.stables i = some timer) :
    Chained opts link { w with stables := update w.stables i none } := by
  refine ⟨h.link, h.timer, h.ws, fun j timer hj => ?_, h.ticket_gen, h.socket_gen,
    fun j hj => ?_, h.ticket, h.distinct⟩
  · exact h.stable j timer (update_none_eq_some.1 hj).2
  · obtain ⟨htickets, htimers, hstables, hsockets⟩ := h.fresh j hj
    refine ⟨htickets, htimers, update_eq_none hstables ?_, hsockets⟩
    rintro rfl
    exact nomatch hstables.symm.trans hi

lemma Chained.forgive (h : Chained opts link w) : Chained opts link (w.forgive timer) := by
  unfold World.forgive
  split
  · next hnow =>
    obtain ⟨socket, hk, -⟩ := (h.ws timer.socket).1 hnow.1
    have hset : Chained opts link (w.setSocket timer.socket { socket with forgiven := true }) :=
      h.setSocket hk rfl rfl rfl fun _ ht => ht
    rw [hk]
    exact ⟨hset.link, hset.timer, hset.ws, hset.stable, hset.ticket_gen, hset.socket_gen,
      hset.fresh, hset.ticket, hset.distinct⟩
  · exact h

/-! ### The moves -/

lemma Chained.quiet (h : Chained opts link w) : Chained opts link { w with out := [] } :=
  ⟨h.link, h.timer, h.ws, h.stable, h.ticket_gen, h.socket_gen, h.fresh, h.ticket, h.distinct⟩

lemma Chained.report {report : Report} (h : Chained opts link w) :
    Chained opts link (w.report report) :=
  ⟨h.link, h.timer, h.ws, h.stable, h.ticket_gen, h.socket_gen, h.fresh, h.ticket, h.distinct⟩

lemma connect_self : (w.connect gen).self = w.self := by
  unfold World.connect
  split
  · rfl
  · rfl

lemma Inv.start (h : Inv opts w) : Inv opts w.start := by
  obtain ⟨link, hchain, hstopped⟩ := h
  unfold World.start
  split
  · exact ⟨link, hchain, hstopped⟩
  · next hstop =>
    obtain rfl : link = none := hstopped.2 (not_not.1 hstop)
    obtain ⟨hws, htimers, hstables⟩ := hchain.idle
    have hnext : Chained opts none { w with self := { w.self with
        stopped := false, attempts := 0, generation := w.self.generation + 1 } } :=
      hchain.next_generation rfl hws htimers hstables
    refine ⟨_, hnext.connect rfl, ?_⟩
    rw [connect_self]
    simp

lemma Inv.connected {result : TicketResult} (h : Inv opts w) (hi : w.tickets i = some gen) :
    Inv opts ({ w with tickets := update w.tickets i none }.connected opts i gen result) := by
  obtain ⟨link, hchain, hstopped⟩ := h
  have htake := hchain.take_ticket hi
  by_cases hnow : gen = w.self.generation
  · rw [if_pos hnow] at htake
    have hhas : w.Has (.ticket i) := hi.trans (congrArg some hnow)
    have hrun : w.self.stopped = false := by
      rw [← Bool.not_eq_true, ← hstopped, (hchain.link _).1 hhas]
      exact nofun
    cases result with
    | granted =>
      have hlt : i < w.next := by
        by_contra hge
        exact nomatch (hchain.fresh i (Nat.le_of_not_lt hge)).1.symm.trans hi
      have hnew : ∀ k socket, w.sockets k = some socket → socket.ticket ≠ i := by
        rintro k socket hk rfl
        exact nomatch (hchain.ticket k socket hk).2.symm.trans hi
      refine ⟨_, hnow ▸ htake.granted hlt (update_self ..) hnew hrun, ?_⟩
      unfold World.connected
      dsimp only
      rw [if_neg (by simp [hrun, hnow])]
      simp [hrun]
    | refused random =>
      unfold World.connected
      dsimp only
      rw [if_neg (by simp [hnow])]
      refine ⟨_, hnow ▸ htake.report.scheduleReconnect, ?_⟩
      simp [World.scheduleReconnect, World.report, hrun]
    | authError =>
      unfold World.connected
      dsimp only
      rw [if_neg (by simp [hnow])]
      obtain ⟨hws, htimers, hstables⟩ := htake.idle
      have hnext : Chained opts none { w with
          tickets := update w.tickets i none
          self := { w.self with stopped := true, generation := w.self.generation + 1 } } :=
        htake.next_generation rfl hws htimers hstables
      exact ⟨none, hnext.report.report, by simp [World.report]⟩
  · -- the ticket of an earlier generation
    rw [if_neg hnow] at htake
    have hstale : World.connected opts { w with tickets := update w.tickets i none } i gen
        result = { w with tickets := update w.tickets i none } := by
      cases result <;> simp [World.connected, hnow]
    rw [hstale]
    exact ⟨link, htake, hstopped⟩

lemma release_self : (w.release k).self.generation = w.self.generation ∧
    (w.release k).self.stopped = w.self.stopped := by
  unfold World.release
  dsimp only
  split
  · exact ⟨rfl, rfl⟩
  · exact ⟨rfl, rfl⟩

lemma Chained.retry {attempts : ℕ} (h : Chained opts link w) :
    Chained opts link { w with self := { w.self with attempts } } :=
  ⟨h.link, h.timer, h.ws, h.stable, h.ticket_gen, h.socket_gen, h.fresh, h.ticket, h.distinct⟩

lemma Inv.onclose (h : Inv opts w) (hk : w.sockets k = some socket)
    (hopen : socket.settled = false) :
    Inv opts ((w.setSocket k { socket with settled := true }).onclose opts random k
      { socket with settled := true } code) := by
  obtain ⟨link, hchain, hstopped⟩ := h
  have hrelease := hchain.release hk hopen
  obtain ⟨hgen, hstop⟩ :
      ((w.setSocket k { socket with settled := true }).release k).self.generation =
        w.self.generation ∧
      ((w.setSocket k { socket with settled := true }).release k).self.stopped =
        w.self.stopped := release_self
  unfold World.onclose
  dsimp only
  by_cases hnow : socket.gen = w.self.generation
  · rw [if_pos hnow] at hrelease
    have hrun : w.self.stopped = false := by
      have hhas : w.Has (.socket k) := ⟨socket, hk, hnow, hopen⟩
      rw [← Bool.not_eq_true, ← hstopped, (hchain.link _).1 hhas]
      exact nofun
    rw [if_neg (not_not.2 (hnow.trans hgen.symm))]
    have hlink : ∀ w' : World, Chained opts none w' → w'.self.generation = w.self.generation →
        w'.self.stopped = w.self.stopped →
          Inv opts (if w'.self.stopped then w'
            else w'.scheduleReconnect opts random socket.gen) := by
      intro w' hchain' hgen' hstop'
      rw [if_neg (by simp [hstop', hrun]), hnow, ← hgen']
      refine ⟨_, hchain'.scheduleReconnect, ?_⟩
      simp [World.scheduleReconnect, hstop', hrun]
    refine hlink _ ?_ ?_ ?_
    · split
      · exact hrelease.report.retry
      · exact hrelease.report
    · split
      · exact hgen
      · exact hgen
    · split
      · exact hstop
      · exact hstop
  · rw [if_neg hnow] at hrelease
    rw [if_pos fun heq => hnow (heq.trans hgen)]
    exact ⟨link, hrelease, hstopped.trans (by rw [hstop])⟩

/-- **The chain is kept**, whatever comes next. -/
lemma inv_step (h : Inv opts w) (hstep : step opts w move = some w') : Inv opts w' := by
  have hquiet : Inv opts { w with out := [] } := by
    obtain ⟨link, hchain, hstopped⟩ := h
    exact ⟨link, hchain.quiet, hstopped⟩
  cases move with
  | start => exact some.inj hstep ▸ hquiet.start
  | stop =>
    obtain ⟨link, hchain, -⟩ := hquiet
    refine some.inj hstep ▸ ⟨none, hchain.stop, ?_⟩
    simp only [World.stop]
    split <;> simp [World.clearStable, World.clearTimer, World.closeSocket]
  | wait ms =>
    obtain ⟨link, hchain, hstopped⟩ := h
    refine some.inj hstep ▸ ⟨link, ⟨hchain.link, hchain.timer, hchain.ws, hchain.stable,
      hchain.ticket_gen, hchain.socket_gen, hchain.fresh, hchain.ticket, hchain.distinct⟩, hstopped⟩
  | ticket i result =>
    obtain ⟨gen, hi, hw'⟩ := bind_eq_some_iff.1 hstep
    exact some.inj hw' ▸ hquiet.connected hi
  | timer i =>
    obtain ⟨timer, hi, hw'⟩ := bind_eq_some_iff.1 hstep
    obtain ⟨link, hchain, hstopped⟩ := hquiet
    obtain ⟨rfl, htake⟩ := hchain.take_timer hi
    have hrun : w.self.stopped = false := by
      rw [← Bool.not_eq_true, ← hstopped]
      exact nofun
    have hgen : timer.gen = w.self.generation := (hchain.timer i timer hi).2
    refine some.inj hw' ▸ ⟨_, hgen ▸ htake.connect hrun, ?_⟩
    rw [connect_self]
    simp [hrun]
  | stable i =>
    obtain ⟨timer, hi, hw'⟩ := bind_eq_some_iff.1 hstep
    split at hw'
    · obtain ⟨link, hchain, hstopped⟩ := hquiet
      refine some.inj hw' ▸ ⟨link, (hchain.take_stable hi).forgive, ?_⟩
      unfold World.forgive
      split
      · exact hstopped
      · exact hstopped
    · cases hw'
  | onopen k =>
    obtain ⟨socket, hk, hw'⟩ := bind_eq_some_iff.1 hstep
    dsimp only at hw'
    split at hw'
    · next hopen =>
      obtain ⟨link, hchain, hstopped⟩ := hquiet
      refine some.inj hw' ▸ ⟨link, hchain.onopen hk (by simpa using hopen.2) hopen.1, ?_⟩
      unfold World.onopen
      split
      · exact hstopped
      · exact hstopped
    · cases hw'
  | onmessage k data =>
    obtain ⟨socket, hk, hw'⟩ := bind_eq_some_iff.1 hstep
    split at hw'
    · cases hw'
    · obtain ⟨link, hchain, hstopped⟩ := hquiet
      refine some.inj hw' ▸ ⟨link, ?_, ?_⟩
      · unfold World.onmessage
        split
        · exact hchain
        · exact hchain.report
      · unfold World.onmessage
        split
        · exact hstopped
        · exact hstopped
  | onerror k =>
    obtain ⟨socket, hk, hw'⟩ := bind_eq_some_iff.1 hstep
    split at hw'
    · cases hw'
    · obtain ⟨link, hchain, hstopped⟩ := hquiet
      exact some.inj hw' ▸ ⟨link, hchain.closeSocket, hstopped⟩
  | onclose k code random =>
    obtain ⟨socket, hk, hw'⟩ := bind_eq_some_iff.1 hstep
    dsimp only at hw'
    split at hw'
    · exact some.inj hw' ▸ hquiet
    · next hopen =>
      exact some.inj hw' ▸ hquiet.onclose hk (by simpa using hopen)

/-! ## What a move does -/

lemma onopen_of_ne (h : socket.gen ≠ w.self.generation) : w.onopen opts k socket = w := if_pos h

lemma onmessage_of_ne {data : Option String} (h : socket.gen ≠ w.self.generation) :
    w.onmessage socket data = w :=
  if_pos h

lemma onclose_of_ne (h : socket.gen ≠ w.self.generation) :
    w.onclose opts random k socket code = w.release k := by
  unfold World.onclose
  exact if_pos fun heq => h (heq.trans release_self.1)

lemma release_frame : (w.release k).out = w.out ∧ (w.release k).sockets = w.sockets ∧
    (w.release k).stables = w.clearStable.stables ∧
    (w.release k).self.attempts = w.self.attempts := by
  unfold World.release
  dsimp only
  split
  · exact ⟨rfl, rfl, rfl, rfl⟩
  · exact ⟨rfl, rfl, rfl, rfl⟩

lemma stop_frame : w.stop.out = w.out ∧ w.stop.self.attempts = w.self.attempts ∧
    w.stop.self.generation = w.self.generation + 1 := by
  cases hws : w.self.ws with
  | none => simp [World.stop, World.clearTimer, World.clearStable, hws]
  | some k => simp [World.stop, World.clearTimer, World.clearStable, World.closeSocket, hws]

lemma out_step {report : Report} (hstep : step opts w move = some w') (hmem : report ∈ w'.out) :
    report = .status .connecting ∨ report = .status .closed ∨ report = .authError ∨
      (∃ k data, move = .onmessage k data ∧ w.Has (.socket k) ∧ report = .message (data.getD "")) ∨
      ∃ k, move = .onopen k ∧ w.Has (.socket k) ∧ report = .status .open := by
  cases move with
  | start =>
    cases hstep
    grind [World.start, World.connect, World.report]
  | stop =>
    cases hstep
    rw [stop_frame.1] at hmem
    cases hmem
  | wait ms =>
    cases hstep
    cases hmem
  | ticket i result =>
    obtain ⟨gen, -, hw'⟩ := bind_eq_some_iff.1 hstep
    cases hw'
    cases result <;> grind [World.connected, World.report, World.scheduleReconnect]
  | timer i =>
    obtain ⟨timer, -, hw'⟩ := bind_eq_some_iff.1 hstep
    cases hw'
    grind [World.connect, World.report]
  | stable i =>
    obtain ⟨timer, -, hw'⟩ := bind_eq_some_iff.1 hstep
    grind [World.forgive]
  | onopen k =>
    obtain ⟨socket, hk, hw'⟩ := bind_eq_some_iff.1 hstep
    grind [World.onopen, World.report, World.setSocket, World.clearStable, World.Has]
  | onmessage k data =>
    obtain ⟨socket, hk, hw'⟩ := bind_eq_some_iff.1 hstep
    grind [World.onmessage, World.report, World.Has]
  | onerror k =>
    obtain ⟨socket, hk, hw'⟩ := bind_eq_some_iff.1 hstep
    grind [World.closeSocket]
  | onclose k code random =>
    obtain ⟨socket, hk, hw'⟩ := bind_eq_some_iff.1 hstep
    have hframe : ∀ w : World, (w.release k).out = w.out := fun _ => release_frame.1
    grind [World.onclose, World.report, World.setSocket, World.scheduleReconnect]

lemma stopped_step (h : Inv opts w) (hstep : step opts w move = some w')
    (hstop : w.self.stopped = true) (hmove : move ≠ .start) :
    w'.out = [] ∧ ∀ k, w.sockets k = none → w'.sockets k = none := by
  obtain ⟨link, hchain, hstopped⟩ := h
  obtain rfl := hstopped.2 hstop
  have hnone : ∀ l, ¬ w.Has l := fun l hl => nomatch (hchain.link l).1 hl
  have hgen : ∀ k socket, w.sockets k = some socket → ¬ socket.settled = true →
      socket.gen ≠ w.self.generation := by
    intro k socket hk hopen heq
    exact hnone (.socket k) ⟨socket, hk, heq, by simpa using hopen⟩
  have hupdate : ∀ k socket socket', w.sockets k = some socket → ∀ k', w.sockets k' = none →
      update w.sockets k socket' k' = none := by
    intro k socket socket' hk k' hk'
    refine update_eq_none hk' ?_
    rintro rfl
    exact nomatch hk'.symm.trans hk
  obtain ⟨-, htimers, hstables⟩ := hchain.idle
  cases move with
  | start => exact absurd rfl hmove
  | stop =>
    cases hstep
    refine ⟨stop_frame.1, fun k hk => ?_⟩
    rw [stop_sockets]
    exact (congrArg _ hk).trans rfl
  | wait ms =>
    cases hstep
    exact ⟨rfl, fun k hk => hk⟩
  | ticket i result =>
    obtain ⟨gen, hi, hw'⟩ := bind_eq_some_iff.1 hstep
    cases hw'
    have hne : gen ≠ w.self.generation := fun heq =>
      hnone (.ticket i) (hi.trans (congrArg some heq))
    cases result <;> simp [World.connected, hne]
  | timer i =>
    obtain ⟨timer, hi, -⟩ := bind_eq_some_iff.1 hstep
    exact nomatch (htimers i).symm.trans hi
  | stable i =>
    obtain ⟨timer, hi, -⟩ := bind_eq_some_iff.1 hstep
    exact nomatch (hstables i).symm.trans hi
  | onopen k =>
    obtain ⟨socket, hk, hw'⟩ := bind_eq_some_iff.1 hstep
    dsimp only at hw'
    split at hw'
    · next hopen =>
      rw [onopen_of_ne] at hw'
      · exact some.inj hw' ▸ ⟨rfl, hupdate k socket _ hk⟩
      · exact hgen k socket hk hopen.2
    · cases hw'
  | onmessage k data =>
    obtain ⟨socket, hk, hw'⟩ := bind_eq_some_iff.1 hstep
    split at hw'
    · cases hw'
    · next hopen =>
      rw [onmessage_of_ne] at hw'
      · exact some.inj hw' ▸ ⟨rfl, fun _ hk' => hk'⟩
      · exact hgen k socket hk hopen
  | onerror k =>
    obtain ⟨socket, hk, hw'⟩ := bind_eq_some_iff.1 hstep
    split at hw'
    · cases hw'
    · exact some.inj hw' ▸ ⟨rfl, hupdate k socket _ hk⟩
  | onclose k code random =>
    obtain ⟨socket, hk, hw'⟩ := bind_eq_some_iff.1 hstep
    dsimp only at hw'
    split at hw'
    · exact some.inj hw' ▸ ⟨rfl, fun _ hk' => hk'⟩
    · next hopen =>
      rw [onclose_of_ne] at hw'
      · cases hw'
        refine ⟨release_frame.1, fun k' hk' => ?_⟩
        rw [release_frame.2.1]
        exact hupdate k socket _ hk k' hk'
      · exact hgen k socket hk hopen

lemma attempts_step (hstep : step opts w move = some w') (hstart : move ≠ .start)
    (hmove : ∀ j, move ≠ .stable j) : w.self.attempts ≤ w'.self.attempts := by
  cases move with
  | start => exact absurd rfl hstart
  | stop =>
    cases hstep
    rw [stop_frame.2.1]
  | wait ms =>
    cases hstep
    exact le_refl _
  | ticket i result =>
    obtain ⟨gen, -, hw'⟩ := bind_eq_some_iff.1 hstep
    cases result <;> grind [World.connected, World.report, World.scheduleReconnect]
  | timer i =>
    obtain ⟨timer, -, hw'⟩ := bind_eq_some_iff.1 hstep
    cases hw'
    rw [connect_self]
  | stable i => exact absurd rfl (hmove i)
  | onopen k =>
    obtain ⟨socket, -, hw'⟩ := bind_eq_some_iff.1 hstep
    grind [World.onopen, World.report, World.setSocket, World.clearStable]
  | onmessage k data =>
    obtain ⟨socket, -, hw'⟩ := bind_eq_some_iff.1 hstep
    grind [World.onmessage, World.report]
  | onerror k =>
    obtain ⟨socket, -, hw'⟩ := bind_eq_some_iff.1 hstep
    grind [World.closeSocket]
  | onclose k code random =>
    obtain ⟨socket, -, hw'⟩ := bind_eq_some_iff.1 hstep
    have hframe : ∀ w : World, (w.release k).self.attempts = w.self.attempts :=
      fun _ => release_frame.2.2.2
    grind [World.onclose, World.report, World.setSocket, World.scheduleReconnect]

lemma connect_sockets : (w.connect gen).sockets = w.sockets := by
  unfold World.connect
  split
  · rfl
  · rfl

lemma onopen_sockets : (w.onopen opts k socket).sockets = w.sockets := by
  unfold World.onopen
  split
  · rfl
  · rfl

lemma onclose_sockets : (w.onclose opts random k socket code).sockets = w.sockets := by
  have hrelease := (release_frame (w := w) (k := k)).2.1
  unfold World.onclose
  dsimp only
  split
  · exact hrelease
  · split
    · split
      · exact hrelease
      · exact hrelease
    · split
      · exact hrelease
      · exact hrelease

lemma forgiven_step (hstep : step opts w move = some w') (hmove : ∀ j, move ≠ .stable j)
    (hforgiven : w'.Forgiven k) : w.Forgiven k := by
  obtain ⟨socket', hk', hforgiven⟩ := hforgiven
  have hset : ∀ j old new, w.sockets j = some old → new.forgiven = old.forgiven →
      update w.sockets j (some new) k = some socket' → w.Forgiven k := by
    intro j old new hj heq hupdate
    rcases update_some_eq_some.1 hupdate with ⟨rfl, rfl⟩ | ⟨-, hk⟩
    · exact ⟨old, hj, heq.symm.trans hforgiven⟩
    · exact ⟨socket', hk, hforgiven⟩
  cases move with
  | start =>
    cases hstep
    unfold World.start at hk'
    split at hk'
    · exact ⟨socket', hk', hforgiven⟩
    · rw [connect_sockets] at hk'
      exact ⟨socket', hk', hforgiven⟩
  | stop =>
    cases hstep
    rw [stop_sockets] at hk'
    obtain ⟨socket, hk, rfl⟩ := map_eq_some_iff.1 hk'
    refine ⟨socket, hk, ?_⟩
    split at hforgiven
    · exact hforgiven
    · exact hforgiven
  | wait ms =>
    cases hstep
    exact ⟨socket', hk', hforgiven⟩
  | ticket i result =>
    obtain ⟨gen, -, hw'⟩ := bind_eq_some_iff.1 hstep
    cases hw'
    cases result with
    | granted =>
      unfold World.connected at hk'
      dsimp only at hk'
      split at hk'
      · exact ⟨socket', hk', hforgiven⟩
      · rcases update_some_eq_some.1 hk' with ⟨-, rfl⟩ | ⟨-, hk⟩
        · cases hforgiven
        · exact ⟨socket', hk, hforgiven⟩
    | refused random =>
      unfold World.connected at hk'
      dsimp only at hk'
      split at hk'
      · exact ⟨socket', hk', hforgiven⟩
      · exact ⟨socket', hk', hforgiven⟩
    | authError =>
      unfold World.connected at hk'
      dsimp only at hk'
      split at hk'
      · exact ⟨socket', hk', hforgiven⟩
      · exact ⟨socket', hk', hforgiven⟩
  | timer i =>
    obtain ⟨timer, -, hw'⟩ := bind_eq_some_iff.1 hstep
    cases hw'
    rw [connect_sockets] at hk'
    exact ⟨socket', hk', hforgiven⟩
  | stable i => exact absurd rfl (hmove i)
  | onopen j =>
    obtain ⟨socket, hj, hw'⟩ := bind_eq_some_iff.1 hstep
    dsimp only at hw'
    split at hw'
    · cases hw'
      rw [onopen_sockets] at hk'
      exact hset j socket { socket with openedAt := some w.now } hj rfl hk'
    · cases hw'
  | onmessage j data =>
    obtain ⟨socket, -, hw'⟩ := bind_eq_some_iff.1 hstep
    split at hw'
    · cases hw'
    · cases hw'
      unfold World.onmessage at hk'
      split at hk'
      · exact ⟨socket', hk', hforgiven⟩
      · exact ⟨socket', hk', hforgiven⟩
  | onerror j =>
    obtain ⟨socket, -, hw'⟩ := bind_eq_some_iff.1 hstep
    split at hw'
    · cases hw'
    · cases hw'
      rw [closeSocket_sockets] at hk'
      obtain ⟨old, hk, rfl⟩ := map_eq_some_iff.1 hk'
      refine ⟨old, hk, ?_⟩
      split at hforgiven
      · exact hforgiven
      · exact hforgiven
  | onclose j code random =>
    obtain ⟨socket, hj, hw'⟩ := bind_eq_some_iff.1 hstep
    dsimp only at hw'
    split at hw'
    · cases hw'
      exact ⟨socket', hk', hforgiven⟩
    · cases hw'
      rw [onclose_sockets] at hk'
      exact hset j socket { socket with settled := true } hj rfl hk'

lemma stable_step (h : Inv opts w) (hi : w.stables i = some timer)
    (hstep : step opts w (.stable i) = some w') :
    w.Lasted opts timer.socket ∧ w'.Forgiven timer.socket ∧ w'.self.attempts = 0 := by
  obtain ⟨link, hchain, -⟩ := h
  obtain ⟨-, hws, hgen, socket, t, hk, ht, hdue⟩ := hchain.stable i timer hi
  obtain ⟨socket', hk', hnow, hopen⟩ := (hchain.ws timer.socket).1 hws
  cases hk.symm.trans hk'
  obtain ⟨timer', hi', hw'⟩ := bind_eq_some_iff.1 hstep
  cases hi.symm.trans hi'
  split at hw'
  · next hle =>
    cases hw'
    refine ⟨⟨socket, t, hk, hnow, hopen, ht, hdue ▸ hle⟩, ?_⟩
    unfold World.forgive
    rw [if_pos ⟨hws, hgen⟩]
    refine ⟨⟨{ socket with forgiven := true }, ?_, rfl⟩, rfl⟩
    refine (update_self ..).trans ?_
    dsimp only
    rw [hk]
    rfl
  · cases hw'

/-- **What a move does**, whatever the socket has been through. -/
lemma moves_step (h : Inv opts w) (hstep : step opts w move = some w') : Moves opts w move w' := by
  refine ⟨fun text hmem => ?_, fun hmem => ?_, stopped_step h hstep, fun hmove hlt => ?_,
    fun k hnot hforgiven => ?_, fun j timer hmove hj _ => ?_⟩
  · rcases out_step hstep hmem with hout | hout | hout | ⟨k, data, hmove, hhas, -⟩ | ⟨_, _, _, hout⟩
    · cases hout
    · cases hout
    · cases hout
    · exact ⟨k, data, hmove, hhas⟩
    · cases hout
  · rcases out_step hstep hmem with hout | hout | hout | ⟨_, _, _, _, hout⟩ | ⟨k, hmove, hhas, -⟩
    · cases hout
    · cases hout
    · cases hout
    · cases hout
    · exact ⟨k, hmove, hhas⟩
  · by_cases hstable : ∃ j, move = .stable j
    · obtain ⟨j, rfl⟩ := hstable
      obtain ⟨timer, hj, -⟩ := bind_eq_some_iff.1 hstep
      obtain ⟨hlasted, hforgiven, -⟩ := stable_step h hj hstep
      exact ⟨timer.socket, hlasted, hforgiven⟩
    · have hle := attempts_step hstep hmove (not_exists.1 hstable)
      omega
  · by_cases hstable : ∃ j, move = .stable j
    · obtain ⟨j, rfl⟩ := hstable
      obtain ⟨timer, hj, -⟩ := bind_eq_some_iff.1 hstep
      exact (stable_step h hj hstep).2.2
    · exact absurd (forgiven_step hstep (not_exists.1 hstable) hforgiven) hnot
  · subst hmove
    exact (stable_step h hj hstep).2.1

/-! ## The stable timer -/

/-- The socket of the chain, once it is open, has been forgiven or has its stable timer pending. -/
def Awaits (opts : Opts) (w : World) : Prop :=
  ∀ k socket t, w.sockets k = some socket → socket.gen = w.self.generation →
    socket.settled = false → socket.openedAt = some t → socket.forgiven = true ∨
      ∃ j timer, w.stables j = some timer ∧ timer.socket = k ∧ timer.due = t + opts.stableAfterMs

lemma Awaits.frame (h : Awaits opts w) (hsockets : w'.sockets = w.sockets)
    (hstables : w'.stables = w.stables) (hgen : w'.self.generation = w.self.generation) :
    Awaits opts w' := by
  intro k socket t hk hnow hopen ht
  rw [hstables]
  exact h k socket t (hsockets ▸ hk) (hnow.trans hgen) hopen ht

lemma awaits_of_lt (h : ∀ k socket, w.sockets k = some socket → socket.gen < w.self.generation) :
    Awaits opts w :=
  fun k socket _ hk hnow _ _ => absurd hnow (Nat.ne_of_lt (h k socket hk))

/-- A socket changes that keeps what a stable timer looks at. -/
lemma Awaits.setSocket {socket' : Socket} (h : Awaits opts w) (hk : w.sockets k = some socket)
    (hsame : socket'.gen = w.self.generation → socket'.settled = false →
      socket.gen = w.self.generation ∧ socket.settled = false ∧
        socket'.openedAt = socket.openedAt ∧ (socket.forgiven = true → socket'.forgiven = true)) :
    Awaits opts (w.setSocket k socket') := by
  intro k' s t hk' hnow hopen ht
  rcases update_some_eq_some.1 hk' with ⟨rfl, rfl⟩ | ⟨-, hk'⟩
  · obtain ⟨hgen, hsettled, hopened, hforgiven⟩ := hsame hnow hopen
    exact (h k' socket t hk hgen hsettled (hopened ▸ ht)).imp hforgiven id
  · exact h k' s t hk' hnow hopen ht

lemma onopen_generation : (w.onopen opts k socket).self.generation = w.self.generation := by
  unfold World.onopen
  split
  · rfl
  · rfl

lemma onopen_stables (h : socket.gen = w.self.generation) :
    (w.onopen opts k socket).stables w.next = some ⟨k, socket.gen, w.now + opts.stableAfterMs⟩ := by
  unfold World.onopen
  rw [if_neg (not_not.2 h)]
  exact update_self ..

lemma connect_stables : (w.connect gen).stables = w.stables := by
  unfold World.connect
  split
  · rfl
  · rfl

lemma Chained.awaits_connected {result : TicketResult} (h : Chained opts link w)
    (hawaits : Awaits opts w) : Awaits opts (w.connected opts i gen result) := by
  cases result with
  | granted =>
    unfold World.connected
    dsimp only
    split
    · exact hawaits
    · intro k socket t hk hnow hopen ht
      rcases update_some_eq_some.1 hk with ⟨-, rfl⟩ | ⟨-, hk⟩
      · cases ht
      · exact hawaits k socket t hk hnow hopen ht
  | refused random =>
    unfold World.connected
    dsimp only
    split
    · exact hawaits
    · exact hawaits.frame rfl rfl rfl
  | authError =>
    unfold World.connected
    dsimp only
    split
    · exact hawaits
    · exact awaits_of_lt fun k socket hk => lt_succ_of_le (h.socket_gen k socket hk)

lemma onclose_frame :
    (w.onclose opts random k socket code).stables = w.clearStable.stables ∧
      (w.onclose opts random k socket code).self.generation = w.self.generation := by
  have hstables := (release_frame (w := w) (k := k)).2.2.1
  have hgen := (release_self (w := w) (k := k)).1
  unfold World.onclose
  dsimp only
  split
  · exact ⟨hstables, hgen⟩
  · split
    · split
      · exact ⟨hstables, hgen⟩
      · exact ⟨hstables, hgen⟩
    · split
      · exact ⟨hstables, hgen⟩
      · exact ⟨hstables, hgen⟩

/-- **A move leaves the stable timer of the chain's socket pending**, unless a socket of an earlier
generation reports its close. -/
lemma awaits_step (h : Inv opts w) (hawaits : Awaits opts w) (hfits : LateCloseMissesTimer w move)
    (hstep : step opts w move = some w') : Awaits opts w' := by
  obtain ⟨link, hchain, hstopped⟩ := h
  have hquiet : Awaits opts { w with out := [] } := hawaits.frame rfl rfl rfl
  cases move with
  | start =>
    cases hstep
    unfold World.start
    split
    · exact hquiet
    · refine awaits_of_lt fun k socket hk => ?_
      rw [connect_sockets] at hk
      rw [connect_self]
      exact lt_succ_of_le (hchain.socket_gen k socket hk)
  | stop =>
    cases hstep
    refine awaits_of_lt fun k socket hk => ?_
    rw [stop_sockets] at hk
    obtain ⟨old, hold, rfl⟩ := map_eq_some_iff.1 hk
    have hle := hchain.socket_gen k old hold
    rw [stop_frame.2.2]
    dsimp only
    split
    · exact lt_succ_of_le hle
    · exact lt_succ_of_le hle
  | wait ms =>
    cases hstep
    exact hawaits.frame rfl rfl rfl
  | ticket i result =>
    obtain ⟨gen, hi, hw'⟩ := bind_eq_some_iff.1 hstep
    cases hw'
    exact (hchain.quiet.take_ticket hi).awaits_connected (hawaits.frame rfl rfl rfl)
  | timer i =>
    obtain ⟨timer, hi, hw'⟩ := bind_eq_some_iff.1 hstep
    cases hw'
    exact hawaits.frame connect_sockets connect_stables (by rw [connect_self])
  | stable i =>
    obtain ⟨timer, hi, hw'⟩ := bind_eq_some_iff.1 hstep
    split at hw'
    · cases hw'
      obtain ⟨-, hws, hgen, -⟩ := hchain.stable i timer hi
      unfold World.forgive
      rw [if_pos ⟨hws, hgen⟩]
      intro k socket t hk hnow hopen ht
      by_cases hne : k = timer.socket
      · subst hne
        dsimp only at hk
        rw [update_self] at hk
        obtain ⟨old, -, rfl⟩ := map_eq_some_iff.1 hk
        exact .inl rfl
      · -- there is no other socket of this generation
        have hk : w.sockets k = some socket := (update_of_ne hne ..).symm.trans hk
        have hws' := (hchain.ws k).2 ⟨socket, hk, hnow, hopen⟩
        exact absurd (some.inj (hws'.symm.trans hws)) hne
    · cases hw'
  | onopen k =>
    obtain ⟨socket, hk, hw'⟩ := bind_eq_some_iff.1 hstep
    dsimp only at hw'
    split at hw'
    · next hopen =>
      cases hw'
      by_cases hnow : socket.gen = w.self.generation
      · -- the timer that is set is that of the only open socket of this generation
        intro k' socket' t hk' hnow' hopen' ht
        rw [onopen_sockets] at hk'
        rw [onopen_generation] at hnow'
        rcases update_some_eq_some.1 hk' with ⟨rfl, rfl⟩ | ⟨hne, hk'⟩
        · refine .inr ⟨w.next, _, onopen_stables hnow, rfl, ?_⟩
          rw [← some.inj ht]
          rfl
        · have hws := (hchain.ws k).2 ⟨socket, hk, hnow, by simpa using hopen.2⟩
          have hws' := (hchain.ws k').2 ⟨socket', hk', hnow', hopen'⟩
          exact absurd (some.inj (hws'.symm.trans hws)) hne
      · rw [onopen_of_ne]
        · exact hquiet.setSocket hk fun heq => absurd heq hnow
        · exact hnow
    · cases hw'
  | onmessage k data =>
    obtain ⟨socket, hk, hw'⟩ := bind_eq_some_iff.1 hstep
    split at hw'
    · cases hw'
    · cases hw'
      unfold World.onmessage
      split
      · exact hquiet
      · exact hawaits.frame rfl rfl rfl
  | onerror k =>
    obtain ⟨socket, hk, hw'⟩ := bind_eq_some_iff.1 hstep
    split at hw'
    · cases hw'
    · cases hw'
      unfold World.closeSocket
      dsimp only
      rw [hk]
      exact hquiet.setSocket hk fun hgen hsettled => ⟨hgen, hsettled, rfl, id⟩
  | onclose k code random =>
    obtain ⟨socket, hk, hw'⟩ := bind_eq_some_iff.1 hstep
    dsimp only at hw'
    split at hw'
    · cases hw'
      exact hquiet
    · next hopen =>
      cases hw'
      intro k' socket' t hk' hnow' hopen' ht
      rw [onclose_sockets] at hk'
      rw [onclose_frame.2] at hnow'
      rcases update_some_eq_some.1 hk' with ⟨-, rfl⟩ | ⟨hne, hk'⟩
      · cases hopen'
      by_cases hnow : socket.gen = w.self.generation
      · have hws := (hchain.ws k).2 ⟨socket, hk, hnow, by simpa using hopen⟩
        have hws' := (hchain.ws k').2 ⟨socket', hk', hnow', hopen'⟩
        exact absurd (some.inj (hws'.symm.trans hws)) hne
      · -- no stable timer was pending
        have hnone := hfits socket hk (by simpa using hopen) hnow
        refine .inl ((hawaits k' socket' t hk' hnow' hopen' ht).resolve_right ?_)
        rintro ⟨j, timer, hj, -, -⟩
        exact nomatch (hnone j (hchain.stable j timer hj).1).symm.trans hj

/-! ## Runs -/

lemma inv_run {moves : List Move} (hrun : run (step opts) .new moves = some w) : Inv opts w := by
  have hfits : RunFits (step opts) (fun _ _ => True) .new moves := .of_forall fun _ _ _ => trivial
  exact run_keeps (Inv opts) (fun _ _ _ h _ => inv_step h) inv_new hfits hrun

/-- **A `LiveSocket` is one chain**, in every run in which no socket of an earlier generation
reports its close while a stable timer is pending. -/
theorem oneChain {moves : List Move}
    (hfits : RunFits (step opts) LateCloseMissesTimer .new moves) :
    OneChain opts moves := by
  have hinv : ∀ before now, before <+: moves →
      run (step opts) .new before = some now → Inv opts now ∧ Awaits opts now := by
    rintro before now ⟨after, rfl⟩ hrun
    refine run_keeps (fun w => Inv opts w ∧ Awaits opts w) ?_
      ⟨inv_new, fun _ _ _ hk => by cases hk⟩ hfits.append.1 hrun
    intro w move w' hw hfit hstep
    exact ⟨inv_step hw.1 hstep, awaits_step hw.1 hw.2 hfit hstep⟩
  refine ⟨fun before w hbefore hrun => ?_, fun before move w w' hbefore hrun hstep => ?_⟩
  · obtain ⟨⟨link, hchain, hstopped⟩, hawaits⟩ := hinv before w hbefore hrun
    refine ⟨fun hrunning => ?_, hchain.distinct, fun k hlasted => ?_⟩
    · cases link with
      | none => cases hrunning.symm.trans (hstopped.1 rfl)
      | some l =>
        refine ⟨l, (hchain.link l).2 rfl, fun l' hl' => ?_⟩
        exact (some.inj ((hchain.link l').1 hl')).symm
    · obtain ⟨socket, t, hk, hnow, hopen, ht, hle⟩ := hlasted
      rcases hawaits k socket t hk hnow hopen ht with hforgiven | ⟨j, timer, hj, hsocket, hdue⟩
      · exact .inl ⟨socket, hk, hforgiven⟩
      · exact .inr ⟨j, timer, hj, hsocket, hdue ▸ hle⟩
  · exact moves_step (hinv before w ((List.prefix_append ..).trans hbefore) hrun).1 hstep

/-- A socket is stopped and started again, and its first connection reports its close before the
second is open. -/
theorem oneChain_restart : OneChain ⟨1000, 30000, 30000⟩ [.start, .ticket 0 .granted, .onopen 1,
    .stop, .start, .ticket 3 .granted, .onclose 1 none 0, .onopen 4, .wait 30000, .stable 5] :=
  oneChain (by decide +kernel)

/-- **A superseded socket cancels the stable timer of its successor.**  Its close is reported when
the next connection is open; that one stays open for longer than `stableAfterMs`, and nothing resets
the counter any more. -/
theorem late_close_cancels : ¬ OneChain ⟨1000, 30000, 30000⟩ [.start, .ticket 0 .granted, .onopen 1,
    .stop, .start, .ticket 3 .granted, .onopen 4, .onclose 1 none 0, .wait 60000] := by
  intro h
  have hrun : ∃ w, run (step ⟨1000, 30000, 30000⟩) .new [.start, .ticket 0 .granted,
      .onopen 1, .stop, .start, .ticket 3 .granted, .onopen 4, .onclose 1 none 0, .wait 60000] =
        some w ∧ w.self.stableTimer = none ∧ w.self.generation = 3 ∧ w.now = 60000 ∧
          w.sockets 4 = some ⟨3, 3, false, some 0, false, false⟩ := by
    refine ⟨_, rfl, ?_⟩
    decide +kernel
  obtain ⟨w, hrun, htimer, hgen, hnow, hk⟩ := hrun
  have hlasted : w.Lasted ⟨1000, 30000, 30000⟩ 4 :=
    ⟨_, 0, hk, hgen.symm, rfl, rfl, hnow ▸ by decide⟩
  rcases (h.state _ w (List.prefix_refl _) hrun).lasted 4 hlasted with
    ⟨socket, hk', hforgiven⟩ | ⟨j, timer, hj, -, -⟩
  · cases hk.symm.trans hk'
    cases hforgiven
  · obtain ⟨link, hchain, -⟩ := inv_run hrun
    exact nomatch htimer.symm.trans (hchain.stable j timer hj).1

end Orbetra.LiveSocket
