import Orbetra.Ingest.Sockets

/-!
# The table of live sessions

Of the sessions of an IMEI that have authenticated, at most one is not destroyed, and `liveByImei`
leads to it; the table and both counts of connections are empty once every socket has closed.  That
holds where no lookup that finds a device is answered after its socket has emitted `close`
(`live_table_exact`); one that is leaves its session in the table (`late_lookup_stays`). -/

namespace Orbetra.Sockets

open Function Machine

open Tally (tally tally_update tally_insert tally_eq_zero)

variable {ι : Type} [DecidableEq ι] {s s' : Server ι} {config : Config} {i : ι}

def Session.Handshaking (x : Session) : Prop :=
  match x.work with
  | some (.lookup _, _) | some (.quarantine, _) => True
  | _ => False

instance (x : Session) : Decidable x.Handshaking := by
  unfold Session.Handshaking
  split <;> infer_instance

structure LiveTable (s : Server ι) : Prop where
  one : ∀ i ∈ s.accepted, ∀ j ∈ s.accepted, ∀ imei,
    (s.sessions i).imei = some imei → (s.sessions i).destroyed = false →
      (s.sessions j).imei = some imei → (s.sessions j).destroyed = false → i = j
  mapped : ∀ i ∈ s.accepted, ∀ imei, (s.sessions i).imei = some imei →
    (s.sessions i).destroyed = false → s.liveByImei imei = some i
  emptied : (∀ i ∈ s.accepted, (s.sessions i).closed = true ∧ ¬(s.sessions i).Handshaking) →
    (∀ imei, s.liveByImei imei = none) ∧ s.connections = 0 ∧ ∀ ip, s.perIp ip = 0

/-- What an open socket adds to `connections`, and to the count of its address. -/
def openWeight (x : Session) : ℤ := if x.closed then 0 else 1

def openFrom (ip : Ip) (x : Session) : ℤ := if x.closed = false ∧ x.ip = ip then 1 else 0

lemma openFrom_nonneg (ip : Ip) (x : Session) : 0 ≤ openFrom ip x := by
  unfold openFrom
  split <;> decide

/-- The invariant: an entry of the table is of an open session, which will delete it. -/
structure Tabled (s : Server ι) : Prop where
  sound : Sound s
  connections : s.connections = tally s.accepted openWeight s.sessions
  perIp : ∀ ip, (s.perIp ip : ℤ) = tally s.accepted (openFrom ip) s.sessions
  live : ∀ i ∈ s.accepted, ∀ imei, (s.sessions i).imei = some imei →
    (s.sessions i).destroyed = false → s.liveByImei imei = some i
  entry : ∀ imei i, s.liveByImei imei = some i →
    (s.sessions i).imei = some imei ∧ imei ∈ (s.sessions i).onClose ∧ (s.sessions i).closed = false

lemma tabled_initial : Tabled (Server.initial : Server ι) where
  sound := sound_initial
  connections := rfl
  perIp _ := rfl
  live _ hi := absurd hi (Finset.notMem_empty _)
  entry _ _ h := nomatch h

/-! ## Deleting entries -/

variable {live : Imei → Option ι} {imei : Imei} {imeis : List Imei} {j : ι}

/-- An entry of another session stays. -/
lemma foldl_forget_other (hne : j ≠ i) (h : live imei = some j) :
    imeis.foldl (Server.forget i) live imei = some j := by
  induction imeis generalizing live with
  | nil => exact h
  | cons imei' imeis ih =>
    refine ih ?_
    unfold Server.forget
    split
    · rename_i hmine
      have hother : imei ≠ imei' := by
        rintro rfl
        exact hne (Option.some.inj (h.symm.trans hmine))
      rwa [update_of_ne hother]
    · exact h

/-- An entry of the session itself goes. -/
lemma foldl_forget_mine (h : imei ∈ imeis) : imeis.foldl (Server.forget i) live imei ≠ some i := by
  induction imeis generalizing live with
  | nil => exact absurd h List.not_mem_nil
  | cons imei' imeis ih =>
    rcases List.mem_cons.mp h with rfl | h
    · intro hstays
      have hforgot : Server.forget i live imei imei = some i := of_foldl_forget hstays
      unfold Server.forget at hforgot
      split at hforgot
      · rw [update_self] at hforgot
        cases hforgot
      · rename_i hother
        exact hother hforgot
    · exact ih h

/-! ## Turns -/

omit [DecidableEq ι] in
lemma Quiet.openFrom {late : Prop} {x y : Session} (h : Quiet late x y) (ip : Ip) :
    openFrom ip y = openFrom ip x := by
  rw [Sockets.openFrom, Sockets.openFrom, h.closed, h.ip]

omit [DecidableEq ι] in
lemma Calm.tabled (h : Calm True s s') (hs : Tabled s) : Tabled s' where
  sound := h.sound hs.sound
  connections := by
    rw [h.connections, h.accepted, hs.connections]
    exact Finset.sum_congr rfl fun j _ => by rw [openWeight, openWeight, (h.quiet j).closed]
  perIp ip := by
    rw [h.perIp, h.accepted, hs.perIp]
    exact Finset.sum_congr rfl fun j _ => ((h.quiet j).openFrom ip).symm
  live j hj imei himei hlive := by
    rw [(h.quiet j).imei] at himei
    rw [h.liveByImei]
    refine hs.live j (h.accepted ▸ hj) imei himei (Bool.eq_false_iff.mpr fun hdestroyed => ?_)
    rw [(h.quiet j).destroyed hdestroyed] at hlive
    cases hlive
  entry imei j hj := by
    rw [h.liveByImei] at hj
    rw [(h.quiet j).imei, (h.quiet j).onClose, (h.quiet j).closed]
    exact hs.entry imei j hj

lemma tabled_accept {ip : Ip} (hs : Tabled s) (hi : i ∉ s.accepted)
    (hsound : Sound (s.accept i ip)) :
    Tabled (s.accept i ip) where
  sound := hsound
  connections := by
    show s.connections + 1 = tally (insert i s.accepted) openWeight
      (update s.sessions i (.fresh ip))
    rw [tally_insert hi, hs.connections]
    rfl
  perIp ip' := by
    show ((update s.perIp ip (s.perIp ip + 1) ip' : ℕ) : ℤ) =
      tally (insert i s.accepted) (openFrom ip') (update s.sessions i (.fresh ip))
    rw [tally_insert hi, ← hs.perIp]
    by_cases hip : ip' = ip
    · have hweight : openFrom ip' (.fresh ip) = 1 := if_pos ⟨rfl, hip.symm⟩
      rw [hweight, hip, update_self]
      rfl
    · have hweight : openFrom ip' (.fresh ip) = 0 := if_neg fun h => hip h.2.symm
      rw [hweight, update_of_ne hip, add_zero]
  live j hj imei himei hlive := by
    have himei' : (update s.sessions i (.fresh ip) j).imei = some imei := himei
    have hlive' : (update s.sessions i (.fresh ip) j).destroyed = false := hlive
    by_cases hji : j = i
    · rw [hji, update_self] at himei'
      cases himei'
    · rw [update_of_ne hji] at himei' hlive'
      exact hs.live j ((Finset.mem_insert.mp hj).resolve_left hji) imei himei' hlive'
  entry imei j hj := by
    have hji : j ≠ i := fun h => hi (h ▸ hs.sound.known imei j hj)
    show (update s.sessions i (.fresh ip) j).imei = some imei ∧ _
    have hsame : (s.accept i ip).sessions j = s.sessions j := update_of_ne hji _ _
    rw [hsame, update_of_ne hji]
    exact hs.entry imei j hj

lemma close_self : (s.close i).sessions i = (s.sessions i).shut := by
  rw [close_eq]
  exact update_self _ _ _

lemma close_other (hj : j ≠ i) : (s.close i).sessions j = s.sessions j := by
  rw [close_eq]
  exact update_of_ne hj _ _

lemma close_liveByImei :
    (s.close i).liveByImei = (s.sessions i).onClose.foldl (Server.forget i) s.liveByImei := by
  rw [close_eq]

lemma close_perIp (hs : Tabled s) (hi : i ∈ s.accepted) (hopen : (s.sessions i).closed = false)
    (ip : Ip) :
    ((s.close i).perIp ip : ℤ) =
      tally s.accepted (openFrom ip) (update s.sessions i (s.sessions i).shut) := by
  have hshut : openFrom ip (s.sessions i).shut = 0 := if_neg fun h => by cases h.1
  rw [close_eq, tally_update hi, hshut, ← hs.perIp]
  show ((update s.perIp (s.sessions i).ip (s.perIp (s.sessions i).ip - 1) ip : ℕ) : ℤ) = _
  by_cases hip : (s.sessions i).ip = ip
  · have hweight : openFrom ip (s.sessions i) = 1 := if_pos ⟨hopen, hip⟩
    -- the session itself is counted
    have hpositive : 1 ≤ (s.perIp ip : ℤ) := by
      rw [hs.perIp, ← hweight]
      exact Finset.single_le_sum (fun j _ => openFrom_nonneg ip (s.sessions j)) hi
    rw [hip, update_self, hweight]
    omega
  · have hweight : openFrom ip (s.sessions i) = 0 := if_neg fun h => hip h.2
    rw [update_of_ne (Ne.symm hip), hweight]
    omega

lemma tabled_close (hs : Tabled s) (hi : i ∈ s.accepted)
    (hdestroyed : (s.sessions i).destroyed = true)
    (hopen : (s.sessions i).closed = false) (hsound : Sound (s.close i)) : Tabled (s.close i) where
  sound := hsound
  connections := by
    have hweight : openWeight (s.sessions i) = 1 := if_neg (by rw [hopen]; exact Bool.false_ne_true)
    have hshut : openWeight (s.sessions i).shut = 0 := rfl
    rw [close_eq]
    show s.connections - 1 = tally s.accepted openWeight (update s.sessions i (s.sessions i).shut)
    rw [tally_update hi, hweight, hshut, hs.connections]
    rfl
  perIp ip := by
    have hperIp := close_perIp hs hi hopen ip
    rw [close_eq] at hperIp ⊢
    exact hperIp
  live j hj imei himei hlive := by
    by_cases hji : j = i
    · rw [hji, close_self] at hlive
      exact absurd (hlive.symm.trans hdestroyed) Bool.false_ne_true
    · rw [close_other hji] at himei hlive
      rw [close_liveByImei]
      rw [close_eq] at hj
      exact foldl_forget_other hji (hs.live j hj imei himei hlive)
  entry imei j hj := by
    rw [close_liveByImei] at hj
    have hentry := hs.entry imei j (of_foldl_forget hj)
    have hji : j ≠ i := by
      rintro rfl
      exact foldl_forget_mine hentry.2.1 hj
    rw [close_other hji]
    exact hentry

/-- A session that authenticates takes the entry of its IMEI, and the one that had it is destroyed.
-/
lemma tabled_authenticate (hs : Tabled s) (hi : i ∈ s.accepted) (himei : (s.sessions i).imei = none)
    (hopen : (s.sessions i).closed = false)
    (hprior : ∀ prior, s.liveByImei imei = some prior → prior ≠ i →
      (s'.sessions prior).destroyed = true) (h : Calm True ((s.arrived i).register i imei) s') :
    Tabled s' := by
  have hself : ((s.arrived i).register i imei).sessions i =
      { s.sessions i with
        work := none, imei := some imei, onClose := (s.sessions i).onClose ++ [imei] } := by
    show update (s.arrived i).sessions i _ i = _
    rw [update_self, arrived_self]
  have hother (j : ι) (hj : j ≠ i) : ((s.arrived i).register i imei).sessions j = s.sessions j := by
    show update (update s.sessions i _) i _ j = _
    rw [update_of_ne hj, update_of_ne hj]
  have hopenness : ∀ j, (s'.sessions j).closed = (s.sessions j).closed ∧
      (s'.sessions j).ip = (s.sessions j).ip := by
    intro j
    rw [(h.quiet j).closed, (h.quiet j).ip]
    by_cases hj : j = i
    · rw [hj, hself]
      exact ⟨rfl, rfl⟩
    · rw [hother j hj]
      exact ⟨rfl, rfl⟩
  refine ⟨h.sound (hs.sound.register hi), ?_, fun ip => ?_, fun j hj imei' himei' hlive => ?_,
    fun imei' j hj => ?_⟩
  · rw [h.connections, h.accepted]
    refine hs.connections.trans (Finset.sum_congr rfl fun j _ => ?_)
    rw [openWeight, openWeight, (hopenness j).1]
  · rw [h.perIp, h.accepted]
    refine (hs.perIp ip).trans (Finset.sum_congr rfl fun j _ => ?_)
    rw [openFrom, openFrom, (hopenness j).1, (hopenness j).2]
  · rw [h.liveByImei]
    show update s.liveByImei imei (some i) imei' = some j
    rw [(h.quiet j).imei] at himei'
    by_cases hji : j = i
    · rw [hji, hself] at himei'
      rw [← Option.some.inj himei', update_self, hji]
    · have hundestroyed : (s.sessions j).destroyed = false := by
        refine Bool.eq_false_iff.mpr fun hdestroyed => ?_
        rw [(h.quiet j).destroyed (by rw [hother j hji]; exact hdestroyed)] at hlive
        cases hlive
      rw [hother j hji] at himei'
      have hentry := hs.live j (h.accepted ▸ hj) imei' himei' hundestroyed
      have hne : imei' ≠ imei := by
        rintro rfl
        rw [hprior j hentry hji] at hlive
        cases hlive
      rw [update_of_ne hne]
      exact hentry
  · rw [h.liveByImei] at hj
    have hj' : update s.liveByImei imei (some i) imei' = some j := hj
    rw [(h.quiet j).imei, (h.quiet j).onClose, (h.quiet j).closed]
    by_cases hsame : imei' = imei
    · rw [hsame, update_self] at hj'
      cases hj'
      rw [hself, hsame]
      exact ⟨rfl, List.mem_append_right _ List.mem_cons_self, hopen⟩
    · rw [update_of_ne hsame] at hj'
      have hentry := hs.entry imei' j hj'
      have hji : j ≠ i := by
        rintro rfl
        rw [himei] at hentry
        cases hentry.1
      rw [hother j hji]
      exact hentry

/-- **Every turn keeps the table**, where no closed session authenticates. -/
lemma Turn.tabled (h : Turn True False s s') (hs : Tabled s) : Tabled s' := by
  have hsound := h.sound hs.sound
  cases h with
  | calm h => exact h.tabled hs
  | accept i ip hi => exact tabled_accept hs hi hsound
  | authenticate i imei hi himei hopen hprior h =>
    exact tabled_authenticate hs hi himei (hopen.resolve_left not_false) hprior h
  | close i hi hdestroyed hopen => exact tabled_close hs hi hdestroyed hopen hsound

omit [DecidableEq ι] in
lemma Tabled.exact (h : Tabled s) : LiveTable s where
  one i hi j hj imei himei hlive himei' hlive' :=
    Option.some.inj ((h.live i hi imei himei hlive).symm.trans (h.live j hj imei himei' hlive'))
  mapped := h.live
  emptied hclosed := by
    refine ⟨fun imei => ?_, h.connections.trans ?_, fun ip => ?_⟩
    · cases hlive : s.liveByImei imei with
      | none => rfl
      | some i =>
        have hentry := (h.entry imei i hlive).2.2
        rw [(hclosed i (h.sound.known imei i hlive)).1] at hentry
        cases hentry
    · exact tally_eq_zero fun i hi => if_pos (hclosed i hi).1
    · refine Int.natCast_eq_zero.mp
        ((h.perIp ip).trans (tally_eq_zero fun i hi => if_neg fun hopen => ?_))
      rw [(hclosed i hi).1] at hopen
      cases hopen.1

/-- **The table holds live sessions only** in every run in which no lookup that finds a device is
answered after its socket has closed. -/
theorem live_table_exact {moves : List (Move ι)}
    (hintime : RunFits (step config) LookupsInTime Server.initial moves)
    (hrun : run (step config) Server.initial moves = some s) : LiveTable s := by
  refine (run_keeps Tabled (fun s move s' hs hfits hstep => ?_) tabled_initial hintime hrun).exact
  exact (step_cases hs.sound.known hs.sound.handshakes (.inl trivial) (.inr hfits) hstep).tabled hs

/-! ## A lookup that is late -/

def oneConnection : Config := ⟨10, 10, 50000⟩

/-- A socket has sent its IMEI, and the registry is asked for it. -/
def untilLookup : List (Move ℕ) :=
  [.connect 0 "10.0.0.1" true, .data 0 (some [.imei (some "352093081452251")]), .begin 0]

/-- The device is found, and the peer hangs up. -/
def foundInTime : List (Move ℕ) :=
  untilLookup ++ [.answer 0 (.device true), .answer 0 (.popped .empty), .gone 0, .close 0]

/-- The peer hangs up, and the device is found. -/
def foundLate : List (Move ℕ) :=
  untilLookup ++ [.gone 0, .close 0, .answer 0 (.device true), .timeout 0]

theorem live_table_exact_foundInTime :
    ∃ s, run (step oneConnection) Server.initial foundInTime = some s ∧ LiveTable s := by
  have hfits : RunFits (step oneConnection) LookupsInTime Server.initial foundInTime := by
    decide +kernel
  have hsome : (run (step oneConnection) Server.initial foundInTime).isSome := by
    decide +kernel
  obtain ⟨s, hs⟩ := Option.isSome_iff_exists.mp hsome
  exact ⟨s, hs, live_table_exact hfits hs⟩

/-- **A session whose device is found after its socket has closed stays in the table**: no socket is
left, nothing is to come, and the IMEI leads to the dead session. -/
theorem late_lookup_stays :
    ∃ s, run (step oneConnection) Server.initial foundLate = some s ∧
      (∀ i ∈ s.accepted, (s.sessions i).closed = true ∧ ¬(s.sessions i).Handshaking) ∧
      s.connections = 0 ∧ s.liveByImei "352093081452251" = some 0 ∧ ¬LiveTable s := by
  have hrun : (run (step oneConnection) Server.initial foundLate).map
      (fun s =>
        (decide (∀ i ∈ s.accepted, (s.sessions i).closed = true ∧ ¬(s.sessions i).Handshaking),
          s.connections, s.liveByImei "352093081452251")) =
        some (true, 0, some 0) := by decide +kernel
  obtain ⟨s, hs, heq⟩ := Option.map_eq_some_iff.mp hrun
  obtain ⟨hclosed, hrest⟩ := Prod.mk.inj heq
  obtain ⟨hconnections, hlive⟩ := Prod.mk.inj hrest
  have hclosed' := of_decide_eq_true hclosed
  refine ⟨s, hs, hclosed', hconnections, hlive, fun hexact => ?_⟩
  rw [(hexact.emptied hclosed').1] at hlive
  cases hlive

end Orbetra.Sockets
