import Orbetra.Trip.Run

/-!
# Reading only a window of a history

An engine that is fed a window of a history closes the trips that begin in the window and are
confirmed in it, if it is idle whenever one of them begins.  `Reproduces` asks exactly this of the
trips that start in a span within the window: then the cold engine closes all of them
(`Reproduces.mem_closes`), and nothing else within one of them (`Reproduces.of_within`); on a
history without two records of one time, an engine that closes them is idle whenever one begins
(`Reproduces.of_mem`). -/

namespace Orbetra

open List

variable {haversineM : Haversine} {config : DeviceTripConfig}

def window (readFrom readTo : Ms) (history : List NormalizedRecord) : List NormalizedRecord :=
  history.filter fun r => readFrom ≤ r.fixTime ∧ r.fixTime ≤ readTo

/-- No two records have the same fix time. -/
def StrictOrder (records : List NormalizedRecord) : Prop := records.Pairwise (·.fixTime < ·.fixTime)

lemma StrictOrder.inOrder {records : List NormalizedRecord} (h : StrictOrder records) :
    InOrder records :=
  h.imp le_of_lt

/-- Every trip of the history that starts in `[coreFrom, coreTo]` is confirmed by a record of the
window, and an engine that is fed the window is idle when it begins. -/
structure Reproduces (haversineM : Haversine) (config : DeviceTripConfig)
    (history : List NormalizedRecord) (readFrom readTo coreFrom coreTo : Ms) : Prop where
  cold : ∀ before r after k, Begins haversineM config .idle history before r after k →
    coreFrom ≤ k.startTime → k.startTime ≤ coreTo →
      Phase.after haversineM config .idle (before.filter fun x => readFrom ≤ x.fixTime) = .idle
  confirmed : ∀ before r after k, Begins haversineM config .idle history before r after k →
    coreFrom ≤ k.startTime → k.startTime ≤ coreTo →
      nextClose haversineM config .idle ((r :: after).filter fun x => x.fixTime ≤ readTo) = some k

variable {history before after : List NormalizedRecord} {r : NormalizedRecord} {k : CloseEvent}
  {readFrom readTo coreFrom coreTo : Ms}

lemma Begins.startTime (h : Begins haversineM config .idle history before r after k) :
    k.startTime = r.fixTime :=
  nextClose_startTime h.next

lemma Begins.mem_closes {phase : Phase}
    (h : Begins haversineM config phase history before r after k) :
    k ∈ phase.closes haversineM config history :=
  Phase.mem_closes_iff.2 (.inr ⟨before, r, after, h⟩)

lemma exists_begins (h : k ∈ Phase.closes haversineM config .idle history) :
    ∃ before r after, Begins haversineM config .idle history before r after k :=
  (Phase.mem_closes_iff.1 h).resolve_left fun h => h.1 rfl

lemma window_split (horder : InOrder (before ++ r :: after)) (hfrom : readFrom ≤ r.fixTime)
    (hto : r.fixTime ≤ readTo) :
    window readFrom readTo (before ++ r :: after) =
      before.filter (fun x => readFrom ≤ x.fixTime) ++
        r :: after.filter fun x => x.fixTime ≤ readTo := by
  obtain ⟨-, hafter, hcross⟩ := pairwise_append.1 horder
  obtain ⟨hr, -⟩ := pairwise_cons.1 hafter
  unfold window
  rw [filter_append, filter_cons_of_pos (by simp [hfrom, hto])]
  congr 1
  · refine filter_congr fun x hx => ?_
    have : x.fixTime ≤ readTo := (hcross x hx r mem_cons_self).trans hto
    simp [this]
  · congr 1
    refine filter_congr fun x hx => ?_
    have : readFrom ≤ x.fixTime := hfrom.trans (hr x hx)
    simp [this]

lemma Reproduces.begins
    (h : Reproduces haversineM config history readFrom readTo coreFrom coreTo)
    (horder : InOrder history) (hfrom : readFrom ≤ coreFrom) (hto : coreTo ≤ readTo)
    (hk : Begins haversineM config .idle history before r after k) (hk₁ : coreFrom ≤ k.startTime)
    (hk₂ : k.startTime ≤ coreTo) :
    Begins haversineM config .idle (window readFrom readTo history)
      (before.filter fun x => readFrom ≤ x.fixTime) r
      (after.filter fun x => x.fixTime ≤ readTo) k := by
  have hstart := hk.startTime
  have hr : r.fixTime ≤ readTo := hstart ▸ hk₂.trans hto
  have hconfirmed := h.confirmed before r after k hk hk₁ hk₂
  rw [filter_cons_of_pos (by simpa using hr)] at hconfirmed
  refine ⟨?_, h.cold before r after k hk hk₁ hk₂, hconfirmed⟩
  have hsplit := hk.split
  subst hsplit
  exact window_split horder (hstart ▸ hfrom.trans hk₁) hr

lemma Reproduces.mem_closes
    (h : Reproduces haversineM config history readFrom readTo coreFrom coreTo)
    (horder : InOrder history) (hfrom : readFrom ≤ coreFrom) (hto : coreTo ≤ readTo)
    (hk : k ∈ Phase.closes haversineM config .idle history) (hk₁ : coreFrom ≤ k.startTime)
    (hk₂ : k.startTime ≤ coreTo) :
    k ∈ Phase.closes haversineM config .idle (window readFrom readTo history) := by
  obtain ⟨before, r, after, hbegins⟩ := exists_begins hk
  exact (h.begins horder hfrom hto hbegins hk₁ hk₂).mem_closes

/-- A list cut where a property that holds up to some point stops to hold. -/
lemma filter_append_filter_not {α : Type*} {p : α → Bool} {l : List α}
    (h : l.Pairwise fun a b => p b = true → p a = true) :
    l.filter p ++ l.filter (fun a => !p a) = l := by
  induction l with
  | nil => rfl
  | cons a l ih =>
    obtain ⟨hfirst, hrest⟩ := pairwise_cons.1 h
    by_cases ha : p a
    · simpa [ha] using ih hrest
    · have hnone : l.filter p = [] := filter_eq_nil_iff.2 fun b hb hpb => ha (hfirst b hb hpb)
      have hall : l.filter (fun a => !p a) = l :=
        filter_eq_self.2 fun b hb => by simpa using fun hpb => ha (hfirst b hb hpb)
      simp [ha, hnone, hall]

lemma window_append (horder : InOrder history) (readFrom readTo : Ms) :
    ∃ earlier later, history = earlier ++ (window readFrom readTo history ++ later) ∧
      ∀ x ∈ earlier, x.fixTime < readFrom := by
  have hcut := filter_append_filter_not (p := fun x : NormalizedRecord => decide (x.fixTime < readFrom))
    (horder.imp fun hab hb => by simpa using lt_of_le_of_lt hab (by simpa using hb))
  have hrest : InOrder (history.filter fun x => !decide (x.fixTime < readFrom)) := horder.filter _
  have hcut' := filter_append_filter_not (p := fun x : NormalizedRecord => decide (x.fixTime ≤ readTo))
    (hrest.imp fun hab hb => by simpa using hab.trans (by simpa using hb))
  have hwindow : (history.filter fun x => !decide (x.fixTime < readFrom)).filter
      (fun x => decide (x.fixTime ≤ readTo)) = window readFrom readTo history := by
    rw [filter_filter]
    refine filter_congr fun x _ => ?_
    rw [Bool.eq_iff_iff]
    simp only [Bool.and_eq_true, Bool.not_eq_true', decide_eq_true_eq, decide_eq_false_iff_not,
      not_lt]
    exact and_comm
  rw [hwindow] at hcut'
  exact ⟨history.filter fun x => decide (x.fixTime < readFrom), _,
    by rw [hcut', hcut], fun x hx => by simpa using (mem_filter.1 hx).2⟩

variable (haversineM config) in
lemma upTo_after_idle {records : List NormalizedRecord} {later : Ms} (horder : InOrder records)
    (hlater : ∀ x ∈ records, x.fixTime ≤ later) :
    (Phase.after haversineM config .idle records).UpTo later := by
  cases records with
  | nil => exact Phase.upTo_idle later
  | cons x xs =>
    obtain ⟨hfirst, -⟩ := pairwise_cons.1 horder
    refine (Phase.upTo_idle x.fixTime).after horder (fun y hy => ⟨?_, hlater y hy⟩)
      (hlater x mem_cons_self)
    rcases mem_cons.1 hy with rfl | hy
    · exact le_rfl
    · exact hfirst y hy

/-- What an engine fed a window closes, an engine fed the whole history closes too, or has closed a
trip within which it starts. -/
lemma accounted_window (horder : InOrder history) {k' : CloseEvent}
    (hk' : k' ∈ Phase.closes haversineM config .idle (window readFrom readTo history)) :
    Accounted (· ∈ Phase.closes haversineM config .idle history) k' := by
  obtain ⟨earlier, later, hsplit, hearlier⟩ := window_append horder readFrom readTo
  have horder' := horder
  rw [hsplit] at horder'
  obtain ⟨hfirst, hrest, -⟩ := pairwise_append.1 horder'
  obtain ⟨hwindow, -, -⟩ := pairwise_append.1 hrest
  have hup := upTo_after_idle haversineM config hfirst fun x hx => (hearlier x hx).le
  obtain ⟨k, hk, hacc⟩ := follows_run hup
    (fun x hx => (of_decide_eq_true (mem_filter.1 hx).2).1) hwindow k' hk'
  refine ⟨k, ?_, hacc⟩
  change k ∈ Phase.closes haversineM config .idle history
  rw [hsplit, Phase.closes_append, Phase.closes_append]
  exact mem_append_right _ (mem_append_left _ hk)

lemma closes_times_idle {records : List NormalizedRecord} (horder : InOrder records)
    (hk : k ∈ Phase.closes haversineM config .idle records) :
    k.startTime ≤ k.endTime ∧ ∃ x ∈ records, k.endTime ≤ x.fixTime ∧
      config.thresholds.stopThreshold ≤ secs x.fixTime k.endTime := by
  cases records with
  | nil => simp [Phase.closes, closesOf] at hk
  | cons x xs =>
    obtain ⟨hfirst, -⟩ := pairwise_cons.1 horder
    refine Phase.closes_times (Phase.upTo_idle x.fixTime) horder (fun y hy => ?_) hk
    rcases mem_cons.1 hy with rfl | hy
    · exact le_rfl
    · exact hfirst y hy

/-- Trips are told apart by their times: a stop takes time, or no two records share one. -/
def Untied (config : DeviceTripConfig) (history : List NormalizedRecord) : Prop :=
  0 < config.thresholds.stopThreshold ∨ StrictOrder history

lemma closes_before (horder : InOrder (before ++ r :: after))
    (huntied : Untied config (before ++ r :: after)) {earlier : List NormalizedRecord}
    (hsub : earlier.Sublist before)
    (hk : k ∈ Phase.closes haversineM config .idle earlier) : k.endTime < r.fixTime := by
  obtain ⟨hbefore, -, hcross⟩ := pairwise_append.1 horder
  obtain ⟨-, x, hx, hend, hlasted⟩ := closes_times_idle (hbefore.sublist hsub) hk
  have hxr : x.fixTime ≤ r.fixTime := hcross x (hsub.subset hx) r mem_cons_self
  rcases huntied with hpos | hstrict
  · refine lt_of_le_of_ne (hend.trans hxr) fun heq => ?_
    -- the stop would have lasted no time at all
    have hx' : x.fixTime = k.endTime := le_antisymm (hxr.trans heq.ge) hend
    have hsecs : secs x.fixTime k.endTime = 0 := by simp [secs, hx']
    have hpos' : (0 : ℚ) < config.thresholds.stopThreshold := by exact_mod_cast hpos
    rw [hsecs] at hlasted
    exact absurd (hpos'.trans_le hlasted) (lt_irrefl _)
  · have hxr' := (pairwise_append.1 hstrict).2.2 x (hsub.subset hx) r mem_cons_self
    exact hend.trans_lt hxr'

lemma Reproduces.of_within
    (h : Reproduces haversineM config history readFrom readTo coreFrom coreTo)
    (horder : InOrder history) (huntied : Untied config history) (hfrom : readFrom ≤ coreFrom)
    (hto : coreTo ≤ readTo) (hk : k ∈ Phase.closes haversineM config .idle history)
    (hk₁ : coreFrom ≤ k.startTime) (hk₂ : k.startTime ≤ coreTo) {k' : CloseEvent}
    (hk' : k' ∈ Phase.closes haversineM config .idle (window readFrom readTo history))
    (hle : k.startTime ≤ k'.startTime) : k' ∈ Phase.closes haversineM config .idle history := by
  obtain ⟨before, r, after, hbegins⟩ := exists_begins hk
  have hcold := h.begins horder hfrom hto hbegins hk₁ hk₂
  have hstart := hbegins.startTime
  have hsplit := hbegins.split
  subst hsplit
  rw [hcold.split, Phase.closes_append, hcold.idle] at hk'
  rcases mem_append.1 hk' with hk' | hk'
  · have hlt := closes_before horder huntied (filter_sublist (l := before)) hk'
    have hle' := (closes_times_idle (((pairwise_append.1 horder).1).filter _) hk').1
    exact absurd (hlt.trans_le (hstart ▸ hle)) (not_lt.2 hle')
  · -- both engines are idle at `r`, and read the same records from there on
    have hafter : InOrder after := (pairwise_cons.1 (pairwise_append.1 horder).2.1).2
    have hcut := filter_append_filter_not
      (p := fun x : NormalizedRecord => decide (x.fixTime ≤ readTo))
      (hafter.imp fun hab hb => by simpa using hab.trans (by simpa using hb))
    rw [Phase.closes_append, hbegins.idle, ← hcut, ← cons_append, Phase.closes_append]
    exact mem_append_right _ (mem_append_left _ hk')

lemma split_unique {before' after' : List NormalizedRecord} {r' : NormalizedRecord}
    (hstrict : StrictOrder (before ++ r :: after))
    (h : before ++ r :: after = before' ++ r' :: after') (hr : r.fixTime = r'.fixTime) :
    before = before' ∧ r = r' ∧ after = after' := by
  induction before generalizing before' with
  | nil =>
    cases before' with
    | nil => simpa using h
    | cons x xs =>
      obtain ⟨rfl, rfl⟩ : r = x ∧ after = xs ++ r' :: after' := by simpa using h
      have := (pairwise_cons.1 hstrict).1 r' (by simp)
      exact absurd hr this.ne
  | cons y ys ih =>
    cases before' with
    | nil =>
      obtain ⟨rfl, rfl⟩ : y = r' ∧ ys ++ r :: after = after' := by simpa using h
      have := (pairwise_cons.1 hstrict).1 r (by simp)
      exact absurd hr this.ne'
    | cons x xs =>
      obtain ⟨rfl, htail⟩ : y = x ∧ ys ++ r :: after = xs ++ r' :: after' := by simpa using h
      obtain ⟨rfl, hrest⟩ := ih (pairwise_cons.1 hstrict).2 htail
      exact ⟨rfl, hrest⟩

/-- **The conditions are needed.**  On a history in strict order, an engine fed the window that
closes a trip at every start in the span is idle when it begins, and the window confirms it. -/
lemma Reproduces.of_mem (hstrict : StrictOrder history) (hfrom : readFrom ≤ coreFrom)
    (hto : coreTo ≤ readTo)
    (hmem : ∀ k ∈ Phase.closes haversineM config .idle history, coreFrom ≤ k.startTime →
      k.startTime ≤ coreTo →
        ∃ k' ∈ Phase.closes haversineM config .idle (window readFrom readTo history),
          k'.startTime = k.startTime) :
    Reproduces haversineM config history readFrom readTo coreFrom coreTo := by
  have hboth : ∀ before r after k, Begins haversineM config .idle history before r after k →
      coreFrom ≤ k.startTime → k.startTime ≤ coreTo →
      Phase.after haversineM config .idle (before.filter fun x => readFrom ≤ x.fixTime) = .idle ∧
      nextClose haversineM config .idle ((r :: after).filter fun x => x.fixTime ≤ readTo) =
        some k := by
    intro before r after k hk hk₁ hk₂
    obtain ⟨k', hk', hstart'⟩ := hmem k hk.mem_closes hk₁ hk₂
    obtain ⟨before', r', after', hk'⟩ := exists_begins hk'
    have hstart := hk.startTime
    have hr : r.fixTime ≤ readTo := hstart ▸ hk₂.trans hto
    have hsplit := hk.split
    subst hsplit
    have hcut := window_split hstrict.inOrder (hstart ▸ hfrom.trans hk₁) hr
    have hwindow : StrictOrder (window readFrom readTo (before ++ r :: after)) := hstrict.filter _
    obtain ⟨rfl, rfl, rfl⟩ := split_unique (hcut ▸ hwindow) (hcut.symm.trans hk'.split)
      (hstart.symm.trans (hstart'.symm.trans hk'.startTime))
    refine ⟨hk'.idle, ?_⟩
    rw [filter_cons_of_pos (by simpa using hr), hk'.next]
    -- the event found in the window is the one found in the history
    have hafter : InOrder after := (pairwise_cons.1 (pairwise_append.1 hstrict.inOrder).2.1).2
    have hcut' := filter_append_filter_not
      (p := fun x : NormalizedRecord => decide (x.fixTime ≤ readTo))
      (hafter.imp fun hab hb => by simpa using hab.trans (by simpa using hb))
    have hmore := nextClose_append hk'.next (after.filter fun x => !decide (x.fixTime ≤ readTo))
    rw [cons_append, hcut', hk.next] at hmore
    exact hmore.symm
  exact ⟨fun before r after k hk hk₁ hk₂ => (hboth before r after k hk hk₁ hk₂).1,
    fun before r after k hk hk₁ hk₂ => (hboth before r after k hk hk₁ hk₂).2⟩

end Orbetra
