import Orbetra.Commands.Credit

/-!
# Rows that are settled

The dispatcher and `queueParamWrite` write the rows of the same commands, and either may stop
anywhere.  Each of their statements asks for the status of the row, so a row that has left `queued`
and `sent` is not written again.
-/

namespace Orbetra.Commands

open List Machine

/-- A row has an outcome once it is acked or failed. -/
def CommandRow.Told (row : CommandRow) : Prop :=
  row.response = none ∨ row.status = .acked ∨ row.status = .failed

/-- What may become of a row. -/
structure CommandRow.Moves (row row' : CommandRow) : Prop where
  settled : row.open = false → row' = row
  told : row.response = none → row'.Told

variable {s s' : Seam} {id : String} {op : TickOp} {row : CommandRow}

lemma CommandRow.Moves.refl : row.Moves row := ⟨fun _ => rfl, .inl⟩

lemma moves_ite {p : Prop} [Decidable p] {row' : CommandRow} (hopen : p → row.open = true)
    (htold : row.response = none → row'.Told) : row.Moves (if p then row' else row) := by
  split
  · rename_i hp
    exact ⟨fun hclosed => absurd (hopen hp) (by simp [hclosed]), htold⟩
  · exact .refl

lemma moves_status (status : CommandStatus) {p : Prop} [Decidable p] (hopen : p → row.open = true) :
    row.Moves (if p then { row with status := status } else row) := moves_ite hopen .inl

lemma moves_updateRow {f : CommandRow → CommandRow} (hf : ∀ row : CommandRow, row.Moves (f row))
    (id' : String) : (s.rows id).Moves ((s.updateRow id' f).rows id) := by
  rw [Seam.updateRow_rows]
  split
  · exact hf _
  · exact .refl

lemma open_of_queued (h : row.status = .queued) : row.open = true := by simp [CommandRow.open, h]

/-- **A command of a tick.** -/
lemma moves_tickOp : (s.rows id).Moves ((s.tickOp op).rows id) := by
  cases op with
  | updateSent ids => exact moves_status _ fun h => open_of_queued h.2
  | updateFailed failure =>
    unfold Seam.tickOp
    dsimp only
    split <;> exact moves_updateRow (fun _ => moves_ite (fun h => h) fun _ => .inr (.inr rfl)) _
  | updateAcked => exact moves_updateRow (fun _ => moves_ite (fun h => h) fun _ => .inr (.inl rfl)) _
  | updateExpired => exact moves_updateRow (fun _ => moves_status .expired fun h => h) _
  | updateQueued => exact moves_updateRow (fun _ => moves_status .queued fun h => h) _
  | _ => exact .refl

/-- **A step.** -/
lemma moves_step {move : SeamMove} (hstep : s.step move = some s') :
    (s.rows id).Moves (s'.rows id) := by
  cases move with
  | dispatch =>
    simp only [Seam.step, Seam.dispatchStep] at hstep
    split at hstep
    case h_5 =>
      cases hstep
      exact moves_tickOp
    case h_7 => split at hstep <;> cases hstep <;> exact .refl
    all_goals cases hstep <;> exact .refl
  | api =>
    simp only [Seam.step, Seam.apiStep] at hstep
    split at hstep <;> cases hstep
    · exact .refl
    · exact .refl
    · exact moves_updateRow (fun _ => moves_status .expired open_of_queued) _
  | _ =>
    simp only [Seam.step, Seam.sessionStep] at hstep
    repeat' split at hstep
    all_goals cases hstep <;> exact .refl

/-- **A settled command stays as it is.**  Whatever happens, and whatever stops half-way: a response is
shown of a command that is acked or failed alone, and a row that is acked, failed or expired keeps its
status and its response. -/
theorem settled_for_good {moves : List SeamMove} (hrun : run Seam.step .init moves = some s) :
    (∀ id, (s.rows id).response ≠ none →
      (s.rows id).status = .acked ∨ (s.rows id).status = .failed) ∧
    ∀ later s' id, run Seam.step s later = some s' → (s.rows id).open = false →
      s'.rows id = s.rows id := by
  have hfits {s : Seam} {later : List SeamMove} : RunFits Seam.step (fun _ _ => True) s later :=
    .of_forall fun _ _ _ => trivial
  constructor
  · have htold : ∀ id, (s.rows id).Told := by
      refine run_keeps (fun now => ∀ id, (now.rows id).Told) (fun now move now' h _ hstep id => ?_)
        (fun _ => .inl rfl) hfits hrun
      obtain hnone | hsettled := h id
      · exact (moves_step hstep).told hnone
      · rw [(moves_step hstep).settled (by obtain h | h := hsettled <;> simp [CommandRow.open, h])]
        exact .inr hsettled
    exact fun id hresponse => (htold id).resolve_left hresponse
  · intro later s' id hlater hsettled
    refine run_keeps (fun now => now.rows id = s.rows id) (fun now move now' h _ hstep => ?_) rfl
      hfits hlater
    exact ((moves_step hstep).settled (h ▸ hsettled)).trans h

/-- The first of two commands is acked by a whole tick. -/
theorem settled_for_good_tick : ∃ s, run Seam.step .init (oneAnswer ++ tickUpTo 4) = some s ∧
    s.rows "c1" = ⟨.acked, some "v1"⟩ ∧
    ∀ later s' id, run Seam.step s later = some s' → (s.rows id).open = false →
      s'.rows id = s.rows id := by
  have hacked : (run Seam.step .init (oneAnswer ++ tickUpTo 4)).map (·.rows "c1") =
      some ⟨.acked, some "v1"⟩ := by decide +kernel
  obtain ⟨s, hrun, hs⟩ := Option.map_eq_some_iff.1 hacked
  exact ⟨s, hrun, hs, (settled_for_good hrun).2⟩

end Orbetra.Commands
