import Mathlib

/-!
# Named instances

Facts that definitions of many modules rest on.  As constants they stand in a definition by name,
whichever module comes first.
-/

instance neZero_two : NeZero (2 : ℕ) := ⟨by decide⟩

instance neZero_three : NeZero (3 : ℕ) := ⟨by decide⟩

instance neZero_five : NeZero (5 : ℕ) := ⟨by decide⟩

instance lawfulBEq_text : LawfulBEq (List Char) := inferInstance

instance atLeastTwo_thousand : Nat.AtLeastTwo 1000 := ⟨by decide⟩
