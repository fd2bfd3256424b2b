import Mathlib.Data.List.Basic

/-!
# Sequences of optional checks

A function that carries out one step after the other, each of them only if it is
requested, and that returns at the first one that fails.  Every step leaves
events behind: the system calls it makes, say.
-/

namespace Library

universe u

/-- Whether an action succeeds, and the events that it leaves behind. -/
structure Check (Event : Type u) where
  passes : Bool
  events : List Event

/-- A check that is made only if it is requested. -/
structure Stage (Event : Type u) where
  requested : Bool
  check : Check Event

namespace Stage

variable {Event : Type u}

/-- The requested checks in order, up to the first one that fails. -/
def runAll : List (Stage Event) → Check Event
  | [] => ⟨true, []⟩
  | stage :: later =>
      if stage.requested then
        if stage.check.passes then
          let rest := runAll later
          ⟨rest.passes, stage.check.events ++ rest.events⟩
        else
          ⟨false, stage.check.events⟩
      else
        runAll later

variable {stages : List (Stage Event)} {event : Event}

theorem runAll_passes_iff :
    (runAll stages).passes = true ↔
      ∀ stage ∈ stages,
        stage.requested = true → stage.check.passes = true := by
  induction stages with
  | nil =>
      simp [runAll]
  | cons stage later inductionHypothesis =>
      rw [runAll, List.forall_mem_cons]
      by_cases requested : stage.requested = true
      · by_cases passes : stage.check.passes = true
        · rw [if_pos requested, if_pos passes, inductionHypothesis]
          simp only [passes, implies_true, true_and]
        · rw [if_pos requested, if_neg passes]
          simp only [Bool.false_eq_true, requested, passes, forall_const,
            false_and]
      · rw [if_neg requested, inductionHypothesis]
        simp only [requested, Bool.false_eq_true, false_implies, true_and]

/-- Every event comes from a requested check. -/
theorem exists_stage_of_mem
    (member : event ∈ (runAll stages).events) :
    ∃ stage ∈ stages,
      stage.requested = true ∧ event ∈ stage.check.events := by
  induction stages with
  | nil =>
      cases member
  | cons stage later inductionHypothesis =>
      rw [runAll] at member
      by_cases requested : stage.requested = true
      · rw [if_pos requested] at member
        by_cases here : event ∈ stage.check.events
        · exact ⟨stage, List.mem_cons_self, requested, here⟩
        · by_cases passes : stage.check.passes = true
          · rw [if_pos passes] at member
            have rest := (List.mem_append.mp member).resolve_left here
            obtain ⟨other, inLater, found⟩ := inductionHypothesis rest
            exact ⟨other, List.mem_cons_of_mem _ inLater, found⟩
          · rw [if_neg passes] at member
            exact absurd member here
      · rw [if_neg requested] at member
        obtain ⟨other, inLater, found⟩ := inductionHypothesis member
        exact ⟨other, List.mem_cons_of_mem _ inLater, found⟩

/-- When all pass, every requested check was made. -/
theorem mem_events_of_passes
    (passes : (runAll stages).passes = true)
    {stage : Stage Event} (inStages : stage ∈ stages)
    (requested : stage.requested = true)
    (member : event ∈ stage.check.events) :
    event ∈ (runAll stages).events := by
  induction stages with
  | nil =>
      cases inStages
  | cons first later inductionHypothesis =>
      have allPass := runAll_passes_iff.mp passes
      rw [runAll] at passes ⊢
      by_cases firstRequested : first.requested = true
      · have firstPasses := allPass first List.mem_cons_self firstRequested
        rw [if_pos firstRequested, if_pos firstPasses] at passes ⊢
        rcases List.mem_cons.mp inStages with rfl | inLater
        · exact List.mem_append_left _ member
        · exact
            List.mem_append_right _ (inductionHypothesis passes inLater)
      · rw [if_neg firstRequested] at passes ⊢
        rcases List.mem_cons.mp inStages with rfl | inLater
        · exact absurd requested firstRequested
        · exact inductionHypothesis passes inLater

end Stage

end Library
