import TagTemplate.Proofs.Precompile.Ending

/-! The course of a run: where it is after each of its steps, and what its compiler is handed. -/

namespace TagTemplate.Run

section
variable (compiler : Compiler)

theorem advance_of_ended (around : Nat → Interference) (steps : Nat) {run : Run} {world : World}
    (ended : run.outcome?.isSome) : advance compiler around steps run world = (run, world) := by
  cases steps with
  | zero => rfl
  | succ steps => rw [advance, if_pos ended]

theorem advance_succ (around : Nat → Interference) (steps : Nat) (run : Run) (world : World) :
    advance compiler around (steps + 1) run world =
      if (advance compiler around steps run world).1.outcome?.isSome then
        advance compiler around steps run world
      else
        (advance compiler around steps run world).1.step compiler (around steps)
          (advance compiler around steps run world).2 := by
  induction steps generalizing around run world with
  | zero => rfl
  | succ steps ih =>
      rw [advance]
      by_cases ended : run.outcome?.isSome
      · rw [if_pos ended, advance_of_ended compiler around (steps + 1) ended, if_pos ended]
      · rw [if_neg ended]
        have same : advance compiler around (steps + 1) run world =
            advance compiler (fun index => around (index + 1)) steps
              (run.step compiler (around 0) world).1 (run.step compiler (around 0) world).2 := by
          rw [advance, if_neg ended]
        rw [same]
        exact ih (fun index => around (index + 1)) _ _

theorem advance_one (around : Nat → Interference) {run : Run} (world : World)
    (begins : run.phase = .discovering) :
    advance compiler around 1 run world = run.step compiler (around 0) world := by
  have going : ¬ run.outcome?.isSome := by simp [outcome?, begins]
  rw [advance, if_neg going]
  rfl

def duration (around : Nat → Interference) (run : Run) (world : World) : Nat :=
  (run.step compiler (around 0) world).1.remaining (run.step compiler (around 0) world).2.now + 1

theorem complete_eq_advance (around : Nat → Interference) {run : Run} (world : World)
    (begins : run.phase = .discovering) :
    complete compiler around run world =
      advance compiler around (duration compiler around run world) run world := by
  have going : ¬ run.outcome?.isSome := by simp [outcome?, begins]
  rw [duration, advance, if_neg going]
  rfl

theorem advance_rests (around : Nat → Interference) {run : Run} {world : World} {steps : Nat}
    (ended : (advance compiler around steps run world).1.outcome?.isSome) (more : Nat) :
    advance compiler around (steps + more) run world = advance compiler around steps run world := by
  induction more with
  | zero => rfl
  | succ more ih => rw [← Nat.add_assoc, advance_succ, ih, if_pos ended]

theorem advance_keeps_from (Holds : Run → World → Prop) (around : Nat → Interference) {run : Run}
    {world : World} {count : Nat}
    (keeps : ∀ index run world, Holds run world →
      Holds (run.step compiler (around index) world).1 (run.step compiler (around index) world).2)
    (holds : Holds (advance compiler around count run world).1
      (advance compiler around count run world).2) (more : Nat) :
    Holds (advance compiler around (count + more) run world).1
      (advance compiler around (count + more) run world).2 := by
  induction more with
  | zero => exact holds
  | succ more ih =>
      rw [← Nat.add_assoc, advance_succ]
      split
      · exact ih
      · exact keeps _ _ _ ih

theorem complete_after (around : Nat → Interference) {run : Run} (world : World)
    (begins : run.phase = .discovering) {count : Nat}
    (going : (advance compiler around count run world).1.outcome? = none) :
    ∃ more, complete compiler around run world =
      advance compiler around (count + 1 + more) run world := by
  have ended := complete_ended compiler around world begins
  rw [complete_eq_advance compiler around world begins] at ended ⊢
  have later : count + 1 ≤ duration compiler around run world := by
    apply Nat.lt_of_not_le
    intro before
    obtain ⟨more, rfl⟩ := Nat.exists_eq_add_of_le before
    rw [advance_rests compiler around ended more] at going
    simp [going] at ended
  obtain ⟨more, length⟩ := Nat.exists_eq_add_of_le later
  exact ⟨more, by rw [length]⟩

end

end TagTemplate.Run
