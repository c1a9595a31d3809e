import Mathlib.Algebra.Ring.Nat
import TagTemplate.Lock.Acquire

/-! Waiting for a lock, attempt by attempt: it comes to an end within the time allowed, and takes a
lock that becomes free in that time. -/

namespace TagTemplate.Lock

structure Pace where
  first : Nat
  longest : Nat
  first_pos : 0 < first
  first_le : first ≤ longest

def Pace.milliseconds : Pace := ⟨firstDelay.val, longestDelay, by decide, by decide⟩

/-- The attempts that are made once some time has been waited, by the pauses between them and by
their end. There is a time that remains only before the time allowed is over. -/
inductive Retries (pace : Pace) (held : Nat → Bool) (timeout : Nat) :
    (waited delay : Nat) → List Nat → Wait → Prop
  | acquired {waited delay} (free : held waited = false) :
      Retries pace held timeout waited delay [] (.acquired waited)
  | busy {waited delay} (taken : held waited = true) (late : timeout ≤ waited) :
      Retries pace held timeout waited delay [] (.busy waited)
  | pause {waited delay remaining pauses ending} (taken : held waited = true)
      (room : ¬ timeout ≤ waited) (left : waited + remaining = timeout)
      (later : Retries pace held timeout (waited + min delay remaining)
        (min (2 * delay) pace.longest) pauses ending) :
      Retries pace held timeout waited delay (min delay remaining :: pauses) ending

section
variable {pace : Pace} {held : Nat → Bool} {timeout waited delay : Nat} {pauses : List Nat}
  {ending : Wait}

theorem exists_retries (pace : Pace) (held : Nat → Bool) (timeout waited : Nat)
    (some : 0 < delay) :
    ∃ pauses ending, Retries pace held timeout waited delay pauses ending := by
  generalize lack : timeout - waited = lacking
  induction lacking using Nat.strongRecOn generalizing waited delay with
  | ind lacking ih =>
      cases taken : held waited with
      | false => exact ⟨[], _, .acquired taken⟩
      | true =>
          by_cases late : timeout ≤ waited
          · exact ⟨[], _, .busy taken late⟩
          · have longest := Nat.lt_of_lt_of_le pace.first_pos pace.first_le
            obtain ⟨pauses, ending, later⟩ :=
              ih (timeout - (waited + min delay (timeout - waited))) (by omega)
                (waited + min delay (timeout - waited))
                (show 0 < min (2 * delay) pace.longest by omega) rfl
            exact ⟨_, ending, .pause taken late (by omega) later⟩

theorem Retries.unique {others : List Nat} {other : Wait}
    (retries : Retries pace held timeout waited delay pauses ending)
    (retriesToo : Retries pace held timeout waited delay others other) :
    others = pauses ∧ other = ending := by
  induction retries generalizing others other with
  | acquired free =>
      cases retriesToo with
      | acquired _ => exact ⟨rfl, rfl⟩
      | busy taken _ => simp [free] at taken
      | pause taken _ _ _ => simp [free] at taken
  | busy taken late =>
      cases retriesToo with
      | acquired free => simp [taken] at free
      | busy _ _ => exact ⟨rfl, rfl⟩
      | pause _ room _ _ => exact absurd late room
  | pause taken room left _ ih =>
      cases retriesToo with
      | acquired free => simp [taken] at free
      | busy _ late => exact absurd late room
      | pause _ _ leftToo laterToo =>
          obtain rfl := Nat.add_left_cancel (leftToo.trans left.symm)
          obtain ⟨rfl, rfl⟩ := ih laterToo
          exact ⟨rfl, rfl⟩

theorem Retries.sum_le (retries : Retries pace held timeout waited delay pauses ending)
    (early : waited ≤ timeout) : waited + pauses.sum ≤ timeout := by
  induction retries with
  | acquired _ => exact early
  | busy _ _ => exact early
  | pause _ _ left _ ih =>
      have within := ih (by omega)
      rw [List.sum_cons]
      omega

theorem Retries.mem_bounds (retries : Retries pace held timeout waited delay pauses ending)
    (lower : pace.first ≤ delay) (upper : delay ≤ pace.longest) :
    ∀ pause ∈ pauses, 0 < pause ∧ pause ≤ pace.longest := by
  induction retries with
  | acquired _ => simp
  | busy _ _ => simp
  | pause _ room left _ ih =>
      have positive := pace.first_pos
      have order := pace.first_le
      intro pause member
      rcases List.mem_cons.mp member with rfl | later
      · omega
      · exact ih (by omega) (by omega) pause later

theorem Retries.length_le (retries : Retries pace held timeout waited delay pauses ending)
    (lower : pace.first ≤ delay) :
    pauses.length * pace.first ≤ (timeout - waited) + pace.first := by
  induction retries with
  | acquired _ => simp
  | busy _ _ => simp
  | @pause waited delay remaining pauses ending _ room left later ih =>
      have order := pace.first_le
      rw [List.length_cons, Nat.succ_mul]
      by_cases whole : delay ≤ remaining
      · have further := ih (by omega)
        omega
      · have stopped : waited + min delay remaining = timeout := by omega
        rw [stopped] at later
        cases later with
        | acquired _ => simp
        | busy _ _ => simp
        | pause _ room _ _ => exact absurd (Nat.le_refl _) room

theorem Retries.acquired_at {time : Nat}
    (retries : Retries pace held timeout waited delay pauses (.acquired time)) :
    time = waited + pauses.sum ∧ held time = false := by
  generalize last : Wait.acquired time = ending at retries
  induction retries with
  | acquired free =>
      cases last
      exact ⟨rfl, free⟩
  | busy _ _ => cases last
  | pause _ _ _ _ ih =>
      obtain ⟨reached, free⟩ := ih last
      rw [List.sum_cons]
      exact ⟨by omega, free⟩

theorem Retries.busy_at {time : Nat}
    (retries : Retries pace held timeout waited delay pauses (.busy time))
    (early : waited ≤ timeout) :
    time = timeout ∧ waited + pauses.sum = timeout ∧ held timeout = true := by
  generalize last : Wait.busy time = ending at retries
  induction retries with
  | acquired _ => cases last
  | busy taken late =>
      cases last
      obtain rfl := Nat.le_antisymm early late
      exact ⟨rfl, rfl, taken⟩
  | pause _ _ left _ ih =>
      obtain ⟨reached, total, taken⟩ := ih (by omega) last
      rw [List.sum_cons]
      exact ⟨reached, by omega, taken⟩

theorem Retries.acquired_soon {moment time : Nat}
    (retries : Retries pace held timeout waited delay pauses (.acquired time))
    (upper : delay ≤ pace.longest)
    (free : ∀ later, moment ≤ later → later ≤ timeout → held later = false) :
    time = waited ∨ time < moment + pace.longest := by
  generalize last : Wait.acquired time = ending at retries
  induction retries with
  | acquired _ =>
      cases last
      exact .inl rfl
  | busy _ _ => cases last
  | @pause waited delay remaining pauses ending taken room left _ ih =>
      have before : waited < moment := by
        rcases Nat.lt_or_ge waited moment with before | late
        · exact before
        · have freed := free waited late (by omega)
          simp [taken] at freed
      rcases ih (by omega) last with reached | soon
      · right
        omega
      · exact .inr soon

end

structure Timely (pace : Pace) (held : Nat → Bool) (timeout : Nat) (pauses : List Nat)
    (ending : Wait) : Prop where
  total : pauses.sum ≤ timeout
  each : ∀ pause ∈ pauses, 0 < pause ∧ pause ≤ pace.longest
  few : pauses.length * pace.first ≤ timeout + pace.first
  acquired : ∀ waited, ending = .acquired waited → waited = pauses.sum ∧ held waited = false
  busy : ∀ waited, ending = .busy waited →
    waited = timeout ∧ pauses.sum = timeout ∧ held timeout = true
  release : ∀ moment ≤ timeout,
    (∀ time, moment ≤ time → time ≤ timeout → held time = false) →
      ∃ waited, ending = .acquired waited ∧ waited < moment + pace.longest

theorem Retries.timely {pace : Pace} {held : Nat → Bool} {timeout : Nat} {pauses : List Nat}
    {ending : Wait} (retries : Retries pace held timeout 0 pace.first pauses ending) :
    Timely pace held timeout pauses ending where
  total := by simpa using retries.sum_le (Nat.zero_le _)
  each := retries.mem_bounds (Nat.le_refl _) pace.first_le
  few := by simpa using retries.length_le (Nat.le_refl _)
  acquired := by
    rintro waited rfl
    simpa using retries.acquired_at
  busy := by
    rintro waited rfl
    simpa using retries.busy_at (Nat.zero_le _)
  release := by
    intro moment early free
    cases ending with
    | busy waited =>
        obtain ⟨-, -, taken⟩ := retries.busy_at (Nat.zero_le _)
        have freed := free timeout early (Nat.le_refl _)
        simp [taken] at freed
    | acquired waited =>
        refine ⟨waited, rfl, ?_⟩
        have longest := Nat.lt_of_lt_of_le pace.first_pos pace.first_le
        rcases retries.acquired_soon pace.first_le free with rfl | soon
        · omega
        · exact soon

theorem retries_wait (held : Nat → Bool) (timeout waited : Nat) (delay : Delay) :
    ∃ pauses, Retries .milliseconds held timeout waited delay.val pauses
      (wait held timeout waited delay) := by
  fun_induction wait held timeout waited delay with
  | case1 waited delay taken late =>
      have none : timeout ≤ waited := by
        unfold pause? at late
        split at late
        · assumption
        · simp at late
      exact ⟨[], .busy taken none⟩
  | case2 waited delay taken pause room bounds ih =>
      obtain ⟨pauses, later⟩ := ih
      unfold pause? at room
      split at room
      · simp at room
      · next left =>
          obtain rfl := Option.some.inj room
          exact ⟨_, .pause taken left (by omega) later⟩
  | case3 waited delay free => exact ⟨[], .acquired (by simpa using free)⟩

/-- Whatever the times are at which others hold a lock, the attempts to take it come to one end. The
pauses between them fit into the time allowed; a lock is given up only when it is still held at the
end of that time, and is taken if it becomes free before. -/
theorem acquireAmid_timely :
    (∀ (pace : Pace) (held : Nat → Bool) (timeout : Nat), ∃ pauses ending,
      (∀ others other, Retries pace held timeout 0 pace.first others other ↔
        others = pauses ∧ other = ending) ∧
      Timely pace held timeout pauses ending) ∧
    ∀ (others : Nat → List Location) (world : World) (path : Path) (purpose : String)
      (timeout : Nat) (ready opened : FileTree) (file : Location),
      prepare path world.files = (none, ready) → openFile path ready = .ok (file, opened) →
      let held := fun time => (others time).contains file
      let (answer, after) := acquireAmid others world path purpose timeout
      ∃ pauses ending, Retries .milliseconds held timeout 0 firstDelay.val pauses ending ∧
        after.now = world.now + pauses.sum ∧
        answer = match ending with
          | .acquired _ => .ok file
          | .busy waited => .error (.busy path purpose waited) := by
  constructor
  · intro pace held timeout
    obtain ⟨pauses, ending, retries⟩ := exists_retries pace held timeout 0 pace.first_pos
    refine ⟨pauses, ending, fun others other => ⟨retries.unique, ?_⟩, retries.timely⟩
    rintro ⟨rfl, rfl⟩
    exact retries
  · intro others world path purpose timeout ready opened file prepared opens held
    obtain ⟨pauses, retries⟩ := retries_wait held timeout 0 firstDelay
    have timely : Timely .milliseconds held timeout pauses (wait held timeout 0 firstDelay) :=
      Retries.timely retries
    unfold acquireAmid
    simp only [prepared, opens]
    cases ending : wait held timeout 0 firstDelay with
    | acquired waited =>
        obtain ⟨total, -⟩ := timely.acquired waited ending
        exact ⟨pauses, .acquired waited, ending ▸ retries, by rw [← total]; rfl, rfl⟩
    | busy waited =>
        obtain ⟨late, total, -⟩ := timely.busy waited ending
        exact ⟨pauses, .busy waited, ending ▸ retries, by rw [total, ← late]; rfl, rfl⟩

theorem acquireAmid_timely_released :
    let world : World := ⟨⟨[], []⟩, [], 0⟩
    let path : Path := ⟨false, [['l']]⟩
    let file : Location := [['l']]
    let opened : FileTree := world.files.put file (.file ByteArray.empty false)
    let others : Nat → List Location := fun time => if time < 25 then [file] else []
    (prepare path world.files = (none, world.files) ∧
      openFile path world.files = .ok (file, opened)) ∧
      (acquireAmid others world path "write" 40).1 = .ok file ∧
      (acquireAmid others world path "write" 20).1 = .error (.busy path "write" 20) := by
  intro world path file opened others
  have prepared : prepare path world.files = (none, world.files) := rfl
  have opens : openFile path world.files = .ok (file, opened) := rfl
  obtain ⟨loop, program⟩ := acquireAmid_timely
  have answered (timeout : Nat) : ∃ pauses ending,
      Timely .milliseconds (fun time => (others time).contains file) timeout pauses ending ∧
        (acquireAmid others world path "write" timeout).1 = match ending with
          | .acquired _ => .ok file
          | .busy waited => .error (.busy path "write" waited) := by
    obtain ⟨pauses, ending, only, timely⟩ :=
      loop .milliseconds (fun time => (others time).contains file) timeout
    obtain ⟨pausesToo, endingToo, retries, -, answer⟩ :=
      program others world path "write" timeout _ _ file prepared opens
    obtain ⟨rfl, rfl⟩ := (only _ _).mp retries
    exact ⟨_, _, timely, answer⟩
  refine ⟨⟨prepared, opens⟩, ?_, ?_⟩
  · obtain ⟨pauses, ending, timely, answer⟩ := answered 40
    have free : ∀ time, 25 ≤ time → time ≤ 40 → (others time).contains file = false := by
      intro time late _
      simp only [others, if_neg (Nat.not_lt_of_le late)]
      rfl
    obtain ⟨waited, rfl, -⟩ := timely.release 25 (by omega) free
    exact answer
  · obtain ⟨pauses, ending, timely, answer⟩ := answered 20
    cases ending with
    | acquired waited =>
        obtain ⟨total, free⟩ := timely.acquired waited rfl
        have early : waited < 25 := by
          have within := timely.total
          omega
        simp [others, if_pos early] at free
    | busy waited =>
        obtain ⟨rfl, -, -⟩ := timely.busy waited rfl
        exact answer

end TagTemplate.Lock
