import Mathlib.Logic.Function.Basic
import TagTemplate.Proofs.Precompile.Holding
import TagTemplate.Proofs.Precompile.Ready

/-! Runs that share a world and write the same output, in any order of their steps. -/

namespace TagTemplate

open FileTree

structure Ordered (output : Path) (before : FileTree) (hands : Nat → Hand) (world : World)
    (latest : Option String) (plain : FileTree) (opened : Option Location) : Prop where
  opens : ∀ {index file}, (hands index).opened? = some file → opened = some file
  locked : ∀ {index lock}, (hands index).lock? = some lock → lock ∈ world.locks
  single : ∀ {index other lock lockToo}, (hands index).lock? = some lock →
    (hands other).lock? = some lockToo → index = other
  ready : Ready output before plain opened latest
  bare : (∀ index, (hands index).temporary? = none) → world.files = plain
  staged : ∀ {index lock temporary content}, hands index = .staging lock temporary content →
    Staged plain world.files temporary content ∧
      (latest = none → Provisional output before temporary)

section
variable {output : Path} {before plain : FileTree} {hands : Nat → Hand} {world after : World}
  {latest : Option String} {opened : Option Location} {index : Nat} {hand : Hand}

theorem Hand.opened?_of_lock? {lock : Location} (holds : hand.lock? = some lock) :
    hand.opened? = some lock := by
  cases hand <;> simp_all [lock?, opened?]

theorem Hand.lock?_of_temporary? {temporary : Location} (owns : hand.temporary? = some temporary) :
    ∃ lock, hand.lock? = some lock := by
  cases hand <;> simp_all [lock?, temporary?]

theorem Ordered.bare_or_staged (ordered : Ordered output before hands world latest plain opened) :
    ((∀ index, (hands index).temporary? = none) ∧ world.files = plain) ∨
      ∃ index lock temporary content, hands index = .staging lock temporary content ∧
        Staged plain world.files temporary content ∧
          (latest = none → Provisional output before temporary) := by
  by_cases none : ∀ index, (hands index).temporary? = none
  · exact Or.inl ⟨none, ordered.bare none⟩
  · obtain ⟨index, some⟩ := not_forall.mp none
    cases shape : hands index with
    | staging lock temporary content =>
        exact Or.inr ⟨index, lock, temporary, content, shape, ordered.staged shape⟩
    | _ => simp [shape, Hand.temporary?] at some

theorem Ordered.grows (ordered : Ordered output before hands world latest plain opened) :
    ∃ allowed, Grows allowed plain world.files := by
  obtain ⟨_, bare⟩ | ⟨_, _, _, _, _, staged, _⟩ := ordered.bare_or_staged
  · rw [bare]
    exact ⟨fun _ _ => False, Grows.refl plain⟩
  · exact ⟨_, staged.grows⟩

theorem Hand.temporary?_of_free (free : hand.lock? = none) : hand.temporary? = none := by
  cases hand <;> simp_all [lock?, temporary?]

theorem Ordered.alone (ordered : Ordered output before hands world latest plain opened)
    {lock : Location} (holds : (hands index).lock? = some lock) {other : Nat}
    (different : other ≠ index) : (hands other).lock? = none := by
  cases lockToo : (hands other).lock? with
  | none => rfl
  | some held => exact absurd (ordered.single lockToo holds) different

theorem Ordered.rest (ordered : Ordered output before hands world latest plain opened)
    (files : after.files = world.files) (locks : after.locks = world.locks) :
    Ordered output before hands after latest plain opened where
  opens := ordered.opens
  locked holds := locks ▸ ordered.locked holds
  single := ordered.single
  ready := ordered.ready
  bare none := files.trans (ordered.bare none)
  staged shape := files ▸ ordered.staged shape

theorem Ordered.raise (ordered : Ordered output before hands world latest plain opened)
    (raised : world.files.Raised after.files) (locks : after.locks = world.locks) :
    ∃ plain opened, Ordered output before hands after latest plain opened := by
  obtain ⟨none, bare⟩ | ⟨index, lock, temporary, content, shape, staged, first⟩ :=
    ordered.bare_or_staged
  · refine ⟨after.files, opened, ordered.opens, fun holds => locks ▸ ordered.locked holds,
      ordered.single, ordered.ready.raise (bare ▸ raised), fun _ => rfl, ?_⟩
    intro index lock temporary content shape
    have owns := none index
    simp [shape, Hand.temporary?] at owns
  · obtain ⟨more, stagedToo⟩ := staged.raise raised
    refine ⟨_, opened, ordered.opens, fun holds => locks ▸ ordered.locked holds,
      ordered.single, ordered.ready.raise more, fun none => ?_, ?_⟩
    · have owns := none index
      simp [shape, Hand.temporary?] at owns
    · intro other lockToo temporaryToo contentToo shapeToo
      have only : other = index := ordered.single (by rw [shapeToo]; rfl) (by rw [shape]; rfl)
      subst only
      cases shape.symm.trans shapeToo
      exact ⟨stagedToo, first⟩

theorem Ordered.update {now : Option String} {plainToo : FileTree} {openedToo : Option Location}
    (ordered : Ordered output before hands world latest plain opened) (index : Nat)
    (kept : ∀ {file}, opened = some file → openedToo = some file)
    (opens : ∀ {file}, hand.opened? = some file → openedToo = some file)
    (locked : ∀ {lock}, hand.lock? = some lock → lock ∈ after.locks)
    (lockedToo : ∀ {other lock}, other ≠ index → (hands other).lock? = some lock →
      lock ∈ after.locks)
    (single : ∀ {other lock lockToo}, other ≠ index → hand.lock? = some lock →
      (hands other).lock? ≠ some lockToo)
    (ready : Ready output before plainToo openedToo now)
    (bare : hand.temporary? = none → (∀ other, other ≠ index → (hands other).temporary? = none) →
      after.files = plainToo)
    (staged : ∀ {lock temporary content}, hand = .staging lock temporary content →
      Staged plainToo after.files temporary content ∧
        (now = none → Provisional output before temporary))
    (stagedToo : ∀ {other lock temporary content}, other ≠ index →
      hands other = .staging lock temporary content →
      Staged plainToo after.files temporary content ∧
        (now = none → Provisional output before temporary)) :
    Ordered output before (Function.update hands index hand) after now plainToo openedToo where
  opens := by
    intro other file has
    by_cases here : other = index
    · rw [here, Function.update_self] at has
      exact opens has
    · rw [Function.update_of_ne here] at has
      exact kept (ordered.opens has)
  locked := by
    intro other lock holds
    by_cases here : other = index
    · rw [here, Function.update_self] at holds
      exact locked holds
    · rw [Function.update_of_ne here] at holds
      exact lockedToo here holds
  single := by
    intro first second lock lockToo holds holdsToo
    by_cases here : first = index
    · by_cases there : second = index
      · rw [here, there]
      · rw [here, Function.update_self] at holds
        rw [Function.update_of_ne there] at holdsToo
        exact absurd holdsToo (single there holds)
    · rw [Function.update_of_ne here] at holds
      by_cases there : second = index
      · rw [there, Function.update_self] at holdsToo
        exact absurd holds (single here holdsToo)
      · rw [Function.update_of_ne there] at holdsToo
        exact ordered.single holds holdsToo
  ready := ready
  bare := by
    intro none
    refine bare ?_ fun other different => ?_
    · have here := none index
      rwa [Function.update_self] at here
    · have there := none other
      rwa [Function.update_of_ne different] at there
  staged := by
    intro other lock temporary content shape
    by_cases here : other = index
    · rw [here, Function.update_self] at shape
      exact staged shape
    · rw [Function.update_of_ne here] at shape
      exact stagedToo here shape

theorem Ordered.light (ordered : Ordered output before hands world latest plain opened)
    (idle : (hands index).temporary? = none) (light : hand.lock? = none)
    (opens : ∀ {file}, hand.opened? = some file → opened = some file) :
    Ordered output before (Function.update hands index hand) world latest plain opened := by
  refine ordered.update index id opens (by simp [light]) (fun _ holds => ordered.locked holds)
    (by simp [light]) ordered.ready (fun _ none => ordered.bare fun other => ?_) ?_
    (fun _ shape => ordered.staged shape)
  · by_cases here : other = index
    · rw [here, idle]
    · exact none other here
  · rintro lock temporary content rfl
    simp [Hand.lock?] at light

theorem Ordered.go {lock : Location} {now : Option String} {plainToo : FileTree}
    (ordered : Ordered output before hands world latest plain opened)
    (holds : (hands index).lock? = some lock) (holdsToo : hand.lock? = some lock)
    (locks : after.locks = world.locks) (ready : Ready output before plainToo opened now)
    (bare : hand.temporary? = none → after.files = plainToo)
    (staged : ∀ {lock temporary content}, hand = .staging lock temporary content →
      Staged plainToo after.files temporary content ∧
        (now = none → Provisional output before temporary)) :
    Ordered output before (Function.update hands index hand) after now plainToo opened := by
  have others : ∀ {other}, other ≠ index → (hands other).lock? = none := ordered.alone holds
  refine ordered.update index id ?_ ?_ ?_ ?_ ready (fun none _ => bare none) staged ?_
  · intro file has
    rw [Hand.opened?_of_lock? holdsToo] at has
    exact has ▸ ordered.opens (Hand.opened?_of_lock? holds)
  · intro held has
    rw [holdsToo] at has
    cases has
    exact locks ▸ ordered.locked holds
  · intro other held different has
    simp [others different] at has
  · intro other held heldToo different _ has
    simp [others different] at has
  · intro other held temporary content different shape
    have none := others different
    simp [shape, Hand.lock?] at none

theorem Ordered.open {file : Location}
    (ordered : Ordered output before hands world latest plain none)
    (ok : world.files.openFile (Lock.pathFor output) = .ok (file, after.files)) :
    Ordered output before hands after latest after.files (some file) := by
  have unopened : ∀ index, (hands index).opened? = none := by
    intro index
    cases has : (hands index).opened? with
    | none => rfl
    | some other => cases ordered.opens has
  have unlocked : ∀ index, (hands index).lock? = none := by
    intro index
    cases holds : (hands index).lock? with
    | none => rfl
    | some lock =>
        have has := Hand.opened?_of_lock? holds
        simp [unopened index] at has
  have unstaged : ∀ index, (hands index).temporary? = none :=
    fun index => Hand.temporary?_of_free (unlocked index)
  rw [ordered.bare unstaged] at ok
  refine ⟨?_, ?_, ordered.single, ordered.ready.open ok, fun _ => rfl, ?_⟩
  · intro index other has
    simp [unopened index] at has
  · intro index lock holds
    simp [unlocked index] at holds
  · intro index lock temporary content shape
    have none := unstaged index
    simp [shape, Hand.temporary?] at none

theorem Ordered.move {replaced : Option String} (separate : Separate output before)
    (ordered : Ordered output before hands world latest plain opened)
    (moves : Moves output world after (hands index) hand replaced) :
    ∃ plain opened, Ordered output before (Function.update hands index hand) after
      (replaced.or latest) plain opened := by
  -- The cases are about the hand alone; the equation tells whose it is.
  generalize same : hands index = held at moves
  cases moves with
  | rests _ files locks =>
      rw [← same, Function.update_eq_self]
      exact ⟨plain, opened, ordered.rest files locks⟩
  | raises raised locks =>
      rw [← same, Function.update_eq_self]
      exact ordered.raise raised locks
  | @opens file ok locks =>
      have idle : (hands index).temporary? = none := by rw [same]; rfl
      cases opened with
      | none => exact ⟨_, _, (ordered.open ok).light idle rfl (by simp [Hand.opened?])⟩
      | some lock =>
          obtain ⟨allowed, grows⟩ := ordered.grows
          have leads := grows.opens ordered.ready.opens
          rw [leads.openFile] at ok
          simp only [Except.ok.injEq, Prod.mk.injEq] at ok
          obtain ⟨rfl, files⟩ := ok
          exact ⟨_, _, (ordered.rest files.symm locks).light idle rfl (by simp [Hand.opened?])⟩
  | yields file files locks =>
      have idle : (hands index).temporary? = none := by rw [same]; rfl
      exact ⟨_, _, (ordered.rest files locks).light idle rfl (by simp [Hand.opened?])⟩
  | @takes file free files locks =>
      have first : opened = some file := ordered.opens (by rw [same]; rfl)
      have unheld : ∀ other, (hands other).lock? = none := by
        intro other
        cases holds : (hands other).lock? with
        | none => rfl
        | some lock =>
            have opens := ordered.opens (Hand.opened?_of_lock? holds)
            rw [first] at opens
            cases opens
            have locked := ordered.locked holds
            simp [World.isLocked, locked] at free
      have unstaged : ∀ other, (hands other).temporary? = none :=
        fun other => Hand.temporary?_of_free (unheld other)
      refine ⟨plain, opened, ordered.update index id (by simp [Hand.opened?, first])
        (by simp [Hand.lock?, locks]) (by simp [unheld]) (by simp [unheld]) ordered.ready
        (fun _ _ => files.trans (ordered.bare unstaged)) (by simp) ?_⟩
      intro other lock temporary content _ shape
      have none := unstaged other
      simp [shape, Hand.temporary?] at none
  | @stages lock directory temporary ok locks =>
      have holds : (hands index).lock? = some lock := by rw [same]; rfl
      have bare : world.files = plain := by
        refine ordered.bare fun other => ?_
        by_cases here : other = index
        · rw [here, same]
          rfl
        · exact Hand.temporary?_of_free (ordered.alone holds here)
      rw [bare] at ok
      have first : opened = some lock := ordered.opens (by rw [same]; rfl)
      have ready := first ▸ ordered.ready
      refine ⟨plain, opened,
        ordered.go holds rfl locks ordered.ready (by simp [Hand.temporary?]) ?_⟩
      rintro held temporaryToo content shape
      cases shape
      refine ⟨makeTemporary_staged ok, fun none => ?_⟩
      rw [Option.none_or] at none
      subst none
      cases ready with
      | opened prepared _ leads => exact ⟨plain, lock, directory, _, prepared, leads, ok⟩
  | @fills lock temporary old new files locks =>
      have holds : (hands index).lock? = some lock := by rw [same]; rfl
      obtain ⟨staged, first⟩ := ordered.staged same
      refine ⟨plain, opened,
        ordered.go holds rfl locks ordered.ready (by simp [Hand.temporary?]) ?_⟩
      rintro held temporaryToo content shape
      cases shape
      exact ⟨files ▸ staged.fill new, first⟩
  | @drops lock temporary content files locks =>
      have holds : (hands index).lock? = some lock := by rw [same]; rfl
      obtain ⟨staged, _⟩ := ordered.staged same
      exact ⟨_, opened, ordered.go holds rfl locks (ordered.ready.raise staged.erased)
        (fun _ => files) (by simp)⟩
  | @replaces lock temporary text ok locks =>
      have holds : (hands index).lock? = some lock := by rw [same]; rfl
      obtain ⟨staged, _⟩ := ordered.staged same
      obtain ⟨target, aimed, held⟩ := staged.rename ok
      have first : opened = some lock := ordered.opens (by rw [same]; rfl)
      subst first
      exact ⟨after.files, some lock, ordered.go holds rfl locks
        (ordered.ready.replace separate aimed held) (fun _ => rfl) (by simp)⟩
  | releases lock files locks =>
      have holds : (hands index).lock? = some lock := by rw [same]; rfl
      have others : ∀ {other}, other ≠ index → (hands other).lock? = none := ordered.alone holds
      refine ⟨plain, opened, ordered.update index id (by simp [Hand.opened?])
        (by simp [Hand.lock?]) (fun different holds => ?_) (by simp [Hand.lock?]) ordered.ready
        (fun _ none => files.trans (ordered.bare fun other => ?_)) (by simp)
        (fun _ shape => files ▸ ordered.staged shape)⟩
      · simp [others different] at holds
      · by_cases here : other = index
        · rw [here, same]
          rfl
        · exact none other here

end

end TagTemplate
