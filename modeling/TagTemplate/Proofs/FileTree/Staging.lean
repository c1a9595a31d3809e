import TagTemplate.Proofs.FileTree.Resolution
import TagTemplate.Proofs.Path

/-! A new file under a temporary name, and putting it in the place of another one. -/

namespace TagTemplate.FileTree

structure Staged (plain staged : FileTree) (temporary : Location) (content : ByteArray) : Prop where
  here : staged.here = plain.here
  free : plain.node? temporary = none
  stored : staged.node? temporary = some (.file content false)
  others : ∀ {location}, location ≠ temporary → staged.node? location = plain.node? location

structure Replaced (plain replaced : FileTree) (target : Location) (content : ByteArray) :
    Prop where
  here : replaced.here = plain.here
  stored : replaced.node? target = some (.file content false)
  others : ∀ {location}, location ≠ target → replaced.node? location = plain.node? location

theorem makeTemporary_staged {plain staged : FileTree} {path : Path} {temporary : Location}
    (ok : plain.makeTemporary path = .ok (temporary, staged)) :
    Staged plain staged temporary ByteArray.empty := by
  obtain ⟨free, rfl⟩ := makeTemporary_fresh ok
  have below := ne_nil_of_free free
  refine ⟨rfl, free, ?_, ?_⟩
  · simp [node?_put _ _ _ _ below]
  · intro location other
    rw [node?_put _ _ _ _ below, if_neg (Ne.symm other)]

theorem Staged.fill {plain staged : FileTree} {temporary : Location} {content : ByteArray}
    (held : Staged plain staged temporary content) (new : ByteArray) :
    Staged plain (staged.put temporary (.file new false)) temporary new := by
  have below := ne_nil_of_free held.free
  refine ⟨held.here, held.free, ?_, ?_⟩
  · simp [node?_put _ _ _ _ below]
  · intro location other
    rw [node?_put _ _ _ _ below, if_neg (Ne.symm other), held.others other]

theorem Staged.node?_erase {plain staged : FileTree} {temporary : Location} {content : ByteArray}
    (held : Staged plain staged temporary content) (location : Location) :
    (staged.erase temporary).node? location = plain.node? location := by
  rw [FileTree.node?_erase _ _ _ (ne_nil_of_free held.free)]
  split
  · next same => exact same ▸ held.free.symm
  · next other => exact held.others (Ne.symm other)

section
variable {plain files : FileTree} {temporary : Location} {content : ByteArray}

theorem Staged.grows (staged : Staged plain files temporary content) :
    Grows (fun location _ => location = temporary) plain files where
  here := staged.here
  kept := by
    intro location node present
    rw [staged.others, present]
    rintro rfl
    simp [staged.free] at present
  fresh := by
    intro location node absent present
    apply Decidable.byContradiction
    intro other
    rw [staged.others other, absent] at present
    cases present

theorem Staged.erased {allowed} (staged : Staged plain files temporary content) :
    Grows allowed plain (files.erase temporary) :=
  .of_same staged.here fun location => staged.node?_erase location

theorem Staged.raise {raised : FileTree} (staged : Staged plain files temporary content)
    (more : files.Raised raised) :
    plain.Raised (raised.erase temporary) ∧
      Staged (raised.erase temporary) raised temporary content := by
  have below := ne_nil_of_free staged.free
  have others : ∀ {location}, location ≠ temporary →
      (raised.erase temporary).node? location = raised.node? location := by
    intro location other
    rw [FileTree.node?_erase _ _ _ below, if_neg (Ne.symm other)]
  have gone : (raised.erase temporary).node? temporary = none := by
    rw [FileTree.node?_erase _ _ _ below, if_pos rfl]
  constructor
  · refine ⟨more.here.trans staged.here, ?_, ?_⟩
    · intro location node present
      have other : location ≠ temporary := by
        rintro rfl
        simp [staged.free] at present
      rw [others other]
      exact more.kept ((staged.others other).trans present)
    · intro location node absent present
      have other : location ≠ temporary := by
        rintro rfl
        simp [gone] at present
      rw [others other] at present
      exact more.fresh ((staged.others other).trans absent) present
  · exact ⟨rfl, gone, more.kept staged.stored, fun other => (others other).symm⟩

end

/-- What a temporary file does to the end of a path: it may be found there where nothing was. -/
inductive Uncovered : Place → Place → Prop
  | same (place) : Uncovered place place
  | gone (directory name content executable) :
      Uncovered (.found (directory ++ [name]) (.file content executable)) (.free directory name)

theorem Staged.place {plain staged : FileTree} {temporary : Location} {content : ByteArray}
    {pursuit : Pursuit} {path : Path} {place : Place}
    (held : Staged plain staged temporary content)
    (reached : staged.place pursuit path = .ok place) :
    ∃ other, plain.place pursuit path = .ok other ∧ Uncovered place other := by
  let Holds (result : Except IoError Place) : Prop :=
    ∃ other, result = .ok other ∧ Uncovered place other
  have stays : Holds (.ok place) := ⟨place, rfl, .same place⟩
  have along : Along staged plain pursuit pursuit place Holds := by
    refine ⟨id, fun _ => stays, ?_⟩
    intro limit directory segment rest onward onwardToo _ _ _ goes jumps entered
    by_cases new : directory ++ [segment] = temporary
    · simp only [enter, new, held.stored] at entered
      simp only [enter, new, held.free]
      split at entered
      · next last =>
          cases entered
          obtain rfl : rest = [] := by simpa using last
          exact ⟨.free directory segment, by simp, new ▸ .gone directory segment _ _⟩
      · simp at entered
    · exact enter_congr Holds (held.others new) stays goes jumps entered
  exact along.place held.here.symm reached

theorem Staged.renameTarget {plain staged : FileTree} {temporary target : Location}
    {content : ByteArray} {path : Path} (held : Staged plain staged temporary content)
    (ok : staged.renameTarget path = .ok target) : plain.renameTarget path = .ok target := by
  unfold FileTree.renameTarget at ok ⊢
  split at ok
  · simp at ok
  · next place reached =>
      obtain ⟨other, plainly, uncovered⟩ := held.place reached
      rw [plainly]
      simp only at ok ⊢
      cases uncovered with
      | same => exact ok
      | gone directory name => exact ok

theorem renameTarget_ne_nil {tree : FileTree} {path : Path} {target : Location}
    (ok : tree.renameTarget path = .ok target) : target ≠ [] := by
  unfold renameTarget at ok
  split at ok
  · simp at ok
  next place reached =>
  split at ok
  · simp at ok
  split at ok
  · simp at ok
  split at ok
  · cases ok
    simp
  · simp at ok
  · next location node file =>
      cases ok
      rintro rfl
      have root : node = .directory := by
        rcases place_ends reached with same | stored
        · exact same
        · simpa [node?, eq_comm] using stored
      exact file root

theorem rename_of_target {tree : FileTree} {path : Path} {target : Location} (source : Location)
    (aimed : tree.renameTarget path = .ok target) :
    ∃ renamed, tree.rename source path = .ok renamed := by
  rw [FileTree.rename, aimed]
  exact ⟨_, rfl⟩

theorem Staged.rename {plain staged renamed : FileTree} {temporary : Location}
    {content : ByteArray} {path : Path} (held : Staged plain staged temporary content)
    (ok : staged.rename temporary path = .ok renamed) :
    ∃ target, plain.renameTarget path = .ok target ∧ Replaced plain renamed target content := by
  unfold FileTree.rename at ok
  cases aimed : staged.renameTarget path with
  | error cause => simp [aimed, Except.map] at ok
  | ok target =>
      simp only [aimed, Except.map, held.stored, Except.ok.injEq] at ok
      subst ok
      have below := renameTarget_ne_nil aimed
      refine ⟨target, held.renameTarget aimed, held.here, ?_, ?_⟩
      · simp [node?_put _ _ _ _ below]
      · intro location other
        rw [node?_put _ _ _ _ below, if_neg (Ne.symm other), held.node?_erase]

end TagTemplate.FileTree
