import TagTemplate.Discovery

/-! What can get in the way of a discovery, and that nothing else decides on what it finds. -/

namespace TagTemplate

namespace Discovery

inductive Refuses (obstacles : Obstacles) : Failure → Prop
  | cancelled {look} (seen : obstacles.cancelled look = true) :
      Refuses obstacles (.cancelled .duringDiscovery)
  | duplicate (name) : Refuses obstacles (.duplicateTemplate name)
  | missing (name path) : Refuses obstacles (.templateNotFound name path)
  | unreadable (path cause) : Refuses obstacles (.templateUnreadable path cause)
  | rootless (root) : Refuses obstacles (.rootNotFound root)

theorem readUnit_unobstructed {obstacles : Obstacles} {files : FileTree} {count : Nat}
    {candidate : Candidate} {template : TemplateUnit}
    (ok : readUnit obstacles files count candidate = .ok template) (other : Nat) :
    readUnit .none files other candidate = .ok template := by
  unfold readUnit at ok ⊢
  cases blocked : obstacles.unreadable count with
  | some cause => simp [blocked] at ok
  | none => simpa [blocked, Obstacles.none] using ok

theorem readUnit_refuses {obstacles : Obstacles} {files : FileTree} {count : Nat}
    {candidate : Candidate} {failure : Failure}
    (refused : readUnit obstacles files count candidate = .error failure) :
    Refuses obstacles failure := by
  unfold readUnit at refused
  simp only at refused
  split at refused
  · simp at refused
  · cases refused
    exact .unreadable _ _

theorem listed_unobstructed {obstacles : Obstacles} {files : FileTree} {root : Path}
    {suffix : String} {names : List String} {found units : List TemplateUnit}
    (ok : listed obstacles files root suffix names found = .ok units) :
    listed .none files root suffix names found = .ok units := by
  induction names generalizing found with
  | nil => exact ok
  | cons name names ih =>
      simp only [listed] at ok
      split at ok
      · simp at ok
      split at ok
      · simp at ok
      next fresh =>
      split at ok
      · next file =>
          split at ok
          · next template read =>
              simp only [listed, fresh, file, readUnit_unobstructed read]
              simpa [Obstacles.none] using ih ok
          · simp at ok
      · simp at ok

theorem listed_refuses {obstacles : Obstacles} {files : FileTree} {root : Path}
    {suffix : String} {names : List String} {found : List TemplateUnit} {failure : Failure}
    (refused : listed obstacles files root suffix names found = .error failure) :
    Refuses obstacles failure := by
  induction names generalizing found with
  | nil => simp [listed] at refused
  | cons name names ih =>
      simp only [listed] at refused
      split at refused
      · next seen =>
          cases refused
          exact .cancelled seen
      split at refused
      · cases refused
        exact .duplicate name
      split at refused
      · split at refused
        · exact ih refused
        · next fault read =>
            cases refused
            exact readUnit_refuses read
      · cases refused
        exact .missing name _

theorem readAll_unobstructed {obstacles : Obstacles} {files : FileTree} {count : Nat}
    {candidates : List Candidate} {units : List TemplateUnit}
    (ok : readAll obstacles files count candidates = .ok units) (other : Nat) :
    readAll .none files other candidates = .ok units := by
  induction candidates generalizing count other units with
  | nil => exact ok
  | cons candidate rest ih =>
      simp only [readAll] at ok
      split at ok
      · simp at ok
      next template read =>
      split at ok
      · simp at ok
      next templates others =>
      simp only [readAll, readUnit_unobstructed read, ih others]
      exact ok

theorem readAll_refuses {obstacles : Obstacles} {files : FileTree} {count : Nat}
    {candidates : List Candidate} {failure : Failure}
    (refused : readAll obstacles files count candidates = .error failure) :
    Refuses obstacles failure := by
  induction candidates generalizing count with
  | nil => simp [readAll] at refused
  | cons candidate rest ih =>
      simp only [readAll] at refused
      split at refused
      · next fault read =>
          cases refused
          exact readUnit_refuses read
      next template read =>
      split at refused
      · next fault others =>
          cases refused
          exact ih others
      · simp at refused

end Discovery

open Discovery

theorem discover_unobstructed {obstacles : Obstacles} {files : FileTree} {root : Path}
    {suffix : String} {names : List String} {units : List TemplateUnit}
    (ok : discover obstacles files root suffix names = .ok units) :
    discover .none files root suffix names = .ok units := by
  unfold discover at ok ⊢
  split at ok
  · next scan =>
      rw [if_pos scan]
      unfold scanned at ok ⊢
      split at ok
      · next directory =>
          rw [if_pos directory]
          simp only at ok ⊢
          split at ok
          · simp at ok
          · rw [if_neg (by simp [Obstacles.none])]
            exact readAll_unobstructed ok 0
      · simp at ok
  · next list =>
      rw [if_neg list]
      exact listed_unobstructed ok

theorem discover_refuses {obstacles : Obstacles} {files : FileTree} {root : Path}
    {suffix : String} {names : List String} {failure : Failure}
    (refused : discover obstacles files root suffix names = .error failure) :
    Refuses obstacles failure := by
  unfold discover at refused
  split at refused
  · unfold scanned at refused
    split at refused
    · simp only at refused
      split at refused
      · next seen =>
          cases refused
          obtain ⟨look, _, cancelled⟩ := List.any_eq_true.mp seen
          exact .cancelled cancelled
      · exact readAll_refuses refused
    · cases refused
      exact .rootless root
  · exact listed_refuses refused

end TagTemplate
