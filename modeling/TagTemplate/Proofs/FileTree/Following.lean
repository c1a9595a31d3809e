import TagTemplate.FileTree.Change
import TagTemplate.Proofs.Path

/-! Following a path in two file systems at once, or in one for two reasons. -/

namespace TagTemplate.FileTree

/-- What following a path comes to at a name: what is there decides. Directories and links lead on to
the segments ahead. -/
def enter (tree : FileTree) (pursuit : Pursuit)
    (onward jump : Location → List Name → Except IoError Place) (directory : Location)
    (segment : Name) (rest : List Name) : Except IoError Place :=
  match tree.node? (directory ++ [segment]) with
  | none => if rest.all List.isEmpty then .ok (.free directory segment) else .error .notFound
  | some .directory => onward (directory ++ [segment]) rest
  | some (.file content executable) =>
      if rest.isEmpty then .ok (.found (directory ++ [segment]) (.file content executable))
      else .error .notDirectory
  | some (.link target) =>
      if rest.isEmpty && pursuit == .entry then
        .ok (.found (directory ++ [segment]) (.link target))
      else jump (if target.absolute then [] else directory) (target.segments ++ rest)

theorem follow_cons (tree : FileTree) (pursuit : Pursuit)
    (jump : Location → List Name → Except IoError Place) (directory : Location) (segment : Name)
    (rest : List Name) :
    tree.follow pursuit jump directory (segment :: rest) =
      if segment = [] ∨ segment = ['.'] then tree.follow pursuit jump directory rest
      else if segment = ['.', '.'] then tree.follow pursuit jump directory.dropLast rest
      else if pursuit = .file ∧ isSlashed rest then .error .isDirectory
      else if nameLimit < Text.byteLength segment then .error .nameTooLong
      else tree.enter pursuit (tree.follow pursuit jump) jump directory segment rest := by
  rw [follow]
  rfl

theorem follow_blank {tree : FileTree} {pursuit : Pursuit}
    {jump : Location → List Name → Except IoError Place} {directory : Location} {rest : List Name}
    (blank : rest.all List.isEmpty = true) :
    tree.follow pursuit jump directory rest = .ok (.found directory .directory) := by
  induction rest with
  | nil => rfl
  | cons segment others ih =>
      simp only [List.all_cons, Bool.and_eq_true, List.isEmpty_iff] at blank
      rw [follow, if_pos (Or.inl blank.1)]
      exact ih (by simpa using blank.2)

theorem enter_congr {first second : FileTree} {pursuit : Pursuit} {place : Place}
    (Holds : Except IoError Place → Prop) {directory : Location} {segment : Name}
    {rest : List Name} {onward onwardToo jump jumpToo : Location → List Name → Except IoError Place}
    (same : first.node? (directory ++ [segment]) = second.node? (directory ++ [segment]))
    (stays : Holds (.ok place))
    (goes : ∀ inner, onward inner rest = .ok place → Holds (onwardToo inner rest))
    (jumps : ∀ start segments, jump start segments = .ok place → Holds (jumpToo start segments))
    (entered : first.enter pursuit onward jump directory segment rest = .ok place) :
    Holds (second.enter pursuit onwardToo jumpToo directory segment rest) := by
  unfold enter at entered ⊢
  rw [same] at entered
  generalize second.node? (directory ++ [segment]) = found at entered ⊢
  match found with
  | none | some (.file _ _) => exact entered ▸ stays
  | some .directory => exact goes _ entered
  | some (.link target) =>
      simp only at entered ⊢
      split at entered
      · next last =>
          rw [if_pos last, entered]
          exact stays
      · next goesOn =>
          rw [if_neg goesOn]
          exact jumps _ _ entered

/-- A path that leads to a place one way leads another way to what is held for that: it is enough to
look at its end and at each name. -/
structure Along (first second : FileTree) (pursuit pursuitToo : Pursuit) (place : Place)
    (Holds : Except IoError Place → Prop) : Prop where
  files : pursuitToo = .file → pursuit = .file
  ends : ∀ {directory}, place = .found directory .directory → Holds (.ok place)
  enters : ∀ {limit directory segment rest}
    {onward onwardToo : Location → List Name → Except IoError Place},
    Path.IsName segment → (pursuit = .file → isSlashed rest = false) →
    (rest.all List.isEmpty = true → ∀ inner, onwardToo inner rest = .ok (.found inner .directory)) →
    (∀ inner, onward inner rest = .ok place → Holds (onwardToo inner rest)) →
    (∀ start segments, first.followWithin pursuit limit start segments = .ok place →
      Holds (second.followWithin pursuitToo limit start segments)) →
    first.enter pursuit onward (first.followWithin pursuit limit) directory segment rest =
      .ok place →
    Holds (second.enter pursuitToo onwardToo (second.followWithin pursuitToo limit) directory
      segment rest)

section
variable {first second : FileTree} {pursuit pursuitToo : Pursuit} {place : Place}
  {Holds : Except IoError Place → Prop}

theorem Along.follow (along : Along first second pursuit pursuitToo place Holds) {limit : Nat}
    (jumps : ∀ start segments, first.followWithin pursuit limit start segments = .ok place →
      Holds (second.followWithin pursuitToo limit start segments))
    (directory : Location) (segments : List Name)
    (reached : first.follow pursuit (first.followWithin pursuit limit) directory segments =
      .ok place) :
    Holds (second.follow pursuitToo (second.followWithin pursuitToo limit) directory segments) := by
  induction segments generalizing directory with
  | nil =>
      rw [FileTree.follow] at reached ⊢
      rw [reached]
      exact along.ends (Except.ok.inj reached).symm
  | cons segment rest ih =>
      rw [follow_cons] at reached ⊢
      split at reached
      · next skipped =>
          rw [if_pos skipped]
          exact ih _ reached
      next stands =>
      rw [if_neg stands]
      split at reached
      · next up =>
          rw [if_pos up]
          exact ih _ reached
      next down =>
      rw [if_neg down]
      split at reached
      · simp at reached
      next unslashed =>
      rw [if_neg fun slashed => unslashed ⟨along.files slashed.1, slashed.2⟩]
      split at reached
      · simp at reached
      next short =>
      rw [if_neg short]
      have named : Path.IsName segment := ⟨fun blank => stands (Or.inl blank),
        fun point => stands (Or.inr point), down⟩
      exact along.enters named (fun file => by simpa [file] using unslashed)
        (fun blank inner => follow_blank blank) ih jumps reached

theorem Along.followWithin (along : Along first second pursuit pursuitToo place Holds)
    (limit : Nat) (directory : Location) (segments : List Name)
    (reached : first.followWithin pursuit limit directory segments = .ok place) :
    Holds (second.followWithin pursuitToo limit directory segments) := by
  induction limit generalizing directory segments with
  | zero => simp [FileTree.followWithin] at reached
  | succ limit ih => exact along.follow ih directory segments reached

end

section
variable {tree other : FileTree} {pursuit : Pursuit} {path : Path} {spot : Place}

def startOf (tree : FileTree) (path : Path) : Location := if path.absolute then [] else tree.here

theorem place_eq_of_isPrefix {shorter : Path} (reached : tree.place pursuit path = .ok spot)
    (front : shorter.text <+: path.text) (nonempty : shorter.isEmpty = false)
    (pursued : Pursuit) :
    other.place pursued shorter =
      other.followWithin pursued linkLimit (other.startOf shorter) shorter.segments := by
  unfold FileTree.place at reached ⊢
  split at reached
  · simp at reached
  next clean =>
  split at reached
  · simp at reached
  split at reached
  · simp at reached
  next short =>
  have clean' : ¬ shorter.text.contains '\x00' := by
    simp only [List.contains_iff_mem] at clean ⊢
    exact fun member => clean (front.subset member)
  have short' : ¬ pathLimit ≤ Text.byteLength shorter.text := by
    obtain ⟨more, whole⟩ := front
    rw [← whole, Text.byteLength_append] at short
    omega
  rw [if_neg clean', if_neg (by simp [nonempty]), if_neg short']
  rfl

theorem place_eq_followWithin (reached : tree.place pursuit path = .ok spot)
    (pursued : Pursuit) :
    other.place pursued path =
      other.followWithin pursued linkLimit (other.startOf path) path.segments := by
  have nonempty : path.isEmpty = false := by
    unfold FileTree.place at reached
    split at reached
    · simp at reached
    split at reached
    · simp at reached
    · next some => simpa using some
  exact place_eq_of_isPrefix reached (List.prefix_refl _) nonempty pursued

theorem place_eq_ok (reached : tree.place pursuit path = .ok spot) :
    tree.followWithin pursuit linkLimit (tree.startOf path) path.segments = .ok spot :=
  (place_eq_followWithin reached pursuit).symm.trans reached

theorem Along.place {pursuitToo : Pursuit} {Holds : Except IoError Place → Prop}
    (along : Along tree other pursuit pursuitToo spot Holds) (here : other.here = tree.here)
    (reached : tree.place pursuit path = .ok spot) : Holds (other.place pursuitToo path) := by
  rw [place_eq_followWithin reached, startOf, here]
  exact along.followWithin _ _ _ (place_eq_ok reached)

end

end TagTemplate.FileTree
