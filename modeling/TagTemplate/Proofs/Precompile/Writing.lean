import TagTemplate.Precompile.Writing
import TagTemplate.Proofs.FileTree.Staging

/-! What each step of writing leaves of the files that were there when writing began. -/

namespace TagTemplate

/-- A failure that comes only after the output has been replaced. -/
def Failure.isLate : Failure → Bool
  | .outputNotWritten _ (.replace .openDirectory _) => true
  | .outputNotWritten _ (.replace .syncDirectory _) => true
  | _ => false

namespace FileTree

def LocksAt (left : FileTree) (output : Path) (lock : Location) : Prop :=
  ∃ raised opened, left.Raised raised ∧ raised.openFile (Lock.pathFor output) = .ok (lock, opened)

def Adds (left : FileTree) (output : Path) (location : Location) (node : FileNode) : Prop :=
  node = .directory ∨ (node = .file ByteArray.empty false ∧ left.LocksAt output location)

abbrev Prepared (output : Path) (left files : FileTree) : Prop :=
  Grows (left.Adds output) left files

/-- Files in which the output, wherever its path leads, is some text, and all else is as getting
ready to write has left it. -/
def Published (output : Path) (text : String) (left files : FileTree) : Prop :=
  ∃ prepared target, Prepared output left prepared ∧
    prepared.renameTarget output = .ok target ∧ Replaced prepared files target text.toUTF8

theorem Prepared.refl (output : Path) (left : FileTree) : Prepared output left left :=
  Grows.refl left

theorem Prepared.of_raised {left files : FileTree} (output : Path) (raised : left.Raised files) :
    Prepared output left files :=
  raised.mono fun _ _ directory => Or.inl directory

theorem Prepared.link {left files : FileTree} {output : Path}
    (prepared : Prepared output left files) {location : Location} {target : Path}
    (present : files.node? location = some (.link target)) :
    left.node? location = some (.link target) := by
  cases old : left.node? location with
  | some node => exact (prepared.kept old).symm.trans present
  | none =>
      rcases prepared.fresh old present with directory | ⟨empty, _⟩
      · simp at directory
      · simp at empty

theorem openFile_of_lock {path : Path} {files opened : FileTree} {lock : Location}
    (ok : Lock.openFile path files = .ok (lock, opened)) :
    files.openFile path = .ok (lock, opened) := by
  unfold Lock.openFile at ok
  split at ok
  · next pair found => simpa [found] using ok
  · simp at ok

theorem Prepared.opened {left files opened : FileTree} {output : Path} {lock : Location}
    (raised : left.Raised files) (ok : files.openFile (Lock.pathFor output) = .ok (lock, opened)) :
    Prepared output left opened := by
  refine (Prepared.of_raised output raised).trans ((openFile_grows ok).mono ?_)
  rintro location node ⟨rfl, rfl⟩
  exact Or.inr ⟨rfl, files, opened, raised, ok⟩

end FileTree

open FileTree

theorem prepare_keeps {Holds : FileTree → Prop} (path : Path)
    (keeps : ∀ {tree made parent directory}, path.parent? = some parent →
      directory ∈ parent.ancestors → makeDirectory tree directory = .ok made → Holds tree →
      Holds made) {files : FileTree} (holds : Holds files) : Holds (Lock.prepare path files).2 := by
  unfold Lock.prepare
  split
  · exact holds
  next parent next =>
  split
  · exact holds
  · exact makeAll_keeps parent.ancestors (fun among ok => keeps next among ok) holds

theorem prepare_raised (path : Path) (files : FileTree) :
    files.Raised (Lock.prepare path files).2 :=
  prepare_keeps path (fun _ _ ok raised => raised.trans (makeDirectory_raised ok))
    (Grows.refl files)

namespace WriteJob

/-- What writing leaves when it ends: the old output after a failure, unless that came too late. -/
def Leaves (job : WriteJob) (left files : FileTree) : Option Failure → Prop
  | none => Published job.output job.text left files
  | some failure =>
      if failure.isLate then Published job.output job.text left files
      else Prepared job.output left files

def Holds (job : WriteJob) (left files : FileTree) : WriteStep → Prop
  | .checking | .makingParents => files = left
  | .preparingLock | .openingLock => left.Raised files
  | .locking _ _ _ | .rechecking _ | .creating _ => Prepared job.output left files
  | .filling _ temporary =>
      ∃ prepared content, Prepared job.output left prepared ∧
        Staged prepared files temporary content
  | .syncing _ temporary | .persisting _ temporary =>
      ∃ prepared, Prepared job.output left prepared ∧
        Staged prepared files temporary job.text.toUTF8
  | .openingDirectory _ | .syncingDirectory _ => Published job.output job.text left files
  | .releasing _ outcome => job.Leaves left files outcome

def Reaches (job : WriteJob) (left files : FileTree) : WriteProgress → Prop
  | .going step => job.Holds left files step
  | .done outcome => job.Leaves left files outcome

def Rewrites (job : WriteJob) (plain files : FileTree) : Prop :=
  ∃ target, plain.renameTarget job.output = .ok target ∧
    Replaced plain files target job.text.toUTF8

def Settled (job : WriteJob) (plain files : FileTree) : Option Failure → Prop
  | none => job.Rewrites plain files
  | some failure => if failure.isLate then job.Rewrites plain files else plain.Same files

def Settles (job : WriteJob) (plain files : FileTree) (own : Location → Prop) : WriteStep → Prop
  | .checking | .makingParents | .preparingLock | .openingLock => False
  | .locking _ _ _ | .rechecking _ | .creating _ => files = plain
  | .filling _ temporary => own temporary ∧ ∃ content, Staged plain files temporary content
  | .syncing _ temporary | .persisting _ temporary =>
      own temporary ∧ Staged plain files temporary job.text.toUTF8
  | .openingDirectory _ | .syncingDirectory _ => job.Rewrites plain files
  | .releasing _ outcome => job.Settled plain files outcome

def SettlesOn (job : WriteJob) (plain files : FileTree) (own : Location → Prop) :
    WriteProgress → Prop
  | .going step => job.Settles plain files own step
  | .done outcome => job.Settled plain files outcome

section
variable (job : WriteJob) {left plain files : FileTree} {own : Location → Prop}

theorem discard_settles (lock temporary : Location) (step : ReplaceStep) (cause : IoError)
    (world : World) (early : (job.failure (.replace step cause)).isLate = false)
    {content : ByteArray} (staged : Staged plain world.files temporary content) :
    job.SettlesOn plain (job.discard lock temporary step cause world).2.files own
      (job.discard lock temporary step cause world).1 := by
  simpa [discard, SettlesOn, Settles, Settled, early] using staged.erased

theorem step_settles
    (owned : ∀ {temporary made}, plain.makeTemporary job.directory = .ok (temporary, made) →
      own temporary)
    (interrupted : Option Interruption) (fault : Option IoError) (world : World)
    (step : WriteStep) (settles : job.Settles plain world.files own step) :
    job.SettlesOn plain (job.step interrupted fault world step).2.files own
      (job.step interrupted fault world step).1 := by
  cases step with
  | checking | makingParents | preparingLock | openingLock => exact settles.elim
  | locking file since delay =>
      obtain rfl : world.files = plain := settles
      cases fault with
      | some cause => exact Grows.refl world.files
      | none =>
          simp only [WriteJob.step]
          split
          · split
            · exact Grows.refl world.files
            · rfl
          · rfl
  | rechecking lock =>
      obtain rfl : world.files = plain := settles
      cases interrupted with
      | none => rfl
      | some interruption => exact Grows.refl world.files
  | creating lock =>
      obtain rfl : world.files = plain := settles
      cases fault with
      | some cause => exact Grows.refl world.files
      | none =>
          simp only [WriteJob.step]
          split
          · exact Grows.refl world.files
          · next temporary files made => exact ⟨owned made, _, makeTemporary_staged made⟩
  | filling lock temporary =>
      obtain ⟨owns, content, staged⟩ := settles
      cases fault with
      | some cause => exact job.discard_settles lock temporary .write cause world rfl staged
      | none => exact ⟨owns, staged.fill _⟩
  | syncing lock temporary =>
      obtain ⟨owns, staged⟩ := settles
      cases fault with
      | some cause => exact job.discard_settles lock temporary .sync cause world rfl staged
      | none => exact ⟨owns, staged⟩
  | persisting lock temporary =>
      obtain ⟨owns, staged⟩ := settles
      cases fault with
      | some cause => exact job.discard_settles lock temporary .persist cause world rfl staged
      | none =>
          simp only [WriteJob.step]
          split
          · next cause _ => exact job.discard_settles lock temporary .persist cause world rfl staged
          · next files renamed => exact staged.rename renamed
  | openingDirectory lock =>
      have rewrites : job.Rewrites plain world.files := settles
      cases fault with
      | some cause => exact rewrites
      | none =>
          simp only [WriteJob.step]
          split
          · exact rewrites
          · exact rewrites
  | syncingDirectory lock =>
      have rewrites : job.Rewrites plain world.files := settles
      cases fault with
      | some cause => exact rewrites
      | none => exact rewrites
  | releasing lock outcome => exact settles

theorem Settled.leaves {outcome : Option Failure} (ready : Prepared job.output left plain)
    (settled : job.Settled plain files outcome) : job.Leaves left files outcome := by
  have published : job.Rewrites plain files → Published job.output job.text left files := by
    rintro ⟨target, aimed, replaced⟩
    exact ⟨plain, target, ready, aimed, replaced⟩
  cases outcome with
  | none => exact published settled
  | some failure =>
      simp only [Settled] at settled
      simp only [Leaves]
      split at settled
      · next late =>
          rw [if_pos late]
          exact published settled
      · next early =>
          rw [if_neg early]
          exact ready.trans (settled.mono fun _ _ => False.elim)

end

section
variable (job : WriteJob) (left : FileTree)

theorem reaches_of_settles {plain files : FileTree} {own : Location → Prop}
    {progress : WriteProgress} (ready : Prepared job.output left plain)
    (settles : job.SettlesOn plain files own progress) : job.Reaches left files progress := by
  cases progress with
  | done outcome => exact Settled.leaves job ready settles
  | going step =>
      cases step with
      | checking | makingParents | preparingLock | openingLock => exact False.elim settles
      | locking _ _ _ | rechecking _ | creating _ =>
          obtain rfl : files = plain := settles
          exact ready
      | filling lock temporary =>
          obtain ⟨_, content, staged⟩ := settles
          exact ⟨plain, content, ready, staged⟩
      | syncing lock temporary | persisting lock temporary => exact ⟨plain, ready, settles.2⟩
      | openingDirectory lock | syncingDirectory lock =>
          obtain ⟨target, aimed, replaced⟩ := settles
          exact ⟨plain, target, ready, aimed, replaced⟩
      | releasing lock outcome => exact Settled.leaves job ready settles

theorem step_reaches (interrupted : Option Interruption) (fault : Option IoError) (world : World)
    (step : WriteStep) (holds : job.Holds left world.files step) :
    job.Reaches left (job.step interrupted fault world step).2.files
      (job.step interrupted fault world step).1 := by
  have ready : ∀ {plain : FileTree} {step : WriteStep}, Prepared job.output left plain →
      job.Settles plain world.files (fun _ => True) step →
      job.Reaches left (job.step interrupted fault world step).2.files
        (job.step interrupted fault world step).1 :=
    fun before settles => job.reaches_of_settles left before
      (job.step_settles (fun _ => trivial) interrupted fault world _ settles)
  cases step with
  | checking =>
      have same : world.files = left := holds
      cases interrupted with
      | none => exact same
      | some interruption =>
          exact same ▸ Prepared.refl job.output world.files
  | makingParents =>
      have same : world.files = left := holds
      subst same
      cases fault with
      | some cause => exact Prepared.refl job.output world.files
      | none =>
          have raised := world.files.makeDirectories_raised job.directory
          simp only [WriteJob.step]
          split
          · next cause files made =>
              simp only [made] at raised
              exact Prepared.of_raised job.output raised
          · next files made =>
              simp only [made] at raised
              exact raised
  | preparingLock =>
      have before : left.Raised world.files := holds
      cases fault with
      | some cause => exact Prepared.of_raised job.output before
      | none =>
          have raised := prepare_raised (Lock.pathFor job.output) world.files
          simp only [WriteJob.step]
          split
          · next cause files made =>
              simp only [made] at raised
              exact Prepared.of_raised job.output (before.trans raised)
          · next files made =>
              simp only [made] at raised
              exact before.trans raised
  | openingLock =>
      have before : left.Raised world.files := holds
      cases fault with
      | some cause => exact Prepared.of_raised job.output before
      | none =>
          simp only [WriteJob.step]
          split
          · exact Prepared.of_raised job.output before
          · next lock files opened => exact Prepared.opened before (openFile_of_lock opened)
  | locking file since delay => exact ready holds rfl
  | rechecking lock => exact ready holds rfl
  | creating lock => exact ready holds rfl
  | filling lock temporary =>
      obtain ⟨prepared, content, before, staged⟩ := holds
      exact ready before ⟨trivial, content, staged⟩
  | syncing lock temporary =>
      obtain ⟨prepared, before, staged⟩ := holds
      exact ready before ⟨trivial, staged⟩
  | persisting lock temporary =>
      obtain ⟨prepared, before, staged⟩ := holds
      exact ready before ⟨trivial, staged⟩
  | openingDirectory lock =>
      obtain ⟨prepared, target, before, aimed, replaced⟩ := holds
      exact ready before ⟨target, aimed, replaced⟩
  | syncingDirectory lock =>
      obtain ⟨prepared, target, before, aimed, replaced⟩ := holds
      exact ready before ⟨target, aimed, replaced⟩
  | releasing lock outcome => exact holds

end

end WriteJob

end TagTemplate
