import TagTemplate.Proofs.Precompile.Crowd

/-! Of several runs that write the same output only one at a time does so, and the output is never
anything but what it was or the whole of what one of them has rendered. -/

namespace TagTemplate

open FileTree

structure Setting where
  options : Options
  cancelled : Bool
  now : Nat

structure Crowd where
  runs : List Run
  world : World
  latest : Option (Nat × String)

structure Turn where
  index : Nat
  around : Interference

theorem Moves.lock?_of_replaces {output : Path} {before after : World} {hand other : Hand}
    {text : String} (moves : Moves output before after hand other (some text)) :
    ∃ lock, hand.lock? = some lock := by
  cases moves with
  | replaces lock => exact ⟨lock, rfl⟩

def Run.Brings (run : Run) (bundle : Bundle) : Prop :=
  match run.phase with
  | .writing written _ => written = bundle
  | .serialized report => report = run.options.report bundle
  | .failed _ => True
  | _ => False

namespace Run

section
variable {compiler : Compiler} {around : Interference} {run next : Run} {world after : World}
  {bundle : Bundle} {text : String}

theorem Acts.brings (acts : Acts compiler around run world next after)
    (brings : run.Brings bundle) : next.Brings bundle := by
  cases acts with
  | wrote phase goes => simpa [Brings, phase] using brings
  | unwritten phase ends => trivial
  | written phase ends =>
      simp only [Brings, phase] at brings
      subst brings
      rfl
  | rested ended => exact brings
  | _ => simp_all [Brings]

theorem Acts.brings_replaced (acts : Acts compiler around run world next after)
    (replaced : run.replaced? next = some text) :
    ∃ bundle, next.Brings bundle ∧ text = next.textOf bundle := by
  cases acts with
  | @wrote bundle step other after phase goes =>
      refine ⟨bundle, rfl, ?_⟩
      rw [replaced?_writing phase rfl] at replaced
      unfold WriteStep.replaced? at replaced
      split at replaced
      · exact (Option.some.inj replaced).symm
      · simp at replaced
  | rested ended =>
      unfold replaced? at replaced
      split at replaced
      · next phase _ => simp [outcome?, phase] at ended
      · simp at replaced
  | _ => simp_all [replaced?, Run.fail]

variable (compiler around run world)

theorem step_brings (brings : run.Brings bundle) :
    (run.step compiler around world).1.Brings bundle := by
  obtain ⟨next, acts, stepped⟩ := step_acts compiler around run world
  rw [stepped]
  exact acts.brings brings

theorem step_brings_replaced
    (replaced : run.replaced? (run.step compiler around world).1 = some text) :
    ∃ bundle, (run.step compiler around world).1.Brings bundle ∧
      text = (run.step compiler around world).1.textOf bundle := by
  obtain ⟨next, acts, stepped⟩ := step_acts compiler around run world
  rw [stepped] at replaced ⊢
  exact acts.brings_replaced replaced

end

end Run

namespace Crowd

def start (settings : List Setting) (world : World) : Crowd where
  runs := settings.map fun setting => Run.start setting.options setting.cancelled setting.now
  world := world
  latest := none

def step (compilers : Nat → Compiler) (crowd : Crowd) (turn : Turn) : Crowd :=
  match crowd.runs[turn.index]? with
  | none => crowd
  | some run =>
      let (next, world) := run.step (compilers turn.index) turn.around crowd.world
      { runs := crowd.runs.set turn.index next
        world := world
        latest := ((run.replaced? next).map fun text => (turn.index, text)).or crowd.latest }

def after (compilers : Nat → Compiler) (crowd : Crowd) (turns : List Turn) : Crowd :=
  turns.foldl (step compilers) crowd

def hand (crowd : Crowd) (index : Nat) : Hand :=
  match crowd.runs[index]? with
  | some run => run.hand
  | none => .empty

def Holds (crowd : Crowd) (index : Nat) : Prop := ∃ lock, (crowd.hand index).lock? = some lock

def Owns (crowd : Crowd) (index : Nat) (temporary : Location) : Prop :=
  (crowd.hand index).temporary? = some temporary

def Replaces (compilers : Nat → Compiler) (crowd : Crowd) (turn : Turn) : Prop :=
  ∃ run text, crowd.runs[turn.index]? = some run ∧
    run.replaced? (run.step (compilers turn.index) turn.around crowd.world).1 = some text

structure Serial (output : Path) (before : FileTree) (crowd : Crowd) : Prop where
  single : ∀ {index other}, crowd.Holds index → crowd.Holds other → index = other
  owner : ∀ {index temporary}, crowd.Owns index temporary → crowd.Holds index
  nodes : ∀ {location node}, crowd.world.files.node? location = some node →
    before.node? location = some node ∨ node = .directory ∨
      crowd.world.files.Opens output location ∨
      crowd.world.files.find? output = some (location, node) ∨
      ∃ index, crowd.Owns index location
  /-- Before a text is put there, the path of the output leads to what it led to. Where it led
  nowhere it may lead to a directory that is new, or to something that was elsewhere. -/
  initial : crowd.latest = none →
    (∀ {location node}, before.find? output = some (location, node) →
      crowd.world.files.find? output = some (location, node)) ∧
    ∀ {location node}, crowd.world.files.find? output = some (location, node) →
      before.node? location = some node ∨ node = .directory
  whole : ∀ {index text}, crowd.latest = some (index, text) →
    (∃ location, crowd.world.files.find? output = some (location, .file text.toUTF8 false)) ∧
      ∃ run bundle, crowd.runs[index]? = some run ∧ run.Brings bundle ∧ text = run.textOf bundle

structure Orderly (output : Path) (before : FileTree) (crowd : Crowd) : Prop where
  outputs : ∀ run ∈ crowd.runs, run.options.output = output
  ordered : ∃ plain opened,
    Ordered output before crowd.hand crowd.world (crowd.latest.map (·.2)) plain opened
  brought : ∀ {index text}, crowd.latest = some (index, text) →
    ∃ run bundle, crowd.runs[index]? = some run ∧ run.Brings bundle ∧ text = run.textOf bundle

section
variable {output : Path} {before : FileTree} {crowd : Crowd} {compilers : Nat → Compiler}

theorem hand_set {index : Nat} {run next : Run} {world : World} {latest : Option (Nat × String)}
    (there : crowd.runs[index]? = some run) :
    (⟨crowd.runs.set index next, world, latest⟩ : Crowd).hand =
      Function.update crowd.hand index next.hand := by
  obtain ⟨inside, _⟩ := List.getElem?_eq_some_iff.mp there
  funext other
  by_cases here : other = index
  · rw [here, Function.update_self]
    simp [hand, inside]
  · rw [Function.update_of_ne here]
    simp [hand, List.getElem?_set_ne (Ne.symm here)]

theorem Replaces.holds (keeps : ∀ index, (compilers index).KeepsFiles) {turn : Turn}
    (replaces : crowd.Replaces compilers turn) : crowd.Holds turn.index := by
  obtain ⟨run, text, there, replaced⟩ := replaces
  obtain ⟨_, moves⟩ := Run.step_moves (keeps turn.index) turn.around run crowd.world
  have here : crowd.hand turn.index = run.hand := by simp [hand, there]
  rw [Holds, here]
  exact (replaced ▸ moves).lock?_of_replaces

theorem Orderly.step (keeps : ∀ index, (compilers index).KeepsFiles)
    (separate : Separate output before) (orderly : crowd.Orderly output before) (turn : Turn) :
    (crowd.step compilers turn).Orderly output before := by
  unfold Crowd.step
  split
  · exact orderly
  next run there =>
  obtain ⟨inside, _⟩ := List.getElem?_eq_some_iff.mp there
  obtain ⟨options, moves⟩ := Run.step_moves (keeps turn.index) turn.around run crowd.world
  obtain ⟨plain, opened, ordered⟩ := orderly.ordered
  have here : crowd.hand turn.index = run.hand := by simp [hand, there]
  have same : run.options.output = output := orderly.outputs run (List.mem_of_getElem? there)
  refine ⟨?_, ?_, ?_⟩
  · intro other member
    rcases List.mem_or_eq_of_mem_set member with old | rfl
    · exact orderly.outputs other old
    · rw [options, same]
  · rw [← here, same] at moves
    obtain ⟨plain, opened, ordered⟩ := ordered.move separate moves
    refine ⟨plain, opened, ?_⟩
    rw [hand_set there]
    cases replaced : run.replaced? (run.step (compilers turn.index) turn.around crowd.world).1 with
    | none => simpa [replaced] using ordered
    | some text => simpa [replaced] using ordered
  · intro index text latest
    cases replaced : run.replaced? (run.step (compilers turn.index) turn.around crowd.world).1 with
    | some put =>
        obtain ⟨bundle, brings, rendered⟩ := Run.step_brings_replaced _ _ _ _ replaced
        have last : (turn.index, put) = (index, text) := by simpa [replaced] using latest
        cases last
        exact ⟨_, bundle, List.getElem?_set_self inside, brings, rendered⟩
    | none =>
        have last : crowd.latest = some (index, text) := by simpa [replaced] using latest
        -- The run that replaced the output last may be the one that takes the step.
        obtain ⟨writer, bundle, found, brings, rendered⟩ := orderly.brought last
        by_cases self : index = turn.index
        · subst self
          cases there.symm.trans found
          refine ⟨_, bundle, List.getElem?_set_self inside, Run.step_brings _ _ _ _ brings, ?_⟩
          rw [rendered, Run.textOf, Run.textOf, options]
        · exact ⟨writer, bundle, (List.getElem?_set_ne (Ne.symm self)).trans found, brings,
            rendered⟩

theorem Orderly.after (keeps : ∀ index, (compilers index).KeepsFiles)
    (separate : Separate output before) (orderly : crowd.Orderly output before)
    (turns : List Turn) : (crowd.after compilers turns).Orderly output before := by
  induction turns generalizing crowd with
  | nil => exact orderly
  | cons turn rest ih => exact ih (orderly.step keeps separate turn)

theorem orderly_start {settings : List Setting} (world : World)
    (same : ∀ setting ∈ settings, setting.options.output = output) :
    (start settings world).Orderly output world.files := by
  have idle : ∀ index, (start settings world).hand index = .empty := by
    intro index
    unfold hand
    split
    · next run there =>
        have member := List.mem_of_getElem? there
        simp only [start, List.mem_map] at member
        obtain ⟨setting, _, rfl⟩ := member
        rfl
    · rfl
  refine ⟨?_, ⟨world.files, none, ?_⟩, by simp [start]⟩
  · intro run member
    simp only [start, List.mem_map] at member
    obtain ⟨setting, member, rfl⟩ := member
    exact same setting member
  · refine ⟨?_, ?_, ?_, .raised (Grows.refl _), fun _ => rfl, ?_⟩
    · simp [idle, Hand.opened?]
    · simp [idle, Hand.lock?]
    · simp [idle, Hand.lock?]
    · simp [idle]

end

end Crowd

section
variable {output : Path} {before plain : FileTree} {hands : Nat → Hand} {world : World}
  {latest : Option String} {opened : Option Location} {location : Location} {node : FileNode}

theorem Ordered.node? (ordered : Ordered output before hands world latest plain opened)
    (present : world.files.node? location = some node) :
    plain.node? location = some node ∨ ∃ index, (hands index).temporary? = some location := by
  obtain ⟨_, bare⟩ | ⟨index, _, temporary, _, shape, staged, _⟩ := ordered.bare_or_staged
  · exact Or.inl (by rwa [← bare])
  · by_cases here : location = temporary
    · exact Or.inr ⟨index, by rw [shape, here]; rfl⟩
    · exact Or.inl (by rwa [← staged.others here])

theorem Ordered.find? (separate : Separate output before)
    (ordered : Ordered output before hands world latest plain opened)
    (found : world.files.find? output = some (location, node)) :
    plain.find? output = some (location, node) := by
  obtain ⟨_, bare⟩ | ⟨_, _, temporary, _, _, staged, provisional⟩ := ordered.bare_or_staged
  · rwa [← bare]
  have reached := find?_eq_some.mp found
  obtain ⟨place, plainly, uncovered⟩ := staged.place reached
  cases uncovered with
  | same => exact find?_eq_some.mpr plainly
  | gone directory last =>
      have absent : plain.node? (directory ++ [last]) = none := place_ends plainly
      have present := (place_ends reached).resolve_left (by simp)
      have here : directory ++ [last] = temporary := by
        by_contra other
        simp [staged.others other, absent] at present
      have ready := ordered.ready
      cases latest with
      | some text =>
          obtain ⟨target, stored⟩ := ready.find?
          cases plainly.symm.trans (find?_eq_some.mp stored)
      | none =>
          obtain ⟨target, aimed, _⟩ := exists_leads (by simp) found
          exact absurd (here ▸ provisional rfl)
            (separate.aside ready.prepared (staged.renameTarget aimed) plainly)

end

namespace Crowd

section
variable {output : Path} {before : FileTree} {crowd : Crowd}

theorem Orderly.serial (separate : Separate output before)
    (orderly : crowd.Orderly output before) : crowd.Serial output before := by
  obtain ⟨plain, opened, ordered⟩ := orderly.ordered
  obtain ⟨allowed, grows⟩ := ordered.grows
  refine ⟨?_, ?_, ?_, ?_, ?_⟩
  · rintro index other ⟨lock, holds⟩ ⟨lockToo, holdsToo⟩
    exact ordered.single holds holdsToo
  · exact fun owns => Hand.lock?_of_temporary? owns
  · intro location node present
    rcases ordered.node? present with plainly | owned
    · obtain old | directory | opens | stored := ordered.ready.node? plainly
      · exact Or.inl old
      · exact Or.inr (Or.inl directory)
      · exact Or.inr (Or.inr (Or.inl (grows.opens opens)))
      · exact Or.inr (Or.inr (Or.inr (Or.inl (find?_carried grows.carries False.elim stored))))
    · exact Or.inr (Or.inr (Or.inr (Or.inr owned)))
  · intro none
    have ready := ordered.ready
    rw [none] at ready
    refine ⟨fun found => ?_, fun found => ready.initial separate (ordered.find? separate found)⟩
    exact find?_carried grows.carries False.elim
      (find?_carried ready.grows.carries False.elim found)
  · intro index text last
    refine ⟨?_, orderly.brought last⟩
    have ready := ordered.ready
    rw [last] at ready
    obtain ⟨target, stored⟩ := ready.find?
    exact ⟨target, find?_carried grows.carries False.elim stored⟩

/-- Whatever steps some runs take that write the same output, in whatever order, with failures,
cancellations and waiting in vain: one at a time holds the lock, only that one has a temporary file
and replaces the output, and the output is what it was or the whole of what was put there last. -/
theorem after_serial {compilers : Nat → Compiler} (keeps : ∀ index, (compilers index).KeepsFiles)
    {settings : List Setting} (same : ∀ setting ∈ settings, setting.options.output = output)
    (world : World) (separate : Separate output world.files) (turns : List Turn) :
    ((start settings world).after compilers turns).Serial output world.files ∧
      ∀ turn, ((start settings world).after compilers turns).Replaces compilers turn →
        ((start settings world).after compilers turns).Holds turn.index :=
  ⟨((orderly_start world same).after keeps separate turns).serial separate,
    fun _ replaces => replaces.holds keeps⟩

end

def setting (output : Path) : Setting :=
  ⟨⟨Path.current, "", output, ["a"], .plain, false, none, 0⟩, false, 0⟩

def rounds (first second : Nat) : List Turn :=
  List.replicate first ⟨0, .none⟩ ++ List.replicate second ⟨1, .none⟩

def echoes (_ : Nat) : Compiler := Compiler.ofFunction .ok

def pairOutput : Path := ⟨false, [['x']]⟩

def pairFiles : FileTree := ⟨[([['a']], .file ByteArray.empty false)], []⟩

def linkedFiles : FileTree :=
  ⟨[([['x']], .link ⟨false, [['r']]⟩), ([['r']], .file ByteArray.empty false),
    ([".x.lock".toList], .file ByteArray.empty false), ([['a']], .file ByteArray.empty false)], []⟩

def pair (files : FileTree) : Crowd :=
  (start [setting pairOutput, setting pairOutput] ⟨files, [], 0⟩).after echoes (rounds 11 8)

theorem pair_serial :
    ((pair pairFiles).hand 0).lock? = some [".x.lock".toList] ∧
      ((pair pairFiles).hand 0).temporary?.isSome ∧
      ((pair pairFiles).hand 1).opened? = some [".x.lock".toList] ∧
      (∀ index, (echoes index).KeepsFiles) ∧
      ∀ files ∈ [pairFiles, linkedFiles], Separate pairOutput files ∧
        (pair files).Serial pairOutput files ∧
        ∀ turn, (pair files).Replaces echoes turn → (pair files).Holds turn.index := by
  have keeps : ∀ index, (echoes index).KeepsFiles := fun _ => Compiler.keepsFiles_ofFunction _
  have plainly : Separate pairOutput pairFiles := by
    refine Separate.of_unlinked pairOutput fun location target => ?_
    simp only [node?, pairFiles]
    split
    · simp
    · rw [List.find?_singleton]
      split <;> simp
  have linked : Separate pairOutput linkedFiles := by
    have found : linkedFiles.find? pairOutput = some ([['r']], .file ByteArray.empty false) := rfl
    have opens : linkedFiles.Opens pairOutput [".x.lock".toList] := ⟨_, _, rfl⟩
    exact .of_file found opens (by decide)
  refine ⟨by decide +kernel, by decide +kernel, by decide +kernel, keeps, ?_⟩
  intro files member
  have separate : Separate pairOutput files := by
    simp only [List.mem_cons, List.not_mem_nil, or_false] at member
    rcases member with rfl | rfl
    · exact plainly
    · exact linked
  exact ⟨separate, after_serial keeps (by decide +kernel) ⟨files, [], 0⟩ separate (rounds 11 8)⟩

def tangledFiles : FileTree :=
  ⟨[([".x.lock".toList], .link pairOutput), ([['x']], .link ⟨false, [['r']]⟩),
    ([['a']], .file ByteArray.empty false)], []⟩

def tangled (first second : Nat) : Crowd :=
  (start [setting pairOutput, setting pairOutput] ⟨tangledFiles, [], 0⟩).after echoes
    (rounds first second)

def detourOutput : Path := ⟨false, [['n'], ['.', '.'], ['x']]⟩

def detourFiles : FileTree :=
  ⟨[([['x']], .file "X".toUTF8 false), ([['a']], .file ByteArray.empty false)], []⟩

def detour (steps : Nat) : Crowd :=
  (start [setting detourOutput] ⟨detourFiles, [], 0⟩).after echoes (rounds steps 0)

def circleOutput : Path := ⟨false, [['l'], ['l']]⟩

def circleFiles : FileTree :=
  ⟨[([['l']], .link ⟨false, [['.']]⟩), ([['a']], .file ByteArray.empty false)], []⟩

def circle (steps : Nat) : Crowd :=
  (start [setting circleOutput] ⟨circleFiles, [], 0⟩).after echoes (rounds steps 0)

/-- Where a lock leads to its output, opening it makes the output, and two runs hold the lock once
the first of them has replaced the output. Where the path of the output goes through a directory
that is missing, making that directory is enough for the path to lead to another file. Where it
goes through the link that it ends at, it leads nowhere once the link has been replaced. -/
theorem tangled_detour_circle :
    ((tangled 14 9).hand 0).lock? = some [['r']] ∧ ((tangled 14 9).hand 1).lock? = some [['x']] ∧
      (tangledFiles.read pairOutput).toOption = none ∧ (tangled 8 0).latest = none ∧
      ((tangled 8 0).world.files.read pairOutput).toOption = some ByteArray.empty ∧
      (detourFiles.read detourOutput).toOption = none ∧ (detour 6).latest = none ∧
      ((detour 6).world.files.read detourOutput).toOption = some "X".toUTF8 ∧
      (circle 14).latest.isSome ∧ (circle 14).world.files.find? circleOutput = none := by
  decide +kernel

end Crowd

end TagTemplate
