import TagTemplate.Proofs.Discovery.Naming
import TagTemplate.Proofs.Discovery.Reading

/-! Which name of a list is to blame if the listed templates are not found. -/

namespace TagTemplate

namespace FileTree

section
variable {files : FileTree} {path : Path} {content : ByteArray}

def Holds (files : FileTree) (path : Path) (content : ByteArray) : Prop :=
  ∃ location executable, files.find? path = some (location, .file content executable)

theorem isFile_iff_holds : files.isFile path = true ↔ ∃ content, files.Holds path content := by
  rw [isFile_iff]
  constructor
  · rintro ⟨location, content, executable, found⟩
    exact ⟨content, location, executable, found⟩
  · rintro ⟨content, location, executable, found⟩
    exact ⟨location, content, executable, found⟩

theorem Holds.unique {other : ByteArray} (holds : files.Holds path content)
    (holdsToo : files.Holds path other) : content = other :=
  Except.ok.inj ((read_eq_ok_iff.mpr holds).symm.trans (read_eq_ok_iff.mpr holdsToo))

end

end FileTree

namespace Discovery

structure Listed (obstacles : Obstacles) (files : FileTree) (root : Path) (suffix : String)
    (index : Nat) (template : TemplateUnit) : Prop where
  path : template.path = listedPath root suffix template.name
  readable : obstacles.unreadable index = none
  source : files.Holds template.path template.source.toUTF8

/-- What is wrong with the name at an index of a list, by the first test that it fails: that no name
before it is the same, that its path leads to a file, that this can be read, and that it is a text. -/
inductive Flaw (obstacles : Obstacles) (files : FileTree) (root : Path) (suffix : String)
    (names : List String) (index : Nat) : Failure → Prop
  | repeated {name} (here : names[index]? = some name) (again : name ∈ names.take index) :
      Flaw obstacles files root suffix names index (.duplicateTemplate name)
  | missing {name} (here : names[index]? = some name) (fresh : name ∉ names.take index)
      (absent : ∀ content, ¬ files.Holds (listedPath root suffix name) content) :
      Flaw obstacles files root suffix names index
        (.templateNotFound name (listedPath root suffix name))
  | unreadable {name content cause} (here : names[index]? = some name)
      (fresh : name ∉ names.take index) (file : files.Holds (listedPath root suffix name) content)
      (refused : obstacles.unreadable index = some cause) :
      Flaw obstacles files root suffix names index
        (.templateUnreadable (listedPath root suffix name) cause)
  | garbled {name content} (here : names[index]? = some name)
      (fresh : name ∉ names.take index) (file : files.Holds (listedPath root suffix name) content)
      (readable : obstacles.unreadable index = none)
      (other : ∀ text : String, content ≠ text.toUTF8) :
      Flaw obstacles files root suffix names index
        (.templateUnreadable (listedPath root suffix name) .notUtf8)

section
variable {obstacles : Obstacles} {files : FileTree} {root : Path} {suffix : String}
  {names : List String} {index : Nat}

structure Passes (obstacles : Obstacles) (files : FileTree) (root : Path) (suffix : String)
    (names : List String) (index : Nat) (template : TemplateUnit) : Prop where
  here : names[index]? = some template.name
  fresh : template.name ∉ names.take index
  listed : Listed obstacles files root suffix index template

theorem Flaw.unique {failure other : Failure}
    (flaw : Flaw obstacles files root suffix names index failure)
    (flawToo : Flaw obstacles files root suffix names index other) : failure = other := by
  -- flaws of two kinds disagree on a test, and those of one kind are of the same name
  cases flaw <;> cases flawToo <;> simp_all

theorem Passes.not_flaw {template : TemplateUnit} {failure : Failure}
    (passes : Passes obstacles files root suffix names index template) :
    ¬ Flaw obstacles files root suffix names index failure := by
  obtain ⟨here, fresh, path, readable, source⟩ := passes
  have same : ∀ {name}, names[index]? = some name → name = template.name :=
    fun hereToo => Option.some.inj (hereToo.symm.trans here)
  rw [path] at source
  intro flaw
  cases flaw with
  | repeated hereToo again =>
      obtain rfl := same hereToo
      exact fresh again
  | missing hereToo _ absent =>
      obtain rfl := same hereToo
      exact absent _ source
  | unreadable _ _ _ refused => simp [readable] at refused
  | garbled hereToo _ file _ other =>
      obtain rfl := same hereToo
      exact other template.source (file.unique source)

theorem readUnit_judged {name : String} (here : names[index]? = some name)
    (fresh : name ∉ names.take index) (file : files.isFile (listedPath root suffix name) = true) :
    (∃ template, readUnit obstacles files index ⟨name, listedPath root suffix name⟩ = .ok template ∧
        Passes obstacles files root suffix names index template) ∨
      ∃ failure,
        readUnit obstacles files index ⟨name, listedPath root suffix name⟩ = .error failure ∧
          Flaw obstacles files root suffix names index failure := by
  obtain ⟨content, holds⟩ := FileTree.isFile_iff_holds.mp file
  have read : files.read (listedPath root suffix name) = .ok content :=
    FileTree.read_eq_ok_iff.mpr holds
  unfold readUnit
  cases hindered : obstacles.unreadable index with
  | some cause => exact .inr ⟨_, rfl, .unreadable here fresh holds hindered⟩
  | none =>
      simp only [FileTree.readText, read]
      cases decoded : String.fromUTF8? content with
      | some text =>
          rw [Text.fromUTF8?_eq_some_iff] at decoded
          exact .inl ⟨_, rfl, here, fresh, rfl, hindered, decoded ▸ holds⟩
      | none =>
          refine .inr ⟨_, rfl, .garbled here fresh holds hindered fun text same => ?_⟩
          simp [Text.fromUTF8?_eq_some_iff.mpr same] at decoded

theorem passes_concat {found : List TemplateUnit} {template : TemplateUnit}
    (passed : ∀ index other, found[index]? = some other →
      Passes obstacles files root suffix names index other)
    (passes : Passes obstacles files root suffix names found.length template) :
    ∀ index other, (found ++ [template])[index]? = some other →
      Passes obstacles files root suffix names index other := by
  intro index other present
  rcases Nat.lt_trichotomy index found.length with old | rfl | later
  · rw [List.getElem?_append_left old] at present
    exact passed index other present
  · rw [List.getElem?_concat_length] at present
    exact Option.some.inj present ▸ passes
  · rw [List.getElem?_eq_none (by simpa [Nat.succ_le_iff] using later)] at present
    simp at present

theorem listed_judged (calm : ∀ look, obstacles.cancelled look = false) {rest : List String}
    {found : List TemplateUnit} (all : names = found.map (·.name) ++ rest)
    (passed : ∀ index template, found[index]? = some template →
      Passes obstacles files root suffix names index template) :
    (∃ units, listed obstacles files root suffix rest found = .ok units ∧
        units.map (·.name) = names ∧ ∀ index template, units[index]? = some template →
          Passes obstacles files root suffix names index template) ∨
      ∃ failure index, listed obstacles files root suffix rest found = .error failure ∧
        Flaw obstacles files root suffix names index failure ∧
        ∀ earlier < index, ∃ template,
          Passes obstacles files root suffix names earlier template := by
  induction rest generalizing found with
  | nil => exact .inl ⟨found, rfl, by simpa using all.symm, passed⟩
  | cons name rest ih =>
      have here : names[found.length]? = some name := by simp [all]
      have before : names.take found.length = found.map (·.name) := by simp [all]
      have sofar : ∀ earlier < found.length, ∃ template,
          Passes obstacles files root suffix names earlier template :=
        fun earlier less => ⟨found[earlier], passed earlier _ (List.getElem?_eq_getElem less)⟩
      simp only [listed, calm, Bool.false_eq_true, ↓reduceIte]
      split
      · next again => exact .inr ⟨_, _, rfl, .repeated here (before ▸ again), sofar⟩
      next fresh =>
      have fresh : name ∉ names.take found.length := before ▸ fresh
      split
      · next file =>
          rcases readUnit_judged here fresh file with ⟨template, read, passes⟩ | ⟨failure, read, flaw⟩
          · rw [read]
            exact ih (by simp [all, readUnit_name read]) (passes_concat passed passes)
          · rw [read]
            exact .inr ⟨_, _, rfl, flaw, sofar⟩
      · next absent =>
          refine .inr ⟨_, _, rfl, .missing here fresh fun content holds => ?_, sofar⟩
          exact absent (FileTree.isFile_iff_holds.mpr ⟨content, holds⟩)

theorem nodup_iff_fresh : names.Nodup ↔
    ∀ index name, names[index]? = some name → name ∉ names.take index := by
  rw [List.nodup_iff_getElem?_ne_getElem?]
  constructor
  · intro apart index name here again
    obtain ⟨earlier, bound, same⟩ := List.mem_take_iff_getElem.mp again
    obtain ⟨inside, _⟩ := List.getElem?_eq_some_iff.mp here
    refine apart earlier index (by omega) inside ?_
    rw [here, ← same, List.getElem?_eq_getElem]
  · intro fresh earlier index less inside same
    refine fresh index names[index] (List.getElem?_eq_getElem inside) ?_
    have bound : earlier < names.length := by omega
    rw [List.getElem?_eq_getElem bound, List.getElem?_eq_getElem inside] at same
    exact List.mem_take_iff_getElem.mpr ⟨earlier, by omega, Option.some.inj same⟩

theorem Flaw.here {failure : Failure}
    (flaw : Flaw obstacles files root suffix names index failure) :
    ∃ name, names[index]? = some name := by
  cases flaw with
  | repeated here _ => exact ⟨_, here⟩
  | missing here _ _ => exact ⟨_, here⟩
  | unreadable here _ _ _ => exact ⟨_, here⟩
  | garbled here _ _ _ _ => exact ⟨_, here⟩

theorem Listed.unique {template other : TemplateUnit}
    (listed : Listed obstacles files root suffix index template)
    (listedToo : Listed obstacles files root suffix index other)
    (same : template.name = other.name) : template = other := by
  obtain ⟨name, path, source⟩ := template
  obtain ⟨nameToo, pathToo, sourceToo⟩ := other
  obtain rfl : name = nameToo := same
  obtain rfl : path = pathToo := listed.path.trans listedToo.path.symm
  obtain rfl : source = sourceToo :=
    String.toByteArray_inj.mp (listed.source.unique listedToo.source)
  rfl

def AllPass (obstacles : Obstacles) (files : FileTree) (root : Path) (suffix : String)
    (names : List String) (units : List TemplateUnit) : Prop :=
  units.map (·.name) = names ∧ ∀ index template, units[index]? = some template →
    Passes obstacles files root suffix names index template

theorem allPass_iff {units : List TemplateUnit} :
    AllPass obstacles files root suffix names units ↔
      names.Nodup ∧ units.map (·.name) = names ∧
        ∀ index template, units[index]? = some template →
          Listed obstacles files root suffix index template := by
  constructor
  · rintro ⟨rfl, passes⟩
    refine ⟨nodup_iff_fresh.mpr fun index name here => ?_, rfl,
      fun index template present => (passes index template present).listed⟩
    rw [List.getElem?_map] at here
    obtain ⟨template, present, rfl⟩ := Option.map_eq_some_iff.mp here
    exact (passes index template present).fresh
  · rintro ⟨once, rfl, listed⟩
    refine ⟨rfl, fun index template present => ?_⟩
    have here : (units.map (·.name))[index]? = some template.name := by
      rw [List.getElem?_map, present, Option.map_some]
    exact ⟨here, nodup_iff_fresh.mp once index _ here, listed index template present⟩

theorem AllPass.not_flaw {units : List TemplateUnit} {failure : Failure}
    (all : AllPass obstacles files root suffix names units) :
    ¬ Flaw obstacles files root suffix names index failure := by
  obtain ⟨rfl, passes⟩ := all
  intro flaw
  obtain ⟨name, here⟩ := flaw.here
  rw [List.getElem?_map] at here
  obtain ⟨template, present, _⟩ := Option.map_eq_some_iff.mp here
  exact (passes index template present).not_flaw flaw

theorem AllPass.unique {units others : List TemplateUnit}
    (all : AllPass obstacles files root suffix names units)
    (allToo : AllPass obstacles files root suffix names others) : units = others := by
  obtain ⟨shape, passes⟩ := all
  obtain ⟨shapeToo, passesToo⟩ := allToo
  have count : units.length = others.length := by
    simpa using congrArg List.length (shape.trans shapeToo.symm)
  refine List.ext_getElem count fun index bound boundToo => ?_
  have pass := passes index _ (List.getElem?_eq_getElem bound)
  have passToo := passesToo index _ (List.getElem?_eq_getElem boundToo)
  exact pass.listed.unique passToo.listed
    (Option.some.inj (pass.here.symm.trans passToo.here))

section
variable (calm : ∀ look, obstacles.cancelled look = false) (nonempty : names ≠ [])
include calm nonempty

theorem discover_judged :
    (∃ units, discover obstacles files root suffix names = .ok units ∧
        AllPass obstacles files root suffix names units) ∨
      ∃ failure index, discover obstacles files root suffix names = .error failure ∧
        Flaw obstacles files root suffix names index failure ∧
        ∀ earlier < index, ∃ template,
          Passes obstacles files root suffix names earlier template := by
  rw [discover, if_neg (by simpa using nonempty)]
  exact listed_judged calm rfl (by simp)

theorem discover_eq_ok_iff {units : List TemplateUnit} :
    discover obstacles files root suffix names = .ok units ↔
      AllPass obstacles files root suffix names units := by
  rcases discover_judged calm nonempty with ⟨found, ok, all⟩ | ⟨failure, index, error, flaw, -⟩
  · rw [ok, Except.ok.injEq]
    exact ⟨fun same => same ▸ all, fun allToo => all.unique allToo⟩
  · rw [error]
    exact ⟨nofun, fun all => absurd flaw all.not_flaw⟩

theorem discover_eq_error_iff {failure : Failure} :
    discover obstacles files root suffix names = .error failure ↔
      ∃ index, Flaw obstacles files root suffix names index failure ∧
        ∀ earlier < index, ∀ other, ¬ Flaw obstacles files root suffix names earlier other := by
  rcases discover_judged calm nonempty with ⟨found, ok, all⟩ | ⟨fault, place, error, flaw, passed⟩
  · rw [ok]
    exact ⟨nofun, fun ⟨_, flaw, _⟩ => absurd flaw all.not_flaw⟩
  · have first : ∀ earlier < place, ∀ other,
        ¬ Flaw obstacles files root suffix names earlier other := by
      intro earlier less other
      obtain ⟨template, passes⟩ := passed earlier less
      exact passes.not_flaw
    rw [error, Except.error.injEq]
    constructor
    · rintro rfl
      exact ⟨place, flaw, first⟩
    · rintro ⟨index, flawToo, firstToo⟩
      rcases Nat.lt_trichotomy index place with early | rfl | late
      · exact absurd flawToo (first index early failure)
      · exact flaw.unique flawToo
      · exact absurd flaw (firstToo place late fault)

/-- The templates of a list are found if and only if no name comes twice and the path of each is that
of a text, and then they are these, in the order of the list. Else the first name with a flaw
decides how the discovery fails. -/
theorem discover_listed_exact :
    (∀ units, discover obstacles files root suffix names = .ok units ↔
      names.Nodup ∧ units.map (·.name) = names ∧
        ∀ index template, units[index]? = some template →
          Listed obstacles files root suffix index template) ∧
    ((∃ units, discover obstacles files root suffix names = .ok units) ↔
      names.Nodup ∧ ∀ index name, names[index]? = some name →
        obstacles.unreadable index = none ∧
          ∃ text : String, files.Holds (listedPath root suffix name) text.toUTF8) ∧
    ∀ failure, discover obstacles files root suffix names = .error failure ↔
      ∃ index, Flaw obstacles files root suffix names index failure ∧
        ∀ earlier < index, ∀ other, ¬ Flaw obstacles files root suffix names earlier other := by
  refine ⟨fun units => (discover_eq_ok_iff calm nonempty).trans allPass_iff, ?_,
    fun failure => discover_eq_error_iff calm nonempty⟩
  constructor
  · rintro ⟨units, ok⟩
    obtain ⟨once, rfl, listed⟩ := allPass_iff.mp ((discover_eq_ok_iff calm nonempty).mp ok)
    refine ⟨once, fun index name here => ?_⟩
    rw [List.getElem?_map] at here
    obtain ⟨template, present, rfl⟩ := Option.map_eq_some_iff.mp here
    obtain ⟨path, readable, source⟩ := listed index template present
    exact ⟨readable, template.source, path ▸ source⟩
  · rintro ⟨once, texts⟩
    rcases discover_judged calm nonempty with ⟨found, ok, -⟩ | ⟨failure, index, -, flaw, -⟩
    · exact ⟨found, ok⟩
    · obtain ⟨name, here⟩ := flaw.here
      obtain ⟨readable, text, holds⟩ := texts index name here
      have passes : Passes obstacles files root suffix names index
          ⟨name, listedPath root suffix name, text⟩ :=
        ⟨here, nodup_iff_fresh.mp once index name here, rfl, readable, holds⟩
      exact absurd flaw passes.not_flaw

end

end

def mixedTree : FileTree where
  entries :=
    [(["t".toList], .directory), (["t".toList, "a.hbs".toList], .file "A".toUTF8 false),
      (["t".toList, "b.hbs".toList], .file ⟨#[0xff]⟩ false),
      (["t".toList, "d.hbs".toList], .directory)]
  here := []

theorem discover_mixedTree :
    ((∀ look, Obstacles.none.cancelled look = false) ∧ ["a", "b", "a", "d"] ≠ []) ∧
      discover .none mixedTree (.ofString "t") ".hbs" ["a", "b", "a", "d"] =
        .error (.templateUnreadable (.ofString "t/b.hbs") .notUtf8) ∧
      ∃ index, Flaw .none mixedTree (.ofString "t") ".hbs" ["a", "b", "a", "d"] index
          (.templateUnreadable (.ofString "t/b.hbs") .notUtf8) ∧
        ∀ earlier < index, ∀ other,
          ¬ Flaw .none mixedTree (.ofString "t") ".hbs" ["a", "b", "a", "d"] earlier other := by
  have error : discover .none mixedTree (.ofString "t") ".hbs" ["a", "b", "a", "d"] =
      .error (.templateUnreadable (.ofString "t/b.hbs") .notUtf8) := by
    decide +kernel
  have calm : ∀ look, Obstacles.none.cancelled look = false := fun _ => rfl
  have nonempty : ["a", "b", "a", "d"] ≠ [] := by simp
  exact ⟨⟨calm, nonempty⟩, error, ((discover_listed_exact calm nonempty).2.2 _).mp error⟩

end Discovery

end TagTemplate
