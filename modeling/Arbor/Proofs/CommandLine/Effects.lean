/-
# What the command line does, in order

The command line has three stages: the tree grows, its scene is exported if there
is a path, and its picture is drawn if it is wanted. A fault of the settings or of
the grammar is told before anything is printed, and no other fault can come from
the options of a mimosa (`CommandLine.config_of_refused`). The size of the tree is
told in three lines before the export begins, and an export that fails ends the
program, told if a file is denied and passed on otherwise. The scene itself never
fails (`CommandLine.scene_default`).

`CommandLine.Later` lists the four ways this can go once the tree has grown, and
`CommandLine.Effects` puts the three lines in front of them, or the one complaint
instead; both have all events and the ending.

Key definitions: `CommandLine.figures`, `CommandLine.Later`, `CommandLine.Effects`.
Key theorems: `CommandLine.config_of_refused`, `CommandLine.generations_of_grown`,
`CommandLine.scene_default`, `CommandLine.course_saveScene_ok`,
`CommandLine.course_saveScene_denied`, `CommandLine.course_saveScene_failed`,
`CommandLine.later_saveScene`, `CommandLine.effects_growTree`,
`CommandLine.grow_effects`.
-/
import Arbor.Proofs.CommandLine.Course
import Arbor.Proofs.CommandLine.Outcome
import Arbor.Proofs.Mesh.Scene

namespace Arbor
namespace CommandLine

/-! ### The stages -/

section Growth

variable {γ : Type} [Generator γ Float]

/-- What has no value is no number of generations. -/
theorem prepare_dropped (seed : Option Int) (step : Float) :
    ∃ fault, Tree.prepare (optionsOf seed (generationsOf .dropped) step) = .error fault ∧
      isConfigFault fault = true := by
  have measured : (optionsOf seed (generationsOf .dropped) step).Measured step 45.0 15.0 0.7
      1.3 := ⟨rfl, rfl, rfl, rfl, rfl⟩
  have hprepare := Tree.prepare_ranged measured
  by_cases hstep : 0.0 < step
  · rw [if_neg (not_not_intro hstep)] at hprepare
    exact ⟨.grammar .generationsNotWhole, hprepare, rfl⟩
  · rw [if_pos hstep] at hprepare
    exact ⟨_, hprepare, rfl⟩

/-- A tree that the command line cannot grow is at fault by its settings. -/
theorem config_of_refused (bounded : Generator.Bounded γ) {seed : Option Int}
    {generations : Given Int} {step : Float} {entropy : Int} {fault : Tree.Fault Float}
    (h : (Tree.generate (Tree.plant (optionsOf seed (generationsOf generations) step) entropy :
      Tree Float γ)).1 = .error fault) :
    isConfigFault fault = true := by
  have told : ∀ {refused : Tree.Fault Float},
      Tree.prepare (optionsOf seed (generationsOf generations) step) = .error refused →
        fault = refused := fun hprepare => by
    rw [Tree.generate_of_refused hprepare] at h
    exact (Except.error.inj h).symm
  cases generations with
  | value n =>
    have hprepare := Tree.prepare_mimosa (isMimosa_optionsOf seed n step)
    by_cases hstep : 0.0 < step
    · rw [if_neg (not_not_intro hstep)] at hprepare
      by_cases hn : n < 0
      · rw [if_pos hn] at hprepare
        rw [told hprepare]
        rfl
      · obtain ⟨segments, grown, hgrown, -⟩ :=
          Tree.generate_mimosa bounded (isMimosa_optionsOf seed n step) (Int.not_lt.1 hn) hstep
            (Generator.seeded (seed.getD entropy) : γ)
        cases (congrArg Prod.fst hgrown).symm.trans h
    · rw [if_pos hstep] at hprepare
      rw [told hprepare]
      rfl
  | dropped =>
    obtain ⟨refused, hprepare, config⟩ := prepare_dropped seed step
    rw [told hprepare]
    exact config

/-- A tree that has grown was asked for with a number of generations. -/
theorem generations_of_grown {seed : Option Int} {generations : Given Int} {step : Float}
    {entropy : Int} {segments : List (Segment Float)} {tree : Tree Float γ}
    (h : Tree.generate (Tree.plant (optionsOf seed (generationsOf generations) step) entropy) =
      (.ok segments, tree)) :
    ∃ n, generations = .value n := by
  cases generations with
  | value n => exact ⟨n, rfl⟩
  | dropped =>
    obtain ⟨refused, hprepare, -⟩ := prepare_dropped seed step
    rw [Tree.generate_of_refused hprepare] at h
    cases congrArg Prod.fst h

end Growth

section Stages

variable {γ ω : Type} {exporter : Mesh Float → List Char → ω → Except Export.Fault Unit × ω}
  {tree : Tree Float γ} {path : List Char} {rest : Program} {files : ω}

/-- With the radii of the command line every tree has a scene. -/
theorem scene_default (tree : Tree Float γ) :
    ∃ mesh, scene tree true SceneRadii.default = .ok mesh := by
  have reckoned : (SceneRadii.default : SceneRadii Float).Reckoned tree :=
    ⟨fun _ => Quantity.reckoned_scalar _, fun _ => Quantity.reckoned_scalar _,
      fun _ => Quantity.reckoned_scalar _⟩
  obtain ⟨_, _, _, _, -, -, -, -, -, hscene, -⟩ :=
    scene_of_positive reckoned (by decide) (by decide) (by decide)
  exact ⟨_, hscene⟩

section Saving

variable {mesh : Mesh Float} (wanted : path ≠ [])
  (whole : scene tree true SceneRadii.default = .ok mesh)

include wanted whole

theorem course_saveScene_ok (hexport : (exporter mesh path files).1 = .ok ()) :
    (saveScene tree path rest).course exporter files =
      (.exported mesh path :: .printed ("Done: " ++ String.ofList path) ::
          (rest.course exporter (exporter mesh path files).2).1,
        (rest.course exporter (exporter mesh path files).2).2) := by
  unfold saveScene
  simp only [List.isEmpty_eq_false_iff.2 wanted, Bool.false_eq_true, if_false, whole,
    Program.course, hexport]

theorem course_saveScene_denied {why : Folder.Denial} {place : List Char}
    (hexport : (exporter mesh path files).1 = .error (.folder (.denied why place))) :
    (saveScene tree path rest).course exporter files =
      ([.exported mesh path,
        .complained ("File error: " ++ (Folder.Fault.denied why place).message)], .exit 2) := by
  unfold saveScene
  simp only [List.isEmpty_eq_false_iff.2 wanted, Bool.false_eq_true, if_false, whole,
    Program.course, hexport]

theorem course_saveScene_failed {fault : Export.Fault}
    (hexport : (exporter mesh path files).1 = .error fault)
    (other : ∀ why place, fault ≠ .folder (.denied why place)) :
    (saveScene tree path rest).course exporter files =
      ([.exported mesh path], .raised (.saving fault)) := by
  unfold saveScene
  simp only [List.isEmpty_eq_false_iff.2 wanted, Bool.false_eq_true, if_false, whole,
    Program.course, hexport]

end Saving

/-- The figures made of a tree: one, if it is wanted. -/
def figures (tree : Tree Float γ) (wanted : Bool) : List Event :=
  if wanted then (picture tree true).toOption.toList.map fun drawn => .drew (.picture drawn)
  else []

theorem course_drawAndExit
    (exporter : Mesh Float → List Char → ω → Except Export.Fault Unit × ω) (files : ω)
    {wanted : Bool} (drawable : wanted = true → ∃ drawn, picture tree true = .ok drawn) :
    (drawAndExit tree wanted).course exporter files = (figures tree wanted, .exit 0) := by
  cases wanted with
  | false => rfl
  | true =>
    obtain ⟨drawn, hdrawn⟩ := drawable rfl
    unfold drawAndExit figures
    simp only [hdrawn]
    rfl

end Stages

/-! ### All that it can come to -/

section Ways

variable {γ ω : Type} (exporter : Mesh Float → List Char → ω → Except Export.Fault Unit × ω)
  (files : ω) (generations : Given Int) (path : List Char) (plot : Bool)

/-- What the command line does once it has told how large a tree is, event by
event, and how it ends. -/
inductive Later (tree : Tree Float γ) : List Event × Ending → Prop
  /-- There is no path to export to. -/
  | unsaved (unwanted : path = []) : Later tree (figures tree plot, .exit 0)
  /-- The scene is exported. -/
  | saved {mesh : Mesh Float} (wanted : path ≠ [])
      (whole : scene tree true SceneRadii.default = .ok mesh)
      (saved : (exporter mesh path files).1 = .ok ()) :
      Later tree
        (.exported mesh path :: .printed ("Done: " ++ String.ofList path) :: figures tree plot,
          .exit 0)
  /-- The file is denied. That is told, and nothing else is done. -/
  | denied {mesh : Mesh Float} {why : Folder.Denial} {place : List Char} (wanted : path ≠ [])
      (whole : scene tree true SceneRadii.default = .ok mesh)
      (denied : (exporter mesh path files).1 = .error (.folder (.denied why place))) :
      Later tree
        ([.exported mesh path,
          .complained ("File error: " ++ (Folder.Fault.denied why place).message)], .exit 2)
  /-- The export fails in another way, and the program breaks off. -/
  | failed {mesh : Mesh Float} {fault : Export.Fault} (wanted : path ≠ [])
      (whole : scene tree true SceneRadii.default = .ok mesh)
      (failed : (exporter mesh path files).1 = .error fault)
      (other : ∀ why place, fault ≠ .folder (.denied why place)) :
      Later tree ([.exported mesh path], .raised (.saving fault))

/-- What the command line does after a growth, event by event, and how it
ends. -/
inductive Effects :
    Except (Tree.Fault Float) (List (Segment Float)) × Tree Float γ → List Event × Ending → Prop
  /-- The settings are at fault. That is told, and nothing else is done. -/
  | refused {fault : Tree.Fault Float} {tree : Tree Float γ} (config : isConfigFault fault = true) :
      Effects (.error fault, tree)
        ([.complained ("Config error: " ++ fault.message)], .exit 2)
  /-- The tree has grown. Before anything else is done three lines are printed:
  how many symbols its word has, what its base angle is, and how many branches,
  leaves and flowers it has. -/
  | grown {n : Int} {segments : List (Segment Float)} {tree : Tree Float γ}
      {later : List Event × Ending} (asked : generations = .value n)
      (after : Later exporter files path plot tree later) :
      Effects (.ok segments, tree)
        (.printed ("Expanded " ++ toString n ++ " generations into " ++
            Places.grouped tree.word.length ++ " symbols") ::
          .printed ("Base angle: " ++ Places.fixed 1 (Scalar.degrees tree.baseAngle) ++ " deg") ::
          .printed ("Generated " ++ Places.grouped tree.segments.length ++ " branches, " ++
            Places.grouped tree.leaves.length ++ " leaves, " ++
            Places.grouped tree.flowers.length ++ " flowers") :: later.1, later.2)

end Ways

section Afterwards

variable {γ ω : Type} {exporter : Mesh Float → List Char → ω → Except Export.Fault Unit × ω}
  {files : ω} {path : List Char} {plot : Bool} {tree : Tree Float γ}
  {later : List Event × Ending}

/-- Whatever the export comes to, the rest of the course is one of the four. -/
theorem later_saveScene (files : ω) (path : List Char)
    (drawable : plot = true → ∃ drawn, picture tree true = .ok drawn) :
    Later exporter files path plot tree
      ((saveScene tree path (drawAndExit tree plot)).course exporter files) := by
  have hfigures := fun left => course_drawAndExit exporter left drawable
  by_cases hpath : path = []
  · have hdrawn : (saveScene tree path (drawAndExit tree plot)).course exporter files =
        (figures tree plot, .exit 0) := by
      rw [hpath]
      exact hfigures files
    rw [hdrawn]
    exact .unsaved hpath
  · obtain ⟨mesh, whole⟩ := scene_default tree
    cases hexport : (exporter mesh path files).1 with
    | ok _ =>
      rw [course_saveScene_ok hpath whole hexport, hfigures]
      exact .saved hpath whole hexport
    | error fault =>
      by_cases hdenied : ∃ why place, fault = .folder (.denied why place)
      · obtain ⟨why, place, rfl⟩ := hdenied
        rw [course_saveScene_denied hpath whole hexport]
        exact .denied hpath whole hexport
      · have other : ∀ why place, fault ≠ .folder (.denied why place) :=
          fun why place hfault => hdenied ⟨why, place, hfault⟩
        rw [course_saveScene_failed hpath whole hexport other]
        exact .failed hpath whole hexport other

theorem done_notMem_figures (line : String) (tree : Tree Float γ) (wanted : Bool) :
    Event.printed line ∉ figures tree wanted := by
  unfold figures
  cases wanted <;> simp

theorem drew_mem_figures {tree : Tree Float γ} {wanted : Bool}
    (drawable : wanted = true → ∃ drawn, picture tree true = .ok drawn) :
    (∃ sheet, Event.drew sheet ∈ figures tree wanted) ↔ wanted = true := by
  unfold figures
  cases wanted with
  | false => simp
  | true =>
    obtain ⟨drawn, hdrawn⟩ := drawable rfl
    simp [hdrawn, Except.toOption]

theorem Later.exit_zero_iff (h : Later exporter files path plot tree later) {mesh : Mesh Float}
    (whole : scene tree true SceneRadii.default = .ok mesh) :
    later.2 = .exit 0 ↔ (path ≠ [] → (exporter mesh path files).1 = .ok ()) := by
  cases h with
  | unsaved unwanted => simp [unwanted]
  | saved wanted whole' saved =>
    cases whole.symm.trans whole'
    simp [saved]
  | denied wanted whole' denied =>
    cases whole.symm.trans whole'
    simp [wanted, denied]
  | failed wanted whole' failed other =>
    cases whole.symm.trans whole'
    simp [wanted, failed]

theorem Later.done_iff (h : Later exporter files path plot tree later) (text : String) :
    .printed ("Done: " ++ text) ∈ later.1 ↔
      later.2 = .exit 0 ∧ path ≠ [] ∧ text = String.ofList path := by
  have hfigures := done_notMem_figures ("Done: " ++ text) tree plot
  cases h with
  | unsaved unwanted => simp [hfigures, unwanted]
  | saved wanted whole saved => simp [hfigures, wanted]
  | denied wanted whole denied => simp
  | failed wanted whole failed other => simp

theorem Later.drew_iff (h : Later exporter files path plot tree later)
    (drawable : plot = true → ∃ drawn, picture tree true = .ok drawn) :
    (∃ sheet, .drew sheet ∈ later.1) ↔ later.2 = .exit 0 ∧ plot = true := by
  cases h with
  | unsaved unwanted => simp [drew_mem_figures drawable]
  | saved wanted whole saved => simp [drew_mem_figures drawable]
  | denied wanted whole denied => simp
  | failed wanted whole failed other => simp

end Afterwards

section Effects

variable {γ ω : Type} {exporter : Mesh Float → List Char → ω → Except Export.Fault Unit × ω}
  {files : ω} {generations : Given Int} {path : List Char} {plot : Bool}
  {growth : Except (Tree.Fault Float) (List (Segment Float)) × Tree Float γ}
  {ran : List Event × Ending}

/-- A line that begins in another way does not tell of an export. -/
theorem done_ne (text : String) {line : String} (h : line.toList.head? ≠ some 'D') :
    "Done: " ++ text ≠ line := by
  rintro rfl
  rw [String.toList_append] at h
  exact h rfl

theorem Effects.exit_zero_iff (h : Effects exporter files generations path plot growth ran)
    {mesh : Mesh Float} (whole : scene growth.2 true SceneRadii.default = .ok mesh) :
    ran.2 = .exit 0 ↔
      growth.1.isOk = true ∧ (path ≠ [] → (exporter mesh path files).1 = .ok ()) := by
  cases h with
  | refused config => simp [Except.isOk, Except.toBool]
  | grown asked after =>
    rw [after.exit_zero_iff whole]
    exact (and_iff_right rfl).symm

theorem Effects.done_iff (h : Effects exporter files generations path plot growth ran)
    (text : String) :
    .printed ("Done: " ++ text) ∈ ran.1 ↔
      ran.2 = .exit 0 ∧ path ≠ [] ∧ text = String.ofList path := by
  cases h with
  | refused config => simp
  | grown asked after =>
    rw [← after.done_iff text]
    simp only [List.mem_cons, Event.printed.injEq]
    rw [or_iff_right (done_ne text (by simp [String.toList_append])),
      or_iff_right (done_ne text (by simp [String.toList_append])),
      or_iff_right (done_ne text (by simp [String.toList_append]))]

theorem Effects.drew_iff (h : Effects exporter files generations path plot growth ran)
    (drawable : growth.1.isOk = true → plot = true → ∃ drawn, picture growth.2 true = .ok drawn) :
    (∃ sheet, .drew sheet ∈ ran.1) ↔ ran.2 = .exit 0 ∧ plot = true := by
  cases h with
  | refused config => simp
  | grown asked after =>
    rw [← after.drew_iff (drawable rfl)]
    simp

end Effects

section Grow

variable {γ : Type} [Generator γ Float] {ω : Type}
  (exporter : Mesh Float → List Char → ω → Except Export.Fault Unit × ω) (files : ω)
  (entropy : Int)

/-- Without a seed or a step nothing is done. -/
theorem course_growTree_missing {a : Arguments}
    (missing : (∀ seed, a.seed ≠ .value seed) ∨ ∀ step, a.step ≠ .value step) :
    (growTree γ entropy a).course exporter files = ([], .raised .missingValue) := by
  obtain ⟨_ | _, generations, _ | _, path, plot⟩ := a
  · rcases missing with hseed | hstep
    · exact absurd rfl (hseed _)
    · exact absurd rfl (hstep _)
  all_goals rfl

theorem course_growTree_refused {a : Arguments} {seed : Option Int} {step : Float}
    (hseed : a.seed = .value seed) (hstep : a.step = .value step) {fault : Tree.Fault Float}
    {tree : Tree Float γ}
    (h : Tree.generate (Tree.plant (optionsOf seed (generationsOf a.generations) step) entropy) =
      (.error fault, tree)) (config : isConfigFault fault = true) :
    (growTree γ entropy a).course exporter files =
      ([.complained ("Config error: " ++ fault.message)], .exit 2) := by
  unfold growTree
  simp only [hseed, hstep, h, config, if_true]
  rfl

theorem course_growTree_grown {a : Arguments} {seed : Option Int} {step : Float}
    (hseed : a.seed = .value seed) (hstep : a.step = .value step)
    {segments : List (Segment Float)} {tree : Tree Float γ}
    (h : Tree.generate (Tree.plant (optionsOf seed (generationsOf a.generations) step) entropy) =
      (.ok segments, tree)) :
    let later := (saveScene tree (a.exportPath.getD []) (drawAndExit tree a.plot)).course exporter
      files
    (growTree γ entropy a).course exporter files =
      ((summary (generationsOf a.generations) tree).map .printed ++ later.1, later.2) := by
  unfold growTree
  simp only [hseed, hstep, h, Program.course_prints]
  rfl

/-- Whatever the growth comes to, it is refused or told and then gone on with. -/
theorem effects_growTree (bounded : Generator.Bounded γ) {a : Arguments} {seed : Option Int}
    {step : Float} (hseed : a.seed = .value seed) (hstep : a.step = .value step)
    {growth : Except (Tree.Fault Float) (List (Segment Float)) × Tree Float γ}
    (h : Tree.generate (Tree.plant (optionsOf seed (generationsOf a.generations) step) entropy) =
      growth)
    (drawable : growth.1.isOk = true → a.plot = true →
      ∃ drawn, picture growth.2 true = .ok drawn) :
    Effects exporter files a.generations (a.exportPath.getD []) a.plot growth
      ((growTree γ entropy a).course exporter files) := by
  obtain ⟨fault | segments, tree⟩ := growth
  · have config := config_of_refused bounded (congrArg Prod.fst h)
    rw [course_growTree_refused exporter files entropy hseed hstep h config]
    exact .refused config
  · obtain ⟨n, asked⟩ := generations_of_grown h
    rw [course_growTree_grown exporter files entropy hseed hstep h, asked]
    exact .grown rfl (later_saveScene files _ (drawable rfl))

end Grow

/-- **Effects of the command line, in order.** Let the arguments be good and,
where a picture is wanted, let nothing go wrong with it. Then there are five ways
for the command line to go. A fault of the settings is told, with the code two,
and nothing else is done. Otherwise three lines are printed first: the number of
symbols, the base angle, and the numbers of branches, leaves and flowers. If
there is a path, the scene with the vase is exported to it once: a file that is
denied is told, with the code two, and any other fault is passed on, both with
nothing done after it. The code is zero exactly if the tree grows and the export
that is asked for succeeds. Only then is anything said to be done, if there is a
path, and only then is there a figure, if one is wanted. The record of a run is
what these events leave behind. A seed or a step without a value breaks the
command line off before anything is done. -/
theorem grow_effects {γ : Type} [Generator γ Float] {ω : Type}
    (exporter : Mesh Float → List Char → ω → Except Export.Fault Unit × ω) (record : Record ω)
    (entropy : Int) {words : List (List Char)} {a : Arguments}
    (given : readArguments words = .arguments a) (bounded : Generator.Bounded γ) :
    let ran := (grow γ entropy words).course exporter record.files
    (grow γ entropy words).run exporter record =
      (ran.1.foldl (Event.leave exporter) record, ran.2) ∧
    ((∀ seed, a.seed ≠ .value seed) ∨ (∀ step, a.step ≠ .value step) →
      ran = ([], .raised .missingValue)) ∧
    ∀ seed step, a.seed = .value seed → a.step = .value step →
      let growth := Tree.generate
        (Tree.plant (optionsOf seed (generationsOf a.generations) step) entropy : Tree Float γ)
      (growth.1.isOk = true → a.plot = true → ∃ drawn, picture growth.2 true = .ok drawn) →
      let path := a.exportPath.getD []
      Effects exporter record.files a.generations path a.plot growth ran ∧
      (∃ mesh, scene growth.2 true SceneRadii.default = .ok mesh ∧
        (ran.2 = .exit 0 ↔ growth.1.isOk = true ∧
          (path ≠ [] → (exporter mesh path record.files).1 = .ok ()))) ∧
      (∀ text, .printed ("Done: " ++ text) ∈ ran.1 ↔
        ran.2 = .exit 0 ∧ path ≠ [] ∧ text = String.ofList path) ∧
      ((∃ sheet, .drew sheet ∈ ran.1) ↔ ran.2 = .exit 0 ∧ a.plot = true) := by
  intro ran
  have hran : ran = (growTree γ entropy a).course exporter record.files := by
    show (grow γ entropy words).course exporter record.files = _
    unfold grow
    rw [given]
  refine ⟨Program.run_course exporter _ record, fun hmissing => ?_, ?_⟩
  · rw [hran, course_growTree_missing exporter record.files entropy hmissing]
  · intro seed step hseed hstep growth drawable path
    have heffects := effects_growTree exporter record.files entropy bounded hseed hstep
      (rfl : _ = growth) drawable
    rw [← hran] at heffects
    obtain ⟨mesh, whole⟩ := scene_default growth.2
    exact ⟨heffects, ⟨mesh, whole, heffects.exit_zero_iff whole⟩, heffects.done_iff,
      heffects.drew_iff drawable⟩

/-- A mimosa exported to a file, and the same one where the name is that of a
folder. -/
theorem grow_effects_export :
    let words := ["--seed", "7", "--generations", "1", "--export", "tree.obj", "--no-plot"].map
      String.toList
    (∃ ran, (grow Twister 0 words).course (fun _ _ files => (.ok (), files + 1)) (0 : Nat) = ran ∧
      ran.2 = .exit 0 ∧
      ran.1.head? = some (.printed "Expanded 1 generations into 21 symbols") ∧
      .printed "Done: tree.obj" ∈ ran.1 ∧ ∀ sheet, .drew sheet ∉ ran.1) ∧
    ∃ ran, (grow Twister 0 words).course
        (fun _ _ files => (.error (.folder (.denied .isAFolder "tree.obj".toList)), files))
        (0 : Nat) = ran ∧
      ran.2 ≠ .exit 0 ∧ ∀ text, .printed ("Done: " ++ text) ∉ ran.1 := by
  intro words
  have given : readArguments words = .arguments
      ⟨.value (some 7), .value 1, .value 0.5, some "tree.obj".toList, false⟩ := rfl
  obtain ⟨segments, grown, hgrown, hword, -⟩ := Tree.generate_mimosa Twister.bounded
    (isMimosa_optionsOf (some 7) 1 0.5) (by decide) (by decide) (Generator.seeded 7 : Twister)
  have hgrowth : Tree.generate (Tree.plant (optionsOf (some 7) (generationsOf (.value 1)) 0.5) 0 :
      Tree Float Twister) = (.ok segments, grown) := hgrown
  have hok : (Tree.generate (Tree.plant (optionsOf (some 7) (generationsOf (.value 1)) 0.5) 0 :
      Tree Float Twister)).1.isOk = true := by
    rw [hgrowth]
    rfl
  have hpath : "tree.obj".toList ≠ [] := by decide
  constructor
  · generalize hran : (grow Twister 0 words).course (fun _ _ files => (.ok (), files + 1))
      (0 : Nat) = ran
    have heffects := grow_effects (fun _ _ files => (.ok (), files + 1))
      ⟨[], [], [], (0 : Nat)⟩ 0 given Twister.bounded
    simp only [hran] at heffects
    obtain ⟨hways, ⟨mesh, -, hexit⟩, hdone, hdrew⟩ := heffects.2.2 _ _ rfl rfl
      fun _ hplot => absurd hplot Bool.false_ne_true
    have hzero := hexit.2 ⟨hok, fun _ => trivial⟩
    refine ⟨ran, rfl, hzero, ?_, (hdone "tree.obj").2 ⟨hzero, hpath, String.ofList_toList.symm⟩,
      fun sheet hsheet => ?_⟩
    · rw [hgrowth] at hways
      cases hways with
      | grown asked after =>
        cases asked
        rw [hword]
        rfl
    · exact Bool.false_ne_true (hdrew.1 ⟨sheet, hsheet⟩).2
  · generalize hran : (grow Twister 0 words).course
      (fun _ _ files => (.error (.folder (.denied .isAFolder "tree.obj".toList)), files))
      (0 : Nat) = ran
    have heffects := grow_effects
      (fun _ _ files => (.error (.folder (.denied .isAFolder "tree.obj".toList)), files))
      ⟨[], [], [], (0 : Nat)⟩ 0 given Twister.bounded
    simp only [hran] at heffects
    obtain ⟨-, ⟨mesh, -, hexit⟩, hdone, -⟩ := heffects.2.2 _ _ rfl rfl
      fun _ hplot => absurd hplot Bool.false_ne_true
    have hnot := mt hexit.1 fun h => nomatch h.2 hpath
    exact ⟨ran, rfl, hnot, fun text htext => hnot ((hdone text).1 htext).1⟩

end CommandLine
end Arbor
