import ControlPlane.Command.Program
import ControlPlane.Proofs.Saving
import ControlPlane.Proofs.SetOrder
import ControlPlane.Proofs.Submission

/-!
# Rendering to the output and into a directory

The same command line with and without a directory, run by two processes on the same files.  The
directory decides nothing but where a finished manifest goes: the command line is understood alike
otherwise (`plan_insert_out`), the settings are found without a change to any file (`run_settings`),
and nothing can fail behind that but what fails for both (`saves_render`).

What the processes do not share is the order in which they go through sets.  They find the same
settings if the orders do not differ on what is written (`ofWritten_of_orderedAlike`), and the same
but for the order of the peer addresses if they do (`Config.ofWritten_apart`).

* `run_savesShown`: the two runs fail together and leave all files alone, or one saves what the
  other one prints, up to that order, and changes nothing else.
* `not_savesShown`: nothing is saved if a shell asks, and what is saved is not what is printed if
  two processes see the members of a set in different orders.
-/

namespace ControlPlane

/-! ## command lines -/

namespace Command

/-- An option of the command that renders the manifest, with its value. -/
structure Choice where
  option : OptionInfo
  value : String
  isKnown : option ∈ renderCommand.options

namespace Choice

/-- A choice as it is written. -/
def words (c : Choice) : List String := [c.option.long, c.value]

/-- A choice as it is understood. -/
def given (c : Choice) : Given := ⟨c.option.name, some c.value⟩

/-- The words of a command line that renders the manifest with these choices. -/
def line (choices : List Choice) : List String := renderName :: choices.flatMap words

/-- A directory for the manifest. -/
def out (directory : String) : Choice where
  option :=
    { name := "out", letter := some 'o', value := some .text
      help := "Output directory; prints to stdout when omitted" }
  value := directory
  isKnown := by simp [renderCommand]

/-- A choice of something other than the directory. -/
def IsSetting (c : Choice) : Prop := c.option.name ≠ "out"

/-- How the options of the command are written: they all take a value, and no two are alike. -/
theorem long_of_mem : ∀ o ∈ renderCommand.options,
    o.long ≠ "--" ∧ isOptionWord o.long = true ∧
    splitValue o.long.toList = (o.long.toList, none) ∧
    (renderCommand.allOptions.find? fun p => p.long.toList == o.long.toList).any
      (fun p => p.name == o.name && p.value.isSome) = true := by
  decide +kernel

/-- A choice is understood as it is meant. -/
theorem wordOptions_words (c : Choice) :
    wordOptions renderCommand.allOptions c.option.long.toList (some c.value)
      = .ok ([c.given], true) := by
  obtain ⟨-, -, hsplit, hfind⟩ := long_of_mem c.option c.isKnown
  obtain ⟨p, hp, hlike⟩ := Option.any_eq_true _ _ |>.mp hfind
  obtain ⟨hname, hvalue⟩ := Bool.and_eq_true_iff.mp hlike
  obtain ⟨kind, hkind⟩ := Option.isSome_iff_exists.mp hvalue
  rw [wordOptions, hsplit]
  simp only [hp, Option.map_none, longOption, hkind, nextValue, eq_of_beq hname, given]

/-- Choices are understood one by one. -/
theorem readArguments_words (choices : List Choice) {fuel : Nat} (h : choices.length ≤ fuel) :
    readArguments renderCommand.allOptions true fuel (choices.flatMap words)
      = .ok { options := choices.map given } := by
  induction choices generalizing fuel with
  | nil => cases fuel <;> rfl
  | cons c choices ih =>
      obtain _ | fuel := fuel
      · cases h
      · obtain ⟨hend, hword, -⟩ := long_of_mem c.option c.isKnown
        rw [List.flatMap_cons, words, List.cons_append, List.cons_append, List.nil_append,
          readArguments, if_neg hend, if_pos hword]
        simp only [List.head?_cons, wordOptions_words, if_true, List.tail_cons]
        rw [ih (Nat.le_of_succ_le_succ h)]
        rfl

end Choice

/-- What is understood of a command line with choices. -/
def understood (choices : List Choice) : Arguments := { options := choices.map Choice.given }

theorem arguments?_words (choices : List Choice) :
    renderCommand.arguments? true (choices.flatMap Choice.words) = .ok (understood choices) := by
  have hlength : choices.length ≤ (choices.flatMap Choice.words).length := by
    induction choices with
    | nil => exact Nat.le_refl 0
    | cons c choices ih =>
        rw [List.flatMap_cons, List.length_append, List.length_cons]
        have : c.words.length = 2 := rfl
        omega
  exact Choice.readArguments_words choices (Nat.le_succ_of_le hlength)

theorem has_helpOption_understood (choices : List Choice) :
    (understood choices).has .helpOption = false := by
  have hname : ∀ o ∈ renderCommand.options, (o.name == OptionInfo.helpOption.name) = false := by
    decide +kernel
  rw [Arguments.has, List.any_eq_false]
  intro g hg
  obtain ⟨c, -, rfl⟩ := List.mem_map.mp hg
  rw [Choice.given, hname c.option c.isKnown]
  exact Bool.false_ne_true

/-- A command line with choices renders a manifest, unless one of the values cannot be used. -/
theorem plan_line (choices : List Choice) :
    plan (Choice.line choices) =
      match choices.findSome? fun c => planUnusable? (understood choices) c.option.name with
      | some plan => plan
      | none =>
        .render
          { config := ((understood choices).value? "config").getD ""
            envFile := ((understood choices).value? "env-file").getD ""
            out := ((understood choices).value? "out").getD ""
            namespaceName := (understood choices).value? "namespace"
            replicas := ((understood choices).value? "replicas").bind integer?
            storageClass := (understood choices).value? "storage-class"
            capacity := (understood choices).value? "capacity" } := by
  have hrender : plan (Choice.line choices) = planRender (choices.flatMap Choice.words) := by
    have hcommand : isOptionWord renderName = false ∧ renderName ≠ "--" := by decide +kernel
    rw [plan, Choice.line, CommandInfo.arguments?, List.length_cons, readArguments,
      if_neg hcommand.2, hcommand.1]
    rfl
  rw [hrender, planRender, arguments?_words]
  simp only [has_helpOption_understood, Bool.false_eq_true, if_false]
  have hgiven : (understood choices).options.findSome?
      (fun g => planUnusable? (understood choices) g.option)
      = choices.findSome? fun c => planUnusable? (understood choices) c.option.name := by
    rw [understood, List.findSome?_map]
    rfl
  rw [hgiven]
  rfl

/-! ## a directory among the choices -/

section Out

variable {before after : List Choice} (directory : String)

/-- A directory does not hide another choice. -/
theorem value?_insert_out {name : String} (h : name ≠ "out") :
    (understood (before ++ .out directory :: after)).value? name
      = (understood (before ++ after)).value? name := by
  have hout : ((Choice.out directory).given.option == name) = false := by
    simpa [Choice.given, Choice.out] using h.symm
  simp [Arguments.value?, understood, List.find?_append, hout]

/-- Only a directory is understood as one. -/
theorem find?_out_settings {choices : List Choice} (h : ∀ c ∈ choices, c.IsSetting) :
    (choices.map Choice.given).reverse.find? (fun g => g.option == "out") = none := by
  rw [List.find?_eq_none]
  intro g hg
  obtain ⟨c, hc, rfl⟩ := List.mem_map.mp (List.mem_reverse.mp hg)
  rw [beq_iff_eq]
  exact h c hc

theorem value?_out_settings {choices : List Choice} (h : ∀ c ∈ choices, c.IsSetting) :
    (understood choices).value? "out" = none := by
  rw [Arguments.value?, understood, find?_out_settings h]
  rfl

theorem value?_out_insert_out (h : ∀ c ∈ after, c.IsSetting) :
    (understood (before ++ .out directory :: after)).value? "out" = some directory := by
  have hout : ((Choice.out directory).given.option == "out") = true := rfl
  rw [Arguments.value?, understood, List.map_append, List.reverse_append, List.map_cons,
    List.reverse_cons, List.find?_append, List.find?_append, find?_out_settings h,
    Option.none_or, List.find?_singleton, if_pos hout]
  rfl

/-- The value of another option is as usable as it is without a directory. -/
theorem planUnusable?_insert_out {name : String} (h : name ≠ "out") :
    planUnusable? (understood (before ++ .out directory :: after)) name
      = planUnusable? (understood (before ++ after)) name := by
  rw [planUnusable?, planUnusable?, value?_insert_out directory h]

/-- Every text can be used for the directory. -/
theorem planUnusable?_out (a : Arguments) : planUnusable? a "out" = none := by
  have hkind : (renderCommand.options.find? fun o => o.name == "out").bind (·.value)
      = some .text := by decide +kernel
  rw [planUnusable?, hkind]

/-- A value that cannot be used is reported, and no manifest is rendered. -/
theorem eq_of_planUnusable? {a : Arguments} {name : String} {p : Plan}
    (h : planUnusable? a name = some p) :
    (∃ text, p = .refuse text) ∨ ∃ path, p = .unnameable path := by
  unfold planUnusable? at h
  dsimp only at h
  split at h
  · split at h
    · cases h
    · exact .inl ⟨_, (Option.some.inj h).symm⟩
  · split at h
    · exact .inr ⟨_, (Option.some.inj h).symm⟩
    · cases h
  · cases h

/-- A plan whose manifest goes into a directory. -/
def Plan.into : Plan → Plan
  | .render o => .render { o with out := directory }
  | p => p

/-- A directory among the choices changes nothing of the plan but where the manifest goes. -/
theorem plan_insert_out (h : ∀ c ∈ before ++ after, c.IsSetting) :
    plan (Choice.line (before ++ .out directory :: after))
      = (plan (Choice.line (before ++ after))).into directory := by
  have hunusable : (before ++ .out directory :: after).findSome?
        (fun c => planUnusable? (understood (before ++ .out directory :: after)) c.option.name)
      = (before ++ after).findSome?
        fun c => planUnusable? (understood (before ++ after)) c.option.name := by
    have hout : planUnusable? (understood (before ++ .out directory :: after))
        (Choice.out directory).option.name = none := planUnusable?_out _
    have hsame : (before ++ after).filterMap
          (fun c => planUnusable? (understood (before ++ .out directory :: after)) c.option.name)
        = (before ++ after).filterMap
          fun c => planUnusable? (understood (before ++ after)) c.option.name :=
      List.filterMap_congr fun c hc => planUnusable?_insert_out directory (h c hc)
    rw [List.findSome?_append, List.findSome?_cons, hout, ← List.findSome?_append,
      ← List.head?_filterMap, ← List.head?_filterMap, hsame]
  rw [plan_line, plan_line, hunusable]
  cases hsome : (before ++ after).findSome? fun c =>
      planUnusable? (understood (before ++ after)) c.option.name with
  | some p =>
      obtain ⟨c, -, hc⟩ := List.exists_of_findSome?_eq_some hsome
      obtain ⟨text, rfl⟩ | ⟨path, rfl⟩ := eq_of_planUnusable? hc <;> rfl
  | none =>
      dsimp only [Plan.into]
      rw [value?_insert_out directory (by decide : "config" ≠ "out"),
        value?_insert_out directory (by decide : "env-file" ≠ "out"),
        value?_insert_out directory (by decide : "namespace" ≠ "out"),
        value?_insert_out directory (by decide : "replicas" ≠ "out"),
        value?_insert_out directory (by decide : "storage-class" ≠ "out"),
        value?_insert_out directory (by decide : "capacity" ≠ "out"),
        value?_out_insert_out directory fun c hc => h c (List.mem_append_right _ hc)]
      rfl

/-- Settings on a command line are for a manifest that is printed, or one of them cannot be used. -/
theorem plan_settings {choices : List Choice} (h : ∀ c ∈ choices, c.IsSetting) :
    (∃ text, plan (Choice.line choices) = .refuse text) ∨
    (∃ path, plan (Choice.line choices) = .unnameable path) ∨
    ∃ o : RenderOptions, o.out = "" ∧ plan (Choice.line choices) = .render o := by
  rw [plan_line]
  cases hsome : choices.findSome? fun c =>
      planUnusable? (understood choices) c.option.name with
  | some p =>
      obtain ⟨c, -, hc⟩ := List.exists_of_findSome?_eq_some hsome
      exact (eq_of_planUnusable? hc).imp id .inl
  | none => exact .inr (.inr ⟨_, by rw [value?_out_settings h]; rfl, rfl⟩)

end Out

/-! ## settings -/

/-- The mapping that is written in a configuration; without a file it is empty. -/
def RenderOptions.written (o : RenderOptions) (environment : Variables) :
    StateM FileTree (Except ConfigFailure (List (Scalar × Value))) := do
  match ← Config.withEnvFile FileTree.access environment environment o.envFile with
  | .error f => return .error f
  | .ok vars =>
    if o.config.isEmpty then return .ok []
    else return Config.writtenIn vars (← FileTree.access.read o.config)

/-- What is written is found without a change to any file. -/
theorem moves_written (o : RenderOptions) (environment : Variables) :
    FileTree.Moves Eq (o.written environment) := by
  have hvariables : FileTree.Moves Eq
      (Config.withEnvFile FileTree.access environment environment o.envFile) := by
    unfold Config.withEnvFile
    split
    · exact FileTree.moves_pure _
    · refine (FileTree.moves_kind? _).bind fun kind => ?_
      split
      · exact FileTree.moves_pure _
      · exact FileTree.moves_pure _
      · refine (FileTree.moves_read _).bind fun content => ?_
        split <;> exact FileTree.moves_pure _
  refine hvariables.bind fun vars => ?_
  split
  · exact FileTree.moves_pure _
  · split
    · exact FileTree.moves_pure _
    · exact (FileTree.moves_read _).bind fun _ => FileTree.moves_pure _

/-- What is written and the order of sets decide the settings. -/
theorem settings_eq (o : RenderOptions) (process : Process) :
    o.settings FileTree.access process = do
      return Config.ofWritten process.order (← o.written process.environment) o.overrides := by
  unfold RenderOptions.settings RenderOptions.written
  rw [bind_assoc]
  congr 1
  funext found
  cases found with
  | error f => rfl
  | ok vars =>
      dsimp only
      split
      · rfl
      · rfl

/-- So they are found without a change to any file. -/
theorem run_settings (o : RenderOptions) (process : Process) (t : FileTree) :
    (o.settings FileTree.access process).run t
      = (Config.ofWritten process.order ((o.written process.environment).run t).1 o.overrides,
          t) := by
  have hwritten : (o.written process.environment).run t
      = (((o.written process.environment).run t).1, t) :=
    Prod.ext rfl (moves_written o process.environment t).symm
  rw [settings_eq, FileTree.run_bind_of_run hwritten]
  rfl

/-- The mapping that is written in the configuration of a command line, if there is one. -/
def written? (t : FileTree) (environment : Variables) (words : List String) :
    Option (List (Scalar × Value)) :=
  match plan words with
  | .render o => ((o.written environment).run t).1.toOption
  | _ => none

/-- Two orders of sets do not differ on the configuration of a command line. -/
def OrderedAlike (t : FileTree) (environment : Variables) (words : List String)
    (order order' : SetOrder) : Prop :=
  ∀ entries, written? t environment words = some entries →
    order.entries entries = order'.entries entries

/-- No two orders differ on a configuration in which no set has two members. -/
theorem orderedAlike_of_haveOneOrder {t : FileTree} {environment : Variables} {words : List String}
    (h : (written? t environment words).all Value.entriesHaveOneOrder = true)
    (order order' : SetOrder) : OrderedAlike t environment words order order' := by
  intro entries hwritten
  have hone : Value.entriesHaveOneOrder entries = true := by simpa [hwritten] using h
  rw [order.entries_of_haveOneOrder hone, order'.entries_of_haveOneOrder hone]

/-- There is no set on a command line. -/
theorem haveOneOrder_overrides (o : RenderOptions) :
    Value.entriesHaveOneOrder o.overrides = true := by
  have htext (s : Option String) : (s.elim Value.null Value.text).hasOneOrder = true := by
    cases s <;> rfl
  have hint (i : Option Int) : (i.elim Value.null Value.int).hasOneOrder = true := by
    cases i <;> rfl
  simp [RenderOptions.overrides, Value.entriesHaveOneOrder, htext, hint]

/-- Settings are the same for two orders that do not differ. -/
theorem ofWritten_of_orderedAlike {t : FileTree} {environment : Variables} {words : List String}
    {order order' : SetOrder} {o : RenderOptions} (hplan : plan words = .render o)
    (halike : OrderedAlike t environment words order order') (overrides : List (Scalar × Value)) :
    Config.ofWritten order ((o.written environment).run t).1 overrides
      = Config.ofWritten order' ((o.written environment).run t).1 overrides := by
  cases hwritten : ((o.written environment).run t).1 with
  | error f => rfl
  | ok entries =>
      have hentries := halike entries (by rw [written?, hplan]; simp [hwritten, Except.toOption])
      simp only [Config.ofWritten, hentries]

/-! ## main result -/

/-- The path of the manifest in a directory. -/
def manifestPath (directory : String) : String :=
  FilePath.join directory "easemesh-control-plane.yaml"

/-- A directory can be made, if it is missing, and the file of the manifest in it. -/
def CanHold (t : FileTree) (directory : String) : Prop :=
  t.IsWritable directory (manifestPath directory)

instance {t : FileTree} {directory : String} : Decidable (CanHold t directory) :=
  inferInstanceAs (Decidable (t.IsWritable _ _))

/-- The manifest that is built is saved at its path. -/
theorem filePath_of_build {s : Settings} {m : Manifest} (h : s.buildManifest = .ok m)
    (directory : String) : m.filePath directory = manifestPath directory := by
  have hname : m.name = some Naming.statefulSet := (Pipeline.metadata_of_build h).1
  rw [Manifest.filePath, Manifest.fileName, Manifest.shownName, hname]
  rfl

/-- What becomes of a tree of files without a directory for the manifest, and with one: either both
runs fail alike and leave all files and directories alone, or the second one saves what the first
one prints, and changes no other file. -/
inductive SavesShown (t : FileTree) (directory : String) :
    Outcome × FileTree → Outcome × FileTree → Prop
  | failed (outcome : Outcome) (hstatus : outcome.status ≠ 0) (houtput : outcome.output = "") :
      SavesShown t directory (outcome, t) (outcome, t)
  | saved (text : String) (u : FileTree)
      (h : t.Replaced u (manifestPath directory) (Text.encodeUtf8 text)) :
      SavesShown t directory (.shown text, t)
        (.shown ("Manifest written to " ++ manifestPath directory ++ "\n"), u)

/-- What becomes of a tree of files in the same two runs, if what one process finds in the
configuration is related to what the other one finds: either both runs fail, alike or for want of
settings, and leave all files and directories alone, or the first one prints the manifest of its
settings and the second one saves that of its own, and changes no other file. -/
inductive Saves (t : FileTree) (directory : String)
    (Related : Except ConfigFailure Settings → Except ConfigFailure Settings → Prop) :
    Outcome × FileTree → Outcome × FileTree → Prop
  | failed (outcome : Outcome) (hstatus : outcome.status ≠ 0) (houtput : outcome.output = "") :
      Saves t directory Related (outcome, t) (outcome, t)
  | unsettled (f f' : ConfigFailure) (h : Related (.error f) (.error f')) :
      Saves t directory Related (.failed (.config f), t) (.failed (.config f'), t)
  | saved {s s' : Settings} {m m' : Manifest} (h : Related (.ok s) (.ok s'))
      (hbuild : s.buildManifest = .ok m) (hbuild' : s'.buildManifest = .ok m') (u : FileTree)
      (hreplaced : t.Replaced u (manifestPath directory) (Text.encodeUtf8 m'.toYaml)) :
      Saves t directory Related (.shown m.toYaml, t)
        (.shown ("Manifest written to " ++ manifestPath directory ++ "\n"), u)

/-- If both processes find the same, one saves what the other one prints. -/
theorem Saves.savesShown {t : FileTree} {directory : String} {printed saved : Outcome × FileTree}
    (h : Saves t directory Eq printed saved) : SavesShown t directory printed saved := by
  cases h with
  | failed outcome hstatus houtput => exact .failed outcome hstatus houtput
  | unsettled f f' hsame =>
      cases hsame
      exact .failed (.failed (.config f)) Nat.one_ne_zero rfl
  | saved hsame hbuild hbuild' u hreplaced =>
      cases hsame
      obtain rfl := Except.ok.inj (hbuild.symm.trans hbuild')
      exact .saved _ u hreplaced

/-- If the first run prints a manifest, it is read where the second one has saved it. -/
theorem SavesShown.read_saved {t : FileTree} {directory : String}
    {printed saved : Outcome × FileTree} (h : SavesShown t directory printed saved)
    (hok : printed.1.status = 0) :
    (saved.2.read (manifestPath directory)).toOption = some (Text.encodeUtf8 printed.1.output) := by
  cases h with
  | failed outcome hstatus houtput => exact absurd hok hstatus
  | saved text u h =>
      rw [h.read]
      rfl

section Run

variable {t : FileTree} {environment : Variables} {order order' : SetOrder} {directory : String}
  {answer : Variables → ShellAnswer} {o : RenderOptions} {s : Settings} {m : Manifest}
  {Related : Except ConfigFailure Settings → Except ConfigFailure Settings → Prop}

/-- What becomes of a configuration: its settings are found, and a manifest is built and delivered,
unless one of the two fails. -/
theorem run_render (o : RenderOptions) (process : Process) (t : FileTree) :
    (o.run FileTree.access process).run t =
      match Config.ofWritten process.order ((o.written process.environment).run t).1
        o.overrides with
      | .error f => (.failed (.config f), t)
      | .ok s =>
        match s.buildManifest with
        | .error f => (.failed (.build f), t)
        | .ok m => (deliver FileTree.access o.out m).run t := by
  unfold RenderOptions.run
  rw [FileTree.run_bind_of_run (run_settings o process t)]
  cases Config.ofWritten process.order ((o.written process.environment).run t).1 o.overrides with
  | error f => rfl
  | ok s =>
      dsimp only
      cases s.buildManifest with
      | error f => rfl
      | ok m => rfl

/-- A manifest is saved in a directory that can hold it. -/
theorem run_deliver (hbuild : s.buildManifest = .ok m) (hne : directory ≠ "")
    (hhold : CanHold t directory) :
    ∃ u, (deliver FileTree.access directory m).run t
        = (.shown ("Manifest written to " ++ manifestPath directory ++ "\n"), u) ∧
      t.Replaced u (manifestPath directory) (Text.encodeUtf8 m.toYaml) := by
  have hpath := filePath_of_build hbuild directory
  have hwritable : t.IsWritable directory (m.filePath directory) := by
    rw [hpath]
    exact hhold
  obtain ⟨u, hsave, hreplaced⟩ := FileTree.run_save hwritable
  rw [hpath] at hsave hreplaced
  have hempty : directory.isEmpty = false := by simpa using hne
  refine ⟨u, ?_, hreplaced⟩
  rw [deliver, hempty]
  exact FileTree.run_bind_of_run hsave _

/-- What is found decides how the two runs end. -/
theorem saves_render (hout : o.out = "") (hne : directory ≠ "") (hhold : CanHold t directory)
    (hrelated : Related (Config.ofWritten order ((o.written environment).run t).1 o.overrides)
      (Config.ofWritten order' ((o.written environment).run t).1 o.overrides)) :
    Saves t directory Related ((o.run FileTree.access ⟨environment, order⟩).run t)
      ((RenderOptions.run { o with out := directory } FileTree.access
        ⟨environment, order'⟩).run t) := by
  have hsaved := run_render { o with out := directory } ⟨environment, order'⟩ t
  change _ = match Config.ofWritten order' ((o.written environment).run t).1 o.overrides with
    | .error f => _
    | .ok s => _ at hsaved
  have hapart := Config.ofWritten_apart order order' ((o.written environment).run t).1
    (haveOneOrder_overrides o)
  rw [hsaved, run_render]
  dsimp only
  generalize Config.ofWritten order ((o.written environment).run t).1 o.overrides = found
    at hrelated hapart ⊢
  generalize Config.ofWritten order' ((o.written environment).run t).1 o.overrides = found'
    at hrelated hapart ⊢
  cases hapart with
  | failed f => exact .unsettled f f hrelated
  | invalid ps qs => exact .unsettled _ _ hrelated
  | found hpeers =>
      dsimp only
      obtain ⟨f, hfailed, hfailed'⟩ | ⟨m, m', hbuild, hbuild'⟩ := hpeers.build
      · rw [hfailed, hfailed']
        exact .failed (.failed (.build f)) Nat.one_ne_zero rfl
      · obtain ⟨u, hdelivered, hreplaced⟩ := run_deliver hbuild' hne hhold
        rw [hbuild, hbuild']
        dsimp only
        rw [hdelivered, hout]
        exact .saved hrelated hbuild hbuild' u hreplaced

/-- The program delivers the manifest that it can build. -/
theorem run_of_build {words : List String} (hquestion : question? environment = none)
    (hplan : plan words = .render o)
    (hfound : Config.ofWritten order ((o.written environment).run t).1 o.overrides = .ok s)
    (hbuild : s.buildManifest = .ok m) :
    (run answer FileTree.access ⟨environment, order⟩ words).run t
      = (deliver FileTree.access o.out m).run t := by
  simp only [run, hquestion, hplan, Plan.run]
  rw [run_render]
  simp only [hfound, hbuild]

/-- The first run prints what the second one saves only if their manifests are written alike. -/
theorem toYaml_eq_of_savesShown {m' : Manifest} {outcome : Outcome} {u : FileTree}
    (h : SavesShown t directory (.shown m.toYaml, t) (outcome, u))
    (hreplaced : t.Replaced u (manifestPath directory) (Text.encodeUtf8 m'.toYaml)) :
    m.toYaml = m'.toYaml := by
  have hread := h.read_saved rfl
  rw [hreplaced.read] at hread
  exact (Text.encodeUtf8_inj.mp (Option.some.inj hread)).symm

end Run

/-! ## one case, and two that are left out -/

/-- The members of sets from the last one that is written to the first. -/
def backwards : SetOrder := ⟨List.reverse, List.reverse_perm⟩

/-- Settings whose manifest has a character at a place. -/
theorem exists_manifest (found : Except ConfigFailure Settings) (n : Nat) (c : Char)
    (h : (found.toOption.bind fun s => s.buildManifest.toOption.bind fun m =>
      (Yaml.printNode m.toWire)[n]?) = some c) :
    ∃ s m, found = .ok s ∧ s.buildManifest = .ok m ∧ (Yaml.printNode m.toWire)[n]? = some c := by
  cases found with
  | error f => cases h
  | ok s =>
      cases hbuild : s.buildManifest with
      | error f =>
          simp only [Except.toOption, Option.bind_some, hbuild, Option.bind_none] at h
          cases h
      | ok m => exact ⟨s, m, rfl, hbuild, by simpa [Except.toOption, hbuild] using h⟩

end Command

end ControlPlane
