import LintScaffold.Proofs.Command.Decision
import LintScaffold.Proofs.Path.Growth

/-!
# What a run leaves alone

Only the last step of a run touches the files.  A run that stops before that leaves the tree
as it is, and so does one that decides to print something.  One that decides to save a rule
makes directories, which are no files, and then writes a single file, provided that nothing
goes wrong on the way.  Such a run is one of the command that makes a rule, with an option
that asks for a file.

The proof follows the command down to its decision, where the findings and the target are
known, and from there on the file tree.
-/

namespace LintScaffold

variable {tree : FileTree} {cwd : Place}

/-- The command that lists kinds only ever prints. -/
theorem KindsRequest.deed_yields {request : KindsRequest} {deed : Deed}
    (h : request.deed.Yields tree cwd deed) : ∃ text, deed = .print text := by
  obtain ⟨config, -, h⟩ := h.bind
  dsimp only at h
  split at h
  · exact absurd h (Task.not_yields_stop_bind _ _ _)
  · exact ⟨_, (Task.yields_pure.mp h).symm⟩

/-! ## What a call decides -/

namespace Call

/-- The call makes a rule and has an option that asks for a file. -/
def AsksForFile (call : Call) : Prop :=
  call.command = .new ∧ ∃ arguments,
    Arguments.read NewOption.vocabulary true call.arguments = .ok arguments ∧
      (arguments.has .output = true ∨ arguments.has .write = true)

/-- The call decides to save the source `text` of a rule at `target`.  This is what the request
that its arguments make says, with the configuration and the name that go with it; unless
overwriting is asked for, the target leads nowhere. -/
structure Decides (call : Call) (tree : FileTree) (cwd : Place) (request : NewRequest)
    (config : Config) (name : RuleName) (text : Text) (target : FilePath) : Prop where
  decided : ∃ report, (call.deed cwd).outcome tree cwd = .ok (.save target text report)
  makesRule : call.command = .new
  reads : (NewRequest.read cwd call.arguments).outcome tree cwd = .ok request
  finds : request.Finds tree cwd config name text
  leadsTo : request.TargetIs cwd config name target
  free : (request.force || config.output.overwrite.isTruthy) = false →
    ∀ node, tree.find cwd target ≠ .ok node

end Call

theorem NewRequest.output_ofArguments_eq_none {arguments : Arguments NewOption} {name : Text} :
    (ofArguments cwd arguments name).output = none ↔ arguments.has .output = false := by
  simp [ofArguments, Arguments.has, Arguments.value?]

namespace Call

variable {call : Call}

/-- A call that asks for a file does not print, and one that does not ask for it does not
save anything. -/
theorem deed_cases {deed : Deed} (h : (call.deed cwd).outcome tree cwd = .ok deed) :
    ((∃ text, deed = .print text) ∧ ¬ call.AsksForFile) ∨
    (call.AsksForFile ∧ ∃ request config name text target report,
      deed = .save target text report ∧ call.Decides tree cwd request config name text target) := by
  have hyields := Task.yields_of_outcome h
  unfold Call.deed at hyields
  cases hcommand : call.command with
  | kinds =>
      rw [hcommand] at hyields
      obtain ⟨request, -, hdeed⟩ := hyields.bind
      refine .inl ⟨KindsRequest.deed_yields hdeed, ?_⟩
      rintro ⟨hnew, -⟩
      rw [hcommand] at hnew
      exact absurd hnew (by decide)
  | new =>
      rw [hcommand] at hyields
      obtain ⟨request, hrequest, hdeed⟩ := hyields.bind
      obtain ⟨arguments, operand, hread, rfl, -⟩ := NewRequest.read_yields hrequest
      have hasks : call.AsksForFile ↔
          arguments.has .output = true ∨ arguments.has .write = true := by
        unfold AsksForFile
        rw [hcommand, hread]
        simp
      obtain ⟨config, name, text, hfinds, hprint | hsave⟩ := NewRequest.deed_yields hdeed
      · obtain ⟨rfl, houtput, hwrite⟩ := hprint
        rw [NewRequest.output_ofArguments_eq_none] at houtput
        have hwrite' : arguments.has .write = false := hwrite
        refine .inl ⟨⟨text, rfl⟩, fun hfile => ?_⟩
        simp [hasks, houtput, hwrite'] at hfile
      · obtain ⟨target, report, rfl, htarget, hfree⟩ := hsave
        refine .inr ⟨hasks.mpr ?_, _, config, name, text, target, report, rfl, ⟨report, h⟩,
          hcommand, (NewRequest.oblivious_read _ _).outcome_of_yields hrequest, hfinds, htarget,
          fun hforce => NewRequest.checkFree_yields hfree hforce⟩
        by_cases houtput : arguments.has .output = true
        · exact .inl houtput
        · -- without an option for the path, only the other one can have led to a target
          have hnone : (NewRequest.ofArguments cwd arguments operand).output = none :=
            NewRequest.output_ofArguments_eq_none.mpr (by simpa using houtput)
          unfold NewRequest.TargetIs at htarget
          rw [hnone] at htarget
          exact .inr htarget.1

end Call

/-! ## What a run does to the files -/

/-- A run of a call comes to the outcome of the call, and carries it out. -/
theorem Call.run_cases (call : Call) (tree : FileTree) (cwd : Place) :
    (∃ halt, (call.deed cwd).outcome tree cwd = .error halt ∧
      (call.run tree cwd).ending = .stopped halt ∧ (call.run tree cwd).files = tree) ∨
    (∃ deed, (call.deed cwd).outcome tree cwd = .ok deed ∧
      (call.run tree cwd).ending = (deed.perform tree cwd).ending ∧
      (call.run tree cwd).files = (deed.perform tree cwd).files) := by
  unfold run Task.outcome
  cases houtcome : (call.deed cwd).answer tree cwd with
  | mk result records =>
      cases result with
      | error halt => exact .inl ⟨halt, rfl, rfl, rfl⟩
      | ok deed => exact .inr ⟨deed, rfl, rfl, rfl⟩

/-- The run of a call that does not come to a decision stops there. -/
theorem Call.ending_of_halt {call : Call} {halt : Halt}
    (h : (call.deed cwd).outcome tree cwd = .error halt) :
    (call.run tree cwd).ending = .stopped halt := by
  obtain ⟨found, hfound, hending, -⟩ | ⟨deed, hdeed, -⟩ := call.run_cases tree cwd
  · obtain rfl := Except.error.inj (h.symm.trans hfound)
    exact hending
  · exact absurd (h.symm.trans hdeed) (by simp)

/-- It leaves the files as they are. -/
theorem Call.files_of_halt {call : Call} {halt : Halt}
    (h : (call.deed cwd).outcome tree cwd = .error halt) : (call.run tree cwd).files = tree := by
  obtain ⟨-, -, -, hfiles⟩ | ⟨deed, hdeed, -⟩ := call.run_cases tree cwd
  · exact hfiles
  · exact absurd (h.symm.trans hdeed) (by simp)

/-- The run of a call that comes to a decision carries it out. -/
theorem Call.ending_of_outcome {call : Call} {deed : Deed}
    (h : (call.deed cwd).outcome tree cwd = .ok deed) :
    (call.run tree cwd).ending = (deed.perform tree cwd).ending ∧
      (call.run tree cwd).files = (deed.perform tree cwd).files := by
  obtain ⟨halt, hhalt, -⟩ | ⟨found, hfound, hrun⟩ := call.run_cases tree cwd
  · exact absurd (h.symm.trans hhalt) (by simp)
  · obtain rfl := Except.ok.inj (h.symm.trans hfound)
    exact hrun

/-- Where a text is to be saved, either something goes wrong, and no file is changed, or the
target then leads to a file with the text in it, and no other file is changed. -/
theorem Deed.perform_save (tree : FileTree) (cwd : Place) (target : FilePath)
    (text report : Text) :
    let run := (Deed.save target text report).perform tree cwd
    (∃ halt, run.ending = .stopped halt ∧ tree.SameFiles run.files) ∨
    (run.ending = .done [] ∧ ∃ place, run.files.locate cwd target = .ok place ∧
      run.files.file? place = some (Utf8.encode text) ∧
      ∀ other, other ≠ place → run.files.file? other = tree.file? other) := by
  dsimp only [perform]
  cases hsave : tree.save cwd target (Utf8.encode text) with
  | mk files fault? =>
      cases fault? with
      | some fault =>
          refine .inl ⟨_, rfl, ?_⟩
          obtain ⟨-, -, hgrows⟩ | ⟨made, place, -, -, -, hsaved⟩ :=
            tree.save_cases cwd target (Utf8.encode text)
          · rw [hsave] at hgrows
            exact hgrows.sameFiles
          · rw [hsave] at hsaved
            simp at hsaved
      | none => exact .inr ⟨rfl, FileTree.save_frame hsave⟩

theorem exitCode_stopped_ne_zero (halt : Halt) : (Ending.stopped halt).exitCode ≠ 0 := by
  cases halt <;> simp [Ending.exitCode]

/-- The line is one of a call that asks for a file. -/
def AsksForFile (environment : Option Text) (line : List Text) : Prop :=
  ∃ call, Call.read environment line = .ok call ∧ call.AsksForFile

end LintScaffold
