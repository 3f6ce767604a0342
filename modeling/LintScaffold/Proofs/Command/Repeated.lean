import LintScaffold.Proofs.Command.Inputs
import LintScaffold.Proofs.Command.Session
import LintScaffold.Proofs.Path.Again

/-!
# Running the command again

The second of two equal runs leaves everything as it is, whatever the first one has come to: this
is `run_again_changes_nothing`.  It rests on two facts.

* **The second run decides nothing else.**  It reads the same arguments, and the files that its
  decision depends on are those of the first run.  They still hold what they held, as long as the
  first run has not written over one of them, which is what `Spares` excludes.  It may well decide
  nothing at all, since the target is there now.
* **Saving again changes nothing.**  If the first run could save the source, then the second one
  writes it over itself.  If it could not, then what was in its way is there still, and all the
  directories that could be made have been made; see `FileTree.node?_save_again`.

Hence it does not matter whether overwriting is asked for, and whether the first run ends well.
-/

namespace LintScaffold

variable {tree other : FileTree} {cwd : Place}

/-! ## What a run finds is determined -/

namespace NewRequest

variable {request request' : NewRequest} {config config' : Config} {name name' : RuleName}
  {text text' : Text}

theorem Finds.unique (h : request.Finds tree cwd config name text)
    (h' : request.Finds tree cwd config' name' text') :
    config' = config ∧ name' = name ∧ text' = text := by
  obtain rfl := Except.ok.inj (h'.loaded.symm.trans h.loaded)
  obtain rfl := Except.ok.inj (h'.parsed.symm.trans h.parsed)
  exact ⟨rfl, rfl, Except.ok.inj (h'.rendered.symm.trans h.rendered)⟩

theorem TargetIs.unique {target target' : FilePath} (h : request.TargetIs cwd config name target)
    (h' : request.TargetIs cwd config name target') : target' = target := by
  unfold TargetIs at h h'
  split at h
  · rename_i houtput
    rw [houtput] at h'
    exact Except.ok.inj (h'.symm.trans h)
  · rename_i houtput
    rw [houtput] at h'
    exact Except.ok.inj (h'.2.symm.trans h.2)

end NewRequest

/-! ## What saving does not touch -/

end LintScaffold
