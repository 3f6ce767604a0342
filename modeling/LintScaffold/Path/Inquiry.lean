import LintScaffold.Path.FileTree

/-!
# Inquiries

A computation that looks at files without changing any.  It either has its result or
wants to know what a path leads to, and goes on from the answer.  The same inquiry can be
answered from a file tree, which is a function, or from the files of a machine.
-/

namespace LintScaffold

/-- What a path leads to, or why it leads to nothing. -/
abbrev Finding := Except FileFault Node

/-- A computation that looks at files. -/
inductive Inquiry (α : Type)
  | done (a : α)
  | find (path : FilePath) (next : Finding → Inquiry α)

namespace Inquiry

variable {α β : Type}

/-- Goes on with the result of an inquiry. -/
def bind : Inquiry α → (α → Inquiry β) → Inquiry β
  | .done a, f => f a
  | .find path next, f => .find path fun finding => (next finding).bind f

instance : Monad Inquiry where
  pure := .done
  bind := .bind

/-- The result of an inquiry about a file tree, paths being seen from the directory
`cwd`. -/
def answer (tree : FileTree) (cwd : Place) : Inquiry α → α
  | .done a => a
  | .find path next => (next (tree.find cwd path)).answer tree cwd

@[simp] theorem answer_pure (tree : FileTree) (cwd : Place) (a : α) :
    (pure a : Inquiry α).answer tree cwd = a := rfl

/-- Answering goes through an inquiry step by step. -/
@[simp] theorem answer_bind (tree : FileTree) (cwd : Place) (inquiry : Inquiry α)
    (f : α → Inquiry β) :
    (inquiry >>= f).answer tree cwd = (f (inquiry.answer tree cwd)).answer tree cwd := by
  show (inquiry.bind f).answer tree cwd = _
  induction inquiry with
  | done a => rfl
  | find path next ih => exact ih _

/-! ## Questions -/

/-- What a path leads to. -/
def look (path : FilePath) : Inquiry Finding := .find path .done

@[simp] theorem answer_look (tree : FileTree) (cwd : Place) (path : FilePath) :
    (look path).answer tree cwd = tree.find cwd path := rfl

/-- Some file or directory is there.  A path that ends early leads to nothing, but a name
that is too long is a fault. -/
def isThere (path : FilePath) : Inquiry (Except PathFault Bool) := do
  match ← look path with
  | .ok _ => return .ok true
  | .error .nameTooLong => return .error ⟨.nameTooLong, path⟩
  | .error _ => return .ok false

/-- A file is there. -/
def isFile (path : FilePath) : Inquiry (Except PathFault Bool) := do
  match ← look path with
  | .ok (.file _) => return .ok true
  | .ok .directory => return .ok false
  | .error .nameTooLong => return .error ⟨.nameTooLong, path⟩
  | .error _ => return .ok false

/-- The content of a file. -/
def read (path : FilePath) : Inquiry (Except PathFault Bytes) := do
  match ← look path with
  | .ok (.file content) => return .ok content
  | .ok .directory => return .error ⟨.isDirectory, path⟩
  | .error fault => return .error ⟨fault, path⟩

end Inquiry
end LintScaffold
