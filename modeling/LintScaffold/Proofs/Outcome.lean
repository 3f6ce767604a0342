import LintScaffold.Task

/-!
# Outcomes of tasks

A task looks at files and reports, and the files alone decide whether it has a result.
Reports only pile up: none of the operations that tasks are made of reads what has been
reported before.  So a task has one outcome, whatever came before it.  `Oblivious` says that of
a single task.  It is kept by every operation, hence each part of a command is proved oblivious
along its own text.

To take a command apart it is enough to know that some records lead to the result at hand:
`Yields` leaves open which, and passes to the parts of a sequence.  For the parts that are
oblivious it is as good as their outcome.
-/

namespace LintScaffold.Task

variable {ε δ α β : Type} {tree : FileTree} {cwd : Place}

/-- The result of a task or its fault, given the files. -/
def outcome (tree : FileTree) (cwd : Place) (task : Task ε α) : Except ε α :=
  (task.answer tree cwd).1

/-- What a task does when some records are there already. -/
def answerFrom (tree : FileTree) (cwd : Place) (records : List Record) (task : Task ε α) :
    Except ε α × List Record :=
  (task.run.run records).answer tree cwd

/-- The task neither reads nor changes what has been reported before. -/
def Oblivious (task : Task ε α) : Prop :=
  ∀ (tree : FileTree) (cwd : Place) (records : List Record),
    task.answerFrom tree cwd records =
      (task.outcome tree cwd, records ++ (task.answer tree cwd).2)

theorem answerFrom_bind (tree : FileTree) (cwd : Place) (records : List Record)
    (task : Task ε α) (next : α → Task ε β) :
    (task >>= next).answerFrom tree cwd records =
      match task.answerFrom tree cwd records with
      | (.ok a, reported) => (next a).answerFrom tree cwd reported
      | (.error fault, reported) => (.error fault, reported) := by
  show ((task.run >>= ExceptT.bindCont next).run records).answer tree cwd = _
  rw [StateT.run_bind, Inquiry.answer_bind]
  cases houtcome : (task.run.run records).answer tree cwd with
  | mk result reported =>
      simp only [answerFrom, houtcome]
      cases result with
      | ok a => rfl
      | error fault => rfl

/-! ## The operations are oblivious -/

namespace Oblivious

protected theorem pure (a : α) : Oblivious (pure a : Task ε α) := by
  intro tree cwd records
  show (Except.ok a, records) = (Except.ok a, records ++ [])
  rw [List.append_nil]

protected theorem stop (fault : ε) : Oblivious (stop fault : Task ε α) := by
  intro tree cwd records
  show (Except.error fault, records) = (Except.error fault, records ++ [])
  rw [List.append_nil]

protected theorem report (severity : Severity) (reporter : Reporter) (message : Text) :
    Oblivious (report severity reporter message : Task ε Unit) :=
  fun _ _ _ => rfl

protected theorem bind {task : Task ε α} {next : α → Task ε β} (htask : Oblivious task)
    (hnext : ∀ a, Oblivious (next a)) : Oblivious (task >>= next) := by
  intro tree cwd records
  have hstart := answerFrom_bind tree cwd [] task next
  rw [htask tree cwd []] at hstart
  show _ = (((task >>= next).answerFrom tree cwd []).1,
    records ++ ((task >>= next).answerFrom tree cwd []).2)
  rw [hstart, answerFrom_bind, htask tree cwd records]
  cases houtcome : task.outcome tree cwd with
  | error fault => simp
  | ok a => simp [hnext a tree cwd]

protected theorem ite {p : Prop} [Decidable p] {yes no : Task ε α} (hyes : Oblivious yes)
    (hno : Oblivious no) : Oblivious (if p then yes else no) := by
  split
  · exact hyes
  · exact hno

protected theorem forM {items : List δ} {body : δ → Task ε Unit}
    (hbody : ∀ item, Oblivious (body item)) : Oblivious (items.forM body) := by
  induction items with
  | nil => exact .pure ()
  | cons item rest ih => exact .bind (hbody item) fun _ => ih

theorem of_answerFrom {task : Task ε α} (result : FileTree → Place → Except ε α)
    (reported : FileTree → Place → List Record)
    (h : ∀ tree cwd records,
      task.answerFrom tree cwd records = (result tree cwd, records ++ reported tree cwd)) :
    Oblivious task := by
  intro tree cwd records
  have hstart := h tree cwd []
  show _ = ((task.answerFrom tree cwd []).1, records ++ (task.answerFrom tree cwd []).2)
  rw [hstart, h, List.nil_append]

protected theorem ask (inquiry : Inquiry α) : Oblivious (ask inquiry : Task ε α) := by
  refine of_answerFrom (fun tree cwd => .ok (inquiry.answer tree cwd)) (fun _ _ => [])
    fun tree cwd records => ?_
  show ((inquiry >>= fun a => pure (a, records)) >>= fun found =>
    pure (Except.ok found.1, found.2)).answer tree cwd = _
  simp

protected theorem check (f : δ → ε) (result : Except δ α) : Oblivious (check f result) := by
  cases result with
  | ok a => exact .pure a
  | error fault => exact .stop (f fault)

protected theorem tryAsk (f : δ → ε) (inquiry : Inquiry (Except δ α)) :
    Oblivious (tryAsk f inquiry) :=
  .bind (.ask inquiry) fun result => .check f result

protected theorem attempt {task : Task δ α} (htask : Oblivious task) :
    Oblivious (attempt task : Task ε (Except δ α)) := by
  refine of_answerFrom (fun tree cwd => .ok (task.outcome tree cwd))
    (fun tree cwd => (task.answer tree cwd).2) fun tree cwd records => ?_
  show ((task.run >>= fun result => pure (Except.ok result)).run records).answer tree cwd = _
  rw [StateT.run_bind, Inquiry.answer_bind]
  have hanswer := htask tree cwd records
  rw [answerFrom] at hanswer
  rw [hanswer]
  rfl

protected theorem rephrase (f : δ → ε) {task : Task δ α} (htask : Oblivious task) :
    Oblivious (rephrase f task) := by
  refine of_answerFrom (fun tree cwd => (task.outcome tree cwd).mapError f)
    (fun tree cwd => (task.answer tree cwd).2) fun tree cwd records => ?_
  show ((task.run >>= fun result => pure (result.mapError f)).run records).answer tree cwd = _
  rw [StateT.run_bind, Inquiry.answer_bind]
  have hanswer := htask tree cwd records
  rw [answerFrom] at hanswer
  rw [hanswer]
  rfl

end Oblivious

/-! ## Outcomes part by part -/

@[simp] theorem outcome_pure (a : α) : (pure a : Task ε α).outcome tree cwd = .ok a := rfl

@[simp] theorem outcome_stop (fault : ε) :
    (stop fault : Task ε α).outcome tree cwd = .error fault := rfl

@[simp] theorem outcome_report (severity : Severity) (reporter : Reporter) (message : Text) :
    (report severity reporter message : Task ε Unit).outcome tree cwd = .ok () := rfl

/-- A sequence has the outcome of its second part, unless the first part fails. -/
theorem outcome_bind {task : Task ε α} {next : α → Task ε β} (hnext : ∀ a, Oblivious (next a)) :
    (task >>= next).outcome tree cwd =
      task.outcome tree cwd >>= fun a => (next a).outcome tree cwd := by
  show ((task >>= next).answerFrom tree cwd []).1 = (task.answerFrom tree cwd []).1 >>= _
  rw [answerFrom_bind]
  cases hanswer : task.answerFrom tree cwd [] with
  | mk result reported =>
      cases result with
      | error fault => rfl
      | ok a =>
          dsimp only
          rw [hnext a]
          rfl

theorem outcome_bind_of_ok {task : Task ε α} {next : α → Task ε β} {a : α}
    (h : task.outcome tree cwd = .ok a) (hnext : Oblivious (next a)) :
    (task >>= next).outcome tree cwd = (next a).outcome tree cwd := by
  show ((task >>= next).answerFrom tree cwd []).1 = _
  rw [answerFrom_bind]
  cases hanswer : task.answerFrom tree cwd [] with
  | mk result reported =>
      obtain rfl : result = .ok a := (congrArg Prod.fst hanswer).symm.trans h
      dsimp only
      rw [hnext]

@[simp] theorem outcome_ask (inquiry : Inquiry α) :
    (ask inquiry : Task ε α).outcome tree cwd = .ok (inquiry.answer tree cwd) := by
  show Prod.fst (((inquiry >>= fun a => pure (a, [])) >>= fun found =>
    pure (Except.ok found.1, found.2)).answer tree cwd) = _
  simp

@[simp] theorem outcome_check (f : δ → ε) (result : Except δ α) :
    (check f result).outcome tree cwd = result.mapError f := by
  cases result with
  | ok a => rfl
  | error fault => rfl

@[simp] theorem outcome_tryAsk (f : δ → ε) (inquiry : Inquiry (Except δ α)) :
    (tryAsk f inquiry).outcome tree cwd = (inquiry.answer tree cwd).mapError f := by
  rw [tryAsk, outcome_bind fun _ => .check f _, outcome_ask]
  exact outcome_check f _

theorem outcome_tryAsk_of_ok {f : δ → ε} {inquiry : Inquiry (Except δ α)} {a : α}
    (h : inquiry.answer tree cwd = .ok a) : (tryAsk f inquiry).outcome tree cwd = .ok a := by
  rw [outcome_tryAsk, h]
  rfl

theorem outcome_check_of_ok {f : δ → ε} {result : Except δ α} {a : α} (h : result = .ok a) :
    (check f result).outcome tree cwd = .ok a := by
  rw [outcome_check, h]
  rfl

@[simp] theorem outcome_attempt {task : Task δ α} (htask : Oblivious task) :
    (attempt task : Task ε (Except δ α)).outcome tree cwd = .ok (task.outcome tree cwd) := by
  show Prod.fst (((task.run >>= fun result => pure (Except.ok result)).run []).answer tree cwd) = _
  rw [StateT.run_bind, Inquiry.answer_bind]
  have hanswer := htask tree cwd []
  rw [answerFrom] at hanswer
  rw [hanswer]
  rfl

theorem outcome_rephrase (f : δ → ε) {task : Task δ α} (htask : Oblivious task) :
    (rephrase f task).outcome tree cwd = (task.outcome tree cwd).mapError f := by
  show Prod.fst (((task.run >>= fun result => pure (result.mapError f)).run []).answer tree cwd) = _
  rw [StateT.run_bind, Inquiry.answer_bind]
  have hanswer := htask tree cwd []
  rw [answerFrom] at hanswer
  rw [hanswer]
  rfl

/-- Tasks in a row all have to succeed. -/
theorem outcome_forM_eq_ok {items : List δ} {body : δ → Task ε Unit}
    (hbody : ∀ item, Oblivious (body item)) :
    (items.forM body).outcome tree cwd = .ok () ↔
      ∀ item ∈ items, (body item).outcome tree cwd = .ok () := by
  induction items with
  | nil => exact iff_of_true rfl (by simp)
  | cons item rest ih =>
      rw [List.forall_mem_cons, ← ih]
      show Task.outcome tree cwd (body item >>= fun _ => rest.forM body) = _ ↔ _
      rw [outcome_bind fun _ => .forM hbody]
      cases (body item).outcome tree cwd with
      | error fault => simp [bind, Except.bind]
      | ok done => simp [bind, Except.bind]

/-! ## Results part by part -/

/-- The task has the result `a`, at least behind some records. -/
def Yields (tree : FileTree) (cwd : Place) (task : Task ε α) (a : α) : Prop :=
  ∃ records reported, task.answerFrom tree cwd records = (.ok a, reported)

theorem yields_of_outcome {task : Task ε α} {a : α} (h : task.outcome tree cwd = .ok a) :
    task.Yields tree cwd a :=
  ⟨[], (task.answer tree cwd).2, Prod.ext h rfl⟩

/-- For an oblivious task it does not matter behind which records. -/
theorem Oblivious.outcome_of_yields {task : Task ε α} (htask : Oblivious task) {a : α}
    (h : task.Yields tree cwd a) : task.outcome tree cwd = .ok a := by
  obtain ⟨records, reported, hanswer⟩ := h
  rw [htask] at hanswer
  exact congrArg Prod.fst hanswer

/-- A sequence has a result only if both parts have one. -/
theorem Yields.bind {task : Task ε α} {next : α → Task ε β} {b : β}
    (h : (task >>= next).Yields tree cwd b) :
    ∃ a, task.Yields tree cwd a ∧ (next a).Yields tree cwd b := by
  obtain ⟨records, reported, hanswer⟩ := h
  rw [answerFrom_bind] at hanswer
  cases htask : task.answerFrom tree cwd records with
  | mk result middle =>
      rw [htask] at hanswer
      cases result with
      | error fault => simp at hanswer
      | ok a => exact ⟨a, ⟨records, middle, htask⟩, ⟨middle, reported, hanswer⟩⟩

@[simp] theorem yields_pure {a b : α} : (pure a : Task ε α).Yields tree cwd b ↔ a = b := by
  constructor
  · rintro ⟨records, reported, hanswer⟩
    exact Except.ok.inj (congrArg Prod.fst hanswer)
  · rintro rfl
    exact ⟨[], [], rfl⟩

@[simp] theorem not_yields_stop (fault : ε) (a : α) :
    ¬ (stop fault : Task ε α).Yields tree cwd a := by
  rintro ⟨records, reported, hanswer⟩
  have hresult : Except.error fault = Except.ok a := congrArg Prod.fst hanswer
  exact absurd hresult (by simp)

theorem not_yields_stop_bind (fault : ε) (next : α → Task ε β) (b : β) :
    ¬ ((stop fault : Task ε α) >>= next).Yields tree cwd b := by
  intro h
  obtain ⟨a, ha, -⟩ := h.bind
  exact not_yields_stop fault a ha

@[simp] theorem yields_check {f : δ → ε} {result : Except δ α} {a : α} :
    (check f result).Yields tree cwd a ↔ result = .ok a := by
  cases result with
  | ok found => simp [check]
  | error fault => simp [check]

theorem Yields.ask {inquiry : Inquiry α} {a : α}
    (h : (Task.ask inquiry : Task ε α).Yields tree cwd a) : inquiry.answer tree cwd = a := by
  have houtcome := (Oblivious.ask inquiry).outcome_of_yields h
  rw [outcome_ask] at houtcome
  exact Except.ok.inj houtcome

theorem Yields.tryAsk {f : δ → ε} {inquiry : Inquiry (Except δ α)} {a : α}
    (h : (Task.tryAsk f inquiry).Yields tree cwd a) : inquiry.answer tree cwd = .ok a := by
  obtain ⟨result, hresult, hcheck⟩ := h.bind
  rw [hresult.ask]
  exact yields_check.mp hcheck

end LintScaffold.Task
