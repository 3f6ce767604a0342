import Mathlib.Data.List.Forall2

/-!
# Attempts that fail for one reason

An attempt has a result or a fault.  Many attempts fail exactly if something is the matter with
what they are made with, and then all their faults are of one kind: this is `FailsIf`.  It
passes through a row of attempts, where it is enough that one of them has something the matter
with it.

What an attempt has gone through before it came to its result is found by `bind_eq_ok` and
`mapM_eq_ok`.  Two attempts that do the same with related things are compared by `Agree`.
-/

namespace LintScaffold

variable {ε δ α β : Type}

/-! ## Results part by part -/

theorem ok_bind (a : α) (next : α → Except ε β) : Except.ok a >>= next = next a := rfl

theorem bind_eq_ok {attempt : Except ε α} {next : α → Except ε β} {b : β} :
    attempt >>= next = .ok b ↔ ∃ a, attempt = .ok a ∧ next a = .ok b := by
  cases attempt with
  | error fault => simp [bind, Except.bind]
  | ok a => simp [bind, Except.bind]

theorem bind_eq_error {attempt : Except ε α} {next : α → Except ε β} {fault : ε} :
    attempt >>= next = .error fault ↔
      attempt = .error fault ∨ ∃ a, attempt = .ok a ∧ next a = .error fault := by
  cases attempt with
  | error found => simp [bind, Except.bind]
  | ok a => simp [bind, Except.bind]

theorem map_eq_ok {f : α → β} {attempt : Except ε α} {b : β} :
    f <$> attempt = .ok b ↔ ∃ a, attempt = .ok a ∧ f a = b := by
  cases attempt <;> simp [Functor.map, Except.map]

theorem ok_mapError (f : δ → ε) (a : α) : (Except.ok a).mapError f = .ok a := rfl

theorem error_mapError (f : δ → ε) (fault : δ) :
    (Except.error fault : Except δ α).mapError f = .error (f fault) := rfl

theorem mapError_eq_ok {f : δ → ε} {attempt : Except δ α} {a : α} :
    attempt.mapError f = .ok a ↔ attempt = .ok a := by
  cases attempt with
  | error fault => simp [error_mapError]
  | ok a => simp [ok_mapError]

theorem mapError_eq_error {f : δ → ε} {attempt : Except δ α} {fault : ε} :
    attempt.mapError f = .error fault ↔ ∃ cause, attempt = .error cause ∧ f cause = fault := by
  cases attempt with
  | error cause => simp [error_mapError]
  | ok a => simp [ok_mapError]

/-- A row of attempts has the results of the single ones, one by one. -/
theorem mapM_eq_ok {f : α → Except ε β} {items : List α} {results : List β} :
    items.mapM f = .ok results ↔ List.Forall₂ (fun item b => f item = .ok b) items results := by
  induction items generalizing results with
  | nil =>
      rw [List.forall₂_nil_left_iff]
      exact ⟨fun h => (Except.ok.inj h).symm, fun h => h ▸ rfl⟩
  | cons item rest ih =>
      rw [List.mapM_cons, bind_eq_ok, List.forall₂_cons_left_iff]
      constructor
      · rintro ⟨first, hfirst, h⟩
        obtain ⟨others, hothers, h⟩ := bind_eq_ok.mp h
        exact ⟨first, others, hfirst, ih.mp hothers, (Except.ok.inj h).symm⟩
      · rintro ⟨first, others, hfirst, hothers, rfl⟩
        exact ⟨first, hfirst, bind_eq_ok.mpr ⟨others, ih.mpr hothers, rfl⟩⟩

/-- The results of a row of attempts are those of the single ones. -/
theorem forall_of_mapM_eq_ok {f : α → Except ε β} {P : β → Prop} {items : List α} {results : List β}
    (h : items.mapM f = .ok results) (hitems : ∀ item ∈ items, ∀ b, f item = .ok b → P b) :
    ∀ result ∈ results, P result := by
  induction items generalizing results with
  | nil =>
      obtain rfl := Except.ok.inj h
      simp
  | cons item rest ih =>
      rw [List.mapM_cons, bind_eq_ok] at h
      obtain ⟨first, hfirst, h⟩ := h
      obtain ⟨others, hothers, h⟩ := bind_eq_ok.mp h
      obtain rfl := Except.ok.inj h
      refine List.forall_mem_cons.mpr ⟨hitems item List.mem_cons_self first hfirst, ?_⟩
      exact ih hothers fun other hother => hitems other (List.mem_cons_of_mem _ hother)

/-- The attempt fails exactly if the flag is set, and then with one of the faults `F`. -/
def FailsIf (F : ε → Prop) (bad : Bool) : Except ε α → Prop
  | .ok _ => bad = false
  | .error fault => bad = true ∧ F fault

variable {F : ε → Prop} {G : δ → Prop} {bad : Bool}

theorem FailsIf.isOk_iff {attempt : Except ε α} (h : FailsIf F bad attempt) :
    (∃ a, attempt = .ok a) ↔ bad = false := by
  cases attempt with
  | ok a => exact ⟨fun _ => h, fun _ => ⟨a, rfl⟩⟩
  | error fault =>
      refine ⟨fun ⟨a, ha⟩ => absurd ha (by simp), fun hbad => ?_⟩
      exact absurd (hbad.symm.trans h.1) Bool.false_ne_true

theorem FailsIf.exists_fault {attempt : Except ε α} (h : FailsIf F true attempt) :
    ∃ fault, attempt = .error fault ∧ F fault := by
  cases attempt with
  | ok a => exact absurd h (by simp [FailsIf])
  | error fault => exact ⟨fault, rfl, h.2⟩

theorem FailsIf.mapError {attempt : Except δ α} (h : FailsIf G bad attempt) {f : δ → ε}
    (hf : ∀ fault, G fault → F (f fault)) : FailsIf F bad (attempt.mapError f) := by
  cases attempt with
  | ok a => exact h
  | error fault => exact ⟨h.1, hf fault h.2⟩

theorem FailsIf.bind {attempt : Except ε α} {next : α → Except ε β} {worse : Bool}
    (h : FailsIf F bad attempt) (hnext : ∀ a, FailsIf F worse (next a)) :
    FailsIf F (bad || worse) (attempt >>= next) := by
  cases attempt with
  | error fault => exact ⟨by rw [h.1, Bool.true_or], h.2⟩
  | ok a =>
      obtain rfl : bad = false := h
      rw [Bool.false_or]
      exact hnext a

/-- What is done with a result does not matter, as long as it cannot fail. -/
theorem FailsIf.bind_pure {attempt : Except ε α} (h : FailsIf F bad attempt) (f : α → β) :
    FailsIf F bad (attempt >>= fun a => pure (f a)) := by
  have hdone : FailsIf F (bad || false) (attempt >>= fun a => pure (f a)) := h.bind fun _ => rfl
  rwa [Bool.or_false] at hdone

/-- A row of attempts fails exactly if one of them does. -/
theorem failsIf_mapM {f : α → Except ε β} {flag : α → Bool} {items : List α}
    (h : ∀ item ∈ items, FailsIf F (flag item) (f item)) :
    FailsIf F (items.any flag) (items.mapM f) := by
  induction items with
  | nil => exact rfl
  | cons item rest ih =>
      rw [List.mapM_cons, List.any_cons]
      refine (h item List.mem_cons_self).bind fun first => ?_
      exact (ih fun other hother => h other (List.mem_cons_of_mem _ hother)).bind_pure (first :: ·)

/-! ## Results and faults of a kind -/

/-- The attempt has a result with the property `P`, or else one of the faults `F`. -/
def Ends (F : ε → Prop) (P : α → Prop) : Except ε α → Prop
  | .ok a => P a
  | .error fault => F fault

variable {P : α → Prop} {Q : β → Prop}

theorem Ends.imp {P' : α → Prop} {attempt : Except ε α} (h : Ends F P attempt)
    (himp : ∀ a, P a → P' a) : Ends F P' attempt := by
  cases attempt with
  | ok a => exact himp a h
  | error fault => exact h

theorem Ends.bind {attempt : Except ε α} {next : α → Except ε β} (h : Ends F P attempt)
    (hnext : ∀ a, P a → Ends F Q (next a)) : Ends F Q (attempt >>= next) := by
  cases attempt with
  | ok a => exact hnext a h
  | error fault => exact h

/-! ## Attempts side by side -/

/-- The attempts have results that are related, or else the same fault. -/
def Agree (R : α → β → Prop) : Except ε α → Except ε β → Prop
  | .ok a, .ok b => R a b
  | .error fault, .error other => fault = other
  | _, _ => False

variable {γ γ' : Type} {R : α → β → Prop} {S : γ → γ' → Prop}

theorem Agree.bind {attempt : Except ε α} {other : Except ε β} {next : α → Except ε γ}
    {next' : β → Except ε γ'} (h : Agree R attempt other)
    (hnext : ∀ a b, R a b → Agree S (next a) (next' b)) :
    Agree S (attempt >>= next) (other >>= next') := by
  cases attempt with
  | ok a => cases other with
    | ok b => exact hnext a b h
    | error fault => exact absurd h id
  | error fault => cases other with
    | ok b => exact absurd h id
    | error fault' => exact h

theorem Agree.mapError {attempt : Except δ α} {other : Except δ β} (h : Agree R attempt other)
    (f : δ → ε) : Agree R (attempt.mapError f) (other.mapError f) := by
  cases attempt with
  | ok a => cases other with
    | ok b => exact h
    | error fault => exact absurd h id
  | error fault => cases other with
    | ok b => exact absurd h id
    | error fault' => exact congrArg f h

/-- Two rows of attempts agree if they do so one by one. -/
theorem agree_mapM {f : γ → Except ε α} {g : γ' → Except ε β} {xs : List γ} {ys : List γ'}
    (h : List.Forall₂ (fun x y => Agree R (f x) (g y)) xs ys) :
    Agree (List.Forall₂ R) (xs.mapM f) (ys.mapM g) := by
  induction h with
  | nil => exact List.Forall₂.nil
  | cons hfirst hrest ih =>
      rw [List.mapM_cons, List.mapM_cons]
      refine hfirst.bind fun a b hab => ih.bind fun as bs habs => ?_
      exact List.Forall₂.cons hab habs

end LintScaffold
