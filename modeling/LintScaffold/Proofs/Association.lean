import LintScaffold.Association
import Mathlib.Data.List.Nodup

/-!
# Association lists without repeated keys

Setting an entry adds at most its key to the keys of a list, and never one that is there
already.  So a table that is made entry by entry has every key once, and what stands in it comes
from the entries.
-/

namespace LintScaffold

variable {α β : Type}

/-! ## Setting an entry -/

theorem mem_setEntry {same : α → α → Bool} {key : α} {value : β} {entries : List (α × β)}
    {entry : α × β} (h : entry ∈ setEntry same key value entries) :
    entry.2 = value ∨ entry ∈ entries := by
  induction entries with
  | nil => exact .inl (by simp_all [setEntry])
  | cons first rest ih =>
      simp only [setEntry] at h
      split at h
      · rcases List.mem_cons.mp h with rfl | hrest
        · exact .inl rfl
        · exact .inr (List.mem_cons_of_mem _ hrest)
      · rcases List.mem_cons.mp h with rfl | hrest
        · exact .inr List.mem_cons_self
        · exact (ih hrest).imp_right (List.mem_cons_of_mem _)

section Keys

variable [BEq α]

theorem mem_keys_setEntry {key other : α} {value : β} {entries : List (α × β)}
    (h : other ∈ (setEntry (· == ·) key value entries).map Prod.fst) :
    other = key ∨ other ∈ entries.map Prod.fst := by
  induction entries with
  | nil => simpa [setEntry] using h
  | cons entry rest ih =>
      simp only [setEntry] at h
      split at h
      · exact .inr h
      · rw [List.map_cons, List.mem_cons] at h ⊢
        rcases h with rfl | h
        · exact .inr (.inl rfl)
        · exact (ih h).imp_right .inr

/-- In lists with the same keys, what is found under a key is related as the values are. -/
theorem rel_lookup {γ : Type} {R : β → γ → Prop} {entries : List (α × β)}
    {others : List (α × γ)}
    (h : List.Forall₂ (fun entry other => entry.1 = other.1 ∧ R entry.2 other.2) entries others)
    (key : α) : Option.Rel R (entries.lookup key) (others.lookup key) := by
  induction h with
  | nil => exact .none
  | @cons entry other _ _ hentry _ ih =>
      obtain ⟨hkey, hvalue⟩ := hentry
      rw [List.lookup_cons, List.lookup_cons, hkey]
      cases key == other.1 with
      | true => exact .some hvalue
      | false => exact ih

variable [LawfulBEq α]

theorem eq_or_mem_of_mem_setEntry {key : α} {value : β} {entries : List (α × β)} {entry : α × β}
    (h : entry ∈ setEntry (· == ·) key value entries) :
    entry = (key, value) ∨ entry ∈ entries := by
  induction entries with
  | nil => exact .inl (by simpa [setEntry] using h)
  | cons first rest ih =>
      simp only [setEntry] at h
      split at h
      · rename_i hkey
        rcases List.mem_cons.mp h with rfl | hrest
        · exact .inl (Prod.ext (by simpa using hkey) rfl)
        · exact .inr (List.mem_cons_of_mem _ hrest)
      · rcases List.mem_cons.mp h with rfl | hrest
        · exact .inr List.mem_cons_self
        · exact (ih hrest).imp_right (List.mem_cons_of_mem _)

theorem setEntry_of_lookup_eq_none {key : α} {entries : List (α × β)}
    (h : entries.lookup key = none) (value : β) :
    setEntry (· == ·) key value entries = entries ++ [(key, value)] := by
  induction entries with
  | nil => rfl
  | cons entry rest ih =>
      obtain ⟨other, old⟩ := entry
      rw [List.lookup_cons] at h
      cases hbeq : key == other with
      | true =>
          rw [hbeq] at h
          contradiction
      | false =>
          rw [hbeq] at h
          rw [setEntry, BEq.comm, hbeq, if_neg Bool.false_ne_true, ih h, List.cons_append]

theorem nodup_keys_setEntry (key : α) (value : β) {entries : List (α × β)}
    (hkeys : (entries.map Prod.fst).Nodup) :
    ((setEntry (· == ·) key value entries).map Prod.fst).Nodup := by
  induction entries with
  | nil => simp [setEntry]
  | cons entry rest ih =>
      rw [List.map_cons, List.nodup_cons] at hkeys
      simp only [setEntry]
      split
      · rw [List.map_cons, List.nodup_cons]
        exact hkeys
      · rename_i hentry
        rw [List.map_cons, List.nodup_cons]
        refine ⟨fun hmem => ?_, ih hkeys.2⟩
        rcases mem_keys_setEntry hmem with hkey | hrest
        · exact hentry (by simpa using hkey)
        · exact hkeys.1 hrest

/-- In a list without repeated keys every entry is found under its key. -/
theorem lookup_of_mem {entries : List (α × β)} (hkeys : (entries.map Prod.fst).Nodup) {key : α}
    {value : β} (hmem : (key, value) ∈ entries) : entries.lookup key = some value := by
  induction entries with
  | nil => simp at hmem
  | cons entry rest ih =>
      rw [List.map_cons, List.nodup_cons] at hkeys
      rw [List.lookup_cons]
      rcases List.mem_cons.mp hmem with rfl | hrest
      · simp
      · have hne : key ≠ entry.1 := by
          rintro rfl
          exact hkeys.1 (List.mem_map.mpr ⟨(entry.1, value), hrest, rfl⟩)
        rw [show (key == entry.1) = false by simpa using hne]
        exact ih hkeys.2 hrest

theorem lookup_eq_none_iff_notMem {entries : List (α × β)} {key : α} :
    entries.lookup key = none ↔ key ∉ entries.map Prod.fst := by
  rw [List.lookup_eq_none_iff, List.mem_map]
  constructor
  · rintro h ⟨entry, hentry, rfl⟩
    simpa using h entry hentry
  · intro h entry hentry
    exact bne_iff_ne.mpr fun heq => h ⟨entry, hentry, heq.symm⟩

theorem mem_of_lookup {entries : List (α × β)} {key : α} {value : β}
    (h : entries.lookup key = some value) : (key, value) ∈ entries := by
  obtain ⟨before, after, rfl, -⟩ := List.lookup_eq_some_iff.mp h
  exact List.mem_append_right before List.mem_cons_self

end Keys

/-! ## Tables -/

/-- The keys of a table are different, and its values are values of the entries. -/
theorem tableOf_spec [BEq α] [LawfulBEq α] {P : β → Prop} {entries : List (α × β)}
    (h : ∀ entry ∈ entries, P entry.2) :
    ((tableOf (· == ·) entries).map Prod.fst).Nodup ∧
      ∀ entry ∈ tableOf (· == ·) entries, P entry.2 := by
  -- this holds of the table that there is after every entry
  suffices hafter : ∀ table : List (α × β), (table.map Prod.fst).Nodup →
      (∀ entry ∈ table, P entry.2) →
      ((entries.foldl (fun table entry => setEntry (· == ·) entry.1 entry.2 table) table).map
        Prod.fst).Nodup ∧
      ∀ entry ∈ entries.foldl (fun table entry => setEntry (· == ·) entry.1 entry.2 table) table,
        P entry.2 from
    hafter [] List.nodup_nil (by simp)
  induction entries with
  | nil => exact fun table hkeys hvalues => ⟨hkeys, hvalues⟩
  | cons first rest ih =>
      intro table hkeys hvalues
      refine ih (fun entry hentry => h entry (List.mem_cons_of_mem _ hentry)) _
        (nodup_keys_setEntry first.1 first.2 hkeys) fun entry hentry => ?_
      rcases mem_setEntry hentry with hvalue | hold
      · rw [hvalue]
        exact h first List.mem_cons_self
      · exact hvalues entry hold

end LintScaffold
