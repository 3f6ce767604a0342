import LintScaffold.Json
import LintScaffold.Proofs.Attempt

/-!
# Strings in JSON texts

The grammar of what stands between the quotation marks of a string, with what it reads as
(`Body`).  The reader of strings follows this grammar, wherever a string stands and whatever
comes behind it (`readString_eq_ok_iff`).  So what is to be known of strings is found by induction
over their parts: characters that stand for themselves, short escapes, and escaped code units,
which make one character in pairs.
-/

namespace LintScaffold.Json

/-- The text begins with the escape of the second half of a surrogate pair. -/
def BeginsLow (text : Text) : Prop :=
  ∃ e f g h rest low, text = '\\' :: 'u' :: e :: f :: g :: h :: rest ∧
    hexUnit? e f g h = some low ∧ isLowHalf low = true

/-- What stands between the quotation marks of a string, and what it reads as. -/
inductive Body : Text → Text → Prop
  | nil : Body [] []
  /-- A character that is no mark stands for itself. -/
  | plain {c : Char} {body t : Text} (hquote : c ≠ '"') (hslash : c ≠ '\\')
      (hplain : ¬ c.toNat < 0x20) (hbody : Body body t) : Body (c :: body) (c :: t)
  /-- An escape of one letter. -/
  | short {c e : Char} {body t : Text} (hescape : shortEscape? c = some e)
      (hbody : Body body t) : Body ('\\' :: c :: body) (e :: t)
  /-- An escaped code unit that is not the first one of a pair. -/
  | unit {a b c d : Char} {unit : Nat} {body t : Text} (hunit : hexUnit? a b c d = some unit)
      (hlone : isHighHalf unit = true → ¬ BeginsLow body) (hbody : Body body t) :
      Body ('\\' :: 'u' :: a :: b :: c :: d :: body) (unitChar unit :: t)
  /-- Two escaped code units that make a pair. -/
  | pair {a b c d e f g h : Char} {high low : Nat} {body t : Text}
      (hfirst : hexUnit? a b c d = some high) (hhigh : isHighHalf high = true)
      (hsecond : hexUnit? e f g h = some low) (hlow : isLowHalf low = true)
      (hbody : Body body t) :
      Body ('\\' :: 'u' :: a :: b :: c :: d :: '\\' :: 'u' :: e :: f :: g :: h :: body)
        (pairChar high low :: t)

/-- A hexadecimal digit is none of the marks of a string, and no control character. -/
theorem of_hexValue? {c : Char} {n : Nat} (h : Text.hexValue? c = some n) :
    c ≠ '"' ∧ c ≠ '\\' ∧ ¬ c.toNat < 0x20 := by
  have hrange : 48 ≤ c.toNat ∧ c.toNat ≠ 92 := by
    unfold Text.hexValue? at h
    simp only [Char.le_def, UInt32.le_iff_toNat_le] at h
    have hcodes : ('0' : Char).val.toNat = 48 ∧ ('9' : Char).val.toNat = 57 ∧
      ('a' : Char).val.toNat = 97 ∧ ('A' : Char).val.toNat = 65 ∧ ('F' : Char).val.toNat = 70 := by
      decide
    have hcode : c.val.toNat = c.toNat := rfl
    grind
  refine ⟨?_, ?_, by omega⟩
  · rintro rfl
    exact absurd hrange.1 (by decide)
  · rintro rfl
    exact absurd hrange.2 (by decide)

theorem hexUnit?_digits {a b c d : Char} {unit : Nat} (h : hexUnit? a b c d = some unit) :
    ∀ digit ∈ [a, b, c, d], digit ≠ '"' ∧ digit ≠ '\\' ∧ ¬ digit.toNat < 0x20 := by
  unfold hexUnit? at h
  obtain ⟨_, ha, h⟩ := Option.bind_eq_some_iff.mp h
  obtain ⟨_, hb, h⟩ := Option.bind_eq_some_iff.mp h
  obtain ⟨_, hc, h⟩ := Option.bind_eq_some_iff.mp h
  obtain ⟨_, hd, -⟩ := Option.bind_eq_some_iff.mp h
  simp only [List.forall_mem_cons]
  exact ⟨of_hexValue? ha, of_hexValue? hb, of_hexValue? hc, of_hexValue? hd, by simp⟩

/-- No control character stands in a string. -/
theorem Body.not_control {body t : Text} (h : Body body t) : ∀ c ∈ body, ¬ c.toNat < 0x20 := by
  have hdigits : ∀ {a b c d : Char} {unit : Nat}, hexUnit? a b c d = some unit →
      ∀ mark ∈ ['\\', 'u', a, b, c, d], ¬ mark.toNat < 0x20 := by
    intro a b c d unit hunit
    rw [List.forall_mem_cons, List.forall_mem_cons]
    exact ⟨by decide, by decide, fun digit hdigit => (hexUnit?_digits hunit digit hdigit).2.2⟩
  induction h with
  | nil => simp
  | plain _ _ hplain _ ih => exact List.forall_mem_cons.mpr ⟨hplain, ih⟩
  | @short c e body t hescape _ ih =>
      refine List.forall_mem_cons.mpr ⟨by decide, List.forall_mem_cons.mpr ⟨?_, ih⟩⟩
      unfold shortEscape? at hescape
      split at hescape
      on_goal 9 => simp at hescape
      all_goals decide
  | unit hunit _ _ ih => exact List.forall_mem_append.mpr ⟨hdigits hunit, ih⟩
  | pair hfirst _ hsecond _ _ ih =>
      exact List.forall_mem_append.mpr
        ⟨hdigits hfirst, List.forall_mem_append.mpr ⟨hdigits hsecond, ih⟩⟩

variable {start : Nat} {text t rest : Text}

/-- What is read behind a character that is read. -/
theorem readBehind_eq_ok {read : Except Fault (Text × Text)} {c : Char}
    (h : (do let (text, rest) ← read; return (c :: text, rest)) = Except.ok (t, rest)) :
    ∃ behind, t = c :: behind ∧ read = .ok (behind, rest) := by
  obtain ⟨⟨behind, _⟩, hread, h⟩ := bind_eq_ok.mp h
  obtain ⟨rfl, rfl⟩ := Prod.mk.inj (Except.ok.inj h)
  exact ⟨behind, rfl, hread⟩

/-- A string that is read is one of the grammar. -/
theorem body_of_readString (hread : readString start text = .ok (t, rest)) :
    ∃ body, text = body ++ '"' :: rest ∧ Body body t := by
  fun_induction readString start text generalizing t with
  | case1 | case3 | case4 | case5 | case6 | case11 | case12 | case14 => simp at hread
  | case2 rest =>
      obtain ⟨rfl, rfl⟩ := Prod.mk.inj (Except.ok.inj hread)
      exact ⟨[], rfl, .nil⟩
  | case7 a b c d high hfirst e f g h next more hhigh low hsecond hlow ih =>
      obtain ⟨behind, rfl, hinner⟩ := readBehind_eq_ok hread
      obtain ⟨body, hbehind, hbody⟩ := ih hinner
      exact ⟨_ :: _ :: _ :: _ :: _ :: _ :: _ :: _ :: _ :: _ :: _ :: _ :: body,
        by rw [hbehind]; rfl, .pair hfirst hhigh hsecond hlow hbody⟩
  | case8 a b c d unit hunit e f g h next more hhigh second hsecond hlow ih =>
      obtain ⟨behind, rfl, hinner⟩ := readBehind_eq_ok hread
      obtain ⟨body, hbehind, hbody⟩ := ih hinner
      refine ⟨_ :: _ :: _ :: _ :: _ :: _ :: body, by rw [hbehind]; rfl,
        .unit hunit (fun _ hbegins => ?_) hbody⟩
      obtain ⟨_, _, _, _, inner, low, rfl, hunit', hlow'⟩ := hbegins
      simp only [List.cons_append, List.cons.injEq, true_and] at hbehind
      obtain ⟨rfl, rfl, rfl, rfl, -⟩ := hbehind
      rw [hsecond, Option.some.injEq] at hunit'
      exact hlow (hunit' ▸ hlow')
  | case9 a b c d unit hunit e f g h next more hhigh ih =>
      obtain ⟨behind, rfl, hinner⟩ := readBehind_eq_ok hread
      obtain ⟨body, hbehind, hbody⟩ := ih hinner
      exact ⟨_ :: _ :: _ :: _ :: _ :: _ :: body, by rw [hbehind]; rfl,
        .unit hunit (fun hhalf => absurd hhalf hhigh) hbody⟩
  | case10 a b c d unit hunit next more hother ih =>
      obtain ⟨behind, rfl, hinner⟩ := readBehind_eq_ok hread
      obtain ⟨body, hbehind, hbody⟩ := ih hinner
      refine ⟨_ :: _ :: _ :: _ :: _ :: _ :: body, by rw [hbehind]; rfl,
        .unit hunit (fun _ hbegins => ?_) hbody⟩
      obtain ⟨e, f, g, h, inner, low, rfl, -, -⟩ := hbegins
      obtain ⟨first, others, hmore⟩ := List.exists_cons_of_ne_nil
        (List.append_ne_nil_of_right_ne_nil inner (List.cons_ne_nil '"' rest))
      simp only [List.cons_append, hmore, List.cons.injEq] at hbehind
      exact hother e f g h first others hbehind.1 hbehind.2
  | case13 c rest _ _ escaped hescaped ih =>
      obtain ⟨behind, rfl, hinner⟩ := readBehind_eq_ok hread
      obtain ⟨body, rfl, hbody⟩ := ih hinner
      exact ⟨_ :: _ :: body, rfl, .short hescaped hbody⟩
  | case15 c others hquote hlone _ _ hescape hplain ih =>
      obtain ⟨behind, rfl, hinner⟩ := readBehind_eq_ok hread
      obtain ⟨body, rfl, hbody⟩ := ih hinner
      have hslash : c ≠ '\\' := by
        rintro rfl
        cases body with
        | nil => exact hescape _ _ rfl rfl
        | cons => exact hescape _ _ rfl rfl
      exact ⟨c :: body, rfl, .plain hquote hslash hplain hbody⟩

/-- No letter of a short escape begins the escape of a code unit. -/
theorem ne_of_shortEscape? {c e : Char} (h : shortEscape? c = some e) : c ≠ 'u' := by
  rintro rfl
  simp [shortEscape?] at h

/-- The digits of an escaped code unit at the beginning of a string belong to the string. -/
theorem Body.of_escape {body inner : Text} {e f g h : Char} (hbody : Body body t)
    (hbegins : body ++ '"' :: rest = '\\' :: 'u' :: e :: f :: g :: h :: inner) :
    ∃ unit behind, hexUnit? e f g h = some unit ∧
      body = '\\' :: 'u' :: e :: f :: g :: h :: behind := by
  cases hbody with
  | nil => simp at hbegins
  | plain hquote hslash => exact absurd (List.cons.inj hbegins).1 hslash
  | short hescape =>
      exact absurd (List.cons.inj (List.cons.inj hbegins).2).1 (ne_of_shortEscape? hescape)
  | unit hunit =>
      simp only [List.cons_append, List.cons.injEq, true_and] at hbegins
      obtain ⟨rfl, rfl, rfl, rfl, -⟩ := hbegins
      exact ⟨_, _, hunit, rfl⟩
  | pair hfirst =>
      simp only [List.cons_append, List.cons.injEq, true_and] at hbegins
      obtain ⟨rfl, rfl, rfl, rfl, -⟩ := hbegins
      exact ⟨_, _, hfirst, rfl⟩

/-- A string of the grammar is read, whatever stands behind it. -/
theorem Body.readString {body : Text} (h : Body body t) (start : Nat) (rest : Text) :
    Json.readString start (body ++ '"' :: rest) = .ok (t, rest) := by
  induction h with
  | nil => rw [List.nil_append, Json.readString]
  | @plain c body t hquote hslash hplain hbody ih =>
      rw [List.cons_append, Json.readString]
      · rw [if_neg hplain, ih]
        rfl
      all_goals simp_all
  | @short c e body t hescape hbody ih =>
      have hunit := ne_of_shortEscape? hescape
      rw [List.cons_append, List.cons_append, Json.readString, hescape]
      · dsimp only
        rw [ih]
        rfl
      all_goals simp_all
  | @unit a b c d unit body t hunit hlone hbody ih =>
      simp only [List.cons_append]
      rw [Json.readString, hunit]
      generalize htail : body ++ '"' :: rest = tail at ih ⊢
      dsimp only
      split
      · simp at htail
      · split
        · rename_i hhigh
          obtain ⟨second, behind, hsecond, hbegins⟩ := hbody.of_escape htail
          rw [hsecond]
          dsimp only
          have hlow : ¬ isLowHalf second = true := fun hlow =>
            hlone hhigh ⟨_, _, _, _, behind, second, hbegins, hsecond, hlow⟩
          rw [if_neg hlow, ih]
          rfl
        · rw [ih]
          rfl
      · rw [ih]
        rfl
  | @pair a b c d e f g h high low body t hfirst hhigh hsecond hlow hbody ih =>
      obtain ⟨next, more, hmore⟩ := List.exists_cons_of_ne_nil
        (List.append_ne_nil_of_right_ne_nil body (List.cons_ne_nil '"' rest))
      simp only [List.cons_append, hmore]
      rw [hmore] at ih
      rw [Json.readString, hfirst]
      show (if isHighHalf high = true then _ else _) = _
      rw [if_pos hhigh, hsecond]
      dsimp only
      rw [if_pos hlow, ih]
      rfl

/-- A text begins with a string exactly if the grammar says so. -/
theorem readString_eq_ok_iff : readString start text = .ok (t, rest) ↔
    ∃ body, text = body ++ '"' :: rest ∧ Body body t := by
  refine ⟨body_of_readString, ?_⟩
  rintro ⟨body, rfl, hbody⟩
  exact hbody.readString start rest

end LintScaffold.Json
