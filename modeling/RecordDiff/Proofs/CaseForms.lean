import RecordDiff.Locale
import Mathlib.Data.List.DropRight

/-!
# Case forms

A text in lower case does not change when it is put in lower case again, and the same goes for upper
case. Blanks and the separators of a tag do not take part in case at all: each is its own form and
occurs in no other one. So a change of case leaves a trimmed text trimmed, and it leaves the places
where a tag is split.

All of this is a matter of the two tables. What has to be known of a table is that two sets are
apart: the code points that it mentions, and the characters that occur in the forms that it gives.
There are some fourteen hundred on each side. The sets are therefore written as the bits of two
numbers, and being apart is one operation on these.

Lower case depends on the neighbours of a character, through the two small sigmas. The lemmas on
texts only use that each character is replaced by one of its forms, whichever that is.

## Main definitions

* `CaseMap.Mentions` - the code points that a table has a form for
* `CaseMap.Settled` - what makes forms final
* `CaseFormed` - a text and what it becomes when every character is replaced by a form

## Main results

* `CaseMap.settled_lower`, `CaseMap.settled_upper` - the two tables
* `lowercase_lowercase`, `uppercase_uppercase` - a change of case does nothing the second time
* `trim_lowercase_trim`, `trim_uppercase_trim` - a change of case does not bring in blanks
-/

namespace RecordDiff.Text

/-! ### Blanks and separators -/

/-- The character has no part in case: it is blank, or it separates the parts of a tag. -/
def IsNeutral (c : Char) : Prop := isBlank c = true ∨ Locale.isSeparator c = true

instance (c : Char) : Decidable (IsNeutral c) :=
  inferInstanceAs (Decidable (isBlank c = true ∨ Locale.isSeparator c = true))

/-- The code points of these characters. -/
def neutralPoints : List ℕ :=
  (blankRanges.flatMap fun r => List.range' r.1 (r.2 - r.1 + 1)) ++ ['-'.toNat, '_'.toNat]

theorem IsNeutral.mem_neutralPoints {c : Char} (h : IsNeutral c) : c.toNat ∈ neutralPoints := by
  rw [neutralPoints, List.mem_append]
  rcases h with hblank | hseparator
  · obtain ⟨r, hr, hfirst, hlast⟩ := inRanges_eq_true_iff.mp hblank
    refine Or.inl (List.mem_flatMap.mpr ⟨r, hr, List.mem_range'.mpr ⟨c.toNat - r.1, ?_, ?_⟩⟩) <;>
      omega
  · right
    rcases (by simpa [Locale.isSeparator] using hseparator : c = '-' ∨ c = '_') with rfl | rfl <;>
      simp

namespace CaseMap

/-! ### Sets of code points -/

/-- A set of code points as the bits of a number. -/
def bits (ns : List ℕ) : ℕ := ns.foldr (fun n b => 1 <<< n ||| b) 0

theorem testBit_bits {ns : List ℕ} {n : ℕ} : (bits ns).testBit n = true ↔ n ∈ ns := by
  induction ns with
  | nil => simp [bits]
  | cons m rest ih =>
    have hbits : bits (m :: rest) = 1 <<< m ||| bits rest := rfl
    rw [hbits, Nat.testBit_or, Bool.or_eq_true, ih, Nat.one_shiftLeft, Nat.testBit_two_pow,
      decide_eq_true_eq, List.mem_cons, eq_comm]

/-- Numbers without a common bit are sets without a common code point. -/
theorem not_mem_of_bits {ms ns : List ℕ} (h : bits ms &&& bits ns = 0) {n : ℕ} (hn : n ∈ ms) :
    n ∉ ns := by
  intro hns
  have hbit : (bits ms &&& bits ns).testBit n = true := by
    rw [Nat.testBit_and, testBit_bits.mpr hn, testBit_bits.mpr hns, Bool.and_self]
  rw [h, Nat.zero_testBit] at hbit
  cases hbit

/-! ### Tables -/

/-- The code points of a run. -/
def Run.points (r : Run) : List ℕ := List.range' r.first ((r.last - r.first) / r.step + 1) r.step

theorem Run.mem_points {r : Run} {n : ℕ} (h : r.holds n = true) : n ∈ r.points := by
  simp only [holds, Bool.and_eq_true, decide_eq_true_eq, beq_iff_eq] at h
  obtain ⟨⟨hfirst, hlast⟩, hstep⟩ := h
  have hplace := Nat.div_add_mod (n - r.first) r.step
  have hle : (n - r.first) / r.step ≤ (r.last - r.first) / r.step :=
    Nat.div_le_div_right (Nat.sub_le_sub_right hlast _)
  exact List.mem_range'.mpr ⟨(n - r.first) / r.step, by omega, by omega⟩

section Table

variable (runs : List Run) (expansions : List (ℕ × List ℕ))

/-- The table has a form for the code point. -/
def Mentions (n : ℕ) : Prop := (∃ e ∈ expansions, e.1 = n) ∨ ∃ r ∈ runs, r.holds n = true

instance (n : ℕ) : Decidable (Mentions runs expansions n) :=
  inferInstanceAs (Decidable ((∃ e ∈ expansions, e.1 = n) ∨ ∃ r ∈ runs, r.holds n = true))

/-- The code points that the table has a form for. -/
def points : List ℕ := expansions.map Prod.fst ++ runs.flatMap Run.points

/-- The characters of the forms. -/
def forms : List Char :=
  (expansions.flatMap fun e => e.2.map Char.ofNat) ++
    runs.flatMap fun r => r.points.map fun n => Char.ofNat (r.form n)

/-- The forms are final: the table mentions none of their characters, and none of them is neutral.
Neither does it mention a neutral character, or make a character disappear. -/
structure Settled : Prop where
  final : ∀ d ∈ forms runs expansions, ¬ Mentions runs expansions d.toNat
  not_neutral : ∀ d ∈ forms runs expansions, ¬ IsNeutral d
  kept : ∀ c, IsNeutral c → ¬ Mentions runs expansions c.toNat
  nonempty : ∀ e ∈ expansions, e.2 ≠ []

variable {runs expansions}

theorem Mentions.mem_points {n : ℕ} (h : Mentions runs expansions n) :
    n ∈ points runs expansions := by
  rcases h with ⟨e, he, rfl⟩ | ⟨r, hr, hn⟩
  · exact List.mem_append_left _ (List.mem_map_of_mem he)
  · exact List.mem_append_right _ (List.mem_flatMap.mpr ⟨r, hr, Run.mem_points hn⟩)

/-- Forms are seen to be final by two comparisons of sets. -/
theorem settled_of_bits
    (hforms : bits ((forms runs expansions).map Char.toNat) &&&
      bits (points runs expansions ++ neutralPoints) = 0)
    (hneutral : bits neutralPoints &&& bits (points runs expansions) = 0)
    (hnonempty : ∀ e ∈ expansions, e.2 ≠ []) : Settled runs expansions where
  final _ hd h := not_mem_of_bits hforms (List.mem_map_of_mem hd)
    (List.mem_append_left _ h.mem_points)
  not_neutral _ hd h := not_mem_of_bits hforms (List.mem_map_of_mem hd)
    (List.mem_append_right _ h.mem_neutralPoints)
  kept _ hc h := not_mem_of_bits hneutral hc.mem_neutralPoints h.mem_points
  nonempty := hnonempty

end Table

-- The sets are long, but the kernel computes with such numbers at once.
theorem settled_lower : Settled lowerRuns lowerExpansions :=
  settled_of_bits (by decide +kernel) (by decide +kernel) (by decide)

theorem settled_upper : Settled upperRuns upperExpansions :=
  settled_of_bits (by decide +kernel) (by decide +kernel) (by decide)

end CaseMap

open CaseMap

/-! ### Forms of a character -/

/-- What may stand for a character in a change of case. Its characters are final, and a neutral
character stands for itself and for nothing else. -/
structure IsCaseForm (mentioned : ℕ → Prop) (c : Char) (form : List Char) : Prop where
  nonempty : form ≠ []
  final : ∀ d ∈ form, ¬ mentioned d.toNat
  kept : IsNeutral c → form = [c]
  not_new : ∀ d ∈ form, IsNeutral d → form = [c]

/-- What is not blank has no blank in its form. -/
theorem IsCaseForm.not_blank {mentioned : ℕ → Prop} {c d : Char} {form : List Char}
    (h : IsCaseForm mentioned c form) (hd : d ∈ form) (hc : isBlank c = false) :
    isBlank d = false := by
  by_contra hnot
  have hdblank : isBlank d = true := by simpa using hnot
  have heq : d = c := by simpa [h.not_new d hd (Or.inl hdblank)] using hd
  rw [heq, hc] at hdblank
  cases hdblank

section Table

variable {runs : List Run} {expansions : List (ℕ × List ℕ)}

/-- A character that the table does not mention is its own form, and the form of any other one is
made up of the forms of the table. -/
theorem caseForm_cases (runs : List Run) (expansions : List (ℕ × List ℕ)) (c : Char) :
    (¬ Mentions runs expansions c.toNat ∧ caseForm runs expansions c = [c]) ∨
    (Mentions runs expansions c.toNat ∧
      ((∃ e ∈ expansions, caseForm runs expansions c = e.2.map Char.ofNat) ∨
        ∃ r ∈ runs, r.holds c.toNat = true ∧
          caseForm runs expansions c = [Char.ofNat (r.form c.toNat)])) := by
  rw [caseForm]
  cases hexpansion : expansions.find? (·.1 == c.toNat) with
  | some e =>
    have he := List.mem_of_find?_eq_some hexpansion
    exact Or.inr ⟨Or.inl ⟨e, he, by simpa using List.find?_some hexpansion⟩, Or.inl ⟨e, he, rfl⟩⟩
  | none =>
    cases hrun : runs.find? (·.holds c.toNat) with
    | some r =>
      have hr := List.mem_of_find?_eq_some hrun
      have hholds : r.holds c.toNat = true := by simpa using List.find?_some hrun
      exact Or.inr ⟨Or.inr ⟨r, hr, hholds⟩, Or.inr ⟨r, hr, hholds, rfl⟩⟩
    | none =>
      refine Or.inl ⟨?_, rfl⟩
      rintro (⟨e, he, heq⟩ | ⟨r, hr, hholds⟩)
      · simpa [heq] using List.find?_eq_none.mp hexpansion e he
      · exact List.find?_eq_none.mp hrun r hr hholds

theorem caseForm_of_not_mentions {c : Char} (h : ¬ Mentions runs expansions c.toNat) :
    caseForm runs expansions c = [c] := by
  rcases caseForm_cases runs expansions c with ⟨-, hform⟩ | ⟨hmentions, -⟩
  · exact hform
  · exact absurd hmentions h

/-- The table has every character of the forms that it gives. -/
theorem mem_forms {c d : Char} (hc : Mentions runs expansions c.toNat)
    (hd : d ∈ caseForm runs expansions c) : d ∈ forms runs expansions := by
  rcases caseForm_cases runs expansions c with ⟨hnot, -⟩ | ⟨-, ⟨e, he, hform⟩ | ⟨r, hr, hn, hform⟩⟩
  · exact absurd hc hnot
  · rw [hform] at hd
    exact List.mem_append_left _ (List.mem_flatMap.mpr ⟨e, he, hd⟩)
  · rw [hform, List.mem_singleton] at hd
    exact List.mem_append_right _ (List.mem_flatMap.mpr
      ⟨r, hr, List.mem_map.mpr ⟨c.toNat, Run.mem_points hn, hd.symm⟩⟩)

theorem CaseMap.Settled.isCaseForm (h : Settled runs expansions) (c : Char) :
    IsCaseForm (Mentions runs expansions) c (caseForm runs expansions c) := by
  by_cases hc : Mentions runs expansions c.toNat
  · refine ⟨?_, fun d hd => h.final d (mem_forms hc hd), fun hn => absurd hc (h.kept c hn),
      fun d hd hn => absurd hn (h.not_neutral d (mem_forms hc hd))⟩
    rcases caseForm_cases runs expansions c with
      ⟨hnot, -⟩ | ⟨-, ⟨e, he, hform⟩ | ⟨r, -, -, hform⟩⟩
    · exact absurd hc hnot
    · rw [hform]
      simpa using h.nonempty e he
    · rw [hform]
      exact List.cons_ne_nil _ _
  · rw [caseForm_of_not_mentions hc]
    refine ⟨List.cons_ne_nil _ _, fun d hd => ?_, fun _ => rfl, fun _ _ _ => rfl⟩
    rw [List.mem_singleton.mp hd]
    exact hc

end Table

/-! ### Forms of a text -/

/-- A text, and what it becomes when every character is replaced by one of its forms. -/
inductive CaseFormed (mentioned : ℕ → Prop) : List Char → List Char → Prop
  | nil : CaseFormed mentioned [] []
  | cons {c : Char} {form cs ds : List Char} (hform : IsCaseForm mentioned c form)
      (hrest : CaseFormed mentioned cs ds) : CaseFormed mentioned (c :: cs) (form ++ ds)

namespace CaseFormed

variable {mentioned : ℕ → Prop} {cs ds : List Char}

theorem final (h : CaseFormed mentioned cs ds) : ∀ d ∈ ds, ¬ mentioned d.toNat := by
  induction h with
  | nil => simp
  | cons hform _ ih =>
    intro d hd
    rcases List.mem_append.mp hd with hd | hd
    · exact hform.final d hd
    · exact ih d hd

/-- A change of case neither brings in neutral characters nor takes them out. -/
theorem mem_iff (h : CaseFormed mentioned cs ds) {c : Char} (hc : IsNeutral c) :
    c ∈ ds ↔ c ∈ cs := by
  induction h with
  | nil => rfl
  | @cons other form _ _ hform _ ih =>
    have hhead : c ∈ form ↔ c = other := by
      constructor
      · intro hmem
        simpa [hform.not_new c hmem hc] using hmem
      · rintro rfl
        simp [hform.kept hc]
    rw [List.mem_append, List.mem_cons, hhead, ih]

theorem eq_nil_iff (h : CaseFormed mentioned cs ds) : ds = [] ↔ cs = [] := by
  cases h with
  | nil => rfl
  | cons hform _ => simp [hform.nonempty]

end CaseFormed

/-! ### Trimmed texts -/

/-- There are no blanks at the ends. -/
structure Trimmed (cs : List Char) : Prop where
  head : ∀ c ∈ cs.head?, isBlank c = false
  last : ∀ c ∈ cs.getLast?, isBlank c = false

theorem trimChars_eq_rdropWhile (cs : List Char) :
    trimChars cs = (cs.dropWhile isBlank).rdropWhile isBlank := rfl

theorem mem_of_mem_trimChars {c : Char} {cs : List Char} (h : c ∈ trimChars cs) : c ∈ cs := by
  rw [trimChars_eq_rdropWhile] at h
  exact (List.dropWhile_sublist _).subset ((List.rdropWhile_prefix _ _).subset h)

theorem trimmed_trimChars (cs : List Char) : Trimmed (trimChars cs) where
  head c hc := by
    rw [trimChars_eq_rdropWhile] at hc
    have hprefix := List.rdropWhile_prefix isBlank (cs.dropWhile isBlank)
    have hhead : (cs.dropWhile isBlank).head? = some c := by
      obtain ⟨rest, hrest⟩ := hprefix
      rw [← hrest, List.head?_append, Option.mem_def.mp hc, Option.some_or]
    have hnot := List.head?_dropWhile_not isBlank cs
    rwa [hhead] at hnot
  last c hc := by
    rw [trimChars_eq_rdropWhile] at hc
    obtain ⟨hne, rfl⟩ := List.mem_getLast?_eq_getLast hc
    exact Bool.not_eq_true _ ▸ List.rdropWhile_last_not isBlank _ hne

theorem Trimmed.trimChars_eq {cs : List Char} (h : Trimmed cs) : trimChars cs = cs := by
  have hhead : cs.dropWhile isBlank = cs := by
    refine List.dropWhile_eq_self_iff.mpr fun hpos => ?_
    rw [h.head cs[0] (List.head?_eq_getElem? ▸ List.getElem?_eq_getElem hpos)]
    exact Bool.false_ne_true
  have hlast : cs.rdropWhile isBlank = cs := by
    refine List.rdropWhile_eq_self_iff.mpr fun hne => ?_
    rw [h.last _ (List.getLast?_eq_some_getLast hne)]
    exact Bool.false_ne_true
  rw [trimChars_eq_rdropWhile, hhead, hlast]

namespace CaseFormed

variable {mentioned : ℕ → Prop} {cs ds : List Char}

theorem head_not_blank (h : CaseFormed mentioned cs ds)
    (hhead : ∀ c ∈ cs.head?, isBlank c = false) : ∀ d ∈ ds.head?, isBlank d = false := by
  intro d hd
  cases h with
  | nil => cases hd
  | cons hform _ =>
    rw [List.head?_append_of_ne_nil _ hform.nonempty] at hd
    exact hform.not_blank (List.mem_of_mem_head? hd) (hhead _ rfl)

theorem last_not_blank (h : CaseFormed mentioned cs ds)
    (hlast : ∀ c ∈ cs.getLast?, isBlank c = false) : ∀ d ∈ ds.getLast?, isBlank d = false := by
  induction h with
  | nil => simp
  | @cons c form cs ds hform hrest ih =>
    intro d hd
    -- The last character is in the last form, so it matters whether this is the last one.
    by_cases hnil : cs = []
    · rw [hrest.eq_nil_iff.mpr hnil, List.append_nil] at hd
      subst hnil
      exact hform.not_blank (List.mem_of_mem_getLast? hd) (hlast c rfl)
    · have hds : ds ≠ [] := fun heq => hnil (hrest.eq_nil_iff.mp heq)
      rw [List.getLast?_append_of_ne_nil _ hds] at hd
      rw [List.getLast?_cons_of_ne_nil hnil] at hlast
      exact ih hlast d hd

/-- A change of case leaves a trimmed text trimmed. -/
theorem trimmed (h : CaseFormed mentioned cs ds) (hcs : Trimmed cs) : Trimmed ds :=
  ⟨h.head_not_blank hcs.head, h.last_not_blank hcs.last⟩

end CaseFormed

/-! ### Lower case -/

/-- The small sigmas are final, and which of the two it is does not matter. -/
theorem isCaseForm_sigma {d : Char} (h : d = 'ς' ∨ d = 'σ') :
    IsCaseForm (Mentions lowerRuns lowerExpansions) 'Σ' [d] where
  nonempty := List.cons_ne_nil _ _
  final := by
    rw [List.forall_mem_singleton]
    rcases h with rfl | rfl <;> decide +kernel
  kept hneutral := absurd hneutral (by decide)
  not_new := by
    rw [List.forall_mem_singleton]
    intro hneutral
    rcases h with rfl | rfl <;> exact absurd hneutral (by decide)

theorem caseFormed_lowerFrom (before cs : List Char) :
    CaseFormed (Mentions lowerRuns lowerExpansions) cs (lowerFrom before cs) := by
  induction cs generalizing before with
  | nil => exact .nil
  | cons c rest ih =>
    rw [lowerFrom]
    refine .cons ?_ (ih _)
    split
    · rename_i hsigma
      rw [eq_of_beq hsigma]
      refine isCaseForm_sigma ?_
      split
      · exact Or.inl rfl
      · exact Or.inr rfl
    · exact settled_lower.isCaseForm c

/-- Final characters stay, whatever stands before them: the capital sigma is not one of them. -/
theorem lowerFrom_of_not_mentions {cs : List Char}
    (h : ∀ c ∈ cs, ¬ Mentions lowerRuns lowerExpansions c.toNat) (before : List Char) :
    lowerFrom before cs = cs := by
  induction cs generalizing before with
  | nil => rfl
  | cons c rest ih =>
    obtain ⟨hc, hrest⟩ := List.forall_mem_cons.mp h
    have hsigma : ¬ (c == 'Σ') = true := by
      intro heq
      rw [eq_of_beq heq] at hc
      exact hc (by decide +kernel)
    rw [lowerFrom, if_neg hsigma, lowerChar, caseForm_of_not_mentions hc, ih hrest,
      List.singleton_append]

theorem toList_lowercase (s : String) : (lowercase s).toList = lowerFrom [] s.toList := by
  rw [lowercase, String.toList_ofList]

theorem caseFormed_lowercase (s : String) :
    CaseFormed (Mentions lowerRuns lowerExpansions) s.toList (lowercase s).toList := by
  rw [toList_lowercase]
  exact caseFormed_lowerFrom [] s.toList

theorem lowercase_lowercase (s : String) : lowercase (lowercase s) = lowercase s := by
  rw [lowercase, lowerFrom_of_not_mentions (caseFormed_lowercase s).final, String.ofList_toList]

/-! ### Upper case -/

theorem toList_uppercase (s : String) : (uppercase s).toList = s.toList.flatMap upperChar := by
  rw [uppercase, String.toList_ofList]

theorem caseFormed_uppercase (s : String) :
    CaseFormed (Mentions upperRuns upperExpansions) s.toList (uppercase s).toList := by
  rw [toList_uppercase]
  induction s.toList with
  | nil => exact .nil
  | cons c rest ih => exact .cons (settled_upper.isCaseForm c) ih

theorem flatMap_upperChar_of_not_mentions {cs : List Char}
    (h : ∀ c ∈ cs, ¬ Mentions upperRuns upperExpansions c.toNat) : cs.flatMap upperChar = cs := by
  induction cs with
  | nil => rfl
  | cons c rest ih =>
    obtain ⟨hc, hrest⟩ := List.forall_mem_cons.mp h
    rw [List.flatMap_cons, upperChar, caseForm_of_not_mentions hc, ih hrest, List.singleton_append]

theorem uppercase_uppercase (s : String) : uppercase (uppercase s) = uppercase s := by
  rw [uppercase, flatMap_upperChar_of_not_mentions (caseFormed_uppercase s).final,
    String.ofList_toList]

/-! ### Trimmed texts in one case -/

theorem trim_of_trimmed {s : String} (h : Trimmed s.toList) : trim s = s := by
  rw [trim, h.trimChars_eq, String.ofList_toList]

theorem trimmed_trim (s : String) : Trimmed (trim s).toList := by
  rw [toList_trim]
  exact trimmed_trimChars s.toList

theorem trim_lowercase_trim (s : String) : trim (lowercase (trim s)) = lowercase (trim s) :=
  trim_of_trimmed ((caseFormed_lowercase (trim s)).trimmed (trimmed_trim s))

theorem trim_uppercase_trim (s : String) : trim (uppercase (trim s)) = uppercase (trim s) :=
  trim_of_trimmed ((caseFormed_uppercase (trim s)).trimmed (trimmed_trim s))

end RecordDiff.Text
