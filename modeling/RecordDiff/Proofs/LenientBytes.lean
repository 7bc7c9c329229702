import RecordDiff.Proofs.StrictBytes

/-!
# Bytes in lenient form

A lenient format is to read what is an optional sign and at least one digit when the blanks around
the text and all grouping characters are dropped. It looks for signs before it drops grouping
characters, though, and therefore misses a sign that a grouping character hides. A plus behind a
grouping character is not taken off, and the text is refused. A minus behind a plus and a grouping
character is not seen as a second sign, and the text is read as a negative number. In all other
texts a grouping character does no harm.

The grouping character is not a sign throughout: a format that drops signs reads other numerals.

## Main definitions

* `ByteFormat.SignedNumeral` - the texts that a lenient format is to read, with their numbers
* `ByteFormat.HiddenPlus`, `ByteFormat.HiddenMinus` - the texts that it reads otherwise

## Main results

* `ByteFormat.lenientBody?_numeral_iff` - what a lenient format makes of a trimmed text
* `ByteFormat.lenient_parse_iff_unhidden` - what it reads, and when that is what it is to read
-/

namespace RecordDiff.ByteFormat

open Digits (Writes)

/-! ### Signed numerals -/

/-- The texts that a lenient format is to read once blanks and grouping characters are dropped, each
with the number that it denotes. -/
inductive SignedNumeral : List Char → ℤ → Prop
  | unsigned {digits : List Char} {n : ℕ} (h : Writes digits n) : SignedNumeral digits n
  | plus {digits : List Char} {n : ℕ} (h : Writes digits n) : SignedNumeral ('+' :: digits) n
  | minus {digits : List Char} {n : ℕ} (h : Writes digits n) : SignedNumeral ('-' :: digits) (-n)

/-- The character is a plus or a minus. -/
def isSign (c : Char) : Bool := c == '+' || c == '-'

/-- The text without blanks around it and without grouping characters. -/
def ungrouped (grouping : Char) (s : String) : List Char :=
  (Text.trim s).toList.filter (· != grouping)

/-- The text writes the number `v` with a plus that stands behind a grouping character. -/
def HiddenPlus (grouping : Char) (cs : List Char) (v : ℤ) : Prop :=
  ∃ rest digits n, cs = grouping :: rest ∧ rest.filter (· != grouping) = '+' :: digits ∧
    Writes digits n ∧ v = (n : ℕ)

/-- The text writes the number `v` with a minus that stands behind a plus and a grouping
character. -/
def HiddenMinus (grouping : Char) (cs : List Char) (v : ℤ) : Prop :=
  ∃ rest digits n, cs = '+' :: grouping :: rest ∧ rest.filter (· != grouping) = '-' :: digits ∧
    Writes digits n ∧ v = -(n : ℕ)

theorem StrictNumeral.signed {cs : List Char} {v : ℤ} (h : StrictNumeral cs v) :
    SignedNumeral cs v := by
  cases h with
  | unsigned h => exact .unsigned h
  | minus h => exact .minus h

theorem isSign_eq_true_iff {c : Char} : isSign c = true ↔ c = '+' ∨ c = '-' := by
  simp [isSign]

theorem isSign_of_ne {c : Char} (hplus : c ≠ '+') (hminus : c ≠ '-') : isSign c = false := by
  simp [isSign, hplus, hminus]

theorem isSign_of_isDigit {c : Char} (h : Digits.isDigit c = true) : isSign c = false := by
  rw [Bool.eq_false_iff, Ne, isSign_eq_true_iff]
  rintro (rfl | rfl) <;> cases h

/-- Digits do not start with a sign. -/
theorem not_writes_sign {c : Char} {digits : List Char} {n : ℕ} (hc : isSign c = true) :
    ¬ Writes (c :: digits) n := by
  intro h
  exact nomatch (isSign_of_isDigit (h.all_digits c List.mem_cons_self)).symm.trans hc

theorem signedNumeral_plus_iff {digits : List Char} {v : ℤ} :
    SignedNumeral ('+' :: digits) v ↔ ∃ n : ℕ, Writes digits n ∧ v = n := by
  constructor
  · intro h
    cases h with
    | unsigned h => exact absurd h (not_writes_sign rfl)
    | plus h => exact ⟨_, h, rfl⟩
  · rintro ⟨n, h, rfl⟩
    exact .plus h

theorem not_strictNumeral_plus {digits : List Char} {v : ℤ} :
    ¬ StrictNumeral ('+' :: digits) v := by
  intro h
  cases h with
  | unsigned h => exact not_writes_sign rfl h

/-! ### Hidden signs -/

section Hidden

variable {grouping c d : Char} {cs rest ds : List Char} {v : ℤ}

/-- What stands in front and is not the first character that is kept is a grouping character. -/
theorem eq_grouping_of_filter (h : (c :: rest).filter (· != grouping) = d :: ds) (hne : c ≠ d) :
    c = grouping ∧ rest.filter (· != grouping) = d :: ds := by
  by_cases hc : c = grouping
  · rw [List.filter_cons_of_neg (by simp [hc])] at h
    exact ⟨hc, h⟩
  · rw [List.filter_cons_of_pos (by simp [hc])] at h
    exact absurd (List.cons.inj h).1 hne

theorem filter_cons_grouping : (grouping :: rest).filter (· != grouping) =
    rest.filter (· != grouping) := List.filter_cons_of_neg (by simp)

theorem filter_cons_of_ne (h : grouping ≠ c) : (c :: rest).filter (· != grouping) =
    c :: rest.filter (· != grouping) := List.filter_cons_of_pos (by simp [h.symm])

theorem startsWithSign_cons : startsWithSign (c :: rest) = isSign c := by
  unfold startsWithSign
  split
  · rename_i heq
    cases heq
    rfl
  · rename_i heq
    cases heq
    rfl
  · rename_i hplus hminus
    exact (isSign_of_ne (fun h => hplus rest (h ▸ rfl)) fun h => hminus rest (h ▸ rfl)).symm

/-- A strict numeral is left behind a plus when the text is a signed numeral, or one with a hidden
minus. -/
theorem numeral_behind_plus_iff (hplus : grouping ≠ '+') (hminus : grouping ≠ '-') :
    startsWithSign rest = false ∧ StrictNumeral (rest.filter (· != grouping)) v ↔
      SignedNumeral (('+' :: rest).filter (· != grouping)) v ∨
        HiddenMinus grouping ('+' :: rest) v := by
  have hgrouping : isSign grouping = false := isSign_of_ne hplus hminus
  rw [filter_cons_of_ne hplus, signedNumeral_plus_iff]
  constructor
  · rintro ⟨hsign, hnumeral⟩
    generalize hkept : rest.filter (· != grouping) = kept at hnumeral
    cases hnumeral with
    | unsigned h => exact Or.inl ⟨_, h, rfl⟩
    | minus h =>
      cases rest with
      | nil => cases hkept
      | cons c rest =>
        have hc : c ≠ '-' := by
          rintro rfl
          cases hsign
        obtain ⟨rfl, hdigits⟩ := eq_grouping_of_filter hkept hc
        exact Or.inr ⟨rest, _, _, rfl, hdigits, h, rfl⟩
  · rintro (⟨n, h, rfl⟩ | ⟨_, digits, n, heq, hkept, h, rfl⟩)
    · refine ⟨?_, .unsigned h⟩
      cases rest with
      | nil => rfl
      | cons c rest =>
        rw [startsWithSign_cons, Bool.eq_false_iff]
        intro hc
        have hne : grouping ≠ c := by
          rintro rfl
          exact nomatch hgrouping.symm.trans hc
        rw [filter_cons_of_ne hne] at h
        exact not_writes_sign hc h
    · obtain rfl := (List.cons.inj heq).2
      rw [startsWithSign_cons, filter_cons_grouping, hkept]
      exact ⟨hgrouping, .minus h⟩

/-- A text that does not start with a plus is a strict numeral when it is a signed one without a
hidden plus. -/
theorem numeral_without_plus_iff (hcs : ∀ rest, cs ≠ '+' :: rest) :
    StrictNumeral (cs.filter (· != grouping)) v ↔
      SignedNumeral (cs.filter (· != grouping)) v ∧ ¬ HiddenPlus grouping cs v := by
  constructor
  · intro h
    refine ⟨h.signed, ?_⟩
    rintro ⟨rest, digits, n, rfl, hkept, -, -⟩
    rw [filter_cons_grouping, hkept] at h
    exact not_strictNumeral_plus h
  · rintro ⟨h, hhidden⟩
    generalize hkept : cs.filter (· != grouping) = kept at h ⊢
    cases h with
    | unsigned h => exact .unsigned h
    | minus h => exact .minus h
    | plus h =>
      cases cs with
      | nil => cases hkept
      | cons c rest =>
        have hc : c ≠ '+' := fun heq => hcs rest (heq ▸ rfl)
        obtain ⟨rfl, hdigits⟩ := eq_grouping_of_filter hkept hc
        exact absurd ⟨rest, _, _, rfl, hdigits, h, rfl⟩ hhidden

theorem lenientBody?_of_plus (h : Text.trimChars cs = '+' :: rest) :
    lenientBody? grouping cs =
      if startsWithSign rest then none else some (rest.filter (· != grouping)) := by
  simp only [lenientBody?, h]

/-- What a lenient format leaves of a text is a strict numeral when the text is a signed one without
a hidden plus, or one with a hidden minus. -/
theorem lenientBody?_numeral_iff (hplus : grouping ≠ '+') (hminus : grouping ≠ '-') :
    (∃ body, lenientBody? grouping cs = some body ∧ StrictNumeral body v) ↔
      SignedNumeral ((Text.trimChars cs).filter (· != grouping)) v ∧
          ¬ HiddenPlus grouping (Text.trimChars cs) v ∨
        HiddenMinus grouping (Text.trimChars cs) v := by
  by_cases h : ∃ rest, Text.trimChars cs = '+' :: rest
  · obtain ⟨rest, h⟩ := h
    have hnone : ¬ HiddenPlus grouping ('+' :: rest) v := by
      rintro ⟨_, _, _, heq, -⟩
      exact hplus (List.cons.inj heq).1.symm
    rw [lenientBody?_of_plus h, h, and_iff_left hnone, ← numeral_behind_plus_iff hplus hminus]
    cases startsWithSign rest <;> simp
  · have hcs : ∀ rest, Text.trimChars cs ≠ '+' :: rest := fun rest heq => h ⟨rest, heq⟩
    have hnone : ¬ HiddenMinus grouping (Text.trimChars cs) v := by
      rintro ⟨rest, _, _, heq, -⟩
      exact hcs _ heq
    rw [lenientBody?_of_ne_plus hcs, or_iff_left hnone, ← numeral_without_plus_iff hcs]
    simp

end Hidden

/-! ### Signs in texts -/

theorem SignedNumeral.countP_isSign_le {cs : List Char} {v : ℤ} (h : SignedNumeral cs v) :
    cs.countP isSign ≤ 1 := by
  have hdigits : ∀ {digits : List Char} {n : ℕ}, Writes digits n → digits.countP isSign = 0 := by
    intro digits n h
    refine List.countP_eq_zero.mpr fun c hc => ?_
    rw [isSign_of_isDigit (h.all_digits c hc)]
    exact Bool.false_ne_true
  cases h with
  | unsigned h => exact (hdigits h).le.trans (Nat.zero_le 1)
  | plus h => exact (List.countP_cons_of_pos rfl).trans_le (Nat.succ_le_succ (hdigits h).le)
  | minus h => exact (List.countP_cons_of_pos rfl).trans_le (Nat.succ_le_succ (hdigits h).le)

/-- Trimming leaves all signs. -/
theorem countP_isSign_trimChars (cs : List Char) :
    (Text.trimChars cs).countP isSign = cs.countP isSign := by
  have hblank : ∀ c, Text.isBlank c = true → ¬ isSign c = true := by
    intro c hc hsign
    rcases isSign_eq_true_iff.mp hsign with rfl | rfl <;> revert hc <;> decide
  have hdrop : ∀ l : List Char, (l.dropWhile Text.isBlank).countP isSign = l.countP isSign := by
    intro l
    induction l with
    | nil => rfl
    | cons c rest ih =>
      by_cases hc : Text.isBlank c = true
      · rw [List.dropWhile_cons_of_pos hc, ih, List.countP_cons_of_neg (hblank c hc)]
      · rw [List.dropWhile_cons_of_neg hc]
  rw [Text.trimChars, List.countP_reverse, hdrop, List.countP_reverse, hdrop]

/-- Trimming and dropping grouping characters leaves all signs. -/
theorem countP_isSign_ungrouped {grouping : Char} (hplus : grouping ≠ '+') (hminus : grouping ≠ '-')
    (s : String) : (ungrouped grouping s).countP isSign = s.toList.countP isSign := by
  rw [ungrouped, List.countP_filter, Text.toList_trim, ← countP_isSign_trimChars s.toList]
  refine List.countP_congr fun c _ => ?_
  rw [Bool.and_eq_true, and_iff_left_iff_imp, bne_iff_ne]
  rintro hsign rfl
  exact nomatch (isSign_of_ne hplus hminus).symm.trans hsign

/-! ### Lenient formats -/

section Lenient

variable {grouping : Char} {cs : List Char} {v w : ℤ}

theorem HiddenPlus.signedNumeral (h : HiddenPlus grouping cs v) :
    SignedNumeral (cs.filter (· != grouping)) v := by
  obtain ⟨rest, digits, n, rfl, hkept, hdigits, rfl⟩ := h
  rw [filter_cons_grouping, hkept]
  exact .plus hdigits

theorem HiddenMinus.filter_eq (hplus : grouping ≠ '+') (h : HiddenMinus grouping cs v) :
    ∃ digits, cs.filter (· != grouping) = '+' :: '-' :: digits := by
  obtain ⟨rest, digits, n, rfl, hkept, -, -⟩ := h
  rw [filter_cons_of_ne hplus, filter_cons_grouping, hkept]
  exact ⟨digits, rfl⟩

/-- A text with a hidden minus has two signs. -/
theorem HiddenMinus.two_le_countP (hplus : grouping ≠ '+') (h : HiddenMinus grouping cs v) :
    2 ≤ (cs.filter (· != grouping)).countP isSign := by
  obtain ⟨digits, hkept⟩ := h.filter_eq hplus
  rw [hkept, List.countP_cons_of_pos rfl, List.countP_cons_of_pos rfl]
  omega

theorem HiddenMinus.not_signedNumeral (hplus : grouping ≠ '+') (h : HiddenMinus grouping cs v) :
    ¬ SignedNumeral (cs.filter (· != grouping)) w := by
  intro hsigned
  have htwo := h.two_le_countP hplus
  have hone := hsigned.countP_isSign_le
  omega

theorem parse?_of_lenient {f : ByteFormat} (hf : f.strict = false) (hplus : f.grouping ≠ '+')
    (hminus : f.grouping ≠ '-') {s : String} {n : Int8} :
    f.parse? s = some n ↔
      SignedNumeral (ungrouped f.grouping s) n.toInt ∧
          ¬ HiddenPlus f.grouping (Text.trim s).toList n.toInt ∨
        HiddenMinus f.grouping (Text.trim s).toList n.toInt := by
  have hbody : f.body? s.toList = lenientBody? f.grouping s.toList := if_neg (by simp [hf])
  rw [parse?_eq_some_iff, hbody, lenientBody?_numeral_iff hplus hminus, ungrouped, Text.toList_trim]

end Lenient

/-- **A lenient format reads signed numerals, unless a grouping character hides their sign.** It
reads a text as a byte when, without blanks around it and grouping characters, the text is an
optional sign and digits that write the byte, but for a plus that stands behind a grouping
character; and it reads a text in which a minus stands behind a plus and a grouping character. So it
reads what it is to read exactly when the text writes no byte in one of these two ways, and it reads
no other text with two signs than those with a hidden minus. -/
theorem lenient_parse_iff_unhidden (f : ByteFormat) (hf : f.strict = false)
    (hplus : f.grouping ≠ '+') (hminus : f.grouping ≠ '-') (s : String) :
    (∀ n, f.parse? s = some n ↔
      SignedNumeral (ungrouped f.grouping s) n.toInt ∧
          ¬ HiddenPlus f.grouping (Text.trim s).toList n.toInt ∨
        HiddenMinus f.grouping (Text.trim s).toList n.toInt) ∧
    ((∀ n, f.parse? s = some n ↔ SignedNumeral (ungrouped f.grouping s) n.toInt) ↔
      ∀ n : Int8, ¬ HiddenPlus f.grouping (Text.trim s).toList n.toInt ∧
        ¬ HiddenMinus f.grouping (Text.trim s).toList n.toInt) ∧
    (∀ n, f.parse? s = some n →
      (2 ≤ s.toList.countP isSign ↔ HiddenMinus f.grouping (Text.trim s).toList n.toInt)) := by
  have hread : ∀ n, f.parse? s = some n ↔ _ := fun n => parse?_of_lenient hf hplus hminus
  refine ⟨hread, ?exact, ?signs⟩
  case exact =>
    constructor
    · intro h n
      have hclaim := (h n).symm.trans (hread n)
      constructor
      · intro hhidden
        rcases hclaim.mp hhidden.signedNumeral with ⟨-, hopen⟩ | hother
        · exact hopen hhidden
        · exact hother.not_signedNumeral hplus hhidden.signedNumeral
      · intro hhidden
        exact hhidden.not_signedNumeral hplus (hclaim.mpr (Or.inr hhidden))
    · intro h n
      rw [hread, and_iff_left (h n).1, or_iff_left (h n).2]
  case signs =>
    intro n h
    rw [← countP_isSign_ungrouped hplus hminus]
    constructor
    · intro htwo
      rcases (hread n).mp h with ⟨hsigned, -⟩ | hhidden
      · have hone := hsigned.countP_isSign_le
        omega
      · exact hhidden
    · exact fun hhidden => hhidden.two_le_countP hplus

/-- A text with blanks, a plus and a grouping character, none of which hides another one. -/
theorem lenient_parse_iff_unhidden_grouped :
    lenientForm.strict = false ∧ lenientForm.grouping ≠ '+' ∧ lenientForm.grouping ≠ '-' ∧
    SignedNumeral (ungrouped ',' " +1,2 ") 12 ∧ lenientForm.parse? " +1,2 " = some 12 ∧
    ¬ 2 ≤ " +1,2 ".toList.countP isSign := by
  have htrim : (Text.trim " +1,2 ").toList = ['+', '1', ',', '2'] := by decide
  have hsigned : SignedNumeral (ungrouped ',' " +1,2 ") 12 := by
    rw [ungrouped, htrim]
    exact .plus (by decide)
  have hopen : ∀ n : Int8, ¬ HiddenPlus ',' (Text.trim " +1,2 ").toList n.toInt ∧
      ¬ HiddenMinus ',' (Text.trim " +1,2 ").toList n.toInt := by
    rw [htrim]
    refine fun n => ⟨?_, ?_⟩ <;> rintro ⟨_, _, _, ⟨⟩, -⟩
  obtain ⟨-, hexact, hsigns⟩ :=
    lenient_parse_iff_unhidden lenientForm rfl (by decide) (by decide) " +1,2 "
  have hread : lenientForm.parse? " +1,2 " = some 12 := (hexact.mpr hopen 12).mpr hsigned
  exact ⟨rfl, by decide, by decide, hsigned, hread,
    fun htwo => (hopen 12).2 ((hsigns 12 hread).mp htwo)⟩

/-- A grouping character hides a second sign, and a sign that should be read. -/
theorem lenient_parse_hidden_signs :
    lenientForm.parse? "+,-5" = some (-5) ∧ ¬ SignedNumeral (ungrouped ',' "+,-5") (-5) ∧
    lenientForm.parse? ",+5" = none ∧ SignedNumeral (ungrouped ',' ",+5") 5 ∧
    ¬ ∀ f : ByteFormat, f.strict = false → Digits.isDigit f.grouping = false →
      f.grouping ≠ '+' → f.grouping ≠ '-' → ∀ s n,
        f.parse? s = some n ↔ SignedNumeral (ungrouped f.grouping s) n.toInt := by
  have hread : lenientForm.parse? "+,-5" = some (-5) := by decide
  have hkept : ungrouped ',' "+,-5" = ['+', '-', '5'] := by decide
  have htwo : ¬ SignedNumeral (ungrouped ',' "+,-5") (-5) := by
    intro h
    have hone := h.countP_isSign_le
    rw [hkept] at hone
    revert hone
    decide
  have hplus : SignedNumeral (ungrouped ',' ",+5") 5 := by
    have hkept : ungrouped ',' ",+5" = ['+', '5'] := by decide
    rw [hkept]
    exact .plus (by decide)
  refine ⟨hread, htwo, by decide, hplus, fun h => htwo ?_⟩
  exact (h lenientForm rfl rfl (by decide) (by decide) "+,-5" (-5)).mp hread

end RecordDiff.ByteFormat
