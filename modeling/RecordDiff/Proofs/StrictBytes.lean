import RecordDiff.ByteFormat
import Mathlib.Data.List.TakeWhile
import Mathlib.Data.Nat.Digits.Defs
import Mathlib.Tactic.Ring

/-!
# Bytes in strict form

A strict format takes a text for a byte when it is an optional minus and at least one digit, and the
number that the digits write fits. There may be any number of zeros in front. A number is read as a
word of 64 bits before it is a byte, and one that fits no word is refused there already. That makes
no difference: no such number is a byte.

A lenient format reads whatever a strict one does, and reads it alike, unless its grouping character
is one that the text needs.

## Main definitions

* `Digits.Writes` - the digits of a number, without reference to how they are read
* `ByteFormat.StrictNumeral` - the texts that a strict format reads, with their numbers

## Main results

* `ByteFormat.parse?_eq_some_iff` - a text is read as a byte when what is left of it is a numeral
* `ByteFormat.strict_parse_exact` - what a strict format reads
-/

namespace RecordDiff

/-! ### Digits -/

namespace Digits

/-- The digits write the number `n`: the last one counts ones, the one before it tens, and so on. -/
structure Writes (digits : List Char) (n : ℕ) : Prop where
  nonempty : digits ≠ []
  all_digits : ∀ c ∈ digits, isDigit c = true
  number : Nat.ofDigits 10 (digits.reverse.map digitValue) = n

/-- Reading digits from the front gives the number that they write. -/
theorem value_eq_ofDigits (digits : List Char) :
    value digits = Nat.ofDigits 10 (digits.reverse.map digitValue) := by
  have hstep : (fun (n : ℕ) (c : Char) => n * 10 + digitValue c) =
      fun n c => digitValue c + 10 * n := by
    funext n c
    ring
  rw [Nat.ofDigits_eq_foldr, List.foldr_map, List.foldr_reverse, value, valueFrom, hstep]
  rfl

theorem writes_iff {digits : List Char} {n : ℕ} :
    Writes digits n ↔ (digits ≠ [] ∧ ∀ c ∈ digits, isDigit c = true) ∧ value digits = n := by
  rw [value_eq_ofDigits]
  exact ⟨fun h => ⟨⟨h.nonempty, h.all_digits⟩, h.number⟩, fun h => ⟨h.1.1, h.1.2, h.2⟩⟩

/-- The check that digits have to pass. -/
theorem check_eq_false_iff {digits : List Char} :
    (digits.isEmpty || !digits.all isDigit) = false ↔
      digits ≠ [] ∧ ∀ c ∈ digits, isDigit c = true := by
  simp

instance (digits : List Char) (n : ℕ) : Decidable (Writes digits n) :=
  decidable_of_iff
    ((digits.isEmpty || !digits.all isDigit) = false ∧ value digits = n)
    ((and_congr_left' check_eq_false_iff).trans writes_iff.symm)

theorem Writes.unique {digits : List Char} {m n : ℕ} (hm : Writes digits m)
    (hn : Writes digits n) : m = n :=
  hm.number.symm.trans hn.number

/-- Zeros in front change nothing. -/
theorem Writes.zeros {digits : List Char} {n : ℕ} (h : Writes digits n) (k : ℕ) :
    Writes (List.replicate k '0' ++ digits) n where
  nonempty := List.append_ne_nil_of_right_ne_nil _ h.nonempty
  all_digits := by
    intro c hc
    rcases List.mem_append.mp hc with hzero | hdigit
    · exact List.eq_of_mem_replicate hzero ▸ rfl
    · exact h.all_digits c hdigit
  number := by
    have hzero : digitValue '0' = 0 := rfl
    rw [List.reverse_append, List.reverse_replicate, List.map_append, List.map_replicate, hzero,
      Nat.ofDigits_append_replicate_zero, h.number]

theorem toNat_of_isDigit {c : Char} (h : isDigit c = true) : 48 ≤ c.toNat ∧ c.toNat ≤ 57 := by
  simp only [isDigit, Bool.and_eq_true, decide_eq_true_eq, Char.le_def, UInt32.le_iff_toNat_le] at h
  exact h

end Digits

/-! ### Blanks -/

namespace Text

theorem isBlank_of_isDigit {c : Char} (h : Digits.isDigit c = true) : isBlank c = false := by
  have hrange := Digits.toNat_of_isDigit h
  rw [Bool.eq_false_iff, isBlank, Ne, inRanges_eq_true_iff]
  rintro ⟨r, hr, hlow, hhigh⟩
  simp only [blankRanges, List.mem_cons, List.not_mem_nil, or_false] at hr
  rcases hr with rfl | rfl | rfl | rfl | rfl | rfl | rfl | rfl | rfl | rfl <;> omega

/-- A text without blanks has none to trim. -/
theorem trimChars_of_no_blank {cs : List Char} (h : ∀ c ∈ cs, isBlank c = false) :
    trimChars cs = cs := by
  have hdrop : ∀ l : List Char, (∀ c ∈ l, isBlank c = false) → l.dropWhile isBlank = l := by
    intro l hl
    exact List.dropWhile_eq_self_iff.mpr fun hlen =>
      Bool.eq_false_iff.mp (hl _ (List.get_mem l ⟨0, hlen⟩))
  rw [trimChars, hdrop cs h, hdrop cs.reverse fun c hc => h c (List.mem_reverse.mp hc),
    List.reverse_reverse]

end Text

/-! ### Numerals -/

namespace ByteFormat

open Digits (Writes)

/-- The texts that a strict format reads, each with the number that it denotes. -/
inductive StrictNumeral : List Char → ℤ → Prop
  | unsigned {digits : List Char} {n : ℕ} (h : Writes digits n) : StrictNumeral digits n
  | minus {digits : List Char} {n : ℕ} (h : Writes digits n) : StrictNumeral ('-' :: digits) (-n)

/-- Digits do not start with a minus. -/
theorem not_writes_minus {digits : List Char} {n : ℕ} : ¬ Writes ('-' :: digits) n := by
  intro h
  have hminus := h.all_digits '-' List.mem_cons_self
  revert hminus
  decide

theorem strictNumeral_minus_iff {digits : List Char} {v : ℤ} :
    StrictNumeral ('-' :: digits) v ↔ ∃ n : ℕ, Writes digits n ∧ v = -n := by
  constructor
  · intro h
    cases h with
    | unsigned h => exact absurd h not_writes_minus
    | minus h => exact ⟨_, h, rfl⟩
  · rintro ⟨n, h, rfl⟩
    exact .minus h

theorem strictNumeral_iff_of_ne {cs : List Char} (hcs : ∀ digits, cs ≠ '-' :: digits) {v : ℤ} :
    StrictNumeral cs v ↔ ∃ n : ℕ, Writes cs n ∧ v = n := by
  constructor
  · intro h
    cases h with
    | unsigned h => exact ⟨_, h, rfl⟩
    | minus h => exact absurd rfl (hcs _)
  · rintro ⟨n, h, rfl⟩
    exact .unsigned h

theorem strictNumeral_iff_of_writes {digits : List Char} {n : ℕ} (h : Writes digits n) {v : ℤ} :
    StrictNumeral digits v ↔ v = n := by
  have hminus : ∀ rest, digits ≠ '-' :: rest := by
    rintro rest rfl
    exact not_writes_minus h
  rw [strictNumeral_iff_of_ne hminus]
  exact ⟨fun ⟨_, hm, hv⟩ => h.unique hm ▸ hv, fun hv => ⟨n, h, hv⟩⟩

theorem strictNumeral_minus_iff_of_writes {digits : List Char} {n : ℕ} (h : Writes digits n)
    {v : ℤ} : StrictNumeral ('-' :: digits) v ↔ v = -n := by
  rw [strictNumeral_minus_iff]
  exact ⟨fun ⟨_, hm, hv⟩ => h.unique hm ▸ hv, fun hv => ⟨n, h, hv⟩⟩

/-- The check for digits, with the number that is read when they pass. -/
theorem checked_eq_some_iff (number : ℕ → ℤ) {digits : List Char} {v : ℤ} :
    (if digits.isEmpty || !digits.all Digits.isDigit then none
      else some (number (Digits.value digits))) = some v ↔
      ∃ n, Writes digits n ∧ v = number n := by
  simp only [Digits.writes_iff, ← Digits.check_eq_false_iff]
  cases (digits.isEmpty || !digits.all Digits.isDigit) with
  | true => exact iff_of_false nofun fun ⟨_, ⟨h, _⟩, _⟩ => nomatch h
  | false =>
    constructor
    · rintro ⟨⟩
      exact ⟨_, ⟨rfl, rfl⟩, rfl⟩
    · rintro ⟨n, ⟨-, rfl⟩, rfl⟩
      rfl

theorem strictNumber?_eq_some_iff {cs : List Char} {v : ℤ} :
    strictNumber? cs = some v ↔ StrictNumeral cs v := by
  unfold strictNumber?
  split
  · exact (checked_eq_some_iff fun n => -n).trans strictNumeral_minus_iff.symm
  · rename_i hcs
    exact (checked_eq_some_iff fun n => n).trans (strictNumeral_iff_of_ne hcs).symm

/-! ### Words and bytes -/

theorem wordOf?_eq_some_iff {v : ℤ} {w : Int64} : wordOf? v = some w ↔ v = w.toInt := by
  rw [wordOf?, Int64.toInt_minValue, Int64.toInt_maxValue]
  split
  · rename_i hword
    have hv : (Int64.ofInt v).toInt = v := Int64.toInt_ofInt_of_le hword.1 (by omega)
    rw [Option.some.injEq, ← Int64.toInt_inj, hv]
  · have hlow := w.le_toInt
    have hhigh := w.toInt_lt
    exact iff_of_false nofun (by omega)

theorem byteOf?_eq_some_iff {w : Int64} {n : Int8} : byteOf? w = some n ↔ w.toInt = n.toInt := by
  have hlow : (-128 : Int64).toInt = -128 := rfl
  have hhigh : (127 : Int64).toInt = 127 := rfl
  simp only [byteOf?, Int64.le_iff_toInt_le, hlow, hhigh]
  split
  · rename_i hbyte
    have hw : w.toInt8.toInt = w.toInt := by
      rw [Int64.toInt_toInt8]
      exact Int.bmod_eq_of_le (by omega) (by omega)
    rw [Option.some.injEq, ← Int8.toInt_inj, hw]
  · have hlow := n.le_toInt
    have hhigh := n.toInt_lt
    exact iff_of_false nofun (by omega)

/-- A number that passes as a word and as a byte is that byte. -/
theorem bind_byteOf?_eq_some_iff {v : ℤ} {n : Int8} :
    (wordOf? v).bind byteOf? = some n ↔ v = n.toInt := by
  simp only [Option.bind_eq_some_iff, wordOf?_eq_some_iff, byteOf?_eq_some_iff]
  constructor
  · rintro ⟨w, rfl, hw⟩
    exact hw
  · rintro rfl
    exact ⟨n.toInt64, (n.toInt_toInt64).symm, n.toInt_toInt64⟩

/-- A text is read as a byte when what the format leaves of it is a numeral of that byte. -/
theorem parse?_eq_some_iff {f : ByteFormat} {s : String} {n : Int8} :
    f.parse? s = some n ↔ ∃ cs, f.body? s.toList = some cs ∧ StrictNumeral cs n.toInt := by
  rw [parse?, Option.bind_assoc]
  simp only [Option.bind_eq_some_iff, strictNumber?_eq_some_iff]
  constructor
  · rintro ⟨v, ⟨cs, hbody, hcs⟩, hv⟩
    rw [← Option.bind_eq_some_iff, bind_byteOf?_eq_some_iff] at hv
    exact ⟨cs, hbody, hv ▸ hcs⟩
  · rintro ⟨cs, hbody, hcs⟩
    exact ⟨n.toInt, ⟨cs, hbody, hcs⟩, Option.bind_eq_some_iff.mp (bind_byteOf?_eq_some_iff.mpr rfl)⟩

/-- Where reading gives a byte exactly for the bytes with a property, it fails exactly when no
number from -128 to 127 has it. -/
theorem eq_none_iff_of_bytes {r : Option Int8} {P : ℤ → Prop}
    (h : ∀ n : Int8, r = some n ↔ P n.toInt) : r = none ↔ ∀ v, P v → v < -128 ∨ 127 < v := by
  constructor
  · rintro rfl v hv
    by_contra hbyte
    have hv' : (Int8.ofInt v).toInt = v := Int8.toInt_ofInt_of_le (by omega) (by omega)
    exact nomatch (h (Int8.ofInt v)).mpr (hv'.symm ▸ hv)
  · intro hout
    cases hr : r with
    | none => rfl
    | some n =>
      have hn := n.le_toInt
      have hn' := n.toInt_lt
      have hrange := hout n.toInt ((h n).mp hr)
      omega

/-! ### Strict texts in lenient form -/

theorem StrictNumeral.minus_or_digit {cs : List Char} {v : ℤ} (h : StrictNumeral cs v) :
    ∀ c ∈ cs, c = '-' ∨ Digits.isDigit c = true := by
  cases h with
  | unsigned h => exact fun c hc => Or.inr (h.all_digits c hc)
  | minus h =>
    intro c hc
    exact (List.mem_cons.mp hc).imp id (h.all_digits c)

theorem lenientBody?_of_ne_plus {grouping : Char} {cs : List Char}
    (h : ∀ rest, Text.trimChars cs ≠ '+' :: rest) :
    lenientBody? grouping cs = some ((Text.trimChars cs).filter (· != grouping)) := by
  unfold lenientBody?
  split
  · rename_i rest hplus
    exact absurd hplus (h rest)
  · rfl

/-- A lenient format leaves a strict numeral as it is, unless it drops digits or the minus. -/
theorem lenientBody?_of_strictNumeral {grouping : Char} (hdigit : Digits.isDigit grouping = false)
    (hminus : grouping ≠ '-') {cs : List Char} {v : ℤ} (h : StrictNumeral cs v) :
    lenientBody? grouping cs = some cs := by
  have hblank : ∀ c ∈ cs, Text.isBlank c = false := by
    intro c hc
    rcases h.minus_or_digit c hc with rfl | hc
    · decide
    · exact Text.isBlank_of_isDigit hc
  have hplus : ∀ rest, cs ≠ '+' :: rest := by
    rintro rest rfl
    have hplus := h.minus_or_digit '+' List.mem_cons_self
    revert hplus
    decide
  have hkept : ∀ c ∈ cs, (c != grouping) = true := by
    intro c hc
    rw [bne_iff_ne]
    rintro rfl
    rcases h.minus_or_digit c hc with rfl | hc
    · exact hminus rfl
    · exact nomatch hdigit.symm.trans hc
  rw [lenientBody?_of_ne_plus (by rwa [Text.trimChars_of_no_blank hblank]),
    Text.trimChars_of_no_blank hblank, List.filter_eq_self.mpr hkept]

/-! ### Strict formats -/

theorem parse?_of_strict {f : ByteFormat} (hf : f.strict = true) {s : String} {n : Int8} :
    f.parse? s = some n ↔ StrictNumeral s.toList n.toInt := by
  rw [parse?_eq_some_iff, body?, if_pos hf]
  constructor
  · rintro ⟨_, ⟨⟩, h⟩
    exact h
  · intro h
    exact ⟨_, rfl, h⟩

/-- **A strict format reads exactly the strict numerals of bytes.** Whatever its grouping character,
it reads a text as a byte when the text is an optional minus and digits that write the byte, with
any number of zeros in front, and refuses a text when it is no such numeral or one of a number that
is not a byte. A lenient format reads each of these texts as the same byte, unless its grouping
character is a digit or the minus. -/
theorem strict_parse_exact (f : ByteFormat) (hf : f.strict = true) :
    (∀ s n, f.parse? s = some n ↔ StrictNumeral s.toList n.toInt) ∧
    (∀ s, f.parse? s = none ↔ ∀ v, StrictNumeral s.toList v → v < -128 ∨ 127 < v) ∧
    (∀ sign ∈ [[], ['-']], ∀ (k : ℕ) (digits : List Char) (n : ℕ), Writes digits n →
      f.parse? (String.ofList (sign ++ (List.replicate k '0' ++ digits))) =
        f.parse? (String.ofList (sign ++ digits))) ∧
    (∀ g : ByteFormat, g.strict = false → Digits.isDigit g.grouping = false → g.grouping ≠ '-' →
      ∀ s n, f.parse? s = some n → g.parse? s = some n) := by
  refine ⟨fun s n => parse?_of_strict hf,
    fun s => eq_none_iff_of_bytes fun n => parse?_of_strict hf, ?zeros, ?lenient⟩
  case zeros =>
    intro sign hsign k digits n hdigits
    refine Option.ext fun byte => ?_
    rw [parse?_of_strict hf, parse?_of_strict hf, String.toList_ofList, String.toList_ofList]
    simp only [List.mem_cons, List.not_mem_nil, or_false] at hsign
    rcases hsign with rfl | rfl
    · exact (strictNumeral_iff_of_writes (hdigits.zeros k)).trans
        (strictNumeral_iff_of_writes hdigits).symm
    · exact (strictNumeral_minus_iff_of_writes (hdigits.zeros k)).trans
        (strictNumeral_minus_iff_of_writes hdigits).symm
  case lenient =>
    intro g hg hdigit hminus s n h
    have hnumeral := (parse?_of_strict hf).mp h
    rw [parse?_eq_some_iff, body?, if_neg (by rw [hg]; decide)]
    exact ⟨_, lenientBody?_of_strictNumeral hdigit hminus hnumeral, hnumeral⟩

/-- The least byte and the number below it with zeros in front, and a number that fits no word. -/
theorem strict_parse_exact_padded :
    ({ strict := true, grouping := '1' } : ByteFormat).strict = true ∧
    ({ strict := true, grouping := '1' } : ByteFormat).parse? "-00128" = some (-128) ∧
    ({ strict := true, grouping := '1' } : ByteFormat).parse? "-00129" = none ∧
    ({ strict := true, grouping := '1' } : ByteFormat).parse? "9223372036854775808" = none ∧
    Writes ['1', '2', '8'] 128 ∧
    lenientForm.strict = false ∧ Digits.isDigit lenientForm.grouping = false ∧
    lenientForm.grouping ≠ '-' ∧ lenientForm.parse? "-00128" = some (-128) := by
  have hleast : Writes ['1', '2', '8'] 128 := by decide
  have hbelow : Writes ['1', '2', '9'] 129 := by decide
  have hlarge : Writes "9223372036854775808".toList 9223372036854775808 := by decide
  obtain ⟨hread, hrefused, hzeros, hlenient⟩ := strict_parse_exact ⟨true, '1'⟩ rfl
  have hpadded := (hread "-00128" (-128)).mpr (.minus (hleast.zeros 2))
  refine ⟨rfl, hpadded, ?_, ?_, hleast, rfl, rfl, by decide,
    hlenient lenientForm rfl rfl (by decide) _ _ hpadded⟩
  · refine (hzeros ['-'] (by decide) 2 _ _ hbelow).trans ((hrefused _).mpr ?_)
    intro v hv
    have hnumber := (strictNumeral_minus_iff_of_writes hbelow).mp hv
    omega
  · refine (hrefused _).mpr fun v hv => ?_
    have hnumber := (strictNumeral_iff_of_writes hlarge).mp hv
    omega

end ByteFormat

end RecordDiff
