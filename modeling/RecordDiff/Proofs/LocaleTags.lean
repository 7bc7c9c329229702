import RecordDiff.Proofs.CaseForms

/-!
# Tags in normal form

A written tag is split at its first separator, a hyphen or an underscore. What stands before it is
trimmed and put in lower case, what stands after it is trimmed and put in upper case, and a hyphen
comes between them. Locales are the same when their tags are, so two spellings are the same locale
when their parts agree up to blanks and case.

A tag is looked into by its first hyphen alone, and it may be read again as a written tag. Both give
what was put in: the language has no separator that the written one did not have, so the first
hyphen of a tag is the one that was put there. The region may have more separators, which stay as
they are.

## Main definitions

* `Locale.languagePart`, `Locale.regionPart?` - the two parts of a written tag

## Main results

* `Locale.normalLanguage_normalLanguage`, `Locale.normalRegion_normalRegion` - parts are normal
* `Locale.parse_normal_form` - what a written tag is read as
-/

namespace RecordDiff.Locale

open Text

/-! ### Splitting -/

section Split

variable {p : Char → Bool} {before after cs : List Char} {c : Char}

theorem splitAtFirst_of_forall (h : ∀ d ∈ cs, p d = false) : splitAtFirst p cs = none := by
  induction cs with
  | nil => rfl
  | cons d rest ih =>
    obtain ⟨hd, hrest⟩ := List.forall_mem_cons.mp h
    simp [splitAtFirst, hd, ih hrest]

theorem splitAtFirst_append (h : ∀ d ∈ before, p d = false) (hc : p c = true) :
    splitAtFirst p (before ++ c :: after) = some (before, after) := by
  induction before with
  | nil => simp [splitAtFirst, hc]
  | cons d rest ih =>
    obtain ⟨hd, hrest⟩ := List.forall_mem_cons.mp h
    simp [splitAtFirst, hd, ih hrest]

end Split

/-! ### The parts of a written tag -/

/-- What stands before the first separator; the whole text if there is none. -/
def languagePart (s : String) : String :=
  String.ofList (s.toList.takeWhile fun c => !isSeparator c)

/-- What stands after the first separator. -/
def regionPart? (s : String) : Option String :=
  if s.toList.any isSeparator then
    some (String.ofList (s.toList.dropWhile fun c => !isSeparator c).tail)
  else none

theorem not_separator_languagePart (s : String) :
    ∀ c ∈ (languagePart s).toList, isSeparator c = false := by
  intro c hc
  rw [languagePart, String.toList_ofList] at hc
  simpa using List.mem_takeWhile_imp hc

/-- A text without a separator is all language. -/
theorem languagePart_of_forall {s : String} (h : ∀ c ∈ s.toList, isSeparator c = false) :
    languagePart s = s := by
  have hall : (s.toList.takeWhile fun c => !isSeparator c) = s.toList :=
    List.takeWhile_eq_self_iff.mpr fun c hc => by simp [h c hc]
  rw [languagePart, hall, String.ofList_toList]

theorem regionPart?_of_forall {s : String} (h : ∀ c ∈ s.toList, isSeparator c = false) :
    regionPart? s = none := by
  refine if_neg ?_
  simpa using h

/-- A text with a separator is its two parts and the separator. -/
theorem exists_parts {s : String} (h : s.toList.any isSeparator = true) :
    ∃ (c : Char) (region : String), isSeparator c = true ∧ regionPart? s = some region ∧
      s.toList = (languagePart s).toList ++ c :: region.toList := by
  have hsplit := List.takeWhile_append_dropWhile (p := fun c => !isSeparator c) (l := s.toList)
  cases hdrop : s.toList.dropWhile fun c => !isSeparator c with
  | nil =>
    obtain ⟨c, hc, hseparator⟩ := List.any_eq_true.mp h
    have hnot := List.dropWhile_eq_nil_iff.mp hdrop c hc
    rw [hseparator] at hnot
    cases hnot
  | cons c after =>
    have hseparator := List.head?_dropWhile_not (fun c => !isSeparator c) s.toList
    rw [hdrop, List.head?_cons] at hseparator
    refine ⟨c, String.ofList after, by simpa using hseparator, ?_, ?_⟩
    · rw [regionPart?, if_pos h, hdrop, List.tail_cons]
    · rw [languagePart, String.toList_ofList, String.toList_ofList, ← hdrop, hsplit]

/-! ### Normal parts -/

theorem normalLanguage_normalLanguage (s : String) :
    normalLanguage (normalLanguage s) = normalLanguage s := by
  rw [normalLanguage, normalLanguage, trim_lowercase_trim, lowercase_lowercase]

theorem normalRegion_normalRegion (s : String) :
    normalRegion (normalRegion s) = normalRegion s := by
  rw [normalRegion, normalRegion, trim_uppercase_trim, uppercase_uppercase]

/-- A separator of a normal language is one of the language that was given. -/
theorem not_separator_normalLanguage {s : String}
    (h : ∀ c ∈ s.toList, isSeparator c = false) :
    ∀ c ∈ (normalLanguage s).toList, isSeparator c = false := by
  intro c hc
  by_contra hnot
  have hseparator : isSeparator c = true := by simpa using hnot
  have htrim := ((caseFormed_lowercase (trim s)).mem_iff (Or.inr hseparator)).mp hc
  rw [toList_trim] at htrim
  exact hnot (h c (mem_of_mem_trimChars htrim))

/-! ### Locales and their tags -/

section Tags

variable {l : String}

theorem ne_hyphen_of_not_separator {c : Char} (h : isSeparator c = false) : (c == '-') = false := by
  rw [isSeparator, Bool.or_eq_false_iff] at h
  exact h.1

theorem ne_hyphen_normalLanguage (h : ∀ c ∈ l.toList, isSeparator c = false) :
    ∀ c ∈ (normalLanguage l).toList, (c == '-') = false :=
  fun c hc => ne_hyphen_of_not_separator (not_separator_normalLanguage h c hc)

/-- A language is found again from the tag of its locale. -/
theorem language_ofLanguage (h : ∀ c ∈ l.toList, isSeparator c = false) :
    (ofLanguage l).language = normalLanguage l := by
  have hall : ((normalLanguage l).toList.takeWhile (· != '-')) = (normalLanguage l).toList :=
    List.takeWhile_eq_self_iff.mpr fun c hc => by simp [bne, ne_hyphen_normalLanguage h c hc]
  rw [language, ofLanguage, hall, String.ofList_toList]

theorem region?_ofLanguage (h : ∀ c ∈ l.toList, isSeparator c = false) :
    (ofLanguage l).region? = none := by
  rw [region?, ofLanguage, splitAtFirst_of_forall (ne_hyphen_normalLanguage h), Option.map_none]

theorem parse_of_forall {s : String} (h : ∀ c ∈ s.toList, isSeparator c = false) :
    parse s = ofLanguage s := by
  rw [parse, splitAtFirst_of_forall h]

theorem parse_tag_ofLanguage (h : ∀ c ∈ l.toList, isSeparator c = false) :
    parse (ofLanguage l).tag = ofLanguage l := by
  have htag : (ofLanguage l).tag = normalLanguage l := rfl
  rw [htag, parse_of_forall (not_separator_normalLanguage h), ofLanguage,
    normalLanguage_normalLanguage, ofLanguage]

theorem toList_tag_ofRegion (l r : String) :
    (ofRegion l r).tag.toList = (normalLanguage l).toList ++ '-' :: (normalRegion r).toList := by
  simp [ofRegion]

/-- The first hyphen of a tag is the one that was put between the two parts. -/
theorem language_ofRegion (h : ∀ c ∈ l.toList, isSeparator c = false) (r : String) :
    (ofRegion l r).language = normalLanguage l := by
  have hhyphen : ∀ c ∈ (normalLanguage l).toList, (c != '-') = true :=
    fun c hc => by simp [bne, ne_hyphen_normalLanguage h c hc]
  rw [language, toList_tag_ofRegion, List.takeWhile_append_of_pos hhyphen,
    List.takeWhile_cons_of_neg (by decide), List.append_nil, String.ofList_toList]

theorem region?_ofRegion (h : ∀ c ∈ l.toList, isSeparator c = false) (r : String) :
    (ofRegion l r).region? = some (normalRegion r) := by
  rw [region?, toList_tag_ofRegion, splitAtFirst_append (ne_hyphen_normalLanguage h) (by decide)]
  exact congrArg some String.ofList_toList

theorem parse_of_split {s r : String} {c : Char} (h : ∀ d ∈ l.toList, isSeparator d = false)
    (hc : isSeparator c = true) (hs : s.toList = l.toList ++ c :: r.toList) :
    parse s = ofRegion l r := by
  rw [parse, hs, splitAtFirst_append h hc]
  simp

theorem parse_tag_ofRegion (h : ∀ c ∈ l.toList, isSeparator c = false) (r : String) :
    parse (ofRegion l r).tag = ofRegion l r := by
  rw [parse_of_split (not_separator_normalLanguage h) (by decide) (toList_tag_ofRegion l r),
    ofRegion, ofRegion, normalLanguage_normalLanguage, normalRegion_normalRegion]

end Tags

/-- **Reading a tag gives its normal form.** The language of the locale is what stands before the
first separator of the text, trimmed and in lower case; the region is what stands after it, trimmed
and in upper case, and there is one exactly when the text has a separator. Reading the tag of the
locale gives the locale again. -/
theorem parse_normal_form (s : String) :
    (parse s).language = lowercase (trim (languagePart s)) ∧
    (parse s).region? = (regionPart? s).map (fun region => uppercase (trim region)) ∧
    ((parse s).region?.isSome = true ↔ '-' ∈ s.toList ∨ '_' ∈ s.toList) ∧
    parse (parse s).tag = parse s := by
  have hmem : ('-' ∈ s.toList ∨ '_' ∈ s.toList) ↔ s.toList.any isSeparator = true := by
    simp only [List.any_eq_true, isSeparator, Bool.or_eq_true, beq_iff_eq, and_or_left, exists_or,
      exists_eq_right]
  rw [hmem]
  by_cases hany : s.toList.any isSeparator = true
  · obtain ⟨c, region, hc, hregion, hs⟩ := exists_parts hany
    have hlanguage := not_separator_languagePart s
    rw [parse_of_split hlanguage hc hs, region?_ofRegion hlanguage, hregion]
    exact ⟨language_ofRegion hlanguage region, rfl, iff_of_true rfl hany,
      parse_tag_ofRegion hlanguage region⟩
  · have hnone : ∀ c ∈ s.toList, isSeparator c = false := by simpa using hany
    rw [parse_of_forall hnone, region?_ofLanguage hnone, regionPart?_of_forall hnone,
      languagePart_of_forall hnone]
    exact ⟨language_ofLanguage hnone, rfl, iff_of_false Bool.false_ne_true hany,
      parse_tag_ofLanguage hnone⟩

example : parse " Zh _hans-cn\t" = ⟨"zh-HANS-CN"⟩ := by decide +kernel

end RecordDiff.Locale
