import RecordDiff.Value.Preview
import Mathlib.Order.Nat

/-!
# Previews and their limits

A preview is the text of a value when that fits into the limit. Otherwise it is the beginning of the
text, with room left for three dots, and the dots. The limit counts characters, and so does the
length of a text here.

A limit of three or more is kept. A smaller one has no room for the dots, which are written all the
same: the preview of a longer text is then the three dots alone, and longer than the limit.

## Main definitions

* `Value.Abridges` - a beginning of a text, and dots for the rest

## Main results

* `Value.length_preview` - how long a preview is
* `Value.preview_fits_iff` - what a preview is, and when it is within its limit
-/

namespace RecordDiff.Value

/-- A beginning of the text, of `kept` characters and not all of it, with three dots for the rest. -/
def Abridges (abridged s : String) (kept : ℕ) : Prop :=
  ∃ beginning rest : String, s = beginning ++ rest ∧ rest ≠ "" ∧ beginning.length = kept ∧
    abridged = beginning ++ "..."

variable {limit : ℕ} {s : String}

theorem shorten_of_le (h : s.length ≤ limit) : shorten limit s = s := if_neg (not_lt.mpr h)

/-- Room is left for the dots as far as there is any. -/
theorem shorten_of_lt (h : limit < s.length) :
    shorten limit s = String.ofList (s.toList.take (limit - 3)) ++ "..." := if_pos h

theorem abridges_shorten (h : limit < s.length) : Abridges (shorten limit s) s (limit - 3) := by
  have hlength : s.toList.length = s.length := String.length_toList
  refine ⟨String.ofList (s.toList.take (limit - 3)), String.ofList (s.toList.drop (limit - 3)),
    ?_, ?_, ?_, shorten_of_lt h⟩
  · rw [← String.ofList_append, List.take_append_drop, String.ofList_toList]
  · intro hempty
    have hdrop := congrArg String.length hempty
    simp only [String.length_ofList, List.length_drop, String.length_empty] at hdrop
    omega
  · rw [String.length_ofList, List.length_take]
    omega

theorem Abridges.length_eq {abridged : String} {kept : ℕ} (h : Abridges abridged s kept) :
    abridged.length = kept + 3 := by
  obtain ⟨beginning, rest, -, -, rfl, rfl⟩ := h
  rw [String.length_append]
  rfl

/-- A preview is as long as its text, or as its limit, but never shorter than the dots when there are
dots. -/
theorem length_preview (limit : ℕ) (v : Value) :
    (preview limit v).length = if v.text.length ≤ limit then v.text.length else max limit 3 := by
  rw [preview]
  split
  · rename_i hfits
    rw [shorten_of_le hfits]
  · rename_i hlong
    rw [(abridges_shorten (not_le.mp hlong)).length_eq]
    omega

/-- **A preview is within its limit unless the limit has no room for the dots.** The preview of a
value is its text when that is no longer than the limit, and otherwise a beginning of the text with
three dots for the rest of it. It is longer than the limit exactly when the text is and the limit is
less than three. -/
theorem preview_fits_iff (limit : ℕ) (v : Value) :
    (v.text.length ≤ limit → preview limit v = v.text) ∧
    (limit < v.text.length → Abridges (preview limit v) v.text (limit - 3)) ∧
    ((preview limit v).length ≤ limit ↔ v.text.length ≤ limit ∨ 3 ≤ limit) := by
  refine ⟨shorten_of_le, abridges_shorten, ?_⟩
  rw [length_preview]
  split <;> omega

/-- A description of twenty-seven characters with its quotes, cut to ten. -/
theorem preview_fits_iff_description :
    10 < (Value.string "a fairly long description").text.length ∧
    Abridges (preview 10 (.string "a fairly long description"))
      (Value.string "a fairly long description").text 7 ∧
    (preview 10 (.string "a fairly long description")).length ≤ 10 ∧
    (Value.map []).text.length ≤ 2 ∧ preview 2 (.map []) = (Value.map []).text := by
  have hlong : 10 < (Value.string "a fairly long description").text.length := by decide
  have hshort : (Value.map []).text.length ≤ 2 := by decide
  obtain ⟨-, habridged, hfits⟩ := preview_fits_iff 10 (.string "a fairly long description")
  exact ⟨hlong, habridged hlong, hfits.mpr (Or.inr (by decide)), hshort,
    (preview_fits_iff 2 (.map [])).1 hshort⟩

/-- With no room at all a preview still has three characters. -/
theorem preview_exceeds_small_limit :
    preview 0 (.bool true) = "..." ∧ ¬ ∀ (limit : ℕ) (v : Value), (preview limit v).length ≤ limit := by
  have hdots : preview 0 (.bool true) = "..." := by decide
  refine ⟨hdots, fun h => ?_⟩
  have hfits := h 0 (.bool true)
  rw [hdots] at hfits
  exact absurd hfits (by decide)

end RecordDiff.Value
