import RecordDiff.Proofs.FirstOccurrences
import RecordDiff.Proofs.Lawful

/-!
# Rankings

A ranking compares keys by ranks that a list of pairs gives them. It does not guess. Where both keys
have a rank the outcome is that of the comparator for ranks, whatever that is, and where a key has
none the outcome is an error that names it: a key without a rank is neither low, nor last, nor equal
to another one. Of two pairs with one key the last one counts, and of two missing keys the first one
is named.

When ranks are compared in the order of their type and no two keys share one, the keys that have a
rank are ordered strictly. It does not matter that overwritten ranks may be shared: only the last
pair of a key is looked at.

Keys are the same when `==` says so, which need not be equality. It is only asked to be an
equivalence, as it must be for keys to be looked up at all.

## Main definitions

* `IsRanked` - the keys of a list of pairs
* `OneToOne` - different keys have different ranks
* `Comparator.Ranks` - what a ranking answers
* `Comparator.OrdersStrictly` - a strict total order of some keys

## Main results

* `rank?_eq_some_iff`, `rank?_eq_none_iff` - the rank of a key
* `Comparator.ranking_never_guesses` - rankings answer as they should
-/

namespace RecordDiff

variable {κ ρ : Type _} [BEq κ]

/-- The key occurs in the list. -/
def IsRanked (pairs : List (κ × ρ)) (key : κ) : Prop := ∃ p ∈ pairs, (p.1 == key) = true

/-- Different keys have different ranks. -/
def OneToOne [BEq ρ] (pairs : List (κ × ρ)) : Prop :=
  ∀ a b r s, LastGiven pairs a r → LastGiven pairs b s → (r == s) = true → (a == b) = true

/-! ### Ranks -/

section Ranks

variable [EquivBEq κ] {pairs : List (κ × ρ)} {key : κ} {r : ρ}

theorem lookup_eq_find? (key : κ) (pairs : List (κ × ρ)) :
    pairs.lookup key = (pairs.find? fun p => p.1 == key).map (·.2) := by
  induction pairs with
  | nil => rfl
  | cons p rest ih =>
    rw [List.lookup_cons, List.find?_cons, BEq.comm, ih]
    cases p.1 == key <;> rfl

/-- The rank of a key is the one in its last pair. -/
theorem rank?_eq_some_iff : rank? pairs key = some r ↔ LastGiven pairs key r := by
  rw [rank?, lookup_eq_find?]
  exact find?_reverse_eq_some_iff

theorem rank?_eq_none_iff : rank? pairs key = none ↔ ¬ IsRanked pairs key := by
  simp [rank?, lookup_eq_find?, IsRanked]

theorem IsRanked.exists_lastGiven (h : IsRanked pairs key) : ∃ r, LastGiven pairs key r := by
  cases hrank : rank? pairs key with
  | none => exact absurd h (rank?_eq_none_iff.mp hrank)
  | some r => exact ⟨r, rank?_eq_some_iff.mp hrank⟩

/-- Keys that are the same have one rank. -/
theorem LastGiven.congr {other : κ} (h : LastGiven pairs key r) (hkey : (key == other) = true) :
    LastGiven pairs other r := by
  obtain ⟨before, given, after, hpairs, hgiven, hafter⟩ := h
  refine ⟨before, given, after, hpairs, BEq.trans hgiven hkey, fun p hp => ?_⟩
  rw [← BEq.congr_right hkey]
  exact hafter p hp

end Ranks

namespace Comparator

/-! ### What a ranking answers -/

/-- The comparator compares keys by their ranks: with `ranks` where both keys have one, and with an
error otherwise. The error is about the first key that has none, and an absent operand is an error of
its own, whatever the other operand. -/
structure Ranks (c : Comparator κ) (describe : κ → String) (pairs : List (κ × ρ))
    (ranks : Comparator ρ) : Prop where
  ranked : ∀ {a b : κ}, IsRanked pairs a → IsRanked pairs b →
    ∃ r s, LastGiven pairs a r ∧ LastGiven pairs b s ∧
      c.compare (some a) (some b) = ranks.compare (some r) (some s)
  first_missing : ∀ {a b : κ}, ¬ IsRanked pairs a →
    c.compare (some a) (some b) = .error (.keyNotFound (describe a))
  last_missing : ∀ {a b : κ}, IsRanked pairs a → ¬ IsRanked pairs b →
    c.compare (some a) (some b) = .error (.keyNotFound (describe b))
  absent : ∀ {first last : Option κ}, first = none ∨ last = none →
    c.compare first last = .error (.incomparable "map key" "absent value")

/-- The comparator orders some of the keys strictly and totally. -/
structure OrdersStrictly (c : Comparator κ) (keys : κ → Prop) : Prop where
  answers : ∀ {a b : κ}, keys a → keys b → ∃ o, c.compare (some a) (some b) = .ok o
  eq_iff : ∀ {a b : κ}, keys a → keys b →
    (c.compare (some a) (some b) = .ok .eq ↔ (a == b) = true)
  antisymmetric : ∀ {a b : κ}, keys a → keys b →
    c.compare (some b) (some a) = (c.compare (some a) (some b)).reverse
  transitive : ∀ {a b d : κ}, keys a → keys b → keys d → c.compare (some a) (some b) = .ok .lt →
    c.compare (some b) (some d) = .ok .lt → c.compare (some a) (some d) = .ok .lt

section Ranking

variable [EquivBEq κ] {describe : κ → String} {pairs : List (κ × ρ)} {ranks : Comparator ρ}
  {a b : κ} {r s : ρ}

theorem ranking_of_lastGiven (ha : LastGiven pairs a r) (hb : LastGiven pairs b s) :
    (ranking describe pairs ranks).compare (some a) (some b) =
      ranks.compare (some r) (some s) := by
  simp only [ranking, ofPresent, rank?_eq_some_iff.mpr ha, rank?_eq_some_iff.mpr hb]

theorem ranks_ranking (describe : κ → String) (pairs : List (κ × ρ)) (ranks : Comparator ρ) :
    (ranking describe pairs ranks).Ranks describe pairs ranks where
  ranked ha hb := by
    obtain ⟨r, hr⟩ := ha.exists_lastGiven
    obtain ⟨s, hs⟩ := hb.exists_lastGiven
    exact ⟨r, s, hr, hs, ranking_of_lastGiven hr hs⟩
  first_missing ha := by
    simp only [ranking, ofPresent, rank?_eq_none_iff.mpr ha]
  last_missing ha hb := by
    obtain ⟨r, hr⟩ := ha.exists_lastGiven
    simp only [ranking, ofPresent, rank?_eq_some_iff.mpr hr, rank?_eq_none_iff.mpr hb]
  absent h := by
    rename_i first last
    cases first with
    | none => rfl
    | some a =>
      cases last with
      | none => rfl
      | some b => simp at h

/-- Ranks that no two keys share order the keys as they are ordered themselves. -/
theorem ordersStrictly_ranking [BEq ρ] [Ord ρ] [Std.TransOrd ρ] [Std.LawfulBEqOrd ρ]
    (describe : κ → String) (label : String) (h : OneToOne pairs) :
    (ranking describe pairs (natural label)).OrdersStrictly (IsRanked pairs) := by
  have hcompare : ∀ {a b : κ} {r s : ρ}, LastGiven pairs a r → LastGiven pairs b s →
      (ranking describe pairs (natural label)).compare (some a) (some b) =
        .ok (Ord.compare r s) := fun ha hb => ranking_of_lastGiven ha hb
  refine ⟨fun ha hb => ?answers, fun ha hb => ?eq_iff, fun ha hb => ?antisymmetric,
    fun ha hb hd hab hbd => ?transitive⟩
  -- Both keys have ranks, and all four laws are laws of these.
  all_goals
    obtain ⟨r, hr⟩ := ha.exists_lastGiven
    obtain ⟨s, hs⟩ := hb.exists_lastGiven
  case answers => exact ⟨_, hcompare hr hs⟩
  case eq_iff =>
    rw [hcompare hr hs, Except.ok.injEq, Std.LawfulBEqOrd.compare_eq_iff_beq]
    refine ⟨h _ _ r s hr hs, fun hab => ?_⟩
    rw [(hr.congr hab).unique hs]
    exact BEq.rfl
  case antisymmetric =>
    rw [hcompare hr hs, hcompare hs hr, Std.OrientedOrd.eq_swap (a := s)]
    rfl
  case transitive =>
    obtain ⟨t, ht⟩ := hd.exists_lastGiven
    rw [hcompare hr hs, Except.ok.injEq] at hab
    rw [hcompare hs ht, Except.ok.injEq] at hbd
    rw [hcompare hr ht, Std.TransCmp.lt_trans hab hbd]

/-- **Rankings never guess.** For every list of pairs and every comparator for ranks, two keys of
the list compare as the ranks in their last pairs do; of two present operands the first one that is
no key of the list is named in an error; and a comparison with an absent operand fails, whatever the
list. In the order of the ranks, if different keys have different last ranks, the keys of the list
are ordered strictly and totally: only the same keys are equal, and any two keys are comparable in
both directions, with opposite outcomes that are transitive. -/
theorem ranking_never_guesses (describe : κ → String) (pairs : List (κ × ρ)) :
    (∀ ranks : Comparator ρ, (ranking describe pairs ranks).Ranks describe pairs ranks) ∧
    ∀ [BEq ρ] [Ord ρ] [Std.TransOrd ρ] [Std.LawfulBEqOrd ρ] (label : String), OneToOne pairs →
      (ranking describe pairs (natural label)).OrdersStrictly (IsRanked pairs) :=
  ⟨ranks_ranking describe pairs, fun label h => ordersStrictly_ranking describe label h⟩

/-- Ranks of three priorities. One of them was given another rank first, which is now that of a
different one. -/
def priorities : List (String × ℕ) := [("low", 5), ("high", 9), ("mid", 5), ("low", 1)]

/-- The rank that was overwritten is not a tie, and a priority without a rank is not a low one. -/
theorem ranking_never_guesses_priorities :
    IsRanked priorities "low" ∧ IsRanked priorities "mid" ∧ ¬ IsRanked priorities "urgent" ∧
    OneToOne priorities ∧
    (ranking id priorities (natural "rank")).OrdersStrictly (IsRanked priorities) ∧
    (∃ r s, LastGiven priorities "low" r ∧ LastGiven priorities "mid" s ∧
      (ranking id priorities (natural "rank")).compare (some "low") (some "mid") =
        (natural "rank").compare (some r) (some s)) ∧
    (ranking id priorities (natural "rank")).compare (some "urgent") (some "critical") =
      .error (.keyNotFound "urgent") ∧
    (ranking id priorities (natural "rank")).compare (some "mid") (some "urgent") =
      .error (.keyNotFound "urgent") ∧
    (ranking id priorities (natural "rank")).compare none (some "urgent") =
      .error (.incomparable "map key" "absent value") := by
  have hlow : IsRanked priorities "low" := ⟨("low", 1), by decide, rfl⟩
  have hmid : IsRanked priorities "mid" := ⟨("mid", 5), by decide, rfl⟩
  have hurgent : ¬ IsRanked priorities "urgent" := rank?_eq_none_iff.mp (by decide)
  have honeToOne : OneToOne priorities := by
    -- Only the keys of the list have ranks, so it is enough to look at these.
    have hkeys : ∀ p ∈ priorities, ∀ q ∈ priorities,
        rank? priorities p.1 = rank? priorities q.1 → p.1 = q.1 := by decide
    intro a b r s ha hb hrs
    obtain ⟨p, hp, hpa⟩ := ha.mem
    obtain ⟨q, hq, hqb⟩ := hb.mem
    have hrank : rank? priorities p.1 = rank? priorities q.1 := by
      rw [eq_of_beq hpa, eq_of_beq hqb, rank?_eq_some_iff.mpr ha, rank?_eq_some_iff.mpr hb,
        eq_of_beq hrs]
    rw [← eq_of_beq hpa, ← eq_of_beq hqb, hkeys p hp q hq hrank]
    exact BEq.rfl
  obtain ⟨hranks, horders⟩ := ranking_never_guesses (ρ := ℕ) id priorities
  have hnatural := hranks (natural "rank")
  exact ⟨hlow, hmid, hurgent, honeToOne, horders "rank" honeToOne, hnatural.ranked hlow hmid,
    hnatural.first_missing hurgent, hnatural.last_missing hmid hurgent,
    hnatural.absent (Or.inl rfl)⟩

end Ranking

end Comparator

end RecordDiff
