/-
Ontograph.Proofs.Loader.Ranking — the best hits of several rankings.

`StablySorted` says what the order of hits is: the score descends, and hits of
equal score stay in the order in which they were found. The best hits are the
first of that order (`exists_stablySorted_best`). Scores are compared by their
`rank`, which orders them as numbers and puts the negative zero directly below
the positive one.

An index that is asked for `limit` hits answers with the first of its ranking
and says nothing of the others. Nothing is lost by that: what it leaves out
stands behind `limit` hits of its own and is not among the best `limit` of all
(`best_flatMap_take`). The argument is about merging. To sort a ranking with
other hits behind it is to merge it into the sorted others
(`mergeSort_append_of_pairwise`), and the first elements of a merge come from
the first elements of the two lists (`take_merge_congr`).
-/
import Ontograph.Loader.Search

namespace Ontograph

/-! ## Merging -/

section
variable {α β : Type} {le : α → α → Bool}

theorem take_eq_of_take_succ {n : Nat} {xs ys : List α} (h : xs.take (n + 1) = ys.take (n + 1)) :
    xs.take n = ys.take n := by
  have hn : min n (n + 1) = n := Nat.min_eq_left (Nat.le_succ n)
  have htake := congrArg (List.take n) h
  rwa [List.take_take, List.take_take, hn] at htake

/-- The first elements of a merge come from the first elements of the two lists. -/
theorem take_merge_congr {n : Nat} {xs xs' ys ys' : List α} (hx : xs.take n = xs'.take n)
    (hy : ys.take n = ys'.take n) :
    (List.merge xs ys le).take n = (List.merge xs' ys' le).take n := by
  induction n generalizing xs xs' ys ys' with
  | zero => rfl
  | succ n ih =>
    cases xs with
    | nil =>
      obtain rfl : xs' = [] := by simpa using hx.symm
      simpa using hy
    | cons x xs =>
      cases xs' with
      | nil => simp at hx
      | cons x' xs' =>
        cases ys with
        | nil =>
          obtain rfl : ys' = [] := by simpa using hy.symm
          simpa using hx
        | cons y ys =>
          cases ys' with
          | nil => simp at hy
          | cons y' ys' =>
            -- the heads agree, and what is left of a list is compared one element less far
            have hx' := take_eq_of_take_succ hx
            have hy' := take_eq_of_take_succ hy
            obtain ⟨rfl, hxs⟩ := List.cons.inj hx
            obtain ⟨rfl, hys⟩ := List.cons.inj hy
            rw [List.cons_merge_cons, List.cons_merge_cons]
            split
            · rw [List.take_succ_cons, List.take_succ_cons, ih hxs hy']
            · rw [List.take_succ_cons, List.take_succ_cons, ih hx' hys]

/-- What comes first in a merge and is not in the one list comes first in the other. -/
theorem exists_cons_of_merge {b : α} {xs ys rest : List α}
    (h : List.merge xs ys le = b :: rest) (hb : b ∉ xs) :
    ∃ ys', ys = b :: ys' ∧ List.merge xs ys' le = rest := by
  cases ys with
  | nil =>
    rw [List.merge_right] at h
    exact absurd (h ▸ List.mem_cons_self) hb
  | cons y ys =>
    cases xs with
    | nil =>
      rw [List.nil_merge] at h
      obtain ⟨rfl, rfl⟩ := List.cons.inj h
      exact ⟨ys, rfl, List.nil_merge ys⟩
    | cons x xs =>
      rw [List.cons_merge_cons] at h
      split at h
      · exact absurd (List.cons.inj h).1 fun heq => hb (heq ▸ List.mem_cons_self)
      · obtain ⟨rfl, hrest⟩ := List.cons.inj h
        exact ⟨ys, rfl, hrest⟩

/-- An element that goes before all of a list, merged with others, goes to its place among them. -/
theorem merge_cons_of_merge {x : α} {xs ys before after : List α}
    (hmerge : List.merge xs ys le = before ++ after) (hx : ∀ y ∈ xs, le x y = true)
    (hbefore : ∀ y ∈ before, le x y = false) (hafter : ∀ y ∈ after, le x y = true) :
    List.merge (x :: xs) ys le = before ++ x :: after := by
  induction before generalizing ys with
  | nil =>
    cases ys with
    | nil => simpa using hmerge
    | cons y ys =>
      rw [List.nil_append] at hmerge
      have hmem : y ∈ List.merge xs (y :: ys) le := List.mem_merge_right le List.mem_cons_self
      rw [List.cons_merge_cons_pos _ _ _ (hafter y (hmerge ▸ hmem)), hmerge]
      rfl
  | cons b before ih =>
    rw [List.forall_mem_cons] at hbefore
    have hb : ¬ le x b = true := by simp [hbefore.1]
    obtain ⟨ys, rfl, hrest⟩ := exists_cons_of_merge hmerge fun hmem => hb (hx b hmem)
    rw [List.cons_merge_cons_neg _ _ _ hb, ih hrest hbefore.2]
    rfl

/-- To sort a sorted list with others behind it is to merge it into the sorted others. -/
theorem mergeSort_append_of_pairwise
    (trans : ∀ a b c, le a b = true → le b c = true → le a c = true)
    (total : ∀ a b, (le a b || le b a) = true) {xs : List α}
    (h : xs.Pairwise fun a b => le a b = true) (ys : List α) :
    (xs ++ ys).mergeSort le = List.merge xs (ys.mergeSort le) le := by
  induction xs with
  | nil => simp
  | cons x xs ih =>
    rw [List.pairwise_cons] at h
    obtain ⟨before, after, hwith, hwithout, hbefore⟩ :=
      List.mergeSort_cons trans total x (xs ++ ys)
    have hsorted := List.pairwise_mergeSort trans total (x :: (xs ++ ys))
    rw [hwith] at hsorted
    have hafter := (List.pairwise_cons.mp (List.pairwise_append.mp hsorted).2.1).1
    rw [ih h.2] at hwithout
    rw [List.cons_append, hwith, merge_cons_of_merge hwithout h.1 (by simpa using hbefore) hafter]

/-- Of sorted lists, the first elements of each are enough for the first elements of all. -/
theorem take_mergeSort_flatMap_take
    (trans : ∀ a b c, le a b = true → le b c = true → le a c = true)
    (total : ∀ a b, (le a b || le b a) = true) {f : β → List α} {bs : List β}
    (h : ∀ b ∈ bs, (f b).Pairwise fun a b => le a b = true) (n : Nat) :
    ((bs.flatMap fun b => (f b).take n).mergeSort le).take n =
      ((bs.flatMap f).mergeSort le).take n := by
  induction bs with
  | nil => rfl
  | cons b bs ih =>
    rw [List.forall_mem_cons] at h
    rw [List.flatMap_cons, List.flatMap_cons, mergeSort_append_of_pairwise trans total h.1,
      mergeSort_append_of_pairwise trans total (h.1.sublist (List.take_sublist n (f b)))]
    exact take_merge_congr (by rw [List.take_take, Nat.min_self]) (ih h.2)

end

/-! ## The order of hits -/

namespace SearchHit

/-- Hits in the order of descending score, those of equal score as they were found. -/
structure StablySorted (hits sorted : List SearchHit) : Prop where
  perm : sorted.Perm hits
  descending : sorted.Pairwise fun a b => b.score.rank ≤ a.score.rank
  stable : ∀ rank, sorted.filter (·.score.rank = rank) = hits.filter (·.score.rank = rank)

/-- A hit comes first by the rank of its score. -/
theorem atLeast_iff {a b : SearchHit} : atLeast a b = true ↔ b.score.rank ≤ a.score.rank :=
  decide_eq_true_iff

theorem atLeast_trans (a b c : SearchHit) (hab : atLeast a b = true) (hbc : atLeast b c = true) :
    atLeast a c = true := by
  rw [atLeast_iff] at *
  omega

theorem atLeast_total (a b : SearchHit) : (atLeast a b || atLeast b a) = true := by
  rw [Bool.or_eq_true, atLeast_iff, atLeast_iff]
  omega

/-- Sorting by merging is stable. -/
theorem stablySorted_mergeSort (hits : List SearchHit) :
    StablySorted hits (hits.mergeSort atLeast) where
  perm := List.mergeSort_perm hits atLeast
  descending := by
    simpa only [atLeast_iff] using List.pairwise_mergeSort atLeast_trans atLeast_total hits
  stable rank := by
    -- hits of one score are in order already, so sorting leaves them a sublist
    have hequal : (hits.filter (·.score.rank = rank)).Pairwise fun a b => atLeast a b = true := by
      refine List.pairwise_of_forall_mem_list fun a ha b hb => ?_
      have ha : a.score.rank = rank := by simpa using (List.mem_filter.mp ha).2
      have hb : b.score.rank = rank := by simpa using (List.mem_filter.mp hb).2
      exact atLeast_iff.mpr (Int.le_of_eq (hb.trans ha.symm))
    have hsublist := List.sublist_mergeSort atLeast_trans atLeast_total hequal
      List.filter_sublist
    have hfiltered := hsublist.filter (·.score.rank = rank)
    rw [List.filter_filter] at hfiltered
    simp only [Bool.and_self] at hfiltered
    have hlength := ((List.mergeSort_perm hits atLeast).filter (·.score.rank = rank)).length_eq
    exact (hfiltered.eq_of_length hlength.symm).symm

/-- The best hits are the first in the order of hits. -/
theorem exists_stablySorted_best (limit : Nat) (hits : List SearchHit) :
    ∃ sorted, StablySorted hits sorted ∧ best limit hits = sorted.take limit :=
  ⟨_, stablySorted_mergeSort hits, rfl⟩

/-- For the best hits of some rankings, the best of each are enough. -/
theorem best_flatMap_take {β : Type} {f : β → List SearchHit} {bs : List β}
    (h : ∀ b ∈ bs, (f b).Pairwise fun a b => b.score.rank ≤ a.score.rank) (limit : Nat) :
    best limit (bs.flatMap fun b => (f b).take limit) = best limit (bs.flatMap f) := by
  refine take_mergeSort_flatMap_take atLeast_trans atLeast_total (fun b hb => ?_) limit
  simpa only [atLeast_iff] using h b hb

end SearchHit

end Ontograph
