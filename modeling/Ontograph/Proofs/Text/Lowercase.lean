/-
Ontograph.Proofs.Text.Lowercase — what small letters cannot bring in.

No small form is a line feed, so that a text in small letters is free of them
if the text was (`feedFree_lower`).
-/
import Ontograph.Text.Lowercase
import Ontograph.Proofs.Text.Lines

namespace Ontograph.Text

/-- All small forms lie behind the ASCII control characters. -/
theorem smallForms_printable : ∀ e ∈ smallForms, (0x20 : Int) ≤ e.1 + e.2.2.2 := by
  decide +kernel

theorem smallForm?_printable {n small : Nat} (h : smallForm? n = some small) : 0x20 ≤ small := by
  obtain ⟨⟨first, last, step, distance⟩, hmem, hentry⟩ := List.exists_of_findSome?_eq_some h
  have hprintable := smallForms_printable _ hmem
  simp only [Option.ite_none_right_eq_some, Bool.and_eq_true, decide_eq_true_eq,
    Option.some.injEq] at hentry hprintable
  omega

theorem ofNat_ne_feed {n : Nat} (h : 0x20 ≤ n) : Char.ofNat n ≠ '\n' := by
  intro hfeed
  have hval : (Char.ofNat n).toNat = 10 := congrArg Char.toNat hfeed
  by_cases hvalid : n.isValidChar
  · rw [show Char.ofNat n = Char.ofNatAux n hvalid from dif_pos hvalid] at hval
    have hn : n = 10 := hval
    omega
  · rw [show Char.ofNat n = Char.ofNat 0 from dif_neg hvalid] at hval
    exact absurd hval (by decide)

theorem toLower_eq_feed {c : Char} (h : c.toLower = '\n') : c = '\n' := by
  unfold Char.toLower at h
  split at h
  · rename_i hrange
    have hval : c.val + 32 = 10 := congrArg Char.val h
    have hlow : 65 ≤ c.val.toNat := UInt32.le_iff_toNat_le.mp hrange.1
    have hhigh : c.val.toNat ≤ 90 := UInt32.le_iff_toNat_le.mp hrange.2
    have hnat := congrArg UInt32.toNat hval
    simp only [UInt32.toNat_add, UInt32.reduceToNat] at hnat
    omega
  · exact h

/-- A line feed is the small form of nothing else. -/
theorem feed_mem_lowerChar {c : Char} (h : '\n' ∈ lowerChar c) : c = '\n' := by
  unfold lowerChar at h
  split at h
  · exact toLower_eq_feed (List.mem_singleton.mp h).symm
  · split at h
    · simp at h
    · cases hsmall : smallForm? c.toNat with
      | none => simpa [hsmall, eq_comm] using h
      | some small =>
        simp only [hsmall, Option.map_some, Option.getD_some, List.mem_singleton] at h
        exact absurd h.symm (ofNat_ne_feed (smallForm?_printable hsmall))

theorem feed_mem_lowerFrom {before cs : List Char} (h : '\n' ∈ lowerFrom before cs) :
    '\n' ∈ cs := by
  induction cs generalizing before with
  | nil => exact h
  | cons c rest ih =>
    simp only [lowerFrom, List.mem_append] at h
    rcases h with h | h
    · split at h
      · split at h <;> simp at h
      · exact List.mem_cons.mpr (.inl (feed_mem_lowerChar h).symm)
    · exact List.mem_cons_of_mem _ (ih h)

theorem feedFree_lower {s : String} (h : FeedFree s) : FeedFree (lower s) := by
  intro hfeed
  rw [lower, String.toList_ofList] at hfeed
  exact h (feed_mem_lowerFrom hfeed)

end Ontograph.Text
