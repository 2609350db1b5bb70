import MailExchange.Text.Basic
import Mathlib.Data.String.Basic

namespace MailExchange.Text.TextSet

variable {text other : String} {found : TextSet}

theorem mem_insert : other ∈ insert text found ↔ other = text ∨ other ∈ found := by
  induction found with
  | nil => rw [insert, List.mem_singleton, or_iff_left List.not_mem_nil]
  | cons head rest ih =>
      rw [insert]
      split
      · rw [List.mem_cons]
      · split
        · rename_i same
          rw [same, List.mem_cons, or_self_left]
        · rw [List.mem_cons, ih, List.mem_cons, or_left_comm]

theorem mem_insertAll {texts : List String} :
    other ∈ insertAll texts found ↔ other ∈ texts ∨ other ∈ found := by
  induction texts generalizing found with
  | nil => exact (or_iff_right List.not_mem_nil).symm
  | cons text texts ih =>
      calc other ∈ insertAll (text :: texts) found
        _ ↔ other ∈ texts ∨ other ∈ insert text found := ih
        _ ↔ other ∈ text :: texts ∨ other ∈ found := by
            rw [mem_insert, List.mem_cons, or_assoc, or_left_comm]

theorem mem_ofList {texts : List String} : other ∈ ofList texts ↔ other ∈ texts := by
  rw [ofList, mem_insertAll, or_iff_left List.not_mem_nil]

def Sorted (found : TextSet) : Prop := found.Pairwise (· < ·)

theorem Sorted.nodup (sorted : Sorted found) : found.Nodup :=
  List.Pairwise.imp (fun less => ne_of_lt less) sorted

theorem Sorted.insert (sorted : Sorted found) (text : String) : Sorted (insert text found) := by
  induction found with
  | nil => exact List.pairwise_singleton _ text
  | cons head rest ih =>
      obtain ⟨first, sorted_rest⟩ := List.pairwise_cons.mp sorted
      rw [TextSet.insert]
      split
      · rename_i before
        refine List.pairwise_cons.mpr ⟨fun other member => ?_, sorted⟩
        rcases List.mem_cons.mp member with rfl | later
        · exact before
        · exact lt_trans before (first other later)
      · split
        · exact sorted
        · rename_i not_before different
          have after : head < text := lt_of_le_of_ne (not_lt.mp not_before) (Ne.symm different)
          refine List.pairwise_cons.mpr ⟨fun other member => ?_, ih sorted_rest⟩
          rcases mem_insert.mp member with rfl | later
          · exact after
          · exact first other later

theorem Sorted.insertAll (sorted : Sorted found) (texts : List String) :
    Sorted (insertAll texts found) := by
  induction texts generalizing found with
  | nil => exact sorted
  | cons text texts ih => exact ih (sorted.insert text)

theorem ofList_sorted (texts : List String) : Sorted (ofList texts) :=
  Sorted.insertAll List.Pairwise.nil texts

end MailExchange.Text.TextSet
