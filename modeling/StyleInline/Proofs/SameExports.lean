import Mathlib.Data.List.Perm.Subperm
import StyleInline.Inlining.Declaration
import StyleInline.Proofs.Gathering

/-! When exports are equal. The comparison counts the entries on both sides and looks up those of one side in the
other, so it is not symmetric by its form; that it is an equivalence hangs on the selectors being different on each
side. It comes to this: the same answers, or the same entries in some order. -/
namespace StyleInline.SameExports
open Gathering

variable {κ α : Type} [BEq κ] [LawfulBEq κ] {first second : Table κ α}

theorem entries_nodup (table : Table κ α) : table.toList.Nodup :=
  table.distinct.imp fun different same => by simp [same] at different

/-- The same entries in some order are the same answers. -/
theorem perm_iff_get : first.toList.Perm second.toList ↔ ∀ key, first.get? key = second.get? key := by
  rw [List.perm_ext_iff_of_nodup (entries_nodup first) (entries_nodup second)]
  constructor
  · intro same key
    exact Option.ext fun value => by rw [← mem_iff_get, ← mem_iff_get, same]
  · rintro same ⟨key, value⟩
    rw [mem_iff_get, mem_iff_get, same]

variable [BEq α] [LawfulBEq α]

/-- Entries that are all found on the other side, and are as many as there, are all that is there. -/
theorem beq_iff_perm : (first == second) = true ↔ first.toList.Perm second.toList := by
  have compared : (first == second) = true ↔ first.toList.length = second.toList.length ∧
      ∀ entry ∈ first.toList, second.get? entry.1 = some entry.2 := by
    change (first.size == second.size && first.entries.all fun entry =>
      second.get? entry.1 == some entry.2) = true ↔ _
    rw [Bool.and_eq_true, beq_iff_eq, List.all_eq_true]
    simp only [beq_iff_eq]
    rfl
  rw [compared]
  constructor
  · rintro ⟨sizes, found⟩
    have among : first.toList ⊆ second.toList := fun entry member => mem_iff_get.mpr (found entry member)
    exact ((entries_nodup first).subperm among).perm_of_length_le (Nat.le_of_eq sizes.symm)
  · intro same
    exact ⟨same.length_eq, fun entry member => mem_iff_get.mp (same.mem_iff.mp member)⟩

theorem beq_iff_get : (first == second) = true ↔ ∀ key, first.get? key = second.get? key :=
  beq_iff_perm.trans perm_iff_get

/-- Two comparisons with one table of answers have the same outcome. -/
theorem beq_equivalence : Equivalence fun first second : Table κ α => (first == second) = true where
  refl _ := beq_iff_get.mpr fun _ => rfl
  symm same := beq_iff_get.mpr fun key => (beq_iff_get.mp same key).symm
  trans here there := beq_iff_get.mpr fun key => (beq_iff_get.mp here key).trans (beq_iff_get.mp there key)

/-- Inserting the same pair changes the same answer, at whatever place the key stands on either side or if it is
new to one of them only. -/
theorem beq_insert (same : (first == second) = true) (key : κ) (value : α) :
    (first.insert key value == second.insert key value) = true := by
  refine beq_iff_get.mpr fun name => ?_
  rw [get_insert, get_insert, beq_iff_get.mp same name]

/-- Pairs with different keys may be inserted in any order. -/
theorem beq_of_list_perm {pairs others : List (κ × α)} (order : pairs.Perm others)
    (once : (pairs.map Prod.fst).Nodup) : (Table.ofList pairs == Table.ofList others) = true := by
  have kept {pairs : List (κ × α)} (once : (pairs.map Prod.fst).Nodup) : (Table.ofList pairs).toList = pairs :=
    to_list_of_distinct ((List.pairwise_map.mp once).imp fun different => by simpa using different)
  have onceToo : (others.map Prod.fst).Nodup := (order.map Prod.fst).nodup_iff.mp once
  rw [beq_iff_perm, kept once, kept onceToo]
  exact order

/-- Exports are equal when they give every selector the same scoped selector; that is when their entries are the same
in some order, and so are the properties of the objects written for them. This is an equivalence, it is kept when the
same pair is inserted on both sides, and the order of pairs with different selectors makes no difference to it. -/
theorem equal_exports_answer_alike :
    (∀ first second : Exports,
      ((first == second) = true ↔ ∀ selector, first.get? selector = second.get? selector) ∧
      ((first == second) = true ↔ first.toList.Perm second.toList) ∧
      ((first == second) = true ↔ first.toObject.properties.Perm second.toObject.properties)) ∧
    (Equivalence fun first second : Exports => (first == second) = true) ∧
    (∀ first second : Exports, (first == second) = true → ∀ selector value,
      (first.insert selector value == second.insert selector value) = true) ∧
    ∀ pairs others : List (String × String), pairs.Perm others → (pairs.map Prod.fst).Nodup →
      ((Table.ofList pairs : Exports) == Table.ofList others) = true :=
  ⟨fun _ _ => ⟨beq_iff_get, beq_iff_perm, beq_iff_perm⟩, beq_equivalence, fun _ _ => beq_insert,
    fun _ _ => beq_of_list_perm⟩

theorem either_order_of_two :
    [("b", "x_b"), ("a", "x_a")].Perm [("a", "x_a"), ("b", "x_b")] ∧
      ([("b", "x_b"), ("a", "x_a")].map Prod.fst).Nodup ∧
      ((Table.ofList [("b", "x_b"), ("a", "x_a")] : Exports) == .ofList [("a", "x_a"), ("b", "x_b")]) = true ∧
      ((Table.ofList [("b", "x_b"), ("a", "x_a")] : Exports).insert "b" "y_b" ==
        (Table.ofList [("a", "x_a"), ("b", "x_b")]).insert "b" "y_b") = true := by
  have order : [("b", "x_b"), ("a", "x_a")].Perm [("a", "x_a"), ("b", "x_b")] := .swap _ _ _
  have once : ([("b", "x_b"), ("a", "x_a")].map Prod.fst).Nodup := by decide
  obtain ⟨-, -, inserting, ordering⟩ := equal_exports_answer_alike
  have same := ordering _ _ order once
  exact ⟨order, once, same, inserting _ _ same "b" "y_b"⟩

end StyleInline.SameExports
