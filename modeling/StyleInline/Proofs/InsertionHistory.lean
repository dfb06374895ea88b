import Mathlib.Data.Finset.Dedup
import Mathlib.Data.Finset.Card
import StyleInline.Inlining.Declaration
import StyleInline.Proofs.Gathering

/-! Exports as a record of what was inserted. The order tells of the first mention of each selector and the value of
its last, so neither moving an entry when its value changes nor keeping its old value would do. All that can be asked
of exports is told by the whole history of pairs, wherever the list that they were made of ends and the insertions
after it begin. -/
namespace StyleInline.InsertionHistory
open Gathering

variable {history : List (String × String)}

/-- The value that stands behind the last mention of the selector. -/
def LastIn (history : List (String × String)) (selector value : String) : Prop :=
  ∃ before after, history = before ++ (selector, value) :: after ∧ selector ∉ after.map Prod.fst

/-- The exports say of the history what can be said of it by selectors: which there are, in the order of their first
mention, and each with its last value. -/
structure Recounts (history : List (String × String)) (exports : Exports) : Prop where
  listed : ∀ selector value, (selector, value) ∈ exports.toList ↔ LastIn history selector value
  inOrder : exports.toList.Pairwise fun first second =>
    (history.map Prod.fst).idxOf first.1 < (history.map Prod.fst).idxOf second.1
  found : ∀ selector value, exports.get? selector = some value ↔ LastIn history selector value
  missing : ∀ selector, exports.get? selector = none ↔ selector ∉ history.map Prod.fst
  counted : exports.size = (history.map Prod.fst).toFinset.card
  empty : exports.isEmpty = true ↔ history = []
  written : exports.toObject.properties = exports.toList

/-! ### Selectors -/

/-- The selectors of exports, in order. -/
def selectors (exports : Exports) : List String :=
  exports.toList.map Prod.fst

theorem selectors_insert (exports : Exports) (selector value : String) :
    selectors (exports.insert selector value) =
      if selector ∈ selectors exports then selectors exports else selectors exports ++ [selector] := by
  have inserted : selectors (exports.insert selector value) =
      if exports.toList.any (fun entry => entry.1 == selector) then selectors exports
      else selectors exports ++ [selector] := keys_insert_entry selector value exports.toList
  rw [inserted]
  congr 1
  simp [selectors]

theorem mem_selectors_of_list {selector : String} :
    selector ∈ selectors (.ofList history) ↔ selector ∈ history.map Prod.fst := by
  rw [selectors, (gathers_of_list history).firsts, List.mem_eraseDups]

/-- The selectors come in the order of their first mention: one that is inserted anew was not mentioned before, and
one that is there was mentioned where it was. -/
theorem selectors_in_order (history : List (String × String)) :
    (selectors (.ofList history)).Pairwise fun first second =>
      (history.map Prod.fst).idxOf first < (history.map Prod.fst).idxOf second := by
  induction history using List.reverseRecOn with
  | nil => exact .nil
  | append_singleton history pair ih =>
    have mentioned {selector : String} (member : selector ∈ selectors (.ofList history)) :
        ((history ++ [pair]).map Prod.fst).idxOf selector = (history.map Prod.fst).idxOf selector := by
      rw [List.map_append, List.idxOf_append, if_pos (mem_selectors_of_list.mp member)]
    have kept : (selectors (.ofList history)).Pairwise fun first second =>
        ((history ++ [pair]).map Prod.fst).idxOf first < ((history ++ [pair]).map Prod.fst).idxOf second :=
      ih.imp_of_mem fun here there before => by rwa [mentioned here, mentioned there]
    rw [of_list_snoc, selectors_insert]
    split
    · exact kept
    · rename_i new
      refine List.pairwise_append.mpr ⟨kept, List.pairwise_singleton _ _, fun first member second last => ?_⟩
      rw [List.mem_singleton.mp last, mentioned member, List.map_append, List.idxOf_append,
        if_neg fun old => new (mem_selectors_of_list.mpr old)]
      exact Nat.lt_add_left _ (List.idxOf_lt_length_of_mem (mem_selectors_of_list.mp member))

/-! ### Values -/

theorem get_iff_last_in {selector value : String} :
    (Table.ofList history).get? selector = some value ↔ LastIn history selector value := by
  rw [get_of_list, Option.map_eq_some_iff]
  constructor
  · rintro ⟨⟨name, _⟩, found, rfl⟩
    obtain ⟨before, after, rfl, same, others⟩ := find_reverse_iff.mp found
    obtain rfl : name = selector := by simpa using same
    refine ⟨before, after, rfl, fun member => ?_⟩
    obtain ⟨later, behind, equal⟩ := List.mem_map.mp member
    simpa [equal] using others later behind
  · rintro ⟨before, after, rfl, gone⟩
    refine ⟨(selector, value), find_reverse_iff.mpr ⟨before, after, rfl, by simp, fun later behind => ?_⟩, rfl⟩
    have different : later.1 ≠ selector := fun same => gone (same ▸ List.mem_map_of_mem behind)
    simpa using different

theorem get_none_iff {selector : String} :
    (Table.ofList history).get? selector = none ↔ selector ∉ history.map Prod.fst := by
  rw [get_of_list, Option.map_eq_none_iff, List.find?_eq_none]
  simp only [List.mem_reverse, beq_iff_eq, List.mem_map, not_exists, not_and]

/-! ### Exports and their history -/

theorem recounts_of_list (history : List (String × String)) : Recounts history (.ofList history) where
  listed _ _ := mem_iff_get.trans get_iff_last_in
  inOrder := by
    have order := selectors_in_order history
    rwa [selectors, List.pairwise_map] at order
  found _ _ := get_iff_last_in
  missing _ := get_none_iff
  counted := by
    have once : (selectors (.ofList history)).Nodup :=
      (selectors_in_order history).imp fun before same => absurd (same ▸ before) (Nat.lt_irrefl _)
    have same : (selectors (.ofList history)).toFinset = (history.map Prod.fst).toFinset :=
      List.toFinset.ext fun _ => mem_selectors_of_list
    rw [← same, List.toFinset_card_of_nodup once, selectors, List.length_map]
    rfl
  empty := by
    constructor
    · intro nothing
      have none : (Table.ofList history).toList = [] := List.isEmpty_iff.mp nothing
      refine List.eq_nil_iff_forall_not_mem.mpr fun pair member => ?_
      have mentioned := mem_selectors_of_list.mpr (List.mem_map_of_mem member)
      rw [selectors, none] at mentioned
      cases mentioned
    · rintro rfl
      rfl
  written := rfl

/-- A history is recounted by one table of exports. -/
theorem recounts_unique {first second : Exports} (here : Recounts history first) (there : Recounts history second) :
    first = second := by
  have once {exports : Exports} (recounts : Recounts history exports) : exports.toList.Nodup :=
    recounts.inOrder.imp fun before same => absurd (same ▸ before) (Nat.lt_irrefl _)
  have same : first.toList.Perm second.toList := by
    rw [List.perm_ext_iff_of_nodup (once here) (once there)]
    rintro ⟨selector, value⟩
    rw [here.listed, there.listed]
  have entries := same.eq_of_pairwise
    (fun _ _ _ _ before behind => absurd (Nat.lt_trans before behind) (Nat.lt_irrefl _)) here.inOrder there.inOrder
  rw [← of_list_to_list first, entries, of_list_to_list]

/-- Inserts the pairs one after another. -/
def insertEach (exports : Exports) (pairs : List (String × String)) : Exports :=
  pairs.foldl (fun exports pair => exports.insert pair.1 pair.2) exports

/-- Exports that were made of some pairs, and into which others were inserted then, recount all of them in the order
in which they came, and no other exports do. So it makes no difference how many of the pairs they were made of, if
any; and the entries of exports, inserted in their order, give the same exports again. -/
theorem history_decides (pairs later : List (String × String)) :
    (∀ exports, Recounts (pairs ++ later) exports ↔ exports = insertEach (.ofList pairs) later) ∧
      Table.ofList (pairs ++ later) = insertEach (.ofList pairs) later ∧
      Table.ofList (pairs ++ later) = insertEach ∅ (pairs ++ later) ∧
      Table.ofList (insertEach (.ofList pairs) later).toList = insertEach (.ofList pairs) later := by
  have whole : Table.ofList (pairs ++ later) = insertEach (.ofList pairs) later := by
    rw [Table.ofList, insertEach, List.foldl_append]
    rfl
  have recounts : Recounts (pairs ++ later) (insertEach (.ofList pairs) later) := by
    rw [← whole]
    exact recounts_of_list (pairs ++ later)
  refine ⟨fun exports => ⟨fun other => recounts_unique other recounts, ?_⟩, whole, rfl, of_list_to_list _⟩
  rintro rfl
  exact recounts

example : (insertEach (.ofList [("b", "x_b"), ("a", "x_a")]) [("b", "y_b")]).toList = [("b", "y_b"), ("a", "x_a")] :=
  rfl

end StyleInline.InsertionHistory
