import Mathlib.Data.List.Induction
import StyleInline.Config.Basic

/-! What a table holds when pairs have been inserted one after another: each key where it stands first among
the pairs, with the value that stands last behind an equal key. Which keys are equal is the business of the
key's type, as long as equality is an equivalence; paths are equal by their components. -/
namespace StyleInline.Gathering

variable {κ α : Type}

/-- Entries with the same keys are the same when a key determines its value. -/
theorem entries_determined (value : κ → Option α) {first second : List (κ × α)}
    (keys : first.map Prod.fst = second.map Prod.fst)
    (here : ∀ entry ∈ first, value entry.1 = some entry.2)
    (there : ∀ entry ∈ second, value entry.1 = some entry.2) : first = second := by
  induction first generalizing second with
  | nil => exact (List.map_eq_nil_iff.mp keys.symm).symm
  | cons entry rest ih =>
    cases second with
    | nil => cases keys
    | cons other others =>
      obtain ⟨key, held⟩ := entry
      obtain ⟨name, left⟩ := other
      simp only [List.map_cons, List.cons.injEq] at keys
      obtain ⟨rfl, keys⟩ := keys
      have first := here (key, held) (by simp)
      have second := there (key, left) (by simp)
      have same : held = left := Option.some.inj (first.symm.trans second)
      have tail := ih keys (fun entry member => here entry (List.mem_cons_of_mem _ member))
        (fun entry member => there entry (List.mem_cons_of_mem _ member))
      rw [same, tail]

/-- What is found first from the end of a list is what stands last in it. -/
theorem find_reverse_iff {β : Type} {sought : β → Bool} {items : List β} {item : β} :
    items.reverse.find? sought = some item ↔ ∃ before after,
      items = before ++ item :: after ∧ sought item = true ∧ ∀ later ∈ after, sought later = false := by
  rw [List.find?_eq_some_iff_append]
  constructor
  · rintro ⟨found, after, before, shape, others⟩
    have whole : items = before.reverse ++ item :: after.reverse := by
      rw [← List.reverse_reverse items, shape]
      simp
    refine ⟨before.reverse, after.reverse, whole, found, fun later member => ?_⟩
    simpa using others later (List.mem_reverse.mp member)
  · rintro ⟨before, after, rfl, found, others⟩
    refine ⟨found, after.reverse, before.reverse, by simp, fun later member => ?_⟩
    simp [others later (List.mem_reverse.mp member)]

variable [BEq κ]

/-- The table has the keys of the pairs in the order and the spelling of their first mention, and each with its
last value. This says nothing of how a table is made. -/
structure Gathers (pairs : List (κ × α)) (table : Table κ α) : Prop where
  firsts : table.toList.map Prod.fst = (pairs.map Prod.fst).eraseDups
  lasts : ∀ entry ∈ table.toList,
    (pairs.reverse.find? fun pair => pair.1 == entry.1).map Prod.snd = some entry.2

instance : EquivBEq Path where
  rfl := Path.beq_iff_components.mpr rfl
  symm same := Path.beq_iff_components.mpr (Path.beq_iff_components.mp same).symm
  trans first second := Path.beq_iff_components.mpr
    ((Path.beq_iff_components.mp first).trans (Path.beq_iff_components.mp second))

/-- Pairs have one table. -/
theorem gathers_unique {pairs : List (κ × α)} {first second : Table κ α} (here : Gathers pairs first)
    (there : Gathers pairs second) : first = second := by
  have same : first.toList = second.toList :=
    entries_determined (fun key => (pairs.reverse.find? fun pair => pair.1 == key).map Prod.snd)
      (here.firsts.trans there.firsts.symm) here.lasts there.lasts
  obtain ⟨entries, distinct⟩ := first
  obtain ⟨others, apart⟩ := second
  cases same
  rfl

/-! ### One insertion -/

theorem keys_insert_entry (key : κ) (value : α) (entries : List (κ × α)) :
    (insertEntry key value entries).map Prod.fst =
      if entries.any (fun entry => entry.1 == key) then entries.map Prod.fst
      else entries.map Prod.fst ++ [key] := by
  induction entries with
  | nil => rfl
  | cons entry rest ih =>
    obtain ⟨held, old⟩ := entry
    by_cases same : held == key
    · simp [insertEntry, same]
    · simp only [insertEntry, same, Bool.false_eq_true, ↓reduceIte, List.map_cons, ih, List.any_cons,
        Bool.false_or]
      split <;> rfl

/-- A key that is equal to none is written at the end. -/
theorem insert_entry_fresh {key : κ} {value : α} {entries : List (κ × α)}
    (fresh : ∀ entry ∈ entries, (entry.1 == key) = false) :
    insertEntry key value entries = entries ++ [(key, value)] := by
  induction entries with
  | nil => rfl
  | cons head rest ih =>
    obtain ⟨different, behind⟩ := List.forall_mem_cons.mp fresh
    simp [insertEntry, different, ih behind]

/-- The key that is written has the new value, and every other key has what it had. -/
theorem get_insert [EquivBEq κ] (table : Table κ α) (key name : κ) (value : α) :
    (table.insert key value).get? name = if key == name then some value else table.get? name := by
  obtain ⟨entries, distinct⟩ := table
  simp only [Table.insert, Table.get?]
  clear distinct
  induction entries with
  | nil =>
    simp only [insertEntry, List.find?_cons, List.find?_nil]
    cases key == name <;> rfl
  | cons head rest ih =>
    obtain ⟨held, old⟩ := head
    by_cases same : held == key
    · have asked : (held == name) = (key == name) := BEq.congr_left same
      simp only [insertEntry, same, ↓reduceIte, List.find?_cons, asked]
      cases key == name <;> rfl
    · simp only [insertEntry, same, Bool.false_eq_true, ↓reduceIte, List.find?_cons]
      cases asked : held == name with
      | true =>
        -- A key equal to both would make them equal.
        have other : ¬ (key == name) = true := fun equal => same (BEq.trans asked (BEq.symm equal))
        simp [other]
      | false => exact ih

/-- An entry is what its key is answered with, for no other entry has an equal key. -/
theorem get_of_mem [EquivBEq κ] {table : Table κ α} {entry : κ × α} (member : entry ∈ table.toList) :
    table.get? entry.1 = some entry.2 := by
  obtain ⟨entries, distinct⟩ := table
  simp only [Table.toList, Table.get?] at *
  induction entries with
  | nil => cases member
  | cons head rest ih =>
    obtain ⟨apart, restDistinct⟩ := List.pairwise_cons.mp distinct
    rcases List.mem_cons.mp member with rfl | there
    · simp
    · rw [List.find?_cons, apart entry there]
      exact ih restDistinct there

/-- Where equal keys are the same key, the entries are just the answers. -/
theorem mem_iff_get [LawfulBEq κ] {table : Table κ α} {key : κ} {value : α} :
    (key, value) ∈ table.toList ↔ table.get? key = some value := by
  constructor
  · exact fun member => get_of_mem member
  · intro answered
    obtain ⟨⟨name, held⟩, found, rfl⟩ := Option.map_eq_some_iff.mp answered
    have same : name = key := by simpa using List.find?_some found
    subst same
    exact List.mem_of_find?_eq_some found

/-! ### All insertions -/

/-- Inserting into a table adds the first mentions of the keys that it lacks. -/
theorem keys_foldl_insert [EquivBEq κ] (pairs : List (κ × α)) (table : Table κ α) :
    (pairs.foldl (fun t pair => t.insert pair.1 pair.2) table).toList.map Prod.fst =
      table.toList.map Prod.fst ++
        ((pairs.map Prod.fst).filter fun key => !table.toList.any fun entry => entry.1 == key).eraseDups := by
  induction pairs generalizing table with
  | nil => simp
  | cons pair rest ih =>
    obtain ⟨key, value⟩ := pair
    have inserted : (table.insert key value).toList.map Prod.fst =
        if table.toList.any (fun entry => entry.1 == key) then table.toList.map Prod.fst
        else table.toList.map Prod.fst ++ [key] := keys_insert_entry key value table.toList
    have lacks : ∀ (t : Table κ α) (name : κ), (t.toList.any fun entry => entry.1 == name) =
        (t.toList.map Prod.fst).any fun held => held == name := by
      intro t name
      rw [List.any_map]
      rfl
    rw [List.foldl_cons, ih]
    simp only [lacks, inserted, List.map_cons]
    by_cases held : (table.toList.map Prod.fst).any fun name => name == key
    · rw [if_pos (lacks table key ▸ held), List.filter_cons, if_neg (by simp [held])]
    · rw [if_neg (lacks table key ▸ held), List.filter_cons, if_pos (by simpa using held), List.eraseDups_cons,
        List.append_assoc, List.singleton_append, List.filter_filter]
      congr 4
      funext name
      simp [Bool.and_comm, BEq.comm]

theorem of_list_snoc (pairs : List (κ × α)) (pair : κ × α) :
    Table.ofList (pairs ++ [pair]) = (Table.ofList pairs).insert pair.1 pair.2 := by
  simp [Table.ofList]

/-- Pairs with different keys are the entries of their table as they stand. -/
theorem to_list_of_distinct {pairs : List (κ × α)}
    (distinct : pairs.Pairwise fun first second => (first.1 == second.1) = false) :
    (Table.ofList pairs).toList = pairs := by
  induction pairs using List.reverseRecOn with
  | nil => rfl
  | append_singleton pairs pair ih =>
    obtain ⟨distinctBefore, -, apart⟩ := List.pairwise_append.mp distinct
    have inserted : (Table.ofList (pairs ++ [pair])).toList =
        insertEntry pair.1 pair.2 (Table.ofList pairs).toList := by
      rw [of_list_snoc]
      rfl
    rw [inserted, ih distinctBefore]
    exact insert_entry_fresh fun entry member => apart entry member pair (by simp)

/-- A table is what its own entries give when they are inserted in their order. -/
theorem of_list_to_list (table : Table κ α) : Table.ofList table.toList = table := by
  have entries := to_list_of_distinct table.distinct
  obtain ⟨held, distinct⟩ := table
  rcases again : Table.ofList held with ⟨others, apart⟩
  simp only [again, Table.toList] at entries ⊢
  subst entries
  rfl

/-- The table of the pairs answers with the last of them under an equal key. -/
theorem get_of_list [EquivBEq κ] (pairs : List (κ × α)) (key : κ) :
    (Table.ofList pairs).get? key = (pairs.reverse.find? fun pair => pair.1 == key).map Prod.snd := by
  induction pairs using List.reverseRecOn with
  | nil => rfl
  | append_singleton pairs pair ih =>
    rw [of_list_snoc, get_insert, List.reverse_append, List.reverse_singleton, List.singleton_append,
      List.find?_cons, ih]
    cases pair.1 == key <;> rfl

/-- So does a table whose pairs are made of other things. -/
theorem get_of_list_map {β : Type} [EquivBEq κ] (key : β → κ) (value : β → α) (items : List β) (asked : κ) :
    (Table.ofList (items.map fun item => (key item, value item))).get? asked =
      (items.reverse.find? fun item => key item == asked).map value := by
  rw [get_of_list, ← List.map_reverse, List.find?_map, Option.map_map]
  rfl

theorem gathers_of_list [EquivBEq κ] (pairs : List (κ × α)) : Gathers pairs (Table.ofList pairs) := by
  constructor
  · have nothing : (Table.empty : Table κ α).toList = [] := rfl
    have whole : (pairs.map Prod.fst).filter (fun _ => true) = pairs.map Prod.fst :=
      List.filter_eq_self.mpr fun _ _ => rfl
    rw [Table.ofList, keys_foldl_insert, nothing]
    simp [whole]
  · intro entry member
    rw [← get_of_list]
    exact get_of_mem member

/-- The table of the pairs is the one that they give when inserted in order. -/
theorem gathers_iff [EquivBEq κ] {pairs : List (κ × α)} {table : Table κ α} :
    Gathers pairs table ↔ table = Table.ofList pairs := by
  constructor
  · intro gathers
    exact gathers_unique gathers (gathers_of_list pairs)
  · rintro rfl
    exact gathers_of_list pairs

end StyleInline.Gathering
