/-!
Tables in order. A table holds each key once, in the order in which keys were first inserted; a later
insertion of an equal key changes the value and moves nothing. Which keys are equal is the `==` of the
key's type, so a table of paths treats two spellings of one path as one key and keeps the first.

Two tables are equal when they give every key the same value; their orders may differ.
-/
namespace StyleInline

/-- Writes `value` at the first entry whose key equals `key`, and after the last entry if none does. -/
def insertEntry {κ α : Type} [BEq κ] (key : κ) (value : α) : List (κ × α) → List (κ × α)
  | [] => [(key, value)]
  | (held, old) :: rest =>
    if held == key then (held, value) :: rest else (held, old) :: insertEntry key value rest

private theorem apart_insertEntry {κ α : Type} [BEq κ] {other key : κ} {value : α}
    {entries : List (κ × α)} (fresh : (other == key) = false)
    (apart : ∀ e ∈ entries, (other == e.1) = false) :
    ∀ e ∈ insertEntry key value entries, (other == e.1) = false := by
  induction entries with
  | nil => simpa [insertEntry] using fresh
  | cons head rest ih =>
    obtain ⟨held, old⟩ := head
    simp only [insertEntry]
    split
    · simpa using apart
    · simp only [List.mem_cons, forall_eq_or_imp] at apart ⊢
      exact ⟨apart.1, ih apart.2⟩

/-- Entries whose keys differ pairwise keep differing. -/
theorem pairwise_insertEntry {κ α : Type} [BEq κ] (key : κ) (value : α) {entries : List (κ × α)}
    (distinct : entries.Pairwise fun a b => (a.1 == b.1) = false) :
    (insertEntry key value entries).Pairwise fun a b => (a.1 == b.1) = false := by
  induction entries with
  | nil => simp [insertEntry]
  | cons head rest ih =>
    obtain ⟨held, old⟩ := head
    obtain ⟨apart, restDistinct⟩ := List.pairwise_cons.mp distinct
    simp only [insertEntry]
    split
    · exact List.pairwise_cons.mpr ⟨apart, restDistinct⟩
    · rename_i different
      exact List.pairwise_cons.mpr
        ⟨apart_insertEntry (Bool.not_eq_true _ ▸ different) apart, ih restDistinct⟩

/-- Entries in the order in which their keys were first inserted, no two keys equal. -/
structure Table (κ α : Type) [BEq κ] where
  entries : List (κ × α)
  distinct : entries.Pairwise fun a b => (a.1 == b.1) = false

namespace Table

variable {κ α : Type} [BEq κ]

def empty : Table κ α := ⟨[], .nil⟩

instance : EmptyCollection (Table κ α) := ⟨empty⟩

instance : Inhabited (Table κ α) := ⟨empty⟩

/-- A new key goes to the end. A key that is there keeps its place and its spelling. -/
def insert (t : Table κ α) (key : κ) (value : α) : Table κ α :=
  ⟨insertEntry key value t.entries, pairwise_insertEntry key value t.distinct⟩

/-- The table that the pairs give when they are inserted one after another. -/
def ofList (pairs : List (κ × α)) : Table κ α :=
  pairs.foldl (fun t pair => t.insert pair.1 pair.2) empty

def toList (t : Table κ α) : List (κ × α) := t.entries

def get? (t : Table κ α) (key : κ) : Option α :=
  (t.entries.find? fun entry => entry.1 == key).map Prod.snd

def size (t : Table κ α) : Nat := t.entries.length

theorem size_eq_length (t : Table κ α) : t.size = t.toList.length := rfl

def isEmpty (t : Table κ α) : Bool := t.entries.isEmpty

/-- As many entries, and each entry of the first found in the second with its value. -/
instance [BEq α] : BEq (Table κ α) where
  beq s t := s.size == t.size && s.entries.all fun entry => t.get? entry.1 == some entry.2

end Table
end StyleInline
