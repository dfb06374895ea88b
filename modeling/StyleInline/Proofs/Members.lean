import Mathlib.Data.List.Forall2
import StyleInline.Exports.Json
import StyleInline.Proofs.Gathering
import StyleInline.Proofs.Literals

/-! The loop over the members of an object against the grammar of objects. What the loop comes to is told by a
relation between what the members before have come to, a key, the value under it and what comes of them; a
reader chosen by the key has to read just the values that this relation accepts. All objects are then covered
at once: dictionaries and records differ in their relation alone. -/
namespace StyleInline.Members
open Json Grammar Gathering Reading Literals

/-! ### The marks between members -/

theorem next_member_closed_iff (first : Bool) (text rest : List Char) :
    nextMember first text = .ok (.closed rest) ↔ ∃ space, Space space ∧ text = space ++ '}' :: rest := by
  rw [← skip_space_cons_iff rfl, nextMember]
  split
  · rename_i start
    simp [start]
  · rename_i start
    simp [start]
  · rename_i c after noBrace start
    have other : ¬ (c = '}' ∧ after = rest) := fun same => noBrace same.1
    rw [start, List.cons.injEq, iff_false_right other]
    split
    · split <;> simp
    · split
      · split <;> simp
      · simp

theorem next_member_key_iff (first : Bool) (text rest : List Char) :
    nextMember first text = .ok (.key rest) ↔ ∃ gap, Lead first gap ∧ text = gap ++ '"' :: rest := by
  constructor
  · intro answered
    unfold nextMember at answered
    split at answered
    · cases answered
    · cases answered
    · rename_i c after _ start
      obtain ⟨space, blank, rfl⟩ := space_skipped start
      split at answered
      · rename_i isFirst
        split at answered
        · rename_i quote
          cases answered
          subst isFirst quote
          exact ⟨space, .first blank, rfl⟩
        · contradiction
      · rename_i notFirst
        rw [Bool.not_eq_true] at notFirst
        split at answered
        · rename_i comma
          subst notFirst comma
          split at answered
          · contradiction
          · rename_i inner
            cases answered
            obtain ⟨more, blankMore, rfl⟩ := space_skipped inner
            exact ⟨space ++ ',' :: more, .later blank blankMore, by simp⟩
          · contradiction
          · contradiction
        · contradiction
  · rintro ⟨gap, lead, rfl⟩
    cases lead with
    | first blank => simp [nextMember, skip_space_append (c := '"') _ blank rfl]
    | @later before after left right =>
      have comma := skip_space_append (c := ',') (after ++ '"' :: rest) left rfl
      have quote := skip_space_append (c := '"') rest right rfl
      simp [nextMember, comma, quote]

theorem read_colon_iff (text rest : List Char) :
    readColon text = .ok rest ↔ ∃ space, Space space ∧ text = space ++ ':' :: rest := by
  rw [← skip_space_cons_iff rfl, readColon]
  split
  · rename_i start
    simp [start]
  · rename_i start
    simp [start]
  · rename_i noColon
    simpa using noColon rest

/-! ### Members -/

variable {σ α : Type}

/-- Under each key just the values are read that the relation accepts there, and what is made of them is what
it says. A key may be refused only where nothing is accepted. -/
def Fits (onKey : OnKey σ) (accepts : σ → String → Value → σ → Prop) : Prop :=
  ∀ state key text, match onKey state key text with
    | .ok reader => Reads reader.read (accepts state key)
    | .error _ => ∀ value next, ¬ accepts state key value next

/-- The members one after another, each accepted after those before it. -/
inductive Chain (accepts : σ → String → Value → σ → Prop) : σ → List (String × Value) → σ → Prop where
  | nil {state : σ} : Chain accepts state [] state
  | cons {state next final : σ} {key : String} {value : Value} {others : List (String × Value)}
      (one : accepts state key value next) (rest : Chain accepts next others final) :
      Chain accepts state ((key, value) :: others) final

variable {onKey : OnKey σ} {accepts : σ → String → Value → σ → Prop}

/-- One member, from after the quote of its key. -/
theorem exactly_read_member (fits : Fits onKey accepts) (state : σ) :
    Exactly (readMember onKey state) (fun word next =>
      ∃ key value, Member Spells ('"' :: word) (key, value) ∧ accepts state key value next) := by
  intro text next rest
  constructor
  · intro answered
    unfold readMember at answered
    split at answered
    · contradiction
    · rename_i key afterKey literal
      have fit := fits state key afterKey
      split at answered
      · contradiction
      · rename_i reader chosen
        split at answered
        · contradiction
        · rename_i afterColon colon
          rw [chosen] at fit
          obtain ⟨name, rfl, named⟩ := (exactly_read_literal _ _ _).mp literal
          obtain ⟨before, left, rfl⟩ := (read_colon_iff _ _).mp colon
          obtain ⟨_, rfl, after, core, value, rfl, right, spelled, accepted⟩ := (fit _ _ _).mp answered
          exact ⟨name ++ before ++ ':' :: (after ++ core), by simp, key, value,
            .colon named left right spelled, accepted⟩
  · rintro ⟨word, rfl, key, value, member, accepted⟩
    generalize shape : '"' :: word = whole at member
    obtain @⟨name, before, after, core, _, _, named, left, right, spelled⟩ := member
    obtain ⟨body, rfl, written⟩ := id named
    obtain rfl : word = body ++ ['"'] ++ before ++ ':' :: (after ++ core) := by simpa using shape
    have literal := (exactly_read_literal (body ++ ['"'] ++ (before ++ ':' :: (after ++ core ++ rest))) key _).mpr
      ⟨_, rfl, named⟩
    have colon := (read_colon_iff (before ++ ':' :: (after ++ core ++ rest)) _).mpr ⟨before, left, rfl⟩
    have fit := fits state key (before ++ ':' :: (after ++ core ++ rest))
    cases chosen : onKey state key (before ++ ':' :: (after ++ core ++ rest)) with
    | error fault =>
      rw [chosen] at fit
      exact (fit value next accepted).elim
    | ok reader =>
      rw [chosen] at fit
      have reading := (fit (after ++ core ++ rest) next rest).mpr
        ⟨_, rfl, after, core, value, rfl, right, spelled, accepted⟩
      simp only [List.append_assoc, List.cons_append] at literal colon chosen reading ⊢
      simp only [readMember, literal, chosen, colon, reading]

/-- A member begins with the quote of its key. -/
theorem member_quote {word : List Char} {member : String × Value} (spelled : Member Spells word member) :
    ∃ body, word = '"' :: body := by
  obtain ⟨⟨body, rfl, _⟩, _, _, _⟩ := spelled
  exact ⟨_, rfl⟩

theorem read_members_closed {state : σ} {first : Bool} {text rest : List Char}
    (start : nextMember first text = .ok (.closed rest)) :
    readMembers onKey state first text = .ok (state, rest) := by
  rw [readMembers]
  split
  · rename_i refused
    cases start.symm.trans refused
  · rename_i closed
    cases start.symm.trans closed
    rfl
  · rename_i key
    cases start.symm.trans key

theorem read_members_key {state next : σ} {first : Bool} {text body rest : List Char}
    (start : nextMember first text = .ok (.key body)) (one : readMember onKey state body = .ok (next, rest)) :
    readMembers onKey state first text = readMembers onKey next false rest := by
  rw [readMembers]
  split
  · rename_i refused
    cases start.symm.trans refused
  · rename_i closed
    cases start.symm.trans closed
  · rename_i key
    cases start.symm.trans key
    split
    · rename_i refused
      cases one.symm.trans refused
    · rename_i member
      cases one.symm.trans member
      rfl

theorem read_members_stopped {state : σ} {first : Bool} {text : List Char}
    {fault : Fault} (stopped : nextMember first text = .error fault) :
    readMembers onKey state first text = .error fault := by
  rw [readMembers]
  split
  · rename_i refused
    cases stopped.symm.trans refused
    rfl
  · rename_i closed
    cases stopped.symm.trans closed
  · rename_i key
    cases stopped.symm.trans key

theorem read_members_refused {state : σ} {first : Bool} {text body : List Char}
    {fault : Fault} (start : nextMember first text = .ok (.key body))
    (one : readMember onKey state body = .error fault) :
    readMembers onKey state first text = .error fault := by
  rw [readMembers]
  split
  · rename_i refused
    cases start.symm.trans refused
  · rename_i closed
    cases start.symm.trans closed
  · rename_i key
    cases start.symm.trans key
    split
    · rename_i refused
      cases one.symm.trans refused
      rfl
    · rename_i member
      cases one.symm.trans member

/-- The members up to the end of their object. -/
theorem exactly_read_members (fits : Fits onKey accepts) (state : σ) (first : Bool) :
    Exactly (readMembers onKey state first) (fun word final =>
      ∃ members, Listing '}' (Member Spells) first word members ∧ Chain accepts state members final) := by
  intro text final rest
  constructor
  · intro answered
    fun_induction readMembers onKey state first text with
    | case1 => contradiction
    | case2 state first text after start =>
      cases answered
      obtain ⟨space, blank, rfl⟩ := (next_member_closed_iff _ _ _).mp start
      exact ⟨space ++ ['}'], by simp, [], .close blank, .nil⟩
    | case3 => contradiction
    | case4 state first text body start next after one _ _ ih =>
      obtain ⟨gap, lead, rfl⟩ := (next_member_key_iff _ _ _).mp start
      obtain ⟨word, rfl, key, value, spelled, accepted⟩ := (exactly_read_member fits _ _ _ _).mp one
      obtain ⟨tail, rfl, members, listing, chain⟩ := ih answered
      exact ⟨gap ++ '"' :: word ++ tail, by simp, _, .word lead spelled listing, .cons accepted chain⟩
  · rintro ⟨word, rfl, members, listing, chain⟩
    -- By induction on how the members are written; the chain is taken apart alongside.
    induction listing generalizing state with
    | close blank =>
      cases chain
      rw [List.append_assoc, List.singleton_append]
      exact read_members_closed ((next_member_closed_iff _ _ _).mpr ⟨_, blank, rfl⟩)
    | @word _ _ _ tail _ _ lead spelled _ ih =>
      cases chain with
      | cons accepted chain =>
        obtain ⟨body, rfl⟩ := member_quote spelled
        have one := (exactly_read_member fits state (body ++ (tail ++ rest)) _ _).mpr
          ⟨body, rfl, _, _, spelled, accepted⟩
        rw [List.append_assoc, List.append_assoc, List.cons_append,
          read_members_key ((next_member_key_iff _ _ _).mpr ⟨_, lead, rfl⟩) one]
        exact ih _ chain

/-! ### Objects whose members all have values of one form -/

/-- The members of an object, each with what is made of its value. -/
def Each (A : Value → α → Prop) (value : Value) (pairs : List (String × α)) : Prop :=
  ∃ members, value = .object members ∧
    List.Forall₂ (fun member pair => pair.1 = member.1 ∧ A member.2 pair.2) members pairs

/-- Members that are pushed one after another, whatever their keys. -/
def Pushed (A : Value → α → Prop) (held : Array (String × α)) (key : String) (value : Value)
    (next : Array (String × α)) : Prop :=
  ∃ a, A value a ∧ next = held.push (key, a)

theorem fits_collect {reader : Reader α} {A : Value → α → Prop} (reads : Reads reader.read A) :
    Fits (collect reader) (Pushed A) :=
  fun held key _ => reads_map reads fun a => held.push (key, a)

theorem chain_pushed_iff {A : Value → α → Prop} {held final : Array (String × α)}
    {members : List (String × Value)} : Chain (Pushed A) held members final ↔
      ∃ pairs, List.Forall₂ (fun member pair => pair.1 = member.1 ∧ A member.2 pair.2) members pairs ∧
        final.toList = held.toList ++ pairs := by
  induction members generalizing held with
  | nil =>
    constructor
    · rintro ⟨⟩
      exact ⟨[], .nil, by simp⟩
    · rintro ⟨_, ⟨⟩, whole⟩
      obtain rfl : final = held := Array.toList_inj.mp (by simpa using whole)
      exact .nil
  | cons member others ih =>
    obtain ⟨key, value⟩ := member
    constructor
    · intro chain
      cases chain with
      | cons one rest =>
        obtain ⟨a, made, rfl⟩ := one
        obtain ⟨pairs, each, whole⟩ := ih.mp rest
        exact ⟨(key, a) :: pairs, .cons ⟨rfl, made⟩ each, by simpa using whole⟩
    · rintro ⟨_, each, whole⟩
      cases each with
      | @cons _ pair _ pairs here each =>
        obtain ⟨name, a⟩ := pair
        obtain ⟨rfl, made⟩ := here
        exact .cons ⟨a, made, rfl⟩ (ih.mpr ⟨pairs, each, by simpa using whole⟩)

theorem reads_map_of {reader : Reader α} {A : Value → α → Prop} (reads : Reads reader.read A) :
    Reads (readMap reader) (Each A) := by
  have exact := exactly_read_members (fits_collect reads) #[] true
  intro text pairs rest
  constructor
  · intro answered
    unfold readMap at answered
    split at answered
    · contradiction
    · rename_i body start
      obtain ⟨space, blank, rfl⟩ := space_skipped start
      split at answered
      · contradiction
      · rename_i held after reading
        cases answered
        obtain ⟨word, rfl, members, listing, chain⟩ := (exact _ _ _).mp reading
        obtain ⟨pairs, each, whole⟩ := chain_pushed_iff.mp chain
        obtain rfl : held.toList = pairs := by simpa using whole
        exact ⟨space ++ '{' :: word, by simp, space, _, _, rfl, blank,
          .object (inside_iff_listing.mpr listing), members, rfl, each⟩
    · contradiction
  · rintro ⟨_, rfl, space, core, _, rfl, blank, spelled, members, rfl, each⟩
    obtain ⟨inner, rfl, listing⟩ := spells_object spelled
    have chain : Chain (Pushed A) #[] members pairs.toArray := chain_pushed_iff.mpr ⟨pairs, each, by simp⟩
    have start := skip_space_append (c := '{') (inner ++ rest) blank rfl
    have reading := (exact (inner ++ rest) _ rest).mpr ⟨inner, rfl, members, listing, chain⟩
    rw [List.append_assoc, List.cons_append]
    simp only [readMap, start, reading]

/-- An object has one list of members, when one thing is made of each value. -/
theorem each_unique {A : Value → α → Prop} {value : Value} {first second : List (String × α)}
    (unique : ∀ value a b, A value a → A value b → a = b) (here : Each A value first) (there : Each A value second) :
    first = second := by
  obtain ⟨members, rfl, each⟩ := here
  obtain ⟨_, same, also⟩ := there
  cases same
  refine List.right_unique_forall₂' ?_ each also
  rintro member pair other ⟨name, left⟩ ⟨again, right⟩
  exact Prod.ext (name.trans again.symm) (unique _ _ _ left right)

/-! ### Exports -/

/-- An object of strings, and the table that its members give: each selector where it is mentioned first, with
the string that is written for it last. -/
def NamesExports (value : Value) (exports : Exports) : Prop :=
  ∃ pairs, Each (fun inner text => inner = .string text) value pairs ∧ Gathers pairs exports

theorem reads_exports : Reads Exports.reader.read NamesExports := by
  refine reads_congr (reads_map (reads_map_of (reads_string "a string")) Table.ofList) fun value exports => ?_
  exact exists_congr fun pairs => and_congr_right fun _ => gathers_iff.symm

/-- A value has one table of exports. -/
theorem names_exports_unique (value : Value) (first second : Exports) (here : NamesExports value first)
    (there : NamesExports value second) : first = second := by
  obtain ⟨pairs, each, gathers⟩ := here
  obtain ⟨others, also, gathered⟩ := there
  have same : pairs = others :=
    each_unique (fun _ _ _ left right => Value.string.inj (left.symm.trans right)) each also
  rw [← same] at gathered
  exact gathers_unique gathers gathered

theorem names_exports_single (selector text : String) :
    NamesExports (.object [(selector, .string text)]) (.ofList [(selector, text)]) :=
  ⟨[(selector, text)], ⟨_, rfl, .cons ⟨rfl, rfl⟩ .nil⟩, gathers_of_list _⟩

end StyleInline.Members
