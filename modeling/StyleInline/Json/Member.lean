import StyleInline.Json.Literal

/-!
The members of an object. All objects are read by one loop: a reader for the value is chosen by the key
and by what the members before have given, so a dictionary of strings, a dictionary of dictionaries and a
record with known fields differ in that choice alone.
-/
namespace StyleInline.Json

/-- Where a member of an object may begin: either the object ends, or a key begins after its quote. -/
inductive MemberStart where
  | closed (rest : List Char)
  | key (rest : List Char)

def MemberStart.rest : MemberStart → List Char
  | closed rest => rest
  | key rest => rest

/-- Looks for the end of the object or for a further key. `first` holds before the first member, where no
comma stands. -/
def nextMember (first : Bool) (text : List Char) : Except Fault MemberStart :=
  match skipSpace text with
  | [] => .error (.into .endInObject [])
  | '}' :: rest => .ok (.closed rest)
  | c :: rest =>
    if first then
      if c = '"' then .ok (.key rest) else .error (.into .keyNotString (c :: rest))
    else if c = ',' then
      match skipSpace rest with
      | [] => .error (.into .endInValue [])
      | '"' :: rest => .ok (.key rest)
      | '}' :: rest => .error (.into .trailingComma ('}' :: rest))
      | other => .error (.into .keyNotString other)
    else .error (.into .noObjectSeparator (c :: rest))

theorem length_rest_lt_of_nextMember {first : Bool} {text : List Char} {start : MemberStart}
    (found : nextMember first text = .ok start) : start.rest.length < text.length := by
  unfold nextMember at found
  split at found
  · contradiction
  · rename_i rest brace
    cases found
    exact length_lt_of_skipSpace brace
  · rename_i c rest _ start
    have shorter := length_lt_of_skipSpace start
    split at found
    · split at found
      · cases found
        exact shorter
      · contradiction
    · split at found
      · split at found
        · contradiction
        · rename_i after quote
          cases found
          exact Nat.lt_trans (length_lt_of_skipSpace quote) shorter
        · contradiction
        · contradiction
      · contradiction

/-- The colon between a key and its value. -/
def readColon (text : List Char) : Except Fault (List Char) :=
  match skipSpace text with
  | [] => .error (.into .endInObject [])
  | ':' :: rest => .ok rest
  | other => .error (.into .noColon other)

theorem length_lt_of_readColon {text rest : List Char} (answered : readColon text = .ok rest) :
    rest.length < text.length := by
  unfold readColon at answered
  split at answered
  · contradiction
  · rename_i after colon
    cases answered
    exact length_lt_of_skipSpace colon
  · contradiction

variable {σ : Type}

/-- How the members of an object are taken in: what to do with a key, given what the members before came
to and the text after the key. Refusing a key comes before the colon is looked for. -/
abbrev OnKey (σ : Type) := σ → String → List Char → Except Fault (Reader σ)

/-- One member, from after the quote of its key. -/
def readMember (onKey : OnKey σ) (state : σ) (text : List Char) : Except Fault (σ × List Char) :=
  match readLiteral "" text with
  | .error fault => .error fault
  | .ok (key, afterKey) =>
    match onKey state key afterKey with
    | .error fault => .error fault
    | .ok value =>
      match readColon afterKey with
      | .error fault => .error fault
      | .ok afterColon => value.read afterColon

theorem consumes_readMember (onKey : OnKey σ) (state : σ) : Consumes (readMember onKey state) := by
  intro text next rest answered
  unfold readMember at answered
  split at answered
  · contradiction
  · rename_i key afterKey literal
    have := consumes_readLiteral _ _ _ _ literal
    split at answered
    · contradiction
    · rename_i value chosen
      split at answered
      · contradiction
      · rename_i afterColon colon
        have := length_lt_of_readColon colon
        have := value.consumes _ _ _ answered
        omega

/-- The members up to the end of the object. -/
def readMembers (onKey : OnKey σ) (state : σ) (first : Bool) (text : List Char) :
    Except Fault (σ × List Char) :=
  match start : nextMember first text with
  | .error fault => .error fault
  | .ok (.closed rest) => .ok (state, rest)
  | .ok (.key body) =>
    match member : readMember onKey state body with
    | .error fault => .error fault
    | .ok (next, rest) =>
      have := length_rest_lt_of_nextMember start
      have := consumes_readMember _ _ _ _ _ member
      readMembers onKey next false rest
termination_by text.length
decreasing_by
  simp only [MemberStart.rest] at *
  omega

theorem consumes_readMembers (onKey : OnKey σ) (state : σ) (first : Bool) :
    Consumes (readMembers onKey state first) := by
  intro text result rest answered
  fun_induction readMembers onKey state first text with
  | case1 => contradiction
  | case2 state first text after start =>
    cases answered
    exact length_rest_lt_of_nextMember start
  | case3 => contradiction
  | case4 state first text body start next after member below above ih =>
    have := ih answered
    simp only [MemberStart.rest] at *
    omega

end StyleInline.Json
