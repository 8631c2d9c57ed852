/-!
# Globs

A glob is a text in which `*` stands for any run of characters, also an empty one, `?` for exactly
one character, and every other character for itself. Nothing escapes a wildcard.

`Glob.Matches` says which names a glob matches. `Glob.accepts` decides it without backtracking: from
the end of the glob to its front it keeps, for every suffix of the name, whether the part of the
glob seen so far matches it.

* **the decision is right** (`Glob.accepts_iff`).
-/

namespace RollingIndex

/-- One element of a glob. -/
inductive Wild where
  /-- any run of characters -/
  | anyRun
  /-- any one character -/
  | anyOne
  /-- this very character -/
  | exactly (c : Char)
deriving DecidableEq

/-- A glob is read element by element. -/
abbrev Glob := List Wild

namespace Glob

/-- What a character of a glob stands for. -/
def wild (c : Char) : Wild := if c = '*' then .anyRun else if c = '?' then .anyOne else .exactly c

/-- The glob of a text. -/
def ofText (text : List Char) : Glob := text.map wild

/-! ## The names that a glob matches -/

/-- `Matches glob name`: the elements of the glob stand, in order, for pieces that make up the
name. -/
inductive Matches : Glob → List Char → Prop
  /-- the empty glob matches the empty name -/
  | nil : Matches [] []
  /-- a run may be of any length -/
  | anyRun (run : List Char) {glob : Glob} {name : List Char} :
      Matches glob name → Matches (.anyRun :: glob) (run ++ name)
  /-- one character, whichever it is -/
  | anyOne (c : Char) {glob : Glob} {name : List Char} :
      Matches glob name → Matches (.anyOne :: glob) (c :: name)
  /-- the character itself -/
  | exactly (c : Char) {glob : Glob} {name : List Char} :
      Matches glob name → Matches (.exactly c :: glob) (c :: name)

/-! ## The decision -/

/-- For every position: whether there is a hit there or later. -/
def fromHere : List Bool → List Bool
  | [] => []
  | hit :: later =>
    let hits := fromHere later
    (hit || hits.headD false) :: hits

/-- For every position: whether its character is accepted and there is a hit right behind it. The
list has one hit more than the name has characters. -/
def oneBefore (accept : Char → Bool) : List Char → List Bool → List Bool
  | c :: name, _ :: hits => (accept c && hits.headD false) :: oneBefore accept name hits
  | _, _ => [false]

/-- Whether the glob matches each suffix of the name, from the whole name down to the empty one. -/
def hits : Glob → List Char → List Bool
  | [], name => name.map (fun _ => false) ++ [true]
  | .anyRun :: glob, name => fromHere (hits glob name)
  | .anyOne :: glob, name => oneBefore (fun _ => true) name (hits glob name)
  | .exactly c :: glob, name => oneBefore (· == c) name (hits glob name)

/-- Whether the glob matches the name. -/
def accepts (glob : Glob) (name : List Char) : Bool := (hits glob name).headD false

/-! ## The decision is right

The hits of a name and of its suffixes agree, so the first hit obeys the equations that one would
write down for a matcher by recursion. -/

theorem hits_cons (c : Char) (name : List Char) :
    ∀ glob : Glob, hits glob (c :: name) = accepts glob (c :: name) :: hits glob name
  | [] => rfl
  | .anyRun :: glob => by rw [accepts, hits, hits_cons c name glob]; rfl
  | .anyOne :: glob => by rw [accepts, hits, hits_cons c name glob]; rfl
  | .exactly d :: glob => by rw [accepts, hits, hits_cons c name glob]; rfl

theorem hits_nil : ∀ glob : Glob, hits glob [] = [accepts glob []]
  | [] => rfl
  | .anyRun :: glob => by rw [accepts, hits, hits_nil glob]; rfl
  | .anyOne :: glob => rfl
  | .exactly _ :: glob => rfl

theorem accepts_anyRun_nil (glob : Glob) : accepts (.anyRun :: glob) [] = accepts glob [] := by
  rw [accepts, hits, hits_nil]; simp [fromHere]

theorem accepts_anyRun_cons (glob : Glob) (c : Char) (name : List Char) :
    accepts (.anyRun :: glob) (c :: name) =
      (accepts glob (c :: name) || accepts (.anyRun :: glob) name) := by
  rw [accepts, hits, hits_cons]; rfl

theorem accepts_anyOne_cons (glob : Glob) (c : Char) (name : List Char) :
    accepts (.anyOne :: glob) (c :: name) = accepts glob name := by
  rw [accepts, hits, hits_cons]; exact Bool.true_and _

theorem accepts_exactly_cons (glob : Glob) (d c : Char) (name : List Char) :
    accepts (.exactly d :: glob) (c :: name) = (c == d && accepts glob name) := by
  rw [accepts, hits, hits_cons]; rfl

/-- **A glob matches a name exactly if its elements stand for pieces that make it up.** -/
theorem accepts_iff {glob : Glob} {name : List Char} :
    accepts glob name = true ↔ Matches glob name := by
  constructor
  · intro h
    induction glob generalizing name with
    | nil =>
      cases name with
      | nil => exact .nil
      | cons c name => simp [accepts, hits] at h
    | cons w glob ih =>
      cases w with
      | anyRun =>
        induction name with
        | nil => exact .anyRun [] (ih (accepts_anyRun_nil glob ▸ h))
        | cons c name ihn =>
          rw [accepts_anyRun_cons, Bool.or_eq_true] at h
          rcases h with h | h
          · exact .anyRun [] (ih h)
          · have hm := ihn h
            generalize hw : Wild.anyRun :: glob = whole at hm
            cases hm with
            | anyRun run hrest => cases hw; exact .anyRun (c :: run) hrest
            | _ => cases hw
      | anyOne =>
        cases name with
        | nil => simp [accepts, hits, oneBefore] at h
        | cons c name => exact .anyOne c (ih (accepts_anyOne_cons glob c name ▸ h))
      | exactly d =>
        cases name with
        | nil => simp [accepts, hits, oneBefore] at h
        | cons c name =>
          rw [accepts_exactly_cons, Bool.and_eq_true, beq_iff_eq] at h
          obtain ⟨rfl, h⟩ := h
          exact .exactly c (ih h)
  · intro h
    induction h with
    | nil => rfl
    | @anyRun run glob name _ ih =>
      induction run with
      | nil =>
        cases name with
        | nil => rw [List.append_nil, accepts_anyRun_nil]; exact ih
        | cons c name => rw [List.nil_append, accepts_anyRun_cons, ih, Bool.true_or]
      | cons c run ihr => rw [List.cons_append, accepts_anyRun_cons, ihr, Bool.or_true]
    | anyOne c _ ih => rw [accepts_anyOne_cons]; exact ih
    | exactly c _ ih => rw [accepts_exactly_cons, ih]; simp

end Glob

end RollingIndex
