import RollingIndex.Naming

/-!
# Name spaces

Deployments that share a store are told apart by names alone. A name belongs to the name space of
the stem that stands before its last separator:

* **a name has one stem** (`Naming.stem_eq_of_owns`), also where one stem extends another, as `a`
  and `a_0` do: the rest behind the stem holds no separator, so the stem ends at the last one;
* **aliases and rotated names lie in the name space of their deployment** (`Naming.owns_writeAlias`,
  `Naming.owns_indexName`, `Naming.Owns.of_indexNumber?`), so no two stems share one of them;
* **numbers that fit 64 bits are read back** (`Naming.indexNumber?_indexName`), the next number
  among them (`Naming.indexNumber?_nextName`);
* **the next number is one more than the greatest** where there is room for it
  (`Naming.isNext_nextNumber`), and zero where there is none (`Naming.nextNumber_eq_zero`).

Put together, whoever reads the number of a name also knows its deployment
(`Naming.indexNumber?_decodes`): a name that one deployment has numbered tells its number there and
has none anywhere else.
-/

namespace RollingIndex

/-! ## Numbers in names -/

/-- Behind a prefix stands the rest of the text. -/
theorem isPrefixOf?_eq_some_iff {α : Type} [BEq α] [LawfulBEq α] {rest : List α} :
    ∀ {front text : List α}, front.isPrefixOf? text = some rest ↔ text = front ++ rest
  | [], text => by
    show some text = some rest ↔ text = [] ++ rest
    simp
  | a :: front, [] => by
    show none = some rest ↔ [] = a :: front ++ rest
    simp
  | a :: front, b :: text => by
    show (if a == b then front.isPrefixOf? text else none) = some rest ↔ _
    by_cases hab : a = b
    · subst hab
      have ih := @isPrefixOf?_eq_some_iff _ _ _ rest front text
      simpa using ih
    · simp [hab, Ne.symm hab]

theorem readDigits?_eq_some {digits : List Char} {n : Nat} (h : readDigits? digits = some n) :
    digits ≠ [] ∧ ∀ c ∈ digits, c.isDigit = true := by
  rw [readDigits?] at h
  split at h
  · rename_i hdigits
    exact ⟨hdigits.1, List.all_eq_true.mp hdigits.2⟩
  · cases h

/-- The digits of a number are read as that number. -/
theorem readDigits?_toDigits (n : Nat) : readDigits? (Nat.toDigits 10 n) = some n := by
  have hdigits : (Nat.toDigits 10 n).all Char.isDigit = true :=
    List.all_eq_true.mpr fun c hc => Nat.isDigit_of_mem_toDigits (by decide) (by decide) hc
  rw [readDigits?, if_pos ⟨Nat.toDigits_ne_nil, hdigits⟩]
  have hvalue := @Nat.ofDigitChars_ten_toDigits n
  rw [Nat.ofDigitChars_eq_foldl] at hvalue
  simpa only [Nat.mul_comm] using congrArg some hvalue

/-- A text that is read as a number is a list of digits behind at most one `+`. -/
theorem readNumber?_eq_some {text : List Char} {n : Nat} (h : readNumber? text = some n) :
    text ≠ [] ∧ (∀ c ∈ text, c = '+' ∨ c.isDigit = true) ∧ fitsBits 64 n = true := by
  unfold readNumber? at h
  obtain ⟨hread, hfits⟩ := Option.filter_eq_some_iff.mp h
  split at hread
  · obtain ⟨-, hdigits⟩ := readDigits?_eq_some hread
    refine ⟨List.cons_ne_nil _ _, fun c hc => ?_, hfits⟩
    rcases List.mem_cons.mp hc with rfl | hc
    · exact .inl rfl
    · exact .inr (hdigits c hc)
  · obtain ⟨hne, hdigits⟩ := readDigits?_eq_some hread
    exact ⟨hne, fun c hc => .inr (hdigits c hc), hfits⟩

theorem readNumber?_toDigits {n : Nat} (h : fitsBits 64 n = true) :
    readNumber? (Nat.toDigits 10 n) = some n := by
  have hplus : ∀ rest, Nat.toDigits 10 n ≠ '+' :: rest := by
    intro rest heq
    have hdigit : '+'.isDigit = true :=
      Nat.isDigit_of_mem_toDigits (b := 10) (n := n) (by decide) (by decide)
        (heq ▸ List.mem_cons_self ..)
    cases hdigit
  unfold readNumber?
  refine Option.filter_eq_some_iff.mpr ⟨?_, h⟩
  split
  · rename_i rest heq
    exact absurd heq (hplus rest)
  · exact readDigits?_toDigits n

theorem separator_notMem_of_readNumber? {text : List Char} {n : Nat}
    (h : readNumber? text = some n) : '_' ∉ text := by
  intro hmem
  rcases (readNumber?_eq_some h).2.1 _ hmem with hplus | hdigit
  · cases hplus
  · cases hdigit

theorem fitsBits_iff {bits n : Nat} : fitsBits bits n = true ↔ n < powerOfTwo bits :=
  decide_eq_true_iff

namespace Naming

variable {p q naming : Naming} {name : String} {names : List String} {next : Nat}

/-- A name has a number if it is the stem, a separator and a text that is read as the number. -/
theorem indexNumber?_eq_some_iff {n : Nat} :
    naming.indexNumber? name = some n ↔
      ∃ text, name.toList = naming.stem.toList ++ '_' :: text ∧ readNumber? text = some n := by
  rw [indexNumber?]
  constructor
  · intro h
    split at h
    · rename_i text hprefix
      exact ⟨text, isPrefixOf?_eq_some_iff.mp hprefix, h⟩
    · cases h
  · rintro ⟨text, hname, hread⟩
    rw [isPrefixOf?_eq_some_iff.mpr hname]
    exact hread

theorem indexNumber?_lt {n : Nat} (h : naming.indexNumber? name = some n) : n < powerOfTwo 64 := by
  obtain ⟨text, -, hread⟩ := indexNumber?_eq_some_iff.mp h
  exact fitsBits_iff.mp (readNumber?_eq_some hread).2.2

theorem toList_indexName (n : Nat) :
    (naming.indexName n).toList = naming.stem.toList ++ '_' :: Nat.toDigits 10 n := by
  simp [indexName]

/-- **The number in a name is read back** if it fits 64 bits. -/
theorem indexNumber?_indexName {n : Nat} (h : n < powerOfTwo 64) :
    naming.indexNumber? (naming.indexName n) = some n :=
  indexNumber?_eq_some_iff.mpr
    ⟨_, toList_indexName n, readNumber?_toDigits (fitsBits_iff.mpr h)⟩

/-- The number comes next after some names: it is one more than the greatest number that one of them
has, and zero if none of them has a number. -/
inductive IsNext (naming : Naming) (names : List String) : Nat → Prop where
  /-- no name has a number -/
  | first : (∀ name ∈ names, naming.indexNumber? name = none) → IsNext naming names 0
  /-- a name has the greatest number -/
  | after (name : String) (greatest : Nat) : name ∈ names →
      naming.indexNumber? name = some greatest →
      (∀ other ∈ names, ∀ n, naming.indexNumber? other = some n → n ≤ greatest) →
      IsNext naming names (greatest + 1)

/-- What comes next is greater than every number before it. -/
theorem IsNext.lt {n : Nat} (h : naming.IsNext names next)
    (hname : name ∈ names) (hnumber : naming.indexNumber? name = some n) : n < next := by
  cases h with
  | first hnone =>
    rw [hnone name hname] at hnumber
    cases hnumber
  | after _ greatest _ _ hle => exact Nat.lt_succ_of_le (hle name hname n hnumber)

/-- No name has the greatest number, so there is room for one more. -/
def HasRoom (naming : Naming) (names : List String) : Prop :=
  ∀ name ∈ names, naming.indexNumber? name ≠ some (powerOfTwo 64 - 1)

/-- Where there is room, what comes next fits 64 bits. -/
theorem IsNext.lt_of_hasRoom (h : naming.IsNext names next) (hroom : naming.HasRoom names) :
    next < powerOfTwo 64 := by
  cases h with
  | first => decide
  | after name greatest hname hnumber =>
    have hlt := indexNumber?_lt hnumber
    have hne : greatest ≠ powerOfTwo 64 - 1 := fun heq => hroom name hname (heq ▸ hnumber)
    omega

/-- Where there is no room, what comes next is the first number beyond 64 bits. -/
theorem IsNext.eq_of_not_hasRoom (h : naming.IsNext names next)
    (hfull : ¬ naming.HasRoom names) : next = powerOfTwo 64 := by
  obtain ⟨name, hname, hnumber⟩ : ∃ name ∈ names,
      naming.indexNumber? name = some (powerOfTwo 64 - 1) := by
    simpa [HasRoom] using hfull
  have hgreater := h.lt hname hnumber
  cases h with
  | first => exact absurd hgreater (Nat.not_lt_zero _)
  | after _ greatest _ hgreatest =>
    have hlt := indexNumber?_lt hgreatest
    omega

/-- The next number is what comes next, modulo `2 ^ 64`. -/
theorem exists_isNext (naming : Naming) (names : List String) :
    ∃ next, naming.IsNext names next ∧ naming.nextNumber names = next % powerOfTwo 64 := by
  rw [nextNumber]
  cases hmax : (names.filterMap naming.indexNumber?).max? with
  | none =>
    rw [List.max?_eq_none_iff, List.filterMap_eq_nil_iff] at hmax
    exact ⟨0, .first hmax, rfl⟩
  | some greatest =>
    obtain ⟨hmem, hle⟩ := List.max?_eq_some_iff.mp hmax
    obtain ⟨name, hname, hnumber⟩ := List.mem_filterMap.mp hmem
    have hafter : naming.IsNext names (greatest + 1) :=
      .after name greatest hname hnumber fun other hother n hn =>
        hle n (List.mem_filterMap.mpr ⟨other, hother, hn⟩)
    exact ⟨greatest + 1, hafter, rfl⟩

/-- **The next number comes next** where there is room for it. -/
theorem isNext_nextNumber (hroom : naming.HasRoom names) :
    naming.IsNext names (naming.nextNumber names) := by
  obtain ⟨next, hnext, hnumber⟩ := naming.exists_isNext names
  rw [hnumber, Nat.mod_eq_of_lt (hnext.lt_of_hasRoom hroom)]
  exact hnext

/-- **Where there is no room the count begins again.** -/
theorem nextNumber_eq_zero (hfull : ¬ naming.HasRoom names) : naming.nextNumber names = 0 := by
  obtain ⟨next, hnext, hnumber⟩ := naming.exists_isNext names
  rw [hnumber, hnext.eq_of_not_hasRoom hfull, Nat.mod_self]

example : nextNumber ⟨"logs", "logs_recent"⟩ ["logs_7", "logs_18446744073709551615"] = 0 := by
  decide

/-- The next number fits 64 bits. -/
theorem nextNumber_lt (naming : Naming) (names : List String) :
    naming.nextNumber names < powerOfTwo 64 := by
  obtain ⟨next, -, hnumber⟩ := naming.exists_isNext names
  rw [hnumber]
  exact Nat.mod_lt next (powerOfTwo_pos 64)

/-- The number in the next name is read back. -/
theorem indexNumber?_nextName (naming : Naming) (names : List String) :
    naming.indexNumber? (naming.nextName names) = some (naming.nextNumber names) :=
  indexNumber?_indexName (naming.nextNumber_lt names)

/-! ## The stem of a name -/

/-- The name lies in the name space of the deployment: it is the stem, a separator and a rest
without a separator. -/
def Owns (naming : Naming) (name : String) : Prop :=
  ∃ rest : List Char, '_' ∉ rest ∧ name.toList = naming.stem.toList ++ '_' :: rest

/-- The text before the last separator is determined. -/
theorem eq_of_append_separator {front front' rest rest' : List Char} (hrest : '_' ∉ rest)
    (hrest' : '_' ∉ rest') (h : front ++ '_' :: rest = front' ++ '_' :: rest') :
    front = front' := by
  rcases List.append_eq_append_iff.mp h with ⟨mid, hfront, hmid⟩ | ⟨mid, hfront, hmid⟩
  · cases mid with
    | nil => simpa using hfront.symm
    | cons c mid =>
      -- the second front would reach past the separator, and its own would lie in `rest`
      obtain ⟨-, hmid⟩ := List.cons.inj hmid
      exact absurd (hmid ▸ List.mem_append_right mid (List.mem_cons_self ..)) hrest
  · cases mid with
    | nil => simpa using hfront
    | cons c mid =>
      obtain ⟨-, hmid⟩ := List.cons.inj hmid
      exact absurd (hmid ▸ List.mem_append_right mid (List.mem_cons_self ..)) hrest'

/-- **A name has one stem.** -/
theorem stem_eq_of_owns (hp : p.Owns name) (hq : q.Owns name) : p.stem = q.stem := by
  obtain ⟨rest, hrest, hname⟩ := hp
  obtain ⟨rest', hrest', hname'⟩ := hq
  exact String.toList_inj.mp (eq_of_append_separator hrest hrest' (hname.symm.trans hname'))

theorem toList_writeAlias (naming : Naming) :
    naming.writeAlias.toList = naming.stem.toList ++ '_' :: "deflector".toList := by
  simp [writeAlias]

theorem owns_writeAlias (naming : Naming) : naming.Owns naming.writeAlias :=
  ⟨"deflector".toList, by decide, toList_writeAlias naming⟩

theorem owns_indexName (naming : Naming) (n : Nat) : naming.Owns (naming.indexName n) :=
  ⟨Nat.toDigits 10 n, Nat.underscore_not_in_toDigits, toList_indexName n⟩

/-- No rotated name is the name of the alias, whose last part is no number. -/
theorem indexName_ne_writeAlias (naming : Naming) (n : Nat) :
    naming.indexName n ≠ naming.writeAlias := by
  intro heq
  have htext := congrArg String.toList heq
  rw [toList_indexName, toList_writeAlias, List.append_cancel_left_eq, List.cons.injEq] at htext
  have hdigit : 'd'.isDigit = true :=
    Nat.isDigit_of_mem_toDigits (b := 10) (n := n) (by decide) (by decide)
      (htext.2 ▸ List.mem_cons_self ..)
  cases hdigit

theorem Owns.of_indexNumber? {n : Nat} (h : naming.indexNumber? name = some n) :
    naming.Owns name := by
  obtain ⟨text, hname, hread⟩ := indexNumber?_eq_some_iff.mp h
  exact ⟨text, separator_notMem_of_readNumber? hread, hname⟩

theorem Owns.of_isRotated (h : naming.isRotated name = true) : naming.Owns name := by
  rw [isRotated, Bool.and_eq_true, Option.isSome_iff_exists] at h
  obtain ⟨-, n, hn⟩ := h
  exact .of_indexNumber? hn

/-- A name of one name space has no number in another. -/
theorem Owns.indexNumber?_eq_none (hp : p.Owns name) (hne : p.stem ≠ q.stem) :
    q.indexNumber? name = none := by
  cases hnumber : q.indexNumber? name with
  | none => rfl
  | some n => exact absurd (stem_eq_of_owns hp (.of_indexNumber? hnumber)) hne

theorem writeAlias_inj : p.writeAlias = q.writeAlias ↔ p.stem = q.stem := by
  constructor
  · intro h
    exact stem_eq_of_owns (owns_writeAlias p) (h ▸ owns_writeAlias q)
  · intro h
    rw [writeAlias, writeAlias, h]

/-- An alias has no number, neither in its own name space nor in another. -/
theorem indexNumber?_writeAlias (p q : Naming) : q.indexNumber? p.writeAlias = none := by
  by_cases hstem : p.stem = q.stem
  · cases hnumber : q.indexNumber? p.writeAlias with
    | none => rfl
    | some n =>
      obtain ⟨text, hname, hread⟩ := indexNumber?_eq_some_iff.mp hnumber
      rw [toList_writeAlias, hstem, List.append_cancel_left_eq, List.cons.injEq] at hname
      obtain ⟨-, rfl⟩ := hname
      cases hread
  · exact (owns_writeAlias p).indexNumber?_eq_none hstem

/-! ## Reading the names of all deployments -/

/-- Of the two settings only the stem counts where a number is read. -/
theorem indexNumber?_eq_of_stem (h : p.stem = q.stem) (name : String) :
    p.indexNumber? name = q.indexNumber? name := by
  rw [indexNumber?, indexNumber?, h]

/-- **Names are decoded in one way.** A name that one deployment gives to a number has this number
in every deployment with the same stem, and none in any other, however the stems lie in each other.
The same holds of all names that have a number, also of those that no deployment gives: who reads a
number in one name has the same stem and the same number. An alias has no number anywhere. -/
theorem indexNumber?_decodes (p q : Naming) :
    (∀ n, n < powerOfTwo 64 →
        q.indexNumber? (p.indexName n) = if p.stem = q.stem then some n else none) ∧
      (∀ name m n, p.indexNumber? name = some m → q.indexNumber? name = some n →
        p.stem = q.stem ∧ m = n) ∧
      q.indexNumber? p.writeAlias = none := by
  refine ⟨fun n hfits => ?_, fun name m n hm hn => ?_, indexNumber?_writeAlias p q⟩
  · by_cases hstem : p.stem = q.stem
    · rw [if_pos hstem, ← indexNumber?_eq_of_stem hstem, indexNumber?_indexName hfits]
    · rw [if_neg hstem, (owns_indexName p n).indexNumber?_eq_none hstem]
  · have hstem : p.stem = q.stem := stem_eq_of_owns (.of_indexNumber? hm) (.of_indexNumber? hn)
    rw [indexNumber?_eq_of_stem hstem, hn, Option.some_inj] at hm
    exact ⟨hstem, hm.symm⟩

/-- A deployment with the stem `a`. -/
def outer : Naming := ⟨"a", "a_recent"⟩

/-- A deployment whose stem looks like a rotated index of the one before. -/
def inner : Naming := ⟨"a_0", "a_0_recent"⟩

/-- The greatest number is read from a name by the deployment that gives it and not by the one whose
stem is shorter, although the name begins with that stem and a separator. A number that is written
with a `+` and a zero is the same one for all who read it. -/
theorem indexNumber?_decodes_nested :
    powerOfTwo 64 - 1 < powerOfTwo 64 ∧
      inner.indexNumber? (inner.indexName (powerOfTwo 64 - 1)) = some (powerOfTwo 64 - 1) ∧
      outer.indexNumber? (inner.indexName (powerOfTwo 64 - 1)) = none ∧
      inner.indexNumber? "a_0_+07" = some 7 ∧
      (⟨"a_0", "logs"⟩ : Naming).indexNumber? "a_0_+07" = some 7 ∧
      inner.stem = Naming.stem ⟨"a_0", "logs"⟩ ∧
      outer.indexNumber? "a_0_deflector" = none := by
  have hfits : powerOfTwo 64 - 1 < powerOfTwo 64 := by decide
  have hplus : inner.indexNumber? "a_0_+07" = some 7 := by decide
  have hplus' : (⟨"a_0", "logs"⟩ : Naming).indexNumber? "a_0_+07" = some 7 := by decide
  obtain ⟨hown, -, -⟩ := indexNumber?_decodes inner inner
  obtain ⟨hforeign, -, halias⟩ := indexNumber?_decodes inner outer
  obtain ⟨-, hsame, -⟩ := indexNumber?_decodes inner ⟨"a_0", "logs"⟩
  refine ⟨hfits, ?_, ?_, hplus, hplus', (hsame _ 7 7 hplus hplus').1, halias⟩
  · exact (hown _ hfits).trans (if_pos rfl)
  · exact (hforeign _ hfits).trans (if_neg (by decide))

end Naming

end RollingIndex
