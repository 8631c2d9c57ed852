import RollingIndex.Proofs.NameSpaces
import RollingIndex.Proofs.Rotations

/-!
# What a deployment lists

A deployment finds its rotated indices by a pattern made of two of its settings, the stem and the
name of the recent index. A wildcard, a comma or a blank in one of them could make the pattern say
something else. Where the settings are legible (`Naming.Legible`) the pattern has the two parts that
it is meant to have (`Naming.Legible.selects_rotatedPattern_iff`). Where they are read as they stand
(`Naming.Literal`), which is a little more:

* **the pattern selects the names that begin with the stem and a separator**, except the one of the
  recent index (`Naming.selects_rotatedPattern_iff`);
* **every index of the store that has a number is listed** (`Naming.mem_rotatedNames_iff`), unless
  it is the recent index;
* **the next number is greater than all numbers in the store** (`Naming.lt_nextNumber_of_contains`),
  and so no index has the next name (`Naming.contains_nextName`).
-/

namespace RollingIndex

/-! ## Texts that a pattern reads as they stand -/

namespace Text

/-- There is no blank at either end of the text. -/
structure Trimmed (text : List Char) : Prop where
  /-- there is none in front -/
  first : ∀ c ∈ text.head?, isBlank c = false
  /-- there is none behind -/
  last : ∀ c ∈ text.getLast?, isBlank c = false

theorem trimmed_iff {text : List Char} :
    Trimmed text ↔ (text.head?.all fun c => !isBlank c) = true ∧
      (text.getLast?.all fun c => !isBlank c) = true := by
  simp only [Option.all_eq_true, Bool.not_eq_true']
  exact ⟨fun h => ⟨h.first, h.last⟩, fun ⟨first, last⟩ => ⟨first, last⟩⟩

instance (text : List Char) : Decidable (Trimmed text) := decidable_of_iff _ trimmed_iff.symm

theorem Trimmed.append {front back : List Char} (hfront : Trimmed front) (hback : Trimmed back) :
    Trimmed (front ++ back) where
  first c hc := by
    rw [List.head?_append, Option.mem_def, Option.or_eq_some_iff] at hc
    rcases hc with hc | ⟨-, hc⟩
    · exact hfront.first c hc
    · exact hback.first c hc
  last c hc := by
    rw [List.getLast?_append, Option.mem_def, Option.or_eq_some_iff] at hc
    rcases hc with hc | ⟨-, hc⟩
    · exact hback.last c hc
    · exact hfront.last c hc

/-- Trimming leaves a text alone that has no blank at either end. -/
theorem Trimmed.trim_eq {text : List Char} (h : Trimmed text) : trim text = text := by
  have hkeep : ∀ cs : List Char, (∀ c ∈ cs.head?, isBlank c = false) →
      cs.dropWhile isBlank = cs := by
    intro cs hcs
    cases cs with
    | nil => rfl
    | cons c cs => rw [List.dropWhile_cons_of_neg (by simp [hcs c rfl])]
  rw [trim, hkeep text h.first, hkeep text.reverse, List.reverse_reverse]
  rw [List.head?_reverse]
  exact h.last

end Text

/-- Plain characters of a glob stand for themselves, in front of whatever follows. -/
theorem Glob.matches_ofText_append_iff {glob : Glob} {text : List Char}
    (hplain : ∀ c ∈ text, c ≠ '*' ∧ c ≠ '?') :
    ∀ {name : List Char}, Matches (ofText text ++ glob) name ↔
      ∃ rest, name = text ++ rest ∧ Matches glob rest := by
  induction text with
  | nil => simp [ofText]
  | cons c text ih =>
    intro name
    obtain ⟨hrun, hone⟩ := hplain c (List.mem_cons_self ..)
    have hwild : ofText (c :: text) ++ glob = .exactly c :: (ofText text ++ glob) := by
      simp [ofText, wild, hrun, hone]
    have ih := @ih fun d hd => hplain d (List.mem_cons_of_mem _ hd)
    rw [hwild]
    constructor
    · intro h
      cases h with
      | exactly _ hrest =>
        obtain ⟨rest, rfl, hmatches⟩ := ih.mp hrest
        exact ⟨rest, rfl, hmatches⟩
    · rintro ⟨rest, rfl, hmatches⟩
      exact .exactly c (ih.mpr ⟨rest, rfl, hmatches⟩)

/-- A glob of plain characters accepts that very text. -/
theorem Glob.accepts_ofText_iff {text name : List Char}
    (hplain : ∀ c ∈ text, c ≠ '*' ∧ c ≠ '?') : accepts (ofText text) name = true ↔ name = text := by
  rw [accepts_iff, ← List.append_nil (ofText text), matches_ofText_append_iff hplain]
  constructor
  · rintro ⟨rest, rfl, hrest⟩
    cases hrest
    exact List.append_nil text
  · rintro rfl
    exact ⟨[], (List.append_nil name).symm, .nil⟩

/-- Plain characters with a `*` behind them accept what begins with these characters. -/
theorem Glob.accepts_ofText_star_iff {text name : List Char}
    (hplain : ∀ c ∈ text, c ≠ '*' ∧ c ≠ '?') :
    accepts (ofText (text ++ ['*'])) name = true ↔ ∃ rest, name = text ++ rest := by
  have hsplit : ofText (text ++ ['*']) = ofText text ++ [.anyRun] := by simp [ofText, wild]
  rw [accepts_iff, hsplit, matches_ofText_append_iff hplain]
  constructor
  · rintro ⟨rest, rfl, -⟩
    exact ⟨rest, rfl⟩
  · rintro ⟨rest, rfl⟩
    refine ⟨rest, rfl, ?_⟩
    simpa using Glob.Matches.anyRun rest .nil

theorem Glob.Matches.append {glob glob' : Glob} {name name' : List Char} (h : Matches glob name)
    (h' : Matches glob' name') : Matches (glob ++ glob') (name ++ name') := by
  induction h with
  | nil => exact h'
  | anyRun run _ ih =>
    rw [List.append_assoc]
    exact .anyRun run ih
  | anyOne c _ ih => exact .anyOne c ih
  | exactly c _ ih => exact .exactly c ih

/-- A text that is read as a glob matches itself, for a wildcard also stands for itself. -/
theorem Glob.matches_ofText_self : ∀ text : List Char, Matches (ofText text) text
  | [] => .nil
  | c :: text => by
    have hrest := matches_ofText_self text
    rw [ofText, List.map_cons, ← ofText, wild]
    split
    · exact .anyRun [c] hrest
    · split
      · exact .anyOne c hrest
      · exact .exactly c hrest

/-- A part of a pattern that has no sign in front and is not `_all` includes what it matches. -/
theorem Clause.ofText_eq_including {text : List Char} (hunsigned : text.head? ≠ some '-')
    (hall : text ≠ ['_', 'a', 'l', 'l']) : ofText text = .including (Glob.ofText text) := by
  unfold ofText
  split
  · exact absurd rfl hunsigned
  · rw [if_neg hall]

/-- A text without a comma and without blanks at its ends is a pattern of one part. -/
theorem Pattern.ofText_eq_singleton {text : String} (hcomma : ',' ∉ text.toList)
    (htrim : Text.trim text.toList = text.toList) (hne : text.toList ≠ []) :
    ofText text = [Clause.ofText text.toList] := by
  rw [ofText, parts, List.splitOn_eq_singleton hcomma, List.map_singleton, htrim]
  simp [hne]

/-- A pattern that only includes what a glob matches selects exactly that. -/
theorem Pattern.selects_including (glob : Glob) (name : String) :
    selects [.including glob] name = glob.accepts name.toList := by
  simp [selects, Clause.includes, Clause.excludes]

/-- A pattern reads the text as it stands: there is no wildcard and no comma in it, and no blank at
either end. -/
structure Pattern.Literal (text : String) : Prop where
  /-- no character has a meaning of its own -/
  plain : ∀ c ∈ text.toList, c ≠ '*' ∧ c ≠ '?' ∧ c ≠ ','
  /-- there is nothing to trim -/
  trimmed : Text.Trimmed text.toList

namespace Pattern.Literal

variable {text : String}

theorem literal_iff :
    Literal text ↔ (text.toList.all fun c => c != '*' && c != '?' && c != ',') = true ∧
      Text.Trimmed text.toList := by
  simp only [List.all_eq_true, Bool.and_eq_true, bne_iff_ne, and_assoc]
  exact ⟨fun h => ⟨h.plain, h.trimmed⟩, fun ⟨plain, trimmed⟩ => ⟨plain, trimmed⟩⟩

instance : Decidable (Literal text) := decidable_of_iff _ literal_iff.symm

theorem wildless (h : Literal text) : ∀ c ∈ text.toList, c ≠ '*' ∧ c ≠ '?' := fun c hc =>
  ⟨(h.plain c hc).1, (h.plain c hc).2.1⟩

theorem comma_notMem (h : Literal text) : ',' ∉ text.toList := fun hc => (h.plain _ hc).2.2 rfl

end Pattern.Literal

/-- The patterns of a deployment read its settings as they stand. -/
structure Naming.Literal (naming : Naming) : Prop where
  /-- the stem is read as it stands -/
  stem : Pattern.Literal naming.stem
  /-- the stem does not make the part exclude something -/
  unsigned : naming.stem.toList.head? ≠ some '-'
  /-- the name of the recent index is read as it stands -/
  recentIndex : Pattern.Literal naming.recentIndex

instance (naming : Naming) : Decidable naming.Literal :=
  decidable_of_iff
    (Pattern.Literal naming.stem ∧ naming.stem.toList.head? ≠ some '-' ∧
      Pattern.Literal naming.recentIndex)
    ⟨fun ⟨stem, unsigned, recentIndex⟩ => ⟨stem, unsigned, recentIndex⟩,
      fun ⟨stem, unsigned, recentIndex⟩ => ⟨stem, unsigned, recentIndex⟩⟩

/-- The patterns of a deployment find what they are meant to find: the stem stands in one part and
does not begin like an exclusion or with a blank, and the name of the recent index stands in one
part, without wildcards and without a blank at its end. A wildcard in the stem does no harm. -/
structure Naming.Legible (naming : Naming) : Prop where
  /-- the stem stands in one part -/
  stem_comma : ',' ∉ naming.stem.toList
  /-- the stem begins neither like an exclusion nor with a blank -/
  stem_first : ∀ c ∈ naming.stem.toList.head?, c ≠ '-' ∧ Text.isBlank c = false
  /-- the name of the recent index stands in one part and has no wildcard -/
  recent_plain : ∀ c ∈ naming.recentIndex.toList, c ≠ '*' ∧ c ≠ '?' ∧ c ≠ ','
  /-- the name of the recent index does not end with a blank -/
  recent_last : ∀ c ∈ naming.recentIndex.toList.getLast?, Text.isBlank c = false

instance (naming : Naming) : Decidable naming.Legible :=
  decidable_of_iff
    ((naming.stem.toList.all fun c => c != ',') = true ∧
      (naming.stem.toList.head?.all fun c => c != '-' && !Text.isBlank c) = true ∧
      (naming.recentIndex.toList.all fun c => c != '*' && c != '?' && c != ',') = true ∧
      (naming.recentIndex.toList.getLast?.all fun c => !Text.isBlank c) = true) (by
    simp only [Option.all_eq_true, List.all_eq_true, Bool.and_eq_true, bne_iff_ne,
      Bool.not_eq_true', and_assoc]
    exact ⟨fun ⟨comma, first, plain, last⟩ => ⟨fun hc => comma _ hc rfl, first, plain, last⟩,
      fun h => ⟨fun _ hc heq => h.stem_comma (heq ▸ hc), h.stem_first, h.recent_plain,
        h.recent_last⟩⟩)

/-- Settings that are read as they stand are legible. -/
theorem Naming.Literal.legible {naming : Naming} (h : naming.Literal) : naming.Legible where
  stem_comma := h.stem.comma_notMem
  stem_first c hc := ⟨fun hsign => h.unsigned (hsign ▸ hc), h.stem.trimmed.first c hc⟩
  recent_plain := h.recentIndex.plain
  recent_last := h.recentIndex.trimmed.last

namespace Naming

variable {naming : Naming} {store : Store} {names : List String} {name : String}

/-! ## The pattern of the rotated indices -/

/-- The glob of all indices of a deployment: the stem, a separator and any run of characters. -/
def allGlob (naming : Naming) : Glob := Glob.ofText (naming.stem.toList ++ ['_', '*'])

/-- The glob of a deployment accepts every name that begins with the stem and a separator. -/
theorem accepts_allGlob {rest : List Char} (h : name.toList = naming.stem.toList ++ '_' :: rest) :
    naming.allGlob.accepts name.toList = true := by
  have hsplit : naming.allGlob = Glob.ofText naming.stem.toList ++ [.exactly '_', .anyRun] := by
    simp [allGlob, Glob.ofText, Glob.wild]
  rw [Glob.accepts_iff, hsplit, h]
  have hrest : Glob.Matches [.anyRun] rest := by simpa using Glob.Matches.anyRun rest .nil
  exact (Glob.matches_ofText_self _).append (.exactly '_' hrest)

namespace Legible

/-- What begins with the stem and a separator begins neither like an exclusion nor with a blank. -/
theorem head_stem (h : naming.Legible) (rest : List Char) :
    ∀ c ∈ (naming.stem.toList ++ '_' :: rest).head?, c ≠ '-' ∧ Text.isBlank c = false := by
  intro c hc
  rw [List.head?_append, Option.mem_def, Option.or_eq_some_iff] at hc
  rcases hc with hc | ⟨-, hc⟩
  · exact h.stem_first c hc
  · cases hc
    decide

/-- The part of the stem has no blank at its ends. -/
theorem trim_stem (h : naming.Legible) :
    Text.trim (naming.stem.toList ++ ['_', '*']) = naming.stem.toList ++ ['_', '*'] := by
  refine Text.Trimmed.trim_eq ⟨fun c hc => (h.head_stem ['*'] c hc).2, fun c hc => ?_⟩
  rw [List.getLast?_append] at hc
  cases hc
  decide

/-- The part of the recent index has no blank at its ends. -/
theorem trim_recent (h : naming.Legible) :
    Text.trim ('-' :: naming.recentIndex.toList) = '-' :: naming.recentIndex.toList := by
  refine Text.Trimmed.trim_eq ⟨fun c hc => ?_, fun c hc => ?_⟩
  · cases hc
    decide
  · rw [List.getLast?_cons, Option.mem_def, Option.some_inj] at hc
    cases hlast : naming.recentIndex.toList.getLast? with
    | none =>
      rw [hlast] at hc
      cases hc
      decide
    | some last =>
      rw [hlast] at hc
      exact hc ▸ h.recent_last last hlast

/-- The part of the stem includes what the glob of the deployment accepts. -/
theorem clause_stem (h : naming.Legible) :
    Clause.ofText (naming.stem.toList ++ ['_', '*']) = .including naming.allGlob := by
  refine Clause.ofText_eq_including (fun hsign => (h.head_stem ['*'] '-' hsign).1 rfl)
    fun hall => ?_
  have hlast := congrArg List.getLast? hall
  simp at hlast

/-- The pattern of the rotated indices has two parts. -/
theorem parts_rotatedPattern (h : naming.Legible) :
    Pattern.parts naming.rotatedPattern =
      [naming.stem.toList ++ ['_', '*'], '-' :: naming.recentIndex.toList] := by
  have htext : naming.rotatedPattern.toList =
      (naming.stem.toList ++ ['_', '*']) ++ ',' :: '-' :: naming.recentIndex.toList := by
    simp [rotatedPattern, allPattern]
  have hfront : ',' ∉ naming.stem.toList ++ ['_', '*'] := by simp [h.stem_comma]
  have hback : ',' ∉ '-' :: naming.recentIndex.toList := by
    intro hcomma
    rcases List.mem_cons.mp hcomma with hcomma | hcomma
    · cases hcomma
    · exact (h.recent_plain _ hcomma).2.2 rfl
  rw [Pattern.parts, htext, List.splitOn_append_cons_self_of_not_mem hfront,
    List.splitOn_eq_singleton hback, List.map_cons, List.map_singleton, h.trim_stem,
    h.trim_recent]
  simp

/-- The pattern of the rotated indices selects what the glob of the deployment accepts, except the
name of the recent index. -/
theorem selects_rotatedPattern_iff (h : naming.Legible) :
    (Pattern.ofText naming.rotatedPattern).selects name = true ↔
      naming.allGlob.accepts name.toList = true ∧ name ≠ naming.recentIndex := by
  have hexcludes : Glob.accepts (Glob.ofText naming.recentIndex.toList) name.toList = true ↔
      name = naming.recentIndex := by
    rw [Glob.accepts_ofText_iff fun c hc => ⟨(h.recent_plain c hc).1, (h.recent_plain c hc).2.1⟩,
      String.toList_inj]
  rw [Pattern.selects, Pattern.ofText, h.parts_rotatedPattern, List.map_cons, List.map_singleton,
    h.clause_stem, Clause.ofText]
  simp only [List.any_cons, List.any_nil, Clause.includes, Clause.excludes, Bool.or_false,
    Bool.false_or, Bool.and_eq_true, Bool.not_eq_true', Bool.eq_false_iff, ne_eq]
  rw [hexcludes]

end Legible

/-- **The pattern of the rotated indices** selects the names that begin with the stem and a
separator, except the one of the recent index. -/
theorem selects_rotatedPattern_iff (h : naming.Literal) :
    (Pattern.ofText naming.rotatedPattern).selects name = true ↔
      (∃ rest, name.toList = naming.stem.toList ++ '_' :: rest) ∧ name ≠ naming.recentIndex := by
  have hplain : ∀ c ∈ naming.stem.toList ++ ['_'], c ≠ '*' ∧ c ≠ '?' := by
    intro c hc
    rcases List.mem_append.mp hc with hc | hc
    · exact h.stem.wildless c hc
    · rw [List.mem_singleton.mp hc]
      decide
  have haccepts : naming.allGlob.accepts name.toList = true ↔
      ∃ rest, name.toList = naming.stem.toList ++ '_' :: rest := by
    have hstar := @Glob.accepts_ofText_star_iff _ name.toList hplain
    simpa [allGlob] using hstar
  rw [h.legible.selects_rotatedPattern_iff, haccepts]

/-! ## The names listed -/

/-- A store that can be reached answers which indices are rotated. -/
theorem exists_rotatedNames (naming : Naming) (hreached : store.faults.unavailable = false) :
    ∃ names, naming.rotatedNames store = .ok names := by
  have hstats : store.stats naming.rotatedPattern =
      .ok ((store.selected naming.rotatedPattern).map Index.stats) :=
    Store.stats_eq_ok_iff.mpr ⟨hreached, rfl⟩
  exact ⟨_, rotatedNames_eq_ok_iff.mpr ⟨_, rotatedIndices_eq_ok_iff.mpr ⟨_, hstats, rfl⟩, rfl⟩⟩

/-- **Every index of the store that has a number is listed**, and nothing else. -/
theorem mem_rotatedNames_iff (h : naming.Literal)
    (hrecent : naming.indexNumber? naming.recentIndex = none)
    (hnames : naming.rotatedNames store = .ok names) :
    name ∈ names ↔ store.indices.contains name = true ∧ naming.indexNumber? name ≠ none := by
  constructor
  · intro hname
    obtain ⟨hrotated, hexists⟩ := of_mem_rotatedNames hnames hname
    rw [isRotated, Bool.and_eq_true, Option.isSome_iff_ne_none] at hrotated
    exact ⟨hexists, hrotated.2⟩
  · rintro ⟨hexists, hnumber⟩
    have hne : name ≠ naming.recentIndex := fun heq => hnumber (heq ▸ hrecent)
    have hselects : (Pattern.ofText naming.rotatedPattern).selects name = true := by
      refine (selects_rotatedPattern_iff h).mpr ⟨?_, hne⟩
      obtain ⟨n, hn⟩ := Option.ne_none_iff_exists'.mp hnumber
      obtain ⟨text, htext, -⟩ := indexNumber?_eq_some_iff.mp hn
      exact ⟨text, htext⟩
    have hrotated : naming.isRotated name = true := by
      rw [isRotated, Bool.and_eq_true, Option.isSome_iff_ne_none]
      exact ⟨by simpa using hne, hnumber⟩
    obtain ⟨index, hindex⟩ := Table.contains_eq_true_iff.mp hexists
    -- the listing is answered, so it is the one of the indices selected
    obtain ⟨listed, hlisted, rfl⟩ := rotatedNames_eq_ok_iff.mp hnames
    obtain ⟨found, hfound, rfl⟩ := rotatedIndices_eq_ok_iff.mp hlisted
    obtain ⟨-, rfl⟩ := Store.stats_eq_ok_iff.mp hfound
    rw [Table.mem_keys_iff]
    refine ⟨Index.stats name index, ?_⟩
    simp [Store.selected, hindex, hselects, hrotated]

/-! ## The next number -/

/-- **The next number is greater than all numbers in the store**, where there is room for it. -/
theorem lt_nextNumber_of_contains {n : Nat} (h : naming.Literal)
    (hrecent : naming.indexNumber? naming.recentIndex = none)
    (hnames : naming.rotatedNames store = .ok names) (hroom : naming.HasRoom names)
    (hexists : store.indices.contains name = true) (hnumber : naming.indexNumber? name = some n) :
    n < naming.nextNumber names := by
  have hlisted : name ∈ names := by
    rw [mem_rotatedNames_iff h hrecent hnames, hnumber]
    exact ⟨hexists, Option.some_ne_none n⟩
  exact (isNext_nextNumber hroom).lt hlisted hnumber

/-- No index of the store has the next name, where there is room for it. -/
theorem contains_nextName (h : naming.Literal)
    (hrecent : naming.indexNumber? naming.recentIndex = none)
    (hnames : naming.rotatedNames store = .ok names) (hroom : naming.HasRoom names) :
    store.indices.contains (naming.nextName names) = false := by
  refine Bool.eq_false_iff.mpr fun hexists => ?_
  have hlt := lt_nextNumber_of_contains h hrecent hnames hroom hexists
    (naming.indexNumber?_nextName names)
  exact Nat.lt_irrefl _ hlt

end Naming

end RollingIndex
