import Mathlib.Data.List.DropRight
import RollingIndex.Proofs.CompleteListings

/-!
# What a pattern selects

A pattern is a text with commas in it. What stands between them, without the blanks around it, are
its parts, and what each part asks for can be said without reading the text from left to right
(`Pattern.Means`): a part that begins with `-` keeps out what the rest of it matches as a glob, and
any other part asks for what it matches, or for every name if it is `_all`.

* **a name is selected exactly if the pattern means it** (`Pattern.selects_iff`);
* **a store answers both of its questions about a pattern with the indices of these names**
  (`Store.answers_by_meaning`);
* **only the parts count** (`Pattern.Rearranged.hasPart_iff`): whoever permutes the pieces between
  the commas, repeats one, puts blanks around one or adds an empty one asks for the same names.
-/

namespace RollingIndex

/-! ## Blanks around a text -/

namespace Text

/-- The text is the part with nothing but blanks around it, and the part has no blank at its
ends. -/
structure Trims (text part : List Char) : Prop where
  /-- all blanks at the ends are gone -/
  trimmed : Trimmed part
  /-- nothing but blanks is gone -/
  blanks : ∃ front back, (∀ c ∈ front, isBlank c = true) ∧ (∀ c ∈ back, isBlank c = true) ∧
    text = front ++ part ++ back

theorem trim_eq_rdropWhile (text : List Char) :
    trim text = (text.dropWhile isBlank).rdropWhile isBlank := rfl

/-- Blanks around a text do not count. -/
theorem trim_append {front text back : List Char} (hfront : ∀ c ∈ front, isBlank c = true)
    (hback : ∀ c ∈ back, isBlank c = true) : trim (front ++ text ++ back) = trim text := by
  rw [trim, List.append_assoc, List.dropWhile_append_of_pos hfront, List.dropWhile_append]
  split
  · rename_i hblank
    rw [trim, List.isEmpty_iff.mp hblank, List.dropWhile_eq_nil_iff.mpr hback]
  · rw [List.reverse_append, List.dropWhile_append_of_pos, trim]
    exact fun c hc => hback c (List.mem_reverse.mp hc)

/-- What is left of a text has no blank at its ends. -/
theorem trimmed_trim (text : List Char) : Trimmed (trim text) where
  first c hc := by
    -- it is the front of what is left when the blanks in front are gone
    obtain ⟨rest, hrest⟩ := List.rdropWhile_prefix isBlank (text.dropWhile isBlank)
    rw [trim_eq_rdropWhile] at hc
    have hhead : (text.dropWhile isBlank).head? = some c := by
      rw [← hrest, List.head?_append, hc]
      rfl
    have hnot := List.head?_dropWhile_not isBlank text
    rw [hhead] at hnot
    exact hnot
  last c hc := by
    rw [trim_eq_rdropWhile] at hc
    obtain ⟨hne, hlast⟩ := List.mem_getLast?_eq_getLast hc
    have hnot := List.rdropWhile_last_not isBlank (text.dropWhile isBlank) hne
    rw [← hlast] at hnot
    exact Bool.eq_false_iff.mpr hnot

/-- A text is what is left of it with blanks around. -/
theorem exists_blanks_trim (text : List Char) :
    ∃ front back, (∀ c ∈ front, isBlank c = true) ∧ (∀ c ∈ back, isBlank c = true) ∧
      text = front ++ trim text ++ back := by
  refine ⟨text.takeWhile isBlank, (text.dropWhile isBlank).rtakeWhile isBlank,
    fun c => List.mem_takeWhile_imp, fun c => List.mem_rtakeWhile_imp, ?_⟩
  rw [trim_eq_rdropWhile, List.append_assoc, List.rdropWhile_append_rtakeWhile,
    List.takeWhile_append_dropWhile]

/-- **What trimming leaves** is the one text without blanks at its ends that the text is but for
blanks around it. -/
theorem trim_eq_iff {text part : List Char} : trim text = part ↔ Trims text part := by
  constructor
  · rintro rfl
    exact ⟨trimmed_trim text, exists_blanks_trim text⟩
  · rintro ⟨htrimmed, front, back, hfront, hback, rfl⟩
    rw [trim_append hfront hback, htrimmed.trim_eq]

end Text

/-! ## The meaning of a pattern -/

namespace Pattern

/-- What stands between two commas of a text, or between a comma and an end of it. -/
inductive Piece : List Char → List Char → Prop where
  /-- the whole text, if there is no comma in it -/
  | whole {text : List Char} : ',' ∉ text → Piece text text
  /-- what stands in front of the first comma -/
  | first {piece : List Char} (rest : List Char) : ',' ∉ piece → Piece (piece ++ ',' :: rest) piece
  /-- a piece of what stands behind a comma -/
  | later (front : List Char) {rest piece : List Char} :
      Piece rest piece → Piece (front ++ ',' :: rest) piece

/-- The pattern has the part: it is a piece with the blanks around it removed, and something is
left. -/
def HasPart (text : String) (part : List Char) : Prop :=
  part ≠ [] ∧ ∃ piece, Piece text.toList piece ∧ Text.Trims piece part

/-- The pattern means the name. -/
structure Means (text name : String) : Prop where
  /-- some part without a `-` in front asks for every name or matches this one -/
  asked : ∃ part, HasPart text part ∧ part.head? ≠ some '-' ∧
    (part = "_all".toList ∨ Glob.Matches (Glob.ofText part) name.toList)
  /-- no part with a `-` in front matches it behind the `-` -/
  spared : ∀ glob, HasPart text ('-' :: glob) → ¬ Glob.Matches (Glob.ofText glob) name.toList

/-- By induction on the length, for what stands behind a comma is shorter. -/
theorem piece_of_mem_splitOn {piece : List Char} :
    ∀ {text : List Char}, piece ∈ text.splitOn ',' → Piece text piece := by
  intro text hpiece
  by_cases hcomma : ',' ∈ text
  · obtain ⟨front, rest, htext, hfront⟩ := List.eq_append_cons_of_mem hcomma
    have hshorter : rest.length < text.length := by
      rw [htext, List.length_append, List.length_cons]
      omega
    rw [htext, List.splitOn_append_cons_self_of_not_mem hfront] at hpiece
    rw [htext]
    rcases List.mem_cons.mp hpiece with rfl | hpiece
    · exact .first rest hfront
    · exact .later front (piece_of_mem_splitOn hpiece)
  · rw [List.splitOn_eq_singleton hcomma, List.mem_singleton] at hpiece
    rw [hpiece]
    exact .whole hcomma
termination_by text => text.length

/-- Splitting a text at its commas gives its pieces. -/
theorem mem_splitOn_iff {text piece : List Char} : piece ∈ text.splitOn ',' ↔ Piece text piece := by
  refine ⟨piece_of_mem_splitOn, fun hpiece => ?_⟩
  induction hpiece with
  | whole hcomma => simp [List.splitOn_eq_singleton hcomma]
  | first rest hcomma => simp [List.splitOn_append_cons_self_of_not_mem hcomma]
  | later front _ ih =>
    rw [List.splitOn_append_cons_self]
    exact List.mem_append_right _ ih

theorem hasPart_iff {text : String} {part : List Char} :
    HasPart text part ↔ part ≠ [] ∧ ∃ piece ∈ text.toList.splitOn ',', Text.Trims piece part := by
  simp only [HasPart, mem_splitOn_iff]

/-- **A pattern is read part by part.** -/
theorem mem_parts_iff {text : String} {part : List Char} :
    part ∈ parts text ↔ HasPart text part := by
  rw [hasPart_iff, parts, List.mem_filter, List.mem_map, and_comm]
  simp only [Text.trim_eq_iff, Bool.not_eq_true', List.isEmpty_eq_false_iff]

end Pattern

namespace Clause

variable {part name : List Char}

/-- What a part asks for. -/
theorem includes_ofText_iff :
    (ofText part).includes name = true ↔
      part.head? ≠ some '-' ∧ (part = "_all".toList ∨ Glob.Matches (Glob.ofText part) name) := by
  by_cases hsign : part.head? = some '-'
  · obtain ⟨glob, rfl⟩ := List.head?_eq_some_iff.mp hsign
    simp [ofText, includes]
  by_cases hall : part = ['_', 'a', 'l', 'l']
  · subst hall
    have hany : Glob.accepts [.anyRun] name = true := by
      rw [Glob.accepts_iff]
      simpa using Glob.Matches.anyRun name .nil
    simpa [ofText, includes] using hany
  · rw [ofText_eq_including hsign hall, includes, Glob.accepts_iff]
    simp [hsign, hall]

/-- What a part keeps out. -/
theorem excludes_ofText_iff :
    (ofText part).excludes name = true ↔
      ∃ glob, part = '-' :: glob ∧ Glob.Matches (Glob.ofText glob) name := by
  by_cases hsign : part.head? = some '-'
  · obtain ⟨glob, rfl⟩ := List.head?_eq_some_iff.mp hsign
    simp [ofText, excludes, Glob.accepts_iff]
  · obtain ⟨asked, hasked⟩ : ∃ asked, ofText part = .including asked := by
      unfold ofText
      split
      · exact absurd rfl hsign
      · exact ⟨_, rfl⟩
    rw [hasked, excludes]
    simp only [Bool.false_eq_true, false_iff, not_exists, not_and]
    rintro glob rfl
    exact absurd rfl hsign

end Clause

namespace Pattern

variable {text text' name : String}

/-- **A name is selected exactly if the pattern means it.** -/
theorem selects_iff : (ofText text).selects name = true ↔ Means text name := by
  have hincludes : (ofText text).any (·.includes name.toList) = true ↔
      ∃ part, HasPart text part ∧ part.head? ≠ some '-' ∧
        (part = "_all".toList ∨ Glob.Matches (Glob.ofText part) name.toList) := by
    simp only [ofText, List.any_map, List.any_eq_true, Function.comp_apply, mem_parts_iff,
      Clause.includes_ofText_iff]
  have hexcludes : (ofText text).any (·.excludes name.toList) = true ↔
      ∃ glob, HasPart text ('-' :: glob) ∧ Glob.Matches (Glob.ofText glob) name.toList := by
    simp only [ofText, List.any_map, List.any_eq_true, Function.comp_apply, mem_parts_iff,
      Clause.excludes_ofText_iff]
    constructor
    · rintro ⟨_, hpart, glob, rfl, hmatches⟩
      exact ⟨glob, hpart, hmatches⟩
    · rintro ⟨glob, hpart, hmatches⟩
      exact ⟨_, hpart, glob, rfl, hmatches⟩
  rw [selects, Bool.and_eq_true, Bool.not_eq_true', Bool.eq_false_iff, ne_eq, hincludes, hexcludes]
  constructor
  · rintro ⟨hasked, hspared⟩
    exact ⟨hasked, fun glob hpart hmatches => hspared ⟨glob, hpart, hmatches⟩⟩
  · rintro ⟨hasked, hspared⟩
    refine ⟨hasked, ?_⟩
    rintro ⟨glob, hpart, hmatches⟩
    exact hspared glob hpart hmatches

/-! ## Other texts with the same parts -/

/-- The pieces of one pattern are those of another but for their order, for repetitions, for blanks
around them and for empty ones. -/
inductive Rearranged : List (List Char) → List (List Char) → Prop where
  /-- they stand in another order -/
  | permuted {pieces pieces' : List (List Char)} : pieces.Perm pieces' → Rearranged pieces pieces'
  /-- a piece is there once more -/
  | repeated {piece : List Char} {pieces : List (List Char)} :
      piece ∈ pieces → Rearranged pieces (piece :: pieces)
  /-- there are blanks around a piece -/
  | padded {front back : List Char} (piece : List Char) (pieces : List (List Char)) :
      (∀ c ∈ front, Text.isBlank c = true) → (∀ c ∈ back, Text.isBlank c = true) →
      Rearranged (piece :: pieces) ((front ++ piece ++ back) :: pieces)
  /-- there is an empty piece more -/
  | empty (pieces : List (List Char)) : Rearranged pieces ([] :: pieces)
  /-- in the other direction -/
  | symm {pieces pieces' : List (List Char)} : Rearranged pieces pieces' → Rearranged pieces' pieces
  /-- one after the other -/
  | trans {pieces pieces' pieces'' : List (List Char)} :
      Rearranged pieces pieces' → Rearranged pieces' pieces'' → Rearranged pieces pieces''

/-- Rearranging pieces leaves the same parts. -/
theorem Rearranged.exists_trims_iff {pieces pieces' : List (List Char)} {part : List Char}
    (h : Rearranged pieces pieces') (hpart : part ≠ []) :
    (∃ piece ∈ pieces, Text.Trims piece part) ↔ ∃ piece ∈ pieces', Text.Trims piece part := by
  induction h with
  | permuted hperm => simp only [hperm.mem_iff]
  | repeated hpiece =>
    simp only [List.exists_mem_cons_iff]
    exact ⟨.inr, fun h => h.elim (fun htrims => ⟨_, hpiece, htrims⟩) id⟩
  | padded piece pieces hfront hback =>
    simp only [List.exists_mem_cons_iff, ← Text.trim_eq_iff, Text.trim_append hfront hback]
  | empty pieces =>
    have hnone : ¬ Text.Trims [] part := fun htrims => hpart (Text.trim_eq_iff.mpr htrims).symm
    simp only [List.exists_mem_cons_iff, hnone, false_or]
  | symm _ ih => exact ih.symm
  | trans _ _ ih ih' => exact ih.trans ih'

/-- **Only the parts count.** -/
theorem Rearranged.hasPart_iff {part : List Char}
    (h : Rearranged (text.toList.splitOn ',') (text'.toList.splitOn ',')) :
    HasPart text part ↔ HasPart text' part := by
  rw [Pattern.hasPart_iff, Pattern.hasPart_iff]
  exact and_congr_right h.exists_trims_iff

/-- Patterns with the same parts select the same names. -/
theorem selects_congr (h : ∀ part, HasPart text part ↔ HasPart text' part) (name : String) :
    (ofText text).selects name = (ofText text').selects name := by
  rw [Bool.eq_iff_iff, selects_iff, selects_iff]
  constructor
  · rintro ⟨⟨part, hpart, hasked⟩, hspared⟩
    exact ⟨⟨part, (h part).mp hpart, hasked⟩, fun glob hglob => hspared glob ((h _).mpr hglob)⟩
  · rintro ⟨⟨part, hpart, hasked⟩, hspared⟩
    exact ⟨⟨part, (h part).mpr hpart, hasked⟩, fun glob hglob => hspared glob ((h _).mp hglob)⟩

end Pattern

/-! ## The answers of a store -/

namespace Store

variable {store : Store} {text text' name : String}

/-- The store has the names selected. -/
theorem mem_keys_listing_iff :
    name ∈ (store.listing text).keys ↔
      store.indices.contains name = true ∧ Pattern.Means text name := by
  rw [Table.mem_keys_iff, get?_listing, ← Pattern.selects_iff, Table.contains_eq_true_iff]
  cases store.indices.get? name <;> cases (Pattern.ofText text).selects name <;> simp

/-- Patterns that select the same names are answered alike. -/
theorem selected_congr
    (h : ∀ name, (Pattern.ofText text).selects name = (Pattern.ofText text').selects name) :
    store.selected text = store.selected text' := by
  simp only [selected, h]

/-- **What a store answers to a pattern.** Every store that can be reached answers the question for
statistics and the one for settings, and both with the same names: those of its indices that the
pattern means. So what a part with a `-` matches is kept out whatever else the pattern says, and a
pattern of such parts alone selects nothing. The answers stay the same if the pieces between the
commas are permuted, repeated, surrounded by blanks or joined by empty ones. -/
theorem answers_by_meaning (store : Store) (text : String)
    (hreached : store.faults.unavailable = false) :
    ∃ listed states, store.stats text = .ok listed ∧ store.clusterState text = .ok states ∧
      listed.keys = states.keys ∧
      (∀ name, name ∈ listed.keys ↔
        store.indices.contains name = true ∧ Pattern.Means text name) ∧
      (∀ glob name, Pattern.HasPart text ('-' :: glob) →
        Glob.Matches (Glob.ofText glob) name.toList → name ∉ listed.keys) ∧
      ((∀ part, Pattern.HasPart text part → part.head? = some '-') → listed.keys = []) ∧
      ∀ text', Pattern.Rearranged (text.toList.splitOn ',') (text'.toList.splitOn ',') →
        store.stats text' = .ok listed ∧ store.clusterState text' = .ok states := by
  have hstates : ∀ text', store.clusterState text' =
      .ok ((store.selected text').map fun _ => Index.settings) := by
    intro text'
    rw [clusterState, available, hreached]
    rfl
  refine ⟨store.listing text, _, stats_eq_listing hreached text, hstates text, ?_,
    fun name => mem_keys_listing_iff, fun glob name hpart hmatches hname => ?_, fun hsigned => ?_,
    fun text' hrearranged => ?_⟩
  · simp [listing, Table.keys, Table.map]
  · exact (mem_keys_listing_iff.mp hname).2.spared glob hpart hmatches
  · refine List.eq_nil_iff_forall_not_mem.mpr fun name hname => ?_
    obtain ⟨part, hpart, hsign, -⟩ := (mem_keys_listing_iff.mp hname).2.asked
    exact hsign (hsigned part hpart)
  · have hsame : store.selected text' = store.selected text :=
      selected_congr fun name =>
        (Pattern.selects_congr (fun part => hrearranged.hasPart_iff) name).symm
    exact ⟨by rw [stats_eq_listing hreached, listing, hsame, listing], by rw [hstates, hsame]⟩

/-- The store of a deployment with two rotated indices and its recent index. -/
def rotatedStore : Store :=
  ((Cluster.start [.named "logs" "logs_recent"]).run
    [.operation 0 .setup, .operation 0 .cycle, .operation 0 .ensureRecentIndex]).store

/-- The pattern of the rotated indices and the same with its two pieces the other way round, blanks
around one of them and an empty piece between them. -/
theorem answers_by_meaning_rearranged :
    rotatedStore.faults.unavailable = false ∧
      Pattern.Rearranged ("logs_*,-logs_recent".toList.splitOn ',')
        (" -logs_recent\t,,logs_*".toList.splitOn ',') ∧
      ∃ listed states, rotatedStore.stats "logs_*,-logs_recent" = .ok listed ∧
        rotatedStore.clusterState "logs_*,-logs_recent" = .ok states ∧
        listed.keys = ["logs_0", "logs_1"] ∧ states.keys = ["logs_0", "logs_1"] ∧
        rotatedStore.stats " -logs_recent\t,,logs_*" = .ok listed ∧
        rotatedStore.clusterState " -logs_recent\t,,logs_*" = .ok states := by
  have hrearranged : Pattern.Rearranged ("logs_*,-logs_recent".toList.splitOn ',')
      (" -logs_recent\t,,logs_*".toList.splitOn ',') := by
    have hpieces : "logs_*,-logs_recent".toList.splitOn ',' =
        ["logs_*".toList, "-logs_recent".toList] := by decide
    have hpieces' : " -logs_recent\t,,logs_*".toList.splitOn ',' =
        [[' '] ++ "-logs_recent".toList ++ ['\t'], [], "logs_*".toList] := by decide
    rw [hpieces, hpieces']
    exact ((Pattern.Rearranged.empty _).trans (.permuted (by decide))).trans
      (.padded _ [[], "logs_*".toList] (List.forall_mem_singleton.mpr rfl)
        (List.forall_mem_singleton.mpr rfl))
  obtain ⟨listed, states, hlisted, hstates, hkeys, -, -, -, hsame⟩ :=
    answers_by_meaning rotatedStore "logs_*,-logs_recent" rfl
  have hnames : (rotatedStore.stats "logs_*,-logs_recent").toOption.map Table.keys =
      some ["logs_0", "logs_1"] := rfl
  rw [hlisted] at hnames
  have hlistedKeys : listed.keys = ["logs_0", "logs_1"] := Option.some.inj hnames
  obtain ⟨hlisted', hstates'⟩ := hsame _ hrearranged
  exact ⟨rfl, hrearranged, listed, states, hlisted, hstates, hlistedKeys,
    hkeys.symm.trans hlistedKeys, hlisted', hstates'⟩

end Store

end RollingIndex
