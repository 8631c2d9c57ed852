import RollingIndex.Proofs.Sizes
import RollingIndex.Report.Basic

/-!
# The box of a report

The text of a report is a box, drawn line by line. Nothing ties the widths of the lines together but
the blanks that each of them is filled up with. As long as the values fit their columns,

* **all lines are 52 characters long but those of the rotated indices, which are 53**
  (`Report.length_lines`);
* so **the text is a rectangle exactly if there is no rotated index** and no name holds a line feed
  (`Report.isRectangle_text_iff`, `Report.not_isRectangle_text`).

Whatever the values are, **a line has a star in front exactly if it is the line of an index that the
alias leads to** (`Report.isMarked_lines`).
-/

namespace RollingIndex

/-! ## Lines of a text -/

/-- The lines of a text in which every line ends with a line feed. -/
def textLines (text : String) : List (List Char) := (text.toList.splitOn '\n').dropLast

/-- All lines of the text have the same number of characters. -/
def IsRectangle (text : String) : Prop := ∃ width, ∀ line ∈ textLines text, line.length = width

/-- A text is no shorter than its lines. -/
theorem le_length_of_splitOn {text : List Char} {width : Nat}
    (h : ∀ piece ∈ text.splitOn '\n', piece.length = width) : width ≤ text.length := by
  by_cases hfeed : '\n' ∈ text
  · obtain ⟨front, rest, rfl, hfront⟩ := List.eq_append_cons_of_mem hfeed
    rw [List.splitOn_append_cons_self_of_not_mem hfront] at h
    have hwidth : front.length = width := h front List.mem_cons_self
    simp only [List.length_append, List.length_cons]
    omega
  · rw [List.splitOn_eq_singleton hfeed] at h
    exact Nat.le_of_eq (h text (List.mem_singleton_self text)).symm

/-- A text that is too short for two lines of a width consists of lines of this width exactly if it
is one. -/
theorem forall_splitOn_iff {text : List Char} {width : Nat} (hshort : text.length ≤ 2 * width) :
    (∀ piece ∈ text.splitOn '\n', piece.length = width) ↔ '\n' ∉ text ∧ text.length = width := by
  constructor
  · intro h
    have hfeed : '\n' ∉ text := fun hfeed => by
      obtain ⟨front, rest, rfl, hfront⟩ := List.eq_append_cons_of_mem hfeed
      rw [List.splitOn_append_cons_self_of_not_mem hfront] at h
      have hwidth : front.length = width := h front List.mem_cons_self
      have hrest : width ≤ rest.length :=
        le_length_of_splitOn fun piece hpiece => h piece (List.mem_cons_of_mem front hpiece)
      simp only [List.length_append, List.length_cons] at hshort
      omega
    rw [List.splitOn_eq_singleton hfeed] at h
    exact ⟨hfeed, h text (List.mem_singleton_self text)⟩
  · rintro ⟨hfeed, hwidth⟩ piece hpiece
    rw [List.splitOn_eq_singleton hfeed, List.mem_singleton] at hpiece
    rw [hpiece, hwidth]

/-- Lines that each end with a line feed are split one by one, and nothing is behind the last. -/
theorem splitOn_flatMap (lines : List String) :
    (lines.flatMap fun line => line.toList ++ ['\n']).splitOn '\n' =
      (lines.flatMap fun line => line.toList.splitOn '\n') ++ [[]] := by
  induction lines with
  | nil => rfl
  | cons line lines ih =>
    rw [List.flatMap_cons, List.append_assoc, List.singleton_append,
      List.splitOn_append_cons_self, ih, List.flatMap_cons, List.append_assoc]

/-! ## Line feeds in values -/

theorem lineFeed_notMem_toDigits (n : Nat) : '\n' ∉ Nat.toDigits 10 n := by
  intro hfeed
  have hdigit : '\n'.isDigit = true := Nat.isDigit_of_mem_toDigits (by decide) (by decide) hfeed
  revert hdigit
  decide

theorem lineFeed_notMem_toString (n : Nat) : '\n' ∉ (toString n).toList := by
  simp [lineFeed_notMem_toDigits]

theorem lineFeed_notMem_humanSize (bytes : Nat) : '\n' ∉ (humanSize bytes).toList := by
  have hunit : ∀ unit ∈ "KB" :: largerUnits, '\n' ∉ unit.toList := by decide
  rw [humanSize]
  split
  · simp [lineFeed_notMem_toDigits]
  · obtain ⟨k, unit, hk, hfit, -⟩ := fitUnit_spec (roundedBytes bytes).1 largerUnits
      (1024 * (roundedBytes bytes).2) "KB"
    have hplain : '\n' ∉ unit.toList := hunit unit (List.mem_of_getElem? hk)
    simp only [scaledSize, hfit]
    simp [hundredthsText, lineFeed_notMem_toDigits, hplain]

namespace Report

variable {report : Report}

/-! ## Columns -/

@[simp] theorem length_padLeft (width : Nat) (text : String) :
    (padLeft width text).length = max width text.length := by
  rw [padLeft, String.length_append, String.length_ofList, List.length_replicate]
  omega

@[simp] theorem length_padRight (width : Nat) (text : String) :
    (padRight width text).length = max width text.length := by
  rw [padRight, String.length_append, String.length_ofList, List.length_replicate]
  omega

@[simp] theorem lineFeed_mem_padLeft (width : Nat) (text : String) :
    '\n' ∈ (padLeft width text).toList ↔ '\n' ∈ text.toList := by
  simp [padLeft]

@[simp] theorem lineFeed_mem_padRight (width : Nat) (text : String) :
    '\n' ∈ (padRight width text).toList ↔ '\n' ∈ text.toList := by
  simp [padRight]

theorem length_labelled {label value : String} (hlabel : label.length = 16)
    (hvalue : value.length ≤ 32) : (labelled label value).length = 52 := by
  have hleft : "║ ".length = 2 := rfl
  have hright : " ║".length = 2 := rfl
  simp only [labelled, String.length_append, length_padLeft, hlabel, hleft, hright]
  omega

/-! ## Values that fit -/

/-- The counts are numbers of 64 bits. -/
structure InRange (report : Report) : Prop where
  /-- the number of nodes -/
  nodeCount : report.nodeCount < powerOfTwo 64
  /-- the number of documents of all indices -/
  totalMessages : report.totalMessages < powerOfTwo 64
  /-- the number of documents of the recent index -/
  recentDocs : ∀ docs, report.recentDocs = some docs → docs < powerOfTwo 64

/-- The values fit their columns. -/
structure Fits (report : Report) : Prop where
  /-- the alias has at most 32 characters -/
  writeAlias : report.writeAlias.length ≤ 32
  /-- and so has the index it leads to -/
  target : ∀ name, report.target = some name → name.length ≤ 32
  /-- and the recent index -/
  recentIndex : report.recentIndex.length ≤ 32
  /-- and the size of all indices -/
  totalBytes : (humanSize report.totalBytes).length ≤ 32
  /-- the number of rotated indices has at most three digits -/
  indices : report.indices.length ≤ 999
  /-- the name of a rotated index has at most 20 characters -/
  name : ∀ index ∈ report.indices, index.name.length ≤ 20
  /-- its number of documents at most ten digits -/
  docs : ∀ index ∈ report.indices, (toString index.primaryDocs).length ≤ 10
  /-- and its size at most ten characters -/
  size : ∀ index ∈ report.indices, (humanSize index.sizeBytes).length ≤ 10

/-- The texts that a report takes over from the deployment: the names of the alias and of the
indices. -/
def names (report : Report) : List String :=
  report.writeAlias ::
    (report.target.toList ++ report.recentIndex :: report.indices.map (·.name))

/-- No name holds a line feed. -/
def OneLined (report : Report) : Prop := ∀ name ∈ report.names, '\n' ∉ name.toList

instance (report : Report) : Decidable report.OneLined :=
  inferInstanceAs (Decidable (∀ name ∈ report.names, '\n' ∉ name.toList))

/-- A number of 64 bits fits a column of 32 characters. -/
theorem length_toString_le {n : Nat} (h : n < powerOfTwo 64) : (toString n).length ≤ 32 := by
  rw [Nat.toString_eq_repr]
  refine (Nat.length_repr_le_iff (by decide)).mpr (Nat.lt_trans h ?_)
  decide

/-! ## The widths of the lines -/

theorem length_rule (left fill right : Char) : (rule left fill right).length = 52 := by
  simp [rule]

theorem length_headLines (hrange : report.InRange) (hfits : report.Fits) :
    report.headLines.map String.length = List.replicate 13 52 := by
  have htitle : "║           idx-deflector Cluster Report           ║".length = 52 := by decide
  have htarget : (report.target.getD "<unbound>").length ≤ 32 := by
    cases htarget : report.target with
    | none => decide
    | some name => exact hfits.target name htarget
  have hdocs : ((report.recentDocs.map toString).getD "<missing>").length ≤ 32 := by
    cases hdocs : report.recentDocs with
    | none => decide
    | some docs => exact length_toString_le (hrange.recentDocs docs hdocs)
  have hcount : ("║ indices (" ++ padLeft 3 (toString report.indices.length) ++
      "):                                   ║").length = 52 := by
    have hdigits : (toString report.indices.length).length ≤ 3 := by
      rw [Nat.toString_eq_repr]
      exact (Nat.length_repr_le_iff (by decide)).mpr (Nat.lt_succ_of_le hfits.indices)
    have hleft : "║ indices (".length = 11 := rfl
    have hright : "):                                   ║".length = 38 := by decide
    rw [String.length_append, String.length_append, length_padLeft, hleft, hright]
    omega
  simp only [headLines, List.map_cons, List.map_nil, length_rule, htitle, hcount]
  rw [length_labelled rfl (length_toString_le hrange.nodeCount),
    length_labelled rfl (length_toString_le hrange.totalMessages),
    length_labelled rfl hfits.totalBytes, length_labelled rfl hfits.writeAlias,
    length_labelled rfl htarget, length_labelled rfl hfits.recentIndex, length_labelled rfl hdocs]
  rfl

/-- The line of a rotated index takes one character more than the box is wide. -/
theorem length_indexLine (hfits : report.Fits) {index : IndexStats} (h : index ∈ report.indices) :
    (report.indexLine index).length = 53 := by
  have hmarker : (if report.target = some index.name then "*" else " ").length = 1 := by
    split <;> rfl
  have hleft : "║ ".length = 2 := rfl
  have hright : " ║".length = 2 := rfl
  have hblank : " ".length = 1 := rfl
  have hunit : " docs ".length = 6 := rfl
  have hname := hfits.name index h
  have hdocs := hfits.docs index h
  have hsize := hfits.size index h
  simp only [indexLine, String.length_append, length_padLeft, length_padRight, hmarker, hleft,
    hright, hblank, hunit]
  omega

/-- **The widths of the lines**: 13 lines of 52 characters, 53 for each rotated index, and 52 for
the last line. -/
theorem length_lines (hrange : report.InRange) (hfits : report.Fits) :
    report.lines.map String.length =
      List.replicate 13 52 ++ List.replicate report.indices.length 53 ++ [52] := by
  have hrows : (report.indices.map report.indexLine).map String.length =
      List.replicate report.indices.length 53 := by
    refine List.eq_replicate_iff.mpr ⟨by simp only [List.length_map], fun width hwidth => ?_⟩
    obtain ⟨line, hline, rfl⟩ := List.mem_map.mp hwidth
    obtain ⟨index, hindex, rfl⟩ := List.mem_map.mp hline
    exact length_indexLine hfits hindex
  rw [lines, List.map_append, List.map_append, length_headLines hrange hfits, hrows, List.map_cons,
    length_rule, List.map_nil]

/-! ## The stars -/

/-- There is a star in front of the content of the line. -/
def isMarked (line : String) : Bool := line.toList[2]? == some '*'

theorem isMarked_rule {fill : Char} (left right : Char) (h : fill ≠ '*') :
    isMarked (rule left fill right) = false := by
  simp [isMarked, rule, h]

theorem isMarked_labelled {label : String} (value : String)
    (h : label.toList.head?.any (· != '*') = true) : isMarked (labelled label value) = false := by
  obtain ⟨first, hfirst, hstar⟩ := (Option.any_eq_true _ _).mp h
  obtain ⟨rest, hlabel⟩ := List.head?_eq_some_iff.mp hfirst
  simpa [isMarked, labelled, hlabel] using hstar

theorem isMarked_headLines (report : Report) :
    report.headLines.map isMarked = List.replicate 13 false := by
  have htitle : isMarked "║           idx-deflector Cluster Report           ║" = false := by decide
  have hcount : isMarked ("║ indices (" ++ padLeft 3 (toString report.indices.length) ++
      "):                                   ║") = false := by simp [isMarked]
  simp (disch := decide) only [headLines, List.map_cons, List.map_nil, isMarked_rule,
    isMarked_labelled, htitle, hcount]
  rfl

theorem isMarked_indexLine (report : Report) (index : IndexStats) :
    isMarked (report.indexLine index) = decide (report.target = some index.name) := by
  simp only [isMarked, indexLine, String.toList_append]
  split <;> simp [*]

/-- **The stars** stand at the rotated indices that the alias leads to, and nowhere else. -/
theorem isMarked_lines (report : Report) :
    report.lines.map isMarked =
      List.replicate 13 false ++
        report.indices.map (fun index => decide (report.target = some index.name)) ++ [false] := by
  have hrows : (report.indices.map report.indexLine).map isMarked =
      report.indices.map fun index => decide (report.target = some index.name) := by
    rw [List.map_map]
    exact List.map_congr_left fun index _ => isMarked_indexLine report index
  have hbottom : isMarked (rule '╚' '═' '╝') = false := isMarked_rule _ _ (by decide)
  rw [lines, List.map_append, List.map_append, isMarked_headLines, hrows, List.map_cons, hbottom,
    List.map_nil]

/-! ## The text -/

theorem lineFeed_notMem_rule {left fill right : Char} (hleft : left ≠ '\n') (hfill : fill ≠ '\n')
    (hright : right ≠ '\n') : '\n' ∉ (rule left fill right).toList := by
  simp [rule, hleft.symm, hfill.symm, hright.symm]

theorem lineFeed_mem_labelled_iff {label : String} (value : String) (h : '\n' ∉ label.toList) :
    '\n' ∈ (labelled label value).toList ↔ '\n' ∈ value.toList := by
  simp [labelled, h]

theorem lineFeed_notMem_headLines_iff (report : Report) :
    (∀ line ∈ report.headLines, '\n' ∉ line.toList) ↔ '\n' ∉ report.writeAlias.toList ∧
      '\n' ∉ (report.target.getD "<unbound>").toList ∧ '\n' ∉ report.recentIndex.toList := by
  have hdocs : '\n' ∉ ((report.recentDocs.map toString).getD "<missing>").toList := by
    cases report.recentDocs with
    | none => decide
    | some docs => exact lineFeed_notMem_toString docs
  have htitle : '\n' ∉ "║           idx-deflector Cluster Report           ║".toList := by decide
  have hcount : '\n' ∉ ("║ indices (" ++ padLeft 3 (toString report.indices.length) ++
      "):                                   ║").toList := by simp [lineFeed_notMem_toDigits]
  simp (disch := decide) only [headLines, List.forall_mem_cons, lineFeed_notMem_rule,
    lineFeed_mem_labelled_iff, lineFeed_notMem_toString, lineFeed_notMem_humanSize, htitle, hcount,
    hdocs]
  simp

theorem lineFeed_mem_indexLine_iff (report : Report) (index : IndexStats) :
    '\n' ∈ (report.indexLine index).toList ↔ '\n' ∈ index.name.toList := by
  have hmarker : '\n' ∉ (if report.target = some index.name then "*" else " ").toList := by
    split <;> decide
  simp [indexLine, hmarker, lineFeed_notMem_toDigits, lineFeed_notMem_humanSize]

/-- The lines of a report hold no line feed exactly if no name does. -/
theorem lineFeed_notMem_lines_iff (report : Report) :
    (∀ line ∈ report.lines, '\n' ∉ line.toList) ↔ report.OneLined := by
  have htarget : '\n' ∉ (report.target.getD "<unbound>").toList ↔
      ∀ name ∈ report.target.toList, '\n' ∉ name.toList := by
    cases report.target <;> simp
  have hbottom : '\n' ∉ (rule '╚' '═' '╝').toList :=
    lineFeed_notMem_rule (by decide) (by decide) (by decide)
  calc (∀ line ∈ report.lines, '\n' ∉ line.toList)
      ↔ (∀ line ∈ report.headLines, '\n' ∉ line.toList) ∧
          ∀ index ∈ report.indices, '\n' ∉ (report.indexLine index).toList := by
        rw [lines, List.forall_mem_append, List.forall_mem_append, List.forall_mem_singleton,
          List.forall_mem_map, and_iff_left hbottom]
    _ ↔ report.OneLined := by
        simp only [lineFeed_notMem_headLines_iff, htarget, lineFeed_mem_indexLine_iff, OneLined,
          names, List.forall_mem_append, List.forall_mem_cons, List.forall_mem_map, and_assoc]

/-- The lines of the text are those of the lines it is put together from. -/
theorem textLines_text (report : Report) :
    textLines report.text = report.lines.flatMap fun line => line.toList.splitOn '\n' := by
  have htext : report.text.toList = report.lines.flatMap fun line => line.toList ++ ['\n'] := by
    simp [text, List.flatMap_map]
  rw [textLines, htext, splitOn_flatMap, List.dropLast_concat]

/-- Without line feeds in the names they are the lines themselves. -/
theorem textLines_text_of_oneLined (h : report.OneLined) :
    textLines report.text = report.lines.map String.toList := by
  have hplain := (lineFeed_notMem_lines_iff report).mpr h
  rw [textLines_text, List.flatMap_congr fun line hline => List.splitOn_eq_singleton
    (hplain line hline), ← List.map_eq_flatMap]

/-- The first line is 52 characters long, and so are all others of a rectangle. -/
theorem isRectangle_text_iff_lines (hshort : ∀ line ∈ report.lines, line.length ≤ 104) :
    IsRectangle report.text ↔ report.OneLined ∧ ∀ line ∈ report.lines, line.length = 52 := by
  have hpieces : ∀ line ∈ report.lines,
      ((∀ piece ∈ line.toList.splitOn '\n', piece.length = 52) ↔
        '\n' ∉ line.toList ∧ line.length = 52) := fun line hline =>
    forall_splitOn_iff (hshort line hline)
  have hwidth : IsRectangle report.text ↔ ∀ line ∈ textLines report.text, line.length = 52 := by
    refine ⟨?_, fun h => ⟨52, h⟩⟩
    rintro ⟨width, h⟩
    have hfirst : (rule '╔' '═' '╗').toList ∈ textLines report.text := by
      have hplain : '\n' ∉ (rule '╔' '═' '╗').toList :=
        lineFeed_notMem_rule (by decide) (by decide) (by decide)
      have hmem : rule '╔' '═' '╗' ∈ report.lines :=
        List.mem_append_left _ (List.mem_append_left _ List.mem_cons_self)
      rw [textLines_text]
      refine List.mem_flatMap.mpr ⟨_, hmem, ?_⟩
      rw [List.splitOn_eq_singleton hplain]
      exact List.mem_singleton_self _
    have hwidth := h _ hfirst
    rw [String.length_toList, length_rule] at hwidth
    rwa [← hwidth] at h
  calc IsRectangle report.text
      ↔ ∀ line ∈ report.lines, ∀ piece ∈ line.toList.splitOn '\n', piece.length = 52 := by
        rw [hwidth, textLines_text, List.forall_mem_flatMap]
    _ ↔ ∀ line ∈ report.lines, '\n' ∉ line.toList ∧ line.length = 52 := forall₂_congr hpieces
    _ ↔ report.OneLined ∧ ∀ line ∈ report.lines, line.length = 52 := by
        rw [← lineFeed_notMem_lines_iff, ← forall₂_and]

/-- The text is a rectangle exactly if there is no rotated index and no name holds a line feed. -/
theorem isRectangle_text_iff_of_fits (hrange : report.InRange) (hfits : report.Fits) :
    IsRectangle report.text ↔ report.indices = [] ∧ report.OneLined := by
  have hlength : ∀ p : Nat → Prop, p 52 →
      ((∀ line ∈ report.lines, p line.length) ↔ (report.indices ≠ [] → p 53)) := fun p hp => by
    rw [← List.forall_mem_map, length_lines hrange hfits, List.forall_mem_append,
      List.forall_mem_append, List.forall_mem_singleton, List.forall_mem_replicate,
      List.forall_mem_replicate]
    simp [hp, imp_iff_not_or]
  have hshort : ∀ line ∈ report.lines, line.length ≤ 104 :=
    (hlength (· ≤ 104) (by decide)).mpr fun _ => by decide
  rw [isRectangle_text_iff_lines hshort, hlength (· = 52) rfl, and_comm]
  simp

/-- **When the text of a report is a rectangle**, how wide its lines are, and which of them have a
star. -/
theorem isRectangle_text_iff (hrange : report.InRange) (hfits : report.Fits) :
    (IsRectangle report.text ↔ report.indices = [] ∧ report.OneLined) ∧
      (report.OneLined → textLines report.text = report.lines.map String.toList) ∧
      report.lines.map String.length =
        List.replicate 13 52 ++ List.replicate report.indices.length 53 ++ [52] ∧
      report.lines.map isMarked =
        List.replicate 13 false ++
          report.indices.map (fun index => decide (report.target = some index.name)) ++ [false] :=
  ⟨isRectangle_text_iff_of_fits hrange hfits, textLines_text_of_oneLined,
    length_lines hrange hfits, isMarked_lines report⟩

/-- The report of a deployment after its second rotation. -/
def rotatedTwice : Report where
  nodeCount := 1
  writeAlias := "logs_deflector"
  target := some "logs_1"
  recentIndex := "logs_recent"
  recentDocs := some 0
  totalMessages := 0
  totalBytes := 0
  totalMegabytes := 0
  indices := [⟨"logs_0", 0, 0, 0⟩, ⟨"logs_1", 0, 0, 1⟩]

theorem inRange_rotatedTwice : rotatedTwice.InRange where
  nodeCount := by decide
  totalMessages := by decide
  recentDocs := by
    rintro docs ⟨⟩
    decide

theorem fits_rotatedTwice : rotatedTwice.Fits where
  writeAlias := by decide
  target := by
    rintro name ⟨⟩
    decide
  recentIndex := by decide
  totalBytes := by decide
  indices := by decide
  name := by decide
  docs := by decide
  size := by decide

/-- After the second rotation the last line but one has a star, and it is one of the two that stand
out of the box. -/
theorem isRectangle_text_iff_rotatedTwice :
    rotatedTwice.InRange ∧ rotatedTwice.Fits ∧
      (IsRectangle rotatedTwice.text ↔ rotatedTwice.indices = [] ∧ rotatedTwice.OneLined) ∧
      (rotatedTwice.OneLined →
        textLines rotatedTwice.text = rotatedTwice.lines.map String.toList) ∧
      rotatedTwice.lines.map String.length = List.replicate 13 52 ++ [53, 53] ++ [52] ∧
      rotatedTwice.lines.map isMarked = List.replicate 13 false ++ [false, true] ++ [false] :=
  ⟨inRange_rotatedTwice, fits_rotatedTwice,
    isRectangle_text_iff inRange_rotatedTwice fits_rotatedTwice⟩

/-- All values may fit and the text still be no rectangle: the line of a rotated index stands out by
one character. -/
theorem not_isRectangle_text :
    ¬ (∀ report : Report, report.InRange → report.Fits → IsRectangle report.text) ∧
      rotatedTwice.InRange ∧ rotatedTwice.Fits ∧ rotatedTwice.OneLined ∧
      rotatedTwice.lines.map String.length = List.replicate 13 52 ++ [53, 53, 52] := by
  refine ⟨fun h => ?_, inRange_rotatedTwice, fits_rotatedTwice, by decide,
    length_lines inRange_rotatedTwice fits_rotatedTwice⟩
  have hrectangle := h rotatedTwice inRange_rotatedTwice fits_rotatedTwice
  rw [isRectangle_text_iff_of_fits inRange_rotatedTwice fits_rotatedTwice] at hrectangle
  cases hrectangle.1

end Report

end RollingIndex
