import RollingIndex.Proofs.NameSpaces
import RollingIndex.Proofs.Runs

/-!
# How a name spells its number

A rotation writes the number of an index in decimal digits. Whoever reads the number of a name takes
more than that: zeros in front of the digits, and one `+` in front of all. So a number has one name
that a rotation gives and many more that are read as it:

* **a name has a number exactly if it spells it** behind the stem and the separator
  (`Naming.indexNumber?_iff_bears`);
* **the name that a rotation gives is the plain one of these**, without a `+` and without zeros that
  could be left out (`Naming.eq_indexName_iff`).

What counts as a rotated index is decided by the reader. So a sweep deletes and a purge empties any
index whose name spells a number (`Naming.indexNumber?_reads`), also one that no rotation has made
(`Naming.indexNumber?_reads_more`).
-/

namespace RollingIndex

/-! ## Digits -/

/-- A digit is the character of its value. -/
theorem digitChar_of_isDigit {c : Char} (h : c.isDigit = true) :
    Nat.digitChar (c.toNat - '0'.toNat) = c ∧ c.toNat - '0'.toNat < 10 := by
  have hrange : '0'.toNat ≤ c.toNat ∧ c.toNat ≤ '9'.toNat := by
    simpa [Char.isDigit, Char.le_def, UInt32.le_iff_toNat_le] using h
  have hten : c.toNat - '0'.toNat < 10 := by
    have h0 : '0'.toNat = 48 := rfl
    have h9 : '9'.toNat = 57 := rfl
    omega
  refine ⟨Char.toNat_inj.mp ?_, hten⟩
  rw [Nat.toNat_digitChar_of_lt_ten hten]
  have h0 : '0'.toNat = 48 := rfl
  omega

/-- Digits behind the digits of a number that is not zero are the digits of the number read on. -/
theorem toDigits_append {digits : List Char} (hdigits : ∀ c ∈ digits, c.isDigit = true) :
    ∀ {n : Nat}, 0 < n →
      Nat.toDigits 10 n ++ digits = Nat.toDigits 10 (Nat.ofDigitChars 10 digits n) := by
  induction digits with
  | nil => simp
  | cons c digits ih =>
    intro n hn
    obtain ⟨hchar, hten⟩ := digitChar_of_isDigit (hdigits c (List.mem_cons_self ..))
    have hstep : Nat.toDigits 10 n ++ [c] =
        Nat.toDigits 10 (10 * n + (c.toNat - '0'.toNat)) := by
      rw [← Nat.toDigits_append_toDigits (by decide) hn hten, Nat.toDigits_of_lt_base hten, hchar]
    rw [Nat.ofDigitChars_cons, List.append_cons, hstep]
    exact ih (fun d hd => hdigits d (List.mem_cons_of_mem _ hd)) (by omega)

/-- Digits are the digits of their number behind some zeros. -/
theorem eq_replicate_append_toDigits {digits : List Char} (hne : digits ≠ [])
    (hdigits : ∀ c ∈ digits, c.isDigit = true) :
    ∃ zeros, digits =
      List.replicate zeros '0' ++ Nat.toDigits 10 (Nat.ofDigitChars 10 digits 0) := by
  induction digits with
  | nil => exact absurd rfl hne
  | cons c digits ih =>
    have hrest : ∀ d ∈ digits, d.isDigit = true := fun d hd => hdigits d (List.mem_cons_of_mem _ hd)
    obtain ⟨hchar, hten⟩ := digitChar_of_isDigit (hdigits c (List.mem_cons_self ..))
    rw [Nat.ofDigitChars_cons, Nat.mul_zero, Nat.zero_add]
    by_cases hzero : c = '0'
    · subst hzero
      by_cases hlast : digits = []
      · subst hlast
        exact ⟨0, by decide⟩
      · obtain ⟨zeros, hzeros⟩ := ih hlast hrest
        exact ⟨zeros + 1, congrArg ('0' :: ·) hzeros⟩
    · have hpos : 0 < c.toNat - '0'.toNat := by
        refine Nat.pos_of_ne_zero fun hnull => hzero ?_
        rw [← hchar, hnull]
        rfl
      refine ⟨0, ?_⟩
      rw [← toDigits_append hrest hpos, Nat.toDigits_of_lt_base hten, hchar]
      rfl

/-- Only zero is written with a zero in front. -/
theorem eq_zero_of_head?_toDigits {n : Nat} (h : (Nat.toDigits 10 n).head? = some '0') : n = 0 := by
  induction n using Nat.strongRecOn with
  | ind n ih =>
    rw [Nat.toDigits_eq_if (by decide)] at h
    split at h
    · exact Nat.digitChar_eq_zero.mp (Option.some.inj h)
    · rename_i hten
      rw [List.head?_append_of_ne_nil _ Nat.toDigits_ne_nil] at h
      have hnull := ih (n / 10) (by omega) h
      omega

/-! ## Spellings of a number -/

/-- The text spells the number. -/
inductive Spells (n : Nat) : List Char → Prop where
  /-- by its digits, with any number of zeros in front -/
  | digits (zeros : Nat) : Spells n (List.replicate zeros '0' ++ Nat.toDigits 10 n)
  /-- by the same behind a `+` -/
  | signed (zeros : Nat) : Spells n ('+' :: (List.replicate zeros '0' ++ Nat.toDigits 10 n))

/-- There is nothing in the text that a number could be spelled without. -/
structure PlainNumber (text : List Char) : Prop where
  /-- there is no `+` in front -/
  unsigned : text.head? ≠ some '+'
  /-- there is no zero in front of a digit -/
  unpadded : text.head? = some '0' → text = ['0']

variable {n : Nat} {text : List Char}

theorem isDigit_replicate_append_toDigits (zeros n : Nat) :
    ∀ c ∈ List.replicate zeros '0' ++ Nat.toDigits 10 n, c.isDigit = true := by
  intro c hc
  rcases List.mem_append.mp hc with hc | hc
  · rw [List.eq_of_mem_replicate hc]
    rfl
  · exact Nat.isDigit_of_mem_toDigits (by decide) (by decide) hc

theorem readDigits?_eq_some_iff {digits : List Char} :
    readDigits? digits = some n ↔
      ∃ zeros, digits = List.replicate zeros '0' ++ Nat.toDigits 10 n := by
  have hvalue : digits.foldl (fun n d => n * 10 + (d.toNat - '0'.toNat)) 0 =
      Nat.ofDigitChars 10 digits 0 := by
    simp only [Nat.ofDigitChars_eq_foldl, Nat.mul_comm]
  constructor
  · intro h
    obtain ⟨hne, hdigits⟩ := readDigits?_eq_some h
    rw [readDigits?, if_pos ⟨hne, List.all_eq_true.mpr hdigits⟩, hvalue, Option.some_inj] at h
    exact h ▸ eq_replicate_append_toDigits hne hdigits
  · rintro ⟨zeros, rfl⟩
    have hdigits := isDigit_replicate_append_toDigits zeros n
    rw [readDigits?, if_pos ⟨by simp [Nat.toDigits_ne_nil], List.all_eq_true.mpr hdigits⟩, hvalue,
      Nat.ofDigitChars_append, Nat.ofDigitChars_replicate_zero, Nat.mul_zero,
      Nat.ofDigitChars_ten_toDigits]

/-- **A text is read as a number exactly if it spells it** and the number fits 64 bits. -/
theorem readNumber?_eq_some_iff :
    readNumber? text = some n ↔ n < powerOfTwo 64 ∧ Spells n text := by
  unfold readNumber?
  rw [Option.filter_eq_some_iff, fitsBits_iff, and_comm]
  refine and_congr_right fun _ => ?_
  split
  · rename_i rest
    rw [readDigits?_eq_some_iff]
    constructor
    · rintro ⟨zeros, rfl⟩
      exact .signed zeros
    · intro hspells
      generalize htext : '+' :: rest = text at hspells
      cases hspells with
      | digits zeros =>
        have hplus := isDigit_replicate_append_toDigits zeros n '+' (htext ▸ List.mem_cons_self ..)
        cases hplus
      | signed zeros => exact ⟨zeros, (List.cons.inj htext).2⟩
  · rename_i hunsigned
    rw [readDigits?_eq_some_iff]
    constructor
    · rintro ⟨zeros, rfl⟩
      exact .digits zeros
    · intro hspells
      cases hspells with
      | digits zeros => exact ⟨zeros, rfl⟩
      | signed zeros => exact absurd rfl (hunsigned _)

/-- Of all spellings of a number its digits are the plain one. -/
theorem Spells.plain_iff (h : Spells n text) : PlainNumber text ↔ text = Nat.toDigits 10 n := by
  constructor
  · rintro ⟨hunsigned, hunpadded⟩
    cases h with
    | digits zeros =>
      cases zeros with
      | zero => rfl
      | succ zeros =>
        have hlength := congrArg List.length (hunpadded rfl)
        have hpos := @Nat.length_toDigits_pos 10 n
        simp only [List.length_append, List.length_replicate, List.length_singleton] at hlength
        omega
    | signed zeros => exact absurd rfl hunsigned
  · rintro rfl
    refine ⟨fun hplus => ?_, fun hzero => ?_⟩
    · have hdigit : '+'.isDigit = true :=
        Nat.isDigit_of_mem_toDigits (b := 10) (n := n) (by decide) (by decide)
          (List.mem_of_mem_head? hplus)
      cases hdigit
    · rw [eq_zero_of_head?_toDigits hzero]
      rfl

/-! ## Names with a number -/

namespace Naming

variable {naming : Naming} {name other : String}

/-- The name is the stem, a separator and a text of some form. -/
def Bears (naming : Naming) (form : List Char → Prop) (name : String) : Prop :=
  ∃ text, form text ∧ name.toList = naming.stem.toList ++ '_' :: text

theorem bears_iff {form : List Char → Prop} (h : name.toList = naming.stem.toList ++ '_' :: text) :
    naming.Bears form name ↔ form text := by
  constructor
  · rintro ⟨text', hform, hname⟩
    rw [h, List.append_cancel_left_eq, List.cons.injEq] at hname
    exact hname.2 ▸ hform
  · exact fun hform => ⟨text, hform, h⟩

/-- **A name has a number exactly if it spells it.** -/
theorem indexNumber?_iff_bears :
    naming.indexNumber? name = some n ↔ n < powerOfTwo 64 ∧ naming.Bears (Spells n) name := by
  simp only [indexNumber?_eq_some_iff, readNumber?_eq_some_iff]
  constructor
  · rintro ⟨text, hname, hfits, hspells⟩
    exact ⟨hfits, text, hspells, hname⟩
  · rintro ⟨hfits, text, hspells, hname⟩
    exact ⟨text, hname, hfits, hspells⟩

/-- **The name that a rotation gives is the plain one.** -/
theorem eq_indexName_iff (hfits : n < powerOfTwo 64) :
    name = naming.indexName n ↔
      naming.indexNumber? name = some n ∧ naming.Bears PlainNumber name := by
  rw [← String.toList_inj, toList_indexName]
  constructor
  · intro hname
    have hspells : Spells n (Nat.toDigits 10 n) := .digits 0
    exact ⟨indexNumber?_iff_bears.mpr ⟨hfits, (bears_iff hname).mpr hspells⟩,
      (bears_iff hname).mpr (hspells.plain_iff.mpr rfl)⟩
  · rintro ⟨hnumber, hplain⟩
    obtain ⟨-, text, hspells, hname⟩ := indexNumber?_iff_bears.mp hnumber
    rw [hname, hspells.plain_iff.mp ((bears_iff hname).mp hplain)]

/-- A name counts as rotated exactly if it spells a number and is not that of the recent index. -/
theorem isRotated_iff_bears :
    naming.isRotated name = true ↔
      name ≠ naming.recentIndex ∧ ∃ n, n < powerOfTwo 64 ∧ naming.Bears (Spells n) name := by
  rw [isRotated, Bool.and_eq_true, bne_iff_ne, Option.isSome_iff_exists]
  simp only [indexNumber?_iff_bears]

end Naming

/-! ## What sweeps delete and purges empty -/

/-- An index that a sweep or a purge deletes or changes has a name that counts as rotated. -/
theorem Deployment.isRotated_of_changed (d : Deployment) {desk : Desk} {operation : Operation}
    {name : String} (hoperation : operation = .sweep ∨ ∃ upTo, operation = .purge upTo)
    (hchanged : (Effect.on (d.perform operation) desk).2.store.indices.get? name ≠
      desk.store.indices.get? name) : d.naming.isRotated name = true := by
  have htransition := d.perform_transition operation desk
  generalize (Effect.on (d.perform operation) desk).2.store = after at hchanged htransition
  generalize (Effect.on (d.perform operation) desk).1 = answer at htransition
  by_contra hrotated
  refine hchanged ?_
  rcases hoperation with rfl | ⟨upTo, rfl⟩
  · cases htransition with
    | kept => rfl
    | rotated _ _ _ hrotates => cases hrotates
    | created _ _ _ hcreates => rcases hcreates with h | h <;> cases h
    | swept report _ _ hdeleted =>
      rw [Store.get?_withoutIndices, if_neg fun hname => hrotated (hdeleted name hname).1]
  · cases htransition with
    | kept => rfl
    | rotated _ _ _ hrotates => cases hrotates
    | created _ _ _ hcreates => rcases hcreates with h | h <;> cases h
    | purged _ names _ hnames =>
      have hname : name ∉ names := fun hname =>
        hrotated (Naming.of_mem_rotatedNames hnames hname).1
      simp [Store.get?_afterPurge, hname]

namespace Naming

/-- **How numbers are read from names.** A name has a number exactly if the number fits 64 bits and
the name is the stem, a separator and a spelling of the number: its decimal digits, with any number
of zeros in front and perhaps a `+` before them. A name is the one that a rotation gives to a number
exactly if it has this number and is written plainly, without a `+` and without zeros that could be
left out; so no two plain names have one number. A name counts as rotated exactly if it spells some
number and is not that of the recent index, and whatever a sweep or a purge deletes or changes has
such a name. -/
theorem indexNumber?_reads (naming : Naming) :
    (∀ name n, naming.indexNumber? name = some n ↔
        n < powerOfTwo 64 ∧ naming.Bears (Spells n) name) ∧
      (∀ name n, n < powerOfTwo 64 → (name = naming.indexName n ↔
        naming.indexNumber? name = some n ∧ naming.Bears PlainNumber name)) ∧
      (∀ name other n, naming.indexNumber? name = some n → naming.indexNumber? other = some n →
        naming.Bears PlainNumber name → naming.Bears PlainNumber other → name = other) ∧
      (∀ name, naming.isRotated name = true ↔
        name ≠ naming.recentIndex ∧ ∃ n, n < powerOfTwo 64 ∧ naming.Bears (Spells n) name) ∧
      ∀ (d : Deployment) (desk : Desk) (operation : Operation) (name : String),
        d.naming = naming → operation = .sweep ∨ (∃ upTo, operation = .purge upTo) →
        (Effect.on (d.perform operation) desk).2.store.indices.get? name ≠
          desk.store.indices.get? name →
        name ≠ naming.recentIndex ∧ ∃ n, n < powerOfTwo 64 ∧ naming.Bears (Spells n) name := by
  refine ⟨fun name n => indexNumber?_iff_bears, fun name n => eq_indexName_iff,
    fun name other n hname hother hplain hplain' => ?_, fun name => isRotated_iff_bears, ?_⟩
  · have hfits := indexNumber?_lt hname
    rw [(eq_indexName_iff hfits).mpr ⟨hname, hplain⟩, (eq_indexName_iff hfits).mpr ⟨hother, hplain'⟩]
  · rintro d desk operation name rfl hoperation hchanged
    exact isRotated_iff_bears.mp (d.isRotated_of_changed hoperation hchanged)

/-- A deployment that keeps one index. -/
def keepingOne : Deployment := { Deployment.named "logs" "logs_recent" with maxIndices := 1 }

/-- The store of this deployment after its first rotation, and of another one whose recent index is
called like a rotated index of the first, but with zeros in front of the number. There is one
message in it. -/
def neighbours : Store :=
  ((Cluster.start [keepingOne, .named "other" "logs_007"]).run
    [.operation 1 .createRecentIndex,
      .operation 1 (.writeBatch [⟨"m", .object [("created_at", .int 5)]⟩]),
      .operation 0 .setup]).store

/-- The index of the other deployment is the older one, and one of the two is too many. -/
theorem sweep_neighbours :
    ∃ report after, Effect.on keepingOne.sweep { store := neighbours } = (.ok report, after) ∧
      report.deleted = ["logs_007"] := by
  have hcurrent : keepingOne.currentIndex neighbours = .ok "logs_8" := by decide +kernel
  obtain ⟨listed, hlisted⟩ : ∃ listed, keepingOne.naming.rotatedIndices neighbours = .ok listed :=
    ⟨_, rfl⟩
  have hpicked : keepingOne.picked listed = ["logs_007"] := by
    cases hlisted
    rw [Deployment.picked, oldestIndices, byAge_of_pairwise (by decide)]
    rfl
  obtain ⟨after, hswept, -⟩ := keepingOne.sweep_succeeds { store := neighbours } hcurrent hlisted
  refine ⟨_, after, hswept, ?_⟩
  rw [Deployment.sweepReport, hpicked]
  rfl

/-- More is read as a number than a rotation writes. An index called `logs_007`, which no rotation
makes, counts as rotated: the first rotation goes on to `logs_8`, a purge takes the message out of
it and a sweep deletes it. -/
theorem indexNumber?_reads_more :
    ¬ (∀ (naming : Naming) (name : String) (n : Nat), n < powerOfTwo 64 →
        (naming.indexNumber? name = some n ↔ name = naming.indexName n)) ∧
      (∀ n, keepingOne.naming.indexName n ≠ "logs_007") ∧
      (∀ name ∈ ["logs_7", "logs_007", "logs_+7"],
        keepingOne.naming.indexNumber? name = some 7) ∧
      neighbours.indices.keys = ["logs_007", "logs_8"] ∧
      (Effect.on (keepingOne.purge 10) { store := neighbours }).1 = .ok 1 ∧
      ∃ report after, Effect.on keepingOne.sweep { store := neighbours } = (.ok report, after) ∧
        report.deleted = ["logs_007"] := by
  refine ⟨fun h => ?_, fun n hname => ?_, by decide, rfl, rfl, sweep_neighbours⟩
  · have hname := (h ⟨"logs", "logs_recent"⟩ "logs_007" 7 (by decide)).mp (by decide)
    revert hname
    decide
  · have htext : "logs_007".toList = "logs_".toList ++ Nat.toDigits 10 n :=
      hname ▸ toList_indexName n
    have hdigits : "007".toList = Nat.toDigits 10 n :=
      List.append_cancel_left (show "logs_".toList ++ "007".toList = _ from htext)
    have hvalue : n = 7 := by
      rw [← @Nat.ofDigitChars_ten_toDigits n, ← hdigits]
      rfl
    subst hvalue
    cases hdigits

end Naming

end RollingIndex
