import Mathlib.Data.List.Forall2
import RegistryAuth.Glob
import RegistryAuth.Proofs.Text.Split

/-! # The language of a glob pattern

A name belongs to a pattern if it can be cut into consecutive blocks, one for
each part of the pattern, such that every part takes its block. Segments are cut
this way into characters, and names into segments. The matcher tries the cuts
one after another and succeeds exactly if there is one.
-/

namespace RegistryAuth.Glob

section Cuts

variable {α β : Type} {takes : α → List β → Prop} {part : α} {pattern tail : List α}
  {text : List β}

/-- The text falls into consecutive blocks, one that each part of the pattern takes. -/
def Cuts (takes : α → List β → Prop) (pattern : List α) (text : List β) : Prop :=
  ∃ blocks : List (List β), blocks.flatten = text ∧ List.Forall₂ takes pattern blocks

theorem cuts_nil_iff : Cuts takes [] text ↔ text = [] := by
  simp [Cuts, eq_comm]

theorem cuts_cons_iff :
    Cuts takes (part :: pattern) text ↔
      ∃ block rest, text = block ++ rest ∧ takes part block ∧ Cuts takes pattern rest := by
  constructor
  · rintro ⟨_, rfl, h⟩
    cases h with
    | cons ht hr => exact ⟨_, _, List.flatten_cons, ht, _, rfl, hr⟩
  · rintro ⟨block, _, rfl, ht, blocks, rfl, hr⟩
    exact ⟨block :: blocks, List.flatten_cons, .cons ht hr⟩

theorem cuts_append_iff :
    Cuts takes (pattern ++ tail) text ↔
      ∃ before after, text = before ++ after ∧ Cuts takes pattern before ∧
        Cuts takes tail after := by
  induction pattern generalizing text with
  | nil => simp [cuts_nil_iff]
  | cons part pattern ih =>
    simp only [List.cons_append, cuts_cons_iff, ih]
    constructor
    · rintro ⟨block, _, rfl, ht, before, after, rfl, hb, ha⟩
      exact ⟨block ++ before, after, by simp, ⟨block, before, rfl, ht, hb⟩, ha⟩
    · rintro ⟨_, after, rfl, ⟨block, before, rfl, ht, hb⟩, ha⟩
      exact ⟨block, before ++ after, by simp, ht, before, after, rfl, hb, ha⟩

theorem cuts_map {f : α → β} (h : ∀ part ∈ pattern, takes part [f part]) :
    Cuts takes pattern (pattern.map f) := by
  induction pattern with
  | nil => exact cuts_nil_iff.mpr rfl
  | cons part pattern ih =>
    exact cuts_cons_iff.mpr ⟨[f part], pattern.map f, rfl, h part List.mem_cons_self,
      ih fun other hm => h other (List.mem_cons_of_mem _ hm)⟩

/-- Parts that stand for themselves alone. -/
theorem cuts_iff_eq {takes : α → List α → Prop} {pattern text : List α}
    (h : ∀ part ∈ pattern, ∀ block, takes part block ↔ block = [part]) :
    Cuts takes pattern text ↔ text = pattern := by
  induction pattern generalizing text with
  | nil => exact cuts_nil_iff
  | cons part pattern ih =>
    simp [cuts_cons_iff, h part List.mem_cons_self,
      ih fun other hm => h other (List.mem_cons_of_mem _ hm)]

end Cuts

/-- A star stands for any text, every other character for itself. -/
def CharTakes (c : Char) (block : List Char) : Prop :=
  c = '*' ∨ block = [c]

/-- Two stars alone stand for any number of segments, every other segment for a single one. -/
def SegmentTakes (segment : List Char) (block : List (List Char)) : Prop :=
  segment = ['*', '*'] ∨ ∃ name, block = [name] ∧ Cuts CharTakes segment name

/-- The name is in the language of the pattern. -/
def Matches (pattern name : String) : Prop :=
  Cuts SegmentTakes (Text.splitOn '/' pattern.toList) (Text.splitOn '/' name.toList)

theorem cuts_charTakes_iff_eq {segment name : List Char} (h : '*' ∉ segment) :
    Cuts CharTakes segment name ↔ name = segment := by
  refine cuts_iff_eq fun c hc block => ?_
  have hn : c ≠ '*' := fun he => h (he ▸ hc)
  simp [CharTakes, hn]

/-- Without a star a list of segments stands for itself. -/
theorem cuts_segmentTakes_iff_eq {segments names : List (List Char)}
    (h : ∀ segment ∈ segments, '*' ∉ segment) :
    Cuts SegmentTakes segments names ↔ names = segments := by
  refine cuts_iff_eq fun segment hs block => ?_
  have hn : segment ≠ ['*', '*'] := by
    rintro rfl
    exact h _ hs List.mem_cons_self
  simp [SegmentTakes, hn, cuts_charTakes_iff_eq (h segment hs)]

theorem anySuffix_iff {α : Type} {p : List α → Bool} {text : List α} :
    anySuffix p text = true ↔ ∃ skipped rest, text = skipped ++ rest ∧ p rest = true := by
  induction text with
  | nil => simp [anySuffix]
  | cons a text ih =>
    simp only [anySuffix, Bool.or_eq_true, ih]
    constructor
    · rintro (h | ⟨skipped, rest, rfl, h⟩)
      · exact ⟨[], _, rfl, h⟩
      · exact ⟨a :: skipped, rest, rfl, h⟩
    · rintro ⟨skipped, rest, he, h⟩
      cases skipped with
      | nil => exact .inl (he ▸ h)
      | cons b skipped =>
        cases he
        exact .inr ⟨skipped, rest, rfl, h⟩

theorem matchesSegment_iff {pattern text : List Char} :
    matchesSegment pattern text = true ↔ Cuts CharTakes pattern text := by
  induction pattern generalizing text with
  | nil => simp [matchesSegment, cuts_nil_iff]
  | cons c pattern ih =>
    by_cases hc : c = '*'
    · subst hc
      simp [matchesSegment, anySuffix_iff, cuts_cons_iff, CharTakes, ih]
    · cases text with
      | nil => simp [matchesSegment, cuts_cons_iff, CharTakes, hc]
      | cons t text => simp [matchesSegment, cuts_cons_iff, CharTakes, hc, ih, eq_comm (a := c)]

theorem matchesSegments_iff {pattern names : List (List Char)} :
    matchesSegments pattern names = true ↔ Cuts SegmentTakes pattern names := by
  induction pattern generalizing names with
  | nil => simp [matchesSegments, cuts_nil_iff]
  | cons segment pattern ih =>
    by_cases hs : segment = ['*', '*']
    · simp [matchesSegments, anySuffix_iff, cuts_cons_iff, SegmentTakes, hs, ih]
    · cases names with
      | nil => simp [matchesSegments, cuts_cons_iff, SegmentTakes, hs]
      | cons name names =>
        simp [matchesSegments, matchesSegment_iff, cuts_cons_iff, SegmentTakes, hs, ih]

section Names

variable {pattern name : String}

theorem matchesName_iff : matchesName pattern name = true ↔ Matches pattern name :=
  matchesSegments_iff

theorem matches_iff_eq (h : '*' ∉ pattern.toList) : Matches pattern name ↔ name = pattern := by
  have hs : ∀ segment ∈ Text.splitOn '/' pattern.toList, '*' ∉ segment :=
    fun segment hm hc => h (Text.mem_of_mem_splitOn hm hc)
  rw [Matches, cuts_segmentTakes_iff_eq hs, Text.splitOn_inj, String.toList_inj]

/-- A segment other than two stars takes a single piece, and no piece has a slash. -/
theorem takesPiece_of_cut {blocks : List (List (List Char))}
    (hb : blocks.flatten = Text.splitOn '/' name.toList)
    (ht : List.Forall₂ SegmentTakes (Text.splitOn '/' pattern.toList) blocks)
    {segment : List Char} {block : List (List Char)}
    (hm : (segment, block) ∈ (Text.splitOn '/' pattern.toList).zip blocks)
    (hn : segment ≠ ['*', '*']) :
    ∃ piece, block = [piece] ∧ '/' ∉ piece ∧ Cuts CharTakes segment piece := by
  obtain hs | ⟨piece, rfl, hc⟩ := (List.forall₂_iff_zip.mp ht).2 hm
  · exact absurd hs hn
  · have hp : piece ∈ blocks.flatten :=
      List.mem_flatten.mpr ⟨[piece], (List.of_mem_zip hm).2, List.mem_cons_self⟩
    exact ⟨piece, rfl, Text.not_mem_of_mem_splitOn (hb ▸ hp), hc⟩

/-- A pattern matches the names whose segments fall into blocks that its own segments take. However
a name is cut, a star takes no slash. A pattern without stars matches itself alone. -/
theorem matchesName_decides_language (pattern name : String) :
    (matchesName pattern name = true ↔
      ∃ blocks, blocks.flatten = Text.splitOn '/' name.toList ∧
        List.Forall₂ SegmentTakes (Text.splitOn '/' pattern.toList) blocks) ∧
    (∀ blocks, blocks.flatten = Text.splitOn '/' name.toList →
      List.Forall₂ SegmentTakes (Text.splitOn '/' pattern.toList) blocks →
      ∀ segment block, (segment, block) ∈ (Text.splitOn '/' pattern.toList).zip blocks →
        segment ≠ ['*', '*'] →
          ∃ piece, block = [piece] ∧ '/' ∉ piece ∧ Cuts CharTakes segment piece) ∧
    ('*' ∉ pattern.toList → (matchesName pattern name = true ↔ name = pattern)) := by
  refine ⟨matchesName_iff, ?_, fun h => matchesName_iff.trans (matches_iff_eq h)⟩
  intro blocks hb ht segment block
  exact takesPiece_of_cut hb ht

/-- In one cut of a name of three segments, the segment with a star takes just one of them. Without
stars a longer name is not matched. -/
theorem star_takes_within_segment :
    matchesName "**/*é/a*" "team/café/app" = true ∧
    (∃ piece, [['c', 'a', 'f', 'é']] = [piece] ∧ '/' ∉ piece ∧ Cuts CharTakes ['*', 'é'] piece) ∧
    '*' ∉ "team/café".toList ∧ matchesName "team/café" "team/café/app" = false := by
  have hc : [[['t', 'e', 'a', 'm']], [['c', 'a', 'f', 'é']], [['a', 'p', 'p']]].flatten =
    Text.splitOn '/' "team/café/app".toList := by decide +kernel
  have hp : Text.splitOn '/' "**/*é/a*".toList = [['*', '*'], ['*', 'é'], ['a', '*']] := by
    decide +kernel
  have ht : List.Forall₂ SegmentTakes (Text.splitOn '/' "**/*é/a*".toList)
      [[['t', 'e', 'a', 'm']], [['c', 'a', 'f', 'é']], [['a', 'p', 'p']]] := by
    rw [hp]
    exact .cons (.inl rfl) (.cons (.inr ⟨_, rfl, matchesSegment_iff.mp (by decide)⟩)
      (.cons (.inr ⟨_, rfl, matchesSegment_iff.mp (by decide)⟩) .nil))
  have hs : '*' ∉ "team/café".toList := by decide +kernel
  obtain ⟨language, piece, -⟩ := matchesName_decides_language "**/*é/a*" "team/café/app"
  refine ⟨language.mpr ⟨_, hc, ht⟩, piece _ hc ht _ _ ?_ (by decide), hs, ?_⟩
  · rw [hp]
    exact .tail _ (.head _)
  · have literal := (matchesName_decides_language "team/café" "team/café/app").2.2 hs
    exact Bool.eq_false_iff.mpr (mt literal.mp (by decide +kernel))

end Names

end RegistryAuth.Glob
