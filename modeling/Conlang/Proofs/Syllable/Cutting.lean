import Conlang.Proofs.Syllable.Building
import Conlang.Proofs.Syllable.Lengths

/-! Cutting finds syllables where there are any.

A word is cut from its front with a table of answers for all that can be left of it. `cut_of_solve`
and `exists_solve` say that an answer in the table is a row of syllables, and that no answer means
that there is no such row; `syllabify_iff_decomposes` says it of a whole word and of the additions
that built the grammar. -/
namespace Conlang.SyllableGrammar
open SyllableTemplate

variable (g : SyllableGrammar)

/-- What a grammar takes for a syllable. -/
structure Accepts (part : List Char) : Prop where
  nonempty : part ≠ []
  fits : ∃ t ∈ g.templates, ElementsFit g.Stands t.elements part
  legal : ∀ cluster ∈ g.clusters, ¬ cluster.toList <:+: part

/-- A text and its syllables. -/
inductive Cut : List Char → List String → Prop where
  | done : Cut [] []
  | syllable {part rest list} : g.Accepts part → Cut rest list →
    Cut (part ++ rest) (.ofList part :: list)

/-- The answer of the table for a text. -/
def solve (s : List Char) : Option (List String) := (g.solutions s).head?.join

/-! ### The table -/

theorem occursIn_iff {sought s : List Char} : Text.occursIn sought s = true ↔ sought <:+: s := by
  induction s with
  | nil => rw [Text.occursIn, List.isEmpty_iff, List.infix_nil]
  | cons c s ih =>
    rw [Text.occursIn, Bool.or_eq_true, List.isPrefixOf_iff_prefix, ih, List.infix_cons_iff]

theorem isLegal_iff {part : List Char} :
    g.isLegal part = true ↔ ∀ cluster ∈ g.clusters, ¬ cluster.toList <:+: part := by
  simp only [isLegal, Bool.not_eq_true', List.any_eq_false, occursIn_iff, Std.ExtTreeSet.mem_toList]

/-- The table answers for every rest of a text. -/
theorem solutions_getElem? (s : List Char) {i : Nat} (h : i ≤ s.length) :
    (g.solutions s)[i]? = some (g.solve (s.drop i)) := by
  induction s generalizing i with
  | nil =>
    obtain rfl : i = 0 := Nat.le_zero.mp h
    rfl
  | cons c s ih =>
    cases i with
    | zero => rfl
    | succ i => exact ih (Nat.le_of_succ_le_succ h)

theorem cutAt_front {part rest s : List Char} {c : Char} (h : part ++ rest = c :: s)
    (nonempty : part ≠ []) :
    g.cutAt (c :: s) (g.solutions s) part.length =
      if g.isLegal part then (g.solve rest).map (.ofList part :: ·) else none := by
  cases part with
  | nil => exact absurd rfl nonempty
  | cons d part =>
    rw [List.cons_append, List.cons.injEq] at h
    obtain ⟨rfl, rfl⟩ := h
    have answer : (g.solutions (part ++ rest))[part.length]? = some (g.solve rest) := by
      rw [g.solutions_getElem? (part ++ rest) (by simp), List.drop_left]
    have front : (d :: (part ++ rest)).take (d :: part).length = d :: part := List.take_left
    rw [cutAt, front]
    show (if g.isLegal (d :: part)
      then ((g.solutions (part ++ rest))[part.length]?.join).map _ else none) = _
    rw [answer]
    rfl

/-- Every answer is a row of syllables. -/
theorem cut_of_solve {s : List Char} {list : List String} (h : g.solve s = some list) :
    g.Cut s list := by
  -- A syllable takes any number of characters, so the text gets shorter by more than its first one.
  induction size : s.length using Nat.strongRecOn generalizing s list with
  | _ length ih =>
    cases s with
    | nil =>
      obtain rfl : [] = list := Option.some.inj h
      exact .done
    | cons c s =>
      obtain ⟨n, listed, found⟩ := List.exists_of_findSome?_eq_some h
      obtain ⟨part, ⟨rest, front⟩, rfl, nonempty, fits⟩ := (g.lists_candidates (c :: s) n).mp listed
      rw [g.cutAt_front front nonempty] at found
      by_cases legal : g.isLegal part
      · rw [if_pos legal, Option.map_eq_some_iff] at found
        obtain ⟨tail, answer, rfl⟩ := found
        have shorter : rest.length < length := by
          have positive := List.length_pos_iff.mpr nonempty
          have whole := congrArg List.length front
          rw [List.length_append] at whole
          omega
        rw [← front]
        exact .syllable ⟨nonempty, fits, g.isLegal_iff.mp legal⟩ (ih _ shorter answer rfl)
      · rw [if_neg legal] at found
        cases found

/-- A row of syllables is never missed, though the answer may be another row. -/
theorem exists_solve {s : List Char} {list : List String} (h : g.Cut s list) :
    (g.solve s).isSome := by
  induction h with
  | done => rfl
  | @syllable part rest list accepts _ ih =>
    obtain ⟨c, s, front⟩ : ∃ c s, part ++ rest = c :: s :=
      List.exists_cons_of_ne_nil (List.append_ne_nil_of_left_ne_nil accepts.nonempty rest)
    have listed : part.length ∈ g.candidateLengths (c :: s) :=
      (g.lists_candidates (c :: s) _).mpr ⟨part, ⟨rest, front⟩, rfl, accepts.nonempty, accepts.fits⟩
    rw [front]
    refine List.findSome?_isSome_iff.mpr ⟨part.length, listed, ?_⟩
    rw [g.cutAt_front front accepts.nonempty, if_pos (g.isLegal_iff.mpr accepts.legal),
      Option.isSome_map]
    exact ih

theorem isSome_split (word separator : String) :
    (g.split word separator).isSome ↔ ∃ list, g.Cut word.toList list := by
  rw [split, Option.isSome_map]
  constructor
  · intro h
    obtain ⟨list, found⟩ := Option.isSome_iff_exists.mp h
    exact ⟨list, g.cut_of_solve found⟩
  · intro h
    obtain ⟨list, cut⟩ := h
    exact g.exists_solve cut

theorem cut_iff {s : List Char} {list : List String} :
    g.Cut s list ↔ list.flatMap String.toList = s ∧
    ∀ syllable ∈ list, g.Accepts syllable.toList := by
  constructor
  · intro h
    induction h with
    | done => exact ⟨rfl, by simp⟩
    | syllable accepts _ ih =>
      refine ⟨by rw [List.flatMap_cons, String.toList_ofList, ih.1], fun syllable h => ?_⟩
      rcases List.mem_cons.mp h with rfl | h
      · rwa [String.toList_ofList]
      · exact ih.2 syllable h
  · intro h
    obtain ⟨rfl, accepted⟩ := h
    induction list with
    | nil => exact .done
    | cons syllable list ih =>
      have rest := ih fun other h => accepted other (List.mem_cons_of_mem _ h)
      have first := Cut.syllable (accepted syllable List.mem_cons_self) rest
      rwa [String.ofList_toList] at first

/-! ### Grammars that were built -/

section
variable {g} {adds : List Addition}

theorem Built.stands_eq (h : Built adds g) : g.Stands = SlotFits adds := by
  funext slot part
  rw [Stands, eq_iff_iff]
  cases found : g.categories[slot]? with
  | some members =>
    constructor
    · intro member
      have fits := SlotFits.member ((h.members slot members found _).mp member)
      rwa [String.toList_ofList] at fits
    · intro fits
      cases fits with
      | member isMember =>
        rw [String.ofList_toList]
        exact (h.members slot members found _).mpr isMember
      | itself undeclared =>
        rw [(h.declared slot).mpr undeclared] at found
        cases found
  | none =>
    have undeclared := (h.declared slot).mp found
    constructor
    · intro same
      subst same
      exact .itself undeclared
    · intro fits
      cases fits with
      | member isMember =>
        obtain ⟨_, members, added, _⟩ := isMember
        exact absurd ⟨members, added⟩ undeclared
      | itself => rfl

theorem Built.accepts_iff (h : Built adds g) {syllable : String} :
    g.Accepts syllable.toList ↔ IsSyllable adds syllable := by
  have nonempty : syllable.toList ≠ [] ↔ syllable ≠ "" := not_congr String.toList_eq_nil_iff
  constructor
  · intro accepts
    obtain ⟨ne, ⟨t, offered, fits⟩, legal⟩ := accepts
    obtain ⟨source, added, parsed⟩ := (h.templates t).mp offered
    rw [h.stands_eq] at fits
    exact ⟨nonempty.mp ne, ⟨source, added, (fits_iff_parse ne).mpr ⟨t, parsed, fits⟩⟩,
      fun cluster forbidden => legal cluster ((h.clusters cluster).mpr forbidden)⟩
  · intro isSyllable
    obtain ⟨ne, ⟨source, added, fits⟩, legal⟩ := isSyllable
    obtain ⟨t, parsed, fits⟩ := (fits_iff_parse (nonempty.mpr ne)).mp fits
    refine ⟨nonempty.mpr ne, ⟨t, (h.templates t).mpr ⟨source, added, parsed⟩, ?_⟩,
      fun cluster listed => legal cluster ((h.clusters cluster).mp listed)⟩
    rwa [h.stands_eq]

theorem Built.cut_iff_decomposes (h : Built adds g) {word : String} {list : List String} :
    g.Cut word.toList list ↔ Decomposes adds list word := by
  have joined : list.flatMap String.toList = word.toList ↔ String.join list = word := by
    rw [← String.toList_join, String.toList_inj]
  rw [cut_iff, joined]
  constructor
  · intro cut
    obtain ⟨whole, accepted⟩ := cut
    exact ⟨whole, fun syllable listed => h.accepts_iff.mp (accepted syllable listed)⟩
  · intro decomposes
    obtain ⟨whole, syllables⟩ := decomposes
    exact ⟨whole, fun syllable listed => h.accepts_iff.mpr (syllables syllable listed)⟩

/-- Syllables end where characters of the word end. -/
theorem Decomposes.isValid_cut {word : String} {front back : List String}
    (h : Decomposes adds (front ++ back) word) :
    String.Pos.Raw.IsValid word ⟨(String.join front).utf8ByteSize⟩ := by
  rw [String.Pos.Raw.isValid_iff_exists_append]
  refine ⟨String.join front, String.join back, ?_, rfl⟩
  rw [← String.join_append, h.joined]

end

/-- **Cutting a word finds syllables just when it can be cut into any.** The grammar is what any row
of additions has built. What it answers with is a row of syllables that gives the word, with every
cut between two characters. -/
theorem syllabify_iff_decomposes (adds : List Addition) (word : String) :
    ((∃ list, (build adds).syllabify word = some list) ↔ ∃ list, Decomposes adds list word) ∧
      ∀ list, (build adds).syllabify word = some list →
        Decomposes adds list word ∧
          ∀ front back, list = front ++ back →
            String.Pos.Raw.IsValid word ⟨(String.join front).utf8ByteSize⟩ := by
  have built := built_build adds
  have sound : ∀ list, (build adds).syllabify word = some list → Decomposes adds list word :=
    fun list found => built.cut_iff_decomposes.mp ((build adds).cut_of_solve found)
  refine ⟨⟨?_, ?_⟩, fun list found => ⟨sound list found, ?_⟩⟩
  · intro h
    obtain ⟨list, found⟩ := h
    exact ⟨list, sound list found⟩
  · intro h
    obtain ⟨list, decomposes⟩ := h
    exact Option.isSome_iff_exists.mp ((build adds).exists_solve
      (built.cut_iff_decomposes.mpr decomposes))
  · intro front back h
    obtain rfl := h
    exact (sound _ found).isValid_cut

example :
    (build [.category 'C' ["t", "st"], .template "(C)a"]).syllabify "stata" =
      some ["sta", "ta"] := by
  decide

example :
    (build [.category 'C' ["t", "st"], .template "(C)a", .cluster "st"]).syllabify "stata" =
      none := by
  decide

end Conlang.SyllableGrammar
