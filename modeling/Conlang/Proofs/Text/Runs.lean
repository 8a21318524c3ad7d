import Conlang.Text.Blank
import Mathlib.Data.List.Chain
import Mathlib.Data.List.DropRight
import Mathlib.Data.List.SplitBy

/-! A text, its runs and its words.

`IsCutInto` says what the runs of a text are, and `runs` cuts a text so (`isCutInto_runs`). Its
words are what stands between blanks (`words_eq`), and a text that is cut where blanks meet other
characters falls into the runs of its parts (`charRuns_append`). -/
namespace Conlang.Text

/-- The runs give the text, none is empty, each is blank throughout or holds no blank, and the two
kinds take turns. -/
structure IsCutInto (s : String) (rs : List Run) : Prop where
  joined : String.join (rs.map (·.text)) = s
  nonempty : ∀ r ∈ rs, r.text ≠ ""
  uniform : ∀ r ∈ rs, ∀ c ∈ r.text.toList, isBlank c = r.blank
  alternate : rs.IsChain fun r t => r.blank ≠ t.blank

/-- What stands between blanks, where anything does. -/
def pieces (s : List Char) : List (List Char) := (s.splitOnP isBlank).filter (!·.isEmpty)

/-! ### Cutting -/

theorem isBlank_eq_of_isChain {c : Char} {rest : List Char}
    (h : (c :: rest).IsChain fun a b => (isBlank a == isBlank b) = true) :
    ∀ d ∈ rest, isBlank d = isBlank c := by
  induction rest generalizing c with
  | nil => simp
  | cons d rest ih =>
    obtain ⟨same, chain⟩ := List.isChain_cons_cons.mp h
    intro e he
    rcases List.mem_cons.mp he with rfl | he
    · exact (beq_iff_eq.mp same).symm
    · exact (ih chain e he).trans (beq_iff_eq.mp same).symm

theorem isBlank_eq_of_mem_charRuns {s run : List Char} (h : run ∈ charRuns s) :
    ∀ c ∈ run, isBlank c = run.head?.any isBlank := by
  have chain := List.isChain_of_mem_splitBy h
  cases run with
  | nil => simp
  | cons c rest =>
    intro d hd
    rcases List.mem_cons.mp hd with rfl | hd
    · rfl
    · exact isBlank_eq_of_isChain chain d hd

theorem charRuns_alternate (s : List Char) :
    (charRuns s).IsChain fun a b => a.head?.any isBlank ≠ b.head?.any isBlank := by
  have meet := List.isChain_getLast_head_splitBy (fun a b => isBlank a == isBlank b) s
  refine meet.imp_of_mem_imp fun a b ha hb differ => ?_
  obtain ⟨a_ne, b_ne, differ⟩ := differ
  rw [← isBlank_eq_of_mem_charRuns ha _ (List.getLast_mem a_ne),
    ← isBlank_eq_of_mem_charRuns hb _ (List.head_mem b_ne)]
  exact beq_eq_false_iff_ne.mp differ

theorem isCutInto_runs (s : String) : IsCutInto s (runs s) := by
  constructor
  · have texts : (runs s).map (·.text) = (charRuns s.toList).map .ofList := by
      rw [runs, List.map_map]
      rfl
    rw [← String.toList_inj, String.toList_join, texts, List.flatMap_map]
    simp [charRuns, List.flatMap_id']
  · intro r hr
    obtain ⟨run, hrun, rfl⟩ := List.mem_map.mp hr
    have ne : run ≠ [] := List.ne_nil_of_mem_splitBy hrun
    simpa [Run.ofChars] using ne
  · intro r hr c hc
    obtain ⟨run, hrun, rfl⟩ := List.mem_map.mp hr
    exact isBlank_eq_of_mem_charRuns hrun c (by simpa [Run.ofChars] using hc)
  · exact (List.isChain_map Run.ofChars).mpr (charRuns_alternate s.toList)

/-- Where a blank meets another character, runs end. -/
theorem charRuns_append {a b : List Char}
    (meet : ∀ x ∈ a.getLast?, ∀ y ∈ b.head?, isBlank x ≠ isBlank y) :
    charRuns (a ++ b) = charRuns a ++ charRuns b :=
  List.splitBy_append fun x hx y hy => beq_eq_false_iff_ne.mpr (meet x hx y hy)

theorem charRuns_of_blank {s : List Char} (nonempty : s ≠ []) (blank : ∀ c ∈ s, isBlank c = true) :
    charRuns s = [s] := by
  have same : s.Pairwise fun a b => (isBlank a == isBlank b) = true :=
    List.pairwise_of_forall_mem_list fun a ha b hb => by rw [blank a ha, blank b hb]; rfl
  exact List.splitBy_of_isChain nonempty same.isChain

/-- A text is one that does not end in a blank, and blanks. -/
theorem exists_blank_back (s : List Char) :
    ∃ a back, s = a ++ back ∧ (∀ x ∈ a.getLast?, isBlank x = false) ∧
    ∀ c ∈ back, isBlank c = true := by
  refine ⟨s.rdropWhile isBlank, s.rtakeWhile isBlank, List.rdropWhile_append_rtakeWhile.symm, ?_,
    fun c hc => List.mem_rtakeWhile_imp hc⟩
  intro x hx
  obtain ⟨ne, rfl⟩ := List.mem_getLast?_eq_getLast hx
  exact Bool.eq_false_iff.mpr (List.rdropWhile_last_not isBlank s ne)

/-- A text is blanks, and one that does not begin with a blank. -/
theorem exists_blank_front (s : List Char) :
    ∃ front b, s = front ++ b ∧ (∀ c ∈ front, isBlank c = true) ∧
      ∀ y ∈ b.head?, isBlank y = false := by
  refine ⟨s.takeWhile isBlank, s.dropWhile isBlank, List.takeWhile_append_dropWhile.symm,
    fun c hc => List.mem_takeWhile_imp hc, ?_⟩
  intro y hy
  have begun := List.head?_dropWhile_not isBlank s
  rw [Option.mem_def.mp hy] at begun
  simpa using begun

/-- Trimming leaves nothing of a text that is blank throughout, and something of any other. -/
theorem isEmpty_trim_iff (s : String) :
    (trim s).isEmpty = true ↔ ∀ c ∈ s.toList, isBlank c = true := by
  rw [String.isEmpty_iff, trim, trimChars, String.ofList_eq_empty_iff, List.reverse_eq_nil_iff,
    List.dropWhile_eq_nil_iff, ← List.dropWhile_eq_nil_iff (l := s.toList)]
  have begun := List.head?_dropWhile_not isBlank s.toList
  cases left : s.toList.dropWhile isBlank with
  | nil => simp
  | cons c rest =>
    rw [left] at begun
    refine iff_of_false (fun blank => ?_) (List.cons_ne_nil c rest)
    simp [blank c (by simp)] at begun

/-! ### Words -/

theorem pieces_append_cons {a b : List Char} {c : Char} (blank : isBlank c = true) :
    pieces (a ++ c :: b) = pieces a ++ pieces b := by
  rw [pieces, List.splitOnP_append_cons a b blank, List.filter_append]
  rfl

theorem pieces_cons_of_blank {b : List Char} {c : Char} (blank : isBlank c = true) :
    pieces (c :: b) = pieces b :=
  pieces_append_cons (a := []) blank

/-- Blanks in front do not count. -/
theorem pieces_append_of_blank {a b : List Char} (blank : ∀ c ∈ a, isBlank c = true) :
    pieces (a ++ b) = pieces b := by
  induction a with
  | nil => rfl
  | cons c a ih =>
    rw [List.cons_append, pieces_cons_of_blank (blank c List.mem_cons_self)]
    exact ih fun d hd => blank d (List.mem_cons_of_mem _ hd)

theorem pieces_word_append {a b : List Char} (nonempty : a ≠ []) (word : ∀ c ∈ a, isBlank c = false)
    (ended : ∀ c ∈ b.head?, isBlank c = true) : pieces (a ++ b) = a :: pieces b := by
  have alone : pieces a = [a] := by
    rw [pieces, List.splitOnP_eq_singleton word]
    simp [nonempty]
  cases b with
  | nil => rw [List.append_nil, alone]; rfl
  | cons c b =>
    have blank := ended c rfl
    rw [pieces_append_cons blank, pieces_cons_of_blank blank, alone]
    rfl

theorem pieces_flatten {rs : List (List Char)} (nonempty : ∀ r ∈ rs, r ≠ [])
    (uniform : ∀ r ∈ rs, ∀ c ∈ r, isBlank c = r.head?.any isBlank)
    (alternate : rs.IsChain fun a b => a.head?.any isBlank ≠ b.head?.any isBlank) :
    pieces rs.flatten = rs.filter (!·.head?.any isBlank) := by
  induction rs with
  | nil => rfl
  | cons r rest ih =>
    have rest_eq := ih (fun t ht => nonempty t (List.mem_cons_of_mem _ ht))
      (fun t ht => uniform t (List.mem_cons_of_mem _ ht)) alternate.tail
    have same := uniform r List.mem_cons_self
    rw [List.flatten_cons]
    cases kind : r.head?.any isBlank with
    | true =>
      rw [pieces_append_of_blank fun c hc => (same c hc).trans kind, rest_eq,
        List.filter_cons_of_neg (by simp [kind])]
    | false =>
      have ended : ∀ c ∈ rest.flatten.head?, isBlank c = true := by
        cases rest with
        | nil => simp
        | cons t more =>
          have differ := (List.isChain_cons_cons.mp alternate).1
          obtain ⟨d, t, rfl⟩ := List.exists_cons_of_ne_nil (nonempty t (by simp))
          intro c hc
          obtain rfl : d = c := Option.some.inj hc
          rw [kind] at differ
          simpa using differ.symm
      rw [pieces_word_append (nonempty r List.mem_cons_self) (fun c hc => (same c hc).trans kind)
        ended, rest_eq, List.filter_cons_of_pos (by simp [kind])]

/-- The words of a text are what stands between its blanks. -/
theorem words_eq (s : String) : words s = (pieces s.toList).map .ofList := by
  have cut : pieces s.toList = (charRuns s.toList).filter (!·.head?.any isBlank) := by
    conv => lhs; rw [← List.flatten_splitBy (fun a b => isBlank a == isBlank b) s.toList]
    exact pieces_flatten (fun _ => List.ne_nil_of_mem_splitBy) (fun _ => isBlank_eq_of_mem_charRuns)
      (charRuns_alternate s.toList)
  rw [cut, words, runs, List.filter_map, List.map_map]
  rfl

end Conlang.Text
