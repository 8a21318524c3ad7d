import Conlang.Proofs.Sound.Saying

/-! Saying with syllables and without.

The rules do not know whether words are composed of syllables (`transform_composing`). So a text is
said alike either way where every word has syllables, up to the marks that stand between them
(`sayRuns_marked`), and composing ends with the first word that has none (`sayRuns_stops`). -/
namespace Conlang.Phonology
open Text

/-- The same sounds, with words composed of syllables or left whole. -/
def composing (p : Phonology) (on : Bool) : Phonology := { p with composition := on }

/-! ### Marks -/

/-- A text without a mark that may stand in it. -/
def erase (mark : Char) (s : String) : String := .ofList (s.toList.filter (· ≠ mark))

theorem erase_append (mark : Char) (s t : String) :
    erase mark (s ++ t) = erase mark s ++ erase mark t := by
  rw [erase, String.toList_append, List.filter_append, String.ofList_append]
  rfl

theorem filter_intercalate (mark : Char) (parts : List (List Char)) :
    ([mark].intercalate parts).filter (· ≠ mark) = parts.flatten.filter (· ≠ mark) := by
  induction parts with
  | nil => rfl
  | cons s rest ih =>
    cases rest with
    | nil => simp
    | cons t rest =>
      rw [List.intercalate_cons_cons, List.filter_append, List.filter_append, ih, List.flatten_cons,
        List.filter_append]
      simp

/-- Syllables give the word again when the marks between them are erased. -/
theorem erase_of_split {g : SyllableGrammar} {mark : Char} {word value : String}
    (h : g.split word (.singleton mark) = some value) : erase mark value = erase mark word := by
  obtain ⟨list, found, rfl⟩ := Option.map_eq_some_iff.mp h
  have whole : (list.map String.toList).flatten = word.toList :=
    (g.cut_iff.mp (g.cut_of_solve found)).1
  rw [erase, erase, String.toList_intercalate, String.toList_singleton, filter_intercalate, whole]

/-! ### Without syllables -/

/-- The words among runs. -/
def runWords (rs : List Run) : List String := (rs.filter (!·.blank)).map (·.text)

theorem runWords_cons_of_blank {r : Run} (blank : r.blank = true) (rs : List Run) :
    runWords (r :: rs) = runWords rs := by
  simp [runWords, blank]

theorem runWords_cons_of_word {r : Run} (word : r.blank = false) (rs : List Run) :
    runWords (r :: rs) = r.text :: runWords rs := by
  simp [runWords, word]

section
variable (E : Pattern.Engine) (p : Phonology) (passes : Nat)

/-- What goes wrong in words while the rules change them. -/
def reports (ws : List String) : List Diagnostic :=
  ws.flatMap fun word => (p.transform E passes word).diagnostics

/-- A run with the rules applied to it, if it is a word. -/
def rewritten (r : Run) : String := if r.blank then r.text else (p.transform E passes r.text).value

theorem rescan_composing (on : Bool) (word : String) (left : Nat) (q : Progress) :
    (p.composing on).rescan E word passes left q = p.rescan E word passes left q := by
  induction left generalizing q with
  | zero => rfl
  | succ left ih =>
    rw [rescan, rescan, ih]
    rfl

theorem step_composing (on : Bool) (word : String) (q : Progress) (r : Substitution) (place : Nat) :
    (p.composing on).step E word passes q r place = p.step E word passes q r place := by
  rw [step, step, rescan_composing]
  rfl

theorem transform_composing (on : Bool) (word : String) :
    (p.composing on).transform E passes word = p.transform E passes word := by
  simp only [transform, step_composing]
  rfl

theorem sayRuns_plain (separator : String) (rs : List Run) :
    (p.composing false).sayRuns E passes separator rs =
      (some (String.join (rs.map (p.rewritten E passes))), p.reports E passes (runWords rs)) := by
  induction rs with
  | nil => rfl
  | cons r rs ih =>
    rw [sayRuns_cons, ih, List.map_cons, String.join_cons]
    cases kind : r.blank with
    | true =>
      rw [runWords_cons_of_blank kind]
      simp [sayRun, rewritten, kind, follow]
    | false =>
      have said : (p.composing false).sayWord E passes separator r.text =
          (some (p.transform E passes r.text).value,
          (p.transform E passes r.text).diagnostics) := by
        rw [sayWord, transform_composing]
        rfl
      rw [runWords_cons_of_word kind]
      simp [sayRun, rewritten, kind, follow, said, reports]

/-! ### With syllables -/

theorem sayWord_of_composes {word : String} (h : p.Composes E passes word) (separator : String) :
    ∃ value, p.syllables.split (p.transform E passes word).value separator = some value ∧
      (p.composing true).sayWord E passes separator word =
        (some value, (p.transform E passes word).diagnostics) := by
  obtain ⟨value, found⟩ :=
    Option.isSome_iff_exists.mp ((p.syllables.isSome_split _ separator).mpr h)
  refine ⟨value, found, ?_⟩
  rw [sayWord, transform_composing]
  simp [composing, found]

theorem sayWord_of_not_composes {word : String} (h : ¬ p.Composes E passes word)
    (separator : String) :
    (p.composing true).sayWord E passes separator word =
      (none, (p.transform E passes word).diagnostics
        ++ [.noSyllables word (p.transform E passes word).value]) := by
  have missing : p.syllables.split (p.transform E passes word).value separator = none :=
    Option.not_isSome_iff_eq_none.mp fun found =>
      h ((p.syllables.isSome_split _ separator).mp found)
  rw [sayWord, transform_composing]
  simp [composing, missing]

/-- Where all words have syllables, composing adds marks and nothing else. -/
theorem sayRuns_marked (mark : Char) (rs : List Run)
    (h : ∀ word ∈ runWords rs, p.Composes E passes word) :
    ∃ value, (p.composing true).sayRuns E passes (.singleton mark) rs =
        (some value, p.reports E passes (runWords rs)) ∧
      erase mark value = erase mark (String.join (rs.map (p.rewritten E passes))) := by
  induction rs with
  | nil => exact ⟨"", rfl, rfl⟩
  | cons r rs ih =>
    rw [sayRuns_cons, List.map_cons, String.join_cons]
    cases kind : r.blank with
    | true =>
      rw [runWords_cons_of_blank kind] at h ⊢
      obtain ⟨more, said, erased⟩ := ih h
      refine ⟨r.text ++ more, by simp [sayRun, kind, said, follow], ?_⟩
      rw [erase_append, erase_append, erased]
      simp [rewritten, kind]
    | false =>
      rw [runWords_cons_of_word kind] at h ⊢
      obtain ⟨first, rest⟩ := List.forall_mem_cons.mp h
      obtain ⟨more, said, erased⟩ := ih rest
      obtain ⟨value, found, saidWord⟩ := p.sayWord_of_composes E passes first (.singleton mark)
      refine ⟨value ++ more, by simp [sayRun, kind, saidWord, said, follow, reports], ?_⟩
      rw [erase_append, erase_append, erased, erase_of_split found]
      simp [rewritten, kind]

/-- What was said before a word without syllables is lost, and nothing after it is looked at. -/
theorem sayRuns_stops (separator : String) (rs : List Run) {earlier later : List String}
    {word : String} (cut : runWords rs = earlier ++ word :: later)
    (composes : ∀ w ∈ earlier, p.Composes E passes w) (fails : ¬ p.Composes E passes word) :
    (p.composing true).sayRuns E passes separator rs =
      (none, p.reports E passes (earlier ++ [word])
        ++ [.noSyllables word (p.transform E passes word).value]) := by
  -- Each word that is said is the first of those before the one that stops.
  induction rs generalizing earlier with
  | nil => simp [runWords] at cut
  | cons r rs ih =>
    rw [sayRuns_cons]
    cases kind : r.blank with
    | true =>
      rw [runWords_cons_of_blank kind] at cut
      rw [ih cut composes]
      simp [sayRun, kind, follow]
    | false =>
      rw [runWords_cons_of_word kind] at cut
      cases earlier with
      | nil =>
        obtain ⟨rfl, -⟩ := List.cons.inj cut
        simp [sayRun, kind, p.sayWord_of_not_composes E passes fails, follow, reports]
      | cons w earlier =>
        obtain ⟨rfl, cutRest⟩ := List.cons.inj cut
        obtain ⟨first, rest⟩ := List.forall_mem_cons.mp composes
        obtain ⟨value, -, said⟩ := p.sayWord_of_composes E passes first separator
        rw [ih cutRest rest]
        simp [sayRun, kind, said, follow, reports]

theorem exists_first_not {P : String → Prop} {ws : List String} (h : ¬ ∀ word ∈ ws, P word) :
    ∃ earlier word later, ws = earlier ++ word :: later ∧ (∀ w ∈ earlier, P w) ∧ ¬ P word := by
  classical
  have isFound : (ws.find? (¬ P ·)).isSome := by simpa using h
  obtain ⟨word, found⟩ := Option.isSome_iff_exists.mp isFound
  obtain ⟨fails, earlier, later, cut, before⟩ := List.find?_eq_some_iff_append.mp found
  exact ⟨earlier, word, later, cut, by simpa using before, by simpa using fails⟩

/-- **Composing fails closed, and otherwise only puts marks in.** Where what the rules make of every
word can be cut into syllables, the same goes wrong with and without syllables, and the same is said
but for the marks. Otherwise nothing is said, and what goes wrong is what goes wrong without
syllables up to the first word that can not be cut, and then that it can not. -/
theorem composing_fails_closed (mark : Char) (text : String) :
    let composed := (p.composing true).pronounce E passes (.singleton mark) text
    let plain := (p.composing false).pronounce E passes (.singleton mark) text
    plain.diagnostics = p.reports E passes (words text) ∧
      (p.ComposesAll E passes text →
        composed.diagnostics = plain.diagnostics ∧
        erase mark composed.value = erase mark plain.value) ∧
      (¬ p.ComposesAll E passes text → ∃ earlier word later, words text = earlier ++ word :: later ∧
        (∀ w ∈ earlier, p.Composes E passes w) ∧ ¬ p.Composes E passes word ∧
        composed = ⟨"", p.reports E passes (earlier ++ [word])
          ++ [.noSyllables word (p.transform E passes word).value]⟩) := by
  intro composed plain
  have plainSaid : plain =
      ⟨String.join ((runs text).map (p.rewritten E passes)), p.reports E passes (words text)⟩ := by
    show pronounce E (p.composing false) passes (.singleton mark) text = _
    rw [pronounce, sayRuns_plain]
    rfl
  rw [plainSaid]
  refine ⟨rfl, fun all => ?_, fun notAll => ?_⟩
  · obtain ⟨value, said, erased⟩ := p.sayRuns_marked E passes mark (runs text) all
    have composedSaid : composed = ⟨value, p.reports E passes (words text)⟩ := by
      show pronounce E (p.composing true) passes (.singleton mark) text = _
      rw [pronounce, said]
      rfl
    rw [composedSaid]
    exact ⟨rfl, erased⟩
  · obtain ⟨earlier, word, later, cut, composes, fails⟩ := exists_first_not notAll
    refine ⟨earlier, word, later, cut, composes, fails, ?_⟩
    show pronounce E (p.composing true) passes (.singleton mark) text = _
    rw [pronounce, p.sayRuns_stops E passes (.singleton mark) (runs text) cut composes fails]
    rfl

end

/-- "tata" is said with a mark more than without syllables; when "to" follows, nothing is said. -/
theorem composing_fails_closed_tata :
    let settings := Settings.standard
    let said (on : Bool) :=
      (eForA.composing on).pronounce settings.engine settings.passes settings.separator
    erase '˙' (said true "ta tata").value = erase '˙' (said false "ta tata").value ∧
      (said true "ta tata").value = "te te˙te" ∧ (said true "tata to ta").value = "" := by
  intro settings said
  have laws := composing_fails_closed settings.engine eForA settings.passes '˙'
  refine ⟨?_, by decide +kernel, ?_⟩
  · have composes :=
      (eForA.isSome_say settings.engine settings.passes "˙" "ta tata").mp (by decide +kernel)
    exact ((laws "ta tata").2.1 (composes.resolve_left (by decide))).2
  · have fails : ¬ eForA.ComposesAll settings.engine settings.passes "tata to ta" := by
      intro all
      have isSaid :=
        (eForA.isSome_say settings.engine settings.passes "˙" "tata to ta").mpr (.inr all)
      revert isSaid
      decide +kernel
    obtain ⟨earlier, word, later, -, -, -, stopped⟩ := (laws "tata to ta").2.2 fails
    exact congrArg Pronunciation.value stopped

end Conlang.Phonology
