import Conlang.Proofs.Syllable.Cutting
import Conlang.Proofs.Text.Runs
import Conlang.Report.Sound
import Conlang.Settings

/-! Saying a text word by word.

What is said for a row of runs is what is said for each of them, one after another
(`sayRuns_append`), up to the first word without syllables where words are composed of them
(`isSome_sayRuns`). Runs merge where blanks meet; since nothing is said about blanks, texts can
still be put together at any blanks between them (`pronounce_word_by_word`). -/
namespace Conlang.Phonology
open Text

section
variable (E : Pattern.Engine) (p : Phonology) (passes : Nat) (separator : String)

/-- What the rules make of a word can be cut into syllables. -/
def Composes (word : String) : Prop :=
  ∃ list, p.syllables.Cut (p.transform E passes word).value.toList list

/-- Every word of the text can be composed of syllables. -/
def ComposesAll (text : String) : Prop := ∀ word ∈ words text, p.Composes E passes word

/-- What is said for the runs of a text. -/
def say (s : List Char) : Option String × List Diagnostic :=
  p.sayRuns E passes separator ((charRuns s).map .ofChars)

end

/-- One thing said after another, unless the first can not be said. -/
def follow :
    Option String × List Diagnostic → Option String × List Diagnostic →
    Option String × List Diagnostic
  | (none, ds), _ => (none, ds)
  | (some value, ds), (more, ds') => (more.map (value ++ ·), ds ++ ds')

/-- Blanks are said as they are. -/
def asWritten (s : List Char) : Option String × List Diagnostic := (some (.ofList s), [])

/-! ### One after another -/

@[simp] theorem nil_follow (x : Option String × List Diagnostic) : follow (some "", []) x = x := by
  simp [follow]

theorem follow_assoc (x y z : Option String × List Diagnostic) :
    follow (follow x y) z = follow x (follow y z) := by
  obtain ⟨value, ds⟩ := x
  obtain ⟨value', ds'⟩ := y
  cases value with
  | none => rfl
  | some value =>
    cases value' with
    | none => rfl
    | some value' => simp [follow, Function.comp_def, String.append_assoc]

theorem isSome_follow (x y : Option String × List Diagnostic) :
    (follow x y).1.isSome ↔ x.1.isSome ∧ y.1.isSome := by
  obtain ⟨value, ds⟩ := x
  cases value <;> simp [follow]

theorem asWritten_append (s t : List Char) :
    asWritten (s ++ t) = follow (asWritten s) (asWritten t) := by
  simp [asWritten, follow, String.ofList_append]

section
variable (E : Pattern.Engine) (p : Phonology) (passes : Nat) (separator : String)

theorem sayRuns_cons (r : Run) (rest : List Run) :
    p.sayRuns E passes separator (r :: rest) =
      follow (p.sayRun E passes separator r) (p.sayRuns E passes separator rest) := by
  rw [sayRuns]
  obtain ⟨value, ds⟩ := p.sayRun E passes separator r
  cases value <;> rfl

theorem sayRuns_append (rs ts : List Run) :
    p.sayRuns E passes separator (rs ++ ts) =
      follow (p.sayRuns E passes separator rs) (p.sayRuns E passes separator ts) := by
  induction rs with
  | nil => exact (nil_follow _).symm
  | cons r rs ih => rw [List.cons_append, sayRuns_cons, sayRuns_cons, ih, follow_assoc]

/-! ### What can be said -/

theorem isSome_sayWord (word : String) :
    (p.sayWord E passes separator word).1.isSome ↔ p.composition = false ∨
    p.Composes E passes word := by
  rw [Composes, ← p.syllables.isSome_split _ separator, sayWord]
  cases p.composition with
  | false => simp
  | true =>
    cases p.syllables.split (p.transform E passes word).value separator <;> simp

theorem isSome_sayRun (r : Run) :
    (p.sayRun E passes separator r).1.isSome ↔
      p.composition = false ∨ (r.blank = false → p.Composes E passes r.text) := by
  rw [sayRun]
  cases r.blank with
  | false => simpa using p.isSome_sayWord E passes separator r.text
  | true => simp

theorem isSome_sayRuns (rs : List Run) :
    (p.sayRuns E passes separator rs).1.isSome ↔
      p.composition = false ∨ ∀ r ∈ rs, r.blank = false → p.Composes E passes r.text := by
  induction rs with
  | nil => simp [sayRuns]
  | cons r rs ih =>
    rw [sayRuns_cons, isSome_follow, isSome_sayRun, ih, ← or_and_left, List.forall_mem_cons]

theorem isSome_say (text : String) :
    (p.say E passes separator text.toList).1.isSome ↔
      p.composition = false ∨ p.ComposesAll E passes text := by
  have same : p.ComposesAll E passes text ↔
      ∀ r ∈ runs text, r.blank = false → p.Composes E passes r.text := by
    simp only [ComposesAll, words, List.forall_mem_map, List.mem_filter, and_imp, Bool.not_eq_true']
  rw [same]
  exact p.isSome_sayRuns E passes separator (runs text)

/-! ### Texts put together -/

theorem say_append {a b : List Char}
    (meet : ∀ x ∈ a.getLast?, ∀ y ∈ b.head?, isBlank x ≠ isBlank y) :
    p.say E passes separator (a ++ b) =
      follow (p.say E passes separator a) (p.say E passes separator b) := by
  rw [say, charRuns_append meet, List.map_append, sayRuns_append]
  rfl

theorem say_blank {s : List Char} (blank : ∀ c ∈ s, isBlank c = true) :
    p.say E passes separator s = asWritten s := by
  cases s with
  | nil => rfl
  | cons c rest =>
    have first : isBlank c = true := blank c List.mem_cons_self
    rw [say, charRuns_of_blank (by simp) blank]
    simp [sayRuns, sayRun, Run.ofChars, first, asWritten]

theorem say_append_blank {a w : List Char} (ended : ∀ x ∈ a.getLast?, isBlank x = false)
    (blank : ∀ c ∈ w, isBlank c = true) :
    p.say E passes separator (a ++ w) = follow (p.say E passes separator a) (asWritten w) := by
  rw [say_append, say_blank E p passes separator blank]
  intro x hx y hy
  rw [ended x hx, blank y (List.mem_of_mem_head? hy)]
  decide

theorem say_blank_append {w b : List Char} (blank : ∀ c ∈ w, isBlank c = true)
    (begun : ∀ y ∈ b.head?, isBlank y = false) :
    p.say E passes separator (w ++ b) = follow (asWritten w) (p.say E passes separator b) := by
  rw [say_append, say_blank E p passes separator blank]
  intro x hx y hy
  rw [blank x (List.mem_of_mem_getLast? hx), begun y hy]
  decide

/-- Texts may end and begin with blanks, which then make one run with the blanks between them. -/
theorem say_append_blank_append {w : List Char} (nonempty : w ≠ [])
    (blank : ∀ c ∈ w, isBlank c = true) (a b : List Char) :
    p.say E passes separator (a ++ w ++ b) =
      follow (p.say E passes separator a) (follow (asWritten w) (p.say E passes separator b)) := by
  obtain ⟨a, back, rfl, ended, backBlank⟩ := exists_blank_back a
  obtain ⟨front, b, rfl, frontBlank, begun⟩ := exists_blank_front b
  -- The blanks at the end of one text and at the start of the other make one run with those between
  -- them.
  have middle : ∀ c ∈ back ++ w ++ front, isBlank c = true := by
    simp only [List.mem_append]
    rintro c ((hc | hc) | hc)
    exacts [backBlank c hc, blank c hc, frontBlank c hc]
  have meet : ∀ x ∈ a.getLast?, ∀ y ∈ ((back ++ w ++ front) ++ b).head?, isBlank x ≠ isBlank y := by
    intro x hx y hy
    rw [List.head?_append_of_ne_nil _ (by simp [nonempty])] at hy
    rw [ended x hx, middle y (List.mem_of_mem_head? hy)]
    decide
  calc p.say E passes separator (a ++ back ++ w ++ (front ++ b))
    _ = p.say E passes separator (a ++ ((back ++ w ++ front) ++ b)) := by
        simp only [List.append_assoc]
    _ = follow (p.say E passes separator a)
          (follow (asWritten (back ++ w ++ front)) (p.say E passes separator b)) := by
        rw [say_append E p passes separator meet,
          say_blank_append E p passes separator middle begun]
    _ = follow (follow (p.say E passes separator a) (asWritten back))
          (follow (asWritten w) (follow (asWritten front) (p.say E passes separator b))) := by
        simp only [asWritten_append, follow_assoc]
    _ = _ := by
        rw [say_append_blank E p passes separator ended backBlank,
          say_blank_append E p passes separator frontBlank begun]

theorem pronounce_eq (text : String) :
    p.pronounce E passes separator text =
      ⟨(p.say E passes separator text.toList).1.getD "",
        (p.say E passes separator text.toList).2⟩ := rfl

theorem say_join {a w b : String} (nonempty : w ≠ "") (blank : ∀ c ∈ w.toList, isBlank c = true) :
    p.say E passes separator (a ++ w ++ b).toList =
      follow (p.say E passes separator a.toList)
        (follow (some w, []) (p.say E passes separator b.toList)) := by
  have ne : w.toList ≠ [] := fun h => nonempty (String.toList_eq_nil_iff.mp h)
  rw [String.toList_append, String.toList_append,
    p.say_append_blank_append E passes separator ne blank, asWritten, String.ofList_toList]

theorem pronounce_join {a w b : String} (nonempty : w ≠ "")
    (blank : ∀ c ∈ w.toList, isBlank c = true) (sayable : p.composition = false ∨
      p.ComposesAll E passes a ∧ p.ComposesAll E passes b) :
    p.pronounce E passes separator (a ++ w ++ b) =
      ⟨(p.pronounce E passes separator a).value ++ w ++ (p.pronounce E passes separator b).value,
        (p.pronounce E passes separator a).diagnostics ++
          (p.pronounce E passes separator b).diagnostics⟩ := by
  have someA := (p.isSome_say E passes separator a).mpr (sayable.imp_right And.left)
  have someB := (p.isSome_say E passes separator b).mpr (sayable.imp_right And.right)
  rw [pronounce_eq, pronounce_eq, pronounce_eq, say_join E p passes separator nonempty blank]
  generalize p.say E passes separator a.toList = saidA at *
  generalize p.say E passes separator b.toList = saidB at *
  obtain ⟨_, dsA⟩ := saidA
  obtain ⟨_, dsB⟩ := saidB
  obtain ⟨valueA, rfl⟩ := Option.isSome_iff_exists.mp someA
  obtain ⟨valueB, rfl⟩ := Option.isSome_iff_exists.mp someB
  simp [follow, String.append_assoc]

theorem pronounce_join_fails {a w b : String} (nonempty : w ≠ "")
    (blank : ∀ c ∈ w.toList, isBlank c = true) (composed : p.composition = true)
    (fails : ¬ (p.ComposesAll E passes a ∧ p.ComposesAll E passes b)) :
    (p.pronounce E passes separator (a ++ w ++ b)).value = "" := by
  have unsaid : ¬ (p.say E passes separator (a ++ w ++ b).toList).1.isSome := by
    rw [say_join E p passes separator nonempty blank, isSome_follow, isSome_follow, isSome_say,
      isSome_say, composed]
    simpa using fails
  rw [pronounce_eq, Option.not_isSome_iff_eq_none.mp unsaid]
  rfl

/-- **A text is said word by word.** With blanks between them, two texts are said one after the
other, each as it is said alone; only where words are composed of syllables, one word without
syllables leaves nothing of the whole. The words are the runs of a text that are not blank, which is
what stands between its blanks, and the same words are listed with their syllables. -/
theorem pronounce_word_by_word :
    (∀ a w b : String, w ≠ "" → (∀ c ∈ w.toList, isBlank c = true) →
      ((p.composition = false ∨ p.ComposesAll E passes a ∧ p.ComposesAll E passes b) →
        p.pronounce E passes separator (a ++ w ++ b) =
          ⟨(p.pronounce E passes separator a).value ++ w ++
            (p.pronounce E passes separator b).value,
            (p.pronounce E passes separator a).diagnostics
              ++ (p.pronounce E passes separator b).diagnostics⟩) ∧
      (p.composition = true → ¬ (p.ComposesAll E passes a ∧ p.ComposesAll E passes b) →
        (p.pronounce E passes separator (a ++ w ++ b)).value = "")) ∧
    (∀ text, IsCutInto text (runs text) ∧
      ((runs text).filter (!·.blank)).map (·.text) = (pieces text.toList).map .ofList) ∧
    ∀ (l : Language) (text : String),
      Report.syllables separator l text =
        String.join (((pieces text.toList).map .ofList).map fun word =>
          match l.pronunciation.syllables.split word separator with
          | some split => s!"{word}: {split}\n"
          | none => s!"{word}: (no decomposition)\n") := by
  refine ⟨fun a w b nonempty blank => ⟨?_, ?_⟩, fun text => ⟨isCutInto_runs text, words_eq text⟩,
    fun l text => ?_⟩
  · exact p.pronounce_join E passes separator nonempty blank
  · exact p.pronounce_join_fails E passes separator nonempty blank
  · exact congrArg (fun ws : List String => String.join (ws.map _)) (words_eq text)

end

/-- Writes "e" for "a", in syllables of an "e" that may have a "t" before it. -/
def eForA : Phonology where
  rules := [.ofTexts "a" "e"]
  composition := true
  syllables := .build [.category 'C' ["t"], .template "(C)e"]

/-- Blanks stay between what can be said; what is said for "ta" is lost when "to" follows. -/
theorem pronounce_word_by_word_ta :
    eForA.pronounce Settings.standard.engine 100 "˙" ("ta " ++ "\t" ++ " tata") =
      ⟨"te \t te˙te", []⟩ ∧
      (eForA.pronounce Settings.standard.engine 100 "˙" ("ta " ++ "\t" ++ " to")).value = "" := by
  have composes {text : String}
      (said : (eForA.say Settings.standard.engine 100 "˙" text.toList).1.isSome) :
      eForA.ComposesAll Settings.standard.engine 100 text :=
    ((eForA.isSome_say Settings.standard.engine 100 "˙" text).mp said).resolve_left (by decide)
  have tab : ∀ c ∈ "\t".toList, isBlank c = true := List.all_eq_true.mp (by decide)
  have joins := (pronounce_word_by_word Settings.standard.engine eForA 100 "˙").1
  constructor
  · rw [(joins "ta " "\t" " tata" (by decide) tab).1
      (.inr ⟨composes (by decide +kernel), composes (by decide +kernel)⟩)]
    decide +kernel
  · refine (joins "ta " "\t" " to" (by decide) tab).2 rfl fun both => ?_
    have said := (eForA.isSome_say Settings.standard.engine 100 "˙" " to").mpr (.inr both.2)
    revert said
    decide +kernel

end Conlang.Phonology
