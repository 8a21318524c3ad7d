import Conlang.Proofs.Report.Validation
import Conlang.Proofs.RuleSet.Insertion
import Conlang.Proofs.Syllable.Template

/-! What a definition has to keep to.

`Consistent` says it of the definition alone, in whatever order things are checked. Here is what it
comes to for the lexicon (`loadLexicon_eq_ok_iff`): each check is made on what was built before it,
and that declares just what the definition declares. -/
namespace Conlang
open Std

namespace Definition

/-! ### Consistency -/

def DeclaresType (d : Definition) (type : Id) : Prop := ∃ p ∈ d.partsOfSpeech, p.id = type

/-- The value that an entry refers to belongs to the class that it refers to. -/
def DeclaresValue (d : Definition) (e : ClassEntry) : Prop :=
  ∃ c ∈ d.classes, c.id = e.wordClass ∧ ∃ v ∈ c.values, v.id = e.value

/-- What the definition declares for a part of speech. -/
def paradigm (d : Definition) (type : Id) : Paradigm where
  dimensions := (d.dimensions.filter (·.type == type)).map (·.dimension)
  extras := (d.extras.filter (·.type == type)).map (·.form)

structure LexicalConsistency (d : Definition) : Prop where
  types : (d.partsOfSpeech.map (·.id)).Nodup
  classes : (d.classes.map (·.id)).Nodup
  values : ∀ c ∈ d.classes, (c.values.map (·.id)).Nodup
  classTypes : ∀ c ∈ d.classes, ∀ type ∈ c.appliesTo, d.DeclaresType type
  words : (d.words.map (·.id)).Nodup
  wordTypes : ∀ w ∈ d.words, d.DeclaresType w.type
  wordValues : ∀ w ∈ d.words, ∀ c ∈ w.classes, d.DeclaresValue c

structure InflectionalConsistency (d : Definition) : Prop where
  dimensionTypes : ∀ e ∈ d.dimensions, d.DeclaresType e.type
  extraTypes : ∀ e ∈ d.extras, d.DeclaresType e.type
  paradigms : ∀ type, (d.paradigm type).Distinct
  ruleTypes : ∀ r ∈ d.rules, d.DeclaresType r.type
  combinations : ∀ r ∈ d.rules, ∃ c : Combination, r.combination = c.text
  ruleValues : ∀ r ∈ d.rules, ∀ c ∈ r.classes, d.DeclaresValue c

/-- The keys of categories are letters, and each template is written for some elements. -/
structure SyllablesEntry.WellFormed (e : SyllablesEntry) : Prop where
  letters : ∀ category ∈ e.categories, ∃ letter, category.1.toList = [letter]
  templates : ∀ t ∈ e.templates, ∃ es, es ≠ [] ∧ SyllableTemplate.Reads t.toList es

structure Consistent (d : Definition) :
    Prop extends LexicalConsistency d, InflectionalConsistency d where
  syllables : d.syllables.WellFormed

/-! ### Checks -/

theorem checkDistinct_eq_ok_iff {kind : Kind} {seen ids : List Id} {u : Unit} :
    checkDistinct kind seen ids = .ok u ↔ ids.Nodup ∧ ∀ id ∈ ids, id ∉ seen := by
  rw [← Dimension.repeated?_eq_none_iff]
  induction ids generalizing seen with
  | nil => exact iff_of_true rfl rfl
  | cons id rest ih =>
    rw [checkDistinct, Dimension.repeatedValue?.repeated?]
    split
    · exact iff_of_false (by simp) (by simp)
    · exact ih

theorem checkDistinct_nil_eq_ok_iff {kind : Kind} {ids : List Id} {u : Unit} :
    checkDistinct kind [] ids = .ok u ↔ ids.Nodup := by
  rw [checkDistinct_eq_ok_iff]
  exact and_iff_left fun _ _ => List.not_mem_nil

theorem requireType_eq_ok_iff {l : Lexicon} {place : Place} {type : Id} {u : Unit} :
    requireType l place type = .ok u ↔ l.declaresPartOfSpeech type = true := by
  rw [requireType]
  split
  · next declared => exact iff_of_true rfl declared
  · next missing => exact iff_of_false nofun missing

theorem requireClass_eq_ok_iff {l : Lexicon} {place : Place} {c : ClassEntry} {u : Unit} :
    requireClass l place c = .ok u ↔ l.declaresClassValue c.wordClass c.value = true := by
  rw [requireClass]
  split
  · next declared => exact iff_of_true rfl declared
  · next missing => exact iff_of_false nofun missing

/-! ### The lexicon -/

/-- The word that an entry is about. -/
def WordEntry.word (w : WordEntry) : Word :=
  w.classes.foldl (fun entry c => entry.withClassValue c.wordClass c.value)
    { id := w.id, value := w.value, type := w.type }

theorem WordEntry.id_word (w : WordEntry) : w.word.id = w.id :=
  List.foldlRecOn (motive := fun entry : Word => entry.id = w.id) w.classes _ rfl
    fun _ same _ _ => same

theorem WordEntry.type_word (w : WordEntry) : w.word.type = w.type :=
  List.foldlRecOn (motive := fun entry : Word => entry.type = w.type) w.classes
    _ rfl fun _ same _ _ => same

/-- The lexicon with the parts of speech only. -/
def typesOnly (d : Definition) : Lexicon := d.partsOfSpeech.foldl Lexicon.addPartOfSpeech {}

/-- The lexicon without words. -/
def wordless (d : Definition) : Lexicon := d.classes.foldl Lexicon.addClass d.typesOnly

def lexicon (d : Definition) : Lexicon := d.words.foldl (fun l w => l.addWord w.word) d.wordless

theorem partsOfSpeech_wordless (d : Definition) :
    d.wordless.partsOfSpeech = d.typesOnly.partsOfSpeech :=
  List.foldlRecOn (motive := fun l : Lexicon => l.partsOfSpeech = d.typesOnly.partsOfSpeech)
    d.classes _ rfl fun _ same _ _ => same

theorem partsOfSpeech_lexicon (d : Definition) :
    d.lexicon.partsOfSpeech = d.typesOnly.partsOfSpeech :=
  List.foldlRecOn (motive := fun l : Lexicon => l.partsOfSpeech = d.typesOnly.partsOfSpeech)
    d.words _ d.partsOfSpeech_wordless fun _ same _ _ => same

theorem classes_lexicon (d : Definition) : d.lexicon.classes = d.wordless.classes :=
  List.foldlRecOn (motive := fun l : Lexicon => l.classes = d.wordless.classes) d.words
    _ rfl fun _ same _ _ => same

/-- What is kept under a key when nothing is put under one twice. -/
theorem getElem?_foldl_insert {α β : Type} (key : α → Id) (item : α → β) {xs : List α}
    {m : ExtTreeMap Id β} {k : Id} {v : β} (distinct : (xs.map key).Nodup)
    (fresh : ∀ x ∈ xs, m[key x]? = none) :
    (xs.foldl (fun m x => m.insert (key x) (item x)) m)[k]? = some v ↔
      (∃ x ∈ xs, key x = k ∧ item x = v) ∨ m[k]? = some v := by
  induction xs generalizing m with
  | nil => simp
  | cons x rest ih =>
    obtain ⟨unused, distinct⟩ := List.nodup_cons.mp distinct
    have fresh' : ∀ y ∈ rest, (m.insert (key x) (item x))[key y]? = none := fun y mem => by
      have other : key x ≠ key y := fun same => unused (same ▸ List.mem_map_of_mem mem)
      rw [ExtTreeMap.getElem?_insert, if_neg (by simpa using other)]
      exact fresh y (List.mem_cons_of_mem x mem)
    rw [List.foldl_cons, ih distinct fresh', ExtTreeMap.getElem?_insert]
    simp only [List.mem_cons, or_and_right, exists_or, exists_eq_left]
    by_cases here : key x = k
    · have empty : m[k]? = none := here ▸ fresh x List.mem_cons_self
      rw [if_pos (by simpa using here), empty]
      simp [here, or_comm]
    · rw [if_neg (by simpa using here)]
      simp [here]

theorem declaresPartOfSpeech_typesOnly (d : Definition) (type : Id) :
    d.typesOnly.declaresPartOfSpeech type = true ↔ d.DeclaresType type := by
  suffices h : ∀ (ps : List PartOfSpeech) (l : Lexicon),
    (ps.foldl Lexicon.addPartOfSpeech l).declaresPartOfSpeech type =
      true ↔ (∃ p ∈ ps, p.id = type) ∨ l.declaresPartOfSpeech type = true by
    rw [typesOnly, h]
    exact or_iff_left (by simp [Lexicon.declaresPartOfSpeech])
  intro ps l
  induction ps generalizing l with
  | nil => simp
  | cons p rest ih =>
    rw [List.foldl_cons, ih]
    simp only [Lexicon.addPartOfSpeech, Lexicon.declaresPartOfSpeech, ExtTreeMap.contains_insert,
      Bool.or_eq_true, beq_iff_eq, LawfulEqCmp.compare_eq_iff_eq, List.mem_cons, or_and_right,
      exists_or, exists_eq_left]
    rw [← or_assoc, or_comm (a := p.id = type)]

theorem declaresPartOfSpeech_iff {d : Definition} {l : Lexicon}
    (kept : l.partsOfSpeech = d.typesOnly.partsOfSpeech) (type : Id) :
    l.declaresPartOfSpeech type = true ↔ d.DeclaresType type := by
  rw [← declaresPartOfSpeech_typesOnly, Lexicon.declaresPartOfSpeech, kept,
    Lexicon.declaresPartOfSpeech]

theorem class?_wordless {d : Definition} (distinct : (d.classes.map (·.id)).Nodup) {id : Id}
    {c : WordClass} :
    d.wordless.class? id = some c ↔ c ∈ d.classes ∧ c.id = id := by
  have classes : d.wordless.classes =
      d.classes.foldl (fun m c => m.insert c.id c) d.typesOnly.classes :=
    (List.foldl_hom Lexicon.classes fun _ _ => rfl).symm
  have none : d.typesOnly.classes = ∅ :=
    List.foldlRecOn (motive := fun l : Lexicon => l.classes = ∅) d.partsOfSpeech
      _ rfl fun _ same _ _ => same
  rw [Lexicon.class?, classes, none,
    getElem?_foldl_insert WordClass.id (fun c => c) distinct (by simp)]
  simp

theorem declaresClassValue_iff {d : Definition} {l : Lexicon}
    (distinct : (d.classes.map (·.id)).Nodup) (kept : l.classes = d.wordless.classes)
    (c : ClassEntry) :
    l.declaresClassValue c.wordClass c.value = true ↔ d.DeclaresValue c := by
  have same : l.class? c.wordClass = d.wordless.class? c.wordClass := by
    rw [Lexicon.class?, kept, Lexicon.class?]
  rw [Lexicon.declaresClassValue, same, Option.any_eq_true]
  simp only [class?_wordless distinct, List.any_eq_true, beq_iff_eq, DeclaresValue, and_assoc]

/-- The words of the lexicon are those of the definition. -/
theorem word?_lexicon {d : Definition} (distinct : (d.words.map (·.id)).Nodup) {id : Id}
    {w : Word} :
    d.lexicon.word? id = some w ↔ ∃ e ∈ d.words, e.id = id ∧ e.word = w := by
  have words : d.lexicon.words =
      d.words.foldl (fun m w => m.insert w.id w.word) d.wordless.words := by
    refine (List.foldl_hom Lexicon.words fun l w => ?_).symm
    rw [Lexicon.addWord, w.id_word]
  have none : d.wordless.words = ∅ := by
    refine List.foldlRecOn (motive := fun l : Lexicon => l.words = ∅) d.classes
      _ ?_ fun _ same _ _ => same
    exact List.foldlRecOn (motive := fun l : Lexicon => l.words = ∅) d.partsOfSpeech
      _ rfl fun _ same _ _ => same
  rw [Lexicon.word?, words, none,
    getElem?_foldl_insert WordEntry.id WordEntry.word distinct (by simp)]
  simp

theorem loadClass_eq_ok_iff {d : Definition} {l l' : Lexicon} {c : WordClass}
    (kept : l.partsOfSpeech = d.typesOnly.partsOfSpeech) :
    loadClass l c = .ok l' ↔
      ((c.values.map (·.id)).Nodup ∧ ∀ type ∈ c.appliesTo, d.DeclaresType type) ∧
      l' = l.addClass c := by
  simp only [loadClass, bind_eq_ok_iff, forM_eq_ok_iff, requireType_eq_ok_iff,
    declaresPartOfSpeech_iff kept, checkDistinct_nil_eq_ok_iff]
  constructor
  · rintro ⟨-, values, -, types, same⟩
    exact ⟨⟨values, types⟩, (Except.ok.inj same).symm⟩
  · rintro ⟨⟨values, types⟩, rfl⟩
    exact ⟨(), values, (), types, rfl⟩

theorem loadWord_eq_ok_iff {d : Definition} {l l' : Lexicon} {w : WordEntry}
    (distinct : (d.classes.map (·.id)).Nodup)
    (kept : l.partsOfSpeech = d.typesOnly.partsOfSpeech ∧ l.classes = d.wordless.classes) :
    loadWord l w = .ok l' ↔
      (d.DeclaresType w.type ∧ ∀ c ∈ w.classes, d.DeclaresValue c) ∧ l' = l.addWord w.word := by
  simp only [loadWord, bind_eq_ok_iff, forM_eq_ok_iff, requireType_eq_ok_iff,
    declaresPartOfSpeech_iff kept.1, requireClass_eq_ok_iff, declaresClassValue_iff distinct kept.2]
  constructor
  · rintro ⟨-, type, -, values, same⟩
    exact ⟨⟨type, values⟩, (Except.ok.inj same).symm⟩
  · rintro ⟨⟨type, values⟩, rfl⟩
    exact ⟨(), type, (), values, rfl⟩

/-- A lexicon can be loaded exactly when the definition keeps to what concerns it. -/
theorem loadLexicon_eq_ok_iff {d : Definition} {l : Lexicon} :
    d.loadLexicon = .ok l ↔ d.LexicalConsistency ∧ l = d.lexicon := by
  have loadClasses {l' : Lexicon} : d.classes.foldlM loadClass d.typesOnly = .ok l' ↔ _ :=
    foldlM_eq_ok_iff (P := fun l => l.partsOfSpeech = d.typesOnly.partsOfSpeech)
      (g := Lexicon.addClass)
      loadClass_eq_ok_iff id rfl
  have loadWords {l' : Lexicon} (distinct : (d.classes.map (·.id)).Nodup) :
      d.words.foldlM loadWord d.wordless = .ok l' ↔ _ :=
    foldlM_eq_ok_iff
      (P := fun l => l.partsOfSpeech = d.typesOnly.partsOfSpeech ∧ l.classes = d.wordless.classes)
      (g := fun l w => l.addWord w.word) (loadWord_eq_ok_iff distinct) id
      ⟨d.partsOfSpeech_wordless, rfl⟩
  simp only [loadLexicon, bind_eq_ok_iff, checkDistinct_nil_eq_ok_iff]
  constructor
  · rintro ⟨-, types, -, classes, classed, done, -, words, rest⟩
    obtain ⟨fine, rfl⟩ := loadClasses.mp done
    obtain ⟨fine', rfl⟩ := (loadWords classes).mp rest
    exact ⟨⟨types, classes, fun c mem => (fine c mem).1, fun c mem => (fine c mem).2, words,
      fun w mem => (fine' w mem).1, fun w mem => (fine' w mem).2⟩, rfl⟩
  · rintro ⟨h, rfl⟩
    refine ⟨(), h.types, (), h.classes, d.wordless, loadClasses.mpr ⟨fun c mem => ?_, rfl⟩, (),
      h.words, (loadWords h.classes).mpr ⟨fun w mem => ?_, rfl⟩⟩
    · exact ⟨h.values c mem, h.classTypes c mem⟩
    · exact ⟨h.wordTypes w mem, h.wordValues w mem⟩

end Definition

end Conlang
