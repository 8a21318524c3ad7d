import Conlang.Proofs.Definition.Consistency
import Conlang.Proofs.Syllable.Cutting

/-! The syllable grammar of a definition.

It is what the additions that the definition lists build, so syllables can be told from the
definition (`built_loadSyllables`). -/
namespace Conlang

namespace SyllableGrammar

/-- What was added counts, and not in which order. -/
theorem Built.congr {adds adds' : List Addition} {g : SyllableGrammar} (h : Built adds g)
    (same : ∀ a, a ∈ adds ↔ a ∈ adds') : Built adds' g where
  declared letter := by simpa only [Declares, same] using h.declared letter
  members letter := by simpa only [HasMember, same] using h.members letter
  templates t := by simpa only [Offers, same] using h.templates t
  clusters cluster := by simpa only [Forbids, same] using h.clusters cluster

theorem addTemplate_eq_ok_iff {g g' : SyllableGrammar} {source : String} :
    g.addTemplate source = .ok g' ↔
      (∃ es, es ≠ [] ∧ SyllableTemplate.Reads source.toList es) ∧
      g' = Addition.addTo g (.template source) := by
  rw [← SyllableTemplate.parse_isOk_iff]
  cases read : SyllableTemplate.parse source with
  | error e =>
    rw [addTemplate, read]
    refine iff_of_false ?_ (by simp)
    intro made
    cases made
  | ok t =>
    rw [addTo_template_ok read, addTemplate, read]
    constructor
    · intro made
      exact ⟨⟨t, rfl⟩, (Except.ok.inj made).symm⟩
    · rintro ⟨-, rfl⟩
      rfl

end SyllableGrammar

namespace Definition
open SyllableGrammar

namespace SyllablesEntry

/-- The category that an entry adds to, unless its key is not a letter. -/
def additionsOf (category : String × List String) : List Addition :=
  category.1.toList.map fun letter => .category letter category.2

/-- What the definition adds to a grammar. -/
def additions (e : SyllablesEntry) : List Addition :=
  e.categories.flatMap additionsOf ++ e.templates.map .template ++ e.clusters.map .cluster

/-- The same with the categories in the order of their keys. -/
def sorted (e : SyllablesEntry) : SyllablesEntry :=
  { e with categories := sortBy (fun a b => a.1 ≤ b.1) e.categories }

theorem mem_additions_sorted (e : SyllablesEntry) (a : Addition) :
    a ∈ e.sorted.additions ↔ a ∈ e.additions := by
  simp only [additions, sorted, List.mem_append, List.mem_flatMap, mem_sortBy]

end SyllablesEntry

open SyllablesEntry

theorem loadCategory_eq_ok_iff {g g' : SyllableGrammar} {category : String × List String} :
    loadCategory g category = .ok g' ↔
      (∃ letter, category.1.toList = [letter]) ∧
      g' = (additionsOf category).foldl Addition.addTo g := by
  rw [loadCategory, additionsOf]
  split
  · next letter key =>
    rw [key]
    constructor
    · intro made
      exact ⟨⟨letter, rfl⟩, (Except.ok.inj made).symm⟩
    · rintro ⟨-, rfl⟩
      rfl
  · next other =>
    refine iff_of_false (by simp) ?_
    rintro ⟨⟨letter, key⟩, -⟩
    exact other letter key

theorem loadSyllables_eq_ok_iff {e : SyllablesEntry} {g : SyllableGrammar} :
    loadSyllables e = .ok g ↔ e.WellFormed ∧ g = build e.sorted.additions := by
  have loadCategories {g : SyllableGrammar} :
      e.sorted.categories.foldlM loadCategory SyllableGrammar.empty = .ok g ↔ _ :=
    foldlM_eq_ok_iff (P := fun _ => True) (f := loadCategory) (fun _ => loadCategory_eq_ok_iff) id
      trivial
  have loadTemplates {g g' : SyllableGrammar} : e.templates.foldlM SyllableGrammar.addTemplate g =
      .ok g' ↔ _ :=
    foldlM_eq_ok_iff (P := fun _ => True) (f := SyllableGrammar.addTemplate)
      (fun _ => addTemplate_eq_ok_iff) id trivial
  have whole : build e.sorted.additions = e.clusters.foldl SyllableGrammar.addCluster
      (e.templates.foldl (fun g t => Addition.addTo g (.template t))
        (e.sorted.categories.foldl (fun g c => (additionsOf c).foldl Addition.addTo g)
        SyllableGrammar.empty)) := by
    rw [build, additions, List.foldl_append, List.foldl_append, List.foldl_flatMap, List.foldl_map,
      List.foldl_map]
    rfl
  rw [loadSyllables, bind_eq_ok_iff]
  simp only [bind_eq_ok_iff, mapError_eq_ok_iff]
  rw [whole]
  constructor
  · rintro ⟨categories, first, templates, second, made⟩
    obtain ⟨letters, rfl⟩ := loadCategories.mp first
    obtain ⟨readable, rfl⟩ := loadTemplates.mp second
    exact ⟨⟨fun c mem => letters c (mem_sortBy.mpr mem), readable⟩, (Except.ok.inj made).symm⟩
  · rintro ⟨h, rfl⟩
    exact ⟨_, loadCategories.mpr ⟨fun c mem => h.letters c (mem_sortBy.mp mem), rfl⟩, _,
      loadTemplates.mpr ⟨h.templates, rfl⟩, rfl⟩

/-- The grammar that is loaded holds what the definition adds. -/
theorem built_loadSyllables {e : SyllablesEntry} {g : SyllableGrammar}
    (loaded : loadSyllables e = .ok g) :
    Built e.additions g := by
  obtain ⟨-, rfl⟩ := loadSyllables_eq_ok_iff.mp loaded
  exact (built_build _).congr e.mem_additions_sorted

end Definition

end Conlang
