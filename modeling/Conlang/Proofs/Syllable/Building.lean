import Conlang.Proofs.Syllable.Template

/-! What a grammar knows after any row of additions.

The syllables of a grammar are described by its additions alone, in whatever order they came:
`SlotFits` says what a slot stands for and `IsSyllable` what a syllable is. `built_build` says that
the grammar itself, which keeps members in a list and templates as elements, holds the same. -/
namespace Conlang.SyllableGrammar
open SyllableTemplate

/-- A call that adds to a grammar. -/
inductive Addition where
  | category (letter : Char) (members : List String)
  | template (source : String)
  | cluster (text : String)
  deriving Repr, DecidableEq

/-- A template that can not be read adds nothing. -/
def Addition.addTo (g : SyllableGrammar) : Addition → SyllableGrammar
  | .category letter members => g.addCategory letter members
  | .template source =>
    match g.addTemplate source with
    | .ok g' => g'
    | .error _ => g
  | .cluster text => g.addCluster text

def build (adds : List Addition) : SyllableGrammar := adds.foldl Addition.addTo empty

/-! ### What additions mean -/

section
variable (adds : List Addition)

/-- A category is declared by any addition to it, even by one without members. -/
def Declares (letter : Char) : Prop := ∃ members, .category letter members ∈ adds

/-- The members of a category are the texts that were added to it; an empty one does not count. -/
def HasMember (letter : Char) (m : String) : Prop :=
  m ≠ "" ∧ ∃ members, .category letter members ∈ adds ∧ m ∈ members

/-- A template that can be read is one of the grammar's. -/
def Offers (t : SyllableTemplate) : Prop := ∃ source, .template source ∈ adds ∧ parse source = .ok t

/-- A cluster is illegal once it was added; an empty one does not count. -/
def Forbids (cluster : String) : Prop := cluster ≠ "" ∧ .cluster cluster ∈ adds

/-- A slot that names a category stands for a member of it, and any other for itself. -/
inductive SlotFits (slot : Char) : List Char → Prop where
  | member {m} : HasMember adds slot m → SlotFits slot m.toList
  | itself : ¬ Declares adds slot → SlotFits slot [slot]

structure IsSyllable (syllable : String) : Prop where
  nonempty : syllable ≠ ""
  fits : ∃ source, .template source ∈ adds ∧ Fits (SlotFits adds) source.toList syllable.toList
  legal : ∀ cluster, Forbids adds cluster → ¬ cluster.toList <:+: syllable.toList

/-- A word is the syllables of a list in a row. -/
structure Decomposes (list : List String) (word : String) : Prop where
  joined : String.join list = word
  syllables : ∀ syllable ∈ list, IsSyllable adds syllable

/-- A grammar holds what was added to it. -/
structure Built (g : SyllableGrammar) : Prop where
  declared : ∀ letter, g.categories[letter]? = none ↔ ¬ Declares adds letter
  members : ∀ letter members, g.categories[letter]? = some members → ∀ m, m ∈ members ↔
    HasMember adds letter m
  templates : ∀ t, t ∈ g.templates ↔ Offers adds t
  clusters : ∀ cluster, cluster ∈ g.clusters ↔ Forbids adds cluster

end

/-! ### One addition -/

section
variable {adds : List Addition} {g : SyllableGrammar}

theorem declares_append {a : Addition} {letter : Char} :
    Declares (adds ++ [a]) letter ↔ Declares adds letter ∨
    ∃ members, a = .category letter members := by
  simp only [Declares, List.mem_append, List.mem_singleton, exists_or, eq_comm]

theorem hasMember_append {a : Addition} {letter : Char} {m : String} :
    HasMember (adds ++ [a]) letter m ↔
      HasMember adds letter m ∨ m ≠ "" ∧ ∃ members, a = .category letter members ∧ m ∈ members := by
  simp only [HasMember, List.mem_append, List.mem_singleton, or_and_right, exists_or, and_or_left,
    eq_comm]

theorem offers_append {a : Addition} {t : SyllableTemplate} :
    Offers (adds ++ [a]) t ↔ Offers adds t ∨ ∃ source, a = .template source ∧
    parse source = .ok t := by
  simp only [Offers, List.mem_append, List.mem_singleton, or_and_right, exists_or, eq_comm]

theorem forbids_append {a : Addition} {cluster : String} :
    Forbids (adds ++ [a]) cluster ↔ Forbids adds cluster ∨ cluster ≠ "" ∧ a = .cluster cluster := by
  simp only [Forbids, List.mem_append, List.mem_singleton, and_or_left, eq_comm]

theorem mem_addMember {members : List String} {added m : String} :
    m ∈ addMember members added ↔ m ∈ members ∨ m ≠ "" ∧ m = added := by
  rw [addMember]
  by_cases skip : added = "" ∨ added ∈ members
  · rw [if_pos (by simpa using skip)]
    constructor
    · exact .inl
    · intro h
      rcases h with h | ⟨nonempty, rfl⟩
      · exact h
      · exact skip.resolve_left nonempty
  · rw [if_neg (by simpa using skip), List.mem_append, List.mem_singleton]
    constructor
    · intro h
      rcases h with h | rfl
      · exact .inl h
      · exact .inr ⟨fun empty => skip (.inl empty), rfl⟩
    · intro h
      rcases h with h | ⟨_, h⟩
      · exact .inl h
      · exact .inr h

theorem mem_foldl_addMember {members : List String} (added : List String) {m : String} :
    m ∈ added.foldl addMember members ↔ m ∈ members ∨ m ≠ "" ∧ m ∈ added := by
  induction added generalizing members with
  | nil => simp
  | cons a added ih =>
    rw [List.foldl_cons, ih, mem_addMember, List.mem_cons, or_assoc, ← and_or_left]

theorem built_empty : Built [] empty where
  declared letter := by simp [empty, Declares]
  members letter members h := by simp [empty] at h
  templates t := by simp [empty, Offers]
  clusters cluster := by simp [empty, Forbids]

/-- The members that a letter has, whether it is declared or not. -/
theorem Built.mem_getD (h : Built adds g) (letter : Char) (m : String) :
    m ∈ (g.categories[letter]?).getD [] ↔ HasMember adds letter m := by
  cases found : g.categories[letter]? with
  | some members => exact h.members letter members found m
  | none =>
    have undeclared := (h.declared letter).mp found
    constructor
    · intro h
      cases h
    · intro member
      obtain ⟨_, members, added, _⟩ := member
      exact absurd ⟨members, added⟩ undeclared

theorem Built.addCategory (h : Built adds g) (letter : Char) (members : List String) :
    Built (adds ++ [.category letter members]) (g.addCategory letter members) where
  declared l := by
    rw [SyllableGrammar.addCategory, Std.ExtTreeMap.getElem?_insert, declares_append]
    by_cases same : letter = l
    · simp [same]
    · simp [same, h.declared]
  members l found eq m := by
    rw [SyllableGrammar.addCategory, Std.ExtTreeMap.getElem?_insert] at eq
    rw [hasMember_append]
    by_cases same : letter = l
    · subst same
      rw [if_pos Std.ReflCmp.compare_self, Option.some.injEq] at eq
      rw [← eq, mem_foldl_addMember, h.mem_getD]
      simp
    · rw [if_neg (by simpa using same)] at eq
      simp [same, h.members l found eq]
  templates t := by
    rw [SyllableGrammar.addCategory, h.templates, offers_append]
    simp
  clusters cluster := by
    rw [SyllableGrammar.addCategory, h.clusters, forbids_append]
    simp

theorem addTo_template_error {source : String} {e : Fault} (h : parse source = .error e) :
    Addition.addTo g (.template source) = g := by
  rw [Addition.addTo, SyllableGrammar.addTemplate, h]
  rfl

theorem addTo_template_ok {source : String} {t : SyllableTemplate} (h : parse source = .ok t) :
    Addition.addTo g (.template source) = { g with templates := g.templates ++ [t] } := by
  rw [Addition.addTo, SyllableGrammar.addTemplate, h]
  rfl

/-- An addition to no category leaves categories as they are. -/
theorem Built.append {a : Addition} {g' : SyllableGrammar} (h : Built adds g)
    (noCategory : ∀ letter members, a ≠ .category letter members)
    (categories : g'.categories = g.categories) (templates : ∀ t, t ∈ g'.templates ↔
      t ∈ g.templates ∨ ∃ source, a = .template source ∧ parse source = .ok t)
    (clusters : ∀ cluster, cluster ∈ g'.clusters ↔ cluster ∈ g.clusters ∨ cluster ≠ "" ∧
      a = .cluster cluster) :
    Built (adds ++ [a]) g' where
  declared l := by
    rw [categories, h.declared, declares_append]
    simp [noCategory]
  members l found eq m := by
    rw [categories] at eq
    rw [h.members l found eq, hasMember_append]
    simp [noCategory]
  templates t := by rw [templates, h.templates, offers_append]
  clusters cluster := by rw [clusters, h.clusters, forbids_append]

theorem Built.addTemplate (h : Built adds g) (source : String) :
    Built (adds ++ [.template source]) (Addition.addTo g (.template source)) := by
  cases read : parse source with
  | error e =>
    rw [addTo_template_error read]
    exact h.append (by simp) rfl (fun t => by simp [read]) (fun cluster => by simp)
  | ok new =>
    rw [addTo_template_ok read]
    exact h.append (by simp) rfl (fun t => by simp [read, eq_comm]) (fun cluster => by simp)

theorem Built.addCluster (h : Built adds g) (text : String) :
    Built (adds ++ [.cluster text]) (g.addCluster text) := by
  rw [SyllableGrammar.addCluster]
  by_cases blank : text = ""
  · rw [if_pos (by simpa using blank)]
    refine h.append (by simp) rfl (fun t => by simp) (fun cluster => ⟨.inl, fun listed => ?_⟩)
    rcases listed with listed | ⟨nonempty, same⟩
    · exact listed
    · exact absurd (Addition.cluster.inj same ▸ blank) nonempty
  · rw [if_neg (by simpa using blank)]
    refine h.append (by simp) rfl (fun t => by simp) (fun cluster => ?_)
    rw [Std.ExtTreeSet.mem_insert, Std.LawfulEqCmp.compare_eq_iff_eq]
    constructor
    · intro listed
      rcases listed with rfl | listed
      · exact .inr ⟨blank, rfl⟩
      · exact .inl listed
    · intro listed
      rcases listed with listed | ⟨_, same⟩
      · exact .inr listed
      · exact .inl (Addition.cluster.inj same)

/-- What the additions so far have built, the next one keeps. -/
theorem Built.addTo (h : Built adds g) (a : Addition) : Built (adds ++ [a]) (a.addTo g) := by
  cases a with
  | category letter members => exact h.addCategory letter members
  | template source => exact h.addTemplate source
  | cluster text => exact h.addCluster text

theorem Built.foldl (h : Built adds g) (more : List Addition) :
    Built (adds ++ more) (more.foldl Addition.addTo g) := by
  induction more generalizing adds g with
  | nil => simpa using h
  | cons a more ih => simpa using ih (h.addTo a)

end

/-- **Any row of additions builds a grammar that holds just what was added.** -/
theorem built_build (adds : List Addition) : Built adds (build adds) := built_empty.foldl adds

end Conlang.SyllableGrammar
