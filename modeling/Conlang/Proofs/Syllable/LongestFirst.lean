import Conlang.Proofs.Syllable.Cutting

/-! The longest syllable comes first.

A word may have many rows of syllables. The one that is found takes at each place the longest
syllable that some row can begin with there, and this tells it from all others (`Built.solve_iff`).
So it is what a search finds that tries the longest syllables first and goes back where the rest can
not be cut, whether or not it remembers the rests that can not (`search_eq_solve`, `searchWith_eq`).
And as only syllables count, it depends on what a grammar holds and not on how that came there
(`SameContent.syllabify_eq`). -/
namespace Conlang.SyllableGrammar

variable (g : SyllableGrammar)

/-! ### Lengths in order -/

theorem pairwise_insertLength {lengths : List Nat} (h : lengths.Pairwise (· > ·)) (n : Nat) :
    (insertLength n lengths).Pairwise (· > ·) := by
  induction lengths with
  | nil => exact List.pairwise_singleton _ n
  | cons m rest ih =>
    obtain ⟨above, ordered⟩ := List.pairwise_cons.mp h
    rw [insertLength]
    split
    next less =>
      refine List.pairwise_cons.mpr ⟨fun k mem => ?_, h⟩
      rcases List.mem_cons.mp mem with rfl | mem
      · exact less
      · exact Nat.lt_trans (above k mem) less
    next notLess =>
      split
      next same => exact h
      next differs =>
        refine List.pairwise_cons.mpr ⟨fun k mem => ?_, ih ordered⟩
        rcases mem_insertLength.mp mem with rfl | mem
        · omega
        · exact above k mem

theorem pairwise_candidateLengths (s : List Char) : (g.candidateLengths s).Pairwise (· > ·) := by
  rw [candidateLengths]
  induction (g.templates.flatMap fun t => g.elementsLengths t.elements s).filter (0 < ·) with
  | nil => exact .nil
  | cons n lengths ih => exact pairwise_insertLength ih n

theorem pos_of_mem_candidateLengths {s : List Char} {n : Nat} (h : n ∈ g.candidateLengths s) :
    0 < n := by
  obtain ⟨part, -, rfl, nonempty, -⟩ := (g.lists_candidates s n).mp h
  exact List.length_pos_iff.mpr nonempty

/-- A first syllable leaves less than there was. -/
theorem length_drop_lt {s : List Char} {n : Nat} (more : ¬ s.isEmpty = true)
    (h : n ∈ g.candidateLengths s) :
    (s.drop n).length < s.length := by
  have nonempty : s ≠ [] := by simpa using more
  have positive := g.pos_of_mem_candidateLengths h
  have some := List.length_pos_iff.mpr nonempty
  rw [List.length_drop]
  omega

theorem mem_candidateLengths {part rest : List Char} (h : g.Accepts part) :
    part.length ∈ g.candidateLengths (part ++ rest) :=
  (g.lists_candidates _ _).mpr ⟨part, ⟨rest, rfl⟩, rfl, h.nonempty, h.fits⟩

/-! ### Searching -/

/-- The syllables of a text of which `n` characters come first, given those of the rest. -/
def withFirst (s : List Char) (n : Nat) (tail : Option (List String)) : Option (List String) :=
  if g.isLegal (s.take n) then tail.map (.ofList (s.take n) :: ·) else none

/-- Tries the longest syllables first, and goes on to the next one where the rest can not be cut. -/
def search (s : List Char) : Option (List String) :=
  if s.isEmpty then some []
  else (g.candidateLengths s).attach.findSome? fun ⟨n, _⟩ => g.withFirst s n (search (s.drop n))
termination_by s.length
decreasing_by exact g.length_drop_lt ‹_› ‹_›

/-- One more length to try: what has been found is kept, and the dead ends that are met are added to
those known. -/
def tryNext (s : List Char) (look : List Char → List Nat → Option (List String) × List Nat)
    (so : Option (List String) × List Nat) (n : Nat) : Option (List String) × List Nat :=
  if so.1.isSome || !g.isLegal (s.take n) then so
  else
    let tail := look (s.drop n) so.2
    (g.withFirst s n tail.1, tail.2)

/-- The same search with a memory: it tells also how long the rests are that it has found to be dead
ends, and does not look into one again. -/
def searchWith (s : List Char) (dead : List Nat) : Option (List String) × List Nat :=
  if s.isEmpty then (some [], dead)
  else if s.length ∈ dead then (none, dead)
  else
    let outcome := (g.candidateLengths s).attach.foldl (fun so ⟨n, _⟩ =>
      if so.1.isSome || !g.isLegal (s.take n) then so
      else
        let tail := searchWith (s.drop n) so.2
        (g.withFirst s n tail.1, tail.2)) (none, dead)
    if outcome.1.isSome then outcome else (none, s.length :: outcome.2)
termination_by s.length
decreasing_by exact g.length_drop_lt ‹_› ‹_›

theorem search_cons (c : Char) (s : List Char) :
    g.search (c :: s) =
      (g.candidateLengths (c :: s)).findSome? fun n =>
        g.withFirst (c :: s) n (g.search ((c :: s).drop n)) := by
  let first (n : Nat) := g.withFirst (c :: s) n (g.search ((c :: s).drop n))
  rw [search, if_neg (by simp), List.findSome?_subtype (g := first) fun _ _ =>
    rfl, List.unattach_attach]

theorem searchWith_cons (c : Char) (s : List Char) {dead : List Nat}
    (new : (c :: s).length ∉ dead) :
    g.searchWith (c :: s) dead =
      let outcome :=
        (g.candidateLengths (c :: s)).foldl (g.tryNext (c :: s) g.searchWith) (none, dead)
      if outcome.1.isSome then outcome else (none, (c :: s).length :: outcome.2) := by
  rw [searchWith, if_neg (by simp), if_neg new, List.foldl_subtype fun _ _ _ =>
    rfl, List.unattach_attach]
  rfl

/-! ### The table and the search -/

theorem findSome?_congr {α β : Type} {l : List α} {f f' : α → Option β}
    (same : ∀ a ∈ l, f a = f' a) :
    l.findSome? f = l.findSome? f' := by
  induction l with
  | nil => rfl
  | cons a l ih =>
    obtain ⟨first, rest⟩ := List.forall_mem_cons.mp same
    rw [List.findSome?_cons, List.findSome?_cons, first, ih rest]

theorem solve_cons (c : Char) (s : List Char) :
    g.solve (c :: s) =
      (g.candidateLengths (c :: s)).findSome? fun n =>
        g.withFirst (c :: s) n (g.solve ((c :: s).drop n)) := by
  show (g.candidateLengths (c :: s)).findSome? (g.cutAt (c :: s) (g.solutions s)) = _
  refine findSome?_congr fun n listed => ?_
  obtain ⟨part, ⟨rest, front⟩, rfl, nonempty, -⟩ := (g.lists_candidates (c :: s) n).mp listed
  rw [g.cutAt_front front nonempty, withFirst, ← front, List.take_left, List.drop_left]

/-- The table answers what the search finds. -/
theorem search_eq_solve (s : List Char) : g.search s = g.solve s := by
  induction size : s.length using Nat.strongRecOn generalizing s with
  | _ length ih =>
    cases s with
    | nil => rw [search]; rfl
    | cons c s =>
      rw [search_cons, solve_cons]
      refine findSome?_congr fun n listed => ?_
      rw [ih _ (size ▸ g.length_drop_lt (by simp) listed) _ rfl]

/-! ### Dead ends -/

/-- The rests of a word that have one of these lengths can not be cut. -/
def DeadEnds (word : List Char) (dead : List Nat) : Prop :=
  ∀ rest, rest <:+ word → rest.length ∈ dead → g.search rest = none

section
variable {g} {word s : List Char} {dead : List Nat}

/-- A rest of a word is told from the others by its length. -/
theorem DeadEnds.cons (known : g.DeadEnds word dead) (suffix : s <:+ word)
    (failed : g.search s = none) :
    g.DeadEnds word (s.length :: dead) := by
  intro rest ends listed
  rcases List.mem_cons.mp listed with same | listed
  · rw [(List.suffix_of_suffix_length_le ends suffix (Nat.le_of_eq same)).eq_of_length same]
    exact failed
  · exact known rest ends listed

theorem foldl_tryNext_of_isSome {look : List Char → List Nat → Option (List String) × List Nat}
    {so : Option (List String) × List Nat} (found : so.1.isSome) (lengths : List Nat) :
    lengths.foldl (g.tryNext s look) so = so := by
  induction lengths with
  | nil => rfl
  | cons n lengths ih =>
    have kept : g.tryNext s look so n = so := by simp [tryNext, found]
    rw [List.foldl_cons, kept, ih]

/-- Lengths are tried one after the other until one leads to the end of the word. -/
theorem foldl_tryNext {look : List Char → List Nat → Option (List String) × List Nat}
    {lengths : List Nat} (looks : ∀ n ∈ lengths, ∀ dead, g.DeadEnds word dead →
      (look (s.drop n) dead).1 = g.search (s.drop n) ∧ g.DeadEnds word (look (s.drop n) dead).2)
    (known : g.DeadEnds word dead) :
    (lengths.foldl (g.tryNext s look) (none, dead)).1 =
        lengths.findSome? (fun n => g.withFirst s n (g.search (s.drop n))) ∧
      g.DeadEnds word (lengths.foldl (g.tryNext s look) (none, dead)).2 := by
  induction lengths generalizing dead with
  | nil => exact ⟨rfl, known⟩
  | cons n lengths ih =>
    obtain ⟨here, later⟩ := List.forall_mem_cons.mp looks
    rw [List.foldl_cons, List.findSome?_cons]
    cases legal : g.isLegal (s.take n) with
    | false =>
      have skipped : g.tryNext s look (none, dead) n = (none, dead) := by simp [tryNext, legal]
      have nothing : g.withFirst s n (g.search (s.drop n)) = none := by simp [withFirst, legal]
      rw [skipped, nothing]
      exact ih later known
    | true =>
      obtain ⟨same, more⟩ := here dead known
      have tried : g.tryNext s look (none, dead) n =
          (g.withFirst s n (g.search (s.drop n)), (look (s.drop n) dead).2) := by
        simp [tryNext, legal, same]
      rw [tried]
      cases answer : g.withFirst s n (g.search (s.drop n)) with
      | none => exact ih later more
      | some list =>
        rw [foldl_tryNext_of_isSome rfl]
        exact ⟨rfl, more⟩

/-- Remembering dead ends changes no answer, and only dead ends are remembered. -/
theorem searchWith_eq (suffix : s <:+ word) (known : g.DeadEnds word dead) :
    (g.searchWith s dead).1 = g.search s ∧ g.DeadEnds word (g.searchWith s dead).2 := by
  induction size : s.length using Nat.strongRecOn generalizing s dead with
  | _ length ih =>
    cases s with
    | nil =>
      rw [searchWith, search]
      exact ⟨rfl, known⟩
    | cons c s =>
      by_cases old : (c :: s).length ∈ dead
      · rw [searchWith, if_neg (by simp), if_pos old]
        exact ⟨(known _ suffix old).symm, known⟩
      · have looks : ∀ n ∈ g.candidateLengths (c :: s), ∀ dead, g.DeadEnds word dead →
            (g.searchWith ((c :: s).drop n) dead).1 = g.search ((c :: s).drop n) ∧
              g.DeadEnds word (g.searchWith ((c :: s).drop n) dead).2 := fun n listed dead known =>
          ih _ (size ▸ g.length_drop_lt (by simp) listed) ((List.drop_suffix n _).trans suffix)
            known rfl
        obtain ⟨same, more⟩ := foldl_tryNext looks known
        rw [← search_cons] at same
        rw [g.searchWith_cons c s old]
        show (if _ then _ else _ : Option (List String) × List Nat).1 = _ ∧ _
        cases answer : g.search (c :: s) with
        | some list =>
          rw [answer] at same; simp only [same, Option.isSome_some, if_true]; exact ⟨trivial, more⟩
        | none =>
          rw [answer] at same
          simp only [same, Option.isSome_none, Bool.false_eq_true, if_false]
          exact ⟨trivial, more.cons suffix answer⟩

end

/-! ### The longest first -/

/-- What is found begins with the longest syllable that leaves a rest which can be cut, and goes on
with what is found for that rest. -/
theorem solve_longest {s : List Char} {syllable : String} {list : List String}
    (h : g.solve s = some (syllable :: list)) :
    ∃ rest, syllable.toList ++ rest = s ∧ g.solve rest = some list ∧
      ∀ part rest', g.Accepts part → part ++ rest' = s → (g.solve rest').isSome →
        part.length ≤ syllable.toList.length := by
  cases s with
  | nil => cases h
  | cons c s =>
    rw [solve_cons, List.findSome?_eq_some_iff] at h
    obtain ⟨longer, n, shorter, lengths, found, failed⟩ := h
    have listed : n ∈ g.candidateLengths (c :: s) := by simp [lengths]
    obtain ⟨first, ⟨rest, front⟩, rfl, -, -⟩ := (g.lists_candidates (c :: s) n).mp listed
    rw [withFirst, ← front, List.take_left, List.drop_left] at found
    split at found
    · obtain ⟨list', answer, same⟩ := Option.map_eq_some_iff.mp found
      obtain ⟨rfl, rfl⟩ := List.cons.inj same
      rw [String.toList_ofList]
      refine ⟨rest, front, answer, fun part rest' accepts whole answers => ?_⟩
      refine Nat.le_of_not_lt fun above => ?_
      -- A longer syllable would have been tried before.
      have tried : part.length ∈ longer := by
        have candidate : part.length ∈ g.candidateLengths (part ++ rest') :=
          g.mem_candidateLengths accepts
        have order := g.pairwise_candidateLengths (c :: s)
        rw [whole, lengths, List.mem_append] at candidate
        rw [lengths, List.pairwise_append, List.pairwise_cons] at order
        rcases candidate with candidate | candidate
        · exact candidate
        · rcases List.mem_cons.mp candidate with same | candidate
          · exact absurd same (Nat.ne_of_gt above)
          · exact absurd (order.2.1.1 _ candidate) (Nat.not_lt_of_gt above)
      have none := failed _ tried
      rw [withFirst, ← whole, List.take_left, List.drop_left,
        if_pos (g.isLegal_iff.mpr accepts.legal), Option.map_eq_none_iff] at none
      rw [none] at answers
      cases answers
    · cases found

section
variable {adds : List Addition}

/-- At each place stands the longest syllable that a row of syllables can begin with there. -/
def LongestFirst (adds : List Addition) (list : List String) : Prop :=
  ∀ front syllable back, list = front ++ syllable :: back →
    ∀ other others, Decomposes adds (other :: others) (String.join (syllable :: back)) →
      other.length ≤ syllable.length

theorem longestFirst_cons {syllable : String} {back : List String} :
    LongestFirst adds (syllable :: back) ↔
      (∀ other others, Decomposes adds (other :: others) (String.join (syllable :: back)) →
        other.length ≤ syllable.length) ∧ LongestFirst adds back := by
  constructor
  · intro longest
    refine ⟨longest [] syllable back rfl, fun front later rest split => ?_⟩
    exact longest (syllable :: front) later rest (by rw [split]; rfl)
  · rintro ⟨first, longest⟩ front later rest split
    cases front with
    | nil =>
      obtain ⟨rfl, rfl⟩ := List.cons.inj split
      exact first
    | cons earlier front =>
      obtain ⟨rfl, left⟩ := List.cons.inj split
      exact longest front later rest left

theorem Decomposes.tail {syllable word : String} {back : List String}
    (h : Decomposes adds (syllable :: back) word) :
    Decomposes adds back (String.join back) :=
  ⟨rfl, fun other listed => h.syllables other (List.mem_cons_of_mem syllable listed)⟩

theorem Decomposes.eq_nil {list : List String} (h : Decomposes adds list "") : list = [] := by
  cases list with
  | nil => rfl
  | cons syllable back =>
    have joined := congrArg String.toList h.joined
    rw [String.join_cons, String.toList_append, String.toList_empty, List.append_eq_nil_iff]
      at joined
    exact absurd (String.toList_eq_nil_iff.mp joined.1)
      (h.syllables syllable List.mem_cons_self).nonempty

/-- Only one row of syllables has the longest first. -/
theorem LongestFirst.unique {list list' : List String} {word : String}
    (h : Decomposes adds list word) (h' : Decomposes adds list' word)
    (longest : LongestFirst adds list) (longest' : LongestFirst adds list') :
    list = list' := by
  induction list generalizing list' word with
  | nil =>
    obtain rfl : "" = word := h.joined
    exact h'.eq_nil.symm
  | cons first back ih =>
    cases list' with
    | nil =>
      obtain rfl : "" = word := h'.joined
      exact h.eq_nil
    | cons first' back' =>
      obtain ⟨longer, rest⟩ := longestFirst_cons.mp longest
      obtain ⟨longer', rest'⟩ := longestFirst_cons.mp longest'
      have size : first.length = first'.length :=
        Nat.le_antisymm (longer' first back (h'.joined ▸ h)) (longer first' back' (h.joined ▸ h'))
      have whole := congrArg String.toList (h.joined.trans h'.joined.symm)
      rw [String.join_cons, String.join_cons, String.toList_append, String.toList_append] at whole
      obtain ⟨same, left⟩ :=
        List.append_inj whole (by rwa [String.length_toList, String.length_toList])
      rw [String.toList_inj] at same left
      rw [same, ih h.tail (left ▸ h'.tail) rest rest']

variable {g}

theorem Built.longestFirst (built : Built adds g) {s : List Char} {list : List String}
    (found : g.solve s = some list) :
    LongestFirst adds list := by
  induction list generalizing s with
  | nil => rintro front syllable back split; simp at split
  | cons first back ih =>
    obtain ⟨rest, whole, answer, longest⟩ := g.solve_longest found
    refine longestFirst_cons.mpr ⟨fun other others decomposes => ?_, ih answer⟩
    have joined : (String.join (first :: back)).toList = s := by
      have cut := (g.cut_iff.mp (g.cut_of_solve found)).1
      rwa [← String.toList_join] at cut
    have cut := built.cut_iff_decomposes.mpr decomposes
    rw [joined] at cut
    generalize same : other :: others = row at cut
    cases cut with
    | done => cases same
    | @syllable part rest' row accepts cut =>
      obtain ⟨rfl, rfl⟩ := List.cons.inj same
      have short := longest part rest' accepts rfl (g.exists_solve cut)
      rwa [← String.length_toList, ← String.length_toList, String.toList_ofList]

theorem Built.solve_iff (built : Built adds g) {word : String} {list : List String} :
    g.solve word.toList = some list ↔ Decomposes adds list word ∧ LongestFirst adds list := by
  constructor
  · intro found
    exact ⟨built.cut_iff_decomposes.mp (g.cut_of_solve found), built.longestFirst found⟩
  · rintro ⟨decomposes, longest⟩
    obtain ⟨list', found⟩ :=
      Option.isSome_iff_exists.mp (g.exists_solve (built.cut_iff_decomposes.mpr decomposes))
    have decomposes' := built.cut_iff_decomposes.mp (g.cut_of_solve found)
    rw [longest.unique decomposes decomposes' (built.longestFirst found)]
    exact found

end

/-! ### What counts of the additions -/

/-- The same categories with the same members, templates and clusters have been added, in whatever
order and however often. -/
structure SameContent (adds adds' : List Addition) : Prop where
  declared : ∀ letter, Declares adds letter ↔ Declares adds' letter
  members : ∀ letter m, HasMember adds letter m ↔ HasMember adds' letter m
  templates : ∀ t, Offers adds t ↔ Offers adds' t
  clusters : ∀ cluster, Forbids adds cluster ↔ Forbids adds' cluster

namespace SameContent

variable {adds adds' : List Addition}

theorem symm (h : SameContent adds adds') : SameContent adds' adds :=
  ⟨fun letter => (h.declared letter).symm, fun letter m => (h.members letter m).symm, fun t =>
    (h.templates t).symm,
    fun cluster => (h.clusters cluster).symm⟩

/-- The order of the additions does not count, nor how often one is made. -/
theorem of_mem_iff (h : ∀ a, a ∈ adds ↔ a ∈ adds') : SameContent adds adds' where
  declared letter := by simp only [Declares, h]
  members letter m := by simp only [HasMember, h]
  templates t := by simp only [Offers, h]
  clusters cluster := by simp only [Forbids, h]

theorem slotFits_eq (h : SameContent adds adds') : SlotFits adds = SlotFits adds' := by
  funext slot part
  refine propext ⟨fun fits => ?_, fun fits => ?_⟩
  · cases fits with
    | member m => exact .member ((h.members _ _).mp m)
    | itself undeclared => exact .itself fun declared => undeclared ((h.declared _).mpr declared)
  · cases fits with
    | member m => exact .member ((h.members _ _).mpr m)
    | itself undeclared => exact .itself fun declared => undeclared ((h.declared _).mp declared)

theorem isSyllable (h : SameContent adds adds') {syllable : String}
    (isSyllable : IsSyllable adds syllable) :
    IsSyllable adds' syllable := by
  obtain ⟨nonempty, ⟨source, added, fits⟩, legal⟩ := isSyllable
  refine ⟨nonempty, ?_, fun cluster forbidden => legal cluster ((h.clusters cluster).mpr forbidden)⟩
  have some : syllable.toList ≠ [] := fun none => nonempty (String.toList_eq_nil_iff.mp none)
  obtain ⟨t, parsed, fits⟩ := (SyllableTemplate.fits_iff_parse some).mp fits
  obtain ⟨source', added', parsed'⟩ := (h.templates t).mp ⟨source, added, parsed⟩
  rw [h.slotFits_eq] at fits
  exact ⟨source', added', (SyllableTemplate.fits_iff_parse some).mpr ⟨t, parsed', fits⟩⟩

theorem decomposes (h : SameContent adds adds') {list : List String} {word : String}
    (decomposes : Decomposes adds list word) : Decomposes adds' list word :=
  ⟨decomposes.joined, fun syllable listed => h.isSyllable (decomposes.syllables syllable listed)⟩

theorem longestFirst (h : SameContent adds adds') {list : List String}
    (longest : LongestFirst adds list) :
    LongestFirst adds' list := fun front syllable back split other others decomposes =>
  longest front syllable back split other others (h.symm.decomposes decomposes)

theorem syllabify_eq (h : SameContent adds adds') (word : String) :
    (build adds).syllabify word = (build adds').syllabify word := by
  refine Option.ext fun list => ?_
  calc (build adds).syllabify word = some list
    _ ↔ Decomposes adds list word ∧ LongestFirst adds list := (built_build adds).solve_iff
    _ ↔ Decomposes adds' list word ∧ LongestFirst adds' list :=
      ⟨fun ⟨cut, longest⟩ => ⟨h.decomposes cut, h.longestFirst longest⟩,
        fun ⟨cut, longest⟩ => ⟨h.symm.decomposes cut, h.symm.longestFirst longest⟩⟩
    _ ↔ (build adds').syllabify word = some list := (built_build adds').solve_iff.symm

end SameContent

/-- **A word is cut into the longest syllables that leave a rest which can be cut.** The row that is
found is the one row of syllables that has the longest first. It is found by trying the longest
first and going back, with dead ends remembered or not. So only the categories with their members,
the templates and the clusters count for any word: not the order in which they were added, and not
how often. -/
theorem syllabify_longest_first (adds : List Addition) :
    (∀ word list,
        (build adds).syllabify word = some list ↔ Decomposes adds list word ∧
        LongestFirst adds list) ∧
      (∀ word : String,
        (build adds).syllabify word = (build adds).search word.toList ∧
          (build adds).search word.toList = ((build adds).searchWith word.toList []).1) ∧
      (∀ adds', SameContent adds adds' →
        ∀ word, (build adds).syllabify word = (build adds').syllabify word) ∧
      ∀ adds', (∀ a, a ∈ adds ↔ a ∈ adds') →
        ∀ word, (build adds).syllabify word = (build adds').syllabify word := by
  have nothingKnown (word : List Char) : (build adds).DeadEnds word [] := nofun
  refine ⟨fun word list => (built_build adds).solve_iff, fun word => ⟨?_, ?_⟩, fun adds' same =>
    same.syllabify_eq,
    fun adds' same => (SameContent.of_mem_iff same).syllabify_eq⟩
  · exact ((build adds).search_eq_solve word.toList).symm
  · exact (searchWith_eq List.suffix_rfl (nothingKnown word.toList)).1.symm

example :
    (build [.category 'C' ["t"], .template "(C)a(C)"]).syllabify "tata" = some ["tat", "a"] ∧
      (build [.category 'C' ["t"], .template "(C)a(C)", .cluster "at"]).syllabify "tata" =
        some ["ta", "ta"] := by
  decide

end Conlang.SyllableGrammar
