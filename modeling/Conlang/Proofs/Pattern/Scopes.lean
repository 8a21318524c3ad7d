import Conlang.Proofs.Pattern.Templates

/-! Replacing some of the matches.

A scope selects matches by their numbers (`Scope.members`). The matches are counted in one search
and replaced in another, and where the two agree the selected matches are replaced and all else of
the text is kept (`replaceScoped_selected`).

Whether a pattern may be used with a scope depends on its look. A pattern that only looks as if it
looked around is refused (`replaceScoped_mistaken`). -/
namespace Conlang.Pattern

/-! ### Which matches are selected -/

namespace Scope

/-- The numbers of the matches that a scope selects among so many. The first match is number 0. -/
def members (total : Nat) : Scope → List Nat
  | .all => .range total
  | .firstOnly => [0]
  | .firstAndMiddle => 0 :: .range (total - 1)
  | .middleOnly => .range' 1 (total - 2)
  | .middleAndLast => .range' 1 (total - 1) ++ [total - 1]
  | .lastOnly => [total - 1]

theorem selects_iff {scope : Scope} {index total : Nat} (within : index < total) :
    scope.selects index total = true ↔ index ∈ scope.members total := by
  cases scope <;> simp [selects, members] <;> omega

/-- Of two matches or more, each is selected by one scope of either pair. -/
theorem members_complementary {total index : Nat} (two : 2 ≤ total) (within : index < total) :
    (index ∈ firstOnly.members total ↔ index ∉ middleAndLast.members total) ∧
      (index ∈ firstAndMiddle.members total ↔ index ∉ lastOnly.members total) := by
  simp [members]
  omega

end Scope

/-! ### What becomes of matches -/

/-- New texts for the matches with certain numbers, and the old ones for the others. -/
def chosen (selected : List Nat) (new old : Slots → String) (found : List Slots) : List String :=
  found.zipIdx.map fun (m, index) => if index ∈ selected then new m else old m

/-- Where the matches lie. -/
def spans (found : List Slots) : List (Nat × Nat) := found.map fun m => (m.start, m.stop)

section
variable {t : Subject} {names : List (String × Nat)} {pieces : List Piece}
  {found captured : List Slots}

theorem length_eq (agree : spans found = spans captured) : found.length = captured.length := by
  simpa [spans] using congrArg List.length agree

theorem gaps_congr (last : Nat) (agree : spans found = spans captured) :
    gaps t last found = gaps t last captured ∧
      remainder t last found = remainder t last captured := by
  induction found generalizing last captured with
  | nil =>
    obtain rfl := List.map_eq_nil_iff.mp agree.symm
    exact ⟨rfl, rfl⟩
  | cons m found ih =>
    obtain ⟨m', captured, rfl, same, later⟩ := List.map_eq_cons_iff.mp agree.symm
    obtain ⟨start, stop⟩ := Prod.mk.inj same
    obtain ⟨gaps_eq, remainder_eq⟩ := ih m.stop later.symm
    rw [gaps, gaps, remainder, remainder, start, stop, gaps_eq, remainder_eq]
    exact ⟨rfl, rfl⟩

/-- What is kept of a text depends on where its matches lie, and on nothing else about them. -/
theorem rewritten_congr (agree : spans found = spans captured) (news : List String) :
    rewritten t found news = rewritten t captured news := by
  obtain ⟨gaps_eq, remainder_eq⟩ := gaps_congr (t := t) 0 agree
  rw [rewritten, rewritten, gaps_eq, remainder_eq]

theorem splice_scopedTexts (scope : Scope) :
    splice t 0 (scopedTexts names pieces scope captured.length t captured) =
      rewritten t captured (chosen (scope.members captured.length)
        (Template.expand names t · pieces)
        (Slots.whole t) captured) := by
  have kept : (scopedTexts names pieces scope captured.length t captured).map Prod.fst =
      captured := by
    rw [scopedTexts, List.map_map]
    exact captured.zipIdx_map_fst 0
  have news : (scopedTexts names pieces scope captured.length t captured).map Prod.snd =
      chosen (scope.members captured.length) (Template.expand names t · pieces) (Slots.whole t)
      captured := by
    rw [scopedTexts, List.map_map]
    refine List.map_congr_left fun (m, index) mem => ?_
    have within : index < captured.length := by
      simpa using (List.mem_zipIdx mem).2.1
    simp only [Function.comp_apply, Scope.selects_iff within]
    rfl
  rw [splice_eq, kept, news, rewritten]

/-- A text for which the groups are not asked is the same for all matches. -/
theorem expand_of_not_needsGroups (plain : Template.needsGroups pieces = false) (m m' : Slots) :
    Template.expand names t m pieces = Template.expand names t m' pieces := by
  refine congrArg String.join (List.map_congr_left fun piece mem => ?_)
  cases piece with
  | char c => rfl
  | _ => simpa using List.any_eq_false.mp plain _ mem

theorem chosen_all (new old : Slots → String) :
    chosen (Scope.all.members captured.length) new old captured = captured.map new := by
  calc chosen (Scope.all.members captured.length) new old captured
    _ = captured.zipIdx.map (new ∘ Prod.fst) := by
      refine List.map_congr_left fun (m, index) mem => if_pos ?_
      have within : index < captured.length := by
        simpa using (List.mem_zipIdx mem).2.1
      exact List.mem_range.mpr within
    _ = captured.map new := by
      rw [← List.map_map, List.zipIdx_map_fst]

end

section
variable {E : Engine} {p : Pattern} {program : E.Program} {scope : Scope}

/-- To replace some of the matches is to count them, and then to search for them again. -/
theorem replaceScoped_some (apart : p.looksAround = false) (compiled : p.compile E = .ok program)
    (some : scope ≠ .all) (replacement text : String) :
    p.replaceScoped E replacement scope text =
      p.searched (E.found program (.ofString text)) >>= fun found =>
      if found.length = 0 then .ok text
      else parseTemplate E program replacement >>= fun pieces =>
        p.searched (E.captured program (.ofString text)) >>= fun captured =>
          .ok (splice (.ofString text) 0 (scopedTexts (E.names program) pieces scope found.length
            (.ofString text)
            captured)) := by
  rw [replaceScoped, if_neg some, apart, compiled]
  rfl

end

section
variable {E : Engine} {p : Pattern} {program : E.Program} {replacement text : String}
  {pieces : List Piece}
variable {found captured : List Slots} (compiled : p.compile E = .ok program)
variable (parsed : Template.parse (E.groups program) ((E.names program).map Prod.fst) replacement =
  .ok pieces)
variable (lists : E.found program (.ofString text) = .ok found)
variable (captures : E.captured program (.ofString text) = .ok captured)
  (agree : spans found = spans captured)

include compiled parsed lists captures agree

/-- Without a scope the matches are listed as the replacement asks for them, and it makes no
difference. -/
theorem replaceAll_captured :
    p.replaceAll E replacement text = .ok (rewritten (.ofString text) captured
      (captured.map fun m => Template.expand (E.names program) (.ofString text) m pieces)) := by
  cases asks : Template.needsGroups pieces with
  | true => exact replaceAll_of_ok compiled parsed (by rw [asks]; exact captures)
  | false =>
    rw [replaceAll_of_ok compiled parsed (by rw [asks]; exact lists), rewritten_congr agree]
    have same (m : Slots) : Template.expand (E.names program) (.ofString text) m pieces =
        Template.expand (E.names program) (.ofString text) #[] pieces :=
          expand_of_not_needsGroups asks m #[]
    simp only [same, List.map_const', length_eq agree]

/-- The matches that a scope selects are replaced. -/
theorem replaceScoped_captured (apart : p.looksAround = false) (scope : Scope) :
    p.replaceScoped E replacement scope text = .ok (rewritten (.ofString text) captured
      (chosen (scope.members captured.length)
        (Template.expand (E.names program) (.ofString text) · pieces)
        (Slots.whole (.ofString text)) captured)) := by
  by_cases whole : scope = .all
  · rw [whole, chosen_all]
    exact replaceAll_captured compiled parsed lists captures agree
  · rw [replaceScoped_some apart compiled whole, lists, captures, parseTemplate, parsed]
    show (if found.length = 0 then Except.ok text else .ok (splice (.ofString text) 0
      (scopedTexts (E.names program) pieces scope found.length (.ofString text) captured))) = _
    rw [length_eq agree]
    split
    next none =>
      rw [List.length_eq_zero_iff.mp none]
      exact congrArg Except.ok (Subject.slice_ofString text).symm
    next => rw [splice_scopedTexts]

end

section
variable {E : Engine} {p : Pattern} {program : E.Program} {replacement text : String}
variable {pieces : List Piece} {found captured : List Slots}

/-- **The matches that a scope selects are replaced, and all else is kept.** An engine that lists
matches in order leaves gaps between them that make up the text together with the matches. Each
scope gives its matches their expansions and leaves the others as they are, no scope is as good as
the scope that selects all, and in either pair of scopes one selects what the other leaves. -/
theorem replaceScoped_selected (apart : p.looksAround = false)
    (compiled : p.compile E = .ok program)
    (means : Template.Means (E.groups program) ((E.names program).map Prod.fst) replacement.toList
      pieces)
    (lists : E.found program (.ofString text) = .ok found)
    (captures : E.captured program (.ofString text) = .ok captured)
    (agree : spans found = spans captured) (ordered : InOrder (.ofString text) 0 captured) :
    let t := Subject.ofString text
    let new (m : Slots) := Template.expand (E.names program) t m pieces
    let n := captured.length
    rewritten t captured (captured.map (Slots.whole t)) = text ∧
    (∀ scope : Scope, p.replaceScoped E replacement scope text =
      .ok (rewritten t captured (chosen (scope.members n) new (Slots.whole t) captured))) ∧
    p.replaceAll E replacement text =
      .ok (splice t 0 (scopedTexts (E.names program) pieces .all n t captured)) ∧
    (2 ≤ n → ∀ index < n,
      (index ∈ Scope.firstOnly.members n ↔ index ∉ Scope.middleAndLast.members n) ∧
      (index ∈ Scope.firstAndMiddle.members n ↔ index ∉ Scope.lastOnly.members n)) := by
  intro t new n
  have parsed := Template.parse_eq_ok_iff.mpr means
  refine ⟨rewritten_matched ordered, ?_, ?_, fun two index => Scope.members_complementary two⟩
  · exact replaceScoped_captured compiled parsed lists captures agree apart
  · rw [replaceAll_captured compiled parsed lists captures agree, splice_scopedTexts, chosen_all]

/-- Of three matches of `(a)b?` the last two are replaced. -/
theorem replaceScoped_three :
    let E := Engine.standard ⟨1000000, 10485760⟩
    let p : Pattern := ⟨"(a)b?", false⟩
    p.replaceScoped E "<$1>" .middleAndLast "abxaya" = .ok "abx<a>y<a>" ∧
      p.replaceScoped E "<$1>" .firstOnly "abxaya" = .ok "<a>xaya" := by
  intro E p
  let three : List Slots := [#[some 0, some 2, some 0, some 1], #[some 3, some 4, some 3, some 4],
    #[some 5, some 6, some 5, some 6]]
  obtain ⟨program, compiled⟩ := isLegal_iff.mp (show p.isLegal E = true by decide +kernel)
  have groups : E.groups program = 1 := of_compile (f := E.groups) compiled (by decide +kernel)
  have names : E.names program = [] := of_compile (f := E.names) compiled (by decide +kernel)
  have found : E.found program (.ofString "abxaya") = .ok three :=
    ok_of_compile (f := (E.found · _)) compiled (by decide +kernel)
  have captured : E.captured program (.ofString "abxaya") = .ok three :=
    ok_of_compile (f := (E.captured · _)) compiled (by decide +kernel)
  have size : (Subject.ofString "abxaya").size = 6 := by decide +kernel
  have within {stop : Nat} (le : stop ≤ 6) : stop ≤ (Subject.ofString "abxaya").size := size ▸ le
  have ordered : InOrder (.ofString "abxaya") 0 three :=
    ⟨.of rfl rfl (by decide) (by decide) (within (by decide)),
      .of rfl rfl (by decide) (by decide) (within (by decide)),
      .of rfl rfl (by decide) (by decide) (within (by decide)), trivial⟩
  have reads : (Template.parse 1 [] "<$1>").toOption = some [.char '<', .group 1, .char '>'] := by
    decide +kernel
  have means : Template.Means (E.groups program) ((E.names program).map Prod.fst) "<$1>".toList
      [.char '<', .group 1, .char '>'] := by
    rw [groups, names]
    exact Template.parse_eq_ok_iff.mp (toOption_eq_some_iff.mp reads)
  obtain ⟨-, each, -⟩ :=
    replaceScoped_selected (by decide) compiled means found captured rfl ordered
  rw [names] at each
  refine ⟨(each .middleAndLast).trans ?_, (each .firstOnly).trans ?_⟩
  · exact congrArg Except.ok (by decide +kernel)
  · exact congrArg Except.ok (by decide +kernel)

/-- **A pattern that looks as if it looked around is refused.** In `[a[b](?=c)]` the parentheses are
members of a class. Two matches are found, and the first could be replaced. -/
theorem replaceScoped_mistaken :
    let E := Engine.standard ⟨1000000, 10485760⟩
    let p : Pattern := ⟨"[a[b](?=c)]", false⟩
    let t := Subject.ofString "axb"
    ∃ source program captured, Reader.read p.source = .ok source ∧ source.node.looksAround = false ∧
      p.compile E = .ok program ∧ E.found program t = .ok captured ∧
      E.captured program t = .ok captured ∧
      rewritten t captured (chosen (Scope.firstOnly.members captured.length)
        (Template.expand (E.names program) t · [.char '-']) (Slots.whole t) captured) = "-xb" ∧
      p.replaceScoped E "-" .firstOnly "axb" = .error (.lookaroundScope p.source) := by
  intro E p t
  obtain ⟨program, compiled⟩ := isLegal_iff.mp (show p.isLegal E = true by decide +kernel)
  have names : E.names program = [] := of_compile (f := E.names) compiled (by decide +kernel)
  have found : E.found program t = .ok [#[some 0, some 1], #[some 2, some 3]] :=
    ok_of_compile (f := (E.found · _)) compiled (by decide +kernel)
  have captured : E.captured program t = .ok [#[some 0, some 1], #[some 2, some 3]] :=
    ok_of_compile (f := (E.captured · _)) compiled (by decide +kernel)
  obtain ⟨source, read, free⟩ := exists_of_any (x := Reader.read p.source)
    (f := (!·.node.looksAround)) (by decide +kernel)
  rw [Bool.not_eq_true'] at free
  refine ⟨source, program, _, read, free, compiled, found, captured, ?_, ?_⟩
  · rw [names]
    decide +kernel
  · have looks : p.looksAround = true := by decide +kernel
    rw [replaceScoped, if_neg (by decide), if_pos looks]

end

end Conlang.Pattern
