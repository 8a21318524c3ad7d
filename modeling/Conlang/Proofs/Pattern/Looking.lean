import Conlang.Pattern.Engine
import Conlang.Proofs.Pattern.Cutting

/-! Lookarounds that are told by their look.

A `Parser` keeps the tokens that it has cut a pattern into beside the tree, and is as documented if
they are tokens of the language and one of them looks around exactly if the tree does. The scanner
knows nothing of all this, but in front of each token it is in the text again, and it has reported
nothing on the way unless the token leads it astray: a comment or blank with a mark in it, a class
in a class, or a gap in an opening parenthesis (`scan_token`). So where none does, the scanner finds
lookarounds just where the tree has one (`looksAround_of_clear`). There are patterns of each other
kind (`looksAround_misled`). -/
namespace Conlang.Pattern.Lookaround

/-! ### The scanner -/

/-- The token does not lead the scanner astray, in front of this text. -/
def Token.Clear (rest : List Char) : Token → Prop
  | .set body => '[' ∉ body ∨ Lookless body rest
  | .gap text => '\\' ∉ text ∧ '[' ∉ text ∧ Lookless text rest
  | .look between _ => between = []
  | _ => True

instance (rest : List Char) : DecidablePred (Token.Clear rest)
  | .set body => inferInstanceAs (Decidable ('[' ∉ body ∨ Lookless body rest))
  | .gap text => inferInstanceAs (Decidable ('\\' ∉ text ∧ '[' ∉ text ∧ Lookless text rest))
  | .look between _ => inferInstanceAs (Decidable (between = []))
  | .sign _ | .escape _ _ => isTrue trivial

theorem opensHere_of_mem {opener : List Char} (mem : opener ∈ openers) (rest : List Char) :
    opensHere (opener ++ rest) = true :=
  List.any_eq_true.mpr ⟨opener, mem, List.isPrefixOf_iff_prefix.mpr (List.prefix_append ..)⟩

/-- Behind text without a backslash and without a bracket that opens a class the scanner is in the
text. -/
theorem after_text {cs : List Char} (backslash : '\\' ∉ cs) (bracket : '[' ∉ cs) :
    Mode.text.after cs = .text := by
  induction cs with
  | nil => rfl
  | cons c cs ih =>
    obtain ⟨plain, backslash⟩ := not_or.mp (List.mem_cons.not.mp backslash)
    obtain ⟨outside, bracket⟩ := not_or.mp (List.mem_cons.not.mp bracket)
    have stays : Mode.text.next c = .text := by simp [Mode.next, Ne.symm plain, Ne.symm outside]
    rw [Mode.after_cons, stays, ih backslash bracket]

/-- **The scanner goes from token to token**, and reports those that look around. -/
theorem scan_token {k : Token} {rest : List Char} (fits : k.Fits rest) (clear : k.Clear rest) :
    scan .text (k.text ++ rest) = (k.isLook || scan .text rest) := by
  cases k with
  | sign c =>
    obtain ⟨plain, outside, opens⟩ := fits
    have stays : Mode.text.next c = .text := by simp [Mode.next, plain, outside]
    have quiet : Mode.text.reports c rest = false := by
      by_cases paren : c = '('
      · simp [Mode.reports, opens paren]
      · simp [Mode.reports, paren]
    show scan .text (c :: rest) = _
    rw [scan_cons, quiet, stays]
    rfl
  | escape c more =>
    show scan .text (more ++ rest) = _
    exact scan_mute fits rest
  | set body =>
    have leaves := leaves_of_isClass fits
    show scan .classStart (body ++ rest) = scan .text rest
    rcases clear with flat | lookless
    · exact leaves.flat rfl rfl flat rest
    · rw [scan_lookless lookless, leaves.after]
  | gap text =>
    obtain ⟨backslash, bracket, lookless⟩ := clear
    show scan .text (text ++ rest) = scan .text rest
    rw [scan_lookless lookless, after_text backslash bracket]
  | look between opener =>
    obtain rfl : between = [] := clear
    have opens : Mode.text.reports '(' (opener ++ rest) = true := by
      simp [Mode.reports, opensHere_of_mem fits rest]
    show scan .text ('(' :: (opener ++ rest)) = true
    rw [scan_cons, opens]
    rfl

theorem scan_spelling {tokens : List Token} (fits : Each Token.Fits [] tokens)
    (clear : Each Token.Clear [] tokens) :
    scan .text (spelling tokens) = tokens.any Token.isLook := by
  induction tokens with
  | nil => rfl
  | cons k ks ih =>
    obtain ⟨fit, fits⟩ := fits
    obtain ⟨bright, clear⟩ := clear
    rw [List.append_nil] at fit bright
    show scan .text (k.text ++ spelling ks) = (k.isLook || ks.any Token.isLook)
    rw [scan_token fit bright, ih fits clear]

/-! ### Parsers -/

/-- What is known of a parser. -/
structure Parser where
  Tree : Type
  read : String → Option Tree
  /-- What the pattern has been cut into. -/
  tokens : Tree → List Token
  /-- The tree has a lookahead or a lookbehind in it. -/
  looksAround : Tree → Bool

/-- The parser cuts patterns as the language is documented. -/
def Parser.Documented (P : Parser) : Prop :=
  ∀ ⦃p tree⦄, P.read p = some tree → IsCut p.toList [] (P.tokens tree) (P.looksAround tree)

/-- **Where no token leads the scanner astray, lookarounds are found by their look**: it reports a
pattern exactly if there is a lookahead or a lookbehind in the tree. -/
theorem looksAround_of_clear {P : Parser} (documented : P.Documented) {p : String} {tree : P.Tree}
    (read : P.read p = some tree) (clear : Each Token.Clear [] (P.tokens tree)) :
    looksAround p = P.looksAround tree := by
  obtain ⟨spells, fits, looks⟩ := documented read
  rw [looksAround, spells, List.append_nil, scan_spelling fits clear, looks]

/-- The reader of the standard engine, with a way to cut what it reads. -/
def Parser.standard (cut : String → List Token) : Parser where
  Tree := String × Source
  read p := (Reader.read p).toOption.map (p, ·)
  tokens tree := cut tree.1
  looksAround tree := tree.2.node.looksAround

/-- There is a way to cut all that the standard engine reads, however one pattern is cut. -/
theorem exists_documented {p : String} {source : Source} {tokens : List Token}
    (read : Reader.read p = .ok source) (isCut : IsCut p.toList [] tokens source.node.looksAround) :
    ∃ cut, (Parser.standard cut).Documented ∧ cut p = tokens := by
  have each (q : String) : ∃ ks, (∀ source, Reader.read q = .ok source →
      IsCut q.toList [] ks source.node.looksAround) ∧ (q = p → ks = tokens) := by
    by_cases same : q = p
    · subst same
      refine ⟨tokens, fun source' read' => ?_, fun _ => rfl⟩
      obtain rfl := Except.ok.inj (read.symm.trans read')
      exact isCut
    · cases read' : Reader.read q with
      | error fault => exact ⟨[], nofun, fun same' => absurd same' same⟩
      | ok source' =>
        obtain ⟨ks, isCut'⟩ := exists_isCut read'
        refine ⟨ks, fun source'' same'' => ?_, fun same' => absurd same' same⟩
        obtain rfl := Except.ok.inj same''
        exact isCut'
  choose cut documented at_p using each
  refine ⟨cut, fun q tree read => ?_, at_p p rfl⟩
  obtain ⟨source', read', rfl⟩ := Option.map_eq_some_iff.mp read
  exact documented q source' (toOption_eq_some_iff.mp read')

/-- A spaced pattern with a comment, a class and a lookahead is clear. -/
theorem looksAround_of_clear_spaced :
    let p := "(?x) [ab]+ (?= c ) # d"
    ∃ cut source, (Parser.standard cut).Documented ∧
      (Parser.standard cut).read p = some (p, source) ∧
      Each Token.Clear [] (cut p) ∧ looksAround p = source.node.looksAround := by
  intro p
  let tokens : List Token := [.sign '(', .sign '?', .sign 'x', .sign ')', .gap [' '],
    .set ['a', 'b', ']'], .sign '+', .gap [' '], .look [] ['?', '='], .gap [' '], .sign 'c',
    .gap [' '], .sign ')', .gap [' ', '#', ' ', 'd']]
  obtain ⟨source, read, looks⟩ :=
    exists_of_any (x := Reader.read p) (f := (·.node.looksAround)) (by decide +kernel)
  have isCut : IsCut p.toList [] tokens source.node.looksAround :=
    ⟨by decide +kernel, by decide +kernel, looks.symm ▸ rfl⟩
  obtain ⟨cut, documented, same⟩ := exists_documented read isCut
  have read' : (Parser.standard cut).read p = some (p, source) := by
    show (Reader.read p).toOption.map (p, ·) = _
    rw [read]
    rfl
  have clear : Each Token.Clear [] (cut p) := by
    rw [same]
    decide +kernel
  exact ⟨cut, source, documented, read', clear, looksAround_of_clear documented read' clear⟩

/-- Three patterns that compile. The scanner takes members of a class for a lookahead where a class
in it has closed; it takes a bracket in a comment for a class, and so does not see the lookahead
behind it; and it takes a comment for a lookahead. -/
theorem looksAround_misled :
    let misled (p : String) (reported : Bool) : Prop :=
      looksAround p = reported ∧ (Compiled.compile ⟨1000000, 10000000⟩ p).toOption.isSome ∧
        ∃ source, Reader.read p = .ok source ∧ source.node.looksAround = !reported
    misled "[a[b](?=c)]" true ∧ misled "(?#[)(?=a)" false ∧ misled "(?#(?=)a" true := by
  have misled {p : String} {reported : Bool} (reports : looksAround p = reported)
      (compiles : (Compiled.compile ⟨1000000, 10000000⟩ p).toOption.isSome = true)
      (looks : (Reader.read p).toOption.any (·.node.looksAround == !reported) = true) :
      looksAround p = reported ∧ (Compiled.compile ⟨1000000, 10000000⟩ p).toOption.isSome ∧
        ∃ source, Reader.read p = .ok source ∧ source.node.looksAround = !reported := by
    obtain ⟨source, read, same⟩ := exists_of_any looks
    exact ⟨reports, compiles, source, read, eq_of_beq same⟩
  exact ⟨misled (by decide +kernel) (by decide +kernel) (by decide +kernel),
    misled (by decide +kernel) (by decide +kernel) (by decide +kernel),
    misled (by decide +kernel) (by decide +kernel) (by decide +kernel)⟩

/-- A lookbehind is seen behind a class, and what stands in a class is no lookahead. -/
example : looksAround "[ab](?<!c)" = true ∧ looksAround "[(?=]a" = false := by decide +kernel

end Conlang.Pattern.Lookaround
