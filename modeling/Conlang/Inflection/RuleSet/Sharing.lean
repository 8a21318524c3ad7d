import Conlang.Inflection.RuleSet.Forms

/-! Changes to many rules at once.

Rules are copied to, or deleted from, all forms that share a value of a dimension, and rules that
say the same are updated or deleted together. Each answers with the number of rules it has made,
changed or deleted. -/
namespace Conlang.RuleSet

def resolve (s : RuleSet) (ids : List Nat) : Except Fault (List Rule) :=
  ids.mapM fun id =>
    match s.rule? id with
    | some r => .ok r
    | none => .error (.unknownRule id)

theorem resolve_cons (s : RuleSet) (id : Nat) (rest : List Nat) :
    s.resolve (id :: rest) = match s.rule? id with
      | some r => (s.resolve rest).map (r :: ·)
      | none => .error (.unknownRule id) := by
  rw [resolve, List.mapM_cons, ← resolve]
  cases s.rule? id with
  | none => rfl
  | some r => cases s.resolve rest <;> rfl

/-- The other cells that share a value with a form. -/
def sharers (s : RuleSet) (type : Id) (slot : Nat) (value : Id) (source : Combination) :
    List Combination :=
  ((s.allForms type).map (·.combination)).filter fun c => c != source && selects slot value c

/-- Copies rules to the end of every other cell that has the value; hidden cells are no
exception. -/
def copyToSharers (s : RuleSet) (type dimension value : Id) (ids : List Nat)
    (source : Combination) :
    Except Fault (Nat × RuleSet) := do
  let (_, slot, _) ← s.findDimension type dimension
  let models ← s.resolve ids
  let copies :=
    (s.sharers type slot value source).flatMap fun c => models.map fun r => (c, r.content)
  .ok (copies.length, copies.foldl (fun s (c, content) => s.add type c content) s)

def deleteCounted (s : RuleSet) (doomed : Rule → Bool) : Nat × RuleSet :=
  (s.countWhere doomed, s.deleteWhere doomed)

/-- Deletes the rules that say the same as one of the given rules from every cell that has the
value. -/
def deleteFromSharers (s : RuleSet) (type dimension value : Id) (ids : List Nat) :
    Except Fault (Nat × RuleSet) := do
  let (_, slot, _) ← s.findDimension type dimension
  let models ← s.resolve ids
  .ok (s.deleteCounted fun r =>
    r.type == type && selects slot value r.combination && models.any r.equivalent)

/-- Deletes the rules of a part of speech that say the same as one of the given rules. -/
def deleteEquivalent (s : RuleSet) (type : Id) (ids : List Nat) : Except Fault (Nat × RuleSet) := do
  let models ← s.resolve ids
  .ok (s.deleteCounted fun r => r.type == type && models.any r.equivalent)

/-- Lets the rules of a part of speech that say the same as `model` say what `updated` says. The
updated rule itself is not counted. -/
def updateEquivalent (s : RuleSet) (type : Id) (model updated : Rule) : Nat × RuleSet :=
  let affected (r : Rule) : Bool := r.type == type && r.id != updated.id && r.equivalent model
  (s.countWhere affected,
    { s with rules := s.rules.map fun r => if affected r then r.adopt updated.content else r })

end Conlang.RuleSet
