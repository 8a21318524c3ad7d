import Conlang.Pattern.Replace

/-! Texts with their matches replaced.

The matches in a text leave gaps between them. `rewritten` puts other texts in the place of the
matches and keeps the gaps, which is what splicing does (`splice_eq`). Where the matches stand in
order, the gaps and the matches are all of the text (`rewritten_matched`). -/
namespace Conlang.Pattern

namespace Slots

/-- Where the match begins. -/
def start (m : Slots) : Nat := (m.start? 0).getD 0

/-- Where the match ends. -/
def stop (m : Slots) : Nat := (m.stop? 0).getD 0

/-- The text of the match. -/
def whole (t : Subject) (m : Slots) : String := (m.text? t 0).getD ""

end Slots

section
variable (t : Subject)

/-- What stands before each match, behind the match before it. -/
def gaps (last : Nat) : List Slots → List String
  | [] => []
  | m :: found => t.slice last m.start :: gaps m.stop found

/-- What stands behind the last match. -/
def remainder (last : Nat) : List Slots → String
  | [] => t.slice last t.size
  | m :: found => remainder m.stop found

/-- Gaps and other texts in turn, and what remains. -/
def weave : List String → List String → String → String
  | gap :: gaps, new :: news, rest => gap ++ new ++ weave gaps news rest
  | _, _, rest => rest

/-- The text with other texts in the place of its matches. -/
def rewritten (found : List Slots) (news : List String) : String :=
  weave (gaps t 0 found) news (remainder t 0 found)

theorem splice_eq (last : Nat) (pairs : List (Slots × String)) :
    splice t last pairs = weave (gaps t last (pairs.map Prod.fst)) (pairs.map Prod.snd)
      (remainder t last (pairs.map Prod.fst)) := by
  induction pairs generalizing last with
  | nil => rfl
  | cons pair pairs ih => exact congrArg (_ ++ ·) (ih _)

theorem splice_map (found : List Slots) (new : Slots → String) :
    splice t 0 (found.map fun m => (m, new m)) = rewritten t found (found.map new) := by
  rw [splice_eq, rewritten, List.map_map, List.map_map]
  rw [show Prod.fst ∘ (fun m : Slots => (m, new m)) = id from rfl, List.map_id]
  rfl

/-! ### Matches in order -/

/-- The match lies in the text, from a place on. -/
structure Follows (last : Nat) (m : Slots) : Prop where
  started : m.start? 0 = some m.start
  stopped : m.stop? 0 = some m.stop
  after : last ≤ m.start
  forward : m.start ≤ m.stop
  within : m.stop ≤ t.size

/-- The matches lie in the text from a place on, each behind the one before it. -/
def InOrder (last : Nat) : List Slots → Prop
  | [] => True
  | m :: found => Follows t last m ∧ InOrder m.stop found

end

variable {t : Subject} {last place start stop : Nat}

theorem Follows.of {m : Slots} (started : m.start? 0 = some start) (stopped : m.stop? 0 = some stop)
    (after : last ≤ start) (forward : start ≤ stop) (within : stop ≤ t.size) :
    Follows t last m := by
  have first : m.start = start := by rw [Slots.start, started, Option.getD_some]
  have final : m.stop = stop := by rw [Slots.stop, stopped, Option.getD_some]
  exact ⟨by rw [first, started], by rw [final, stopped], first ▸ after,
    by rwa [first, final], final ▸ within⟩

theorem Follows.mono {m : Slots} (h : Follows t place m) (le : last ≤ place) : Follows t last m :=
  { h with after := Nat.le_trans le h.after }

theorem InOrder.mono {found : List Slots} (h : InOrder t place found) (le : last ≤ place) :
    InOrder t last found := by
  cases found with
  | nil => trivial
  | cons m found => exact ⟨h.1.mono le, h.2⟩

/-! ### All of the text -/

theorem Subject.slice_append {i j k : Nat} (first : i ≤ j) (second : j ≤ k) :
    t.slice i j ++ t.slice j k = t.slice i k := by
  rw [Subject.slice, Subject.slice, Subject.slice, ← String.ofList_append, ← Array.toList_append,
    Array.extract_append_extract, Nat.min_eq_left first, Nat.max_eq_right second]

theorem Subject.slice_ofString (text : String) :
    (ofString text).slice 0 (ofString text).size = text := by
  rw [Subject.slice, Array.extract_size, Subject.ofString]
  exact String.ofList_toList

theorem Follows.whole {m : Slots} (h : Follows t last m) : m.whole t = t.slice m.start m.stop := by
  rw [Slots.whole, Slots.text?, h.started, h.stopped]
  rfl

theorem weave_matched {found : List Slots} (within : last ≤ t.size)
    (ordered : InOrder t last found) :
    weave (gaps t last found) (found.map (Slots.whole t)) (remainder t last found) =
      t.slice last t.size := by
  induction found generalizing last with
  | nil => rfl
  | cons m found ih =>
    obtain ⟨here, later⟩ := ordered
    calc t.slice last m.start ++ m.whole t ++
      weave (gaps t m.stop found) _ (remainder t m.stop found)
      _ = t.slice last m.start ++ t.slice m.start m.stop ++ t.slice m.stop t.size := by
        rw [ih here.within later, here.whole]
      _ = t.slice last t.size := by
        rw [Subject.slice_append here.after here.forward,
          Subject.slice_append (Nat.le_trans here.after here.forward) here.within]

/-- **Gaps and matches make up the text.** -/
theorem rewritten_matched {text : String} {found : List Slots}
    (ordered : InOrder (.ofString text) 0 found) :
    rewritten (.ofString text) found (found.map (Slots.whole (.ofString text))) = text :=
  (weave_matched (Nat.zero_le _) ordered).trans (Subject.slice_ofString text)

end Conlang.Pattern
