import Conlang.Pattern.Cached

/-! What comes of keeping a compilation.

Patterns that keep their compilation are asked, given other sources and copied, in any order. What a
pattern has kept is always what its source compiles to now (`Cached.Sound`), for every operation
keeps it so (`Cached.perform_simulates`). Hence nobody who asks can tell such patterns from patterns
that keep nothing, and a pattern stays as it is whatever is done with its copies
(`cache_invisible`). -/
namespace Conlang.Pattern

/-! ### Requests -/

/-- What a pattern may be asked. -/
inductive Question where
  | isLegal
  | test (text : String)
  | replaceAll (replacement text : String)

inductive Answer where
  | legal (b : Bool)
  | tested (result : Except Error Bool)
  | replaced (result : Except Error String)

/-- What may be done with several patterns, which go by their numbers. -/
inductive Request where
  | ask (i : Nat) (q : Question)
  | setSource (i : Nat) (source : String)
  /-- The copy gets a number of its own, behind all others. -/
  | copy (i : Nat)
  /-- Pattern `i` is replaced by a copy of pattern `j`. -/
  | restore (i j : Nat)

namespace Request

/-- The pattern that is asked, changed or copied. -/
def subject : Request → Nat
  | .ask i _ | .setSource i _ | .copy i => i
  | .restore _ j => j

/-- The number under which there may be another pattern afterwards. -/
def changes? : Request → Option Nat
  | .setSource i _ | .restore i _ => some i
  | .ask _ _ | .copy _ => none

end Request

/-- Does one request after the other, and gives the answers and the patterns at the end. -/
def runRequests {σ : Type} (perform : List σ → Request → Option Answer × List σ)
    (patterns : List σ) :
    List Request → List (Option Answer) × List σ
  | [] => ([], patterns)
  | r :: rest =>
    let (answer, patterns) := perform patterns r
    let (answers, patterns) := runRequests perform patterns rest
    (answer :: answers, patterns)

/-! ### Patterns that keep nothing -/

section
variable (E : Engine)

def answer (p : Pattern) : Question → Answer
  | .isLegal => .legal (p.isLegal E)
  | .test text => .tested (p.test E text)
  | .replaceAll replacement text => .replaced (p.replaceAll E replacement text)

/-- What is done with a pattern among others. -/
def serve (patterns : List Pattern) (p : Pattern) : Request → Option Answer × List Pattern
  | .ask _ q => (some (p.answer E q), patterns)
  | .setSource i source => (none, patterns.set i { p with source })
  | .copy _ => (none, patterns ++ [p])
  | .restore i _ => (none, patterns.set i p)

/-- A request about a pattern that is not there does nothing. -/
def perform (patterns : List Pattern) (r : Request) : Option Answer × List Pattern :=
  match patterns[r.subject]? with
  | some p => serve E patterns p r
  | none => (none, patterns)

end

section
variable {E : Engine} {patterns : List Pattern} {j : Nat}

/-- Patterns stay as they are while others are changed. -/
theorem perform_frame {r : Request} (lt : j < patterns.length) (other : r.changes? ≠ some j) :
    (perform E patterns r).2[j]? = patterns[j]? := by
  unfold perform
  split
  next p _ =>
    cases r with
    | ask i q => rfl
    | setSource i source => exact List.getElem?_set_ne fun same => other (congrArg some same)
    | copy i => exact List.getElem?_append_left lt
    | restore i k => exact List.getElem?_set_ne fun same => other (congrArg some same)
  next => rfl

theorem length_perform (r : Request) : patterns.length ≤ (perform E patterns r).2.length := by
  unfold perform
  split
  next p _ => cases r <;> simp [serve]
  next => exact Nat.le_refl _

theorem runRequests_frame {requests : List Request} (lt : j < patterns.length)
    (others : ∀ r ∈ requests, r.changes? ≠ some j) :
    (runRequests (perform E) patterns requests).2[j]? = patterns[j]? := by
  induction requests generalizing patterns with
  | nil => rfl
  | cons r rest ih =>
    obtain ⟨first, later⟩ := List.forall_mem_cons.mp others
    have kept := ih (Nat.lt_of_lt_of_le lt (length_perform (E := E) r)) later
    exact kept.trans (perform_frame lt first)

end

namespace Cached

variable {E : Engine}

/-! ### Patterns that keep their compilation -/

def ask (c : Cached E) : Question → Answer × Cached E
  | .isLegal => let (b, c) := c.isLegal; (.legal b, c)
  | .test text => let (result, c) := c.test text; (.tested result, c)
  | .replaceAll replacement text =>
    let (result, c) := c.replaceAll replacement text; (.replaced result, c)

/-- A pattern that has been asked takes the place of the one before it: it may have kept more. -/
def serve (objects : List (Cached E)) (c : Cached E) : Request → Option Answer × List (Cached E)
  | .ask i q => (some (c.ask q).1, objects.set i (c.ask q).2)
  | .setSource i source => (none, objects.set i (c.setSource source))
  | .copy _ => (none, objects ++ [c.copy])
  | .restore i _ => (none, objects.set i c.copy)

def perform (objects : List (Cached E)) (r : Request) : Option Answer × List (Cached E) :=
  match objects[r.subject]? with
  | some c => serve objects c r
  | none => (none, objects)

/-- What has been kept is what the pattern compiles to. -/
def Sound (c : Cached E) : Prop := ∀ outcome, c.kept = some outcome → outcome = c.pattern.compile E

theorem sound_ofPattern (p : Pattern) : (ofPattern p : Cached E).Sound := nofun

theorem program_eq {c : Cached E} (sound : c.Sound) :
    c.program = (c.pattern.compile E, ⟨c.pattern, some (c.pattern.compile E)⟩) := by
  obtain ⟨p, kept⟩ := c
  cases kept with
  | none => rfl
  | some outcome =>
    obtain rfl : outcome = p.compile E := sound outcome rfl
    rfl

/-- A pattern answers as if it kept nothing, and has kept its compilation afterwards. -/
theorem ask_eq {c : Cached E} (sound : c.Sound) (q : Question) :
    c.ask q = (c.pattern.answer E q, ⟨c.pattern, some (c.pattern.compile E)⟩) := by
  cases q with
  | isLegal =>
    rw [ask, isLegal, program_eq sound]
    rfl
  | test text =>
    rw [ask, test, program_eq sound]
    rfl
  | replaceAll replacement text =>
    rw [ask, replaceAll, program_eq sound]
    rfl

/-! ### Runs -/

/-- The patterns, all of them sound, stand for patterns that keep nothing. -/
structure Stand (objects : List (Cached E)) (patterns : List Pattern) : Prop where
  sound : ∀ c ∈ objects, c.Sound
  same : objects.map (·.pattern) = patterns

section
variable {objects : List (Cached E)} {patterns : List Pattern} (stand : Stand objects patterns)
include stand

theorem Stand.set (i : Nat) {c : Cached E} (sound : c.Sound) :
    Stand (objects.set i c) (patterns.set i c.pattern) where
  sound d mem := by
    rcases List.mem_or_eq_of_mem_set mem with mem | same
    · exact stand.sound d mem
    · exact same ▸ sound
  same := by rw [List.map_set, stand.same]

theorem Stand.append {c : Cached E} (sound : c.Sound) :
    Stand (objects ++ [c]) (patterns ++ [c.pattern]) where
  sound := List.forall_mem_append.mpr ⟨stand.sound, List.forall_mem_singleton.mpr sound⟩
  same := by rw [List.map_append, stand.same, List.map_singleton]

theorem Stand.ask {i : Nat} (q : Question) :
    (objects[i]?.map fun c => (c.ask q).1) = patterns[i]?.map (·.answer E q) := by
  rw [← stand.same, List.getElem?_map, Option.map_map]
  refine Option.map_congr fun c there => ?_
  rw [ask_eq (stand.sound c (List.mem_of_getElem? there))]
  rfl

/-- Every request is answered as if nothing were kept, and nothing that is kept gets stale. -/
theorem perform_simulates (r : Request) :
    (perform objects r).1 = (Pattern.perform E patterns r).1 ∧
      Stand (perform objects r).2 (Pattern.perform E patterns r).2 := by
  unfold perform Pattern.perform
  rw [← stand.same, List.getElem?_map, stand.same]
  cases there : objects[r.subject]? with
  | none => exact ⟨rfl, stand⟩
  | some c =>
    have sound : c.Sound := stand.sound c (List.mem_of_getElem? there)
    cases r with
    | ask i q =>
      have still : patterns.set i c.pattern = patterns := by
        have here : patterns[i]? = some c.pattern := by
          rw [← stand.same, List.getElem?_map]
          exact congrArg (Option.map (·.pattern)) there
        obtain ⟨lt, found⟩ := List.getElem?_eq_some_iff.mp here
        rw [← found, List.set_getElem_self]
      have asked :
        Stand (objects.set i ⟨c.pattern, some (c.pattern.compile E)⟩) (patterns.set i c.pattern) :=
        stand.set i fun outcome kept => (Option.some.inj kept).symm
      rw [still] at asked
      show some (c.ask q).1 = some (c.pattern.answer E q) ∧
        Stand (objects.set i (c.ask q).2) patterns
      rw [ask_eq sound]
      exact ⟨rfl, asked⟩
    | setSource i source => exact ⟨rfl, stand.set i (sound_ofPattern _)⟩
    | copy i => exact ⟨rfl, stand.append (sound_ofPattern _)⟩
    | restore i k => exact ⟨rfl, stand.set i (sound_ofPattern _)⟩

theorem runRequests_simulates (requests : List Request) :
    (runRequests perform objects requests).1 =
      (runRequests (Pattern.perform E) patterns requests).1 ∧
      Stand (runRequests perform objects requests).2
        (runRequests (Pattern.perform E) patterns requests).2 := by
  induction requests generalizing objects patterns with
  | nil => exact ⟨rfl, stand⟩
  | cons r rest ih =>
    obtain ⟨answered, next⟩ := perform_simulates stand r
    obtain ⟨answers, last⟩ := ih next
    exact ⟨List.cons_eq_cons.mpr ⟨answered, answers⟩, last⟩

end

theorem stand_ofPattern (patterns : List Pattern) :
    Stand (patterns.map (ofPattern (E := E))) patterns where
  sound := List.forall_mem_map.mpr fun p _ => sound_ofPattern p
  same := by
    rw [List.map_map]
    exact List.map_id patterns

end Cached

/-- **What has been kept can not be seen.** Patterns are built and go through any requests. Every
answer is the one of a pattern that keeps nothing and has the source and the anchoring that the
asked pattern has by then, which is also the answer of a pattern that has just been built. What is
done with other patterns later, be they copies of a pattern or what it was copied from, makes no
difference to what the pattern answers. -/
theorem cache_invisible (E : Engine) (patterns : List Pattern) (requests : List Request) :
    let kept := runRequests Cached.perform (patterns.map (Cached.ofPattern (E := E))) requests
    let plain := runRequests (perform E) patterns requests
    kept.1 = plain.1 ∧ kept.2.map (·.pattern) = plain.2 ∧
    (∀ p q, p.answer E q = ((Cached.ofPattern p : Cached E).ask q).1) ∧
    (∀ later j, j < kept.2.length → (∀ r ∈ later, r.changes? ≠ some j) → ∀ q,
      (((runRequests Cached.perform kept.2 later).2[j]?).map fun c => (c.ask q).1) =
        (kept.2[j]?).map fun c => (c.ask q).1) := by
  intro kept plain
  obtain ⟨answers, stand⟩ :=
    Cached.runRequests_simulates (Cached.stand_ofPattern (E := E) patterns) requests
  refine ⟨answers, stand.same, fun p q => ?_, fun later j lt others q => ?_⟩
  · rw [Cached.ask_eq (Cached.sound_ofPattern p)]
    rfl
  · obtain ⟨-, last⟩ := Cached.runRequests_simulates stand later
    have lt' : j < plain.2.length := by
      rw [← stand.same, List.length_map]
      exact lt
    rw [last.ask q, stand.ask q, runRequests_frame lt' others]

end Conlang.Pattern
