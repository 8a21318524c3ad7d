import Conlang.Proofs.Pattern.Reading
import Conlang.Proofs.Pattern.Tokens
import Conlang.Proofs.Pattern.Usable
import Mathlib.Data.List.TakeWhile

/-! What is read by characters.

Numbers, names and all that stands behind the first character of an escape have none of the
characters in them that mean something to the scanner (`passes_escape`). A class that is read ends
with the bracket that closes it (`isClass_of_read`). -/
namespace Conlang.Pattern
open Text

namespace Lookaround

/-! ### Mute text -/

theorem mute_append {cs ds : List Char} : Mute (cs ++ ds) ↔ Mute cs ∧ Mute ds :=
  List.forall_mem_append

theorem mute_cons {c : Char} {cs : List Char} : Mute (c :: cs) ↔ c ∉ marks ∧ Mute cs :=
  List.forall_mem_cons

/-- There is nothing for the scanner between a text and the rest of it. -/
def Passes (s rest : List Char) : Prop := ∃ cs, s = cs ++ rest ∧ Mute cs

namespace Passes

variable {s t rest : List Char}

theorem refl (s : List Char) : Passes s s := ⟨[], rfl, nofun⟩

theorem cons {c : Char} (h : Passes s rest) (silent : c ∉ marks) :
    Passes (c :: s) rest := by
  obtain ⟨cs, rfl, mute⟩ := h
  exact ⟨c :: cs, rfl, mute_cons.mpr ⟨silent, mute⟩⟩

theorem trans (h : Passes s t) (h' : Passes t rest) : Passes s rest := by
  obtain ⟨cs, rfl, mute⟩ := h
  obtain ⟨ds, rfl, mute'⟩ := h'
  exact ⟨cs ++ ds, (List.append_assoc ..).symm, mute_append.mpr ⟨mute, mute'⟩⟩

theorem dropWhile {p : Char → Bool} (other : marks.any p = false) (s : List Char) :
    Passes s (s.dropWhile p) :=
  ⟨s.takeWhile p, List.takeWhile_append_dropWhile.symm, fun c taken mark =>
    List.any_eq_false.mp other c mark (List.mem_takeWhile_imp taken)⟩

end Passes

/-! ### Numbers and names -/

theorem readNumber?_rest {s rest : List Char} {n : Nat} (read : readNumber? s = some (n, rest)) :
    rest = s.dropWhile isDigit := by
  rw [readNumber?] at read
  split at read
  · cases read
  · exact (Prod.mk.inj (Option.some.inj read)).2.symm

theorem passes_readNumber? {s rest : List Char} {n : Nat} (read : readNumber? s = some (n, rest)) :
    Passes s rest := by
  rw [readNumber?_rest read]
  exact .dropWhile (by decide) s

theorem passes_nameAfter? {close : Char} (closes : close ∉ marks) (sign : List Char)
    {body rest : List Char} {name : String}
    (read : nameAfter? close sign body = some (name, rest)) : Passes body rest := by
  have named : Passes body (body.dropWhile isNameChar) := .dropWhile (by rfl) body
  rw [nameAfter?] at read
  cases left : body.dropWhile isNameChar with
  | nil => rw [left] at read; cases read
  | cons c after =>
    rw [left] at read named
    simp only at read
    split at read
    · rename_i fits
      obtain rfl : c = close := by simp_all
      obtain ⟨-, rfl⟩ := Prod.mk.inj (Option.some.inj read)
      exact named.trans (.cons (.refl _) closes)
    · cases read

theorem passes_readName? {close : Char} (closes : close ∉ marks) {hyphen : Bool}
    {s rest : List Char} {name : String} (read : readName? close hyphen s = some (name, rest)) :
    Passes s rest := by
  by_cases signed : ∃ body, hyphen = true ∧ s = '-' :: body
  · obtain ⟨body, rfl, rfl⟩ := signed
    exact .cons (passes_nameAfter? closes ['-'] read) (by decide)
  · rw [readName?_of_ne fun body on same => signed ⟨body, on, same⟩] at read
    exact passes_nameAfter? closes [] read

/-! ### Names of properties -/

/-- A name begins with "is". -/
def saysIs : List Char → Bool
  | a :: b :: _ => a.toLower == 'i' && b.toLower == 's'
  | _ => false

/-- What is left of a name when names are compared. -/
def foldedChars (cs : List Char) : List Char :=
  ((if saysIs cs then cs.drop 2 else cs).filter fun c =>
    c.toNat < 128 && c != ' ' && c != '_' && c != '-').map Char.toLower

theorem foldName_eq (name : String) :
    foldName name =
      .ofList (if saysIs name.toList && foldedChars name.toList == ['c'] then ['i', 's', 'c']
      else foldedChars name.toList) := by
  rw [foldName, foldedChars]
  rcases name.toList with _ | ⟨a, _ | ⟨b, rest⟩⟩ <;> rfl

theorem plain_of_mem_marks : ∀ c ∈ marks, c.toLower = c ∧ c ≠ 'i' ∧ c ≠ 's' ∧ c ≠ 'c' ∧
    (c.toNat < 128 && c != ' ' && c != '_' && c != '-') = true := by
  simp only [marks, List.forall_mem_cons, List.not_mem_nil, false_imp_iff, implies_true, and_true]
  decide

theorem mem_foldedChars {cs : List Char} {c : Char} (among : c ∈ cs) (mark : c ∈ marks) :
    c ∈ foldedChars cs := by
  obtain ⟨lower, notI, notS, -, kept⟩ := plain_of_mem_marks c mark
  refine List.mem_map.mpr ⟨c, List.mem_filter.mpr ⟨?_, kept⟩, lower⟩
  rcases cs with _ | ⟨a, _ | ⟨b, rest⟩⟩
  · exact among
  · exact among
  · split
    · rename_i marked
      simp only [saysIs, Bool.and_eq_true, beq_iff_eq] at marked
      rcases List.mem_cons.mp among with rfl | among
      · exact (notI (lower.symm.trans marked.1)).elim
      rcases List.mem_cons.mp among with rfl | among
      · exact (notS (lower.symm.trans marked.2)).elim
      exact among
    · exact among

/-- The marks of the scanner are not among what is left out when names are compared. -/
theorem mem_foldName {name : String} {c : Char} (among : c ∈ name.toList) (mark : c ∈ marks) :
    c ∈ (foldName name).toList := by
  have folded := mem_foldedChars among mark
  rw [foldName_eq, String.toList_ofList]
  split
  · rename_i special
    simp only [Bool.and_eq_true, beq_iff_eq] at special
    rw [special.2, List.mem_singleton] at folded
    exact ((plain_of_mem_marks c mark).2.2.2.1 folded).elim
  · exact folded

theorem mute_of_foldName {name : String} (h : Mute (foldName name).toList) : Mute name.toList :=
  fun c among mark => h c (mem_foldName among mark) mark

theorem mute_of_isPlainName {name : String} (h : isPlainName name = true) : Mute name.toList := by
  have coded : (marks.all fun c => (String.utf8EncodeChar c).any (!isPlainByte ·)) = true := by
    decide
  intro c among mark
  obtain ⟨b, codes, other⟩ := List.any_eq_true.mp (List.all_eq_true.mp coded c mark)
  have within : b ∈ name.toByteArray.data.toList := by
    rw [← String.utf8Encode_toList, List.utf8Encode, List.data_toByteArray]
    exact List.mem_flatMap.mpr ⟨c, among, codes⟩
  rw [List.all_eq_true.mp h b within] at other
  cases other

/-- The names in a table are mute. -/
theorem mute_of_row {α : Type} {rows : List α} (names : α → List String) {row : α} {name : String}
    (all : (rows.all fun row => (names row).all isPlainName) = true)
    (found : (rows.find? fun row => (names row).contains name) = some row) : Mute name.toList :=
  mute_of_isPlainName
    (List.all_eq_true.mp (List.all_eq_true.mp all row (List.mem_of_find?_eq_some found)) name
    (by simpa using List.find?_some found))

theorem mute_of_propertyChars? {name : String} {chars : CharSet}
    (known : propertyChars? name = some chars) :
    Mute name.toList := by
  obtain ⟨row, found, -⟩ := Option.map_eq_some_iff.mp known
  exact mute_of_row Prod.fst tables_plain.1 found

theorem mute_of_categoryChars? {name : String} {chars : CharSet}
    (known : categoryChars? name = some chars) :
    Mute name.toList := by
  rw [categoryChars?] at known
  split_ifs at known with any assigned ascii
  · exact mute_of_isPlainName (any ▸ rfl)
  · exact mute_of_isPlainName (assigned ▸ rfl)
  · exact mute_of_isPlainName (ascii ▸ rfl)
  · obtain ⟨row, found, -⟩ := Option.map_eq_some_iff.mp known
    exact mute_of_row Prod.fst tables_plain.2.1 found

theorem mute_of_script {name : String} {script : Script} (known : Script.find? name = some script) :
    Mute name.toList :=
  mute_of_row Script.names tables_plain.2.2 known

theorem mute_of_namedChars? {name : String} {chars : CharSet}
    (known : namedChars? name = some chars) :
    Mute name.toList := by
  refine mute_of_foldName ?_
  rw [namedChars?] at known
  generalize foldName name = folded at known
  simp only [Option.orElse_eq_orElse, Option.orElse_eq_or, Option.or_eq_some_iff] at known
  rcases known with known | ⟨-, known | ⟨-, known⟩⟩
  · split_ifs at known
    exact mute_of_propertyChars? known
  · exact mute_of_categoryChars? known
  · obtain ⟨script, known, -⟩ := Option.map_eq_some_iff.mp known
    exact mute_of_script known

theorem mute_of_valuedChars? {name value : String} {chars : CharSet}
    (known : valuedChars? name value = some chars) : Mute name.toList ∧ Mute value.toList := by
  have kind {folded : String} (is : foldName name = folded)
      (plain : isPlainName folded = true) : Mute name.toList :=
    mute_of_foldName (is ▸ mute_of_isPlainName plain)
  have scripted {folded : String} {f : Script → CharSet} {chars : CharSet}
      (known : (Script.find? folded).map f = some chars) : Mute folded.toList := by
    obtain ⟨script, known, -⟩ := Option.map_eq_some_iff.mp known
    exact mute_of_script known
  revert known
  fun_cases valuedChars? name value with
  | case1 folded short =>
    exact fun known => ⟨kind short rfl, mute_of_foldName (mute_of_categoryChars? known)⟩
  | case2 folded long =>
    exact fun known => ⟨kind long rfl, mute_of_foldName (mute_of_categoryChars? known)⟩
  | case3 folded short => exact fun known => ⟨kind short rfl, mute_of_foldName (scripted known)⟩
  | case4 folded long => exact fun known => ⟨kind long rfl, mute_of_foldName (scripted known)⟩
  | case5 folded short => exact fun known => ⟨kind short rfl, mute_of_foldName (scripted known)⟩
  | case6 folded long => exact fun known => ⟨kind long rfl, mute_of_foldName (scripted known)⟩
  | case7 => nofun

/-! ### Escapes -/

theorem passes_ofCode {code : Nat} {s rest : List Char} {e : Escape}
    (read : Escape.ofCode code s = .ok (e, rest)) : rest = s := by
  rw [Escape.ofCode] at read
  split at read
  · exact (Prod.mk.inj (Except.ok.inj read)).2.symm
  · cases read

theorem passes_readHex {digits : Nat} {s rest : List Char} {e : Escape}
    (read : Escape.readHex digits s = .ok (e, rest)) : Passes s rest := by
  have plain : marks.any Escape.isHexDigit = false := by decide
  rw [Escape.readHex.eq_def] at read
  simp only at read
  split at read
  · rename_i short
    obtain rfl := passes_ofCode read
    refine ⟨s.take digits, (List.take_append_drop digits s).symm, fun c taken mark => ?_⟩
    simp only [Bool.and_eq_true, List.all_eq_true] at short
    exact List.any_eq_false.mp plain c mark (short.2 c taken)
  · split at read
    · rename_i body _
      split at read
      · rename_i after closed
        split at read
        · cases read
        · obtain rfl := passes_ofCode read
          have inner := Passes.dropWhile plain body
          rw [closed] at inner
          exact .cons (inner.trans (.cons (.refl _) (by decide))) (by decide)
      · cases read
    · cases read

theorem cutAt?_eq {mark s before after : List Char}
    (cut : Escape.cutAt? mark s = some (before, after)) :
    s = before ++ (mark ++ after) := by
  induction s generalizing before with
  | nil => cases cut
  | cons c rest ih =>
    rw [Escape.cutAt?] at cut
    split at cut
    · rename_i here
      obtain ⟨rfl, rfl⟩ := Prod.mk.inj (Option.some.inj cut)
      obtain ⟨behind, split⟩ := List.isPrefixOf_iff_prefix.mp here
      rw [← split, List.drop_left, List.nil_append]
    · obtain ⟨⟨before', after'⟩, found, same⟩ := Option.map_eq_some_iff.mp cut
      obtain ⟨rfl, rfl⟩ := Prod.mk.inj same
      rw [List.cons_append, ← ih found]

theorem mute_of_propertySet {foldCase negated : Bool} {text : List Char} {chars : CharSet}
    (known : Escape.propertySet foldCase negated text = .ok chars) : Mute text := by
  have mute {name : List Char} {chars : CharSet} (named : namedChars? (.ofList name) = some chars) :
      Mute name := by
    simpa using mute_of_namedChars? named
  have mutes {name mark value : List Char} {chars : CharSet} (plain : Mute mark)
      (valued : valuedChars? (.ofList name) (.ofList value) = some chars) :
      Mute (name ++ (mark ++ value)) := by
    obtain ⟨nameMute, valueMute⟩ := mute_of_valuedChars? valued
    rw [String.toList_ofList] at nameMute valueMute
    exact mute_append.mpr ⟨nameMute, mute_append.mpr ⟨plain, valueMute⟩⟩
  rw [Escape.propertySet] at known
  cases cut : Escape.cutAt? ['!', '='] text with
  | some parts =>
    simp only [cut] at known
    cases valued : valuedChars? (.ofList parts.1) (.ofList parts.2) with
    | none => simp [valued] at known
    | some chars =>
      rw [cutAt?_eq cut]
      exact mutes (by decide) valued
  | none =>
    rw [cut] at known
    cases cut' : (Escape.cutAt? [':'] text <|> Escape.cutAt? ['='] text) with
    | some parts =>
      simp only [cut'] at known
      cases valued : valuedChars? (.ofList parts.1) (.ofList parts.2) with
      | none => simp [valued] at known
      | some chars =>
        simp only [Option.orElse_eq_orElse, Option.orElse_eq_or, Option.or_eq_some_iff] at cut'
        rcases cut' with colon | ⟨-, equals⟩
        · rw [cutAt?_eq colon]
          exact mutes (by decide) valued
        · rw [cutAt?_eq equals]
          exact mutes (by decide) valued
    | none =>
      simp only [cut'] at known
      cases named : namedChars? (.ofList text) with
      | none => simp [named] at known
      | some chars => exact mute named

theorem passes_readProperty {foldCase negated : Bool} {s rest : List Char} {e : Escape}
    (read : Escape.readProperty foldCase negated s = .ok (e, rest)) : Passes s rest := by
  have known {text after : List Char}
      (read : (Escape.propertySet foldCase negated text).map (fun chars =>
        (Escape.set chars, after)) =
        .ok (e, rest)) : Mute text ∧ rest = after := by
    cases set : Escape.propertySet foldCase negated text with
    | error fault => rw [set] at read; cases read
    | ok chars =>
      rw [set] at read
      exact ⟨mute_of_propertySet set, (Prod.mk.inj (Except.ok.inj read)).2.symm⟩
  revert read
  fun_cases Escape.readProperty foldCase negated s with
  | case1 => exact fun read => by cases read
  | case2 => exact fun read => by cases read
  | case3 body name after cut =>
    intro read
    obtain ⟨mute, rfl⟩ := known read
    rw [cutAt?_eq cut]
    exact .cons (.trans ⟨name, rfl, mute⟩ (.cons (.refl _) (by decide))) (by decide)
  | case4 c after plain =>
    intro read
    obtain ⟨mute, rfl⟩ := known read
    exact ⟨[c], rfl, mute⟩

theorem passes_named {close : Char} (closes : close ∉ marks) {s rest : List Char} {e : Escape}
    (read : Escape.readOutside?.named close s = .ok (e, rest)) : Passes s rest := by
  rw [Escape.readOutside?.named] at read
  cases found : readName? close true s with
  | none => rw [found] at read; cases read
  | some name =>
    rw [found] at read
    obtain ⟨-, rfl⟩ := Prod.mk.inj (Except.ok.inj read)
    exact passes_readName? closes found

/-- An escape that takes no more of the text. -/
theorem passes_of_ok {e e' : Escape} {s rest : List Char}
    (read : (.ok (e', s) : Except Fault _) = .ok (e, rest)) :
    Passes s rest := by
  obtain ⟨-, rfl⟩ := Prod.mk.inj (Except.ok.inj read)
  exact .refl _

theorem passes_readOutside? {s rest : List Char} {e : Escape}
    (read : Escape.readOutside? s = some (.ok (e, rest))) : Passes (s.drop 1) rest := by
  have here {e' : Escape} {after : List Char}
      (read : some (.ok (e', after)) = some (Except.ok (e, rest) : Except Fault _)) :
      Passes after rest :=
    passes_of_ok (Option.some.inj read)
  have boundary {place : Assertion} {after : List Char}
      (read : some (Escape.boundary place after) = some (.ok (e, rest))) : Passes after rest := by
    rw [Escape.boundary.eq_def] at read
    split at read
    · cases read
    · exact here read
  revert read
  fun_cases Escape.readOutside? s with
  | case1 => exact here
  | case2 => exact here
  | case3 => exact boundary
  | case4 => exact boundary
  | case5 => exact here
  | case6 => exact here
  | case7 => exact here
  | case8 => exact here
  | case9 =>
    exact fun read => .cons (passes_named (by decide) (Option.some.inj read)) (by decide)
  | case10 =>
    exact fun read => .cons (passes_named (by decide) (Option.some.inj read)) (by decide)
  | case11 => exact fun read => by cases read
  | case12 => exact fun read => by cases read

/-- Nothing behind the first character of an escape means anything to the scanner. -/
theorem passes_escape {foldCase inClass : Bool} {s rest : List Char} {e : Escape}
    (read : Escape.read foldCase inClass s = .ok (e, rest)) :
    ∃ c after, s = c :: after ∧ Passes after rest := by
  cases s with
  | nil => cases read
  | cons c after =>
    refine ⟨c, after, rfl, ?_⟩
    rw [Escape.read.eq_def] at read
    simp only at read
    split at read
    · rename_i digit
      cases number : readNumber? (c :: after) with
      | none => rw [number] at read; cases read
      | some found =>
        rw [number] at read
        obtain ⟨-, rfl⟩ := Prod.mk.inj (Except.ok.inj read)
        rw [readNumber?_rest number, List.dropWhile_cons_of_pos digit]
        exact .dropWhile (by decide) after
    · cases outside : (if inClass then none else Escape.readOutside? (c :: after)) with
      | some answer =>
        rw [outside] at read
        cases inClass with
        | true => cases outside
        | false => exact passes_readOutside? (s := c :: after) (outside.trans (congrArg some read))
      | none =>
        rw [outside] at read
        simp only at read
        cases set : Escape.letterSet? c with
        | some chars =>
          rw [set] at read
          exact passes_of_ok read
        | none =>
          rw [set] at read
          simp only at read
          split at read
          · exact passes_readHex read
          · exact passes_readHex read
          · exact passes_readHex read
          · exact passes_readProperty read
          · exact passes_readProperty read
          · cases named : Escape.letterChar? c with
            | some named' =>
              rw [named] at read
              exact passes_of_ok read
            | none =>
              rw [named] at read
              simp only at read
              split at read
              · cases read
              · exact passes_of_ok read

/-! ### Classes -/

theorem closes_append {nest : Nat} {cs : List Char} (mute : Mute cs) (s : List Char) :
    closes nest (cs ++ s) = closes nest s := by
  induction cs with
  | nil => rfl
  | cons c cs ih =>
    obtain ⟨first, others⟩ := mute_cons.mp mute
    simp only [marks, List.mem_cons, List.not_mem_nil, or_false, not_or] at first
    obtain ⟨-, opens, closes', plain⟩ := first
    rw [List.cons_append, closes, if_neg (fun both => closes' both.1), nestAfter, if_neg opens,
      if_neg closes', ih others]
    exact fun _ _ same => absurd same plain

theorem passes_scanEscape {foldCase : Bool} {s rest : List Char} {tokens : List CharClass.Token}
    (read : CharClass.scanEscape foldCase s = .ok (tokens, rest)) :
    ∃ c after, s = c :: after ∧ Passes after rest := by
  rw [CharClass.scanEscape.eq_def] at read
  split at read
  · obtain ⟨-, rfl⟩ := Prod.mk.inj (Except.ok.inj read)
    exact ⟨_, _, rfl, .refl _⟩
  · obtain ⟨-, rfl⟩ := Prod.mk.inj (Except.ok.inj read)
    exact ⟨_, _, rfl, .refl _⟩
  · split at read
    · rename_i escape
      obtain ⟨-, rfl⟩ := Prod.mk.inj (Except.ok.inj read)
      exact passes_escape escape
    · rename_i escape
      obtain ⟨-, rfl⟩ := Prod.mk.inj (Except.ok.inj read)
      exact passes_escape escape
    · cases read
    · cases read

theorem closes_of_scan {foldCase : Bool} {fuel nest : Nat} {s rest : List Char}
    {tokens : List CharClass.Token}
    (read : CharClass.scan foldCase fuel nest s = .ok (tokens, rest)) :
    ∃ cs, s = cs ++ rest ∧ closes nest cs = true := by
  fun_induction CharClass.scan foldCase fuel nest s generalizing tokens with
  | case1 => cases read
  | case2 => cases read
  | case3 fuel nest s ih =>
    obtain ⟨⟨found, left⟩, escape, read⟩ := bind_eq_ok_iff.mp read
    obtain ⟨⟨more, left'⟩, scanned, read⟩ := bind_eq_ok_iff.mp read
    obtain ⟨-, rfl⟩ := Prod.mk.inj (Except.ok.inj read)
    obtain ⟨c, after, rfl, taken, rfl, mute⟩ := passes_scanEscape escape
    obtain ⟨cs, rfl, closed⟩ := ih left scanned
    refine ⟨'\\' :: c :: (taken ++ cs), by simp, ?_⟩
    rw [closes, closes_append mute, closed]
  | case4 fuel nest c s escape ends =>
    simp only [Bool.and_eq_true, decide_eq_true_eq] at ends
    obtain ⟨rfl, rfl⟩ := ends
    obtain ⟨-, rfl⟩ := Prod.mk.inj (Except.ok.inj read)
    exact ⟨[']'], rfl, rfl⟩
  | case5 fuel nest c s escape stays nest' =>
    rename_i ih
    obtain ⟨⟨more, left⟩, scanned, read⟩ := bind_eq_ok_iff.mp read
    obtain ⟨-, rfl⟩ := Prod.mk.inj (Except.ok.inj read)
    obtain ⟨cs, rfl, closed⟩ := ih scanned
    simp only [Bool.and_eq_true, decide_eq_true_eq] at stays
    refine ⟨c :: cs, rfl, ?_⟩
    rw [closes, if_neg stays]
    · exact closed
    · exact fun _ _ same => (escape same).elim

theorem lead_eq (c : Char) (s : List Char) : (CharClass.lead c s).2 = behind c s := by
  cases s with
  | nil => rfl
  | cons d rest =>
    rw [CharClass.lead, behind, List.head?_cons, List.tail_cons]
    split_ifs <;> simp_all

/-- What is left behind a leading character is cut with it. -/
theorem exists_of_behind {c : Char} {s cs rest : List Char} (left : behind c s = cs ++ rest)
    (begun : cs ≠ []) : ∃ body, body ≠ [] ∧ s = body ++ rest ∧ behind c body = cs := by
  by_cases first : ∃ t, s = c :: t
  · obtain ⟨t, rfl⟩ := first
    obtain rfl : t = cs ++ rest := (if_pos rfl).symm.trans left
    exact ⟨c :: cs, List.cons_ne_nil _ _, rfl, if_pos rfl⟩
  · have other : ∀ t, s ≠ c :: t := fun t same => first ⟨t, same⟩
    obtain rfl : s = cs ++ rest := (behind_of_ne other).symm.trans left
    refine ⟨cs, begun, rfl, behind_of_ne fun t same => other (t ++ rest) ?_⟩
    rw [same, List.cons_append]

/-- **A class that is read ends with the bracket that closes it.** -/
theorem isClass_of_read {foldCase : Bool} {s rest : List Char} {chars : CharSet}
    (read : CharClass.read foldCase s = .ok (chars, rest)) :
    ∃ body, s = body ++ rest ∧ IsClass body := by
  rw [CharClass.read] at read
  obtain ⟨⟨tokens, left⟩, opened, read⟩ := bind_eq_ok_iff.mp read
  obtain ⟨⟨members, remaining⟩, -, read⟩ := bind_eq_ok_iff.mp read
  cases remaining with
  | cons t ts => cases read
  | nil =>
    obtain ⟨-, rfl⟩ := Prod.mk.inj (Except.ok.inj read)
    rw [CharClass.scanOpened_eq] at opened
    obtain ⟨⟨more, left'⟩, scanned, opened⟩ := bind_eq_ok_iff.mp opened
    obtain ⟨-, rfl⟩ := Prod.mk.inj (Except.ok.inj opened)
    obtain ⟨cs, members, closed⟩ := closes_of_scan scanned
    rw [lead_eq, lead_eq] at members
    have begun : cs ≠ [] := by
      rintro rfl
      cases closed
    obtain ⟨inner, begun', uncaret, rfl⟩ := exists_of_behind members begun
    obtain ⟨body, -, rfl, rfl⟩ := exists_of_behind uncaret begun'
    exact ⟨body, rfl, closed⟩

end Lookaround

end Conlang.Pattern
