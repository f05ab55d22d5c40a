import Mathlib.Data.List.Basic
import Mathlib.Data.List.DropRight
import RowStamp.Proofs.Json.Members
import RowStamp.Proofs.Json.Strings

/-!
A written JSON value is read back: on one line or in lines, and whatever blanks follow it.  A
number has to be an integer that 64 bits hold, since every other number is read as a binary one.
-/

set_option autoImplicit false
set_option relaxedAutoImplicit false

namespace RowStamp.Json

namespace Reader

/-! ### Blanks -/

def Blank (cs : List Char) : Prop := skipBlanks cs = []

private theorem skipBlanks_append {blanks : List Char} (blank : Blank blanks) (cs : List Char) :
    skipBlanks (blanks ++ cs) = skipBlanks cs := by
  unfold Blank skipBlanks at blank
  rw [skipBlanks, List.dropWhile_append, blank]
  rfl

private theorem skipBlanks_skipBlanks (cs : List Char) : skipBlanks
    (skipBlanks cs) = skipBlanks cs :=
  List.dropWhile_idempotent _ cs

private theorem blank_newLine (depth : Nat) : Blank (Layout.newLine depth).toList := by
  simp [Blank, skipBlanks, Layout.newLine]

private theorem blank_before (layout : Layout) : Blank layout.before.toList := by
  cases layout with
  | line => rfl
  | lines depth => exact blank_newLine (depth + 1)

private theorem blank_after (layout : Layout) : Blank layout.after.toList := by
  cases layout with
  | line => rfl
  | lines depth => exact blank_newLine depth

private theorem value_skipBlanks (fuel : Nat) (cs : List Char) :
    value fuel (skipBlanks cs) = value fuel cs := by
  cases fuel with
  | zero => rfl
  | succ fuel => rw [value, value, skipBlanks_skipBlanks]

private theorem items_skipBlanks (fuel : Nat) (cs : List Char) :
    items fuel (skipBlanks cs) = items fuel cs := by
  cases fuel with
  | zero => rfl
  | succ fuel => rw [items, items, value_skipBlanks]

private theorem members_skipBlanks (fuel : Nat) (cs : List Char) :
    members fuel (skipBlanks cs) = members fuel cs := by
  cases fuel with
  | zero => rfl
  | succ fuel => rw [members, members, skipBlanks_skipBlanks]

/-! ### Numbers -/

def Ends (rest : List Char) : Prop :=
  ∀ c more, rest = c :: more → c.isDigit = false ∧ c ≠ '.' ∧ c ≠ 'e' ∧ c ≠ 'E'

private theorem digitRun_append {digits rest : List Char} (all : ∀ c ∈ digits, c.isDigit = true)
    (ends : Ends rest) : digitRun (digits ++ rest) = (digits, rest) := by
  rw [digitRun, List.takeWhile_append_of_pos all, List.dropWhile_append_of_pos all]
  cases rest with
  | nil => simp
  | cons c more => simp [(ends c more rfl).1]

private theorem fraction_of_ends {rest : List Char} (ends : Ends rest) :
    fraction rest = some ([], rest) := by
  unfold fraction
  split
  · rename_i more
    exact absurd rfl (ends '.' more rfl).2.1
  · rfl

private theorem exponent_of_ends {rest : List Char} (ends : Ends rest) :
    exponent rest = some (none, rest) := by
  cases rest with
  | nil => rfl
  | cons c more =>
    obtain ⟨-, -, lower, upper⟩ := ends c more rfl
    simp [exponent, lower, upper]

private theorem isDigit_toDigits (n : Nat) : ∀ c ∈ Nat.toDigits 10 n, c.isDigit = true := by
  intro c found
  exact Nat.isDigit_of_mem_toDigits (by decide) (by decide) found

private theorem numberOf_toDigits (n : Nat) : numberOf (Nat.toDigits 10 n) = n := by
  have read : Nat.ofDigitChars 10 (Nat.toDigits 10 n) 0 = n :=
    Nat.ofDigitChars_toDigits (by decide) (by decide)
  rw [Nat.ofDigitChars_eq_foldl] at read
  simpa only [numberOf, Nat.mul_comm] using read

private theorem digitChar_ne_zero : ∀ d < 10, d ≠ 0 → d.digitChar ≠ '0' := by decide

private theorem head?_toDigits (n : Nat) (positive : n ≠ 0) :
    (Nat.toDigits 10 n).head? ≠ some '0' := by
  induction n using Nat.strongRecOn with
  | ind n ih =>
    rw [Nat.toDigits_eq_if (by decide)]
    split
    · rename_i small
      simpa using digitChar_ne_zero n small positive
    · have rest : (Nat.toDigits 10 (n / 10)).head? ≠ some '0' := ih (n / 10) (by omega) (by omega)
      rw [List.head?_append_of_ne_nil _ Nat.toDigits_ne_nil]
      exact rest

private theorem unsigned_toDigits {negative : Bool} {n : Nat} {i : Int} {rest : List Char}
    (written : (if negative then -(n : Int) else n) = i) (fits : fits64 i = true)
    (signed : negative = true → n ≠ 0) (ends : Ends rest) :
    unsigned negative (Nat.toDigits 10 n ++ rest) = some (.integer i, rest) := by
  subst written
  have shape : ((Nat.toDigits 10 n).isEmpty ||
      (decide ((Nat.toDigits 10 n).length ≠ 1) &&
        decide ((Nat.toDigits 10 n).head? = some '0'))) = false := by
    by_cases zero : n = 0
    · subst zero
      decide
    · simp [Nat.toDigits_ne_nil, head?_toDigits n zero]
  have minus : (negative && decide (n = 0)) = false := by
    cases negative with
    | false => rfl
    | true => simpa using signed rfl
  unfold unsigned
  simp only [digitRun_append (isDigit_toDigits n) ends, shape, Bool.false_eq_true, if_false,
    fraction_of_ends ends, exponent_of_ends ends, Option.bind_eq_bind, Option.bind_some, numberOf_toDigits,
    List.isEmpty_nil, Option.isNone_none, fits, minus, Bool.not_false, Bool.and_self, if_true,
    Option.pure_def]

private theorem toList_toString (i : Int) :
    (0 ≤ i ∧ (toString i).toList = Nat.toDigits 10 i.natAbs) ∨
      (i < 0 ∧ (toString i).toList = '-' :: Nat.toDigits 10 i.natAbs) := by
  cases i with
  | ofNat n => exact .inl ⟨Int.natCast_nonneg n, Nat.toList_repr⟩
  | negSucc n =>
    refine .inr ⟨Int.negSucc_lt_zero n, ?_⟩
    change ("-" ++ Nat.repr (n + 1)).toList = _
    rw [String.toList_append, Nat.toList_repr]
    rfl

private theorem number_of_digit {c : Char} {cs : List Char} (digit : c.isDigit = true) :
    number (c :: cs) = unsigned false (c :: cs) := by
  unfold number
  split
  · rename_i more same
    rw [(List.cons.inj same).1] at digit
    simp at digit
  · rfl

private theorem value_of_number {c : Char} {cs : List Char} (fuel : Nat)
    (starts : c.isDigit = true ∨ c = '-') : value (fuel + 1) (c :: cs) = number (c :: cs) := by
  have visible : skipBlanks (c :: cs) = c :: cs := by
    apply List.dropWhile_cons_of_neg
    simp only [Bool.or_eq_true, decide_eq_true_eq]
    rintro (((rfl | rfl) | rfl) | rfl) <;> simp at starts
  rw [value, visible]
  split
  all_goals first
    | rfl
    | (rename_i same
       rw [(List.cons.inj same).1] at starts
       simp at starts)

private theorem value_toString {i : Int} {rest : List Char} (fuel : Nat) (fits : fits64 i = true)
    (ends : Ends rest) :
    value (fuel + 1) ((toString i).toList ++ rest) = some (.integer i, rest) := by
  have whole : Nat.toDigits 10 i.natAbs ≠ [] := Nat.toDigits_ne_nil
  have all := isDigit_toDigits i.natAbs
  rcases toList_toString i with ⟨positive, written⟩ | ⟨minus, written⟩
  · have same : (if false then -(i.natAbs : Int) else i.natAbs) = i :=
      Int.natAbs_of_nonneg positive
    have read := unsigned_toDigits same fits (by simp) ends
    rw [written]
    cases digits : Nat.toDigits 10 i.natAbs with
    | nil => exact absurd digits whole
    | cons c cs =>
      rw [digits] at all read
      have digit : c.isDigit = true := all c (List.mem_cons_self ..)
      rw [List.cons_append, value_of_number fuel (.inl digit), number_of_digit digit]
      exact read
  · have same : (if true then -(i.natAbs : Int) else i.natAbs) = i := by
      rw [if_pos rfl]
      omega
    have read := unsigned_toDigits same fits (by omega) ends
    rw [written, List.cons_append, value_of_number fuel (.inr rfl)]
    exact read

/-! ### Layouts -/

private theorem value_append_blank (fuel : Nat) {blanks : List Char} (blank : Blank blanks)
    (cs : List Char) : value fuel (blanks ++ cs) = value fuel cs := by
  rw [← value_skipBlanks, skipBlanks_append blank, value_skipBlanks]

private theorem items_append_blank (fuel : Nat) {blanks : List Char} (blank : Blank blanks)
    (cs : List Char) : items fuel (blanks ++ cs) = items fuel cs := by
  rw [← items_skipBlanks, skipBlanks_append blank, items_skipBlanks]

private theorem members_append_blank (fuel : Nat) {blanks : List Char} (blank : Blank blanks)
    (cs : List Char) : members fuel (blanks ++ cs) = members fuel cs := by
  rw [← members_skipBlanks, skipBlanks_append blank, members_skipBlanks]

def joined (layout : Layout) (parts : List String) : List Char :=
  (',' :: layout.before.toList).intercalate (parts.map String.toList)

private theorem joined_single (layout : Layout) (part : String) : joined layout
    [part] = part.toList := by
  simp [joined]

private theorem joined_cons (layout : Layout) (first : String) {more : List String}
    (several : more ≠ []) :
    joined layout (first :: more) =
      first.toList ++ ',' :: (layout.before.toList ++ joined layout more) := by
  rw [joined, List.map_cons, List.intercalate_cons_of_ne_nil (by simpa using several)]
  simp [joined]

private theorem toList_bracketed (layout : Layout) (opening closing : String) (first : String)
    (more : List String) :
    (layout.bracketed opening closing (first :: more)).toList =
      opening.toList ++ (layout.before.toList ++ (joined layout (first :: more) ++
        (layout.after.toList ++ closing.toList))) := by
  simp [Layout.bracketed, joined]

private theorem ends_after (layout : Layout) {closing : Char}
    (closes : closing = ']' ∨ closing = '\x7d')
    (rest : List Char) : Ends (layout.after.toList ++ closing :: rest) := by
  intro c more same
  cases layout with
  | line =>
    obtain rfl : closing = c := (List.cons.inj same).1
    rcases closes with rfl | rfl <;> decide
  | lines depth =>
    simp only [Layout.after, Layout.newLine, String.toList_ofList, List.cons_append] at same
    obtain rfl : '\n' = c := (List.cons.inj same).1
    decide

private theorem ends_comma (rest : List Char) : Ends (',' :: rest) := by
  intro c more same
  obtain rfl : ',' = c := (List.cons.inj same).1
  decide

private theorem ends_of_blank {blanks : List Char} (blank : Blank blanks) : Ends blanks := by
  intro c more same
  subst same
  have visible := List.dropWhile_eq_nil_iff.mp blank c (List.mem_cons_self ..)
  simp only [Bool.or_eq_true, decide_eq_true_eq] at visible
  rcases visible with ((rfl | rfl) | rfl) | rfl <;> decide

/-! ### Values -/

/-- A value is read back from its written form, with fuel for its length. -/
def ReadsBack (json : Json) : Prop :=
  ∀ (layout : Layout) (fuel : Nat) (rest : List Char), Ends rest →
    (textIn layout json).toList.length ≤ fuel →
      value (fuel + 1) ((textIn layout json).toList ++ rest) = some (json, rest)

private theorem items_joined (layout : Layout) {first : Json} {more : List Json} {fuel : Nat}
    (rest : List Char) (each : ∀ item ∈ first :: more, ReadsBack item)
    (enough : (joined layout (itemTexts layout.inner (first :: more))).length + 1 < fuel) :
    items fuel (joined layout (itemTexts layout.inner (first :: more)) ++
      (layout.after.toList ++ ']' :: rest)) = some (first :: more, rest) := by
  obtain ⟨fuel, rfl⟩ : ∃ n, fuel = n + 2 := ⟨fuel - 2, by omega⟩
  -- An item costs one step of fuel, and the text behind it is shorter by its comma at least.
  induction more generalizing first fuel with
  | nil =>
    rw [itemTexts, itemTexts, joined_single] at enough ⊢
    have read := each first (List.mem_cons_self ..) layout.inner fuel _
      (ends_after layout (.inl rfl) rest) (by omega)
    rw [items, read]
    simp only [Option.bind_eq_bind, Option.bind_some, skipBlanks_append (blank_after layout)]
    rfl
  | cons second more ih =>
    rw [itemTexts, joined_cons layout _ (by simp [itemTexts])] at enough ⊢
    rw [List.length_append, List.length_cons, List.length_append] at enough
    obtain ⟨fuel, rfl⟩ : ∃ n, fuel = n + 1 := ⟨fuel - 1, by omega⟩
    have later := ih (fun item found => each item (List.mem_cons_of_mem first found)) fuel
      (by omega)
    rw [← items_append_blank _ (blank_before layout)] at later
    have read := each first (List.mem_cons_self ..) layout.inner (fuel + 1) _ (ends_comma
      (layout.before.toList ++ (joined layout (itemTexts layout.inner (second :: more)) ++
        (layout.after.toList ++ ']' :: rest)))) (by omega)
    rw [List.append_assoc, List.cons_append, List.append_assoc, items, read]
    simp only [Option.bind_eq_bind, Option.bind_some]
    change (items (fuel + 2) _).bind _ = _
    rw [later]
    rfl

private theorem toList_colon (layout : Layout) :
    ∃ blanks, layout.colon.toList = ':' :: blanks ∧ Blank blanks := by
  cases layout with
  | line => exact ⟨[], rfl, rfl⟩
  | lines depth => exact ⟨[' '], by simp [Layout.colon], rfl⟩

private theorem members_first (layout : Layout) {first : String × Json} {fuel : Nat}
    {rest more : List Char} (reads : ReadsBack first.2) (ends : Ends rest)
    (enough : (quoted first.1 ++ layout.colon ++ textIn layout first.2).toList.length ≤ fuel) :
    (skipBlanks rest = ',' :: more →
      members (fuel + 2)
          ((quoted first.1 ++ layout.colon ++ textIn layout first.2).toList ++ rest) =
        (members (fuel + 1) more).map fun found => (first :: found.1, found.2)) ∧
    (skipBlanks rest = '\x7d' :: more →
      members (fuel + 2)
          ((quoted first.1 ++ layout.colon ++ textIn layout first.2).toList ++ rest) =
        some ([first], more)) := by
  obtain ⟨blanks, colon, blank⟩ := toList_colon layout
  obtain ⟨encoded, written, string⟩ := stringRest_quoted first.1
    (':' :: (blanks ++ ((textIn layout first.2).toList ++ rest)))
  have short : (textIn layout first.2).toList.length ≤ fuel := by
    rw [String.toList_append, List.length_append] at enough
    omega
  have read : value (fuel + 1) (blanks ++ ((textIn layout first.2).toList ++ rest)) =
      some (first.2, rest) := by
    rw [value_append_blank _ blank]
    exact reads layout fuel rest ends short
  have text : (quoted first.1 ++ layout.colon ++ textIn layout first.2).toList ++ rest =
      '"' :: (encoded ++ ':' :: (blanks ++ ((textIn layout first.2).toList ++ rest))) := by
    simp [written, colon]
  have name (cs : List Char) : skipBlanks ('"' :: cs) = '"' :: cs := rfl
  have behind (cs : List Char) : skipBlanks (':' :: cs) = ':' :: cs := rfl
  rw [text, members, name]
  constructor
  · intro comma
    simp only [string, behind, read, comma, Option.bind_eq_bind, Option.bind_some]
    cases members (fuel + 1) more <;> rfl
  · intro closing
    simp only [string, behind, read, closing, Option.bind_eq_bind, Option.bind_some,
      Option.pure_def]

private theorem members_joined (layout : Layout) {first : String × Json}
    {more : List (String × Json)}
    {fuel : Nat} (rest : List Char) (each : ∀ member ∈ first :: more, ReadsBack member.2)
    (enough : (joined layout (memberTexts layout.inner (first :: more))).length + 1 < fuel) :
    members fuel (joined layout (memberTexts layout.inner (first :: more)) ++
      (layout.after.toList ++ '\x7d' :: rest)) = some (first :: more, rest) := by
  obtain ⟨fuel, rfl⟩ : ∃ n, fuel = n + 2 := ⟨fuel - 2, by omega⟩
  induction more generalizing first fuel with
  | nil =>
    rw [memberTexts, memberTexts, joined_single] at enough ⊢
    apply (members_first layout.inner (each first (List.mem_cons_self ..))
      (ends_after layout (.inr rfl) rest) (show _ ≤ fuel by omega)).2
    exact skipBlanks_append (blank_after layout) _
  | cons second more ih =>
    rw [memberTexts, joined_cons layout _ (by simp [memberTexts])] at enough ⊢
    rw [List.length_append, List.length_cons, List.length_append] at enough
    obtain ⟨fuel, rfl⟩ : ∃ n, fuel = n + 1 := ⟨fuel - 1, by omega⟩
    have later := ih (fun member found => each member (List.mem_cons_of_mem first found)) fuel
      (by omega)
    rw [← members_append_blank _ (blank_before layout)] at later
    have read := (members_first layout.inner (each first (List.mem_cons_self ..)) (ends_comma
      (layout.before.toList ++ (joined layout (memberTexts layout.inner (second :: more)) ++
        (layout.after.toList ++ '\x7d' :: rest)))) (show _ ≤ fuel + 1 by omega)).1 rfl
    rw [List.append_assoc, List.cons_append, List.append_assoc, read, later]
    rfl

private theorem items_closing (fuel : Nat) (cs : List Char) : items fuel (']' :: cs) = none := by
  have bracket (fuel : Nat) : value fuel (']' :: cs) = none := by cases fuel <;> rfl
  cases fuel with
  | zero => rfl
  | succ fuel =>
    rw [items, bracket]
    rfl

private theorem value_bracket (fuel : Nat) (cs : List Char) :
    value (fuel + 1) ('[' :: cs) =
      match skipBlanks cs with
      | ']' :: rest => some (.array [], rest)
      | rest => (items fuel rest).map fun found => (.array found.1, found.2) := rfl

private theorem value_brace (fuel : Nat) (cs : List Char) :
    value (fuel + 1) ('\x7b' :: cs) =
      match skipBlanks cs with
      | '\x7d' :: rest => some (.object [], rest)
      | rest => (members fuel rest).map fun found => (ofMembers found.1, found.2) := rfl

private theorem value_items {fuel : Nat} {cs rest : List Char} {found : List Json}
    (read : items fuel cs = some (found, rest)) :
    value (fuel + 1) ('[' :: cs) = some (.array found, rest) := by
  -- The bracket that closes an array without items starts no item, so the other case is left.
  rw [← items_skipBlanks] at read
  rw [value_bracket]
  split
  · rename_i closed
    rw [closed, items_closing] at read
    simp at read
  · rw [read]
    rfl

private theorem value_members {fuel : Nat} {cs rest : List Char} {found : List (String × Json)}
    (read : members fuel cs = some (found, rest)) :
    value (fuel + 1) ('\x7b' :: cs) = some (ofMembers found, rest) := by
  have closing (cs : List Char) : members fuel ('\x7d' :: cs) = none := by cases fuel <;> rfl
  rw [← members_skipBlanks] at read
  rw [value_brace]
  split
  · rename_i closed
    rw [closed, closing] at read
    simp at read
  · rw [read]
    rfl

end Reader

/-! ### Documents -/

/-- A value that is read as it is written: its numbers are integers that 64 bits hold, and the
members of its objects stand in order. -/
inductive Exact : Json → Prop
  | null : Exact .null
  | bool (b : Bool) : Exact (.bool b)
  | integer {i : Int} (fits : Reader.fits64 i = true) : Exact (.integer i)
  | string (s : String) : Exact (.string s)
  | array {items : List Json} (each : ∀ item ∈ items, Exact item) : Exact (.array items)
  | object {members : List (String × Json)} (sorted : Sorted members)
      (each : ∀ member ∈ members, Exact member.2) : Exact (.object members)

private theorem Exact.readsBack {json : Json} (exact : Exact json) : Reader.ReadsBack json := by
  induction exact with
  | null =>
    intro layout fuel rest ends enough
    simp [textIn, Reader.value, Reader.skipBlanks]
  | bool b =>
    intro layout fuel rest ends enough
    cases b <;> simp [textIn, Reader.value, Reader.skipBlanks]
  | integer fits =>
    intro layout fuel rest ends enough
    exact Reader.value_toString fuel fits ends
  | string s =>
    intro layout fuel rest ends enough
    obtain ⟨encoded, written, string⟩ := Reader.stringRest_quoted s rest
    rw [textIn, written, List.cons_append, Reader.value]
    change (Reader.stringRest [] (encoded ++ rest)).map _ = _
    rw [string]
    rfl
  | @array items each ih =>
    intro layout fuel rest ends enough
    cases items with
    | nil => simp [textIn, itemTexts, Layout.bracketed, Reader.value, Reader.skipBlanks]
    | cons first more =>
      have written : (textIn layout (.array (first :: more))).toList =
          '[' :: (layout.before.toList ++
            (Reader.joined layout (itemTexts layout.inner (first :: more)) ++
              (layout.after.toList ++ [']']))) := by
        rw [textIn, itemTexts, Reader.toList_bracketed]
        simp
      rw [written] at enough ⊢
      simp only [List.length_cons, List.length_append, List.length_nil] at enough
      have read := Reader.items_joined layout rest ih (show _ < fuel by omega)
      rw [← Reader.items_append_blank _ (Reader.blank_before layout)] at read
      simpa using Reader.value_items read
  | @object members sorted each ih =>
    intro layout fuel rest ends enough
    cases members with
    | nil => simp [textIn, memberTexts, Layout.bracketed, Reader.value, Reader.skipBlanks]
    | cons first more =>
      have written : (textIn layout (.object (first :: more))).toList =
          '\x7b' :: (layout.before.toList ++
            (Reader.joined layout (memberTexts layout.inner (first :: more)) ++
              (layout.after.toList ++ ['\x7d']))) := by
        rw [textIn, memberTexts, Reader.toList_bracketed]
        simp
      rw [written] at enough ⊢
      simp only [List.length_cons, List.length_append, List.length_nil] at enough
      have read := Reader.members_joined layout rest ih (show _ < fuel by omega)
      rw [← Reader.members_append_blank _ (Reader.blank_before layout)] at read
      have same := ofMembers_of_sorted sorted
      simpa [same] using Reader.value_members read

/-- A document is read as the value that is written, on one line or in lines, and with blanks
behind it. -/
theorem read?_textIn {json : Json} (exact : Exact json) (layout : Layout) {blanks : List Char}
    (blank : Reader.Blank blanks) :
    read? (textIn layout json ++ String.ofList blanks) = some json := by
  have read := exact.readsBack layout ((textIn layout json).toList ++ blanks).length blanks
    (Reader.ends_of_blank blank) (by simp)
  have text : (textIn layout json ++ String.ofList blanks).toList =
      (textIn layout json).toList ++ blanks := by simp
  rw [read?, text]
  simp only [read]
  rw [blank]
  rfl

theorem exact_ofMembers {members : List (String × Json)}
    (each : ∀ member ∈ members, Exact member.2) : Exact (ofMembers members) := by
  obtain ⟨sorted, same, inOrder, given, -⟩ := ofMembers_eq members
  rw [same]
  exact .object inOrder fun member found => each member (given member found)

end RowStamp.Json
