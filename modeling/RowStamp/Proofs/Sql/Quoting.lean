import Mathlib.Data.List.Induction
import Mathlib.Tactic.SplitIfs
import RowStamp.Sql.Lexer.Strings
import RowStamp.Text.Quoted

/-!
Quoted text that is written and read again.  A quote is doubled when it is written unless a quote
or a backslash is next to it, and a doubled quote is one when it is read, so that a text is read
as it was exactly where no quote follows a quote or a backslash and no backslash escapes.
-/

set_option autoImplicit false
set_option relaxedAutoImplicit false

namespace RowStamp.Sql

open RowStamp.Text.Quoted (encode)

def StringRule.Marked (rule : StringRule) : Prop :=
  rule.quote = '\'' ∨ rule.quote = '"' ∨ rule.quote = '\x60'

private theorem StringRule.Marked.ne_backslash {rule : StringRule} (mark : rule.Marked) :
    rule.quote ≠ '\\' := by
  rcases mark with same | same | same <;> simp [same]

private theorem StringRule.Marked.ne_of_wildcard {rule : StringRule} (mark : rule.Marked) {c : Char}
    (wildcard : c = '%' ∨ c = '_') : c ≠ rule.quote ∧ c ≠ '\\' := by
  rcases wildcard with rfl | rfl <;> rcases mark with same | same | same <;> simp [same]

def survives (rule : StringRule) : List Char → Bool
  | [] => true
  | c :: cs =>
    let fits := if c = rule.quote then cs.head? ≠ some rule.quote
      else if c = '\\' then cs.head? ≠ some rule.quote &&
        (!rule.backslash ||
          (rule.keepWildcards && (cs.head? = some '%' || cs.head? = some '_')))
      else true
    fits && survives rule cs

variable {rule : StringRule} {post : List Char}

private theorem encode_cons_of_ne (quote : Char) (escaped : Bool) {c : Char} (cs : List Char)
    (other : c ≠ quote) : encode quote escaped (c :: cs) = c :: encode quote (c = '\\') cs := by
  cases cs with
  | nil => simp [encode, other]
  | cons d ds => simp [encode, other]

private theorem encode_quote_escaped (quote : Char) (cs : List Char) :
    encode quote true (quote :: cs) = quote :: encode quote true cs := by
  cases cs with
  | nil => simp [encode]
  | cons d ds => simp [encode]

private theorem encode_quote_quote (quote : Char) (cs : List Char) :
    encode quote false (quote :: quote :: cs) = quote :: quote :: encode quote false cs := by
  simp [encode]

private theorem encode_quote (quote : Char) {cs : List Char} (other : cs.head? ≠ some quote) :
    encode quote false (quote :: cs) = quote :: quote :: encode quote false cs := by
  cases cs with
  | nil => simp [encode]
  | cons d ds =>
    have next : d ≠ quote := by simpa using other
    simp [encode, next]

/-! ### Reading step by step -/

private theorem stringValue_close (apart : post.head? ≠ some rule.quote) :
    stringValue rule (rule.quote :: post) = some ([], post) := by
  cases post with
  | nil => simp [stringValue]
  | cons d ds =>
    have next : d ≠ rule.quote := by simpa using apart
    simp [stringValue, next]

private theorem stringValue_doubled (cs : List Char) :
    stringValue rule (rule.quote :: rule.quote :: cs) =
      (stringValue rule cs).map fun (v, r) => (rule.quote :: v, r) := by
  simp [stringValue]

private theorem stringValue_plain {c : Char} (cs : List Char) (other : c ≠ rule.quote)
    (kept : ¬(c = '\\' ∧ rule.backslash = true)) :
    stringValue rule (c :: cs) = (stringValue rule cs).map fun (v, r) => (c :: v, r) := by
  rw [stringValue.eq_def]
  simp only [other, if_false]
  rw [if_neg (by simpa using kept)]

private theorem map_value_eq_some {read? : Option (List Char × List Char)}
    {f : List Char → List Char} {value rest : List Char} :
    (read?.map fun (v, r) => (f v, r)) = some (value, rest) ↔
      ∃ inner, read? = some (inner, rest) ∧ f inner = value := by
  constructor
  · intro mapped
    obtain ⟨⟨inner, other⟩, found, same⟩ := Option.map_eq_some_iff.mp mapped
    obtain ⟨made, rfl⟩ := Prod.mk.inj same
    exact ⟨inner, found, made⟩
  · rintro ⟨inner, rfl, rfl⟩
    rfl

private theorem length_lt_of_stringValue {cs value rest : List Char}
    (read : stringValue rule cs = some (value, rest)) : rest.length < cs.length := by
  fun_induction stringValue rule cs generalizing value rest with
  | case1 => simp at read
  | case2 ds ih =>
    obtain ⟨inner, found, -⟩ := map_value_eq_some.mp read
    exact Nat.lt_succ_of_lt (Nat.lt_succ_of_lt (ih found))
  | case3 =>
    obtain ⟨-, rfl⟩ := Prod.mk.inj (Option.some.inj read)
    exact Nat.lt_succ_self _
  | case4 =>
    obtain ⟨-, rfl⟩ := Prod.mk.inj (Option.some.inj read)
    exact Nat.lt_succ_self _
  | case5 c other escapes d ds wild ih =>
    obtain ⟨inner, found, -⟩ := (map_value_eq_some (f := fun v => c :: d :: v)).mp read
    exact Nat.lt_succ_of_lt (Nat.lt_succ_of_lt (ih found))
  | case6 c other escapes d ds wild ih =>
    obtain ⟨inner, found, -⟩ := map_value_eq_some.mp read
    exact Nat.lt_succ_of_lt (Nat.lt_succ_of_lt (ih found))
  | case7 => simp at read
  | case8 c cs other kept ih =>
    obtain ⟨inner, found, -⟩ := map_value_eq_some.mp read
    exact Nat.lt_succ_of_lt (ih found)

def escapeValue (rule : StringRule) (d : Char) : List Char :=
  if rule.keepWildcards && (d = '%' || d = '_') then ['\\', d] else [backslashed d]

private theorem length_escapeValue (rule : StringRule) (d : Char) : (escapeValue rule d).length =
    if rule.keepWildcards = true ∧ (d = '%' ∨ d = '_') then 2 else 1 := by
  simp only [escapeValue, Bool.and_eq_true, Bool.or_eq_true, decide_eq_true_eq]
  split <;> rfl

private theorem stringValue_backslash (d : Char) (cs : List Char) (quote : rule.quote ≠ '\\')
    (escapes : rule.backslash = true) :
    stringValue rule ('\\' :: d :: cs) =
      (stringValue rule cs).map fun (v, r) => (escapeValue rule d ++ v, r) := by
  rw [stringValue, escapeValue]
  simp only [quote.symm, if_false, escapes, Bool.and_true, decide_true, if_true]
  split_ifs <;> rfl

/-! ### Reading what is written, step by step -/

section Written

variable {cs ds tail : List Char} {c d : Char}

private theorem stringValue_encode_plain (escaped : Bool) (other : c ≠ rule.quote)
    (kept : ¬(c = '\\' ∧ rule.backslash = true)) :
    stringValue rule (encode rule.quote escaped (c :: cs) ++ tail) =
      (stringValue rule (encode rule.quote (c = '\\') cs ++ tail)).map
        fun (v, r) => (c :: v, r) := by
  rw [encode_cons_of_ne _ _ _ other, List.cons_append, stringValue_plain _ other kept]

private theorem stringValue_encode_quote (other : cs.head? ≠ some rule.quote) :
    stringValue rule (encode rule.quote false (rule.quote :: cs) ++ tail) =
      (stringValue rule (encode rule.quote false cs ++ tail)).map
        fun (v, r) => (rule.quote :: v, r) := by
  rw [encode_quote _ other, List.cons_append, List.cons_append, stringValue_doubled]

private theorem stringValue_encode_pair (rule : StringRule) (escaped : Bool) (ds : List Char) :
    ∃ flag, stringValue rule (encode rule.quote escaped (rule.quote :: rule.quote :: ds) ++ tail) =
      (stringValue rule (encode rule.quote flag ds ++ tail)).map
        fun (v, r) => (rule.quote :: v, r) := by
  cases escaped with
  | true =>
    refine ⟨true, ?_⟩
    rw [encode_quote_escaped, encode_quote_escaped, List.cons_append, List.cons_append,
      stringValue_doubled]
  | false =>
    refine ⟨false, ?_⟩
    rw [encode_quote_quote, List.cons_append, List.cons_append, stringValue_doubled]

private theorem stringValue_encode_early (next : d ≠ rule.quote) :
    stringValue rule (encode rule.quote true (rule.quote :: d :: ds) ++ tail) =
      some ([], encode rule.quote true (d :: ds) ++ tail) := by
  rw [encode_quote_escaped, List.cons_append, encode_cons_of_ne _ _ _ next, List.cons_append,
    stringValue_close (by simpa using next)]

private theorem stringValue_encode_open :
    stringValue rule (encode rule.quote true [rule.quote] ++ rule.quote :: post) =
      (stringValue rule post).map fun (v, r) => (rule.quote :: v, r) := by
  rw [encode_quote_escaped, Text.Quoted.encode_nil, List.cons_append, List.nil_append,
    stringValue_doubled]

private theorem stringValue_encode_escape (escaped : Bool) (d : Char) (ds : List Char)
    (quote : rule.quote ≠ '\\') (escapes : rule.backslash = true) :
    ∃ flag, stringValue rule (encode rule.quote escaped ('\\' :: d :: ds) ++ tail) =
      (stringValue rule (encode rule.quote flag ds ++ tail)).map
        fun (v, r) => (escapeValue rule d ++ v, r) := by
  obtain ⟨flag, head⟩ : ∃ flag, encode rule.quote true (d :: ds) =
      d :: encode rule.quote flag ds := by
    by_cases next : d = rule.quote
    · subst next
      exact ⟨true, encode_quote_escaped _ _⟩
    · exact ⟨_, encode_cons_of_ne _ _ _ next⟩
  refine ⟨flag, ?_⟩
  rw [encode_cons_of_ne _ _ _ quote.symm, decide_eq_true rfl, head, List.cons_append,
    List.cons_append, stringValue_backslash _ _ quote escapes]

private theorem stringValue_encode_hidden (escaped : Bool) (quote : rule.quote ≠ '\\')
    (escapes : rule.backslash = true) :
    stringValue rule (encode rule.quote escaped ['\\'] ++ rule.quote :: post) =
      (stringValue rule post).map fun (v, r) => (escapeValue rule rule.quote ++ v, r) := by
  rw [encode_cons_of_ne _ _ _ quote.symm, Text.Quoted.encode_nil, List.cons_append,
    List.nil_append, stringValue_backslash _ _ quote escapes]

end Written

/-- How a text goes on, as far as one step of reading it after it is written tells, with the flag
set after a backslash. -/
inductive Onset (rule : StringRule) : Bool → List Char → Prop
  | none {escaped : Bool} : Onset rule escaped []
  | plain {escaped : Bool} (c : Char) (cs : List Char) (other : c ≠ rule.quote)
      (kept : ¬(c = '\\' ∧ rule.backslash = true)) : Onset rule escaped (c :: cs)
  | quote (cs : List Char) (other : cs.head? ≠ some rule.quote) : Onset rule false (rule.quote :: cs)
  | pair {escaped : Bool} (ds : List Char) : Onset rule escaped (rule.quote :: rule.quote :: ds)
  | early (d : Char) (ds : List Char) (next : d ≠ rule.quote) :
      Onset rule true (rule.quote :: d :: ds)
  | opened : Onset rule true [rule.quote]
  | escape {escaped : Bool} (d : Char) (ds : List Char) (escapes : rule.backslash = true) :
      Onset rule escaped ('\\' :: d :: ds)
  | hidden {escaped : Bool} (escapes : rule.backslash = true) : Onset rule escaped ['\\']

private theorem onset (rule : StringRule) (escaped : Bool) (cs : List Char) :
    Onset rule escaped cs := by
  cases cs with
  | nil => exact .none
  | cons c cs =>
    by_cases quoted : c = rule.quote
    · subst quoted
      cases cs with
      | nil =>
        cases escaped with
        | true => exact .opened
        | false => exact .quote [] (by simp)
      | cons d ds =>
        by_cases next : d = rule.quote
        · subst next
          exact .pair ds
        · cases escaped with
          | true => exact .early d ds next
          | false => exact .quote (d :: ds) (by simpa using next)
    · by_cases escapes : c = '\\' ∧ rule.backslash = true
      · obtain ⟨rfl, escapes⟩ := escapes
        cases cs with
        | nil => exact .hidden escapes
        | cons d ds => exact .escape d ds escapes
      · exact .plain c cs quoted escapes

/-! ### What is written is read -/

private theorem survives_cons {c : Char} {cs : List Char} :
    survives rule (c :: cs) = true ↔
      (c = rule.quote → cs.head? ≠ some rule.quote) ∧
      (c ≠ rule.quote → c = '\\' → cs.head? ≠ some rule.quote ∧
        (rule.backslash = true → rule.keepWildcards = true ∧
          (cs.head? = some '%' ∨ cs.head? = some '_'))) ∧ survives rule cs = true := by
  simp only [survives]
  split_ifs with quote back
  · simp [quote]
  · subst back
    cases rule.backslash <;> simp [quote]
  · simp [quote, back]

private theorem stringValue_encode (mark : rule.Marked) (apart : post.head? ≠ some rule.quote)
    {cs : List Char} (fine : survives rule cs = true) :
    stringValue rule (encode rule.quote false cs ++ rule.quote :: post) = some (cs, post) := by
  induction cs with
  | nil => simpa using stringValue_close apart
  | cons c cs ih =>
    obtain ⟨afterQuote, afterBackslash, later⟩ := survives_cons.mp fine
    by_cases quoted : c = rule.quote
    · rw [quoted, stringValue_encode_quote (afterQuote quoted), ih later]
      rfl
    · have flag : encode rule.quote (c = '\\') cs = encode rule.quote false cs := by
        cases cs with
        | nil => simp
        | cons d ds =>
          by_cases back : c = '\\'
          · have other : d ≠ rule.quote := by simpa using (afterBackslash quoted back).1
            rw [encode_cons_of_ne _ _ _ other, encode_cons_of_ne _ _ _ other]
          · simp [back]
      rw [encode_cons_of_ne _ _ _ quoted, flag, List.cons_append]
      by_cases escapes : c = '\\' ∧ rule.backslash = true
      · obtain ⟨back, on⟩ := escapes
        obtain ⟨other, kept⟩ := afterBackslash quoted back
        obtain ⟨keeps, wild⟩ := kept on
        cases cs with
        | nil => simp at wild
        | cons d ds =>
          have next : d ≠ rule.quote := by simpa using other
          have wildcard : d = '%' ∨ d = '_' := by simpa using wild
          have kept : ¬(d = '\\' ∧ rule.backslash = true) := by
            rcases wildcard with rfl | rfl <;> simp
          have inner := ih later
          rw [encode_cons_of_ne _ _ _ next, List.cons_append, stringValue_plain _ next kept] at inner
          obtain ⟨value, found, same⟩ := map_value_eq_some.mp inner
          rw [back, encode_cons_of_ne _ _ _ next, List.cons_append,
            stringValue_backslash _ _ mark.ne_backslash on, found]
          rcases wildcard with rfl | rfl <;> simp [escapeValue, keeps, ← same]
      · rw [stringValue_plain _ quoted escapes, ih later]
        rfl

private theorem length_le_of_stringValue (mark : rule.Marked) (apart : post.head? ≠ some rule.quote)
    {escaped : Bool} {cs value : List Char}
    (read : stringValue rule (encode rule.quote escaped cs ++ rule.quote :: post) =
      some (value, post)) :
    value.length ≤ cs.length ∧ (value.length = cs.length →
      (escaped = true → cs.head? ≠ some rule.quote) ∧ survives rule cs = true) := by
  induction size : cs.length using Nat.strongRecOn generalizing escaped cs value with
  | ind n ih =>
  subst size
  cases onset rule escaped cs with
  | none =>
    rw [Text.Quoted.encode_nil, List.nil_append, stringValue_close apart] at read
    obtain ⟨rfl, -⟩ := Prod.mk.inj (Option.some.inj read)
    exact ⟨Nat.le_refl _, fun _ => ⟨by simp, rfl⟩⟩
  | plain c cs other kept =>
    rw [stringValue_encode_plain _ other kept] at read
    obtain ⟨inner, found, rfl⟩ := map_value_eq_some.mp read
    obtain ⟨bound, exact'⟩ := ih cs.length (Nat.lt_succ_self _) found rfl
    refine ⟨Nat.succ_le_succ bound, fun same => ⟨by simp [other], ?_⟩⟩
    obtain ⟨head, later⟩ := exact' (Nat.succ.inj same)
    refine survives_cons.mpr ⟨fun same => absurd same other, fun _ back => ⟨?_, ?_⟩, later⟩
    · exact head (by simp [back])
    · exact fun on => absurd ⟨back, on⟩ kept
  | quote cs other =>
    rw [stringValue_encode_quote other] at read
    obtain ⟨inner, found, rfl⟩ := map_value_eq_some.mp read
    obtain ⟨bound, exact'⟩ := ih cs.length (Nat.lt_succ_self _) found rfl
    refine ⟨Nat.succ_le_succ bound, fun same => ⟨by simp, ?_⟩⟩
    exact survives_cons.mpr ⟨fun _ => other, by simp, (exact' (Nat.succ.inj same)).2⟩
  | pair ds =>
    obtain ⟨flag, step⟩ := stringValue_encode_pair rule _ ds
    rw [step] at read
    obtain ⟨inner, found, rfl⟩ := map_value_eq_some.mp read
    obtain ⟨bound, -⟩ := ih ds.length (Nat.lt_succ_of_lt (Nat.lt_succ_self _)) found rfl
    simp only [List.length_cons]
    exact ⟨by omega, fun same => by omega⟩
  | early d ds next =>
    rw [stringValue_encode_early next] at read
    have lengths := congrArg List.length (Prod.mk.inj (Option.some.inj read)).2
    simp only [List.length_append, List.length_cons] at lengths
    omega
  | opened =>
    rw [stringValue_encode_open] at read
    obtain ⟨inner, found, -⟩ := map_value_eq_some.mp read
    exact absurd (length_lt_of_stringValue found) (Nat.lt_irrefl _)
  | escape d ds escapes =>
    obtain ⟨flag, step⟩ := stringValue_encode_escape _ d ds
      mark.ne_backslash escapes
    rw [step] at read
    obtain ⟨inner, found, rfl⟩ := map_value_eq_some.mp read
    obtain ⟨bound, exact'⟩ := ih ds.length (Nat.lt_succ_of_lt (Nat.lt_succ_self _)) found rfl
    have width := length_escapeValue rule d
    split at width
    · rename_i wild
      obtain ⟨keeps, wildcard⟩ := wild
      obtain ⟨apart, plain⟩ := mark.ne_of_wildcard wildcard
      simp only [List.length_append, width, List.length_cons]
      refine ⟨by omega, fun same => ⟨by simp [mark.ne_backslash.symm], ?_⟩⟩
      refine survives_cons.mpr ⟨fun same => absurd same mark.ne_backslash.symm, fun _ _ => ?_, ?_⟩
      · simp [apart, keeps, wildcard]
      · exact survives_cons.mpr ⟨fun same => absurd same apart,
          fun _ back => absurd back plain, (exact' (by omega)).2⟩
    · simp only [List.length_append, width, List.length_cons]
      exact ⟨by omega, fun same => by omega⟩
  | hidden escapes =>
    rw [stringValue_encode_hidden _ mark.ne_backslash escapes] at read
    obtain ⟨inner, found, -⟩ := map_value_eq_some.mp read
    exact absurd (length_lt_of_stringValue found) (Nat.lt_irrefl _)

private theorem stringValue_encode_iff (mark : rule.Marked) (apart : post.head? ≠ some rule.quote)
    (cs : List Char) :
    stringValue rule (encode rule.quote false cs ++ rule.quote :: post) = some (cs, post) ↔
      survives rule cs = true := by
  constructor
  · intro read
    exact ((length_le_of_stringValue mark apart read).2 rfl).2
  · exact stringValue_encode mark apart

/-- What a text between quotes is read as, where it is read up to its closing quote. -/
def readBack (rule : StringRule) (cs : List Char) : Option (List Char) :=
  match stringValue rule (encode rule.quote false cs ++ [rule.quote]) with
  | some (value, []) => some value
  | _ => none

theorem readBack_eq_some_iff {cs value : List Char} :
    readBack rule cs = some value ↔
      stringValue rule (encode rule.quote false cs ++ [rule.quote]) = some (value, []) := by
  unfold readBack
  split
  · rename_i found read
    simp [read]
  · rename_i other
    constructor
    · simp
    · exact fun read => absurd read (other value)

theorem readBack_eq_self_iff (mark : rule.Marked) (cs : List Char) :
    readBack rule cs = some cs ↔ survives rule cs = true :=
  readBack_eq_some_iff.trans (stringValue_encode_iff mark (by simp) cs)

theorem stringValue_append (mark : rule.Marked) (apart : post.head? ≠ some rule.quote)
    {cs value : List Char} (read : stringValue rule (cs ++ [rule.quote]) = some (value, [])) :
    stringValue rule (cs ++ rule.quote :: post) = some (value, post) := by
  induction cs using List.twoStepInduction generalizing value with
  | nil =>
    rw [List.nil_append, stringValue_close (by simp)] at read
    obtain ⟨rfl, -⟩ := Prod.mk.inj (Option.some.inj read)
    exact stringValue_close apart
  | singleton c =>
    by_cases quoted : c = rule.quote
    · rw [quoted, List.cons_append, List.nil_append, stringValue_doubled] at read
      simp [stringValue] at read
    · rw [List.cons_append, List.nil_append] at read ⊢
      by_cases escapes : c = '\\' ∧ rule.backslash = true
      · obtain ⟨rfl, on⟩ := escapes
        rw [stringValue_backslash _ _ mark.ne_backslash on] at read
        simp [stringValue] at read
      · rw [stringValue_plain _ quoted escapes, stringValue_close (by simp)] at read
        rw [stringValue_plain _ quoted escapes, stringValue_close apart]
        obtain ⟨rfl, -⟩ := Prod.mk.inj (Option.some.inj read)
        rfl
  | cons_cons c d ds two one =>
    rw [List.cons_append] at read ⊢
    by_cases quoted : c = rule.quote
    · subst quoted
      by_cases next : d = rule.quote
      · rw [next, List.cons_append, stringValue_doubled] at read ⊢
        obtain ⟨inner, found, rfl⟩ := map_value_eq_some.mp read
        rw [two found]
        rfl
      · rw [stringValue_close (by simpa using next)] at read
        simp at read
    · by_cases escapes : c = '\\' ∧ rule.backslash = true
      · obtain ⟨rfl, on⟩ := escapes
        rw [List.cons_append, stringValue_backslash _ _ mark.ne_backslash on] at read ⊢
        obtain ⟨inner, found, rfl⟩ := map_value_eq_some.mp read
        rw [two found]
        rfl
      · rw [stringValue_plain _ quoted escapes] at read ⊢
        obtain ⟨inner, found, rfl⟩ := map_value_eq_some.mp read
        rw [one d found]
        rfl

theorem survives_of_notMem {cs : List Char} (quote : rule.quote ∉ cs) (back : '\\' ∉ cs) :
    survives rule cs = true := by
  induction cs with
  | nil => rfl
  | cons c cs ih =>
    simp only [List.mem_cons, not_or] at quote back
    exact survives_cons.mpr ⟨fun same => absurd same.symm quote.1,
      fun _ same => absurd same.symm back.1, ih quote.2 back.2⟩

/-! ### Texts that are read past their closing quote -/

section Plain

variable {rest : List Char}

private theorem stringValue_ne_cons_quote (plain : rule.backslash = false) {cs value : List Char}
    (apart : cs.head? ≠ some rule.quote) :
    stringValue rule cs ≠ some (rule.quote :: value, rest) := by
  intro read
  cases cs with
  | nil => simp [stringValue] at read
  | cons c cs =>
    have other : c ≠ rule.quote := by simpa using apart
    rw [stringValue_plain cs other (by simp [plain])] at read
    obtain ⟨inner, -, same⟩ := map_value_eq_some.mp read
    exact other (List.cons.inj same).1

private theorem stringValue_ne_nil (plain : rule.backslash = false) {cs : List Char}
    (apart : cs.head? ≠ some rule.quote) : stringValue rule cs ≠ some ([], rest) := by
  intro read
  cases cs with
  | nil => simp [stringValue] at read
  | cons c cs =>
    have other : c ≠ rule.quote := by simpa using apart
    rw [stringValue_plain cs other (by simp [plain])] at read
    obtain ⟨inner, -, same⟩ := map_value_eq_some.mp read
    simp at same

private theorem replicate_append_cons (n : Nat) (c : Char) (cs : List Char) :
    List.replicate n c ++ c :: cs = List.replicate (n + 1) c ++ cs := by
  rw [List.replicate_succ', List.append_assoc, List.singleton_append]

/-- Once quotes are lost, what is read does not catch up. -/
theorem stringValue_ne_lagging (plain : rule.backslash = false)
    (apart : post.head? ≠ some rule.quote) {escaped : Bool} {cs : List Char} (n : Nat) :
    stringValue rule (encode rule.quote escaped cs ++ rule.quote :: post) ≠
      some (List.replicate (n + 1) rule.quote ++ cs, rest) := by
  intro read
  induction size : cs.length using Nat.strongRecOn generalizing escaped cs n with
  | ind m ih =>
  subst size
  cases onset rule escaped cs with
  | none =>
    rw [Text.Quoted.encode_nil, List.nil_append, stringValue_close apart] at read
    simp [List.replicate_succ] at read
  | plain c cs other kept =>
    rw [stringValue_encode_plain _ other kept] at read
    obtain ⟨inner, -, same⟩ := map_value_eq_some.mp read
    exact other (List.cons.inj same).1
  | quote cs other =>
    rw [stringValue_encode_quote other, replicate_append_cons, List.replicate_succ,
      List.cons_append] at read
    obtain ⟨inner, found, same⟩ := map_value_eq_some.mp read
    rw [(List.cons.inj same).2] at found
    exact ih cs.length (Nat.lt_succ_self _) n found rfl
  | pair ds =>
    obtain ⟨flag, step⟩ := stringValue_encode_pair rule _ ds
    rw [step, replicate_append_cons, List.replicate_succ, List.cons_append] at read
    obtain ⟨inner, found, same⟩ := map_value_eq_some.mp read
    rw [(List.cons.inj same).2, replicate_append_cons] at found
    exact ih ds.length (Nat.lt_succ_of_lt (Nat.lt_succ_self _)) (n + 1) found rfl
  | early d ds next =>
    rw [stringValue_encode_early next] at read
    simp [List.replicate_succ] at read
  | opened =>
    rw [stringValue_encode_open, replicate_append_cons, List.replicate_succ,
      List.cons_append] at read
    obtain ⟨inner, found, same⟩ := map_value_eq_some.mp read
    rw [(List.cons.inj same).2, List.replicate_succ, List.cons_append] at found
    exact stringValue_ne_cons_quote plain apart found
  | escape d ds escapes => simp [plain] at escapes
  | hidden escapes => simp [plain] at escapes

private theorem survives_of_encode (plain : rule.backslash = false)
    (apart : post.head? ≠ some rule.quote) {escaped : Bool} {cs : List Char}
    (read : stringValue rule (encode rule.quote escaped cs ++ rule.quote :: post) =
      some (cs, rest)) :
    (escaped = true → cs.head? ≠ some rule.quote) ∧ survives rule cs = true := by
  induction size : cs.length using Nat.strongRecOn generalizing escaped cs with
  | ind n ih =>
  subst size
  cases onset rule escaped cs with
  | none => exact ⟨by simp, rfl⟩
  | plain c cs other kept =>
    rw [stringValue_encode_plain _ other kept] at read
    obtain ⟨inner, found, same⟩ := map_value_eq_some.mp read
    rw [(List.cons.inj same).2] at found
    obtain ⟨head, later⟩ := ih cs.length (Nat.lt_succ_self _) found rfl
    refine ⟨by simp [other], survives_cons.mpr ⟨fun same => absurd same other, ?_, later⟩⟩
    exact fun _ back => ⟨head (by simp [back]), by simp [plain]⟩
  | quote cs other =>
    rw [stringValue_encode_quote other] at read
    obtain ⟨inner, found, same⟩ := map_value_eq_some.mp read
    rw [(List.cons.inj same).2] at found
    obtain ⟨-, later⟩ := ih cs.length (Nat.lt_succ_self _) found rfl
    exact ⟨by simp, survives_cons.mpr ⟨fun _ => other, by simp, later⟩⟩
  | pair ds =>
    obtain ⟨flag, step⟩ := stringValue_encode_pair rule _ ds
    rw [step] at read
    obtain ⟨inner, found, same⟩ := map_value_eq_some.mp read
    rw [(List.cons.inj same).2] at found
    exact absurd found (stringValue_ne_lagging plain apart 0)
  | early d ds next =>
    rw [stringValue_encode_early next] at read
    simp at read
  | opened =>
    rw [stringValue_encode_open] at read
    obtain ⟨inner, found, same⟩ := map_value_eq_some.mp read
    rw [(List.cons.inj same).2] at found
    exact absurd found (stringValue_ne_nil plain apart)
  | escape d ds escapes => simp [plain] at escapes
  | hidden escapes => simp [plain] at escapes

theorem survives_of_stringValue (plain : rule.backslash = false)
    (apart : post.head? ≠ some rule.quote) {cs : List Char}
    (read : stringValue rule (encode rule.quote false cs ++ rule.quote :: post) =
      some (cs, rest)) : survives rule cs = true :=
  (survives_of_encode plain apart read).2

end Plain

theorem quotedValue_eq (close : Char) (cs : List Char) :
    quotedValue close cs = stringValue ⟨close, false, false⟩ cs := by
  fun_induction quotedValue close cs with
  | case1 => rfl
  | case2 => simp_all [stringValue]
  | case3 => simp_all [stringValue]
  | case4 => simp [stringValue]
  | case5 c cs other ih =>
    have plain : ¬(c = '\\' ∧ (⟨close, false, false⟩ : StringRule).backslash = true) := by simp
    rw [stringValue_plain cs other plain, ih]

end RowStamp.Sql
