import RowStamp.Proofs.Sql.Names
import RowStamp.Proofs.Sql.Operations

/-!
Identifiers and values that one token spells, and when such a token is read as what was written.
-/

set_option autoImplicit false
set_option relaxedAutoImplicit false

namespace RowStamp.Sql

open RowStamp.Sql.Parser (AloneOr Composed Ends Gives Runs)

variable {d : Dialect} {post : List Char} {tokens : List Token}

def isWord : List Char → Bool
  | [] => false
  | c :: cs => isWordStart c && cs.all isWordPart

private theorem isName_of_isWord {name : String} (word : isWord name.toList = true) :
    isName d name = true := by
  unfold isName
  cases list : name.toList with
  | nil => simp [list, isWord] at word
  | cons c cs =>
    simp only [list, isWord, Bool.and_eq_true, List.all_eq_true] at word
    obtain ⟨start, parts⟩ := word
    have first := startsIdentifier_of_isWordStart (d := d) start
    have inside : (cs ++ []).takeWhile d.continuesIdentifier = cs :=
      takeWhile_delimited (fun x member => continuesIdentifier_of_isWordPart (parts x member))
        (by simp)
    rw [List.append_nil] at inside
    have nothing : Delimited [] := by simp [Delimited]
    have apart : Unopening (cs ++ []) := unopening_of_continues (d := d) nothing fun x member =>
      continuesIdentifier_of_isWordPart (parts x member)
    rw [List.append_nil] at apart
    have spelled : String.ofList (c :: cs) = name := by rw [← list, String.ofList_toList]
    simp [tokenFrom_word start apart, wordToken, inside, spelled, isDigit_of_startsIdentifier first,
      ne_special first (x := '.') (by decide)]

theorem forall_iff_map_eq_self {β : Type} {list : List β} {p q : β → Prop} {f : β → β}
    (each : ∀ x ∈ list, (p x ↔ q x ∧ f x = x)) :
    (∀ x ∈ list, p x) ↔ (∀ x ∈ list, q x) ∧ list.map f = list := by
  induction list with
  | nil => simp
  | cons x list ih =>
    rw [List.forall_mem_cons] at each
    rw [List.forall_mem_cons, List.forall_mem_cons, each.1, ih each.2, List.map_cons,
      List.cons.injEq]
    exact and_and_and_comm

/-! ### Identifiers -/

namespace Ident

/-- A plain word, or any text between quotes that the dialect has. -/
def Simple (d : Dialect) (ident : Ident) : Prop :=
  match ident.quote with
  | none => isWord ident.value.toList = true
  | some quote => d.opensQuoted quote = true ∧ (quote = '"' ∨ quote = '\x60')

/-- Any text, if between quotes then between quotes that the dialect has. -/
def Shaped (d : Dialect) (ident : Ident) : Prop :=
  ∀ quote ∈ ident.quote, d.opensQuoted quote = true ∧ (quote = '"' ∨ quote = '\x60')

def legible (d : Dialect) (ident : Ident) : Bool :=
  match ident.quote with
  | none => isName d ident.value
  | some _ => true

def survives (ident : Ident) : Bool :=
  match ident.quote with
  | none => true
  | some quote => Sql.survives (quotedRule quote) ident.value.toList

def closes (ident : Ident) : Bool :=
  match ident.quote with
  | none => true
  | some quote => (Sql.readBack (quotedRule quote) ident.value.toList).isSome

/-- What is read of the identifier, where it is read up to its closing quote. -/
def readBack (ident : Ident) : Ident :=
  match ident.quote with
  | none => ident
  | some quote =>
    { ident with
      value := String.ofList
        ((Sql.readBack (quotedRule quote) ident.value.toList).getD ident.value.toList) }

def token (ident : Ident) : Token := .word ident.value ident.quote

private theorem toList_wrap (quote : Char) (value : String) :
    (Text.Quoted.wrap quote value).toList =
      quote :: (Text.Quoted.encode quote false value.toList ++ [quote]) := by
  simp [Text.Quoted.wrap]

private theorem text_quoted {quote : Char} (mark : quote = '"' ∨ quote = '\x60') (value : String) :
    text ⟨value, some quote⟩ = Text.Quoted.wrap quote value := by
  rcases mark with rfl | rfl <;> rfl

variable {ident : Ident}

theorem Simple.shaped (simple : ident.Simple d) : ident.Shaped d := by
  rintro quote found
  simpa only [Simple, Option.mem_def.mp found] using simple

theorem Simple.legible (simple : ident.Simple d) : ident.legible d = true := by
  obtain ⟨value, _ | quote⟩ := ident
  · exact isName_of_isWord simple
  · rfl

theorem Shaped.survives_iff (shaped : ident.Shaped d) :
    ident.survives = true ↔ ident.closes = true ∧ ident.readBack = ident := by
  obtain ⟨value, _ | quote⟩ := ident
  · simp [survives, closes, readBack]
  · obtain ⟨-, mark⟩ := shaped quote rfl
    have fine := readBack_eq_self_iff (show (quotedRule quote).Marked from .inr mark) value.toList
    cases read : Sql.readBack (quotedRule quote) value.toList with
    | none =>
      rw [read] at fine
      simp [survives, closes, read, ← fine]
    | some found =>
      rw [read] at fine
      simp [survives, closes, readBack, read, ← fine, ← String.toList_inj]

private theorem quote_readBack (ident : Ident) : ident.readBack.quote = ident.quote := by
  obtain ⟨value, _ | quote⟩ := ident <;> rfl

theorem Simple.of_readBack (simple : ident.Simple d) : ident.readBack.Simple d := by
  obtain ⟨value, _ | quote⟩ := ident <;> exact simple

theorem Shaped.of_readBack (shaped : ident.Shaped d) : ident.readBack.Shaped d := by
  rw [Shaped, quote_readBack]
  exact shaped

theorem key_readBack (ident : Ident) : ident.readBack.token.key = ident.token.key := by
  obtain ⟨value, _ | quote⟩ := ident <;> rfl

theorem Shaped.spells_readBack (shaped : ident.Shaped d) (legible : ident.legible d = true)
    (closed : ident.closes = true) : Spells d ident.text.toList [ident.readBack.token] := by
  obtain ⟨value, _ | quote⟩ := ident
  · exact spells_of_isName legible
  · obtain ⟨opens, mark⟩ := shaped quote rfl
    obtain ⟨found, read⟩ := Option.isSome_iff_exists.mp closed
    have spelled := Spells.quoted opens mark read
    rw [text_quoted mark, toList_wrap]
    simpa [readBack, token, read] using spelled

theorem Simple.spells (simple : ident.Simple d) (fine : ident.survives = true) :
    Spells d ident.text.toList [ident.token] := by
  obtain ⟨closed, same⟩ := simple.shaped.survives_iff.mp fine
  have read := simple.shaped.spells_readBack simple.legible closed
  rwa [same] at read

/-- What is read of an identifier is an identifier with the same quotes; where it is the same
identifier, it survives, and the text is read on after it. -/
theorem Simple.ahead (simple : ident.Simple d) (delimited : Delimited post)
    (ahead : Ahead d (ident.text.toList ++ post) tokens) :
    ∃ value more, tokens = .word value ident.quote :: more ∧
      (ident.quote = none → value = ident.value) ∧
      (value = ident.value → ident.survives = true ∧ Ahead d post more) := by
  obtain ⟨value, _ | quote⟩ := ident
  · obtain ⟨more, rfl, onward⟩ := ahead.spells (simple.spells rfl) delimited
    exact ⟨value, more, rfl, fun _ => rfl, fun _ => ⟨rfl, onward⟩⟩
  · obtain ⟨opens, mark⟩ := id simple
    obtain ⟨previous, free, lexes⟩ := id ahead
    rw [text_quoted mark, toList_wrap, List.cons_append, List.append_assoc,
      List.singleton_append] at lexes
    obtain ⟨token, rest, more, start, rfl, -⟩ := lexes.first
    have marked : (quotedRule quote).Marked := .inr mark
    rw [tokenFrom_quoted opens mark, quotedWord, closingQuote_of_mark mark, quotedValue_eq] at start
    cases read : stringValue ⟨quote, false, false⟩
        (Text.Quoted.encode quote false value.toList ++ quote :: post) with
    | none => simp [read] at start
    | some result =>
      rw [read] at start
      obtain ⟨rfl, rfl⟩ := Prod.mk.inj (Except.ok.inj start)
      refine ⟨String.ofList result.1, more, rfl, by simp, ?_⟩
      rintro (same : String.ofList result.1 = value)
      have found : result = (value.toList, result.2) := by
        rw [← same, String.toList_ofList]
      rw [found] at read
      have fine : Sql.survives (quotedRule quote) value.toList = true :=
        survives_of_stringValue rfl (delimited.head_ne marked) read
      obtain ⟨others, known, onward⟩ := ahead.spells (simple.spells fine) delimited
      obtain rfl : more = others := (List.cons.inj known).2
      exact ⟨fine, onward⟩

theorem Shaped.eq_token {token : Token} (shaped : ident.Shaped d) (delimited : Delimited post)
    (ahead : Ahead d (ident.text.toList ++ post) (token :: tokens))
    (same : Parser.ident? token = some ident) : token = ident.token := by
  obtain ⟨value, _ | quote⟩ := ident
  · unfold Parser.ident? at same
    split at same <;> cases same
    rfl
  · have simple : Simple d ⟨value, some quote⟩ := shaped quote rfl
    obtain ⟨found, more, known, -, -⟩ := simple.ahead delimited ahead
    obtain ⟨rfl, rfl⟩ := List.cons.inj known
    obtain rfl : found = value := congrArg Ident.value (Option.some.inj same)
    rfl

/-- Where the token of an identifier is read of its text, the identifier survives and is a name if
it has no quotes, and the text is read on after it. -/
theorem Shaped.ahead (other : d ≠ .mySql) (shaped : ident.Shaped d) (delimited : Delimited post)
    (ahead : Ahead d (ident.text.toList ++ post) (ident.token :: tokens)) :
    (ident.survives = true ∧ ident.legible d = true) ∧ Ahead d post tokens := by
  obtain ⟨value, _ | quote⟩ := ident
  · have named : isName d value = true := Ahead.isName (decide_eq_false other) ahead
    obtain ⟨more, known, onward⟩ := ahead.spells (spells_of_isName named) delimited
    obtain rfl : tokens = more := (List.cons.inj known).2
    exact ⟨⟨rfl, named⟩, onward⟩
  · have simple : Simple d ⟨value, some quote⟩ := shaped quote rfl
    obtain ⟨found, more, known, -, fine⟩ := simple.ahead delimited ahead
    obtain ⟨same, rfl⟩ := List.cons.inj known
    obtain ⟨survives, onward⟩ := fine (Token.word.inj same).1.symm
    exact ⟨⟨survives, simple.legible⟩, onward⟩

end Ident

/-! ### Values -/

def isNumber (cs : List Char) : Bool :=
  !(cs.takeWhile Char.isDigit).isEmpty &&
    match cs.dropWhile Char.isDigit with
    | [] => true
    | c :: fraction => c = '.' && fraction.all Char.isDigit

def isPlaceholder (d : Dialect) : List Char → Bool
  | [] => false
  | c :: cs => (c = '?' && d ≠ .postgres || c = '$' && d ≠ .mySql) && cs.all Char.isDigit

namespace Expr

/-- A plain string, a number, the null value or a placeholder. -/
inductive Simple (d : Dialect) : Expr → Prop
  | string (value : String) : Simple d (.literal (.string .plain value))
  | number (digits : String) (fits : isNumber digits.toList = true) :
      Simple d (.literal (.number digits false))
  | null : Simple d (.literal .null)
  | placeholder (text : String) (fits : isPlaceholder d text.toList = true) :
      Simple d (.placeholder text)

def survives (d : Dialect) : Expr → Bool
  | .literal (.string .plain value) => Sql.survives (plainRule d) value.toList
  | _ => true

def closes (d : Dialect) : Expr → Bool
  | .literal (.string .plain value) => (Sql.readBack (plainRule d) value.toList).isSome
  | _ => true

/-- What is read of the value, where it is read up to its closing quote. -/
def readBack (d : Dialect) : Expr → Expr
  | .literal (.string .plain value) =>
    .literal (.string .plain
      (String.ofList ((Sql.readBack (plainRule d) value.toList).getD value.toList)))
  | e => e

def token : Expr → Token
  | .literal (.number digits long) => .number digits long
  | .literal (.string form value) => .string form value
  | .placeholder text => .placeholder text
  | _ => .word "NULL" none

variable {e : Expr}

theorem text_string (value : String) :
    (literal (.string .plain value)).text.toList =
      '\'' :: (Text.Quoted.encode '\'' false value.toList ++ ['\'']) := by
  simp [text, leaves_literal, renderLeaves, Leaf.written, Literal.text, Literal.stringText,
    Ident.toList_wrap]

private theorem spells_number {digits : String} (fits : isNumber digits.toList = true) :
    Spells d digits.toList [.number digits false] := by
  simp only [isNumber, Bool.and_eq_true, Bool.not_eq_true', List.isEmpty_eq_false_iff] at fits
  obtain ⟨some', decimal⟩ := fits
  obtain ⟨c, whole, found⟩ := List.exists_cons_of_ne_nil some'
  have all : ∀ x ∈ c :: whole, x.isDigit = true := by
    rw [← found]
    exact List.all_eq_true.mp List.all_takeWhile
  rw [List.forall_mem_cons] at all
  have fraction : IsFraction (digits.toList.dropWhile Char.isDigit) := by
    cases rest : digits.toList.dropWhile Char.isDigit with
    | nil => exact .inl rfl
    | cons c fraction =>
      simp only [rest, Bool.and_eq_true, decide_eq_true_eq, List.all_eq_true] at decimal
      exact .inr ⟨fraction, by rw [decimal.1], decimal.2⟩
  have same : c :: (whole ++ digits.toList.dropWhile Char.isDigit) = digits.toList := by
    rw [← List.cons_append, ← found, List.takeWhile_append_dropWhile]
  have read := Spells.number (d := d) all.1 all.2 fraction
  rw [List.cons_append, same, String.ofList_toList] at read
  exact read

private theorem spells_placeholder {text : String} (fits : isPlaceholder d text.toList = true) :
    Spells d text.toList [.placeholder text] := by
  cases list : text.toList with
  | nil => simp [list, isPlaceholder] at fits
  | cons c cs =>
    simp only [list, isPlaceholder, Bool.and_eq_true, Bool.or_eq_true, decide_eq_true_eq,
      List.all_eq_true] at fits
    obtain ⟨⟨rfl, known⟩ | ⟨rfl, known⟩, digits⟩ := fits
    · have read := Spells.questionMark known digits
      rwa [← list, String.ofList_toList, list] at read
    · have read := Spells.dollar known digits
      rwa [← list, String.ofList_toList, list] at read

theorem Simple.survives_iff (simple : e.Simple d) :
    e.survives d = true ↔ e.closes d = true ∧ e.readBack d = e := by
  cases simple with
  | string value =>
    have fine := readBack_eq_self_iff (show (plainRule d).Marked from .inl rfl) value.toList
    cases read : Sql.readBack (plainRule d) value.toList with
    | none =>
      rw [read] at fine
      simp [survives, closes, read, ← fine]
    | some found =>
      rw [read] at fine
      simp [survives, closes, readBack, read, ← fine, ← String.toList_inj]
  | _ => simp [survives, closes, readBack]

theorem Simple.spells_readBack (simple : e.Simple d) (closed : e.closes d = true) :
    Spells d e.text.toList [(e.readBack d).token] := by
  cases simple with
  | string value =>
    obtain ⟨found, read⟩ := Option.isSome_iff_exists.mp closed
    have spelled := Spells.string read
    rw [text_string]
    simpa [readBack, token, read] using spelled
  | number digits fits =>
    have same : (literal (.number digits false)).text = digits := by
      simp [text, leaves_literal, renderLeaves, Leaf.written, Literal.text]
    rw [same]
    exact spells_number fits
  | null => exact Spells.word (c := 'N') (by decide) (by decide)
  | placeholder written fits =>
    have same : (Expr.placeholder written).text = written := by
      simp [text, leaves_placeholder, renderLeaves, Leaf.written]
    rw [same]
    exact spells_placeholder fits

theorem Simple.spells (simple : e.Simple d) (fine : e.survives d = true) :
    Spells d e.text.toList [e.token] := by
  obtain ⟨closed, same⟩ := simple.survives_iff.mp fine
  have read := simple.spells_readBack closed
  rwa [same] at read

theorem Simple.of_readBack (simple : e.Simple d) : (e.readBack d).Simple d := by
  cases simple with
  | string value => exact .string _
  | number digits fits => exact .number digits fits
  | null => exact .null
  | placeholder written fits => exact .placeholder written fits

theorem Simple.runs (cx : Context) {rank : Nat} {rest : List Token}
    (simple : e.Simple cx.dialect) (ends : Ends cx.dialect rank rest) :
    Runs (Grammar.expression cx rank) (e.token :: rest) e rest := by
  cases simple with
  | string value => exact .constant (.string value) ends
  | number digits => exact .constant (.number digits) ends
  | null => exact .null ends
  | placeholder text => exact .constant (.placeholder text) ends

/-- Where strings are not joined and backslashes do not escape, a value that is read as it was
survives, and the text is read on after it. -/
theorem Simple.gives (cx : Context) {rank : Nat} (simple : e.Simple cx.dialect)
    (other : cx.dialect ≠ .mySql) (delimited : Delimited post)
    (ends : ∀ more, Ahead cx.dialect post more → Ends cx.dialect rank more)
    (ahead : Ahead cx.dialect (e.text.toList ++ post) tokens) :
    Gives (Grammar.expression cx rank) tokens fun a rest =>
      a = e → e.survives cx.dialect = true ∧ Ahead cx.dialect post rest := by
  have known (fine : e.survives cx.dialect = true) : Gives (Grammar.expression cx rank) tokens
      fun a rest => a = e → e.survives cx.dialect = true ∧ Ahead cx.dialect post rest := by
    obtain ⟨more, rfl, onward⟩ := ahead.spells (simple.spells fine) delimited
    exact .of_runs (simple.runs cx (ends _ onward)) fun _ => ⟨fine, onward⟩
  cases simple with
  | string value =>
    have plain : (plainRule cx.dialect).backslash = false := decide_eq_false other
    have joins : cx.dialect.joinsStrings = false := decide_eq_false other
    have marked : (plainRule cx.dialect).Marked := .inl rfl
    obtain ⟨previous, free, lexes⟩ := id ahead
    rw [text_string, List.cons_append, List.append_assoc, List.singleton_append] at lexes
    obtain ⟨token, rest, more, start, rfl, -⟩ := lexes.first
    obtain ⟨value', read, rfl⟩ := plainString_of_tokenFrom start
    have found : Gives (Grammar.expression cx rank)
        (.string .plain (String.ofList value') :: more)
        (AloneOr (.literal (.string .plain (String.ofList value'))) more) :=
      .expression (.stringOperand joins _ _)
    intro lexemes a left same done written
    rcases found lexemes a left same done with ⟨alone, -⟩ | composed
    · have value'_eq : value' = value.toList := by
        rw [written] at alone
        have same : value = String.ofList value' := by simpa using alone
        rw [same, String.toList_ofList]
      rw [value'_eq] at read
      exact known (survives_of_stringValue plain (delimited.head_ne marked) read) _ _ _ same done
        written
    · rw [written] at composed
      exact composed.elim
  | number digits fits => exact known rfl
  | null => exact known rfl
  | placeholder text fits => exact known rfl

end Expr

end RowStamp.Sql
