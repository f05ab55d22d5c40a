import RowStamp.Proofs.Sql.Spelling

/-!
Names: texts that are one unquoted word.  A word is read up to the first character that belongs to
no identifier, so a text that is a word once is the same word before every delimiter; and where a
text is read as a word that is all of it, in whatever surroundings, it is a name.
-/

set_option autoImplicit false
set_option relaxedAutoImplicit false

namespace RowStamp.Sql

variable {d : Dialect} {previous : Option Token} {post : List Char}

/-! ### Symbols, numbers and strings -/

def Token.Solid (token : Token) : Prop := token.isBlank = false ∧ ∀ v, token ≠ .word v none

/-- Where a scan gives a token, it is no blank and no unquoted word. -/
def Solid (scan : TokenScan) : Prop := ∀ token rest, scan = .ok (token, rest) → token.Solid

@[simp] theorem solid_error (fault : ScanFault) : Solid (.error fault) := by
  rintro token rest ⟨⟩

@[simp] theorem solid_ok (token : Token) (rest : List Char) :
    Solid (.ok (token, rest)) ↔ token.Solid := by
  simp [Solid]

@[simp] theorem solid_symbol (text : String) (cs : List Char) : Solid (symbolToken text cs) := by
  simp [symbolToken, Token.Solid, Token.isBlank]

@[simp] theorem solid_extend (text : String) (whole : Option String) (cs : List Char) :
    Solid (extendOperator d text whole cs) := by
  fun_cases extendOperator <;> simp [Token.Solid, Token.isBlank]

@[simp] theorem solid_operator (text : String) (cs : List Char) :
    Solid (operatorToken d text cs) := solid_extend _ _ _

@[simp] theorem solid_bar (cs : List Char) : Solid (afterBar d cs) := by
  fun_cases afterBar <;> simp

@[simp] theorem solid_less (cs : List Char) : Solid (afterLess d cs) := by
  fun_cases afterLess <;> simp

@[simp] theorem solid_greater (cs : List Char) : Solid (afterGreater d cs) := by
  fun_cases afterGreater <;> simp

@[simp] theorem solid_bang (cs : List Char) : Solid (afterBang cs) := by
  fun_cases afterBang <;> simp

@[simp] theorem solid_tilde (cs : List Char) : Solid (afterTilde d cs) := by
  fun_cases afterTilde <;> simp

@[simp] theorem solid_ampersand (cs : List Char) : Solid (afterAmpersand d cs) := by
  fun_cases afterAmpersand <;> simp

@[simp] theorem solid_question (cs : List Char) : Solid (afterQuestion cs) := by
  fun_cases afterQuestion <;> simp

@[simp] theorem solid_colon (cs : List Char) : Solid (afterColon cs) := by
  fun_cases afterColon <;> simp

@[simp] theorem solid_equals (cs : List Char) : Solid (afterEquals cs) := by
  fun_cases afterEquals <;> simp

@[simp] theorem solid_caret (cs : List Char) : Solid (afterCaret cs) := by
  fun_cases afterCaret <;> simp

@[simp] theorem solid_percent (cs : List Char) : Solid (afterPercent d cs) := by
  fun_cases afterPercent <;> simp

@[simp] theorem solid_dollar (cs : List Char) : Solid (afterDollar d cs) := by
  unfold afterDollar
  dsimp only
  split
  · split <;> simp [Token.Solid, Token.isBlank]
  · split
    · split <;> simp [Token.Solid, Token.isBlank]
    · simp [Token.Solid, Token.isBlank]

@[simp] theorem solid_string (form : StringForm) (backslash : Bool) (cs : List Char) :
    Solid (stringToken d form backslash cs) := by
  fun_cases stringToken <;> simp [Token.Solid, Token.isBlank]

@[simp] theorem solid_quoted (c : Char) (cs : List Char) : Solid (quotedWord c cs) := by
  fun_cases quotedWord <;> simp [Token.Solid, Token.isBlank]

private theorem solid_lettered {c : Char} {cs : List Char} {scan : TokenScan}
    (lettered : letteredString? d c cs = some scan) : Solid scan := by
  revert lettered
  fun_cases letteredString? <;> rintro ⟨⟩
  case case10 => split <;> simp [Token.Solid, Token.isBlank]
  case case12 => split <;> simp [Token.Solid, Token.isBlank]
  all_goals simp

private theorem solid_number (plain : d.numericWords = false) (cs : List Char) :
    Solid (numberToken d previous cs) := by
  have finish (afterPeriod : Bool) (digits opening exponent cs : List Char) :
      (finishNumber d afterPeriod digits opening exponent cs).1.Solid := by
    unfold finishNumber
    dsimp only
    rw [if_neg (by simp [plain])]
    split <;> simp [Token.Solid, Token.isBlank]
  have whole (digits cs : List Char) : (afterWhole d previous digits cs).1.Solid := by
    unfold afterWhole
    dsimp only
    rw [if_neg (by simp [plain])]
    split <;> split_ifs <;> first | exact finish _ _ _ _ _ | simp [Token.Solid, Token.isBlank]
  unfold numberToken
  dsimp only
  split
  · split_ifs <;> simp
  · split
    · simp [Token.Solid, Token.isBlank]
    · exact (solid_ok _ _).mpr (whole _ _)

/-! ### What a character opens -/

/-- A letter before the text opens no string. -/
def Unopening (cs : List Char) : Prop := ∀ x ∈ cs.head?, x ≠ '\'' ∧ x ≠ '"' ∧ x ≠ '&'

/-- What a character opens: a word, whose first characters open one whatever follows; a blank,
where no identifier starts; or another token. -/
inductive Opens (d : Dialect) (c : Char) (cs : List Char) : Token → List Char → Prop
  | word (start : d.startsIdentifier c = true) (lead more : List Char) (split : cs = lead ++ more)
      (again : ∀ previous more', Unopening more' →
        tokenFrom d previous c (lead ++ more') = .ok (wordToken d (c :: lead) more'))
      {token : Token} {rest : List Char} (same : (token, rest) = wordToken d (c :: lead) more) :
      Opens d c cs token rest
  | blank (other : d.startsIdentifier c = false) (text : String) (rest : List Char)
      (shorter : rest.length ≤ cs.length) : Opens d c cs (.blank text) rest
  | other {token : Token} (solid : token.Solid) (rest : List Char) : Opens d c cs token rest

private theorem tokenFrom_hash (start : d.startsIdentifier '#' = true) (cs : List Char) :
    tokenFrom d previous '#' cs = afterHash d cs := by
  cases d <;> first | rfl | exact absurd start (by decide)

private theorem tokenFrom_at (cs : List Char) : tokenFrom d previous '@' cs = afterAt d cs := by
  cases d <;> rfl

/-- Where a scan gives a token, the character opens it. -/
def Opened (d : Dialect) (c : Char) (cs : List Char) (scan : TokenScan) : Prop :=
  ∀ token rest, scan = .ok (token, rest) → Opens d c cs token rest

private theorem Solid.opened {c : Char} {cs : List Char} {scan : TokenScan} (solid : Solid scan) :
    Opened d c cs scan := fun token rest read => .other (solid token rest read) rest

private theorem opened_blank {c : Char} {cs rest : List Char} (text : String)
    (other : d.startsIdentifier c = false) (shorter : rest.length ≤ cs.length) :
    Opened d c cs (.ok (.blank text, rest)) := by
  rintro token left ⟨⟩
  exact .blank other text _ shorter

private theorem opened_line {c : Char} {cs lead body : List Char}
    (other : d.startsIdentifier c = false)
    (shorter : body.length ≤ cs.length) : Opened d c cs (.ok (lineComment d lead body)) := by
  unfold lineComment
  dsimp only
  split
  next stop rest left =>
    have size := congrArg List.length left
    rw [List.length_drop, List.length_cons] at size
    exact opened_blank _ other (by omega)
  next => exact opened_blank _ other (Nat.zero_le _)

private theorem length_le_of_blockComment {nested : Bool} {depth : Nat} {cs text rest : List Char}
    (read : blockComment nested depth cs = some (text, rest)) : rest.length ≤ cs.length := by
  fun_induction blockComment nested depth cs generalizing text rest
  case case1 => cases read
  case case4 =>
    obtain ⟨-, rfl⟩ := Prod.mk.inj (Option.some.inj read)
    exact Nat.le_add_right _ 2
  all_goals
    rename_i ih
    obtain ⟨⟨value, left⟩, inner, same⟩ := Option.map_eq_some_iff.mp read
    obtain ⟨-, rfl⟩ := Prod.mk.inj same
    have smaller := ih inner
    simp only [List.length_cons] at smaller ⊢
    omega

private theorem opened_minus (cs : List Char) : Opened d '-' cs (afterMinus d cs) := by
  fun_cases afterMinus
  · exact opened_line (startsIdentifier_special _ (by decide)) (by simp)
  all_goals exact Solid.opened (by simp)

private theorem opened_slash (cs : List Char) : Opened d '/' cs (afterSlash d cs) := by
  fun_cases afterSlash
  · rename_i read
    exact opened_blank _ (startsIdentifier_special _ (by decide))
      (Nat.le_succ_of_le (length_le_of_blockComment read))
  all_goals exact Solid.opened (by simp)

private theorem opened_marked {c : Char} (lead : List Char) {more : List Char}
    (start : d.startsIdentifier c = true)
    (again : ∀ previous more', tokenFrom d previous c (lead ++ more') =
      .ok (wordToken d (c :: lead) more')) :
    Opened d c (lead ++ more) (.ok (wordToken d (c :: lead) more)) := by
  rintro token rest ⟨⟩
  exact .word start lead more rfl (fun previous more' _ => again previous more') rfl

private theorem opened_hash (cs : List Char) : Opened d '#' cs (afterHash d cs) := by
  fun_cases afterHash
  case case6 c cs minus _ greater blank geometric start =>
    refine opened_marked [c] start fun previous more' => ?_
    rw [tokenFrom_hash start, List.singleton_append]
    unfold afterHash
    split
    all_goals simp_all
  all_goals exact Solid.opened (by simp)

private theorem opened_at (cs : List Char) : Opened d '@' cs (afterAt d cs) := by
  unfold afterAt
  split
  · exact Solid.opened (by simp)
  next c cs =>
    split
    · exact Solid.opened (by simp)
    split
    · split <;> exact Solid.opened (by simp)
    split
    · exact Solid.opened (by simp)
    split
    · exact Solid.opened (by simp)
    split
    -- of what is left, `@@e` and `@c` may be words
    next wide dash greater question second =>
      subst second
      split
      · exact Solid.opened (by simp)
      next e cs blank =>
        split
        next start =>
          refine opened_marked ['@', e] start fun previous more' => ?_
          rw [tokenFrom_at]
          simp_all [afterAt]
        next => exact Solid.opened (by simp)
      · exact Solid.opened (by simp)
    next wide dash greater question second =>
      split
      · exact Solid.opened (by simp)
      split
      next blank start =>
        refine opened_marked [c] start fun previous more' => ?_
        rw [tokenFrom_at]
        simp_all [afterAt]
      next => exact Solid.opened (by simp)

private theorem opened_default {c : Char} (cs : List Char) (hash : c ≠ '#') (at' : c ≠ '@') :
    Opened d c cs (if d.startsIdentifier c then .ok (wordToken d [c] cs)
      else if c = '$' then afterDollar d cs
      else if Text.isBlank c then .ok (.blank " ", cs)
      else .ok (.other c, cs)) := by
  split
  next start =>
    rintro token rest ⟨⟩
    exact .word start [] cs rfl (fun _ _ unopening =>
      tokenFrom_identifier start hash at' (letteredString?_eq_none unopening)) rfl
  next other =>
    rw [Bool.not_eq_true] at other
    split
    · exact Solid.opened (by simp)
    · split
      · exact opened_blank _ other (Nat.le_refl _)
      · exact Solid.opened (by simp [Token.Solid, Token.isBlank])

def Wordly (d : Dialect) (c : Char) : Prop :=
  d.numericWords = false ∨ (c.isDigit || decide (c = '.')) = false

private theorem opened {c : Char} (wordly : Wordly d c) (cs : List Char) :
    Opened d c cs (tokenFrom d previous c cs) := by
  fun_cases tokenFrom d previous c cs
  case case1 lettered => exact (solid_lettered lettered).opened
  -- blanks: spaces, line breaks and a comment after `#`
  case case2 blank _ =>
    refine opened_blank _ ?_ (Nat.le_refl _)
    simp only [Bool.or_eq_true, decide_eq_true_eq] at blank
    rcases blank with (rfl | rfl) | rfl <;> exact startsIdentifier_special _ (by decide)
  case case3 => exact opened_blank _ (startsIdentifier_special _ (by decide)) (Nat.le_succ _)
  case case4 => exact opened_blank _ (startsIdentifier_special _ (by decide)) (Nat.le_refl _)
  case case9 comment _ =>
    simp only [Bool.and_eq_true, decide_eq_true_eq] at comment
    obtain ⟨rfl, comments⟩ := comment
    obtain rfl : d = .mySql := of_decide_eq_true comments
    exact opened_line rfl (Nat.le_refl _)
  case case8 digit _ =>
    rcases wordly with plain | other
    · exact (solid_number plain _).opened
    · rw [other] at digit
      cases digit
  case case22 => exact opened_minus cs
  case case23 => exact opened_slash cs
  case case34 => exact opened_hash cs
  case case35 => exact opened_at cs
  -- an identifier, or a character that opens nothing else
  case case37 | case38 | case39 | case40 => exact opened_default _ ‹_› ‹_›
  all_goals exact Solid.opened (by simp [Token.Solid, Token.isBlank])

/-! ### Words -/

theorem unopening_of_continues {cs : List Char} (delimited : Delimited post)
    (all : ∀ c ∈ cs, d.continuesIdentifier c = true) : Unopening (cs ++ post) := by
  cases cs with
  | nil => exact delimited.head_cases (by decide) (by decide) (by decide)
  | cons x cs =>
    rintro y ⟨⟩
    have part : d.continuesIdentifier x = true := all x List.mem_cons_self
    refine ⟨?_, ?_, ?_⟩ <;> rintro rfl <;> cases d <;> exact absurd part (by decide)

private theorem tokenFrom_again {c : Char} {cs rest : List Char} (wordly : Wordly d c)
    (read : tokenFrom d previous c (cs ++ post) =
      .ok (.word (String.ofList (c :: cs)) none, rest))
    {others : List Char} (delimited : Delimited others) (other : Option Token) :
    tokenFrom d other c (cs ++ others) = .ok (.word (String.ofList (c :: cs)) none, others) := by
  cases opened wordly _ _ _ read with
  | other solid => exact absurd rfl (solid.2 _)
  | word start lead more split again same =>
    simp only [wordToken, Prod.mk.injEq, Token.word.injEq, String.ofList_inj, and_true,
      List.cons_append, List.cons.injEq, true_and] at same
    obtain ⟨rfl, rfl⟩ := same
    have continues : ∀ x ∈ more.takeWhile d.continuesIdentifier, d.continuesIdentifier x = true :=
      List.all_eq_true.mp List.all_takeWhile
    rw [List.append_assoc, again other _ (unopening_of_continues delimited continues), wordToken,
      takeWhile_delimited continues (continuesIdentifier_delimiter delimited)]
    simp

private theorem Lexes.startsIdentifier (plain : d.numericWords = false) {cs : List Char}
    {v : String} {more : List Token} (lexes : Lexes d previous cs (.word v none :: more)) :
    ∃ c, v.toList.head? = some c ∧ d.startsIdentifier c = true := by
  obtain ⟨n, bound⟩ : ∃ n, cs.length < n := ⟨_, Nat.lt_succ_self _⟩
  induction n generalizing cs previous with
  | zero => simp at bound
  | succ n ih =>
    cases cs with
    | nil => cases lexes.eq_nil
    | cons c cs =>
      rw [List.length_cons] at bound
      obtain ⟨token, rest, left, read, same, onward⟩ := lexes.first
      cases opened (.inl plain) _ _ _ read with
      | word start lead others split again word =>
        obtain ⟨rfl, rfl⟩ := Prod.mk.inj word
        refine ⟨c, ?_, start⟩
        rw [(Token.word.inj (List.cons.inj same).1).1]
        simp
      | blank other text rest shorter =>
        obtain rfl : Token.word v none :: more = left := same
        exact ih (onward shorter) (by omega)
      | other solid =>
        have shown : [token].filter (!·.isBlank) = [token] := by simp [solid.1]
        rw [shown] at same
        exact absurd (List.cons.inj same).1.symm (solid.2 v)

/-- A name that is read as one word, the name itself, where it is a text of its own; words that
start as numbers do are left out. -/
def isName (d : Dialect) (name : String) : Bool :=
  match name.toList with
  | [] => false
  | c :: cs => !(c.isDigit || c = '.') &&
      decide (tokenFrom d none c cs = .ok (.word name none, []))

theorem spells_of_isName {name : String} (named : isName d name = true) :
    Spells d name.toList [.word name none] := by
  unfold isName at named
  cases list : name.toList with
  | nil => simp [list] at named
  | cons c cs =>
    simp only [list, Bool.and_eq_true, Bool.not_eq_true', decide_eq_true_eq] at named
    obtain ⟨wordly, read⟩ := named
    obtain rfl : name = String.ofList (c :: cs) := by rw [← list, String.ofList_toList]
    have whole : tokenFrom d none c (cs ++ []) =
        .ok (.word (String.ofList (c :: cs)) none, []) := by rw [List.append_nil, read]
    exact .single rfl (by simp [Token.Tame]) fun previous _ post delimited =>
      tokenFrom_again (.inr wordly) whole delimited previous

theorem Ahead.isName (plain : d.numericWords = false) {name : String} {more : List Token}
    (ahead : Ahead d (name.toList ++ post) (.word name none :: more)) :
    isName d name = true := by
  obtain ⟨previous, -, lexes⟩ := ahead
  obtain ⟨c, head, start⟩ := lexes.startsIdentifier plain
  obtain ⟨cs, list⟩ : ∃ cs, name.toList = c :: cs :=
    ⟨name.toList.tail, List.eq_cons_of_mem_head? head⟩
  obtain rfl : name = String.ofList (c :: cs) := by rw [← list, String.ofList_toList]
  rw [list] at lexes
  obtain ⟨token, rest, left, read, same, -⟩ := lexes.first
  have word : token = .word (String.ofList (c :: cs)) none := by
    cases opened (.inl plain) _ _ _ read with
    | word _ lead others split again word =>
      obtain ⟨rfl, -⟩ := Prod.mk.inj word
      exact (List.cons.inj same).1.symm
    | blank other => simp [other] at start
    | other solid =>
      have shown : [token].filter (!·.isBlank) = [token] := by simp [solid.1]
      rw [shown] at same
      exact (List.cons.inj same).1.symm
  rw [word] at read
  have nothing : Delimited [] := by simp [Delimited]
  have alone := tokenFrom_again (.inl plain) read nothing none
  rw [List.append_nil] at alone
  have wordly : (c.isDigit || decide (c = '.')) = false := by
    simp [isDigit_of_startsIdentifier start, ne_special start (x := '.') (by decide)]
  simp [Sql.isName, alone, wordly]

example : ["gmt_create", "#made", "created at", "a.b", "x -- y", "1a"].map (isName .generic) =
    [true, true, false, false, false, false] := by decide +kernel

end RowStamp.Sql
