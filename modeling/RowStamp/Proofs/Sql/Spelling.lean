import RowStamp.Proofs.Sql.Quoting
import RowStamp.Proofs.Sql.Scanning

/-!
Words, strings, quoted identifiers, numbers and placeholders, each of which spells one token.
-/

set_option autoImplicit false
set_option relaxedAutoImplicit false

namespace RowStamp.Sql

variable {d : Dialect} {previous : Option Token} {post : List Char}

/-! ### Words -/

def isWordStart (c : Char) : Bool := c.isAlpha || c = '_'

def isWordPart (c : Char) : Bool := c.isAlphanum || c = '_'

theorem letteredString?_eq_none {c : Char} {cs : List Char}
    (apart : ∀ x ∈ cs.head?, x ≠ '\'' ∧ x ≠ '"' ∧ x ≠ '&') : letteredString? d c cs = none := by
  unfold letteredString?
  split <;> simp_all

private theorem isAlpha_iff {c : Char} : c.isAlpha = true ↔
    (65 ≤ c.toNat ∧ c.toNat ≤ 90) ∨ (97 ≤ c.toNat ∧ c.toNat ≤ 122) := by
  have upper : c.isUpper = decide (65 ≤ c.toNat ∧ c.toNat ≤ 90) := rfl
  have lower : c.isLower = (decide (97 ≤ c.toNat) && decide (c.toNat ≤ 122)) := rfl
  have alpha : c.isAlpha = (c.isUpper || c.isLower) := rfl
  simp [alpha, upper, lower]

private theorem isDigit_of_isAlpha {c : Char} (letter : c.isAlpha = true) : c.isDigit = false := by
  have digit : c.isDigit = (decide (48 ≤ c.toNat) && decide (c.toNat ≤ 57)) := rfl
  rw [digit, Bool.and_eq_false_iff, decide_eq_false_iff_not, decide_eq_false_iff_not]
  rw [isAlpha_iff] at letter
  omega

private theorem isLetter_of_isAlpha {c : Char} (letter : c.isAlpha = true) :
    Text.isLetter c = true := by
  have ascii : c.toNat < 128 := by
    rw [isAlpha_iff] at letter
    omega
  rw [Text.isLetter_of_isAlpha ascii, letter]

theorem startsIdentifier_of_isWordStart {c : Char} (start : isWordStart c = true) :
    d.startsIdentifier c = true := by
  simp only [isWordStart, Bool.or_eq_true, decide_eq_true_eq] at start
  rcases start with letter | rfl
  · cases d <;> simp [Dialect.startsIdentifier, isLetter_of_isAlpha letter, letter]
  · cases d <;> rfl

def specials : List Char :=
  " \t\n\r'\".?()[],;\\\x7b\x7d+-*/%|=!<>:&^~\x600123456789".toList

theorem startsIdentifier_special : ∀ x ∈ specials, d.startsIdentifier x = false := by
  have all : specials.all (fun x => !d.startsIdentifier x) = true := by cases d <;> decide
  simpa only [List.all_eq_true, Bool.not_eq_true'] using all

theorem ne_special {c : Char} (start : d.startsIdentifier c = true) {x : Char}
    (special : x ∈ specials) : c ≠ x := by
  rintro rfl
  rw [startsIdentifier_special c special] at start
  cases start

theorem isDigit_of_startsIdentifier {c : Char} (start : d.startsIdentifier c = true) :
    c.isDigit = false := by
  by_contra digit
  have bounds : 48 ≤ c.toNat ∧ c.toNat ≤ 57 := by
    simpa [Char.isDigit, UInt32.le_iff_toNat_le] using digit
  have digits : ∀ n < 58, 48 ≤ n → Char.ofNat n ∈ specials := by decide
  have special : c ∈ specials := by
    rw [← Char.ofNat_toNat c]
    exact digits c.toNat (by omega) bounds.1
  exact ne_special start special rfl

theorem tokenFrom_identifier {c : Char} {cs : List Char} (start : d.startsIdentifier c = true)
    (hash : c ≠ '#') (at' : c ≠ '@') (lettered : letteredString? d c cs = none) :
    tokenFrom d previous c cs = .ok (wordToken d [c] cs) := by
  have other {x : Char} := ne_special (x := x) start
  have unquoted : d.opensQuoted c = false := by
    cases d <;> simp [Dialect.opensQuoted, other (x := '"') (by decide),
      other (x := '\x60') (by decide), other (x := '[') (by decide)]
  rw [tokenFrom.eq_def, lettered]
  dsimp only
  rw [if_neg (by simp [other (x := ' ') (by decide), other (x := '\t') (by decide),
      other (x := '\n') (by decide)]), if_neg (other (by decide)), if_neg (other (by decide)),
    if_neg (by simp [unquoted]), if_neg (other (by decide)),
    if_neg (by simp [isDigit_of_startsIdentifier start, other (x := '.') (by decide)]),
    if_neg (by simp [hash]), if_neg (by simp [other (x := '?') (by decide)])]
  split
  case h_24 => exact absurd rfl hash
  case h_25 => exact absurd rfl at'
  case h_27 => rw [if_pos start]
  all_goals exact absurd rfl (other (by decide))

private theorem ne_of_isWordStart {c x : Char} (start : isWordStart c = true)
    (mark : isWordStart x = false) : c ≠ x := by
  rintro rfl
  simp [start] at mark

theorem tokenFrom_word {c : Char} {cs : List Char} (start : isWordStart c = true)
    (apart : ∀ x ∈ cs.head?, x ≠ '\'' ∧ x ≠ '"' ∧ x ≠ '&') :
    tokenFrom d previous c cs = .ok (wordToken d [c] cs) :=
  tokenFrom_identifier (startsIdentifier_of_isWordStart start) (ne_of_isWordStart start rfl)
    (ne_of_isWordStart start rfl) (letteredString?_eq_none apart)

theorem Delimited.head_cases {motive : Char → Prop} (delimited : Delimited post)
    (blank : motive ' ') (comma : motive ',') (close : motive ')') : ∀ c ∈ post.head?, motive c := by
  intro c member
  rcases delimited c member with rfl | rfl | rfl <;> assumption

theorem takeWhile_delimited {p : Char → Bool} {cs : List Char} (all : ∀ c ∈ cs, p c = true)
    (stop : ∀ c ∈ post.head?, p c = false) : (cs ++ post).takeWhile p = cs := by
  rw [List.takeWhile_append_of_pos all]
  cases post with
  | nil => simp
  | cons c post =>
    have other : p c = false := stop c rfl
    simp [other]

theorem continuesIdentifier_of_isWordPart {c : Char} (part : isWordPart c = true) :
    d.continuesIdentifier c = true := by
  simp only [isWordPart, Char.isAlphanum, Bool.or_eq_true, decide_eq_true_eq] at part
  rcases part with (letter | digit) | rfl
  · have opens {d : Dialect} : d.startsIdentifier c = true :=
      startsIdentifier_of_isWordStart (by simp [isWordStart, letter])
    cases d <;> simp [Dialect.continuesIdentifier, opens, isLetter_of_isAlpha letter]
  · cases d <;> simp [Dialect.continuesIdentifier, digit]
  · cases d <;> rfl

theorem continuesIdentifier_delimiter (delimited : Delimited post) :
    ∀ c ∈ post.head?, d.continuesIdentifier c = false :=
  delimited.head_cases (by cases d <;> rfl) (by cases d <;> rfl) (by cases d <;> rfl)

namespace Spells

theorem word {c : Char} {cs : List Char} (start : isWordStart c = true)
    (parts : cs.all isWordPart = true) :
    Spells d (c :: cs) [.word (String.ofList (c :: cs)) none] := by
  rw [List.all_eq_true] at parts
  refine single rfl (by simp [Token.Tame]) fun previous _ post delimited => ?_
  have apart : ∀ x ∈ (cs ++ post).head?, x ≠ '\'' ∧ x ≠ '"' ∧ x ≠ '&' := by
    cases cs with
    | nil => exact delimited.head_cases (by decide) (by decide) (by decide)
    | cons x cs =>
      have part : isWordPart x = true := parts x List.mem_cons_self
      intro y head
      obtain rfl : x = y := Option.some.inj head
      refine ⟨?_, ?_, ?_⟩ <;> rintro rfl <;> exact absurd part (by decide)
  have inside : (cs ++ post).takeWhile d.continuesIdentifier = cs :=
    takeWhile_delimited (fun x member => continuesIdentifier_of_isWordPart (parts x member))
      (continuesIdentifier_delimiter delimited)
  rw [tokenFrom_word start apart, wordToken, inside]
  simp

end Spells

theorem Spells.equals : Spells d ['='] [.symbol "="] := by
  refine .single rfl (by simp [Token.Tame]) fun previous _ post delimited => ?_
  cases post with
  | nil => cases d <;> rfl
  | cons c post =>
    rcases delimited c rfl with rfl | rfl | rfl <;> cases d <;> rfl

/-! ### Quoted text -/

private theorem tokenFrom_string (cs : List Char) :
    tokenFrom d previous '\'' cs = stringToken d .plain d.backslashEscapes ('\'' :: cs) := rfl

theorem tokenFrom_quoted {quote : Char} (opens : d.opensQuoted quote = true)
    (mark : quote = '"' ∨ quote = '\x60') (cs : List Char) :
    tokenFrom d previous quote cs = quotedWord quote cs := by
  have lettered : letteredString? d quote cs = none := by rcases mark with rfl | rfl <;> rfl
  rw [tokenFrom.eq_def, lettered]
  rcases mark with rfl | rfl <;> simp [opens]

def plainRule (d : Dialect) : StringRule := ⟨'\'', d.backslashEscapes, d.backslashEscapes⟩

def quotedRule (quote : Char) : StringRule := ⟨quote, false, false⟩

theorem plainString_of_tokenFrom {cs rest : List Char} {token : Token}
    (start : tokenFrom d previous '\'' cs = .ok (token, rest)) :
    ∃ value, stringValue (plainRule d) cs = some (value, rest) ∧
      token = .string .plain (String.ofList value) := by
  rw [tokenFrom_string, stringToken] at start
  cases read : stringValue ⟨StringForm.plain.quote, d.backslashEscapes, d.backslashEscapes⟩
      (List.drop 1 ('\'' :: cs)) with
  | none =>
    rw [read] at start
    simp at start
  | some result =>
    rw [read] at start
    obtain ⟨rfl, rfl⟩ := Prod.mk.inj (Except.ok.inj start)
    exact ⟨result.1, read, rfl⟩

theorem Delimited.head_ne (delimited : Delimited post) {rule : StringRule} (mark : rule.Marked) :
    post.head? ≠ some rule.quote := by
  intro head
  rcases delimited _ head with same | same | same <;> rcases mark with quote | quote | quote <;>
    simp [same] at quote

open RowStamp.Text.Quoted (encode wrap)

theorem Spells.string {written value : List Char}
    (read : readBack (plainRule d) written = some value) :
    Spells d ('\'' :: (encode '\'' false written ++ ['\'']))
      [.string .plain (String.ofList value)] := by
  refine .single rfl (by simp [Token.Tame]) fun previous _ post delimited => ?_
  have mark : (plainRule d).Marked := .inl rfl
  have whole := stringValue_append mark (delimited.head_ne mark) (readBack_eq_some_iff.mp read)
  rw [tokenFrom_string, stringToken, List.append_assoc]
  have same : stringValue ⟨StringForm.plain.quote, d.backslashEscapes, d.backslashEscapes⟩
      (List.drop 1 ('\'' :: (encode '\'' false written ++ (['\''] ++ post)))) =
        some (value, post) := whole
  rw [same]

theorem closingQuote_of_mark {quote : Char} (mark : quote = '"' ∨ quote = '\x60') :
    closingQuote quote = quote := by
  rcases mark with rfl | rfl <;> rfl

theorem Spells.quoted {quote : Char} (opens : d.opensQuoted quote = true)
    (mark : quote = '"' ∨ quote = '\x60') {written value : List Char}
    (read : readBack (quotedRule quote) written = some value) :
    Spells d (quote :: (encode quote false written ++ [quote]))
      [.word (String.ofList value) (some quote)] := by
  refine .single rfl (by simp [Token.Tame]) fun previous _ post delimited => ?_
  have marked : (quotedRule quote).Marked := .inr mark
  have whole := stringValue_append marked (delimited.head_ne marked) (readBack_eq_some_iff.mp read)
  have same : quotedValue (closingQuote quote) (encode quote false written ++ [quote] ++ post) =
      some (value, post) := by
    rw [closingQuote_of_mark mark, quotedValue_eq, List.append_assoc]
    exact whole
  rw [tokenFrom_quoted opens mark, quotedWord, same]

/-! ### Numbers and placeholders -/

private theorem letteredString?_of_not_alpha {c : Char} (other : c.isAlpha = false)
    (cs : List Char) :
    letteredString? d c cs = none := by
  have same : c.toUpper = c := by
    refine dif_neg fun lower => ?_
    rw [isAlpha_iff.mpr (.inr lower)] at other
    simp at other
  unfold letteredString?
  rw [same]
  split <;> first | rfl | exact absurd other (by decide)

private theorem digitRun_digits {digits : List Char} (all : ∀ c ∈ digits, c.isDigit = true)
    (stop : ∀ c ∈ post.head?, c.isDigit = false ∧ c ≠ '_') :
    digitRun d Char.isDigit (digits ++ post) = (digits, post) := by
  induction digits with
  | nil =>
    cases post with
    | nil => rfl
    | cons c post =>
      obtain ⟨other, apart⟩ := stop c rfl
      simp [digitRun, other, apart]
  | cons c digits ih =>
    rw [List.forall_mem_cons] at all
    simp [digitRun, all.1, ih all.2]

/-- The fraction of a number, with its period, or nothing. -/
def IsFraction (cs : List Char) : Prop :=
  cs = [] ∨ ∃ digits, cs = '.' :: digits ∧ ∀ c ∈ digits, c.isDigit = true

private theorem finishNumber_delimited (delimited : Delimited post) (afterPeriod : Bool)
    (digits : List Char) :
    finishNumber d afterPeriod digits [] [] post =
      (.number (String.ofList digits) false, post) := by
  have none' : ([] ++ post).takeWhile d.continuesIdentifier = [] :=
    takeWhile_delimited (by simp) (continuesIdentifier_delimiter delimited)
  rw [List.nil_append] at none'
  have short : ∀ rest, post ≠ 'L' :: rest := by
    rintro rest rfl
    simpa using delimited 'L' rfl
  unfold finishNumber
  split
  · exact absurd rfl (short _)
  · simp [none']

private theorem exponentRun_delimited (delimited : Delimited post) : exponentRun post =
    ([], [], post) := by
  cases post with
  | nil => rfl
  | cons c post =>
    rcases delimited c rfl with rfl | rfl | rfl <;> rfl

private theorem afterWhole_fraction {whole fraction : List Char} (some' : whole ≠ [])
    (decimal : IsFraction fraction) (delimited : Delimited post) :
    afterWhole d previous whole (fraction ++ post) =
      (.number (String.ofList (whole ++ fraction)) false, post) := by
  have stop : ∀ c ∈ post.head?, c.isDigit = false ∧ c ≠ '_' :=
    delimited.head_cases (by decide) (by decide) (by decide)
  have first : whole.isEmpty = false := by simpa using some'
  rcases decimal with rfl | ⟨digits, rfl, all⟩
  · have nothing : digitRun d Char.isDigit ([] ++ post) = ([], post) :=
      digitRun_digits (by simp) stop
    rw [List.nil_append] at nothing
    rw [List.nil_append]
    have exponent := exponentRun_delimited delimited
    have finish := finishNumber_delimited (d := d) delimited
    cases post with
    | nil => simp [afterWhole, first, nothing, exponent, finish]
    | cons c post =>
      rcases delimited c rfl with rfl | rfl | rfl <;>
        simp [afterWhole, first, nothing, exponent, finish]
  · have run : digitRun d Char.isDigit (digits ++ post) = (digits, post) := digitRun_digits all stop
    simp [afterWhole, first, run, exponentRun_delimited delimited,
      finishNumber_delimited delimited]

private theorem numberToken_number {c : Char} {cs fraction : List Char} (digit : c.isDigit = true)
    (digits : ∀ x ∈ cs, x.isDigit = true) (decimal : IsFraction fraction)
    (delimited : Delimited post) :
    numberToken d previous (c :: cs ++ (fraction ++ post)) =
      .ok (.number (String.ofList (c :: cs ++ fraction)) false, post) := by
  have stop : ∀ x ∈ (fraction ++ post).head?, x.isDigit = false ∧ x ≠ '_' := by
    rcases decimal with rfl | ⟨_, rfl, -⟩
    · exact delimited.head_cases (by decide) (by decide) (by decide)
    · intro x head
      obtain rfl : '.' = x := Option.some.inj head
      decide
  have run : digitRun d Char.isDigit (c :: cs ++ (fraction ++ post)) =
      (c :: cs, fraction ++ post) :=
    digitRun_digits (List.forall_mem_cons.mpr ⟨digit, digits⟩) stop
  have noHex : ∀ rest, fraction ++ post ≠ 'x' :: rest := by
    intro rest same
    rcases decimal with rfl | ⟨_, rfl, -⟩
    · simpa using delimited 'x' (by rw [List.nil_append] at same; rw [same]; rfl)
    · simp at same
  unfold numberToken
  dsimp only
  split
  · rename_i same
    obtain rfl := (List.cons.inj same).1
    exact absurd digit (by decide)
  · rw [run]
    dsimp only
    split
    · exact absurd ‹_› (noHex _)
    · rw [afterWhole_fraction (List.cons_ne_nil _ _) decimal delimited]

theorem Spells.number {c : Char} {cs fraction : List Char} (digit : c.isDigit = true)
    (digits : ∀ x ∈ cs, x.isDigit = true) (decimal : IsFraction fraction) :
    Spells d (c :: (cs ++ fraction)) [.number (String.ofList (c :: cs ++ fraction)) false] := by
  refine .single rfl (by simp [Token.Tame]) fun previous _ post delimited => ?_
  have other {x : Char} (mark : x.isDigit = false) : c ≠ x := by
    rintro rfl
    simp [digit] at mark
  have unquoted : d.opensQuoted c = false := by
    cases d <;> simp [Dialect.opensQuoted, other (x := '"') rfl, other (x := '\x60') rfl,
      other (x := '[') rfl]
  have blank : ¬((decide (c = ' ') || decide (c = '\t') || decide (c = '\n')) = true) := by
    simp [other (x := ' ') rfl, other (x := '\t') rfl, other (x := '\n') rfl]
  have noLetter : c.isAlpha = false :=
    Bool.eq_false_iff.mpr fun letter => by simp [isDigit_of_isAlpha letter] at digit
  rw [tokenFrom.eq_def, letteredString?_of_not_alpha noLetter]
  dsimp only
  rw [if_neg blank, if_neg (other (x := '\r') rfl), if_neg (other (x := '\'') rfl),
    if_neg (by simp [unquoted]), if_neg (other (x := '"') rfl), if_pos (by simp [digit])]
  simpa using numberToken_number digit digits decimal delimited

private theorem isNumeral_of_isDigit {c : Char} (digit : c.isDigit = true) :
    Text.isNumeral c = true := by
  have ascii : c.toNat < 128 := by
    simp only [Char.isDigit, Bool.and_eq_true, decide_eq_true_eq, ge_iff_le,
      UInt32.le_iff_toNat_le, UInt32.reduceToNat, Char.reduceVal] at digit
    rw [Char.toNat]
    omega
  rw [Text.isNumeral_of_lt ascii, digit]

theorem Spells.questionMark (marks : d ≠ .postgres) {cs : List Char}
    (digits : ∀ x ∈ cs, x.isDigit = true) :
    Spells d ('?' :: cs) [.placeholder (String.ofList ('?' :: cs))] := by
  refine .single rfl (by simp [Token.Tame]) fun previous _ post delimited => ?_
  have all : (cs ++ post).takeWhile Text.isNumeral = cs :=
    takeWhile_delimited (fun x member => isNumeral_of_isDigit (digits x member))
      (delimited.head_cases rfl rfl rfl)
  have read : tokenFrom d previous '?' (cs ++ post) =
      .ok (.placeholder (String.ofList ('?' :: (cs ++ post).takeWhile Text.isNumeral)),
        (cs ++ post).drop ((cs ++ post).takeWhile Text.isNumeral).length) := by
    cases d
    case postgres => exact absurd rfl marks
    all_goals rfl
  rw [read, all, List.drop_left]

theorem Spells.dollar (marks : d ≠ .mySql) {cs : List Char}
    (digits : ∀ x ∈ cs, x.isDigit = true) :
    Spells d ('$' :: cs) [.placeholder (String.ofList ('$' :: cs))] := by
  refine .single rfl (by simp [Token.Tame]) fun previous _ post delimited => ?_
  have all : (cs ++ post).takeWhile (namesPlaceholder d) = cs := by
    refine takeWhile_delimited (fun x member => ?_) (delimited.head_cases ?_ ?_ ?_)
    · simp [namesPlaceholder, isNumeral_of_isDigit (digits x member)]
    all_goals cases d <;> rfl
  have read : tokenFrom d previous '$' (cs ++ post) = afterDollar d (cs ++ post) := by
    cases d
    case mySql => exact absurd rfl marks
    all_goals rfl
  have apart : ∀ rest, cs ++ post ≠ '$' :: rest := by
    intro rest same
    cases cs with
    | nil =>
      rw [List.nil_append] at same
      simpa using delimited '$' (by rw [same]; rfl)
    | cons x cs =>
      obtain rfl := (List.cons.inj same).1
      exact absurd (digits '$' List.mem_cons_self) (by decide)
  have close : ∀ rest, post ≠ '$' :: rest := by
    rintro rest rfl
    simpa using delimited '$' rfl
  rw [read, afterDollar.eq_def]
  split
  · rename_i same
    exact absurd same (apart _)
  · dsimp only
    rw [all, List.drop_left]
    split
    · exact absurd rfl (close _)
    · rfl

end RowStamp.Sql
