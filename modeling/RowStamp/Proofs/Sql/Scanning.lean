import Mathlib.Data.List.Basic
import RowStamp.Sql.Lexer

/-!
The tokens of a text that is put together from parts.  A part that is read as the same tokens
wherever it stands before a delimiter spells these tokens; parts with punctuation between them
spell their tokens one after the other.
-/

set_option autoImplicit false
set_option relaxedAutoImplicit false

namespace RowStamp.Sql

variable {d : Dialect} {previous : Option Token} {post : List Char}

/-- A text is read as tokens, up to what is left of it. -/
inductive Scans (d : Dialect) : Option Token → List Char → List Token → List Char → Prop
  | done (previous : Option Token) (post : List Char) : Scans d previous post [] post
  | step {previous : Option Token} {c : Char} {cs rest post : List Char} {token : Token}
      {tokens : List Token} (first : tokenFrom d previous c cs = .ok (token, rest))
      (shorter : rest.length ≤ cs.length) (more : Scans d (some token) rest tokens post) :
      Scans d previous (c :: cs) (token :: tokens) post

private theorem Scans.trans {cs mid : List Char} {tokens more : List Token}
    (first : Scans d previous cs tokens mid)
    (second : Scans d (tokens.getLast?.or previous) mid more post) :
    Scans d previous cs (tokens ++ more) post := by
  induction first with
  | done => exact second
  | @step previous c cs rest mid token tokens first shorter _ ih =>
    refine .step first shorter (ih ?_)
    cases tokens with
    | nil => exact second
    | cons other tokens =>
      rw [List.getLast?_cons_cons] at second
      rw [List.getLast?_cons, Option.some_or] at second ⊢
      exact second

private theorem lexemesFrom_of_scans {cs : List Char} {tokens : List Token} {fuel : Nat}
    (position : Position) (scans : Scans d previous cs tokens []) (enough : cs.length < fuel) :
    ∃ found, lexemesFrom d fuel previous position cs = .ok found ∧
      found.map Lexeme.token = tokens := by
  induction tokens generalizing previous cs fuel position with
  | nil =>
    cases scans
    cases fuel <;> exact ⟨[], rfl, rfl⟩
  | cons token tokens ih =>
    cases scans with
    | @step _ c cs rest _ _ _ first shorter more =>
      cases fuel with
      | zero => simp at enough
      | succ fuel =>
        simp only [List.length_cons] at enough
        have smaller : rest.length < fuel := by omega
        obtain ⟨found, read, same⟩ := ih (position.reach (c :: cs) rest) more smaller
        refine ⟨⟨token, position⟩ :: found, ?_, by simp [same]⟩
        simp only [lexemesFrom, first, read]
        rfl

private theorem expandComments_of_tame {list : List Lexeme}
    (tame : ∀ lexeme ∈ list, executableText? d lexeme.token = none) :
    expandComments d list = .ok list := by
  induction list with
  | nil => rfl
  | cons lexeme list ih =>
    rw [List.forall_mem_cons] at tame
    simp only [expandComments, tame.1, ih tame.2]
    rfl

/-- A token that holds no SQL of its own, as a comment might, and after which a word is read as a
word, as it might not be after a period. -/
def Token.Tame (token : Token) : Prop :=
  token ≠ .symbol "." ∧ ∀ text, token = .blank text → text = " "

private theorem executableText?_of_tame {token : Token} (tame : token.Tame) :
    executableText? d token = none := by
  cases token with
  | blank text =>
    obtain rfl := tame.2 text rfl
    cases d <;> rfl
  | _ => rfl

private theorem lexemes_of_scans {text : String} {tokens : List Token}
    (scans : Scans d none text.toList tokens []) (tame : ∀ token ∈ tokens, token.Tame) :
    ∃ found, lexemes d text = .ok found ∧ found.map Lexeme.token = tokens := by
  obtain ⟨found, read, same⟩ :=
    lexemesFrom_of_scans Position.start scans (Nat.lt_succ_self _)
  refine ⟨found, ?_, same⟩
  have expanded : expandComments d found = .ok found := by
    refine expandComments_of_tame fun lexeme member => ?_
    refine executableText?_of_tame (tame _ ?_)
    rw [← same]
    exact List.mem_map_of_mem member
  simp only [lexemes, read]
  exact expanded

def significant (lexemes : List Lexeme) : List Token :=
  (lexemes.filter (!·.token.isBlank)).map Lexeme.token

theorem length_significant_le (lexemes : List Lexeme) :
    (significant lexemes).length ≤ lexemes.length := by
  rw [significant, List.length_map]
  exact List.length_filter_le _ _

/-- A text has some tokens, blanks aside. -/
def Lexes (d : Dialect) (previous : Option Token) (cs : List Char) (tokens : List Token) : Prop :=
  ∃ fuel position found, cs.length < fuel ∧
    lexemesFrom d fuel previous position cs = .ok found ∧ significant found = tokens

namespace Lexes

variable {tokens : List Token}

theorem eq_nil (lexes : Lexes d previous [] tokens) : tokens = [] := by
  obtain ⟨fuel, position, found, -, read, rfl⟩ := lexes
  have none' : lexemesFrom d fuel previous position [] = .ok [] := by cases fuel <;> rfl
  obtain rfl : [] = found := Except.ok.inj (none'.symm.trans read)
  rfl

theorem first {c : Char} {cs : List Char} (lexes : Lexes d previous (c :: cs) tokens) :
    ∃ token rest more, tokenFrom d previous c cs = .ok (token, rest) ∧
      tokens = [token].filter (!·.isBlank) ++ more ∧
      (rest.length ≤ cs.length → Lexes d (some token) rest more) := by
  obtain ⟨fuel, position, found, enough, read, rfl⟩ := lexes
  cases fuel with
  | zero => simp at enough
  | succ fuel =>
    simp only [List.length_cons] at enough
    rw [lexemesFrom] at read
    cases start : tokenFrom d previous c cs with
    | error fault => simp [start] at read
    | ok result =>
      obtain ⟨token, rest⟩ := result
      simp only [start] at read
      cases tail : lexemesFrom d fuel (some token) (position.reach (c :: cs) rest) rest with
      | error fault =>
        rw [tail] at read
        cases read
      | ok others =>
        rw [tail] at read
        obtain rfl : ⟨token, position⟩ :: others = found := Except.ok.inj read
        refine ⟨token, rest, significant others, rfl, ?_, fun shorter => ?_⟩
        · cases blank : token.isBlank <;> simp [significant, blank]
        · exact ⟨fuel, _, others, by omega, tail, rfl⟩

private theorem of_scans {cs : List Char} {known : List Token}
    (scans : Scans d previous cs known post) (lexes : Lexes d previous cs tokens) :
    ∃ more, tokens = known.filter (!·.isBlank) ++ more ∧
      Lexes d (known.getLast?.or previous) post more := by
  induction scans generalizing tokens with
  | done => exact ⟨tokens, rfl, lexes⟩
  | @step previous c cs rest post token known start shorter _ ih =>
    obtain ⟨other, left, more, found, rfl, onward⟩ := lexes.first
    rw [start] at found
    obtain ⟨rfl, rfl⟩ := Prod.mk.inj (Except.ok.inj found)
    obtain ⟨last, rfl, done⟩ := ih (onward shorter)
    refine ⟨last, ?_, ?_⟩
    · rw [← List.append_assoc, ← List.filter_append]
      rfl
    · cases known with
      | nil => exact done
      | cons other known =>
        rw [List.getLast?_cons_cons]
        rw [List.getLast?_cons, Option.some_or] at done ⊢
        exact done

end Lexes

theorem lexes_of_lexemes {text : String} {found : List Lexeme}
    (plain : d.executableComments = false) (read : lexemes d text = .ok found) :
    Lexes d none text.toList (significant found) := by
  cases start : lexemesFrom d (text.toList.length + 1) none Position.start text.toList with
  | error fault => simp [lexemes, start, bind, Except.bind] at read
  | ok others =>
    have same : expandComments d others = .ok others := by
      refine expandComments_of_tame fun lexeme _ => ?_
      cases token : lexeme.token <;> simp [executableText?, plain]
    simp only [lexemes, start] at read
    obtain rfl : others = found := Except.ok.inj (same.symm.trans read)
    exact ⟨_, _, others, Nat.lt_succ_self _, start, rfl⟩

/-! ### Parts of a text -/

/-- What may follow a word, a number or a string: nothing, a blank, a comma or a closing
parenthesis. -/
def Delimited (post : List Char) : Prop := ∀ c ∈ post.head?, c = ' ' ∨ c = ',' ∨ c = ')'

/-- A text has some tokens, blanks aside, wherever it stands before a delimiter and not after a
period. -/
def Spells (d : Dialect) (cs : List Char) (tokens : List Token) : Prop :=
  ∃ all : List Token, all.filter (!·.isBlank) = tokens ∧ (∀ token ∈ all, token.Tame) ∧
    ∀ previous, previous ≠ some (.symbol ".") → ∀ post, Delimited post →
      Scans d previous (cs ++ post) all post

def punctuation : List Char := [' ', ',', '(', ')']

def punctuationToken (c : Char) : Token := if c = ' ' then .blank " " else .symbol c.toString

def marks (cs : List Char) : List Token := (cs.map punctuationToken).filter (!·.isBlank)

private theorem tokenFrom_punctuation {c : Char} (member : c ∈ punctuation) (cs : List Char) :
    tokenFrom d previous c cs = .ok (punctuationToken c, cs) := by
  simp only [punctuation, List.mem_cons, List.not_mem_nil, or_false] at member
  rcases member with rfl | rfl | rfl | rfl <;> cases d <;> rfl

private theorem scans_punctuation {cs : List Char} (member : cs ⊆ punctuation) :
    Scans d previous (cs ++ post) (cs.map punctuationToken) post := by
  induction cs generalizing previous with
  | nil => exact .done _ _
  | cons c cs ih =>
    rw [List.cons_subset] at member
    exact .step (tokenFrom_punctuation member.1 _) (Nat.le_refl _) (ih member.2)

private theorem tame_punctuation {cs : List Char} (member : cs ⊆ punctuation) :
    ∀ token ∈ cs.map punctuationToken, token.Tame := by
  intro token found
  obtain ⟨c, inside, rfl⟩ := List.mem_map.mp found
  have known := member inside
  simp only [punctuation, List.mem_cons, List.not_mem_nil, or_false] at known
  rcases known with rfl | rfl | rfl | rfl <;> simp [Token.Tame, punctuationToken]

private theorem getLast?_ne_period {tokens : List Token} (tame : ∀ token ∈ tokens, token.Tame)
    (free : previous ≠ some (.symbol ".")) :
    tokens.getLast?.or previous ≠ some (.symbol ".") := by
  cases last : tokens.getLast? with
  | none => simpa using free
  | some token =>
    have member : token ∈ tokens := List.mem_of_getLast? last
    simpa using (tame token member).1

namespace Spells

variable {a b cs : List Char} {left right : List Token}

theorem nil : Spells d [] [] := ⟨[], rfl, by simp, fun _ _ _ _ => .done _ _⟩

theorem single {c : Char} {token : Token} (visible : token.isBlank = false) (tame : token.Tame)
    (read : ∀ previous, previous ≠ some (.symbol ".") → ∀ post, Delimited post →
      tokenFrom d previous c (cs ++ post) = .ok (token, post)) : Spells d (c :: cs) [token] := by
  refine ⟨[token], by simp [visible], by simpa using tame, fun previous free post delimited => ?_⟩
  exact .step (read previous free post delimited) (by simp) (.done _ _)

theorem after (cs : List Char) (member : cs ⊆ punctuation) (second : Spells d b right) :
    Spells d (cs ++ b) (marks cs ++ right) := by
  obtain ⟨all, rfl, tame, scans⟩ := second
  refine ⟨cs.map punctuationToken ++ all, by simp [marks], ?_, ?_⟩
  · exact List.forall_mem_append.mpr ⟨tame_punctuation member, tame⟩
  · intro previous free post delimited
    rw [List.append_assoc]
    exact (scans_punctuation member).trans
      (scans _ (getLast?_ne_period (tame_punctuation member) free) _ delimited)

/-- Two texts with punctuation between them that delimits the first. -/
theorem join (first : Spells d a left) {c : Char} (delimits : c = ' ' ∨ c = ',' ∨ c = ')')
    (cs : List Char) (member : cs ⊆ punctuation) (second : Spells d b right) :
    Spells d (a ++ c :: cs ++ b) (left ++ marks (c :: cs) ++ right) := by
  have members : c :: cs ⊆ punctuation := by
    refine List.cons_subset.mpr ⟨?_, member⟩
    rcases delimits with rfl | rfl | rfl <;> decide
  obtain ⟨all, rfl, tame, scans⟩ := first
  obtain ⟨others, same, tames, more⟩ := second.after (c :: cs) members
  refine ⟨all ++ others, by simp [same], List.forall_mem_append.mpr ⟨tame, tames⟩, ?_⟩
  intro previous free post delimited
  have middle : Delimited (c :: cs ++ b ++ post) := by simpa [Delimited] using delimits
  have head := scans previous free _ middle
  simp only [List.append_assoc] at head ⊢
  refine head.trans ?_
  simpa using more _ (getLast?_ne_period tame free) _ delimited

theorem commas {β : Type} {textOf : β → List Char} {tokensOf : β → List Token} {list : List β}
    (each : ∀ x ∈ list, Spells d (textOf x) (tokensOf x)) :
    Spells d ([',', ' '].intercalate (list.map textOf))
      ([.symbol ","].intercalate (list.map tokensOf)) := by
  induction list with
  | nil => exact nil
  | cons x list ih =>
    rw [List.forall_mem_cons] at each
    cases list with
    | nil => simpa using each.1
    | cons y list =>
      rw [List.map_cons, List.map_cons, List.map_cons, List.map_cons, List.intercalate_cons_cons,
        List.intercalate_cons_cons, ← List.map_cons, ← List.map_cons]
      exact each.1.join (.inr (.inl rfl)) [' '] (by decide) (ih each.2)

theorem lexemes_eq {text : String} {tokens : List Token} (spells : Spells d text.toList tokens) :
    ∃ found, lexemes d text = .ok found ∧ significant found = tokens := by
  obtain ⟨all, rfl, tame, scans⟩ := spells
  have whole := scans none (by simp) [] (by simp [Delimited])
  rw [List.append_nil] at whole
  obtain ⟨found, read, same⟩ := lexemes_of_scans whole tame
  refine ⟨found, read, ?_⟩
  rw [significant, ← same, List.filter_map]
  rfl

end Spells

/-! ### Tokens ahead -/

/-- The tokens of a text that does not stand after a period. -/
def Ahead (d : Dialect) (cs : List Char) (tokens : List Token) : Prop :=
  ∃ previous, previous ≠ some (.symbol ".") ∧ Lexes d previous cs tokens

namespace Ahead

variable {cs : List Char} {tokens : List Token}

theorem spells {known : List Token} (ahead : Ahead d (cs ++ post) tokens)
    (spells : Spells d cs known) (delimited : Delimited post) :
    ∃ more, tokens = known ++ more ∧ Ahead d post more := by
  obtain ⟨previous, free, lexes⟩ := ahead
  obtain ⟨all, rfl, tame, scans⟩ := spells
  obtain ⟨more, same, onward⟩ := lexes.of_scans (scans previous free post delimited)
  exact ⟨more, same, _, getLast?_ne_period tame free, onward⟩

theorem punctuation (cs : List Char) (ahead : Ahead d (cs ++ post) tokens)
    (member : cs ⊆ punctuation) :
    ∃ more, tokens = marks cs ++ more ∧ Ahead d post more := by
  obtain ⟨previous, free, lexes⟩ := ahead
  obtain ⟨more, same, onward⟩ := lexes.of_scans (scans_punctuation member)
  exact ⟨more, same, _, getLast?_ne_period (tame_punctuation member) free, onward⟩

theorem eq_nil (ahead : Ahead d [] tokens) : tokens = [] := by
  obtain ⟨previous, -, lexes⟩ := ahead
  exact lexes.eq_nil

end Ahead

end RowStamp.Sql
