import RowStamp.Proofs.Regex.Running

/-!
Readers only consume: what is ahead after one is the end of what was ahead before it.  And only the
reader of a whole pattern takes a parenthesis for one that closes no group.
-/

set_option autoImplicit false
set_option relaxedAutoImplicit false

namespace RowStamp.Regex.Reader

variable {α β : Type}

/-! ### Consuming -/

/-- A reader that only consumes, and that does not fail for a parenthesis that closes no group. -/
class Consumes (r : Reader α) : Prop where
  ends : ∀ st, Ends (fun _ next => next.rest <:+ st.rest) (r st)

theorem Consumes.length_le {r : Reader α} [consumes : Consumes r] {st next : ReadState} {a : α}
    (read : r st = .ok (a, next)) : next.rest.length ≤ st.rest.length := by
  have ends := consumes.ends st
  rw [read] at ends
  exact ends.length_le

theorem Consumes.length_lt {r : Reader α} [Consumes r] {st next : ReadState} {a : α}
    (read : r st = .ok (a, next)) {fuel : Nat} (enough : st.rest.length < fuel) :
    next.rest.length < fuel :=
  Nat.lt_of_le_of_lt (Consumes.length_le read) enough

theorem Consumes.bind {r : Reader α} {f : α → Reader β} (first : Consumes r)
    (next : ∀ a, Consumes (f a)) : Consumes (r >>= f) where
  ends st := Ends.bind (first.ends st) fun a middle suffix =>
    ((next a).ends middle).mono fun _ _ more => more.trans suffix

instance consumes_bind {r : Reader α} {f : α → Reader β} [first : Consumes r]
    [next : ∀ a, Consumes (f a)] : Consumes (r >>= f) :=
  first.bind next

instance consumes_ite (c : Prop) [Decidable c] (r s : Reader α) [Consumes r] [Consumes s] :
    Consumes (if c then r else s) := by
  split <;> infer_instance

instance consumes_pure (a : α) : Consumes (pure a : Reader α) where
  ends _ := List.suffix_rfl

instance consumes_get : Consumes (get : Reader ReadState) where
  ends _ := List.suffix_rfl

instance consumes_place : Consumes place where
  ends _ := List.suffix_rfl

instance consumes_peek : Consumes peek where
  ends _ := List.suffix_rfl

/-- After a look at the next character, the two cases are apart. -/
instance consumes_peek_bind {f : Option Char → Reader α} [Consumes (f none)]
    [∀ c, Consumes (f (some c))] : Consumes (peek >>= f) where
  ends st := by
    rw [peek_bind]
    cases st.rest.head? <;> exact Consumes.ends st

instance consumes_peekIs (c : Char) : Consumes (peekIs c) where
  ends _ := List.suffix_rfl

instance consumes_here : Consumes here where
  ends _ := List.suffix_rfl

instance consumes_hereChar : Consumes hereChar where
  ends _ := List.suffix_rfl

instance consumes_peekSecond : Consumes peekSecond where
  ends _ := List.suffix_rfl

instance consumes_bump : Consumes bump where
  ends st := List.drop_suffix 1 st.rest

instance consumes_setNames (names : ReadState → List (String × Span)) :
    Consumes (modify fun st => { st with names := names st }) where
  ends _ := List.suffix_rfl

instance consumes_setFreeSpacing (freeSpacing : ReadState → Bool) :
    Consumes (modify fun st => { st with freeSpacing := freeSpacing st }) where
  ends _ := List.suffix_rfl

instance consumes_forIn {γ : Type} (items : List γ) (init : β) (body : γ → β → Reader (ForInStep β))
    [∀ item b, Consumes (body item b)] : Consumes (forIn items init body) := by
  induction items generalizing init with
  | nil =>
    rw [List.forIn_nil]
    infer_instance
  | cons item items ih =>
    rw [List.forIn_cons]
    have next (step : ForInStep β) : Consumes (match step with
        | .done b => pure b
        | .yield b => forIn items b body) := by
      cases step <;> infer_instance
    infer_instance

@[reducible] def isOther : Cause → Bool
  | .unopenedGroup => false
  | _ => true

/-- A condition that computes to true. -/
class Holds (b : Bool) : Prop where
  holds : b = true

instance holds_true : Holds true := ⟨rfl⟩

instance consumes_fault (cause : Cause) (span : Span) [other : Holds (isOther cause)] :
    Consumes (fault cause span : Reader α) where
  ends st := by
    rintro (rfl : cause = _)
    cases other.holds

/-- What follows a fault is not read. -/
instance consumes_fault_bind (cause : Cause) (span : Span) [Holds (isOther cause)]
    (f : β → Reader α) : Consumes (fault cause span >>= f) :=
  fault_bind cause span f ▸ consumes_fault cause span

/-! ### Parts without nesting -/

theorem skipSpaces_suffix (inComment : Bool) (chars : List Char) :
    skipSpaces inComment chars <:+ chars := by
  induction chars generalizing inComment with
  | nil => cases inComment <;> exact List.suffix_rfl
  | cons c chars ih =>
    have further (inComment : Bool) : skipSpaces inComment chars <:+ c :: chars :=
      (ih inComment).trans (List.suffix_cons c chars)
    cases inComment with
    | true => exact further _
    | false =>
      rw [skipSpaces]
      split
      · exact further _
      · split
        · exact further _
        · exact List.suffix_rfl

theorem spaced_of_head? {st : ReadState} {c : Char} (next : st.rest.head? = some c)
    (notBlank : Text.isBlank c = false) (notComment : c ≠ '#') : st.spaced = st := by
  obtain ⟨rest, place, freeSpacing, names⟩ := st
  obtain ⟨more, rfl⟩ := List.head?_eq_some_iff.mp next
  have stays : skipSpaces false (c :: more) = c :: more := by
    simp only [skipSpaces, notBlank, if_neg notComment]
    rfl
  cases freeSpacing with
  | false => rfl
  | true => simp only [ReadState.spaced, if_true, stays, Nat.sub_self, Nat.add_zero]

instance consumes_space : Consumes space where
  ends st := by
    change (if st.freeSpacing then _ else st).rest <:+ st.rest
    split
    · exact skipSpaces_suffix _ _
    · exact List.suffix_rfl

instance consumes_step : Consumes step := by
  unfold step
  infer_instance

instance consumes_stepOr (cause : Cause) (start : Nat) [Holds (isOther cause)] :
    Consumes (stepOr cause start) := by
  unfold stepOr
  infer_instance

theorem text_run (chars : String) (st : ReadState) :
    text chars st =
      if chars.toList.isPrefixOf st.rest then
        .ok (true, ⟨st.rest.drop chars.toList.length, st.place + chars.toList.length,
          st.freeSpacing, st.names⟩)
      else .ok (false, st) := by
  have bumps (list : List Char) (st : ReadState) :
      (forIn list PUnit.unit fun _ _ => do
        bump
        pure (ForInStep.yield PUnit.unit) : Reader PUnit) st =
      .ok (⟨⟩, { st with rest := st.rest.drop list.length, place := st.place + list.length }) := by
    induction list generalizing st with
    | nil => rfl
    | cons c list ih =>
      rw [List.forIn_cons]
      simp only [bind_assoc, pure_bind, bump_bind, ih, List.drop_drop, List.length_cons,
        Nat.add_assoc, Nat.add_comm 1]
  simp only [text, get_bind, ite_run, pure_run]
  split
  · rw [bind_of_ok (bumps _ _)]
    rfl
  · rfl

instance consumes_text (chars : String) : Consumes (text chars) := by
  unfold text
  infer_instance

instance consumes_digits (fuel : Nat) : Consumes (digits fuel) := by
  induction fuel with
  | zero => exact consumes_pure []
  | succ fuel ih =>
    unfold digits
    infer_instance

instance consumes_blanks (fuel : Nat) : Consumes (blanks fuel) := by
  induction fuel with
  | zero => exact consumes_pure ()
  | succ fuel ih =>
    unfold blanks
    infer_instance

instance consumes_hexDigits (count value : Nat) : Consumes (hexDigits count value) := by
  induction count generalizing value with
  | zero => exact consumes_pure value
  | succ count ih =>
    unfold hexDigits
    refine .bind inferInstance fun next => ?_
    split
    · infer_instance
    · split <;> infer_instance

instance consumes_bracedDigits (brace fuel value count : Nat) :
    Consumes (bracedDigits brace fuel value count) := by
  induction fuel generalizing value count with
  | zero => exact consumes_pure (value, count)
  | succ fuel ih =>
    unfold bracedDigits
    refine .bind inferInstance fun _ => .bind inferInstance fun next => ?_
    split
    · infer_instance
    · infer_instance
    · split <;> infer_instance

def charLiteral (start value : Nat) (byte : Bool) (bad : Span) : Reader Literal :=
  match charOf? value with
  | some c => return ⟨⟨start, ← place⟩, c, byte⟩
  | none => fault .hexValue bad

instance consumes_charLiteral (start value : Nat) (byte : Bool) (bad : Span) :
    Consumes (charLiteral start value byte bad) := by
  unfold charLiteral
  split <;> infer_instance

def bracedLiteral (start first : Nat) : Reader Literal := do
  let number ← bracedDigits first ((← get).rest.length + 1) 0 0
  let last ← place
  step
  if number.2 = 0 then fault .emptyHex ⟨first, ← place⟩
  charLiteral start number.1 false ⟨first + 1, last⟩

instance consumes_bracedLiteral (start first : Nat) : Consumes (bracedLiteral start first) := by
  unfold bracedLiteral
  infer_instance

def digitsOf (letter : Char) : Nat := if letter = 'x' then 2 else if letter = 'u' then 4 else 8

def plainLiteral (start : Nat) (letter : Char) (first : Nat) : Reader Literal := do
  let value ← hexDigits (digitsOf letter) 0
  let stop ← place
  charLiteral start value (letter = 'x') ⟨first, stop⟩

instance consumes_plainLiteral (start : Nat) (letter : Char) (first : Nat) :
    Consumes (plainLiteral start letter first) := by
  unfold plainLiteral
  infer_instance

theorem hexEscape_eq (start : Nat) (letter : Char) : hexEscape start letter = (do
    step
    if (← peek).isNone then fault .openEscape (← here)
    let first ← place
    if ← peekIs '\x7b' then bracedLiteral start first else plainLiteral start letter first) := by
  unfold hexEscape plainLiteral charLiteral
  refine bind_congr fun _ => bind_congr fun next => ?_
  dsimp only
  split
  · rfl
  · refine bind_congr fun first => bind_congr fun brace => ?_
    split
    · rfl
    · refine bind_congr fun value => ?_
      cases charOf? value <;> rfl

instance consumes_hexEscape (start : Nat) (letter : Char) : Consumes (hexEscape start letter) := by
  rw [hexEscape_eq]
  infer_instance

instance consumes_bracedName (fuel : Nat) : Consumes (bracedName fuel) := by
  induction fuel with
  | zero => exact consumes_pure []
  | succ fuel ih =>
    unfold bracedName
    refine .bind inferInstance fun _ => .bind inferInstance fun next => ?_
    split <;> infer_instance

instance consumes_propertyQuery : Consumes propertyQuery := by
  unfold propertyQuery
  refine .bind inferInstance fun _ => .bind inferInstance fun next => ?_
  split <;> infer_instance

instance consumes_boundaryName (fuel : Nat) : Consumes (boundaryName fuel) := by
  induction fuel with
  | zero => exact consumes_pure []
  | succ fuel ih =>
    unfold boundaryName
    infer_instance

def boundaryOf (name : List Char) (span : Span) : Reader Assertion :=
  match String.ofList name with
  | "start" => return .wordStart
  | "end" => return .wordEnd
  | "start-half" => return .wordStartHalf
  | "end-half" => return .wordEndHalf
  | _ => fault .unknownBoundary span

def namedBoundary (fuel brace : Nat) : Reader Assertion := do
  let first ← place
  let name ← boundaryName fuel
  unless ← peekIs '\x7d' do fault .boundaryForm ⟨brace, ← place⟩
  let last ← place
  bump
  boundaryOf name ⟨first, last⟩

/-- A brace starts the name of a boundary where a character of one is next, and otherwise is left
for a count. -/
theorem wordBoundary_run (start : Nat) (st : ReadState) :
    wordBoundary start st =
      if st.rest.head? = some '\x7b' then
        match st.stepped.rest.head? with
        | none => .error ⟨.openBoundary, ⟨start, st.stepped.place⟩, none⟩
        | some c =>
          if isBoundaryChar c then namedBoundary (st.rest.length + 1) st.place st.stepped
          else .ok (.wordBoundary, st)
      else .ok (.wordBoundary, st) := by
  simp only [wordBoundary, peekIs_bind, ite_run, pure_run]
  by_cases brace : st.rest.head? = some '\x7b'
  · simp only [brace, beq_self_eq_true, if_true, get_bind, step_bind, place_bind, peek_bind]
    cases st.stepped.rest.head? with
    | none => rfl
    | some c =>
      dsimp only
      rw [ite_run]
      rfl
  · simp [brace]

instance consumes_boundaryOf (name : List Char) (span : Span) :
    Consumes (boundaryOf name span) := by
  unfold boundaryOf
  split <;> infer_instance

instance consumes_namedBoundary (fuel brace : Nat) : Consumes (namedBoundary fuel brace) := by
  unfold namedBoundary
  infer_instance

instance consumes_wordBoundary (start : Nat) : Consumes (wordBoundary start) where
  ends st := by
    rw [wordBoundary_run]
    split
    · split
      · rintro ⟨⟩
      · split
        · have name := Consumes.ends (r := namedBoundary (st.rest.length + 1) st.place) st.stepped
          have suffix : st.stepped.rest <:+ st.rest := Consumes.ends (r := step) st
          exact name.mono fun _ _ more => more.trans suffix
        · exact List.suffix_rfl
    · exact List.suffix_rfl

instance consumes_simpleEscape (start : Nat) (c : Char) : Consumes (simpleEscape start c) := by
  unfold simpleEscape
  refine .bind inferInstance fun stop => ?_
  dsimp only
  split
  · infer_instance
  · split <;> infer_instance

/-- The escape that a character after the backslash starts. -/
def escapeOf (start : Nat) (c : Char) : Reader Node := do
  if c.isDigit then fault .backreference ⟨start, (← place) + 1⟩
  else if ['x', 'u', 'U'].contains c then return .literal (← hexEscape start c)
  else if c = 'p' || c = 'P' then
    let query ← propertyQuery
    return .bare ⟨start, ← place⟩ (c = 'P') (.property query)
  else
    match shortClasses.lookup c.toLower with
    | some kind =>
      bump
      return .bare ⟨start, ← place⟩ c.isUpper (.short kind)
    | none =>
      bump
      simpleEscape start c

theorem escape_eq : escape = (do
    let start ← place
    bump
    match ← peek with
    | none => fault .openEscape ⟨start, ← place⟩
    | some c => escapeOf start c) := rfl

instance consumes_escapeOf (start : Nat) (c : Char) : Consumes (escapeOf start c) := by
  unfold escapeOf
  repeat' split
  all_goals infer_instance

instance consumes_escape : Consumes escape := by
  rw [escape_eq]
  infer_instance

instance consumes_primitive (c : Char) : Consumes (primitive c) := by
  unfold primitive
  split
  · infer_instance
  · refine .bind inferInstance fun span => .bind inferInstance fun _ => ?_
    split <;> infer_instance

end RowStamp.Regex.Reader
