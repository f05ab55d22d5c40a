import RowStamp.Proofs.Regex.Consuming

/-!
The readers of items of a class, of counts, and of what a parenthesis opens only consume.
-/

set_option autoImplicit false
set_option relaxedAutoImplicit false

namespace RowStamp.Regex.Reader

variable {α : Type}

/-! ### Items of a class -/

instance consumes_classPrimitive (c : Char) : Consumes (classPrimitive c) := by
  unfold classPrimitive
  infer_instance

instance consumes_classItem (node : Node) : Consumes (classItem node) := by
  unfold classItem
  split <;> infer_instance

instance consumes_rangeEnd (node : Node) : Consumes (rangeEnd node) := by
  unfold rangeEnd
  split <;> infer_instance

def rangeLast (first : Node) (c : Char) : Reader ClassSet := do
  let last ← classPrimitive c
  let low ← rangeEnd first
  let high ← rangeEnd last
  let span : Span := ⟨first.span.start, last.span.stop⟩
  if high.c < low.c then fault .classRangeOrder span
  return .range span low high

/-- An item has one part, where these are the next characters. -/
def isSingle (next second : Option Char) : Bool :=
  next ≠ some '-' || second = some ']' || second = some '-'

def rangeFrom (brackets : Span) (first : Node) : Reader ClassSet := do
  space
  if (← peek).isNone then fault .openClass brackets
  let second ← peekSecond
  if isSingle (← peek) second then classItem first
  else
    step
    match ← peek with
    | none => fault .openClass brackets
    | some c => rangeLast first c

theorem classRange_eq (brackets : Span) (c : Char) :
    classRange brackets c = (do rangeFrom brackets (← classPrimitive c)) := rfl

instance consumes_rangeLast (first : Node) (c : Char) : Consumes (rangeLast first c) := by
  unfold rangeLast
  infer_instance

instance consumes_rangeFrom (brackets : Span) (first : Node) :
    Consumes (rangeFrom brackets first) := by
  unfold rangeFrom
  refine .bind inferInstance fun _ => .bind inferInstance fun next => ?_
  dsimp only
  split
  · infer_instance
  · refine .bind inferInstance fun second => .bind inferInstance fun hyphen => ?_
    split <;> infer_instance

instance consumes_classRange (brackets : Span) (c : Char) : Consumes (classRange brackets c) := by
  rw [classRange_eq]
  infer_instance

def asciiText (negated : Bool) (name : List Char) : List Char :=
  '[' :: ':' :: ((if negated then '^' :: name else name) ++ [':', ']'])

private theorem letters_of_parse? {name : List Char} {kind : AsciiClass}
    (parsed : AsciiClass.parse? (String.ofList name) = some kind) : name.all Char.isAlpha := by
  have same (text : String) (eq : String.ofList name = text) : name = text.toList := by
    rw [← eq, String.toList_ofList]
  unfold AsciiClass.parse? at parsed
  split at parsed
  case h_15 => cases parsed
  all_goals
    rename_i eq
    rw [same _ eq]
    decide

theorem not_mem_of_parse? {name : List Char} {kind : AsciiClass} {c : Char}
    (parsed : AsciiClass.parse? (String.ofList name) = some kind) (other : c.isAlpha = false) :
    c ∉ name := by
  intro mem
  have letter := List.all_eq_true.mp (letters_of_parse? parsed) c mem
  rw [other] at letter
  cases letter

private theorem drop_takeWhile (p : Char → Bool) (chars : List Char) :
    chars.drop (chars.takeWhile p).length = chars.dropWhile p := by
  induction chars with
  | nil => rfl
  | cons c chars ih =>
    rw [List.takeWhile_cons, List.dropWhile_cons]
    split
    · exact ih
    · rfl

/-- The class of a name, where it is closed by a colon and a bracket. -/
def closedClass (negated : Bool) (length : Nat) (kind : Option AsciiClass)
    (dropped : List Char) (st : ReadState) : Option ClassSet × ReadState :=
  match kind, dropped with
  | some kind, ':' :: ']' :: after =>
    (some (.ascii ⟨st.place, st.place + length + 2⟩ negated kind),
      { st with rest := after, place := st.place + length + 2 })
  | _, _ => (none, st)

private theorem asciiClass_opened (negated : Bool) (body : List Char) (place : Nat)
    (freeSpacing : Bool)
    (names : List (String × Span)) (caret : negated = false → body.head? ≠ some '^') :
    let name := body.takeWhile (· ≠ ':')
    let st : ReadState :=
      ⟨'[' :: ':' :: (if negated then '^' :: body else body), place, freeSpacing, names⟩
    asciiClass st = .ok (closedClass negated (2 + (if negated then 1 else 0) + name.length)
      (AsciiClass.parse? (String.ofList name)) (body.dropWhile (· ≠ ':')) st) := by
  have found (negated : Bool) (length : Nat) (kind : Option AsciiClass)
      (dropped : List Char) (st : ReadState) : (match kind, dropped with
        | some kind, ':' :: ']' :: after => do
          set { st with rest := after, place := st.place + length + 2 }
          return some (.ascii ⟨st.place, st.place + length + 2⟩ negated kind)
        | _, _ => return none : Reader (Option ClassSet)) st =
      .ok (closedClass negated length kind dropped st) := by
    unfold closedClass
    split <;> rfl
  intro name st
  have shape : body.drop name.length = body.dropWhile (· ≠ ':') := drop_takeWhile _ body
  cases negated with
  | true =>
    have dropped : st.rest.drop (2 + 1 + name.length) = body.dropWhile (· ≠ ':') := by
      rw [← shape, Nat.add_comm]
      rfl
    rw [← dropped]
    exact found ..
  | false =>
    have dropped : st.rest.drop (2 + 0 + name.length) = body.dropWhile (· ≠ ':') := by
      rw [← shape, Nat.add_comm]
      rfl
    have plain : (body.head? == some '^') = false := beq_eq_false_iff_ne.mpr (caret rfl)
    rw [← dropped]
    simp only [asciiClass, get_bind, st, Bool.false_eq_true, if_false, plain]
    exact found false _ _ (st.rest.drop (2 + 0 + name.length)) st

theorem asciiClass_found {name : List Char} {kind : AsciiClass} (negated : Bool)
    (after : List Char) (place : Nat) (freeSpacing : Bool) (names : List (String × Span))
    (parsed : AsciiClass.parse? (String.ofList name) = some kind) :
    asciiClass ⟨asciiText negated name ++ after, place, freeSpacing, names⟩ =
      .ok (some (.ascii ⟨place, place + (asciiText negated name).length⟩ negated kind),
        ⟨after, place + (asciiText negated name).length, freeSpacing, names⟩) := by
  have inName : ∀ c ∈ name, decide (c ≠ ':') = true := by
    intro c mem
    apply decide_eq_true
    rintro rfl
    exact not_mem_of_parse? parsed rfl mem
  have noCaret : (name ++ ':' :: ']' :: after).head? ≠ some '^' := by
    cases name with
    | nil => simp
    | cons c name =>
      rintro ⟨⟩
      exact not_mem_of_parse? parsed rfl List.mem_cons_self
  have opened := asciiClass_opened negated (name ++ ':' :: ']' :: after) place freeSpacing names
    fun _ => noCaret
  rw [List.takeWhile_append_of_pos inName, List.dropWhile_append_of_pos inName] at opened
  have written : asciiText negated name ++ after =
      '[' :: ':' :: (if negated then '^' :: (name ++ ':' :: ']' :: after)
        else name ++ ':' :: ']' :: after) := by
    cases negated <;> simp [asciiText]
  have length : (asciiText negated name).length =
      2 + (if negated then 1 else 0) + name.length + 2 := by
    cases negated <;> simp [asciiText] <;> omega
  rw [written, length, opened]
  simp [closedClass, parsed, Nat.add_assoc]

theorem asciiClass_other {st : ReadState}
    (other : ∀ negated name after, st.rest = asciiText negated name ++ after →
      AsciiClass.parse? (String.ofList name) = none) : asciiClass st = .ok (none, st) := by
  obtain ⟨rest, place, freeSpacing, names⟩ := st
  by_cases opens : ∃ body, rest = '[' :: ':' :: body
  · obtain ⟨body, rfl⟩ := opens
    obtain ⟨negated, inside, caret, rfl⟩ : ∃ (negated : Bool) (inside : List Char),
        (negated = false → inside.head? ≠ some '^') ∧
          body = if negated then '^' :: inside else inside := by
      by_cases caret : body.head? = some '^'
      · obtain ⟨inside, rfl⟩ := List.head?_eq_some_iff.mp caret
        exact ⟨true, inside, by simp, rfl⟩
      · exact ⟨false, body, fun _ => caret, rfl⟩
    rw [asciiClass_opened negated inside place freeSpacing names caret]
    unfold closedClass
    split
    · rename_i kind after parsed closes
      have none := other negated (inside.takeWhile (· ≠ ':')) after (by
        have body := List.takeWhile_append_dropWhile (p := (· ≠ ':')) (l := inside)
        rw [closes] at body
        cases negated <;> simpa [asciiText] using body.symm)
      rw [parsed] at none
      cases none
    · rfl
  · simp only [asciiClass, get_bind]
    split
    · exact absurd ⟨_, rfl⟩ opens
    · rfl

theorem asciiText_or_unnamed (rest : List Char) :
    (∃ negated name kind after, AsciiClass.parse? (String.ofList name) = some kind ∧
        rest = asciiText negated name ++ after) ∨
      ∀ negated name after, rest = asciiText negated name ++ after →
        AsciiClass.parse? (String.ofList name) = none := by
  by_cases found : ∃ negated name kind after,
    AsciiClass.parse? (String.ofList name) = some kind ∧ rest = asciiText negated name ++ after
  · exact .inl found
  · refine .inr fun negated name after written => ?_
    cases parsed : AsciiClass.parse? (String.ofList name) with
    | none => rfl
    | some kind => exact absurd ⟨negated, name, kind, after, parsed, written⟩ found

instance consumes_asciiClass : Consumes asciiClass where
  ends st := by
    obtain ⟨rest, place, freeSpacing, names⟩ := st
    obtain ⟨negated, name, kind, after, parsed, rfl⟩ | unnamed := asciiText_or_unnamed rest
    · rw [asciiClass_found negated after place freeSpacing names parsed]
      exact List.suffix_append _ _
    · rw [asciiClass_other unnamed]
      exact List.suffix_rfl

/-! ### Counts -/

/-- A number, or a fault of one. -/
class IsCount (number : Except SyntaxFault Nat) : Prop where
  other : ∀ fault, number = .error fault → fault.cause ≠ .unopenedGroup

def decimalOf (span : Span) (list : List Char) : Except SyntaxFault Nat :=
  let n := list.foldl (fun n c => n * 10 + (c.toNat - '0'.toNat)) 0
  if list.isEmpty then .error ⟨.emptyCount, span, none⟩
  else if n < UInt32.size then .ok n
  else .error ⟨.largeCount, span, none⟩

instance isCount_decimalOf (span : Span) (list : List Char) : IsCount (decimalOf span list) where
  other fault eq := by
    unfold decimalOf at eq
    dsimp only at eq
    split at eq
    · obtain ⟨⟩ := eq
      simp
    · split at eq
      · cases eq
      · obtain ⟨⟩ := eq
        simp

theorem decimal_eq : decimal = (do
    let st ← get
    blanks (st.rest.length + 1)
    let start ← place
    let list ← digits (st.rest.length + 1)
    let stop ← place
    blanks (st.rest.length + 1)
    return decimalOf ⟨start, stop⟩ list) := by
  unfold decimal decimalOf
  refine bind_congr fun st => bind_congr fun _ => bind_congr fun start => bind_congr fun list => ?_
  refine bind_congr fun stop => bind_congr fun _ => ?_
  dsimp only
  split
  · rfl
  · split <;> rfl

instance consumes_decimal : Consumes decimal := by
  rw [decimal_eq]
  infer_instance

theorem ends_decimal (st : ReadState) : Ends (fun number _ => IsCount number) (decimal st) := by
  rw [decimal_eq]
  refine (Consumes.ends (r := get) st).bind fun st _ _ => ?_
  refine (Consumes.ends (r := blanks _) _).bind fun _ _ _ => ?_
  refine (Consumes.ends (r := place) _).bind fun start _ _ => ?_
  refine (Consumes.ends (r := digits _) _).bind fun list _ _ => ?_
  refine (Consumes.ends (r := place) _).bind fun stop _ _ => ?_
  exact (Consumes.ends (r := blanks _) _).bind fun _ _ _ => isCount_decimalOf ⟨start, stop⟩ list

theorem isCount_of_decimal {st last : ReadState} {number : Except SyntaxFault Nat}
    (read : decimal st = .ok (number, last)) : IsCount number := by
  have ends := ends_decimal st
  rw [read] at ends
  exact ends

theorem consumes_decimal_bind {f : Except SyntaxFault Nat → Reader α}
    (next : ∀ number, IsCount number → Consumes (f number)) : Consumes (decimal >>= f) where
  ends st :=
    ((Consumes.ends st).and (ends_decimal st)).bind fun number last ⟨suffix, count⟩ =>
      ((next number count).ends last).mono fun _ _ more => more.trans suffix

instance consumes_ofExcept (number : Except SyntaxFault Nat) [count : IsCount number] :
    Consumes (counts.ofExcept number) where
  ends st := by
    cases number with
    | ok n => exact List.suffix_rfl
    | error fault => exact count.other fault rfl

/-- The bounds of a repetition, from after the comma on. -/
def countHigh (low : Except SyntaxFault Nat) : Reader (Nat × Option Nat) := do
  if ← peekIs '\x7d' then return (← counts.ofExcept low, none)
  let low ← counts.ofExcept low
  return (low, some (← counts.ofExcept (← decimal)))

/-- The bounds of a repetition, from after the first number on. -/
def countBounds (start : Nat) (low : Except SyntaxFault Nat) : Reader (Nat × Option Nat) := do
  if ← peekIs ',' then
    stepOr .openCount start
    countHigh low
  else
    let n ← counts.ofExcept low
    return (n, some n)

def countOrdered (start : Nat) (bounds : Nat × Option Nat) : Reader (Nat × Option Nat) :=
  match bounds with
  | (low, some high) =>
    if high < low then do fault .countOrder ⟨start, ← place⟩ else return bounds
  | _ => return bounds

def countEnd (start : Nat) (bounds : Nat × Option Nat) : Reader (Nat × Option Nat) := do
  unless ← peekIs '\x7d' do fault .openCount ⟨start, ← place⟩
  step
  if ← peekIs '?' then bump
  countOrdered start bounds

/-- A count, from after its first number on. -/
def countRest (start : Nat) (low : Except SyntaxFault Nat) : Reader (Nat × Option Nat) := do
  if (← peek).isNone then fault .openCount ⟨start, ← place⟩
  let bounds ← countBounds start low
  countEnd start bounds

theorem counts_eq : counts = (do
    let start ← place
    stepOr .openCount start
    let low ← decimal
    countRest start low) := by
  unfold counts countRest countBounds countHigh countEnd
  refine bind_congr fun start => bind_congr fun _ => bind_congr fun low => bind_congr fun next => ?_
  split
  · rfl
  · simp only [bind_assoc]
    refine bind_congr fun comma => ?_
    split
    · simp only [bind_assoc]
      refine bind_congr fun _ => bind_congr fun close => ?_
      split
      · simp only [bind_assoc, pure_bind]
        rfl
      · simp only [bind_assoc, pure_bind]
        rfl
    · simp only [bind_assoc, pure_bind]
      rfl

instance consumes_countHigh (low : Except SyntaxFault Nat) [IsCount low] :
    Consumes (countHigh low) := by
  unfold countHigh
  refine .bind inferInstance fun close => ?_
  split
  · infer_instance
  · exact .bind inferInstance fun low => consumes_decimal_bind fun high _ => inferInstance

instance consumes_countBounds (start : Nat) (low : Except SyntaxFault Nat) [IsCount low] :
    Consumes (countBounds start low) := by
  unfold countBounds
  infer_instance

instance consumes_countOrdered (start : Nat) (bounds : Nat × Option Nat) :
    Consumes (countOrdered start bounds) := by
  unfold countOrdered
  split <;> infer_instance

instance consumes_countEnd (start : Nat) (bounds : Nat × Option Nat) :
    Consumes (countEnd start bounds) := by
  unfold countEnd
  infer_instance

instance consumes_countRest (start : Nat) (low : Except SyntaxFault Nat) [IsCount low] :
    Consumes (countRest start low) := by
  unfold countRest
  infer_instance

instance consumes_counts : Consumes counts := by
  rw [counts_eq]
  refine .bind inferInstance fun start => .bind inferInstance fun _ => ?_
  exact consumes_decimal_bind fun low _ => inferInstance

/-! ### Groups -/

instance consumes_nameChars (fuel : Nat) (first : Bool) : Consumes (nameChars fuel first) := by
  induction fuel generalizing first with
  | zero => exact consumes_pure []
  | succ fuel ih =>
    unfold nameChars
    refine .bind inferInstance fun next => ?_
    split <;> infer_instance

def declare (name : String) (span : Span) : Reader Unit := do
  match (← get).names.lookup name with
  | some earlier => throw ⟨.repeatedName, span, some earlier⟩
  | none => modify fun s => { s with names := (name, span) :: s.names }

instance consumes_declare (name : String) (span : Span) : Consumes (declare name span) := by
  unfold declare
  refine .bind inferInstance fun st => ?_
  split
  · exact ⟨fun _ => Ends.error (by simp)⟩
  · infer_instance

theorem groupName_eq : groupName = (do
    let start ← place
    let name ← nameChars ((← get).rest.length + 1) true
    let stop ← place
    bump
    if (String.ofList name).isEmpty then fault .emptyName ⟨start, start⟩
    declare (String.ofList name) ⟨start, stop⟩) := rfl

instance consumes_groupName : Consumes groupName := by
  rw [groupName_eq]
  infer_instance

instance consumes_flagItem (c : Char) : Consumes (flagItem c) := by
  unfold flagItem
  split
  · infer_instance
  · split <;> infer_instance

def repeated (item : FlagItem) (span earlier : Span) : SyntaxFault :=
  ⟨if item = .negation then .repeatedNegation else .repeatedFlag, span, some earlier⟩

theorem repeated_cause_ne (item : FlagItem) (span earlier : Span) :
    (Reader.repeated item span earlier).cause ≠ .unopenedGroup := by
  unfold Reader.repeated
  dsimp only
  split <;> simp

def flagItemsAfter (fuel : Nat) (items : List (FlagItem × Span)) (span : Span) (item : FlagItem) :
    Reader (List (FlagItem × Span)) := do
  match items.lookup item with
  | some earlier => throw (Reader.repeated item span earlier)
  | none =>
    bump
    flagItems fuel (items ++ [(item, span)])

theorem flagItems_succ (fuel : Nat) (items : List (FlagItem × Span)) :
    flagItems (fuel + 1) items = (do
      match ← peek with
      | none => fault .openFlags (← here)
      | some c =>
        if c = ':' || c = ')' then return items
        let span ← hereChar
        let item ← flagItem c
        flagItemsAfter fuel items span item) := rfl

private theorem consumes_flagItemsAfter_of {fuel : Nat}
    (rest : ∀ items, Consumes (flagItems fuel items))
    (items : List (FlagItem × Span)) (span : Span) (item : FlagItem) :
    Consumes (flagItemsAfter fuel items span item) := by
  unfold flagItemsAfter
  split
  · exact ⟨fun _ => repeated_cause_ne item span _⟩
  · infer_instance

instance consumes_flagItems (fuel : Nat) (items : List (FlagItem × Span)) :
    Consumes (flagItems fuel items) := by
  induction fuel generalizing items with
  | zero => exact consumes_pure items
  | succ fuel ih =>
    have after (span : Span) (item : FlagItem) : Consumes (flagItemsAfter fuel items span item) :=
      consumes_flagItemsAfter_of ih items span item
    rw [flagItems_succ]
    infer_instance

instance consumes_flagList : Consumes flagList := by
  unfold flagList
  refine .bind inferInstance fun st => .bind inferInstance fun items => ?_
  split <;> infer_instance

def noLookAround (parenthesis : Span) : Reader Unit := do
  for form in ["?=", "?!", "?<=", "?<!"] do
    if ← text form then fault .lookAround ⟨parenthesis.start, ← place⟩

instance consumes_noLookAround (parenthesis : Span) : Consumes (noLookAround parenthesis) := by
  unfold noLookAround
  infer_instance

def closeFlags (inside : Span) (items : List FlagItem) : Reader Opening := do
  let close ← peek
  bump
  if close = some ':' then return .group items
  if items.isEmpty then fault .missingOperand inside
  return .setting items

instance consumes_closeFlags (inside : Span) (items : List FlagItem) :
    Consumes (closeFlags inside items) := by
  unfold closeFlags
  infer_instance

def openingFlags (parenthesis inside : Span) : Reader Opening := do
  if (← peek).isNone then fault .openGroup parenthesis
  closeFlags inside (← flagList)

instance consumes_openingFlags (parenthesis inside : Span) :
    Consumes (openingFlags parenthesis inside) := by
  unfold openingFlags
  infer_instance

def openingForm (parenthesis : Span) : Reader Opening := do
  noLookAround parenthesis
  let inside ← here
  if ← text "?P<" then
    groupName
    return .group []
  if ← text "?<" then
    groupName
    return .group []
  if ← text "?" then openingFlags parenthesis inside else return .group []

instance consumes_openingForm (parenthesis : Span) : Consumes (openingForm parenthesis) := by
  unfold openingForm
  infer_instance

theorem opening_eq : opening = (do
    let parenthesis ← hereChar
    step
    openingForm parenthesis) := by
  simp only [opening, openingForm, noLookAround, bind_assoc, pure_bind]
  rfl

instance consumes_opening : Consumes opening := by
  rw [opening_eq]
  infer_instance

end RowStamp.Regex.Reader
