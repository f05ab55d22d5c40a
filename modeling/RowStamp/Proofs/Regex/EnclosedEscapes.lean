import RowStamp.Proofs.Regex.Enclosed

/-!
Escapes and the items of a class, where the pattern is enclosed. A word boundary is the one escape
that can leave a brace before the closing parenthesis.
-/

set_option autoImplicit false
set_option relaxedAutoImplicit false

namespace RowStamp.Regex

open Reader

variable {i : Enclosure} {st : ReadState}

/-! ### Characters -/

private theorem isPrefixOf_append {chars rest more : List Char} (open' : ')' ∉ chars) :
    chars.isPrefixOf (rest ++ ')' :: more) = chars.isPrefixOf rest := by
  induction chars generalizing rest with
  | nil => simp
  | cons c chars ih =>
    cases rest with
    | nil =>
      have : c ≠ ')' := by
        rintro rfl
        exact open' List.mem_cons_self
      simp [List.isPrefixOf, this]
    | cons d rest =>
      simp only [List.cons_append, List.isPrefixOf]
      rw [ih (fun mem => open' (List.mem_cons_of_mem c mem))]

theorem tracks_text (chars : String) (open' : ')' ∉ chars.toList) (st : ReadState) :
    Tracks Past (fun _ found => found) (text chars st) fun i => text chars (st.within i) := by
  simp only [text_run, within_rest, isPrefixOf_append open']
  by_cases found : chars.toList.isPrefixOf st.rest
  · obtain ⟨rest, eq⟩ := List.isPrefixOf_iff_prefix.mp found
    refine .same (by simp only [found]; rfl) fun i => ?_
    simp [← eq, ReadState.within, Nat.add_right_comm]
  · refine .same (by simp only [found]; rfl) fun i => ?_
    simp [found]

theorem tracks_stepOr (cause : Cause) [Holds (isOther cause)] (start : Nat) (st : ReadState) :
    Tracks Late (fun _ u => u) (stepOr cause start st) fun i =>
      stepOr cause (start + i.behind) (st.within i) := by
  unfold stepOr
  refine .bind (tracks_step st).late (fun _ middle _ => ?_) fun _ _ _ late => late.ends
  cases next : middle.rest with
  | nil => exact .of_nil next
  | cons c rest =>
    simp only [peek_bind, within_rest, next, List.cons_append, List.head?_cons]
    exact .same rfl fun _ => rfl

/-! ### Escapes -/

private theorem tracks_hexDigits (count value : Nat) (st : ReadState) :
    Tracks Past (fun _ value => value) (hexDigits count value st) fun i =>
      hexDigits count value (st.within i) := by
  induction count generalizing value st with
  | zero => exact .same rfl fun _ => rfl
  | succ count ih =>
    simp only [hexDigits, peek_bind, within_rest]
    cases next : st.rest with
    | nil =>
      refine .inr fun i => ?_
      have notHex : hexValue? ')' = none := by decide
      simp only [List.nil_append, List.head?_cons, notHex, hereChar_bind, fault_run]
      exact Ends.error (by simp)
    | cons c rest =>
      simp only [List.cons_append, List.head?_cons]
      cases hexValue? c with
      | none =>
        refine .inr fun i => ?_
        simp only [hereChar_bind, fault_run]
        exact Ends.error (by simp)
      | some d =>
        refine .bind (tracks_step st) (fun _ middle _ => ?_) fun _ _ _ past => past.ends
        exact ih (value * 16 + d) middle

private theorem Late.hexValue?_eq_none {α : Type} {a : α} (late : Late i a st) {c : Char}
    (next : st.rest.head? = some c) : hexValue? c = none := by
  rcases late.head?_eq next with rfl | rfl <;> decide

private theorem Late.ends_hexDigits {α : Type} {a : α} (late : Late i a st) (count value : Nat) :
    Ends (Past i) (hexDigits (count + 1) value st) := by
  simp only [hexDigits, peek_bind]
  cases next : st.rest.head? with
  | none => exact Ends.error (by simp)
  | some c =>
    simp only [late.hexValue?_eq_none next]
    exact Ends.error (by simp)

private theorem tracks_bracedDigits (brace : Nat) (extra : Enclosure → Nat) (fuel value count : Nat)
    (st : ReadState) (enough : st.rest.length < fuel) :
    Tracks Late (fun _ number => number) (bracedDigits brace fuel value count st) fun i =>
      bracedDigits (brace + i.behind) (fuel + extra i) value count (st.within i) := by
  induction fuel generalizing value count st with
  | zero => omega
  | succ fuel ih =>
    cases start : st.rest with
    | nil => exact .of_nil start
    | cons first rest =>
      simp only [Nat.add_right_comm fuel 1, bracedDigits]
      refine .bind (tracks_step st).late (fun _ middle read => ?_) fun i _ middle late => ?_
      · simp only [peek_bind, within_rest]
        cases next : middle.rest with
        | nil =>
          refine .inr fun i => ?_
          simp only [List.nil_append, List.head?_cons]
          exact Ends.error (by simp)
        | cons c more =>
          simp only [List.cons_append, List.head?_cons]
          by_cases close : c = '\x7d'
          · subst close
            exact .same rfl fun _ => rfl
          · cases hex : hexValue? c with
            | none =>
              refine .inr fun i => ?_
              simp only [hex]
              exact Ends.error (by simp)
            | some d =>
              simp only [hex]
              exact ih _ _ middle (Advances.length_lt read start enough)
      · simp only [peek_bind]
        cases next : middle.rest.head? with
        | none => exact Ends.error (by simp)
        | some c =>
          have notClose : c ≠ '\x7d' := by
            rintro rfl
            rcases late.head?_eq next with eq | eq <;> cases eq
          simp only [late.hexValue?_eq_none next]
          exact Ends.error (by simp)

private theorem tracks_charLiteral (start value : Nat) (byte : Bool) (bad : Span) (st : ReadState) :
    Tracks Past Literal.moved (charLiteral start value byte bad st) fun i =>
      charLiteral (start + i.behind) value byte (bad.moved i.behind) (st.within i) := by
  unfold charLiteral
  cases charOf? value with
  | none => exact .inr fun _ => Ends.error (by simp)
  | some c => exact .same rfl fun _ => rfl

private theorem tracks_plainLiteral (start : Nat) (letter : Char) (first : Nat) (st : ReadState) :
    Tracks Past Literal.moved (plainLiteral start letter first st) fun i =>
      plainLiteral (start + i.behind) letter (first + i.behind) (st.within i) := by
  unfold plainLiteral
  refine .bind (tracks_hexDigits _ 0 st) (fun value last _ => ?_) fun _ _ _ past => past.ends
  exact tracks_charLiteral start value _ ⟨first, last.place⟩ last

private theorem tracks_bracedLiteral (start first : Nat) (st : ReadState) :
    Tracks Past Literal.moved (bracedLiteral start first st) fun i =>
      bracedLiteral (start + i.behind) (first + i.behind) (st.within i) := by
  unfold bracedLiteral
  simp only [get_bind, within_length]
  have digits := tracks_bracedDigits first (fun i => i.after.length + 1) _ 0 0 st
    (Nat.lt_succ_self _)
  refine .bind digits (fun number close _ => ?_) fun i number close late => ?_
  · simp only [place_bind]
    refine .bind (tracks_step close) (fun _ last _ => ?_) fun _ _ _ past => past.ends
    by_cases none : number.2 = 0
    · simp only [none, if_true]
      exact .inr fun _ => Ends.error (by simp)
    · simp only [none, if_false]
      simpa only [Span.moved, Nat.add_right_comm, within_place] using
        tracks_charLiteral start number.1 false ⟨first + 1, close.place⟩ last
  · simp only [place_bind]
    exact late.ends_step.bind fun _ _ past => past.ends

private theorem tracks_hexEscape (start : Nat) (letter : Char) (st : ReadState) :
    Tracks Past Literal.moved (hexEscape start letter st) fun i =>
      hexEscape (start + i.behind) letter (st.within i) := by
  simp only [hexEscape_eq]
  refine .bind (tracks_step st) (fun _ middle _ => ?_) fun _ _ _ past => past.ends
  cases next : middle.rest with
  | nil =>
    refine .inr fun i => ?_
    simp only [peek_bind, head?_within_nil next]
    have notBrace : (some ')' == some '\x7b') = false := rfl
    simp only [Option.isNone_some, Bool.false_eq_true, if_false, place_bind, peekIs_bind,
      head?_within_nil next, notBrace]
    have asked : ∃ count, digitsOf letter = count + 1 := by
      unfold digitsOf
      split
      · exact ⟨1, rfl⟩
      · split
        · exact ⟨3, rfl⟩
        · exact ⟨7, rfl⟩
    obtain ⟨count, asked⟩ := asked
    rw [plainLiteral, asked]
    have late : Late i () (middle.within i) := late_within next
    exact (late.ends_hexDigits count 0).bind fun _ _ past => past.ends
  | cons c rest =>
    simp only [peek_bind, next, head?_within_cons next, List.head?_cons, Option.isNone_some,
      Bool.false_eq_true, if_false, place_bind, peekIs_bind, ite_run]
    split
    · exact tracks_bracedLiteral start middle.place middle
    · exact tracks_plainLiteral start letter middle.place middle

private theorem tracks_bracedName (extra : Enclosure → Nat) (fuel : Nat) (st : ReadState)
    (enough : st.rest.length < fuel) :
    Tracks Late (fun _ name => name) (bracedName fuel st) fun i =>
      bracedName (fuel + extra i) (st.within i) := by
  induction fuel generalizing st with
  | zero => omega
  | succ fuel ih =>
    cases start : st.rest with
    | nil => exact .of_nil start
    | cons first rest =>
      simp only [Nat.add_right_comm fuel 1, bracedName]
      refine .bind (tracks_step st).late (fun _ middle read => ?_) fun _ _ _ late =>
        late.ends_of (.bind inferInstance fun next => by split <;> infer_instance)
      cases next : middle.rest with
      | nil =>
        have late (i : Enclosure) : Late i () (middle.within i) := late_within next
        exact .inr fun i =>
          (late i).ends_of (.bind inferInstance fun next => by split <;> infer_instance)
      | cons c more =>
        by_cases close : c = '\x7d'
        · subst close
          simp only [peek_bind, next, head?_within_cons next, List.head?_cons]
          exact .same rfl fun _ => rfl
        · simp only [peek_bind, next, head?_within_cons next, List.head?_cons]
          have fewer := Advances.length_lt read start enough
          exact .bind (ih middle fewer) (fun name last _ => .same rfl fun _ => rfl)
            fun _ _ _ late => late.ends

private theorem tracks_propertyQuery (st : ReadState) :
    Tracks Past (fun _ query => query) (propertyQuery st) fun i => propertyQuery (st.within i) := by
  unfold propertyQuery
  refine .bind (tracks_step st) (fun _ middle _ => ?_) fun _ _ _ past =>
    past.ends_of (.bind inferInstance fun next => by split <;> infer_instance)
  cases next : middle.rest with
  | nil =>
    refine .inr fun i => ?_
    have late : Late i () (middle.within i) := late_within next
    simp only [peek_bind, head?_within_nil next]
    exact late.ends_step.bind fun _ _ past => past.ends
  | cons c rest =>
    by_cases brace : c = '\x7b'
    · subst brace
      simp only [peek_bind, next, head?_within_cons next, List.head?_cons, get_bind, within_length]
      have enough : middle.rest.length < ('\x7b' :: rest).length + 1 := by simp [next]
      refine .bind (tracks_bracedName (fun i => i.after.length + 1) _ middle enough)
        (fun name close _ => ?_) fun _ _ _ late => ?_
      · exact .bind (tracks_bump close) (fun _ last _ => .same rfl fun _ => rfl)
          fun _ _ _ past => past.ends
      · exact late.ends_bump.bind fun _ _ past => past.ends
    · simp only [peek_bind, next, head?_within_cons next, List.head?_cons]
      by_cases escape : c = '\\'
      · simp only [escape, if_true]
        exact .inr fun _ => Ends.error (by simp)
      · simp only [escape, if_false]
        exact .bind (tracks_step middle) (fun _ last _ => .same rfl fun _ => rfl) fun _ _ _ past =>
          past.ends

private theorem tracks_boundaryName (extra : Enclosure → Nat) (fuel : Nat) (st : ReadState)
    (enough : st.rest.length < fuel) :
    Tracks Late (fun _ name => name) (boundaryName fuel st) fun i =>
      boundaryName (fuel + extra i) (st.within i) := by
  induction fuel generalizing st with
  | zero => omega
  | succ fuel ih =>
    cases next : st.rest with
    | nil => exact .of_nil next
    | cons c rest =>
      simp only [Nat.add_right_comm fuel 1, boundaryName, peek_bind, next, head?_within_cons next,
        List.head?_cons, ite_run]
      by_cases inName : isBoundaryChar c
      · simp only [inName, if_true]
        refine .bind (tracks_step st).late (fun _ middle read => ?_) fun _ _ _ late => late.ends
        have fewer := Advances.length_lt read next enough
        exact .bind (ih middle fewer) (fun _ _ _ => .same rfl fun _ => rfl)
          fun _ _ _ late => late.ends
      · simp only [inName]
        exact .same rfl fun _ => rfl

private theorem tracks_boundaryOf (name : List Char) (span : Span) (st : ReadState) :
    Tracks Past (fun _ kind => kind) (boundaryOf name span st) fun i =>
      boundaryOf name (span.moved i.behind) (st.within i) := by
  by_cases known : String.ofList name ∈ ["start", "end", "start-half", "end-half"]
  · simp only [List.mem_cons, List.not_mem_nil, or_false] at known
    unfold boundaryOf
    rcases known with eq | eq | eq | eq <;> simp only [eq] <;> exact .same rfl fun _ => rfl
  · have unknown (span : Span) : boundaryOf name span = fault .unknownBoundary span := by
      simp only [List.mem_cons, List.not_mem_nil, or_false, not_or] at known
      unfold boundaryOf
      split <;> simp_all only [not_true_eq_false, and_false, false_and]
    simp only [unknown]
    exact .inr fun _ => Ends.error (by simp)

private theorem tracks_namedBoundary (extra : Enclosure → Nat) (fuel brace : Nat) (st : ReadState)
    (enough : st.rest.length < fuel) :
    Tracks Past (fun _ kind => kind) (namedBoundary fuel brace st) fun i =>
      namedBoundary (fuel + extra i) (brace + i.behind) (st.within i) := by
  have unclosed {i : Enclosure} {middle : ReadState} (late : Late i () middle) :
      (middle.rest.head? == some '\x7d') = false := late.isNext_eq_false (by decide) (by decide)
  unfold namedBoundary
  simp only [place_bind]
  refine .bind (tracks_boundaryName extra fuel st enough) (fun name middle _ => ?_)
    fun _ _ middle late => ?_
  · cases next : middle.rest with
    | nil =>
      refine .inr fun i => ?_
      simp only [peekIs_bind, unclosed (late_within next)]
      exact Ends.error (by simp)
    | cons c rest =>
      simp only [peekIs_bind, next, head?_within_cons next, List.head?_cons]
      by_cases close : (some c == some '\x7d')
      · simp only [close, if_true, place_bind]
        exact .bind (tracks_bump middle) (fun _ last _ => tracks_boundaryOf name _ last)
          fun _ _ _ past => past.ends
      · simp only [close]
        exact .inr fun _ => Ends.error (by simp)
  · simp only [peekIs_bind, unclosed late]
    exact Ends.error (by simp)

/-- A brace is next, and only white space and comments are between it and the end of the pattern. -/
def Dangling (i : Enclosure) (st : ReadState) : Prop :=
  st.rest.head? = some '\x7b' ∧ Late i () st.stepped

private theorem Late.notBoundary {α : Type} {a : α} (late : Late i a st) {c : Char}
    (next : st.rest.head? = some c) : isBoundaryChar c = false := by
  rcases late.head?_eq next with rfl | rfl <;> decide

private theorem Dangling.ends_wordBoundary {i : Enclosure} {st : ReadState}
    (dangling : Dangling i st) (start : Nat) :
    Ends (fun kind last => Past i kind last ∨ kind = .wordBoundary ∧ Dangling i last)
      (wordBoundary start st) := by
  rw [wordBoundary_run, if_pos dangling.1]
  cases next : st.stepped.rest.head? with
  | none => exact Ends.error (by simp)
  | some d =>
    simp only [dangling.2.notBoundary next]
    exact .inr ⟨rfl, dangling⟩

private theorem tracks_wordBoundary (start : Nat) (st : ReadState) :
    Tracks (fun i kind last => Past i kind last ∨ kind = .wordBoundary ∧ Dangling i last)
      (fun _ kind => kind) (wordBoundary start st) fun i =>
      wordBoundary (start + i.behind) (st.within i) := by
  cases first : st.rest with
  | nil =>
    simp only [wordBoundary_run, first, head?_within_nil first, List.head?_nil]
    exact .same rfl fun _ => rfl
  | cons c rest =>
    by_cases brace : c = '\x7b'
    · subst brace
      have brace : st.rest.head? = some '\x7b' := by
        rw [first]
        rfl
      have brace' (i : Enclosure) : (st.within i).rest.head? = some '\x7b' :=
        head?_within_cons first
      rcases stepped_within st with same | past
      · cases next : st.stepped.rest with
        | nil =>
          refine .inr fun i => ?_
          have late : Late i () (st.within i).stepped := by
            rw [same i]
            exact late_within next
          exact Dangling.ends_wordBoundary ⟨brace' i, late⟩ _
        | cons d more =>
          simp only [wordBoundary_run, brace, brace', if_true, same, next,
            head?_within_cons next, List.head?_cons]
          by_cases inName : isBoundaryChar d
          · simp only [inName, if_true, within_length]
            have enough : st.stepped.rest.length < st.rest.length + 1 :=
              Consumes.length_lt (step_run st) (Nat.lt_succ_self _)
            exact (tracks_namedBoundary (fun i => i.after.length + 1) _ st.place st.stepped
              enough).mono fun _ _ _ past => .inl past
          · simp only [inName]
            exact .same rfl fun _ => rfl
      · exact .inr fun i => Dangling.ends_wordBoundary ⟨brace' i, (past i).late⟩ _
    · have other : st.rest.head? ≠ some '\x7b' := by
        rw [first]
        exact fun eq => brace (Option.some.inj eq)
      have other' (i : Enclosure) : (st.within i).rest.head? ≠ some '\x7b' := by
        rw [head?_within_cons first]
        exact fun eq => brace (Option.some.inj eq)
      simp only [wordBoundary_run, other, other']
      exact .same rfl fun _ => rfl

/-- The closing parenthesis is behind, or a word boundary was read and a dangling brace is next. -/
def Astray (i : Enclosure) (node : Node) (st : ReadState) : Prop :=
  Past i node st ∨ (∃ span, node = .assertion span .wordBoundary) ∧ Dangling i st

private theorem Past.astray {α : Type} {a : α} (past : Past i a st) (r : Reader Node) [Consumes r] :
    Ends (Astray i) (r st) := past.ends.mono fun _ _ => .inl

private theorem tracks_simpleEscape (start : Nat) (c : Char) (st : ReadState) :
    Tracks Astray Node.moved (simpleEscape start c st) fun i =>
      simpleEscape (start + i.behind) c (st.within i) := by
  simp only [simpleEscape, place_bind, ite_run]
  by_cases literal : escapable c
  · simp only [literal, if_true]
    exact .same rfl fun _ => rfl
  · simp only [literal]
    cases control : controls.lookup c with
    | some control => exact .same rfl fun _ => rfl
    | none =>
      cases condition : conditions.lookup c with
      | some kind => exact .same rfl fun _ => rfl
      | none =>
        by_cases boundary : c = 'b'
        · simp only [boundary, if_true]
          refine .bind (tracks_wordBoundary start st) (fun kind last _ => .same rfl fun _ => rfl)
            fun i kind last stray => ?_
          rcases stray with past | ⟨rfl, dangling⟩
          · exact .inl past
          · exact .inr ⟨⟨_, rfl⟩, dangling⟩
        · simp only [boundary]
          exact .inr fun _ => Ends.error (by simp)

private theorem tracks_escapeOf (start : Nat) (c : Char) (st : ReadState) :
    Tracks Astray Node.moved (escapeOf start c st) fun i =>
      escapeOf (start + i.behind) c (st.within i) := by
  simp only [escapeOf, ite_run]
  split
  · exact .inr fun _ => Ends.error (by simp)
  · split
    · exact .bind (tracks_hexEscape start c st) (fun _ _ _ => .same rfl fun _ => rfl)
        fun _ _ _ past => .inl past
    · split
      · exact .bind (tracks_propertyQuery st) (fun _ _ _ => .same rfl fun _ => rfl)
          fun _ _ _ past => .inl past
      · cases shortClasses.lookup c.toLower with
        | some kind =>
          exact .bind (tracks_bump st) (fun _ _ _ => .same rfl fun _ => rfl)
            fun _ _ _ past => .inl past
        | none =>
          exact .bind (tracks_bump st) (fun _ last _ => tracks_simpleEscape start c last)
            fun _ _ _ past => past.astray _

private theorem tracks_escape (st : ReadState) :
    Tracks Astray Node.moved (escape st) fun i => escape (st.within i) := by
  simp only [escape_eq, place_bind]
  refine .bind (tracks_bump st) (fun _ middle _ => ?_) fun _ _ _ past => past.astray _
  cases next : middle.rest with
  | nil =>
    refine .inr fun i => ?_
    have late : Late i () (middle.within i) := late_within next
    simp only [peek_bind, head?_within_nil next]
    change Ends (Astray i) ((bump >>= fun _ => simpleEscape _ ')') (middle.within i))
    exact late.ends_bump.bind fun _ _ past => past.astray _
  | cons c rest =>
    simp only [peek_bind, next, head?_within_cons next, List.head?_cons]
    exact tracks_escapeOf st.place c middle

theorem tracks_primitive {c : Char} {rest : List Char} (next : st.rest = c :: rest) :
    Tracks Astray Node.moved (primitive c st) fun i => primitive c (st.within i) := by
  simp only [primitive, ite_run]
  split
  · exact tracks_escape st
  · simp only [hereChar_within next, hereChar_bind, next, List.head?_cons, Option.isSome_some,
      if_true]
    refine .bind (tracks_bump st) (fun _ last _ => ?_) fun _ _ _ past =>
      (past.ends_of (by split <;> infer_instance)).mono fun _ _ => .inl
    by_cases dot : c = '.'
    · subst dot
      exact .same rfl fun _ => rfl
    · by_cases caret : c = '^'
      · subst caret
        exact .same rfl fun _ => rfl
      · by_cases dollar : c = '$'
        · subst dollar
          exact .same rfl fun _ => rfl
        · simp only [pure_run]
          exact .same rfl fun _ => rfl

/-! ### Items of a class -/

private theorem tracks_classPrimitive {c : Char} {rest : List Char} (next : st.rest = c :: rest) :
    Tracks Astray Node.moved (classPrimitive c st) fun i => classPrimitive c (st.within i) := by
  simp only [classPrimitive, ite_run]
  split
  · exact tracks_escape st
  · simp only [hereChar_within next, hereChar_bind, next, List.head?_cons, Option.isSome_some,
      if_true]
    exact .bind (tracks_bump st) (fun _ last _ => .same rfl fun _ => rfl) fun _ _ _ past =>
      .inl past

private theorem tracks_classItem (node : Node) (st : ReadState) :
    Tracks Past ClassSet.moved (classItem node st) fun i =>
      classItem (node.moved i.behind) (st.within i) := by
  cases node with
  | literal l => exact .same rfl fun _ => rfl
  | bare span negated kind => exact .same rfl fun _ => rfl
  | _ => exact .inr fun _ => Ends.error (by simp)

private theorem tracks_rangeEnd (node : Node) (st : ReadState) :
    Tracks Past Literal.moved (rangeEnd node st) fun i =>
      rangeEnd (node.moved i.behind) (st.within i) := by
  cases node with
  | literal l => exact .same rfl fun _ => rfl
  | _ => exact .inr fun _ => Ends.error (by simp)

private theorem second_within {c d : Char} {rest : List Char} (next : st.rest = d :: rest)
    (notClose : c ≠ ')') (notEnd : c ≠ '$') :
    (st.within i).second = some c ↔ st.second = some c := by
  have dropped : (st.within i).rest.drop 1 = rest ++ ')' :: i.after := by
    rw [within_rest, next]
    rfl
  have alike (more : List Char) :
      (more ++ ')' :: i.after).head? = some c ↔ more.head? = some c := by
    cases more with
    | nil => simp [notClose.symm]
    | cons e more => rfl
  simp only [ReadState.second, dropped, next, List.drop_one, List.tail_cons, within_freeSpacing]
  split
  · rcases skipSpaces_append false rest with same | ⟨nothing, comment⟩
    · rw [same ')' i.after (by decide) (by decide)]
      exact alike _
    · rw [comment ')' i.after (by decide), nothing]
      have past : Past i () ⟨skipSpaces true i.after, 0, true, []⟩ := skipSpaces_suffix _ _
      constructor
      · intro found
        rcases past.late.head?_eq found with eq | eq
        · exact absurd eq notClose
        · exact absurd eq notEnd
      · intro found
        simp at found
  · exact alike rest

private theorem isSingle_within {d : Char} {rest : List Char} (next : st.rest = d :: rest) :
    isSingle (st.within i).rest.head? (st.within i).second = isSingle st.rest.head? st.second := by
  have bracket := second_within (i := i) next (c := ']') (by decide) (by decide)
  have hyphen := second_within (i := i) next (c := '-') (by decide) (by decide)
  have head : (st.within i).rest.head? = st.rest.head? := by
    rw [head?_within_cons next, next]
    rfl
  simp only [isSingle, head, bracket, hyphen]

private theorem classItem_assertion (span : Span) (kind : Assertion) :
    classItem (.assertion span kind) = fault .escapeInClass span := rfl

private theorem ends_rangeFrom_assertion (brackets span : Span) (kind : Assertion)
    (st : ReadState) :
    Ends (fun _ _ => False) (rangeFrom brackets (.assertion span kind) st) := by
  have failed (st : ReadState) : Ends (fun _ _ => False) (classItem (.assertion span kind) st) := by
    rw [classItem_assertion]
    exact Ends.error (by simp)
  simp only [rangeFrom, space_bind, peek_bind, fault_bind]
  refine .ite (Ends.error (by simp)) ?_
  simp only [peekSecond_bind, peek_bind]
  refine .ite (failed _) ?_
  simp only [step_bind, peek_bind]
  cases st.spaced.stepped.rest.head? with
  | none => exact Ends.error (by simp)
  | some c => exact (Consumes.ends (r := classPrimitive c) _).bind fun _ _ _ => Ends.error (by simp)

private theorem tracks_rangeLast (first : Node) {c : Char} {rest : List Char}
    (next : st.rest = c :: rest) :
    Tracks Late ClassSet.moved (rangeLast first c st) fun i =>
      rangeLast (first.moved i.behind) c (st.within i) := by
  unfold rangeLast
  refine .bind (tracks_classPrimitive next) (fun last middle _ => ?_) fun i last middle astray => ?_
  · refine .bind (tracks_rangeEnd first middle) (fun low middle _ => ?_) fun _ _ _ past =>
      past.late.ends
    refine .bind (tracks_rangeEnd last middle) (fun high middle _ => ?_) fun _ _ _ past =>
      past.late.ends
    refine .ite (fun _ => .inr fun _ => Ends.error (by simp)) fun _ => .same rfl fun i => ?_
    simp only [pure_run, ClassSet.moved, Span.moved, Node.span_moved]
  · rcases astray with past | ⟨⟨span, rfl⟩, -⟩
    · exact past.late.ends
    · exact (Consumes.ends (r := rangeEnd _) _).bind fun _ _ _ => Ends.error (by simp)

private theorem tracks_rangeFrom (brackets : Span) (first : Node) (st : ReadState) :
    Tracks Late ClassSet.moved (rangeFrom brackets first st) fun i =>
      rangeFrom (brackets.moved i.behind) (first.moved i.behind) (st.within i) := by
  unfold rangeFrom
  refine .bind (tracks_space st).late (fun _ middle _ => ?_) fun _ _ _ late => late.ends
  cases next : middle.rest with
  | nil => exact .of_nil next
  | cons d rest =>
    have single (i : Enclosure) := isSingle_within (i := i) next
    have nonempty : middle.rest.head?.isNone = false := by
      rw [next]
      rfl
    have nonempty' (i : Enclosure) : (middle.within i).rest.head?.isNone = false := by
      rw [head?_within_cons next]
      rfl
    simp only [peek_bind, nonempty, nonempty', Bool.false_eq_true, if_false, peekSecond_bind,
      single, ite_run]
    split
    · exact (tracks_classItem first middle).late
    · refine .bind (tracks_step middle).late (fun _ last _ => ?_) fun _ _ _ late => late.ends
      cases next : last.rest with
      | nil => exact .of_nil next
      | cons e more =>
        simp only [peek_bind, next, head?_within_cons next, List.head?_cons]
        exact tracks_rangeLast first next

theorem tracks_classRange (brackets : Span) {c : Char} {rest : List Char}
    (next : st.rest = c :: rest) :
    Tracks Late ClassSet.moved (classRange brackets c st) fun i =>
      classRange (brackets.moved i.behind) c (st.within i) := by
  simp only [classRange_eq]
  refine .bind (tracks_classPrimitive next) (fun first middle _ => ?_)
    fun i first middle astray => ?_
  · exact tracks_rangeFrom brackets first middle
  · rcases astray with past | ⟨⟨span, rfl⟩, -⟩
    · exact past.late.ends
    · exact (ends_rangeFrom_assertion _ span _ middle).mono fun _ _ => False.elim

private theorem exists_append_of_append {chars rest more after : List Char} (plain : ')' ∉ chars)
    (eq : rest ++ ')' :: more = chars ++ after) : ∃ inside, rest = chars ++ inside := by
  rcases List.append_eq_append_iff.mp eq with ⟨missing, whole, close⟩ | ⟨inside, whole, -⟩
  · cases missing with
    | nil => exact ⟨[], by simpa using whole.symm⟩
    | cons c missing =>
      obtain ⟨rfl, -⟩ := List.cons.inj close
      exact absurd (by simp [whole]) plain
  · exact ⟨inside, whole⟩

theorem tracks_asciiClass (st : ReadState) :
    Tracks (fun _ _ _ => False) (fun distance => Option.map (ClassSet.moved distance))
      (asciiClass st) fun i => asciiClass (st.within i) := by
  obtain ⟨rest, place, freeSpacing, names⟩ := st
  obtain ⟨negated, name, kind, after, parsed, rfl⟩ | unnamed := asciiText_or_unnamed rest
  · refine .same (asciiClass_found negated after place freeSpacing names parsed) fun i => ?_
    have enclosed := asciiClass_found negated (after ++ ')' :: i.after) (place + i.behind)
      freeSpacing (names.map fun named => (named.1, named.2.moved i.behind)) parsed
    simp only [ReadState.within, List.append_assoc]
    rw [enclosed]
    simp only [Option.map_some, ClassSet.moved, Span.moved, Nat.add_right_comm]
  · refine .same (asciiClass_other unnamed) fun i => asciiClass_other ?_
    intro negated name after written
    cases parsed : AsciiClass.parse? (String.ofList name) with
    | none => rfl
    | some kind =>
      have plain : ')' ∉ asciiText negated name := by
        have other : ')' ∉ name := not_mem_of_parse? parsed rfl
        cases negated <;> simp [asciiText, other]
      obtain ⟨inside, whole⟩ := exists_append_of_append plain written
      rw [unnamed negated name inside whole] at parsed
      cases parsed

end RowStamp.Regex
