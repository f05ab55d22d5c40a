import RowStamp.Json.Printer
import RowStamp.Json.Reader

/-!
A string between quotes is read as it was: every character is read back from its written form,
whatever follows it.
-/

set_option autoImplicit false
set_option relaxedAutoImplicit false

namespace RowStamp.Json

namespace Reader

variable {done rest : List Char}

/-! ### Control characters -/

def unitOf? (cs : List Char) : Option Nat :=
  match cs with
  | ['\\', 'u', a, b, c, d] => hexUnit? a b c d
  | _ => none

private theorem unitOf?_controlCode : ∀ n < 32, unitOf? (controlCode (Char.ofNat n)) = some n := by
  decide +kernel

private theorem controlCode_eq {c : Char} (control : c.toNat < 32) :
    ∃ a b d e, controlCode c = ['\\', 'u', a, b, d, e] ∧ hexUnit? a b d e = some c.toNat := by
  have unit := unitOf?_controlCode c.toNat control
  rw [Char.ofNat_toNat] at unit
  unfold unitOf? at unit
  split at unit
  · rename_i a b d e same
    exact ⟨a, b, d, e, same, unit⟩
  · simp at unit

private theorem charOfUnit?_control {c : Char} (control : c.toNat < 32) :
    charOfUnit? c.toNat = some c := by
  have low : ¬0xD800 ≤ c.toNat := by omega
  simp [charOfUnit?, low]

/-! ### Escapes -/

/-- A text in front of which a control code is read as it is alone: where another escape follows,
that one is a code unit as well. -/
def Follows (cs : List Char) : Prop :=
  ∀ a b c d more, cs = '\\' :: 'u' :: a :: b :: c :: d :: more → (hexUnit? a b c d).isSome

private theorem stringRest_controlCode {c : Char} (control : c.toNat < 32)
    (follows : Follows rest) :
    stringRest done (controlCode c ++ rest) = stringRest (c :: done) rest := by
  obtain ⟨a, b, d, e, written, unit⟩ := controlCode_eq control
  have read := charOfUnit?_control control
  rw [written]
  -- Two codes in a row are looked at together, since they may be the halves of one character.
  by_cases next : ∃ a' b' d' e' more, rest = '\\' :: 'u' :: a' :: b' :: d' :: e' :: more
  · obtain ⟨a', b', d', e', more, rfl⟩ := next
    obtain ⟨second, other⟩ := Option.isSome_iff_exists.mp (follows a' b' d' e' more rfl)
    simp only [List.cons_append, List.nil_append]
    rw [stringRest]
    simp only [unit, other, read]
  · have alone : ∀ a' b' d' e' more, rest ≠ '\\' :: 'u' :: a' :: b' :: d' :: e' :: more := by
      intro a' b' d' e' more same
      exact next ⟨a', b', d', e', more, same⟩
    simp only [List.cons_append, List.nil_append]
    rw [stringRest]
    · simp only [unit, Option.bind_some, read]
    · exact alone

private theorem stringRest_encodeChar (c : Char) (follows : Follows rest) :
    stringRest done (encodeChar c ++ rest) = stringRest (c :: done) rest := by
  unfold encodeChar
  split
  case h_8 quote backslash _ _ _ _ _ =>
    split
    · rename_i control
      exact stringRest_controlCode control follows
    · rename_i printed
      rw [List.cons_append, List.nil_append, stringRest, if_neg printed]
      · exact quote
      · intro _ _ _ _ _ _ _ _ _ same
        exact absurd same backslash
      · intro _ _ _ _ _ same
        exact absurd same backslash
      · intro _ _ same
        exact absurd same backslash
  all_goals
    -- a letter behind the backslash, which is not the one of a code
    rw [List.cons_append, List.cons_append, List.nil_append, stringRest]
    · simp only [escaped?]
    · simp
    · simp

/-! ### Strings -/

private theorem follows_encodeChar (c : Char) (rest : List Char) : Follows
    (encodeChar c ++ rest) := by
  intro a b d e more same
  unfold encodeChar at same
  split at same
  case h_8 quote backslash _ _ _ _ _ =>
    split at same
    · rename_i control
      obtain ⟨a', b', d', e', written, unit⟩ := controlCode_eq control
      rw [written] at same
      simp only [List.cons_append, List.nil_append, List.cons.injEq, true_and] at same
      obtain ⟨rfl, rfl, rfl, rfl, -⟩ := same
      rw [unit]
      rfl
    · rw [List.cons_append] at same
      exact absurd (List.cons.inj same).1 backslash
  all_goals simp at same

private theorem follows_encoded (cs rest : List Char) : Follows
    (cs.flatMap encodeChar ++ '"' :: rest) := by
  cases cs with
  | nil =>
    intro a b c d more same
    simp at same
  | cons c cs =>
    rw [List.flatMap_cons, List.append_assoc]
    exact follows_encodeChar c _

private theorem stringRest_encoded (cs done rest : List Char) :
    stringRest done (cs.flatMap encodeChar ++ '"' :: rest) =
      some (String.ofList (done.reverse ++ cs), rest) := by
  induction cs generalizing done with
  | nil => simp [stringRest]
  | cons c cs ih =>
    rw [List.flatMap_cons, List.append_assoc, stringRest_encodeChar c (follows_encoded cs rest),
      ih (c :: done)]
    simp

theorem stringRest_quoted (s : String) (rest : List Char) :
    ∃ encoded, (quoted s).toList = '"' :: encoded ∧
      stringRest [] (encoded ++ rest) = some (s, rest) := by
  refine ⟨s.toList.flatMap encodeChar ++ ['"'], by simp [quoted], ?_⟩
  rw [List.append_assoc, List.singleton_append, stringRest_encoded]
  simp

end Reader

end RowStamp.Json
