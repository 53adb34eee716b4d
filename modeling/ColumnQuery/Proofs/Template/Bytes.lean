import ColumnQuery.Proofs.Template.Places
import ColumnQuery.Template.Reader

/-! Templates read by byte positions. The reader here holds a position and goes on from the byte there,
and a position within a character is no place to go on from. It finds what the reader of characters
finds, for every text: each position that it comes to is between two characters, and it comes to fewer
than there are bytes. -/
namespace ColumnQuery
open Text Template

/-! ## Slices -/

/-- A text from a byte on, if a character begins or the text ends there. -/
def fromByte? : Nat → List Char → Option (List Char)
  | 0, cs => some cs
  | _ + 1, [] => none
  | count + 1, c :: rest =>
    if c.utf8Size ≤ count + 1 then fromByte? (count + 1 - c.utf8Size) rest else none

/-- A text up to a byte, if a character begins or the text ends there. -/
def upToByte? : Nat → List Char → Option (List Char)
  | 0, _ => some []
  | _ + 1, [] => none
  | count + 1, c :: rest =>
    if c.utf8Size ≤ count + 1 then (upToByte? (count + 1 - c.utf8Size) rest).map (c :: ·) else none

/-- The byte at which the first closing brace pair begins. -/
def closeByte? : List Char → Option Nat
  | [] => none
  | '\x7d' :: '\x7d' :: _ => some 0
  | c :: rest => (closeByte? rest).map (c.utf8Size + ·)

theorem byte_split (c : Char) (count : Nat) :
    ∃ more, c.utf8Size + count = more + 1 ∧ c.utf8Size ≤ more + 1 ∧ more + 1 - c.utf8Size = count := by
  have size := c.utf8Size_pos
  exact ⟨c.utf8Size + count - 1, by omega, by omega, by omega⟩

theorem fromByte_append (before rest : List Char) :
    fromByte? (byteLength before) (before ++ rest) = some rest := by
  induction before with
  | nil => cases rest <;> rfl
  | cons c before ih =>
    obtain ⟨more, size, fits, left⟩ := byte_split c (byteLength before)
    rw [byteLength, size, List.cons_append, fromByte?, if_pos fits, left, ih]

theorem upToByte_append (before rest : List Char) :
    upToByte? (byteLength before) (before ++ rest) = some before := by
  induction before with
  | nil => cases rest <;> rfl
  | cons c before ih =>
    obtain ⟨more, size, fits, left⟩ := byte_split c (byteLength before)
    rw [byteLength, size, List.cons_append, upToByte?, if_pos fits, left, ih]
    rfl

/-- A closing bracket is found by bytes where it is found by characters. -/
theorem closeByte_eq (cs : List Char) :
    closeByte? cs = (splitAtClose cs).map fun found => byteLength found.1 := by
  fun_induction splitAtClose cs with
  | case1 => rfl
  | case2 rest => rfl
  | case3 c rest apart ih =>
    rw [closeByte?, ih]
    · cases splitAtClose rest <;> rfl
    · exact apart

/-! ## Reading -/

namespace Template

/-- Reads on at a position: the fault that is there, or the next position with what was taken up. There
is nothing to say of a position within a character. -/
def turn? (text : List Char) (position : Nat) (a : Assembly) :
    Option (Except TemplateError (Nat × Assembly)) := do
  let rest ← fromByte? position text
  if openReference.isPrefixOf rest then
    let inside ← fromByte? 2 rest
    match closeByte? inside with
    | none => return .error (.unterminatedReference position)
    | some close =>
      let inner ← upToByte? close inside
      return do
        let name ← referenceName position inner
        return (position + close + 4, ← a.step ⟨position, .reference name⟩)
  else if openClause.isPrefixOf rest then
    return do return (position + 2, ← a.step ⟨position, .opening⟩)
  else if closeClause.isPrefixOf rest then
    return do return (position + 2, ← a.step ⟨position, .closing⟩)
  else
    let c ← rest.head?
    return do return (position + c.utf8Size, ← a.step ⟨position, .character c⟩)

/-- Reads from a position to the end of a text. It comes to no result from within a character, nor in
too few turns. -/
def scan? (text : List Char) : (turns position : Nat) → Assembly →
    Option (Except TemplateError Template)
  | 0, _, _ => none
  | turns + 1, position, a =>
    if position < byteLength text then
      match turn? text position a with
      | none => none
      | some (.error fault) => some (.error fault)
      | some (.ok (next, b)) => scan? text turns next b
    else some a.finish

end Template

/-- What comes of lexemes that are taken up from here. -/
def Assembly.outcome (a : Assembly) (lexed : Lexed) : Except TemplateError Template :=
  match a.steps lexed.lexemes with
  | .error fault => .error fault
  | .ok b =>
    match lexed.fault with
    | some fault => .error fault
    | none => b.finish

/-- A lexeme is taken first, and then the rest. -/
theorem Assembly.outcome_cons (a : Assembly) (placed : PlacedLexeme) (lexed : Lexed) :
    a.outcome (lexed.cons placed) = a.step placed >>= fun b => b.outcome lexed := by
  rw [outcome, Lexed.cons, steps]
  cases a.step placed <;> rfl

namespace Template
open Lexed

theorem inside_reference {rest inner : List Char} {after : Remainder rest}
    (split : splitAtClose rest = some (inner, after)) :
    fromByte? 2 ('\x7b' :: '\x7b' :: rest) = some rest ∧ closeByte? rest = some (byteLength inner) ∧
      upToByte? (byteLength inner) rest = some inner := by
  have two : byteLength openReference = 2 := by decide
  refine ⟨two ▸ fromByte_append openReference rest, ?_, ?_⟩
  · rw [closeByte_eq, split]
    rfl
  · have whole := append_of_splitAtClose split
    rw [List.append_assoc] at whole
    rw [whole]
    exact upToByte_append inner _

theorem pair_of_prefix {c d : Char} {rest : List Char}
    (begins : [d, d].isPrefixOf (c :: rest) = true) : c = d ∧ ∃ tail, rest = d :: tail := by
  obtain ⟨tail, whole⟩ := List.isPrefixOf_iff_prefix.mp begins
  obtain ⟨same, tail_eq⟩ := List.cons.inj whole
  exact ⟨same.symm, tail, tail_eq.symm⟩

/-- One turn at a place between two characters takes up the lexeme that begins there and comes to
the place where it ends, or it finds the fault that is there. -/
theorem turn_at_boundary (before : List Char) {rest : List Char} (a : Assembly)
    (unread : rest ≠ []) :
    (∃ fault, ofChars (byteLength before) rest = ⟨[], some fault⟩ ∧
      turn? (before ++ rest) (byteLength before) a = some (.error fault)) ∨
    ∃ placed chars later, rest = chars ++ later ∧ chars ≠ [] ∧
      ofChars (byteLength before) rest =
        (ofChars (byteLength (before ++ chars)) later).cons placed ∧
      turn? (before ++ rest) (byteLength before) a =
        some (a.step placed >>= fun b => .ok (byteLength (before ++ chars), b)) := by
  have here := fromByte_append before rest
  fun_cases ofChars (byteLength before) rest with
  | case1 => exact absurd rfl unread
  | case2 rest unterminated =>
    have two : byteLength openReference = 2 := by decide
    have inside : fromByte? 2 ('\x7b' :: '\x7b' :: rest) = some rest :=
      two ▸ fromByte_append openReference rest
    have unclosed : closeByte? rest = none := by rw [closeByte_eq, unterminated, Option.map_none]
    refine .inl ⟨_, rfl, ?_⟩
    simp [turn?, here, inside, unclosed, openReference]
  | case3 rest inner after split fault unnamed =>
    obtain ⟨inside, close, upTo⟩ := inside_reference split
    refine .inl ⟨_, rfl, ?_⟩
    simp [turn?, here, inside, close, upTo, unnamed, openReference]
    rfl
  | case4 rest inner after split name found =>
    obtain ⟨inside, close, upTo⟩ := inside_reference split
    have size : byteLength (before ++ (openReference ++ inner ++ closeReference)) =
        byteLength before + byteLength inner + 4 := by
      have braces : byteLength openReference = 2 ∧ byteLength closeReference = 2 := by decide
      simp only [byteLength_append]
      omega
    refine .inr ⟨⟨byteLength before, .reference name⟩, openReference ++ inner ++ closeReference,
      after.1, ?_, by simp [openReference], ?_, ?_⟩
    · simpa [openReference] using append_of_splitAtClose split
    · rw [size]
    · rw [size]
      simp [turn?, here, inside, close, upTo, found, openReference]
      rfl
  | case5 rest =>
    refine .inr ⟨⟨byteLength before, .opening⟩, openClause, rest, rfl, by simp [openClause], ?_, ?_⟩
    · rw [byteLength_append]
      rfl
    · rw [turn?, here, byteLength_append]
      rfl
  | case6 rest =>
    refine .inr ⟨⟨byteLength before, .closing⟩, closeClause, rest, rfl, by simp [closeClause], ?_, ?_⟩
    · rw [byteLength_append]
      rfl
    · rw [turn?, here, byteLength_append]
      rfl
  | case7 c rest noReference noOpening noClosing =>
    have single : byteLength [c] = c.utf8Size := rfl
    have other (d : Char) (apart : ∀ tail, c = d → rest = d :: tail → False) :
        ¬ [d, d].isPrefixOf (c :: rest) = true := by
      intro begins
      obtain ⟨same, tail, whole⟩ := pair_of_prefix begins
      exact apart tail same whole
    refine .inr ⟨⟨byteLength before, .character c⟩, [c], rest, rfl, by simp, ?_, ?_⟩
    · rw [byteLength_append, single]
    · rw [turn?, here, byteLength_append, single]
      change (if _ then _ else if _ then _ else if _ then _ else _) = _
      rw [openReference, openClause, closeClause, if_neg (other _ noReference),
        if_neg (other _ noOpening), if_neg (other _ noClosing)]
      rfl

/-- From a place between two characters, with a turn to spare for each byte, the scan comes to the
result of the lexemes that are left. -/
theorem scan_at_boundary {turns : Nat} (before : List Char) {rest : List Char} (a : Assembly)
    (enough : byteLength rest < turns) :
    scan? (before ++ rest) turns (byteLength before) a =
      some (a.outcome (ofChars (byteLength before) rest)) := by
  induction turns generalizing before rest a with
  | zero => exact absurd enough (Nat.not_lt_zero _)
  | succ turns ih =>
    rw [scan?, byteLength_append]
    by_cases ended : rest = []
    · subst ended
      rw [if_neg (by simp [byteLength]), ofChars]
      rfl
    · have left := byteLength_pos ended
      rw [if_pos (by omega)]
      rcases turn_at_boundary before a ended with
        ⟨fault, read, turned⟩ | ⟨placed, chars, later, rfl, nonempty, read, turned⟩
      · rw [turned, read]
        rfl
      · have moved := byteLength_pos nonempty
        rw [byteLength_append] at enough
        rw [turned, read, Assembly.outcome_cons]
        cases stepped : a.step placed with
        | error fault => rfl
        | ok b =>
          have fewer : byteLength later < turns := by omega
          have goesOn := ih (before ++ chars) b fewer
          rw [List.append_assoc] at goesOn
          exact goesOn

/-- For every text the scan by byte positions comes to a result, which is that of reading the text. So it
never begins within a character, and each turn brings it further. -/
theorem scan_eq_read (text : String) :
    scan? text.toList (text.utf8ByteSize + 1) 0 {} = some (ofText text) := by
  have size : byteLength text.toList = text.utf8ByteSize := by
    rw [← byteLength_ofList, String.ofList_toList]
  have enough : byteLength text.toList < text.utf8ByteSize + 1 := by omega
  exact scan_at_boundary [] {} enough

end Template

end ColumnQuery
