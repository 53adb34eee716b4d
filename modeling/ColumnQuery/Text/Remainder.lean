/-! What a reader leaves of its input. A reader of characters returns what it read together with the
rest, and the rest carries the proof that it is no longer, or is shorter, than the input: this is
what lets readers call one another and still be seen to end. -/
namespace ColumnQuery.Text

/-- An end of `cs`, by its length. -/
abbrev Remainder (cs : List Char) :=
  { rest : List Char // rest.length ≤ cs.length }

/-- A proper end of `cs`, by its length. -/
abbrev Shorter (cs : List Char) :=
  { rest : List Char // rest.length < cs.length }

/-- The whole input, of which nothing was read. -/
def Remainder.all (cs : List Char) : Remainder cs :=
  ⟨cs, Nat.le_refl _⟩

/-- What follows the leading characters of a class. -/
def Remainder.skip (p : Char → Bool) (cs : List Char) : Remainder cs :=
  ⟨cs.dropWhile p, (List.dropWhile_sublist p).length_le⟩

/-- What follows so many characters. -/
def Remainder.drop (count : Nat) (cs : List Char) : Remainder cs :=
  ⟨cs.drop count, (List.drop_sublist count cs).length_le⟩

/-- What follows the first character. -/
def Shorter.tail (c : Char) (rest : List Char) : Shorter (c :: rest) :=
  ⟨rest, Nat.lt_succ_self _⟩

/-- What follows one character, if that is how the input begins. -/
def Shorter.after? (c : Char) : (cs : List Char) → Option (Shorter cs)
  | [] => none
  | d :: rest => if d = c then some ⟨rest, Nat.lt_succ_self _⟩ else none

/-- What follows a word, if that is how the input begins. -/
def Remainder.after? (word cs : List Char) : Option (Remainder cs) :=
  if word.isPrefixOf cs then some (Remainder.drop word.length cs) else none

/-- A remainder of what follows one character. -/
def Shorter.ofTail {c : Char} {cs : List Char} (rest : Remainder cs) : Shorter (c :: cs) :=
  ⟨rest.1, Nat.lt_succ_of_le rest.2⟩

/-- A remainder of a remainder. -/
def Remainder.trans {cs : List Char} (mid : Remainder cs) (rest : Remainder mid.1) : Remainder cs :=
  ⟨rest.1, Nat.le_trans rest.2 mid.2⟩

/-- A proper remainder of a remainder. -/
def Remainder.transShorter {cs : List Char} (mid : Remainder cs) (rest : Shorter mid.1) :
    Shorter cs :=
  ⟨rest.1, Nat.lt_of_lt_of_le rest.2 mid.2⟩

/-- A remainder of a proper remainder. -/
def Shorter.trans {cs : List Char} (mid : Shorter cs) (rest : Remainder mid.1) : Shorter cs :=
  ⟨rest.1, Nat.lt_of_le_of_lt rest.2 mid.2⟩

/-- A proper remainder of a proper remainder. -/
def Shorter.transShorter {cs : List Char} (mid : Shorter cs) (rest : Shorter mid.1) : Shorter cs :=
  ⟨rest.1, Nat.lt_trans rest.2 mid.2⟩

/-- A proper remainder as a remainder. -/
def Shorter.toRemainder {cs : List Char} (rest : Shorter cs) : Remainder cs :=
  ⟨rest.1, Nat.le_of_lt rest.2⟩

/-- A reader of lists has one step more to go than the reader of items on the same characters, and still
fewer than that one on more characters. -/
theorem Shorter.twice_lt {cs : List Char} (rest : Shorter cs) :
    2 * rest.1.length + 1 < 2 * cs.length := by
  have := rest.2
  omega

end ColumnQuery.Text
