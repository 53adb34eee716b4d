import ColumnQuery.Proofs.Template.Assembly
import ColumnQuery.Proofs.Template.Lexemes

/-! The grammar of templates. A text is read as a template exactly when the template is canonical and
the text is a way to write it. Being canonical is a matter of the lexemes: no text is split, and no
lexeme runs into the next. -/
namespace ColumnQuery.Template
open Text Lexeme

/-! ## Templates and lexemes in writing -/

theorem allWritten_append {first second : List Lexeme} {cs before after : List Char}
    (writtenFirst : AllWritten first before) (writtenSecond : AllWritten second after)
    (whole : cs = before ++ after) : AllWritten (first ++ second) cs := by
  subst whole
  induction writtenFirst with
  | nil => exact writtenSecond
  | cons head later ih =>
    rw [List.append_assoc]
    exact .cons head ih

/-- What two lists of lexemes are written as splits between them. -/
theorem allWritten_splits {first second : List Lexeme} {cs : List Char}
    (written : AllWritten (first ++ second) cs) : ∃ before after,
      cs = before ++ after ∧ AllWritten first before ∧ AllWritten second after := by
  induction first generalizing cs with
  | nil => exact ⟨[], cs, rfl, .nil, written⟩
  | cons lexeme rest ih =>
    cases written with
    | cons head later =>
      obtain ⟨before, after, rfl, writtenRest, writtenSecond⟩ := ih later
      exact ⟨_, after, (List.append_assoc ..).symm, .cons head writtenRest, writtenSecond⟩

theorem allWritten_single {lexeme : Lexeme} {cs : List Char} :
    AllWritten [lexeme] cs ↔ lexeme.Written cs := by
  constructor
  · intro written
    cases written with
    | cons head later =>
      cases later
      simpa using head
  · intro written
    simpa using AllWritten.cons written .nil

theorem allWritten_characters {content cs : List Char} :
    AllWritten (content.map .character) cs ↔ cs = content := by
  induction content generalizing cs with
  | nil =>
    constructor
    · rintro ⟨⟩
      rfl
    · rintro rfl
      exact .nil
  | cons c content ih =>
    constructor
    · intro written
      cases written with
      | cons head later =>
        cases head
        rw [ih.mp later]
        rfl
    · rintro rfl
      exact .cons (.character c) (ih.mpr rfl)

/-- A template is written as its lexemes are. -/
theorem allWritten_of_written {parts : List TemplatePart} {cs : List Char}
    (written : Written parts cs) : AllWritten (lexemes parts) cs := by
  induction written with
  | nil => exact .nil
  | text content later ih => exact allWritten_append (allWritten_characters.mpr rfl) ih rfl
  | reference before name after blankBefore blankAfter later ih =>
    exact .cons (.reference before name after blankBefore blankAfter) ih
  | optional inside later insideIH laterIH =>
    have clause := allWritten_append insideIH (allWritten_single.mpr .closing) rfl
    exact allWritten_append (.cons .opening clause) laterIH (by simp)

theorem written_of_allWritten (parts : List TemplatePart) {cs : List Char}
    (written : AllWritten (lexemes parts) cs) : Written parts cs := by
  cases parts with
  | nil =>
    cases written
    exact .nil
  | cons part rest =>
    obtain ⟨here, later, rfl, writtenPart, writtenRest⟩ := allWritten_splits written
    have beyond := written_of_allWritten rest writtenRest
    cases part with
    | text content =>
      obtain rfl := allWritten_characters.mp writtenPart
      exact .text content beyond
    | reference name =>
      cases allWritten_single.mp writtenPart with
      | reference before _ after blankBefore blankAfter =>
        exact .reference before name after blankBefore blankAfter beyond
    | optional parts =>
      obtain ⟨clause, close, rfl, writtenClause, writtenClose⟩ := allWritten_splits writtenPart
      cases allWritten_single.mp writtenClose
      cases writtenClause with
      | cons opens inside =>
        cases opens
        exact .optional (written_of_allWritten parts inside) beyond

/-! ## Canonical templates by their lexemes -/

theorem partLexemes_nonempty {part : TemplatePart} (normal : IsNormalPart part) :
    partLexemes part ≠ [] := by
  cases part with
  | text content =>
    have nonempty : content ≠ "" := normal
    simpa [partLexemes] using nonempty
  | reference name => simp [partLexemes]
  | optional parts => simp [partLexemes]

theorem head_of_lexemes {part : TemplatePart} (normal : IsNormalPart part)
    (rest : List TemplatePart) : (lexemes (part :: rest)).head? = (partLexemes part).head? :=
  List.head?_append_of_ne_nil _ (partLexemes_nonempty normal)

theorem last_of_lexemes {last : TemplatePart} (normal : IsNormalPart last)
    (before : List TemplatePart) :
    (lexemes (before ++ [last])).getLast? = (partLexemes last).getLast? := by
  rw [lexemes_append, lexemes_single]
  exact List.getLast?_append_of_ne_nil _ (partLexemes_nonempty normal)

/-- The last lexeme of one part stays apart from the first of another. -/
def Parted (part next : TemplatePart) : Prop :=
  ∀ last ∈ (partLexemes part).getLast?, ∀ first ∈ (partLexemes next).head?, last.StaysApart first

theorem last_of_characters {content : String} {last : Lexeme}
    (ends : last ∈ (partLexemes (.text content)).getLast?) :
    ∃ c ∈ content.toList.getLast?, last = .character c := by
  rw [partLexemes, List.getLast?_map] at ends
  obtain ⟨c, found, rfl⟩ := Option.map_eq_some_iff.mp ends
  exact ⟨c, found, rfl⟩

/-- A text stays apart from a mark when it does not end in the character that the mark is made of. -/
theorem text_apart_iff (content : String) (mark : Lexeme)
    (special : mark.firstChar ∈ ['\x7b', '[', ']']) :
    (∀ last ∈ (partLexemes (.text content)).getLast?, last.StaysApart mark) ↔
      content.toList.getLast? ≠ some mark.firstChar := by
  constructor
  · intro apart ends
    have last : .character mark.firstChar ∈ (partLexemes (.text content)).getLast? := by
      rw [partLexemes, List.getLast?_map, ends]
      rfl
    exact apart _ last special rfl
  · intro other last ends
    obtain ⟨c, found, rfl⟩ := last_of_characters ends
    intro _ same
    exact other (same ▸ found)

theorem last_of_clause (parts : List TemplatePart) :
    (partLexemes (.optional parts)).getLast? = some .closing :=
  List.getLast?_concat

/-- One part may stand before another when texts do not touch and lexemes stay apart. -/
theorem mayPrecede_iff (part next : TemplatePart) :
    MayPrecede part next ↔ ¬ Touch part next ∧ Parted part next := by
  cases part with
  | text content =>
    cases next with
    | text other => simp [MayPrecede, Touch]
    | reference name =>
      have apart := text_apart_iff content (.reference name) (.head _)
      simpa [MayPrecede, Touch, Parted, partLexemes, firstChar] using apart.symm
    | optional parts =>
      have apart := text_apart_iff content .opening (.tail _ (.head _))
      simpa [MayPrecede, Touch, Parted, partLexemes, firstChar] using apart.symm
  | reference name => simp [MayPrecede, Touch, Parted, partLexemes, StaysApart]
  | optional parts => simp [MayPrecede, Touch, Parted, last_of_clause, StaysApart]

theorem mayClose_iff {part : TemplatePart} :
    MayClose part ↔ ∀ last ∈ (partLexemes part).getLast?, last.StaysApart .closing := by
  cases part with
  | text content => exact (text_apart_iff content .closing (.tail _ (.tail _ (.head _)))).symm
  | reference name => simp [MayClose, partLexemes, StaysApart]
  | optional parts => simp [MayClose, last_of_clause, StaysApart]

/-- The characters of a text stay apart exactly when it holds no mark. -/
theorem separate_characters_iff {content : List Char} :
    Separate (content.map .character) ↔
      ∀ mark ∈ [openReference, openClause, closeClause], ¬ mark <:+: content := by
  have meets : Separate (content.map .character) ↔
      ∀ c ∈ ['\x7b', '[', ']'], ¬ [c, c] <:+: content := by
    rw [Separate, List.isChain_map, List.isChain_iff_forall_rel_of_append_cons_cons]
    constructor
    · rintro apart c special ⟨before, after, whole⟩
      have meeting : content = before ++ c :: c :: after := by rw [← whole]; simp
      exact apart meeting special rfl
    · intro other c d before after whole special same
      refine other c special ⟨before, after, ?_⟩
      rw [whole, ← same]
      simp [firstChar]
  simpa [openReference, openClause, closeClause] using meets

theorem separate_append_iff {first second : List Lexeme} : Separate (first ++ second) ↔
    Separate first ∧ Separate second ∧
      ∀ last ∈ first.getLast?, ∀ next ∈ second.head?, last.StaysApart next :=
  List.isChain_append

theorem areNamed_append_iff {first second : List Lexeme} :
    AreNamed (first ++ second) ↔ AreNamed first ∧ AreNamed second := by
  simp [AreNamed, or_imp, forall_and]

/-- The lexemes of a clause are separate when those inside are, up to the closing one. -/
theorem separate_clause_iff {parts : List TemplatePart} (normal : IsNormal parts) :
    Separate (partLexemes (.optional parts)) ↔
      Separate (lexemes parts) ∧ ∀ last ∈ parts.getLast?, MayClose last := by
  have opens : Separate (.opening :: (lexemes parts ++ [.closing])) ↔
      Separate (lexemes parts ++ [.closing]) := by
    rw [Separate, List.isChain_cons]
    simp [StaysApart]
  have closes : Separate (lexemes parts ++ [.closing]) ↔ Separate (lexemes parts) ∧
      ∀ last ∈ (lexemes parts).getLast?, last.StaysApart .closing := by
    rw [separate_append_iff]
    simp
  rw [partLexemes, List.cons_append, opens, closes]
  refine and_congr_right fun _ => ?_
  rcases List.eq_nil_or_concat parts with rfl | ⟨before, last, rfl⟩
  · simp [lexemes]
  · have ending : IsNormalPart last := (isNormal_iff.mp normal).1 last (by simp)
    rw [List.concat_eq_append, last_of_lexemes ending, ← mayClose_iff]
    simp

mutual

/-- A part is canonical when its lexemes stay apart and its references have names. -/
theorem isCanonicalPart_iff (part : TemplatePart) : IsCanonicalPart part ↔
    IsNormalPart part ∧ Separate (partLexemes part) ∧ AreNamed (partLexemes part) := by
  cases part with
  | text content =>
    have unnamed : AreNamed (partLexemes (.text content)) := by simp [AreNamed, partLexemes]
    rw [and_iff_left unnamed, IsCanonicalPart, IsNormalPart, partLexemes, separate_characters_iff]
  | reference name =>
    simp [IsCanonicalPart, IsNormalPart, partLexemes, AreNamed]
  | optional parts =>
    have named : AreNamed (partLexemes (.optional parts)) ↔ AreNamed (lexemes parts) := by
      simp [AreNamed, partLexemes]
    rw [IsCanonicalPart, IsNormalPart, isCanonical_iff parts, named]
    constructor
    · rintro ⟨⟨normal, separate, named⟩, closes⟩
      exact ⟨normal, (separate_clause_iff normal).mpr ⟨separate, closes⟩, named⟩
    · rintro ⟨normal, separate, named⟩
      obtain ⟨separate, closes⟩ := (separate_clause_iff normal).mp separate
      exact ⟨⟨normal, separate, named⟩, closes⟩

/-- A template is canonical when it is normal, its lexemes stay apart and its references have names. -/
theorem isCanonical_iff (parts : List TemplatePart) : IsCanonical parts ↔
    IsNormal parts ∧ Separate (lexemes parts) ∧ AreNamed (lexemes parts) := by
  cases parts with
  | nil => simp [IsCanonical, IsNormal, lexemes, AreNamed]
  | cons part rest =>
    rw [IsCanonical, IsNormal, lexemes, isCanonicalPart_iff part, isCanonical_iff rest,
      separate_append_iff, areNamed_append_iff]
    have precedes (normal : IsNormal rest) : (∀ next ∈ rest.head?, MayPrecede part next) ↔
        (∀ next ∈ rest.head?, ¬ Touch part next) ∧
          ∀ last ∈ (partLexemes part).getLast?, ∀ first ∈ (lexemes rest).head?,
            last.StaysApart first := by
      cases rest with
      | nil => simp [lexemes]
      | cons next others =>
        rw [head_of_lexemes normal.1]
        simpa [Parted] using mayPrecede_iff part next
    constructor
    · rintro ⟨⟨normal, separate, named⟩, follows, normalRest, separateRest, namedRest⟩
      obtain ⟨apart, parted⟩ := (precedes normalRest).mp follows
      exact ⟨⟨normal, apart, normalRest⟩, ⟨separate, separateRest, parted⟩, named, namedRest⟩
    · rintro ⟨⟨normal, apart, normalRest⟩, ⟨separate, separateRest, parted⟩, named, namedRest⟩
      exact ⟨⟨normal, separate, named⟩, (precedes normalRest).mpr ⟨apart, parted⟩, normalRest,
        separateRest, namedRest⟩

end

/-! ## Reading -/

/-- A template is read when its text is cut into lexemes to the end and all of them are put together. -/
theorem ofText_ok_iff_lexed {text : String} {template : Template} :
    Template.ofText text = .ok template ↔
      ∃ placed a, Lexed.ofChars 0 text.toList = ⟨placed, none⟩ ∧
        Assembly.steps {} placed = .ok a ∧ a.finish = .ok template := by
  rw [Template.ofText, Lexed.ofText, ofLexed]
  cases Lexed.ofChars 0 text.toList with
  | mk placed fault =>
    simp only
    constructor
    · intro read
      split at read
      · cases read
      · next a ran =>
        cases fault with
        | some fault => cases read
        | none => exact ⟨placed, a, rfl, ran, read⟩
    · rintro ⟨placed, a, ⟨⟩, ran, finished⟩
      simpa [ran] using finished

/-- A text is read as a template exactly when the template is canonical and the text is a way to write
it. So what is printed is read back, and no text is two templates. -/
theorem reading_inverts_writing (text : String) (template : Template) :
    (Template.ofText text = .ok template ↔
      IsCanonical template ∧ Written template text.toList) ∧
    (IsCanonical template → Template.ofText (print template) = .ok template) ∧
    ∀ other, IsCanonical template → IsCanonical other → Written template text.toList →
      Written other text.toList → template = other := by
  have accepts (text : String) (template : Template) : Template.ofText text = .ok template ↔
      IsCanonical template ∧ Written template text.toList := by
    rw [ofText_ok_iff_lexed, isCanonical_iff]
    constructor
    · rintro ⟨placed, a, read, ran, finished⟩
      obtain ⟨normal, same⟩ := Assembly.finished_of_steps ran finished
      obtain ⟨written, separate, named⟩ := Lexed.written_of_read read
      rw [← same] at written separate named
      exact ⟨⟨normal, separate, named⟩, written_of_allWritten template written⟩
    · rintro ⟨⟨normal, separate, named⟩, written⟩
      obtain ⟨placed, read, same⟩ :=
        Lexed.read_of_written (allWritten_of_written written) separate named 0
      obtain ⟨a, ran, finished⟩ := Assembly.finishes_of_lexemes normal same
      exact ⟨placed, a, read, ran, finished⟩
  refine ⟨accepts text template, ?_, ?_⟩
  · intro canonical
    refine (accepts _ _).mpr ⟨canonical, ?_⟩
    rw [print, String.toList_ofList]
    exact written_chars template
  · intro other canonical otherCanonical written otherWritten
    have read := (accepts text template).mpr ⟨canonical, written⟩
    rw [(accepts text other).mpr ⟨otherCanonical, otherWritten⟩] at read
    exact (Except.ok.inj read).symm

/-- A template with single braces and brackets right beside marks. -/
def bracketed : Template :=
  [ .text "a\x7d\x7b[", .reference "day", .text "\x7d", .optional [.text " [b", .optional []],
    .text "] c" ]

def bracketedText : String :=
  "a\x7d\x7b[\x7b\x7b\tday \x7d\x7d\x7d[[ [b[[]]]]] c"

/-- Brackets within texts, next to references and next to groups: the text and what is printed for it are
read as one template. -/
theorem bracketed_text_reads : IsCanonical bracketed ∧ Written bracketed bracketedText.toList ∧
    Template.ofText bracketedText = .ok bracketed ∧
      Template.ofText (print bracketed) = .ok bracketed := by
  have canonical : IsCanonical bracketed := by decide +kernel
  have tab : ∀ c ∈ ['\t'], isBlank c = true := List.forall_mem_singleton.mpr (by decide)
  have space : ∀ c ∈ [' '], isBlank c = true := List.forall_mem_singleton.mpr (by decide)
  have clause := Written.text " [b" (.optional .nil .nil)
  have whole := Written.text "a\x7d\x7b[" (.reference ['\t'] "day" [' '] tab space
    (.text "\x7d" (.optional clause (.text "] c" .nil))))
  have written : Written bracketed bracketedText.toList := by
    refine Eq.mp (congrArg (Written bracketed) ?_) whole
    decide +kernel
  obtain ⟨accepts, printed, -⟩ := reading_inverts_writing bracketedText bracketed
  exact ⟨canonical, written, accepts.mpr ⟨canonical, written⟩, printed canonical⟩

end ColumnQuery.Template
