import BoolQuery.Proofs.Query

/-! A query laid out from end to end: gaps, slices that are each one token, and where the slices
start. The tokens of a query are those of a layout in which every bare word is as long as it can
be, and a query without tokens has no such layout. -/
namespace BoolQuery.Token
open Lexer Text

section Spellings

/-- The characters that are tokens by themselves. -/
def marks : List (Char × Kind) :=
  [('(', .openParen), (')', .closeParen), ('[', .openBracket), (']', .closeBracket),
    ('\x7b', .openBrace), ('\x7d', .closeBrace), (':', .colon)]

def keywords : List (String × Kind) := [("and", .and), ("or", .or), ("not", .not), ("to", .to)]

/-- Without an escape, a slice is the star or, in whatever ASCII letters, a keyword. -/
def Reserved (slice : List Char) (kind : Kind) : Prop :=
  '\\' ∉ slice ∧ (slice = ['*'] ∧ kind = .star ∨
    ∃ word, (word, kind) ∈ keywords ∧ slice.map Char.toLower = word.toList)

/-- `SpellsBefore rest slice kind`: in front of the rest of a text, a slice is one token. -/
inductive SpellsBefore (rest : List Char) : List Char → Kind → Prop
  | mark {c : Char} {kind : Kind} (listed : (c, kind) ∈ marks) : SpellsBefore rest [c] kind
  | phrase {body text : List Char} (unescapes : Unescapes (· = '\x22') body text) :
    SpellsBefore rest ('\x22' :: (body ++ ['\x22'])) (.phrase (String.ofList text))
  | keyword {slice text : List Char} {kind : Kind} (isWord : slice ≠ [])
    (unescapes : Unescapes isDelimiter slice text) (maximal : EndsWord rest)
    (reserved : Reserved slice kind) : SpellsBefore rest slice kind
  | word {slice text : List Char} (isWord : slice ≠ [])
    (unescapes : Unescapes isDelimiter slice text) (maximal : EndsWord rest)
    (free : ∀ kind, ¬ Reserved slice kind) : SpellsBefore rest slice (.word (String.ofList text))

theorem punctuation_iff {c : Char} {kind : Kind} :
    punctuation? c = some kind ↔ (c, kind) ∈ marks := by
  constructor
  · intro mark
    unfold punctuation? at mark
    split at mark
    all_goals cases mark
    all_goals simp [marks]
  · intro listed
    simp only [marks, List.mem_cons, Prod.mk.injEq, List.not_mem_nil, or_false] at listed
    rcases listed with ⟨rfl, rfl⟩ | ⟨rfl, rfl⟩ | ⟨rfl, rfl⟩ | ⟨rfl, rfl⟩ | ⟨rfl, rfl⟩ | ⟨rfl, rfl⟩ |
      ⟨rfl, rfl⟩
    all_goals rfl

-- Without escapes a bare word stands for itself.
theorem unescapes_plain {ends : Char → Bool} {slice text : List Char}
    (unescapes : Unescapes ends slice text) (plain : '\\' ∉ slice) : text = slice := by
  induction unescapes with
  | nil => rfl
  | plain _ _ _ ih => rw [ih fun member => plain (List.mem_cons_of_mem _ member)]
  | escaped => exact absurd List.mem_cons_self plain

theorem lower_eq_iff {slice : List Char} {word : String} :
    (String.ofList slice).toLower = word ↔ slice.map Char.toLower = word.toList := by
  have lower : (String.ofList slice).toLower = (String.ofList slice).map Char.toLower := rfl
  rw [lower, ← String.toList_inj, String.toList_map, String.toList_ofList]

theorem reserved_iff {slice : List Char} {kind : Kind} (plain : '\\' ∉ slice) :
    reserved? (String.ofList slice) = some kind ↔ Reserved slice kind := by
  have star : String.ofList slice = "*" ↔ slice = ['*'] := by
    rw [← String.toList_inj, String.toList_ofList]
    rfl
  constructor
  · intro reserved
    refine ⟨plain, ?_⟩
    unfold reserved? at reserved
    split at reserved
    · next same =>
      cases reserved
      exact Or.inl ⟨star.mp same, rfl⟩
    right
    split at reserved
    · next same =>
      cases reserved
      exact ⟨"and", by simp [keywords], lower_eq_iff.mp same⟩
    split at reserved
    · next same =>
      cases reserved
      exact ⟨"or", by simp [keywords], lower_eq_iff.mp same⟩
    split at reserved
    · next same =>
      cases reserved
      exact ⟨"not", by simp [keywords], lower_eq_iff.mp same⟩
    split at reserved
    · next same =>
      cases reserved
      exact ⟨"to", by simp [keywords], lower_eq_iff.mp same⟩
    cases reserved
  · rintro ⟨-, ⟨rfl, rfl⟩ | ⟨word, listed, spelled⟩⟩
    · rfl
    · have lower := lower_eq_iff.mpr spelled
      have letters : slice ≠ ['*'] := by
        rintro rfl
        simp only [keywords, List.mem_cons, Prod.mk.injEq, List.not_mem_nil, or_false] at listed
        rcases listed with ⟨rfl, rfl⟩ | ⟨rfl, rfl⟩ | ⟨rfl, rfl⟩ | ⟨rfl, rfl⟩
        all_goals exact absurd spelled (by decide)
      simp only [keywords, List.mem_cons, Prod.mk.injEq, List.not_mem_nil, or_false] at listed
      rcases listed with ⟨rfl, rfl⟩ | ⟨rfl, rfl⟩ | ⟨rfl, rfl⟩ | ⟨rfl, rfl⟩
      all_goals simp [reserved?, star, letters, lower]

theorem wordKind_reserved {slice text : List Char} {kind : Kind}
    (unescapes : Unescapes isDelimiter slice text) (reserved : Reserved slice kind) :
    wordKind (String.ofList text) (slice.contains '\\') = kind := by
  have plain := reserved.1
  obtain rfl := unescapes_plain unescapes plain
  simp [wordKind, plain, (reserved_iff plain).mpr reserved]

theorem wordKind_free {slice text : List Char} (unescapes : Unescapes isDelimiter slice text)
    (free : ∀ kind, ¬ Reserved slice kind) :
    wordKind (String.ofList text) (slice.contains '\\') = .word (String.ofList text) := by
  by_cases plain : '\\' ∈ slice
  · simp [wordKind, plain]
  · obtain rfl := unescapes_plain unescapes plain
    cases listed : reserved? (String.ofList text) with
    | none => simp [wordKind, plain, listed]
    | some kind => exact absurd ((reserved_iff plain).mp listed) (free kind)

/-- What spells a token and reaches as far as it can, in the words of the layout. -/
theorem spellsBefore_iff {rest slice : List Char} {kind : Kind} :
    SpellsBefore rest slice kind ↔ Spells slice kind ∧ endsBefore slice rest := by
  constructor
  · intro spells
    cases spells with
    | mark listed =>
      have mark := punctuation_iff.mpr listed
      exact ⟨.punctuation mark, endsBefore_delimiter (isDelimiter_of_punctuation mark) [] rest⟩
    | phrase unescapes => exact ⟨.phrase unescapes, endsBefore_delimiter (by decide) _ rest⟩
    | keyword isWord unescapes maximal reserved =>
      rw [← wordKind_reserved unescapes reserved]
      exact ⟨.word isWord unescapes, (endsBefore_bare isWord unescapes).mpr maximal⟩
    | word isWord unescapes maximal free =>
      rw [← wordKind_free unescapes free]
      exact ⟨.word isWord unescapes, (endsBefore_bare isWord unescapes).mpr maximal⟩
  · rintro ⟨spells, maximal⟩
    cases spells with
    | punctuation mark => exact .mark (punctuation_iff.mp mark)
    | phrase unescapes => exact .phrase unescapes
    | word isWord unescapes =>
      have ends := (endsBefore_bare isWord unescapes).mp maximal
      by_cases listed : ∃ kind, Reserved slice kind
      · obtain ⟨kind, reserved⟩ := listed
        rw [wordKind_reserved unescapes reserved]
        exact .keyword isWord unescapes ends reserved
      · have free (kind : Kind) (reserved : Reserved slice kind) : False := listed ⟨kind, reserved⟩
        rw [wordKind_free unescapes free]
        exact .word isWord unescapes ends free

end Spellings

section Layouts

/-- A slice of a query with the gap in front of it and the kind of the token that it is. -/
structure Piece where
  gap : List Char
  slice : List Char
  kind : Kind

def joined (pieces : List Piece) : List Char := pieces.flatMap fun piece => piece.gap ++ piece.slice

/-- The tokens of pieces that begin at a byte: each starts where its slice does. -/
def placed : Nat → List Piece → List Token
  | _, [] => []
  | offset, piece :: behind =>
    let start := offset + byteSize piece.gap
    ⟨piece.kind, start⟩ :: placed (start + byteSize piece.slice) behind

/-- A text is laid out as pieces and a gap at its end. -/
structure Layout (text : List Char) (pieces : List Piece) (last : List Char) : Prop where
  whole : text = joined pieces ++ last
  gaps : ∀ piece ∈ pieces, ∀ c ∈ piece.gap, c = ' ' ∨ c = '\t'
  lastGap : ∀ c ∈ last, c = ' ' ∨ c = '\t'
  spelled : ∀ before piece behind, pieces = before ++ piece :: behind →
    SpellsBefore (joined behind ++ last) piece.slice piece.kind

variable {offset : Nat} {text last : List Char} {tokens : List Token} {pieces : List Piece}

theorem isBlank_iff {c : Char} : isBlank c ↔ c = ' ' ∨ c = '\t' := by simp [isBlank]

theorem layout_end (blank : ∀ c ∈ last, isBlank c) : Layout last [] last where
  whole := rfl
  gaps := by simp
  lastGap := fun c member => isBlank_iff.mp (blank c member)
  spelled := by simp

theorem layout_cons {piece : Piece} (blank : ∀ c ∈ piece.gap, isBlank c)
    (spells : SpellsBefore text piece.slice piece.kind) (layout : Layout text pieces last) :
    Layout (piece.gap ++ piece.slice ++ text) (piece :: pieces) last where
  whole := by simp [joined, layout.whole]
  gaps := by
    intro other member c inside
    rcases List.mem_cons.mp member with rfl | later
    · exact isBlank_iff.mp (blank c inside)
    · exact layout.gaps other later c inside
  lastGap := layout.lastGap
  spelled := by
    intro before other behind split
    cases before with
    | nil =>
      obtain ⟨rfl, rfl⟩ := List.cons.inj split
      rw [← layout.whole]
      exact spells
    | cons first before =>
      obtain ⟨rfl, others⟩ := List.cons.inj split
      exact layout.spelled before other behind others

theorem layout_tail {piece : Piece} (layout : Layout text (piece :: pieces) last) :
    Layout (joined pieces ++ last) pieces last where
  whole := rfl
  gaps := fun other member => layout.gaps other (List.mem_cons_of_mem _ member)
  lastGap := layout.lastGap
  spelled := fun before other behind split =>
    layout.spelled (piece :: before) other behind (by rw [split]; rfl)

theorem layout_of_segmented (segmented : Segmented offset text tokens) :
    ∃ pieces last, Layout text pieces last ∧
      tokens = placed offset pieces ++ [⟨.stop, offset + byteSize text⟩] := by
  induction segmented with
  | @stop offset gap blank => exact ⟨[], gap, layout_end blank, rfl⟩
  | @token offset gap slice rest kind tokens blank spells maximal _ ih =>
    obtain ⟨pieces, last, layout, rfl⟩ := ih
    let piece : Piece := ⟨gap, slice, kind⟩
    have spelled : SpellsBefore rest piece.slice piece.kind :=
      spellsBefore_iff.mpr ⟨spells, maximal⟩
    refine ⟨piece :: pieces, last, layout_cons blank spelled layout, ?_⟩
    simp [piece, placed, byteSize_append, Nat.add_assoc]

theorem segmented_of_layout (layout : Layout text pieces last) (offset : Nat) :
    Segmented offset text (placed offset pieces ++ [⟨.stop, offset + byteSize text⟩]) := by
  induction pieces generalizing offset text with
  | nil =>
    obtain rfl := layout.whole
    exact .stop fun c member => isBlank_iff.mpr (layout.lastGap c member)
  | cons piece pieces ih =>
    have blank : ∀ c ∈ piece.gap, isBlank c := fun c member =>
      isBlank_iff.mpr (layout.gaps piece List.mem_cons_self c member)
    obtain ⟨spells, maximal⟩ := spellsBefore_iff.mp (layout.spelled [] piece pieces rfl)
    have others := ih (layout_tail layout) (offset + byteSize piece.gap + byteSize piece.slice)
    have whole : text = piece.gap ++ piece.slice ++ (joined pieces ++ last) := by
      simp [layout.whole, joined]
    have size : offset + byteSize text = offset + byteSize piece.gap + byteSize piece.slice +
        byteSize (joined pieces ++ last) := by
      simp only [whole, byteSize_append]
      omega
    rw [size, whole]
    exact .token blank spells maximal others

theorem byteSize_eq (text : List Char) : (String.ofList text).utf8ByteSize = byteSize text := by
  induction text with
  | nil => rfl
  | cons c rest ih =>
    have split : String.ofList (c :: rest) = String.singleton c ++ String.ofList rest := by
      apply String.toList_inj.mp
      simp
    rw [split, String.utf8ByteSize_append, String.utf8ByteSize_singleton, ih, byteSize]

theorem byteSize_toList (query : String) : byteSize query.toList = query.utf8ByteSize := by
  rw [← byteSize_eq, String.ofList_toList]

/-- Tokenizing succeeds exactly with the tokens of a layout of the whole query, and with its length
in bytes at the end. -/
theorem tokens_are_those_of_a_layout (query : String) (tokens : List Token) :
    tokenize query = .ok tokens ↔ ∃ pieces last, Layout query.toList pieces last ∧
      (∀ piece ∈ pieces, piece.slice ≠ [] ∧ piece.kind ≠ .stop) ∧
      tokens = placed 0 pieces ++ [⟨.stop, query.utf8ByteSize⟩] := by
  have size : query.utf8ByteSize = 0 + byteSize query.toList := by
    rw [← byteSize_eq, String.ofList_toList, Nat.zero_add]
  rw [tokenize_eq_ok_iff, size]
  constructor
  · intro segmented
    obtain ⟨pieces, last, layout, same⟩ := layout_of_segmented segmented
    refine ⟨pieces, last, layout, ?_, same⟩
    intro piece member
    obtain ⟨before, behind, split⟩ := List.append_of_mem member
    have spells := (spellsBefore_iff.mp (layout.spelled before piece behind split)).1
    exact ⟨spells_ne_nil spells, spells_ne_stop spells⟩
  · rintro ⟨pieces, last, layout, -, rfl⟩
    exact segmented_of_layout layout 0

end Layouts

end BoolQuery.Token
