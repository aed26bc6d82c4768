import BoolQuery.Text
import BoolQuery.Token

/-! How a text is cut into tokens, as a relation: blank gaps, and slices that each spell one token. A
word reaches as far as it can. -/
namespace BoolQuery.Token

/-- `Unescapes ends slice text`: without its escapes a slice is a text, and no character that `ends`
picks stands in it without an escape. -/
inductive Unescapes (ends : Char → Bool) : List Char → List Char → Prop
  | nil : Unescapes ends [] []
  | plain {c : Char} {slice text : List Char} (isPlain : c ≠ '\\') (goesOn : ends c = false)
    (others : Unescapes ends slice text) : Unescapes ends (c :: slice) (c :: text)
  | escaped {c : Char} {slice text : List Char} (others : Unescapes ends slice text) :
    Unescapes ends ('\\' :: c :: slice) (c :: text)

inductive Spells : List Char → Kind → Prop
  | punctuation {c : Char} {kind : Kind} (isMark : punctuation? c = some kind) : Spells [c] kind
  | phrase {body text : List Char} (unescapes : Unescapes (· = '\x22') body text) :
    Spells ('\x22' :: (body ++ ['\x22'])) (.phrase (String.ofList text))
  | word {slice text : List Char} (isWord : slice ≠ []) (unescapes : Unescapes isDelimiter slice text) :
    Spells slice (wordKind (String.ofList text) (slice.contains '\\'))

/-- A slice that spells a word ends where the text ends or a delimiter follows. -/
def endsBefore (slice rest : List Char) : Prop :=
  match slice, rest with
  | first :: _, next :: _ => isDelimiter first ∨ isDelimiter next
  | _, _ => True

/-- `Segmented offset text tokens`: the text, which begins at a byte, is cut into the tokens. -/
inductive Segmented : Nat → List Char → List Token → Prop
  | stop {offset : Nat} {gap : List Char} (blank : ∀ c ∈ gap, isBlank c) :
    Segmented offset gap [⟨.stop, offset + Text.byteSize gap⟩]
  | token {offset : Nat} {gap slice rest : List Char} {kind : Kind} {tokens : List Token}
    (blank : ∀ c ∈ gap, isBlank c) (spells : Spells slice kind) (maximal : endsBefore slice rest)
    (others : Segmented (offset + Text.byteSize gap + Text.byteSize slice) rest tokens) :
    Segmented offset (gap ++ slice ++ rest) (⟨kind, offset + Text.byteSize gap⟩ :: tokens)

end BoolQuery.Token
