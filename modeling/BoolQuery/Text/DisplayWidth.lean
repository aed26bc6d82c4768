import BoolQuery.Text.Emoji
import BoolQuery.Text.Ligature

/-! Columns that a text takes in a terminal. They are the sum over its characters, except that
characters drawn as one emoji take the two columns of an emoji, an emoji that is asked for as text
takes one, and letters drawn as one take the columns of one. What stands behind a character decides
about its columns, so a text is read from its last character to its first. -/
namespace BoolQuery.Text

/-- What a character finds behind it that can change its columns. -/
inductive Follower where
  | plain
  | emoji
  | skinTone
  | flagHalf
  | flag
  | joined
  | joinedKey
  | joinedFlagHalf
  | joinedFlag
  /-- The end of a region in front of a joined emoji, with so many letters in front of it. -/
  | joinedRegion (letters : Nat)
  | alef
  | lamed
  | khmerSubscript
  | bugineseYa
  | bugineseVowelYa
  | tifinagh
  | tifinaghJoined
  | lisuTone
  | orkhonI
  | kiratE
  | kiratAi
  deriving DecidableEq, Repr

/-- The letters of ligatures; marks may stand between them. -/
def Follower.isLetter : Follower → Bool
  | .alef | .lamed | .khmerSubscript | .bugineseYa | .bugineseVowelYa | .tifinagh
  | .tifinaghJoined | .lisuTone | .orkhonI | .kiratE | .kiratAi => true
  | _ => false

inductive Selector where
  | unset
  | text
  | emoji
  deriving DecidableEq, Repr

/-- What stands behind a character: a follower, whether a joiner stands in front of a letter, and
the selector in front of both. -/
structure Behind where
  follower : Follower := .plain
  joined : Bool := false
  selector : Selector := .unset
  deriving DecidableEq, Repr

namespace Behind

/-- A selector hides what stands behind it, unless that is a letter or, for emoji, a joiner. -/
def select (behind : Behind) (selector : Selector) : Behind :=
  if behind.follower.isLetter ||
      (selector = .emoji && (behind.follower = .joined || behind.follower = .joinedKey)) then
    { behind with selector }
  else { selector }

/-- What is left when the character in front of a selector does not obey it. -/
def unselect (behind : Behind) : Behind :=
  match behind.selector with
  | .unset => behind
  | _ => if behind.follower.isLetter then { behind with selector := .unset } else {}

def ofChar (c : Char) : Behind :=
  if c = emojiSelector then { selector := .emoji }
  else if c = textSelector then { selector := .text }
  else if isSkinTone c then { follower := .skinTone }
  else if isFlagHalf c then { follower := .flagHalf }
  else if emojiByDefault.covers c then { follower := .emoji }
  else if arabicAlefs.covers c then { follower := .alef }
  else if c = '\u05dc' then { follower := .lamed }
  else if khmerSubscripts.covers c then { follower := .khmerSubscript }
  else if c = '\u1a10' then { follower := .bugineseYa }
  else if tifinaghConsonants.covers c then { follower := .tifinagh }
  else if lisuSecondTones.covers c then { follower := .lisuTone }
  else if c.toNat = 0x10c03 then { follower := .orkhonI }
  else if c.toNat = 0x16d67 then { follower := .kiratE }
  else if c.toNat = 0x16d68 then { follower := .kiratAi }
  else {}

end Behind

/-- Columns that a character adds as part of an emoji, and what it then is for the character in front
of it. Nothing is answered for a character that stands by itself. -/
def emojiColumns? (follower : Follower) (c : Char) : Option (Int × Follower) :=
  match follower with
  | .emoji => if c = joiner then some (0, .joined) else none
  | .skinTone =>
    if skinToneBases.covers c then some (0, .emoji)
    else if c = joiner then some (0, .joined)
    else none
  | .flagHalf => if isFlagHalf c then some (1, .flag) else none
  | .flag =>
    if isFlagHalf c then some (1, .flag) else if c = joiner then some (0, .joined) else none
  | .joined =>
    if c = '\u20e3' then some (0, .joinedKey)
    else if isFlagHalf c then some (1, .joinedFlagHalf)
    else if isSkinTone c then some (0, .skinTone)
    else if c.toNat = 0xe007f then some (0, .joinedRegion 0)
    else if emojiByDefault.covers c then some (0, .emoji)
    else none
  -- two letters are one flag of two columns, whichever of them is read first
  | .joinedFlagHalf => if isFlagHalf c then some (-1, .joinedFlag) else none
  | .joinedFlag =>
    if isFlagHalf c then some (3, .joinedFlagHalf)
    else if c = joiner then some (0, .joined)
    else none
  | .joinedRegion letters =>
    if isRegionTag c && letters < 6 then some (0, .joinedRegion (letters + 1))
    else if c.toNat = 0x1f3f4 && 3 ≤ letters then some (0, .emoji)
    else none
  | _ => none

/-- Columns that a character adds as part of a ligature, and what then stands behind the character in
front of it. Nothing is answered for a character that stands by itself. -/
def ligatureColumns? (behind : Behind) (c : Char) : Option (Int × Behind) :=
  match behind.follower, behind.joined with
  | .alef, _ =>
    if arabicLams.covers c then some (0, {})
    else if isArabicMark c then some (0, behind)
    else none
  -- a Hebrew alef in front
  | .lamed, true => if c = '\u05d0' then some (0, {}) else none
  -- the sign coeng draws the letter below the one in front
  | .khmerSubscript, _ => if c = '\u17d2' then some (-1, {}) else none
  | .bugineseYa, true =>
    if c = '\u1a17' then some (0, { follower := .bugineseVowelYa }) else none
  | .bugineseVowelYa, _ => if c = '\u1a15' then some (0, {}) else none
  | .tifinagh, joined =>
    -- the sign that joins consonants takes a column unless a consonant stands in front
    if c = '\u2d7f' then some (1, { follower := .tifinaghJoined })
    else if joined && tifinaghConsonants.covers c then some (0, {})
    else none
  | .tifinaghJoined, _ => if tifinaghConsonants.covers c then some (-1, {}) else none
  | .lisuTone, _ => if lisuFirstTones.covers c then some (0, {}) else none
  | .orkhonI, true => if c.toNat = 0x10c32 then some (0, {}) else none
  | .kiratE, _ =>
    if c.toNat = 0x16d63 || c.toNat = 0x16d69 then some (0, {})
    else if c.toNat = 0x16d67 then some (0, { follower := .kiratAi })
    else if c.toNat = 0x16d68 then some (1, { follower := .kiratE })
    else none
  | .kiratAi, _ => if c.toNat = 0x16d63 then some (0, {}) else none
  | _, _ => none

/-- Whether a character may stand between the letters of a ligature. Behind an alef stand only the
marks of Arabic, which are part of its rule. -/
def passesLetters (behind : Behind) (c : Char) : Bool :=
  behind.follower.isLetter && behind.follower ≠ .alef && (c = joiner || ignorableMarks.covers c)

def columnsBefore (behind : Behind) (c : Char) : Int × Behind :=
  if passesLetters behind c then (0, { behind with joined := behind.joined || c = joiner })
  else
    match ligatureColumns? behind c with
    | some columns => columns
    | none =>
      match emojiColumns? behind.follower c with
      | some (columns, follower) => (columns, { follower })
      | none => (columnsOf c, Behind.ofChar c)

def readBack (c : Char) (known : Int × Behind) : Int × Behind :=
  let (columns, behind) := known
  let obeyed : Bool := match behind.selector with
    | .unset => false
    | .text => textOnRequest.covers c
    | .emoji => emojiOnRequest.covers c
  if obeyed then
    match behind.selector, behind.follower with
    | .emoji, .joined | .emoji, .joinedKey => (columns, { follower := .emoji })
    | .emoji, _ => (columns + 2, { follower := .emoji })
    | _, _ => (columns + 1, {})
  else
    let behind := behind.unselect
    if c.toNat ≤ 0xa0 then (columns + 1, {})
    else if c = emojiSelector then (columns, behind.select .emoji)
    else if c = textSelector then (columns, behind.select .text)
    else
      let (more, next) := columnsBefore behind c
      (columns + more, next)

def displayWidth (text : String) : Nat := (text.toList.foldr readBack (0, {})).1.toNat

end BoolQuery.Text
