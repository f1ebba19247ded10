import ResourceCatalog.Text.Follower

/-!
# Cells on a terminal

How many cells a line of text takes: one for most characters, two for wide ones and for emoji, none for
marks. A character's share depends on the text behind it, since a selector changes the form of what it
follows, joined emoji are drawn as one, and so are some letters. The line is therefore read from its end.
A share may be negative where a character takes back the cell of a letter behind it.
-/

namespace ResourceCatalog.Text

/-- The cells of a character by itself. -/
def ownCells (c : Char) : Nat :=
  if isZeroWidth c then 0
  else if c = '\u17D8' then 3
  else if inRanges wideRanges c then 2 else 1

def isLam (c : Char) : Bool :=
  inRanges [⟨0x644, 0x644⟩, ⟨0x6B5, 0x6B8⟩, ⟨0x76A, 0x76A⟩, ⟨0x8A6, 0x8A6⟩, ⟨0x8C7, 0x8C7⟩] c

/-- A character of no cell through which a lam and an alef join. -/
def isTransparent (c : Char) : Bool := isZeroWidth c && !inRanges opaqueRanges c

/-- Marks that are not drawn, through which other letters join. -/
def isUnseenMark (c : Char) : Bool :=
  inRanges [⟨0x34F, 0x34F⟩, ⟨0x17B4, 0x17B5⟩, ⟨0x180B, 0x180D⟩, ⟨0x180F, 0x180F⟩, ⟨0x200D, 0x200D⟩,
    ⟨0xFE00, 0xFE0F⟩, ⟨0xE0100, 0xE01EF⟩] c

/-- Quotation marks that have a wide form. -/
def isCurlyQuote (c : Char) : Bool := isBetween 0x2018 0x2019 c || isBetween 0x201C 0x201D c

def isTagLetter (c : Char) : Bool := isBetween 0xE0061 0xE007A c
def isTagDigit (c : Char) : Bool := isBetween 0xE0030 0xE0039 c

/-- The flag on which tags stand. -/
def isTagBase (c : Char) : Bool := c.toNat = 0x1F3F4

/-! ## Characters drawn in one with what follows -/

/-- The cells of `c` before a letter with which it is drawn in one, and what both are to the character before
them. -/
def Letter.join? (c : Char) : Letter → Option (Int × Follower)
  | .alef =>
    if isLam c then some (0, .plain)
    else if isTransparent c then some (0, .letter .alef)
    else none
  | .lamed true => if c = '\u05D0' then some (0, .plain) else none
  | .ya true =>
    if c = '\u1A17' then some (0, .letter .yaBehindVowel)
    else if c = '\u1A15' then some (0, .plain)
    else none
  | .yaBehindVowel => if c = '\u1A15' then some (0, .plain) else none
  | .tifinagh joined =>
    if c = '\u2D7F' then some (1, .letter .tifinaghBehindJoiner)
    else if joined && isTifinagh c then some (0, .plain)
    else none
  | .tifinaghBehindJoiner => if isTifinagh c then some (-1, .plain) else none
  | .toneLetter => if isBetween 0xA4F8 0xA4FB c then some (0, .plain) else none
  | .orkhonI true => if c.toNat = 0x10C32 then some (0, .plain) else none
  | .khmer => if c = '\u17D2' then some (-1, .plain) else none
  | .lamed false | .ya false | .orkhonI false => none

/-- The cells of `c` before a part of an emoji with which it is drawn in one, and the part that both form. -/
def EmojiPart.join? (c : Char) : EmojiPart → Option (Int × EmojiPart)
  | .emoji => if c = joiner then some (0, .joined) else none
  | .skinTone =>
    if inRanges emojiModifierBaseRanges c then some (0, .emoji)
    else if c = joiner then some (0, .joined)
    else none
  | .joined =>
    if c = '\u20E3' then some (0, .joinedKey)
    else if isFlagLetter c then some (1, .joinedFlagLetter)
    else if isEmojiModifier c then some (0, .skinTone)
    else if c.toNat = 0xE007F then some (0, .joinedTagEnd)
    else if inRanges emojiPresentationRanges c then some (0, .emoji)
    else none
  | .joinedKey => none
  | .flagLetter => if isFlagLetter c then some (1, .flagLetters) else none
  | .flagLetters =>
    if isFlagLetter c then some (1, .flagLetters)
    else if c = joiner then some (0, .joined)
    else none
  | .joinedFlagLetter => if isFlagLetter c then some (-1, .joinedEvenFlagLetters) else none
  | .joinedEvenFlagLetters =>
    if isFlagLetter c then some (3, .joinedOddFlagLetters)
    else if c = joiner then some (0, .joined)
    else none
  | .joinedOddFlagLetters =>
    if isFlagLetter c then some (-1, .joinedEvenFlagLetters)
    else if c = joiner then some (0, .joined)
    else none
  | .joinedTagEnd =>
    if isTagLetter c then some (0, .joinedTagLetters 1)
    else if isTagDigit c then some (0, .joinedTagDigits 1)
    else none
  | .joinedTagLetters count =>
    if isTagLetter c && count < 6 then some (0, .joinedTagLetters (count + 1))
    else if isTagDigit c && count ≤ 4 then some (0, .joinedTagDigits 1)
    else if isTagBase c && 3 ≤ count then some (0, .emoji)
    else none
  | .joinedTagDigits count =>
    if isTagDigit c && count < 3 then some (0, .joinedTagDigits (count + 1))
    else if isTagBase c && count = 3 then some (0, .emoji)
    else none

/-- The cells of `c` before a vowel sign that joins it, and what both are to the character before them. -/
def VowelSign.join? (c : Char) : VowelSign → Option (Int × Follower)
  | .e =>
    match c.toNat with
    | 0x16D63 | 0x16D69 => some (0, .plain)
    | 0x16D67 => some (0, .vowelSign .ai)
    | 0x16D68 => some (1, .vowelSign .e)
    | _ => none
  | .ai => if c.toNat = 0x16D63 then some (0, .plain) else none

/-- The cells of `c` if it is drawn in one with what follows, and what both are to the character before. -/
def Behind.join? (c : Char) (b : Behind) : Option (Int × Follower) :=
  if b.textForm || b.wideQuote then none
  else
    match b.follower with
    | .plain => none
    | .letter l => l.join? c
    | .emoji part => (part.join? c).map fun (cells, part) => (cells, .emoji part)
    | .vowelSign s => s.join? c

/-- What is behind a mark through which the letter behind it joins. -/
def Behind.through? (c : Char) (b : Behind) : Option Behind :=
  match b.follower with
  | .letter .alef => none
  | .letter l =>
    if c = joiner then some { b with follower := .letter l.behindJoiner }
    else if isUnseenMark c then some b
    else none
  | _ => none

/-! ## Lines -/

/-- The cells of `c`, which is no selector and takes no form, and what is behind the character before it. -/
def cellsJoining (c : Char) (b : Behind) : Int × Behind :=
  match b.through? c with
  | some b => (0, b)
  | none =>
    match b.join? c with
    | some (cells, follower) => (cells, { follower })
    | none => (ownCells c, { follower := .ofChar c })

/-- The cells of `c`, which does not take the emoji form, and what is behind the character before it. -/
def cellsOfOthers (c : Char) (b : Behind) : Int × Behind :=
  if c.toNat ≤ 0xA0 then (1, {})
  else if c = emojiSelector then (0, b.withEmojiForm)
  else if c = textSelector then (0, b.withTextForm)
  else if c = quoteSelector then (0, b.withWideQuote)
  else if b.textForm && inRanges textStyleRanges c then (1, {})
  else if !b.textForm && b.wideQuote && isCurlyQuote c then (2, {})
  else cellsJoining c b.withoutOtherForms

/-- The cells of `c` before a text, and what is behind the character before it. -/
def cellsBefore (c : Char) (b : Behind) : Int × Behind :=
  if b.emojiForm && inRanges emojiStyleRanges c then
    match b.follower with
    | .emoji _ => (0, { follower := .emoji .emoji })
    | _ => (2, { follower := .emoji .emoji })
  else cellsOfOthers c b.withoutEmojiForm

/-- The cells of a line, and what is behind a character before it. -/
def cellsFrom (line : List Char) : Int × Behind :=
  line.foldr (fun c (cells, b) => ((cellsBefore c b).map (· + cells) id)) (0, {})

/-- The cells that a line takes. -/
def cells (line : List Char) : Nat := (cellsFrom line).1.toNat

end ResourceCatalog.Text
