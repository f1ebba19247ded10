import ResourceCatalog.Text.DisplayClass

/-!
# What follows a character

The cells of a character can depend on the text behind it. This is what that text tells: the letter or the
part of an emoji that it starts with, where that may be drawn in one with what stands before it, and the
selectors in front of that.
-/

namespace ResourceCatalog.Text

/-- The character has the code point `first`, the code point `last`, or one between them. -/
def isBetween (first last : Nat) (c : Char) : Bool := first ≤ c.toNat && c.toNat ≤ last

def emojiSelector : Char := '\uFE0F'
def textSelector : Char := '\uFE0E'
def quoteSelector : Char := '\uFE01'
def joiner : Char := '\u200D'

def isZeroWidth (c : Char) : Bool := inRanges zeroWidthRanges c

/-- Letters that may be drawn in one with the letter before them. Some are, but for a joiner between. -/
inductive Letter where
  | alef
  | lamed (joined : Bool)
  | ya (joined : Bool)
  /-- A joined ya behind its vowel sign. -/
  | yaBehindVowel
  | tifinagh (joined : Bool)
  /-- A Tifinagh consonant behind the consonant joiner. -/
  | tifinaghBehindJoiner
  | toneLetter
  | orkhonI (joined : Bool)
  | khmer
deriving DecidableEq, Repr

/-- The letter behind a joiner. -/
def Letter.behindJoiner : Letter → Letter
  | .lamed _ => .lamed true
  | .ya _ => .ya true
  | .tifinagh _ => .tifinagh true
  | .orkhonI _ => .orkhonI true
  | letter => letter

/-- Parts of emoji that may be drawn in one with what stands before them. -/
inductive EmojiPart where
  | emoji
  | skinTone
  /-- An emoji behind a joiner. -/
  | joined
  /-- A joined emoji behind the frame of a key. -/
  | joinedKey
  | flagLetter
  | flagLetters
  /-- A joined emoji behind one flag letter, behind an even number of them, or behind an odd one. -/
  | joinedFlagLetter
  | joinedEvenFlagLetters
  | joinedOddFlagLetters
  /-- A joined emoji behind the end of a tag, which has that many letters or digits so far. -/
  | joinedTagEnd
  | joinedTagLetters (count : Nat)
  | joinedTagDigits (count : Nat)
deriving DecidableEq, Repr

/-- Signs of Kirat Rai that join the vowel sign before them. -/
inductive VowelSign where
  | e
  | ai
deriving DecidableEq, Repr

/-- What the text behind a character starts with. -/
inductive Follower where
  | plain
  | letter (l : Letter)
  | emoji (part : EmojiPart)
  | vowelSign (s : VowelSign)
deriving DecidableEq, Repr

/-- What the text behind a character tells: what it starts with, and the selectors before that. -/
structure Behind where
  follower : Follower := .plain
  emojiForm : Bool := false
  textForm : Bool := false
  wideQuote : Bool := false
deriving DecidableEq, Repr

namespace Behind

/-- Selectors part everything but letters. -/
def parted (b : Behind) : Behind :=
  match b.follower with
  | .letter _ => b
  | _ => {}

/-- Behind the selector of the emoji form. It does not part an emoji from the joiner before it. -/
def withEmojiForm (b : Behind) : Behind :=
  match b.follower with
  | .emoji .joined | .emoji .joinedKey => { b with emojiForm := true }
  | _ => { b.parted with emojiForm := true }

/-- Behind the selector of the text form. -/
def withTextForm (b : Behind) : Behind := { b.parted with textForm := true }

/-- Behind the selector of wide quotation marks. -/
def withWideQuote (b : Behind) : Behind := { b.parted with wideQuote := true }

/-- Behind a character that does not take the emoji form. -/
def withoutEmojiForm (b : Behind) : Behind :=
  if b.emojiForm then { b.parted with emojiForm := false } else b

/-- Behind a character that takes neither the text form nor the form of a wide quotation mark. -/
def withoutOtherForms (b : Behind) : Behind :=
  if b.textForm then { b.parted with textForm := false }
  else if b.wideQuote then { b.parted with wideQuote := false }
  else b

end Behind

/-! ## What a character is to the one before it -/

def isTifinagh (c : Char) : Bool := isBetween 0x2D31 0x2D65 c || c = '\u2D6F'

def isAlef (c : Char) : Bool :=
  inRanges [⟨0x622, 0x623⟩, ⟨0x625, 0x625⟩, ⟨0x627, 0x627⟩, ⟨0x671, 0x673⟩, ⟨0x675, 0x675⟩,
    ⟨0x773, 0x774⟩, ⟨0x870, 0x882⟩] c

/-- Khmer letters that go below the letter before them. -/
def isKhmerSubscript (c : Char) : Bool :=
  inRanges [⟨0x1780, 0x1782⟩, ⟨0x1784, 0x1787⟩, ⟨0x1789, 0x178C⟩, ⟨0x178E, 0x1793⟩, ⟨0x1795, 0x1798⟩,
    ⟨0x179B, 0x179D⟩, ⟨0x17A0, 0x17A0⟩, ⟨0x17A2, 0x17A2⟩, ⟨0x17A7, 0x17A7⟩, ⟨0x17AB, 0x17AC⟩, ⟨0x17AF, 0x17AF⟩] c

def isFlagLetter (c : Char) : Bool := isBetween 0x1F1E6 0x1F1FF c

/-- Skin tones. -/
def isEmojiModifier (c : Char) : Bool := isBetween 0x1F3FB 0x1F3FF c

/-- The character as a letter that may be drawn in one with the letter before it. -/
def Letter.ofChar? (c : Char) : Option Letter :=
  if isAlef c then some .alef
  else if c = '\u05DC' then some (.lamed false)
  else if c = '\u1A10' then some (.ya false)
  else if isTifinagh c then some (.tifinagh false)
  else if isBetween 0xA4FC 0xA4FD c then some .toneLetter
  else if c.toNat = 0x10C03 then some (.orkhonI false)
  else if isKhmerSubscript c then some .khmer
  else none

/-- The character as a part of an emoji. -/
def EmojiPart.ofChar? (c : Char) : Option EmojiPart :=
  if isFlagLetter c then some .flagLetter
  else if isEmojiModifier c then some .skinTone
  else if inRanges emojiPresentationRanges c then some .emoji
  else none

/-- The character as a sign that joins the vowel sign before it. -/
def VowelSign.ofChar? (c : Char) : Option VowelSign :=
  if c.toNat = 0x16D67 then some .e
  else if c.toNat = 0x16D68 then some .ai
  else none

/-- What a character is to the one before it. -/
def Follower.ofChar (c : Char) : Follower :=
  match Letter.ofChar? c, EmojiPart.ofChar? c, VowelSign.ofChar? c with
  | some l, _, _ => .letter l
  | none, some part, _ => .emoji part
  | none, none, some s => .vowelSign s
  | none, none, none => .plain

end ResourceCatalog.Text
