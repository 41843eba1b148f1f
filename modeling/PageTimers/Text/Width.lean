/-
# Display width

How many columns a text takes up where each character has one, two or none.
Characters that join into one sign count once: an emoji with a modifier, a
variation selector or a joiner behind it, and a lam with its alef.
-/
import PageTimers.Text.Ranges

namespace PageTimers.Text

/-- The columns of a character that stands alone. -/
def charWidth (c : Char) : Nat :=
  if inRanges zeroWidth c then 0
  else if inRanges wide c then 2
  else 1

/-- The modifiers of emoji, which give a skin tone. -/
def isEmojiModifier (c : Char) : Bool := 0x1f3fb ≤ c.toNat && c.toNat ≤ 0x1f3ff

/-- Signs that are shown as a picture, two columns wide. -/
def isPicture (c : Char) : Bool :=
  let code := c.toNat
  inRanges wide c && ((0x231a ≤ code && code ≤ 0x2b55 && code != 0x2329 && code != 0x232a) ||
    (0x1f004 ≤ code && code ≤ 0x1faff && !(0x1f200 ≤ code && code ≤ 0x1f2ff)))

def isLam (c : Char) : Bool :=
  c.toNat == 0x644 || (0x6b5 ≤ c.toNat && c.toNat ≤ 0x6b8) || c.toNat == 0x76a ||
    c.toNat == 0x8a6 || c.toNat == 0x8c7

def isAlef (c : Char) : Bool :=
  [0x622, 0x623, 0x625, 0x627, 0x671, 0x672, 0x673, 0x675, 0x773, 0x774].contains c.toNat

/-- The last character that counted, as far as later ones depend on it. -/
inductive WidthState
  | plain
  | lam
  /-- A narrow sign that a selector can turn into a picture. -/
  | symbol
  | picture
  /-- A picture with a joiner behind it. -/
  | joined
  /-- A carriage return. -/
  | carriageReturn
deriving DecidableEq

/-- The state after a character that stands alone. -/
def WidthState.of (c : Char) : WidthState :=
  if isLam c then .lam
  else if isPicture c then .picture
  else if inRanges emojiText c then .symbol
  else if c = '\r' then .carriageReturn
  else .plain

/-- One more character: the columns so far and the state behind it. -/
def widthStep : Nat × WidthState → Char → Nat × WidthState
  | (total, state), c =>
    match c.toNat with
    | 0xfe0f => if state = .symbol then (total + 1, .picture) else (total, state)
    | 0xfe0e => if state = .picture then (total - 1, .symbol) else (total, state)
    | 0x200d => if state = .picture then (total, .joined) else (total, state)
    | _ =>
      if state = .picture && isEmojiModifier c then (total, state)
      else if state = .symbol && isEmojiModifier c then (total + 1, .picture)
      else if state = .joined && isPicture c then (total, .picture)
      else if state = .joined && inRanges emojiText c then (total, .picture)
      else if state = .lam && isAlef c then (total, .plain)
      else if state = .carriageReturn && c = '\n' then (total, .plain)
      else if charWidth c = 0 then (total, state)
      else (total + charWidth c, .of c)

/-- The columns that a text takes up. -/
def width (text : List Char) : Nat := (text.foldl widthStep (0, .plain)).1

end PageTimers.Text
