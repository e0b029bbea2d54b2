import JsonTables.Text.WidthTable

/-!
# Display width

How many cells of a terminal a line of text takes.  East Asian wide characters
take two and combining characters none.  Emoji that are joined, toned or chosen
by a variation selector count as one sign, so the width of a character depends
on what follows it and a line is measured from its end.
-/

namespace JsonTables.Text

/-- What a character needs to know of the text after it. -/
inductive Following
  /-- Nothing that changes its width. -/
  | other
  /-- A sign that is shown as an emoji. -/
  | emoji
  /-- A joiner and then an emoji. -/
  | joinedEmoji
  /-- An emoji variation selector, before a joiner and an emoji if `joined`. -/
  | variation (joined : Bool)
  /-- A skin tone. -/
  | skinTone
  /-- An alef, possibly under marks. -/
  | alef
deriving DecidableEq

/-- The width of a character with nothing special after it. -/
def plainWidth (char : Char) : Nat × Following :=
  let code := char.toNat
  if code ≤ 0xA0 then (1, .other)
  else if code == 0xFE0F then (0, .variation false)
  else if 0x1F3FB ≤ code && code ≤ 0x1F3FF then (2, .skinTone)
  else if zeroWidthRanges.contains code then (0, .other)
  else if emojiRanges.contains code then (2, .emoji)
  else if wideRanges.contains code then (2, .other)
  else if alefRanges.contains code then (1, .alef)
  else (1, .other)

/-- The width of a character before what follows it, and what it is to the one before. -/
def widthBefore (char : Char) (following : Following) : Nat × Following :=
  let code := char.toNat
  match following with
  | .variation joined =>
      if textEmojiRanges.contains code || emojiRanges.contains code then
        (if joined then 0 else 2, .emoji)
      else plainWidth char
  | .emoji => if code == 0x200D then (0, .joinedEmoji) else plainWidth char
  | .joinedEmoji =>
      if code == 0xFE0F then (0, .variation true)
      else if 0x1F3FB ≤ code && code ≤ 0x1F3FF then (0, .skinTone)
      else if emojiRanges.contains code then (0, .emoji)
      else plainWidth char
  | .skinTone =>
      if emojiBaseRanges.contains code then (0, .emoji)
      else if code == 0x200D then (0, .joinedEmoji)
      else plainWidth char
  | .alef =>
      if code == 0x644 then (0, .other)
      else if zeroWidthRanges.contains code then (0, .alef)
      else plainWidth char
  | .other => plainWidth char

/-- The width of a line and what stands at its start. -/
def measure : List Char → Nat × Following
  | [] => (0, .other)
  | char :: rest =>
      let (width, following) := measure rest
      let (own, start) := widthBefore char following
      (own + width, start)

/-- The number of terminal cells that a line takes. -/
def displayWidth (line : String) : Nat :=
  (measure line.toList).1

end JsonTables.Text
