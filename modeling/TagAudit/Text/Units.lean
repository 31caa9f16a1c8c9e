import TagAudit.Text

/-!
# UTF-16 units and surrogate pairs

A code point above `0xFFFF` is two UTF-16 units, a high and a low surrogate, and every other code
point is one. Two texts that spell the same units need not be equal: an astral code point and the
two surrogates that stand for it differ as texts. `joinHalves` removes that difference by reading
each high surrogate and the low one after it as the code point they denote, from the left.
-/

namespace TagAudit.Text

/-- The code point that a high and a low surrogate denote together. -/
def ofHalves (high low : CodePoint) : CodePoint :=
  CodePoint.ofNat (0x10000 + (high.val - 0xD800) * 0x400 + (low.val - 0xDC00))

/-- The UTF-16 units of one code point. -/
def unitsOf (c : CodePoint) : List Nat :=
  if c.val < 0x10000 then [c.val]
  else [0xD800 + (c.val - 0x10000) / 0x400, 0xDC00 + (c.val - 0x10000) % 0x400]

/-- The UTF-16 units of a text, in which a lone surrogate is its own unit. -/
def units16 (t : Text) : List Nat := t.flatMap unitsOf

/-- Reads each high surrogate that a low one follows as the code point they denote. -/
def joinHalves : Text → Text
  | high :: low :: rest =>
    if high.isHighSurrogate && low.isLowSurrogate then ofHalves high low :: joinHalves rest
    else high :: joinHalves (low :: rest)
  | t => t

end TagAudit.Text
