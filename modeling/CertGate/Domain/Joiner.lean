import CertGate.Domain.Joiner.Table
import CertGate.Domain.Marks
import CertGate.Domain.Normal

/-!
# Joiners in a label

Two characters that cannot be seen say whether letters join. Each may stand only where it makes a
difference: behind a mark that suppresses a vowel, or, for the one that parts letters, between
letters that would join.
-/

namespace CertGate.Domain

namespace Joiner

/-- Marks that letters join across. -/
def isTransparent (c : Char) : Bool :=
  nonspacingMarks.contains c || c == Char.ofNat 0x1E94B

/-- Whether the character in front suppresses a vowel. `before` has the last character first. -/
def isBehindVirama (before : List Char) : Bool :=
  before.head?.any fun c => Normal.classOf c == 9

/-- Whether letters on both sides would join. `before` has the last character first. -/
def partsLetters (before behind : List Char) : Bool :=
  ((before.dropWhile isTransparent).head?.any fun c =>
      leftJoining.contains c || dualJoining.contains c)
    && (behind.dropWhile isTransparent).head?.any fun c =>
      rightJoining.contains c || dualJoining.contains c

end Joiner

/-- Whether every joiner stands where it may. `before` has the last character first. -/
def hasGoodJoiners (before : List Char) : List Char → Bool
  | [] => true
  | c :: cs =>
    -- the joiner that parts has one more place than the one that joins
    (if c == '\u200c' then
      Joiner.isBehindVirama before || Joiner.partsLetters before cs
    else c != '\u200d' || Joiner.isBehindVirama before)
      && hasGoodJoiners (c :: before) cs

end CertGate.Domain
