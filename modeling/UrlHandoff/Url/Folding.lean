import UrlHandoff.Text.Blank
import UrlHandoff.Url.Folding.EastAsian
import UrlHandoff.Url.Folding.Ideograph
import UrlHandoff.Url.Folding.Letter
import UrlHandoff.Url.Folding.Presentation
import UrlHandoff.Url.Folding.Run

/-!
Characters that a domain name does not tell apart. Each one folds to a text: a capital letter to
the small one, a styled or squeezed character to what it is made of, a full stop of another script
to the dot, and some to nothing.
-/

namespace UrlHandoff.Url

def ignored : CharRanges :=
  [(0xAD, 0xAD), (0x34F, 0x34F), (0x115F, 0x1160), (0x17B4, 0x17B5), (0x180B, 0x180F),
   (0x200B, 0x200B), (0x2060, 0x2064), (0x206A, 0x206F), (0x3164, 0x3164), (0xFE00, 0xFE0F),
   (0xFEFF, 0xFEFF), (0xFFA0, 0xFFA0), (0x1BCA0, 0x1BCA3), (0x1D173, 0x1D17A), (0xE0100, 0xE01EF)]

def FoldingRun.target? (run : FoldingRun) (c : Char) : Option (List Char) :=
  if run.first ≤ c.toNat ∧ c.toNat ≤ run.last ∧ (c.toNat - run.first) % run.stride = 0 then
    some [Char.ofNat (run.target + (c.toNat - run.first))]
  else none

def foldingRows : List FoldingRow :=
  (letterPassages ++ eastAsianPassages ++ presentationPassages ++ ideographPassages).map
    FoldingPassage.row

def fold (c : Char) : List Char :=
  if c.toNat < 0x80 then [c.toLower]
  else if ignored.contains c then []
  else
    ((foldingRuns.findSome? (·.target? c)).or (foldingRows.findSome? (·.target? c))).getD [c]

end UrlHandoff.Url
