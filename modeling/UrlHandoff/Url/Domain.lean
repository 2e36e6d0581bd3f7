import UrlHandoff.Text.Composition
import UrlHandoff.Text.Unprintable
import UrlHandoff.Url.Direction
import UrlHandoff.Url.Folding
import UrlHandoff.Url.Joiner
import UrlHandoff.Url.Percent
import UrlHandoff.Url.Punycode

namespace UrlHandoff.Url

def isForbiddenInDomain (c : Char) : Bool :=
  isC0OrDelete c || " %#/:<>?@[\\]^|".toList.contains c

def refused : CharRanges :=
  [(0xA8, 0xA8), (0xAF, 0xAF), (0xB4, 0xB4), (0xB8, 0xB8), (0x2D8, 0x2DD), (0x37A, 0x37A),
   (0x384, 0x385), (0x1FBD, 0x1FBD), (0x1FBF, 0x1FC1), (0x1FCD, 0x1FCF), (0x1FDD, 0x1FDF),
   (0x1FED, 0x1FEE), (0x1FFD, 0x1FFE), (0x2017, 0x2017), (0x2024, 0x2026), (0x203E, 0x203E),
   (0x2047, 0x2049), (0x2100, 0x2101), (0x2105, 0x2106), (0x2488, 0x249B), (0x2A74, 0x2A74),
   (0x2FF0, 0x2FFF), (0x309B, 0x309C), (0x31EF, 0x31EF), (0x33C2, 0x33C2), (0x33C7, 0x33C7),
   (0x33D8, 0x33D8), (0xFC5E, 0xFC63), (0xFDFA, 0xFDFB), (0xFE12, 0xFE12), (0xFE19, 0xFE19),
   (0xFE30, 0xFE30), (0xFE49, 0xFE4C), (0xFE52, 0xFE52), (0xFE70, 0xFE70), (0xFE72, 0xFE72),
   (0xFE74, 0xFE74), (0xFE76, 0xFE76), (0xFE78, 0xFE78), (0xFE7A, 0xFE7A), (0xFE7C, 0xFE7C),
   (0xFE7E, 0xFE7E), (0xFFE3, 0xFFE3), (0xFFFC, 0xFFFD), (0x1F100, 0x1F100)]

def recent : CharRanges :=
  [(0x5C8, 0x5C8), (0xB53, 0xB54), (0x1ADE, 0x1ADF), (0x1AEC, 0x1AFF), (0x20C2, 0x20C4),
   (0x2E60, 0x2E6F), (0x10ECB, 0x10ECB), (0x10EF0, 0x10EF9), (0x11B0A, 0x11B0A),
   (0x1246F, 0x1246F), (0x12550, 0x12686), (0x16D80, 0x16DAF), (0x18E00, 0x191DF),
   (0x1CED2, 0x1CEDF), (0x1D250, 0x1D28F), (0x1DB00, 0x1DBFF), (0x1DF1F, 0x1DF24),
   (0x1DF2B, 0x1DF57), (0x1F1AE, 0x1F1AE), (0x1F6D9, 0x1F6D9), (0x1FA8B, 0x1FA8D),
   (0x1FACC, 0x1FACC), (0x1FADD, 0x1FADD), (0x1FAEB, 0x1FAEB), (0x1FAF9, 0x1FAFA),
   (0x2B81E, 0x2B81E), (0x3D000, 0x3FC3F)]

def isDomainChar (c : Char) : Bool :=
  if c.toNat < 0x80 then !isForbiddenInDomain c
  else if c = joiner ∨ c = nonjoiner then true
  else
    decide (0xA0 ≤ c.toNat) && (!Text.unprintable.contains c || recent.contains c) &&
      !refused.contains c

def isAscii (label : List Char) : Bool := label.all (·.toNat < 0x80)

def acePrefix : List Char := ['x', 'n', '-', '-']

def isFolded (label : List Char) : Bool :=
  label.all (fun c => fold c == [c]) && Text.compose label == label

def longestEncoded : Nat := 2000

def longestPlain : Nat := 1000

def plainLabel? (label : List Char) : Option (List Char) :=
  if acePrefix.isPrefixOf label then
    let encoded := label.drop acePrefix.length
    if encoded.length > longestEncoded then none
    else (Punycode.decode encoded).filter fun plain => !isAscii plain && isFolded plain
  else some label

def isProperLength (label : List Char) : Bool :=
  isAscii label || decide (label.length ≤ longestPlain)

def isProperLabel (label : List Char) : Bool :=
  label.all isDomainChar && !(label.head?.map Text.isMark).getD false &&
    hasProperJoiners label && isProperLength label

def asciiLabel (label : List Char) : List Char :=
  if isAscii label then label else acePrefix ++ Punycode.encode label

def domainToAscii (domain : List Char) : Option (List Char) := do
  let labels := (Text.compose (domain.flatMap fold)).splitOn '.'
  let plain ← labels.mapM plainLabel?
  if plain.all isProperLabel && isDirected plain then
    some (List.intercalate ['.'] (labels.map asciiLabel))
  else none

end UrlHandoff.Url
