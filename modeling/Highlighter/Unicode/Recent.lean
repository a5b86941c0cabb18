import Highlighter.Unicode.Property

/-!
# The most recent characters

The classes of regular expressions know the characters of version 16 of the standard. What is done
to a text as such, which is to name a group, to lower the case of a file type and to show a token,
knows those of version 17. Here is what version 17 added to the sets that this takes, and the one
letter that it took away.
-/

namespace Highlighter.Unicode.Recent

/-! ## Additions -/

/-- The new characters. -/
def added : CharSet := rangeTable
  "88f c5c cdc 1acf-1add 1ae0-1aeb 20c1 2b96 a7ce-a7cf a7d2 a7d4 a7f1 fbc3-fbd2 fd90-fd91
   fdc8-fdce 10940-10959 10ec5-10ec7 10ed0-10ed8 10efa-10efb 11b60-11b67 11db0-11ddb 11de0-11de9
   16ea0-16eb8 16ebb-16ed3 16ff2-16ff6 187f8-187ff 18d09-18d1e 18d80-18df2 1ccfa-1ccfc 1ceba-1ced0
   1cee0-1cef0 1e6c0-1e6de 1e6e0-1e6f5 1e6fe-1e6ff 1f6d8 1f777-1f77a 1f8d0-1f8d8 1fa54-1fa57 1fa8a
   1fa8e 1fac8 1facd 1faea 1faef 1fbfa 2b73a-2b73f 2cea2-2cead 323b0-33479"

/-- The new alphabetic characters. -/
def addedAlphabetic : CharSet := rangeTable
  "88f c5c cdc a7ce-a7cf a7d2 a7d4 a7f1 10940-10959 10ec5-10ec7 10efa-10efb 11b60-11b67
   11db0-11ddb 16ea0-16eb8 16ebb-16ed3 16ff2-16ff6 187f8-187ff 18d09-18d1e 18d80-18df2 1e6c0-1e6de
   1e6e0-1e6f5 1e6fe-1e6ff 2b73a-2b73f 2cea2-2cead 323b0-33479"

/-- The new numbers. -/
def addedNumbers : CharSet := rangeTable
  "11de0-11de9 16ff4-16ff6"

/-- The new characters that have case. -/
def addedCased : CharSet := rangeTable
  "a7ce-a7cf a7d2 a7d4 a7f1 16ea0-16eb8 16ebb-16ed3"

/-- The new characters that casing skips. -/
def addedCaseIgnorable : CharSet := rangeTable
  "1acf-1add 1ae0-1aeb a7f1 10ec5 10efa-10efb 11b60 11b62-11b64 11b66 11dd9 16ff2-16ff3 1e6e3
   1e6e6 1e6ee-1e6ef 1e6f5 1e6ff"

/-- The new marks that extend the character before them. -/
def addedExtending : CharSet := rangeTable
  "1acf-1add 1ae0-1aeb 10efa-10efb 11b60 11b62-11b64 11b66 1e6e3 1e6e6 1e6ee-1e6ef 1e6f5"

/-- The new characters with another lower-case form, and that form. -/
def addedLowercaseRanges : String :=
  "a7ce:a7cf a7d2-a7d4/2:a7d3 16ea0-16eb8:16ebb"

/-! ## The sets of the later version -/

/-- Alphabetic characters. -/
def alphabetic : CharSet := Unicode.alphabetic.union addedAlphabetic

/-- Letters and numbers in the wide sense. -/
def alphanumeric : CharSet := (alphabetic.union numbers).union addedNumbers

/-- Characters that have case. One letter has lost it. -/
def cased : CharSet := (Unicode.cased.diff (.range 0x295 0x295)).union addedCased

/-- Characters that casing skips. -/
def caseIgnorable : CharSet := Unicode.caseIgnorable.union addedCaseIgnorable

/-- The pairs of a character and its different lower-case form, in ascending order. -/
def lowercasePairs : Array (Nat × Nat) :=
  (Unicode.lowercasePairs ++ mappingTable addedLowercaseRanges).toList.mergeSort
    (fun p q ↦ p.1 ≤ q.1) |>.toArray

/-- Marks that extend the character before them. -/
def extending : CharSet :=
  (graphemeExtend.inter (ofCategories ["Mn", "Mc", "Me"])).union addedExtending

/-- Characters that can be shown: no controls, formats, private or unassigned ones, none that may be
ignored, and of the separators only the space. -/
def printable : CharSet :=
  (((ofCategories ["Cc", "Cf", "Cs", "Co", "Cn", "Zl", "Zp", "Zs"]).diff added).union
    defaultIgnorable).complement.union (.single ' ')

end Highlighter.Unicode.Recent
