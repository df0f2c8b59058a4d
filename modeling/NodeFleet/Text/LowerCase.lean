import NodeFleet.Text.RunTable

/-!
Lower case.

`lower` writes a text in lower case by the full mapping of Unicode: one letter becomes two, and a
sigma at the end of a word has a form of its own.
-/

namespace NodeFleet.Text

/-- Letters with lower-case forms at equal distances: the first one, their number, the distance from
one to the next, and the lower-case form of the first. -/
structure CaseRun where
  first : Nat
  count : Nat
  step : Nat
  target : Nat

/-- The runs of a table: the distance from the run before, and the other fields. -/
def readCaseRuns (previous : Nat) : List (Nat × Nat × Nat × Nat) → List CaseRun
  | [] => []
  | (distance, count, step, target) :: rest =>
    ⟨previous + distance, count, step, target⟩ :: readCaseRuns (previous + distance) rest

/-- The letters that have one lower-case form of one letter. -/
def caseRuns : List CaseRun := readCaseRuns 0
    [(65, 26, 1, 97), (127, 23, 1, 224), (24, 7, 1, 248), (40, 24, 2, 257), (50, 3, 2, 307),
     (7, 8, 2, 314), (17, 23, 2, 331), (46, 1, 1, 255), (1, 3, 2, 378), (8, 1, 1, 595),
     (1, 2, 2, 387), (4, 1, 1, 596), (1, 1, 1, 392), (2, 2, 1, 598), (2, 1, 1, 396), (3, 1, 1, 477),
     (1, 1, 1, 601), (1, 1, 1, 603), (1, 1, 1, 402), (2, 1, 1, 608), (1, 1, 1, 611), (2, 1, 1, 617),
     (1, 1, 1, 616), (1, 1, 1, 409), (4, 1, 1, 623), (1, 1, 1, 626), (2, 1, 1, 629), (1, 3, 2, 417),
     (6, 1, 1, 640), (1, 1, 1, 424), (2, 1, 1, 643), (3, 1, 1, 429), (2, 1, 1, 648), (1, 1, 1, 432),
     (2, 2, 1, 650), (2, 2, 2, 436), (4, 1, 1, 658), (1, 1, 1, 441), (4, 1, 1, 445), (8, 1, 1, 454),
     (1, 1, 1, 454), (2, 1, 1, 457), (1, 1, 1, 457), (2, 1, 1, 460), (1, 9, 2, 460),
     (19, 9, 2, 479), (19, 1, 1, 499), (1, 2, 2, 499), (4, 1, 1, 405), (1, 1, 1, 447),
     (1, 20, 2, 505), (40, 1, 1, 414), (2, 9, 2, 547), (24, 1, 1, 11365), (1, 1, 1, 572),
     (2, 1, 1, 410), (1, 1, 1, 11366), (3, 1, 1, 578), (2, 1, 1, 384), (1, 1, 1, 649),
     (1, 1, 1, 652), (1, 5, 2, 583), (298, 2, 2, 881), (6, 1, 1, 887), (9, 1, 1, 1011),
     (7, 1, 1, 940), (2, 3, 1, 941), (4, 1, 1, 972), (2, 2, 1, 973), (3, 17, 1, 945),
     (18, 9, 1, 963), (44, 1, 1, 983), (9, 12, 2, 985), (28, 1, 1, 952), (3, 1, 1, 1016),
     (2, 1, 1, 1010), (1, 1, 1, 1019), (3, 3, 1, 891), (3, 16, 1, 1104), (16, 32, 1, 1072),
     (80, 17, 2, 1121), (42, 27, 2, 1163), (54, 1, 1, 1231), (1, 7, 2, 1218), (15, 48, 2, 1233),
     (97, 38, 1, 1377), (2927, 38, 1, 11520), (39, 1, 1, 11559), (6, 1, 1, 11565),
     (723, 80, 1, 43888), (80, 6, 1, 5112), (2201, 1, 1, 7306), (7, 43, 1, 4304), (45, 3, 1, 4349),
     (323, 75, 2, 7681), (158, 1, 1, 223), (2, 48, 2, 7841), (104, 8, 1, 7936), (16, 6, 1, 7952),
     (16, 8, 1, 7968), (16, 8, 1, 7984), (16, 6, 1, 8000), (17, 4, 2, 8017), (15, 8, 1, 8032),
     (32, 8, 1, 8064), (16, 8, 1, 8080), (16, 8, 1, 8096), (16, 2, 1, 8112), (2, 2, 1, 8048),
     (2, 1, 1, 8115), (12, 4, 1, 8050), (4, 1, 1, 8131), (12, 2, 1, 8144), (2, 2, 1, 8054),
     (14, 2, 1, 8160), (2, 2, 1, 8058), (2, 1, 1, 8165), (12, 2, 1, 8056), (2, 2, 1, 8060),
     (2, 1, 1, 8179), (298, 1, 1, 969), (4, 1, 1, 107), (1, 1, 1, 229), (7, 1, 1, 8526),
     (46, 16, 1, 8560), (35, 1, 1, 8580), (819, 26, 1, 9424), (1866, 48, 1, 11312),
     (96, 1, 1, 11361), (2, 1, 1, 619), (1, 1, 1, 7549), (1, 1, 1, 637), (3, 3, 2, 11368),
     (6, 1, 1, 593), (1, 1, 1, 625), (1, 1, 1, 592), (1, 1, 1, 594), (2, 1, 1, 11379),
     (3, 1, 1, 11382), (9, 2, 1, 575), (2, 50, 2, 11393), (107, 2, 2, 11500), (7, 1, 1, 11507),
     (31054, 23, 2, 42561), (64, 14, 2, 42625), (162, 7, 2, 42787), (16, 31, 2, 42803),
     (71, 2, 2, 42874), (4, 1, 1, 7545), (1, 5, 2, 42879), (13, 1, 1, 42892), (2, 1, 1, 613),
     (3, 2, 2, 42897), (6, 10, 2, 42903), (20, 1, 1, 614), (1, 1, 1, 604), (1, 1, 1, 609),
     (1, 1, 1, 620), (1, 1, 1, 618), (2, 1, 1, 670), (1, 1, 1, 647), (1, 1, 1, 669),
     (1, 1, 1, 43859), (1, 8, 2, 42933), (16, 1, 1, 42900), (1, 1, 1, 642), (1, 1, 1, 7566),
     (1, 2, 2, 42952), (4, 1, 1, 612), (1, 8, 2, 42957), (16, 1, 1, 411), (25, 1, 1, 42998),
     (22316, 26, 1, 65345), (1247, 40, 1, 66600), (176, 36, 1, 66776), (192, 11, 1, 66967),
     (12, 15, 1, 66979), (16, 7, 1, 66995), (8, 2, 1, 67003), (1772, 51, 1, 68800),
     (208, 22, 1, 68976), (2896, 32, 1, 71872), (21920, 32, 1, 93792), (96, 25, 1, 93883),
     (31328, 34, 1, 125218)]

/-- The lower-case form of a code point in a run. -/
def CaseRun.lower? (r : CaseRun) (n : Nat) : Option Nat :=
  if r.first ≤ n ∧ n < r.first + r.count * r.step ∧ (n - r.first) % r.step = 0 then
    some (r.target + (n - r.first))
  else none

/-- The characters with the property Cased. -/
def casedTable : RunTable := RunTable.ofLengths
    [65, 26, 6, 26, 47, 1, 10, 1, 4, 1, 5, 23, 1, 31, 1, 195, 1, 4, 4, 208, 2, 35, 7, 2, 30, 5, 96,
     1, 42, 4, 2, 2, 2, 4, 1, 1, 6, 1, 1, 3, 1, 1, 1, 20, 1, 83, 1, 139, 8, 166, 1, 38, 9, 41, 2839,
     38, 1, 1, 5, 1, 2, 43, 1, 4, 672, 86, 2, 6, 2178, 11, 5, 43, 2, 3, 64, 192, 64, 278, 2, 6, 2,
     38, 2, 6, 2, 8, 1, 1, 1, 1, 1, 1, 1, 31, 2, 53, 1, 7, 1, 1, 3, 3, 1, 7, 3, 4, 2, 6, 4, 13, 5,
     3, 1, 7, 116, 1, 13, 1, 16, 13, 101, 1, 4, 1, 2, 10, 1, 1, 3, 5, 6, 1, 1, 1, 1, 1, 1, 4, 1, 6,
     4, 1, 2, 4, 5, 5, 4, 1, 17, 32, 3, 2, 817, 52, 1814, 229, 6, 4, 3, 2, 12, 38, 1, 1, 5, 1,
     30994, 46, 18, 30, 132, 102, 3, 4, 1, 77, 20, 6, 1, 3, 821, 43, 1, 14, 6, 80, 20288, 7, 12, 5,
     1033, 26, 6, 26, 1189, 80, 96, 36, 4, 36, 116, 11, 1, 15, 1, 7, 1, 2, 1, 11, 1, 15, 1, 7, 1, 2,
     451, 1, 2, 3, 1, 42, 1, 9, 1221, 51, 13, 51, 93, 22, 10, 22, 2842, 64, 21856, 64, 32, 25, 2,
     25, 25900, 85, 1, 71, 1, 2, 2, 1, 2, 2, 2, 4, 1, 12, 1, 1, 1, 7, 1, 65, 1, 4, 2, 8, 1, 7, 1,
     28, 1, 4, 1, 5, 1, 1, 3, 7, 1, 340, 2, 25, 1, 25, 1, 31, 1, 25, 1, 31, 1, 25, 1, 31, 1, 25, 1,
     31, 1, 25, 1, 8, 1844, 10, 1, 20, 6, 6, 261, 62, 2194, 68, 2028, 26, 6, 26, 6, 26]

/-- The characters with the property Case_Ignorable. -/
def caseIgnorableTable : RunTable := RunTable.ofLengths
    [39, 1, 6, 1, 11, 1, 35, 1, 1, 1, 71, 1, 4, 1, 1, 1, 4, 1, 2, 2, 503, 192, 4, 2, 4, 1, 9, 2, 1,
     1, 251, 7, 207, 1, 5, 1, 49, 45, 1, 1, 1, 2, 1, 2, 1, 1, 44, 1, 11, 6, 10, 11, 1, 1, 35, 1, 10,
     21, 16, 1, 101, 8, 1, 10, 1, 4, 33, 1, 1, 1, 30, 27, 91, 11, 58, 11, 4, 1, 2, 1, 24, 24, 43, 3,
     44, 1, 7, 2, 5, 9, 41, 58, 55, 1, 1, 1, 4, 8, 4, 1, 3, 7, 10, 2, 13, 1, 15, 1, 58, 1, 4, 4, 8,
     1, 20, 2, 26, 1, 2, 2, 57, 1, 4, 2, 4, 2, 2, 3, 3, 1, 30, 2, 3, 1, 11, 2, 57, 1, 4, 5, 1, 2, 4,
     1, 20, 2, 22, 6, 1, 1, 58, 1, 2, 1, 1, 4, 8, 1, 7, 2, 11, 2, 30, 1, 61, 1, 12, 1, 50, 1, 3, 1,
     55, 1, 1, 3, 5, 3, 1, 4, 7, 2, 11, 2, 29, 1, 58, 1, 2, 1, 6, 1, 5, 2, 20, 2, 28, 2, 57, 2, 4,
     4, 8, 1, 20, 2, 29, 1, 72, 1, 7, 3, 1, 1, 90, 1, 2, 7, 11, 9, 98, 1, 2, 9, 9, 1, 1, 7, 73, 2,
     27, 1, 1, 1, 1, 1, 55, 14, 1, 5, 1, 2, 5, 11, 1, 36, 9, 1, 102, 4, 1, 6, 1, 2, 2, 2, 25, 2, 4,
     3, 16, 4, 13, 1, 2, 2, 6, 1, 15, 1, 94, 1, 608, 3, 946, 3, 29, 2, 30, 2, 30, 2, 64, 2, 1, 7, 8,
     1, 2, 11, 3, 1, 5, 1, 45, 5, 51, 1, 65, 2, 34, 1, 118, 3, 4, 2, 9, 1, 6, 3, 219, 2, 2, 1, 58,
     1, 1, 7, 1, 1, 1, 1, 2, 8, 6, 10, 2, 1, 39, 1, 8, 46, 2, 12, 20, 4, 48, 1, 1, 5, 1, 1, 5, 1,
     40, 9, 12, 2, 32, 4, 2, 2, 1, 3, 56, 1, 1, 2, 3, 1, 1, 3, 58, 8, 2, 2, 64, 6, 82, 3, 1, 13, 1,
     7, 4, 1, 6, 1, 3, 2, 50, 63, 13, 1, 34, 101, 445, 1, 1, 3, 11, 3, 13, 3, 13, 3, 13, 2, 12, 5,
     8, 2, 10, 1, 2, 1, 2, 5, 49, 5, 1, 10, 1, 1, 13, 1, 16, 13, 51, 33, 2955, 2, 113, 3, 125, 1,
     15, 1, 96, 32, 47, 1, 469, 1, 36, 4, 3, 5, 5, 1, 93, 6, 93, 3, 28438, 1, 1250, 6, 270, 1, 98,
     4, 1, 10, 1, 1, 28, 4, 80, 2, 14, 34, 78, 1, 23, 3, 102, 4, 3, 2, 8, 1, 3, 1, 4, 1, 25, 2, 5,
     1, 151, 2, 26, 18, 13, 1, 38, 8, 25, 11, 46, 3, 48, 1, 2, 4, 2, 2, 17, 1, 21, 2, 66, 6, 2, 2,
     2, 2, 12, 1, 8, 1, 35, 1, 11, 1, 51, 1, 1, 3, 2, 2, 5, 2, 1, 1, 27, 1, 14, 2, 5, 2, 1, 1, 100,
     5, 9, 3, 121, 1, 2, 1, 4, 1, 20272, 1, 147, 17, 573, 16, 3, 1, 12, 16, 34, 1, 2, 1, 169, 1, 7,
     1, 6, 1, 11, 1, 35, 1, 1, 1, 47, 1, 45, 2, 67, 1, 21, 3, 513, 1, 226, 1, 149, 5, 1029, 6, 1,
     42, 1, 9, 582, 3, 1, 2, 5, 4, 40, 3, 4, 1, 165, 2, 573, 4, 38, 1, 26, 5, 1, 1, 315, 2, 24, 1,
     52, 6, 70, 11, 49, 4, 123, 1, 54, 15, 41, 1, 2, 2, 10, 3, 49, 4, 2, 2, 2, 1, 4, 1, 10, 1, 50,
     3, 36, 5, 1, 8, 62, 1, 12, 2, 52, 9, 10, 4, 2, 1, 95, 3, 2, 1, 1, 2, 6, 1, 2, 1, 157, 1, 3, 8,
     21, 2, 57, 2, 3, 1, 37, 7, 3, 5, 70, 6, 13, 1, 1, 1, 1, 1, 14, 2, 85, 8, 2, 3, 1, 1, 23, 1, 84,
     6, 1, 1, 4, 2, 1, 2, 238, 4, 6, 2, 1, 2, 27, 2, 85, 8, 2, 1, 1, 2, 106, 1, 1, 1, 2, 6, 1, 1,
     101, 1, 1, 1, 2, 4, 1, 5, 259, 9, 1, 2, 256, 2, 1, 1, 4, 1, 144, 4, 2, 2, 4, 1, 32, 10, 40, 6,
     2, 4, 8, 1, 9, 6, 2, 3, 46, 13, 1, 2, 198, 1, 1, 3, 1, 1, 201, 7, 1, 6, 1, 1, 82, 22, 2, 7, 1,
     2, 1, 2, 122, 6, 3, 1, 1, 2, 1, 7, 1, 1, 72, 2, 3, 1, 1, 1, 65, 1, 281, 2, 11, 2, 52, 5, 5, 1,
     1, 1, 23, 1, 5333, 17, 6, 15, 11464, 12, 3, 3, 2496, 5, 59, 7, 9, 4, 508, 3, 40, 2, 482, 1, 63,
     17, 64, 2, 1, 2, 13, 2, 16380, 4, 1, 7, 1, 2, 3230, 2, 1, 4, 4700, 46, 2, 23, 544, 3, 9, 16, 2,
     7, 30, 4, 148, 3, 1979, 55, 4, 50, 8, 1, 14, 1, 22, 5, 1, 15, 1360, 7, 1, 17, 2, 7, 1, 2, 1, 5,
     5, 62, 33, 1, 160, 14, 368, 1, 61, 4, 507, 5, 254, 2, 243, 1, 2, 1, 7, 2, 5, 1, 9, 1, 464, 7,
     109, 8, 2735, 5, 789505, 1, 30, 96, 128, 240]

/-- The letter that becomes two. -/
def dottedCapitalI : Char := 'İ'

/-- The lower-case form of a character by itself. -/
def lowerChar (c : Char) : List Char :=
  if c = dottedCapitalI then ['i', Char.ofNat 0x307]
  else
    match caseRuns.findSome? fun r => r.lower? c.toNat with
    | some n => [Char.ofNat n]
    | none => [c]

/-- Whether a cased character comes first among those that are not ignored. -/
def casedAhead (cs : List Char) : Bool :=
  ((cs.dropWhile fun c => caseIgnorableTable.contains c.toNat).head?).any fun c =>
    casedTable.contains c.toNat

/-- Characters in lower case; `before` holds those before them, the last one first. -/
def lowerAfter (before : List Char) : List Char → List Char
  | [] => []
  | c :: cs =>
    let form := if c = 'Σ' then (if casedAhead before && !casedAhead cs then ['ς'] else ['σ'])
      else lowerChar c
    form ++ lowerAfter (c :: before) cs

/-- A text in lower case. -/
def lower (s : String) : String := String.ofList (lowerAfter [] s.toList)

end NodeFleet.Text
