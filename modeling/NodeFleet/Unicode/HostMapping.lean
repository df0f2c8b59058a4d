import NodeFleet.Text.RunTable

/-!
The mapping of the characters of host names.

Each character is valid in a host name, or is left out, or stands for others, or is disallowed.
The table lists runs of code points, with a letter for each kind of run: `v`, `i` and `x` with a
length for valid, left out and disallowed ones; `s` with a length and the code point that the first
one stands for, the others following in step; `c` with a length and the one code point that all
stand for; `p` with a number of pairs of a character that stands for the next one, which is valid;
and `m` with the code points that a single one stands for.
-/

namespace NodeFleet.Unicode

/-- What becomes of a run of characters. -/
inductive HostRun where
  | valid
  | ignored
  | disallowed
  | shifted (first : Nat)
  | constant (target : Nat)
  | pairs
  | mapped (targets : List Nat)

/-- What becomes of one character. -/
inductive HostStatus where
  | valid
  | ignored
  | disallowed
  | mapped (targets : List Char)
  deriving DecidableEq, Repr

namespace HostRun

/-! The runs of the table, with their lengths. -/

def v (length : Nat) : Nat × HostRun := (length, valid)
def i (length : Nat) : Nat × HostRun := (length, ignored)
def x (length : Nat) : Nat × HostRun := (length, disallowed)
def s (length first : Nat) : Nat × HostRun := (length, shifted first)
def c (length target : Nat) : Nat × HostRun := (length, constant target)
def p (count : Nat) : Nat × HostRun := (2 * count, pairs)
def m (targets : List Nat) : Nat × HostRun := (1, mapped targets)

end HostRun

section

open HostRun

/-- The runs of code points from 0x0 to 0x1CC7. -/
def hostRuns0 : List (Nat × HostRun) :=
    [v 65, s 26 97, v 37, x 32, m [32], v 7, m [32, 776], v 1, m [97], v 2, i 1, v 1, m [32, 772],
     v 2, s 2 50, m [32, 769], m [956], v 2, m [32, 807], m [49], m [111], v 1, m [49, 8260, 52],
     m [49, 8260, 50], m [51, 8260, 52], v 1, s 23 224, v 1, s 7 248, v 33, p 24, m [105, 775], v 1,
     m [105, 106], m [105, 106], p 2, v 1, p 3, m [108, 183], m [108, 183], p 4, m [700, 110], p 23,
     m [255], p 3, m [115], v 1, m [595], p 2, m [596], m [392], v 1, s 2 598, m [396], v 2,
     m [477], m [601], m [603], m [402], v 1, m [608], m [611], v 1, m [617], m [616], m [409], v 3,
     m [623], m [626], v 1, m [629], p 3, m [640], m [424], v 1, m [643], v 2, m [429], v 1,
     m [648], m [432], v 1, s 2 650, p 2, m [658], m [441], v 3, m [445], v 7, m [100, 382],
     m [100, 382], m [100, 382], m [108, 106], m [108, 106], m [108, 106], m [110, 106],
     m [110, 106], m [110, 106], p 8, v 1, p 9, v 1, m [100, 122], m [100, 122], m [100, 122],
     m [501], v 1, m [405], m [447], p 20, m [414], v 1, p 9, v 6, m [11365], m [572], v 1, m [410],
     m [11366], v 2, m [578], v 1, m [384], m [649], m [652], p 5, v 96, m [104], m [614], m [106],
     m [114], m [633], m [635], m [641], m [119], m [121], v 31, m [32, 774], m [32, 775],
     m [32, 778], m [32, 808], m [32, 771], m [32, 779], v 2, m [611], m [108], m [115], m [120],
     m [661], v 91, s 2 768, v 1, m [787], m [776, 769], m [953], v 9, i 1, v 32, p 2, m [697], v 1,
     m [887], v 1, x 2, m [32, 953], v 3, m [59], m [1011], x 4, m [32, 769], m [32, 776, 769],
     m [940], m [183], s 3 941, x 1, m [972], x 1, s 2 973, v 1, s 17 945, x 1, s 9 963, v 35,
     m [983], m [946], m [952], m [965], m [973], m [971], m [966], m [960], v 1, p 12, m [954],
     m [961], m [963], v 1, m [952], m [949], v 1, m [1016], v 1, m [963], m [1019], v 2, s 3 891,
     s 16 1104, s 32 1072, v 48, p 17, v 8, p 27, m [1231], p 7, v 1, p 48, x 1, s 38 1377, x 2,
     v 46, m [1381, 1410], v 3, x 2, v 3, x 1, v 55, x 8, v 27, x 4, v 6, x 17, v 22, x 1, v 88,
     m [1575, 1652], m [1608, 1652], m [1735, 1652], m [1610, 1652], v 100, x 1, v 48, x 2, v 59,
     x 2, v 101, x 14, v 59, x 2, v 49, x 2, v 15, x 1, v 28, x 2, v 1, x 1, v 11, x 5, v 32, x 7,
     v 75, x 1, v 117, m [2325, 2364], m [2326, 2364], m [2327, 2364], m [2332, 2364],
     m [2337, 2364], m [2338, 2364], m [2347, 2364], m [2351, 2364], v 36, x 1, v 8, x 2, v 2, x 2,
     v 22, x 1, v 7, x 1, v 1, x 3, v 4, x 2, v 9, x 2, v 2, x 2, v 4, x 8, v 1, x 4,
     m [2465, 2492], m [2466, 2492], x 1, m [2479, 2492], v 4, x 2, v 25, x 2, v 3, x 1, v 6, x 4,
     v 2, x 2, v 22, x 1, v 7, x 1, v 1, m [2610, 2620], x 1, v 1, m [2616, 2620], x 1, v 2, x 2,
     v 1, x 1, v 5, x 4, v 2, x 2, v 3, x 3, v 1, x 7, m [2582, 2620], m [2583, 2620],
     m [2588, 2620], v 1, x 1, m [2603, 2620], x 7, v 17, x 10, v 3, x 1, v 9, x 1, v 3, x 1, v 22,
     x 1, v 7, x 1, v 2, x 1, v 5, x 2, v 10, x 1, v 3, x 1, v 3, x 2, v 1, x 15, v 4, x 2, v 12,
     x 7, v 7, x 1, v 3, x 1, v 8, x 2, v 2, x 2, v 22, x 1, v 7, x 1, v 2, x 1, v 5, x 2, v 9, x 2,
     v 2, x 2, v 3, x 7, v 3, x 4, m [2849, 2876], m [2850, 2876], x 1, v 5, x 2, v 18, x 10, v 2,
     x 1, v 6, x 3, v 3, x 1, v 4, x 3, v 2, x 1, v 1, x 1, v 2, x 3, v 2, x 3, v 3, x 3, v 12, x 4,
     v 5, x 3, v 3, x 1, v 4, x 2, v 1, x 6, v 1, x 14, v 21, x 5, v 13, x 1, v 3, x 1, v 23, x 1,
     v 16, x 2, v 9, x 1, v 3, x 1, v 4, x 7, v 2, x 1, v 3, x 1, v 2, x 2, v 4, x 2, v 10, x 7,
     v 22, x 1, v 3, x 1, v 23, x 1, v 10, x 1, v 5, x 2, v 9, x 1, v 3, x 1, v 4, x 7, v 2, x 5,
     v 3, x 1, v 4, x 2, v 10, x 1, v 3, x 12, v 13, x 1, v 3, x 1, v 51, x 1, v 3, x 1, v 6, x 4,
     v 16, x 2, v 26, x 1, v 3, x 1, v 18, x 3, v 24, x 1, v 9, x 1, v 1, x 2, v 7, x 3, v 1, x 4,
     v 6, x 1, v 1, x 1, v 8, x 6, v 10, x 2, v 3, x 12, v 50, m [3661, 3634], v 7, x 4, v 29, x 37,
     v 2, x 1, v 1, x 1, v 5, x 1, v 24, x 1, v 1, x 1, v 12, m [3789, 3762], v 10, x 2, v 5, x 1,
     v 1, x 1, v 7, x 1, v 10, x 2, m [3755, 3737], m [3755, 3745], v 2, x 32, v 12, m [3851], v 54,
     m [3906, 4023], v 4, x 1, v 4, m [3916, 4023], v 4, m [3921, 4023], v 4, m [3926, 4023], v 4,
     m [3931, 4023], v 12, m [3904, 4021], v 3, x 4, v 2, m [3953, 3954], v 1, m [3953, 3956],
     m [4018, 3968], m [4018, 3953, 3968], m [4019, 3968], m [4019, 3953, 3968], v 7,
     m [3953, 3968], v 17, m [3986, 4023], v 4, x 1, v 4, m [3996, 4023], v 4, m [4001, 4023], v 4,
     m [4006, 4023], v 4, m [4011, 4023], v 12, m [3984, 4021], v 3, x 1, v 15, x 1, v 13, x 37,
     v 160, s 38 11520, x 1, m [11559], x 5, m [11565], x 2, v 44, m [4316], v 98, i 2, v 232, x 1,
     v 4, x 2, v 7, x 1, v 1, x 1, v 4, x 2, v 41, x 1, v 4, x 2, v 33, x 1, v 4, x 2, v 7, x 1,
     v 1, x 1, v 4, x 2, v 15, x 1, v 57, x 1, v 4, x 2, v 67, x 2, v 32, x 3, v 26, x 6, v 86, x 2,
     s 6 5104, x 2, v 640, x 1, v 28, x 3, v 89, x 7, v 22, x 9, v 24, x 9, v 20, x 12, v 13, x 1,
     v 3, x 1, v 2, x 12, v 52, i 2, v 40, x 2, v 10, x 6, v 10, x 6, v 11, i 5, v 10, x 6, v 89,
     x 7, v 43, x 5, v 70, x 10, v 31, x 1, v 12, x 4, v 12, x 4, v 1, x 3, v 42, x 2, v 5, x 11,
     v 44, x 4, v 26, x 6, v 11, x 3, v 62, x 2, v 65, x 1, v 29, x 2, v 11, x 6, v 10, x 6, v 14,
     x 2, v 46, x 2, v 12, x 20, v 77, x 1, v 166, x 8, v 60, x 3, v 15, x 3, v 51, m [1074],
     m [1076], m [1086], s 2 1089, m [1090], m [1098], m [1123], m [42571], m [7306], v 1, x 5,
     s 43 4304, x 2, s 3 4349, v 8]

/-- The runs of code points from 0x1CC8 to 0x2FB1. -/
def hostRuns1 : List (Nat × HostRun) :=
    [x 8, v 43, x 5, v 44, m [97], m [230], m [98], v 1, s 2 100, m [477], s 8 103, v 1, m [111],
     m [547], m [112], m [114], s 2 116, m [119], m [97], s 2 592, m [7426], m [98], s 2 100,
     m [601], s 2 603, m [103], v 1, m [107], m [109], m [331], m [111], m [596], s 2 7446, m [112],
     s 2 116, m [7453], m [623], m [118], m [7461], s 3 946, s 2 966, m [105], m [114], s 2 117,
     s 2 946, m [961], s 2 966, v 13, m [1085], v 34, m [594], m [99], m [597], m [240], m [604],
     m [102], m [607], m [609], m [613], s 3 616, m [7547], m [669], m [621], m [7557], m [671],
     m [625], m [624], s 4 626, m [632], s 2 642, m [427], s 2 649, m [7452], s 2 651, m [122],
     s 3 656, m [952], v 64, p 75, v 4, m [97, 702], m [7777], v 2, m [223], v 1, p 48, v 8,
     s 8 7936, v 6, x 2, s 6 7952, x 2, v 8, s 8 7968, v 8, s 8 7984, v 6, x 2, s 6 8000, x 2, v 8,
     x 1, m [8017], x 1, m [8019], x 1, m [8021], x 1, m [8023], v 8, s 8 8032, v 1, m [940], v 1,
     m [941], v 1, m [942], v 1, m [943], v 1, m [972], v 1, m [973], v 1, m [974], x 2,
     m [7936, 953], m [7937, 953], m [7938, 953], m [7939, 953], m [7940, 953], m [7941, 953],
     m [7942, 953], m [7943, 953], m [7936, 953], m [7937, 953], m [7938, 953], m [7939, 953],
     m [7940, 953], m [7941, 953], m [7942, 953], m [7943, 953], m [7968, 953], m [7969, 953],
     m [7970, 953], m [7971, 953], m [7972, 953], m [7973, 953], m [7974, 953], m [7975, 953],
     m [7968, 953], m [7969, 953], m [7970, 953], m [7971, 953], m [7972, 953], m [7973, 953],
     m [7974, 953], m [7975, 953], m [8032, 953], m [8033, 953], m [8034, 953], m [8035, 953],
     m [8036, 953], m [8037, 953], m [8038, 953], m [8039, 953], m [8032, 953], m [8033, 953],
     m [8034, 953], m [8035, 953], m [8036, 953], m [8037, 953], m [8038, 953], m [8039, 953], v 2,
     m [8048, 953], m [945, 953], m [940, 953], x 1, v 1, m [8118, 953], s 2 8112, m [8048],
     m [940], m [945, 953], m [32, 787], m [953], m [32, 787], m [32, 834], m [32, 776, 834],
     m [8052, 953], m [951, 953], m [942, 953], x 1, v 1, m [8134, 953], m [8050], m [941],
     m [8052], m [942], m [951, 953], m [32, 787, 768], m [32, 787, 769], m [32, 787, 834], v 3,
     m [912], x 2, v 2, s 2 8144, m [8054], m [943], x 1, m [32, 788, 768], m [32, 788, 769],
     m [32, 788, 834], v 3, m [944], v 4, s 2 8160, m [8058], m [973], m [8165], m [32, 776, 768],
     m [32, 776, 769], m [96], x 2, m [8060, 953], m [969, 953], m [974, 953], x 1, v 1,
     m [8182, 953], m [8056], m [972], m [8060], m [974], m [969, 953], m [32, 769], m [32, 788],
     x 1, c 11 32, i 1, v 2, x 2, v 1, m [8208], v 5, m [32, 819], v 12, x 3, v 1, x 7, m [32], v 3,
     m [8242, 8242], m [8242, 8242, 8242], v 1, m [8245, 8245], m [8245, 8245, 8245], v 4,
     m [33, 33], v 1, m [32, 773], v 8, m [63, 63], m [63, 33], m [33, 63], v 13,
     m [8242, 8242, 8242, 8242], v 7, m [32], i 5, x 5, i 6, m [48], m [105], x 2, s 6 52, m [43],
     m [8722], m [61], s 2 40, m [110], s 10 48, m [43], m [8722], m [61], s 2 40, x 1, m [97],
     m [101], m [111], m [120], m [601], m [104], s 4 107, m [112], s 2 115, x 3, v 8, m [114, 115],
     v 25, x 14, v 33, x 15, m [97, 47, 99], m [97, 47, 115], m [99], m [176, 99], v 1,
     m [99, 47, 111], m [99, 47, 117], m [603], v 1, m [176, 102], s 2 103, c 3 104, m [295],
     c 2 105, c 2 108, v 1, m [110], m [110, 111], v 2, s 3 112, c 2 114, v 2, m [115, 109],
     m [116, 101, 108], m [116, 109], v 1, m [122], v 1, m [969], v 1, m [122], v 1, m [107],
     m [229], s 2 98, v 1, c 2 101, m [102], m [8526], m [109], m [111], s 4 1488, m [105], v 1,
     m [102, 97, 120], m [960], c 2 947, m [960], m [8721], v 4, c 2 100, m [101], s 2 105, v 6,
     m [49, 8260, 55], m [49, 8260, 57], m [49, 8260, 49, 48], m [49, 8260, 51], m [50, 8260, 51],
     m [49, 8260, 53], m [50, 8260, 53], m [51, 8260, 53], m [52, 8260, 53], m [49, 8260, 54],
     m [53, 8260, 54], m [49, 8260, 56], m [51, 8260, 56], m [53, 8260, 56], m [55, 8260, 56],
     m [49, 8260], m [105], m [105, 105], m [105, 105, 105], m [105, 118], m [118], m [118, 105],
     m [118, 105, 105], m [118, 105, 105, 105], m [105, 120], m [120], m [120, 105],
     m [120, 105, 105], m [108], s 2 99, m [109], m [105], m [105, 105], m [105, 105, 105],
     m [105, 118], m [118], m [118, 105], m [118, 105, 105], m [118, 105, 105, 105], m [105, 120],
     m [120], m [120, 105], m [120, 105, 105], m [108], s 2 99, m [109], v 3, m [8580], v 5,
     m [48, 8260, 51], v 2, x 4, v 156, m [8747, 8747], m [8747, 8747, 8747], v 1, m [8750, 8750],
     m [8750, 8750, 8750], v 248, s 2 12296, v 255, x 22, v 11, x 21, s 9 49, m [49, 48],
     m [49, 49], m [49, 50], m [49, 51], m [49, 52], m [49, 53], m [49, 54], m [49, 55], m [49, 56],
     m [49, 57], m [50, 48], m [40, 49, 41], m [40, 50, 41], m [40, 51, 41], m [40, 52, 41],
     m [40, 53, 41], m [40, 54, 41], m [40, 55, 41], m [40, 56, 41], m [40, 57, 41],
     m [40, 49, 48, 41], m [40, 49, 49, 41], m [40, 49, 50, 41], m [40, 49, 51, 41],
     m [40, 49, 52, 41], m [40, 49, 53, 41], m [40, 49, 54, 41], m [40, 49, 55, 41],
     m [40, 49, 56, 41], m [40, 49, 57, 41], m [40, 50, 48, 41], x 20, m [40, 97, 41],
     m [40, 98, 41], m [40, 99, 41], m [40, 100, 41], m [40, 101, 41], m [40, 102, 41],
     m [40, 103, 41], m [40, 104, 41], m [40, 105, 41], m [40, 106, 41], m [40, 107, 41],
     m [40, 108, 41], m [40, 109, 41], m [40, 110, 41], m [40, 111, 41], m [40, 112, 41],
     m [40, 113, 41], m [40, 114, 41], m [40, 115, 41], m [40, 116, 41], m [40, 117, 41],
     m [40, 118, 41], m [40, 119, 41], m [40, 120, 41], m [40, 121, 41], m [40, 122, 41], s 26 97,
     s 26 97, m [48], v 1313, m [8747, 8747, 8747, 8747], v 103, m [58, 58, 61], m [61, 61],
     m [61, 61, 61], v 101, m [10973, 824], v 151, x 2, v 138, s 48 11312, v 48, m [11361], v 1,
     m [619], m [7549], m [637], v 2, p 3, m [593], m [625], m [592], m [594], v 1, m [11379], v 2,
     m [11382], v 6, m [106], m [118], s 2 575, p 50, v 7, p 2, v 3, m [11507], v 1, x 5, v 45, x 1,
     v 1, x 5, v 1, x 2, v 56, x 7, m [11617], v 1, x 14, v 24, x 9, v 7, x 1, v 7, x 1, v 7, x 1,
     v 7, x 1, v 7, x 1, v 7, x 1, v 7, x 1, v 7, x 1, v 126, x 34, v 26, x 1, v 4, m [27597], v 83,
     m [40863], x 12, m [19968], m [20008], m [20022], m [20031], m [20057], m [20101], m [20108],
     m [20128], m [20154], m [20799], m [20837], m [20843], m [20866], m [20886], m [20907],
     m [20960], m [20981], m [20992], m [21147], m [21241], m [21269], m [21274], m [21304],
     m [21313], m [21340], m [21353], m [21378], m [21430], m [21448], m [21475], m [22231],
     m [22303], m [22763], m [22786], m [22794], m [22805], m [22823], m [22899], m [23376],
     m [23424], m [23544], m [23567], m [23586], m [23608], m [23662], m [23665], m [24027],
     m [24037], m [24049], m [24062], m [24178], m [24186], m [24191], m [24308], m [24318],
     m [24331], m [24339], m [24400], m [24417], m [24435], m [24515], m [25096], m [25142],
     m [25163], m [25903], m [25908], m [25991], m [26007], m [26020], m [26041], m [26080],
     m [26085], m [26352], m [26376], m [26408], m [27424], m [27490], m [27513], m [27571],
     m [27595], m [27604], m [27611], m [27663], m [27668], m [27700], m [28779], m [29226],
     m [29238], m [29243], m [29247], m [29255], m [29273], m [29275], m [29356], m [29572],
     m [29577], m [29916], m [29926], m [29976], m [29983], m [29992], m [30000], m [30091],
     m [30098], m [30326], m [30333], m [30382], m [30399], m [30446], m [30683], m [30690],
     m [30707], m [31034], m [31160], m [31166], m [31348], m [31435], m [31481], m [31859],
     m [31992], m [32566], m [32593], m [32650], m [32701], m [32769], m [32780], m [32786],
     m [32819], m [32895], m [32905], m [33251], m [33258], m [33267], m [33276], m [33292],
     m [33307], m [33311], m [33390], m [33394], m [33400], m [34381], m [34411], m [34880],
     m [34892], m [34915], m [35198], m [35211], m [35282], m [35328], m [35895], m [35910],
     m [35925], m [35960], m [35997], m [36196], m [36208], m [36275], m [36523], m [36554],
     m [36763], m [36784], m [36789], m [37009], m [37193], m [37318], m [37324], m [37329],
     m [38263], m [38272], m [38428], m [38582], m [38585], m [38632], m [38737], m [38750],
     m [38754], m [38761], m [38859]]

/-- The runs of code points from 0x2FB2 to 0xF919. -/
def hostRuns2 : List (Nat × HostRun) :=
    [m [38893], m [38899], m [38913], m [39080], m [39131], m [39135], m [39318], m [39321],
     m [39340], m [39592], m [39640], m [39647], m [39717], m [39727], m [39730], m [39740],
     m [39770], m [40165], m [40565], m [40575], m [40613], m [40635], m [40643], m [40653],
     m [40657], m [40697], m [40701], m [40718], m [40723], m [40736], m [40763], m [40778],
     m [40786], m [40845], m [40860], m [40864], x 42, m [32], v 1, m [46], v 51, m [12306], v 1,
     m [21313], s 2 21316, v 5, x 1, v 86, x 2, v 2, m [32, 12441], m [32, 12442], v 2,
     m [12424, 12426], v 95, m [12467, 12488], x 5, v 43, x 1, s 2 4352, m [4522], m [4354],
     s 2 4524, s 3 4355, s 6 4528, m [4378], s 3 4358, m [4385], s 10 4361, s 21 4449, i 1,
     s 2 4372, s 2 4551, m [4556], m [4558], m [4563], m [4567], m [4569], m [4380], m [4573],
     m [4575], s 2 4381, m [4384], s 2 4386, m [4391], m [4393], s 5 4395, m [4402], m [4406],
     m [4416], m [4423], m [4428], s 2 4593, s 3 4439, s 2 4484, m [4488], s 2 4497, m [4500],
     m [4510], m [4513], x 1, v 2, m [19968], m [20108], m [19977], m [22235], m [19978], m [20013],
     m [19979], m [30002], m [20057], m [19993], m [19969], m [22825], m [22320], m [20154], v 70,
     x 10, v 16, m [40, 4352, 41], m [40, 4354, 41], m [40, 4355, 41], m [40, 4357, 41],
     m [40, 4358, 41], m [40, 4359, 41], m [40, 4361, 41], m [40, 4363, 41], m [40, 4364, 41],
     m [40, 4366, 41], m [40, 4367, 41], m [40, 4368, 41], m [40, 4369, 41], m [40, 4370, 41],
     m [40, 44032, 41], m [40, 45208, 41], m [40, 45796, 41], m [40, 46972, 41], m [40, 47560, 41],
     m [40, 48148, 41], m [40, 49324, 41], m [40, 50500, 41], m [40, 51088, 41], m [40, 52264, 41],
     m [40, 52852, 41], m [40, 53440, 41], m [40, 54028, 41], m [40, 54616, 41], m [40, 51452, 41],
     m [40, 50724, 51204, 41], m [40, 50724, 54980, 41], x 1, m [40, 19968, 41], m [40, 20108, 41],
     m [40, 19977, 41], m [40, 22235, 41], m [40, 20116, 41], m [40, 20845, 41], m [40, 19971, 41],
     m [40, 20843, 41], m [40, 20061, 41], m [40, 21313, 41], m [40, 26376, 41], m [40, 28779, 41],
     m [40, 27700, 41], m [40, 26408, 41], m [40, 37329, 41], m [40, 22303, 41], m [40, 26085, 41],
     m [40, 26666, 41], m [40, 26377, 41], m [40, 31038, 41], m [40, 21517, 41], m [40, 29305, 41],
     m [40, 36001, 41], m [40, 31069, 41], m [40, 21172, 41], m [40, 20195, 41], m [40, 21628, 41],
     m [40, 23398, 41], m [40, 30435, 41], m [40, 20225, 41], m [40, 36039, 41], m [40, 21332, 41],
     m [40, 31085, 41], m [40, 20241, 41], m [40, 33258, 41], m [40, 33267, 41], m [21839],
     m [24188], m [25991], m [31631], v 8, m [112, 116, 101], m [50, 49], m [50, 50], m [50, 51],
     m [50, 52], m [50, 53], m [50, 54], m [50, 55], m [50, 56], m [50, 57], m [51, 48], m [51, 49],
     m [51, 50], m [51, 51], m [51, 52], m [51, 53], m [4352], s 2 4354, s 3 4357, m [4361],
     s 2 4363, s 5 4366, m [44032], m [45208], m [45796], m [46972], m [47560], m [48148],
     m [49324], m [50500], m [51088], m [52264], m [52852], m [53440], m [54028], m [54616],
     m [52280, 44256], m [51452, 51032], m [50864], v 1, m [19968], m [20108], m [19977], m [22235],
     m [20116], m [20845], m [19971], m [20843], m [20061], m [21313], m [26376], m [28779],
     m [27700], m [26408], m [37329], m [22303], m [26085], m [26666], m [26377], m [31038],
     m [21517], m [29305], m [36001], m [31069], m [21172], m [31192], m [30007], m [22899],
     m [36969], m [20778], m [21360], m [27880], m [38917], m [20241], m [20889], m [27491],
     m [19978], m [20013], m [19979], m [24038], m [21491], m [21307], m [23447], m [23398],
     m [30435], m [20225], m [36039], m [21332], m [22812], m [51, 54], m [51, 55], m [51, 56],
     m [51, 57], m [52, 48], m [52, 49], m [52, 50], m [52, 51], m [52, 52], m [52, 53], m [52, 54],
     m [52, 55], m [52, 56], m [52, 57], m [53, 48], m [49, 26376], m [50, 26376], m [51, 26376],
     m [52, 26376], m [53, 26376], m [54, 26376], m [55, 26376], m [56, 26376], m [57, 26376],
     m [49, 48, 26376], m [49, 49, 26376], m [49, 50, 26376], m [104, 103], m [101, 114, 103],
     m [101, 118], m [108, 116, 100], m [12450], m [12452], m [12454], m [12456], s 2 12458,
     m [12461], m [12463], m [12465], m [12467], m [12469], m [12471], m [12473], m [12475],
     m [12477], m [12479], m [12481], m [12484], m [12486], m [12488], s 6 12490, m [12498],
     m [12501], m [12504], m [12507], s 5 12510, m [12516], m [12518], s 6 12520, s 4 12527,
     m [20196, 21644], m [12450, 12497, 12540, 12488], m [12450, 12523, 12501, 12449],
     m [12450, 12531, 12506, 12450], m [12450, 12540, 12523], m [12452, 12491, 12531, 12464],
     m [12452, 12531, 12481], m [12454, 12457, 12531], m [12456, 12473, 12463, 12540, 12489],
     m [12456, 12540, 12459, 12540], m [12458, 12531, 12473], m [12458, 12540, 12512],
     m [12459, 12452, 12522], m [12459, 12521, 12483, 12488], m [12459, 12525, 12522, 12540],
     m [12460, 12525, 12531], m [12460, 12531, 12510], m [12462, 12460], m [12462, 12491, 12540],
     m [12461, 12517, 12522, 12540], m [12462, 12523, 12480, 12540], m [12461, 12525],
     m [12461, 12525, 12464, 12521, 12512], m [12461, 12525, 12513, 12540, 12488, 12523],
     m [12461, 12525, 12527, 12483, 12488], m [12464, 12521, 12512],
     m [12464, 12521, 12512, 12488, 12531], m [12463, 12523, 12476, 12452, 12525],
     m [12463, 12525, 12540, 12493], m [12465, 12540, 12473], m [12467, 12523, 12490],
     m [12467, 12540, 12509], m [12469, 12452, 12463, 12523], m [12469, 12531, 12481, 12540, 12512],
     m [12471, 12522, 12531, 12464], m [12475, 12531, 12481], m [12475, 12531, 12488],
     m [12480, 12540, 12473], m [12487, 12471], m [12489, 12523], m [12488, 12531],
     m [12490, 12494], m [12494, 12483, 12488], m [12495, 12452, 12484],
     m [12497, 12540, 12475, 12531, 12488], m [12497, 12540, 12484], m [12496, 12540, 12524, 12523],
     m [12500, 12450, 12473, 12488, 12523], m [12500, 12463, 12523], m [12500, 12467],
     m [12499, 12523], m [12501, 12449, 12521, 12483, 12489], m [12501, 12451, 12540, 12488],
     m [12502, 12483, 12471, 12455, 12523], m [12501, 12521, 12531],
     m [12504, 12463, 12479, 12540, 12523], m [12506, 12477], m [12506, 12491, 12498],
     m [12504, 12523, 12484], m [12506, 12531, 12473], m [12506, 12540, 12472],
     m [12505, 12540, 12479], m [12509, 12452, 12531, 12488], m [12508, 12523, 12488],
     m [12507, 12531], m [12509, 12531, 12489], m [12507, 12540, 12523], m [12507, 12540, 12531],
     m [12510, 12452, 12463, 12525], m [12510, 12452, 12523], m [12510, 12483, 12495],
     m [12510, 12523, 12463], m [12510, 12531, 12471, 12519, 12531], m [12511, 12463, 12525, 12531],
     m [12511, 12522], m [12511, 12522, 12496, 12540, 12523], m [12513, 12460],
     m [12513, 12460, 12488, 12531], m [12513, 12540, 12488, 12523], m [12516, 12540, 12489],
     m [12516, 12540, 12523], m [12518, 12450, 12531], m [12522, 12483, 12488, 12523],
     m [12522, 12521], m [12523, 12500, 12540], m [12523, 12540, 12502, 12523], m [12524, 12512],
     m [12524, 12531, 12488, 12466, 12531], m [12527, 12483, 12488], m [48, 28857], m [49, 28857],
     m [50, 28857], m [51, 28857], m [52, 28857], m [53, 28857], m [54, 28857], m [55, 28857],
     m [56, 28857], m [57, 28857], m [49, 48, 28857], m [49, 49, 28857], m [49, 50, 28857],
     m [49, 51, 28857], m [49, 52, 28857], m [49, 53, 28857], m [49, 54, 28857], m [49, 55, 28857],
     m [49, 56, 28857], m [49, 57, 28857], m [50, 48, 28857], m [50, 49, 28857], m [50, 50, 28857],
     m [50, 51, 28857], m [50, 52, 28857], m [104, 112, 97], m [100, 97], m [97, 117],
     m [98, 97, 114], m [111, 118], m [112, 99], m [100, 109], m [100, 109, 50], m [100, 109, 51],
     m [105, 117], m [24179, 25104], m [26157, 21644], m [22823, 27491], m [26126, 27835],
     m [26666, 24335, 20250, 31038], m [112, 97], m [110, 97], m [956, 97], m [109, 97],
     m [107, 97], m [107, 98], m [109, 98], m [103, 98], m [99, 97, 108], m [107, 99, 97, 108],
     m [112, 102], m [110, 102], m [956, 102], m [956, 103], m [109, 103], m [107, 103],
     m [104, 122], m [107, 104, 122], m [109, 104, 122], m [103, 104, 122], m [116, 104, 122],
     m [956, 108], m [109, 108], m [100, 108], m [107, 108], m [102, 109], m [110, 109],
     m [956, 109], m [109, 109], m [99, 109], m [107, 109], m [109, 109, 50], m [99, 109, 50],
     m [109, 50], m [107, 109, 50], m [109, 109, 51], m [99, 109, 51], m [109, 51],
     m [107, 109, 51], m [109, 8725, 115], m [109, 8725, 115, 50], m [112, 97], m [107, 112, 97],
     m [109, 112, 97], m [103, 112, 97], m [114, 97, 100], m [114, 97, 100, 8725, 115],
     m [114, 97, 100, 8725, 115, 50], m [112, 115], m [110, 115], m [956, 115], m [109, 115],
     m [112, 118], m [110, 118], m [956, 118], m [109, 118], m [107, 118], m [109, 118],
     m [112, 119], m [110, 119], m [956, 119], m [109, 119], m [107, 119], m [109, 119],
     m [107, 969], m [109, 969], x 1, m [98, 113], m [99, 99], m [99, 100], m [99, 8725, 107, 103],
     x 1, m [100, 98], m [103, 121], m [104, 97], m [104, 112], m [105, 110], m [107, 107],
     m [107, 109], m [107, 116], m [108, 109], m [108, 110], m [108, 111, 103], m [108, 120],
     m [109, 98], m [109, 105, 108], m [109, 111, 108], m [112, 104], x 1, m [112, 112, 109],
     m [112, 114], m [115, 114], m [115, 118], m [119, 98], m [118, 8725, 109], m [97, 8725, 109],
     m [49, 26085], m [50, 26085], m [51, 26085], m [52, 26085], m [53, 26085], m [54, 26085],
     m [55, 26085], m [56, 26085], m [57, 26085], m [49, 48, 26085], m [49, 49, 26085],
     m [49, 50, 26085], m [49, 51, 26085], m [49, 52, 26085], m [49, 53, 26085], m [49, 54, 26085],
     m [49, 55, 26085], m [49, 56, 26085], m [49, 57, 26085], m [50, 48, 26085], m [50, 49, 26085],
     m [50, 50, 26085], m [50, 51, 26085], m [50, 52, 26085], m [50, 53, 26085], m [50, 54, 26085],
     m [50, 55, 26085], m [50, 56, 26085], m [50, 57, 26085], m [51, 48, 26085], m [51, 49, 26085],
     m [103, 97, 108], v 28813, x 3, v 55, x 9, v 348, x 20, p 23, v 18, p 14, m [1098], m [1100],
     v 90, x 8, v 34, p 7, v 2, p 31, m [42863], v 8, p 2, m [7545], p 5, v 3, m [42892], v 1,
     m [613], v 2, p 2, v 2, p 10, m [614], m [604], m [609], m [620], m [618], v 1, m [670],
     m [647], m [669], m [43859], p 8, m [42900], m [642], m [7566], p 2, m [612], p 8, m [411],
     x 20, m [115], m [99], m [102], m [113], m [42998], v 2, m [295], m [339], v 51, x 3, v 10,
     x 6, v 56, x 8, v 70, x 8, v 12, x 6, v 116, x 11, v 30, x 3, v 78, x 1, v 11, x 4, v 33, x 1,
     v 55, x 9, v 14, x 2, v 10, x 2, v 103, x 24, v 28, x 10, v 6, x 2, v 6, x 2, v 6, x 9, v 7,
     x 1, v 7, x 1, v 44, m [42791], m [43831], m [619], m [43858], v 9, m [653], v 2, x 4,
     s 80 5024, v 46, x 2, v 10, x 6, v 11172, x 12, v 23, x 4, v 49, x 8452, m [35912], m [26356],
     m [36554], m [36040], m [28369], m [20018], m [21477], c 2 40860, m [22865], m [37329],
     m [21895], m [22856], m [25078], m [30313], m [32645], m [34367], m [34746], m [35064],
     m [37007], m [27138], m [27931], m [28889], m [29662], m [33853], m [37226]]

/-- The runs of code points from 0xF91A to 0xFCB0. -/
def hostRuns3 : List (Nat × HostRun) :=
    [m [39409], m [20098], m [21365], m [27396], m [29211], m [34349], m [40478], m [23888],
     m [28651], m [34253], m [35172], m [25289], m [33240], m [34847], m [24266], m [26391],
     m [28010], m [29436], m [37070], m [20358], m [20919], m [21214], m [25796], m [27347],
     m [29200], m [30439], m [32769], m [34310], m [34396], m [36335], m [38706], m [39791],
     m [40442], m [30860], m [31103], m [32160], m [33737], m [37636], m [40575], m [35542],
     m [22751], m [24324], m [31840], m [32894], m [29282], m [30922], m [36034], m [38647],
     m [22744], m [23650], m [27155], m [28122], m [28431], m [32047], m [32311], m [38475],
     m [21202], m [32907], m [20956], m [20940], m [31260], m [32190], m [33777], m [38517],
     m [35712], m [25295], m [27138], m [35582], m [20025], m [23527], m [24594], m [29575],
     m [30064], m [21271], m [30971], m [20415], m [24489], m [19981], m [27852], m [25976],
     m [32034], m [21443], m [22622], m [30465], m [33865], m [35498], m [27578], m [36784],
     m [27784], m [25342], m [33509], m [25504], m [30053], m [20142], m [20841], m [20937],
     m [26753], m [31975], m [33391], m [35538], m [37327], m [21237], m [21570], m [22899],
     m [24300], m [26053], m [28670], m [31018], m [38317], m [39530], m [40599], m [40654],
     m [21147], m [26310], m [27511], m [36706], m [24180], m [24976], m [25088], m [25754],
     m [28451], m [29001], m [29833], m [31178], m [32244], m [32879], m [36646], m [34030],
     m [36899], m [37706], m [21015], m [21155], m [21693], m [28872], m [35010], m [35498],
     m [24265], m [24565], m [25467], m [27566], m [31806], m [29557], m [20196], m [22265],
     m [23527], m [23994], m [24604], m [29618], m [29801], m [32666], m [32838], m [37428],
     m [38646], m [38728], m [38936], m [20363], m [31150], m [37300], m [38584], m [24801],
     m [20102], m [20698], m [23534], m [23615], m [26009], m [27138], m [29134], m [30274],
     m [34044], m [36988], m [40845], m [26248], m [38446], m [21129], m [26491], m [26611],
     m [27969], m [28316], m [29705], m [30041], m [30827], m [32016], m [39006], m [20845],
     m [25134], m [38520], m [20523], m [23833], m [28138], m [36650], m [24459], m [24900],
     m [26647], m [29575], m [38534], m [21033], m [21519], m [23653], m [26131], m [26446],
     m [26792], m [27877], m [29702], m [30178], m [32633], m [35023], m [35041], m [37324],
     m [38626], m [21311], m [28346], m [21533], m [29136], m [29848], m [34298], m [38563],
     m [40023], m [40607], m [26519], m [28107], m [33256], m [31435], m [31520], m [31890],
     m [29376], m [28825], m [35672], m [20160], m [33590], m [21050], m [20999], m [24230],
     m [25299], m [31958], m [23429], m [27934], m [26292], m [36667], m [34892], m [38477],
     m [35211], m [24275], m [20800], m [21952], v 2, m [22618], v 1, m [26228], v 2, m [20958],
     m [29482], m [30410], m [31036], m [31070], m [31077], m [31119], m [38742], m [31934],
     m [32701], v 1, m [34322], v 1, m [35576], v 2, m [36920], m [37117], v 3, m [39151],
     m [39164], m [39208], m [40372], m [37086], m [38583], m [20398], m [20711], m [20813],
     m [21193], m [21220], m [21329], m [21917], m [22022], m [22120], m [22592], m [22696],
     m [23652], m [23662], m [24724], m [24936], m [24974], m [25074], m [25935], m [26082],
     m [26257], m [26757], m [28023], m [28186], m [28450], m [29038], m [29227], m [29730],
     m [30865], m [31038], m [31049], m [31048], m [31056], m [31062], m [31069], s 2 31117,
     m [31296], m [31361], m [31680], m [32244], m [32265], m [32321], m [32626], m [32773],
     m [33261], c 2 33401, m [33879], m [35088], m [35222], m [35585], m [35641], m [36051],
     m [36104], m [36790], m [36920], m [38627], m [38911], m [38971], m [24693], m [148206],
     m [33304], x 2, m [20006], m [20917], m [20840], m [20352], m [20805], m [20864], m [21191],
     m [21242], m [21917], m [21845], m [21913], m [21986], m [22618], m [22707], m [22852],
     m [22868], m [23138], m [23336], m [24274], m [24281], m [24425], m [24493], m [24792],
     m [24910], m [24840], m [24974], m [24928], m [25074], m [25140], m [25540], m [25628],
     m [25682], m [25942], m [26228], m [26391], m [26395], m [26454], m [27513], m [27578],
     m [27969], m [28379], m [28363], m [28450], m [28702], m [29038], m [30631], m [29237],
     m [29359], m [29482], m [29809], m [29958], m [30011], m [30237], m [30239], m [30410],
     m [30427], m [30452], m [30538], m [30528], m [30924], m [31409], m [31680], m [31867],
     m [32091], m [32244], m [32574], m [32773], m [33618], m [33775], m [34681], m [35137],
     m [35206], m [35222], m [35519], m [35576], m [35531], m [35585], m [35582], m [35565],
     m [35641], m [35722], m [36104], m [36664], m [36978], m [37273], m [37494], m [38524],
     m [38627], m [38742], m [38875], m [38911], m [38923], m [38971], m [39698], m [40860],
     m [141386], m [141380], m [144341], m [15261], m [16408], m [16441], m [152137], m [154832],
     m [163539], m [40771], m [40846], x 38, m [102, 102], m [102, 105], m [102, 108],
     m [102, 102, 105], m [102, 102, 108], m [115, 116], m [115, 116], x 12, m [1396, 1398],
     m [1396, 1381], m [1396, 1387], m [1406, 1398], m [1396, 1389], x 5, m [1497, 1460], v 1,
     m [1522, 1463], m [1506], m [1488], s 2 1491, s 3 1499, m [1512], m [1514], m [43],
     m [1513, 1473], m [1513, 1474], m [1513, 1468, 1473], m [1513, 1468, 1474], m [1488, 1463],
     m [1488, 1464], m [1488, 1468], m [1489, 1468], m [1490, 1468], m [1491, 1468], m [1492, 1468],
     m [1493, 1468], m [1494, 1468], x 1, m [1496, 1468], m [1497, 1468], m [1498, 1468],
     m [1499, 1468], m [1500, 1468], x 1, m [1502, 1468], x 1, m [1504, 1468], m [1505, 1468], x 1,
     m [1507, 1468], m [1508, 1468], x 1, m [1510, 1468], m [1511, 1468], m [1512, 1468],
     m [1513, 1468], m [1514, 1468], m [1493, 1465], m [1489, 1471], m [1499, 1471], m [1508, 1471],
     m [1488, 1500], c 2 1649, c 4 1659, c 4 1662, c 4 1664, c 4 1658, c 4 1663, c 4 1657, c 4 1700,
     c 4 1702, c 4 1668, c 4 1667, c 4 1670, c 4 1671, c 2 1677, c 2 1676, c 2 1678, c 2 1672,
     c 2 1688, c 2 1681, c 4 1705, c 4 1711, c 4 1715, c 4 1713, c 2 1722, c 4 1723, c 2 1728,
     c 4 1729, c 4 1726, c 2 1746, c 2 1747, v 33, c 4 1709, c 2 1735, c 2 1734, c 2 1736,
     m [1735, 1652], c 2 1739, c 2 1733, c 2 1737, c 4 1744, c 2 1609, m [1574, 1575],
     m [1574, 1575], m [1574, 1749], m [1574, 1749], m [1574, 1608], m [1574, 1608], m [1574, 1735],
     m [1574, 1735], m [1574, 1734], m [1574, 1734], m [1574, 1736], m [1574, 1736], m [1574, 1744],
     m [1574, 1744], m [1574, 1744], m [1574, 1609], m [1574, 1609], m [1574, 1609], c 4 1740,
     m [1574, 1580], m [1574, 1581], m [1574, 1605], m [1574, 1609], m [1574, 1610], m [1576, 1580],
     m [1576, 1581], m [1576, 1582], m [1576, 1605], m [1576, 1609], m [1576, 1610], m [1578, 1580],
     m [1578, 1581], m [1578, 1582], m [1578, 1605], m [1578, 1609], m [1578, 1610], m [1579, 1580],
     m [1579, 1605], m [1579, 1609], m [1579, 1610], m [1580, 1581], m [1580, 1605], m [1581, 1580],
     m [1581, 1605], m [1582, 1580], m [1582, 1581], m [1582, 1605], m [1587, 1580], m [1587, 1581],
     m [1587, 1582], m [1587, 1605], m [1589, 1581], m [1589, 1605], m [1590, 1580], m [1590, 1581],
     m [1590, 1582], m [1590, 1605], m [1591, 1581], m [1591, 1605], m [1592, 1605], m [1593, 1580],
     m [1593, 1605], m [1594, 1580], m [1594, 1605], m [1601, 1580], m [1601, 1581], m [1601, 1582],
     m [1601, 1605], m [1601, 1609], m [1601, 1610], m [1602, 1581], m [1602, 1605], m [1602, 1609],
     m [1602, 1610], m [1603, 1575], m [1603, 1580], m [1603, 1581], m [1603, 1582], m [1603, 1604],
     m [1603, 1605], m [1603, 1609], m [1603, 1610], m [1604, 1580], m [1604, 1581], m [1604, 1582],
     m [1604, 1605], m [1604, 1609], m [1604, 1610], m [1605, 1580], m [1605, 1581], m [1605, 1582],
     m [1605, 1605], m [1605, 1609], m [1605, 1610], m [1606, 1580], m [1606, 1581], m [1606, 1582],
     m [1606, 1605], m [1606, 1609], m [1606, 1610], m [1607, 1580], m [1607, 1605], m [1607, 1609],
     m [1607, 1610], m [1610, 1580], m [1610, 1581], m [1610, 1582], m [1610, 1605], m [1610, 1609],
     m [1610, 1610], m [1584, 1648], m [1585, 1648], m [1609, 1648], m [32, 1612, 1617],
     m [32, 1613, 1617], m [32, 1614, 1617], m [32, 1615, 1617], m [32, 1616, 1617],
     m [32, 1617, 1648], m [1574, 1585], m [1574, 1586], m [1574, 1605], m [1574, 1606],
     m [1574, 1609], m [1574, 1610], m [1576, 1585], m [1576, 1586], m [1576, 1605], m [1576, 1606],
     m [1576, 1609], m [1576, 1610], m [1578, 1585], m [1578, 1586], m [1578, 1605], m [1578, 1606],
     m [1578, 1609], m [1578, 1610], m [1579, 1585], m [1579, 1586], m [1579, 1605], m [1579, 1606],
     m [1579, 1609], m [1579, 1610], m [1601, 1609], m [1601, 1610], m [1602, 1609], m [1602, 1610],
     m [1603, 1575], m [1603, 1604], m [1603, 1605], m [1603, 1609], m [1603, 1610], m [1604, 1605],
     m [1604, 1609], m [1604, 1610], m [1605, 1575], m [1605, 1605], m [1606, 1585], m [1606, 1586],
     m [1606, 1605], m [1606, 1606], m [1606, 1609], m [1606, 1610], m [1609, 1648], m [1610, 1585],
     m [1610, 1586], m [1610, 1605], m [1610, 1606], m [1610, 1609], m [1610, 1610], m [1574, 1580],
     m [1574, 1581], m [1574, 1582], m [1574, 1605], m [1574, 1607], m [1576, 1580], m [1576, 1581],
     m [1576, 1582], m [1576, 1605], m [1576, 1607], m [1578, 1580], m [1578, 1581], m [1578, 1582],
     m [1578, 1605], m [1578, 1607], m [1579, 1605], m [1580, 1581], m [1580, 1605], m [1581, 1580],
     m [1581, 1605], m [1582, 1580], m [1582, 1605], m [1587, 1580], m [1587, 1581], m [1587, 1582],
     m [1587, 1605]]

/-- The runs of code points from 0xFCB1 to 0x11286. -/
def hostRuns4 : List (Nat × HostRun) :=
    [m [1589, 1581], m [1589, 1582], m [1589, 1605], m [1590, 1580], m [1590, 1581], m [1590, 1582],
     m [1590, 1605], m [1591, 1581], m [1592, 1605], m [1593, 1580], m [1593, 1605], m [1594, 1580],
     m [1594, 1605], m [1601, 1580], m [1601, 1581], m [1601, 1582], m [1601, 1605], m [1602, 1581],
     m [1602, 1605], m [1603, 1580], m [1603, 1581], m [1603, 1582], m [1603, 1604], m [1603, 1605],
     m [1604, 1580], m [1604, 1581], m [1604, 1582], m [1604, 1605], m [1604, 1607], m [1605, 1580],
     m [1605, 1581], m [1605, 1582], m [1605, 1605], m [1606, 1580], m [1606, 1581], m [1606, 1582],
     m [1606, 1605], m [1606, 1607], m [1607, 1580], m [1607, 1605], m [1607, 1648], m [1610, 1580],
     m [1610, 1581], m [1610, 1582], m [1610, 1605], m [1610, 1607], m [1574, 1605], m [1574, 1607],
     m [1576, 1605], m [1576, 1607], m [1578, 1605], m [1578, 1607], m [1579, 1605], m [1579, 1607],
     m [1587, 1605], m [1587, 1607], m [1588, 1605], m [1588, 1607], m [1603, 1604], m [1603, 1605],
     m [1604, 1605], m [1606, 1605], m [1606, 1607], m [1610, 1605], m [1610, 1607],
     m [1600, 1614, 1617], m [1600, 1615, 1617], m [1600, 1616, 1617], m [1591, 1609],
     m [1591, 1610], m [1593, 1609], m [1593, 1610], m [1594, 1609], m [1594, 1610], m [1587, 1609],
     m [1587, 1610], m [1588, 1609], m [1588, 1610], m [1581, 1609], m [1581, 1610], m [1580, 1609],
     m [1580, 1610], m [1582, 1609], m [1582, 1610], m [1589, 1609], m [1589, 1610], m [1590, 1609],
     m [1590, 1610], m [1588, 1580], m [1588, 1581], m [1588, 1582], m [1588, 1605], m [1588, 1585],
     m [1587, 1585], m [1589, 1585], m [1590, 1585], m [1591, 1609], m [1591, 1610], m [1593, 1609],
     m [1593, 1610], m [1594, 1609], m [1594, 1610], m [1587, 1609], m [1587, 1610], m [1588, 1609],
     m [1588, 1610], m [1581, 1609], m [1581, 1610], m [1580, 1609], m [1580, 1610], m [1582, 1609],
     m [1582, 1610], m [1589, 1609], m [1589, 1610], m [1590, 1609], m [1590, 1610], m [1588, 1580],
     m [1588, 1581], m [1588, 1582], m [1588, 1605], m [1588, 1585], m [1587, 1585], m [1589, 1585],
     m [1590, 1585], m [1588, 1580], m [1588, 1581], m [1588, 1582], m [1588, 1605], m [1587, 1607],
     m [1588, 1607], m [1591, 1605], m [1587, 1580], m [1587, 1581], m [1587, 1582], m [1588, 1580],
     m [1588, 1581], m [1588, 1582], m [1591, 1605], m [1592, 1605], m [1575, 1611], m [1575, 1611],
     v 18, m [1578, 1580, 1605], m [1578, 1581, 1580], m [1578, 1581, 1580], m [1578, 1581, 1605],
     m [1578, 1582, 1605], m [1578, 1605, 1580], m [1578, 1605, 1581], m [1578, 1605, 1582],
     m [1580, 1605, 1581], m [1580, 1605, 1581], m [1581, 1605, 1610], m [1581, 1605, 1609],
     m [1587, 1581, 1580], m [1587, 1580, 1581], m [1587, 1580, 1609], m [1587, 1605, 1581],
     m [1587, 1605, 1581], m [1587, 1605, 1580], m [1587, 1605, 1605], m [1587, 1605, 1605],
     m [1589, 1581, 1581], m [1589, 1581, 1581], m [1589, 1605, 1605], m [1588, 1581, 1605],
     m [1588, 1581, 1605], m [1588, 1580, 1610], m [1588, 1605, 1582], m [1588, 1605, 1582],
     m [1588, 1605, 1605], m [1588, 1605, 1605], m [1590, 1581, 1609], m [1590, 1582, 1605],
     m [1590, 1582, 1605], m [1591, 1605, 1581], m [1591, 1605, 1581], m [1591, 1605, 1605],
     m [1591, 1605, 1610], m [1593, 1580, 1605], m [1593, 1605, 1605], m [1593, 1605, 1605],
     m [1593, 1605, 1609], m [1594, 1605, 1605], m [1594, 1605, 1610], m [1594, 1605, 1609],
     m [1601, 1582, 1605], m [1601, 1582, 1605], m [1602, 1605, 1581], m [1602, 1605, 1605],
     m [1604, 1581, 1605], m [1604, 1581, 1610], m [1604, 1581, 1609], m [1604, 1580, 1580],
     m [1604, 1580, 1580], m [1604, 1582, 1605], m [1604, 1582, 1605], m [1604, 1605, 1581],
     m [1604, 1605, 1581], m [1605, 1581, 1580], m [1605, 1581, 1605], m [1605, 1581, 1610],
     m [1605, 1580, 1581], m [1605, 1580, 1605], m [1605, 1582, 1580], m [1605, 1582, 1605], v 2,
     m [1605, 1580, 1582], m [1607, 1605, 1580], m [1607, 1605, 1605], m [1606, 1581, 1605],
     m [1606, 1581, 1609], m [1606, 1580, 1605], m [1606, 1580, 1605], m [1606, 1580, 1609],
     m [1606, 1605, 1610], m [1606, 1605, 1609], m [1610, 1605, 1605], m [1610, 1605, 1605],
     m [1576, 1582, 1610], m [1578, 1580, 1610], m [1578, 1580, 1609], m [1578, 1582, 1610],
     m [1578, 1582, 1609], m [1578, 1605, 1610], m [1578, 1605, 1609], m [1580, 1605, 1610],
     m [1580, 1581, 1609], m [1580, 1605, 1609], m [1587, 1582, 1609], m [1589, 1581, 1610],
     m [1588, 1581, 1610], m [1590, 1581, 1610], m [1604, 1580, 1610], m [1604, 1605, 1610],
     m [1610, 1581, 1610], m [1610, 1580, 1610], m [1610, 1605, 1610], m [1605, 1605, 1610],
     m [1602, 1605, 1610], m [1606, 1581, 1610], m [1602, 1605, 1581], m [1604, 1581, 1605],
     m [1593, 1605, 1610], m [1603, 1605, 1610], m [1606, 1580, 1581], m [1605, 1582, 1610],
     m [1604, 1580, 1605], m [1603, 1605, 1605], m [1604, 1580, 1605], m [1606, 1580, 1581],
     m [1580, 1581, 1610], m [1581, 1580, 1610], m [1605, 1580, 1610], m [1601, 1605, 1610],
     m [1576, 1581, 1610], m [1603, 1605, 1605], m [1593, 1580, 1605], m [1589, 1605, 1605],
     m [1587, 1582, 1610], m [1606, 1580, 1610], v 8, x 32, m [1589, 1604, 1746],
     m [1602, 1604, 1746], m [1575, 1604, 1604, 1607], m [1575, 1603, 1576, 1585],
     m [1605, 1581, 1605, 1583], m [1589, 1604, 1593, 1605], m [1585, 1587, 1608, 1604],
     m [1593, 1604, 1610, 1607], m [1608, 1587, 1604, 1605], m [1589, 1604, 1609],
     m [1589, 1604, 1609, 32, 1575, 1604, 1604, 1607, 32, 1593, 1604, 1610, 1607, 32, 1608, 1587,
       1604, 1605],
     m [1580, 1604, 32, 1580, 1604, 1575, 1604, 1607], m [1585, 1740, 1575, 1604], v 3, i 16,
     m [44], m [12289], x 1, s 2 58, m [33], m [63], s 2 12310, x 7, v 16, x 1, m [8212], m [8211],
     c 2 95, s 2 40, m [123], m [125], s 2 12308, s 2 12304, s 2 12298, s 2 12296, s 4 12300, v 2,
     m [91], m [93], m [32, 773], m [32, 773], m [32, 773], m [32, 773], c 3 95, m [44], m [12289],
     x 2, m [59], m [58], m [63], m [33], m [8212], s 2 40, m [123], m [125], s 2 12308, m [35],
     m [38], s 2 42, m [45], m [60], m [62], m [61], x 1, m [92], s 2 36, m [64], x 4, m [32, 1611],
     m [1600, 1611], m [32, 1612], v 1, m [32, 1613], x 1, m [32, 1614], m [1600, 1614],
     m [32, 1615], m [1600, 1615], m [32, 1616], m [1600, 1616], m [32, 1617], m [1600, 1617],
     m [32, 1618], m [1600, 1618], s 2 1569, s 2 1570, s 2 1571, s 2 1572, s 2 1573, c 3 1574,
     c 2 1575, c 4 1576, c 2 1577, c 4 1578, c 4 1579, c 4 1580, c 4 1581, c 4 1582, c 2 1583,
     c 2 1584, c 2 1585, c 2 1586, c 4 1587, c 4 1588, c 4 1589, c 4 1590, c 4 1591, c 4 1592,
     c 4 1593, c 4 1594, c 4 1601, c 4 1602, c 4 1603, c 4 1604, c 4 1605, c 4 1606, c 4 1607,
     c 2 1608, c 2 1609, c 4 1610, m [1604, 1570], m [1604, 1570], m [1604, 1571], m [1604, 1571],
     m [1604, 1573], m [1604, 1573], m [1604, 1575], m [1604, 1575], x 2, i 1, x 1, s 32 33,
     s 26 97, s 36 91, s 2 10629, m [46], s 2 12300, m [12289], m [12539], m [12530], m [12449],
     m [12451], m [12453], m [12455], m [12457], m [12515], m [12517], m [12519], m [12483],
     m [12540], m [12450], m [12452], m [12454], m [12456], s 2 12458, m [12461], m [12463],
     m [12465], m [12467], m [12469], m [12471], m [12473], m [12475], m [12477], m [12479],
     m [12481], m [12484], m [12486], m [12488], s 6 12490, m [12498], m [12501], m [12504],
     m [12507], s 5 12510, m [12516], m [12518], s 6 12520, m [12527], m [12531], s 2 12441, i 1,
     s 2 4352, m [4522], m [4354], s 2 4524, s 3 4355, s 6 4528, m [4378], s 3 4358, m [4385],
     s 10 4361, x 3, s 6 4449, x 2, s 6 4455, x 2, s 6 4461, x 2, s 3 4467, x 3, s 2 162, m [172],
     m [32, 772], m [166], m [165], m [8361], x 1, m [9474], s 4 8592, m [9632], m [9675], x 17,
     v 12, x 1, v 26, x 1, v 19, x 1, v 2, x 1, v 15, x 2, v 14, x 34, v 123, x 5, v 3, x 4, v 45,
     x 3, v 88, x 1, v 13, x 3, v 1, x 47, v 46, x 130, v 29, x 3, v 49, x 15, v 28, x 4, v 36, x 9,
     v 30, x 5, v 43, x 5, v 30, x 1, v 37, x 4, v 14, x 42, s 40 66600, v 118, x 2, v 10, x 6,
     s 36 66776, x 4, v 36, x 4, v 40, x 8, v 52, x 11, v 1, s 11 66967, x 1, s 15 66979, x 1,
     s 7 66995, x 1, s 2 67003, x 1, v 11, x 1, v 15, x 1, v 7, x 1, v 2, x 3, v 52, x 12, v 311,
     x 9, v 22, x 10, v 8, x 24, v 1, s 2 720, m [230], m [665], m [595], x 1, m [675], m [43878],
     m [677], m [676], s 2 598, m [7569], m [600], m [606], m [681], m [612], m [610], m [608],
     m [667], m [295], m [668], m [615], m [644], s 2 682, m [620], m [122628], m [42894], m [622],
     m [122629], m [654], m [122630], m [248], s 2 630, m [113], m [634], m [122632], s 2 637,
     m [640], m [680], m [678], m [43879], m [679], m [648], m [11377], x 1, m [655], s 2 673,
     m [664], s 3 448, m [122634], m [122654], x 69, v 6, x 2, v 1, x 1, v 44, x 1, v 2, x 3, v 1,
     x 2, v 23, x 1, v 72, x 8, v 9, x 48, v 19, x 1, v 2, x 5, v 33, x 3, v 27, x 5, v 27, x 38,
     v 56, x 4, v 20, x 2, v 50, x 1, v 2, x 5, v 8, x 1, v 3, x 1, v 29, x 2, v 3, x 4, v 10, x 7,
     v 9, x 7, v 64, x 32, v 39, x 4, v 12, x 9, v 54, x 3, v 29, x 2, v 27, x 5, v 26, x 7, v 4,
     x 12, v 7, x 80, v 73, x 55, s 51 68800, x 13, v 51, x 7, v 46, x 8, v 10, x 6, v 16,
     s 22 68976, x 3, v 29, x 8, v 2, x 208, v 31, x 1, v 42, x 1, v 3, x 2, v 2, x 16, v 6, x 8,
     v 9, x 33, v 46, x 8, v 42, x 22, v 26, x 38, v 28, x 20, v 23, x 9, v 78, x 4, v 36, x 9,
     v 62, x 1, v 5, x 13, v 25, x 7, v 10, x 6, v 53, x 1, v 18, x 8, v 39, x 9, v 96, x 1, v 20,
     x 11, v 18, x 1, v 47, x 62, v 7]

/-- The runs of code points from 0x11287 to 0x1F0B0. -/
def hostRuns5 : List (Nat × HostRun) :=
    [x 1, v 1, x 1, v 4, x 1, v 15, x 1, v 11, x 6, v 59, x 5, v 10, x 6, v 4, x 1, v 8, x 2, v 2,
     x 2, v 22, x 1, v 7, x 1, v 2, x 1, v 5, x 1, v 10, x 2, v 2, x 2, v 3, x 2, v 1, x 6, v 1,
     x 5, v 7, x 2, v 7, x 3, v 5, x 11, v 10, x 1, v 1, x 2, v 1, x 1, v 38, x 1, v 10, x 1, v 1,
     x 2, v 1, x 1, v 4, x 1, v 10, x 1, v 2, x 8, v 2, x 29, v 92, x 1, v 5, x 30, v 72, x 8, v 10,
     x 166, v 54, x 2, v 38, x 34, v 69, x 11, v 10, x 6, v 13, x 19, v 58, x 6, v 10, x 6, v 20,
     x 28, v 27, x 2, v 15, x 4, v 23, x 185, v 60, x 100, s 32 71872, v 51, x 12, v 8, x 2, v 1,
     x 2, v 8, x 1, v 2, x 1, v 30, x 1, v 2, x 2, v 12, x 9, v 10, x 70, v 8, x 2, v 46, x 2, v 11,
     x 27, v 72, x 8, v 83, x 13, v 73, x 7, v 10, x 86, v 8, x 88, v 34, x 14, v 10, x 6, v 9, x 1,
     v 45, x 1, v 14, x 10, v 29, x 3, v 32, x 2, v 22, x 1, v 14, x 73, v 7, x 1, v 2, x 1, v 44,
     x 3, v 1, x 1, v 2, x 1, v 9, x 8, v 10, x 6, v 6, x 1, v 2, x 1, v 37, x 1, v 2, x 1, v 6,
     x 7, v 10, x 6, v 44, x 4, v 10, x 246, v 25, x 7, v 17, x 1, v 41, x 3, v 29, x 85, v 1, x 15,
     v 50, x 13, v 923, x 102, v 111, x 1, v 5, x 11, v 196, x 2636, v 99, x 13, v 1072, x 16, v 22,
     x 10, v 3995, x 5, v 583, x 6841, v 58, x 1734, v 569, x 7, v 31, x 1, v 10, x 4, v 81, x 1,
     v 10, x 6, v 30, x 2, v 6, x 10, v 70, x 10, v 10, x 1, v 7, x 1, v 21, x 5, v 19, x 432, v 58,
     x 198, s 32 93792, v 59, x 5, s 25 93883, x 2, v 25, x 44, v 75, x 4, v 57, x 7, v 17, x 64,
     v 5, x 11, v 7, x 9, v 7382, x 41, v 32, x 97, v 115, x 8701, v 4, x 1, v 7, x 1, v 2, x 1,
     v 291, x 15, v 1, x 29, v 3, x 2, v 1, x 14, v 4, x 8, v 396, x 2308, v 107, x 5, v 13, x 3,
     v 9, x 7, v 10, x 2, v 4, i 4, x 3932, v 214, s 26 97, s 10 48, v 3, x 3, v 436, x 6, v 23,
     x 15, v 17, x 15, v 46, x 2, v 23, x 9, v 116, x 60, v 246, x 10, v 39, x 2, v 53,
     m [119127, 119141], m [119128, 119141], m [119128, 119141, 119150], m [119128, 119141, 119151],
     m [119128, 119141, 119152], m [119128, 119141, 119153], m [119128, 119141, 119154], v 14, i 8,
     v 64, m [119225, 119141], m [119226, 119141], m [119225, 119141, 119150],
     m [119226, 119141, 119150], m [119225, 119141, 119151], m [119226, 119141, 119151], v 42, x 21,
     v 70, x 122, v 20, x 12, v 20, x 12, v 87, x 9, v 25, x 135, s 26 97, s 26 97, s 26 97, s 7 97,
     x 1, s 18 105, s 26 97, s 26 97, m [97], x 1, s 2 99, x 2, m [103], x 2, s 2 106, x 2, s 4 110,
     x 1, s 8 115, s 4 97, x 1, m [102], x 1, s 7 104, x 1, s 11 112, s 26 97, s 26 97, s 2 97, x 1,
     s 4 100, x 2, s 8 106, x 1, s 7 115, x 1, s 26 97, s 2 97, x 1, s 4 100, x 1, s 5 105, x 1,
     m [111], x 3, s 7 115, x 1, s 26 97, s 26 97, s 26 97, s 26 97, s 26 97, s 26 97, s 26 97,
     s 26 97, s 26 97, s 26 97, s 26 97, s 26 97, s 26 97, m [305], m [567], x 2, s 17 945, m [952],
     s 7 963, m [8711], s 17 945, c 2 963, s 6 964, m [8706], m [949], m [952], m [954], m [966],
     m [961], m [960], s 17 945, m [952], s 7 963, m [8711], s 17 945, c 2 963, s 6 964, m [8706],
     m [949], m [952], m [954], m [966], m [961], m [960], s 17 945, m [952], s 7 963, m [8711],
     s 17 945, c 2 963, s 6 964, m [8706], m [949], m [952], m [954], m [966], m [961], m [960],
     s 17 945, m [952], s 7 963, m [8711], s 17 945, c 2 963, s 6 964, m [8706], m [949], m [952],
     m [954], m [966], m [961], m [960], s 17 945, m [952], s 7 963, m [8711], s 17 945, c 2 963,
     s 6 964, m [8706], m [949], m [952], m [954], m [966], m [961], m [960], c 2 989, x 2, s 10 48,
     s 10 48, s 10 48, s 10 48, s 10 48, v 652, x 15, v 5, x 1, v 15, x 1104, v 31, x 6, v 6, x 213,
     v 7, x 1, v 17, x 2, v 7, x 1, v 2, x 1, v 5, x 5, s 9 1072, s 3 1082, s 11 1086, m [1099],
     s 2 1101, m [42633], m [1241], m [1110], m [1112], m [1257], m [1199], m [1231], s 9 1072,
     s 2 1082, s 2 1086, m [1089], s 6 1091, s 2 1098, m [1169], m [1110], m [1109], m [1119],
     m [1195], m [42577], m [1201], x 33, v 1, x 112, v 45, x 3, v 14, x 2, v 10, x 4, v 2, x 320,
     v 31, x 17, v 58, x 5, v 1, x 464, v 42, x 214, v 43, x 4, v 1, x 192, v 31, x 1, v 22, x 8,
     v 2, x 224, v 7, x 1, v 4, x 1, v 2, x 1, v 15, x 1, v 197, x 2, v 16, x 41, s 34 125218, v 42,
     x 4, v 10, x 4, v 2, x 785, v 68, x 76, v 61, x 194, s 2 1575, m [1580], m [1583], x 1,
     m [1608], m [1586], m [1581], m [1591], m [1610], s 4 1603, m [1587], m [1593], m [1601],
     m [1589], m [1602], m [1585], m [1588], s 2 1578, m [1582], m [1584], m [1590], m [1592],
     m [1594], m [1646], m [1722], m [1697], m [1647], x 1, m [1576], m [1580], x 1, m [1607], x 2,
     m [1581], x 1, m [1610], s 4 1603, m [1587], m [1593], m [1601], m [1589], m [1602], x 1,
     m [1588], s 2 1578, m [1582], x 1, m [1590], x 1, m [1594], x 6, m [1580], x 4, m [1581], x 1,
     m [1610], x 1, m [1604], x 1, m [1606], m [1587], m [1593], x 1, m [1589], m [1602], x 1,
     m [1588], x 2, m [1582], x 1, m [1590], x 1, m [1594], x 1, m [1722], x 1, m [1647], x 1,
     m [1576], m [1580], x 1, m [1607], x 2, m [1581], m [1591], m [1610], m [1603], x 1, s 2 1605,
     m [1587], m [1593], m [1601], m [1589], m [1602], x 1, m [1588], s 2 1578, m [1582], x 1,
     m [1590], m [1592], m [1594], m [1646], x 1, m [1697], x 1, s 2 1575, m [1580], m [1583],
     s 2 1607, m [1586], m [1581], m [1591], m [1610], x 1, s 3 1604, m [1587], m [1593], m [1601],
     m [1589], m [1602], m [1585], m [1588], s 2 1578, m [1582], m [1584], m [1590], m [1592],
     m [1594], x 5, m [1576], m [1580], m [1583], x 1, m [1608], m [1586], m [1581], m [1591],
     m [1610], x 1, s 3 1604, m [1587], m [1593], m [1601], m [1589], m [1602], m [1585], m [1588],
     s 2 1578, m [1582], m [1584], m [1590], m [1592], m [1594], x 52, v 2, x 270, v 44, x 4, v 100,
     x 12, v 15, x 2]

/-- The runs of code points from 0x1F0B1 to 0x10FFFF. -/
def hostRuns6 : List (Nat × HostRun) :=
    [v 15, x 1, v 15, x 1, v 37, x 11, m [48, 44], m [49, 44], m [50, 44], m [51, 44], m [52, 44],
     m [53, 44], m [54, 44], m [55, 44], m [56, 44], m [57, 44], v 5, m [40, 97, 41],
     m [40, 98, 41], m [40, 99, 41], m [40, 100, 41], m [40, 101, 41], m [40, 102, 41],
     m [40, 103, 41], m [40, 104, 41], m [40, 105, 41], m [40, 106, 41], m [40, 107, 41],
     m [40, 108, 41], m [40, 109, 41], m [40, 110, 41], m [40, 111, 41], m [40, 112, 41],
     m [40, 113, 41], m [40, 114, 41], m [40, 115, 41], m [40, 116, 41], m [40, 117, 41],
     m [40, 118, 41], m [40, 119, 41], m [40, 120, 41], m [40, 121, 41], m [40, 122, 41],
     m [12308, 115, 12309], m [99], m [114], m [99, 100], m [119, 122], v 1, s 26 97, m [104, 118],
     m [109, 118], m [115, 100], m [115, 115], m [112, 112, 118], m [119, 99], v 26, m [109, 99],
     m [109, 100], m [109, 114], v 35, m [100, 106], v 29, x 56, v 26, m [12411, 12363],
     m [12467, 12467], m [12469], x 13, m [25163], m [23383], m [21452], m [12487], m [20108],
     m [22810], m [35299], m [22825], m [20132], m [26144], m [28961], m [26009], m [21069],
     m [24460], m [20877], m [26032], m [21021], m [32066], m [29983], m [36009], m [22768],
     m [21561], m [28436], m [25237], m [25429], m [19968], m [19977], m [36938], m [24038],
     m [20013], m [21491], m [25351], m [36208], m [25171], m [31105], m [31354], m [21512],
     m [28288], m [26377], m [26376], m [30003], m [21106], m [21942], m [37197], x 4,
     m [12308, 26412, 12309], m [12308, 19977, 12309], m [12308, 20108, 12309],
     m [12308, 23433, 12309], m [12308, 28857, 12309], m [12308, 25171, 12309],
     m [12308, 30423, 12309], m [12308, 21213, 12309], m [12308, 25943, 12309], x 7, m [24471],
     m [21487], x 14, v 6, x 154, v 985, x 3, v 17, x 3, v 13, x 3, v 218, x 6, v 12, x 4, v 1,
     x 15, v 12, x 4, v 56, x 8, v 10, x 6, v 40, x 8, v 30, x 2, v 12, x 4, v 2, x 14, v 9, x 39,
     v 344, x 8, v 14, x 2, v 13, x 3, v 11, x 3, v 57, x 1, v 1, x 4, v 16, x 2, v 12, x 4, v 10,
     x 7, v 147, x 1, v 92, s 10 48, v 1, x 1029, v 42720, x 32, v 4382, x 2, v 5774, x 2, v 7473,
     x 15, v 622, x 2466, m [20029], m [20024], m [20033], m [131362], m [20320], m [20398],
     m [20411], m [20482], m [20602], m [20633], m [20711], m [20687], m [13470], m [132666],
     m [20813], m [20820], m [20836], m [20855], m [132380], m [13497], m [20839], m [20877],
     m [132427], m [20887], m [20900], m [20172], m [20908], m [20917], m [168415], m [20981],
     m [20995], m [13535], m [21051], m [21062], m [21106], m [21111], m [13589], m [21191],
     m [21193], m [21220], m [21242], s 2 21253, m [21271], m [21321], m [21329], m [21338],
     m [21363], m [21373], c 3 21375, m [133676], m [28784], m [21450], m [21471], m [133987],
     m [21483], m [21489], m [21510], m [21662], m [21560], m [21576], m [21608], m [21666],
     m [21750], m [21776], m [21843], m [21859], c 2 21892, m [21913], m [21931], m [21939],
     m [21954], m [22294], m [22022], m [22295], m [22097], m [22132], m [20999], m [22766],
     m [22478], m [22516], m [22541], m [22411], m [22578], m [22577], m [22700], m [136420],
     m [22770], m [22775], m [22790], m [22810], m [22818], m [22882], m [136872], m [136938],
     m [23020], m [23067], m [23079], m [23000], m [23142], m [14062], m [14076], m [23304],
     c 2 23358, m [137672], m [23491], m [23512], m [23527], m [23539], m [138008], m [23551],
     m [23558], m [24403], m [23586], m [14209], m [23648], m [23662], m [23744], m [23693],
     m [138724], m [23875], m [138726], m [23918], m [23915], m [23932], s 2 24033, m [14383],
     m [24061], m [24104], m [24125], m [24169], m [14434], m [139651], m [14460], m [24240],
     m [24243], m [24246], m [24266], m [172946], m [24318], c 2 140081, m [33281], c 2 24354,
     m [14535], m [144056], m [156122], m [24418], m [24427], m [14563], m [24474], m [24525],
     m [24535], m [24569], m [24705], m [14650], m [14620], m [24724], m [141012], m [24775],
     m [24904], m [24908], m [24910], m [24908], m [24954], m [24974], m [25010], m [24996],
     m [25007], m [25054], m [25074], m [25078], m [25104], m [25115], m [25181], m [25265],
     m [25300], m [25424], m [142092], m [25405], m [25340], m [25448], m [25475], m [25572],
     m [142321], m [25634], m [25541], m [25513], m [14894], m [25705], m [25726], m [25757],
     m [25719], m [14956], m [25935], m [25964], m [143370], m [26083], m [26360], m [26185],
     m [15129], m [26257], m [15112], m [15076], m [20882], m [20885], m [26368], m [26268],
     m [32941], m [17369], m [26391], m [26395], m [26401], m [26462], m [26451], m [144323],
     m [15177], m [26618], m [26501], m [26706], m [26757], m [144493], m [26766], m [26655],
     m [26900], m [15261], m [26946], m [27043], m [27114], m [27304], m [145059], m [27355],
     m [15384], m [27425], m [145575], m [27476], m [15438], m [27506], m [27551], s 2 27578,
     m [146061], m [138507], m [146170], m [27726], m [146620], m [27839], m [27853], m [27751],
     m [27926], m [27966], m [28023], m [27969], m [28009], m [28024], m [28037], m [146718],
     m [27956], m [28207], m [28270], m [15667], m [28363], m [28359], m [147153], m [28153],
     m [28526], m [147294], m [147342], m [28614], m [28729], m [28702], m [28699], m [15766],
     m [28746], m [28797], m [28791], m [28845], m [132389], m [28997], m [148067], m [29084],
     m [148395], m [29224], m [29237], m [29264], m [149000], m [29312], m [29333], m [149301],
     m [149524], m [29562], m [29579], m [16044], m [29605], c 2 16056, m [29767], m [29788],
     m [29809], m [29829], m [29898], m [16155], m [29988], m [150582], m [30014], m [150674],
     m [30064], m [139679], m [30224], m [151457], m [151480], m [151620], m [16380], m [16392],
     m [30452], m [151795], m [151794], m [151833], m [151859], s 2 30494, m [30495], m [30538],
     m [16441], m [30603], m [16454], m [16534], m [152605], m [30798], m [30860], m [30924],
     m [16611], m [153126], m [31062], m [153242], m [153285], m [31119], m [31211], m [16687],
     m [31296], m [31306], m [31311], m [153980], c 2 154279, m [31470], m [16898], m [154539],
     m [31686], m [31689], m [16935], m [154752], m [31954], m [17056], m [31976], m [31971],
     m [32000], m [155526], m [32099], m [17153], m [32199], m [32258], m [32325], m [17204],
     m [156200], m [156231], m [17241], m [156377], m [32634], m [156478], m [32661], m [32762],
     m [32773], m [156890], m [156963], m [32864], m [157096], m [32880], m [144223], m [17365],
     m [32946], m [33027], m [17419], m [33086], m [23221], m [157607], m [157621], m [144275],
     m [144284], m [33281], m [33284], m [36766], m [17515], m [33425], m [33419], m [33437],
     m [21171], m [33457], m [33459], m [33469], m [33510], m [158524], m [33509], m [33565],
     m [33635], m [33709], m [33571], m [33725], m [33767], m [33879], m [33619], m [33738],
     m [33740], m [33756], m [158774], m [159083], m [158933], m [17707], m [34033], m [34035],
     m [34070], m [160714], m [34148], m [159532], m [17757], m [17761], m [159665], m [159954],
     m [17771], m [34384], m [34396], m [34407], m [34409], m [34473], m [34440], m [34574],
     m [34530], m [34681], m [34600], m [34667], m [34694], m [17879], m [34785], m [34817],
     m [17913], m [34912], m [34915], m [161383], m [35031], m [35038], m [17973], m [35066],
     m [13499], m [161966], m [162150], m [18110], m [18119], m [35488], m [35565], m [35722],
     m [35925], m [162984], m [36011], m [36033], m [36123], m [36215], m [163631], m [133124],
     m [36299], m [36284], m [36336], m [133342], m [36564], m [36664], m [165330], m [165357],
     m [37012], m [37105], m [37137], m [165678], m [37147], m [37432], s 2 37591, m [37500],
     m [37881], m [37909], m [166906], m [38283], m [18837], m [38327], m [167287], m [18918],
     m [38595], m [23986], m [38691], m [168261], m [168474], m [19054], m [19062], m [38880],
     m [168970], m [19122], m [169110], c 2 38923, m [38953], m [169398], m [39138], m [19251],
     m [39209], m [39335], m [39362], m [39422], m [19406], m [170800], m [39698], m [40000],
     m [40189], m [19662], m [19693], m [40295], m [172238], m [19704], m [172293], m [172558],
     m [172689], m [40635], m [19798], m [40697], m [40702], m [40709], m [40719], m [40726],
     m [40763], m [173568], x 1506, v 4939, x 5, v 8490, x 707718, i 240, x 196112]

end

/-- The runs of all code points. -/
def hostRuns : List (Nat × HostRun) :=
  List.flatten [hostRuns0, hostRuns1, hostRuns2, hostRuns3, hostRuns4, hostRuns5, hostRuns6]

/-- The runs of a table: where each ends, and its kind. -/
structure HostTable where
  bounds : Array Nat
  runs : Array HostRun

/-- The table of runs with their lengths. -/
def HostTable.ofRuns (runs : List (Nat × HostRun)) : HostTable :=
  ⟨(Text.runningTotals 0 (runs.map (·.1))).toArray, (runs.map (·.2)).toArray⟩

/-- The table of all code points. -/
@[irreducible]
def hostTable : HostTable := HostTable.ofRuns hostRuns

/-- What becomes of a character of a host name. -/
def hostStatus (c : Char) : HostStatus :=
  let i := Text.countUpTo hostTable.bounds c.toNat 0 hostTable.bounds.size
  let start := if i = 0 then 0 else hostTable.bounds.getD (i - 1) 0
  match hostTable.runs.getD i .disallowed with
  | .valid => .valid
  | .ignored => .ignored
  | .disallowed => .disallowed
  | .shifted first => .mapped [Char.ofNat (first + (c.toNat - start))]
  | .constant target => .mapped [Char.ofNat target]
  | .pairs => if (c.toNat - start) % 2 = 0 then .mapped [Char.ofNat (c.toNat + 1)] else .valid
  | .mapped targets => .mapped (targets.map Char.ofNat)

end NodeFleet.Unicode
