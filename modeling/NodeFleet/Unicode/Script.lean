import NodeFleet.Text.RunTable

/-!
Properties of characters that decide in which places of a host name they may stand: marks,
directions, and the joining of letters.
-/

namespace NodeFleet.Unicode

/-- The lengths of the runs of code points that are no marks and of those that are. -/
def markLengths : List Nat :=
    [768, 112, 275, 7, 263, 45, 1, 1, 1, 2, 1, 2, 1, 1, 72, 11, 48, 21, 16, 1, 101, 7, 2, 6, 2, 2,
     1, 4, 35, 1, 30, 27, 91, 11, 58, 9, 9, 1, 24, 4, 1, 9, 1, 3, 1, 5, 43, 3, 59, 9, 42, 24, 1, 33,
     54, 3, 1, 18, 1, 7, 10, 2, 29, 3, 56, 1, 1, 7, 2, 2, 2, 3, 9, 1, 10, 2, 26, 1, 2, 3, 56, 1, 1,
     5, 4, 2, 2, 3, 3, 1, 30, 2, 3, 1, 11, 3, 56, 1, 1, 8, 1, 3, 1, 3, 20, 2, 22, 6, 1, 3, 56, 1, 1,
     7, 2, 2, 2, 3, 7, 3, 10, 2, 30, 1, 59, 5, 3, 3, 1, 4, 9, 1, 40, 5, 55, 1, 1, 7, 1, 3, 1, 4, 7,
     2, 11, 2, 29, 3, 56, 1, 1, 7, 1, 3, 1, 4, 7, 2, 11, 2, 15, 1, 12, 4, 55, 2, 1, 7, 1, 3, 1, 4,
     9, 1, 10, 2, 29, 3, 70, 1, 4, 6, 1, 1, 1, 8, 18, 2, 61, 1, 2, 7, 12, 8, 98, 1, 2, 9, 11, 7, 73,
     2, 27, 1, 1, 1, 1, 1, 4, 2, 49, 20, 1, 2, 5, 11, 1, 36, 9, 1, 100, 20, 23, 4, 4, 3, 1, 3, 2, 7,
     3, 4, 13, 12, 1, 1, 10, 4, 703, 3, 946, 4, 28, 3, 29, 2, 30, 2, 64, 32, 9, 1, 45, 3, 1, 1, 117,
     2, 34, 1, 118, 12, 4, 12, 219, 5, 57, 10, 1, 29, 2, 1, 48, 46, 2, 12, 20, 5, 47, 17, 38, 9, 12,
     3, 30, 13, 56, 14, 48, 20, 152, 3, 1, 21, 4, 1, 6, 1, 2, 3, 198, 64, 720, 33, 3070, 3, 141, 1,
     96, 32, 554, 6, 105, 2, 30164, 4, 1, 10, 32, 2, 80, 2, 272, 1, 3, 1, 4, 1, 23, 5, 4, 1, 83, 2,
     50, 18, 26, 18, 13, 1, 38, 8, 25, 13, 44, 4, 47, 14, 36, 1, 67, 14, 12, 1, 8, 2, 45, 3, 50, 1,
     1, 3, 2, 2, 5, 2, 1, 1, 41, 5, 5, 2, 236, 8, 1, 2, 20272, 1, 737, 16, 16, 16, 973, 1, 226, 1,
     149, 5, 1670, 3, 1, 2, 5, 4, 40, 3, 4, 1, 165, 2, 573, 4, 65, 5, 317, 2, 77, 6, 70, 11, 49, 4,
     122, 3, 53, 15, 41, 1, 2, 2, 10, 4, 45, 11, 7, 1, 61, 3, 36, 14, 16, 2, 44, 1, 12, 3, 48, 14,
     8, 4, 1, 2, 92, 12, 6, 1, 2, 1, 157, 12, 21, 4, 55, 2, 1, 7, 2, 2, 2, 3, 9, 1, 10, 2, 2, 7, 3,
     5, 67, 9, 1, 1, 2, 1, 1, 4, 1, 5, 1, 1, 14, 2, 82, 18, 23, 1, 81, 20, 235, 7, 2, 9, 27, 2, 82,
     17, 106, 13, 101, 15, 256, 15, 245, 6, 1, 2, 2, 4, 1, 1, 1, 2, 141, 7, 2, 7, 3, 1, 28, 10, 40,
     7, 1, 4, 8, 1, 9, 11, 46, 16, 198, 8, 199, 8, 1, 8, 82, 22, 1, 14, 122, 6, 3, 1, 1, 2, 1, 7, 1,
     1, 66, 5, 1, 2, 1, 5, 347, 4, 9, 2, 1, 1, 48, 7, 3, 5, 23, 1, 5349, 1, 6, 15, 11464, 18, 2496,
     5, 59, 7, 1048, 1, 1, 55, 7, 4, 81, 1, 11, 2, 19627, 2, 4705, 46, 2, 23, 542, 5, 3, 6, 8, 8, 2,
     7, 30, 4, 148, 3, 1979, 55, 4, 50, 8, 1, 14, 1, 22, 5, 1, 15, 1360, 7, 1, 17, 2, 7, 1, 2, 1, 5,
     100, 1, 160, 7, 375, 1, 61, 4, 508, 4, 254, 2, 243, 1, 2, 1, 7, 2, 5, 1, 474, 7, 109, 7,
     792501, 240]

/-- The characters of the general category of marks. -/
@[irreducible]
def marks : Text.RunTable := Text.RunTable.ofLengths markLengths

/-- The classes of direction that the rules for host names tell apart. -/
inductive Direction where
  | other
  | leftToRight
  | rightToLeft
  | arabicLetter
  | arabicNumber
  | europeanNumber
  | europeanSeparator
  | commonSeparator
  | europeanTerminator
  | otherNeutral
  | boundaryNeutral
  | nonspacingMark
  deriving DecidableEq, Repr

/-- The runs of code points of one direction. -/
def directionRuns : List (Nat × Nat) :=
    [(9, 10), (5, 0), (14, 10), (5, 0), (2, 9), (3, 8), (5, 9), (1, 6), (1, 7), (1, 6), (2, 7),
     (10, 5), (1, 7), (6, 9), (26, 1), (6, 9), (26, 1), (4, 9), (6, 10), (1, 0), (26, 10), (1, 7),
     (1, 9), (4, 8), (4, 9), (1, 1), (2, 9), (1, 10), (2, 9), (2, 8), (2, 5), (1, 9), (1, 1),
     (3, 9), (1, 5), (1, 1), (5, 9), (23, 1), (1, 9), (31, 1), (1, 9), (449, 1), (2, 9), (7, 1),
     (14, 9), (2, 1), (14, 9), (5, 1), (9, 9), (1, 1), (17, 9), (112, 11), (4, 1), (2, 9), (8, 1),
     (1, 9), (5, 1), (2, 9), (1, 1), (1, 9), (110, 1), (1, 9), (140, 1), (7, 11), (256, 1), (1, 9),
     (2, 1), (2, 9), (1, 8), (1, 2), (45, 11), (1, 2), (1, 11), (1, 2), (2, 11), (1, 2), (2, 11),
     (1, 2), (1, 11), (56, 2), (6, 4), (2, 9), (1, 3), (2, 8), (1, 3), (1, 7), (1, 3), (2, 9),
     (11, 11), (48, 3), (21, 11), (10, 4), (1, 8), (2, 4), (3, 3), (1, 11), (101, 3), (7, 11),
     (1, 4), (1, 9), (6, 11), (2, 3), (2, 11), (1, 9), (4, 11), (2, 3), (10, 5), (23, 3), (1, 11),
     (30, 3), (27, 11), (91, 3), (11, 11), (15, 3), (43, 2), (9, 11), (2, 2), (4, 9), (3, 2),
     (1, 11), (24, 2), (4, 11), (1, 2), (9, 11), (1, 2), (3, 11), (1, 2), (5, 11), (43, 2), (3, 11),
     (4, 2), (48, 3), (2, 4), (6, 3), (8, 11), (42, 3), (24, 11), (1, 4), (32, 11), (55, 1),
     (1, 11), (1, 1), (1, 11), (4, 1), (8, 11), (4, 1), (1, 11), (3, 1), (7, 11), (10, 1), (2, 11),
     (29, 1), (1, 11), (58, 1), (1, 11), (4, 1), (4, 11), (8, 1), (1, 11), (20, 1), (2, 11),
     (14, 1), (2, 8), (7, 1), (1, 8), (2, 1), (1, 11), (2, 1), (2, 11), (57, 1), (1, 11), (4, 1),
     (2, 11), (4, 1), (2, 11), (2, 1), (3, 11), (3, 1), (1, 11), (30, 1), (2, 11), (3, 1), (1, 11),
     (11, 1), (2, 11), (57, 1), (1, 11), (4, 1), (5, 11), (1, 1), (2, 11), (4, 1), (1, 11), (20, 1),
     (2, 11), (13, 1), (1, 8), (8, 1), (6, 11), (1, 1), (1, 11), (58, 1), (1, 11), (2, 1), (1, 11),
     (1, 1), (4, 11), (8, 1), (1, 11), (7, 1), (2, 11), (11, 1), (2, 11), (30, 1), (1, 11), (61, 1),
     (1, 11), (12, 1), (1, 11), (37, 1), (6, 9), (1, 8), (1, 9), (5, 1), (1, 11), (3, 1), (1, 11),
     (55, 1), (1, 11), (1, 1), (3, 11), (5, 1), (3, 11), (1, 1), (4, 11), (7, 1), (2, 11), (11, 1),
     (2, 11), (20, 1), (7, 9), (2, 1), (1, 11), (58, 1), (1, 11), (15, 1), (2, 11), (20, 1),
     (2, 11), (28, 1), (2, 11), (57, 1), (2, 11), (4, 1), (4, 11), (8, 1), (1, 11), (20, 1),
     (2, 11), (29, 1), (1, 11), (72, 1), (1, 11), (7, 1), (3, 11), (1, 1), (1, 11), (90, 1),
     (1, 11), (2, 1), (7, 11), (4, 1), (1, 8), (7, 1), (8, 11), (98, 1), (1, 11), (2, 1), (9, 11),
     (11, 1), (7, 11), (73, 1), (2, 11), (27, 1), (1, 11), (1, 1), (1, 11), (1, 1), (1, 11), (4, 9),
     (51, 1), (14, 11), (1, 1), (5, 11), (1, 1), (2, 11), (5, 1), (11, 11), (1, 1), (36, 11),
     (9, 1), (1, 11), (102, 1), (4, 11), (1, 1), (6, 11), (1, 1), (2, 11), (2, 1), (2, 11), (25, 1),
     (2, 11), (4, 1), (3, 11), (16, 1), (4, 11), (13, 1), (1, 11), (2, 1), (2, 11), (6, 1), (1, 11),
     (15, 1), (1, 11), (703, 1), (3, 11), (48, 1), (10, 9), (102, 1), (1, 9), (639, 1), (1, 0),
     (26, 1), (2, 9), (117, 1), (3, 11), (29, 1), (2, 11), (30, 1), (2, 11), (30, 1), (2, 11),
     (64, 1), (2, 11), (1, 1), (7, 11), (8, 1), (1, 11), (2, 1), (11, 11), (7, 1), (1, 8), (1, 1),
     (1, 11), (18, 1), (10, 9), (6, 1), (11, 9), (3, 11), (1, 10), (1, 11), (117, 1), (2, 11),
     (34, 1), (1, 11), (118, 1), (3, 11), (4, 1), (2, 11), (9, 1), (1, 11), (6, 1), (3, 11), (4, 1),
     (1, 9), (3, 1), (2, 9), (152, 1), (34, 9), (23, 1), (2, 11), (2, 1), (1, 11), (58, 1), (1, 11),
     (1, 1), (7, 11), (1, 1), (1, 11), (1, 1), (1, 11), (2, 1), (8, 11), (6, 1), (10, 11), (2, 1),
     (1, 11), (48, 1), (31, 11), (49, 1), (4, 11), (48, 1), (1, 11), (1, 1), (5, 11), (1, 1),
     (1, 11), (5, 1), (1, 11), (40, 1), (9, 11), (12, 1), (2, 11), (32, 1), (4, 11), (2, 1),
     (2, 11), (1, 1), (3, 11), (56, 1), (1, 11), (1, 1), (2, 11), (3, 1), (1, 11), (1, 1), (3, 11),
     (58, 1), (8, 11), (2, 1), (2, 11), (152, 1), (3, 11), (1, 1), (13, 11), (1, 1), (7, 11),
     (4, 1), (1, 11), (6, 1), (1, 11), (3, 1), (2, 11), (198, 1), (64, 11), (445, 1), (1, 9),
     (1, 1), (3, 9), (11, 1), (3, 9), (13, 1), (3, 9), (13, 1), (3, 9), (13, 1), (2, 9), (1, 1),
     (11, 0), (3, 10), (1, 1), (1, 2), (24, 9), (7, 0), (1, 7), (5, 8), (15, 9), (1, 7), (26, 9),
     (1, 0), (6, 10), (4, 0), (6, 10), (1, 5), (3, 1), (6, 5), (2, 6), (3, 9), (1, 1), (10, 5),
     (2, 6), (3, 9), (17, 1), (48, 8), (33, 11), (15, 1), (2, 9), (1, 1), (4, 9), (1, 1), (2, 9),
     (10, 1), (1, 9), (1, 1), (3, 9), (5, 1), (6, 9), (1, 1), (1, 9), (1, 1), (1, 9), (1, 1),
     (1, 9), (4, 1), (1, 8), (11, 1), (2, 9), (4, 1), (5, 9), (5, 1), (4, 9), (2, 1), (16, 9),
     (41, 1), (3, 9), (4, 1), (130, 9), (1, 6), (1, 8), (290, 9), (69, 1), (26, 9), (1, 1),
     (145, 9), (25, 1), (11, 9), (21, 1), (40, 9), (20, 5), (78, 1), (450, 9), (1, 1), (339, 9),
     (256, 1), (628, 9), (2, 1), (32, 9), (1, 1), (105, 9), (229, 1), (6, 9), (4, 1), (3, 11),
     (7, 1), (7, 9), (127, 1), (1, 11), (96, 1), (32, 11), (94, 9), (34, 1), (26, 9), (1, 1),
     (89, 9), (12, 1), (214, 9), (26, 1), (12, 9), (4, 1), (1, 0), (4, 9), (3, 1), (25, 9), (9, 1),
     (4, 11), (2, 1), (1, 9), (5, 1), (2, 9), (5, 1), (3, 9), (89, 1), (2, 11), (2, 9), (3, 1),
     (1, 9), (90, 1), (1, 9), (196, 1), (36, 9), (57, 1), (2, 9), (49, 1), (16, 9), (28, 1), (3, 9),
     (50, 1), (15, 9), (12, 1), (4, 9), (167, 1), (4, 9), (99, 1), (2, 9), (31, 1), (1, 9),
     (6592, 1), (64, 9), (22160, 1), (55, 9), (326, 1), (3, 9), (95, 1), (4, 11), (1, 9), (10, 11),
     (2, 9), (30, 1), (2, 11), (80, 1), (2, 11), (14, 1), (34, 9), (102, 1), (1, 9), (121, 1),
     (1, 11), (3, 1), (1, 11), (4, 1), (1, 11), (25, 1), (2, 11), (1, 1), (4, 9), (1, 11), (11, 1),
     (2, 8), (58, 1), (4, 9), (76, 1), (2, 11), (26, 1), (18, 11), (13, 1), (1, 11), (38, 1),
     (8, 11), (25, 1), (11, 11), (46, 1), (3, 11), (48, 1), (1, 11), (2, 1), (4, 11), (2, 1),
     (2, 11), (39, 1), (1, 11), (67, 1), (6, 11), (2, 1), (2, 11), (2, 1), (2, 11), (12, 1),
     (1, 11), (8, 1), (1, 11), (47, 1), (1, 11), (51, 1), (1, 11), (1, 1), (3, 11), (2, 1), (2, 11),
     (5, 1), (2, 11), (1, 1), (1, 11), (42, 1), (2, 11), (8, 1), (1, 11), (115, 1), (2, 9),
     (121, 1), (1, 11), (2, 1), (1, 11), (4, 1), (1, 11), (20271, 1), (1, 2), (1, 11), (10, 2),
     (1, 6), (38, 2), (494, 3), (18, 9), (127, 3), (1, 9), (32, 10), (13, 3), (3, 9), (16, 11),
     (10, 9), (6, 1), (16, 11), (32, 9), (1, 7), (1, 9), (1, 7), (1, 1), (1, 9), (1, 7), (9, 9),
     (1, 8), (2, 9), (2, 6), (3, 9), (1, 1), (1, 9), (2, 8), (1, 9), (4, 1), (143, 3), (1, 10),
     (1, 1), (2, 9), (3, 8), (5, 9), (1, 6), (1, 7), (1, 6), (2, 7), (10, 5), (1, 7), (6, 9),
     (26, 1), (6, 9), (26, 1), (11, 9), (122, 1), (2, 8), (3, 9), (2, 8), (1, 1), (7, 9), (1, 1),
     (9, 10), (5, 9), (2, 10), (257, 1), (1, 9), (62, 1), (77, 9), (3, 1), (13, 9), (3, 1), (1, 9),
     (92, 1), (1, 11), (226, 1), (1, 11), (27, 5), (122, 1), (5, 11), (1157, 1), (287, 2), (1, 9),
     (225, 2), (3, 11), (1, 2), (2, 11), (5, 2), (4, 11), (40, 2), (3, 11), (4, 2), (1, 11),
     (165, 2), (2, 11), (82, 2), (7, 9), (448, 2), (36, 3), (4, 11), (8, 3), (10, 4), (6, 3),
     (288, 2), (31, 4), (44, 2), (2, 11), (19, 2), (61, 3), (3, 11), (48, 2), (22, 3), (11, 11),
     (31, 3), (18, 2), (4, 11), (122, 2), (1, 1), (1, 11), (54, 1), (15, 11), (11, 1), (20, 9),
     (10, 1), (1, 11), (2, 1), (2, 11), (10, 1), (3, 11), (49, 1), (4, 11), (2, 1), (2, 11), (7, 1),
     (1, 11), (61, 1), (3, 11), (36, 1), (5, 11), (1, 1), (8, 11), (62, 1), (1, 11), (12, 1),
     (2, 11), (52, 1), (9, 11), (10, 1), (4, 11), (2, 1), (1, 11), (95, 1), (3, 11), (2, 1),
     (1, 11), (1, 1), (2, 11), (6, 1), (1, 11), (2, 1), (1, 11), (157, 1), (1, 11), (3, 1), (8, 11),
     (21, 1), (2, 11), (57, 1), (2, 11), (3, 1), (1, 11), (37, 1), (7, 11), (3, 1), (5, 11),
     (195, 1), (8, 11), (2, 1), (3, 11), (1, 1), (1, 11), (23, 1), (1, 11), (84, 1), (6, 11),
     (1, 1), (1, 11), (4, 1), (2, 11), (1, 1), (2, 11), (238, 1), (4, 11), (6, 1), (2, 11), (1, 1),
     (2, 11), (27, 1), (2, 11), (85, 1), (8, 11), (2, 1), (1, 11), (1, 1), (2, 11), (31, 1),
     (13, 9), (62, 1), (1, 11), (1, 1), (1, 11), (2, 1), (6, 11), (1, 1), (1, 11), (101, 1),
     (3, 11), (2, 1), (4, 11), (1, 1), (5, 11), (259, 1), (9, 11), (1, 1), (2, 11), (256, 1),
     (2, 11), (1, 1), (1, 11), (4, 1), (1, 11), (144, 1), (4, 11), (2, 1), (2, 11), (4, 1), (1, 11),
     (32, 1), (6, 11), (2, 1), (2, 11), (40, 1), (6, 11), (2, 1), (4, 11), (8, 1), (1, 11), (9, 1),
     (6, 11), (2, 1), (3, 11), (46, 1), (13, 11), (1, 1), (2, 11), (406, 1), (7, 11), (1, 1),
     (6, 11), (84, 1), (22, 11), (2, 1), (7, 11), (1, 1), (2, 11), (1, 1), (2, 11), (122, 1),
     (6, 11), (3, 1), (1, 11), (1, 1), (2, 11), (1, 1), (7, 11), (1, 1), (1, 11), (72, 1), (2, 11),
     (3, 1), (1, 11), (1, 1), (1, 11), (347, 1), (2, 11), (11, 1), (2, 11), (52, 1), (5, 11),
     (5, 1), (1, 11), (1, 1), (1, 11), (146, 1), (8, 9), (4, 8), (17, 9), (5198, 1), (1, 11),
     (6, 1), (15, 11), (13978, 1), (5, 11), (59, 1), (7, 11), (1048, 1), (1, 11), (63, 1), (4, 11),
     (79, 1), (1, 9), (1, 1), (1, 11), (19640, 1), (2, 11), (1, 1), (4, 10), (4700, 1), (46, 11),
     (2, 1), (23, 11), (544, 1), (3, 11), (9, 1), (8, 10), (8, 11), (2, 1), (7, 11), (30, 1),
     (4, 11), (59, 1), (2, 9), (21, 1), (66, 9), (3, 11), (1, 9), (186, 1), (87, 9), (900, 1),
     (1, 9), (57, 1), (1, 9), (57, 1), (1, 9), (57, 1), (1, 9), (57, 1), (1, 9), (10, 1), (50, 5),
     (512, 1), (55, 11), (4, 1), (50, 11), (8, 1), (1, 11), (14, 1), (1, 11), (22, 1), (5, 11),
     (1, 1), (15, 11), (1360, 1), (7, 11), (1, 1), (17, 11), (2, 1), (7, 11), (1, 1), (2, 11),
     (1, 1), (5, 11), (100, 1), (1, 11), (160, 1), (7, 11), (375, 1), (1, 11), (61, 1), (4, 11),
     (15, 1), (1, 8), (492, 1), (4, 11), (784, 1), (208, 2), (7, 11), (109, 2), (7, 11), (805, 2),
     (80, 3), (64, 2), (80, 3), (176, 2), (240, 3), (2, 9), (14, 3), (256, 2), (44, 9), (4, 1),
     (100, 9), (12, 1), (15, 9), (2, 1), (15, 9), (1, 1), (15, 9), (1, 1), (37, 9), (10, 1),
     (11, 5), (5, 9), (31, 1), (1, 9), (58, 1), (6, 9), (61, 1), (1, 9), (178, 1), (6, 9), (154, 1),
     (984, 9), (4, 1), (17, 9), (3, 1), (13, 9), (3, 1), (119, 9), (4, 1), (95, 9), (6, 1), (12, 9),
     (4, 1), (1, 9), (15, 1), (12, 9), (4, 1), (56, 9), (8, 1), (10, 9), (6, 1), (40, 9), (8, 1),
     (30, 9), (2, 1), (2, 9), (78, 1), (340, 9), (12, 1), (14, 9), (2, 1), (13, 9), (3, 1), (9, 9),
     (7, 1), (46, 9), (1, 1), (7, 9), (8, 1), (14, 9), (4, 1), (9, 9), (7, 1), (9, 9), (7, 1),
     (147, 9), (1, 1), (55, 9), (37, 1), (10, 5), (1028, 1), (2, 10), (65534, 1), (2, 10),
     (65534, 1), (2, 10), (65534, 1), (2, 10), (65534, 1), (2, 10), (65534, 1), (2, 10), (65534, 1),
     (2, 10), (65534, 1), (2, 10), (65534, 1), (2, 10), (65534, 1), (2, 10), (65534, 1), (2, 10),
     (65534, 1), (2, 10), (65534, 1), (258, 10), (240, 11), (3600, 10), (61438, 1), (2, 10),
     (65534, 1), (2, 10), (65534, 1), (2, 10), (0, 1)]

/-- The property Bidi_Class, by the position of the class in `Direction`. -/
@[irreducible]
def directions : Text.RunMap := Text.RunMap.ofRuns directionRuns

/-- The direction of a character. -/
def direction (c : Char) : Direction :=
  match directions.get c.toNat with
  | 1 => .leftToRight
  | 2 => .rightToLeft
  | 3 => .arabicLetter
  | 4 => .arabicNumber
  | 5 => .europeanNumber
  | 6 => .europeanSeparator
  | 7 => .commonSeparator
  | 8 => .europeanTerminator
  | 9 => .otherNeutral
  | 10 => .boundaryNeutral
  | 11 => .nonspacingMark
  | _ => .other

/-- The ways in which a letter joins its neighbours. -/
inductive Joining where
  | none
  | left
  | dual
  | right
  | transparent
  deriving DecidableEq, Repr

/-- The runs of code points of one joining type. -/
def joiningRuns : List (Nat × Nat) :=
    [(173, 0), (1, 4), (594, 0), (112, 4), (275, 0), (7, 4), (263, 0), (45, 4), (1, 0), (1, 4),
     (1, 0), (2, 4), (1, 0), (2, 4), (1, 0), (1, 4), (72, 0), (11, 4), (1, 0), (1, 4), (3, 0),
     (1, 2), (1, 0), (4, 3), (1, 2), (1, 3), (1, 2), (1, 3), (5, 2), (4, 3), (13, 2), (1, 0),
     (7, 2), (1, 3), (2, 2), (21, 4), (14, 0), (2, 2), (1, 4), (3, 3), (1, 0), (3, 3), (16, 2),
     (18, 3), (38, 2), (1, 3), (2, 2), (9, 3), (1, 2), (1, 3), (1, 2), (1, 3), (2, 2), (2, 3),
     (1, 0), (1, 3), (7, 4), (2, 0), (6, 4), (2, 0), (2, 4), (1, 0), (4, 4), (2, 3), (10, 0),
     (3, 2), (2, 0), (1, 2), (15, 0), (1, 4), (1, 3), (1, 4), (3, 2), (5, 3), (4, 2), (1, 3),
     (9, 2), (1, 3), (1, 2), (1, 3), (1, 2), (1, 3), (2, 2), (1, 3), (27, 4), (2, 0), (1, 3),
     (11, 2), (3, 3), (15, 2), (2, 3), (4, 2), (1, 3), (1, 2), (2, 3), (3, 2), (2, 3), (6, 2),
     (38, 0), (11, 4), (25, 0), (33, 2), (9, 4), (9, 0), (1, 4), (24, 0), (4, 4), (1, 0), (9, 4),
     (1, 0), (3, 4), (1, 0), (5, 4), (18, 0), (1, 3), (5, 2), (2, 3), (1, 2), (1, 3), (10, 2),
     (1, 3), (1, 2), (3, 3), (3, 4), (4, 0), (1, 2), (1, 0), (4, 2), (1, 0), (1, 3), (1, 2), (2, 3),
     (5, 0), (19, 3), (3, 0), (1, 2), (2, 0), (5, 2), (1, 3), (9, 0), (8, 4), (10, 2), (3, 3),
     (1, 0), (1, 3), (2, 2), (2, 3), (6, 2), (1, 3), (15, 2), (1, 0), (24, 4), (1, 0), (32, 4),
     (55, 0), (1, 4), (1, 0), (1, 4), (4, 0), (8, 4), (4, 0), (1, 4), (3, 0), (7, 4), (10, 0),
     (2, 4), (29, 0), (1, 4), (58, 0), (1, 4), (4, 0), (4, 4), (8, 0), (1, 4), (20, 0), (2, 4),
     (26, 0), (1, 4), (2, 0), (2, 4), (57, 0), (1, 4), (4, 0), (2, 4), (4, 0), (2, 4), (2, 0),
     (3, 4), (3, 0), (1, 4), (30, 0), (2, 4), (3, 0), (1, 4), (11, 0), (2, 4), (57, 0), (1, 4),
     (4, 0), (5, 4), (1, 0), (2, 4), (4, 0), (1, 4), (20, 0), (2, 4), (22, 0), (6, 4), (1, 0),
     (1, 4), (58, 0), (1, 4), (2, 0), (1, 4), (1, 0), (4, 4), (8, 0), (1, 4), (7, 0), (2, 4),
     (11, 0), (2, 4), (30, 0), (1, 4), (61, 0), (1, 4), (12, 0), (1, 4), (50, 0), (1, 4), (3, 0),
     (1, 4), (55, 0), (1, 4), (1, 0), (3, 4), (5, 0), (3, 4), (1, 0), (4, 4), (7, 0), (2, 4),
     (11, 0), (2, 4), (29, 0), (1, 4), (58, 0), (1, 4), (2, 0), (1, 4), (6, 0), (1, 4), (5, 0),
     (2, 4), (20, 0), (2, 4), (28, 0), (2, 4), (57, 0), (2, 4), (4, 0), (4, 4), (8, 0), (1, 4),
     (20, 0), (2, 4), (29, 0), (1, 4), (72, 0), (1, 4), (7, 0), (3, 4), (1, 0), (1, 4), (90, 0),
     (1, 4), (2, 0), (7, 4), (12, 0), (8, 4), (98, 0), (1, 4), (2, 0), (9, 4), (11, 0), (7, 4),
     (73, 0), (2, 4), (27, 0), (1, 4), (1, 0), (1, 4), (1, 0), (1, 4), (55, 0), (14, 4), (1, 0),
     (5, 4), (1, 0), (2, 4), (5, 0), (11, 4), (1, 0), (36, 4), (9, 0), (1, 4), (102, 0), (4, 4),
     (1, 0), (6, 4), (1, 0), (2, 4), (2, 0), (2, 4), (25, 0), (2, 4), (4, 0), (3, 4), (16, 0),
     (4, 4), (13, 0), (1, 4), (2, 0), (2, 4), (6, 0), (1, 4), (15, 0), (1, 4), (703, 0), (3, 4),
     (946, 0), (3, 4), (29, 0), (2, 4), (30, 0), (2, 4), (30, 0), (2, 4), (64, 0), (2, 4), (1, 0),
     (7, 4), (8, 0), (1, 4), (2, 0), (11, 4), (9, 0), (1, 4), (41, 0), (1, 2), (3, 0), (3, 4),
     (1, 0), (1, 4), (16, 0), (89, 2), (12, 0), (2, 4), (34, 2), (1, 4), (1, 2), (117, 0), (3, 4),
     (4, 0), (2, 4), (9, 0), (1, 4), (6, 0), (3, 4), (219, 0), (2, 4), (2, 0), (1, 4), (58, 0),
     (1, 4), (1, 0), (7, 4), (1, 0), (1, 4), (1, 0), (1, 4), (2, 0), (8, 4), (6, 0), (10, 4),
     (2, 0), (1, 4), (48, 0), (31, 4), (49, 0), (4, 4), (48, 0), (1, 4), (1, 0), (5, 4), (1, 0),
     (1, 4), (5, 0), (1, 4), (40, 0), (9, 4), (12, 0), (2, 4), (32, 0), (4, 4), (2, 0), (2, 4),
     (1, 0), (3, 4), (56, 0), (1, 4), (1, 0), (2, 4), (3, 0), (1, 4), (1, 0), (3, 4), (58, 0),
     (8, 4), (2, 0), (2, 4), (152, 0), (3, 4), (1, 0), (13, 4), (1, 0), (7, 4), (4, 0), (1, 4),
     (6, 0), (1, 4), (3, 0), (2, 4), (198, 0), (64, 4), (523, 0), (1, 4), (2, 0), (2, 4), (26, 0),
     (5, 4), (49, 0), (5, 4), (5, 0), (6, 4), (96, 0), (33, 4), (3070, 0), (3, 4), (141, 0), (1, 4),
     (96, 0), (32, 4), (554, 0), (4, 4), (107, 0), (2, 4), (30164, 0), (4, 4), (1, 0), (10, 4),
     (32, 0), (2, 4), (80, 0), (2, 4), (272, 0), (1, 4), (3, 0), (1, 4), (4, 0), (1, 4), (25, 0),
     (2, 4), (5, 0), (1, 4), (19, 0), (50, 2), (1, 1), (81, 0), (2, 4), (26, 0), (18, 4), (13, 0),
     (1, 4), (38, 0), (8, 4), (25, 0), (11, 4), (46, 0), (3, 4), (48, 0), (1, 4), (2, 0), (4, 4),
     (2, 0), (2, 4), (39, 0), (1, 4), (67, 0), (6, 4), (2, 0), (2, 4), (2, 0), (2, 4), (12, 0),
     (1, 4), (8, 0), (1, 4), (47, 0), (1, 4), (51, 0), (1, 4), (1, 0), (3, 4), (2, 0), (2, 4),
     (5, 0), (2, 4), (1, 0), (1, 4), (42, 0), (2, 4), (8, 0), (1, 4), (238, 0), (1, 4), (2, 0),
     (1, 4), (4, 0), (1, 4), (20272, 0), (1, 4), (737, 0), (16, 4), (16, 0), (16, 4), (207, 0),
     (1, 4), (249, 0), (3, 4), (513, 0), (1, 4), (226, 0), (1, 4), (149, 0), (5, 4), (1670, 0),
     (3, 4), (1, 0), (2, 4), (5, 0), (4, 4), (40, 0), (3, 4), (4, 0), (1, 4), (128, 0), (5, 2),
     (1, 3), (1, 0), (1, 3), (1, 0), (2, 3), (2, 0), (1, 1), (5, 3), (4, 2), (1, 1), (5, 2), (1, 3),
     (3, 2), (1, 3), (2, 0), (1, 3), (2, 4), (4, 0), (4, 2), (1, 3), (144, 0), (1, 2), (1, 3),
     (1, 2), (3, 3), (3, 2), (1, 3), (2, 2), (1, 3), (1, 2), (2, 3), (1, 2), (1, 3), (23, 0),
     (4, 3), (2, 2), (337, 0), (1, 1), (33, 2), (1, 3), (1, 2), (4, 4), (387, 0), (2, 4), (80, 0),
     (3, 4), (48, 0), (3, 2), (1, 3), (17, 2), (1, 0), (11, 4), (3, 2), (1, 3), (27, 0), (4, 2),
     (2, 3), (12, 2), (4, 4), (42, 0), (1, 2), (1, 0), (2, 2), (3, 3), (1, 0), (1, 2), (2, 3),
     (2, 2), (1, 3), (2, 2), (1, 0), (1, 2), (2, 3), (1, 2), (4, 0), (1, 3), (1, 2), (1, 1),
     (53, 0), (1, 4), (54, 0), (15, 4), (41, 0), (1, 4), (2, 0), (2, 4), (10, 0), (3, 4), (49, 0),
     (4, 4), (2, 0), (2, 4), (7, 0), (1, 4), (61, 0), (3, 4), (36, 0), (5, 4), (1, 0), (8, 4),
     (62, 0), (1, 4), (12, 0), (2, 4), (52, 0), (9, 4), (10, 0), (4, 4), (2, 0), (1, 4), (95, 0),
     (3, 4), (2, 0), (1, 4), (1, 0), (2, 4), (6, 0), (1, 4), (2, 0), (1, 4), (157, 0), (1, 4),
     (3, 0), (8, 4), (21, 0), (2, 4), (57, 0), (2, 4), (3, 0), (1, 4), (37, 0), (7, 4), (3, 0),
     (5, 4), (195, 0), (8, 4), (2, 0), (3, 4), (1, 0), (1, 4), (23, 0), (1, 4), (84, 0), (6, 4),
     (1, 0), (1, 4), (4, 0), (2, 4), (1, 0), (2, 4), (238, 0), (4, 4), (6, 0), (2, 4), (1, 0),
     (2, 4), (27, 0), (2, 4), (85, 0), (8, 4), (2, 0), (1, 4), (1, 0), (2, 4), (106, 0), (1, 4),
     (1, 0), (1, 4), (2, 0), (6, 4), (1, 0), (1, 4), (101, 0), (3, 4), (2, 0), (4, 4), (1, 0),
     (5, 4), (259, 0), (9, 4), (1, 0), (2, 4), (256, 0), (2, 4), (1, 0), (1, 4), (4, 0), (1, 4),
     (144, 0), (4, 4), (2, 0), (2, 4), (4, 0), (1, 4), (32, 0), (10, 4), (40, 0), (6, 4), (2, 0),
     (4, 4), (8, 0), (1, 4), (9, 0), (6, 4), (2, 0), (3, 4), (46, 0), (13, 4), (1, 0), (2, 4),
     (406, 0), (7, 4), (1, 0), (6, 4), (1, 0), (1, 4), (82, 0), (22, 4), (2, 0), (7, 4), (1, 0),
     (2, 4), (1, 0), (2, 4), (122, 0), (6, 4), (3, 0), (1, 4), (1, 0), (2, 4), (1, 0), (7, 4),
     (1, 0), (1, 4), (72, 0), (2, 4), (3, 0), (1, 4), (1, 0), (1, 4), (347, 0), (2, 4), (11, 0),
     (2, 4), (52, 0), (5, 4), (5, 0), (1, 4), (1, 0), (1, 4), (5357, 0), (17, 4), (6, 0), (15, 4),
     (13978, 0), (5, 4), (59, 0), (7, 4), (1048, 0), (1, 4), (63, 0), (4, 4), (81, 0), (1, 4),
     (19640, 0), (2, 4), (1, 0), (4, 4), (4700, 0), (46, 4), (2, 0), (23, 4), (544, 0), (3, 4),
     (9, 0), (16, 4), (2, 0), (7, 4), (30, 0), (4, 4), (148, 0), (3, 4), (1979, 0), (55, 4), (4, 0),
     (50, 4), (8, 0), (1, 4), (14, 0), (1, 4), (22, 0), (5, 4), (1, 0), (15, 4), (1360, 0), (7, 4),
     (1, 0), (17, 4), (2, 0), (7, 4), (1, 0), (2, 4), (1, 0), (5, 4), (100, 0), (1, 4), (160, 0),
     (7, 4), (375, 0), (1, 4), (61, 0), (4, 4), (508, 0), (4, 4), (992, 0), (7, 4), (41, 0),
     (68, 2), (8, 4), (792245, 0), (1, 4), (30, 0), (96, 4), (128, 0), (240, 4), (0, 0)]

/-- The property Joining_Type, by the position of the type in `Joining`. -/
@[irreducible]
def joinings : Text.RunMap := Text.RunMap.ofRuns joiningRuns

/-- The joining type of a character. -/
def joining (c : Char) : Joining :=
  match joinings.get c.toNat with
  | 1 => .left
  | 2 => .dual
  | 3 => .right
  | 4 => .transparent
  | _ => .none

end NodeFleet.Unicode
