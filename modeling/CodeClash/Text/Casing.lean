import Mathlib.Data.List.Basic

/-!
# Letter case, blanks and words

Lower-casing by the letters of Unicode 14. A capital sigma becomes another letter at the end of a
word than elsewhere, and which of them end a word is left open.
-/

namespace CodeClash.Text

/-- Every run of blanks becomes one space. The flag is set inside a run. -/
def collapse (blank : Char → Bool) : Bool → List Char → List Char
  | _, [] => []
  | inRun, c :: rest =>
    if blank c then
      if inRun then collapse blank true rest else ' ' :: collapse blank true rest
    else c :: collapse blank false rest

/-- Replace the words of a text, where the first argument after the function is the word so
far. -/
def mapWords (isWordChar : Char → Bool) (change : List Char → List Char) :
    List Char → List Char → List Char
  | word, [] => change word
  | word, c :: rest =>
    if isWordChar c then mapWords isWordChar change (word ++ [c]) rest
    else change word ++ c :: mapWords isWordChar change [] rest

/-- Capitals in a row: the first, how many there are, and the small letter of the first. -/
def rows : List (ℕ × ℕ × ℕ) :=
  [(65, 26, 97), (192, 23, 224), (216, 7, 248), (376, 1, 255), (385, 1, 595), (390, 1, 596),
    (393, 2, 598), (398, 1, 477), (399, 1, 601), (400, 1, 603), (403, 1, 608), (404, 1, 611),
    (406, 1, 617), (407, 1, 616), (412, 1, 623), (413, 1, 626), (415, 1, 629), (422, 1, 640),
    (425, 1, 643), (430, 1, 648), (433, 2, 650), (439, 1, 658), (452, 1, 454), (455, 1, 457),
    (458, 1, 460), (497, 1, 499), (502, 1, 405), (503, 1, 447), (544, 1, 414), (570, 1, 11365),
    (573, 1, 410), (574, 1, 11366), (579, 1, 384), (580, 1, 649), (581, 1, 652), (895, 1, 1011),
    (902, 1, 940), (904, 3, 941), (908, 1, 972), (910, 2, 973), (913, 17, 945), (931, 9, 963),
    (975, 1, 983), (1012, 1, 952), (1017, 1, 1010), (1021, 3, 891), (1024, 16, 1104),
    (1040, 32, 1072), (1216, 1, 1231), (1329, 38, 1377), (4256, 38, 11520), (4295, 1, 11559),
    (4301, 1, 11565), (5024, 80, 43888), (5104, 6, 5112), (7312, 43, 4304), (7357, 3, 4349),
    (7838, 1, 223), (7944, 8, 7936), (7960, 6, 7952), (7976, 8, 7968), (7992, 8, 7984),
    (8008, 6, 8000), (8025, 1, 8017), (8027, 1, 8019), (8029, 1, 8021), (8031, 1, 8023),
    (8040, 8, 8032), (8072, 8, 8064), (8088, 8, 8080), (8104, 8, 8096), (8120, 2, 8112),
    (8122, 2, 8048), (8124, 1, 8115), (8136, 4, 8050), (8140, 1, 8131), (8152, 2, 8144),
    (8154, 2, 8054), (8168, 2, 8160), (8170, 2, 8058), (8172, 1, 8165), (8184, 2, 8056),
    (8186, 2, 8060), (8188, 1, 8179), (8486, 1, 969), (8490, 1, 107), (8491, 1, 229),
    (8498, 1, 8526), (8544, 16, 8560), (9398, 26, 9424), (11264, 48, 11312), (11362, 1, 619),
    (11363, 1, 7549), (11364, 1, 637), (11373, 1, 593), (11374, 1, 625), (11375, 1, 592),
    (11376, 1, 594), (11390, 2, 575), (42877, 1, 7545), (42893, 1, 613), (42922, 1, 614),
    (42923, 1, 604), (42924, 1, 609), (42925, 1, 620), (42926, 1, 618), (42928, 1, 670),
    (42929, 1, 647), (42930, 1, 669), (42931, 1, 43859), (42948, 1, 42900), (42949, 1, 642),
    (42950, 1, 7566), (65313, 26, 65345), (66560, 40, 66600), (66736, 36, 66776),
    (66928, 11, 66967), (66940, 15, 66979), (66956, 7, 66995), (66964, 2, 67003),
    (68736, 51, 68800), (71840, 32, 71872), (93760, 32, 93792), (125184, 34, 125218)]

/-- Capitals that are each followed by their small letter: the first, and how many there are. -/
def alternating : List (ℕ × ℕ) :=
  [(256, 24), (306, 3), (313, 8), (330, 23), (377, 3), (386, 2), (391, 1), (395, 1), (401, 1),
    (408, 1), (416, 3), (423, 1), (428, 1), (431, 1), (435, 2), (440, 1), (444, 1), (453, 1),
    (456, 1), (459, 9), (478, 9), (498, 2), (504, 20), (546, 9), (571, 1), (577, 1), (582, 5),
    (880, 2), (886, 1), (984, 12), (1015, 1), (1018, 1), (1120, 17), (1162, 27), (1217, 7),
    (1232, 48), (7680, 75), (7840, 48), (8579, 1), (11360, 1), (11367, 3), (11378, 1), (11381, 1),
    (11392, 50), (11499, 2), (11506, 1), (42560, 23), (42624, 14), (42786, 7), (42802, 31),
    (42873, 2), (42878, 5), (42891, 1), (42896, 2), (42902, 10), (42932, 8), (42951, 2),
    (42960, 1), (42966, 2), (42997, 1)]

def casePairs : List (ℕ × ℕ) :=
  (rows.flatMap fun (first, count, small) => (List.range count).map fun i =>
    (first + i, small + i)) ++
  alternating.flatMap fun (first, count) => (List.range count).map fun i =>
    (first + 2 * i, first + 2 * i + 1)

def lowerChar (c : Char) : Char :=
  match casePairs.find? (·.1 = c.toNat) with
  | some (_, small) => Char.ofNat small
  | none => c

/-- The first list is the text before. -/
def toLowerCase (isFinal : List Char → List Char → Bool) : List Char → List Char → List Char
  | _, [] => []
  | before, c :: after =>
    (if c = 'İ' then ['i', Char.ofNat 775]
      else if c = 'Σ' then [if isFinal before after then 'ς' else 'σ']
      else [lowerChar c]) ++ toLowerCase isFinal (before ++ [c]) after

end CodeClash.Text
