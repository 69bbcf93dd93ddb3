import Chip8.Tool.Picture.Webp.Guess

/-!
# Chances and prices

Levels and ways are packed as runs of decisions between no and yes. A decision takes the less room the
likelier it is; its price is counted in parts of 256 of a bit. This module holds the prices of chances,
the chances before anything is known of a picture, and the prices of ways.
-/

namespace Chip8.Webp

/-- The price of saying no, by the chance of it in parts of 256. -/
def refusalPrices : Array Nat := #[
    1792, 1792, 1792, 1536, 1536, 1408, 1366, 1280, 1280, 1216, 1178, 1152, 1110, 1076, 1061, 1024,
    1024, 992, 968, 951, 939, 911, 896, 878, 871, 854, 838, 820, 811, 794, 786, 768, 768, 752, 740,
    732, 720, 709, 704, 690, 683, 672, 666, 655, 647, 640, 631, 622, 615, 607, 598, 592, 586, 576,
    572, 564, 559, 555, 547, 541, 534, 528, 522, 512, 512, 504, 500, 494, 488, 483, 477, 473, 467,
    461, 458, 452, 448, 443, 438, 434, 427, 424, 419, 415, 410, 406, 403, 399, 394, 390, 384, 384,
    377, 374, 370, 366, 362, 359, 355, 351, 347, 342, 342, 336, 333, 330, 326, 323, 320, 316, 312,
    308, 305, 302, 299, 296, 293, 288, 287, 283, 280, 277, 274, 272, 268, 266, 262, 256, 256, 256,
    251, 248, 245, 242, 240, 237, 234, 232, 228, 226, 223, 221, 218, 216, 214, 211, 208, 205, 203,
    201, 198, 196, 192, 191, 188, 187, 183, 181, 179, 176, 175, 171, 171, 168, 165, 163, 160, 159,
    156, 154, 152, 150, 148, 146, 144, 142, 139, 138, 135, 133, 131, 128, 128, 125, 123, 121, 119,
    117, 115, 113, 111, 110, 107, 105, 103, 102, 100, 98, 96, 94, 92, 91, 89, 86, 86, 83, 82, 80,
    77, 76, 74, 73, 71, 69, 67, 66, 64, 63, 61, 59, 57, 55, 54, 52, 51, 49, 47, 46, 44, 43, 41, 40,
    38, 36, 35, 33, 32, 30, 29, 27, 25, 24, 22, 21, 19, 18, 16, 15, 13, 12, 10, 9, 7, 6, 4, 3]

/-- The price of a decision whose chance to be no has so many parts of 256. -/
def decisionPrice (yes : Bool) (chance : Nat) : Nat :=
  refusalPrices.getD (if yes then 255 - chance else chance) 0

/-- Rows of a table, of so many entries each. A row that ends early goes on with one entry. -/
def completed (width rest : Nat) (rows : List (List Nat)) : Array Nat :=
  (rows.flatMap fun row => row ++ List.replicate (width - row.length) rest).toArray

/-- The number of decisions that have a chance of their own in each circumstance. -/
def decisionCount : Nat := 11

/-- The chances of no, in parts of 256, that are taken unless a picture renews them: a row for each kind
of block, band of waves and circumstance. -/
def firstChances : Array Nat := completed decisionCount 128 [
    [], [], [], [253, 136, 254, 255, 228, 219], [189, 129, 242, 255, 227, 213, 255, 219],
    [106, 126, 227, 252, 214, 209, 255, 255], [1, 98, 248, 255, 236, 226, 255, 255],
    [181, 133, 238, 254, 221, 234, 255, 154], [78, 134, 202, 247, 198, 180, 255, 219],
    [1, 185, 249, 255, 243, 255], [184, 150, 247, 255, 236, 224], [77, 110, 216, 255, 236, 230],
    [1, 101, 251, 255, 241, 255], [170, 139, 241, 252, 236, 209, 255, 255],
    [37, 116, 196, 243, 228, 255, 255, 255], [1, 204, 254, 255, 245, 255],
    [207, 160, 250, 255, 238], [102, 103, 231, 255, 211, 171], [1, 152, 252, 255, 240, 255],
    [177, 135, 243, 255, 234, 225], [80, 129, 211, 255, 194, 224], [1, 1, 255], [246, 1, 255],
    [255], [198, 35, 237, 223, 193, 187, 162, 160, 145, 155, 62],
    [131, 45, 198, 221, 172, 176, 220, 157, 252, 221, 1],
    [68, 47, 146, 208, 149, 167, 221, 162, 255, 223], [1, 149, 241, 255, 221, 224, 255, 255],
    [184, 141, 234, 253, 222, 220, 255, 199], [81, 99, 181, 242, 176, 190, 249, 202, 255, 255],
    [1, 129, 232, 253, 214, 197, 242, 196, 255, 255], [99, 121, 210, 250, 201, 198, 255, 202],
    [23, 91, 163, 242, 170, 187, 247, 210, 255, 255], [1, 200, 246, 255, 234, 255],
    [109, 178, 241, 255, 231, 245, 255, 255], [44, 130, 201, 253, 205, 192, 255, 255],
    [1, 132, 239, 251, 219, 209, 255, 165], [94, 136, 225, 251, 218, 190, 255, 255],
    [22, 100, 174, 245, 186, 161, 255, 199], [1, 182, 249, 255, 232, 235],
    [124, 143, 241, 255, 227, 234], [35, 77, 181, 251, 193, 211, 255, 205],
    [1, 157, 247, 255, 236, 231, 255, 255], [121, 141, 235, 255, 225, 227, 255, 255],
    [45, 99, 188, 251, 195, 217, 255, 224], [1, 1, 251, 255, 213, 255], [203, 1, 248, 255, 255],
    [137, 1, 177, 255, 224, 255], [253, 9, 248, 251, 207, 208, 255, 192],
    [175, 13, 224, 243, 193, 185, 249, 198, 255, 255],
    [73, 17, 171, 221, 161, 179, 236, 167, 255, 234], [1, 95, 247, 253, 212, 183, 255, 255],
    [239, 90, 244, 250, 211, 209, 255, 255], [155, 77, 195, 248, 188, 195, 255, 255],
    [1, 24, 239, 251, 218, 219, 255, 205], [201, 51, 219, 255, 196, 186],
    [69, 46, 190, 239, 201, 218, 255, 228], [1, 191, 251, 255, 255],
    [223, 165, 249, 255, 213, 255], [141, 124, 248, 255, 255], [1, 16, 248, 255, 255],
    [190, 36, 230, 255, 236, 255], [149, 1, 255], [1, 226, 255], [247, 192, 255], [240, 128, 255],
    [1, 134, 252, 255, 255], [213, 62, 250, 255, 255], [55, 93, 255], [], [], [],
    [202, 24, 213, 235, 186, 191, 220, 160, 240, 175, 255],
    [126, 38, 182, 232, 169, 184, 228, 174, 255, 187],
    [61, 46, 138, 219, 151, 178, 240, 170, 255, 216],
    [1, 112, 230, 250, 199, 191, 247, 159, 255, 255], [166, 109, 228, 252, 211, 215, 255, 174],
    [39, 77, 162, 232, 172, 180, 245, 178, 255, 255],
    [1, 52, 220, 246, 198, 199, 249, 220, 255, 255],
    [124, 74, 191, 243, 183, 193, 250, 221, 255, 255],
    [24, 71, 130, 219, 154, 170, 243, 182, 255, 255], [1, 182, 225, 249, 219, 240, 255, 224],
    [149, 150, 226, 252, 216, 205, 255, 171], [28, 108, 170, 242, 183, 194, 254, 223, 255, 255],
    [1, 81, 230, 252, 204, 203, 255, 192], [123, 102, 209, 247, 188, 196, 255, 233],
    [20, 95, 153, 243, 164, 173, 255, 203], [1, 222, 248, 255, 216, 213],
    [168, 175, 246, 252, 235, 205, 255, 255], [47, 116, 215, 255, 211, 212, 255, 255],
    [1, 121, 236, 253, 212, 214, 255, 255], [141, 84, 213, 252, 201, 202, 255, 219],
    [42, 80, 160, 240, 162, 185, 255, 205], [1, 1, 255], [244, 1, 255], [238, 1, 255]]

/-- The chances that a chance is not renewed, in the same order. -/
def renewalChances : Array Nat := completed decisionCount 255 [
    [], [], [], [176, 246], [223, 241, 252], [249, 253, 253], [255, 244, 252], [234, 254, 254],
    [253], [255, 246, 254], [239, 253, 254], [254, 255, 254], [255, 248, 254], [251, 255, 254], [],
    [255, 253, 254], [251, 254, 254], [254, 255, 254], [255, 254, 253, 255, 254],
    [250, 255, 254, 255, 254], [254], [], [], [], [217], [225, 252, 241, 253, 255, 255, 254],
    [234, 250, 241, 250, 253, 255, 253, 254], [255, 254], [223, 254, 254], [238, 253, 254, 254],
    [255, 248, 254], [249, 254], [], [255, 253], [247, 254], [], [255, 253, 254], [252], [],
    [255, 254, 254], [253], [], [255, 254, 253], [250], [254], [], [], [], [186, 251, 250],
    [234, 251, 244, 254], [251, 251, 243, 253, 254, 255, 254], [255, 253, 254], [236, 253, 254],
    [251, 253, 253, 254, 254], [255, 254, 254], [254, 254, 254], [], [255, 254], [254, 254], [254],
    [], [254], [], [], [], [], [], [], [], [], [], [], [248], [250, 254, 252, 254],
    [248, 254, 249, 253], [255, 253, 253], [246, 253, 253], [252, 254, 251, 254, 254],
    [255, 254, 252], [248, 254, 253], [253, 255, 254, 254], [255, 251, 254], [245, 251, 254],
    [253, 253, 254], [255, 251, 253], [252, 253, 254], [255, 254], [255, 252], [249, 255, 254],
    [255, 255, 254], [255, 255, 253], [250], [], [], [254], []]

/-- The prices of ways to guess a block, a row for each pair of the ways of the blocks above and on the
left. -/
def wayPrices : Array Nat := completed 10 0 [
    [40, 1151, 1723, 1874, 2103, 2019, 1628, 1777, 2226, 2137],
    [192, 469, 1296, 1308, 1849, 1794, 1781, 1703, 1713, 1522],
    [142, 910, 762, 1684, 1849, 1576, 1460, 1305, 1801, 1657],
    [559, 641, 1370, 421, 1182, 1569, 1612, 1725, 863, 1007],
    [299, 1059, 1256, 1108, 636, 1068, 1581, 1883, 869, 1142],
    [277, 1111, 707, 1362, 1089, 672, 1603, 1541, 1545, 1291],
    [214, 781, 1609, 1303, 1632, 2229, 726, 1560, 1713, 918],
    [152, 1037, 1046, 1759, 1983, 2174, 1358, 742, 1740, 1390],
    [512, 1046, 1420, 753, 752, 1297, 1486, 1613, 460, 1207],
    [424, 827, 1362, 719, 1462, 1202, 1199, 1476, 1199, 538],
    [240, 402, 1134, 1491, 1659, 1505, 1517, 1555, 1979, 2099],
    [467, 242, 960, 1232, 1714, 1620, 1834, 1570, 1676, 1391],
    [500, 455, 463, 1507, 1699, 1282, 1564, 982, 2114, 2114],
    [672, 643, 1372, 331, 1589, 1667, 1453, 1938, 996, 876],
    [458, 783, 1037, 911, 738, 968, 1165, 1518, 859, 1033],
    [504, 815, 504, 1139, 1219, 719, 1506, 1085, 1268, 1268],
    [333, 630, 1445, 1239, 1883, 3672, 799, 1548, 1865, 598],
    [399, 644, 746, 1342, 1856, 1350, 1493, 613, 1855, 1015],
    [622, 749, 1205, 608, 1066, 1408, 1290, 1406, 546, 971],
    [500, 753, 1041, 668, 1230, 1617, 1297, 1425, 1383, 523],
    [394, 553, 523, 1502, 1536, 981, 1608, 1142, 1666, 2181],
    [655, 430, 375, 1411, 1861, 1220, 1677, 1135, 1978, 1553],
    [690, 640, 245, 1954, 2070, 1194, 1528, 982, 1972, 2232],
    [559, 834, 741, 867, 1131, 980, 1225, 852, 1092, 784],
    [690, 875, 516, 959, 673, 894, 1056, 1190, 1528, 1126],
    [740, 951, 384, 1277, 1177, 492, 1579, 1155, 1846, 1513],
    [323, 775, 1062, 1776, 3062, 1274, 813, 1188, 1372, 655],
    [488, 971, 484, 1767, 1515, 1775, 1115, 503, 1539, 1461],
    [740, 1006, 998, 709, 851, 1230, 1337, 788, 741, 721],
    [522, 1073, 573, 1045, 1346, 887, 1046, 1146, 1203, 697],
    [105, 864, 1442, 1009, 1934, 1840, 1519, 1920, 1673, 1579],
    [534, 305, 1193, 683, 1388, 2164, 1802, 1894, 1264, 1170],
    [305, 518, 877, 1108, 1426, 3215, 1425, 1064, 1320, 1242],
    [683, 732, 1927, 257, 1493, 2048, 1858, 1552, 1055, 947],
    [394, 814, 1024, 660, 959, 1556, 1282, 1289, 893, 1047],
    [528, 615, 996, 940, 1201, 635, 1094, 2515, 803, 1358],
    [347, 614, 1609, 1187, 3133, 1345, 1007, 1339, 1017, 667],
    [218, 740, 878, 1605, 3650, 3650, 1345, 758, 1357, 1617],
    [672, 750, 1541, 558, 1257, 1599, 1870, 2135, 402, 1087],
    [592, 684, 1161, 430, 1092, 1497, 1475, 1489, 1095, 822],
    [228, 1056, 1059, 1368, 752, 982, 1512, 1518, 987, 1782],
    [494, 514, 818, 942, 965, 892, 1610, 1356, 1048, 1363],
    [512, 648, 591, 1042, 761, 991, 1196, 1454, 1309, 1463],
    [683, 749, 1043, 676, 841, 1396, 1133, 1138, 654, 939],
    [622, 1101, 1126, 994, 361, 1077, 1203, 1318, 877, 1219],
    [631, 1068, 857, 1650, 651, 477, 1650, 1419, 828, 1170],
    [555, 727, 1068, 1335, 3127, 1339, 820, 1331, 1077, 429],
    [504, 879, 624, 1398, 889, 889, 1392, 808, 891, 1406],
    [683, 1602, 1289, 977, 578, 983, 1280, 1708, 406, 1122],
    [399, 865, 1433, 1070, 1072, 764, 968, 1477, 1223, 678],
    [333, 760, 935, 1638, 1010, 529, 1646, 1410, 1472, 2219],
    [512, 494, 750, 1160, 1215, 610, 1870, 1868, 1628, 1169],
    [572, 646, 492, 1934, 1208, 603, 1580, 1099, 1398, 1995],
    [786, 789, 942, 581, 1018, 951, 1599, 1207, 731, 768],
    [690, 1015, 672, 1078, 582, 504, 1693, 1438, 1108, 2897],
    [768, 1267, 571, 2005, 1243, 244, 2881, 1380, 1786, 1453],
    [452, 899, 1293, 903, 1311, 3100, 465, 1311, 1319, 813],
    [394, 927, 942, 1103, 1358, 1104, 946, 593, 1363, 1109],
    [559, 1005, 1007, 1016, 658, 1173, 1021, 1164, 623, 1028],
    [564, 796, 632, 1005, 1014, 863, 2316, 1268, 938, 764],
    [266, 606, 1098, 1228, 1497, 1243, 948, 1030, 1734, 1461],
    [366, 585, 901, 1060, 1407, 1247, 876, 1134, 1620, 1054],
    [452, 565, 542, 1729, 1479, 1479, 1016, 886, 2938, 1150],
    [555, 1088, 1533, 950, 1354, 895, 834, 1019, 1021, 496],
    [704, 815, 1193, 971, 973, 640, 1217, 2214, 832, 578],
    [672, 1245, 579, 871, 875, 774, 872, 1273, 1027, 949],
    [296, 1134, 2050, 1784, 1636, 3425, 442, 1550, 2076, 722],
    [342, 982, 1259, 1846, 1848, 1848, 622, 568, 1847, 1052],
    [555, 1064, 1304, 828, 746, 1343, 1075, 1329, 1078, 494],
    [288, 1167, 1285, 1174, 1639, 1639, 833, 2254, 1304, 509],
    [342, 719, 767, 1866, 1757, 1270, 1246, 550, 1746, 2151],
    [483, 653, 694, 1509, 1459, 1410, 1218, 507, 1914, 1266],
    [488, 757, 447, 2979, 1813, 1268, 1654, 539, 1849, 2109],
    [522, 1097, 1085, 851, 1365, 1111, 851, 901, 961, 605],
    [709, 716, 841, 728, 736, 945, 941, 862, 2845, 1057],
    [512, 1323, 500, 1336, 1083, 681, 1342, 717, 1604, 1350],
    [452, 1155, 1372, 1900, 1501, 3290, 311, 944, 1919, 922],
    [403, 1520, 977, 2132, 1733, 3522, 1076, 276, 3335, 1547],
    [559, 1374, 1101, 615, 673, 2462, 974, 795, 984, 984],
    [547, 1122, 1062, 812, 1410, 951, 1140, 622, 1268, 651],
    [165, 982, 1235, 938, 1334, 1366, 1659, 1578, 964, 1612],
    [592, 422, 925, 847, 1139, 1112, 1387, 2036, 861, 1041],
    [403, 837, 732, 770, 941, 1658, 1250, 809, 1407, 1407],
    [896, 874, 1071, 381, 1568, 1722, 1437, 2192, 480, 1035],
    [640, 1098, 1012, 1032, 684, 1382, 1581, 2106, 416, 865],
    [559, 1005, 819, 914, 710, 770, 1418, 920, 838, 1435],
    [415, 1258, 1245, 870, 1278, 3067, 770, 1021, 1287, 522],
    [406, 990, 601, 1009, 1265, 1265, 1267, 759, 1017, 1277],
    [968, 1182, 1329, 788, 1032, 1292, 1705, 1714, 203, 1403],
    [732, 877, 1279, 471, 901, 1161, 1545, 1294, 755, 755],
    [111, 931, 1378, 1185, 1933, 1648, 1148, 1714, 1873, 1307],
    [406, 414, 1030, 1023, 1910, 1404, 1313, 1647, 1509, 793],
    [342, 640, 575, 1088, 1241, 1349, 1161, 1350, 1756, 1502],
    [559, 766, 1185, 357, 1682, 1428, 1329, 1897, 1219, 802],
    [473, 909, 1164, 771, 719, 2508, 1427, 1432, 722, 782],
    [342, 892, 785, 1145, 1150, 794, 1296, 1550, 973, 1057],
    [208, 1036, 1326, 1343, 1606, 3395, 815, 1455, 1618, 712],
    [228, 928, 890, 1046, 3499, 1711, 994, 829, 1720, 1318],
    [768, 724, 1058, 636, 991, 1075, 1319, 1324, 616, 825],
    [305, 1167, 1358, 899, 1587, 1587, 987, 1988, 1332, 501]]

/-- The price of a way to guess a block between others. -/
def blockWayPrice (above left way : Way) : Nat :=
  wayPrices.getD ((10 * above.place + left.place) * 10 + way.place) 0

/-- The price of a way to guess the brightness of a whole tile. -/
def brightWayPrice : Way → Nat
  | .mean => 663
  | .down => 872
  | _ => 919

/-- The price of a way to guess the colour of a whole tile. -/
def colorWayPrice : Way → Nat
  | .mean => 302
  | .slope => 984
  | .down => 439
  | _ => 642

/-- The price of saying that the blocks of a tile are guessed one by one. -/
def blocksPrice : Nat := 211

end Chip8.Webp
