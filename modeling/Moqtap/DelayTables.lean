import Mathlib
import Moqtap.NetemModels

/-! The three committed distribution tables of `quinn-netem` (`dist/tables.rs`):
scaled quantiles in the order they are indexed.  The negative entries come first
and are written without their signs. -/

namespace Moqtap.Netem

def normalNegative0 : List ℕ := [
    30482, 27703, 26507, 25702, 25090, 24592, 24172, 23807, 23484, 23193, 22930, 22688, 22464,
    22257, 22062, 21879, 21707, 21543, 21388, 21240, 21099, 20963, 20834, 20709, 20589, 20473,
    20361, 20252, 20148, 20046, 19948, 19852, 19758, 19668, 19579, 19493, 19409, 19327, 19247,
    19169, 19092, 19017, 18944, 18872, 18801, 18732, 18664, 18598, 18532, 18468, 18405, 18343,
    18282, 18222, 18163, 18105, 18048, 17991, 17936, 17881, 17827, 17774, 17722, 17670, 17619,
    17569, 17519, 17470, 17422, 17374, 17327, 17280, 17234, 17188, 17143, 17099, 17055, 17011,
    16968, 16926, 16883, 16842, 16801, 16760, 16719, 16679, 16639, 16600, 16561, 16523, 16485,
    16447, 16409, 16372, 16336, 16299, 16263, 16227, 16192, 16156, 16122, 16087, 16053, 16019,
    15985, 15951, 15918, 15885, 15852, 15820, 15788, 15756, 15724, 15692, 15661, 15630, 15599,
    15569, 15538, 15508, 15478, 15448, 15419, 15389, 15360, 15331, 15302, 15274, 15245, 15217,
    15189, 15161, 15133, 15106, 15079, 15051, 15024, 14998, 14971, 14944, 14918, 14892, 14865,
    14840, 14814, 14788, 14763, 14737, 14712, 14687, 14662, 14637, 14612, 14588, 14564, 14539,
    14515, 14491, 14467, 14444, 14420, 14396, 14373, 14350, 14326, 14303, 14280, 14258, 14235,
    14212, 14190, 14167, 14145, 14123, 14100, 14079, 14057, 14035, 14013, 13992, 13970, 13949,
    13927, 13906, 13885, 13864, 13843, 13822, 13801, 13781, 13760, 13740, 13719, 13699, 13678,
    13658, 13638, 13618, 13598, 13578, 13559, 13539, 13519, 13500, 13481, 13461, 13442, 13423,
    13403, 13384, 13365, 13346, 13328, 13309, 13290, 13271, 13253, 13234, 13216, 13197, 13179,
    13161, 13143, 13124, 13106, 13088, 13070, 13053, 13035, 13017, 12999, 12982, 12964, 12947,
    12929, 12912, 12895, 12877, 12860, 12843, 12826, 12809, 12792, 12775, 12758, 12741, 12724,
    12708, 12691, 12674, 12658, 12641, 12625, 12609, 12592, 12576, 12559, 12543, 12527, 12511,
    12495, 12479, 12463, 12447, 12431, 12415, 12399, 12384, 12368, 12352, 12337, 12321, 12306,
    12290, 12275, 12259, 12244, 12229, 12214, 12198, 12183, 12168, 12153, 12138, 12123, 12108,
    12093, 12078, 12063, 12048, 12034, 12019, 12004, 11990, 11975, 11960, 11946, 11931, 11917,
    11903, 11888, 11874, 11859, 11845, 11831, 11817, 11803, 11788, 11774, 11760, 11746, 11732,
    11718, 11704, 11690, 11677, 11663, 11649, 11635, 11621, 11608, 11594, 11581, 11567, 11553,
    11540, 11526, 11513, 11499, 11486, 11473, 11459, 11446, 11433, 11419, 11406, 11393, 11380,
    11367, 11353, 11340, 11327, 11314, 11301, 11288, 11275, 11263, 11250, 11237, 11224, 11211,
    11198, 11186, 11173, 11160, 11147, 11135, 11122, 11110, 11097, 11085, 11072, 11060, 11047,
    11035, 11022, 11010, 10998, 10985, 10973, 10961, 10948, 10936, 10924, 10912, 10900, 10887,
    10875, 10863, 10851, 10839, 10827, 10815, 10803, 10791, 10779, 10767, 10755, 10744, 10732,
    10720, 10708, 10696, 10685, 10673, 10661, 10650, 10638, 10626, 10615, 10603, 10591, 10580,
    10568, 10557, 10546, 10534, 10523, 10511, 10500, 10488, 10477, 10466, 10454, 10443, 10432,
    10420, 10409, 10398, 10387, 10375, 10364, 10353, 10342, 10331, 10320, 10309, 10298, 10287,
    10276, 10265, 10254, 10243, 10232, 10221, 10210, 10199, 10188, 10177, 10166, 10156, 10145,
    10134, 10123, 10112, 10102, 10091, 10080, 10070, 10059, 10048, 10038, 10027, 10017, 10006, 9995,
    9985, 9974, 9964, 9953, 9943, 9932, 9922, 9912, 9901, 9891, 9880, 9870, 9860, 9849, 9839, 9829,
    9818, 9808, 9798, 9787, 9777, 9767, 9757, 9747, 9736, 9726, 9716, 9706, 9696, 9686, 9676, 9666,
    9656, 9646, 9636, 9626, 9616, 9606, 9596, 9586, 9576, 9566, 9556, 9546, 9536, 9526, 9516, 9507,
    9497, 9487, 9477, 9468, 9458, 9448, 9438, 9428, 9419, 9409, 9399, 9390, 9380, 9370, 9361, 9351,
    9342, 9332, 9322, 9313, 9303, 9294, 9284, 9275, 9265, 9256, 9246, 9237, 9227, 9218, 9208, 9199,
    9189, 9180, 9171, 9161, 9152, 9143, 9133, 9124, 9115, 9105, 9096, 9087, 9078, 9068, 9059, 9050,
    9041, 9031, 9022, 9013, 9004, 8995, 8985, 8976, 8967, 8958, 8949, 8940, 8931, 8922, 8913, 8903,
    8894, 8885, 8876, 8867, 8858, 8849, 8840, 8831, 8823, 8814, 8805, 8796, 8787, 8778, 8769, 8760,
    8751, 8742, 8733, 8725, 8716, 8707, 8698, 8689, 8681, 8672, 8663, 8654, 8646, 8637, 8628, 8619,
    8611, 8602, 8593, 8584, 8576, 8567, 8558, 8550, 8541, 8533, 8524, 8515, 8507, 8498, 8490, 8481,
    8472, 8464, 8455, 8447, 8438, 8430, 8421, 8413, 8404, 8396, 8387, 8379, 8370, 8362, 8353, 8345,
    8337, 8328, 8320, 8312, 8303, 8295, 8286, 8278, 8270, 8261, 8253, 8245, 8236, 8228, 8220, 8211,
    8203, 8195, 8187, 8178, 8170, 8162, 8153, 8145, 8137, 8129, 8121, 8113, 8104, 8096, 8088, 8080,
    8072, 8064, 8056, 8047, 8039, 8031, 8023, 8015, 8007, 7999, 7991, 7983, 7975, 7967, 7959, 7950,
    7943, 7934, 7927, 7918, 7911, 7902, 7895, 7886, 7879, 7871, 7863, 7855, 7847, 7839, 7831, 7823,
    7815, 7807, 7799, 7791, 7784, 7776, 7768, 7760, 7752, 7744, 7736, 7729, 7721, 7713, 7705, 7697,
    7690, 7682, 7674, 7666, 7658, 7651, 7643, 7635, 7627, 7620, 7612, 7604, 7597, 7589, 7581, 7574,
    7566, 7558, 7550, 7543, 7535, 7528, 7520, 7512, 7505, 7497, 7489, 7482, 7474, 7466, 7459, 7451,
    7444, 7436, 7429, 7421, 7414, 7406, 7398, 7391, 7383, 7376, 7368, 7361, 7353, 7346, 7338, 7331,
    7323, 7316, 7308, 7301, 7294, 7286, 7279, 7271, 7264, 7256, 7249, 7242, 7234, 7227, 7219, 7212,
    7205, 7197, 7190, 7183, 7175, 7168, 7160, 7153, 7146, 7138, 7131, 7124, 7116, 7109, 7102, 7094,
    7087, 7080, 7073, 7065, 7058, 7051, 7044, 7036, 7029, 7022, 7015, 7007, 7000, 6993, 6986, 6978,
    6971, 6964, 6957, 6950, 6943, 6935, 6928, 6921, 6914, 6907, 6900, 6892, 6885, 6878, 6871, 6864,
    6857, 6850, 6842, 6835, 6828, 6821, 6814, 6807, 6800, 6793, 6786, 6779, 6772, 6765, 6758, 6751,
    6744, 6737, 6730, 6722, 6715, 6708, 6701, 6694, 6687, 6680, 6674, 6666, 6659, 6653, 6646, 6639,
    6632, 6625, 6618, 6611, 6604, 6597, 6590, 6583, 6576, 6569, 6562, 6555, 6548, 6542, 6535, 6528,
    6521, 6514, 6507, 6500, 6493, 6487, 6480, 6473, 6466, 6459, 6452, 6445, 6439, 6432, 6425, 6418,
    6411, 6405, 6398, 6391, 6384, 6377, 6371, 6364, 6357, 6350, 6344, 6337, 6330, 6323, 6317, 6310,
    6303, 6296, 6290, 6283, 6276, 6269, 6263, 6256, 6249, 6243, 6236, 6229, 6222, 6216, 6209, 6202,
    6196, 6189, 6182, 6176, 6169, 6162, 6156, 6149, 6143, 6136, 6129, 6122, 6116, 6109, 6103, 6096,
    6089, 6083, 6076, 6070, 6063, 6057, 6050, 6043, 6037, 6030, 6023, 6017, 6010, 6004, 5997, 5991,
    5984, 5977, 5971, 5964, 5958, 5952, 5945, 5939, 5932, 5925, 5919, 5912, 5906, 5899, 5893, 5887,
    5880, 5873, 5867, 5860, 5854, 5848, 5841, 5835, 5828, 5822, 5815, 5809, 5802, 5796, 5789, 5783,
    5777, 5770, 5764, 5757, 5751, 5744, 5738, 5732, 5725, 5719, 5712, 5706, 5700, 5693, 5687, 5681,
    5674, 5668, 5661, 5655, 5649, 5642, 5636, 5630, 5623, 5617, 5611, 5604, 5598, 5592, 5585, 5579,
    5573, 5566, 5560, 5554, 5547, 5541, 5535, 5529]

def normalNegative1 : List ℕ := [
    5522, 5516, 5510, 5503, 5497, 5491, 5485, 5478, 5472, 5466, 5459, 5453, 5447, 5441, 5434, 5428,
    5422, 5416, 5409, 5403, 5397, 5391, 5385, 5378, 5372, 5366, 5360, 5354, 5347, 5341, 5335, 5329,
    5323, 5316, 5310, 5304, 5298, 5292, 5285, 5279, 5273, 5267, 5261, 5255, 5249, 5242, 5236, 5230,
    5224, 5218, 5212, 5206, 5199, 5193, 5187, 5181, 5175, 5169, 5163, 5156, 5150, 5144, 5138, 5132,
    5126, 5120, 5114, 5108, 5102, 5096, 5089, 5083, 5077, 5071, 5065, 5059, 5053, 5047, 5041, 5035,
    5029, 5023, 5017, 5011, 5005, 4998, 4993, 4986, 4980, 4974, 4968, 4962, 4956, 4950, 4944, 4938,
    4932, 4926, 4920, 4914, 4908, 4902, 4896, 4890, 4884, 4878, 4872, 4866, 4860, 4854, 4848, 4842,
    4836, 4830, 4825, 4819, 4813, 4807, 4801, 4795, 4789, 4783, 4777, 4771, 4765, 4759, 4753, 4747,
    4741, 4735, 4729, 4724, 4718, 4712, 4706, 4700, 4694, 4688, 4682, 4676, 4670, 4664, 4659, 4653,
    4647, 4641, 4635, 4629, 4623, 4617, 4611, 4606, 4600, 4594, 4588, 4582, 4576, 4570, 4565, 4559,
    4553, 4547, 4541, 4535, 4529, 4524, 4518, 4512, 4506, 4500, 4495, 4489, 4483, 4477, 4471, 4465,
    4460, 4454, 4448, 4442, 4436, 4430, 4425, 4419, 4413, 4407, 4402, 4396, 4390, 4384, 4378, 4373,
    4367, 4361, 4355, 4350, 4344, 4338, 4332, 4326, 4321, 4315, 4309, 4303, 4298, 4292, 4286, 4280,
    4275, 4269, 4263, 4257, 4252, 4246, 4240, 4234, 4229, 4223, 4217, 4212, 4206, 4200, 4194, 4189,
    4183, 4177, 4172, 4166, 4160, 4154, 4149, 4143, 4137, 4132, 4126, 4120, 4115, 4109, 4103, 4098,
    4092, 4086, 4080, 4075, 4069, 4063, 4058, 4052, 4046, 4041, 4035, 4029, 4024, 4018, 4013, 4007,
    4001, 3996, 3990, 3984, 3979, 3973, 3967, 3962, 3956, 3950, 3945, 3939, 3934, 3928, 3922, 3917,
    3911, 3906, 3900, 3894, 3889, 3883, 3877, 3872, 3866, 3861, 3855, 3849, 3844, 3838, 3833, 3827,
    3821, 3816, 3810, 3805, 3799, 3794, 3788, 3782, 3777, 3771, 3766, 3760, 3754, 3749, 3743, 3738,
    3732, 3727, 3721, 3716, 3710, 3704, 3699, 3693, 3688, 3682, 3677, 3671, 3666, 3660, 3655, 3649,
    3643, 3638, 3632, 3627, 3621, 3616, 3610, 3605, 3599, 3594, 3588, 3583, 3577, 3572, 3566, 3561,
    3555, 3550, 3544, 3539, 3533, 3528, 3522, 3517, 3511, 3506, 3500, 3495, 3489, 3484, 3478, 3473,
    3467, 3462, 3456, 3451, 3445, 3440, 3434, 3429, 3423, 3418, 3412, 3407, 3402, 3396, 3391, 3385,
    3380, 3374, 3369, 3363, 3358, 3352, 3347, 3341, 3336, 3331, 3325, 3320, 3314, 3309, 3303, 3298,
    3293, 3287, 3282, 3276, 3271, 3265, 3260, 3254, 3249, 3244, 3238, 3233, 3227, 3222, 3216, 3211,
    3206, 3200, 3195, 3189, 3184, 3179, 3173, 3168, 3162, 3157, 3152, 3146, 3141, 3135, 3130, 3125,
    3119, 3114, 3109, 3103, 3098, 3092, 3087, 3082, 3076, 3071, 3066, 3060, 3055, 3049, 3044, 3039,
    3033, 3028, 3023, 3017, 3012, 3006, 3001, 2996, 2990, 2985, 2980, 2974, 2969, 2964, 2958, 2953,
    2947, 2942, 2937, 2932, 2926, 2921, 2915, 2910, 2905, 2899, 2894, 2889, 2883, 2878, 2873, 2867,
    2862, 2857, 2851, 2846, 2841, 2835, 2830, 2825, 2819, 2814, 2809, 2804, 2798, 2793, 2788, 2782,
    2777, 2772, 2766, 2761, 2756, 2750, 2745, 2740, 2734, 2729, 2724, 2719, 2713, 2708, 2703, 2698,
    2692, 2687, 2682, 2676, 2671, 2666, 2660, 2655, 2650, 2645, 2639, 2634, 2629, 2623, 2618, 2613,
    2608, 2602, 2597, 2592, 2587, 2581, 2576, 2571, 2566, 2560, 2555, 2550, 2544, 2539, 2534, 2529,
    2523, 2518, 2513, 2508, 2502, 2497, 2492, 2487, 2481, 2476, 2471, 2466, 2460, 2455, 2450, 2445,
    2439, 2434, 2429, 2424, 2418, 2413, 2408, 2403, 2397, 2392, 2387, 2382, 2377, 2371, 2366, 2361,
    2356, 2350, 2345, 2340, 2335, 2330, 2324, 2319, 2314, 2309, 2304, 2298, 2293, 2288, 2283, 2277,
    2272, 2267, 2262, 2257, 2251, 2246, 2241, 2236, 2231, 2225, 2220, 2215, 2210, 2205, 2199, 2194,
    2189, 2184, 2179, 2173, 2168, 2163, 2158, 2153, 2148, 2142, 2137, 2132, 2127, 2122, 2116, 2111,
    2106, 2101, 2096, 2090, 2085, 2080, 2075, 2070, 2064, 2059, 2054, 2049, 2044, 2039, 2034, 2028,
    2023, 2018, 2013, 2008, 2003, 1997, 1992, 1987, 1982, 1977, 1972, 1966, 1961, 1956, 1951, 1946,
    1941, 1935, 1930, 1925, 1920, 1915, 1910, 1905, 1899, 1894, 1889, 1884, 1879, 1874, 1868, 1863,
    1858, 1853, 1848, 1843, 1838, 1833, 1827, 1822, 1817, 1812, 1807, 1802, 1797, 1791, 1786, 1781,
    1776, 1771, 1766, 1760, 1756, 1750, 1745, 1740, 1735, 1730, 1725, 1720, 1714, 1709, 1704, 1699,
    1694, 1689, 1684, 1679, 1674, 1668, 1663, 1658, 1653, 1648, 1643, 1638, 1633, 1627, 1622, 1617,
    1612, 1607, 1602, 1597, 1592, 1586, 1581, 1576, 1571, 1566, 1561, 1556, 1551, 1546, 1541, 1536,
    1530, 1525, 1520, 1515, 1510, 1505, 1500, 1495, 1490, 1484, 1479, 1474, 1469, 1464, 1459, 1454,
    1449, 1444, 1439, 1434, 1428, 1423, 1418, 1413, 1408, 1403, 1398, 1393, 1388, 1383, 1377, 1373,
    1367, 1362, 1357, 1352, 1347, 1342, 1337, 1332, 1327, 1322, 1317, 1312, 1307, 1301, 1296, 1291,
    1286, 1281, 1276, 1271, 1266, 1261, 1256, 1251, 1246, 1240, 1235, 1230, 1225, 1220, 1215, 1210,
    1205, 1200, 1195, 1190, 1185, 1180, 1175, 1169, 1164, 1159, 1154, 1149, 1144, 1139, 1134, 1129,
    1124, 1119, 1114, 1109, 1104, 1099, 1094, 1089, 1083, 1078, 1073, 1068, 1063, 1058, 1053, 1048,
    1043, 1038, 1033, 1028, 1023, 1018, 1013, 1008, 1003, 998, 992, 988, 982, 977, 972, 967, 962,
    957, 952, 947, 942, 937, 932, 927, 922, 917, 912, 907, 902, 897, 892, 887, 881, 877, 872, 866,
    861, 856, 851, 846, 841, 836, 831, 826, 821, 816, 811, 806, 801, 796, 791, 786, 781, 776, 771,
    766, 761, 756, 750, 745, 741, 735, 730, 725, 720, 715, 710, 705, 700, 695, 690, 685, 680, 675,
    670, 665, 660, 655, 650, 645, 640, 635, 630, 625, 620, 615, 610, 605, 600, 595, 589, 584, 580,
    575, 569, 564, 560, 554, 549, 544, 539, 534, 529, 524, 519, 514, 509, 504, 499, 494, 489, 484,
    479, 474, 469, 464, 459, 454, 449, 444, 439, 434, 429, 424, 419, 414, 409, 404, 399, 394, 389,
    384, 378, 374, 369, 364, 358, 353, 349, 344, 338, 333, 328, 324, 318, 313, 308, 304, 298, 293,
    288, 283, 278, 273, 268, 263, 258, 253, 248, 243, 238, 233, 228, 223, 218, 213, 208, 203, 198,
    193, 188, 183, 178, 173, 168, 163, 158, 153, 148, 143, 138, 133, 128, 123, 118, 113, 108, 103,
    98, 93, 88, 83, 78, 73, 68, 63, 58, 53, 48, 43, 38, 33, 27, 23, 18, 13, 7, 2]

def normalPositive0 : List ℕ := [
    2, 7, 13, 18, 23, 27, 33, 38, 43, 48, 53, 58, 63, 68, 73, 78, 83, 88, 93, 98, 103, 108, 113,
    118, 123, 128, 133, 138, 143, 148, 153, 158, 163, 168, 173, 178, 183, 188, 193, 198, 203, 208,
    213, 218, 223, 228, 233, 238, 243, 248, 253, 258, 263, 268, 273, 278, 283, 288, 293, 298, 304,
    308, 313, 318, 324, 328, 333, 338, 344, 349, 353, 358, 364, 369, 374, 378, 384, 389, 394, 399,
    404, 409, 414, 419, 424, 429, 434, 439, 444, 449, 454, 459, 464, 469, 474, 479, 484, 489, 494,
    499, 504, 509, 514, 519, 524, 529, 534, 539, 544, 549, 554, 560, 564, 569, 575, 580, 584, 589,
    595, 600, 605, 610, 615, 620, 625, 630, 635, 640, 645, 650, 655, 660, 665, 670, 675, 680, 685,
    690, 695, 700, 705, 710, 715, 720, 725, 730, 735, 741, 745, 750, 756, 761, 766, 771, 776, 781,
    786, 791, 796, 801, 806, 811, 816, 821, 826, 831, 836, 841, 846, 851, 856, 861, 866, 872, 877,
    881, 887, 892, 897, 902, 907, 912, 917, 922, 927, 932, 937, 942, 947, 952, 957, 962, 967, 972,
    977, 982, 988, 992, 998, 1003, 1008, 1013, 1018, 1023, 1028, 1033, 1038, 1043, 1048, 1053, 1058,
    1063, 1068, 1073, 1078, 1083, 1089, 1094, 1099, 1104, 1109, 1114, 1119, 1124, 1129, 1134, 1139,
    1144, 1149, 1154, 1159, 1164, 1169, 1175, 1180, 1185, 1190, 1195, 1200, 1205, 1210, 1215, 1220,
    1225, 1230, 1235, 1240, 1246, 1251, 1256, 1261, 1266, 1271, 1276, 1281, 1286, 1291, 1296, 1301,
    1307, 1312, 1317, 1322, 1327, 1332, 1337, 1342, 1347, 1352, 1357, 1362, 1367, 1373, 1377, 1383,
    1388, 1393, 1398, 1403, 1408, 1413, 1418, 1423, 1428, 1434, 1439, 1444, 1449, 1454, 1459, 1464,
    1469, 1474, 1479, 1484, 1490, 1495, 1500, 1505, 1510, 1515, 1520, 1525, 1530, 1536, 1541, 1546,
    1551, 1556, 1561, 1566, 1571, 1576, 1581, 1586, 1592, 1597, 1602, 1607, 1612, 1617, 1622, 1627,
    1633, 1638, 1643, 1648, 1653, 1658, 1663, 1668, 1674, 1679, 1684, 1689, 1694, 1699, 1704, 1709,
    1714, 1720, 1725, 1730, 1735, 1740, 1745, 1750, 1756, 1760, 1766, 1771, 1776, 1781, 1786, 1791,
    1797, 1802, 1807, 1812, 1817, 1822, 1827, 1833, 1838, 1843, 1848, 1853, 1858, 1863, 1868, 1874,
    1879, 1884, 1889, 1894, 1899, 1905, 1910, 1915, 1920, 1925, 1930, 1935, 1941, 1946, 1951, 1956,
    1961, 1966, 1972, 1977, 1982, 1987, 1992, 1997, 2003, 2008, 2013, 2018, 2023, 2028, 2034, 2039,
    2044, 2049, 2054, 2059, 2064, 2070, 2075, 2080, 2085, 2090, 2096, 2101, 2106, 2111, 2116, 2122,
    2127, 2132, 2137, 2142, 2148, 2153, 2158, 2163, 2168, 2173, 2179, 2184, 2189, 2194, 2199, 2205,
    2210, 2215, 2220, 2225, 2231, 2236, 2241, 2246, 2251, 2257, 2262, 2267, 2272, 2277, 2283, 2288,
    2293, 2298, 2304, 2309, 2314, 2319, 2324, 2330, 2335, 2340, 2345, 2350, 2356, 2361, 2366, 2371,
    2377, 2382, 2387, 2392, 2397, 2403, 2408, 2413, 2418, 2424, 2429, 2434, 2439, 2445, 2450, 2455,
    2460, 2466, 2471, 2476, 2481, 2487, 2492, 2497, 2502, 2508, 2513, 2518, 2523, 2529, 2534, 2539,
    2544, 2550, 2555, 2560, 2566, 2571, 2576, 2581, 2587, 2592, 2597, 2602, 2608, 2613, 2618, 2623,
    2629, 2634, 2639, 2645, 2650, 2655, 2660, 2666, 2671, 2676, 2682, 2687, 2692, 2698, 2703, 2708,
    2713, 2719, 2724, 2729, 2734, 2740, 2745, 2750, 2756, 2761, 2766, 2772, 2777, 2782, 2788, 2793,
    2798, 2804, 2809, 2814, 2819, 2825, 2830, 2835, 2841, 2846, 2851, 2857, 2862, 2867, 2873, 2878,
    2883, 2889, 2894, 2899, 2905, 2910, 2915, 2921, 2926, 2932, 2937, 2942, 2947, 2953, 2958, 2964,
    2969, 2974, 2980, 2985, 2990, 2996, 3001, 3006, 3012, 3017, 3023, 3028, 3033, 3039, 3044, 3049,
    3055, 3060, 3066, 3071, 3076, 3082, 3087, 3092, 3098, 3103, 3109, 3114, 3119, 3125, 3130, 3135,
    3141, 3146, 3152, 3157, 3162, 3168, 3173, 3179, 3184, 3189, 3195, 3200, 3206, 3211, 3216, 3222,
    3227, 3233, 3238, 3244, 3249, 3254, 3260, 3265, 3271, 3276, 3282, 3287, 3293, 3298, 3303, 3309,
    3314, 3320, 3325, 3331, 3336, 3341, 3347, 3352, 3358, 3363, 3369, 3374, 3380, 3385, 3391, 3396,
    3402, 3407, 3412, 3418, 3423, 3429, 3434, 3440, 3445, 3451, 3456, 3462, 3467, 3473, 3478, 3484,
    3489, 3495, 3500, 3506, 3511, 3517, 3522, 3528, 3533, 3539, 3544, 3550, 3555, 3561, 3566, 3572,
    3577, 3583, 3588, 3594, 3599, 3605, 3610, 3616, 3621, 3627, 3632, 3638, 3643, 3649, 3655, 3660,
    3666, 3671, 3677, 3682, 3688, 3693, 3699, 3704, 3710, 3716, 3721, 3727, 3732, 3738, 3743, 3749,
    3754, 3760, 3766, 3771, 3777, 3782, 3788, 3794, 3799, 3805, 3810, 3816, 3821, 3827, 3833, 3838,
    3844, 3849, 3855, 3861, 3866, 3872, 3877, 3883, 3889, 3894, 3900, 3906, 3911, 3917, 3922, 3928,
    3934, 3939, 3945, 3950, 3956, 3962, 3967, 3973, 3979, 3984, 3990, 3996, 4001, 4007, 4013, 4018,
    4024, 4029, 4035, 4041, 4046, 4052, 4058, 4063, 4069, 4075, 4080, 4086, 4092, 4098, 4103, 4109,
    4115, 4120, 4126, 4132, 4137, 4143, 4149, 4154, 4160, 4166, 4172, 4177, 4183, 4189, 4194, 4200,
    4206, 4212, 4217, 4223, 4229, 4234, 4240, 4246, 4252, 4257, 4263, 4269, 4275, 4280, 4286, 4292,
    4298, 4303, 4309, 4315, 4321, 4326, 4332, 4338, 4344, 4350, 4355, 4361, 4367, 4373, 4378, 4384,
    4390, 4396, 4402, 4407, 4413, 4419, 4425, 4430, 4436, 4442, 4448, 4454, 4460, 4465, 4471, 4477,
    4483, 4489, 4495, 4500, 4506, 4512, 4518, 4524, 4529, 4535, 4541, 4547, 4553, 4559, 4565, 4570,
    4576, 4582, 4588, 4594, 4600, 4606, 4611, 4617, 4623, 4629, 4635, 4641, 4647, 4653, 4659, 4664,
    4670, 4676, 4682, 4688, 4694, 4700, 4706, 4712, 4718, 4724, 4729, 4735, 4741, 4747, 4753, 4759,
    4765, 4771, 4777, 4783, 4789, 4795, 4801, 4807, 4813, 4819, 4825, 4830, 4836, 4842, 4848, 4854,
    4860, 4866, 4872, 4878, 4884, 4890, 4896, 4902, 4908, 4914, 4920, 4926, 4932, 4938, 4944, 4950,
    4956, 4962, 4968, 4974, 4980, 4986, 4993, 4998, 5005, 5011, 5017, 5023, 5029, 5035, 5041, 5047,
    5053, 5059, 5065, 5071, 5077, 5083, 5089, 5096, 5102, 5108, 5114, 5120, 5126, 5132, 5138, 5144,
    5150, 5156, 5163, 5169, 5175, 5181, 5187, 5193, 5199, 5206, 5212, 5218, 5224, 5230, 5236, 5242,
    5249, 5255, 5261, 5267, 5273, 5279, 5285, 5292, 5298, 5304, 5310, 5316, 5323, 5329, 5335, 5341,
    5347, 5354, 5360, 5366, 5372, 5378, 5385, 5391, 5397, 5403, 5409, 5416, 5422, 5428, 5434, 5441,
    5447, 5453, 5459, 5466, 5472, 5478, 5485, 5491, 5497, 5503, 5510, 5516, 5522]

def normalPositive1 : List ℕ := [
    5529, 5535, 5541, 5547, 5554, 5560, 5566, 5573, 5579, 5585, 5592, 5598, 5604, 5611, 5617, 5623,
    5630, 5636, 5642, 5649, 5655, 5661, 5668, 5674, 5681, 5687, 5693, 5700, 5706, 5712, 5719, 5725,
    5732, 5738, 5744, 5751, 5757, 5764, 5770, 5777, 5783, 5789, 5796, 5802, 5809, 5815, 5822, 5828,
    5835, 5841, 5848, 5854, 5860, 5867, 5873, 5880, 5887, 5893, 5899, 5906, 5912, 5919, 5925, 5932,
    5939, 5945, 5952, 5958, 5964, 5971, 5977, 5984, 5991, 5997, 6004, 6010, 6017, 6023, 6030, 6037,
    6043, 6050, 6057, 6063, 6070, 6076, 6083, 6089, 6096, 6103, 6109, 6116, 6122, 6129, 6136, 6143,
    6149, 6156, 6162, 6169, 6176, 6182, 6189, 6196, 6202, 6209, 6216, 6222, 6229, 6236, 6243, 6249,
    6256, 6263, 6269, 6276, 6283, 6290, 6296, 6303, 6310, 6317, 6323, 6330, 6337, 6344, 6350, 6357,
    6364, 6371, 6377, 6384, 6391, 6398, 6405, 6411, 6418, 6425, 6432, 6439, 6445, 6452, 6459, 6466,
    6473, 6480, 6487, 6493, 6500, 6507, 6514, 6521, 6528, 6535, 6542, 6548, 6555, 6562, 6569, 6576,
    6583, 6590, 6597, 6604, 6611, 6618, 6625, 6632, 6639, 6646, 6653, 6659, 6666, 6674, 6680, 6687,
    6694, 6701, 6708, 6715, 6722, 6730, 6737, 6744, 6751, 6758, 6765, 6772, 6779, 6786, 6793, 6800,
    6807, 6814, 6821, 6828, 6835, 6842, 6850, 6857, 6864, 6871, 6878, 6885, 6892, 6900, 6907, 6914,
    6921, 6928, 6935, 6943, 6950, 6957, 6964, 6971, 6978, 6986, 6993, 7000, 7007, 7015, 7022, 7029,
    7036, 7044, 7051, 7058, 7065, 7073, 7080, 7087, 7094, 7102, 7109, 7116, 7124, 7131, 7138, 7146,
    7153, 7160, 7168, 7175, 7183, 7190, 7197, 7205, 7212, 7219, 7227, 7234, 7242, 7249, 7256, 7264,
    7271, 7279, 7286, 7294, 7301, 7308, 7316, 7323, 7331, 7338, 7346, 7353, 7361, 7368, 7376, 7383,
    7391, 7398, 7406, 7414, 7421, 7429, 7436, 7444, 7451, 7459, 7466, 7474, 7482, 7489, 7497, 7505,
    7512, 7520, 7528, 7535, 7543, 7550, 7558, 7566, 7574, 7581, 7589, 7597, 7604, 7612, 7620, 7627,
    7635, 7643, 7651, 7658, 7666, 7674, 7682, 7690, 7697, 7705, 7713, 7721, 7729, 7736, 7744, 7752,
    7760, 7768, 7776, 7784, 7791, 7799, 7807, 7815, 7823, 7831, 7839, 7847, 7855, 7863, 7871, 7879,
    7886, 7895, 7902, 7911, 7918, 7927, 7934, 7943, 7950, 7959, 7967, 7975, 7983, 7991, 7999, 8007,
    8015, 8023, 8031, 8039, 8047, 8056, 8064, 8072, 8080, 8088, 8096, 8104, 8113, 8121, 8129, 8137,
    8145, 8153, 8162, 8170, 8178, 8187, 8195, 8203, 8211, 8220, 8228, 8236, 8245, 8253, 8261, 8270,
    8278, 8286, 8295, 8303, 8312, 8320, 8328, 8337, 8345, 8353, 8362, 8370, 8379, 8387, 8396, 8404,
    8413, 8421, 8430, 8438, 8447, 8455, 8464, 8472, 8481, 8490, 8498, 8507, 8515, 8524, 8533, 8541,
    8550, 8558, 8567, 8576, 8584, 8593, 8602, 8611, 8619, 8628, 8637, 8646, 8654, 8663, 8672, 8681,
    8689, 8698, 8707, 8716, 8725, 8733, 8742, 8751, 8760, 8769, 8778, 8787, 8796, 8805, 8814, 8823,
    8831, 8840, 8849, 8858, 8867, 8876, 8885, 8894, 8903, 8913, 8922, 8931, 8940, 8949, 8958, 8967,
    8976, 8985, 8995, 9004, 9013, 9022, 9031, 9041, 9050, 9059, 9068, 9078, 9087, 9096, 9105, 9115,
    9124, 9133, 9143, 9152, 9161, 9171, 9180, 9189, 9199, 9208, 9218, 9227, 9237, 9246, 9256, 9265,
    9275, 9284, 9294, 9303, 9313, 9322, 9332, 9342, 9351, 9361, 9370, 9380, 9390, 9399, 9409, 9419,
    9428, 9438, 9448, 9458, 9468, 9477, 9487, 9497, 9507, 9516, 9526, 9536, 9546, 9556, 9566, 9576,
    9586, 9596, 9606, 9616, 9626, 9636, 9646, 9656, 9666, 9676, 9686, 9696, 9706, 9716, 9726, 9736,
    9747, 9757, 9767, 9777, 9787, 9798, 9808, 9818, 9829, 9839, 9849, 9860, 9870, 9880, 9891, 9901,
    9912, 9922, 9932, 9943, 9953, 9964, 9974, 9985, 9995, 10006, 10017, 10027, 10038, 10048, 10059,
    10070, 10080, 10091, 10102, 10112, 10123, 10134, 10145, 10156, 10166, 10177, 10188, 10199,
    10210, 10221, 10232, 10243, 10254, 10265, 10276, 10287, 10298, 10309, 10320, 10331, 10342,
    10353, 10364, 10375, 10387, 10398, 10409, 10420, 10432, 10443, 10454, 10466, 10477, 10488,
    10500, 10511, 10523, 10534, 10546, 10557, 10568, 10580, 10591, 10603, 10615, 10626, 10638,
    10650, 10661, 10673, 10685, 10696, 10708, 10720, 10732, 10744, 10755, 10767, 10779, 10791,
    10803, 10815, 10827, 10839, 10851, 10863, 10875, 10887, 10900, 10912, 10924, 10936, 10948,
    10961, 10973, 10985, 10998, 11010, 11022, 11035, 11047, 11060, 11072, 11085, 11097, 11110,
    11122, 11135, 11147, 11160, 11173, 11186, 11198, 11211, 11224, 11237, 11250, 11263, 11275,
    11288, 11301, 11314, 11327, 11340, 11353, 11367, 11380, 11393, 11406, 11419, 11433, 11446,
    11459, 11473, 11486, 11499, 11513, 11526, 11540, 11553, 11567, 11581, 11594, 11608, 11621,
    11635, 11649, 11663, 11677, 11690, 11704, 11718, 11732, 11746, 11760, 11774, 11788, 11803,
    11817, 11831, 11845, 11859, 11874, 11888, 11903, 11917, 11931, 11946, 11960, 11975, 11990,
    12004, 12019, 12034, 12048, 12063, 12078, 12093, 12108, 12123, 12138, 12153, 12168, 12183,
    12198, 12214, 12229, 12244, 12259, 12275, 12290, 12306, 12321, 12337, 12352, 12368, 12384,
    12399, 12415, 12431, 12447, 12463, 12479, 12495, 12511, 12527, 12543, 12559, 12576, 12592,
    12609, 12625, 12641, 12658, 12674, 12691, 12708, 12724, 12741, 12758, 12775, 12792, 12809,
    12826, 12843, 12860, 12877, 12895, 12912, 12929, 12947, 12964, 12982, 12999, 13017, 13035,
    13053, 13070, 13088, 13106, 13124, 13143, 13161, 13179, 13197, 13216, 13234, 13253, 13271,
    13290, 13309, 13328, 13346, 13365, 13384, 13403, 13423, 13442, 13461, 13481, 13500, 13519,
    13539, 13559, 13578, 13598, 13618, 13638, 13658, 13678, 13699, 13719, 13740, 13760, 13781,
    13801, 13822, 13843, 13864, 13885, 13906, 13927, 13949, 13970, 13992, 14013, 14035, 14057,
    14079, 14100, 14123, 14145, 14167, 14190, 14212, 14235, 14258, 14280, 14303, 14326, 14350,
    14373, 14396, 14420, 14444, 14467, 14491, 14515, 14539, 14564, 14588, 14612, 14637, 14662,
    14687, 14712, 14737, 14763, 14788, 14814, 14840, 14865, 14892, 14918, 14944, 14971, 14998,
    15024, 15051, 15079, 15106, 15133, 15161, 15189, 15217, 15245, 15274, 15302, 15331, 15360,
    15389, 15419, 15448, 15478, 15508, 15538, 15569, 15599, 15630, 15661, 15692, 15724, 15756,
    15788, 15820, 15852, 15885, 15918, 15951, 15985, 16019, 16053, 16087, 16122, 16156, 16192,
    16227, 16263, 16299, 16336, 16372, 16409, 16447, 16485, 16523, 16561, 16600, 16639, 16679,
    16719, 16760, 16801, 16842, 16883, 16926, 16968, 17011, 17055, 17099, 17143, 17188, 17234,
    17280, 17327, 17374, 17422, 17470, 17519, 17569, 17619, 17670, 17722, 17774, 17827, 17881,
    17936, 17991, 18048, 18105, 18163, 18222, 18282, 18343, 18405, 18468, 18532, 18598, 18664,
    18732, 18801, 18872, 18944, 19017, 19092, 19169, 19247, 19327, 19409, 19493, 19579, 19668,
    19758, 19852, 19948, 20046, 20148, 20252, 20361, 20473, 20589, 20709, 20834, 20963, 21099,
    21240, 21388, 21543, 21707, 21879, 22062, 22257, 22464, 22688, 22930, 23193, 23484, 23807,
    24172, 24592, 25090, 25702, 26507, 27703, 30482]

def paretoNegative0 : List ℕ := [
    5461, 5460, 5459, 5458, 5458, 5457, 5456, 5455, 5454, 5453, 5452, 5451, 5450, 5450, 5449, 5448,
    5447, 5446, 5445, 5444, 5443, 5442, 5441, 5441, 5440, 5439, 5438, 5437, 5436, 5435, 5434, 5433,
    5433, 5432, 5431, 5430, 5429, 5428, 5427, 5426, 5425, 5424, 5424, 5423, 5422, 5421, 5420, 5419,
    5418, 5417, 5416, 5415, 5414, 5414, 5413, 5412, 5411, 5410, 5409, 5408, 5407, 5406, 5405, 5405,
    5404, 5403, 5402, 5401, 5400, 5399, 5398, 5397, 5396, 5395, 5395, 5394, 5393, 5392, 5391, 5390,
    5389, 5388, 5387, 5386, 5385, 5384, 5384, 5383, 5382, 5381, 5380, 5379, 5378, 5377, 5376, 5375,
    5374, 5373, 5373, 5372, 5371, 5370, 5369, 5368, 5367, 5366, 5365, 5364, 5363, 5362, 5362, 5361,
    5360, 5359, 5358, 5357, 5356, 5355, 5354, 5353, 5352, 5351, 5350, 5350, 5349, 5348, 5347, 5346,
    5345, 5344, 5343, 5342, 5341, 5340, 5339, 5338, 5337, 5337, 5336, 5335, 5334, 5333, 5332, 5331,
    5330, 5329, 5328, 5327, 5326, 5325, 5324, 5323, 5323, 5322, 5321, 5320, 5319, 5318, 5317, 5316,
    5315, 5314, 5313, 5312, 5311, 5310, 5309, 5308, 5308, 5307, 5306, 5305, 5304, 5303, 5302, 5301,
    5300, 5299, 5298, 5297, 5296, 5295, 5294, 5293, 5292, 5292, 5291, 5290, 5289, 5288, 5287, 5286,
    5285, 5284, 5283, 5282, 5281, 5280, 5279, 5278, 5277, 5276, 5275, 5274, 5273, 5273, 5272, 5271,
    5270, 5269, 5268, 5267, 5266, 5265, 5264, 5263, 5262, 5261, 5260, 5259, 5258, 5257, 5256, 5255,
    5254, 5253, 5252, 5252, 5251, 5250, 5249, 5248, 5247, 5246, 5245, 5244, 5243, 5242, 5241, 5240,
    5239, 5238, 5237, 5236, 5235, 5234, 5233, 5232, 5231, 5230, 5229, 5228, 5227, 5226, 5226, 5225,
    5224, 5223, 5222, 5221, 5220, 5219, 5218, 5217, 5216, 5215, 5214, 5213, 5212, 5211, 5210, 5209,
    5208, 5207, 5206, 5205, 5204, 5203, 5202, 5201, 5200, 5199, 5198, 5197, 5196, 5195, 5194, 5193,
    5192, 5191, 5190, 5189, 5188, 5187, 5187, 5186, 5185, 5184, 5183, 5182, 5181, 5180, 5179, 5178,
    5177, 5176, 5175, 5174, 5173, 5172, 5171, 5170, 5169, 5168, 5167, 5166, 5165, 5164, 5163, 5162,
    5161, 5160, 5159, 5158, 5157, 5156, 5155, 5154, 5153, 5152, 5151, 5150, 5149, 5148, 5147, 5146,
    5145, 5144, 5143, 5142, 5141, 5140, 5139, 5138, 5137, 5136, 5135, 5134, 5133, 5132, 5131, 5130,
    5129, 5128, 5127, 5126, 5125, 5124, 5123, 5122, 5121, 5120, 5119, 5118, 5117, 5116, 5115, 5114,
    5113, 5112, 5111, 5110, 5109, 5108, 5107, 5106, 5105, 5104, 5103, 5102, 5101, 5100, 5099, 5098,
    5097, 5096, 5095, 5094, 5093, 5092, 5091, 5090, 5089, 5088, 5087, 5086, 5085, 5084, 5082, 5081,
    5080, 5079, 5078, 5077, 5076, 5075, 5074, 5073, 5072, 5071, 5070, 5069, 5068, 5067, 5066, 5065,
    5064, 5063, 5062, 5061, 5060, 5059, 5058, 5057, 5056, 5055, 5054, 5053, 5052, 5051, 5050, 5049,
    5048, 5047, 5046, 5045, 5044, 5042, 5041, 5040, 5039, 5038, 5037, 5036, 5035, 5034, 5033, 5032,
    5031, 5030, 5029, 5028, 5027, 5026, 5025, 5024, 5023, 5022, 5021, 5020, 5019, 5018, 5017, 5015,
    5014, 5013, 5012, 5011, 5010, 5009, 5008, 5007, 5006, 5005, 5004, 5003, 5002, 5001, 5000, 4999,
    4998, 4997, 4996, 4995, 4994, 4992, 4991, 4990, 4989, 4988, 4987, 4986, 4985, 4984, 4983, 4982,
    4981, 4980, 4979, 4978, 4977, 4976, 4975, 4973, 4972, 4971, 4970, 4969, 4968, 4967, 4966, 4965,
    4964, 4963, 4962, 4961, 4960, 4959, 4958, 4956, 4955, 4954, 4953, 4952, 4951, 4950, 4949, 4948,
    4947, 4946, 4945, 4944, 4943, 4942, 4940, 4939, 4938, 4937, 4936, 4935, 4934, 4933, 4932, 4931,
    4930, 4929, 4928, 4926, 4925, 4924, 4923, 4922, 4921, 4920, 4919, 4918, 4917, 4916, 4915, 4914,
    4912, 4911, 4910, 4909, 4908, 4907, 4906, 4905, 4904, 4903, 4902, 4901, 4899, 4898, 4897, 4896,
    4895, 4894, 4893, 4892, 4891, 4890, 4889, 4887, 4886, 4885, 4884, 4883, 4882, 4881, 4880, 4879,
    4878, 4877, 4875, 4874, 4873, 4872, 4871, 4870, 4869, 4868, 4867, 4866, 4864, 4863, 4862, 4861,
    4860, 4859, 4858, 4857, 4856, 4855, 4853, 4852, 4851, 4850, 4849, 4848, 4847, 4846, 4845, 4844,
    4842, 4841, 4840, 4839, 4838, 4837, 4836, 4835, 4834, 4832, 4831, 4830, 4829, 4828, 4827, 4826,
    4825, 4824, 4822, 4821, 4820, 4819, 4818, 4817, 4816, 4815, 4813, 4812, 4811, 4810, 4809, 4808,
    4807, 4806, 4804, 4803, 4802, 4801, 4800, 4799, 4798, 4797, 4795, 4794, 4793, 4792, 4791, 4790,
    4789, 4788, 4786, 4785, 4784, 4783, 4782, 4781, 4780, 4779, 4777, 4776, 4775, 4774, 4773, 4772,
    4771, 4769, 4768, 4767, 4766, 4765, 4764, 4763, 4761, 4760, 4759, 4758, 4757, 4756, 4755, 4754,
    4752, 4751, 4750, 4749, 4748, 4747, 4745, 4744, 4743, 4742, 4741, 4740, 4739, 4737, 4736, 4735,
    4734, 4733, 4732, 4731, 4729, 4728, 4727, 4726, 4725, 4724, 4722, 4721, 4720, 4719, 4718, 4717,
    4716, 4714, 4713, 4712, 4711, 4710, 4709, 4707, 4706, 4705, 4704, 4703, 4702, 4700, 4699, 4698,
    4697, 4696, 4695, 4693, 4692, 4691, 4690, 4689, 4688, 4686, 4685, 4684, 4683, 4682, 4681, 4679,
    4678, 4677, 4676, 4675, 4674, 4672, 4671, 4670, 4669, 4668, 4667, 4665, 4664, 4663, 4662, 4661,
    4659, 4658, 4657, 4656, 4655, 4654, 4652, 4651, 4650, 4649, 4648, 4646, 4645, 4644, 4643, 4642,
    4641, 4639, 4638, 4637, 4636, 4635, 4633, 4632, 4631, 4630, 4629, 4627, 4626, 4625, 4624, 4623,
    4621, 4620, 4619, 4618, 4617, 4615, 4614, 4613, 4612, 4611, 4609, 4608, 4607, 4606, 4605, 4603,
    4602, 4601, 4600, 4599, 4597, 4596, 4595, 4594, 4593, 4591, 4590, 4589, 4588, 4587, 4585, 4584,
    4583, 4582, 4581, 4579, 4578, 4577, 4576, 4574, 4573, 4572, 4571, 4570, 4568, 4567, 4566, 4565,
    4563, 4562, 4561, 4560, 4559, 4557, 4556, 4555, 4554, 4553, 4551, 4550, 4549, 4548, 4546, 4545,
    4544, 4543, 4541, 4540, 4539, 4538, 4537, 4535, 4534, 4533, 4532, 4530, 4529, 4528, 4527, 4525,
    4524, 4523, 4522, 4521, 4519, 4518, 4517, 4516, 4514, 4513, 4512, 4511, 4509, 4508, 4507, 4506,
    4504, 4503, 4502, 4501, 4499, 4498, 4497, 4496, 4494, 4493, 4492, 4491, 4489, 4488, 4487, 4486,
    4484, 4483, 4482, 4481, 4479, 4478, 4477, 4476, 4474, 4473, 4472, 4471, 4469, 4468, 4467, 4466,
    4464, 4463, 4462, 4461, 4459, 4458, 4457, 4455, 4454, 4453, 4452, 4450, 4449, 4448, 4447, 4445,
    4444, 4443, 4442, 4440, 4439, 4438, 4436, 4435, 4434, 4433, 4431, 4430, 4429, 4428, 4426, 4425,
    4424, 4422, 4421, 4420, 4419, 4417, 4416, 4415, 4413, 4412, 4411, 4410, 4408, 4407, 4406, 4404,
    4403, 4402, 4401, 4399, 4398, 4397, 4395, 4394, 4393, 4392, 4390, 4389, 4388, 4386, 4385, 4384,
    4383, 4381, 4380, 4379, 4377, 4376, 4375, 4373, 4372, 4371, 4370, 4368, 4367, 4366, 4364, 4363]

def paretoNegative1 : List ℕ := [
    4362, 4360, 4359, 4358, 4357, 4355, 4354, 4353, 4351, 4350, 4349, 4347, 4346, 4345, 4343, 4342,
    4341, 4339, 4338, 4337, 4336, 4334, 4333, 4332, 4330, 4329, 4328, 4326, 4325, 4324, 4322, 4321,
    4320, 4318, 4317, 4316, 4314, 4313, 4312, 4310, 4309, 4308, 4306, 4305, 4304, 4302, 4301, 4300,
    4298, 4297, 4296, 4294, 4293, 4292, 4290, 4289, 4288, 4286, 4285, 4284, 4282, 4281, 4280, 4278,
    4277, 4276, 4274, 4273, 4272, 4270, 4269, 4268, 4266, 4265, 4264, 4262, 4261, 4260, 4258, 4257,
    4256, 4254, 4253, 4251, 4250, 4249, 4247, 4246, 4245, 4243, 4242, 4241, 4239, 4238, 4237, 4235,
    4234, 4232, 4231, 4230, 4228, 4227, 4226, 4224, 4223, 4222, 4220, 4219, 4217, 4216, 4215, 4213,
    4212, 4211, 4209, 4208, 4206, 4205, 4204, 4202, 4201, 4200, 4198, 4197, 4195, 4194, 4193, 4191,
    4190, 4189, 4187, 4186, 4184, 4183, 4182, 4180, 4179, 4177, 4176, 4175, 4173, 4172, 4171, 4169,
    4168, 4166, 4165, 4164, 4162, 4161, 4159, 4158, 4157, 4155, 4154, 4152, 4151, 4150, 4148, 4147,
    4145, 4144, 4143, 4141, 4140, 4138, 4137, 4136, 4134, 4133, 4131, 4130, 4129, 4127, 4126, 4124,
    4123, 4122, 4120, 4119, 4117, 4116, 4114, 4113, 4112, 4110, 4109, 4107, 4106, 4105, 4103, 4102,
    4100, 4099, 4097, 4096, 4095, 4093, 4092, 4090, 4089, 4087, 4086, 4085, 4083, 4082, 4080, 4079,
    4077, 4076, 4075, 4073, 4072, 4070, 4069, 4067, 4066, 4065, 4063, 4062, 4060, 4059, 4057, 4056,
    4054, 4053, 4052, 4050, 4049, 4047, 4046, 4044, 4043, 4041, 4040, 4039, 4037, 4036, 4034, 4033,
    4031, 4030, 4028, 4027, 4025, 4024, 4023, 4021, 4020, 4018, 4017, 4015, 4014, 4012, 4011, 4009,
    4008, 4006, 4005, 4003, 4002, 4001, 3999, 3998, 3996, 3995, 3993, 3992, 3990, 3989, 3987, 3986,
    3984, 3983, 3981, 3980, 3978, 3977, 3975, 3974, 3973, 3971, 3970, 3968, 3967, 3965, 3964, 3962,
    3961, 3959, 3958, 3956, 3955, 3953, 3952, 3950, 3949, 3947, 3946, 3944, 3943, 3941, 3940, 3938,
    3937, 3935, 3934, 3932, 3931, 3929, 3928, 3926, 3925, 3923, 3922, 3920, 3919, 3917, 3916, 3914,
    3913, 3911, 3910, 3908, 3907, 3905, 3904, 3902, 3901, 3899, 3898, 3896, 3895, 3893, 3891, 3890,
    3888, 3887, 3885, 3884, 3882, 3881, 3879, 3878, 3876, 3875, 3873, 3872, 3870, 3869, 3867, 3865,
    3864, 3862, 3861, 3859, 3858, 3856, 3855, 3853, 3852, 3850, 3849, 3847, 3845, 3844, 3842, 3841,
    3839, 3838, 3836, 3835, 3833, 3832, 3830, 3828, 3827, 3825, 3824, 3822, 3821, 3819, 3818, 3816,
    3814, 3813, 3811, 3810, 3808, 3807, 3805, 3804, 3802, 3800, 3799, 3797, 3796, 3794, 3793, 3791,
    3789, 3788, 3786, 3785, 3783, 3782, 3780, 3778, 3777, 3775, 3774, 3772, 3771, 3769, 3767, 3766,
    3764, 3763, 3761, 3759, 3758, 3756, 3755, 3753, 3751, 3750, 3748, 3747, 3745, 3744, 3742, 3740,
    3739, 3737, 3736, 3734, 3732, 3731, 3729, 3728, 3726, 3724, 3723, 3721, 3720, 3718, 3716, 3715,
    3713, 3711, 3710, 3708, 3707, 3705, 3703, 3702, 3700, 3699, 3697, 3695, 3694, 3692, 3690, 3689,
    3687, 3686, 3684, 3682, 3681, 3679, 3677, 3676, 3674, 3673, 3671, 3669, 3668, 3666, 3664, 3663,
    3661, 3660, 3658, 3656, 3655, 3653, 3651, 3650, 3648, 3646, 3645, 3643, 3641, 3640, 3638, 3637,
    3635, 3633, 3632, 3630, 3628, 3627, 3625, 3623, 3622, 3620, 3618, 3617, 3615, 3613, 3612, 3610,
    3608, 3607, 3605, 3603, 3602, 3600, 3598, 3597, 3595, 3593, 3592, 3590, 3588, 3587, 3585, 3583,
    3582, 3580, 3578, 3577, 3575, 3573, 3572, 3570, 3568, 3566, 3565, 3563, 3561, 3560, 3558, 3556,
    3555, 3553, 3551, 3550, 3548, 3546, 3545, 3543, 3541, 3539, 3538, 3536, 3534, 3533, 3531, 3529,
    3527, 3526, 3524, 3522, 3521, 3519, 3517, 3516, 3514, 3512, 3510, 3509, 3507, 3505, 3504, 3502,
    3500, 3498, 3497, 3495, 3493, 3491, 3490, 3488, 3486, 3485, 3483, 3481, 3479, 3478, 3476, 3474,
    3472, 3471, 3469, 3467, 3465, 3464, 3462, 3460, 3459, 3457, 3455, 3453, 3452, 3450, 3448, 3446,
    3445, 3443, 3441, 3439, 3438, 3436, 3434, 3432, 3430, 3429, 3427, 3425, 3423, 3422, 3420, 3418,
    3416, 3415, 3413, 3411, 3409, 3408, 3406, 3404, 3402, 3400, 3399, 3397, 3395, 3393, 3392, 3390,
    3388, 3386, 3384, 3383, 3381, 3379, 3377, 3376, 3374, 3372, 3370, 3368, 3367, 3365, 3363, 3361,
    3359, 3358, 3356, 3354, 3352, 3350, 3349, 3347, 3345, 3343, 3341, 3340, 3338, 3336, 3334, 3332,
    3331, 3329, 3327, 3325, 3323, 3321, 3320, 3318, 3316, 3314, 3312, 3311, 3309, 3307, 3305, 3303,
    3301, 3300, 3298, 3296, 3294, 3292, 3290, 3289, 3287, 3285, 3283, 3281, 3279, 3277, 3276, 3274,
    3272, 3270, 3268, 3266, 3265, 3263, 3261, 3259, 3257, 3255, 3253, 3252, 3250, 3248, 3246, 3244,
    3242, 3240, 3239, 3237, 3235, 3233, 3231, 3229, 3227, 3225, 3224, 3222, 3220, 3218, 3216, 3214,
    3212, 3210, 3209, 3207, 3205, 3203, 3201, 3199, 3197, 3195, 3194, 3192, 3190, 3188, 3186, 3184,
    3182, 3180, 3178, 3176, 3175, 3173, 3171, 3169, 3167, 3165, 3163, 3161, 3159, 3157, 3155, 3154,
    3152, 3150, 3148, 3146, 3144, 3142, 3140, 3138, 3136, 3134, 3132, 3131, 3129, 3127, 3125, 3123,
    3121, 3119, 3117, 3115, 3113, 3111, 3109, 3107, 3105, 3103, 3101, 3100, 3098, 3096, 3094, 3092,
    3090, 3088, 3086, 3084, 3082, 3080, 3078, 3076, 3074, 3072, 3070, 3068, 3066, 3064, 3062, 3060,
    3058, 3056, 3055, 3053, 3051, 3049, 3047, 3045, 3043, 3041, 3039, 3037, 3035, 3033, 3031, 3029,
    3027, 3025, 3023, 3021, 3019, 3017, 3015, 3013, 3011, 3009, 3007, 3005, 3003, 3001, 2999, 2997,
    2995, 2993, 2991, 2989, 2987, 2985, 2983, 2981, 2979, 2977, 2975, 2973, 2971, 2969, 2967, 2965,
    2963, 2961, 2959, 2956, 2954, 2952, 2950, 2948, 2946, 2944, 2942, 2940, 2938, 2936, 2934, 2932,
    2930, 2928, 2926, 2924, 2922, 2920, 2918, 2916, 2914, 2911, 2909, 2907, 2905, 2903, 2901, 2899,
    2897, 2895, 2893, 2891, 2889, 2887, 2885, 2883, 2880, 2878, 2876, 2874, 2872, 2870, 2868, 2866,
    2864, 2862, 2860, 2858, 2855, 2853, 2851, 2849, 2847, 2845, 2843, 2841, 2839, 2837, 2834, 2832,
    2830, 2828, 2826, 2824, 2822, 2820, 2818, 2815, 2813, 2811, 2809, 2807, 2805, 2803, 2801, 2798,
    2796, 2794, 2792, 2790, 2788, 2786, 2784, 2781, 2779, 2777, 2775, 2773, 2771, 2769, 2766, 2764,
    2762, 2760, 2758, 2756, 2754, 2751, 2749, 2747, 2745, 2743, 2741, 2738, 2736, 2734, 2732, 2730,
    2728, 2725, 2723, 2721, 2719, 2717, 2714, 2712, 2710, 2708, 2706, 2704, 2701, 2699, 2697, 2695,
    2693, 2690, 2688, 2686, 2684, 2682, 2679, 2677, 2675, 2673, 2671, 2668, 2666, 2664, 2662, 2660,
    2657, 2655, 2653, 2651, 2648, 2646, 2644, 2642, 2640, 2637, 2635, 2633, 2631, 2628, 2626, 2624]

def paretoNegative2 : List ℕ := [
    2622, 2619, 2617, 2615, 2613, 2610, 2608, 2606, 2604, 2601, 2599, 2597, 2595, 2592, 2590, 2588,
    2586, 2583, 2581, 2579, 2577, 2574, 2572, 2570, 2567, 2565, 2563, 2561, 2558, 2556, 2554, 2551,
    2549, 2547, 2545, 2542, 2540, 2538, 2535, 2533, 2531, 2528, 2526, 2524, 2522, 2519, 2517, 2515,
    2512, 2510, 2508, 2505, 2503, 2501, 2498, 2496, 2494, 2491, 2489, 2487, 2484, 2482, 2480, 2477,
    2475, 2473, 2470, 2468, 2466, 2463, 2461, 2459, 2456, 2454, 2452, 2449, 2447, 2445, 2442, 2440,
    2438, 2435, 2433, 2430, 2428, 2426, 2423, 2421, 2419, 2416, 2414, 2411, 2409, 2407, 2404, 2402,
    2400, 2397, 2395, 2392, 2390, 2388, 2385, 2383, 2380, 2378, 2376, 2373, 2371, 2368, 2366, 2363,
    2361, 2359, 2356, 2354, 2351, 2349, 2347, 2344, 2342, 2339, 2337, 2334, 2332, 2330, 2327, 2325,
    2322, 2320, 2317, 2315, 2312, 2310, 2308, 2305, 2303, 2300, 2298, 2295, 2293, 2290, 2288, 2285,
    2283, 2280, 2278, 2275, 2273, 2271, 2268, 2266, 2263, 2261, 2258, 2256, 2253, 2251, 2248, 2246,
    2243, 2241, 2238, 2236, 2233, 2231, 2228, 2226, 2223, 2221, 2218, 2216, 2213, 2211, 2208, 2206,
    2203, 2200, 2198, 2195, 2193, 2190, 2188, 2185, 2183, 2180, 2178, 2175, 2173, 2170, 2167, 2165,
    2162, 2160, 2157, 2155, 2152, 2150, 2147, 2144, 2142, 2139, 2137, 2134, 2132, 2129, 2126, 2124,
    2121, 2119, 2116, 2113, 2111, 2108, 2106, 2103, 2100, 2098, 2095, 2093, 2090, 2087, 2085, 2082,
    2080, 2077, 2074, 2072, 2069, 2067, 2064, 2061, 2059, 2056, 2053, 2051, 2048, 2045, 2043, 2040,
    2038, 2035, 2032, 2030, 2027, 2024, 2022, 2019, 2016, 2014, 2011, 2008, 2006, 2003, 2000, 1998,
    1995, 1992, 1990, 1987, 1984, 1982, 1979, 1976, 1973, 1971, 1968, 1965, 1963, 1960, 1957, 1955,
    1952, 1949, 1946, 1944, 1941, 1938, 1936, 1933, 1930, 1927, 1925, 1922, 1919, 1916, 1914, 1911,
    1908, 1906, 1903, 1900, 1897, 1895, 1892, 1889, 1886, 1883, 1881, 1878, 1875, 1872, 1870, 1867,
    1864, 1861, 1859, 1856, 1853, 1850, 1847, 1845, 1842, 1839, 1836, 1833, 1831, 1828, 1825, 1822,
    1819, 1817, 1814, 1811, 1808, 1805, 1803, 1800, 1797, 1794, 1791, 1788, 1786, 1783, 1780, 1777,
    1774, 1771, 1769, 1766, 1763, 1760, 1757, 1754, 1751, 1749, 1746, 1743, 1740, 1737, 1734, 1731,
    1728, 1726, 1723, 1720, 1717, 1714, 1711, 1708, 1705, 1702, 1700, 1697, 1694, 1691, 1688, 1685,
    1682, 1679, 1676, 1673, 1670, 1667, 1665, 1662, 1659, 1656, 1653, 1650, 1647, 1644, 1641, 1638,
    1635, 1632, 1629, 1626, 1623, 1620, 1617, 1614, 1611, 1608, 1605, 1602, 1599, 1596, 1593, 1590,
    1588, 1585, 1582, 1579, 1576, 1573, 1570, 1566, 1563, 1560, 1557, 1554, 1551, 1548, 1545, 1542,
    1539, 1536, 1533, 1530, 1527, 1524, 1521, 1518, 1515, 1512, 1509, 1506, 1503, 1500, 1497, 1494,
    1490, 1487, 1484, 1481, 1478, 1475, 1472, 1469, 1466, 1463, 1460, 1457, 1453, 1450, 1447, 1444,
    1441, 1438, 1435, 1432, 1429, 1425, 1422, 1419, 1416, 1413, 1410, 1407, 1403, 1400, 1397, 1394,
    1391, 1388, 1385, 1381, 1378, 1375, 1372, 1369, 1366, 1362, 1359, 1356, 1353, 1350, 1346, 1343,
    1340, 1337, 1334, 1330, 1327, 1324, 1321, 1318, 1314, 1311, 1308, 1305, 1301, 1298, 1295, 1292,
    1289, 1285, 1282, 1279, 1276, 1272, 1269, 1266, 1262, 1259, 1256, 1253, 1249, 1246, 1243, 1240,
    1236, 1233, 1230, 1226, 1223, 1220, 1217, 1213, 1210, 1207, 1203, 1200, 1197, 1193, 1190, 1187,
    1183, 1180, 1177, 1173, 1170, 1167, 1163, 1160, 1157, 1153, 1150, 1146, 1143, 1140, 1136, 1133,
    1130, 1126, 1123, 1119, 1116, 1113, 1109, 1106, 1102, 1099, 1096, 1092, 1089, 1085, 1082, 1079,
    1075, 1072, 1068, 1065, 1061, 1058, 1055, 1051, 1048, 1044, 1041, 1037, 1034, 1030, 1027, 1023,
    1020, 1016, 1013, 1009, 1006, 1002, 999, 995, 992, 988, 985, 981, 978, 974, 971, 967, 964, 960,
    957, 953, 950, 946, 943, 939, 935, 932, 928, 925, 921, 918, 914, 910, 907, 903, 900, 896, 893,
    889, 885, 882, 878, 875, 871, 867, 864, 860, 856, 853, 849, 846, 842, 838, 835, 831, 827, 824,
    820, 816, 813, 809, 805, 802, 798, 794, 791, 787, 783, 779, 776, 772, 768, 765, 761, 757, 753,
    750, 746, 742, 739, 735, 731, 727, 724, 720, 716, 712, 708, 705, 701, 697, 693, 690, 686, 682,
    678, 674, 671, 667, 663, 659, 655, 652, 648, 644, 640, 636, 632, 629, 625, 621, 617, 613, 609,
    605, 601, 598, 594, 590, 586, 582, 578, 574, 570, 566, 563, 559, 555, 551, 547, 543, 539, 535,
    531, 527, 523, 519, 515, 511, 507, 503, 499, 495, 492, 488, 484, 480, 476, 472, 468, 464, 460,
    455, 451, 447, 443, 439, 435, 431, 427, 423, 419, 415, 411, 407, 403, 399, 395, 391, 387, 382,
    378, 374, 370, 366, 362, 358, 354, 350, 345, 341, 337, 333, 329, 325, 320, 316, 312, 308, 304,
    300, 295, 291, 287, 283, 279, 274, 270, 266, 262, 258, 253, 249, 245, 241, 236, 232, 228, 224,
    219, 215, 211, 207, 202, 198, 194, 189, 185, 181, 177, 172, 168, 164, 159, 155, 151, 146, 142,
    138, 133, 129, 124, 120, 116, 111, 107, 103, 98, 94, 89, 85, 81, 76, 72, 67, 63, 58, 54, 50, 45,
    41, 36, 32, 27, 23, 18, 14, 9, 5]

def paretoPositive0 : List ℕ := [
    0, 5, 9, 14, 18, 23, 27, 32, 36, 41, 46, 50, 55, 59, 64, 68, 73, 78, 82, 87, 91, 96, 101, 105,
    110, 114, 119, 124, 128, 133, 138, 142, 147, 152, 156, 161, 166, 170, 175, 180, 184, 189, 194,
    198, 203, 208, 213, 217, 222, 227, 232, 236, 241, 246, 251, 255, 260, 265, 270, 275, 279, 284,
    289, 294, 299, 304, 308, 313, 318, 323, 328, 333, 338, 343, 347, 352, 357, 362, 367, 372, 377,
    382, 387, 392, 397, 402, 407, 411, 416, 421, 426, 431, 436, 441, 446, 451, 456, 461, 466, 472,
    477, 482, 487, 492, 497, 502, 507, 512, 517, 522, 527, 532, 538, 543, 548, 553, 558, 563, 568,
    574, 579, 584, 589, 594, 599, 605, 610, 615, 620, 625, 631, 636, 641, 646, 652, 657, 662, 667,
    673, 678, 683, 689, 694, 699, 705, 710, 715, 721, 726, 731, 737, 742, 747, 753, 758, 764, 769,
    774, 780, 785, 791, 796, 802, 807, 812, 818, 823, 829, 834, 840, 845, 851, 856, 862, 867, 873,
    879, 884, 890, 895, 901, 906, 912, 918, 923, 929, 934, 940, 946, 951, 957, 963, 968, 974, 980,
    985, 991, 997, 1002, 1008, 1014, 1019, 1025, 1031, 1037, 1042, 1048, 1054, 1060, 1066, 1071,
    1077, 1083, 1089, 1095, 1100, 1106, 1112, 1118, 1124, 1130, 1136, 1142, 1147, 1153, 1159, 1165,
    1171, 1177, 1183, 1189, 1195, 1201, 1207, 1213, 1219, 1225, 1231, 1237, 1243, 1249, 1255, 1261,
    1267, 1273, 1279, 1285, 1291, 1297, 1304, 1310, 1316, 1322, 1328, 1334, 1340, 1347, 1353, 1359,
    1365, 1371, 1378, 1384, 1390, 1396, 1402, 1409, 1415, 1421, 1428, 1434, 1440, 1446, 1453, 1459,
    1465, 1472, 1478, 1484, 1491, 1497, 1504, 1510, 1516, 1523, 1529, 1536, 1542, 1549, 1555, 1561,
    1568, 1574, 1581, 1587, 1594, 1600, 1607, 1614, 1620, 1627, 1633, 1640, 1646, 1653, 1660, 1666,
    1673, 1680, 1686, 1693, 1700, 1706, 1713, 1720, 1726, 1733, 1740, 1747, 1753, 1760, 1767, 1774,
    1780, 1787, 1794, 1801, 1808, 1814, 1821, 1828, 1835, 1842, 1849, 1856, 1863, 1870, 1877, 1883,
    1890, 1897, 1904, 1911, 1918, 1925, 1932, 1939, 1947, 1954, 1961, 1968, 1975, 1982, 1989, 1996,
    2003, 2010, 2018, 2025, 2032, 2039, 2046, 2053, 2061, 2068, 2075, 2082, 2090, 2097, 2104, 2112,
    2119, 2126, 2134, 2141, 2148, 2156, 2163, 2170, 2178, 2185, 2193, 2200, 2208, 2215, 2222, 2230,
    2237, 2245, 2253, 2260, 2268, 2275, 2283, 2290, 2298, 2306, 2313, 2321, 2328, 2336, 2344, 2351,
    2359, 2367, 2375, 2382, 2390, 2398, 2406, 2413, 2421, 2429, 2437, 2445, 2453, 2460, 2468, 2476,
    2484, 2492, 2500, 2508, 2516, 2524, 2532, 2540, 2548, 2556, 2564, 2572, 2580, 2588, 2596, 2604,
    2612, 2621, 2629, 2637, 2645, 2653, 2662, 2670, 2678, 2686, 2695, 2703, 2711, 2719, 2728, 2736,
    2744, 2753, 2761, 2770, 2778, 2786, 2795, 2803, 2812, 2820, 2829, 2837, 2846, 2854, 2863, 2872,
    2880, 2889, 2897, 2906, 2915, 2923, 2932, 2941, 2949, 2958, 2967, 2976, 2984, 2993, 3002, 3011,
    3020, 3029, 3038, 3046, 3055, 3064, 3073, 3082, 3091, 3100, 3109, 3118, 3127, 3136, 3145, 3154,
    3164, 3173, 3182, 3191, 3200, 3209, 3219, 3228, 3237, 3246, 3256, 3265, 3274, 3284, 3293, 3302,
    3312, 3321, 3331, 3340, 3349, 3359, 3368, 3378, 3387, 3397, 3407, 3416, 3426, 3435, 3445, 3455,
    3464, 3474, 3484, 3494, 3503, 3513, 3523, 3533, 3543, 3552, 3562, 3572, 3582, 3592, 3602, 3612,
    3622, 3632, 3642, 3652, 3662, 3672, 3682, 3692, 3703, 3713, 3723, 3733, 3743, 3754, 3764, 3774,
    3785, 3795, 3805, 3816, 3826, 3836, 3847, 3857, 3868, 3878, 3889, 3899, 3910, 3921, 3931, 3942,
    3953, 3963, 3974, 3985, 3995, 4006, 4017, 4028, 4039, 4050, 4061, 4071, 4082, 4093, 4104, 4115,
    4126, 4138, 4149, 4160, 4171, 4182, 4193, 4204, 4216, 4227, 4238, 4250, 4261, 4272, 4284, 4295,
    4307, 4318, 4330, 4341, 4353, 4364, 4376, 4387, 4399, 4411, 4422, 4434, 4446, 4458, 4469, 4481,
    4493, 4505, 4517, 4529, 4541, 4553, 4565, 4577, 4589, 4601, 4613, 4625, 4637, 4650, 4662, 4674,
    4686, 4699, 4711, 4723, 4736, 4748, 4761, 4773, 4786, 4798, 4811, 4823, 4836, 4849, 4861, 4874,
    4887, 4900, 4913, 4925, 4938, 4951, 4964, 4977, 4990, 5003, 5016, 5029, 5042, 5056, 5069, 5082,
    5095, 5109, 5122, 5135, 5149, 5162, 5176, 5189, 5203, 5216, 5230, 5244, 5257, 5271, 5285, 5299,
    5312, 5326, 5340, 5354, 5368, 5382, 5396, 5410, 5424, 5439, 5453, 5467, 5481, 5495, 5510, 5524,
    5539, 5553, 5567, 5582, 5596, 5611, 5626, 5640, 5655, 5670, 5685, 5699, 5714, 5729, 5744, 5759,
    5774, 5789, 5804, 5820, 5835, 5850, 5865, 5881, 5896, 5911, 5927, 5942, 5958, 5973, 5989, 6005,
    6020, 6036, 6052, 6068, 6084, 6100, 6116, 6132, 6148, 6164, 6180, 6196, 6212, 6229, 6245, 6261,
    6278, 6294, 6311, 6328, 6344, 6361, 6378, 6394, 6411, 6428, 6445, 6462, 6479, 6496, 6513, 6531,
    6548, 6565, 6583, 6600, 6617, 6635, 6652, 6670, 6688, 6706, 6723, 6741, 6759, 6777, 6795, 6813,
    6831, 6849, 6867, 6886, 6904, 6922, 6941, 6959, 6978, 6996, 7015, 7034, 7053, 7072, 7091, 7110,
    7129, 7148, 7167, 7186, 7206, 7225, 7245, 7264, 7284, 7303, 7323, 7343, 7363, 7383, 7403, 7423,
    7443, 7463, 7483, 7503, 7524, 7544, 7564, 7585, 7606, 7626, 7647, 7668, 7689, 7710, 7731, 7752,
    7773, 7794, 7816, 7837, 7859, 7881, 7902, 7924, 7946, 7968, 7990, 8012, 8034, 8056, 8079, 8101,
    8124, 8146, 8169, 8191, 8214, 8237, 8260, 8283, 8306, 8330, 8353, 8376, 8400, 8423, 8447, 8471,
    8495, 8519, 8543, 8567, 8591, 8616, 8640, 8665, 8689, 8714, 8739, 8764, 8789, 8814, 8839, 8865,
    8890, 8916, 8941, 8967, 8993, 9019, 9045, 9071, 9097, 9123, 9150, 9176, 9203, 9230, 9257, 9284,
    9311, 9339, 9366, 9394, 9421, 9449, 9477, 9505, 9533, 9561, 9590, 9618, 9647, 9675, 9704, 9733,
    9762, 9791, 9821, 9850, 9880, 9910, 9940, 9970, 10000, 10030, 10061, 10091, 10122, 10153, 10184,
    10215, 10247, 10278, 10310, 10341, 10373, 10405, 10438, 10470, 10503, 10535, 10568, 10601,
    10635, 10668, 10701, 10735, 10769, 10803, 10837, 10872, 10906, 10941, 10976, 11011, 11046,
    11082, 11117, 11153, 11189, 11225, 11262, 11298, 11335, 11372, 11409, 11446, 11484, 11522,
    11560, 11598, 11636, 11675, 11714, 11753, 11792, 11831, 11871, 11911, 11951, 11991, 12032,
    12073, 12114, 12155, 12197, 12239, 12281, 12323, 12365, 12408, 12451, 12495, 12539, 12582,
    12626, 12671, 12715, 12760, 12805, 12851, 12897, 12943, 12989, 13036, 13082, 13130, 13177,
    13225, 13273, 13322, 13371, 13420, 13469, 13519, 13569, 13619, 13670, 13721, 13773, 13825,
    13877, 13929, 13982]

def paretoPositive1 : List ℕ := [
    14035, 14089, 14143, 14198, 14252, 14308, 14363, 14419, 14476, 14533, 14590, 14648, 14706,
    14764, 14823, 14883, 14943, 15003, 15064, 15125, 15187, 15249, 15312, 15375, 15439, 15503,
    15568, 15634, 15700, 15766, 15833, 15901, 15969, 16037, 16107, 16177, 16247, 16318, 16390,
    16462, 16535, 16609, 16683, 16758, 16834, 16910, 16987, 17065, 17144, 17223, 17303, 17384,
    17466, 17548, 17631, 17715, 17800, 17886, 17972, 18059, 18148, 18237, 18327, 18419, 18511,
    18604, 18698, 18793, 18889, 18986, 19085, 19184, 19284, 19386, 19489, 19593, 19698, 19805,
    19913, 20021, 20132, 20243, 20357, 20471, 20587, 20705, 20823, 20944, 21066, 21190, 21315,
    21442, 21571, 21701, 21833, 21967, 22103, 22242, 22382, 22524, 22668, 22814, 22963, 23113,
    23267, 23422, 23580, 23741, 23904, 24070, 24239, 24410, 24585, 24762, 24943, 25126, 25314,
    25504, 25698, 25896, 26097, 26302, 26512, 26725, 26944, 27165, 27393, 27624, 27861, 28103,
    28350, 28603, 28862, 29127, 29398, 29676, 29960, 30252, 30551, 30858, 31173, 31497, 31830,
    32172, 32525, 32763, 32767, 32767, 32767, 32767, 32767, 32767, 32767, 32767, 32767, 32767,
    32767, 32767, 32767, 32767, 32767, 32767, 32767, 32767, 32767, 32767, 32767, 32767, 32767,
    32767, 32767, 32767, 32767, 32767, 32767, 32767, 32767, 32767, 32767, 32767, 32767, 32767,
    32767, 32767, 32767, 32767, 32767, 32767, 32767, 32767]

def paretonormalNegative0 : List ℕ := [
    11716, 11020, 10721, 10519, 10366, 10240, 10135, 10043, 9961, 9888, 9821, 9760, 9703, 9651,
    9602, 9555, 9512, 9470, 9430, 9393, 9357, 9322, 9289, 9258, 9227, 9197, 9168, 9140, 9114, 9087,
    9062, 9037, 9014, 8991, 8968, 8945, 8924, 8902, 8882, 8861, 8841, 8822, 8804, 8785, 8766, 8748,
    8731, 8713, 8696, 8679, 8663, 8647, 8631, 8616, 8600, 8585, 8570, 8555, 8540, 8526, 8512, 8498,
    8484, 8471, 8457, 8444, 8431, 8418, 8405, 8392, 8380, 8367, 8355, 8343, 8332, 8320, 8308, 8296,
    8285, 8274, 8262, 8251, 8240, 8229, 8218, 8207, 8197, 8187, 8176, 8166, 8156, 8146, 8135, 8125,
    8116, 8106, 8096, 8086, 8077, 8068, 8058, 8049, 8040, 8030, 8021, 8012, 8003, 7994, 7985, 7976,
    7968, 7959, 7951, 7942, 7933, 7925, 7916, 7908, 7900, 7891, 7883, 7875, 7867, 7859, 7851, 7843,
    7835, 7828, 7820, 7812, 7804, 7796, 7789, 7781, 7774, 7766, 7758, 7752, 7744, 7737, 7730, 7722,
    7715, 7708, 7701, 7693, 7686, 7679, 7672, 7665, 7658, 7651, 7645, 7638, 7631, 7624, 7618, 7611,
    7604, 7598, 7591, 7584, 7578, 7571, 7564, 7558, 7551, 7545, 7539, 7533, 7527, 7520, 7514, 7508,
    7501, 7495, 7489, 7483, 7476, 7470, 7464, 7458, 7452, 7446, 7440, 7435, 7429, 7423, 7417, 7411,
    7405, 7399, 7393, 7387, 7381, 7376, 7370, 7364, 7358, 7353, 7347, 7341, 7336, 7330, 7325, 7320,
    7314, 7309, 7303, 7297, 7292, 7286, 7281, 7276, 7270, 7265, 7259, 7254, 7249, 7243, 7238, 7233,
    7227, 7222, 7217, 7211, 7206, 7202, 7197, 7191, 7186, 7181, 7176, 7171, 7166, 7161, 7156, 7150,
    7145, 7140, 7135, 7130, 7125, 7120, 7115, 7110, 7105, 7101, 7096, 7091, 7086, 7081, 7076, 7071,
    7067, 7062, 7057, 7053, 7048, 7043, 7038, 7034, 7029, 7024, 7019, 7015, 7010, 7005, 7001, 6996,
    6991, 6987, 6982, 6977, 6973, 6968, 6964, 6959, 6955, 6950, 6945, 6941, 6936, 6932, 6927, 6923,
    6918, 6914, 6909, 6905, 6901, 6896, 6892, 6887, 6884, 6879, 6875, 6870, 6866, 6862, 6857, 6853,
    6849, 6844, 6840, 6836, 6832, 6827, 6823, 6819, 6814, 6810, 6806, 6802, 6797, 6793, 6789, 6785,
    6781, 6776, 6772, 6768, 6764, 6760, 6756, 6752, 6747, 6743, 6739, 6735, 6731, 6727, 6723, 6719,
    6715, 6711, 6707, 6703, 6699, 6694, 6690, 6686, 6682, 6678, 6674, 6670, 6667, 6663, 6659, 6655,
    6651, 6647, 6643, 6639, 6635, 6631, 6627, 6623, 6619, 6615, 6612, 6608, 6604, 6600, 6596, 6592,
    6588, 6585, 6581, 6577, 6573, 6569, 6565, 6562, 6558, 6554, 6550, 6546, 6543, 6539, 6535, 6531,
    6528, 6524, 6520, 6516, 6513, 6509, 6505, 6502, 6498, 6494, 6490, 6487, 6483, 6479, 6476, 6472,
    6468, 6464, 6460, 6457, 6453, 6449, 6446, 6442, 6439, 6435, 6431, 6428, 6424, 6421, 6417, 6413,
    6410, 6406, 6403, 6399, 6396, 6392, 6388, 6385, 6381, 6378, 6374, 6371, 6367, 6364, 6360, 6357,
    6353, 6350, 6346, 6343, 6339, 6336, 6332, 6328, 6325, 6321, 6318, 6314, 6311, 6307, 6304, 6301,
    6297, 6294, 6290, 6287, 6283, 6280, 6277, 6273, 6270, 6266, 6263, 6260, 6256, 6253, 6250, 6246,
    6243, 6239, 6235, 6232, 6229, 6225, 6222, 6219, 6215, 6212, 6209, 6205, 6202, 6199, 6195, 6192,
    6189, 6186, 6182, 6179, 6176, 6172, 6169, 6165, 6162, 6159, 6155, 6152, 6149, 6146, 6142, 6139,
    6136, 6133, 6129, 6126, 6123, 6120, 6116, 6113, 6110, 6106, 6103, 6100, 6096, 6093, 6090, 6087,
    6084, 6080, 6077, 6074, 6071, 6068, 6065, 6061, 6058, 6054, 6051, 6048, 6045, 6042, 6039, 6036,
    6032, 6029, 6026, 6023, 6020, 6017, 6014, 6011, 6007, 6004, 6000, 5997, 5994, 5991, 5988, 5985,
    5982, 5979, 5976, 5973, 5970, 5966, 5963, 5960, 5957, 5954, 5951, 5947, 5944, 5941, 5938, 5935,
    5932, 5929, 5925, 5922, 5919, 5916, 5913, 5910, 5907, 5904, 5901, 5898, 5895, 5892, 5888, 5885,
    5882, 5879, 5877, 5874, 5871, 5868, 5865, 5862, 5859, 5855, 5852, 5849, 5846, 5843, 5840, 5837,
    5834, 5831, 5828, 5825, 5822, 5819, 5816, 5813, 5810, 5807, 5804, 5801, 5798, 5795, 5792, 5789,
    5786, 5783, 5780, 5777, 5774, 5771, 5768, 5765, 5762, 5759, 5756, 5753, 5750, 5747, 5744, 5742,
    5739, 5736, 5732, 5729, 5726, 5724, 5721, 5718, 5715, 5712, 5709, 5706, 5703, 5700, 5697, 5694,
    5691, 5689, 5686, 5683, 5679, 5677, 5674, 5671, 5668, 5665, 5662, 5660, 5656, 5653, 5650, 5648,
    5645, 5642, 5639, 5636, 5633, 5630, 5627, 5624, 5622, 5619, 5616, 5613, 5610, 5607, 5604, 5601,
    5599, 5596, 5593, 5590, 5587, 5584, 5581, 5579, 5576, 5573, 5570, 5567, 5564, 5561, 5559, 5556,
    5553, 5550, 5548, 5544, 5541, 5539, 5536, 5533, 5530, 5528, 5524, 5521, 5519, 5516, 5513, 5511,
    5508, 5505, 5502, 5499, 5496, 5494, 5491, 5488, 5485, 5482, 5479, 5477, 5474, 5471, 5468, 5465,
    5462, 5460, 5457, 5454, 5452, 5449, 5446, 5443, 5440, 5438, 5435, 5432, 5429, 5426, 5423, 5421,
    5418, 5415, 5413, 5409, 5407, 5404, 5401, 5399, 5396, 5393, 5390, 5387, 5385, 5382, 5380, 5376,
    5373, 5371, 5368, 5366, 5363, 5360, 5357, 5354, 5352, 5349, 5346, 5343, 5340, 5338, 5335, 5333,
    5330, 5327, 5324, 5321, 5319, 5316, 5314, 5310, 5308, 5305, 5303, 5300, 5297, 5294, 5291, 5289,
    5286, 5284, 5280, 5278, 5275, 5273, 5270, 5267, 5264, 5261, 5259, 5256, 5254, 5250, 5248, 5245,
    5243, 5240, 5238, 5234, 5232, 5229, 5227, 5224, 5221, 5218, 5216, 5213, 5211, 5207, 5205, 5202,
    5200, 5197, 5194, 5191, 5189, 5186, 5184, 5180, 5178, 5175, 5173, 5170, 5167, 5164, 5162, 5159,
    5157, 5154, 5151, 5149, 5146, 5144, 5140, 5138, 5135, 5133, 5130, 5127, 5125, 5122, 5119, 5117,
    5114, 5111, 5109, 5106, 5104, 5100, 5098, 5096, 5093, 5090, 5087, 5085, 5082, 5080, 5077, 5074,
    5072, 5069, 5066, 5063, 5061, 5058, 5056, 5053, 5050, 5048, 5045, 5043, 5040, 5037, 5035, 5032,
    5029, 5027, 5024, 5022, 5018, 5016, 5014, 5011, 5009, 5005, 5003, 5001, 4998, 4995, 4992, 4990,
    4988, 4984, 4982, 4979, 4977, 4975, 4971, 4969, 4967, 4964, 4961, 4958, 4956, 4954, 4950, 4948,
    4946, 4943, 4940, 4938, 4935, 4933, 4929, 4927, 4925, 4922, 4919, 4917, 4914, 4912, 4909, 4906,
    4904, 4901, 4898, 4896, 4893, 4891, 4888, 4885, 4883, 4881, 4877, 4875, 4873, 4870, 4867, 4865,
    4862, 4860, 4857, 4854, 4852, 4850, 4846, 4844, 4842, 4839, 4836, 4834, 4831, 4828, 4826, 4824,
    4821, 4818, 4816, 4813, 4811, 4808, 4805, 4803, 4800, 4798, 4795, 4793, 4790, 4787, 4785, 4783,
    4779, 4777, 4775, 4772, 4769, 4767, 4764, 4761, 4759, 4757, 4754, 4751, 4749, 4746, 4743, 4741,
    4739, 4736, 4733, 4731, 4728, 4725, 4723, 4721, 4718, 4715, 4713, 4711, 4707, 4705, 4703, 4700,
    4697, 4695, 4693, 4690, 4687, 4685, 4682, 4680, 4677, 4674, 4672, 4669, 4667, 4664, 4662, 4659,
    4656, 4654]

def paretonormalNegative1 : List ℕ := [
    4652, 4649, 4646, 4644, 4642, 4639, 4636, 4634, 4631, 4629, 4626, 4623, 4621, 4619, 4615, 4613,
    4611, 4608, 4605, 4603, 4601, 4598, 4596, 4593, 4590, 4588, 4586, 4583, 4580, 4578, 4575, 4573,
    4570, 4567, 4565, 4563, 4560, 4557, 4555, 4552, 4550, 4547, 4544, 4542, 4540, 4537, 4534, 4532,
    4529, 4527, 4525, 4522, 4519, 4517, 4514, 4512, 4509, 4506, 4504, 4502, 4499, 4496, 4494, 4491,
    4489, 4487, 4484, 4481, 4479, 4476, 4474, 4471, 4468, 4466, 4464, 4461, 4459, 4456, 4453, 4451,
    4449, 4446, 4444, 4441, 4438, 4436, 4433, 4431, 4428, 4425, 4423, 4421, 4418, 4416, 4413, 4410,
    4408, 4405, 4403, 4401, 4398, 4395, 4393, 4390, 4388, 4386, 4383, 4380, 4377, 4375, 4373, 4370,
    4368, 4365, 4363, 4360, 4357, 4355, 4353, 4350, 4348, 4345, 4342, 4340, 4337, 4335, 4333, 4330,
    4327, 4325, 4322, 4320, 4317, 4315, 4313, 4310, 4307, 4304, 4302, 4300, 4297, 4295, 4293, 4290,
    4287, 4284, 4282, 4280, 4277, 4275, 4272, 4270, 4267, 4264, 4262, 4259, 4257, 4255, 4252, 4250,
    4247, 4244, 4242, 4239, 4237, 4234, 4232, 4230, 4227, 4224, 4222, 4219, 4217, 4214, 4212, 4209,
    4207, 4205, 4202, 4199, 4196, 4194, 4191, 4189, 4187, 4184, 4182, 4179, 4177, 4174, 4171, 4169,
    4166, 4164, 4161, 4159, 4157, 4154, 4152, 4149, 4147, 4144, 4141, 4139, 4136, 4134, 4131, 4129,
    4126, 4124, 4122, 4119, 4117, 4114, 4111, 4108, 4106, 4104, 4101, 4099, 4096, 4094, 4091, 4089,
    4086, 4084, 4082, 4079, 4076, 4073, 4071, 4068, 4066, 4063, 4061, 4059, 4056, 4054, 4051, 4049,
    4046, 4044, 4041, 4039, 4036, 4033, 4031, 4028, 4026, 4023, 4021, 4018, 4016, 4013, 4011, 4008,
    4006, 4003, 4001, 3998, 3996, 3994, 3991, 3989, 3986, 3983, 3981, 3978, 3976, 3973, 3970, 3968,
    3965, 3963, 3960, 3958, 3955, 3953, 3950, 3948, 3946, 3943, 3941, 3938, 3936, 3933, 3931, 3928,
    3926, 3923, 3921, 3918, 3916, 3913, 3911, 3908, 3906, 3903, 3901, 3898, 3895, 3893, 3890, 3888,
    3885, 3883, 3880, 3878, 3875, 3872, 3870, 3867, 3865, 3862, 3860, 3857, 3855, 3852, 3850, 3847,
    3845, 3842, 3840, 3837, 3835, 3832, 3830, 3827, 3825, 3822, 3820, 3817, 3815, 3812, 3809, 3807,
    3804, 3802, 3799, 3797, 3794, 3792, 3789, 3787, 3784, 3782, 3779, 3777, 3774, 3772, 3769, 3767,
    3764, 3762, 3759, 3757, 3754, 3752, 3749, 3747, 3744, 3742, 3739, 3737, 3734, 3732, 3729, 3727,
    3724, 3722, 3719, 3717, 3714, 3712, 3709, 3706, 3704, 3701, 3699, 3696, 3694, 3691, 3689, 3686,
    3683, 3681, 3678, 3676, 3673, 3671, 3668, 3666, 3663, 3661, 3658, 3656, 3653, 3651, 3648, 3646,
    3643, 3641, 3638, 3636, 3633, 3631, 3628, 3625, 3623, 3620, 3618, 3615, 3613, 3610, 3607, 3605,
    3602, 3600, 3598, 3595, 3593, 3590, 3588, 3585, 3582, 3580, 3577, 3575, 3572, 3570, 3567, 3564,
    3562, 3559, 3557, 3554, 3552, 3549, 3547, 3545, 3542, 3539, 3537, 3534, 3532, 3529, 3526, 3524,
    3521, 3518, 3516, 3514, 3511, 3509, 3506, 3504, 3501, 3499, 3496, 3493, 3491, 3488, 3485, 3483,
    3480, 3478, 3475, 3473, 3471, 3468, 3465, 3463, 3460, 3458, 3455, 3452, 3450, 3447, 3445, 3442,
    3440, 3438, 3435, 3432, 3430, 3427, 3424, 3422, 3419, 3416, 3414, 3412, 3409, 3407, 3404, 3402,
    3399, 3396, 3394, 3391, 3388, 3386, 3383, 3381, 3379, 3376, 3373, 3371, 3368, 3365, 3363, 3360,
    3358, 3355, 3353, 3350, 3348, 3345, 3342, 3340, 3337, 3334, 3332, 3330, 3327, 3325, 3322, 3319,
    3317, 3314, 3311, 3309, 3306, 3304, 3302, 3299, 3296, 3293, 3291, 3288, 3285, 3283, 3281, 3278,
    3276, 3273, 3270, 3268, 3265, 3262, 3260, 3258, 3255, 3252, 3250, 3247, 3244, 3242, 3239, 3237,
    3234, 3232, 3229, 3226, 3224, 3221, 3218, 3216, 3214, 3211, 3208, 3206, 3203, 3200, 3198, 3195,
    3193, 3190, 3188, 3185, 3182, 3179, 3177, 3175, 3172, 3170, 3167, 3164, 3161, 3159, 3156, 3154,
    3151, 3149, 3146, 3143, 3140, 3138, 3136, 3133, 3131, 3128, 3125, 3122, 3120, 3118, 3115, 3112,
    3110, 3107, 3104, 3101, 3099, 3097, 3094, 3091, 3088, 3086, 3083, 3081, 3078, 3076, 3073, 3070,
    3067, 3065, 3063, 3060, 3057, 3055, 3052, 3049, 3047, 3044, 3042, 3039, 3036, 3033, 3031, 3029,
    3026, 3023, 3020, 3018, 3015, 3013, 3010, 3008, 3005, 3002, 2999, 2997, 2995, 2992, 2989, 2986,
    2983, 2981, 2979, 2976, 2973, 2970, 2968, 2965, 2963, 2960, 2957, 2955, 2952, 2949, 2947, 2944,
    2942, 2939, 2936, 2933, 2931, 2928, 2926, 2923, 2920, 2918, 2915, 2913, 2910, 2907, 2904, 2902,
    2899, 2897, 2894, 2891, 2889, 2886, 2883, 2881, 2878, 2875, 2873, 2870, 2867, 2864, 2862, 2859,
    2857, 2854, 2851, 2848, 2846, 2843, 2841, 2838, 2835, 2832, 2830, 2828, 2825, 2822, 2819, 2817,
    2814, 2811, 2809, 2806, 2803, 2801, 2798, 2795, 2792, 2789, 2787, 2785, 2782, 2779, 2776, 2774,
    2771, 2768, 2766, 2763, 2760, 2758, 2755, 2752, 2749, 2747, 2745, 2742, 2739, 2736, 2733, 2731,
    2728, 2725, 2722, 2720, 2718, 2715, 2712, 2709, 2707, 2704, 2701, 2698, 2696, 2693, 2690, 2688,
    2685, 2682, 2680, 2677, 2674, 2671, 2669, 2666, 2663, 2660, 2657, 2655, 2653, 2650, 2647, 2644,
    2642, 2639, 2636, 2633, 2631, 2628, 2625, 2622, 2619, 2617, 2614, 2612, 2609, 2606, 2604, 2601,
    2598, 2595, 2593, 2590, 2587, 2584, 2582, 2579, 2576, 2573, 2570, 2568, 2565, 2562, 2559, 2557,
    2554, 2551, 2549, 2546, 2544, 2541, 2538, 2535, 2533, 2530, 2527, 2524, 2521, 2519, 2516, 2513,
    2510, 2508, 2505, 2502, 2499, 2497, 2494, 2491, 2488, 2486, 2483, 2480, 2477, 2475, 2472, 2469,
    2466, 2464, 2461, 2458, 2455, 2452, 2450, 2447, 2444, 2441, 2439, 2436, 2433, 2430, 2428, 2425,
    2422, 2419, 2417, 2413, 2410, 2408, 2405, 2402, 2399, 2397, 2394, 2391, 2388, 2385, 2383, 2380,
    2377, 2374, 2372, 2369, 2366, 2363, 2361, 2358, 2355, 2352, 2349, 2346, 2343, 2341, 2338, 2335,
    2332, 2330, 2327, 2324, 2321, 2319, 2316, 2313, 2310, 2307, 2304, 2301, 2299, 2296, 2293, 2290,
    2288, 2285, 2282, 2279, 2276, 2273, 2270, 2267, 2265, 2262, 2259, 2256, 2254, 2251, 2247, 2245,
    2242, 2239, 2236, 2234, 2231, 2228, 2225, 2222, 2219, 2216, 2214, 2211, 2208, 2205, 2203, 2199,
    2196, 2194, 2191, 2188, 2185, 2183, 2180, 2176, 2173, 2171, 2168, 2165, 2162, 2160, 2156, 2154,
    2151, 2148, 2145, 2143, 2140, 2136, 2133, 2131, 2128, 2125, 2122, 2119, 2116, 2113, 2111, 2108,
    2105, 2102, 2099, 2096, 2093, 2091, 2087, 2084, 2082, 2079, 2076, 2073, 2070, 2067, 2064, 2062,
    2059, 2055, 2053, 2050, 2047, 2044, 2041, 2038, 2035, 2033, 2030, 2026, 2024, 2021, 2018, 2015,
    2012, 2009, 2006, 2004, 2000, 1997, 1995, 1992, 1989, 1986, 1983, 1980, 1977, 1974, 1971, 1968]

def paretonormalNegative2 : List ℕ := [
    1966, 1962, 1959, 1956, 1954, 1950, 1947, 1945, 1942, 1938, 1936, 1933, 1930, 1927, 1924, 1921,
    1918, 1915, 1912, 1909, 1907, 1903, 1900, 1898, 1894, 1891, 1889, 1886, 1882, 1880, 1877, 1873,
    1871, 1868, 1865, 1862, 1859, 1856, 1853, 1850, 1847, 1844, 1841, 1838, 1835, 1832, 1829, 1826,
    1823, 1820, 1817, 1814, 1811, 1808, 1805, 1802, 1799, 1796, 1793, 1790, 1787, 1784, 1781, 1778,
    1775, 1772, 1769, 1766, 1763, 1760, 1757, 1754, 1751, 1748, 1745, 1742, 1739, 1736, 1733, 1730,
    1727, 1724, 1721, 1717, 1715, 1712, 1708, 1706, 1703, 1699, 1697, 1693, 1690, 1688, 1684, 1681,
    1679, 1675, 1672, 1669, 1666, 1663, 1660, 1657, 1654, 1651, 1648, 1645, 1642, 1638, 1636, 1632,
    1629, 1627, 1623, 1620, 1617, 1614, 1611, 1608, 1605, 1601, 1599, 1595, 1592, 1590, 1586, 1583,
    1580, 1577, 1574, 1571, 1567, 1565, 1562, 1558, 1556, 1552, 1549, 1546, 1543, 1540, 1537, 1533,
    1531, 1527, 1524, 1521, 1518, 1515, 1512, 1509, 1505, 1503, 1499, 1496, 1493, 1490, 1487, 1484,
    1480, 1478, 1474, 1471, 1468, 1465, 1462, 1459, 1455, 1453, 1449, 1446, 1443, 1440, 1436, 1434,
    1430, 1427, 1424, 1420, 1418, 1414, 1411, 1408, 1405, 1402, 1399, 1395, 1393, 1389, 1386, 1383,
    1379, 1377, 1373, 1370, 1367, 1364, 1360, 1357, 1354, 1351, 1348, 1344, 1342, 1338, 1335, 1332,
    1328, 1326, 1322, 1319, 1316, 1312, 1310, 1306, 1302, 1300, 1296, 1293, 1290, 1286, 1284, 1280,
    1277, 1274, 1270, 1268, 1264, 1261, 1258, 1254, 1252, 1248, 1244, 1242, 1238, 1235, 1232, 1228,
    1226, 1222, 1219, 1216, 1212, 1209, 1206, 1202, 1199, 1196, 1193, 1189, 1186, 1183, 1179, 1177,
    1173, 1170, 1167, 1163, 1160, 1157, 1153, 1150, 1146, 1144, 1140, 1137, 1134, 1130, 1127, 1124,
    1120, 1117, 1113, 1111, 1107, 1104, 1101, 1097, 1094, 1090, 1088, 1084, 1080, 1077, 1074, 1071,
    1067, 1064, 1061, 1057, 1054, 1051, 1048, 1044, 1040, 1037, 1034, 1031, 1027, 1024, 1021, 1017,
    1014, 1010, 1007, 1004, 1000, 997, 993, 991, 987, 984, 980, 976, 974, 970, 967, 963, 960, 957,
    953, 950, 946, 943, 940, 936, 933, 929, 926, 922, 919, 916, 912, 909, 905, 902, 899, 896, 892,
    888, 885, 881, 878, 875, 872, 868, 865, 861, 857, 854, 850, 848, 844, 840, 837, 833, 830, 826,
    823, 819, 816, 813, 809, 806, 802, 799, 795, 792, 788, 785, 781, 778, 775, 771, 768, 764, 761,
    757, 754, 750, 747, 743, 739, 736, 732, 729, 725, 722, 718, 715, 711, 708, 704, 700, 697, 693,
    690, 686, 684, 680, 676, 673, 669, 666, 662, 658, 654, 651, 647, 644, 640, 637, 633, 630, 626,
    623, 619, 615, 612, 608, 605, 601, 598, 594, 591, 587, 584, 580, 576, 573, 569, 565, 561, 558,
    554, 551, 547, 544, 540, 537, 533, 530, 525, 522, 518, 515, 511, 507, 504, 500, 497, 492, 489,
    485, 482, 478, 475, 471, 467, 463, 460, 456, 453, 449, 446, 441, 438, 434, 431, 427, 423, 419,
    416, 412, 408, 405, 401, 397, 393, 390, 386, 382, 378, 375, 371, 368, 363, 360, 356, 353, 348,
    345, 341, 338, 334, 330, 326, 323, 319, 315, 311, 308, 303, 300, 296, 293, 288, 285, 281, 278,
    273, 270, 266, 262, 258, 255, 251, 247, 243, 240, 235, 232, 228, 224, 220, 217, 212, 209, 205,
    201, 197, 194, 190, 186, 182, 178, 175, 170, 167, 163, 159, 155, 152, 147, 144, 139, 136, 132,
    128, 124, 120, 116, 113, 108, 105, 101, 97, 93, 89, 85, 81, 78, 73, 70, 66, 62, 58, 54, 50, 46,
    42, 38, 34, 30, 26, 22, 18, 14, 11, 6, 3]

def paretonormalPositive0 : List ℕ := [
    1, 5, 9, 12, 17, 20, 25, 28, 33, 36, 41, 44, 49, 52, 57, 60, 64, 69, 72, 77, 80, 85, 88, 93, 97,
    101, 105, 108, 113, 116, 121, 125, 129, 133, 137, 141, 145, 149, 153, 158, 161, 166, 169, 174,
    178, 182, 186, 190, 194, 198, 203, 206, 211, 215, 219, 223, 227, 231, 235, 240, 244, 248, 252,
    256, 260, 264, 269, 273, 277, 281, 285, 289, 293, 298, 302, 306, 310, 314, 319, 323, 327, 331,
    335, 340, 343, 348, 352, 357, 361, 365, 369, 373, 378, 382, 386, 390, 394, 399, 403, 408, 411,
    416, 420, 424, 429, 433, 437, 442, 445, 450, 454, 459, 463, 467, 472, 476, 480, 484, 488, 493,
    497, 502, 506, 510, 515, 519, 524, 528, 532, 537, 541, 545, 550, 554, 559, 562, 567, 571, 575,
    580, 584, 589, 593, 597, 603, 607, 611, 616, 620, 625, 629, 633, 638, 642, 647, 651, 655, 660,
    664, 669, 673, 677, 682, 687, 691, 696, 700, 705, 709, 713, 718, 723, 727, 732, 736, 740, 745,
    750, 754, 759, 763, 768, 772, 777, 782, 786, 791, 795, 800, 804, 809, 813, 818, 823, 827, 832,
    836, 841, 846, 850, 855, 860, 864, 869, 873, 878, 883, 887, 892, 897, 901, 905, 911, 915, 920,
    925, 929, 934, 939, 943, 948, 953, 957, 962, 967, 971, 976, 981, 985, 990, 995, 1000, 1005,
    1009, 1014, 1019, 1024, 1028, 1033, 1038, 1042, 1047, 1052, 1057, 1062, 1067, 1071, 1076, 1081,
    1086, 1090, 1096, 1101, 1105, 1111, 1115, 1120, 1125, 1130, 1134, 1139, 1145, 1149, 1154, 1159,
    1164, 1168, 1174, 1179, 1183, 1189, 1193, 1198, 1203, 1208, 1213, 1217, 1223, 1228, 1232, 1238,
    1243, 1247, 1252, 1258, 1262, 1267, 1273, 1277, 1282, 1287, 1292, 1297, 1302, 1307, 1312, 1317,
    1323, 1327, 1332, 1337, 1343, 1347, 1352, 1358, 1363, 1367, 1373, 1378, 1383, 1388, 1393, 1398,
    1403, 1408, 1414, 1419, 1423, 1429, 1434, 1439, 1444, 1450, 1455, 1460, 1465, 1470, 1475, 1480,
    1485, 1491, 1496, 1501, 1506, 1512, 1517, 1522, 1527, 1532, 1537, 1542, 1548, 1553, 1558, 1563,
    1569, 1574, 1579, 1584, 1590, 1596, 1601, 1606, 1611, 1617, 1622, 1627, 1633, 1638, 1643, 1648,
    1654, 1659, 1665, 1670, 1675, 1681, 1686, 1691, 1696, 1702, 1708, 1713, 1718, 1724, 1729, 1735,
    1740, 1745, 1751, 1756, 1762, 1767, 1773, 1778, 1784, 1789, 1794, 1800, 1806, 1811, 1816, 1822,
    1828, 1833, 1839, 1844, 1850, 1856, 1861, 1866, 1872, 1877, 1883, 1889, 1894, 1900, 1905, 1911,
    1917, 1922, 1928, 1933, 1940, 1945, 1950, 1956, 1961, 1968, 1973, 1979, 1984, 1990, 1996, 2002,
    2007, 2013, 2019, 2024, 2030, 2036, 2042, 2047, 2053, 2059, 2065, 2071, 2076, 2082, 2088, 2093,
    2100, 2106, 2111, 2117, 2123, 2128, 2134, 2141, 2146, 2152, 2158, 2163, 2169, 2176, 2182, 2187,
    2193, 2199, 2205, 2211, 2217, 2223, 2229, 2235, 2241, 2246, 2252, 2259, 2265, 2271, 2277, 2283,
    2289, 2294, 2300, 2307, 2313, 2319, 2325, 2331, 2337, 2343, 2349, 2355, 2362, 2368, 2374, 2380,
    2386, 2392, 2398, 2404, 2410, 2417, 2423, 2429, 2435, 2441, 2447, 2454, 2460, 2466, 2472, 2479,
    2485, 2491, 2498, 2504, 2510, 2516, 2522, 2529, 2535, 2541, 2548, 2554, 2561, 2567, 2573, 2580,
    2586, 2592, 2598, 2605, 2611, 2617, 2624, 2630, 2637, 2644, 2650, 2657, 2663, 2669, 2676, 2682,
    2689, 2695, 2702, 2708, 2714, 2721, 2727, 2734, 2740, 2747, 2754, 2760, 2767, 2774, 2781, 2787,
    2794, 2800, 2807, 2814, 2820, 2827, 2834, 2840, 2847, 2854, 2860, 2867, 2874, 2880, 2887, 2894,
    2901, 2907, 2914, 2921, 2928, 2934, 2941, 2948, 2955, 2962, 2968, 2975, 2982, 2989, 2996, 3003,
    3010, 3017, 3024, 3031, 3037, 3044, 3051, 3058, 3065, 3072, 3079, 3086, 3093, 3100, 3107, 3114,
    3121, 3128, 3135, 3142, 3149, 3156, 3163, 3171, 3178, 3185, 3192, 3199, 3206, 3214, 3221, 3228,
    3235, 3242, 3249, 3256, 3264, 3271, 3278, 3286, 3293, 3300, 3308, 3315, 3322, 3330, 3337, 3344,
    3351, 3359, 3366, 3373, 3381, 3388, 3396, 3404, 3411, 3418, 3425, 3433, 3440, 3448, 3456, 3463,
    3471, 3478, 3485, 3493, 3500, 3508, 3516, 3524, 3531, 3539, 3546, 3554, 3561, 3569, 3577, 3585,
    3592, 3600, 3607, 3615, 3623, 3631, 3639, 3646, 3654, 3662, 3670, 3678, 3686, 3693, 3701, 3709,
    3717, 3725, 3733, 3740, 3748, 3756, 3765, 3773, 3780, 3788, 3796, 3805, 3813, 3820, 3828, 3837,
    3845, 3853, 3860, 3869, 3877, 3885, 3893, 3901, 3910, 3918, 3926, 3934, 3942, 3951, 3959, 3967,
    3975, 3984, 3992, 4000, 4009, 4017, 4025, 4033, 4042, 4051, 4058, 4067, 4076, 4084, 4092, 4101,
    4110, 4118, 4126, 4135, 4144, 4152, 4161, 4170, 4178, 4186, 4195, 4204, 4212, 4221, 4230, 4238,
    4247, 4256, 4264, 4273, 4282, 4291, 4300, 4309, 4317, 4326, 4335, 4344, 4353, 4361, 4370, 4380,
    4388, 4397, 4407, 4415, 4424, 4433, 4442, 4452, 4460, 4469, 4479, 4487, 4497, 4506, 4515, 4525,
    4533, 4543, 4551, 4561, 4570, 4579, 4589, 4598, 4608, 4617, 4626, 4636, 4645, 4655, 4663, 4673,
    4682, 4692, 4701, 4711, 4720, 4730, 4740, 4749, 4759, 4768, 4778, 4787, 4797, 4807, 4817, 4826,
    4836, 4845, 4856, 4865, 4875, 4885, 4895, 4904, 4914, 4924, 4934, 4944, 4954, 4964, 4973, 4984,
    4993, 5004, 5014, 5024, 5034, 5044, 5054, 5064, 5075, 5084, 5095, 5105, 5115, 5126, 5136, 5146,
    5156, 5166, 5177, 5187, 5198, 5208, 5219, 5229, 5240, 5250, 5261, 5271, 5281, 5293, 5303, 5313,
    5325, 5335, 5345, 5357, 5367, 5378, 5389, 5400, 5410, 5421, 5432, 5443, 5453, 5465, 5476, 5486,
    5497, 5509, 5520, 5530, 5542, 5553, 5564, 5575, 5586, 5598, 5609, 5620, 5631, 5643, 5654, 5665,
    5676, 5687, 5699, 5711, 5722, 5733, 5745, 5756, 5768, 5780, 5791, 5803, 5814, 5826, 5838, 5850,
    5861, 5873, 5885, 5896, 5908, 5920, 5932, 5945, 5956, 5968, 5980, 5992, 6004, 6016, 6028, 6040,
    6052, 6064, 6077, 6089, 6101, 6114, 6126, 6138, 6151, 6163, 6176, 6188, 6201, 6213, 6226, 6238,
    6251, 6263, 6276, 6289, 6302, 6314, 6327, 6340, 6353, 6366, 6379, 6392, 6405, 6417, 6431, 6444,
    6457, 6470, 6483, 6497, 6510, 6523, 6536, 6549, 6563, 6576, 6589, 6603, 6616, 6630, 6644, 6657,
    6670, 6684, 6698, 6712, 6725, 6739, 6753, 6767, 6781, 6795, 6809, 6822, 6837, 6851, 6864, 6879,
    6893, 6907, 6921, 6936, 6950, 6964, 6979, 6993, 7008, 7022, 7037, 7052, 7066, 7081, 7095, 7110,
    7125, 7139, 7154, 7169, 7184, 7199, 7214, 7229, 7244, 7259, 7275, 7290, 7305, 7320, 7335, 7351,
    7366, 7382, 7397, 7412, 7429, 7444, 7460]

def paretonormalPositive1 : List ℕ := [
    7476, 7491, 7507, 7523, 7538, 7555, 7571, 7587, 7603, 7619, 7635, 7651, 7668, 7684, 7700, 7716,
    7733, 7750, 7766, 7782, 7799, 7816, 7833, 7849, 7866, 7883, 7900, 7917, 7934, 7951, 7968, 7986,
    8003, 8020, 8038, 8055, 8073, 8090, 8108, 8125, 8143, 8161, 8178, 8196, 8214, 8232, 8250, 8268,
    8286, 8304, 8323, 8341, 8359, 8377, 8396, 8414, 8433, 8451, 8470, 8489, 8508, 8526, 8545, 8564,
    8583, 8602, 8622, 8641, 8660, 8680, 8699, 8719, 8738, 8758, 8778, 8797, 8818, 8837, 8858, 8877,
    8898, 8917, 8938, 8958, 8978, 8999, 9019, 9040, 9061, 9081, 9102, 9123, 9144, 9165, 9187, 9208,
    9229, 9250, 9271, 9293, 9315, 9337, 9358, 9380, 9402, 9424, 9446, 9468, 9490, 9513, 9535, 9558,
    9580, 9603, 9626, 9649, 9672, 9695, 9718, 9740, 9764, 9787, 9811, 9834, 9858, 9882, 9905, 9930,
    9954, 9978, 10002, 10026, 10051, 10075, 10100, 10125, 10150, 10174, 10200, 10224, 10250, 10275,
    10300, 10326, 10352, 10377, 10403, 10430, 10456, 10482, 10508, 10534, 10561, 10587, 10614,
    10641, 10668, 10695, 10723, 10750, 10778, 10805, 10833, 10861, 10889, 10917, 10946, 10973,
    11002, 11031, 11060, 11089, 11117, 11147, 11176, 11206, 11235, 11265, 11295, 11325, 11355,
    11386, 11416, 11447, 11477, 11508, 11539, 11571, 11602, 11633, 11665, 11697, 11729, 11761,
    11794, 11826, 11859, 11892, 11925, 11958, 11992, 12025, 12059, 12092, 12127, 12161, 12195,
    12230, 12265, 12300, 12335, 12370, 12406, 12442, 12478, 12514, 12550, 12587, 12624, 12661,
    12699, 12735, 12773, 12811, 12849, 12887, 12926, 12965, 13004, 13043, 13083, 13123, 13162,
    13203, 13243, 13284, 13325, 13366, 13408, 13449, 13491, 13533, 13576, 13618, 13662, 13705,
    13749, 13793, 13837, 13881, 13926, 13971, 14017, 14062, 14109, 14155, 14202, 14248, 14296,
    14344, 14392, 14440, 14489, 14538, 14587, 14637, 14687, 14738, 14788, 14839, 14891, 14943,
    14995, 15048, 15101, 15155, 15208, 15263, 15318, 15374, 15429, 15485, 15542, 15599, 15656,
    15715, 15773, 15832, 15891, 15951, 16012, 16073, 16134, 16196, 16259, 16322, 16386, 16450,
    16515, 16581, 16646, 16713, 16780, 16849, 16917, 16986, 17056, 17126, 17197, 17269, 17341,
    17415, 17489, 17563, 17639, 17716, 17793, 17870, 17949, 18028, 18109, 18190, 18272, 18355,
    18439, 18524, 18610, 18696, 18784, 18873, 18962, 19054, 19145, 19239, 19332, 19428, 19525,
    19622, 19721, 19821, 19923, 20025, 20129, 20235, 20341, 20449, 20559, 20670, 20783, 20898,
    21014, 21131, 21250, 21372, 21494, 21620, 21746, 21875, 22006, 22138, 22273, 22410, 22549,
    22691, 22835, 22982, 23130, 23282, 23436, 23593, 23753, 23916, 24082, 24251, 24423, 24600,
    24778, 24962, 25148, 25339, 25534, 25732, 25936, 26144, 26357, 26574, 26797, 27025, 27259,
    27499, 27744, 27996, 28255, 28522, 28795, 29076, 29272, 29293, 29311, 29329, 29348, 29367,
    29387, 29407, 29427, 29448, 29470, 29492, 29514, 29538, 29562, 29586, 29612, 29638, 29665,
    29693, 29722, 29752, 29783, 29816, 29850, 29885, 29922, 29961, 30002, 30045, 30090, 30139,
    30191, 30247, 30307, 30373, 30446, 30527, 30618, 30723, 30847, 31000, 31202, 31501, 32195]

/-! ## The tables -/

/-- The entries of a table, the negative ones first. -/
def entries (negative positive : List ℕ) : List ℤ :=
  negative.map (fun entry => -(entry : ℤ)) ++ positive.map fun entry => (entry : ℤ)

def normalEntries : List ℤ :=
  entries (normalNegative0 ++ normalNegative1) (normalPositive0 ++ normalPositive1)

def paretoEntries : List ℤ :=
  entries (paretoNegative0 ++ paretoNegative1 ++ paretoNegative2) (paretoPositive0 ++ paretoPositive1)

def paretonormalEntries : List ℤ :=
  entries (paretonormalNegative0 ++ paretonormalNegative1 ++ paretonormalNegative2)
    (paretonormalPositive0 ++ paretonormalPositive1)

def tableOf (entries : List ℤ) : DistTable := fun index => entries.getD index 0

/-- `NORMAL`, `PARETO` and `PARETONORMAL`. -/
def committedTables : DistTables :=
  { normal := tableOf normalEntries
    pareto := tableOf paretoEntries
    paretonormal := tableOf paretonormalEntries }

/-- Whether the entries do not go down, from `low` to `high`. -/
def ascends (low high : ℤ) : List ℤ → Bool
  | [] => low ≤ high
  | entry :: entries => low ≤ entry && ascends entry high entries

theorem ascends_sorted {low high : ℤ} {entries : List ℤ} (checked : ascends low high entries = true) :
    entries.Pairwise (· ≤ ·) ∧ low ≤ high ∧ ∀ entry ∈ entries, low ≤ entry ∧ entry ≤ high := by
  induction entries generalizing low with
  | nil => exact ⟨.nil, of_decide_eq_true checked, nofun⟩
  | cons first rest ih =>
    obtain ⟨starts, ascending⟩ := Bool.and_eq_true_iff.mp checked
    obtain ⟨sorted, room, within⟩ := ih ascending
    have starts : low ≤ first := of_decide_eq_true starts
    refine ⟨List.pairwise_cons.mpr ⟨fun entry member => (within entry member).1, sorted⟩, starts.trans room, ?_⟩
    intro entry member
    rcases List.mem_cons.mp member with rfl | later
    · exact ⟨starts, room⟩
    · obtain ⟨above, below⟩ := within entry later
      exact ⟨starts.trans above, below⟩

/-- What sampling relies on: 16-bit entries that do not go down. -/
structure Quantiles (table : DistTable) : Prop where
  sorted : Monotone table
  small : ∀ index, -2 ^ 15 ≤ table index ∧ table index < 2 ^ 15

theorem tableOf_quantiles {entries : List ℤ} (length : entries.length = tableLen)
    (checked : ascends (-2 ^ 15) (2 ^ 15 - 1) entries = true) : Quantiles (tableOf entries) := by
  obtain ⟨sorted, -, within⟩ := ascends_sorted checked
  have found (index : Fin tableLen) : ∃ inside : index.val < entries.length,
      tableOf entries index = entries[index.val] := by
    have inside : index.val < entries.length := by
      rw [length]
      exact index.isLt
    exact ⟨inside, by simp [tableOf, inside]⟩
  constructor
  · intro i j order
    obtain ⟨inside, first⟩ := found i
    obtain ⟨within, second⟩ := found j
    rw [first, second]
    rcases Nat.eq_or_lt_of_le (Fin.le_def.mp order) with same | before
    · simp [same]
    · exact List.pairwise_iff_getElem.mp sorted _ _ inside within before
  · intro index
    obtain ⟨inside, entry⟩ := found index
    have bounds := within _ (List.getElem_mem inside)
    rw [entry]
    omega

theorem normal_quantiles : Quantiles committedTables.normal := by
  apply tableOf_quantiles
  · decide +kernel
  · decide +kernel

theorem pareto_quantiles : Quantiles committedTables.pareto := by
  apply tableOf_quantiles
  · decide +kernel
  · decide +kernel

theorem paretonormal_quantiles : Quantiles committedTables.paretonormal := by
  apply tableOf_quantiles
  · decide +kernel
  · decide +kernel

end Moqtap.Netem
