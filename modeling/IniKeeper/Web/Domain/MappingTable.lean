/-!
# The table of mapped characters

What becomes of each character in the name of a domain, as words that `Web.Domain.Mapping` reads: a
count of characters in hexadecimal digits, a letter, and what else the letter needs. `V` keeps the
characters, `X` refuses them and `I` drops them; `U` and `D` take them as far up or down as the
number says; `P` takes every second one to the next; `T` gives the text for each.
-/

namespace IniKeeper

namespace Web

namespace Domain

namespace Mapping

/-- The table. -/
def rows : List String :=
  ["41V 1aU20 25V 20X 1T20 7V 1T20.308 1V 1T61 2V 1I 1V 1T20.304 2V 4T32,33,20.301,3bc 2V",
   "3T20.327,31,6f 1V 3T31.2044.34,31.2044.32,33.2044.34 1V 17U20 1V 7U20 21V 30P 1T69.307 1V",
   "2T69.6a,69.6a 4P 1V 6P 2T6c.b7,6c.b7 8P 1T2bc.6e 2eP 1Tff 6P 1T73 1V 1T253 4P 2T254,188 1V",
   "3T256,257,18c 2V 4T1dd,259,25b,192 1V 2T260,263 1V 3T269,268,199 3V 2T26f,272 1V 1T275 6P",
   "2T280,1a8 1V 1T283 2V 1T1ad 1V 2T288,1b0 1V 2T28a,28b 4P 2T292,1b9 3V 1T1bd 7V",
   "9T64.17e,64.17e,64.17e,6c.6a,6c.6a,6c.6a,6e.6a,6e.6a,6e.6a 10P 1V 12P 1V",
   "4T64.7a,64.7a,64.7a,1f5 1V 2T195,1bf 28P 1T19e 1V 12P 6V 2T2c65,23c 1V 2T19a,2c66 2V 1T242",
   "1V 3T180,289,28c aP 60V 9T68,266,6a,72,279,27b,281,77,79 1fV",
   "6T20.306,20.307,20.30a,20.328,20.303,20.30b 2V 5T263,6c,73,78,295 5bV 2T300,301 1V",
   "3T313,308.301,3b9 9V 1I 20V 4P 1T2b9 1V 1T377 1V 2X 1T20.3b9 3V 2T3b,3f3 4X",
   "4T20.301,20.308.301,3ac,b7 3U25 1X 1T3cc 1X 2T3cd,3ce 1V 11U20 1X 9U20 23V",
   "8T3d7,3b2,3b8,3c5,3cd,3cb,3c6,3c0 1V 18P 3T3ba,3c1,3c3 1V 2T3b8,3b5 1V 1T3f8 1V 2T3c3,3fb 2V",
   "3D82 10U50 20U20 30V 22P 8V 36P 1T4cf eP 1V 60P 1X 26U30 2X 2eV 1T565.582 3V 2X 3V 1X 37V 8X",
   "1bV 4X 6V 11X 16V 1X 58V 4T627.674,648.674,6c7.674,64a.674 64V 1X 30V 2X 3bV 2X 65V eX 3bV",
   "2X 31V 2X fV 1X 1cV 2X 1V 1X bV 5X 20V 7X 4bV 1X 75V",
   "8T915.93c,916.93c,917.93c,91c.93c,921.93c,922.93c,92b.93c,92f.93c 24V 1X 8V 2X 2V 2X 16V 1X",
   "7V 1X 1V 3X 4V 2X 9V 2X 2V 2X 4V 8X 1V 4X 2T9a1.9bc,9a2.9bc 1X 1T9af.9bc 4V 2X 19V 2X 3V 1X",
   "6V 4X 2V 2X 16V 1X 7V 1X 1V 1Ta32.a3c 1X 1V 1Ta38.a3c 1X 2V 2X 1V 1X 5V 4X 2V 2X 3V 3X 1V 7X",
   "3Ta16.a3c,a17.a3c,a1c.a3c 1V 1X 1Ta2b.a3c 7X 11V aX 3V 1X 9V 1X 3V 1X 16V 1X 7V 1X 2V 1X 5V",
   "2X aV 1X 3V 1X 3V 2X 1V fX 4V 2X cV 7X 7V 1X 3V 1X 8V 2X 2V 2X 16V 1X 7V 1X 2V 1X 5V 2X 9V",
   "2X 2V 2X 3V 7X 3V 4X 2Tb21.b3c,b22.b3c 1X 5V 2X 12V aX 2V 1X 6V 3X 3V 1X 4V 3X 2V 1X 1V 1X",
   "2V 3X 2V 3X 3V 3X cV 4X 5V 3X 3V 1X 4V 2X 1V 6X 1V eX 15V 5X dV 1X 3V 1X 17V 1X 10V 2X 9V 1X",
   "3V 1X 4V 7X 2V 1X 3V 1X 2V 2X 4V 2X aV 7X 16V 1X 3V 1X 17V 1X aV 1X 5V 2X 9V 1X 3V 1X 4V 7X",
   "2V 5X 3V 1X 4V 2X aV 1X 3V cX dV 1X 3V 1X 33V 1X 3V 1X 6V 4X 10V 2X 1aV 1X 3V 1X 12V 3X 18V",
   "1X 9V 1X 1V 2X 7V 3X 1V 4X 6V 1X 1V 1X 8V 6X aV 2X 3V cX 32V 1Te4d.e32 7V 4X 1dV 25X 2V 1X",
   "1V 1X 5V 1X 18V 1X 1V 1X cV 1Tecd.eb2 aV 2X 5V 1X 1V 1X 7V 1X aV 2X 2Teab.e99,eab.ea1 2V 20X",
   "cV 1Tf0b 36V 1Tf42.fb7 4V 1X 4V 1Tf4c.fb7 4V 1Tf51.fb7 4V 1Tf56.fb7 4V 1Tf5b.fb7 cV",
   "1Tf40.fb5 3V 4X 2V 1Tf71.f72 1V 5Tf71.f74,fb2.f80,fb2.f71.f80,fb3.f80,fb3.f71.f80 7V",
   "1Tf71.f80 11V 1Tf92.fb7 4V 1X 4V 1Tf9c.fb7 4V 1Tfa1.fb7 4V 1Tfa6.fb7 4V 1Tfab.fb7 cV",
   "1Tf90.fb5 3V 1X fV 1X dV 25X a0V 26U1c60 1X 1T2d27 5X 1T2d2d 2X 2cV 1T10dc 62V 2I e8V 1X 4V",
   "2X 7V 1X 1V 1X 4V 2X 29V 1X 4V 2X 21V 1X 4V 2X 7V 1X 1V 1X 4V 2X fV 1X 39V 1X 4V 2X 43V 2X",
   "20V 3X 1aV 6X 56V 2X 6D8 2X 280V 1X 1cV 3X 59V 7X 16V 9X 18V 9X 14V cX dV 1X 3V 1X 2V cX 34V",
   "2I 28V 2X aV 6X aV 6X bV 5I aV 6X 59V 7X 2bV 5X 46V aX 1fV 1X cV 4X cV 4X 1V 3X 2aV 2X 5V bX",
   "2cV 4X 1aV 6X bV 3X 3eV 2X 41V 1X 1dV 2X bV 6X aV 6X eV 2X 2eV 2X cV 14X 4dV 1X a6V 8X 3cV",
   "3X fV 3X 33V aT432,434,43e,441,442,442,44a,463,a64b,1c8a 1V 5X 2bDbc0 2X 3Dbc0 8V 8X 2bV 5X",
   "2cV 3T61,e6,62 1V 3T64,65,1dd 8D1ccc 1V",
   "12T6f,223,70,72,74,75,77,61,250,251,1d02,62,64,65,259,25b,25c,67 1V",
   "eT6b,6d,14b,6f,254,1d16,1d17,70,74,75,1d1d,26f,76,1d25 3D19ab",
   "bT3c6,3c7,69,72,75,76,3b2,3b3,3c1,3c6,3c7 dV 1T43d 22V 9T252,63,255,f0,25c,66,25f,261,265",
   "3D1b3c 7T1d7b,29d,26d,1d85,29f,271,270 4D1b3c aT278,282,283,1ab,289,28a,1d1c,28b,28c,7a",
   "3D1b2c 1T3b8 40V 96P 4V 2T61.2be,1e61 2V 1Tdf 1V 60P 8V 8D8 6V 2X 6D8 2X 8V 8D8 8V 8D8 6V 2X",
   "6D8 2X 8V 1X 1T1f51 1X 1T1f53 1X 1T1f55 1X 1T1f57 8V 8D8 1V 1T3ac 1V 1T3ad 1V 1T3ae 1V 1T3af",
   "1V 1T3cc 1V 1T3cd 1V 1T3ce 2X",
   "9T1f00.3b9,1f01.3b9,1f02.3b9,1f03.3b9,1f04.3b9,1f05.3b9,1f06.3b9,1f07.3b9,1f00.3b9",
   "9T1f01.3b9,1f02.3b9,1f03.3b9,1f04.3b9,1f05.3b9,1f06.3b9,1f07.3b9,1f20.3b9,1f21.3b9",
   "9T1f22.3b9,1f23.3b9,1f24.3b9,1f25.3b9,1f26.3b9,1f27.3b9,1f20.3b9,1f21.3b9,1f22.3b9",
   "9T1f23.3b9,1f24.3b9,1f25.3b9,1f26.3b9,1f27.3b9,1f60.3b9,1f61.3b9,1f62.3b9,1f63.3b9",
   "9T1f64.3b9,1f65.3b9,1f66.3b9,1f67.3b9,1f60.3b9,1f61.3b9,1f62.3b9,1f63.3b9,1f64.3b9",
   "3T1f65.3b9,1f66.3b9,1f67.3b9 2V 3T1f70.3b9,3b1.3b9,3ac.3b9 1X 1V",
   "cT1fb6.3b9,1fb0,1fb1,1f70,3ac,3b1.3b9,20.313,3b9,20.313,20.342,20.308.342,1f74.3b9",
   "2T3b7.3b9,3ae.3b9 1X 1V",
   "9T1fc6.3b9,1f72,3ad,1f74,3ae,3b7.3b9,20.313.300,20.313.301,20.313.342 3V 1T390 2X 2V",
   "4T1fd0,1fd1,1f76,3af 1X 3T20.314.300,20.314.301,20.314.342 3V 1T3b0 4V",
   "8T1fe0,1fe1,1f7a,3cd,1fe5,20.308.300,20.308.301,60 2X 3T1f7c.3b9,3c9.3b9,3ce.3b9 1X 1V",
   "8T1ff6.3b9,1f78,3cc,1f7c,3ce,3c9.3b9,20.301,20.314 1X bT20,20,20,20,20,20,20,20,20,20,20 1I",
   "2V 2X 1V 1T2010 5V 1T20.333 cV 3X 1V 7X 1T20 3V 2T2032.2032,2032.2032.2032 1V",
   "2T2035.2035,2035.2035.2035 4V 1T21.21 1V 1T20.305 8V 3T3f.3f,3f.21,21.3f dV",
   "1T2032.2032.2032.2032 7V 1T20 5I 5X 6I 2T30,69 2X 6D2040 6T2b,2212,3d,28,29,6e aD2050",
   "5T2b,2212,3d,28,29 1X 6T61,65,6f,78,259,68 4D202b 3T70,73,74 3X 8V 1T72.73 19V eX 21V fX",
   "4T61.2f.63,61.2f.73,63,b0.63 1V 3T63.2f.6f,63.2f.75,25b 1V",
   "bTb0.66,67,68,68,68,68,127,69,69,6c,6c 1V 2T6e,6e.6f 2V 3D20a9 2T72,72 2V",
   "3T73.6d,74.65.6c,74.6d 1V 1T7a 1V 1T3c9 1V 1T7a 1V 4T6b,e5,62,63 1V 6T65,65,66,214e,6d,6f",
   "4D1b65 1T69 1V 6T66.61.78,3c0,3b3,3b3,3c0,2211 4V 5T64,64,65,69,6a 6V",
   "7T31.2044.37,31.2044.39,31.2044.31.30,31.2044.33,32.2044.33,31.2044.35,32.2044.35",
   "7T33.2044.35,34.2044.35,31.2044.36,35.2044.36,31.2044.38,33.2044.38,35.2044.38",
   "cT37.2044.38,31.2044,69,69.69,69.69.69,69.76,76,76.69,76.69.69,76.69.69.69,69.78,78",
   "eT78.69,78.69.69,6c,63,64,6d,69,69.69,69.69.69,69.76,76,76.69,76.69.69,76.69.69.69",
   "8T69.78,78,78.69,78.69.69,6c,63,64,6d 3V 1T2184 5V 1T30.2044.33 2V 4X 9cV",
   "2T222b.222b,222b.222b.222b 1V 2T222e.222e,222e.222e.222e f8V 2T3008,3009 ffV 16X bV 15X",
   "9D242f dT31.30,31.31,31.32,31.33,31.34,31.35,31.36,31.37,31.38,31.39,32.30,28.31.29,28.32.29",
   "8T28.33.29,28.34.29,28.35.29,28.36.29,28.37.29,28.38.29,28.39.29,28.31.30.29",
   "7T28.31.31.29,28.31.32.29,28.31.33.29,28.31.34.29,28.31.35.29,28.31.36.29,28.31.37.29",
   "3T28.31.38.29,28.31.39.29,28.32.30.29 14X",
   "9T28.61.29,28.62.29,28.63.29,28.64.29,28.65.29,28.66.29,28.67.29,28.68.29,28.69.29",
   "9T28.6a.29,28.6b.29,28.6c.29,28.6d.29,28.6e.29,28.6f.29,28.70.29,28.71.29,28.72.29",
   "8T28.73.29,28.74.29,28.75.29,28.76.29,28.77.29,28.78.29,28.79.29,28.7a.29 1aD2455 1aD246f",
   "1T30 521V 1T222b.222b.222b.222b 67V 3T3a.3a.3d,3d.3d,3d.3d.3d 65V 1T2add.338 97V 2X 8aV",
   "30U30 30V 1T2c61 1V 3T26b,1d7d,27d 2V 6P 4T251,271,250,252 1V 1T2c73 2V 1T2c76 6V",
   "4T6a,76,23f,240 64P 7V 4P 3V 1T2cf3 1V 5X 2dV 1X 1V 5X 1V 2X 38V 7X 1T2d61 1V eX 18V 9X 7V",
   "1X 7V 1X 7V 1X 7V 1X 7V 1X 7V 1X 7V 1X 7V 1X 7eV 22X 1aV 1X 4V 1T6bcd 53V 1T9f9f cX",
   "11T4e00,4e28,4e36,4e3f,4e59,4e85,4e8c,4ea0,4eba,513f,5165,516b,5182,5196,51ab,51e0,51f5",
   "11T5200,529b,52f9,5315,531a,5338,5341,535c,5369,5382,53b6,53c8,53e3,56d7,571f,58eb,5902",
   "11T590a,5915,5927,5973,5b50,5b80,5bf8,5c0f,5c22,5c38,5c6e,5c71,5ddb,5de5,5df1,5dfe,5e72",
   "11T5e7a,5e7f,5ef4,5efe,5f0b,5f13,5f50,5f61,5f73,5fc3,6208,6236,624b,652f,6534,6587,6597",
   "11T65a4,65b9,65e0,65e5,66f0,6708,6728,6b20,6b62,6b79,6bb3,6bcb,6bd4,6bdb,6c0f,6c14,6c34",
   "11T706b,722a,7236,723b,723f,7247,7259,725b,72ac,7384,7389,74dc,74e6,7518,751f,7528,7530",
   "11T758b,7592,7676,767d,76ae,76bf,76ee,77db,77e2,77f3,793a,79b8,79be,7a74,7acb,7af9,7c73",
   "11T7cf8,7f36,7f51,7f8a,7fbd,8001,800c,8012,8033,807f,8089,81e3,81ea,81f3,81fc,820c,821b",
   "11T821f,826e,8272,8278,864d,866b,8840,884c,8863,897e,898b,89d2,8a00,8c37,8c46,8c55,8c78",
   "11T8c9d,8d64,8d70,8db3,8eab,8eca,8f9b,8fb0,8fb5,9091,9149,91c6,91cc,91d1,9577,9580,961c",
   "11T96b6,96b9,96e8,9751,975e,9762,9769,97cb,97ed,97f3,9801,98a8,98db,98df,9996,9999,99ac",
   "11T9aa8,9ad8,9adf,9b25,9b2f,9b32,9b3c,9b5a,9ce5,9e75,9e7f,9ea5,9ebb,9ec3,9ecd,9ed1,9ef9",
   "aT9efd,9f0e,9f13,9f20,9f3b,9f4a,9f52,9f8d,9f9c,9fa0 2aX 1T20 1V 1T2e 33V 1T3012 1V",
   "3T5341,5344,5345 5V 1X 56V 2X 2V 2T20.3099,20.309a 2V 1T3088.308a 5fV 1T30b3.30c8 5X 2bV 1X",
   "6T1100,1101,11aa,1102,11ac,11ad 3D2034 6D1f8a 1T111a 3D203b 1T1121 aD203c 15D1fee 1I",
   "11T1114,1115,11c7,11c8,11cc,11ce,11d3,11d7,11d9,111c,11dd,11df,111d,111e,1120,1122,1123",
   "2T1127,1129 5D204d 7T1132,1136,1140,1147,114c,11f1,11f2 3D202d",
   "8T1184,1185,1188,1191,1192,1194,119e,11a1 1X 2V",
   "eT4e00,4e8c,4e09,56db,4e0a,4e2d,4e0b,7532,4e59,4e19,4e01,5929,5730,4eba 46V aX 10V",
   "7T28.1100.29,28.1102.29,28.1103.29,28.1105.29,28.1106.29,28.1107.29,28.1109.29",
   "7T28.110b.29,28.110c.29,28.110e.29,28.110f.29,28.1110.29,28.1111.29,28.1112.29",
   "7T28.ac00.29,28.b098.29,28.b2e4.29,28.b77c.29,28.b9c8.29,28.bc14.29,28.c0ac.29",
   "7T28.c544.29,28.c790.29,28.cc28.29,28.ce74.29,28.d0c0.29,28.d30c.29,28.d558.29",
   "3T28.c8fc.29,28.c624.c804.29,28.c624.d6c4.29 1X",
   "7T28.4e00.29,28.4e8c.29,28.4e09.29,28.56db.29,28.4e94.29,28.516d.29,28.4e03.29",
   "7T28.516b.29,28.4e5d.29,28.5341.29,28.6708.29,28.706b.29,28.6c34.29,28.6728.29",
   "7T28.91d1.29,28.571f.29,28.65e5.29,28.682a.29,28.6709.29,28.793e.29,28.540d.29",
   "7T28.7279.29,28.8ca1.29,28.795d.29,28.52b4.29,28.4ee3.29,28.547c.29,28.5b66.29",
   "7T28.76e3.29,28.4f01.29,28.8cc7.29,28.5354.29,28.796d.29,28.4f11.29,28.81ea.29",
   "5T28.81f3.29,554f,5e7c,6587,7b8f 8V",
   "dT70.74.65,32.31,32.32,32.33,32.34,32.35,32.36,32.37,32.38,32.39,33.30,33.31,33.32",
   "6T33.33,33.34,33.35,1100,1102,1103 3D215e 3T1109,110b,110c 5D215b",
   "fTac00,b098,b2e4,b77c,b9c8,bc14,c0ac,c544,c790,cc28,ce74,d0c0,d30c,d558,cc38.ace0",
   "2Tc8fc.c758,c6b0 1V",
   "11T4e00,4e8c,4e09,56db,4e94,516d,4e03,516b,4e5d,5341,6708,706b,6c34,6728,91d1,571f,65e5",
   "11T682a,6709,793e,540d,7279,8ca1,795d,52b4,79d8,7537,5973,9069,512a,5370,6ce8,9805,4f11",
   "10T5199,6b63,4e0a,4e2d,4e0b,5de6,53f3,533b,5b97,5b66,76e3,4f01,8cc7,5354,591c,33.36",
   "eT33.37,33.38,33.39,34.30,34.31,34.32,34.33,34.34,34.35,34.36,34.37,34.38,34.39,35.30",
   "aT31.6708,32.6708,33.6708,34.6708,35.6708,36.6708,37.6708,38.6708,39.6708,31.30.6708",
   "cT31.31.6708,31.32.6708,68.67,65.72.67,65.76,6c.74.64,30a2,30a4,30a6,30a8,30aa,30ab",
   "eT30ad,30af,30b1,30b3,30b5,30b7,30b9,30bb,30bd,30bf,30c1,30c4,30c6,30c8 6D21a",
   "4T30d2,30d5,30d8,30db 5D210 2T30e4,30e6 6D20d 4D20c",
   "5T4ee4.548c,30a2.30d1.30fc.30c8,30a2.30eb.30d5.30a1,30a2.30f3.30da.30a2,30a2.30fc.30eb",
   "4T30a4.30cb.30f3.30b0,30a4.30f3.30c1,30a6.30a9.30f3,30a8.30b9.30af.30fc.30c9",
   "5T30a8.30fc.30ab.30fc,30aa.30f3.30b9,30aa.30fc.30e0,30ab.30a4.30ea,30ab.30e9.30c3.30c8",
   "5T30ab.30ed.30ea.30fc,30ac.30ed.30f3,30ac.30f3.30de,30ae.30ac,30ae.30cb.30fc",
   "4T30ad.30e5.30ea.30fc,30ae.30eb.30c0.30fc,30ad.30ed,30ad.30ed.30b0.30e9.30e0",
   "3T30ad.30ed.30e1.30fc.30c8.30eb,30ad.30ed.30ef.30c3.30c8,30b0.30e9.30e0",
   "4T30b0.30e9.30e0.30c8.30f3,30af.30eb.30bc.30a4.30ed,30af.30ed.30fc.30cd,30b1.30fc.30b9",
   "4T30b3.30eb.30ca,30b3.30fc.30dd,30b5.30a4.30af.30eb,30b5.30f3.30c1.30fc.30e0",
   "6T30b7.30ea.30f3.30b0,30bb.30f3.30c1,30bb.30f3.30c8,30c0.30fc.30b9,30c7.30b7,30c9.30eb",
   "5T30c8.30f3,30ca.30ce,30ce.30c3.30c8,30cf.30a4.30c4,30d1.30fc.30bb.30f3.30c8",
   "5T30d1.30fc.30c4,30d0.30fc.30ec.30eb,30d4.30a2.30b9.30c8.30eb,30d4.30af.30eb,30d4.30b3",
   "4T30d3.30eb,30d5.30a1.30e9.30c3.30c9,30d5.30a3.30fc.30c8,30d6.30c3.30b7.30a7.30eb",
   "5T30d5.30e9.30f3,30d8.30af.30bf.30fc.30eb,30da.30bd,30da.30cb.30d2,30d8.30eb.30c4",
   "5T30da.30f3.30b9,30da.30fc.30b8,30d9.30fc.30bf,30dd.30a4.30f3.30c8,30dc.30eb.30c8",
   "5T30db.30f3,30dd.30f3.30c9,30db.30fc.30eb,30db.30fc.30f3,30de.30a4.30af.30ed",
   "4T30de.30a4.30eb,30de.30c3.30cf,30de.30eb.30af,30de.30f3.30b7.30e7.30f3",
   "5T30df.30af.30ed.30f3,30df.30ea,30df.30ea.30d0.30fc.30eb,30e1.30ac,30e1.30ac.30c8.30f3",
   "5T30e1.30fc.30c8.30eb,30e4.30fc.30c9,30e4.30fc.30eb,30e6.30a2.30f3,30ea.30c3.30c8.30eb",
   "5T30ea.30e9,30eb.30d4.30fc,30eb.30fc.30d6.30eb,30ec.30e0,30ec.30f3.30c8.30b2.30f3",
   "9T30ef.30c3.30c8,30.70b9,31.70b9,32.70b9,33.70b9,34.70b9,35.70b9,36.70b9,37.70b9",
   "8T38.70b9,39.70b9,31.30.70b9,31.31.70b9,31.32.70b9,31.33.70b9,31.34.70b9,31.35.70b9",
   "7T31.36.70b9,31.37.70b9,31.38.70b9,31.39.70b9,32.30.70b9,32.31.70b9,32.32.70b9",
   "aT32.33.70b9,32.34.70b9,68.70.61,64.61,61.75,62.61.72,6f.76,70.63,64.6d,64.6d.32",
   "8T64.6d.33,69.75,5e73.6210,662d.548c,5927.6b63,660e.6cbb,682a.5f0f.4f1a.793e,70.61",
   "cT6e.61,3bc.61,6d.61,6b.61,6b.62,6d.62,67.62,63.61.6c,6b.63.61.6c,70.66,6e.66,3bc.66",
   "bT3bc.67,6d.67,6b.67,68.7a,6b.68.7a,6d.68.7a,67.68.7a,74.68.7a,3bc.6c,6d.6c,64.6c",
   "cT6b.6c,66.6d,6e.6d,3bc.6d,6d.6d,63.6d,6b.6d,6d.6d.32,63.6d.32,6d.32,6b.6d.32,6d.6d.33",
   "9T63.6d.33,6d.33,6b.6d.33,6d.2215.73,6d.2215.73.32,70.61,6b.70.61,6d.70.61,67.70.61",
   "9T72.61.64,72.61.64.2215.73,72.61.64.2215.73.32,70.73,6e.73,3bc.73,6d.73,70.76,6e.76",
   "cT3bc.76,6d.76,6b.76,6d.76,70.77,6e.77,3bc.77,6d.77,6b.77,6d.77,6b.3c9,6d.3c9 1X",
   "4T62.71,63.63,63.64,63.2215.6b.67 1X",
   "dT64.62,67.79,68.61,68.70,69.6e,6b.6b,6b.6d,6b.74,6c.6d,6c.6e,6c.6f.67,6c.78,6d.62",
   "3T6d.69.6c,6d.6f.6c,70.68 1X",
   "aT70.70.6d,70.72,73.72,73.76,77.62,76.2215.6d,61.2215.6d,31.65e5,32.65e5,33.65e5",
   "9T34.65e5,35.65e5,36.65e5,37.65e5,38.65e5,39.65e5,31.30.65e5,31.31.65e5,31.32.65e5",
   "7T31.33.65e5,31.34.65e5,31.35.65e5,31.36.65e5,31.37.65e5,31.38.65e5,31.39.65e5",
   "7T32.30.65e5,32.31.65e5,32.32.65e5,32.33.65e5,32.34.65e5,32.35.65e5,32.36.65e5",
   "6T32.37.65e5,32.38.65e5,32.39.65e5,33.30.65e5,33.31.65e5,67.61.6c 708dV 3X 37V 9X 15cV 14X",
   "2eP 12V 1cP 2T44a,44c 5aV 8X 22V eP 2V 3eP 1Ta76f 8V 4P 1T1d79 aP 3V 1Ta78c 1V 1T265 2V 4P",
   "2V 14P 5T266,25c,261,26c,26a 1V 4T29e,287,29d,ab53 10P 3Ta794,282,1d8e 4P 1T264 10P 1T19b",
   "14X 5T73,63,66,71,a7f6 2V 2T127,153 33V 3X aV 6X 38V 8X 46V 8X cV 6X 74V bX 1eV 3X 4eV 1X bV",
   "4X 21V 1X 37V 9X eV 2X aV 2X 67V 18X 1cV aX 6V 2X 6V 2X 6V 9X 7V 1X 7V 1X 2cV",
   "4Ta727,ab37,26b,ab52 9V 1T28d 2V 4X 50D97d0 2eV 2X aV 6X 2ba4V cX 17V 4X 31V 2104X",
   "11T8c48,66f4,8eca,8cc8,6ed1,4e32,53e5,9f9c,9f9c,5951,91d1,5587,5948,61f6,7669,7f85,863f",
   "11T87ba,88f8,908f,6a02,6d1b,70d9,73de,843d,916a,99f1,4e82,5375,6b04,721b,862d,9e1e,5d50",
   "11T6feb,85cd,8964,62c9,81d8,881f,5eca,6717,6d6a,72fc,90ce,4f86,51b7,52de,64c4,6ad3,7210",
   "11T76e7,8001,8606,865c,8def,9732,9b6f,9dfa,788c,797f,7da0,83c9,9304,9e7f,8ad6,58df,5f04",
   "11T7c60,807e,7262,78ca,8cc2,96f7,58d8,5c62,6a13,6dda,6f0f,7d2f,7e37,964b,52d2,808b,51dc",
   "11T51cc,7a1c,7dbe,83f1,9675,8b80,62cf,6a02,8afe,4e39,5be7,6012,7387,7570,5317,78fb,4fbf",
   "11T5fa9,4e0d,6ccc,6578,7d22,53c3,585e,7701,8449,8aaa,6bba,8fb0,6c88,62fe,82e5,63a0,7565",
   "11T4eae,5169,51c9,6881,7ce7,826f,8ad2,91cf,52f5,5442,5973,5eec,65c5,6ffe,792a,95ad,9a6a",
   "11T9e97,9ece,529b,66c6,6b77,8f62,5e74,6190,6200,649a,6f23,7149,7489,79ca,7df4,806f,8f26",
   "11T84ee,9023,934a,5217,52a3,54bd,70c8,88c2,8aaa,5ec9,5ff5,637b,6bae,7c3e,7375,4ee4,56f9",
   "11T5be7,5dba,601c,73b2,7469,7f9a,8046,9234,96f6,9748,9818,4f8b,79ae,91b4,96b8,60e1,4e86",
   "11T50da,5bee,5c3f,6599,6a02,71ce,7642,84fc,907c,9f8d,6688,962e,5289,677b,67f3,6d41,6e9c",
   "11T7409,7559,786b,7d10,985e,516d,622e,9678,502b,5d19,6dea,8f2a,5f8b,6144,6817,7387,9686",
   "11T5229,540f,5c65,6613,674e,68a8,6ce5,7406,75e2,7f79,88cf,88e1,91cc,96e2,533f,6eba,541d",
   "11T71d0,7498,85fa,96a3,9c57,9e9f,6797,6dcb,81e8,7acb,7b20,7c92,72c0,7099,8b58,4ec0,8336",
   "fT523a,5207,5ea6,62d3,7cd6,5b85,6d1e,66b4,8f3b,884c,964d,898b,5ed3,5140,55c0 2V 1T585a 1V",
   "1T6674 2V aT51de,732a,76ca,793c,795e,7965,798f,9756,7cbe,7fbd 1V 1T8612 1V 1T8af8 2V",
   "2T9038,90fd 3V",
   "11T98ef,98fc,9928,9db4,90de,96b7,4fae,50e7,514d,52c9,52e4,5351,559d,5606,5668,5840,58a8",
   "11T5c64,5c6e,6094,6168,618e,61f2,654f,65e2,6691,6885,6d77,6e1a,6f22,716e,722b,7422,7891",
   "11T793e,7949,7948,7950,7956,795d,798d,798e,7a40,7a81,7bc0,7df4,7e09,7e41,7f72,8005,81ed",
   "10T8279,8279,8457,8910,8996,8b01,8b39,8cd3,8d08,8fb6,9038,96e3,97ff,983b,6075,242ee 1T8218",
   "2X 11T4e26,51b5,5168,4f80,5145,5180,52c7,52fa,559d,5555,5599,55e2,585a,58b3,5944,5954,5a62",
   "11T5b28,5ed2,5ed9,5f69,5fad,60d8,614e,6108,618e,6160,61f2,6234,63c4,641c,6452,6556,6674",
   "11T6717,671b,6756,6b79,6bba,6d41,6edb,6ecb,6f22,701e,716e,77a7,7235,72af,732a,7471,7506",
   "11T753b,761d,761f,76ca,76db,76f4,774a,7740,78cc,7ab1,7bc0,7c7b,7d5b,7df4,7f3e,8005,8352",
   "11T83ef,8779,8941,8986,8996,8abf,8af8,8acb,8b01,8afe,8aed,8b39,8b8a,8d08,8f38,9072,9199",
   "10T9276,967c,96e3,9756,97db,97ff,980b,983b,9b12,9f9c,2284a,22844,233d5,3b9d,4018,4039",
   "5T25249,25cd0,27ed3,9f43,9f8e 26X 7T66.66,66.69,66.6c,66.66.69,66.66.6c,73.74,73.74 cX",
   "5T574.576,574.565,574.56b,57e.576,574.56d 5X 1T5d9.5b4 1V 5T5f2.5b7,5e2,5d0,5d3,5d4 3Df549",
   "bT5e8,5ea,2b,5e9.5c1,5e9.5c2,5e9.5bc.5c1,5e9.5bc.5c2,5d0.5b7,5d0.5b8,5d0.5bc,5d1.5bc",
   "5T5d2.5bc,5d3.5bc,5d4.5bc,5d5.5bc,5d6.5bc 1X 5T5d8.5bc,5d9.5bc,5da.5bc,5db.5bc,5dc.5bc 1X",
   "1T5de.5bc 1X 2T5e0.5bc,5e1.5bc 1X 2T5e3.5bc,5e4.5bc 1X",
   "bT5e6.5bc,5e7.5bc,5e8.5bc,5e9.5bc,5ea.5bc,5d5.5b9,5d1.5bf,5db.5bf,5e4.5bf,5d0.5dc,671",
   "15T671,67b,67b,67b,67b,67e,67e,67e,67e,680,680,680,680,67a,67a,67a,67a,67f,67f,67f,67f",
   "15T679,679,679,679,6a4,6a4,6a4,6a4,6a6,6a6,6a6,6a6,684,684,684,684,683,683,683,683,686",
   "15T686,686,686,687,687,687,687,68d,68d,68c,68c,68e,68e,688,688,698,698,691,691,6a9,6a9",
   "15T6a9,6a9,6af,6af,6af,6af,6b3,6b3,6b3,6b3,6b1,6b1,6b1,6b1,6ba,6ba,6bb,6bb,6bb,6bb,6c0",
   "dT6c0,6c1,6c1,6c1,6c1,6be,6be,6be,6be,6d2,6d2,6d3,6d3 21V",
   "14T6ad,6ad,6ad,6ad,6c7,6c7,6c6,6c6,6c8,6c8,6c7.674,6cb,6cb,6c5,6c5,6c9,6c9,6d0,6d0,6d0",
   "cT6d0,649,649,626.627,626.627,626.6d5,626.6d5,626.648,626.648,626.6c7,626.6c7,626.6c6",
   "cT626.6c6,626.6c8,626.6c8,626.6d0,626.6d0,626.6d0,626.649,626.649,626.649,6cc,6cc,6cc",
   "bT6cc,626.62c,626.62d,626.645,626.649,626.64a,628.62c,628.62d,628.62e,628.645,628.649",
   "aT628.64a,62a.62c,62a.62d,62a.62e,62a.645,62a.649,62a.64a,62b.62c,62b.645,62b.649",
   "aT62b.64a,62c.62d,62c.645,62d.62c,62d.645,62e.62c,62e.62d,62e.645,633.62c,633.62d",
   "aT633.62e,633.645,635.62d,635.645,636.62c,636.62d,636.62e,636.645,637.62d,637.645",
   "aT638.645,639.62c,639.645,63a.62c,63a.645,641.62c,641.62d,641.62e,641.645,641.649",
   "aT641.64a,642.62d,642.645,642.649,642.64a,643.627,643.62c,643.62d,643.62e,643.644",
   "aT643.645,643.649,643.64a,644.62c,644.62d,644.62e,644.645,644.649,644.64a,645.62c",
   "aT645.62d,645.62e,645.645,645.649,645.64a,646.62c,646.62d,646.62e,646.645,646.649",
   "aT646.64a,647.62c,647.645,647.649,647.64a,64a.62c,64a.62d,64a.62e,64a.645,64a.649",
   "8T64a.64a,630.670,631.670,649.670,20.64c.651,20.64d.651,20.64e.651,20.64f.651",
   "9T20.650.651,20.651.670,626.631,626.632,626.645,626.646,626.649,626.64a,628.631",
   "aT628.632,628.645,628.646,628.649,628.64a,62a.631,62a.632,62a.645,62a.646,62a.649",
   "aT62a.64a,62b.631,62b.632,62b.645,62b.646,62b.649,62b.64a,641.649,641.64a,642.649",
   "aT642.64a,643.627,643.644,643.645,643.649,643.64a,644.645,644.649,644.64a,645.627",
   "aT645.645,646.631,646.632,646.645,646.646,646.649,646.64a,649.670,64a.631,64a.632",
   "aT64a.645,64a.646,64a.649,64a.64a,626.62c,626.62d,626.62e,626.645,626.647,628.62c",
   "aT628.62d,628.62e,628.645,628.647,62a.62c,62a.62d,62a.62e,62a.645,62a.647,62b.645",
   "aT62c.62d,62c.645,62d.62c,62d.645,62e.62c,62e.645,633.62c,633.62d,633.62e,633.645",
   "aT635.62d,635.62e,635.645,636.62c,636.62d,636.62e,636.645,637.62d,638.645,639.62c",
   "aT639.645,63a.62c,63a.645,641.62c,641.62d,641.62e,641.645,642.62d,642.645,643.62c",
   "aT643.62d,643.62e,643.644,643.645,644.62c,644.62d,644.62e,644.645,644.647,645.62c",
   "aT645.62d,645.62e,645.645,646.62c,646.62d,646.62e,646.645,646.647,647.62c,647.645",
   "aT647.670,64a.62c,64a.62d,64a.62e,64a.645,64a.647,626.645,626.647,628.645,628.647",
   "aT62a.645,62a.647,62b.645,62b.647,633.645,633.647,634.645,634.647,643.644,643.645",
   "9T644.645,646.645,646.647,64a.645,64a.647,640.64e.651,640.64f.651,640.650.651,637.649",
   "aT637.64a,639.649,639.64a,63a.649,63a.64a,633.649,633.64a,634.649,634.64a,62d.649",
   "aT62d.64a,62c.649,62c.64a,62e.649,62e.64a,635.649,635.64a,636.649,636.64a,634.62c",
   "aT634.62d,634.62e,634.645,634.631,633.631,635.631,636.631,637.649,637.64a,639.649",
   "aT639.64a,63a.649,63a.64a,633.649,633.64a,634.649,634.64a,62d.649,62d.64a,62c.649",
   "aT62c.64a,62e.649,62e.64a,635.649,635.64a,636.649,636.64a,634.62c,634.62d,634.62e",
   "aT634.645,634.631,633.631,635.631,636.631,634.62c,634.62d,634.62e,634.645,633.647",
   "aT634.647,637.645,633.62c,633.62d,633.62e,634.62c,634.62d,634.62e,637.645,638.645",
   "2T627.64b,627.64b 12V",
   "7T62a.62c.645,62a.62d.62c,62a.62d.62c,62a.62d.645,62a.62e.645,62a.645.62c,62a.645.62d",
   "7T62a.645.62e,62c.645.62d,62c.645.62d,62d.645.64a,62d.645.649,633.62d.62c,633.62c.62d",
   "7T633.62c.649,633.645.62d,633.645.62d,633.645.62c,633.645.645,633.645.645,635.62d.62d",
   "7T635.62d.62d,635.645.645,634.62d.645,634.62d.645,634.62c.64a,634.645.62e,634.645.62e",
   "7T634.645.645,634.645.645,636.62d.649,636.62e.645,636.62e.645,637.645.62d,637.645.62d",
   "7T637.645.645,637.645.64a,639.62c.645,639.645.645,639.645.645,639.645.649,63a.645.645",
   "7T63a.645.64a,63a.645.649,641.62e.645,641.62e.645,642.645.62d,642.645.645,644.62d.645",
   "7T644.62d.64a,644.62d.649,644.62c.62c,644.62c.62c,644.62e.645,644.62e.645,644.645.62d",
   "7T644.645.62d,645.62d.62c,645.62d.645,645.62d.64a,645.62c.62d,645.62c.645,645.62e.62c",
   "1T645.62e.645 2V",
   "7T645.62c.62e,647.645.62c,647.645.645,646.62d.645,646.62d.649,646.62c.645,646.62c.645",
   "7T646.62c.649,646.645.64a,646.645.649,64a.645.645,64a.645.645,628.62e.64a,62a.62c.64a",
   "7T62a.62c.649,62a.62e.64a,62a.62e.649,62a.645.64a,62a.645.649,62c.645.64a,62c.62d.649",
   "7T62c.645.649,633.62e.649,635.62d.64a,634.62d.64a,636.62d.64a,644.62c.64a,644.645.64a",
   "7T64a.62d.64a,64a.62c.64a,64a.645.64a,645.645.64a,642.645.64a,646.62d.64a,642.645.62d",
   "7T644.62d.645,639.645.64a,643.645.64a,646.62c.62d,645.62e.64a,644.62c.645,643.645.645",
   "7T644.62c.645,646.62c.62d,62c.62d.64a,62d.62c.64a,645.62c.64a,641.645.64a,628.62d.64a",
   "5T643.645.645,639.62c.645,635.645.645,633.62e.64a,646.62c.64a 8V 20X",
   "5T635.644.6d2,642.644.6d2,627.644.644.647,627.643.628.631,645.62d.645.62f",
   "5T635.644.639.645,631.633.648.644,639.644.64a.647,648.633.644.645,635.644.649",
   "1T635.644.649.20.627.644.644.647.20.639.644.64a.647.20.648.633.644.645",
   "2T62c.644.20.62c.644.627.644.647,631.6cc.627.644 3V 10I 2T2c,3001 1X 6T3a,3b,21,3f,3016,3017",
   "7X 10V 1X 10T2014,2013,5f,5f,28,29,7b,7d,3014,3015,3010,3011,300a,300b,3008,3009 4Dce35 2V",
   "bT5b,5d,20.305,20.305,20.305,20.305,5f,5f,5f,2c,3001 2X",
   "13T3b,3a,3f,21,2014,28,29,7b,7d,3014,3015,23,26,2a,2b,2d,3c,3e,3d 1X 4T5c,24,25,40 4X",
   "3T20.64b,640.64b,20.64c 1V 1T20.64d 1X",
   "cT20.64e,640.64e,20.64f,640.64f,20.650,640.650,20.651,640.651,20.652,640.652,621,622",
   "15T622,623,623,624,624,625,625,626,626,626,626,627,627,628,628,628,628,629,629,62a,62a",
   "15T62a,62a,62b,62b,62b,62b,62c,62c,62c,62c,62d,62d,62d,62d,62e,62e,62e,62e,62f,62f,630",
   "15T630,631,631,632,632,633,633,633,633,634,634,634,634,635,635,635,635,636,636,636,636",
   "15T637,637,637,637,638,638,638,638,639,639,639,639,63a,63a,63a,63a,641,641,641,641,642",
   "15T642,642,642,643,643,643,643,644,644,644,644,645,645,645,645,646,646,646,646,647,647",
   "fT647,647,648,648,649,649,64a,64a,64a,64a,644.622,644.622,644.623,644.623,644.625",
   "3T644.625,644.627,644.627 2X 1I 1X 20Dfee0 1aDfec0 24Dfee0",
   "11T2985,2986,2e,300c,300d,3001,30fb,30f2,30a1,30a3,30a5,30a7,30a9,30e3,30e5,30e7,30c3",
   "11T30fc,30a2,30a4,30a6,30a8,30aa,30ab,30ad,30af,30b1,30b3,30b5,30b7,30b9,30bb,30bd,30bf",
   "4T30c1,30c4,30c6,30c8 6Dcebb 4T30d2,30d5,30d8,30db 5Dceb1 2T30e4,30e6 6Dceae",
   "4T30ef,30f3,3099,309a 1I 6T1100,1101,11aa,1102,11ac,11ad 3Deea4 6Dedfa 1T111a 3Deeab 1T1121",
   "aDeeac 3X 6Dee61 2X 6Dee63 2X 6Dee65 2X 3Dee67 3X 7Ta2,a3,ac,20.304,a6,a5,20a9 1X 1T2502",
   "4Dde59 2T25a0,25cb 11X cV 1X 1aV 1X 13V 1X 2V 1X fV 2X eV 22X 7bV 5X 3V 4X 2dV 3X 58V 1X dV",
   "3X 1V 2fX 2eV 82X 1dV 3X 31V fX 1cV 4X 24V 9X 1eV 5X 2bV 5X 1eV 1X 25V 4X eV 2aX 28U28 76V",
   "2X aV 6X 24U28 4X 24V 4X 28V 8X 34V bX 1V bU27 1X fU27 1X 7U27 1X 2T105bb,105bc 1X bV 1X fV",
   "1X 7V 1X 2V 3X 34V cX 137V 9X 16V aX 8V 18X 1V 5T2d0,2d1,e6,299,253 1X",
   "14T2a3,ab66,2a5,2a4,256,257,1d91,258,25e,2a9,264,262,260,29b,127,29c,267,284,2aa,2ab",
   "13T26c,1df04,a78e,26e,1df05,28e,1df06,f8,276,277,71,27a,1df08,27d,27e,280,2a8,2a6,ab67",
   "3T2a7,288,2c71 1X 4T28f,2a1,2a2,298 3D105f6 2T1df0a,1df1e 45X 6V 2X 1V 1X 2cV 1X 2V 3X 1V 2X",
   "17V 1X 48V 8X 9V 30X 13V 1X 2V 5X 21V 3X 1bV 5X 1bV 26X 38V 4X 14V 2X 32V 1X 2V 5X 8V 1X 3V",
   "1X 1dV 2X 3V 4X aV 7X 9V 7X 40V 20X 27V 4X cV 9X 36V 3X 1dV 2X 1bV 5X 1aV 7X 4V cX 7V 50X",
   "49V 37X 33U40 dX 33V 7X 2eV 8X aV 6X 10V 16U20 3X 1dV 8X 2V d0X 1fV 1X 2aV 1X 3V 2X 2V 10X",
   "6V 8X 9V 21X 2eV 8X 2aV 16X 1aV 26X 1cV 14X 17V 9X 4eV 4X 24V 9X 3eV 1X 5V dX 19V 7X aV 6X",
   "35V 1X 12V 8X 27V 9X 60V 1X 14V bX 12V 1X 2fV 3eX 7V 1X 1V 1X 4V 1X fV 1X bV 6X 3bV 5X aV 6X",
   "4V 1X 8V 2X 2V 2X 16V 1X 7V 1X 2V 1X 5V 1X aV 2X 2V 2X 3V 2X 1V 6X 1V 5X 7V 2X 7V 3X 5V bX",
   "aV 1X 1V 2X 1V 1X 26V 1X aV 1X 1V 2X 1V 1X 4V 1X aV 1X 2V 8X 2V 1dX 5cV 1X 5V 1eX 48V 8X aV",
   "a6X 36V 2X 26V 22X 45V bX aV 6X dV 13X 3aV 6X aV 6X 14V 1cX 1bV 2X fV 4X 17V b9X 3cV 64X",
   "20U20 33V cX 8V 2X 1V 2X 8V 1X 2V 1X 1eV 1X 2V 2X cV 9X aV 46X 8V 2X 2eV 2X bV 1bX 48V 8X",
   "53V dX 49V 7X aV 56X 8V 58X 22V eX aV 6X 9V 1X 2dV 1X eV aX 1dV 3X 20V 2X 16V 1X eV 49X 7V",
   "1X 2V 1X 2cV 3X 1V 1X 2V 1X 9V 8X aV 6X 6V 1X 2V 1X 25V 1X 2V 1X 6V 7X aV 6X 2cV 4X aV f6X",
   "19V 7X 11V 1X 29V 3X 1dV 55X 1V fX 32V dX 39bV 66X 6fV 1X 5V bX c4V a4cX 63V dX 430V 10X 16V",
   "aX f9bV 5X 247V 1ab9X 3aV 6c6X 239V 7X 1fV 1X aV 4X 51V 1X aV 6X 1eV 2X 6V aX 46V aX aV 1X",
   "7V 1X 15V 5X 13V 1b0X 3aV c6X 20U20 3bV 5X 19U1b 2X 19V 2cX 4bV 4X 39V 7X 11V 40X 5V bX 7V",
   "9X 1cd6V 29X 20V 61X 73V 21fdX 4V 1X 7V 1X 2V 1X 123V fX 1V 1dX 3V 2X 1V eX 4V 8X 18cV 904X",
   "6bV 5X dV 3X 9V 7X aV 2X 4V 4I f5cX d6V 1aD1cc75 aD1ccc0 3V 3X 1b4V 6X 17V fX 11V fX 2eV 2X",
   "17V 9X 74V 3cX f6V aX 27V 2X 35V",
   "5T1d157.1d165,1d158.1d165,1d158.1d165.1d16e,1d158.1d165.1d16f,1d158.1d165.1d170",
   "2T1d158.1d165.1d171,1d158.1d165.1d172 eV 8I 40V",
   "5T1d1b9.1d165,1d1ba.1d165,1d1b9.1d165.1d16e,1d1ba.1d165.1d16e,1d1b9.1d165.1d16f",
   "1T1d1ba.1d165.1d16f 2aV 15X 46V 7aX 14V cX 14V cX 57V 9X 19V 87X 1aD1d39f 1aD1d3b9 1aD1d3d3",
   "7D1d3ed 1X 12D1d3ed 1aD1d407 1aD1d421 1T61 1X 2T63,64 2X 1T67 2X 2T6a,6b 2X 4D1d43b 1X",
   "8D1d43b 4D1d455 1X 1T66 1X 7D1d455 1X bD1d455 1aD1d46f 1aD1d489 2T61,62 1X 4D1d4a3 2X",
   "8D1d4a3 1X 7D1d4a3 1X 1aD1d4bd 2T61,62 1X 4D1d4d7 1X 5D1d4d7 1X 1T6f 3X 7D1d4d7 1X 1aD1d4f1",
   "1aD1d50b 1aD1d525 1aD1d53f 1aD1d559 1aD1d573 1aD1d58d 1aD1d5a7 1aD1d5c1 1aD1d5db 1aD1d5f5",
   "1aD1d60f 1aD1d629 2T131,237 2X 11D1d2f7 1T3b8 7D1d2f7 1T2207 11D1d311 1T3c3 7D1d311",
   "7T2202,3b5,3b8,3ba,3c6,3c1,3c0 11D1d331 1T3b8 7D1d331 1T2207 11D1d34b 1T3c3 7D1d34b",
   "7T2202,3b5,3b8,3ba,3c6,3c1,3c0 11D1d36b 1T3b8 7D1d36b 1T2207 11D1d385 1T3c3 7D1d385",
   "7T2202,3b5,3b8,3ba,3c6,3c1,3c0 11D1d3a5 1T3b8 7D1d3a5 1T2207 11D1d3bf 1T3c3 7D1d3bf",
   "7T2202,3b5,3b8,3ba,3c6,3c1,3c0 11D1d3df 1T3b8 7D1d3df 1T2207 11D1d3f9 1T3c3 7D1d3f9",
   "9T2202,3b5,3b8,3ba,3c6,3c1,3c0,3dd,3dd 2X aD1d79e aD1d7a8 aD1d7b2 aD1d7bc aD1d7c6 28cV fX 5V",
   "1X fV 450X 1fV 6X 6V d5X 7V 1X 11V 2X 7V 1X 2V 1X 5V 5X 9D1dc00 3D1dbff bD1dbfe",
   "aT44b,44d,44e,a689,4d9,456,458,4e9,4af,4cf 9D1dc21 5T43a,43b,43e,43f,441 6D1dc1c",
   "9T44a,44b,491,456,455,45f,4ab,a651,4b1 21X 1V 70X 2dV 3X eV 2X aV 4X 2V 140X 1fV 11X 3aV 5X",
   "1V 1d0X 2aV d6X 2bV 4X 1V c0X 1fV 1X 16V 8X 2V e0X 7V 1X 4V 1X 2V 1X fV 1X c5V 2X 10V 29X",
   "22U22 2aV 4X aV 4X 2V 311X 44V 4cX 3dV c2X 4T627,628,62c,62f 1X 5T648,632,62d,637,64a",
   "4D1e7c7 12T633,639,641,635,642,631,634,62a,62b,62e,630,636,638,63a,66e,6ba,6a1,66f 1X",
   "2T628,62c 1X 1T647 2X 1T62d 1X 1T64a 4D1e7e7 5T633,639,641,635,642 1X 4T634,62a,62b,62e 1X",
   "1T636 1X 1T63a 6X 1T62c 4X 1T62d 1X 1T64a 1X 1T644 1X 3T646,633,639 1X 2T635,642 1X 1T634 2X",
   "1T62e 1X 1T636 1X 1T63a 1X 1T6ba 1X 1T66f 1X 2T628,62c 1X 1T647 2X 4T62d,637,64a,643 1X",
   "7T645,646,633,639,641,635,642 1X 4T634,62a,62b,62e 1X 4T636,638,63a,66e 1X 1T6a1 1X",
   "aT627,628,62c,62f,647,648,632,62d,637,64a 1X 3D1e847",
   "eT633,639,641,635,642,631,634,62a,62b,62e,630,636,638,63a 5X 3T628,62c,62f 1X",
   "5T648,632,62d,637,64a 1X 3D1e867 eT633,639,641,635,642,631,634,62a,62b,62e,630,636,638,63a",
   "34X 2V 10eX 2cV 4X 64V cX fV 2X fV 1X fV 1X 25V bX",
   "aT30.2c,31.2c,32.2c,33.2c,34.2c,35.2c,36.2c,37.2c,38.2c,39.2c 5V",
   "9T28.61.29,28.62.29,28.63.29,28.64.29,28.65.29,28.66.29,28.67.29,28.68.29,28.69.29",
   "9T28.6a.29,28.6b.29,28.6c.29,28.6d.29,28.6e.29,28.6f.29,28.70.29,28.71.29,28.72.29",
   "9T28.73.29,28.74.29,28.75.29,28.76.29,28.77.29,28.78.29,28.79.29,28.7a.29,3014.73.3015",
   "4T63,72,63.64,77.7a 1V 1aD1f0cf 6T68.76,6d.76,73.64,73.73,70.70.76,77.63 1aV",
   "3T6d.63,6d.64,6d.72 23V 1T64.6a 1dV 38X 1aV 3T307b.304b,30b3.30b3,30b5 dX",
   "11T624b,5b57,53cc,30c7,4e8c,591a,89e3,5929,4ea4,6620,7121,6599,524d,5f8c,518d,65b0,521d",
   "11T7d42,751f,8ca9,58f0,5439,6f14,6295,6355,4e00,4e09,904a,5de6,4e2d,53f3,6307,8d70,6253",
   "aT7981,7a7a,5408,6e80,6709,6708,7533,5272,55b6,914d 4X",
   "5T3014.672c.3015,3014.4e09.3015,3014.4e8c.3015,3014.5b89.3015,3014.70b9.3015",
   "4T3014.6253.3015,3014.76d7.3015,3014.52dd.3015,3014.6557.3015 7X 2T5f97,53ef eX 6V 9aX 3d9V",
   "3X 11V 3X dV 3X daV 6X cV 4X 1V fX cV 4X 38V 8X aV 6X 28V 8X 1eV 2X cV 4X 2V eX 9V 27X 158V",
   "8X eV 2X dV 3X bV 3X 39V 1X 1V 4X 10V 2X cV 4X aV 7X 93V 1X 5cV aD1fbc0 1V 405X a6e0V 20X",
   "111eV 2X 168eV 2X 1d31V fX 26eV 9a2X",
   "10T4e3d,4e38,4e41,20122,4f60,4fae,4fbb,5002,507a,5099,50e7,50cf,349e,2063a,514d,5154",
   "10T5164,5177,2051c,34b9,5167,518d,2054b,5197,51a4,4ecc,51ac,51b5,291df,51f5,5203,34df",
   "11T523b,5246,5272,5277,3515,52c7,52c9,52e4,52fa,5305,5306,5317,5349,5351,535a,5373,537d",
   "10T537f,537f,537f,20a2c,7070,53ca,53df,20b63,53eb,53f1,5406,549e,5438,5448,5468,54a2",
   "11T54f6,5510,5553,5563,5584,5584,5599,55ab,55b3,55c2,5716,5606,5717,5651,5674,5207,58ee",
   "10T57ce,57f4,580d,578b,5832,5831,58ac,214e4,58f2,58f7,5906,591a,5922,5962,216a8,216ea",
   "10T59ec,5a1b,5a27,59d8,5a66,36ee,36fc,5b08,5b3e,5b3e,219c8,5bc3,5bd8,5be7,5bf3,21b18",
   "10T5bff,5c06,5f53,5c22,3781,5c60,5c6e,5cc0,5c8d,21de4,5d43,21de6,5d6e,5d6b,5d7c,5de1",
   "10T5de2,382f,5dfd,5e28,5e3d,5e69,3862,22183,387c,5eb0,5eb3,5eb6,5eca,2a392,5efe,22331",
   "10T22331,8201,5f22,5f22,38c7,232b8,261da,5f62,5f6b,38e3,5f9a,5fcd,5fd7,5ff9,6081,393a",
   "10T391c,6094,226d4,60c7,6148,614c,614e,614c,617a,618e,61b2,61a4,61af,61de,61f2,61f6",
   "10T6210,621b,625d,62b1,62d4,6350,22b0c,633d,62fc,6368,6383,63e4,22bf1,6422,63c5,63a9",
   "10T3a2e,6469,647e,649d,6477,3a6c,654f,656c,2300a,65e3,66f8,6649,3b19,6691,3b08,3ae4",
   "10T5192,5195,6700,669c,80ad,43d9,6717,671b,6721,675e,6753,233c3,3b49,67fa,6785,6852",
   "10T6885,2346d,688e,681f,6914,3b9d,6942,69a3,69ea,6aa8,236a3,6adb,3c18,6b21,238a7,6b54",
   "10T3c4e,6b72,6b9f,6bba,6bbb,23a8d,21d0b,23afa,6c4e,23cbc,6cbf,6ccd,6c67,6d16,6d3e,6d77",
   "10T6d41,6d69,6d78,6d85,23d1e,6d34,6e2f,6e6e,3d33,6ecb,6ec7,23ed1,6df9,6f6e,23f5e,23f8e",
   "10T6fc6,7039,701e,701b,3d96,704a,707d,7077,70ad,20525,7145,24263,719c,243ab,7228,7235",
   "10T7250,24608,7280,7295,24735,24814,737a,738b,3eac,73a5,3eb8,3eb8,7447,745c,7471,7485",
   "fT74ca,3f1b,7524,24c36,753e,24c92,7570,2219f,7610,24fa1,24fb8,25044,3ffc,4008,76f4",
   "10T250f3,250f2,25119,25133,771e,771f,771f,774a,4039,778b,4046,4096,2541d,784e,788c,78cc",
   "fT40e3,25626,7956,2569a,256c5,798f,79eb,412f,7a40,7a4a,7a4f,2597c,25aa7,25aa7,7aee",
   "10T4202,25bab,7bc6,7bc9,4227,25c80,7cd2,42a0,7ce8,7ce3,7d00,25f86,7d63,4301,7dc7,7e02",
   "fT7e45,4334,26228,26247,4359,262d9,7f7a,2633e,7f95,7ffa,8005,264da,26523,8060,265a8",
   "10T8070,2335f,43d5,80b2,8103,440b,813e,5ab5,267a7,267b5,23393,2339c,8201,8204,8f9e,446b",
   "10T8291,828b,829d,52b3,82b1,82b3,82bd,82e6,26b3c,82e5,831d,8363,83ad,8323,83bd,83e7",
   "10T8457,8353,83ca,83cc,83dc,26c36,26d6b,26cd5,452b,84f1,84f3,8516,273ca,8564,26f2c,455d",
   "10T4561,26fb1,270d2,456b,8650,865c,8667,8669,86a9,8688,870e,86e2,8779,8728,876b,8786",
   "10T45d7,87e1,8801,45f9,8860,8863,27667,88d7,88de,4635,88fa,34bb,278ae,27966,46be,46c7",
   "10T8aa0,8aed,8b8a,8c55,27ca8,8cab,8cc1,8d1b,8d77,27f2f,20804,8dcb,8dbc,8df0,208de,8ed4",
   "10T8f38,285d2,285ed,9094,90f1,9111,2872e,911b,9238,92d7,92d8,927c,93f9,9415,28bfa,958b",
   "10T4995,95b7,28d77,49e6,96c3,5db2,9723,29145,2921a,4a6e,4a76,97e0,2940a,4ab2,29496,980b",
   "10T980b,9829,295b6,98e2,4b33,9929,99a7,99c2,99fe,4bce,29b30,9b12,9c40,9cfd,4cce,4ced",
   "fT9d67,2a0ce,4cf8,2a105,2a20e,2a291,9ebb,4d56,9ef9,9efe,9f05,9f0f,9f16,9f3b,2a600 5e2X 134bV",
   "5X 212aV acc86X f0I"]

end Mapping

end Domain

end Web

end IniKeeper
