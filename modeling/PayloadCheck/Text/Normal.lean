import PayloadCheck.Text.Mark

/-!
# The composed form of a text

A character with marks can be written in several ways. The composed form, after the character
standard (version 14), takes all characters apart, puts the marks of each into order and puts
together again what has a character of its own.
-/

namespace PayloadCheck.Text

/-! ## Tables -/

/-- What two characters are put together to, by the second one: "second:first>whole,first>whole". -/
def compositionTable : List String := [
    "",
    "300:41>c0,45>c8,49>cc,4e>1f8,4f>d2,55>d9,57>1e80,59>1ef2,61>e0,65>e8,69>ec,6e>1f9,6f>f2,75>f9,77>1e81,79>1ef3,a8>1fed,c2>1ea6,ca>1ec0,d4>1ed2,dc>1db,e2>1ea7,ea>1ec1,f4>1ed3,fc>1dc,102>1eb0,103>1eb1,112>1e14,113>1e15,14c>1e50,14d>1e51,1a0>1edc,1a1>1edd,1af>1eea,1b0>1eeb,391>1fba,395>1fc8,397>1fca,399>1fda,39f>1ff8,3a5>1fea,3a9>1ffa,3b1>1f70,3b5>1f72,3b7>1f74,3b9>1f76,3bf>1f78,3c5>1f7a,3c9>1f7c,3ca>1fd2,3cb>1fe2,415>400,418>40d,435>450,438>45d,1f00>1f02,1f01>1f03,1f08>1f0a,1f09>1f0b,1f10>1f12,1f11>1f13,1f18>1f1a,1f19>1f1b,1f20>1f22,1f21>1f23,1f28>1f2a,1f29>1f2b,1f30>1f32,1f31>1f33,1f38>1f3a,1f39>1f3b,1f40>1f42,1f41>1f43,1f48>1f4a,1f49>1f4b,1f50>1f52,1f51>1f53,1f59>1f5b,1f60>1f62,1f61>1f63,1f68>1f6a,1f69>1f6b,1fbf>1fcd,1ffe>1fdd",
    "301:41>c1,43>106,45>c9,47>1f4,49>cd,4b>1e30,4c>139,4d>1e3e,4e>143,4f>d3,50>1e54,52>154,53>15a,55>da,57>1e82,59>dd,5a>179,61>e1,63>107,65>e9,67>1f5,69>ed,6b>1e31,6c>13a,6d>1e3f,6e>144,6f>f3,70>1e55,72>155,73>15b,75>fa,77>1e83,79>fd,7a>17a,a8>385,c2>1ea4,c5>1fa,c6>1fc,c7>1e08,ca>1ebe,cf>1e2e,d4>1ed0,d5>1e4c,d8>1fe,dc>1d7,e2>1ea5,e5>1fb,e6>1fd,e7>1e09,ea>1ebf,ef>1e2f,f4>1ed1,f5>1e4d,f8>1ff,fc>1d8,102>1eae,103>1eaf,112>1e16,113>1e17,14c>1e52,14d>1e53,168>1e78,169>1e79,1a0>1eda,1a1>1edb,1af>1ee8,1b0>1ee9,391>386,395>388,397>389,399>38a,39f>38c,3a5>38e,3a9>38f,3b1>3ac,3b5>3ad,3b7>3ae,3b9>3af,3bf>3cc,3c5>3cd,3c9>3ce,3ca>390,3cb>3b0,3d2>3d3,413>403,41a>40c,433>453,43a>45c,1f00>1f04,1f01>1f05,1f08>1f0c,1f09>1f0d,1f10>1f14,1f11>1f15,1f18>1f1c,1f19>1f1d,1f20>1f24,1f21>1f25,1f28>1f2c,1f29>1f2d,1f30>1f34,1f31>1f35,1f38>1f3c,1f39>1f3d,1f40>1f44,1f41>1f45,1f48>1f4c,1f49>1f4d,1f50>1f54,1f51>1f55,1f59>1f5d,1f60>1f64,1f61>1f65,1f68>1f6c,1f69>1f6d,1fbf>1fce,1ffe>1fde",
    "302:41>c2,43>108,45>ca,47>11c,48>124,49>ce,4a>134,4f>d4,53>15c,55>db,57>174,59>176,5a>1e90,61>e2,63>109,65>ea,67>11d,68>125,69>ee,6a>135,6f>f4,73>15d,75>fb,77>175,79>177,7a>1e91,1ea0>1eac,1ea1>1ead,1eb8>1ec6,1eb9>1ec7,1ecc>1ed8,1ecd>1ed9",
    "303:41>c3,45>1ebc,49>128,4e>d1,4f>d5,55>168,56>1e7c,59>1ef8,61>e3,65>1ebd,69>129,6e>f1,6f>f5,75>169,76>1e7d,79>1ef9,c2>1eaa,ca>1ec4,d4>1ed6,e2>1eab,ea>1ec5,f4>1ed7,102>1eb4,103>1eb5,1a0>1ee0,1a1>1ee1,1af>1eee,1b0>1eef",
    "304:41>100,45>112,47>1e20,49>12a,4f>14c,55>16a,59>232,61>101,65>113,67>1e21,69>12b,6f>14d,75>16b,79>233,c4>1de,c6>1e2,d5>22c,d6>22a,dc>1d5,e4>1df,e6>1e3,f5>22d,f6>22b,fc>1d6,1ea>1ec,1eb>1ed,226>1e0,227>1e1,22e>230,22f>231,391>1fb9,399>1fd9,3a5>1fe9,3b1>1fb1,3b9>1fd1,3c5>1fe1,418>4e2,423>4ee,438>4e3,443>4ef,1e36>1e38,1e37>1e39,1e5a>1e5c,1e5b>1e5d",
    "306:41>102,45>114,47>11e,49>12c,4f>14e,55>16c,61>103,65>115,67>11f,69>12d,6f>14f,75>16d,228>1e1c,229>1e1d,391>1fb8,399>1fd8,3a5>1fe8,3b1>1fb0,3b9>1fd0,3c5>1fe0,410>4d0,415>4d6,416>4c1,418>419,423>40e,430>4d1,435>4d7,436>4c2,438>439,443>45e,1ea0>1eb6,1ea1>1eb7",
    "307:41>226,42>1e02,43>10a,44>1e0a,45>116,46>1e1e,47>120,48>1e22,49>130,4d>1e40,4e>1e44,4f>22e,50>1e56,52>1e58,53>1e60,54>1e6a,57>1e86,58>1e8a,59>1e8e,5a>17b,61>227,62>1e03,63>10b,64>1e0b,65>117,66>1e1f,67>121,68>1e23,6d>1e41,6e>1e45,6f>22f,70>1e57,72>1e59,73>1e61,74>1e6b,77>1e87,78>1e8b,79>1e8f,7a>17c,15a>1e64,15b>1e65,160>1e66,161>1e67,17f>1e9b,1e62>1e68,1e63>1e69",
    "308:41>c4,45>cb,48>1e26,49>cf,4f>d6,55>dc,57>1e84,58>1e8c,59>178,61>e4,65>eb,68>1e27,69>ef,6f>f6,74>1e97,75>fc,77>1e85,78>1e8d,79>ff,d5>1e4e,f5>1e4f,16a>1e7a,16b>1e7b,399>3aa,3a5>3ab,3b9>3ca,3c5>3cb,3d2>3d4,406>407,410>4d2,415>401,416>4dc,417>4de,418>4e4,41e>4e6,423>4f0,427>4f4,42b>4f8,42d>4ec,430>4d3,435>451,436>4dd,437>4df,438>4e5,43e>4e7,443>4f1,447>4f5,44b>4f9,44d>4ed,456>457,4d8>4da,4d9>4db,4e8>4ea,4e9>4eb",
    "309:41>1ea2,45>1eba,49>1ec8,4f>1ece,55>1ee6,59>1ef6,61>1ea3,65>1ebb,69>1ec9,6f>1ecf,75>1ee7,79>1ef7,c2>1ea8,ca>1ec2,d4>1ed4,e2>1ea9,ea>1ec3,f4>1ed5,102>1eb2,103>1eb3,1a0>1ede,1a1>1edf,1af>1eec,1b0>1eed",
    "30a:41>c5,55>16e,61>e5,75>16f,77>1e98,79>1e99",
    "30b:4f>150,55>170,6f>151,75>171,423>4f2,443>4f3",
    "30c:41>1cd,43>10c,44>10e,45>11a,47>1e6,48>21e,49>1cf,4b>1e8,4c>13d,4e>147,4f>1d1,52>158,53>160,54>164,55>1d3,5a>17d,61>1ce,63>10d,64>10f,65>11b,67>1e7,68>21f,69>1d0,6a>1f0,6b>1e9,6c>13e,6e>148,6f>1d2,72>159,73>161,74>165,75>1d4,7a>17e,dc>1d9,fc>1da,1b7>1ee,292>1ef",
    "30f:41>200,45>204,49>208,4f>20c,52>210,55>214,61>201,65>205,69>209,6f>20d,72>211,75>215,474>476,475>477",
    "311:41>202,45>206,49>20a,4f>20e,52>212,55>216,61>203,65>207,69>20b,6f>20f,72>213,75>217",
    "313:391>1f08,395>1f18,397>1f28,399>1f38,39f>1f48,3a9>1f68,3b1>1f00,3b5>1f10,3b7>1f20,3b9>1f30,3bf>1f40,3c1>1fe4,3c5>1f50,3c9>1f60",
    "314:391>1f09,395>1f19,397>1f29,399>1f39,39f>1f49,3a1>1fec,3a5>1f59,3a9>1f69,3b1>1f01,3b5>1f11,3b7>1f21,3b9>1f31,3bf>1f41,3c1>1fe5,3c5>1f51,3c9>1f61",
    "31b:4f>1a0,55>1af,6f>1a1,75>1b0",
    "323:41>1ea0,42>1e04,44>1e0c,45>1eb8,48>1e24,49>1eca,4b>1e32,4c>1e36,4d>1e42,4e>1e46,4f>1ecc,52>1e5a,53>1e62,54>1e6c,55>1ee4,56>1e7e,57>1e88,59>1ef4,5a>1e92,61>1ea1,62>1e05,64>1e0d,65>1eb9,68>1e25,69>1ecb,6b>1e33,6c>1e37,6d>1e43,6e>1e47,6f>1ecd,72>1e5b,73>1e63,74>1e6d,75>1ee5,76>1e7f,77>1e89,79>1ef5,7a>1e93,1a0>1ee2,1a1>1ee3,1af>1ef0,1b0>1ef1",
    "324:55>1e72,75>1e73 325:41>1e00,61>1e01 326:53>218,54>21a,73>219,74>21b",
    "327:43>c7,44>1e10,45>228,47>122,48>1e28,4b>136,4c>13b,4e>145,52>156,53>15e,54>162,63>e7,64>1e11,65>229,67>123,68>1e29,6b>137,6c>13c,6e>146,72>157,73>15f,74>163",
    "328:41>104,45>118,49>12e,4f>1ea,55>172,61>105,65>119,69>12f,6f>1eb,75>173",
    "32d:44>1e12,45>1e18,4c>1e3c,4e>1e4a,54>1e70,55>1e76,64>1e13,65>1e19,6c>1e3d,6e>1e4b,74>1e71,75>1e77",
    "32e:48>1e2a,68>1e2b 330:45>1e1a,49>1e2c,55>1e74,65>1e1b,69>1e2d,75>1e75",
    "331:42>1e06,44>1e0e,4b>1e34,4c>1e3a,4e>1e48,52>1e5e,54>1e6e,5a>1e94,62>1e07,64>1e0f,68>1e96,6b>1e35,6c>1e3b,6e>1e49,72>1e5f,74>1e6f,7a>1e95",
    "338:3c>226e,3d>2260,3e>226f,2190>219a,2192>219b,2194>21ae,21d0>21cd,21d2>21cf,21d4>21ce,2203>2204,2208>2209,220b>220c,2223>2224,2225>2226,223c>2241,2243>2244,2245>2247,2248>2249,224d>226d,2261>2262,2264>2270,2265>2271,2272>2274,2273>2275,2276>2278,2277>2279,227a>2280,227b>2281,227c>22e0,227d>22e1,2282>2284,2283>2285,2286>2288,2287>2289,2291>22e2,2292>22e3,22a2>22ac,22a8>22ad,22a9>22ae,22ab>22af,22b2>22ea,22b3>22eb,22b4>22ec,22b5>22ed",
    "342:a8>1fc1,3b1>1fb6,3b7>1fc6,3b9>1fd6,3c5>1fe6,3c9>1ff6,3ca>1fd7,3cb>1fe7,1f00>1f06,1f01>1f07,1f08>1f0e,1f09>1f0f,1f20>1f26,1f21>1f27,1f28>1f2e,1f29>1f2f,1f30>1f36,1f31>1f37,1f38>1f3e,1f39>1f3f,1f50>1f56,1f51>1f57,1f59>1f5f,1f60>1f66,1f61>1f67,1f68>1f6e,1f69>1f6f,1fbf>1fcf,1ffe>1fdf",
    "345:391>1fbc,397>1fcc,3a9>1ffc,3ac>1fb4,3ae>1fc4,3b1>1fb3,3b7>1fc3,3c9>1ff3,3ce>1ff4,1f00>1f80,1f01>1f81,1f02>1f82,1f03>1f83,1f04>1f84,1f05>1f85,1f06>1f86,1f07>1f87,1f08>1f88,1f09>1f89,1f0a>1f8a,1f0b>1f8b,1f0c>1f8c,1f0d>1f8d,1f0e>1f8e,1f0f>1f8f,1f20>1f90,1f21>1f91,1f22>1f92,1f23>1f93,1f24>1f94,1f25>1f95,1f26>1f96,1f27>1f97,1f28>1f98,1f29>1f99,1f2a>1f9a,1f2b>1f9b,1f2c>1f9c,1f2d>1f9d,1f2e>1f9e,1f2f>1f9f,1f60>1fa0,1f61>1fa1,1f62>1fa2,1f63>1fa3,1f64>1fa4,1f65>1fa5,1f66>1fa6,1f67>1fa7,1f68>1fa8,1f69>1fa9,1f6a>1faa,1f6b>1fab,1f6c>1fac,1f6d>1fad,1f6e>1fae,1f6f>1faf,1f70>1fb2,1f74>1fc2,1f7c>1ff2,1fb6>1fb7,1fc6>1fc7,1ff6>1ff7",
    "653:627>622 654:627>623,648>624,64a>626,6c1>6c2,6d2>6d3,6d5>6c0 655:627>625",
    "93c:928>929,930>931,933>934 9be:9c7>9cb 9d7:9c7>9cc b3e:b47>b4b b56:b47>b48 b57:b47>b4c",
    "bbe:bc6>bca,bc7>bcb bd7:b92>b94,bc6>bcc c56:c46>c48 cc2:cc6>cca",
    "cd5:cbf>cc0,cc6>cc7,cca>ccb cd6:cc6>cc8 d3e:d46>d4a,d47>d4b d57:d46>d4c",
    "dca:dd9>dda,ddc>ddd dcf:dd9>ddc ddf:dd9>dde 102e:1025>1026",
    "1b35:1b05>1b06,1b07>1b08,1b09>1b0a,1b0b>1b0c,1b0d>1b0e,1b11>1b12,1b3a>1b3b,1b3c>1b3d,1b3e>1b40,1b3f>1b41,1b42>1b43",
    "3099:3046>3094,304b>304c,304d>304e,304f>3050,3051>3052,3053>3054,3055>3056,3057>3058,3059>305a,305b>305c,305d>305e,305f>3060,3061>3062,3064>3065,3066>3067,3068>3069,306f>3070,3072>3073,3075>3076,3078>3079,307b>307c,309d>309e,30a6>30f4,30ab>30ac,30ad>30ae,30af>30b0,30b1>30b2,30b3>30b4,30b5>30b6,30b7>30b8,30b9>30ba,30bb>30bc,30bd>30be,30bf>30c0,30c1>30c2,30c4>30c5,30c6>30c7,30c8>30c9,30cf>30d0,30d2>30d3,30d5>30d6,30d8>30d9,30db>30dc,30ef>30f7,30f0>30f8,30f1>30f9,30f2>30fa,30fd>30fe",
    "309a:306f>3071,3072>3074,3075>3077,3078>307a,307b>307d,30cf>30d1,30d2>30d4,30d5>30d7,30d8>30da,30db>30dd",
    "110ba:11099>1109a,1109b>1109c,110a5>110ab 11127:11131>1112e,11132>1112f",
    "1133e:11347>1134b 11357:11347>1134c 114b0:114b9>114bc 114ba:114b9>114bb",
    "114bd:114b9>114be 115af:115b8>115ba,115b9>115bb 11930:11935>11938"]

/-- Characters that stand for one other character: runs "first-last>other". -/
def singletonTable : List String := [
    "340-341>300 343>313 374>2b9 37e>3b 387>b7 1f71>3ac 1f73>3ad 1f75>3ae 1f77>3af 1f79>3cc",
    "1f7b>3cd 1f7d>3ce 1fbb>386 1fbe>3b9 1fc9>388 1fcb>389 1fd3>390 1fdb>38a 1fe3>3b0",
    "1feb>38e 1fee>385 1fef>60 1ff9>38c 1ffb>38f 1ffd>b4 2000-2001>2002 2126>3a9 212a>4b",
    "212b>c5 2329-232a>3008 f900>8c48 f901>66f4 f902>8eca f903>8cc8 f904>6ed1 f905>4e32",
    "f906>53e5 f907>9f9c f908>9f9c f909>5951 f90a>91d1 f90b>5587 f90c>5948 f90d>61f6",
    "f90e>7669 f90f>7f85 f910>863f f911>87ba f912>88f8 f913>908f f914>6a02 f915>6d1b",
    "f916>70d9 f917>73de f918>843d f919>916a f91a>99f1 f91b>4e82 f91c>5375 f91d>6b04",
    "f91e>721b f91f>862d f920>9e1e f921>5d50 f922>6feb f923>85cd f924>8964 f925>62c9",
    "f926>81d8 f927>881f f928>5eca f929>6717 f92a>6d6a f92b>72fc f92c>90ce f92d>4f86",
    "f92e>51b7 f92f>52de f930>64c4 f931>6ad3 f932>7210 f933>76e7 f934>8001 f935>8606",
    "f936>865c f937>8def f938>9732 f939>9b6f f93a>9dfa f93b>788c f93c>797f f93d>7da0",
    "f93e>83c9 f93f>9304 f940>9e7f f941>8ad6 f942>58df f943>5f04 f944>7c60 f945>807e",
    "f946>7262 f947>78ca f948>8cc2 f949>96f7 f94a>58d8 f94b>5c62 f94c>6a13 f94d>6dda",
    "f94e>6f0f f94f>7d2f f950>7e37 f951>964b f952>52d2 f953>808b f954>51dc f955>51cc",
    "f956>7a1c f957>7dbe f958>83f1 f959>9675 f95a>8b80 f95b>62cf f95c>6a02 f95d>8afe",
    "f95e>4e39 f95f>5be7 f960>6012 f961>7387 f962>7570 f963>5317 f964>78fb f965>4fbf",
    "f966>5fa9 f967>4e0d f968>6ccc f969>6578 f96a>7d22 f96b>53c3 f96c>585e f96d>7701",
    "f96e>8449 f96f>8aaa f970>6bba f971>8fb0 f972>6c88 f973>62fe f974>82e5 f975>63a0",
    "f976>7565 f977>4eae f978>5169 f979>51c9 f97a>6881 f97b>7ce7 f97c>826f f97d>8ad2",
    "f97e>91cf f97f>52f5 f980>5442 f981>5973 f982>5eec f983>65c5 f984>6ffe f985>792a",
    "f986>95ad f987>9a6a f988>9e97 f989>9ece f98a>529b f98b>66c6 f98c>6b77 f98d>8f62",
    "f98e>5e74 f98f>6190 f990>6200 f991>649a f992>6f23 f993>7149 f994>7489 f995>79ca",
    "f996>7df4 f997>806f f998>8f26 f999>84ee f99a>9023 f99b>934a f99c>5217 f99d>52a3",
    "f99e>54bd f99f>70c8 f9a0>88c2 f9a1>8aaa f9a2>5ec9 f9a3>5ff5 f9a4>637b f9a5>6bae",
    "f9a6>7c3e f9a7>7375 f9a8>4ee4 f9a9>56f9 f9aa>5be7 f9ab>5dba f9ac>601c f9ad>73b2",
    "f9ae>7469 f9af>7f9a f9b0>8046 f9b1>9234 f9b2>96f6 f9b3>9748 f9b4>9818 f9b5>4f8b",
    "f9b6>79ae f9b7>91b4 f9b8>96b8 f9b9>60e1 f9ba>4e86 f9bb>50da f9bc>5bee f9bd>5c3f",
    "f9be>6599 f9bf>6a02 f9c0>71ce f9c1>7642 f9c2>84fc f9c3>907c f9c4>9f8d f9c5>6688",
    "f9c6>962e f9c7>5289 f9c8>677b f9c9>67f3 f9ca>6d41 f9cb>6e9c f9cc>7409 f9cd>7559",
    "f9ce>786b f9cf>7d10 f9d0>985e f9d1>516d f9d2>622e f9d3>9678 f9d4>502b f9d5>5d19",
    "f9d6>6dea f9d7>8f2a f9d8>5f8b f9d9>6144 f9da>6817 f9db>7387 f9dc>9686 f9dd>5229",
    "f9de>540f f9df>5c65 f9e0>6613 f9e1>674e f9e2>68a8 f9e3>6ce5 f9e4>7406 f9e5>75e2",
    "f9e6>7f79 f9e7>88cf f9e8>88e1 f9e9>91cc f9ea>96e2 f9eb>533f f9ec>6eba f9ed>541d",
    "f9ee>71d0 f9ef>7498 f9f0>85fa f9f1>96a3 f9f2>9c57 f9f3>9e9f f9f4>6797 f9f5>6dcb",
    "f9f6>81e8 f9f7>7acb f9f8>7b20 f9f9>7c92 f9fa>72c0 f9fb>7099 f9fc>8b58 f9fd>4ec0",
    "f9fe>8336 f9ff>523a fa00>5207 fa01>5ea6 fa02>62d3 fa03>7cd6 fa04>5b85 fa05>6d1e",
    "fa06>66b4 fa07>8f3b fa08>884c fa09>964d fa0a>898b fa0b>5ed3 fa0c>5140 fa0d>55c0",
    "fa10>585a fa12>6674 fa15>51de fa16>732a fa17>76ca fa18>793c fa19>795e fa1a>7965",
    "fa1b>798f fa1c>9756 fa1d>7cbe fa1e>7fbd fa20>8612 fa22>8af8 fa25>9038 fa26>90fd",
    "fa2a>98ef fa2b>98fc fa2c>9928 fa2d>9db4 fa2e>90de fa2f>96b7 fa30>4fae fa31>50e7",
    "fa32>514d fa33>52c9 fa34>52e4 fa35>5351 fa36>559d fa37>5606 fa38>5668 fa39>5840",
    "fa3a>58a8 fa3b>5c64 fa3c>5c6e fa3d>6094 fa3e>6168 fa3f>618e fa40>61f2 fa41>654f",
    "fa42>65e2 fa43>6691 fa44>6885 fa45>6d77 fa46>6e1a fa47>6f22 fa48>716e fa49>722b",
    "fa4a>7422 fa4b>7891 fa4c>793e fa4d>7949 fa4e>7948 fa4f>7950 fa50>7956 fa51>795d",
    "fa52-fa53>798d fa54>7a40 fa55>7a81 fa56>7bc0 fa57>7df4 fa58>7e09 fa59>7e41 fa5a>7f72",
    "fa5b>8005 fa5c>81ed fa5d>8279 fa5e>8279 fa5f>8457 fa60>8910 fa61>8996 fa62>8b01",
    "fa63>8b39 fa64>8cd3 fa65>8d08 fa66>8fb6 fa67>9038 fa68>96e3 fa69>97ff fa6a>983b",
    "fa6b>6075 fa6c>242ee fa6d>8218 fa70>4e26 fa71>51b5 fa72>5168 fa73>4f80 fa74>5145",
    "fa75>5180 fa76>52c7 fa77>52fa fa78>559d fa79>5555 fa7a>5599 fa7b>55e2 fa7c>585a",
    "fa7d>58b3 fa7e>5944 fa7f>5954 fa80>5a62 fa81>5b28 fa82>5ed2 fa83>5ed9 fa84>5f69",
    "fa85>5fad fa86>60d8 fa87>614e fa88>6108 fa89>618e fa8a>6160 fa8b>61f2 fa8c>6234",
    "fa8d>63c4 fa8e>641c fa8f>6452 fa90>6556 fa91>6674 fa92>6717 fa93>671b fa94>6756",
    "fa95>6b79 fa96>6bba fa97>6d41 fa98>6edb fa99>6ecb fa9a>6f22 fa9b>701e fa9c>716e",
    "fa9d>77a7 fa9e>7235 fa9f>72af faa0>732a faa1>7471 faa2>7506 faa3>753b faa4>761d",
    "faa5>761f faa6>76ca faa7>76db faa8>76f4 faa9>774a faaa>7740 faab>78cc faac>7ab1",
    "faad>7bc0 faae>7c7b faaf>7d5b fab0>7df4 fab1>7f3e fab2>8005 fab3>8352 fab4>83ef",
    "fab5>8779 fab6>8941 fab7>8986 fab8>8996 fab9>8abf faba>8af8 fabb>8acb fabc>8b01",
    "fabd>8afe fabe>8aed fabf>8b39 fac0>8b8a fac1>8d08 fac2>8f38 fac3>9072 fac4>9199",
    "fac5>9276 fac6>967c fac7>96e3 fac8>9756 fac9>97db faca>97ff facb>980b facc>983b",
    "facd>9b12 face>9f9c facf>2284a fad0>22844 fad1>233d5 fad2>3b9d fad3>4018 fad4>4039",
    "fad5>25249 fad6>25cd0 fad7>27ed3 fad8>9f43 fad9>9f8e 2f800>4e3d 2f801>4e38 2f802>4e41",
    "2f803>20122 2f804>4f60 2f805>4fae 2f806>4fbb 2f807>5002 2f808>507a 2f809>5099 2f80a>50e7",
    "2f80b>50cf 2f80c>349e 2f80d>2063a 2f80e>514d 2f80f>5154 2f810>5164 2f811>5177",
    "2f812>2051c 2f813>34b9 2f814>5167 2f815>518d 2f816>2054b 2f817>5197 2f818>51a4",
    "2f819>4ecc 2f81a>51ac 2f81b>51b5 2f81c>291df 2f81d>51f5 2f81e>5203 2f81f>34df 2f820>523b",
    "2f821>5246 2f822>5272 2f823>5277 2f824>3515 2f825>52c7 2f826>52c9 2f827>52e4 2f828>52fa",
    "2f829-2f82a>5305 2f82b>5317 2f82c>5349 2f82d>5351 2f82e>535a 2f82f>5373 2f830>537d",
    "2f831>537f 2f832>537f 2f833>537f 2f834>20a2c 2f835>7070 2f836>53ca 2f837>53df",
    "2f838>20b63 2f839>53eb 2f83a>53f1 2f83b>5406 2f83c>549e 2f83d>5438 2f83e>5448 2f83f>5468",
    "2f840>54a2 2f841>54f6 2f842>5510 2f843>5553 2f844>5563 2f845>5584 2f846>5584 2f847>5599",
    "2f848>55ab 2f849>55b3 2f84a>55c2 2f84b>5716 2f84c>5606 2f84d>5717 2f84e>5651 2f84f>5674",
    "2f850>5207 2f851>58ee 2f852>57ce 2f853>57f4 2f854>580d 2f855>578b 2f856>5832 2f857>5831",
    "2f858>58ac 2f859>214e4 2f85a>58f2 2f85b>58f7 2f85c>5906 2f85d>591a 2f85e>5922 2f85f>5962",
    "2f860>216a8 2f861>216ea 2f862>59ec 2f863>5a1b 2f864>5a27 2f865>59d8 2f866>5a66",
    "2f867>36ee 2f868>36fc 2f869>5b08 2f86a>5b3e 2f86b>5b3e 2f86c>219c8 2f86d>5bc3 2f86e>5bd8",
    "2f86f>5be7 2f870>5bf3 2f871>21b18 2f872>5bff 2f873>5c06 2f874>5f53 2f875>5c22 2f876>3781",
    "2f877>5c60 2f878>5c6e 2f879>5cc0 2f87a>5c8d 2f87b>21de4 2f87c>5d43 2f87d>21de6",
    "2f87e>5d6e 2f87f>5d6b 2f880>5d7c 2f881-2f882>5de1 2f883>382f 2f884>5dfd 2f885>5e28",
    "2f886>5e3d 2f887>5e69 2f888>3862 2f889>22183 2f88a>387c 2f88b>5eb0 2f88c>5eb3 2f88d>5eb6",
    "2f88e>5eca 2f88f>2a392 2f890>5efe 2f891>22331 2f892>22331 2f893>8201 2f894>5f22",
    "2f895>5f22 2f896>38c7 2f897>232b8 2f898>261da 2f899>5f62 2f89a>5f6b 2f89b>38e3",
    "2f89c>5f9a 2f89d>5fcd 2f89e>5fd7 2f89f>5ff9 2f8a0>6081 2f8a1>393a 2f8a2>391c 2f8a3>6094",
    "2f8a4>226d4 2f8a5>60c7 2f8a6>6148 2f8a7>614c 2f8a8>614e 2f8a9>614c 2f8aa>617a 2f8ab>618e",
    "2f8ac>61b2 2f8ad>61a4 2f8ae>61af 2f8af>61de 2f8b0>61f2 2f8b1>61f6 2f8b2>6210 2f8b3>621b",
    "2f8b4>625d 2f8b5>62b1 2f8b6>62d4 2f8b7>6350 2f8b8>22b0c 2f8b9>633d 2f8ba>62fc 2f8bb>6368",
    "2f8bc>6383 2f8bd>63e4 2f8be>22bf1 2f8bf>6422 2f8c0>63c5 2f8c1>63a9 2f8c2>3a2e 2f8c3>6469",
    "2f8c4>647e 2f8c5>649d 2f8c6>6477 2f8c7>3a6c 2f8c8>654f 2f8c9>656c 2f8ca>2300a 2f8cb>65e3",
    "2f8cc>66f8 2f8cd>6649 2f8ce>3b19 2f8cf>6691 2f8d0>3b08 2f8d1>3ae4 2f8d2>5192 2f8d3>5195",
    "2f8d4>6700 2f8d5>669c 2f8d6>80ad 2f8d7>43d9 2f8d8>6717 2f8d9>671b 2f8da>6721 2f8db>675e",
    "2f8dc>6753 2f8dd>233c3 2f8de>3b49 2f8df>67fa 2f8e0>6785 2f8e1>6852 2f8e2>6885",
    "2f8e3>2346d 2f8e4>688e 2f8e5>681f 2f8e6>6914 2f8e7>3b9d 2f8e8>6942 2f8e9>69a3 2f8ea>69ea",
    "2f8eb>6aa8 2f8ec>236a3 2f8ed>6adb 2f8ee>3c18 2f8ef>6b21 2f8f0>238a7 2f8f1>6b54",
    "2f8f2>3c4e 2f8f3>6b72 2f8f4>6b9f 2f8f5-2f8f6>6bba 2f8f7>23a8d 2f8f8>21d0b 2f8f9>23afa",
    "2f8fa>6c4e 2f8fb>23cbc 2f8fc>6cbf 2f8fd>6ccd 2f8fe>6c67 2f8ff>6d16 2f900>6d3e 2f901>6d77",
    "2f902>6d41 2f903>6d69 2f904>6d78 2f905>6d85 2f906>23d1e 2f907>6d34 2f908>6e2f 2f909>6e6e",
    "2f90a>3d33 2f90b>6ecb 2f90c>6ec7 2f90d>23ed1 2f90e>6df9 2f90f>6f6e 2f910>23f5e",
    "2f911>23f8e 2f912>6fc6 2f913>7039 2f914>701e 2f915>701b 2f916>3d96 2f917>704a 2f918>707d",
    "2f919>7077 2f91a>70ad 2f91b>20525 2f91c>7145 2f91d>24263 2f91e>719c 2f91f>243ab",
    "2f920>7228 2f921>7235 2f922>7250 2f923>24608 2f924>7280 2f925>7295 2f926>24735",
    "2f927>24814 2f928>737a 2f929>738b 2f92a>3eac 2f92b>73a5 2f92c>3eb8 2f92d>3eb8 2f92e>7447",
    "2f92f>745c 2f930>7471 2f931>7485 2f932>74ca 2f933>3f1b 2f934>7524 2f935>24c36 2f936>753e",
    "2f937>24c92 2f938>7570 2f939>2219f 2f93a>7610 2f93b>24fa1 2f93c>24fb8 2f93d>25044",
    "2f93e>3ffc 2f93f>4008 2f940>76f4 2f941>250f3 2f942>250f2 2f943>25119 2f944>25133",
    "2f945-2f946>771e 2f947>771f 2f948>774a 2f949>4039 2f94a>778b 2f94b>4046 2f94c>4096",
    "2f94d>2541d 2f94e>784e 2f94f>788c 2f950>78cc 2f951>40e3 2f952>25626 2f953>7956",
    "2f954>2569a 2f955>256c5 2f956>798f 2f957>79eb 2f958>412f 2f959>7a40 2f95a>7a4a",
    "2f95b>7a4f 2f95c>2597c 2f95d>25aa7 2f95e>25aa7 2f95f>7aee 2f960>4202 2f961>25bab",
    "2f962>7bc6 2f963>7bc9 2f964>4227 2f965>25c80 2f966>7cd2 2f967>42a0 2f968>7ce8 2f969>7ce3",
    "2f96a>7d00 2f96b>25f86 2f96c>7d63 2f96d>4301 2f96e>7dc7 2f96f>7e02 2f970>7e45 2f971>4334",
    "2f972>26228 2f973>26247 2f974>4359 2f975>262d9 2f976>7f7a 2f977>2633e 2f978>7f95",
    "2f979>7ffa 2f97a>8005 2f97b>264da 2f97c>26523 2f97d>8060 2f97e>265a8 2f97f>8070",
    "2f980>2335f 2f981>43d5 2f982>80b2 2f983>8103 2f984>440b 2f985>813e 2f986>5ab5",
    "2f987>267a7 2f988>267b5 2f989>23393 2f98a>2339c 2f98b>8201 2f98c>8204 2f98d>8f9e",
    "2f98e>446b 2f98f>8291 2f990>828b 2f991>829d 2f992>52b3 2f993>82b1 2f994>82b3 2f995>82bd",
    "2f996>82e6 2f997>26b3c 2f998>82e5 2f999>831d 2f99a>8363 2f99b>83ad 2f99c>8323 2f99d>83bd",
    "2f99e>83e7 2f99f>8457 2f9a0>8353 2f9a1>83ca 2f9a2>83cc 2f9a3>83dc 2f9a4>26c36",
    "2f9a5>26d6b 2f9a6>26cd5 2f9a7>452b 2f9a8>84f1 2f9a9>84f3 2f9aa>8516 2f9ab>273ca",
    "2f9ac>8564 2f9ad>26f2c 2f9ae>455d 2f9af>4561 2f9b0>26fb1 2f9b1>270d2 2f9b2>456b",
    "2f9b3>8650 2f9b4>865c 2f9b5>8667 2f9b6>8669 2f9b7>86a9 2f9b8>8688 2f9b9>870e 2f9ba>86e2",
    "2f9bb>8779 2f9bc>8728 2f9bd>876b 2f9be>8786 2f9bf>45d7 2f9c0>87e1 2f9c1>8801 2f9c2>45f9",
    "2f9c3>8860 2f9c4>8863 2f9c5>27667 2f9c6>88d7 2f9c7>88de 2f9c8>4635 2f9c9>88fa 2f9ca>34bb",
    "2f9cb>278ae 2f9cc>27966 2f9cd>46be 2f9ce>46c7 2f9cf>8aa0 2f9d0>8aed 2f9d1>8b8a",
    "2f9d2>8c55 2f9d3>27ca8 2f9d4>8cab 2f9d5>8cc1 2f9d6>8d1b 2f9d7>8d77 2f9d8>27f2f",
    "2f9d9>20804 2f9da>8dcb 2f9db>8dbc 2f9dc>8df0 2f9dd>208de 2f9de>8ed4 2f9df>8f38",
    "2f9e0>285d2 2f9e1>285ed 2f9e2>9094 2f9e3>90f1 2f9e4>9111 2f9e5>2872e 2f9e6>911b",
    "2f9e7>9238 2f9e8-2f9e9>92d7 2f9ea>927c 2f9eb>93f9 2f9ec>9415 2f9ed>28bfa 2f9ee>958b",
    "2f9ef>4995 2f9f0>95b7 2f9f1>28d77 2f9f2>49e6 2f9f3>96c3 2f9f4>5db2 2f9f5>9723",
    "2f9f6>29145 2f9f7>2921a 2f9f8>4a6e 2f9f9>4a76 2f9fa>97e0 2f9fb>2940a 2f9fc>4ab2",
    "2f9fd>29496 2f9fe>980b 2f9ff>980b 2fa00>9829 2fa01>295b6 2fa02>98e2 2fa03>4b33",
    "2fa04>9929 2fa05>99a7 2fa06>99c2 2fa07>99fe 2fa08>4bce 2fa09>29b30 2fa0a>9b12 2fa0b>9c40",
    "2fa0c>9cfd 2fa0d>4cce 2fa0e>4ced 2fa0f>9d67 2fa10>2a0ce 2fa11>4cf8 2fa12>2a105",
    "2fa13>2a20e 2fa14>2a291 2fa15>9ebb 2fa16>4d56 2fa17>9ef9 2fa18>9efe 2fa19>9f05",
    "2fa1a>9f0f 2fa1b>9f16 2fa1c>9f3b 2fa1d>2a600"]

/-- Characters that are taken apart and never put together again: "whole>first+second". -/
def exclusionTable : List String := [
    "344>308+301 958>915+93c 959>916+93c 95a>917+93c 95b>91c+93c 95c>921+93c 95d>922+93c",
    "95e>92b+93c 95f>92f+93c 9dc>9a1+9bc 9dd>9a2+9bc 9df>9af+9bc a33>a32+a3c a36>a38+a3c",
    "a59>a16+a3c a5a>a17+a3c a5b>a1c+a3c a5e>a2b+a3c b5c>b21+b3c b5d>b22+b3c f43>f42+fb7",
    "f4d>f4c+fb7 f52>f51+fb7 f57>f56+fb7 f5c>f5b+fb7 f69>f40+fb5 f73>f71+f72 f75>f71+f74",
    "f76>fb2+f80 f78>fb3+f80 f81>f71+f80 f93>f92+fb7 f9d>f9c+fb7 fa2>fa1+fb7 fa7>fa6+fb7",
    "fac>fab+fb7 fb9>f90+fb5 2adc>2add+338 fb1d>5d9+5b4 fb1f>5f2+5b7 fb2a>5e9+5c1",
    "fb2b>5e9+5c2 fb2c>fb49+5c1 fb2d>fb49+5c2 fb2e>5d0+5b7 fb2f>5d0+5b8 fb30>5d0+5bc",
    "fb31>5d1+5bc fb32>5d2+5bc fb33>5d3+5bc fb34>5d4+5bc fb35>5d5+5bc fb36>5d6+5bc",
    "fb38>5d8+5bc fb39>5d9+5bc fb3a>5da+5bc fb3b>5db+5bc fb3c>5dc+5bc fb3e>5de+5bc",
    "fb40>5e0+5bc fb41>5e1+5bc fb43>5e3+5bc fb44>5e4+5bc fb46>5e6+5bc fb47>5e7+5bc",
    "fb48>5e8+5bc fb49>5e9+5bc fb4a>5ea+5bc fb4b>5d5+5b9 fb4c>5d1+5bf fb4d>5db+5bf",
    "fb4e>5e4+5bf 1d15e>1d157+1d165 1d15f>1d158+1d165 1d160>1d15f+1d16e 1d161>1d15f+1d16f",
    "1d162>1d15f+1d170 1d163>1d15f+1d171 1d164>1d15f+1d172 1d1bb>1d1b9+1d165",
    "1d1bc>1d1ba+1d165 1d1bd>1d1bb+1d16e 1d1be>1d1bc+1d16e 1d1bf>1d1bb+1d16f",
    "1d1c0>1d1bc+1d16f"]

/-- The words of a table. -/
def tableWords (table : List String) : List (List Char) :=
  table.flatMap fun line => pieces ' ' line.toList

/-- Two parts of a word, around a separator. -/
def twoParts (sep : Char) (cs : List Char) : List Char × List Char := (cut? sep cs).getD (cs, [])

/-- First part, second part and whole of every composition. -/
def compositions : List (Nat × Nat × Nat) :=
  (tableWords compositionTable).flatMap fun word =>
    let (second, rest) := twoParts ':' word
    (pieces ',' rest).map fun entry =>
      let (first, whole) := twoParts '>' entry
      (readHex first, readHex second, readHex whole)

/-- Ends of a run, and what its first character stands for. -/
def singletons : List ((Nat × Nat) × Nat) :=
  (tableWords singletonTable).map fun word =>
    let (run, other) := twoParts '>' word
    (CodeSet.readInterval run, readHex other)

/-- Whole and parts of the characters that are not put together again. -/
def exclusions : List (Nat × List Nat) :=
  (tableWords exclusionTable).map fun word =>
    let (whole, parts) := twoParts '>' word
    (readHex whole, (pieces '+' parts).map readHex)

/-! ## Korean syllables -/

/-- The first syllable, and the number of syllables. -/
def syllableStart : Nat := 0xac00

/-- The number of syllables. -/
def syllableCount : Nat := 11172

/-- The parts of a syllable: the beginning, the vowel, and an end unless there is none. -/
def syllablePartsOf (n : Nat) : List Nat :=
  let i := n - syllableStart
  let ending := i % 28
  [0x1100 + i / 588, 0x1161 + i % 588 / 28] ++ if ending = 0 then [] else [0x11a7 + ending]

/-- The syllable of two parts, if they make up one. -/
def syllableOf? (a b : Nat) : Option Nat :=
  if 0x1100 ≤ a ∧ a < 0x1113 ∧ 0x1161 ≤ b ∧ b < 0x1176 then
    some (syllableStart + ((a - 0x1100) * 21 + (b - 0x1161)) * 28)
  else if syllableStart ≤ a ∧ a < syllableStart + syllableCount ∧ (a - syllableStart) % 28 = 0 ∧
      0x11a7 < b ∧ b < 0x11c3 then some (a + (b - 0x11a7))
  else none

/-! ## Taking apart, ordering, putting together -/

/-- The parts of one character, if it has any. -/
def parts? (n : Nat) : Option (List Nat) :=
  if n < 0xc0 then none
  else if syllableStart ≤ n ∧ n < syllableStart + syllableCount then some (syllablePartsOf n)
  else match compositions.find? fun (_, _, whole) => whole == n with
    | some (first, second, _) => some [first, second]
    | none => match singletons.find? fun ((lo, hi), _) => lo ≤ n && n ≤ hi with
      | some ((lo, _), other) => some [other + (n - lo)]
      | none => exclusions.lookup n

/-- Takes a character apart, its parts too, to a depth that is enough for all characters. -/
def takeApart : (depth : Nat) → Nat → List Nat
  | 0, n => [n]
  | depth + 1, n =>
    match parts? n with
    | some parts => parts.flatMap (takeApart depth)
    | none => [n]

/-- Puts a mark into its place behind a text that is given last character first: before the marks of
higher classes. -/
def putMark (n : Nat) : List Nat → List Nat
  | [] => [n]
  | m :: rest =>
    if combiningClass n ≠ 0 && combiningClass n < combiningClass m then m :: putMark n rest
    else n :: m :: rest

/-- A text with its marks in order. -/
def ordered (ns : List Nat) : List Nat := (ns.foldl (fun text n => putMark n text) []).reverse

/-- What two characters are put together to. -/
def whole? (a b : Nat) : Option Nat :=
  match syllableOf? a b with
  | some n => some n
  | none =>
    (compositions.find? fun (first, second, _) => first == a && second == b).map fun (_, _, n) => n

/-- A text that is being put together: what is finished, the last character that can take marks, and
the marks behind it that it did not take, both last first. -/
structure Composing where
  finished : List Nat := []
  base : Option Nat := none
  marks : List Nat := []

/-- Adds a character, or puts it together with the base if no mark stands between them that hides
it. -/
def Composing.add (s : Composing) (n : Nat) : Composing :=
  let k := combiningClass n
  let open_ := match s.marks with
    | [] => true
    | m :: _ => combiningClass m < k && combiningClass m != 0
  match if open_ then s.base.bind (whole? · n) else none with
  | some whole => { s with base := some whole }
  | none =>
    if k = 0 then { finished := s.marks ++ s.base.toList ++ s.finished, base := some n }
    else { s with marks := n :: s.marks }

/-- The text that was put together. -/
def Composing.text (s : Composing) : List Nat :=
  (s.marks ++ s.base.toList ++ s.finished).reverse

/-- The composed form of a text given by its code points. -/
def composedCodes (ns : List Nat) : List Nat :=
  ((ordered (ns.flatMap (takeApart 5))).foldl Composing.add {}).text

/-- The composed form of a text. -/
def composed (cs : List Char) : List Char :=
  if cs.all fun c => c.toNat < 0xc0 then cs
  else (composedCodes (cs.map Char.toNat)).map Char.ofNat

end PayloadCheck.Text
