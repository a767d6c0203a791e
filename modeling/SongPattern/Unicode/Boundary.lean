import SongPattern.Unicode.Packed

namespace SongPattern.Unicode

/-- What a character is to the boundaries between grapheme clusters, in version 16. Characters that
are nothing special to them have no class. -/
def graphemeClasses : List (List String × List String) :=
  [(["cr"],
    ["D0"]),
   (["cn", "control"],
    ["09111H_2W1D0kh10nl40y_1021O6n1Flqt10m7BqXDFWZY13lc57bqhOVW3_3m7lm3"]),
   (["ex", "extend"],
    ["WOl3p86d8i110111110e2Am1KG0b36252113Z10UQx2Aw1890O3181214h12x18g1N1Vt1010474036A1T0w1010",
     "238090A1Q021v1041412230U130B1v10441140K1M510w1011138072A1U0x1010C090e1030t1012521371B1T0",
     "w102110321371B1S1v1110238090A1T0e2040221080n2026C7Y3028B6f21R01010t1D14115A1Z190c3315112",
     "1P142G3D02160F0_L2oT3S2T1U1W2116802A90j1210r31Y10s32419062x6120w10161010276920m1Un13m194",
     "2c18C1W1325u10113014u1721u421C16406031c6_1iG0Z6W1-_22j40W3VgH5f31qkT319W11m21m803040P150",
     "t41QHD0c17PA10i12m10232120a10Z252121C080l10p1012215110g1180k702040mvJ0XNFGFkB1zI0Y70r44c",
     "q121153e1240b51zH3X24z91l23c2An13x30s1Ef1021A2n132170z12a1417-10C1q18108320_22236020z403",
     "7L1v111010C090E634Z20251020124210E1r272210N0n202510201111h70236111R1r272011g301027b30102",
     "314Z8811r70A340m432140W19e1523809522k1C11sC61510o2L261111w3530111610e213010xA1B1q1452N0b",
     "d506EecBB32Wk24x16uW10_13n20B1hbJ1Xp4j12M-G4358726U3q42xz1s14n180E0M41Emg161G261114a30W5",
     "6tB0z13yF3-71WN6j36mr24WXZO_2W4l7"]),
   (["l"],
    ["We4_2WWc1S"]),
   (["lf"],
    ["A0"]),
   (["lv"],
    ["WWh10R0R0R0R0R0R0R0R0R0R0R0R0R0R0R0R0R0R0R0R0R0R0R0R0R0R0R0R0R0R0R0R0R0R0R0R0R0R0R0R0R0R",
     "0R0R0R0R0R0R0R0R0R0R0R0R0R0R0R0R0R0R0R0R0R0R0R0R0R0R0R0R0R0R0R0R0R0R0R0R0R0R0R0R0R0R0R0R",
     "0R0R0R0R0R0R0R0R0R0R0R0R0R0R0R0R0R0R0R0R0R0R0R0R0R0R0R0R0R0R0R0R0R0R0R0R0R0R0R0R0R0R0R0R",
     "0R0R0R0R0R0R0R0R0R0R0R0R0R0R0R0R0R0R0R0R0R0R0R0R0R0R0R0R0R0R0R0R0R0R0R0R0R0R0R0R0R0R0R0R",
     "0R0R0R0R0R0R0R0R0R0R0R0R0R0R0R0R0R0R0R0R0R0R0R0R0R0R0R0R0R0R0R0R0R0R0R0R0R0R0R0R0R0R0R0R",
     "0R0R0R0R0R0R0R0R0R0R0R0R0R0R0R0R0R0R0R0R0R0R0R0R0R0R0R0R0R0R0R0R0R0R0R0R0R0R0R0R0R0R0R0R",
     "0R0R0R0R0R0R0R0R0R0R0R0R0R0R0R0R0R0R0R0R0R0R0R0R0R0R0R0R0R0R0R0R0R0R0R0R0R0R0R0R0R0R0R0R",
     "0R0R0R0R0R0R0R0R0R0R0R0R0R0R0R0R0R0R0R0R0R0R0R0R0R0R0R0R0R0R0R0R0R0R0R0R0R0R0R0R0R0R0R0R",
     "0R0R0R0R0R0R0R0R0R0R0R0R0R0R0R0R0R0R0R0R0R0R0R0R0R0R0R0R0R0R0R0R0R0R0R0R0R0R0R0R0R0R0R0R",
     "0R0R0R0R0"]),
   (["lvt"],
    ["XWh1Q1Q1Q1Q1Q1Q1Q1Q1Q1Q1Q1Q1Q1Q1Q1Q1Q1Q1Q1Q1Q1Q1Q1Q1Q1Q1Q1Q1Q1Q1Q1Q1Q1Q1Q1Q1Q1Q1Q1Q1Q1Q1",
     "Q1Q1Q1Q1Q1Q1Q1Q1Q1Q1Q1Q1Q1Q1Q1Q1Q1Q1Q1Q1Q1Q1Q1Q1Q1Q1Q1Q1Q1Q1Q1Q1Q1Q1Q1Q1Q1Q1Q1Q1Q1Q1Q1Q1",
     "Q1Q1Q1Q1Q1Q1Q1Q1Q1Q1Q1Q1Q1Q1Q1Q1Q1Q1Q1Q1Q1Q1Q1Q1Q1Q1Q1Q1Q1Q1Q1Q1Q1Q1Q1Q1Q1Q1Q1Q1Q1Q1Q1Q1",
     "Q1Q1Q1Q1Q1Q1Q1Q1Q1Q1Q1Q1Q1Q1Q1Q1Q1Q1Q1Q1Q1Q1Q1Q1Q1Q1Q1Q1Q1Q1Q1Q1Q1Q1Q1Q1Q1Q1Q1Q1Q1Q1Q1Q1",
     "Q1Q1Q1Q1Q1Q1Q1Q1Q1Q1Q1Q1Q1Q1Q1Q1Q1Q1Q1Q1Q1Q1Q1Q1Q1Q1Q1Q1Q1Q1Q1Q1Q1Q1Q1Q1Q1Q1Q1Q1Q1Q1Q1Q1",
     "Q1Q1Q1Q1Q1Q1Q1Q1Q1Q1Q1Q1Q1Q1Q1Q1Q1Q1Q1Q1Q1Q1Q1Q1Q1Q1Q1Q1Q1Q1Q1Q1Q1Q1Q1Q1Q1Q1Q1Q1Q1Q1Q1Q1",
     "Q1Q1Q1Q1Q1Q1Q1Q1Q1Q1Q1Q1Q1Q1Q1Q1Q1Q1Q1Q1Q1Q1Q1Q1Q1Q1Q1Q1Q1Q1Q1Q1Q1Q1Q1Q1Q1Q1Q1Q1Q1Q1Q1Q1",
     "Q1Q1Q1Q1Q1Q1Q1Q1Q1Q1Q1Q1Q1Q1Q1Q1Q1Q1Q1Q1Q1Q1Q1Q1Q1Q1Q1Q1Q1Q1Q1Q1Q1Q1Q1Q1Q1Q1Q1Q1Q1Q1Q1Q1",
     "Q1Q1Q1Q1Q1Q1Q1Q1Q1Q1Q1Q1Q1Q1Q1Q1Q1Q1Q1Q1Q1Q1Q1Q1Q1Q1Q1Q1Q1Q1Q1Q1Q1Q1Q1Q1Q1Q1Q1Q1Q1Q1Q1Q1",
     "Q1Q1Q1Q1Q"]),
   (["pp", "prepend"],
    ["Wm15t60n10WC1m20hZ10kxW20F0q71jG0jh1010u70f25yL0xD0"]),
   (["ri", "regionalindicator"],
    ["cly3P"]),
   (["sm", "spacingmark"],
    ["Ze20t10228311o11x116121s10w12Y20w128011r11y106121o30113212q12z13z11w102011k10E1x115212r1",
     "1i2166J1_10_30g41_10n5091P1i10nv107711wA3224115W71w1010L5n40v13W20U041_102210r1781h50L0h",
     "vY1120u21o1Fk40m10m114121l3121O0z402150j71111110pWP010_30j1241p30O1x10m1290E0z2231i52V1x",
     "10132121L1r21F011d328130h3160111020k716320n328110j3011k3070b8290u74117010k428340q20T1-10",
     "tC0E0g307020r644110-A1C0m1181glG2an3s1"]),
   (["t"],
    ["ej4t2hkn1m1"]),
   (["v"],
    ["Wh4d2emn1Myib1033"]),
   (["zwj"],
    ["jW80"])]

/-- What a character is to the boundaries between words, in version 16. -/
def wordClasses : List (List String × List String) :=
  [(["le", "aletter"],
    ["X2P6Pl10A020105M1U1_E6X1m341123106012101J1o21g48b51b123101e110e30i1g1Z111Y310F171A220F11",
     "TTu2B0OW191405L409030NO7A5N15Hf1w1r130I079FF47212L16103330G0D112E1A085412L16111111V310J2",
     "G8121L16111430I0F1N0B7212L16111430U112F0H015321331101131323BM0q17121M1F30Q22021U047121M1",
     "91430V111F1H8121e120G05282O55H3N181026v90_171Z1R4p8b110502g11iA132610132e1132W1132610132",
     "E1u1132Y2b1FGr2253hJ2G1P5g23A7HDIEHEC12l5u2742X1105b2AUX7Mk7k1H7s1TD1Ah1QZ1f12AZ12A5g122",
     "f131511305_5W2r8252b125271010101U2q11610321633254C5216q30D0GCb3040291034601010131A235440",
     "He1jPp1su1a76331Cb110502t170GM9616161616161616m20rE0r11e6g11z2HVWoRia1Z2j12i83FA1Kk1GU2l",
     "2Ob6211017LF12131MTp1En1-153011BRAMPS7k1S0m1e1N217q4A72C5252596161v16o3TZzACM4m1au86C4u1",
     "X3X1gBI_12r1e1Bq341c4a1P6Pb2U35252522Z1B1P1I111E2DY1w3b2q1h8S3m1l1VDT5b1AT2Z14714g1z4IZ1",
     "4Z14d18p1CA1E16111A1E16113p1Cs99LA7O51f118b25201h111302MAM9UX2I11ALAPc2t161W20F3121Sg1S3",
     "SZ171RRr1ALAIDHk3e2t1o1Do1DZ1c1R9Mw7f161G2x1SA08Lg1Hk1KRMCq1v1120Di1W1OQZ1T0208Y130Cl1E3",
     "L010Z1H1OJ1_1610131E197k1c17212L16111430I0C4U910201b110P010i1q1I3K2Ul1K110u5k1f13a1l1K0x",
     "1g1D0dAh1q3_1V72027111NF010-272c1G010S0Ad170L0Bj1J0Ie2d6W1V81a1H0n1Tm36111b1L0P5111VE0dA",
     "IF01C1X1y30l2vSc3k3HZ6io2W3FlX1H5Pwy35cIvr6TYt1uH7UHk2HTIl1G3VK5ImDi1p6_1W4g250Y2CW2110y",
     "WJg35C3879cx5q21c2112021231B10161W21327161R131410361pA2O1O1U1O1U1O1U1O1U1O17qv1U65b8z1o4",
     "i1A6G0XATIh1aFRa7T20lF613111E1a6x1Z270qb131Q11102019131010604010101211102010101010111023",
     "16131310191G52141GqJP6P6P"]),
   (["cr"],
    ["D0"]),
   (["dq", "doublequote"],
    ["Y10"]),
   (["extend"],
    ["WOl3p86d8i110111110e2Am1KG0b36252113Z10UQx2Aw1890O3181214h12x18g1N1W1s121H16A1T2u1016212",
     "290A1Q022u1014412230U130B2u10171212K1M512u1016212272A1U0x14321390e14t1016121371B1T2u1016",
     "121371B1F0C3t1116121390A1T2c20451017I1z1026C7Y3028B6f21R0101041n1J115A1Z190a3JN342122633",
     "DB10A3_L2oT3S2T1U1W2V90j1210r31Y10s3B4Bx64v191S20m1Un14l1Gc18C2UCu1Dm1Ju421K406022c6_1iG",
     "0Z6W1-_22j40W3VgH5f31qkT319W11m21m803040N440p21o1HQHD0c17PCi13l1Da10Z2DC081j12o101221511",
     "0f1451i7711mvJ0XNFGFkB1zI0Y70r44cq121153e1240b51zH3X24z91l23c2An13w32r1Ef1021A3j1A70z12a",
     "1DG1i10C2m1D8311y2B6020z4BL3t1116212290A12634Z281020131410E1o2HN0n2Jh7628R1o2Gg3Cb3EW8Er",
     "7511231011j462630S9e1613809Ak1FrC717o2L1Dw3530111610Y241114xA39110m1634N0bd506EecBHWk24x",
     "16uW101s173n20B1hbJ1Xp4j12M-G4358726U3q42xz1s14n180E0M41Emg161G261114a30W56tB0z13yF3-71W",
     "N6j36mr24WXZO_2W4l7"]),
   (["ex", "extendnumlet"],
    ["_20l-70F1J0-kt11O2l70"]),
   (["fo", "format"],
    ["j50kh10nl40__11Q4n1419lqt10v72qXDFWZY13lc57cqhO0"]),
   (["hl", "hebrewletter"],
    ["mk1Q43gfz10191C1410111119"]),
   (["ka", "katakana"],
    ["nXC4b313w213m7Fm6k11t2kWp1t1oYi13161110_82o10E3"]),
   (["lf"],
    ["A0"]),
   (["ml", "midletter"],
    ["w10y30lM0tE0q40on60hlt10X20a60"]),
   (["mn", "midnum"],
    ["i10E0YQ0gG0Y41-20hC0hY60hmt1030t50E0"]),
   (["mb", "midnumlet"],
    ["k10f_71A0jnt10q5060"]),
   (["nl", "newline"],
    ["B1u30Yz71"]),
   (["nu", "numeric"],
    ["m19ck15w2910n30I9c69c61m20Z49s39s39s39s39s39s39s39s39s39W39s39c29s89c29cw19c19i99W4Ab596",
     "9s59s29c4969ckY19cL9c19c69M9s29sC9suK9ci19ca2969yO9j20F0Y19y19m49s89sA9s39sB9c396Ji29cD9",
     "c39sK9s29s79c29cD9skG9cf29s29c49sG9sxN9qs2n1Wg29cD9sF9t79rQ9sq49"]),
   (["ri", "regionalindicator"],
    ["cly3P"]),
   (["sq", "singlequote"],
    ["d10"]),
   (["wsegspace"],
    ["W10_o50_h2612q20Wz30"]),
   (["zwj"],
    ["jW80"])]

/-- What a character is to the boundaries between sentences, in version 16. -/
def sentenceClasses : List (List String × List String) :=
  [(["at", "aterm"],
    ["k10r_70jnt10x50"]),
   (["cr"],
    ["D0"]),
   (["cl", "close"],
    ["Y1042n1010T010j10F0-p33zw11xh27P1A1s11E1vJ3T1mX157Dl21V9pCL_13W11YW1DE129O0I7hD92712-ep1",
     "1t61SF21G5f51n1010T0101111ouz12"]),
   (["ex", "extend"],
    ["WOl3p86d8i110111110e2Am1KG0b36252113Z10UQx2Aw1890O3181214h12x18g1N1W1s121H16A1T2u1016212",
     "290A1Q022u1014412230U130B2u10171212K1M512u1016212272A1U0x14321390e14t1016121371B1T2u1016",
     "121371B1F0C3t1116121390A1T2c20451017I1z1026C7Y3028B6f21R0101041n1J115A1Z190a3JN342122633",
     "DB10A3_L2oT3S2T1U1W2V90j1210r31Y10s3B4Bx64v191S20m1Un14l1Gc18C2UCu1Dm1Ju421K406022c6_1iG",
     "1Y6W1-_22j40W3VgH5f31qkT319W11m21m803040N440p21o1HQHD0c17PCi13l1Da10Z2DC081j12o101221511",
     "0f1451i7711mvJ0XNFGFkB1zI0Y70r44cq121153e1240b51zH3X24z91l23c2An13w32r1Ef1021A3j1A70z12a",
     "1DG1i10C2m1D8311y2B6020z4BL3t1116212290A12634Z281020131410E1o2HN0n2Jh7628R1o2Gg3Cb3EW8Er",
     "7511231011j462630S9e1613809Ak1FrC717o2L1Dw3530111610Y241114xA39110m1634N0bd506EecBHWk24x",
     "16uW101s173n20B1hbJ1Xp4j12M-G4358726U3q42xz1s14n180E0M41Emg161G261114a30W56tB0z13yF3-71W",
     "N6j36rsbO_2W4l7"]),
   (["fo", "format"],
    ["j50kh10o70-d40y_1021Q4n1419lqt10v72qXDFWZY13lc57cqhO0"]),
   (["lf"],
    ["A0"]),
   (["lo", "lower"],
    ["X3Pl10A040a1N171010101010101010101010101010101010101010101010101010101110101010101010111",
     "0101010101010101010101010101010101010101010102010122010203140203220201010201110203010212",
     "2602020101010101010101110101010101010101120103010101010101010101010101010101010101010101",
     "01010101010101016202110401010101a21Z171U4i40103023I0RY1113210101010101010101010101410202",
     "1p1l110101010101010101010101010101010109010101010101010101010101010101010101010101010101",
     "0101020101010101011101010101010101010101010101010101010101010101010101010101010101010101",
     "010101010101010101010101010m1e1px20xN5Ya2810r3_5X201010101010101010101010101010101010101",
     "0101010101010101010101010101010101010101010101010101010101010101010101010101010101010101",
     "0101010101010101010101810101010101010101010101010101010101010101010101010101010101010101",
     "01010101010101010101010101010101885A78785A7878D2787878411603211832187A211v30D0GCj303130R",
     "04040218340X1F40hQPcw1l11031101010401117301010101010101010101010101010101010101010101010",
     "1010101010101010101010101010101010101010101010101011701040Cb11050peU01010101010101010101",
     "0101010101010101010101010J010101010101010101010101012b4010101010101210101010101010101010",
     "1010101010101010101010101010101010101010191010201010101040102012101010101010101010105050",
     "10101010101010401020301010101010M21012rPg11D6l2WwJ6C4fX1Pjc1d1e4Z1x4A1E1611ZE0221f118be1",
     "o1z3Lwv2VWiLVwiPPQ61HQPQ310161AQPQPQPQPQPQPQPQPQRSO15QO15QO15QO15QO1510qv191J65b8z1qb2X1"]),
   (["nu", "numeric"],
    ["m19ck15w2911m30I9c69c61m20Z49s39s39s39s39s39s39s39s39s39W39s39c29s89c29cw19c19i99W4Ab596",
     "9s59s29c4969ckY19cL9c19c69M9s29sC9suK9ci19ca2969yO9j20F0Y19y19m49s89sA9s39sB9c396Ji29cD9",
     "c39sK9s29s79c29cD9skG9cf29s29c49sG9sxN9qs2n1Wg29cD9sF9t79rQ9sq49"]),
   (["le", "oletter"],
    ["xD043m60a166BQ010b40aF0s3Q44i1g1Z111Y310F171A220G01TTu2B0OW191405L409030NO7A5N15Hf1w1r13",
     "0I079FF47212L16103330G0D112E1A085412L16111111V310J2G8121L16111430I0F1N0B7212L16111430U11",
     "2F0H015321331101131323BM0q17121M1F30Q22021U047121M191430V111F1H8121e120G05282O55H3N18102",
     "6w1l111C6w1110141N101911902410L3W10_171Z1R4p3g1K0G5433031724CC0X2g12hA132610132e1132W113",
     "2610132E1u1132Y2b1Fn3hJ2G1P5g23A7HDIEHEC12Fp1Z1040Z2u2742X1105b2AUn1T24Bh14Ps1M9q1o20z2k",
     "1H7s1TD1Ah1QZ1f12AZ1Ig122f13151130wX13d2223dz2t170GM9616161616161616m20rE2P874244r2621v2",
     "135g11z2HVm1FWG_j6W2iqLZ2j12i83FA1Y20G0W1l2d18e3060d303612131MTp1En1-153011BRAMPS7k1S0G4",
     "19A41e1N217KM303n11031242010O22A72C525259616n4Y1TZzACM4m1ae8jB2f3Z20191C141011111h3X1gBI",
     "_12r1e1Bq341c4f3t12U35252522Z1B1P1I111E2DY1w3b2q1h8S3m1l1VDT5b1AT2Z14714w3j2Y3d18p1y2p1C",
     "s99LA7P1z35201h111302MAM9UX2I11ALAPc2t161W20F3121Sg1S3SZ171RRr1ALAIDHk3e2t5Z1c15V0m8f161",
     "G2x1SA08Lg1Hk1KRMCq1v1120Di1W1OQZ1T0208Y130Cl1E3L010Z1H1OJ1_1610131E197k1c17212L16111430",
     "I0C4U910201b110P010i1q1I3K2Ul1K110u5k1f13a1l1K0x1g1D0d2Qb16v5h1p672027111NF010-272c1G010",
     "S0Ad170L0Bj1J0Ie2d6W1V81a1H0n1Tm36111b1L0P5111VE0dAIF01C1X1y30l2vSc3k3HZ6io2W3FlX1H5Pwy3",
     "5cIvr6TYt1uH7UHk2HTIl1G3VK5ImDi1pCg250Y2CW2110St_58rc1f19dt8316111Y9F0T220E38hCae2g35C38",
     "79mp80rFi1A6G0XATIh1aFRa7T20lF613111E1a6c40qb131Q111020191310106040101012111020101010101",
     "1102316131310191G52141Gag4_sf1W1vX46z62Xq5Emf7FjJYj2zGYl1gw45_Y4"]),
   (["sc", "scontinue"],
    ["i11C1YQ0-E0k51gF0fW4050gW21i_30kmp1111S1T12120A0e51C1e20"]),
   (["st", "sterm"],
    ["X10T0fg10p42q50h12s70z101031b91at11sO041bO0c61z41j1050w91YB3Y51A121T2x51X21yT192lb32o90D",
     "0M1jD0ydT0k81Z7030-B1s21_20u41p42m41v70cnK021_11f50T0X20qt21zd14i13z51r33_32X4160G1u2111",
     "i30g91r31rB15Ef31v72bG010x71t21aD1qL1g21fvI1b40X21B0fH1e90cmJ0el70"]),
   (["se", "sep"],
    ["b40Yz71"]),
   (["sp"],
    ["9011J0_30_k50_h2Aa10l10Wz30"]),
   (["up", "upper"],
    ["X2Pb3M16X1010101010101010101010101010101010101010101010101010101020101010101010102010101",
     "0101010101010101010101010101010101010101110103110111223111231111010111020111210113071111",
     "1101010101010101020101010101010101021101210101010101010101010101010101010101010101010101",
     "010101010107111201310101010X90103080601210111G18Z10223010101010101010101010105020112o1m1",
     "0101010101010101010101010101010109010101010101010101010101010101010101010101010101010101",
     "1101010101010201010101010101010101010101010101010101010101010101010101010101010101010101",
     "0101010101010101010102b1fw2b11050oMr2pa20sB010101010101010101010101010101010101010101010",
     "1010101010101010101010101010101010101010101010101010101010101010101010101010101010101010",
     "1010101010101010901010101010101010101010101010101010101010101010101010101010101010101010",
     "101010101010101010101010109785A78785B010101087O7878784B4B3C4B4b8040322220346010101323A15",
     "0QFJ0oPPmv1l1m10122010101310208210101010101010101010101010101010101010101010101010101010",
     "101010101010101010101010101010101010101010801040jgU0101010101010101010101010101010101010",
     "10101010J010101010101010101010101010d401010101010103010101010101010101010101010101010101",
     "0101010101010101010101010A01011101010104010201030101010101010101010141410101010101010131",
     "0113050101010O0hvLPbc1d1e4Z1y4A1E1611gt1o1z4Lwv2VWiLVWjPPQPQPQ01120212317QPQ1132716R1131",
     "41036RPQPQPQPQPQPUOX1OX1OX1OX1OX10rf4X1kW2P6P6P"])]

end SongPattern.Unicode
