import SongPattern.Text.Blank
import SongPattern.Unicode.Packed

namespace SongPattern.Unicode

/-- The yes-or-no properties of version 16 under their names, in loose spelling. -/
def properties : List (List String × List String) :=
  [(["ahex", "asciihexdigit"],
    ["m1975Q5"]),
   (["alpha", "alphabetic"],
    ["X2P6Pl10A0405M1U1fE4BE47010s20TH1123106012101J1o21g48b51b1206e1d1D101111108Q43TA5t116Eb3",
     "174742A220Gl1Da3OW191405N2IJO7A5N15808f1AB366h21F124EDI17212L16103337212110804114C1A0421",
     "5412L16111111444121407310H5B218121L16111438121130F3L34217212L161114372121914114D0G115321",
     "331101131323B4432123060e1C121M1F37121281122023S317121M1914371212816113D2CC121e1271212105",
     "374M5121H3N181026851017I1Dv15660p1110141N101I12241060E3W10_171Z14I4F1Z1Z2s11024G_1A32b11",
     "0502g11iA132610132e1132W1132610132E1u1132Y2b1FGr2253hJ2G1P5g23A7JBKCJCC1211Cp12IE040Z2u2",
     "7g15b2AU1B48NT24Bh14Ps1R4-12Jo10N1B2n1p11E17p1f123Ah11AEs1M2AZ12A5g122f131511305_5JX1Br8",
     "252b125271010101U2q11610321633254C5216q30D0GCb3040291034601010131A235440He1jPp1su1a76331",
     "Cb110502t170GM96161616161616161Vl10rE2P874244r2621v2135g11z2HVm1FWG_j6W2iqLZ2j12i83FA1Kk",
     "1573m3d182c32Y2211017LJ1W1Op1CZ210i153012AW15Y1DS3o11BF0GFA41s19DIM3a21010O22F23B5252596",
     "161g11D6w3LZzACM4m1ae8jB2f3c16C45B1C141011111h3X1gBI_12r1e1Bq341c4a1P6PBu235252522Z1B1P1",
     "I111E2DY1w3b2q1h8S3m1l1VDT5g15T2Z14714g1z4IZ14Z14d18p1CA1E16111A1E16113p1Cs99LA7O51f118b",
     "25201h111302MAM9UX2I11ALAPc2t161W231157121Sg1S3SZ171RRr1ALAIDHk3e2t1o1Do1Dd1Y1R305Mw7f11",
     "131G2t103SA08Lg1Hk1KRM9b2h14Au190DONo1H38Y1309_11391A010Z1H1X12063-1610131E197u1N317212L",
     "161114372121306056S910201b119102013113010i1X21213K2UX22110u5r126P5Y1-11030x1r120d2Q2DL6v",
     "5u1d3_1V72027111T112123z272j1251011Ro129Hd250Ie2d6W1V81i11610n1T2L1Df26111h13011121021O5",
     "111a1111310dAM9G1e132l30l2vSc3k3HZ6io2W3FlX1H5Pwy35cIvr6k1ns1uH7UHk2HTIl1G3VK5ImDi1p6_1W",
     "4g24u17GW2110C1Et_58rc1f19dt8316111Y9F0T220E38hCae2g35C387940Xx5q21c2112021231B10161W213",
     "27161R131410361pA2O1O1U1O1U1O1U1O1U1O17qv1U65r661G2611145z1X10m3i1A6G0XATIh1aFRa7T20lF61",
     "3111E1a6x1Z23030qb131Q1110201913101060401010121110201010101011102316131310191G52141GqJP6",
     "P6Psp3_sf1W1vX46z62Xq5Emf7FjJYj2zGYl1gw45_Y4"]),
   (["bidic", "bidicontrol"],
    ["ym10nl61Q4t13"]),
   (["ci", "caseignorable"],
    ["d1060B0Z1010d2040104021tF_541409110x76l6050n1i110111110i10B5AA10Z10AKG0b371913X1010UQx2A",
     "w1A4020ONh12i107158f1v1t1010474036A1D0F0w104380K1Q021v1041412230U130B1v10441140K1M510w10",
     "20138071B1U0z10C0o1030t1012521371B1T0w10206051K1S1v114380K1T0e207210w2026B8Y30289016f21R",
     "01010t1D14115A1Z190c33151121P142G3D02160F0-20WJ2oT2T1U1U1W2116802A3050j14p10X21Y10s32419",
     "062x6120w10161010276920d108Un13m10141050e18C1W132112u10113012w1721W25o221C16406031o1-1D0",
     "Y1a3zD012B2D2D2D1C481A02024n141910D0GCp1W1hy21n32z30F0W3Vl10rE0a133450z25z22suR0Yd15k80Y",
     "331910S3m21EX1k20N2d3231803040P150t41QHD0c17PAk12m102321H0L1Y252121C080Z10B0p1012215110R",
     "0E15110a3492v302040mvJ0p4GzHF30CFY1020f507060B0Z1010l10j11Z20L2XG0Y70r44bW151f118cI21153",
     "e1240b51zH3c10Q410x91l23c2An13x30s1Ef1021A2n13212040A0o12a1417-10C1q18A320_2220116020z40",
     "37L1v1130b1634c25D01010E1r272210N0q25104111k736111R1r272011g30102510b30102314Z8811W81104",
     "0m432140W19e1523809522k1C11sC61510o2L261111w3530111610e213010xA1B1q145010N0rc5G6EecBB32W",
     "k24x1693yF2e11YF0_1GW2111hWG31611-a3113yo4j12MWH29F26U3q42xz1s14n180E0M41Emg161G2611145z",
     "1X10W5DmB0z13xF4-71WN6j37lr24XWZO0U_2W4l7"]),
   (["cased"],
    ["X2P6Pl10A0405M1U1Y6134l61Z171U4W30g132123106012101J1o21g48b51b19e1tu2b110502g113WLr225Ya",
     "2A5g122W2_5W2r8252b125271010101U2q11610321633254C5216q30D0GCb304029103460101013154023544",
     "0HV31nPp1su1a76331Cb11050oeUj1ITa4b3331z1211017L412rPg11D6l2WwJ6C4fW1P6Pbb1l2W3Z14Z1q3A1",
     "E16111A1E1611ZE0221f118bc1o1Do1z2LALwu2_1WhL_1WiPq21c2112021231B10161W21327161R131410361",
     "pA2O1O1U1O1U1O1U1O1U1O17qv191J65b8z1oa2Z2i_1P6P6P"]),
   (["cwcf", "changeswhencasefolded"],
    ["X2Pw20AM17W10101010101010101010101010101010101010101010101010101010201010101010101011101",
     "0101010101010101010101010101010101010101011101010111011122311123111101011102011121011307",
     "1111110101010101010102010101010101010102110121010101010101010101010101010101010101010101",
     "0101010101010107111201310101010s70g10103080601210111G18M0C231101010101010101010101010112",
     "110112o1m1010101010101010101010101010101010901010101010101010101010101010101010101010101",
     "0101010101110101010101020101010101010101010101010101010101010101010101010101010101010101",
     "01010101010101010101010101010102b1m10uu2b11050gP5Ya296g122WA0101010101010101010101010101",
     "0101010101010101010101010101010101010101010101010101010101010101010101010101010101010101",
     "0101010101010101010101010101010105120101010101010101010101010101010101010101010101010101",
     "0101010101010101010101010101010101010101010109785A78785B010101087Gl122255225B3C45225f903",
     "160j1FJ0oPPmv1l1m10122010101310208210101010101010101010101010101010101010101010101010101",
     "010101010101010101010101010101010101010101010801040jgU0101010101010101010101010101010101",
     "01010101010J010101010101010101010101010d401010101010103010101010101010101010101010101010",
     "1010101010101010101010101010A01011101010104010201030101010101010101010141410101010101010",
     "1310113050101010O0wRl2WwJ6C4fW1Pbc1d1e4Z1y4A1E1611gt1o1z4Lwv2VWiLVWrUX1"]),
   (["cwcm", "changeswhencasemapped"],
    ["X2P6Pw10AM1U1_11p21R2D21104y21H6Q1110113113142011207020113550A1c50g132132106012101J1k13W",
     "1141a48b51b1Ac1uu2b110502g122WLr225Ya2A5g122v5030G0n3x4201r3252b125271010101U2q116103216",
     "33254C5216f903160R0HV31nPp1su1m311117b37331Cb11050oeUj1IRc4D2z19E32241O1T2146O1yQ0Sl2WwJ",
     "6C4fW1P6Pbb1l2W3Z14Z1q3A1E16111A1E1611Zs1o1Do1z2LALwu2_1WhL_1WqUZ2"]),
   (["cwl", "changeswhenlowercased"],
    ["X2Pb3M16X1010101010101010101010101010101010101010101010101010101020101010101010102010101",
     "0101010101010101010101010101010101010101110103110111223111231111010111020111210113071111",
     "1101010101010101020101010101010101021101210101010101010101010101010101010101010101010101",
     "010101010107111201310101010X90103080601210111G18Z108010101010101010101010105020112o1m101",
     "0101010101010101010101010101010901010101010101010101010101010101010101010101010101010111",
     "0101010101020101010101010101010101010101010101010101010101010101010101010101010101010101",
     "01010101010101010102b1fw2b11050oMr2pa206g122WA010101010101010101010101010101010101010101",
     "0101010101010101010101010101010101010101010101010101010101010101010101010101010101010101",
     "0101010101010101010901010101010101010101010101010101010101010101010101010101010101010101",
     "010101010101010101010101010109785A78785B010101087O7878784B4B3C4B4f903160j1FJ0oPPmv1l1m10",
     "1220101013102082101010101010101010101010101010101010101010101010101010101010101010101010",
     "10101010101010101010101010801040jgU010101010101010101010101010101010101010101010J0101010",
     "10101010101010101010d4010101010101030101010101010101010101010101010101010101010101010101",
     "010101010A010111010101040102010301010101010101010101414101010101010101310113050101010O0h",
     "vLPbc1d1e4Z1y4A1E1611gt1o1z4Lwv2VWiLVWrUX1"]),
   (["cwt", "changeswhentitlecased"],
    ["X3Pw10f1N1710101010101010101010101010101010101010101010101010101010201010101010101110101",
     "0101010101010101010101010101010101010101020101220102030502032202010102040203010203010401",
     "1111010101010101010111010101010101010121010301010101010101010101010101010101010101030101",
     "010101010101080211040101010151110113113142011207020113550A1c50h10103032I0RY1113210101010",
     "1010101010101014102020q1l110101010101010101010101010101010109010101010101010101010101010",
     "1010101010101010101010101020101010101011101010101010101010101010101010101010101010101010",
     "101010101010101010101010101010101010101010101010n1c1mp35Ya2810k7030G0o301010101010101010",
     "1010101010101010101010101010101010101010101010101010101010101010101010101010101010101010",
     "1010101010101010101010101010101010101010101650101010101010101010101010101010101010101010",
     "101010101010101010101010101010101010101010101010101885A78785A7878D2787878411603211832187",
     "A211sA0X1F40hQPcw1l110311010106020A01010101010101010101010101010101010101010101010101010",
     "1010101010101010101010101010101010101010101010801040Cb11050peU01010101010101010101010101",
     "0101010101010101010J010101010101010101010101010d4010101010101030101010101010101010101010",
     "101010101010101010101010101010101010A010201010101040401120101010101010101010B01010101010",
     "101040102030501010Q0yQ0Sl2WwJ6C4fX1Pjc1d1e4Z1x4A1E1611Zu1o1z3Lwv2VWiLVYrUX1"]),
   (["cwu", "changeswhenuppercased"],
    ["X3Pw10f1N1710101010101010101010101010101010101010101010101010101010201010101010101110101",
     "0101010101010101010101010101010101010101020101220102030502032202010102040203010203010511",
     "1111010101010101011101010101010101011111030101010101010101010101010101010101010103010101",
     "0101010101080211040101010151110113113142011207020113550A1c50h10103032I0RY111321010101010",
     "10101010101014102020q1l11010101010101010101010101010101010901010101010101010101010101010",
     "1010101010101010101010102010101010101110101010101010101010101010101010101010101010101010",
     "1010101010101010101010101010101010101010101010n1c1ew2g122uN5Ya2810k7030G0o30101010101010",
     "1010101010101010101010101010101010101010101010101010101010101010101010101010101010101010",
     "1010101010101010101010101010101010101010101010165010101010101010101010101010101010101010",
     "1010101010101010101010101010101010101010101010101010101885A78785A7878D2q1114010321140332",
     "187A21140nA0X1F40hQPcw1l110311010106020A010101010101010101010101010101010101010101010101",
     "010101010101010101010101010101010101010101010101010801040Cb11050peU010101010101010101010",
     "101010101010101010101010J010101010101010101010101010d40101010101010301010101010101010101",
     "01010101010101010101010101010101010101010A010201010101040401120101010101010101010B010101",
     "01010101040102030501010Q0yQ0Sl2WwJ6C4fX1Pjc1d1e4Z1x4A1E1611Zu1o1z3Lwv2VWiLVYrUX1"]),
   (["dash"],
    ["j10yg10p10Xo30bW10fW25z10d10F0cC0aW3020V140S0-D0J0l30mip11b10A0f50Wp30-90"]),
   (["di", "defaultignorablecodepoint"],
    ["j50XL0iM0Yw21po11r24x_14Q4n1Fqd40xap1Fl70W50l28dbl13lc57bqhO__3"]),
   (["dep", "deprecated"],
    ["fA0ff10Ze2010fX21bc25vL1sctR0"]),
   (["dia", "diacritic"],
    ["-2010d20604021tF-41755H14091z74n60t1G1Q101110c4741c414132Z2Qx2Aw1AY11-37f19GRz10G033S0g2",
     "0G0k30G0k30G0l12y10G070t30k30G0k30G0j31G0y30l30C510h30D4h21R0101041Y2211-10m3011e1144P61",
     "0A1XM2qT1U0q4A90xA2a90K720m1E2Ae30F0c18s11w10B1Y21W25o2O406022o1-1m1Z15Bb1AzD012B2D2D2D1",
     "md32z90wF5f33_20ohT0C110S1o21EX1c32j31C0b10t40RHv13a10_20C0a10r42X23p10a3492W41mvJ0XOFk8",
     "010l10j11Z20yN0_a151f118zJ240b51xH5c10Q4lC2c2An13W60f10e21u31-10i2092e31o51m21G0O634v221",
     "1D1_2030x31x71-30s31p30j81Y8140y40p20I0n20bD0Y8011n20fD1N0id5EvcB0Wk24x16qH1YHGm21-_F316",
     "11Xu7j12MWH2358726U3Yq3z1Y66tB0z13-N1WN6j3212"]),
   (["emoji"],
    ["Z106059l3040jy70C0u60M0w25F1lB1C0c50PA42d60d71A090w1314902021204020112030318250105BB1201",
     "110I021I5101131502141B15120511011K155132040202510201010603060A1F02040104210B1m1290E0E0qB",
     "1lE2J1p1040wc10C0vI010ghl30g60W51C1E029h2P11N0K028L1k5X12l321122o2221c81-1B51N7127C02320",
     "41D120819052C28220104060306r2m1b257224930113029Z7B40x8k1191u5m3C395t17E2A68"]),
   (["ecomp", "emojicomponent"],
    ["Z106059p-70r60hft10s-y1PxF4mj13ipXO_2"]),
   (["emod", "emojimodifier"],
    ["x_y34"]),
   (["ebase", "emojimodifierbase"],
    ["zm90x60G3tZp30y122022r312ALI3042127010O0f6140L041k5234p20G290B0_H02087609922u10z111110H2",
     "1Cb72g18"]),
   (["epres", "emojipresentation"],
    ["wu81j633020fG1L1o1Bh10J0D081H1518050L0711040207041S0Z10104210z12O0E0xQ1p1040kbn30g60-502",
     "9h2P10O0K02412L1k5W1C81b21LCg144CG303c2101w52-1D31NI0Q1D0s2q2m1b260322243B178Z7B40x8k119",
     "1u5m3C395t17E2A68"]),
   (["extpict", "extendedpictographic"],
    ["f5040jy70C0u60M0w25F1lB1C0_20c20PA42d60d71A090w13151B1n3Ar32A1010603060A1F02040104210B4j",
     "1290E0E0qB1lE2J1p1040wc10C0vI010chl3_7D2V0y15C1E029Iu1REA0K028139nD5z98f8m1_3q3Br2g1C3u1",
     "7A5e17Un2Ck1191uDW8zV"]),
   (["ext", "extender"],
    ["t50uG1kR0vD0sJ0f40v20mN0_30Zg20u10ZJ0kC0a20fy40h14d31z22suR0sl10YU0M0f40i30L1xZL0mW21hk1",
     "0R040dc10b90q31oF2lc10fbK1ya1110ugS1nb10qQ2"]),
   (["grbase", "graphemebase"],
    ["W1-2X1C1nIm372546101J1_67b51b12n122k101020209Q45H9B01j1LF1a38061204V201TTu2B0Eg1963N4090",
     "307E1O501A5UHf1v1s110138312792S1117212L1610333011612110D1124N5015412L1611111142O31079221",
     "0C018121L16111433801130F14B708117212L16111430206121F1124HB015321331101131323B5011321230L",
     "K6217121M1F3033J2202149791A121M1914312011O1114912EA121e1201152121142194P211H3N1810269166",
     "7922Cl111B78Cb1110141N1019119024109923W1N2Q10101D1Z1I05024n17151Cb1i14060212O233F4C11251",
     "E1d110502uB132610132e1132W1132610132E1u1132Y25S3P6r2252yK3u27HDI319HEC12Fp1207711B839696",
     "A596u2742X1105b2AU43224115703f124Bh14P6A3u1213t110901185D9696Ds2l1A3371S9B2V416t1102210D",
     "l1815E3z15g12AB0D0731512205_5W2r8252b125271010101U2q11E1D251I22181A5N7m1G12Q1C3W1_1h44vK",
     "MALpu12V1tA315i110502t171FM9616161616161616X1z2Y1P1u2Cr6Qv16F1r24a35g11z21r29l11ipS3s19x",
     "AKk140AV2l2258j6211017LF12131O24496t18Z2ABOC1b18OB0CT6l11141211C1A461O1e16121B21710292V1",
     "o11031242010OG27B5252596161x14q31113396ZzACM4m1ae8jB2f3c16C4501N141011111y3GyD2r170W1FG9",
     "MY11I13441c44y42U352525223616D12B1P1I111E2DY1w3524i13t21C30l1i1Z4S3m1GQ4Z19T5b1AT1a14Dg1",
     "z4296Z14Z14d18p1BB1E16111A1E16113p1Cs99LA7O51f118b25201h111302M1d288m1I115W13Q50W2t14J2k",
     "1F3121SA8787_1W1a16B9r13S2Q5P73C6m2e2t1o1Do17f1C96b18N81m6U1f13021G2x1d18LB8MH43c1RKM901",
     "r1F64T1120Cm1412113EO799Z1509H8Y112Bp19017411F1JBH1R314511_1610131E1A6k112D98117212L1611",
     "14301013212130C6S910201b11011F011301211d1t181301K1012Ul111601110202389c5k11163202Qa1o181",
     "1023B96CJg1101181696JSQ3011409Mv5k19020a3o2C72027111N1411631299c272f18313R0Ad1614790613j",
     "1D028De279s5X1E9681b1E015AS3VP07020h26111b1L09965111a141101079s9I239E1Z1813Ms20Fn1DwSc3k",
     "314BZ6io2Y3DlX1H5Pwy35cIvr6TC239cs1uH7U194m2196T70Al17EA9161K5ImDv1c6w2b3g25t1BCW23St_58",
     "rc1f19dt8316111Y9F0T220E38hCae2g35C38792020Wx3v76pDy4p3y1r7Ac12x152M17T4y1LX230w3JCJCs29",
     "Od4q21c2112021231B10161W21327161R131410361pA2Z92nHt13o171D16qZ1U65b8z1o4i1A62941WATIh149",
     "50mER49s6T2A40WF613111E1a628m1Z2704941nOZ2i2y1Y631Q1110201913101060401010121110201010101",
     "011102316131310191G52141Gq11k8h14Z3CE2E1E1a1Aj5u1SDh14871E5w4tU4G3C3s34-26B40FB4t1896d18",
     "T2B41-1pACD2C395t17E2A687o41b3cW1_sf1W1vX46z62Xq5Emf7FjJYj2zGYl1gw45_Y4"]),
   (["grext", "graphemeextend"],
    ["WOl3p86d8i110111110e2Am1KG0b36252113Z10UQx2Aw1890O3181214h12x18g1N1Vt1010474036A1T0w1010",
     "238090A1Q021v1041412230U130B1v10441140K1M510w1011138072A1U0x1010C090e1030t1012521371B1T0",
     "w102110321371B1S1v1110238090A1T0e2040221080n2026C7Y3028B6f21R01010t1D14115A1Z190c3315112",
     "1P142G3D02160F0_L2oT3S2T1U1W2116802A90j1210r31Y10s32419062x6120w10161010276920m1Un13m194",
     "2c18C1W1325u10113014u1721u421C16406031c6_1iG0Z6W1-_22j40W3VgH5f31qkT319W11m21m803040P150",
     "t41QHD0c17PA10i12m10232120a10Z252121C080l10p1012215110g1180k702040mvJ0XNFGFkB1zI0Y70r44c",
     "q121153e1240b51zH3X24z91l23c2An13x30s1Ef1021A2n132170z12a1417-10C1q18108320_22236020z403",
     "7L1v111010C090E634Z20251020124210E1r272210N0n202510201111h70236111R1r272011g301027b30102",
     "314Z8811r70A340m432140W19e1523809522k1C11sC61510o2L261111w3530111610e213010xA1B1q1452N0b",
     "d506EecBB32Wk24x16uW10_13n20B1hbJ1Xp4j12M-G4358726U3q42xz1s14n180E0M41Emg161G261114a30W5",
     "6tB0z13yF3-71WN6j36rsbO_2W4l7"]),
   (["grlink", "graphemelink"],
    ["jg20_30_30_30_30_30_30_30j31G0y30l30_30f60q51vs11U0z40jK0Z70b31c21hi40cqU0b10t40k40i30r9",
     "0s70noN0cm10f10E0v10v31h40q30q50Y30W42n30_30y70_30s30q30j80Z81X50p20I0n20bD0a81n20fD1ilG",
     "0"]),
   (["hex", "hexdigit"],
    ["m1975Q5fr_1975Q5"]),
   (["hyphen"],
    ["j10_30yc10xp40fW21bm30ZN0dhp10f50t20"]),
   (["idsb", "idsbinaryoperator"],
    ["m_B129nF0"]),
   (["idst", "idstrinaryoperator"],
    ["o_B1"]),
   (["idsu", "idsunaryoperator"],
    ["-_B1"]),
   (["idcompatmathcontinue"],
    ["o5150sz703A1EpB040M0Ybj30P0V0P0V0P0V0P0V0P0"]),
   (["idcompatmathstart"],
    ["Ym8040M0Ybj30P0V0P0V0P0V0P0V0P0"]),
   (["idc", "idcontinue"],
    ["m197P401Pl10A010205M1U1fE4BE47010Hq311231064101J1o21g4142b51b1206e18i1101111108Q43TA5f24",
     "b317291I20Gw12a3Er140202j1IR4A5N158g21W4291I17212L1610332821238041142BA0102215412L161111",
     "11201441223073107FB218121L16111429121220F329961217212L1611142821227241142910G11532133110",
     "1131323B4432132060E9GC121M1F2812137112202329G317121M19142812137161132912CC121o1121453742",
     "9A5121H3N181026304510176921Dv15E19d1110141N101M2410161923W10N169B01010491Z14J1H1Z190v1f2",
     "6j22b110502g11iA132610132e1132W1132610132E1u1132Y22298EFGr2253hJ2G1P5g23A7L9LBJCC1211Cp2",
     "304129X121A6u27g15b2AU1B4BAd124Bh14P6Ab1R4-11S2A69D08D1Fn1i239H8Cp3Ct1893m12A5g122G21c15",
     "rG252b125271010101U2q11610321633254C5216F1n11J0S0D0GCp1C403BH0402910256010101F235440He1t",
     "p2a768Cb110502t170FN96161616161616161VbG2PE14244r2261-25g11z2HVm1FWG_j6W2iqLZ2j12i83RKl1",
     "491o3b182c32Y2211017Lr140Jp1Cb2A96N301m12Z1CS3W2EA6U1s19D296M3e2O22F24A5252596161g11D6w3",
     "11296ZzACM4m1ae8jB2f3c16C45B1C141011111h3X1gBI_12r1e1B4FGF31O2W141c4J97P401PAv235252522Z",
     "1B1P1I111E2DY1w3b2q1e40Y4S3m1F0VVDT5g15T2Z14714g1z4296Z14Z14d18p1CA1E16111A1E16113p1Cs99",
     "LA7O51f118b25201h111302MAM9UX2I11ALAPc2t161W231157121S2240W1S3SZ171TPr1ALAIDHk3e2t1o1Do1",
     "Dd1896b1341Mw7f11131G2t1W1A08W1VLg1KRM9c2VF9x170DO796q119438Z1209a2431C10Z1H1a163-161013",
     "1E197w1596317212L1611141921222060562634B910201b11910201317D1Tg25943Ub21089c5r128N5Y1W230",
     "B9c1u1796JSQ2E4966v5w1b3f2L72027111T1128C9c272j12711R-1808f230Ie2d6W1F9681i118F9OT2L1Df2",
     "6111h13011188965111a1111579s9M9G1e134DAr20l2vSc3k3HZ6io2W3FlX1GLAwy35cIvr6v1cs1uH7U196k2",
     "196T24Bs193C99K5ImDi139c6_1W4g24u17GW2111B1Et_58rc1f19dt8316111Y9F0T220E38hCae2g35C38793",
     "1nY49cGj12M-G4358726U3q42xDq21c2112021231B10161W21327161R131410361pA2O1O1U1O1U1O1U1O1U1O",
     "172n1WGs14n180E0M41EmY1U65r661G2611145z1X10m3i13D2940XAUHv1sEf1s6g1bF613111E1a6B6f1h249c",
     "b131Q1110201913101060401010121110201010101011102316131310191G52141Gqf39cW1_sf1W1vX46z62X",
     "q5Emf7FjJYj2zGYl1gw45_Y4mgtLl7"]),
   (["ids", "idstart"],
    ["X2P6Pl10A0405M1U1fE4BE47010X441123106012101J1o21g48b51b1206e1d2Q43j1g1Z111Y310F171A220G0",
     "1TTu2B0OW191405L409030NO7A5N15Hf1w1r130I079FF47212L16103330G0D112E1A085412L16111111V310J",
     "2G8121L16111430I0F1N0B7212L16111430U112F0H015321331101131323BM0q17121M1F30Q22021U047121M",
     "191430V111F1H8121e120G05282O55H3N181026w1l111C6w1110141N101911902410L3W10_171Z1R4p3g1K0G",
     "5433031724CC0Hb110502g11iA132610132e1132W1132610132E1u1132Y2b1FGr2253hJ2G1P5g23A7HDIEHEC",
     "12Fp1Z1040Z2u27e1105b2AUn1T24Bh14Ps1M9q1o20z2k1H7s1TD1Ah1QZ1f12AZ12A5g122f131511305_5W2r",
     "8252b125271010101U2q11610321633254C5216q30D0GCb30402910256010101F235440He1tp2a76331Cb110",
     "502t170GM9616161616161616cH2P874244r2441v2135g11z2HVm1FWG_j6W2iqLZ2j12i83FA1Kk1GU2l2d182",
     "c32Y2211017LF12131MTp1En1-153011BRAMPS7k1S0G419A41e1N217KM303n11031242010O22A72C52525961",
     "61g11D6o3TZzACM4m1ae8jB2f3c16C450191C141011111h3X1gBI_12r1e1Bq341c4a1P6PBu235252522Z1B1P",
     "1I111E2DY1w3b2q1h8S3m1l1VDT5b1AT2Z14714g1z4IZ14Z14d18p1CA1E16111A1E16113p1Cs99LA7O51f118",
     "b25201h111302MAM9UX2I11ALAPc2t161W20F3121Sg1S3SZ171RRr1ALAIDHk3e2t1o1Do1DZ1c1R9Mw7f161G2",
     "x1SA08Lg1Hk1KRMCq1v1120Di1W1OQZ1T0208Y130Cl1E3L010Z1H1OJ1_1610131E197k1c17212L16111430I0",
     "C4U910201b110P010i1q1I3K2Ul1K110u5k1f13a1l1K0x1g1D0d2Qb16v5h1q3_1V72027111NF010-272c1G01",
     "0S0Ad170L0Bj1J0Ie2d6W1V81a1H0n1Tm36111b1L0P5111VE0dAIF01C1X1y30l2vSc3k3HZ6io2W3FlX1H5Pwy",
     "35cIvr6TYt1uH7UHk2HTIl1G3VK5ImDi1p6_1W4g250Y2CW2110St_58rc1f19dt8316111Y9F0T220E38hCae2g",
     "35C3879cx5q21c2112021231B10161W21327161R131410361pA2O1O1U1O1U1O1U1O1U1O17qv1U65b8z1o4i1A",
     "6G0XATIh1aFRa7T20lF613111E1a6x1Z270qb131Q11102019131010604010101211102010101010111023161",
     "31310191G52141Gag4_sf1W1vX46z62Xq5Emf7FjJYj2zGYl1gw45_Y4"]),
   (["ideo", "ideographic"],
    ["cWC1P8E2bU_j6W2_lKWeMjB2f3geT0Rt_58rc1f19dZ9hCaeJ_sf1W1vX46z62Xq5Emf7FjJYj2zGYl1gw45_Y4"]),
   (["joinc", "joincontrol"],
    ["iW81"]),
   (["loe", "logicalorderexception"],
    ["Wo34x34mt2220wda112011"]),
   (["lower", "lowercase"],
    ["X3Pl10A040a1N171010101010101010101010101010101010101010101010101010101110101010101010111",
     "0101010101010101010101010101010101010101010102010122010203140203220201010201110203010212",
     "2602020101010101010101110101010101010101120103010101010101010101010101010101010101010101",
     "01010101010101016202110401010101a21Z171U4W30h10103023I0RY1113210101010101010101010101410",
     "2021p1l110101010101010101010101010101010109010101010101010101010101010101010101010101010",
     "1010101020101010101011101010101010101010101010101010101010101010101010101010101010101010",
     "101010101010101010101010101010m1e1dw2g113uN5Ya2810r3_5X201010101010101010101010101010101",
     "0101010101010101010101010101010101010101010101010101010101010101010101010101010101010101",
     "0101010101010101010101010101810101010101010101010101010101010101010101010101010101010101",
     "01010101010101010101010101010101010101885A78785A7878D2787878411603211832187A211v30D0GCj3",
     "03130R04040218340X1F40hQPcw1l11031101010401117301010101010101010101010101010101010101010",
     "1010101010101010101010101010101010101010101010101010101011701040Cb11050peU01010101010101",
     "0101010101010101010101010101010J010101010101010101010101012b4010101010101210101010101010",
     "1010101010101010101010101010101010101010101010191010201010101040102012101010101010101010",
     "10505010101010101010401020301010101010M21012rPg11D6l2WwJ6C4fX1Pjc1d1e4Z1x4A1E1611ZE0221f",
     "118be1o1z3Lwv2VWiLVwiPPQ61HQPQ310161AQPQPQPQPQPQPQPQPQRSO15QO15QO15QO15QO1510qv191J65b8z",
     "1qb2X1"]),
   (["math"],
    ["h10G2V0T010j1040b10V0uM220Q122lG2jm60R2B030D0E3L4B4X2C403144I04029102560312112153D10a2N1",
     "511414V1061Eh883K1w20UQ10O0B6zD1C945412134E01025B751v1010T392mA_1W8_Fm1K25y-p10tP510Y50G",
     "2T010T010Z4063Xj31mpn1q21c2112021231B10161W21327161R131410361pA2Z92n1Wm531Q1110201913101",
     "060401010121110201010101011102316131310191G52141Gq11"]),
   (["mcm", "modifiercombiningmark"],
    ["qo1120Z406031XF11230V0"]),
   (["nchar", "noncharactercodepoint"],
    ["mk_1VkG1-__11-__11-__11-__11-__11-__11-__11-__11-__11-__11-__11-__11-__11-__11-__11-__11"]),
   (["oalpha", "otheralphabetic"],
    ["bQ0TCWID10111110e2Am1C16G0b36432140Z10UFc3Ab31381213g30y1B366Js112E1152A1T2w162121A0A1T2",
     "w14412140U130B2w171211L1M242w16212191A1U0x143212A0e14v16121281B1T2w16121281B1F0C3w161212",
     "A0A1T2h251017I1z1026I0Z302511G0Z5I9A1Z1k3B1023N342122633DB10A3qp11U1U1U1Y2Iy51Y10s3B48-6",
     "4v192Jg21B2n14m1Ey12U821v1Ao1IyCX1Xs1p1sd2VqZU7Y11YB080N4u21o1F10v10c14SBj13m1Bb10Z2DC08",
     "1j12o10122150i1450j77pvJ0tY24cq121153qO3X20XA1l20Z82r1Dj11B2j1890z12a1BI1v12m1CE1y282060",
     "20z49N3w162121A0A1q2810201311d3C12g3Hj7626T1o2E10g3Ad3DX8Ct7511213010k462540S9g1413IAk1D",
     "tC716p2L1Dw353011121030Y241113yA39110m1632zkGGWn301s173z21ibJ0Xx861G261114a30tb20e_1P6P6",
     "P"]),
   (["odi", "otherdefaultignorablecodepoint"],
    ["lQ0lm31po11lb20-d40xnp10l28dWWQ01TW3_3m7lm3"]),
   (["ogrext", "othergraphemeextend"],
    ["-j20O0cB0O0c30O0e7010411191d30O0t30F0rf20U0WW10501051b30d21uW10XX41ZfU0i30zkL1Wn40q30e80",
     "E090W3090201250W70C0n70c80vJ0C0Zm10kbK1phO165jrhO_2"]),
   (["oidc", "otheridcontinue"],
    ["t50lM0X_38ep10nn11jd40fpp10"]),
   (["oids", "otheridstart"],
    ["ba61na20L0ix31"]),
   (["olower", "otherlowercase"],
    ["g50F0rF871U4W30q10Xi30lX3-1D0Y1a1nL0D0GCp6FmQPoy11-mU1o60X4231YR390sWN0221f118rZs1z1"]),
   (["omath", "othermath"],
    ["-20nR220Q121WX70R2B0W13O1E1X2C403144I04029103460312112153354h24231111101421414H211016106",
     "1Y93e5110O0H0zD1C854512134E01025O1v1010T391sA1V9pCL_13W11ZZr101040p6010Xcr1q21c211202123",
     "1B10161W21327161R131410361pA2O1O1U1O1U1O1U1O1U1O172n1Wm531Q11102019131010604010101211102",
     "01010101011102316131310191G52141G"]),
   (["oupper", "otheruppercase"],
    ["Wh8FcQPWZp3P6P6P"]),
   (["patsyn", "patternsyntax"],
    ["X1EA6Q310Q3Y1610111011404030N0V0uu7N8E2I19n9lMW5rJUhZ1WG_3XC24OF0jep11b81"]),
   (["patws", "patternwhitespace"],
    ["94I0a30ey71O1"]),
   (["pcm", "prependedconcatenationmark"],
    ["Wm15t60n10WC1m20w-X20F0"]),
   (["qmark", "quotationmark"],
    ["Y1040Z40F0yw77P1dm30fE3D2Xnp13z5040w21"]),
   (["radical"],
    ["WqBP1u2Cr6"]),
   (["ri", "regionalindicator"],
    ["cly3P"]),
   (["sterm", "sentenceterminal"],
    ["X10C0G0fg10p42q50h12s70z101031b91at11sO041bO0c61z41j1050w91YB3Y51A121T2x51X21aT0N192lb32",
     "o90D0M1jD0ydT0k81Z7030-B1s21_20u41p42m41v70cnK021x1031f50C0G0X20qt21zd14i13z51r33_32X416",
     "0G1u2111i30g91r31rB15Ef31v72bG010x71t21aD1qL1g21fvI1b40X21B0fH1e90cmJ0el70"]),
   (["sd", "softdotted"],
    ["f31a60v80U0q10K0WA0Y3010fe60p10D030a40z40bD0s61ov20bzf31o11o11o11o11o11o11o11o11o11o11o1",
     "1o11ca20n91Q0"]),
   (["term", "terminalpunctuation"],
    ["X10A010B130-P080XG0v10e20E012q50h1A10h71s1517V0b81qd11i5045t91rO7bO0y32d21z4230d1321w91Y",
     "B3Y51A112T2x54-11aT0N192lb32o90D040A01131iD1xdT1j82Z74-B1s21_20t42p42_30G1v70cnK021v1213",
     "f50A010B130X2020wX10m10ca10d60s91u45a25v23uT4i13z56m33_32X4160G1u24i30g91r32C1cB33Ef31v7",
     "2bG010x71t2141-C2j10bK1g21hf14vlH1b40X22A0fH1d91cmJ0dl73"]),
   (["uideo", "unifiedideograph"],
    ["WWD_j6W2_lKkmM11011A0101122skX2_sf1W1vX46z62Xq5Emf7FjJYj4gw45_Y4"]),
   (["upper", "uppercase"],
    ["X2Pb3M16X1010101010101010101010101010101010101010101010101010101020101010101010102010101",
     "0101010101010101010101010101010101010101110103110111223111231111010111020111210113070202",
     "0201010101010101020101010101010101020201210101010101010101010101010101010101010101010101",
     "010101010107111201310101010X90103080601210111G18Z10223010101010101010101010105020112o1m1",
     "0101010101010101010101010101010109010101010101010101010101010101010101010101010101010101",
     "1101010101010201010101010101010101010101010101010101010101010101010101010101010101010101",
     "0101010101010101010102b1fw2b11050oMr2pa206g122WA0101010101010101010101010101010101010101",
     "0101010101010101010101010101010101010101010101010101010101010101010101010101010101010101",
     "0101010101010101010109010101010101010101010101010101010101010101010101010101010101010101",
     "01010101010101010101010101010109785A78785B010101087e23C3C3C4B3c8040322220346010101323A15",
     "0QFJ0oPPmv1l1m10122010101310208210101010101010101010101010101010101010101010101010101010",
     "101010101010101010101010101010101010101010801040jgU0101010101010101010101010101010101010",
     "10101010J010101010101010101010101010d401010101010103010101010101010101010101010101010101",
     "0101010101010101010101010A01011101010104010201030101010101010101010141410101010101010131",
     "0113050101010O0hvLPbc1d1e4Z1y4A1E1611gt1o1z4Lwv2VWiLVWjPPQPQPQ01120212317QPQ1132716R1131",
     "41036RPQPQPQPQPQPUOX1OX1OX1OX1OX10rf4X1kW2P6P6P"]),
   (["vs", "variationselector"],
    ["hW6210mlv1FmtWQl7"]),
   (["xidc", "xidcontinue"],
    ["m197P401Pl10A010205M1U1fE4BE47010Hq311321064101J1o21g4142b51b1206e18i1101111108Q43TA5f24",
     "b317291I20Gw12a3Er140202j1IR4A5N158g21W4291I17212L1610332821238041142BA0102215412L161111",
     "11201441223073107FB218121L16111429121220F329961217212L1611142821227241142910G11532133110",
     "1131323B4432132060E9GC121M1F2812137112202329G317121M19142812137161132912CC121o1121453742",
     "9A5121H3N181026304510176921Dv15E19d1110141N101M2410161923W10N169B01010491Z14J1H1Z190v1f2",
     "6j22b110502g11iA132610132e1132W1132610132E1u1132Y22298EFGr2253hJ2G1P5g23A7L9LBJCC1211Cp2",
     "304129X121A6u27g15b2AU1B4BAd124Bh14P6Ab1R4-11S2A69D08D1Fn1i239H8Cp3Ct1893m12A5g122G21c15",
     "rG252b125271010101U2q11610321633254C5216F1n11J0S0D0GCp1C403BH0402910256010101F235440He1t",
     "p2a768Cb110502t170FN96161616161616161VbG2PE14244r221221-25g11z2HVm1FWG_j6W2iqLZ2j12i83RK",
     "l1491o3b182c32Y2211017Lr140Jp1Cb2A96N301m12Z1CS3W2EA6U1s19D296M3e2O22F24A5252596161g11D6",
     "w311296ZzACM4m1ae8jB2f3c16C45B1C141011111h3X1g46v6I_12r1e196FGF31O2X1010301010101z3J97P4",
     "01PAv235252522Z1B1P1I111E2DY1w3b2q1e40Y4S3m1F0VVDT5g15T2Z14714g1z4296Z14Z14d18p1CA1E1611",
     "1A1E16113p1Cs99LA7O51f118b25201h111302MAM9UX2I11ALAPc2t161W231157121S2240W1S3SZ171TPr1AL",
     "AIDHk3e2t1o1Do1Dd1896b1341Mw7f11131G2t1W1A08W1VLg1KRM9c2VF9x170DO796q119438Z1209a2431C10",
     "Z1H1a163-1610131E197w1596317212L1611141921222060562634B910201b11910201317D1Tg25943Ub2108",
     "9c5r128N5Y1W230B9c1u1796JSQ2E4966v5w1b3f2L72027111T1128C9c272j12711R-1808f230Ie2d6W1F968",
     "1i118F9OT2L1Df26111h13011188965111a1111579s9M9G1e134DAr20l2vSc3k3HZ6io2W3FlX1GLAwy35cIvr",
     "6v1cs1uH7U196k2196T24Bs193C99K5ImDi139c6_1W4g24u17GW2111B1Et_58rc1f19dt8316111Y9F0T220E3",
     "8hCae2g35C387931nY49cGj12M-G4358726U3q42xDq21c2112021231B10161W21327161R131410361pA2O1O1",
     "U1O1U1O1U1O1U1O172n1WGs14n180E0M41EmY1U65r661G2611145z1X10m3i13D2940XAUHv1sEf1s6g1bF6131",
     "11E1a6B6f1h249cb131Q1110201913101060401010121110201010101011102316131310191G52141Gqf39cW",
     "1_sf1W1vX46z62Xq5Emf7FjJYj2zGYl1gw45_Y4mgtLl7"]),
   (["xids", "xidstart"],
    ["X2P6Pl10A0405M1U1fE4BE47010X441132106012101J1o21g48b51b1206e1d2Q43j1g1Z111Y310F171A220G0",
     "1TTu2B0OW191405L409030NO7A5N15Hf1w1r130I079FF47212L16103330G0D112E1A085412L16111111V310J",
     "2G8121L16111430I0F1N0B7212L16111430U112F0H015321331101131323BM0q17121M1F30Q22021U047121M",
     "191430V111F1H8121e120G05282O55H3N181026w1l110D6w1110141N101910A02410L3W10_171Z1R4p3g1K0G",
     "5433031724CC0Hb110502g11iA132610132e1132W1132610132E1u1132Y2b1FGr2253hJ2G1P5g23A7HDIEHEC",
     "12Fp1Z1040Z2u27e1105b2AUn1T24Bh14Ps1M9q1o20z2k1H7s1TD1Ah1QZ1f12AZ12A5g122f131511305_5W2r",
     "8252b125271010101U2q11610321633254C5216q30D0GCb30402910256010101F235440He1tp2a76331Cb110",
     "502t170GM9616161616161616cH2P874244r2621v2135g11z2HVm1FWG_j6W2iqLZ2j12i83FA1Kk1GU2l2d182",
     "c32Y2211017LF12131MTp1En1-153011BRAMPS7k1S0G419A41e1N217KM303n11031242010O22A72C52525961",
     "61g11D6o3TZzACM4m1ae8jB2f3c16C450191C141011111h3X1g46v6I_12r1e19t3010301010101z3a1P6PBt1",
     "2U35252522Z1B1P1I111E2DY1w3b2q1h8S3m1l1VDT5b1AT2Z14714g1z4IZ14Z14d18p1CA1E16111A1E16113p",
     "1Cs99LA7O51f118b25201h111302MAM9UX2I11ALAPc2t161W20F3121Sg1S3SZ171RRr1ALAIDHk3e2t1o1Do1D",
     "Z1c1R9Mw7f161G2x1SA08Lg1Hk1KRMCq1v1120Di1W1OQZ1T0208Y130Cl1E3L010Z1H1OJ1_1610131E197k1c1",
     "7212L16111430I0C4U910201b110P010i1q1I3K2Ul1K110u5k1f13a1l1K0x1g1D0d2Qb16v5h1q3_1V7202711",
     "1NF010-272c1G010S0Ad170L0Bj1J0Ie2d6W1V81a1H0n1Tm36111b1L0P5111VE0dAIF01C1X1y30l2vSc3k3HZ",
     "6io2W3FlX1H5Pwy35cIvr6TYt1uH7UHk2HTIl1G3VK5ImDi1p6_1W4g250Y2CW2110St_58rc1f19dt8316111Y9",
     "F0T220E38hCae2g35C3879cx5q21c2112021231B10161W21327161R131410361pA2O1O1U1O1U1O1U1O1U1O17",
     "qv1U65b8z1o4i1A6G0XATIh1aFRa7T20lF613111E1a6x1Z270qb131Q11102019131010604010101211102010",
     "10101011102316131310191G52141Gag4_sf1W1vX46z62Xq5Emf7FjJYj2zGYl1gw45_Y4"])]

def property? (name : String) : Option CharSet :=
  if name ∈ ["wspace", "whitespace", "space"] then some Text.blanks else lookupSet? properties name

end SongPattern.Unicode
