import SongPattern.Unicode.Packed

namespace SongPattern.Unicode

/-- The general categories of version 16 under their names, in loose spelling. Surrogates have none
here, since no text holds them. -/
def categories : List (List String × List String) :=
  [(["lu", "uppercaseletter"],
    ["X2Pb3M16X1010101010101010101010101010101010101010101010101010101020101010101010102010101",
     "0101010101010101010101010101010101010101110103110111223111231111010111020111210113070202",
     "0201010101010101020101010101010101020201210101010101010101010101010101010101010101010101",
     "010101010107111201310101010X90103080601210111G18Z10223010101010101010101010105020112o1m1",
     "0101010101010101010101010101010109010101010101010101010101010101010101010101010101010101",
     "1101010101010201010101010101010101010101010101010101010101010101010101010101010101010101",
     "0101010101010101010102b1fw2b11050oMr2pa206g122WA0101010101010101010101010101010101010101",
     "0101010101010101010101010101010101010101010101010101010101010101010101010101010101010101",
     "0101010101010101010109010101010101010101010101010101010101010101010101010101010101010101",
     "01010101010101010101010101010109785A78785B010101087e23C3C3C4B3c8040322220346010101323A15",
     "0z10yp2l1m101220101013102082101010101010101010101010101010101010101010101010101010101010",
     "10101010101010101010101010101010101010801040jgU01010101010101010101010101010101010101010",
     "1010J010101010101010101010101010d4010101010101030101010101010101010101010101010101010101",
     "010101010101010101010A010111010101040102010301010101010101010101414101010101010101310113",
     "050101010O0hvLPbc1d1e4Z1y4A1E1611gt1o1z4Lwv2VWiLVWjPPQPQPQ01120212317QPQ1132716R11314103",
     "6RPQPQPQPQPQPUOX1OX1OX1OX1OX10rf4X1"]),
   (["ll", "lowercaseletter"],
    ["X3Pw10f1N1710101010101010101010101010101010101010101010101010101011101010101010101110101",
     "0101010101010101010101010101010101010101020101220102031402032202010102011102030102122602",
     "0201010101010101011101010101010101011201030101010101010101010101010101010101010101010101",
     "0101010101016202110401010101a21QX60103032I0RY11132101010101010101010101014102021p1l11010",
     "1010101010101010101010101010109010101010101010101010101010101010101010101010101010102010",
     "1010101011101010101010101010101010101010101010101010101010101010101010101010101010101010",
     "101010101010101010m1e1dw2g122uN5Ya2810r3h1_1C1X1c301010101010101010101010101010101010101",
     "0101010101010101010101010101010101010101010101010101010101010101010101010101010101010101",
     "0101010101010101010101810101010101010101010101010101010101010101010101010101010101010101",
     "01010101010101010101010101010101885A78785A7878D2787878411603211832187A211o803130R0404021",
     "8340r10hr2l11031101010401115501010101010101010101010101010101010101010101010101010101010",
     "1010101010101010101010101010101010101011701040Cb11050peU01010101010101010101010101010101",
     "0101010101010J010101010101010101010101010d4010101010101210101010101010101010101010101010",
     "1010101010101010101010101010101710102010101010401020121010101010101010101050501010101010",
     "1010401020301010101010Q030rPg1587l2WwJ6C4fX1Pjc1d1e4Z1x4A1E1611Zu1o1z3Lwv2VWiLVwiPPQ61HQ",
     "PQ310161AQPQPQPQPQPQPQPQPQRSO15QO15QO15QO15QO1510qv191J65tl2X1"]),
   (["lt", "titlecaseletter"],
    ["bE02020c10ri778787C0F0l10"]),
   (["lm", "modifierletter"],
    ["mLH4BE47010b4050-E0c70a51j8140V09030W50d50qc10_30rH0ws10h30ZJ0mE5k5-1D0Y1a1nL0D0GC_-21n7",
     "0_50rE0h1450X31z22suR0Yd15k80o30S1v38m20N0f3231rE0M0f40i30L1d3390cWL0j11W_151f118pi10W10",
     "mkN3yF2e11cHCW2110iWG31611nXCz1f66jT0_Y10"]),
   (["lo", "otherletter"],
    ["g50F0W8043m60xPQ43j1V19Z111Y310O1A220G01TTu2B0OW1LLg1O7A5N15He1x1r130I079GE47212L1610333",
     "0G0D112E1A085412L16111111V310J2G8121L16111430I0F1N0B7212L16111430U112F0H0153213311011313",
     "23BM0q17121M1F30Q22021U047121M191430V111F1H8121e120G05282O55H3N181026w1l111C5x1110141N10",
     "19119024N3W10_171Z1R4p3g1K0G5433031724CC0n3eA132610132e1132W1132610132E1u1132Y2b1Fn3hJ2G",
     "1P5g2677HDIEHEC12Fp1e10Z2Y11q1742X1105b2AUn1T24Bh14Ps1M9q1m5k1H7s1TD1Ah1QZ1f12ATn3315113",
     "0wX13t_2t1OM9616161616161616dH0r104r2801v2405g11z2HVm1FWG_j6W2qmK1sZ1Z2d18h84FA1Y20n1b2f",
     "50d303612131MTp1En1-153011BRAMPS7k1j1428A41e1N217KF15303n11031242010O13A70E525259616n4Y1",
     "TZzACM4m1ae8jB2f3Z20191C141011111h3X1gBI_12r1e1Bq341c4f391i12U35252522Z1B1P1I111E2DY1w3b",
     "CS3m1l1VDJ176b1AT2Z147W4j2Y3d18p1y2p1Cs99LA7u45201h111302MAM9UX2I11ALAPc2t161W20F3121Sg1",
     "S3SZ171RRr1ALAIDHk3e2t5Z1c1310m9f161G2x1SA08Lg1Hk1KRMCq1v1120Di1W1OQZ1T0208Y130Cl1E3L010",
     "Z1H1OJ1_1610131E197k1c17212L16111430I0C4U910201b110P010i1q1I3K2Ul1K110u5k1f13a1l1K0x1g1D",
     "0d2Qb16v5h1p672027111NF010-272c1G010S0Ad170L0Bj1J0Ie2d6W1V81a1H0n1Tm36111b1L0P5111VE0dAI",
     "F01C1X1y30l2vSc7Z6io2W3FlX1H5Pwy35cIvr6TYt1uH7UHk2HTIl1p1K5IpDd1rCg250l5t_58rc1f19tt8Y9F",
     "0T220E38hCae2g35C3879mp80rFi1X10XATIh1aFQb7T20lF613111E1a6xf131Q111020191310106040101012",
     "1110201010101011102316131310191G52141Gag4_sf1W1vX46z62Xq5Emf7FjJYj2zGYl1gw45_Y4"]),
   (["mn", "nonspacingmark"],
    ["WOl3p84f8i110111110e2Am1KG0b36252113Z10UQx2Aw1890O3181214h12x18g1N1Vt1010474036A1T0w1043",
     "80K1Q021v1041412230U130B1v10441140K1M510w1020138071B1U0z10C0o1030t1012521371B1T0w1020605",
     "1K1S1v114380K1T0e207210w2026C7Y3028B6f21R01010t1D14115A1Z190c33151121P142G3D02160F0_L2oT",
     "2T1U1U1W2116802A90j1210r31Y10s32419062x6120w10161010276920m1D1Fn13m10141050e18C1W132112u",
     "10113012w1721u421C16406031c6_1mMC403B-_22j40W3VgH3h31qkT049W11m21m803040P150t41QHD0c17PA",
     "k12m102321d10Z252121C080l10p1012215110g1180k702040mvJ0XNFGFjU0Y70r44cq121153e1240b51zH3X",
     "24z91l23c2An13x30s1Ef1021A2n132170z12a1417-10C1q18A320_2220116020z4037L1v1130b1634c25D01",
     "010E1r272210N0q25104111k736111R1r272011g30102510b30102314Z8811W811040m432140W19e15238095",
     "22k1C11sC61510o2L261111w3530111610e213010xA1B1q145010N0bd506EecBB32Wk24x16uW10_13n20ubJ1",
     "Xp4j12MWH2H726U3q42xz1s14n180E0M41Emg161G261114a30W56tB0z13yF3-71WN6j36rzbOl7"]),
   (["mc", "spacingmark"],
    ["Ze20t10228311o11w126121A0h10w12Y20w128011r11w10106121A0c31113212A0f12z13z11w1014211191S0",
     "E1w125212A0g11h2267I1gA1_10h51406021P1A226L12520A2up10U0X407711wA3224115W71w1010901185n4",
     "0m10501411z10U04120y10221031m1781h50L0sv41p_T120u21o1Fk41l10m114122k3121O0j1010j302150j7",
     "1111110pWP010_30j1241p30O1x10m1291D0z223110g52V1w1113212290A1q227020131110b328130g326013",
     "20j726320n328110j301160d301140b8290t7511402010k428340q20T1-10tC0E0g307020r644110-A1C0m11",
     "8110elG2an3s1e31phO165"]),
   (["me", "enclosingmark"],
    ["ea11qn50-m1312hiX12"]),
   (["nd", "decimalnumber", "digit"],
    ["m19cn19c49c69yC9s39s39s39s39s39s39s39s39s39W39s39c29s89c29cw19c19i99W49c5969s59s29c4969c",
     "kY19cL9c19c69M9s29sC9suK9ci19ca2969yO9W49y19m49s89sA9s39sB9c396Ji29cD9c39sK9s29s79c29cD9",
     "skG9cf29s29c49sG9sxN9qs2n1Wg29cD9sF9t79rQ9sq49"]),
   (["nl", "letternumber"],
    ["kt52lp2Y123-p30P8E2hrT9moMq1iE080c44gX8k3"]),
   (["no", "othernumber"],
    ["o515022rf25uB5u32b46v66H8nD9rX1JpZ19WF0rq103569c6Ff10sMx1k2LsJTfh10qa13g49U71EW19d1EmhT5",
     "ncMi1X23H1rAQa13qf17P6d18h24M5W512F2j1W28q11U2h24e37O7f16gA5WBU-49g13m36c4JxBJbg11kD8dRI",
     "pQKcyI6-OMfXPJCJi3Okg58XTw11213i2i11EYUC"]),
   (["pc", "connectorpunctuation"],
    ["_20_-71J0-kt11O2l70"]),
   (["pd", "dashpunctuation"],
    ["j10yg10p10Xo30bW10fW25Xm3020V140S0-D0J0l30mip11b10A0f50Wp30-90"]),
   (["ps", "openpunctuation"],
    ["e10o10V0-r3010-w10-h2030c10t10F0wJ010U0-X10101010101010m20W1010101010qC01010101010101010",
     "1010W2010X10bX10101010P0I0101010iD0101010103010101020Xfp10t60T01010101010101030H01010g50",
     "o10V03020"]),
   (["pe", "closepunctuation"],
    ["f10p10V0zr3010-w10fj20t10F0wJ010U0-X10101010101010m20W1010101010qC010101010101010101010W",
     "2010X10bX10101010i10101010iD0101010103010101021-ep10v60T01010101010101030H01010g50p10V02",
     "020"]),
   (["pi", "initialpunctuation"],
    ["h50ix702120P0ek30104020F030"]),
   (["pf", "finalpunctuation"],
    ["x50zw7030S0ek30104020F030"]),
   (["po", "otherpunctuation"],
    ["X1212201011A131R0a2050E170-L080oE5f10s102020i11K111D012g23c30h1Df72s1EV0b81A0i40u30v30cC",
     "0C0lB0w20A1e5E10m30g2441l35h50aJ8bO0y32d21z4212b1513v91u61W4615W51A6S2y33x14-11W27B0YQ18",
     "78823223A1019wa3311m30l41422028111021A41923101C22iD2v10z50YWT1j82Z30A0p35yB3s21e1210n11l",
     "10X3CG1y33-31G1v70anK620M0K1233213726011r4212201011A131R0a1021wC2yK0m10-C0dN0d60V0m88c10",
     "m36Y26v23uT4i13z56j3113-33m11l2340D012u25h30g9111o34A110e30w7Mf32SCi20Y42y70e82x40y27p22",
     "14z29t60_24g11bK1g2Cl50mZ14yx21xpE1b40X2480eH2d93dA0ybJ0dl74px20-Q1"]),
   (["sm", "mathsymbol"],
    ["h10G2z1010j1040b10V0-N0lG2xn60D0d12D2h40d1460a245140202070V12010Vh8W11w20UOe15rE090s17l3",
     "0mA42UAFW8Y4M-14V2X8m1K25y-p10uP012a50G2z1010Z4063Xj31nfo10P0V0P0V0P0V0P0V0P0iv51"]),
   (["sc", "currencysymbol"],
    ["a10z33fd10x30oF1oF170r70d80bI0xi20ac2W1txX10ZkL0i30w40x6131s_73-um10mj20"]),
   (["sk", "modifiersymbol"],
    ["-2010d20604030fG3CD56101Gr30E1Ye10qv5012B2D2D2D1ya41ZpTM91d31mU0E1cYKGxR010Y50tWz14"]),
   (["so", "othersymbol"],
    ["c50204010nU0g81_31k60A0J1t70ZG0rB0Y4510a40l60f10dC2F01225K01010b47151153b61mN9pM0oM0z4X1",
     "XB998Zi111311A0116510101040B1E01110w1194231111161U21101Ui874J262m21TPd16d2MAn2j2Ms5181r1",
     "8k31t7i1h1W2_7WGl1L16c12V1e3b75bB1k1P1u2Cr6QF40D1C0L161mA149W1b190GUBT80FVAc1F_9Wk6_1mqL",
     "s1XR3A110zH2csKF_30j12aF03041D1v98v1G221C30l1i1wp11lI0sZ30ra274GgwI350sgK0Zx3l7GpDy4p3y1",
     "r7Ac12x152M17T4y1LX230w5s2fb1_Ft13o171D11es10yw20X40nMh14Z3CE2E1E1a1NW5u1SDh14871E5w4w75",
     "tM4G3C3s34-26B40FB4t1896d18T2B41-1pACD2C395t17E2A687o41x2"]),
   (["zs", "spaceseparator"],
    ["W10_30_k50_h2Aa10l10Wz30"]),
   (["zl", "lineseparator"],
    ["eX80"]),
   (["zp", "paragraphseparator"],
    ["fX80"]),
   (["cc", "control", "cntrl"],
    ["0V_2W1"]),
   (["cf", "format"],
    ["j50og15M0W60n10WC1m20hv30y_14Q4n1419lqt10v72Xc40F0Yx8FWZY13lc57cqhO0U_2"]),
   (["co", "privateuse"],
    ["WWu1_d6WuXSz__12z__1"]),
   (["cn", "unassigned"],
    ["uR1637010K0jC0c11o1130t17R36Ak80y11b3Dx11n11F0S110B4V024j708121M0701241912147132051P1306",
     "321M07020202110532132164016H9309030M0702051A030311E41C670308121M0702051912136332051I9206",
     "230422010222232C3523041151DL4D030N0G190304620311141A6M030N0A051903046252041A03BD030p1030",
     "63G1Q030I2O090117213601085A13Bw13Ta1201050O010N1501070A14Ve20a13d10a10F0Da1c601411vB0417",
     "01041f1041X1041701041F0v1041Z21W12Q5s2161zK2v26M8O8KBD0302B-21A5A5Q5v26h14c29V0C3C312g11",
     "5Ai13Q5B2-11X20T1B5A5E1Vm1j20c57y12F2-14h11B7h14sG161c116180101010V1r10F0E160J13090b30C1",
     "R0D2X1EX1Ei43wKLBKqu11W10zA4j101411u162DO87070707070707070-3X1Q0v2Bs6Pm20s21d34h10-20s28",
     "m10jpS2t18yAJu57k6120108Kx12A5u17c27C5q3AU2k20B3X10t18E1A1d3NS96161687070y13-31A5azABN3n",
     "13kp81g3b17B54Q050102020z3FzD1s161Vg15p10J04350d4110-5261616132707951C0Q0J020F1EX1x3433j",
     "12u20D21k1k1X4T2n1ES3a18U4h14U0b13Ef1-41A5a13a13e17q1AC0F07020B0F07022q1Bt98M98N60g109a2",
     "6110i102211N0e279l1J024X12R41_1u13K1o10248030T133A696W2Vd13C8s12T1R4Q64B7l2f2s1p1Cp16k17",
     "A5c12T72l6V0g10312F3s1i17g1LQb1SJN8k23a18a2911P6A5r10I7d18W30KAI0l1z1701040F0B5x14A54081",
     "21M0702050A12131151471725AA01110c10A0111040A0272Sy205Te27Ab5s11c1X1b2AA5DIw15A5KRR1F3Nu5",
     "y1Z3p2B81118020U021C8Ab281k11BQe27p2Cf26Ar5Y1DA590j10E9T2W11M0Ee27020i12102097A56020b102",
     "066Ar9P6H0f12Tq21Eo1CxSb3l305Aa6ho2Z3CsY19xy34dIur6w1bs1vH6V0A3n20A5U169c29A070L4JlDw1b6",
     "x2a3h23v16H_15A2Du_57sc1e1Act8407020Z9E1S311D47iCZe2h34D296A18xw3w75qDh2k11N8q3x1s79d11Y",
     "6Kc2v3KBKBt28Pc4r20d2021112140C01070X20418070S040501270qA1a91-LE50FlY1V56q670H1702054-1W",
     "11l3j12E1A32_9VGw141lEg1r6h131_E704020F0b61Ge1i23A32mOa2h2z1X640R0201110A040101513101010",
     "302011101010101020114070404010A0H43050Hp12j8i13a3BF1F0F0b19k5t1TCi13962D6v4uU3H2D2t33_25",
     "C31EC3u17A5e17U1C32z1qABE1D2A4u16F1B596p40c3bW1Wtf1VwX45-61Yq5Dnf7EkJXj2-GXl1hw44WZ4mYtL",
     "1TW3_3m7lm_1-__11-__11"])]

/-- The groups of general categories. -/
def categoryGroups : List (List String × List String) :=
  [(["c", "other"], ["cc", "cf", "cn", "co"]),
   (["l", "letter"], ["lu", "ll", "lt", "lm", "lo"]),
   (["lc", "casedletter"], ["lu", "ll", "lt"]),
   (["m", "mark", "combiningmark"], ["mn", "mc", "me"]),
   (["n", "number"], ["nd", "nl", "no"]),
   (["p", "punctuation", "punct"], ["pc", "pd", "ps", "pe", "pi", "pf", "po"]),
   (["s", "symbol"], ["sm", "sc", "sk", "so"]),
   (["z", "separator"], ["zs", "zl", "zp"])]

def singleCategory? (name : String) : Option CharSet := lookupSet? categories name

/-- The code points of a general category, or of a group of them. -/
def category? (name : String) : Option CharSet :=
  match name with
  | "any" => some .all
  | "ascii" => some (.range 0 0x7f)
  | "assigned" => (singleCategory? "cn").map CharSet.complement
  | _ =>
    match categoryGroups.find? (·.1.contains name) with
    | some group => some (.unions (group.2.filterMap singleCategory?))
    | none => singleCategory? name

end SongPattern.Unicode
