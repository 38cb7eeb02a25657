/-!
The pairs of characters that compose into one, and, for the characters that may stand in a domain name, the order
in which marks on a character stand. Numbers are in base 36.
-/

namespace PowerOfAttorney.Unicode

/-- A character, and the two that compose into it. -/
def compositionText : String :=
  "5C.1T.LC 5D.1T.LD 5E.1T.LE 5F.1T.LF 5G.1T.LK 5H.1T.LM 5J.1V.MF 5K.1X.LC 5L.1X.LD 5M.1X.LE 5N.1X.LK
   5O.21.LC 5P.21.LD 5Q.21.LE 5R.21.LK 5T.26.LF 5U.27.LC 5V.27.LD 5W.27.LE 5X.27.LF 5Y.27.LK 61.2D.LC
   62.2D.LD 63.2D.LE 64.2D.LK 65.2H.LD 68.2P.LC 69.2P.LD 6A.2P.LE 6B.2P.LF 6C.2P.LK 6D.2P.LM 6F.2R.MF
   6G.2T.LC 6H.2T.LD 6I.2T.LE 6J.2T.LK 6K.2X.LC 6L.2X.LD 6M.2X.LE 6N.2X.LK 6P.32.LF 6Q.33.LC 6R.33.LD
   6S.33.LE 6T.33.LF 6U.33.LK 6X.39.LC 6Y.39.LD 6Z.39.LE 70.39.LK 71.3D.LD 73.3D.LK 74.1T.LG 75.2P.LG
   76.1T.LI 77.2P.LI 78.1T.MG 79.2P.MG 7A.1V.LD 7B.2R.LD 7C.1V.LE 7D.2R.LE 7E.1V.LJ 7F.2R.LJ 7G.1V.LO
   7H.2R.LO 7I.1W.LO 7J.2S.LO 7M.1X.LG 7N.2T.LG 7O.1X.LI 7P.2T.LI 7Q.1X.LJ 7R.2T.LJ 7S.1X.MG 7T.2T.MG
   7U.1X.LO 7V.2T.LO 7W.1Z.LE 7X.2V.LE 7Y.1Z.LI 7Z.2V.LI 80.1Z.LJ 81.2V.LJ 82.1Z.MF 83.2V.MF 84.20.LE
   85.2W.LE 88.21.LF 89.2X.LF 8A.21.LG 8B.2X.LG 8C.21.LI 8D.2X.LI 8E.21.MG 8F.2X.MG 8G.21.LJ 8K.22.LE
   8L.2Y.LE 8M.23.MF 8N.2Z.MF 8P.24.LD 8Q.30.LD 8R.24.MF 8S.30.MF 8T.24.LO 8U.30.LO 8Z.26.LD 90.32.LD
   91.26.MF 92.32.MF 93.26.LO 94.32.LO 98.27.LG 99.33.LG 9A.27.LI 9B.33.LI 9C.27.LN 9D.33.LN 9G.2A.LD
   9H.36.LD 9I.2A.MF 9J.36.MF 9K.2A.LO 9L.36.LO 9M.2B.LD 9N.37.LD 9O.2B.LE 9P.37.LE 9Q.2B.MF 9R.37.MF
   9S.2B.LO 9T.37.LO 9U.2C.MF 9V.38.MF 9W.2C.LO 9X.38.LO A0.2D.LF A1.39.LF A2.2D.LG A3.39.LG A4.2D.LI
   A5.39.LI A6.2D.LM A7.39.LM A8.2D.LN A9.39.LN AA.2D.MG AB.39.MG AC.2F.LE AD.3B.LE AE.2H.LE AF.3D.LE
   AG.2H.LK AH.2I.LD AI.3E.LD AJ.2I.LJ AK.3E.LJ AL.2I.LO AM.3E.LO BK.27.M3 BL.33.M3 BZ.2D.M3 C0.39.M3
   CT.1T.LO CU.2P.LO CV.21.LO CW.2X.LO CX.27.LO CY.33.LO CZ.2D.LO D0.39.LO D1.64.LG D2.70.LG D3.64.LD
   D4.70.LD D5.64.LO D6.70.LO D7.64.LC D8.70.LC DA.5G.LG DB.6C.LG DC.FA.LG DD.FB.LG DE.5I.LG DF.6E.LG
   DI.1Z.LO DJ.2V.LO DK.23.LO DL.2Z.LO DM.27.MG DN.33.MG DO.DM.LG DP.DN.LG DQ.C7.LO DR.IA.LO DS.2Y.LO
   DW.1Z.LD DX.2V.LD E0.26.LC E1.32.LC E2.5H.LD E3.6D.LD E4.5I.LD E5.6E.LD E6.60.LD E7.6W.LD E8.1T.LR
   E9.2P.LR EA.1T.LT EB.2P.LT EC.1X.LR ED.2T.LR EE.1X.LT EF.2T.LT EG.21.LR EH.2X.LR EI.21.LT EJ.2X.LT
   EK.27.LR EL.33.LR EM.27.LT EN.33.LT EO.2A.LR EP.36.LR EQ.2A.LT ER.36.LT ES.2D.LR ET.39.LR EU.2D.LT
   EV.39.LT EW.2B.ME EX.37.ME EY.2C.ME EZ.38.ME F2.20.LO F3.2W.LO FA.1T.LJ FB.2P.LJ FC.1X.MF FD.2T.MF
   FE.5Y.LG FF.6U.LG FG.5X.LG FH.6T.LG FI.27.LJ FJ.33.LJ FK.FI.LG FL.FJ.LG FM.2H.LG FN.3D.LG P1.4O.LD
   P2.PD.LD P4.PH.LD P5.PJ.LD P6.PL.LD P8.PR.LD PA.PX.LD PB.Q1.LD PC.QY.LD Q2.PL.LK Q3.PX.LK Q4.Q9.LD
   Q5.QD.LD Q6.QF.LD Q7.QH.LD Q8.QZ.LD QY.QH.LK QZ.QT.LK R0.QN.LD R1.QT.LD R2.QX.LD R7.R6.LD R8.R6.LK
   SG.T1.LC SH.T1.LK SJ.SZ.LD SN.SM.LK SS.T6.LD ST.T4.LC SU.TF.LI T5.T4.LI U1.U0.LI UO.TX.LC UP.TX.LK
   UR.TV.LD UV.UU.LK V0.U2.LD V1.U0.LC V2.UB.LI VQ.VO.LR VR.VP.LR XT.T2.LI XU.TY.LI Y8.SW.LI Y9.TS.LI
   YA.SW.LK YB.TS.LK YE.T1.LI YF.TX.LI YI.YG.LK YJ.YH.LK YK.T2.LK YL.TY.LK YM.T3.LK YN.TZ.LK YQ.T4.LG
   YR.U0.LG YS.T4.LK YT.U0.LK YU.TA.LK YV.U6.LK YY.YW.LK YZ.YX.LK Z0.TP.LK Z1.UL.LK Z2.TF.LG Z3.UB.LG
   Z4.TF.LK Z5.UB.LK Z6.TF.LN Z7.UB.LN Z8.TJ.LK Z9.UF.LK ZC.TN.LK ZD.UJ.LK 17M.17R.18Z 17N.17R.190
   17O.18O.190 17P.17R.191 17Q.18Q.190 1C0.1CL.190 1C2.1C1.190 1CJ.1CI.190 1T5.1T4.1TO 1TD.1TC.1TO
   1TG.1TF.1TO 1XN.1XJ.1XA 1XO.1XJ.1XZ 288.287.28M 28B.287.27Y 28C.287.28N 2AC.2AA.2C7 2BU.2BQ.2BI
   2BV.2BR.2BI 2BW.2BQ.2C7 2FC.2FA.2FQ 2IO.2IN.2J9 2IV.2IU.2J9 2IW.2IU.2JA 2IY.2IU.2IQ 2IZ.2IY.2J9
   2MI.2ME.2M6 2MJ.2MF.2M6 2MK.2ME.2MV 2QI.2QH.2Q2 2QK.2QH.2Q7 2QL.2QK.2Q2 2QM.2QH.2QN 36U.36T.372
   5C6.5C5.5DH 5C8.5C7.5DH 5CA.5C9.5DH 5CC.5CB.5DH 5CE.5CD.5DH 5CI.5CH.5DH 5DN.5DM.5DH 5DP.5DO.5DH
   5DS.5DQ.5DH 5DT.5DR.5DH 5DV.5DU.5DH 5XC.1T.MD 5XD.2P.MD 5XE.1U.LJ 5XF.2Q.LJ 5XG.1U.MB 5XH.2Q.MB
   5XI.1U.MP 5XJ.2Q.MP 5XK.5J.LD 5XL.6F.LD 5XM.1W.LJ 5XN.2S.LJ 5XO.1W.MB 5XP.2S.MB 5XQ.1W.MP 5XR.2S.MP
   5XS.1W.MF 5XT.2S.MF 5XU.1W.ML 5XV.2S.ML 5XW.7M.LC 5XX.7N.LC 5XY.7M.LD 5XZ.7N.LD 5Y0.1X.ML 5Y1.2T.ML
   5Y2.1X.MO 5Y3.2T.MO 5Y4.FC.LI 5Y5.FD.LI 5Y6.1Y.LJ 5Y7.2U.LJ 5Y8.1Z.LG 5Y9.2V.LG 5YA.20.LJ 5YB.2W.LJ
   5YC.20.MB 5YD.2W.MB 5YE.20.LK 5YF.2W.LK 5YG.20.MF 5YH.2W.MF 5YI.20.MM 5YJ.2W.MM 5YK.21.MO 5YL.2X.MO
   5YM.5R.LD 5YN.6N.LD 5YO.23.LD 5YP.2Z.LD 5YQ.23.MB 5YR.2Z.MB 5YS.23.MP 5YT.2Z.MP 5YU.24.MB 5YV.30.MB
   5YW.5YU.LG 5YX.5YV.LG 5YY.24.MP 5YZ.30.MP 5Z0.24.ML 5Z1.30.ML 5Z2.25.LD 5Z3.31.LD 5Z4.25.LJ
   5Z5.31.LJ 5Z6.25.MB 5Z7.31.MB 5Z8.26.LJ 5Z9.32.LJ 5ZA.26.MB 5ZB.32.MB 5ZC.26.MP 5ZD.32.MP 5ZE.26.ML
   5ZF.32.ML 5ZG.5X.LD 5ZH.6T.LD 5ZI.5X.LK 5ZJ.6T.LK 5ZK.98.LC 5ZL.99.LC 5ZM.98.LD 5ZN.99.LD 5ZO.28.LD
   5ZP.34.LD 5ZQ.28.LJ 5ZR.34.LJ 5ZS.2A.LJ 5ZT.36.LJ 5ZU.2A.MB 5ZV.36.MB 5ZW.5ZU.LG 5ZX.5ZV.LG
   5ZY.2A.MP 5ZZ.36.MP 600.2B.LJ 601.37.LJ 602.2B.MB 603.37.MB 604.9M.LJ 605.9N.LJ 606.9S.LJ 607.9T.LJ
   608.602.LJ 609.603.LJ 60A.2C.LJ 60B.38.LJ 60C.2C.MB 60D.38.MB 60E.2C.MP 60F.38.MP 60G.2C.ML
   60H.38.ML 60I.2D.MC 60J.39.MC 60K.2D.MO 60L.39.MO 60M.2D.ML 60N.39.ML 60O.A0.LD 60P.A1.LD 60Q.A2.LK
   60R.A3.LK 60S.2E.LF 60T.3A.LF 60U.2E.MB 60V.3A.MB 60W.2F.LC 60X.3B.LC 60Y.2F.LD 60Z.3B.LD 610.2F.LK
   611.3B.LK 612.2F.LJ 613.3B.LJ 614.2F.MB 615.3B.MB 616.2G.LJ 617.3C.LJ 618.2G.LK 619.3C.LK 61A.2H.LJ
   61B.3D.LJ 61C.2I.LE 61D.3E.LE 61E.2I.MB 61F.3E.MB 61G.2I.MP 61H.3E.MP 61I.2W.MP 61J.38.LK 61K.3B.LM
   61L.3D.LM 61N.AN.LJ 61S.1T.MB 61T.2P.MB 61U.1T.LL 61V.2P.LL 61W.5E.LD 61X.6A.LD 61Y.5E.LC 61Z.6A.LC
   620.5E.LL 621.6A.LL 622.5E.LF 623.6A.LF 624.61S.LE 625.61T.LE 626.76.LD 627.77.LD 628.76.LC
   629.77.LC 62A.76.LL 62B.77.LL 62C.76.LF 62D.77.LF 62E.61S.LI 62F.61T.LI 62G.1X.MB 62H.2T.MB
   62I.1X.LL 62J.2T.LL 62K.1X.LF 62L.2T.LF 62M.5M.LD 62N.6I.LD 62O.5M.LC 62P.6I.LC 62Q.5M.LL 62R.6I.LL
   62S.5M.LF 62T.6I.LF 62U.62G.LE 62V.62H.LE 62W.21.LL 62X.2X.LL 62Y.21.MB 62Z.2X.MB 630.27.MB
   631.33.MB 632.27.LL 633.33.LL 634.5W.LD 635.6S.LD 636.5W.LC 637.6S.LC 638.5W.LL 639.6S.LL 63A.5W.LF
   63B.6S.LF 63C.630.LE 63D.631.LE 63E.BK.LD 63F.BL.LD 63G.BK.LC 63H.BL.LC 63I.BK.LL 63J.BL.LL
   63K.BK.LF 63L.BL.LF 63M.BK.MB 63N.BL.MB 63O.2D.MB 63P.39.MB 63Q.2D.LL 63R.39.LL 63S.BZ.LD 63T.C0.LD
   63U.BZ.LC 63V.C0.LC 63W.BZ.LL 63X.C0.LL 63Y.BZ.LF 63Z.C0.LF 640.BZ.MB 641.C0.MB 642.2H.LC 643.3D.LC
   644.2H.MB 645.3D.MB 646.2H.LL 647.3D.LL 648.2H.LF 649.3D.LF 64G.Q9.LV 64H.Q9.LW 64I.64G.LC
   64J.64H.LC 64K.64G.LD 64L.64H.LD 64M.64G.N6 64N.64H.N6 64O.PD.LV 64P.PD.LW 64Q.64O.LC 64R.64P.LC
   64S.64O.LD 64T.64P.LD 64U.64O.N6 64V.64P.N6 64W.QD.LV 64X.QD.LW 64Y.64W.LC 64Z.64X.LC 650.64W.LD
   651.64X.LD 654.PH.LV 655.PH.LW 656.654.LC 657.655.LC 658.654.LD 659.655.LD 65C.QF.LV 65D.QF.LW
   65E.65C.LC 65F.65D.LC 65G.65C.LD 65H.65D.LD 65I.65C.N6 65J.65D.N6 65K.PJ.LV 65L.PJ.LW 65M.65K.LC
   65N.65L.LC 65O.65K.LD 65P.65L.LD 65Q.65K.N6 65R.65L.N6 65S.QH.LV 65T.QH.LW 65U.65S.LC 65V.65T.LC
   65W.65S.LD 65X.65T.LD 65Y.65S.N6 65Z.65T.N6 660.PL.LV 661.PL.LW 662.660.LC 663.661.LC 664.660.LD
   665.661.LD 666.660.N6 667.661.N6 668.QN.LV 669.QN.LW 66A.668.LC 66B.669.LC 66C.668.LD 66D.669.LD
   66G.PR.LV 66H.PR.LW 66I.66G.LC 66J.66H.LC 66K.66G.LD 66L.66H.LD 66O.QT.LV 66P.QT.LW 66Q.66O.LC
   66R.66P.LC 66S.66O.LD 66T.66P.LD 66U.66O.N6 66V.66P.N6 66X.PX.LW 66Z.66X.LC 671.66X.LD 673.66X.N6
   674.QX.LV 675.QX.LW 676.674.LC 677.675.LC 678.674.LD 679.675.LD 67A.674.N6 67B.675.N6 67C.Q1.LV
   67D.Q1.LW 67E.67C.LC 67F.67D.LC 67G.67C.LD 67H.67D.LD 67I.67C.N6 67J.67D.N6 67K.Q9.LC 67M.QD.LC
   67O.QF.LC 67Q.QH.LC 67S.QN.LC 67U.QT.LC 67W.QX.LC 680.64G.N9 681.64H.N9 682.64I.N9 683.64J.N9
   684.64K.N9 685.64L.N9 686.64M.N9 687.64N.N9 688.64O.N9 689.64P.N9 68A.64Q.N9 68B.64R.N9 68C.64S.N9
   68D.64T.N9 68E.64U.N9 68F.64V.N9 68G.65C.N9 68H.65D.N9 68I.65E.N9 68J.65F.N9 68K.65G.N9 68L.65H.N9
   68M.65I.N9 68N.65J.N9 68O.65K.N9 68P.65L.N9 68Q.65M.N9 68R.65N.N9 68S.65O.N9 68T.65P.N9 68U.65Q.N9
   68V.65R.N9 68W.674.N9 68X.675.N9 68Y.676.N9 68Z.677.N9 690.678.N9 691.679.N9 692.67A.N9 693.67B.N9
   694.67C.N9 695.67D.N9 696.67E.N9 697.67F.N9 698.67G.N9 699.67H.N9 69A.67I.N9 69B.67J.N9 69C.Q9.LI
   69D.Q9.LG 69E.67K.N9 69F.Q9.N9 69G.Q4.N9 69I.Q9.N6 69J.69I.N9 69K.PD.LI 69L.PD.LG 69M.PD.LC
   69O.PD.N9 69T.4O.N6 69U.67O.N9 69V.QF.N9 69W.Q6.N9 69Y.QF.N6 69Z.69Y.N9 6A0.PH.LC 6A2.PJ.LC
   6A4.PJ.N9 6A5.69R.LC 6A6.69R.LD 6A7.69R.N6 6A8.QH.LI 6A9.QH.LG 6AA.QY.LC 6AE.QH.N6 6AF.QY.N6
   6AG.PL.LI 6AH.PL.LG 6AI.PL.LC 6AL.6BI.LC 6AM.6BI.LD 6AN.6BI.N6 6AO.QT.LI 6AP.QT.LG 6AQ.QZ.LC
   6AS.QP.LV 6AT.QP.LW 6AU.QT.N6 6AV.QZ.N6 6AW.PX.LI 6AX.PX.LG 6AY.PX.LC 6B0.PT.LW 6B1.4O.LC 6B6.67W.N9
   6B7.QX.N9 6B8.R2.N9 6BA.QX.N6 6BB.6BA.N9 6BC.PR.LC 6BE.Q1.LC 6BG.Q1.N9 6MY.6MO.MW 6MZ.6MQ.MW
   6NI.6MS.MW 6OD.6OG.MW 6OE.6OK.MW 6OF.6OI.MW 6PW.6PV.MW 6Q1.6Q0.MW 6Q4.6Q3.MW 6QS.6QR.MW 6QU.6QT.MW
   6RL.6RG.MW 6RO.6RN.MW 6RR.6RP.MW 6RT.6RS.MW 6SG.1P.MW 6SI.6SH.MW 6ST.6RX.MW 6SU.1O.MW 6SV.1Q.MW
   6SW.6SK.MW 6SX.6SL.MW 6T0.6SY.MW 6T1.6SZ.MW 6T4.6T2.MW 6T5.6T3.MW 6TC.6T6.MW 6TD.6T7.MW 6TG.6TE.MW
   6TH.6TF.MW 6TK.6TI.MW 6TL.6TJ.MW 6UK.6UA.MW 6UL.6UG.MW 6UM.6UH.MW 6UN.6UJ.MW 6W0.6T8.MW 6W1.6T9.MW
   6W2.6TT.MW 6W3.6TU.MW 6WA.6UQ.MW 6WB.6UR.MW 6WC.6US.MW 6WD.6UT.MW 9JG.9JF.9LL 9JI.9JH.9LL
   9JK.9JJ.9LL 9JM.9JL.9LL 9JO.9JN.9LL 9JQ.9JP.9LL 9JS.9JR.9LL 9JU.9JT.9LL 9JW.9JV.9LL 9JY.9JX.9LL
   9K0.9JZ.9LL 9K2.9K1.9LL 9K5.9K4.9LL 9K7.9K6.9LL 9K9.9K8.9LL 9KG.9KF.9LL 9KH.9KF.9LM 9KJ.9KI.9LL
   9KK.9KI.9LM 9KM.9KL.9LL 9KN.9KL.9LM 9KP.9KO.9LL 9KQ.9KO.9LM 9KS.9KR.9LL 9KT.9KR.9LM 9LG.9JA.9LL
   9LQ.9LP.9LL 9M4.9M3.9LL 9M6.9M5.9LL 9M8.9M7.9LL 9MA.9M9.9LL 9MC.9MB.9LL 9ME.9MD.9LL 9MG.9MF.9LL
   9MI.9MH.9LL 9MK.9MJ.9LL 9MM.9ML.9LL 9MO.9MN.9LL 9MQ.9MP.9LL 9MT.9MS.9LL 9MV.9MU.9LL 9MX.9MW.9LL
   9N4.9N3.9LL 9N5.9N3.9LM 9N7.9N6.9LL 9N8.9N6.9LM 9NA.9N9.9LL 9NB.9N9.9LM 9ND.9NC.9LL 9NE.9NC.9LM
   9NG.9NF.9LL 9NH.9NF.9LM 9O4.9LY.9LL 9O7.9NZ.9LL 9O8.9O0.9LL 9O9.9O1.9LL 9OA.9O2.9LL 9OE.9OD.9LL
   1HUI.1HUH.1HVE 1HUK.1HUJ.1HVE 1HUZ.1HUT.1HVE 1HYM.1HYP.1HYF 1HYN.1HYQ.1HYF 1IDN.1IDJ.1IDA
   1IDO.1IDJ.1IDZ 1INV.1INT.1INU 1INW.1INT.1INK 1INY.1INT.1INX 1IUY.1IUW.1IUN 1IUZ.1IUX.1IUN
   1JJS.1JJP.1JJK"

/-- First and last character of a run of marks, and the class by which marks are ordered. -/
def orderingText : String :=
  "LC.LW.6E LX.LX.6G LY.M1.64 M2.M2.6G M3.M3.60 M4.M8.64 M9.MA.5M MB.ME.64 MF.MG.5M MH.MR.64 MS.MW.1
   MX.N0.64 N1.N8.6E NA.NA.6E NB.ND.64 NE.NG.6E NH.NI.64 NK.NM.6E NN.NQ.64 NR.NR.6E NS.NS.6G NT.NU.64
   NV.NV.6E NW.NW.6H NX.NY.6I NZ.NZ.6H O0.O1.6I O2.O2.6H O3.OF.6E W3.W7.6E 13L.13L.64 13M.13P.6E
   13Q.13Q.64 13R.13T.6E 13U.13U.66 13V.13V.64 13W.141.6E 142.147.64 148.149.6E 14A.14A.64 14B.14C.6E
   14D.14D.66 14E.14E.6C 14F.14F.6E 14G.14G.A 14H.14H.B 14I.14I.C 14J.14J.D 14K.14K.E 14L.14L.F
   14M.14M.G 14N.14N.H 14O.14O.I 14P.14Q.J 14R.14R.K 14S.14S.L 14T.14T.M 14V.14V.N 14X.14X.O 14Y.14Y.P
   150.150.6E 151.151.64 153.153.I 174.17B.6E 17C.17C.U 17D.17D.V 17E.17E.W 18R.18R.R 18S.18S.S
   18T.18T.T 18U.18U.U 18V.18V.V 18W.18W.W 18X.18X.X 18Y.18Y.Y 18Z.190.6E 191.192.64 193.197.6E
   198.198.64 199.19A.6E 19B.19B.64 19S.19S.Z 1CM.1CS.6E 1CV.1CY.6E 1CZ.1CZ.64 1D0.1D0.6E 1D3.1D4.6E
   1D6.1D6.64 1D7.1D8.6E 1D9.1D9.64 1E9.1E9.10 1F4.1F4.6E 1F5.1F5.64 1F6.1F7.6E 1F8.1F8.64 1F9.1FA.6E
   1FB.1FD.64 1FE.1FE.6E 1FF.1FG.64 1FH.1FH.6E 1FI.1FI.64 1FJ.1FL.6E 1FM.1FM.64 1FN.1FN.6E 1FO.1FO.64
   1FP.1FP.6E 1FQ.1FQ.64 1FR.1FR.6E 1FS.1FS.64 1FT.1FU.6E 1KB.1KH.6E 1KI.1KI.64 1KJ.1KJ.6E 1KT.1KT.64
   1LI.1LL.6E 1LN.1LV.6E 1LX.1LZ.6E 1M1.1M5.6E 1ND.1NF.64 1QR.1QR.64 1QS.1R5.6E 1R7.1R7.64 1R8.1R9.6E
   1RA.1RA.64 1RB.1RC.6E 1RD.1RD.64 1RE.1RG.6E 1RH.1RJ.64 1RK.1RK.R 1RL.1RL.S 1RM.1RM.T 1RN.1RP.6E
   1RQ.1RQ.64 1RR.1RS.6E 1RT.1RU.64 1RV.1RZ.6E 1TO.1TO.7 1U5.1U5.9 1U9.1U9.6E 1UA.1UA.64 1UB.1UC.6E
   1X8.1X8.7 1XP.1XP.9 1Z2.1Z2.6E 20S.20S.7 219.219.9 24C.24C.7 24T.24T.9 27W.27W.7 28D.28D.9 2BX.2BX.9
   2FH.2FH.9 2FP.2FP.2C 2FQ.2FQ.2J 2IK.2IK.7 2J1.2J1.9 2M3.2M4.9 2ML.2ML.9 2Q2.2Q2.9 2T4.2T5.2V
   2T6.2T6.9 2TK.2TN.2Z 2WO.2WP.3A 2WQ.2WQ.9 2X4.2X7.3E 2ZC.2ZD.64 305.305.64 307.307.64 309.309.60
   31T.31T.3L 31U.31U.3M 31W.31W.3O 322.325.3M 328.328.3M 32A.32B.6E 32C.32C.9 32E.32F.6E 346.346.64
   37B.37B.7 37D.37E.9 39P.39P.64 3TP.3TR.6E 4K4.4K5.9 4L0.4L0.9 4PE.4PE.9 4PP.4PP.6E 4VD.4VD.6C
   4ZD.4ZD.66 4ZE.4ZE.6E 4ZF.4ZF.64 55J.55J.6E 55K.55K.64 57K.57K.9 585.58C.6E 58F.58F.64 59S.59W.6E
   59X.5A2.64 5A3.5A4.6E 5A5.5A5.64 5A7.5A8.64 5DG.5DG.7 5DW.5DW.9 5EZ.5EZ.6E 5F0.5F0.64 5F1.5F7.6E
   5GQ.5GR.9 5IE.5IE.7 5IQ.5IR.9 5KN.5KN.7 5OW.5OY.6E 5P0.5P0.1 5P1.5P5.64 5P6.5P7.6E 5P8.5PB.64
   5PC.5PC.6E 5PE.5PK.1 5PP.5PP.64 5PW.5PW.6E 5Q0.5Q1.6E 5VK.5VL.6E 5VM.5VM.64 5VN.5VT.6E 5VU.5VU.64
   5VV.5VW.6E 5VX.5VX.6I 5VY.5VY.5Y 5VZ.5VZ.64 5W0.5W0.5M 5W1.5X1.6E 5X2.5X2.6G 5X3.5X4.6C 5X5.5X5.64
   5X7.5X7.6E 5X8.5X8.6H 5X9.5X9.64 5XA.5XA.6E 5XB.5XB.64 6HC.6HD.6E 6HE.6HF.1 6HG.6HJ.6E 6HK.6HM.1
   6HN.6HO.6E 6HT.6HT.6E 6HX.6HY.1 6HZ.6HZ.6E 6I0.6I0.64 6I1.6I1.6E 6I2.6I3.1 6I4.6I7.64 6I8.6I8.6E
   8VJ.8VL.6E 8ZJ.8ZJ.9 928.933.6E 9II.9II.62 9IJ.9IJ.6C 9IK.9IK.6G 9IL.9IL.66 9IM.9IN.68 9LL.9LM.8
   WVJ.WVJ.6E WVO.WVX.6E WWU.WWV.6E WZ4.WZ5.6E X6U.X6U.9 X7W.X7W.9 XC4.XC4.9 XCW.XDD.6E XEZ.XF1.64
   XG3.XG3.9 XIR.XIR.7 XJ4.XJ4.9 XPS.XPS.6E XPU.XPV.6E XPW.XPW.64 XPZ.XQ0.6E XQ6.XQ7.6E XQ9.XQ9.6E
   XRQ.XRQ.9 XYL.XYL.9 1DLQ.1DLQ.Q 1E74.1E7A.6E 1E7B.1E7H.64 1E7I.1E7J.6E 1EYL.1EYL.64 1F4W.1F4W.64
   1F92.1F96.6E 1GJX.1GJX.64 1GJZ.1GJZ.6E 1GL4.1GL4.6E 1GL5.1GL5.1 1GL6.1GL6.64 1GLB.1GLB.9
   1GPX.1GPX.6E 1GPY.1GPY.64 1H5W.1H5Z.6E 1HGR.1HGS.6E 1HL2.1HL3.64 1HL4.1HL6.6E 1HL7.1HL7.64
   1HL8.1HL8.6E 1HL9.1HLC.64 1HS6.1HS6.9 1HTR.1HTR.9 1HVD.1HVD.9 1HVE.1HVE.7 1HXC.1HXE.6E 1HYR.1HYS.9
   1I0J.1I0J.7 1I2O.1I2O.9 1I2Y.1I2Y.7 1I5X.1I5X.9 1I5Y.1I5Y.7 1IAX.1IAX.7 1IAY.1IAY.9 1ID7.1ID8.7
   1IDP.1IDP.9 1IEE.1IEK.6E 1IEO.1IES.6E 1IKI.1IKI.9 1IKM.1IKM.7 1ILA.1ILA.6E 1IO2.1IO2.9 1IO3.1IO3.7
   1IV3.1IV3.9 1IV4.1IV4.7 1IYN.1IYN.9 1J1Y.1J1Y.9 1J1Z.1J1Z.7 1J57.1J57.9 1JCP.1JCP.9 1JCQ.1JCQ.7
   1JJX.1JJY.9 1JK3.1JK3.7 1JOG.1JOG.9 1JQS.1JQS.9 1JRB.1JRB.9 1JTL.1JTL.9 1K5B.1K5B.9 1KCI.1KCI.7
   1KCK.1KCL.9 1KEV.1KEV.9 1ZOW.1ZP0.1 1ZQO.1ZQU.6E 20OG.20OH.6 2FTQ.2FTQ.1 2JXH.2JXI.60 2JXJ.2JXL.1
   2JXP.2JXP.6A 2JXQ.2JXU.60 2JY3.2JYA.64 2JYD.2JYH.6E 2JYI.2JYJ.64 2JZE.2JZH.6E 2K3M.2K3O.6E
   2MTC.2MTI.6E 2MTK.2MU0.6E 2MU3.2MU9.6E 2MUB.2MUC.6E 2MUE.2MUI.6E 2N1S.2N1Y.6E 2NE4.2NE7.6E
   2OK0.2OK6.64 2ON8.2OND.6E 2ONE.2ONE.7"

end PowerOfAttorney.Unicode
