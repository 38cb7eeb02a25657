/-!
Which characters are marks, and the writing direction of those that are not left to right, for the characters
that may stand in a domain name (as of Unicode 16.0). Numbers are in base 36.
-/

namespace PowerOfAttorney.Unicode

/-- First and last character of each run of marks. -/
def markText : String :=
  "LC.OF W3.W9 13L.14T 14V.14V 14X.14Y 150.151 153.153 174.17E 18R.19B 19S.19S 1CM.1CS 1CV.1D0 1D3.1D4
   1D6.1D9 1E9.1E9 1F4.1FU 1IE.1IO 1KB.1KJ 1KT.1KT 1LI.1LL 1LN.1LV 1LX.1LZ 1M1.1M5 1ND.1NF 1QR.1R5
   1R7.1S3 1TM.1TO 1TQ.1U7 1U9.1UF 1UQ.1UR 1VL.1VN 1X8.1X8 1XA.1XG 1XJ.1XK 1XN.1XP 1XZ.1XZ 1YA.1YB
   1Z2.1Z2 1Z5.1Z7 20S.20S 20U.20Y 213.214 217.219 21D.21D 228.229 22D.22D 22P.22R 24C.24C 24E.24L
   24N.24P 24R.24T 25E.25F 262.267 269.26B 27W.27W 27Y.284 287.288 28B.28D 28L.28N 28Y.28Z 29U.29U
   2BI.2BM 2BQ.2BS 2BU.2BX 2C7.2C7 2DC.2DG 2F2.2F8 2FA.2FC 2FE.2FH 2FP.2FQ 2G2.2G3 2GX.2GZ 2IK.2IK
   2IM.2IS 2IU.2IW 2IY.2J1 2J9.2JA 2JM.2JN 2KG.2KJ 2M3.2M4 2M6.2MC 2ME.2MG 2MI.2ML 2MV.2MV 2N6.2N7
   2O1.2O3 2Q2.2Q2 2Q7.2QC 2QE.2QE 2QG.2QN 2R6.2R7 2SX.2SX 2T0.2T6 2TJ.2TQ 2WH.2WH 2WK.2WS 2X4.2XA
   2ZC.2ZD 305.305 307.307 309.309 30E.30F 31T.32C 32E.32F 32L.32V 32X.33W 346.346 36Z.37I 386.389
   38E.38G 38I.38K 38N.38T 38X.390 39E.39P 39R.39R 3A2.3A5 3TP.3TR 4K2.4K5 4KY.4L0 4LU.4LV 4MQ.4MR
   4OM.4PF 4PP.4PP 4UD.4UE 4VD.4VD 4YO.4YZ 4Z4.4ZF 55J.55N 579.57I 57K.58C 58F.58F 59S.5AM 5C0.5C4
   5DG.5DW 5EZ.5F7 5FK.5FM 5GH.5GT 5IE.5IR 5K4.5KN 5OW.5OY 5P0.5PK 5PP.5PP 5PW.5PW 5PZ.5Q1 5VK.5XB
   6HC.6I8 8VJ.8VL 8ZJ.8ZJ 928.933 9II.9IN 9LL.9LM WVJ.WVM WVO.WVX WWU.WWV WZ4.WZ5 X6Q.X6Q X6U.X6U
   X6Z.X6Z X7N.X7R X7W.X7W XA8.XA9 XBO.XC5 XCW.XDD XDR.XDR XEU.XF1 XFR.XG3 XHC.XHF XIR.XJ4 XK5.XK5
   XM1.XME XMR.XMR XN0.XN1 XOB.XOD XPS.XPS XPU.XPW XPZ.XQ0 XQ6.XQ7 XQ9.XQ9 XRF.XRJ XRP.XRQ XYB.XYI
   XYK.XYL 1DLQ.1DLQ 1E74.1E7J 1EYL.1EYL 1F4W.1F4W 1F92.1F96 1GJL.1GJN 1GJP.1GJQ 1GJW.1GJZ 1GL4.1GL6
   1GLB.1GLB 1GPX.1GPY 1H5W.1H5Z 1HGR.1HGS 1HL2.1HLC 1HQ8.1HQA 1HRS.1HS6 1HTR.1HTU 1HV4.1HVE 1HXC.1HXE
   1HYF.1HYS 1HZ9.1HZA 1I0J.1I0J 1I0W.1I0Y 1I2B.1I2O 1I2X.1I30 1I32.1I33 1I5O.1I5Z 1I66.1I66 1IAN.1IAY
   1IBK.1IBN 1ID7.1ID8 1IDA.1IDG 1IDJ.1IDK 1IDN.1IDP 1IDZ.1IDZ 1IEA.1IEB 1IEE.1IEK 1IEO.1IES 1IK5.1IKM
   1ILA.1ILA 1INK.1IO3 1IUN.1IUT 1IUW.1IV4 1IVW.1IVX 1IY8.1IYO 1J1N.1J1Z 1J4T.1J57 1JCC.1JCQ 1JJK.1JJP
   1JJR.1JJS 1JJV.1JJY 1JK0.1JK0 1JK2.1JK3 1JO1.1JO7 1JOA.1JOG 1JOK.1JOK 1JPD.1JPM 1JQR.1JQX 1JQZ.1JR2
   1JRB.1JRB 1JRL.1JRV 1JT6.1JTL 1K4V.1K52 1K54.1K5B 1K7M.1K87 1K89.1K8M 1KC1.1KC6 1KCA.1KCA 1KCC.1KCD
   1KCF.1KCL 1KCN.1KCN 1KEI.1KEM 1KEO.1KEP 1KER.1KEV 1KOJ.1KOM 1ZOW.1ZP0 1ZQO.1ZQU 20JZ.20JZ 20K1.20LJ
   20LR.20LU 20O4.20O4 20OG.20OH 2FTP.2FTQ 2JXH.2JXL 2JXP.2JXU 2JY3.2JYA 2JYD.2JYJ 2JZE.2JZH 2K3M.2K3O
   2LMO.2LO6 2LOB.2LPO 2LPX.2LPX 2LQC.2LQC 2LQZ.2LR3 2LR5.2LRJ 2MTC.2MTI 2MTK.2MU0 2MU3.2MU9 2MUB.2MUC
   2MUE.2MUI 2N1S.2N1Y 2NE4.2NE7 2OK0.2OK6 2ON8.2ONE"

/-- First and last character of each run that is not left to right, and its direction: 1 right to left, 2 Arabic
    letters, 3 Arabic digits, 4 European digits, 5 signs between digits, 6 separators of digits, 7 signs around
    digits, 8 neutral, 9 without effect, 10 marks, 11 separators of text. -/
def directionText : String :=
  "0.8.9 9.D.B E.R.9 S.W.B X.Y.8 Z.11.7 12.16.8 17.17.5 18.18.6 19.19.5 1A.1B.6 1C.1L.4 1M.1M.6 1N.2O.8
   3F.3I.8 3J.3J.9 4H.4H.8 4I.4L.7 4M.4U.8 4W.4X.7 52.5Z.8 6V.6V.8 JD.JE.8 JM.JZ.8 K2.KT.8 KV.LB.8
   LC.OF.A OL.OL.8 S6.S6.8 W3.W9.A 13E.13I.8 13J.13J.7 13L.14T.A 14U.14U.1 14V.14V.A 14W.14W.1
   14X.14Y.A 14Z.14Z.1 150.151.A 152.152.1 153.153.A 15C.16C.1 16U.16V.8 16W.16W.2 16X.16Y.7 16Z.16Z.2
   170.170.6 171.171.2 172.173.8 174.17E.A 17F.18Q.2 18R.19B.A 19C.19L.3 19M.19M.7 19N.19O.3 19P.19R.2
   19S.19S.A 19T.1CL.2 1CM.1CS.A 1CU.1CU.8 1CV.1D0.A 1D1.1D2.2 1D3.1D4.A 1D5.1D5.8 1D6.1D9.A 1DA.1DB.2
   1DC.1DL.4 1DM.1E8.2 1E9.1E9.A 1EA.1F3.2 1F4.1FU.A 1FX.1ID.2 1IE.1IO.A 1IP.1IP.2 1J4.1KA.1 1KB.1KJ.A
   1KK.1KL.1 1KM.1KP.8 1KQ.1KQ.1 1KT.1KT.A 1KU.1LH.1 1LI.1LL.A 1LM.1LM.1 1LN.1LV.A 1LW.1LW.1 1LX.1LZ.A
   1M0.1M0.1 1M1.1M5.A 1M8.1NC.1 1ND.1NF.A 1NI.1NI.1 1NK.1QF.2 1QR.1S2.A 1TM.1TM.A 1TO.1TO.A 1TT.1U0.A
   1U5.1U5.A 1U9.1UF.A 1UQ.1UR.A 1VL.1VL.A 1X8.1X8.A 1XD.1XG.A 1XP.1XP.A 1YA.1YB.A 1YQ.1YR.7 1YZ.1YZ.7
   1Z2.1Z6.A 20S.20S.A 20X.21D.A 228.229.A 22D.22D.A 22P.22Q.A 24C.24C.A 24H.24O.A 24T.24T.A 25E.25F.A
   25T.25T.7 262.269.A 27W.27W.A 27Z.27Z.A 281.284.A 28D.28M.A 28Y.28Z.A 29U.29U.A 2BK.2BK.A 2BX.2BX.A
   2CZ.2D4.8 2D5.2D5.7 2D6.2D6.8 2DC.2DC.A 2DG.2DG.A 2F2.2F4.A 2FA.2FQ.A 2G2.2G3.A 2GO.2GU.8 2GX.2GX.A
   2IK.2IK.A 2J0.2J1.A 2JM.2JN.A 2KG.2KH.A 2M3.2M4.A 2M9.2MC.A 2ML.2ML.A 2N6.2N7.A 2O1.2O1.A 2Q2.2Q2.A
   2QA.2QE.A 2SX.2SX.A 2T0.2T6.A 2TB.2TB.7 2TJ.2TQ.A 2WH.2WH.A 2WK.2WS.A 2X4.2X9.A 2ZC.2ZD.A 305.305.A
   307.307.A 309.309.A 30A.30D.8 31T.326.A 328.32C.A 32E.32F.A 32L.33W.A 346.346.A 371.374.A 376.37B.A
   37D.37E.A 37H.37I.A 388.389.A 38E.38G.A 38X.390.A 39E.39E.A 39H.39I.A 39P.39P.A 3A5.3A5.A 3TP.3TR.A
   3V4.3VD.8 3Y8.3Y8.8 4GR.4GS.8 4K2.4K4.A 4KY.4KZ.A 4LU.4LV.A 4MQ.4MR.A 4ON.4OT.A 4P2.4P2.A 4P5.4PF.A
   4PN.4PN.7 4PP.4PP.A 4Q8.4QY.8 4UD.4UE.A 4VD.4VD.A 4YO.4YQ.A 4YV.4YW.A 4Z6.4Z6.A 4ZD.4ZF.A 4ZK.4ZP.8
   53Y.54V.8 55J.55K.A 55N.55N.A 57A.57A.A 57C.57K.A 57M.57M.A 57P.57W.A 583.58F.A 59S.5C3.A 5DG.5DG.A
   5DI.5DM.A 5DO.5DO.A 5DU.5DU.A 5EZ.5F7.A 5FK.5FL.A 5GI.5GL.A 5GO.5GP.A 5GR.5GT.A 5IE.5IE.A 5IG.5IH.A
   5IL.5IL.A 5IN.5IP.A 5KC.5KJ.A 5KM.5KN.A 5OW.5OY.A 5P0.5PC.A 5PE.5PK.A 5PP.5PP.A 5PW.5PW.A 5Q0.5Q1.A
   5VK.5XB.A 6BW.6BX.9 6C0.6CN.8 6CW.6CY.7 6D1.6DF.8 6DG.6DG.6 6DH.6E6.8 6G0.6GV.7 6HC.6I8.A 6IS.6JT.8
   6JY.6JY.7 6KA.6KT.8 6MI.6Q9.8 6QA.6QA.5 6QB.6QB.7 6QC.6YD.8 70B.710.8 712.7MZ.8 7N1.7WF.8 83K.8OV.8
   8V9.8VE.8 8VJ.8VL.A 8VT.8VZ.8 8ZJ.8ZJ.A 928.933.A 934.9HG.8 9HK.9I8.8 9II.9IL.A 9IO.9IO.8 9IV.9IV.8
   9J1.9J3.8 9LL.9LM.A 9LS.9LS.8 9OB.9OB.8 9TS.9UR.8 FCW.FEN.8 WI8.WJQ.8 WST.WSV.8 WVJ.WVM.A WVN.WVN.8
   WVO.WVX.A WVY.WVZ.8 WWU.WWV.A WZ4.WZ5.A WZK.X0H.8 X3C.X3C.8 X6Q.X6Q.A X6U.X6U.A X6Z.X6Z.A X7P.X7Q.A
   X7S.X7V.8 X7W.X7W.A X88.X89.7 X9W.X9Z.8 XC4.XC5.A XCW.XDD.A XDR.XDR.A XEU.XF1.A XFR.XG1.A XHC.XHE.A
   XIR.XIR.A XIU.XIX.A XJ0.XJ1.A XK5.XK5.A XM1.XM6.A XM9.XMA.A XMD.XME.A XMR.XMR.A XN0.XN0.A XOC.XOC.A
   XPS.XPS.A XPU.XPW.A XPZ.XQ0.A XQ6.XQ7.A XQ9.XQ9.A XRG.XRH.A XRQ.XRQ.A XUY.XUZ.8 XYD.XYD.A XYG.XYG.A
   XYL.XYL.A 1DLQ.1DLQ.A 1DPU.1DQ9.2 1E0U.1E65.8 1E74.1E7J.A 1E85.1E86.8 1E9F.1E9F.2 1ERL.1ERL.8
   1ETC.1EVG.8 1EVK.1EW0.8 1EYL.1EYL.A 1F4W.1F4W.A 1F4X.1F5N.4 1F92.1F96.A 1G5C.1GD7.1 1GDB.1GDB.8
   1GDC.1GJK.1 1GJL.1GJZ.A 1GK0.1GL1.1 1GL4.1GLB.A 1GLC.1GPW.1 1GPX.1GPY.A 1GQ3.1GS5.1 1GS9.1GSF.8
   1GSG.1H4V.1 1H4W.1H5V.2 1H5W.1H5Z.A 1H68.1HFI.3 1HFK.1HGP.1 1HGR.1HGS.A 1HGT.1HK7.1 1HKG.1HL1.2
   1HL2.1HLC.A 1HLD.1HLL.2 1HO0.1HPY.1 1HQ9.1HQ9.A 1HRS.1HS6.A 1HSI.1HT1.8 1HTR.1HTT.A 1HV7.1HVA.A
   1HVD.1HVE.A 1HXC.1HXE.A 1HYF.1HYJ.A 1HYL.1HYS.A 1I0J.1I0J.A 1I0W.1I0X.A 1I2E.1I2M.A 1I2X.1I30.A
   1I33.1I33.A 1I5R.1I5T.A 1I5W.1I5W.A 1I5Y.1I5Z.A 1I66.1I66.A 1IAN.1IAN.A 1IAR.1IAY.A 1IBK.1IBL.A
   1ID7.1ID8.A 1IDC.1IDC.A 1IEE.1IES.A 1IK8.1IKF.A 1IKI.1IKK.A 1IKM.1IKM.A 1ILA.1ILA.A 1INN.1INS.A
   1INU.1INU.A 1INZ.1IO0.A 1IO2.1IO3.A 1IUQ.1IUT.A 1IV0.1IV1.A 1IV3.1IV4.A 1IVW.1IVX.A 1IYB.1IYI.A
   1IYL.1IYL.A 1IYN.1IYO.A 1IZK.1IZW.8 1J1N.1J1N.A 1J1P.1J1P.A 1J1S.1J1X.A 1J1Z.1J1Z.A 1J4T.1J4T.A
   1J4V.1J4V.A 1J4Y.1J51.A 1J53.1J57.A 1JCF.1JCN.A 1JCP.1JCQ.A 1JJV.1JJW.A 1JJY.1JJY.A 1JK3.1JK3.A
   1JO4.1JOB.A 1JOG.1JOG.A 1JPD.1JPI.A 1JPL.1JPM.A 1JQR.1JQW.A 1JQZ.1JR2.A 1JRB.1JRB.A 1JRL.1JRQ.A
   1JRT.1JRV.A 1JT6.1JTI.A 1JTK.1JTL.A 1K4W.1K59.A 1K7M.1K87.A 1K8A.1K8G.A 1K8I.1K8J.A 1K8L.1K8M.A
   1KC1.1KCL.A 1KCN.1KCN.A 1KEO.1KEP.A 1KET.1KET.A 1KEV.1KEV.A 1KOJ.1KOK.A 1KUT.1KV0.8 1KV1.1KV4.7
   1KV5.1KVL.8 1ZOW.1ZP0.A 1ZQO.1ZQU.A 20JZ.20JZ.A 20LR.20LU.A 20O2.20O2.8 20O4.20O4.A 2FTP.2FTQ.A
   2JXJ.2JXL.A 2JY3.2JYA.A 2JYD.2JYJ.A 2JZE.2JZH.A 2K1S.2K3L.8 2K3M.2K3O.A 2K3P.2K3P.8 2K8W.2KBA.8
   2LMO.2LO6.A 2LOB.2LPO.A 2LPX.2LPX.A 2LQC.2LQC.A 2LQZ.2MUI.A 2N1S.2N1Y.A 2NE4.2NE7.A 2NEN.2NEN.7
   2OE8.2OJZ.1 2OK0.2OK6.A 2OMA.2ON7.1 2ON8.2ONE.A 2ONF.2ONZ.1 2P9T.2PFH.2 2PRK.2Q7J.8 2Q99.2Q9B.8
   2QB1.2QB1.8 2QG0.2SAY.8"

end PowerOfAttorney.Unicode
