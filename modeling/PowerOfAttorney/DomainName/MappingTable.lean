/-!
What each character becomes in a domain name: the Unicode table for domain names, version 13.0, without the
stricter rules for ASCII.

The rows follow one another from U+0000 on. The letter of a row says what happens to its characters: `v` they
stay, `x` they are refused, `i` they are dropped, `a` every other one becomes the next character, `s` they become
consecutive characters from the one named after the point, `m` a single one becomes all that are named. The number
after any letter but `m` is how many characters the row covers, 1 where it is left out. Numbers are in base 36.
-/

namespace PowerOfAttorney.DomainName

/-- The rows of the mapping table. -/
def mappingText : String :=
  "v1T sQ.2P v11 xW s.W v7 mW.LK v s.2P v2 i v mW.LG v2 s2.1E mW.LD s.QK v2 mW.MF s.1D s.33 v
   m1D.6DG.1G m1D.6DG.1E m1F.6DG.1G v sN.68 v s7.6W vX a1C m2X.LJ v m2X.2Y m2X.2Y a4 v a6 m30.53 m30.53
   a8 mJG.32 a1A s.73 a6 s.37 v s.GJ a4 s.GK s.AW v s2.GM s.B0 v2 s.D9 s.GP s.GR s.B6 v s.GW s.GZ v
   s.H5 s.H4 s.BD v3 s.HB s.HE v s.HH a6 s.HS s.BS v s.HV v2 s.BX v s.I0 s.C0 v s2.I2 a4 s.IA s.C9 v3
   s.CD v7 m2S.AM m2S.AM m2S.AM m30.2Y m30.2Y m30.2Y m32.2Y m32.2Y m32.2Y aG v aI v m2S.3E m2S.3E
   m2S.3E s.DX v s.B9 s.CF a14 s.BI v aI v6 s.8RP s.FW v s.BE s.8RQ v2 s.G2 v s.AO s.I1 s.I4 aA v2O
   s.2W s.H2 s.2Y s.36 s.HL s.HN s.HT s.3B s.3D vV mW.LI mW.LJ mW.LM mW.MG mW.LF mW.LN v2 s.GZ s.30
   s.37 s.3C s.ID v2J s2.LC v s.LV mLK.LD s.QH v9 i vW a4 s.JD v s.ON v x2 mW.QH v3 s.1N s.S3 x4 mW.LD
   mW.LK.LD s.Q4 s.53 s3.Q5 x s.R0 x s2.R1 v sH.Q9 x s9.QR vZ s.RB s.QA s.QG s.QT s.R1 s.QZ s.QU s.QO v
   aO s.QI s.QP s.QR v s.QG s.QD v s.S8 v s.QR s.SB v2 s3.OR sG.UO sW.TS v1C aY v8 a1I x aE v a2O x
   s12.129 x2 v1A m12D.136 v3 x2 v3 x v1J x8 vR x4 v6 xH vM x2 v2F m17R.19W m18O.19W m1C7.19W m18Q.19W
   v2S x v1C x2 v1N x2 v2T xE v1N x2 v1D x2 vF x vS x2 v x vB x1H vL x vI xB vF x v39 m1SL.1TO m1SM.1TO
   m1SN.1TO m1SS.1TO m1SX.1TO m1SY.1TO m1T7.1TO m1TB.1TO v10 x v8 x2 v2 x2 vM x v7 x v x3 v4 x2 v9 x2
   v2 x2 v4 x8 v x4 m1WH.1X8 m1WI.1X8 x m1WV.1X8 v4 x2 vP x2 v3 x v6 x4 v2 x2 vM x v7 x v m20I.20S x v
   m20O.20S x v2 x2 v x v5 x4 v2 x2 v3 x3 v x7 m1ZQ.20S m1ZR.20S m1ZW.20S v x m20B.20S x7 vH xA v3 x v9
   x v3 x vM x v7 x v2 x v5 x2 vA x v3 x v3 x2 v xF v4 x2 vC x7 v7 x v3 x v8 x2 v2 x2 vM x v7 x v2 x v5
   x2 v9 x2 v2 x2 v3 x7 v3 x4 m275.27W m276.27W x v5 x2 vI xA v2 x v6 x3 v3 x v4 x3 v2 x v x v2 x3 v2
   x3 v3 x3 vC x4 v5 x3 v3 x v4 x2 v x6 v xE vL x5 vD x v3 x vN x vG x3 v8 x v3 x v4 x7 v2 x v3 x5 v4
   x2 vA x7 vM x v3 x vN x vA x v5 x2 v9 x v3 x v4 x7 v2 x7 v x v4 x2 vA x v2 xD vD x v3 x v1F x v3 x
   v6 x4 vG x2 vQ x v3 x vI x3 vO x v9 x v x2 v7 x3 v x4 v6 x v x v8 x6 vA x2 v3 xC v1E m2TP.2SY v7 x4
   vT x11 v2 x v x v5 x vO x v x vC m2X9.2WI vA x2 v5 x v x v6 x2 vA x2 m2WB.2VT m2WB.2W1 v2 xW vC
   s.2YZ v1I m30I.33R v4 x v4 m30S.33R v4 m30X.33R v4 m312.33R v4 m317.33R vC m30G.33P v3 x4 v2
   m31T.31U v m31T.31W m33M.328 m33M.31T.328 m33N.328 m33N.31T.328 v7 m31T.328 vH m32Q.33R v4 x v4
   m330.33R v4 m335.33R v4 m33A.33R v4 m33F.33R vC m32O.33P v3 x vF x vD x11 v4G x13 s.8X3 x5 s.8X9 x2
   v18 s.3BW v2Q x2 v6G x v4 x2 v7 x v x v4 x2 v15 x v4 x2 vX x v4 x2 v7 x v x v4 x2 vF x v1L x v4 x2
   v1V x2 vW x3 vQ x6 v2E x2 s6.3XS x2 vHS x vS x3 v2H x7 vD x v7 xB vN x9 vK xC vD x v3 x v2 xC v1G x2
   v14 x2 vA x6 vA x6 v6 x v4 i3 x2 vA x6 v2H x7 v17 x5 v1Y xA vV x vC x4 vC x4 v x3 v16 x2 v5 xB v18
   x4 vQ x6 vB x3 v1Q x2 v1T x vT x2 vB x6 vA x6 vE x2 vH x1R v24 x4 v19 x3 v38 x8 v1O x3 vF x3 v1F
   s.TU s.TW s.U6 s2.U9 s.UA s.UI s.V7 s.WUJ x7 s17.3BK x2 s3.3CT v8 x8 v17 x5 v18 s.2P s.6E s.2Q v
   s2.2S s.D9 s8.2V v s.33 s.F7 s.34 s.36 s2.38 s.3B s.2P s2.GG s.5QA s.2Q s2.2S s.GP s2.GR s.2V v s.2Z
   s.31 s.97 s.33 s.GK s2.5QU s.34 s2.38 s.5R1 s.HB s.3A s.5R9 s3.QA s2.QU s.2X s.36 s2.39 s2.QA s.QP
   s2.QU vD s.U5 vY s.GI s.2R s.GL s.6O s.GS s.2U s.GV s.GX s.H1 s3.H4 s.5TN s.IL s.H9 s.5TX s.IN s.HD
   s.HC s4.HE s.HK s2.HU s.BV s2.I1 s.5R0 s2.I3 s.3E s3.I8 s.QG v1M x v5 a46 v4 m2P.JI s.601 v2 m37.37
   v a2O v8 s8.64G v6 x2 s6.64W x2 v8 s8.65C v8 s8.65S v6 x2 s6.668 x2 v8 x s.66P x s.66R x s.66T x
   s.66V v8 s8.674 v s.Q4 v s.Q5 v s.Q6 v s.Q7 v s.R0 v s.R1 v s.R2 x2 m64G.QH m64H.QH m64I.QH m64J.QH
   m64K.QH m64L.QH m64M.QH m64N.QH m64G.QH m64H.QH m64I.QH m64J.QH m64K.QH m64L.QH m64M.QH m64N.QH
   m65C.QH m65D.QH m65E.QH m65F.QH m65G.QH m65H.QH m65I.QH m65J.QH m65C.QH m65D.QH m65E.QH m65F.QH
   m65G.QH m65H.QH m65I.QH m65J.QH m674.QH m675.QH m676.QH m677.QH m678.QH m679.QH m67A.QH m67B.QH
   m674.QH m675.QH m676.QH m677.QH m678.QH m679.QH m67A.QH m67B.QH v2 m67K.QH mQ9.QH mQ4.QH x v m69I.QH
   s2.69C s.67K s.Q4 mQ9.QH mW.LV s.QH mW.LV mW.N6 mW.LK.N6 m67O.QH mQF.QH mQ6.QH x v m69Y.QH s.67M
   s.Q5 s.67O s.Q6 mQF.QH mW.LV.LC mW.LV.LD mW.LV.N6 v3 s.PC x2 v2 s2.6A8 s.67Q s.Q7 x mW.LW.LC
   mW.LW.LD mW.LW.N6 v3 s.Q8 v4 s2.6AO s.67U s.R1 s.6AT mW.LK.LC mW.LK.LD s.2O x2 m67W.QH mQX.QH mR2.QH
   x v m6BA.QH s.67S s.R0 s.67W s.R2 mQX.QH mW.LD mW.LW x s.W s.W s.W s.W s.W s.W s.W s.W s.W s.W s.W i
   v2 x2 v s.6C0 v5 mW.MR vC x3 v x7 s.W v3 m6CY.6CY m6CY.6CY.6CY v m6D1.6D1 m6D1.6D1.6D1 v4 mX.X v
   mW.LH v8 m1R.1R m1R.X mX.1R vD m6CY.6CY.6CY.6CY v7 s.W i x3 i xB s.1C s.2X x2 s6.1G s.17 s.6QA s.1P
   s2.14 s.32 sA.1C s.17 s.6QA s.1P s2.14 x s.2P s.2T s.33 s.3C s.GP s.2W s4.2Z s.34 s2.37 x3 v8 m36.37
   vN xG vX xF m2P.1B.2R m2P.1B.37 s.2R m4W.2R v m2R.1B.33 m2R.1B.39 s.GR v m4W.2U s2.2V s.2W s.2W s.2W
   s.87 s.2X s.2X s.30 s.30 v s.32 m32.33 v2 s3.34 s.36 s.36 v2 m37.31 m38.2T.30 m38.31 v s.3E v s.QX v
   s.3E v s.2Z s.6D s2.2Q v s.2T s2.2T x s.31 s.33 s4.15C s.2X v m2U.2P.3C s.QO s.QB s.QB s.QO s.6Q9 v4
   s.2S s2.2S s2.2X v6 m1D.6DG.1J m1D.6DG.1L m1D.6DG.1D.1C m1D.6DG.1F m1E.6DG.1F m1D.6DG.1H m1E.6DG.1H
   m1F.6DG.1H m1G.6DG.1H m1D.6DG.1I m1H.6DG.1I m1D.6DG.1K m1F.6DG.1K m1H.6DG.1K m1J.6DG.1K m1D.6DG s.2X
   m2X.2X m2X.2X.2X m2X.3A s.3A m3A.2X m3A.2X.2X m3A.2X.2X.2X m2X.3C s.3C m3C.2X m3C.2X.2X s.30 s2.2R
   s.31 s.2X m2X.2X m2X.2X.2X m2X.3A s.3A m3A.2X m3A.2X.2X m3A.2X.2X.2X m2X.3C s.3C m3C.2X m3C.2X.2X
   s.30 s2.2R s.31 v3 x v5 m1C.6DG.1F v2 x4 v4C m6QZ.6QZ m6QZ.6QZ.6QZ v m6R2.6R2 m6R2.6R2.6R2 v6W
   s2.9HK v70 xP vB xL s9.1D m1D.1C m1D.1D m1D.1E m1D.1F m1D.1G m1D.1H m1D.1I m1D.1J m1D.1K m1D.1L
   m1E.1C m14.1D.15 m14.1E.15 m14.1F.15 m14.1G.15 m14.1H.15 m14.1I.15 m14.1J.15 m14.1K.15 m14.1L.15
   m14.1D.1C.15 m14.1D.1D.15 m14.1D.1E.15 m14.1D.1F.15 m14.1D.1G.15 m14.1D.1H.15 m14.1D.1I.15
   m14.1D.1J.15 m14.1D.1K.15 m14.1D.1L.15 m14.1E.1C.15 xK m14.2P.15 m14.2Q.15 m14.2R.15 m14.2S.15
   m14.2T.15 m14.2U.15 m14.2V.15 m14.2W.15 m14.2X.15 m14.2Y.15 m14.2Z.15 m14.30.15 m14.31.15 m14.32.15
   m14.33.15 m14.34.15 m14.35.15 m14.36.15 m14.37.15 m14.38.15 m14.39.15 m14.3A.15 m14.3B.15 m14.3C.15
   m14.3D.15 m14.3E.15 sQ.2P sQ.2P s.1C v10H m6QZ.6QZ.6QZ.6QZ v2V m1M.1M.1P m1P.1P m1P.1P.1P v2T
   m8GT.MW v47 x2 vW x v2X s1B.8Q8 x v1B x s.8RL v s.H7 s.5TP s.HP v2 a6 s.GH s.HD s.GG s.GI v s.8S3 v2
   s.8S6 v6 s.2Y s.3A s2.FZ a2S v7 a4 v3 s.8VN v x5 v19 x v x5 v x2 v1K x7 s.8YP v xE vO x9 v7 x v7 x
   v7 x v7 x v7 x v7 x v7 x v7 x v37 x19 vQ x v4 s.LAL v2B s.VJ3 xC s.FEO s.FFS s.FG6 s.FGF s.FH5 s.FID
   s.FIK s.FJ4 s.FJU s.G1R s.G2T s.G2Z s.G3M s.G46 s.G4R s.G68 s.G6T s.G74 s.GBF s.GE1 s.GET s.GEY
   s.GFS s.GG1 s.GGS s.GH5 s.GHU s.GJA s.GJS s.GKJ s.H5J s.H7J s.HKB s.HKY s.HL6 s.HLH s.HLZ s.HO3
   s.I1C s.I2O s.I60 s.I6N s.I76 s.I7S s.I9A s.I9D s.IJF s.IJP s.IK1 s.IKE s.INM s.INU s.INZ s.IR8
   s.IRI s.IRV s.IS3 s.ITS s.IU9 s.IUR s.IWZ s.JD4 s.JEE s.JEZ s.JZJ s.JZO s.K1Z s.K2F s.K2S s.K3D
   s.K4G s.K4L s.KC0 s.KCO s.KDK s.L5S s.L7M s.L89 s.L9V s.LAJ s.LAS s.LAZ s.LCF s.LCK s.LDG s.M7F
   s.MJU s.MK6 s.MKB s.MKF s.MKN s.ML5 s.ML7 s.MNG s.MTG s.MTL s.N30 s.N3A s.N4O s.N4V s.N54 s.N5C
   s.N7V s.N82 s.NEE s.NEL s.NFY s.NGF s.NHQ s.NOB s.NOI s.NOZ s.NY2 s.O1K s.O1Q s.O6S s.O97 s.OAH
   s.OKZ s.OOO s.P4M s.P5D s.P6Y s.P8D s.PA9 s.PAK s.PAQ s.PBN s.PDR s.PE1 s.PNN s.PNU s.PO3 s.POC
   s.POS s.PP7 s.PPB s.PRI s.PRM s.PRS s.QJ1 s.QJV s.QWW s.QX8 s.QXV s.R5Q s.R63 s.R82 s.R9C s.RP3
   s.RPI s.RPX s.RQW s.RRX s.RXG s.RXS s.RZN s.S6J s.S7E s.SD7 s.SDS s.SDX s.SK1 s.SP5 s.SSM s.SSS
   s.SSX s.TIV s.TJ4 s.TNG s.TRQ s.TRT s.TT4 s.TW1 s.TWE s.TWI s.TWP s.TZF s.U0D s.U0J s.U0X s.U5K
   s.U6Z s.U73 s.UC6 s.UC9 s.UCS s.UJS s.UL4 s.ULB s.UN9 s.UNJ s.UNM s.UNW s.UOQ s.UZP s.VAT s.VB3
   s.VC5 s.VCR s.VCZ s.VD9 s.VDD s.VEH s.VEL s.VF2 s.VF7 s.VFK s.VGB s.VGQ s.VGY s.VIL s.VJ0 s.VJ4 x16
   s.W v s.1A v1F s.9HU v s.GG1 s2.GG4 v5 x v2E x2 v2 mW.9LL mW.9LM v2 m9L4.9L6 v2N m9MB.9MW x5 v17 x
   s2.3CW s.3HM s.3CY s2.3HO s3.3CZ s6.3HS s.3DM s3.3D2 s.3DT sA.3D5 sL.3FL x s2.3DG s2.3IF s.3IK s.3IM
   s.3IR s.3IV s.3IX s.3DO s.3J1 s.3J3 s2.3DP s.3DS s2.3DU s.3DZ s.3E1 s5.3E3 s.3EA s.3EE s.3EO s.3EV
   s.3F0 s2.3JL s3.3FB s2.3GK s.3GO s2.3GX s.3H0 s.3HA s.3HD x v2 s.FEO s.FIK s.FEX s.H5N s.FEY s.FFX
   s.FEZ s.N5E s.FH5 s.FFD s.FEP s.HM1 s.H80 s.FJU v1W xC vG m14.3CW.15 m14.3CY.15 m14.3CZ.15
   m14.3D1.15 m14.3D2.15 m14.3D3.15 m14.3D5.15 m14.3D7.15 m14.3D8.15 m14.3DA.15 m14.3DB.15 m14.3DC.15
   m14.3DD.15 m14.3DE.15 m14.XZ4.15 m14.YVS.15 m14.ZC4.15 m14.108S.15 m14.10P4.15 m14.115G.15
   m14.1224.15 m14.12YS.15 m14.13F4.15 m14.14BS.15 m14.14S4.15 m14.158G.15 m14.15OS.15 m14.1654.15
   m14.13P8.15 m14.1350.13IC.15 m14.1350.16F8.15 x m14.FEO.15 m14.FIK.15 m14.FEX.15 m14.H5N.15
   m14.FIS.15 m14.G31.15 m14.FER.15 m14.G2Z.15 m14.FH9.15 m14.GG1.15 m14.KCO.15 m14.M7F.15 m14.LDG.15
   m14.KDK.15 m14.SSX.15 m14.H7J.15 m14.K4L.15 m14.KKQ.15 m14.KCP.15 m14.NY6.15 m14.GLP.15 m14.MM1.15
   m14.RS1.15 m14.NZ1.15 m14.GC4.15 m14.FKZ.15 m14.GOS.15 m14.I1Y.15 m14.NHF.15 m14.FLT.15 m14.RT3.15
   m14.GGK.15 m14.NZH.15 m14.FM9.15 m14.PNU.15 m14.PO3.15 s.GUN s.INW s.K1Z s.OEN v8 m34.38.2T m1E.1D
   m1E.1E m1E.1F m1E.1G m1E.1H m1E.1I m1E.1J m1E.1K m1E.1L m1F.1C m1F.1D m1F.1E m1F.1F m1F.1G m1F.1H
   s.3CW s2.3CY s3.3D1 s.3D5 s2.3D7 s5.3DA s.XZ4 s.YVS s.ZC4 s.108S s.10P4 s.115G s.1224 s.12YS s.13F4
   s.14BS s.14S4 s.158G s.15OS s.1654 m14C8.Y5C m13P8.13DK s.138W v s.FEO s.FIK s.FEX s.H5N s.FIS s.G31
   s.FER s.G2Z s.FH9 s.GG1 s.KCO s.M7F s.LDG s.KDK s.SSX s.H7J s.K4L s.KKQ s.KCP s.NY6 s.GLP s.MM1
   s.RS1 s.NZ1 s.GC4 s.O2G s.N5J s.HO3 s.SIX s.G16 s.GHC s.LIG s.U11 s.FM9 s.G49 s.L7N s.FEY s.FFX
   s.FEZ s.IJQ s.GKZ s.GFV s.I3B s.I1Y s.NHF s.FLT s.RT3 s.GGK s.HLO m1F.1I m1F.1J m1F.1K m1F.1L m1G.1C
   m1G.1D m1G.1E m1G.1F m1G.1G m1G.1H m1G.1I m1G.1J m1G.1K m1G.1L m1H.1C m1D.KCO m1E.KCO m1F.KCO
   m1G.KCO m1H.KCO m1I.KCO m1J.KCO m1K.KCO m1L.KCO m1D.1C.KCO m1D.1D.KCO m1D.1E.KCO m2W.2V m2T.36.2V
   m2T.3A m30.38.2S s.9LU s.9LW s.9LY s.9M0 s2.9M2 s.9M5 s.9M7 s.9M9 s.9MB s.9MD s.9MF s.9MH s.9MJ
   s.9ML s.9MN s.9MP s.9MS s.9MU s.9MW s6.9MY s.9N6 s.9N9 s.9NC s.9NF s5.9NI s.9NO s.9NQ s6.9NS s4.9NZ
   mFL0.GP8 m9LU.9N5.9OC.9MW m9LU.9NV.9N9.9LT m9LU.9O3.9NE.9LU m9LU.9OC.9NV m9LW.9MZ.9O3.9M8
   m9LW.9O3.9MP m9LY.9M1.9O3 m9M0.9MH.9M7.9OC.9MX m9M0.9OC.9M3.9OC m9M2.9O3.9MH m9M2.9OC.9NK
   m9M3.9LW.9NU m9M3.9NT.9MR.9MW m9M3.9NX.9NU.9OC m9M4.9NX.9O3 m9M4.9O3.9NI m9M6.9M4 m9M6.9MZ.9OC
   m9M5.9NP.9NU.9OC m9M6.9NV.9MO.9OC m9M5.9NX m9M5.9NX.9M8.9NT.9NK m9M5.9NX.9NL.9OC.9MW.9NV
   m9M5.9NX.9NZ.9MR.9MW m9M8.9NT.9NK m9M8.9NT.9NK.9MW.9O3 m9M7.9NV.9MK.9LW.9NX m9M7.9NX.9OC.9N1
   m9M9.9OC.9MH m9MB.9NV.9MY m9MB.9OC.9NH m9MD.9LW.9M7.9NV m9MD.9O3.9MP.9OC.9NK m9MF.9NU.9O3.9M8
   m9MJ.9O3.9MP m9MJ.9O3.9MW m9MO.9OC.9MH m9MV.9MF m9MX.9NV m9MW.9O3 m9MY.9N2 m9N2.9MR.9MW m9N3.9LW.9MS
   m9N5.9OC.9MJ.9O3.9MW m9N5.9OC.9MS m9N4.9OC.9NW.9NV m9N8.9LU.9MH.9MW.9NV m9N8.9M7.9NV m9N8.9MB
   m9N7.9NV m9N9.9LT.9NT.9MR.9MX m9N9.9LV.9OC.9MW m9NA.9MR.9MF.9LZ.9NV m9N9.9NT.9O3
   m9NC.9M7.9MN.9OC.9NV m9NE.9ML m9NE.9MZ.9N6 m9NC.9NV.9MS m9NE.9O3.9MH m9NE.9OC.9MG m9ND.9OC.9MN
   m9NH.9LW.9O3.9MW m9NG.9NV.9MW m9NF.9O3 m9NH.9O3.9MX m9NF.9OC.9NV m9NF.9OC.9O3 m9NI.9LW.9M7.9NX
   m9NI.9LW.9NV m9NI.9MR.9N3 m9NI.9NV.9M7 m9NI.9O3.9MF.9NR.9O3 m9NJ.9M7.9NX.9O3 m9NJ.9NU
   m9NJ.9NU.9N4.9OC.9NV m9NL.9M4 m9NL.9M4.9MW.9O3 m9NL.9OC.9MW.9NV m9NO.9OC.9MX m9NO.9OC.9NV
   m9NQ.9LU.9O3 m9NU.9MR.9MW.9NV m9NU.9NT m9NV.9N8.9OC m9NV.9OC.9NA.9NV m9NW.9NK m9NW.9O3.9MW.9MA.9O3
   m9NZ.9MR.9MW m1C.M9L m1D.M9L m1E.M9L m1F.M9L m1G.M9L m1H.M9L m1I.M9L m1J.M9L m1K.M9L m1L.M9L
   m1D.1C.M9L m1D.1D.M9L m1D.1E.M9L m1D.1F.M9L m1D.1G.M9L m1D.1H.M9L m1D.1I.M9L m1D.1J.M9L m1D.1K.M9L
   m1D.1L.M9L m1E.1C.M9L m1E.1D.M9L m1E.1E.M9L m1E.1F.M9L m1E.1G.M9L m2W.34.2P m2S.2P m2P.39 m2Q.2P.36
   m33.3A m34.2R m2S.31 m2S.31.1E m2S.31.1F m2X.39 mINN.JDC mK6L.GP8 mHLZ.L7N mK5Q.LH7 mKKQ.IRZ.FMI.NY6
   m34.2P m32.2P mQK.2P m31.2P m2Z.2P m2Z.2Q m31.2Q m2V.2Q m2R.2P.30 m2Z.2R.2P.30 m34.2U m32.2U mQK.2U
   mQK.2V m31.2V m2Z.2V m2W.3E m2Z.2W.3E m31.2W.3E m2V.2W.3E m38.2W.3E mQK.30 m31.30 m2S.30 m2Z.30
   m2U.31 m32.31 mQK.31 m31.31 m2R.31 m2Z.31 m31.31.1E m2R.31.1E m31.1E m2Z.31.1E m31.31.1F m2R.31.1F
   m31.1F m2Z.31.1F m31.6QD.37 m31.6QD.37.1E m34.2P m2Z.34.2P m31.34.2P m2V.34.2P m36.2P.2S
   m36.2P.2S.6QD.37 m36.2P.2S.6QD.37.1E m34.37 m32.37 mQK.37 m31.37 m34.3A m32.3A mQK.3A m31.3A m2Z.3A
   m31.3A m34.3B m32.3B mQK.3B m31.3B m2Z.3B m31.3B m2Z.QX m31.QX x m2Q.35 m2R.2R m2R.2S m2R.6QD.2Z.2V
   x m2S.2Q m2V.3D m2W.2P m2W.34 m2X.32 m2Z.2Z m2Z.31 m2Z.38 m30.31 m30.32 m30.33.2V m30.3C m31.2Q
   m31.2X.30 m31.33.30 m34.2W x m34.34.31 m34.36 m37.36 m37.3A m3B.2Q m3A.6QD.31 m2P.6QD.31 m1D.K4L
   m1E.K4L m1F.K4L m1G.K4L m1H.K4L m1I.K4L m1J.K4L m1K.K4L m1L.K4L m1D.1C.K4L m1D.1D.K4L m1D.1E.K4L
   m1D.1F.K4L m1D.1G.K4L m1D.1H.K4L m1D.1I.K4L m1D.1J.K4L m1D.1K.K4L m1D.1L.K4L m1E.1C.K4L m1E.1D.K4L
   m1E.1E.K4L m1E.1F.K4L m1E.1G.K4L m1E.1H.K4L m1E.1I.K4L m1E.1J.K4L m1E.1K.K4L m1E.1L.K4L m1F.1C.K4L
   m1F.1D.K4L m2V.2P.30 vLBX x3 vWD x3 v1J x9 v9O xK a1A vI aS s.UI s.UK v2I x8 vY aE v2 a1Q s.X2N v8
   a4 s.5TL aA v3 s.X3G v s.H1 v2 a4 v2 aK s.H2 s.GS s.GX s.H8 s.H6 v s.IM s.HZ s.IL s.XUB aC x2 s.X4Z
   v s.X3O s.HU s.5U6 a4 x16 s.X6E v2 s.87 s.9F v1F x3 vA x6 v1K x8 v1Y x8 vC x6 v38 xB vU x3 v26 x vB
   x4 vX x v1J x9 vE x2 vA x2 v2V xO vS xA v6 x2 v6 x2 v6 x9 v7 x v7 x v18 s.X0N s.XTJ s.H7 s.XUA v9
   s.I5 v2 x4 s28.3VK v1A x2 vA x6 v8MC xC vN x4 v1D x6IS s.RPK s.KC4 s.S7E s.RT4 s.LW1 s.FG2 s.GKL
   s.VJ0 s.VJ0 s.HN5 s.SSX s.GW7 s.HMW s.JCM s.NE1 s.P6T s.QIN s.QT6 s.R20 s.SJZ s.KXU s.LJV s.MAH
   s.MVY s.Q4D s.SQ2 s.UEP s.FIA s.GHH s.L50 s.MJF s.QI5 s.V8E s.IFK s.M3V s.QFH s.R50 s.JIH s.PNC
   s.QVZ s.IQ2 s.KD3 s.LM2 s.MPO s.SLQ s.FPI s.G53 s.GDA s.JWK s.L3N s.MJ4 s.NHJ s.PA9 s.QH2 s.QJG
   s.S1B s.TV6 s.UPB s.V7E s.NT8 s.NZZ s.OTC s.Q15 s.T1G s.VB3 s.RFA s.HJZ s.IRO s.OKG s.PDQ s.MLE
   s.NUY s.RSY s.TTJ s.HJS s.I8Y s.KYB s.LP6 s.LXR s.OQ7 s.OXJ s.TOR s.GCY s.PE3 s.G64 s.G5O s.O4C
   s.OU6 s.Q29 s.TPX s.RK0 s.JIN s.KXU s.RGE s.FG9 s.I5J s.IZ6 s.MTJ s.N74 s.GEV s.NWB s.FR3 s.IW9
   s.FF1 s.LHO s.K1K s.OPU s.GJN s.HGE s.NI9 s.Q4P s.RE2 s.LA2 s.SDS s.LFS s.JJY s.PUT s.JOG s.N6T
   s.FJI s.G2X s.G5L s.KN5 s.OO7 s.PRJ s.RF6 s.SSV s.GDX s.GN6 s.HO3 s.IR0 s.K3P s.M4E s.NXM s.TKD
   s.UI2 s.VBR s.VDA s.GBF s.KAU s.L87 s.SBM s.INO s.J9S s.JCW s.JVE s.LYB s.MDL s.N0P s.O22 s.OVO
   s.PDB s.S9Y s.Q9A s.SGZ s.T3E s.G7R s.GBN s.GQL s.MA0 s.R0I s.RE2 s.IQ1 s.IYD s.JNF s.L9Q s.OJI
   s.MT1 s.FL0 s.H6H s.I5J s.III s.IZG s.MUQ s.MZT s.P7E s.PC6 s.SVO s.TTI s.TVS s.U1K s.FPN s.O1A
   s.SS4 s.TRS s.J4X s.FIE s.FYY s.I5Q s.I7Z s.K2H s.KXU s.MHA s.NCY s.Q9O s.SJG s.VIL s.K94 s.TNY
   s.GAX s.KFV s.KJ7 s.LKX s.LUK s.MX5 s.N6H s.NSB s.OPC s.U3I s.G31 s.JE6 s.TQ0 s.FU3 s.IE1 s.LPM
   s.SA2 s.IVF s.J7O s.KK7 s.MTJ s.TQE s.G89 s.GLR s.I91 s.K5V s.KEM s.KO8 s.LID s.MX2 s.NAA s.P6H
   s.R0V s.R1D s.SSS s.TSY s.GFZ s.LVE s.GM5 s.MHC s.N14 s.QGQ s.TR7 s.UVR s.VBZ s.KGN s.LOR s.PNS
   s.O97 s.OBK s.OLU s.MO0 s.M8P s.RIW s.FK0 s.PX2 s.G8Q s.G7B s.IP2 s.JIR s.ONQ s.I2T s.LJY s.KAC
   s.SAJ s.QX8 s.TOT s.R63 s.IQB s.G1S s.GXS v2 s.HGA v s.K8K v2 s.G66 s.MQY s.NGQ s.NY4 s.NZ2 s.NZ9
   s.O0F s.TW6 s.ON2 s.P8D v s.QHE v s.RG8 v2 s.SHK s.SN1 v3 s.U7J s.U7W s.U94 s.V5G s.SM6 s.TRR s.FQM
   s.FZB s.G25 s.GCP s.GDG s.GGH s.GWT s.GZQ s.H2G s.HFK s.HIG s.I90 s.I9A s.J2S s.J8O s.J9Q s.JCI
   s.K0F s.K4I s.K9D s.KN9 s.LMF s.LQY s.LYA s.MEM s.MJV s.MXU s.NTD s.NY6 s.NYH s.NYG s.NYO s.NYU
   s.NZ1 s2.O0D s.O5C s.O75 s.OG0 s.OVO s.OW9 s.OXT s.P6A s.PAD s.PNX s.PRT s.PRT s.Q53 s.R2O s.R6E
   s.RGH s.RI1 s.RTF s.RUW s.SDY s.SHK s.TSZ s.U0V s.U2J s.J1X s.36CU s.PP4 x2 s.FFQ s.G51 s.G2W s.FPC
   s.G1X s.G3K s.GCN s.GE2 s.GWT s.GUT s.GWP s.GYQ s.HGA s.HIR s.HMS s.HN8 s.HUQ s.I08 s.IQA s.IQH
   s.IUH s.IWD s.J4O s.J7Y s.J60 s.J9Q s.J8G s.JCI s.JEC s.JPG s.JRW s.JTE s.K0M s.K8K s.KD3 s.KD7
   s.KEU s.L89 s.LA2 s.LKX s.LWB s.LVV s.LYA s.M5A s.MEM s.NMV s.MK5 s.MNJ s.MQY s.N01 s.N46 s.N5N
   s.NBX s.NBZ s.NGQ s.NH7 s.NHW s.NKA s.NK0 s.NV0 s.O8H s.OG0 s.OL7 s.ORF s.OVO s.P4U s.PAD s.PXU
   s.Q27 s.QRD s.R41 s.R5Y s.R6E s.REN s.RG8 s.REZ s.RGH s.RGE s.RFX s.RI1 s.RKA s.RUW s.SAG s.SJ6
   s.SRD s.SXI s.TQ4 s.TSZ s.TW6 s.TZV s.U0V s.U17 s.U2J s.UMQ s.VJ0 s.313E s.3138 s.33DH s.BRX s.CNS
   s.COP s.39E1 s.3BGW s.3I6R s.VGJ s.VIM x12 m2U.2U m2U.2X m2U.30 m2U.2U.2X m2U.2U.30 m37.38 m37.38 xC
   m12S.12U m12S.12D m12S.12J m132.12U m12S.12L x5 m15L.14K v m16A.14N s.15U s.15C s2.15F s3.15N s.160
   s.162 s.17 m161.14X m161.14Y m161.14S.14X m161.14S.14Y m15C.14N m15C.14O m15C.14S m15D.14S m15E.14S
   m15F.14S m15G.14S m15H.14S m15I.14S x m15K.14S m15L.14S m15M.14S m15N.14S m15O.14S x m15Q.14S x
   m15S.14S m15T.14S x m15V.14S m15W.14S x m15Y.14S m15Z.14S m160.14S m161.14S m162.14S m15H.14P
   m15D.14V m15N.14V m15W.14V m15C.15O s.19T s.19T s.1A3 s.1A3 s.1A3 s.1A3 s.1A6 s.1A6 s.1A6 s.1A6
   s.1A8 s.1A8 s.1A8 s.1A8 s.1A2 s.1A2 s.1A2 s.1A2 s.1A7 s.1A7 s.1A7 s.1A7 s.1A1 s.1A1 s.1A1 s.1A1
   s.1B8 s.1B8 s.1B8 s.1B8 s.1BA s.1BA s.1BA s.1BA s.1AC s.1AC s.1AC s.1AC s.1AB s.1AB s.1AB s.1AB
   s.1AE s.1AE s.1AE s2.1AE s.1AF s.1AF s.1AF s.1AL s.1AL s.1AK s.1AK s.1AM s.1AM s.1AG s.1AG s.1AW
   s.1AW s.1AP s.1AP s.1BD s.1BD s.1BD s.1BD s.1BJ s.1BJ s.1BJ s.1BJ s.1BN s.1BN s.1BN s.1BN s.1BL
   s.1BL s.1BL s.1BL s.1BU s2.1BU s.1BV s.1BV s.1BV s.1C0 s2.1C0 s.1C1 s.1C1 s.1C1 s.1BY s.1BY s.1BY
   s.1BY s.1CI s2.1CI s.1CJ vG xH s.1BH s.1BH s.1BH s.1BH s.1C7 s.1C7 s.1C6 s.1C6 s.1C8 s.1C8 m1C7.19W
   s.1CB s.1CB s.1C5 s.1C5 s.1C9 s.1C9 s.1CG s.1CG s.1CG s.1CG s.18P s.18P m17Q.17R m17Q.17R m17Q.1CL
   m17Q.1CL m17Q.18O m17Q.18O m17Q.1C7 m17Q.1C7 m17Q.1C6 m17Q.1C6 m17Q.1C8 m17Q.1C8 m17Q.1CG m17Q.1CG
   m17Q.1CG m17Q.18P m17Q.18P m17Q.18P s.1CC s.1CC s.1CC s.1CC m17Q.17W m17Q.17X m17Q.18L m17Q.18P
   m17Q.18Q m17S.17W m17S.17X m17S.17Y m17S.18L m17S.18P m17S.18Q m17U.17W m17U.17X m17U.17Y m17U.18L
   m17U.18P m17U.18Q m17V.17W m17V.18L m17V.18P m17V.18Q m17W.17X m17W.18L m17X.17W m17X.18L m17Y.17W
   m17Y.17X m17Y.18L m183.17W m183.17X m183.17Y m183.18L m185.17X m185.18L m186.17W m186.17X m186.17Y
   m186.18L m187.17X m187.18L m188.18L m189.17W m189.18L m18A.17W m18A.18L m18H.17W m18H.17X m18H.17Y
   m18H.18L m18H.18P m18H.18Q m18I.17X m18I.18L m18I.18P m18I.18Q m18J.17R m18J.17W m18J.17X m18J.17Y
   m18J.18K m18J.18L m18J.18P m18J.18Q m18K.17W m18K.17X m18K.17Y m18K.18L m18K.18P m18K.18Q m18L.17W
   m18L.17X m18L.17Y m18L.18L m18L.18P m18L.18Q m18M.17W m18M.17X m18M.17Y m18M.18L m18M.18P m18M.18Q
   m18N.17W m18N.18L m18N.18P m18N.18Q m18Q.17W m18Q.17X m18Q.17Y m18Q.18L m18Q.18P m18Q.18Q m180.19S
   m181.19S m18P.19S mW.18S.18X mW.18T.18X mW.18U.18X mW.18V.18X mW.18W.18X mW.18X.19S m17Q.181
   m17Q.182 m17Q.18L m17Q.18M m17Q.18P m17Q.18Q m17S.181 m17S.182 m17S.18L m17S.18M m17S.18P m17S.18Q
   m17U.181 m17U.182 m17U.18L m17U.18M m17U.18P m17U.18Q m17V.181 m17V.182 m17V.18L m17V.18M m17V.18P
   m17V.18Q m18H.18P m18H.18Q m18I.18P m18I.18Q m18J.17R m18J.18K m18J.18L m18J.18P m18J.18Q m18K.18L
   m18K.18P m18K.18Q m18L.17R m18L.18L m18M.181 m18M.182 m18M.18L m18M.18M m18M.18P m18M.18Q m18P.19S
   m18Q.181 m18Q.182 m18Q.18L m18Q.18M m18Q.18P m18Q.18Q m17Q.17W m17Q.17X m17Q.17Y m17Q.18L m17Q.18N
   m17S.17W m17S.17X m17S.17Y m17S.18L m17S.18N m17U.17W m17U.17X m17U.17Y m17U.18L m17U.18N m17V.18L
   m17W.17X m17W.18L m17X.17W m17X.18L m17Y.17W m17Y.18L m183.17W m183.17X m183.17Y m183.18L m185.17X
   m185.17Y m185.18L m186.17W m186.17X m186.17Y m186.18L m187.17X m188.18L m189.17W m189.18L m18A.17W
   m18A.18L m18H.17W m18H.17X m18H.17Y m18H.18L m18I.17X m18I.18L m18J.17W m18J.17X m18J.17Y m18J.18K
   m18J.18L m18K.17W m18K.17X m18K.17Y m18K.18L m18K.18N m18L.17W m18L.17X m18L.17Y m18L.18L m18M.17W
   m18M.17X m18M.17Y m18M.18L m18M.18N m18N.17W m18N.18L m18N.19S m18Q.17W m18Q.17X m18Q.17Y m18Q.18L
   m18Q.18N m17Q.18L m17Q.18N m17S.18L m17S.18N m17U.18L m17U.18N m17V.18L m17V.18N m183.18L m183.18N
   m184.18L m184.18N m18J.18K m18J.18L m18K.18L m18M.18L m18M.18N m18Q.18L m18Q.18N m18G.18U.18X
   m18G.18V.18X m18G.18W.18X m187.18P m187.18Q m189.18P m189.18Q m18A.18P m18A.18Q m183.18P m183.18Q
   m184.18P m184.18Q m17X.18P m17X.18Q m17W.18P m17W.18Q m17Y.18P m17Y.18Q m185.18P m185.18Q m186.18P
   m186.18Q m184.17W m184.17X m184.17Y m184.18L m184.181 m183.181 m185.181 m186.181 m187.18P m187.18Q
   m189.18P m189.18Q m18A.18P m18A.18Q m183.18P m183.18Q m184.18P m184.18Q m17X.18P m17X.18Q m17W.18P
   m17W.18Q m17Y.18P m17Y.18Q m185.18P m185.18Q m186.18P m186.18Q m184.17W m184.17X m184.17Y m184.18L
   m184.181 m183.181 m185.181 m186.181 m184.17W m184.17X m184.17Y m184.18L m183.18N m184.18N m187.18L
   m183.17W m183.17X m183.17Y m184.17W m184.17X m184.17Y m187.18L m188.18L m17R.18R m17R.18R v2 xG
   m17U.17W.18L m17U.17X.17W m17U.17X.17W m17U.17X.18L m17U.17Y.18L m17U.18L.17W m17U.18L.17X
   m17U.18L.17Y m17W.18L.17X m17W.18L.17X m17X.18L.18Q m17X.18L.18P m183.17X.17W m183.17W.17X
   m183.17W.18P m183.18L.17X m183.18L.17X m183.18L.17W m183.18L.18L m183.18L.18L m185.17X.17X
   m185.17X.17X m185.18L.18L m184.17X.18L m184.17X.18L m184.17W.18Q m184.18L.17Y m184.18L.17Y
   m184.18L.18L m184.18L.18L m186.17X.18P m186.17Y.18L m186.17Y.18L m187.18L.17X m187.18L.17X
   m187.18L.18L m187.18L.18Q m189.17W.18L m189.18L.18L m189.18L.18L m189.18L.18P m18A.18L.18L
   m18A.18L.18Q m18A.18L.18P m18H.17Y.18L m18H.17Y.18L m18I.18L.17X m18I.18L.18L m18K.17X.18L
   m18K.17X.18Q m18K.17X.18P m18K.17W.17W m18K.17W.17W m18K.17Y.18L m18K.17Y.18L m18K.18L.17X
   m18K.18L.17X m18L.17X.17W m18L.17X.18L m18L.17X.18Q m18L.17W.17X m18L.17W.18L m18L.17Y.17W
   m18L.17Y.18L x2 m18L.17W.17Y m18N.18L.17W m18N.18L.18L m18M.17X.18L m18M.17X.18P m18M.17W.18L
   m18M.17W.18L m18M.17W.18P m18M.18L.18Q m18M.18L.18P m18Q.18L.18L m18Q.18L.18L m17S.17Y.18Q
   m17U.17W.18Q m17U.17W.18P m17U.17Y.18Q m17U.17Y.18P m17U.18L.18Q m17U.18L.18P m17W.18L.18Q
   m17W.17X.18P m17W.18L.18P m183.17Y.18P m185.17X.18Q m184.17X.18Q m186.17X.18Q m18K.17W.18Q
   m18K.18L.18Q m18Q.17X.18Q m18Q.17W.18Q m18Q.18L.18Q m18L.18L.18Q m18I.18L.18Q m18M.17X.18Q
   m18I.18L.17X m18K.17X.18L m189.18L.18Q m18J.18L.18Q m18M.17W.17X m18L.17Y.18Q m18K.17W.18L
   m18J.18L.18L m18K.17W.18L m18M.17W.17X m17W.17X.18Q m17X.17W.18Q m18L.17W.18Q m18H.18L.18Q
   m17S.17X.18Q m18J.18L.18L m189.17W.18L m185.18L.18L m183.17Y.18Q m18M.17W.18Q x14 m185.18K.1CI
   m18I.18K.1CI m17R.18K.18K.18N m17R.18J.17S.181 m18L.17X.18L.17Z m185.18K.189.18L m181.183.18O.18K
   m189.18K.18Q.18N m18O.183.18K.18L m185.18K.18P
   m185.18K.18P.W.17R.18K.18K.18N.W.189.18K.18Q.18N.W.18O.183.18K.18L m17W.18K.W.17W.18K.17R.18K.18N
   m181.1CC.17R.18K v x2 iG s.18 s.9HD x s2.1M s.X s.1R s2.9HY x7 vG x s.6C4 s.6C3 s.2N s.2N s2.14 s.3F
   s.3H s2.9HW s2.9HS s2.9HM s2.9HK s4.9HO v2 s.2J s.2L mW.LH mW.LH mW.LH mW.LH s.2N s.2N s.2N s.18
   s.9HD x2 s.1N s.1M s.1R s.X s.6C4 s2.14 s.3F s.3H s2.9HW s.Z s.12 s2.16 s.19 s.1O s.1Q s.1P x s.2K
   s2.10 s.1S x4 mW.18R m18G.18R mW.18S v mW.18T x mW.18U m18G.18U mW.18V m18G.18V mW.18W m18G.18W
   mW.18X m18G.18X mW.18Y m18G.18Y s2.17L s2.17M s2.17N s2.17O s2.17P s.17Q s.17Q s2.17Q s2.17R s.17S
   s.17S s2.17S s2.17T s.17U s.17U s2.17U s.17V s.17V s2.17V s.17W s.17W s2.17W s.17X s.17X s2.17X
   s.17Y s.17Y s2.17Y s2.17Z s2.180 s2.181 s2.182 s.183 s.183 s2.183 s.184 s.184 s2.184 s.185 s.185
   s2.185 s.186 s.186 s2.186 s.187 s.187 s2.187 s.188 s.188 s2.188 s.189 s.189 s2.189 s.18A s.18A s.18A
   s.18H s.18H s.18H s2.18H s.18I s.18I s2.18I s.18J s.18J s2.18J s.18K s.18K s2.18K s.18L s.18L s2.18L
   s.18M s.18M s2.18M s.18N s.18N s2.18N s2.18O s2.18P s.18Q s.18Q s.18Q m18K.17M m18K.17M m18K.17N
   m18K.17N m18K.17P m18K.17P m18K.17R m18K.17R x2 i x sW.X sQ.2P s10.2J s2.879 s.1A s2.9HO s.9HD s.9OB
   s.9O2 s.9LT s.9LV s.9LX s.9LZ s.9M1 s.9NN s.9NP s.9NR s.9MR s.9OC s.9LU s.9LW s.9LY s.9M0 s2.9M2
   s.9M5 s.9M7 s.9M9 s.9MB s.9MD s.9MF s.9MH s.9MJ s.9ML s.9MN s.9MP s.9MS s.9MU s.9MW s6.9MY s.9N6
   s.9N9 s.9NC s.9NF s5.9NI s.9NO s.9NQ s6.9NS s.9NZ s.9O3 s2.9LL x s2.3CW s.3HM s.3CY s2.3HO s3.3CZ
   s6.3HS s.3DM s3.3D2 s.3DT sA.3D5 x3 s6.3FL x2 s6.3FR x2 s6.3FX x2 s3.3G3 x3 s2.4I s.4S mW.LG s.4M
   s.4L s.6G9 x s.7B6 s4.6MO s.7FK s.7GR xH vC x vQ x vJ x v2 x vF x2 vE xY v3F x5 v3 x4 v19 x3 v2G x
   vD x3 v x1B v1A x3M vT x3 v1D xF vS x4 v10 x9 vU x5 v17 x5 vU x v11 x4 vE x16 s14.1FE0 v3A x2 vA x6
   s10.1FIW x4 v10 x4 v14 x8 v1G xB v x40 v8N x9 vM xA v8 x48 v6 x2 v x v18 x v2 x3 v x2 vN x v20 x8 v9
   x1C vJ x v2 x5 vX x3 vR x5 v x1S v1K x4 vK x2 v1E x v2 x5 v8 x v3 x vT x2 v3 x4 vA x7 v9 x7 v1S xW
   v13 x4 vC x9 v1I x3 vT x2 vR x5 vQ x7 v4 xC v7 x28 v21 x1J s1F.1H34 xD v1F x7 v1A x8 vA x86 vV x v16
   x v3 x2 v2 x26 v14 x8 v16 x2E vS xK vN x9 v26 x4 vU xF v1Q x v4 xE vP x7 vA x6 v1H x vI x8 v13 x9
   v2O x vK xB vI x v18 x1T v7 x v x v4 x vF x vB x6 v1N x5 vA x6 v4 x v8 x2 v2 x2 vM x v7 x v2 x v5 x
   vA x2 v2 x2 v3 x2 v x6 v x5 v7 x2 v7 x3 v5 x3V v2K x v5 xU v20 x8 vA x4M v1I x2 v12 xY v1X xB vA x6
   vD xJ v1L x7 vA x1I vR x2 vF x4 vG x5C v1O x2S sW.1JGG v1F xC v8 x2 v x2 v8 x v2 x vU x v2 x2 vC x9
   vA x1Y v8 x2 v1A x2 vB xR v20 x8 v2B xT v1L x7B v9 x v19 x vE xA vT x3 vW x2 vM x vE x21 v7 x v2 x
   v18 x3 v x v2 x v9 x8 vA x6 v6 x v2 x v11 x v2 x v6 x7 vA x8M vP x53 v xF v1E xD vPN x2U v33 x v5 xB
   v5G x24C vTR x34H vG7 x6NT vFT x7 vV x vA x4 v2 x2O vU x2 v6 xA v1Y xA vA x v7 x vL x5 vJ xJ4
   sW.20DC v1N x2T v23 x4 v1L x7 vH x1S v5 xB v2 xE v4QG x8 vYE x16 v9 x6WN v7Z x1D v3 xH v4 x8 vB0
   x1S4 v2Z x5 vD x3 v9 x7 vA x2 v4 i4 x3TO v6U xA v13 x2 v1H m2JX3.2JXH m2JX4.2JXH m2JX4.2JXH.2JXQ
   m2JX4.2JXH.2JXR m2JX4.2JXH.2JXS m2JX4.2JXH.2JXT m2JX4.2JXH.2JXU vE x8 v1S m2JZT.2JXH m2JZU.2JXH
   m2JZT.2JXH.2JXQ m2JZU.2JXH.2JXQ m2JZT.2JXH.2JXR m2JZU.2JXH.2JXR v14 xN v1Y x4A vK xC v2F x9 vP x3R
   sQ.2P sQ.2P sQ.2P s7.2P x sI.2X sQ.2P sQ.2P s.2P x s2.2R x2 s.2V x2 s2.2Y x2 s4.32 x s8.37 s4.2P x
   s.2U x s7.2W x sB.34 sQ.2P sQ.2P s2.2P x s4.2S x2 s8.2Y x s7.37 x sQ.2P s2.2P x s4.2S x s5.2X x s.33
   x3 s7.37 x sQ.2P sQ.2P sQ.2P sQ.2P sQ.2P sQ.2P sQ.2P sQ.2P sQ.2P sQ.2P sQ.2P sQ.2P sQ.2P s.8H s.FR
   x2 sH.Q9 s.QG s7.QR s.6PZ sH.Q9 s.QR s7.QR s.6PU s.QD s.QG s.QI s.QU s.QP s.QO sH.Q9 s.QG s7.QR
   s.6PZ sH.Q9 s.QR s7.QR s.6PU s.QD s.QG s.QI s.QU s.QP s.QO sH.Q9 s.QG s7.QR s.6PZ sH.Q9 s.QR s7.QR
   s.6PU s.QD s.QG s.QI s.QU s.QP s.QO sH.Q9 s.QG s7.QR s.6PZ sH.Q9 s.QR s7.QR s.6PU s.QD s.QG s.QI
   s.QU s.QP s.QO sH.Q9 s.QG s7.QR s.6PZ sH.Q9 s.QR s7.QR s.6PU s.QD s.QG s.QI s.QU s.QP s.QO s.RH s.RH
   x2 sA.1C sA.1C sA.1C sA.1C sA.1C vI4 xF v5 x vF x11S v7 x vH x2 v7 x v2 x v5 x5X v19 x3 vE x2 vA x4
   v2 xA8 v1M x5 v xZK v5H x2 vG x15 sY.2OMA v16 x4 vA x4 v2 xLT v1W x24 v1P x5E s2.17R s.17W s.17Z x
   s.18O s.182 s.17X s.187 s.18Q s4.18J s.183 s.189 s.18H s.185 s.18I s.181 s.184 s2.17U s.17Y s.180
   s.186 s.188 s.18A s.19Q s.1BU s.1B5 s.19R x s.17S s.17W x s.18N x2 s.17X x s.18Q s4.18J s.183 s.189
   s.18H s.185 s.18I x s.184 s2.17U s.17Y x s.186 x s.18A x6 s.17W x4 s.17X x s.18Q x s.18K x s.18M
   s.183 s.189 x s.185 s.18I x s.184 x2 s.17Y x s.186 x s.18A x s.1BU x s.19R x s.17S s.17W x s.18N x2
   s.17X s.187 s.18Q s.18J x s2.18L s.183 s.189 s.18H s.185 s.18I x s.184 s2.17U s.17Y x s.186 s.188
   s.18A s.19Q x s.1B5 x s2.17R s.17W s.17Z s2.18N s.182 s.17X s.187 s.18Q x s3.18K s.183 s.189 s.18H
   s.185 s.18I s.181 s.184 s2.17U s.17Y s.180 s.186 s.188 s.18A x5 s.17S s.17W s.17Z x s.18O s.182
   s.17X s.187 s.18Q x s3.18K s.183 s.189 s.18H s.185 s.18I s.181 s.184 s2.17U s.17Y s.180 s.186 s.188
   s.18A x1G v2 x7I v18 x4 v2S xC vF x2 vF x vF x v11 xB m1C.18 m1D.18 m1E.18 m1F.18 m1G.18 m1H.18
   m1I.18 m1J.18 m1K.18 m1L.18 v5 m14.2P.15 m14.2Q.15 m14.2R.15 m14.2S.15 m14.2T.15 m14.2U.15 m14.2V.15
   m14.2W.15 m14.2X.15 m14.2Y.15 m14.2Z.15 m14.30.15 m14.31.15 m14.32.15 m14.33.15 m14.34.15 m14.35.15
   m14.36.15 m14.37.15 m14.38.15 m14.39.15 m14.3A.15 m14.3B.15 m14.3C.15 m14.3D.15 m14.3E.15
   m9HW.37.9HX s.2R s.36 m2R.2S m3B.3E v sQ.2P m2W.3A m31.3A m37.2S m37.37 m34.34.3A m3B.2R vQ m31.2R
   m31.2S m31.36 vZ m2S.2Y vT x1K vQ m9KR.9JF m9MB.9MB s.9MD xD s.JEZ s.I1J s.GJW s.9MV s.FIK s.HLM
   s.R8J s.HM1 s.FJ8 s.K68 s.MCH s.K2H s.G99 s.IVG s.G3X s.K34 s.G7X s.OQQ s.N4V s.RS9 s.HKG s.GMX
   s.LXW s.JH1 s.JMD s.FEO s.FEX s.SI2 s.IJQ s.FFX s.GKZ s.JK7 s.RXS s.JF7 s.O01 s.O6Y s.GLK s.LTS
   s.KCP s.KCO s.N5F s.GAA s.GXI s.SP9 x4 m9HW.KDO.9HX m9HW.FEX.9HX m9HW.FIK.9HX m9HW.I2X.9HX
   m9HW.M9L.9HX m9HW.JF7.9HX m9HW.NH3.9HX m9HW.GD9.9HX m9HW.K0N.9HX x7 s.IVR s.GKV xE v6 x4A vRC x8 vD
   x3 vD x3 v38 xC v2H x7 vC xK vC x4 v1K x8 vA x6 v14 x8 vU x2 v2 x26 v3D x v2A x v3R xC vE x2 v5 x3
   v3 x5 v7 x9 vP x7 v7 x9 v3 xD v7 x15 v43 x v1J x11 sA.1C xSM vWYM xY v379 xB v66 x2 v4G2 xE v5RL
   x2E7 s.FGD s.FG8 s.FGH s.2TCY s.FOG s.FQM s.FQZ s.FSY s.FWA s.FX5 s.FZB s.FYN s.AE6 s.2UD6 s.G25
   s.G2C s.G2S s.G3B s.2U58 s.AEX s.G2V s.G3X s.2U6J s.G47 s.G4K s.FKC s.G4S s.G51 s.3LY7 s.G6T s.G77
   s.AFZ s.G8R s.G92 s.GAA s.GAF s.AHH s.GCN s.GCP s.GDG s.GE2 s2.GED s.GEV s.GG9 s.GGH s.GGQ s.GHF
   s.GHP s.GHR s.GHR s.GHR s.2V58 s.M7K s.GJU s.GKF s.2VDV s.GKR s.GKX s.GLI s.GPQ s.GMW s.GNC s.GO8
   s.GPU s.GS6 s.GSW s.GUR s.GV7 s.GW4 s.GW4 s.GWP s.GX7 s.GXF s.GXU s.H7A s.GZQ s.H7B s.H1T s.H2S
   s.G7B s.HKE s.HCE s.HDG s.HE5 s.HAJ s.HF6 s.HF5 s.HIK s.2X9G s.HKI s.HKN s.HL2 s.HLM s.HLU s.HNM
   s.2XM0 s.2XNU s.HRG s.HSR s.HT3 s.HQW s.HUU s.AUM x s.HZC s.I0U s.I0U s.2Y88 s.I4J s.I54 s.I5J s.I5V
   s.2YHK s.I67 s.I6E x s.I76 s.AYP s.I8W s.I9A s.IBK s.IA5 s.2Z1G s.IF7 s.2Z1I s.IGE s.IGB s.IGS
   s2.IJL s.B3J s.IKD s.ILK s.IM5 s.IND s.B4Y s.2ZR7 s.B5O s.IPC s.IPF s.IPI s.IQ2 s.3PG2 s.IRI s.3035
   s.3035 s.POH s.ISI s.ISI s.B7R s.335K s.3CGQ s.IUA s.IUJ s.B8J s.IVU s.IX9 s.IXJ s.IYH s.J29 s.BAY
   s.BA4 s.J2S s.30T0 s.J47 s.J7S s.J7W s.J7Y s.J7W s.J96 s.J9Q s.JAQ s.JAC s.JAN s.JBY s.JCI s.JCM
   s.JDC s.JDN s.JFH s.JHT s.JIS s.JM8 s.31N0 s.JLP s.JJW s.JMW s.JNN s.JQC s.31TD s.JS2 s.JPH s.JOP
   s.BHQ s.JU1 s.JUM s.JVH s.JUF s.BJG s.K0F s.K18 s.32MI s.K4J s.KC8 s.K7D s.BO9 s.K9D s.BNS s.BMS
   s.G42 s.G45 s.KCG s.K9O s.PF1 s.DEH s.KD3 s.KD7 s.KDD s.KF2 s.KER s.33CZ s.BPL s.KJE s.KG5 s.KLU
   s.KN9 s.33HP s.KNI s.KKF s.KR8 s.BRX s.KSI s.KV7 s.KX6 s.L2G s.33XF s.L3V s.BVC s.L5T s.34BR s.L78
   s.BWU s.L82 s.L9B s2.LA2 s.34P9 s.2YVF s.34SA s.LE6 s.354S s.LHB s.LHP s.LEV s.LJQ s.LKU s.LMF s.LKX
   s.LM1 s.LMG s.LMT s.357I s.LKK s.LRJ s.LTA s.C37 s.LVV s.LVR s.35JL s.LQ1 s.M0E s.35NI s.35OU s.M2U
   s.M61 s.M5A s.M57 s.C5Y s.M6I s.M7X s.M7R s.M99 s.2U5H s.MDH s.368Z s.MFW x s.MJS s.MK5 s.MKW s.36YW
   s.MM8 s.MMT s.3779 s.37DG s.MT6 s.MTN s.CDO s.MUD s.CE0 s.CE0 s.MYV s.MZG s.N01 s.N0L s.N2I s.CGR
   s.N50 s.386U s.N5Q s.389E s.N74 s.2ZRZ s.NBK s.38V5 s.38VS s.38ZO s.CN0 s.CNC s.NHW s.394J s.394I
   s.395L s.396B s2.NJ2 s.NJ3 s.NKA s.COP s.NM3 s.CP2 s.CRA s.39R1 s.NRI s.NT8 s.NV0 s.CTF s.3A5I s.NYU
   s.3A8Q s.3A9X s.O0F s.O2Z s.CVJ s.O5C s.O5M s.O5R s.3AT8 s.3B1J s.3B1J x s.D1E s.3B8R s.OG6 s.OG9
   s.D2F s.3BEO s.ONM s.D5S s.OO8 s.OO3 s.OOW s.3C06 s.ORN s.D8H s.OUF s.OW2 s.OXX s.D9W s.3CIW s.3CJR
   s.DAX s.3CNT s.P6I s.3CQM s.P79 s.PA2 s.PAD s.3D22 s.3D43 s.PCW s.3D7S s.PDC s.33A7 s.DED s.PF6
   s.PHF s.DFV s.PJ2 s.HX1 s.3DLZ s.3DMD s.33BN s.33BW s.POH s.POK s.SDA s.DIJ s.PSH s.PSB s.PST s.GC3
   s.PTD s.PTF s.PTP s.PUU s.3EBG s.PUT s.PWD s.PYB s.Q0D s.PWJ s.Q0T s.Q1Z s.Q53 s.PXV s.Q16 s.Q18
   s.Q1O s.3EIE s.3EQZ s.3EMT s.DNV s.Q9D s.Q9F s.QAE s.3G0A s.QCK s.3F3G s.DP9 s.DPD s.3F75 s.3FF6
   s.DPN s.QJ4 s.QJG s.QJR s.QJT s.QLL s.QKO s.QOE s.QN6 s.QRD s.QP4 s.QQZ s.QRQ x s.QU9 s.QV5 s.DTL
   s.QXS s.QXV s.3GIV s.R13 s.R1A s.DV9 s.R22 s.AEZ s.3GZ2 s.3H46 s.DZ2 s.DZB s.RDS s.RFX s.RKA s.RPX
   s.3HRC s.RSB s.RSX s.RVF s.RXZ s.3I9B s.2UPW s.S0B s.RZW s.S1C s.2UVY s.S7O s.SAG s.3JKI s.3JL9
   s.SK4 s.SMP s.SNL s.3JU6 s.SNV s.SVS s2.T07 s.SXO s.T89 s.T91 s.3KSA s.TJF s.EJ9 s.TKN s.3L2V s.ELI
   s.TS3 s.IIA s.TUR s.3LTX s.3LZU s.EPA s.EPI s.U00 s.3MDM s.ER6 s.3MHI s.U17 s.U17 s.U21 s.3MPI s.U76
   s.EUR s.U95 s.UCN s.UDE s.UF2 s.EZ2 s.3NSG s.UMQ s.UV4 s.V0D s.F66 s.F71 s.V3B s.3OWE s.F7C s.3OXX
   s.3P5A s.3P8X s.VCR s.F9Y s.VEH s.VEM s.VET s.VF3 s.VFA s.VGB s.3PXC x15U v3T7 xFCMT i6O x47BK"

end PowerOfAttorney.DomainName
