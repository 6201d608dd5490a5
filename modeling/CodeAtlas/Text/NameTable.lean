set_option autoImplicit false

/-! The names of characters in Unicode 14, packed. Hangul syllables and unified ideographs are left out,
since their names are put together by rule. -/

namespace CodeAtlas.Text

-- A lower-case letter in a packed name stands for one of these, in the order of the alphabet.
def namePhrases : List String :=
  ["L LETTER ", " WITH ", "CAPITA", "AR", "AL", "IGHT", " FORM", "IN", "LE", "ER", "AN", "ON",
   " S", " ABOVE", " ISOLATED", "ED ", "EN", "OW", "TI", "HA", "E ", "RE", "IGN", "TH", "T ",
   "RA"]

-- The mark that begins a name, by how many characters the name before it loses at its end.
def nameMarks : List Char :=
  ['!', '$', '%', '&', '(', ')', '*', '+', ',', '.', ':', ';', '<', '=', '>', '?', ']', '^', '_',
   '|']

-- The first code of a run of characters, and their names one after the other. Each begins with a mark; a
-- tilde behind it takes away twenty characters more. A code without a name repeats the one before.
def nameRuns : List (Nat × List String) :=
  [(32,
   ["!SPACE)EXCLAMAsl MdK]QUOTAsl MdK>NUMBjmw;DOLLdmw;PjCqTmw<AMPjSkD,POSTROPHE:iFyPdqxESIS]Rf P",
    "dqxESIS^ASTjISK,PLUSmw.COMMA)HYPHq-MhUS<FULLmTOP.SOLIDUS+DIGIyZjO(lE&TWO%HvE)FOUR&IVE(SIX%E",
    "Vq)Ef)NhE:COLl)SEMICOLl.iSS-xkmw>EQUeSmw;GvATj-xkmw^QUESsl MdK=COMMjCIe AT=LATh caA$B$C$D$E",
    "$F$G$H$I$J$K$L$M$N$O$P$Q$R$S$T$U$V$W$X$Y$Z$~EFTmQUduBzCKET|vVjSEmOLIDUS>fmQUduBzCKET!~CIRCU",
    "MFiX ACCqT^Lr LhE,GzVuACCqT<LAThmMeaA$B$C$D$E$F$G$H$I$J$K$L$M$N$O$P$Q$R$S$T$U$V$W$X$Y$Z|EFy",
    "CURLY BzCKET_VjsCe LhE=Rf CURLY BzCKET|sLDE"]),
   (160,
   ["!NO-BvAKmPACE>hVjTpEXCLAMAsl MdK)~CqTmw.POUNDmw:CURRqCYmw=Yqmw,BROKq Bd:SECslmw<DIAjESIS.CO",
    "PYRfmw>FEMhhuORDhe hDICATOR*~iFT-POhThG DOUBi kGi QUOTAsl MdK$~~NOTmw,SOFyHYPHq;vGISTjEDmw?",
    "MACRl*DEGvEmw;PLUS-MhUSmw?SUPjSCRIPyTWO%HvE^ACUTuACCqT<MICROmw:PILCRrmw<MIDDi DOT:CEDILLA+S",
    "UPjSCRIPylE?MASCULhuORDhe hDICATOR+~Rf-POhThG DOUBi kGi QUOTAsl MdK%~~VULGd FzCsl luQUdTj+H",
    "eF,xvuQUdTjS:~hVjTpQUESsl MdK%~LATh caAbGzVE)ACUTE)CIRCUMFiX:sLDE)DIAjESIS.RhGn]E%CbCEDILLA",
    ">EbGzVE)ACUTE)CIRCUMFiX:DIAjESIS]IbGzVE)ACUTE)CIRCUMFiX:DIAjESIS]Ex&NbsLDE<ObGzVE)ACUTE)CIR",
    "CUMFiX:sLDE)DIAjESIS^~MULsPLICAslmw|LATh caObSTROKE=UbGzVE)ACUTE)CIRCUMFiX:DIAjESIS]YbACUTE",
    "<xORN!~SMeaSHdPm+AbGzVE)ACUTE)CIRCUMFiX:sLDE)DIAjESIS.RhGn]E%CbCEDILLA>EbGzVE)ACUTE)CIRCUMF",
    "iX:DIAjESIS]IbGzVE)ACUTE)CIRCUMFiX:DIAjESIS]Ex&NbsLDE<ObGzVE)ACUTE)CIRCUMFiX:sLDE)DIAjESIS?",
    "~DIVISIlmw=LAThmMeaObSTROKE=UbGzVE)ACUTE)CIRCUMFiX:DIAjESIS]YbACUTE<xORN)YbDIAjESIS.~caAbMA",
    "CRl,~SMeaAbMACRl*~caAbBvVE+~SMeaAbBvVE)~caAbOGlEK,~SMeaAbOGlEK*~caCbACUTE+~SMeaCbACUTE)~caC",
    "bCIRCUMFiX<~SMeaCbCIRCUMFiX:~caCbDOTn;~SMeaCbDOTn.~caCbCdl+~SMeaCbCdl)~caDbCdl+~SMeaDbCdl)~",
    "caDbSTROKE,~SMeaDbSTROKE*~caEbMACRl,~SMeaEbMACRl*~caEbBvVE+~SMeaEbBvVE)~caEbDOTn;~SMeaEbDOT",
    "n.~caEbOGlEK,~SMeaEbOGlEK*~caEbCdl+~SMeaEbCdl)~caGbCIRCUMFiX<~SMeaGbCIRCUMFiX:~caGbBvVE+~SM",
    "eaGbBvVE)~caGbDOTn;~SMeaGbDOTn.~caGbCEDILLA.~SMeaGbCEDILLA+~caHbCIRCUMFiX<~SMeaHbCIRCUMFiX:",
    "~caHbSTROKE,~SMeaHbSTROKE*~caIbsLDE+~SMeaIbsLDE)~caIbMACRl,~SMeaIbMACRl*~caIbBvVE+~SMeaIbBv",
    "VE)~caIbOGlEK,~SMeaIbOGlEK*~caIbDOTn;~SMeaDOTiSS I%~cL LIGATURuIJ|SMeL LIGATURuIJ^caJbCIRCU",
    "MFiX<~SMeaJbCIRCUMFiX:~caKbCEDILLA.~SMeaKbCEDILLA=z]caLbACUTE+~SMeaLbACUTE)~caLbCEDILLA.~SM",
    "eaLbCEDILLA+~caLbCdl+~SMeaLbCdl)~caLbMIDDi DOT<~SMeaLbMIDDi DOT:~caLbSTROKE,~SMeaLbSTROKE*~",
    "caNbACUTE+~SMeaNbACUTE)~caNbCEDILLA.~SMeaNbCEDILLA+~caNbCdl+~SMeaNbCdl:PvCEDpBY APOSTROPHE^",
    "~caqG_SMeaqG]caObMACRl,~SMeaObMACRl*~caObBvVE+~SMeaObBvVE)~caObDOUBi ACUTE>~SMeaObDOUBi ACU",
    "TE<~cL LIGATURuOE|SMeL LIGATURuOE^caRbACUTE+~SMeaRbACUTE)~caRbCEDILLA.~SMeaRbCEDILLA+~caRbC",
    "dl+~SMeaRbCdl)~caSbACUTE+~SMeaSbACUTE)~caSbCIRCUMFiX<~SMeaSbCIRCUMFiX:~caSbCEDILLA.~SMeaSbC",
    "EDILLA+~caSbCdl+~SMeaSbCdl)~caTbCEDILLA.~SMeaTbCEDILLA+~caTbCdl+~SMeaTbCdl)~caTbSTROKE,~SMe",
    "aTbSTROKE*~caUbsLDE+~SMeaUbsLDE)~caUbMACRl,~SMeaUbMACRl*~caUbBvVE+~SMeaUbBvVE)~caUbRhGn<~SM",
    "eaUbRhGn:~caUbDOUBi ACUTE>~SMeaUbDOUBi ACUTE<~caUbOGlEK,~SMeaUbOGlEK*~caWbCIRCUMFiX<~SMeaWb",
    "CIRCUMFiX:~caYbCIRCUMFiX<~SMeaYbCIRCUMFiX:~caYbDIAjESIS]ZbACUTE+~SMeaZbACUTE)~caZbDOTn;~SMe",
    "aZbDOTn.~caZbCdl+~SMeaZbCdl<LlGm*BbSTROKE*~caBbHOOK(TOPBd,~SMeaBbTOPBd*~caTlEmIX&~SMeaTlEmI",
    "X$~caOPq O*CbHOOK*~SMeaCbHOOK(~caAFRICk D.DbHOOK(TOPBd,~SMeaDbTOPBd=TURNpDELTA)~cavVjSpE:SC",
    "HWA)OPq E*FbHOOK*~SMeaFbHOOK(~caGbHOOK:AMMA!~SMeaHV?caIOTA&bSTROKE=KbHOOK*~SMeaKbHOOK;LbBd.",
    "AMBDAbSTROKE;~caTURNpM,NbiFyHOOK;~SMeaNbLlG Rf iG>~caObMIDDi sLDE<HORN*~SMeaObHORN(~caOI^SM",
    "eaOI?caPbHOOK*~SMeaPbHOOK(~iTTj YR.caTluTWO&~SMeaTluTWO$~caESH_iTTj vVjSpESH LOOP(~SMeaTbPe",
    "ATe HOOK<~caTbHOOK*~SMeaTbHOOK(~caTbvTROFiX HOOK$~UbHORN*~SMeaUbHORN(~caUPSILl+VbHOOK;YbHOO",
    "K*~SMeaYbHOOK(~caZbSTROKE,~SMeaZbSTROKE*~caEZH! vVjSED+~SMeaEZH vVjSED,WIx TAIL*~iTTj TWObS",
    "TROKE%~caTluFIVE(~SMeaTluFIVE%~iTTj hVjTpGLOTTemTOPbSTROKE=~WYNN(DqTe CLICK<LATje CLICK=eVE",
    "OLd CLICK>vTROFiX CLICK%~caDZbCdl<bSMeaZbCdl+~~SMeaDZbCdl*~caLJ$bSMeaJ]~SMeaLJ?caNJ$bSMeaJ]",
    "~SMeaNJ?caAbCdl+~SMeaAbCdl)~caIbCdl+~SMeaIbCdl)~caObCdl+~SMeaObCdl)~caUbCdl+~SMeaUbCdl)~caU",
    "bDIAjESIS kD MACRl%~~SMeaUbDIAjESIS kD MACRl!~~caUbDIAjESIS kD ACUTE$~~SMeaUbDIAjESIS kD AC",
    "UTE|~caUbDIAjESIS kD Cdl$~~SMeaUbDIAjESIS kD Cdl|~caUbDIAjESIS kD GzVE$~~SMeaUbDIAjESIS kD ",
    "GzVE*~TURNpE$~caAbDIAjESIS kD MACRl%~~SMeaAbDIAjESIS kD MACRl!~~caAbDOTn kD MACRl%~~SMeaAbD",
    "OTn kD MACRl!~~caAEbMACRl.~SMeaAEbMACRl+~caGbSTROKE,~SMeaGbSTROKE*~caGbCdl+~SMeaGbCdl)~caKb",
    "Cdl+~SMeaKbCdl)~caObOGlEK,~SMeaObOGlEK*~caObOGlEK kD MACRl|~SMeaObOGlEK kD MACRl^~caEZHbCdl",
    ".~SMeaEZHbCdl>JbCdl)~caDZ$bSMeaZ]~SMeaDZ?caGbACUTE+~SMeaGbACUTE)~caHWAIR)WYNN(NbGzVE+~SMeaN",
    "bGzVE)~caAbRhGn kD ACUTE%~~SMeaAbRhGn kD ACUTE!~~caAEbACUTE,~SMeaAEbACUTE*~caObSTROKukD ACU",
    "TE_~SMeaObSTROKukD ACUTE]~caAbDOUBi GzVE>~SMeaAbDOUBi GzVE<~caAbhVjTpBvVE]~SMeaAbhVjTpBvVE>",
    "~caEbDOUBi GzVE>~SMeaEbDOUBi GzVE<~caEbhVjTpBvVE]~SMeaEbhVjTpBvVE>~caIbDOUBi GzVE>~SMeaIbDO",
    "UBi GzVE<~caIbhVjTpBvVE]~SMeaIbhVjTpBvVE>~caObDOUBi GzVE>~SMeaObDOUBi GzVE<~caObhVjTpBvVE]~",
    "SMeaObhVjTpBvVE>~caRbDOUBi GzVE>~SMeaRbDOUBi GzVE<~caRbhVjTpBvVE]~SMeaRbhVjTpBvVE>~caUbDOUB",
    "i GzVE>~SMeaUbDOUBi GzVE<~caUbhVjTpBvVE]~SMeaUbhVjTpBvVE>~caSbCOMMA BELr=~SMeaSbCOMMA BELr;",
    "~caTbCOMMA BELr=~SMeaTbCOMMA BELr;~caYOGH|SMeaYOGH^caHbCdl+~SMeaHbCdl)~caNbLlG Rf iG]~SMeaD",
    "bCURL(~caOU^SMeaOU?caZbHOOK*~SMeaZbHOOK(~caAbDOTn;~SMeaAbDOTn.~caEbCEDILLA.~SMeaEbCEDILLA+~",
    "caObDIAjESIS kD MACRl%~~SMeaObDIAjESIS kD MACRl!~~caObsLDukD MACRl_~SMeaObsLDukD MACRl]~caO",
    "bDOTn;~SMeaObDOTn.~caObDOTn kD MACRl%~~SMeaObDOTn kD MACRl!~~caYbMACRl,~SMeaYbMACRl=LbCURL;",
    "NbCURL;TbCURL;DOTiSS J,B DIGzPH:QP DIGzPH&~caAbSTROKE=CbSTROKE,~SMeaCbSTROKE*~caLbBd:TbDIAG",
    "lemTROKE^~SMeaSbSWASH TAIL^ZbSWASH TAIL:~caGLOTTemTOP+~SMeaGLOTTemTOP)~caBbSTROKE=U Bd)TURN",
    "pV,EbSTROKE,~SMeaEbSTROKE*~caJbSTROKE,~SMeaJbSTROKE*~caSMeL QbHOOK TAIL^~SMeaQbHOOK TAIL.~c",
    "aRbSTROKE,~SMeaRbSTROKE*~caYbSTROKE,~SMeaYbSTROKE=TURNpA,ePt)TURNpePt<BbHOOK;OPq O*CbCURL;D",
    "bTAIL(HOOK;vVjSpE:SCHWA!bHOOK?OPq E*vVjSpOPq E!bHOOK)~CLOSpvVjSpOPq E%~DOTiSS JbSTROKE$~GbH",
    "OOK;SCRIPyG$~iTTjmMeL cL G%~SMeaGAMMA)zMS HORN.TURNpH,HbHOOK:qGbHOOK>IbSTROKE<OTA^iTTjmMeL ",
    "cL I%~SMeaLbMIDDi sLDE<BELT(vTROFiX HOOK!~EZH(TURNpM!bLlG iG%~MbHOOK;NbiFyHOOK.vTROFiX HOOK",
    ">~iTTjmMeL cL N%~SMeaBdRpO$~iTTjmMeL cL OE&~SMeaCLOSpOMEGA<PHI&TURNpR!bLlG iG,HOOK_RbLlG iG",
    ",TAIL(FISHHOOK>EVjSpRbFISHHOOK^~iTTjmMeL cL R$hVjTpR;~SMeaSbHOOK;ESH&DOTiSS JbSTROKukD HOOK",
    ":~SQUAyvVjSpESH_ESHbCURL=TURNpT+bvTROFiX HOOK$~U Bd(PSILl+VbHOOK;TURNpV$W$Y$~iTTjmMeL cL Y%",
    "~SMeaZbvTROFiX HOOK>CURL;EZH!bCURL*~iTTj GLOTTemTOP<PHdYNGEe VOICpFRICAsVE+~hVjTpGLOTTemTOP",
    "$~STvTCHpC;BILABIe CLICK>SMeL cL B%~SMeaCLOSpOPq E*~iTTjmMeL cL GbHOOK;H%~SMeaJbCROSSED-TAI",
    "L|TURNpK$~iTTjmMeL cL L%~SMeaQbHOOK(~iTTj GLOTTemTOPbSTROKE(~vVjSpGLOTTemTOPbSTROKE!~~SMeaD",
    "Z DIGzPH.EZH DIGzPH;Z DIGzPHbCURL!~TS DIGzPH.ESH DIGzPH;C DIGzPHbCURL!~FqG DIGzPH<LS DIGzPH",
    ".Z DIGzPH&~iTTj BILABIe PjCUSSIVE^DqTe PjCUSSIVE*~SMeaTURNpHbFISHHOOK! kD TAIL:~~MODIFIj iT",
    "TjmMeL H!bHOOK;J$R$TURNpR!bHOOK_cL hVjTpR_W$Y+PRIME)DOUBi PRIME<TURNpCOMMA<APOSTROPHE:vVjSp",
    "COMMA=f HeF RhG?iFyHeF RhG>GLOTTemTOP<vVjSpGLOTTemTOP$~iFydRrHEAD>Rf dRrHEAD?UP dRrHEAD<DrN",
    " dRrHEAD>CIRCUMFiX ACCqT=~Cdl)MODIFIj iTTj VjsCe LhE=MACRl*ACUTuACCqT<GzVuACCqT<Lr VjsCe Lh",
    "E=MACRl*GzVuACCqT<ACUTuACCqT]TRIkGULd COLl]HeF TRIkGULd COLl$~CqTRpRf HeF RhG?iFyHeF RhG%~U",
    "P TACK+DrN TACK.PLUSmw.MhUSmw*~BvVE)DOTn.RhGn:OGlEK*SMeL sLDE;DOUBi ACUTuACCqT|MODIFIj iTTj",
    " RHOsC HOOK;CROSS ACCqT<SMeL GAMMA)L$S$X$vVjSpGLOTTemTOP+~EXTz-HIGH TluBd|HIGH TluBd=MID Tl",
    "uBd<Lr TluBd<EXTz-Lr TluBd_Yh DEPdThG TluMdK%~kG DEPdThG TluMdK(~VOIChG+UNASPIzTED;DOUBi AP",
    "OSTROPHE^Lr DrN dRrHEAD>UP dRrHEAD<iFydRrHEAD>Rf dRrHEAD=NG,MIDDi GzVuACCqT<DOUBi GzVuACCqT",
    "<ACUTuACCqT*~Lr sLDE.zISpCOLl<BEGh HIGH TlE?qD HIGH TlE=BEGh Lr TlE>qD Lr TlE<SHELF)OPqmHEL",
    "F:Lr iFydRr:~COMBhhG GzVuACCqT<ACUTuACCqT<CIRCUMFiX ACCqT^sLDE)MACRl*OVjLhE,BvVE)DOTn,IAjES",
    "IS.HOOKn:RhGn:DOUBi ACUTuACCqT|Cdl)VjsCe LhEn|DOUBi VjsCe LhEn|GzVuACCqT|CkDzBhDU;hVjTpBvVE",
    ">TURNpCOMMAn_COMMAn;vVjSpCOMMAn!~COMMAn Rf^GzVuACCqyBELr_ACUTuACCqyBELr_iFyTACK BELr?Rf TAC",
    "K BELr]iFykGin]HORN(iFyHeF RhG BELr!~UP TACK BELr=DrN TACK BELr?PLUSmw BELr?MhUSmw BELr]PeA",
    "TeIZpHOOK BELr%~vTROFiX HOOK BELr!~DOyBELr,IAjESIS BELr?RhG BELr:COMMA BELr:EDILLA+OGlEK*Vj",
    "sCe LhuBELr|BRIDGuBELr<hVjTpDOUBi dCH BELr*~Cdl BELr:IRCUMFiX ACCqyBELr&~BvVuBELr;hVjTpBvVu",
    "BELr!~sLDuBELr;MACRl BELr<Lr LhE,DOUBi Lr LhE?sLDuOVjLAY=SHORTmTROKuOVjLAY!~LlGmTROKuOVjLAY",
    "|SHORTmOLIDUS OVjLAY$~LlGmOLIDUS OVjLAY!~Rf HeF RhG BELr$~hVjTpBRIDGuBELr$~SQUduBELr;EAGULL",
    " BELr=Xn+VjsCe sLDE>DOUBi OVjLhE?GzVuTluMdK?ACUTuTluMdK?GvEK PjISPOMqI;KORlIS+DIeYsKA TlOS?",
    "YPOGEGzMMqI|BRIDGEn<EQUeSmw BELr^DOUBi VjsCe LhuBELr*~iFykGi BELr]NOysLDEn?HOMOxEsCn]eMOSyE",
    "QUe TOn$~iFyRf dRr BELr%~UPWdDS dRr BELr|GzPHEMuJOhj?Rf dRrHEADn$~iFyHeF RhGn!~FjMATA+X BEL",
    "r+iFydRrHEAD BELr!~Rf dRrHEAD BELr)kD UP dRrHEAD BELr<~HeF RhGn$~DOTn Rf?ASTjISK BELr>DOUBi",
    " RhG BELr^ZIGZAGn<DOUBi BvVuBELr*)MACRl! BELr<sLDE)hVjTpBvVE>RfWdDS dRr BELr.~LAThmMeaA$E$I",
    "$O$U$C$D$H$M$R$T$V$X:~GvEK caHETA|SMeaHETA^cadCtICmAMPI,~SMeadCtICmAMPI*~NUMjemw<Lrj NUMjem",
    "w_caPAMPHYLIk DIGAMMA=~SMeaPAMPHYLIk DIGAMMA!!;~YPOGEGzMMqI=SMeL vVjSpLUNATEmIGMAmYMBOL,~DO",
    "TTpLUNATEmIGMAmYMBOL*~vVjSpDOTTpLUNATEmIGMAmYMBOL$~~QUESsl MdK=caYOT!!!!_TlOS)DIeYsKA TlOS?",
    "caePtbTlOS;~kO TEiIA:caEPSILlbTlOS^TAbTlOS>IOTAbTlOS!?OMICRlbTlOS!_UPSILlbTlOS_OMEGAbTlOS;~",
    "SMeaIOTAbDIeYsKA kD TlOS%~~caePt)BETA(GAMMA)DELTA)EPSILl+ZETA(ETA&xETA)IOTA(KAPPA)LAMDA)MU%",
    "NU%XI%OMICRl+PI%RHO!&SIGMA)TAU&UPSILl+PHI&CHI&PSI&OMEGA)IOTAbDIeYsKA|UPSILlbDIeYsKA^~SMeaeP",
    "tbTlOS]EPSILlbTlOS^TAbTlOS>IOTAbTlOS?UPSILlbDIeYsKA kD TlOS<~ePt)BETA(GAMMA)DELTA)EPSILl+ZE",
    "TA(ETA&xETA)IOTA(KAPPA)LAMDA)MU%NU%XI%OMICRl+PI%RHO&FhemIGMA;SIGMA)TAU&UPSILl+PHI&CHI&PSI&O",
    "MEGA)IOTAbDIeYsKA|UPSILlbDIeYsKA%~OMICRlbTlOS_UPSILlbTlOS_OMEGAbTlOS.~cL KAImYMBOL_BETAmYMB",
    "OL;xETAmYMBOL<UPSILlbHOOKmYMBOL;ACUTukD HOOKmYMBOL$~DIAjESIS kD HOOKmYMBOL_~PHImYMBOL.ImYMB",
    "OL.KAImYMBOL:iTTj dCtIC KOPPA!~SMeadCtIC KOPPA*~iTTjmsGMA=SMeaSsGMA|iTTj DIGAMMA>SMeaDIGAMM",
    "A!~iTTj KOPPA<SMeaKOPPA_iTTjmAMPI<SMeaSAMPI(~COPsC caSHEI|SMeaSHEI^caFEI_SMeaFEI]caKHEI|SMe",
    "aKHEI^caHORI|SMeaHORI^caGkGIA$~SMeaGkGIA|caSHIMA!~SMeaSHIMA_caDEI_SMeaDEI&~GvEK KAPPAmYMBOL",
    "<RHOmYMBOL:LUNATEmIGMAmYMBOL_ETTj YOT:cL xETAmYMBOL!~LUNATuEPSILlmYMBOL$~vVjSpLUNATuEPSILlm",
    "YMBOL:~caSHO_SMeaSHO]cL LUNATEmIGMAmYMBOL_ETTjmk_SMeaSk]RHObSTROKEmYMBOL%~cL vVjSpLUNATEmIG",
    "MAmYMBOL,~DOTTpLUNATEmIGMAmYMBOL*~vVjSpDOTTpLUNATEmIGMAmYMBOL.~~CYRILLIC caIEbGzVE<O%DJE&GJ",
    "E&UKzhIk IE<DZE&BYELORUSSIk-UKzhIk I(~YI%JE%LJE&NJE&TSHE(KJE&IbGzVE<SHORyU+DZHE(A$BE%VE%GHE",
    "&DE%IE%ZHE%E%I$SHORyI+KA%EL$M$N%O$PE%j$S%TE%U$EF%t%TSE&CHE&St$Ct)HdDmw.YjU(SOFTmw.E$YU$A^SM",
    "eaA$BE%VE%GHE&DE%IE%ZHE%E%I$SHORyI+KA%EL$M$N%O$PE%j$S%TE%U$EF%t%TSE&CHE&St$Ct)HdDmw.YjU(SOF",
    "Tmw.E$YU$A%IEbGzVE<O%DJE&GJE&UKzhIk IE<DZE&BYELORUSSIk-UKzhIk I(~YI%JE%LJE&NJE&TSHE(KJE&IbG",
    "zVE<SHORyU+DZHE^caOMEGA!~SMeaOMEGA_caYAT_SMeaYAT]caIOsFIpE)~SMeaIOsFIpE&~caLITTi YUS)~SMeaL",
    "ITTi YUS&~caIOsFIpLITTi YUS>~SMeaIOsFIpLITTi YUS<~caBIG YUS%~SMeaBIG YUS!~caIOsFIpBIG YUS;~",
    "SMeaIOsFIpBIG YUS.~caKSI_SMeaKSI]caPSI_SMeaPSI]caFITA|SMeaFITA^caIZHITSA%~SMeaIZHITSA!~caIZ",
    "HITSAbDOUBi GzVuACCqT+~~SMeaIZHITSAbDOUBi GzVuACCqT)~~caUK^SMeaUK?caROUND OMEGA*~SMeaROUND ",
    "OMEGA(~caOMEGAbsTLO;~SMeaOMEGAbsTLO.~caOT^SMeaOT?caKOPPA!~SMeaKOPPA_xOUSkDSmw%~OMBhhG CYRIL",
    "LIC sTLO)PeATeIZAsl>DASIA PNEUMATA>PSILI PNEUMATA=OKRYsE,HUNDRpxOUSkDSmw%~MILLIlSmw;~YRILLI",
    "C caSHORyIbTAIL<~SMeaSHORyIbTAIL:~caSEMISOFTmw,~SMeaSEMISOFTmw*~cajbsCK+~SMeajbsCK)~caGHEbU",
    "PTURN:~SMeaGHEbUPTURN,~caGHEbSTROKE:~SMeaGHEbSTROKE,~caGHEbMIDDi HOOK?~SMeaGHEbMIDDi HOOK=~",
    "caZHEbDESCqDj=~SMeaZHEbDESCqDj;~caZEbDESCqDj<~SMeaZEbDESCqDj:~caKAbDESCqDj<~SMeaKAbDESCqDj:",
    "~caKAbVjsCemTROKE_~SMeaKAbVjsCemTROKE]~caKAbSTROKE.~SMeaKAbSTROKE+~caBASHKIR KA)~SMeaBASHKI",
    "R KA&~caqbDESCqDj<~SMeaqbDESCqDj:~cL LIGATURuq GHE&~SMeL LIGATURuq GHE$~caPEbMIDDi HOOK>~SM",
    "eaPEbMIDDi HOOK<~caABKtSIk t+~SMeaABKtSIk t)~caESbDESCqDj<~SMeaESbDESCqDj:~caTEbDESCqDj<~SM",
    "eaTEbDESCqDj:~caSTzf U)~SMeaSTzf U&~caSTzf UbSTROKE^~SMeaSTzf UbSTROKE?~catbDESCqDj<~SMeatb",
    "DESCqDj:~cL LIGATURuTuTSE&~SMeL LIGATURuTuTSE$~caCHEbDESCqDj=~SMeaCHEbDESCqDj;~caCHEbVjsCem",
    "TROKE|~SMeaCHEbVjsCemTROKE^~caSHt|SMeaSHt^caABKtSIk CHE,~SMeaABKtSIk CHE*~caABKtSIk CHEbDES",
    "CqDj&~~SMeaABKtSIk CHEbDESCqDj$~~iTTj PeOCHKA?caZHEbBvVE.~SMeaZHEbBvVE+~caKAbHOOK+~SMeaKAbH",
    "OOK)~caELbTAIL+~SMeaELbTAIL)~caqbHOOK+~SMeaqbHOOK)~caqbTAIL+~SMeaqbTAIL)~caKtKASSIk CHE.~SM",
    "eaKtKASSIk CHE+~caEMbTAIL+~SMeaEMbTAIL<PeOCHKA$~caAbBvVE+~SMeaAbBvVE)~caAbDIAjESIS;~SMeaAbD",
    "IAjESIS.~cL LIGATURuA IE$~SMeL LIGATURuA IE|caIEbBvVE,~SMeaIEbBvVE*~caSCHWA!~SMeaSCHWA_caSC",
    "HWAbDIAjESIS?~SMeaSCHWAbDIAjESIS=~caZHEbDIAjESIS=~SMeaZHEbDIAjESIS;~caZEbDIAjESIS<~SMeaZEbD",
    "IAjESIS:~caABKtSIk DZE,~SMeaABKtSIk DZE*~caIbMACRl,~SMeaIbMACRl*~caIbDIAjESIS;~SMeaIbDIAjES",
    "IS.~caObDIAjESIS;~SMeaObDIAjESIS.~caBdRpO&~SMeaBdRpO$~caBdRpObDIAjESIS_~SMeaBdRpObDIAjESIS]",
    "~caEbDIAjESIS;~SMeaEbDIAjESIS.~caUbMACRl,~SMeaUbMACRl*~caUbDIAjESIS;~SMeaUbDIAjESIS.~caUbDO",
    "UBi ACUTE>~SMeaUbDOUBi ACUTE<~caCHEbDIAjESIS=~SMeaCHEbDIAjESIS;~caGHEbDESCqDj=~SMeaGHEbDESC",
    "qDj;~caYjUbDIAjESIS>~SMeaYjUbDIAjESIS<~caGHEbSTROKukD HOOK|~SMeaGHEbSTROKukD HOOK^~catbHOOK",
    "+~SMeatbHOOK)~catbSTROKE.~SMeatbSTROKE+~caKOMI DE%~SMeaKOMI DE!~caKOMI DJE&~SMeaKOMI DJE$~c",
    "aKOMI ZJE&~SMeaKOMI ZJE$~caKOMI DZJE(~SMeaKOMI DZJE%~caKOMI LJE&~SMeaKOMI LJE$~caKOMI NJE&~",
    "SMeaKOMI NJE$~caKOMImJE&~SMeaKOMImJE$~caKOMI TJE&~SMeaKOMI TJE$~cavVjSpZE*~SMeavVjSpZE(~caE",
    "LbHOOK+~SMeaELbHOOK)~caLt_SMeaLt]caRt_SMeaRt]caYAE_SMeaYAE]caQA^SMeaQA?caWE^SMeaWE?caeEUyKA",
    "&~SMeaeEUyKA$~caELbMIDDi HOOK>~SMeaELbMIDDi HOOK<~caqbMIDDi HOOK>~SMeaqbMIDDi HOOK<~caPEbDE",
    "SCqDj<~SMeaPEbDESCqDj:~caSHtbDESCqDj>~SMeaSHtbDESCqDj<~caqbiFyHOOK<~SMeaqbiFyHOOK:~caDZZHE!",
    "~SMeaDZZHE_caDCHE|SMeaDCHE^caELbDESCqDj<~SMeaELbDESCqDj!|~dMqIk caAYB&Bq&GIM&DA%ECH&ZA%EH$T",
    "%TO%ZHE&hI&LIWN(XEH&CA%Kq&HO%JA%GtD(CHEH(Mq&YI%Nr&St&VO%Ct&PEH&JHEH(z%SEH&VEW&sWN(vH&CO%YIW",
    "N(PIWR(KEH&OH%FEH!!_MODIFIj iTTj iFyHeF RhG:~APOSTROPHE:EMPtSIS MdK<XCLAMAsl MdK]COMMA)QUES",
    "sl MdK=ABBvVIAsl MdK^SMeaTURNpAYB:AYB&Bq&GIM&DA%ECH&ZA%EH$T%TO%ZHE&hI&LIWN(XEH&CA%Kq&HO%JA%",
    "GtD(CHEH(Mq&YI%Nr&St&VO%Ct&PEH&JHEH(z%SEH&VEW&sWN(vH&CO%YIWN(PIWR(KEH&OH%FEH.IGATURuECH YIW",
    "N]ETTj YIbSTROKE+~FULLmTOP.HYPHq!!?Rf-FAChG dMqIk ETjNITYmw?~iFT-FAChG dMqIk ETjNITYmw>~dMq",
    "Ik DzMmw!_HEBvW ACCqyETNAHTA+SEGOL(HeSHEiT:ZAQEF QATk)GADOL;sPEt*vVIA)ZdQA)PASHTA*YEsV)TEVI",
    "R)GjESH! MUQDAM:StYIM.QdNEY PdA;TELISt GEDOLA>PAZj)ATNAH tFUKH<MUNAH(AtPAKH+jKt! KEFULA=DdG",
    "A)QADMA)TELISt QETkA>YjAH Bq YOMO>Oi&ILUY(DEHI(ZhOR<MdK MASOz CIRCi_POhTmHEVA)tTAFmEGOL)PAT",
    "AH)QAMATS;IRIQ)TSjE)SEGOL)PATAH)QAMATS*HOLAM! tSj FOR VAV|QUBUTS*DAGESH OR MAPIQ?METEG:UNCT",
    "UAsl MAQAF]OhyzFE.UNCTUAsl PASEQ]OhTmHh DOT+h DOT<UNCTUAslmOF PASUQ$~MdK UPPj DOT.Lrj DOT>P",
    "UNCTUAsl NUN tFUKt%~OhyQAMATS QATk!!!!!!!!_iTTj eEF(BET&GIMEL)DeET)HE%VAV&ZAYh)HET&TET&YOD&",
    "Fhe KAF.KAF&LAMED)Fhe MEM.MEM&Fhe NUN.NUN&SAMEKH*AYh(Fhe PE,PE%Fhe TSADI;TSADI)QOF&vSH(SHh(",
    "TAV!!!!:YOD TRIkGi<LIGATURuYIDDISH DOUBi VAV:VAV YOD+DOUBi YOD+~PUNCTUAsl GjESH&StYIM!!!!!!",
    "!!!!!,~dABIC NUMBjmw;SwmkAH:FOOTNOTuMdKj?SwmAFt&MVAT;NUMBj MdKn_-hDIC CUBuROOT.FOURx ROOT_ ",
    "zY(-hDIC Pj MILimw:Tq xOUSkDmw=~FGHkImw;zBIC COMMA)DATEmEPdATOR>POEsC VjSEmw^Sw MISz)SeLeLA",
    "HOU eAYHuWASSeLAM,~eAYHuASSeLAM?zHMATULLAH eAYHE]DI eLAHOU kHU^TAKHeLUS=MeL HIGH TAH&LIGATU",
    "RueEFbLAMbYEH;~ZAh.FATt)DAMMA)KASz:EMICOLl.iTTj MdK;qD OF TEXyMdK]TRIPi DOyPUNCTUAsl MdK+~Q",
    "UESsl MdK=iTTj KASHMIRI YEH<tMZA)eEFbMADDAn;tMZAn$~WAWbtMZAn!~eEFbtMZA BELr$~YEHbtMZAn!~eEF",
    "(BEH&TEH MdBUTA,%HEH(JEEM(tH&KtH(De&xe(vH&ZAh(SEq&HEq(AD&DAD&TAH&ZAH&Ah&Gth)KEHEHbTWO DOTSn",
    "=HvuDOTS BELr+~FdSI YEHbhVjTpV:TWO DOTSn=HvuDOTSn_~TATWEEL+iTTj FEH&QAF&KAF&LAM&MEEM(NOl(HE",
    "H&WAW&eEF MAKSUz<YEH:FATtTk,DAMMATk,KASzTk,FATt)DAMMA)KASz)StDDA)UKUN)MADDAHn<tMZAn)BELr;SU",
    "BSCRIPyeEF>hVjTpDAMMA>MdK NOl GHUNNA]ZWdAKAY,VrELmwmMeL Vn=hVjTEDmMeL Vn%~DOyBELr!~vVjSpDAM",
    "MA>FATtbTWO DOTS|WAVY tMZA BELr^-hDIC DIGIyZjO(lE&TWO%HvE)FOUR&IVE(SIX%EVq)Ef)NhE^ PjCqTmw<",
    "DECIMemEPdATOR^xOUSkDSmEPdATOR|FIVuPOhTEDmTd^iTTj DOTiSS BEH&QAF;SUPjSCRIPyeEF]eEF WASLA(Ix",
    " WAVY tMZAn)BELr*~HIGH tMZA! eEF(WAW>UbtMZAn_HIGH tMZA YEH>TTEH!EH*BEEH(TEHbRhG(xvuDOTSn Dr",
    "NWdDS?~PEH&TEHEH)BEHEH)tHbtMZAn;TWO DOTS VjsCen<~NYEH(DYEH(tHbxvuDOTSn)~TCHEH!EH+DDe&ebRhG(",
    "DOyBELr! kDmMeL TAH:~He(DAHe)UL%ebxvuDOTSn DrNWdDS*~FOUR DOTSn(~RvH&EHbSMeL V+RhG(DOyBELr.S",
    "MeL V BELr=DOyBELr kD DOTn&~TWO DOTSn&~JEH&vHbFOUR DOTSn(~SEqbDOyBELr kD DOTn&~xvuDOTS BELr",
    "! kD xvuDOTSn*~~ADbTWO DOTS BELr=HvuDOTSn)~TAHbxvuDOTSn)~AhbxvuDOTSn)~DOTiSS FEH;FEHbDOyMOV",
    "pBELr;BELr_VEH&FEHbxvuDOTS BELr)~PEHEH)QAFbDOTn.xvuDOTSn)~KEHEH)SWASH KAF.KAFbRhG(DOTn_NG%K",
    "AFbxvuDOTS BELr)~GAF!bRhG=NGOEH)GAFbTWO DOTS BELr%~UEH&AFbxvuDOTSn)~LAMbSMeL V+DOTn.xvuDOTS",
    "n)BELr)~NOlbDOyBELr>GHUNNA;RNOl)NOlbRhG(xvuDOTSn*~HEH DOACtSHMEE?TCHEHbDOTn!~HEHbYEHn>GOe!b",
    "tMZAn)~TEH MdBUTA GOe]WAWbRhG=KIRGHIZ OE:OE%U$YU%KIRGHIZ YU:WAWbTWO DOTSn&~VE%FdSI YEH.YEHb",
    "TAIL(SMeL V]WAWbDOTn_E$YEHbxvuDOTS BELr$~BdvE!btMZAn>~FULLmTOP.iTTj AE.SMeL HIGH LIGATUvmAD",
    "bLAMbeEF MAKSUz:~QAFbLAMbeEF MAKSUz|~MEEM hIseg^LAM eEF,JEEM(xvuDOTS:SEq?qD OF AYAH;STdyOF ",
    "RUB EL HIZB|MeL HIGH ROUNDpZjO<UPRf vCTkGULd ZjO(~DOTiSS HEAD OF KtH!~MEEMog&~LrmEq,HIGH MA",
    "DDA:WAW&YEH&HIGH YEH&NOl?PLACuOFmAJDAH?EMPTY CqTRuLrmTOP,HIGHmTOP%~ROUNDpHIGHmTOPbFILiD CqT",
    "v]~SMeL Lr MEEM>iTTj DebhVjTpV|vHbhVjTpV=~EXTqDpdABIC-hDIC DIGIyZjO(lE&TWO%HvE)FOUR&IVE(SIX",
    "%EVq)Ef)NhE<~dABIC iTTjmHEqbDOyBELr!~DADbDOyBELr_GthbDOyBELr+~SwmhDHI AMPjSkD.POSTPOSIsl Mq",
    ",~iTTj HEHbhVjTpV=~SYRIAC qD OF PdAGzPH]SUPRehEd FULLmTOP|BLhEd FULLmTOP^PRehEd COLl?BLhEd ",
    "COLl?HORIZlTe COLl]COLlmKEWpiFT(Rf_SUPRehEd COLlmKEWpiFT+~BLhEd COLlmKEWpRf,~ClTzCsl;HdKik ",
    "OBELUS*METOBELUS.ASTjISCUS!|ABBvVIAsl MdK^iTTj eAPH)SUPjSCRIPyeAPH^BEx(GAMe! GdSHUNI>DeAx)O",
    "TiSS DeAx RISH|HE%WAW&ZAh(HEx(TEx! GdSHUNI=YUDH! HE+KAPH(LAMADH*MIM&NUN&SEMKAx+FhemEMKAx=E$",
    "PE%vVjSpPE;SADHE)QAPH(RISH(SHh(TAW&PjSIk BHEx)GtMe*DHeAx%~PTttn)BELr)DOTTED=ZQAPtn)BELr)DOT",
    "TED=RBASAn)BELr;DOTTpZLAMA HORIZlTe:kGULd!~HBASAn)BELr*-ESASA DOTTED_ESASAn)BELr;RWAt)FEMhh",
    "uDOT<QUSHStYA.RUKKAKt,TWO VjsCe DOTSn)BELr%~HvuDOTSn)BELr]OBLIQUuLhEn)BELr_MUSIC)BdvKH!!+iT",
    "TjmOGDIk Zth)KtPH)FE(~dABIC iTTj BEHbxvuDOTS HORIZlTeLY BELr.~DOyBELr kD xvuDOTSn:~xvuDOTS ",
    "POhThG UPWdDS BELr! kD TWO DOTSn;~~WO DOTS BELr kD DOTn,~hVjTEDmMeL V BELr%~SMeL V]tHbTWO D",
    "OTSn=HvuDOTS POhThG UPWdDS BELr%~~DebTWO DOTS VjsCeLY BELr kDmMeL TAH|~hVjTEDmMeL V BELr;~v",
    "HbSTROKE?SEqbFOUR DOTSn)~AhbTWO DOTSn=HvuDOTS POhThG DrNWdDSn>~WO DOTS VjsCeLYn>~FEHbTWO DO",
    "TS BELr=HvuDOTS POhThG UPWdDS BELr%~~KEHEHbDOTn.xvuDOTSn)POhThG UPWdDS BELr(~~MEEMbDOTn)BEL",
    "r|NOlbTWO DOTS BELr>SMeL TAH&V^LAMbBd<vHbTWO DOTS VjsCeLYn)~tMZAn!~SEqbTWO DOTS VjsCeLYn?~t",
    "HbSMeL dABIC iTTj TAH BELr)kD TWO DOTS)~~SEqbSMeL dABIC iTTj TAH kD TWO DOTS*~~vHbSMeL dABI",
    "C iTTj TAH kD TWO DOTS)~~tHbSMeL dABIC iTTj TAHn_~eEFbEXTqDpdABIC-hDIC DIGIyTWOn,HvEn.~~FdS",
    "I YEHbEXTqDpdABIC-hDIC DIGIyTWOn,HvEn;FOUR BELr=~~WAWbEXTqDpdABIC-hDIC DIGIyTWOn,HvEn,~~YEH",
    " BdvEbEXTqDpdABIC-hDIC DIGIyTWOn,HvEn?~~tHbEXTqDpdABIC-hDIC DIGIyFOUR BELr+~~SEqbEXTqDpdABI",
    "C-hDIC DIGIyFOURn_~hVjTpV!~KAFbTWO DOTSn^~TtkA iTTj tA&StVIYkI.NOlU)zA&BAA&LtVIYkI.KAAFU)eI",
    "FU)VAAVU)MEEMU)FAAFU)DteU*TtA(LAAMU)GAAFU(NAVIYkI.SEqU)DAVIYkI,ZAVIYkI,TAVIYkI,YAA&PAVIYkI,",
    "JAVIYkI,CtVIYkI.TTAA(HtA(KtA(TteU*ZAA&SHEqU)AADHU*DAADHU*TO%ZO%AhU(GthU*QAAFU)WAAVU<ABAFILI",
    "*ABAAFILI.IBIFILI+EEBEEFILI.UBUFILI+OOBOOFILI.EBEFILI*YBEYFILI.OBOFILI*ABOAFILI.SUKUN)iTTj ",
    "NAA!!!!!!!!!!!!!!^NKO DIGIyZjO(lE&TWO%HvE)FOUR&IVE(SIX%EVq)Ef)NhE:iTTj A$EE%I$E$U$OO$$DAGBA",
    "ShNA:N$BA%PA%TA%JA%Ct&DA%z$z&SA%GBA&FA%KA%LA%NA WOLOSO.MA%NYA%A%t%WA%YA%NYA WOLOSO:JlA JA%C",
    "t&z>COMBhhGmHORyHIGH TlE.Lr TlE,RIShG TlE^LlG DESCqDhG TlE?HIGH TlE.Lr TlE,RIShG TlE]NASeIZ",
    "Asl MdK^DOUBi DOTn*~HIGH TluAPOSTROPHE!~Lr TluAPOSTROPHE|SYMBOL OO DqNq.GBAKURUNq^COMMA)EXC",
    "LAMAsl MdK]LAJkYek!!:DkTAYek.OROMEmw;TAMkmw>SAMdITk iTTj eAF(BIT&GAMk)DeAT)IY%BAA&Zq&IT%sT&",
    "YUT&KAAF(LABAT)MIM&NUN&ShGAAT+h%FI%TSAADIY+QUF&RISH(SHk(TAAF;MdK h!-eAF+OCCLUSIl.DAGESH:ODI",
    "FIj iTTj EPqxEsC YUT.~dK EPqxEsC YUT|VrELmw LlG E*E$OVjLlG AA;LlG AA+AA%OVjLlG A:LlG A*A<MO",
    "DIFIj iTTjmHORyA&~VrELmwmHORyA+LlG U*U<MODIFIj iTTj I^VrELmw LlG I*I$O$SUKUN]MdK NEQUDAA!!<",
    "PUNCTUAsl NEQUDAA+AFSAAQ)NGED)BAU&ATMAAU*SHIYYAeAA%~ABBvVIAsl MdK^PUNCTUAsl MELODIC QITSA=Z",
    "IQAA)QITSA)ZAEF(TURU(dKAkU+SOF MASHFAAT<kNAAU!,~MkDAIC iTTj HeQA)AB$G$D$H%USHqNA+AZ%IT%ATT%",
    "KSA%$L$M$N$S%h%AP$SZ%Q$R$SH%T%DUSHqNA,KAD&Ah:AFFRICAsl MdK]VOCeIZAsl MdK^GEMhAsl MdK!!?PUNC",
    "TUAsl!|SYRIAC iTTj MeAYeAM NGA&JA%NYA&TTA&NNA$NA(Bt&z%LLA$LA(SSA!!!!!+~dABIC iTTj eEFbATTAC",
    "HpFATt)TOP Rf FATt(~Rf MIDDimTROKE|iFyMIDDimTROKE_ATTACHpKASz)BOTTOM Rf KASz_ROUND DOTn>f R",
    "OUND DOT?iFyROUND DOT>ROUND DOyBELr(~DOTn.ATTACHpTOP Rf FATt kD DOTn_~Rf MIDDimTROKukD DOTn",
    "=~ATTACHpBOTTOM Rf KASz kD DOTn<~TOP Rf FATt kD iFyRhG_~Rf MIDDimTROKukD iFyRhG=~ATTACHpBOT",
    "TOM Rf KASz kD iFyRhG<~Rf tMZA;iFytMZA]~TATWEELbOVjSTRUCK tMZA)WAW>TWO DOTS BELr+~iTTj xh Y",
    "EH?BASELhuROUND DOT_zISpROUND DOT]iTTj NOlbhVjTEDmMeL V*~tHbhVjTEDmMeL V BELr;~TAHbDOyBELr.",
    "xvuDOTS BELr)~KEHEHbTWO DOTS VjsCeLY BELr&~~VjsCe TAIL!=POUND MdKn?IASTRuMdKn!!!!!!_SMeL HI",
    "GH WORD e-JUZ]Lr WORD ISHMAAM*MAeA*TASHEEL%~MADDA WAAJIB<SUPjSCRIPyeEF MOKtSSAS*~DOUBiD MAD",
    "DA=HeF MADDA OVj MADDA$~iTTj BEHbSMeL V BELr=tMZAn!~JEEMbTWO DOTSn(~TAHbTWO DOTSn&~FEHbDOyB",
    "ELr kD xvuDOTSn|~QAFbDOyBELr_LAMbDOUBi Bd|MEEMbxvuDOTSn*~YEHbTWO DOTS BELr kD tMZAn;DOTn^~v",
    "HbLOOP=WAWbDOyWIxh|ROHhGYA YEH<Lr eEF,DebxvuDOTS BELr)~SADbxvuDOTS BELr)~GAFbhVjTEDmTROKE(~",
    "STzf WAW<ZAhbhVjTpVn*~AhbxvuDOTS BELr)~KAFbDOyBELr_QAFbDOyBELr kD NO DOTSn]~BEHbSMeL MEEMn)",
    "~PEHbSMeL MEEMn)~TEHbSMeL TEHn(~vHbSMeL NOln)~YEHbTWO DOTS BELr kDmMeL NOln(~~AFRICk FEH&QA",
    "F&NOl<PEHbSMeL V]TEHbSMeL V?TEHbSMeL V]CHEHbSMeL V_KEHEHbSMeL V_GthbxvuDOTSn+~AFRICk QAFbxv",
    "uDOTSn=~JEEMbxvuDOTSn)BELr*~LAMbSMeL dABIC iTTj TAHn_~GzF;SMeL FdSI YEH.HIGH FdSI YEH.YEH B",
    "dvEbTWO DOTS BELr:~WORDmAH,ZAH>LdGuROUND DOTn)BELr$~SUKUN BELr;LdGuCIRCi BELr<ROUND DOyhSID",
    "uCIRCi BELr?~SMeL Lr WAW+HIGH WORD d-RUB;SAD&Ah&QAF&NOlbKASz!~Lr NOlbKASz|HIGH WORD Ax-xeAT",
    "t;S-SAJDA+N-NISF+SAKTA)QIF&WAQFA:FOOTNOTuMdKj?SwmAFt$~DISPUTpqD OF AYAH!~TURNpDAMMA BELr_CU",
    "RLY FATt)DAMMA)KASz)FATtTk,DAMMATk,KASzTk>TluluDOTn=TWO DOTSn>LOOPn:luDOyBELr=TWO DOTS BELr",
    ">LOOP BELr?OPq FATtTk,DAMMATk,KASzTk=SMeL HIGH WAW>FATtbRhG(DOTn!~KASzbDOyBELr!~iFydRrHEADn",
    "!~Rf dRrHEADn$~iFydRrHEAD BELr!~Rf dRrHEAD BELr$~DOUBi Rf dRrHEADn!bDOT^~Rf dRrHEADnbDOT:~D",
    "AMMAbDOT>MdKmIDEWAYS NOl GHUNNA<~DEVkAGdImw hVjTpCkDzBhDU!~CkDzBhDU;kUSVdA,VISdGA<iTTjmHORy",
    "A+A!A%I!I%U!U%VOCeIC R$L.CkDz E,SHORyE+E$AI%CkDz O,SHORyO+O$AU%KA$t&GA$t&NGA&CA$t&JA$t&NYA&",
    "TTA$t(DDA$t(NNA&TA$t&DA$t&NA$NNA(PA$t&BA$t&MA%YA%z$z&LA$LA$LA(VA%St%SA%A%t.VrELmw OE$OE>Sw ",
    "NUKTA)AVAGzt=VrELmw AA%I!I%U!U%VOCeIC R!R:CkDz E,SHORyE+E$AI%CkDz O,SHORyO+O$AU=Sw VIzMA;Vr",
    "ELmw PRISHTtMATz E?AW=OM%STvSSmw UDATTA*kUDATTA!~GzVuACCqT<ACUTuACCqT<VrELmw CkDz LlG E=UE$",
    "UE>iTTj QA%KHt(GHt(ZA%DDDt)Rt&FA%YYA&VOCeIC RR%LL^VrELmw VOCeIC L!L$~DkDA(OUBi DkDA;IGIyZjO",
    "(lE&TWO%HvE)FOUR&IVE(SIX%EVq)Ef)NhE:ABBvVIAslmw^Sw HIGHmPAChG DOT$~iTTj CkDz A,OE$OE&AW%UE$",
    "UE&MdWdI DDA;Zt&HEAVY YA,GGA&JJA&GLOTTemTOP<DDDA(BBA$~BqGeI kJI(Sw CkDzBhDU;kUSVdA,VISdGA!<",
    "iTTj A!A%I!I%U!U%VOCeIC R$L!!.E$AI!!%O$AU%KA$t&GA$t&NGA&CA$t&JA$t&NYA&TTA$t(DDA$t(NNA&TA$t&",
    "DA$t&NA!%PA$t&BA$t&MA%YA%z!%LA!!!%St%SA%A%t!!.Sw NUKTA)AVAGzt=VrELmw AA%I!I%U!U%VOCeIC R!R!",
    "!:E$AI!!%O$AU=Sw VIzMA;iTTj KHkDA TA!!!!!!!!]AU iNGx MdK!!!!>iTTj Rz%t!&YYA&VOCeIC RR%LL^Vr",
    "ELmw VOCeIC L!L!!$~DIGIyZjO(lE&TWO%HvE)FOUR&IVE(SIX%EVq)Ef)NhE:iTTj zbMIDDi DIAGle?Lrj DIAG",
    "le.~RUPEuMdK(Sw:CURRqCY NUMjATOR lE&TWO%HvE)FOUR(luiSS xk xuDqOMhATOR|~DqOMhATORmIXTEq,~ISS",
    "Hd*GkDA MdK:iTTj VEDIC kUSVdA$~ABBvVIAslmw^SkDHI MdK!!|GURMUKHImw ADAK BhDI:BhDI)VISdGA!<iT",
    "Tj A!A%I!I%U!U!!!!%EE%AI!!%OO%AU%KA$t&GA$t&NGA&CA$t&JA$t&NYA&TTA$t(DDA$t(NNA&TA$t&DA$t&NA!%",
    "PA$t&BA$t&MA%YA%z!%LA$LA!&VA%St!%A%t!!.Sw NUKTA!:VrELmw AA%I!I%U!U!!!!%EE%AI!!%OO%AU=Sw VIz",
    "MA!!!*UDAAT!!!!!!!:iTTj KHt(GHt(ZA%Rz!&FA!!!!!!!.DIGIyZjO(lE&TWO%HvE)FOUR&IVE(SIX%EVq)Ef)Nh",
    "E:sPPI)ADDAK)IRI&Uz&EK lKd,Sw YAKASH;ABBvVIAslmw!!!!!!!!!!(~JdAsmw CkDzBhDU;kUSVdA,VISdGA!<",
    "iTTj A!A%I!I%U!U%VOCeIC R$L]VrEL CkDz E!>iTTj E$AI.VrEL CkDz O!>iTTj O$AU%KA$t&GA$t&NGA&CA$",
    "t&JA$t&NYA&TTA$t(DDA$t(NNA&TA$t&DA$t&NA!%PA$t&BA$t&MA%YA%z!%LA$LA!&VA%St%SA%A%t!!.Sw NUKTA)",
    "AVAGzt=VrELmw AA%I!I%U!U%VOCeIC R!R:CkDz E!,E$AI%CkDz O!,O$AU=Sw VIzMA!!;OM!!!!!!!!!!!!!!!%",
    "iTTj VOCeIC RR%LL^VrELmw VOCeIC L!L!!$~DIGIyZjO(lE&TWO%HvE)FOUR&IVE(SIX%EVq)Ef)NhE:ABBvVIAs",
    "lmw^RUPEEmw!!!!!!!:iTTj Zt:SwmUKUN(tDDA*MADDAH*xvE-DOyNUKTAn$~CIRCi NUKTAn_TWO-CIRCi NUKTAn",
    "!]~ORIYAmw CkDzBhDU;kUSVdA,VISdGA!<iTTj A!A%I!I%U!U%VOCeIC R$L!!.E$AI!!%O$AU%KA$t&GA$t&NGA&",
    "CA$t&JA$t&NYA&TTA$t(DDA$t(NNA&TA$t&DA$t&NA!%PA$t&BA$t&MA%YA%z!%LA$LA!&VA%St%SA%A%t!!.Sw NUK",
    "TA)AVAGzt=VrELmw AA%I!I%U!U%VOCeIC R!R!!:E$AI!!%O$AU=Sw VIzMA!!!!!!!*OVjLhE=AI iNGx MdK=U i",
    "NGx MdK!!!!>iTTj Rz%t!&YYA&VOCeIC RR%LL^VrELmw VOCeIC L!L!!$~DIGIyZjO(lE&TWO%HvE)FOUR&IVE(S",
    "IX%EVq)Ef)NhE:ISSHd*iTTj WA.FzCsl luQUdTj+HeF,xvuQUdTjS>lEmIXTEqx.EfH:xvEmIXTEqxS!!!!!!!!!!",
    ";~TAMILmw kUSVdA,VISdGA!<iTTj A!A%I!I%U!U!!!%E!E%AI!%O!O%AU%KA!!!%NGA&CA!%JA!%NYA&TTA!!!&NN",
    "A&TA!!!%NA$NNA(PA!!!%MA%YA%z$z&LA$LA$LA(VA%St%SA%A%t!!!!.VrELmw AA%I!I%U!U!!!%E!E%AI!%O!O%A",
    "U=Sw VIzMA!!;OM!!!!!!%AU iNGx MdK!!!!!!!!!!!!!!>DIGIyZjO(lE&TWO%HvE)FOUR&IVE(SIX%EVq)Ef)NhE",
    ":NUMBj Tq&luHUNDvD+xOUSkD|DAYmw,Mlxmw:YEdmw.DEBITmw:CvDITmw;ASnmw=RUPEEmw:NUMBjmw!!!!!]ELUG",
    "Umw COMBhhG CkDzBhDUn*~kDzBhDU;kUSVdA,VISdGA+COMBhhG kUSVdAn.~iTTj A!A%I!I%U!U%VOCeIC R$L!.",
    "E!E%AI!%O!O%AU%KA$t&GA$t&NGA&CA$t&JA$t&NYA&TTA$t(DDA$t(NNA&TA$t&DA$t&NA!%PA$t&BA$t&MA%YA%z$",
    "z&LA$LA$LA(VA%St%SA%A%t!!.Sw NUKTA)AVAGzt=VrELmw AA%I!I%U!U%VOCeIC R!R!:E!E%AI!%O!O%AU=Sw V",
    "IzMA!!!!!!!;iNGx MdK;AI iNGx MdK!>iTTj TSA&DZA&RRz!!(NAKAdA POLLU!!=VOCeIC RR%LL^VrELmw VOC",
    "eIC L!L!!$~DIGIyZjO(lE&TWO%HvE)FOUR&IVE(SIX%EVq)Ef)NhE!!!!!!!:SwmIDDtM<FzCsl DIGIyZjO FOR O",
    "DD PrjS OF FOUR+~luFOR ODD PrjS OF FOUR*~TWO FOR ODD PrjS OF FOUR)~HvuFOR ODD PrjS OF FOUR,",
    "~luFOR EVq PrjS OF FOUR+~TWO FOR EVq PrjS OF FOUR*~HvuFOR EVq PrjS OF FOUR(~~Sw TUUMU^KkNAD",
    "AmwmPAChG CkDzBhDU|CkDzBhDU;kUSVdA,VISdGA+SIDDtM<iTTj A!A%I!I%U!U%VOCeIC R$L!.E!E%AI!%O!O%A",
    "U%KA$t&GA$t&NGA&CA$t&JA$t&NYA&TTA$t(DDA$t(NNA&TA$t&DA$t&NA!%PA$t&BA$t&MA%YA%z$z&LA$LA!&VA%S",
    "t%SA%A%t!!.Sw NUKTA)AVAGzt=VrELmw AA%I!I%U!U%VOCeIC R!R!:E!E%AI!%O!O%AU=Sw VIzMA!!!!!!!;iNG",
    "x MdK;AI iNGx MdK!!!!!!>iTTj NAKAdA POLLU=FA!%VOCeIC RR%LL^VrELmw VOCeIC L!L!!$~DIGIyZjO(lE",
    "&TWO%HvE)FOUR&IVE(SIX%EVq)Ef)NhE!:Sw JIHVAMULIYA;UPADHMkIYA!!!!!!!!!!!!!(~MeAYeAMmw COMBhhG",
    " kUSVdAn&~kDzBhDU;kUSVdA,VISdGA<iTTj VEDIC kUSVdA>A!A%I!I%U!U%VOCeIC R$L!.E!E%AI!%O!O%AU%KA",
    "$t&GA$t&NGA&CA$t&JA$t&NYA&TTA$t(DDA$t(NNA&TA$t&DA$t&NA$NNA(PA$t&BA$t&MA%YA%z$z&LA$LA$LA(VA%",
    "St%SA%A%t%TTTA;Sw VjsCe Bd VIzMA|CIRCULd VIzMA?AVAGzt=VrELmw AA%I!I%U!U%VOCeIC R!R!:E!E%AI!",
    "%O!O%AU=Sw VIzMA;iTTj DOyvPH?Sw PdA!!!!.iTTj CHILLU M$Y$LLL^AU iNGx MdK>FzCsl lulE-HUNDvD-k",
    "D-SIXsEx(~FORsEx<xvuEfIExS]luTWqsEx,qx.xvuTWqsExS]luFIFx_iTTj dCtIC II:VOCeIC RR%LL^VrELmw ",
    "VOCeIC L!L!!$~DIGIyZjO(lE&TWO%HvE)FOUR&IVE(SIX%EVq)Ef)NhE:NUMBj Tq&luHUNDvD+xOUSkD|FzCsl lu",
    "QUdTj+HeF,xvuQUdTjS>lEmIXTEqx.EfH:xvEmIXTEqxS)~DATuMdK.iTTj CHILLU NN$$RR%L!L%K!)~ShHeAmw C",
    "kDzBhDU;kUSVdAYA:VISdGAYA!>iTTj AYkNA)AYkNA*EYkNA)EYkNA,IYkNA)IYkNA+UYkNA)UYkNA+IRUYkNA)UYk",
    "NA,LUYkNA)UYkNA.EYkNA)EYkNA+AIYkNA+OYkNA)OYkNA+AUYkNA!!!*LPAPzkA KAYkNA_MAtAPzkA KAYkNA|ePA",
    "PzkA GAYkNA_MAtAPzkA GAYkNA|KkTAJA NAASIKYAYA_SkYAKA GAYkNA?ePAPzkA CAYkNA_MAtAPzkA CAYkNA|",
    "ePAPzkA JAYkNA_MAtAPzkA JAYkNA|TAeUJA NAASIKYAYA:SkYOOGA NAAKSIKYAYA,~SkYAKA JAYkNA?ePAPzkA",
    " TTAYkNA|MAtAPzkA TTAYkNA!~ePAPzkA DDAYkNA|MAtAPzkA DDAYkNA|UURDtJA NAYkNA^SkYAKA DDAYkNA]e",
    "PAPzkA TAYkNA_MAtAPzkA TAYkNA|ePAPzkA DAYkNA_MAtAPzkA DAYkNA|DkTAJA NAYkNA!?SkYAKA DAYkNA?e",
    "PAPzkA PAYkNA_MAtAPzkA PAYkNA|ePAPzkA BAYkNA_MAtAPzkA BAYkNA^YkNA+AMBA BAYkNA<YAYkNA+zYkNA!",
    "+DkTAJA LAYkNA!!?VAYkNA+TAeUJAmAYkNA?MUURDtJAmAYkNA^DkTAJAmAYkNA?tYkNA+MUURDtJA LAYkNA^FAYk",
    "NA!!!>Sw e-LAKUNA!!!!>VrELmw AELA-PILLA:KETs AEDA-PILLA]DIGA AEDA-PILLA?KETs IS-PILLA>DIGA ",
    "IS-PILLA=KETs PAA-PILLA!?DIGA PAA-PILLA!>GAETTA-PILLA<KOMBUVA+DIGA KOMBUVA<KOMBU DEKA)VA tA",
    " AELA-PILLA:DIGA AELA-PILLA?GAYkUKITTA&~GAYkUKITTA!!!!!!%~LIx DIGIyZjO(lE&TWO%HvE)FOUR&IVE(",
    "SIX%EVq)Ef)NhE!!?VrELmw DIGA GAETTA-PILLA:YkUKITTA+~PUNCTUAsl KUNDDeIYA!!!!!!!!!!!!:~TtI CH",
    "dACTj KO KAI)HO KtI%UAT&WAI&l(zKHkG;NGO NGU+CHO CHk%hG&kG.SOmO)CHO CHOE,YO YhG+DO CtDA,TO P",
    "ATAK+HO xk(NkGMlxO:PHUTtO;NO Nq*DO DEK*TO TAO)HO xUNG&AHk(lG.NO NU)BO BAIMAI.PO PLA)HO PHUN",
    "G.FO FA)PHO PHk,FO Fk*PHOmAMPtO;MO MA)YO YAK*RO RUA)U%LO LhG*U%WO WAq+SOmeA(RUSI(SUA*HO HIP",
    "*LO CHULA,O kG)HO NOKHUK.PAIYkNOI.SdA A*MAI Hk-AKAT<SdA AA$M%I!I%UE!E%!U+PHhxU!!!!]URRqCYmY",
    "MBOL BAHT|HdACTjmdA E$AE%O$AI MAIMUk&eAI]LAKKHkGYAO;MAIYAMOK)TAIKHU* EK%xO%RI&CtTTAWA<xkTtK",
    "tT;NIKtHIT,YAMAKKk,FlGMk^DIGIyZjO(lE&TWO%HvE)FOUR&IVE(SIX%EVq)Ef)NhE:CHdACTj kGKHkKHU:KHOMU",
    "T"]),
   (3713,
   ["!LAO iTTj KO$HOmUNG!(TAM!+PeI Gt,NGO&CO%PeI Ct,SO TAM!*PeI Jt,NYO&PeI NYA&TTA$t(DDA$t(NNA,D",
    "O%TO$HOmUNG(TAM+PeI Dt,NO%BO%PO$HOmUNG,FO TAM*PHO TAM+FOmUNG+PeI Bt,MO%YO%LO LhG!&OOT!+WO%S",
    "kSKRITmt%SA;OmUNG+HOmUNG+PeI LLA,O$HO TAM=ELLIPSIS,VrELmw A$MAI Kk+AA$M%I!I%Y!Y%U!U=Sw PeI ",
    "VIzMA]VrELmw MAI Kl_SEMIVrELmw LO%NYO!!_VrELmw E!I%O$AY$I!=KO LA!)TluMAI EK%xO%I%CATAWA?CkC",
    "ELLAsl MdK^NIGGAHITA!!.DIGIyZjO(lE&TWO%HvE)FOUR&IVE(SIX%EVq)Ef)NhE!!:HO NO%MO)iTTj KHMU GO%",
    "NYO"]),
   (3840,
   ["!sBETkmYLLABi OM;MdK GTj YIG MGO TRUNCATpA;-UM RNAM BCAD MA<GTj TSHEG MA:~hIse YIG MGO MDUN",
    " MA&~CLOShG YIG MGOmGAB MA%~dEyYIG MGO PHURmtD MA*~YIG MGO TSHEGmtD MA$~SBRULmtD:BSKUR YIG ",
    "MGO<KA-mHOG YIG MGO^hTjSYLLABIC TSHEG|DELIMITj TSHEG BSTd$~StD(NYISmtD.TSHEGmtD:NYIS TSHEGm",
    "tD?Rh CHqmPUNGSmtD|GYA GzMmtD>CdEy-DZUD RTAGS MuLlG Ck.~GTj TSHEG?LOGOTYPEmw CtD RTAGS:LtG ",
    "RTAGS(~ASTROLOGICemwmGz GCk -CHd RTAGS$~-KHYUD PA.SDlG TSHUGS:~Sw RDEL DKd GCIG&NYIS(SUM.NA",
    "G GCIG&NYIS.DKd RDEL NAG&~DIGIyZjO(lE&TWO%HvE)FOUR&IVE(SIX%EVq)Ef)NhE(HeF lE&TWO%HvE)FOUR&I",
    "VE(SIX%EVq)Ef)NhE(ZjO?MdK BSDUS RTAGS;NGAS BZUNG NYI ZLA_CdEy-DZUD RTAGS BZHI MIG Ck:~NGAS ",
    "BZUNGmGOR RTAGS$~CHuMGO+TSA -PHRU.GUG RTAGS GYl%AS>kG KHkG GYl%AS|Sw Yd TSHES.Md TSHES>iTTj",
    " KA$t&GA$t&NGA&CA$t&JA!%NYA&TTA$t(DDA$t(NNA&TA$t&DA$t&NA%PA$t&BA$t&MA%TSA$t(DZA$t(WA%Zt%A%-",
    "A%YA%z%LA%St%SA%A%t%A$KSSA(FIXED-FORM z=KKA&Rz!!!!:VrELmw AA%I!I%U!U%VOCeIC R!R%L!L:E!E%O!O",
    "=Sw RJESmU NGA RO=NAM BCAD>VrELmw vVjSpI!I%~Sw NYI ZLA NAA DA>SNA LDk=MdK HekTA+PeUTA;Sw LC",
    "I RTAGS.YkG RTAGS:LCuTSA Ck;MCHU Ck,GRU Ck RGYhGS;MpRGYhGS?hVjTpMCHU Ck$~UBJOhEDmw LCuTSA C",
    "k;MCHU Ck,hVjTpMCHU Ck%~iTTj KA$t&GA$t&NGA&CA$t&JA!%NYA&TTA$t(DDA$t(NNA&TA$t&DA$t&NA%PA$t&B",
    "A$t&MA%TSA$t(DZA$t(WA%Zt%A%-A%YA%z%LA%St%SA%A%t%A$KSSA(FIXED-FORM WA%YA%z!:~KU RU Kt! BZHI ",
    "MIG Ck%~CksLLAslmw HEAVY BEAT:Lf BEAT:CkG TE-U.SBUB -CHe,~SYMBOL DRIL BU+RDO RJE+PADMA GDk:",
    "RDO RJuRGYA GzM^PHUR PA+NOR BU! NYIS -KHYIL;GSUM -KHYIL;BZHI -KHYIL!(~w RDEL NAG RDEL DKd.G",
    "SUM_MdK BSKA-mHOG GI MGO RGYk&~MNYAM YIG GI MGO RGYk%~NYIS TSHEG:hIse BRDA RNYhG YIG MGO MD",
    "UN MA?~CLOShG BRDA RNYhG YIG MGOmGAB MA,~~Rf-FAChGmVASsmw(~iFT-FAChGmVASsmw&~Rf-FAChGmVASsm",
    "wbDOTS>~iFT-FAChGmVASsmwbDOTS=~sBETk MdK iADhG MCHk RTAGS|TzILhG MCHk RTAGS"]),
   (4096,
   ["!MYkMd iTTj KA$t&GA$t&NGA&CA$t&JA$t&NYA%NYA(TTA$t(DDA$t(NNA&TA$t&DA$t&NA%PA$t&BA$t&MA%YA%z%",
    "LA%WA%SA%t%LLA&A$SHk A*I!I%U!U%E$Ml E)O$AU.VrELmw TeL AA+AA%I!I%U!U%E$AI%Ml II%O)En_Sw kUSV",
    "dA,DOyBELr.VISdGA)zMA*ASAT.ClSlkTmw MEDIe YA%z%WA%t(~iTTj GvATmA?DIGIyZjO(lE&TWO%HvE)FOUR&I",
    "VE(SIX%EVq)Ef)NhE:Sw LITTimECsl>SECsl;YMBOL LOCAsVE,COMPiTED.AFOvMqslED>GqIsVE?iTTjmt%SA&VO",
    "CeIC R!R%L!L^VrELmw VOCeIC R!R%L!L$~iTTj Ml NGA&Jt&BBA$E>ClSlkTmw Ml MEDIe NA%MA%LA,~iTTjmG",
    "AW Kdqmt$~VrELmwmGAW Kdq EU(~TluMdKmGAW Kdq txI)KuPHO+~iTTj WESTjN PWO Kdq Tt&PWA,~VrELmw W",
    "ESTjN PWO Kdq EU%UE;~Sw WESTjN PWO Kdq TlE-1$2$3$4$5.~iTTj EASTjN PWO Kdq NNA&YWA&GHWA.~VrE",
    "Lmw GEBA Kdq I<KAYAH OE%U$EE|iTTjmHk KA$t&GA%CA%ZA%NYA&DA%NA%Pt&FA%BA%Tt&t>ClSlkTmwmHk MEDI",
    "e WA.~VrELmwmHk AA%E!n+Fhe Y&~SwmHk TlE-2$3$5$6*COUNCIL TlE-2$3*EMPtsC TlE;~iTTj RUMAI PeAU",
    "NG FA&~Sw RUMAI PeAUNG TlE-5(~Hk DIGIyZjO(lE&TWO%HvE)FOUR&IVE(SIX%EVq)Ef)NhE>w KtMs TlE-1$3",
    "_VrELmw AITl A!I|SYMBOLmHk lE&EXCLAMAsl;~GEORGIk cak%Bk&Gk&Dl&q%Vh&Zq&Tk&h%Kk&LAS&Mk&Nd&l%P",
    "d&ZHd(zE&Sk&Td&UN%PHd(KHd(GHk(Qd&SHh(CHh&k&JIL&CIL%Hd(Xk&JHk(tE%E$IE&WE%Hd%OE!&YN!!!!!%Aq!!",
    "_iTTj k%Bk&Gk&Dl&q%Vh&Zq&Tk&h%Kk&LAS&Mk&Nd&l%Pd&ZHd(zE&Sk&Td&UN%PHd(KHd(GHk(Qd&SHh(CHh&k&JI",
    "L&CIL%Hd(Xk&JHk(tE%E$IE&WE%Hd%OE&FI%YN%ELIFI)TURNpGk:Ah:PdAGzPHmEPdATOR,~MODIFIj iTTj GEORG",
    "Ik Nd,~GEORGIk iTTj Aq&HdDmw.LABIemw+~HkGUL CHOSElG KIYEOK*SSkGKIYEOK;NIEUN)sKEUT*SSkGsKEUT",
    ";RIEUL)MIEUM)PIEUP)SSkGPIEUP.IOS&SkGSIOS.IEUNG)CIEUC)SSkGCIEUC:CHIEUCH+KHIEUKH+xIEUx+PHIEUP",
    "H+HIEUH)NIEUN-KIYEOK<SSkGNIEUN:NIEUN-sKEUT*PIEUP;sKEUT-KIYEOK=RIEUL-NIEUN;SSkGRIEUL:RIEUL-H",
    "IEUH;KAPYEOUNRIEUL=MIEUM-PIEUP;KAPYEOUNMIEUM=PIEUP-KIYEOK*NIEUN)sKEUT*SIOS!-KIYEOK*sKEUT*PI",
    "EUP.SkGSIOS,IOS-CIEUC:CIEUC(HIEUCH+xIEUx+PHIEUPH=KAPYEOUNPIEUP)SSkGPIEUP_SIOS-KIYEOK*NIEUN)",
    "sKEUT*RIEUL)MIEUM)PIEUP!-KIYEOK<SSkGSIOS.IEUNG)CIEUC(HIEUCH+KHIEUKH+xIEUx+PHIEUPH+HIEUH:CHI",
    "TUEUMSIOS&SkGSIOS]ElGCHIEUMSIOS&SkGSIOS!~PkSIOS+IEUNG-KIYEOK*sKEUT*MIEUM)PIEUP)SIOS(PkSIOS=",
    "SSkGIEUNG:IEUNG-CIEUC(HIEUCH+xIEUx+PHIEUPH=YESIEUNG,CIEUC-IEUNG:HITUEUMCIEUC)SSkGCIEUC^ElGC",
    "HIEUMCIEUC)SSkGCIEUC!~HIEUCH-KHIEUKH+HIEUH:TUEUMCHIEUCH>ElGCHIEUMCHIEUCH_PHIEUPH-PIEUP=KAPY",
    "EOUNPHIEUPH?SSkGHIEUH:YEORhHIEUH;KIYEOK-sKEUT=NIEUN-SIOS(CIEUC)HIEUH;sKEUT-RIEUL<FILiR?JUNG",
    "SElG FILiR*A!E%YA!E&EO$$YEO$%O$WA!E&OE%YO%U$WEO$$I%YU%EU%YI%I$A-O$U&YA-O$YO)EO-O$U$EU)YEO-O",
    "$U)O-EO$$YE%O$U&YO-YA!E%EO&O$I(U-A!E%EO-EU)YE%U&YU-A$EO$$YEO$%U$I(EU-U$EU)YI-U(I-A$YA%O$U$E",
    "U%dAEA+dAEA!-EO%U$I+SSkGdAEA:A-EU(YA-U&EO-YA*O-YA!E>lGSElG KIYEOK*SSkGKIYEOK;KIYEOK-SIOS;NI",
    "EUN!-CIEUC)HIEUH;sKEUT*RIEUL!-KIYEOK*MIEUM)PIEUP)SIOS(xIEUx+PHIEUPH+HIEUH;MIEUM)PIEUP!-SIOS",
    ":SIOS&SkGSIOS.IEUNG)CIEUC(HIEUCH+KHIEUKH+xIEUx+PHIEUPH+HIEUH)KIYEOK-RIEUL)SIOS-KIYEOK_NIEUN",
    "-KIYEOK*sKEUT*SIOS(PkSIOS+xIEUx=sKEUT-KIYEOK*RIEUL<RIEUL-KIYEOK-SIOS;NIEUN)sKEUT!-HIEUH_SSk",
    "GRIEUL:RIEUL-MIEUM-KIYEOK*SIOS:PIEUP-SIOS(HIEUH;KAPYEOUNPIEUP=SSkGSIOS.PkSIOS+KHIEUKH+YEORh",
    "HIEUH^MIEUM-KIYEOK*RIEUL)PIEUP)SIOS&SkGSIOS.PkSIOS+CHIEUCH+HIEUH;KAPYEOUNMIEUM=PIEUP-RIEUL)",
    "PHIEUPH+HIEUH;KAPYEOUNPIEUP=SIOS-KIYEOK*sKEUT*RIEUL)PIEUP:PkSIOS+IEUNG-KIYEOK*SSkGKIYEOK^SS",
    "kGIEUNG:IEUNG-KHIEUKH=YESIEUNG!-SIOS(PkSIOS]PHIEUPH-PIEUP=KAPYEOUNPHIEUPH?HIEUH-NIEUN)RIEUL",
    ")MIEUM)PIEUP;YEORhHIEUH;KIYEOK-NIEUN)PIEUP)CHIEUCH+KHIEUKH+HIEUH<SSkGNIEUN+~ExIOPICmYLLABi ",
    "t$U$I$AA%EE$$O!A&LA$U$I$AA%EE$$O$WA&Ht$U$I$AA%EE$$O$WA(MA$U$I$AA%EE$$O$WA&SZA$U$I$AA%EE$$O$",
    "WA(z$U$I$AA%EE$$O$WA&SA$U$I$AA%EE$$O$WA%t$U$I$AA%EE$$O$WA(QA$U$I$AA%EE$$O!A%WA!$I$AA%EE$!!%",
    "t$U$I$AA%EE$$O!$WA!$I$AA%EE$!!(BA$U$I$AA%EE$$O$WA&VA$U$I$AA%EE$$O$WA&TA$U$I$AA%EE$$O$WA&CA$",
    "U$I$AA%EE$$O$WA&XA$U$I$AA%EE$$O!A%WA!$I$AA%EE$!!&NA$U$I$AA%EE$$O$WA%YA$U$I$AA%EE$$O$WA(GLOT",
    "Te A$U$I$AA%EE$$O$WA:KA$U$I$AA%EE$$O!A%WA!$I$AA%EE$!!%XA$U$I$AA%EE$$O!$WA!$I$AA%EE$!!(WA$U$",
    "I$AA%EE$$O!A&PHdYNGEe A$U$I$AA%EE$$O!<ZA$U$I$AA%EE$$O$WA%t$U$I$AA%EE$$O$WA(YA$U$I$AA%EE$$O!",
    "A&DA$U$I$AA%EE$$O$WA%DA$U$I$AA%EE$$O$WA(JA$U$I$AA%EE$$O$WA&GA$U$I$AA%EE$$O!A%WA!$I$AA%EE$!!",
    "%GA$U$I$AA%EE$$O$WAA)Tt$U$I$AA%EE$$O$WA(Ct$U$I$AA%EE$$O$WA(Pt$U$I$AA%EE$$O$WA(TSA$U$I$AA%EE",
    "$$O$WA&ZA$U$I$AA%EE$$O!A(FA$U$I$AA%EE$$O$WA&PA$U$I$AA%EE$$O$WA&RYA&MYA&FYA!!<COMBhhG GEMhAs",
    "l kD VrEL iNGx MdK<~VrEL iNGx MdK^GEMhAsl MdK)~SECsl MdK<WORDSPACE.FULLmTOP.COMMA)SEMICOLl.",
    "COLl)PvFACuCOLl=QUESsl MdK=PdAGzPHmEPdATOR|DIGIylE&TWO%HvE)FOUR&IVE(SIX%EVq)Ef)NhE:NUMBj Tq",
    "%WqTY)HIRTY*FORTY(IFTY)SIXTY(EVqTY+EfY*NhETY*HUNDvD+Tq xOUSkD!!!|SYLLABimEBATBEIyMWA=MWI$EE",
    "$&SEBATBEIyBWA=BWI$EE$&SEBATBEIyFWA=FWI$EE$&SEBATBEIyPWA=PWI$EE$<Tle MdK YIZET)DjET)RIKRIK*",
    "SHORyRIKRIK<DIFAT)KqAT)CHIvT*HIDET)DjET-HIDET;KURT!!!!!!(~CHjOKEuiTTj A$E$I$O$U$V$GA%KA%GE$",
    "I$O$U$V%t$E$I$O$U$V%LA$E$I$O$U$V%MA$E$I$O$U%NA%HNA&NAH%E$I$O$U$V%QUA$E$I$O$U$V&SA$!E$I$O$U$",
    "V%DA%TA%DE%TE%DI%s%DO$U$V$LA&TLA$E$I$O$U$V%SA$E$I$O$U$V&WA$E$I$O$U$V%YA$E$I$O$U$V%MV!!.SMea",
    "YE$I$O$U$V%MV!!&~kADIkmYLLABICS HYPHq*E$AAI&I!I%O!O%Y-CvuOO.CdRIj EE%I.A!A%WE!ST-CvuWE;I$ES",
    "T-CvuWI;II%EST-CvuWII<O$EST-CvuWO;OO%EST-CvuWOO=NASKAPI WOO;WA$EST-CvuWA;AA%EST-CvuWAA=NASK",
    "API WAA;AI%Y-CvuW,GLOTTemTOP<Fhe ACUTE)GzVE)BOTTOM HeF RhG]TOP HeF RhG=Rf HeF RhG=NG(DOUBi ",
    "ACUTE)SHORyVjsCemTROKES.~MIDDi DOT:SHORyHORIZlTemTROKE&~PLUS(DrN TACK?q%h%l%k%PE$AAI&I!I%O!",
    "O&Y-CvuPOO:CdRIj HEE%I:PA!A%WE&WEST-CvuPWE=PWI&WEST-CvuPWI=PWII(WEST-CvuPWII>PWO&WEST-CvuPW",
    "O=PWOO(WEST-CvuPWOO>PWA&WEST-CvuPWA=PWAA(WEST-CvuPWAA>Y-CvuPWAA;P$WEST-CvuP;CdRIj H.TE$AAI&",
    "I!I%O!O&Y-CvuTOO:CdRIj DEE%I:TA!A%WE&WEST-CvuTWE=TWI&WEST-CvuTWI=TWII(WEST-CvuTWII>TWO&WEST",
    "-CvuTWO=TWOO(WEST-CvuTWOO>TWA&WEST-CvuTWA=TWAA(WEST-CvuTWAA>NASKAPI TWAA<T!TE$I$O$A&KE$AAI&",
    "I!I%O!O&Y-CvuKOO:KA!A%WE&WEST-CvuKWE=KWI&WEST-CvuKWI=KWII(WEST-CvuKWII>KWO&WEST-CvuKWO=KWOO",
    "(WEST-CvuKWOO>KWA&WEST-CvuKWA=KWAA(WEST-CvuKWAA>NASKAPI KWAA<K!W%SOUx-SLAVEY KEH%IH%OH%AH]C",
    "E$AAI&I!I%O!O&Y-CvuCOO:CA!A%WE&WEST-CvuCWE=CWI&WEST-CvuCWI=CWII(WEST-CvuCWII>CWO&WEST-CvuCW",
    "O=CWOO(WEST-CvuCWOO>CWA&WEST-CvuCWA=CWAA(WEST-CvuCWAA>NASKAPI CWAA<C$SAYISI x.ME$AAI&I!I%O!",
    "O&Y-CvuMOO:MA!A%WE&WEST-CvuMWE=MWI&WEST-CvuMWI=MWII(WEST-CvuMWII>MWO&WEST-CvuMWO=MWOO(WEST-",
    "CvuMWOO>MWA&WEST-CvuMWA=MWAA(WEST-CvuMWAA>NASKAPI MWAA<M$WEST-CvuM;MH%ATtPASCk M<SAYISI M,N",
    "E$AAI&I!I%O!O&Y-CvuNOO:NA!A%WE&WEST-CvuNWE=NWA&WEST-CvuNWA=NWAA(WEST-CvuNWAA>NASKAPI NWAA;$",
    "CdRIj NG:NH%i$AAI&I!I%O!O&Y-CvuLOO:LA!A%WE&WEST-CvuLWE=LWI&WEST-CvuLWI=LWII(WEST-CvuLWII>LW",
    "O&WEST-CvuLWO=LWOO(WEST-CvuLWOO>LWA&WEST-CvuLWA=LWAA(WEST-CvuLWAA>L$WEST-CvuL;MEDIe L,SE$AA",
    "I&I!I%O!O&Y-CvEmOO:SA!A%WE&WEST-CvEmWE=SWI&WEST-CvEmWI=SWII(WEST-CvEmWII>SWO&WEST-CvEmWO=SW",
    "OO(WEST-CvEmWOO>SWA&WEST-CvEmWA=SWAA(WEST-CvEmWAA>NASKAPImWAA<S$ATtPASCkm<SW%BLACKFOOTm;MOO",
    "SE-CvEmK=NASKAPImKW%-W%PWA&TWA&KWA&CWA<SHE$I!I%O!O%A!A%WE(WEST-CvEmHWE>SHWI(WEST-CvEmHWI>SH",
    "WII)WEST-CvEmHWII?SHWO(WEST-CvEmHWO>SHWOO)WEST-CvEmHWOO?SHWA(WEST-CvEmHWA>SHWAA)WEST-CvEmHW",
    "AA?SH%YE$AAI&I!I%O!O%-CvuYOO.A!A%WE&WEST-CvuYWE=YWI&WEST-CvuYWI=YWII(WEST-CvuYWII>YWO&WEST-",
    "CvuYWO=YWOO(WEST-CvuYWOO>YWA&WEST-CvuYWA=YWAA(WEST-CvuYWAA>NASKAPI YWAA<Y$BIBi-CvuY<WEST-Cv",
    "uY;SAYISI YI.v$-Cvuv.WEST-Cvui<zAI&I!I%O!O&WEST-CvuLO<z!A&WEST-CvuLA<RWAA(WEST-CvuRWAA>R$WE",
    "ST-CvuR;MEDIe R,FE$AAI&I!I%O!O%A!A%WAA(WEST-CvuFWAA>F$xE&N-CvuxE:xI&N-CvuxI:xII(N-CvuxII;xO",
    "!O%A!A%WAA)WEST-CvuxWAA?x$xE$I$O$A$%YE$I$O$A&NUNAVIK HE$I!I%O!O%A!A%(UyH.HK%QAAI&I!I%O!O%A!",
    "A%$TLHE$I$O$A(WEST-Cvuv$I$O$A<NGAAI&I!I%O!O%A!A%$NG&SAYISImHE$I$O$A:WOODS-CvuxE$I$O$A$=LHI!",
    "I%O!O%A!A%%x-CvuxE$I!I%O!O%A!A%:AIVILIK B.BLACKFOOyE$I$O$A$WE$I$O$A%NE$I$O$A%KE$I$O$A<SAYIS",
    "I HE$I$O$A.CdRIj GHU$O$E!E%I$A&RU$O$E!E%I$A%WU$O$E!E%I$A%HWU$O$E!E%I$A&xU$O$E!E%I$A%TU$O$E!",
    "E%I$A&PU$O$E!E%I$A$$GU$O$E!E%I$A%KHU$O$E!E%I$A%KU$O$E!E%I$A$%NU$O$E!E%I$A%MU$O$E!E%I$A%YU$O",
    "$E!E%I$A%JU:SAYISI JU.CdRIj JO$E!E%I:SAYISI JI.CdRIj JA$JU$O$E!E%I$A&LU$O$E!E%I$A%DLU$O$E!E",
    "%I$A&LHU$O$E!E%I$A&TLHU$O$E!E%I$A%U$O$E!E%I$A&ZU$O$E!E%I$A$$hIse Z.DZU$O$E!E%I$A&SU$O$E!E%I",
    "$A$HU$O$E!E%I$A$%TSU$O$E!E%I$A&CHU$O$E!E%I$A&TTSU$O$E!E%I$A;HImw,FULLmTOP.QAI&NGAI&NGI!I%O!",
    "O%A!A)WOODS-CvuxWEE%I!I%O!O%A!A)Fhe x|BLACKFOOyW:~OGtMmPACuMdK:iTTj BEIx)LUIS(FEdN)SAIL(NIl",
    "(UAx(DAIR(ThNE)COLL&EIRT)MUh(GORT(NGEADe+STzIF*RUIS(AILM(lN&UR%EADtDH+IODtDH+EABtDH+OR%UILi",
    "kN,IFh(EAMHkCHOLL;PEIx<FEAxj MdK<vVjSpFEAxj MdK!!!+~RUNIC iTTj FEHU FEOH FuF>V$URUZ UR U.YR",
    "$$W$xURISAZ xURS xORN!~Ex&kSUZ A+OS O(AC A&ESC(LlG-BRkCH-OSS O^SHORT-TWIG-OSS O]O!E$N%zIDO ",
    "zD vID R]KAUNA)Cq&KAUN K*G$qG&GEBO GYFU G:d&WUNJO WYNN W<tGLAZ H*EGL H+LlG-BRkCH-tGeL H!~SH",
    "ORT-TWIG-tGeL H|NAUDIZ NYD NAUD N^SHORT-TWIG-NAUD N^DOTTED-N,ISAZ IS ISS I=E$Jjk J+Gj&LlG-B",
    "RkCH-d AE^SHORT-TWIG-d A?IWAZ EOH,PjxO PEORx P?eGIZ EOLHX;SrILOm+IGEL LlG-BRkCH-SOLm%~HORT-",
    "TWIG-SOLm]C$Z$sWAZ sR TYR T?SHORT-TWIG-TYR T]D$BjKkk BEORC BJdKk B(~SHORT-TWIG-BJdKk B!~DOT",
    "TED-P,OPq-P*EHWAZ EH E:MkNAZ Mk M<LlG-BRkCH-MADR M_SHORT-TWIG-MADR M^LAUKAZ LAGU LOGR L_DOT",
    "TED-L,hGWAZ&&DAGAZ DAEG D<Oxek ExEL O?Ed&IOR&CWEORx*eC&EeC)STk(LlG-BRkCH-YR>SHORT-TWIG-YR=I",
    "CELkDIC-YR<Q$X,ShGi PUNCTUAsl_MULsPi PUNCTUAsl!~CROSS PUNCTUAsl^dLAUGmYMBOL=TVIMADURmYMBOL?",
    "BELGxORmYMBOL?iTTj K$SH%OO%FRkKS CASKEyOS%IS%EH%AC$ESC!!!!!!!;~TAGeOG iTTj A$I$U$KA%GA%NGA&",
    "TA%DA%NA%PA%BA%MA%YA%z%LA%WA%SA%t.VrELmw I$U<Sw VIzMA*PAMUDPOD!!!!!!!!!=iTTj dCtIC z)~HkUNO",
    "O iTTj A$I$U$KA%GA%NGA&TA%DA%NA%PA%BA%MA%YA%z%LA%WA%SA%t.VrELmw I$U<Sw PAMUDPOD$~PHILIPPhEm",
    "hGi PUNCTUAsl_DOUBi PUNCTUAsl!!!!!!!!!.~BUHID iTTj A$I$U$KA%GA%NGA&TA%DA%NA%PA%BA%MA%YA%z%L",
    "A%WA%SA%t.VrELmw I$U!!!!!!!!!!!!_TAGBkWA iTTj A$I$U$KA%GA%NGA&TA%DA%NA%PA%BA%MA%YA!%LA%WA%S",
    "A!.VrELmw I$U!!!!!!!!!!!!$~KHMj iTTj KA$t%O$HO&NGO&CA$t%O$HO&NYO&DA%TTt(DO%TxO(NNO&TA$t%O$H",
    "O&NO%BA%Pt%O$HO&MO%YO%RO%LO%VO%St%SO%A%t%LA%QA.hDEPqDqyVrEL QAQ$A%I!I%U!K$U!V(RY!Y&LY!Y&QE$",
    "AI%OO TYPulE&TWO;AU$~VrEL hHjqyAQ$A;Sw AA%I!I%Y!Y%U!U$A%OE%YA%IE%E$AE$I%OO%AU=Sw NIKAHIT+vA",
    "HMUK+YUUKeEAPhTU=MUUSIKATOk;TRIISAP+BkTOC*ROBAT)TOkDAKHIAT;KAKABAT+AHSDA)SAMYOKmkNYA=VIRIAM",
    "*COqG)BATtMASAT:KHk(BdIYOOSk:CAMNUC PII KUUH?iK TOO+BEYYe*PHNAEK MUk;KOOMUUT<CURRqCYmYMBOL ",
    "RIEL!~Sw AVAKztSkYA<TTtCk!!=DIGIyZjO(lE&TWO%HvE)FOUR&IVE(SIX%EVq)Ef)NhE!!!!!!:SYMBOL iK ATT",
    "AKml&MUOY(PII&BEI%Ul(PzM!-MUOY(PII&BEI%Ul!!!!!!<~MlGOLIk BIRGA)ELLIPSIS,COMMA)FULLmTOP.COLl",
    ")FOUR DOTS.TODOmOFyHYPHq]SIBEmYLLABi BOUNDdY MdKj.~MkCHU COMMA)FULLmTOP]NIRUGU*FvuVdIAslmEi",
    "CTOR lE&TWO%HvE.~VrELmEPdATOR?FvuVdIAslmEiCTOR FOUR,~DIGIyZjO(lE&TWO%HvE)FOUR&IVE(SIX%EVq)E",
    "f)NhE!!!!!!:iTTj A$E$I$O$U$OE%UE%EE%NA%kG&BA%PA%QA%GA%MA%LA%SA$t&TA%DA%Ct&JA%YA%z%WA%FA%KA$",
    "t&TSA&ZA%tA&Zz&Lt&ZHI&CHI&TODO LlG VrELmw?E$I$O$U$OE%UE%kG&BA%PA%QA%GA%MA%TA%DA%Ct&JA%TSA&Y",
    "A%WA%KA%GAA&tA&JIA&NIA&DZA,SIBuE$I!Y%UE$$kG&KA%GA%t%PA%St&TA%DA%JA%FA%GAA&tA&TSA&ZA%zA&Ct&Z",
    "t,MkCHU I$KA%z%FA%Zt:CtbTWO DOTS!!!!!!!^eI GeI kUSVdA lE<VISdGA lE;DAMdU*UBADAMA+hVjTpUBADA",
    "MA]BeUDA*xvuBeUDA<A$I$KA%NGA&CA%TTA$t(DDA&NNA&TA%DA%PA$t&SSA&Zt%A%AH;TODO eI GeI TA%Zt^MkCH",
    "U eI GeI Gt&NGA&CA%Jt&TTA&DDt(TA%Dt&SSA&CYA&Zt%A_eI GeI HeF U$YA]MkCHU eI GeI Bt|eI GeI DAG",
    "eGA]MkCHU eI GeI Lt!!!!!]~CkADIkmYLLABICS OY%AY$AY&WAY&POY%AY%WOY(TAY&KAY%WAY(MAY&NOY%AY&LA",
    "Y&SOY%AY%HOY%AY%WOY)YOY%AY&zY&NWI&OJIBWAY NWI;NWII(OJIBWAY NWII<NWO&OJIBWAY NWO;NWOO(OJIBWA",
    "Y NWOO<RWEE%I!I%O!O%A&OJIBWAY P$T$K$C$M$N$S!H:EASTjN W.WESTjN W.FhemMeL RhG:zISpDOT]R-CvuRW",
    "E:WEST-CvuLOO%AA=xWE$A&xWE%OO%AA(LHWE%OO)SAYISImHWE%OO(HOO:CdRIj GWU&DquGEE,GAA%WA;SAYISI J",
    "UU:CdRIj JWA;BEAVj DquL$R=CdRIj DqTem!!!!!!!!!!?~LIMBU VrEL-CdRIj iTTj!~iTTj KA$t&GA$t&NGA&",
    "CA$t&JA$t&Yk&TA$t&DA$t&NA%PA$t&BA$t&MA%YA%z%LA%WA%St%SA%A%t%GYk(Tz!:VrELmw A$I$U$EE%AI%OO%A",
    "U%E$O<SUBJOhpiTTj YA%z%WA!!!!_MeaKA%NGA&kUSVdA,TA%NA%PA%MA%z%LA>w MUKPHRqG.KEMPHRqG.SA-I!!!",
    "!(LOO!!!,EXCLAMAsl MdK]QUESsl MdK=DIGIyZjO(lE&TWO%HvE)FOUR&IVE(SIX%EVq)Ef)NhE]TAI i iTTj KA",
    "%XA%NGA&TSA&SA%YA%TA$t&LA%PA$t&MA%FA%VA%t%QA%Kt&TSt(NA%A$I$EE$H%U$OO$$UE%E$AUE%I!!%TlE-2$3$",
    "4$5$6!!!!!!!!!!!!~NEW TAI LUuiTTj HIGH QA+Lr QA*HIGH KA%XA%NGA,Lr KA%XA%NGA+HIGH TSA&SA%YA+",
    "Lr TSA&SA%YA*HIGH TA$t&NA+Lr TA$t&NA*HIGH PA$t&MA+Lr PA$t&MA*HIGH FA%VA%LA+Lr FA%VA%LA*HIGH",
    " t%DA%BA+Lr t%DA%BA*HIGH KVA&XVA,Lr KVA&XVA+HIGHmUA,LrmUA!!!!>VrELmw VrELmHORTqj?AA%II%U!U%",
    "E$AE%O!A%UE%AY$AY&UY%OY$AY&UEY&IY=iTTj Fhe V$NG$$M$K$D$B>TluMdK-1$2!!!!!!;DIGIyZjO(lE&TWO%H",
    "vE)FOUR&IVE(SIX%EVq)Ef)NhE:TtM DIGIylE!!!>Sw LAE!V$~KHMjmYMBOL PATtMASAT:MUOY KOET.PII KOET",
    ",BEI KOET+Ul KOET.PzM KOET)-MUOY KOET.PII KOET,BEI KOET+Ul KOET>DAP KOET)-MUOY KOET.PII KOE",
    "T,BEI KOET+Ul KOET.PzM KOET=TUTEYASAT.MUOY ROC,PII ROC+BEI ROC*Ul ROC,PzM ROC(-MUOY ROC,PII",
    " ROC+BEI ROC*Ul ROC=DAP ROC(-MUOY ROC,PII ROC+BEI ROC*Ul ROC,PzM ROC)~BUGhESuiTTj KA%GA%NGA",
    "$KA(PA%BA%MA$PA&TA%DA%NA$z&CA%JA%NYA$CA(YA%z%LA%VA%SA%A$t.VrELmw I$U$E$O$AE!!=PeLAWA+qD OFm",
    "ECsl&~TAI TtM iTTj HIGH KA$t%XA,Lr KA$XA%t+NGA&HIGH CA$t,Lr CA%SA%Ct+NYA&zTA(HIGH zTt:DA%Lr",
    " zTt.RkA(HIGH TA$t,Lr TA$t+NA%BA%HIGH PA$t&FA+Lr PA%FA%Pt+MA%Lr YA*HIGH YA+z$UE&LA$UE&WA%HI",
    "GHmt%SA%A%t+LLA&A$Lr t*I!I%U!U%EE%OO%LAE&GvATmA?ClSlkTmw MEDIe z%LA.LA TkG LAI*~Sw MAI KkG ",
    "LAI^ClSlkTmw Fhe NGA.Lr PA*HIGH zTt OR Lr PA!~MA%BA%SA!^SwmAKOT:VrELmw A$MAImAT+AA%TeL AA+I",
    "!I%UE$UE%!U%O!A BELr+Y%E$AE%OO%AI%TtM AI+OAn|Sw MAI KkG,TlE-1$2*KHUq TlE-3$4$5<z tAM+MAImAM",
    "+KHUq-LUuKdk!!!~COMBhhG CRYPTOGzMMIC DOT+~HOz DIGIyZjO(lE&TWO%HvE)FOUR&IVE(SIX%EVq)Ef)NhE!!",
    "!!!!?TtM DIGIyZjO(lE&TWO%HvE)FOUR&IVE(SIX%EVq)Ef)NhE!!!!!!?Sw WIkG!WAAK.SAWk)KEr(HOY&DOKMAI",
    "*vVjSpROTATpRkA$~MAI YAMOK.KAk!KUU+SATKAk!KUU:HkG(CAkG!!|COMBhhG DOUBiD CIRCUMFiX ACCqT(~IA",
    "jESIS-RhG>hFhITY,DrNWdDS dRr?TRIPi DOT:X-X BELr.WIGGLY LhuBELr^OPq MdK BELr?DOUBi OPq MdK B",
    "ELr%~Lf CqTReIZAslmTROKuBELr=~STRlG CqTReIZAslmTROKuBELr>~PdqxESESn^DOUBi PdqxESESn(~PdqxES",
    "ES BELr)OVjLAY|LAThmMeaW BELr+TURNpW BELr<~EFyPdqxESISn iFT+~Rf PdqxESISn Rf.~iFyPdqxESIS B",
    "ELr iFT+~Rf PdqxESIS BELr Rf.~SQUduBzCKETSn$~NUMBjmwn^hVjTpDOUBi dCHn*~PLUSmwn?DOUBi PLUSmw",
    "n)BELr%~TRIPi ACUTuACCqT|LAThmMeahSULd G$R$T"]),
   (6912,
   ["!BehESEmw ULU RICEM)CkDz:CECEK)SURkG*BISAH:iTTj AKdA! TEDUNG<IKdA! TEDUNG<UKdA! TEDUNG<z vP",
    "A! TEDUNG>LA iNGA! TEDUNG?EKdA)AIKdA*OKdA! TEDUNG<KA! MAtPRkA<GA! GOz+NGA&CA! LACA+JA! JjA+",
    "NYA&TA LAsK)MURDA MAtPRkA_DA MURDA ePAPRkA.MAtPRkA_NA zMBAT.TA! TAWA+DA! MADU+NA%PA! KAPe,B",
    "A! KEMBkG:MA%YA%z%LA%WA%SAmAGA%PA)%t.Sw RjEKk<VrELmw TEDUNG*ULU!mdI,SUKU! ILUT.z vPA! TEDUN",
    "G>LA iNGA! TEDUNG?TehG! vPA(TEDUNG*vPA TEDUNG_PEPET! TEDUNG&~ADEG ADEG.iTTj KAFmASAK,HOTmAS",
    "AK:TZIRmASAK:EFmASAK,VEmASAK,ZemASAK.ASYUzmASAK;RCtIC JNYA!!!|DIGIyZjO(lE&TWO%HvE)FOUR&IVE(",
    "SIX%EVq)Ef)NhE:Pks&MADA*WhDU)CdIK PAMUNGKAH.SIKI(Pdjq=PAMqqG,MUSICemYMBOL DlG&qG&UNG&kG!mUR",
    "kG:hG&AqG(EUNG(AhG&NG GEDE.COMBhhG TEGEH)qDEP)KEMPUL%LI*JEGOGk+KEMPULbJEGOGk?LIbJEGOGk|BqDE",
    ")GlG>Rf-HkD OPq DUG%AG,CLOSpTUK%AK$~iFT-HkD OPq PkG&UNG.CLOSpPLAK%UK;OPq PhG>~Pks LkTkG;MAD",
    "A LkTkG!&~SUNDkESEmw PkYECEK)GLAYd)WISAD>iTTj A$I$U$AE%O$E!U%KA%QA%GA%NGA&CA%JA%ZA%NYA&TA%D",
    "A%NA%PA%FA%VA%BA%MA%YA%z%LA%WA%SA%XA%t.ClSlkTmw PAMhGKe+NYAKz(IKU%~VrELmw PkGHULU)YUKU(AELA",
    "qG+OLlG*MEPET)NEUiUNG$~Sw PAMAAEH+VIzMA;ClSlkTmw PASkGk MA%WA*~iTTj Kt&SYA:DIGIyZjO(lE&TWO%",
    "HvE)FOUR&IVE(SIX%EVq)Ef)NhE:AVAGzt,iTTj vU&iU&Bt&Fhe K$M(~BATAK iTTj A$SIMeUNGUN A<t%SIMeUN",
    "GUN t=MkDAILhG t=BA%KdO BA+PA%SIMeUNGUN PA=NA%MkDAILhG NA=WA%SIMeUNGUN WA=PAKPAK WA.GA%SIMe",
    "UNGUN GA=JA%DA%z%SIMeUNGUN z=MA%SIMeUNGUN MA<OUxjN TA;NORxjN TA;SA$IMeUNGUNmA=MkDAILhGmA=YA",
    "%SIMeUNGUN YA=NGA&LA%SIMeUNGUN LA=NYA&CA%NDA&MBA&I$U,Sw TOMPI:VrELmw E$PAKPAK E,EE%I$KdO I*",
    "O$KdO O*U! FORmIMeUNGUNmA:~ClSlkTmw NG%H]PkGOLAT)lGlk!!!!!!!!:SYMBOL BhDU NA METEK,PhdBOzS:",
    "JUDUL)PkGOLAT+~iPCt iTTj KA$LA%t&GA$LA&NGA&CA$t&JA%NYA&TA$t&DA%NA%PA$LA%t&FA$LA&BA$LA&MA$LA",
    "&TSA$t(DZA&YA%z%LA%t$LA&VA%SA$t&WA%A,SUBJOhpiTTj YA%z|VrELmw AA%I$O!O%U!U%E<ClSlkTmw K$M$L$",
    "N$P$R$T$NYh-DO+KkG|Sw Rk&NUKTA!!!:PUNCTUAsl TA-ROL*NYEyxYOOM TA-ROL_Cj-WA*TSHOOK Cj-WA+_DIG",
    "IyZjO(lE&TWO%HvE)FOUR&IVE(SIX%EVq)Ef)NhE!!!:iTTj TTA$t(DDA^OL CHIKI DIGIyZjO(lE&TWO%HvE)FOU",
    "R&IVE(SIX%EVq)Ef)NhE:iTTj LA%AT$G$NG%L%LAA&AAK$J$M$W&LI%IS$H$NY%R%LU%UC$D$NN%Y%i%EP$DD%N$RR",
    "&LO%OTT%B$V$H.MU TTUDDAG:GAAHLAA TTUDDAAG]MU-GAAHLAA TTUDDAAG|vLAA)PtdKAA,AtD(PUNCTUAsl MUC",
    "AAD*DOUBi MUCAAD>~CYRILLICmMeaROUNDpVE:LlG-iGGpDE>NdRr O,WIDuES+TeL TE*HvE-iGGpTE>eL HdDmw.",
    "YAT,UNBiNDpUK!!!!!!!>~GEORGIk MTAVRULI cak%Bk&Gk&Dl&q%Vh&Zq&Tk&h%Kk&LAS&Mk&Nd&l%Pd&ZHd(zE&S",
    "k&Td&UN%PHd(KHd(GHk(Qd&SHh(CHh&k&JIL&CIL%Hd(Xk&JHk(tE%E$IE&WE%Hd%OE&FI%YN%ELIFI)TURNpGk:Ah!",
    "!%q&HdDmw.LABIemw(~~SUNDkESuPUNCTUAsl BhDUmURYA)PkGLlG+URNAMA+CAKz)iUmATkGA;KAmATkGA:DAmATk",
    "GA:BAmATkGA!!!!!!!!_~VEDIC TluKdSHkA,SHdA)PRqKt<Sw NIHSHVASA.YAJURVEDIC MIDLhEmVdITA;~TluYA",
    "JURVEDIC AGGzVATphDEPqDqTmVdITA:~hDEPqDqTmVdITA|KATtKA hDEPqDqTmVdITA_~CkDz BELr<YAJURVEDIC",
    " KATtKA hDEPqDqTmVdITAmCHROEDj,~~DOUBimVdITA>TRIPimVdITA>KATtKA kUDATTA]DOyBELr.TWO DOTS BE",
    "Lr=HvuDOTS BELr]RIGVEDIC KASHMIRI hDEPqDqTmVdITA^~AxdVAVEDIC hDEPqDqTmVdITA^~Sw VISdGAmVdIT",
    "A+UDATTA>vVjSpVISdGA UDATTA&~VISdGA kUDATTA]vVjSpVISdGA kUDATTA)~VISdGA UDATTAbTAIL]kUDATTA",
    "bTAIL*~kUSVdA kTdGOMUKt<BAHIRGOMUKt<VAMAGOMUKt!bTAIL:~sRYAK*HEXIFORM LlG kUSVdA%~LlG kUSVdA",
    "=RxkG LlG kUSVdA!~kUSVdA UBtYATO MUKt%~RDtVISdGA<ROTATpdDtVISdGA)~TluCkDzn^Sw JIHVAMULIYA;U",
    "PADHMkIYA;AsKzMA=TluRhGn:DOUBi RhGn%~Sw DOUBi kUSVdA kTdGOMUKt!!!!!|~LATh iTTjmMeL cL A!E&~",
    "SMeaTURNpAE%~iTTjmMeL cL BdRpB,C$D$Ex%%~SMeaTURNpOPq E*I$~iTTjmMeL cL J$K$LbSTROKE=M$vVjSpN",
    ":O!Pq O+~SMeaSIDEWAYS O!Pq O)bSTROKE%~TURNpOE%~iTTjmMeL cL OU&~SMeaTOP HeF O:BOTTOM HeF O*~",
    "iTTjmMeL cL P$vVjSpR:TURNpR+$U%~SMeaSIDEWAYS U$DIAjESIZpU=TURNpM:~iTTjmMeL cL V$W$Z$EZH^VOI",
    "CpLdYNGEemPIRkT(~Ah]GvEK iTTjmMeL cL GAMMA)LAMDA)PI%RHO&PSI:~CYRILLIC iTTjmMeL cL EL<~MODIF",
    "Ij iTTj cL A!E%B!dRpB,D$E$vVjSpE:G$H$I$J$K$L$M$N$vVjSpN:O!U%P$R$T$U$W.SMeL A$TURNpA,ePt)TUR",
    "NpAE.B$D$E$SCHWA)OPq E*TURNpOPq E=G$TURNpI,K$M$qG&O!Pq O*TOP HeF O:BOTTOM HeF O=P$T$U$SIDEW",
    "AYS U:TURNpM,V$Ah&BETA(GvEK GAMMA;DELTA)GvEK PHI.CHI)~LAThmUBSCRIPTmMeaI$R$U$V:~GvEKmUBSCRI",
    "PTmMeaBETA(GAMMA)RHO&PHI&CHI<~LAThmMeaUE%BbMIDDi sLDE|DbMIDDi sLDE|FbMIDDi sLDE|MbMIDDi sLD",
    "E|NbMIDDi sLDE|PbMIDDi sLDE|RbMIDDi sLDE<FISHHOOK kD MIDDi sLDE<~SbMIDDi sLDE|TbMIDDi sLDE|",
    "ZbMIDDi sLDE|TURNpG+~MODIFIj iTTj CYRILLIC q+~LAThmMeahSULd G.xbSTRIKExROUGH,~caIbSTROKE,~i",
    "TTj IOTAbSTROKE]PbSTROKE!~caUbSTROKE,~iTTj UPSILlbSTROKE|BbPeATe HOOK|DbPeATe HOOK|FbPeATe ",
    "HOOK|GbPeATe HOOK|KbPeATe HOOK|LbPeATe HOOK|MbPeATe HOOK|NbPeATe HOOK|PbPeATe HOOK|RbPeATe ",
    "HOOK|SbPeATe HOOK|ESHbPeATe HOOK$~VbPeATe HOOK|XbPeATe HOOK|ZbPeATe HOOK|AbvTROFiX HOOK!~LP",
    "tbvTROFiX HOOK)~DbHOOK kD TAIL!~EbvTROFiX HOOK$~OPq EbvTROFiX HOOK*~vVjSpOPq EbvTROFiX HOOK",
    "?~SCHWAbvTROFiX HOOK)~IbvTROFiX HOOK$~OPq ObvTROFiX HOOK*~ESHbvTROFiX HOOK&~UbvTROFiX HOOK$",
    "~EZHbvTROFiX HOOK%~~MODIFIj iTTjmMeL TURNpePt<C!bCURL;Ex&vVjSpOPq E?F$DOTiSS JbSTROKE$~SCRI",
    "PyG,TURNpH,IbSTROKE<OTA(cL I!bSTROKE$~JbCROSSED-TAIL|LbvTROFiX HOOK>PeATe HOOK|cL L.MbHOOK;",
    "TURNpMbLlG iG%~NbiFyHOOK.vTROFiX HOOK$~cL N.BdRpO,PHI&SbHOOK;ESH&TbPeATe HOOK|U Bd(PSILl+cL",
    " U.VbHOOK;TURNpV,Z!bvTROFiX HOOK>CURL;EZH&xETA+~COMBhhG DOTTpGzVuACCqT<ACUTuACCqT|SNAKuBELr",
    ":USPqSIl MdK?MACRl-ACUTE<GzVE-MACRl<MACRl-GzVE<ACUTE-MACRl<GzVE-ACUTE-GzVE^ACUTE-GzVE-ACUTE",
    "^LAThmMeaR BELr*~BvVE-MACRl<MACRl-BvVE<DOUBi CIRCUMFiXn&~OGlEKn<ZIGZAG BELr<IS BELr,URn+Sn,",
    "LAThmMeaFLATTqpOPq An%~AE$O$V%C CEDILLA.hSULd D.Ex&G>iTTjmMeL cL G%~SMeaK$L>iTTjmMeL cL L$M",
    "%~SMeaN>iTTjmMeL cL N$R%~SMeaR ROTUNDA.S$LlGm*Z$ePt)B!ETA(SCHWA)F$LbDOUBi MIDDi sLDE*~ObLf ",
    "CqTReIZAslmTROKE>~P$ESH&UbLf CqTReIZAslmTROKE>~W$AbDIAjESIS]ObDIAjESIS]UbDIAjESIS?~UP TACKn",
    "=KAVYKAn Rf)iFT^DOTn iFT>WIDuhVjTpBRIDGuBELr*~DOyBELr iFT=Eisl MdK<OUBi hVjTpBvVuBELr+~eMOS",
    "yEQUe TO BELr$~iFydRrHEADn!~Rf dRrHEAD kD DrN dRrHEAD BELr:~~LATh caAbRhG BELr<~SMeaAbRhG B",
    "ELr:~caBbDOTn;~SMeaBbDOTn.~caBbDOyBELr;~SMeaBbDOyBELr.~caBbLhuBELr<~SMeaBbLhuBELr:~caCbCEDI",
    "LLA kD ACUTE|~SMeaCbCEDILLA kD ACUTE^~caDbDOTn;~SMeaDbDOTn.~caDbDOyBELr;~SMeaDbDOyBELr.~caD",
    "bLhuBELr<~SMeaDbLhuBELr:~caDbCEDILLA.~SMeaDbCEDILLA+~caDbCIRCUMFiX BELr_~SMeaDbCIRCUMFiX BE",
    "Lr]~caEbMACRl kD GzVE_~SMeaEbMACRl kD GzVE]~caEbMACRl kD ACUTE_~SMeaEbMACRl kD ACUTE]~caEbC",
    "IRCUMFiX BELr_~SMeaEbCIRCUMFiX BELr]~caEbsLDuBELr=~SMeaEbsLDuBELr;~caEbCEDILLA kD BvVE|~SMe",
    "aEbCEDILLA kD BvVE^~caFbDOTn;~SMeaFbDOTn.~caGbMACRl,~SMeaGbMACRl*~caHbDOTn;~SMeaHbDOTn.~caH",
    "bDOyBELr;~SMeaHbDOyBELr.~caHbDIAjESIS;~SMeaHbDIAjESIS.~caHbCEDILLA.~SMeaHbCEDILLA+~caHbBvVu",
    "BELr=~SMeaHbBvVuBELr;~caIbsLDuBELr=~SMeaIbsLDuBELr;~caIbDIAjESIS kD ACUTE$~~SMeaIbDIAjESIS ",
    "kD ACUTE|~caKbACUTE+~SMeaKbACUTE)~caKbDOyBELr;~SMeaKbDOyBELr.~caKbLhuBELr<~SMeaKbLhuBELr:~c",
    "aLbDOyBELr;~SMeaLbDOyBELr.~caLbDOyBELr kD MACRl%~~SMeaLbDOyBELr kD MACRl!~~caLbLhuBELr<~SMe",
    "aLbLhuBELr:~caLbCIRCUMFiX BELr_~SMeaLbCIRCUMFiX BELr]~caMbACUTE+~SMeaMbACUTE)~caMbDOTn;~SMe",
    "aMbDOTn.~caMbDOyBELr;~SMeaMbDOyBELr.~caNbDOTn;~SMeaNbDOTn.~caNbDOyBELr;~SMeaNbDOyBELr.~caNb",
    "LhuBELr<~SMeaNbLhuBELr:~caNbCIRCUMFiX BELr_~SMeaNbCIRCUMFiX BELr]~caObsLDukD ACUTE^~SMeaObs",
    "LDukD ACUTE?~caObsLDukD DIAjESIS$~~SMeaObsLDukD DIAjESIS|~caObMACRl kD GzVE_~SMeaObMACRl kD",
    " GzVE]~caObMACRl kD ACUTE_~SMeaObMACRl kD ACUTE]~caPbACUTE+~SMeaPbACUTE)~caPbDOTn;~SMeaPbDO",
    "Tn.~caRbDOTn;~SMeaRbDOTn.~caRbDOyBELr;~SMeaRbDOyBELr.~caRbDOyBELr kD MACRl%~~SMeaRbDOyBELr ",
    "kD MACRl!~~caRbLhuBELr<~SMeaRbLhuBELr:~caSbDOTn;~SMeaSbDOTn.~caSbDOyBELr;~SMeaSbDOyBELr.~ca",
    "SbACUTukD DOTn$~~SMeaSbACUTukD DOTn|~caSbCdl kD DOTn$~~SMeaSbCdl kD DOTn|~caSbDOyBELr kD DO",
    "Tn)~~SMeaSbDOyBELr kD DOTn&~~caTbDOTn;~SMeaTbDOTn.~caTbDOyBELr;~SMeaTbDOyBELr.~caTbLhuBELr<",
    "~SMeaTbLhuBELr:~caTbCIRCUMFiX BELr_~SMeaTbCIRCUMFiX BELr]~caUbDIAjESIS BELr^~SMeaUbDIAjESIS",
    " BELr?~caUbsLDuBELr=~SMeaUbsLDuBELr;~caUbCIRCUMFiX BELr_~SMeaUbCIRCUMFiX BELr]~caUbsLDukD A",
    "CUTE^~SMeaUbsLDukD ACUTE?~caUbMACRl kD DIAjESIS%~~SMeaUbMACRl kD DIAjESIS!~~caVbsLDE+~SMeaV",
    "bsLDE)~caVbDOyBELr;~SMeaVbDOyBELr.~caWbGzVE+~SMeaWbGzVE)~caWbACUTE+~SMeaWbACUTE)~caWbDIAjES",
    "IS;~SMeaWbDIAjESIS.~caWbDOTn;~SMeaWbDOTn.~caWbDOyBELr;~SMeaWbDOyBELr.~caXbDOTn;~SMeaXbDOTn.",
    "~caXbDIAjESIS;~SMeaXbDIAjESIS.~caYbDOTn;~SMeaYbDOTn.~caZbCIRCUMFiX<~SMeaZbCIRCUMFiX:~caZbDO",
    "yBELr;~SMeaZbDOyBELr.~caZbLhuBELr<~SMeaZbLhuBELr^HbLhuBELr^TbDIAjESIS]WbRhGn^YbRhGn^AbRf He",
    "F RhG%~LlGmbDOTn,IAGlemTROKE?HIGHmTROKE]~caSHdPm%~SMeaDELTA_caAbDOyBELr;~SMeaAbDOyBELr.~caA",
    "bHOOKn<~SMeaAbHOOKn:~caAbCIRCUMFiX kD ACUTE%~~SMeaAbCIRCUMFiX kD ACUTE!~~caAbCIRCUMFiX kD G",
    "zVE%~~SMeaAbCIRCUMFiX kD GzVE!~~caAbCIRCUMFiX kD HOOKn+~~SMeaAbCIRCUMFiX kD HOOKn)~~caAbCIR",
    "CUMFiX kD sLDE%~~SMeaAbCIRCUMFiX kD sLDE!~~caAbCIRCUMFiX kD DOyBELr*~~SMeaAbCIRCUMFiX kD DO",
    "yBELr(~~caAbBvVukD ACUTE^~SMeaAbBvVukD ACUTE?~caAbBvVukD GzVE^~SMeaAbBvVukD GzVE?~caAbBvVuk",
    "D HOOKn%~~SMeaAbBvVukD HOOKn!~~caAbBvVukD sLDE^~SMeaAbBvVukD sLDE?~caAbBvVukD DOyBELr$~~SMe",
    "aAbBvVukD DOyBELr|~caEbDOyBELr;~SMeaEbDOyBELr.~caEbHOOKn<~SMeaEbHOOKn:~caEbsLDE+~SMeaEbsLDE",
    ")~caEbCIRCUMFiX kD ACUTE%~~SMeaEbCIRCUMFiX kD ACUTE!~~caEbCIRCUMFiX kD GzVE%~~SMeaEbCIRCUMF",
    "iX kD GzVE!~~caEbCIRCUMFiX kD HOOKn+~~SMeaEbCIRCUMFiX kD HOOKn)~~caEbCIRCUMFiX kD sLDE%~~SM",
    "eaEbCIRCUMFiX kD sLDE!~~caEbCIRCUMFiX kD DOyBELr*~~SMeaEbCIRCUMFiX kD DOyBELr(~~caIbHOOKn<~",
    "SMeaIbHOOKn:~caIbDOyBELr;~SMeaIbDOyBELr.~caObDOyBELr;~SMeaObDOyBELr.~caObHOOKn<~SMeaObHOOKn",
    ":~caObCIRCUMFiX kD ACUTE%~~SMeaObCIRCUMFiX kD ACUTE!~~caObCIRCUMFiX kD GzVE%~~SMeaObCIRCUMF",
    "iX kD GzVE!~~caObCIRCUMFiX kD HOOKn+~~SMeaObCIRCUMFiX kD HOOKn)~~caObCIRCUMFiX kD sLDE%~~SM",
    "eaObCIRCUMFiX kD sLDE!~~caObCIRCUMFiX kD DOyBELr*~~SMeaObCIRCUMFiX kD DOyBELr(~~caObHORN kD",
    " ACUTE]~SMeaObHORN kD ACUTE>~caObHORN kD GzVE]~SMeaObHORN kD GzVE>~caObHORN kD HOOKn$~~SMea",
    "ObHORN kD HOOKn|~caObHORN kD sLDE]~SMeaObHORN kD sLDE>~caObHORN kD DOyBELr!~~SMeaObHORN kD ",
    "DOyBELr_~caUbDOyBELr;~SMeaUbDOyBELr.~caUbHOOKn<~SMeaUbHOOKn:~caUbHORN kD ACUTE]~SMeaUbHORN ",
    "kD ACUTE>~caUbHORN kD GzVE]~SMeaUbHORN kD GzVE>~caUbHORN kD HOOKn$~~SMeaUbHORN kD HOOKn|~ca",
    "UbHORN kD sLDE]~SMeaUbHORN kD sLDE>~caUbHORN kD DOyBELr!~~SMeaUbHORN kD DOyBELr_~caYbGzVE+~",
    "SMeaYbGzVE)~caYbDOyBELr;~SMeaYbDOyBELr.~caYbHOOKn<~SMeaYbHOOKn:~caYbsLDE+~SMeaYbsLDE)~caMID",
    "Di-WELSH LL:~SMeaMIDDi-WELSH LL,~caMIDDi-WELSH V.~SMeaMIDDi-WELSH V+~caYbLOOP*~SMeaYbLOOP:~",
    "GvEKmMeaePtbPSILI)DASIA)PSILI kD VdIA?DASIA kD VdIA?PSILI kD OXIA>DASIA kD OXIA>PSILI kD Pj",
    "ISPOMqI$~DASIA kD PjISPOMqI)~~caePtbPSILI)DASIA)PSILI kD VdIA?DASIA kD VdIA?PSILI kD OXIA>D",
    "ASIA kD OXIA>PSILI kD PjISPOMqI$~DASIA kD PjISPOMqI+~~SMeaEPSILlbPSILI)DASIA)PSILI kD VdIA?",
    "DASIA kD VdIA?PSILI kD OXIA>DASIA kD OXIA!!!~~caEPSILlbPSILI)DASIA)PSILI kD VdIA?DASIA kD V",
    "dIA?PSILI kD OXIA>DASIA kD OXIA!!%~~SMeaETAbPSILI)DASIA)PSILI kD VdIA?DASIA kD VdIA?PSILI k",
    "D OXIA>DASIA kD OXIA>PSILI kD PjISPOMqI$~DASIA kD PjISPOMqI&~~caETAbPSILI)DASIA)PSILI kD Vd",
    "IA?DASIA kD VdIA?PSILI kD OXIA>DASIA kD OXIA>PSILI kD PjISPOMqI$~DASIA kD PjISPOMqI)~~SMeaI",
    "OTAbPSILI)DASIA)PSILI kD VdIA?DASIA kD VdIA?PSILI kD OXIA>DASIA kD OXIA>PSILI kD PjISPOMqI$",
    "~DASIA kD PjISPOMqI(~~caIOTAbPSILI)DASIA)PSILI kD VdIA?DASIA kD VdIA?PSILI kD OXIA>DASIA kD",
    " OXIA>PSILI kD PjISPOMqI$~DASIA kD PjISPOMqI*~~SMeaOMICRlbPSILI)DASIA)PSILI kD VdIA?DASIA k",
    "D VdIA?PSILI kD OXIA>DASIA kD OXIA!!!~~caOMICRlbPSILI)DASIA)PSILI kD VdIA?DASIA kD VdIA?PSI",
    "LI kD OXIA>DASIA kD OXIA!!%~~SMeaUPSILlbPSILI)DASIA)PSILI kD VdIA?DASIA kD VdIA?PSILI kD OX",
    "IA>DASIA kD OXIA>PSILI kD PjISPOMqI$~DASIA kD PjISPOMqI!+~~caUPSILlbDASIA!! kD VdIA!)OXIA!(",
    "PjISPOMqI.~~SMeaOMEGAbPSILI)DASIA)PSILI kD VdIA?DASIA kD VdIA?PSILI kD OXIA>DASIA kD OXIA>P",
    "SILI kD PjISPOMqI$~DASIA kD PjISPOMqI)~~caOMEGAbPSILI)DASIA)PSILI kD VdIA?DASIA kD VdIA?PSI",
    "LI kD OXIA>DASIA kD OXIA>PSILI kD PjISPOMqI$~DASIA kD PjISPOMqI+~~SMeaePtbVdIA)OXIA?EPSILlb",
    "VdIA)OXIA]TAbVdIA)OXIA=IOTAbVdIA)OXIA>OMICRlbVdIA)OXIA^UPSILlbVdIA)OXIA^OMEGAbVdIA)OXIA!!?e",
    "PtbPSILI kD YPOGEGzMMqI&~DASIA kD YPOGEGzMMqI&~PSILI kD VdIA kD YPOGEGzMMqI=~DASIA kD VdIA ",
    "kD YPOGEGzMMqI=~PSILI kD OXIA kD YPOGEGzMMqI<~DASIA kD OXIA kD YPOGEGzMMqI<~PSILI kD PjISPO",
    "MqI kD YPOGEGzMMqI|~DASIA kD PjISPOMqI kD YPOGEGzMMqI&~~~caePtbPSILI kD PROSGEGzMMqI(~DASIA",
    " kD PROSGEGzMMqI(~PSILI kD VdIA kD PROSGEGzMMqI>~DASIA kD VdIA kD PROSGEGzMMqI>~PSILI kD OX",
    "IA kD PROSGEGzMMqI=~DASIA kD OXIA kD PROSGEGzMMqI=~PSILI kD PjISPOMqI kD PROSGEGzMMqI!~~DAS",
    "IA kD PjISPOMqI kD PROSGEGzMMqI*~~~SMeaETAbPSILI kD YPOGEGzMMqI&~DASIA kD YPOGEGzMMqI&~PSIL",
    "I kD VdIA kD YPOGEGzMMqI=~DASIA kD VdIA kD YPOGEGzMMqI=~PSILI kD OXIA kD YPOGEGzMMqI<~DASIA",
    " kD OXIA kD YPOGEGzMMqI<~PSILI kD PjISPOMqI kD YPOGEGzMMqI|~DASIA kD PjISPOMqI kD YPOGEGzMM",
    "qI$~~~caETAbPSILI kD PROSGEGzMMqI(~DASIA kD PROSGEGzMMqI(~PSILI kD VdIA kD PROSGEGzMMqI>~DA",
    "SIA kD VdIA kD PROSGEGzMMqI>~PSILI kD OXIA kD PROSGEGzMMqI=~DASIA kD OXIA kD PROSGEGzMMqI=~",
    "PSILI kD PjISPOMqI kD PROSGEGzMMqI!~~DASIA kD PjISPOMqI kD PROSGEGzMMqI(~~~SMeaOMEGAbPSILI ",
    "kD YPOGEGzMMqI&~DASIA kD YPOGEGzMMqI&~PSILI kD VdIA kD YPOGEGzMMqI=~DASIA kD VdIA kD YPOGEG",
    "zMMqI=~PSILI kD OXIA kD YPOGEGzMMqI<~DASIA kD OXIA kD YPOGEGzMMqI<~PSILI kD PjISPOMqI kD YP",
    "OGEGzMMqI|~DASIA kD PjISPOMqI kD YPOGEGzMMqI&~~~caOMEGAbPSILI kD PROSGEGzMMqI(~DASIA kD PRO",
    "SGEGzMMqI(~PSILI kD VdIA kD PROSGEGzMMqI>~DASIA kD VdIA kD PROSGEGzMMqI>~PSILI kD OXIA kD P",
    "ROSGEGzMMqI=~DASIA kD OXIA kD PROSGEGzMMqI=~PSILI kD PjISPOMqI kD PROSGEGzMMqI!~~DASIA kD P",
    "jISPOMqI kD PROSGEGzMMqI*~~~SMeaePtbVzCHY*MACRl*VdIA kD YPOGEGzMMqI&~YPOGEGzMMqI=OXIA kD YP",
    "OGEGzMMqI!%~PjISPOMqI! kD YPOGEGzMMqI=~~caePtbVzCHY*MACRl*VdIA)OXIA(PROSGEGzMMqI!~~KORlIS+P",
    "ROSGEGzMMqI=SILI(jISPOMqI;DIeYsKA kD PjISPOMqI)~SMeaETAbVdIA kD YPOGEGzMMqI&~YPOGEGzMMqI=OX",
    "IA kD YPOGEGzMMqI!%~PjISPOMqI! kD YPOGEGzMMqI;~~caEPSILlbVdIA)OXIA]TAbVdIA)OXIA(PROSGEGzMMq",
    "I_~PSILI kD VdIA)OXIA(PjISPOMqI$~SMeaIOTAbVzCHY*MACRl*DIeYsKA kD VdIA)OXIA!!_PjISPOMqI;DIeY",
    "sKA kD PjISPOMqI,~~caIOTAbVzCHY*MACRl*VdIA)OXIA!.~DASIA kD VdIA)OXIA(PjISPOMqI$~SMeaUPSILlb",
    "VzCHY*MACRl*DIeYsKA kD VdIA)OXIA;~RHObPSILI)DASIA>UPSILlbPjISPOMqI;DIeYsKA kD PjISPOMqI;~~c",
    "aUPSILlbVzCHY*MACRl*VdIA)OXIA^RHObDASIA.~DIeYsKA kD VdIA)OXIA_VdIA!!)SMeaOMEGAbVdIA kD YPOG",
    "EGzMMqI&~YPOGEGzMMqI=OXIA kD YPOGEGzMMqI!%~PjISPOMqI! kD YPOGEGzMMqI=~~caOMICRlbVdIA)OXIA?E",
    "GAbVdIA)OXIA(PROSGEGzMMqI!~~OXIA(DASIA!;q QUAD*M QUAD*NmPACE+MmPACE,xvE-Pj-EMmPACE_FOUR-Pj-",
    "EMmPACE^SIX-Pj-EMmPACE]FIGUvmPACE<PUNCTUAslmPACE^xhmPACE:tIRmPACE:ZjO WIDxmPACE)Nl-JOhj:JOh",
    "j^iFT-TO-Rf MdK_Rf-TO-iFyMdK_HYPHq*Nl-BvAKhG HYPHq|FIGURuDASH;q DASH*M DASH+HORIZlTe Bd>DOU",
    "Bi VjsCe LhE=Lr LhE?iFTmhGi QUOTAsl MdK*~RfmhGi QUOTAsl MdK+~ShGi Lr-9 QUOTAsl MdK!~HIGH-vV",
    "jSED-9 QUOTAsl MdK^~iFyDOUBi QUOTAsl MdK*~Rf DOUBi QUOTAsl MdK+~DOUBi Lr-9 QUOTAsl MdK!~HIG",
    "H-vVjSED-9 QUOTAsl MdK]~AGGj)OUBi DAGGj=BULiT*TRIkGULd BULiT^luDOyiADj>TWO DOyiADj>HORIZlTe",
    " ELLIPSIS_YPHqAsl POhT^LhEmEPdATOR>PdAGzPHmEPdATOR|iFT-TO-Rf EMBEDDhG&~Rf-TO-iFyEMBEDDhG&~P",
    "OP DIvCslegATThG*~iFT-TO-Rf OVjRIDE%~Rf-TO-iFyOVjRIDE%~NdRr NO-BvAKmPACE$~Pj MILimw:Tq xOUS",
    "kDmw!~RIME)DOUBi PRIME<TRIPi PRIME<vVjSpPRIME)DOUBi PRIME<TRIPi PRIME$~CdET)ShGi iFT-POhThG",
    " kGi QUOTAsl MdK>~Rf-POhThG kGi QUOTAsl MdK%~~vFjqCuMdK>DOUBi EXCLAMAsl MdK&~hTjROBkG;OVjLh",
    "E,UNDjsE,CHdACTj sE<dEyhSjsl POhT$~ASTjISM,HYPHq BULiT=FzCslmLASH>iFTmQUduBzCKETbQUILL:~Rfm",
    "QUduBzCKETbQUILL;~DOUBi QUESsl MdK!~QUESsl EXCLAMAsl MdK)~EXCLAMAsl QUESsl MdK)~sRlIkmw ET]",
    "vVjSpPILCRrmw$~BLACK iFTWdDS BULiT]RfWdDS BULiT&~Lr ASTjISK<vVjSEDmEMICOLl_CLOSuUP,TWO ASTj",
    "ISKS ewpVjsCeLY<~COMMjCIe MhUSmw$~SWUNG DASH:hVjTpUNDjsE^FLrj PUNCTUAsl MdK&~xvuDOyPUNCTUAs",
    "l$~QUADRUPi PRIME?FOUR DOyPUNCTUAsl|IVuDOyPUNCTUAsl!~TWO DOyPUNCTUAsl|FOUR DOyMdK=DOTTpCROS",
    "S<TRICOLl,VjsCe FOUR DOTS_MEDIUM MAxEMAsCemPACE)~WORD JOhj;FUNCsl APPLICAsl!~hVISIBi sMES)S",
    "EPdATOR.PLUS!>iFT-TO-Rf ISOLATE$~Rf-TO-iFyISOLATE$~FIRSTmTRlG ISOLATE!~POP DIvCsle ISOLATE&",
    "~hHIBITmYMMETRICmWAPPhG*~ACsVATEmYMMETRICmWAPPhG+~hHIBIydABICgmtPhG+~ACsVATudABICgmtPhG,~NA",
    "sle DIGITmtPES!~OMhe DIGITmtPES!~SUPjSCRIPyZjO(LAThmMeaI!!!~FOUR&IVE(SIX%EVq)Ef)NhE(PLUSmw.",
    "MhUS)EQUeSmw;iFyPdqxESIS]Rf PdqxESIS^LAThmMeaN:~BSCRIPyZjO(lE&TWO%HvE)FOUR&IVE(SIX%EVq)Ef)N",
    "hE(PLUSmw.MhUS)EQUeSmw;iFyPdqxESIS]Rf PdqxESIS!+~LAThmUBSCRIPTmMeaA$E$O$X$SCHWA)H$K$L$M$N$P",
    "$S$T!!!:~EURO-CURRqCYmw_COLlmw.RUZEIROmw=FRqCH FRkCmw^LIzmw.MILLmw.NAIzmw:PESETAmw;RUPEEmw:",
    "Wlmw,NEWmHEQELmw?DlGmw.EUROmw.KIPmw,TUGRIKmw;DzCHMAmw<GjMk PqNYmw^PESOmw.GUdkImw<AUSTRemw<H",
    "RYVNIAmw<CEDImw.LIVRuTOURNOISmw|SPESMILOmw=TqGEmw:hDIk RUPEEmw^TURKISH LIzmw^NORDIC MdKmw]M",
    "kATmw:RUBimw:LdImw.BITCOhmw<SOMmw!!!!!!!!!!!!!!!,COMBhhG iFyHdPOln_Rf HdPOln|LlG VjsCe LhuO",
    "VjLAY*~SHORyVjsCe LhuOVjLAY+~ksCLOCKWISudRrn)~CLOCKWISudRrn$~iFydRrn]Rf dRrn?NG OVjLAY<CLOC",
    "KWISuRhG OVjLAY%~ksCLOCKWISuRhG OVjLAY*~xvuDOTSn]FOUR DOTSn?qCLOShG CIRCi*SQUdE*DIAMlD+CIRC",
    "i BACKSLASH*~iFyRf dRrn%~qCLOShGmCvq*KEYCAP*UPWdD POhThG TRIkGi>~vVjSEmOLIDUS OVjLAY&~DOUBi",
    " VjsCemTROKuOVjLAY:~kNUITYmYMBOL>TRIPi UNDjDOT?WIDuBRIDGEn^iFTWdDS dRr OVjLAY%~lG DOUBimOLI",
    "DUS OVjLAY+~RfWdDS HdPOlbBdB DrNWdDS_~iFTWdDS HdPOlbBdB DrNWdDS=~ dRr BELr]Rf dRr BELr^ASTj",
    "ISKn!!!!!!!!!!!!!!!(~ACCOUNyOF.DDvSSpTO xEmUBJECT(~DOUBi-STRUCK cL C%~EGvuCELSIUS>CqTRuLhEm",
    "YMBOL^duOF)DA UNA,EUiR ClSTkT>SCRUPi+DEGvuFAHRqHEIT^SCRIPTmMeL G+cL H]BLACK-iTTj cL H%~DOUB",
    "i-STRUCK cL H&~PLkCK ClSTkT! OVj TWO PI+~SCRIPycL I]BLACK-iTTj cL I%~SCRIPycL L.SMeL L>L B ",
    "BdmYMBOL>DOUBi-STRUCK cL N&~NUMjOmw;SOUND vCORDhG COPYRf(~CRIPycL P]DOUBi-STRUCK cL P$Q&~SC",
    "RIPycL R]BLACK-iTTj cL R%~DOUBi-STRUCK cL R&~PvSCRIPsl TAKE^vSPlSE,SjVICuMdK<TEiPHlEmw=zDuM",
    "dKmw?VjSICi,DOUBi-STRUCK cL Z&~OUNCEmw.HMmw,hVjTpOHMmw^BLACK-iTTj cL Z%~TURNpGvEKmMeaIOTA:~",
    "KELVhmw;kGSTROMmw=SCRIPycL B]BLACK-iTTj cL C%~ESsMATEDmYMBOL]SCRIPTmMeL E+cL E$F]TURNpcL F]",
    "SCRIPycL M.SMeL O>eEFmYMBOL;BETmYMBOL:GIMELmYMBOL<DeETmYMBOL<hFORMAslmOURCE_ROTATpcL Q^FACS",
    "IMIimw>DOUBi-STRUCKmMeL PI%GAMMA;cL GAMMA)PI:N-dYmUMMAsl.~TURNEDmkS-SjIF cL G$L+~vVjSEDmkS-",
    "SjIF cL L.~TURNEDmkS-SjIF cL Y+~DOUBi-STRUCK ITeIC cL D.SMeL D$E$I$J,~PROPjTY LhE=TURNpAMPj",
    "SkD]Pjmw,AKsESELSKAB<TURNEDmMeL F>SYMBOL FORmAMdITkmOURCE+~VULGd FzCsl lEmEVqx+Nhx)Tqx(HIRD",
    ".TWO xIRDS:luFIFx.TWO FIFxS.HvuFIFxS<FOUR FIFxS;lEmIXx.FIVEmIXxS;luEfH:xvuEfHS=FIVuEfHS<SEV",
    "q EfHS.~FzCsl NUMjATOR lE%~ROMk NUMje lE&TWO%HvE)FOUR&IVE(SIX%EVq)Ef)NhE(Tq&EiVq*TWELVE*FIF",
    "TY)luHUNDvD;FIVuHUNDvD<luxOUSkD*~SMeL ROMk NUMje lE&TWO%HvE)FOUR&IVE(SIX%EVq)Ef)NhE(Tq&EiVq",
    "*TWELVE*FIFTY)luHUNDvD;FIVuHUNDvD<luxOUSkD<~ROMk NUMje luxOUSkD C D]FIVuxOUSkD=Tq xOUSkD<vV",
    "jSpluHUNDvD>~LAThmMeavVjSpC.~ROMk NUMjemIX LATEg=FIFTY EdLYg:xOUSkD>luHUNDRpxOUSkD>~VULGd F",
    "zCsl ZjO xIRDS+~TURNpDIGIyTWO%HvE!!!!_iFTWdDS dRr?UPWdDS dRr=RfWdDS dRr]DrNWdDS dRr?iFyRf d",
    "Rr]UP DrN dRr=NORx WESydRr:EASydRr]SOUx EASydRr:WESydRr]iFTWdDS dRrbSTROKE+~RfWdDS dRrbSTRO",
    "KE,~iFTWdDS WAVudRr!~RfWdDS WAVudRr$~iFTWdDS TWO HEADpdRr*~UPWdDS TWO HEADpdRr(~RfWdDS TWO ",
    "HEADpdRr+~DrNWdDS TWO HEADpdRr*~iFTWdDS dRrbTAIL)~RfWdDS dRrbTAIL*~iFTWdDS dRr FROM Bd(~UPW",
    "dDS dRr FROM Bd%~RfWdDS dRr FROM Bd)~DrNWdDS dRr FROM Bd(~UP DrN dRrbBASE&~iFTWdDS dRrbHOOK",
    ")~RfWdDS dRrbHOOK*~iFTWdDS dRrbLOOP)~RfWdDS dRrbLOOP*~iFyRf WAVudRr:dRrbSTROKE,~DrNWdDS ZIG",
    "ZAG dRr%~UPWdDS dRrbsP iFTWdDS.RfWdDS=~DrNWdDS dRrbsP iFTWdDS.RfWdDS?~RfWdDS dRrbCORNj DrNW",
    "dDS_~DrNWdDS dRrbCORNj iFTWdDS^~ksCLOCKWISuTOPmEMICIRCi dRr>~CLOCKWISuTOPmEMICIRCi dRr:~NOR",
    "x WESydRr TO LlG Bd,~iFTWdDS dRr TO Bd OVj RfWdDS dRr TO Bd;~~ksCLOCKWISuOPq CIRCi dRr;~CLO",
    "CKWISuOPq CIRCi dRr+~iFTWdDS HdPOlbBdB UPWdDS+DrNWdDS^~UPWdDS HdPOlbBdB RfWdDS:iFTWdDS?~RfW",
    "dDS HdPOlbBdB UPWdDS+DrNWdDS_~DrNWdDS HdPOlbBdB RfWdDS:iFTWdDS^~RfWdDS dRr OVj iFTWdDS dRr^",
    "~UPWdDS dRr iFTWdDS OF DrNWdDS dRr%~~iFTWdDS dRr OVj RfWdDS dRr+~PAIRpdRrS&~UPWdDS PAIRpdRr",
    "S$~RfWdDS PAIRpdRrS(~DrNWdDS PAIRpdRrS&~iFTWdDS HdPOl OVj RfWdDS HdPOl$~~RfWdDS HdPOl OVj i",
    "FTWdDS HdPOl$~~iFTWdDS DOUBi dRrbSTROKE:~ Rf DOUBi dRrbSTROKE?~RfWdDS DOUBi dRrbSTROKE?~iFT",
    "WdDS DOUBi dRr%~UPWdDS DOUBi dRr!~RfWdDS DOUBi dRr&~DrNWdDS DOUBi dRr%~iFyRf DOUBi dRr&~UP ",
    "DrN DOUBi dRr!~NORx WESyDOUBi dRr^EASyDOUBi dRr&~SOUx EASyDOUBi dRr^WESyDOUBi dRr&~iFTWdDS ",
    "TRIPi dRr%~RfWdDS TRIPi dRr&~iFTWdDSmQUIGGi dRr(~RfWdDSmQUIGGi dRr)~UPWdDS dRrbDOUBimTROKE<",
    "~DrNWdDS dRrbDOUBimTROKE>~iFTWdDS DASHpdRr%~UPWdDS DASHpdRr!~RfWdDS DASHpdRr&~DrNWdDS DASHp",
    "dRr%~iFTWdDS dRr TO Bd%~RfWdDS dRr TO Bd&~iFTWdDS WHITudRr$~UPWdDS WHITudRr|RfWdDS WHITudRr",
    "%~DrNWdDS WHITudRr$~UPWdDS WHITudRr FROM Bd,l PEDESTe!bHORIZlTe Bd>VjsCe Bd?~DOUBi dRr! l P",
    "EDESTe_~RfWdDS WHITudRr FROM WeL<~NORx WESydRr TO CORNj*~SOUx EASydRr TO CORNj*~UP DrN WHIT",
    "udRr|Rf dRrbSMeL CIRCi.~DrNWdDS dRr iFTWdDS OF UPWdDS dRr%~~xvuRfWdDS dRrS&~iFTWdDS dRrbVjs",
    "CemTROKE]~RfWdDS dRrbVjsCemTROKE^~iFyRf dRrbVjsCemTROKE=~WdDS dRrbDOUBi VjsCemTROKE&~~RfWdD",
    "S dRrbDOUBi VjsCemTROKE(~~iFyRf dRrbDOUBi VjsCemTROKE!~~WdDS OPq-HEADpdRr+~RfWdDS OPq-HEADp",
    "dRr,~iFyRf OPq-HEADpdRr,~FOR eL+COMPiMqT:Pdse DIFFjqse!~xjuEXISTS*DOES NOyEXIST!~EMPTYmET.h",
    "CvMqT.NABLA)EiMqyOF:NOyk EiMqyOF^SMeL EiMqyOF]ClTAhS AS MEMBj_DOES NOyClTAh AS MEMBj*~SMeL ",
    "ClTAhS AS MEMBj(~qD OF PROOF<N-dY PRODUCT+COPRODUCT.SUMMAsl?MhUSmw)-OR-PLUSmw_DOyPLUS+IVISI",
    "lmLASH>SEyMhUS.ASTjISK OPjATOR^RhG OPjATOR=BULiyOPjATOR?SQUduROOT;CUBuROOT.FOURx ROOT;PROPO",
    "Rsle TO?hFhITY,Rf kGi;kGi)MEASURpkGi>SPHjICe kGi?DIVIDES*OES NOyDIVIDE?PdeiL TO;NOyPdeiL TO",
    "?LOGICe kD&OR:hTjSECsl<UNIl)hTEGRe,DOUBi hTEGRe?TRIPi hTEGRe?ClTOUR hTEGRe]SURFACuhTEGRe]VO",
    "LUMuhTEGRe?CLOCKWISuhTEGRe,ClTOUR hTEGRe*~ksCLOCKWISuClTOUR hTEGRe:~xjEFOv.BECAUSE+zsO)PROP",
    "ORsl:DOyMhUS.EXCESS*GEOMETRIC PROPORsl!~HOMOxEsC:sLDuOPjATOR>vVjSpsLDE>hVjTpLAZYm?ShuWAVE.W",
    "vAx PRODUCT>NOysLDE.MhUS sLDE;ASYMPTOsCeLY EQUe TO&~NOyASYMPTOsCeLY EQUe TO+~APPROXIMATELY ",
    "EQUe TO,BUyNOyACTUeLY EQUe TO|~NEIxj APPROXIMATELY NOR ACTUeLY EQUe TO&~~eMOSyEQUe TO?NOyeM",
    "OSyEQUe TO|eMOSyEQUe OR EQUe TO(~TRIPi sLDE<eL EQUe TO<EQUIVeqyTO=GEOMETRICeLY EQUIVeqyTO+~",
    "DIFFjqCuBETWEq_APPROACHES xuLIMIT!~GEOMETRICeLY EQUe TO%~APPROXIMATELY EQUe TO OR xuIMAGuOF",
    "_~IMAGuOF OR APPROXIMATELY EQUe TO>~COLl EQUeS<EQUeS COLl<RhG h EQUe TO;EQUe TO=CORvSPlDS T",
    "O>ESsMATES,QUIkGULd TO>STd EQUeS;DELTA EQUe TO>EQUe TO BY DEFhIsl%~MEASURpBY;QUESslpEQUe TO",
    "|NOyEQUe TO<IDqsCe TO<NOyIDqsCe TO]STRICTLY EQUIVeqyTO%~iSS-xk OR EQUe TO$~GvATj-xk OR EQUe",
    " TO(~iSS-xk OVj EQUe TO&~GvATj-xk OVj EQUe TO*~iSS-xk BUyNOyEQUe TO*~GvATj-xk BUyNOyEQUe TO",
    ".~MUCH iSS-xk.GvATj-xk^BETWEq+NOyEQUIVeqyTO=iSS-xk.GvATj-xk?EIxj iSS-xk NOR EQUe TO%~GvATj-",
    "xk NOR EQUe TO=~iSS-xk OR EQUIVeqyTO*~GvATj-xk OR EQUIVeqyTO.~NEIxj iSS-xk NOR EQUIVeqyTO+~",
    "GvATj-xk NOR EQUIVeqyTO_~iSS-xk OR GvATj-xk)~GvATj-xk OR iSS-xk)~NEIxj iSS-xk NOR GvATj-xk*",
    "~GvATj-xk NOR iSS-xk>~PvCEDES,SUCCEEDS,PvCEDES OR EQUe TO!~SUCCEEDS OR EQUe TO!~PvCEDES OR ",
    "EQUIVeqyTO)~SUCCEEDS OR EQUIVeqyTO)~DOES NOyPvCEDE+SUCCEED]SUBSEyOF+PjSEyOF;NOyAmUBSEyOF+Pj",
    "SEyOF^SUBSEyOF OR EQUe TO|PjSEyOF OR EQUe TO&~NEIxj AmUBSEyOF NOR EQUe TO!~PjSEyOF NOR EQUe",
    " TO>~SUBSEyOFbNOyEQUe TO)~PjSEyOFbNOyEQUe TO.~MULsSET! MULsPLICAsl>UNIl>SQUduIMAGuOF,ORIGhe",
    " OF;IMAGuOF OR EQUe TO!~ORIGhe OF OR EQUe TO&~CAP%UP:CIRCiD PLUS(MhUS)sMES)DIVISIlmLASH=OyO",
    "PjATOR<RhG OPjATOR=ASTjISK OPjATOR^EQUeS*DASH<SQUdpPLUS(MhUS)sMES)DOyOPjATOR!~Rf TACK:iFyTA",
    "CK.DrN TACK.UP TACK+ASSjsl.MODELS*TRUE(FORCES*TRIPi VjsCe Bd Rf TURNSsi?~DOUBi VjsCe Bd DOU",
    "Bi Rf TURNSsi!~~ES NOyPROVE>NOyTRUE,DOES NOyFORCE>NEGATpDOUBi VjsCe Bd DOUBi Rf TURNSsi:~~P",
    "vCEDES UNDj vLAsl&~SUCCEEDS UNDj vLAsl&~NORMemUBGROUP OF_ClTAhS AS NORMemUBGROUP+~NORMemUBG",
    "ROUP OF OR EQUe TO:~ClTAhS AS NORMemUBGROUP OR EQUe TO|~ORIGhe OF;IMAGuOF,MULsMAP,HjMIsk Cl",
    "JUGATuMATRIX*~hTjCeATE;XOR&NkD&OR&Rf kGibdC>TRIkGi>N-dY LOGICe kD&OR:hTjSECsl<UNIl;DIAMlD O",
    "PjATOR?OyOPjATOR<STd OPjATOR=DIVISIl sMES>BrsE*iFyNORMe FACTORmEMIDIvCyPRODUCT^~Rf NORMe FA",
    "CTORmEMIDIvCyPRODUCT_~iFTmEMIDIvCyPRODUCT&~RfmEMIDIvCyPRODUCT&~EVjSpsLDuEQUeS$~CURLY LOGICe",
    " OR%kD^DOUBimUBSET(PjSET,hTjSECsl<UNIl<PITCHFORK.EQUe kD PdeiL TO$~iSS-xkbDOT_GvATj-xkbDOT$",
    "~VjY MUCH iSS-xk.GvATj-xk%~iSS-xk EQUe TO OR GvATj-xk>~GvATj-xk EQUe TO OR iSS-xk>~EQUe TO ",
    "OR iSS-xk.GvATj-xk<PvCEDES,SUCCEEDS!~DOES NOyPvCEDuOR EQUe]SUCCEpOR EQUe)~NOTmQUduIMAGuOF O",
    "R EQUe TO!~ORIGhe OF OR EQUe TO>~SQUduIMAGuOF OR NOyEQUe TO(~ORIGhe OF OR NOyEQUe TO>~iSS-x",
    "k BUyNOyEQUIVeqyTO;~GvATj-xk BUyNOyEQUIVeqyTO>~PvCEDES BUyNOyEQUIVeqyTO:~SUCCEEDS BUyNOyEQU",
    "IVeqyTO:~NOyNORMemUBGROUP OF%~DOES NOyClTAh AS NORMemUBGROUP?~NOyNORMemUBGROUP OF OR EQUe T",
    "O>~DOES NOyClTAh AS NORMemUBGROUP OR EQUe(~~VjsCe ELLIPSIS^MIDLhuHORIZlTe ELLIPSIS+~UP Rf D",
    "IAGle ELLIPSIS*~DrN Rf DIAGle ELLIPSIS,~EiMqyOFbLlG HORIZlTemTROKE%~VjsCe Bd AyqD OF HORIZl",
    "TemTROKE]~~SMeL EiMqyOFbVjsCe Bd AyqD OF HORIZlTemTROKE%~~~EiMqyOFbDOTn.OVjBd&~SMeL EiMqyOF",
    "bOVjBd.~EiMqyOFbUNDjBd,TWO HORIZlTemTROKES_~ClTAhSbLlG HORIZlTemTROKE%~VjsCe Bd AyqD OF HOR",
    "IZlTemTROKE>~~SMeL ClTAhSbVjsCe Bd AyqD OF HORIZlTemTROKE!~~~ClTAhSbOVjBd$~SMeL ClTAhSbOVjB",
    "d+~Z NOTAsl BAG MEMBjSHIP)~DIAMETjmw=EiCTRIC dRr>HOUSE)UP dRrHEAD<DrN dRrHEAD>PROJECsVE.jSP",
    "ECsVE;WAVY LhE.iFyCEILhG<Rf CEILhG=iFyFLOOR:Rf FLOOR;BOTTOM Rf CROP:iFyCROP]TOP Rf CROP:iFy",
    "CROP=vVjSpNOTmw^SQUduLOZqGE>dC&SEGMqT)CTOR*TEiPHluvCORDj_POSIsl hDICATOR_VIEWDATAmQUdE?PLAC",
    "uOF hTjESTmw%~TURNpNOTmw?WATCH)HOURGLASS.TOP iFyCORNj;Rf CORNj]BOTTOM iFyCORNj;Rf CORNj|TOP",
    " HeF hTEGRe^BOTTOM HeF hTEGRe!~FRrN)SMIi)UP dRrHEAD BETWEq TWO HORIZlTe BdS!~~OPsl KEY:jASu",
    "TO xuRf_X h A vCTkGi BOX!~KEYBOdD,iFT-POhThG kGi BzCKET+~Rf-POhThG kGi BzCKET,~jASuTO xuiFT",
    "^BqZquRhG<CYLhDRICITY<eL dOUND-PROFIi_SYMMETRY,TOTe RUNOUT<DIMqSIl ORIGh]ClICe TAPj=SLOPE)C",
    "OUNTjBOv(ShK;APL FUNCslemYMBOL I-BEAM*SQUISH QUAD;QUAD EQUe)DIVIDE(AMlD+JOT&CIRCi;CIRCimsi)",
    "JOT:SLASH Bd.BACKSLASH Bd=QUADmLASH)BACKSLASH.iSS-xk.GvATj-xk^iFTWdDS VkE>RfWdDS VkE?QUAD i",
    "FTWdDS dRr?RfWdDS dRr$~CIRCi BACKSLASH]DrN TACK UNDjBd^ELTAmsi;QUAD DrN CdET.ELTA:DrN TACK ",
    "JOT=UPWdDS VkE<QUAD UPWdDS dRr_UP TACK OVjBd?DELmsi.QUAD UP CdET,DEL,UP TACK JOT;DrNWdDS Vk",
    "E>QUAD DrNWdDS dRr_OTuUNDjBd>DELTA UNDjBd=IAMlD UNDjBd]JOyUNDjBd<CIRCi UNDjBd?UPmHOuJOT;QUO",
    "TuQUAD:CIRCimTd;QUAD COLl:UP TACK DIAjESIS^DEL DIAjESIS=STd DIAjESIS>JOyDIAjESIS=CIRCi DIAj",
    "ESIS]DrNmHOEmsi?iFTmHOEmsi?sLDuDIAjESIS?GvATj-xk DIAjESIS%~COMMA Bd.DEL sLDE.ZILDE)Ssi sLDE",
    ":EMICOLl UNDjBd_QUAD NOyEQUe.QUESsl=DrN CdEysLDE]UP CdEysLDE>IOTA(RHO&OMEGA)ePt UNDjBd>EPSI",
    "Ll UNDjBd]IOTA UNDjBd=OMEGA UNDjBd>ePt+~NOyCHECK MdK>Rf kGibDrNWdDS ZIGZAG dRr|~SHOULDjpOPq",
    " BOX|BELLmYMBOL;VjsCe LhEbMIDDi DOT.~hSjslmYMBOL]ClThUOUS UNDjLhEmYMBOL+~DISClThUOUS UNDjLh",
    "EmYMBOL:~EMPtSISmYMBOL?COMPOSIslmYMBOL_WHITEmQUdEbCqTRuVjsCe LhE_~qTjmYMBOL<eTjNAsVuKEYmYMB",
    "OL%~HELMmYMBOL;CIRCiD HORIZlTe BdbNOTCH)~TRIkGi DrN$~BROKq CIRCibNORxWESydRr>~UNDOmYMBOL;Ml",
    "OSTABimYMBOL^HYSTjESISmYMBOL^OPq-CIRCUIT-OUTPUyH-TYPEmYMBOL=L-TYPEmYMBOL=~PASSIVE-PULL-DrN-",
    "OUTPUTmYMBOL_UP-OUTPUTmYMBOL.~DIvCyCURRqTmYMBOLg TWO:~SOFTWdE-FUNCslmYMBOL(~APL FUNCslemYMB",
    "OL QUAD*~DECIMemEPdATOR KEYmYMBOL,~PvVIOUS PAGE=NEXyPAGE.PRhTmCvqmYMBOL|CidmCvqmYMBOL|iFyPd",
    "qxESIS UPPj HOOK:EXTqSIl.Lrj HOOK+~Rf PdqxESIS UPPj HOOK:EXTqSIl.Lrj HOOK,~iFTmQUduBzCKEyUP",
    "Pj CORNj<EXTqSIl.Lrj CORNj<~RfmQUduBzCKEyUPPj CORNj<EXTqSIl.Lrj CORNj=~iFyCURLY BzCKEyUPPj ",
    "HOOK:MIDDi PIECE<Lrj HOOK.~CURLY BzCKEyEXTqSIl&~Rf CURLY BzCKEyUPPj HOOK:MIDDi PIECE<Lrj HO",
    "OK:~hTEGRe EXTqSIl_HORIZlTe LhuEXTqSIl)~UPPj iFyOR Lrj Rf CURLY BzCKETmECsl$~~Rf OR Lrj iFy",
    "CURLY BzCKETmECsl+~~SUMMAsl TOP&BOTTOM]TOPmQUduBzCKET_BOTTOMmQUduBzCKET! OVj TOPmQUduBzCKET",
    ")~~zDICemYMBOL BOTTOM$~iFyVjsCe BOX LhE%~Rf VjsCe BOX LhE&~HORIZlTemCk LhE-1$3$7$9%~DqsSTRY",
    "mYMBOL Lf VjsCe kD TOP Rf.BOTTOM Rf]WIx CIRCi!~DrN kD HORIZlTebCIRCi;~UP kD HORIZlTebCIRCi.",
    "~VjsCebTRIkGi%~DrN kD HORIZlTebTRIkGi=~UP kD HORIZlTebTRIkGi;~VjsCe kD WAVE^DrN kD HORIZlTe",
    "bWAVE.~UP kD HORIZlTebWAVE+~DrN kD HORIZlTe|UP kD HORIZlTe^VjsCe kD TOP iFT,BOTTOM iFT+~~SQ",
    "UduFOOT;vTURNmYMBOL=EJECTmYMBOL<VjsCe LhuEXTqSIl&~METRICe BvVE)LlG OVjmHORT?SHORyOVj LlG?Ll",
    "G OVj TWOmHORTS!~TWOmHORTS OVj LlG.JOhED]RISEME*ETzSEME.PqTASEME_Edx GROUND<FUSE(TOP PdqxES",
    "IS?BOTTOM PdqxESIS_TOP CURLY BzCKET^BOTTOM CURLY BzCKET!~TOP TORTOISEmHELL BzCKET*~BOTTOM T",
    "ORTOISEmHELL BzCKET.~WHITuTzPEZIUM?BqZquRhGbCIRCi(~STzfNESS<FLATNESS,AC CURRqT:EiCTRICe hTj",
    "SECsl&~DECIMe EXPlqTmYMBOL&~BLACK Rf-POhThG DOUBi TRIkGi:~iFT-POhThG DOUBi TRIkGi.~UP-POhTh",
    "G DOUBi TRIkGi+~DrN-POhThG DOUBi TRIkGi.~Rf-POhThG DOUBi TRIkGibVjsCe Bd,~~iFT-POhThG DOUBi",
    " TRIkGibVjsCe Bd+~~Rf-POhThG TRIkGibDOUBi VjsCe Bd>~~edM CLOCK;STOPWATCH.sMj CLOCK;HOURGLAS",
    "SbFLrhGmkD+~BLACK MEDIUM iFT-POhThG TRIkGi%~Rf-POhThG TRIkGi&~UP-POhThG TRIkGi!~DrN-POhThG ",
    "TRIkGi?~DOUBi VjsCe Bd|BLACKmQUduFORmTOP?CIRCi FOR vCORD&~PrjmYMBOL*l-OFFmYMBOL;mYMBOL.SiEP",
    "mYMBOL_OBSjVj EYEmYMBOL|SYMBOL FOR NULL(STdyOF HEADhG+TEXT=qD OF TEXT&RkSMISSIl^QUIRY+ACKNr",
    "iDGE;BELL&ACKSPACE.HORIZlTe TABULAsl$~LhuFEED.VjsCe TABULAsl|FORM FEED.CdRIAGuvTURN?SHIFyOU",
    "T&h,DATA LhK ESCAPE?EVICuClTROL lE&TWO%HvE)FOUR|NEGAsVuACKNriDGE!~SYNCHRlOUS IDi]qD OF TRkS",
    "MISSIl BLOCK)~CkCEL*qD OF MEDIUM=SUBSsTUTE:ESCAPE*FIimEPdATOR>GROUPmEPdATOR?vCORDmEPdATOR]U",
    "NITmEPdATOR>SPACE)DEiTE^BLkKmYMBOL<OPq BOX,SYMBOL FOR NEWLhE+DEiTEg TWO?SUBSsTUTEg TWO"]),
   (9280,
   ["!OCR HOOK(CtIR)FORK(hVjTpFORK=BELyBUCKi:r sE*RkCH BkK IDqsFICAsl*~AMOUNyOF CHECK?DASH(CUSTO",
    "Mj ACCOUNyNUMBj&~DOUBi BACKSLASH"]),
   (9312,
   ["!CIRCiD DIGIylE&TWO%HvE)FOUR&IVE(SIX%EVq)Ef)NhE:NUMBj Tq&EiVq*TWELVE)HIRTEq,FOURTEq+IFTEq+S",
    "IXTEq*EVqTEq.EfEq,NhETEq,TWqTY$~PdqxESIZpDIGIylE&TWO%HvE)FOUR&IVE(SIX%EVq)Ef)NhE:NUMBj Tq&E",
    "iVq*TWELVE)HIRTEq,FOURTEq+IFTEq+SIXTEq*EVqTEq.EfEq,NhETEq,TWqTY+~DIGIyluFULLmTOP=TWO FULLmT",
    "OP<HvuFULLmTOP?FOUR FULLmTOP=IVuFULLmTOP>SIX FULLmTOP<EVq FULLmTOP?Ef FULLmTOP?NhuFULLmTOP!",
    "~NUMBj Tq FULLmTOP=EiVq FULLmTOP]TWELVuFULLmTOP?HIRTEq FULLmTOP_FOURTEq FULLmTOP^IFTEq FULL",
    "mTOP^SIXTEq FULLmTOP]EVqTEq FULLmTOP|EfEq FULLmTOP_NhETEq FULLmTOP_TWqTY FULLmTOP&~PdqxESIZ",
    "pLAThmMeaA$B$C$D$E$F$G$H$I$J$K$L$M$N$O$P$Q$R$S$T$U$V$W$X$Y$Z>~CIRCiD LATh caA$B$C$D$E$F$G$H",
    "$I$J$K$L$M$N$O$P$Q$R$S$T$U$V$W$X$Y$Z]SMeaA$B$C$D$E$F$G$H$I$J$K$L$M$N$O$P$Q$R$S$T$U$V$W$X$Y$",
    "Z!~DIGIyZjO_NEGAsVuCIRCiD NUMBj EiVq*TWELVE)HIRTEq,FOURTEq+IFTEq+SIXTEq*EVqTEq.EfEq,NhETEq,",
    "TWqTY:~DOUBi CIRCiD DIGIylE&TWO%HvE)FOUR&IVE(SIX%EVq)Ef)NhE:NUMBj Tq)~NEGAsVuCIRCiD DIGIyZj",
    "O+~BOX DzWhGS Lf HORIZlTe]HEAVY HORIZlTe]Lf VjsCe>HEAVY VjsCe>Lf TRIPi DASH HORIZlTe,~HEAVY",
    " TRIPi DASH HORIZlTe,~Lf TRIPi DASH VjsCe*~HEAVY TRIPi DASH VjsCe*~Lf QUADRUPi DASH HORIZlT",
    "e;~HEAVY QUADRUPi DASH HORIZlTe;~Lf QUADRUPi DASH VjsCe.~HEAVY QUADRUPi DASH VjsCe.~Lf DrN ",
    "kD Rf!~DrN Lf kD Rf HEAVY$~HEAVY kD Rf Lf*~HEAVY DrN kD Rf!~Lf DrN kD iFT|DrN Lf kD iFyHEAV",
    "Y!~HEAVY kD iFyLf)~HEAVY DrN kD iFT|Lf UP kD Rf_UP Lf kD Rf HEAVY$~HEAVY kD Rf Lf(~HEAVY UP",
    " kD Rf_Lf UP kD iFT^UP Lf kD iFyHEAVY!~HEAVY kD iFyLf&~HEAVY UP kD iFT^Lf VjsCe kD Rf(~VjsC",
    "e Lf kD Rf HEAVY:~UP HEAVY kD Rf DrN Lf.~DrN HEAVY kD Rf UP Lf.~VjsCe HEAVY kD Rf Lf:~DrN L",
    "f kD Rf UP HEAVY.~UP Lf kD Rf DrN HEAVY.~HEAVY VjsCe kD Rf(~Lf VjsCe kD iFT&~VjsCe Lf kD iF",
    "yHEAVY.~UP HEAVY kD iFyDrN Lf,~DrN HEAVY kD iFyUP Lf,~VjsCe HEAVY kD iFyLf.~DrN Lf kD iFyUP",
    " HEAVY,~UP Lf kD iFyDrN HEAVY,~HEAVY VjsCe kD iFT&~Lf DrN kD HORIZlTe(~EFyHEAVY kD Rf DrN L",
    "f;~Rf HEAVY kD iFyDrN Lf;~DrN Lf kD HORIZlTe HEAVY*~HEAVY kD HORIZlTe Lf;~Rf Lf kD iFyDrN H",
    "EAVY;~iFyLf kD Rf DrN HEAVY;~HEAVY DrN kD HORIZlTe)~Lf UP kD HORIZlTe%~EFyHEAVY kD Rf UP Lf",
    ".~Rf HEAVY kD iFyUP Lf.~UP Lf kD HORIZlTe HEAVY*~HEAVY kD HORIZlTe Lf.~Rf Lf kD iFyUP HEAVY",
    ".~iFyLf kD Rf UP HEAVY.~HEAVY UP kD HORIZlTe&~Lf VjsCe kD HORIZlTe,~EFyHEAVY kD Rf VjsCe Lf",
    "?~Rf HEAVY kD iFyVjsCe Lf?~VjsCe Lf kD HORIZlTe HEAVY?~UP HEAVY kD DrN HORIZlTe Lf>~DrN HEA",
    "VY kD UP HORIZlTe Lf>~VjsCe HEAVY kD HORIZlTe Lf?~iFyUP HEAVY kD Rf DrN Lf>~Rf UP HEAVY kD ",
    "iFyDrN Lf>~iFyDrN HEAVY kD Rf UP Lf>~Rf DrN HEAVY kD iFyUP Lf>~DrN Lf kD UP HORIZlTe HEAVY>",
    "~UP Lf kD DrN HORIZlTe HEAVY>~Rf Lf kD iFyVjsCe HEAVY?~iFyLf kD Rf VjsCe HEAVY?~HEAVY VjsCe",
    " kD HORIZlTe.~Lf DOUBi DASH HORIZlTe,~HEAVY DOUBi DASH HORIZlTe,~Lf DOUBi DASH VjsCe*~HEAVY",
    " DOUBi DASH VjsCe*~DOUBi HORIZlTe:VjsCe=WNmhGi kD Rf DOUBi&~DOUBi kD RfmhGi*~UBi DrN kD Rf|",
    "WNmhGi kD iFyDOUBi%~DOUBi kD iFTmhGi)~UBi DrN kD iFT!~UPmhGi kD Rf DOUBi&~DOUBi kD RfmhGi*~",
    "DOUBi UP kD Rf|UPmhGi kD iFyDOUBi%~DOUBi kD iFTmhGi)~DOUBi UP kD iFT_VjsCemhGi kD Rf DOUBi&",
    "~DOUBi kD RfmhGi<~DOUBi VjsCe kD Rf)~VjsCemhGi kD iFyDOUBi%~DOUBi kD iFTmhGi;~DOUBi VjsCe k",
    "D iFT%~WNmhGi kD HORIZlTe DOUBi,~DOUBi kD HORIZlTemhGi;~UBi DrN kD HORIZlTe*~UPmhGi kD HORI",
    "ZlTe DOUBi,~DOUBi kD HORIZlTemhGi;~DOUBi UP kD HORIZlTe(~VjsCemhGi kD HORIZlTe DOUBi,~DOUBi",
    " kD HORIZlTemhGi^~DOUBi VjsCe kD HORIZlTe:~Lf dC DrN kD Rf)iFT=UP kD iFT(Rf]DIAGle UPPj Rf ",
    "TO Lrj iFT|iFyTO Lrj Rf)~CROSS>iFT(UP%Rf)DrN:HEAVY iFT(UP%Rf)DrN:Lf iFykD HEAVY Rf!~UP kD H",
    "EAVY DrN&~HEAVY iFykD Lf Rf!~UP kD Lf DrN]~UPPj HeF BLOCK]Lrj luEfH BLOCK<QUdTj BLOCK^xvuEf",
    "HS BLOCK|HeF BLOCK:FIVuEfHS BLOCK_xvuQUdTjS BLOCK!~SEVq EfHS BLOCK)~FULL BLOCK:iFTmEVq EfHS",
    " BLOCK|xvuQUdTjS BLOCK!~FIVuEfHS BLOCK_HeF BLOCK:xvuEfHS BLOCK|luQUdTj BLOCK=EfH BLOCK$~Rf ",
    "HeF BLOCK]LfmtDE;MEDIUMmtDE<DdKmtDE:UPPj luEfH BLOCK%~Rf luEfH BLOCK%~QUADRkyLrj iFT(Rf;UPP",
    "j iFT! kD Lrj iFykD Lrj Rf!~Rf;UPPj Rf kD Lrj iFT(Rf]~Rf! kD Lrj iFT! kD Lrj Rf;~~BLACKmQUd",
    "E<WHITEmQUdE!bROUNDpCORNjS!~ClTAhhG BLACKmMeLmQUdE%~~SQUdEbHORIZlTe FILL?VjsCe FILL=ORxOGle",
    " CROSStTCH FILL*~UPPj iFyTO Lrj Rf FILL(~Rf TO Lrj iFyFILL:~DIAGle CROSStTCH FILL]~BLACKmMe",
    "LmQUdE_WHITEmMeLmQUdE_BLACK vCTkGi?WHITuvCTkGi?BLACK VjsCe vCTkGi(~WHITuVjsCe vCTkGi(~BLACK",
    " PdeiLOGzM|WHITuPdeiLOGzM|BLACK UP-POhThG TRIkGi*~WHITuUP-POhThG TRIkGi*~BLACK UP-POhThGmMe",
    "L TRIkGi<~WHITuUP-POhThGmMeL TRIkGi<~BLACK Rf-POhThG TRIkGi.~WHITuRf-POhThG TRIkGi.~BLACK R",
    "f-POhThGmMeL TRIkGi?~WHITuRf-POhThGmMeL TRIkGi?~BLACK Rf-POhThG POhTj,~WHITuRf-POhThG POhTj",
    ",~BLACK DrN-POhThG TRIkGi,~WHITuDrN-POhThG TRIkGi,~BLACK DrN-POhThGmMeL TRIkGi>~WHITuDrN-PO",
    "hThGmMeL TRIkGi>~BLACK iFT-POhThG TRIkGi,~WHITuiFT-POhThG TRIkGi,~BLACK iFT-POhThGmMeL TRIk",
    "Gi>~WHITuiFT-POhThGmMeL TRIkGi>~BLACK iFT-POhThG POhTj+~WHITuiFT-POhThG POhTj+~BLACK DIAMlD",
    "=WHITuDIAMlD! ClTAhhG BLACKmMeL DIAMlD(~~FISHEYE+LOZqGE+WHITuCIRCi<DOTTpCIRCi=CIRCibVjsCe F",
    "ILL)~BULLSEYE+LACK CIRCi<CIRCibiFyHeF BLACK?Rf HeF BLACK]Lrj HeF BLACK]UPPj HeF BLACK:Rf QU",
    "ADRkyBLACK*~eL BUyUPPj iFyQUADRkyBLACK)~~iFyHeF BLACK CIRCi%~Rf HeF BLACK CIRCi&~hVjSuBULiT",
    "*WHITuCIRCi!~UPPj HeF hVjSuWHITuCIRCi;~Lrj HeF hVjSuWHITuCIRCi;~UPPj iFyQUADRkyCIRCULd dC*~",
    "Rf QUADRkyCIRCULd dC=~Lrj Rf QUADRkyCIRCULd dC+~iFyQUADRkyCIRCULd dC<~UPPj HeF CIRCi^Lrj He",
    "F CIRCi^BLACK Lrj Rf TRIkGi>iFyTRIkGi|UPPj iFyTRIkGi=Rf TRIkGi*~WHITuBULiT<SQUdEbiFyHeF BLA",
    "CK?Rf HeF BLACK]UPPj iFyDIAGle HeF BLACK:~Lrj Rf DIAGle HeF BLACK&~~WHITEmQUdEbVjsCe BISECT",
    "hG LhE?~UP-POhThG TRIkGibDOT?~UP-POhThG TRIkGibiFyHeF BLACK?Rf HeF BLACK%~~LdGuCIRCi<WHITEm",
    "QUdEbUPPj iFyQUADRkT|Lrj iFyQUADRkT=Rf QUADRkT!~UPPj Rf QUADRkT<~CIRCibUPPj iFyQUADRkT|Lrj ",
    "iFyQUADRkT=Rf QUADRkT!~UPPj Rf QUADRkT_~UPPj iFyTRIkGi=Rf TRIkGi!~Lrj iFyTRIkGi|WHITuMEDIUM",
    "mQUdE|BLACK MEDIUMmQUdE|WHITuMEDIUMmMeLmQUdE)~BLACK MEDIUMmMeLmQUdE)~Lrj Rf TRIkGi!~BLACKmU",
    "NbzYS|CLOUD)UMBvLLA,SNrMk+COMET)BLACKmTd:WHITEmTd:LfNhG.xUNDjSTORM<SUN&ASCqDhG NODE>DESCqDh",
    "G NODE?ClJUNCsl;OPPOSIsl:BLACK TEiPHlE?WHITuTEiPHlE?BeLOyBOX!bCHECK)X^Sesv+UMBvLLAbzh DROPS",
    "(~HOyBEVjAGE<WHITEmHOGI PIECE^BLACKmHOGI PIECE^StMROCK,vVjSpROTATpFLORe HEdyBULiT]~BLACK iF",
    "yPOhThG hDEX|Rf POhThG hDEX*~WHITuiFyPOhThG hDEX|UP POhThG hDEX^Rf POhThG hDEX!~DrN POhThG ",
    "hDEX)~SKULL kD CROSSBlES!~CAUslmw<zDIOACsVEmw]BIOtZdDmw>CADUCEUS,kKH(ORxODOX CROSS>CHI RHO*",
    "ROSS OF LORzhE,JjUSeEM_STd kD CvSCqT^FdSImYMBOL<ADImtKs:tMMj kDmICKi^PEACEmYMBOL<Yh YkG,TRI",
    "GzM FOR HEAVq*LAKE(FIv(xUNDj+WhD&ATj)MOUNTAh,Edx^WHEEL OF DHdMA=ITuFRrNhG FACE=SMILhG FACE_",
    "BLACKmMILhG FACE_WHITEmUNbzYS|FIRSyQUdTj MOl_LASyQUdTj MOl^MjCURY+FEMeEmw;Edx)MeEmw.JUPITj+",
    "SATURN*URkUS*NEPTUNE+PLUTO)dIES)TAURUS*GEMhI*CkCj*iO&VIRGO)LIBz)SCORPIUS+AGITTdIUS;CAPRICOR",
    "N.AQUdIUS,PISCES*WHITuCHESS KhG(QUEq)ROOK(BISHOP*KNf*PAWN]BLACK CHESS KhG(QUEq)ROOK(BISHOP*",
    "KNf*PAWN:SPADEmUIT]WHITuHEdTmUIT:DIAMlDmUIT_BLACK CLUBmUIT?WHITEmPADEmUIT]BLACK HEdTmUIT:DI",
    "AMlDmUIT_WHITuCLUBmUIT?HOTmPRhGS;QUdTj NOTE<EfH NOTE;BEAMpEfH NOTES<SIXTEqx NOTES%~MUSIC FL",
    "ATmw.NATURemw<SHdPmw]WESTmYRIAC CROSS^EASTmYRIAC CROSS^UNIVjSe vCYCLhGmYMBOL*~vCYCLhGmYMBOL",
    " FOR TYPE-1 PLASsCS:2 PLASsCS:3 PLASsCS:4 PLASsCS:5 PLASsCS:6 PLASsCS:7 PLASsCS?GqjIC MATjI",
    "eS_~BLACK UNIVjSe vCYCLhGmYMBOL<~vCYCiD PAPjmYMBOL$~PdseLY-vCYCiD PAPjmYMBOL:~jMkqyPAPjmw!~",
    "WHEELCtIRmYMBOL^DIuFACE-1$2$3$4$5$6:WHITuCIRCibDOyRf.TWO DOTS*~BLACK CIRCibWHITuDOyRf?TWO W",
    "HITuDOTS<~MlOGzM FOR YkG&h]DIGzM FOR GvATj YkG<iSSj Yh%kG;GvATj Yh%~WHITuFLAG:BLACK FLAG:tM",
    "Mj kD PICK?kCHOR*CROSSEDmWORDS>STAFF OF AESCULAPIUS|CeES*eEMBIC+FLrj*GEd(STAFF OF HjMES?ATO",
    "MmYMBOL;FiUR-DE-LIS<OUTLhpWHITEmTd|xvuLhES ClVjGhG Rf)iFT+~WdNhGmw<HIGH VOLTAGEmw^DOUBiD FE",
    "MeEmw;MeEmw^hTjLOCKpFEMeukD MeEmw<~MeukD FEMeEmw?WIxmTROKEmw(kD MeukD FEMeEmw$~~VjsCe MeEbS",
    "TROKEmw:~HORIZlTe MeEbSTROKEmw<~MEDIUM WHITuCIRCi<BLACK CIRCi<SMeL WHITuCIRCi(~dRIAGEmYMBOL",
    "?DIVORCEmYMBOL>UNMdRIpPdTNjSHIPmYMBOL,~COFFh*FUNje URN;NEUTj*CjES)PeLAS*JUNO(VESTA)CHIRl*BL",
    "ACK MOl LILIx^SEXsi)MISEXsi;QUhCUNX,SESQUIQUADzTE=OCCj BeL;BASEBeL,SQUdpKEY;WHITuDzUGHTS Mk",
    "&KhG|BLACK DzUGHTS Mk&KhG|SNrMk WIxOUTmNr|UN BEHhD CLOUD]zh(BLACKmNrMk=xUNDj CLOUD kD zh$~U",
    "RNpWHITEmHOGI PIECE^BLACKmHOGI PIECE(~WHITuDIAMlD hmQUdE&~CROSShG LkES>DISABiD Cd<OPHIUCHUS",
    ".PICK(CdmLIDhG;HELMETbWHITuCROSS&~CIRCiD CROSShG LkES$~thS*NO qTRY,eTjNATulE-WAY iFyWAY TzF",
    "FIC>~BLACK TWO-WAY iFyWAY TzFFIC:~WHITuTWO-WAY iFyWAY TzFFIC:~BLACK iFyLkuMjGE$~WHITuiFyLku",
    "MjGE$~DRIVEmLrmw?HEAVY WHITuDrN-POhThG TRIkGi>~iFyCLOSpqTRY^SQUdEDmesv?FeLhG DIAGle h WHITu",
    "CIRCi h BLACKmQUdE,~~BLACK TRUCK;vSTRICTpiFyqTRY-1$2&~ASTRlOMICemYMBOL FOR URkUS:~HEAVY CIR",
    "CibSTROKukD TWO DOTSn&~~PqTAGzM.Rf-HkDphTjLACpPqTAGzM=~iFT-HkDphTjLACpPqTAGzM<~hVjTpPqTAGzM",
    "_BLACK CROSS lmHIELD$~SHhTOmHRhE=CHURCH)ASTi*HISTORICmITE=GEd WIxOUyHUB+ HkDiS^MAPmYMBOL FO",
    "R LfHOUSE(~OUNTAh,UMBvLLA l GROUND_FOUNTAh+LAG h HOi;jRY)SAILBOAT+QUduFOUR CORNjS_KIj)ICEmK",
    "ATE.PjSlbBeL]TqT(JAPkESuBkKmYMBOL!~HEADSTluGzVEYdDmYMBOL*~FUEL PUMP.CUP l BLACKmQUdE|WHITuF",
    "LAGbHORIZlTe MIDDi BLACKmTRIPE*~~BLACKmAFETYmCISSORS$~UPPj BLADEmCISSORS!~BLACKmCISSORS>Lrj",
    " BLADEmCISSORS!~WHITEmCISSORS,HEAVY CHECK MdK%~TEiPHluLOCAslmw%~APuDRIVE:AIRPLkE,qVELOPE,zI",
    "SpFIST(HkD;VICTORY HkD<WRIThG HkD<Lrj Rf PqCIL_PqCIL*UPPj Rf PqCIL_WHITuNIB.BLACK NIB.CHECK",
    " MdK:HEAVY CHECK MdK]MULsPLICAsl X]HEAVY MULsPLICAsl X%~BeLOyX,HEAVY BeLOyX>OUTLhpGvEK CROS",
    "S!~HEAVY GvEK CROSS^OPq CqTRuCROSS^HEAVY OPq CqTRuCROSS&~LATh CROSS;StDrpWHITuLATh CROSS*~O",
    "UTLhpLATh CROSS!~MeTESuCROSS=STd OF DAVID=FOUR TEdDROP-SPOKpASTjISK(~BeLOl-SPOKpASTjISK,~HE",
    "AVY FOUR BeLOl-SPOKpASTjISK>~FOUR CLUB-SPOKpASTjISK)~BLACK FOUR POhTEDmTd&~WHITuFOUR POhTED",
    "mTd&~SPdKiS+TvSS OUTLhpWHITEmTd*~CIRCiD WHITEmTd_OPq CqTRuBLACKmTd%~BLACK CqTRuWHITEmTd&~OU",
    "TLhpBLACKmTd|HEAVY OUTLhpBLACKmTd)~PhWHEELmTd=StDrpWHITEmTd|HEAVY ASTjISK>OPq CqTRuASTjISK!",
    "~EfmPOKpASTjISK?POhTpBLACKmTd:PhWHEELmTd+~SIX POhTpBLACKmTd%~Ef POhTpvCsLhEd BLACKmTd]~HEAV",
    "Y Ef POhTpvCsLhEd BLACKmTd%~~TWELVuPOhTpBLACKmTd)~SIXTEq POhTpASTjISK(~TEdDROP-SPOKpASTjISK",
    "(~OPq CqTRuTEdDROP-SPOKpASTjISK]~HEAVY TEdDROP-SPOKpASTjISK:~SIX PETeiD BLACK kD WHITuFLOvT",
    "TE^~BLACK FLOvTTE>WHITuFLOvTTE>Ef PETeiD OUTLhpBLACK FLOvTTE_~CIRCiD OPq CqTRuEf POhTEDmTd_",
    "~HEAVY TEdDROP-SPOKpPhWHEEL ASTjISK|~SNrFLAKE.Tf TRIFOLIATEmNrFLAKE*~HEAVY CHEVRlmNrFLAKE&~",
    "SPdKi+HEAVYmPdKi=BeLOl-SPOKpASTjISK&~Ef TEdDROP-SPOKpPROPELiR ASTjISK!~~HEAVY Ef TEdDROP-SP",
    "OKpPROPELiR ASTjISK*~~CROSS MdK:StDrpWHITuCIRCi$~NEGAsVEmQUdpCROSS MdK+~Lrj Rf DROP-StDrpWH",
    "ITEmQUdE_~UPPj Rf DROP-StDrpWHITEmQUdE_~Lrj RfmtDrpWHITEmQUdE=~UPPj RfmtDrpWHITEmQUdE=~BLAC",
    "K QUESsl MdK ORNAMqT,~WHITuQUESsl MdK ORNAMqT%~EXCLAMAsl MdK ORNAMqT;~BLACK DIAMlD MhUS WHI",
    "TuX+~HEAVY EXCLAMAsl MdKmYMBOL.~Lf VjsCe Bd_MEDIUM VjsCe Bd|HEAVY VjsCe Bd<ShGi TURNpCOMMA ",
    "QUOTAsl MdK ORNAMqT]~COMMA QUOTAsl MdK ORNAMqT]~DOUBi TURNpCOMMA QUOTAsl MdK ORNAMqT]~COMMA",
    " QUOTAsl MdK ORNAMqT]~LrmhGi COMMA QUOTAsl MdK ORNAMqT]~DOUBi COMMA QUOTAsl MdK ORNAMqT*~~C",
    "URVEDmTEM PdAGzPHmw ORNAMqT?~HEAVY EXCLAMAsl MdK ORNAMqT)~HEdyEXCLAMAsl MdK ORNAMqT;~BLACK ",
    "HEdT^ROTATpHEAVY BLACK HEdyBULiT<~FLORe HEdT<ROTATpFLORe HEdyBULiT+~MEDIUM iFyPdqxESIS ORNA",
    "MqT)~Rf PdqxESIS ORNAMqT*~FLATTqpiFyPdqxESIS ORNAMqT)~Rf PdqxESIS ORNAMqT]~iFT-POhThG kGi B",
    "zCKEyORNAMqT]~Rf-POhThG kGi BzCKEyORNAMqT(~~HEAVY iFT-POhThG kGi QUOTAsl MdK ORNAMqT&~~Rf-P",
    "OhThG kGi QUOTAsl MdK ORNAMqT(~~iFT-POhThG kGi BzCKEyORNAMqT]~Rf-POhThG kGi BzCKEyORNAMqT&~",
    "~Lf iFyTORTOISEmHELL BzCKEyORNAMqT]~Rf TORTOISEmHELL BzCKEyORNAMqT&~~MEDIUM iFyCURLY BzCKEy",
    "ORNAMqT+~Rf CURLY BzCKEyORNAMqT?~DhGBAyNEGAsVuCIRCiD DIGIylE&TWO%HvE)FOUR&IVE(SIX%EVq)Ef)Nh",
    "E:NUMBj Tq+~CIRCiDmkS-SjIF DIGIylE&TWO%HvE)FOUR&IVE(SIX%EVq)Ef)NhE:NUMBj Tq.~NEGAsVuCIRCiDm",
    "kS-SjIF DIGIylE&TWO%HvE)FOUR&IVE(SIX%EVq)Ef)NhE:NUMBj Tq*~~HEAVY WIDE-HEADpRfWdDS dRr,~PLUS",
    "mw.MhUSmw:DIVISIlmw=SOUx EASydRr]RfWdDS dRr]NORx EASydRr%~DzFThG POhyRfWdDS dRr;~HEAVY ROUN",
    "D-sPPpRfWdDS dRr?~TRIkGi-HEADpRfWdDS dRr<~HEAVY TRIkGi-HEADpRfWdDS dRr_~DASHpTRIkGi-HEADpRf",
    "WdDS dRr|~HEAVY DASHpTRIkGi-HEADpRfWdDS dRr)~~BLACK RfWdDS dRr%~xvE-D TOP-LfpRfWdDS dRrHEAD",
    "<~BOTTOM-LfpRfWdDS dRrHEAD&~~BLACK RfWdDS dRrHEAD*~HEAVY BLACK CURVpDrNWdDS kD RfWdDS dRr:~",
    "UPWdDS kD RfWdDS dRr+~~SQUAyBLACK RfWdDS dRr,~HEAVY ClCAVE-POhTpBLACK RfWdDS dRr(~~Rf-StDpW",
    "HITuRfWdDS dRr?~iFT-StDpWHITuRfWdDS dRr>~BACK-sLTEDmtDrpWHITuRfWdDS dRr&~~FRlT-sLTEDmtDrpWH",
    "ITuRfWdDS dRr(~~HEAVY Lrj Rf-StDrpWHITuRfWdDS dRr&~~UPPj Rf-StDrpWHITuRfWdDS dRr.~~NOTCHpLr",
    "j Rf-StDrpWHITuRfWdDS dRr;~~CURLY LOOP:NOTCHpUPPj Rf-StDrpWHITuRfWdDS dRr;~~CIRCiD HEAVY WH",
    "ITuRfWdDS dRr]~WHITE-FEAxjpRfWdDS dRr<~BLACK-FEAxjEDmOUx EASydRr]RfWdDS dRr]NORx EASydRr<~H",
    "EAVY BLACK-FEAxjEDmOUx EASydRr]RfWdDS dRr]NORx EASydRr_~TEdDROP-BdBpRfWdDS dRr<~HEAVY TEdDR",
    "OP-SHkKpRfWdDS dRr|~WEDGE-TAIiD RfWdDS dRr.~HEAVY WEDGE-TAIiD RfWdDS dRr?~OPq-OUTLhpRfWdDS ",
    "dRr:~DOUBi CURLY LOOP^xvuDIMqSIle kGi&~WHITuTRIkGi ClTAhhGmMeL WHITuTRIkGi*~~PjPqDICULd=OPq",
    "mUBSET(PjSET=iFTm-StPpBAG DELIMITj+~Rfm-StPpBAG DELIMITj,~ORbDOyhSIDE_vVjSEmOLIDUS PvCEDhGm",
    "UBSET<~SUPjSEyPvCEDhGmOLIDUS*~VjsCe BdbHORIZlTemTROKE?~MAxEMAsCe RIShG DIAGle,~LlG DIVISIl=",
    "MAxEMAsCe FeLhG DIAGle.~SQUdpLOGICe kD&OR_WHITuDIAMlDbCqTRpDOT:~kDbDOT<EiMqyOF OPqhG UPWdDS",
    "*~Lrj Rf CORNjbDOT+~UPPj iFyCORNjbDOT*~iFyOUTj JOh?Rf OUTj JOh]FULL OUTj JOh?LdGuUP TACK+Dr",
    "N TACK>EFykD Rf DOUBi TURNSsi]TACK>MULsMAP<lG Rf TACK:iFyTACK>UP TACKbCIRCin)~LOZqGuDIVIDpB",
    "Y HORIZlTe RUi>~WHITuClCAVE-SIDpDIAMlD!biFTWdDS sCK>RfWdDS sCK%~~SQUdEbiFTWdDS sCK>RfWdDS s",
    "CK=~MAxEMAsCe iFyWHITEmQUduBzCKET)~Rf WHITEmQUduBzCKET*~iFykGi BzCKET_Rf kGi BzCKET|iFyDOUB",
    "i kGi BzCKET)~Rf DOUBi kGi BzCKET*~iFyWHITuTORTOISEmHELL BzCKET=~Rf WHITuTORTOISEmHELL BzCK",
    "ET>~iFyFLATTqpPdqxESIS*~Rf FLATTqpPdqxESIS!~~UPWdDS QUADRUPi dRr&~DrNWdDS QUADRUPi dRr)~ksC",
    "LOCKWISuGAPPpCIRCi dRr=~CLOCKWISuGAPPpCIRCi dRr.~Rf dRrbCIRCiD PLUS.~LlG iFTWdDS dRr?RfWdDS",
    " dRr]iFyRf dRr<WdDS DOUBi dRr%~RfWdDS DOUBi dRr&~iFyRf DOUBi dRr|WdDS dRr FROM Bd(~RfWdDS d",
    "Rr FROM Bd)~iFTWdDS DOUBi dRr FROM Bd;~RfWdDS DOUBi dRr FROM Bd$~SQUIGGi dRr:~BzILi PATTjN ",
    "BLkK)DOTS-1$2$12%3$13%23%123&4$14%24%124&34%134&234&1234(5$15%25%125&35%135&235&1235(45%145",
    "&245&1245(345&1345(2345(12345)6$16%26%126&36%136&236&1236(46%146&246&1246(346&1346(2346(123",
    "46)56%156&256&1256(356&1356(2356(12356)456&1456(2456(12456)3456(13456)23456)123456*7$17%27%",
    "127&37%137&237&1237(47%147&247&1247(347&1347(2347(12347)57%157&257&1257(357&1357(2357(12357",
    ")457&1457(2457(12457)3457(13457)23457)123457*67%167&267&1267(367&1367(2367(12367)467&1467(2",
    "467(12467)3467(13467)23467)123467*567&1567(2567(12567)3567(13567)23567)123567*4567(14567)24",
    "567)124567*34567)134567*234567*1234567+8$18%28%128&38%138&238&1238(48%148&248&1248(348&1348",
    "(2348(12348)58%158&258&1258(358&1358(2358(12358)458&1458(2458(12458)3458(13458)23458)123458",
    "*68%168&268&1268(368&1368(2368(12368)468&1468(2468(12468)3468(13468)23468)123468*568&1568(2",
    "568(12568)3568(13568)23568)123568*4568(14568)24568)124568*34568)134568*234568*1234568+78%17",
    "8&278&1278(378&1378(2378(12378)478&1478(2478(12478)3478(13478)23478)123478*578&1578(2578(12",
    "578)3578(13578)23578)123578*4578(14578)24578)124578*34578)134578*234578*1234578+678&1678(26",
    "78(12678)3678(13678)23678)123678*4678(14678)24678)124678*34678)134678*234678*1234678+5678(1",
    "5678)25678)125678*35678)135678*235678*1235678+45678)145678*245678*1245678+345678*1345678+23",
    "45678+12345678.~RfWdDS TWO-HEADpdRrbVjsCemTROKE?DOUBi VjsCemTROKE?~~iFTWdDS DOUBi dRrbVjsCe",
    "mTROKE&~~RfWdDS DOUBi dRrbVjsCemTROKE(~~iFyRf DOUBi dRrbVjsCemTROKE(~~RfWdDS TWO-HEADpdRr F",
    "ROM Bd]~iFTWdDS DOUBi dRr FROM Bd;~RfWdDS DOUBi dRr FROM Bd<~DrNWdDS dRrbHORIZlTemTROKE_~UP",
    "WdDS dRrbHORIZlTemTROKE,~TRIPi dRr!~DrNWdDS TRIPi dRr%~iFTWdDS DOUBi DASH dRr+~RfWdDS DOUBi",
    " DASH dRr,~iFTWdDS TRIPi DASH dRr+~RfWdDS TRIPi DASH dRr]WO-HEADpTRIPi DASH dRr,~dRrbDOTTED",
    "mTEM=~UPWdDS dRr TO Bd!~DrNWdDS dRr TO Bd%~RfWdDS dRrbTAILbVjsCemTROKE?DOUBi VjsCemTROKE&~~",
    "TWO-HEADpdRrbTAIL!bVjsCemTROKE?DOUBi VjsCemTROKE)~~~iFTWdDS dRr-TAIL!~RfWdDS dRr-TAIL$~iFTW",
    "dDS DOUBi dRr-TAIL+~RfWdDS DOUBi dRr-TAIL,~iFTWdDS dRr TO BLACK DIAMlD<~RfWdDS dRr TO BLACK",
    " DIAMlD=~iFTWdDS dRr FROM Bd TO BLACK DIAMlD$~~RfWdDS dRr FROM Bd TO BLACK DIAMlD%~~NORx WE",
    "SykDmOUx EASydRr)~EASykDmOUx WESydRr)~WESydRrbHOOK!~EASydRrbHOOK*~SOUx EASydRrbHOOK!~WESydR",
    "rbHOOK*~NORx WESydRr kD NORx EASydRr;~EASydRr kDmOUx EASydRr^~SOUx EASydRr kDmOUx WESydRr;~",
    "WESydRr kD NORx WESydRr^~RIShG DIAGle CROSShG FeLhG DIAGle$~~FeLhG DIAGle CROSShG RIShG DIA",
    "Gle$~~SOUx EASydRr CROSShG NORx EASydRr%~~NORx EASydRr CROSShGmOUx EASydRr%~~FeLhG DIAGle C",
    "ROSShG NORx EASydRr%~~RIShG DIAGle CROSShGmOUx EASydRr$~~NORx EASydRr CROSShG NORx WESydRr]",
    "~WESydRr CROSShG NORx EASydRr%~~WAVudRr POhThG DIvCTLY Rf>~dRr POhThG RfWdDS xq CURVhG UPWd",
    "DS+DrNWdDS=~DrNWdDS xq CURVhG iFTWdDS.RfWdDS,~~Rf-SIDudC CLOCKWISudRr:~iFT-SIDudC ksCLOCKWI",
    "SudRr=~TOP dC ksCLOCKWISudRr+~BOTTOM dC ksCLOCKWISudRr:~TOP dC CLOCKWISudRrbMhUS*~ksCLOCKWI",
    "SudRrbPLUS^~Lrj RfmEMICIRCULd CLOCKWISudRr>~iFTmEMICIRCULd ksCLOCKWISudRr&~~ksCLOCKWISuCLOS",
    "pCIRCi dRr=~CLOCKWISuCLOSpCIRCi dRr.~RfWdDS dRrnmHORyiFTWdDS dRr(~~iFTWdDS dRrnmHORyRfWdDS ",
    "dRr(~~SHORyRfWdDS dRrn iFTWdDS dRr(~~RfWdDS dRrbPLUS BELr<~iFTWdDS dRrbPLUS BELr;~RfWdDS dR",
    "r xROUGH X*~iFyRf dRr xROUGHmMeL CIRCi^~UPWdDS TWO-HEADpdRr FROMmMeL CIRCi%~~iFyBdB UP Rf B",
    "dB DrN HdPOl*~DrN Rf BdB UP HdPOl]~UP BdB Rf DrN BdB iFyHdPOl,~iFyDrN BdB Rf HdPOl]~iFyBdB ",
    "UP Rf BdB UP HdPOl>~UP BdB Rf DrN BdB Rf HdPOl^~iFyBdB DrN Rf BdB DrN HdPOl_~UP BdB iFyDrN ",
    "BdB iFyHdPOl?~iFTWdDS HdPOlbBdB UP TO Bd^~RfWdDS HdPOlbBdB UP TO Bd_~UPWdDS HdPOlbBdB Rf TO",
    " Bd_~DrNWdDS HdPOlbBdB Rf TO Bd!~~iFTWdDS HdPOlbBdB DrN TO Bd|~RfWdDS HdPOlbBdB DrN TO Bd!~",
    "~UPWdDS HdPOlbBdB iFyTO Bd^~DrNWdDS HdPOlbBdB iFyTO Bd|~iFTWdDS HdPOlbBdB UP FROM Bd|~RfWdD",
    "S HdPOlbBdB UP FROM Bd!~~UPWdDS HdPOlbBdB Rf FROM Bd!~~DrNWdDS HdPOlbBdB Rf FROM Bd%~~iFTWd",
    "DS HdPOlbBdB DrN FROM Bd$~~RfWdDS HdPOlbBdB DrN FROM Bd%~~UPWdDS HdPOlbBdB iFyFROM Bd|~DrNW",
    "dDS HdPOlbBdB iFyFROM Bd$~~iFTWdDS HdPOlbBdB UPn iFTWdDS HdPOlbBdB DrN.~~~UPWdDS HdPOlbBdB ",
    "iFyBESIDuUPWdDS HdPOlbBdB Rf.~~~RfWdDS HdPOlbBdB UPn RfWdDS HdPOlbBdB DrN;~~~DrNWdDS HdPOlb",
    "BdB iFyBESIDuDrNWdDS HdPOlbBdB Rf=~~~iFTWdDS HdPOlbBdB UPn RfWdDS HdPOlbBdB UP!~~DrNn RfWdD",
    "S HdPOlbBdB DrN<~~~RfWdDS HdPOlbBdB UPn iFTWdDS HdPOlbBdB UP|~DrNn iFTWdDS HdPOlbBdB DrN<~~",
    "~iFTWdDS HdPOlbBdB UPn LlG DASH_DrN BELr LlG DASH,~~RfWdDS HdPOlbBdB UPn LlG DASH_DrN BELr ",
    "LlG DASH.~~UPWdDS HdPOlbBdB iFyBESIDuDrNWdDS HdPOlbBdB Rf;~~~DrNWdDS HdPOlbBdB iFyBESIDuUPW",
    "dDS HdPOlbBdB Rf;~~~Rf DOUBi dRrbROUNDpHEAD]~EQUeSmwn RfWdDS dRr>~sLDuOPjATORn RfWdDS dRr^~",
    "iFTWdDS dRrn sLDuOPjATOR]~RfWdDS dRrn sLDuOPjATOR>eMOSyEQUe TO_~iSS-xkn iFTWdDS dRr.~FTWdDS",
    " dRr xROUGH iSS-xk=~GvATj-xkn RfWdDS dRr?~SUBSETn RfWdDS dRr.~iFTWdDS dRr xROUGHmUBSET:~SUP",
    "jSETn iFTWdDS dRr:~iFyFISH TAIL>Rf FISH TAIL?UP FISH TAIL<DrN FISH TAIL>TRIPi VjsCe Bd DELI",
    "MITj.~Z NOTAslmPOT(TYPuCOLl$~iFyWHITuCURLY BzCKET(~Rf WHITuCURLY BzCKET)~iFyWHITuPdqxESIS%~",
    "Rf WHITuPdqxESIS&~Z NOTAsl iFyIMAGuBzCKET_Rf IMAGuBzCKET|iFyBhDhG BzCKET!~Rf BhDhG BzCKET<~",
    "iFTmQUduBzCKETbUNDjBd=~RfmQUduBzCKETbUNDjBd>~iFTmQUduBzCKETbsCK h TOP CORNj&~~RfmQUduBzCKET",
    "bsCK h BOTTOM CORNj+~~iFTmQUduBzCKETbsCK h BOTTOM CORNj*~~RfmQUduBzCKETbsCK h TOP CORNj(~~i",
    "FykGi BzCKETbDOT+~Rf kGi BzCKETbDOT,~iFydC iSS-xk BzCKET*~Rf dC GvATj-xk BzCKET:~DOUBi iFyd",
    "C GvATj-xk BzCKET.~Rf dC iSS-xk BzCKET>~iFyBLACK TORTOISEmHELL BzCKET=~Rf BLACK TORTOISEmHE",
    "LL BzCKET>~DOTTpFqCE<VjsCe ZIGZAG LhE!~MEASURpkGi OPqhG iFT+~Rf kGi VdIkTbSQUdE;~MEASURpRf ",
    "kGibDOT.~kGibS hSIDE_CUTukGi;SPHjICe kGi OPqhG iFT(UP*~TURNpkGi<vVjSpkGi>kGibUNDjBd|vVjSpkG",
    "ibUNDjBd,~OBLIQUukGi OPqhG UP%DrN*~MEASURpkGibOPq dM qDhG h dRr POhThG UP kD Rf)iFT;DrN kD ",
    "Rf)iFT=Rf kD UP<iFykD UP;Rf kD DrN>iFykD DrN+~~~vVjSpEMPTYmET_EMPTYmETbOVjBd+SMeL CIRCin_Rf",
    " dRrn^iFydRrn;~CIRCibHORIZlTe Bd!~D VjsCe Bd<PdeiL,vVjSEmOLIDUS?PjPqDICULd? DIVIDpBY HORIZl",
    "Te Bd kD TOP HeF DIVIDpBY VjsCe Bd%~~~WIxmUPjIMPOSpX!~D ksCLOCKWISE-ROTATpDIVISIlmw&~~UP dR",
    "r xROUGH CIRCi&~CIRCiD WHITuBULiT<BULiT*iSS-xk.GvATj-xk>bSMeL CIRCi TO xuRf)~TWO HORIZlTemT",
    "ROKES TO xuRf+~~SQUdpRIShG DIAGlemLASH$~FeLhG DIAGlemLASH%~ASTjISK,SMeL CIRCi;QUdE>TWO JOhE",
    "DmQUdES^RIkGibDOTn.UNDjBd%~S h TRIkGi=TRIkGibSjIFS AyBOTTOM:~Rf TRIkGin iFyTRIkGi>~iFyTRIkG",
    "i BESIDuVjsCe Bd=~VjsCe Bd BESIDuRf TRIkGi>~BrsEbiFyHeF BLACK?Rf HeF BLACK+~LACK BrsE<sMESb",
    "iFyHeF BLACK?Rf HeF BLACK+~WHITuHOURGLASS?BLACK HOURGLASS?iFyWIGGLY FqCE^Rf WIGGLY FqCE_iFy",
    "DOUBi WIGGLY FqCE(~Rf DOUBi WIGGLY FqCE)~hCOMPiTuhFhITY|suOVj hFhITY^hFhITY NEGATEDbVjsCe B",
    "d>~DOUBi-qDpMULsMAP$~SQUdEbClTOURpOUTLhE.~hCvASES AS<SHUFFi PRODUCT?EQUeSmw kDmLkTpPdeiL!bs",
    "LDEn.~~IDqsCe TO kDmLkTpPdeiL=~GiICHmTdK<xjMODYNAMIC=DrN-POhThG TRIkGibiFyHeF BLACK?Rf HeF ",
    "BLACK(~~BLACK DIAMlDbDrN dRr&~LOZqGE=WHITuCIRCibDrN dRr,~BLACK CIRCibDrN dRr,~jROR-BdRpWHIT",
    "EmQUdE<BLACKmQUdE<WHITuDIAMlD=BLACK DIAMlD=WHITuCIRCi<BLACK CIRCi)~RUi-DELAYED;EVjSEmOLIDUS",
    " OPjATOR(~SOLIDUSbOVjBd!~vVjSEmOLIDUSbHORIZlTemTROKE_~BIGmOLIDUS+vVjSEmOLIDUS|DOUBi PLUS;TR",
    "IPi PLUS;iFT-POhThG CURVpkGi BzCKET>~Rf-POhThG CURVpkGi BzCKET?~ThY(MhY(N-dY CIRCiD DOyOPjA",
    "TOR<PLUS OPjATOR=sMES OPjATOR%~UNIl OPjATORbDOT&PLUS(~SQUduhTjSECsl OPjATOR$~UNIl OPjATOR+~",
    "TWO LOGICe kD OPjATOR<OR OPjATOR&~N-dY sMES OPjATOR!~MODULO TWOmUM>SUMMAslbhTEGRe&~QUADRUPi",
    " hTEGRe OPjATOR+~FhITuPdyhTEGRe!~hTEGRebDOUBimTROKE_AVjAGEbSLASH+~CIRCULAsl FUNCsl!~ksCLOCK",
    "WISuhTEGzsl)~LhuhTEGzslbvCTkGULd PAx dOUND POi,~SEMICIRCULd PAx dOUND POi>~NOyhCLUDhG xuPOi",
    "|~hTEGRe dOUND A POhyOPjATOR<~QUATjNIl hTEGRe OPjATOR,~hTEGRebiFTWdDS dRrbHOOK)~sMESmw:hTjS",
    "ECsl<UNIl)OVjBd+UNDjBd%~JOh(LdGuiFyTRIkGi OPjATOR,~Z NOTAslmCHEMA COMPOSIsl;PIPhG)ROJECsl,~",
    "PLUSmwbSMeL CIRCin_CIRCUMFiX ACCqTn&~sLDEn;DOyBELr.sLDuBELr;SUBSCRIPyTWO=BLACK TRIkGi.~MhUS",
    "mwbCOMMAn;DOyBELr.FeLhG DOTS<RIShG DOTS+~PLUSmw h iFyHeF CIRCi]Rf HeF CIRCi:~VECTOR OR CROS",
    "S PRODUCT&~MULsPLICAslmwbDOTn.UNDjBd=~SEMIDIvCyPRODUCTbBOTTOM CLOSED]~MASH PRODUCT=MULsPLIC",
    "Aslmw h iFyHeF CIRCi]Rf HeF CIRCi!~~CIRCiD MULsPLICAslmwbCIRCUMFiX ACCqT:~~MULsPLICAslmw h ",
    "DOUBi CIRCi]~CIRCiD DIVISIlmw$~PLUSmw h TRIkGi$~MhUSmw h TRIkGi$~ULsPLICAslmw h TRIkGi;~hTj",
    "IOR PRODUCT]RfHkD hTjIOR PRODUCT*~Z NOTAsl vLAsle COMPOSIsl=~AMeGAMAsl OR COPRODUCT)~hTjSEC",
    "slbDOT$~UNIlbMhUSmw:OVjBd_hTjSECslbOVjBd+LOGICe kD.~UNIlbLOGICe OR?ABOVuhTjSECsl(~hTjSECsln",
    " UNIl(~UNIln Bdn hTjSECsl>~hTjSECsln Bdn UNIl>~UNIl BESIDukD JOhEDbUNIl>~hTjSECsl BESIDukD ",
    "JOhEDbhTjSECsl,~~CLOSpUNIlbSjIFS^hTjSECslbSjIFS;~DOUBimQUduhTjSECsl<UNIl|CLOSpUNIlbSjIFS kD",
    "mMASH PRODUCT%~~LOGICe kDbDOTn_ORbDOTn)~DOUBi LOGICe kD&OR^TWO hTjSECThG LOGICe kD&OR+~SLOP",
    "hG LdGuOR%kD^LOGICe OR OVjLAPPhG LOGICe kD*~kDbMIDDimTEM!~ORbMIDDimTEM|kDbHORIZlTe DASH(~OR",
    "bHORIZlTe DASH&~kDbDOUBi OVjBd>UNDjBd,DOUBi UNDjBd<~SMeL VEEbUNDjBd&~LOGICe ORbDOUBi OVjBd+",
    "UNDjBd;~Z NOTAsl DOMAh ksvSTRICsl%~RkGuksvSTRICsl<~EQUeSmwbDOyBELr*~IDqsCebDOTn(~TRIPi HORI",
    "ZlTe BdbDOUBi VjsCemTROKE%~TRIPi VjsCemTROKE,~~ILDuOPjATORbDOTn.RIShG DOTS;~SIMILd MhUSmIMI",
    "Ld$~ClGRUqTbDOTn(~EQUeSbASTjISK!~eMOSyEQUe TObCIRCUMFiX ACCqT^~PPROXIMATELY EQUe OR EQUe TO",
    ";~EQUeSmwn PLUSmw+~PLUSmwn EQUeSmw+~EQUeSmwn sLDuOPjATOR<~DOUBi COLl EQUe_TWO ClSECUsVuEQUe",
    "SmwS+~HvuClSECUsVuEQUeSmwS:~EQUeSmwbTWO DOTSn kD TWO DOTS BELr+~~IVeqTbFOUR DOTSn;~iSS-xkbC",
    "IRCi hSIDE,~GvATj-xkbCIRCi hSIDE;~iSS-xkbQUESsl MdKn>~GvATj-xkbQUESsl MdKn^~iSS-xk ORmLkTpE",
    "QUe TO.~GvATj-xk ORmLkTpEQUe TO<~iSS-xk ORmLkTpEQUe TObDOyhSIDE)~~GvATj-xk ORmLkTpEQUe TObD",
    "OyhSIDE,~~iSS-xk ORmLkTpEQUe TObDOTn(~~GvATj-xk ORmLkTpEQUe TObDOTn+~~iSS-xk ORmLkTpEQUe TO",
    "bDOTn Rf:~~GvATj-xk ORmLkTpEQUe TObDOTn iFT<~~iSS-xk OR APPROXIMATE(~GvATj-xk OR APPROXIMAT",
    "E+~iSS-xk kDmhGi-LhuNOyEQUe TO_~GvATj-xk kDmhGi-LhuNOyEQUe TO$~~iSS-xk kD NOyAPPROXIMATE.~G",
    "vATj-xk kD NOyAPPROXIMATE<~iSS-xkn DOUBi-LhuEQUen GvATj-xk<~~GvATj-xkn DOUBi-LhuEQUen iSS-x",
    "k<~~iSS-xknmIMILd OR EQUe<~GvATj-xknmIMILd OR EQUe?~iSS-xknmIMILdn GvATj-xk%~~GvATj-xknmIMI",
    "Ldn iSS-xk%~~iSS-xkn GvATj-xkn DOUBi-LhuEQUe<~~GvATj-xkn iSS-xkn DOUBi-LhuEQUe<~~iSS-xknmLk",
    "TpEQUen GvATj-xknmLkTpEQUe,~~~GvATj-xknmLkTpEQUen iSS-xknmLkTpEQUe,~~~SLkTpEQUe TO OR iSS-x",
    "k.GvATj-xk<iSS-xkbDOyhSIDE)~GvATj-xkbDOyhSIDE,~~DOUBi-LhuEQUe TO OR iSS-xk.GvATj-xk(~SLkTpE",
    "QUe TO OR iSS-xk.GvATj-xk(~~SIMILd OR iSS-xk.GvATj-xk?ABOVuiSS-xkn EQUeSmw+~GvATj-xkn EQUeS",
    "mw(~~DOUBi NESTpiSS-xk.GvATj-xk<iSS-xkbUNDjBd^~GvATj-xk OVjLAPPhG iSS-xk$~BESIDuiSS-xk.~iSS",
    "-xk CLOSpBY CURVE)~GvATj-xk CLOSpBY CURVE,~iSS-xk CLOSpBY CURVEnmLkTpEQUe)~~GvATj-xk CLOSpB",
    "Y CURVEnmLkTpEQUe,~~SMeiR xk<LdGj xk;SMeiR xk OR EQUe TO(~LdGj xk OR EQUe TO&~EQUeSmwbBUMPY",
    "n,~PvCEDESnmhGi-LhuEQUeSmw_~SUCCEEDSnmhGi-LhuEQUeSmw_~PvCEDESnmhGi-LhuNOyEQUe TO|~SUCCEEDSn",
    "mhGi-LhuNOyEQUe TO|~PvCEDESn EQUeSmw*~SUCCEEDSn EQUeSmw*~PvCEDESn NOyEQUe TO+~SUCCEEDSn NOy",
    "EQUe TO+~PvCEDESn eMOSyEQUe TO:~SUCCEEDSn eMOSyEQUe TO:~PvCEDESn NOyeMOSyEQUe TO>~SUCCEEDSn",
    " NOyeMOSyEQUe TO>~DOUBi PvCEDES,SUCCEEDS?SUBSETbDOT=PjSETbDOT?BSETbPLUSmw BELr)~PjSETbPLUSm",
    "w BELr+~BSETbMULsPLICAslmw BELr?~PjSETbMULsPLICAslmw BELr^~BSEyOF OR EQUe TObDOTn>~PjSEyOF ",
    "OR EQUe TObDOTn]~BSEyOFn EQUeSmw)~PjSEyOFn EQUeSmw+~BSEyOFn sLDuOPjATOR,~PjSEyOFn sLDuOPjAT",
    "OR:~BSEyOFn eMOSyEQUe TO.~PjSEyOFn eMOSyEQUe TO;~BSEyOFn NOyEQUe TO*~PjSEyOFn NOyEQUe TO.~Q",
    "UduiFyOPq BOX OPjATOR%~Rf OPq BOX OPjATOR:~CLOSEDmUBSET(PjSET*BSEyOR EQUe TO]PjSEyOR EQUe T",
    "O+~SUBSETnmUPjSET|PjSETnmUBSET|BSETnmUBSET^PjSETnmUPjSET>BESIDEmUBSET*kD JOhpBY DASHbSUBSET",
    "*~~EiMqyOF OPqhG DrNWdDS,~PITCHFORKbTEuTOP%~TRkSVjSe hTjSECsl(~FORKhG+NlFORKhG:SHORyiFyTACK",
    ".DrN TACK.UP TACK=PjPqDICULdbS!~VjsCe Bd TRIPi Rf TURNSsi?~DOUBi VjsCe Bd iFyTURNSsi>~VjsCe",
    " Bd DOUBi iFyTURNSsi>~DOUBi VjsCe Bd DOUBi iFyTURNSsi$~~LlG DASH FROM iFyMEMBj OF DOUBi Vjs",
    "Ce)~~SHORyDrN TACKbOVjBd%~UP TACKbUNDjBd=ABOVEmHORyDrN TACK?~DOUBi DrN TACK.UP TACK+STROKuN",
    "OTmw%~vVjSpDOUBimTROKuNOTmw;~DOES NOyDIVIDEbvVjSpNEGAslmLASH(~~VjsCe LhEbCIRCin)BELr;~DrN T",
    "ACKbCIRCi BELr+~PdeiLbHORIZlTemTROKE^sLDuOPjATOR,~TRIPi VjsCe Bd BhdY vLAsl?WIx HORIZlTemTR",
    "OKE?~COLl OPjATOR>NESTpiSS-xk.GvATj-xk*~DOUBi-LhEmLkTpiSS-xk OR EQUe TO$~GvATj-xk OR EQUe T",
    "O(~~TRIPimOLIDUS BhdY vLAsl:~LdGuTRIPi VjsCe Bd OPjATOR>~DOUBimOLIDUS OPjATOR&~WHITuVjsCe B",
    "d_N-dY WHITuVjsCe Bd&~ORx EASyWHITudRr]WESyWHITudRr%~SOUx EASyWHITudRr]WESyWHITudRr%~iFyRf ",
    "WHITudRr_WdDS BLACK dRr$~UPWdDS BLACK dRr|DrNWdDS BLACK dRr$~NORx EASyBLACK dRr]WESyBLACK d",
    "Rr%~SOUx EASyBLACK dRr]WESyBLACK dRr%~iFyRf BLACK dRr%~UP DrN BLACK dRr|RfWdDS dRrbsP DrNWd",
    "DS.UPWdDS=~iFTWdDS dRrbsP DrNWdDS.UPWdDS<~SQUdEbTOP HeF BLACK>BOTTOM HeF BLACK^UPPj Rf DIAG",
    "le HeF BLACK;~Lrj iFyDIAGle HeF BLACK%~~DIAMlDbiFyHeF BLACK?Rf HeF BLACK]TOP HeF BLACK>BOTT",
    "OM HeF BLACK.~OTTEDmQUdE=BLACK LdGEmQUdE_WHITuLdGEmQUdE_BLACK VjYmMeLmQUdE&~WHITuVjYmMeLmQU",
    "dE&~BLACK PqTAGl>WHITuPqTAGl,HEXAGl=BLACK HEXAGl=HORIZlTe BLACK HEXAGl(~BLACK LdGuCIRCi<MED",
    "IUM DIAMlD!~WHITuMEDIUM DIAMlD!~BLACK MEDIUM LOZqGE!~WHITuMEDIUM LOZqGE!~BLACKmMeL DIAMlD+L",
    "OZqGE|WHITEmMeL LOZqGE|BLACK HORIZlTe ELLIPSE(~WHITuHORIZlTe ELLIPSE(~BLACK VjsCe ELLIPSE%~",
    "WHITuVjsCe ELLIPSE%~iFydRrbSMeL CIRCi,~xvuiFTWdDS dRrS%~iFydRrbCIRCiD PLUS+~lG iFTWdDSmQUIG",
    "Gi dRr,~EFTWdDS TWO-HEADpdRrbVjsCemTROKE?DOUBi VjsCemTROKE+~FROM Bd>TRIPi DASH dRr,~dRrbDOT",
    "TEDmTEM;TAILbVjsCemTROKE?DOUBi VjsCemTROKE&~~TWO-HEADpdRrbTAIL!bVjsCemTROKE?DOUBi VjsCemTRO",
    "KE>~~dRr xROUGH X)~WAVudRr POhThG DIvCTLY iFT=~EQUeSmwn iFTWdDS dRr=~vVjSusLDuOPjATORn iFTW",
    "dDS dRr(~~iFTWdDS dRrn vVjSueMOSyEQUe TO)~~RfWdDS dRr xROUGH GvATj-xk<SUPjSET=~iFTWdDS QUAD",
    "RUPi dRr)~RfWdDS QUADRUPi dRr)~EVjSusLDuOPjATORn RfWdDS dRr(~~fWdDS dRrn vVjSueMOSyEQUe TO*",
    "~~sLDuOPjATORn iFTWdDS dRr]~iFTWdDS dRrn eMOSyEQUe TO?vVjSusLDuOPjATOR(~~RfWdDS dRrn vVjSus",
    "LDuOPjATOR)~~DrNWdDS TRIkGi-HEADpZIGZAG dRr_~SHORTmLkTpNORx dRr|BACKSLkTEDmOUx dRr.~WHITuME",
    "DIUMmTd^BLACKmMeLmTd]WHITEmMeLmTd]BLACK Rf-POhThG PqTAGl.~WHITuRf-POhThG PqTAGl.~HEAVY LdGu",
    "CIRCi<OVebOVe hSIDE$~CIRCibCIRCi hSIDE|!Dmesv$~SLkTpNORx dRrbHOOKpHEAD]~BACKSLkTEDmOUx dRrb",
    "HOOKpTAIL!~~SLkTpNORx dRrbHORIZlTe TAIL!~~BACKSLkTEDmOUx dRrbHORIZlTe TAIL&~~qydRr POhThG D",
    "rNWdDS xq NORx EAST)~~SHORyBqydRr POhThG DrNWdDS xq NORx EAST;~~iFTWdDS TRIkGi-HEADpdRr;~UP",
    "WdDS TRIkGi-HEADpdRr.~RfWdDS TRIkGi-HEADpdRr<~DrNWdDS TRIkGi-HEADpdRr;~iFyRf TRIkGi-HEADpdR",
    "r<~UP DrN TRIkGi-HEADpdRr.~NORx WESyTRIkGi-HEADpdRr*~EASyTRIkGi-HEADpdRr<~SOUx EASyTRIkGi-H",
    "EADpdRr*~WESyTRIkGi-HEADpdRr<~iFTWdDS TRIkGi-HEADpDASHpdRr_~UPWdDS TRIkGi-HEADpDASHpdRr]~Rf",
    "WdDS TRIkGi-HEADpDASHpdRr|~DrNWdDS TRIkGi-HEADpDASHpdRr_~CLOCKWISuTRIkGi-HEADpOPq CIRCi dRr",
    "&~~ksCLOCKWISuTRIkGi-HEADpOPq CIRCi dRr+~~iFTWdDS TRIkGi-HEADpdRr TO Bd_~UPWdDS TRIkGi-HEAD",
    "pdRr TO Bd]~RfWdDS TRIkGi-HEADpdRr TO Bd|~DrNWdDS TRIkGi-HEADpdRr TO Bd!!_~NORx WESyTRIkGi-",
    "HEADpdRr TO Bd=~EASyTRIkGi-HEADpdRr TO Bd|~SOUx EASyTRIkGi-HEADpdRr TO Bd=~WESyTRIkGi-HEADp",
    "dRr TO Bd|~iFTWdDS TRIkGi-HEADpdRrbDOUBi HORIZlTemTROKE$~~~UPWdDS TRIkGi-HEADpdRrbDOUBi HOR",
    "IZlTemTROKE|~~RfWdDS TRIkGi-HEADpdRrbDOUBi HORIZlTemTROKE%~~~DrNWdDS TRIkGi-HEADpdRrbDOUBi ",
    "HORIZlTemTROKE$~~~HORIZlTe TAB KEY_VjsCe TAB KEY]iFTWdDS TRIkGi-HEADpdRr OVj RfWdDS TRIkGi-",
    "HEADpdRr.~~~UPWdDS TRIkGi-HEADpdRr iFTWdDS OF DrNWdDS TRIkGi-HEADpdRr>~~~RfWdDS TRIkGi-HEAD",
    "pdRr OVj iFTWdDS TRIkGi-HEADpdRr.~~~DrNWdDS TRIkGi-HEADpdRr iFTWdDS OF UPWdDS TRIkGi-HEADpd",
    "Rr>~~~iFTWdDS TRIkGi-HEADpPAIRpdRrS|~UPWdDS TRIkGi-HEADpPAIRpdRrS^~RfWdDS TRIkGi-HEADpPAIRp",
    "dRrS!~~DrNWdDS TRIkGi-HEADpPAIRpdRrS|~iFTWdDS BLACK CIRCiD WHITudRr?~UPWdDS BLACK CIRCiD WH",
    "ITudRr=~RfWdDS BLACK CIRCiD WHITudRr]~DrNWdDS BLACK CIRCiD WHITudRr?~ksCLOCKWISuTRIkGi-HEAD",
    "pRf U-StPpdRr!~BOTTOM U-StPpdRr$~iFyU-StPpdRr|TOP U-StPpdRr,~~vTURN iFT(Rf<NEWLhuiFT(Rf=FOU",
    "R CORNj dRrS CIRCLhG ksCLOCKWISE$~~RfWdDS BLACK dRr!%~SYMBOL FOR TYPuA EiCTRlICS.~xvE-D TOP",
    "-LfpiFTWdDS EQUILATje dRrHEAD&~~Rf-LfpUPWdDS EQUILATje dRrHEAD&~~TOP-LfpRfWdDS EQUILATje dR",
    "rHEAD(~~iFT-LfpDrNWdDS EQUILATje dRrHEAD<~~BLACK iFTWdDS EQUILATje dRrHEAD;~UPWdDS EQUILATj",
    "e dRrHEAD.~RfWdDS EQUILATje dRrHEAD<~DrNWdDS EQUILATje dRrHEAD^~DrNWdDS TRIkGi-HEADpdRrbLlG",
    " sP iFTWdDS.RfWdDS]~~UPWdDS TRIkGi-HEADpdRrbLlG sP iFTWdDS.RfWdDS>~~iFTWdDS TRIkGi-HEADpdRr",
    "bLlG sP UPWdDS=~~RfWdDS TRIkGi-HEADpdRrbLlG sP UPWdDS>~~iFTWdDS TRIkGi-HEADpdRrbLlG sP DrNW",
    "dDS?~~RfWdDS TRIkGi-HEADpdRrbLlG sP DrNWdDS]~~BLACK CURVpDrNWdDS kD iFTWdDS dRr?RfWdDS dRr:",
    "~UPWdDS kD iFTWdDS dRr?RfWdDS dRr,~iFTWdDS kD UPWdDS dRr+~RfWdDS kD UPWdDS dRr,~iFTWdDS kD ",
    "DrNWdDS dRr.~RfWdDS kD DrNWdDS dRr&~~RIBBl dRr DrN iFT(Rf:UP iFT(Rf,iFyUP+Rf UP,iFyDrN.Rf D",
    "rN&~UPWdDS WHITudRr FROM BdbHORIZlTe Bd*~~ dRrHEAD h A vCTkGi BOX;~OVjLAPPhG WHITEmQUdES+kD",
    " BLACKmQUdES&~BLACKmQUdES)~BeLOyBOXbLf X&~CIRCiD X$BOLD X>BLACKmQUduCqTvD>DIAMlD CqTvD$~TUR",
    "NpBLACK PqTAGl$~HORIZlTe BLACK OCTAGl(~BLACK OCTAGl+MEDIUM UP-POhThG TRIkGi CqTvD,~DrN-POhT",
    "hG TRIkGi CqTvD:~iFT-POhThG TRIkGi CqTvD:~Rf-POhThG TRIkGi CqTvD(~~NEPTUNEg TWO]TOP HeF BLA",
    "CK CIRCi$~BOTTOM HeF BLACK CIRCi(~Lf FOUR POhTpBLACK CUSP.~ROTATpLf FOUR POhTpBLACK CUSP^~W",
    "HITuFOUR POhTpCUSP&~ROTATpWHITuFOUR POhTpCUSP;~SQUduPOSIsl hDICATOR)~UNCjTAhTYmw]GROUP MdK:",
    "PLUTOg TWO%HvE)FOUR&IVE?TRkSPLUTO:PROSjPhA:ASTzEA+HYGIEA*PHOLUS*NESSUS*WHITuMOlmEiNA^BLACK ",
    "DIAMlD l CROSS%~TRUuLf MOl dTA!~CUPIDO*tDES)ZEUS(KRlOS*APOLLl*DMETOS+VULCkUS,POSEIDl,iFyHeF",
    " BLACKmTd!~Rf HeF BLACKmTd$~STdbiFyHeF BLACK?Rf HeF BLACK*~iFTWdDS TWO-HEADpdRrbTRIkGi dRrH",
    "EADS;~~UPWdDS TWO-HEADpdRrbTRIkGi dRrHEADS.~~RfWdDS TWO-HEADpdRrbTRIkGi dRrHEADS<~~DrNWdDS ",
    "TWO-HEADpdRrbTRIkGi dRrHEADS;~~jISg lE&TWO=SEDNA)RUSSIk ASTROLOGICemYMBOL VIGhsi.NOVIi*QUhs",
    "i,BhOVIi,SqTAGl,TvDECIi^~EQUeSmwbhFhITY BELr;~UNITEDmYMBOL=SEPdATEDmYMBOL]DOUBiDmYMBOL>PASS",
    "EDmYMBOL=vVjSpRf kGi!~HELLSCHvIBj PAUSEmYMBOL*~GLAGOLIsC caAZU&BUKY(VEDE(GLAGOLI+DOBRO)YEST",
    "U)ZHIVETE+DZELO)ZEMLJA*IZHE&NIse IZHE;$DJjVI*KAKO(LJUDIJE+MYSLITE+NASHI)lU&POKOJI*RITSI)SLO",
    "VO)TVRIDO*UKU&FRITU)HjU(OTU&PE%SHTA(TSI&CHRIVI*St&YjU$I&As(SPIDjY t:YU%SMeL YUS!bTAIL|YO%IO",
    "TATEDmMeL YUS^BIG YUS+IOTATpBIG YUS?FITA(IZHITSA+SHTAPIC+TROKUTASs A<LAThATuMYSLITE]CAUDATu",
    "CHRIVI.~SMeaAZU&BUKY(VEDE(GLAGOLI+DOBRO)YESTU)ZHIVETE+DZELO)ZEMLJA*IZHE&NIse IZHE;$DJjVI*KA",
    "KO(LJUDIJE+MYSLITE+NASHI)lU&POKOJI*RITSI)SLOVO)TVRIDO*UKU&FRITU)HjU(OTU&PE%SHTA(TSI&CHRIVI*",
    "St&YjU$I&As(SPIDjY t:YU%SMeL YUS!bTAIL|YO%IOTATEDmMeL YUS^BIG YUS+IOTATpBIG YUS?FITA(IZHITS",
    "A+SHTAPIC+TROKUTASs A<LAThATuMYSLITE]CAUDATuCHRIVI_~LATh caLbDOUBi Bd<~SMeaLbDOUBi Bd:~caLb",
    "MIDDi sLDE|PbSTROKE=RbTAIL*~SMeaAbSTROKE=TbDIAGlemTROKE?~caHbDESCqDj;~SMeaHbDESCqDj.~caKbDE",
    "SCqDj;~SMeaKbDESCqDj.~caZbDESCqDj;~SMeaZbDESCqDj.~caePt)MbHOOK;TURNpA!LPt+~SMeaVbRf HOOK:~c",
    "aWbHOOK*~SMeaWbHOOK;VbCURL(~caHeF H$~SMeaHeF H*TAILiSS PHI<EbNOTCH<TURNpRbTAIL_ObLr RhG hSI",
    "DE?~iTTjmMeL cL TURNpE.~SUBSCRIPTmMeaJ:~MODIFIj iTTj cL V)~LATh caSbSWASH TAIL^ZbSWASH TAIL",
    "_~COPsC caeFA|SMeaeFA^caVIDA|SMeaVIDA^caGAMMA!~SMeaGAMMA_caDeDA!~SMeaDeDA_caEIE_SMeaEIE]caS",
    "OU_SMeaSOU]caZATA|SMeaZATA^catTE|SMeatTE^caxExE$~SMeaxExE|caIAUDA!~SMeaIAUDA_caKAPA|SMeaKAP",
    "A^caLAULA!~SMeaLAULA_caMI^SMeaMI?caNI^SMeaNI?caKSI_SMeaKSI]caO]SMeaO>caPI^SMeaPI?caRO^SMeaR",
    "O?caSIMA|SMeaSIMA^caTAU_SMeaTAU]caUA^SMeaUA?caFI^SMeaFI?caKHI_SMeaKHI]caPSI_SMeaPSI]caOOU_S",
    "MeaOOU]caDIeECT-P eEF.~SMeaDIeECT-P eEF+~caOLD COPsC Ah.~SMeaOLD COPsC Ah+~caCRYPTOGzMMIC E",
    "IE<~SMeaCRYPTOGzMMIC EIE:~caDIeECT-P KAPA.~SMeaDIeECT-P KAPA+~caDIeECT-P NI+~SMeaDIeECT-P N",
    "I)~caCRYPTOGzMMIC NI;~SMeaCRYPTOGzMMIC NI.~caOLD COPsC OOU.~SMeaOLD COPsC OOU+~caSAMPI!~SMe",
    "aSAMPI_caCROSSEDmHEI+~SMeaCROSSEDmHEI)~caOLD COPsCmHEI:~SMeaOLD COPsCmHEI,~caOLD COPsC ESH.",
    "~SMeaOLD COPsC ESH+~caAKHMIMIC KHEI,~SMeaAKHMIMIC KHEI*~caDIeECT-P HORI.~SMeaDIeECT-P HORI+",
    "~caOLD COPsC HORI:~SMeaOLD COPsC HORI,~caOLD COPsC t,~SMeaOLD COPsC t*~caL-StPpt*~SMeaL-StP",
    "pt(~caOLD COPsC HEI.~SMeaOLD COPsC HEI+~caOLD COPsC tT.~SMeaOLD COPsC tT+~caOLD COPsC GkGIA",
    "<~SMeaOLD COPsC GkGIA:~caOLD COPsC DJA.~SMeaOLD COPsC DJA+~caOLD COPsCmHIMA;~SMeaOLD COPsCm",
    "HIMA.~caOLD NUBIkmHIMA;~SMeaOLD NUBIkmHIMA.~caOLD NUBIk NGI.~SMeaOLD NUBIk NGI+~caOLD NUBIk",
    " NYI.~SMeaOLD NUBIk NYI+~caOLD NUBIk WAU.~SMeaOLD NUBIk WAU*~YMBOL KAI&MI RO)PI RO)STAUROS+",
    "TAU RO*KHI RO*SHIMAmIMA^caCRYPTOGzMMICmHEI=~SMeaCRYPTOGzMMICmHEI;~caCRYPTOGzMMIC GkGIA?~SMe",
    "aCRYPTOGzMMIC GkGIA=~COMBhhG NIn,SPIRITUS ASPj)iNIS&~APITAaBOtIRIC KHEI,~SMeaBOtIRIC KHEI!!",
    "!!!*~OLD NUBIk FULLmTOP.DIvCyQUESsl MdK!~hDIvCyQUESsl MdK%~VjSuDIVIDj(~FzCsl luHeF]ULLmTOP.",
    "MORPHOLOGICe DIVIDj,~GEORGIkmMeak%Bk&Gk&Dl&q%Vh&Zq&Tk&h%Kk&LAS&Mk&Nd&l%Pd&ZHd(zE&Sk&Td&UN%P",
    "Hd(KHd(GHk(Qd&SHh(CHh&k&JIL&CIL%Hd(Xk&JHk(tE%E$IE&WE%Hd%OE!&YN!!!!!%Aq!!)~sFhAGH iTTj YA!B!",
    "H%G!HH)BjBj ACADEMY YAJ_YAJ$D!H$D!H(EY%AF$K&TUdEG YAK:YAKHH&H&BjBj ACADEMY YAH_TUdEG YAH:YA",
    "HH%A$KH(TUdEG YAKH;YAQ&TUdEG YAQ:YI$AZH(AtGGd YAZH<TUdEG YAZH;Ye$M$N&TUdEG YAGN%NG;YAP%U$d!",
    "R%GH(TUdEG YAGH;AYj YAGH.YAS!S$H%T!H%CH%TT%V$W$Y$Z&TAWELiMEyYAZ>YAZZ&E$O!!!!!!!.MODIFIj iTT",
    "j LABIeIZAsl MdK>~SEPdATOR MdK!!!!!!!!!!!!!!>ClSlkyJOhj)~ExIOPICmYLLABi LOA&MOA&ROA&SOA%HOA",
    "(BOA&TOA&COA&NOA%YOA(GLOTTe OA:ZOA&DOA%DOA(JOA&xOA(CHOA(PHOA&OA&GGWA$I$EE$!!!!!!!!!(SSA$U$I",
    "$AA%EE$$O!&CCA$U$I$AA%EE$$O!&ZZA$U$I$AA%EE$$O!&CCt$U$I$AA%EE$$O!(QYA$U$I$AA%EE$$O!&KYA$U$I$",
    "AA%EE$$O!&XYA$U$I$AA%EE$$O!&GYA$U$I$AA%EE$$O!$~COMBhhG CYRILLIC iTTj BE%VE%GHE&DE%ZHE%E%KA%",
    "EL$M$N%O$PE%j$S%TE%t%TSE&CHE&St$Ct)FITA(ES-TE)A$IE%DJjV)MlOGzPH UK<YAT%U%IOsFIpA:LITTi YUS:",
    "BIG YUS+IOsFIpBIG YUS%~~Rf kGimUBSsTUsl MdKj|DOTTEDmUBSsTUsl MdKj_~iFTmUBSsTUsl BzCKET)~Rfm",
    "UBSsTUsl BzCKET*~iFyDOTTEDmUBSsTUsl BzCKET<~Rf DOTTEDmUBSsTUsl BzCKET<~AISphTjPOLAsl MdKj!~",
    "DOTTphTjPOLAsl MdKj>~DOTTpTRkSPOSIsl MdKj+~iFyTRkSPOSIsl BzCKET*~Rf TRkSPOSIsl BzCKET*~AISE",
    "DmQUdE=iFyzISpOMISSIl BzCKET,~Rf zISpOMISSIl BzCKET.~EDITORIe CORlIS^PdAGzPHOS;FORKpPdAGzPH",
    "OS_vVjSpFORKpPdAGzPHOS+~HYPODIASTOi<DOTTpOBELOS;WNWdDS kCOz]UPWdDS kCOz>DOTTpRf-POhThG kGi)",
    "~UBi OBLIQUuHYPHq$~hVjTphTjROBkG!~PeM BRkCH;HYPHqbDIAjESIS$~sLDEbRhGn$~iFyLr PdAPHzSuBzCKET",
    "+~Rf Lr PdAPHzSuBzCKET,~sLDEbDOTn)BELr!~iFyVjsCe BdbQUILL,~Rf VjsCe BdbQUILL.~TOP iFyHeF Bz",
    "CKET^Rf HeF BzCKET%~BOTTOM iFyHeF BzCKET^Rf HeF BzCKET)~iFTmIDEWAYS U BzCKET&~RfmIDEWAYS U ",
    "BzCKET(~iFyDOUBi PdqxESIS&~Rf DOUBi PdqxESIS(~TWO DOTS OVj luDOyPUNCTUAsl=~luDOyOVj TWO DOT",
    "S PUNCTUAsl=~SQUdpFOUR DOyPUNCTUAsl,~FIVuDOyMdK=vVjSpQUESsl MdK%~VjsCe sLDE>RhG POhT:WORDmE",
    "PdATOR MIDDi DOT)~TURNpCOMMA<zISpDOT&COMMA<TURNEDmEMICOLl]DAGGjbiFyGUdD:Rf GUdD&~TURNpDAGGj",
    "<OP HeFmECslmw!~WO-EM DASH:HvE-EM DASH=STqOGzPHIC FULLmTOP%~VjsCemIX DOTS^WIGGLY VjsCe LhE!",
    "~CAPITULUM.DOUBi HYPHq=vVjSpCOMMA>DOUBi Lr-vVjSED-9 QUOTAsl MdK?~ASHbiFyUPTURN!~OUBimUSPqSI",
    "l MdK%~hVjTpLr KAVYKA!bKAVYKAn^~Lr KAVYKA!bDOT|DOUBimTACKpCOMMA_TTEDmOLIDUS>TRIPi DAGGj=MED",
    "IEVe COMMA>PdAGzPHUS MdK?UNCTUS EiVATUS MdK$~CORNISH VjSuDIVIDj!~ROSS PATTYbRf CROSSBd>iFyC",
    "ROSSBd:~sRlIkmw cL ET(~MEDIEVe EXCLAMAsl MdK]QUESsl MdK%~iFTmQUduBzCKETbSTROKE;~RfmQUduBzCK",
    "ETbSTROKE<~iFTmQUduBzCKETbDOUBimTROKE_~RfmQUduBzCKETbDOUBimTROKE|~TOP HeF iFyPdqxESIS]Rf Pd",
    "qxESIS*~BOTTOM HeF iFyPdqxESIS]Rf PdqxESIS.~OBLIQUuHYPHq"]),
   (11904,
   ["!CJK zDICe vPEAT*CLIFF)SEClD lE&TWO%HvE<PjSl*BOX&TABi)KNIFulE&TWO.DIVhAsl:SEe&MeL lE&TWO.LA",
    "MulE&TWO%HvE)FOUR.SNAKE)xvAD*SNOUylE&TWO.HEdylE&TWO,kD(zP!&CHOKE)SUN&MOl(DEAx)MOxj*CIVILIk,",
    "WATj lE&TWO.FIv(PAW lE&TWO+SIMPLIFIpHeF TvuTRUNK*~Cr&DOG&JADE(BOLyOF CLOx=EYE&SPIRIylE&TWO:",
    "BAMBOO*SILK(C-SIMPLIFIEDmILK^NEylE&TWO%HvE)FOUR,MESH(SHEEP)zM&EWE&OLD&BRUSH lE&TWO.MEAT&ORT",
    "d*GzSS lE&TWO%HvE;sGj)CLOxES+WESylE&TWO,C-SIMPLIFIEDmEE]SIMPLIFIpHORN?HORN(C-SIMPLIFIEDmPEE",
    "CH)HELL_FOOT(C-SIMPLIFIpCdT^SIMPLIFIpWeK?WeK lE&TWO,CITY&-SIMPLIFIpGOLD^LlG lE&TWO,C-SIMPLI",
    "FIpLlG(GATE^MOUND lE&TWO.zh(BLUE(C-SIMPLIFIpTkNpiAxj>iAF(WhD(FLY]EAylE&TWO%HvE.C-SIMPLIFIpE",
    "AT]HEAD(C-SIMPLIFIpHORSE_BlE(GHOST)C-SIMPLIFIpFISH(BIRD(SeT^SIMPLIFIpWHEAT)YELLr^C-SIMPLIFI",
    "pFROG^J-SIMPLIFIpEVq^C-SIMPLIFIpEVq^J-SIMPLIFIpTOOx_C-SIMPLIFIpTOOx_J-SIMPLIFIpDzGl|C-SIMPL",
    "IFIpDzGl|TURTi*J-SIMPLIFIpTURTi|C-SIMPLIFIpTURTi!!!!!!!!!!!!;~KkGXI zDICe lE&LhE(DOT&SLASH(",
    "EClD*HOOK(TWO&LID&Mk&iGS(qTj(f)DrN BOX,COVj)ICE&TABi)OPq BOX,KNIFE)Prj)WzP(SPOl)Rf OPq BOX>",
    "HIDhG qCLOSUv]Tq&DIVhAsl:SEe(CLIFF)PRIVATE+AGAh)MOUx)qCLOSUv,dx)SCHOLd+GO!mLrLY.EVqhG+BIG&W",
    "OMk)CHILD)ROOF(hCH(SMeL)LAME(CORPSE*SPROUT*MOUNTAh,RIVj)WORK(lESELF+TURBk*DRY&SHORyxvAD<DOT",
    "TpCLIFF<LlGmTRIDE;TWO HkDS.SHOOT)Br&SNOUT)BRISTi+STEP(HEdT(eBjD+DOOR(HkD(BRkCH*zP&SCRIPT*DI",
    "PPj*AXE&SQUdE*NOT&SUN%AY&MOl(TvE(LACK(STOP(DEAx)WEAPl*DO NOT*COMPdE+FUR&CLk(STEAM)WATj)FIv(",
    "CLAW(FAxj*DOUBi X,HeF TvuTRUNK?SLICE)FkG(Cr&DOG&PROFOUND,JADE(MELl)si(SWEET)LIFE(USE&FIELD)",
    "BOLyOF CLOx=SICKNESS,DOTTpTqT;WHITE)SKh(DISH(EYE&SPEd)dRr)STlE(PIRIT*TzCK)Gzh)CAVE(STkD)BAM",
    "BOO*RICE(SILK(Jd&NET&SHEEP)FEAxj+OLD&kD&PLr(Ed&BRUSH)MEAT&hISTj,SELF(dRIVE*MORTd*TlGUE*OPPO",
    "SE*BOAT(STOPPhG,COLOR)GzSS)sGj)hSECT*BLOOD)WeK qCLOSUv>CLOxES+WEST(SEE&HORN(SPEECH*VeiY*BEk",
    "(PIG&BADGj*SHELL)vD%UN&FOOT(BODY(CdT(BITTj*MORNhG+WeK(CITY(WhE(DISThGUISH;VILLAGE+GOLD(LlG(",
    "GATE(MOUND)SLAVE(HORyTAIiD BIRD^zh(BLUE(WRlG)FACE(iAxj+TkNpiAxj>iEK(SOUND)iAF(WhD(FLY&EAT&H",
    "EAD(FzGRkT,HORSE)BlE(TeL(tIR(Ff)SACRIFICIe WhE]CAULDRl,GHOST)FISH(BIRD(SeT(DEj(WHEAT)HEMP(Y",
    "ELLr*MILiT*BLACK)EMBROIDjY:FROG(TRIPOD*DRUM(zT&NOSE(EVq(TOOx)DzGl*TURTi*FLUTE"]),
   (12272,
   ["!IDEOGzPHIC DESCRIPsl CHdACTj iFyTO Rf=ABOVuTO BELr>iFyTO MIDDi kD Rf(~ABOVuTO MIDDi kD BEL",
    "r)~FULLmURROUND=SURROUND FROMn)BELr)iFT(UPPj iFT(Rf;Lrj iFT(~OVjLAID!!!!:~SPACE)COMMA)FULLm",
    "TOP$~DITTO MdK:JAPkESuhDUSTRIemTkDdDmYMBOL?~IDEOGzPHIC ITjAsl MdK>CLOShG MdK<NUMBj ZjO&~iFy",
    "kGi BzCKET_Rf kGi BzCKET|iFyDOUBi kGi BzCKET)~Rf DOUBi kGi BzCKET*~iFyCORNj BzCKET|Rf CORNj",
    " BzCKET!~iFyWHITuCORNj BzCKET)~Rf WHITuCORNj BzCKET*~iFyBLACK iNsCULd BzCKET.~Rf BLACK iNsC",
    "ULd BzCKET:~POSTe MdK;GETA MdK.iFyTORTOISEmHELL BzCKET+~Rf TORTOISEmHELL BzCKET,~iFyWHITuiN",
    "sCULd BzCKET.~Rf WHITuiNsCULd BzCKET:~iFyWHITuTORTOISEmHELL BzCKET=~Rf WHITuTORTOISEmHELL B",
    "zCKET>~iFyWHITEmQUduBzCKET)~Rf WHITEmQUduBzCKET*~WAVuDASH.vVjSpDOUBi PRIMuQUOTAsl MdK]~DOUB",
    "i PRIMuQUOTAsl MdK+~Lr DOUBi PRIMuQUOTAsl MdK;~POSTe MdK FACE]HkGZHOU NUMje lE&TWO%HvE)FOUR",
    "&IVE(SIX%EVq)Ef)NhE$~IDEOGzPHIC iVEL TluMdK?RIShG TluMdK]DEPdThG TluMdK|qTjhG TluMdK:~HkGUL",
    "mhGi DOyTluMdK!~DOUBi DOyTluMdK+~WAVY DASH.VjsCe KkA vPEAyMdK(WIx VOICEDmOUND MdK%~MdK UPPj",
    " HeF?WIx VOICEDmOUND MdK UPPj HeF=~MdK Lrj HeF]~CIRCiD POSTe MdK|IDEOGzPHIC TEiGzPH LhuFEED",
    "mEPdATORmYMBOL,~~HkGZHOU NUMje Tq%WqTY)HIRTY&~VjsCe IDEOGzPHIC ITjAsl MdK?~MASU MdK.PdyeTjN",
    "Asl MdK$~IDEOGzPHIC VdIAsl hDICATOR|HeF FILLmPACE!+~HIzGkA iTTjmMeL A+A$SMeL I+I$SMeL U+U$S",
    "MeL E+E$SMeL O+O$KA%GA%KI%GI%KU%GU%KE%GE%KO%GO%SA%ZA%SI%ZI%SU%ZU%SE%ZE%SO%ZO%TA%DA%s%DI%SMe",
    "L TU,TU%DU%TE%DE%TO%DO%NA$I$U$E$O%t%BA%PA%HI%BI%PI%HU%BU%PU%HE%BE%PE%HO%BO%PO%MA$I$U$E$O%SM",
    "eL YA,YA%SMeL YU,YU%SMeL YO,YO%z$I$U$E$O%SMeL WA,WA$I$E$O%N$VU%SMeL KA$E!!(~COMBhhG KATAKkA",
    "-HIzGkA VOICEDmOUND MdK^SEMI-VOICEDmOUND MdK:~~KATAKkA-HIzGkA VOICEDmOUND MdK^SEMI-VOICEDmO",
    "UND MdK!~~HIzGkA ITjAsl MdK>VOICpITjAsl MdK$~DIGzPH YORI$~KATAKkA-HIzGkA DOUBi HYPHq&~ iTTj",
    "mMeL A+A$SMeL I+I$SMeL U+U$SMeL E+E$SMeL O+O$KA%GA%KI%GI%KU%GU%KE%GE%KO%GO%SA%ZA%SI%ZI%SU%Z",
    "U%SE%ZE%SO%ZO%TA%DA%s%DI%SMeL TU,TU%DU%TE%DE%TO%DO%NA$I$U$E$O%t%BA%PA%HI%BI%PI%HU%BU%PU%HE%",
    "BE%PE%HO%BO%PO%MA$I$U$E$O%SMeL YA,YA%SMeL YU,YU%SMeL YO,YO%z$I$U$E$O%SMeL WA,WA$I$E$O%N$VU%",
    "SMeL KA$E,VA$I$E$O.MIDDi DOT;-HIzGkA PROLlGEDmOUND MdK:~ ITjAsl MdK>VOICpITjAsl MdK$~DIGzPH",
    " KOTO!!!!!$~BOPOMOFO iTTj B$P$M$F$D$T$N$L$G$K$H$J$Q$X$ZH%CH%SH%R$Z$C$S$A$O$E!H%AI%EI%AU%OU%",
    "k%q%kG&qG%R%I$U$IU%V$NG%GN%IH%ObDOTn]NN!_HkGUaKIYEOK*SSkGKIYEOK;KIYEOK-SIOS;NIEUN!-CIEUC)HI",
    "EUH;sKEUT*SSkGsKEUT;RIEUL!-KIYEOK*MIEUM)PIEUP)SIOS(xIEUx+PHIEUPH+HIEUH;MIEUM)PIEUP)SSkGPIEU",
    "P:PIEUP-SIOS:SIOS&SkGSIOS.IEUNG)CIEUC)SSkGCIEUC:CHIEUCH+KHIEUKH+xIEUx+PHIEUPH+HIEUH)A!E%YA!",
    "E&EO$$YEO$%O$WA!E&OE%YO%U$WEO$$I%YU%EU%YI%I,FILiR*iTTjmSkGNIEUN:NIEUN-sKEUT*SIOS(PkSIOS=RIE",
    "UL-KIYEOK-SIOS;sKEUT*PIEUP-SIOS.kSIOS+YEORhHIEUH^MIEUM-PIEUP)SIOS(PkSIOS=KAPYEOUNMIEUM=PIEU",
    "P-KIYEOK*sKEUT*SIOS-KIYEOK*sKEUT;CIEUC)xIEUx=KAPYEOUNPIEUP)SSkGPIEUP_SIOS-KIYEOK*NIEUN)sKEU",
    "T*PIEUP)CIEUC:PkSIOS+SSkGIEUNG:YESIEUNG!-SIOS(PkSIOS]KAPYEOUNPHIEUPH?SSkGHIEUH:YEORhHIEUH:O",
    "-YA!E&I&U-YEO$%I(dAEA!E!!~IDEOGzPHIC kNOTAsl LhKhG MdK<vVjSuMdK<luMdK,TWO MdK+HvuMdK:FOUR M",
    "dK.TOP MdK,MIDDi MdK;BOTTOM MdK;FIRSyMdK:SEClD MdK;xIRD MdK:FOURx MdK;HEAVq MdK;Edx MdK:Mk ",
    "MdK;~BOPOMOFO iTTj BU%ZI%JI%GU%EE$NN&OO$NN&IR%kN&hN&UNN&IM%NGG&AhN&UNN&M%OM$NG&hNN;FhAaP$T$",
    "K$H>iTTj GH%LH%ZY.FhAaG>iTTj GW%KW%OE%AH_CJKmTROKuT$WG%XG%BXG&SW%HZZ$G%P$ZWG(SZWG(HZT$ZP&PW",
    "G&ZW$ZZ(N$H$S$P$SP%D$HZ$G%SZ$WZ%T$G%PD$Z%TN%SZZ%WG&HXWG&ZZZG)PG%Q!!!!!!!!!!!!<KATAKkA iTTjm",
    "MeL KU%SI$U%TO%NU%t$I$U$E$O%MU%z$I$U$E$O(~PdqxESIZpHkGUL KIYEOK*NIEUN)sKEUT*RIEUL)MIEUM)PIE",
    "UP)SIOS(IEUNG)CIEUC(HIEUCH+KHIEUKH+xIEUx+PHIEUPH+HIEUH)KIYEOK A,NIEUN A+sKEUyA,RIEUL A+MIEU",
    "M A+PIEUP A+SIOS A*IEUNG A+CIEUC A*HIEUCH A.KHIEUKH A.xIEUx A.PHIEUPH A.HIEUH A+CIEUC U>KOv",
    "k CHdACTj OJEl( HU!$~IDEOGzPH lE&TWO%HvE)FOUR&IVE(SIX%EVq)Ef)NhE(Tq&MOl(FIv(WATj(OOD(METe)E",
    "dx)SUN%TOCK)tVE(SOCIETY+NAME(SPECIe+FhkCIe.ClGzTULAsl>LABOR)vPvSqT.CeL(STUDY(UPjVISE.qTjPRI",
    "SE:vSOURCE,eLIkCE,FESsVe,vST(SELF(vACH.~CIRCiD IDEOGzPH QUESsl,KhDjGdTq<SCHOOL*KOTO>NUMBj T",
    "q l BLACKmQUdE_WqTY l BLACKmQUdE$~HIRTY l BLACKmQUdE%~FORTY l BLACKmQUdE!~IFTY l BLACKmQUdE",
    "$~SIXTY l BLACKmQUdE!~EVqTY l BLACKmQUdE&~EfY l BLACKmQUdE^~PdTNjSHIPmw]CIRCiD NUMBj TWqTY ",
    "lE&TWO%HvE)FOUR&IVE(SIX%EVq)Ef)NhE:HIRTY! lE&TWO%HvE)FOUR&IVE_HkGUL KIYEOK*NIEUN)sKEUT*RIEU",
    "L)MIEUM)PIEUP)SIOS(IEUNG)CIEUC(HIEUCH+KHIEUKH+xIEUx+PHIEUPH+HIEUH)KIYEOK A,NIEUN A+sKEUyA,R",
    "IEUL A+MIEUM A+PIEUP A+SIOS A*IEUNG A+CIEUC A*HIEUCH A.KHIEUKH A.xIEUx A.PHIEUPH A.HIEUH A>",
    "KOvk CHdACTj CtMKO*JUEUI%~HkGUL IEUNG U%~KOvkmTkDdDmYMBOL%~CIRCiD IDEOGzPH lE&TWO%HvE)FOUR&",
    "IVE(SIX%EVq)Ef)NhE(Tq&MOl(FIv(WATj(OOD(METe)Edx)SUN%TOCK)tVE(SOCIETY+NAME(SPECIe+FhkCIe.ClG",
    "zTULAsl>LABOR)SECvT*MeE(FEMeE*SUITABi,EXCELiNT.PRhT)ATTqsl.ITEM(vST(COPY%RvCT+HIGH(CqTv*Lr%",
    "EFT(Rf)MEDIChE,vLIGIl,STUDY(UPjVISE.qTjPRISE:vSOURCE,eLIkCE,Nf?NUMBj xIRTYmIX%EVq)Ef)NhE;FO",
    "RTY! lE&TWO%HvE)FOUR&IVE(SIX%EVq)Ef)NhE.IFTY!~IDEOGzPHIC TEiGzPHmYMBOL FOR JkUdY+FEBRUdY,Md",
    "CH)APRIL)MAY&JUNE%LY(AUGUST*SEPTEMBj.OCTOBj+NOVEMBj,DECEMBj$~~SQUduHG%jG%V.LIMITpLIABILITYm",
    "w%~CIRCiD KATAKkA A$I$U$E$O$KA$I$U$E$O%SA$I$U$E$O%TA$I$U$E$O%NA$I$U$E$O%t$I$U$E$O%MA$I$U$E$",
    "O%YA$U$O%z$I$U$E$O%WA$I$E$O|SQUdujA NAMuvIWA>APAATO)RUHUA)NPEA(dU(hhGU(s(Ul&ESUKUUDO+EKAA)l",
    "SU&OMU(KAIRI&zTTO(ORII+Gdl&NMA(IGA%NII)KYURII*GIRUDAA+KIRO!GUzMU*MEETORU+WATTO.GUzMU!Tl.KUR",
    "UZEIRO*OlE*EESU(ORUNA(OPO)SAIKURU)NsIMU+IRhGU*qs$O)DAASU(ESI&ORU(Tl&NkO&OTTO)tITU)PAASqTO)T",
    "U)BAdjU+PIASUTORU+KURU&O(BIRU(HUdADDO*IITO*BUSSYjU,HURk(EKUTAdU.PESO%NIHI*HjUTU*PqSU&EZI)BE",
    "ETA)POhTO*BORUTO*Hl&PlDO)HOORU%N(MAIKURO(RU&Ht&RUKU(NSYl*IKURl)RI!BAdU,EGA!Tl)ETORU+YAADO%R",
    "U(Uk(RITTORU)z&UPII&UBURU*EMU%NTOGq,WATTO<IDEOGzPHIC TEiGzPHmYMBOL FOR HOUR ZjO(lE&TWO%HvE)",
    "FOUR&IVE(SIX%EVq)Ef)NhE(Tq&EiVq*TWELVE)HIRTEq,FOURTEq+IFTEq+SIXTEq*EVqTEq.EfEq,NhETEq,TWqTY",
    "!-lE&TWO%HvE)FOUR.~~SQUduHPA&DA%AU%Bd&OV%PC%DM!mQUdED+CUBED,IU%jA NAMuHEISEI*SYOUWA*TAISYOU",
    "+MEIZI>CORPOzsl;PA AMPS+NA%MU A&A%KA$B%MB%GB%Ce&KCe(PF%NF%MU F$G&G%KG%HZ%KHZ&MHZ&GHZ&xZ&MU ",
    "L&L%DL%KL%FM%NM%MU M&M%CM%KM%MMmQUdED:CMmQUdED:MmQUdED.KMmQUdED:MM CUBED,CM CUBED,M CUBED+K",
    "M CUBED,M OVjm!mQUdED]PA%KPA&MPA&GPA&zD! OVjm!mQUdED_PS%NS%MUm&S%PV%NV%MU V&V%KV%MV MEGA+PW",
    "%NW%MU W&W%KW%MW MEGA+K OHM)M OHM)AM%BQ%CC$D$ OVj KG,O%DB%GY%t$P%h%KK$M cL.T%LM$N$OG%X%MBmM",
    "eL+IL%OL&PH$M$PM%R%SR$V%WB%V OVj M,A OVj M?IDEOGzPHIC TEiGzPHmYMBOL FOR DAY lE&TWO%HvE)FOUR",
    "&IVE(SIX%EVq)Ef)NhE(Tq&EiVq*TWELVE)HIRTEq,FOURTEq+IFTEq+SIXTEq*EVqTEq.EfEq,NhETEq,TWqTY!-lE",
    "&TWO%HvE)FOUR&IVE(SIX%EVq)Ef)NhE:HIRTY!-lE+~~SQUduGe"]),
   (19904,
   ["!HEXAGzM FOR xuCvAsVuHEAVq?vCEPsVuEdx|DIFFICULTY AyxuBEGhNhG+~YOUxFUL FOLLY>WAIThG+ClFLICT,",
    "xudMY,HOLDhG TOGExj]SMeL TAMhG<TvADhG,PEACE)STkDSsLL:FELLrSHIP:GvAyPOSSESSIl]MODESTY+qxUSIA",
    "SM:FOLLrhG.WORK l xuDECAYED|APPROACH,ClTEMPLAsl=BIThG xROUGH>GzCE)SPLITThG APdT?vTURN*hNOCq",
    "CE.GvAyTAMhG<MOUx CORNjS=GvAyPvPlDjkCE|xuABYSMe WATj=CLhGhG FIv^hFLUqCE.DUzsl,vTvAT+GvAyPrj",
    ";PROGvSS,DdKqhG OF xuLf%~xuFAMILY:OPPOSIsl.BSTRUCsl;DELIVjkCE.CvASE,hCvASE,BvAKxROUGH<COMhG",
    " TO MEET>GAxjhG TOGExj_PUSHhG UPWdD>OPPvSSIl:xuWELL,vVOLUsl:xuCAULDRl,dOUShG xUNDj]KEEPhGms",
    "LL MOUNTAh*~DEVELOPMqT;xuMdRYhG MAIDq|ABUNDkCE.xuWkDjj,GqTi WhD;JOYOUS LAKE?DISPjSIl:LIMITA",
    "sl:hNj TRUx;SMeL PvPlDjkCE|AFTj COMPisl]BEFORuCOMPisl"]),
   (40960,
   ["!YImYLLABi IT$X$!P$ET$X$!P&AT$X$!P%UOX$!P&OT$X$!P%EX$$WU%BIT$X$!P$ET$X$!P&AT$X$!P%UOX$!P&OT",
    "$X$!P%EX$!P%UT$X$!P$RX$%YT$X$!P$RX$&PIT$X$!P$EX$!P&AT$X$!P%UOX$!P&OT$X$!P%UT$X$!P$RX$%YT$X$",
    "!P$RX$&BBIT$X$!P$ET$X$!P&AT$X$!P%UOX$!P&OT$X$!P%EX$!P%UT$X$!P$RX$%YT$X$!P(NBIT$X$!P$EX$!P&A",
    "T$X$!P%OT$X$!P%UT$X$!P$RX$%YT$X$!P$RX$(HMIT$X$!P$EX$!P&AT$X$!P%UOX$!P&OT$X$!P%UT$X$!P$RX$%Y",
    "X$!P$RX$(MIT$X$!P$EX$!P&AT$X$!P%UOT$X$!P&OT$X$!P%EX$$UT$X$!P$RX$%YT$X$!P&FIT$X$!P%AT$X$!P%O",
    "X$!P%UT$X$!P$RX$%YT$X$!P&VIT$X$!P$ET$X$!P&AT$X$!P%OT$X$!P%EX$P%UT$X$!P$RX$%YT$X$!P$RX$&DIT$",
    "X$!P$EX$!P&AT$X$!P%UOX$%OT$X$!P%EX$!P%UT$X$!P$RX$&sT$X$!P$EX$!P&AT$X$!P%UOT$X$!P&OT$X$!P%EX",
    "$!P%UT$X$!P$RX$&DDIT$X$!P$EX$!P&AT$X$!P%UOX$!P&OT$X$!P%EX$!P%UT$X$!P$RX$(NDIT$X$!P$EX$%AT$X",
    "$!P%OT$X$!P%EX$!P%UT$X$!P$RX$(HNIT$X$!P$ET$X$!P&AT$X$!P%UOX$%OT$X$P%EX$!P%UT(NIT$X$!P$EX$!P",
    "&AX$!P%UOX$!P&OT$X$!P%EX$!P%UT$X$!P$RX$&HLIT$X$!P$EX$!P&AT$X$!P%UOX$!P&OX$!P%EX$!P%UT$X$!P$",
    "RX$%YT$X$!P$RX$(LIT$X$!P$ET$X$!P&AT$X$!P%UOT$X$!P&OT$X$!P%EX$!P%UT$X$!P$RX$%YT$X$!P$RX$&GIT",
    "$X$!P$ET$X$!P&AT$X$!P%UOT$X$!P&OT$X$!P%ET$X$!P%UT$X$!P$RX$&KIT$X$!P$EX$!P&AT$X$!P%UOX$!P&OT",
    "$X$!P%ET$X$!P%UT$X$!P$RX$&GGIT$X$!EX$!P&AT$X$!P%UOT$X$!P&OT$X$!P%ET$X$!P%UT$X$!P$RX$(MGIEX$",
    "%AT$X$!P%UOX$!P&OT$X$!P%EX$!P%UT$X$!P$RX$(HXIT$X$!P$ET$X$!P&AT$X$!P%UOT$X$!P&OT$X$!P%EX$!P(",
    "NGIEX$!P&AT$X$!P%UOT$X$%OT$X$!P%EX$!P(HIT$EX$%AT$X$!P%UOT$X$!P&OT$X$!P%EX$!P&WAT$X$!P%UOX$!",
    "P&OX$!P%EX$!P&ZIT$X$!P$EX$!P&AT$X$!P%UOX$!P&OT$X$!P%EX$!P%UT$X$!P$RX$%YT$X$!P$RX$&CIT$X$!P$",
    "ET$X$!P&AT$X$!P%UOX$!P&OT$X$!P%EX$!P%UT$X$!P$RX$%YT$X$!P$RX$&ZZIT$X$!P$ET$X$!P&AT$X$!P%OX$!",
    "P%EX$!P%UX$!P$RX$%YT$X$!P$RX$(NZIT$X$!P$EX$!P&AT$X$!P%UOX$%OX$P%EX$$UX$!P$RX$%YT$X$!P$RX$(S",
    "IT$X$!P$EX$!P&AT$X$!P%UOX$!P&OT$X$!P%EX$!P%UT$X$!P$RX$%YT$X$!P$RX$%SIT$X$!P$EX$!P&AT$X$!P%O",
    "T$X$!P%EX$!P%UT$X$!P%YT$X$!P$RX$(ZtT$X$!P%UOX$!P&OT$X$!P%ET$X$!P%UT$X$!P$RX$%YT$X$!P$RX$(Ct",
    "T$X$!P%UOT$X$!P&OT$X$!P%ET$X$!P%UX$!P$RX$%YT$X$!P$RX$(RzX$$UOX$%OT$X$!P%ET$X$!P%UT$X$!P$RX$",
    "%YT$X$!P$RX$(NzT$X$!P%OX$!P%ET$X$!P%UT$X$!P$RX$%YT$X$!P$RX$(StT$X$!P%UOX$!P&OT$X$!P%ET$X$!P",
    "%UT$X$!P$RX$%YT$X$!P$RX$(zT$X$!P%UOX$!P&OT$X$!P%EX$!P%UT$X$!P$RX$%YT$X$!P$RX$&JIT$X$!P$ET$X",
    "$!P&UOT$X$!P&OT$X$!P%UT$X$!P$RX$%YT$X$!P$RX$&QIT$X$!P$ET$X$!P&UOT$X$!P&OT$X$!P%UT$X$!P$RX$%",
    "YT$X$!P$RX$&JJIT$X$!P$ET$X$!P&UOX$!P&OT$X$!P%UT$X$!P$RX$%YT$X$!P(NJIT$X$!P$ET$X$!P&UOX$%OT$",
    "X$!P%UX$!P$RX$%YT$X$!P$RX$&YIT$X$!P$ET$X$!P&UOX$!P&OT$X$!P%UT$X$!P(XIT$X$!P$ET$X$!P&UOX$%OT",
    "$X$!P%YT$X$!P$RX$&YIT$X$!P$ET$X$!P&UOT$X$!P&OT$X$!P%UT$X$!P$RX$%YT$X$!P$RX$!!!<zDICe QOT&LI",
    "%KIT&NYIP(CYP&SSI&GGOP&EP&MI%HXIT(LYR&BBUT(MOP&YO%PUT&HXUO(TAT&GA%ZUP&CYT&DDUR(BUR&GGUO(NYO",
    "P(TU%OP%JJUT(ZOT&PYT&HMO&YIT&VUR&SHY&VEP&ZA%JO%NZUP(JJY&GOT&JJIE(WO%DU%SHUR(LIE&CY$UOP&IP&H",
    "XOP(StT(ZUR&SHOP(CHE&ZZIET)NBIE(KE!!!!!!!!!=LISU iTTj BA%PA$t&DA%TA$t&GA%KA$t&JA%CA$t&DZA&T",
    "SA$t(MA%NA%LA%SA%Zt%A%NGA&t%XA%Ht&FA%WA%St&YA%Gt&A!E%E!U%I$O$U!E$H%OE%TluMYA s*NA PO)MYA CY",
    "A&BO%NA%JEU|PUNCTUAsl COMMA)FULLmTOP*~VAImYLLABi EE!N&HEE&WEE!N(PEE&BHEE&EE&MBEE(KPEE(MGBEE",
    ")GBEE(FEE&VEE&TEE%HEE(DHEE%HEE)iE&vE&DEE&NDEE(SEE%HEE(ZEE%HEE(CEE&JEE&NJEE(YEE&KEE&NGGEE)GE",
    "E&MEE&NEE%YEE(I!N%HI!N&WI!N&PI%BHI%I%MBI&KPI&MGBI(GBI&FI%VI%s$HI&DHI$HI(LI%RI%DI%NDI&SI$HI&",
    "ZI$HI&CI%JI%NJI&YI%KI%NGGI(GI%MI%NI$YI&A!N%NGk(t!N&WA!N&PA%Bt%A%MBA&KPA!N(MGBA(GBA&FA%VA%TA",
    "$t&Dt$t(LA%z%DA%NDA&SA$t&ZA$t&CA%JA%NJA&YA%KA!N&NGGA(GA%MA%NA$YA&OO!N&HOO&WOO!N(POO&BHOO&OO",
    "&MBOO(KPOO(MGBOO)GBOO(FOO&VOO&TOO%HOO(DHOO%HOO)LOO&ROO&DOO&NDOO(SOO%HOO(ZOO%HOO(COO&JOO&NJO",
    "O(YOO&KOO&NGGOO)GOO&MOO&NOO%YOO(U!N%HU!N&WU!N&PU%BHU%U%MBU&KPU&MGBU(GBU&FU%VU%TU$HU&DHU$HU(",
    "LU%RU%DU%NDU&SU$HU&ZU$HU&CU%JU%NJU&YU%KU%NGGU(GU%MU%NU$YU&O!N%NGl(HO!N&WO!N&PO%BHO%O%MBO&KP",
    "O&MGBO(GBO!N(FO%VO%TO$HO&DHO$HO(LO%RO%DO%NDO&SO$HO&ZO$HO&CO%JO%NJO&YO%KO%NGGO(GO%MO%NO$YO&E",
    "!N%NGq(HE!N&WE!N&PE%BHE%E%MBE&KPE!N(MGBE(GBE!N(FE%VE%TE$HE&DHE$HE(i%v%DE%NDE&SE$HE&ZE$HE&CE",
    "%JE%NJE&YE%KE%NGGE!N)GE!N&ME%NE$YE%G%iNGxqj|COMMA)FULLmTOP.QUESsl MdK=SYLLABi NDOi FA%KA%SO",
    "O]MBOL FEqG)KEqG)ThG(NII&BkG(FAA&TAA&DkG&OlG)KUNG(TlG(DO-O(JlG;DIGIyZjO(lE&TWO%HvE)FOUR&IVE",
    "(SIX%EVq)Ef)NhE:SYLLABi NDOi MA%DO"]),
   (42560,
   ["!CYRILLIC caZEMLYA$~SMeaZEMLYA|caDZELO!~SMeaDZELO_cavVjSpDZE+~SMeavVjSpDZE)~caIOTA|SMeaIOTA",
    "^caDJjV!~SMeaDJjV_caMlOGzPH UK+~SMeaMlOGzPH UK)~caBROAD OMEGA*~SMeaBROAD OMEGA(~caNEUTRe Yj",
    "*~SMeaNEUTRe Yj(~caYjUbBACK Yj=~SMeaYjUbBACK Yj;~caIOsFIpYAT+~SMeaIOsFIpYAT)~cavVjSpYU*~SMe",
    "avVjSpYU(~caIOsFIpA)~SMeaIOsFIpA&~caCLOSpLITTi YUS<~SMeaCLOSpLITTi YUS:~caBiNDpYUS*~SMeaBiN",
    "DpYUS(~caIOsFIpCLOSpLITTi YUS$~~SMeaIOsFIpCLOSpLITTi YUS|~caYN^SMeaYN?cavVjSpTSE+~SMeavVjSp",
    "TSE)~caSOFyDE%~SMeaSOFyDE!~caSOFyEL%~SMeaSOFyEL!~caSOFyEM%~SMeaSOFyEM!~caMlOCULd O*~SMeaMlO",
    "CULd O(~caBhOCULd O*~SMeaBhOCULd O(~caDOUBi MlOCULd O=~SMeaDOUBi MlOCULd O;~iTTj MULsOCULd ",
    "O,~OMBhhG CYRILLIC VZMET)Tq MILLIlSmw^HUNDRpMILLIlSmw$~xOUSkD MILLIlSmw$~~SLAVlIC ASTjISK^C",
    "OMBhhG CYRILLIC iTTj UKzhIk IE<I$YI%U$HdDmw.YjU(SOFTmw.OMEGA<KAVYKA*PAYjOK)~YRILLIC KAVYKA*",
    "PAYjOK+caDWE_SMeaDWE]caDZWE|SMeaDZWE^caZHWE|SMeaZHWE^caCCHE|SMeaCCHE^caDZZE|SMeaDZZE^caTEbM",
    "IDDi HOOK>~SMeaTEbMIDDi HOOK<~caTWE_SMeaTWE]caTSWE|SMeaTSWE^caTSSE|SMeaTSSE^caTCHE|SMeaTCHE",
    "^caHWE_SMeaHWE]caSHWE|SMeaSHWE^caDOUBi O&~SMeaDOUBi O$~caCROSSpO(~SMeaCROSSpO;~MODIFIj iTTj",
    " CYRILLIC HdDmw.SOFTmw>~COMBhhG CYRILLIC iTTj EF%IOsFIpE]~BAMUM iTTj A$KA%U$KU%EE%vE&TAE&O$",
    "NYI&I$LA%PA%RII$EE(iEEE)MEEEE)TAA&NDAA&JAEM)M$SUU&MU%SHII&I$HEUX(EUX(KYEE&ET&NUAE%$JUAE)YOQ",
    "&SHU&YUQ%A%NSt(KEUX(PEUX(NJEE&TEE(PUE&WUE&PEE&FEE&RU%LU%MI%NI%vUX&AE&Kq&NGKWAq)GA%A&SHO&PUA",
    "E(FU$OM&WA%NA%LI%PI%LOQ&KO%MBq(Rq&Mq%A%s%KI%MO$BAA(TET&KPA&Tq&NTUU(SAMBA)FAAMAE*KOVUU&GHOM=",
    "COMBhhG MdK KOQNDl+TUKWqsS(~NJAEMLI+FULLmTOP.COLl&MMA)SEMICOLl.QUESsl MdK!!!!!!!!|MODIFIj i",
    "TTj CHhESuTluYh PhG+kG PhG,hmHkG,kGmHkG.h QU)kG QU*h RU)kG RU!~EXTz-HIGH DOTTpTluBd*~HIGH D",
    "OTTpTluBd!~MID DOTTpTluBd|Lr DOTTpTluBd|EXTz-Lr DOTTpTluBd|HIGH DOTTpiFT-STEM TluBd]~HIGH D",
    "OTTpiFT-STEM TluBd:~MID DOTTpiFT-STEM TluBd.~Lr DOTTpiFT-STEM TluBd.~EXTz-Lr DOTTpiFT-STEM ",
    "TluBd.~HIGH iFT-STEM TluBd.~HIGH iFT-STEM TluBd&~MID iFT-STEM TluBd%~Lr iFT-STEM TluBd%~EXT",
    "z-Lr iFT-STEM TluBd,~DOyVjsCe Bd<SLASH)HORIZlTe Bd_Lrj Rf CORNj kGi(~zISpUP dRr,DrN dRr:EXC",
    "LAMAsl MdK]hVjTpEXCLAMAsl MdK<~Lr hVjTpEXCLAMAsl MdK.~STvSS kD HIGH TlE.Lr TlE?~LATh caEGYP",
    "TOLOGICe eEF=~SMeaEGYPTOLOGICe eEF;~caEGYPTOLOGICe Ah<~SMeaEGYPTOLOGICe Ah:~caHqG|SMeaHqG^c",
    "aTZ^SMeaTZ?caTvSILLO&~SMeaTvSILLO$~caCUATRILLO(~SMeaCUATRILLO%~caCUATRILLObCOMMA?~SMeaCUATR",
    "ILLObCOMMA=~iTTjmMeL cL F$S%~caAA^SMeaAA?caAO^SMeaAO?caAU^SMeaAU?caAV^SMeaAV?caAVbHORIZlTe ",
    "Bd^~SMeaAVbHORIZlTe Bd?~caAY^SMeaAY?cavVjSpCbDOT>~SMeavVjSpCbDOT<~caKbSTROKE,~SMeaKbSTROKE*",
    "~caKbDIAGlemTROKE^~SMeaKbDIAGlemTROKE?~caKbSTROKukD DIAGlemTROKE,~~SMeaKbSTROKukD DIAGlemTR",
    "OKE*~~caBROKq L&~SMeaBROKq L$~caLbHIGHmTROKE=~SMeaLbHIGHmTROKE;~caObLlGmTROKuOVjLAY$~~SMeaO",
    "bLlGmTROKuOVjLAY|~caObLOOP*~SMeaObLOOP(~caOO^SMeaOO?caPbSTROKuxROUGH DESCqDj*~~SMeaPbSTROKu",
    "xROUGH DESCqDj(~~caPbFLOURISH:~SMeaPbFLOURISH,~caPbSQUIRvL TAIL?~SMeaPbSQUIRvL TAIL=~caQbST",
    "ROKuxROUGH DESCqDj*~~SMeaQbSTROKuxROUGH DESCqDj(~~caQbDIAGlemTROKE^~SMeaQbDIAGlemTROKE?~caR",
    " ROTUNDA(~SMeaR ROTUNDA%~caRUM ROTUNDA*~SMeaRUM ROTUNDA(~caVbDIAGlemTROKE^~SMeaVbDIAGlemTRO",
    "KE?~caVY^SMeaVY?caVISIGOxIC Z+~SMeaVISIGOxIC Z)~caxORNbSTROKE<~SMeaxORNbSTROKE:~caxORNbSTRO",
    "KuxROUGH DESCqDj:~~SMeaxORNbSTROKuxROUGH DESCqDj,~~caVqD|SMeaVqD^caET^SMeaET?caIS^SMeaIS?ca",
    "Cl_SMeaCl%~MODIFIj iTTj US_LAThmMeaDUM&LUM&MUM&NUM&RUM]iTTjmMeL cL RUM(~SMeaTUM&UM?cahSULd ",
    "D(~SMeahSULd D%~cahSULd F(~SMeahSULd F%~cahSULd G.TURNphSULd G;~SMeaTURNphSULd G.~caTURNpL&",
    "~SMeaTURNpL$~cahSULd R(~SMeahSULd R%~cahSULdm(~SMeahSULdm%~cahSULd T(~SMeahSULd T,~MODIFIj ",
    "iTTj Lr CIRCUMFiX ACCqT$~COLl)SHORyEQUeSmw=~LATh caSesLLO&~SMeaSesLLO$~caTURNpH&~SMeaLbvTRO",
    "FiX HOOK kD BELT&~~iTTjmhOLOGICe DOT%~caNbDESCqDj;~SMeaNbDESCqDj.~caCbBd)~SMeaCbBd&PeATe HO",
    "OK|HbPeATe HOOK<~caBbFLOURISH:~SMeaBbFLOURISH,~caFbSTROKE,~SMeaFbSTROKE*~caVOLAPUK AE)~SMea",
    "VOLAPUK AE&~caVOLAPUK OE)~SMeaVOLAPUK OE&~caVOLAPUK UE)~SMeaVOLAPUK UE&~caGbOBLIQUEmTROKE]~",
    "SMeaGbOBLIQUEmTROKE>~caKbOBLIQUEmTROKE]~SMeaKbOBLIQUEmTROKE>~caNbOBLIQUEmTROKE]~SMeaNbOBLIQ",
    "UEmTROKE>~caRbOBLIQUEmTROKE]~SMeaRbOBLIQUEmTROKE>~caSbOBLIQUEmTROKE]~SMeaSbOBLIQUEmTROKE>~c",
    "aHbHOOK;vVjSpOPq E?SCRIPyG,LbBELT;SMeL cL I:~iTTjmMeL cL Q%~caTURNpK$T,JbCROSSED-TAIL|CHI&B",
    "ETA|SMeaBETA^caOMEGA!~SMeaOMEGA_caUbSTROKE,~SMeaUbSTROKE*~caGLOTTe A(~SMeaGLOTTe A%~caGLOTT",
    "e I(~SMeaGLOTTe I%~caGLOTTe U(~SMeaGLOTTe U%~caOLD POLISH O+~SMeaOLD POLISH O)~cakGLICkA W*",
    "~SMeakGLICkA W(~caCbPeATe HOOK|SbHOOK;ZbPeATe HOOK|DbSHORTmTROKuOVjLAY%~~SMeaDbSHORTmTROKuO",
    "VjLAY!~~caSbSHORTmTROKuOVjLAY%~~SMeaSbSHORTmTROKuOVjLAY!!!!!!~~caCLOSphSULd G;~SMeaCLOSphSU",
    "Ld G!]DOUBi xORN!)WYNN(~caMIDDimCOTSm.~SMeaMIDDimCOTSm+~caSIGMOIDm(~SMeaSIGMOIDm"]),
   (42994,
   ["!MODIFIj iTTj cL C$F$Q)~LATh cavVjSpHeF H:~SMeavVjSpHeF H,~EPIGzPHIC iTTjmIDEWAYS I>~MODIFI",
    "j iTTj cL HbSTROKE$~SMeL LIGATURuOE=~LATh iTTjmMeL cL TURNpM.~EPIGzPHIC iTTj vVjSpF$P:hVjTp",
    "M. LlGA+dCtIC M=~SYLOs NAGRI iTTj A$I,Sw DVISVdA=iTTj U$E$O,Sw tSkTA<iTTj KO$HO&GO$HO:Sw kU",
    "SVdA=iTTj CO$HO&JO$HO&TTO$HO(DDO$HO(TO$HO&DO$HO&NO%PO$HO&BO$HO&MO%RO%LO%RRO&SO%HO.VrELmw A$",
    "I$U$E$OO=POETRY MdK-1$2$3$4=Sw eTjNATutSkTA!!!?~NORx hDIC FzCsl luQUdTj+HeF,xvuQUdTjS>lEmIX",
    "TEqx.EfH:xvEmIXTEqxS)~QUdTj MdK<PLACEHOLDj MdK]RUPEuMdK:QUksTY MdK!!!!!!)~PtGS-PA iTTj KA$t",
    "&GA%NGA&CA$t&JA%NYA&TA$t&DA%NA%PA$t&BA%MA%TSA$t(DZA&WA%Zt%A%SMeL A+YA%z%LA%St%A%t%A$I$U$E$O",
    "$QA%XA%FA%GGA&EE.SUBJOhpiTTj WA%YA|iTTj TTA$t(DDA&NNA&eTjNATuYA<VOICEiSSmt,D t.ASPIzTpFA|SU",
    "BJOhpiTTj z^PjFIXpiTTj z!~iTTj CkDzBhDU_ShGi HEAD MdK]DOUBi HEAD MdK]MdKmtD(DOUBimtD!!!!!!!",
    "!)~SAUzSHTzmw kUSVdA,VISdGA<iTTj A!A%I!I%U!U%VOCeIC R!R%L!L:E!E%AI%O!O%AU%KA$t&GA$t&NGA&CA$",
    "t&JA$t&NYA&TTA$t(DDA$t(NNA&TA$t&DA$t&NA%PA$t&BA$t&MA%YA%z%LA%VA%St%SA%A%t%LLA:ClSlkTmw tdU!",
    "~VrELmw AA%I!I%U!U%VOCeIC R!R%L!L:E!E%AI%O!O%AU=Sw VIzMA*CkDzBhDU!!!!!!!!]DkDA(OUBi DkDA;IG",
    "IyZjO(lE&TWO%HvE)FOUR&IVE(SIX%EVq)Ef)NhE!!!!!!$~COMBhhG DEVkAGdI DIGIyZjO(lE&TWO%HvE)FOUR&I",
    "VE(SIX%EVq)Ef)NhE:iTTj A$U$KA%NA%PA%z%VI.Sw AVAGzt>~DEVkAGdImwmPAChG CkDzBhDU|CkDzBhDU VIzM",
    "A_DOUBi CkDzBhDU VIzMA)~CkDzBhDU TWO%HvE)AVAGzt!~PUSHPIKA=GAP FILiR:CdET)HEADSTROKE:SwmIDDt",
    "M<JAh OM+iTTj AY.VrELmw AY(~KAYAH LI DIGIyZjO(lE&TWO%HvE)FOUR&IVE(SIX%EVq)Ef)NhE:iTTj KA$t&",
    "GA%NGA&SA$t&ZA%NYA&TA%HTA&NA%PA$t&MA%DA%BA%z%YA%LA%WA%Tt&t%VA%CA%A$OE%I$OO.VrEL UE%E$U$EE%O",
    "+TluPLOPHU*CeYA! PLOPHU^Sw CWI&SHYA_vJkG iTTj KA%GA%NGA&TA%DA%NA%PA%BA%MA%CA%JA%NYA&SA%z%LA",
    "%YA%WA%t%MBA&NGGA&DA%YJA(A,VrELmw I$U$E$AI%O$AU%EU$A=ClSlkTmw NG$$R$H]VIzMA!!!!!!!!!!!*SECs",
    "l MdK|HkGUL CHOSElG sKEUT-MIEUM)PIEUP)SIOS(CIEUC<RIEUL-KIYEOK*SSkGKIYEOK;sKEUT*SSkGsKEUT;MI",
    "EUM)PIEUP)SSkGPIEUP:KAPYEOUNPIEUP=SIOS(CIEUC)KHIEUKH=MIEUM-KIYEOK*sKEUT*SIOS:PIEUP-SIOS-xIE",
    "Ux<KHIEUKH+HIEUH;SSkGSIOS-PIEUP?IEUNG-RIEUL)HIEUH;SSkGCIEUC-HIEUH;xIEUx<PHIEUPH-HIEUH=HIEUH",
    "-SIOS:SSkGYEORhHIEUH!!!<~JAVkESEmw PkYkGGA.CECAK)LAYd)WwYk<iTTj A$I KAWI)!I%U$PA CjEK,NGA i",
    "iT! zSWADI^E$AI%O$KA!mASAK)MURDA,GA! MURDA,NGA&CA! MURDA,JA%NYA MURDA.JA MAtPRkA<NYA&TTA! M",
    "AtPRkA=DDA! MAtPRkA=NA MURDA,TA! MURDA,DA! MAtPRkA<NA%PA! MURDA,BA! MURDA,MA%YA%z! AGUNG,LA",
    "%WA%SA MURDA(AtPRkA:%t.Sw CECAK TELU?VrELmw TdUNG)OLlG*WULU! MELIK:SUKU! MqDUT;TehG*DIRGA M",
    "Uv:PEPET]ClSlkTmw KjET)PqGKe+CAKz!~PkGKl+iFyRjqGGk>Rf RjqGGk?PADA kDAP)MADYA)LUHUR)WhDU)PkG",
    "KAT+LhGSA)UNGSI*ADEG! ADEG.PISEiH<TURNpPADA PISEiH!|PkGRkGKEP;DIGIyZjO(lE&TWO%HvE)FOUR&IVE(",
    "SIX%EVq)Ef)NhE!!!!:PADA sRTA TUMETES=ISq-ISq&~MYkMd iTTjmHk Gt&Ct&Jt&NNA&Bt?SwmHkmAW=MODIFI",
    "j iTTjmHk vDUPLICAsl>~iTTj TAI LAhG NYA&FA%GA$t&JA$t&DDA$t(NNA!~TAI LAhG DIGIyZjO(lE&TWO%Hv",
    "E)FOUR&IVE(SIX%EVq)Ef)NhE!~iTTj TAI LAhG LLA&DA$t&BA$t!,~CtM iTTj A$I$U$E$AI%O$KA$t&GA$t&NG",
    "UE%A&Ct$t(JA$t&NHUE%A$JA(TA$t&DA$t&NUE%A%DDA&PA$PA%t&BA$t&MUE%A%BBA&YA%z%LA%VA%SSA%A%t.VrEL",
    "mw AA%I!I%EI%U$OE$$AI$U%UE=ClSlkTmw YA%z%LA%WA!!!!!!!!!^iTTj Fhe K$G$NG?ClSlkTmw Fhe NG&~iT",
    "Tj Fhe CH%T$N$P$Y$R$L$SS?ClSlkTmw Fhe M$H!!%~DIGIyZjO(lE&TWO%HvE)FOUR&IVE(SIX%EVq)Ef)NhE!!:",
    "PUNCTUAslmPIRe*DkDA(OUBi DkDA<TRIPi DkDA.~MYkMd iTTj KtMs GA%CA$t&JA$t&NYA&TTA$t(DDA$t&t&NA",
    "%SA%t$t&FA]MODIFIj iTTj KtMs vDUPLICAsl]~iTTj KtMs XA%ZA%z?OGOGzM KtMs OAY&QN%HM_SYMBOL AIT",
    "l EXCLAMAsl;lE&TWO]iTTj AITl z?Sw PAO Kdq TlE>TAI LAhG TlE-2$5$~iTTjmHWuPeAUNG Ct&St;~TAI V",
    "IEyiTTj Lr KO*HIGH KO+Lr KHO+HIGH KHO,Lr KHHO,HIGH KHHO.Lr GO*HIGH GO+Lr NGO+HIGH NGO,Lr CO",
    "*HIGH CO+Lr CHO+HIGH CHO,LrmO*HIGHmO+Lr NYO+HIGH NYO,Lr DO*HIGH DO+Lr TO*HIGH TO+Lr xO+HIGH",
    " xO,Lr NO*HIGH NO+Lr BO*HIGH BO+Lr PO*HIGH PO+Lr PHO+HIGH PHO,Lr FO*HIGH FO+Lr MO*HIGH MO+L",
    "r YO*HIGH YO+Lr RO*HIGH RO+Lr LO*HIGH LO+Lr VO*HIGH VO+Lr HO*HIGH HO+Lr O)HIGH O=MAI KkG,Vr",
    "EL AA%I$UE$$E$O+MAI KHIT,VrEL IA%UEA%A%AUE%Y$N$M,TluMAI EK%NUqG)xO&SlG"]),
   (43739,
   ["!TAI VIETmYMBOL Kl&NUqG)SAM&HO HOI*KOI KOI&~MEETEI MAYEK iTTj E$O$Ct&NYA&TTA$t(DDA$t(NNA&St",
    "%SA:VrELmw II%UU%AAI%U$AU>CHEIKHk,AHkG KHUDAM;NJI(SYLLABi vPEssl MdK(~WORD vPEssl MdK!~VrEL",
    "mw VISdGA^IzMA!!!!!!!!!!|ExIOPICmYLLABi TxU$I$AA%EE$$O!!(DDHU$I$AA%EE$$O!!&ZU$I$AA%EE$$O!!!",
    "!!!!!!&CCHt$U$I$AA%EE$$O!)BBA$U$I$AA%EE$$O!$~LAThmMeaBdRpePt<A vVjSED-SCHWA]BLACKiTTj E<dRp",
    "E,EbFLOURISH?iNIS F+SCRIPyGbCROSSED-TAIL*~LbhVjTpLAZYm?DOUBi MIDDi sLDE|MIDDi RhG_MbCROSSED",
    "-TAIL|NbCROSSED-TAIL|qGbCROSSED-TAIL$~BLACKiTTj O!bSTROKE)~OPq ObSTROKE_hVjTpOE;TURNpOEbSTR",
    "OKE*HORIZlTemTROKE(~ OPq-O!bSTROKE+~SsRRUP R%~iTTjmMeL cL RbRf iG^~SMeaR WIxOUyHkDi]DOUBi R",
    ",RbCROSSED-TAIL|DOUBi RbCROSSED-TAIL*~SCRIPyR!bRhG_BASELhuESH<UbSHORyRf iG!~BdbSHORyRf iG)~",
    "I%TURNpUI.UbiFyHOOK]CHI!bLr Rf RhG:iFTmjIF&~XbLr Rf RhG<NG iFyiG! kD Lr Rf RhG_WIxmjIF;~YbS",
    "HORyRf iG$~~MODIFIj BvVEbhVjTpBvVE)~iTTjmMeL HqG(LbhVjTpLAZYm?MIDDi sLDE|UbiFyHOOK_~LAThmMe",
    "aSAKt YAT.IOsFIpE:OPq OE+UO%hVjTpePt=~GvEK iTTjmMeL cL OMEGA<~LAThmMeaDZ DIGzPHbvTROFiX HOO",
    "K:~TS DIGzPHbvTROFiX HOOK.~URNpRbMIDDi sLDE)~~MODIFIj iTTjmMeL TURNpW>iFyTACK.Rf TACK!!!!*~",
    "CHjOKEEmMeaA$E$I$O$U$V$GA%KA%GE$I$O$U$V%t$E$I$O$U$V%LA$E$I$O$U$V%MA$E$I$O$U%NA%HNA&NAH%E$I$",
    "O$U$V%QUA$E$I$O$U$V&SA$!E$I$O$U$V%DA%TA%DE%TE%DI%s%DO$U$V$LA&TLA$E$I$O$U$V%SA$E$I$O$U$V&WA$",
    "E$I$O$U$V%YA(~MEETEI MAYEK iTTj KOK&SAM&LAI&MIT&PA%NA%CHIL(sL&KHOU(NGOU(xOU(WAI&YkG(HUK&UN%",
    "I$PtM(AsYA)GOK&JtM(zI&BA%JIL&DIL&GHOU(DHOU(BtM(KOK LlSUM:LAI LlSUM:MIyLlSUM:PA LlSUM.NA LlS",
    "UM.sL LlSUM:NGOU LlSUM;I LlSUM?VrELmw lAP(hAP(kAP(YqAP)SOUNAP*UNAP(CHEhAP+NUNG?CHEIKHEI,LUM",
    " IYEK,APUN IYEK!!.DIGIyZjO(lE&TWO%HvE)FOUR&IVE(SIX%EVq)Ef)NhE"]),
   (55216,
   ["!HkGUL JUNGSElG O-YEO&O-I)YO-A!E%EO)U-YEO&I-I)YU-AE%O(EU-A$EO$$O(I-YA-O%E%EO$%O-I&YO$U%I&dA",
    "EA-A$E!!!!]lGSElG NIEUN-RIEUL)CHIEUCH=SSkGsKEUT!-PIEUP^sKEUT-PIEUP)SIOS!-KIYEOK;CIEUC(HIEUC",
    "H+xIEUx>RIEUL-SSkGKIYEOK;KIYEOK-HIEUH_SSkGRIEUL-KHIEUKH_RIEUL-MIEUM-HIEUH;PIEUP-sKEUT*PHIEU",
    "PH=YESIEUNG*ORhHIEUH-HIEUH&~KAPYEOUNRIEUL=MIEUM-NIEUN)SSkGNIEUN]SSkGMIEUM:MIEUM-PIEUP-SIOS:",
    "CIEUC;PIEUP-sKEUT*RIEUL-PHIEUPH=MIEUM;SSkGPIEUP:PIEUP-SIOS-sKEUT;CIEUC(HIEUCH=SIOS-MIEUM)KA",
    "PYEOUNPIEUP^SkGSIOS-KIYEOK*sKEUT?IOS-PkSIOS+CIEUC(HIEUCH+xIEUx+HIEUH:PkSIOS-PIEUP)KAPYEOUNP",
    "IEUP$~YESIEUNG-MIEUM)HIEUH>CIEUC-PIEUP)SSkGPIEUP]SSkGCIEUC:PHIEUPH-SIOS(xIEUx"]),
   (63744,
   ["!CJK COMPAsBILITY IDEOGzPH-F900$1$2$3$4$5$6$7$8$9$A$B$C$D$E$F%10$1$2$3$4$5$6$7$8$9$A$B$C$D$",
    "E$F%20$1$2$3$4$5$6$7$8$9$A$B$C$D$E$F%30$1$2$3$4$5$6$7$8$9$A$B$C$D$E$F%40$1$2$3$4$5$6$7$8$9$",
    "A$B$C$D$E$F%50$1$2$3$4$5$6$7$8$9$A$B$C$D$E$F%60$1$2$3$4$5$6$7$8$9$A$B$C$D$E$F%70$1$2$3$4$5$",
    "6$7$8$9$A$B$C$D$E$F%80$1$2$3$4$5$6$7$8$9$A$B$C$D$E$F%90$1$2$3$4$5$6$7$8$9$A$B$C$D$E$F%A0$1$",
    "2$3$4$5$6$7$8$9$A$B$C$D$E$F%B0$1$2$3$4$5$6$7$8$9$A$B$C$D$E$F%C0$1$2$3$4$5$6$7$8$9$A$B$C$D$E",
    "$F%D0$1$2$3$4$5$6$7$8$9$A$B$C$D$E$F%E0$1$2$3$4$5$6$7$8$9$A$B$C$D$E$F%F0$1$2$3$4$5$6$7$8$9$A",
    "$B$C$D$E$F&A00$1$2$3$4$5$6$7$8$9$A$B$C$D$E$F%10$1$2$3$4$5$6$7$8$9$A$B$C$D$E$F%20$1$2$3$4$5$",
    "6$7$8$9$A$B$C$D$E$F%30$1$2$3$4$5$6$7$8$9$A$B$C$D$E$F%40$1$2$3$4$5$6$7$8$9$A$B$C$D$E$F%50$1$",
    "2$3$4$5$6$7$8$9$A$B$C$D$E$F%60$1$2$3$4$5$6$7$8$9$A$B$C$D!!%70$1$2$3$4$5$6$7$8$9$A$B$C$D$E$F",
    "%80$1$2$3$4$5$6$7$8$9$A$B$C$D$E$F%90$1$2$3$4$5$6$7$8$9$A$B$C$D$E$F%A0$1$2$3$4$5$6$7$8$9$A$B",
    "$C$D$E$F%B0$1$2$3$4$5$6$7$8$9$A$B$C$D$E$F%C0$1$2$3$4$5$6$7$8$9$A$B$C$D$E$F%D0$1$2$3$4$5$6$7",
    "$8$9"]),
   (64256,
   ["!LAThmMeL LIGATURuFF$I$L$FI$L&LlGm T,ST!!!!!!!!!!!!&~dMqIkmMeL LIGATURuMq Nr&ECH&hI+VEW Nr+",
    "Mq XEH!!!!!;~HEBvW iTTj YODbHIRIQ$~POhyJUDEO-SPkISH VdIKA*~LIGATURuYIDDISH YOD YOD PATAH.~E",
    "TTj eTjNAsVuAYh]WIDueEF(DeET)HE%KAF&LAMED)Fhe MEM.vSH(TAV,eTjNAsVuPLUSmw$~SHhbSHh DOT+h DOT",
    "+DAGESH kDmHh DOT+h DOT,~eEFbPATAH)QAMATS*MAPIQ?BETbDAGESH?GIMELbDAGESH^DeETbDAGESH^HEbMAPI",
    "Q=VAVbDAGESH?ZAYhbDAGESH!^TETbDAGESH?YODbDAGESH?Fhe KAFbDAGESH$~KAFbDAGESH?LAMEDbDAGESH!^ME",
    "MbDAGESH!?NUNbDAGESH?SAMEKHbDAGESH!_Fhe PEbDAGESH!~PEbDAGESH!>TSADIbDAGESH^QOFbDAGESH?vSHbD",
    "AGESH]SHhbDAGESH]TAVbDAGESH?VAVbHOLAM>BETbzFE=KAFbzFE=PEbzFE_IGATURueEF LAMED*~dABIC iTTj e",
    "EF WASLAog=Fheg$~BEEHog=Fheg:hIseg<MEDIeg]PEHog=Fheg:hIseg<MEDIeg?BEHEHog=Fheg:hIseg<MEDIeg",
    "^TTEHEHog=Fheg:hIseg<MEDIeg^EHEHog=Fheg:hIseg<MEDIeg]TEHog=Fheg:hIseg<MEDIeg]VEHog=Fheg:hIs",
    "eg<MEDIeg?PEHEHog=Fheg:hIseg<MEDIeg^DYEHog=Fheg:hIseg<MEDIeg]NYEHog=Fheg:hIseg<MEDIeg]TCHEH",
    "og=Fheg:hIseg<MEDIeg<EHog=Fheg:hIseg<MEDIeg|DDAHeog=Fheg]AHeog=Fheg?ULog=Fheg=Deog=Fheg?JEH",
    "og=Fheg>RvHog=Fheg?KEHEHog=Fheg:hIseg<MEDIeg^GAFog=Fheg:hIseg<MEDIeg>UEHog=Fheg:hIseg<MEDIe",
    "g]NGOEHog=Fheg:hIseg<MEDIeg]Ol GHUNNAog=Fheg%~RNOlog=Fheg:hIseg<MEDIeg^HEHbYEHnog=Fheg)~GOe",
    "og=Fheg:hIseg<MEDIeg]DOACtSHMEEog=Fheg:hIseg<MEDIeg+~YEH BdvEog=Fheg:WIx tMZAnog=Fheg)~~SYM",
    "BOL DOTn)BELr.TWO DOTSn)BELr=HvuDOTSn)BELr)POhThG DrNWdDSn)BELr?~FOUR DOTSn)BELr?DOUBi VjsC",
    "e Bd BELr)~TWO DOTS VjsCeLYn)BELr)~RhG(SMeL TAHn)BELr?WASLAn!!!!!!!!!!!!!!!!_iTTj NGog=Fheg",
    ":hIseg<MEDIeg>Uog=Fheg<OEog=Fheg=YUog=Fheg=UbtMZAnog<~VEog=Fheg=KIRGHIZ OEog=Fheg=YUog=Fheg",
    "$~Eog=Fheg:hIseg<MEDIeg=UIGHUR KAZAKH KIRGHIZ eEF MAKSUz hIseg<MEDIeg<~~IGATURuYEHbtMZAnbeE",
    "Fog=Fheg>Eog=Fheg=WAWog=Fheg>Uog=Fheg<OEog=Fheg=YUog=Fheg=Eog=Fheg:hIseg!~~UIGHUR KIRGHIZ Y",
    "EHbtMZAnbeEF MAKSUzog=Fheg:hIseg>~~~ETTj FdSI YEHog=Fheg:hIseg<MEDIeg+~IGATURuYEHbtMZAnbJEE",
    "Mog_tHog^MEEMog_eEF MAKSUzog*~YEHog&~~BEHbJEEMog_tHog^KtHog_MEEMog_eEF MAKSUzog*~YEHog*~TEH",
    "bJEEMog_tHog^KtHog_MEEMog_eEF MAKSUzog*~YEHog)~HEHbJEEMog_MEEMog_eEF MAKSUzog*~YEHog+~JEEMb",
    "tHog^MEEMog,~tHbJEEMog_MEEMog+~KtHbJEEMog_tHog^MEEMog,~SEqbJEEMog_tHog^KtHog_MEEMog+~ADbtHo",
    "g^MEEMog+~DADbJEEMog_tHog^KtHog_MEEMog+~TAHbtHog^MEEMog+~ZAHbMEEMog+~AhbJEEMog_MEEMog+~Gthb",
    "JEEMog_MEEMog.~FEHbJEEMog_tHog^KtHog_MEEMog_eEF MAKSUzog*~YEHog*~QAFbtHog^MEEMog_eEF MAKSUz",
    "og*~YEHog*~KAFbeEFog_JEEMog_tHog^KtHog_LAMog^MEEMog_eEF MAKSUzog*~YEHog*~LAMbJEEMog_tHog^Kt",
    "Hog_MEEMog_eEF MAKSUzog*~YEHog*~MEEMbJEEMog_tHog^KtHog_MEEMog_eEF MAKSUzog*~YEHog+~NOlbJEEM",
    "og_tHog^KtHog_MEEMog_eEF MAKSUzog*~YEHog+~HEHbJEEMog_MEEMog_eEF MAKSUzog*~YEHog*~YEHbJEEMog",
    "_tHog^KtHog_MEEMog_eEF MAKSUzog*~YEHog*~xebSUPjSCRIPyeEFog!~~vHbSUPjSCRIPyeEFog|~eEF MAKSUz",
    "bSUPjSCRIPyeEFog,~~StDDAbDAMMATkog%~KASzTkog%~FATtog|DAMMAog|KASzog|SUPjSCRIPyeEFog%~~YEHbt",
    "MZAnbvH Fheg>ZAh Fheg?MEEM Fheg?NOl Fheg?eEF MAKSUz Fheg&~YEH Fheg!~~BEHbvH Fheg>ZAh Fheg?M",
    "EEM Fheg?NOl Fheg?eEF MAKSUz Fheg&~YEH Fheg&~TEHbvH Fheg>ZAh Fheg?MEEM Fheg?NOl Fheg?eEF MA",
    "KSUz Fheg&~YEH Fheg%~HEHbvH Fheg>ZAh Fheg?MEEM Fheg?NOl Fheg?eEF MAKSUz Fheg&~YEH Fheg(~FEH",
    "beEF MAKSUz Fheg&~YEH Fheg&~QAFbeEF MAKSUz Fheg&~YEH Fheg&~KAFbeEF Fheg?LAM Fheg>MEEM Fheg?",
    "eEF MAKSUz Fheg&~YEH Fheg&~LAMbMEEM Fheg?eEF MAKSUz Fheg&~YEH Fheg&~MEEMbeEF Fheg?MEEM Fheg",
    ")~NOlbvH Fheg>ZAh Fheg?MEEM Fheg?NOl Fheg?eEF MAKSUz Fheg&~YEH Fheg(~eEF MAKSUzbSUPjSCRIPye",
    "EF Fheg)~~YEHbvH Fheg>ZAh Fheg?MEEM Fheg?NOl Fheg?eEF MAKSUz Fheg&~YEH Fheg>tMZAnbJEEM hIse",
    "g^tH hIseg]KtH hIseg^MEEM hIseg^HEH hIseg%~~BEHbJEEM hIseg^tH hIseg]KtH hIseg^MEEM hIseg^HE",
    "H hIseg)~TEHbJEEM hIseg^tH hIseg]KtH hIseg^MEEM hIseg^HEH hIseg(~HEHbMEEM hIseg+~JEEMbtH hI",
    "seg]MEEM hIseg+~tHbJEEM hIseg^MEEM hIseg*~KtHbJEEM hIseg^MEEM hIseg+~SEqbJEEM hIseg^tH hIse",
    "g]KtH hIseg^MEEM hIseg*~ADbtH hIseg]KtH hIseg^MEEM hIseg*~DADbJEEM hIseg^tH hIseg]KtH hIseg",
    "^MEEM hIseg*~TAHbtH hIseg)~ZAHbMEEM hIseg*~AhbJEEM hIseg^MEEM hIseg*~GthbJEEM hIseg^MEEM hI",
    "seg,~FEHbJEEM hIseg^tH hIseg]KtH hIseg^MEEM hIseg*~QAFbtH hIseg]MEEM hIseg*~KAFbJEEM hIseg^",
    "tH hIseg]KtH hIseg^LAM hIseg]MEEM hIseg*~LAMbJEEM hIseg^tH hIseg]KtH hIseg^MEEM hIseg^HEH h",
    "Iseg)~MEEMbJEEM hIseg^tH hIseg]KtH hIseg^MEEM hIseg+~NOlbJEEM hIseg^tH hIseg]KtH hIseg^MEEM",
    " hIseg^HEH hIseg*~HEHbJEEM hIseg^MEEM hIseg^SUPjSCRIPyeEF hIseg_~YEHbJEEM hIseg^tH hIseg]Kt",
    "H hIseg^MEEM hIseg^HEH hIseg?AMZAnbMEEM MEDIeg]HEH MEDIeg$~~BEHbMEEM MEDIeg]HEH MEDIeg(~TEH",
    "bMEEM MEDIeg]HEH MEDIeg&~HEHbMEEM MEDIeg]HEH MEDIeg)~SEqbMEEM MEDIeg]HEH MEDIeg(~HEqbMEEM M",
    "EDIeg]HEH MEDIeg*~KAFbLAM MEDIeg?MEEM MEDIeg)~LAMbMEEM MEDIeg)~NOlbMEEM MEDIeg]HEH MEDIeg)~",
    "YEHbMEEM MEDIeg]HEH MEDIeg(~StDDAbFATt MEDIeg^DAMMA MEDIeg^KASz MEDIeg.~TAHbeEF MAKSUzog*~Y",
    "EHog*~AhbeEF MAKSUzog*~YEHog*~GthbeEF MAKSUzog*~YEHog,~SEqbeEF MAKSUzog*~YEHog*~HEqbeEF MAK",
    "SUzog*~YEHog,~tHbeEF MAKSUzog*~YEHog*~JEEMbeEF MAKSUzog*~YEHog+~KtHbeEF MAKSUzog*~YEHog+~SA",
    "DbeEF MAKSUzog*~YEHog*~DADbeEF MAKSUzog*~YEHog*~SHEqbJEEMog_tHog^KtHog_MEEMog_vHog+~EqbvHog",
    "*~ADbvHog*~DADbvHog*~TAHbeEF MAKSUz Fheg&~YEH Fheg&~AhbeEF MAKSUz Fheg&~YEH Fheg&~GthbeEF M",
    "AKSUz Fheg&~YEH Fheg)~SEqbeEF MAKSUz Fheg&~YEH Fheg&~HEqbeEF MAKSUz Fheg&~YEH Fheg)~tHbeEF ",
    "MAKSUz Fheg&~YEH Fheg&~JEEMbeEF MAKSUz Fheg&~YEH Fheg(~KtHbeEF MAKSUz Fheg&~YEH Fheg(~SADbe",
    "EF MAKSUz Fheg&~YEH Fheg&~DADbeEF MAKSUz Fheg&~YEH Fheg&~SHEqbJEEM Fheg?tH Fheg>KtH Fheg?ME",
    "EM Fheg?vH Fheg(~EqbvH Fheg&~ADbvH Fheg&~DADbvH Fheg&~SHEqbJEEM hIseg^tH hIseg]KtH hIseg^ME",
    "EM hIseg+~EqbHEH hIseg)~HEqbHEH hIseg+~TAHbMEEM hIseg*~SEqbJEEM MEDIeg]tH MEDIeg?KtH MEDIeg",
    ")~HEqbJEEM MEDIeg]tH MEDIeg?KtH MEDIeg+~TAHbMEEM MEDIeg)~ZAHbMEEM MEDIeg)~eEFbFATtTk Fheg:I",
    "SOLATEDg,~~ORNATuiFyPdqxESIS]Rf PdqxESIS(~dABIC LIGATURuzHIMAHU eLAAH=DI eLAAHU kH!AA%UM!AA",
    "&NNA!~SeLeLAAHU eAYHI WA-AeIH+~eAYHI AS-SeAAM:M AS-SeAAM:AA AS-SeAAM= AS-SeAATU WAS-SeAAM,~",
    "QUDDISAmIRzH>SeLeLAHU eAYHI WAAeIHEuWA-SeLAM^~eAYtA AS-SeAAM^TABAdAKA WA-TAAeAA!~zHIMAHUM e",
    "LAAH]TEHbJEEMbMEEM hIseg+~tHbJEEM Fheg:hIseg^MEEM hIseg*~KtHbMEEM hIseg+~MEEMbJEEM hIseg^tH",
    " hIseg]KtH hIseg]~JEEMbMEEMbtH Fheg:hIseg]~tHbMEEMbYEH Fheg>eEF MAKSUz Fheg%~~SEqbtHbJEEM h",
    "Iseg*~JEEMbtH hIseg]eEF MAKSUz Fheg=~MEEMbtH Fheg:hIseg]JEEM hIseg^MEEM Fheg:hIseg]~ADbtHbt",
    "H Fheg:hIseg)~MEEMbMEEM Fheg=~HEqbtHbMEEM Fheg:hIseg*~JEEMbYEH Fheg(~MEEMbKtH Fheg:hIseg^ME",
    "EM Fheg:hIseg_~DADbtHbeEF MAKSUz Fheg<~KtHbMEEM Fheg:hIseg]~TAHbMEEMbtH Fheg:hIseg]MEEM hIs",
    "eg^YEH Fheg=~AhbJEEMbMEEM Fheg)~MEEMbMEEM Fheg:hIseg^eEF MAKSUz Fheg%~~GthbMEEMbMEEM Fheg?Y",
    "EH Fheg>eEF MAKSUz Fheg(~~FEHbKtHbMEEM Fheg:hIseg]~QAFbMEEMbtH Fheg>MEEM Fheg>~LAMbtHbMEEM ",
    "Fheg?YEH Fheg>eEF MAKSUz Fheg<~JEEMbJEEM hIseg<Fheg)~KtHbMEEM Fheg:hIseg+~MEEMbtH Fheg:hIse",
    "g?~MEEMbtHbJEEM hIseg^MEEM hIseg^YEH Fheg&~JEEMbtH hIseg]MEEM hIseg+~KtHbJEEM hIseg^MEEM hI",
    "seg!!+~JEEMbKtH hIseg^~HEHbMEEMbJEEM hIseg^MEEM hIseg]~NOlbtHbMEEM hIseg^eEF MAKSUz Fheg<~J",
    "EEMbMEEM Fheg:hIseg^eEF MAKSUz Fheg=~MEEMbYEH Fheg>eEF MAKSUz Fheg&~~YEHbMEEMbMEEM Fheg:hIs",
    "eg]~BEHbKtHbYEH Fheg=~TEHbJEEMbYEH Fheg>eEF MAKSUz Fheg=~KtHbYEH Fheg>eEF MAKSUz Fheg=~MEEM",
    "bYEH Fheg>eEF MAKSUz Fheg%~~JEEMbMEEMbYEH Fheg(~tHbeEF MAKSUz Fheg<~MEEMbeEF MAKSUz Fheg&~~",
    "SEqbKtHbeEF MAKSUz Fheg%~~ADbtHbYEH Fheg;~HEqbtHbYEH Fheg>~DADbtHbYEH Fheg<~LAMbJEEMbYEH Fh",
    "eg(~MEEMbYEH Fheg=~YEHbtHbYEH Fheg&~JEEMbYEH Fheg(~MEEMbYEH Fheg=~MEEMbMEEMbYEH Fheg>~QAFbM",
    "EEMbYEH Fheg=~NOlbtHbYEH Fheg=~QAFbMEEMbtH hIseg?~LAMbtHbMEEM hIseg?~AhbMEEMbYEH Fheg=~KAFb",
    "MEEMbYEH Fheg=~NOlbJEEMbtH hIseg]~MEEMbKtHbYEH Fheg>~LAMbJEEMbMEEM hIseg]~KAFbMEEMbMEEM Fhe",
    "g>~LAMbJEEMbMEEM Fheg>~NOlbJEEMbtH Fheg>~JEEMbtHbYEH Fheg=~tHbJEEMbYEH Fheg=~MEEMbJEEMbYEH ",
    "Fheg>~FEHbMEEMbYEH Fheg=~BEHbtHbYEH Fheg<~KAFbMEEMbMEEM hIseg]~AhbJEEMbMEEM hIseg]~SADbMEEM",
    "bMEEM hIseg?~EqbKtHbYEH Fheg>~NOlbJEEMbYEH Fheg!!!!!!!>~SeAAMUHU eAYNAA"]),
   (65008,
   ["!dABIC LIGATUvmeLA USpAS KORkICmTOPmwog)~~QeA USpAS KORkICmTOPmwog(~~eLAHog_KBdog|MOtMMADog",
    "%~SeAMog|zSOULog!~eAYHEog!~WASeLAMog%~SeLAog>LLAHOU eAYHuWASeLAM+~JeLAJeeOUHOU;~RIemw.dABIC",
    " LIGATURuBISMILLAH d-zHMk d-zHEEM.~SUBtkAHU WA TAAeAA$~AZZA WA JeL,~VdIAslmEiCTOR-1$2$3$4$5",
    "$6$7$8$9$10$1$2$3$4$5$6$~PvSqTAslg FOR VjsCe COMMA)IDEOGzPHIC COMMA)FULLmTOP$~COLl)SEMICOLl",
    ".EXCLAMAsl MdK]QUESsl MdK=iFyWHITuiNsCULd BzCKET.~Rf WHITuiNsCULd BzKCET:~HORIZlTe ELLIPSIS",
    "!!!!!!:~~COMBhhG LIGATURuiFyHeF.Rf HeF|DOUBi sLDuiFyHeF.Rf HeF&~MACRl iFyHeF.Rf HeF^ClJOhhG",
    " MACRl^LIGATURuiFyHeF BELr?Rf HeF BELr)~sLDuiFyHeF BELr?Rf HeF BELr%~MACRl iFyHeF BELr?Rf H",
    "eF BELr&~ClJOhhG MACRl BELr%~YRILLIC sTLO iFyHeF.Rf HeF?~PvSqTAslg FOR VjsCe TWO DOyiADj>EM",
    " DASH*N DASH+Lr LhE,WAVY Lr LhE=iFyPdqxESIS]Rf PdqxESIS^iFyCURLY BzCKET_Rf CURLY BzCKET|iFy",
    "TORTOISEmHELL BzCKET+~Rf TORTOISEmHELL BzCKET,~iFyBLACK iNsCULd BzCKET.~Rf BLACK iNsCULd Bz",
    "CKET:~iFyDOUBi kGi BzCKET)~Rf DOUBi kGi BzCKET*~iFykGi BzCKET_Rf kGi BzCKET|iFyCORNj BzCKET",
    "|Rf CORNj BzCKET!~iFyWHITuCORNj BzCKET)~Rf WHITuCORNj BzCKET^~~SESAMuDOT:WHITEmESAMuDOT]PvS",
    "qTAslg FOR VjsCe iFTmQUduBzCKET|RfmQUduBzCKET;~~DASHpOVjLhE?CqTvLhuOVjLhE|WAVY OVjLhE=DOUBi",
    " WAVY OVjLhE|ASHpLr LhE?CqTvLhuLr LhE|WAVY Lr LhE=SMeL COMMA)IDEOGzPHIC COMMA^FULLmTOP!.SEM",
    "ICOLl.COLl)QUESsl MdK=EXCLAMAsl MdK?M DASH+iFyPdqxESIS]Rf PdqxESIS^iFyCURLY BzCKET_Rf CURLY",
    " BzCKET|iFyTORTOISEmHELL BzCKET+~Rf TORTOISEmHELL BzCKET,~NUMBjmw;AMPjSkD,STjISK,PLUSmw.HYP",
    "Hq-MhUS<iSS-xkmw>GvATj-xkmw^EQUeSmw!;vVjSEmOLIDUS?DOLLdmw;PjCqTmw<COMMjCIe AT!!!!|dABIC FAT",
    "tTkog%~TATWEELbFATtTkn+~DAMMATkog%~TAIL FzGMqT=KASzTkog!%~FATtog=MEDIeg^DAMMAog=MEDIeg^KASz",
    "og=MEDIeg^StDDAog=MEDIeg^UKUNog=MEDIeg^iTTj tMZAog|eEFbMADDAnog=Fheg%~tMZAnog=Fheg<~WAWbtMZ",
    "Anog=Fheg;~eEFbtMZA BELrog=Fheg<~YEHbtMZAnog=Fheg:hIseg<MEDIeg<~eEFog=Fheg?BEHog=Fheg:hIseg",
    "<MEDIeg?TEH MdBUTAog=Fheg_ISOLATEDg=Fheg:hIseg<MEDIeg>HEHog=Fheg:hIseg<MEDIeg]JEEMog=Fheg:h",
    "Iseg<MEDIeg]tHog=Fheg:hIseg<MEDIeg?KtHog=Fheg:hIseg<MEDIeg]Deog=Fheg>xeog=Fheg?vHog=Fheg>ZA",
    "hog=Fheg?SEqog=Fheg:hIseg<MEDIeg?HEqog=Fheg:hIseg<MEDIeg]ADog=Fheg:hIseg<MEDIeg?DADog=Fheg:",
    "hIseg<MEDIeg?TAHog=Fheg:hIseg<MEDIeg?ZAHog=Fheg:hIseg<MEDIeg?Ahog=Fheg:hIseg<MEDIeg?Gthog=F",
    "heg:hIseg<MEDIeg^FEHog=Fheg:hIseg<MEDIeg?QAFog=Fheg:hIseg<MEDIeg?KAFog=Fheg:hIseg<MEDIeg?LA",
    "Mog=Fheg:hIseg<MEDIeg?MEEMog=Fheg:hIseg<MEDIeg]NOlog=Fheg:hIseg<MEDIeg]HEHog=Fheg:hIseg<MED",
    "Ieg?WAWog=Fheg>eEF MAKSUzog=Fheg&~YEHog=Fheg:hIseg<MEDIeg$~IGATURuLAMbeEFbMADDAnog=Fheg%~tM",
    "ZAnog=Fheg]BELrog=Fheg+~ISOLATEDg=Fheg!!!~~ZjO WIDx NO-BvAKmPACE!)~FULLWIDx EXCLAMAsl MdK]Q",
    "UOTAsl MdK>NUMBjmw;DOLLdmw;PjCqTmw<AMPjSkD,POSTROPHE:iFyPdqxESIS]Rf PdqxESIS^ASTjISK,PLUSmw",
    ".COMMA)HYPHq-MhUS<FULLmTOP.SOLIDUS+DIGIyZjO(lE&TWO%HvE)FOUR&IVE(SIX%EVq)Ef)NhE:COLl)SEMICOL",
    "l.iSS-xkmw>EQUeSmw;GvATj-xkmw^QUESsl MdK=COMMjCIe AT=LATh caA$B$C$D$E$F$G$H$I$J$K$L$M$N$O$P",
    "$Q$R$S$T$U$V$W$X$Y$Z$~EFTmQUduBzCKET|vVjSEmOLIDUS>fmQUduBzCKET!~CIRCUMFiX ACCqT^Lr LhE,GzVu",
    "ACCqT<LAThmMeaA$B$C$D$E$F$G$H$I$J$K$L$M$N$O$P$Q$R$S$T$U$V$W$X$Y$Z|EFyCURLY BzCKET_VjsCe LhE",
    "=Rf CURLY BzCKET|sLDE)iFyWHITuPdqxESIS%~Rf WHITuPdqxESIS=~HeFWIDx IDEOGzPHIC FULLmTOP$~iFyC",
    "ORNj BzCKET|Rf CORNj BzCKET!~IDEOGzPHIC COMMA^KATAKkA MIDDi DOT:iTTj WO%SMeL A$I$U$E$O$YA$U",
    "$O%TU]-HIzGkA PROLlGEDmOUND MdK:~ iTTj A$I$U$E$O$KA$I$U$E$O%SA$I$U$E$O%TA$I$U$E$O%NA$I$U$E$",
    "O%t$I$U$E$O%MA$I$U$E$O%YA$U$O%z$I$U$E$O%WA%N,VOICEDmOUND MdK^SEMI-VOICEDmOUND MdK;~HkGUL FI",
    "LiR*iTTj KIYEOK*SSkGKIYEOK;KIYEOK-SIOS;NIEUN!-CIEUC)HIEUH;sKEUT*SSkGsKEUT;RIEUL!-KIYEOK*MIE",
    "UM)PIEUP)SIOS(xIEUx+PHIEUPH+HIEUH;MIEUM)PIEUP)SSkGPIEUP:PIEUP-SIOS:SIOS&SkGSIOS.IEUNG)CIEUC",
    ")SSkGCIEUC:CHIEUCH+KHIEUKH+xIEUx+PHIEUPH+HIEUH!!!)A!E%YA!E&EO$!!$YEO$%O$WA!E&OE!!%YO%U$WEO$",
    "$I%YU!!%EU%YI%I!!!)~FULLWIDx CqTmw.POUNDmw:NOTmw,MACRl*BROKq Bd:Yqmw,Wlmw!_HeFWIDxgS Lf Vjs",
    "Ce!~iFTWdDS dRr?UPWdDS dRr=RfWdDS dRr]DrNWdDS dRr?BLACKmQUdE<WHITuCIRCi!!!!!!!!!!%~hTjLhEd ",
    "kNOTAsl kCHOR*SEPdATOR.TjMhATOR=~OBJECyvPLACEMqyCHdACTj,~vPLACEMqyCHdACTj!!$~LhEd BmYLLABi ",
    "B008 A(38 E(28 I(61 O(10 U(01 DA)45 DE)07 DI)14 DO)51 DU(7 JA)46 JE!)36 JO)65 JU)77 KA)44 K",
    "E)67 KI)70 KO)81 KU(0 MA)13 ME)73 MI)15 MO)23 MU)06 NA)24 NE)30 NI)52 NO(5 NU)03 PA)72 PE)3",
    "9 PI)11 PO)50 PU)16 QA)78 QE)21 QI)32 QO!)60 z)27 v)53 RI)02 RO)26 RU)31mA)09mE)41mI)12mO)5",
    "8mU(9 TA)04 TE)37 s)05 TO)69 TU)54 WA)75 WE)40 WI(2 WO!)17 ZA)74 ZE!)20 ZO(5 A2)43 A3)85 AU",
    ")71 DWE*90 DWO*48 NWA*29 PU2*62 PTE*76 z2*33 z3*68 RO2)6 TA2*87 TWE*91 TWO!!?MBOL B018$9%22",
    "%34%47$9%56%63$4%79%82$3$6$9"]),
   (65664,
   ["!LhEd B IDEOGzM B100 Mk)2 WOMk+4 DEj*5 EQUID*F MdE*MmTeLIl;6F EWE)M zM*7FmHE-GOAT:M HE-GOAT",
    ":8Fmr)M BOd+9F Cr)M BULL,20 WHEAT+1 BdiY,2 OLIVE+3mPICE+5 CYPjUS$~MlOGzM B127 KAPO*8 KkAKO!",
    "~IDEOGzM B130 OIL)1 WhE*2=MlOGzM B133 dEPA+5 MjI_IDEOGzM B140 BRlZE,1 GOLD*2$5 WOOL*6%50$1 ",
    "HORN*2$3$4=MlOGzM B156 TURO2|IDEOGzM B157$8$9 CLOx,60$1$2 GdMqT.3 dMOUR,4$5$6$7$8$9%70$1$2$",
    "3 Mlx+4$6 TvE*7$8$9%80$1$2$3$4$5$9%90$1 HELMET:220 FOOTSTOOL;5 BAxTUB:30mPEd+1 dRr+2$3mWORD",
    "+4$6%40 WHEEiD CHdIOT^1 CHdIOT.2 CHdIOyFzME?3 WHEEL+5$6=MlOGzM B247 DIPTE|IDEOGzM B248$9%51",
    "$2$3$4 DdT*5$6$7$8$9(VESSEL B155&200$1$2$3$4$5$6$7$8$9%10$1$2$3$4$5$6$7$8$9%21$2$6$7$8$9%50",
    "&305!!!!!.~AEGEk WORDmEPdATOR LhE(DOT_CHECK MdK!!!!:NUMBj lE&TWO%HvE)FOUR&IVE(SIX%EVq)Ef)Nh",
    "E(Tq%WqTY)HIRTY*FORTY(IFTY)SIXTY(EVqTY+EfY*NhETY*luHUNDvD;TWO HUNDvD:HvuHUNDvD=FOUR HUNDvD;",
    "IVuHUNDvD<SIX HUNDvD:EVq HUNDvD=Ef HUNDvD=NhuHUNDvD<luxOUSkD<TWO xOUSkD;HvuxOUSkD>FOUR xOUS",
    "kD<IVuxOUSkD=SIX xOUSkD;EVq xOUSkD>Ef xOUSkD>NhuxOUSkD=Tq xOUSkD;WqTY xOUSkD>HIRTY xOUSkD?F",
    "ORTY xOUSkD=IFTY xOUSkD>SIXTY xOUSkD=EVqTY xOUSkD]EfY xOUSkD?NhETY xOUSkD!!!%~WEf BASuUNIT.",
    "FIRSTmUBUNIT=SEClDmUBUNIT>xIRDmUBUNIT=FOURxmUBUNIT$~DRY MEASURuFIRSTmUBUNIT)~LIQUID MEASURu",
    "FIRSTmUBUNIT,~MEASUvmEClDmUBUNIT>xIRDmUBUNIT,~GvEK ACROPHlIC ATsC luQUdTj+HeF(DzCHMA;FIVE%F",
    "TY&VuHUNDvD+xOUSkD;FTY xOUSkD<VuTeqTS<Tq TeqTS;FIFTY TeqTS=luHUNDRpTeqTS|FIVuHUNDRpTeqTS!~l",
    "uxOUSkD TeqTS!~FIVuxOUSkD TeqTS]STATjS<TqmTATjS;FIFTYmTATjS=luHUNDvDmTATjS|FIVuHUNDvDmTATjS",
    "!~luxOUSkDmTATjS!~Tq xOUSkDmTATjS!~FIFTY xOUSkDmTATjS%~Tq MNAS>HjAEUM luPixRl!~xESPIk lE<Hj",
    "MIlIk lE>EPIDAUvk TWO>xESPIk TWO<CYRqAIC TWO DzCHMAS$~EPIDAUvk TWO DzCHMAS&~TROEZqIk FIVE(T",
    "q! eTjNATEg.~HjMIlIk Tq>MESSqIk Tq=xESPIk Tq%HIRTY>ROEZqIk FIFTY! eTjNATEg;~HjMIlIk FIFTY]x",
    "ESPIk FIFTY)luHUNDvD;xvuHUNDvD%~EPIDAUvk FIVuHUNDvD&~TROEZqIk FIVuHUNDvD%~HESPIk FIVuHUNDvD",
    "$~CdYSsk FIVuHUNDvD%~NAXIk FIVuHUNDvD|xESPIk luxOUSkD<FIVuxOUSkD%~DELPHIC FIVuMNAS^STzsk FI",
    "FTY MNAS:~luHeFmw! eTjNATEg,~TWO xIRDSmw>HvuQUdTjSmw|YEdmw.TeqTmw;DzCHMAmw<OBOLmw.TWO OBOLS",
    "mw=HvuOBOLSmw]FOUR OBOLSmw>IVuOBOLSmw?METvTESmw=KYAxOS BASEmw^LITzmw:OUNKIAmw;XESTESmw;dTAB",
    "Emw.OUzmw;GzMMAmw;TRYBLIl BASEmw_ZjOmw.luQUdTjmw]ShUSOIDmw=hDICslmw!~NOMISMAmw!<ROMkmEXTkSm",
    "w<UNCIAmw:SEMUNCIAmw;XTULAmw<DIMIDIAmEXTULAmw!~SILIQUAmw<DqdIUSmw=QUhdIUSmw>SESTjsUSmw?DUPl",
    "DIUSmw>ASmw+CqTURIemw!~ASCIAmYMBOL!!!<GvEKmYMBOL TAU RHO"]),
   (66000,
   ["!PtISTOS DISCmw PEDESTRIk.LUMpHEAD;TATTOOpHEAD=CAPsVE*HILD)WOMk)HELMET*GAUNTiT,sdA)dRr)Br&S",
    "HIELD*CLUB(MkACiS*TTOCK+SAW&LID&BOOMjkG.CdPqTRY PLkE?DOLIUM*COMB(SLhG)COLUMN*BEEHIVE+SHIP(H",
    "ORN&IDE(BULLS iG.CAT&zM&EAGi)DOVE(TUNNY)BEE&PLkuTvE:VhE(PAPYRUS+ROSETTE+LILY(OX BACK+FLUTE)",
    "GzTj*STzhj+MeL AXE.WAVY BkD.COMBhhG OBLIQUEmTROKE"]),
   (66176,
   ["!LYCIk iTTj A$E$B!H%G$D$I$W$Z$x%J$K$Q$L$M$N$MM%NN%U$P$KK%R$S$T!T%k%q%H$X!!!?CdIk iTTj A$P2%",
    "D$L$UUU&R$LD%A2%Q$B$M$O$D2%T$SH!2%$C-18(U$NN%X$N$TT2&P$SS%I$E$UUUU(K!2%ND%UU%G!2%ST!2&NG%II",
    "%C-39(TT%UUU2(RR%MB!2$3$4&LD2&E2%UUU3!!!!!!!!!!!!!!!^OPsC EPACyxOUSkDS MdK>DIGIylE&TWO%HvE)",
    "FOUR&IVE(SIX%EVq)Ef)NhE:NUMBj Tq%WqTY)HIRTY*FORTY(IFTY)SIXTY(EVqTY+EfY*NhETY*luHUNDvD;TWO H",
    "UNDvD:HvuHUNDvD=FOUR HUNDvD;IVuHUNDvD<SIX HUNDvD:EVq HUNDvD=Ef HUNDvD=NhuHUNDvD!!!!<~OLD IT",
    "eIC iTTj A$BE%KE%DE%E$VE%ZE%HE%xE&I$KA%EL$M$N$SH&O$PE%SHE&KU%j$S%TE%U$EKS&PHE&KHE&EF$RS&CHE",
    "&II%UU%ESS:NUMje lE&FIVE(Tq&FIFTY!!!!!!!!!=iTTj YE%NORxjN TSE<SOUxjN TSE:~GOxIC iTTj AHSA(B",
    "AIRKk+GIBA(DAGS(AIHVUS*QAIRxz,IUJA(tGL(xIUx*EIS&KUSMA)LAGUS)MkNA)NAUxS*Jj&URUS(PAIRxz,NhETY",
    "*zIDA)SAUIL)TEIWS)WhJA)FAIHU)IGGWS)HWAIR)Oxe)NhuHUNDvD!!!!!*~OLD PjMIC iTTj k%BUR&GAI&DOI&E",
    "$ZHOI(DZHOI)ZATA(DZITA)I$KOKE(iI&MqOE)NqOE)VOOI(PEEI(vI&SII&TAI&U$CHjY)SHOOI&CHOOI+YRY%jU(O",
    "!O%EF%t%TSIU(Vj&Yj!I&AT&IE%YU$A%IA!~COMBhhG OLD PjMIC iTTj k%DOI&ZATA(NqOE)SII!!!!!;~UGdIsC",
    " iTTj ePA(BETA(GAMLA)Kt&DELTA)HO%WO%ZETA(HOTA(TET&YOD&KAF&SHh(LAMDA)MEM&DHe(NUN&ZU%SAMKA)Ah",
    "&PU%SADE(QOPA(zSt)xkNA*Gth)TO%I$U$SSU!:WORD DIVIDj$~OLD PjSIkmw A$I$U$KA$U%GA$U%XA%CA%JA$I%",
    "TA$U%DA$I$U%Tt&PA%BA%FA%NA$U%MA$I$U%YA%VA$I%z$U%LA%SA%ZA%St%SA&t!!!!%AUzMAZDAA!-2%t<XStAYAx",
    "IYA<DAHYAAUSH!-2;BAGA&UUMISH<WORD DIVIDj<NUMBj lE&TWO%q%WqTY*HUNDvD"]),
   (66560,
   ["!DESjEycaLlG I$E$A!H%O!O+SHORyI$E$A!H%O!O,AY%r%WU%YEE&H$PEE&BEE&TEE&DEE&CHEE(JEE&KAY&GAY&EF",
    "%VEE&Ex&xEE(ES%ZEE&ESH&ZHEE(j$L$M$N!G&OI%EW^SMeaLlG I$E$A!H%O!O+SHORyI$E$A!H%O!O,AY%r%WU%YE",
    "E&H$PEE&BEE&TEE&DEE&CHEE(JEE&KAY&GAY&EF%VEE&Ex&xEE(ES%ZEE&ESH&ZHEE(j$L$M$N!G&OI%EW&~StVIk i",
    "TTj PEEP(TOT&KICK(FEE&xIGH)SO$Uv(CHURCH*YEA&HUNG(BIB&DEAD(GAG&Vr&xEY(ZOO&MEASUv+JUDGE)WOE&t",
    "-t)LOLL(MIME(IF%EGG&ASH%DO&l%WOOL(OUT&AH%ROd(NUN&EAT&AGE&ICE&UP%OAK%OZE&IL&AWE%v&OR%AIR&jR&",
    "dzY)Ed&Ik&YEW_OSMkYA iTTj eEF(BA%TA%JA%XA%Kt&DEEL(z%SA$HIh)Dt&CAYN(GA%FA%QAAF(KAAF(LAk(MIh(",
    "NUUN(WAW&t%YA%A$E$I$O$U$AA%EE%OO!!.DIGIyZjO(lE&TWO%HvE)FOUR&IVE(SIX%EVq)Ef)NhE!!!!!!]AGucaA",
    "!I!N%H%Bz&Ct&EHCt(!h&t$YA&I$KA%EHKA(KYA&LA%MA%NA%O!h&PA%EHPA(SA$t&TA%EHTA(TSA&EHTSA)TSt(Dt&",
    "U$WA%Kt&Gt&ZA$t!!!!_SMeaA!I!N%H%Bz&Ct&EHCt(!h&t$YA&I$KA%EHKA(KYA&LA%MA%NA%O!h&PA%EHPA(SA$t&",
    "TA%EHTA(TSA&EHTSA)TSt(Dt&U$WA%Kt&Gt&ZA$t!!!!%~ELBASk iTTj A$BE%CE$HE&DE%NDE&DHE&EI$$FE%GE$J",
    "E&HE%I$JE%KE%i$i&ME%NE$A$JE&O$PE%QE%v$v&SE$HE&TE$HE&U$VE%XE%Y$ZE$HE&GHE$AMMA*KHE!!!!!!!!_CA",
    "UCASIk eBkIk iTTj eT&BET&GIM&DAT&EB%ZdL(EYN&ZHIL(TAS&Ct&YrD(Zt&IRB&St&Lk&hYA(XEYN(DYk(Cd&JH",
    "OX(Kd&LYIT(HEYT(QAY&AOR&CHOY%I%YAY(MAQ&Qd&NrC(DZYAY)StK(JAYN(l%TYAY(FAM&DZAY(CtT(Pq&GHEYS)z",
    "T&SEYK(VEYZ(sWR(SHOY(IWN&CYAW&AYN(YAYD(PIWR(KIW!!!!!!!!!!!:CITAsl MdK<~VIxKUQI caA$BBE%E%CE",
    "$HE&DE$HE&EI$$FE%GA!%t$t&I!JE&JE%KA%LA$LA&ME%NE$JE&O$PE%QA%v!%SE$HE&TE$HE&U$VE%XE!%Y$ZE!^SM",
    "eaA$BBE%E%CE$HE&DE$HE&EI$$FE%GA!%t$t&I!JE&JE%KA%LA$LA&ME%NE$JE&O$PE%QA%v!%SE$HE&TE$HE&U$VE%",
    "XE!%Y$ZE"]),
   (67072,
   ["!LhEd Amw AB001$2$3$4$5$6$7$8$9%10$1$3$6$7%20$1!F$M%2!F$M%3!M%4$6$7$8(028B(B029%30$1$4$7$8$",
    "9%40$1$4$5$6$7$8$9%50$1$3$4$5$6$7$8$9%60$1$5$6$7$9%70$3$4$6$7$8$9%80$1$2$5$6$7(100-102+B118",
    "%20(120B(B122$3%31A$B)131C(B164%71%80$8%91(301$2$3$4$5$6$7$8$9A$B$C&10$1$2$3A$B$C%4$5$6$7$8",
    "$9%20$1$2$3$4$5$6$7$8$9%30$1$2$3$4$5$6$7$8$9%40$1$2$3$4$5$6$7$8$9%50$1$2$3$4$5$6$7$8$9%60$1",
    "$2$3$4$5$6$7$8$9%70$1&400-VAS)1-VAS)2-VAS)3-VAS)4-VAS)5-VAS)6-VAS)7-VAS)8-VAS)9-VAS*10-VAS)",
    "1-VAS)2-VAS)3-VAS)4-VAS)5-VAS)6-VAS)7-VAS)8-VAS+501$2$3$4$5$6$8$9%10$1$2$3$5$6%20$1$3$4$5$6",
    "$7$8$9%30$1$2$4$5$6$7$8$9%40$1$2$5$7$8$9%50$1$2$3$4$5$6$7$9%63$4$5$6$8$9%70$1$2$3$4$5$6$7$8",
    "$9%80$1$2$3$4$5$6$7$8$9%91$2$4$5$6$8&600$1$2$3$4$6$8$9%10$1$2$3$4$5$6$7$8$9%20$1$2$3$4$6$7$",
    "8$9%34$7$8%40$2$3$4$5$6$8$9%51$2$3$4$5$6$7$8$9%60$1$2$3$4!!!!!!!!!&701 A&2 B&3 D&4 E&5 F&6 ",
    "H&7 J&8 K&9 L%-2 L2(3 L3(4 L4(6 L6+10 W&1 X&2 Y&3 OMEGA+4 ABB)5 BB(7 DD)26 EYYY+32 JE!!!!!!",
    "!!!!*800$1$2$3$4$5$6$7"]),
   (67456,
   ["!MODIFIj iTTjmMeL cL AA?UPjSCRIPyTRIkGULd COLl]HeF TRIkGULd COLl<~MeL AE%cL B.BbHOOK!;DZ DI",
    "GzPH!bvTROFiX HOOK>CURL|EZH DIGzPH;bTAIL(HOOK! kD TAIL!~vVjSpE:CLOSpvVjSpOPq E%~FqG DIGzPH<",
    "zMS HORN.cL G.GbHOOK;cL GbHOOK|HbSTROKE=cL H.HqGbHOOK>DOTiSS JbSTROKukD HOOK:~LS DIGzPH.Z D",
    "IGzPH.bBELT;cL LbBELT|LbvTROFiX HOOK kD BELT.~EZH!bvTROFiX HOOK(~TURNpY!bBELT_ObSTROKE=cL O",
    "E.LOSpOMEGA<Q$TURNpRbLlG iG! kD vTROFiX HOOK$~~RbTAIL(FISHHOOK?cL R.TC DIGzPHbCURL|S DIGzPH",
    "!bvTROFiX HOOK.~ESH DIGzPH;bvTROFiX HOOK$~VbRf HOOK!^cL Y?GLOTTemTOPbSTROKE(~vVjSpGLOTTemTO",
    "PbSTROKE=~BILABIe CLICK>DqTe CLICK<LATje CLICK=eVEOLd CLICK>vTROFiX CLICKbvTROFiX HOOK?~SMe",
    "LmbCURL"]),
   (67584,
   ["!CYPRIOTmYLLABi A$E$I$O$U$JA!!$O!%KA$E$I$O$U%LA$E$I$O$U%MA$E$I$O$U%NA$E$I$O$U%PA$E$I$O$U%z$",
    "E$I$O$U%SA$E$I$O$U%TA$E$I$O$U%WA$E$I$O!%XA$E!!!%ZA!!$O|IMPjIe dAMAIC iTTj eEPH)BEx(GIMEL)De",
    "Ex*HE%WAW&ZAYh)HEx(TEx(YODH(KAPH(LAMEDH*MEM&NUN&SAMEKH*AYh(PE%SADHE)QOPH(vSH(SHh(TAW!:SECsl",
    "mw<NUMBj lE&TWO%HvE(q%WqTY*luHUNDvD+xOUSkD<Tq xOUSkD]~PeMYRquiTTj eEPH)BEx(GIMEL)DeEx*HE%WA",
    "W&ZAYh)HEx(TEx(YODH(KAPH(LAMEDH*MEM&Fhe NUN.NUN&SAMEKH*AYh(PE%SADHE)QOPH(vSH(SHh(TAW,FT-POh",
    "ThG FiURl$~Rf-POhThG FiURl%~NUMBj lE&TWO%HvE)FOUR&IVE(Tq%WqTY&~NABATAEk iTTj Fhe eEPH;eEPH)",
    "Fhe BEx:BEx(GIMEL)DeEx*Fhe HE,HE%WAW&ZAYh)HEx(TEx(Fhe YODH:YODH(Fhe KAPH:KAPH(Fhe LAMEDH<LA",
    "MEDH*Fhe MEM.MEM&Fhe NUN.NUN&SAMEKH*AYh(PE%SADHE)QOPH(vSH(FhemHh:SHh(TAW!!!!!!!!:NUMBj lE&T",
    "WO%HvE)FOUR;CRUCIFORM NUMBj FOUR$~NUMBj FIVE(Tq%WqTY*luHUNDvD"]),
   (67808,
   ["!tTRk iTTj eEPH)BEx(GIMEL)DeEx-vSH;HE%WAW&ZAYN(HEx(TEx(YODH(KAPH(LAMEDH*MEM&NUN&SAMEKH*AYN&",
    "PE%SADHE)QOPH!(SHh(TAW!!!!!:NUMBj lE&FIVE(Tq%WqTY*luHUNDvD)~PHOqICIk iTTj eF&BET&GAML(DELT(",
    "HE%WAU&ZAI&HET&TET&YOD&KAF&LAMD(MEM&NUN&SEMK(Ah&PE%SADE(QOF&ROSH(SHh(TAU:NUMBj lE&Tq%WqTY*l",
    "uHUNDvD;TWO%HvE!!!<WORDmEPdATOR)~LYDIk iTTj A$B$G$D$E$V$I$Y$K$L$M$N$O$R$SS%T$U$F$Q$S$TT%k%q",
    "%LY%NN%C!!!!!,TRIkGULd MdK"]),
   (67968,
   ["!MjOIsC HIjOGLYPHIC iTTj A$E$I$O$YA%WA%BA!-2(PA%MA%NA!-2&E!-2(z!-2(LA%Kt&Ht&SA!-2&E%KA%QA%T",
    "A!-2&E!-2&O%DA.SYMBOL VIDJ!-2*~CURSIVuiTTj A$E$I$O$YA%WA%BA%PA%MA%NA$E%z%LA%Kt&Ht&SA%dCtICm",
    "A:SE%KA%QA%TA$E$O%DA!!!!.FzCsl EiVq TWELFxS?luHeF^LOGOGzM RMT&IMN<NUMBj lE&TWO%HvE)FOUR&IVE",
    "(SIX%EVq)Ef)NhE(Tq%WqTY)HIRTY*FORTY(IFTY)SIXTY(EVqTY!!+luHUNDvD;TWO HUNDvD:HvuHUNDvD=FOUR H",
    "UNDvD;IVuHUNDvD<SIX HUNDvD:EVq HUNDvD=Ef HUNDvD=NhuHUNDvD<luxOUSkD<TWO xOUSkD;HvuxOUSkD>FOU",
    "R xOUSkD<IVuxOUSkD=SIX xOUSkD;EVq xOUSkD>Ef xOUSkD>NhuxOUSkD=Tq xOUSkD;WqTY xOUSkD>HIRTY xO",
    "USkD?FORTY xOUSkD=IFTY xOUSkD>SIXTY xOUSkD=EVqTY xOUSkD]EfY xOUSkD?NhETY xOUSkD?luHUNDRpxOU",
    "SkD!~TWO HUNDRpxOUSkD|HvuHUNDRpxOUSkD%~FOUR HUNDRpxOUSkD!~IVuHUNDRpxOUSkD$~SIX HUNDRpxOUSkD",
    "|EVq HUNDRpxOUSkD%~Ef HUNDRpxOUSkD%~NhuHUNDRpxOUSkD,~FzCsl luTWELFx;TWO TWELFxS;HvuTWELFxS>",
    "FOUR TWELFxS<IVuTWELFxS=SIX TWELFxS;EVq TWELFxS>Ef TWELFxS>NhuTWELFxS=Tq TWELFxS_~KHdOSHxI ",
    "iTTj A,VrELmw I$U$VOCeIC R!.E$O!!!!!*iNGx MdK^Sw DOUBi RhG BELr^kUSVdA,VISdGA<iTTj KA$t&GA$",
    "t!&CA$t&JA!%NYA&TTA$t(DDA$t(NNA&TA$t&DA$t&NA%PA$t&BA$t&MA%YA%z%LA%VA%St%SA%A%ZA%t%KKA&TTTt%",
    "A(Vt!!:Sw Bdn.CAUDA)DOyBELr!!!!>VIzMA*DIGIylE&TWO%HvE)FOUR:NUMBj Tq%WqTY*luHUNDvD+xOUSkD|Fz",
    "Csl luHeF!!!!!!!^PUNCTUAsl DOT&SMeL CIRCi<CIRCi)vSCqyBd<MkGeAM,LOTUS)DkDA(OUBi DkDA<LhES!!!",
    "!!!!,~OLDmOUx dABIk iTTj HE%LAMEDH*HEx(MEM&QOPH(WAW&SHh(vSH(BEx(TAW&SAT&KAPH(NUN&KHEx)SADHE",
    "&MEKH*FE%eEF&YN&DtDHE*GIMEL)DeEx*GtYN)TEx(ZAYN(DHeEx+YODH(TtW%Ex<NUMBj lE&FIFTY.jIC hDICATO",
    "R;~NORx dABIk iTTj HEH&LAM&tH&MEEM(QAF&WAW&ES-2(vH&BEH&TEH&ES-1(KAF&NOl(KtH(SAD&ES-3(FEH&eE",
    "F&h&DAD&GEEM(De&Gth)TAH&ZAh(xe(YEH&xEH(ZAH:NUMBj lE&Tq%WqTY"]),
   (68288,
   ["!MkICtEk iTTj eEPH)BEx&HEx)GIMEL(HIMEL*DeEx*HE%WAW:Sw UD+iTTj ZAYh(tYh*JAYh(tYh*HEx(TEx(YOD",
    "H(KAPH(XAPH(KtPH)LAMEDH*DtMEDH+TtMEDH+MEM&NUN&SAMEKH*AYh&AYh)PE%FE%SADHE)QOPH(XOPH(QHOPH)vS",
    "H(SHh&SHh)TAW:ABBvVIAsl MdKn)BELr!!!!&~NUMBj lE&FIVE(Tq%WqTY*luHUNDvD_PUNCTUAslmTd(FiURl+DO",
    "UBi DOyWIxh DOT|yWIxh DOT;&TWO DOTS,LhuFILiR!!!!!!!!!>~AVESTk iTTj A!A$O$AO%N$k%E!E&E!E%O!O",
    "%I!I%U!U%KE%XE$YE%VE&GE$GE%HE&CE%JE%TE$HE&DE$HE&TTE&PE%FE%BE$HE&NGE$YE%VE&E$YE%NE&ME%HME&YY",
    "E%E%VE%v%i%SE%ZE%SHE&ZHE&SHYE&SHE(HE!!!.ABBvVIAsl MdK)~ThY TWO DOTS OVj luDOyPUNCTUAsl_~SMe",
    "L TWO DOTS OVj luDOyPUNCTUAsl|~LdGuTWO DOTS OVj luDOyPUNCTUAsl=~luDOyOVj TWO DOTS PUNCTUAsl",
    "=~TWO RhGS OVj luRhG PUNCTUAsl?~luRhG OVj TWO RhGS PUNCTUAsl$~~hSCRIPsle PdxIk iTTj eEPH)BE",
    "x(GIMEL)DeEx*HE%WAW&ZAYh)HEx(TEx(YODH(KAPH(LAMEDH*MEM&NUN&SAMEKH*AYh(PE%SADHE)QOPH(vSH(SHh(",
    "TAW!!:NUMBj lE&TWO%HvE)FOUR(Tq%WqTY*luHUNDvD+xOUSkD*~HLAVI iTTj eEPH)BEx(GIMEL)DeEx*HE%WAW-",
    "AYh-vSH=ZAYh)HEx(TEx(YODH(KAPH(LAMEDH*MEM-QOPH,NUN&SAMEKH*PE%SADHE(Hh(TAW!!!!!:NUMBj lE&TWO",
    "%HvE)FOUR(Tq%WqTY*luHUNDvD+xOUSkD$~~PSeTj PAHLAVI iTTj eEPH)BEx(GIMEL)DeEx*HE%WAW-AYh-vSH=Z",
    "AYh)HEx(YODH(KAPH(LAMEDH*MEM-QOPH,NUN&SAMEKH*PE%SADHE(Hh(TAW!!!!!!!:SECsl MdK<TURNEDmECsl M",
    "dK|FOUR DOTSbCROSS)DOT!!!!!!!!!!!!_NUMBj lE&TWO%HvE)FOUR(Tq%WqTY*luHUNDvD"]),
   (68608,
   ["!OLD TURKIC iTTj ORKHl A,YqISEI A!E:ORKHl I,YqISEI I$E.ORKHl O!E.YqISEI OE:ORKHl AB.YqISEI ",
    "AB:ORKHl AEB:YqISEI AEB;ORKHl AG.YqISEI AG:ORKHl AEG:YqISEI AEG;ORKHl AD.YqISEI AD:ORKHl AE",
    "D&EZ.YqISEI EZ:ORKHl AY.YqISEI AY:ORKHl AEY:YqISEI AEY;ORKHl AEK:YqISEI AEK;ORKHl OEK:YqISE",
    "I OEK;ORKHl e.YqISEI e:ORKHl AEL&ELT%M%k$q:YqISEI Aq;ORKHl qT:YqISEI qT;ORKHl qC:YqISEI qC;",
    "ORKHl qY:YqISEI qY&kG;ORKHl qG:YqISEI AqG<ORKHl EP%OP%IC%EC.YqISEI EC:ORKHl AQ.YqISEI AQ:OR",
    "KHl IQ.YqISEI IQ:ORKHl OQ.YqISEI OQ:ORKHl d.YqISEI d:ORKHl Aj%S$ES%SH:YqISEI ASH;ORKHl ESH:",
    "YqISEI ESH;ORKHl AT.YqISEI AT:ORKHl AET:YqISEI AET;ORKHl OT%BASH"]),
   (68736,
   ["!OLD HUNGdIk caA!A%EB%AMB&EC$NC%CS%D%kD&E$CLOSuE+EE$F$G!Y%H%I!I%EJ$K%AK%UNK&EL!Y%M$N!Y&O!O%",
    "NIKOLSBURG OE=RUDIMqTA OE<OEE&EP$MP%R%SHORyj,ES!Z%T$NT%TY%CH&U!U%NIKOLSBURG UE=RUDIMqTA UE<",
    "EV$Z!S%NT-StPEDmw?US!!!!!!!!!!!!!^SMeaA!A%EB%AMB&EC$NC%CS%D%kD&E$CLOSuE+EE$F$G!Y%H%I!I%EJ$K",
    "%AK%UNK&EL!Y%M$N!Y&O!O%NIKOLSBURG OE=RUDIMqTA OE<OEE&EP$MP%R%SHORyj,ES!Z%T$NT%TY%CH&U!U%NIK",
    "OLSBURG UE=RUDIMqTA UE<EV$Z!S%NT-StPEDmw?US!!!!!!!?NUMBj lE&FIVE(Tq&FIFTY)luHUNDvD+xOUSkD=~",
    "HkIFI ROHhGYA iTTj A$BA%PA%TA$TA&JA%CA%t%Kt&FA%DA$DA&z$z&ZA%SA$t&KA%GA%LA%MA%NA%WA%KhNA WA,",
    "YA%KhNA YA,NGA%YA&VA.VrEL A$I$U$E$O+MdKmAKh)NA KHlNA>Sw HdBAtY,TAHeA(NA%SSI!!!!!!!!:DIGIyZj",
    "O(lE&TWO%HvE)FOUR&IVE(SIX%EVq)Ef)NhE"]),
   (69216,
   ["!RUMI DIGIylE&TWO%HvE)FOUR&IVE(SIX%EVq)Ef)NhE:NUMBj Tq%WqTY)HIRTY*FORTY(IFTY)SIXTY(EVqTY+Ef",
    "Y*NhETY*luHUNDvD;TWO HUNDvD:HvuHUNDvD=FOUR HUNDvD;IVuHUNDvD<SIX HUNDvD:EVq HUNDvD=Ef HUNDvD",
    "=NhuHUNDvD|FzCsl luHeF(QUdTj+xIRD.TWO xIRDS!(~YEZIDI iTTj ELIF(BE%PE$HE&xE&SE%CIM%HIM%HIM)H",
    "t&XA%De&Ze&z$t&ZA%JA%Sh%Hh&AD&DAD&TA%ZE%EYN&XHEYN)FA%VA! eTjNATEg^QAF&KAF%tF(GAF&LAM&MIM&NU",
    "N&UM%WAW&r%EW%tY&YOT&ET!.COMBhhG tMZA MdK:MADDA MdK!~HYPHqAsl MdK!!]iTTj LAMbDOTn_YOTbCIRCU",
    "MFiXn"]),
   (69376,
   ["!OLDmOGDIk iTTj eEPH)Fhe eEPH;BEx(Fhe BEx:GIMEL)HE%Fhe HE,WAW&ZAYh)HEx(YODH(KAPH(LAMEDH*MEM",
    "&NUN&Fhe NUN!bVjsCe TAIL,~SAMEKH*AYh&LTjNATuAYh>PE%SADHE)FhemADHE!bVjsCe TAIL:~vSH-AYh-DeEx",
    "]SHh(TAW&Fhe TAW!bVjsCe TAIL?~NUMBj lE&TWO%HvE)FOUR&IVE(Tq%WqTY)HIRTY*luHUNDvD_FzCsl luHeF^",
    "LIGATURuAYh-DeEx!!!!!!!!<~SOGDIk iTTj eEPH)BEx(GIMEL)HE%WAW&ZAYh)HEx(YODH(KAPH(LAMEDH*MEM&N",
    "UN&SAMEKH*AYh(PE%SADHE)vSH-AYh.SHh(TAW&FEx(iSH;hDEPqDqTmHh]COMBhhG DOyBELr.TWO DOTS BELr>DO",
    "Tn.TWO DOTSn>CURVEn)BELr;HOOKn)BELr:LlG HOOK BELr?vSH BELr:STROKuBELr%~NUMBj lE&Tq%WqTY*luH",
    "UNDvD_PUNCTUAsl TWO VjsCe BdS!bDOTS+~CIRCibDOT?TWO CIRCiSbDOTS$~HeF CIRCibDOT"]),
   (69488,
   ["!OLD UYGHUR iTTj eEPH)BEx(GIMEL-HEx:WAW&ZAYh)Fhe HEx:YODH(KAPH(LAMEDH*MEM&NUN&SAMEKH*PE%SAD",
    "HE)vSH(SHh(TAW&iSH;COMBhhG DOTn)BELr.TWO DOTSn)BELr(~PUNCTUAsl Bd&TWO BdS(DOTS,FOUR DOTS"]),
   (69552,
   ["!CHOzSMIk iTTj eEPH)SMeL eEPH;BEx(GIMEL)DeEx*HE%WAW&CURiD WAW:ZAYh)HEx(YODH(KAPH(LAMEDH*MEM",
    "&NUN&SAMEKH*AYh(PE%vSH(SHh(TAW:NUMBj lE&TWO%HvE)FOUR(Tq%WqTY*luHUNDvD"]),
   (69600,
   ["!ELYMAIC iTTj eEPH)BEx(GIMEL)DeEx*HE%WAW&ZAYh)HEx(TEx(YODH(KAPH(LAMEDH*MEM&NUN&SAMEKH*AYh(P",
    "E%SADHE)QOPH(vSH(SHh(TAW.IGATURuZAYh-YODH!!!!!!!!!+~BzHMImw CkDzBhDU;kUSVdA,VISdGA+JIHVAMUL",
    "IYA;UPADHMkIYA]iTTj A!A%I!I%U!U%VOCeIC R!R%L!L:E$AI%O$AU%KA$t&GA$t&NGA&CA$t&JA$t&NYA&TTA$t(",
    "DDA$t(NNA&TA$t&DA$t&NA%PA$t&BA$t&MA%YA%z%LA%VA%St%SA%A%t%LLA&OLD TAMIL LLLA(Rz&NNNA$~VrELmw",
    " AA%BtTsPROLU AA>I!I%U!U%VOCeIC R!R%L!L:E$AI%O$AU<IzMA*DkDA(OUBi DkDA<PUNCTUAsl DOT$UBi DOT",
    ":LhE(CvSCqyBd<LOTUS!!!!^NUMBj lE&TWO%HvE)FOUR&IVE(SIX%EVq)Ef)NhE(Tq%WqTY)HIRTY*FORTY(IFTY)S",
    "IXTY(EVqTY+EfY*NhETY*luHUNDvD+xOUSkD|DIGIyZjO(lE&TWO%HvE)FOUR&IVE(SIX%EVq)Ef)NhE:Sw OLD TAM",
    "IL VIzMA$~iTTj OLD TAMILmHORyE$O(~VrELmw OLD TAMILmHORyE$O,~iTTj OLD TAMIL LLA!!!!!!!!!!~NU",
    "MBj JOhj!~KAIxImw CkDzBhDU;kUSVdA,VISdGA<iTTj A!A%I!I%U!U%E$AI%O$AU%KA$t&GA$t&NGA&CA$t&JA$t",
    "&NYA&TTA$t(DDA$Dt&t(Rt&NNA&TA$t&DA$t&NA%PA$t&BA$t&MA%YA%z%LA%VA%St%SA%A%t.VrELmw AA%I!I%U!U",
    "%E$AI%O$AU=Sw VIzMA*NUKTA:ABBvVIAslmw^qUMjAslmw]NUMBjmw;SECsl MdK<DOUBimECsl MdK_kDA(OUBi D",
    "kDA<VrELmw VOCeIC R!!!!!!!!!!!~NUMBjmwn!!(~SOzmOMPqG iTTjmAH&TAH&BAH&CAH&DAH&GAH&MAH&NGAH(L",
    "AH&NAH&VAH&PAH&YAH&zH&tH&KAH&JAH&NYAH(AH%EEH&IH%UH%OH%EH%MAE!!!!!!!:DIGIyZjO(lE&TWO%HvE)FOU",
    "R&IVE(SIX%EVq)Ef)NhE!!!!!!&~CtKMAmw CkDzBhDU;kUSVdA,VISdGA<iTTj AA%I$U$E$KAA%tA(GAA%tA(NGAA",
    "(CAA%tA(JAA%tA(NYAA(TTAA%tA)DDAA%tA)NNAA(TAA%tA(DAA%tA(NAA&PAA%tA(BAA%tA(MAA&YYAA&AA&zA&LAA",
    "&WAA&SAA&tA:VrELmw A$I!I%U!U%E$AI%O$AU%OI=O MdK*AU MdK+VIzMA*MAAYYAA!+DIGIyZjO(lE&TWO%HvE)F",
    "OUR&IVE(SIX%EVq)Ef)NhE:SECsl MdK<DkDA(OUBi DkDA<QUESsl MdK=iTTj LtA;VrELmw AA%EI=iTTj VAA!!",
    "!!!!!!^MAtJkI iTTj A$I$U$E$O$KA$t&GA$t&CA$t&JA$t&NYA&TTA$t(DDA$t(NNA&TA$t&DA$t&NA%PA$t&BA$t",
    "&MA%z%LA%VA%SA%t%Rz:Sw NUKTA:ABBvVIAslmw^SECsl MdK<LIGATUvmHRI!!!!!!!!!%~SHdADAmw CkDzBhDU;",
    "kUSVdA,VISdGA<iTTj A!A%I!I%U!U%VOCeIC R!R%L!L:E$AI%O$AU%KA$t&GA$t&NGA&CA$t&JA$t&NYA&TTA$t(D",
    "DA$t(NNA&TA$t&DA$t&NA%PA$t&BA$t&MA%YA%z%LA$LA&VA%St%SA%A%t.VrELmw AA%I!I%U!U%VOCeIC R!R%L!L",
    ":E$AI%O$AU=Sw VIzMA*AVAGzt,JIHVAMULIYA;UPADHMkIYA]OM%DkDA(OUBi DkDA<ABBvVIAslmw^SEPdATOR,kD",
    "HI MdK:w NUKTA:VrEL MODIFIj MdK|EXTzmHORyVrEL MdK%~SUTz MdK:VrELmw PRISHTtMATz E*~Sw hVjTpC",
    "kDzBhDU)~DIGIyZjO(lE&TWO%HvE)FOUR&IVE(SIX%EVq)Ef)NhE:EKAM(SwmIDDtM<HEADSTROKE:ClThUAslmw^SE",
    "Csl MdK-1$2!$~hHeA dCtIC DIGIylE&TWO%HvE)FOUR&IVE(SIX%EVq)Ef)NhE:NUMBj Tq%WqTY)HIRTY*FORTY(",
    "IFTY)SIXTY(EVqTY+EfY*NhETY*luHUNDvD+xOUSkD!!!!!!!!!!!?~KHOJKI iTTj A!A%I$U$E$AI%O$AU%KA$t&G",
    "A$GA%t&NGA&CA$t&JA$JA!&NYA&TTA$t(DDA$t(NNA&TA$t&DA$DDA&t&NA%PA$t&BA$BA%t&MA%YA%z%LA%VA%SA%t",
    "%LLA:VrELmw AA%I!I%U$E$AI%O$AU=Sw kUSVdA,VIzMA*NUKTA)StDDA;DkDA(OUBi DkDA<WORDmEPdATOR>SECs",
    "l MdK<DOUBimECsl MdK|ABBvVIAslmw^SwmUKUN"]),
   (70272,
   ["!MULTkI iTTj A$I$U$E$KA$t&GA!$t!&CA$t&JA$JA!&NYA&TTA$t(DDA$DA%t(NNA&TA$t&DA$t&NA%PA$t&BA!$t",
    "&MA%YA%z%LA%VA%SA%t%Rz%t:SECsl MdK!!!!!!!~KHUDAWADI iTTj A!A%I!I%U!U%E$AI%O$AU%KA$t&GA$GA%t",
    "&NGA&CA$t&JA$JA%t&NYA&TTA$t(DDA$DA(Rz&DDt(NNA&TA$t&DA$t&NA%PA$t&BA$BA%t&MA%YA%z%LA%VA%St%A%",
    "t.Sw kUSVdA=VrELmw AA%I!I%U!U%E$AI%O$AU=Sw NUKTA)VIzMA!!!!!;DIGIyZjO(lE&TWO%HvE)FOUR&IVE(SI",
    "X%EVq)Ef)NhE!!!!!!!~GRkTtmw COMBhhG kUSVdAn&~kDzBhDU;kUSVdA,VISdGA!<iTTj A!A%I!I%U!U%VOCeIC",
    " R$L!!.EE%AI!!%OO%AU%KA$t&GA$t&NGA&CA$t&JA$t&NYA&TTA$t(DDA$t(NNA&TA$t&DA$t&NA!%PA$t&BA$t&MA",
    "%YA%z!%LA$LA!&VA%St%SA%A%t!^COMBhhG BhDU BELr$~GRkTtmw NUKTA)AVAGzt=VrELmw AA%I!I%U!U%VOCeI",
    "C R!R!!:EE%AI!!%OO%AU=Sw VIzMA!!;OM!!!!!!%AU iNGx MdK!!!!!>Sw PLUTA:iTTj VEDIC kUSVdA,DOUBi",
    " kUSVdA!~OCeIC RR%LL^VrELmw VOCeIC L!L!!.~COMBhhG GRkTt DIGIyZjO(lE&TWO%HvE)FOUR&IVE(SIX!!!",
    ".iTTj A$KA%NA%VI%PA"]),
   (70656,
   ["!NEWA iTTj A!A%I!I%U!U%VOCeIC R!R%L!L:E$AI%O$AU%KA$t&GA$t&NGA$t(CA$t&JA$t&NYA$t(TTA$t(DDA$t",
    "(NNA&TA$t&DA$t&NA$t&PA$t&BA$t&MA$t&YA%z$t&LA$t&WA%St%SA%A%t.VrELmw AA%I!I%U!U%VOCeIC R!R%L!",
    "L:E$AI%O$AU=Sw VIzMA*CkDzBhDU;kUSVdA,VISdGA+NUKTA)AVAGzt,Fhe kUSVdA|OM%SIDDHI*DkDA(OUBi DkD",
    "A<COMMA)GAP FILiR:ABBvVIAslmw^DIGIyZjO(lE&TWO%HvE)FOUR&IVE(SIX%EVq)Ef)NhE.OUBi COMMA<PLACEH",
    "OLDj MdK!]hSjslmw>SkDHI MdK;iTTj VEDIC kUSVdA$~Sw JIHVAMULIYA;UPADHMkIYA"]),
   (70784,
   ["!sRHUTA kJI(iTTj A!A%I!I%U!U%VOCeIC R!R%L!L:E$AI%O$AU%KA$t&GA$t&NGA&CA$t&JA$t&NYA&TTA$t(DDA",
    "$t(NNA&TA$t&DA$t&NA%PA$t&BA$t&MA%YA%z%LA%VA%St%SA%A%t.VrELmw AA%I!I%U!U%VOCeIC R!R%L!L:E$SH",
    "ORyE+AI%O$SHORyO+AU=Sw CkDzBhDU;kUSVdA,VISdGA)zMA*NUKTA)AVAGzt=GVkG)ABBvVIAslmw^OM!!!!!!!!%",
    "DIGIyZjO(lE&TWO%HvE)FOUR&IVE(SIX%EVq)Ef)NhE"]),
   (71040,
   ["!SIDDtM iTTj A!A%I!I%U!U%VOCeIC R!R%L!L:E$AI%O$AU%KA$t&GA$t&NGA&CA$t&JA$t&NYA&TTA$t(DDA$t(N",
    "NA&TA$t&DA$t&NA%PA$t&BA$t&MA%YA%z%LA%VA%St%SA%A%t.VrELmw AA%I!I%U!U%VOCeIC R!R!!:E$AI%O$AU=",
    "Sw CkDzBhDU;kUSVdA,VISdGA)zMA*NUKTA)SIDDtM<DkDA(OUBi DkDA<SEPdATOR DOT&Bd=vPEssl MdK-1$2$3^",
    "qD OF TEXyMdK]SECsl MdKbTRIDqykD U-StPpORNAMqTS_DOTTpCvSCqTS,~zYS kD DOTTpCvSCqTS.DOUBi CvS",
    "CqTS]TRIPi CvSCqTS^~DOUBi RhG!bzYS$~WIx DOUBi CvSCqTS]TRIPi CvSCqTS]QUADRUPi CvSCqTS|SEPTUP",
    "i CvSCqTS_CIRCiS kD zYS(TWO qCLOSUvS>FOUR qCLOSUvS)~~iTTj xvE-CIRCi eTjNATuI&~WO-CIRCi eTjN",
    "ATuI!I&~eTjNATuU_VrELmw eTjNATuU!U"]),
   (71168,
   ["!MODI iTTj A!A%I!I%U!U%VOCeIC R!R%L!L:E$AI%O$AU%KA$t&GA$t&NGA&CA$t&JA$t&NYA&TTA$t(DDA$t(NNA",
    "&TA$t&DA$t&NA%PA$t&BA$t&MA%YA%z%LA%VA%St%SA%A%t%LLA:VrELmw AA%I!I%U!U%VOCeIC R!R%L!L:E$AI%O",
    "$AU=Sw kUSVdA,VISdGA)zMA*dDtCkDz]DkDA(OUBi DkDA<ABBvVIAslmw^Sw HUVA!!!!!!!!!!!.DIGIyZjO(lE&",
    "TWO%HvE)FOUR&IVE(SIX%EVq)Ef)NhE!!!!!!=NGOLIk BIRGAbORNAMqT|ROTATpBIRGA=DOUBi BIRGAbORNAMqT*",
    "~TRIPi BIRGAbORNAMqT*~BIRGAbDOUBi ORNAMqT*~ROTATpBIRGAbORNAMqT,DOUBi ORNAMqT>~hVjTpBIRGA!bD",
    "OUBi ORNAMqT?~SWIRL BIRGA!bORNAMqT,DOUBi ORNAMqT<~TURNEDmWIRL BIRGAbDOUBi ORNAMqT!!!!!!!!!!",
    "!!!!!!!!!.~~TAKRI iTTj A!A%I!I%U!U%E$AI%O$AU%KA$t&GA$t&NGA&CA$t&JA$t&NYA&TTA$t(DDA$t(NNA&TA",
    "$t&DA$t&NA%PA$t&BA$t&MA%YA%z%LA%VA%St%A%t%Rz:Sw kUSVdA,VISdGA<VrELmw AA%I!I%U!U%E$AI%O$AU=S",
    "w VIzMA*NUKTA:iTTj dCtIC Kt_ABBvVIAslmw!!!!!!^DIGIyZjO(lE&TWO%HvE)FOUR&IVE(SIX%EVq)Ef)NhE"]),
   (71424,
   ["!AHOM iTTj KA$t&NGA%A%TA%eTjNATuTA<PA$t&BA%MA%JA%Ct&Tt&z%LA%SA%NYA&t%A$DA$t&GA%eTjNATuGA<Gt",
    "&Bt&Jt&eTjNATuBA!!|ClSlkTmw MEDIe LA%z%LIGAThG z=~VrELmw A!A%I!I%U!U%E$AW%O$AI$M=Sw KILiR!!",
    "!!;DIGIyZjO(lE&TWO%HvE)FOUR&IVE(SIX%EVq)Ef)NhE:NUMBj Tq%WqTY=SwmMeLmECsl<ECsl+RULAI.YMBOL V",
    "I.iTTj CA%TTA$t(DDA$t(NNA&LLA"]),
   (71680,
   ["!DOGz iTTj A!A%I!I%U!U%E$AI%O$AU%KA$t&GA$t&NGA&CA$t&JA$t&NYA&TTA$t(DDA$t(NNA&TA$t&DA$t&NA%P",
    "A$t&BA$t&MA%YA%z%LA%VA%St%SA%A%t%Rz:VrELmw AA%I!I%U!U%VOCeIC R!R:E$AI%O$AU=Sw kUSVdA,VISdGA",
    ")zMA*NUKTA:ABBvVIAslmw"]),
   (71840,
   ["!WdkG CIs caNGAA(A$WI%YU$A$O%II%UU%E$O$kG&GA%KO%qY&YUJ&UC%qN&ODD&TTE&NUNG(DA%AT$M%BU%PU%HIY",
    "O&OLO%RR&d&SSUU&II&VIYO|SMeaNGAA(A$WI%YU$A$O%II%UU%E$O$kG&GA%KO%qY&YUJ&UC%qN&ODD&TTE&NUNG(D",
    "A%AT$M%BU%PU%HIYO&OLO%RR&d&SSUU&II&VIYO^DIGIyZjO(lE&TWO%HvE)FOUR&IVE(SIX%EVq)Ef)NhE:NUMBj T",
    "q%WqTY)HIRTY*FORTY(IFTY)SIXTY(EVqTY+EfY*NhETY!!!!!!!!!!!!=OM>DIVES AKURU iTTj A!A%I!I%U!U%E",
    "!!$O!!$KA$t&GA$t&NGA&CA$t&JA!%NYA&TTA!&DDA$t(NNA&TA$t&DA$t&NA%PA$t&BA$t&MA%YA$YA&z%LA%VA%St",
    "%SA%A%t%LLA&ZA.VrELmw AA%I!I%U!U%E!$AI%O!!<Sw kUSVdA,CkDzBhDU;HekTA<VIzMA*PvFIXpNASemw|MEDI",
    "e YA.hIse z:MEDIe z.Sw NUKTA:DOUBi DkDA<GAP FILiR:qD OF TEXyMdK!!!!!!!!!]DIGIyZjO(lE&TWO%Hv",
    "E)FOUR&IVE(SIX%EVq)Ef)NhE"]),
   (72096,
   ["!NkDhAGdI iTTj A!A%I!I%U!U%VOCeIC R!R!!:E$AI%O$AU%KA$t&GA$t&NGA&CA$t&JA$t&NYA&TTA$t(DDA$t(N",
    "NA&TA$t&DA$t&NA%PA$t&BA$t&MA%YA%z%LA%VA%St%SA%A%t%LLA&Rz:VrELmw AA%I!I%U!U%VOCeIC R!R!!:E$A",
    "I%O$AU=Sw kUSVdA,VISdGA)zMA*AVAGzt,SIDDtM<HEADSTROKE:VrELmw PRISHTtMATz E"]),
   (72192,
   ["!ZkABAZdmQUduiTTj A,VrELmw I$UE$$E$OE$$AI$U%vVjSpI?iNGx MdK^iTTj KA$t&GA$t&NGA&CA$t&JA%NYA&",
    "TTA$t(DDA$t(NNA&TA$t&DA$t&NA%PA$t&BA$t&MA%TSA$t(DZA$t(Zt%A%-A%YA%z%LA%VA%St%SA%A%t%KSSA;Fhe",
    " ClSlkyMdK!~Sw VIzMA*CkDzBhDU!bORNAMqT|bORNAMqT!~kUSVdA,VISdGA<CLUSTj-hIsAaz^FhAaYA%z%LA%VA",
    "&~hIse HEAD MdK^CLOShG HEAD MdK^MdK TSHEG)StD(DOUBimtD;LlG TSHEG?hIse DOUBi-LhpHEAD MdK:~CL",
    "OShG DOUBi-LhpHEAD MdK:~SUBJOhj!!!!!!!!*~SOYOMBO iTTj A,VrELmw I$UE$$E$O!E%AI$U%VOCeIC R$L>",
    "iNGx MdK^iTTj KA$t&GA$t&NGA&CA$t&JA$t&NYA&TTA$t(DDA$t(NNA&TA$t&DA$t&NA%PA$t&BA$t&MA%TSA$t(D",
    "ZA&Zt%A%-A%YA%z%LA%VA%St%SA%A%t%KSSA;Sw JIHVAMULIYA;UPADHMkIYA]CLUSTj-hIsAaz%LA%St%A)~Fhe C",
    "lSlkTmw G$K$NG%D$N$B$M$R$L$SH$$-A&~Sw kUSVdA,VISdGA<GEMhAsl MdK?SUBJOhj.MdK TSHEG)StD(DOUBi",
    "mtD;PLUTA:HEAD MdKbMOl kDmUN kD TRIPi FLAME<FLAME:+~TjMhe MdK-1$2!!!!!!!!!!!!!&~CkADIkmYLLA",
    "BICS NATsLIK HI!I%O!O%A!A&SHRI!I%O!O%A!A>SPE$I$O$A%~PAU Ch tU iTTj PA%KA%LA%MA%DA%ZA%VA%NGA",
    "&t%GA%Kt&SA%BA%CA%TA$t&NA%Pt&z%FA%Ct&A$E$I$O$U!A%IA%Fhe P$K$T$M$N$L$W$NG%Y>RIShG TluLlG);Sk",
    "DHI GLOTTemTOP|RIShG TluLlG Fhe:Fhe^SkDHI GLOTTemTOP Fhe_TluLlG)! LlG Fhe:Fhe^MID-iVEL TlE>",
    "GLOTTemTOP VdIkT!~MID-iVEL TluLlG Fhe:Fhe!~Lr-FeLhG TluLlG)]GLOTTemTOP<Lr-FeLhG TluLlG Fhe:",
    "Fhe%~GLOTTemTOP Fhe"]),
   (72704,
   ["!BtIKSUKI iTTj A!A%I!I%U!U%VOCeIC R!R%L!.E$AI%O$AU%KA$t&GA$t&NGA&CA$t&JA$t&NYA&TTA$t(DDA$t(",
    "NNA&TA$t&DA$t&NA%PA$t&BA$t&MA%YA%z%LA%VA%St%SA%A%t.VrELmw AA%I!I%U!U%VOCeIC R!R%L!.E$AI%O$A",
    "U=Sw CkDzBhDU;kUSVdA,VISdGA)zMA*AVAGzt=DkDA(OUBi DkDA<WORDmEPdATOR>GAP FILiR-1$2!!!!!!!!!!<",
    "DIGIyZjO(lE&TWO%HvE)FOUR&IVE(SIX%EVq)Ef)NhE:NUMBj lE&TWO%HvE)FOUR&IVE(SIX%EVq)Ef)NhE(Tq%WqT",
    "Y)HIRTY*FORTY(IFTY)SIXTY(EVqTY+EfY*NhETY=HUNDvDS UNIyMdK!!!,~MdCHq HEAD MdK.MdKmtD.iTTj KA$",
    "t&GA%NGA&CA$t&JA%NYA&TA$t&DA%NA%PA$t&BA%MA%TSA$t(DZA&WA%Zt%A%-A%YA%z%LA%St%A%t%A!!,SUBJOhpi",
    "TTj KA$t&GA%NGA&CA$t&JA%NYA&TA$t&DA%NA%PA$t&BA%MA%TSA$t(DZA&WA%Zt%A!%YA%z%LA%St%A%t%A_VrELm",
    "w AA%I$U$E$O<Sw kUSVdA,CkDzBhDU"]),
   (72960,
   ["!MASdAM GlDI iTTj A!A%I!I%U!U%E!$AI%O!$AU%KA$t&GA$t&NGA&CA$t&JA$t&NYA&TTA$t(DDA$t(NNA&TA$t&",
    "DA$t&NA%PA$t&BA$t&MA%YA%z%LA%VA%St%SA%A%t%LLA&KSSA(JNYA(Tz:VrELmw AA%I!I%U!U%VOCeIC R!!!.E!",
    "$AI%O!$AU=Sw kUSVdA,VISdGA+NUKTA)CkDz*HekTA<VIzMA*vPt(A-KdA!!!!!!!!+DIGIyZjO(lE&TWO%HvE)FOU",
    "R&IVE(SIX%EVq)Ef)NhE!!!!!!(~GUNJeA GlDI iTTj A!A%I!I%U!U!%EE%AI!%OO%AU%YA%VA%BA$t&MA%KA$t&T",
    "A$t&LA%GA$t&DA$t&NA%CA$t&TTA$t(LLA&JA$t&DDA$t(NGA&PA$t&t%z%SA.VrELmw AA%I!I%U!U!%EE%AI!%OO%",
    "AU=Sw kUSVdA,VISdGA<VIzMA*OM!!!!!!!%DIGIyZjO(lE&TWO%HvE)FOUR&IVE(SIX%EVq)Ef)NhE"]),
   (73440,
   ["!MAKASd iTTj KA%GA%NGA&PA%BA%MA%TA%DA%NA%CA%JA%NYA&YA%z%LA%VA%SA%A,kGKA)VrELmw I$U$E$O<PASS",
    "IMBkG:qD OFmECsl"]),
   (73648,
   ["!LISU iTTj Yt!!!!!!!!!!!!!!!?TAMIL FzCsl luxvE-HUNDvD-kD-TWqsEx+~lE-HUNDvD-kD-SIXsEx(~EfIEx",
    ".SIXTY-FOURx<FORsEx,xIRTY-SEClD^xvuEfIExS:SIXTY-FOURxS|luTWqsEx.SIXTEqx-1$2;Tqx)EfH:xvuTWqs",
    "ExS:SIXTEqxS]luFIFx)QUdTj+HeF-1$2:xvuQUdTjS>DrNSCehG FACTOR KIIZH=~Sw NEL&CEVITU*AAZtAKKU.U",
    "ZtKKU+MUUVUZtKKU;KURUNI*PATtKKU,MUKKURUNI.KAACU)PkAM(l&VdAAKk,PAdAM*KUZHI)VELI.WEyCULsVAslm",
    "w!~DRY CULsVAslmw!~LkDmw.SeyPkmw=TzDIsle CvDITmw;NUMBjmw&~CURRqTmw<kD ODDmw<SPqTmw:TOTemw:h",
    " POSSESSIlmw_STdThG FROMmw^w MUxeIYA.VAKAIYdAA!!!!!!!!!!!!!?PUNCTUAsl qD OF TEXT.~CUNEIFORM",
    "mw A! sMES A$BAD&Gk2 TqU.t%IGI&LAGd GUNU:MUSH(SAG:2$B! sMES ASH2(DUN3 GUNU.Ge$N2 TqU.t%IGI ",
    "GUNU+Mh(LAGAB)SHESH)U PLUS U PLUS U$~GUNU)2! sMES BeAG)Gk2 TqU.MuPLUS q:St3(TAK4=D$K! sMES ",
    "jh2)SHITA PLUS GISH&~L! sMES e%DIM2(GISH(t%KAD3&I%SHE&USH:k%EPH(Md! sMESmHE=N! OVj k+xvusME",
    "S;PLUS NAGA OPPOShG k PLUS NAGA$~SQUdED_SHE(Ph&zD! sMES KUR<KAB(Se2&H! ZIDA TqU.KABA TqU.OV",
    "j ASH TUG2 OVj TUG2 TUG2 OVj TUG2 PAP=~OVj ASH! CROSShG ASH OVj ASH OVj ASH.~~2$GAB*BA!D$G3",
    "%Hd2(L! OVj Be.AG&R!A2(I! sMES A$Gd&IGI GUNU]U! OVj BU AB%UN:CROSShG BU<LUG! OVj BULUG>R!2(",
    "DA!G! KISIM5 sMES A PLUS MASH:Md(BeAG(I%GA! PLUS MASH;I!R2&UD&t%IR! PLUS LU:KAK&LA$U! PLUS ",
    "MASH2;M&NE%PAP PLUS PAP<SI%TAK4(U2 PLUS GIR2;SH_M$R!A3$4(I!B$M! sMESmHE:2%N! KASKe U GUNU D",
    "ISH!~SH&U! OVj DU+GUNU(SHESHIG,B! sMES ESH2;2%G!UD&H$N!3! GUNU! GUNU;4%R2(E! sMES PAP.OVj u",
    "NUN OVj NUN!~2! sMES A PLUS t PLUS DA^Gd&MI%Se%HE&U.Dh&GIR&L$N! sMES Gk2! TqU.ME,CROSShG q;",
    "OPPOShG q;SQUdED.Rq%h2(SH2&Zq! sMES A! PLUS Le! sMES Le|N%BAD&DUN3 GUNU! GUNU>t! GUNU+IGI G",
    "UNU,KASKe!mQUdED=U3&LA!L sMES Le<I$U%U2$D=GA! GUNU)2! sMES A PLUS DA PLUS t:t%IGI.B2 TqU PL",
    "US TAB]N$SH!2 PLUS Ge=BAD$R PLUS z:UR! PLUS z;DA$I!M sMESmHE<UB&EL! PLUS LA.N! sMES Gk2 TqU",
    "_Gk2 TqU+R%I!4! PLUS A,R2 PLUSmU<t PLUS LU PLUS ESH2_L! PLUS LA:I PLUS LI.UB2(IGI GUNU+SH P",
    "LUS HU PLUS ASH!~KAK$SKe)ID! PLUS Le;U3 PLUS k;LA%MuPLUS q.I%NUN! OVj NUN<PA%Se$R%HE! PLUS ",
    "TUR:ID&UM&TAK4(U!D! PLUS DU]OVj GA2:BA! CROSShG GABA]D! OVj GAD Gd OVj Gd&~L! GAD OVj GAD G",
    "d OVj Gd*~AM&M$N!2! TqU(OVj Gk2.CROSShG Gk2]R!3%SHk)ESHTh! sMES KUR]I! sMES E$U+CROSShG GI<",
    "4! OVj GI4,CROSShG GI4>DIM&R2! GUNU*3! sMES A PLUS IGI:Gk2 TqU.IGI&LU PLUS IGI;PA;Se%H! CRO",
    "SShG GISH=sMES BAD&TAK4.qU,U! CROSShG GU<2! sMES KAK! sMES IGI GUNU_NUN&Se PLUS TUG2|GUNU*D",
    "! sMES A PLUS KUR:KUR.OVj GUD LUGe]L$M! sMESmHE;R!7$UN$SH*t! TqU(GUNU)L%I! sMES ASH!2(BAD&D",
    "ISH(GAD&Kh&NUN&SHE&U.U!B2! sMES k%He&KASKe*LISH(UD;L2(I! A%B$DIM! OVj IDIM BUR&SQUdED$~G!I!",
    " DIB&RI%OVj IGImHIR OVjmHIR UD OVj UD>~GUNU+L! sMES Gk2 TqU]2%M! sMES TAK4:CROSShG IM;OPPOS",
    "hG IM;SQUdED,h&N$R$SH&KA! sMES A!D! PLUS KU3:SH2(BAD$LAG&R%I%jh2(SH2(GA!L$N2 TqU+R! PLUSmt3",
    " PLUS A|I!R2%SH PLUSmd,CROSShG GISH^U!R7(IGI%M%KAK%I!D&LI$U%ME! PLUS DU%GI%TE.I! PLUS NUNUZ",
    "=NE$UN&PI%RU%SA!R%t$E$ID%U%IG%UHUR)Td&U!2$D$MUM sMES PA<SH&ZI.2! CROSShG KA2>B$D2$3$4$5! OV",
    "j KAD5<K! sMES IGI GUNU]L! sMES BAD.CROSShG Ke>M2$4%SKe! LAGAB sMES U OVj LAGAB sMES U<~OVj",
    " KASKe LAGAB sMES U OVj LAGAB sMES U:~~ESH2(I! sMES BAD&U!D.D$N$Se%H$IM5! OVj KISIM5^U! OVj",
    " HI sMES ASH2 KU OVj HI sMES ASH2$~~3$4! VdIkTg>7$L! GUNU*N$R! OPPOShG KUR>SHU2)WU318*LA!GA",
    "B! sMES A! PLUS DA PLUS t:Gd&Le.L$N$SH ZIDA TqU=BAD%I%Dd&q%GA!R%UD! PLUS GUD<t!L%I sMES NUN",
    "<IGI GUNU+M! PLUS t%LU:KI!N%U3$L! PLUS HI PLUS A_LAGAB(ISH&U!L&ME! PLUS q.USH(NE%SHuPLUSmUM",
    ":ITA PLUS GISH PLUS jh2:TqU_U2! PLUSmHU2=UM&TAG$K4&uPLUS A PLUSmU PLUS NA)~U! PLUS A$U PLUS",
    " U>2 PLUS ASH:D$SH.SQUdED.R! sMESmHE! PLUSmUM_GUNU! OVj LAGd GUNUmHE,~HSHU(L! sMES Le;M! sM",
    "ES KUR! PLUS RU!~I!L$MMU2(SH&U! sMES BAD:2! sMES e%BAD&ESH2! TqU.Gk2 TqU.HI sMES BAD<IM%KAD",
    "2$3! PLUS ASH<I%LA PLUS ASH.GAB)MuPLUS q:NE$U%SI PLUS ASH.K2 PLUS BU<TUG2.qU(CROSShG LU2<OP",
    "POShG LU2<SQUdED*HESHIG.3$Ge! OVj LUGe.PPOShG LUGe>SHESHIG;H$L$M! OVj LUM! Gd OVj Gd)~MA! s",
    "MES TAK4:GUNU)2$H$R$SH!2(E!S%I!N%U! OVj MU,G! GUNU*NSUB(RGU2(SH! sMES A$KUR&ZA,OVj MUSH! sM",
    "ES A PLUS NA)~CROSShG MUSH>3! sMES A! PLUS DI.DI,GUNU:NA!2$GA! hVjTED,sMESmHU TqU>OPPOShG N",
    "AGA>R&M NUsLLU,!2&E! sMES A$UD,SHESHIG.I! sMES E,2$M! sMES Gk2 TqU+R PLUS Gk2 TqU*~NDA2! sM",
    "ES k$SH! PLUS ASH<GUD&MuPLUS Gk2 TqU^NE$UN&SHE! PLUS A k&SH! PLUS ASH$~U2 PLUS ASH:SH>SAG(U",
    "!11%N! LAGd sMES Gd&MASH(Se! OVj NUN LAGd sMESme,~USH?TqU(OVj NUN,CROSShG NUN! LAGd OVj LAG",
    "d:~UZ! AB2 sMES ASHGAB*BI%DUG&GUD&IGI GUNU,KAD3(LA%NE%SILA3)U2<KISIM5 sMES BI! U&~PA!D$N$P%",
    "ESH2(I! sMES A!B%BI$U%E$I!B%U!2,CROSShG PI<RIG! sMES Ke&UD%ZA,OPPOShG PIRIG!~z!B%I$U%SA!G N",
    "UsLLU,! sMES A$DU!B&t%KAK%UR&LUM&MI%NUN&Se%HID(TAB&U2$B$M$R$SH.OVjmAG,GUNU*L! LAGAB sMES AS",
    "H2_NGA2(R%t!3! sMES A$BAD&GISH(NE%SHU2(TUR&U! PLUS A]6$B6%R2&E! HU%OVjmHuGAD OVj GAD Gd OVj",
    " Gd)~TAB OVj TAB Gd OVj Gd?~G9%N$SH!2$LAM*ID! sMES A$IM:M! sMES A$Be%ULUG)Dh&Gd&IGI! GUNU,K",
    "USHU2*LUL&MUG&Se;NIG&R! TqU(OVjmHIR BUR OVj BUR(~TA&U! OVj hVjTEDmHU_2$BUR)I! GUNU)G!4! OVj",
    "mIG4mHU2^K2%LA3(U! OVjmU,D!2%HUR&M!ASH(R!9(TA! ASTjISK,sMES HI%MI,GUNU)B! OVj TAB NI OVj NI",
    " DISH OVj DISH>~SQUdED.G! sMES BI%GUD&SHE$U&TUG2(UD:K4%R%E! GUNU*I! TqU)L$R! sMES TAK4:OVj ",
    "sR! GAD OVj GAD Gd OVj Gd^~U!G2%K$M$R! OVj TUR ZA OVj ZA&~U! GUD&U U&OVj U PA OVj PA Gd OVj",
    " Gd&~SUR OVjmUR<U vVjSpOVj U vVjSED>~2$B$D! KUSHU2*sMES BAD&MI%U PLUS U PLUS U! GUNU*~GUNU(",
    "SHESHIG! sMES BAD_UG&M! sMES LAGAB)MuPLUS DA:St3(U,Bh&UM! sMES KASKe*PA<N! GUNU*R! CROSShG ",
    "UR;SHESHIG,2! sMES A PLUS t%NA,L%t%NUN&U2! PLUS ASH&BI_4$I!3%U! sMES A!SHGAB*Bd&DUN&GA!L$N2",
    " TqU+R%U%t%IGI%M$SH&KI%LUM&Mh&PA%SHE%IG4(TU%U PLUS GUD.D$RUDA<DA! sMES U<SH! sMES A$KU!R&TA",
    "K4;X$2$UMX)TUKI(Z3! sMES KASKe>U&ZA! TqU(SQUdpsMES KUR_G$MX&E2%I! OVj ZI,3$B! KABA TqU;G$Z2",
    "&U!5! sMES A.BUR&M&KAP ELAMITE;AB sMES NUN:2 sMES A:Md sMES KUG>DAG KISIM5 sMES U2 PLUS MAS",
    "H*~3&ISH PLUSmHU<UB sMESmHE=EZq sMES GUD&SHE>GA2 sMES k PLUS KAK PLUS A^SH2=E22&IG&HUSH(KA ",
    "sMES kSHE(SH3(GISH&UD&HI sMES ASH2=LUM&PA%SHUL(TU%UR2<LAGAB sMES GI=U2mHESHIG sMES BAD^sMES",
    " ESH2 PLUS Le=SHU=MESH&USH3 sMES ZA>NA4%h!9$DA2 sMES Be&GI>U11 ROTATpNhETY DEGvES+~PESH2 AS",
    "TjISK=IR2(SAG sMES IGI GUNU_s2&UM sMES ME: U"]),
   (74752,
   ["!CUNEIFORM NUMjICmw TWO ASH*HvuASH.FOUR ASH+IVuASH,SIX ASH*EVq ASH.Ef ASH.NhuASH,xvuDISH:FO",
    "UR DISH,IVuDISH.SIX DISH+EVq DISH:Ef DISH:NhuDISH.FOUR U)IVuU*SIX U(EVq U+Ef U+NhuU*luGESH2",
    ".TWO GESH2,HvuGESH2;FOUR GESH2.IVuGESH2:SIX GESH2,EVq GESH2;Ef GESH2;NhuGESH2:luGESHU.TWO G",
    "ESHU,HvuGESHU;FOUR GESHU.IVuGESHU:TWOmHd2,HvEmHd2! VdIkTg(~FOURmHd2.IVEmHd2:SIXmHd2,EVqmHd2",
    ";EfmHd2;NhEmHd2:lEmHdU.TWOmHdU,HvEmHdU! VdIkTg(~FOURmHdU.IVEmHdU:SHd2 sMES Ge PLUS DISH(Mh(",
    "~luBURU,TWO BURU+HvuBURU! VdIkTg&~FOUR BURU,IVuBURU.xvuVdIkTg ESH16%21(~FOUR VdIkTg LIMMU!4",
    "$ A$B)~SIX VdIkTg ASH9!~EVq VdIkTg IMh3$ A$B)~Ef VdIkTg USSU!3(~NhuVdIkTg ILIMMU!3$4$ A*~TW",
    "O ASH TqU;HvuASH TqU>FOUR ASH TqU<IVuASH TqU=SIX ASH TqU<luBk2,TWO Bk2+HvuBk2:FOUR Bk2! VdI",
    "kTg$~IVuBk2! VdIkTg%~NIGIDAMh&ESH.luESHE3.TWO ESHE3.luxIRD DISH>TWO xIRDS DISH?FIVEmIXxS DI",
    "SH]luxIRD VdIkTg A(~TWO xIRDS VdIkTg A)~luEfH ASH:QUdTj ASH>LD ASSYRIk lEmIXx)QUdTj&~NuQUdT",
    "j GUR;HeF GUR<ELAMITuluxIRD.TWO xIRDS:FORTY(IFTY=FOUR U VdIkTg_IVuU VdIkTg|SIX U VdIkTg^EVq",
    " U VdIkTg!~Ef U VdIkTg!~NhuU VdIkTg!<~PUNCTUAslmw OLD ASSYRIk WORD DIVIDj)~VjsCe COLl>DIAGl",
    "e COLl)TRICOLl,QUADCOLl!!!!!!!!!!!?~Sw AB sMES NUN TqU,SHU2<D sMES ESH2=BAD sMES DISH TqU^H",
    "d2 sMES AB2&NI%ZA>U OVj BU sMES NA2!~DA sMES TAK4;G sMES KUR<IM sMES IGI&U U U<2 sMES UD<UG",
    " sMES kSHE(SH! AyiFT;Dh%UN&jh2)GA$I!R2 GUNU+SH(t$I%IGI GUNU,KASKe)UR$SHU2! PLUS KASKe_LAK-0",
    "20)M! sMES KUR<UH PLUS GISH=MASH&ES%I%NI%PI%SHE%I GUNU^E2 sMES KUR&PAP;Rh2 X*SH2 CROSShG ES",
    "H2^ZqmHESHIG sMES ASH&HI%IGI GUNU,LA!L&ME!S&SU]sMESmU=GA2 sMES BAHd2*DIM GUNU+UG sMES IGI G",
    "UNU,KASKe]jq(GA!R PLUS DI%NE;t PLUS A.KUSHU2 PLUS KASKe_LAM! sMES KUR<UH&MUSH(NE! PLUS E2%G",
    "I:SHIM(ZIZ2<BA ROTATpNhETY DEGvES*~ESHTh sMES U>ISH sMES GISH CROSShG GISH,~U2 sMES IGI GUN",
    "U]D PLUS GISH sMES TAK4(~t TqU GUNU;I sMES ASH OVj HI sMES ASH:~KA sMES BU%KA%U U U(R;LAGAB",
    " sMES ZU OVj ZU!~K-003%21$5%30%50$1%62%79 OVj LAK-079 GUNU!~80$1 OVj LAK-081?92&130%42&210$",
    "9%20$5$8%38%65$6&343$7$8%83$4%90&441$9! sMES GU%IGI&PAP PLUS LU3&PAP PLUS LU3$~U2 PLUS BA|5",
    "0$7%70%83%90$2$3$5&550&608%17! sMES ASH&BAD&DUN3 GUNU GUNU>KU3&LA%Td%E%U2$D$RUDA>36%48! sME",
    "S DUB&GA%IGI! GUNU,NI%PAP PLUS PAP PLUS LU3$~SHESH PLUS KI=UD$RUDA?724%49*U2 GUNU sMES ASH>",
    "sMES DISH(He&PAP! PLUS PAP PLUS LU3$~TAK4>MI PLUS ZA7:USH OVj MUSH sMES GA%KAK(~NhDA2 sMES ",
    "DIM GUNU,GISH&UL&HI%KESH2)LAK-050+MASH(PAP PLUS PAP<U! PLUS U+RUDA_SAG GUNU sMES t=sMES q%S",
    "HuAyiFT;TAK4=t6 TqU+uOVjmHE,PLUS HUB2(NAM2(Sd:U2 PLUS DUG sMES NI<E2 sMES k!~I sMES TAK4=TA",
    "K4 PLUSmAG<UM sMES Gk2 TqU.xvuDISH!~UR2 hVjTED,sMES UD:U sMES DdA3)LAK-668*U3=ZA7%U OVj ZU ",
    "PLUSmd^5 sMES xvuDISH TqU"]),
   (77712,
   ["!CYPRO-MhOkmw CM001$2$4$5$6$7$8$9%10$1$2!B%3$5$7$9%21$3$4$5$6$7$8$9%30$3$4$5$6$7$8$9%40$1$4",
    "$6$7$9%50$1$2$3$4$5$6$8$9%60$1$2$3$4$6$7$8$9%70$1$2$3$4$5!B%6$8$9%80$1$2$3$4$5$6$7$8$9%90$1",
    "$2$4$5$6$7$8$9&100$1$2$3$4$5$7$8$9%10$2$4&301$2!!!!!!!!!!!!!&~EGYPsk HIjOGLYPH A001$2$3$4$5",
    "!A%6!A$B%7$8$9%10$1$2$3$4!A%5$6$7!A%8$9%20$1$2$3$4$5$6$7$8$9%30$1$2!A%3$4$5$6$7$8$9%40!A%1$",
    "2!A%3!A%4$5!A%6$7$8$9%50$1$2$3$4$5$6$7$8$9%60$1$2$3$4$5$6$7$8$9%70(B001$2$3$4$5!A%6$7$8$9(C",
    "001$2!A$B$C%3$4$5$6$7$8$9%10!A%1$2$3$4$5$6$7$8$9%20$1$2$3$4(D001$2$3$4$5$6$7$8!A%9%10$1$2$3",
    "$4$5$6$7$8$9%20$1$2$3$4$5$6$7!A%8$9%30$1!A%2$3$4!A%5$6$7$8$9%40$1$2$3$4$5$6!A%7$8!A%9%50!A$",
    "B$C$D$E$F$G$H$I%1$2!A%3$4!A%5$6$7$8$9%60$1$2$3$4$5$6$7!A$B$C$D$E$F$G$H)E001$2$3$4$5$6$7$8!A",
    "%9!A&10$1$2$3$4$5$6!A%7!A%8$9%20!A%1$2$3$4$5$6$7$8!A%9%30$1$2$3$4!A%6$7$8(F001!A%2$3$4$5$6$",
    "7$8$9%10$1$2$3!A%4$5$6$7$8$9%20$1!A%2$3$4$5$6$7$8$9%30$1!A%2$3$4$5$6$7!A%8!A%9%40$1$2$3$4$5",
    "!A%6!A%7!A%8$9%50$1!A$B$C%2$3(G001$2$3$4$5$6!A%7!A$B%8$9%10$1!A%2$3$4$5$6$7$8$9%20!A%1$2$3$",
    "4$5$6!A%7$8$9%30$1$2$3$4$5$6!A%7!A%8$9%40$1$2$3!A%4$5!A%6$7$8$9%50$1$2$3$4(H001$2$3$4$5$6!A",
    "%7$8(I001$2$3$4$5!A%6$7$8$9!A&10!A%1!A%2$3$4$5(K001$2$3$4$5$6$7$8(L001$2!A%3$4$5$6!A%7$8(M0",
    "01!A$B%2$3!A%4$5$6$7$8$9%10!A%1$2!A$B$C$D$E$F$G$H%3$4$5!A%6!A%7!A%8$9%20$1$2!A%3$4!A%5$6$7$",
    "8!A%9%30$1!A%2$3!A$B%4$5$6$7$8$9%40!A%1$2$3$4(N001$2$3$4$5$6$7$8$9%10$1$2$3$4$5$6$7$8!A$B%9",
    "%20$1$2$3$4$5!A%6$7$8$9%30$1$2$3!A%4!A%5!A%6$7!A%8$9%40$1$2&L001$2$3$4$5!A%6$7$8$9%10$1$2$3",
    "$4$5$6$7!A%8$9%20(U001$2$3$4$5$6$7$8$9%10!A%1!A%2$3$4$5$6$7$8!A%9%20$1$2!A*O001!A%2$3$4$5!A",
    "%6!A$B$C$D$E$F%7$8$9%10!A$B$C%1$2$3$4$5$6$7$8$9!A&20!A%1$2$3$4!A%5!A%6$7$8$9!A&30!A%1$2$3!A",
    "%4$5$6!A$B$C$D%7$8$9%40$1$2$3$4$5$6$7$8$9%50!A$B%1(P001!A%2$3!A%4$5$6$7$8$9%10$1(Q001$2$3$4",
    "$5$6$7(R001$2!A%3!A$B%4$5$6$7$8$9%10!A%1$2$3$4$5$6!A%7$8$9%20$1$2$3$4$5$6$7$8$9(S001$2!A%3$",
    "4$5$6!A%7$8$9%10$1$2$3$4!A$B%5$6$7!A%8$9%20$1$2$3$4$5$6!A$B%7$8$9%30$1$2$3$4$5!A%6$7$8$9%40",
    "$1$2$3$4$5$6(T001$2$3!A%4$5$6$7!A%8!A%9!A&10$1!A%2$3$4$5$6!A%7$8$9%20$1$2$3$4$5$6$7$8$9%30$",
    "1$2!A%3!A%4$5$6(U001$2$3$4$5$6!A$B%7$8$9%10$1$2$3$4$5$6$7$8$9%20$1$2$3!A%4$5$6$7$8$9!A&30$1",
    "$2!A%3$4$5$6$7$8$9%40$1$2(V001!A$B$C$D$E$F$G$H$I%2!A%3$4$5$6$7!A$B%8$9%10$1!A$B$C%2!A$B%3$4",
    "$5$6$7$8$9%20!A$B$C$D$E$F$G$H$I$J$K$L%1$2$3!A%4$5$6$7$8!A%9!A&30!A%1!A%2$3!A%4$5$6$7!A%8$9%",
    "40!A)W001$2$3!A%4$5$6$7$8$9!A&10!A%1$2$3$4!A%5$6$7!A%8!A%9%20$1$2$3$4!A%5(X001$2$3$4!A$B%5$",
    "6!A%7$8!A)Y001!A%2$3$4$5$6$7$8(Z001$2!A$B$C$D%3!A$B%4!A%5!A%6$7$8$9%10$1$2$3$4$5!A$B$C$D$E$",
    "F$G$H$I%6!A$B$C$D$E$F$G$H)AA001$2$3$4$5$6$7!A$B%8$9%10$1$2$3$4$5$6$7$8$9%20$1$2$3$4$5$6$7$8",
    "$9%30$1$2!)VjsCe JOhj?HORIZlTe JOhj^hSjyAyTOPmTdT.BOTTOMmTdT<TOP qD+BOTTOM qD!~OVjLAY MIDDi",
    ">BEGhmEGMqT=qDmEGMqT"]),
   (82944,
   ["!kATOLIk HIjOGLYPH A001$2$3$4$5$6$7$8$9%10!A%1$2$3$4$5$6$7$8$9%20$1$2$3$4$5$6!A%7$8$9%30$1$",
    "2$3$4$5$6$7$8$9!A&40$1!A%2$3$4$5!A%6!A$B%7$8$9%50$1$2$3$4$5$6$7$8$9%60$1$2$3$4$5$6!A$B$C%7$",
    "8$9%70$1$2$3$4$5$6$7$8$9%80$1$2$3$4$5$6$7$8$9%90$1$2$3$4$5$6$7!A%8!A%9&100!A%1!A%2!A%3$4!A$",
    "B$C%5!A$B%6$7!A$B$C%8$9%10!A$B%1$2$3$4$5!A%6$7$8$9%20$1$2$3$4$5!A%6$7$8$9%30$1$2$3$4$5!A%6$",
    "7$8$9%40$1$2$3$4$5$6$7$8$9%50$1$2$3$4$5$6$7$8$9%60$1$2$3$4$5$6$7$8$9%70$1$2$3$4$5$6$7$8$9%8",
    "0$1$2$3$4$5$6$7$8$9%90$1$2$3$4$5$6$7$8$9&200$1$2!A$B%3$4$5$6$7!A%8$9!A&10$1$2$3$4$5!A%6!A%7",
    "$8$9%20$1$2$3$4$5$6$7!A%8$9%30$1$2$3$4$5$6$7$8$9%40$1$2$3$4$5$6$7$8$9%50$1$2$3$4$5$6$7$8$9%",
    "60$1$2$3$4$5$6$7!A%8$9%70$1$2$3$4$5$6$7$8$9%80$1$2$3$4$5$6$7$8$9!A&90$1$2$3$4!A%5$6$7$8$9!A",
    "(300$1$2$3$4$5$6$7$8$9!A&10$1$2$3$4$5$6$7$8$9%20$1$2$3$4$5$6$7$8$9!A&30$1$2A$B$C%3$4$5$6!A$",
    "B$C%7$8$9%40$1$2$3$4$5$6$7$8$9%50$1$2$3$4$5$6$7$8$9!A&60$1$2$3$4!A%5$6$7$8!A%9%70$1!A%2$3$4",
    "$5$6$7$8$9%80$1!A%2$3 z OR RI.A%4$5$6!A%7$8$9%90$1$2$3 Ef+4$5$6$7$8$9&400$1$2$3$4$5$6$7$8$9",
    "%10 BEGh LOGOGzM MdK!~A qD LOGOGzM MdK!~1$2$3$4$5$6$7$8$9%20$1$2$3$4$5$6$7$8$9%30$1$2$3$4$5",
    "$6$7$8$9%40$1$2$3$4$5$6$7$8$9%50!A%1$2$3$4$5$6$7!A%8$9%60$1$2$3$4$5$6$7$8$9%70$1$2$3$4$5$6$",
    "7$8$9%80$1$2$3$4$5$6$7$8$9%90$1$2$3$4$5$6$7&501$2$3$4$5$6$7$8$9%10$1$2$3$4$5$6$7$8$9%20$1$2",
    "$3$4$5$6$7$8$9%30"]),
   (92160,
   ["!BAMUM iTTj PtSE-A NGKUuMFl:GBIEuFl.Pl MFl PIPAEMGBIEE)BA^NAA MFl,SHUqSHUET:sTA MFl.NZA MFl",
    ",SHhDA PA NJI=Pl PA NJI PIPAEMGBIEE)BA|MAEMBGBIEE:TU MAEMBA.NGkGU*MAEMVEUX*NSUAE*VEUAqGAM:S",
    "EUNYAM+NTOQPq+KEUKEUTNDA:NKhDI*SUU&NGKUqZEUM:LAPAQ(EyKUT+NTAP MFAA.MAEKEUP+PAStE*GHEUAjAE.P",
    "AMStE+Ml NGGEUAET<NZUN MEUT.U YUQ NAE.GHEUAEGHEUAE<NTAP NTAA.SISA(MGBASA)EUNJOMNDEUQ;OOMPUQ",
    "+KAFA(PA ijAEWA;NDA ijAEWA<PET&MAEMKPq,NIKA(PUP&TUAEP)LUAEP)SlJAM*TEUTEUWq.MAqYI*KET&NDAkGG",
    "EUAET<KUOQ(MOOMEUT+SHUM(LOMMAE*FIRI(ROM&KPOQ(SOQ&MAP PIEET.SHIzE*NTAP(SHOQ NSHUyYUM>NYIyMlG",
    "KEUAEQ?PAdAE*NKAdAE+UNKNrN+NGGq)MAESI)NJAM(MBkYI*NYET(TEUAq*SOT&PAAM(NSHIEE*MAEM(NYI&KAQ&NS",
    "t(VEE&LU%Nq%AQ&MBAQ*B NSHUET*TU MAEMGBIEE<SIEE&EyTU*LOM NTEUM.MBA MAEiE:KIEEM)YEUzE*MBAdAE+",
    "KAM&PEESHI*YAFU ijAEWA=LAM NSHUyNYAM>NsEEmHEUOQ;DU NJAA,GHEUGHEUAEM;PIT&TU NSIEE,SHEyNJAQ*U",
    "AEQTU.MFl TEUAEQ:BIyMBAAKET<NYI NTEUM.KEUPUQ*GHEUGHq,KEUYEUX+LAkAE*PdUM)VEUM(NGKhDI MVOP:GE",
    "U MBU.WUAET)SAKEUAE+TAAM(MEUQ(NGGUOQ! LdGE<MFIYAQ*SUE&MBEURI)lsEq,NYAEMAE+PUNGAAM+MEUyNGGEE",
    "T;FEUX(MBUOQ)FEE&KEUAEM*MA NJEUAqA*UQA,iT&NGGAAM)Sq(MA%KIQ&NGOM*C NGKUuMAEMBA;ZA&YUM&WkGKUO",
    "Q,NGGq(DEUAjEE,GKAQ)GHdAE*MBEEKEET,GBAYI)NYIR MKPdAQ MEUN]TU MBIT,MBEUM)PIRIEq+NDOMBU*MBAA ",
    "CABBAGE-TvE^KEUSHEUAEP:GtP(KEUKAQ*YU MUOMAE.NZEUM)MBUE(NSEUAq+MBIT(YEUQ(KPdAQ)AA&SEUX(NDIDA",
    ")TAAStE+NJUEQ)sTA YUE,SUAET)NGGUAq NYAM<VEUX(NkSkAQ,MA KEUAjI:NTAA&GGUl*LAP&MBIRIEq+GBASAQ+",
    "NTEUNGBA,TEUTEUX+NGGUM)FUE&NDEUT(SA$tQ)BUNG(VEUAEPq,MBjAE*RU%NJAEM)LAM&sTUAEP+NSUOyNGOM.JEE",
    "EE*KET&NGGU(MAESI(BUAEM*LU%KUT&NJAM&GOM(WUP&NGGUEET*SOM&Tq(KUOP NKAdAE<NSUN&DAM(MA NSIEE,YA",
    "A&NDAP(SHUEQ(ETFl*MBI%AEMBA)BkYI*KEUSEUX+MBEUX)KEUM(MBAA PICKET;YUWOQ)NJEUX)MIEE&UAE(SHIQ(K",
    "q LAW&FAsGUE;NGAQ&AQ&LIQ&Ph%q&TET)D MBUO(WAP&NJI&MFl(NJIEE)LIEE(NJEUT(SHEE(GGAAMAE+YAM(WUAq",
    ")NGKUN)SHEE(NGKAP)KEUAETMEUN:TEUT(SHEUAE*NJAP(SUE&KET&YAEMMAE+KUOM(SAP&MFEUT)NDEUX)MeEjI*EU",
    "T(SEUAEQ*Yq&NJEUAEM+KEUOyMBUAE;NGKEURI+TU%GtA(NGKYEE*FEUFEUAET.NDEE(MGBOFUM+iUAEP*NDl(MlI&G",
    "BEUN*PUUT(MGBIEE)FO&LUM&NSIEEP*MBAA(KWAET)NYET(TEUAq*SOT&YUWOQ)KEUM(zEM(TEEEE)NGKEUAEQ,MFEU",
    "AE*NSIEET*KEUP(PIP%EUTAE*NYUE(iT&NGGAAM*MFIEE)NGGWAq+YUOM(PAP&YUOP(NDAM&TEUM)SUAE(KUN&NGGEU",
    "X(KIEE*TUOT(MEUN(KUQ&NSUM(TEUN(MAqJET+NGGAP)iUM(NGGUOM)SHUT(JUEQ)GHEUAE*KU%Rq OLD+TAE%OQ&NY",
    "I&RII&iEEE)MEEEE($SUU&MU%SHII%EUX)KYEE(NU%SHU&NTEE(PEE&NI%SHOQ(PUQ&MVOP(LOQ&Rq MUCH,s%NTUU(",
    "MBAAmEVq:SAQ&FAA)uNDAP(TOl(MBEUM)LAP&VOM&LOl(PAA&SOM&zQ&NSHUOP)DUN(PUAE(TAM&NGKA(KPEUX)WUO&",
    "SEE&NGGEUAET,PAAM(TOO&KUOP(LOM&NSHIEE)GOP(MAEM(NGKEUX(OQ&SHUE)RIMGBA*NJEUX)PEEM(SAA&NGGUzE+",
    "MGBA(GHEUX)NGKEUAEM+JAEMLI+MAP&LOOT(NGGEEEE*DIQ(TAq NTEUM:SET&PUM&NDAAmOFTNESS<GGUAEStuNYAM",
    "?YIEE(GHEUN)TUAE(YEUAE)PO%TUMAE)KEUAE)SUAq)TEUAEQ*VEUAE)WEUX(LAAM(PU%TAAQ(GtAMAE+NGEUvUT,SH",
    "EUAEQ+MGBq(BEE(NZAQ&KOM(GBET(TUM&KUET(YAP&NYI CiAVj;YIT&MFEUQ)NDIAQ)PIEEQ)YUEQ(iUAEM*FUE&GB",
    "EUX)NGKUP)KET&MAE&NGKAAMI+GHET(FA%NTUM(PEUT(YEUM(NGGEUAE*YI BETWEq:ZUQ(POl(MIEE(FUET(NAE&MU",
    "AE(GHEUAE*FU I(MVI&PUAQ(NGKUM)KUT&PIET(NTAP(YEUAET*NGGUP)PA PEOPi.FU CeL*OM&NJEE(A$TOQ&O$I$",
    "LAQ&PA PLURe.TAA$Q&NDAA MY HOUSE=SHIQ(YEUX(NGUAE)YUAq(OQmWIMMhG,COVj,UQ$N&KEUX(PEUX(NJEuEPO",
    "CH:PUE&WUE&FEE&VEE&LU%MI%vUX&AE&NGUAET(A&SHO!Q(FU vMEDY.NA%PI%LOQ&KO%Mq%A!Q&TEU&KI%Ml&Tq&FA",
    "Q&GHOM*F KA%U$KU%EE%vE&TAE&NYI&LA%RII$EE(MEEEE)TAA&NDAA&JAEM)M$SUU%HII&I$EUX(KYEE&ET&NUAE%$",
    "JUAE)YOQ&SHU&YA%NSt(PEUX(NTEE(WUE&PEE&RU%NI%vUX(Kq&NGKWAq)GA(SHO&PUAE(FOM&WA%LI$OQ&KO%MBq(R",
    "q&MA$O$BAA(TET&KPA&SAMBA)VUEQ!!!!!!!)~MRO iTTj TA%NGI&YO%MIM&BA%DA%A$PHI&KtI(tO&DAI&CHU&KEA",
    "AE)OL%MAEM(Nh&PA%OO$$RO%SHI&xEA(EA%WA%E$KO%Lk$%tI&RI%TEK!:DIGIyZjO(lE&TWO%HvE)FOUR&IVE(SIX%",
    "EVq)Ef)NhE!!!!.kDA(OUBi DkDA]TkGSA iTTj OZ$C$Q$X%AZ$C$Q$X%VZ$C$Q$X%EZ$C$Q$X%IZ$C$Q$X%UZ$C$Q",
    "$X%AWZ$C$Q$X&UIZ$C$Q$X&Fhe NG,LlG UEX,SHORyUEZ&AWX.UEC$Z$Q$X%IUZ$C$Q$X(MZ$C$Q$X%KA$t&GA%NGA",
    "&SA%YA%WA%PA%NYA&Pt&BA%MA%NA%t%LA%HTA&TA%DA%z%Nt&St&CA%TSA&Gt&HTTA(Tt&XA%FA%Dt&Ct&ZA!.DIGIy",
    "ZjO(lE&TWO%HvE)FOUR&IVE(SIX%EVq)Ef)NhE!!!!!!^BASSA VAH iTTj qNI(KA%SE%FA%MBE&YIE&GAH&DHII(K",
    "PAH(JO%HWAH(WA%ZO%GBU&DO%CE%UWU&TO%BA%VU%YEh(PA%WADDA)A$O!O%U$EE$$I!!,COMBhhG HIGH TlE.Lr T",
    "lE,MID TlE,Lr-MID TlE<HIGH-Lr TlE&~FULLmTOP!!!!!!!!!!|PAtWH HMlG VrEL KEEB$V&IB$V%AUB$V&UB$",
    "V%EB$V%AIB$V&OOB$V&AWB$V&UAB$V&OB$V%IAB$V&AB$V%WB$V%AAB$V:ClSlkyVAU&NTSAU)LAU&tU&NLAU(zU&NK",
    "AU(QtU(YAU&HLAU(MAU&CtU(NCtU)HNAU(PLtU)NTtU(AU&AU%XAU&CAU=MdK CIM TUB&SO%KES%tV(SUAM(HOM&TA",
    "UM=Sw VOS xOM&StB CEEB>CIM CHEEM.VOS xIAB)FEEM,XYEEM NTXIV)RHO&TOV&FAIB:VOSmEEV,MEEJmUAB.VO",
    "S NRUA,IB YAM*XAUS(CIM TSOV ROG!!!!!!!!!!^DIGIyZjO(lE&TWO%HvE)FOUR&IVE(SIX%EVq)Ef)NhE!:NUMB",
    "j TqS(HUNDvDS,Tq xOUSkDS=MILLIlS,HUNDRpMILLIlS]Tq BILLIlS;RILLIlS!]Sw VOS LUB+XYOO(HLI&xIRD",
    "-STAGuHLI?ZWJ TtJ,HNUB(NQIG(XIAB(NTUJ(AV%TXHEEJ CEEV;MEEJ TSEEB:TAU&LOS&MUS&CIM tIS LUS NTO",
    "G NTOG_CUAM TSHOOJ;TXWV! CHWV.PUB DAWB,NvS TOS!!!!!^CLkmw TSHEEJ*YEEG(LIS%AUJ(XYOOJ)KOO&tWJ",
    "(MUAS(xOJ&SAB(PtB(KtB(tM&VAJ&FAJ&YAJ&TSWB(KWM&VWJ"]),
   (93760,
   ["!MEDEFAIDRh caM$S$V$W$AsU(Z$KP%P$T$G$F$I$K$A$J$E$B$C$U$YU%L$Q$HP%NY%X$D$OE%N$R$O$AI%Y]SMeaM",
    "$S$V$W$AsU(Z$KP%P$T$G$F$I$K$A$J$E$B$C$U$YU%L$Q$HP%NY%X$D$OE%N$R$O$AI%Y>DIGIyZjO(lE&TWO%HvE)",
    "FOUR&IVE(SIX%EVq)Ef)NhE:NUMBj Tq&EiVq*TWELVE)HIRTEq,FOURTEq+IFTEq+SIXTEq*EVqTEq.EfEq,NhETEq",
    "?DIGIylueTjNATEg_TWO eTjNATEg^HvueTjNATEg*~COMMA)FULLmTOP.SYMBOL AIVA;EXCLAMAsl OH"]),
   (93952,
   ["!MIAO iTTj PA%BA%YI PA)PLA&MA$t&dCtIC MA:FA%VA$FA&TA%DA%YI TTA%A)TTA&DDA&NA$t&YI NNA*dCtIC ",
    "NA:NNA$t(LA$YA%t$YA(TLt(DLt(TLHYA)DLHYA)KA%GA%YI KA)QA$GA&NGA$t(dCtIC NGA;t%XA%Gt$t(TSSA(DZ",
    "ZA(NYA$t(TSt(DZt(YI TSt(DZt+vFORMpTSt=St%SA&Zt%St(TSA&DZA&YI TSA*SA%ZA$SA%ZA$SA(dCtIC ZZA;Z",
    "ZYA%SYA)WA%AH%Ht&BRI&SYI&DZYI(TE$SE&RTE!!!!:Sw ClSlkyMODIFIj Bd+~iTTj NASeIZAsl|Sw ASPIzsl:",
    "vFORMpVOIChG+ASPIzsl(~VrELmw A!A$HH%N!G&O!O%WO$$E!N!G&OEY&I!A!N!G&O$E$I$U$NG&U!A!N!G&U$EI%N",
    "G&Y!I%AE!E&jR&ROUNDpjR;j%ROUNDpj:AI%EI%AU%OU%N!G%UOG&YUI&OG$j&VW%IG%EA%IlG(UI!!!!!!!=TluRf)",
    "TOP Rf.ABOVE)BELr:iTTj TlE-2$3$4$5$6$7$8*vFORMpTlE-1$2$4$5$6$8"]),
   (94176,
   ["!TkGUyITjAsl MdK$~NUSHU ITjAsl MdK!~OLD CHhESuHOOK MdK.ITjAsl MdK*~KHITkmMeLmCRIPyFILiR!!!!",
    "!!!!!!!*~VIETNAMESueTjNATuvADhG MdK CA%NtY"]),
   (100352,
   ["!TkGUyCOMPlqT-001$2$3$4$5$6$7$8$9%10$1$2$3$4$5$6$7$8$9%20$1$2$3$4$5$6$7$8$9%30$1$2$3$4$5$6$",
    "7$8$9%40$1$2$3$4$5$6$7$8$9%50$1$2$3$4$5$6$7$8$9%60$1$2$3$4$5$6$7$8$9%70$1$2$3$4$5$6$7$8$9%8",
    "0$1$2$3$4$5$6$7$8$9%90$1$2$3$4$5$6$7$8$9&100$1$2$3$4$5$6$7$8$9%10$1$2$3$4$5$6$7$8$9%20$1$2$",
    "3$4$5$6$7$8$9%30$1$2$3$4$5$6$7$8$9%40$1$2$3$4$5$6$7$8$9%50$1$2$3$4$5$6$7$8$9%60$1$2$3$4$5$6",
    "$7$8$9%70$1$2$3$4$5$6$7$8$9%80$1$2$3$4$5$6$7$8$9%90$1$2$3$4$5$6$7$8$9&200$1$2$3$4$5$6$7$8$9",
    "%10$1$2$3$4$5$6$7$8$9%20$1$2$3$4$5$6$7$8$9%30$1$2$3$4$5$6$7$8$9%40$1$2$3$4$5$6$7$8$9%50$1$2",
    "$3$4$5$6$7$8$9%60$1$2$3$4$5$6$7$8$9%70$1$2$3$4$5$6$7$8$9%80$1$2$3$4$5$6$7$8$9%90$1$2$3$4$5$",
    "6$7$8$9&300$1$2$3$4$5$6$7$8$9%10$1$2$3$4$5$6$7$8$9%20$1$2$3$4$5$6$7$8$9%30$1$2$3$4$5$6$7$8$",
    "9%40$1$2$3$4$5$6$7$8$9%50$1$2$3$4$5$6$7$8$9%60$1$2$3$4$5$6$7$8$9%70$1$2$3$4$5$6$7$8$9%80$1$",
    "2$3$4$5$6$7$8$9%90$1$2$3$4$5$6$7$8$9&400$1$2$3$4$5$6$7$8$9%10$1$2$3$4$5$6$7$8$9%20$1$2$3$4$",
    "5$6$7$8$9%30$1$2$3$4$5$6$7$8$9%40$1$2$3$4$5$6$7$8$9%50$1$2$3$4$5$6$7$8$9%60$1$2$3$4$5$6$7$8",
    "$9%70$1$2$3$4$5$6$7$8$9%80$1$2$3$4$5$6$7$8$9%90$1$2$3$4$5$6$7$8$9&500$1$2$3$4$5$6$7$8$9%10$",
    "1$2$3$4$5$6$7$8$9%20$1$2$3$4$5$6$7$8$9%30$1$2$3$4$5$6$7$8$9%40$1$2$3$4$5$6$7$8$9%50$1$2$3$4",
    "$5$6$7$8$9%60$1$2$3$4$5$6$7$8$9%70$1$2$3$4$5$6$7$8$9%80$1$2$3$4$5$6$7$8$9%90$1$2$3$4$5$6$7$",
    "8$9&600$1$2$3$4$5$6$7$8$9%10$1$2$3$4$5$6$7$8$9%20$1$2$3$4$5$6$7$8$9%30$1$2$3$4$5$6$7$8$9%40",
    "$1$2$3$4$5$6$7$8$9%50$1$2$3$4$5$6$7$8$9%60$1$2$3$4$5$6$7$8$9%70$1$2$3$4$5$6$7$8$9%80$1$2$3$",
    "4$5$6$7$8$9%90$1$2$3$4$5$6$7$8$9&700$1$2$3$4$5$6$7$8$9%10$1$2$3$4$5$6$7$8$9%20$1$2$3$4$5$6$",
    "7$8$9%30$1$2$3$4$5$6$7$8$9%40$1$2$3$4$5$6$7$8$9%50$1$2$3$4$5$6$7$8$9%60$1$2$3$4$5$6$7$8!~KH",
    "ITkmMeLmCRIPyCHdACTj-18B00$1$2$3$4$5$6$7$8$9$A$B$C$D$E$F%10$1$2$3$4$5$6$7$8$9$A$B$C$D$E$F%2",
    "0$1$2$3$4$5$6$7$8$9$A$B$C$D$E$F%30$1$2$3$4$5$6$7$8$9$A$B$C$D$E$F%40$1$2$3$4$5$6$7$8$9$A$B$C",
    "$D$E$F%50$1$2$3$4$5$6$7$8$9$A$B$C$D$E$F%60$1$2$3$4$5$6$7$8$9$A$B$C$D$E$F%70$1$2$3$4$5$6$7$8",
    "$9$A$B$C$D$E$F%80$1$2$3$4$5$6$7$8$9$A$B$C$D$E$F%90$1$2$3$4$5$6$7$8$9$A$B$C$D$E$F%A0$1$2$3$4",
    "$5$6$7$8$9$A$B$C$D$E$F%B0$1$2$3$4$5$6$7$8$9$A$B$C$D$E$F%C0$1$2$3$4$5$6$7$8$9$A$B$C$D$E$F%D0",
    "$1$2$3$4$5$6$7$8$9$A$B$C$D$E$F%E0$1$2$3$4$5$6$7$8$9$A$B$C$D$E$F%F0$1$2$3$4$5$6$7$8$9$A$B$C$",
    "D$E$F&C00$1$2$3$4$5$6$7$8$9$A$B$C$D$E$F%10$1$2$3$4$5$6$7$8$9$A$B$C$D$E$F%20$1$2$3$4$5$6$7$8",
    "$9$A$B$C$D$E$F%30$1$2$3$4$5$6$7$8$9$A$B$C$D$E$F%40$1$2$3$4$5$6$7$8$9$A$B$C$D$E$F%50$1$2$3$4",
    "$5$6$7$8$9$A$B$C$D$E$F%60$1$2$3$4$5$6$7$8$9$A$B$C$D$E$F%70$1$2$3$4$5$6$7$8$9$A$B$C$D$E$F%80",
    "$1$2$3$4$5$6$7$8$9$A$B$C$D$E$F%90$1$2$3$4$5$6$7$8$9$A$B$C$D$E$F%A0$1$2$3$4$5$6$7$8$9$A$B$C$",
    "D$E$F%B0$1$2$3$4$5$6$7$8$9$A$B$C$D$E$F%C0$1$2$3$4$5$6$7$8$9$A$B$C$D$E$F%D0$1$2$3$4$5"]),
   (110576,
   ["!KATAKkA iTTj MhNk TlE-2$3$4$5!$7$8*NASeIZpTlE-1$2$3$4$5!$7$8!&~dCtIC E)~HIzGkA iTTj dCtIC ",
    "YE)~qTAIGkA iTTj A-1$2$3$WO(I-1$2$3$4&U-1$2$3$4$5&E-2$3$4$5$6&O-1$2$3&KA-1$2$3$4$5$6$7$8$9$",
    "10$1%KE(I-1$2$3$4$5$6$7$8&U-1$2$3$4$5$6$7&E-1$2$3$4$5$6&O-1$2$3$KI)SA-1$2$3$4$5$6$7$8&I-1$2",
    "$3$4$5$6&U-1$2$3$4$5$6$7$8&E-1$2$3$4$5&O-1$2$3$4$5$6$7(TA-1$2$3$4&I-1$2$3$4$5$6$7&U-1$2$3$4",
    "$TO(E-1$2$3$4$5$6$7$8$9&O-1$2$3$4$5$6$z)NA-1$2$3$4$5$6$7$8$9&I-1$2$3$4$5$6$7$TE(U-1$2$3&E-1",
    "$2$3$4$5$6$KO(O-1$2$3$4$5(t-1$2$3$4$5$6$7$8$9$10$1(I-1$2$3$4$5$6$7&U-1$2$3&E-1$2$3$4$5$6$7&",
    "O-1$2$3$4$5$6$7$8(MA-1$2$3$4$5$6$7&I-1$2$3$4$5$6$7&U-1$2$3$4&E-1$2$MA(O-1$2$3$4$5$6(YA-1$2$",
    "3$4$5$YO(U-1$2$3$4&O-1$2$3$4$5$6(z-1$2$3$4&I-1$2$3$4$5$6$7&U-1$2$3$4$5$6&E-1$2$3$4&O-1$2$3$",
    "4$5$6(WA-1$2$3$4$5&I-1$2$3$4$5&E-1$2$3$4&O-1$2$3$4$5$6$7(N-MU-MO-1$2*~IzGkA iTTj dCtIC WU*~",
    "KATAKkA iTTj dCtIC YI$E%WU"]),
   (110928,
   ["!HIzGkA iTTjmMeL WI$E$O!!!!!!!!!!!!!!!!!(~KATAKkA iTTjmMeL WI$E$O%N!!!!!!!!&~NUSHU CHdACTj-",
    "1B170$1$2$3$4$5$6$7$8$9$A$B$C$D$E$F%80$1$2$3$4$5$6$7$8$9$A$B$C$D$E$F%90$1$2$3$4$5$6$7$8$9$A",
    "$B$C$D$E$F%A0$1$2$3$4$5$6$7$8$9$A$B$C$D$E$F%B0$1$2$3$4$5$6$7$8$9$A$B$C$D$E$F%C0$1$2$3$4$5$6",
    "$7$8$9$A$B$C$D$E$F%D0$1$2$3$4$5$6$7$8$9$A$B$C$D$E$F%E0$1$2$3$4$5$6$7$8$9$A$B$C$D$E$F%F0$1$2",
    "$3$4$5$6$7$8$9$A$B$C$D$E$F&200$1$2$3$4$5$6$7$8$9$A$B$C$D$E$F%10$1$2$3$4$5$6$7$8$9$A$B$C$D$E",
    "$F%20$1$2$3$4$5$6$7$8$9$A$B$C$D$E$F%30$1$2$3$4$5$6$7$8$9$A$B$C$D$E$F%40$1$2$3$4$5$6$7$8$9$A",
    "$B$C$D$E$F%50$1$2$3$4$5$6$7$8$9$A$B$C$D$E$F%60$1$2$3$4$5$6$7$8$9$A$B$C$D$E$F%70$1$2$3$4$5$6",
    "$7$8$9$A$B$C$D$E$F%80$1$2$3$4$5$6$7$8$9$A$B$C$D$E$F%90$1$2$3$4$5$6$7$8$9$A$B$C$D$E$F%A0$1$2",
    "$3$4$5$6$7$8$9$A$B$C$D$E$F%B0$1$2$3$4$5$6$7$8$9$A$B$C$D$E$F%C0$1$2$3$4$5$6$7$8$9$A$B$C$D$E$",
    "F%D0$1$2$3$4$5$6$7$8$9$A$B$C$D$E$F%E0$1$2$3$4$5$6$7$8$9$A$B$C$D$E$F%F0$1$2$3$4$5$6$7$8$9$A$",
    "B"]),
   (113664,
   ["!DUPLOYk iTTj H$X$P$T$F$K$L$B$D$V$G$R$P N&Dm&F N&K M&Rm&x%SLOk DH,DH%KK%SLOk J+HL%LH%RH%M$N",
    "$J$S$M N&N M&J M&S J&MbDOT:NbDOT:JbDOT!S hSIDukDn,~SbDOT! BELr]Mm&Nm&Jm&Sm&M Nm)N Mm)J Mm)S",
    " Jm)JmbDOT:N!m)S T! R&P! R)Tm$Rm)W!H$ R&S N$M&K Rm)G Rm)S K! R)A$SLOk r,OA$$AOU&I$E$IE%SHOR",
    "yI+UI%EE%SLOk EH,ROMkIk I:SLOk EE,LlG I*YE%U$EU%XW%U N&LlG U*ROMkIk U:UH%SLOk U+OOH%W$U%WA$",
    "O$I$EI%r&NASe U$O$I$A+PjNh k$M.SLOk q%k%l,VOCeIC M!!!!!]AFFIX iFyHORIZlTemECkT%~MID HORIZlT",
    "emECkT$~Rf HORIZlTemECkT&~Lr VjsCemECkT|MID VjsCemECkT|HIGH VjsCemECkT!~ATTACHEDmECkT*iFT-T",
    "O-RfmECkT!~TkGqT)IL(uHOOK*I HOOK*TkGqyHOOK!!!$~HIGH ACUTE)Tf ACUTE;GzVE)LlG GzVE:DOT&CIRCi*",
    "LhE(WAVE(VjsCe!!!!!!!=Lr ACUTE)Tf ACUTE;GzVE)LlG GzVE:DOT&CIRCi*LhE(WAVE(VjsCe,dRr!!?Sw ObC",
    "ROSS^xICK iTTjmEiCTOR$~DOUBi MdK;PUNCTUAsl CHhOOK FULLmTOP_~SHORxkDgAyiTTj OVjLAP>ClThUhG O",
    "VjLAP_DrNmTEP.UPmTEP"]),
   (118528,
   ["!ZNAMqNY COMBhhG MdK GOzZDO NIZKOm KRYZHEM l iFT;~NIZKOm KRYZHEM l iFT&~TSATA l iFT=GOzZDO ",
    "NIZKO l iFT$~NIZKO l iFT=SvDNul iFT>MeO POVYSHul iFT!~POVYSHul iFT?VYSOKO l iFT>MeO POVYSHE",
    "m KHOKHLOM l iFT;~POVYSHEm KHOKHLOM l iFT*~VYSOKOm KHOKHLOM l iFT)~GOzZDO NIZKOm KRYZHEM l ",
    "Rf<~NIZKOm KRYZHEM l Rf(~TSATA l Rf>GOzZDO NIZKO l Rf%~NIZKO l Rf>SvDNul Rf?MeO POVYSHul Rf",
    "$~POVYSHul Rf]VYSOKO l Rf?MeO POVYSHEm KHOKHLOM l Rf<~POVYSHEm KHOKHLOM l Rf+~VYSOKOm KHOKH",
    "LOM l Rf*~TSATAm KRYZHEM?MeO POVYSHEm KRYZHEM%~STRkNO MeO POVYSHE!~POVYSHEm KRYZHEM,TRkNO?V",
    "YSOKOm KRYZHEM]MeO POVYSHEmTRkNO!~GOzZDO VYSOKO>ZELO(l%zVNO)sKtYA+BORZAYA+UDdKA*PODVjTKA.LO",
    "MKA)KUPNAYA*ACHKA*ZEVOK)SKOBA)zZSEKA+KRYZH l iFT!!_Tle RkGuMdK MzCHNO+SVETLO*TvSVETLO*~MdK ",
    "ZADjZHKA.DEMESTVqNY ZADjZHKA$~OTSECHKA,PODCtSHIE!bVjsCemTROKE;~CtSHKA! POLNAYA?OBLACHKO,SOR",
    "OCHYA NOZHKA?TOCHKA*DVOETOCHIE?ATTACHhG VjsCe OMET&~MdK CURVpOMET;KRYZH:Lrj Tle RkGuhDICATO",
    "R^~PRIZNAK MODIFIj iVEL-2$3+DIvCsl FLIP>KRYZH)ROG!!!!!!!!!!~NEUMuKRYUK! sKHY;PdAKLIT,DVA V ",
    "CHELNU<KLYUCH*ZkOZHEK,STOPITSA!m OCHKOM^PjEVODKA! NEPOSTOYkNAYA(~STOPITSAbSOROCHYA NOZHKA.~",
    "CHELYUSTKA:PeKA)ZAPYATAYA.GOLUBCHIK BORZY)sKHY)MzCHNY+SVETLY*TvSVETLY|VzKHIYA PROSTAYA,MzCH",
    "NAYA.SVETLAYA,TvSVETLAYA;KLYUCHEVAYA PROSTAYA,MzCHNAYA.SVETLAYA,TvSVETLAYA<~DOUBi ZAPYATAYA",
    "]vVjSpCHELYUSTKA|DjBITSA,KtMILO+CtSHKA+PODCtSHIE:SKAMEYTSA MzCHNAYA.SVETLAYA,TvSVETLAYA:IKt",
    "YA^DEMESTVqNY KLYUCH_SKAMEYTSA KLYUCHEVAYAmVETLAYA=NEPOSTOYkNAYA>VAYA sKtYA|DVOECHELNAYA PR",
    "OSTAYA,SVETLAYA,NEPOSTOYkNAYA>KLYUCHEVAYA=~LOZHIsE!m ZAPYATOY:ZAKRYTOE,S KRYZHEM|KRYZH)ROG&",
    "FITA(KOBYLA*ZMEYTSA+STATYA!m ZAPYATOY,KRYZHEM+ZAPYATOY I KRYZHEM_KRYZHEM I ZAPYATOY!~ZAKRYT",
    "AYA!m ZAPYATOY!~S ROGOM)DVUMYA ZAPYATYMI]ZAPYATOY I PODCtSHIEM;~POLKULIZMY:STATYA NEPOSTOYk",
    "NAYA|vLA PROSTAYA,MzCHNOsKtYA>KRYZHEVAYA:POLUPOVODNAYA;VODNAYA.NEPOSTOYkNAYA>KLYUCHEPOVODNA",
    "YA.NEPOSTOYkNAYA$~sKtYA PUTNAYA?DVOECHELNAYA&OKRYZHEVAYA:POVODNAYA:AYA KLYUCHEVAYA?OPOVODNA",
    "YA KLYUCHEVAYA;~GROMNAYAbShGi ZAPYATAYA*~OPOVODNAYAbShGi ZAPYATAYA<~NAYA(OPOVODNAYA!bDOUBi ",
    "ZAPYATAYA;~KRYZHEVAYA! POVODNAYA<~MECHIK! POVODNY+KLYUCHEVOY&POVODNY+NEPOSTOYkNY*~STvLA TRY",
    "ASOGLASNAYA,POVODNAYA.STvLNAYA%~OSOKA!mVETLAYA,TvSVETLAYA;KRYUKOVAYAmVETLAYA_LYUCHEVAYAmVET",
    "LAYA,NEPOSTOYkNAYA<~STvLA KRYUKOVAYA! POVODNAYA.GROMNAYAbShGi ZAPYATAYA*~OPOVODNAYAbShGi ZA",
    "PYATAYA<~NAYA(OPOVODNAYA!bDOUBi ZAPYATAYA;~KRYZHEVAYA! POVODNAYA)~TRYASKA)~KUFISMA+OBLAKO*D",
    "UDA(NEMKA)PAUK"]),
   (118784,
   ["!BYZkThuMUSICemYMBOL PSILI)DASEIA*PjISPOMqI;OXEIA EKFlIsKl;DIPLI;VdEIA EKFlIsKl;DIPLI<KAxIS",
    "s,SYRMAsKI.PdAKLIsKI;YPOKRISIS! DIPLI?KvMASs,APESO EKFlIsKl^EXO EKFlIsKl?TEiIA*KqsMATA.APOS",
    "TROFOS! DIPLI]SYNEVMA+xITA)OLIGl dCtIl?GORGl dCtIl?PSILl*CtMILl,VAxY)ISl dCtIl=KqsMA dCtIl.",
    "TA dCtIl_SAXIMATA,PdICHl,STAVROS APODEXIA]OXEIAI dCtIl?VdEIAI dCtIl]APODjMA dCtIl>xEMA,KLAS",
    "MA*vVMA)PIASMA dCtIl?ThAGMA+kATRICHISMA<SEISMA)YNAGMA dCtIl,METAmTAVROU!~OYRkISMA dCtIl_xEM",
    "A)iMOI)DYO&TRIA&ESSjA+KzsMATA.APESO EXO NEO=FxOz dCtIl?IMIFxOz.TROMIKl dCtIl^KATAVA TROMIKl",
    "?PELASTl+SIFISTl.KlTEVMA,CHOvVMA dCtIl^zPISMA+PdAKeESMA dCtIl?LIsKI dCtIl!~ICtDh+NkA(PETASM",
    "A+KlTEVMA eLO=TROMIKl eLO=STzGGISMATA<GRlxISMATA<ISl NEO,OLIGl NEO.XEIA NEO.PETASs+KOUFISMA",
    ",PETASTOKOUFISMA?KzsMOKOUFISMA?PELASTl NEO<KqsMATA NEO kO: NEO kO?YPSILI*APOSTROFOS NEO)ImY",
    "NDESMOS NEO(~YPORROI+KzsMOYPORROl?ELAFRl+CtMILI+MIKRl ISl;VdEIA NEO:PIASMA NEO.SIFISTl NEO=",
    "OMel*ksKqOMA:LYGISMA+PdAKLIsKI NEO:eESMA NEO?ETjl PdAKeESMA_KYLISMA+ksKqOKYLISMA?TROMIKl NE",
    "O<EKSTvPTl:SYNAGMA NEO.RMA)CHOvVMA NEO<EPEGjMA,SEISMA NEO:XIRl KLASMA<TROMIKOPSIFISTl]PSIFI",
    "STOLYGISMA?TROMIKOLYGISMA+PdAKeESMA_PSIFISTOPdAKeESMA|TROMIKOSYNAGMA>PSIFISTOSYNAGMA?GORGOS",
    "YNxETl>dGOSYNxETl=ETjl dGOSYNxETl!~OYRkISMA NEO=xEMAsSMOS ESO%XO: APLOUN.S KAI APOxES]KATAV",
    "ASMA.qDOFll.YFq KATO(kO,STAVROS+KLASMA kO:DIPLI dCtIl>KzsMA dCtIl+LLO(NEO;APODjMA NEO:LI(DI",
    "PLI)TRIPLI)ETzPLI,KORlIS+iIMMA qOS CHRlOU<DYO CHRll;TRIl CHRll<ESSdl CHRll]IMISEOS CHRlOU%~",
    "GORGl NEO kO+PdESsGMql dISTjA,DEXIA*~DIGORGl! PdESsGMql dISTjA KATO(kO<DEXIA,~TRIGORGl.dGl)",
    "IMIDIdGl:DIdGl+AGOGI POLI dGI.dGOTjI)I(METRIA(SI(GORGI$OTjI.POLI GORGI]MdTYRIA PROTOS ICHOS",
    "<eLI PROTOS ICHOS^DEYTjOS ICHOS>eLI DEYTjOS ICHOS|TRITOS ICHOS.FlIAS,ETdTOS ICHOS)iGETOS IC",
    "HOS%~iGETOS ICHOS=PLAGIOS ICHOS%~ISAKIA TELOUS ICHIMATOS&~APOSTROFOI TELOUS ICHIMATOS+~FkjO",
    "SIS TETzFlIAS;MlOFlIAS:DIFlIAS_MdTYRIA VdYS ICHOS;PROTOVdYS ICHOS?LAGIOS TETdTOS ICHOS;~GOR",
    "xMIKl N APLOUN*DIPLOUN!~qdXIS KAI FxOz VOU%~IMIFll(xORl:FxOz dCtIl DEYTjOU ICHOU&~DIATlIKI ",
    "PA%NkA>NAOS ICHOS:DIATlIKI DI<SKLIRl DIATll DI|DIATlIKI KE%ZO%NI KATO(kO]MeAKl CHROMA DIFlI",
    "AS,MlOFlIAS;~HTOzmKLIRl CHROMA VASIS*~xOzmKLIRl CHROMAmYNAFI$~NqkO=CHROA ZYGOS)KLITl*SPAxI<",
    "FxOz I YFESIS TETdsMORIl%~qdMlIOS ksFlIA+~YFESIS TRIsMORIl_DIESIS TRIsMORIl:ETdsMORIl=APLI ",
    "DYO DODEKATA^MlOGzMMOS TESSjA DODEKATA,~DIGzMMOS EX DODEKATA$~TRIGzMMOS OKTO DODEKATA;~YFES",
    "IS APLI DYO DODEKATA^MlOGzMMOS TESSjA DODEKATA,~DIGzMMOS EX DODEKATA$~TRIGzMMOS OKTO DODEKA",
    "TA;~GqIKI DIESIS*YFESIS=DIASTOLI APLI MIKRI(EGeI;DIPLI)xESEOS]SIMkSIS xESEOS! DISIMOU+TRISI",
    "MOU+ETzSIMOU_dSEOS! DISIMOU+TRISIMOU+ETzSIMOU*~DIGzMMA GG.FTOGGOS OU<SsGMA*dKsKO PA%VOU&GA%",
    "DI%KE%ZO%NI:KqsMATA NEO MESO; NEO MESO.TA NEO KATO; NEO KATO?LASMA KATO;GORGl NEO KATO!!!!!",
    "!!!!!!~~MUSICemYMBOLmhGi BdLhE>DOUBi BdLhE>Fhe BdLhE=vVjSuFhe BdLhE$~DASHpBdLhE>SHORyBdLhE=",
    "iFyvPEATmw]Rf vPEATmw]EPEAyDOTS;DemEGNO+ CAPO+SEGNO)CODA(vPEATpFIGUv-1$2$3^FjMATA! BELr=BvA",
    "x MdK;CAESUz+BzCE$KET+lE-LhEmTAFF>TWO-LhEmTAFF=HvE-LhEmTAFF]FOUR-LhEmTAFF>IVE-LhEmTAFF?SIX-",
    "LhEmTAFF:STRhG FvTBOdD!~FOUR-STRhG FvTBOdD$~G CiF! OTTAVA eTA(BASSA|C CiF*F CiF! OTTAVA eTA",
    "(BASSA|DRUM CiF-1$2!!;MULsPi MEASURuvST$~DOUBimHdP)FLAT;FLAyUP%DrN.NATURe UP%DrN<SHdP UP%Dr",
    "N:QUdTj TlEmHdP)FLAT^COMMl sME:UysME,OTTAVA eTA(BASSA<QUhDICESIMA eTA(BASSA_MULs vST:WHOi v",
    "ST:HeF vST.QUdTj vST<EfH vST;SIXTEqx vST>xIRTY-SEClD vST_SIXTY-FOURx vST^luHUNDRpTWqTY-EfH ",
    "vST:~X NOTEHEAD:PLUS NOTEHEAD=CIRCi X NOTEHEAD^SQUduNOTEHEAD WHITE)BLACK$~TRIkGi NOTEHEAD U",
    "P WHITE)BLACK,iFyWHITE)BLACK:Rf WHITE)BLACK;DrN WHITE)BLACK:UP Rf WHITE)BLACK<~MOl NOTEHEAD",
    " WHITE)BLACK|TRIkGi-ROUND NOTEHEAD DrN WHITE)BLACK>~PdqxESIS NOTEHEAD!~VOID NOTEHEAD=NOTEHE",
    "AD BLACK=ULL NOTEHEAD=CLUSTj NOTEHEAD WHITE)BLACK%~BvVE)WHOi NOTE:HeF NOTE.QUdTj NOTE<EfH N",
    "OTE;SIXTEqx NOTE>xIRTY-SEClD NOTE_SIXTY-FOURx NOTE^luHUNDRpTWqTY-EfH NOTE:~COMBhhGmTEM&PvCH",
    "GESkGmTEM^TvMOLO-1$2$3|FhGjpTvMOLO-1$2$3_COMBhhG AUGMqTAsl DOT]FLAG-1$2$3$4$5]BEGh BEAM:qD ",
    "BEAM,BEGh sE.qD sE+BEGhmLUR:qDmLUR,BEGh PHzSE<qD PHzSE:COMBhhG ACCqT*STACCATO,TqUTO*STACCAs",
    "SSIMO=MdCATO!-STACCATO]ACCqT-STACCATO?LOUv?dPEGGIATO UP%DrN?COMBhhG DOIT(RIP&FLIP(SMEd)BqD(",
    "DOUBi TlGUE=TRIPi TlGUE&~RhFORZkDO;SUBITO*Z$PIkO)MEZZO)FORTE)CvSCqDO.DECvSCqDO;GzCuNOTEmLAS",
    "H)NOmLASH|TR$URN(hVjTpTURN=TURNmLASH)UP+ORNAMqTmTROKE-1$2$3$4$5$6$7$8$9$10$1_tUPTSsMME;NEBq",
    "SsMME;qD OFmsMME=DEGvEmLASH<COMBhhG DrN Br,UP Br*HdMlIC,SNAP PIZZICATO(~PEDe MdK(UP MdK=HeF",
    " PEDe MdK?GLISSkDO UP%DrN>WIx FhGjNAILS]DAMP! eL,MAXIMA*LlGA)BvVIS*SEMIBvVIS WHITE)BLACK]Mh",
    "IMA! BLACK<SEMIMhIMA WHITE)BLACK]FUSA WHITE)BLACK:LlGA PjFECTA vST=IMPjFECTA vST$~BvVIS vST",
    ";SEMIBvVIS vST?MhIMA vST;SEMIMhIMA vST?TEMPUS PjFECTUM CUM PROLAsluPjFECTA,IMPjFECTA:PjFECT",
    "A DIMhUsl-1*~~IMPjFECTUM CUM PROLAsluPjFECTA,IMPjFECTA! DIMhUsl-1$2$3^~~CROIX)GvGORIk C CiF",
    "*F CiF]SQUduB,VIRGA)PODATUS+CLIVIS*SCkDICUS.CLIMACUS,TORCULUS,PORvCTUS! FiXUS]SCkDICUS FiXU",
    "S]TORCULUS vSUPhUS_PESmUBPUNCsS>KIEVk C CiF*qD OF PIECE<Fhe NOTE:vCITAsVuMdK?WHOi NOTE:HeF ",
    "NOTE.QUdTj NOTEmTEM DrN(UP!~EfH NOTEmTEM DrN(UP|FLATmw]SORI(KORl"]),
   (119296,
   ["!GvEK VOCe NOTAslmYMBOL-1$2$3$4$5$6$7$8$9$10$1$2$3$4$5$6$7$8$9%20$1$2$3$4%50$1$2$3$4(~hSTRU",
    "MqTe NOTAslmYMBOL-1$2$4$5$7$8$11$2$3$4$7$8$9%23$4$5$6$7$9%30$2$6$7$8$9%40$2$3$5$7$8$9%50$1$",
    "2$3$4^~COMBhhG GvEK MUSICe TRISEME*ETzSEME.PqTASEME=~GvEK MUSICe iIMMA"]),
   (119520,
   ["!MAYk NUMje ZjO(lE&TWO%HvE)FOUR&IVE(SIX%EVq)Ef)NhE(Tq&EiVq*TWELVE)HIRTEq,FOURTEq+IFTEq+SIXT",
    "Eq*EVqTEq.EfEq,NhETEq!!!!!!!!!!!!$~lOGzM FOR Edx_DIGzM FOR HEAVqLY Edx=UMk Edx;EdxLY HEAVq)",
    "UMk,]TETzGzM FOR CqTv*FULL CIRCi;MIvD)BdRIj+KEEPhGmMeL=ClTRdIETY;ASCqT*OPPOSIsl:BRkCHhG OUT",
    "=DEFECsVqESS OR DISTORsl*~IVjGqCE:YOUxFULNESS<hCvASE,PqETzsl;vACH)ClTACT+HOLDhG BACK<WAIThG",
    "+FOLLrhG.ADVkCE+viASE)SISTkCE:EASE(JOY&ClTqsl:qDEAVOUR.DUsES*CHkGE*DECISIVqESS<BOLD vSOLUsl",
    "?PACKhG+iGIl*CLOSqESS.KhSHIP+GAxjhG.STRqGx,PURITY*FULLNESS,vSIDqCE.LAW OR MODEL<vSPlSE,GOhG",
    " TO MEET=qCOUNTjS:STOVE)GvATNESS.qLdGEMqT;PATTjN+RITUe*FLf*VASTNESS OR WASThG|ClSTkCY.MEASU",
    "v+ETjNITY,UNITY)DIMhISHMqT<CLOSpMOUx<GUdDEDNESS:AxjhG h<MASShG+ACCUMULAsl<EMBELLISHMqT=DOUB",
    "T)WATCH)ShKhG+hNj)DEPdTUv,dKqhG,IMMhG+EXtUSsl:SEVjkCE,TOPPAGE,HdDNESS,COMPisl.LOSUv+FAILUv+",
    "AGGzVAsl;COMPLIkCE:l xuVjGE<DIFFICULsES<LABOURhG.FOSTjhG!!!!!!!!!&~COUNThG ROD UNIyDIGIylE&",
    "TWO%HvE)FOUR&IVE(SIX%EVq)Ef)NhE?TqS DIGIylE&TWO%HvE)FOUR&IVE(SIX%EVq)Ef)NhE,~IDEOGzPHIC TeL",
    "Y MdK lE&TWO%HvE)FOUR&IVE+~TeLY MdK lE&FIVE"]),
   (119808,
   ["!MAxEMAsCe BOLD cL A$B$C$D$E$F$G$H$I$J$K$L$M$N$O$P$Q$R$S$T$U$V$W$X$Y$Z.SMeL A$B$C$D$E$F$G$H",
    "$I$J$K$L$M$N$O$P$Q$R$S$T$U$V$W$X$Y$Z<ITeIC cL A$B$C$D$E$F$G$H$I$J$K$L$M$N$O$P$Q$R$S$T$U$V$W",
    "$X$Y$Z.SMeL A$B$C$D$E$F$G!$I$J$K$L$M$N$O$P$Q$R$S$T$U$V$W$X$Y$Z>BOLD ITeIC cL A$B$C$D$E$F$G$",
    "H$I$J$K$L$M$N$O$P$Q$R$S$T$U$V$W$X$Y$Z.SMeL A$B$C$D$E$F$G$H$I$J$K$L$M$N$O$P$Q$R$S$T$U$V$W$X$",
    "Y$Z|SCRIPycL A!$C$D!!$G!!$J$K!!$N$O$P$Q!$S$T$U$V$W$X$Y$Z.SMeL A$B$C$D!$F!$H$I$J$K$L$M$N!$P$",
    "Q$R$S$T$U$V$W$X$Y$Z>BOLDmCRIPycL A$B$C$D$E$F$G$H$I$J$K$L$M$N$O$P$Q$R$S$T$U$V$W$X$Y$Z.SMeL A",
    "$B$C$D$E$F$G$H$I$J$K$L$M$N$O$P$Q$R$S$T$U$V$W$X$Y$Z|FzKTUR cL A$B!$D$E$F$G!!$J$K$L$M$N$O$P$Q",
    "!$S$T$U$V$W$X$Y!.SMeL A$B$C$D$E$F$G$H$I$J$K$L$M$N$O$P$Q$R$S$T$U$V$W$X$Y$Z?DOUBi-STRUCK cL A",
    "$B!$D$E$F$G!$I$J$K$L$M!$O!!!$S$T$U$V$W$X$Y!.SMeL A$B$C$D$E$F$G$H$I$J$K$L$M$N$O$P$Q$R$S$T$U$",
    "V$W$X$Y$Z$~BOLD FzKTUR cL A$B$C$D$E$F$G$H$I$J$K$L$M$N$O$P$Q$R$S$T$U$V$W$X$Y$Z.SMeL A$B$C$D$",
    "E$F$G$H$I$J$K$L$M$N$O$P$Q$R$S$T$U$V$W$X$Y$Z!~SkS-SjIF cL A$B$C$D$E$F$G$H$I$J$K$L$M$N$O$P$Q$",
    "R$S$T$U$V$W$X$Y$Z.SMeL A$B$C$D$E$F$G$H$I$J$K$L$M$N$O$P$Q$R$S$T$U$V$W$X$Y$Z+BOLD cL A$B$C$D$",
    "E$F$G$H$I$J$K$L$M$N$O$P$Q$R$S$T$U$V$W$X$Y$Z.SMeL A$B$C$D$E$F$G$H$I$J$K$L$M$N$O$P$Q$R$S$T$U$",
    "V$W$X$Y$Z<ITeIC cL A$B$C$D$E$F$G$H$I$J$K$L$M$N$O$P$Q$R$S$T$U$V$W$X$Y$Z.SMeL A$B$C$D$E$F$G$H",
    "$I$J$K$L$M$N$O$P$Q$R$S$T$U$V$W$X$Y$Z>BOLD ITeIC cL A$B$C$D$E$F$G$H$I$J$K$L$M$N$O$P$Q$R$S$T$",
    "U$V$W$X$Y$Z.SMeL A$B$C$D$E$F$G$H$I$J$K$L$M$N$O$P$Q$R$S$T$U$V$W$X$Y$Z:~MlOSPACucL A$B$C$D$E$",
    "F$G$H$I$J$K$L$M$N$O$P$Q$R$S$T$U$V$W$X$Y$Z.SMeL A$B$C$D$E$F$G$H$I$J$K$L$M$N$O$P$Q$R$S$T$U$V$",
    "W$X$Y$Z^ITeICmMeL DOTiSS I$J!!%~BOLD cL ePt)BETA(GAMMA)DELTA)EPSILl+ZETA(ETA&xETA)IOTA(KAPP",
    "A)LAMDA)MU%NU%XI%OMICRl+PI%RHO&xETAmYMBOL<SIGMA)TAU&UPSILl+PHI&CHI&PSI&OMEGA=NABLA)SMeL ePt",
    ")BETA(GAMMA)DELTA)EPSILl+ZETA(ETA&xETA)IOTA(KAPPA)LAMDA)MU%NU%XI%OMICRl+PI%RHO&FhemIGMA;SIG",
    "MA)TAU&UPSILl+PHI&CHI&PSI&OMEGA;Pdse DIFFjqse!~EPSILlmYMBOL>xETAmYMBOL<KAPPAmYMBOL<PHImYMBO",
    "L:RHOmYMBOL:PImYMBOL>ITeIC cL ePt)BETA(GAMMA)DELTA)EPSILl+ZETA(ETA&xETA)IOTA(KAPPA)LAMDA)MU",
    "%NU%XI%OMICRl+PI%RHO&xETAmYMBOL<SIGMA)TAU&UPSILl+PHI&CHI&PSI&OMEGA=NABLA)SMeL ePt)BETA(GAMM",
    "A)DELTA)EPSILl+ZETA(ETA&xETA)IOTA(KAPPA)LAMDA)MU%NU%XI%OMICRl+PI%RHO&FhemIGMA;SIGMA)TAU&UPS",
    "ILl+PHI&CHI&PSI&OMEGA;Pdse DIFFjqse!~EPSILlmYMBOL>xETAmYMBOL<KAPPAmYMBOL<PHImYMBOL:RHOmYMBO",
    "L:PImYMBOL]BOLD ITeIC cL ePt)BETA(GAMMA)DELTA)EPSILl+ZETA(ETA&xETA)IOTA(KAPPA)LAMDA)MU%NU%X",
    "I%OMICRl+PI%RHO&xETAmYMBOL<SIGMA)TAU&UPSILl+PHI&CHI&PSI&OMEGA=NABLA)SMeL ePt)BETA(GAMMA)DEL",
    "TA)EPSILl+ZETA(ETA&xETA)IOTA(KAPPA)LAMDA)MU%NU%XI%OMICRl+PI%RHO&FhemIGMA;SIGMA)TAU&UPSILl+P",
    "HI&CHI&PSI&OMEGA;Pdse DIFFjqse!~EPSILlmYMBOL>xETAmYMBOL<KAPPAmYMBOL<PHImYMBOL:RHOmYMBOL:PIm",
    "YMBOL$~SkS-SjIF BOLD cL ePt)BETA(GAMMA)DELTA)EPSILl+ZETA(ETA&xETA)IOTA(KAPPA)LAMDA)MU%NU%XI",
    "%OMICRl+PI%RHO&xETAmYMBOL<SIGMA)TAU&UPSILl+PHI&CHI&PSI&OMEGA=NABLA)SMeL ePt)BETA(GAMMA)DELT",
    "A)EPSILl+ZETA(ETA&xETA)IOTA(KAPPA)LAMDA)MU%NU%XI%OMICRl+PI%RHO&FhemIGMA;SIGMA)TAU&UPSILl+PH",
    "I&CHI&PSI&OMEGA;Pdse DIFFjqse!~EPSILlmYMBOL>xETAmYMBOL<KAPPAmYMBOL<PHImYMBOL:RHOmYMBOL:PImY",
    "MBOL.ITeIC cL ePt)BETA(GAMMA)DELTA)EPSILl+ZETA(ETA&xETA)IOTA(KAPPA)LAMDA)MU%NU%XI%OMICRl+PI",
    "%RHO&xETAmYMBOL<SIGMA)TAU&UPSILl+PHI&CHI&PSI&OMEGA=NABLA)SMeL ePt)BETA(GAMMA)DELTA)EPSILl+Z",
    "ETA(ETA&xETA)IOTA(KAPPA)LAMDA)MU%NU%XI%OMICRl+PI%RHO&FhemIGMA;SIGMA)TAU&UPSILl+PHI&CHI&PSI&",
    "OMEGA;Pdse DIFFjqse!~EPSILlmYMBOL>xETAmYMBOL<KAPPAmYMBOL<PHImYMBOL:RHOmYMBOL:PImYMBOL<~BOLD",
    " cL DIGAMMA?SMeL DIGAMMA!!=DIGIyZjO(lE&TWO%HvE)FOUR&IVE(SIX%EVq)Ef)NhE?DOUBi-STRUCK DIGIyZj",
    "O(lE&TWO%HvE)FOUR&IVE(SIX%EVq)Ef)NhE(~SkS-SjIF DIGIyZjO(lE&TWO%HvE)FOUR&IVE(SIX%EVq)Ef)NhE:",
    "BOLD DIGIyZjO(lE&TWO%HvE)FOUR&IVE(SIX%EVq)Ef)NhE*~MlOSPACuDIGIyZjO(lE&TWO%HvE)FOUR&IVE(SIX%",
    "EVq)Ef)NhE=~SwWRIThG HkD-FISyhDEX:CIRCi hDEX;UP hDEX.OVe hDEX:HhGuhDEX;kGi hDEX;FISyhDEX Bq",
    "T?CIRCi hDEX BqT^FISyxUMB UNDj hDEX BqT%~hDEX zISpKNUCKi>CUPPED*HhGED! Lr$~CIRCi hDEX HhGE_",
    "FISyhDEX MIDDi^CIRCi hDEX MIDDi|FISyhDEX MIDDi BqT(zISpKNUCKiS?HhGED=UP MIDDi HhGED]HhGpMID",
    "Di UP]MIDDi ClJOhED! hDEX BqT:MIDDi BqT;CUPPED*HhGED?ROSSED)~CIRCi hDEX MIDDi CROSSED+~FISy",
    "MIDDi BqyOVj hDEX%~hDEX BqyOVj MIDDi]MIDDi xUMB&~CIRCi hDEX MIDDi xUMB)~FISyhDEX MIDDimTzf ",
    "xUMB BqT|BqyxUMBmTzf|xUMB BqT:HhGEDmPvAD xUMBmIDE;~UP MIDDi HhGpxUMBmIDE(ClJOhED<~HhGpMIDDi",
    " UP xUMBmIDE+~MIDDi UPmPvAD xUMB FORWdD&~xUMB CUPPED)IRCiD+HOOKED)hGED)~xUMB BETWEq hDEX MI",
    "DDimTzf?~hDEX MIDDi ClJOhpxUMBmIDE! ClJOhED.BqT_~MIDDi xUMB HOOKphDEX UP,~hDEX xUMB HOOKpMI",
    "DDi UP%~MIDDi ClJOhpHhGpxUMBmIDE*~ROSSpxUMBmIDE^lJOhpxUMB FORWdD=CUPPpxUMB FORWdD&~~MIDDi x",
    "UMB CUPPphDEX UP,~hDEX xUMB CUPPpMIDDi UP,~MIDDi xUMB CIRCiD hDEX UP%HhGED=~hDEX xUMB kGiD ",
    "OUyMIDDi UP=h MIDDi UP|CIRCiD MIDDi UP&~MIDDi xUMB ClJOhpHhGED]kGiD OUT()~MIDDi xUMB kGiD O",
    "UyhDEX UP%CROSSED^hDEX UP,~hDEX xUMB HOOKpMIDDi HhGED]~LAyFOUR FhGjS! BqT(HhGED*ClJOhED!mPL",
    "IT=~CLAW FOUR FhGjS ClJOhED+~FISyFOUR FhGjS ClJOhpBqT<~HhGuFOUR FhGjS ClJOhED,~FLAyFIVuFhGj",
    "SmPvAD|HEEL FIVuFhGjSmPvAD(~FIVuFhGjSmPvAD FOUR BqT.~HEEL FIVuFhGjSmPvAD FOUR BqT>~FIVuFhGj",
    "SmPvAD BqT(~HEEL FIVuFhGjSmPvAD BqT.~FIVuFhGjSmPvAD xUMB FORWdD_~CUP FIVuFhGjSmPvAD! OPq,~H",
    "hGuFIVuFhGjSmPvAD OPq:~OVe FIVuFhGjSmPvAD(~FLAyFIVuFhGjSmPvAD HhGED! xUMBmIDE:NO xUMB]~! BE",
    "TWEq PeM FAChGS!~HEEL(xUMBmIDE:HEEL xUMBmIDE?xUMB BqT(FORWdD=SPLIyhDEX xUMBmIDE]CqTv! xUMBm",
    "IDE! BqT%~LITTi^CLAW! xUMBmIDE:NO xUMB,xUMB FORWdD_HOOK CURLICUE.(CUP OPq)! OPq xUMBmIDE?xU",
    "MBmIDE:OPq NO xUMB=NO xUMB,OPq xUMB FORWdD_xUMB FORWdD?RLICUuOPq)+IRCi*OVe! xUMBmIDE:NO xUM",
    "B,xUMB FORWdD_HhGuOPq! xUMB FORWdD|!mMeL)OPq xUMBmIDE?xUMBmIDE:OPq NO xUMB=NO xUMB,xUMBmIDu",
    "TOUCHhG hDEX|BETWEq MIDDi RhG;~kGi)FISyhDEX MIDDi RhG%~CIRCi hDEX MIDDi RhG(~HhGuhDEX MIDDi",
    " RhG&~kGi hDEX MIDDi RhG&~HhGuLITTi<FISyhDEX MIDDi RhG BqT(ClJOhED<~HhGuhDEX MIDDi RhG ClJO",
    "hED=~FISyLITTi DrN! RIPPimTzf,CURVED=OxjS CIRCiD|UP.xUMB UNDj LITTi UP*~CIRCi LITTi UP]OVe ",
    "LITTi UP>kGi LITTi UP?FISyLITTi zISpKNUCKi>BqT(TOUCHES xUMB<HUMB^HhGuLITTi xUMB_FISyLITTi h",
    "DEX xUMB&~HhGuLITTi hDEX xUMB(~kGi LITTi hDEX xUMB hDEX xUMB OUT(]~FISyLITTi hDEX^CIRCi LIT",
    "Ti hDEX|HhGuLITTi hDEX_kGi LITTi hDEX_FISyhDEX MIDDi LITTi(~CIRCi hDEX MIDDi LITTi*~HhGuhDE",
    "X MIDDi LITTi|RhG:kGi hDEX MIDDi LITTi)~FISyhDEX MIDDi CROSS LITTi:~CIRCi hDEX MIDDi CROSS ",
    "LITTi<~FISyRhG DrN>HhGuRhG DrN hDEX xUMB HOOK MIDDi|~kGi RhG DrN MIDDi xUMB hDEX CROSS!~~FI",
    "SyRhG UP%zISpKNUCKi>LITTi]CIRCi RhG LITTi_OVe RhG LITTi]kGi RhG LITTi^FISyRhG MIDDi! ClJOhE",
    "D.zISpKNUCKiS%~hDEX)xUMB?HOOK RhG xUMB?FISyhDEX RhG LITTi%~CIRCi hDEX RhG LITTi&~URLICUuhDE",
    "X RhG LITTi l.~HOOK hDEX RhG LITTi OUT&h%UNDj,~CUP hDEX RhG LITTi$~HhGuhDEX RhG LITTi&~kGi ",
    "hDEX RhG LITTi OUT(&~FISyMIDDi DrN]HhGuMIDDi<FISyMIDDi UP>CIRCi MIDDi UP]FISyMIDDi zISpKNUC",
    "Ki>UP xUMBmIDE)~HOOK MIDDi xUMB^FISyMIDDi xUMB LITTi<LITTi*RhG LITTi&~CIRCi MIDDi RhG LITTi",
    "(~URLICUuMIDDi RhG LITTi l,~P MIDDi RhG LITTi%~HhGuMIDDi RhG LITTi(~kGi MIDDi RhG LITTi OUT",
    "&h&(~CIRCi MIDDi RhG LITTi BqT.~LAW MIDDi RhG LITTi ClJOhED!mIDE_~HOOK MIDDi RhG LITTi ClJO",
    "hpOUT&h&<~hGuhDEX HhGED_FISyhDEX xUMBmIDE$~HhGuhDEX xUMBmIDE%~FISyhDEX xUMBmIDuxUMB DIAGle,",
    "ClJOhED.BqT:hDEX BqT:BOx BqT.hDEX HhGE]FORWdD hDEXmTzf,BqT_HOOK(CURLICUE)VuxUMB hSIDE?~CLAW",
    " hDEX xUMB CURVuxUMB hSIDE?~FISyhDEX xUMB CURVuxUMB UNDj]IRCi&~CUP hDEX xUMB! OPq!~HhGuhDEX",
    " xUMB OPq(LdGE*!mMeL&~kGi hDEX xUMB OUT&h&^FISyxUMB! HEEL(SIDuDIAGle,ClJOhED.BqT.FORWdD+BET",
    "WEq hDEX MIDDi<MIDDi RhG;RhG LITTi|UNDj TWO FhGjS^OVj TWO FhGjS]UNDj xvuFhGjS=FOUR FhGjS_OV",
    "j FOUR zISpKNUCKiS<~! HEEL>TOUCHmhGi*MULsPi,BETWEq=GzSPmhGi*MULsPi,BETWEq=STRIKEmhGi*MULsPi",
    ",BETWEq>BRUSHmhGi*MULsPi,BETWEq=RUBmhGi*MULsPi,BETWEq;SURFACEmYMBOLS+BETWEq>QUEEZuLdGEmhGi<",
    "SMeLmhGi<LdGuMULsPi>SMeL MULsPi=EQUqse_FLICK LdGEmhGi<SMeLmhGi<LdGuMULsPi>SMeL MULsPi=EQUqs",
    "e]SQUEEZuFLICK eTjNAThG)~MOVEMqT-HhGuUP DrN LdGE)SMeL:SEQUqse=DrNmEQUqse?UP DrN eTjNAThG Ld",
    "GE)SMeL)~SIDuTOmIDEmCISSORS+~WeLPLkuFhGj ClTACT(~FLOORPLkuFhGj ClTACT)~WeLPLkEmhGimTzfmMeL)",
    "MEDIUM*LdGE!ST]WRISyFiX^DOUBimTzf,WRISyFiX:eTjNAThG! WRISyFiX.~CROSS)TRIPimTzf MOVEMqT^WRIS",
    "yFiX:eTjNAThG! WRISyFiX.~BqDmMeL)MEDIUM*LdGE:CORNjmMeL)MEDIUM*LdGE)ROTAsl>HECKmMeL)MEDIUM*L",
    "dGE;BOXmMeL)MEDIUM*LdGE.ZIGZAGmMeL)MEDIUM*LdGE<PEAKSmMeL)MEDIUM*LdGE:~TzVEL-WeLPLkuROTAsl-W",
    "eLPLkEmhGi*DOUBi*eTjNAThG$~FLOORPLkEmhGi*DOUBi*eTjNAThG;~StKhG+dMmPIRemhGi*DOUBi*TRIPi>~MOV",
    "EMqT-DIAGle AWAYmMeL)MEDIUM*LdGE!ST<TrdDSmMeL)MEDIUM*LdGE!ST?BETWEq AWAYmMeL)MEDIUM*LdGE!ST",
    "<TrdDSmMeL)MEDIUM*LdGE!ST<~FLOORPLkEmhGimTzfmMeL)MEDIUM*LdGE!ST]WRISyFiX^DOUBimTzf,WRISyFiX",
    ":eTjNAThG! WRISyFiX.~CROSS)TRIPimTzf MOVEMqT^WRISyFiX:eTjNAThG MOVEMqT,WRISyFiX.~BqD(CORNjm",
    "MeL)MEDIUM*LdGE;HECK)BOXmMeL)MEDIUM*LdGE.ZIGZAGmMeL)MEDIUM*LdGE<PEAKSmMeL)MEDIUM*LdGE;~TzVE",
    "L-FLOORPLkuROTAsl-FLOORPLkEmhGi*DOUBi*eTjNAThG%~WeLPLkEmhGi*DOUBi*eTjNAThG:~StKhG)~MOVEMqT-",
    "WeLPLkuCURVuQUdTjmMeL)MEDIUM*LdGE!ST?HeF-CIRCimMeL)MEDIUM*LdGE!ST|xvE-QUdTj CIRCimMeL)MEDIU",
    "M=~HUMPmMeL)MEDIUM*LdGE:LOOPmMeL)MEDIUM*LdGE)SMeL DOUBi^WAVuCURVuDOUBimMeL)MEDIUM*LdGE<TRIP",
    "imMeL)MEDIUM*LdGE&~CURVuxqmTzf>D CROSSmMeL)MEDIUM_~ROTAsl-WeLPLkEmhGi*DOUBi*eTjNATE,~MOVEMq",
    "T-WeLPLkEmtKhG+CURVuHITThG FRlyWeL(~HUMP HITThG FRlyWeL&~LOOP HITThG FRlyWeL&~WAVuHITThG FR",
    "lyWeL%~~ROTAsl-WeLPLkEmhGi HITThG FRlyWeL)~DOUBi HITThG FRlyWeL)~eTjNAThG HITThG FRlyWeL.~~",
    "MOVEMqT-WeLPLkuCURVuHITThG CHEST|HUMP HITThG CHEST_LOOP HITThG CHEST_WAVuHITThG CHEST^~ROTA",
    "sl-WeLPLkEmhGi HITThG CHEST!~DOUBi HITThG CHEST!~eTjNAThG HITThG CHEST(~~MOVEMqT-WeLPLkuWAV",
    "uDIAGle PAxmMeL)MEDIUM*LdGE>~FLOORPLkuCURVuHITThG CEILhGmMeL)LdGE+~HUMP HITThG CEILhGmMeL D",
    "OUBi<LdGuDOUBi<SMeL TRIPi<LdGuTRIPi=~LOOP HITThG CEILhGmMeLmhGi<LdGEmhGi<SMeL DOUBi<LdGuDOU",
    "Bi=~WAVuHITThG CEILhGmMeL)LdGE*~~ROTAsl-FLOORPLkEmhGi HITThG CEILhG%~DOUBi HITThG CEILhG%~e",
    "TjNAThG HITThG CEILhG+~~MOVEMqT-FLOORPLkuCURVuHITThG FLOORmMeL)LdGE)~HUMP HITThG FLOORmMeL ",
    "DOUBi<LdGuDOUBi<TRIPimMeL TRIPi<LdGuTRIPi_~LOOP HITThG FLOORmMeLmhGi<LdGEmhGi<SMeL DOUBi<Ld",
    "GuDOUBi;~WAVuHITThG FLOORmMeL)LdGE(~~ROTAsl-FLOORPLkEmhGi HITThG FLOOR!~DOUBi HITThG FLOOR!",
    "~eTjNAThG HITThG FLOOR)~~MOVEMqT-FLOORPLkuCURVEmMeL)MEDIUM*LdGE!ST+COMBhED>HUMPmMeL:LOOPmMe",
    "L:WAVEmNAKE(MeL)LdGE:~ROTAsl-FLOORPLkEmhGi*DOUBi*eTjNAThG;~MOVEMqT-FLOORPLkEmtKhG PdeiL+~We",
    "LPLkudM CIRCimMeLmhGi<MEDIUMmhGi=SMeL DOUBi<MEDIUM DOUBi>~FLOORPLkudM CIRCi HITThG WeLmMeLm",
    "hGi<MEDIUMmhGi=LdGEmhGi<SMeL DOUBi<MEDIUM DOUBi=LdGuDOUBi+~~WeLPLkuWRISyCIRCi FRlTmhGi*DOUB",
    "i?~FLOORPLkuWRISyCIRCi HITThG WeLmhGi*DOUBi&~~WeLPLkuFhGj CIRCiSmhGi*DOUBi;~FLOORPLkuFhGj C",
    "IRCiS HITThG WeLmhGi*DOUBi>~~DYNAMIC dRrHEADmMeL)LdGE?FAST(SLr(TqSE)vLAXED+SIMULTkEOUS! eTj",
    "NAThG(~EVjY Oxj sME]GzDUe?HEAD! RIM&MOVEMqT-WeLPLkEmTzf,sLT>FLOORPLkEmTzf|WeLPLkuCURVE?FLOO",
    "RPLkuCURVE^ CIRCi!~FACuDIvCsl POSIsl NOSuFORWdD sLThG?UP OR DrN! sLThG+~~EYEBRrSmTzf UP%NEU",
    "TRe+DrN%~DvAMY EYEBRrS NEUTRe DrN<DrN NEUTRe<UP NEUTRe:NEUTRe UP*~FOvHEAD NEUTRe+ClTACT+WRh",
    "KiD^EYES OPq(SQUEEZED,CLOSED, BLhKmhGi*MULsPi?S HeF OPq.WIDuOPq.HeF CLOSED;WIDqhG MOVEMqT| ",
    "WhK)LASHES UP%DrN(FLUTTjhG^GAZE-WeLPLkEmTzf! DOUBi*eTjNAThG:~FLOORPLkEmTzf! DOUBi*eTjNAThG;",
    "~WeLPLkuCURVED]FLOORPLkuCURVED^WeLPLkuCIRCLhG*~CHEEKS PUFFED*NEUTRe+SUCKED=TqSuCHEEKS HIGH(",
    "MIDDi*Lr]EdS(NOSuNEUTRe+ClTACT+WRhKiS+IGGiS<AIR BLrhG OUT;SUCKhG h:BLrmMeL ROTAslS!~SUCKmMe",
    "L ROTAslS(~BvAx hHeE*EXHeE=MOUx CLOSpNEUTRe+FORWdD+ClTACT>SMIi! WRhKiD,OPq:FRrN! WRhKiD,OPq",
    ":OPq CIRCi*FORWdD+WRhKiD,OVe! WRhKiD,YAWN.vCTkGi! WRhKiD,YAWN|KISS! FORWdD+WRhKiD=TqSE! FOR",
    "WdD+SUCKED_LIPS PvSSpTOGExj_ Lrj OVj UPPj]UPPj OVj Lrj!~MOUx CORNjS+WRhKiSmhGi*DOUBi$~TlGUE",
    "msCKhG OUyFd]LICKhG LIPS<sP BETWEq LIPS<TOUCHhG hSIDuMOUx)~hSIDuMOUx vLAXED!~MOVES AGAhSyCH",
    "EEK|CqTvmsCKhG OUT<hSIDuMOUx)~EEx! MOVEMqT,l TlGUE! MOVEMqT?LIPS! MOVEMqT]BITuLIPS?MOVEMqT-",
    "WeLPLkuJAW=FLOORPLkuJAW&~NECK(tIR(EXCITEMqT:SHOULDj HIPmPhE)POSIslS%~WeLPLkEmHOULDj HIP MOV",
    "E+~FLOORPLkEmHOULDj HIP MOVE,~SHOULDj sLThG FROM WAIST+~TORSO-WeLPLkEmTzfmTvTCH]CURVpBqD$~F",
    "LOORPLkuTWISThG)~UPPj BODY sLThG FROM HIP JOhTS>~LIMB COMBhAsl;iNGx-1$2$3$4$5$6$7=FhGj*LOCA",
    "sl-WeLPLkEmPACE?FLOORPLkEmPACE^ HEf*WIDx)DEPx)HEAD NECK.TORSO)LIMBS DIGITS$~COMMA)FULLmTOP.",
    "SEMICOLl.COLl)PdqxESIS!!!!!!!!!!!!!!!;FILL MODIFIj-2$3$4$5$6!?ROTAsl MODIFIj-2$3$4$5$6$7$8$",
    "9$10$1$2$3$4$5$6"]),
   (122624,
   ["!LAThmMeaFqG DIGzPHbTRILL&~vVjSEDmCRIPyG:~iTTjmMeL cL TURNpG.~SMeavVjSpK&~iTTjmMeL cL LbBEL",
    "T<~SMeaiZHbvTROFiX HOOK(~TURNpYbBELT_vVjSpqG<TURNpRbLlG iG kD vTROFiX HOOK!~~bHOOK kD vTROF",
    "iX HOOK&~~iTTj vTROFiX CLICKbvTROFiX HOOK%~~SMeaESHbDOUBi Bd! kD CURL,~TURNpTbCURL;~iTTj hV",
    "jTpGLOTTemTOPbCURL;~STvTCHpCbCURL!~MeL cL TURNpK.~SMeaLbFISHHOOK?DEZH DIGzPHbPeATe HOOK:~Lb",
    "BELykD PeATe HOOK,~qGbPeATe HOOK$~TURNpRbPeATe HOOK*~RbFISHHOOK kD PeATe HOOK<~TESH DIGzPHb",
    "PeATe HOOK:~EZHbPeATe HOOK$~DEZH DIGzPHbvTROFiX HOOK<~IbSTROKukD vTROFiX HOOK<~ObvTROFiX HO",
    "OK$~TESH DIGzPHbvTROFiX HOOK<~CbvTROFiX HOOK$~SbCURL"]),
   (122880,
   ["!COMBhhG GLAGOLIsC iTTj AZU&BUKY(VEDE(GLAGOLI+DOBRO)YESTU)ZHIVETE!*EMLJA*IZHE&NIse IZHE;$DJ",
    "jVI*KAKO(LJUDIJE+MYSLITE+NASHI)lU&POKOJI*RITSI)SLOVO)TVRIDO*UKU&FRITU)HjU!!(SHTA(TSI&CHRIVI",
    "*St&YjU$I&As!&U%SMeL YUS!.YO%IOTATEDmMeL YUS^BIG YUS+IOTATpBIG YUS?FITA"]),
   (123136,
   ["!NYIAKqG PUACHUuHMlG iTTj MA%TSA&NTA&TA%t%NA%XA%NKA&CA%LA%SA%ZA%NCA%TSA(KA%DA%NYA%z&VA%NTXA",
    "(TXA&FA%z%QA%YA%NQA&PA%XYA&NPA&DLA&NPLA(tH&MLA&PLA&GA%Rz&A!A%I$U$O!O%E!E%W!!!,TlE-B$M$J$V$S",
    "$G$D*Sw FOR PjSl*xhG)LOCAsl,kIMe*hVjTEBzTE]XW XW.YLLABi iNGxqj!!|DIGIyZjO(lE&TWO%HvE)FOUR&I",
    "VE(SIX%EVq)Ef)NhE!!!!:LOGOGzM NYAJ=CIRCiD CA"]),
   (123536,
   ["!TOTO iTTj PA%BA%TA%DA%KA%GA%MA%NA$GA&SA%Ct&YA%WA%JA%t%z%LA%I$BvAxY I.IU%BvAxY IU:U$E$BvAxY",
    " E.EO%BvAxY EO:O$AE%BvAxY AE:A,Sw RIShG TlE!!!!!!!!!!!!!!!!!$~WkCHO iTTj AA$$BA%CA%DA%GA%YA",
    "%Pt&LA%NA%PA%TA$t&FA%SA$t&JA%ZA%WA%VA%KA%O$AU%z%MA%Kt&t%E$I$NGA&U$LLt(TSA%z&lG&AkG&NG&hG&l%",
    "q%Ak&NYA&Uq&YIH:TluTUP!NI)KOI!NI:DIGIyZjO(lE&TWO%HvE)FOUR&IVE(SIX%EVq)Ef)NhE!!!!!:NGUNmw"]),
   (124896,
   ["!ExIOPICmYLLABi HHYA$U$I$AA%EE$$O!(GUzGuHHWA;HHWI$EE$!(GUzGuMWI$EE!(QWI$EE$&BWI$EE(KWI$EE$&",
    "GWI$EE$&FWI$EE(PWI$EE!.~MqDuKIKAKUImYLLABi M001 KI(2 KA(3 KU)65 KEE*95 KE)76 KOO*48 KO*179 ",
    "KUA+004 WI(5 WA(6 WU*126 WEE*18 WE(4 WOO+045 WO*194 WUI*43 WEI+061 WVI*49 WVA+139 WVE+007 M",
    "h)8 Mk)9 MUN*59 Mq*94 Ml+154 MUk+89 MUq,010 BI(1 BA(2 BU*150 BEE+097 BE*103 BOO*38 BO*013 I",
    "&4 A&5 U)163 EE)00 E(65 OO)47 O(37 EI(1 h(5 h)95 k)78 q*019mI)20mA(1mU*162mEE*16mE)36mOO+07",
    "9mO*196mIA+025 LI(6 LA(7 LU)84 iE*73 i)54 LOO+153 LO)10 LlG i;016 DI(7 DA(8 DU)89 DEE+180 D",
    "OO)1 DO*022 s(3 TA(4 TU)91 TEE*55 TE*104 TOO+069 TO)28 JI(9 JA)30 JU*157 JEE*13 JE)60 JOO+0",
    "63 JO*175 LlG JO;031 YI(2 YA(3 YU*109 YEE+080 YE*141 YOO*21 YO*034 FI(5 FA(6 FU)78 FEE)5 FE",
    "*133 FOO+088 FO*197 FUA*01 Fk+037 Nh)8 Nk)9 NUN+117 Nq*69 Nl*76 HI*041 t*186 HU*040 HEE*96 ",
    "HE)42 HOO+140 HO*083 HEEI,128 HOOU,053 Hh+130 Hk+087 HUN*52 Hq+193 Hl+046 HUk+90 NGGI+43 NG",
    "GA+82 NGGU,115 NGGEE,46 NGGE+56 NGGOO,20 NGGO+59 NGGAA,27 NGGUA.086 LlG NGGE=106 LlG NGGOO=",
    "83 LlG NGGO<55 GI)11 GA)68 GU)90 GEE*66 GUEI*7 GUk+84 NGq,057 NGl,177 NGUk.068 PI)99 PA)50 ",
    "PU)81 PEE*51 PE*102 POO+066 PO*145 MBI+062 MBA+122 MBU+047 MBEE,188 MBEE,072 MBE+172 MBOO*4",
    " MBO*87 MBUU+61 LlG MBE;05 LlG MBOO<42 LlG MBO;32 KPI+092 KPA*74 KPU*44 KPEE,108 KPE*12 KPO",
    "O+58 KPO*24 GBI+056 GBA+148 GBU+093 GBEE,107 GBE+071 GBOO*0 GBO+171 z)23 NDI)9 NDA)5 NDU*91",
    " NDEE+19 NDE+067 NDOO*4 NDO+152 NJA*92 NJU*49 NJEE+34 NJOO+82 VI(5 VA)51 VU)73 VEE+085 VE*1",
    "44 VOO+077 VO*164 NYh,058 NYk,170 NYUN,098 NYq+60 NYl!!_DIGIylE&TWO%HvE)FOUR&IVE(SIX%EVq)Ef",
    ")NhE:COMBhhG NUMBj TEqS&NS(HUNDvDS,xOUSkDS,q xOUSkDS=HUNDRpxOUSkDS^MILLIlS"]),
   (125184,
   ["!ADLAM caeIF(DAeI)LAAM(MIIM(BA%ShNYIIYHE:PE%BHE&z%E$FA%I$O$Dt&YHE&WAW&NUN&KAF&YA%U$JIIM(CHI",
    "&t%QAAF(GA%NYA&TU%Nt&VA%Kt&GBE&Ze&KPO&St_SMeaeIF(DAeI)LAAM(MIIM(BA%ShNYIIYHE:PE%BHE&z%E$FA%",
    "I$O$Dt&YHE&WAW&NUN&KAF&YA%U$JIIM(CHI&t%QAAF(GA%NYA&TU%Nt&VA%Kt&GBE&Ze&KPO&St]eIF iNGxqj?VrE",
    "L iNGxqj]GEMhAsl MdK?tMZA)ClSlkyMODIFIj_GEMhATuClSlkyMODIFIj+~NUKTA(ASeIZAsl MdK!!!!^DIGIyZ",
    "jO(lE&TWO%HvE)FOUR&IVE(SIX%EVq)Ef)NhE!!!!:hIse EXCLAMAsl MdK]QUESsl MdK"]),
   (126065,
   ["!hDICmIYAQ NUMBj lE&TWO%HvE)FOUR&IVE(SIX%EVq)Ef)NhE(Tq%WqTY)HIRTY*FORTY(IFTY)SIXTY(EVqTY+Ef",
    "Y*NhETY*luHUNDvD;TWO HUNDvD:HvuHUNDvD=FOUR HUNDvD;IVuHUNDvD<SIX HUNDvD:EVq HUNDvD=Ef HUNDvD",
    "=NhuHUNDvD<luxOUSkD<TWO xOUSkD;HvuxOUSkD>FOUR xOUSkD<IVuxOUSkD=SIX xOUSkD;EVq xOUSkD>Ef xOU",
    "SkD>NhuxOUSkD=Tq xOUSkD;WqTY xOUSkD>HIRTY xOUSkD?FORTY xOUSkD=IFTY xOUSkD>SIXTY xOUSkD=EVqT",
    "Y xOUSkD]EfY xOUSkD?NhETY xOUSkD?LAKH!k=LAKH MdK.NUMBj KdOR!k+PvFIXplE&TWO%HvE)FOUR&IVE(SIX",
    "%EVq)Ef)NhE!~PLACEHOLDj;FzCsl luQUdTj+HeF,xvuQUdTjS&~RUPEuMdK:NUMBj eTjNATulE&TWO%q xOUSkD.",
    "~eTjNATuLAKH MdK"]),
   (126209,
   ["!OTTOMkmIYAQ NUMBj lE&TWO%HvE)FOUR&IVE(SIX%EVq)Ef)NhE(Tq%WqTY)HIRTY*FORTY(IFTY)SIXTY(EVqTY+",
    "EfY*NhETY*luHUNDvD;TWO HUNDvD:HvuHUNDvD=FOUR HUNDvD;IVuHUNDvD<SIX HUNDvD:EVq HUNDvD=Ef HUND",
    "vD=NhuHUNDvD<luxOUSkD<TWO xOUSkD;HvuxOUSkD>FOUR xOUSkD<IVuxOUSkD=SIX xOUSkD;EVq xOUSkD>Ef x",
    "OUSkD>NhuxOUSkD=Tq xOUSkD;WqTY xOUSkD>HIRTY xOUSkD?FORTY xOUSkD=IFTY xOUSkD>SIXTY xOUSkD=EV",
    "qTY xOUSkD]EfY xOUSkD?NhETY xOUSkD%~MdzTk,eTjNATuNUMBj TWO%HvE)FOUR&IVE(SIX%EVq)Ef)NhE(Tq&F",
    "OUR HUNDvD<SIX HUNDvD;TWO xOUSkD;q xOUSkD.~FzCsl luHeF(SIXx"]),
   (126464,
   ["!dABIC MAxEMAsCe eEF(BEH&JEEM(De!&WAW&ZAh(tH&TAH&YEH&KAF&LAM&MEEM(NOl(SEq(Ah&FEH&SAD&QAF&vH",
    "&SHEq)TEH%HEH(KtH(xe(DAD&ZAH&Gth)DOTiSS BEH&NOl(FEH&QAF!;hIse BEH&JEEM!(HEH!!%AH!&YEH&KAF&L",
    "AM&MEEM(NOl(SEq(Ah&FEH&SAD&QAF!&SHEq)TEH%HEH(KtH!(DAD!&Gth!!!!!!=TAIiD JEEM!!!!(tH!&YEH!&LA",
    "M!&NOl(SEq(Ah!&SAD&QAF!&SHEq!!)KtH!(DAD!&Gth!)DOTiSS NOl!(QAF!_STvTCHpBEH&JEEM!(HEH!!%AH&TA",
    "H&YEH&KAF!&MEEM(NOl(SEq(Ah&FEH&SAD&QAF!&SHEq)TEH%HEH(KtH!(DAD&ZAH&Gth)DOTiSS BEH!&FEH!$~LOO",
    "PpeEF(BEH&JEEM(De&HEH&WAW&ZAh(tH&TAH&YEH!&LAM&MEEM(NOl(SEq(Ah&FEH&SAD&QAF&vH&SHEq)TEH%HEH(K",
    "tH(xe(DAD&ZAH&Gth!!!!!<DOUBi-STRUCK BEH&JEEM(De!&WAW&ZAh(tH&TAH&YEH!&LAM&MEEM(NOl(SEq(Ah&FE",
    "H&SAD&QAF&vH&SHEq)TEH%HEH(KtH(xe(DAD&ZAH&Gth"]),
   (126704, ["!dABIC MAxEMAsCe OPjATOR MEEMbtHbTATWEEL*~tHbDe"]),
   (126976,
   ["!MAHJlG si EASyWhD.SOUx WhD:WESyWhD.NORx WhD:RpDzGl:Gvq DzGl<WHITuDzGl<luOF CHdACTjS^TWO OF",
    " CHdACTjS]HvuOF CHdACTjS|FOUR OF CHdACTjS^IVuOF CHdACTjS_SIX OF CHdACTjS]EVq OF CHdACTjS|Ef",
    " OF CHdACTjS|NhuOF CHdACTjS_luOF BAMBOOS>TWO OF BAMBOOS=HvuOF BAMBOOS]FOUR OF BAMBOOS>IVuOF",
    " BAMBOOS?SIX OF BAMBOOS=EVq OF BAMBOOS]Ef OF BAMBOOS]NhuOF BAMBOOS?luOF CIRCiS>TWO OF CIRCi",
    "S=HvuOF CIRCiS]FOUR OF CIRCiS>IVuOF CIRCiS?SIX OF CIRCiS=EVq OF CIRCiS]Ef OF CIRCiS]NhuOF C",
    "IRCiS?PLUM(ORCHID*BAMBOO*CHRYSkxEMUM=SPRhG)UMMj*AUTUMN*WhTj*JOKj)BACK!!!!^DOMhO si HORIZlTe",
    " BACK)-00-00$1$2$3$4$5$6(1-00$1$2$3$4$5$6(2-00$1$2$3$4$5$6(3-00$1$2$3$4$5$6(4-00$1$2$3$4$5$",
    "6(5-00$1$2$3$4$5$6(6-00$1$2$3$4$5$6]VjsCe BACK)-00-00$1$2$3$4$5$6(1-00$1$2$3$4$5$6(2-00$1$2",
    "$3$4$5$6(3-00$1$2$3$4$5$6(4-00$1$2$3$4$5$6(5-00$1$2$3$4$5$6(6-00$1$2$3$4$5$6!!!!!!!!!!!!*~P",
    "LAYhG CdD BACK(ACuOFmPADES=TWO OFmPADES<HvuOFmPADES?FOUR OFmPADES=IVuOFmPADES>SIX OFmPADES<",
    "EVq OFmPADES?Ef OFmPADES?NhuOFmPADES>Tq OFmPADES=JACK OFmPADES>KNf OFmPADES]QUEq OFmPADES?K",
    "hG OFmPADES!!>ACuOF HEdTS=TWO OF HEdTS<HvuOF HEdTS?FOUR OF HEdTS=IVuOF HEdTS>SIX OF HEdTS<E",
    "Vq OF HEdTS?Ef OF HEdTS?NhuOF HEdTS>Tq OF HEdTS=JACK OF HEdTS>KNf OF HEdTS]QUEq OF HEdTS?Kh",
    "G OF HEdTS>RpJOKj!.ACuOF DIAMlDS?TWO OF DIAMlDS>HvuOF DIAMlDS^FOUR OF DIAMlDS?IVuOF DIAMlDS",
    "]SIX OF DIAMlDS>EVq OF DIAMlDS^Ef OF DIAMlDS^NhuOF DIAMlDS]Tq OF DIAMlDS?JACK OF DIAMlDS]KN",
    "f OF DIAMlDS_QUEq OF DIAMlDS^KhG OF DIAMlDS]BLACK JOKj!;ACuOF CLUBS<TWO OF CLUBS;HvuOF CLUB",
    "S>FOUR OF CLUBS<IVuOF CLUBS=SIX OF CLUBS;EVq OF CLUBS>Ef OF CLUBS>NhuOF CLUBS=Tq OF CLUBS<J",
    "ACK OF CLUBS=KNf OF CLUBS?QUEq OF CLUBS>KhG OF CLUBS=WHITuJOKj;FOOL(TRUMP-1$2$3$4$5$6$7$8$9",
    "$10$1$2$3$4$5$6$7$8$9%20$1!!!!!!!!!!$~DIGIyZjO FULLmTOP.COMMA:luCOMMA.TWO COMMA,HvuCOMMA;FO",
    "UR COMMA.IVuCOMMA:SIX COMMA,EVq COMMA;Ef COMMA;NhuCOMMA>NGBAyCIRCiDmkS-SjIF DIGIyZjO.~NEGAs",
    "VuCIRCiDmkS-SjIF DIGIyZjO*~~CIRCiD ZjObSLASH?ksCLOCKWISudRr|DOLLdmwbOVjLAID BACKSLASH&~~Pdq",
    "xESIZpLATh caA$B$C$D$E$F$G$H$I$J$K$L$M$N$O$P$Q$R$S$T$U$V$W$X$Y$Z]~TORTOISEmHELL BzCKETpLATh",
    " caS+~~CIRCiD ITeIC LATh caC$R.~CD%WZ.OPYiFTmYMBOL?SQUdpLATh caA$B$C$D$E$F$G$H$I$J$K$L$M$N$",
    "O$P$Q$R$S$T$U$V$W$X$Y$Z%~HV%MV%SD$S%PPV&WC:NEGAsVuCIRCiD LATh caA$B$C$D$E$F$G$H$I$J$K$L$M$N",
    "$O$P$Q$R$S$T$U$V$W$X$Y$Z|~zISpMCmw*Dmw*Rmw>CIRCiD CC$bOVjLAID BACKSLASH)~HUMk FIGUv!~NEGAsV",
    "EmQUdpLATh caA$B$C$D$E$F$G$H$I$J$K$L$M$N$O$P$Q$R$S$T$U$V$W$X$Y$Z|~CROSSpNEGAsVEmQUdpLATh ca",
    "P+~~NEGAsVEmQUdpIC%PA%SA%AB%WC|SQUduDJ&D CL$OOL(FvE(ID%NEW%G%OK%SOS&UPbEXCLAMAsl MdK(~VS%xv",
    "uD+SEClDmCvq=TWO K)FOUR K*Ef K+FIVuPOhylE>SEVq POhylE?TWqTY-TWO POhyTWO!~SIXTY P+luHUNDRpTW",
    "qTY P!~LAThmMeaD!~HC$DR%I-vS*LOSSiSS,SHV&UHD&VOD;MASK WORKmYMBOL"]),
   (127462,
   ["!vGIle hDICATORmYMBOaA$B$C$D$E$F$G$H$I$J$K$L$M$N$O$P$Q$R$S$T$U$V$W$X$Y$Z>~SQUduHIzGkA HOKA>",
    "D KATAKkA KOKO(SA!!!!!!!!!!!!!;CJK UNIFIpIDEOGzPH-624B(5B57&3CC*~KATAKkA DE;CJK UNIFIpIDEOG",
    "zPH-4E8C(591A(89E3(5929(4EA4(6620(7121(6599(524D&F8C&18D(65B0(521D(7D42&51F(8CA9(58F0&439(6",
    "F14&295&355(4E00$9(904A(5DE6(4E2D(53F3(6307(8D70(6253(7981&A7A(5408(6E80&709$8(7533(5272&5B",
    "6(914D!!!!>~TORTOISEmHELL BzCKETpCJK UNIFIpIDEOGzPH-672C(4E09%8C(5B89(70B9(6253(76D7(52DD(6",
    "557!!!!!!!;~~CIRCiD IDEOGzPH ADVkTAGE,CCEPT!!!!!!!!!!!!!!(~ROUNDEDmYMBOL FOR FU%LU%SHOU(XI%",
    "SHUkGXI,CAI"]),
   (127744,
   ["!CYCLlE+FOGGY)CLOSpUMBvLLA?NfbSTdS]SUNRISuOVj MOUNTAhS?+CITYSCAPuAyDUSK^SUNSEyOVj BUILDhGS$",
    "~zhBr+BRIDGuAyNf?WATj WAVE:VOLCkO+MILKY WAY.Edx GLOBuEUROPE-AFRICA=AMjICAS+SIA-AUSTReIA*~GL",
    "OBEbMjIDIkS!~NEW MOlmYMBOL?WAXhG CvSCqyMOlmYMBOL+~FIRSyQUdTj MOlmYMBOL)~WAXhG GIBBOUS MOlmY",
    "MBOL*~FULL MOlmYMBOL]WkhG GIBBOUS MOlmYMBOL*~LASyQUdTj MOlmYMBOL(~WkhG CvSCqyMOlmYMBOL+~CvS",
    "CqyMOl=NEW MOlbFACE_FIRSyQUdTj MOlbFACE,~LASyQUdTj MOlbFACE+~FULL MOlbFACE|SUNbFACE=GLrhGmT",
    "d<SHOOThGmTd=xjMOMETj;BLACK DROPiT=WHITEmUN!bSMeL CLOUD]BEHhD CLOUD!bzh<~CLOUDbzh(SNr(LfNhG",
    ".TORNADO_FOG&WhD BLrhG FACE^HOyDOG+TACO(BURRITO+CHESTNUT,SEEDLhG,EVjGvq TvE>DECIDUOUS TvE>P",
    "eM TvE.CACTUS*HOyPEPPj:TULIP)CHjRY BLOSSOM>ROSE(HIBISCUS,SUNFLrj.BLOSSOM+Ed OF MAIZE)RICE;H",
    "jB(FOUR iAF CLOVj]MAPi iAF:FeiN iAF;iAF FLUTTjhG h WhD&~MUSHROOM,TOMATO*AUBjGhE.GzPES*MELl)",
    "WATjMELl:TkGjhE.iMl)BkkA*PhEAPPi.RpAPPi.Gvq APPi;PEd$CH)CHjRIES,STzWBjRY:tMBURGj.SLICuOF PI",
    "ZZA>MEAyl BlE<POULTRY iG;RICuCzCKj+BeL.COOKpRICE:URRY kD RICE>STEAMhG BrL<PAGHETs.BvAD)FRqC",
    "H FRIES<ROASTEDmWEEyPOTATO!~DkGO)ODq(SUSHI)FRIEDmHRIMP;ISH CAKEbSWIRL DESw+~SOFyICuCvAM=tVp",
    "ICE:ICuCvAM.DOUGHNUT,COOKIE)HOCOLATuBd<kDY)LOLLIPOP,CUSTdD+HlEY POT.SHORTCAKE.BqTO BOX.POyO",
    "F FOOD;COOKhG+FORK kD KNIFE>TEACUP WIxOUyHkDi$~SAKuBOTTi kD CUP|WhuGLASS:COCKTAIL GLASS>TRO",
    "PICe DRhK>BEj MUG,CLhKhG BEj MUGS_BABY BOTTi;FORK kD KNIFEbPLATE)~BOTTibPOPPhG CORK(~POPCOR",
    "N+RIBBl*WzPPpPvSqT?BIRxDAY CAKE=JACK-O-LkTjN>CHRISTMAS TvE>FAxj CHRISTMAS?IvWORKS$mPdKiR^Be",
    "LOl+PdTY POPPj<ClFETs BeL=TkABATA TvE=CROSSpFLAGS=PhuDECOzsl?JAPkESuDOLLS>CdPmTvAMj=WhD CHI",
    "ME:MOl VIEWhG CjEMlY$~SCHOOLmATCHEL>GzDUAsl CAP>HEdTbsP l xuiFT*~BOUQUEyOF FLrjS_MILITdY ME",
    "De>vMhDj RIBBl?MUSICe KEYBOdDbJACKS+~STUDIO MICROPHlE^iVELmLIDj<ClTROL KNOBS=BEAMpASCqDhG M",
    "USICe NOTES&~DESCqDhG MUSICe NOTES;~FILM FzMES;ADMISSIl sCKETS^CdOUSEL HORSE>FjRIS WHEEL<RO",
    "LiR COASTj>FISHhG POi kD FISH$~MICROPHlE.OVIuCAMjA<ChEMA*HEADPHlE.dsSyPeETTE>TOP tT+CIRCUS ",
    "TqT;sCKET*CLAPPj BOdD=PjFORMhG dTS?VIDEO GAME:DIvCyHIT:SLOyMACHhE<BILLIdDS.GAMuDIE,BrLhG+FL",
    "rj PLAYhG CdDS!~MUSICe NOTE:LsPi MUSICe NOTES%~SAXOPHlE.GUITd*MUSICe KEYBOdD]TRUMPET+VIOLh*",
    "MUSICemCOv=RUNNhGmHIRTbSASH&~TqNIS zCQUEykD BeL&~SKI kDmKI BOOT]BASKETBeL kD HOOP|CHEQUjpFL",
    "AG>SNrBOdDj;RUNNj*SURFj)PORTS MEDe<TROPHY*HORSuzChG<AMjICk FOOTBeL^RUGBY FOOTBeL>SWIMMj+WEf",
    " LIFTj=GOLFj*zChG MOTORCYCi:Cd:CRICKEyBAykD BeL!~VOLiYBeL:FIELD HOCKEYmsCK kD BeL+~ICuHOCKE",
    "YmsCK kD PUCK)~TABi TqNIS PADDi kD BeL,~SNr CAPPpMOUNTAh!~CAMPhG+BEACHbUMBvLLA_UILDhG ClSTR",
    "UCsl$~HOUSuBUILDhGS?CITYSCAPE.DjELICyHOUSuBUILDhG&~CLASSICe BUILDhG_DESjT! ISLkD=NAsle PdK=",
    "STADIUM+HOUSuBUILDhG,WIx GdDq^OFFICuBUILDhG?JAPkESuPOSyOFFICE!~EUROPEk POSyOFFICE!~HOSPITe,",
    "BkK(AUTOMATpTELiR MACHhE(~HOTEL)LOVuHOTEL:ClVqIqCEmTOv^SCHOOL*DEPdTMqTmTOv]FACTORY+IZAKAYA ",
    "LkTjN?JAPkESuCASTi?EUROPEk CASTi?WHITuPqNkT=BLACK PqNkT=WAVhG WHITuFLAG:BLACK FLAG^ROSETTE+",
    "BLACK ROSETTE=LABEL)BADMhTl zCQUEykDmHUTTiCOCK<~r kD dRr=AMPHOz+EMOJI MODIFIj FITZPATRICK T",
    "YPE-1-2&3$4$5$6=~zT&MOUSE)OX%WATj BUFFeO=Cr&sGj)iOPdD+zBBIT*CAT&DzGl*CROCODIi.WHeE)SNAIL%KE",
    ")HORSE)zM&GOAT(SHEEP)MlKEY*ROOSTj+CHICKq+DOG&PIG&BOd(EiPHkT,OCTOPUS+SPIRemHELL<BUG&kT&HlEYB",
    "EE,LADY BEETi;FISH(TROPICe FISH=BLrFISH,TURTi*tTCHhG CHICK>BABY CHICK:FRlT-FAChG BABY CHICK",
    "&~BIRD(PqGUh+KOeA)POODi*DROMEDdY CAMEL?BACTRIk CAMEL>DOLPHh+MOUSuFACE:Cr FACE,sGj FACE:zBBI",
    "yFACE;CAyFACE,DzGl FACE;SPOUThG WHeE>HORSuFACE:MlKEY FACE;DOG FACE,PIG FACE,FROG FACE.tMSTj",
    " FACE<WOLF FACE.BEd FACE.PkDA FACE.IG NOSE+AW PRhTS:CHIPMUNK,EYES$%d&NOSE(MOUx)TlGUE*WHITuU",
    "P POhThG BACKHkD hDEX*~DrN POhThG BACKHkD hDEX,~iFyPOhThG BACKHkD hDEX,~Rf POhThG BACKHkD h",
    "DEX?~FISTpHkDmw]WAVhG HkDmw]OK HkDmw<xUMBS UPmw+DrNmw]CLAPPhG HkDSmw|OPq HkDSmw?CRrN)WOMkS ",
    "tT:EYEGLASSES:NECKsE+T-SHIRT+JEkS)DvSS)KIMlO*BIKhI*WOMkS CLOxES>PURSE)HkDBAG+POUCH)MkSmHOE.",
    "AxisCmHOE=HIGH-HEEiDmHOE]WOMkSmkDe*BOOTS<FOOTPRhTS:BUSyhmILHOUETTE>S hmILHOUETTE_OY&GIRL(Mk",
    "&WOMk)FAMILY*Mk kD WOMk HOLDhG HkDS+~TWO Mq HOLDhG HkDS^WOMq HOLDhG HkDS&~POLICuOFFICj>WOMk",
    "bBUNNY EdS$~BRIDEbVEIL?PjSlbBLlD tIR%~MkbGUA PI MAO:TURBk?OLDj Mk&WOMk;BABY(ClSTRUCsl WORKj",
    "|PRhCESS,JAPkESuOGv(GOBLh?GHOST)BABY kGEL:EXTzTjvSTRIe eIq%~eIq MlSTj=IMP&SKULL)hFORMAsl DE",
    "SK PjSl&~GUdDSMk.DkCj*LIPSsCK,NAIL POLISH;FACuMASSAGE<tIRCUT+BdBj POi;SYRhGE+PILL(KISS MdK.",
    "LOVuiTTj;RhG(GEMmTlE.KISS(BOUQUET+COUPibHEdT^WEDDhG+BEAThG HEdT<ROKq HEdT<TWO HEdTS:SPdKLhG",
    " HEdT?GRrhG HEdT=HEdTbdRr]BLUuHEdT:Gvq HEdT;YELLr HEdT<PURPi HEdT<HEdTbRIBBl^vVOLVhG HEdTS]",
    "HEdyDECOzsl]DIAMlDmtPEbA DOyhSIDE;~EiCTRIC Lf BULB|kGjmYMBOL<BOMB(SiEPhGmYMBOL?COLLISIlmYMB",
    "OL]SPLASHhGmWEATmYMBOL%~DROPiT*ASHmYMBOL;PIi OF POO;FiXpBICEPS=DIZZYmYMBOL<SPEECH BeLOl>xOU",
    "GHyBeLOl?WHITuFLrj<HUNDRpPOhTSmYMBOL$~MlEY BAG.CURRqCY EXCHkGE^HEAVY DOLLdmw^CvDIyCdD;BkKNO",
    "TEbYqmw,DOLLdmw;EUROmw.POUNDmw(~MlEYbWhGS]CHdTbUPWdDS TRqD kD Yqmw^~SEAT(PjSle COMPUTj^BRIE",
    "FCASE.MhIDISC,FLOPPY DISK;OPsCe DISC<DVD&FIi FOLDj;OPq FIi FOLDj]PAGEbCURL.FAChG UP>CeqDd,T",
    "Ed-OFF CeqDd^CdD hDEX.HdTbUPWdDS TRqD=DrNWdDS TRqD*~Bd CHdT.CLIPBOdD.PUSHPh+ROUND PUSHPh=PA",
    "PjCLIP.STzf RUiR>TRIkGULd RUiR]BOOKMdK TABS=iDGj*NOTEBOOK!bDECOzsVuCOVj:~CLOSpBOOK;OPq BOOK",
    ".Gvq BOOK:BLUuBOOK.ORkGuBOOK;BOOKS)NAMuBADGE:SCROLL*MEMO(TEiPHluvCEIVj_PAGj)FAX MACHhE;SATE",
    "LLITukTqNA^PUBLIC ADDvSS LOUDSPEAKj*~CHEjhG MEGAPHlE_OUTBOX TzY;hBOX TzY:PACKAGE+E-MAILmYMB",
    "OL=hCOMhG qVELOPE^qVELOPEbDrNWdDS dRrn?~CLOSpMAILBOXbLrjpFLAG<zISpFLAG;~OPq MAILBOXbzISpFLA",
    "G;LrjpFLAG:~POSTBOX&e HORN;NEWSPAPj.MOBIi PHlE!bRfWdDS dRr AyiFT%~~VIBzsl MODE>MOBIi PHluOF",
    "F]NO MOBIi PHlES]kTqNAbBdS^CAMjA!bFLASH^VIDEO CAMjA<TEiVISIl:zDIO)VIDEOCASSETTE=FILM PROJEC",
    "TOR>PORTABimTjEO>zYj BEADS<TWISTpRfWdDS dRrS)~CLOCKWISuRfWdDS kD iFTWdDS OPq CIRCi dRrS!bCI",
    "RCiD luOVjLAY,~~~DrNWdDS kD UPWdDS OPq CIRCi dRrS:~~ksCLOCKWISuDrNWdDS kD UPWdDS OPq CIRCi ",
    "dRrS>~~Lr BRfNESSmYMBOL$~HIGH BRfNESSmYMBOL%~SPEAKjbCkCELLAslmTROKE)~!blEmOUND WAVE>xvEmOUN",
    "D WAVES:~BATTjY+EiCTRIC PLUG=iFT-POhThG MAGNIFYhG GLASS:~Rf-POhThG MAGNIFYhG GLASS;~LOCKbhK",
    " Pq^CLOSpLOCKbKEY!~KEY&LOCK(OPq LOCK.BELL!bCkCELLAslmTROKE,~OOKMdK,LhKmYMBOL;zDIO BUTTl<BAC",
    "KbiFTWdDS dRrn;~qDbiFTWdDS dRrn:~lbEXCLAMAsl MdKbiFyRf dRrn<~~SOlbRfWdDS dRrn<~TOPbUPWdDS d",
    "Rrn,~NO luUNDj EfEqmYMBOL,~KEYCAP Tq:hPUTmYMBOL FOR LATh cL iTTjS?SMeL iTTjS|NUMBjS+SYMBOLS",
    "+LATh iTTjS:~FIv(EiCTRIC TORCH>WRqCH*tMMj*NUykD BOLT<HOCHO)PISTOL*MICROSCOPE:TEiSCOPE.CRYST",
    "e BeL<SIX POhTEDmTdbMIDDi DOT<~JAPkESEmYMBOL FOR BEGhNj,~TRIDqyEMBiM>BLACKmQUduBUTTl|WHITEm",
    "QUduBUTTl|LdGuRpCIRCi:BLUuCIRCi;ORkGuDIAMlD>BLUuDIAMlD_SMeL ORkGuDIAMlD>BLUuDIAMlD_UP-POhTh",
    "G RpTRIkGi(~DrN-POhThG RpTRIkGi*~UP-POhThGmMeL RpTRIkGi:~DrN-POhThGmMeL RpTRIkGi<~Lrj RfmtD",
    "rpWHITuCIRCi=~UPPj RfmtDrpWHITuCIRCi=~CIRCiD CROSS POMMEE|ROSS POMMEEbHeF-CIRCi BELr&~<NOTC",
    "HpiFTmEMICIRCibxvuDOTS;~RfmEMICIRCibxvuDOTS!~~SYMBOL FOR MdKS CtPTj(~WHITuLATh CROSS^HEAVY ",
    "LATh CROSS^CELsC CROSS<OMmYMBOL.DOVuOF PEACE=KAABA)MOSQUE*SYNAGOGUE.MqOzHbNhuBRkCHES*~BrL O",
    "F HYGIEIA?CLOCK FACuluOCLOCK:TWO OCLOCK.HvuOCLOCK<FOUR OCLOCK:IVuOCLOCK;SIX OCLOCK.EVq OCLO",
    "CK<Ef OCLOCK<NhuOCLOCK;Tq OCLOCK:EiVq OCLOCK=TWELVuOCLOCK=lE-xIRTY:TWO-xIRTY.HvE-xIRTY<FOUR",
    "-xIRTY:IVE-xIRTY;SIX-xIRTY.EVq-xIRTY<Ef-xIRTY<NhE-xIRTY;Tq-xIRTY:EiVq-xIRTY=TWELVE-xIRTY(~R",
    "fmPEAKj!blEmOUND WAVE>xvEmOUND WAVES]~BULLHORN!bSOUND WAVES)~RhGhG BELL<BOOK(CkDi*MkTELPIEC",
    "uCLOCK^BLACKmKULL kD CROSSBlES*~NO PIzCY.HOi(Mk h BUShESSmUIyiVITAThG;~SiUx ORmPY=DdKmUNGLA",
    "SSES?SPIDj! WEB:JOYSsCK,Mk DkChG;iFyHkD TEiPHluvCEIVj,~TEiPHluvCEIVjbPAGE,~Rf HkD TEiPHluvC",
    "EIVj.~WHITuTOUCHTluTEiPHlE)~BLACK TOUCHTluTEiPHlE)~TEiPHlul TOP OF MODEM)~CLAMSHELL MOBIi P",
    "HlE%~BACK OF qVELOPE]STAMPpqVELOPE]qVELOPEbLfNhG&~FLYhG qVELOPE?Pq OVjmTAMPpqVELOPE)~LhKpPA",
    "PjCLIPS^BLACK PUSHPh=Lrj iFyPqCIL*BeLPOhyPq=FOUNTAh Pq<PAhTBRUSH:CzYl]EFyWRIThG HkD^TURNpOK",
    " HkDmw|zISpHkDbFhGjSmPLAYED;~EVjSpzISpHkDbFhGjSmPLAYED<~xUMBS UPmw+DrNmw]VICTORY HkD<HkDbMI",
    "DDi FhGj EXTqDED!~~AISpHkDbPdyBETWEq MIDDi kD RhG FhGjS=~~WHITuDrN POhThG iFyHkD hDEX?~SIDE",
    "WAYS WHITuiFyPOhThG hDEX|Rf POhThG hDEX*~BLACK iFyPOhThG hDEX|Rf POhThG hDEX?~BLACK iFyPOhT",
    "hG BACKHkD hDEX,~Rf POhThG BACKHkD hDEX?~SIDEWAYS WHITuUP POhThG hDEX^DrN POhThG hDEX)~BLAC",
    "K UP POhThG hDEX^DrN POhThG hDEX>~BLACK UP POhThG BACKHkD hDEX*~DrN POhThG BACKHkD hDEX,~HE",
    "dT;DESKTOP COMPUTj]KEYBOdD kD MOUSE_xvuNETWORKpCOMPUTjS)~PRhTj*OCKEyCeCULATOR^BLACK HdDmHEL",
    "L FLOPPY DISK,~WHITuHdDmHELL FLOPPY DISK,~SOFTmHELL FLOPPY DISK%~TAPuCdTRIDGE>WIRpKEYBOdD>l",
    "uBUTTl MOUSE]TWO BUTTl MOUSE?HvuBUTTl MOUSE^zCKBeL.OLD PjSle COMPUTj$~HdD DISK.SCvq*PRhTj I",
    "Cl<FAX ICl,OPsCe DISC ICl^DOCUMqTbTEXT! kD PICTUv]PICTUv$~FzMEbPICTUv+siS)k X?BLACK FOLDj<F",
    "OLDj*OPq FOLDj;CdD hDEX DIVIDjS>FIi BOX=FIi CABhET<EMPTY NOTE! PAGE%D>NOTE! PAGE%D,EMPTY DO",
    "CUMqT,PAGE!S;DOCUMqT,PAGE!S)WASTEBASKET;SPIRe NOTuPAD,CeqDd PAD|DESKTOP WhDr>MhIMIZE+AXIMIZ",
    "E,OVjLAP+CLOCKWISuRf kD iFTmEMICIRCi dRrS$~~kCELLAsl X>hCvASuFlTmIZEmYMBOL)~DECvASuFlTmIZEm",
    "YMBOL)~COMPvSSIl;OLD KEY+ROLiD-UP NEWSPAPj|PAGEbCIRCiD TEXT%~STOCK CHdT;DAGGj KNIFE<LIPS(SP",
    "EAKhG HEAD hmILHOUETTE+~xvuzYSn)BELr)iFT(Rf]iFTmPEECH BUBBi_RfmPEECH BUBBi|TWOmPEECH BUBBiS",
    "^HvEmPEECH BUBBiS!~iFyxOUGHyBUBBi|Rf xOUGHyBUBBi!~iFykGj BUBBi^Rf kGj BUBBi_MOOD BUBBi;LfNh",
    "G MOOD BUBBi+>BeLOyBOXbBeLOT?SCRIPyX,BOXbSCRIPyX?LDmCRIPyX;XbBOLDmCRIPyX.~Lf CHECK MdK]BeLO",
    "yBOXbBOLD CHECK*~WORLD MAP.MOUNyFUJI:TOKYO Trj;STATUuOF LIBjTY]ILHOUETTuOF JAPk|MOYAI)GRhNh",
    "G FACE!bSMILhG EYES;~FACEbTEdS OF JOY%~SMILhG FACEbOPq MOUx! kDmMILhG EYES<COLDmWEAT:TfLY-C",
    "LOSpEYES>~HeO&ORNS&~WhKhG FACE<SMILhG FACEbSMILhG EYES:~FACEmAVOURhG DELICIOUS FOOD.~vLIEVp",
    "FACE=SMILhG FACEbHEdT-StPpEYES^SUNGLASSES)~RKhG FACE=NEUTRe FACE<EXPvSSIliSS FACE|UNAMUSpFA",
    "CE=FACEbCOLDmWEAT!~PqSIVuFACE<ClFUSpFACE.OUNDpFACE?KISShG FACE<FACuxRrhG A KISS!~KISShG FAC",
    "EbSMILhG EYES<CLOSpEYES.~FACEbSTUCK-OUyTlGUE! kD WhKhG EYE;TfLY-CLOSpEYES:~~DISAPPOhTpFACE^",
    "WORRIpFACE<kGRY FACE:POUThG FACE<CRYhG FACE;PjSEVjhG FACE]FACEbLOOK OF TRIUMPH)~DISAPPOhTpB",
    "UyvLIEVpFACE:~FRrNhG FACEbOPq MOUx.~kGUISHpFACE>FEdFUL FACE<WEdY FACE:SiEPY FACE;sRpFACE:GR",
    "IMAChG FACE>LOUDLY CRYhG FACE_FACEbOPq MOUx!~HUSHpFACE;FACEbOPq MOUx kD COLDmWEAT:~SCvAMhG ",
    "h FEd%~ASTlISHpFACE?FLUSHpFACE<SiEPhG FACE=DIZZY FACE:FACuWIxOUyMOUx. MEDICe MASK%~GRhNhG C",
    "AyFACEbSMILhG EYES?~CAyFACEbTEdS OF JOY*~SMILhG CAyFACEbOPq MOUx:HEdT-StPpEYES|~CAyFACEbWRY",
    "mMIi&~KISShG CAyFACEbCLOSpEYES=~POUThG CAyFACE]CRYhG CAyFACE?WEdY CAyFACE>SLfLY FRrNhG FACE",
    "=SMILhG FACE$~UPSIDE-DrN FACE]FACEbROLLhG EYES<NO GOOD GESTUv?OK GESTUv!~PjSl BrhG DEEPLY!~",
    "SEE-NO-EVIL MlKEY_HEd-NO-EVIL MlKEY|SPEAK-NO-EVIL MlKEY!~tPPY PjSl zIShG luHkD.~PjSl zIShG ",
    "BOx HkDS h CEiBzsl=~FRrNhG,WIx POUThG FACE<FOLDpHkDS(~NORx WESyPOhThG iAF(~SOUx WESyPOhThG ",
    "iAF(~NORx EASyPOhThG iAF(~SOUx EASyPOhThG iAF(~TURNpNORx WESyPOhThG iAF(~SOUx WESyPOhThG iA",
    "F(~NORx EASyPOhThG iAF(~SOUx EASyPOhThG iAF;~NORx WESyPOhThG VhuiAF.~SOUx WESyPOhThG VhuiAF",
    ".~NORx EASyPOhThG VhuiAF.~SOUx EASyPOhThG VhuiAF.~HEAVY NORx WESyPOhThG VhuiAF.~SOUx WESyPO",
    "hThG VhuiAF.~NORx EASyPOhThG VhuiAF.~SOUx EASyPOhThG VhuiAF?~NORx WESyPOhThG BUD&~SOUx WESy",
    "POhThG BUD&~NORx EASyPOhThG BUD&~SOUx EASyPOhThG BUD&~HEAVY NORx WESyPOhThG BUD&~SOUx WESyP",
    "OhThG BUD&~NORx EASyPOhThG BUD&~SOUx EASyPOhThG BUD,~OLLr QUILTmQUduORNAMqT! h BLACKmQUdE(~",
    "~SOLID QUILTmQUduORNAMqT! h BLACKmQUdE&~~iFTWdDS ROCKET]UPWdDS ROCKET>RfWdDS ROCKET^DrNWdDS",
    " ROCKET]SCRIPyLIGATURuEyORNAMqT+~HEAVYmCRIPyLIGATURuEyORNAMqT=~LIGATURuOPq EyORNAMqT)~HEAVY",
    " LIGATURuOPq EyORNAMqT)~AMPjSkD ORNAMqT(~SWASH AMPjSkD ORNAMqT&~kS-SjIF HEAVY DOUBi TURNpCO",
    "MMA QUOTAsl MdK ORNAMqT]~COMMA QUOTAsl MdK ORNAMqT]~Lr DOUBi COMMA QUOTAsl MdK ORNAMqT^~~HE",
    "AVY hTjROBkG ORNAMqT*~SkS-SjIF hTjROBkG ORNAMqT;~HEAVYmkS-SjIF hTjROBkG ORNAMqT^~VjY HEAVYm",
    "OLIDUS+vVjSEmOLIDUS*~CHECKj BOdD=vVjSuCHECKj BOdD!~OCKET*HELICOPTj:STEAM LOCOMOsVE]zILWAY C",
    "d;HIGH-SPEpTzh!bBULiyNOSE=~Tzh)METRO)Lf zIL:STAsl+TzM! Cd,BUS&lCOMhG BUS<TROLiYBUS:BUSmTOP,",
    "MhIBUS+AMBULkCE.FIRuqGhE;POLICuCd:lCOMhG POLICuCd|TAXI(lCOMhG TAXI=AUTOMOBIi:lCOMhG AUTOMOB",
    "Ii|vCvAsle VEHICi!~DELIVjY TRUCK>dsCULATpLORRY^TzCTOR+MlOzIL*UNTAh zILWAY]SUSPqSIl zILWAY_M",
    "OUNTAh CABiWAY^AjIe TzMWAY>SHIP(RrBOAT+SPEEDBOAT.HORIZlTe TzFFIC Lf(~VjsCe TzFFIC Lf%~ClSTR",
    "UCslmw^POLICuCdS vVOLVhG Lf+~TRIkGULd FLAG l POST&~DOOR(NO qTRYmw=SMOKhGmYMBOL>NOmMOKhGmYMB",
    "OL^PUyLITTj h ITS PLACEmYMBOL:~DO NOyLITTjmYMBOL!~POTABi WATjmYMBOL!~Nl-POTABi WATjmYMBOL(~",
    "BICYCi+NO BICYCiS;BICYCLIST.MOUNTAh BICYCLIST_PEDESTRIk:NO PEDESTRIkS>CHILDRq CROSShG^MqSmY",
    "MBOL;WOMqSmYMBOL=vSTROOM,BABYmYMBOL;TOIiT*WATj CLOSET<SHrj*BAx!TUB+PASSPORyClTROL]CUSTOMS+B",
    "AGGAGuCLAIM=iFyLUGGAGE<TRIkGibROUNDpCORNjS.~PROHIBITEDmw?CIRCiD hFORMAslmOURCE*~BOYSmYMBOL;",
    "GIRLSmYMBOL<COUCH kD LAMP>SiEPhG ACCOMMODAsl$~HOPPhG BAGS=BELLHOP BELL:D&PLACuOF WORSHIP]OC",
    "TAGlemw>SHOPPhG TROLiY?TUPA)PAGODA*HhDU TEMPi;UT&EiVATOR!!!!!,PLAYGROUNDmLIDE]WHEEL)RhG BUO",
    "Y.tMMj kD WRqCH^SHIELD*OIL DRUM,MOTORWAY,zILWAY TzCK=MOTOR BOAT:UP-POhThG MILITdY AIRPLkE^A",
    "IRPLkE,SMeL AIRPLkE*~SMeL AIRPLkE>NORxEAST-POhThG AIRPLkE+~AIRPLkuDEPdTUv.dRIVhG!!!^SATELLI",
    "TE.lCOMhG FIRuqGhE!~DIESEL LOCOMOsVE^PASSqGjmHIP>SCOOTj+MOTORmCOOTj=CkOE)SiD(FLYhGmAUCj=SKA",
    "TEBOdD:AUTO RICKStW=PICKUP TRUCK<ROLiRmKATE!!!<eCHEMICemYMBOL FOR QUhTESSqCE<AIR&FIv(Edx)WA",
    "Tj)AQUAFORsS* vGIA!-2+VITAE!-2<VhEGd!-2$3.SULFUR*PHILOSOPHjSmULFUR|BLACKmULFUR<MjCURYmUBLIM",
    "ATE!-2$3|ChNABd,SeT(NITv)VITRIOL!-2.ROCKmeT!-2;GOLD(SILVj*IRl Ov!-2:CROCUS OF IRl>vGULUS OF",
    " IRl?COPPj Ov:IRl-COPPj Ov?SUBLIMATuOF COPPj|CROCUS OF COPPj!-2^OPPj ksMlIATE_SeyOF COPPj k",
    "sMlIATE)~UBLIMATuOFmeyOF COPPj+~VjDIGRIS.Th Ov+iAD Ov,ksMlY Ov<SUBLIMATuOF ksMlY!~eyOF ksMl",
    "Y?UBLIMATuOFmeyOF ksMlY.~VhEGd OF ksMlY|vGULUS OF ksMlY!-2>!-2$3$4.eKeI!-2,MdCASITE.Se-AMMl",
    "IAC<dSqIC+veGd!-2.AURIPIGMqT;BISMUx Ov;TdTd!-2,QUICK LIME:BOzX!-2$3+eUM(OIL&SPIRIT*ThCTUv,G",
    "UM&WAX&PrDj*CeX(TUTTY)CAPUyMORTUUM=SCEPTj OF JOVE?CADUCEUS,TRIDqT+STdRpTRIDqT?LODESTlE.SOAP",
    "(URhE)HORSuDUNG:ASHES)POyASHES.BRICK)PrDjpBRICK>AMeGAM+STzTUMmUPjmTzTUM!-2%~UBLIMAsl;PvCIPI",
    "TATE;DISsLL(SOLVE!-2:PURIFY(TvFACsl<CRUCIBi!-2$3$4$5:eEMBIC+BAx OF MdY(VAPOURS?vTORT*HOUR(N",
    "f)DAY-Nf.Mlx)HeF DzM(OUNCE!!!!!!!!!!!!<~BLACK iFT-POhThG ISOSCEiS Rf TRIkGi_~UP-POhThG ISOS",
    "CEiS Rf TRIkGi]~Rf-POhThG ISOSCEiS Rf TRIkGi|~DrN-POhThG ISOSCEiS Rf TRIkGi_~SLfLYmMeL CIRC",
    "i+~MEDIUM BOLD WHITuCIRCi(~BOLD WHITuCIRCi^HEAVY WHITuCIRCi_VjY HEAVY WHITuCIRCi&~EXTvMELY ",
    "HEAVY WHITuCIRCi,~WHITuCIRCi ClTAhhG BLACKmMeL CIRCi%~~ROUND TdGET<BLACK ThYmQUdE;SLfLYmMeL",
    "mQUdE+~Lf WHITEmQUdE_MEDIUM WHITEmQUdE|BOLD WHITEmQUdE^HEAVY WHITEmQUdE_VjY HEAVY WHITEmQUd",
    "E&~EXTvMELY HEAVY WHITEmQUdE,~WHITEmQUduClTAhhG BLACK VjYmMeLmQUdE^MEDIUMmQUdE&~~SQUduTdGET",
    "=BLACK ThY DIAMlD<VjYmMeL DIAMlD_MEDIUMmMeL DIAMlD*~WHITuDIAMlD ClTAhhG BLACK VjYmMeL DIAMl",
    "D_MEDIUM DIAMlD)~~DIAMlD TdGET>BLACK ThY LOZqGE<VjYmMeL LOZqGE_MEDIUMmMeL LOZqGE*~WHITuLOZq",
    "GuClTAhhG BLACKmMeL LOZqGE(~~xh GvEK CROSS]Lf GvEK CROSS^MEDIUM GvEK CROSS_BOLD GvEK CROSS]",
    "VjY BOLD GvEK CROSS]HEAVY GvEK CROSS%~EXTvMELY HEAVY GvEK CROSS+~xhmesv<Lfmesv=MEDIUMmesv>B",
    "OLDmesv<HEAVYmesv=VjY HEAVYmesv_EXTvMELY HEAVYmesv&~Lf FIVEmPOKpASTjISK*~MEDIUM FIVEmPOKpAS",
    "TjISK+~BOLD FIVEmPOKpASTjISK)~HEAVY FIVEmPOKpASTjISK*~VjY HEAVY FIVEmPOKpASTjISK;~EXTvMELY ",
    "HEAVY FIVEmPOKpASTjISK]~LfmIXmPOKpASTjISK)~MEDIUMmIXmPOKpASTjISK*~BOLDmIXmPOKpASTjISK(~HEAV",
    "YmIXmPOKpASTjISK)~VjY HEAVYmIXmPOKpASTjISK:~EXTvMELY HEAVYmIXmPOKpASTjISK?~Lf EfmPOKpASTjIS",
    "K+~MEDIUM EfmPOKpASTjISK,~BOLD EfmPOKpASTjISK*~HEAVY EfmPOKpASTjISK+~VjY HEAVY EfmPOKpASTjI",
    "SK<~Lf xvuPOhTpBLACKmTd:~MEDIUM xvuPOhTpBLACKmTd;~xvuPOhTpBLACKmTd(~MEDIUM xvuPOhTpPhWHEELm",
    "Td>~Lf FOUR POhTpBLACKmTd.~MEDIUM FOUR POhTpBLACKmTd:~FOUR POhTpBLACKmTd&~MEDIUM FOUR POhTp",
    "PhWHEELmTd=~vVjSuLf FOUR POhTpPhWHEELmTd!~~Lf FIVuPOhTpBLACKmTd.~HEAVY FIVuPOhTpBLACKmTd.~M",
    "EDIUMmIX POhTpBLACKmTd.~HEAVYmIX POhTpBLACKmTd,~SIX POhTpPhWHEELmTd)~MEDIUM Ef POhTpBLACKmT",
    "d;~HEAVY Ef POhTpBLACKmTd:~VjY HEAVY Ef POhTpBLACKmTd?~HEAVY Ef POhTpPhWHEELmTd=~Lf TWELVuP",
    "OhTpBLACKmTd;~HEAVY TWELVuPOhTpBLACKmTd:PhWHEELmTd>~CIRCiD TRIkGi]NEGAsVuCIRCiD TRIkGi)~CIR",
    "CiDmQUdE>NEGAsVuCIRCiDmQUdE!!!!!!!&~LdGuORkGuCIRCi=YELLr CIRCi=Gvq CIRCi<PURPi CIRCi=BRrN C",
    "IRCi<vDmQUdE:BLUEmQUdE;ORkGEmQUdE=YELLrmQUdE=GvqmQUdE<PURPimQUdE=BRrNmQUdE!!!!_HEAVY EQUeSm",
    "w!!!!!!!!!!!!!!!^iFTWdDS dRrbSMeL TRIkGi dRrHEAD)~~UPWdDS dRrbSMeL TRIkGi dRrHEAD&~~RfWdDS ",
    "dRrbSMeL TRIkGi dRrHEAD*~~DrNWdDS dRrbSMeL TRIkGi dRrHEAD)~~iFTWdDS dRrbMEDIUM TRIkGi dRrHE",
    "AD*~~UPWdDS dRrbMEDIUM TRIkGi dRrHEAD(~~RfWdDS dRrbMEDIUM TRIkGi dRrHEAD+~~DrNWdDS dRrbMEDI",
    "UM TRIkGi dRrHEAD*~~iFTWdDS dRrbLdGuTRIkGi dRrHEAD)~~UPWdDS dRrbLdGuTRIkGi dRrHEAD&~~RfWdDS",
    " dRrbLdGuTRIkGi dRrHEAD*~~DrNWdDS dRrbLdGuTRIkGi dRrHEAD!!!!)~~iFTWdDS dRrbSMeL EQUILATje d",
    "RrHEAD,~~UPWdDS dRrbSMeL EQUILATje dRrHEAD*~~RfWdDS dRrbSMeL EQUILATje dRrHEAD.~~DrNWdDS dR",
    "rbSMeL EQUILATje dRrHEAD,~~iFTWdDS dRrbEQUILATje dRrHEAD%~~UPWdDS dRrbEQUILATje dRrHEAD!~~R",
    "fWdDS dRrbEQUILATje dRrHEAD&~~DrNWdDS dRrbEQUILATje dRrHEAD%~~HEAVY iFTWdDS dRrbEQUILATje d",
    "RrHEAD%~~UPWdDS dRrbEQUILATje dRrHEAD!~~RfWdDS dRrbEQUILATje dRrHEAD&~~DrNWdDS dRrbEQUILATj",
    "e dRrHEAD%~~iFTWdDS dRrbLdGuEQUILATje dRrHEAD,~~UPWdDS dRrbLdGuEQUILATje dRrHEAD*~~RfWdDS d",
    "RrbLdGuEQUILATje dRrHEAD.~~DrNWdDS dRrbLdGuEQUILATje dRrHEAD>~~iFTWdDS TRIkGi-HEADpdRrbNdRr",
    "mtFT.~~UPWdDS TRIkGi-HEADpdRrbNdRrmtFT+~~RfWdDS TRIkGi-HEADpdRrbNdRrmtFT:~~DrNWdDS TRIkGi-H",
    "EADpdRrbNdRrmtFT.~~iFTWdDS TRIkGi-HEADpdRrbMEDIUMmtFT.~~UPWdDS TRIkGi-HEADpdRrbMEDIUMmtFT+~",
    "~RfWdDS TRIkGi-HEADpdRrbMEDIUMmtFT:~~DrNWdDS TRIkGi-HEADpdRrbMEDIUMmtFT.~~iFTWdDS TRIkGi-HE",
    "ADpdRrbBOLDmtFT+~~UPWdDS TRIkGi-HEADpdRrbBOLDmtFT)~~RfWdDS TRIkGi-HEADpdRrbBOLDmtFT,~~DrNWd",
    "DS TRIkGi-HEADpdRrbBOLDmtFT+~~iFTWdDS TRIkGi-HEADpdRrbHEAVYmtFT,~~UPWdDS TRIkGi-HEADpdRrbHE",
    "AVYmtFT*~~RfWdDS TRIkGi-HEADpdRrbHEAVYmtFT.~~DrNWdDS TRIkGi-HEADpdRrbHEAVYmtFT,~~iFTWdDS TR",
    "IkGi-HEADpdRrbVjY HEAVYmtFT=~~UPWdDS TRIkGi-HEADpdRrbVjY HEAVYmtFT;~~RfWdDS TRIkGi-HEADpdRr",
    "bVjY HEAVYmtFT>~~DrNWdDS TRIkGi-HEADpdRrbVjY HEAVYmtFT=~~iFTWdDS FhGj-POSydRr+~UPWdDS FhGj-",
    "POSydRr)~RfWdDS FhGj-POSydRr,~DrNWdDS FhGj-POSydRr+~iFTWdDSmQUdpdRr&~UPWdDSmQUdpdRr$~RfWdDS",
    "mQUdpdRr(~DrNWdDSmQUdpdRr&~iFTWdDS COMPvSSpdRr*~UPWdDS COMPvSSpdRr(~RfWdDS COMPvSSpdRr+~DrN",
    "WdDS COMPvSSpdRr*~iFTWdDS HEAVY COMPvSSpdRr<~UPWdDS HEAVY COMPvSSpdRr:~RfWdDS HEAVY COMPvSS",
    "pdRr=~DrNWdDS HEAVY COMPvSSpdRr<~iFTWdDS HEAVY dRr$~UPWdDS HEAVY dRr|RfWdDS HEAVY dRr%~DrNW",
    "dDS HEAVY dRr!!!!!!!!$~iFTWdDSmkS-SjIF dRr*~UPWdDSmkS-SjIF dRr(~RfWdDSmkS-SjIF dRr+~DrNWdDS",
    "mkS-SjIF dRr*~NORx WESTmkS-SjIF dRr$~EASTmkS-SjIF dRr+~SOUx EASTmkS-SjIF dRr$~WESTmkS-SjIF ",
    "dRr+~iFyRfmkS-SjIF dRr+~UP DrNmkS-SjIF dRr!!!!!!(~WIDE-HEADpiFTWdDS Lf BdB dRr*~UPWdDS Lf B",
    "dB dRr(~RfWdDS Lf BdB dRr+~DrNWdDS Lf BdB dRr*~NORx WESyLf BdB dRr$~EASyLf BdB dRr+~SOUx EA",
    "SyLf BdB dRr$~WESyLf BdB dRr+~iFTWdDS BdB dRr!~UPWdDS BdB dRr_RfWdDS BdB dRr$~DrNWdDS BdB d",
    "Rr!~NORx WESyBdB dRr?EASyBdB dRr$~SOUx EASyBdB dRr?WESyBdB dRr$~iFTWdDS MEDIUM BdB dRr+~UPW",
    "dDS MEDIUM BdB dRr)~RfWdDS MEDIUM BdB dRr,~DrNWdDS MEDIUM BdB dRr+~NORx WESyMEDIUM BdB dRr%",
    "~EASyMEDIUM BdB dRr,~SOUx EASyMEDIUM BdB dRr%~WESyMEDIUM BdB dRr,~iFTWdDS HEAVY BdB dRr*~UP",
    "WdDS HEAVY BdB dRr(~RfWdDS HEAVY BdB dRr+~DrNWdDS HEAVY BdB dRr*~NORx WESyHEAVY BdB dRr$~EA",
    "SyHEAVY BdB dRr+~SOUx EASyHEAVY BdB dRr$~WESyHEAVY BdB dRr+~iFTWdDS VjY HEAVY BdB dRr;~UPWd",
    "DS VjY HEAVY BdB dRr.~RfWdDS VjY HEAVY BdB dRr<~DrNWdDS VjY HEAVY BdB dRr;~NORx WESyVjY HEA",
    "VY BdB dRr*~EASyVjY HEAVY BdB dRr<~SOUx EASyVjY HEAVY BdB dRr*~WESyVjY HEAVY BdB dRr!!!!!!!",
    "!(~~iFTWdDS TRIkGi dRrHEAD,~UPWdDS TRIkGi dRrHEAD*~RfWdDS TRIkGi dRrHEAD.~DrNWdDS TRIkGi dR",
    "rHEAD,~iFTWdDS WHITudRr WIxh TRIkGi dRrHEAD+~~UPWdDS WHITudRr WIxh TRIkGi dRrHEAD)~~RfWdDS ",
    "WHITudRr WIxh TRIkGi dRrHEAD,~~DrNWdDS WHITudRr WIxh TRIkGi dRrHEAD+~~iFTWdDS dRrbNOTCHpTAI",
    "L=~UPWdDS dRrbNOTCHpTAIL;~RfWdDS dRrbNOTCHpTAIL>~DrNWdDS dRrbNOTCHpTAIL=~HEAVY dRrmtFyWIDx ",
    "lE&TWO xIRDS:luHeF(xIRD=~iFTWdDS BOTTOM-StDpWHITudRr?~RfWdDS BOTTOMmtDpWHITudRr]~iFTWdDS TO",
    "PmtDpWHITudRr<~RfWdDS TOPmtDpWHITudRr=~iFTWdDS iFT-StDpWHITudRr=~RfWdDS Rf-StDpWHITudRr?~iF",
    "TWdDS Rf-StDpWHITudRr>~RfWdDS iFT-StDpWHITudRr>~iFTWdDS BACK-sLTEDmtDrpWHITudRr%~~RfWdDS BA",
    "CK-sLTEDmtDrpWHITudRr&~~iFTWdDS FRlT-sLTEDmtDrpWHITudRr&~~RfWdDS FRlT-sLTEDmtDrpWHITudRr(~~",
    "WHITudRrmtFyWIDx lE&TWO xIRDS!!>~dRr POhThG UPWdDS xq NORx WEST&~RfWdDS xq CURVhGmOUx WEST"]),
   (129280,
   ["!CIRCiD CROSSgEEbFOUR DOTS.TWO DOTS>!~iFyHeF CIRCibFOUR DOTS.xvuDOTS.WO DOTS,DOT.]DrNWdD FA",
    "ChG HOOK(NOTCHpHOOK<HOOKbDOT=NOTCHpHOOKbDOT^~PhCHpFhGjS?WHITuHEdT;BRrN HEdT;PhCHhG HkD=ZIPP",
    "j-MOUx FACE^MlEY-MOUx FACE]FACEbxjMOMETj$~NjD FACE.xhKhG FACE=FACEbHEAD-BkDAGE%~ROBOyFACE:H",
    "UGGhG FACE<Sw OF xuHORNS^CeL MuHkD<zISpBACK OF HkD|iFT-FAChG FIST]Rf-FAChG FIST^HkDStKE)bhD",
    "EX kD MIDDi FhGjS CROSSED%~~I LOVuYOU HkDmw!~FACEbCrBOY tT!~CLrN FACE:NAUSEATpFACE>ROLLhG l",
    " xuFLOOR LAUGHhG.~DROOLhG FACE=LYhG FACE:FACuPeM.SNEEZhG FACE=FACEbluEYEBRr zISED,~GRhNhG F",
    "ACEbSTd EYES.luLdGukD lEmMeL EYE*~~FACEbFhGj COVjhG CLOSpLIPS^~SjIOUS FACEbSYMBOLS COVjhG M",
    "OUx|~MILhG FACEbSMILhG EYES kD HkD COVjhG MOUx>~~FACEbOPq MOUx VOMIThG.~SHOCKpFACEbEXPLODhG",
    " HEAD<~PvGNkyWOMk>BvAST-FEEDhG>PeMS UP TOGExj^SELFIE*PRhCE*Mk h TUXEDO<Oxj CHRISTMAS]SHRUG)",
    "PjSl DOhG CdTWHEEL%~JUGGLhG,FqCj*MODjN PqTAxLl^WvSTiRS,ATj POLO:HkDBeL,DIVhG MASK;WILTpFLrj",
    "=DRUMbDRUMSsCKS!~CLhKhG GLASSES]TUMBiR GLASS=SPOl)GOe NET,RIFi)FIRSyPLACuMEDe^SEClD PLACuME",
    "De_xIRD PLACuMEDe^BOXhG GLOVE<Mdse dTS UNIFORM!~CURLhGmTlE=LACROSSEmsCK kD BeL&~SOFTBeL,FLY",
    "hG DISC;CROISSkT.AVOCADO+CUCUMBj,BACl)POTATO*CdROT*BAGUETTuBvAD>GvqmeAD;SHeLr Pk OF FOOD_TU",
    "FFpFLATBvAD^EGG&GLASS OF MILK=PEkUTS+KIWIFRUIT.PkCAKES,DUMPLhG,FORTUNuCOOKIE>TAKEOUyBOX;CHO",
    "PSsCKS:BrLbSPOl?CUPbSTzW=OClUT+BROCCOLI,PIE%vTZEL+CUyOF MEAT;SkDWICH,CkNpFOOD;iAFY Gvq;MkGO",
    "(Ol CAKE.BAGEL)SMILhG FACEbSMILhG EYES kD xvuHEdTS+~~YAWNhG FACE<SMILhG FACEbTEd%~FACEbPdTY",
    " HORN kD PdTY tT(~UNEVq EYES kD WAVY MOUx]~OVjHEATpFACE?FvEZhG FACE=NhJA)DISGUISpFACE>FACuH",
    "OLDhG BACK TEdS_WIx PiADhG EYES&~SdI(LAB COAT,GOGGiS+HIKhG BOOT;FLATmHOE.CzB(LIl FACE.SCORP",
    "Il,TURKEY*UNICORN FACE<EAGi)DUCK(BAT&SHdK)rL&FOX FACE,BUTTjFLY.DEj(GORILLA+LIZdD*RHhOCjOS:S",
    "HRIMP)QUID)GIzFFuFACE<ZEBz FACE:HEDGEHOG,SAUROPOD,T-vX)CRICKET+KkGdOO,LLAMA)PEACOCK+HIPPOPO",
    "TAMUS<PdROT*zCCOl+LOBSTj+MOSQUITO+ICROBE+BADGj*SWk(MAMMOx+DODO(SLOx)OTTj(RkGUTk.SKUNK)FLAMh",
    "GO,OYSTj*BEAVj)ISl)SEe(GUIDuDOG.PROBhG CkE<EMOJI COMPlqyRptIR,CURLY tIR:BeD(WHITutIR*~BlE(i",
    "G&FOOT(TOOx)SUPjHjO(VILLAh;AFETY VEST;EdbHEdhG AID!~MOTORIZpWHEELCtIR|kUe WHEELCtIR]ECHkICe",
    " dM&iG>CHEESuWEDGE;UPCAKE+SeTmtKj;BEVjAGuBOX<GdLIC*lIl)FeAFEL+WAFFi*BUTTj*MATuDRhK:ICuCUBE,",
    "BUBBi TEA:TROLL)STkDhG PjSl?KNEELhG PjSl?DEAF PjSl;FACEbMlOCi^ADULT)CHILD)OLDj ADULT;BEdDpP",
    "jSl>PjSlbHEADSCdF>hmTEAMY ROOM>CLIMBhG,h LOTUS POSIsl(~MAGE(FAIRY)VAMPIv+MjPjSl.ELF&GqIE)ZO",
    "MBIE*Bzh)ORkGuHEdT<BILiD CAP:SCdF)GLOVES*COAT(SOCKS)RpGIFyqVELOPE^FIvCzCKj;JIGSAW PUZZi PIE",
    "CE|TESyTUBE.PETRI DISH:DNA DOUBi HELIX]COMPASS+ABACUS*FIRuEXThGUISHj^TOOLBOX+BRICK)MAGNET*L",
    "UGGAGE*Osl BOTTi=SPOOL OF xvAD?BeL OF YdN<SAFETY Ph:TEDDY BEd:BROOM(ASKET*ROLL OF PAPj=Bd O",
    "FmOAP;SPlGE*vCEIPT+NAZd AMUiT;EUTRe CHESS KhG(QUEq)ROOK(BISHOP*KNf*PAWN_WHITuCHESS KNf ROTA",
    "TpFORTY-FIVuDEGvES)~~BLACK CHESS KNf ROTATpFORTY-FIVuDEGvES)~~NEUTRe CHESS KNf ROTATpFORTY-",
    "FIVuDEGvES+~~WHITuCHESS KhG ROTATpNhETY DEGvES+~QUEq ROTATpNhETY DEGvES,~ROOK ROTATpNhETY D",
    "EGvES+~BISHOP ROTATpNhETY DEGvES.~KNf ROTATpNhETY DEGvES.~PAWN ROTATpNhETY DEGvES|~BLACK CH",
    "ESS KhG ROTATpNhETY DEGvES+~QUEq ROTATpNhETY DEGvES,~ROOK ROTATpNhETY DEGvES+~BISHOP ROTATp",
    "NhETY DEGvES.~KNf ROTATpNhETY DEGvES.~PAWN ROTATpNhETY DEGvES|~NEUTRe CHESS KhG ROTATpNhETY",
    " DEGvES+~QUEq ROTATpNhETY DEGvES,~ROOK ROTATpNhETY DEGvES+~BISHOP ROTATpNhETY DEGvES.~KNf R",
    "OTATpNhETY DEGvES.~PAWN ROTATpNhETY DEGvES$~~WHITuCHESS KNf ROTATpluHUNDRpxIRTY-FIVuDEGvES_",
    "~~BLACK CHESS KNf ROTATpluHUNDRpxIRTY-FIVuDEGvES_~~NEUTRe CHESS KNf ROTATpluHUNDRpxIRTY-FIV",
    "uDEGvES!~~~WHITuCHESS TURNpKhG(QUEq)ROOK(BISHOP*KNf*PAWN&~BLACK CHESS TURNpKhG(QUEq)ROOK(BI",
    "SHOP*KNf*PAWN&~NEUTRe CHESS TURNpKhG(QUEq)ROOK(BISHOP*KNf*PAWN)~WHITuCHESS KNf ROTATpTWO HU",
    "NDRpTWqTY-FIVuDEGvES_~~BLACK CHESS KNf ROTATpTWO HUNDRpTWqTY-FIVuDEGvES_~~NEUTRe CHESS KNf ",
    "ROTATpTWO HUNDRpTWqTY-FIVuDEGvES!~~~WHITuCHESS KhG ROTATpTWO HUNDvDmEVqTY DEGvES!~~QUEq ROT",
    "ATpTWO HUNDvDmEVqTY DEGvES$~~ROOK ROTATpTWO HUNDvDmEVqTY DEGvES!~~BISHOP ROTATpTWO HUNDvDmE",
    "VqTY DEGvES%~~KNf ROTATpTWO HUNDvDmEVqTY DEGvES%~~PAWN ROTATpTWO HUNDvDmEVqTY DEGvES<~~BLAC",
    "K CHESS KhG ROTATpTWO HUNDvDmEVqTY DEGvES!~~QUEq ROTATpTWO HUNDvDmEVqTY DEGvES$~~ROOK ROTAT",
    "pTWO HUNDvDmEVqTY DEGvES!~~BISHOP ROTATpTWO HUNDvDmEVqTY DEGvES%~~KNf ROTATpTWO HUNDvDmEVqT",
    "Y DEGvES%~~PAWN ROTATpTWO HUNDvDmEVqTY DEGvES<~~NEUTRe CHESS KhG ROTATpTWO HUNDvDmEVqTY DEG",
    "vES!~~QUEq ROTATpTWO HUNDvDmEVqTY DEGvES$~~ROOK ROTATpTWO HUNDvDmEVqTY DEGvES!~~BISHOP ROTA",
    "TpTWO HUNDvDmEVqTY DEGvES%~~KNf ROTATpTWO HUNDvDmEVqTY DEGvES%~~PAWN ROTATpTWO HUNDvDmEVqTY",
    " DEGvES>~~WHITuCHESS KNf ROTATpxvuHUNDRpFIFTEq DEGvES]~~BLACK CHESS KNf ROTATpxvuHUNDRpFIFT",
    "Eq DEGvES]~~NEUTRe CHESS KNf ROTATpxvuHUNDRpFIFTEq DEGvES_~~WHITuCHESS EQUIHOPPj%~BLACK CHE",
    "SS EQUIHOPPj%~NEUTRe CHESS EQUIHOPPj(~WHITuCHESS EQUIHOPPj ROTATpNhETY DEGvES)~~BLACK CHESS",
    " EQUIHOPPj ROTATpNhETY DEGvES)~~NEUTRe CHESS EQUIHOPPj ROTATpNhETY DEGvES+~~WHITuCHESS KNf-",
    "QUEq)ROOK(BISHOP)~BLACK CHESS KNf-QUEq)ROOK(BISHOP!!!!!!!!!!!!)~XIkGQI RpGqje+MkDdh,EiPHkT,",
    "HORSE)CHdIOT*kNl*SOLDIj;BLACK Gqje+MkDdh,EiPHkT,HORSE)CHdIOT*kNl*SOLDIj!!$~BeiTmHOES<lE-PIE",
    "CEmWIMSUIT_BRIEFS*SHORTS*xlGmkDe!!!<DROP OF BLOOD=ADHESIVuBkDAGE]STExOSCOPE;X-zY)CRUTCH!!!*",
    "YO-YO)KITE(PdACHUTE.BOOMjkG.MAGIC WkD:PhATA*NESThG DOLLS!!!!!!!!!=RhGpPLkET=CtIR)zZOR)AXE&D",
    "IYA LAMP.BkJO)MILITdY HELMET?ACCORDIl.LlG DRUM.COh&dPqTRYmAW=SCvWDRIVj;LADDj*HOOK(MIRROR*Wh",
    "Dr*PLUNGj+SEWhG NEEDi=KNOT(BUCKET*MOUSuTzP:TOOxBRUSH:HEADSTlE.PLACdD+ROCK(MIRROR BeL;IDqsFI",
    "CAsl CdD|Lr BATTjY;tMSA!!!)FLY&WORM(BEETi*COCKROACH.POTTpPLkT<WOOD(FEAxj+LOTUS)CORe)EMPTY N",
    "EST:NESTbEGGS!!!!!>kATOMICe HEdT]LUNGS)PEOPi HUGGhG=vGNkyMk&PjSl>jSlbCRrN!!!!!!!!!!^BLUEBjR",
    "IES:ELL PEPPj;OLIVE)FLATBvAD.TAMeE*FlDUE*TEAPOT*POURhG LIQUID>BEkS)Jd!!!!!!&MELThG FACE<SeU",
    "ThG FACE=FACEbOPq EYES kD HkD OVj MOUx.~PEEKhG EYE;DIAGle MOUx(~DOTTpLhuFACE]BIThG LIP.UBBi",
    "S!!!!!!!!+HkDbhDEX FhGj kD xUMB CROSSED!~~RfWdDS HkD?iFTWdDS HkD>PeM DrN HkD.UP HkD<hDEX PO",
    "hThG AyxuVIEWj,~HEdyHkDS!!!!!!!!!;BLOCKmEXTkT-1$2$12%3$13%23%123&4$14%24%124&34%134&234&123",
    "4(5$15%25%125&35%235&1235(45%145&245&1245(345&1345(2345(12345)6$16%26%126&36%136&236&1236(4",
    "6%146%246(346&1346(2346(12346)56%156&256&1256(356&1356(2356(12356)456&1456(2456(12456)3456(",
    "13456)23456|Lrj iFyBLOCK DIAGle Lrj MIDDi iFyTO Lrj CqTv*Rf<~UPPj MIDDi iFyTO Lrj CqTv*Rf*~",
    "iFyTO Lrj CqTv*~~Rf BLOCK DIAGle UPPj MIDDi iFyTO UPPj CqTv*Rf<~Lrj MIDDi iFyTO UPPj CqTv*R",
    "f*~iFyTO UPPj CqTv!~MIDDi iFyTO UPPj MIDDi Rf=~CqTRuTO Lrj MIDDi Rf,~iFyTO Lrj MIDDi Rf*~Cq",
    "TRuTO UPPj MIDDi Rf,~iFyTO UPPj MIDDi Rf*~CqTRuTO UPPj Rf,~~iFyBLOCK DIAGle UPPj CqTRuTO UP",
    "Pj MIDDi Rf,~iFyTO UPPj MIDDi Rf*~CqTRuTO Lrj MIDDi Rf,~iFyTO Lrj MIDDi Rf*~CqTRuTO Lrj Rf$",
    "~MIDDi iFyTO Lrj MIDDi Rf)~~~UPPj Rf BLOCK DIAGle Lrj MIDDi iFyTO Lrj CqTv*Rf<~UPPj MIDDi i",
    "FyTO Lrj CqTv*Rf*~iFyTO Lrj CqTv+~~iFyBLOCK DIAGle UPPj MIDDi iFyTO UPPj CqTv*Rf<~Lrj MIDDi",
    " iFyTO UPPj CqTv*Rf*~iFyTO UPPj CqTv!~MIDDi iFyTO UPPj MIDDi Rf=~CqTRuTO Lrj MIDDi Rf,~iFyT",
    "O Lrj MIDDi Rf*~CqTRuTO UPPj MIDDi Rf,~iFyTO UPPj MIDDi Rf*~CqTRuTO UPPj Rf+~~Rf BLOCK DIAG",
    "le UPPj CqTRuTO UPPj MIDDi Rf,~iFyTO UPPj MIDDi Rf*~CqTRuTO Lrj MIDDi Rf,~iFyTO Lrj MIDDi R",
    "f*~CqTRuTO Lrj Rf$~MIDDi iFyTO Lrj MIDDi Rf!~~~kD Rf kD Lrj TRIkGULd xvuQUdTjS BLOCK^~~iFyk",
    "D Lrj kD Rf TRIkGULd xvuQUdTjS BLOCK]~~UPPj kD iFykD Lrj TRIkGULd xvuQUdTjS BLOCK]~~iFykD U",
    "PPj kD Rf TRIkGULd xvuQUdTjS BLOCK;~~TRIkGULd luQUdTj BLOCK=~UPPj TRIkGULd luQUdTj BLOCK>~R",
    "f TRIkGULd luQUdTj BLOCK>~Lrj TRIkGULd luQUdTj BLOCK>~VjsCe luEfH BLOCK-2$3$4$5$6$7+~HORIZl",
    "Te luEfH BLOCK-2$3$4$5$6$7.~iFykD Lrj luEfH BLOCK%~UPPj luEfH BLOCK;~Rf kD UPPj luEfH BLOCK",
    "%~Lrj luEfH BLOCK<~UPPj kD Lrj luEfH BLOCK<~HORIZlTe luEfH BLOCK-1358<~UPPj luQUdTj BLOCK^x",
    "vuEfHS BLOCK|FIVuEfHS BLOCK_xvuQUdTjS BLOCK!~SEVq EfHS BLOCK)~Rf luQUdTj BLOCK^xvuEfHS BLOC",
    "K|FIVuEfHS BLOCK_xvuQUdTjS BLOCK!~SEVq EfHS BLOCK)~iFyHeF MEDIUMmtDE%~Rf HeF MEDIUMmtDE&~UP",
    "Pj HeF MEDIUMmtDE&~Lrj HeF MEDIUMmtDE&~hVjSuMEDIUMmtDE!~UPPj HeF BLOCK kD Lrj HeF hVjSuMEDI",
    "UMmtDE$~~hVjSuMEDIUMmtDukD Lrj HeF BLOCK!<~~iFyHeF hVjSuMEDIUMmtDukD Rf HeF BLOCK;~~CHECKj ",
    "BOdD FILL_hVjSuCHECKj BOdD FILL*~HEAVY HORIZlTe FILL$~UPPj iFyTO Lrj Rf FILL(~Rf TO Lrj iFy",
    "FILL(~kD Lrj TRIkGULd HeF BLOCK^~iFykD Rf TRIkGULd HeF BLOCK]~UPPj iFyTRIkGULd MEDIUMmtDE,~",
    "Rf TRIkGULd MEDIUMmtDE?~Lrj Rf TRIkGULd MEDIUMmtDE.~iFyTRIkGULd MEDIUMmtDE>~BOX DzWhGS Lf D",
    "IAGle UPPj CqTRuTO MIDDi iFT(Rf,~MIDDi iFyTO Lrj CqTv!~Rf TO Lrj CqTv,~UPPj CqTRuTO MIDDi i",
    "FyTO Lrj CqTv!~Rf TO Lrj CqTv(~~MIDDi iFyTO Lrj CqTRuTO MIDDi Rf,~UPPj CqTRuTO MIDDi Rf&~~U",
    "PPj CqTRuTO MIDDi iFykD MIDDi Rf TO Lrj CqTv^~Rf kD MIDDi iFyTO Lrj CqTv;~TO Lrj CqTRuTO MI",
    "DDi iFT]~iFyTO Lrj CqTRuTO MIDDi Rf|~~MIDDi iFyTO UPPj CqTRuTO MIDDi Rf TO Lrj CqTv<~~Rf TO",
    " UPPj CqTRuTO MIDDi iFyTO Lrj CqTv|~~DIAMlD]HORIZlTebVjsCemTROKE:~~dRrHEAD-StPpPOhTj(~hVjSu",
    "CHECK MdK_iFyHeF RUNNhG Mk$~Rf HeF RUNNhG Mk%~hVjSuDrNWdDS dRrbsP iFTWdDS%~~iFTWdDS dRr kD ",
    "UPPj kD Lrj luEfH BLOCK<~~RfWdDS dRr kD UPPj kD Lrj luEfH BLOCK=~~DrNWdDS dRr kD Rf luEfH B",
    "LOCK%~~UPWdDS dRr kD Rf luEfH BLOCK!~~iFyHeF FOLDj]Rf HeF FOLDj^VOIDpGvEK CROSS_Rf OPqmQUdp",
    "DOT%~NEGAsVuDIAGle CROSS)MIDDi Rf TO Lrj CqTv,~DIAMlD)~WHITuHEAVYmesvbROUNDpCORNjS!~~iFyxIR",
    "D WHITuRf POhThG hDEX^~MIDDi xIRD WHITuRf POhThG hDEX|~Rf xIRD WHITuRf POhThG hDEX_~NEGAsVE",
    "mQUdpQUESsl MdK:~SsCK FIGUv!bdMS zISED]ikhG iFT(Rf=WIx DvSS&~WHITuUP-POhThG CHEVRl"]),
   (130032, ["!SEGMqTpDIGIyZjO(lE&TWO%HvE)FOUR&IVE(SIX%EVq)Ef)NhE"]),
   (194560,
   ["!CJK COMPAsBILITY IDEOGzPH-2F800$1$2$3$4$5$6$7$8$9$A$B$C$D$E$F%10$1$2$3$4$5$6$7$8$9$A$B$C$D",
    "$E$F%20$1$2$3$4$5$6$7$8$9$A$B$C$D$E$F%30$1$2$3$4$5$6$7$8$9$A$B$C$D$E$F%40$1$2$3$4$5$6$7$8$9",
    "$A$B$C$D$E$F%50$1$2$3$4$5$6$7$8$9$A$B$C$D$E$F%60$1$2$3$4$5$6$7$8$9$A$B$C$D$E$F%70$1$2$3$4$5",
    "$6$7$8$9$A$B$C$D$E$F%80$1$2$3$4$5$6$7$8$9$A$B$C$D$E$F%90$1$2$3$4$5$6$7$8$9$A$B$C$D$E$F%A0$1",
    "$2$3$4$5$6$7$8$9$A$B$C$D$E$F%B0$1$2$3$4$5$6$7$8$9$A$B$C$D$E$F%C0$1$2$3$4$5$6$7$8$9$A$B$C$D$",
    "E$F%D0$1$2$3$4$5$6$7$8$9$A$B$C$D$E$F%E0$1$2$3$4$5$6$7$8$9$A$B$C$D$E$F%F0$1$2$3$4$5$6$7$8$9$",
    "A$B$C$D$E$F&900$1$2$3$4$5$6$7$8$9$A$B$C$D$E$F%10$1$2$3$4$5$6$7$8$9$A$B$C$D$E$F%20$1$2$3$4$5",
    "$6$7$8$9$A$B$C$D$E$F%30$1$2$3$4$5$6$7$8$9$A$B$C$D$E$F%40$1$2$3$4$5$6$7$8$9$A$B$C$D$E$F%50$1",
    "$2$3$4$5$6$7$8$9$A$B$C$D$E$F%60$1$2$3$4$5$6$7$8$9$A$B$C$D$E$F%70$1$2$3$4$5$6$7$8$9$A$B$C$D$",
    "E$F%80$1$2$3$4$5$6$7$8$9$A$B$C$D$E$F%90$1$2$3$4$5$6$7$8$9$A$B$C$D$E$F%A0$1$2$3$4$5$6$7$8$9$",
    "A$B$C$D$E$F%B0$1$2$3$4$5$6$7$8$9$A$B$C$D$E$F%C0$1$2$3$4$5$6$7$8$9$A$B$C$D$E$F%D0$1$2$3$4$5$",
    "6$7$8$9$A$B$C$D$E$F%E0$1$2$3$4$5$6$7$8$9$A$B$C$D$E$F%F0$1$2$3$4$5$6$7$8$9$A$B$C$D$E$F&A00$1",
    "$2$3$4$5$6$7$8$9$A$B$C$D$E$F%10$1$2$3$4$5$6$7$8$9$A$B$C$D"]),
   (917505, ["!LkGUAGuTAG"]),
   (917536,
   ["!TAGmPACE)EXCLAMAsl MdK]QUOTAsl MdK>NUMBjmw;DOLLdmw;PjCqTmw<AMPjSkD,POSTROPHE:iFyPdqxESIS]R",
    "f PdqxESIS^ASTjISK,PLUSmw.COMMA)HYPHq-MhUS<FULLmTOP.SOLIDUS+DIGIyZjO(lE&TWO%HvE)FOUR&IVE(SI",
    "X%EVq)Ef)NhE:COLl)SEMICOLl.iSS-xkmw>EQUeSmw;GvATj-xkmw^QUESsl MdK=COMMjCIe AT=LATh caA$B$C$",
    "D$E$F$G$H$I$J$K$L$M$N$O$P$Q$R$S$T$U$V$W$X$Y$Z$~EFTmQUduBzCKET|vVjSEmOLIDUS>fmQUduBzCKET!~CI",
    "RCUMFiX ACCqT^Lr LhE,GzVuACCqT<LAThmMeaA$B$C$D$E$F$G$H$I$J$K$L$M$N$O$P$Q$R$S$T$U$V$W$X$Y$Z|",
    "EFyCURLY BzCKET_VjsCe LhE=Rf CURLY BzCKET|sLDE.CkCEL TAG"]),
   (917760,
   ["!VdIAslmEiCTOR-17$8$9%20$1$2$3$4$5$6$7$8$9%30$1$2$3$4$5$6$7$8$9%40$1$2$3$4$5$6$7$8$9%50$1$2",
    "$3$4$5$6$7$8$9%60$1$2$3$4$5$6$7$8$9%70$1$2$3$4$5$6$7$8$9%80$1$2$3$4$5$6$7$8$9%90$1$2$3$4$5$",
    "6$7$8$9%100$1$2$3$4$5$6$7$8$9%10$1$2$3$4$5$6$7$8$9%20$1$2$3$4$5$6$7$8$9%30$1$2$3$4$5$6$7$8$",
    "9%40$1$2$3$4$5$6$7$8$9%50$1$2$3$4$5$6$7$8$9%60$1$2$3$4$5$6$7$8$9%70$1$2$3$4$5$6$7$8$9%80$1$",
    "2$3$4$5$6$7$8$9%90$1$2$3$4$5$6$7$8$9&200$1$2$3$4$5$6$7$8$9%10$1$2$3$4$5$6$7$8$9%20$1$2$3$4$",
    "5$6$7$8$9%30$1$2$3$4$5$6$7$8$9%40$1$2$3$4$5$6$7$8$9%50$1$2$3$4$5$6"])]

end CodeAtlas.Text
