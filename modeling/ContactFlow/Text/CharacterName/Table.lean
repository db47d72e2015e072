/-!
The names of characters: Latin, Greek and Cyrillic letters, marks, punctuation, symbols, Japanese
letters, wide and narrow forms and pictures, and the other names of those that control a line. They
are sorted by their words. A small letter before a name says how many words it shares with the name
before, where a is none. The table is of version 14 of the character database.
-/

namespace ContactFlow.Text.CharacterName

def source : String :=
  "aABACUS,aAC CURRENT,aACCORDION,aACCOUNT OF,aACK,aACKNOWLEDGE,aACTIVATE ARABIC FORM SHAPING,
  bSYMMETRIC SWAPPING,aACUTE ACCENT,bANGLE,aADDRESSED TO THE SUBJECT,aADHESIVE BANDAGE,
  aADI SHAKTI,aADMETOS,aADMISSION TICKETS,aADULT,aAERIAL TRAMWAY,aAIRPLANE,bARRIVING,bDEPARTURE,
  aAKTIESELSKAB,aALARM CLOCK,aALCHEMICAL SYMBOL FOR AIR,dALEMBIC,dALKALI,dALKALI-2,dALUM,dAMALGAM,
  dANTIMONY ORE,dAQUA REGIA,eREGIA-2,eVITAE,eVITAE-2,dAQUAFORTIS,dARSENIC,dASHES,dAURIPIGMENT,
  dBATH OF MARY,fVAPOURS,dBISMUTH ORE,dBLACK SULFUR,dBORAX,dBORAX-2,dBORAX-3,dBRICK,dCADUCEUS,
  dCALX,dCAPUT MORTUUM,dCINNABAR,dCOPPER ANTIMONIATE,eORE,dCROCUS OF COPPER,fCOPPER-2,fIRON,
  dCRUCIBLE,dCRUCIBLE-2,dCRUCIBLE-3,dCRUCIBLE-4,dCRUCIBLE-5,dDAY-NIGHT,dDISSOLVE,dDISSOLVE-2,
  dDISTILL,dEARTH,dFIRE,dGOLD,dGUM,dHALF DRAM,eOUNCE,dHORSE DUNG,dHOUR,dIRON ORE,eORE-2,
  dIRON-COPPER ORE,dLEAD ORE,dLODESTONE,dMARCASITE,dMERCURY SUBLIMATE,eSUBLIMATE-2,eSUBLIMATE-3,
  dMONTH,dNIGHT,dNITRE,dOIL,dPHILOSOPHERS SULFUR,dPOT ASHES,dPOWDER,dPOWDERED BRICK,dPRECIPITATE,
  dPURIFY,dPUTREFACTION,dQUICK LIME,dQUINTESSENCE,dREALGAR,dREALGAR-2,dREGULUS,eOF ANTIMONY,
  fANTIMONY-2,fIRON,dREGULUS-2,dREGULUS-3,dREGULUS-4,dRETORT,dROCK SALT,eSALT-2,dSAL-AMMONIAC,
  dSALT,eOF ANTIMONY,fCOPPER ANTIMONIATE,dSCEPTER OF JOVE,dSILVER,dSOAP,dSPIRIT,dSTARRED TRIDENT,
  dSTRATUM SUPER STRATUM,fSTRATUM-2,dSUBLIMATE OF ANTIMONY,fCOPPER,fSALT OF ANTIMONY,hCOPPER,
  dSUBLIMATION,dSULFUR,dTARTAR,dTARTAR-2,dTIN ORE,dTINCTURE,dTRIDENT,dTUTTY,dURINE,dVERDIGRIS,
  dVINEGAR,eOF ANTIMONY,dVINEGAR-2,dVINEGAR-3,dVITRIOL,dVITRIOL-2,dWATER,dWAX,aALEF SYMBOL,
  aALEMBIC,aALERT,aALIEN MONSTER,aALL AROUND-PROFILE,bEQUAL TO,aALM,aALMOST EQUAL OR EQUAL TO,cTO,
  dWITH CIRCUMFLEX ACCENT,aALTERNATE ONE-WAY LEFT WAY TRAFFIC,aALTERNATIVE KEY SYMBOL,
  aAMALGAMATION OR COPRODUCT,aAMBULANCE,aAMERICAN FOOTBALL,aAMPERSAND,aAMPHORA,aANATOMICAL HEART,
  aANCHOR,aAND WITH DOT,aANGER SYMBOL,aANGLE,bWITH S INSIDE,cUNDERBAR,aANGRY FACE,aANGSTROM SIGN,
  aANGUISHED FACE,aANKH,aANT,aANTENNA WITH BARS,aANTICLOCKWISE CLOSED CIRCLE ARROW,
  bCONTOUR INTEGRAL,bDOWNWARDS AND UPWARDS OPEN CIRCLE ARROWS,bGAPPED CIRCLE ARROW,bINTEGRATION,
  bOPEN CIRCLE ARROW,bTOP SEMICIRCLE ARROW,bTRIANGLE-HEADED BOTTOM U-SHAPED ARROW,
  cLEFT U-SHAPED ARROW,cOPEN CIRCLE ARROW,cRIGHT U-SHAPED ARROW,cTOP U-SHAPED ARROW,aAPC,
  aAPL FUNCTIONAL SYMBOL ALPHA,eUNDERBAR,dBACKSLASH BAR,dCIRCLE BACKSLASH,eDIAERESIS,eJOT,eSTAR,
  eSTILE,eUNDERBAR,dCOMMA BAR,dDEL DIAERESIS,eSTILE,eTILDE,dDELTA STILE,eUNDERBAR,
  dDIAMOND UNDERBAR,dDOWN CARET TILDE,eSHOE STILE,eTACK JOT,fUNDERBAR,dDOWNWARDS VANE,
  dEPSILON UNDERBAR,dGREATER-THAN DIAERESIS,dI-BEAM,dIOTA,eUNDERBAR,dJOT DIAERESIS,eUNDERBAR,
  dLEFT SHOE STILE,dLEFTWARDS VANE,dOMEGA,eUNDERBAR,dQUAD,eBACKSLASH,eCIRCLE,eCOLON,eDEL,eDELTA,
  eDIAMOND,eDIVIDE,eDOWN CARET,eDOWNWARDS ARROW,eEQUAL,eGREATER-THAN,eJOT,eLEFTWARDS ARROW,
  eLESS-THAN,eNOT EQUAL,eQUESTION,eRIGHTWARDS ARROW,eSLASH,eUP CARET,eUPWARDS ARROW,dQUOTE QUAD,
  eUNDERBAR,dRHO,dRIGHTWARDS VANE,dSEMICOLON UNDERBAR,dSLASH BAR,dSQUISH QUAD,dSTAR DIAERESIS,
  dSTILE TILDE,dTILDE DIAERESIS,dUP CARET TILDE,eSHOE JOT,eTACK DIAERESIS,fJOT,fOVERBAR,
  dUPWARDS VANE,dZILDE,aAPOLLON,aAPOSTROPHE,aAPPLICATION PROGRAM COMMAND,aAPPROACHES THE LIMIT,
  aAPPROXIMATELY BUT NOT ACTUALLY EQUAL TO,bEQUAL OR EQUAL TO,cTO,dOR THE IMAGE OF,aAQUARIUS,aARC,
  aARIES,aARROW POINTING DOWNWARDS THEN CURVING LEFTWARDS,fRIGHTWARDS,
  cRIGHTWARDS THEN CURVING DOWNWARDS,fSOUTH WEST,fUPWARDS,cUPWARDS THEN NORTH WEST,
  aARTICULATED LORRY,aARTIST PALETTE,aASCENDING NODE,aASSERTION,aASTERISK,bOPERATOR,aASTERISM,
  aASTONISHED FACE,aASTRAEA,aASTRONOMICAL SYMBOL FOR URANUS,aASYMPTOTICALLY EQUAL TO,
  aATHLETIC SHOE,aATOM SYMBOL,aAUBERGINE,aAUSTRAL SIGN,aAUTO RICKSHAW,aAUTOMATED TELLER MACHINE,
  aAUTOMOBILE,aAVOCADO,aAXE,aBABY,bANGEL,bBOTTLE,bCHICK,bSYMBOL,aBACK OF ENVELOPE,
  bWITH LEFTWARDS ARROW ABOVE,aBACK-TILTED SHADOWED WHITE RIGHTWARDS ARROW,
  aBACKSLANTED SOUTH ARROW WITH HOOKED TAIL,eHORIZONTAL TAIL,aBACKSPACE,aBACON,aBACTRIAN CAMEL,
  aBADGER,aBADMINTON RACQUET AND SHUTTLECOCK,aBAGEL,aBAGGAGE CLAIM,aBAGUETTE BREAD,aBALL OF YARN,
  aBALLET SHOES,aBALLOON,aBALLOON-SPOKED ASTERISK,aBALLOT BOLD SCRIPT X,bBOX,cWITH BALLOT,
  dBOLD CHECK,eSCRIPT X,dCHECK,dLIGHT X,dSCRIPT X,dX,bSCRIPT X,bX,aBANANA,aBANJO,aBANK,
  aBANKNOTE WITH DOLLAR SIGN,cEURO SIGN,cPOUND SIGN,cYEN SIGN,aBAR CHART,bOF SOAP,aBARBER POLE,
  aBASEBALL,aBASKET,aBASKETBALL AND HOOP,aBAT,aBATH,aBATHTUB,aBATTERY,aBEACH WITH UMBRELLA,
  aBEAMED ASCENDING MUSICAL NOTES,bDESCENDING MUSICAL NOTES,bEIGHTH NOTES,bSIXTEENTH NOTES,aBEANS,
  aBEAR FACE,aBEARDED PERSON,aBEATING HEART,aBEAVER,aBECAUSE,aBED,aBEER MUG,aBEETLE,aBEL,aBELL,
  bPEPPER,bSYMBOL,bWITH CANCELLATION STROKE,aBELLHOP BELL,
  aBENT ARROW POINTING DOWNWARDS THEN NORTH EAST,aBENTO BOX,aBENZENE RING,cWITH CIRCLE,
  aBET SYMBOL,aBETWEEN,aBEVERAGE BOX,aBICYCLE,aBICYCLIST,aBIG REVERSE SOLIDUS,bSOLIDUS,aBIKINI,
  aBILLED CAP,aBILLIARDS,aBIOHAZARD SIGN,aBIRD,aBIRTHDAY CAKE,aBISON,aBITCOIN SIGN,aBITING LIP,
  aBLACK BOWTIE,bCENTRE WHITE STAR,bCHESS BISHOP,dROTATED NINETY DEGREES,
  eTWO HUNDRED SEVENTY DEGREES,cEQUIHOPPER,dROTATED NINETY DEGREES,cKING,dROTATED NINETY DEGREES,
  eTWO HUNDRED SEVENTY DEGREES,cKNIGHT,dROTATED FORTY-FIVE DEGREES,eNINETY DEGREES,
  eONE HUNDRED THIRTY-FIVE DEGREES,eTHREE HUNDRED FIFTEEN DEGREES,eTWO HUNDRED SEVENTY DEGREES,
  gTWENTY-FIVE DEGREES,cKNIGHT-BISHOP,cKNIGHT-QUEEN,cKNIGHT-ROOK,cPAWN,dROTATED NINETY DEGREES,
  eTWO HUNDRED SEVENTY DEGREES,cQUEEN,dROTATED NINETY DEGREES,eTWO HUNDRED SEVENTY DEGREES,cROOK,
  dROTATED NINETY DEGREES,eTWO HUNDRED SEVENTY DEGREES,cTURNED BISHOP,dKING,dKNIGHT,dPAWN,dQUEEN,
  dROOK,bCIRCLE,cFOR RECORD,cWITH DOWN ARROW,dTWO WHITE DOTS,dWHITE DOT RIGHT,bCLUB SUIT,
  bCROSS ON SHIELD,bCURVED DOWNWARDS AND LEFTWARDS ARROW,eRIGHTWARDS ARROW,
  cLEFTWARDS AND DOWNWARDS ARROW,eUPWARDS ARROW,cRIGHTWARDS AND DOWNWARDS ARROW,eUPWARDS ARROW,
  cUPWARDS AND LEFTWARDS ARROW,eRIGHTWARDS ARROW,bDIAMOND,cCENTRED,cMINUS WHITE X,cON CROSS,cSUIT,
  cWITH DOWN ARROW,bDOWN POINTING BACKHAND INDEX,bDOWN-POINTING DOUBLE TRIANGLE,
  cISOSCELES RIGHT TRIANGLE,cSMALL TRIANGLE,cTRIANGLE,bDOWNWARDS EQUILATERAL ARROWHEAD,
  bDRAUGHTS KING,cMAN,bDROPLET,bFLAG,bFLORETTE,bFOLDER,bFOUR POINTED STAR,bHARD SHELL FLOPPY DISK,
  bHEART,cSUIT,bHEXAGON,bHORIZONTAL ELLIPSE,bHOURGLASS,bLARGE CIRCLE,cSQUARE,bLEFT LANE MERGE,
  cPOINTING BACKHAND INDEX,dINDEX,bLEFT-POINTING DOUBLE TRIANGLE,eWITH VERTICAL BAR,
  cISOSCELES RIGHT TRIANGLE,cPOINTER,cSMALL TRIANGLE,cTRIANGLE,bLEFTWARDS BULLET,
  cEQUILATERAL ARROWHEAD,bLOWER LEFT TRIANGLE,cRIGHT TRIANGLE,bLOZENGE,bMEDIUM DIAMOND,
  cDOWN-POINTING TRIANGLE,eCENTRED,cLEFT-POINTING TRIANGLE,eCENTRED,cLOZENGE,
  cRIGHT-POINTING TRIANGLE,eCENTRED,cSMALL DIAMOND,dLOZENGE,dSQUARE,cSQUARE,cUP-POINTING TRIANGLE,
  eCENTRED,bMOON LILITH,bNIB,bOCTAGON,bPARALLELOGRAM,bPENNANT,bPENTAGON,bPUSHPIN,
  bQUESTION MARK ORNAMENT,bRECTANGLE,bRIGHT POINTING BACKHAND INDEX,dINDEX,
  bRIGHT-POINTING DOUBLE TRIANGLE,eWITH VERTICAL BAR,cISOSCELES RIGHT TRIANGLE,cPENTAGON,cPOINTER,
  cSMALL TRIANGLE,cTRIANGLE,dWITH DOUBLE VERTICAL BAR,bRIGHTWARDS ARROW,cARROWHEAD,cBULLET,
  cEQUILATERAL ARROWHEAD,bROSETTE,bSAFETY SCISSORS,bSCISSORS,bSHOGI PIECE,bSKULL AND CROSSBONES,
  bSLIGHTLY SMALL CIRCLE,dSQUARE,bSMALL DIAMOND,cLOZENGE,cSQUARE,cSTAR,bSMILING FACE,bSNOWMAN,
  bSPADE SUIT,bSQUARE,cBUTTON,cCENTRED,cFOR STOP,bSTAR,bSUN WITH RAYS,bTELEPHONE,bTINY DIAMOND,
  cLOZENGE,cSQUARE,bTOUCHTONE TELEPHONE,bTRUCK,bTWO-WAY LEFT WAY TRAFFIC,
  bUNIVERSAL RECYCLING SYMBOL,bUP POINTING BACKHAND INDEX,bUP-POINTING DOUBLE TRIANGLE,
  cISOSCELES RIGHT TRIANGLE,cSMALL TRIANGLE,cTRIANGLE,bUPPER LEFT TRIANGLE,cRIGHT TRIANGLE,
  bUPWARDS EQUILATERAL ARROWHEAD,bVERTICAL ELLIPSE,cRECTANGLE,bVERY SMALL DIAMOND,dLOZENGE,
  dSQUARE,aBLACK-FEATHERED NORTH EAST ARROW,bRIGHTWARDS ARROW,bSOUTH EAST ARROW,
  aBLACK-LETTER CAPITAL C,cH,cI,cR,cZ,aBLANK SYMBOL,aBLOSSOM,aBLOWFISH,aBLUE BOOK,bHEART,
  aBLUEBERRIES,aBOAR,aBOLD EIGHT SPOKED ASTERISK,bFIVE SPOKED ASTERISK,bGREEK CROSS,bSALTIRE,
  bSIX SPOKED ASTERISK,bWHITE CIRCLE,cSQUARE,aBOM,aBOMB,aBONE,aBOOK,aBOOKMARK,bTABS,aBOOKS,
  aBOOMERANG,aBOTTLE WITH POPPING CORK,aBOTTOM ARC ANTICLOCKWISE ARROW,bCURLY BRACKET,
  bHALF BLACK CIRCLE,cINTEGRAL,cLEFT PARENTHESIS,cRIGHT PARENTHESIS,bLEFT CORNER,cCROP,
  cHALF BRACKET,bPARENTHESIS,bRIGHT CORNER,cCROP,cHALF BRACKET,bSQUARE BRACKET,
  dOVER TOP SQUARE BRACKET,bTORTOISE SHELL BRACKET,aBOUQUET,bOF FLOWERS,aBOW AND ARROW,
  aBOWL OF HYGIEIA,bWITH SPOON,aBOWLING,aBOWTIE,bWITH LEFT HALF BLACK,cRIGHT HALF BLACK,
  aBOX DRAWINGS DOUBLE DOWN AND HORIZONTAL,fLEFT,fRIGHT,dHORIZONTAL,dUP AND HORIZONTAL,fLEFT,
  fRIGHT,dVERTICAL,eAND HORIZONTAL,fLEFT,fRIGHT,cDOWN DOUBLE AND HORIZONTAL SINGLE,fLEFT SINGLE,
  fRIGHT SINGLE,dHEAVY AND HORIZONTAL LIGHT,fLEFT LIGHT,gUP LIGHT,fRIGHT LIGHT,gUP LIGHT,
  fUP HORIZONTAL LIGHT,dLIGHT AND HORIZONTAL HEAVY,fLEFT HEAVY,gUP HEAVY,fRIGHT HEAVY,gUP HEAVY,
  fUP HORIZONTAL HEAVY,dSINGLE AND HORIZONTAL DOUBLE,fLEFT DOUBLE,fRIGHT DOUBLE,
  cHEAVY DOUBLE DASH HORIZONTAL,fVERTICAL,dDOWN,eAND HORIZONTAL,fLEFT,fRIGHT,dHORIZONTAL,dLEFT,
  eAND LIGHT RIGHT,dQUADRUPLE DASH HORIZONTAL,fVERTICAL,dRIGHT,dTRIPLE DASH HORIZONTAL,fVERTICAL,
  dUP,eAND HORIZONTAL,fLEFT,fLIGHT DOWN,fRIGHT,dVERTICAL,eAND HORIZONTAL,fLEFT,fRIGHT,
  cLEFT DOWN HEAVY AND RIGHT UP LIGHT,dHEAVY AND RIGHT DOWN LIGHT,gUP LIGHT,gVERTICAL LIGHT,
  dLIGHT AND RIGHT DOWN HEAVY,gUP HEAVY,gVERTICAL HEAVY,dUP HEAVY AND RIGHT DOWN LIGHT,
  cLIGHT ARC DOWN AND LEFT,gRIGHT,eUP AND LEFT,gRIGHT,dDIAGONAL CROSS,eUPPER LEFT TO LOWER RIGHT,
  fRIGHT TO LOWER LEFT,dDOUBLE DASH HORIZONTAL,fVERTICAL,dDOWN,eAND HORIZONTAL,fLEFT,fRIGHT,
  dHORIZONTAL,dLEFT,eAND HEAVY RIGHT,dQUADRUPLE DASH HORIZONTAL,fVERTICAL,dRIGHT,
  dTRIPLE DASH HORIZONTAL,fVERTICAL,dUP,eAND HEAVY DOWN,fHORIZONTAL,fLEFT,fRIGHT,dVERTICAL,
  eAND HORIZONTAL,fLEFT,fRIGHT,cRIGHT DOWN HEAVY AND LEFT UP LIGHT,dHEAVY AND LEFT DOWN LIGHT,
  gUP LIGHT,gVERTICAL LIGHT,dLIGHT AND LEFT DOWN HEAVY,gUP HEAVY,gVERTICAL HEAVY,
  dUP HEAVY AND LEFT DOWN LIGHT,cUP DOUBLE AND HORIZONTAL SINGLE,fLEFT SINGLE,fRIGHT SINGLE,
  dHEAVY AND DOWN HORIZONTAL LIGHT,fHORIZONTAL LIGHT,fLEFT DOWN LIGHT,gLIGHT,fRIGHT DOWN LIGHT,
  gLIGHT,dLIGHT AND DOWN HORIZONTAL HEAVY,fHORIZONTAL HEAVY,fLEFT DOWN HEAVY,gHEAVY,
  fRIGHT DOWN HEAVY,gHEAVY,dSINGLE AND HORIZONTAL DOUBLE,fLEFT DOUBLE,fRIGHT DOUBLE,
  cVERTICAL DOUBLE AND HORIZONTAL SINGLE,fLEFT SINGLE,fRIGHT SINGLE,dHEAVY AND HORIZONTAL LIGHT,
  fLEFT LIGHT,fRIGHT LIGHT,dLIGHT AND HORIZONTAL HEAVY,fLEFT HEAVY,fRIGHT HEAVY,
  dSINGLE AND HORIZONTAL DOUBLE,fLEFT DOUBLE,fRIGHT DOUBLE,aBOXING GLOVE,aBOY,aBOYS SYMBOL,aBPH,
  aBRAILLE PATTERN BLANK,cDOTS-1,cDOTS-12,cDOTS-123,cDOTS-1234,cDOTS-12345,cDOTS-123456,
  cDOTS-1234567,cDOTS-12345678,cDOTS-1234568,cDOTS-123457,cDOTS-1234578,cDOTS-123458,cDOTS-12346,
  cDOTS-123467,cDOTS-1234678,cDOTS-123468,cDOTS-12347,cDOTS-123478,cDOTS-12348,cDOTS-1235,
  cDOTS-12356,cDOTS-123567,cDOTS-1235678,cDOTS-123568,cDOTS-12357,cDOTS-123578,cDOTS-12358,
  cDOTS-1236,cDOTS-12367,cDOTS-123678,cDOTS-12368,cDOTS-1237,cDOTS-12378,cDOTS-1238,cDOTS-124,
  cDOTS-1245,cDOTS-12456,cDOTS-124567,cDOTS-1245678,cDOTS-124568,cDOTS-12457,cDOTS-124578,
  cDOTS-12458,cDOTS-1246,cDOTS-12467,cDOTS-124678,cDOTS-12468,cDOTS-1247,cDOTS-12478,cDOTS-1248,
  cDOTS-125,cDOTS-1256,cDOTS-12567,cDOTS-125678,cDOTS-12568,cDOTS-1257,cDOTS-12578,cDOTS-1258,
  cDOTS-126,cDOTS-1267,cDOTS-12678,cDOTS-1268,cDOTS-127,cDOTS-1278,cDOTS-128,cDOTS-13,cDOTS-134,
  cDOTS-1345,cDOTS-13456,cDOTS-134567,cDOTS-1345678,cDOTS-134568,cDOTS-13457,cDOTS-134578,
  cDOTS-13458,cDOTS-1346,cDOTS-13467,cDOTS-134678,cDOTS-13468,cDOTS-1347,cDOTS-13478,cDOTS-1348,
  cDOTS-135,cDOTS-1356,cDOTS-13567,cDOTS-135678,cDOTS-13568,cDOTS-1357,cDOTS-13578,cDOTS-1358,
  cDOTS-136,cDOTS-1367,cDOTS-13678,cDOTS-1368,cDOTS-137,cDOTS-1378,cDOTS-138,cDOTS-14,cDOTS-145,
  cDOTS-1456,cDOTS-14567,cDOTS-145678,cDOTS-14568,cDOTS-1457,cDOTS-14578,cDOTS-1458,cDOTS-146,
  cDOTS-1467,cDOTS-14678,cDOTS-1468,cDOTS-147,cDOTS-1478,cDOTS-148,cDOTS-15,cDOTS-156,cDOTS-1567,
  cDOTS-15678,cDOTS-1568,cDOTS-157,cDOTS-1578,cDOTS-158,cDOTS-16,cDOTS-167,cDOTS-1678,cDOTS-168,
  cDOTS-17,cDOTS-178,cDOTS-18,cDOTS-2,cDOTS-23,cDOTS-234,cDOTS-2345,cDOTS-23456,cDOTS-234567,
  cDOTS-2345678,cDOTS-234568,cDOTS-23457,cDOTS-234578,cDOTS-23458,cDOTS-2346,cDOTS-23467,
  cDOTS-234678,cDOTS-23468,cDOTS-2347,cDOTS-23478,cDOTS-2348,cDOTS-235,cDOTS-2356,cDOTS-23567,
  cDOTS-235678,cDOTS-23568,cDOTS-2357,cDOTS-23578,cDOTS-2358,cDOTS-236,cDOTS-2367,cDOTS-23678,
  cDOTS-2368,cDOTS-237,cDOTS-2378,cDOTS-238,cDOTS-24,cDOTS-245,cDOTS-2456,cDOTS-24567,
  cDOTS-245678,cDOTS-24568,cDOTS-2457,cDOTS-24578,cDOTS-2458,cDOTS-246,cDOTS-2467,cDOTS-24678,
  cDOTS-2468,cDOTS-247,cDOTS-2478,cDOTS-248,cDOTS-25,cDOTS-256,cDOTS-2567,cDOTS-25678,cDOTS-2568,
  cDOTS-257,cDOTS-2578,cDOTS-258,cDOTS-26,cDOTS-267,cDOTS-2678,cDOTS-268,cDOTS-27,cDOTS-278,
  cDOTS-28,cDOTS-3,cDOTS-34,cDOTS-345,cDOTS-3456,cDOTS-34567,cDOTS-345678,cDOTS-34568,cDOTS-3457,
  cDOTS-34578,cDOTS-3458,cDOTS-346,cDOTS-3467,cDOTS-34678,cDOTS-3468,cDOTS-347,cDOTS-3478,
  cDOTS-348,cDOTS-35,cDOTS-356,cDOTS-3567,cDOTS-35678,cDOTS-3568,cDOTS-357,cDOTS-3578,cDOTS-358,
  cDOTS-36,cDOTS-367,cDOTS-3678,cDOTS-368,cDOTS-37,cDOTS-378,cDOTS-38,cDOTS-4,cDOTS-45,cDOTS-456,
  cDOTS-4567,cDOTS-45678,cDOTS-4568,cDOTS-457,cDOTS-4578,cDOTS-458,cDOTS-46,cDOTS-467,cDOTS-4678,
  cDOTS-468,cDOTS-47,cDOTS-478,cDOTS-48,cDOTS-5,cDOTS-56,cDOTS-567,cDOTS-5678,cDOTS-568,cDOTS-57,
  cDOTS-578,cDOTS-58,cDOTS-6,cDOTS-67,cDOTS-678,cDOTS-68,cDOTS-7,cDOTS-78,cDOTS-8,aBRAIN,aBREAD,
  aBREAK PERMITTED HERE,aBREAST-FEEDING,aBREVE,aBRICK,aBRIDE WITH VEIL,aBRIDGE AT NIGHT,
  aBRIEFCASE,aBRIEFS,aBROCCOLI,aBROKEN BAR,bCIRCLE WITH NORTHWEST ARROW,bHEART,aBROOM,
  aBROWN HEART,aBS,aBUBBLE TEA,aBUBBLES,aBUCKET,aBUG,aBUILDING CONSTRUCTION,aBULLET,bOPERATOR,
  aBULLHORN,bWITH SOUND WAVES,aBULLSEYE,aBURRITO,aBUS,bSTOP,aBUST IN SILHOUETTE,
  aBUSTS IN SILHOUETTE,aBUTTER,aBUTTERFLY,aBYTE ORDER MARK,aCACTUS,aCADA UNA,aCADUCEUS,aCALENDAR,
  aCALL ME HAND,aCAMERA,bWITH FLASH,aCAMPING,aCAN,aCANCEL,bCHARACTER,aCANCELLATION X,aCANCER,
  aCANDLE,aCANDY,aCANNED FOOD,aCANOE,aCAPITULUM,aCAPRICORN,aCAR SLIDING,aCARD FILE BOX,bINDEX,
  cDIVIDERS,aCARE OF,aCARET,bINSERTION POINT,aCARON,aCAROUSEL HORSE,aCARP STREAMER,aCARPENTRY SAW,
  aCARRIAGE RETURN,aCARROT,aCASTLE,aCAT,bFACE,cWITH TEARS OF JOY,dWRY SMILE,aCAUTION SIGN,aCCH,
  aCEDI SIGN,aCEDILLA,aCELTIC CROSS,aCENT SIGN,aCENTRE LINE SYMBOL,aCENTRELINE LOW LINE,bOVERLINE,
  aCERES,aCGJ,aCHAINS,aCHAIR,aCHARACTER TABULATION,cSET,cWITH JUSTIFICATION,bTIE,
  aCHART WITH DOWNWARDS TREND,cUPWARDS TREND,eAND YEN SIGN,aCHECK MARK,aCHECKER BOARD,
  aCHEERING MEGAPHONE,aCHEESE WEDGE,aCHEQUERED FLAG,aCHERRIES,aCHERRY BLOSSOM,aCHESTNUT,aCHI RHO,
  aCHICKEN,aCHILD,aCHILDREN CROSSING,aCHIPMUNK,aCHIRON,aCHOCOLATE BAR,aCHOPSTICKS,aCHRISTMAS TREE,
  aCHURCH,aCINEMA,aCIRCLE DIVIDED BY HORIZONTAL BAR AND TOP HALF DIVIDED BY VERTICAL BAR,
  bWITH ALL BUT UPPER LEFT QUADRANT BLACK,cHORIZONTAL BAR,cLEFT HALF BLACK,cLOWER HALF BLACK,
  cRIGHT HALF BLACK,cSMALL CIRCLE TO THE RIGHT,cSUPERIMPOSED X,
  cTWO HORIZONTAL STROKES TO THE RIGHT,cUPPER HALF BLACK,dRIGHT QUADRANT BLACK,cVERTICAL FILL,
  aCIRCLED ANTICLOCKWISE ARROW,bANTICLOCKWISE-ROTATED DIVISION SIGN,bASTERISK OPERATOR,bBOLD X,
  bBULLET,bC WITH OVERLAID BACKSLASH,bCC,bCD,bCROSS FORMEE,dWITH FOUR DOTS,eTWO DOTS,cPOMMEE,
  bCROSSING LANES,bDASH,bDIGIT EIGHT,cFIVE,cFOUR,cNINE,cONE,cSEVEN,cSIX,cTHREE,cTWO,cZERO,
  bDIVISION SIGN,cSLASH,bDOLLAR SIGN WITH OVERLAID BACKSLASH,bDOT OPERATOR,bEQUALS,bGREATER-THAN,
  bHEAVY WHITE RIGHTWARDS ARROW,bHORIZONTAL BAR WITH NOTCH,bHUMAN FIGURE,bIDEOGRAPH ACCEPT,
  cADVANTAGE,bINFORMATION SOURCE,bITALIC LATIN CAPITAL LETTER C,fR,bLATIN CAPITAL LETTER A,eB,eC,
  eD,eE,eF,eG,eH,eI,eJ,eK,eL,eM,eN,eO,eP,eQ,eR,eS,eT,eU,eV,eW,eX,eY,eZ,cSMALL LETTER A,eB,eC,eD,
  eE,eF,eG,eH,eI,eJ,eK,eL,eM,eN,eO,eP,eQ,eR,eS,eT,eU,eV,eW,eX,eY,eZ,bLESS-THAN,bMINUS,
  bMULTIPLICATION SIGN WITH CIRCUMFLEX ACCENT,bNUMBER EIGHTEEN,cELEVEN,cFIFTEEN,cFOURTEEN,
  cNINETEEN,cSEVENTEEN,cSIXTEEN,cTEN,cTHIRTEEN,cTWELVE,cTWENTY,bOPEN CENTRE EIGHT POINTED STAR,
  bPARALLEL,bPERPENDICULAR,bPLUS,bPOSTAL MARK,bREVERSE SOLIDUS,bRING OPERATOR,bSQUARE,bTIMES,
  bTRIANGLE,cDOWN,bVERTICAL BAR,bWHITE BULLET,cSTAR,bWZ,bX,bZERO WITH SLASH,aCIRCULATION FUNCTION,
  aCIRCUMFLEX ACCENT,aCIRCUS TENT,aCITYSCAPE,bAT DUSK,aCLAMSHELL MOBILE PHONE,aCLAPPER BOARD,
  aCLAPPING HANDS SIGN,aCLASSICAL BUILDING,aCLEAR SCREEN SYMBOL,aCLINKING BEER MUGS,bGLASSES,
  aCLIPBOARD,aCLOCK FACE EIGHT OCLOCK,cEIGHT-THIRTY,cELEVEN OCLOCK,cELEVEN-THIRTY,cFIVE OCLOCK,
  cFIVE-THIRTY,cFOUR OCLOCK,cFOUR-THIRTY,cNINE OCLOCK,cNINE-THIRTY,cONE OCLOCK,cONE-THIRTY,
  cSEVEN OCLOCK,cSEVEN-THIRTY,cSIX OCLOCK,cSIX-THIRTY,cTEN OCLOCK,cTEN-THIRTY,cTHREE OCLOCK,
  cTHREE-THIRTY,cTWELVE OCLOCK,cTWELVE-THIRTY,cTWO OCLOCK,cTWO-THIRTY,
  aCLOCKWISE CLOSED CIRCLE ARROW,bCONTOUR INTEGRAL,bDOWNWARDS AND UPWARDS OPEN CIRCLE ARROWS,
  bGAPPED CIRCLE ARROW,bINTEGRAL,bOPEN CIRCLE ARROW,bRIGHT AND LEFT SEMICIRCLE ARROWS,
  bRIGHTWARDS AND LEFTWARDS OPEN CIRCLE ARROWS,hWITH CIRCLED ONE OVERLAY,bTOP SEMICIRCLE ARROW,
  bTRIANGLE-HEADED OPEN CIRCLE ARROW,aCLOSE UP,aCLOSED BOOK,bINTERSECTION WITH SERIFS,
  bLOCK WITH KEY,bMAILBOX WITH LOWERED FLAG,dRAISED FLAG,bSUBSET,cOR EQUAL TO,bSUPERSET,
  cOR EQUAL TO,bUMBRELLA,bUNION WITH SERIFS,eAND SMASH PRODUCT,aCLOUD,bWITH LIGHTNING,cRAIN,cSNOW,
  cTORNADO,aCLOWN FACE,aCOAT,aCOCKROACH,aCOCKTAIL GLASS,aCOCONUT,aCOFFIN,aCOIN,aCOLLISION SYMBOL,
  aCOLON,bEQUALS,bSIGN,aCOMBINING ACUTE ACCENT,dBELOW,cTONE MARK,bALMOST EQUAL TO ABOVE,
  bANNUITY SYMBOL,bANTICLOCKWISE ARROW ABOVE,cRING OVERLAY,bASTERISK ABOVE,cBELOW,bBREVE,cBELOW,
  bBRIDGE ABOVE,cBELOW,bCANDRABINDU,bCARON,cBELOW,bCEDILLA,bCIRCUMFLEX ACCENT,dBELOW,
  bCLOCKWISE ARROW ABOVE,cRING OVERLAY,bCOMMA ABOVE,dRIGHT,cBELOW,bCONJOINING MACRON,dBELOW,
  bCYRILLIC DASIA PNEUMATA,cHUNDRED THOUSANDS SIGN,cMILLIONS SIGN,cPALATALIZATION,cPOKRYTIE,
  cPSILI PNEUMATA,cTITLO,dLEFT HALF,dRIGHT HALF,bDIAERESIS,cBELOW,bDOT ABOVE,dRIGHT,cBELOW,
  bDOUBLE ACUTE ACCENT,cBREVE,dBELOW,cGRAVE ACCENT,cINVERTED BREVE,cLOW LINE,cMACRON,dBELOW,
  cOVERLINE,cRIGHTWARDS ARROW BELOW,cRING BELOW,cTILDE,dLEFT HALF,dRIGHT HALF,
  cVERTICAL LINE ABOVE,eBELOW,dSTROKE OVERLAY,bDOWN TACK BELOW,bENCLOSING CIRCLE,dBACKSLASH,
  cDIAMOND,cKEYCAP,cSCREEN,cSQUARE,cUPWARD POINTING TRIANGLE,bEQUALS SIGN BELOW,bFERMATA,
  bFOUR DOTS ABOVE,bGRAPHEME JOINER,bGRAVE ACCENT,dBELOW,cTONE MARK,bGREEK DIALYTIKA TONOS,
  cKORONIS,cPERISPOMENI,cYPOGEGRAMMENI,bHOMOTHETIC ABOVE,bHOOK ABOVE,bHORN,bINVERTED BREVE,dBELOW,
  cBRIDGE BELOW,cDOUBLE ARCH BELOW,bKATAKANA-HIRAGANA SEMI-VOICED SOUND MARK,cVOICED SOUND MARK,
  bLATIN SMALL LETTER A,eC,eD,eE,eH,eI,eM,eO,eR,eT,eU,eV,eX,bLEFT ANGLE ABOVE,dBELOW,cARROW ABOVE,
  dBELOW,cARROWHEAD BELOW,cHALF RING ABOVE,eBELOW,cHARPOON ABOVE,cRIGHT ARROW ABOVE,eBELOW,
  cTACK BELOW,bLEFTWARDS ARROW OVERLAY,cHARPOON WITH BARB DOWNWARDS,bLIGATURE LEFT HALF,eBELOW,
  cRIGHT HALF,eBELOW,bLONG DOUBLE SOLIDUS OVERLAY,cSOLIDUS OVERLAY,cSTROKE OVERLAY,
  cVERTICAL LINE OVERLAY,bLOW LINE,bMACRON,cBELOW,cLEFT HALF,eBELOW,cRIGHT HALF,eBELOW,
  bMINUS SIGN BELOW,bNOT TILDE ABOVE,bOGONEK,bOVERLINE,bPALATALIZED HOOK BELOW,bPLUS SIGN BELOW,
  bRETROFLEX HOOK BELOW,bREVERSE SOLIDUS OVERLAY,bREVERSED COMMA ABOVE,bRIGHT ARROW ABOVE,dBELOW,
  cARROWHEAD ABOVE,dAND UP ARROWHEAD BELOW,dBELOW,cHALF RING ABOVE,eBELOW,cHARPOON ABOVE,
  cTACK BELOW,bRIGHTWARDS HARPOON WITH BARB DOWNWARDS,bRING ABOVE,cBELOW,cOVERLAY,bSEAGULL BELOW,
  bSHORT SOLIDUS OVERLAY,cSTROKE OVERLAY,cVERTICAL LINE OVERLAY,bSQUARE BELOW,bTHREE DOTS ABOVE,
  bTILDE,cBELOW,cLEFT HALF BELOW,cOVERLAY,cRIGHT HALF BELOW,bTRIPLE UNDERDOT,bTURNED COMMA ABOVE,
  bUP TACK BELOW,bUPWARDS ARROW BELOW,bVERTICAL LINE ABOVE,dBELOW,cTILDE,bWIDE BRIDGE ABOVE,
  bX ABOVE,cBELOW,bZIGZAG ABOVE,aCOMET,aCOMMA,aCOMMERCIAL AT,bMINUS SIGN,aCOMPASS,aCOMPLEMENT,
  aCOMPOSITION SYMBOL,aCOMPRESSION,aCONFETTI BALL,aCONFOUNDED FACE,aCONFUSED FACE,
  aCONGRUENT WITH DOT ABOVE,aCONICAL TAPER,aCONJUNCTION,aCONSTRUCTION SIGN,bWORKER,
  aCONTAINS AS MEMBER,cNORMAL SUBGROUP,eOR EQUAL TO,bWITH LONG HORIZONTAL STROKE,cOVERBAR,
  cVERTICAL BAR AT END OF HORIZONTAL STROKE,aCONTINUOUS UNDERLINE SYMBOL,aCONTOUR INTEGRAL,
  aCONTROL KNOBS,bSEQUENCE INTRODUCER,aCONVENIENCE STORE,aCOOKED RICE,aCOOKIE,aCOOKING,
  aCOPTIC CAPITAL LETTER DEI,dFEI,dGANGIA,dHORI,dKHEI,dSHEI,dSHIMA,bSMALL LETTER DEI,dFEI,dGANGIA,
  dHORI,dKHEI,dSHEI,dSHIMA,aCOPYLEFT SYMBOL,aCOPYRIGHT SIGN,aCORAL,aCORNISH VERSE DIVIDER,
  aCORRESPONDS TO,aCOUCH AND LAMP,aCOUNTERBORE,aCOUNTERSINK,aCOUPLE WITH HEART,aCOW,bFACE,aCR,
  aCRAB,aCREDIT CARD,aCRESCENT MOON,aCRICKET,bBAT AND BALL,aCROCODILE,aCROISSANT,aCROSS MARK,
  bOF JERUSALEM,cLORRAINE,bPATTY WITH LEFT CROSSBAR,dRIGHT CROSSBAR,bPOMMEE,
  cWITH HALF-CIRCLE BELOW,aCROSSED FLAGS,bNEGATIVE SQUARED LATIN CAPITAL LETTER P,bSWORDS,
  aCROSSING LANES,aCROWN,aCRUTCH,aCRUZEIRO SIGN,aCRYING CAT FACE,bFACE,aCRYSTAL BALL,aCSI,
  aCUBE ROOT,aCUCUMBER,aCUP ON BLACK SQUARE,bWITH STRAW,aCUPCAKE,aCUPIDO,aCURLING STONE,
  aCURLY BRACKET EXTENSION,bLOGICAL AND,cOR,bLOOP,aCURRENCY EXCHANGE,bSIGN,aCURRY AND RICE,
  aCURVED STEM PARAGRAPH SIGN ORNAMENT,aCUSTARD,aCUSTOMS,aCUT OF MEAT,aCYCLONE,aCYLINDRICITY,
  aCYRILLIC CAPITAL LETTER A,eWITH BREVE,fDIAERESIS,dABKHASIAN CHE,fWITH DESCENDER,eDZE,eHA,
  dALEUT KA,dBARRED O,fWITH DIAERESIS,dBASHKIR KA,dBE,dBIG YUS,dBYELORUSSIAN-UKRAINIAN I,dCHE,
  eWITH DESCENDER,fDIAERESIS,fVERTICAL STROKE,dDCHE,dDE,dDJE,dDZE,dDZHE,dDZZHE,dE,eWITH DIAERESIS,
  dEF,dEL,eWITH DESCENDER,fHOOK,fMIDDLE HOOK,fTAIL,dEM,eWITH TAIL,dEN,eWITH DESCENDER,fHOOK,
  fLEFT HOOK,fMIDDLE HOOK,fTAIL,dER,eWITH TICK,dES,eWITH DESCENDER,dFITA,dGHE,eWITH DESCENDER,
  fMIDDLE HOOK,fSTROKE,gAND HOOK,fUPTURN,dGJE,dHA,eWITH DESCENDER,fHOOK,fSTROKE,dHARD SIGN,dI,
  eWITH DIAERESIS,fGRAVE,fMACRON,dIE,eWITH BREVE,fGRAVE,dIO,dIOTIFIED BIG YUS,eE,eLITTLE YUS,
  dIZHITSA,eWITH DOUBLE GRAVE ACCENT,dJE,dKA,eWITH DESCENDER,fHOOK,fSTROKE,fVERTICAL STROKE,
  dKHAKASSIAN CHE,dKJE,dKOMI DE,eDJE,eDZJE,eLJE,eNJE,eSJE,eTJE,eZJE,dKOPPA,dKSI,dLHA,dLITTLE YUS,
  dLJE,dNJE,dO,eWITH DIAERESIS,dOMEGA,eWITH TITLO,dOT,dPE,eWITH DESCENDER,fMIDDLE HOOK,dPSI,dQA,
  dREVERSED ZE,dRHA,dROUND OMEGA,dSCHWA,eWITH DIAERESIS,dSEMISOFT SIGN,dSHA,dSHCHA,dSHHA,
  eWITH DESCENDER,dSHORT I,fWITH TAIL,eU,dSOFT SIGN,dSTRAIGHT U,fWITH STROKE,dTE,eWITH DESCENDER,
  dTSE,dTSHE,dU,eWITH DIAERESIS,fDOUBLE ACUTE,fMACRON,dUK,dUKRAINIAN IE,dVE,dWE,dYA,dYAE,dYAT,
  dYERU,eWITH DIAERESIS,dYI,dYU,dZE,eWITH DESCENDER,fDIAERESIS,dZHE,eWITH BREVE,fDESCENDER,
  fDIAERESIS,cLIGATURE A IE,dEN GHE,dTE TSE,bLETTER PALOCHKA,bSMALL LETTER A,eWITH BREVE,
  fDIAERESIS,dABKHASIAN CHE,fWITH DESCENDER,eDZE,eHA,dALEUT KA,dBARRED O,fWITH DIAERESIS,
  dBASHKIR KA,dBE,dBIG YUS,dBYELORUSSIAN-UKRAINIAN I,dCHE,eWITH DESCENDER,fDIAERESIS,
  fVERTICAL STROKE,dDCHE,dDE,dDJE,dDZE,dDZHE,dDZZHE,dE,eWITH DIAERESIS,dEF,dEL,eWITH DESCENDER,
  fHOOK,fMIDDLE HOOK,fTAIL,dEM,eWITH TAIL,dEN,eWITH DESCENDER,fHOOK,fLEFT HOOK,fMIDDLE HOOK,fTAIL,
  dER,eWITH TICK,dES,eWITH DESCENDER,dFITA,dGHE,eWITH DESCENDER,fMIDDLE HOOK,fSTROKE,gAND HOOK,
  fUPTURN,dGJE,dHA,eWITH DESCENDER,fHOOK,fSTROKE,dHARD SIGN,dI,eWITH DIAERESIS,fGRAVE,fMACRON,dIE,
  eWITH BREVE,fGRAVE,dIO,dIOTIFIED BIG YUS,eE,eLITTLE YUS,dIZHITSA,eWITH DOUBLE GRAVE ACCENT,dJE,
  dKA,eWITH DESCENDER,fHOOK,fSTROKE,fVERTICAL STROKE,dKHAKASSIAN CHE,dKJE,dKOMI DE,eDJE,eDZJE,
  eLJE,eNJE,eSJE,eTJE,eZJE,dKOPPA,dKSI,dLHA,dLITTLE YUS,dLJE,dNJE,dO,eWITH DIAERESIS,dOMEGA,
  eWITH TITLO,dOT,dPALOCHKA,dPE,eWITH DESCENDER,fMIDDLE HOOK,dPSI,dQA,dREVERSED ZE,dRHA,
  dROUND OMEGA,dSCHWA,eWITH DIAERESIS,dSEMISOFT SIGN,dSHA,dSHCHA,dSHHA,eWITH DESCENDER,dSHORT I,
  fWITH TAIL,eU,dSOFT SIGN,dSTRAIGHT U,fWITH STROKE,dTE,eWITH DESCENDER,dTSE,dTSHE,dU,
  eWITH DIAERESIS,fDOUBLE ACUTE,fMACRON,dUK,dUKRAINIAN IE,dVE,dWE,dYA,dYAE,dYAT,dYERU,
  eWITH DIAERESIS,dYI,dYU,dZE,eWITH DESCENDER,fDIAERESIS,dZHE,eWITH BREVE,fDESCENDER,fDIAERESIS,
  cLIGATURE A IE,dEN GHE,dTE TSE,bTHOUSANDS SIGN,aDAGGER,bKNIFE,bWITH LEFT GUARD,cRIGHT GUARD,
  aDALET SYMBOL,aDANCER,aDANGO,aDARK SHADE,bSUNGLASSES,aDASH SYMBOL,bWITH LEFT UPTURN,
  aDASHED LOW LINE,bOVERLINE,bTRIANGLE-HEADED RIGHTWARDS ARROW,aDATA LINK ESCAPE,aDC1,aDC2,aDC3,
  aDC4,aDCS,aDEAF PERSON,aDECIDUOUS TREE,aDECIMAL EXPONENT SYMBOL,bSEPARATOR KEY SYMBOL,
  aDECREASE FONT SIZE SYMBOL,aDEER,aDEGREE CELSIUS,bFAHRENHEIT,bSIGN,aDEL,aDELETE,aDELIVERY TRUCK,
  aDELTA EQUAL TO,aDENTISTRY SYMBOL LIGHT DOWN AND HORIZONTAL,gWITH CIRCLE,hTRIANGLE,hWAVE,
  dUP AND HORIZONTAL,gWITH CIRCLE,hTRIANGLE,hWAVE,dVERTICAL AND BOTTOM LEFT,gRIGHT,fTOP LEFT,
  gRIGHT,fWAVE,eWITH CIRCLE,fTRIANGLE,aDEPARTMENT STORE,aDERELICT HOUSE BUILDING,aDESCENDING NODE,
  aDESERT,bISLAND,aDESKTOP COMPUTER,bWINDOW,aDEVICE CONTROL FOUR,cONE,cSTRING,cTHREE,cTWO,
  aDIAERESIS,aDIAMETER SIGN,aDIAMOND OPERATOR,bSHAPE WITH A DOT INSIDE,bTARGET,
  bWITH BOTTOM HALF BLACK,cLEFT HALF BLACK,cRIGHT HALF BLACK,cTOP HALF BLACK,aDIE FACE-1,bFACE-2,
  bFACE-3,bFACE-4,bFACE-5,bFACE-6,aDIESEL LOCOMOTIVE,aDIFFERENCE BETWEEN,aDIGIT EIGHT,cCOMMA,
  cFULL STOP,bFIVE,cCOMMA,cFULL STOP,bFOUR,cCOMMA,cFULL STOP,bNINE,cCOMMA,cFULL STOP,bONE,cCOMMA,
  cFULL STOP,bSEVEN,cCOMMA,cFULL STOP,bSIX,cCOMMA,cFULL STOP,bTHREE,cCOMMA,cFULL STOP,bTWO,cCOMMA,
  cFULL STOP,bZERO,cCOMMA,cFULL STOP,aDIGRAM FOR GREATER YANG,dYIN,cLESSER YANG,dYIN,
  aDIMENSION ORIGIN,aDINGBAT CIRCLED SANS-SERIF DIGIT EIGHT,eFIVE,eFOUR,eNINE,eONE,eSEVEN,eSIX,
  eTHREE,eTWO,eZERO,dNUMBER TEN,bNEGATIVE CIRCLED DIGIT EIGHT,eFIVE,eFOUR,eNINE,eONE,eSEVEN,eSIX,
  eTHREE,eTWO,dNUMBER TEN,dSANS-SERIF DIGIT EIGHT,fFIVE,fFOUR,fNINE,fONE,fSEVEN,fSIX,fTHREE,fTWO,
  fZERO,eNUMBER TEN,aDIRECT CURRENT SYMBOL FORM TWO,bHIT,aDISABLED CAR,
  aDISAPPOINTED BUT RELIEVED FACE,bFACE,aDISCONTINUOUS UNDERLINE SYMBOL,aDISGUISED FACE,
  aDITTO MARK,aDIVIDES,aDIVING MASK,aDIVISION SIGN,bSLASH,bTIMES,aDIVORCE SYMBOL,aDIYA LAMP,
  aDIZZY FACE,bSYMBOL,aDLE,aDNA DOUBLE HELIX,aDO NOT LITTER SYMBOL,aDOCUMENT,bWITH PICTURE,cTEXT,
  dAND PICTURE,aDODO,aDOES NOT CONTAIN AS MEMBER,eNORMAL SUBGROUP,gOR EQUAL,cDIVIDE,
  dWITH REVERSED NEGATION SLASH,cFORCE,cPRECEDE,dOR EQUAL,cPROVE,cSUCCEED,dOR EQUAL,aDOG,bFACE,
  aDOLLAR SIGN,aDOLPHIN,aDOMINO TILE HORIZONTAL BACK,cHORIZONTAL-00-00,cHORIZONTAL-00-01,
  cHORIZONTAL-00-02,cHORIZONTAL-00-03,cHORIZONTAL-00-04,cHORIZONTAL-00-05,cHORIZONTAL-00-06,
  cHORIZONTAL-01-00,cHORIZONTAL-01-01,cHORIZONTAL-01-02,cHORIZONTAL-01-03,cHORIZONTAL-01-04,
  cHORIZONTAL-01-05,cHORIZONTAL-01-06,cHORIZONTAL-02-00,cHORIZONTAL-02-01,cHORIZONTAL-02-02,
  cHORIZONTAL-02-03,cHORIZONTAL-02-04,cHORIZONTAL-02-05,cHORIZONTAL-02-06,cHORIZONTAL-03-00,
  cHORIZONTAL-03-01,cHORIZONTAL-03-02,cHORIZONTAL-03-03,cHORIZONTAL-03-04,cHORIZONTAL-03-05,
  cHORIZONTAL-03-06,cHORIZONTAL-04-00,cHORIZONTAL-04-01,cHORIZONTAL-04-02,cHORIZONTAL-04-03,
  cHORIZONTAL-04-04,cHORIZONTAL-04-05,cHORIZONTAL-04-06,cHORIZONTAL-05-00,cHORIZONTAL-05-01,
  cHORIZONTAL-05-02,cHORIZONTAL-05-03,cHORIZONTAL-05-04,cHORIZONTAL-05-05,cHORIZONTAL-05-06,
  cHORIZONTAL-06-00,cHORIZONTAL-06-01,cHORIZONTAL-06-02,cHORIZONTAL-06-03,cHORIZONTAL-06-04,
  cHORIZONTAL-06-05,cHORIZONTAL-06-06,cVERTICAL BACK,cVERTICAL-00-00,cVERTICAL-00-01,
  cVERTICAL-00-02,cVERTICAL-00-03,cVERTICAL-00-04,cVERTICAL-00-05,cVERTICAL-00-06,cVERTICAL-01-00,
  cVERTICAL-01-01,cVERTICAL-01-02,cVERTICAL-01-03,cVERTICAL-01-04,cVERTICAL-01-05,cVERTICAL-01-06,
  cVERTICAL-02-00,cVERTICAL-02-01,cVERTICAL-02-02,cVERTICAL-02-03,cVERTICAL-02-04,cVERTICAL-02-05,
  cVERTICAL-02-06,cVERTICAL-03-00,cVERTICAL-03-01,cVERTICAL-03-02,cVERTICAL-03-03,cVERTICAL-03-04,
  cVERTICAL-03-05,cVERTICAL-03-06,cVERTICAL-04-00,cVERTICAL-04-01,cVERTICAL-04-02,cVERTICAL-04-03,
  cVERTICAL-04-04,cVERTICAL-04-05,cVERTICAL-04-06,cVERTICAL-05-00,cVERTICAL-05-01,cVERTICAL-05-02,
  cVERTICAL-05-03,cVERTICAL-05-04,cVERTICAL-05-05,cVERTICAL-05-06,cVERTICAL-06-00,cVERTICAL-06-01,
  cVERTICAL-06-02,cVERTICAL-06-03,cVERTICAL-06-04,cVERTICAL-06-05,cVERTICAL-06-06,aDONG SIGN,
  aDOOR,aDOT ABOVE,bMINUS,bOPERATOR,bPLUS,aDOTTED CIRCLE,bCROSS,bFENCE,bLINE FACE,bOBELOS,
  bRIGHT-POINTING ANGLE,bSOLIDUS,bSQUARE,bTRANSPOSITION MARKER,aDOUBLE ACUTE ACCENT,
  bCIRCLED DIGIT EIGHT,dFIVE,dFOUR,dNINE,dONE,dSEVEN,dSIX,dTHREE,dTWO,cNUMBER TEN,bCOLON EQUAL,
  bCURLY LOOP,bDAGGER,bDOWN TACK,bEXCLAMATION MARK,bHIGH-REVERSED-9 QUOTATION MARK,bHYPHEN,
  bINTEGRAL,bINTERSECTION,bLEFT ARC GREATER-THAN BRACKET,bLOGICAL AND,cOR,bLOW LINE,
  bLOW-9 QUOTATION MARK,bLOW-REVERSED-9 QUOTATION MARK,bNESTED GREATER-THAN,cLESS-THAN,
  dWITH UNDERBAR,bOBLIQUE HYPHEN,bPLUS,bPRECEDES,bPRIME,cQUOTATION MARK,bQUESTION MARK,
  bRIGHT ARC LESS-THAN BRACKET,bSOLIDUS OPERATOR,bSQUARE INTERSECTION,cUNION,bSTACKED COMMA,
  bSTROKE NOT SIGN,bSUBSET,bSUCCEEDS,bSUPERSET,bSUSPENSION MARK,bUNION,bUP TACK,bVERTICAL BAR,
  dDOUBLE LEFT TURNSTILE,eRIGHT TURNSTILE,dLEFT TURNSTILE,cLINE,bWAVY OVERLINE,
  aDOUBLE-ENDED MULTIMAP,aDOUBLE-LINE EQUAL TO OR GREATER-THAN,eLESS-THAN,
  bSLANTED EQUAL TO OR GREATER-THAN,fLESS-THAN,cGREATER-THAN OR EQUAL TO,cLESS-THAN OR EQUAL TO,
  aDOUBLE-STRUCK CAPITAL C,cGAMMA,cH,cN,cP,cPI,cQ,cR,cZ,bITALIC CAPITAL D,cSMALL D,dE,dI,dJ,
  bN-ARY SUMMATION,bSMALL GAMMA,cPI,aDOUBLED FEMALE SIGN,bMALE SIGN,bSYMBOL,aDOUGHNUT,
  aDOVE OF PEACE,aDOWN ARROWHEAD,bFISH TAIL,bRIGHT DIAGONAL ELLIPSIS,bTACK,cWITH CIRCLE BELOW,
  aDOWN-POINTING RED TRIANGLE,bSMALL RED TRIANGLE,bTRIANGLE WITH LEFT HALF BLACK,
  dRIGHT HALF BLACK,aDOWNWARD FACING HOOK,dWITH DOT,cNOTCHED HOOK,eWITH DOT,aDOWNWARDS ANCORA,
  bARROW,cFROM BAR,cLEFTWARDS OF UPWARDS ARROW,cTO BAR,cWITH CORNER LEFTWARDS,dDOUBLE STROKE,
  dEQUILATERAL ARROWHEAD,dHORIZONTAL STROKE,dLARGE TRIANGLE ARROWHEAD,dMEDIUM TRIANGLE ARROWHEAD,
  dNOTCHED TAIL,dSMALL EQUILATERAL ARROWHEAD,eTRIANGLE ARROWHEAD,dTIP LEFTWARDS,eRIGHTWARDS,
  bBLACK ARROW,cCIRCLED WHITE ARROW,bCOMPRESSED ARROW,bDASHED ARROW,bDOUBLE ARROW,
  bFINGER-POST ARROW,bHARPOON WITH BARB LEFT BESIDE DOWNWARDS HARPOON WITH BARB RIGHT,
  gUPWARDS HARPOON WITH BARB RIGHT,fFROM BAR,fTO BAR,eLEFTWARDS,eRIGHT FROM BAR,fTO BAR,
  eRIGHTWARDS,bHEAVY ARROW,cCOMPRESSED ARROW,bPAIRED ARROWS,bQUADRUPLE ARROW,bROCKET,
  bSANS-SERIF ARROW,bSQUARED ARROW,bTRIANGLE ARROWHEAD,bTRIANGLE-HEADED ARROW,
  dLEFTWARDS OF UPWARDS TRIANGLE-HEADED ARROW,dTO BAR,dWITH BOLD SHAFT,eDOUBLE HORIZONTAL STROKE,
  eHEAVY SHAFT,eLONG TIP LEFTWARDS,gRIGHTWARDS,eMEDIUM SHAFT,eNARROW SHAFT,eVERY HEAVY SHAFT,
  cDASHED ARROW,cPAIRED ARROWS,cZIGZAG ARROW,bTRIPLE ARROW,bTWO HEADED ARROW,
  bTWO-HEADED ARROW WITH TRIANGLE ARROWHEADS,bWHITE ARROW,dWITHIN TRIANGLE ARROWHEAD,
  bZIGZAG ARROW,aDRACHMA SIGN,aDRAFTING POINT RIGHTWARDS ARROW,aDRAGON,bFACE,aDRESS,
  aDRIVE SLOW SIGN,aDROMEDARY CAMEL,aDROOLING FACE,aDROP OF BLOOD,aDROPLET,aDRUM WITH DRUMSTICKS,
  aDUCK,aDUMPLING,aDVD,aE-MAIL SYMBOL,aEAGLE,aEAR,bOF MAIZE,cRICE,bWITH HEARING AID,aEARTH,
  bGLOBE AMERICAS,cASIA-AUSTRALIA,cEUROPE-AFRICA,bGROUND,aEAST SYRIAC CROSS,aEDITORIAL CORONIS,
  aEGG,aEIGHT PETALLED OUTLINED BLACK FLORETTE,bPOINTED BLACK STAR,cPINWHEEL STAR,
  cRECTILINEAR BLACK STAR,bSPOKED ASTERISK,bTEARDROP-SPOKED PROPELLER ASTERISK,aEIGHTH NOTE,
  aEJECT SYMBOL,aELECTRIC ARROW,bLIGHT BULB,bPLUG,bTORCH,aELECTRICAL INTERSECTION,aELEMENT OF,
  cOPENING DOWNWARDS,dUPWARDS,cWITH DOT ABOVE,dLONG HORIZONTAL STROKE,dOVERBAR,
  dTWO HORIZONTAL STROKES,dUNDERBAR,dVERTICAL BAR AT END OF HORIZONTAL STROKE,aELEPHANT,aELEVATOR,
  aELF,aEM DASH,bQUAD,bSPACE,aEMOJI COMPONENT BALD,cCURLY HAIR,cRED HAIR,cWHITE HAIR,
  bMODIFIER FITZPATRICK TYPE-1-2,dTYPE-3,dTYPE-4,dTYPE-5,dTYPE-6,aEMPHASIS SYMBOL,aEMPTY DOCUMENT,
  bNEST,bNOTE,cPAD,cPAGE,bPAGE,bPAGES,bSET,cWITH LEFT ARROW ABOVE,dOVERBAR,dRIGHT ARROW ABOVE,
  dSMALL CIRCLE ABOVE,aEN DASH,bQUAD,bSPACE,aEND OF GUARDED AREA,cLINE,cMEDIUM,cPROOF,
  cPROTECTED AREA,cSELECTED AREA,cTEXT,cTRANSMISSION,dBLOCK,bWITH LEFTWARDS ARROW ABOVE,aENQ,
  aENQUIRY,aENTER SYMBOL,aENVELOPE,bWITH DOWNWARDS ARROW ABOVE,cLIGHTNING,aEOL,aEOM,aEOT,aEPA,
  aEQUAL AND PARALLEL TO,bTO BY DEFINITION,cOR GREATER-THAN,dLESS-THAN,dPRECEDES,dSUCCEEDS,
  aEQUALS COLON,bSIGN,cABOVE LEFTWARDS ARROW,dPLUS SIGN,dRIGHTWARDS ARROW,dTILDE OPERATOR,
  cAND SLANTED PARALLEL,fWITH TILDE ABOVE,cWITH BUMPY ABOVE,dDOT BELOW,dINFINITY BELOW,
  dTWO DOTS ABOVE AND TWO DOTS BELOW,bWITH ASTERISK,aEQUIANGULAR TO,aEQUIVALENT TO,
  bWITH FOUR DOTS ABOVE,aERASE TO THE LEFT,dRIGHT,aERIS FORM ONE,cTWO,aERROR-BARRED BLACK CIRCLE,
  cDIAMOND,cSQUARE,bWHITE CIRCLE,cDIAMOND,cSQUARE,aESA,aESC,aESCAPE,aESTIMATED SYMBOL,aESTIMATES,
  aETB,aETX,aEULER CONSTANT,aEURO SIGN,aEURO-CURRENCY SIGN,aEUROPEAN CASTLE,bPOST OFFICE,
  aEVERGREEN TREE,aEXCESS,aEXCLAMATION MARK,bQUESTION MARK,aEXPRESSIONLESS FACE,
  aEXTRATERRESTRIAL ALIEN,aEXTREMELY HEAVY FIVE SPOKED ASTERISK,cGREEK CROSS,cSALTIRE,
  cSIX SPOKED ASTERISK,cWHITE CIRCLE,dSQUARE,aEYE,aEYEGLASSES,aEYES,aFACE HOLDING BACK TEARS,
  bMASSAGE,bPALM,bSAVOURING DELICIOUS FOOD,bSCREAMING IN FEAR,bTHROWING A KISS,bWITH COLD SWEAT,
  cCOWBOY HAT,cDIAGONAL MOUTH,cFINGER COVERING CLOSED LIPS,cHEAD-BANDAGE,cLOOK OF TRIUMPH,
  cMEDICAL MASK,cMONOCLE,cNO GOOD GESTURE,cOK GESTURE,cONE EYEBROW RAISED,
  cOPEN EYES AND HAND OVER MOUTH,dMOUTH,eAND COLD SWEAT,eVOMITING,cPARTY HORN AND PARTY HAT,
  cPEEKING EYE,cPLEADING EYES,cROLLING EYES,cSTUCK-OUT TONGUE,eAND TIGHTLY-CLOSED EYES,
  fWINKING EYE,cTEARS OF JOY,cTHERMOMETER,cUNEVEN EYES AND WAVY MOUTH,bWITHOUT MOUTH,
  aFACSIMILE SIGN,aFACTORY,aFAIRY,aFALAFEL,aFALLEN LEAF,
  aFALLING DIAGONAL CROSSING NORTH EAST ARROW,dRISING DIAGONAL,cIN WHITE CIRCLE IN BLACK SQUARE,
  aFAMILY,aFARSI SYMBOL,aFATHER CHRISTMAS,aFAX ICON,bMACHINE,aFEARFUL FACE,aFEATHER,aFEMALE SIGN,
  aFEMININE ORDINAL INDICATOR,aFENCER,aFERRIS WHEEL,aFERRY,aFF,aFIELD HOCKEY STICK AND BALL,
  aFIGURE DASH,bSPACE,aFILE CABINET,bFOLDER,bSEPARATOR,aFILM FRAMES,bPROJECTOR,
  aFINITE PART INTEGRAL,aFIRE,bENGINE,bEXTINGUISHER,aFIRECRACKER,aFIREWORK SPARKLER,aFIREWORKS,
  aFIRST PLACE MEDAL,bQUARTER MOON,dSYMBOL,dWITH FACE,bSTRONG ISOLATE,aFISH,
  bCAKE WITH SWIRL DESIGN,aFISHEYE,aFISHING POLE AND FISH,aFISTED HAND SIGN,aFIVE DOT MARK,
  cPUNCTUATION,aFLAG IN HOLE,aFLAMINGO,aFLAT SHOE,aFLATBREAD,aFLATNESS,aFLEUR-DE-LIS,
  aFLEXED BICEPS,aFLOPPY DISK,aFLORAL HEART,aFLOWER,bPLAYING CARDS,bPUNCTUATION MARK,
  aFLUSHED FACE,aFLY,aFLYING DISC,bENVELOPE,bSAUCER,aFOG,aFOGGY,aFOLDER,aFONDUE,aFOOT,aFOOTPRINTS,
  aFOR ALL,aFORCES,aFORK AND KNIFE,dWITH PLATE,aFORKED PARAGRAPHOS,aFORKING,aFORM FEED,
  aFORTUNE COOKIE,aFOUNTAIN,aFOUR BALLOON-SPOKED ASTERISK,bCLUB-SPOKED ASTERISK,
  bCORNER ARROWS CIRCLING ANTICLOCKWISE,bDOT MARK,cPUNCTUATION,bLEAF CLOVER,bPOINTED BLACK STAR,
  bTEARDROP-SPOKED ASTERISK,aFOUR-PER-EM SPACE,aFOURTH ROOT,aFOX FACE,aFRACTION NUMERATOR ONE,
  bSLASH,aFRAME WITH AN X,cPICTURE,cTILES,aFREEZING FACE,aFRENCH FRANC SIGN,bFRIES,aFRIED SHRIMP,
  aFROG FACE,aFRONT-FACING BABY CHICK,aFRONT-TILTED SHADOWED WHITE RIGHTWARDS ARROW,aFROWN,
  aFROWNING FACE WITH OPEN MOUTH,aFS,aFSI,aFUEL PUMP,aFULL BLOCK,bMOON SYMBOL,cWITH FACE,
  bOUTER JOIN,bSTOP,aFULLWIDTH AMPERSAND,bAPOSTROPHE,bASTERISK,bBROKEN BAR,bCENT SIGN,
  bCIRCUMFLEX ACCENT,bCOLON,bCOMMA,bCOMMERCIAL AT,bDIGIT EIGHT,cFIVE,cFOUR,cNINE,cONE,cSEVEN,cSIX,
  cTHREE,cTWO,cZERO,bDOLLAR SIGN,bEQUALS SIGN,bEXCLAMATION MARK,bFULL STOP,bGRAVE ACCENT,
  bGREATER-THAN SIGN,bHYPHEN-MINUS,bLATIN CAPITAL LETTER A,eB,eC,eD,eE,eF,eG,eH,eI,eJ,eK,eL,eM,eN,
  eO,eP,eQ,eR,eS,eT,eU,eV,eW,eX,eY,eZ,cSMALL LETTER A,eB,eC,eD,eE,eF,eG,eH,eI,eJ,eK,eL,eM,eN,eO,
  eP,eQ,eR,eS,eT,eU,eV,eW,eX,eY,eZ,bLEFT CURLY BRACKET,cPARENTHESIS,cSQUARE BRACKET,
  cWHITE PARENTHESIS,bLESS-THAN SIGN,bLOW LINE,bMACRON,bNOT SIGN,bNUMBER SIGN,bPERCENT SIGN,
  bPLUS SIGN,bPOUND SIGN,bQUESTION MARK,bQUOTATION MARK,bREVERSE SOLIDUS,bRIGHT CURLY BRACKET,
  cPARENTHESIS,cSQUARE BRACKET,cWHITE PARENTHESIS,bSEMICOLON,bSOLIDUS,bTILDE,bVERTICAL LINE,
  bWON SIGN,bYEN SIGN,aFUNCTION APPLICATION,aFUNERAL URN,aFUSE,aGAME DIE,aGARLIC,aGEAR,
  bWITH HANDLES,bWITHOUT HUB,aGEM STONE,aGEMINI,aGENIE,aGEOMETRIC PROPORTION,
  aGEOMETRICALLY EQUAL TO,bEQUIVALENT TO,aGERMAN PENNY SIGN,aGETA MARK,aGHOST,aGIMEL SYMBOL,
  aGIRAFFE FACE,aGIRL,aGIRLS SYMBOL,aGLASS OF MILK,aGLEICH STARK,aGLOBE WITH MERIDIANS,aGLOVES,
  aGLOWING STAR,aGOAL NET,aGOAT,aGOGGLES,aGOLFER,aGORILLA,aGRADUATION CAP,aGRAPES,aGRAVE ACCENT,
  aGREATER-THAN ABOVE DOUBLE-LINE EQUAL ABOVE LESS-THAN,cLESS-THAN ABOVE DOUBLE-LINE EQUAL,
  cRIGHTWARDS ARROW,cSIMILAR ABOVE LESS-THAN,dOR EQUAL,
  cSLANTED EQUAL ABOVE LESS-THAN ABOVE SLANTED EQUAL,bAND NOT APPROXIMATE,
  cSINGLE-LINE NOT EQUAL TO,bBESIDE LESS-THAN,bBUT NOT EQUAL TO,dEQUIVALENT TO,bCLOSED BY CURVE,
  eABOVE SLANTED EQUAL,bEQUAL TO OR LESS-THAN,bOR APPROXIMATE,cEQUAL TO,cEQUIVALENT TO,cLESS-THAN,
  cSLANTED EQUAL TO,fWITH DOT ABOVE,iLEFT,hINSIDE,bOVER EQUAL TO,bOVERLAPPING LESS-THAN,bSIGN,
  bWITH CIRCLE INSIDE,cDOT,cQUESTION MARK ABOVE,aGREEK ANO TELEIA,bBETA SYMBOL,
  bCAPITAL DOTTED LUNATE SIGMA SYMBOL,cKAI SYMBOL,cLETTER ALPHA,eWITH DASIA,gAND OXIA,
  iAND PROSGEGRAMMENI,hPERISPOMENI,iAND PROSGEGRAMMENI,hPROSGEGRAMMENI,hVARIA,iAND PROSGEGRAMMENI,
  fMACRON,fOXIA,fPROSGEGRAMMENI,fPSILI,gAND OXIA,iAND PROSGEGRAMMENI,hPERISPOMENI,
  iAND PROSGEGRAMMENI,hPROSGEGRAMMENI,hVARIA,iAND PROSGEGRAMMENI,fTONOS,fVARIA,fVRACHY,
  dARCHAIC SAMPI,dBETA,dCHI,dDELTA,dEPSILON,eWITH DASIA,gAND OXIA,hVARIA,fOXIA,fPSILI,gAND OXIA,
  hVARIA,fTONOS,fVARIA,dETA,eWITH DASIA,gAND OXIA,iAND PROSGEGRAMMENI,hPERISPOMENI,
  iAND PROSGEGRAMMENI,hPROSGEGRAMMENI,hVARIA,iAND PROSGEGRAMMENI,fOXIA,fPROSGEGRAMMENI,fPSILI,
  gAND OXIA,iAND PROSGEGRAMMENI,hPERISPOMENI,iAND PROSGEGRAMMENI,hPROSGEGRAMMENI,hVARIA,
  iAND PROSGEGRAMMENI,fTONOS,fVARIA,dGAMMA,dHETA,dIOTA,eWITH DASIA,gAND OXIA,hPERISPOMENI,hVARIA,
  fDIALYTIKA,fMACRON,fOXIA,fPSILI,gAND OXIA,hPERISPOMENI,hVARIA,fTONOS,fVARIA,fVRACHY,dKAPPA,
  dLAMDA,dMU,dNU,dOMEGA,eWITH DASIA,gAND OXIA,iAND PROSGEGRAMMENI,hPERISPOMENI,
  iAND PROSGEGRAMMENI,hPROSGEGRAMMENI,hVARIA,iAND PROSGEGRAMMENI,fOXIA,fPROSGEGRAMMENI,fPSILI,
  gAND OXIA,iAND PROSGEGRAMMENI,hPERISPOMENI,iAND PROSGEGRAMMENI,hPROSGEGRAMMENI,hVARIA,
  iAND PROSGEGRAMMENI,fTONOS,fVARIA,dOMICRON,eWITH DASIA,gAND OXIA,hVARIA,fOXIA,fPSILI,gAND OXIA,
  hVARIA,fTONOS,fVARIA,dPAMPHYLIAN DIGAMMA,dPHI,dPI,dPSI,dRHO,eWITH DASIA,dSAN,dSHO,dSIGMA,dTAU,
  dTHETA,dUPSILON,eWITH DASIA,gAND OXIA,hPERISPOMENI,hVARIA,fDIALYTIKA,fMACRON,fOXIA,fTONOS,
  fVARIA,fVRACHY,dXI,dYOT,dZETA,cLUNATE SIGMA SYMBOL,cREVERSED DOTTED LUNATE SIGMA SYMBOL,
  dLUNATE SIGMA SYMBOL,cTHETA SYMBOL,bDASIA,cAND OXIA,dPERISPOMENI,dVARIA,bDIALYTIKA AND OXIA,
  dPERISPOMENI,dVARIA,cTONOS,bKAI SYMBOL,bKAPPA SYMBOL,bKORONIS,bLETTER ARCHAIC KOPPA,cDIGAMMA,
  cKOPPA,cSAMPI,cSTIGMA,cYOT,bLOWER NUMERAL SIGN,bLUNATE EPSILON SYMBOL,cSIGMA SYMBOL,
  bNUMERAL SIGN,bOXIA,bPERISPOMENI,bPHI SYMBOL,bPI SYMBOL,bPROSGEGRAMMENI,bPSILI,cAND OXIA,
  dPERISPOMENI,dVARIA,bQUESTION MARK,bREVERSED LUNATE EPSILON SYMBOL,bRHO SYMBOL,
  cWITH STROKE SYMBOL,bSMALL DOTTED LUNATE SIGMA SYMBOL,cLETTER ALPHA,eWITH DASIA,gAND OXIA,
  iAND YPOGEGRAMMENI,hPERISPOMENI,iAND YPOGEGRAMMENI,hVARIA,iAND YPOGEGRAMMENI,hYPOGEGRAMMENI,
  fMACRON,fOXIA,gAND YPOGEGRAMMENI,fPERISPOMENI,gAND YPOGEGRAMMENI,fPSILI,gAND OXIA,
  iAND YPOGEGRAMMENI,hPERISPOMENI,iAND YPOGEGRAMMENI,hVARIA,iAND YPOGEGRAMMENI,hYPOGEGRAMMENI,
  fTONOS,fVARIA,gAND YPOGEGRAMMENI,fVRACHY,fYPOGEGRAMMENI,dARCHAIC KOPPA,eSAMPI,dBETA,dCHI,dDELTA,
  dDIGAMMA,dEPSILON,eWITH DASIA,gAND OXIA,hVARIA,fOXIA,fPSILI,gAND OXIA,hVARIA,fTONOS,fVARIA,dETA,
  eWITH DASIA,gAND OXIA,iAND YPOGEGRAMMENI,hPERISPOMENI,iAND YPOGEGRAMMENI,hVARIA,
  iAND YPOGEGRAMMENI,hYPOGEGRAMMENI,fOXIA,gAND YPOGEGRAMMENI,fPERISPOMENI,gAND YPOGEGRAMMENI,
  fPSILI,gAND OXIA,iAND YPOGEGRAMMENI,hPERISPOMENI,iAND YPOGEGRAMMENI,hVARIA,iAND YPOGEGRAMMENI,
  hYPOGEGRAMMENI,fTONOS,fVARIA,gAND YPOGEGRAMMENI,fYPOGEGRAMMENI,dFINAL SIGMA,dGAMMA,dHETA,dIOTA,
  eWITH DASIA,gAND OXIA,hPERISPOMENI,hVARIA,fDIALYTIKA,gAND OXIA,hPERISPOMENI,hTONOS,hVARIA,
  fMACRON,fOXIA,fPERISPOMENI,fPSILI,gAND OXIA,hPERISPOMENI,hVARIA,fTONOS,fVARIA,fVRACHY,dKAPPA,
  dKOPPA,dLAMDA,dMU,dNU,dOMEGA,eWITH DASIA,gAND OXIA,iAND YPOGEGRAMMENI,hPERISPOMENI,
  iAND YPOGEGRAMMENI,hVARIA,iAND YPOGEGRAMMENI,hYPOGEGRAMMENI,fOXIA,gAND YPOGEGRAMMENI,
  fPERISPOMENI,gAND YPOGEGRAMMENI,fPSILI,gAND OXIA,iAND YPOGEGRAMMENI,hPERISPOMENI,
  iAND YPOGEGRAMMENI,hVARIA,iAND YPOGEGRAMMENI,hYPOGEGRAMMENI,fTONOS,fVARIA,gAND YPOGEGRAMMENI,
  fYPOGEGRAMMENI,dOMICRON,eWITH DASIA,gAND OXIA,hVARIA,fOXIA,fPSILI,gAND OXIA,hVARIA,fTONOS,
  fVARIA,dPAMPHYLIAN DIGAMMA,dPHI,dPI,dPSI,dRHO,eWITH DASIA,fPSILI,dSAMPI,dSAN,dSHO,dSIGMA,
  dSTIGMA,dTAU,dTHETA,dUPSILON,eWITH DASIA,gAND OXIA,hPERISPOMENI,hVARIA,fDIALYTIKA,gAND OXIA,
  hPERISPOMENI,hTONOS,hVARIA,fMACRON,fOXIA,fPERISPOMENI,fPSILI,gAND OXIA,hPERISPOMENI,hVARIA,
  fTONOS,fVARIA,fVRACHY,dXI,dZETA,cREVERSED DOTTED LUNATE SIGMA SYMBOL,dLUNATE SIGMA SYMBOL,
  bTHETA SYMBOL,bTONOS,bUPSILON WITH ACUTE AND HOOK SYMBOL,dDIAERESIS AND HOOK SYMBOL,
  dHOOK SYMBOL,bVARIA,bYPOGEGRAMMENI,aGREEN APPLE,bBOOK,bHEART,bSALAD,aGRIMACING FACE,
  aGRINNING CAT FACE WITH SMILING EYES,bFACE,cWITH ONE LARGE AND ONE SMALL EYE,dSMILING EYES,
  dSTAR EYES,aGROUP MARK,bSEPARATOR,aGROWING HEART,aGS,aGUARANI SIGN,aGUARDSMAN,aGUIDE DOG,
  aGUITAR,aHADES,aHAIR SPACE,aHAIRCUT,aHALFWIDTH BLACK SQUARE,bDOWNWARDS ARROW,
  bFORMS LIGHT VERTICAL,bHANGUL FILLER,cLETTER A,dAE,dCHIEUCH,dCIEUC,dE,dEO,dEU,dHIEUH,dI,dIEUNG,
  dKHIEUKH,dKIYEOK,dKIYEOK-SIOS,dMIEUM,dNIEUN,dNIEUN-CIEUC,dNIEUN-HIEUH,dO,dOE,dPHIEUPH,dPIEUP,
  dPIEUP-SIOS,dRIEUL,dRIEUL-HIEUH,dRIEUL-KIYEOK,dRIEUL-MIEUM,dRIEUL-PHIEUPH,dRIEUL-PIEUP,
  dRIEUL-SIOS,dRIEUL-THIEUTH,dSIOS,dSSANGCIEUC,dSSANGKIYEOK,dSSANGPIEUP,dSSANGSIOS,dSSANGTIKEUT,
  dTHIEUTH,dTIKEUT,dU,dWA,dWAE,dWE,dWEO,dWI,dYA,dYAE,dYE,dYEO,dYI,dYO,dYU,bIDEOGRAPHIC COMMA,
  cFULL STOP,bKATAKANA LETTER A,dE,dHA,dHE,dHI,dHO,dHU,dI,dKA,dKE,dKI,dKO,dKU,dMA,dME,dMI,dMO,dMU,
  dN,dNA,dNE,dNI,dNO,dNU,dO,dRA,dRE,dRI,dRO,dRU,dSA,dSE,dSI,dSMALL A,eE,eI,eO,eTU,eU,eYA,eYO,eYU,
  dSO,dSU,dTA,dTE,dTI,dTO,dTU,dU,dWA,dWO,dYA,dYO,dYU,cMIDDLE DOT,cSEMI-VOICED SOUND MARK,
  cVOICED SOUND MARK,bKATAKANA-HIRAGANA PROLONGED SOUND MARK,bLEFT CORNER BRACKET,
  bLEFTWARDS ARROW,bRIGHT CORNER BRACKET,bRIGHTWARDS ARROW,bUPWARDS ARROW,bWHITE CIRCLE,
  aHAMBURGER,aHAMMER,bAND PICK,cSICKLE,cWRENCH,aHAMSA,aHAMSTER FACE,
  aHAND WITH INDEX AND MIDDLE FINGERS CROSSED,dFINGER AND THUMB CROSSED,aHANDBAG,aHANDBALL,
  aHANDSHAKE,aHANGUL DOUBLE DOT TONE MARK,bSINGLE DOT TONE MARK,aHANGZHOU NUMERAL EIGHT,cFIVE,
  cFOUR,cNINE,cONE,cSEVEN,cSIX,cTEN,cTHIRTY,cTHREE,cTWENTY,cTWO,aHAPPY PERSON RAISING ONE HAND,
  aHARD DISK,aHATCHING CHICK,aHEADPHONE,aHEADSTONE,bGRAVEYARD SYMBOL,aHEAR-NO-EVIL MONKEY,
  aHEART DECORATION,bHANDS,bWITH ARROW,cRIBBON,cTIP ON THE LEFT,aHEAVY AMPERSAND ORNAMENT,
  bARROW SHAFT WIDTH ONE,fHALF,fTHIRD,eTWO THIRDS,bASTERISK,bBALLOT X,
  bBLACK CURVED DOWNWARDS AND RIGHTWARDS ARROW,dUPWARDS AND RIGHTWARDS ARROW,cHEART,
  bBLACK-FEATHERED NORTH EAST ARROW,cRIGHTWARDS ARROW,cSOUTH EAST ARROW,bCHECK MARK,
  bCHEVRON SNOWFLAKE,bCIRCLE,cWITH CIRCLE INSIDE,dSTROKE AND TWO DOTS ABOVE,bCIRCLED SALTIRE,
  bCONCAVE-POINTED BLACK RIGHTWARDS ARROW,bDASHED TRIANGLE-HEADED RIGHTWARDS ARROW,bDIVISION SIGN,
  bDOLLAR SIGN,bDOUBLE COMMA QUOTATION MARK ORNAMENT,cTURNED COMMA QUOTATION MARK ORNAMENT,
  bDOWNWARDS ARROW WITH EQUILATERAL ARROWHEAD,eLARGE EQUILATERAL ARROWHEAD,
  bEIGHT POINTED BLACK STAR,dPINWHEEL STAR,dRECTILINEAR BLACK STAR,cSPOKED ASTERISK,
  cTEARDROP-SPOKED PROPELLER ASTERISK,bEQUALS SIGN,bEXCLAMATION MARK ORNAMENT,dSYMBOL,
  bFIVE POINTED BLACK STAR,cSPOKED ASTERISK,bFOUR BALLOON-SPOKED ASTERISK,bGREEK CROSS,
  bHEART EXCLAMATION MARK ORNAMENT,bINTERROBANG ORNAMENT,bLARGE CIRCLE,bLATIN CROSS,
  bLEFT-POINTING ANGLE BRACKET ORNAMENT,dQUOTATION MARK ORNAMENT,
  bLEFTWARDS ARROW WITH EQUILATERAL ARROWHEAD,eLARGE EQUILATERAL ARROWHEAD,
  bLIGATURE OPEN ET ORNAMENT,bLOW DOUBLE COMMA QUOTATION MARK ORNAMENT,
  cSINGLE COMMA QUOTATION MARK ORNAMENT,bLOWER RIGHT-SHADOWED WHITE RIGHTWARDS ARROW,bMINUS SIGN,
  bMULTIPLICATION X,bNORTH EAST ARROW,dPOINTING BUD,eVINE LEAF,cWEST POINTING BUD,eVINE LEAF,
  bOPEN CENTRE CROSS,bOUTLINED BLACK STAR,bOVAL WITH OVAL INSIDE,bPLUS SIGN,
  bRIGHT-POINTING ANGLE BRACKET ORNAMENT,dQUOTATION MARK ORNAMENT,bRIGHTWARDS ARROW,
  dWITH EQUILATERAL ARROWHEAD,eLARGE EQUILATERAL ARROWHEAD,bROUND-TIPPED RIGHTWARDS ARROW,
  bSALTIRE,bSANS-SERIF INTERROBANG ORNAMENT,bSCRIPT LIGATURE ET ORNAMENT,
  bSINGLE COMMA QUOTATION MARK ORNAMENT,cTURNED COMMA QUOTATION MARK ORNAMENT,
  bSIX POINTED BLACK STAR,cSPOKED ASTERISK,bSOUTH EAST ARROW,dPOINTING BUD,eVINE LEAF,
  cWEST POINTING BUD,eVINE LEAF,bSPARKLE,bTEARDROP-SHANKED RIGHTWARDS ARROW,
  bTEARDROP-SPOKED ASTERISK,cPINWHEEL ASTERISK,bTRIANGLE-HEADED RIGHTWARDS ARROW,
  bTWELVE POINTED BLACK STAR,dPINWHEEL STAR,bUPPER RIGHT-SHADOWED WHITE RIGHTWARDS ARROW,
  bUPWARDS ARROW WITH EQUILATERAL ARROWHEAD,eLARGE EQUILATERAL ARROWHEAD,bVERTICAL BAR,
  bWEDGE-TAILED RIGHTWARDS ARROW,bWHITE CIRCLE,cDOWN-POINTING TRIANGLE,cSQUARE,
  bWIDE-HEADED RIGHTWARDS ARROW,aHEDGEHOG,aHELICOPTER,aHELLSCHREIBER PAUSE SYMBOL,aHELM SYMBOL,
  aHELMET WITH WHITE CROSS,aHERB,aHERMITIAN CONJUGATE MATRIX,aHIBISCUS,aHIGH BRIGHTNESS SYMBOL,
  bOCTET PRESET,bVOLTAGE SIGN,aHIGH-HEELED SHOE,aHIGH-SPEED TRAIN,cWITH BULLET NOSE,aHIKING BOOT,
  aHINDU TEMPLE,aHIPPOPOTAMUS,aHIRAGANA DIGRAPH YORI,bITERATION MARK,bLETTER A,cBA,cBE,cBI,cBO,
  cBU,cDA,cDE,cDI,cDO,cDU,cE,cGA,cGE,cGI,cGO,cGU,cHA,cHE,cHI,cHO,cHU,cI,cKA,cKE,cKI,cKO,cKU,cMA,
  cME,cMI,cMO,cMU,cN,cNA,cNE,cNI,cNO,cNU,cO,cPA,cPE,cPI,cPO,cPU,cRA,cRE,cRI,cRO,cRU,cSA,cSE,cSI,
  cSMALL A,dE,dI,dKA,dKE,dO,dTU,dU,dWA,dYA,dYO,dYU,cSO,cSU,cTA,cTE,cTI,cTO,cTU,cU,cVU,cWA,cWE,cWI,
  cWO,cYA,cYO,cYU,cZA,cZE,cZI,cZO,cZU,bVOICED ITERATION MARK,aHISTORIC SITE,aHOCHO,aHOLE,
  aHOLLOW QUILT SQUARE ORNAMENT,eIN BLACK SQUARE,aHOMOTHETIC,aHONEY POT,aHONEYBEE,aHOOK,aHOP,
  aHORIZONTAL BAR,bBLACK HEXAGON,cOCTAGON,bELLIPSIS,bLINE EXTENSION,bMALE WITH STROKE SIGN,
  bSCAN LINE-1,cLINE-3,cLINE-7,cLINE-9,bTAB KEY,bTABULATION,cSET,cWITH JUSTIFICATION,
  bTRAFFIC LIGHT,aHORSE,bFACE,bRACING,aHOSPITAL,aHOT BEVERAGE,bDOG,bPEPPER,bSPRINGS,aHOTEL,
  aHOURGLASS,bWITH FLOWING SAND,aHOUSE,bBUILDING,bBUILDINGS,bWITH GARDEN,aHRYVNIA SIGN,aHT,aHTJ,
  aHTS,aHUGGING FACE,aHUNDRED POINTS SYMBOL,aHUSHED FACE,aHUT,aHYGIEA,aHYPHEN,bBULLET,
  bWITH DIAERESIS,aHYPHEN-MINUS,aHYPHENATION POINT,aHYPODIASTOLE,aHYSTERESIS SYMBOL,
  aI LOVE YOU HAND SIGN,aICE CREAM,bCUBE,bHOCKEY STICK AND PUCK,bSKATE,aIDENTICAL TO,
  cAND SLANTED PARALLEL,bWITH DOT ABOVE,aIDENTIFICATION CARD,aIDEOGRAPHIC CLOSING MARK,bCOMMA,
  bDEPARTING TONE MARK,bENTERING TONE MARK,bFULL STOP,bHALF FILL SPACE,bITERATION MARK,
  bLEVEL TONE MARK,bNUMBER ZERO,bRISING TONE MARK,bSPACE,bTELEGRAPH LINE FEED SEPARATOR SYMBOL,
  bVARIATION INDICATOR,aIMAGE OF,cOR APPROXIMATELY EQUAL TO,aIMP,aINBOX TRAY,aINCOMING ENVELOPE,
  aINCOMPLETE INFINITY,aINCREASE FONT SIZE SYMBOL,aINCREASES AS,aINCREMENT,aIND,aINDEX,
  bPOINTING AT THE VIEWER,aINDIAN RUPEE SIGN,aINFINITY,bNEGATED WITH VERTICAL BAR,
  aINFORMATION DESK PERSON,bSEPARATOR FOUR,cONE,cTHREE,cTWO,bSOURCE,aINHIBIT ARABIC FORM SHAPING,
  bSYMMETRIC SWAPPING,aINPUT SYMBOL FOR LATIN CAPITAL LETTERS,eLETTERS,eSMALL LETTERS,dNUMBERS,
  dSYMBOLS,aINSERTION SYMBOL,aINTEGRAL,bAROUND A POINT OPERATOR,bAVERAGE WITH SLASH,bEXTENSION,
  bWITH DOUBLE STROKE,cINTERSECTION,cLEFTWARDS ARROW WITH HOOK,cOVERBAR,cTIMES SIGN,cUNDERBAR,
  cUNION,aINTERCALATE,aINTERIOR PRODUCT,aINTERLOCKED FEMALE AND MALE SIGN,aINTERROBANG,
  aINTERSECTION,bABOVE BAR ABOVE UNION,cUNION,bBESIDE AND JOINED WITH INTERSECTION,bWITH DOT,
  cLOGICAL AND,cOVERBAR,aINVERSE BULLET,bWHITE CIRCLE,aINVERTED EXCLAMATION MARK,bINTERROBANG,
  bLAZY S,bLOW KAVYKA,dWITH KAVYKA ABOVE,bOHM SIGN,bPENTAGRAM,bQUESTION MARK,bUNDERTIE,
  aINVISIBLE PLUS,bSEPARATOR,bTIMES,aIZAKAYA LANTERN,aJACK-O-LANTERN,aJAPANESE BANK SYMBOL,
  bCASTLE,bDOLLS,bGOBLIN,bINDUSTRIAL STANDARD SYMBOL,bOGRE,bPOST OFFICE,bSYMBOL FOR BEGINNER,aJAR,
  aJEANS,aJIGSAW PUZZLE PIECE,aJOIN,aJOYSTICK,aJUGGLING,aJUNO,aJUPITER,aKAABA,aKANGAROO,
  aKATAKANA DIGRAPH KOTO,bITERATION MARK,bLETTER A,cBA,cBE,cBI,cBO,cBU,cDA,cDE,cDI,cDO,cDU,cE,cGA,
  cGE,cGI,cGO,cGU,cHA,cHE,cHI,cHO,cHU,cI,cKA,cKE,cKI,cKO,cKU,cMA,cME,cMI,cMO,cMU,cN,cNA,cNE,cNI,
  cNO,cNU,cO,cPA,cPE,cPI,cPO,cPU,cRA,cRE,cRI,cRO,cRU,cSA,cSE,cSI,cSMALL A,dE,dI,dKA,dKE,dO,dTU,dU,
  dWA,dYA,dYO,dYU,cSO,cSU,cTA,cTE,cTI,cTO,cTU,cU,cVA,cVE,cVI,cVO,cVU,cWA,cWE,cWI,cWO,cYA,cYO,cYU,
  cZA,cZE,cZI,cZO,cZU,bMIDDLE DOT,bVOICED ITERATION MARK,aKATAKANA-HIRAGANA DOUBLE HYPHEN,
  bPROLONGED SOUND MARK,bSEMI-VOICED SOUND MARK,bVOICED SOUND MARK,aKELVIN SIGN,aKEY,aKEYBOARD,
  bAND MOUSE,aKEYCAP TEN,aKIMONO,aKIP SIGN,aKISS,bMARK,aKISSING CAT FACE WITH CLOSED EYES,bFACE,
  cWITH CLOSED EYES,dSMILING EYES,aKITE,aKIWIFRUIT,aKNEELING PERSON,aKNOT,aKOALA,aKRONOS,
  aL B BAR SYMBOL,aLAB COAT,aLABEL,aLACROSSE STICK AND BALL,aLADDER,aLADY BEETLE,
  aLARGE BLUE CIRCLE,cDIAMOND,cSQUARE,bBROWN CIRCLE,cSQUARE,bCIRCLE,bDOWN TACK,bGREEN CIRCLE,
  cSQUARE,bLEFT TRIANGLE OPERATOR,bORANGE CIRCLE,cDIAMOND,cSQUARE,bPURPLE CIRCLE,cSQUARE,
  bRED CIRCLE,cSQUARE,bTRIPLE VERTICAL BAR OPERATOR,bUP TACK,bYELLOW CIRCLE,cSQUARE,aLARGER THAN,
  cOR EQUAL TO,aLARI SIGN,aLAST QUARTER MOON,dSYMBOL,dWITH FACE,aLATIN CAPITAL LETTER A,
  eWITH ACUTE,fBREVE,gAND ACUTE,hDOT BELOW,hGRAVE,hHOOK ABOVE,hTILDE,fCARON,fCIRCUMFLEX,
  gAND ACUTE,hDOT BELOW,hGRAVE,hHOOK ABOVE,hTILDE,fDIAERESIS,gAND MACRON,fDOT ABOVE,hAND MACRON,
  gBELOW,fDOUBLE GRAVE,fGRAVE,fHOOK ABOVE,fINVERTED BREVE,fMACRON,fOGONEK,fRING ABOVE,hAND ACUTE,
  gBELOW,fSTROKE,fTILDE,dAE,eWITH ACUTE,fMACRON,dAFRICAN D,dB,eWITH DOT ABOVE,gBELOW,fHOOK,
  fLINE BELOW,fSTROKE,fTOPBAR,dC,eWITH ACUTE,fCARON,fCEDILLA,gAND ACUTE,fCIRCUMFLEX,fDOT ABOVE,
  fHOOK,fSTROKE,dD,eWITH CARON,fCEDILLA,fCIRCUMFLEX BELOW,fDOT ABOVE,gBELOW,fHOOK,fLINE BELOW,
  fSMALL LETTER Z,iWITH CARON,fSTROKE,fTOPBAR,dDZ,eWITH CARON,dE,eWITH ACUTE,fBREVE,fCARON,
  fCEDILLA,gAND BREVE,fCIRCUMFLEX,gAND ACUTE,hDOT BELOW,hGRAVE,hHOOK ABOVE,hTILDE,gBELOW,
  fDIAERESIS,fDOT ABOVE,gBELOW,fDOUBLE GRAVE,fGRAVE,fHOOK ABOVE,fINVERTED BREVE,fMACRON,
  gAND ACUTE,hGRAVE,fOGONEK,fSTROKE,fTILDE,gBELOW,dENG,dESH,dETH,dEZH,eREVERSED,eWITH CARON,dF,
  eWITH DOT ABOVE,fHOOK,dG,eWITH ACUTE,fBREVE,fCARON,fCEDILLA,fCIRCUMFLEX,fDOT ABOVE,fHOOK,
  fMACRON,fSTROKE,dGAMMA,dGHA,dGLOTTAL STOP,dH,eWITH BREVE BELOW,fCARON,fCEDILLA,fCIRCUMFLEX,
  fDIAERESIS,fDOT ABOVE,gBELOW,fSTROKE,dHWAIR,dI,eWITH ACUTE,fBREVE,fCARON,fCIRCUMFLEX,fDIAERESIS,
  gAND ACUTE,fDOT ABOVE,gBELOW,fDOUBLE GRAVE,fGRAVE,fHOOK ABOVE,fINVERTED BREVE,fMACRON,fOGONEK,
  fSTROKE,fTILDE,gBELOW,dIOTA,dJ,eWITH CIRCUMFLEX,fSTROKE,dK,eWITH ACUTE,fCARON,fCEDILLA,
  fDOT BELOW,fHOOK,fLINE BELOW,dL,eWITH ACUTE,fBAR,fCARON,fCEDILLA,fCIRCUMFLEX BELOW,fDOT BELOW,
  hAND MACRON,fLINE BELOW,fMIDDLE DOT,fSMALL LETTER J,fSTROKE,dLJ,dM,eWITH ACUTE,fDOT ABOVE,
  gBELOW,dMIDDLE-WELSH LL,eV,dN,eWITH ACUTE,fCARON,fCEDILLA,fCIRCUMFLEX BELOW,fDOT ABOVE,gBELOW,
  fGRAVE,fLEFT HOOK,fLINE BELOW,fLONG RIGHT LEG,fSMALL LETTER J,fTILDE,dNJ,dO,eWITH ACUTE,fBREVE,
  fCARON,fCIRCUMFLEX,gAND ACUTE,hDOT BELOW,hGRAVE,hHOOK ABOVE,hTILDE,fDIAERESIS,gAND MACRON,
  fDOT ABOVE,hAND MACRON,gBELOW,fDOUBLE ACUTE,gGRAVE,fGRAVE,fHOOK ABOVE,fHORN,gAND ACUTE,
  hDOT BELOW,hGRAVE,hHOOK ABOVE,hTILDE,fINVERTED BREVE,fMACRON,gAND ACUTE,hGRAVE,fMIDDLE TILDE,
  fOGONEK,gAND MACRON,fSTROKE,gAND ACUTE,fTILDE,gAND ACUTE,hDIAERESIS,hMACRON,dOI,dOPEN E,eO,dOU,
  dP,eWITH ACUTE,fDOT ABOVE,fHOOK,dQ,dR,eWITH ACUTE,fCARON,fCEDILLA,fDOT ABOVE,gBELOW,hAND MACRON,
  fDOUBLE GRAVE,fINVERTED BREVE,fLINE BELOW,fSTROKE,dREVERSED E,dS,eWITH ACUTE,gAND DOT ABOVE,
  fCARON,gAND DOT ABOVE,fCEDILLA,fCIRCUMFLEX,fCOMMA BELOW,fDOT ABOVE,gBELOW,hAND DOT ABOVE,dSCHWA,
  dSHARP S,dSMALL Q WITH HOOK TAIL,dT,eWITH CARON,fCEDILLA,fCIRCUMFLEX BELOW,fCOMMA BELOW,
  fDIAGONAL STROKE,fDOT ABOVE,gBELOW,fHOOK,fLINE BELOW,fRETROFLEX HOOK,fSTROKE,dTHORN,dTONE FIVE,
  eSIX,eTWO,dTURNED M,eV,dU,eBAR,eWITH ACUTE,fBREVE,fCARON,fCIRCUMFLEX,gBELOW,fDIAERESIS,
  gAND ACUTE,hCARON,hGRAVE,hMACRON,gBELOW,fDOT BELOW,fDOUBLE ACUTE,gGRAVE,fGRAVE,fHOOK ABOVE,
  fHORN,gAND ACUTE,hDOT BELOW,hGRAVE,hHOOK ABOVE,hTILDE,fINVERTED BREVE,fMACRON,gAND DIAERESIS,
  fOGONEK,fRING ABOVE,fTILDE,gAND ACUTE,gBELOW,dUPSILON,dV,eWITH DOT BELOW,fHOOK,fTILDE,dW,
  eWITH ACUTE,fCIRCUMFLEX,fDIAERESIS,fDOT ABOVE,gBELOW,fGRAVE,dWYNN,dX,eWITH DIAERESIS,fDOT ABOVE,
  dY,eWITH ACUTE,fCIRCUMFLEX,fDIAERESIS,fDOT ABOVE,gBELOW,fGRAVE,fHOOK,gABOVE,fLOOP,fMACRON,
  fSTROKE,fTILDE,dYOGH,dZ,eWITH ACUTE,fCARON,fCIRCUMFLEX,fDOT ABOVE,gBELOW,fHOOK,fLINE BELOW,
  fSTROKE,cLIGATURE IJ,dOE,bCROSS,bLETTER ALVEOLAR CLICK,cBIDENTAL PERCUSSIVE,cBILABIAL CLICK,
  dPERCUSSIVE,cDENTAL CLICK,cGLOTTAL STOP,eWITH STROKE,cINVERTED GLOTTAL STOP,fWITH STROKE,
  cLATERAL CLICK,cPHARYNGEAL VOICED FRICATIVE,cRETROFLEX CLICK,cREVERSED ESH LOOP,
  dGLOTTAL STOP WITH STROKE,cSMALL CAPITAL B,eG,fWITH HOOK,eH,eI,eINVERTED R,eL,eN,eOE,eR,eY,
  cSTRETCHED C,cTWO WITH STROKE,cWYNN,cYR,bSMALL LETTER A,eWITH ACUTE,fBREVE,gAND ACUTE,
  hDOT BELOW,hGRAVE,hHOOK ABOVE,hTILDE,fCARON,fCIRCUMFLEX,gAND ACUTE,hDOT BELOW,hGRAVE,
  hHOOK ABOVE,hTILDE,fDIAERESIS,gAND MACRON,fDOT ABOVE,hAND MACRON,gBELOW,fDOUBLE GRAVE,fGRAVE,
  fHOOK ABOVE,fINVERTED BREVE,fMACRON,fOGONEK,fRIGHT HALF RING,fRING ABOVE,hAND ACUTE,gBELOW,
  fTILDE,dAE,eWITH ACUTE,fMACRON,dALPHA,dB,eWITH DOT ABOVE,gBELOW,fHOOK,fLINE BELOW,fSTROKE,
  fTOPBAR,dBARRED O,dC,eWITH ACUTE,fCARON,fCEDILLA,gAND ACUTE,fCIRCUMFLEX,fCURL,fDOT ABOVE,fHOOK,
  fSTROKE,dCLOSED OMEGA,eOPEN E,eREVERSED OPEN E,dD,eWITH CARON,fCEDILLA,fCIRCUMFLEX BELOW,fCURL,
  fDOT ABOVE,gBELOW,fHOOK,fLINE BELOW,fSTROKE,fTAIL,fTOPBAR,dDB DIGRAPH,dDELTA,dDEZH DIGRAPH,
  dDOTLESS I,eJ,fWITH STROKE,hAND HOOK,dDZ,eDIGRAPH,fWITH CURL,eWITH CARON,dE,eWITH ACUTE,fBREVE,
  fCARON,fCEDILLA,gAND BREVE,fCIRCUMFLEX,gAND ACUTE,hDOT BELOW,hGRAVE,hHOOK ABOVE,hTILDE,gBELOW,
  fDIAERESIS,fDOT ABOVE,gBELOW,fDOUBLE GRAVE,fGRAVE,fHOOK ABOVE,fINVERTED BREVE,fMACRON,
  gAND ACUTE,hGRAVE,fOGONEK,fSTROKE,fTILDE,gBELOW,dENG,dESH,eWITH CURL,dETH,dEZH,eREVERSED,
  eWITH CARON,fCURL,fTAIL,dF,eWITH DOT ABOVE,fHOOK,dFENG DIGRAPH,dG,eWITH ACUTE,fBREVE,fCARON,
  fCEDILLA,fCIRCUMFLEX,fDOT ABOVE,fHOOK,fMACRON,fSTROKE,dGAMMA,dGHA,dGLOTTAL STOP,dH,
  eWITH BREVE BELOW,fCARON,fCEDILLA,fCIRCUMFLEX,fDIAERESIS,fDOT ABOVE,gBELOW,fHOOK,fLINE BELOW,
  fSTROKE,dHENG WITH HOOK,dHV,dI,eWITH ACUTE,fBREVE,fCARON,fCIRCUMFLEX,fDIAERESIS,gAND ACUTE,
  fDOT BELOW,fDOUBLE GRAVE,fGRAVE,fHOOK ABOVE,fINVERTED BREVE,fMACRON,fOGONEK,fSTROKE,fTILDE,
  gBELOW,dIOTA,dJ,eWITH CARON,fCIRCUMFLEX,fCROSSED-TAIL,fSTROKE,dK,eWITH ACUTE,fCARON,fCEDILLA,
  fDOT BELOW,fHOOK,fLINE BELOW,dKRA,dL,eWITH ACUTE,fBAR,fBELT,fCARON,fCEDILLA,fCIRCUMFLEX BELOW,
  fCURL,fDOT BELOW,hAND MACRON,fLINE BELOW,fMIDDLE DOT,gTILDE,fRETROFLEX HOOK,fSTROKE,
  dLAMBDA WITH STROKE,dLEZH,dLJ,dLONG S,fWITH DIAGONAL STROKE,gDOT ABOVE,gHIGH STROKE,dLS DIGRAPH,
  dLZ DIGRAPH,dM,eWITH ACUTE,fDOT ABOVE,gBELOW,fHOOK,dMIDDLE-WELSH LL,eV,dN,
  ePRECEDED BY APOSTROPHE,eWITH ACUTE,fCARON,fCEDILLA,fCIRCUMFLEX BELOW,fCURL,fDOT ABOVE,gBELOW,
  fGRAVE,fLEFT HOOK,fLINE BELOW,fLONG RIGHT LEG,fRETROFLEX HOOK,fTILDE,dNJ,dO,eWITH ACUTE,fBREVE,
  fCARON,fCIRCUMFLEX,gAND ACUTE,hDOT BELOW,hGRAVE,hHOOK ABOVE,hTILDE,fDIAERESIS,gAND MACRON,
  fDOT ABOVE,hAND MACRON,gBELOW,fDOUBLE ACUTE,gGRAVE,fGRAVE,fHOOK ABOVE,fHORN,gAND ACUTE,
  hDOT BELOW,hGRAVE,hHOOK ABOVE,hTILDE,fINVERTED BREVE,fMACRON,gAND ACUTE,hGRAVE,fOGONEK,
  gAND MACRON,fSTROKE,gAND ACUTE,fTILDE,gAND ACUTE,hDIAERESIS,hMACRON,dOI,dOPEN E,eO,dOU,dP,
  eWITH ACUTE,fDOT ABOVE,fHOOK,dPHI,dQ,eWITH HOOK,gTAIL,dQP DIGRAPH,dR,eWITH ACUTE,fCARON,
  fCEDILLA,fDOT ABOVE,gBELOW,hAND MACRON,fDOUBLE GRAVE,fFISHHOOK,fINVERTED BREVE,fLINE BELOW,
  fLONG LEG,fSTROKE,fTAIL,dRAMS HORN,dREVERSED C,eE,eOPEN E,gWITH HOOK,eR WITH FISHHOOK,dS,
  eWITH ACUTE,gAND DOT ABOVE,fCARON,gAND DOT ABOVE,fCEDILLA,fCIRCUMFLEX,fCOMMA BELOW,fDOT ABOVE,
  gBELOW,hAND DOT ABOVE,fHOOK,fSWASH TAIL,dSCHWA,eWITH HOOK,dSCRIPT G,dSHARP S,
  dSQUAT REVERSED ESH,dT,eWITH CARON,fCEDILLA,fCIRCUMFLEX BELOW,fCOMMA BELOW,fCURL,fDIAERESIS,
  fDOT ABOVE,gBELOW,fHOOK,fLINE BELOW,fPALATAL HOOK,fRETROFLEX HOOK,fSTROKE,dTC DIGRAPH WITH CURL,
  dTESH DIGRAPH,dTHORN,dTONE FIVE,eSIX,eTWO,dTS DIGRAPH,dTURNED A,eALPHA,eDELTA,eE,eH,
  fWITH FISHHOOK,hAND TAIL,eK,eM,fWITH LONG LEG,eR,fWITH HOOK,gLONG LEG,eT,eV,eW,eY,dU,eBAR,
  eWITH ACUTE,fBREVE,fCARON,fCIRCUMFLEX,gBELOW,fDIAERESIS,gAND ACUTE,hCARON,hGRAVE,hMACRON,gBELOW,
  fDOT BELOW,fDOUBLE ACUTE,gGRAVE,fGRAVE,fHOOK ABOVE,fHORN,gAND ACUTE,hDOT BELOW,hGRAVE,
  hHOOK ABOVE,hTILDE,fINVERTED BREVE,fMACRON,gAND DIAERESIS,fOGONEK,fRING ABOVE,fTILDE,gAND ACUTE,
  gBELOW,dUPSILON,dV,eWITH DOT BELOW,fHOOK,fTILDE,dW,eWITH ACUTE,fCIRCUMFLEX,fDIAERESIS,
  fDOT ABOVE,gBELOW,fGRAVE,fRING ABOVE,dX,eWITH DIAERESIS,fDOT ABOVE,dY,eWITH ACUTE,fCIRCUMFLEX,
  fDIAERESIS,fDOT ABOVE,gBELOW,fGRAVE,fHOOK,gABOVE,fLOOP,fMACRON,fRING ABOVE,fSTROKE,fTILDE,dYOGH,
  dZ,eWITH ACUTE,fCARON,fCIRCUMFLEX,fCURL,fDOT ABOVE,gBELOW,fHOOK,fLINE BELOW,fRETROFLEX HOOK,
  fSTROKE,fSWASH TAIL,cLIGATURE FF,dFFI,dFFL,dFI,dFL,dIJ,dLONG S T,dOE,dST,
  bSUBSCRIPT SMALL LETTER A,eE,eH,eK,eL,eM,eN,eO,eP,eS,eSCHWA,eT,eX,aLEAF FLUTTERING IN WIND,
  aLEAFY GREEN,aLEDGER,aLEFT AND RIGHT DOUBLE TURNSTILE,dTACK,bANGER BUBBLE,bANGLE BRACKET,
  dWITH DOT,bARC LESS-THAN BRACKET,bARROW WITH CIRCLED PLUS,dSMALL CIRCLE,
  bBARB DOWN RIGHT BARB DOWN HARPOON,fUP HARPOON,cUP RIGHT BARB DOWN HARPOON,fUP HARPOON,
  bBLACK LENTICULAR BRACKET,cTORTOISE SHELL BRACKET,bCEILING,bCLOSED ENTRY,bCORNER BRACKET,
  bCURLY BRACKET,dLOWER HOOK,dMIDDLE PIECE,dUPPER HOOK,bDOTTED SUBSTITUTION BRACKET,
  bDOUBLE ANGLE BRACKET,cPARENTHESIS,cQUOTATION MARK,cWIGGLY FENCE,bFISH TAIL,bFIVE EIGHTHS BLOCK,
  bFLOOR,bHALF BLACK CIRCLE,dSTAR,cBLOCK,cCIRCLE,dWITH DOT,eFOUR DOTS,eTHREE DOTS,eTWO DOTS,
  bHAND TELEPHONE RECEIVER,bLOW PARAPHRASE BRACKET,bLUGGAGE,bMULTIMAP,
  bNORMAL FACTOR SEMIDIRECT PRODUCT,bONE EIGHTH BLOCK,cQUARTER BLOCK,bOUTER JOIN,bPARENTHESIS,
  cEXTENSION,cLOWER HOOK,cUPPER HOOK,bRAISED OMISSION BRACKET,bRIGHT ARROW,dTHROUGH SMALL CIRCLE,
  dWITH DOUBLE VERTICAL STROKE,eSTROKE,eVERTICAL STROKE,cBLACK ARROW,cDOUBLE ARROW,eWITH STROKE,
  fVERTICAL STROKE,cOPEN-HEADED ARROW,cSANS-SERIF ARROW,cTRIANGLE-HEADED ARROW,cWAVE ARROW,
  cWHITE ARROW,bS-SHAPED BAG DELIMITER,bSEMIDIRECT PRODUCT,bSEVEN EIGHTHS BLOCK,
  bSIDEWAYS U BRACKET,bSINGLE QUOTATION MARK,bSPEECH BUBBLE,bSQUARE BRACKET,dEXTENSION,
  dLOWER CORNER,dUPPER CORNER,dWITH DOUBLE STROKE,eQUILL,eSTROKE,eTICK IN BOTTOM CORNER,
  gTOP CORNER,eUNDERBAR,bSUBSTITUTION BRACKET,bTACK,bTHOUGHT BUBBLE,bTHREE EIGHTHS BLOCK,
  cQUARTERS BLOCK,bTORTOISE SHELL BRACKET,bTRANSPOSITION BRACKET,bTRIANGLE BESIDE VERTICAL BAR,
  bVERTICAL BAR WITH QUILL,cBOX LINE,bWHITE CORNER BRACKET,cCURLY BRACKET,cLENTICULAR BRACKET,
  cPARENTHESIS,cSQUARE BRACKET,cTORTOISE SHELL BRACKET,bWIGGLY FENCE,bWRITING HAND,
  aLEFT-FACING FIST,aLEFT-HANDED INTERLACED PENTAGRAM,aLEFT-POINTING ANGLE BRACKET,
  bCURVED ANGLE BRACKET,bDOUBLE ANGLE QUOTATION MARK,bMAGNIFYING GLASS,
  aLEFT-SHADED WHITE RIGHTWARDS ARROW,aLEFT-SIDE ARC ANTICLOCKWISE ARROW,aLEFT-TO-RIGHT EMBEDDING,
  bISOLATE,bMARK,bOVERRIDE,aLEFTWARDS ARROW,cABOVE ALMOST EQUAL TO,dREVERSE ALMOST EQUAL TO,
  eTILDE OPERATOR,dSHORT RIGHTWARDS ARROW,dTILDE OPERATOR,cFROM BAR,eTO BLACK DIAMOND,
  cOVER RIGHTWARDS ARROW,cTHROUGH LESS-THAN,dSUBSET,dX,cTO BAR,eOVER RIGHTWARDS ARROW TO BAR,
  dBLACK DIAMOND,cWITH DOTTED STEM,dDOUBLE VERTICAL STROKE,dEQUILATERAL ARROWHEAD,dHOOK,
  dLARGE TRIANGLE ARROWHEAD,dLOOP,dMEDIUM TRIANGLE ARROWHEAD,dNOTCHED TAIL,dPLUS BELOW,
  dSMALL EQUILATERAL ARROWHEAD,eTRIANGLE ARROWHEAD,dSTROKE,dTAIL,eWITH DOUBLE VERTICAL STROKE,
  fVERTICAL STROKE,dTIP DOWNWARDS,eUPWARDS,dVERTICAL STROKE,bARROW-TAIL,
  bBACK-TILTED SHADOWED WHITE ARROW,bBLACK ARROW,cCIRCLED WHITE ARROW,bBOTTOM-SHADED WHITE ARROW,
  bCOMPRESSED ARROW,bDASHED ARROW,bDOUBLE ARROW,dFROM BAR,dWITH STROKE,eVERTICAL STROKE,
  cARROW-TAIL,cDASH ARROW,bFINGER-POST ARROW,bFRONT-TILTED SHADOWED WHITE ARROW,bHAND,
  bHARPOON OVER RIGHTWARDS HARPOON,cWITH BARB DOWN ABOVE RIGHTWARDS HARPOON WITH BARB DOWN,
  fBELOW LONG DASH,fFROM BAR,fTO BAR,eDOWNWARDS,eUP ABOVE LEFTWARDS HARPOON WITH BARB DOWN,
  gLONG DASH,gRIGHTWARDS HARPOON WITH BARB UP,fFROM BAR,fTO BAR,eUPWARDS,bHEAVY ARROW,
  cCOMPRESSED ARROW,bLEFT-SHADED WHITE ARROW,bOPEN-HEADED ARROW,bPAIRED ARROWS,bQUADRUPLE ARROW,
  bRIGHT-SHADED WHITE ARROW,bROCKET,bSANS-SERIF ARROW,bSQUARED ARROW,bSQUIGGLE ARROW,
  bTOP SHADED WHITE ARROW,bTRIANGLE ARROWHEAD,bTRIANGLE-HEADED ARROW,
  dOVER RIGHTWARDS TRIANGLE-HEADED ARROW,dTO BAR,dWITH BOLD SHAFT,eDOUBLE HORIZONTAL STROKE,
  fVERTICAL STROKE,eHEAVY SHAFT,eLONG TIP DOWNWARDS,gUPWARDS,eMEDIUM SHAFT,eNARROW SHAFT,
  eVERY HEAVY SHAFT,cDASHED ARROW,cPAIRED ARROWS,bTRIPLE ARROW,cDASH ARROW,bTWO HEADED ARROW,
  bTWO-HEADED ARROW FROM BAR,dWITH DOUBLE VERTICAL STROKE,eTAIL,fWITH DOUBLE VERTICAL STROKE,
  gVERTICAL STROKE,eTRIANGLE ARROWHEADS,eVERTICAL STROKE,cTRIPLE DASH ARROW,bWAVE ARROW,
  bWHITE ARROW,dWITHIN TRIANGLE ARROWHEAD,aLEG,aLEMON,aLEO,aLEOPARD,
  aLESS-THAN ABOVE DOUBLE-LINE EQUAL ABOVE GREATER-THAN,cGREATER-THAN ABOVE DOUBLE-LINE EQUAL,
  cLEFTWARDS ARROW,cSIMILAR ABOVE GREATER-THAN,dOR EQUAL,
  cSLANTED EQUAL ABOVE GREATER-THAN ABOVE SLANTED EQUAL,bAND NOT APPROXIMATE,
  cSINGLE-LINE NOT EQUAL TO,bBUT NOT EQUAL TO,dEQUIVALENT TO,bCLOSED BY CURVE,
  eABOVE SLANTED EQUAL,bEQUAL TO OR GREATER-THAN,bOR APPROXIMATE,cEQUAL TO,cEQUIVALENT TO,
  cGREATER-THAN,cSLANTED EQUAL TO,fWITH DOT ABOVE,iRIGHT,hINSIDE,bOVER EQUAL TO,bSIGN,
  bWITH CIRCLE INSIDE,cDOT,cQUESTION MARK ABOVE,aLEVEL SLIDER,aLF,aLIBRA,
  aLIGATURE OPEN ET ORNAMENT,aLIGHT CHECK MARK,bEIGHT SPOKED ASTERISK,bFIVE POINTED BLACK STAR,
  cSPOKED ASTERISK,bFOUR POINTED BLACK CUSP,eSTAR,bGREEK CROSS,
  bLEFT TORTOISE SHELL BRACKET ORNAMENT,bRAIL,bRIGHT TORTOISE SHELL BRACKET ORNAMENT,bSALTIRE,
  bSHADE,bSIX SPOKED ASTERISK,bTHREE POINTED BLACK STAR,bTWELVE POINTED BLACK STAR,bVERTICAL BAR,
  bWHITE SQUARE,aLIGHTNING,bMOOD,cBUBBLE,aLINE FEED,bINTEGRATION NOT INCLUDING THE POLE,
  cWITH RECTANGULAR PATH AROUND POLE,dSEMICIRCULAR PATH AROUND POLE,bSEPARATOR,bTABULATION,cSET,
  aLINK SYMBOL,aLINKED PAPERCLIPS,aLION FACE,aLIPS,aLIPSTICK,aLIRA SIGN,aLIVRE TOURNOIS SIGN,
  aLIZARD,aLLAMA,aLOBSTER,aLOCK,bWITH INK PEN,aLOCKING-SHIFT ONE,bZERO,aLOGICAL AND,
  cWITH DOT ABOVE,dDOUBLE OVERBAR,eUNDERBAR,dHORIZONTAL DASH,dMIDDLE STEM,dUNDERBAR,bOR,
  cOVERLAPPING LOGICAL AND,cWITH DOT ABOVE,dDOUBLE OVERBAR,eUNDERBAR,dHORIZONTAL DASH,
  dMIDDLE STEM,aLOLLIPOP,aLONG DASH FROM LEFT MEMBER OF DOUBLE VERTICAL,bDIVISION,bDRUM,
  bLEFT RIGHT ARROW,dDOUBLE ARROW,cTACK,bLEFTWARDS ARROW,dFROM BAR,cDOUBLE ARROW,eFROM BAR,
  cSQUIGGLE ARROW,bRIGHT TACK,bRIGHTWARDS ARROW,dFROM BAR,cDOUBLE ARROW,eFROM BAR,cSQUIGGLE ARROW,
  aLOTION BOTTLE,aLOTUS,aLOUDLY CRYING FACE,aLOVE HOTEL,bLETTER,aLOW ASTERISK,bBATTERY,
  bBRIGHTNESS SYMBOL,bDOUBLE PRIME QUOTATION MARK,bKAVYKA,cWITH DOT,bLINE,aLOWER BLADE SCISSORS,
  bFIVE EIGHTHS BLOCK,bHALF BLOCK,cCIRCLE,cINVERSE WHITE CIRCLE,bLEFT BALLPOINT PEN,cCRAYON,
  cFOUNTAIN PEN,cPAINTBRUSH,cPENCIL,cQUADRANT CIRCULAR ARC,cSEMICIRCULAR ANTICLOCKWISE ARROW,
  cTRIANGLE,bONE EIGHTH BLOCK,cQUARTER BLOCK,bRIGHT CORNER WITH DOT,cDROP-SHADOWED WHITE SQUARE,
  cPENCIL,cQUADRANT CIRCULAR ARC,cSEMICIRCULAR CLOCKWISE ARROW,cSHADOWED WHITE CIRCLE,eSQUARE,
  cTRIANGLE,bSEVEN EIGHTHS BLOCK,bTHREE EIGHTHS BLOCK,cQUARTERS BLOCK,aLOZENGE,
  bDIVIDED BY HORIZONTAL RULE,aLRE,aLRI,aLRM,aLRO,aLUGGAGE,aLUNGS,aLYING FACE,aMACRON,aMAGE,
  aMAGIC WAND,aMAGNET,aMAHJONG TILE AUTUMN,cBACK,cBAMBOO,cCHRYSANTHEMUM,cEAST WIND,
  cEIGHT OF BAMBOOS,eCHARACTERS,eCIRCLES,cFIVE OF BAMBOOS,eCHARACTERS,eCIRCLES,cFOUR OF BAMBOOS,
  eCHARACTERS,eCIRCLES,cGREEN DRAGON,cJOKER,cNINE OF BAMBOOS,eCHARACTERS,eCIRCLES,cNORTH WIND,
  cONE OF BAMBOOS,eCHARACTERS,eCIRCLES,cORCHID,cPLUM,cRED DRAGON,cSEVEN OF BAMBOOS,eCHARACTERS,
  eCIRCLES,cSIX OF BAMBOOS,eCHARACTERS,eCIRCLES,cSOUTH WIND,cSPRING,cSUMMER,cTHREE OF BAMBOOS,
  eCHARACTERS,eCIRCLES,cTWO OF BAMBOOS,eCHARACTERS,eCIRCLES,cWEST WIND,cWHITE DRAGON,cWINTER,
  aMALE AND FEMALE SIGN,bSIGN,bWITH STROKE AND MALE AND FEMALE SIGN,dSIGN,aMALTESE CROSS,aMAMMOTH,
  aMAN,bAND WOMAN HOLDING HANDS,bDANCING,bIN BUSINESS SUIT LEVITATING,cTUXEDO,bWITH GUA PI MAO,
  cTURBAN,aMANAT SIGN,aMANGO,aMANS SHOE,aMANTELPIECE CLOCK,aMANUAL WHEELCHAIR,
  aMAP SYMBOL FOR LIGHTHOUSE,aMAPLE LEAF,aMARRIAGE SYMBOL,aMARTIAL ARTS UNIFORM,
  aMASCULINE ORDINAL INDICATOR,aMASK WORK SYMBOL,aMASU MARK,aMATE DRINK,
  aMATHEMATICAL FALLING DIAGONAL,bLEFT ANGLE BRACKET,cDOUBLE ANGLE BRACKET,cFLATTENED PARENTHESIS,
  cWHITE SQUARE BRACKET,dTORTOISE SHELL BRACKET,bRIGHT ANGLE BRACKET,cDOUBLE ANGLE BRACKET,
  cFLATTENED PARENTHESIS,cWHITE SQUARE BRACKET,dTORTOISE SHELL BRACKET,bRISING DIAGONAL,aMAXIMIZE,
  aMEASURED ANGLE,cOPENING LEFT,cWITH OPEN ARM ENDING IN ARROW POINTING DOWN AND LEFT,lRIGHT,
  jLEFT AND DOWN,lUP,jRIGHT AND DOWN,lUP,jUP AND LEFT,lRIGHT,bBY,bRIGHT ANGLE WITH DOT,
  aMEAT ON BONE,aMECHANICAL ARM,bLEG,aMEDIEVAL COMMA,bEXCLAMATION MARK,bQUESTION MARK,
  aMEDIUM BLACK CIRCLE,bBOLD WHITE CIRCLE,bEIGHT POINTED BLACK STAR,cSPOKED ASTERISK,
  bFIVE SPOKED ASTERISK,bFLATTENED LEFT PARENTHESIS ORNAMENT,cRIGHT PARENTHESIS ORNAMENT,
  bFOUR POINTED BLACK STAR,dPINWHEEL STAR,bGREEK CROSS,bLEFT CURLY BRACKET ORNAMENT,
  cPARENTHESIS ORNAMENT,bLEFT-POINTING ANGLE BRACKET ORNAMENT,bMATHEMATICAL SPACE,
  bRIGHT CURLY BRACKET ORNAMENT,cPARENTHESIS ORNAMENT,bRIGHT-POINTING ANGLE BRACKET ORNAMENT,
  bSALTIRE,bSHADE,bSIX POINTED BLACK STAR,cSPOKED ASTERISK,bSMALL WHITE CIRCLE,
  bTHREE POINTED BLACK STAR,dPINWHEEL STAR,bVERTICAL BAR,bWHITE CIRCLE,cSQUARE,aMELON,
  aMELTING FACE,aMEMO,aMENORAH WITH NINE BRANCHES,aMENS SYMBOL,aMERCURY,aMERPERSON,
  aMESSAGE WAITING,aMETRICAL BREVE,bLONG OVER SHORT,dTWO SHORTS,bPENTASEME,bSHORT OVER LONG,
  bTETRASEME,bTRISEME,bTWO SHORTS JOINED,dOVER LONG,aMETRO,aMICR DASH SYMBOL,bON US SYMBOL,
  aMICRO SIGN,aMICROBE,aMICROPHONE,aMICROSCOPE,aMIDDLE DOT,aMIDLINE HORIZONTAL ELLIPSIS,
  aMILITARY HELMET,bMEDAL,aMILKY WAY,aMILL SIGN,aMINIBUS,aMINIDISC,aMINIMIZE,aMINUS SIGN,
  cIN TRIANGLE,cWITH COMMA ABOVE,dDOT BELOW,dFALLING DOTS,dRISING DOTS,bTILDE,aMINUS-OR-PLUS SIGN,
  aMINY,aMIRROR,bBALL,aMMSP,aMOBILE PHONE,cOFF,cWITH RIGHTWARDS ARROW AT LEFT,aMODELS,
  aMODERN PENTATHLON,aMODIFIER LETTER ACUTE ACCENT,cAPOSTROPHE,cBEGIN HIGH TONE,dLOW TONE,
  cCENTRED LEFT HALF RING,dRIGHT HALF RING,cCIRCUMFLEX ACCENT,cCROSS ACCENT,cDOUBLE APOSTROPHE,
  dPRIME,cDOWN ARROWHEAD,dTACK,cEND HIGH TONE,dLOW TONE,cEXTRA-HIGH TONE BAR,cEXTRA-LOW TONE BAR,
  cGLOTTAL STOP,cGRAVE ACCENT,cHALF TRIANGULAR COLON,cHIGH TONE BAR,cLEFT ARROWHEAD,dHALF RING,
  cLOW ACUTE ACCENT,dDOWN ARROWHEAD,dGRAVE ACCENT,dLEFT ARROW,eARROWHEAD,dMACRON,dRIGHT ARROWHEAD,
  dRING,dTILDE,dTONE BAR,dUP ARROWHEAD,dVERTICAL LINE,cMACRON,cMID TONE BAR,
  cMIDDLE DOUBLE ACUTE ACCENT,eGRAVE ACCENT,dGRAVE ACCENT,cMINUS SIGN,cOPEN SHELF,cPLUS SIGN,
  cPRIME,cRAISED COLON,cREVERSED COMMA,dGLOTTAL STOP,cRHOTIC HOOK,cRIGHT ARROWHEAD,dHALF RING,
  cSHELF,cSMALL CAPITAL INVERTED R,dGAMMA,dH,eWITH HOOK,dJ,dL,dR,dREVERSED GLOTTAL STOP,dS,
  dTURNED R,fWITH HOOK,dW,dX,dY,cTRIANGULAR COLON,cTURNED COMMA,cUNASPIRATED,cUP ARROWHEAD,dTACK,
  cVERTICAL LINE,cVOICING,cYANG DEPARTING TONE MARK,cYIN DEPARTING TONE MARK,aMODULO TWO SUM,
  aMONEY BAG,bWITH WINGS,aMONEY-MOUTH FACE,aMONKEY,bFACE,aMONOGRAM FOR YANG,cYIN,aMONORAIL,
  aMONOSTABLE SYMBOL,aMOOD BUBBLE,aMOON CAKE,bVIEWING CEREMONY,aMOSQUE,aMOSQUITO,
  aMOTHER CHRISTMAS,aMOTOR BOAT,bSCOOTER,aMOTORIZED WHEELCHAIR,aMOTORWAY,aMOUNT FUJI,aMOUNTAIN,
  bBICYCLIST,bCABLEWAY,bRAILWAY,aMOUSE,bFACE,bTRAP,aMOUTH,aMOVIE CAMERA,aMOYAI,aMUCH GREATER-THAN,
  bLESS-THAN,aMULTIMAP,aMULTIPLE MUSICAL NOTES,aMULTIPLICATION SIGN,cIN DOUBLE CIRCLE,
  dLEFT HALF CIRCLE,dRIGHT HALF CIRCLE,dTRIANGLE,cWITH DOT ABOVE,dUNDERBAR,bX,aMULTISET,
  bMULTIPLICATION,bUNION,aMUSHROOM,aMUSIC FLAT SIGN,bNATURAL SIGN,bSHARP SIGN,aMUSICAL KEYBOARD,
  cWITH JACKS,bNOTE,bSCORE,aMW,aN-ARY CIRCLED DOT OPERATOR,cPLUS OPERATOR,cTIMES OPERATOR,
  bCOPRODUCT,bINTERSECTION,bLOGICAL AND,cOR,bPRODUCT,bSQUARE INTERSECTION OPERATOR,
  cUNION OPERATOR,bSUMMATION,bTIMES OPERATOR,bUNION,cOPERATOR WITH DOT,ePLUS,bWHITE VERTICAL BAR,
  aNABLA,aNAIL POLISH,aNAIRA SIGN,aNAK,aNAME BADGE,aNAND,aNARROW NO-BREAK SPACE,
  aNATIONAL DIGIT SHAPES,bPARK,aNAUSEATED FACE,aNAZAR AMULET,aNBH,aNBSP,aNECKTIE,
  aNEGATED DOUBLE VERTICAL BAR DOUBLE RIGHT TURNSTILE,aNEGATIVE ACKNOWLEDGE,bCIRCLED DIGIT ZERO,
  cLATIN CAPITAL LETTER A,fB,fC,fD,fE,fF,fG,fH,fI,fJ,fK,fL,fM,fN,fO,fP,fQ,fR,fS,fT,fU,fV,fW,fX,fY,
  fZ,cNUMBER EIGHTEEN,dELEVEN,dFIFTEEN,dFOURTEEN,dNINETEEN,dSEVENTEEN,dSIXTEEN,dTHIRTEEN,dTWELVE,
  dTWENTY,cSQUARE,cTRIANGLE,bSQUARED AB,cCROSS MARK,cIC,cLATIN CAPITAL LETTER A,fB,fC,fD,fE,fF,fG,
  fH,fI,fJ,fK,fL,fM,fN,fO,fP,fQ,fR,fS,fT,fU,fV,fW,fX,fY,fZ,cPA,cSA,cWC,
  aNEITHER A SUBSET OF NOR EQUAL TO,cSUPERSET OF NOR EQUAL TO,
  bAPPROXIMATELY NOR ACTUALLY EQUAL TO,bGREATER-THAN NOR EQUAL TO,dEQUIVALENT TO,dLESS-THAN,
  bLESS-THAN NOR EQUAL TO,dEQUIVALENT TO,dGREATER-THAN,aNEL,aNEPTUNE,bFORM TWO,aNERD FACE,aNESSUS,
  aNEST WITH EGGS,aNESTING DOLLS,aNEUTER,aNEUTRAL CHESS BISHOP,dROTATED NINETY DEGREES,
  eTWO HUNDRED SEVENTY DEGREES,cEQUIHOPPER,dROTATED NINETY DEGREES,cKING,dROTATED NINETY DEGREES,
  eTWO HUNDRED SEVENTY DEGREES,cKNIGHT,dROTATED FORTY-FIVE DEGREES,eNINETY DEGREES,
  eONE HUNDRED THIRTY-FIVE DEGREES,eTHREE HUNDRED FIFTEEN DEGREES,eTWO HUNDRED SEVENTY DEGREES,
  gTWENTY-FIVE DEGREES,cPAWN,dROTATED NINETY DEGREES,eTWO HUNDRED SEVENTY DEGREES,cQUEEN,
  dROTATED NINETY DEGREES,eTWO HUNDRED SEVENTY DEGREES,cROOK,dROTATED NINETY DEGREES,
  eTWO HUNDRED SEVENTY DEGREES,cTURNED BISHOP,dKING,dKNIGHT,dPAWN,dQUEEN,dROOK,bFACE,aNEW LINE,
  bMOON SYMBOL,cWITH FACE,bSHEQEL SIGN,aNEWLINE LEFT,bRIGHT,aNEWSPAPER,aNEXT LINE,bPAGE,
  aNIGHT WITH STARS,aNINJA,aNL,aNNBSP,aNO BICYCLES,bBREAK HERE,bENTRY,cSIGN,bMOBILE PHONES,
  bONE UNDER EIGHTEEN SYMBOL,bPEDESTRIANS,bPIRACY,bSMOKING SYMBOL,aNO-BREAK SPACE,
  aNOMINAL DIGIT SHAPES,aNON-BREAKING HYPHEN,aNON-POTABLE WATER SYMBOL,aNONFORKING,aNOR,
  aNORDIC MARK SIGN,aNORMAL SUBGROUP OF,dOR EQUAL TO,aNORTH EAST AND SOUTH WEST ARROW,cARROW,
  dAND SOUTH EAST ARROW,dCROSSING NORTH WEST ARROW,eSOUTH EAST ARROW,dWITH HOOK,cBLACK ARROW,
  cDOUBLE ARROW,cPOINTING BUD,dLEAF,dVINE LEAF,cSANS-SERIF ARROW,cTRIANGLE-HEADED ARROW,eTO BAR,
  cWHITE ARROW,bWEST AND SOUTH EAST ARROW,cARROW,dAND NORTH EAST ARROW,dCROSSING NORTH EAST ARROW,
  dTO CORNER,eLONG BAR,dWITH HOOK,cBLACK ARROW,cDOUBLE ARROW,cPOINTING BUD,dLEAF,dVINE LEAF,
  cSANS-SERIF ARROW,cTRIANGLE-HEADED ARROW,eTO BAR,cWHITE ARROW,aNORTHEAST-POINTING AIRPLANE,
  aNOSE,aNOT A SUBSET OF,cSUPERSET OF,bALMOST EQUAL TO,bAN ELEMENT OF,bASYMPTOTICALLY EQUAL TO,
  bCHECK MARK,bEQUAL TO,bEQUIVALENT TO,bGREATER-THAN,bIDENTICAL TO,bLESS-THAN,bNORMAL SUBGROUP OF,
  eOR EQUAL TO,bPARALLEL TO,bSIGN,bSQUARE IMAGE OF OR EQUAL TO,cORIGINAL OF OR EQUAL TO,bTILDE,
  bTRUE,aNOTCHED LEFT SEMICIRCLE WITH THREE DOTS,bLOWER RIGHT-SHADOWED WHITE RIGHTWARDS ARROW,
  bRIGHT SEMICIRCLE WITH THREE DOTS,bUPPER RIGHT-SHADOWED WHITE RIGHTWARDS ARROW,aNOTE,bPAD,bPAGE,
  aNOTEBOOK,bWITH DECORATIVE COVER,aNUL,aNULL,aNUMBER EIGHTEEN FULL STOP,bELEVEN FULL STOP,
  bFIFTEEN FULL STOP,bFOURTEEN FULL STOP,bNINETEEN FULL STOP,bSEVENTEEN FULL STOP,bSIGN,
  bSIXTEEN FULL STOP,bTEN FULL STOP,bTHIRTEEN FULL STOP,bTWELVE FULL STOP,bTWENTY FULL STOP,
  aNUMERO SIGN,aNUT AND BOLT,aOBLIQUE ANGLE OPENING DOWN,dUP,bHYPHEN,aOBSERVER EYE SYMBOL,
  aOCR AMOUNT OF CHECK,bBELT BUCKLE,bBOW TIE,bBRANCH BANK IDENTIFICATION,bCHAIR,
  bCUSTOMER ACCOUNT NUMBER,bDASH,bDOUBLE BACKSLASH,bFORK,bHOOK,bINVERTED FORK,aOCTAGONAL SIGN,
  aOCTOPUS,aODEN,aOFFICE BUILDING,aOGONEK,aOHM SIGN,aOIL DRUM,aOK HAND SIGN,aOLD KEY,
  bPERSONAL COMPUTER,aOLDER ADULT,bMAN,bWOMAN,aOLIVE,aOM SYMBOL,
  aON WITH EXCLAMATION MARK WITH LEFT RIGHT ARROW ABOVE,aONCOMING AUTOMOBILE,bBUS,bFIRE ENGINE,
  bPOLICE CAR,bTAXI,aONE BUTTON MOUSE,bDOT LEADER,cOVER TWO DOTS PUNCTUATION,aONE-PIECE SWIMSUIT,
  aONION,aOPEN BOOK,bBOX,bCENTRE ASTERISK,cBLACK STAR,cCROSS,cTEARDROP-SPOKED ASTERISK,
  bFILE FOLDER,bFOLDER,bHANDS SIGN,bLOCK,bMAILBOX WITH LOWERED FLAG,dRAISED FLAG,bSUBSET,
  bSUPERSET,aOPEN-CIRCUIT-OUTPUT H-TYPE SYMBOL,bL-TYPE SYMBOL,aOPEN-OUTLINED RIGHTWARDS ARROW,
  aOPERATING SYSTEM COMMAND,aOPHIUCHUS,aOPPOSITION,aOPTICAL DISC,cICON,aOPTION KEY,
  aOR WITH DOT INSIDE,aORANGE BOOK,bHEART,aORANGUTAN,aORIGINAL OF,aORTHODOX CROSS,aOSC,aOTTER,
  aOUNCE SIGN,aOUTBOX TRAY,aOUTLINED BLACK STAR,bGREEK CROSS,bLATIN CROSS,bWHITE STAR,
  aOVERHEATED FACE,aOVERLAP,aOVERLAPPING BLACK SQUARES,bWHITE AND BLACK SQUARES,cSQUARES,
  aOVERLINE,aOWL,aOX,aOYSTER,aPACKAGE,aPAD,aPADDING CHARACTER,aPAGE,bFACING UP,bWITH CIRCLED TEXT,
  cCURL,aPAGER,aPAGES,aPAGODA,aPALLAS,aPALM BRANCH,bDOWN HAND,bTREE,bUP HAND,aPALMS UP TOGETHER,
  aPANCAKES,aPANDA FACE,aPAPERCLIP,aPARACHUTE,aPARAGRAPH SEPARATOR,aPARAGRAPHOS,aPARAGRAPHUS MARK,
  aPARALLEL TO,bWITH HORIZONTAL STROKE,cTILDE OPERATOR,aPARENTHESIZED DIGIT EIGHT,cFIVE,cFOUR,
  cNINE,cONE,cSEVEN,cSIX,cTHREE,cTWO,bLATIN CAPITAL LETTER A,eB,eC,eD,eE,eF,eG,eH,eI,eJ,eK,eL,eM,
  eN,eO,eP,eQ,eR,eS,eT,eU,eV,eW,eX,eY,eZ,cSMALL LETTER A,eB,eC,eD,eE,eF,eG,eH,eI,eJ,eK,eL,eM,eN,
  eO,eP,eQ,eR,eS,eT,eU,eV,eW,eX,eY,eZ,bNUMBER EIGHTEEN,cELEVEN,cFIFTEEN,cFOURTEEN,cNINETEEN,
  cSEVENTEEN,cSIXTEEN,cTEN,cTHIRTEEN,cTWELVE,cTWENTY,aPARROT,aPART ALTERNATION MARK,
  aPARTIAL DIFFERENTIAL,bLINE BACKWARD,cDOWN,cFORWARD,cUP,aPARTIALLY-RECYCLED PAPER SYMBOL,
  aPARTY POPPER,aPASSED SYMBOL,aPASSENGER SHIP,aPASSIVE-PULL-DOWN-OUTPUT SYMBOL,
  aPASSIVE-PULL-UP-OUTPUT SYMBOL,aPASSPORT CONTROL,aPAW PRINTS,aPDF,aPDI,aPEACE SYMBOL,aPEACH,
  aPEACOCK,aPEANUTS,aPEAR,aPEDESTRIAN,aPEN OVER STAMPED ENVELOPE,aPENCIL,aPENGUIN,aPENSIVE FACE,
  aPENTAGRAM,aPEOPLE HUGGING,aPER MILLE SIGN,bSIGN,bTEN THOUSAND SIGN,aPERCENT SIGN,
  aPERFORMING ARTS,aPERMANENT PAPER SIGN,aPERPENDICULAR,bWITH S,aPERSEVERING FACE,
  aPERSON BOWING DEEPLY,bCLIMBING,bDOING CARTWHEEL,bFROWNING,bIN LOTUS POSITION,cSTEAMY ROOM,
  bRAISING BOTH HANDS IN CELEBRATION,bWITH BALL,cBLOND HAIR,cCROWN,cFOLDED HANDS,cHEADSCARF,
  cPOUTING FACE,aPERSONAL COMPUTER,aPERSPECTIVE,aPESETA SIGN,aPESO SIGN,aPETRI DISH,aPHOLUS,aPICK,
  aPICKUP TRUCK,aPIE,aPIG,bFACE,bNOSE,aPILCROW SIGN,aPILE OF POO,aPILL,aPINATA,aPINCHED FINGERS,
  aPINCHING HAND,aPINE DECORATION,aPINEAPPLE,aPINWHEEL STAR,aPISCES,aPISTOL,aPITCHFORK,
  bWITH TEE TOP,aPLACARD,aPLACE OF INTEREST SIGN,cWORSHIP,aPLANCK CONSTANT,cOVER TWO PI,
  aPLAYGROUND SLIDE,aPLAYING CARD ACE OF CLUBS,eDIAMONDS,eHEARTS,eSPADES,cBACK,cBLACK JOKER,
  cEIGHT OF CLUBS,eDIAMONDS,eHEARTS,eSPADES,cFIVE OF CLUBS,eDIAMONDS,eHEARTS,eSPADES,cFOOL,
  cFOUR OF CLUBS,eDIAMONDS,eHEARTS,eSPADES,cJACK OF CLUBS,eDIAMONDS,eHEARTS,eSPADES,
  cKING OF CLUBS,eDIAMONDS,eHEARTS,eSPADES,cKNIGHT OF CLUBS,eDIAMONDS,eHEARTS,eSPADES,
  cNINE OF CLUBS,eDIAMONDS,eHEARTS,eSPADES,cQUEEN OF CLUBS,eDIAMONDS,eHEARTS,eSPADES,cRED JOKER,
  cSEVEN OF CLUBS,eDIAMONDS,eHEARTS,eSPADES,cSIX OF CLUBS,eDIAMONDS,eHEARTS,eSPADES,cTEN OF CLUBS,
  eDIAMONDS,eHEARTS,eSPADES,cTHREE OF CLUBS,eDIAMONDS,eHEARTS,eSPADES,cTRUMP-1,cTRUMP-10,
  cTRUMP-11,cTRUMP-12,cTRUMP-13,cTRUMP-14,cTRUMP-15,cTRUMP-16,cTRUMP-17,cTRUMP-18,cTRUMP-19,
  cTRUMP-2,cTRUMP-20,cTRUMP-21,cTRUMP-3,cTRUMP-4,cTRUMP-5,cTRUMP-6,cTRUMP-7,cTRUMP-8,cTRUMP-9,
  cTWO OF CLUBS,eDIAMONDS,eHEARTS,eSPADES,cWHITE JOKER,aPLD,aPLU,aPLUNGER,aPLUS SIGN,
  cABOVE EQUALS SIGN,cIN LEFT HALF CIRCLE,dRIGHT HALF CIRCLE,dTRIANGLE,cWITH BLACK TRIANGLE,
  dCIRCUMFLEX ACCENT ABOVE,dDOT BELOW,dSMALL CIRCLE ABOVE,dSUBSCRIPT TWO,dTILDE ABOVE,eBELOW,
  aPLUS-MINUS SIGN,aPLUTO,bFORM FIVE,cFOUR,cTHREE,cTWO,aPM,aPOCKET CALCULATOR,aPOLICE CAR,
  bCARS REVOLVING LIGHT,bOFFICER,aPOODLE,aPOP DIRECTIONAL FORMATTING,cISOLATE,aPOPCORN,
  aPORTABLE STEREO,aPOSEIDON,aPOSITION INDICATOR,aPOSTAL HORN,bMARK,cFACE,aPOSTBOX,aPOT OF FOOD,
  aPOTABLE WATER SYMBOL,aPOTATO,aPOTTED PLANT,aPOUCH,aPOULTRY LEG,aPOUND SIGN,aPOURING LIQUID,
  aPOUTING CAT FACE,bFACE,aPOWER ON SYMBOL,bON-OFF SYMBOL,bSLEEP SYMBOL,bSYMBOL,aPRAYER BEADS,
  aPRECEDES,bABOVE ALMOST EQUAL TO,cEQUALS SIGN,cNOT ALMOST EQUAL TO,dEQUAL TO,
  cSINGLE-LINE EQUALS SIGN,dNOT EQUAL TO,bBUT NOT EQUIVALENT TO,bOR EQUAL TO,cEQUIVALENT TO,
  bUNDER RELATION,aPREGNANT MAN,bPERSON,bWOMAN,aPRESCRIPTION TAKE,
  aPRESENTATION FORM FOR VERTICAL COLON,eCOMMA,eEM DASH,eEN DASH,eEXCLAMATION MARK,
  eHORIZONTAL ELLIPSIS,eIDEOGRAPHIC COMMA,fFULL STOP,eLEFT ANGLE BRACKET,
  fBLACK LENTICULAR BRACKET,fCORNER BRACKET,fCURLY BRACKET,fDOUBLE ANGLE BRACKET,fPARENTHESIS,
  fSQUARE BRACKET,fTORTOISE SHELL BRACKET,fWHITE CORNER BRACKET,gLENTICULAR BRACKET,eLOW LINE,
  eQUESTION MARK,eRIGHT ANGLE BRACKET,fBLACK LENTICULAR BRACKET,fCORNER BRACKET,fCURLY BRACKET,
  fDOUBLE ANGLE BRACKET,fPARENTHESIS,fSQUARE BRACKET,fTORTOISE SHELL BRACKET,
  fWHITE CORNER BRACKET,gLENTICULAR BRACKET,hBRAKCET,eSEMICOLON,eTWO DOT LEADER,eWAVY LOW LINE,
  aPRETZEL,aPREVIOUS PAGE,aPRIME,aPRINCE,aPRINCESS,aPRINT SCREEN SYMBOL,aPRINTER,bICON,
  aPRIVACY MESSAGE,aPRIVATE USE ONE,cTWO,bUSE-1,bUSE-2,aPROBING CANE,aPROHIBITED SIGN,aPROJECTIVE,
  aPROPERTY LINE,aPROPORTION,aPROPORTIONAL TO,aPROSERPINA,aPU1,aPU2,aPUBLIC ADDRESS LOUDSPEAKER,
  aPUNCTUATION SPACE,aPUNCTUS ELEVATUS MARK,aPURPLE HEART,aPURSE,aPUSHPIN,
  aPUT LITTER IN ITS PLACE SYMBOL,aQUADRANT LOWER LEFT,cRIGHT,bUPPER LEFT,
  dAND LOWER LEFT AND LOWER RIGHT,fRIGHT,eUPPER RIGHT AND LOWER LEFT,iRIGHT,cRIGHT,
  dAND LOWER LEFT,gAND LOWER RIGHT,aQUADRUPLE INTEGRAL OPERATOR,bPRIME,aQUARTER NOTE,
  aQUATERNION INTEGRAL OPERATOR,aQUESTION EXCLAMATION MARK,bMARK,aQUESTIONED EQUAL TO,aQUINCUNX,
  aQUOTATION MARK,aRABBIT,bFACE,aRACCOON,aRACING CAR,bMOTORCYCLE,aRADICAL SYMBOL BOTTOM,aRADIO,
  bBUTTON,aRADIOACTIVE SIGN,aRAILWAY CAR,bTRACK,aRAIN,aRAINBOW,aRAISED BACK OF HAND,bCOMMA,bDOT,
  bDOTTED INTERPOLATION MARKER,bFIST,bHAND,cWITH FINGERS SPLAYED,
  dPART BETWEEN MIDDLE AND RING FINGERS,bINTERPOLATION MARKER,bMC SIGN,bMD SIGN,bMR SIGN,bSQUARE,
  aRAM,aRAT,aRATIO,aRAZOR,aRECEIPT,aRECORD SEPARATOR,aRECREATIONAL VEHICLE,aRECYCLED PAPER SYMBOL,
  aRECYCLING SYMBOL FOR GENERIC MATERIALS,dTYPE-1 PLASTICS,dTYPE-2 PLASTICS,dTYPE-3 PLASTICS,
  dTYPE-4 PLASTICS,dTYPE-5 PLASTICS,dTYPE-6 PLASTICS,dTYPE-7 PLASTICS,aRED APPLE,bGIFT ENVELOPE,
  aREFERENCE MARK,aREGIONAL INDICATOR SYMBOL LETTER A,eB,eC,eD,eE,eF,eG,eH,eI,eJ,eK,eL,eM,eN,eO,
  eP,eQ,eR,eS,eT,eU,eV,eW,eX,eY,eZ,aREGISTERED SIGN,aRELIEVED FACE,aREMINDER RIBBON,aRESPONSE,
  aRESTRICTED LEFT ENTRY-1,cENTRY-2,aRESTROOM,aRETURN LEFT,bRIGHT,bSYMBOL,aREVERSE CHECKER BOARD,
  bINDEX,bLIGHT FOUR POINTED PINWHEEL STAR,bLINE FEED,bSOLIDUS,cOPERATOR,cPRECEDING SUBSET,
  cWITH HORIZONTAL STROKE,bTILDE OPERATOR ABOVE LEFTWARDS ARROW,eRIGHTWARDS ARROW,aREVERSED ANGLE,
  cWITH UNDERBAR,bCOMMA,bDOUBLE PRIME,dQUOTATION MARK,cSTROKE NOT SIGN,bEMPTY SET,
  bFORKED PARAGRAPHOS,bHAND WITH MIDDLE FINGER EXTENDED,bNOT SIGN,bPILCROW SIGN,bPRIME,
  bQUESTION MARK,bRAISED HAND WITH FINGERS SPLAYED,bRIGHT ANGLE,bROTATED FLORAL HEART BULLET,
  bSANS-SERIF CAPITAL L,bSEMICOLON,bTHUMBS DOWN SIGN,cUP SIGN,bTILDE,cEQUALS,bTRIPLE PRIME,
  bVICTORY HAND,aREVOLVING HEARTS,aRHINOCEROS,aRI,aRIBBON,bARROW DOWN LEFT,dRIGHT,cLEFT DOWN,dUP,
  cRIGHT DOWN,dUP,cUP LEFT,dRIGHT,aRICE BALL,bCRACKER,aRIFLE,aRIGHT ANGER BUBBLE,bANGLE,cBRACKET,
  dWITH DOT,cDOTTED SUBSTITUTION MARKER,cSUBSTITUTION MARKER,cVARIANT WITH SQUARE,cWITH ARC,
  dDOWNWARDS ZIGZAG ARROW,bARC GREATER-THAN BRACKET,bARROW WITH CIRCLED PLUS,dSMALL CIRCLE,
  bBLACK LENTICULAR BRACKET,cTORTOISE SHELL BRACKET,bCEILING,bCORNER BRACKET,bCURLY BRACKET,
  dLOWER HOOK,dMIDDLE PIECE,dUPPER HOOK,bDOTTED SUBSTITUTION BRACKET,bDOUBLE ANGLE BRACKET,
  cARROW WITH ROUNDED HEAD,cPARENTHESIS,cQUOTATION MARK,cWIGGLY FENCE,bFISH TAIL,bFLOOR,
  bHALF BLACK CIRCLE,dSTAR,cBLOCK,bHAND TELEPHONE RECEIVER,bLOW PARAPHRASE BRACKET,
  bNORMAL FACTOR SEMIDIRECT PRODUCT,bONE EIGHTH BLOCK,bOUTER JOIN,bPARENTHESIS,cEXTENSION,
  cLOWER HOOK,cUPPER HOOK,bRAISED OMISSION BRACKET,bS-SHAPED BAG DELIMITER,bSEMIDIRECT PRODUCT,
  bSIDEWAYS U BRACKET,bSINGLE QUOTATION MARK,bSPEAKER,cWITH ONE SOUND WAVE,dTHREE SOUND WAVES,
  bSPEECH BUBBLE,bSQUARE BRACKET,dEXTENSION,dLOWER CORNER,dUPPER CORNER,dWITH DOUBLE STROKE,
  eQUILL,eSTROKE,eTICK IN BOTTOM CORNER,gTOP CORNER,eUNDERBAR,bSUBSTITUTION BRACKET,bTACK,
  bTHOUGHT BUBBLE,bTORTOISE SHELL BRACKET,bTRANSPOSITION BRACKET,bTRIANGLE,cABOVE LEFT TRIANGLE,
  bVERTICAL BAR WITH QUILL,cBOX LINE,bWHITE CORNER BRACKET,cCURLY BRACKET,cLENTICULAR BRACKET,
  cPARENTHESIS,cSQUARE BRACKET,cTORTOISE SHELL BRACKET,bWIGGLY FENCE,aRIGHT-FACING FIST,
  aRIGHT-HANDED INTERLACED PENTAGRAM,aRIGHT-POINTING ANGLE BRACKET,bCURVED ANGLE BRACKET,
  bDOUBLE ANGLE QUOTATION MARK,bMAGNIFYING GLASS,aRIGHT-SHADED WHITE RIGHTWARDS ARROW,
  aRIGHT-SIDE ARC CLOCKWISE ARROW,aRIGHT-TO-LEFT EMBEDDING,bISOLATE,bMARK,bOVERRIDE,
  aRIGHTHAND INTERIOR PRODUCT,aRIGHTWARDS ARROW,cABOVE ALMOST EQUAL TO,dREVERSE ALMOST EQUAL TO,
  eTILDE OPERATOR,dSHORT LEFTWARDS ARROW,dTILDE OPERATOR,cFROM BAR,eTO BLACK DIAMOND,
  cOVER LEFTWARDS ARROW,cTHROUGH GREATER-THAN,dSUPERSET,dX,cTO BAR,dBLACK DIAMOND,
  cWITH CORNER DOWNWARDS,dDOTTED STEM,dDOUBLE VERTICAL STROKE,dEQUILATERAL ARROWHEAD,dHOOK,
  dLARGE TRIANGLE ARROWHEAD,dLOOP,dMEDIUM TRIANGLE ARROWHEAD,dNOTCHED TAIL,dPLUS BELOW,
  dSMALL EQUILATERAL ARROWHEAD,eTRIANGLE ARROWHEAD,dSTROKE,dTAIL,eWITH DOUBLE VERTICAL STROKE,
  fVERTICAL STROKE,dTIP DOWNWARDS,eUPWARDS,dVERTICAL STROKE,bARROW-TAIL,
  bBACK-TILTED SHADOWED WHITE ARROW,bBLACK ARROW,cCIRCLED WHITE ARROW,bBOTTOM SHADED WHITE ARROW,
  bCOMPRESSED ARROW,bDASHED ARROW,bDOUBLE ARROW,dFROM BAR,dWITH STROKE,eVERTICAL STROKE,
  cARROW-TAIL,cDASH ARROW,bFINGER-POST ARROW,bFRONT-TILTED SHADOWED WHITE ARROW,bHAND,
  bHARPOON OVER LEFTWARDS HARPOON,cWITH BARB DOWN ABOVE LEFTWARDS HARPOON WITH BARB DOWN,
  fBELOW LONG DASH,fFROM BAR,fTO BAR,eDOWNWARDS,eUP ABOVE LEFTWARDS HARPOON WITH BARB UP,
  gLONG DASH,gRIGHTWARDS HARPOON WITH BARB DOWN,fFROM BAR,fTO BAR,eUPWARDS,bHEAVY ARROW,
  cCOMPRESSED ARROW,bLEFT-SHADED WHITE ARROW,bOPEN-HEADED ARROW,bPAIRED ARROWS,bQUADRUPLE ARROW,
  bRIGHT-SHADED WHITE ARROW,bROCKET,bSANS-SERIF ARROW,bSQUARED ARROW,bSQUIGGLE ARROW,
  bTOP SHADED WHITE ARROW,bTRIANGLE ARROWHEAD,bTRIANGLE-HEADED ARROW,
  dOVER LEFTWARDS TRIANGLE-HEADED ARROW,dTO BAR,dWITH BOLD SHAFT,eDOUBLE HORIZONTAL STROKE,
  fVERTICAL STROKE,eHEAVY SHAFT,eLONG TIP DOWNWARDS,gUPWARDS,eMEDIUM SHAFT,eNARROW SHAFT,
  eVERY HEAVY SHAFT,cDASHED ARROW,cPAIRED ARROWS,bTRIPLE ARROW,cDASH ARROW,bTWO HEADED ARROW,
  bTWO-HEADED ARROW FROM BAR,dWITH DOUBLE VERTICAL STROKE,eTAIL,fWITH DOUBLE VERTICAL STROKE,
  gVERTICAL STROKE,eTRIANGLE ARROWHEADS,eVERTICAL STROKE,cTRIPLE DASH ARROW,bWAVE ARROW,
  bWHITE ARROW,dFROM WALL,dWITHIN TRIANGLE ARROWHEAD,aRING,bABOVE,bBUOY,bEQUAL TO,bIN EQUAL TO,
  bOPERATOR,bPOINT,aRINGED PLANET,aRINGING BELL,aRISING DIAGONAL CROSSING FALLING DIAGONAL,
  dSOUTH EAST ARROW,aRLE,aRLI,aRLM,aRLO,aROASTED SWEET POTATO,aROBOT FACE,aROCK,aROCKET,
  aROLL OF PAPER,aROLLED-UP NEWSPAPER,aROLLER COASTER,bSKATE,aROLLING ON THE FLOOR LAUGHING,
  aROMAN NUMERAL EIGHT,cELEVEN,cFIFTY,dEARLY FORM,dTHOUSAND,cFIVE,dHUNDRED,dTHOUSAND,cFOUR,cNINE,
  cONE,dHUNDRED,eTHOUSAND,dTHOUSAND,eC D,cREVERSED ONE HUNDRED,cSEVEN,cSIX,dLATE FORM,cTEN,
  dTHOUSAND,cTHREE,cTWELVE,cTWO,aROOSTER,aROSE,aROSETTE,aROTATED CAPITAL Q,bFLORAL HEART BULLET,
  bHEAVY BLACK HEART BULLET,bLIGHT FOUR POINTED BLACK CUSP,bWHITE FOUR POINTED CUSP,
  aROUND PUSHPIN,bTARGET,aROUNDED SYMBOL FOR CAI,dFU,dLU,dSHOU,dSHUANGXI,dXI,aROWBOAT,aRS,
  aRUBLE SIGN,aRUGBY FOOTBALL,aRULE-DELAYED,aRUNNER,aRUNNING SHIRT WITH SASH,aRUPEE SIGN,
  aRUSSIAN ASTROLOGICAL SYMBOL BINOVILE,dNOVILE,dQUINTILE,dSENTAGON,dTREDECILE,dVIGINTILE,
  aS IN TRIANGLE,aSAFETY PIN,bVEST,aSAGITTARIUS,aSAILBOAT,aSAKE BOTTLE AND CUP,aSALT SHAKER,
  aSALTIRE,aSALUTING FACE,aSANDWICH,aSANS-SERIF HEAVY DOUBLE COMMA QUOTATION MARK ORNAMENT,
  dTURNED COMMA QUOTATION MARK ORNAMENT,cLOW DOUBLE COMMA QUOTATION MARK ORNAMENT,
  bINTERROBANG ORNAMENT,aSARI,aSATELLITE,bANTENNA,aSATURN,aSAUROPOD,aSAXOPHONE,aSCALES,aSCARF,
  aSCHOOL,bSATCHEL,aSCI,aSCOOTER,aSCORPION,aSCORPIUS,aSCREEN,aSCREWDRIVER,aSCRIPT CAPITAL B,cE,cF,
  cH,cI,cL,cM,cP,cR,bLIGATURE ET ORNAMENT,bSMALL E,cG,cL,cO,aSCROLL,aSCRUPLE,aSEAL,aSEAT,
  aSECOND PLACE MEDAL,aSECTION SIGN,aSECTOR,aSEDNA,aSEE-NO-EVIL MONKEY,aSEEDLING,aSEGMENT,aSELFIE,
  aSEMICOLON,aSEMIDIRECT PRODUCT WITH BOTTOM CLOSED,aSEMISEXTILE,aSEPARATED SYMBOL,
  aSERIOUS FACE WITH SYMBOLS COVERING MOUTH,aSERVICE MARK,aSESAME DOT,aSESQUIQUADRATE,aSET MINUS,
  bTRANSMIT STATE,aSEWING NEEDLE,aSEXTILE,aSGC,aSHADOWED WHITE CIRCLE,cLATIN CROSS,cSTAR,
  aSHALLOW PAN OF FOOD,aSHAMROCK,aSHARK,aSHAVED ICE,aSHEEP,aSHIELD,aSHIFT IN,bOUT,aSHINTO SHRINE,
  aSHIP,aSHOCKED FACE WITH EXPLODING HEAD,aSHOOTING STAR,aSHOPPING BAGS,bTROLLEY,
  aSHORT BACKSLANTED SOUTH ARROW,bBENT ARROW POINTING DOWNWARDS THEN NORTH EAST,bDOWN TACK,
  dWITH OVERBAR,bLEFT TACK,bRIGHTWARDS ARROW ABOVE LEFTWARDS ARROW,bSLANTED NORTH ARROW,bUP TACK,
  dABOVE SHORT DOWN TACK,dWITH UNDERBAR,aSHORTCAKE,aSHORTS,aSHOULDERED OPEN BOX,aSHOWER,aSHRIMP,
  aSHRUG,aSHUFFLE PRODUCT,aSHY,aSI,aSIDEWAYS BLACK DOWN POINTING INDEX,cLEFT POINTING INDEX,
  cRIGHT POINTING INDEX,cUP POINTING INDEX,bWHITE DOWN POINTING INDEX,cLEFT POINTING INDEX,
  cRIGHT POINTING INDEX,cUP POINTING INDEX,aSIGN OF THE HORNS,aSILHOUETTE OF JAPAN,
  aSIMILAR ABOVE GREATER-THAN ABOVE EQUALS SIGN,cLESS-THAN ABOVE EQUALS SIGN,bMINUS SIMILAR,
  bOR GREATER-THAN,cLESS-THAN,aSINE WAVE,aSINGLE CHARACTER INTRODUCER,
  bGRAPHIC CHARACTER INTRODUCER,bHIGH-REVERSED-9 QUOTATION MARK,
  bLEFT-POINTING ANGLE QUOTATION MARK,bLOW-9 QUOTATION MARK,bRIGHT-POINTING ANGLE QUOTATION MARK,
  bSHIFT THREE,cTWO,aSINGLE-SHIFT-2,aSINGLE-SHIFT-3,aSIX PETALLED BLACK AND WHITE FLORETTE,
  bPOINTED BLACK STAR,cPINWHEEL STAR,cSTAR WITH MIDDLE DOT,aSIX-PER-EM SPACE,
  aSIXTEEN POINTED ASTERISK,aSKATEBOARD,aSKI AND SKI BOOT,aSKIER,aSKULL,bAND CROSSBONES,aSKUNK,
  aSLANTED EQUAL TO OR GREATER-THAN,fWITH DOT INSIDE,eLESS-THAN,fWITH DOT INSIDE,
  bNORTH ARROW WITH HOOKED HEAD,eHORIZONTAL TAIL,aSLED,aSLEEPING ACCOMMODATION,bFACE,bSYMBOL,
  aSLEEPY FACE,aSLEUTH OR SPY,aSLICE OF PIZZA,aSLIGHTLY FROWNING FACE,bSMILING FACE,aSLOPE,
  aSLOPING LARGE AND,cOR,aSLOT MACHINE,aSLOTH,aSMALL AIRPLANE,bAMPERSAND,bASTERISK,bBLUE DIAMOND,
  bCOLON,bCOMMA,bCOMMERCIAL AT,bCONTAINS AS MEMBER,cWITH OVERBAR,
  dVERTICAL BAR AT END OF HORIZONTAL STROKE,bDOLLAR SIGN,bELEMENT OF,dWITH OVERBAR,
  eVERTICAL BAR AT END OF HORIZONTAL STROKE,bEM DASH,bEQUALS SIGN,bEXCLAMATION MARK,bFULL STOP,
  bGREATER-THAN SIGN,bHYPHEN-MINUS,bIDEOGRAPHIC COMMA,bLEFT CURLY BRACKET,cPARENTHESIS,
  cTORTOISE SHELL BRACKET,bLESS-THAN SIGN,bNUMBER SIGN,bORANGE DIAMOND,bPERCENT SIGN,bPLUS SIGN,
  bQUESTION MARK,bREVERSE SOLIDUS,bRIGHT CURLY BRACKET,cPARENTHESIS,cTORTOISE SHELL BRACKET,
  bROMAN NUMERAL EIGHT,dELEVEN,dFIFTY,dFIVE,eHUNDRED,dFOUR,dNINE,dONE,eHUNDRED,eTHOUSAND,dSEVEN,
  dSIX,dTEN,dTHREE,dTWELVE,dTWO,bSEMICOLON,bTILDE,bVEE WITH UNDERBAR,aSMALLER THAN,cOR EQUAL TO,
  aSMASH PRODUCT,aSMILE,aSMILING CAT FACE WITH HEART-SHAPED EYES,eOPEN MOUTH,bFACE WITH HALO,
  dHEART-SHAPED EYES,dHORNS,dOPEN MOUTH,fAND COLD SWEAT,gSMILING EYES,gTIGHTLY-CLOSED EYES,
  dSMILING EYES,fAND HAND COVERING MOUTH,gTHREE HEARTS,dSUNGLASSES,dTEAR,aSMIRKING FACE,
  aSMOKING SYMBOL,aSNAIL,aSNAKE,aSNEEZING FACE,aSNOW CAPPED MOUNTAIN,aSNOWBOARDER,aSNOWFLAKE,
  aSNOWMAN,bWITHOUT SNOW,aSO,aSOCCER BALL,aSOCKS,aSOFT HYPHEN,bICE CREAM,bSHELL FLOPPY DISK,
  aSOFTBALL,aSOFTWARE-FUNCTION SYMBOL,aSOH,aSOLID QUILT SQUARE ORNAMENT,eIN BLACK SQUARE,aSOLIDUS,
  bWITH OVERBAR,aSOM SIGN,aSOON WITH RIGHTWARDS ARROW ABOVE,aSOS,aSOUND RECORDING COPYRIGHT,
  aSOUTH EAST ARROW,dAND SOUTH WEST ARROW,dCROSSING NORTH EAST ARROW,dTO CORNER,dWITH HOOK,
  cBLACK ARROW,cDOUBLE ARROW,cPOINTING BUD,dLEAF,dVINE LEAF,cSANS-SERIF ARROW,
  cTRIANGLE-HEADED ARROW,eTO BAR,cWHITE ARROW,bWEST ARROW,dAND NORTH WEST ARROW,dWITH HOOK,
  cBLACK ARROW,cDOUBLE ARROW,cPOINTING BUD,dLEAF,dVINE LEAF,cSANS-SERIF ARROW,
  cTRIANGLE-HEADED ARROW,eTO BAR,cWHITE ARROW,aSP,aSPA,aSPACE,aSPAGHETTI,aSPARKLE,aSPARKLES,
  aSPARKLING HEART,aSPEAK-NO-EVIL MONKEY,aSPEAKER,bWITH CANCELLATION STROKE,cONE SOUND WAVE,
  cTHREE SOUND WAVES,aSPEAKING HEAD IN SILHOUETTE,aSPEECH BALLOON,aSPEEDBOAT,aSPESMILO SIGN,
  aSPHERICAL ANGLE,cOPENING LEFT,dUP,aSPIDER,bWEB,aSPIRAL CALENDAR PAD,bNOTE PAD,bSHELL,
  aSPLASHING SWEAT SYMBOL,aSPONGE,aSPOOL OF THREAD,aSPOON,aSPORTS MEDAL,aSPOUTING WHALE,
  aSQUARE CAP,bCUP,bDJ,bFOOT,bFOUR CORNERS,bHIRAGANA HOKA,bIMAGE OF,dOR EQUAL TO,eNOT EQUAL TO,
  bLEFT OPEN BOX OPERATOR,bLOZENGE,bORIGINAL OF,dOR EQUAL TO,eNOT EQUAL TO,bPOSITION INDICATOR,
  bRIGHT OPEN BOX OPERATOR,bROOT,bTARGET,bWITH BOTTOM HALF BLACK,cCONTOURED OUTLINE,
  cDIAGONAL CROSSHATCH FILL,cHORIZONTAL FILL,cLEFT HALF BLACK,cLOWER LEFT DIAGONAL HALF BLACK,
  dRIGHT DIAGONAL HALF BLACK,cORTHOGONAL CROSSHATCH FILL,cRIGHT HALF BLACK,cTOP HALF BLACK,
  cUPPER LEFT DIAGONAL HALF BLACK,eTO LOWER RIGHT FILL,dRIGHT DIAGONAL HALF BLACK,
  eTO LOWER LEFT FILL,cVERTICAL FILL,aSQUARED ASTERISK,bCJK UNIFIED IDEOGRAPH-4E00,
  dIDEOGRAPH-4E09,dIDEOGRAPH-4E2D,dIDEOGRAPH-4E8C,dIDEOGRAPH-4EA4,dIDEOGRAPH-518D,dIDEOGRAPH-521D,
  dIDEOGRAPH-524D,dIDEOGRAPH-5272,dIDEOGRAPH-53CC,dIDEOGRAPH-53F3,dIDEOGRAPH-5408,dIDEOGRAPH-5439,
  dIDEOGRAPH-55B6,dIDEOGRAPH-58F0,dIDEOGRAPH-591A,dIDEOGRAPH-5929,dIDEOGRAPH-5B57,dIDEOGRAPH-5DE6,
  dIDEOGRAPH-5F8C,dIDEOGRAPH-624B,dIDEOGRAPH-6253,dIDEOGRAPH-6295,dIDEOGRAPH-6307,dIDEOGRAPH-6355,
  dIDEOGRAPH-6599,dIDEOGRAPH-65B0,dIDEOGRAPH-6620,dIDEOGRAPH-6708,dIDEOGRAPH-6709,dIDEOGRAPH-6E80,
  dIDEOGRAPH-6F14,dIDEOGRAPH-7121,dIDEOGRAPH-751F,dIDEOGRAPH-7533,dIDEOGRAPH-7981,dIDEOGRAPH-7A7A,
  dIDEOGRAPH-7D42,dIDEOGRAPH-89E3,dIDEOGRAPH-8CA9,dIDEOGRAPH-8D70,dIDEOGRAPH-904A,dIDEOGRAPH-914D,
  bCL,bCOOL,bDOT OPERATOR,bEIGHT K,bFALLING DIAGONAL SLASH,bFIVE POINT ONE,bFOUR DOT PUNCTUATION,
  cK,bFREE,bHC,bHDR,bHI-RES,bHV,bID,bKATAKANA DE,cKOKO,cSA,bKEY,bLATIN CAPITAL LETTER A,eB,eC,eD,
  eE,eF,eG,eH,eI,eJ,eK,eL,eM,eN,eO,eP,eQ,eR,eS,eT,eU,eV,eW,eX,eY,eZ,cSMALL LETTER D,bLOGICAL AND,
  cOR,bLOSSLESS,bMINUS,bMV,bNEW,bNG,bOK,bONE HUNDRED TWENTY P,bPLUS,bPPV,bRISING DIAGONAL SLASH,
  bSALTIRE,bSD,bSECOND SCREEN,bSEVEN POINT ONE,bSHV,bSIXTY P,bSMALL CIRCLE,bSOS,bSQUARE,bSS,
  bTHREE D,bTIMES,bTWENTY-TWO POINT TWO,bTWO K,bUHD,bUP WITH EXCLAMATION MARK,bVOD,bVS,bWC,
  aSQUAT BLACK RIGHTWARDS ARROW,aSQUID,aSS2,aSS3,aSSA,aST,aSTADIUM,aSTAFF OF AESCULAPIUS,cHERMES,
  aSTAMPED ENVELOPE,aSTANDING PERSON,aSTAR AND CRESCENT,bEQUALS,bOF DAVID,bOPERATOR,
  bWITH LEFT HALF BLACK,cRIGHT HALF BLACK,aSTART OF GUARDED AREA,cHEADING,cPROTECTED AREA,
  cSELECTED AREA,cSTRING,cTEXT,aSTATION,aSTATUE OF LIBERTY,aSTEAM LOCOMOTIVE,aSTEAMING BOWL,
  aSTENOGRAPHIC FULL STOP,aSTETHOSCOPE,aSTOCK CHART,aSTOPWATCH,aSTRAIGHT RULER,aSTRAIGHTNESS,
  aSTRAWBERRY,aSTRESS OUTLINED WHITE STAR,aSTRICTLY EQUIVALENT TO,aSTRING TERMINATOR,aSTS,
  aSTUDIO MICROPHONE,aSTUFFED FLATBREAD,aSTUPA,aSTX,aSUB,aSUBSCRIPT EIGHT,bEQUALS SIGN,bFIVE,
  bFOUR,bLEFT PARENTHESIS,bMINUS,bNINE,bONE,bPLUS SIGN,bRIGHT PARENTHESIS,bSEVEN,bSIX,bTHREE,bTWO,
  bZERO,aSUBSET ABOVE RIGHTWARDS ARROW,cSUBSET,cSUPERSET,bOF,cABOVE ALMOST EQUAL TO,dEQUALS SIGN,
  dNOT EQUAL TO,dTILDE OPERATOR,cOR EQUAL TO,fWITH DOT ABOVE,cWITH NOT EQUAL TO,bWITH DOT,
  cMULTIPLICATION SIGN BELOW,cPLUS SIGN BELOW,aSUBSTITUTE,aSUCCEEDS,bABOVE ALMOST EQUAL TO,
  cEQUALS SIGN,cNOT ALMOST EQUAL TO,dEQUAL TO,cSINGLE-LINE EQUALS SIGN,dNOT EQUAL TO,
  bBUT NOT EQUIVALENT TO,bOR EQUAL TO,cEQUIVALENT TO,bUNDER RELATION,aSUMMATION BOTTOM,bTOP,
  bWITH INTEGRAL,aSUN,bBEHIND CLOUD,bWITH FACE,aSUNFLOWER,aSUNRISE,bOVER MOUNTAINS,
  aSUNSET OVER BUILDINGS,aSUPERHERO,aSUPERSCRIPT EIGHT,bEQUALS SIGN,bFIVE,bFOUR,
  bLATIN SMALL LETTER I,eN,bLEFT PARENTHESIS,bMINUS,bNINE,bONE,bPLUS SIGN,bRIGHT PARENTHESIS,
  bSEVEN,bSIX,bTHREE,bTWO,bZERO,aSUPERSET ABOVE LEFTWARDS ARROW,cSUBSET,cSUPERSET,
  bBESIDE AND JOINED BY DASH WITH SUBSET,cSUBSET,bOF,cABOVE ALMOST EQUAL TO,dEQUALS SIGN,
  dNOT EQUAL TO,dTILDE OPERATOR,cOR EQUAL TO,fWITH DOT ABOVE,cWITH NOT EQUAL TO,
  bPRECEDING SOLIDUS,bWITH DOT,cMULTIPLICATION SIGN BELOW,cPLUS SIGN BELOW,aSUPERVILLAIN,
  aSURFACE INTEGRAL,aSURFER,aSUSHI,aSUSPENSION RAILWAY,aSWAN,aSWASH AMPERSAND ORNAMENT,aSWIMMER,
  aSWUNG DASH,aSYMBOL FOR ACKNOWLEDGE,cBACKSPACE,cBELL,cCANCEL,cCARRIAGE RETURN,cDATA LINK ESCAPE,
  cDELETE,dFORM TWO,cDEVICE CONTROL FOUR,eONE,eTHREE,eTWO,cEND OF MEDIUM,eTEXT,eTRANSMISSION,
  fBLOCK,cENQUIRY,cESCAPE,cFILE SEPARATOR,cFORM FEED,cGROUP SEPARATOR,cHORIZONTAL TABULATION,
  cLINE FEED,cMARKS CHAPTER,cNEGATIVE ACKNOWLEDGE,cNEWLINE,cNULL,cRECORD SEPARATOR,
  cSAMARITAN SOURCE,cSHIFT IN,dOUT,cSPACE,cSTART OF HEADING,eTEXT,cSUBSTITUTE,dFORM TWO,
  cSYNCHRONOUS IDLE,cTYPE A ELECTRONICS,cUNIT SEPARATOR,cVERTICAL TABULATION,aSYMMETRY,aSYN,
  aSYNAGOGUE,aSYNCHRONOUS IDLE,aSYRINGE,aT-REX,aT-SHIRT,aTAB,aTABLE TENNIS PADDLE AND BALL,aTACO,
  aTAKEOUT BOX,aTAMALE,aTANABATA TREE,aTANGERINE,aTAPE CARTRIDGE,bDRIVE,aTAURUS,aTAXI,
  aTEACUP WITHOUT HANDLE,aTEAPOT,aTEAR-OFF CALENDAR,aTEARDROP-BARBED RIGHTWARDS ARROW,
  aTEARDROP-SPOKED ASTERISK,aTEDDY BEAR,aTELEPHONE LOCATION SIGN,bON TOP OF MODEM,bRECEIVER,
  cWITH PAGE,bRECORDER,bSIGN,aTELESCOPE,aTELEVISION,aTENGE SIGN,aTENNIS RACQUET AND BALL,aTENT,
  aTEST TUBE,aTHERE DOES NOT EXIST,bEXISTS,aTHEREFORE,aTHERMODYNAMIC,aTHERMOMETER,
  aTHIN GREEK CROSS,bSALTIRE,bSPACE,aTHINKING FACE,aTHIRD PLACE MEDAL,aTHONG SANDAL,
  aTHOUGHT BALLOON,aTHREE BUTTON MOUSE,bCONSECUTIVE EQUALS SIGNS,bDIMENSIONAL ANGLE,
  bDOT PUNCTUATION,bLEFTWARDS ARROWS,bLINES CONVERGING LEFT,dRIGHT,bNETWORKED COMPUTERS,
  bPOINTED BLACK STAR,bRAYS ABOVE,cBELOW,cLEFT,cRIGHT,bRIGHTWARDS ARROWS,bSPEECH BUBBLES,
  aTHREE-D BOTTOM-LIGHTED RIGHTWARDS ARROWHEAD,bLEFT-LIGHTED DOWNWARDS EQUILATERAL ARROWHEAD,
  bRIGHT-LIGHTED UPWARDS EQUILATERAL ARROWHEAD,bTOP-LIGHTED LEFTWARDS EQUILATERAL ARROWHEAD,
  cRIGHTWARDS ARROWHEAD,dEQUILATERAL ARROWHEAD,aTHREE-EM DASH,aTHREE-PER-EM SPACE,
  aTHUMBS DOWN SIGN,bUP SIGN,aTHUNDER CLOUD AND RAIN,aTHUNDERSTORM,aTICKET,aTIE OVER INFINITY,
  aTIGER,bFACE,aTIGHT TRIFOLIATE SNOWFLAKE,aTILDE,bOPERATOR,cABOVE LEFTWARDS ARROW,
  dRIGHTWARDS ARROW,cWITH DOT ABOVE,dRISING DOTS,bWITH DOT ABOVE,dBELOW,cRING ABOVE,aTIMER CLOCK,
  aTIMES WITH LEFT HALF BLACK,cRIGHT HALF BLACK,aTINY,aTIRED FACE,aTIRONIAN SIGN CAPITAL ET,cET,
  aTOILET,aTOKYO TOWER,aTOMATO,aTONGUE,aTOOLBOX,aTOOTH,aTOOTHBRUSH,aTOP ARC ANTICLOCKWISE ARROW,
  eWITH PLUS,cCLOCKWISE ARROW WITH MINUS,bCURLY BRACKET,bHALF BLACK CIRCLE,cINTEGRAL,
  cLEFT PARENTHESIS,cRIGHT PARENTHESIS,cSECTION SIGN,bHAT,bLEFT CORNER,cCROP,cHALF BRACKET,
  bPARENTHESIS,bRIGHT CORNER,cCROP,cHALF BRACKET,bSQUARE BRACKET,bTORTOISE SHELL BRACKET,
  bWITH UPWARDS ARROW ABOVE,aTORTOISE SHELL BRACKETED CJK UNIFIED IDEOGRAPH-4E09,fIDEOGRAPH-4E8C,
  fIDEOGRAPH-52DD,fIDEOGRAPH-5B89,fIDEOGRAPH-6253,fIDEOGRAPH-6557,fIDEOGRAPH-672C,fIDEOGRAPH-70B9,
  fIDEOGRAPH-76D7,dLATIN CAPITAL LETTER S,aTOTAL RUNOUT,aTRACKBALL,aTRACTOR,aTRADE MARK SIGN,
  aTRAIN,aTRAM,bCAR,aTRANSPLUTO,aTRANSVERSAL INTERSECTION,aTRIANGLE WITH DOT ABOVE,
  cROUNDED CORNERS,cSERIFS AT BOTTOM,cUNDERBAR,aTRIANGLE-HEADED RIGHTWARDS ARROW,
  aTRIANGULAR BULLET,bFLAG ON POST,bRULER,aTRICOLON,aTRIDENT EMBLEM,aTRIGRAM FOR EARTH,cFIRE,
  cHEAVEN,cLAKE,cMOUNTAIN,cTHUNDER,cWATER,cWIND,aTRIPLE COLON OPERATOR,bDAGGER,
  bHORIZONTAL BAR WITH DOUBLE VERTICAL STROKE,eTRIPLE VERTICAL STROKE,bINTEGRAL,
  bNESTED GREATER-THAN,cLESS-THAN,bPLUS,bPRIME,bSOLIDUS BINARY RELATION,bTILDE,
  bVERTICAL BAR BINARY RELATION,dDELIMITER,dRIGHT TURNSTILE,dWITH HORIZONTAL STROKE,aTROLL,
  aTROLLEYBUS,aTROPHY,aTROPICAL DRINK,bFISH,aTRUE,bLIGHT MOON ARTA,aTRUMPET,aTUGRIK SIGN,aTULIP,
  aTUMBLER GLASS,aTURKEY,aTURKISH LIRA SIGN,aTURNED AMPERSAND,bANGLE,bBLACK PENTAGON,cSHOGI PIECE,
  bCAPITAL F,bCOMMA,bDAGGER,bDIGIT THREE,cTWO,bGREEK SMALL LETTER IOTA,bNORTH EAST POINTING LEAF,
  cWEST POINTING LEAF,bNOT SIGN,bOK HAND SIGN,bSANS-SERIF CAPITAL G,dL,dY,bSEMICOLON,bSMALL F,
  bSOUTH EAST POINTING LEAF,cWEST POINTING LEAF,bWHITE SHOGI PIECE,aTURTLE,
  aTWELVE POINTED BLACK STAR,aTWISTED RIGHTWARDS ARROWS,aTWO ASTERISKS ALIGNED VERTICALLY,
  bBUTTON MOUSE,bCONSECUTIVE EQUALS SIGNS,bDOT LEADER,cPUNCTUATION,bDOTS OVER ONE DOT PUNCTUATION,
  bHEARTS,bINTERSECTING LOGICAL AND,dOR,bJOINED SQUARES,bLOGICAL AND OPERATOR,cOR OPERATOR,
  bMEN HOLDING HANDS,bSPEECH BUBBLES,bWOMEN HOLDING HANDS,aTWO-EM DASH,aUMBRELLA,bON GROUND,
  bWITH RAIN DROPS,aUNAMUSED FACE,aUNCERTAINTY SIGN,aUNDERTIE,aUNDO SYMBOL,aUNICORN FACE,aUNION,
  bABOVE BAR ABOVE INTERSECTION,cINTERSECTION,bBESIDE AND JOINED WITH UNION,bWITH LOGICAL OR,
  cMINUS SIGN,cOVERBAR,aUNIT SEPARATOR,aUNITED SYMBOL,aUNIVERSAL RECYCLING SYMBOL,
  aUNMARRIED PARTNERSHIP SYMBOL,aUP ARROW THROUGH CIRCLE,bARROWHEAD,cBETWEEN TWO HORIZONTAL BARS,
  cIN A RECTANGLE BOX,bBARB LEFT DOWN BARB LEFT HARPOON,fRIGHT HARPOON,
  cRIGHT DOWN BARB LEFT HARPOON,fRIGHT HARPOON,bDOWN ARROW,dWITH BASE,cBLACK ARROW,cDOUBLE ARROW,
  cSANS-SERIF ARROW,cTRIANGLE-HEADED ARROW,cWHITE ARROW,bFISH TAIL,bRIGHT DIAGONAL ELLIPSIS,bTACK,
  cWITH CIRCLE ABOVE,aUP-POINTING AIRPLANE,bMILITARY AIRPLANE,bRED TRIANGLE,bSMALL AIRPLANE,
  cRED TRIANGLE,bTRIANGLE WITH LEFT HALF BLACK,dRIGHT HALF BLACK,aUPPER BLADE SCISSORS,
  bHALF BLOCK,cCIRCLE,cINVERSE WHITE CIRCLE,bLEFT CORNER WITH DOT,
  cOR LOWER RIGHT CURLY BRACKET SECTION,cQUADRANT CIRCULAR ARC,cTRIANGLE,bONE EIGHTH BLOCK,
  bRIGHT DROP-SHADOWED WHITE SQUARE,cOR LOWER LEFT CURLY BRACKET SECTION,cPENCIL,
  cQUADRANT CIRCULAR ARC,cSHADOWED WHITE CIRCLE,eSQUARE,cTRIANGLE,aUPSIDE-DOWN FACE,
  aUPWARDS ANCORA,bARROW,cFROM BAR,cLEFTWARDS OF DOWNWARDS ARROW,cTO BAR,cWITH DOUBLE STROKE,
  dEQUILATERAL ARROWHEAD,dHORIZONTAL STROKE,dLARGE TRIANGLE ARROWHEAD,dMEDIUM TRIANGLE ARROWHEAD,
  dNOTCHED TAIL,dSMALL EQUILATERAL ARROWHEAD,eTRIANGLE ARROWHEAD,dTIP LEFTWARDS,eRIGHTWARDS,
  bBLACK ARROW,cCIRCLED WHITE ARROW,bCOMPRESSED ARROW,bDASHED ARROW,bDOUBLE ARROW,
  bFINGER-POST ARROW,bHARPOON WITH BARB LEFT BESIDE DOWNWARDS HARPOON WITH BARB RIGHT,
  gUPWARDS HARPOON WITH BARB RIGHT,fFROM BAR,fTO BAR,eLEFTWARDS,eRIGHT FROM BAR,fTO BAR,
  eRIGHTWARDS,bHEAVY ARROW,cCOMPRESSED ARROW,bPAIRED ARROWS,bQUADRUPLE ARROW,bROCKET,
  bSANS-SERIF ARROW,bSQUARED ARROW,bTRIANGLE ARROWHEAD,bTRIANGLE-HEADED ARROW,
  dLEFTWARDS OF DOWNWARDS TRIANGLE-HEADED ARROW,dTO BAR,dWITH BOLD SHAFT,
  eDOUBLE HORIZONTAL STROKE,eHEAVY SHAFT,eLONG TIP LEFTWARDS,gRIGHTWARDS,eMEDIUM SHAFT,
  eNARROW SHAFT,eVERY HEAVY SHAFT,cDASHED ARROW,cPAIRED ARROWS,bTRIPLE ARROW,bTWO HEADED ARROW,
  bTWO-HEADED ARROW FROM SMALL CIRCLE,dWITH TRIANGLE ARROWHEADS,bWHITE ARROW,dFROM BAR,
  fWITH HORIZONTAL BAR,dON PEDESTAL,fWITH HORIZONTAL BAR,gVERTICAL BAR,dWITHIN TRIANGLE ARROWHEAD,
  cDOUBLE ARROW,eON PEDESTAL,aURANUS,aUS,aVAMPIRE,aVARIATION SELECTOR-1,bSELECTOR-10,bSELECTOR-11,
  bSELECTOR-12,bSELECTOR-13,bSELECTOR-14,bSELECTOR-15,bSELECTOR-16,bSELECTOR-2,bSELECTOR-3,
  bSELECTOR-4,bSELECTOR-5,bSELECTOR-6,bSELECTOR-7,bSELECTOR-8,bSELECTOR-9,
  aVECTOR OR CROSS PRODUCT,aVERSICLE,aVERTICAL BAR BESIDE RIGHT TRIANGLE,cDOUBLE LEFT TURNSTILE,
  cTRIPLE RIGHT TURNSTILE,cWITH HORIZONTAL STROKE,bELLIPSIS,bFOUR DOTS,
  bIDEOGRAPHIC ITERATION MARK,bKANA REPEAT MARK,eLOWER HALF,eUPPER HALF,dWITH VOICED SOUND MARK,
  hUPPER HALF,bLINE,cEXTENSION,cWITH CIRCLE ABOVE,eBELOW,dMIDDLE DOT,bMALE WITH STROKE SIGN,
  bSIX DOTS,bTAB KEY,bTABULATION,cSET,bTILDE,bTRAFFIC LIGHT,bZIGZAG LINE,aVERY BOLD GREEK CROSS,
  bHEAVY EIGHT POINTED BLACK STAR,dSPOKED ASTERISK,cFIVE SPOKED ASTERISK,cGREEK CROSS,
  cREVERSE SOLIDUS,cSALTIRE,cSIX SPOKED ASTERISK,cSOLIDUS,cWHITE CIRCLE,dSQUARE,
  bMUCH GREATER-THAN,cLESS-THAN,aVESTA,aVIBRATION MODE,aVICTORY HAND,aVIDEO CAMERA,bGAME,
  aVIDEOCASSETTE,aVIEWDATA SQUARE,aVIOLIN,aVIRGO,aVOLCANO,aVOLLEYBALL,aVOLUME INTEGRAL,aVS1,aVS10,
  aVS11,aVS12,aVS13,aVS14,aVS15,aVS16,aVS2,aVS3,aVS4,aVS5,aVS6,aVS7,aVS8,aVS9,aVT,aVTS,aVULCANUS,
  aVULGAR FRACTION FIVE EIGHTHS,dSIXTHS,cFOUR FIFTHS,cONE EIGHTH,dFIFTH,dHALF,dNINTH,dQUARTER,
  dSEVENTH,dSIXTH,dTENTH,dTHIRD,cSEVEN EIGHTHS,cTHREE EIGHTHS,dFIFTHS,dQUARTERS,cTWO FIFTHS,
  dTHIRDS,cZERO THIRDS,aWAFFLE,aWANING CRESCENT MOON SYMBOL,bGIBBOUS MOON SYMBOL,aWARNING SIGN,
  aWASTEBASKET,aWATCH,aWATER BUFFALO,bCLOSET,bPOLO,bWAVE,aWATERMELON,
  aWAVE ARROW POINTING DIRECTLY LEFT,eRIGHT,bDASH,aWAVING BLACK FLAG,bHAND SIGN,bWHITE FLAG,
  aWAVY DASH,bLINE,bLOW LINE,bOVERLINE,aWAXING CRESCENT MOON SYMBOL,bGIBBOUS MOON SYMBOL,
  aWEARY CAT FACE,bFACE,aWEDDING,aWEDGE-TAILED RIGHTWARDS ARROW,aWEIERSTRASS ELLIPTIC FUNCTION,
  aWEIGHT LIFTER,aWEST SYRIAC CROSS,aWHALE,aWHEEL,bOF DHARMA,aWHEELCHAIR SYMBOL,
  aWHITE ARROW SHAFT WIDTH ONE,eTWO THIRDS,bBULLET,bCHESS BISHOP,dROTATED NINETY DEGREES,
  eTWO HUNDRED SEVENTY DEGREES,cEQUIHOPPER,dROTATED NINETY DEGREES,cKING,dROTATED NINETY DEGREES,
  eTWO HUNDRED SEVENTY DEGREES,cKNIGHT,dROTATED FORTY-FIVE DEGREES,eNINETY DEGREES,
  eONE HUNDRED THIRTY-FIVE DEGREES,eTHREE HUNDRED FIFTEEN DEGREES,eTWO HUNDRED SEVENTY DEGREES,
  gTWENTY-FIVE DEGREES,cKNIGHT-BISHOP,cKNIGHT-QUEEN,cKNIGHT-ROOK,cPAWN,dROTATED NINETY DEGREES,
  eTWO HUNDRED SEVENTY DEGREES,cQUEEN,dROTATED NINETY DEGREES,eTWO HUNDRED SEVENTY DEGREES,cROOK,
  dROTATED NINETY DEGREES,eTWO HUNDRED SEVENTY DEGREES,cTURNED BISHOP,dKING,dKNIGHT,dPAWN,dQUEEN,
  dROOK,bCIRCLE,cCONTAINING BLACK SMALL CIRCLE,cWITH DOT RIGHT,dDOWN ARROW,dLOWER LEFT QUADRANT,
  eRIGHT QUADRANT,dTWO DOTS,dUPPER LEFT QUADRANT,eRIGHT QUADRANT,bCLUB SUIT,
  bCONCAVE-SIDED DIAMOND,dWITH LEFTWARDS TICK,eRIGHTWARDS TICK,bDIAMOND,
  cCONTAINING BLACK MEDIUM DIAMOND,eSMALL DIAMOND,eVERY SMALL DIAMOND,cIN SQUARE,cSUIT,
  cWITH CENTRED DOT,bDOWN POINTING BACKHAND INDEX,dINDEX,dLEFT HAND INDEX,
  bDOWN-POINTING SMALL TRIANGLE,cTRIANGLE,bDRAUGHTS KING,cMAN,bEXCLAMATION MARK ORNAMENT,bFLAG,
  cWITH HORIZONTAL MIDDLE BLACK STRIPE,bFLORETTE,bFLOWER,bFOUR POINTED CUSP,dSTAR,bFROWNING FACE,
  bHARD SHELL FLOPPY DISK,bHEART,cSUIT,bHEAVY CHECK MARK,bHEXAGON,bHORIZONTAL ELLIPSE,bHOURGLASS,
  bLARGE SQUARE,bLATIN CROSS,bLEFT LANE MERGE,cPOINTING BACKHAND INDEX,dINDEX,
  bLEFT-POINTING POINTER,cSMALL TRIANGLE,cTRIANGLE,bLOZENGE CONTAINING BLACK SMALL LOZENGE,
  bMEDIUM DIAMOND,cLOZENGE,cSMALL SQUARE,cSQUARE,cSTAR,bMOON SELENA,bNIB,bPARALLELOGRAM,bPENNANT,
  bPENTAGON,bQUESTION MARK ORNAMENT,bRECTANGLE,bRIGHT POINTING BACKHAND INDEX,dINDEX,
  bRIGHT-POINTING PENTAGON,cPOINTER,cSMALL TRIANGLE,cTRIANGLE,bSCISSORS,bSESAME DOT,bSHOGI PIECE,
  bSMALL LOZENGE,cSQUARE,cSTAR,bSMILING FACE,bSPADE SUIT,bSQUARE,cBUTTON,
  cCONTAINING BLACK MEDIUM SQUARE,eSMALL SQUARE,eVERY SMALL SQUARE,cWITH CENTRE VERTICAL LINE,
  dLEFTWARDS TICK,dLOWER LEFT QUADRANT,eRIGHT QUADRANT,dRIGHTWARDS TICK,dROUNDED CORNERS,
  dUPPER LEFT QUADRANT,eRIGHT QUADRANT,dVERTICAL BISECTING LINE,bSTAR,bSUN,cBEHIND CLOUD,
  eWITH RAIN,cWITH RAYS,dSMALL CLOUD,bTELEPHONE,bTOUCHTONE TELEPHONE,bTRAPEZIUM,
  bTRIANGLE CONTAINING SMALL WHITE TRIANGLE,bTWO-WAY LEFT WAY TRAFFIC,bUP POINTING BACKHAND INDEX,
  dINDEX,bUP-POINTING SMALL TRIANGLE,cTRIANGLE,dWITH DOT,bVERTICAL BAR,cELLIPSE,cRECTANGLE,
  bVERY SMALL SQUARE,aWHITE-FEATHERED RIGHTWARDS ARROW,aWIDE-HEADED DOWNWARDS BARB ARROW,
  cHEAVY BARB ARROW,cLIGHT BARB ARROW,cMEDIUM BARB ARROW,cVERY HEAVY BARB ARROW,
  bLEFTWARDS BARB ARROW,cHEAVY BARB ARROW,cLIGHT BARB ARROW,cMEDIUM BARB ARROW,
  cVERY HEAVY BARB ARROW,bNORTH EAST BARB ARROW,dHEAVY BARB ARROW,dLIGHT BARB ARROW,
  dMEDIUM BARB ARROW,dVERY HEAVY BARB ARROW,cWEST BARB ARROW,dHEAVY BARB ARROW,dLIGHT BARB ARROW,
  dMEDIUM BARB ARROW,dVERY HEAVY BARB ARROW,bRIGHTWARDS BARB ARROW,cHEAVY BARB ARROW,
  cLIGHT BARB ARROW,cMEDIUM BARB ARROW,cVERY HEAVY BARB ARROW,bSOUTH EAST BARB ARROW,
  dHEAVY BARB ARROW,dLIGHT BARB ARROW,dMEDIUM BARB ARROW,dVERY HEAVY BARB ARROW,cWEST BARB ARROW,
  dHEAVY BARB ARROW,dLIGHT BARB ARROW,dMEDIUM BARB ARROW,dVERY HEAVY BARB ARROW,
  bUPWARDS BARB ARROW,cHEAVY BARB ARROW,cLIGHT BARB ARROW,cMEDIUM BARB ARROW,
  cVERY HEAVY BARB ARROW,aWIGGLY VERTICAL LINE,aWILTED FLOWER,aWIND BLOWING FACE,bCHIME,aWINDOW,
  aWINE GLASS,aWINKING FACE,aWIRED KEYBOARD,aWJ,aWOLF FACE,aWOMAN,bWITH BUNNY EARS,aWOMANS BOOTS,
  bCLOTHES,bHAT,bSANDAL,aWOMENS SYMBOL,aWON SIGN,aWOOD,aWORD JOINER,bSEPARATOR MIDDLE DOT,
  aWORLD MAP,aWORM,aWORRIED FACE,aWRAPPED PRESENT,aWREATH PRODUCT,aWRENCH,aWRESTLERS,
  aWRITING HAND,aX IN A RECTANGLE BOX,aX-RAY,aXIANGQI BLACK CANNON,cCHARIOT,cELEPHANT,cGENERAL,
  cHORSE,cMANDARIN,cSOLDIER,bRED CANNON,cCHARIOT,cELEPHANT,cGENERAL,cHORSE,cMANDARIN,cSOLDIER,
  aXOR,aYAWNING FACE,aYELLOW HEART,aYEN SIGN,aYIN YANG,aYO-YO,aZ NOTATION BAG MEMBERSHIP,
  cDOMAIN ANTIRESTRICTION,cLEFT BINDING BRACKET,dIMAGE BRACKET,cRANGE ANTIRESTRICTION,
  cRELATIONAL COMPOSITION,cRIGHT BINDING BRACKET,dIMAGE BRACKET,cSCHEMA COMPOSITION,dPIPING,
  dPROJECTION,cSPOT,cTYPE COLON,aZEBRA FACE,aZERO WIDTH JOINER,cNON-JOINER,cSPACE,aZEUS,
  aZIPPER-MOUTH FACE,aZOMBIE,aZWJ,aZWNBSP,aZWNJ,aZWSP"

end ContactFlow.Text.CharacterName
